import WiFiNINA.SpiDrv

/-!
# server_drv.c

The requests about sockets.  An argument whose address goes into a parameter array
is an automatic variable, with its bytes in the order of the target.
-/

namespace WiFiNINA

open SpiDrv

namespace ServerDrv

/-- The functions that return the byte of an accepted reply, and `WL_FAILURE` if the
reply is not accepted. -/
def requestByte (cmd numParam : UInt8) (inParams : List TParam) : Prog Bus ℤ := do
  let data ← Bus.auto .data [0]
  let reply ← exchange cmd numParam inParams 16 [(⟨1, data⟩ : TParam)] 1
  let bytes ← Bus.loadList data 1
  pure (if reply.ret = 0 then wlFailure else ofLe bytes)

/-- `ServerDrv_startServer` -/
def startServer (port : UInt16) (sock protMode : UInt8) : Prog Bus ℤ := do
  let port ← Bus.auto .port (le16 port)
  let sock ← Bus.auto .sock [sock]
  let protMode ← Bus.auto .protMode [protMode]
  requestByte startServerTcpCmd 3 [⟨2, port⟩, ⟨1, sock⟩, ⟨1, protMode⟩]

/-- `ServerDrv_startServerIpAddress` -/
def startServerIpAddress (ipAddress : UInt32) (port : UInt16) (sock protMode : UInt8) :
    Prog Bus ℤ := do
  let ipAddress ← Bus.auto .ipAddr (le32 ipAddress)
  let port ← Bus.auto .port (le16 port)
  let sock ← Bus.auto .sock [sock]
  let protMode ← Bus.auto .protMode [protMode]
  requestByte startServerTcpCmd 4 [⟨4, ipAddress⟩, ⟨2, port⟩, ⟨1, sock⟩, ⟨1, protMode⟩]

/-- `ServerDrv_startClient` -/
def startClient (ipAddress : UInt32) (port : UInt16) (sock protMode : UInt8) :
    Prog Bus ℤ := do
  let ipAddress ← Bus.auto .ipAddr (le32 ipAddress)
  let port ← Bus.auto .port (le16 port)
  let sock ← Bus.auto .sock [sock]
  let protMode ← Bus.auto .protMode [protMode]
  requestByte startClientTcpCmd 4 [⟨4, ipAddress⟩, ⟨2, port⟩, ⟨1, sock⟩, ⟨1, protMode⟩]

/-- `ServerDrv_startClientHostname` -/
def startClientHostname (host : Ptr Obj) (hostLen : UInt8) (ipAddress : UInt32) (port : UInt16)
    (sock protMode : UInt8) : Prog Bus ℤ := do
  let ipAddress ← Bus.auto .ipAddr (le32 ipAddress)
  let port ← Bus.auto .port (le16 port)
  let sock ← Bus.auto .sock [sock]
  let protMode ← Bus.auto .protMode [protMode]
  requestByte startClientTcpCmd 5
    [⟨hostLen, host⟩, ⟨4, ipAddress⟩, ⟨2, port⟩, ⟨1, sock⟩, ⟨1, protMode⟩]

/-- `ServerDrv_stopClient` -/
def stopClient (sock : UInt8) : Prog Bus ℤ := do
  let sock ← Bus.auto .sock [sock]
  requestByte stopClientTcpCmd 1 [⟨1, sock⟩]

/-- `ServerDrv_getServerState` -/
def getServerState (sock : UInt8) : Prog Bus ℤ := do
  let sock ← Bus.auto .sock [sock]
  requestByte getStateTcpCmd 1 [⟨1, sock⟩]

/-- `ServerDrv_getClientState` -/
def getClientState (sock : UInt8) : Prog Bus ℤ := do
  let sock ← Bus.auto .sock [sock]
  requestByte getClientStateTcpCmd 1 [⟨1, sock⟩]

/-- `ServerDrv_availData`: the reply's bytes are returned whether or not it is accepted. -/
def availData (sock : UInt8) : Prog Bus ℤ := do
  let data ← Bus.auto .data (le16 0)
  let sock ← Bus.auto .sock [sock]
  let _ ← exchange availDataTcpCmd 1 [(⟨1, sock⟩ : TParam)] 20 [(⟨2, data⟩ : TParam)] 1
  let bytes ← Bus.loadList data 2
  pure (ofLe bytes)

/-- `ServerDrv_getData`: one parameter is announced, and the reply goes to the pointer
`data` itself instead of to what it points to. -/
def getData (sock : UInt8) (_data : Ptr Obj) (peek : UInt8) : Prog Bus ℤ := do
  let sock ← Bus.auto .sock [sock]
  let peek ← Bus.auto .peek [peek]
  let reply ← exchange getDataTcpCmd 1 [(⟨1, sock⟩ : TParam), ⟨1, peek⟩] wifiSocketBufferSize
    [(⟨255, ⟨.auto .dataPtr 4, 0⟩⟩ : TParam)] 1
  pure (reply.lenAt 0)

/-- `ServerDrv_getDataBuf`: the size of the buffer is read through `dataLen`, and the
length of what arrived is returned. -/
def getDataBuf (sock : UInt8) (data dataLen : Ptr Obj) : Prog Bus ℤ := do
  let sock ← Bus.auto .sock [sock]
  let size ← Bus.loadList dataLen 2
  let reply ← exchange getDatabufTcpCmd 2 [(⟨1, sock⟩ : TDataParam), ⟨2, dataLen⟩]
    wifiSocketBufferSize [(⟨UInt16.ofNat (ofLe size), data⟩ : TDataParam)] 1
  pure (reply.lenAt 0)

/-- `ServerDrv_insertDataBuf` -/
def insertDataBuf (sock : UInt8) (data : Ptr Obj) (len : UInt16) : Prog Bus ℤ := do
  let response ← Bus.auto .response (le16 0)
  let sock ← Bus.auto .sock [sock]
  let reply ← exchange insertDatabufCmd 2 [(⟨1, sock⟩ : TDataParam), ⟨len, data⟩] 20
    [(⟨2, response⟩ : TDataParam)] 1
  let bytes ← Bus.loadList response 2
  pure (if reply.lenAt 0 = 0 then 0 else truth (bytes == le16 1))

/-- `ServerDrv_sendUdpData` -/
def sendUdpData (sock : UInt8) : Prog Bus ℤ := do
  let response ← Bus.auto .response [0]
  let sock ← Bus.auto .sock [sock]
  let reply ← exchange sendDataUdpCmd 1 [(⟨1, sock⟩ : TParam)] 20 [(⟨1, response⟩ : TParam)] 1
  let bytes ← Bus.loadList response 1
  pure (if reply.lenAt 0 = 0 then 0 else truth (bytes == [1]))

/-- `ServerDrv_sendData` -/
def sendData (sock : UInt8) (data : Ptr Obj) (len : UInt16) : Prog Bus ℤ := do
  let response ← Bus.auto .response [0]
  let sock ← Bus.auto .sock [sock]
  let _ ← exchange sendDataTcpCmd 2 [(⟨1, sock⟩ : TDataParam), ⟨len, data⟩] 20
    [(⟨1, response⟩ : TParam)] 1
  let bytes ← Bus.loadList response 1
  pure (ofLe bytes)

/-- The polling loop of `ServerDrv_checkDataSent`, with the polls left before its timeout.
The parameter array is not renewed between the polls. -/
def pollDataSent (sock response : Ptr Obj) : ℕ → List TParam → Prog Bus ℤ
  | 0, _ => pure 0
  | left + 1, outParams => do
      let reply ← exchange dataSentTcpCmd 1 [(⟨1, sock⟩ : TParam)] 20 outParams 1
      let bytes ← Bus.loadList response 1
      if ofLe bytes ≠ 0 then pure 1 else pollDataSent sock response left reply.params

theorem pollDataSent_zero (sock response : Ptr Obj) (outParams : List TParam) :
    pollDataSent sock response 0 outParams = pure 0 := by rfl

theorem pollDataSent_step (sock response : Ptr Obj) (left : ℕ) (outParams : List TParam) :
    pollDataSent sock response (left + 1) outParams = (do
      let reply ← exchange dataSentTcpCmd 1 [(⟨1, sock⟩ : TParam)] 20 outParams 1
      let bytes ← Bus.loadList response 1
      if ofLe bytes ≠ 0 then pure 1 else pollDataSent sock response left reply.params) := by
  rfl

/-- `ServerDrv_checkDataSent` -/
def checkDataSent (sock : UInt8) : Prog Bus ℤ := do
  let response ← Bus.auto .response [0]
  let sock ← Bus.auto .sock [sock]
  pollDataSent sock response 25 [⟨1, response⟩]

/-- `ServerDrv_getSocket` -/
def getSocket : Prog Bus ℤ := do
  let response ← Bus.auto .response [0]
  let _ ← exchange getSocketCmd 0 ([] : List TParam) 20 [(⟨1, response⟩ : TParam)] 1
  let bytes ← Bus.loadList response 1
  pure (ofLe bytes)

end ServerDrv
end WiFiNINA
