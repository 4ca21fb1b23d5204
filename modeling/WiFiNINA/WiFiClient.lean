import WiFiNINA.WiFi
import WiFiNINA.WiFiSocketBuffer

/-!
# WiFiClient.c

The calls on a connection, over the socket buffers and the server driver.
-/

namespace WiFiNINA

open World

namespace WiFiClient

/-- `WiFiClient_available` -/
def available (sock : UInt8) : Prog World ℤ :=
  if sock = noSocketAvail then pure 0 else WiFiSocketBuffer.available sock.toNat

/-- `WiFiClient_readChar`: the local `ch` is uninitialised until it is read into. -/
def readChar (sock : UInt8) : Prog World ℤ := do
  let avail ← available sock
  if avail = 0 then pure (-1) else do
    let _ ← WiFiSocketBuffer.read sock.toNat ⟨.auto .ch 1, 0⟩ 1
    let ch ← onBus (Bus.uninit .ch 1)
    pure (ofLe ch)

/-- `WiFiClient_read` -/
def read (sock : UInt8) (buf : Ptr Obj) (size : UInt32) : Prog World ℤ :=
  WiFiSocketBuffer.read sock.toNat buf size

/-- `WiFiClient_peek` -/
def peek (sock : UInt8) : Prog World ℤ := WiFiSocketBuffer.peek sock.toNat

/-- `WiFiClient_write`: the size is passed on as sixteen bits. -/
def write (sock : UInt8) (buf : Ptr Obj) (size : UInt32) : Prog World ℤ :=
  if sock = noSocketAvail ∨ size = 0 then pure 0 else do
    let written ← onBus (ServerDrv.sendData sock buf size.toUInt16)
    if written = 0 then pure 0 else do
      let sent ← onBus (ServerDrv.checkDataSent sock)
      if sent = 0 then pure 0 else pure written

/-- `WiFiClient_writeChar` -/
def writeChar (sock ch : UInt8) : Prog World ℤ := do
  let ch ← onBus (Bus.auto .ch [ch])
  write sock ch 1

/-- `WiFiClient_flush` -/
def flush (_sock : UInt8) : Prog World Unit := pure ()

/-- `WiFiClient_status` -/
def status (sock : UInt8) : Prog World ℤ :=
  if sock = noSocketAvail then pure tcpClosed.toNat else onBus (ServerDrv.getClientState sock)

/-- The states of a connection that is not up. -/
def down (s : UInt8) : Bool :=
  s == tcpListen || s == tcpClosed || s == tcpFinWait1 || s == tcpFinWait2 || s == tcpTimeWait ||
    s == tcpSynSent || s == tcpSynRcvd || s == tcpCloseWait

/-- `WiFiClient_connected` -/
def connected (sock : UInt8) : Prog World ℤ :=
  if sock = noSocketAvail then pure 0 else do
    let avail ← available sock
    if avail ≠ 0 then pure 1 else do
      let s ← status sock
      if down (toByte s) then do
        WiFiSocketBuffer.close sock.toNat
        pure 0
      else pure 1

/-- The waiting loop of `WiFiClient_stop`, with the polls left. -/
def awaitClosed (sock : UInt8) : ℕ → Prog World Unit
  | 0 => pure ()
  | polls + 1 => do
      let s ← status sock
      if s ≠ tcpClosed.toNat then awaitClosed sock polls else pure ()

/-- `WiFiClient_stop` -/
def stop (sock : UInt8) : Prog World Unit :=
  if sock = noSocketAvail then pure () else do
    let _ ← onBus (ServerDrv.stopClient sock)
    awaitClosed sock 50
    WiFiSocketBuffer.close sock.toNat

/-- The waiting loop of `WiFiClient_connectCommon`, for at most `fuel` rounds: whether it
has ended by then. -/
def awaitConnection (sock : UInt8) (start : UInt32) : ℕ → Prog World Bool
  | 0 => pure false
  | fuel + 1 => do
      let up ← connected sock
      if up ≠ 0 then pure true else do
        let now ← tickCount
        let timeout ← pdMsToTicks 10000
        if now - start < timeout then awaitConnection sock start fuel else pure true

/-- `WiFiClient_connectCommon`, if its loop ends within `fuel` rounds. -/
def connectCommon (fuel : ℕ) (sock : UInt8) : Prog World (Option ℤ) := do
  let start ← tickCount
  let ended ← awaitConnection sock start fuel
  if ended then do
    let up ← connected sock
    pure (some (if up = 0 then noSocketAvail.toNat else sock.toNat))
  else pure none

/-- `WiFiClient_connect` and `WiFiClient_connectSSL`, which differ in the protocol, if they
return within `fuel` rounds of their loop. -/
def connectProtocol (protMode : UInt8) (fuel : ℕ) (ip : UInt32) (port : UInt16) :
    Prog World (Option ℤ) := do
  let got ← onBus ServerDrv.getSocket
  let sock := toByte got
  if sock = noSocketAvail then pure (some sock.toNat) else do
    let _ ← onBus (ServerDrv.startClient ip port sock protMode)
    connectCommon fuel sock

/-- `WiFiClient_connect` -/
def connect (fuel : ℕ) (ip : UInt32) (port : UInt16) : Prog World (Option ℤ) :=
  connectProtocol tcpMode fuel ip port

/-- `WiFiClient_connectSSL` -/
def connectSSL (fuel : ℕ) (ip : UInt32) (port : UInt16) : Prog World (Option ℤ) :=
  connectProtocol tlsMode fuel ip port

/-- `WiFiClient_connectHostname`: `remote_addr` is uninitialised. -/
def connectHostname (fuel : ℕ) (host : Ptr Obj) (port : UInt16) : Prog World (Option ℤ) := do
  let remoteAddr : Ptr Obj := ⟨.auto .remoteAddr 4, 0⟩
  let found ← onBus (WiFi.hostByName host remoteAddr)
  if found ≠ 0 then do
    let ip ← onBus (Bus.loadList remoteAddr 4)
    connect fuel (UInt32.ofNat (ofLe ip)) port
  else pure (some 0)

/-- `WiFiClient_connectSSLHostname`, if it returns within `fuel` rounds of its loop. -/
def connectSSLHostname (fuel : ℕ) (host : Ptr Obj) (port : UInt16) :
    Prog World (Option ℤ) := do
  let got ← onBus ServerDrv.getSocket
  let sock := toByte got
  if sock = noSocketAvail then pure (some sock.toNat) else do
    let len ← onBus (Bus.strlen host)
    let _ ← onBus (ServerDrv.startClientHostname host (UInt8.ofNat len) 0 port sock tlsMode)
    connectCommon fuel sock

/-- `WiFiClient_remoteIP` -/
def remoteIP (sock : UInt8) : Prog World ℕ := do
  let ip ← onBus (Bus.auto .ipAddr (le32 0))
  let port ← onBus (Bus.auto .port (le16 0))
  let _ ← onBus (WiFiDrv.getRemoteData sock ip port)
  let bytes ← onBus (Bus.loadList ip 4)
  pure (ofLe bytes)

/-- `WiFiClient_remotePort` -/
def remotePort (sock : UInt8) : Prog World ℕ := do
  let ip ← onBus (Bus.auto .ipAddr (le32 0))
  let port ← onBus (Bus.auto .port (le16 0))
  let _ ← onBus (WiFiDrv.getRemoteData sock ip port)
  let bytes ← onBus (Bus.loadList port 2)
  pure (ofLe bytes)

end WiFiClient
end WiFiNINA
