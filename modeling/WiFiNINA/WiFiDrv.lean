import WiFiNINA.ServerDrv

/-!
# wifi_drv.c

The requests about the network, the access point, the name service and the pins.
Apart from the command and its arguments most of them differ only in what they do
with the reply, so there is one definition for each way of doing it.
-/

namespace WiFiNINA

open SpiDrv

/-- `memset(p, 0, n)` -/
def Bus.clear (p : Ptr Obj) (n : ℕ) : Prog Bus Unit := storeList p (List.replicate n 0)

/-- `WiFiDrv__networkSsid[i]` -/
def networkSsidRow (i : ℕ) : Ptr Obj := Global.networkSsid.ptr.add (i * wlSsidMaxLength)

namespace WiFiDrv

/-- The functions that return the byte of an accepted reply and `WL_FAILURE` otherwise, like
`ServerDrv.requestByte`, but with a window and a capacity of their own. -/
def requestData (cmd numParam : UInt8) (inParams : List TParam) (maxSize : UInt16)
    (capacity : UInt8) : Prog Bus ℤ := do
  let data ← Bus.auto .data [0]
  let reply ← exchange cmd numParam inParams maxSize [(⟨capacity, data⟩ : TParam)] 1
  let bytes ← Bus.loadList data 1
  pure (if reply.ret = 0 then wlFailure else ofLe bytes)

/-- The functions that return a variable whether or not the reply is accepted. -/
def requestVar (cmd numParam : UInt8) (inParams : List TParam) (maxSize : UInt16)
    (capacity : UInt8) (var : Var) (init : List UInt8) : Prog Bus (List UInt8) := do
  let data ← Bus.auto var init
  let _ ← exchange cmd numParam inParams maxSize [(⟨capacity, data⟩ : TParam)] 1
  Bus.loadList data init.length

/-- The functions that have the reply stored at a place that outlives the call. -/
def requestAt (cmd numParam : UInt8) (inParams : List TParam) (maxSize : UInt16)
    (capacity : ℕ) (place : Ptr Obj) : Prog Bus (Ptr Obj) := do
  let _ ← exchange cmd numParam inParams maxSize [(⟨UInt8.ofNat capacity, place⟩ : TParam)] 1
  pure place

/-! ## Network data -/

/-- `WiFiDrv_getNetworkData` -/
def getNetworkData (ip mask gwip : Ptr Obj) : Prog Bus ℤ := do
  let dummy ← Bus.auto .dummy [dummyData]
  let reply ← exchange getIpaddrCmd 1 [(⟨1, dummy⟩ : TParam)] 24
    [(⟨4, ip⟩ : TParam), ⟨4, mask⟩, ⟨4, gwip⟩] 3
  pure reply.ret

/-- `WiFiDrv_getRemoteData` -/
def getRemoteData (sock : UInt8) (ip port : Ptr Obj) : Prog Bus ℤ := do
  let sock ← Bus.auto .sock [sock]
  let reply ← exchange getRemoteDataCmd 1 [(⟨1, sock⟩ : TParam)] 24
    [(⟨4, ip⟩ : TParam), ⟨2, port⟩] 2
  pure reply.ret

/-- `WiFiDrv_wifiDriverInit` -/
def wifiDriverInit : Prog Bus Unit := SpiDrv.begin

/-- `WiFiDrv_wifiDriverDeinit` -/
def wifiDriverDeinit : Prog Bus Unit := SpiDrv.end'

/-- `WiFiDrv_wifiSetNetwork` -/
def wifiSetNetwork (ssid : Ptr Obj) (ssidLen : UInt8) : Prog Bus ℤ := do
  let data ← Bus.auto .data [0]
  let reply ← exchange setNetCmd 1 [(⟨ssidLen, ssid⟩ : TParam)] 16 [(⟨1, data⟩ : TParam)] 1
  let bytes ← Bus.loadList data 1
  pure (if reply.ret = 0 then wlFailure
    else if bytes = [wifiSpiAck] then wlSuccess else wlFailure)

/-- `WiFiDrv_wifiSetPassphrase` -/
def wifiSetPassphrase (ssid : Ptr Obj) (ssidLen : UInt8) (passphrase : Ptr Obj) (len : UInt8) :
    Prog Bus ℤ :=
  ServerDrv.requestByte setPassphraseCmd 2 [⟨ssidLen, ssid⟩, ⟨len, passphrase⟩]

/-- `WiFiDrv_wifiSetKey` -/
def wifiSetKey (ssid : Ptr Obj) (ssidLen keyIdx : UInt8) (key : Ptr Obj) (len : UInt8) :
    Prog Bus ℤ := do
  let keyIdx ← Bus.auto .keyIdx [keyIdx]
  ServerDrv.requestByte setKeyCmd 3 [⟨ssidLen, ssid⟩, ⟨1, keyIdx⟩, ⟨len, key⟩]

/-- `WiFiDrv_config` -/
def config (validParams : UInt8) (localIp gateway subnet : UInt32) : Prog Bus ℤ := do
  let validParams ← Bus.auto .validParams [validParams]
  let localIp ← Bus.auto .localIp (le32 localIp)
  let gateway ← Bus.auto .gateway (le32 gateway)
  let subnet ← Bus.auto .subnet (le32 subnet)
  ServerDrv.requestByte setIpConfigCmd 4
    [⟨1, validParams⟩, ⟨4, localIp⟩, ⟨4, gateway⟩, ⟨4, subnet⟩]

/-- `WiFiDrv_setDNS` -/
def setDNS (validParams : UInt8) (dnsServer1 dnsServer2 : UInt32) : Prog Bus ℤ := do
  let validParams ← Bus.auto .validParams [validParams]
  let dnsServer1 ← Bus.auto .dnsServer1 (le32 dnsServer1)
  let dnsServer2 ← Bus.auto .dnsServer2 (le32 dnsServer2)
  ServerDrv.requestByte setDnsConfigCmd 3 [⟨1, validParams⟩, ⟨4, dnsServer1⟩, ⟨4, dnsServer2⟩]

/-- `WiFiDrv_setHostname`: the length byte takes what it can of the string's length. -/
def setHostname (hostname : Ptr Obj) : Prog Bus ℤ := do
  let len ← Bus.strlen hostname
  ServerDrv.requestByte setHostnameCmd 1 [⟨UInt8.ofNat len, hostname⟩]

/-- `WiFiDrv_disconnect` -/
def disconnect : Prog Bus ℤ := do
  let dummy ← Bus.auto .dummy [dummyData]
  let bytes ← requestVar disconnectCmd 1 [⟨1, dummy⟩] 16 1 .data [0]
  pure (ofLe bytes)

/-- `WiFiDrv_getConnectionStatus`: the status is a signed byte, and -1 without a reply. -/
def getConnectionStatus : Prog Bus ℤ := do
  let data ← Bus.auto .data [0xFF]
  let _ ← exchange getConnStatusCmd 0 ([] : List TParam) 16 [(⟨1, data⟩ : TParam)] 1
  let bytes ← Bus.loadList data 1
  pure (Int.bmod (ofLe bytes) 256)

/-- `WiFiDrv_getMacAddress` -/
def getMacAddress : Prog Bus (Ptr Obj) := do
  let dummy ← Bus.auto .dummy [dummyData]
  requestAt getMacaddrCmd 1 [⟨1, dummy⟩] 32 wlMacAddrLength Global.mac.ptr

/-- What `WiFiDrv_getIpAddress`, `WiFiDrv_getSubnetMask` and `WiFiDrv_getGatewayIP` do: all
three values are refreshed, and one of them is copied to the caller. -/
def refreshNetworkData (var : Global) (dest : Ptr Obj) : Prog Bus ℤ := do
  let ret ← getNetworkData Global.localIp.ptr Global.subnetMask.ptr Global.gatewayIp.ptr
  let bytes ← Bus.loadList var.ptr 4
  Bus.storeList dest bytes
  pure ret

/-- `WiFiDrv_getIpAddress` -/
def getIpAddress (ip : Ptr Obj) : Prog Bus ℤ := refreshNetworkData .localIp ip

/-- `WiFiDrv_getSubnetMask` -/
def getSubnetMask (mask : Ptr Obj) : Prog Bus ℤ := refreshNetworkData .subnetMask mask

/-- `WiFiDrv_getGatewayIP` -/
def getGatewayIP (ip : Ptr Obj) : Prog Bus ℤ := refreshNetworkData .gatewayIp ip

/-- `WiFiDrv_getCurrentSSID`: the array is cleared between the request and the reply. -/
def getCurrentSSID : Prog Bus (Ptr Obj) := do
  let dummy ← Bus.auto .dummy [dummyData]
  sendCmd getCurrSsidCmd 1 [⟨1, dummy⟩]
  Bus.clear Global.ssid.ptr wlSsidMaxLength
  let paramsRead ← Bus.uninit .paramsRead 1
  let _ ← receiveResponseCmd getCurrSsidCmd 48 (paramsRead.headD 0)
    [⟨UInt8.ofNat wlSsidMaxLength, Global.ssid.ptr⟩] 1
  pure Global.ssid.ptr

/-- `WiFiDrv_getCurrentBSSID` -/
def getCurrentBSSID : Prog Bus (Ptr Obj) := do
  let dummy ← Bus.auto .dummy [dummyData]
  requestAt getCurrBssidCmd 1 [⟨1, dummy⟩] 32 wlMacAddrLength Global.bssid.ptr

/-- `WiFiDrv_getCurrentRSSI`: `rssi` is uninitialised. -/
def getCurrentRSSI : Prog Bus ℤ := do
  let dummy ← Bus.auto .dummy [dummyData]
  let rssi : Ptr Obj := ⟨.auto .rssi 4, 0⟩
  let _ ← exchange getCurrRssiCmd 1 [(⟨1, dummy⟩ : TParam)] 20 [(⟨4, rssi⟩ : TParam)] 1
  let bytes ← Bus.loadList rssi 4
  pure (Int.bmod (ofLe bytes) (2 ^ 32))

/-- `WiFiDrv_getCurrentEncryptionType` -/
def getCurrentEncryptionType : Prog Bus ℤ := do
  let dummy ← Bus.auto .dummy [dummyData]
  let bytes ← requestVar getCurrEnctCmd 1 [⟨1, dummy⟩] 20 1 .encType [0]
  pure (ofLe bytes)

/-! ## Scanning -/

/-- `WiFiDrv_startScanNetworks` -/
def startScanNetworks : Prog Bus ℤ := do
  let data ← Bus.auto .data [0]
  let reply ← exchange WiFiNINA.startScanNetworks 0 ([] : List TParam) 16
    [(⟨1, data⟩ : TParam)] 1
  let bytes ← Bus.loadList data 1
  pure (if reply.ret = 0 then wlFailure
    else if Int.bmod (ofLe bytes) 256 = wlFailure then wlFailure else wlSuccess)

/-- The parameter array of `WiFiDrv_getScanNetworks`: one row for each network. -/
def scanParams : List TParam :=
  (List.range wlNetworksListMaxnum).map fun i => ⟨UInt8.ofNat wlSsidMaxLength, networkSsidRow i⟩

/-- `WiFiDrv_getScanNetworks`: the rows are cleared between the request and the reply. -/
def getScanNetworks : Prog Bus ℤ := do
  sendCmd scanNetworks 0 []
  Bus.clear Global.networkSsid.ptr Global.networkSsid.size
  let paramsRead ← Bus.uninit .paramsRead 1
  let reply ← receiveResponseCmd scanNetworks wifiSocketBufferSize (paramsRead.headD 0)
    scanParams (UInt8.ofNat wlNetworksListMaxnum)
  pure reply.numParamRead.toNat

/-- Whether a network item is beyond the list. -/
def outOfList (networkItem : UInt8) : Bool := wlNetworksListMaxnum ≤ networkItem.toNat

theorem outOfList_iff {networkItem : UInt8} :
    outOfList networkItem = true ↔ ¬ networkItem.toNat < wlNetworksListMaxnum := by
  simp [outOfList]

/-- `WiFiDrv_getSSIDNetworks` -/
def getSSIDNetworks (networkItem : UInt8) : Prog Bus (Ptr Obj) :=
  pure (if outOfList networkItem then nullPtr else networkSsidRow networkItem.toNat)

/-- `WiFiDrv_getEncTypeNetworks` -/
def getEncTypeNetworks (networkItem : UInt8) : Prog Bus ℤ := do
  let item ← Bus.auto .networkItem [networkItem]
  if outOfList networkItem then pure encTypeUnknown else do
    let bytes ← requestVar getIdxEnctCmd 1 [⟨1, item⟩] 20 1 .encType [0]
    pure (ofLe bytes)

/-- `WiFiDrv_getBSSIDNetworks` -/
def getBSSIDNetworks (networkItem : UInt8) (bssid : Ptr Obj) : Prog Bus (Ptr Obj) := do
  let item ← Bus.auto .networkItem [networkItem]
  if outOfList networkItem then pure nullPtr
  else requestAt getIdxBssid 1 [⟨1, item⟩] 32 wlMacAddrLength bssid

/-- `WiFiDrv_getChannelNetworks` -/
def getChannelNetworks (networkItem : UInt8) : Prog Bus ℤ := do
  let item ← Bus.auto .networkItem [networkItem]
  if outOfList networkItem then pure 0 else do
    let bytes ← requestVar getIdxChannelCmd 1 [⟨1, item⟩] 20 1 .channel [0]
    pure (ofLe bytes)

/-- `WiFiDrv_getRSSINetworks`: the reply is awaited under the command of
`WiFiDrv_getChannelNetworks`. -/
def getRSSINetworks (networkItem : UInt8) : Prog Bus ℤ := do
  let rssi ← Bus.auto .rssi (le32 0)
  let item ← Bus.auto .networkItem [networkItem]
  if outOfList networkItem then pure 0 else do
    sendCmd getIdxRssiCmd 1 [⟨1, item⟩]
    let paramsRead ← Bus.uninit .paramsRead 1
    let _ ← receiveResponseCmd getIdxChannelCmd 20 (paramsRead.headD 0) [⟨4, rssi⟩] 1
    let bytes ← Bus.loadList rssi 4
    pure (Int.bmod (ofLe bytes) (2 ^ 32))

/-- `WiFiDrv_reqHostByName` -/
def reqHostByName (aHostname : Ptr Obj) : Prog Bus ℤ := do
  let data ← Bus.auto .data [0]
  let len ← Bus.strlen aHostname
  let reply ← exchange reqHostByNameCmd 1 [(⟨UInt8.ofNat len, aHostname⟩ : TParam)] 20
    [(⟨1, data⟩ : TParam)] 1
  let bytes ← Bus.loadList data 1
  pure (if reply.ret = 0 then 0 else truth (bytes == [1]))

/-- `WiFiDrv_getHostByNameResults`: `_ipAddr` is uninitialised. -/
def getHostByNameResults (aResult : Ptr Obj) : Prog Bus ℤ := do
  let ipAddr : Ptr Obj := ⟨.auto .ipAddr 4, 0⟩
  let reply ← exchange getHostByNameCmd 0 ([] : List TParam) 32 [(⟨4, ipAddr⟩ : TParam)] 1
  let bytes ← Bus.loadList ipAddr 4
  if reply.ret = 0 then pure 0 else do
    Bus.storeList aResult bytes
    pure (truth (bytes != le32 0xFFFFFFFF))

/-- `WiFiDrv_getHostByName` -/
def getHostByName (aHostname aResult : Ptr Obj) : Prog Bus ℤ := do
  let requested ← reqHostByName aHostname
  if requested ≠ 0 then getHostByNameResults aResult else pure 0

/-! ## The module -/

/-- `WiFiDrv_getFwVersion` -/
def getFwVersion : Prog Bus (Ptr Obj) :=
  requestAt getFwVersionCmd 0 [] 48 wlFwVerLength Global.fwVersion.ptr

/-- `WiFiDrv_getTime` -/
def getTime : Prog Bus ℕ := do
  let bytes ← requestVar getTimeCmd 0 [] 48 4 .data (le32 0)
  pure (ofLe bytes)

/-- `WiFiDrv_setPowerMode` -/
def setPowerMode (mode : UInt8) : Prog Bus ℤ := do
  let data ← Bus.auto .data [0]
  let mode ← Bus.auto .mode [mode]
  let reply ← exchange setPowerModeCmd 1 [(⟨1, mode⟩ : TParam)] 20 [(⟨4, data⟩ : TParam)] 1
  pure reply.ret

/-- `WiFiDrv_wifiSetApNetwork` -/
def wifiSetApNetwork (ssid : Ptr Obj) (ssidLen channel : UInt8) : Prog Bus ℤ := do
  let data ← Bus.auto .data [0]
  let channel ← Bus.auto .channel [channel]
  let reply ← exchange setApNetCmd 2 [(⟨ssidLen, ssid⟩ : TParam), ⟨1, channel⟩] 20
    [(⟨4, data⟩ : TParam)] 1
  let bytes ← Bus.loadList data 1
  pure (if reply.ret = 0 then wlFailure
    else if bytes = [wifiSpiAck] then wlSuccess else wlFailure)

/-- `WiFiDrv_wifiSetApPassphrase` -/
def wifiSetApPassphrase (ssid : Ptr Obj) (ssidLen : UInt8) (passphrase : Ptr Obj)
    (len channel : UInt8) : Prog Bus ℤ := do
  let channel ← Bus.auto .channel [channel]
  requestData setApPassphraseCmd 3 [⟨ssidLen, ssid⟩, ⟨len, passphrase⟩, ⟨1, channel⟩] 20 4

/-- `WiFiDrv_ping`: `_data` is uninitialised. -/
def ping (ipAddress : UInt32) (ttl : UInt8) : Prog Bus ℤ := do
  let ipAddress ← Bus.auto .ipAddr (le32 ipAddress)
  let ttl ← Bus.auto .ttl [ttl]
  let data : Ptr Obj := ⟨.auto .data 2, 0⟩
  let reply ← exchange pingCmd 2 [(⟨4, ipAddress⟩ : TParam), ⟨1, ttl⟩] 24
    [(⟨2, data⟩ : TParam)] 1
  let bytes ← Bus.loadList data 2
  pure (if reply.ret = 0 then wlPingError else Int.bmod (ofLe bytes) (2 ^ 16))

/-- `WiFiDrv_debug` -/
def debug (on : UInt8) : Prog Bus ℤ := do
  let on ← Bus.auto .on [on]
  let bytes ← requestVar setDebugCmd 1 [⟨1, on⟩] 24 2 .data [0]
  pure (ofLe bytes)

/-- `(int16)(_data * 8.0)`, from the bytes of the `float`.  The product is exact, and the cast
drops what is behind the point; what C does with a number that is no `int16` is left open, and
here it stays as it is. -/
def eighths (bytes : List UInt8) : ℤ :=
  let bits := ofLe bytes
  let exponent := bits / 2 ^ 23 % 2 ^ 8
  let fraction := bits % 2 ^ 23
  let significand := if exponent = 0 then fraction else 2 ^ 23 + fraction
  -- the value is `significand * 2 ^ (max exponent 1 - 150)`
  let product : ℕ := significand * 2 ^ max exponent 1 / 2 ^ 147
  if bits < 2 ^ 31 then product else -product

/-- `WiFiDrv_getTemperature` -/
def getTemperature : Prog Bus ℤ := do
  let bytes ← requestVar getTemperatureCmd 0 [] 24 4 .data (le32 0)
  pure (eighths bytes)

/-- What the functions about the pins do: two byte arguments, and the byte of the reply. -/
def requestPin (cmd pin : UInt8) (var : Var) (arg : UInt8) : Prog Bus ℤ := do
  let pin ← Bus.auto .pin [pin]
  let arg ← Bus.auto var [arg]
  requestData cmd 2 [⟨1, pin⟩, ⟨1, arg⟩] 24 1

/-- `WiFiDrv_pinMode` -/
def pinMode (pin mode : UInt8) : Prog Bus ℤ := requestPin setPinMode pin .mode mode

/-- `WiFiDrv_digitalWrite` -/
def digitalWrite (pin value : UInt8) : Prog Bus ℤ := requestPin setDigitalWrite pin .value value

/-- `WiFiDrv_analogWrite` -/
def analogWrite (pin value : UInt8) : Prog Bus ℤ := requestPin setAnalogWrite pin .value value

end WiFiDrv
end WiFiNINA
