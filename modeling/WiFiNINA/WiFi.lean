import WiFiNINA.WiFiDrv

/-!
# WiFi.c

The functions that take strings, which are names of networks and of hosts, keys and
passphrases; the loops in which joining a network and scanning wait for the module; and what
passes a request on to the driver.
-/

namespace WiFiNINA
namespace WiFi

/-- `WiFi_init` -/
def init : Prog Bus Unit := WiFiDrv.wifiDriverInit

/-- `WiFi_end` -/
def end' : Prog Bus Unit := WiFiDrv.wifiDriverDeinit

/-- The states in which `WiFi_begin_common` polls again. -/
def pending (status : UInt8) : Bool :=
  status == wlIdleStatus || status == wlNoSsidAvail || status == wlScanCompleted

/-- The polling loop of `WiFi_begin_common`, with the attempts left after this one. -/
def pollStatus : ℕ → Prog Bus ℤ
  | 0 => do
      let status ← WiFiDrv.getConnectionStatus
      pure (toByte status).toNat
  | attempts + 1 => do
      let status ← WiFiDrv.getConnectionStatus
      if pending (toByte status) then pollStatus attempts
      else pure (toByte status).toNat

/-- `WiFi_begin_common` -/
def beginCommon : Prog Bus ℤ := pollStatus (wlMaxAttemptConnection - 1)

/-- The states in which `WiFi_beginAP_common` polls again. -/
def pendingAP (status : UInt8) : Bool := status == wlIdleStatus || status == wlScanCompleted

/-- The polling loop with the states in which it polls again and the query that it polls left
open, and with the attempts left after this one. -/
def pollWhile {σ : Type} (again : UInt8 → Bool) (query : Prog σ ℤ) : ℕ → Prog σ ℤ
  | 0 => do
      let status ← query
      pure (toByte status).toNat
  | attempts + 1 => do
      let status ← query
      if again (toByte status) then pollWhile again query attempts
      else pure (toByte status).toNat

/-- `WiFi_beginAP_common` -/
def beginAPCommon : Prog Bus ℤ :=
  pollWhile pendingAP WiFiDrv.getConnectionStatus (wlMaxAttemptConnection - 1)

/-- `WiFi_begin_open` -/
def beginOpen (ssid : Ptr Obj) : Prog Bus ℤ := do
  let ssidLen ← Bus.strlen ssid
  let result ← WiFiDrv.wifiSetNetwork ssid (UInt8.ofNat ssidLen)
  if result = wlFailure then pure wlConnectFailed else beginCommon

/-- `WiFi_begin_passphrase` -/
def beginPassphrase (ssid passphrase : Ptr Obj) : Prog Bus ℤ := do
  let ssidLen ← Bus.strlen ssid
  let len ← Bus.strlen passphrase
  let result ← WiFiDrv.wifiSetPassphrase ssid (UInt8.ofNat ssidLen) passphrase (UInt8.ofNat len)
  if result = wlFailure then pure wlConnectFailed else beginCommon

/-- `WiFi_begin_WEP` -/
def beginWEP (ssid : Ptr Obj) (keyIdx : UInt8) (key : Ptr Obj) : Prog Bus ℤ := do
  let ssidLen ← Bus.strlen ssid
  let len ← Bus.strlen key
  let result ← WiFiDrv.wifiSetKey ssid (UInt8.ofNat ssidLen) keyIdx key (UInt8.ofNat len)
  if result = wlFailure then pure wlConnectFailed else beginCommon

/-- `WiFi_beginAP_ssid_passphrase_channel` -/
def beginAPSsidPassphraseChannel (ssid passphrase : Ptr Obj) (channel : UInt8) : Prog Bus ℤ := do
  let ssidLen ← Bus.strlen ssid
  let len ← Bus.strlen passphrase
  let result ← WiFiDrv.wifiSetApPassphrase ssid (UInt8.ofNat ssidLen) passphrase
    (UInt8.ofNat len) channel
  if result = wlFailure then pure wlApFailed else beginAPCommon

/-- `WiFi_setHostname` -/
def setHostname (name : Ptr Obj) : Prog Bus Unit := do
  let _ ← WiFiDrv.setHostname name
  pure ()

/-- `WiFi_hostByName` -/
def hostByName (aHostname aResult : Ptr Obj) : Prog Bus ℤ :=
  WiFiDrv.getHostByName aHostname aResult

/-- `WiFi_beginAP_ssid_channel` -/
def beginAPSsidChannel (ssid : Ptr Obj) (channel : UInt8) : Prog Bus ℤ := do
  let ssidLen ← Bus.strlen ssid
  let result ← WiFiDrv.wifiSetApNetwork ssid (UInt8.ofNat ssidLen) channel
  if result = wlFailure then pure wlApFailed else beginAPCommon

/-- `WiFi_beginAP_ssid` -/
def beginAPSsid (ssid : Ptr Obj) : Prog Bus ℤ := beginAPSsidChannel ssid 1

/-- `WiFi_beginAP_ssid_passphrase` -/
def beginAPSsidPassphrase (ssid passphrase : Ptr Obj) : Prog Bus ℤ :=
  beginAPSsidPassphraseChannel ssid passphrase 1

/-! ## The configuration -/

/-- `WiFi_config_static` -/
def configStatic (localIp : UInt32) : Prog Bus Unit := do
  let _ ← WiFiDrv.config 1 localIp 0 0
  pure ()

/-- `WiFi_config_static_dns` -/
def configStaticDns (localIp dnsServer : UInt32) : Prog Bus Unit := do
  let _ ← WiFiDrv.config 1 localIp 0 0
  let _ ← WiFiDrv.setDNS 1 dnsServer 0
  pure ()

/-- `WiFi_config_static_dns_gateway` -/
def configStaticDnsGateway (localIp dnsServer gateway : UInt32) : Prog Bus Unit := do
  let _ ← WiFiDrv.config 2 localIp gateway 0
  let _ ← WiFiDrv.setDNS 1 dnsServer 0
  pure ()

/-- `WiFi_config_static_dns_gateway_subnet` -/
def configStaticDnsGatewaySubnet (localIp dnsServer gateway subnet : UInt32) :
    Prog Bus Unit := do
  let _ ← WiFiDrv.config 3 localIp gateway subnet
  let _ ← WiFiDrv.setDNS 1 dnsServer 0
  pure ()

/-- `WiFi_setDNS` -/
def setDNS (dnsServer1 : UInt32) : Prog Bus Unit := do
  let _ ← WiFiDrv.setDNS 1 dnsServer1 0
  pure ()

/-- `WiFi_setDNS_two_servers` -/
def setDNSTwoServers (dnsServer1 dnsServer2 : UInt32) : Prog Bus Unit := do
  let _ ← WiFiDrv.setDNS 2 dnsServer1 dnsServer2
  pure ()

/-- `WiFi_lowPowerMode` -/
def lowPowerMode : Prog Bus Unit := do
  let _ ← WiFiDrv.setPowerMode 1
  pure ()

/-- `WiFi_noLowPowerMode` -/
def noLowPowerMode : Prog Bus Unit := do
  let _ ← WiFiDrv.setPowerMode 0
  pure ()

/-- `WiFi_setLEDs`: the pins 25 to 27 are made outputs first. -/
def setLEDs (red green blue : UInt8) : Prog Bus Unit := do
  let _ ← WiFiDrv.pinMode 25 1
  let _ ← WiFiDrv.pinMode 26 1
  let _ ← WiFiDrv.pinMode 27 1
  let _ ← WiFiDrv.analogWrite 25 red
  let _ ← WiFiDrv.analogWrite 26 green
  let _ ← WiFiDrv.analogWrite 27 blue
  pure ()

/-- `WiFi_firmwareVersion` -/
def firmwareVersion : Prog Bus (Ptr Obj) := WiFiDrv.getFwVersion

/-- `WiFi_disconnect` -/
def disconnect : Prog Bus ℤ := WiFiDrv.disconnect

/-- `WiFi_status` -/
def status : Prog Bus ℤ := do
  let status ← WiFiDrv.getConnectionStatus
  pure (toByte status).toNat

/-- What `WiFi_macAddress` and `WiFi_BSSID` do with the array of the driver:
`memcpy(dest, src, WL_MAC_ADDR_LENGTH)`. -/
def copyAddress (query : Prog Bus (Ptr Obj)) (dest : Ptr Obj) : Prog Bus (Ptr Obj) := do
  let src ← query
  let bytes ← Bus.loadList src wlMacAddrLength
  Bus.storeList dest bytes
  pure dest

/-- `WiFi_macAddress` -/
def macAddress (mac : Ptr Obj) : Prog Bus (Ptr Obj) := copyAddress WiFiDrv.getMacAddress mac

/-- `WiFi_BSSID` -/
def bssid (bssid : Ptr Obj) : Prog Bus (Ptr Obj) := copyAddress WiFiDrv.getCurrentBSSID bssid

/-- What `WiFi_localIP`, `WiFi_subnetMask` and `WiFi_gatewayIP` do: their local `ret`, the
variable `value` here, is uninitialised until the driver copies the address to it. -/
def copiedValue (query : Ptr Obj → Prog Bus ℤ) : Prog Bus ℕ := do
  let ret : Ptr Obj := ⟨.auto .value 4, 0⟩
  let _ ← query ret
  let bytes ← Bus.loadList ret 4
  pure (ofLe bytes)

/-- `WiFi_localIP` -/
def localIP : Prog Bus ℕ := copiedValue WiFiDrv.getIpAddress

/-- `WiFi_subnetMask` -/
def subnetMask : Prog Bus ℕ := copiedValue WiFiDrv.getSubnetMask

/-- `WiFi_gatewayIP` -/
def gatewayIP : Prog Bus ℕ := copiedValue WiFiDrv.getGatewayIP

/-- `WiFi_SSID` -/
def ssid : Prog Bus (Ptr Obj) := WiFiDrv.getCurrentSSID

/-- `WiFi_RSSI` -/
def rssi : Prog Bus ℤ := WiFiDrv.getCurrentRSSI

/-- `WiFi_encryptionType`, of which a `uint8` is returned. -/
def encryptionType : Prog Bus ℤ := do
  let encType ← WiFiDrv.getCurrentEncryptionType
  pure (toByte encType).toNat

/-- `WiFi_getTime` -/
def getTime : Prog Bus ℕ := WiFiDrv.getTime

/-! ## Scanning -/

/-- `WiFi_scanNetworks`: the number of networks, a `uint8`, is returned as an `int8`. -/
def scanNetworks : Prog Bus ℤ := do
  let started ← WiFiDrv.startScanNetworks
  if started = wlFailure then pure wlFailure else do
    let numOfNetworks ← pollWhile (· == 0) WiFiDrv.getScanNetworks (10 - 1)
    pure (Int.bmod numOfNetworks (2 ^ 8))

/-- `WiFi_SSID_index` -/
def ssidIndex (networkItem : UInt8) : Prog Bus (Ptr Obj) := WiFiDrv.getSSIDNetworks networkItem

/-- `WiFi_RSSI_index` -/
def rssiIndex (networkItem : UInt8) : Prog Bus ℤ := WiFiDrv.getRSSINetworks networkItem

/-- `WiFi_encryptionType_index`, of which a `uint8` is returned. -/
def encryptionTypeIndex (networkItem : UInt8) : Prog Bus ℤ := do
  let encType ← WiFiDrv.getEncTypeNetworks networkItem
  pure (toByte encType).toNat

/-- `WiFi_BSSID_index` -/
def bssidIndex (networkItem : UInt8) (bssid : Ptr Obj) : Prog Bus (Ptr Obj) :=
  WiFiDrv.getBSSIDNetworks networkItem bssid

/-- `WiFi_channel_index`, of which a `uint8` is returned. -/
def channelIndex (networkItem : UInt8) : Prog Bus ℤ := do
  let channel ← WiFiDrv.getChannelNetworks networkItem
  pure (toByte channel).toNat

/-- `WiFi_ping_ipaddress`: the time to live is an `int`, of which the driver takes a byte. -/
def pingIpaddress (host : UInt32) (ttl : ℤ) : Prog Bus ℤ :=
  WiFiDrv.ping host (toByte (if ttl ≤ 0 then 128 else ttl))

/-- `WiFi_ping_hostname`: its local `ip`, the variable `remoteAddr` here, is uninitialised. -/
def pingHostname (hostname : Ptr Obj) (ttl : ℤ) : Prog Bus ℤ := do
  let ip : Ptr Obj := ⟨.auto .remoteAddr 4, 0⟩
  let found ← hostByName hostname ip
  if found = 0 then pure wlPingUnknownHost else do
    let bytes ← Bus.loadList ip 4
    pingIpaddress (UInt32.ofNat (ofLe bytes)) ttl

end WiFi
end WiFiNINA
