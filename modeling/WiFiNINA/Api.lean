import WiFiNINA.DriverCalls
import WiFiNINA.WiFiClient.Clients
import WiFiNINA.WiFiSocketBuffer.Calls

/-!
# The calls of an application

All functions that the headers of the library declare above `spi_drv.h`, as the calls an
application makes in any order it likes.
-/

namespace WiFiNINA

open World WiFiClient

/-- What a function returns. -/
inductive Returned
  | nothing
  | number (i : ℤ)
  | pointer (p : Ptr Obj)
  /-- The function has not returned within the rounds its loop was given. -/
  | unfinished
  deriving DecidableEq

namespace Prog
variable {σ α : Type}

def returning (p : Prog σ α) (f : α → Returned) : Prog σ Returned := do
  let a ← p
  pure (f a)

@[simp] theorem val_returning (p : Prog σ α) (f : α → Returned) (s : σ) :
    (p.returning f).val s = f (p.val s) := rfl
@[simp] theorem state_returning (p : Prog σ α) (f : α → Returned) (s : σ) :
    (p.returning f).state s = p.state s := rfl

end Prog

namespace DriverCall

/-- The functions with what they return. -/
def answer : DriverCall → Prog Bus Returned
  | getNetworkData ip mask gwip => (WiFiDrv.getNetworkData ip mask gwip).returning .number
  | getRemoteData sock ip port => (WiFiDrv.getRemoteData sock ip port).returning .number
  | wifiDriverInit => WiFiDrv.wifiDriverInit.returning fun _ => .nothing
  | wifiDriverDeinit => WiFiDrv.wifiDriverDeinit.returning fun _ => .nothing
  | wifiSetNetwork ssid ssidLen => (WiFiDrv.wifiSetNetwork ssid ssidLen).returning .number
  | wifiSetPassphrase ssid ssidLen passphrase len =>
      (WiFiDrv.wifiSetPassphrase ssid ssidLen passphrase len).returning .number
  | wifiSetKey ssid ssidLen keyIdx key len =>
      (WiFiDrv.wifiSetKey ssid ssidLen keyIdx key len).returning .number
  | config validParams localIp gateway subnet =>
      (WiFiDrv.config validParams localIp gateway subnet).returning .number
  | setDNS validParams dnsServer1 dnsServer2 =>
      (WiFiDrv.setDNS validParams dnsServer1 dnsServer2).returning .number
  | setHostname hostname => (WiFiDrv.setHostname hostname).returning .number
  | disconnect => WiFiDrv.disconnect.returning .number
  | getConnectionStatus => WiFiDrv.getConnectionStatus.returning .number
  | getMacAddress => WiFiDrv.getMacAddress.returning .pointer
  | getIpAddress ip => (WiFiDrv.getIpAddress ip).returning .number
  | getSubnetMask mask => (WiFiDrv.getSubnetMask mask).returning .number
  | getGatewayIP ip => (WiFiDrv.getGatewayIP ip).returning .number
  | getCurrentSSID => WiFiDrv.getCurrentSSID.returning .pointer
  | getCurrentBSSID => WiFiDrv.getCurrentBSSID.returning .pointer
  | getCurrentRSSI => WiFiDrv.getCurrentRSSI.returning .number
  | getCurrentEncryptionType => WiFiDrv.getCurrentEncryptionType.returning .number
  | startScanNetworks => WiFiDrv.startScanNetworks.returning .number
  | getScanNetworks => WiFiDrv.getScanNetworks.returning .number
  | getSSIDNetworks networkItem => (WiFiDrv.getSSIDNetworks networkItem).returning .pointer
  | getEncTypeNetworks networkItem => (WiFiDrv.getEncTypeNetworks networkItem).returning .number
  | getBSSIDNetworks networkItem bssid =>
      (WiFiDrv.getBSSIDNetworks networkItem bssid).returning .pointer
  | getChannelNetworks networkItem => (WiFiDrv.getChannelNetworks networkItem).returning .number
  | getRSSINetworks networkItem => (WiFiDrv.getRSSINetworks networkItem).returning .number
  | reqHostByName aHostname => (WiFiDrv.reqHostByName aHostname).returning .number
  | getHostByNameResults aResult => (WiFiDrv.getHostByNameResults aResult).returning .number
  | getHostByName aHostname aResult => (WiFiDrv.getHostByName aHostname aResult).returning .number
  | getFwVersion => WiFiDrv.getFwVersion.returning .pointer
  | getTime => WiFiDrv.getTime.returning fun t => .number t
  | setPowerMode mode => (WiFiDrv.setPowerMode mode).returning .number
  | wifiSetApNetwork ssid ssidLen channel =>
      (WiFiDrv.wifiSetApNetwork ssid ssidLen channel).returning .number
  | wifiSetApPassphrase ssid ssidLen passphrase len channel =>
      (WiFiDrv.wifiSetApPassphrase ssid ssidLen passphrase len channel).returning .number
  | ping ipAddress ttl => (WiFiDrv.ping ipAddress ttl).returning .number
  | debug on => (WiFiDrv.debug on).returning .number
  | getTemperature => WiFiDrv.getTemperature.returning .number
  | pinMode pin mode => (WiFiDrv.pinMode pin mode).returning .number
  | digitalWrite pin value => (WiFiDrv.digitalWrite pin value).returning .number
  | analogWrite pin value => (WiFiDrv.analogWrite pin value).returning .number
  | startServer port sock protMode => (ServerDrv.startServer port sock protMode).returning .number
  | startServerIpAddress ipAddress port sock protMode =>
      (ServerDrv.startServerIpAddress ipAddress port sock protMode).returning .number
  | startClient ipAddress port sock protMode =>
      (ServerDrv.startClient ipAddress port sock protMode).returning .number
  | startClientHostname host hostLen ipAddress port sock protMode =>
      (ServerDrv.startClientHostname host hostLen ipAddress port sock protMode).returning .number
  | stopClient sock => (ServerDrv.stopClient sock).returning .number
  | getServerState sock => (ServerDrv.getServerState sock).returning .number
  | getClientState sock => (ServerDrv.getClientState sock).returning .number
  | availData sock => (ServerDrv.availData sock).returning .number
  | getData sock data peek => (ServerDrv.getData sock data peek).returning .number
  | getDataBuf sock data dataLen => (ServerDrv.getDataBuf sock data dataLen).returning .number
  | insertDataBuf sock data len => (ServerDrv.insertDataBuf sock data len).returning .number
  | sendUdpData sock => (ServerDrv.sendUdpData sock).returning .number
  | sendData sock data len => (ServerDrv.sendData sock data len).returning .number
  | checkDataSent sock => (ServerDrv.checkDataSent sock).returning .number
  | getSocket => ServerDrv.getSocket.returning .number

end DriverCall

/-- A call of a function of `WiFi.c`. -/
inductive WiFiCall
  | init
  | end'
  | beginOpen (ssid : Ptr Obj)
  | beginWEP (ssid : Ptr Obj) (keyIdx : UInt8) (key : Ptr Obj)
  | beginPassphrase (ssid passphrase : Ptr Obj)
  | beginAPSsid (ssid : Ptr Obj)
  | beginAPSsidChannel (ssid : Ptr Obj) (channel : UInt8)
  | beginAPSsidPassphrase (ssid passphrase : Ptr Obj)
  | beginAPSsidPassphraseChannel (ssid passphrase : Ptr Obj) (channel : UInt8)
  | configStatic (localIp : UInt32)
  | configStaticDns (localIp dnsServer : UInt32)
  | configStaticDnsGateway (localIp dnsServer gateway : UInt32)
  | configStaticDnsGatewaySubnet (localIp dnsServer gateway subnet : UInt32)
  | setDNS (dnsServer1 : UInt32)
  | setDNSTwoServers (dnsServer1 dnsServer2 : UInt32)
  | setHostname (name : Ptr Obj)
  | disconnect
  | macAddress (mac : Ptr Obj)
  | localIP
  | subnetMask
  | gatewayIP
  | ssid
  | bssid (bssid : Ptr Obj)
  | rssi
  | encryptionType
  | scanNetworks
  | ssidIndex (networkItem : UInt8)
  | rssiIndex (networkItem : UInt8)
  | encryptionTypeIndex (networkItem : UInt8)
  | bssidIndex (networkItem : UInt8) (bssid : Ptr Obj)
  | channelIndex (networkItem : UInt8)
  | status
  | hostByName (aHostname aResult : Ptr Obj)
  | getTime
  | lowPowerMode
  | noLowPowerMode
  | pingHostname (hostname : Ptr Obj) (ttl : ℤ)
  | pingIpaddress (host : UInt32) (ttl : ℤ)
  | setLEDs (red green blue : UInt8)
  | firmwareVersion

namespace WiFiCall

def run : WiFiCall → Prog Bus Returned
  | init => WiFi.init.returning fun _ => .nothing
  | end' => WiFi.end'.returning fun _ => .nothing
  | beginOpen network => (WiFi.beginOpen network).returning .number
  | beginWEP network keyIdx key => (WiFi.beginWEP network keyIdx key).returning .number
  | beginPassphrase network passphrase =>
      (WiFi.beginPassphrase network passphrase).returning .number
  | beginAPSsid network => (WiFi.beginAPSsid network).returning .number
  | beginAPSsidChannel network channel =>
      (WiFi.beginAPSsidChannel network channel).returning .number
  | beginAPSsidPassphrase network passphrase =>
      (WiFi.beginAPSsidPassphrase network passphrase).returning .number
  | beginAPSsidPassphraseChannel network passphrase channel =>
      (WiFi.beginAPSsidPassphraseChannel network passphrase channel).returning .number
  | configStatic localIp => (WiFi.configStatic localIp).returning fun _ => .nothing
  | configStaticDns localIp dnsServer =>
      (WiFi.configStaticDns localIp dnsServer).returning fun _ => .nothing
  | configStaticDnsGateway localIp dnsServer gateway =>
      (WiFi.configStaticDnsGateway localIp dnsServer gateway).returning fun _ => .nothing
  | configStaticDnsGatewaySubnet localIp dnsServer gateway subnet =>
      (WiFi.configStaticDnsGatewaySubnet localIp dnsServer gateway subnet).returning
        fun _ => .nothing
  | setDNS dnsServer1 => (WiFi.setDNS dnsServer1).returning fun _ => .nothing
  | setDNSTwoServers dnsServer1 dnsServer2 =>
      (WiFi.setDNSTwoServers dnsServer1 dnsServer2).returning fun _ => .nothing
  | setHostname name => (WiFi.setHostname name).returning fun _ => .nothing
  | disconnect => WiFi.disconnect.returning .number
  | macAddress mac => (WiFi.macAddress mac).returning .pointer
  | localIP => WiFi.localIP.returning fun n => .number n
  | subnetMask => WiFi.subnetMask.returning fun n => .number n
  | gatewayIP => WiFi.gatewayIP.returning fun n => .number n
  | ssid => WiFi.ssid.returning .pointer
  | bssid dest => (WiFi.bssid dest).returning .pointer
  | rssi => WiFi.rssi.returning .number
  | encryptionType => WiFi.encryptionType.returning .number
  | scanNetworks => WiFi.scanNetworks.returning .number
  | ssidIndex networkItem => (WiFi.ssidIndex networkItem).returning .pointer
  | rssiIndex networkItem => (WiFi.rssiIndex networkItem).returning .number
  | encryptionTypeIndex networkItem => (WiFi.encryptionTypeIndex networkItem).returning .number
  | bssidIndex networkItem dest => (WiFi.bssidIndex networkItem dest).returning .pointer
  | channelIndex networkItem => (WiFi.channelIndex networkItem).returning .number
  | status => WiFi.status.returning .number
  | hostByName aHostname aResult => (WiFi.hostByName aHostname aResult).returning .number
  | getTime => WiFi.getTime.returning fun n => .number n
  | lowPowerMode => WiFi.lowPowerMode.returning fun _ => .nothing
  | noLowPowerMode => WiFi.noLowPowerMode.returning fun _ => .nothing
  | pingHostname hostname ttl => (WiFi.pingHostname hostname ttl).returning .number
  | pingIpaddress host ttl => (WiFi.pingIpaddress host ttl).returning .number
  | setLEDs red green blue => (WiFi.setLEDs red green blue).returning fun _ => .nothing
  | firmwareVersion => WiFi.firmwareVersion.returning .pointer

end WiFiCall

/-- A call of a function of the library. -/
inductive ApiCall
  | wifi (c : WiFiCall)
  | driver (c : DriverCall)
  /-- With the rounds that its loop is given. -/
  | connect (c : Connect) (fuel : ℕ)
  | operate (sock : UInt8) (op : Operation)
  /-- `WiFiSocketBuffer_init` -/
  | initBuffers
  | buffer (c : Call)

namespace ApiCall

def run : ApiCall → Prog World Returned
  | wifi c => onBus c.run
  | driver c => onBus c.answer
  | connect c fuel => (c.run fuel).returning fun s => s.elim .unfinished .number
  | operate sock op => (op.run sock).returning .number
  | initBuffers => WiFiSocketBuffer.init.returning fun _ => .nothing
  | buffer c => c.run.returning .number

end ApiCall

/-- The library, with a call as the step. -/
def api : System World ApiCall where
  enabled _ _ := True
  next w c := c.run.state w

/-- What the calls of a run return, in order. -/
def results (w : World) (cs : List ApiCall) : List Returned :=
  api.collect (fun w c => [c.run.val w]) w cs

end WiFiNINA
