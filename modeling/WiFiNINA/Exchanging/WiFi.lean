import WiFiNINA.Exchanging
import WiFiNINA.WiFiClient.Polls

/-!
# The functions of WiFi.c exchange

They only call functions of the drivers, one after the other, and copy what these leave behind;
so they are composed of exchanges as well.
-/

namespace WiFiNINA

section WiFi
variable {C : Set UInt8} {W : Set (Ptr Obj)}

theorem composed_pollWhile {σ : Type} {I : σ → Prop} {B : ⦃α : Type⦄ → ℕ → Prog σ α → Prop}
    (again : UInt8 → Bool) {query : Prog σ ℤ} (hquery : Composed I B 1 query) (attempts : ℕ) :
    Composed I B (attempts + 1) (WiFi.pollWhile again query attempts) := by
  induction attempts with
  | zero => exact hquery.after fun _ _ => .pure _
  | succ attempts ih =>
      rw [Nat.add_comm]
      refine hquery.bind fun s _ => ?_
      split
      · exact ih
      · exact (Composed.pure _).mono (Nat.zero_le _)

/-- What the functions that join a network have in common: a request that may fail, and the
polls. -/
theorem exchanging_join {request wait : Prog Bus ℤ} (failed : ℤ)
    (hrequest : Exchanging C W 1 request)
    (hwait : Exchanging C W 10 wait) :
    Exchanging C W 11
      (request >>= fun result => if result = wlFailure then pure failed else wait) :=
  Composed.bind (m := 1) (n := 10) hrequest fun _ _ => .ite_pure _ failed hwait

theorem exchanging_beginCommon (hW : OwnMemory ⊆ W) (hstatus : getConnStatusCmd ∈ C) :
    Exchanging C W 10 WiFi.beginCommon := by
  rw [WiFi.beginCommon_eq]
  exact composed_pollWhile _ (exchanging_getConnectionStatus hW hstatus) 9

theorem exchanging_beginAPCommon (hW : OwnMemory ⊆ W) (hstatus : getConnStatusCmd ∈ C) :
    Exchanging C W 10 WiFi.beginAPCommon :=
  composed_pollWhile _ (exchanging_getConnectionStatus hW hstatus) 9

theorem exchanging_beginOpen (hW : OwnMemory ⊆ W) (hcmd : setNetCmd ∈ C)
    (hstatus : getConnStatusCmd ∈ C) (ssid : Ptr Obj) :
    Exchanging C W 11 (WiFi.beginOpen ssid) :=
  (exchanging_strlen ssid).before fun _ _ => exchanging_join _
    (exchanging_wifiSetNetwork hW hcmd _ _) (exchanging_beginCommon hW hstatus)

theorem exchanging_beginPassphrase (hW : OwnMemory ⊆ W) (hcmd : setPassphraseCmd ∈ C)
    (hstatus : getConnStatusCmd ∈ C) (ssid passphrase : Ptr Obj) :
    Exchanging C W 11 (WiFi.beginPassphrase ssid passphrase) :=
  (exchanging_strlen ssid).before fun _ _ => (exchanging_strlen passphrase).before fun _ _ =>
    exchanging_join _ (exchanging_wifiSetPassphrase hW hcmd _ _ _ _)
      (exchanging_beginCommon hW hstatus)

theorem exchanging_beginWEP (hW : OwnMemory ⊆ W) (hcmd : setKeyCmd ∈ C)
    (hstatus : getConnStatusCmd ∈ C) (ssid : Ptr Obj) (keyIdx : UInt8) (key : Ptr Obj) :
    Exchanging C W 11 (WiFi.beginWEP ssid keyIdx key) :=
  (exchanging_strlen ssid).before fun _ _ => (exchanging_strlen key).before fun _ _ =>
    exchanging_join _ (exchanging_wifiSetKey hW hcmd _ _ _ _ _)
      (exchanging_beginCommon hW hstatus)

theorem exchanging_beginAPSsidChannel (hW : OwnMemory ⊆ W) (hcmd : setApNetCmd ∈ C)
    (hstatus : getConnStatusCmd ∈ C) (hdata : span (DriverCall.varAt .data 1) 4 ⊆ W)
    (ssid : Ptr Obj) (channel : UInt8) :
    Exchanging C W 11 (WiFi.beginAPSsidChannel ssid channel) :=
  (exchanging_strlen ssid).before fun _ _ => exchanging_join _
    (exchanging_wifiSetApNetwork hW (fun _ ha => hdata ha) hcmd _ _ _)
    (exchanging_beginAPCommon hW hstatus)

theorem exchanging_beginAPSsidPassphraseChannel (hW : OwnMemory ⊆ W)
    (hcmd : setApPassphraseCmd ∈ C) (hstatus : getConnStatusCmd ∈ C)
    (hdata : span (DriverCall.varAt .data 1) 4 ⊆ W) (ssid passphrase : Ptr Obj)
    (channel : UInt8) :
    Exchanging C W 11 (WiFi.beginAPSsidPassphraseChannel ssid passphrase channel) :=
  (exchanging_strlen ssid).before fun _ _ => (exchanging_strlen passphrase).before fun _ _ =>
    exchanging_join _
      (exchanging_wifiSetApPassphrase hW (fun _ ha => hdata ha) hcmd _ _ _ _ _)
      (exchanging_beginAPCommon hW hstatus)

/-- A request whose result is dropped. -/
theorem exchanging_drop {p : Prog Bus ℤ} {n : ℕ} (hp : Exchanging C W n p) :
    Exchanging C W n (p >>= fun _ => pure ()) := hp.map _

/-- A request of whose result a byte is returned. -/
theorem exchanging_truncate {query : Prog Bus ℤ} (hquery : Exchanging C W 1 query) :
    Exchanging C W 1 (query >>= fun x => pure ((toByte x).toNat : ℤ)) :=
  hquery.map _

theorem exchanging_configDNS (hW : OwnMemory ⊆ W) (hcmd : setIpConfigCmd ∈ C)
    (hdns : setDnsConfigCmd ∈ C) (validParams : UInt8) (localIp gateway subnet : UInt32)
    (validServers : UInt8) (dnsServer1 dnsServer2 : UInt32) :
    Exchanging C W 2
      (WiFiDrv.config validParams localIp gateway subnet >>= fun _ =>
        WiFiDrv.setDNS validServers dnsServer1 dnsServer2 >>= fun _ => pure ()) :=
  Composed.bind (m := 1) (n := 1) (exchanging_config hW hcmd _ _ _ _)
    fun _ _ => exchanging_drop (exchanging_setDNS hW hdns _ _ _)

theorem exchanging_setLEDs (hW : OwnMemory ⊆ W) (hmode : setPinMode ∈ C)
    (hwrite : setAnalogWrite ∈ C) (red green blue : UInt8) :
    Exchanging C W 6 (WiFi.setLEDs red green blue) := by
  have hmode : ∀ pin, Exchanging C W 1 (WiFiDrv.pinMode pin 1) :=
    fun pin => exchanging_requestPin pin 1 hW hmode rfl
  have hwrite : ∀ pin value, Exchanging C W 1 (WiFiDrv.analogWrite pin value) :=
    fun pin value => exchanging_requestPin pin value hW hwrite rfl
  exact (hmode 25).bind (n := 5) fun _ _ => (hmode 26).bind (n := 4) fun _ _ =>
    (hmode 27).bind (n := 3) fun _ _ => (hwrite 25 red).bind (n := 2) fun _ _ =>
      (hwrite 26 green).bind (n := 1) fun _ _ => exchanging_drop (hwrite 27 blue)

theorem exchanging_copyAddress {query : Prog Bus (Ptr Obj)}
    (hquery : Exchanging C W 1 query) {dest : Ptr Obj} (hdest : span dest 6 ⊆ W) :
    Exchanging C W 1 (WiFi.copyAddress query dest) :=
  hquery.after fun _ _ => exchanging_copy (fun _ ha => hdest ha) (.pure _)

theorem exchanging_copiedValue (hW : OwnMemory ⊆ W) (hcmd : getIpaddrCmd ∈ C) (var : Global) :
    Exchanging C W 1 (WiFi.copiedValue (WiFiDrv.refreshNetworkData var)) :=
  (exchanging_refreshNetworkData hW hcmd var
    (subset_of_auto hW (by decide))).after fun _ _ => exchanging_load _ _ _

theorem exchanging_scanNetworks (hW : OwnMemory ⊆ W) (hstart : startScanNetworks ∈ C)
    (hscan : scanNetworks ∈ C) :
    Exchanging C W 11 WiFi.scanNetworks := by
  refine Composed.bind (m := 1) (n := 10)
    (exchanging_startScanNetworks hW hstart) fun _ _ => .ite_pure _ _ ?_
  exact (composed_pollWhile _ (exchanging_getScanNetworks hW hscan) 9).after
    fun _ _ => .pure _

theorem exchanging_hostByName (hW : OwnMemory ⊆ W) (hreq : reqHostByNameCmd ∈ C)
    (hget : getHostByNameCmd ∈ C) (aHostname : Ptr Obj) {aResult : Ptr Obj}
    (hresult : span aResult 4 ⊆ W) :
    Exchanging C W 2 (WiFi.hostByName aHostname aResult) :=
  exchanging_getHostByName hW hreq hget aHostname
    fun _ ha => hresult ha

theorem exchanging_pingHostname (hW : OwnMemory ⊆ W) (hreq : reqHostByNameCmd ∈ C)
    (hget : getHostByNameCmd ∈ C) (hcmd : pingCmd ∈ C) (hostname : Ptr Obj) (ttl : ℤ) :
    Exchanging C W 3 (WiFi.pingHostname hostname ttl) := by
  refine Composed.bind (m := 2) (n := 1)
    (exchanging_hostByName hW hreq hget hostname (subset_of_auto hW (by decide))) fun _ _ =>
      .ite_pure _ _ ((exchanging_loadList _ 4).before fun _ _ => ?_)
  exact exchanging_ping hW hcmd _ _

end WiFi

namespace WiFiCall

/-- Where a function stores outside the variables of the library. -/
def writable : WiFiCall → Set (Ptr Obj)
  | macAddress dest | bssid dest | bssidIndex _ dest => span dest 6
  | hostByName _ aResult => span aResult 4
  | beginAPSsid _ | beginAPSsidChannel _ _ | beginAPSsidPassphrase _ _
  | beginAPSsidPassphraseChannel _ _ _ | lowPowerMode | noLowPowerMode =>
      span (DriverCall.varAt .data 1) 4
  | _ => ∅

/-- The commands a function sends. -/
def commands : WiFiCall → Set UInt8
  | init | end' | ssidIndex _ => ∅
  | beginOpen _ => {setNetCmd, getConnStatusCmd}
  | beginWEP _ _ _ => {setKeyCmd, getConnStatusCmd}
  | beginPassphrase _ _ => {setPassphraseCmd, getConnStatusCmd}
  | beginAPSsid _ | beginAPSsidChannel _ _ => {setApNetCmd, getConnStatusCmd}
  | beginAPSsidPassphrase _ _ | beginAPSsidPassphraseChannel _ _ _ =>
      {setApPassphraseCmd, getConnStatusCmd}
  | configStatic _ => {setIpConfigCmd}
  | configStaticDns _ _ | configStaticDnsGateway _ _ _ | configStaticDnsGatewaySubnet _ _ _ _ =>
      {setIpConfigCmd, setDnsConfigCmd}
  | setDNS _ | setDNSTwoServers _ _ => {setDnsConfigCmd}
  | setHostname _ => {setHostnameCmd}
  | disconnect => {disconnectCmd}
  | macAddress _ => {getMacaddrCmd}
  | localIP | subnetMask | gatewayIP => {getIpaddrCmd}
  | ssid => {getCurrSsidCmd}
  | bssid _ => {getCurrBssidCmd}
  | rssi => {getCurrRssiCmd}
  | encryptionType => {getCurrEnctCmd}
  | scanNetworks => {startScanNetworks, WiFiNINA.scanNetworks}
  | rssiIndex _ => {getIdxRssiCmd}
  | encryptionTypeIndex _ => {getIdxEnctCmd}
  | bssidIndex _ _ => {getIdxBssid}
  | channelIndex _ => {getIdxChannelCmd}
  | status => {getConnStatusCmd}
  | hostByName _ _ => {reqHostByNameCmd, getHostByNameCmd}
  | getTime => {getTimeCmd}
  | lowPowerMode | noLowPowerMode => {setPowerModeCmd}
  | pingHostname _ _ => {reqHostByNameCmd, getHostByNameCmd, pingCmd}
  | pingIpaddress _ _ => {pingCmd}
  | setLEDs _ _ _ => {setPinMode, setAnalogWrite}
  | firmwareVersion => {getFwVersionCmd}

/-- How many exchanges a function makes at most. -/
def budget : WiFiCall → ℕ
  | init | end' | ssidIndex _ => 0
  | beginOpen _ | beginWEP _ _ _ | beginPassphrase _ _ | beginAPSsid _ | beginAPSsidChannel _ _
  | beginAPSsidPassphrase _ _ | beginAPSsidPassphraseChannel _ _ _ | scanNetworks => 11
  | configStaticDns _ _ | configStaticDnsGateway _ _ _ | configStaticDnsGatewaySubnet _ _ _ _
  | hostByName _ _ => 2
  | pingHostname _ _ => 3
  | setLEDs _ _ _ => 6
  | _ => 1

/-- **Every function of `WiFi.c`** is composed of exchanges. -/
theorem exchanging (c : WiFiCall) {C : Set UInt8} {W : Set (Ptr Obj)} (hC : c.commands ⊆ C)
    (hW : OwnMemory ⊆ W) (hwritable : c.writable ⊆ W) :
    Exchanging C W c.budget c.run := by
  cases c with
  | init => exact (Composed.basic .begin).map _
  | end' => exact (Composed.basic .end').map _
  | beginOpen ssid => exact (exchanging_beginOpen hW (hC (.inl rfl)) (hC (.inr rfl)) ssid).map _
  | beginWEP ssid keyIdx key =>
      exact (exchanging_beginWEP hW (hC (.inl rfl)) (hC (.inr rfl)) ssid keyIdx key).map _
  | beginPassphrase ssid passphrase =>
      exact (exchanging_beginPassphrase hW (hC (.inl rfl)) (hC (.inr rfl)) ssid passphrase).map _
  | beginAPSsid ssid =>
      exact (exchanging_beginAPSsidChannel hW (hC (.inl rfl)) (hC (.inr rfl)) hwritable
        ssid 1).map _
  | beginAPSsidChannel ssid channel =>
      exact (exchanging_beginAPSsidChannel hW (hC (.inl rfl)) (hC (.inr rfl)) hwritable
        ssid channel).map _
  | beginAPSsidPassphrase ssid passphrase =>
      exact (exchanging_beginAPSsidPassphraseChannel hW (hC (.inl rfl)) (hC (.inr rfl)) hwritable
        ssid passphrase 1).map _
  | beginAPSsidPassphraseChannel ssid passphrase channel =>
      exact (exchanging_beginAPSsidPassphraseChannel hW (hC (.inl rfl)) (hC (.inr rfl)) hwritable
        ssid passphrase channel).map _
  | configStatic localIp =>
      exact (exchanging_drop (exchanging_config hW (hC rfl) _ _ _ _)).map _
  | configStaticDns localIp dnsServer =>
      exact (exchanging_configDNS hW (hC (.inl rfl)) (hC (.inr rfl))
        1 localIp 0 0 1 dnsServer 0).map _
  | configStaticDnsGateway localIp dnsServer gateway =>
      exact (exchanging_configDNS hW (hC (.inl rfl)) (hC (.inr rfl))
        2 localIp gateway 0 1 dnsServer 0).map _
  | configStaticDnsGatewaySubnet localIp dnsServer gateway subnet =>
      exact (exchanging_configDNS hW (hC (.inl rfl)) (hC (.inr rfl))
        3 localIp gateway subnet 1 dnsServer 0).map _
  | setDNS dnsServer1 =>
      exact (exchanging_drop (exchanging_setDNS hW (hC rfl) _ _ _)).map _
  | setDNSTwoServers dnsServer1 dnsServer2 =>
      exact (exchanging_drop (exchanging_setDNS hW (hC rfl) _ _ _)).map _
  | setHostname name =>
      exact (exchanging_drop (exchanging_setHostname hW (hC rfl) name)).map _
  | disconnect => exact (exchanging_disconnect hW (hC rfl)).map _
  | macAddress dest =>
      exact (exchanging_copyAddress (exchanging_getMacAddress hW (hC rfl)) hwritable).map _
  | localIP => exact (exchanging_copiedValue hW (hC rfl) .localIp).map _
  | subnetMask => exact (exchanging_copiedValue hW (hC rfl) .subnetMask).map _
  | gatewayIP => exact (exchanging_copiedValue hW (hC rfl) .gatewayIp).map _
  | ssid => exact (exchanging_getCurrentSSID hW (hC rfl)).map _
  | bssid dest =>
      exact (exchanging_copyAddress (exchanging_getCurrentBSSID hW (hC rfl)) hwritable).map _
  | rssi => exact (exchanging_getCurrentRSSI hW (hC rfl)).map _
  | encryptionType =>
      exact (exchanging_truncate (exchanging_getCurrentEncryptionType hW (hC rfl))).map _
  | scanNetworks => exact (exchanging_scanNetworks hW (hC (.inl rfl)) (hC (.inr rfl))).map _
  | ssidIndex networkItem => exact (Composed.pure _).map _
  | rssiIndex networkItem =>
      exact (exchanging_getRSSINetworks hW (hC rfl) networkItem).map _
  | encryptionTypeIndex networkItem =>
      exact (exchanging_truncate (exchanging_getEncTypeNetworks hW (hC rfl) networkItem)).map _
  | bssidIndex networkItem dest =>
      exact (exchanging_getBSSIDNetworks hW (hC rfl) networkItem
        fun _ ha => hwritable ha).map _
  | channelIndex networkItem =>
      exact (exchanging_truncate (exchanging_getChannelNetworks hW (hC rfl) networkItem)).map _
  | status =>
      exact (exchanging_truncate (exchanging_getConnectionStatus hW (hC rfl))).map _
  | hostByName aHostname aResult =>
      exact (exchanging_hostByName hW (hC (.inl rfl)) (hC (.inr rfl)) aHostname hwritable).map _
  | getTime => exact (exchanging_getTime hW (hC rfl)).map _
  | lowPowerMode | noLowPowerMode =>
      exact (exchanging_drop
        (exchanging_setPowerMode hW (fun _ ha => hwritable ha) (hC rfl) _)).map _
  | pingHostname hostname ttl =>
      exact (exchanging_pingHostname hW (hC (.inl rfl)) (hC (.inr (.inl rfl)))
        (hC (.inr (.inr rfl))) hostname ttl).map _
  | pingIpaddress host ttl =>
      exact (exchanging_ping hW (hC rfl) host _).map _
  | setLEDs red green blue =>
      exact (exchanging_setLEDs hW (hC (.inl rfl)) (hC (.inr rfl)) red green blue).map _
  | firmwareVersion => exact (exchanging_getFwVersion hW (hC rfl)).map _

end WiFiCall

/-- The commands without the bit that marks a reply. -/
def plainCommands : Set UInt8 := {cmd | cmd.toNat < 128}

/-- All of them but the one that sends data. -/
def controlCommands : Set UInt8 := {cmd | cmd.toNat < 128 ∧ cmd ≠ sendDataTcpCmd}

theorem mem_controlCommands {cmd : UInt8}
    (h : decide (cmd.toNat < 128 ∧ cmd ≠ sendDataTcpCmd) = true) : cmd ∈ controlCommands := by
  have hboth : cmd.toNat < 128 ∧ cmd ≠ sendDataTcpCmd := of_decide_eq_true h
  exact hboth

/-- The function sends data. -/
def DriverCall.Writes : DriverCall → Prop
  | sendData _ _ _ => True
  | _ => False

theorem DriverCall.commands_control {c : DriverCall} (h : ¬ c.Writes) :
    c.commands ⊆ controlCommands := by
  intro cmd hcmd
  cases c with
  | wifiDriverInit | wifiDriverDeinit | getSSIDNetworks => exact hcmd.elim
  | sendData => exact absurd trivial h
  | getHostByName =>
      rcases hcmd with rfl | rfl
      · exact mem_controlCommands rfl
      · exact mem_controlCommands rfl
  | _ =>
      obtain rfl := Set.mem_singleton_iff.mp hcmd
      exact mem_controlCommands rfl

theorem WiFiCall.commands_control (c : WiFiCall) : c.commands ⊆ controlCommands := by
  intro cmd hcmd
  cases c with
  | init | end' | ssidIndex => exact hcmd.elim
  | beginOpen | beginWEP | beginPassphrase | beginAPSsid | beginAPSsidChannel
  | beginAPSsidPassphrase | beginAPSsidPassphraseChannel | configStaticDns
  | configStaticDnsGateway | configStaticDnsGatewaySubnet | scanNetworks | hostByName | setLEDs =>
      rcases hcmd with rfl | rfl
      · exact mem_controlCommands rfl
      · exact mem_controlCommands rfl
  | pingHostname =>
      rcases hcmd with rfl | rfl | rfl
      · exact mem_controlCommands rfl
      · exact mem_controlCommands rfl
      · exact mem_controlCommands rfl
  | _ =>
      obtain rfl := Set.mem_singleton_iff.mp hcmd
      exact mem_controlCommands rfl

end WiFiNINA
