import WiFiNINA.DriverCalls.Inputs
import WiFiNINA.Exchanging.Session
import WiFiNINA.Outcomes

/-!
# WiFi.c on the wire

What a function of `WiFi.c` sends follows a script: the requests with their parameters, in order,
which its arguments determine, and with how much of each reply is fetched.  The replies decide no
more than how often a function polls.
-/

namespace WiFiNINA

open LengthCode SpiDrv

/-- From `b` to `b'` exactly these exchanges were made, and the module can read them. -/
structure Made (es : List Exchange) (b b' : Bus) : Prop where
  performed : Performed es b b'
  valid : ∀ e ∈ es, e.cmd ∈ plainCommands ∧ e.Valid

section Made
variable {es es' : List Exchange} {b b' b'' : Bus} {α β : Type}

theorem Made.append (h : Made es b b') (h' : Made es' b' b'') : Made (es ++ es') b b'' :=
  ⟨h.performed.append h'.performed, List.forall_mem_append.mpr ⟨h.valid, h'.valid⟩⟩

/-- The memory has no part in it. -/
theorem made_nil (m : Memory Obj UInt8) : Made [] b { b with mem := m } :=
  ⟨performed_nil rfl rfl rfl, List.forall_mem_nil _⟩

theorem Made.of_mem {m : Memory Obj UInt8} (h : Made es { b with mem := m } b') : Made es b b' :=
  (made_nil m).append h

theorem Made.store {m : Memory Obj UInt8} (h : Made es b b') : Made es b { b' with mem := m } := by
  have happend := h.append (made_nil m)
  rwa [List.append_nil] at happend

theorem Made.read (h : Made es b b') :
    readSession (es.flatMap Exchange.wire) = some es := readSession_eq_some.mpr ⟨h.valid, rfl⟩

/-- One exchange after the other. -/
theorem made_cons {e : Exchange} {p : Prog Bus α} {f : α → Prog Bus β}
    (h : ∀ b, Made [e] b (p.state b)) (h' : ∀ a b, Made es b ((f a).state b)) :
    Made (e :: es) b ((p >>= f).state b) := (h b).append (h' _ _)

theorem made_auto {var : Var} {init : List UInt8} {f : Ptr Obj → Prog Bus β}
    (h : Made es { b with mem := b.mem.storeList ⟨.auto var init.length, 0⟩ init }
      ((f ⟨.auto var init.length, 0⟩).state
        { b with mem := b.mem.storeList ⟨.auto var init.length, 0⟩ init })) :
    Made es b ((Bus.auto var init >>= f).state b) := h.of_mem

theorem made_strlen {p : Ptr Obj} {f : ℕ → Prog Bus β}
    (h : Made es b ((f ((Bus.strlen p).val b)).state b)) :
    Made es b ((Bus.strlen p >>= f).state b) := by
  rw [Prog.state_bind, Bus.state_strlen]
  exact h

/-- What follows only looks at the memory, or changes it. -/
theorem made_after {p : Prog Bus α} {f : α → Prog Bus β} (h : Made es b (p.state b))
    (hf : ∀ a b, ∃ m, (f a).state b = { b with mem := m }) :
    Made es b ((p >>= f).state b) := by
  obtain ⟨m, hm⟩ := hf (p.val b) (p.state b)
  rw [Prog.state_bind, hm]
  exact h.store

end Made

section Requests
variable {cmd numParam : UInt8} {inParams : List TParam} {maxSize : UInt16}
  {args : List (List UInt8)} {b : Bus}

/-- A command whose requests have short lengths. -/
structure Short (cmd : UInt8) : Prop where
  short : longCommand cmd = false
  plain : cmd.toNat < 128

instance (cmd : UInt8) : Decidable (Short cmd) :=
  decidable_of_iff (longCommand cmd = false ∧ cmd.toNat < 128)
    ⟨fun h => ⟨h.1, h.2⟩, fun h => ⟨h.short, h.plain⟩⟩

theorem made_transfers {cmd' maxNumParams : UInt8} {params : List TParam} {β : Type}
    {mid : Prog Bus β} (hcmd : Short cmd) (hn : inParams.length = numParam.toNat)
    (hmax : maxNumParams.toNat ≤ params.length) (hwindow : 16 ≤ maxSize.toNat)
    (hmid : ∀ b, ∃ m, mid.state b = { b with mem := m }) (numParamRead : β → UInt8)
    (hargs : (inParams.map fun p => p.bytes b.mem) = args) :
    Made [⟨cmd, args, window maxSize⟩] b ((send cmd numParam inParams >>= fun _ =>
      mid >>= fun x => receiveResponse cmd' maxSize (numParamRead x) params maxNumParams).state b)
    where
  performed := by
    rw [← hargs]
    exact performed_exchange (framed_of_short hcmd.short) hn hmax hmid cmd' maxSize numParamRead b
  valid := by
    refine List.forall_mem_singleton.mpr ⟨hcmd.plain, ?_, ?_, ?_⟩
    · rw [← hargs, List.length_map, hn]
      exact numParam.toNat_lt
    · rw [← hargs, ← (framed_of_short hcmd.short).bound_eq]
      exact bytes_length_lt inParams b.mem
    · exact ⟨Nat.le_min.mpr ⟨hwindow, by decide⟩, Nat.min_le_right _ _⟩

theorem made_exchange {maxNumParams : UInt8} {params : List TParam} (hcmd : Short cmd)
    (hn : inParams.length = numParam.toNat) (hmax : maxNumParams.toNat ≤ params.length)
    (hwindow : 16 ≤ maxSize.toNat) (hargs : (inParams.map fun p => p.bytes b.mem) = args) :
    Made [⟨cmd, args, window maxSize⟩] b
      ((exchange cmd numParam inParams maxSize params maxNumParams).state b) := by
  have hmid : ∀ b, ∃ m, (Bus.uninit .paramsRead 1).state b = { b with mem := m } :=
    fun b => ⟨b.mem, rfl⟩
  exact made_transfers hcmd hn hmax hwindow hmid (fun x => x.headD 0) hargs

theorem made_requestData {capacity : UInt8} (hcmd : Short cmd)
    (hn : inParams.length = numParam.toNat) (hwindow : 16 ≤ maxSize.toNat)
    (hargs : (inParams.map fun p => p.bytes (b.mem.storeList ⟨.auto .data 1, 0⟩ [0])) = args) :
    Made [⟨cmd, args, window maxSize⟩] b
      ((WiFiDrv.requestData cmd numParam inParams maxSize capacity).state b) :=
  made_auto (made_after (made_exchange hcmd hn le_rfl hwindow hargs) fun _ b => ⟨b.mem, rfl⟩)

theorem made_requestByte (hcmd : Short cmd) (hn : inParams.length = numParam.toNat)
    (hargs : (inParams.map fun p => p.bytes (b.mem.storeList ⟨.auto .data 1, 0⟩ [0])) = args) :
    Made [⟨cmd, args, window 16⟩] b ((ServerDrv.requestByte cmd numParam inParams).state b) :=
  made_requestData hcmd hn (by decide) hargs

theorem made_requestVar {capacity : UInt8} {var : Var} {init : List UInt8} (hcmd : Short cmd)
    (hn : inParams.length = numParam.toNat) (hwindow : 16 ≤ maxSize.toNat)
    (hargs : (inParams.map fun p =>
      p.bytes (b.mem.storeList ⟨.auto var init.length, 0⟩ init)) = args) :
    Made [⟨cmd, args, window maxSize⟩] b
      ((WiFiDrv.requestVar cmd numParam inParams maxSize capacity var init).state b) :=
  made_auto (made_after (made_exchange hcmd hn le_rfl hwindow hargs) fun _ b => ⟨b.mem, rfl⟩)

theorem made_requestAt {capacity : ℕ} {place : Ptr Obj} (hcmd : Short cmd)
    (hn : inParams.length = numParam.toNat) (hwindow : 16 ≤ maxSize.toNat)
    (hargs : (inParams.map fun p => p.bytes b.mem) = args) :
    Made [⟨cmd, args, window maxSize⟩] b
      ((WiFiDrv.requestAt cmd numParam inParams maxSize capacity place).state b) :=
  made_after (made_exchange hcmd hn le_rfl hwindow hargs) fun _ b => ⟨b.mem, rfl⟩

end Requests

/-! ## The drivers -/

namespace WiFiDrv

variable {b : Bus}

theorem made_wifiSetNetwork {ssid : Ptr Obj} (hssid : ssid.OfCaller) (ssidLen : UInt8) :
    Made [⟨setNetCmd, [b.mem.loadList ssid ssidLen.toNat], window 16⟩] b
      ((wifiSetNetwork ssid ssidLen).state b) := by
  refine made_auto (made_after (made_exchange (by decide) rfl le_rfl (by decide) ?_)
    fun _ b => ⟨b.mem, rfl⟩)
  simp [Param.bytes, hssid.loadList, -Memory.storeList_cons]

theorem made_wifiSetPassphrase {ssid passphrase : Ptr Obj} (hssid : ssid.OfCaller)
    (hpass : passphrase.OfCaller) (ssidLen len : UInt8) :
    Made [⟨setPassphraseCmd,
      [b.mem.loadList ssid ssidLen.toNat, b.mem.loadList passphrase len.toNat], window 16⟩] b
      ((wifiSetPassphrase ssid ssidLen passphrase len).state b) := by
  refine made_requestByte (by decide) rfl ?_
  simp [Param.bytes, hssid.loadList, hpass.loadList, -Memory.storeList_cons]

theorem made_wifiSetKey {ssid key : Ptr Obj} (hssid : ssid.OfCaller) (hkey : key.OfCaller)
    (ssidLen keyIdx len : UInt8) :
    Made [⟨setKeyCmd,
      [b.mem.loadList ssid ssidLen.toNat, [keyIdx], b.mem.loadList key len.toNat], window 16⟩] b
      ((wifiSetKey ssid ssidLen keyIdx key len).state b) := by
  refine made_auto (made_requestByte (by decide) rfl ?_)
  simp [Param.bytes, hssid.loadList, hkey.loadList, -Memory.storeList_cons]

theorem made_wifiSetApNetwork {ssid : Ptr Obj} (hssid : ssid.OfCaller) (ssidLen channel : UInt8) :
    Made [⟨setApNetCmd, [b.mem.loadList ssid ssidLen.toNat, [channel]], window 20⟩] b
      ((wifiSetApNetwork ssid ssidLen channel).state b) := by
  refine made_auto (made_auto (made_after (made_exchange (by decide) rfl le_rfl (by decide) ?_)
    fun _ b => ⟨b.mem, rfl⟩))
  simp [Param.bytes, hssid.loadList, -Memory.storeList_cons]

theorem made_wifiSetApPassphrase {ssid passphrase : Ptr Obj} (hssid : ssid.OfCaller)
    (hpass : passphrase.OfCaller) (ssidLen len channel : UInt8) :
    Made [⟨setApPassphraseCmd, [b.mem.loadList ssid ssidLen.toNat,
      b.mem.loadList passphrase len.toNat, [channel]], window 20⟩] b
      ((wifiSetApPassphrase ssid ssidLen passphrase len channel).state b) := by
  refine made_auto (made_requestData (by decide) rfl (by decide) ?_)
  simp [Param.bytes, hssid.loadList, hpass.loadList, -Memory.storeList_cons]

theorem made_getConnectionStatus (b : Bus) :
    Made [⟨getConnStatusCmd, [], window 16⟩] b (getConnectionStatus.state b) :=
  made_auto (made_after (made_exchange (by decide) rfl le_rfl (by decide) rfl)
    fun _ b => ⟨b.mem, rfl⟩)

theorem made_config (validParams : UInt8) (localIp gateway subnet : UInt32) :
    Made [⟨setIpConfigCmd, [[validParams], le32 localIp, le32 gateway, le32 subnet], window 16⟩] b
      ((config validParams localIp gateway subnet).state b) := by
  refine made_auto (made_auto (made_auto (made_auto (made_requestByte (by decide) rfl ?_))))
  simp [Param.bytes, -Memory.storeList_cons]

theorem made_setDNS (validParams : UInt8) (dnsServer1 dnsServer2 : UInt32) :
    Made [⟨setDnsConfigCmd, [[validParams], le32 dnsServer1, le32 dnsServer2], window 16⟩] b
      ((setDNS validParams dnsServer1 dnsServer2).state b) := by
  refine made_auto (made_auto (made_auto (made_requestByte (by decide) rfl ?_)))
  simp [Param.bytes, -Memory.storeList_cons]

theorem made_setPowerMode (mode : UInt8) :
    Made [⟨setPowerModeCmd, [[mode]], window 20⟩] b ((setPowerMode mode).state b) := by
  refine made_auto (made_auto (made_after (made_exchange (by decide) rfl le_rfl (by decide) ?_)
    fun _ b => ⟨b.mem, rfl⟩))
  simp [Param.bytes, -Memory.storeList_cons]

theorem made_requestPin {cmd : UInt8} (hcmd : Short cmd) (pin : UInt8) (var : Var) (arg : UInt8)
    (hvar : var ≠ .pin ∧ var ≠ .data) :
    Made [⟨cmd, [[pin], [arg]], window 24⟩] b ((requestPin cmd pin var arg).state b) := by
  refine made_auto (made_auto (made_requestData hcmd rfl (by decide) ?_))
  simp [Param.bytes, hvar.2, hvar.1.symm, -Memory.storeList_cons]

theorem made_ping (ipAddress : UInt32) (ttl : UInt8) :
    Made [⟨pingCmd, [le32 ipAddress, [ttl]], window 24⟩] b ((ping ipAddress ttl).state b) := by
  refine made_auto (made_auto (made_after (made_exchange (by decide) rfl le_rfl (by decide) ?_)
    fun _ b => ⟨b.mem, rfl⟩))
  simp [Param.bytes, -Memory.storeList_cons]

theorem made_startScanNetworks (b : Bus) :
    Made [⟨WiFiNINA.startScanNetworks, [], window 16⟩] b (startScanNetworks.state b) :=
  made_auto (made_after (made_exchange (by decide) rfl le_rfl (by decide) rfl)
    fun _ b => ⟨b.mem, rfl⟩)

/-- The rows are cleared in between. -/
theorem made_getScanNetworks (b : Bus) :
    Made [⟨scanNetworks, [], window wifiSocketBufferSize⟩] b (getScanNetworks.state b) := by
  have hmid : ∀ b, ∃ m, (Bus.clear Global.networkSsid.ptr Global.networkSsid.size >>= fun _ =>
      Bus.uninit .paramsRead 1).state b = { b with mem := m } :=
    fun b => ⟨b.mem.storeList Global.networkSsid.ptr (List.replicate _ 0), rfl⟩
  have hboth : Made [⟨scanNetworks, [], window wifiSocketBufferSize⟩] b
      ((send scanNetworks 0 ([] : List TParam) >>= fun _ =>
        (Bus.clear Global.networkSsid.ptr Global.networkSsid.size >>= fun _ =>
          Bus.uninit .paramsRead 1) >>= fun x =>
            receiveResponse scanNetworks wifiSocketBufferSize (x.headD 0) scanParams
              (UInt8.ofNat wlNetworksListMaxnum)).state b) :=
    made_transfers (by decide) rfl maxnum_le_scanParams (by decide) hmid (fun x => x.headD 0) rfl
  have hall := made_after hboth (f := fun reply => pure (reply.numParamRead.toNat : ℤ))
    fun _ b => ⟨b.mem, rfl⟩
  simp only [Prog.bind_bind] at hall
  exact hall

/-- What is sent with a dummy byte only. -/
theorem args_dummy (b : Bus) :
    ([(⟨1, ⟨.auto .dummy 1, 0⟩⟩ : TParam)].map fun p =>
      p.bytes (b.mem.storeList ⟨.auto .dummy 1, 0⟩ [dummyData])) = [[dummyData]] := by
  simp [Param.bytes, -Memory.storeList_cons]

theorem made_disconnect (b : Bus) :
    Made [⟨disconnectCmd, [[dummyData]], window 16⟩] b (disconnect.state b) := by
  refine made_auto (made_after (made_requestVar (by decide) rfl (by decide) ?_)
    fun _ b => ⟨b.mem, rfl⟩)
  simp [Param.bytes, -Memory.storeList_cons]

theorem made_getMacAddress (b : Bus) :
    Made [⟨getMacaddrCmd, [[dummyData]], window 32⟩] b (getMacAddress.state b) :=
  made_auto (made_requestAt (by decide) rfl (by decide) (args_dummy b))

theorem made_refreshNetworkData (var : Global) (dest : Ptr Obj) (b : Bus) :
    Made [⟨getIpaddrCmd, [[dummyData]], window 24⟩] b ((refreshNetworkData var dest).state b) := by
  have hdata : Made [⟨getIpaddrCmd, [[dummyData]], window 24⟩] b
      ((getNetworkData Global.localIp.ptr Global.subnetMask.ptr Global.gatewayIp.ptr).state b) :=
    made_auto (made_after (made_exchange (by decide) rfl le_rfl (by decide) (args_dummy b))
      fun _ b => ⟨b.mem, rfl⟩)
  exact made_after hdata fun _ b => ⟨b.mem.storeList dest (b.mem.loadList var.ptr 4), rfl⟩

/-- The array is cleared in between. -/
theorem made_getCurrentSSID (b : Bus) :
    Made [⟨getCurrSsidCmd, [[dummyData]], window 48⟩] b (getCurrentSSID.state b) := by
  have hmid : ∀ b, ∃ m, (Bus.clear Global.ssid.ptr wlSsidMaxLength >>= fun _ =>
      Bus.uninit .paramsRead 1).state b = { b with mem := m } :=
    fun b => ⟨b.mem.storeList Global.ssid.ptr (List.replicate _ 0), rfl⟩
  have hboth : Made [⟨getCurrSsidCmd, [[dummyData]], window 48⟩]
      { b with mem := b.mem.storeList ⟨.auto .dummy 1, 0⟩ [dummyData] }
      ((send getCurrSsidCmd 1 [(⟨1, ⟨.auto .dummy 1, 0⟩⟩ : TParam)] >>= fun _ =>
        (Bus.clear Global.ssid.ptr wlSsidMaxLength >>= fun _ =>
          Bus.uninit .paramsRead 1) >>= fun x =>
            receiveResponse getCurrSsidCmd 48 (x.headD 0)
              [(⟨UInt8.ofNat wlSsidMaxLength, Global.ssid.ptr⟩ : TParam)] 1).state
        { b with mem := b.mem.storeList ⟨.auto .dummy 1, 0⟩ [dummyData] }) :=
    made_transfers (by decide) rfl le_rfl (by decide) hmid (fun x => x.headD 0) (args_dummy b)
  have hall := made_after hboth (f := fun _ => pure Global.ssid.ptr) fun _ b => ⟨b.mem, rfl⟩
  simp only [Prog.bind_bind] at hall
  exact made_auto hall

theorem made_getCurrentBSSID (b : Bus) :
    Made [⟨getCurrBssidCmd, [[dummyData]], window 32⟩] b (getCurrentBSSID.state b) :=
  made_auto (made_requestAt (by decide) rfl (by decide) (args_dummy b))

theorem made_getCurrentRSSI (b : Bus) :
    Made [⟨getCurrRssiCmd, [[dummyData]], window 20⟩] b (getCurrentRSSI.state b) :=
  made_auto (made_after (made_exchange (by decide) rfl le_rfl (by decide) (args_dummy b))
    fun _ b => ⟨b.mem, rfl⟩)

theorem made_getCurrentEncryptionType (b : Bus) :
    Made [⟨getCurrEnctCmd, [[dummyData]], window 20⟩] b (getCurrentEncryptionType.state b) := by
  refine made_auto (made_after (made_requestVar (by decide) rfl (by decide) ?_)
    fun _ b => ⟨b.mem, rfl⟩)
  simp [Param.bytes, -Memory.storeList_cons]

/-- The exchange about a network item, unless it is beyond the list. -/
def itemScript (cmd networkItem : UInt8) (size : ℕ) : List Exchange :=
  if outOfList networkItem then [] else [⟨cmd, [[networkItem]], size⟩]

/-- The functions that look first whether a network item is on the list. -/
theorem made_item {α : Type} {cmd networkItem : UInt8} {size : ℕ} {beyond : α} {p : Prog Bus α}
    (h : Made [⟨cmd, [[networkItem]], size⟩] b (p.state b)) :
    Made (itemScript cmd networkItem size) b
      ((if outOfList networkItem then pure beyond else p).state b) := by
  rw [itemScript, Prog.state_ite]
  split
  · exact made_nil b.mem
  · exact h

theorem made_getEncTypeNetworks (networkItem : UInt8) :
    Made (itemScript getIdxEnctCmd networkItem (window 20)) b
      ((getEncTypeNetworks networkItem).state b) := by
  refine made_auto (made_item (made_after (made_requestVar (by decide) rfl (by decide) ?_)
    fun _ b => ⟨b.mem, rfl⟩))
  simp [Param.bytes, -Memory.storeList_cons]

theorem made_getBSSIDNetworks (networkItem : UInt8) (bssid : Ptr Obj) :
    Made (itemScript getIdxBssid networkItem (window 32)) b
      ((getBSSIDNetworks networkItem bssid).state b) := by
  refine made_auto (made_item (made_requestAt (by decide) rfl (by decide) ?_))
  simp [Param.bytes, -Memory.storeList_cons]

theorem made_getChannelNetworks (networkItem : UInt8) :
    Made (itemScript getIdxChannelCmd networkItem (window 20)) b
      ((getChannelNetworks networkItem).state b) := by
  refine made_auto (made_item (made_after (made_requestVar (by decide) rfl (by decide) ?_)
    fun _ b => ⟨b.mem, rfl⟩))
  simp [Param.bytes, -Memory.storeList_cons]

/-- The reply is awaited under another command. -/
theorem made_getRSSINetworks (networkItem : UInt8) :
    Made (itemScript getIdxRssiCmd networkItem (window 20)) b
      ((getRSSINetworks networkItem).state b) := by
  obtain ⟨m, hm⟩ : ∃ m, m = (b.mem.storeList ⟨.auto .rssi 4, 0⟩ (le32 0)).storeList
      ⟨.auto .networkItem 1, 0⟩ [networkItem] := ⟨_, rfl⟩
  have hitem : ([(⟨1, ⟨.auto .networkItem 1, 0⟩⟩ : TParam)].map fun p => p.bytes m) =
      [[networkItem]] := by
    rw [hm]
    simp [Param.bytes, -Memory.storeList_cons]
  have hmid : ∀ b, ∃ m, (Bus.uninit .paramsRead 1).state b = { b with mem := m } :=
    fun b => ⟨b.mem, rfl⟩
  have hboth : Made [⟨getIdxRssiCmd, [[networkItem]], window 20⟩] { b with mem := m }
      ((send getIdxRssiCmd 1 [(⟨1, ⟨.auto .networkItem 1, 0⟩⟩ : TParam)] >>= fun _ =>
        Bus.uninit .paramsRead 1 >>= fun x =>
          receiveResponse getIdxChannelCmd 20 (x.headD 0)
            [(⟨4, ⟨.auto .rssi 4, 0⟩⟩ : TParam)] 1).state { b with mem := m }) :=
    made_transfers (by decide) rfl le_rfl (by decide) hmid (fun x => x.headD 0) hitem
  have hall := made_after hboth (f := fun _ => Bus.loadList ⟨.auto .rssi 4, 0⟩ 4 >>= fun bytes =>
    pure (Int.bmod (ofLe bytes) (2 ^ 32))) fun _ b => ⟨b.mem, rfl⟩
  simp only [Prog.bind_bind] at hall
  rw [hm] at hall
  exact made_auto (made_auto (made_item hall))

theorem made_getFwVersion (b : Bus) :
    Made [⟨getFwVersionCmd, [], window 48⟩] b (getFwVersion.state b) :=
  made_requestAt (by decide) rfl (by decide) rfl

theorem made_getTime (b : Bus) :
    Made [⟨getTimeCmd, [], window 48⟩] b (getTime.state b) :=
  made_after (made_requestVar (by decide) rfl (by decide) rfl) fun _ b => ⟨b.mem, rfl⟩

end WiFiDrv

/-- What is sent of a string: its length goes into one byte. -/
def sentString (b : Bus) (p : Ptr Obj) : List UInt8 :=
  b.mem.loadList p (UInt8.ofNat ((Bus.strlen p).val b)).toNat

namespace WiFiDrv

variable {b : Bus}

theorem made_setHostname {hostname : Ptr Obj} (h : hostname.OfCaller) :
    Made [⟨setHostnameCmd, [sentString b hostname], window 16⟩] b
      ((setHostname hostname).state b) := by
  refine made_strlen (made_requestByte (by decide) rfl ?_)
  simp [Param.bytes, sentString, h.loadList, -Memory.storeList_cons]

theorem made_reqHostByName {aHostname : Ptr Obj} (h : aHostname.OfCaller) :
    Made [⟨reqHostByNameCmd, [sentString b aHostname], window 20⟩] b
      ((reqHostByName aHostname).state b) := by
  refine made_auto (made_strlen (made_after (made_exchange (by decide) rfl le_rfl (by decide) ?_)
    fun _ b => ⟨b.mem, rfl⟩))
  rw [h.val_strlen (by decide)]
  simp [Param.bytes, sentString, h.loadList, -Memory.storeList_cons]

/-- Since the request counts as refused, the result is never asked for. -/
theorem made_getHostByName {aHostname aResult : Ptr Obj} (h : aHostname.OfCaller) :
    Made [⟨reqHostByNameCmd, [sentString b aHostname], window 20⟩] b
      ((getHostByName aHostname aResult).state b) := by
  rw [getHostByName, Prog.state_bind, val_reqHostByName, if_neg (not_not.mpr rfl)]
  exact made_reqHostByName h

end WiFiDrv

section Waiting
variable {e : Exchange} {b : Bus}

theorem made_pollWhile {query : Prog Bus ℤ} (h : ∀ b, Made [e] b (query.state b))
    (again : UInt8 → Bool) (attempts : ℕ) (b : Bus) :
    ∃ n ≤ attempts + 1,
      Made (List.replicate n e) b ((WiFi.pollWhile again query attempts).state b) := by
  induction attempts generalizing b with
  | zero => exact ⟨1, le_rfl, made_after (h b) fun _ b => ⟨b.mem, rfl⟩⟩
  | succ attempts ih =>
      rw [WiFi.pollWhile, Prog.state_bind, Prog.state_ite]
      split
      · obtain ⟨n, hn, hrest⟩ := ih (query.state b)
        exact ⟨n + 1, Nat.succ_le_succ hn, (h b).append hrest⟩
      · exact ⟨1, Nat.succ_le_succ (Nat.zero_le _), h b⟩

/-- The polls of the connection status. -/
def statusPolls (polls : ℕ) : List Exchange :=
  List.replicate polls ⟨getConnStatusCmd, [], window 16⟩

theorem made_beginCommon (b : Bus) :
    ∃ n ≤ 10, Made (statusPolls n) b (WiFi.beginCommon.state b) := by
  rw [WiFi.beginCommon_eq]
  exact made_pollWhile WiFiDrv.made_getConnectionStatus WiFi.pending 9 b

theorem made_beginAPCommon (b : Bus) :
    ∃ n ≤ 10, Made (statusPolls n) b (WiFi.beginAPCommon.state b) :=
  made_pollWhile WiFiDrv.made_getConnectionStatus WiFi.pendingAP 9 b

/-- A request, and the polls unless it fails. -/
theorem made_waiting {e' : Exchange} {request wait : Prog Bus ℤ} (failed : ℤ)
    (h : Made [e] b (request.state b))
    (hwait : ∀ b, ∃ n ≤ 10, Made (List.replicate n e') b (wait.state b)) :
    ∃ n ≤ 10, Made (e :: List.replicate n e') b ((request >>= fun result =>
      if result = wlFailure then pure failed else wait).state b) := by
  rw [Prog.state_bind, Prog.state_ite]
  split
  · exact ⟨0, Nat.zero_le 10, h⟩
  · obtain ⟨n, hn, hpolls⟩ := hwait (request.state b)
    exact ⟨n, hn, h.append hpolls⟩

end Waiting

namespace WiFi

variable {b : Bus}

/-- An open network is never waited for. -/
theorem made_beginOpen {ssid : Ptr Obj} (h : ssid.OfCaller) :
    Made [⟨setNetCmd, [sentString b ssid], window 16⟩] b ((beginOpen ssid).state b) := by
  have hdeclined : (WiFiDrv.wifiSetNetwork ssid (UInt8.ofNat ((Bus.strlen ssid).val b))).val b =
      wlFailure := (Begin.declined_iff (c := .beginOpen ssid)).mp (.inl trivial)
  rw [beginOpen, Prog.state_bind, Bus.state_strlen, Prog.state_bind, if_pos hdeclined]
  exact WiFiDrv.made_wifiSetNetwork h _

theorem made_beginPassphrase {ssid passphrase : Ptr Obj} (h : ssid.OfCaller)
    (hpass : passphrase.OfCaller) :
    ∃ n ≤ 10, Made (⟨setPassphraseCmd, [sentString b ssid, sentString b passphrase], window 16⟩ ::
      statusPolls n) b ((beginPassphrase ssid passphrase).state b) := by
  rw [beginPassphrase, Prog.state_bind, Prog.state_bind, Bus.state_strlen, Bus.state_strlen]
  exact made_waiting _ (WiFiDrv.made_wifiSetPassphrase h hpass _ _) made_beginCommon

theorem made_beginWEP {ssid key : Ptr Obj} (h : ssid.OfCaller) (hkey : key.OfCaller)
    (keyIdx : UInt8) :
    ∃ n ≤ 10, Made (⟨setKeyCmd, [sentString b ssid, [keyIdx], sentString b key], window 16⟩ ::
      statusPolls n) b ((beginWEP ssid keyIdx key).state b) := by
  rw [beginWEP, Prog.state_bind, Prog.state_bind, Bus.state_strlen, Bus.state_strlen]
  exact made_waiting _ (WiFiDrv.made_wifiSetKey h hkey _ _ _) made_beginCommon

theorem made_beginAPSsidChannel {ssid : Ptr Obj} (h : ssid.OfCaller) (channel : UInt8) :
    ∃ n ≤ 10, Made (⟨setApNetCmd, [sentString b ssid, [channel]], window 20⟩ :: statusPolls n) b
      ((beginAPSsidChannel ssid channel).state b) := by
  rw [beginAPSsidChannel, Prog.state_bind, Bus.state_strlen]
  exact made_waiting _ (WiFiDrv.made_wifiSetApNetwork h _ _) made_beginAPCommon

theorem made_beginAPSsidPassphraseChannel {ssid passphrase : Ptr Obj} (h : ssid.OfCaller)
    (hpass : passphrase.OfCaller) (channel : UInt8) :
    ∃ n ≤ 10, Made (⟨setApPassphraseCmd,
      [sentString b ssid, sentString b passphrase, [channel]], window 20⟩ :: statusPolls n) b
      ((beginAPSsidPassphraseChannel ssid passphrase channel).state b) := by
  rw [beginAPSsidPassphraseChannel, Prog.state_bind, Prog.state_bind, Bus.state_strlen,
    Bus.state_strlen]
  exact made_waiting _ (WiFiDrv.made_wifiSetApPassphrase h hpass _ _ _) made_beginAPCommon

theorem made_scanNetworks (b : Bus) :
    ∃ n ≤ 10, Made (⟨startScanNetworks, [], window 16⟩ ::
      List.replicate n ⟨WiFiNINA.scanNetworks, [], window wifiSocketBufferSize⟩) b
      (scanNetworks.state b) := by
  refine made_waiting _ (WiFiDrv.made_startScanNetworks b) fun b => ?_
  obtain ⟨n, hn, hpolls⟩ := made_pollWhile WiFiDrv.made_getScanNetworks (· == 0) 9 b
  exact ⟨n, hn, made_after hpolls fun _ b => ⟨b.mem, rfl⟩⟩

/-- The requests of the functions that configure the interface and a name server. -/
theorem made_configDNS (validParams : UInt8) (localIp gateway subnet : UInt32)
    (validServers : UInt8) (dnsServer1 dnsServer2 : UInt32) :
    Made [⟨setIpConfigCmd, [[validParams], le32 localIp, le32 gateway, le32 subnet], window 16⟩,
      ⟨setDnsConfigCmd, [[validServers], le32 dnsServer1, le32 dnsServer2], window 16⟩] b
      ((WiFiDrv.config validParams localIp gateway subnet >>= fun _ =>
        WiFiDrv.setDNS validServers dnsServer1 dnsServer2 >>= fun _ => pure ()).state b) := by
  have hconfig : ∀ b : Bus, Made
      [⟨setIpConfigCmd, [[validParams], le32 localIp, le32 gateway, le32 subnet], window 16⟩] b
      ((WiFiDrv.config validParams localIp gateway subnet).state b) :=
    fun _ => WiFiDrv.made_config validParams localIp gateway subnet
  have hdns : ∀ b : Bus, Made
      [⟨setDnsConfigCmd, [[validServers], le32 dnsServer1, le32 dnsServer2], window 16⟩] b
      ((WiFiDrv.setDNS validServers dnsServer1 dnsServer2).state b) :=
    fun _ => WiFiDrv.made_setDNS validServers dnsServer1 dnsServer2
  exact made_cons hconfig fun _ _ => made_cons hdns fun _ b => made_nil b.mem

theorem made_setLEDs (red green blue : UInt8) :
    Made [⟨setPinMode, [[25], [1]], window 24⟩, ⟨setPinMode, [[26], [1]], window 24⟩,
      ⟨setPinMode, [[27], [1]], window 24⟩, ⟨setAnalogWrite, [[25], [red]], window 24⟩,
      ⟨setAnalogWrite, [[26], [green]], window 24⟩, ⟨setAnalogWrite, [[27], [blue]], window 24⟩] b
      ((setLEDs red green blue).state b) := by
  have hmode : ∀ (pin : UInt8) (b : Bus), Made [⟨setPinMode, [[pin], [1]], window 24⟩] b
      ((WiFiDrv.pinMode pin 1).state b) := fun pin b =>
    WiFiDrv.made_requestPin (by decide) pin .mode 1 (by decide)
  have hwrite : ∀ (pin value : UInt8) (b : Bus),
      Made [⟨setAnalogWrite, [[pin], [value]], window 24⟩] b
        ((WiFiDrv.analogWrite pin value).state b) := fun pin value b =>
    WiFiDrv.made_requestPin (by decide) pin .value value (by decide)
  exact made_cons (hmode 25) fun _ _ => made_cons (hmode 26) fun _ _ => made_cons (hmode 27)
    fun _ _ => made_cons (hwrite 25 red) fun _ _ => made_cons (hwrite 26 green) fun _ _ =>
      made_cons (hwrite 27 blue) fun _ b => made_nil b.mem

/-- A request whose result is dropped. -/
theorem made_drop {es : List Exchange} {request : Prog Bus ℤ} (h : Made es b (request.state b)) :
    Made es b ((request >>= fun _ => pure ()).state b) := h

/-- A request of whose result a byte is returned. -/
theorem made_truncate {es : List Exchange} {query : Prog Bus ℤ} (h : Made es b (query.state b)) :
    Made es b ((query >>= fun x => pure ((toByte x).toNat : ℤ)).state b) := h

theorem made_copiedValue (var : Global) (b : Bus) :
    Made [⟨getIpaddrCmd, [[dummyData]], window 24⟩] b
      ((copiedValue (WiFiDrv.refreshNetworkData var)).state b) :=
  made_after (WiFiDrv.made_refreshNetworkData var _ b) fun _ b => ⟨b.mem, rfl⟩

theorem made_copyAddress {e : Exchange} {query : Prog Bus (Ptr Obj)}
    (h : Made [e] b (query.state b)) (dest : Ptr Obj) :
    Made [e] b ((copyAddress query dest).state b) :=
  made_after h fun src b => ⟨b.mem.storeList dest (b.mem.loadList src wlMacAddrLength), rfl⟩

/-- No host is ever found, so none is ever pinged. -/
theorem made_pingHostname {hostname : Ptr Obj} (h : hostname.OfCaller) (ttl : ℤ) :
    Made [⟨reqHostByNameCmd, [sentString b hostname], window 20⟩] b
      ((pingHostname hostname ttl).state b) := by
  rw [pingHostname, Prog.state_bind, WiFiClient.val_hostByName, if_pos rfl]
  exact WiFiDrv.made_getHostByName h

end WiFi

/-! ## The functions of WiFi.c -/

namespace WiFiCall

/-- The strings of a call are not in variables that only come to be in it. -/
def Separate : WiFiCall → Prop
  | beginOpen p | beginAPSsid p | beginAPSsidChannel p _ | setHostname p | hostByName p _
  | pingHostname p _ => p.OfCaller
  | beginWEP p _ q | beginPassphrase p q | beginAPSsidPassphrase p q
  | beginAPSsidPassphraseChannel p q _ => p.OfCaller ∧ q.OfCaller
  | _ => True

/-- The exchanges of a function of `WiFi.c`, called in `b`, with the polls it makes. -/
def script (b : Bus) (polls : ℕ) : WiFiCall → List Exchange
  | init | end' | ssidIndex _ => []
  | beginOpen network => [⟨setNetCmd, [sentString b network], window 16⟩]
  | beginWEP network keyIdx key =>
      ⟨setKeyCmd, [sentString b network, [keyIdx], sentString b key], window 16⟩ ::
        statusPolls polls
  | beginPassphrase network passphrase =>
      ⟨setPassphraseCmd, [sentString b network, sentString b passphrase], window 16⟩ ::
        statusPolls polls
  | beginAPSsid network =>
      ⟨setApNetCmd, [sentString b network, [1]], window 20⟩ :: statusPolls polls
  | beginAPSsidChannel network channel =>
      ⟨setApNetCmd, [sentString b network, [channel]], window 20⟩ :: statusPolls polls
  | beginAPSsidPassphrase network passphrase =>
      ⟨setApPassphraseCmd, [sentString b network, sentString b passphrase, [1]], window 20⟩ ::
        statusPolls polls
  | beginAPSsidPassphraseChannel network passphrase channel =>
      ⟨setApPassphraseCmd, [sentString b network, sentString b passphrase, [channel]], window 20⟩ ::
        statusPolls polls
  | configStatic localIp =>
      [⟨setIpConfigCmd, [[1], le32 localIp, le32 0, le32 0], window 16⟩]
  | configStaticDns localIp dnsServer =>
      [⟨setIpConfigCmd, [[1], le32 localIp, le32 0, le32 0], window 16⟩,
        ⟨setDnsConfigCmd, [[1], le32 dnsServer, le32 0], window 16⟩]
  | configStaticDnsGateway localIp dnsServer gateway =>
      [⟨setIpConfigCmd, [[2], le32 localIp, le32 gateway, le32 0], window 16⟩,
        ⟨setDnsConfigCmd, [[1], le32 dnsServer, le32 0], window 16⟩]
  | configStaticDnsGatewaySubnet localIp dnsServer gateway subnet =>
      [⟨setIpConfigCmd, [[3], le32 localIp, le32 gateway, le32 subnet], window 16⟩,
        ⟨setDnsConfigCmd, [[1], le32 dnsServer, le32 0], window 16⟩]
  | setDNS dnsServer1 => [⟨setDnsConfigCmd, [[1], le32 dnsServer1, le32 0], window 16⟩]
  | setDNSTwoServers dnsServer1 dnsServer2 =>
      [⟨setDnsConfigCmd, [[2], le32 dnsServer1, le32 dnsServer2], window 16⟩]
  | setHostname name => [⟨setHostnameCmd, [sentString b name], window 16⟩]
  | disconnect => [⟨disconnectCmd, [[dummyData]], window 16⟩]
  | macAddress _ => [⟨getMacaddrCmd, [[dummyData]], window 32⟩]
  | localIP | subnetMask | gatewayIP => [⟨getIpaddrCmd, [[dummyData]], window 24⟩]
  | ssid => [⟨getCurrSsidCmd, [[dummyData]], window 48⟩]
  | bssid _ => [⟨getCurrBssidCmd, [[dummyData]], window 32⟩]
  | rssi => [⟨getCurrRssiCmd, [[dummyData]], window 20⟩]
  | encryptionType => [⟨getCurrEnctCmd, [[dummyData]], window 20⟩]
  | scanNetworks =>
      ⟨startScanNetworks, [], window 16⟩ ::
        List.replicate polls ⟨WiFiNINA.scanNetworks, [], window wifiSocketBufferSize⟩
  | rssiIndex networkItem => WiFiDrv.itemScript getIdxRssiCmd networkItem (window 20)
  | encryptionTypeIndex networkItem => WiFiDrv.itemScript getIdxEnctCmd networkItem (window 20)
  | bssidIndex networkItem _ => WiFiDrv.itemScript getIdxBssid networkItem (window 32)
  | channelIndex networkItem => WiFiDrv.itemScript getIdxChannelCmd networkItem (window 20)
  | status => [⟨getConnStatusCmd, [], window 16⟩]
  | hostByName name _ | pingHostname name _ =>
      [⟨reqHostByNameCmd, [sentString b name], window 20⟩]
  | getTime => [⟨getTimeCmd, [], window 48⟩]
  | lowPowerMode => [⟨setPowerModeCmd, [[1]], window 20⟩]
  | noLowPowerMode => [⟨setPowerModeCmd, [[0]], window 20⟩]
  | pingIpaddress host ttl =>
      [⟨pingCmd, [le32 host, [toByte (if ttl ≤ 0 then 128 else ttl)]], window 24⟩]
  | setLEDs red green blue =>
      [⟨setPinMode, [[25], [1]], window 24⟩, ⟨setPinMode, [[26], [1]], window 24⟩,
        ⟨setPinMode, [[27], [1]], window 24⟩, ⟨setAnalogWrite, [[25], [red]], window 24⟩,
        ⟨setAnalogWrite, [[26], [green]], window 24⟩,
        ⟨setAnalogWrite, [[27], [blue]], window 24⟩]
  | firmwareVersion => [⟨getFwVersionCmd, [], window 48⟩]

/-- The functions that poll. -/
def Polls : WiFiCall → Prop
  | beginWEP _ _ _ | beginPassphrase _ _ | beginAPSsid _ | beginAPSsidChannel _ _
  | beginAPSsidPassphrase _ _ | beginAPSsidPassphraseChannel _ _ _ | scanNetworks => True
  | _ => False

section Script
variable {c : WiFiCall} {b : Bus}

theorem made_returning {α : Type} {es : List Exchange} {p : Prog Bus α} {f : α → Returned}
    (h : Made es b (p.state b)) : Made es b ((p.returning f).state b) := h

theorem made_polls (hpolls : c.Polls) (hc : c.Separate) (b : Bus) :
    ∃ n ≤ 10, Made (c.script b n) b (c.run.state b) := by
  have hreturning : ∀ {es : ℕ → List Exchange} {p : Prog Bus ℤ} {f : ℤ → Returned},
      (∃ n ≤ 10, Made (es n) b (p.state b)) → ∃ n ≤ 10, Made (es n) b ((p.returning f).state b) :=
    fun ⟨n, hn, hmade⟩ => ⟨n, hn, made_returning hmade⟩
  cases c with
  | beginWEP network keyIdx key => exact hreturning (WiFi.made_beginWEP hc.1 hc.2 keyIdx)
  | beginPassphrase network passphrase =>
      exact hreturning (WiFi.made_beginPassphrase hc.1 hc.2)
  | beginAPSsid network => exact hreturning (WiFi.made_beginAPSsidChannel hc 1)
  | beginAPSsidChannel network channel =>
      exact hreturning (WiFi.made_beginAPSsidChannel hc channel)
  | beginAPSsidPassphrase network passphrase =>
      exact hreturning (WiFi.made_beginAPSsidPassphraseChannel hc.1 hc.2 1)
  | beginAPSsidPassphraseChannel network passphrase channel =>
      exact hreturning (WiFi.made_beginAPSsidPassphraseChannel hc.1 hc.2 channel)
  | scanNetworks => exact hreturning (WiFi.made_scanNetworks b)
  | _ => exact hpolls.elim

/-- The other functions do not depend on the replies at all. -/
theorem made_of_not_polls (hpolls : ¬ c.Polls) (hc : c.Separate) (b : Bus) (n : ℕ) :
    Made (c.script b n) b (c.run.state b) := by
  cases c with
  | init =>
      exact ⟨performed_nil (by simp [run, WiFi.init, WiFiDrv.wifiDriverInit, begin,
        Bus.transmitted]) rfl rfl, List.forall_mem_nil _⟩
  | end' =>
      exact ⟨performed_nil (by simp [run, WiFi.end', WiFiDrv.wifiDriverDeinit, SpiDrv.end',
        Bus.transmitted]) rfl rfl, List.forall_mem_nil _⟩
  | beginOpen network => exact made_returning (WiFi.made_beginOpen hc)
  | configStatic localIp =>
      exact made_returning (WiFi.made_drop (WiFiDrv.made_config 1 localIp 0 0))
  | configStaticDns localIp dnsServer =>
      exact made_returning (WiFi.made_configDNS 1 localIp 0 0 1 dnsServer 0)
  | configStaticDnsGateway localIp dnsServer gateway =>
      exact made_returning (WiFi.made_configDNS 2 localIp gateway 0 1 dnsServer 0)
  | configStaticDnsGatewaySubnet localIp dnsServer gateway subnet =>
      exact made_returning (WiFi.made_configDNS 3 localIp gateway subnet 1 dnsServer 0)
  | setDNS dnsServer1 =>
      exact made_returning (WiFi.made_drop (WiFiDrv.made_setDNS 1 dnsServer1 0))
  | setDNSTwoServers dnsServer1 dnsServer2 =>
      exact made_returning (WiFi.made_drop (WiFiDrv.made_setDNS 2 dnsServer1 dnsServer2))
  | setHostname name => exact made_returning (WiFi.made_drop (WiFiDrv.made_setHostname hc))
  | disconnect => exact made_returning (WiFiDrv.made_disconnect b)
  | macAddress dest =>
      exact made_returning (WiFi.made_copyAddress (WiFiDrv.made_getMacAddress b) dest)
  | localIP => exact made_returning (WiFi.made_copiedValue .localIp b)
  | subnetMask => exact made_returning (WiFi.made_copiedValue .subnetMask b)
  | gatewayIP => exact made_returning (WiFi.made_copiedValue .gatewayIp b)
  | ssid => exact made_returning (WiFiDrv.made_getCurrentSSID b)
  | bssid dest =>
      exact made_returning (WiFi.made_copyAddress (WiFiDrv.made_getCurrentBSSID b) dest)
  | rssi => exact made_returning (WiFiDrv.made_getCurrentRSSI b)
  | encryptionType =>
      exact made_returning (WiFi.made_truncate (WiFiDrv.made_getCurrentEncryptionType b))
  | ssidIndex networkItem => exact made_nil b.mem
  | rssiIndex networkItem => exact made_returning (WiFiDrv.made_getRSSINetworks networkItem)
  | encryptionTypeIndex networkItem =>
      exact made_returning (WiFi.made_truncate (WiFiDrv.made_getEncTypeNetworks networkItem))
  | bssidIndex networkItem dest =>
      exact made_returning (WiFiDrv.made_getBSSIDNetworks networkItem dest)
  | channelIndex networkItem =>
      exact made_returning (WiFi.made_truncate (WiFiDrv.made_getChannelNetworks networkItem))
  | status => exact made_returning (WiFi.made_truncate (WiFiDrv.made_getConnectionStatus b))
  | hostByName name aResult => exact made_returning (WiFiDrv.made_getHostByName hc)
  | getTime => exact made_returning (WiFiDrv.made_getTime b)
  | lowPowerMode => exact made_returning (WiFi.made_drop (WiFiDrv.made_setPowerMode 1))
  | noLowPowerMode => exact made_returning (WiFi.made_drop (WiFiDrv.made_setPowerMode 0))
  | pingHostname name ttl => exact made_returning (WiFi.made_pingHostname hc ttl)
  | pingIpaddress host ttl => exact made_returning (WiFiDrv.made_ping host _)
  | setLEDs red green blue => exact made_returning (WiFi.made_setLEDs red green blue)
  | firmwareVersion => exact made_returning (WiFiDrv.made_getFwVersion b)
  | _ => exact absurd trivial hpolls

end Script

end WiFiCall

/-- **WiFi.c on the wire.**  Whatever the module answers, a function makes the exchanges of its
script, one after the other and no others, with at most ten polls; and the module that reads them
finds the arguments there. -/
theorem scripts_followed {c : WiFiCall} (hc : c.Separate) (b : Bus) :
    ∃ n ≤ 10, Performed (c.script b n) b (c.run.state b) ∧
      readSession ((c.script b n).flatMap Exchange.wire) = some (c.script b n) := by
  by_cases hpolls : c.Polls
  · obtain ⟨n, hn, hmade⟩ := WiFiCall.made_polls hpolls hc b
    exact ⟨n, hn, hmade.performed, hmade.read⟩
  · have hmade := WiFiCall.made_of_not_polls hpolls hc b 0
    exact ⟨0, Nat.zero_le 10, hmade.performed, hmade.read⟩

/-- A network is joined with a passphrase. -/
theorem scripts_followed_passphrase :
    ∃ n ≤ 10,
      let c := WiFiCall.beginPassphrase ⟨.user 0, 0⟩ ⟨.user 1, 0⟩
      Performed (c.script World.boot.bus n) World.boot.bus (c.run.state World.boot.bus) ∧
        readSession ((c.script World.boot.bus n).flatMap Exchange.wire) =
          some (c.script World.boot.bus n) :=
  scripts_followed (c := .beginPassphrase ⟨.user 0, 0⟩ ⟨.user 1, 0⟩)
    ⟨fun _ _ => Obj.noConfusion, fun _ _ => Obj.noConfusion⟩ World.boot.bus

end WiFiNINA
