import WiFiNINA.SpiDrv.Exchange
import WiFiNINA.WiFiDrv

/-!
# The functions of the upper drivers

The functions of `wifi_drv.c` and `server_drv.c` write out their exchanges by hand: the
command twice, and for each out parameter a pointer and a capacity.  `Shaped` says what
these have in common, so that what follows from it is proved once for all of them.
-/

namespace WiFiNINA

open LengthCode SpiDrv

/-- A call of a function of `wifi_drv.c` or `server_drv.c`. -/
inductive DriverCall
  | getNetworkData (ip mask gwip : Ptr Obj)
  | getRemoteData (sock : UInt8) (ip port : Ptr Obj)
  | wifiDriverInit
  | wifiDriverDeinit
  | wifiSetNetwork (ssid : Ptr Obj) (ssidLen : UInt8)
  | wifiSetPassphrase (ssid : Ptr Obj) (ssidLen : UInt8) (passphrase : Ptr Obj) (len : UInt8)
  | wifiSetKey (ssid : Ptr Obj) (ssidLen keyIdx : UInt8) (key : Ptr Obj) (len : UInt8)
  | config (validParams : UInt8) (localIp gateway subnet : UInt32)
  | setDNS (validParams : UInt8) (dnsServer1 dnsServer2 : UInt32)
  | setHostname (hostname : Ptr Obj)
  | disconnect
  | getConnectionStatus
  | getMacAddress
  | getIpAddress (ip : Ptr Obj)
  | getSubnetMask (mask : Ptr Obj)
  | getGatewayIP (ip : Ptr Obj)
  | getCurrentSSID
  | getCurrentBSSID
  | getCurrentRSSI
  | getCurrentEncryptionType
  | startScanNetworks
  | getScanNetworks
  | getSSIDNetworks (networkItem : UInt8)
  | getEncTypeNetworks (networkItem : UInt8)
  | getBSSIDNetworks (networkItem : UInt8) (bssid : Ptr Obj)
  | getChannelNetworks (networkItem : UInt8)
  | getRSSINetworks (networkItem : UInt8)
  | reqHostByName (aHostname : Ptr Obj)
  | getHostByNameResults (aResult : Ptr Obj)
  | getHostByName (aHostname aResult : Ptr Obj)
  | getFwVersion
  | getTime
  | setPowerMode (mode : UInt8)
  | wifiSetApNetwork (ssid : Ptr Obj) (ssidLen channel : UInt8)
  | wifiSetApPassphrase (ssid : Ptr Obj) (ssidLen : UInt8) (passphrase : Ptr Obj)
      (len channel : UInt8)
  | ping (ipAddress : UInt32) (ttl : UInt8)
  | debug (on : UInt8)
  | getTemperature
  | pinMode (pin mode : UInt8)
  | digitalWrite (pin value : UInt8)
  | analogWrite (pin value : UInt8)
  | startServer (port : UInt16) (sock protMode : UInt8)
  | startServerIpAddress (ipAddress : UInt32) (port : UInt16) (sock protMode : UInt8)
  | startClient (ipAddress : UInt32) (port : UInt16) (sock protMode : UInt8)
  | startClientHostname (host : Ptr Obj) (hostLen : UInt8) (ipAddress : UInt32) (port : UInt16)
      (sock protMode : UInt8)
  | stopClient (sock : UInt8)
  | getServerState (sock : UInt8)
  | getClientState (sock : UInt8)
  | availData (sock : UInt8)
  | getData (sock : UInt8) (data : Ptr Obj) (peek : UInt8)
  | getDataBuf (sock : UInt8) (data dataLen : Ptr Obj)
  | insertDataBuf (sock : UInt8) (data : Ptr Obj) (len : UInt16)
  | sendUdpData (sock : UInt8)
  | sendData (sock : UInt8) (data : Ptr Obj) (len : UInt16)
  | checkDataSent (sock : UInt8)
  | getSocket

namespace DriverCall

def run : DriverCall → Prog Bus Unit
  | getNetworkData ip mask gwip => (WiFiDrv.getNetworkData ip mask gwip).ignore
  | getRemoteData sock ip port => (WiFiDrv.getRemoteData sock ip port).ignore
  | wifiDriverInit => WiFiDrv.wifiDriverInit
  | wifiDriverDeinit => WiFiDrv.wifiDriverDeinit
  | wifiSetNetwork ssid ssidLen => (WiFiDrv.wifiSetNetwork ssid ssidLen).ignore
  | wifiSetPassphrase ssid ssidLen passphrase len =>
      (WiFiDrv.wifiSetPassphrase ssid ssidLen passphrase len).ignore
  | wifiSetKey ssid ssidLen keyIdx key len =>
      (WiFiDrv.wifiSetKey ssid ssidLen keyIdx key len).ignore
  | config validParams localIp gateway subnet =>
      (WiFiDrv.config validParams localIp gateway subnet).ignore
  | setDNS validParams dnsServer1 dnsServer2 =>
      (WiFiDrv.setDNS validParams dnsServer1 dnsServer2).ignore
  | setHostname hostname => (WiFiDrv.setHostname hostname).ignore
  | disconnect => WiFiDrv.disconnect.ignore
  | getConnectionStatus => WiFiDrv.getConnectionStatus.ignore
  | getMacAddress => WiFiDrv.getMacAddress.ignore
  | getIpAddress ip => (WiFiDrv.getIpAddress ip).ignore
  | getSubnetMask mask => (WiFiDrv.getSubnetMask mask).ignore
  | getGatewayIP ip => (WiFiDrv.getGatewayIP ip).ignore
  | getCurrentSSID => WiFiDrv.getCurrentSSID.ignore
  | getCurrentBSSID => WiFiDrv.getCurrentBSSID.ignore
  | getCurrentRSSI => WiFiDrv.getCurrentRSSI.ignore
  | getCurrentEncryptionType => WiFiDrv.getCurrentEncryptionType.ignore
  | startScanNetworks => WiFiDrv.startScanNetworks.ignore
  | getScanNetworks => WiFiDrv.getScanNetworks.ignore
  | getSSIDNetworks networkItem => (WiFiDrv.getSSIDNetworks networkItem).ignore
  | getEncTypeNetworks networkItem => (WiFiDrv.getEncTypeNetworks networkItem).ignore
  | getBSSIDNetworks networkItem bssid => (WiFiDrv.getBSSIDNetworks networkItem bssid).ignore
  | getChannelNetworks networkItem => (WiFiDrv.getChannelNetworks networkItem).ignore
  | getRSSINetworks networkItem => (WiFiDrv.getRSSINetworks networkItem).ignore
  | reqHostByName aHostname => (WiFiDrv.reqHostByName aHostname).ignore
  | getHostByNameResults aResult => (WiFiDrv.getHostByNameResults aResult).ignore
  | getHostByName aHostname aResult => (WiFiDrv.getHostByName aHostname aResult).ignore
  | getFwVersion => WiFiDrv.getFwVersion.ignore
  | getTime => WiFiDrv.getTime.ignore
  | setPowerMode mode => (WiFiDrv.setPowerMode mode).ignore
  | wifiSetApNetwork ssid ssidLen channel => (WiFiDrv.wifiSetApNetwork ssid ssidLen channel).ignore
  | wifiSetApPassphrase ssid ssidLen passphrase len channel =>
      (WiFiDrv.wifiSetApPassphrase ssid ssidLen passphrase len channel).ignore
  | ping ipAddress ttl => (WiFiDrv.ping ipAddress ttl).ignore
  | debug on => (WiFiDrv.debug on).ignore
  | getTemperature => WiFiDrv.getTemperature.ignore
  | pinMode pin mode => (WiFiDrv.pinMode pin mode).ignore
  | digitalWrite pin value => (WiFiDrv.digitalWrite pin value).ignore
  | analogWrite pin value => (WiFiDrv.analogWrite pin value).ignore
  | startServer port sock protMode => (ServerDrv.startServer port sock protMode).ignore
  | startServerIpAddress ipAddress port sock protMode =>
      (ServerDrv.startServerIpAddress ipAddress port sock protMode).ignore
  | startClient ipAddress port sock protMode =>
      (ServerDrv.startClient ipAddress port sock protMode).ignore
  | startClientHostname host hostLen ipAddress port sock protMode =>
      (ServerDrv.startClientHostname host hostLen ipAddress port sock protMode).ignore
  | stopClient sock => (ServerDrv.stopClient sock).ignore
  | getServerState sock => (ServerDrv.getServerState sock).ignore
  | getClientState sock => (ServerDrv.getClientState sock).ignore
  | availData sock => (ServerDrv.availData sock).ignore
  | getData sock data peek => (ServerDrv.getData sock data peek).ignore
  | getDataBuf sock data dataLen => (ServerDrv.getDataBuf sock data dataLen).ignore
  | insertDataBuf sock data len => (ServerDrv.insertDataBuf sock data len).ignore
  | sendUdpData sock => (ServerDrv.sendUdpData sock).ignore
  | sendData sock data len => (ServerDrv.sendData sock data len).ignore
  | checkDataSent sock => (ServerDrv.checkDataSent sock).ignore
  | getSocket => ServerDrv.getSocket.ignore

/-- The address of an automatic variable of `size` bytes. -/
def varAt (var : Var) (size : ℕ) : Ptr Obj := ⟨.auto var size, 0⟩

/-- The out parameters of a function: where each points, and the capacity declared for it. -/
def outs (m : Memory Obj UInt8) : DriverCall → List (Ptr Obj × ℕ)
  | getNetworkData ip mask gwip => [(ip, 4), (mask, 4), (gwip, 4)]
  | getRemoteData _ ip port => [(ip, 4), (port, 2)]
  | wifiDriverInit | wifiDriverDeinit | getSSIDNetworks _ => []
  | wifiSetNetwork _ _ | wifiSetPassphrase _ _ _ _ | wifiSetKey _ _ _ _ _ | config _ _ _ _
  | setDNS _ _ _ | setHostname _ | disconnect | getConnectionStatus | startScanNetworks
  | reqHostByName _ | pinMode _ _ | digitalWrite _ _ | analogWrite _ _ | startServer _ _ _
  | startServerIpAddress _ _ _ _ | startClient _ _ _ _ | startClientHostname _ _ _ _ _ _
  | stopClient _ | getServerState _ | getClientState _ => [(varAt .data 1, 1)]
  | getMacAddress => [(Global.mac.ptr, 6)]
  | getIpAddress _ | getSubnetMask _ | getGatewayIP _ =>
      [(Global.localIp.ptr, 4), (Global.subnetMask.ptr, 4), (Global.gatewayIp.ptr, 4)]
  | getCurrentSSID => [(Global.ssid.ptr, 32)]
  | getCurrentBSSID => [(Global.bssid.ptr, 6)]
  | getCurrentRSSI | getRSSINetworks _ => [(varAt .rssi 4, 4)]
  | getCurrentEncryptionType | getEncTypeNetworks _ => [(varAt .encType 1, 1)]
  | getScanNetworks => (List.range 10).map fun i => (networkSsidRow i, 32)
  | getBSSIDNetworks _ bssid => [(bssid, 6)]
  | getChannelNetworks _ => [(varAt .channel 1, 1)]
  | getHostByNameResults _ => [(varAt .ipAddr 4, 4)]
  | getHostByName _ _ => [(varAt .data 1, 1), (varAt .ipAddr 4, 4)]
  | getFwVersion => [(Global.fwVersion.ptr, 6)]
  | getTime | getTemperature => [(varAt .data 4, 4)]
  | setPowerMode _ | wifiSetApNetwork _ _ _ | wifiSetApPassphrase _ _ _ _ _ =>
      [(varAt .data 1, 4)]
  | ping _ _ => [(varAt .data 2, 2)]
  | debug _ => [(varAt .data 1, 2)]
  | availData _ => [(varAt .data 2, 2)]
  | getData _ _ _ => [(varAt .dataPtr 4, 255)]
  | getDataBuf _ data dataLen => [(data, ofLe (m.loadList dataLen 2))]
  | insertDataBuf _ _ _ => [(varAt .response 2, 2)]
  | sendUdpData _ | sendData _ _ _ | checkDataSent _ | getSocket => [(varAt .response 1, 1)]

/-- Where a function stores besides its automatic variables, not counting its out
parameters. -/
def assigned : DriverCall → List (Ptr Obj)
  | getIpAddress ip | getSubnetMask ip | getGatewayIP ip => ip.region 4
  | getCurrentSSID => Global.ssid.ptr.region 32
  | getScanNetworks => Global.networkSsid.ptr.region 320
  | getHostByNameResults aResult | getHostByName _ aResult => aResult.region 4
  | _ => []

end DriverCall

/-- In a variable that a function stores to itself: any but the parameter `data` of
`ServerDrv_getData`. -/
def Ptr.InVar (a : Ptr Obj) : Prop :=
  ∃ var size, var ≠ .dataPtr ∧ a.obj = .auto var size ∧ a.off < size

/-- From `b` to `b'` nothing was transferred, and what was stored went to automatic
variables or to the addresses `assigned`. -/
structure Quiet (assigned : List (Ptr Obj)) (b b' : Bus) : Prop where
  transmitted : b'.transmitted = b.transmitted
  slave : b'.slave = b.slave
  reads : b'.reads = b.reads
  stores : ∃ new, b'.mem.log = new ++ b.mem.log ∧ ∀ a ∈ new, a.InVar ∨ a ∈ assigned

section Quiet
variable {assigned : List (Ptr Obj)} {α β : Type}

theorem Quiet.refl (b : Bus) : Quiet assigned b b := ⟨rfl, rfl, rfl, [], rfl, by simp⟩

theorem Quiet.trans {b c d : Bus} (h : Quiet assigned b c) (h' : Quiet assigned c d) :
    Quiet assigned b d := by
  obtain ⟨new, hlog, hnew⟩ := h.stores
  obtain ⟨new', hlog', hnew'⟩ := h'.stores
  refine ⟨h'.transmitted.trans h.transmitted, h'.slave.trans h.slave, h'.reads.trans h.reads,
    new' ++ new, by rw [hlog', hlog, List.append_assoc], ?_⟩
  exact List.forall_mem_append.mpr ⟨hnew', hnew⟩

theorem quiet_pure (a : α) : Prog.Guarantees (Quiet assigned) (pure a : Prog Bus α) :=
  Prog.Guarantees.pure Quiet.refl a

theorem quiet_bind {p : Prog Bus α} {f : α → Prog Bus β}
    (hp : Prog.Guarantees (Quiet assigned) p) (hf : ∀ a, Prog.Guarantees (Quiet assigned) (f a)) :
    Prog.Guarantees (Quiet assigned) (p >>= f) :=
  Prog.Guarantees.bind (R := Quiet assigned) Quiet.trans hp hf

theorem quiet_loadList (p : Ptr Obj) (n : ℕ) :
    Prog.Guarantees (Quiet assigned) (Bus.loadList p n) := fun b => Quiet.refl b

/-- What most functions end with. -/
theorem quiet_load (p : Ptr Obj) (n : ℕ) {f : List UInt8 → α} :
    Prog.Guarantees (Quiet assigned) (Bus.loadList p n >>= fun bytes => pure (f bytes)) :=
  quiet_bind (quiet_loadList p n) fun _ => quiet_pure _

theorem quiet_uninit (assigned : List (Ptr Obj)) (var : Var) (n : ℕ) :
    Prog.Guarantees (Quiet assigned) (Bus.uninit var n) := fun b => Quiet.refl b

theorem quiet_storeList {p : Ptr Obj} {cs : List UInt8}
    (h : ∀ a ∈ p.region cs.length, a.InVar ∨ a ∈ assigned) :
    Prog.Guarantees (Quiet assigned) (Bus.storeList p cs) := fun b =>
  ⟨rfl, rfl, rfl, _, Memory.log_storeList b.mem p cs, fun a ha => h a (List.mem_reverse.mp ha)⟩

theorem quiet_clear {p : Ptr Obj} {n : ℕ} (h : ∀ a ∈ p.region n, a ∈ assigned) :
    Prog.Guarantees (Quiet assigned) (Bus.clear p n) :=
  quiet_storeList fun a ha => .inr (h a (by simpa using ha))

theorem inVar_of_mem_region {var : Var} {n : ℕ} {a : Ptr Obj} (hvar : var ≠ .dataPtr)
    (h : a ∈ (⟨.auto var n, 0⟩ : Ptr Obj).region n) : a.InVar := by
  obtain ⟨i, hi, rfl⟩ := Ptr.mem_region.mp h
  exact ⟨var, n, hvar, rfl, by simpa using hi⟩

theorem quiet_auto {var : Var} (init : List UInt8) (hvar : var ≠ .dataPtr) :
    Prog.Guarantees (Quiet assigned) (Bus.auto var init) :=
  quiet_bind (quiet_storeList fun _ ha => .inl (inVar_of_mem_region hvar ha)) fun _ =>
    quiet_pure _

/-- The log of what was done to the hardware may grow, as long as nothing is transferred. -/
theorem quiet_emit {e : Event} (h : e.bytes? = none) :
    Prog.Guarantees (Quiet assigned) (Bus.emit e) := by
  intro b
  refine ⟨?_, rfl, rfl, [], rfl, by simp⟩
  simp [Bus.transmitted, h]

theorem quiet_strlenFrom (n : ℕ) (p : Ptr Obj) :
    Prog.Guarantees (Quiet assigned) (Bus.strlenFrom n p) := by
  induction n generalizing p with
  | zero => exact quiet_pure 0
  | succ n ih =>
      refine quiet_bind (quiet_loadList p 1) fun cs => ?_
      exact Prog.Guarantees.ite _ (quiet_pure 0) (quiet_bind (ih _) fun _ => quiet_pure _)

theorem quiet_strlen (p : Ptr Obj) : Prog.Guarantees (Quiet assigned) (Bus.strlen p) := by
  rw [Bus.strlen]
  exact quiet_strlenFrom _ p

end Quiet

section Transfers
variable {L L' β : Type} [LengthCode L UInt8] [LengthCode L' UInt8] {numParam maxNumParams : UInt8}
  {inParams : List (Param L)} {outParams : List (Param L')} {assigned : List (Ptr Obj)}
  {mid : Prog Bus β}

/-- What a request and the reply after it leave behind, if the function works on its own in
between. -/
theorem run_transfers (hn : numParam.toNat ≤ inParams.length)
    (hmax : maxNumParams.toNat ≤ outParams.length) (hmid : Prog.Guarantees (Quiet assigned) mid)
    (cmd cmd' : UInt8) (maxSize : UInt16) (numParamRead : β → UInt8) (b : Bus) :
    let b' := (send cmd numParam inParams >>= fun _ => mid >>= fun x =>
      receiveResponse cmd' maxSize (numParamRead x) outParams maxNumParams).state b
    b'.transmitted = b.transmitted ++
        [frame L cmd ((inParams.take numParam.toNat).map fun p => p.bytes b.mem),
          List.replicate (window maxSize) 0] ∧
      b'.slave = (fun k => b.slave (k + 2)) ∧
      b'.reads = b.reads + (answered cmd' maxSize outParams maxNumParams b).reads ∧
      ∃ m new, m.log = new ++ b.mem.log ∧ (∀ a ∈ new, a.InVar ∨ a ∈ assigned) ∧
        b'.mem =
          storeParams m outParams (answered cmd' maxSize outParams maxNumParams b).payloads := by
  have hlen : (inParams.take numParam.toNat).length = numParam.toNat := by simpa using hn
  have hquiet := hmid ((send cmd numParam (inParams.take numParam.toNat)).state b)
  have hparsed : parsed cmd' maxSize outParams maxNumParams
      (mid.state ((send cmd numParam (inParams.take numParam.toNat)).state b)) =
        answered cmd' maxSize outParams maxNumParams b := by
    rw [parsed, received, hquiet.slave, slave_send _ _ _ _ hlen]
    rfl
  obtain ⟨new, hlog, hnew⟩ := hquiet.stores
  rw [mem_send _ _ _ _ hlen] at hlog
  rw [← send_take]
  simp only [Prog.state_bind]
  rw [transmitted_receiveResponse _ _ _ _ _ _ hmax, slave_receiveResponse _ _ _ _ _ _ hmax,
    reads_receiveResponse _ _ _ _ _ _ hmax, mem_receiveResponse _ _ _ _ _ _ hmax, hparsed,
    hquiet.transmitted, hquiet.slave, hquiet.reads, transmitted_send _ _ _ _ hlen,
    slave_send _ _ _ _ hlen, reads_send _ _ _ _ hlen, List.append_assoc, List.singleton_append]
  exact ⟨rfl, rfl, rfl, _, new, hlog, hnew, rfl⟩

end Transfers

/-! ## The shape -/

/-- A function that works in its own variables and makes at most one exchange, with the
given out parameters; `rel` relates the command sent to the command awaited. -/
inductive Shaped (rel : UInt8 → UInt8 → Prop) (assigned : List (Ptr Obj))
    (outs : List (Ptr Obj × ℕ)) : {α : Type} → Prog Bus α → Prop
  | quiet {α : Type} {p : Prog Bus α} (h : Prog.Guarantees (Quiet assigned) p) :
      Shaped rel assigned outs p
  | before {α β : Type} {p : Prog Bus α} {f : α → Prog Bus β}
      (hp : Prog.Guarantees (Quiet assigned) p)
      (hf : ∀ b, Shaped rel assigned outs (f (p.val b))) : Shaped rel assigned outs (p >>= f)
  | after {α β : Type} {p : Prog Bus α} {f : α → Prog Bus β} (hp : Shaped rel assigned outs p)
      (hf : ∀ a, Prog.Guarantees (Quiet assigned) (f a)) : Shaped rel assigned outs (p >>= f)
  | exchange {L L' β : Type} [LengthCode L UInt8] [LengthCode L' UInt8]
      {cmd cmd' numParam maxNumParams : UInt8} {inParams : List (Param L)} {maxSize : UInt16}
      {params : List (Param L')} {mid : Prog Bus β}
      (hrel : rel cmd cmd') (hn : numParam.toNat ≤ inParams.length)
      (hmax : maxNumParams.toNat ≤ params.length) (hwindow : 3 ≤ maxSize.toNat)
      (hcaps : ∀ p ∈ params, 0 < toNat p.len)
      (houts : params.map (fun p => (p.data, toNat p.len)) = outs)
      (hmid : Prog.Guarantees (Quiet assigned) mid) (numParamRead : β → UInt8) :
      Shaped rel assigned outs (send cmd numParam inParams >>= fun _ => mid >>= fun x =>
        receiveResponse cmd' maxSize (numParamRead x) params maxNumParams)

section Shaped
variable {rel : UInt8 → UInt8 → Prop} {assigned : List (Ptr Obj)} {outs : List (Ptr Obj × ℕ)}
  {α β : Type}

theorem shaped_ignore {p : Prog Bus α} (h : Shaped rel assigned outs p) :
    Shaped rel assigned outs p.ignore :=
  Shaped.after h fun _ => quiet_pure ()

theorem shaped_ite (c : Prop) [Decidable c] {p q : Prog Bus α} (hp : Shaped rel assigned outs p)
    (hq : Shaped rel assigned outs q) : Shaped rel assigned outs (if c then p else q) := by
  split
  · exact hp
  · exact hq

/-- A variable is set up. -/
theorem shaped_auto {var : Var} {init : List UInt8} {f : Ptr Obj → Prog Bus β}
    (hvar : var ≠ .dataPtr) (hf : Shaped rel assigned outs (f ⟨.auto var init.length, 0⟩)) :
    Shaped rel assigned outs (Bus.auto var init >>= f) :=
  .before (quiet_auto init hvar) fun _ => hf

section Exchange
variable {L L' γ : Type} [LengthCode L UInt8] [LengthCode L' UInt8]
  {cmd cmd' numParam maxNumParams : UInt8} {inParams : List (Param L)} {maxSize : UInt16}
  {params : List (Param L')} {f : Reply L' → Prog Bus β}

/-- A request and a reply, between which a function works on its own. -/
theorem shaped_transfers {mid : Prog Bus γ} (hrel : rel cmd cmd')
    (hn : numParam.toNat ≤ inParams.length) (hmax : maxNumParams.toNat ≤ params.length)
    (hwindow : 3 ≤ maxSize.toNat) (hcaps : ∀ p ∈ params, 0 < toNat p.len)
    (houts : params.map (fun p => (p.data, toNat p.len)) = outs)
    (hmid : Prog.Guarantees (Quiet assigned) mid)
    (hf : ∀ r, Prog.Guarantees (Quiet assigned) (f r)) :
    Shaped rel assigned outs (send cmd numParam inParams >>= fun _ => mid >>= fun _ =>
      Bus.uninit .paramsRead 1 >>= fun x =>
        receiveResponse cmd' maxSize (x.headD 0) params maxNumParams >>= f) := by
  have hquiet : Prog.Guarantees (Quiet assigned) (mid >>= fun _ => Bus.uninit .paramsRead 1) :=
    quiet_bind hmid fun _ => quiet_uninit assigned .paramsRead 1
  have hshape := Shaped.exchange hrel hn hmax hwindow hcaps houts hquiet fun x => x.headD 0
  simpa only [Prog.bind_bind] using Shaped.after hshape hf

/-- A request and a reply to another command. -/
theorem shaped_awaited (hrel : rel cmd cmd') (hn : numParam.toNat ≤ inParams.length)
    (hmax : maxNumParams.toNat ≤ params.length) (hwindow : 3 ≤ maxSize.toNat)
    (hcaps : ∀ p ∈ params, 0 < toNat p.len)
    (houts : params.map (fun p => (p.data, toNat p.len)) = outs)
    (hf : ∀ r, Prog.Guarantees (Quiet assigned) (f r)) :
    Shaped rel assigned outs (send cmd numParam inParams >>= fun _ =>
      Bus.uninit .paramsRead 1 >>= fun x =>
        receiveResponse cmd' maxSize (x.headD 0) params maxNumParams >>= f) := by
  have hshape := Shaped.exchange hrel hn hmax hwindow hcaps houts
    (quiet_uninit assigned .paramsRead 1) fun x => x.headD 0
  simpa only [Prog.bind_bind] using Shaped.after hshape hf

/-- An exchange whose reply is looked at in memory only. -/
theorem shaped_exchange (hrel : rel cmd cmd) (hn : numParam.toNat ≤ inParams.length)
    (hmax : maxNumParams.toNat ≤ params.length) (hwindow : 3 ≤ maxSize.toNat)
    (hcaps : ∀ p ∈ params, 0 < toNat p.len)
    (houts : params.map (fun p => (p.data, toNat p.len)) = outs)
    (hf : ∀ r, Prog.Guarantees (Quiet assigned) (f r)) :
    Shaped rel assigned outs
      (exchange cmd numParam inParams maxSize params maxNumParams >>= f) := by
  rw [exchange]
  simpa only [Prog.bind_bind] using shaped_awaited hrel hn hmax hwindow hcaps houts hf

end Exchange

end Shaped

section Families
variable {assigned : List (Ptr Obj)} {outs : List (Ptr Obj × ℕ)} {cmd numParam : UInt8}
  {inParams : List TParam} {maxSize : UInt16}

theorem shaped_requestByte (hn : numParam.toNat ≤ inParams.length) :
    Shaped Eq assigned [(DriverCall.varAt .data 1, 1)]
      (ServerDrv.requestByte cmd numParam inParams) := by
  refine shaped_auto (by decide) ?_
  exact shaped_exchange rfl hn le_rfl (by decide) (by simp) rfl fun reply => quiet_load _ _

theorem shaped_requestData {capacity : UInt8} (hn : numParam.toNat ≤ inParams.length)
    (hwindow : 3 ≤ maxSize.toNat) (hcap : 0 < capacity.toNat)
    (houts : [(DriverCall.varAt .data 1, capacity.toNat)] = outs) :
    Shaped Eq assigned outs (WiFiDrv.requestData cmd numParam inParams maxSize capacity) := by
  refine shaped_auto (by decide) ?_
  exact shaped_exchange rfl hn le_rfl hwindow (by simpa using hcap) houts fun reply =>
    quiet_load _ _

theorem shaped_requestVar {capacity : UInt8} {var : Var} {init : List UInt8}
    (hn : numParam.toNat ≤ inParams.length) (hwindow : 3 ≤ maxSize.toNat)
    (hcap : 0 < capacity.toNat) (hvar : var ≠ .dataPtr)
    (houts : [(DriverCall.varAt var init.length, capacity.toNat)] = outs) :
    Shaped Eq assigned outs
      (WiFiDrv.requestVar cmd numParam inParams maxSize capacity var init) := by
  refine shaped_auto hvar ?_
  exact shaped_exchange rfl hn le_rfl hwindow (by simpa using hcap) houts fun reply =>
    quiet_loadList _ _

theorem shaped_requestAt {capacity : ℕ} (place : Ptr Obj)
    (hn : numParam.toNat ≤ inParams.length) (hwindow : 3 ≤ maxSize.toNat) (hcap : 0 < capacity)
    (hlt : capacity < 256) (houts : [(place, capacity)] = outs) :
    Shaped Eq assigned outs
      (WiFiDrv.requestAt cmd numParam inParams maxSize capacity place) := by
  have hbyte : (UInt8.ofNat capacity).toNat = capacity := UInt8.toNat_ofNat_of_lt' hlt
  refine shaped_exchange rfl hn le_rfl hwindow ?_ ?_ fun reply => quiet_pure _
  · simpa [hbyte] using hcap
  · simp [hbyte, houts]

theorem shaped_getNetworkData (ip mask gwip : Ptr Obj) :
    Shaped Eq assigned [(ip, 4), (mask, 4), (gwip, 4)] (WiFiDrv.getNetworkData ip mask gwip) := by
  refine shaped_auto (by decide) ?_
  exact shaped_exchange rfl le_rfl le_rfl (by decide) (by simp) rfl fun reply => quiet_pure _

theorem shaped_refreshNetworkData (var : Global) (dest : Ptr Obj) :
    Shaped Eq (dest.region 4)
      [(Global.localIp.ptr, 4), (Global.subnetMask.ptr, 4), (Global.gatewayIp.ptr, 4)]
      (WiFiDrv.refreshNetworkData var dest) := by
  refine .after (shaped_getNetworkData _ _ _) fun ret => ?_
  -- the copy is as long as what was loaded
  intro b
  simp only [Prog.state_bind, Prog.state_pure, Bus.state_loadList, Bus.val_loadList]
  exact quiet_storeList (fun a ha => .inr (by simpa using ha)) b

theorem shaped_requestPin {var : Var} (pin arg : UInt8) (hvar : var ≠ .dataPtr) :
    Shaped Eq assigned [(DriverCall.varAt .data 1, 1)] (WiFiDrv.requestPin cmd pin var arg) := by
  refine shaped_auto (by decide) (shaped_auto hvar ?_)
  exact shaped_requestData le_rfl (by decide) (by decide) rfl

theorem shaped_reqHostByName (aHostname : Ptr Obj) :
    Shaped Eq assigned [(DriverCall.varAt .data 1, 1)] (WiFiDrv.reqHostByName aHostname) := by
  refine shaped_auto (by decide) (.before (quiet_strlen aHostname) fun b => ?_)
  exact shaped_exchange rfl le_rfl le_rfl (by decide) (by simp) rfl fun reply => quiet_load _ _

theorem shaped_getHostByNameResults (aResult : Ptr Obj) :
    Shaped Eq (aResult.region 4) [(DriverCall.varAt .ipAddr 4, 4)]
      (WiFiDrv.getHostByNameResults aResult) := by
  refine shaped_exchange rfl le_rfl le_rfl (by decide) (by simp) rfl fun reply b => ?_
  simp only [Prog.state_bind, Bus.state_loadList, Bus.val_loadList]
  refine Prog.Guarantees.ite _ (quiet_pure 0) (quiet_bind ?_ fun _ => quiet_pure _) b
  exact quiet_storeList fun a ha => .inr (by simpa using ha)

end Families

/-! ## Every function -/

namespace DriverCall

/-- How the command a function awaits is related to the one it sends. -/
def Commands : DriverCall → UInt8 → UInt8 → Prop
  | getRSSINetworks _ => fun sent awaited => sent = getIdxRssiCmd ∧ awaited = getIdxChannelCmd
  | _ => Eq

/-- The functions that make at most one exchange, with capacities that are constants. -/
def Regular : DriverCall → Prop
  | getDataBuf _ _ _ | checkDataSent _ | getHostByName _ _ => False
  | _ => True

theorem quiet_begin {assigned : List (Ptr Obj)} :
    Prog.Guarantees (Quiet assigned) SpiDrv.begin :=
  quiet_bind (quiet_emit rfl) fun _ => quiet_bind (quiet_emit rfl) fun _ =>
    quiet_bind (quiet_emit rfl) fun _ => quiet_bind (quiet_emit rfl) fun _ b =>
      ⟨rfl, rfl, rfl, [], rfl, by simp⟩

theorem quiet_end {assigned : List (Ptr Obj)} :
    Prog.Guarantees (Quiet assigned) SpiDrv.end' :=
  quiet_bind (quiet_emit rfl) fun _ => quiet_bind (quiet_emit rfl) fun _ b =>
    ⟨rfl, rfl, rfl, [], rfl, by simp⟩

theorem map_scanParams :
    WiFiDrv.scanParams.map (fun p => (p.data, toNat p.len)) =
      (List.range 10).map fun i => (networkSsidRow i, 32) := by
  rw [WiFiDrv.scanParams, List.map_map]
  rfl

/-- **The shape of the driver functions.** -/
theorem shaped (c : DriverCall) (hc : c.Regular) (m : Memory Obj UInt8) :
    Shaped c.Commands c.assigned (c.outs m) c.run := by
  cases c with
  | getNetworkData ip mask gwip => exact shaped_ignore (shaped_getNetworkData ip mask gwip)
  | wifiDriverInit => exact .quiet quiet_begin
  | wifiDriverDeinit => exact .quiet quiet_end
  | wifiSetPassphrase ssid ssidLen passphrase len => exact shaped_ignore (shaped_requestByte le_rfl)
  | wifiSetKey ssid ssidLen keyIdx key len =>
      exact shaped_ignore (shaped_auto (by decide) (shaped_requestByte le_rfl))
  | config validParams localIp gateway subnet =>
      exact shaped_ignore (shaped_auto (by decide) (shaped_auto (by decide)
        (shaped_auto (by decide) (shaped_auto (by decide) (shaped_requestByte le_rfl)))))
  | setDNS validParams dnsServer1 dnsServer2 =>
      exact shaped_ignore (shaped_auto (by decide) (shaped_auto (by decide)
        (shaped_auto (by decide) (shaped_requestByte le_rfl))))
  | setHostname hostname =>
      exact shaped_ignore (.before (quiet_strlen hostname) fun _ => shaped_requestByte le_rfl)
  | getRemoteData sock ip port =>
      refine shaped_ignore (shaped_auto (by decide) ?_)
      exact shaped_exchange rfl le_rfl le_rfl (by decide) (by simp) rfl fun reply => quiet_pure _
  | wifiSetNetwork ssid ssidLen =>
      refine shaped_ignore (shaped_auto (by decide) ?_)
      exact shaped_exchange rfl le_rfl le_rfl (by decide) (by simp) rfl fun reply => quiet_load _ _
  | disconnect =>
      refine shaped_ignore (shaped_auto (by decide) (.after ?_ fun bytes => quiet_pure _))
      exact shaped_requestVar le_rfl (by decide) (by decide) (by decide) rfl
  | getConnectionStatus =>
      refine shaped_ignore (shaped_auto (by decide) ?_)
      exact shaped_exchange rfl le_rfl le_rfl (by decide) (by simp) rfl fun reply => quiet_load _ _
  | getMacAddress =>
      refine shaped_ignore (shaped_auto (by decide) ?_)
      exact shaped_requestAt _ le_rfl (by decide) (by decide) (by decide) rfl
  | getIpAddress ip => exact shaped_ignore (shaped_refreshNetworkData .localIp ip)
  | getSubnetMask mask => exact shaped_ignore (shaped_refreshNetworkData .subnetMask mask)
  | getGatewayIP ip => exact shaped_ignore (shaped_refreshNetworkData .gatewayIp ip)
  | getCurrentSSID =>
      refine shaped_ignore (shaped_auto (by decide) ?_)
      refine shaped_transfers rfl le_rfl le_rfl (by decide) (by simp [wlSsidMaxLength]) rfl ?_
        fun reply => quiet_pure _
      exact quiet_clear fun a ha => ha
  | getCurrentBSSID =>
      refine shaped_ignore (shaped_auto (by decide) ?_)
      exact shaped_requestAt _ le_rfl (by decide) (by decide) (by decide) rfl
  | getCurrentRSSI =>
      refine shaped_ignore (shaped_auto (by decide) ?_)
      exact shaped_exchange rfl le_rfl le_rfl (by decide) (by simp) rfl fun reply => quiet_load _ _
  | getCurrentEncryptionType =>
      refine shaped_ignore (shaped_auto (by decide) (.after ?_ fun bytes => quiet_pure _))
      exact shaped_requestVar le_rfl (by decide) (by decide) (by decide) rfl
  | startScanNetworks =>
      refine shaped_ignore (shaped_auto (by decide) ?_)
      exact shaped_exchange rfl le_rfl le_rfl (by decide) (by simp) rfl fun reply => quiet_load _ _
  | getScanNetworks =>
      refine shaped_ignore ?_
      refine shaped_transfers rfl le_rfl ?_ (by decide) ?_ map_scanParams ?_ fun reply =>
        quiet_pure _
      · simp [WiFiDrv.scanParams, wlNetworksListMaxnum]
      · simp [WiFiDrv.scanParams, wlSsidMaxLength]
      · exact quiet_clear fun a ha => ha
  | getSSIDNetworks networkItem => exact shaped_ignore (.quiet (quiet_pure _))
  | getEncTypeNetworks networkItem =>
      refine shaped_ignore (shaped_auto (by decide) (shaped_ite _ (.quiet (quiet_pure _))
        (.after ?_ fun bytes => quiet_pure _)))
      exact shaped_requestVar le_rfl (by decide) (by decide) (by decide) rfl
  | getBSSIDNetworks networkItem bssid =>
      refine shaped_ignore (shaped_auto (by decide) (shaped_ite _ (.quiet (quiet_pure _)) ?_))
      exact shaped_requestAt _ le_rfl (by decide) (by decide) (by decide) rfl
  | getChannelNetworks networkItem =>
      refine shaped_ignore (shaped_auto (by decide) (shaped_ite _ (.quiet (quiet_pure _))
        (.after ?_ fun bytes => quiet_pure _)))
      exact shaped_requestVar le_rfl (by decide) (by decide) (by decide) rfl
  | getRSSINetworks networkItem =>
      refine shaped_ignore (shaped_auto (by decide) (shaped_auto (by decide)
        (shaped_ite _ (.quiet (quiet_pure _)) ?_)))
      exact shaped_awaited ⟨rfl, rfl⟩ le_rfl le_rfl (by decide) (by simp) rfl fun reply =>
        quiet_load _ _
  | reqHostByName aHostname => exact shaped_ignore (shaped_reqHostByName aHostname)
  | getHostByNameResults aResult => exact shaped_ignore (shaped_getHostByNameResults aResult)
  | getFwVersion =>
      exact shaped_ignore (shaped_requestAt _ le_rfl (by decide) (by decide) (by decide) rfl)
  | getTime =>
      refine shaped_ignore (.after ?_ fun bytes => quiet_pure _)
      exact shaped_requestVar le_rfl (by decide) (by decide) (by decide) rfl
  | setPowerMode mode =>
      refine shaped_ignore (shaped_auto (by decide) (shaped_auto (by decide) ?_))
      exact shaped_exchange rfl le_rfl le_rfl (by decide) (by simp) rfl fun reply => quiet_pure _
  | wifiSetApNetwork ssid ssidLen channel =>
      refine shaped_ignore (shaped_auto (by decide) (shaped_auto (by decide) ?_))
      exact shaped_exchange rfl le_rfl le_rfl (by decide) (by simp) rfl fun reply => quiet_load _ _
  | wifiSetApPassphrase ssid ssidLen passphrase len channel =>
      refine shaped_ignore (shaped_auto (by decide) ?_)
      exact shaped_requestData le_rfl (by decide) (by decide) rfl
  | ping ipAddress ttl =>
      refine shaped_ignore (shaped_auto (by decide) (shaped_auto (by decide) ?_))
      exact shaped_exchange rfl le_rfl le_rfl (by decide) (by simp) rfl fun reply => quiet_load _ _
  | debug on =>
      refine shaped_ignore (shaped_auto (by decide) (.after ?_ fun bytes => quiet_pure _))
      exact shaped_requestVar le_rfl (by decide) (by decide) (by decide) rfl
  | getTemperature =>
      refine shaped_ignore (.after ?_ fun bytes => quiet_pure _)
      exact shaped_requestVar le_rfl (by decide) (by decide) (by decide) rfl
  | pinMode pin mode => exact shaped_ignore (shaped_requestPin pin mode (by decide))
  | digitalWrite pin value => exact shaped_ignore (shaped_requestPin pin value (by decide))
  | analogWrite pin value => exact shaped_ignore (shaped_requestPin pin value (by decide))
  | startServer port sock protMode =>
      exact shaped_ignore (shaped_auto (by decide) (shaped_auto (by decide)
        (shaped_auto (by decide) (shaped_requestByte le_rfl))))
  | startServerIpAddress ipAddress port sock protMode
  | startClient ipAddress port sock protMode =>
      exact shaped_ignore (shaped_auto (by decide) (shaped_auto (by decide)
        (shaped_auto (by decide) (shaped_auto (by decide) (shaped_requestByte le_rfl)))))
  | startClientHostname host hostLen ipAddress port sock protMode =>
      exact shaped_ignore (shaped_auto (by decide) (shaped_auto (by decide)
        (shaped_auto (by decide) (shaped_auto (by decide) (shaped_requestByte le_rfl)))))
  | stopClient sock | getServerState sock | getClientState sock =>
      exact shaped_ignore (shaped_auto (by decide) (shaped_requestByte le_rfl))
  | availData sock =>
      refine shaped_ignore (shaped_auto (by decide) (shaped_auto (by decide) ?_))
      exact shaped_exchange rfl le_rfl le_rfl (by decide) (by simp) rfl fun reply => quiet_load _ _
  | getData sock data peek =>
      refine shaped_ignore (shaped_auto (by decide) (shaped_auto (by decide) ?_))
      exact shaped_exchange rfl (show 1 ≤ 2 by decide) le_rfl (by decide) (by simp) rfl
        fun reply => quiet_pure _
  | insertDataBuf sock data len | sendUdpData sock | sendData sock data len =>
      refine shaped_ignore (shaped_auto (by decide) (shaped_auto (by decide) ?_))
      exact shaped_exchange rfl le_rfl le_rfl (by decide) (by simp) rfl fun reply => quiet_load _ _
  | getSocket =>
      refine shaped_ignore (shaped_auto (by decide) ?_)
      exact shaped_exchange rfl le_rfl le_rfl (by decide) (by simp) rfl fun reply => quiet_load _ _
  | getDataBuf | checkDataSent | getHostByName => exact hc.elim

end DriverCall

end WiFiNINA
