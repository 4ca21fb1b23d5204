import WiFiNINA.Arguments
import WiFiNINA.DriverCalls.Commands
import WiFiNINA.Uninitialised

/-!
# The arguments that reach the wire

Every function counts by hand the parameters that it lists in an array beside the count.
Where count and array agree, the request is a frame of all input arguments, and frames are
uniquely decodable: two calls with different arguments cannot transmit the same.
`ServerDrv_getData` lists two parameters and announces one.
-/

namespace WiFiNINA

open LengthCode SpiDrv

theorem ofLe_le32 (x : UInt32) : ofLe (le32 x) = x.toNat := by
  have h := x.toNat_lt
  simp only [ofLe, le32, UInt32.toNat_toUInt8, UInt32.toNat_shiftRight, UInt32.reduceToNat,
    Nat.reduceMod, Nat.shiftRight_eq_div_pow]
  omega

/-- Two bytes are read and written again as a number of 16 bits. -/
theorem le16_ofNat_ofLe {cs : List UInt8} (h : cs.length = 2) :
    le16 (UInt16.ofNat (ofLe cs)) = cs := by
  have hlt := ofLe_lt cs
  rw [h] at hlt
  rw [← ofLe_inj (by rw [length_le16, h]), ofLe_le16, UInt16.toNat_ofNat_of_lt' hlt]

/-- The value of an argument: a number, or what is in a buffer or a string. -/
inductive Value
  | byte (x : UInt8)
  | half (x : UInt16)
  | word (x : UInt32)
  | bytes (xs : List UInt8)
  deriving DecidableEq

namespace Value

/-- A value as it is in memory. -/
@[simp] def encoded : Value → List UInt8
  | byte x => [x]
  | half x => le16 x
  | word x => le32 x
  | bytes xs => xs

/-- The size of the numbers of a type; a buffer may have any. -/
def size? : Value → Option ℕ
  | byte _ => some 1
  | half _ => some 2
  | word _ => some 4
  | bytes _ => none

theorem encoded_inj {v w : Value} (hsize : v.size? = w.size?) (h : v.encoded = w.encoded) :
    v = w := by
  cases v with
  | byte x =>
      cases w with
      | byte y => rw [(List.cons.inj h).1]
      | _ => simp [size?] at hsize
  | half x =>
      cases w with
      | half y =>
          have hnat := congrArg ofLe h
          rw [encoded, encoded, ofLe_le16, ofLe_le16, UInt16.toNat_inj] at hnat
          rw [hnat]
      | _ => simp [size?] at hsize
  | word x =>
      cases w with
      | word y =>
          have hnat := congrArg ofLe h
          rw [encoded, encoded, ofLe_le32, ofLe_le32, UInt32.toNat_inj] at hnat
          rw [hnat]
      | _ => simp [size?] at hsize
  | bytes xs =>
      cases w with
      | bytes ys => exact congrArg bytes h
      | _ => simp [size?] at hsize

/-- Argument by argument. -/
theorem map_encoded_inj {vs ws : List Value} (hsize : vs.map size? = ws.map size?)
    (h : vs.map encoded = ws.map encoded) : vs = ws := by
  induction vs generalizing ws with
  | nil => exact (List.map_eq_nil_iff.mp h.symm).symm
  | cons v vs ih =>
      cases ws with
      | nil => simp at h
      | cons w ws =>
          rw [List.map_cons, List.map_cons, List.cons.injEq] at hsize h
          rw [encoded_inj hsize.1 h.1, ih hsize.2 h.2]

end Value

/-- The parameters of a frame that fits are determined by it. -/
theorem Fits.frame_inj {L : Type} [LengthCode L UInt8] {cmd cmd' : UInt8}
    {xs ys : List (List UInt8)} (hb : 256 ≤ bound L) (hx : Fits L xs) (hy : Fits L ys)
    (h : frame L cmd xs = frame L cmd' ys) : xs = ys := by
  have hlt : ∀ {zs : List (List UInt8)}, Fits L zs → ∀ z ∈ zs, z.length < bound L := by
    intro zs hz z hmem
    have hsize := (fits_iff L zs).mp hz
    have hle := length_le_fieldsSize_of_mem L hmem
    omega
  exact (WiFiNINA.frame_inj hx.length_lt hy.length_lt (hlt hx) (hlt hy) h).2

/-- What the program transmits first, run from `b`, is a request with the parameters `xs`. -/
def Asks (L : Type) [LengthCode L UInt8] {α : Type} (xs : List (List UInt8)) (p : Prog Bus α)
    (b : Bus) : Prop :=
  ∃ cmd rest, (p.state b).transmitted = b.transmitted ++ frame L cmd xs :: rest

section Asks
variable {L α β : Type} [LengthCode L UInt8] {xs : List (List UInt8)} {b : Bus}

theorem Asks.bind {p : Prog Bus α} {g : α → Prog Bus β} (h : Asks L xs p b)
    (hg : Paired (g (p.val b))) : Asks L xs (p >>= g) b := by
  obtain ⟨cmd, rest, hrest⟩ := h
  obtain ⟨n, new, hnew, -⟩ := hg.delivers (p.state b)
  refine ⟨cmd, rest ++ new, ?_⟩
  rw [Prog.state_bind, hnew, hrest, List.append_assoc, List.cons_append]

theorem Asks.quiet {p : Prog Bus α} {g : α → Prog Bus β} (h : Asks L xs p b)
    (hg : ∀ a, Prog.Guarantees (Quiet []) (g a)) : Asks L xs (p >>= g) b :=
  h.bind (.silent (hg _))

theorem asks_ignore {p : Prog Bus α} (h : Asks L xs p b) : Asks L xs p.ignore b := h

theorem asks_auto {var : Var} {init : List UInt8} {g : Ptr Obj → Prog Bus β}
    (h : Asks L xs (g ⟨.auto var init.length, 0⟩)
      { b with mem := b.mem.storeList ⟨.auto var init.length, 0⟩ init }) :
    Asks L xs (Bus.auto var init >>= g) b := h

theorem asks_loadList {p : Ptr Obj} {n : ℕ} {g : List UInt8 → Prog Bus β}
    (h : Asks L xs (g (b.mem.loadList p n)) b) : Asks L xs (Bus.loadList p n >>= g) b := h

theorem asks_strlen {p : Ptr Obj} {g : ℕ → Prog Bus β}
    (h : Asks L xs (g ((Bus.strlen p).val b)) b) : Asks L xs (Bus.strlen p >>= g) b := by
  obtain ⟨cmd, rest, hrest⟩ := h
  exact ⟨cmd, rest, by rw [Prog.state_bind, Bus.state_strlen, hrest]⟩

section Exchange
variable {L' : Type} [LengthCode L' UInt8] {cmd cmd' numParam : UInt8}
  {inParams : List (Param L)} {maxSize : UInt16} {outParams : List (Param L')}
  {maxNumParams : UInt8}

/-- The parameters that are announced, in a frame. -/
theorem asks_transfers {γ : Type} {mid : Prog Bus γ}
    (hn : numParam.toNat ≤ inParams.length) (hmax : maxNumParams.toNat ≤ outParams.length)
    (hmid : Prog.Guarantees (Quiet []) mid) (numParamRead : γ → UInt8)
    (hxs : ((inParams.take numParam.toNat).map fun p => p.bytes b.mem) = xs) :
    Asks L xs (send cmd numParam inParams >>= fun _ => mid >>= fun x =>
      receiveResponse cmd' maxSize (numParamRead x) outParams maxNumParams) b := by
  obtain ⟨htr, -⟩ := run_transfers hn hmax hmid cmd cmd' maxSize numParamRead b
  exact ⟨cmd, _, by rw [htr, hxs]⟩

/-- A request and a reply to another command. -/
theorem asks_awaited {f : Reply L' → Prog Bus β}
    (hn : numParam.toNat ≤ inParams.length) (hmax : maxNumParams.toNat ≤ outParams.length)
    (hxs : ((inParams.take numParam.toNat).map fun p => p.bytes b.mem) = xs)
    (hf : ∀ r, Prog.Guarantees (Quiet []) (f r)) :
    Asks L xs (send cmd numParam inParams >>= fun _ => Bus.uninit .paramsRead 1 >>= fun x =>
      receiveResponse cmd' maxSize (x.headD 0) outParams maxNumParams >>= f) b := by
  have hquiet : Prog.Guarantees (Quiet []) (Bus.uninit .paramsRead 1) :=
    quiet_uninit [] .paramsRead 1
  have hboth : Asks L xs (send cmd numParam inParams >>= fun _ => Bus.uninit .paramsRead 1 >>=
      fun x => receiveResponse cmd' maxSize (x.headD 0) outParams maxNumParams) b :=
    asks_transfers hn hmax hquiet (fun x => x.headD 0) hxs
  simpa only [Prog.bind_bind] using hboth.quiet hf

/-- An exchange that announces some of its parameters. -/
theorem transmitted_announced (hn : numParam.toNat ≤ inParams.length)
    (hmax : maxNumParams.toNat ≤ outParams.length) :
    ((exchange cmd numParam inParams maxSize outParams maxNumParams).state b).transmitted =
      b.transmitted ++ [frame L cmd ((inParams.take numParam.toNat).map fun p => p.bytes b.mem),
        List.replicate (window maxSize) 0] :=
  (run_transfers hn hmax (quiet_uninit [] .paramsRead 1) cmd cmd maxSize (fun x => x.headD 0) b).1

theorem asks_announced (hn : numParam.toNat ≤ inParams.length)
    (hmax : maxNumParams.toNat ≤ outParams.length)
    (hxs : ((inParams.take numParam.toNat).map fun p => p.bytes b.mem) = xs) :
    Asks L xs (exchange cmd numParam inParams maxSize outParams maxNumParams) b :=
  ⟨cmd, _, by rw [transmitted_announced hn hmax, hxs]⟩

/-- All parameters are announced. -/
theorem asks_exchange (hn : inParams.length = numParam.toNat)
    (hmax : maxNumParams.toNat ≤ outParams.length)
    (hxs : (inParams.map fun p => p.bytes b.mem) = xs) :
    Asks L xs (exchange cmd numParam inParams maxSize outParams maxNumParams) b := by
  refine asks_announced hn.ge hmax ?_
  rw [List.take_of_length_le hn.le, hxs]

end Exchange

section Families
variable {cmd numParam : UInt8} {inParams : List TParam} {maxSize : UInt16} {capacity : UInt8}

theorem asks_requestByte (hn : inParams.length = numParam.toNat)
    (hxs : (inParams.map fun p => p.bytes (b.mem.storeList ⟨.auto .data 1, 0⟩ [0])) = xs) :
    Asks UInt8 xs (ServerDrv.requestByte cmd numParam inParams) b :=
  asks_auto ((asks_exchange hn le_rfl hxs).quiet fun _ => quiet_load _ _)

theorem asks_requestData (hn : inParams.length = numParam.toNat)
    (hxs : (inParams.map fun p => p.bytes (b.mem.storeList ⟨.auto .data 1, 0⟩ [0])) = xs) :
    Asks UInt8 xs
      (WiFiDrv.requestData cmd numParam inParams maxSize capacity) b :=
  asks_auto ((asks_exchange hn le_rfl hxs).quiet fun _ => quiet_load _ _)

theorem asks_requestVar {var : Var} {init : List UInt8}
    (hn : inParams.length = numParam.toNat)
    (hxs : (inParams.map fun p => p.bytes (b.mem.storeList ⟨.auto var init.length, 0⟩ init)) = xs) :
    Asks UInt8 xs
      (WiFiDrv.requestVar cmd numParam inParams maxSize capacity var init) b :=
  asks_auto ((asks_exchange hn le_rfl hxs).quiet fun _ => quiet_loadList _ _)

theorem asks_requestAt {capacity : ℕ} {place : Ptr Obj}
    (hn : inParams.length = numParam.toNat)
    (hxs : (inParams.map fun p => p.bytes b.mem) = xs) :
    Asks UInt8 xs
      (WiFiDrv.requestAt cmd numParam inParams maxSize capacity place) b :=
  (asks_exchange hn le_rfl hxs).quiet fun _ => quiet_pure _

end Families
end Asks

/-- Not in a variable of the drivers, which only comes to be in the call; their callers have
variables too. -/
def Ptr.OfCaller (p : Ptr Obj) : Prop :=
  ∀ var size, p.obj = .auto var size → var = .size ∨ var = .ch ∨ var = .remoteAddr

section Params
variable {m : Memory Obj UInt8} {p q : Ptr Obj} {var : Var} {size off : ℕ} {cs : List UInt8}

attribute [simp] loadList_storeList_var

theorem Ptr.OfCaller.loadList (h : p.OfCaller)
    (hvar : ¬ (var = .size ∨ var = .ch ∨ var = .remoteAddr)) (k : ℕ) :
    (m.storeList ⟨.auto var size, off⟩ cs).loadList p k = m.loadList p k :=
  Memory.loadList_storeList_of_obj_ne m k fun hobj => hvar (h var size hobj)

theorem val_strlenFrom_succ (k : ℕ) (p : Ptr Obj) (b : Bus) :
    (Bus.strlenFrom (k + 1) p).val b =
      if b.mem.loadList p 1 = [0] then 0 else (Bus.strlenFrom k (p.add 1)).val b + 1 := by
  rw [Bus.strlenFrom, Prog.val_bind, Prog.val_ite]
  rfl

/-- A string is as long as before. -/
theorem Ptr.OfCaller.val_strlen (h : p.OfCaller)
    (hvar : ¬ (var = .size ∨ var = .ch ∨ var = .remoteAddr)) (b : Bus) :
    (Bus.strlen p).val { b with mem := b.mem.storeList ⟨.auto var size, off⟩ cs } =
      (Bus.strlen p).val b := by
  have hfrom : ∀ k (q : Ptr Obj), q.OfCaller →
      (Bus.strlenFrom k q).val { b with mem := b.mem.storeList ⟨.auto var size, off⟩ cs } =
        (Bus.strlenFrom k q).val b := by
    intro k
    induction k with
    | zero => exact fun q _ => rfl
    | succ k ih =>
        intro q hq
        rw [val_strlenFrom_succ, val_strlenFrom_succ, hq.loadList hvar, ih (q.add 1) hq]
  exact hfrom _ p h

end Params

/-! ## Every function -/

namespace DriverCall

/-- The bytes of the string at `p`, without its end. -/
def string (b : Bus) (p : Ptr Obj) : List UInt8 := b.mem.loadList p ((Bus.strlen p).val b)

/-- The values of the input arguments of a call.  A buffer stands for its bytes, a string for
its characters and `dataLen` for the size it points to. -/
@[simp] def inputs (b : Bus) : DriverCall → List Value
  | getNetworkData _ _ _ | wifiDriverInit | wifiDriverDeinit | disconnect | getConnectionStatus
  | getMacAddress | getIpAddress _ | getSubnetMask _ | getGatewayIP _ | getCurrentSSID
  | getCurrentBSSID | getCurrentRSSI | getCurrentEncryptionType | startScanNetworks
  | getScanNetworks | getHostByNameResults _ | getFwVersion | getTime | getTemperature
  | getSocket => []
  | wifiSetNetwork ssid ssidLen => [.bytes (b.mem.loadList ssid ssidLen.toNat)]
  | wifiSetPassphrase ssid ssidLen passphrase len =>
      [.bytes (b.mem.loadList ssid ssidLen.toNat), .bytes (b.mem.loadList passphrase len.toNat)]
  | wifiSetKey ssid ssidLen keyIdx key len =>
      [.bytes (b.mem.loadList ssid ssidLen.toNat), .byte keyIdx,
        .bytes (b.mem.loadList key len.toNat)]
  | config validParams localIp gateway subnet =>
      [.byte validParams, .word localIp, .word gateway, .word subnet]
  | setDNS validParams dnsServer1 dnsServer2 =>
      [.byte validParams, .word dnsServer1, .word dnsServer2]
  | setHostname hostname => [.bytes (string b hostname)]
  | getSSIDNetworks networkItem | getEncTypeNetworks networkItem | getBSSIDNetworks networkItem _
  | getChannelNetworks networkItem | getRSSINetworks networkItem => [.byte networkItem]
  | reqHostByName aHostname | getHostByName aHostname _ => [.bytes (string b aHostname)]
  | setPowerMode mode => [.byte mode]
  | wifiSetApNetwork ssid ssidLen channel =>
      [.bytes (b.mem.loadList ssid ssidLen.toNat), .byte channel]
  | wifiSetApPassphrase ssid ssidLen passphrase len channel =>
      [.bytes (b.mem.loadList ssid ssidLen.toNat), .bytes (b.mem.loadList passphrase len.toNat),
        .byte channel]
  | ping ipAddress ttl => [.word ipAddress, .byte ttl]
  | debug on => [.byte on]
  | pinMode pin value | digitalWrite pin value | analogWrite pin value =>
      [.byte pin, .byte value]
  | startServer port sock protMode => [.half port, .byte sock, .byte protMode]
  | startServerIpAddress ipAddress port sock protMode
  | startClient ipAddress port sock protMode =>
      [.word ipAddress, .half port, .byte sock, .byte protMode]
  | startClientHostname host hostLen ipAddress port sock protMode =>
      [.bytes (b.mem.loadList host hostLen.toNat), .word ipAddress, .half port, .byte sock,
        .byte protMode]
  | getRemoteData sock _ _ | stopClient sock | getServerState sock | getClientState sock
  | availData sock | sendUdpData sock | checkDataSent sock => [.byte sock]
  | getData sock _ peek => [.byte sock, .byte peek]
  | getDataBuf sock _ dataLen =>
      [.byte sock, .half (UInt16.ofNat (ofLe (b.mem.loadList dataLen 2)))]
  | insertDataBuf sock data len | sendData sock data len =>
      [.byte sock, .bytes (b.mem.loadList data len.toNat)]

/-- The requests that a call transmits: the transfers that open with the start byte, unlike the
zeros that are shifted out for a reply. -/
def requests (b : Bus) (c : DriverCall) : List (List UInt8) :=
  ((c.run.state b).transmitted.drop b.transmitted.length).filter fun f =>
    f.head? == some startCmd

/-- The calls that reach an exchange: a network item has to be on the list. -/
def Transmits : DriverCall → Prop
  | wifiDriverInit | wifiDriverDeinit | getSSIDNetworks _ => False
  | getEncTypeNetworks networkItem | getBSSIDNetworks networkItem _
  | getChannelNetworks networkItem | getRSSINetworks networkItem =>
      networkItem.toNat < wlNetworksListMaxnum
  | _ => True

/-- The lengths in the request have 16 bits. -/
def Wide : DriverCall → Prop
  | getDataBuf _ _ _ | insertDataBuf _ _ _ | sendData _ _ _ => True
  | _ => False

/-- The frame of the input arguments fits `txBuffer`. -/
def FrameFits (b : Bus) (c : DriverCall) : Prop :=
  (c.Wide → Fits UInt16 ((c.inputs b).map Value.encoded)) ∧
    (¬ c.Wide → Fits UInt8 ((c.inputs b).map Value.encoded))

/-- What the input pointers point to outlives the call. -/
def Separate : DriverCall → Prop
  | wifiSetNetwork p _ | setHostname p | reqHostByName p | getHostByName p _
  | wifiSetApNetwork p _ _ | startClientHostname p _ _ _ _ _ | getDataBuf _ _ p
  | insertDataBuf _ p _ | sendData _ p _ => p.OfCaller
  | wifiSetPassphrase p _ q _ | wifiSetKey p _ _ q _ | wifiSetApPassphrase p _ q _ _ =>
      p.OfCaller ∧ q.OfCaller
  | _ => True

/-- The parameters that the request of a call announces: `ServerDrv_getData` counts one of
two. -/
@[simp] def announced (b : Bus) : DriverCall → List (List UInt8)
  | getData sock _ _ => [[sock]]
  | c => (c.inputs b).map Value.encoded

theorem asks_wide (c : DriverCall) (hw : c.Wide) (hsep : c.Separate) (b : Bus) :
    Asks UInt16 (c.announced b) c.run b := by
  cases c with
  | getDataBuf sock data dataLen =>
      have hsize := le16_ofNat_ofLe (Memory.length_loadList b.mem dataLen 2)
      have hlen : dataLen.OfCaller := hsep
      refine asks_ignore (asks_auto (asks_loadList ?_))
      refine (asks_exchange rfl le_rfl ?_).quiet fun _ => quiet_pure _
      simp [Param.bytes, hlen.loadList, hsize, -Memory.storeList_cons]
  | insertDataBuf sock data len | sendData sock data len =>
      have hdata : data.OfCaller := hsep
      refine asks_ignore (asks_auto (asks_auto ?_))
      refine (asks_exchange rfl le_rfl ?_).quiet fun _ => quiet_load _ _
      simp [Param.bytes, hdata.loadList, -Memory.storeList_cons]
  | _ => exact hw.elim

/-- A string that fits is what its length byte selects. -/
theorem bytes_string {b : Bus} {p : Ptr Obj} {m : Memory Obj UInt8}
    (hfits : Fits UInt8 [string b p]) (hm : ∀ k, m.loadList p k = b.mem.loadList p k) :
    (⟨UInt8.ofNat ((Bus.strlen p).val b), p⟩ : TParam).bytes m = string b p := by
  have hle := fits_string.mp hfits
  rw [string, Memory.length_loadList] at hle
  rw [Param.bytes, toNat_uint8, UInt8.toNat_ofNat_of_lt' (by rw [UInt8.size]; omega), hm, string]

theorem not_outOfList {networkItem : UInt8} (h : networkItem.toNat < wlNetworksListMaxnum) :
    ¬ WiFiDrv.outOfList networkItem = true :=
  fun hout => WiFiDrv.outOfList_iff.mp hout h

theorem asks_reqHostByName {aHostname : Ptr Obj} {b : Bus} (hsep : aHostname.OfCaller)
    (hfits : Fits UInt8 [string b aHostname]) :
    Asks UInt8 [string b aHostname] (WiFiDrv.reqHostByName aHostname) b := by
  refine asks_auto (asks_strlen ?_)
  refine (asks_exchange rfl le_rfl ?_).quiet fun _ => quiet_load _ _
  rw [hsep.val_strlen (by decide)]
  exact congrArg (fun xs => [xs]) (bytes_string hfits (hsep.loadList (by decide)))

theorem asks_checkDataSent (sock : UInt8) (b : Bus) :
    Asks UInt8 [[sock]] (ServerDrv.checkDataSent sock) b := by
  refine asks_auto (asks_auto ?_)
  rw [ServerDrv.pollDataSent_step]
  refine (asks_exchange rfl le_rfl ?_).bind ?_
  · simp [Param.bytes, -Memory.storeList_cons]
  · refine .bind (.silent (quiet_loadList _ 1)) fun b' => ?_
    split
    · exact .silent (quiet_pure 1)
    · exact paired_pollDataSent _ _ 24 (length_params_exchange _ _ _ _ _ _ _ rfl le_rfl)

theorem asks_narrow (c : DriverCall) (hw : ¬ c.Wide) (hc : c.Transmits) (hsep : c.Separate)
    (b : Bus) (hfits : c.FrameFits b) (hin : c.inputs b ≠ []) :
    Asks UInt8 (c.announced b) c.run b := by
  cases c with
  | getDataBuf | insertDataBuf | sendData => exact absurd trivial hw
  | getNetworkData | wifiDriverInit | wifiDriverDeinit | disconnect | getConnectionStatus
  | getMacAddress | getIpAddress | getSubnetMask | getGatewayIP | getCurrentSSID
  | getCurrentBSSID | getCurrentRSSI | getCurrentEncryptionType | startScanNetworks
  | getScanNetworks | getHostByNameResults | getFwVersion | getTime | getTemperature
  | getSocket => exact absurd rfl hin
  | getRemoteData sock ip port =>
      refine asks_ignore (asks_auto ?_)
      refine (asks_exchange rfl le_rfl ?_).quiet fun _ => quiet_pure _
      simp [Param.bytes, -Memory.storeList_cons]
  | wifiSetNetwork ssid ssidLen =>
      have hssid : ssid.OfCaller := hsep
      refine asks_ignore (asks_auto ?_)
      refine (asks_exchange rfl le_rfl ?_).quiet fun _ => quiet_load _ _
      simp [Param.bytes, hssid.loadList, -Memory.storeList_cons]
  | wifiSetPassphrase ssid ssidLen passphrase len =>
      refine asks_ignore (asks_requestByte rfl ?_)
      simp [Param.bytes, hsep.1.loadList, hsep.2.loadList, -Memory.storeList_cons]
  | wifiSetKey ssid ssidLen keyIdx key len =>
      refine asks_ignore (asks_auto (asks_requestByte rfl ?_))
      simp [Param.bytes, hsep.1.loadList, hsep.2.loadList, -Memory.storeList_cons]
  | config validParams localIp gateway subnet =>
      refine asks_ignore (asks_auto (asks_auto (asks_auto (asks_auto (asks_requestByte rfl ?_)))))
      simp [Param.bytes, -Memory.storeList_cons]
  | setDNS validParams dnsServer1 dnsServer2 =>
      refine asks_ignore (asks_auto (asks_auto (asks_auto (asks_requestByte rfl ?_))))
      simp [Param.bytes, -Memory.storeList_cons]
  | setHostname hostname =>
      have hname : hostname.OfCaller := hsep
      refine asks_ignore (asks_strlen (asks_requestByte rfl ?_))
      exact congrArg (fun xs => [xs])
        (bytes_string (hfits.2 hw) (hname.loadList (by decide)))
  | getSSIDNetworks => exact hc.elim
  | getEncTypeNetworks networkItem | getChannelNetworks networkItem =>
      refine asks_ignore (asks_auto ?_)
      rw [if_neg (not_outOfList hc)]
      refine (asks_requestVar rfl ?_).quiet fun _ => quiet_pure _
      simp [Param.bytes, -Memory.storeList_cons]
  | getBSSIDNetworks networkItem bssid =>
      refine asks_ignore (asks_auto ?_)
      rw [if_neg (not_outOfList hc)]
      refine asks_requestAt rfl ?_
      simp [Param.bytes, -Memory.storeList_cons]
  | getRSSINetworks networkItem =>
      refine asks_ignore (asks_auto (asks_auto ?_))
      rw [if_neg (not_outOfList hc)]
      refine asks_awaited le_rfl le_rfl ?_ fun _ => quiet_load _ _
      simp [Param.bytes, -Memory.storeList_cons]
  | reqHostByName aHostname => exact asks_ignore (asks_reqHostByName hsep (hfits.2 hw))
  | getHostByName aHostname aResult =>
      refine asks_ignore ((asks_reqHostByName hsep (hfits.2 hw)).bind ?_)
      split
      · exact (shaped_getHostByNameResults aResult).paired
      · exact .silent (quiet_pure 0)
  | setPowerMode mode =>
      refine asks_ignore (asks_auto (asks_auto ?_))
      refine (asks_exchange rfl le_rfl ?_).quiet fun _ => quiet_pure _
      simp [Param.bytes, -Memory.storeList_cons]
  | wifiSetApNetwork ssid ssidLen channel =>
      have hssid : ssid.OfCaller := hsep
      refine asks_ignore (asks_auto (asks_auto ?_))
      refine (asks_exchange rfl le_rfl ?_).quiet fun _ => quiet_load _ _
      simp [Param.bytes, hssid.loadList, -Memory.storeList_cons]
  | wifiSetApPassphrase ssid ssidLen passphrase len channel =>
      refine asks_ignore (asks_auto (asks_requestData rfl ?_))
      simp [Param.bytes, hsep.1.loadList, hsep.2.loadList, -Memory.storeList_cons]
  | ping ipAddress ttl =>
      refine asks_ignore (asks_auto (asks_auto ?_))
      refine (asks_exchange rfl le_rfl ?_).quiet fun _ => quiet_load _ _
      simp [Param.bytes, -Memory.storeList_cons]
  | debug on =>
      refine asks_ignore (asks_auto ?_)
      refine (asks_requestVar rfl ?_).quiet fun _ => quiet_pure _
      simp [Param.bytes, -Memory.storeList_cons]
  | pinMode pin value | digitalWrite pin value | analogWrite pin value =>
      refine asks_ignore (asks_auto (asks_auto (asks_requestData rfl ?_)))
      simp [Param.bytes, -Memory.storeList_cons]
  | startServer port sock protMode =>
      refine asks_ignore (asks_auto (asks_auto (asks_auto (asks_requestByte rfl ?_))))
      simp [Param.bytes, -Memory.storeList_cons]
  | startServerIpAddress ipAddress port sock protMode
  | startClient ipAddress port sock protMode =>
      refine asks_ignore (asks_auto (asks_auto (asks_auto (asks_auto (asks_requestByte rfl ?_)))))
      simp [Param.bytes, -Memory.storeList_cons]
  | startClientHostname host hostLen ipAddress port sock protMode =>
      have hhost : host.OfCaller := hsep
      refine asks_ignore (asks_auto (asks_auto (asks_auto (asks_auto (asks_requestByte rfl ?_)))))
      simp [Param.bytes, hhost.loadList, -Memory.storeList_cons]
  | stopClient sock | getServerState sock | getClientState sock =>
      refine asks_ignore (asks_auto (asks_requestByte rfl ?_))
      simp [Param.bytes, -Memory.storeList_cons]
  | availData sock | sendUdpData sock =>
      refine asks_ignore (asks_auto (asks_auto ?_))
      refine (asks_exchange rfl le_rfl ?_).quiet fun _ => quiet_load _ _
      simp [Param.bytes, -Memory.storeList_cons]
  | getData sock data peek =>
      have hannounced : UInt8.toNat 1 ≤ 2 := by decide
      refine asks_ignore (asks_auto (asks_auto ?_))
      refine (asks_announced hannounced le_rfl ?_).quiet fun _ => quiet_pure _
      simp [Param.bytes, -Memory.storeList_cons]
  | checkDataSent sock => exact asks_ignore (asks_checkDataSent sock b)

/-- What a call transmits first is a request, with the parameters that it announces. -/
theorem requests_of_asks {L : Type} [LengthCode L UInt8] {xs : List (List UInt8)}
    {c : DriverCall} {b : Bus} (h : Asks L xs c.run b) :
    ∃ cmd rest, c.requests b = frame L cmd xs :: rest := by
  obtain ⟨cmd, rest, hrest⟩ := h
  refine ⟨cmd, rest.filter fun f => f.head? == some startCmd, ?_⟩
  rw [requests, hrest, List.drop_left, List.filter_cons_of_pos]
  rfl

theorem quiet_ignore {α : Type} {p : Prog Bus α} (h : Prog.Guarantees (Quiet []) p) :
    Prog.Guarantees (Quiet []) p.ignore := h

theorem requests_eq_nil {c : DriverCall} (hc : ¬ c.Transmits) (b : Bus) : c.requests b = [] := by
  have hquiet : Prog.Guarantees (Quiet []) c.run := by
    cases c with
    | wifiDriverInit => exact quiet_begin
    | wifiDriverDeinit => exact quiet_end
    | getSSIDNetworks networkItem => exact quiet_pure ()
    | getEncTypeNetworks networkItem | getBSSIDNetworks networkItem bssid
    | getChannelNetworks networkItem =>
        have hout : WiFiDrv.outOfList networkItem = true := WiFiDrv.outOfList_iff.mpr hc
        refine quiet_ignore (quiet_bind (quiet_auto [networkItem] (by decide)) fun item => ?_)
        rw [if_pos hout]
        exact quiet_pure _
    | getRSSINetworks networkItem =>
        have hout : WiFiDrv.outOfList networkItem = true := WiFiDrv.outOfList_iff.mpr hc
        refine quiet_ignore (quiet_bind (quiet_auto (le32 0) (by decide)) fun rssi => ?_)
        refine quiet_bind (quiet_auto [networkItem] (by decide)) fun item => ?_
        rw [if_pos hout]
        exact quiet_pure _
    | _ => exact absurd trivial hc
  rw [requests, (hquiet b).transmitted, List.drop_length, List.filter_nil]

/-! ## Two calls -/

/-- Two calls of one function. -/
def SameFunction (c c' : DriverCall) : Prop := c.ctorIdx = c'.ctorIdx

/-- Calls of `ServerDrv_getData` for one socket. -/
def SameSocket : DriverCall → DriverCall → Prop
  | getData sock _ _, getData sock' _ _ => sock = sock'
  | _, _ => False

/-- The types of the arguments belong to the function. -/
theorem SameFunction.sizes_eq {c c' : DriverCall} (h : c.SameFunction c') (b b' : Bus) :
    (c.inputs b).map Value.size? = (c'.inputs b').map Value.size? ∧ (c.Wide ↔ c'.Wide) := by
  have hidx : c.ctorIdx = c'.ctorIdx := h
  -- for each function only its own constructor is left for the other call
  cases c <;> refine DriverCall.ctorElim (motive := fun d =>
    List.map Value.size? (inputs b _) = List.map Value.size? (inputs b' d) ∧ (Wide _ ↔ Wide d))
      _ c' hidx (PULift.up ?_)
  all_goals
    intros
    exact ⟨by simp only [inputs, List.map_cons, List.map_nil, Value.size?], Iff.rfl⟩

theorem SameFunction.symm {c c' : DriverCall} (h : c.SameFunction c') : c'.SameFunction c :=
  Eq.symm h

theorem SameFunction.exists_getData {sock peek : UInt8} {data : Ptr Obj} {c : DriverCall}
    (h : (getData sock data peek).SameFunction c) :
    ∃ sock' data' peek', c = getData sock' data' peek' := by
  cases c with
  | getData sock' data' peek' => exact ⟨sock', data', peek', rfl⟩
  | _ => exact absurd h (Nat.ne_of_beq_eq_false rfl)

/-- Every other function announces what it lists. -/
theorem announced_eq {c : DriverCall} (hc : ∀ sock data peek, c ≠ getData sock data peek)
    (b : Bus) : c.announced b = (c.inputs b).map Value.encoded := by
  cases c with
  | getData sock data peek => exact absurd rfl (hc sock data peek)
  | _ => rfl

theorem FrameFits.announced {c : DriverCall} {b : Bus} (h : c.FrameFits b) :
    (c.Wide → Fits UInt16 (c.announced b)) ∧ (¬ c.Wide → Fits UInt8 (c.announced b)) := by
  cases c with
  | getData sock data peek =>
      refine ⟨False.elim, fun _ => (fits_iff UInt8 _).mpr ?_⟩
      simp
  | _ => exact h

theorem requests_ne_nil {c : DriverCall} {b : Bus} (hc : c.Transmits) (hsep : c.Separate)
    (hfits : c.FrameFits b) (hin : c.inputs b ≠ []) : c.requests b ≠ [] := by
  by_cases hw : c.Wide
  · obtain ⟨cmd, rest, hreq⟩ := requests_of_asks (asks_wide c hw hsep b)
    simp [hreq]
  · obtain ⟨cmd, rest, hreq⟩ := requests_of_asks (asks_narrow c hw hc hsep b hfits hin)
    simp [hreq]

/-- Equal requests of one function announce the same. -/
theorem announced_eq_of_requests_eq {c c' : DriverCall} {b b' : Bus} (hsame : c.SameFunction c')
    (hin : c.inputs b ≠ []) (hin' : c'.inputs b' ≠ []) (hc : c.Transmits) (hc' : c'.Transmits)
    (hsep : c.Separate) (hsep' : c'.Separate) (hfits : c.FrameFits b) (hfits' : c'.FrameFits b')
    (h : c.requests b = c'.requests b') : c.announced b = c'.announced b' := by
  have hwide := (hsame.sizes_eq b b').2
  by_cases hw : c.Wide
  · obtain ⟨cmd, rest, hreq⟩ := requests_of_asks (asks_wide c hw hsep b)
    obtain ⟨cmd', rest', hreq'⟩ := requests_of_asks (asks_wide c' (hwide.mp hw) hsep' b')
    rw [hreq, hreq', List.cons.injEq] at h
    exact Fits.frame_inj (by decide) (hfits.announced.1 hw)
      (hfits'.announced.1 (hwide.mp hw)) h.1
  · have hw' : ¬ c'.Wide := fun h' => hw (hwide.mpr h')
    obtain ⟨cmd, rest, hreq⟩ := requests_of_asks (asks_narrow c hw hc hsep b hfits hin)
    obtain ⟨cmd', rest', hreq'⟩ := requests_of_asks (asks_narrow c' hw' hc' hsep' b' hfits' hin')
    rw [hreq, hreq', List.cons.injEq] at h
    exact Fits.frame_inj (by decide) (hfits.announced.2 hw) (hfits'.announced.2 hw') h.1

/-- One request goes out, for the socket alone. -/
theorem requests_getData (sock peek : UInt8) (data : Ptr Obj) (b : Bus) :
    (getData sock data peek).requests b = [frame UInt8 getDataTcpCmd [[sock]]] := by
  have hannounced : UInt8.toNat 1 ≤ 2 := by decide
  have hrun : ((getData sock data peek).run.state b).transmitted = b.transmitted ++
      [frame UInt8 getDataTcpCmd [[sock]], List.replicate (window wifiSocketBufferSize) 0] := by
    simp only [run, ServerDrv.getData, Prog.state_ignore, Prog.state_bind, Prog.state_pure,
      Bus.val_auto, Bus.state_auto]
    rw [transmitted_announced hannounced le_rfl]
    simp [Bus.transmitted, Param.bytes, -Memory.storeList_cons]
  rw [requests, hrun, List.drop_left]
  rfl

/-- **When two calls of one function with different arguments make different requests**: the
second argument of `ServerDrv_getData` is listed and not announced, every other argument of
every function is in the frame. -/
theorem requests_ne_iff (c c' : DriverCall) (b b' : Bus) (hsame : c.SameFunction c')
    (hinputs : c.inputs b ≠ c'.inputs b') (hc : c.Transmits) (hsep : c.Separate)
    (hsep' : c'.Separate) (hfits : c.FrameFits b) (hfits' : c'.FrameFits b') :
    c.requests b ≠ c'.requests b' ↔ ¬ c.SameSocket c' := by
  have hsizes := (hsame.sizes_eq b b').1
  constructor
  · intro hne hsocket
    cases c with
    | getData sock data peek =>
        obtain ⟨sock', data', peek', rfl⟩ := hsame.exists_getData
        obtain rfl : sock = sock' := hsocket
        exact hne ((requests_getData sock peek data b).trans
          (requests_getData sock peek' data' b').symm)
    | _ => exact hsocket.elim
  · intro hsocket hreq
    have hin : c.inputs b ≠ [] := by
      intro hnil
      rw [hnil, List.map_nil, eq_comm, List.map_eq_nil_iff] at hsizes
      exact hinputs (hnil.trans hsizes.symm)
    have hin' : c'.inputs b' ≠ [] := by
      intro hnil
      rw [hnil, List.map_nil, List.map_eq_nil_iff] at hsizes
      exact hin hsizes
    have hc' : c'.Transmits := by
      by_contra hsilent
      exact requests_ne_nil hc hsep hfits hin (hreq.trans (requests_eq_nil hsilent b'))
    have hann := announced_eq_of_requests_eq hsame hin hin' hc hc' hsep hsep' hfits hfits' hreq
    by_cases hdata : ∃ sock data peek, c = getData sock data peek
    · obtain ⟨sock, data, peek, rfl⟩ := hdata
      obtain ⟨sock', data', peek', rfl⟩ := hsame.exists_getData
      exact hsocket (List.singleton_injective (List.singleton_injective hann))
    · rw [announced_eq fun sock data peek h => hdata ⟨sock, data, peek, h⟩,
        announced_eq fun sock data peek h => hdata (h ▸ hsame.symm).exists_getData] at hann
      exact hinputs (Value.map_encoded_inj hsizes hann)

/-- The protocol of a server. -/
theorem requests_ne_iff_protMode :
    (startServer 80 0 0).requests (Bus.fresh fun _ => []) ≠
        (startServer 80 0 1).requests (Bus.fresh fun _ => []) ↔
      ¬ (startServer 80 0 0).SameSocket (startServer 80 0 1) := by
  have hfits : ∀ protMode, (startServer 80 0 protMode).FrameFits (Bus.fresh fun _ => []) :=
    fun protMode => ⟨False.elim, fun _ => (fits_iff UInt8 _).mpr (by simp)⟩
  exact requests_ne_iff (startServer 80 0 0) (startServer 80 0 1) (Bus.fresh fun _ => [])
    (Bus.fresh fun _ => []) rfl (by decide) trivial trivial trivial (hfits 0) (hfits 1)

/-- Two requests that differ in the flag `peek` are the same on the wire. -/
theorem requests_peek_eq :
    let b := Bus.fresh fun _ => []
    let c := getData 0 ⟨.user 0, 0⟩ 0
    let c' := getData 0 ⟨.user 0, 0⟩ 1
    c.SameFunction c' ∧ c.inputs b ≠ c'.inputs b ∧ c.FrameFits b ∧ c'.FrameFits b ∧
      c.requests b = c'.requests b := by
  have hfits : ∀ peek, (getData 0 ⟨.user 0, 0⟩ peek).FrameFits (Bus.fresh fun _ => []) :=
    fun peek => ⟨False.elim, fun _ => (fits_iff UInt8 _).mpr (by simp)⟩
  refine ⟨rfl, by decide, hfits 0, hfits 1, ?_⟩
  rw [requests_getData, requests_getData]

end DriverCall

end WiFiNINA
