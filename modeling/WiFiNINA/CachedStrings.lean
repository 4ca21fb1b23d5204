import WiFiNINA.DriverCalls.Destinations
import WiFiNINA.Lib.Transition

/-!
# The strings that the driver keeps

The name of the current network, the names of the networks found and the firmware version
stay in static arrays of `wifi_drv.c`, and the library hands out their addresses as strings.
-/

namespace WiFiNINA

open LengthCode SpiDrv

/-- The functions that store replies in static arrays. -/
inductive CacheCall
  | getCurrentSSID
  | getScanNetworks
  | getFwVersion
  | getMacAddress
  | getCurrentBSSID
  | getNetworkData

namespace CacheCall

/-- `WiFiDrv_getNetworkData` is private, and called with three static variables. -/
def call : CacheCall → DriverCall
  | getCurrentSSID => .getCurrentSSID
  | getScanNetworks => .getScanNetworks
  | getFwVersion => .getFwVersion
  | getMacAddress => .getMacAddress
  | getCurrentBSSID => .getCurrentBSSID
  | getNetworkData =>
      .getNetworkData Global.localIp.ptr Global.subnetMask.ptr Global.gatewayIp.ptr

/-- The static variables a function names as its out parameters. -/
def named : CacheCall → List Global
  | getCurrentSSID => [.ssid]
  | getScanNetworks => [.networkSsid]
  | getFwVersion => [.fwVersion]
  | getMacAddress => [.mac]
  | getCurrentBSSID => [.bssid]
  | getNetworkData => [.localIp, .subnetMask, .gatewayIp]

end CacheCall

/-- The driver under these calls. -/
def caches : System Bus CacheCall where
  enabled _ _ := True
  next b c := c.call.run.state b

/-- One of the `n` bytes from `p` on is zero. -/
def HasZero (m : Memory Obj UInt8) (p : Ptr Obj) (n : ℕ) : Prop := 0 ∈ m.loadList p n

/-- The strings that are kept, with the sizes of their arrays. -/
def strings : List (Ptr Obj × ℕ) :=
  (Global.ssid.ptr, wlSsidMaxLength) :: (Global.fwVersion.ptr, wlFwVerLength) ::
    (List.range wlNetworksListMaxnum).map fun i => (networkSsidRow i, wlSsidMaxLength)

/-- Every string has an end inside its array. -/
def Terminated (b : Bus) : Prop := ∀ o ∈ strings, HasZero b.mem o.1 o.2

section HasZero
variable {L : Type} [LengthCode L UInt8] {m : Memory Obj UInt8} {p : Ptr Obj} {n : ℕ}

theorem hasZero_of_load {i : ℕ} (hi : i < n) (h : m.load (p.add i) = 0) : HasZero m p n := by
  rw [HasZero, Memory.loadList, List.mem_map]
  exact ⟨p.add i, Ptr.mem_region.mpr ⟨i, hi, rfl⟩, h⟩

theorem HasZero.congr {m' : Memory Obj UInt8} (h : HasZero m p n)
    (heq : ∀ a ∈ p.region n, m'.load a = m.load a) : HasZero m' p n := by
  rw [HasZero, Memory.loadList_congr heq]
  exact h

/-- A parameter is stored into the whole string, or elsewhere. -/
def Param.Respects (q : Param L) (p : Ptr Obj) (n : ℕ) : Prop :=
  q.data = p ∧ toNat q.len ≤ n ∨ (p.region n).Disjoint q.dest

/-- The zero behind a parameter ends the string, and a store elsewhere does not touch it. -/
theorem HasZero.storeList (h : HasZero m p n) {q : Param L} {x : List UInt8}
    (hq : q.Respects p n) (hx : x.length < toNat q.len) :
    HasZero (m.storeList q.data (x ++ [0])) p n := by
  cases hq with
  | inl hwhole =>
      have hload := m.load_storeList_add p (x ++ [0]) (i := x.length) (by simp)
      rw [List.getElem_concat_length rfl] at hload
      rw [hwhole.1]
      exact hasZero_of_load (hx.trans_le hwhole.2) hload
  | inr hdisjoint =>
      refine h.congr fun a ha => Memory.load_storeList_of_notMem m fun hstored => ?_
      refine hdisjoint ha (Ptr.region_subset ?_ hstored)
      simpa using Nat.succ_le_of_lt hx

/-- The parameter loop keeps a string terminated that no destination cuts. -/
theorem HasZero.storeParams (h : HasZero m p n) {params : List (Param L)} {xs : List (List UInt8)}
    (hfit : List.Forall₂ (fun x q => x.length < toNat q.len) xs (params.take xs.length))
    (hrespects : ∀ q ∈ params, q.Respects p n) : HasZero (storeParams m params xs) p n := by
  induction params generalizing m xs with
  | nil => exact h
  | cons q params ih =>
      cases xs with
      | nil => exact h
      | cons x xs =>
          rw [List.length_cons, List.take_succ_cons, List.forall₂_cons] at hfit
          rw [List.forall_mem_cons] at hrespects
          rw [storeParams_cons]
          exact ih (h.storeList hrespects.1 hfit.1) hfit.2 hrespects.2

end HasZero

theorem forall_strings {P : Ptr Obj × ℕ → Prop} :
    (∀ o ∈ strings, P o) ↔ P (Global.ssid.ptr, wlSsidMaxLength) ∧
      P (Global.fwVersion.ptr, wlFwVerLength) ∧
        ∀ i < wlNetworksListMaxnum, P (networkSsidRow i, wlSsidMaxLength) := by
  simp [strings]

/-- The strings are in static variables. -/
theorem obj_of_mem_strings {o : Ptr Obj × ℕ} (ho : o ∈ strings) :
    o.1.obj = .global .ssid ∨ o.1.obj = .global .fwVersion ∨ o.1.obj = .global .networkSsid := by
  revert o
  rw [forall_strings]
  exact ⟨.inl rfl, .inr (.inl rfl), fun i _ => .inr (.inr rfl)⟩

theorem respects_of_obj_ne {L : Type} [LengthCode L UInt8] {q : Param L} {p : Ptr Obj} {n : ℕ}
    (h : p.obj ≠ q.data.obj) : q.Respects p n := by
  refine .inr fun a ha ha' => h ?_
  rw [← Ptr.obj_of_mem_region ha, ← Ptr.obj_of_mem_region ha']

/-- The rows of the list of networks do not overlap. -/
theorem disjoint_rows {i j : ℕ} (h : i ≠ j) :
    ((networkSsidRow i).region wlSsidMaxLength).Disjoint
      ((networkSsidRow j).region wlSsidMaxLength) := by
  intro a ha ha'
  obtain ⟨k, hk, rfl⟩ := Ptr.mem_region.mp ha
  obtain ⟨l, hl, heq⟩ := Ptr.mem_region.mp ha'
  have hoff := congrArg Ptr.off heq
  simp only [networkSsidRow, Ptr.off_add, wlSsidMaxLength] at hoff hk hl
  omega

theorem respects_row {i j : ℕ} {q : TParam} (hdata : q.data = networkSsidRow j)
    (hlen : toNat q.len = wlSsidMaxLength) : q.Respects (networkSsidRow i) wlSsidMaxLength := by
  by_cases hij : i = j
  · subst hij
    exact .inl ⟨hdata, hlen.le⟩
  · rw [Param.Respects, Param.dest, hdata, hlen]
    exact .inr (disjoint_rows hij)

/-- The program leaves the strings terminated. -/
def Keeps {α : Type} (p : Prog Bus α) : Prop :=
  Prog.Guarantees (fun b b' => Terminated b → Terminated b') p

section Keeps
variable {α β L L' : Type} [LengthCode L UInt8] [LengthCode L' UInt8]

theorem keeps_pure (a : α) : Keeps (pure a : Prog Bus α) := fun _ h => h

theorem Keeps.bind {p : Prog Bus α} {f : α → Prog Bus β} (hp : Keeps p) (hf : ∀ a, Keeps (f a)) :
    Keeps (p >>= f) :=
  fun b h => hf _ _ (hp b h)

theorem keeps_uninit (var : Var) (n : ℕ) : Keeps (Bus.uninit var n) := fun _ h => h

theorem keeps_auto (var : Var) (init : List UInt8) : Keeps (Bus.auto var init) := by
  intro b h o ho
  refine (h o ho).congr fun a ha => Memory.load_storeList_of_obj_ne b.mem ?_
  rw [Ptr.obj_of_mem_region ha]
  rcases obj_of_mem_strings ho with hobj | hobj | hobj <;> rw [hobj] <;> exact Obj.noConfusion

theorem load_clear (m : Memory Obj UInt8) (p : Ptr Obj) (n : ℕ) (a : Ptr Obj) :
    (m.storeList p (List.replicate n 0)).load a = if a ∈ p.region n then 0 else m.load a := by
  split
  · next ha =>
      obtain ⟨i, hi, rfl⟩ := Ptr.mem_region.mp ha
      rw [Memory.load_storeList_add _ _ _ (by simpa using hi), List.getElem_replicate]
  · next ha => exact Memory.load_storeList_of_notMem m (by simpa using ha)

/-- Zeros do not take an end away. -/
theorem keeps_clear (p : Ptr Obj) (n : ℕ) : Keeps (Bus.clear p n) := by
  intro b h o ho
  obtain ⟨a, ha, hzero⟩ := List.mem_map.mp (h o ho)
  obtain ⟨i, hi, rfl⟩ := Ptr.mem_region.mp ha
  refine hasZero_of_load hi ?_
  rw [Bus.clear, Bus.state_storeList, load_clear, hzero, ite_self]

theorem keeps_send {cmd numParam : UInt8} {params : List (Param L)}
    (hn : params.length = numParam.toNat) : Keeps (send cmd numParam params) := by
  intro b h o ho
  rw [mem_send _ _ _ _ hn]
  exact h o ho

/-- A decoder whose destinations are whole strings or elsewhere. -/
theorem keeps_receiveResponse {cmd maxNumParams numParamRead : UInt8} {maxSize : UInt16}
    {params : List (Param L)} (hmax : maxNumParams.toNat ≤ params.length)
    (hcaps : ∀ q ∈ params, 0 < toNat q.len)
    (hrespects : ∀ o ∈ strings, ∀ q ∈ params, q.Respects o.1 o.2) :
    Keeps (receiveResponse cmd maxSize numParamRead params maxNumParams) := by
  intro b h o ho
  rw [mem_receiveResponse _ _ _ _ _ _ hmax]
  exact (h o ho).storeParams (parseReply_params_lt cmd maxNumParams _ hcaps) (hrespects o ho)

theorem keeps_exchange {cmd numParam maxNumParams : UInt8} {inParams : List (Param L)}
    {maxSize : UInt16} {outParams : List (Param L')} (hn : inParams.length = numParam.toNat)
    (hmax : maxNumParams.toNat ≤ outParams.length) (hcaps : ∀ q ∈ outParams, 0 < toNat q.len)
    (hrespects : ∀ o ∈ strings, ∀ q ∈ outParams, q.Respects o.1 o.2) :
    Keeps (exchange cmd numParam inParams maxSize outParams maxNumParams) :=
  (keeps_send hn).bind fun _ => (keeps_uninit .paramsRead 1).bind fun _ =>
    keeps_receiveResponse hmax hcaps hrespects

end Keeps

/-! ## The functions -/

/-- A destination in another static variable. -/
theorem respects_global {var : Global} (hssid : var ≠ .ssid) (hfw : var ≠ .fwVersion)
    (hrows : var ≠ .networkSsid) (len : UInt8) :
    ∀ o ∈ strings, (⟨len, var.ptr⟩ : TParam).Respects o.1 o.2 := by
  intro o ho
  refine respects_of_obj_ne fun hobj => ?_
  rw [Global.obj_ptr] at hobj
  rcases obj_of_mem_strings ho with h | h | h
  · exact hssid (Obj.global.inj (hobj.symm.trans h))
  · exact hfw (Obj.global.inj (hobj.symm.trans h))
  · exact hrows (Obj.global.inj (hobj.symm.trans h))

theorem respects_ssid :
    ∀ o ∈ strings,
      (⟨UInt8.ofNat wlSsidMaxLength, Global.ssid.ptr⟩ : TParam).Respects o.1 o.2 := by
  rw [forall_strings]
  refine ⟨.inl ⟨rfl, by decide⟩, respects_of_obj_ne (by decide), fun i _ => ?_⟩
  exact respects_of_obj_ne fun h => by cases h

theorem respects_fwVersion :
    ∀ o ∈ strings,
      (⟨UInt8.ofNat wlFwVerLength, Global.fwVersion.ptr⟩ : TParam).Respects o.1 o.2 := by
  rw [forall_strings]
  refine ⟨respects_of_obj_ne (by decide), .inl ⟨rfl, by decide⟩, fun i _ => ?_⟩
  exact respects_of_obj_ne fun h => by cases h

theorem mem_scanParams {q : TParam} :
    q ∈ WiFiDrv.scanParams ↔
      ∃ i < wlNetworksListMaxnum, q = ⟨UInt8.ofNat wlSsidMaxLength, networkSsidRow i⟩ := by
  simp [WiFiDrv.scanParams, eq_comm]

theorem respects_scanParams : ∀ o ∈ strings, ∀ q ∈ WiFiDrv.scanParams, q.Respects o.1 o.2 := by
  rw [forall_strings]
  refine ⟨fun q hq => ?_, fun q hq => ?_, fun i _ q hq => ?_⟩
  · obtain ⟨j, -, rfl⟩ := mem_scanParams.mp hq
    exact respects_of_obj_ne fun h => by cases h
  · obtain ⟨j, -, rfl⟩ := mem_scanParams.mp hq
    exact respects_of_obj_ne fun h => by cases h
  · obtain ⟨j, -, rfl⟩ := mem_scanParams.mp hq
    exact respects_row rfl rfl

theorem keeps_ignore {α : Type} {p : Prog Bus α} (hp : Keeps p) : Keeps p.ignore := hp

theorem keeps_requestAt {cmd numParam : UInt8} {inParams : List TParam} {maxSize : UInt16}
    {capacity : ℕ} {place : Ptr Obj} (hn : inParams.length = numParam.toNat)
    (hcap : 0 < (UInt8.ofNat capacity).toNat)
    (hrespects : ∀ o ∈ strings, (⟨UInt8.ofNat capacity, place⟩ : TParam).Respects o.1 o.2) :
    Keeps (WiFiDrv.requestAt cmd numParam inParams maxSize capacity place) := by
  refine Keeps.bind (keeps_exchange hn le_rfl ?_ ?_) fun reply => keeps_pure _
  · simpa using hcap
  · simpa using hrespects

theorem keeps_getCurrentSSID : Keeps WiFiDrv.getCurrentSSID := by
  refine (keeps_auto .dummy [dummyData]).bind fun p => ?_
  refine (keeps_send rfl).bind fun _ => (keeps_clear _ _).bind fun _ => ?_
  refine (keeps_uninit .paramsRead 1).bind fun x => Keeps.bind ?_ fun reply => keeps_pure _
  exact keeps_receiveResponse le_rfl (by simp [wlSsidMaxLength]) (by simpa using respects_ssid)

theorem keeps_getScanNetworks : Keeps WiFiDrv.getScanNetworks := by
  refine (keeps_send rfl).bind fun _ => (keeps_clear _ _).bind fun _ => ?_
  refine (keeps_uninit .paramsRead 1).bind fun x => Keeps.bind ?_ fun reply => keeps_pure _
  refine keeps_receiveResponse ?_ ?_ respects_scanParams
  · simp [WiFiDrv.scanParams, wlNetworksListMaxnum]
  · simp [WiFiDrv.scanParams, wlSsidMaxLength]

theorem keeps_getNetworkData :
    Keeps (WiFiDrv.getNetworkData Global.localIp.ptr Global.subnetMask.ptr
      Global.gatewayIp.ptr) := by
  refine (keeps_auto .dummy [dummyData]).bind fun p => ?_
  refine Keeps.bind (keeps_exchange rfl le_rfl (by simp) fun o ho q hq => ?_) fun reply =>
    keeps_pure _
  simp only [List.mem_cons, List.not_mem_nil, or_false] at hq
  rcases hq with rfl | rfl | rfl <;>
    exact respects_global (by decide) (by decide) (by decide) _ o ho

theorem keeps_call (c : CacheCall) : Keeps c.call.run := by
  cases c with
  | getCurrentSSID => exact keeps_ignore keeps_getCurrentSSID
  | getScanNetworks => exact keeps_ignore keeps_getScanNetworks
  | getFwVersion => exact keeps_ignore (keeps_requestAt rfl (by decide) respects_fwVersion)
  | getMacAddress =>
      exact keeps_ignore ((keeps_auto .dummy [dummyData]).bind fun p => keeps_requestAt rfl
        (by decide) (respects_global (by decide) (by decide) (by decide) _))
  | getCurrentBSSID =>
      exact keeps_ignore ((keeps_auto .dummy [dummyData]).bind fun p => keeps_requestAt rfl
        (by decide) (respects_global (by decide) (by decide) (by decide) _))
  | getNetworkData => exact keeps_ignore keeps_getNetworkData

/-- **Every call keeps the strings terminated.** -/
theorem terminated_next (c : CacheCall) {b : Bus} (h : Terminated b) :
    Terminated (caches.next b c) :=
  keeps_call c b h

theorem regular_call (c : CacheCall) : c.call.Regular := by
  cases c <;> trivial

theorem row_subset {i : ℕ} (hi : i < wlNetworksListMaxnum) {a : Ptr Obj}
    (ha : a ∈ (networkSsidRow i).region wlSsidMaxLength) :
    a ∈ Global.networkSsid.ptr.region Global.networkSsid.size := by
  obtain ⟨k, hk, rfl⟩ := Ptr.mem_region.mp ha
  refine Ptr.mem_region.mpr ⟨i * wlSsidMaxLength + k, ?_, ?_⟩
  · simp only [Global.size, wlNetworksListMaxnum, wlSsidMaxLength] at hi hk ⊢
    omega
  · rw [networkSsidRow, Ptr.add_add]

/-- The out parameters are the arrays named, or rows of them. -/
theorem outs_named (c : CacheCall) (m : Memory Obj UInt8) {o : Ptr Obj × ℕ}
    (ho : o ∈ c.call.outs m) :
    ∃ var ∈ c.named, ∀ a ∈ o.1.region o.2, a ∈ var.ptr.region var.size := by
  cases c with
  | getScanNetworks =>
      obtain ⟨i, hi, rfl⟩ := List.mem_map.mp ho
      exact ⟨.networkSsid, by simp [CacheCall.named], fun a => row_subset (List.mem_range.mp hi)⟩
  | getNetworkData =>
      simp only [CacheCall.call, DriverCall.outs, List.mem_cons, List.not_mem_nil, or_false] at ho
      rcases ho with rfl | rfl | rfl
      · exact ⟨.localIp, by simp [CacheCall.named], fun a ha => ha⟩
      · exact ⟨.subnetMask, by simp [CacheCall.named], fun a ha => ha⟩
      · exact ⟨.gatewayIp, by simp [CacheCall.named], fun a ha => ha⟩
  | _ =>
      obtain rfl := List.mem_singleton.mp ho
      exact ⟨_, List.mem_cons_self, fun a ha => ha⟩

/-- What a function clears is the array it names. -/
theorem assigned_named (c : CacheCall) {a : Ptr Obj} (ha : a ∈ c.call.assigned) :
    ∃ var ∈ c.named, a ∈ var.ptr.region var.size := by
  cases c with
  | getCurrentSSID => exact ⟨.ssid, List.mem_cons_self, ha⟩
  | getScanNetworks => exact ⟨.networkSsid, List.mem_cons_self, ha⟩
  | _ => exact absurd ha List.not_mem_nil

/-- **No call stores outside the arrays it names.** -/
theorem stores_next (c : CacheCall) (b : Bus) {a : Ptr Obj}
    (ha : a ∈ (caches.next b c).mem.since b.mem) :
    a.InVar ∨ ∃ var ∈ c.named, a ∈ var.ptr.region var.size := by
  have hcontained := c.call.contained_outs (regular_call c) b
  rcases hcontained.mem_objects ha with hvar | hassigned | ⟨o, ho, hmem⟩
  · exact .inl hvar
  · exact .inr (assigned_named c hassigned)
  · obtain ⟨var, hvar, hsub⟩ := outs_named c b.mem ho
    exact .inr ⟨var, hvar, hsub a hmem⟩

/-- The networks that a reply brings: none if it is rejected before its count byte. -/
def networksFound (s : List UInt8) : ℕ :=
  if HasHeader scanNetworks s then
    min ((s.drop ((seek startCmd timeoutChar s).2 + 1)).headD 0).toNat wlNetworksListMaxnum
  else 0

theorem length_scanned (s : List UInt8) :
    (parseReply scanNetworks (UInt8.ofNat wlNetworksListMaxnum)
      (WiFiDrv.scanParams.map Param.len) s).payloads.length = networksFound s := by
  rw [networksFound]
  split
  · next h =>
      obtain ⟨numParam, rest, hn, -, hpayloads, -⟩ := parseReply_of_hasHeader
        (UInt8.ofNat wlNetworksListMaxnum) (WiFiDrv.scanParams.map Param.len) h
      rw [hpayloads, length_takeFields, hn, List.length_take, toNat_limitCount]
      simp [WiFiDrv.scanParams, wlNetworksListMaxnum]
  · next h =>
      rw [(parseReply_of_not_hasHeader _ _ h).2.2.1]
      rfl

theorem next_getScanNetworks (b : Bus) :
    caches.next b .getScanNetworks = WiFiDrv.getScanNetworks.state b := by
  simp only [caches, CacheCall.call, DriverCall.run, Prog.state_ignore]

/-- The rows are cleared, and then the parameters of the reply go to the first of them. -/
theorem mem_getScanNetworks (b : Bus) :
    (caches.next b .getScanNetworks).mem =
      storeParams (b.mem.storeList Global.networkSsid.ptr
          (List.replicate Global.networkSsid.size 0)) WiFiDrv.scanParams
        (parseReply scanNetworks (UInt8.ofNat wlNetworksListMaxnum)
          (WiFiDrv.scanParams.map Param.len) (reply wifiSocketBufferSize b)).payloads := by
  have hmax : (UInt8.ofNat wlNetworksListMaxnum).toNat ≤ WiFiDrv.scanParams.length := by
    simp [WiFiDrv.scanParams, wlNetworksListMaxnum]
  have hsend := slave_send (L := UInt8) scanNetworks 0 [] b rfl
  have hmem := mem_send (L := UInt8) scanNetworks 0 [] b rfl
  rw [next_getScanNetworks]
  simp only [WiFiDrv.getScanNetworks, Prog.state_bind, Prog.state_pure, sendCmd,
    receiveResponseCmd, Bus.clear, Bus.state_storeList, Bus.state_uninit]
  rw [mem_receiveResponse _ _ _ _ _ _ hmax, parsed, received, hmem, hsend]
  simp only [replyAt, Nat.mul_zero, Nat.zero_add]

/-- **The rows behind the networks found are all zeros.** -/
theorem unused_rows (b : Bus) {i : ℕ} (hfound : networksFound (reply wifiSocketBufferSize b) ≤ i)
    (hi : i < wlNetworksListMaxnum) :
    (caches.next b .getScanNetworks).mem.loadList (networkSsidRow i) wlSsidMaxLength =
      List.replicate wlSsidMaxLength 0 := by
  have hcaps : ∀ q ∈ WiFiDrv.scanParams, 0 < toNat q.len := by
    simp [WiFiDrv.scanParams, wlSsidMaxLength]
  have hfit := parseReply_params_lt scanNetworks (UInt8.ofNat wlNetworksListMaxnum)
    (reply wifiSocketBufferSize b) hcaps
  rw [mem_getScanNetworks, List.eq_replicate_iff]
  refine ⟨Memory.length_loadList _ _ _, fun c hc => ?_⟩
  obtain ⟨a, ha, rfl⟩ := List.mem_map.mp hc
  rw [load_storeParams_of_forall_notMem, load_clear, if_pos (row_subset hi ha)]
  intro px hpx hstored
  obtain ⟨htake, hdest⟩ := region_subset_dest hfit hpx hstored
  rw [length_scanned, WiFiDrv.scanParams, ← List.map_take] at htake
  obtain ⟨j, hj, hparam⟩ := List.mem_map.mp htake
  rw [← hparam] at hdest
  have hij : i ≠ j := by
    rw [List.take_range, List.mem_range] at hj
    omega
  exact disjoint_rows hij ha hdest

/-! ## Runs -/

/-- What a call does, whatever the reply: it stores to the arrays it names, and a scan leaves
zeros behind the networks found. -/
structure CacheCall.Sound (c : CacheCall) (b b' : Bus) : Prop where
  stores : ∀ a ∈ b'.mem.since b.mem, a.InVar ∨ ∃ var ∈ c.named, a ∈ var.ptr.region var.size
  unused : c = .getScanNetworks → ∀ i, networksFound (reply wifiSocketBufferSize b) ≤ i →
    i < wlNetworksListMaxnum →
      b'.mem.loadList (networkSsidRow i) wlSsidMaxLength = List.replicate wlSsidMaxLength 0

theorem sound_next (c : CacheCall) (b : Bus) : c.Sound b (caches.next b c) where
  stores _ ha := stores_next c b ha
  unused hc i hfound hi := by
    subst hc
    exact unused_rows b hfound hi

/-- The static variables before the first call. -/
def Zeroed (b : Bus) : Prop :=
  ∀ var : Global, b.mem.loadList var.ptr var.size = List.replicate var.size 0

theorem Zeroed.load {b : Bus} (h : Zeroed b) {var : Global} {a : Ptr Obj}
    (ha : a ∈ var.ptr.region var.size) : b.mem.load a = 0 :=
  (List.eq_replicate_iff.mp (h var)).2 _ (List.mem_map_of_mem ha)

theorem Zeroed.terminated {b : Bus} (h : Zeroed b) : Terminated b := by
  have hzero : ∀ (var : Global) {p : Ptr Obj}, p ∈ var.ptr.region var.size →
      ∀ {n}, 0 < n → HasZero b.mem p n := fun _ _ hp _ hn => hasZero_of_load hn (h.load hp)
  rw [Terminated, forall_strings]
  refine ⟨?_, ?_, fun i hi => ?_⟩
  · exact hzero .ssid (by decide) (by decide)
  · exact hzero .fwVersion (by decide) (by decide)
  · have hfirst : networkSsidRow i ∈ (networkSsidRow i).region wlSsidMaxLength :=
      Ptr.mem_region.mpr ⟨0, by decide, rfl⟩
    have hpos : 0 < wlSsidMaxLength := by decide
    exact hzero .networkSsid (row_subset hi hfirst) hpos

theorem run_caches (b : Bus) (calls : List CacheCall) : caches.Run b calls := by
  induction calls generalizing b with
  | nil => trivial
  | cons c calls ih => exact ⟨trivial, ih _⟩

/-- **The strings handed out are terminated after every run**, and no call of it stores outside
its arrays or leaves an old name behind the networks it found. -/
theorem strings_terminated (b : Bus) (h : Zeroed b) (calls : List CacheCall) :
    Terminated (caches.exec b calls) ∧
      ∀ c : CacheCall, c.Sound (caches.exec b calls) (caches.next (caches.exec b calls) c) := by
  refine ⟨?_, fun c => sound_next c _⟩
  exact System.invariant (fun b c hb _ => terminated_next c hb) h.terminated (run_caches b calls)

theorem zeroed_fresh (slave : ℕ → List UInt8) : Zeroed (Bus.fresh slave) := by
  intro var
  rw [List.eq_replicate_iff]
  refine ⟨Memory.length_loadList _ _ _, fun c hc => ?_⟩
  obtain ⟨a, -, rfl⟩ := List.mem_map.mp hc
  rfl

/-- A module that shifts out nothing but start bytes. -/
theorem strings_terminated_garbage :
    Terminated (caches.exec (Bus.fresh fun _ => List.replicate 255 startCmd)
        [.getScanNetworks, .getCurrentSSID, .getFwVersion]) ∧
      ∀ c : CacheCall, c.Sound
        (caches.exec (Bus.fresh fun _ => List.replicate 255 startCmd)
          [.getScanNetworks, .getCurrentSSID, .getFwVersion])
        (caches.next (caches.exec (Bus.fresh fun _ => List.replicate 255 startCmd)
          [.getScanNetworks, .getCurrentSSID, .getFwVersion]) c) :=
  strings_terminated _ (zeroed_fresh _) _

end WiFiNINA
