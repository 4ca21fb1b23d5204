import WiFiNINA.RejectedReplies
import WiFiNINA.ScanNetworks

/-!
# Uninitialised variables

Some functions of `wifi_drv.c` hand the address of a variable without an initial value to the
decoder, and return what the variable holds afterwards.  A reply that is rejected early leaves
it as it was, and a short parameter leaves its last bytes as they were.
-/

namespace WiFiNINA

open LengthCode SpiDrv

/-- From `b` the program returns the same value and leaves the same memory outside the local
variables `locals`, whatever these held. -/
def Determined {α : Type} (locals : List Obj) (p : Prog Bus α) (b : Bus) : Prop :=
  ∀ m, b.mem.AgreeOff locals m →
    p.val { b with mem := m } = p.val b ∧
      (p.state b).mem.AgreeOff locals (p.state { b with mem := m }).mem

theorem Memory.AgreeOff.storeParams {L : Type} {objs : List Obj} {m m' : Memory Obj UInt8}
    (h : m.AgreeOff objs m') (params : List (Param L)) (xs : List (List UInt8)) :
    (storeParams m params xs).AgreeOff objs (storeParams m' params xs) :=
  fun q hq => load_storeParams_congr params xs (h q hq)

section Filled
variable {L : Type} [LengthCode L UInt8] {cmd : UInt8} {cap : L} {s old : List UInt8}

theorem length_filled {n : ℕ} (hcap : toNat cap = n) (hpos : 0 < n) (hold : old.length = n) :
    (filled cmd cap s old).length = n := by
  have hclip := toNat_clip_lt (firstLength L s) (hcap ▸ hpos)
  rw [filled]
  split
  · rw [List.length_append, length_firstParam, List.length_cons, List.length_drop]
    omega
  · exact hold

/-- The last byte of a variable is that of the parameter's zero, or what it was. -/
theorem getLast?_filled {n : ℕ} (hcap : toNat cap = n) (hpos : 0 < n) (hold : old.length = n)
    (hshort : ¬ (Brings cmd s ∧ n ≤ toNat (firstLength L s) + 1)) :
    (filled cmd cap s old).getLast? = old.getLast? := by
  have hne : old ≠ [] := List.ne_nil_of_length_pos (hold.symm ▸ hpos)
  by_cases h : Brings cmd s
  · have hclip := toNat_clip (firstLength L s) (hcap ▸ hpos)
    have hlen : ¬ old.length ≤ toNat (clip cap (firstLength L s)) + 1 := by
      intro hle
      exact hshort ⟨h, by omega⟩
    rw [filled_of_brings _ h, List.getLast?_append, List.getLast?_cons, List.getLast?_drop,
      if_neg hlen, List.getLast?_eq_some_getLast hne]
    rfl
  · rw [filled_of_not_brings _ h]

/-- **When a variable is overwritten completely**: the reply brings a parameter of all the
bytes for which there is room. -/
theorem filled_eq_iff {n : ℕ} (hcap : toNat cap = n) (hpos : 0 < n) (hold : old.length = n) :
    (∀ new : List UInt8, new.length = n → filled cmd cap s new = filled cmd cap s old) ↔
      Brings cmd s ∧ n ≤ toNat (firstLength L s) + 1 := by
  constructor
  · intro hall
    by_contra hshort
    have hne : old ≠ [] := List.ne_nil_of_length_pos (hold.symm ▸ hpos)
    -- a variable whose last byte was another one
    obtain ⟨new, hnew, hlast⟩ : ∃ new : List UInt8, new.length = n ∧
        new.getLast? = some (old.getLast hne + 1) :=
      ⟨List.replicate n (old.getLast hne + 1), List.length_replicate,
        by rw [List.getLast?_replicate, if_neg hpos.ne']⟩
    have hlasts := congrArg List.getLast? (hall new hnew)
    rw [getLast?_filled hcap hpos hold hshort, getLast?_filled hcap hpos hnew hshort, hlast,
      List.getLast?_eq_some_getLast hne, Option.some.injEq] at hlasts
    exact absurd hlasts (by simp)
  · rintro ⟨h, hlen⟩ new hnew
    have hclip := toNat_clip (firstLength L s) (hcap ▸ hpos)
    rw [filled_of_brings _ h, filled_of_brings _ h, List.drop_eq_nil_of_le (by omega),
      List.drop_eq_nil_of_le (by omega)]

end Filled

/-- Different bytes are different integers. -/
theorem ofLe_inj {xs ys : List UInt8} (h : xs.length = ys.length) :
    ofLe xs = ofLe ys ↔ xs = ys := by
  induction xs generalizing ys with
  | nil => simp [List.length_eq_zero_iff.mp h.symm]
  | cons x xs ih =>
      obtain ⟨y, ys, rfl⟩ := List.exists_cons_of_length_eq_add_one h.symm
      have hx := x.toNat_lt
      have hy := y.toNat_lt
      rw [List.cons.injEq, ← ih (Nat.succ.inj h), ← UInt8.toNat_inj, ofLe, ofLe]
      omega

/-- Also if they are read as a signed integer. -/
theorem bmod_ofLe_inj {xs ys : List UInt8} {n M : ℕ} (hM : 256 ^ n ≤ M) (hxs : xs.length = n)
    (hys : ys.length = n) : Int.bmod (ofLe xs) M = Int.bmod (ofLe ys) M ↔ xs = ys := by
  refine ⟨fun h => ?_, fun h => by rw [h]⟩
  have hx := (ofLe_lt xs).trans_le (hxs.symm ▸ hM)
  have hy := (ofLe_lt ys).trans_le (hys.symm ▸ hM)
  have hmod := congrArg (fun i : ℤ => i % M) h
  simp only [Int.bmod_emod] at hmod
  rw [Int.emod_eq_of_lt (by omega) (by omega), Int.emod_eq_of_lt (by omega) (by omega)] at hmod
  exact (ofLe_inj (hxs.trans hys.symm)).mp (Int.ofNat_inj.mp hmod)

section Variable
variable {L : Type} [LengthCode L UInt8] {cmd : UInt8} {cap : L} {s : List UInt8}
  {locals : List Obj} {p : Prog Bus ℤ} {var : Var} {size : ℕ} {f : List UInt8 → ℤ} {b : Bus}

/-- **A function that returns an uninitialised variable** is determined if the variable is
overwritten completely. -/
theorem determined_of_filled (hpos : 0 < size) (hcap : toNat cap = size)
    (hvar : Obj.auto var size ∈ locals)
    (hf : ∀ xs ys : List UInt8, xs.length = size → ys.length = size →
      (f xs = f ys ↔ xs = ys))
    (hval : ∀ m, p.val { b with mem := m } =
      f (filled cmd cap s (m.loadList ⟨.auto var size, 0⟩ size)))
    (hmem : ∀ m, b.mem.AgreeOff locals m →
      (p.state b).mem.AgreeOff locals (p.state { b with mem := m }).mem) :
    Determined locals p b ↔ Brings cmd s ∧ size ≤ toNat (firstLength L s) + 1 := by
  have hold := b.mem.length_loadList ⟨.auto var size, 0⟩ size
  have hb : p.val b = f (filled cmd cap s (b.mem.loadList ⟨.auto var size, 0⟩ size)) :=
    hval b.mem
  have hlength : ∀ xs : List UInt8, xs.length = size → (filled cmd cap s xs).length = size :=
    fun xs => length_filled hcap hpos
  rw [← filled_eq_iff hcap hpos hold]
  constructor
  · intro hall new hnew
    -- the memory in which the variable holds `new`
    have hagree := b.mem.agreeOff_storeList (p := ⟨.auto var size, 0⟩) new hvar
    have hload := b.mem.loadList_storeList_of_length ⟨.auto var size, 0⟩ hnew
    have hsame := (hall _ hagree).1
    rw [hval, hb, hload] at hsame
    exact (hf _ _ (hlength _ hnew) (hlength _ hold)).mp hsame
  · intro hall m hagree
    refine ⟨?_, hmem m hagree⟩
    rw [hval, hb, hall _ (m.length_loadList _ _)]

end Variable

/-! ## The four functions -/

namespace WiFiDrv

variable (b : Bus)

theorem val_getCurrentRSSI :
    getCurrentRSSI.val b = Int.bmod (ofLe (filled getCurrRssiCmd (4 : UInt8) (reply 20 b)
      (b.mem.loadList ⟨.auto .rssi 4, 0⟩ 4))) (2 ^ 32) := by
  unfold getCurrentRSSI
  rw [Prog.val_bind, Bus.val_auto, Bus.state_auto, Prog.val_bind, Prog.val_bind, Prog.val_pure,
    Bus.val_loadList, loadList_exchange_single _ _ _ _ _ _ _ rfl (by decide) (by decide),
    reply_mem, Memory.loadList_storeList_of_obj_ne _ _ (by simp)]

theorem mem_getCurrentRSSI :
    (getCurrentRSSI.state b).mem =
      storeParams (b.mem.storeList ⟨.auto .dummy 1, 0⟩ [dummyData])
        [(⟨4, ⟨.auto .rssi 4, 0⟩⟩ : TParam)]
        (answered getCurrRssiCmd 20 [(⟨4, ⟨.auto .rssi 4, 0⟩⟩ : TParam)] 1 b).payloads := by
  unfold getCurrentRSSI
  simp only [Prog.state_bind, Prog.state_pure, Bus.val_auto, Bus.state_auto,
    Bus.state_loadList, List.length_singleton]
  rw [mem_exchange _ _ _ _ _ _ _ rfl le_rfl, answered_mem]

theorem determined_getCurrentRSSI :
    Determined [.auto .rssi 4, .auto .paramsRead 1] getCurrentRSSI b ↔
      Brings getCurrRssiCmd (reply 20 b) ∧ 3 ≤ (firstLength UInt8 (reply 20 b)).toNat := by
  rw [← Nat.succ_le_succ_iff]
  refine determined_of_filled (s := reply 20 b) (f := fun bytes => Int.bmod (ofLe bytes) (2 ^ 32))
    (by decide) rfl (by simp) ?_ (fun m => val_getCurrentRSSI { b with mem := m }) ?_
  · intro xs ys hxs hys
    exact bmod_ofLe_inj (by simp) hxs hys
  · intro m hagree
    rw [mem_getCurrentRSSI, mem_getCurrentRSSI, answered_mem]
    exact (hagree.storeList _ _).storeParams _ _

variable (ipAddress : UInt32) (ttl : UInt8)

theorem val_ping :
    (ping ipAddress ttl).val b = if Unaccepted pingCmd 24 (2 : UInt8) b then wlPingError
      else Int.bmod (ofLe (filled pingCmd (2 : UInt8) (reply 24 b)
        (b.mem.loadList ⟨.auto .data 2, 0⟩ 2))) (2 ^ 16) := by
  unfold ping
  rw [Prog.val_bind, Bus.val_auto, Bus.state_auto, Prog.val_bind, Bus.val_auto, Bus.state_auto,
    Prog.val_bind, Prog.val_bind, Prog.val_pure, Bus.val_loadList,
    ret_exchange _ _ _ _ _ _ _ rfl le_rfl,
    loadList_exchange_single _ _ _ _ _ _ _ rfl (by decide) (by decide), answered_mem,
    answered_mem, reply_mem, reply_mem, Memory.loadList_storeList_of_obj_ne _ _ (by simp),
    Memory.loadList_storeList_of_obj_ne _ _ (by simp)]
  rfl

theorem mem_ping :
    ((ping ipAddress ttl).state b).mem =
      storeParams ((b.mem.storeList ⟨.auto .ipAddr 4, 0⟩ (le32 ipAddress)).storeList
          ⟨.auto .ttl 1, 0⟩ [ttl])
        [(⟨2, ⟨.auto .data 2, 0⟩⟩ : TParam)]
        (answered pingCmd 24 [(⟨2, ⟨.auto .data 2, 0⟩⟩ : TParam)] 1 b).payloads := by
  unfold ping
  simp only [Prog.state_bind, Prog.state_pure, Bus.val_auto, Bus.state_auto, Bus.state_loadList]
  rw [mem_exchange _ _ _ _ _ _ _ rfl le_rfl, answered_mem, answered_mem]
  rfl

theorem determined_ping :
    Determined [.auto .data 2, .auto .paramsRead 1] (ping ipAddress ttl) b ↔
      (¬ Unaccepted pingCmd 24 (2 : UInt8) b → 1 ≤ (firstLength UInt8 (reply 24 b)).toNat) := by
  have hmem : ∀ m, b.mem.AgreeOff [.auto .data 2, .auto .paramsRead 1] m →
      ((ping ipAddress ttl).state b).mem.AgreeOff [.auto .data 2, .auto .paramsRead 1]
        ((ping ipAddress ttl).state { b with mem := m }).mem := by
    intro m hagree
    rw [mem_ping, mem_ping, answered_mem]
    exact ((hagree.storeList _ _).storeList _ _).storeParams _ _
  by_cases hunaccepted : Unaccepted pingCmd 24 (2 : UInt8) b
  · have hval : ∀ m, (ping ipAddress ttl).val { b with mem := m } = wlPingError := by
      intro m
      exact (val_ping _ _ _).trans (if_pos hunaccepted)
    refine iff_of_true (fun m hagree => ⟨?_, hmem m hagree⟩) fun h => absurd hunaccepted h
    exact (hval m).trans (hval b.mem).symm
  · have hbrings : Brings pingCmd (reply 24 b) := by
      by_contra h
      exact hunaccepted (unaccepted_of_not_brings 2 h)
    have hval : ∀ m, (ping ipAddress ttl).val { b with mem := m } = Int.bmod
        (ofLe (filled pingCmd (2 : UInt8) (reply 24 b) (m.loadList ⟨.auto .data 2, 0⟩ 2)))
        (2 ^ 16) := by
      intro m
      exact (val_ping _ _ _).trans (if_neg hunaccepted)
    rw [determined_of_filled (f := fun bytes => Int.bmod (ofLe bytes) (2 ^ 16)) (by decide) rfl
      (by simp) (fun xs ys hxs hys => bmod_ofLe_inj (by simp) hxs hys) hval hmem,
      and_iff_right hbrings, forall_prop_of_true hunaccepted]
    exact Nat.succ_le_succ_iff

theorem mem_getScanNetworks_agreeOff {locals : List Obj} {m : Memory Obj UInt8}
    (hagree : b.mem.AgreeOff locals m) :
    (getScanNetworks.state b).mem.AgreeOff locals
      (getScanNetworks.state { b with mem := m }).mem := by
  simp only [← next_getScanNetworks, mem_getScanNetworks, reply_mem]
  exact (hagree.storeList _ _).storeParams _ _

theorem determined_getScanNetworks :
    Determined [.auto .paramsRead 1] getScanNetworks b ↔
      HasHeader scanNetworks (reply wifiSocketBufferSize b) := by
  have hval : ∀ m, getScanNetworks.val { b with mem := m } =
      ((scanned b).count.getD ((m.loadList ⟨.auto .paramsRead 1, 0⟩ 1).headD 0)).toNat :=
    fun m => val_getScanNetworks { b with mem := m }
  by_cases hheader : HasHeader scanNetworks (reply wifiSocketBufferSize b)
  · -- the count is stored
    obtain ⟨n, -, -, hcount, -⟩ := parseReply_of_hasHeader (UInt8.ofNat wlNetworksListMaxnum)
      (scanParams.map Param.len) hheader
    have hsame : ∀ m, getScanNetworks.val { b with mem := m } = n.toNat := by
      intro m
      rw [hval, scanned, hcount, Option.getD_some]
    refine iff_of_true (fun m hagree => ⟨?_, mem_getScanNetworks_agreeOff b hagree⟩) hheader
    exact (hsame m).trans (hsame b.mem).symm
  · -- the count is what it was
    obtain ⟨-, hcount, -⟩ := parseReply_of_not_hasHeader (UInt8.ofNat wlNetworksListMaxnum)
      (scanParams.map Param.len) hheader
    refine iff_of_false (fun hall => ?_) hheader
    have hagree : b.mem.AgreeOff [.auto .paramsRead 1] (b.mem.storeList ⟨.auto .paramsRead 1, 0⟩
        [(b.mem.loadList ⟨.auto .paramsRead 1, 0⟩ 1).headD 0 + 1]) :=
      b.mem.agreeOff_storeList _ (by simp)
    have hsame := (hval _).symm.trans ((hall _ hagree).1.trans (hval b.mem))
    rw [scanned, hcount, Option.getD_none, Option.getD_none, Int.ofNat_inj,
      UInt8.toNat_inj] at hsame
    have hstored : ∀ c, (b.mem.storeList ⟨.auto .paramsRead 1, 0⟩ [c]).loadList
        ⟨.auto .paramsRead 1, 0⟩ 1 = [c] := fun c => Memory.loadList_storeList _ _ [c]
    rw [hstored, List.headD_cons] at hsame
    exact absurd hsame (by simp)

theorem mem_getHostByName (aHostname aResult : Ptr Obj) :
    ((getHostByName aHostname aResult).state b).mem =
      storeParams (b.mem.storeList ⟨.auto .data 1, 0⟩ [0])
        [(⟨1, ⟨.auto .data 1, 0⟩⟩ : TParam)]
        (answered reqHostByNameCmd 20 [(⟨1, ⟨.auto .data 1, 0⟩⟩ : TParam)] 1 b).payloads := by
  rw [getHostByName, Prog.state_bind, val_reqHostByName, if_neg (by simp)]
  simp only [reqHostByName, Prog.state_bind, Prog.state_pure, Bus.val_auto, Bus.state_auto,
    Bus.state_strlen, Bus.state_loadList, List.length_singleton]
  rw [mem_exchange _ _ _ _ _ _ _ rfl le_rfl, answered_mem]

theorem determined_getHostByName (aHostname aResult : Ptr Obj) :
    Determined [.auto .ipAddr 4, .auto .paramsRead 1] (getHostByName aHostname aResult) b := by
  intro m hagree
  have hval : ∀ b : Bus, (getHostByName aHostname aResult).val b = 0 := by
    intro b
    rw [getHostByName, Prog.val_bind, val_reqHostByName, if_neg (by simp)]
    rfl
  refine ⟨(hval _).trans (hval b).symm, ?_⟩
  rw [mem_getHostByName, mem_getHostByName, answered_mem]
  exact (hagree.storeList _ _).storeParams _ _

/-! ## The address of a host

`WiFiDrv_getHostByName` never gets as far as to ask for the address.  If it did, this is what
would hold. -/

variable (aResult : Ptr Obj)

theorem getHostByNameResults_of_unaccepted (h : Unaccepted getHostByNameCmd 32 (4 : UInt8) b) :
    (getHostByNameResults aResult).val b = 0 ∧
      ((getHostByNameResults aResult).state b).mem =
        storeParams b.mem [(⟨4, ⟨.auto .ipAddr 4, 0⟩⟩ : TParam)]
          (answered getHostByNameCmd 32 [(⟨4, ⟨.auto .ipAddr 4, 0⟩⟩ : TParam)] 1 b).payloads := by
  have hret : ((exchange getHostByNameCmd 0 ([] : List TParam) 32
      [(⟨4, ⟨.auto .ipAddr 4, 0⟩⟩ : TParam)] 1).val b).ret = 0 :=
    (ret_exchange _ _ _ _ _ _ _ rfl le_rfl).trans h
  unfold getHostByNameResults
  simp only [Prog.val_bind, Prog.state_bind, hret, if_true, Prog.val_pure, Prog.state_pure,
    Bus.state_loadList, true_and]
  rw [mem_exchange _ _ _ _ _ _ _ rfl le_rfl]

theorem getHostByNameResults_of_accepted (h : ¬ Unaccepted getHostByNameCmd 32 (4 : UInt8) b) :
    let bytes := filled getHostByNameCmd (4 : UInt8) (reply 32 b)
      (b.mem.loadList ⟨.auto .ipAddr 4, 0⟩ 4)
    (getHostByNameResults aResult).val b = truth (bytes != le32 0xFFFFFFFF) ∧
      ((getHostByNameResults aResult).state b).mem =
        (storeParams b.mem [(⟨4, ⟨.auto .ipAddr 4, 0⟩⟩ : TParam)]
          (answered getHostByNameCmd 32 [(⟨4, ⟨.auto .ipAddr 4, 0⟩⟩ : TParam)] 1
            b).payloads).storeList aResult bytes := by
  have hret : ((exchange getHostByNameCmd 0 ([] : List TParam) 32
      [(⟨4, ⟨.auto .ipAddr 4, 0⟩⟩ : TParam)] 1).val b).ret ≠ 0 := by
    rw [ret_exchange _ _ _ _ _ _ _ rfl le_rfl]
    exact h
  have hbytes := loadList_exchange_single getHostByNameCmd 0 ([] : List TParam) 32 (4 : UInt8)
    ⟨.auto .ipAddr 4, 0⟩ b rfl (n := 4) (by decide) (by decide)
  unfold getHostByNameResults
  simp only [Prog.val_bind, Prog.state_bind, hret, if_false, Prog.val_pure, Prog.state_pure,
    Bus.val_loadList, Bus.state_loadList, Bus.state_storeList, hbytes, true_and]
  rw [mem_exchange _ _ _ _ _ _ _ rfl le_rfl]

/-- The address that would be stored for the caller is determined if all the bytes for which
there is room arrive. -/
theorem determined_getHostByNameResults
    (hout : aResult.obj ∉ [Obj.auto .ipAddr 4, .auto .paramsRead 1]) :
    Determined [.auto .ipAddr 4, .auto .paramsRead 1] (getHostByNameResults aResult) b ↔
      (¬ Unaccepted getHostByNameCmd 32 (4 : UInt8) b →
        3 ≤ (firstLength UInt8 (reply 32 b)).toNat) := by
  have hmem : ∀ m, (answered getHostByNameCmd 32 [(⟨4, ⟨.auto .ipAddr 4, 0⟩⟩ : TParam)] 1
      { b with mem := m }).payloads = (answered getHostByNameCmd 32
        [(⟨4, ⟨.auto .ipAddr 4, 0⟩⟩ : TParam)] 1 b).payloads := fun _ => rfl
  by_cases hunaccepted : Unaccepted getHostByNameCmd 32 (4 : UInt8) b
  · refine iff_of_true (fun m hagree => ?_) fun h => absurd hunaccepted h
    obtain ⟨hval, hstate⟩ := getHostByNameResults_of_unaccepted b aResult hunaccepted
    obtain ⟨hval', hstate'⟩ :=
      getHostByNameResults_of_unaccepted { b with mem := m } aResult hunaccepted
    rw [hval, hval', hstate, hstate', hmem]
    exact ⟨rfl, hagree.storeParams _ _⟩
  · have hbrings : Brings getHostByNameCmd (reply 32 b) := by
      by_contra h
      exact hunaccepted (unaccepted_of_not_brings 4 h)
    have hold := b.mem.length_loadList ⟨.auto .ipAddr 4, 0⟩ 4
    have hcap : toNat (4 : UInt8) = 4 := rfl
    have hiff : (∀ new : List UInt8, new.length = 4 → _) ↔
        Brings getHostByNameCmd (reply 32 b) ∧ _ :=
      filled_eq_iff hcap (by decide) hold
    rw [and_iff_right hbrings, Nat.succ_le_succ_iff] at hiff
    rw [forall_prop_of_true hunaccepted, ← toNat_uint8, ← hiff]
    obtain ⟨hval, hstate⟩ := getHostByNameResults_of_accepted b aResult hunaccepted
    have hother := fun m => getHostByNameResults_of_accepted { b with mem := m } aResult hunaccepted
    constructor
    · intro hall new hnew
      -- the caller's variable shows what the local one held
      have hagree : b.mem.AgreeOff [.auto .ipAddr 4, .auto .paramsRead 1]
          (b.mem.storeList ⟨.auto .ipAddr 4, 0⟩ new) :=
        b.mem.agreeOff_storeList _ (by simp)
      have hload := b.mem.loadList_storeList_of_length ⟨.auto .ipAddr 4, 0⟩ hnew
      have hsame := (hall _ hagree).2.loadList 4 hout
      rwa [hstate, (hother _).2, reply_mem, hload,
        Memory.loadList_storeList_of_length _ _ (length_filled hcap (by decide) hold),
        Memory.loadList_storeList_of_length _ _ (length_filled hcap (by decide) hnew)] at hsame
    · intro hall m hagree
      obtain ⟨hval', hstate'⟩ := hother m
      rw [reply_mem, hall _ (m.length_loadList _ _)] at hval' hstate'
      rw [hval, hval', hstate, hstate', hmem]
      exact ⟨rfl, (hagree.storeParams _ _).storeList _ _⟩

end WiFiDrv

open WiFiDrv

/-- **When results are determined.**  The signal strength, if a reply brings three bytes of
it; the number of networks, if a reply has the header; the answer of a ping, unless a reply is
accepted with an empty parameter; and the result of the name service always, since the request
for it counts as refused. -/
theorem results_determined (b : Bus) :
    (Determined [.auto .rssi 4, .auto .paramsRead 1] getCurrentRSSI b ↔
      Brings getCurrRssiCmd (reply 20 b) ∧ 3 ≤ (firstLength UInt8 (reply 20 b)).toNat) ∧
    (Determined [.auto .paramsRead 1] getScanNetworks b ↔
      HasHeader scanNetworks (reply wifiSocketBufferSize b)) ∧
    (∀ (ipAddress : UInt32) (ttl : UInt8),
      Determined [.auto .data 2, .auto .paramsRead 1] (ping ipAddress ttl) b ↔
        (¬ Unaccepted pingCmd 24 (2 : UInt8) b → 1 ≤ (firstLength UInt8 (reply 24 b)).toNat)) ∧
    ∀ aHostname aResult : Ptr Obj,
      Determined [.auto .ipAddr 4, .auto .paramsRead 1] (getHostByName aHostname aResult) b :=
  ⟨determined_getCurrentRSSI b, determined_getScanNetworks b, determined_ping b,
    determined_getHostByName b⟩

/-- A reply that brings the signal strength in one byte. -/
theorem not_determined_short :
    ¬ Determined [.auto .rssi 4, .auto .paramsRead 1] getCurrentRSSI
      (Bus.fresh fun _ => [startCmd, getCurrRssiCmd ||| replyFlag, 1, 1, 200, endCmd]) := by
  intro h
  have hlength := ((determined_getCurrentRSSI _).mp h).2
  revert hlength
  decide

end WiFiNINA
