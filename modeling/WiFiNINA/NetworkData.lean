import WiFiNINA.FixedWidth
import WiFiNINA.SpiDrv.Single

/-!
# Address, mask and gateway

The three values are refreshed together, by one exchange whose destinations are the static
variables themselves.  The decoder stores into them before it has seen the end byte, at most
three bytes of each value, and the parameters that do not come are left as they were.
-/

namespace WiFiNINA

open LengthCode SpiDrv

/-- The address, the mask and the gateway that are kept. -/
def networkCache (m : Memory Obj UInt8) : List (List UInt8) :=
  [m.loadList Global.localIp.ptr 4, m.loadList Global.subnetMask.ptr 4,
    m.loadList Global.gatewayIp.ptr 4]

/-- A reply to the request for network data that has these three values of four bytes, and its
end byte. -/
structure CarriesNetwork (s : List UInt8) (values : List (List UInt8)) : Prop where
  header : HasHeader getIpaddrCmd s
  count : (s.drop ((seek startCmd timeoutChar s).2 + 1)).headD 0 = 3
  three : values.length = 3
  width : ∀ v ∈ values, v.length = 4
  body : ∃ rest, firstField s = fields UInt8 values ++ endCmd :: rest

/-- The call leaves the three values as they were and reports a failure, or replaces them by
those of the reply. -/
def Atomic (p : Prog Bus ℤ) (b : Bus) : Prop :=
  p.val b = 0 ∧ networkCache (p.state b).mem = networkCache b.mem ∨
    p.val b ≠ 0 ∧ CarriesNetwork (reply 24 b) (networkCache (p.state b).mem)

/-- The parameters as the decoder takes them from a reply, at most three bytes of each, and the
number of bytes behind which it expects the end byte. -/
def networkParams (s : List UInt8) : List (List UInt8) × ℕ :=
  takeFields 0 (([4, 4, 4] : List UInt8).take
    (limitCount ((s.drop ((seek startCmd timeoutChar s).2 + 1)).headD 0) 3).toNat) (firstField s)

/-- The decoder does not find the end byte, and every byte that it has stored by then stood
there before. -/
def Unchanging (b : Bus) : Prop :=
  ((firstField (reply 24 b)).drop (networkParams (reply 24 b)).2).headD 0 ≠ endCmd ∧
    List.Forall₂ (fun x old => x ++ [0] <+: old) (networkParams (reply 24 b)).1
      ((networkCache b.mem).take (networkParams (reply 24 b)).1.length)

/-- The values are such that the decoder reads the last byte of the address as an empty mask
and the mask as the gateway, and finds an end byte behind it. -/
def Coincident (b : Bus) : Prop :=
  ∃ i₀ i₁ i₂ m₁ m₂ : UInt8,
    CarriesNetwork (reply 24 b) [[i₀, i₁, i₂, 0], [0, m₁, m₂, endCmd], [0, m₁, m₂, 0]] ∧
      (b.mem.loadList Global.subnetMask.ptr 4).drop 1 = [m₁, m₂, endCmd]

/-- The reply brings nothing to store, or three values and a previous mask that make up for the
way in which they are read. -/
def Untorn (b : Bus) : Prop := ¬ Brings getIpaddrCmd (reply 24 b) ∨ Coincident b

/-- The first parameter of the reply, cut to three bytes and with a zero behind it, does not stand
in the address already. -/
def Disturbs (b : Bus) : Prop :=
  ¬ padTake 0 (min ((firstField (reply 24 b)).headD 0).toNat 3) (firstField (reply 24 b)).tail ++
    [0] <+: b.mem.loadList Global.localIp.ptr 4

theorem overlay_eq_self_iff {olds xs : List (List UInt8)} (h : xs.length ≤ olds.length) :
    overlay olds xs = olds ↔
      List.Forall₂ (fun x old => x ++ [0] <+: old) xs (olds.take xs.length) := by
  induction olds generalizing xs with
  | nil =>
      obtain rfl := List.length_eq_zero_iff.mp (Nat.le_zero.mp h)
      simp [overlay]
  | cons old olds ih =>
      cases xs with
      | nil => simp [overlay]
      | cons x xs =>
          have hfirst : x ++ 0 :: old.drop (x.length + 1) = old ↔ x ++ [0] <+: old := by
            constructor
            · intro heq
              exact ⟨old.drop (x.length + 1), by simpa using heq⟩
            · rintro ⟨rest, rfl⟩
              simp
          rw [overlay, List.cons.injEq, ih (Nat.le_of_succ_le_succ h), hfirst, List.length_cons,
            List.take_succ_cons, List.forall₂_cons]

section Refresh
variable {var : Global} {dest : Ptr Obj} {b : Bus}

/-- The three destinations. -/
def networkOuts : List TParam :=
  [⟨4, Global.localIp.ptr⟩, ⟨4, Global.subnetMask.ptr⟩, ⟨4, Global.gatewayIp.ptr⟩]

theorem separated_networkOuts : Separated networkOuts := separated_of_nodup (by decide)

theorem val_refreshNetworkData :
    (WiFiDrv.refreshNetworkData var dest).val b =
      (parseReply getIpaddrCmd 3 [(4 : UInt8), 4, 4] (reply 24 b)).ret := by
  simp only [WiFiDrv.refreshNetworkData, WiFiDrv.getNetworkData, Prog.val_bind, Prog.val_pure,
    Prog.state_bind, Prog.state_pure, Bus.val_auto, Bus.state_auto]
  rw [ret_exchange _ _ _ _ _ _ _ rfl le_rfl, answered_mem]
  rfl

/-- The variables of the library are no variables of the caller. -/
theorem networkCache_storeList (m : Memory Obj UInt8) {p : Ptr Obj} (bs : List UInt8)
    (hp : ∀ var : Global, p.obj ≠ .global var) :
    networkCache (m.storeList p bs) = networkCache m := by
  have hkeep : ∀ v : Global, (m.storeList p bs).loadList v.ptr 4 = m.loadList v.ptr 4 :=
    fun v => Memory.loadList_storeList_of_obj_ne m 4 (hp v).symm
  rw [networkCache, hkeep, hkeep, hkeep]
  rfl

/-- **What the variables hold afterwards.** -/
theorem cache_refreshNetworkData (hdest : ∀ var : Global, dest.obj ≠ .global var) :
    networkCache ((WiFiDrv.refreshNetworkData var dest).state b).mem =
      overlay (networkCache b.mem)
        (parseReply getIpaddrCmd 3 [(4 : UInt8), 4, 4] (reply 24 b)).payloads := by
  have hcaps : ∀ p ∈ networkOuts, 0 < toNat p.len := by simp [networkOuts]
  have hfit := parseReply_params_lt getIpaddrCmd 3 (reply 24 b) hcaps
  simp only [WiFiDrv.refreshNetworkData, WiFiDrv.getNetworkData, Prog.val_bind, Prog.val_pure,
    Prog.state_bind, Prog.state_pure, Bus.val_auto, Bus.state_auto, Bus.state_storeList,
    Bus.state_loadList]
  rw [networkCache_storeList _ _ hdest, mem_exchange _ _ _ _ _ _ _ rfl le_rfl, answered_mem]
  rw [← networkCache_storeList b.mem (p := ⟨.auto .dummy 1, 0⟩) [dummyData] (by simp)]
  exact map_loadList_storeParams _ separated_networkOuts hfit

end Refresh

section Cases
variable {s : List UInt8}

/-- Three bytes are taken of a value that is sent with four. -/
theorem takeFields_full_byte (c₀ c₁ c₂ : UInt8) (caps t : List UInt8) :
    takeFields 0 ((4 : UInt8) :: caps) (4 :: c₀ :: c₁ :: c₂ :: t) =
      ([c₀, c₁, c₂] :: (takeFields 0 caps t).1, 4 + (takeFields 0 caps t).2) := by
  have hclip : clip (4 : UInt8) 4 = 3 := by decide
  have hthree : UInt8.toNat 3 = 3 := rfl
  have hbytes : padTake 0 3 (c₀ :: c₁ :: c₂ :: t) = [c₀, c₁, c₂] := padTake_left 0 [c₀, c₁, c₂] t
  rw [takeFields_byte, hclip, hthree, hbytes]
  rfl

/-- Of the address three bytes are taken, and its last byte as the length of the mask. -/
theorem networkParams_of_carries {i₀ i₁ i₂ i₃ : UInt8} {mask gateway : List UInt8}
    (h : CarriesNetwork s [[i₀, i₁, i₂, i₃], mask, gateway]) :
    ∃ rest, firstField s = 4 :: i₀ :: i₁ :: i₂ :: i₃ ::
        (fields UInt8 [mask, gateway] ++ endCmd :: rest) ∧
      networkParams s = ([i₀, i₁, i₂] :: (takeFields 0 [(4 : UInt8), 4]
          (i₃ :: (fields UInt8 [mask, gateway] ++ endCmd :: rest))).1,
        4 + (takeFields 0 [(4 : UInt8), 4]
          (i₃ :: (fields UInt8 [mask, gateway] ++ endCmd :: rest))).2) := by
  obtain ⟨rest, hbody⟩ := h.body
  have hcount : (limitCount 3 3).toNat = 3 := by decide
  have hfirst : firstField s = 4 :: i₀ :: i₁ :: i₂ :: i₃ ::
      (fields UInt8 [mask, gateway] ++ endCmd :: rest) := by
    rw [hbody, fields_cons, field_uint8]
    rfl
  refine ⟨rest, hfirst, ?_⟩
  rw [networkParams, h.count, hcount, hfirst, List.take_of_length_le (le_refl 3),
    takeFields_full_byte]

/-- With an address that ends in zero the mask is taken for empty, and then its bytes for the
gateway. -/
theorem networkParams_of_last_zero {i₀ i₁ i₂ m₀ m₁ m₂ m₃ : UInt8} {gateway : List UInt8}
    (h : CarriesNetwork s [[i₀, i₁, i₂, 0], [m₀, m₁, m₂, m₃], gateway]) :
    (networkParams s).1 = [[i₀, i₁, i₂], [], [m₀, m₁, m₂]] ∧
      ((firstField s).drop (networkParams s).2).headD 0 = m₃ := by
  obtain ⟨rest, hfirst, hparams⟩ := networkParams_of_carries h
  have hzero : clip (4 : UInt8) 0 = 0 := by decide
  have hfields : fields UInt8 [[m₀, m₁, m₂, m₃], gateway] ++ endCmd :: rest =
      4 :: m₀ :: m₁ :: m₂ :: m₃ :: (fields UInt8 [gateway] ++ endCmd :: rest) := by
    rw [fields_cons, field_uint8]
    rfl
  rw [hfields, takeFields_byte, hzero, UInt8.toNat_zero, padTake_zero, List.drop_zero,
    takeFields_full_byte] at hparams
  rw [hparams, hfirst, hfields]
  exact ⟨rfl, rfl⟩

theorem exists_of_length_four {v : List UInt8} (h : v.length = 4) :
    ∃ c₀ c₁ c₂ c₃, v = [c₀, c₁, c₂, c₃] := by
  match v, h with
  | [c₀, c₁, c₂, c₃], _ => exact ⟨c₀, c₁, c₂, c₃, rfl⟩

/-- What was stored is what the reply brought only by coincidence. -/
theorem carries_overlay_iff {b : Bus}
    (hend : ((firstField (reply 24 b)).drop (networkParams (reply 24 b)).2).headD 0 = endCmd) :
    CarriesNetwork (reply 24 b) (overlay (networkCache b.mem) (networkParams (reply 24 b)).1) ↔
      Coincident b := by
  have hdrop : ∀ v : Global, (b.mem.loadList v.ptr 4).drop 4 = [] := fun v =>
    List.drop_eq_nil_of_le (b.mem.length_loadList v.ptr 4).le
  constructor
  · intro h
    obtain ⟨ip, mask, gateway, hvalues⟩ := List.length_eq_three.mp h.three
    have hcarries := h
    rw [hvalues] at hcarries
    obtain ⟨i₀, i₁, i₂, i₃, rfl⟩ := exists_of_length_four (hcarries.width ip (by simp))
    obtain ⟨m₀, m₁, m₂, m₃, rfl⟩ := exists_of_length_four (hcarries.width mask (by simp))
    -- the zero behind three bytes of the address is its last byte
    obtain ⟨rest, -, hparams⟩ := networkParams_of_carries hcarries
    have haddress := hvalues
    rw [hparams, networkCache, overlay, List.cons.injEq] at haddress
    obtain rfl : i₃ = 0 := by simpa [hdrop] using haddress.1.symm
    obtain ⟨hstored, hlast⟩ := networkParams_of_last_zero hcarries
    obtain rfl : m₃ = endCmd := hlast.symm.trans hend
    rw [hstored, networkCache] at hvalues
    simp only [overlay, List.cons.injEq, List.nil_append, List.length_nil, Nat.zero_add] at hvalues
    obtain ⟨-, ⟨rfl, hmask⟩, rfl, -⟩ := hvalues
    refine ⟨i₀, i₁, i₂, m₁, m₂, ?_, hmask⟩
    simpa [hdrop] using hcarries
  · rintro ⟨i₀, i₁, i₂, m₁, m₂, hcarries, hmask⟩
    rw [(networkParams_of_last_zero hcarries).1, networkCache]
    simpa [overlay, hdrop, hmask] using hcarries

theorem atomic_refreshNetworkData {var : Global} {dest : Ptr Obj} {b : Bus}
    (hdest : ∀ var : Global, dest.obj ≠ .global var) :
    Atomic (WiFiDrv.refreshNetworkData var dest) b ↔
      ¬ Brings getIpaddrCmd (reply 24 b) ∨ Unchanging b ∨ Coincident b := by
  rw [Atomic, val_refreshNetworkData, cache_refreshNetworkData hdest]
  by_cases h : Brings getIpaddrCmd (reply 24 b)
  · obtain ⟨hpayloads, hret⟩ := parseReply_of_brings [(4 : UInt8), 4, 4] h
      (show (3 : UInt8) ≠ 0 by decide)
    have hstored : (parseReply getIpaddrCmd 3 [(4 : UInt8), 4, 4] (reply 24 b)).payloads =
        (networkParams (reply 24 b)).1 := hpayloads
    have hverdict : (parseReply getIpaddrCmd 3 [(4 : UInt8), 4, 4] (reply 24 b)).ret = truth
        (((firstField (reply 24 b)).drop (networkParams (reply 24 b)).2).headD 0 == endCmd) :=
      hret
    rw [hstored, hverdict, or_iff_right (not_not.mpr h)]
    by_cases hend :
        ((firstField (reply 24 b)).drop (networkParams (reply 24 b)).2).headD 0 = endCmd
    · have hunchanging : ¬ Unchanging b := fun hun => hun.1 hend
      rw [truth_eq_one.mpr (beq_iff_eq.mpr hend),
        or_iff_right fun hold => absurd hold.1 (by decide), and_iff_right (by decide),
        or_iff_right hunchanging, carries_overlay_iff hend]
    · have hthree : (networkParams (reply 24 b)).1.length ≤ (networkCache b.mem).length := by
        rw [networkParams, length_takeFields]
        exact List.length_take_le' _ _
      have hcoincident : ¬ Coincident b := by
        rintro ⟨i₀, i₁, i₂, m₁, m₂, hcarries, -⟩
        exact hend (networkParams_of_last_zero hcarries).2
      rw [truth_eq_zero.mpr (beq_eq_false_iff_ne.mpr hend), or_iff_left fun hnew => hnew.1 rfl,
        and_iff_right rfl, or_iff_left hcoincident, overlay_eq_self_iff hthree, Unchanging,
        and_iff_right hend]
  · obtain ⟨hpayloads, hret⟩ := parseReply_of_not_brings 3 [(4 : UInt8), 4, 4] h
    rw [hpayloads, hret]
    exact iff_of_true (.inl ⟨rfl, rfl⟩) (.inl h)

/-- The first parameter goes to the address. -/
theorem Unchanging.address {b : Bus} (h : Unchanging b)
    (hbrings : Brings getIpaddrCmd (reply 24 b)) : ¬ Disturbs b := by
  obtain ⟨count, hcount⟩ : ∃ count, count = (limitCount (((reply 24 b).drop
      ((seek startCmd timeoutChar (reply 24 b)).2 + 1)).headD 0) 3).toNat := ⟨_, rfl⟩
  have hpos : 0 < count := by
    have hne := mt UInt8.toNat_inj.mp hbrings.2
    rw [UInt8.toNat_zero] at hne
    rw [hcount, toNat_limitCount]
    exact lt_min (Nat.pos_of_ne_zero hne) (by decide)
  obtain ⟨n, hn⟩ := Nat.exists_eq_add_one_of_ne_zero hpos.ne'
  have hstored := h.2
  rw [networkParams, ← hcount, hn, List.take_succ_cons, takeFields_cons, List.length_cons,
    networkCache, List.take_succ_cons] at hstored
  have hfirst := (List.forall₂_cons.mp hstored).1
  have hlength : toNat (readLength 0 (4 : UInt8) (firstField (reply 24 b))) =
      min ((firstField (reply 24 b)).headD 0).toNat 3 := by
    rw [readLength, toNat_clip _ (by decide)]
    have hone : width UInt8 = 0 + 1 := rfl
    rw [hone, padTake_succ, padTake_zero]
    rfl
  have htail : (firstField (reply 24 b)).drop (width UInt8) = (firstField (reply 24 b)).tail :=
    List.drop_one
  rw [hlength, htail] at hfirst
  exact not_not.mpr hfirst

end Cases

/-- **When an update is atomic**: if the reply brings nothing, or by coincidence; and where
storing the first parameter changes the address, in no other case. -/
theorem network_data_atomic {dest : Ptr Obj} (hdest : ∀ var : Global, dest.obj ≠ .global var)
    (b : Bus) :
    ∀ p ∈ [WiFiDrv.getIpAddress dest, WiFiDrv.getSubnetMask dest, WiFiDrv.getGatewayIP dest],
      (Untorn b → Atomic p b) ∧ (Disturbs b → Atomic p b → Untorn b) := by
  have hvar : ∀ var : Global, (Untorn b → Atomic (WiFiDrv.refreshNetworkData var dest) b) ∧
      (Disturbs b → Atomic (WiFiDrv.refreshNetworkData var dest) b → Untorn b) := by
    intro var
    rw [atomic_refreshNetworkData hdest]
    refine ⟨fun h => h.imp_right .inr, fun hdisturbs h => ?_⟩
    by_cases hbrings : Brings getIpaddrCmd (reply 24 b)
    · rcases h with hnone | hun | hcoincident
      · exact absurd hbrings hnone
      · exact absurd hdisturbs (hun.address hbrings)
      · exact .inr hcoincident
    · exact .inl hbrings
  intro p hp
  simp only [List.mem_cons, List.not_mem_nil, or_false] at hp
  rcases hp with rfl | rfl | rfl
  · exact hvar .localIp
  · exact hvar .subnetMask
  · exact hvar .gatewayIp

/-- A reply whose address ends in zero, and a previous mask that ends as the new one does. -/
def coincidence : Bus :=
  { Bus.fresh fun _ =>
      replyFrame UInt8 getIpaddrCmd [[10, 0, 0, 0], [0, 1, 2, endCmd], [0, 1, 2, 0]] with
    mem := (Bus.fresh fun _ => []).mem.storeList Global.subnetMask.ptr [255, 1, 2, endCmd] }

/-- An update from that reply, and one from a reply to another request. -/
theorem network_data_atomic_coincidence :
    Atomic (WiFiDrv.getIpAddress ⟨.user 0, 0⟩) coincidence ∧
      Atomic (WiFiDrv.getGatewayIP ⟨.user 0, 0⟩) (Bus.fresh fun _ => [startCmd, 0]) := by
  have hdest : ∀ var : Global, (⟨.user 0, 0⟩ : Ptr Obj).obj ≠ .global var :=
    fun _ => Obj.noConfusion
  constructor
  · refine (network_data_atomic hdest coincidence _ (.head _)).1 (.inr ⟨10, 0, 0, 1, 2, ?_, ?_⟩)
    · exact ⟨by decide, by decide, rfl, by decide, [], by decide⟩
    · decide
  · exact (network_data_atomic hdest _ _ (.tail _ (.tail _ (.head _)))).1 (.inl (by decide))

/-- A well-formed reply to the first request: three bytes of the address are stored, and a
failure is reported. -/
theorem not_atomic_reply :
    ¬ Atomic (WiFiDrv.getIpAddress ⟨.user 0, 0⟩) (Bus.fresh fun _ =>
      replyFrame UInt8 getIpaddrCmd [[192, 168, 1, 7], [255, 255, 255, 0], [192, 168, 1, 1]]) := by
  rintro (⟨-, hcache⟩ | ⟨hval, -⟩)
  · rw [WiFiDrv.getIpAddress, cache_refreshNetworkData (by simp)] at hcache
    revert hcache
    decide
  · rw [WiFiDrv.getIpAddress, val_refreshNetworkData] at hval
    revert hval
    decide

end WiFiNINA
