import WiFiNINA.FixedWidth
import WiFiNINA.SpiDrv.Single

/-!
# Replies that are rejected too late

The decoders store the parameters of a reply before they look for its end byte.  Some
functions go by what was stored and not by the verdict, so a reply whose end byte is
missing can still decide what they return.
-/

namespace WiFiNINA

open LengthCode SpiDrv

/-- The decoder rejects the reply to an exchange from `b` that waits for one parameter. -/
def Unaccepted {L : Type} [LengthCode L UInt8] (cmd : UInt8) (maxSize : UInt16) (cap : L)
    (b : Bus) : Prop :=
  (parseReply cmd 1 [cap] (reply maxSize b)).ret = 0

instance {L : Type} [LengthCode L UInt8] (cmd : UInt8) (maxSize : UInt16) (cap : L) (b : Bus) :
    Decidable (Unaccepted cmd maxSize cap b) :=
  inferInstanceAs (Decidable (_ = _))

theorem unaccepted_of_not_brings {L : Type} [LengthCode L UInt8] {cmd : UInt8} {maxSize : UInt16}
    {b : Bus} (cap : L) (h : ¬ Brings cmd (reply maxSize b)) : Unaccepted cmd maxSize cap b :=
  (parseReply_single cmd cap (reply maxSize b)).2.trans (if_neg h)

theorem ofLe_eq_zero {cs : List UInt8} : ofLe cs = 0 ↔ ∀ c ∈ cs, c = 0 := by
  induction cs with
  | nil => simp [ofLe]
  | cons c cs ih =>
      rw [List.forall_mem_cons, ← ih, ofLe, ← UInt8.toNat_inj, UInt8.toNat_zero]
      omega

section Filled
variable {L : Type} [LengthCode L UInt8] {cmd : UInt8} {cap : L} {s : List UInt8}

/-- A variable that was zero stays zero unless another byte is stored. -/
theorem ofLe_filled_zero (n : ℕ) :
    ofLe (filled cmd cap s (List.replicate n 0)) = 0 ↔
      (Brings cmd s → ∀ c ∈ firstParam cap s, c = 0) := by
  have hzeros : ∀ k, ∀ c ∈ List.replicate k (0 : UInt8), c = 0 := by
    intro k c hc
    exact List.eq_of_mem_replicate hc
  rw [ofLe_eq_zero]
  by_cases h : Brings cmd s
  · rw [filled_of_brings _ h, List.drop_replicate, List.forall_mem_append, List.forall_mem_cons]
    constructor
    · intro hall _
      exact hall.1
    · intro hall
      exact ⟨hall h, rfl, hzeros _⟩
  · rw [filled_of_not_brings _ h]
    exact ⟨fun _ hb => absurd hb h, fun _ => hzeros n⟩

theorem ofLe_append_zeros (cs : List UInt8) (k : ℕ) :
    ofLe (cs ++ List.replicate k 0) = ofLe cs := by
  induction cs with
  | nil =>
      rw [List.nil_append]
      exact ofLe_eq_zero.mpr fun c hc => List.eq_of_mem_replicate hc
  | cons c cs ih => rw [List.cons_append, ofLe, ih, ofLe]

/-- The last byte of a variable that was zero is never received. -/
theorem ofLe_filled_lt (n : ℕ) (hcap : 0 < toNat cap) :
    ofLe (filled cmd cap s (List.replicate n 0)) < 256 ^ (toNat cap - 1) := by
  by_cases h : Brings cmd s
  · have hlen : (firstParam cap s).length ≤ toNat cap - 1 := by
      have hclip := toNat_clip_lt (firstLength L s) hcap
      rw [length_firstParam]
      omega
    rw [filled_of_brings _ h, List.drop_replicate, ← List.replicate_succ, ofLe_append_zeros]
    exact (ofLe_lt _).trans_le (Nat.pow_le_pow_right (by decide) hlen)
  · rw [(ofLe_filled_zero n).mpr fun hbrings => absurd hbrings h]
    exact Nat.pow_pos (by decide)

end Filled

namespace WiFiDrv

variable {cmd numParam : UInt8} {inParams : List TParam} {maxSize : UInt16} {capacity : UInt8}
  {var : Var} {init : List UInt8} {b : Bus}

/-- **A variable that is returned whatever the verdict** is what was stored in it. -/
theorem val_requestVar (hn : inParams.length = numParam.toNat) (hpos : 0 < capacity.toNat)
    (hcap : capacity.toNat ≤ init.length) :
    (requestVar cmd numParam inParams maxSize capacity var init).val b =
      filled cmd capacity (reply maxSize b) init := by
  simp only [requestVar, Prog.val_bind, Bus.val_auto, Bus.state_auto, Bus.val_loadList]
  rw [loadList_exchange_single _ _ _ _ _ _ _ hn hpos hcap, Memory.loadList_storeList]
  rfl

theorem val_getTime (b : Bus) :
    getTime.val b = ofLe (filled getTimeCmd (4 : UInt8) (reply 48 b) (le32 0)) := by
  simp only [getTime, Prog.val_bind, Prog.val_pure]
  rw [val_requestVar rfl (by decide) (by decide)]

/-- Without its last byte a `float` is too small to be an eighth. -/
theorem eighths_of_lt {bytes : List UInt8} (h : ofLe bytes < 2 ^ 24) : eighths bytes = 0 := by
  have hexponent : max (ofLe bytes / 2 ^ 23 % 2 ^ 8) 1 = 1 := by omega
  have hfraction := Nat.mod_lt (ofLe bytes) (show 0 < 2 ^ 23 by decide)
  have hproduct : (if ofLe bytes / 2 ^ 23 % 2 ^ 8 = 0 then ofLe bytes % 2 ^ 23
      else 2 ^ 23 + ofLe bytes % 2 ^ 23) * 2 ^ 1 / 2 ^ 147 = 0 := by
    refine Nat.div_eq_of_lt ?_
    split <;> omega
  simp only [eighths, hexponent, hproduct]
  split <;> rfl

/-- **The temperature is never received**: the byte with its sign and most of its exponent is cut
off. -/
theorem val_getTemperature (b : Bus) : getTemperature.val b = 0 := by
  simp only [getTemperature, Prog.val_bind, Prog.val_pure]
  rw [val_requestVar rfl (by decide) (by decide)]
  exact eighths_of_lt (ofLe_filled_lt 4 (by decide))

end WiFiDrv

namespace ServerDrv

variable (sock : UInt8) (data : Ptr Obj) (len : UInt16) (b : Bus)

theorem val_availData_filled :
    (availData sock).val b = ofLe (filled availDataTcpCmd (2 : UInt8) (reply 20 b) (le16 0)) := by
  simp only [availData, Prog.val_bind, Prog.val_pure, Bus.val_auto, Bus.state_auto,
    Bus.val_loadList, length_le16]
  rw [loadList_exchange_single _ _ _ _ _ _ _ rfl (by decide) (by decide),
    Memory.loadList_storeList_of_obj_ne _ _ (by simp), ← length_le16 0, Memory.loadList_storeList]
  rfl

/-- `ServerDrv_sendUdpData` reports nothing sent whatever the module answers. -/
theorem val_sendUdpData : (sendUdpData sock).val b = 0 := by
  simp only [sendUdpData, Prog.val_bind, Prog.val_pure, Bus.val_auto, Bus.state_auto,
    Bus.val_loadList, List.length_singleton]
  rw [loadList_exchange_byte rfl]
  · exact ite_self 0
  · rw [Memory.load_storeList_of_obj_ne _ (by simp)]
    simp

/-- `ServerDrv_insertDataBuf` goes by the byte that is stored. -/
theorem val_insertDataBuf :
    (insertDataBuf sock data len).val b =
      if Brings insertDatabufCmd (reply 20 b) ∧ firstParam (2 : UInt16) (reply 20 b) = [1] then 1
      else 0 := by
  have hzeros : (b.mem.storeList ⟨.auto .response 2, 0⟩ (le16 0)).loadList
      ⟨.auto .response 2, 0⟩ 2 = le16 0 := Memory.loadList_storeList _ _ _
  simp only [insertDataBuf, Prog.val_bind, Prog.val_pure, Bus.val_auto, Bus.state_auto,
    Bus.val_loadList, length_le16]
  rw [loadList_exchange_single _ _ _ _ _ _ _ rfl (by decide) (by decide),
    lenAt_exchange_single _ _ _ _ _ _ _ rfl, Memory.loadList_storeList_of_obj_ne _ _ (by simp),
    hzeros, reply_mem]
  have hlen := length_firstParam (2 : UInt16) (reply 20 b)
  by_cases h : Brings insertDatabufCmd (reply 20 b)
  · have hlt : toNat (clip (2 : UInt16) (firstLength UInt16 (reply 20 b))) < 2 :=
      toNat_clip_lt _ (by decide)
    rw [filled_of_brings _ h, if_pos h]
    -- the variable has room for one byte besides the zero
    cases hx : firstParam (2 : UInt16) (reply 20 b) with
    | nil =>
        rw [hx, List.length_nil] at hlen
        rw [if_pos hlen.symm, if_neg]
        simp
    | cons c cs =>
        rw [hx, List.length_cons] at hlen
        obtain rfl : cs = [] := List.length_eq_zero_iff.mp (by omega)
        rw [if_neg (by omega), ← hlen]
        by_cases hc : c = 1
        · rw [hc, if_pos ⟨h, rfl⟩]
          rfl
        · rw [if_neg (by simp [hc]), truth_eq_zero]
          simp [le16, hc]
  · have hneither : ¬ (Brings insertDatabufCmd (reply 20 b) ∧
        firstParam (2 : UInt16) (reply 20 b) = [1]) := fun hb => h hb.1
    have htwo : toNat (2 : UInt16) ≠ 0 := by decide
    rw [filled_of_not_brings _ h, if_neg h, if_neg hneither, if_neg htwo]
    decide

end ServerDrv

open ServerDrv WiFiDrv

/-- **When a rejected reply is reported as a failure.**  Two functions report nothing else;
the others go by the bytes of the first parameter for which there is room. -/
theorem rejected_replies (b : Bus) :
    (∀ (sock : UInt8) (data : Ptr Obj) (len : UInt16),
      Unaccepted sendDataTcpCmd 20 (1 : UInt8) b → (sendData sock data len).val b = 0) ∧
    (∀ sock : UInt8,
      Unaccepted sendDataUdpCmd 20 (1 : UInt8) b → (sendUdpData sock).val b = 0) ∧
    (∀ (sock : UInt8) (data : Ptr Obj) (len : UInt16),
      Unaccepted insertDatabufCmd 20 (2 : UInt16) b →
      ((insertDataBuf sock data len).val b = 0 ↔
        (Brings insertDatabufCmd (reply 20 b) → firstParam (2 : UInt16) (reply 20 b) ≠ [1]))) ∧
    (∀ sock : UInt8,
      Unaccepted availDataTcpCmd 20 (2 : UInt8) b →
      ((availData sock).val b = 0 ↔
        (Brings availDataTcpCmd (reply 20 b) →
          ∀ c ∈ firstParam (2 : UInt8) (reply 20 b), c = 0))) ∧
    (Unaccepted getTimeCmd 48 (4 : UInt8) b →
      (getTime.val b = 0 ↔
        (Brings getTimeCmd (reply 48 b) →
          ∀ c ∈ firstParam (4 : UInt8) (reply 48 b), c = 0))) := by
  refine ⟨?_, ?_, ?_, ?_, ?_⟩
  · intro sock data len _
    exact val_sendData sock data len b
  · intro sock _
    exact val_sendUdpData sock b
  · intro sock data len _
    rw [val_insertDataBuf]
    split
    · next h => exact iff_of_false one_ne_zero fun hne => hne h.1 h.2
    · next h => exact iff_of_true rfl fun hb hx => h ⟨hb, hx⟩
  · intro sock _
    rw [val_availData_filled, Int.natCast_eq_zero]
    exact ofLe_filled_zero 2
  · intro _
    rw [val_getTime]
    exact ofLe_filled_zero 4

/-- A module whose reply breaks off before its end byte. -/
def unended (L : Type) [LengthCode L UInt8] (cmd : UInt8) (x : List UInt8) : Bus :=
  Bus.fresh fun _ => (replyFrame L cmd [x]).dropLast

/-- Late rejections that all of them report: sending does so whatever the reply says, the
others because it is stored and says zero. -/
theorem rejected_replies_unended :
    (sendData 0 ⟨.user 0, 0⟩ 1).val (unended UInt8 sendDataTcpCmd [1]) = 0 ∧
      (sendUdpData 0).val (unended UInt8 sendDataUdpCmd [1]) = 0 ∧
      (insertDataBuf 0 ⟨.user 0, 0⟩ 1).val (unended UInt16 insertDatabufCmd [0]) = 0 ∧
      (availData 0).val (unended UInt8 availDataTcpCmd [0]) = 0 ∧
      getTime.val (unended UInt8 getTimeCmd [0, 0, 0]) = 0 := by
  refine ⟨?_, ?_, ?_, ?_, ?_⟩
  · exact (rejected_replies (unended UInt8 sendDataTcpCmd [1])).1 _ _ _ (by decide)
  · exact (rejected_replies (unended UInt8 sendDataUdpCmd [1])).2.1 _ (by decide)
  · exact ((rejected_replies (unended UInt16 insertDatabufCmd [0])).2.2.1 _ _ _
      (by decide)).mpr fun _ => by decide +kernel
  · exact ((rejected_replies (unended UInt8 availDataTcpCmd [0])).2.2.2.1 _
      (by decide)).mpr fun _ => by decide +kernel
  · exact ((rejected_replies (unended UInt8 getTimeCmd [0, 0, 0])).2.2.2.2
      (by decide)).mpr fun _ => by decide +kernel

/-- A reply that says that there are five bytes, without its end byte. -/
theorem availData_of_unaccepted :
    Unaccepted availDataTcpCmd 20 (2 : UInt8)
        (Bus.fresh fun _ => [startCmd, availDataTcpCmd ||| replyFlag, 1, 1, 5]) ∧
      (availData 0).val
        (Bus.fresh fun _ => [startCmd, availDataTcpCmd ||| replyFlag, 1, 1, 5]) ≠ 0 := by
  constructor
  · decide
  · rw [val_availData_filled]
    decide

end WiFiNINA
