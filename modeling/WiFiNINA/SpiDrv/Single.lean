import WiFiNINA.SpiDrv.Exchange

/-!
# Replies with one destination

Almost every function of the upper drivers waits for one parameter.  What it gets then
depends on four things that can be read off the received bytes: whether the reply has
the wanted header, whether its parameter count is zero, and the length and the bytes of
the first parameter.
-/

namespace WiFiNINA

open LengthCode

instance (cmd : UInt8) (s : List UInt8) : Decidable (HasHeader cmd s) :=
  inferInstanceAs (Decidable (_ ∧ _))

/-- The received bytes from the first length field on. -/
def firstField (s : List UInt8) : List UInt8 := s.drop ((seek startCmd timeoutChar s).2 + 2)

/-- A reply to `cmd` that brings parameters. -/
def Brings (cmd : UInt8) (s : List UInt8) : Prop :=
  HasHeader cmd s ∧ (s.drop ((seek startCmd timeoutChar s).2 + 1)).headD 0 ≠ 0

instance (cmd : UInt8) (s : List UInt8) : Decidable (Brings cmd s) :=
  inferInstanceAs (Decidable (_ ∧ _))

theorem seek_startCmd (s : List UInt8) : seek startCmd timeoutChar (startCmd :: s) = (1, 1) :=
  seek_append s (List.forall_mem_nil _) (Nat.zero_le _) (by decide)

/-- A reply that begins with its header. -/
theorem brings_cons {cmd count : UInt8} (body : List UInt8) (hcount : count ≠ 0) :
    Brings cmd (startCmd :: (cmd ||| replyFlag) :: count :: body) := by
  refine ⟨⟨?_, ?_⟩, ?_⟩ <;> rw [seek_startCmd]
  · exact one_ne_zero
  · rfl
  · exact hcount

theorem firstField_cons (cmd count : UInt8) (body : List UInt8) :
    firstField (startCmd :: cmd :: count :: body) = body := by
  rw [firstField, seek_startCmd]
  rfl

section Single
variable {L : Type} [LengthCode L UInt8]

/-- The length of the first parameter, as sent. -/
def firstLength (L : Type) [LengthCode L UInt8] (s : List UInt8) : L :=
  decode (padTake 0 (width L) (firstField s))

/-- The first parameter, in a destination of the given capacity. -/
def firstParam (cap : L) (s : List UInt8) : List UInt8 :=
  padTake 0 (toNat (clip cap (firstLength L s))) ((firstField s).drop (width L))

@[simp] theorem length_firstParam (cap : L) (s : List UInt8) :
    (firstParam cap s).length = toNat (clip cap (firstLength L s)) := by
  simp [firstParam]

/-- The first length of a reply that begins with its header. -/
theorem firstLength_cons (cmd count : UInt8) (len : L) (t : List UInt8) :
    firstLength L (startCmd :: cmd :: count :: (encode len ++ t)) = len := by
  rw [firstLength, firstField_cons, ← length_encode len, padTake_left, decode_encode]

theorem firstParam_cons (cap : L) (cmd count : UInt8) (len : L) (t : List UInt8) :
    firstParam cap (startCmd :: cmd :: count :: (encode len ++ t)) =
      padTake 0 (toNat (clip cap len)) t := by
  rw [firstParam, firstLength_cons, firstField_cons, ← length_encode len, List.drop_left]

/-- What a variable holds once the first parameter has been stored in it, with a zero behind
it: its bytes, if nothing is brought or the parameter is short. -/
def filled (cmd : UInt8) (cap : L) (s old : List UInt8) : List UInt8 :=
  if Brings cmd s then
    firstParam cap s ++ 0 :: old.drop (toNat (clip cap (firstLength L s)) + 1)
  else old

theorem filled_of_brings {cmd : UInt8} {cap : L} {s : List UInt8} (old : List UInt8)
    (h : Brings cmd s) : filled cmd cap s old =
      firstParam cap s ++ 0 :: old.drop (toNat (clip cap (firstLength L s)) + 1) := if_pos h

theorem filled_of_not_brings {cmd : UInt8} {cap : L} {s : List UInt8} (old : List UInt8)
    (h : ¬ Brings cmd s) : filled cmd cap s old = old := if_neg h

theorem limitCount_one (count : UInt8) :
    SpiDrv.limitCount count 1 = if count = 0 then 0 else 1 := by
  apply UInt8.toNat_inj.mp
  rw [SpiDrv.toNat_limitCount, show UInt8.toNat 1 = 1 from rfl]
  split
  · next h => simp [h]
  · next h =>
      have hne : count.toNat ≠ 0 := fun hzero => h (UInt8.toNat_inj.mp hzero)
      rw [show UInt8.toNat 1 = 1 from rfl]
      omega

/-- A reply that brings parameters: as many as are expected are stored, and the verdict is
about the byte behind them. -/
theorem parseReply_of_brings {cmd maxNumParams : UInt8} {s : List UInt8} (caps : List L)
    (h : Brings cmd s) (hmax : maxNumParams ≠ 0) :
    let numParam := SpiDrv.limitCount ((s.drop ((seek startCmd timeoutChar s).2 + 1)).headD 0)
      maxNumParams
    let r := takeFields 0 (caps.take numParam.toNat) (firstField s)
    (parseReply cmd maxNumParams caps s).payloads = r.1 ∧
      (parseReply cmd maxNumParams caps s).ret =
        SpiDrv.truth (((firstField s).drop r.2).headD 0 == endCmd) := by
  obtain ⟨⟨hstart, hcmd⟩, hcount⟩ := h
  have hnum : SpiDrv.limitCount ((s.drop ((seek startCmd timeoutChar s).2 + 1)).headD 0)
      maxNumParams ≠ 0 := by
    rw [SpiDrv.limitCount]
    split
    · exact hmax
    · exact hcount
  rw [parseReply]
  simp only [if_neg hstart, hcmd, ne_eq, not_true_eq_false, if_false, if_neg hnum, firstField,
    List.drop_drop, and_self]

theorem parseReply_of_not_brings {cmd : UInt8} {s : List UInt8} (maxNumParams : UInt8)
    (caps : List L) (h : ¬ Brings cmd s) :
    (parseReply cmd maxNumParams caps s).payloads = [] ∧
      (parseReply cmd maxNumParams caps s).ret = 0 := by
  by_cases hheader : HasHeader cmd s
  · have hcount : (s.drop ((seek startCmd timeoutChar s).2 + 1)).headD 0 = 0 := by
      by_contra hne
      exact h ⟨hheader, hne⟩
    have hnum : SpiDrv.limitCount 0 maxNumParams = 0 := by
      rw [SpiDrv.limitCount, if_neg (UInt8.not_lt.mpr (UInt8.le_iff_toNat_le.mpr (Nat.zero_le _)))]
    rw [parseReply]
    simp only [if_neg hheader.1, hheader.2, ne_eq, not_true_eq_false, if_false, hcount, hnum,
      if_true, and_self]
  · obtain ⟨hret, -, hpayloads, -⟩ := parseReply_of_not_hasHeader maxNumParams caps hheader
    exact ⟨hpayloads, hret⟩

variable (cmd : UInt8) (cap : L) (s : List UInt8)

theorem parseReply_single :
    (parseReply cmd 1 [cap] s).payloads = (if Brings cmd s then [firstParam cap s] else []) ∧
      (parseReply cmd 1 [cap] s).ret = if Brings cmd s then
        SpiDrv.truth (((firstField s).drop
          (width L + toNat (clip cap (firstLength L s)))).headD 0 == endCmd) else 0 := by
  by_cases h : Brings cmd s
  · obtain ⟨hpayloads, hret⟩ := parseReply_of_brings [cap] h (show (1 : UInt8) ≠ 0 by decide)
    have hone : UInt8.toNat 1 = 1 := rfl
    rw [limitCount_one, if_neg h.2, hone, List.take_succ_cons, List.take_zero, takeFields_cons,
      takeFields_nil] at hpayloads hret
    rw [if_pos h, if_pos h, hpayloads, hret, Nat.add_zero]
    exact ⟨rfl, rfl⟩
  · rw [if_neg h, if_neg h]
    exact parseReply_of_not_brings 1 [cap] h

theorem payloads_single :
    (parseReply cmd 1 [cap] s).payloads = if Brings cmd s then [firstParam cap s] else [] :=
  (parseReply_single cmd cap s).1

/-- A reply is accepted if the end byte stands where the clipped parameter ends. -/
theorem ret_single :
    (parseReply cmd 1 [cap] s).ret = 1 ↔ Brings cmd s ∧
      ((firstField s).drop (width L + toNat (clip cap (firstLength L s)))).headD 0 = endCmd := by
  rw [(parseReply_single cmd cap s).2]
  split
  · next h => rw [SpiDrv.truth_eq_one, beq_iff_eq, and_iff_right h]
  · next h => simp [h]

end Single

namespace SpiDrv

variable {L L' : Type} [LengthCode L UInt8] [LengthCode L' UInt8]

/-- The bytes received by exchange number `k` from `b` on. -/
def replyAt (maxSize : UInt16) (b : Bus) (k : ℕ) : List UInt8 :=
  (b.slave (2 * k + 1)).take (window maxSize)

/-- The bytes received by an exchange from `b`. -/
abbrev reply (maxSize : UInt16) (b : Bus) : List UInt8 := replyAt maxSize b 0

@[simp] theorem reply_mem (maxSize : UInt16) (b : Bus) (m : Memory Obj UInt8) :
    reply maxSize { b with mem := m } = reply maxSize b := rfl

section Exchange
variable (cmd numParam : UInt8) (inParams : List (Param L)) (maxSize : UInt16) (cap : L')
  (dest : Ptr Obj) (b : Bus)

theorem payloads_answered_single :
    (answered cmd maxSize [(⟨cap, dest⟩ : Param L')] 1 b).payloads =
      if Brings cmd (reply maxSize b) then [firstParam cap (reply maxSize b)] else [] :=
  payloads_single cmd cap _

theorem mem_exchange_single (hn : inParams.length = numParam.toNat) :
    ((exchange cmd numParam inParams maxSize [(⟨cap, dest⟩ : Param L')] 1).state b).mem =
      if Brings cmd (reply maxSize b) then
        b.mem.storeList dest (firstParam cap (reply maxSize b) ++ [0]) else b.mem := by
  rw [mem_exchange _ _ _ _ _ _ _ hn le_rfl, payloads_answered_single]
  split <;> rfl

/-- **What an exchange leaves in a variable** that has room for its parameter. -/
theorem loadList_exchange_single (hn : inParams.length = numParam.toNat) {n : ℕ}
    (hpos : 0 < toNat cap) (hcap : toNat cap ≤ n) :
    ((exchange cmd numParam inParams maxSize [(⟨cap, dest⟩ : Param L')] 1).state b).mem.loadList
      dest n = filled cmd cap (reply maxSize b) (b.mem.loadList dest n) := by
  have hlt := toNat_clip_lt (firstLength L' (reply maxSize b)) hpos
  rw [mem_exchange_single _ _ _ _ _ _ _ hn, filled]
  split
  · rw [Memory.loadList_storeList_of_le _ _ (by simp; omega), List.append_assoc,
      List.length_append, length_firstParam]
    rfl
  · rfl

theorem params_exchange_single (hn : inParams.length = numParam.toNat) :
    ((exchange cmd numParam inParams maxSize [(⟨cap, dest⟩ : Param L')] 1).val b).params =
      if Brings cmd (reply maxSize b) then
        [⟨clip cap (firstLength L' (reply maxSize b)), dest⟩] else [⟨cap, dest⟩] := by
  rw [params_exchange _ _ _ _ _ _ _ hn le_rfl, payloads_answered_single]
  split <;> simp

theorem lenAt_exchange_single (hn : inParams.length = numParam.toNat) :
    ((exchange cmd numParam inParams maxSize [(⟨cap, dest⟩ : Param L')] 1).val b).lenAt 0 =
      if Brings cmd (reply maxSize b) then toNat (clip cap (firstLength L' (reply maxSize b)))
      else toNat cap := by
  rw [Reply.lenAt, params_exchange_single _ _ _ _ _ _ _ hn]
  split <;> rfl

end Exchange

end SpiDrv
end WiFiNINA
