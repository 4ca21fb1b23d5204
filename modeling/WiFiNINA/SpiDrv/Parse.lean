import WiFiNINA.SpiDrv.Encode

/-!
# Parsing a reply

`parseReply` is the decoding as a function of the received bytes: the return value,
the parameter count once it has been read, the bytes of every processed parameter,
and how many bytes were asked for.  An accepted parse asked for no byte the stream
did not have, and so it neither depends on what follows nor survives truncation.
-/

namespace WiFiNINA

open LengthCode

/-- The search of `SpiDrv_waitSpiChar` over a stream: its result, and the bytes it
asks for. -/
def seek (waitChar : UInt8) : ℕ → List UInt8 → ℤ × ℕ
  | 0, s =>
      if s.headD 0 = errCmd then (-1, 1) else (SpiDrv.truth (s.headD 0 == waitChar), 1)
  | timeout + 1, s =>
      if s.headD 0 = errCmd then (-1, 1)
      else if s.headD 0 = waitChar then (1, 1)
      else ((seek waitChar timeout s.tail).1, (seek waitChar timeout s.tail).2 + 1)

/-- The search steps over bytes that are neither wanted nor an error. -/
theorem seek_junk {waitChar : UInt8} {junk : List UInt8} {timeout : ℕ} (s : List UInt8)
    (hjunk : ∀ c ∈ junk, c ≠ waitChar ∧ c ≠ errCmd) (htimeout : junk.length ≤ timeout) :
    seek waitChar timeout (junk ++ s) =
      ((seek waitChar (timeout - junk.length) s).1,
        (seek waitChar (timeout - junk.length) s).2 + junk.length) := by
  induction junk generalizing timeout with
  | nil => rfl
  | cons c junk ih =>
      obtain ⟨t, rfl⟩ : ∃ t, timeout = t + 1 := ⟨timeout - 1, by simp at htimeout; omega⟩
      obtain ⟨hc, herr⟩ := hjunk c (by simp)
      have h := @ih t (fun d hd => hjunk d (by simp [hd])) (by simpa using htimeout)
      simp [seek, hc, herr, h, Nat.add_assoc]

/-- It ends at the wanted byte. -/
theorem seek_append {waitChar : UInt8} {junk : List UInt8} {timeout : ℕ} (s : List UInt8)
    (hjunk : ∀ c ∈ junk, c ≠ waitChar ∧ c ≠ errCmd) (htimeout : junk.length ≤ timeout)
    (hwait : waitChar ≠ errCmd) :
    seek waitChar timeout (junk ++ waitChar :: s) = (1, junk.length + 1) := by
  have hfound : ∀ t, seek waitChar t (waitChar :: s) = (1, 1) := by
    intro t
    cases t <;> simp [seek, hwait, SpiDrv.truth]
  rw [seek_junk _ hjunk htimeout, hfound, Nat.add_comm]

/-- A search that asked for no more than the stream had does not see what follows. -/
theorem seek_append_of_le {waitChar : UInt8} {timeout : ℕ} {s : List UInt8} (t : List UInt8)
    (h : (seek waitChar timeout s).2 ≤ s.length) :
    seek waitChar timeout (s ++ t) = seek waitChar timeout s := by
  induction timeout generalizing s with
  | zero =>
      cases s with
      | nil => unfold seek at h; split at h <;> simp at h
      | cons c s => rfl
  | succ timeout ih =>
      cases s with
      | nil =>
          unfold seek at h
          split at h
          · simp at h
          · split at h <;> simp at h
      | cons c s =>
          by_cases herr : c = errCmd
          · simp [seek, herr]
          by_cases hc : c = waitChar
          · simp [seek, hc]
          simp only [seek, List.headD_cons, herr, hc, if_false, List.tail_cons,
            List.length_cons, List.cons_append] at h ⊢
          rw [ih (by omega)]

/-- The search asks for at least one byte and for at most one more than its timeout. -/
theorem seek_reads (waitChar : UInt8) (timeout : ℕ) (s : List UInt8) :
    1 ≤ (seek waitChar timeout s).2 ∧ (seek waitChar timeout s).2 ≤ timeout + 1 := by
  induction timeout generalizing s with
  | zero => unfold seek; split <;> simp
  | succ timeout ih =>
      have h := ih s.tail
      unfold seek
      split
      · simp
      · split
        · simp
        · simp only
          omega

/-- The outcome of decoding a received stream. -/
structure Parsed where
  ret : ℤ
  /-- The parameter count, once it has been read and clipped. -/
  count : Option UInt8
  /-- The bytes of the parameters processed. -/
  payloads : List (List UInt8)
  /-- The bytes asked for. -/
  reads : ℕ

/-- The decoding of a received stream, for parameters of the given capacities. -/
def parseReply {L : Type} [LengthCode L UInt8] (cmd maxNumParams : UInt8) (caps : List L)
    (s : List UInt8) : Parsed :=
  let k := seek startCmd timeoutChar s
  if k.1 = 0 then ⟨0, none, [], k.2⟩
  else if (s.drop k.2).headD 0 ≠ (cmd ||| replyFlag) then ⟨0, none, [], k.2 + 1⟩
  else
    let numParam := SpiDrv.limitCount ((s.drop (k.2 + 1)).headD 0) maxNumParams
    if numParam = 0 then ⟨0, some numParam, [], k.2 + 2⟩
    else
      let r := takeFields 0 (caps.take numParam.toNat) (s.drop (k.2 + 2))
      ⟨SpiDrv.truth ((s.drop (k.2 + 2 + r.2)).headD 0 == endCmd), some numParam, r.1,
        k.2 + 2 + r.2 + 1⟩

/-- The reply frame of a command with the given parameter bytes. -/
def replyFrame (L : Type) [LengthCode L UInt8] (cmd : UInt8) (xs : List (List UInt8)) :
    List UInt8 :=
  [startCmd, cmd ||| replyFlag, UInt8.ofNat xs.length] ++ fields L xs ++ [endCmd]

@[simp] theorem length_replyFrame (L : Type) [LengthCode L UInt8] (cmd : UInt8)
    (xs : List (List UInt8)) : (replyFrame L cmd xs).length = 4 + fieldsSize L xs := by
  simp [replyFrame]
  omega

theorem SpiDrv.truth_eq_zero {c : Bool} : truth c = 0 ↔ c = false := by
  cases c <;> simp [truth]

theorem SpiDrv.truth_eq_one {c : Bool} : truth c = 1 ↔ c = true := by
  cases c <;> simp [truth]

theorem SpiDrv.toNat_limitCount (numParam maxNumParams : UInt8) :
    (limitCount numParam maxNumParams).toNat = min numParam.toNat maxNumParams.toNat := by
  rw [limitCount]
  split
  · next h =>
      have := UInt8.lt_iff_toNat_lt.mp h
      omega
  · next h =>
      have := mt UInt8.lt_iff_toNat_lt.mpr h
      omega

theorem SpiDrv.limitCount_ofNat {n : ℕ} {maxNumParams : UInt8} (h : n ≤ maxNumParams.toNat) :
    limitCount (UInt8.ofNat n) maxNumParams = UInt8.ofNat n := by
  apply UInt8.toNat_inj.mp
  rw [toNat_limitCount, UInt8.toNat_ofNat_of_lt' (h.trans_lt maxNumParams.toNat_lt)]
  omega

theorem lt_length_of_headD_drop {s : List UInt8} {i : ℕ} (h : (s.drop i).headD 0 ≠ 0) :
    i < s.length := by
  by_contra hi
  rw [List.drop_eq_nil_of_le (by omega)] at h
  exact h rfl

theorem headD_drop_append {s : List UInt8} {i : ℕ} (t : List UInt8) (h : i < s.length) :
    ((s ++ t).drop i).headD 0 = (s.drop i).headD 0 := by
  rw [List.drop_append_of_le_length (by omega), List.drop_eq_getElem_cons h]
  rfl

section Parse
variable {L : Type} [LengthCode L UInt8] {cmd maxNumParams : UInt8} {caps : List L}

/-- Parsing behind a complete header: the count byte, then `body`. -/
theorem parseReply_header {junk : List UInt8} (count : UInt8) (body : List UInt8)
    (hjunk : ∀ c ∈ junk, c ≠ startCmd ∧ c ≠ errCmd) (hlen : junk.length ≤ timeoutChar) :
    parseReply cmd maxNumParams caps
        (junk ++ startCmd :: (cmd ||| replyFlag) :: count :: body) =
      let numParam := SpiDrv.limitCount count maxNumParams
      if numParam = 0 then ⟨0, some numParam, [], junk.length + 3⟩
      else
        let r := takeFields 0 (caps.take numParam.toNat) body
        ⟨SpiDrv.truth ((body.drop r.2).headD 0 == endCmd), some numParam, r.1,
          junk.length + 3 + r.2 + 1⟩ := by
  set s := junk ++ startCmd :: (cmd ||| replyFlag) :: count :: body with hs
  have hdrop : ∀ k, s.drop (junk.length + k) =
      (startCmd :: (cmd ||| replyFlag) :: count :: body).drop k := by
    intro k
    rw [hs, List.drop_append, List.drop_eq_nil_of_le (by omega)]
    simp
  have hcmd : s.drop (junk.length + 1) = (cmd ||| replyFlag) :: count :: body := hdrop 1
  have hcount : s.drop (junk.length + 1 + 1) = count :: body := hdrop 2
  have hbody : s.drop (junk.length + 1 + 2) = body := hdrop 3
  have hrest : ∀ k, s.drop (junk.length + 1 + 2 + k) = body.drop k := by
    intro k
    rw [← List.drop_drop, hbody]
  simp only [parseReply, hs ▸ seek_append _ hjunk hlen (by decide), hcmd, hcount, hbody, hrest,
    List.headD_cons]
  simp [Nat.add_assoc]

/-- Parsing a reply frame that does not have more parameters than wanted. -/
theorem parseReply_replyFrame {xs : List (List UInt8)} (rest : List UInt8)
    (hpos : 1 ≤ xs.length) (hcount : xs.length ≤ maxNumParams.toNat) :
    parseReply cmd maxNumParams caps (replyFrame L cmd xs ++ rest) =
      let body := fields L xs ++ endCmd :: rest
      let r := takeFields 0 (caps.take xs.length) body
      ⟨SpiDrv.truth ((body.drop r.2).headD 0 == endCmd), some (UInt8.ofNat xs.length), r.1,
        3 + r.2 + 1⟩ := by
  have hbyte : (UInt8.ofNat xs.length).toNat = xs.length :=
    UInt8.toNat_ofNat_of_lt' (hcount.trans_lt maxNumParams.toNat_lt)
  have hzero : UInt8.ofNat xs.length ≠ 0 := by
    rw [ne_eq, ← UInt8.toNat_inj, hbyte, UInt8.toNat_zero]
    omega
  have hbody : replyFrame L cmd xs ++ rest = [] ++ startCmd :: (cmd ||| replyFlag) ::
      UInt8.ofNat xs.length :: (fields L xs ++ endCmd :: rest) := by
    simp [replyFrame]
  rw [hbody, parseReply_header _ _ (by simp) (by simp), SpiDrv.limitCount_ofNat hcount]
  simp only [hzero, if_false, hbyte, List.length_nil, Nat.zero_add]

/-- Whether a stream has the wanted header: a start byte that the search finds, and the
reply's command behind it. -/
def HasHeader (cmd : UInt8) (s : List UInt8) : Prop :=
  (seek startCmd timeoutChar s).1 ≠ 0 ∧
    (s.drop (seek startCmd timeoutChar s).2).headD 0 = (cmd ||| replyFlag)

/-- Without the wanted header nothing is parsed. -/
theorem parseReply_of_not_hasHeader (maxNumParams : UInt8) (caps : List L) {s : List UInt8}
    (h : ¬ HasHeader cmd s) :
    (parseReply cmd maxNumParams caps s).ret = 0 ∧
      (parseReply cmd maxNumParams caps s).count = none ∧
      (parseReply cmd maxNumParams caps s).payloads = [] ∧
      (parseReply cmd maxNumParams caps s).reads ≤ timeoutChar + 2 := by
  have hreads := (seek_reads startCmd timeoutChar s).2
  rw [parseReply]
  dsimp only
  split
  · exact ⟨rfl, rfl, rfl, by simp only; omega⟩
  next hfound =>
  split
  · exact ⟨rfl, rfl, rfl, by simp only; omega⟩
  next hsame =>
  exact absurd ⟨hfound, by simpa using hsame⟩ h

/-- Behind the wanted header as many parameters are parsed as the limited count says. -/
theorem parseReply_of_hasHeader (maxNumParams : UInt8) (caps : List L) {s : List UInt8}
    (h : HasHeader cmd s) :
    ∃ numParam rest,
      numParam = SpiDrv.limitCount
        ((s.drop ((seek startCmd timeoutChar s).2 + 1)).headD 0) maxNumParams ∧
      (parseReply cmd maxNumParams caps s).count = some numParam ∧
      (parseReply cmd maxNumParams caps s).payloads =
        (takeFields 0 (caps.take numParam.toNat) rest).1 ∧
      (parseReply cmd maxNumParams caps s).reads ≤
        timeoutChar + 4 + (takeFields 0 (caps.take numParam.toNat) rest).2 := by
  have hreads := (seek_reads startCmd timeoutChar s).2
  rw [parseReply]
  simp only [if_neg h.1, ne_eq, h.2, not_true_eq_false, if_false]
  refine ⟨_, s.drop ((seek startCmd timeoutChar s).2 + 2), rfl, ?_⟩
  split
  · next hzero =>
      rw [hzero]
      exact ⟨rfl, rfl, by simp only; omega⟩
  · exact ⟨rfl, rfl, by simp only; omega⟩

/-- Every parameter parsed is shorter than its capacity. -/
theorem parseReply_lt (cmd maxNumParams : UInt8) {caps : List L} (s : List UInt8)
    (hcaps : ∀ cap ∈ caps, 0 < toNat cap) :
    List.Forall₂ (fun x cap => x.length < toNat cap)
      (parseReply cmd maxNumParams caps s).payloads
      (caps.take (parseReply cmd maxNumParams caps s).payloads.length) := by
  by_cases h : HasHeader cmd s
  · obtain ⟨numParam, rest, -, -, hpayloads, -⟩ := parseReply_of_hasHeader maxNumParams caps h
    rw [hpayloads, length_takeFields, List.length_take, List.take_eq_take_min.symm]
    exact takeFields_lt 0 (fun cap hcap => hcaps cap (List.mem_of_mem_take hcap)) rest
  · rw [(parseReply_of_not_hasHeader maxNumParams caps h).2.2.1]
    exact .nil

/-- No parameter parsed is stored beyond the reach of its capacity. -/
theorem parseReply_lt_reach (cmd maxNumParams : UInt8) (caps : List L) (s : List UInt8) :
    List.Forall₂ (fun x cap => x.length < reach cap)
      (parseReply cmd maxNumParams caps s).payloads
      (caps.take (parseReply cmd maxNumParams caps s).payloads.length) := by
  by_cases h : HasHeader cmd s
  · obtain ⟨numParam, rest, -, -, hpayloads, -⟩ := parseReply_of_hasHeader maxNumParams caps h
    rw [hpayloads, length_takeFields, List.length_take, List.take_eq_take_min.symm]
    exact takeFields_lt_reach 0 (caps.take numParam.toNat) rest
  · rw [(parseReply_of_not_hasHeader maxNumParams caps h).2.2.1]
    exact .nil

/-- For one destination there is at most one parameter. -/
theorem parseReply_singleton (cmd maxNumParams : UInt8) {cap : L} (s : List UInt8)
    (hcap : 0 < toNat cap) :
    (parseReply cmd maxNumParams [cap] s).payloads = [] ∨
      ∃ x, x.length < toNat cap ∧ (parseReply cmd maxNumParams [cap] s).payloads = [x] := by
  have h : List.Forall₂ (fun x c => x.length < toNat c)
      (parseReply cmd maxNumParams [cap] s).payloads
      ([cap].take (parseReply cmd maxNumParams [cap] s).payloads.length) :=
    parseReply_lt cmd maxNumParams s (by simpa using hcap)
  generalize (parseReply cmd maxNumParams [cap] s).payloads = xs at h ⊢
  cases xs with
  | nil => exact .inl rfl
  | cons x xs =>
      rw [List.length_cons, List.take_succ_cons, List.take_nil, List.forall₂_cons] at h
      obtain ⟨hx, hxs⟩ := h
      rw [List.forall₂_nil_right_iff] at hxs
      exact .inr ⟨x, hx, by rw [hxs]⟩

/-- A parse returns zero or one. -/
theorem parseReply_ret (cmd maxNumParams : UInt8) (caps : List L) (s : List UInt8) :
    (parseReply cmd maxNumParams caps s).ret = 0 ∨
      (parseReply cmd maxNumParams caps s).ret = 1 := by
  rw [parseReply]
  dsimp only
  split
  · exact .inl rfl
  split
  · exact .inl rfl
  split
  · exact .inl rfl
  simp only [SpiDrv.truth]
  split
  · exact .inr rfl
  · exact .inl rfl

/-- What an accepted parse went through: the wanted header, at least one parameter,
and the end byte right behind the last one. -/
theorem parseReply_accepted {s : List UInt8}
    (h : (parseReply cmd maxNumParams caps s).ret = 1) :
    ∃ k numParam, numParam ≠ 0 ∧ (seek startCmd timeoutChar s).2 = k ∧
      (parseReply cmd maxNumParams caps s).count = some numParam ∧
      numParam = SpiDrv.limitCount ((s.drop (k + 1)).headD 0) maxNumParams ∧
      (parseReply cmd maxNumParams caps s).payloads =
        (takeFields 0 (caps.take numParam.toNat) (s.drop (k + 2))).1 ∧
      (parseReply cmd maxNumParams caps s).reads =
        k + 2 + (takeFields 0 (caps.take numParam.toNat) (s.drop (k + 2))).2 + 1 ∧
      (s.drop (k + 2 + (takeFields 0 (caps.take numParam.toNat) (s.drop (k + 2))).2)).headD 0 =
        endCmd := by
  simp only [parseReply] at h ⊢
  split at h
  · simp at h
  next hfound =>
  split at h
  · simp at h
  next hsame =>
  split at h
  · simp at h
  next hzero =>
  rw [SpiDrv.truth_eq_one, beq_iff_eq] at h
  rw [if_neg hfound, if_neg hsame, if_neg hzero]
  exact ⟨_, _, hzero, rfl, rfl, rfl, rfl, rfl, h⟩

/-- An accepted parse was never given a byte the stream did not have. -/
theorem parseReply_reads_le {s : List UInt8}
    (h : (parseReply cmd maxNumParams caps s).ret = 1) :
    (parseReply cmd maxNumParams caps s).reads ≤ s.length := by
  obtain ⟨k, n, _, _, _, _, _, hreads, hend⟩ := parseReply_accepted h
  rw [hreads]
  exact lt_length_of_headD_drop (by rw [hend]; decide)

/-- A parse that asked for no more than the stream had does not depend on what
follows. -/
theorem parseReply_append {s : List UInt8} (t : List UInt8)
    (h : (parseReply cmd maxNumParams caps s).reads ≤ s.length) :
    parseReply cmd maxNumParams caps (s ++ t) = parseReply cmd maxNumParams caps s := by
  simp only [parseReply] at h ⊢
  generalize hk : seek startCmd timeoutChar s = k at h ⊢
  have hseek : k.2 ≤ s.length → seek startCmd timeoutChar (s ++ t) = k := by
    intro hle
    rw [← hk] at hle ⊢
    exact seek_append_of_le t hle
  split at h
  · next hfound =>
      simp only [hseek h, if_pos hfound]
  next hfound =>
  split at h
  · next hsame =>
      simp only at h
      simp only [hseek (by omega), if_neg hfound, if_pos hsame, headD_drop_append t h]
  next hsame =>
  split at h
  · next hzero =>
      simp only at h
      simp only [hseek (by omega), if_neg hfound, if_neg hsame, if_pos hzero,
        headD_drop_append t (show k.2 < s.length by omega),
        headD_drop_append t (show k.2 + 1 < s.length by omega)]
  · next hzero =>
      simp only at h
      have htail : (s ++ t).drop (k.2 + 2) = s.drop (k.2 + 2) ++ t :=
        List.drop_append_of_le_length (by omega)
      simp only [hseek (by omega), if_neg hfound, if_neg hsame, if_neg hzero,
        headD_drop_append t (show k.2 < s.length by omega),
        headD_drop_append t (show k.2 + 1 < s.length by omega), htail]
      generalize caps.take _ = taken at h ⊢
      have hfields : takeFields 0 taken (s.drop (k.2 + 2) ++ t) =
          takeFields 0 taken (s.drop (k.2 + 2)) :=
        takeFields_append 0 t (by simp only [List.length_drop]; omega)
      rw [hfields, headD_drop_append t (Nat.lt_of_succ_le h)]

/-- **No truncated reply is accepted.** -/
theorem parseReply_take {s : List UInt8} {m : ℕ}
    (hm : m < (parseReply cmd maxNumParams caps s).reads) :
    (parseReply cmd maxNumParams caps (s.take m)).ret = 0 := by
  rcases parseReply_ret cmd maxNumParams caps (s.take m) with hret | hret
  · exact hret
  · -- an accepted cut would have consumed as much as the whole stream
    have hreads := parseReply_reads_le hret
    have happend := parseReply_append (s.drop m) hreads
    rw [List.take_append_drop] at happend
    rw [happend] at hm
    rw [List.length_take] at hreads
    omega

/-- **What is accepted is in the stream.** Behind the header and the count the stream
holds the parameters in order, each behind its length field, and then the end byte. -/
theorem parseReply_slices {s : List UInt8}
    (h : (parseReply cmd maxNumParams caps s).ret = 1) :
    ∃ start hs, start + 2 < (parseReply cmd maxNumParams caps s).reads ∧
      hs.length = (parseReply cmd maxNumParams caps s).payloads.length ∧
      (∀ c ∈ hs, c.length = width L) ∧
      s.take (parseReply cmd maxNumParams caps s).reads =
        s.take (start + 2) ++
          (List.zipWith (· ++ ·) hs (parseReply cmd maxNumParams caps s).payloads).flatten ++
          [endCmd] := by
  obtain ⟨k, n, _, _, _, _, hpayloads, hreads, hend⟩ := parseReply_accepted h
  have hle := parseReply_reads_le h
  rw [hreads] at hle
  set r := takeFields 0 (caps.take n.toNat) (s.drop (k + 2)) with hr
  have hfields : (takeFields 0 (caps.take n.toNat) (s.drop (k + 2))).2 ≤
      (s.drop (k + 2)).length := by
    rw [← hr, List.length_drop]
    omega
  obtain ⟨hs, hlen, hwidth, hslice⟩ := takeFields_slices 0 hfields
  refine ⟨k, hs, by omega, by rw [hpayloads, hlen, hr, length_takeFields], hwidth, ?_⟩
  have hlast : (s.drop (k + 2 + r.2)).take 1 = [endCmd] := by
    rw [List.drop_eq_getElem_cons (by omega), List.headD_cons] at hend
    rw [List.drop_eq_getElem_cons (by omega), hend]
    rfl
  rw [← hr] at hslice
  rw [hreads, hpayloads, List.take_add, hlast, List.take_add, hslice]

end Parse
end WiFiNINA
