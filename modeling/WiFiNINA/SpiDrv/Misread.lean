import WiFiNINA.SpiDrv.Replies

/-!
# Replies that the decoders misread

Two habits of the decoders make them take bytes for what they are not.  A parameter
that reaches its capacity is cut, but the bytes cut off stay in the stream and are
read as the next length; and an error byte ends the search for the start byte as if
the start byte had been found.
-/

namespace WiFiNINA

open LengthCode

namespace SpiDrv

variable {L : Type} [LengthCode L UInt8]

/-- A decoder accepted a reply with the parameters `xs`, and for each that it had a place
for it stored nothing but a prefix. -/
structure Intact (xs : List (List UInt8)) (params : List (Param L)) (maxNumParams : UInt8)
    (r : Reply L) (b' : Bus) : Prop where
  accepted : r.ret = 1
  prefixes : ∀ i < min xs.length maxNumParams.toNat, ∃ p p' x, params[i]? = some p ∧
    r.params[i]? = some p' ∧ xs[i]? = some x ∧ p'.data = p.data ∧ p'.bytes b'.mem <+: x

/-- What a reply still has behind the bytes that are kept of the last parameter processed: those
that its capacity cuts off, the parameters without a place, and the end byte. -/
def leftOver (L : Type) [LengthCode L UInt8] (cap : ℕ) (last : List UInt8)
    (dropped : List (List UInt8)) : List UInt8 :=
  last.drop (cap - 1) ++ fields L dropped ++ [endCmd]

/-- The parameters `kept`, which are shorter than their capacities, and `last` are processed,
the parameters `dropped` are not.  Then the decoder reads the reply without letting one parameter
run into the next, whatever is received behind it, exactly if the end byte is the first of what is
left over. -/
def ReadsIntact (L : Type) [LengthCode L UInt8]
    (receive : UInt8 → UInt16 → UInt8 → List (Param L) → UInt8 → Prog Bus (Reply L))
    (cmd : UInt8) (maxSize : UInt16) (numParamRead maxNumParams : UInt8)
    (kept : List (List UInt8)) (last : List UInt8) (dropped : List (List UInt8))
    (rest : List UInt8) (b : Bus) : Prop :=
  ∀ (params : List (Param L)) (p : Param L), maxNumParams.toNat ≤ params.length →
    Separated params → (∀ p ∈ params, 0 < toNat p.len) →
    min (kept.length + 1 + dropped.length) maxNumParams.toNat = kept.length + 1 →
    List.Forall₂ (fun x p => x.length < toNat p.len) kept (params.take kept.length) →
    params[kept.length]? = some p →
    received maxSize b = replyFrame L cmd (kept ++ last :: dropped) ++ rest →
    (Intact (kept ++ last :: dropped) params maxNumParams
        ((receive cmd maxSize numParamRead params maxNumParams).val b)
        ((receive cmd maxSize numParamRead params maxNumParams).state b) ↔
      (leftOver L (toNat p.len) last dropped).head? = some endCmd)

/-- No more than 255 bytes are received. -/
theorem length_received_le (maxSize : UInt16) (b : Bus) : (received maxSize b).length ≤ 255 := by
  rw [received, List.length_take, window]
  omega

/-- Parsing a reply frame of any number of parameters. -/
theorem parseReply_frame (cmd maxNumParams : UInt8) (caps : List L) {xs : List (List UInt8)}
    (rest : List UInt8) (hpos : 1 ≤ xs.length) (hlen : xs.length < 256)
    (hmax : 1 ≤ maxNumParams.toNat) :
    let s := fields L xs ++ endCmd :: rest
    let r := takeFields 0 (caps.take (min xs.length maxNumParams.toNat)) s
    (parseReply cmd maxNumParams caps (replyFrame L cmd xs ++ rest)).ret =
        truth ((s.drop r.2).headD 0 == endCmd) ∧
      (parseReply cmd maxNumParams caps (replyFrame L cmd xs ++ rest)).payloads = r.1 := by
  have hbyte : (limitCount (UInt8.ofNat xs.length) maxNumParams).toNat =
      min xs.length maxNumParams.toNat := by
    rw [toNat_limitCount, UInt8.toNat_ofNat_of_lt' (by rw [UInt8.size]; exact hlen)]
  have hzero : limitCount (UInt8.ofNat xs.length) maxNumParams ≠ 0 := by
    rw [ne_eq, ← UInt8.toNat_inj, hbyte, UInt8.toNat_zero]
    omega
  have hbody : replyFrame L cmd xs ++ rest = [] ++ startCmd :: (cmd ||| replyFlag) ::
      UInt8.ofNat xs.length :: (fields L xs ++ endCmd :: rest) := by
    simp [replyFrame]
  rw [hbody, parseReply_header _ _ (by simp) (by simp)]
  simp only [hzero, if_false, hbyte]
  trivial

/-- Where a parameter was processed, its bytes are those parsed. -/
theorem bytes_processed {params : List (Param L)} {ys : List (List UInt8)}
    (m : Memory Obj UInt8) {i : ℕ} (hsep : Separated params)
    (hlt : List.Forall₂ (fun x p => x.length < toNat p.len) ys (params.take ys.length))
    (hi : i < ys.length) :
    ∃ p p', params[i]? = some p ∧ (setLens params ys)[i]? = some p' ∧ p'.data = p.data ∧
      p'.bytes (storeParams m params ys) = ys[i] := by
  obtain ⟨p, p', hp, hp', hdata, -, hlen, hread⟩ := processed_slice m hlt hi
  refine ⟨p, p', hp, hp', hdata, ?_⟩
  have h := congrArg (List.take (toNat p'.len)) (hread hsep)
  rw [Memory.take_loadList _ _ (Nat.le_succ _), hlen, List.take_left] at h
  rw [Param.bytes, hdata, hlen, h]

/-- A call is intact exactly if it accepts and parses prefixes. -/
theorem intact_iff {cmd : UInt8} {maxSize : UInt16} {numParamRead : UInt8}
    {params : List (Param L)} {maxNumParams : UInt8} {xs : List (List UInt8)} {b : Bus}
    (hmax : maxNumParams.toNat ≤ params.length) (hsep : Separated params)
    (hcaps : ∀ p ∈ params, 0 < toNat p.len)
    (hlen : (parsed cmd maxSize params maxNumParams b).payloads.length =
      min xs.length maxNumParams.toNat) :
    Intact xs params maxNumParams
        ((receiveResponse cmd maxSize numParamRead params maxNumParams).val b)
        ((receiveResponse cmd maxSize numParamRead params maxNumParams).state b) ↔
      (parsed cmd maxSize params maxNumParams b).ret = 1 ∧
        List.Forall₂ (· <+: ·) (parsed cmd maxSize params maxNumParams b).payloads
          (xs.take (min xs.length maxNumParams.toNat)) := by
  have hval := val_receiveResponse cmd maxSize numParamRead params maxNumParams b hmax
  have hmem := mem_receiveResponse cmd maxSize numParamRead params maxNumParams b hmax
  have hlt : List.Forall₂ (fun x p => x.length < toNat p.len)
      (parsed cmd maxSize params maxNumParams b).payloads
      (params.take (parsed cmd maxSize params maxNumParams b).payloads.length) :=
    parseReply_params_lt cmd maxNumParams (received maxSize b) hcaps
  generalize parsed cmd maxSize params maxNumParams b = r at hval hmem hlt hlen ⊢
  constructor
  · rintro ⟨hret, hprefix⟩
    rw [hval] at hret
    refine ⟨hret, List.forall₂_iff_get.mpr ⟨by rw [hlen, List.length_take]; omega, ?_⟩⟩
    intro i hi hi'
    obtain ⟨p, p', x, hp, hp', hx, hdata, hpre⟩ := hprefix i (hlen ▸ hi)
    obtain ⟨q, q', hq, hq', hqdata, hqbytes⟩ := bytes_processed b.mem hsep hlt hi
    rw [hval] at hp'
    obtain rfl := Option.some.inj (hp'.symm.trans hq')
    rw [hmem, hqbytes] at hpre
    obtain ⟨hix, rfl⟩ := List.getElem?_eq_some_iff.mp hx
    simpa using hpre
  · rintro ⟨hret, hprefix⟩
    refine ⟨by rw [hval, hret], ?_⟩
    intro i hi
    have hi' : i < r.payloads.length := hlen ▸ hi
    obtain ⟨q, q', hq, hq', hqdata, hqbytes⟩ := bytes_processed b.mem hsep hlt hi'
    refine ⟨q, q', xs[i], hq, by rw [hval, hq'], List.getElem?_eq_getElem _, hqdata, ?_⟩
    rw [hmem, hqbytes]
    have h := (List.forall₂_iff_get.mp hprefix).2 i hi' (by rw [List.length_take]; omega)
    simpa using h

/-- Behind the last parameter processed the decoder finds what is left over. -/
theorem head_leftOver (cap : ℕ) (last : List UInt8) (dropped : List (List UInt8))
    (rest : List UInt8) :
    (last.drop (cap - 1) ++ (fields L dropped ++ endCmd :: rest)).headD 0 = endCmd ↔
      (leftOver L cap last dropped).head? = some endCmd := by
  obtain ⟨c, s, hleft⟩ : ∃ c s, leftOver L cap last dropped = c :: s :=
    List.exists_cons_of_ne_nil (by simp [leftOver])
  have hsplit : last.drop (cap - 1) ++ (fields L dropped ++ endCmd :: rest) =
      leftOver L cap last dropped ++ rest := by
    simp [leftOver]
  rw [hsplit, hleft, List.cons_append, List.headD_cons, List.head?_cons, Option.some_inj]

theorem readsIntact_receiveResponse (hbound : 256 ≤ bound L) (cmd : UInt8) (maxSize : UInt16)
    (numParamRead maxNumParams : UInt8) (kept : List (List UInt8)) (last : List UInt8)
    (dropped : List (List UInt8)) (rest : List UInt8) (b : Bus) :
    ReadsIntact L (receiveResponse (L := L)) cmd maxSize numParamRead maxNumParams kept last
      dropped rest b := by
  intro params p hmax hsep hcaps hprocessed hkept hp hrec
  obtain ⟨xs, hxs⟩ : ∃ xs, xs = kept ++ last :: dropped := ⟨_, rfl⟩
  have hlength : xs.length = kept.length + 1 + dropped.length := by
    rw [hxs, List.length_append, List.length_cons]
    omega
  rw [← hxs] at hrec ⊢
  rw [← hlength] at hprocessed
  have hsize : 4 + fieldsSize L xs ≤ 255 := by
    have h := length_received_le maxSize b
    rw [hrec, List.length_append, length_replyFrame] at h
    omega
  have hcount : xs.length < 256 := by
    have := length_le_fieldsSize_self L xs
    omega
  have hshort : ∀ x ∈ xs, x.length < bound L := by
    intro x hx
    have := length_le_fieldsSize_of_mem (L := L) hx
    omega
  -- the capacities of the parameters processed
  have hcapacities : (params.map Param.len).take (min xs.length maxNumParams.toNat) =
      (params.take kept.length).map Param.len ++ [p.len] := by
    rw [hprocessed, List.take_add_one, List.getElem?_map, hp, ← List.map_take]
    rfl
  have hfields : fields L xs ++ endCmd :: rest =
      fields L kept ++ (field L last ++ (fields L dropped ++ endCmd :: rest)) := by
    simp [hxs, fields]
  obtain ⟨hread, hbehind⟩ := takeFields_fields_concat (0 : UInt8)
    (List.forall₂_map_right_iff.mpr hkept) (fun x hx => hshort x (by simp [hxs, hx]))
    (hcaps p (List.mem_of_getElem? hp)) (hshort last (by simp [hxs]))
    (fields L dropped ++ endCmd :: rest)
  obtain ⟨hret, hpayloads⟩ := parseReply_frame cmd maxNumParams (params.map Param.len) rest
    (by omega) hcount (by omega)
  rw [hcapacities, hfields, hbehind] at hret
  rw [hcapacities, hfields, hread] at hpayloads
  rw [← hrec] at hret hpayloads
  have hprefixes : List.Forall₂ (· <+: ·) (kept ++ [last.take (toNat p.len - 1)])
      (xs.take (min xs.length maxNumParams.toNat)) := by
    have htake : xs.take (kept.length + 1) = kept ++ [last] := by
      rw [hxs, List.take_length_add_append]
      rfl
    rw [hprocessed, htake]
    exact List.rel_append (List.forall₂_same.mpr fun x _ => List.prefix_rfl)
      (.cons (List.take_prefix _ _) .nil)
  have hlen : (parsed cmd maxSize params maxNumParams b).payloads.length =
      min xs.length maxNumParams.toNat := by
    rw [parsed, hpayloads, List.length_append, List.length_singleton, hprocessed]
  rw [intact_iff hmax hsep hcaps hlen, parsed, hret, hpayloads, and_iff_left hprefixes,
    truth_eq_one, beq_iff_eq]
  exact head_leftOver _ _ _ _

/-- **When an oversized parameter does not corrupt its neighbours**, in both framings: where only
the last parameter processed may be too long, exactly if what is left over of the reply behind it
begins with the end byte.  A parameter in front of it that is too long makes the decoder go on
with bytes of that parameter as length fields. -/
theorem oversized_parameters (cmd : UInt8) (maxSize : UInt16) (numParamRead maxNumParams : UInt8)
    (kept : List (List UInt8)) (last : List UInt8) (dropped : List (List UInt8))
    (rest : List UInt8) (b : Bus) :
    ReadsIntact UInt8 receiveResponseCmd cmd maxSize numParamRead maxNumParams kept last dropped
        rest b ∧
      ReadsIntact UInt16 receiveResponseBuffer cmd maxSize numParamRead maxNumParams kept last
        dropped rest b := by
  constructor
  · exact readsIntact_receiveResponse (by decide) cmd maxSize numParamRead maxNumParams kept last
      dropped rest b
  · exact readsIntact_receiveResponse (by decide) cmd maxSize numParamRead maxNumParams kept last
      dropped rest b

/-- Of three bytes for a port two are kept, and the third is taken for the end of the reply. -/
theorem oversized_parameters_cut :
    Intact [[10, 0, 0], [80, 0, endCmd]] [(⟨4, ⟨.user 0, 0⟩⟩ : TParam), ⟨3, ⟨.user 1, 0⟩⟩] 2
      ((receiveResponseCmd getRemoteDataCmd 24 0 [⟨4, ⟨.user 0, 0⟩⟩, ⟨3, ⟨.user 1, 0⟩⟩] 2).val
        (Bus.fresh fun _ => replyFrame UInt8 getRemoteDataCmd [[10, 0, 0], [80, 0, endCmd]]))
      ((receiveResponseCmd getRemoteDataCmd 24 0 [⟨4, ⟨.user 0, 0⟩⟩, ⟨3, ⟨.user 1, 0⟩⟩] 2).state
        (Bus.fresh fun _ => replyFrame UInt8 getRemoteDataCmd [[10, 0, 0], [80, 0, endCmd]])) :=
  ((oversized_parameters getRemoteDataCmd 24 0 2 [[10, 0, 0]] [80, 0, endCmd] [] []
      (Bus.fresh fun _ => replyFrame UInt8 getRemoteDataCmd [[10, 0, 0], [80, 0, endCmd]])).1
    [⟨4, ⟨.user 0, 0⟩⟩, ⟨3, ⟨.user 1, 0⟩⟩] ⟨3, ⟨.user 1, 0⟩⟩ (by decide)
    (separated_of_nodup (by decide)) (by decide) (by decide) (.cons (by decide) .nil) rfl
    (by decide)).mpr (by decide)

/-- The reply to `WiFiDrv_getRemoteData` fills both variables: the last byte of the address
is taken for the length of the port. -/
theorem remoteData_not_intact :
    received 24 (Bus.fresh fun _ =>
        replyFrame UInt8 getRemoteDataCmd [[10, 0, 0, 7], [80, 0]]) =
      replyFrame UInt8 getRemoteDataCmd [[10, 0, 0, 7], [80, 0]] ++ [] ∧
    ¬ Intact [[10, 0, 0, 7], [80, 0]] [(⟨4, ⟨.user 0, 0⟩⟩ : TParam), ⟨2, ⟨.user 1, 0⟩⟩] 2
      ((receiveResponseCmd getRemoteDataCmd 24 0 [⟨4, ⟨.user 0, 0⟩⟩, ⟨2, ⟨.user 1, 0⟩⟩] 2).val
        (Bus.fresh fun _ => replyFrame UInt8 getRemoteDataCmd [[10, 0, 0, 7], [80, 0]]))
      ((receiveResponseCmd getRemoteDataCmd 24 0 [⟨4, ⟨.user 0, 0⟩⟩, ⟨2, ⟨.user 1, 0⟩⟩] 2).state
        (Bus.fresh fun _ => replyFrame UInt8 getRemoteDataCmd [[10, 0, 0, 7], [80, 0]])) := by
  refine ⟨by decide, ?_⟩
  intro h
  exact absurd h.accepted (by decide)

/-! ## Error replies -/

/-- A call of a decoder had no effect. -/
def Rejected (numParamRead : UInt8) (params : List (Param L)) (b : Bus) (r : Reply L)
    (b' : Bus) : Prop :=
  r = ⟨0, numParamRead, params⟩ ∧ b'.mem = b.mem

/-- The decoder rejects a stream that has an error byte in front of the first start byte
exactly if what follows the error byte does not go on like a reply, or if that reply says
that it has no parameters and the caller's count was zero already. -/
def RejectsErrors (L : Type) [LengthCode L UInt8]
    (receive : UInt8 → UInt16 → UInt8 → List (Param L) → UInt8 → Prog Bus (Reply L))
    (cmd : UInt8) (maxSize : UInt16) (numParamRead maxNumParams : UInt8)
    (junk rest : List UInt8) (b : Bus) : Prop :=
  ∀ params, maxNumParams.toNat ≤ params.length → (∀ c ∈ junk, c ≠ startCmd ∧ c ≠ errCmd) →
    received maxSize b = junk ++ errCmd :: rest →
    (Rejected numParamRead params b
        ((receive cmd maxSize numParamRead params maxNumParams).val b)
        ((receive cmd maxSize numParamRead params maxNumParams).state b) ↔
      rest.headD 0 ≠ (cmd ||| replyFlag) ∨
        limitCount (rest.tail.headD 0) maxNumParams = 0 ∧ numParamRead = 0)

/-- The search stops behind an error byte. -/
theorem seek_error {junk : List UInt8} {timeout : ℕ} (s : List UInt8)
    (hjunk : ∀ c ∈ junk, c ≠ startCmd ∧ c ≠ errCmd) (htimeout : junk.length ≤ timeout) :
    seek startCmd timeout (junk ++ errCmd :: s) = (-1, junk.length + 1) := by
  have hfound : ∀ t, seek startCmd t (errCmd :: s) = (-1, 1) := by
    intro t
    cases t <;> simp [seek]
  rw [seek_junk _ hjunk htimeout, hfound, Nat.add_comm]

/-- Parsing goes on behind an error byte as behind a start byte. -/
theorem hasHeader_error {cmd : UInt8} {junk : List UInt8} (rest : List UInt8)
    (hjunk : ∀ c ∈ junk, c ≠ startCmd ∧ c ≠ errCmd) (hlen : junk.length ≤ timeoutChar) :
    HasHeader cmd (junk ++ errCmd :: rest) ↔ rest.headD 0 = (cmd ||| replyFlag) := by
  have hdrop : (junk ++ errCmd :: rest).drop (junk.length + 1) = rest := by
    rw [← List.drop_drop, List.drop_left, List.drop_succ_cons, List.drop_zero]
  rw [HasHeader, seek_error rest hjunk hlen, hdrop]
  simp

/-- A reply that says it has no parameters is not accepted. -/
theorem ret_of_count_zero {cmd maxNumParams : UInt8} {caps : List L} {s : List UInt8}
    (h : (parseReply cmd maxNumParams caps s).count = some 0) :
    (parseReply cmd maxNumParams caps s).ret = 0 := by
  rcases parseReply_ret cmd maxNumParams caps s with hret | hret
  · exact hret
  · obtain ⟨_, numParam, hne, -, hcount, -⟩ := parseReply_accepted hret
    exact absurd (Option.some.inj (hcount.symm.trans h)) hne

/-- Where parameters are processed, their lengths do not stay as they were. -/
theorem setLens_takeFields_ne {params : List (Param L)} {n : ℕ} (s : List UInt8)
    (hbound : 1 < bound L) (hn : 0 < n) (hparams : 0 < params.length) :
    setLens params (takeFields 0 ((params.map Param.len).take n) s).1 ≠ params := by
  obtain ⟨p, params, rfl⟩ := List.exists_cons_of_length_pos hparams
  obtain ⟨n, rfl⟩ := Nat.exists_eq_add_one_of_ne_zero hn.ne'
  rw [List.map_cons, List.take_succ_cons, takeFields_cons, setLens_cons]
  intro h
  have hlen := congrArg Param.len (List.cons.inj h).1
  rw [length_padTake, ofNat_toNat] at hlen
  exact clip_ne _ _ hbound hlen

theorem rejectsErrors_receiveResponse (hbound : 1 < bound L) (cmd : UInt8) (maxSize : UInt16)
    (numParamRead maxNumParams : UInt8) (junk rest : List UInt8) (b : Bus) :
    RejectsErrors L (receiveResponse (L := L)) cmd maxSize numParamRead maxNumParams junk rest
      b := by
  intro params hmax hjunk hrec
  have hlen : junk.length ≤ timeoutChar := by
    have h := length_received_le maxSize b
    rw [hrec, List.length_append, List.length_cons] at h
    rw [timeoutChar]
    omega
  have hheader : HasHeader cmd (junk ++ errCmd :: rest) ↔ rest.headD 0 = (cmd ||| replyFlag) :=
    hasHeader_error rest hjunk hlen
  rw [← hrec] at hheader
  rw [Rejected, val_receiveResponse _ _ _ _ _ _ hmax, mem_receiveResponse _ _ _ _ _ _ hmax,
    parsed]
  by_cases hcmd : rest.headD 0 = (cmd ||| replyFlag)
  · obtain ⟨numParam, s, hn, hcount, hpayloads, -⟩ := parseReply_of_hasHeader maxNumParams
      (params.map Param.len) (hheader.mpr hcmd)
    have hbyte : (received maxSize b).drop
        ((seek startCmd timeoutChar (received maxSize b)).2 + 1) = rest.tail := by
      rw [hrec, seek_error rest hjunk hlen]
      simp [← List.drop_drop]
    rw [hbyte] at hn
    rw [hcount, hpayloads, Option.getD_some, ← hn]
    by_cases hzero : numParam = 0
    · rw [hzero] at hcount
      simp [-List.headD_eq_head?_getD, hzero, ret_of_count_zero hcount, hcmd, eq_comm]
    · -- the first parameter gets a new length
      have hpos : 0 < numParam.toNat := by
        rw [Nat.pos_iff_ne_zero, ne_eq, ← UInt8.toNat_zero, UInt8.toNat_inj]
        exact hzero
      have hle : numParam.toNat ≤ maxNumParams.toNat := by
        rw [hn, toNat_limitCount]
        exact Nat.min_le_right _ _
      have hne := setLens_takeFields_ne s hbound hpos (hpos.trans_le (hle.trans hmax))
      simp [-List.headD_eq_head?_getD, hne, hcmd, hzero]
  · obtain ⟨hret, hcount, hpayloads, -⟩ := parseReply_of_not_hasHeader maxNumParams
      (params.map Param.len) (mt hheader.mp hcmd)
    simp [-List.headD_eq_head?_getD, hret, hcount, hpayloads, hcmd]

/-- **When an error reply is rejected**, by both decoders. -/
theorem error_replies (cmd : UInt8) (maxSize : UInt16) (numParamRead maxNumParams : UInt8)
    (junk rest : List UInt8) (b : Bus) :
    RejectsErrors UInt8 receiveResponseCmd cmd maxSize numParamRead maxNumParams junk rest b ∧
      RejectsErrors UInt16 receiveResponseBuffer cmd maxSize numParamRead maxNumParams junk rest
        b := by
  constructor
  · exact rejectsErrors_receiveResponse (by decide) cmd maxSize numParamRead maxNumParams junk
      rest b
  · exact rejectsErrors_receiveResponse (by decide) cmd maxSize numParamRead maxNumParams junk
      rest b

/-- A reply that begins with the error byte instead of the start byte, and is accepted. -/
def errorReply : List UInt8 := [errCmd, getSocketCmd ||| replyFlag, 1, 0, endCmd]

theorem errorReply_not_rejected :
    received 20 (Bus.fresh fun _ => errorReply) = [] ++ errCmd :: errorReply.tail ∧
      ¬ Rejected 0 [(⟨1, ⟨.user 0, 0⟩⟩ : TParam)] (Bus.fresh fun _ => errorReply)
        ((receiveResponseCmd getSocketCmd 20 0 [⟨1, ⟨.user 0, 0⟩⟩] 1).val
          (Bus.fresh fun _ => errorReply))
        ((receiveResponseCmd getSocketCmd 20 0 [⟨1, ⟨.user 0, 0⟩⟩] 1).state
          (Bus.fresh fun _ => errorReply)) := by
  refine ⟨by decide, ?_⟩
  intro h
  have hret : ((receiveResponseCmd getSocketCmd 20 0 [⟨1, ⟨.user 0, 0⟩⟩] 1).val
      (Bus.fresh fun _ => errorReply)).ret = 1 := by decide
  rw [h.1] at hret
  exact absurd hret (by decide)

end SpiDrv
end WiFiNINA
