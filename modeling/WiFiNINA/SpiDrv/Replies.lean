import WiFiNINA.SpiDrv.Decode

/-!
# What a reply can do to the caller

The received bytes are arbitrary here.  Whatever they are, a decoder stays inside
the capacities its caller declared, and what it accepts was really received.
-/

namespace WiFiNINA

open LengthCode

namespace SpiDrv

variable {L : Type} [LengthCode L UInt8]

/-- What the decoders read first, run on its own: the result of the search for the start
byte, the byte behind it, and the parameter count. -/
def header (maxSize : UInt16) : Prog Bus (ℤ × UInt8 × UInt8) := do
  receiveTransfer maxSize
  let found ← waitSpiChar startCmd
  let same ← readChar
  let count ← readChar
  pure (found, same, count)

theorem val_header (maxSize : UInt16) (b : Bus) :
    (header maxSize).val b =
      ((seek startCmd timeoutChar (received maxSize b)).1,
        ((received maxSize b).drop (seek startCmd timeoutChar (received maxSize b)).2).headD 0,
        ((received maxSize b).drop
          ((seek startCmd timeoutChar (received maxSize b)).2 + 1)).headD 0) := by
  obtain ⟨log, busy, hstate, -⟩ := state_receiveTransfer maxSize b
  simp only [header, waitSpiChar, Prog.val_bind, Prog.val_pure, (run_waitSpiCharFrom _ _ _).1,
    (run_waitSpiCharFrom _ _ _).2, val_readChar, state_readChar, hstate, List.tail_drop]
  rfl

/-- A call of a decoder from `b`, with result `r` and final state `b'`, respects its out
parameters. -/
structure SafeReply (cmd : UInt8) (maxSize : UInt16) (numParamRead : UInt8)
    (params : List (Param L)) (maxNumParams : UInt8) (b : Bus) (r : Reply L) (b' : Bus) :
    Prop where
  /-- The call ends after a bounded number of reads. -/
  terminates : b'.reads ≤
    b.reads + timeoutChar + 4 + (params.map fun p => width L + toNat p.len).sum
  /-- Without the wanted header nothing changes. -/
  unchanged : ¬ (((header maxSize).val b).1 ≠ 0 ∧
      ((header maxSize).val b).2.1 = (cmd ||| replyFlag)) →
    r = ⟨0, numParamRead, params⟩ ∧ b'.mem = b.mem
  /-- Every byte stored lies below the capacity of a processed parameter. -/
  stores : ∀ a ∈ b'.mem.since b.mem, ∃ p ∈ params.take
    (min ((header maxSize).val b).2.2.toNat maxNumParams.toNat), a ∈ p.dest
  /-- The other parameters are untouched. -/
  rest : r.params.drop (min ((header maxSize).val b).2.2.toNat maxNumParams.toNat) =
    params.drop (min ((header maxSize).val b).2.2.toNat maxNumParams.toNat)
  frame : ∀ q, (∀ p ∈ params.take
      (min ((header maxSize).val b).2.2.toNat maxNumParams.toNat), q ∉ p.dest) →
    b'.mem.load q = b.mem.load q
  /-- Every processed parameter is shorter than its capacity, and zero behind its end. -/
  processed : ((header maxSize).val b).1 ≠ 0 →
    ((header maxSize).val b).2.1 = (cmd ||| replyFlag) →
    r.numParamRead.toNat = min ((header maxSize).val b).2.2.toNat maxNumParams.toNat ∧
    ∀ i < min ((header maxSize).val b).2.2.toNat maxNumParams.toNat,
      ∃ p p', params[i]? = some p ∧ r.params[i]? = some p' ∧ p'.data = p.data ∧
        toNat p'.len ≤ toNat p.len - 1 ∧ b'.mem.load (p.data.add (toNat p'.len)) = 0

/-- A decoder is safe: for every stream, and for every parameter array with at least
`maxNumParams` separate destinations of nonzero capacity. -/
def SafeDecoder (L : Type) [LengthCode L UInt8]
    (receive : UInt8 → UInt16 → UInt8 → List (Param L) → UInt8 → Prog Bus (Reply L)) : Prop :=
  ∀ cmd maxSize numParamRead params maxNumParams b,
    maxNumParams.toNat ≤ params.length → Separated params → (∀ p ∈ params, 0 < toNat p.len) →
    SafeReply cmd maxSize numParamRead params maxNumParams b
      ((receive cmd maxSize numParamRead params maxNumParams).val b)
      ((receive cmd maxSize numParamRead params maxNumParams).state b)

section Response
variable {cmd : UInt8} {maxSize : UInt16} {params : List (Param L)} {maxNumParams : UInt8}
  {b : Bus}

/-- As many parameters are processed as the limited count says. -/
theorem length_payloads (hmax : maxNumParams.toNat ≤ params.length)
    (hheader : HasHeader cmd (received maxSize b)) :
    (parsed cmd maxSize params maxNumParams b).payloads.length =
      min ((header maxSize).val b).2.2.toNat maxNumParams.toNat := by
  obtain ⟨numParam, rest, hn, -, hpayloads, -⟩ := parseReply_of_hasHeader
      maxNumParams (params.map Param.len) hheader
  rw [parsed, hpayloads, length_takeFields, List.length_take, List.length_map, hn,
    toNat_limitCount, val_header]
  simp only
  omega

theorem reads_parsed_le (cmd : UInt8) (maxSize : UInt16) (maxNumParams : UInt8) (b : Bus)
    (hcaps : ∀ p ∈ params, 0 < toNat p.len) :
    (parsed cmd maxSize params maxNumParams b).reads ≤
      timeoutChar + 4 + (params.map fun p => width L + toNat p.len).sum := by
  by_cases hheader : HasHeader cmd (received maxSize b)
  · obtain ⟨numParam, rest, -, -, -, hreads⟩ := parseReply_of_hasHeader
      maxNumParams (params.map Param.len) hheader
    have hfields : (takeFields 0 ((params.map Param.len).take numParam.toNat) rest).2 ≤
        (((params.map Param.len).take numParam.toNat).map fun cap => width L + toNat cap).sum :=
      takeFields_reads_le 0
        (fun cap hcap => by
          obtain ⟨p, hp, rfl⟩ := List.mem_map.mp (List.mem_of_mem_take hcap)
          exact hcaps p hp) rest
    have htake : (((params.map Param.len).take numParam.toNat).map
          fun cap => width L + toNat cap).sum ≤
        (params.map fun p => width L + toNat p.len).sum := by
      rw [← List.map_take, List.map_map]
      exact ((List.take_sublist _ _).map _).sum_le_sum (by simp)
    exact hreads.trans (by omega)
  · have := (parseReply_of_not_hasHeader
      maxNumParams (params.map Param.len) hheader).2.2.2
    exact this.trans (by omega)

/-- Every byte stored lies in the destination of a processed parameter. -/
theorem mem_dest_of_stored {xs : List (List UInt8)} (m : Memory Obj UInt8)
    (hlt : List.Forall₂ (fun x p => x.length < toNat p.len) xs (params.take xs.length))
    {a : Ptr Obj} (ha : a ∈ (storeParams m params xs).since m) :
    ∃ p ∈ params.take xs.length, a ∈ p.dest := by
  obtain ⟨new, hlog, hnew⟩ := log_storeParams m params xs
  rw [Memory.since_of_log hlog] at ha
  obtain ⟨px, hpx, hregion⟩ := hnew a ha
  obtain ⟨hp, hdest⟩ := region_subset_dest hlt hpx hregion
  exact ⟨px.1, hp, hdest⟩

theorem load_storeParams_of_notMem_dest {xs : List (List UInt8)} (m : Memory Obj UInt8)
    (hlt : List.Forall₂ (fun x p => x.length < toNat p.len) xs (params.take xs.length))
    {q : Ptr Obj} (hq : ∀ p ∈ params.take xs.length, q ∉ p.dest) :
    (storeParams m params xs).load q = m.load q := by
  refine load_storeParams_of_forall_notMem m ?_
  intro px hpx hregion
  obtain ⟨hp, hdest⟩ := region_subset_dest hlt hpx hregion
  exact hq px.1 hp hdest

/-- A processed parameter keeps its pointer and has the length of the bytes parsed, which
its destination holds. -/
theorem processed_slice {xs : List (List UInt8)} (m : Memory Obj UInt8) {i : ℕ}
    (hlt : List.Forall₂ (fun x p => x.length < toNat p.len) xs (params.take xs.length))
    (hi : i < xs.length) :
    ∃ p p', params[i]? = some p ∧ (setLens params xs)[i]? = some p' ∧ p'.data = p.data ∧
      xs[i].length < toNat p.len ∧ toNat p'.len = xs[i].length ∧
      (Separated params →
        (storeParams m params xs).loadList p.data (toNat p'.len + 1) = xs[i] ++ [0]) := by
  have hlen := hlt.length_eq
  rw [List.length_take] at hlen
  have hp : i < params.length := by omega
  have hcap : xs[i].length < toNat params[i].len := by
    have h := (List.forall₂_iff_get.mp hlt).2 i hi (by rw [List.length_take]; omega)
    simpa using h
  have hnat : toNat (ofNat xs[i].length : L) = xs[i].length := by
    have := toNat_lt params[i].len
    rw [toNat_ofNat, Nat.mod_eq_of_lt (by omega)]
  have hzip : (params[i], xs[i]) ∈ params.zip xs := by
    rw [← List.getElem_zip (h := by rw [List.length_zip]; omega)]
    exact List.getElem_mem _
  refine ⟨params[i], { params[i] with len := ofNat xs[i].length },
    List.getElem?_eq_getElem hp,
    by rw [getElem?_setLens hi, List.getElem?_eq_getElem hp, Option.map_some],
    rfl, hcap, hnat, ?_⟩
  intro hsep
  simp only [hnat]
  exact loadList_storeParams m hsep hlt hzip

/-- A processed parameter is shorter than its capacity, and followed by a zero. -/
theorem processed_param {xs : List (List UInt8)} (m : Memory Obj UInt8) {i : ℕ}
    (hsep : Separated params)
    (hlt : List.Forall₂ (fun x p => x.length < toNat p.len) xs (params.take xs.length))
    (hi : i < xs.length) :
    ∃ p p', params[i]? = some p ∧ (setLens params xs)[i]? = some p' ∧ p'.data = p.data ∧
      toNat p'.len ≤ toNat p.len - 1 ∧
      (storeParams m params xs).load (p.data.add (toNat p'.len)) = 0 := by
  obtain ⟨p, p', hp, hp', hdata, hcap, hlen, hread⟩ := processed_slice m hlt hi
  refine ⟨p, p', hp, hp', hdata, by omega, ?_⟩
  have hlast := hread hsep
  rw [Memory.loadList_add, hlen] at hlast
  rw [hlen]
  have h := (List.append_inj hlast (by simp)).2
  simpa [Memory.loadList_succ] using h

end Response

/-- **The decoders are memory safe and total**, for every received stream. -/
theorem safeDecoder_receiveResponse : SafeDecoder L (receiveResponse (L := L)) := by
  intro cmd maxSize numParamRead params maxNumParams b hmax hsep hcaps
  have hval := val_receiveResponse cmd maxSize numParamRead params maxNumParams b hmax
  have hmem := mem_receiveResponse cmd maxSize numParamRead params maxNumParams b hmax
  have hreads := reads_receiveResponse cmd maxSize numParamRead params maxNumParams b hmax
  have hlt := parseReply_params_lt cmd maxNumParams (received maxSize b) hcaps
  have hbound := reads_parsed_le cmd maxSize maxNumParams b hcaps
  by_cases hheader : HasHeader cmd (received maxSize b)
  · have hlen := length_payloads (b := b) hmax hheader
    obtain ⟨numParam, rest, hn, hcount, -, -⟩ := parseReply_of_hasHeader
      maxNumParams (params.map Param.len) hheader
    refine ⟨by omega, fun h => ?_, ?_, ?_, ?_, fun _ _ => ⟨?_, ?_⟩⟩
    · rw [val_header] at h
      exact absurd hheader h
    · rw [hmem, ← hlen]
      exact fun a => mem_dest_of_stored b.mem hlt
    · rw [hval, ← hlen]
      exact drop_setLens
    · rw [hmem, ← hlen]
      exact fun q => load_storeParams_of_notMem_dest b.mem hlt
    · rw [hval, parsed, hcount, Option.getD_some, hn, toNat_limitCount, val_header]
    · rw [hval, hmem, ← hlen]
      exact fun i => processed_param b.mem hsep hlt
  · obtain ⟨hret, hcount, hpayloads, -⟩ := parseReply_of_not_hasHeader
      maxNumParams (params.map Param.len) hheader
    have hsame : (receiveResponse cmd maxSize numParamRead params maxNumParams).val b =
        ⟨0, numParamRead, params⟩ := by
      rw [hval, parsed, hret, hcount, hpayloads, setLens_nil, Option.getD_none]
    have hkeep : ((receiveResponse cmd maxSize numParamRead params maxNumParams).state b).mem =
        b.mem := by
      rw [hmem, parsed, hpayloads, storeParams_nil]
    refine ⟨by omega, fun _ => ⟨hsame, hkeep⟩, ?_, ?_, ?_, fun hfound hcmd => ?_⟩
    · rw [hkeep, Memory.since_self]
      simp
    · rw [hsame]
    · rw [hkeep]
      exact fun _ _ => rfl
    · rw [val_header] at hfound hcmd
      exact absurd ⟨hfound, hcmd⟩ hheader

/-- **Both decoders are memory safe and total.** -/
theorem decoders_safe :
    SafeDecoder UInt8 receiveResponseCmd ∧ SafeDecoder UInt16 receiveResponseBuffer :=
  ⟨safeDecoder_receiveResponse, safeDecoder_receiveResponse⟩

/-- Room for three bytes and for seven. -/
def twoBuffers : List TParam := [⟨4, ⟨.user 2, 0⟩⟩, ⟨8, ⟨.user 3, 0⟩⟩]

/-- A reply that announces three parameters, the first one too long, and breaks off. -/
def brokenReply : Bus :=
  Bus.fresh fun _ => [7, startCmd, getRemoteDataCmd ||| replyFlag, 3, 9, 1, 2]

theorem decoders_safe_brokenReply :
    SafeReply getRemoteDataCmd 48 0 twoBuffers 2 brokenReply
      ((receiveResponseCmd getRemoteDataCmd 48 0 twoBuffers 2).val brokenReply)
      ((receiveResponseCmd getRemoteDataCmd 48 0 twoBuffers 2).state brokenReply) :=
  decoders_safe.1 getRemoteDataCmd 48 0 twoBuffers 2 brokenReply (by decide)
    (separated_of_nodup (by decide)) (by decide)

/-! ## Acceptance -/

/-- An accepting call of a decoder from `b`, with result `r` and final state `b'`, made
nothing up. -/
structure AcceptedReply (maxSize : UInt16) (params : List (Param L)) (b : Bus) (r : Reply L)
    (b' : Bus) : Prop where
  /-- Every byte consumed was in the receive buffer. -/
  present : b'.reads ≤ b.reads + (received maxSize b).length
  /-- Behind a header of `k` bytes, what was consumed are the parameters in order, each
  behind its length field, and the end byte. -/
  slices : ∃ k hs xs, xs.length = r.numParamRead.toNat ∧ hs.length = xs.length ∧
    (∀ h ∈ hs, h.length = width L) ∧
    (received maxSize b).take (b'.reads - b.reads) =
      (received maxSize b).take k ++ (List.zipWith (· ++ ·) hs xs).flatten ++ [endCmd] ∧
    k ≤ b'.reads - b.reads ∧
    b'.mem = storeParams b.mem params xs ∧
    ∀ i, (hi : i < xs.length) → ∃ p p', params[i]? = some p ∧ r.params[i]? = some p' ∧
      p'.data = p.data ∧ toNat p'.len = xs[i].length ∧
      (Separated params → p'.bytes b'.mem = xs[i])

/-- A decoder accepts only what was received: an accepted reply was there in full, and
no part of the stream cut before the end of the reply is accepted. -/
def AcceptsReceived (L : Type) [LengthCode L UInt8]
    (receive : UInt8 → UInt16 → UInt8 → List (Param L) → UInt8 → Prog Bus (Reply L)) : Prop :=
  ∀ cmd maxSize numParamRead params maxNumParams b,
    maxNumParams.toNat ≤ params.length → (∀ p ∈ params, 0 < toNat p.len) →
    ((receive cmd maxSize numParamRead params maxNumParams).val b).ret = 1 →
    AcceptedReply maxSize params b
        ((receive cmd maxSize numParamRead params maxNumParams).val b)
        ((receive cmd maxSize numParamRead params maxNumParams).state b) ∧
      ∀ m < ((receive cmd maxSize numParamRead params maxNumParams).state b).reads - b.reads,
        ∀ (numParamRead' : UInt8) (c : Bus),
          received maxSize c = (received maxSize b).take m →
          ((receive cmd maxSize numParamRead' params maxNumParams).val c).ret = 0

theorem acceptsReceived_receiveResponse : AcceptsReceived L (receiveResponse (L := L)) := by
  intro cmd maxSize numParamRead params maxNumParams b hmax hcaps hret
  have hval := val_receiveResponse cmd maxSize numParamRead params maxNumParams b hmax
  have hmem := mem_receiveResponse cmd maxSize numParamRead params maxNumParams b hmax
  have hreads := reads_receiveResponse cmd maxSize numParamRead params maxNumParams b hmax
  have hlt := parseReply_params_lt cmd maxNumParams (received maxSize b) hcaps
  rw [hval] at hret
  have hle := parseReply_reads_le hret
  obtain ⟨k, numParam, -, -, hcount, hn, hpayloads, -, -⟩ := parseReply_accepted hret
  obtain ⟨start, hs, hstart, hhs, hwidth, hslice⟩ := parseReply_slices hret
  have hcut : ∀ m < (parsed cmd maxSize params maxNumParams b).reads, ∀ (n : UInt8) (c : Bus),
      received maxSize c = (received maxSize b).take m →
      ((receiveResponse cmd maxSize n params maxNumParams).val c).ret = 0 := by
    intro m hm n c hc
    rw [val_receiveResponse _ _ _ _ _ _ hmax, parsed, hc]
    exact parseReply_take hm
  have hconsumed : ((receiveResponse cmd maxSize numParamRead params maxNumParams).state
      b).reads - b.reads = (parsed cmd maxSize params maxNumParams b).reads := by
    omega
  have hlen : (parsed cmd maxSize params maxNumParams b).payloads.length = numParam.toNat := by
    rw [parsed, hpayloads, length_takeFields, List.length_take, List.length_map, hn,
      toNat_limitCount]
    omega
  rw [hconsumed]
  refine ⟨⟨by rw [hreads]; exact Nat.add_le_add_left hle _, start + 2, hs,
    (parsed cmd maxSize params maxNumParams b).payloads, ?_, hhs, hwidth, ?_, ?_, hmem, ?_⟩,
    hcut⟩
  · rw [hval, hlen, parsed, hcount, Option.getD_some]
  · rw [hconsumed]
    exact hslice
  · rw [hconsumed]
    exact Nat.le_of_lt hstart
  · intro i hi
    rw [hval, hmem]
    obtain ⟨p, p', hp, hp', hdata, -, hlen', hread⟩ := processed_slice b.mem hlt hi
    refine ⟨p, p', hp, hp', hdata, hlen', ?_⟩
    intro hsep
    have hbytes := hread hsep
    rw [Memory.loadList_add] at hbytes
    rw [Param.bytes, hdata]
    exact (List.append_inj hbytes (by simp [hlen'])).1

/-- **Truncated replies are never accepted** by either decoder. -/
theorem decoders_accept_received :
    AcceptsReceived UInt8 receiveResponseCmd ∧ AcceptsReceived UInt16 receiveResponseBuffer :=
  ⟨acceptsReceived_receiveResponse, acceptsReceived_receiveResponse⟩

/-- A reply with two parameters, among other bytes. -/
def fullReply : Bus :=
  Bus.fresh fun _ => [7] ++ replyFrame UInt8 getRemoteDataCmd [[97, 98, 99], [80, 0]] ++ [1]

theorem decoders_accept_received_fullReply :
    AcceptedReply 48 twoBuffers fullReply
      ((receiveResponseCmd getRemoteDataCmd 48 0 twoBuffers 2).val fullReply)
      ((receiveResponseCmd getRemoteDataCmd 48 0 twoBuffers 2).state fullReply) :=
  (decoders_accept_received.1 getRemoteDataCmd 48 0 twoBuffers 2 fullReply (by decide)
    (by decide) (by decide)).1

end SpiDrv
end WiFiNINA
