import WiFiNINA.SpiDrv.Decode

/-!
# Exchanges

One specification for the request and reply that every function of the upper
drivers consists of: the request goes out first, and the outcome is the parse of
what the module shifts out during the second transfer.
-/

namespace WiFiNINA

open LengthCode

namespace SpiDrv

variable {L L' : Type} [LengthCode L UInt8] [LengthCode L' UInt8]

/-- The parse of the reply that an exchange from `b` receives. -/
def answered (cmd : UInt8) (maxSize : UInt16) (outParams : List (Param L'))
    (maxNumParams : UInt8) (b : Bus) : Parsed :=
  parseReply cmd maxNumParams (outParams.map Param.len) ((b.slave 1).take (window maxSize))

/-- The memory has no part in what is received. -/
@[simp] theorem answered_mem (cmd : UInt8) (maxSize : UInt16) (outParams : List (Param L'))
    (maxNumParams : UInt8) (b : Bus) (m : Memory Obj UInt8) :
    answered cmd maxSize outParams maxNumParams { b with mem := m } =
      answered cmd maxSize outParams maxNumParams b := rfl

section Exchange
variable (cmd numParam : UInt8) (inParams : List (Param L)) (maxSize : UInt16)
  (outParams : List (Param L')) (maxNumParams : UInt8) (b : Bus)

theorem parsed_send (hn : inParams.length = numParam.toNat) :
    parsed cmd maxSize outParams maxNumParams ((send cmd numParam inParams).state b) =
      answered cmd maxSize outParams maxNumParams b := by
  rw [parsed, received, slave_send _ _ _ _ hn]
  rfl

theorem ret_exchange (hn : inParams.length = numParam.toNat)
    (hmax : maxNumParams.toNat ≤ outParams.length) :
    ((exchange cmd numParam inParams maxSize outParams maxNumParams).val b).ret =
      (answered cmd maxSize outParams maxNumParams b).ret := by
  simp only [exchange, Prog.val_bind, Bus.state_uninit]
  rw [val_receiveResponse _ _ _ _ _ _ hmax, parsed_send _ _ _ _ _ _ _ hn]

theorem params_exchange (hn : inParams.length = numParam.toNat)
    (hmax : maxNumParams.toNat ≤ outParams.length) :
    ((exchange cmd numParam inParams maxSize outParams maxNumParams).val b).params =
      setLens outParams (answered cmd maxSize outParams maxNumParams b).payloads := by
  simp only [exchange, Prog.val_bind, Bus.state_uninit]
  rw [val_receiveResponse _ _ _ _ _ _ hmax, parsed_send _ _ _ _ _ _ _ hn]

/-- The decoder does not add or drop out parameters. -/
theorem length_params_exchange (hn : inParams.length = numParam.toNat)
    (hmax : maxNumParams.toNat ≤ outParams.length) :
    ((exchange cmd numParam inParams maxSize outParams maxNumParams).val b).params.length =
      outParams.length := by
  rw [params_exchange _ _ _ _ _ _ _ hn hmax, length_setLens]

theorem mem_exchange (hn : inParams.length = numParam.toNat)
    (hmax : maxNumParams.toNat ≤ outParams.length) :
    ((exchange cmd numParam inParams maxSize outParams maxNumParams).state b).mem =
      storeParams b.mem outParams (answered cmd maxSize outParams maxNumParams b).payloads := by
  simp only [exchange, Prog.state_bind, Bus.state_uninit]
  rw [mem_receiveResponse _ _ _ _ _ _ hmax, parsed_send _ _ _ _ _ _ _ hn, mem_send _ _ _ _ hn]

/-- Each destination of a processed parameter holds its bytes and a zero. -/
theorem loadList_exchange (hn : inParams.length = numParam.toNat)
    (hmax : maxNumParams.toNat ≤ outParams.length) (hsep : Separated outParams)
    (hcaps : ∀ p ∈ outParams, 0 < toNat p.len) {p : Param L'} {x : List UInt8}
    (hpx : (p, x) ∈ outParams.zip (answered cmd maxSize outParams maxNumParams b).payloads) :
    ((exchange cmd numParam inParams maxSize outParams maxNumParams).state b).mem.loadList
      p.data (x.length + 1) = x ++ [0] := by
  rw [mem_exchange _ _ _ _ _ _ _ hn hmax]
  exact loadList_storeParams b.mem hsep (parseReply_params_lt cmd maxNumParams _ hcaps) hpx

theorem slave_exchange (hn : inParams.length = numParam.toNat)
    (hmax : maxNumParams.toNat ≤ outParams.length) :
    ((exchange cmd numParam inParams maxSize outParams maxNumParams).state b).slave =
      fun k => b.slave (k + 2) := by
  simp only [exchange, Prog.state_bind, Bus.state_uninit]
  rw [slave_receiveResponse _ _ _ _ _ _ hmax, slave_send _ _ _ _ hn]

theorem transmitted_exchange (hn : inParams.length = numParam.toNat)
    (hmax : maxNumParams.toNat ≤ outParams.length) :
    ((exchange cmd numParam inParams maxSize outParams maxNumParams).state b).transmitted =
      b.transmitted ++ [frame L cmd (inParams.map fun p => p.bytes b.mem),
        List.replicate (window maxSize) 0] := by
  simp only [exchange, Prog.state_bind, Bus.state_uninit]
  rw [transmitted_receiveResponse _ _ _ _ _ _ hmax, transmitted_send _ _ _ _ hn,
    List.append_assoc, List.singleton_append]

/-- What the parameters of a request take in its frame. -/
def paramsSize (params : List (Param L)) : ℕ := (params.map fun p => width L + toNat p.len).sum

omit [LengthCode L' UInt8] in
theorem fieldsSize_bytes (params : List (Param L)) (m : Memory Obj UInt8) :
    fieldsSize L (params.map fun p => p.bytes m) = paramsSize params := by
  simp [fieldsSize, paramsSize, List.map_map, Function.comp_def]

end Exchange

/-- The bytes received while the module sends a frame that fits the window. -/
theorem take_window {maxSize : UInt16} {f : List UInt8} (rest : List UInt8)
    (h : f.length ≤ window maxSize) :
    ∃ rest', (f ++ rest).take (window maxSize) = f ++ rest' :=
  ⟨_, by rw [List.take_append, List.take_of_length_le h]⟩

/-- An exchange that the module answers with a reply frame. -/
theorem answered_replyFrame {cmd : UInt8} (maxSize : UInt16) (outs : List (Param L))
    (maxNumParams : UInt8) {xs : List (List UInt8)} {rest : List UInt8} (b : Bus)
    (hslave : b.slave 1 = replyFrame L cmd xs ++ rest) (hpos : 1 ≤ xs.length)
    (hcount : xs.length ≤ maxNumParams.toNat)
    (hwindow : (replyFrame L cmd xs).length ≤ window maxSize) :
    ∃ rest', (answered cmd maxSize outs maxNumParams b).ret = truth
        (((fields L xs ++ endCmd :: rest').drop
          (takeFields 0 ((outs.map Param.len).take xs.length)
            (fields L xs ++ endCmd :: rest')).2).headD 0 == endCmd) ∧
      (answered cmd maxSize outs maxNumParams b).payloads =
        (takeFields 0 ((outs.map Param.len).take xs.length)
          (fields L xs ++ endCmd :: rest')).1 := by
  obtain ⟨rest', hreceived⟩ := take_window rest hwindow
  refine ⟨rest', ?_⟩
  rw [answered, hslave, hreceived, parseReply_replyFrame _ hpos hcount]
  exact ⟨rfl, rfl⟩

/-- From `b` the driver went on to `b'`: it took back nothing of what it transmitted, and
wrote no byte behind the end of `txBuffer`. -/
structure Continues (b b' : Bus) : Prop where
  transmitted : b.transmitted <+: b'.transmitted
  txBuffer : ∃ new, b'.txBuffer.log = new ++ b.txBuffer.log ∧
    ∀ a ∈ new, a.off < spiMaxTxBuffer

theorem Continues.refl (b : Bus) : Continues b b := ⟨List.prefix_rfl, [], rfl, by simp⟩

theorem Continues.trans {b c d : Bus} (h : Continues b c) (h' : Continues c d) :
    Continues b d := by
  obtain ⟨new, hlog, hnew⟩ := h.txBuffer
  obtain ⟨new', hlog', hnew'⟩ := h'.txBuffer
  refine ⟨h.transmitted.trans h'.transmitted, new' ++ new, by rw [hlog', hlog]; simp, ?_⟩
  intro a ha
  rcases List.mem_append.mp ha with ha | ha
  · exact hnew' a ha
  · exact hnew a ha

theorem Continues.off_lt {b b' : Bus} (h : Continues b b') :
    ∀ a ∈ b'.txBuffer.since b.txBuffer, a.off < spiMaxTxBuffer := by
  obtain ⟨new, hlog, hnew⟩ := h.txBuffer
  rwa [Memory.since_of_log hlog]

theorem Continues.mem (b : Bus) (m : Memory Obj UInt8) : Continues b { b with mem := m } :=
  ⟨List.prefix_rfl, [], rfl, by simp⟩

/-- Programs that work on the memory only. -/
theorem continues_of_mem {α : Type} {p : Prog Bus α}
    (h : ∀ b, ∃ m, p.state b = { b with mem := m }) : Prog.Guarantees Continues p := by
  intro b
  obtain ⟨m, hstate⟩ := h b
  rw [hstate]
  exact Continues.mem b m

/-- Programs that continue compose. -/
theorem continues_bind {α β : Type} {p : Prog Bus α} {f : α → Prog Bus β}
    (hp : Prog.Guarantees Continues p) (hf : ∀ a, Prog.Guarantees Continues (f a)) :
    Prog.Guarantees Continues (p >>= f) :=
  Prog.Guarantees.bind (R := Continues) Continues.trans hp hf

theorem off_lt_of_mem_region {a : Ptr Unit} {n : ℕ} (h : a ∈ ((txAt 0).region n).reverse) :
    a.off < n := by
  obtain ⟨i, hi, rfl⟩ := Ptr.mem_region.mp (List.mem_reverse.mp h)
  simpa [txAt] using hi

theorem continues_send {cmd numParam : UInt8} {params : List (Param L)}
    (hn : params.length = numParam.toNat) (hfits : 3 + paramsSize params ≤ 251) :
    Prog.Guarantees Continues (send cmd numParam params) := by
  intro b
  have hframe : Fits L (params.map fun p => p.bytes b.mem) := by
    rwa [fits_iff, fieldsSize_bytes]
  refine ⟨⟨_, (transmitted_send _ _ _ b hn).symm⟩,
    ((txAt 0).region (frame L cmd (params.map fun p => p.bytes b.mem)).length).reverse,
    by rw [txBuffer_send _ _ _ _ hn, Memory.log_storeList], ?_⟩
  · intro a ha
    rw [fits_iff_length L cmd] at hframe
    exact (off_lt_of_mem_region ha).trans_le hframe

theorem continues_receiveResponse {cmd : UInt8} {maxSize : UInt16} {numParamRead : UInt8}
    {params : List (Param L)} {maxNumParams : UInt8}
    (hmax : maxNumParams.toNat ≤ params.length) :
    Prog.Guarantees Continues (receiveResponse cmd maxSize numParamRead params maxNumParams) := by
  intro b
  refine ⟨⟨_, (transmitted_receiveResponse _ _ _ _ _ b hmax).symm⟩,
    ((txAt 0).region (List.replicate (window maxSize) (0 : UInt8)).length).reverse,
    by rw [txBuffer_receiveResponse _ _ _ _ _ _ hmax, Memory.log_storeList], ?_⟩
  · intro a ha
    have h := off_lt_of_mem_region ha
    rw [List.length_replicate] at h
    exact h.trans_le (Nat.min_le_right _ _)

/-- An exchange whose request fits. -/
theorem continues_exchange {cmd numParam : UInt8} {inParams : List (Param L)}
    {maxSize : UInt16} {outParams : List (Param L')} {maxNumParams : UInt8}
    (hn : inParams.length = numParam.toNat) (hmax : maxNumParams.toNat ≤ outParams.length)
    (hfits : 3 + paramsSize inParams ≤ 251) :
    Prog.Guarantees Continues
      (exchange cmd numParam inParams maxSize outParams maxNumParams) :=
  continues_bind (continues_send hn hfits) fun _ =>
    continues_bind (fun b => Continues.refl b) fun _ => continues_receiveResponse hmax

end SpiDrv
end WiFiNINA
