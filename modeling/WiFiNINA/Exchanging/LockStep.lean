import WiFiNINA.Exchanging
import WiFiNINA.SpiDrv.Requests

/-!
# In lock step with the module

Whatever a function of the library does on the wire is a list of whole exchanges: for each of
them two transfers, a frame and then zeros, as many as the window of its reply.  After any
number of functions the module is therefore asked for its next request, never for the rest of a
reply, even if it had not answered what was asked, or not at all.  What is stored on the way
stays inside the variables of the library and the memory lent to the function.
-/

namespace WiFiNINA

open LengthCode SpiDrv

/-- A request, and how many bytes are fetched for its reply. -/
structure Exchange where
  cmd : UInt8
  args : List (List UInt8)
  window : ℕ

namespace Exchange

/-- The two transfers of an exchange. -/
def wire (e : Exchange) : List (List UInt8) :=
  [requestFrame e.cmd e.args, List.replicate e.window 0]

/-- The counts and lengths fit their fields, and the window is one of those the decoders use. -/
structure Valid (e : Exchange) : Prop where
  count : e.args.length < 256
  args : ∀ x ∈ e.args, x.length < lengthBound e.cmd
  window : 16 ≤ e.window ∧ e.window ≤ 255

/-- The request has room in `txBuffer`. -/
def Fits (e : Exchange) : Prop := (requestFrame e.cmd e.args).length ≤ spiMaxTxBuffer

end Exchange

/-- From `b` to `b'` these exchanges were made. -/
structure Performed (es : List Exchange) (b b' : Bus) : Prop where
  transmitted : b'.transmitted = b.transmitted ++ es.flatMap Exchange.wire
  slave : b'.slave = fun k => b.slave (k + 2 * es.length)
  txBuffer : ∃ new, b'.txBuffer.log = new ++ b.txBuffer.log ∧
    ((∀ a ∈ new, a.off < spiMaxTxBuffer) ↔ ∀ e ∈ es, e.Fits)

/-- From `b` to `b'` at most `n` exchanges were made, with commands of `C`, and nothing was
stored outside `W`. -/
structure Advances (C : Set UInt8) (W : Set (Ptr Obj)) (n : ℕ) (b b' : Bus) : Prop where
  exchanges : ∃ es : List Exchange, es.length ≤ n ∧ (∀ e ∈ es, e.cmd ∈ C ∧ e.Valid) ∧
    Performed es b b'
  memory : Memory.Confined W b.mem b'.mem

section Advances
variable {C C' : Set UInt8} {W W' : Set (Ptr Obj)} {n n' : ℕ} {b b' b'' : Bus}
  {es es' : List Exchange}

/-- Nothing was transferred. -/
theorem performed_nil (htransmitted : b'.transmitted = b.transmitted) (hslave : b'.slave = b.slave)
    (htxBuffer : b'.txBuffer = b.txBuffer) : Performed [] b b' where
  transmitted := by simpa using htransmitted
  slave := by simpa using hslave
  txBuffer := ⟨[], by rw [htxBuffer, List.nil_append], by simp⟩

theorem Performed.append (h : Performed es b b') (h' : Performed es' b' b'') :
    Performed (es ++ es') b b'' where
  transmitted := by
    rw [h'.transmitted, h.transmitted, List.flatMap_append, List.append_assoc]
  slave := by
    rw [h'.slave, h.slave, List.length_append]
    funext k
    exact congrArg b.slave (by omega)
  txBuffer := by
    obtain ⟨new, hlog, hnew⟩ := h.txBuffer
    obtain ⟨new', hlog', hnew'⟩ := h'.txBuffer
    refine ⟨new' ++ new, by rw [hlog', hlog, List.append_assoc], ?_⟩
    rw [List.forall_mem_append, List.forall_mem_append, hnew, hnew', and_comm]

theorem Advances.trans (h : Advances C W n b b') (h' : Advances C W n' b' b'') :
    Advances C W (n + n') b b'' := by
  obtain ⟨es, hlen, hes, hperformed⟩ := h.exchanges
  obtain ⟨es', hlen', hes', hperformed'⟩ := h'.exchanges
  refine ⟨⟨es ++ es', ?_, List.forall_mem_append.mpr ⟨hes, hes'⟩,
    hperformed.append hperformed'⟩, h.memory.trans h'.memory⟩
  rw [List.length_append]
  omega

theorem Advances.mono (h : Advances C W n b b') (hC : C ⊆ C') (hW : W ⊆ W') (hn : n ≤ n') :
    Advances C' W' n' b b' := by
  obtain ⟨es, hlen, hes, hperformed⟩ := h.exchanges
  exact ⟨⟨es, hlen.trans hn, fun e he => ⟨hC (hes e he).1, (hes e he).2⟩, hperformed⟩,
    h.memory.mono hW⟩

/-- Steps that transfer nothing. -/
theorem advances_of_performed (h : Performed [] b b') (hmem : Memory.Confined W b.mem b'.mem) :
    Advances C W 0 b b' := ⟨⟨[], le_rfl, List.forall_mem_nil _, h⟩, hmem⟩

theorem addsUp_advances : AddsUp (Advances C W) where
  refl b := advances_of_performed (performed_nil rfl rfl rfl) (.refl b.mem)
  trans := Advances.trans
  mono h hn := h.mono (fun _ => id) (fun _ => id) hn

end Advances

section Operations
variable {C : Set UInt8} {W : Set (Ptr Obj)} {α : Type} {n : ℕ}

/-- Only the memory changes, and only in `W`. -/
def InMemory (W : Set (Ptr Obj)) (_n : ℕ) (b b' : Bus) : Prop :=
  ∃ m, b' = { b with mem := m } ∧ Memory.Confined W b.mem m

theorem addsUp_inMemory : AddsUp (InMemory W) where
  refl b := ⟨b.mem, rfl, .refl b.mem⟩
  trans h h' := by
    obtain ⟨m, rfl, hm⟩ := h
    obtain ⟨m', rfl, hm'⟩ := h'
    exact ⟨m', rfl, hm.trans hm'⟩
  mono h _ := h

theorem inMemory_memoryOp {p : Prog Bus α} (h : MemoryOp W n p) :
    Prog.Guarantees (InMemory W n) p := by
  intro b
  cases h with
  | load p k => exact ⟨b.mem, rfl, .refl b.mem⟩
  | store hW => exact ⟨_, rfl, Memory.confined_storeList b.mem hW⟩

theorem inMemory_of_composed {p : Prog Bus α} (h : Composed Always (MemoryOp W) n p) (b : Bus) :
    ∃ m, p.state b = { b with mem := m } ∧ Memory.Confined W b.mem m :=
  h.guarantees addsUp_inMemory (fun _ _ _ => trivial) (fun hb c _ => inMemory_memoryOp hb c) b
    trivial

/-- No parameter is stored beyond the reach of its capacity. -/
theorem confined_storeParams {L : Type} [LengthCode L UInt8] (m : Memory Obj UInt8)
    {params : List (Param L)} {xs : List (List UInt8)}
    (houts : ∀ p ∈ params, ∀ a ∈ p.data.region (reach p.len), a ∈ W)
    (hxs : List.Forall₂ (fun x cap => x.length < reach cap) xs
      ((params.map Param.len).take xs.length)) :
    Memory.Confined W m (storeParams m params xs) := by
  induction params generalizing m xs with
  | nil => exact .refl m
  | cons p params ih =>
      cases xs with
      | nil => exact .refl m
      | cons x xs =>
          obtain ⟨hp, hparams⟩ := List.forall_mem_cons.mp houts
          rw [List.map_cons, List.length_cons, List.take_succ_cons, List.forall₂_cons] at hxs
          refine .trans (Memory.confined_storeList m fun a ha => hp a ?_) (ih _ hparams hxs.2)
          have hle : (x ++ [0]).length ≤ reach p.len := by
            rw [List.length_append]
            exact hxs.1
          exact Ptr.region_subset hle ha

/-- The stores to `txBuffer`: the frame of the request, and the zeros of the fetch. -/
theorem performed_exchange {L L' β : Type} [LengthCode L UInt8] [LengthCode L' UInt8]
    {cmd numParam maxNumParams : UInt8} {inParams : List (Param L)} {params : List (Param L')}
    {mid : Prog Bus β} (hframe : Framed L cmd) (hn : inParams.length = numParam.toNat)
    (hmax : maxNumParams.toNat ≤ params.length)
    (hmid : ∀ b, ∃ m, mid.state b = { b with mem := m }) (cmd' : UInt8) (maxSize : UInt16)
    (numParamRead : β → UInt8) (b : Bus) :
    Performed [⟨cmd, inParams.map fun p => p.bytes b.mem, window maxSize⟩] b
      ((send cmd numParam inParams >>= fun _ => mid >>= fun x =>
        receiveResponse cmd' maxSize (numParamRead x) params maxNumParams).state b) := by
  obtain ⟨m, hstate⟩ := hmid ((send cmd numParam inParams).state b)
  simp only [Prog.state_bind, hstate]
  constructor
  · rw [transmitted_receiveResponse _ _ _ _ _ _ hmax]
    change ((send cmd numParam inParams).state b).transmitted ++ _ = _
    rw [transmitted_send _ _ _ _ hn, hframe.frame_eq, List.append_assoc]
    rfl
  · rw [slave_receiveResponse _ _ _ _ _ _ hmax, slave_send _ _ _ _ hn]
    rfl
  · refine ⟨((txAt 0).region (window maxSize)).reverse ++ ((txAt 0).region
      (frame L cmd (inParams.map fun p => p.bytes b.mem)).length).reverse, ?_, ?_⟩
    · rw [txBuffer_receiveResponse _ _ _ _ _ _ hmax, Memory.log_storeList, List.length_replicate]
      change _ ++ ((send cmd numParam inParams).state b).txBuffer.log = _
      rw [txBuffer_send _ _ _ _ hn, Memory.log_storeList, List.append_assoc]
    · have hfetch : ∀ a ∈ ((txAt 0).region (window maxSize)).reverse, a.off < spiMaxTxBuffer :=
        fun a ha => (off_lt_of_mem_region ha).trans_le (Nat.min_le_right _ _)
      have hrequest := bounded_iff_fits (L := L) cmd (inParams.map fun p => p.bytes b.mem)
        b.txBuffer
      rw [Memory.since_storeList, fits_iff_length L cmd, hframe.frame_eq] at hrequest
      rw [List.forall_mem_append, and_iff_right hfetch, hframe.frame_eq, hrequest,
        List.forall_mem_singleton, Exchange.Fits]

theorem performed_request {L L' : Type} [LengthCode L UInt8] [LengthCode L' UInt8]
    {cmd numParam maxNumParams : UInt8} {inParams : List (Param L)} {maxSize : UInt16}
    {params : List (Param L')} {args : List (List UInt8)} {b : Bus} (hframe : Framed L cmd)
    (hn : inParams.length = numParam.toNat) (hmax : maxNumParams.toNat ≤ params.length)
    (hargs : (inParams.map fun p => p.bytes b.mem) = args) :
    Performed [⟨cmd, args, window maxSize⟩] b
      ((exchange cmd numParam inParams maxSize params maxNumParams).state b) := by
  rw [← hargs]
  have huninit : ∀ c : Bus, ∃ m, (Bus.uninit .paramsRead 1).state c = { c with mem := m } :=
    fun c => ⟨c.mem, rfl⟩
  exact performed_exchange hframe hn hmax huninit cmd maxSize (fun x => x.headD 0) b

theorem advances_exchange {L L' β : Type} [LengthCode L UInt8] [LengthCode L' UInt8]
    {cmd cmd' numParam maxNumParams : UInt8} {inParams : List (Param L)} {maxSize : UInt16}
    {params : List (Param L')} {mid : Prog Bus β} (hcmd : cmd ∈ C) (hframe : Framed L cmd)
    (hn : numParam.toNat ≤ inParams.length) (hmax : maxNumParams.toNat ≤ params.length)
    (hwindow : 16 ≤ maxSize.toNat)
    (houts : ∀ p ∈ params, ∀ a ∈ p.data.region (reach p.len), a ∈ W)
    (hmid : Composed Always (MemoryOp W) 0 mid) (numParamRead : β → UInt8) :
    Prog.Guarantees (Advances C W 1) (send cmd numParam inParams >>= fun _ => mid >>= fun x =>
      receiveResponse cmd' maxSize (numParamRead x) params maxNumParams) := by
  intro b
  have hlen : (inParams.take numParam.toNat).length = numParam.toNat := by simpa using hn
  rw [← send_take]
  have hperformed := performed_exchange hframe hlen hmax
    (fun c => (inMemory_of_composed hmid c).imp fun _ h => h.1) cmd' maxSize numParamRead b
  refine ⟨⟨_, le_rfl, List.forall_mem_singleton.mpr ⟨hcmd, ?_, ?_, ?_⟩, hperformed⟩, ?_⟩
  · rw [List.length_map, hlen]
    exact numParam.toNat_lt
  · rw [← hframe.bound_eq]
    exact bytes_length_lt _ b.mem
  · exact ⟨Nat.le_min.mpr ⟨hwindow, by decide⟩, Nat.min_le_right _ _⟩
  · obtain ⟨m, hstate, hm⟩ := inMemory_of_composed hmid
      ((send cmd numParam (inParams.take numParam.toNat)).state b)
    rw [mem_send _ _ _ _ hlen] at hm
    simp only [Prog.state_bind, hstate]
    rw [mem_receiveResponse _ _ _ _ _ _ hmax]
    exact hm.trans (confined_storeParams m houts (parseReply_lt_reach _ _ _ _))

theorem advances_elementary {p : Prog Bus α} (h : Elementary C W n p) :
    Prog.Guarantees (Advances C W n) p := by
  cases h with
  | memory h =>
      intro b
      obtain ⟨m, hstate, hm⟩ := inMemory_memoryOp h b
      have hfree : Advances C W 0 b (p.state b) := by
        rw [hstate]
        exact advances_of_performed (performed_nil rfl rfl rfl) hm
      exact hfree.mono (fun _ => id) (fun _ => id) (Nat.zero_le n)
  | begin =>
      exact fun b => advances_of_performed
        (performed_nil (by simp [begin, Bus.transmitted]) rfl rfl) (.refl b.mem)
  | end' =>
      exact fun b => advances_of_performed
        (performed_nil (by simp [end', Bus.transmitted]) rfl rfl) (.refl b.mem)
  | exchange hcmd hframe hn hmax hwindow houts hmid numParamRead =>
      exact advances_exchange hcmd hframe hn hmax hwindow houts hmid numParamRead

/-- **In lock step**: what is composed of exchanges leaves whole exchanges on the wire. -/
theorem Exchanging.advances {p : Prog Bus α} (h : Exchanging C W n p) :
    Prog.Guarantees (Advances C W n) p :=
  fun b => Composed.guarantees addsUp_advances (fun _ _ _ => trivial)
    (fun hb c _ => advances_elementary hb c) h b trivial

end Operations

end WiFiNINA
