import WiFiNINA.Exchanging.LockStep

/-!
# Nothing is kept between exchanges

The driver's own state has no part in what its functions do: neither what is left in the
transmit and receive buffers, nor whether the driver is initialised, nor how long the module
stays busy.  Nor have the bytes that the module shifts out while a request is transmitted, and
those of a reply behind its 255th.  Two runs of one function from states that agree on the
contents of the memory and on the replies to come return the same, transmit the same and store
the same.
-/

namespace WiFiNINA

open LengthCode SpiDrv

/-- `b` and `c` agree on the contents of the memory and on the replies that the module will
give, of which the next one comes after `next` more transfers; and the same has been transmitted
and stored since `b₀` and `c₀`. -/
structure Alike (next : ℕ) (b₀ c₀ b c : Bus) : Prop where
  load : ∀ a, b.mem.load a = c.mem.load a
  replies : ∀ k, (b.slave (2 * k + next)).take 255 = (c.slave (2 * k + next)).take 255
  transmitted : ∃ sent, b.transmitted = b₀.transmitted ++ sent ∧
    c.transmitted = c₀.transmitted ++ sent
  stored : ∃ new, b.mem.log = new ++ b₀.mem.log ∧ c.mem.log = new ++ c₀.mem.log

section Alike
variable {next next' : ℕ} {b₀ c₀ b c b' c' : Bus} {α β : Type}

theorem Alike.loadList (h : Alike next b₀ c₀ b c) (p : Ptr Obj) (n : ℕ) :
    b.mem.loadList p n = c.mem.loadList p n :=
  Memory.loadList_congr fun a _ => h.load a

/-- Steps of the two that transmit the same and do not touch the memory. -/
theorem Alike.transfer (h : Alike next b₀ c₀ b c) (sent : List (List UInt8))
    (hb : b'.transmitted = b.transmitted ++ sent) (hc : c'.transmitted = c.transmitted ++ sent)
    (hreplies : ∀ k, (b'.slave (2 * k + next')).take 255 = (c'.slave (2 * k + next')).take 255)
    (hbmem : b'.mem = b.mem) (hcmem : c'.mem = c.mem) : Alike next' b₀ c₀ b' c' := by
  obtain ⟨before, hb₀, hc₀⟩ := h.transmitted
  refine ⟨?_, hreplies, ⟨before ++ sent, ?_, ?_⟩, ?_⟩
  · rw [hbmem, hcmem]
    exact h.load
  · rw [hb, hb₀, List.append_assoc]
  · rw [hc, hc₀, List.append_assoc]
  · rw [hbmem, hcmem]
    exact h.stored

/-- Stores of the same values at the same places. -/
theorem Alike.store (h : Alike next b₀ c₀ b c) {m m' : Memory Obj UInt8} {new : List (Ptr Obj)}
    (hload : ∀ a, m.load a = m'.load a) (hb : m.log = new ++ b.mem.log)
    (hc : m'.log = new ++ c.mem.log) :
    Alike next b₀ c₀ { b with mem := m } { c with mem := m' } := by
  obtain ⟨before, hb₀, hc₀⟩ := h.stored
  refine ⟨hload, h.replies, h.transmitted, new ++ before, ?_, ?_⟩
  · rw [hb, hb₀, List.append_assoc]
  · rw [hc, hc₀, List.append_assoc]

theorem respects_loadList (p : Ptr Obj) (n : ℕ) :
    Prog.Respects (Alike next b₀ c₀) (Bus.loadList p n) :=
  fun _ _ h => ⟨h.loadList p n, h⟩

theorem respects_storeList (p : Ptr Obj) (cs : List UInt8) :
    Prog.Respects (Alike next b₀ c₀) (Bus.storeList p cs) := by
  intro b c h
  exact ⟨rfl, h.store (fun a => Memory.load_storeList_congr p cs (h.load a))
    (Memory.log_storeList b.mem p cs) (Memory.log_storeList c.mem p cs)⟩

theorem respects_memoryOp {W : Set (Ptr Obj)} {n : ℕ} {p : Prog Bus α} (h : MemoryOp W n p) :
    Prog.Respects (Alike next b₀ c₀) p := by
  cases h with
  | load p k => exact respects_loadList p k
  | store hW => exact respects_storeList _ _

end Alike

section Transfers
variable {b₀ c₀ : Bus} {L : Type} [LengthCode L UInt8]

/-- What the module shifts out while a request is transmitted is lost. -/
theorem carries_send {cmd numParam : UInt8} {params : List (Param L)}
    (hn : params.length = numParam.toNat) :
    Prog.Carries (Alike 1 b₀ c₀) (Alike 0 b₀ c₀) (send cmd numParam params) := by
  intro b c h
  have hbytes : (params.map fun p => p.bytes b.mem) = params.map fun p => p.bytes c.mem :=
    List.map_congr_left fun p _ => h.loadList p.data (toNat p.len)
  have hc := transmitted_send cmd numParam params c hn
  rw [← hbytes] at hc
  refine ⟨rfl, h.transfer _ (transmitted_send _ _ _ b hn) hc (fun k => ?_) (mem_send _ _ _ _ hn)
    (mem_send _ _ _ _ hn)⟩
  rw [slave_send _ _ _ _ hn, slave_send _ _ _ _ hn]
  exact h.replies k

omit [LengthCode L UInt8] in
/-- The same stores are logged, whatever the memories hold. -/
theorem log_storeParams_eq (m m' : Memory Obj UInt8) (params : List (Param L))
    (xs : List (List UInt8)) :
    ∃ new, (storeParams m params xs).log = new ++ m.log ∧
      (storeParams m' params xs).log = new ++ m'.log := by
  induction params generalizing m m' xs with
  | nil => exact ⟨[], rfl, rfl⟩
  | cons p params ih =>
      cases xs with
      | nil => exact ⟨[], rfl, rfl⟩
      | cons x xs =>
          obtain ⟨new, hlog, hlog'⟩ := ih (m.storeList p.data (x ++ [0]))
            (m'.storeList p.data (x ++ [0])) xs
          refine ⟨new ++ (p.data.region (x ++ [0]).length).reverse, ?_, ?_⟩
          · rw [storeParams_cons, hlog, Memory.log_storeList, List.append_assoc]
          · rw [storeParams_cons, hlog', Memory.log_storeList, List.append_assoc]

theorem received_congr {maxSize : UInt16} {b c : Bus}
    (h : (b.slave 0).take 255 = (c.slave 0).take 255) :
    received maxSize b = received maxSize c := by
  have hwindow : window maxSize = min (window maxSize) 255 :=
    (Nat.min_eq_left (Nat.min_le_right _ _)).symm
  rw [received, received, hwindow, ← List.take_take, ← List.take_take, h]

theorem carries_receiveResponse {cmd numParamRead maxNumParams : UInt8} {maxSize : UInt16}
    {params : List (Param L)} (hmax : maxNumParams.toNat ≤ params.length) :
    Prog.Carries (Alike 0 b₀ c₀) (Alike 1 b₀ c₀)
      (receiveResponse cmd maxSize numParamRead params maxNumParams) := by
  intro b c h
  have hparsed : parsed cmd maxSize params maxNumParams b =
      parsed cmd maxSize params maxNumParams c := by
    rw [parsed, parsed, received_congr (h.replies 0)]
  obtain ⟨before, hb, hc⟩ := h.transmitted
  obtain ⟨stored, hblog, hclog⟩ := h.stored
  obtain ⟨new, hbnew, hcnew⟩ := log_storeParams_eq b.mem c.mem params
    (parsed cmd maxSize params maxNumParams c).payloads
  refine ⟨?_, ?_, fun k => ?_, ⟨before ++ [List.replicate (window maxSize) 0], ?_, ?_⟩,
    new ++ stored, ?_, ?_⟩
  · rw [val_receiveResponse _ _ _ _ _ _ hmax, val_receiveResponse _ _ _ _ _ _ hmax, hparsed]
  · rw [mem_receiveResponse _ _ _ _ _ _ hmax, mem_receiveResponse _ _ _ _ _ _ hmax, hparsed]
    exact fun a => load_storeParams_congr params _ (h.load a)
  · rw [slave_receiveResponse _ _ _ _ _ _ hmax, slave_receiveResponse _ _ _ _ _ _ hmax]
    exact h.replies (k + 1)
  · rw [transmitted_receiveResponse _ _ _ _ _ _ hmax, hb, List.append_assoc]
  · rw [transmitted_receiveResponse _ _ _ _ _ _ hmax, hc, List.append_assoc]
  · rw [mem_receiveResponse _ _ _ _ _ _ hmax, hparsed, hbnew, hblog, List.append_assoc]
  · rw [mem_receiveResponse _ _ _ _ _ _ hmax, hcnew, hclog, List.append_assoc]

end Transfers

section Operations
variable {C : Set UInt8} {W : Set (Ptr Obj)} {α : Type} {n : ℕ} {b₀ c₀ : Bus}

theorem respects_elementary {p : Prog Bus α} (h : Elementary C W n p) :
    Prog.Respects (Alike 1 b₀ c₀) p := by
  cases h with
  | memory h => exact respects_memoryOp h
  | begin =>
      exact fun b c h => ⟨rfl, h.transfer [] (by simp [begin, Bus.transmitted])
        (by simp [begin, Bus.transmitted]) h.replies rfl rfl⟩
  | end' =>
      exact fun b c h => ⟨rfl, h.transfer [] (by simp [end', Bus.transmitted])
        (by simp [end', Bus.transmitted]) h.replies rfl rfl⟩
  | @exchange L L' β _ _ cmd cmd' numParam maxNumParams inParams maxSize params mid hcmd hframe
      hn hmax hwindow houts hmid numParamRead =>
      have hlen : (inParams.take numParam.toNat).length = numParam.toNat := by simpa using hn
      rw [← send_take]
      exact (carries_send hlen).bind fun _ _ _ =>
        (hmid.respects (fun _ => trivial) respects_memoryOp).bind fun _ _ _ =>
          carries_receiveResponse hmax

/-- **Isolation**: programs that are composed of exchanges keep nothing between them. -/
theorem Exchanging.respects {p : Prog Bus α} (h : Exchanging C W n p) :
    Prog.Respects (Alike 1 b₀ c₀) p :=
  Composed.respects (fun _ => trivial) respects_elementary h

end Operations

end WiFiNINA
