import WiFiNINA.Lib.Fifo
import WiFiNINA.WiFiSocketBuffer.Calls

/-!
# The socket buffers are queues

The bytes of a socket's window, in order, are a queue.  The calls do to these queues
what the operations of a bank do, where a queue that has run empty is offered what the
module answers to a fetch.
-/

namespace WiFiNINA

open SpiDrv ServerDrv World WiFiSocketBuffer

/-- The bytes still buffered for a socket. -/
def queue (w : World) (s : ℕ) : List UInt8 :=
  w.bus.mem.loadList (w.buffers s).head (w.buffers s).length.toNat

/-- What a fetch for a socket adds to its queue: nothing, or the whole block. -/
def offered (w : World) (s : ℕ) : List UInt8 :=
  if (getDataBuf (UInt8.ofNat s) (block w s) sizeVar).val (fetching w) = 0 then []
  else ((getDataBuf (UInt8.ofNat s) (block w s) sizeVar).state (fetching w)).mem.loadList
    (block w s) 255

section Queue
variable {w w' : World} {s t : ℕ}

@[simp] theorem length_queue (w : World) (s : ℕ) :
    (queue w s).length = (w.buffers s).length.toNat := by
  simp [queue]

theorem queue_of_length (h : (w.buffers s).length = 0) : queue w s = [] := by
  simp [queue, h]

theorem queue_eq_nil (h : Owned w) (hs : s < wifiMaxSockNum) :
    queue w s = [] ↔ (w.buffers s).length = 0 := by
  have hpos := (h.length_le hs).1
  rw [← List.length_eq_zero_iff, length_queue]
  omega

/-- A queue depends on the heap only. -/
theorem queue_congr (h : (w.buffers t).Placed) (hbuffers : w'.buffers t = w.buffers t)
    (hmem : ∀ p : Ptr Obj, p.obj = (w.buffers t).data.obj → p.obj.IsHeap →
      w'.bus.mem.load p = w.bus.mem.load p) : queue w' t = queue w t := by
  rw [queue, queue, hbuffers]
  rcases h with hempty | ⟨hhead, hheap⟩
  · simp [hempty, Entry.empty]
  · refine Memory.loadList_congr fun p hp => hmem p ?_ ?_
    · rw [Ptr.obj_of_mem_region hp, hhead]
    · rwa [Ptr.obj_of_mem_region hp, hhead]

theorem queue_of_sameHeap {b : Bus} (h : (w.buffers t).Placed) (hb : SameHeap w.bus b) :
    queue { w with bus := b } t = queue w t :=
  queue_congr h rfl fun p _ hp => hb p hp

/-- A fetch for one socket does not go to the block of another. -/
theorem Owned.block_ne (h : Owned w) (hs : s < wifiMaxSockNum) (ht : t < wifiMaxSockNum)
    (hts : t ≠ s) (hne : (w.buffers t).data ≠ nullPtr) :
    (w.buffers t).data.obj ≠ (block w s).obj := by
  obtain ⟨id, hdata, hlive⟩ := (h.entries t ht).data_heap hne
  obtain ⟨id', hblock, -⟩ := h.block_heap hs
  intro hobj
  have hsame : (w.buffers t).data = block w s := by
    rw [hdata, hblock] at hobj ⊢
    simpa using hobj
  by_cases hnull : (w.buffers s).data = nullPtr
  · rw [block, if_pos hnull] at hsame
    exact h.data_ne_next ht hsame
  · rw [block, if_neg hnull] at hsame
    exact hts (h.unshared t ht s hs hne hsame)

/-- Refilling replaces an empty window by what the fetch brings. -/
theorem queue_refill_held (h : Held w) (hs : s < wifiMaxSockNum) :
    queue (refillState w s) s =
      if (w.buffers s).length = 0 then offered w s else queue w s := by
  obtain ⟨hne, hstate⟩ | ⟨hzero, indexed, hstate⟩ := h.refill_cases hs
  · rw [hstate, if_neg hne]
    rfl
  · have hval := val_getDataBuf (UInt8.ofNat s) (block w s) (sized_fetching w)
    rw [fetch_fetching] at hval
    rw [if_pos hzero, hstate, offered, hval]
    by_cases hlen : fetchedLength (fetch w.bus) = 0
    · simp [queue, refilled, hlen]
    · simp [queue, refilled, hlen]

/-- Refilling offers the queue what the fetch brings. -/
theorem queue_refill (h : Ready w) (hs : s < wifiMaxSockNum) :
    queue (refillState w s) s = Fifo.refill (queue w s) (offered w s) := by
  rw [queue_refill_held h.held hs, Fifo.refill]
  exact if_congr (queue_eq_nil h.owned hs).symm rfl rfl

theorem queue_refill_of_ne (h : Held w) (hs : s < wifiMaxSockNum) (ht : t < wifiMaxSockNum)
    (hts : t ≠ s) : queue (refillState w s) t = queue w t := by
  obtain ⟨-, hstate⟩ | ⟨-, indexed, hstate⟩ := h.refill_cases hs
  · rw [hstate]
    rfl
  · rw [hstate]
    refine queue_congr (h.placed t ht) (by simp [Function.update_of_ne hts]) ?_
    intro p hp hheap
    have hnull : (w.buffers t).data ≠ nullPtr := fun hnull => hheap.ne_null (by rw [hp, hnull]; rfl)
    rw [load_getDataBuf _ _ (sized_fetching w) (hheap.ne_auto _ _)
      (by rw [hp]; exact h.owned.block_ne hs ht hts hnull)]
    exact Memory.load_storeList_of_obj_ne _ (hheap.ne_auto _ _)

theorem queue_read {data : Ptr Obj} {n : ℕ} (h : Owned w) (hs : s < wifiMaxSockNum)
    (hdata : ¬ data.obj.IsHeap) (hn : (n : ℤ) ≤ (w.buffers s).length) :
    queue (readState w s data n) s = (queue w s).drop n := by
  have hmove : queue (readState w s data n) s =
      w.bus.mem.loadList ((w.buffers s).head.add n) ((w.buffers s).length.toNat - n) := by
    have hlen : ((w.buffers s).length - n).toNat = (w.buffers s).length.toNat - n := by omega
    simp only [queue, readState, Function.update_self, Entry.advance, hlen]
    cases h.entries s hs with
    | null hempty => simp [hempty, Entry.empty]
    | window id _ _ hhead _ _ =>
        refine Memory.loadList_storeList_of_obj_ne _ _ fun hobj => hdata ?_
        rw [← hobj, Ptr.obj_add, hhead]
        trivial
  rw [hmove, queue, Memory.drop_loadList _ _ (by omega)]

theorem queue_read_of_ne {data : Ptr Obj} {n : ℕ} (h : Owned w) (ht : t < wifiMaxSockNum)
    (hts : t ≠ s) (hdata : ¬ data.obj.IsHeap) : queue (readState w s data n) t = queue w t := by
  refine queue_congr (h.entries t ht).placed (by simp [readState, Function.update_of_ne hts]) ?_
  intro p _ hp
  refine Memory.load_storeList_of_obj_ne _ fun hobj => hdata ?_
  rwa [← hobj]

theorem taken_eq (w : World) (s : ℕ) (length : UInt32) :
    (w.buffers s).taken length = min (queue w s).length length.toNat := by
  rw [Entry.taken, length_queue]

end Queue

namespace Call

/-- The operation on the queues that a call amounts to. -/
def op (w : World) : Call → Fifo.Op ℕ UInt8
  | available s | peek s => .serve s (offered w s) 0
  | read s _ length => .serve s (offered w s) length.toNat
  | readChar sock => .serve sock.toNat (offered w sock.toNat) 1
  | close s => .clear s
  | deinit => .clearAll

/-- The bytes of socket `s` that a call hands to its caller. -/
def returned (s : ℕ) (w : World) (c : Call) : List UInt8 :=
  match c with
  | read t data _ =>
      if t = s then (c.run.state w).bus.mem.loadList data (c.run.val w).toNat else []
  | readChar sock =>
      if sock.toNat = s then if c.run.val w = -1 then [] else [toByte (c.run.val w)] else []
  | available _ | peek _ | close _ | deinit => []

/-- The number of bytes of socket `s` that a call asks for. -/
def requested (s : ℕ) (c : Call) : ℕ := if c.reader = some s then c.limit.toNat else 0

/-- A call that does not give up the buffer of `s`. -/
def Keeps (s : ℕ) : Call → Prop
  | available _ | peek _ | read _ _ _ | readChar _ => True
  | close t => t ≠ s
  | deinit => False

end Call

/-- `peek`'s view of a queue. -/
def firstByte : List UInt8 → ℤ
  | [] => -1
  | c :: _ => c.toNat

/-- The queues of the sockets there are. -/
def queues (w : World) (s : ℕ) : List UInt8 := if s < wifiMaxSockNum then queue w s else []

section Calls
variable {w : World} {c : Call} {s t : ℕ}

theorem queues_of_lt (w : World) (hs : s < wifiMaxSockNum) : queues w s = queue w s := if_pos hs

theorem Call.op_of_reader (hs : c.reader = some s) :
    c.op w = .serve s (offered w s) c.limit.toNat := by
  cases c with
  | available | peek | read | readChar =>
      obtain rfl := Option.some.inj hs
      rfl
  | close | deinit => exact absurd hs (by simp [Call.reader])

theorem Call.dest_notHeap (hc : c.Valid) : ¬ c.dest.obj.IsHeap := by
  cases c with
  | read => exact hc.2.1
  | available | peek | readChar | close | deinit => exact id

/-- The queue of its own socket after a call that reads. -/
theorem Call.queue_run (h : Ready w) (hc : c.Valid) (hs : c.reader = some s) :
    queue (c.run.state w) s =
      (Fifo.refill (queue w s) (offered w s)).drop c.limit.toNat := by
  have hlt := Call.lt_of_reader hc hs
  have hrefill := h.refill hlt
  obtain ⟨indexed, hstate⟩ := Call.state_run h hc hs
  have htaken := Entry.taken_le c.limit (hrefill.owned.length_le hlt).1
  rw [hstate]
  calc queue (readState (refillState w s) s c.dest _) s
      = (queue (refillState w s) s).drop (((refillState w s).buffers s).taken c.limit) :=
        queue_read hrefill.owned hlt (Call.dest_notHeap hc) htaken
    _ = (queue (refillState w s) s).drop c.limit.toNat := by
        rw [taken_eq, List.drop_eq_drop_iff]
        omega
    _ = _ := by rw [queue_refill h hlt]

/-- The queues of the other sockets after a call that reads. -/
theorem Call.queue_run_of_ne (h : Ready w) (hc : c.Valid) (hs : c.reader = some s)
    (ht : t < wifiMaxSockNum) (hts : t ≠ s) : queue (c.run.state w) t = queue w t := by
  have hlt := Call.lt_of_reader hc hs
  obtain ⟨indexed, hstate⟩ := Call.state_run h hc hs
  rw [hstate]
  calc queue (readState (refillState w s) s c.dest _) t
      = queue (refillState w s) t :=
        queue_read_of_ne (h.refill hlt).owned ht hts (Call.dest_notHeap hc)
    _ = queue w t := queue_refill_of_ne h.held hlt ht hts

theorem queue_close (h : Held w) (hs : s < wifiMaxSockNum) (t : ℕ) :
    queue ((close s).state w) t = if t = s then [] else queue w t := by
  have hbuffers := buffers_close (h.eq_empty s hs)
  by_cases hts : t = s
  · rw [if_pos hts]
    refine queue_of_length ?_
    rw [hbuffers, hts, Function.update_self]
    rfl
  · rw [if_neg hts, queue, hbuffers, Function.update_of_ne hts, bus_close]
    rfl

/-- **A call refines its operation.** -/
theorem queues_run (h : Ready w) (hc : c.Valid) :
    queues (c.run.state w) = Fifo.apply (queues w) (c.op w) := by
  funext t
  by_cases ht : t < wifiMaxSockNum
  · rw [queues_of_lt _ ht]
    cases hs : c.reader with
    | some s =>
        rw [Call.op_of_reader hs, Fifo.apply]
        by_cases hts : t = s
        · subst hts
          rw [Function.update_self, queues_of_lt _ ht, Call.queue_run h hc hs]
        · rw [Function.update_of_ne hts, queues_of_lt _ ht, Call.queue_run_of_ne h hc hs ht hts]
    | none =>
        cases c with
        | close s =>
            rw [Call.state_close, queue_close h.held hc, Call.op, Fifo.apply, Function.update_apply,
              queues_of_lt _ ht]
        | deinit =>
            rw [Call.state_deinit]
            exact queue_of_length (by rw [h.deinit.2.2 t ht]; rfl)
        | available | peek | read | readChar => simp [Call.reader] at hs
  · have hempty : ∀ w : World, queues w t = [] := fun w => if_neg ht
    have hout : ∀ s, s < wifiMaxSockNum → t ≠ s := by omega
    rw [hempty]
    cases hs : c.reader with
    | some s =>
        rw [Call.op_of_reader hs, Fifo.apply,
          Function.update_of_ne (hout s (Call.lt_of_reader hc hs)), hempty]
    | none =>
        cases c with
        | close s => rw [Call.op, Fifo.apply, Function.update_of_ne (hout s hc), hempty]
        | deinit => rfl
        | available | peek | read | readChar => simp [Call.reader] at hs

end Calls

section Returns
variable {w : World} {s : ℕ}

/-- The queue of a socket after a refill. -/
abbrev refreshed (w : World) (s : ℕ) : List UInt8 := queue (refillState w s) s

theorem length_refreshed (h : Ready w) (hs : s < wifiMaxSockNum) :
    ((refillState w s).buffers s).length = (refreshed w s).length := by
  have hpos := ((h.refill hs).owned.length_le hs).1
  rw [length_queue]
  omega

theorem taken_refreshed (w : World) (s : ℕ) (length : UInt32) :
    ((refillState w s).buffers s).taken length = min (refreshed w s).length length.toNat :=
  taken_eq _ _ _

theorem val_available_queue (h : Ready w) (hs : s < wifiMaxSockNum) :
    (Call.available s).run.val w = (refreshed w s).length := by
  rw [← length_refreshed h hs]
  exact val_available w s

/-- The first byte of a queue that is not empty is the one at `head`. -/
theorem firstByte_queue (hne : (w.buffers s).length.toNat ≠ 0) :
    firstByte (queue w s) = (w.bus.mem.load (w.buffers s).head).toNat := by
  obtain ⟨n, hn⟩ := Nat.exists_eq_succ_of_ne_zero hne
  rw [queue, hn, Memory.loadList_succ]
  rfl

theorem val_peek_refreshed (hpos : 0 ≤ ((refillState w s).buffers s).length) :
    (WiFiSocketBuffer.peek s).val w = firstByte (refreshed w s) := by
  rw [val_peek]
  split
  · next hzero => rw [refreshed, queue_of_length hzero]; rfl
  · next hzero => rw [refreshed, firstByte_queue (by omega)]

theorem val_peek_queue (h : Ready w) (hs : s < wifiMaxSockNum) :
    (Call.peek s).run.val w = firstByte (refreshed w s) :=
  val_peek_refreshed ((h.refill hs).owned.length_le hs).1

theorem val_readChar_refreshed {sock : UInt8} (hsock : sock ≠ noSocketAvail)
    (hpos : 0 ≤ ((refillState w sock.toNat).buffers sock.toNat).length)
    (hle : ((refillState w sock.toNat).buffers sock.toNat).length ≤ 255) :
    (WiFiClient.readChar sock).val w = firstByte (refreshed w sock.toNat) := by
  by_cases hzero : ((refillState w sock.toNat).buffers sock.toNat).length = 0
  · rw [refreshed, queue_of_length hzero]
    exact (WiFiClient.readChar_of_zero hsock hzero).1
  · rw [refreshed, firstByte_queue (by omega)]
    exact (WiFiClient.readChar_of_pos hsock (by omega) hle).1

theorem val_readChar_queue {sock : UInt8} (h : Ready w) (hs : sock.toNat < wifiMaxSockNum) :
    (Call.readChar sock).run.val w = firstByte (refreshed w sock.toNat) := by
  obtain ⟨hpos, hle⟩ := (h.refill hs).owned.length_le hs
  exact val_readChar_refreshed (ne_noSocketAvail hs) hpos hle

variable {data : Ptr Obj} {length : UInt32}

theorem val_read_queue (h : Ready w) (hc : (Call.read s data length).Valid) :
    (Call.read s data length).run.val w = min (refreshed w s).length length.toNat := by
  obtain ⟨hpos, hle⟩ := (h.refill hc.1).owned.length_le hc.1
  refine (val_read data length hpos hle hc.2.2).trans ?_
  rw [taken_refreshed]

/-- What a read leaves at its destination, wherever that is. -/
theorem loadList_read_refreshed (hpos : 0 ≤ ((refillState w s).buffers s).length)
    (hle : ((refillState w s).buffers s).length ≤ 255) (hlength : length.toNat < 2 ^ 31) :
    ((read s data length).state w).bus.mem.loadList data ((read s data length).val w).toNat =
      (refreshed w s).take length.toNat := by
  obtain ⟨indexed, hstate⟩ := state_read data length hpos hle hlength
  rw [val_read data length hpos hle hlength, Int.toNat_natCast, hstate]
  have hstored := (refillState w s).bus.mem.loadList_storeList data
    ((refillState w s).bus.mem.loadList ((refillState w s).buffers s).head
      (((refillState w s).buffers s).taken length))
  rw [Memory.length_loadList] at hstored
  have htaken : ((refillState w s).buffers s).taken length ≤
      ((refillState w s).buffers s).length.toNat := Nat.min_le_left _ _
  calc _ = (refillState w s).bus.mem.loadList ((refillState w s).buffers s).head
        (((refillState w s).buffers s).taken length) := hstored
    _ = (refreshed w s).take (((refillState w s).buffers s).taken length) :=
        (Memory.take_loadList _ _ htaken).symm
    _ = (refreshed w s).take length.toNat := by
        rw [taken_refreshed, List.take_eq_take_iff]
        omega

theorem loadList_read (h : Ready w) (hc : (Call.read s data length).Valid) :
    ((Call.read s data length).run.state w).bus.mem.loadList data
        ((Call.read s data length).run.val w).toNat =
      (refreshed w s).take length.toNat := by
  obtain ⟨hpos, hle⟩ := (h.refill hc.1).owned.length_le hc.1
  exact loadList_read_refreshed hpos hle hc.2.2

theorem toByte_toNat (c : UInt8) : toByte (c.toNat : ℤ) = c := by
  have := c.toNat_lt
  rw [toByte, ← UInt8.toNat_inj, UInt8.toNat_ofNat']
  omega

/-- The byte that a call returns if there is one. -/
theorem take_one_of_firstByte (q : List UInt8) :
    (if firstByte q = -1 then [] else [toByte (firstByte q)]) = q.take 1 := by
  cases q with
  | nil => rfl
  | cons c cs =>
      have hne : firstByte (c :: cs) ≠ -1 := by
        simp only [firstByte]
        omega
      rw [if_neg hne, firstByte, toByte_toNat]
      rfl

/-- The bytes that a call hands out are those that its operation takes. -/
theorem Call.returned_eq {c : Call} (h : Ready w) (hc : c.Valid) (hs : s < wifiMaxSockNum) :
    c.returned s w = Fifo.taken s (queues w) (c.op w) := by
  cases c with
  | available t | peek t => simp [Call.returned, Call.op, Fifo.taken]
  | read t data length =>
      by_cases hts : t = s
      · subst hts
        simp only [Call.returned, Call.op, Fifo.taken, if_true]
        rw [loadList_read h hc, queues_of_lt _ hs, refreshed, queue_refill h hs]
      · simp [Call.returned, Call.op, Fifo.taken, hts]
  | readChar sock =>
      by_cases hts : sock.toNat = s
      · subst hts
        simp only [Call.returned, Call.op, Fifo.taken, if_true]
        rw [val_readChar_queue h hs, queues_of_lt _ hs, refreshed, queue_refill h hs]
        exact take_one_of_firstByte _
      · simp [Call.returned, Call.op, Fifo.taken, hts]
  | close t | deinit => rfl

end Returns

/-! ## The refinement -/

/-- What `WiFiSocketBuffer_available` does to the queue of `s`, from `w` to `w'`. -/
structure Polled (w : World) (s : ℕ) (w' : World) : Prop where
  /-- A queue that is not empty is left alone, and so is the module. -/
  buffered : queue w s ≠ [] →
    queue w' s = queue w s ∧ w'.bus.transmitted = w.bus.transmitted
  /-- An empty queue costs one exchange, and is empty or a whole block afterwards. -/
  drained : queue w s = [] →
    w'.bus.transmitted =
        w.bus.transmitted ++ [fetchFrame (UInt8.ofNat s), List.replicate 255 0] ∧
      queue w' s =
        if (getDataBuf (UInt8.ofNat s) (block w s) sizeVar).val (fetching w) = 0 then []
        else w'.bus.mem.loadList (w'.buffers s).data 255

/-- A call that polls the queue of `s` and then removes up to `n` bytes from it. -/
structure Removes (w : World) (s n : ℕ) (w' : World) : Prop where
  queue : queue w' s = (queue ((Call.available s).run.state w) s).drop n
  transmitted : w'.bus.transmitted = ((Call.available s).run.state w).bus.transmitted

/-- What each call does to the queue of its socket, and what it returns. -/
def Call.Refines (w : World) (c : Call) : Prop :=
  match c with
  | available s =>
      Polled w s (c.run.state w) ∧ c.run.val w = (queue (c.run.state w) s).length
  | peek s =>
      Removes w s 0 (c.run.state w) ∧
        c.run.val w = firstByte (queue ((available s).run.state w) s)
  | read s data length =>
      Removes w s length.toNat (c.run.state w) ∧
        c.run.val w = min (queue ((available s).run.state w) s).length length.toNat ∧
        (c.run.state w).bus.mem.loadList data (c.run.val w).toNat =
          (queue ((available s).run.state w) s).take length.toNat
  | readChar sock =>
      Removes w sock.toNat 1 (c.run.state w) ∧
        c.run.val w = firstByte (queue ((available sock.toNat).run.state w) sock.toNat)
  | close s => queue (c.run.state w) s = [] ∧ (c.run.state w).bus = w.bus
  | deinit => (∀ s < wifiMaxSockNum, queue (c.run.state w) s = []) ∧ (c.run.state w).bus = w.bus

section Refines
variable {w : World} {c : Call} {s : ℕ}

theorem queue_available (w : World) (s : ℕ) :
    queue ((Call.available s).run.state w) s = refreshed w s := rfl

theorem transmitted_fetching (w : World) : (fetching w).transmitted = w.bus.transmitted := rfl

theorem polled_available (h : Ready w) (hs : s < wifiMaxSockNum) :
    Polled w s ((Call.available s).run.state w) where
  buffered hne := by
    have hlen := mt (queue_eq_nil h.owned hs).mpr hne
    have hstate : refillState w s = _ := state_refill_of_ne hlen
    constructor
    · rw [queue_available, refreshed, queue_refill h hs, Fifo.refill_of_ne hne]
    · exact congrArg (fun w => w.bus.transmitted) hstate
  drained hnil := by
    obtain ⟨hne, -⟩ | ⟨-, indexed, hstate⟩ := h.held.refill_cases hs
    · exact absurd ((queue_eq_nil h.owned hs).mp hnil) hne
    · constructor
      · refine (congrArg (fun w => w.bus.transmitted) hstate).trans ?_
        rw [transmitted_getDataBuf _ _ (sized_fetching w), transmitted_fetching]
      · have hdata : (((Call.available s).run.state w).buffers s).data = block w s :=
          (h.held.data_refill hs).1
        have hmem : ((Call.available s).run.state w).bus.mem =
            ((getDataBuf (UInt8.ofNat s) (block w s) sizeVar).state (fetching w)).mem :=
          congrArg (fun w => w.bus.mem) hstate
        rw [queue_available, refreshed, queue_refill h hs, hnil, Fifo.refill_nil, hdata, hmem]
        rfl

theorem removes_run (h : Ready w) (hc : c.Valid) (hs : c.reader = some s) :
    Removes w s c.limit.toNat (c.run.state w) where
  queue := by
    rw [Call.queue_run h hc hs, queue_available, refreshed,
      queue_refill h (Call.lt_of_reader hc hs)]
  transmitted := by
    obtain ⟨indexed, hstate⟩ := Call.state_run h hc hs
    rw [hstate]
    rfl

theorem Call.refines (h : Ready w) (hc : c.Valid) : c.Refines w := by
  cases c with
  | available s => exact ⟨polled_available h hc, val_available_queue h hc⟩
  | peek s => exact ⟨removes_run h hc rfl, val_peek_queue h hc⟩
  | read s data length =>
      exact ⟨removes_run h hc rfl, val_read_queue h hc, loadList_read h hc⟩
  | readChar sock => exact ⟨removes_run h hc rfl, val_readChar_queue h hc⟩
  | close s =>
      rw [Call.Refines, Call.state_close, queue_close h.held hc, if_pos rfl]
      exact ⟨rfl, bus_close w s⟩
  | deinit =>
      rw [Call.Refines, Call.state_deinit]
      obtain ⟨-, hbus, hbuffers⟩ := h.deinit
      exact ⟨fun s hs => queue_of_length (by rw [hbuffers s hs]; rfl), hbus⟩

end Refines

section Runs
variable {w : World} {s : ℕ} {as : List Action}

theorem queues_before {a : Action} (h : Ready w) (ha : SameHeap w.bus a.bus) :
    queues (w.before a) = queues w := by
  funext t
  unfold queues
  split
  · next ht => exact queue_of_sameHeap (h.held.placed t ht) ha
  · rfl

/-- The operations that a run amounts to. -/
def ops (w : World) (as : List Action) : List (Fifo.Op ℕ UInt8) :=
  calls.actions (fun w a => a.call.op (w.before a)) w as

/-- The bytes of socket `s` that a run hands to its callers. -/
def returned (s : ℕ) (w : World) (as : List Action) : List UInt8 :=
  calls.collect (fun w a => a.call.returned s (w.before a)) w as

theorem ready_next (w : World) (a : Action) (h : Ready w) (ha : calls.enabled w a) :
    Ready (calls.next w a) :=
  Call.ready (h.before a) ha.1

theorem queues_next (w : World) (a : Action) (h : Ready w) (ha : calls.enabled w a) :
    queues (calls.next w a) = Fifo.bank.next (queues w) (a.call.op (w.before a)) := by
  rw [← queues_before h ha.2]
  exact queues_run (h.before a) ha.1

/-- A run does to the queues what its operations do to a bank. -/
theorem queues_exec (h : Ready w) (hrun : calls.Run w as) :
    queues (calls.exec w as) = Fifo.bank.exec (queues w) (ops w as) :=
  System.exec_simulation ready_next queues_next h hrun

theorem returned_eq (h : Ready w) (hs : s < wifiMaxSockNum) (hrun : calls.Run w as) :
    returned s w as = Fifo.bank.collect (Fifo.taken s) (queues w) (ops w as) := by
  refine System.collect_simulation ready_next queues_next ?_ h hrun
  intro v a hv ha
  rw [← queues_before hv ha.2]
  exact Call.returned_eq (hv.before a) ha.1 hs

theorem Call.keeps_op {c : Call} (h : c.Keeps s) (w : World) : Fifo.Keeps s (c.op w) := by
  cases c with
  | available | peek | read | readChar => trivial
  | close t => exact h
  | deinit => exact h

theorem Call.wanted_op (c : Call) (w : World) : Fifo.wanted s (c.op w) = c.requested s := by
  cases c <;> simp [Call.op, Fifo.wanted, Call.requested, Call.reader, Call.limit]

/-- **Splitting**: while the queue holds what is asked for, the bytes come in order,
in whatever portions they are asked for. -/
theorem returned_eq_take (h : Ready w) (hs : s < wifiMaxSockNum) (hrun : calls.Run w as)
    (hkeeps : ∀ a ∈ as, a.call.Keeps s)
    (hle : (as.map fun a => a.call.requested s).sum ≤ (queue w s).length) :
    returned s w as = (queue w s).take (as.map fun a => a.call.requested s).sum := by
  have hops : ∀ op ∈ ops w as, Fifo.Keeps s op :=
    System.forall_actions fun a ha w => Call.keeps_op (hkeeps a ha) _
  have hwanted : (ops w as).map (Fifo.wanted s) = as.map fun a => a.call.requested s :=
    System.map_actions fun w a => Call.wanted_op a.call _
  rw [returned_eq h hs hrun, ← hwanted, ← queues_of_lt w hs]
  refine Fifo.taken_eq_take hops ?_
  rwa [hwanted, queues_of_lt w hs]

end Runs

/-- A peek announces the byte that `WiFiClient_readChar` returns next. -/
theorem readChar_after_peek {w : World} {sock : UInt8} {b b' : Bus} (h : Ready w)
    (hrun : calls.Run w [⟨.peek sock.toNat, b⟩, ⟨.readChar sock, b'⟩])
    (hpos : 0 ≤ (Call.peek sock.toNat).run.val { w with bus := b }) :
    (Call.readChar sock).run.val
        { calls.next w ⟨.peek sock.toNat, b⟩ with bus := b' } =
      (Call.peek sock.toNat).run.val { w with bus := b } := by
  obtain ⟨hpeek, hread, -⟩ := hrun
  have hs : sock.toNat < wifiMaxSockNum := hpeek.1
  have h₁ := h.before ⟨.peek sock.toNat, b⟩
  have h₂ := ready_next w _ h hpeek
  have hval := val_peek_queue h₁ hs
  -- the peek leaves the queue that it looked at
  have hqueue : queue { calls.next w ⟨.peek sock.toNat, b⟩ with bus := b' } sock.toNat =
      refreshed { w with bus := b } sock.toNat := by
    rw [queue_of_sameHeap (h₂.held.placed _ hs) hread.2]
    exact (removes_run h₁ hpeek.1 rfl).queue
  have hne : refreshed { w with bus := b } sock.toNat ≠ [] := by
    intro hnil
    rw [hval, hnil, firstByte] at hpos
    omega
  rw [hval, val_readChar_queue (h₂.before ⟨.readChar sock, b'⟩) hs, refreshed,
    queue_refill (h₂.before ⟨.readChar sock, b'⟩) hs, hqueue, Fifo.refill_of_ne hne]

/-- **The socket buffers refine queues.**  After every run the queues are those of a bank
that was offered what the module answered; each call does to the queue of its socket,
and returns, what it should, and leaves the others alone; and the buffered bytes come in
order however they are read. -/
theorem buffers_refine_fifo (w : World) (as : List Action) (hlive : w.heap.live = [])
    (hfrees : w.heap.badFrees = []) (hm : Affluent w) (hrun : calls.Run (init.state w) as) :
    queues (calls.exec (init.state w) as) =
        Fifo.bank.exec (fun _ => []) (ops (init.state w) as) ∧
      (∀ a, calls.enabled (calls.exec (init.state w) as) a →
        a.call.Refines ((calls.exec (init.state w) as).before a) ∧
        ∀ t < wifiMaxSockNum, a.call.reader ≠ some t → a.call.Keeps t →
          queue (calls.next (calls.exec (init.state w) as) a) t =
            queue (calls.exec (init.state w) as) t) ∧
      (∀ s < wifiMaxSockNum, ∀ bs, calls.Run (calls.exec (init.state w) as) bs →
        (∀ b ∈ bs, b.call.Keeps s) →
        (bs.map fun b => b.call.requested s).sum ≤
          (queue (calls.exec (init.state w) as) s).length →
        returned s (calls.exec (init.state w) as) bs =
          (queue (calls.exec (init.state w) as) s).take
            (bs.map fun b => b.call.requested s).sum) ∧
      ∀ (sock : UInt8) (b b' : Bus),
        calls.Run (calls.exec (init.state w) as)
          [⟨.peek sock.toNat, b⟩, ⟨.readChar sock, b'⟩] →
        0 ≤ (Call.peek sock.toNat).run.val { calls.exec (init.state w) as with bus := b } →
        (Call.readChar sock).run.val { calls.next (calls.exec (init.state w) as)
            ⟨.peek sock.toNat, b⟩ with bus := b' } =
          (Call.peek sock.toNat).run.val { calls.exec (init.state w) as with bus := b } := by
  have hinit := ready_init hlive hfrees hm
  have h := ready_exec hinit hrun
  refine ⟨?_, fun a ha => ⟨Call.refines (h.before a) ha.1, fun t ht hreader hkeeps => ?_⟩,
    fun s hs bs hbs hkeeps hle => returned_eq_take h hs hbs hkeeps hle,
    fun sock b b' hbs hpos => readChar_after_peek h hbs hpos⟩
  · rw [queues_exec hinit hrun]
    congr 1
    funext t
    unfold queues
    split
    · next ht => exact queue_of_length (by simp [init, ht, Entry.empty])
    · rfl
  · rw [← queues_of_lt _ ht, ← queues_of_lt _ ht, queues_next _ a h ha]
    cases hc : a.call with
    | close s =>
        rw [hc] at hkeeps
        exact Function.update_of_ne (Ne.symm hkeeps) _ _
    | deinit =>
        rw [hc] at hkeeps
        exact absurd hkeeps id
    | available s | peek s | read s data length | readChar sock =>
        rw [hc] at hreader
        exact Function.update_of_ne (fun hts => hreader (congrArg some hts.symm)) _ _

/-- Two sockets are filled. -/
def filling : List Call := [.available 3, .readChar 3, .peek 7]

theorem valid_filling : ∀ c ∈ filling, c.Valid := by
  simp [filling, Call.Valid, wifiMaxSockNum]

def twoFilled : World :=
  calls.exec (init.state chatting) (inSequence (init.state chatting) filling)

/-- Both are read. -/
def emptying : List Call := [.read 3 ⟨.user 0, 0⟩ 3, .read 7 ⟨.user 1, 0⟩ 2, .readChar 3]

theorem valid_emptying : ∀ c ∈ emptying, c.Valid := by
  simp [emptying, Call.Valid, Obj.IsHeap, wifiMaxSockNum]

theorem keeps_emptying : ∀ c ∈ emptying, c.Keeps 3 := by simp [emptying, Call.Keeps]

/-- Four bytes of one socket read in two pieces. -/
theorem buffers_refine_fifo_emptying :
    returned 3 twoFilled (inSequence twoFilled emptying) = (queue twoFilled 3).take 4 := by
  obtain ⟨-, -, hreturned, -⟩ := buffers_refine_fifo chatting _ rfl rfl (fun _ => rfl)
    (run_inSequence valid_filling _)
  refine hreturned 3 (by decide) _ (run_inSequence valid_emptying _)
    (forall_inSequence keeps_emptying _) ?_
  rw [length_queue]
  decide +kernel

end WiFiNINA
