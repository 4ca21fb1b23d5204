import WiFiNINA.WiFiSocketBuffer.Ownership

/-!
# Blocks without their windows

Which block belongs to which socket is settled by allocation and release alone.  So the
ownership of the blocks outlives the bounds of the windows, which a read of 2^31 bytes or
more does not keep.
-/

namespace WiFiNINA

open SpiDrv ServerDrv World WiFiSocketBuffer

def Obj.IsHeap : Obj → Prop
  | .heap _ _ => True
  | .null | .auto _ _ | .user _ | .global _ => False

theorem Obj.IsHeap.ne_auto {o : Obj} (h : o.IsHeap) (var : Var) (size : ℕ) :
    o ≠ .auto var size := by
  rintro rfl
  exact h

theorem Obj.IsHeap.ne_null {o : Obj} (h : o.IsHeap) : o ≠ .null := by
  rintro rfl
  exact h

/-- An entry without its window. -/
def Entry.drained (e : Entry) : Entry := ⟨e.data, e.data, 0⟩

/-- The same buffers with nothing in them. -/
def World.drained (w : World) : World := { w with buffers := Entry.drained ∘ w.buffers }

/-- An entry has no buffer, or its window begins in its block. -/
def Entry.Placed (e : Entry) : Prop := e = .empty ∨ e.head.obj = e.data.obj ∧ e.data.obj.IsHeap

/-- The blocks are owned by the sockets, and every window begins in its block.  It may end
anywhere. -/
structure Held (w : World) : Prop where
  owned : Owned w.drained
  affluent : Affluent w
  placed : ∀ s < wifiMaxSockNum, (w.buffers s).Placed

section Held
variable {w w' : World} {s : ℕ} {e : Entry}

theorem Entry.Ok.drained {live : List Obj} (h : e.Ok live) : e.drained.Ok live := by
  cases h with
  | null h => exact .null (by rw [h]; rfl)
  | window id hdata hlive _ _ _ =>
      exact .window id hdata hlive (congrArg Ptr.obj hdata) le_rfl (by simp [Entry.drained, hdata])

theorem Entry.Ok.placed {live : List Obj} (h : e.Ok live) : e.Placed := by
  cases h with
  | null h => exact .inl h
  | window id hdata _ hhead _ _ =>
      refine .inr ⟨by rw [hhead, hdata], ?_⟩
      rw [hdata]
      trivial

theorem Owned.drained (h : Owned w) : Owned w.drained :=
  ⟨fun s hs => (h.entries s hs).drained, h.owner, h.unshared, h.fresh, h.nodup, h.badFrees⟩

/-- Where the windows are inside the blocks. -/
theorem Owned.held (h : Owned w) (hm : Affluent w) : Held w where
  owned := h.drained
  affluent := hm
  placed s hs := (h.entries s hs).placed

theorem Held.eq_empty (h : Held w) (s : ℕ) (hs : s < wifiMaxSockNum)
    (hnull : (w.buffers s).data = nullPtr) : w.buffers s = .empty := by
  refine (h.placed s hs).resolve_right fun hplaced => ?_
  rw [hnull] at hplaced
  exact hplaced.2

/-- An entry that is not empty has a block. -/
theorem Entry.Placed.of_ne (h : e.Placed) (hne : e.data ≠ nullPtr) :
    e.head.obj = e.data.obj ∧ e.data.obj.IsHeap := by
  refine h.resolve_left ?_
  rintro rfl
  exact hne rfl

theorem Held.congr (h : Held w) (hheap : w'.heap = w.heap) (hbuffers : w'.buffers = w.buffers) :
    Held w' := by
  refine ⟨h.owned.congr hheap (congrArg (Entry.drained ∘ ·) hbuffers), ?_, ?_⟩
  · intro k
    rw [hheap]
    exact h.affluent k
  · rw [hbuffers]
    exact h.placed

/-- Changing one entry. -/
theorem placed_update (h : Held w) (hbuffers : w'.buffers = Function.update w.buffers s e)
    (he : e.Placed) : ∀ t < wifiMaxSockNum, (w'.buffers t).Placed := by
  intro t ht
  rw [hbuffers]
  by_cases hts : t = s
  · subst hts
    rwa [Function.update_self]
  · rw [Function.update_of_ne hts]
    exact h.placed t ht

theorem drained_update (hbuffers : w'.buffers = Function.update w.buffers s e) :
    w'.drained.buffers = Function.update w.drained.buffers s e.drained := by
  rw [World.drained, hbuffers, Function.comp_update]
  rfl

/-- Moving the window of a socket, in its block or out of it. -/
theorem Held.setWindow (h : Held w) (hheap : w'.heap = w.heap)
    (hbuffers : w'.buffers = Function.update w.buffers s e)
    (hdata : e.data = (w.buffers s).data) (he : e.Placed) : Held w' := by
  have hdrained : e.drained = w.drained.buffers s := by
    rw [Entry.drained, hdata]
    rfl
  refine ⟨h.owned.congr hheap ?_, ?_, placed_update h hbuffers he⟩
  · rw [drained_update hbuffers, hdrained, Function.update_eq_self]
  · intro k
    rw [hheap]
    exact h.affluent k

theorem Held.refill_cases (h : Held w) (hs : s < wifiMaxSockNum) :
    RefillResult s w (refillState w s) :=
  refillState_cases h.affluent (h.owned.obj_block hs)

/-- A fetch goes to a live block. -/
theorem Held.block_heap (h : Held w) (hs : s < wifiMaxSockNum) :
    ∃ id, block w s = ⟨.heap id 255, 0⟩ ∧ .heap id 255 ∈ (allocated w s).live :=
  h.owned.block_heap hs

theorem Held.refilled_placed (h : Held w) (hs : s < wifiMaxSockNum) :
    (refilled w s).Placed := by
  obtain ⟨id, hblock, -⟩ := h.block_heap hs
  have hheap : (block w s).obj.IsHeap := by
    rw [hblock]
    trivial
  rw [refilled]
  split
  · exact .inr ⟨rfl, hheap⟩
  · refine .inr ⟨?_, hheap⟩
    split
    · rfl
    · next hne => rw [((h.placed s hs).of_ne hne).1, block, if_neg hne]

theorem Held.refill (h : Held w) (hs : s < wifiMaxSockNum) : Held (refillState w s) := by
  have hm := h.affluent.refill (h.owned.obj_block hs)
  obtain ⟨-, hstate⟩ | ⟨hzero, indexed, hstate⟩ := h.refill_cases hs
  · rw [hstate]
    exact h.congr rfl rfl
  · have hplaced := h.refilled_placed hs
    obtain ⟨id, hblock, hlive⟩ := h.block_heap hs
    rw [hstate] at hm ⊢
    by_cases hnull : (w.buffers s).data = nullPtr
    · refine ⟨h.owned.newBlock hs hnull rfl (drained_update rfl) ?_ ?_, hm,
        placed_update h rfl hplaced⟩
      · rw [Entry.drained, refilled_data, block, if_pos hnull]
        rfl
      · refine Entry.Ok.window id ?_ hlive ?_ le_rfl ?_
        · rw [Entry.drained, refilled_data, hblock]
        · rw [Entry.drained, refilled_data, hblock]
        · simp [Entry.drained, refilled_data, hblock]
    · have hheap : allocated w s = w.heap := by rw [allocated, if_neg hnull]
      refine h.setWindow hheap rfl ?_ hplaced
      rw [refilled_data, block, if_neg hnull]

/-- After a refill the socket has a block. -/
theorem Held.data_refill (h : Held w) (hs : s < wifiMaxSockNum) :
    ((refillState w s).buffers s).data = block w s ∧ block w s ≠ nullPtr := by
  obtain ⟨id, hblock, -⟩ := h.block_heap hs
  refine ⟨?_, by simp [hblock, nullPtr]⟩
  obtain ⟨hne, hstate⟩ | ⟨-, indexed, hstate⟩ := h.refill_cases hs
  · rw [hstate, block, if_neg]
    intro hnull
    rw [h.eq_empty s hs hnull] at hne
    exact hne rfl
  · rw [hstate]
    simp [refilled_data]

/-- A read of any length moves the window of its socket. -/
theorem state_read_cases (w : World) (s : ℕ) (data : Ptr Obj) (length : UInt32) :
    ∃ bus n size indexed, (WiFiSocketBuffer.read s data length).state w =
      { refillState w s with
        bus := bus
        buffers := Function.update (refillState w s).buffers s
          ⟨((refillState w s).buffers s).data, ((refillState w s).buffers s).head.add n, size⟩
        indexed := indexed } := by
  by_cases hzero : ((refillState w s).buffers s).length = 0
  · refine ⟨(refillState w s).bus, 0, ((refillState w s).buffers s).length,
      s :: (refillState w s).indexed, ?_⟩
    rw [state_read_of_zero data length hzero, Ptr.add_zero, Function.update_eq_self]
    exact state_available w s
  · exact ⟨_, _, _, _, state_read_of_ne data length hzero rfl rfl⟩

theorem Held.read (h : Held w) (hs : s < wifiMaxSockNum) (data : Ptr Obj) (length : UInt32) :
    Held ((WiFiSocketBuffer.read s data length).state w) := by
  obtain ⟨bus, n, size, indexed, hstate⟩ := state_read_cases w s data length
  have hrefill := h.refill hs
  obtain ⟨hdata, hne⟩ := h.data_refill hs
  rw [hstate]
  exact hrefill.setWindow rfl rfl rfl
    (.inr ((hrefill.placed s hs).of_ne (by rwa [hdata])))

theorem Held.available (h : Held w) (hs : s < wifiMaxSockNum) :
    Held ((WiFiSocketBuffer.available s).state w) :=
  (h.refill hs).congr rfl rfl

theorem buffers_close (h : (w.buffers s).data = nullPtr → w.buffers s = .empty) :
    ((close s).state w).buffers = Function.update w.buffers s .empty := by
  by_cases hnull : (w.buffers s).data = nullPtr
  · rw [state_close_of_null hnull, ← h hnull, Function.update_eq_self]
  · rw [state_close_of_ne hnull]

theorem bus_close (w : World) (s : ℕ) : ((close s).state w).bus = w.bus := by
  by_cases hnull : (w.buffers s).data = nullPtr
  · rw [state_close_of_null hnull]
  · rw [state_close_of_ne hnull]

theorem mallocs_free (h : Heap) (p : Ptr Obj) : (h.free p).mallocs = h.mallocs := by
  rw [Heap.free]
  split
  · rfl
  · split <;> rfl

theorem Affluent.close (h : Affluent w) (s : ℕ) : Affluent ((close s).state w) := by
  by_cases hnull : (w.buffers s).data = nullPtr
  · rw [state_close_of_null hnull]
    exact h
  · rw [state_close_of_ne hnull]
    intro k
    simpa [mallocs_free] using h k

theorem Held.close (h : Held w) (hs : s < wifiMaxSockNum) : Held ((close s).state w) := by
  refine ⟨?_, h.affluent.close s,
    placed_update h (buffers_close (h.eq_empty s hs)) (.inl rfl)⟩
  by_cases hnull : (w.buffers s).data = nullPtr
  · rw [state_close_of_null hnull]
    exact h.owned.congr rfl rfl
  · rw [state_close_of_ne hnull]
    exact h.owned.release hs hnull rfl (drained_update (e := .empty) rfl)

/-- The block of a socket is live. -/
theorem Held.data_live (h : Held w) (hs : s < wifiMaxSockNum)
    (hne : (w.buffers s).data ≠ nullPtr) :
    (w.buffers s).data.off = 0 ∧ (w.buffers s).data.obj ∈ w.heap.live := by
  obtain ⟨id, hdata, hlive⟩ := (h.owned.entries s hs).data_heap hne
  have hblock : (w.buffers s).data = ⟨.heap id 255, 0⟩ := hdata
  rw [hblock]
  exact ⟨rfl, hlive⟩

/-- Closing takes the block out of the heap. -/
theorem Held.live_close (h : Held w) (hs : s < wifiMaxSockNum)
    (hne : (w.buffers s).data ≠ nullPtr) :
    ((WiFiSocketBuffer.close s).state w).heap.live = w.heap.live.erase (w.buffers s).data.obj := by
  rw [state_close_of_ne hne, Heap.free, if_neg hne, if_pos (h.data_live hs hne)]

/-- The loop of `WiFiSocketBuffer_deinit` keeps what closing keeps. -/
theorem closeFrom_of_close {I : World → Prop}
    (hclose : ∀ w, I w → ∀ s < wifiMaxSockNum, I ((close s).state w)) {n i : ℕ} (h : I w)
    (hi : i + n ≤ wifiMaxSockNum) : I ((closeFrom n i).state w) := by
  induction n generalizing w i with
  | zero => exact h
  | succ n ih => exact ih (hclose w h i (by omega)) (by omega)

/-- Under an invariant by which a socket without a block has no window, it empties one entry
after the other. -/
theorem buffers_closeFrom {I : World → Prop}
    (hclose : ∀ w, I w → ∀ s < wifiMaxSockNum, I ((close s).state w))
    (hnull : ∀ w, I w → ∀ s < wifiMaxSockNum, (w.buffers s).data = nullPtr → w.buffers s = .empty)
    {n i : ℕ} (h : I w) (hi : i + n ≤ wifiMaxSockNum) :
    ((closeFrom n i).state w).bus = w.bus ∧
      ∀ t, ((closeFrom n i).state w).buffers t =
        if i ≤ t ∧ t < i + n then .empty else w.buffers t := by
  induction n generalizing w i with
  | zero =>
      refine ⟨rfl, ?_⟩
      intro t
      rw [if_neg (by omega)]
      rfl
  | succ n ih =>
      have hlt : i < wifiMaxSockNum := by omega
      obtain ⟨hbus, hbuffers⟩ := ih (i := i + 1) (hclose w h i hlt) (by omega)
      refine ⟨hbus.trans (bus_close w i), ?_⟩
      intro t
      simp only [closeFrom, Prog.state_bind, hbuffers, buffers_close (hnull w h i hlt),
        Function.update_apply]
      by_cases hti : t = i
      · rw [if_neg (by omega), if_pos hti, if_pos (by omega)]
      · rw [if_neg hti]
        exact if_congr (by omega) rfl rfl

/-- **Giving up the buffers**, under such an invariant. -/
theorem deinit_of_close {I : World → Prop}
    (hclose : ∀ w, I w → ∀ s < wifiMaxSockNum, I ((close s).state w))
    (hnull : ∀ w, I w → ∀ s < wifiMaxSockNum, (w.buffers s).data = nullPtr → w.buffers s = .empty)
    (h : I w) :
    I (deinit.state w) ∧ (deinit.state w).bus = w.bus ∧
      ∀ t < wifiMaxSockNum, (deinit.state w).buffers t = .empty := by
  have hall : 0 + wifiMaxSockNum ≤ wifiMaxSockNum := by omega
  obtain ⟨hbus, hbuffers⟩ := buffers_closeFrom hclose hnull h hall
  rw [WiFiSocketBuffer.deinit]
  refine ⟨closeFrom_of_close hclose h hall, hbus, ?_⟩
  intro t ht
  exact (hbuffers t).trans (if_pos (by omega))

theorem Held.deinit (h : Held w) :
    Held (WiFiSocketBuffer.deinit.state w) ∧ (WiFiSocketBuffer.deinit.state w).bus = w.bus ∧
      ∀ t < wifiMaxSockNum, (WiFiSocketBuffer.deinit.state w).buffers t = .empty :=
  deinit_of_close (I := Held) (fun _ hw _ hs => hw.close hs) (fun _ hw => hw.eq_empty) h

/-- Without buffers there are no blocks. -/
theorem Held.live_eq_nil (h : Held w) (hempty : ∀ t < wifiMaxSockNum, w.buffers t = .empty) :
    w.heap.live = [] := by
  refine List.eq_nil_iff_forall_not_mem.mpr ?_
  intro o ho
  obtain ⟨t, ht, hto⟩ := h.owned.owner o ho
  obtain ⟨id, -, rfl⟩ := h.owned.fresh o ho
  have hdata : (w.buffers t).data = ⟨.heap id 255, 0⟩ := hto
  rw [hempty t ht] at hdata
  simp [Entry.empty, nullPtr] at hdata

/-- **Nothing is left** after the buffers have been given up. -/
theorem Held.live_deinit (h : Held w) : (WiFiSocketBuffer.deinit.state w).heap.live = [] :=
  h.deinit.1.live_eq_nil h.deinit.2.2

end Held

end WiFiNINA
