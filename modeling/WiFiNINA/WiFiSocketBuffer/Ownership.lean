import WiFiNINA.WiFiSocketBuffer.Spec

/-!
# Who owns which block

Every live block belongs to exactly one socket, whose window lies inside it.  The
invariant does not mention the driver, so it is kept by whatever the driver does;
it fails only if an entry or the heap changes in a way the calls do not allow.
-/

namespace WiFiNINA

open SpiDrv ServerDrv World WiFiSocketBuffer

/-- An entry either has no buffer, or its window lies inside a live block. -/
inductive Entry.Ok (e : Entry) (live : List Obj) : Prop
  | null : e = .empty → Entry.Ok e live
  | window (id : ℕ) : e.data = ⟨.heap id 255, 0⟩ → .heap id 255 ∈ live →
      e.head.obj = .heap id 255 → 0 ≤ e.length → e.head.off + e.length ≤ 255 → Entry.Ok e live

/-- The representation and ownership invariant of `_buffers`. -/
structure Owned (w : World) : Prop where
  entries : ∀ s < wifiMaxSockNum, (w.buffers s).Ok w.heap.live
  /-- Every live block is the buffer of a socket, -/
  owner : ∀ o ∈ w.heap.live, ∃ s < wifiMaxSockNum, (w.buffers s).data = ⟨o, 0⟩
  /-- and of only one. -/
  unshared : ∀ s < wifiMaxSockNum, ∀ t < wifiMaxSockNum, (w.buffers s).data ≠ nullPtr →
    (w.buffers s).data = (w.buffers t).data → s = t
  fresh : ∀ o ∈ w.heap.live, ∃ id < w.heap.next, o = .heap id 255
  nodup : w.heap.live.Nodup
  badFrees : w.heap.badFrees = []

/-- The allocations to come succeed. -/
def Affluent (w : World) : Prop := ∀ k, w.heap.mallocs k = true

section Entry
variable {e : Entry} {live live' : List Obj}

theorem Entry.Ok.mono (h : e.Ok live) (hsub : live ⊆ live') : e.Ok live' := by
  cases h with
  | null h => exact .null h
  | window id hdata hlive hhead hpos hle => exact .window id hdata (hsub hlive) hhead hpos hle

theorem Entry.Ok.eq_empty (h : e.Ok live) (hnull : e.data = nullPtr) : e = .empty := by
  cases h with
  | null h => exact h
  | window id hdata _ _ _ _ =>
      rw [hdata] at hnull
      exact absurd hnull (by simp [nullPtr])

theorem Entry.Ok.data_heap (h : e.Ok live) (hne : e.data ≠ nullPtr) :
    ∃ id, e.data = ⟨.heap id 255, 0⟩ ∧ .heap id 255 ∈ live := by
  cases h with
  | null h => exact absurd (by rw [h]; rfl) hne
  | window id hdata hlive _ _ _ => exact ⟨id, hdata, hlive⟩

end Entry

section Keep
variable {w w' : World} {s : ℕ} {e : Entry}

theorem Owned.congr (h : Owned w) (hheap : w'.heap = w.heap) (hbuffers : w'.buffers = w.buffers) :
    Owned w' := by
  obtain ⟨h₁, h₂, h₃, h₄, h₅, h₆⟩ := h
  exact ⟨by rwa [hheap, hbuffers], by rwa [hheap, hbuffers], by rwa [hbuffers],
    by rwa [hheap], by rwa [hheap], by rwa [hheap]⟩

/-- Moving the window of a socket inside its block. -/
theorem Owned.setWindow (h : Owned w) (hheap : w'.heap = w.heap)
    (hbuffers : w'.buffers = Function.update w.buffers s e) (hdata : e.data = (w.buffers s).data)
    (hok : e.Ok w.heap.live) : Owned w' := by
  have hsame : ∀ t, (w'.buffers t).data = (w.buffers t).data := by
    intro t
    rw [hbuffers]
    by_cases ht : t = s
    · subst ht
      rw [Function.update_self, hdata]
    · rw [Function.update_of_ne ht]
  refine ⟨?_, ?_, ?_, by rw [hheap]; exact h.fresh, by rw [hheap]; exact h.nodup,
    by rw [hheap]; exact h.badFrees⟩
  · intro t ht
    rw [hheap, hbuffers]
    by_cases hts : t = s
    · subst hts
      rwa [Function.update_self]
    · rw [Function.update_of_ne hts]
      exact h.entries t ht
  · intro o ho
    rw [hheap] at ho
    obtain ⟨t, ht, hto⟩ := h.owner o ho
    exact ⟨t, ht, by rw [hsame, hto]⟩
  · intro t ht u hu
    rw [hsame, hsame]
    exact h.unshared t ht u hu

/-- A block that is new to the heap is no socket's. -/
theorem Owned.data_ne_next (h : Owned w) {t : ℕ} (ht : t < wifiMaxSockNum) :
    (w.buffers t).data ≠ ⟨.heap w.heap.next 255, 0⟩ := by
  intro heq
  obtain ⟨id, hdata, hlive⟩ := (h.entries t ht).data_heap (by rw [heq]; simp [nullPtr])
  obtain ⟨id', hlt, hid⟩ := h.fresh _ hlive
  rw [heq] at hdata
  simp only [Ptr.mk.injEq, Obj.heap.injEq, and_true] at hdata hid
  omega

/-- Giving a socket without a buffer a new block. -/
theorem Owned.newBlock (h : Owned w) (hs : s < wifiMaxSockNum)
    (hnull : (w.buffers s).data = nullPtr) (hheap : w'.heap = allocated w s)
    (hbuffers : w'.buffers = Function.update w.buffers s e)
    (hdata : e.data = ⟨.heap w.heap.next 255, 0⟩) (hok : e.Ok (allocated w s).live) :
    Owned w' := by
  have hlive : (allocated w s).live = .heap w.heap.next 255 :: w.heap.live := by
    rw [allocated, if_pos hnull]
  have hself : (w'.buffers s).data = ⟨.heap w.heap.next 255, 0⟩ := by
    rw [hbuffers, Function.update_self, hdata]
  have hother : ∀ t, t ≠ s → w'.buffers t = w.buffers t := by
    intro t ht
    rw [hbuffers, Function.update_of_ne ht]
  refine ⟨?_, ?_, ?_, ?_, ?_, ?_⟩
  · intro t ht
    by_cases hts : t = s
    · subst hts
      rwa [hheap, hbuffers, Function.update_self]
    · rw [hother t hts, hheap, hlive]
      exact (h.entries t ht).mono (List.subset_cons_self _ _)
  · intro o ho
    rw [hheap, hlive] at ho
    rcases List.mem_cons.mp ho with rfl | ho
    · exact ⟨s, hs, hself⟩
    · obtain ⟨t, ht, hto⟩ := h.owner o ho
      have hts : t ≠ s := by
        rintro rfl
        rw [hnull] at hto
        obtain ⟨id, -, rfl⟩ := h.fresh o ho
        simp [nullPtr] at hto
      exact ⟨t, ht, by rw [hother t hts, hto]⟩
  · intro t ht u hu hne heq
    by_cases hts : t = s <;> by_cases hus : u = s
    · rw [hts, hus]
    · subst hts
      rw [hself, hother u hus] at heq
      exact absurd heq.symm (h.data_ne_next hu)
    · subst hus
      rw [hself, hother t hts] at heq
      exact absurd heq (h.data_ne_next ht)
    · rw [hother t hts] at hne heq
      rw [hother u hus] at heq
      exact h.unshared t ht u hu hne heq
  · intro o ho
    rw [hheap, hlive] at ho
    rw [hheap, allocated, if_pos hnull]
    rcases List.mem_cons.mp ho with rfl | ho
    · exact ⟨w.heap.next, Nat.lt_succ_self _, rfl⟩
    · obtain ⟨id, hid, rfl⟩ := h.fresh o ho
      exact ⟨id, Nat.lt_succ_of_lt hid, rfl⟩
  · rw [hheap, hlive]
    refine List.nodup_cons.mpr ⟨fun hmem => ?_, h.nodup⟩
    obtain ⟨id, hid, heq⟩ := h.fresh _ hmem
    simp only [Obj.heap.injEq, and_true] at heq
    omega
  · rw [hheap, allocated, if_pos hnull]
    exact h.badFrees

/-- Releasing the buffer of a socket. -/
theorem Owned.release (h : Owned w) (hs : s < wifiMaxSockNum)
    (hne : (w.buffers s).data ≠ nullPtr) (hheap : w'.heap = w.heap.free (w.buffers s).data)
    (hbuffers : w'.buffers = Function.update w.buffers s .empty) : Owned w' := by
  obtain ⟨id, hdata, hmem⟩ := (h.entries s hs).data_heap hne
  have hfree : w.heap.free (w.buffers s).data =
      { w.heap with live := w.heap.live.erase (.heap id 255) } := by
    rw [Heap.free, if_neg hne, hdata, if_pos ⟨rfl, hmem⟩]
  have hother : ∀ t, t ≠ s → w'.buffers t = w.buffers t := by
    intro t ht
    rw [hbuffers, Function.update_of_ne ht]
  have hself : w'.buffers s = .empty := by rw [hbuffers, Function.update_self]
  refine ⟨?_, ?_, ?_, ?_, ?_, ?_⟩
  · intro t ht
    by_cases hts : t = s
    · rw [hts, hself]
      exact .null rfl
    · rw [hother t hts, hheap, hfree]
      cases h.entries t ht with
      | null hnull => exact .null hnull
      | window i hd hlive hhead hpos hle =>
          refine .window i hd ?_ hhead hpos hle
          -- another socket's block is another block
          refine (List.mem_erase_of_ne fun heq => hts ?_).mpr hlive
          exact h.unshared t ht s hs (by rw [hd]; simp [nullPtr]) (by rw [hd, hdata, heq])
  · intro o ho
    rw [hheap, hfree] at ho
    obtain ⟨hoid, ho⟩ := (h.nodup.mem_erase_iff).mp ho
    obtain ⟨t, ht, hto⟩ := h.owner o ho
    have hts : t ≠ s := by
      rintro rfl
      rw [hdata] at hto
      simp only [Ptr.mk.injEq, and_true] at hto
      exact hoid hto.symm
    exact ⟨t, ht, by rw [hother t hts, hto]⟩
  · intro t ht u hu htne heq
    by_cases hts : t = s
    · rw [hts, hself] at htne
      exact absurd rfl htne
    · by_cases hus : u = s
      · rw [hus, hself] at heq
        exact absurd heq htne
      · rw [hother t hts] at htne heq
        rw [hother u hus] at heq
        exact h.unshared t ht u hu htne heq
  · intro o ho
    rw [hheap, hfree] at ho
    rw [hheap, hfree]
    exact h.fresh o (List.mem_of_mem_erase ho)
  · rw [hheap, hfree]
    exact h.nodup.erase _
  · rw [hheap, hfree]
    exact h.badFrees

end Keep

section Calls
variable {w w' : World} {s : ℕ}

/-- A fetch goes to a live block. -/
theorem Owned.block_heap (h : Owned w) (hs : s < wifiMaxSockNum) :
    ∃ id, block w s = ⟨.heap id 255, 0⟩ ∧ .heap id 255 ∈ (allocated w s).live := by
  by_cases hnull : (w.buffers s).data = nullPtr
  · exact ⟨w.heap.next, by simp [block, allocated, hnull]⟩
  · obtain ⟨id, hdata, hlive⟩ := (h.entries s hs).data_heap hnull
    exact ⟨id, by rwa [block, if_neg hnull], by rwa [allocated, if_neg hnull]⟩

theorem refilled_data (w : World) (s : ℕ) : (refilled w s).data = block w s := by
  rw [refilled]
  split <;> rfl

theorem Owned.refilled_ok (h : Owned w) (hs : s < wifiMaxSockNum)
    (hzero : (w.buffers s).length = 0) : (refilled w s).Ok (allocated w s).live := by
  obtain ⟨id, hblock, hlive⟩ := h.block_heap hs
  rw [refilled]
  split
  · exact .window id hblock hlive (by rw [hblock]) (by simp) (by simp [hblock])
  · by_cases hnull : (w.buffers s).data = nullPtr
    · rw [if_pos hnull]
      exact .window id hblock hlive (by rw [hblock]) le_rfl (by simp [hblock])
    · rw [if_neg hnull]
      cases h.entries s hs with
      | null hempty => exact absurd (by rw [hempty]; rfl) hnull
      | window i hdata _ hhead _ hle =>
          rw [block, if_neg hnull, hdata] at hblock
          rw [hzero] at hle
          rw [block, if_neg hnull]
          refine .window id (by rw [hdata, hblock]) hlive ?_ le_rfl hle
          rw [hhead]
          exact congrArg Ptr.obj hblock

theorem Owned.obj_block (h : Owned w) (hs : s < wifiMaxSockNum) :
    (block w s).obj ≠ .auto .size 2 := by
  obtain ⟨id, hblock, -⟩ := h.block_heap hs
  simp [hblock]

/-- What a refill of `s` makes of `w`: nothing where there is data, and otherwise it fetches into
the block. -/
def RefillResult (s : ℕ) (w w' : World) : Prop :=
  ((w.buffers s).length ≠ 0 ∧ w' = { w with indexed := s :: w.indexed }) ∨
    ((w.buffers s).length = 0 ∧ ∃ indexed, w' =
      { w with
        bus := (getDataBuf (UInt8.ofNat s) (block w s) sizeVar).state (fetching w)
        heap := allocated w s
        buffers := Function.update w.buffers s (refilled w s)
        indexed := indexed })

theorem refillState_cases (hm : Affluent w) (hblock : (block w s).obj ≠ .auto .size 2) :
    RefillResult s w (refillState w s) := by
  by_cases hzero : (w.buffers s).length = 0
  · exact .inr ⟨hzero, state_refill_of_zero (hm 0) hzero hblock⟩
  · exact .inl ⟨hzero, state_refill_of_ne hzero⟩

theorem Owned.refill (h : Owned w) (hm : Affluent w) (hs : s < wifiMaxSockNum) :
    Owned (refillState w s) := by
  obtain ⟨-, hstate⟩ | ⟨hzero, indexed, hstate⟩ := refillState_cases hm (h.obj_block hs)
  · rw [hstate]
    exact h.congr rfl rfl
  · rw [hstate]
    have hok := h.refilled_ok hs hzero
    by_cases hnull : (w.buffers s).data = nullPtr
    · refine h.newBlock hs hnull rfl rfl ?_ hok
      rw [refilled_data, block, if_pos hnull]
    · have hheap : allocated w s = w.heap := by rw [allocated, if_neg hnull]
      refine h.setWindow hheap rfl ?_ (by rwa [hheap] at hok)
      rw [refilled_data, block, if_neg hnull]

theorem Affluent.refill (hm : Affluent w) (hblock : (block w s).obj ≠ .auto .size 2) :
    Affluent (refillState w s) := by
  obtain ⟨-, hstate⟩ | ⟨-, indexed, hstate⟩ := refillState_cases hm hblock
  · rwa [hstate]
  · rw [hstate]
    intro k
    by_cases hnull : (w.buffers s).data = nullPtr
    · simpa [allocated, hnull] using hm (k + 1)
    · simpa [allocated, hnull] using hm k

theorem Owned.length_le (h : Owned w) (hs : s < wifiMaxSockNum) :
    0 ≤ (w.buffers s).length ∧ (w.buffers s).length ≤ 255 := by
  cases h.entries s hs with
  | null hempty => simp [hempty, Entry.empty]
  | window _ _ _ _ hpos hle => exact ⟨hpos, by omega⟩

theorem Entry.Ok.advance {e : Entry} {live : List Obj} (h : e.Ok live) {n : ℕ}
    (hn : (n : ℤ) ≤ e.length) : (e.advance n).Ok live := by
  cases h with
  | null hempty =>
      rw [hempty] at hn
      obtain rfl : n = 0 := by simpa [Entry.empty] using hn
      rw [Entry.advance_zero]
      exact .null hempty
  | window id hdata hlive hhead hpos hle =>
      refine .window id hdata hlive hhead ?_ ?_
      · simp only [Entry.advance]
        omega
      · simp only [Entry.advance, Ptr.off_add]
        omega

theorem Owned.read (h : Owned w) (hs : s < wifiMaxSockNum) (data : Ptr Obj) {n : ℕ}
    (hn : (n : ℤ) ≤ (w.buffers s).length) : Owned (readState w s data n) :=
  h.setWindow rfl rfl rfl ((h.entries s hs).advance hn)

theorem Owned.close (h : Owned w) (hs : s < wifiMaxSockNum) : Owned ((close s).state w) := by
  by_cases hnull : (w.buffers s).data = nullPtr
  · rw [state_close_of_null hnull]
    exact h.congr rfl rfl
  · rw [state_close_of_ne hnull]
    exact h.release hs hnull rfl rfl

end Calls

end WiFiNINA
