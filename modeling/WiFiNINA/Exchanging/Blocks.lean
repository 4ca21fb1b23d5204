import Mathlib.Data.List.Perm.Subperm
import WiFiNINA.Exchanging.Library

/-!
# The heap under the whole library

Which block belongs to which socket depends neither on what the module answers nor on how much
is read, and not even on whether there is memory: an allocation that fails leaves a socket
without a block.  So in every run every live block belongs to exactly one socket, nothing is
freed twice, and giving up the buffers frees all.
-/

namespace WiFiNINA

open World WiFiSocketBuffer

/-- Every socket keeps its block, or goes on without. -/
structure SameBlocks (w w' : World) : Prop where
  heap : w'.heap = w.heap
  data : ∀ t, (w'.buffers t).data = (w.buffers t).data

/-- If the blocks are owned before, they are so after. -/
def KeepsBlocks (w w' : World) : Prop := Owned w.drained → Owned w'.drained

section Steps
variable {α β : Type} {w w' w'' : World} {s : ℕ}

theorem SameBlocks.keeps (h : SameBlocks w w') : KeepsBlocks w w' := by
  intro howned
  refine howned.congr h.heap (funext fun t => ?_)
  change (w'.buffers t).drained = (w.buffers t).drained
  rw [Entry.drained, Entry.drained, h.data t]

theorem KeepsBlocks.trans (h : KeepsBlocks w w') (h' : KeepsBlocks w' w'') :
    KeepsBlocks w w'' := fun howned => h' (h howned)

theorem keeps_then {p : Prog World α} {f : α → Prog World β} (hp : KeepsBlocks w (p.state w))
    (hf : KeepsBlocks (p.state w) ((f (p.val w)).state (p.state w))) :
    KeepsBlocks w ((p >>= f).state w) := hp.trans hf

theorem keeps_idle {p : Prog World α} (h : Idle p) : Prog.Guarantees KeepsBlocks p :=
  fun w => SameBlocks.keeps ⟨h.heap w, fun t => by rw [h.buffers w]⟩

theorem keeps_onBus (p : Prog Bus α) : Prog.Guarantees KeepsBlocks (onBus p) :=
  fun _ => SameBlocks.keeps ⟨rfl, fun _ => rfl⟩

/-- An entry that is written keeps its block. -/
theorem data_update {buffers : ℕ → Entry} {e : Entry} (h : e.data = (buffers s).data) (t : ℕ) :
    (Function.update buffers s e t).data = (buffers t).data := by
  by_cases hts : t = s
  · rw [hts, Function.update_self, h]
  · rw [Function.update_of_ne hts]

theorem sameBlocks_setEntry {e : Entry} (h : e.data = (w.buffers s).data) :
    SameBlocks w ((setEntry s e).state w) := ⟨rfl, data_update h⟩

/-- The oracle for the allocations has no part in the ownership. -/
theorem keeps_mallocs (w : World) (mallocs : ℕ → Bool) :
    KeepsBlocks w { w with heap := { w.heap with mallocs := mallocs } } :=
  fun h => ⟨h.entries, h.owner, h.unshared, h.fresh, h.nodup, h.badFrees⟩

/-- A socket without a block gets one, or goes on without. -/
theorem keeps_newBlock (hs : s < wifiMaxSockNum) (hnull : (w.buffers s).data = nullPtr) :
    KeepsBlocks w
      ((malloc wifiSocketBufferSize.toNat >>= fun p => setEntry s ⟨p, p, 0⟩).state w) := by
  have hsize : wifiSocketBufferSize.toNat = 255 := rfl
  rw [hsize]
  cases hm : w.heap.mallocs 0 with
  | true =>
      intro howned
      rw [Prog.state_bind, val_malloc 255 hm, state_malloc 255 hm]
      have hlive : (allocated w s).live = .heap w.heap.next 255 :: w.heap.live := by
        rw [allocated, if_pos hnull]
      have hheap : allocated w.drained s = { w.heap with
          live := .heap w.heap.next 255 :: w.heap.live
          next := w.heap.next + 1
          mallocs := fun k => w.heap.mallocs (k + 1) } := if_pos hnull
      refine howned.newBlock hs hnull hheap.symm (drained_update rfl) rfl ?_
      exact .window w.heap.next rfl (hheap ▸ List.mem_cons_self) rfl le_rfl
        (by simp [Entry.drained])
  | false =>
      have hval : (malloc 255).val w = nullPtr := by simp [malloc, hm]
      have hstate : (malloc 255).state w = { w with heap :=
          { w.heap with mallocs := fun k => w.heap.mallocs (k + 1) } } := by simp [malloc, hm]
      rw [Prog.state_bind, hval, hstate]
      exact (keeps_mallocs w _).trans (SameBlocks.keeps (sameBlocks_setEntry hnull.symm))

theorem keeps_allocate (hs : s < wifiMaxSockNum) : Prog.Guarantees KeepsBlocks (allocate s) := by
  intro w
  refine keeps_then (keeps_idle (idle_entry s) w) ?_
  rw [Prog.state_ite]
  split
  · next hnull => exact keeps_newBlock (w := (entry s).state w) hs hnull
  · exact id

/-- A refill gives a socket a block, if it has none and there is memory. -/
theorem keeps_refill (hs : s < wifiMaxSockNum) : Prog.Guarantees KeepsBlocks (refill s) := by
  intro w
  refine keeps_then (keeps_idle (idle_entry s) w) ?_
  rw [Prog.state_ite]
  split
  · refine keeps_then (keeps_allocate hs _) (keeps_then (keeps_onBus _ _)
      (keeps_then (keeps_idle (idle_entry s) _) (keeps_then (keeps_onBus _ _) ?_)))
    rw [Prog.state_ite]
    split
    · refine keeps_then (keeps_onBus _ _) (SameBlocks.keeps (sameBlocks_setEntry ?_))
      rfl
    · exact id
  · exact id

theorem keeps_read (hs : s < wifiMaxSockNum) (data : Ptr Obj) (length : UInt32) :
    Prog.Guarantees KeepsBlocks (WiFiSocketBuffer.read s data length) := by
  intro w
  obtain ⟨bus, n, size, indexed, hstate⟩ := state_read_cases w s data length
  refine (keeps_refill hs w).trans (SameBlocks.keeps ?_)
  rw [hstate]
  exact ⟨rfl, data_update rfl⟩

theorem keeps_close (hs : s < wifiMaxSockNum) : Prog.Guarantees KeepsBlocks (close s) := by
  intro w howned
  by_cases hnull : (w.buffers s).data = nullPtr
  · rw [state_close_of_null hnull]
    exact howned.congr rfl rfl
  · rw [state_close_of_ne hnull]
    exact howned.release hs hnull rfl (drained_update (e := .empty) rfl)

end Steps

section Runs
variable {u : Usage} {α : Type} {n : ℕ} {w : World}

/-- A usage of the sockets there are, that does not initialise the buffers again. -/
structure Usage.OnSockets (u : Usage) : Prop where
  sockets : ∀ s ∈ u.sockets, s < wifiMaxSockNum
  restart : ¬ u.restart

theorem addsUp_keepsBlocks : AddsUp fun _ => KeepsBlocks where
  refl _ := id
  trans := KeepsBlocks.trans
  mono h _ := h

theorem keeps_usageOp (hu : u.OnSockets) {p : Prog World α} (h : UsageOp u n p) :
    Prog.Guarantees KeepsBlocks p := by
  cases h with
  | bus => exact keeps_onBus _
  | idle h => exact keeps_idle h
  | init h => exact absurd h hu.restart
  | refill _ hs => exact keeps_refill (hu.sockets _ hs)
  | read _ hs => exact keeps_read (hu.sockets _ hs) _ _
  | close hs => exact keeps_close (hu.sockets _ hs)

theorem keeps_abides (hu : u.OnSockets) {p : Prog World α} (h : Abides u n p) :
    Prog.Guarantees KeepsBlocks p :=
  fun w => h.guarantees addsUp_keepsBlocks (fun _ _ _ => trivial)
    (fun h w _ => keeps_usageOp hu h w) w trivial

/-- **Runs** keep the ownership of the blocks. -/
theorem keeps_exec (hu : u.OnSockets) (hown : OwnMemory ⊆ u.memory) {cs : List ApiCall}
    (hC : ∀ c ∈ cs, c.commands ⊆ u.commands) (hcs : ∀ c ∈ cs, u.Permits c) (w : World) :
    KeepsBlocks w (api.exec w cs) := by
  induction cs generalizing w with
  | nil => exact id
  | cons c cs ih =>
      obtain ⟨hc, hcs⟩ := List.forall_mem_cons.mp hcs
      obtain ⟨hcmd, hC⟩ := List.forall_mem_cons.mp hC
      exact (keeps_abides hu (ApiCall.abides hown hcmd hc) w).trans (ih hC hcs (c.run.state w))

/-- There are no more blocks than sockets. -/
theorem Owned.length_live_le (h : Owned w) : w.heap.live.length ≤ wifiMaxSockNum := by
  have hsub : w.heap.live ⊆ (List.range wifiMaxSockNum).map fun s => (w.buffers s).data.obj := by
    intro o ho
    obtain ⟨s, hs, hdata⟩ := h.owner o ho
    exact List.mem_map.mpr ⟨s, List.mem_range.mpr hs, by rw [hdata]⟩
  have hle := (List.Nodup.subperm h.nodup hsub).length_le
  rwa [List.length_map, List.length_range] at hle

theorem data_close (w : World) (s t : ℕ) :
    (((close s).state w).buffers t).data = if t = s then nullPtr else (w.buffers t).data := by
  by_cases hnull : (w.buffers s).data = nullPtr
  · rw [state_close_of_null hnull]
    split
    · next hts => exact hts ▸ hnull
    · rfl
  · rw [state_close_of_ne hnull]
    change (Function.update w.buffers s .empty t).data = _
    by_cases hts : t = s
    · rw [if_pos hts, hts, Function.update_self]
      rfl
    · rw [if_neg hts, Function.update_of_ne hts]

theorem data_closeFrom (w : World) (n i t : ℕ) :
    (((closeFrom n i).state w).buffers t).data =
      if i ≤ t ∧ t < i + n then nullPtr else (w.buffers t).data := by
  induction n generalizing w i with
  | zero => exact (if_neg (by omega)).symm
  | succ n ih =>
      rw [closeFrom, Prog.state_bind, ih, data_close]
      by_cases hti : t = i
      · rw [if_neg (by omega), if_pos hti, if_pos (by omega)]
      · rw [if_neg hti]
        exact if_congr (by omega) rfl rfl

/-- Without blocks of the sockets there are none. -/
theorem Owned.live_eq_nil (h : Owned w.drained)
    (hnull : ∀ s < wifiMaxSockNum, (w.buffers s).data = nullPtr) : w.heap.live = [] := by
  refine List.eq_nil_iff_forall_not_mem.mpr fun o ho => ?_
  obtain ⟨s, hs, hdata⟩ := h.owner o ho
  obtain ⟨id, -, rfl⟩ := h.fresh o ho
  have hblock : (w.buffers s).data = ⟨.heap id 255, 0⟩ := hdata
  rw [hnull s hs] at hblock
  exact absurd hblock (by simp [nullPtr])

/-- **Nothing is left** when the buffers have been given up. -/
theorem Owned.deinit (h : Owned w.drained) :
    Owned (WiFiSocketBuffer.deinit.state w).drained ∧
      (WiFiSocketBuffer.deinit.state w).heap.live = [] := by
  have hall : 0 + wifiMaxSockNum ≤ wifiMaxSockNum := by omega
  have howned : Owned ((closeFrom wifiMaxSockNum 0).state w).drained :=
    closeFrom_of_close (I := fun w => Owned w.drained) (fun w hw s hs => keeps_close hs w hw) h hall
  refine ⟨howned, howned.live_eq_nil fun s hs => ?_⟩
  rw [data_closeFrom, if_pos (by omega)]

end Runs

/-- Calls on the ten sockets, of any length and with any destinations. -/
def Usage.onTen : Usage :=
  ⟨{s | s < wifiMaxSockNum}, Set.univ, Set.univ, 2 ^ 32, False⟩

/-- **Ownership of the blocks** in every run of the library: whether or not there is memory,
whatever the module answers and however much is read, every live block belongs to exactly one
socket, there are at most ten, only the starts of live blocks are freed, and
`WiFiSocketBuffer_deinit` leaves none. -/
theorem blocks_owned (w : World) (hlive : w.heap.live = []) (hfrees : w.heap.badFrees = [])
    (cs : List ApiCall) (hcs : ∀ c ∈ cs, Usage.onTen.Permits c) :
    Owned (api.exec (init.state w) cs).drained ∧
      (api.exec (init.state w) cs).heap.live.length ≤ wifiMaxSockNum ∧
      (api.exec (init.state w) cs).heap.badFrees = [] ∧
      (deinit.state (api.exec (init.state w) cs)).heap.live = [] ∧
      (deinit.state (api.exec (init.state w) cs)).heap.badFrees = [] := by
  have howned := keeps_exec (u := Usage.onTen) ⟨fun _ hs => hs, id⟩ (fun _ _ => trivial)
    (fun _ _ _ _ => trivial) hcs (init.state w) (owned_init hlive hfrees).drained
  exact ⟨howned, howned.length_live_le, howned.badFrees, howned.deinit.2, howned.deinit.1.badFrees⟩

/-- Every other allocation fails, and once too much is read. -/
theorem blocks_owned_scarce :
    Owned (api.exec (init.state { World.boot with heap := ⟨[], 0, fun k => k % 2 == 1, []⟩ })
      [.buffer (.available 3), .operate 4 (.read ⟨.user 0, 0⟩ 4294967295), .operate 5 .stop,
        .operate 3 .connected]).drained := by
  refine (blocks_owned { World.boot with heap := ⟨[], 0, fun k => k % 2 == 1, []⟩ } rfl rfl _
    fun c hc => ?_).1
  simp only [List.mem_cons, List.not_mem_nil, or_false] at hc
  rcases hc with rfl | rfl | rfl | rfl
  · exact show 3 < 10 by decide
  · exact ⟨show 4 < 10 by decide, fun _ _ => trivial, show 4294967295 < 2 ^ 32 by decide⟩
  · exact .inr (show 5 < 10 by decide)
  · exact .inr (show 3 < 10 by decide)

end WiFiNINA
