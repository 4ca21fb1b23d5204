import WiFiNINA.Exchanging.Footprint
import WiFiNINA.WiFiSocketBuffer.Queue

/-!
# Sockets do not interfere

All sockets share the driver, the heap and the array of the buffers, and a fetch for one of them
stores as much as the module sends.  Still what is buffered for a socket can only be changed by
calls on that socket.
-/

namespace WiFiNINA

open World WiFiSocketBuffer

/-- From `w` to `w'` the entry of the socket `s` and its block were left alone. -/
structure Spares (s : ℕ) (w w' : World) : Prop where
  buffers : w'.buffers s = w.buffers s
  block : ∀ a : Ptr Obj, a.obj = (w.buffers s).data.obj → a.obj.IsHeap →
    w'.bus.mem.load a = w.bus.mem.load a

/-- Calls on the ten sockets but `s`, with reads of lengths that an `int` holds and destinations
outside the heap. -/
def Usage.beside (s : ℕ) : Usage :=
  ⟨{t | t < wifiMaxSockNum ∧ t ≠ s}, Set.univ, {a | ¬ a.obj.IsHeap}, 2 ^ 31, False⟩

/-- What a step beside `s` does to a sane world. -/
def StaysBeside (s : ℕ) (rich : Prop) (w w' : World) : Prop :=
  Sane rich w → Sane rich w' ∧ Spares s w w'

section Spares
variable {s t n : ℕ} {rich : Prop} {α : Type} {w w' w'' : World}

theorem Spares.refl (s : ℕ) (w : World) : Spares s w w := ⟨rfl, fun _ _ _ => rfl⟩

theorem Spares.trans (h : Spares s w w') (h' : Spares s w' w'') : Spares s w w'' := by
  refine ⟨h'.buffers.trans h.buffers, fun a ha hheap => ?_⟩
  rw [h'.block a (by rw [h.buffers, ha]) hheap, h.block a ha hheap]

theorem addsUp_staysBeside : AddsUp fun _ => StaysBeside s rich where
  refl w h := ⟨h, .refl s w⟩
  trans h h' hsane := by
    obtain ⟨hsane, hspares⟩ := h hsane
    obtain ⟨hsane, hspares'⟩ := h' hsane
    exact ⟨hsane, hspares.trans hspares'⟩
  mono h _ := h

/-- What is buffered stays, if it is in the block. -/
theorem Spares.queue (h : Spares s w w') (hne : (w.buffers s).data.obj.IsHeap)
    (hanchored : (w.buffers s).Anchored) : queue w' s = queue w s := by
  by_cases hzero : (w.buffers s).length = 0
  · rw [queue_of_length hzero, queue_of_length (h.buffers ▸ hzero)]
  · exact queue_congr (.inr ⟨hanchored hzero, hne⟩) h.buffers h.block

theorem ownMemory_subset (s : ℕ) : OwnMemory ⊆ (Usage.beside s).memory := by
  rintro a (⟨var, size, hobj, -⟩ | ⟨var, hobj, -⟩) hheap
  · rw [hobj] at hheap
    exact hheap
  · rw [hobj] at hheap
    exact hheap

/-- A fetch for another socket goes elsewhere. -/
theorem Sane.notMem_place (h : Sane rich w) (ht : t < wifiMaxSockNum) (hs : s < wifiMaxSockNum)
    (hts : t ≠ s) {a : Ptr Obj} (ha : a.obj = (w.buffers s).data.obj) (hheap : a.obj.IsHeap) :
    a ∉ (WiFiSocketBuffer.place w t).region 255 := by
  intro hmem
  have hobj : a.obj = (WiFiSocketBuffer.place w t).obj := Ptr.obj_of_mem_region hmem
  have hown : (w.buffers s).data ≠ nullPtr := by
    intro hnull
    exact hheap.ne_null (by rw [ha, hnull, nullPtr])
  have hblock : WiFiSocketBuffer.place w t = block w t := by
    rw [WiFiSocketBuffer.place, block]
    by_cases hnull : (w.buffers t).data = nullPtr
    · rw [if_pos hnull, if_pos hnull]
      by_cases hm : w.heap.mallocs 0
      · rw [if_pos hm]
      · rw [WiFiSocketBuffer.place, if_pos hnull, if_neg hm] at hobj
        exact absurd hobj hheap.ne_null
    · rw [if_neg hnull, if_neg hnull]
  rw [hblock] at hobj
  exact h.owned.block_ne ht hs hts.symm hown (ha.symm.trans hobj)

theorem spares_refill (h : Sane rich w) (ht : t < wifiMaxSockNum) (hs : s < wifiMaxSockNum)
    (hts : t ≠ s) : Spares s w (refillState w t) := by
  refine ⟨(touches_refill t w).buffers s hts.symm, fun a ha hheap => ?_⟩
  refine (confined_refill (h.bounded t ht)).load a ?_
  rintro (hown | hplace)
  · exact ownMemory_subset s hown hheap
  · exact h.notMem_place ht hs hts ha hheap hplace

theorem spares_read (h : Sane rich w) (ht : t < wifiMaxSockNum) (hs : s < wifiMaxSockNum)
    (hts : t ≠ s) {data : Ptr Obj} {length : UInt32}
    (hdata : span data length.toNat ⊆ (Usage.beside s).memory) (hlength : length.toNat < 2 ^ 31) :
    Spares s w ((WiFiSocketBuffer.read t data length).state w) := by
  have hbounded := bounded_refill (h.bounded t ht)
  obtain ⟨indexed, hstate⟩ := state_read data length hbounded.pos hbounded.le hlength
  refine ⟨(touches_read t data length w).buffers s hts.symm, fun a ha hheap => ?_⟩
  rw [hstate, ← (spares_refill h ht hs hts).block a ha hheap]
  refine Memory.load_storeList_of_notMem _ fun hmem => hdata (Ptr.region_subset ?_ hmem) hheap
  rw [Memory.length_loadList]
  exact Nat.min_le_right _ _

theorem staysBeside_usageOp (hs : s < wifiMaxSockNum) {p : Prog World α}
    (h : UsageOp (Usage.beside s) n p) : Prog.Guarantees (StaysBeside s rich) p := by
  have hten : (Usage.beside s).OnSockets := ⟨fun _ ht => ht.1, id⟩
  intro w hsane
  refine ⟨(staysIn_usageOp hten (ownMemory_subset s) le_rfl h w hsane).1, ?_⟩
  cases h with
  | bus h =>
      exact ⟨rfl, fun a _ hheap => (h.advances w.bus).memory.load a fun hmem => hmem hheap⟩
  | idle h =>
      refine ⟨by rw [h.buffers w], fun a _ _ => ?_⟩
      rw [h.aside.bus_state]
  | init h => exact h.elim
  | refill _ ht => exact spares_refill hsane ht.1 hs ht.2
  | read _ ht hdata hlength => exact spares_read hsane ht.1 hs ht.2 hdata hlength
  | close ht =>
      refine ⟨(touches_close _ w).buffers s ht.2.symm, fun a _ _ => ?_⟩
      rw [bus_close]

theorem staysBeside_exec (hs : s < wifiMaxSockNum) {cs : List ApiCall}
    (hcs : ∀ c ∈ cs, (Usage.beside s).Permits c) (w : World) :
    StaysBeside s rich w (api.exec w cs) := by
  induction cs generalizing w with
  | nil => exact addsUp_staysBeside.refl w
  | cons c cs ih =>
      obtain ⟨hc, hcs⟩ := List.forall_mem_cons.mp hcs
      have hcall : StaysBeside s rich w (c.run.state w) :=
        (ApiCall.abides (ownMemory_subset s) (fun _ _ => trivial) hc).guarantees addsUp_staysBeside
          (fun _ _ _ => trivial) (fun h w _ => staysBeside_usageOp hs h w) w trivial
      exact addsUp_staysBeside.trans (m := 0) (n := 0) hcall (ih hcs (c.run.state w))

end Spares

/-- **Sockets do not interfere.**  After a run on the ten sockets, calls on other sockets, and the
calls that name none, leave the entry of a socket as it is, and what is buffered in its block;
whatever the module answers, and whether or not there is memory.  `WiFiSocketBuffer_init` and
`WiFiSocketBuffer_deinit` are not among them, nor for socket zero the functions that connect. -/
theorem sockets_apart (w : World) (hlive : w.heap.live = []) (hfrees : w.heap.badFrees = [])
    {before : List ApiCall} (hbefore : ∀ c ∈ before, (Usage.careful Set.univ).Permits c) {s : ℕ}
    (hs : s < wifiMaxSockNum) {cs : List ApiCall} (hcs : ∀ c ∈ cs, (Usage.beside s).Permits c) :
    let v := api.exec (init.state w) before
    (api.exec v cs).buffers s = v.buffers s ∧
      ((v.buffers s).data ≠ nullPtr → queue (api.exec v cs) s = queue v s) := by
  intro v
  have hten : (Usage.careful Set.univ).OnSockets := ⟨fun _ hs => hs, id⟩
  have hsane : Sane (Affluent w) v := (staysIn_exec hten (fun _ _ => trivial) le_rfl
    (fun _ _ _ _ => trivial) hbefore (init.state w) (sane_init hlive hfrees)).1
  have hspares := (staysBeside_exec hs hcs v hsane).2
  refine ⟨hspares.buffers, fun hne => hspares.queue ?_ (hsane.anchored s hs)⟩
  obtain ⟨id, hdata, -⟩ := (hsane.owned.entries s hs).data_heap hne
  have hblock : (v.buffers s).data = ⟨.heap id 255, 0⟩ := hdata
  rw [hblock]
  trivial

/-- What has been received on socket three stays while socket zero is connected, read from and
stopped. -/
theorem sockets_apart_three :
    let v := api.exec (init.state World.boot) [.buffer (.available 3)]
    (api.exec v [.connect (.connect 0 80) 1, .operate 0 (.read ⟨.user 0, 0⟩ 10), .wifi .status,
        .operate 0 .stop]).buffers 3 = v.buffers 3 ∧
      ((v.buffers 3).data ≠ nullPtr → queue (api.exec v [.connect (.connect 0 80) 1,
        .operate 0 (.read ⟨.user 0, 0⟩ 10), .wifi .status, .operate 0 .stop]) 3 = queue v 3) := by
  refine sockets_apart World.boot rfl rfl ?_ (by decide) fun c hc => ?_
  · exact List.forall_mem_singleton.mpr (show 3 < 10 by decide)
  · have hzero : 0 ∈ (Usage.beside 3).sockets := ⟨by decide, by decide⟩
    simp only [List.mem_cons, List.not_mem_nil, or_false] at hc
    rcases hc with rfl | rfl | rfl | rfl
    · exact hzero
    · refine ⟨hzero, fun a ha hheap => ?_, show 10 < 2 ^ 31 by decide⟩
      rw [Ptr.obj_of_mem_region ha] at hheap
      exact hheap
    · exact fun a ha => ha.elim
    · exact .inr hzero

end WiFiNINA
