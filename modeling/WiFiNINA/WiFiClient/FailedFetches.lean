import WiFiNINA.WiFiClient.Connected

/-!
# Fetches that fail

`ServerDrv_getDataBuf` has one result for how much it received and for how much it asked for:
without a parameter in the reply it returns the size that it was given.  So a buffer counts as
full after a fetch that failed; and a block that could not be allocated is written to all the
same.
-/

namespace WiFiNINA

open LengthCode SpiDrv ServerDrv World WiFiSocketBuffer

namespace WiFiSocketBuffer

/-- The buffer of socket `s` is empty, with a block or without one. -/
structure EmptyBuffer (s : ℕ) (w : World) : Prop where
  length : (w.buffers s).length = 0
  data : (w.buffers s).data = nullPtr ∨ ∃ id, (w.buffers s).data = ⟨.heap id 255, 0⟩

/-- The fetch for socket `s` has no block to go to, or its reply is not accepted, or the payload
is empty. -/
def FetchFails (s : ℕ) (w : World) : Prop :=
  ((w.buffers s).data = nullPtr ∧ w.heap.mallocs 0 = false) ∨
    (parseReply getDatabufTcpCmd 1 [wifiSocketBufferSize] (reply wifiSocketBufferSize w.bus)).ret =
      0 ∨
    firstLength UInt16 (reply wifiSocketBufferSize w.bus) = 0

/-- The calls that look for data of socket `s` find none, and store nothing through a null
pointer. -/
structure ReportsNoData (s : ℕ) (w : World) : Prop where
  available : (available s).val w = 0
  length : (((WiFiSocketBuffer.available s).state w).buffers s).length = 0
  stores : ∀ a ∈ ((WiFiSocketBuffer.available s).state w).bus.mem.since w.bus.mem, a.obj ≠ .null
  peek : (peek s).val w = -1
  read : ∀ (data : Ptr Obj) (length : UInt32), (read s data length).val w = 0

section Fetch
variable {s : ℕ} {w : World}

theorem EmptyBuffer.apart (h : EmptyBuffer s w) : (w.buffers s).Apart := by
  intro var size
  rcases h.data with hnull | ⟨id, hheap⟩
  · rw [hnull]
    exact Obj.noConfusion
  · rw [hheap]
    exact Obj.noConfusion

/-- There is memory for the block, or there is one already. -/
theorem EmptyBuffer.obj_place (h : EmptyBuffer s w) :
    (place w s).obj ≠ .null ↔ ((w.buffers s).data = nullPtr → w.heap.mallocs 0 = true) := by
  rw [place]
  split
  · next hnull =>
      rw [forall_prop_of_true hnull]
      cases w.heap.mallocs 0 <;> simp [nullPtr]
  · next hne =>
      obtain ⟨id, hheap⟩ := h.data.resolve_left hne
      rw [hheap]
      simp [nullPtr]

/-- A fetch that brings an empty payload stores the zero behind it. -/
theorem fetch_of_vacant {b : Bus} (h : Vacant b 0) : fetch b = [[]] := by
  have hlength := (fetchedLength_eq_zero b).mpr h
  rcases fetch_cases b with hfetch | ⟨x, -, hfetch⟩
  · rw [hfetch] at hlength
    exact absurd hlength (by decide)
  · rw [hfetch] at hlength
    rw [hfetch, List.length_eq_zero_iff.mp hlength]

/-- A refill with an empty payload stores local variables of the library, and the zero. -/
theorem since_refill_of_vacant {p : Ptr Obj} (h : Refills s p w (refillState w s))
    (hvacant : Vacant w.bus 0) :
    ∃ pre, (refillState w s).bus.mem.since w.bus.mem = p :: pre ∧
      ∀ a ∈ pre, ∃ var size, a.obj = .auto var size := by
  refine ⟨((⟨.auto .sock 1, 0⟩ : Ptr Obj).region 1).reverse ++ (sizeVar.region 2).reverse, ?_, ?_⟩
  · refine Memory.since_of_log ?_
    rw [h.bus, mem_getDataBuf _ _ (sized_fetching w), fetch_fetching, fetch_of_vacant hvacant,
      storeParams_cons, storeParams_nil, Memory.log_storeList, Memory.log_storeList, fetching,
      Memory.log_storeList]
    rfl
  · intro a ha
    rcases List.mem_append.mp ha with ha | ha
    · exact ⟨_, _, Ptr.obj_of_mem_region (List.mem_reverse.mp ha)⟩
    · exact ⟨_, _, Ptr.obj_of_mem_region (List.mem_reverse.mp ha)⟩

/-- **When no data is reported**: the reply has an empty payload, and there was a block. -/
theorem EmptyBuffer.reportsNoData_iff (h : EmptyBuffer s w) :
    ReportsNoData s w ↔
      Vacant w.bus 0 ∧ ((w.buffers s).data = nullPtr → w.heap.mallocs 0 = true) := by
  have hrefill := refills_place h.length h.apart
  rw [← h.obj_place]
  constructor
  · intro hreports
    have hvacant : Vacant w.bus 0 := by
      by_contra hne
      have havailable := hreports.available
      rw [val_available, hrefill.length, if_neg hne] at havailable
      exact absurd havailable (by decide)
    obtain ⟨pre, hsince, -⟩ := since_refill_of_vacant hrefill hvacant
    refine ⟨hvacant, hreports.stores (place w s) ?_⟩
    rw [state_available, hsince]
    exact List.mem_cons_self
  · rintro ⟨hvacant, hplace⟩
    have hlength : ((refillState w s).buffers s).length = 0 := by
      rw [hrefill.length, if_pos hvacant]
    obtain ⟨pre, hsince, hpre⟩ := since_refill_of_vacant hrefill hvacant
    refine ⟨hlength, hlength, ?_, ?_, fun data length => val_read_of_zero data length hlength⟩
    · intro a ha
      rw [state_available, hsince] at ha
      rcases List.mem_cons.mp ha with rfl | ha
      · exact hplace
      · obtain ⟨var, size, hobj⟩ := hpre a ha
        rw [hobj]
        exact Obj.noConfusion
    · rw [val_peek, if_pos hlength]

/-- **Which failed fetches report no data**: those that bring an empty payload to a block. -/
theorem failed_fetch_iff (h : EmptyBuffer s w) :
    (FetchFails s w → ReportsNoData s w) ↔
      (FetchFails s w →
        Vacant w.bus 0 ∧ ((w.buffers s).data = nullPtr → w.heap.mallocs 0 = true)) :=
  imp_congr_right fun _ => h.reportsNoData_iff

end Fetch

/-- An empty payload. -/
theorem failed_fetch_vacant :
    ReportsNoData 3
      (bootWith fun _ => [startCmd, getDatabufTcpCmd ||| replyFlag, 1, 0, 0, endCmd]) :=
  (failed_fetch_iff ⟨rfl, .inl rfl⟩).mpr (fun _ => ⟨by decide, fun _ => rfl⟩)
    (.inr (.inr (by decide)))

/-- A reply to another command: 255 bytes are reported. -/
theorem not_reportsNoData_other :
    FetchFails 3 (bootWith fun _ => [startCmd, 0]) ∧
      ¬ ReportsNoData 3 (bootWith fun _ => [startCmd, 0]) := by
  have hempty : EmptyBuffer 3 (bootWith fun _ => [startCmd, 0]) := ⟨rfl, .inl rfl⟩
  refine ⟨.inr (.inl (by decide)), fun h => ?_⟩
  have havailable := h.available
  rw [val_available, (refills_place hempty.length hempty.apart).length,
    if_neg (by decide)] at havailable
  exact absurd havailable (by decide)

end WiFiSocketBuffer

end WiFiNINA
