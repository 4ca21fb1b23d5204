import WiFiNINA.Exchanging.Blocks
import WiFiNINA.Exchanging.LockStep
import WiFiNINA.WiFiClient.ReadBounds

/-!
# Where the library stores

Whatever is called and whatever the module answers, the library stores only into its own
variables, into the memory that the functions called were lent, and into the blocks of the socket
buffers, up to their ends; but three variables are announced to the decoder with a larger capacity
than they have, and a reply may be stored behind them.  If there is no memory for a block, a fetch
goes to the null pointer.
-/

namespace WiFiNINA

open LengthCode SpiDrv ServerDrv World WiFiSocketBuffer

/-- The addresses in blocks of the socket buffers. -/
def BlockMemory : Set (Ptr Obj) := {a | ∃ id, a.obj = .heap id 255 ∧ a.off < 255}

/-- The memory of the usage and of the blocks; and, unless there is memory for all blocks, the
null pointer with what lies behind it. -/
def Footprint (u : Usage) (rich : Prop) : Set (Ptr Obj) :=
  {a | a ∈ u.memory ∨ a ∈ BlockMemory ∨ ¬ rich ∧ a ∈ span nullPtr 255}

/-- A window begins in the block. -/
def Entry.Anchored (e : Entry) : Prop := e.length ≠ 0 → e.head.obj = e.data.obj

/-- The sockets own their blocks, the windows are in them, and if `rich` there is memory for all
blocks to come. -/
structure Sane (rich : Prop) (w : World) : Prop where
  owned : Owned w.drained
  affluent : rich → Affluent w
  bounded : AllBounded w
  anchored : ∀ s < wifiMaxSockNum, (w.buffers s).Anchored

/-- From a sane state to a sane one, with stores inside the footprint only. -/
def StaysIn (u : Usage) (rich : Prop) (w w' : World) : Prop :=
  Sane rich w → Sane rich w' ∧ Memory.Confined (Footprint u rich) w.bus.mem w'.bus.mem

section Steps
variable {u : Usage} {rich : Prop} {α : Type} {n s : ℕ} {w w' w'' : World}

theorem addsUp_staysIn : AddsUp fun _ => StaysIn u rich where
  refl w h := ⟨h, .refl w.bus.mem⟩
  trans h h' hsane := by
    obtain ⟨hsane, hmem⟩ := h hsane
    obtain ⟨hsane, hmem'⟩ := h' hsane
    exact ⟨hsane, hmem.trans hmem'⟩
  mono h _ := h

theorem Sane.congr (h : Sane rich w) (hheap : w'.heap = w.heap)
    (hbuffers : w'.buffers = w.buffers) : Sane rich w' := by
  refine ⟨SameBlocks.keeps ⟨hheap, fun t => by rw [hbuffers]⟩ h.owned, fun hrich k => ?_, ?_, ?_⟩
  · rw [hheap]
    exact h.affluent hrich k
  · rw [AllBounded, hbuffers]
    exact h.bounded
  · rw [hbuffers]
    exact h.anchored

theorem Sane.anchored_touches (h : Sane rich w) (htouches : Touches s w w')
    (hs : (w'.buffers s).Anchored) : ∀ t < wifiMaxSockNum, (w'.buffers t).Anchored := by
  intro t ht
  by_cases hts : t = s
  · rwa [hts]
  · rw [htouches.buffers t hts]
    exact h.anchored t ht

theorem anchored_refill (hbounded : (w.buffers s).Bounded) (h : (w.buffers s).Anchored) :
    ((refillState w s).buffers s).Anchored := by
  by_cases hzero : (w.buffers s).length = 0
  · have hrefill := refills_place hzero hbounded.apart
    intro hne
    have hfilled : ¬ Vacant w.bus 0 := fun hvacant => hne (hrefill.length.trans (if_pos hvacant))
    rw [hrefill.head hfilled, hrefill.data]
  · rw [refillState, state_refill_of_ne hzero]
    exact h

theorem Entry.anchored_empty : Entry.empty.Anchored := fun hne => absurd rfl hne

theorem Entry.Anchored.advance {e : Entry} (h : e.Anchored) (hpos : 0 ≤ e.length)
    (length : UInt32) : (e.advance (e.taken length)).Anchored := by
  intro hne
  have hle := Entry.taken_le length hpos
  refine h fun hzero => hne ?_
  simp only [Entry.advance]
  omega

/-- A fetch stores its socket number, and what it receives. -/
theorem confined_getDataBuf {W : Set (Ptr Obj)} (hown : OwnMemory ⊆ W) (sock : UInt8)
    {data dataLen : Ptr Obj} {b : Bus} (h : Sized b dataLen)
    (hdata : ∀ a ∈ data.region 255, a ∈ W) :
    Memory.Confined W b.mem ((getDataBuf sock data dataLen).state b).mem := by
  rw [mem_getDataBuf _ _ h]
  have hsock : Memory.Confined W b.mem (b.mem.storeList ⟨.auto .sock 1, 0⟩ [sock]) :=
    Memory.confined_storeList b.mem fun a ha => hown (mem_ownMemory_of_auto (n := 1) le_rfl ha)
  refine hsock.trans (confined_storeParams _ (List.forall_mem_singleton.mpr hdata) ?_)
  rcases fetch_cases b with hfetch | ⟨x, hx, hfetch⟩
  · rw [hfetch]
    exact .nil
  · rw [hfetch]
    exact .cons hx .nil

/-- Where a fetch goes. -/
theorem Sane.place (h : Sane rich w) (hs : s < wifiMaxSockNum) :
    ∀ a ∈ (place w s).region 255, a ∈ Footprint u rich := by
  intro a ha
  obtain ⟨i, hi, rfl⟩ := Ptr.mem_region.mp ha
  rw [WiFiSocketBuffer.place] at ha ⊢
  split
  · split
    · exact .inr (.inl ⟨w.heap.next, rfl, by simpa using hi⟩)
    · next hm =>
        refine .inr (.inr ⟨fun hrich => hm (h.affluent hrich 0), ?_⟩)
        exact Ptr.mem_region.mpr ⟨i, hi, rfl⟩
  · next hne =>
      obtain ⟨id, hdata, -⟩ := (h.owned.entries s hs).data_heap hne
      have hblock : (w.buffers s).data = ⟨.heap id 255, 0⟩ := hdata
      rw [hblock]
      exact .inr (.inl ⟨id, rfl, by simpa using hi⟩)

/-- A refill stores into variables, and where its fetch goes. -/
theorem confined_refill (h : (w.buffers s).Bounded) :
    Memory.Confined {a | a ∈ OwnMemory ∨ a ∈ (WiFiSocketBuffer.place w s).region 255} w.bus.mem
      (refillState w s).bus.mem := by
  by_cases hzero : (w.buffers s).length = 0
  · rw [(refills_place hzero h.apart).bus]
    refine .trans ?_ (confined_getDataBuf (fun _ => .inl) _ (sized_fetching w) fun _ => .inr)
    exact Memory.confined_storeList w.bus.mem fun a ha =>
      .inl (mem_ownMemory_of_auto (n := 2) le_rfl ha)
  · rw [refillState, state_refill_of_ne hzero]
    exact .refl w.bus.mem

theorem staysIn_refill (hown : OwnMemory ⊆ u.memory) (hs : s < wifiMaxSockNum) :
    Prog.Guarantees (StaysIn u rich) (refill s) := by
  intro w h
  have htouches := touches_refill s w
  refine ⟨⟨keeps_refill hs w h.owned, fun hrich => ?_, ?_, ?_⟩, ?_⟩
  · exact (h.affluent hrich).refill (h.owned.obj_block hs)
  · exact bounded_of_touches h.bounded htouches (bounded_refill (h.bounded s hs))
  · exact h.anchored_touches htouches (anchored_refill (h.bounded s hs) (h.anchored s hs))
  · refine (confined_refill (h.bounded s hs)).mono fun a ha => ?_
    exact ha.elim (fun hvar => .inl (hown hvar)) (h.place hs a)

theorem staysIn_read (hown : OwnMemory ⊆ u.memory) (hs : s < wifiMaxSockNum) {data : Ptr Obj}
    {length : UInt32} (hdata : span data length.toNat ⊆ u.memory)
    (hlength : length.toNat < 2 ^ 31) :
    Prog.Guarantees (StaysIn u rich) (WiFiSocketBuffer.read s data length) := by
  intro w h
  obtain ⟨hsane, hmem⟩ := staysIn_refill hown hs w h
  have hbounded := hsane.bounded s hs
  obtain ⟨indexed, hstate⟩ := state_read data length hbounded.pos hbounded.le hlength
  have hread := bounded_read_of_bounds data length h.bounded hs (.inl hlength)
  refine ⟨⟨keeps_read hs data length w h.owned, ?_, hread, ?_⟩, hmem.trans ?_⟩
  · rw [hstate]
    exact hsane.affluent
  · refine h.anchored_touches (touches_read s data length w) ?_
    rw [hstate]
    simpa [readState] using (hsane.anchored s hs).advance hbounded.pos length
  · rw [hstate]
    refine Memory.confined_storeList _ fun a ha => .inl (hdata (Ptr.region_subset ?_ ha))
    rw [Memory.length_loadList]
    exact Nat.min_le_right _ _

theorem anchored_close (h : (w.buffers s).Anchored) : (((close s).state w).buffers s).Anchored := by
  by_cases hnull : (w.buffers s).data = nullPtr
  · rw [state_close_of_null hnull]
    exact h
  · rw [state_close_of_ne hnull]
    simpa using Entry.anchored_empty

theorem staysIn_close (hs : s < wifiMaxSockNum) : Prog.Guarantees (StaysIn u rich) (close s) := by
  intro w h
  have htouches := touches_close s w
  refine ⟨⟨keeps_close hs w h.owned, fun hrich => (h.affluent hrich).close s, ?_, ?_⟩, ?_⟩
  · exact bounded_of_touches h.bounded htouches (bounded_close (h.bounded s hs))
  · exact h.anchored_touches htouches (anchored_close (h.anchored s hs))
  · rw [bus_close]
    exact .refl w.bus.mem

theorem staysIn_usageOp (hu : u.OnSockets) (hown : OwnMemory ⊆ u.memory) (hlimit : u.limit ≤ 2 ^ 31)
    {p : Prog World α} (h : UsageOp u n p) : Prog.Guarantees (StaysIn u rich) p := by
  cases h with
  | bus h =>
      intro w hsane
      exact ⟨hsane.congr rfl rfl, (h.advances w.bus).memory.mono fun a ha => .inl ha⟩
  | idle h =>
      intro w hsane
      refine ⟨hsane.congr (h.heap w) (h.buffers w), ?_⟩
      rw [h.aside.bus_state]
      exact .refl w.bus.mem
  | init h => exact absurd h hu.restart
  | refill _ hs => exact staysIn_refill hown (hu.sockets _ hs)
  | read _ hs hdata hlength =>
      exact staysIn_read hown (hu.sockets _ hs) hdata (hlength.trans_le hlimit)
  | close hs => exact staysIn_close (hu.sockets _ hs)

end Steps

/-- Where a function may store outside the variables of the library and the blocks: in the memory
that it is lent, and behind a variable of one or four bytes that it announces with a larger
capacity. -/
def ApiCall.writable : ApiCall → Set (Ptr Obj)
  | wifi c => c.writable
  | driver c => c.writable
  | operate _ (.read buf size) => span buf size.toNat
  | operate _ (.write _ _) | operate _ (.writeChar _) => span (DriverCall.varAt .response 1) 256
  | buffer (.read _ data length) => span data length.toNat
  | _ => ∅

/-- The variables that are announced with a larger capacity, as far as that reaches. -/
def OverrunMemory : Set (Ptr Obj) :=
  span (DriverCall.varAt .data 1) 4 ∪ span (DriverCall.varAt .response 1) 256 ∪
    span (DriverCall.varAt .dataPtr 4) 255

/-- The memory that a function is lent. -/
def ApiCall.lent (c : ApiCall) : Set (Ptr Obj) := c.writable \ OverrunMemory

/-- Where a function may store behind one of its variables. -/
def ApiCall.overrun (c : ApiCall) : Set (Ptr Obj) := c.writable ∩ OverrunMemory

theorem ApiCall.mem_writable {c : ApiCall} {a : Ptr Obj} (h : a ∈ c.writable) :
    a ∈ c.lent ∨ a ∈ c.overrun := by
  rwa [← Set.sdiff_union_inter c.writable OverrunMemory] at h

namespace Usage

/-- Calls on the ten sockets with reads of lengths that an `int` holds. -/
def careful (memory : Set (Ptr Obj)) : Usage :=
  ⟨{s | s < wifiMaxSockNum}, Set.univ, memory, 2 ^ 31, False⟩

/-- The memory need not be larger than what the calls are lent. -/
theorem careful_permits {memory : Set (Ptr Obj)} {c : ApiCall} (h : (careful Set.univ).Permits c)
    (hmemory : c.writable ⊆ memory) : (careful memory).Permits c := by
  cases c with
  | wifi | driver => exact hmemory
  | connect | initBuffers => exact h
  | operate sock op =>
      cases op with
      | read => exact ⟨h.1, hmemory, h.2.2⟩
      | write | writeChar => exact hmemory
      | available | readChar | peek | flush | connected | status | stop | remoteIP | remotePort =>
          exact h
  | buffer c =>
      cases c with
      | read => exact ⟨h.1, hmemory, h.2.2⟩
      | available | peek | readChar | close | deinit => exact h

end Usage

theorem staysIn_exec {u : Usage} {rich : Prop} (hu : u.OnSockets) (hown : OwnMemory ⊆ u.memory)
    (hlimit : u.limit ≤ 2 ^ 31) {cs : List ApiCall} (hC : ∀ c ∈ cs, c.commands ⊆ u.commands)
    (hcs : ∀ c ∈ cs, u.Permits c) (w : World) :
    StaysIn u rich w (api.exec w cs) := by
  induction cs generalizing w with
  | nil => exact addsUp_staysIn.refl w
  | cons c cs ih =>
      obtain ⟨hc, hcs⟩ := List.forall_mem_cons.mp hcs
      obtain ⟨hcmd, hC⟩ := List.forall_mem_cons.mp hC
      have hcall : StaysIn u rich w (c.run.state w) :=
        (ApiCall.abides hown hcmd hc).guarantees addsUp_staysIn (fun _ _ _ => trivial)
          (fun h w _ => staysIn_usageOp hu hown hlimit h w) w trivial
      exact addsUp_staysIn.trans (m := 0) (n := 0) hcall (ih hC hcs (c.run.state w))

theorem sane_init {w : World} (hlive : w.heap.live = []) (hfrees : w.heap.badFrees = []) :
    Sane (Affluent w) (init.state w) := by
  refine ⟨(owned_init hlive hfrees).drained, id, bounded_init w, fun s hs => ?_⟩
  have hempty : (init.state w).buffers s = .empty := if_pos hs
  rw [hempty]
  exact Entry.anchored_empty

/-- A connection is opened and read from, and the power mode is set. -/
def lowPowerRun : List ApiCall :=
  [.connect (.connect 0 80) 1, .operate 0 (.read ⟨.user 0, 0⟩ 10), .wifi .lowPowerMode]

end WiFiNINA
