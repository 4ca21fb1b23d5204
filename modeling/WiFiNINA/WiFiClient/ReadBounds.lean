import WiFiNINA.WiFiClient.Checks
import WiFiNINA.WiFiClient.Windows

/-!
# Reads of any length

`WiFiSocketBuffer_read` compares the length asked for with what is there as an `int`.  A
length of 2^31 bytes or more is negative then, and is not cut: as many bytes are copied, and
the window wraps.  All shorter reads are bounded.

Nothing is assumed about allocation, about the driver or about where an application reads to.
-/

namespace WiFiNINA

open LengthCode SpiDrv ServerDrv World WiFiSocketBuffer

/-- A read copies as many bytes as there are and as are asked for, from inside the window,
returns their number and leaves the rest of the window. -/
structure BoundedRead (s : ℕ) (data : Ptr Obj) (length : UInt32) (w : World) : Prop where
  nonneg : 0 ≤ (available s).val w
  val : (WiFiSocketBuffer.read s data length).val w =
    min ((available s).val w) (length.toNat : ℤ)
  copied : ((WiFiSocketBuffer.read s data length).state w).bus.mem =
    (refillState w s).bus.mem.storeList data
      ((refillState w s).bus.mem.loadList ((refillState w s).buffers s).head
        ((WiFiSocketBuffer.read s data length).val w).toNat)
  inside : ∀ p ∈ ((refillState w s).buffers s).head.region
    ((WiFiSocketBuffer.read s data length).val w).toNat, p ∈ windowOf (refillState w s) s
  lower : 0 ≤ (((WiFiSocketBuffer.read s data length).state w).buffers s).length
  upper : (((WiFiSocketBuffer.read s data length).state w).buffers s).length ≤
    ((refillState w s).buffers s).length
  obj : (((WiFiSocketBuffer.read s data length).state w).buffers s).head.obj =
    ((refillState w s).buffers s).head.obj
  /-- The window ends where it did. -/
  off : (((WiFiSocketBuffer.read s data length).state w).buffers s).head.off +
      (((WiFiSocketBuffer.read s data length).state w).buffers s).length =
    ((refillState w s).buffers s).head.off + ((refillState w s).buffers s).length

section Read
variable {w : World} {s : ℕ} {data : Ptr Obj} {length : UInt32}

theorem boundedRead_of_zero (h : ((refillState w s).buffers s).length = 0) :
    BoundedRead s data length w := by
  have hval := val_read_of_zero data length h
  have hstate := state_read_of_zero data length h
  refine ⟨by rw [val_available, h], ?_, ?_, ?_, ?_, ?_, ?_, ?_⟩
  · rw [hval, val_available, h]
    omega
  · rw [hstate, hval]
    rfl
  · rw [hval]
    intro p hp
    exact absurd hp List.not_mem_nil
  all_goals rw [hstate, state_available]
  exact h.ge

theorem boundedRead_of_lt (h : (w.buffers s).Bounded) (hlength : length.toNat < 2 ^ 31) :
    BoundedRead s data length w := by
  have hrefill := bounded_refill h
  have hval := val_read data length hrefill.pos hrefill.le hlength
  obtain ⟨indexed, hstate⟩ := state_read data length hrefill.pos hrefill.le hlength
  have htaken := Entry.taken_le length hrefill.pos
  have hentry : ((WiFiSocketBuffer.read s data length).state w).buffers s =
      ((refillState w s).buffers s).advance (((refillState w s).buffers s).taken length) := by
    rw [hstate]
    exact Function.update_self _ _ _
  refine ⟨hrefill.pos, ?_, ?_, ?_, ?_, ?_, ?_, ?_⟩
  · rw [hval, val_available, Entry.taken]
    have hpos := hrefill.pos
    omega
  · rw [hval, hstate, Int.toNat_natCast]
    rfl
  · rw [hval, Int.toNat_natCast]
    intro p hp
    exact Ptr.region_subset (Nat.min_le_left _ _) hp
  · rw [hentry, Entry.advance]
    exact sub_nonneg.mpr htaken
  · rw [hentry, Entry.advance]
    exact sub_le_self _ (Int.natCast_nonneg _)
  · rw [hentry]
    rfl
  · rw [hentry]
    simp only [Entry.advance, Ptr.off_add]
    omega

/-- A length that is negative as an `int` is not cut. -/
theorem val_read_of_le (data : Ptr Obj) (h : (w.buffers s).Bounded)
    (hne : ((refillState w s).buffers s).length ≠ 0) (hlength : 2 ^ 31 ≤ length.toNat) :
    (WiFiSocketBuffer.read s data length).val w < 0 := by
  have hneg := toInt_of_le hlength
  have hclip : clipLength ((refillState w s).buffers s).length length = length := by
    rw [clipLength, if_neg]
    have hpos := (bounded_refill h).pos
    omega
  rw [val_read_of_ne data length hne hclip]
  exact hneg

/-- **Which reads are bounded**: those of a length that an `int` holds, and those that find
nothing. -/
theorem boundedRead_iff (h : (w.buffers s).Bounded) :
    BoundedRead s data length w ↔
      length.toNat < 2 ^ 31 ∨ ((w.buffers s).length = 0 ∧ Vacant w.bus 0) := by
  rw [← length_refill_eq_zero h.apart]
  constructor
  · intro hread
    by_contra hnot
    obtain ⟨hlong, hne⟩ := not_or.mp hnot
    have hneg := val_read_of_le data h hne (Nat.le_of_not_lt hlong)
    have hval := hread.val
    have hpos := hread.nonneg
    omega
  · rintro (hlength | hzero)
    · exact boundedRead_of_lt h hlength
    · exact boundedRead_of_zero hzero

end Read

namespace Request

/-- The socket must exist. -/
def InRange : Request → Prop
  | call (.available socket) | call (.peek socket) | call (.read socket _ _)
  | call (.close socket) => socket < wifiMaxSockNum
  | call (.readChar sock) | connected sock => sock.toNat < wifiMaxSockNum
  | call .deinit => True

/-- A length to read is one that an `int` holds, or there is nothing to read: the buffer is
empty and the reply to the fetch brings an empty payload. -/
def Bounds (w : World) : Request → Prop
  | call (.read socket _ length) =>
      length.toNat < 2 ^ 31 ∨ ((w.buffers socket).length = 0 ∧ Vacant w.bus 0)
  | call (.available _) | call (.peek _) | call (.readChar _) | call (.close _) | call .deinit
  | connected _ => True

end Request

/-- Requests for any sockets, with any lengths and destinations, whatever became of the driver
before. -/
def accesses : System World Visit where
  enabled _ v := v.request.InRange
  next w v := v.request.run.state { w with bus := v.bus }

/-- The read of a visit, if it is one, is bounded. -/
def Visit.Bounds (w : World) (v : Visit) : Prop := v.request.Bounds { w with bus := v.bus }

/-- The windows of all sockets fit a block. -/
def AllBounded (w : World) : Prop := ∀ s < wifiMaxSockNum, (w.buffers s).Bounded

section Runs
variable {w w' : World} {s : ℕ} {r : Request} {vs : List Visit}

theorem bounded_of_touches (h : AllBounded w) (htouches : Touches s w w')
    (hs : (w'.buffers s).Bounded) : AllBounded w' := by
  intro t ht
  by_cases hts : t = s
  · rwa [hts]
  · rw [htouches.buffers t hts]
    exact h t ht

theorem bounded_available (h : AllBounded w) (hs : s < wifiMaxSockNum) :
    AllBounded ((available s).state w) :=
  bounded_of_touches h (touches_available s w) (bounded_refill (h s hs))

theorem bounded_read_of_bounds (data : Ptr Obj) (length : UInt32) (h : AllBounded w)
    (hs : s < wifiMaxSockNum) (hbounds : (Request.call (.read s data length)).Bounds w) :
    AllBounded ((WiFiSocketBuffer.read s data length).state w) := by
  refine bounded_of_touches h (touches_read s data length w) ?_
  have hrefill := bounded_refill (h s hs)
  rcases hbounds with hlength | hnone
  · obtain ⟨indexed, hstate⟩ := state_read data length hrefill.pos hrefill.le hlength
    rw [hstate]
    exact bounded_read data hrefill (Entry.taken_le length hrefill.pos)
  · rw [state_read_of_zero data length ((length_refill_eq_zero (h s hs).apart).mpr hnone)]
    exact hrefill

/-- **One request** keeps the windows inside their blocks, if its read is bounded. -/
theorem Request.bounded (h : AllBounded w) (hr : r.InRange) (hbounds : r.Bounds w) :
    AllBounded (r.run.state w) := by
  have hclose : ∀ w, AllBounded w → ∀ s < wifiMaxSockNum, AllBounded ((close s).state w) :=
    fun w hw s hs => bounded_of_touches hw (touches_close s w) (bounded_close (hw s hs))
  cases r with
  | connected sock =>
      exact bounded_of_touches h (WiFiClient.touches_connected sock w)
        (WiFiClient.bounded_connected (ne_noSocketAvail hr) (h _ hr))
  | call c =>
      rw [Request.run]
      cases c with
      | available socket => exact bounded_available h hr
      | peek socket =>
          obtain ⟨indexed, hstate⟩ := state_peek w socket
          rw [Call.run, hstate]
          exact bounded_available h hr
      | read socket data length => exact bounded_read_of_bounds data length h hr hbounds
      | readChar sock =>
          refine bounded_of_touches h (WiFiClient.touches_readChar sock w) ?_
          have hshrinks := WiFiClient.shrinks_readChar (ne_noSocketAvail hr) (h _ hr)
          exact hshrinks.bounded (bounded_refill (h _ hr))
      | close socket =>
          rw [Call.state_close]
          exact hclose w h socket hr
      | deinit =>
          rw [Call.state_deinit]
          exact closeFrom_of_close hclose h (by omega)

theorem bounded_visit (w : World) (v : Visit) (h : AllBounded w)
    (hv : (accesses.restrict Visit.Bounds).enabled w v) : AllBounded (accesses.next w v) :=
  Request.bounded (w := { w with bus := v.bus }) h hv.1 hv.2

theorem bounded_exec (h : AllBounded w) (hrun : (accesses.restrict Visit.Bounds).Run w vs) :
    AllBounded (accesses.exec w vs) :=
  System.invariant bounded_visit h hrun

theorem bounded_init (w : World) : AllBounded (init.state w) := by
  intro s hs
  have hempty : (init.state w).buffers s = .empty := if_pos hs
  rw [hempty]
  exact Entry.apart_empty.bounded rfl

end Runs

/-- **Reads are bounded** in every run, whatever else is called and whatever the module answers,
exactly as long as each asks for fewer than 2^31 bytes or finds nothing to read. -/
theorem reads_bounded_iff (w : World) (vs : List Visit)
    (hrun : (accesses.restrict Visit.Bounds).Run (init.state w) vs) :
    ∀ s < wifiMaxSockNum, ∀ (b : Bus) (data : Ptr Obj) (length : UInt32),
      BoundedRead s data length { accesses.exec (init.state w) vs with bus := b } ↔
        length.toNat < 2 ^ 31 ∨
          (((accesses.exec (init.state w) vs).buffers s).length = 0 ∧ Vacant b 0) := by
  intro s hs b data length
  exact boundedRead_iff (w := { accesses.exec (init.state w) vs with bus := b })
    (bounded_exec (bounded_init w) hrun s hs)

/-- Ten bytes after ten bytes. -/
theorem reads_bounded_iff_boot :
    BoundedRead 3 ⟨.user 0, 0⟩ 10 { accesses.exec (init.state World.boot)
      [⟨.call (.read 3 ⟨.user 0, 0⟩ 10), World.boot.bus⟩] with bus := World.boot.bus } :=
  (reads_bounded_iff World.boot [⟨.call (.read 3 ⟨.user 0, 0⟩ 10), World.boot.bus⟩]
    ⟨⟨show 3 < wifiMaxSockNum by decide, .inl (by decide)⟩, trivial⟩ 3 (by decide)
    World.boot.bus ⟨.user 0, 0⟩ 10).mpr (.inl (by decide))

/-- 2^31 bytes of a reply with two. -/
theorem not_boundedRead_long :
    ¬ BoundedRead 3 ⟨.user 0, 0⟩ 2147483648
      (init.state (World.bootWith fun _ => replyFrame UInt16 getDatabufTcpCmd [[104, 105]])) := by
  rw [boundedRead_iff (bounded_init _ 3 (by decide))]
  rintro (hlength | ⟨-, hvacant⟩)
  · exact absurd hlength (by decide)
  · revert hvacant
    decide

end WiFiNINA
