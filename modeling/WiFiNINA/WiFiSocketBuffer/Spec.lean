import WiFiNINA.WiFiClient
import WiFiNINA.WiFiSocketBuffer.Fetch

/-!
# What the calls do

Every call on a socket refills its buffer if it is empty and then works on the window
alone.  The specifications are stated from the state the refill leaves, and for a
window that fits a block, so that the conversions between `int` and `size_t` in
`WiFiSocketBuffer_read` lose nothing.
-/

namespace WiFiNINA

open World

/-- The state after refilling the buffer of a socket. -/
abbrev refillState (w : World) (s : ℕ) : World := (WiFiSocketBuffer.refill s).state w

/-- The window of a socket after `n` bytes of it have been read. -/
def Entry.advance (e : Entry) (n : ℕ) : Entry :=
  { e with head := e.head.add n, length := e.length - n }

@[simp] theorem Entry.advance_zero (e : Entry) : e.advance 0 = e := by
  simp [Entry.advance]

/-- The number of bytes a read of `length` bytes takes from a window. -/
def Entry.taken (e : Entry) (length : UInt32) : ℕ := min e.length.toNat length.toNat

/-- The state after `n` bytes of the window of a socket have been copied to `data`. -/
def readState (w : World) (s : ℕ) (data : Ptr Obj) (n : ℕ) : World :=
  { w with
    bus := { w.bus with
      mem := w.bus.mem.storeList data (w.bus.mem.loadList (w.buffers s).head n) }
    buffers := Function.update w.buffers s ((w.buffers s).advance n) }

namespace WiFiSocketBuffer

section
variable {w : World} {s : ℕ}

theorem val_available (w : World) (s : ℕ) :
    (available s).val w = ((refillState w s).buffers s).length := rfl

theorem state_available (w : World) (s : ℕ) :
    (available s).state w =
      { refillState w s with indexed := s :: (refillState w s).indexed } := rfl

theorem state_peek (w : World) (s : ℕ) :
    ∃ indexed, (peek s).state w = { refillState w s with indexed := indexed } := by
  by_cases h : ((refillState w s).buffers s).length = 0
  · exact ⟨_, by simp only [peek, Prog.state_bind, val_available, h, if_true]; rfl⟩
  · exact ⟨_, by simp only [peek, Prog.state_bind, val_available, h, if_false]; rfl⟩

theorem val_peek (w : World) (s : ℕ) :
    (peek s).val w =
      if ((refillState w s).buffers s).length = 0 then -1
      else (((refillState w s).bus.mem.load ((refillState w s).buffers s).head).toNat : ℤ) := by
  split
  · next h => simp only [peek, Prog.val_bind, val_available, h, if_true, Prog.val_pure]
  · next h =>
      simp [peek, val_available, state_available, h, ofLe, Memory.loadList_succ]

/-- The length that `WiFiSocketBuffer_read` works with. -/
theorem toNat_clipLength {e : Entry} {length : UInt32} (hpos : 0 ≤ e.length)
    (hle : e.length ≤ 255) (hlength : length.toNat < 2 ^ 31) :
    (clipLength e.length length).toNat = e.taken length := by
  rw [clipLength, toInt_of_lt hlength, Entry.taken]
  split
  · rw [toNat_toSize hpos (by omega)]
    omega
  · omega

/-- The subtraction in `WiFiSocketBuffer_read` does not wrap. -/
theorem toInt_sub {i : ℤ} {n : UInt32} (hpos : 0 ≤ i) (hle : i ≤ 255) (hn : (n.toNat : ℤ) ≤ i) :
    toInt (toSize i - n) = i - n.toNat := by
  have hi := toNat_toSize hpos (by omega)
  have hsub : (toSize i - n).toNat = i.toNat - n.toNat := by
    rw [UInt32.toNat_sub, hi]
    have := n.toNat_lt
    omega
  rw [toInt_of_lt (by omega), hsub]
  omega

variable (data : Ptr Obj) (length : UInt32)

theorem readState_zero (w : World) (s : ℕ) : readState w s data 0 = w := by
  simp [readState]

theorem Entry.taken_le {e : Entry} (hpos : 0 ≤ e.length) :
    (e.taken length : ℤ) ≤ e.length := by
  rw [Entry.taken]
  omega

theorem Entry.taken_zero (e : Entry) : e.taken 0 = 0 := by simp [Entry.taken]

theorem Entry.taken_of_zero {e : Entry} (h : e.length = 0) : e.taken length = 0 := by
  simp [Entry.taken, h]

theorem Entry.taken_one {e : Entry} (h : 0 < e.length) : e.taken 1 = 1 := by
  simp only [Entry.taken, UInt32.reduceToNat]
  omega

/-! ### A read of any length -/

theorem val_read_of_zero (h : ((refillState w s).buffers s).length = 0) :
    (read s data length).val w = 0 := by
  simp only [read, Prog.val_bind, val_available, h, if_true, Prog.val_pure]

theorem state_read_of_zero (h : ((refillState w s).buffers s).length = 0) :
    (read s data length).state w = (available s).state w := by
  simp only [read, Prog.state_bind, val_available, h, if_true, Prog.state_pure]

theorem val_read_of_ne {n : UInt32} (h : ((refillState w s).buffers s).length ≠ 0)
    (hn : clipLength ((refillState w s).buffers s).length length = n) :
    (read s data length).val w = toInt n := by
  obtain ⟨i, hi⟩ : ∃ i, toInt n = i := ⟨_, rfl⟩
  simp only [read, Prog.val_bind, val_available, h, if_false, Prog.val_pure, hn, hi]

theorem state_read_of_ne {n : UInt32} {size : ℤ}
    (h : ((refillState w s).buffers s).length ≠ 0)
    (hn : clipLength ((refillState w s).buffers s).length length = n)
    (hsize : toInt (toSize ((refillState w s).buffers s).length - n) = size) :
    (read s data length).state w =
      { refillState w s with
        bus := { (refillState w s).bus with
          mem := (refillState w s).bus.mem.storeList data
            ((refillState w s).bus.mem.loadList ((refillState w s).buffers s).head n.toNat) }
        buffers := Function.update (refillState w s).buffers s
          { (refillState w s).buffers s with
            head := ((refillState w s).buffers s).head.add n.toNat
            length := size }
        indexed := s :: s :: s :: (refillState w s).indexed } := by
  simp only [read, Prog.state_bind, val_available, h, if_false, state_available, val_entry,
    state_entry, val_onBus, state_onBus, Bus.val_loadList, Bus.state_loadList,
    Bus.state_storeList, Prog.state_pure, state_setEntry, hn, hsize]

/-! ### A length that an `int` holds -/

/-- **Reading**: the first bytes of the window are copied, and the window shrinks by as
many. -/
theorem state_read (hpos : 0 ≤ ((refillState w s).buffers s).length)
    (hle : ((refillState w s).buffers s).length ≤ 255) (hlength : length.toNat < 2 ^ 31) :
    ∃ indexed, (read s data length).state w =
      { readState (refillState w s) s data
          (((refillState w s).buffers s).taken length) with indexed := indexed } := by
  by_cases h : ((refillState w s).buffers s).length = 0
  · rw [Entry.taken_of_zero length h, readState_zero, state_read_of_zero data length h]
    exact ⟨_, state_available w s⟩
  · have hn := toNat_clipLength hpos hle hlength
    have hsub := toInt_sub hpos hle (hn ▸ Entry.taken_le length hpos)
    refine ⟨s :: s :: s :: (refillState w s).indexed, ?_⟩
    rw [state_read_of_ne data length h rfl hsub, hn]
    rfl

theorem val_read (hpos : 0 ≤ ((refillState w s).buffers s).length)
    (hle : ((refillState w s).buffers s).length ≤ 255) (hlength : length.toNat < 2 ^ 31) :
    (read s data length).val w = ((refillState w s).buffers s).taken length := by
  by_cases h : ((refillState w s).buffers s).length = 0
  · rw [val_read_of_zero data length h, Entry.taken_of_zero length h]
    rfl
  · have hn := toNat_clipLength hpos hle hlength
    have htaken : (clipLength ((refillState w s).buffers s).length length).toNat < 2 ^ 31 := by
      rw [hn, Entry.taken]
      omega
    rw [val_read_of_ne data length h rfl, toInt_of_lt htaken, hn]

theorem state_close_of_null (h : (w.buffers s).data = nullPtr) :
    (close s).state w = { w with indexed := s :: w.indexed } := by
  simp [close, h]

theorem state_close_of_ne (h : (w.buffers s).data ≠ nullPtr) :
    (close s).state w =
      { w with
        heap := w.heap.free (w.buffers s).data
        buffers := Function.update w.buffers s .empty
        indexed := s :: s :: w.indexed } := by
  simp [close, h]

end

end WiFiSocketBuffer

namespace WiFiClient

open WiFiSocketBuffer

/-- The local of `WiFiClient_readChar`. -/
def chVar : Ptr Obj := ⟨.auto .ch 1, 0⟩

section
variable {w : World} {sock : UInt8}

theorem available_eq (h : sock ≠ noSocketAvail) :
    available sock = WiFiSocketBuffer.available sock.toNat := by
  rw [available, if_neg h]

theorem readChar_of_zero (hsock : sock ≠ noSocketAvail)
    (h : ((refillState w sock.toNat).buffers sock.toNat).length = 0) :
    (readChar sock).val w = -1 ∧ (readChar sock).state w =
      { refillState w sock.toNat with
        indexed := sock.toNat :: (refillState w sock.toNat).indexed } := by
  simp [readChar, available_eq hsock, val_available, state_available, h]

/-- **Reading one byte** of a window that is not empty. -/
theorem readChar_of_pos (hsock : sock ≠ noSocketAvail)
    (hpos : 0 < ((refillState w sock.toNat).buffers sock.toNat).length)
    (hle : ((refillState w sock.toNat).buffers sock.toNat).length ≤ 255) :
    (readChar sock).val w = ((refillState w sock.toNat).bus.mem.load
        ((refillState w sock.toNat).buffers sock.toNat).head).toNat ∧
      ∃ indexed, (readChar sock).state w =
        { readState (refillState w sock.toNat) sock.toNat chVar 1 with indexed := indexed } := by
  -- the second refill finds the window that the first one left
  have hagain : refillState { refillState w sock.toNat with
        indexed := sock.toNat :: (refillState w sock.toNat).indexed } sock.toNat =
      { refillState w sock.toNat with
        indexed := sock.toNat :: sock.toNat :: (refillState w sock.toNat).indexed } :=
    state_refill_of_ne hpos.ne'
  obtain ⟨indexed, hread⟩ := state_read chVar 1
    (w := { refillState w sock.toNat with
      indexed := sock.toNat :: (refillState w sock.toNat).indexed }) (s := sock.toNat)
    (by rw [hagain]; exact hpos.le) (by rw [hagain]; exact hle) (by decide)
  rw [hagain, Entry.taken_one hpos] at hread
  simp only [readChar, available_eq hsock, Prog.val_bind, Prog.state_bind, val_available,
    state_available, hpos.ne', if_false]
  refine ⟨?_, indexed, hread⟩
  simp only [val_onBus, Bus.uninit, Bus.val_loadList, Prog.val_pure]
  change
    (ofLe (((WiFiSocketBuffer.read sock.toNat chVar 1).state _).bus.mem.loadList chVar 1) : ℤ) = _
  rw [hread]
  simp [readState, Memory.loadList_succ, ofLe]

end

end WiFiClient
end WiFiNINA
