import Mathlib.Logic.Function.Basic
import WiFiNINA.WiFiDrv

/-!
# The library above its drivers: heap, socket buffers, time

`World` is the state of a whole program: the driver's side, the heap of the C
library, the static array `_buffers`, and the tick counter.  Allocation may fail,
as an oracle decides; freeing something that is not the start of a live block is
recorded and otherwise has no effect, so that "no bad free" is a statement about
the record.  For the array the accesses are recorded.
-/

namespace WiFiNINA

/-- `WiFiSocketBuffer_t` -/
structure Entry where
  data : Ptr Obj
  head : Ptr Obj
  length : ℤ

/-- The entry of a socket that has no buffer. -/
def Entry.empty : Entry := ⟨nullPtr, nullPtr, 0⟩

/-- The heap of the C library. -/
structure Heap where
  /-- The blocks allocated and not freed. -/
  live : List Obj
  /-- The identity of the next block. -/
  next : ℕ
  /-- Whether each allocation to come succeeds. -/
  mallocs : ℕ → Bool
  /-- The pointers freed that were not the start of a live block. -/
  badFrees : List (Ptr Obj)

/-- What `free` does to the heap. -/
def Heap.free (h : Heap) (p : Ptr Obj) : Heap :=
  if p = nullPtr then h
  else if p.off = 0 ∧ p.obj ∈ h.live then { h with live := h.live.erase p.obj }
  else { h with badFrees := p :: h.badFrees }

structure World where
  bus : Bus
  heap : Heap
  /-- `_buffers`, and what would lie around it. -/
  buffers : ℕ → Entry
  /-- The indices at which `_buffers` was accessed, latest first. -/
  indexed : List ℕ
  /-- The readings of the tick counter to come. -/
  ticks : ℕ → UInt32
  /-- `configTICK_RATE_HZ` -/
  tickRate : UInt32

/-- A world in front of a module that never answers. -/
def World.boot : World where
  bus := Bus.fresh fun _ => []
  heap := ⟨[], 0, fun _ => true, []⟩
  buffers _ := .empty
  indexed := []
  ticks _ := 0
  tickRate := 1000

/-- A world in front of a module that shifts out these bytes. -/
def World.bootWith (slave : ℕ → List UInt8) : World := { World.boot with bus := Bus.fresh slave }

/-- `(int)` of a `size_t` -/
def toInt (n : UInt32) : ℤ := Int.bmod n.toNat (2 ^ 32)

/-- `(size_t)` of an `int` -/
def toSize (i : ℤ) : UInt32 := UInt32.ofNat (i % 2 ^ 32).toNat

/-- A `size_t` below 2^31 is its own value as an `int`. -/
theorem toInt_of_lt {n : UInt32} (h : n.toNat < 2 ^ 31) : toInt n = n.toNat := by
  unfold toInt
  rw [Int.bmod_def]
  omega

/-- A larger one is negative. -/
theorem toInt_of_le {n : UInt32} (h : 2 ^ 31 ≤ n.toNat) : toInt n < 0 := by
  have hlt := n.toNat_lt
  unfold toInt
  rw [Int.bmod_def]
  omega

theorem toNat_toSize {i : ℤ} (h : 0 ≤ i) (hi : i < 2 ^ 32) : (toSize i).toNat = i.toNat := by
  unfold toSize
  rw [UInt32.toNat_ofNat']
  omega

namespace World

variable {α : Type}

/-- A driver call. -/
def onBus (p : Prog Bus α) : Prog World α := .zoom World.bus (fun b w => { w with bus := b }) p

/-- `pdMS_TO_TICKS` -/
def pdMsToTicks (ms : UInt32) : Prog World UInt32 := ⟨fun w => (ms * w.tickRate / 1000, w)⟩

@[simp] theorem val_onBus (p : Prog Bus α) (w : World) : (onBus p).val w = p.val w.bus := rfl
@[simp] theorem state_onBus (p : Prog Bus α) (w : World) :
    (onBus p).state w = { w with bus := p.state w.bus } := rfl

/-- `malloc` -/
def malloc (size : ℕ) : Prog World (Ptr Obj) :=
  ⟨fun w =>
    if w.heap.mallocs 0 then
      (⟨.heap w.heap.next size, 0⟩,
        { w with heap :=
          { w.heap with
            live := .heap w.heap.next size :: w.heap.live
            next := w.heap.next + 1
            mallocs := fun k => w.heap.mallocs (k + 1) } })
    else
      (nullPtr, { w with heap := { w.heap with mallocs := fun k => w.heap.mallocs (k + 1) } })⟩

/-- `free` -/
def free (p : Ptr Obj) : Prog World Unit :=
  .modify fun w => { w with heap := w.heap.free p }

/-- Read `_buffers[socket]`. -/
def entry (socket : ℕ) : Prog World Entry :=
  ⟨fun w => (w.buffers socket, { w with indexed := socket :: w.indexed })⟩

/-- Write `_buffers[socket]`. -/
def setEntry (socket : ℕ) (e : Entry) : Prog World Unit :=
  .modify fun w =>
    { w with buffers := Function.update w.buffers socket e, indexed := socket :: w.indexed }

/-- `xTaskGetTickCount` -/
def tickCount : Prog World UInt32 :=
  ⟨fun w => (w.ticks 0, { w with ticks := fun k => w.ticks (k + 1) })⟩

theorem val_malloc (size : ℕ) {w : World} (h : w.heap.mallocs 0 = true) :
    (malloc size).val w = ⟨.heap w.heap.next size, 0⟩ := by
  simp [malloc, h]

theorem state_malloc (size : ℕ) {w : World} (h : w.heap.mallocs 0 = true) :
    (malloc size).state w =
      { w with heap :=
        { w.heap with
          live := .heap w.heap.next size :: w.heap.live
          next := w.heap.next + 1
          mallocs := fun k => w.heap.mallocs (k + 1) } } := by
  simp [malloc, h]

@[simp] theorem val_entry (socket : ℕ) (w : World) :
    (entry socket).val w = w.buffers socket := rfl
@[simp] theorem state_entry (socket : ℕ) (w : World) :
    (entry socket).state w = { w with indexed := socket :: w.indexed } := rfl
@[simp] theorem state_setEntry (socket : ℕ) (e : Entry) (w : World) :
    (setEntry socket e).state w =
      { w with
        buffers := Function.update w.buffers socket e
        indexed := socket :: w.indexed } := rfl
@[simp] theorem state_free (p : Ptr Obj) (w : World) :
    (free p).state w = { w with heap := w.heap.free p } := rfl

end World
end WiFiNINA
