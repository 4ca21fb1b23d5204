import Mathlib.Algebra.Order.Ring.Nat
import WiFiNINA.Lib.Transition

/-!
# Banks of queues

A bank is a family of queues that are refilled only when they have run empty.  A
queue is served in one go: it is offered some elements, which it takes if it is
empty, and then gives up as many as are wanted.

## Main definitions

* `Fifo.Op`, `Fifo.bank` — the operations, and the system they make.
* `Fifo.taken`, `Fifo.added` — what an operation takes from a queue, and adds to it.

## Main statements

* `Fifo.conservation` — what was in a queue and what was added is what was taken and
  what is left, in this order.
* `Fifo.taken_eq_take` — elements leave in order, however the requests are split.
-/

namespace WiFiNINA.Fifo

variable {ι β : Type} [DecidableEq ι]

/-- An operation on a bank of queues. -/
inductive Op (ι β : Type)
  /-- Offer `xs` to the queue of `i`, then take up to `n` elements from it. -/
  | serve (i : ι) (xs : List β) (n : ℕ)
  | clear (i : ι)
  | clearAll

/-- A queue after it has been offered `xs`. -/
def refill (q xs : List β) : List β := if q = [] then xs else q

@[simp] theorem refill_nil (xs : List β) : refill [] xs = xs := rfl

theorem refill_of_ne {q : List β} (h : q ≠ []) (xs : List β) : refill q xs = q := if_neg h

/-- The bank after an operation. -/
def apply (Q : ι → List β) : Op ι β → ι → List β
  | .serve i xs n => Function.update Q i ((refill (Q i) xs).drop n)
  | .clear i => Function.update Q i []
  | .clearAll => fun _ => []

/-- What an operation takes from the queue of `i`. -/
def taken (i : ι) (Q : ι → List β) : Op ι β → List β
  | .serve j xs n => if j = i then (refill (Q i) xs).take n else []
  | .clear _ | .clearAll => []

/-- What an operation adds to the queue of `i`. -/
def added (i : ι) (Q : ι → List β) : Op ι β → List β
  | .serve j xs _ => if j = i ∧ Q i = [] then xs else []
  | .clear _ | .clearAll => []

/-- How many elements an operation wants from the queue of `i`. -/
def wanted (i : ι) : Op ι β → ℕ
  | .serve j _ n => if j = i then n else 0
  | .clear _ | .clearAll => 0

/-- An operation that does not drop the queue of `i`. -/
def Keeps (i : ι) : Op ι β → Prop
  | .serve _ _ _ => True
  | .clear j => j ≠ i
  | .clearAll => False

/-- The system of a bank of queues. -/
def bank : System (ι → List β) (Op ι β) where
  enabled _ _ := True
  next := apply

variable {i : ι} {Q : ι → List β}

/-- What an operation does to one queue that it keeps. -/
theorem conservation_apply {op : Op ι β} (h : Keeps i op) :
    Q i ++ added i Q op = taken i Q op ++ apply Q op i := by
  cases op with
  | serve j xs n =>
      by_cases hj : j = i
      · subst hj
        by_cases hq : Q j = []
        · simp [added, taken, apply, hq]
        · simp [added, taken, apply, hq, refill_of_ne]
      · simp [added, taken, apply, hj, Function.update_of_ne (Ne.symm hj)]
  | clear j => simp [added, taken, apply, Function.update_of_ne (Ne.symm h)]
  | clearAll => exact absurd h id

/-- **Conservation**: nothing is lost, duplicated, invented or reordered. -/
theorem conservation {ops : List (Op ι β)} (h : ∀ op ∈ ops, Keeps i op) :
    Q i ++ bank.collect (added i) Q ops =
      bank.collect (taken i) Q ops ++ bank.exec Q ops i := by
  have hrun := System.run_restrict_of_forall
    (bank.run_of_enabled (fun _ _ => trivial) Q ops) h
  have hstep : ∀ (Q : ι → List β) op, True → (bank.restrict fun _ op => Keeps i op).enabled Q op →
      Q i ++ added i Q op = taken i Q op ++ apply Q op i :=
    fun _ _ _ hop => conservation_apply hop.2
  have hbalance := System.collect_balance (I := fun _ => True) (fun _ _ _ _ => trivial) hstep
    trivial hrun
  rwa [System.collect_restrict, System.collect_restrict, System.exec_restrict] at hbalance

/-- While a queue holds what is wanted, an operation takes just that. -/
theorem taken_apply {op : Op ι β} (h : Keeps i op) (hw : wanted i op ≤ (Q i).length) :
    taken i Q op = (Q i).take (wanted i op) ∧
      (wanted i op < (Q i).length → apply Q op i = (Q i).drop (wanted i op)) := by
  cases op with
  | serve j xs n =>
      by_cases hj : j = i
      · subst hj
        rw [wanted, if_pos rfl] at hw ⊢
        by_cases hq : Q j = []
        · obtain rfl : n = 0 := by simpa [hq] using hw
          simp [taken, hq]
        · simp [taken, apply, refill_of_ne hq]
      · simp [wanted, taken, apply, hj, Function.update_of_ne (Ne.symm hj)]
  | clear j => simp [wanted, taken, apply, Function.update_of_ne (Ne.symm h)]
  | clearAll => exact absurd h id

/-- **Splitting**: elements leave in order, in whatever portions they are wanted. -/
theorem taken_eq_take {ops : List (Op ι β)} (h : ∀ op ∈ ops, Keeps i op)
    (hw : (ops.map (wanted i)).sum ≤ (Q i).length) :
    bank.collect (taken i) Q ops = (Q i).take (ops.map (wanted i)).sum := by
  induction ops generalizing Q with
  | nil => simp
  | cons op ops ih =>
      obtain ⟨hop, hops⟩ := List.forall_mem_cons.mp h
      rw [List.map_cons, List.sum_cons] at hw ⊢
      obtain ⟨htaken, hdrop⟩ := taken_apply hop (Nat.le_of_add_right_le hw)
      rw [System.collect_cons, htaken, List.take_add]
      congr 1
      -- once the queue has run empty, nothing more is wanted
      rcases Nat.eq_zero_or_pos (ops.map (wanted i)).sum with hzero | hpos
      · rw [hzero, List.take_zero]
        exact (ih hops (by omega)).trans (by rw [hzero, List.take_zero])
      · have happly : bank.next Q op i = (Q i).drop (wanted i op) := hdrop (by omega)
        rw [← happly]
        refine ih hops ?_
        rw [happly, List.length_drop]
        omega

end WiFiNINA.Fifo
