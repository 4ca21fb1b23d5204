import Mathlib.Data.Nat.Find
import Mathlib.Logic.Function.Iterate
import WiFiNINA.Lib.Prog

/-!
# Asking until an answer is decisive

A polling loop runs a query until its answer is decisive or a bound is reached.  The successive
answers are those of the query run again and again, whatever it does to the state, so a loop is
described by the index of its last answer.

## Main definitions

* `Prog.answers` — the answers of a query that is run again and again.
* `Settles` — the index of the last answer asked for.
* `Prog.poll` — the loop.

## Main statements

* `Settles.mono` — a loop that more answers settle asks no more often.
* `Prog.run_poll` — the loop returns the answer that settles it, and has asked up to it.
-/

namespace WiFiNINA

variable {σ α : Type}

/-- Of at most `max + 1` answers, number `n` is the first that is decisive, or the last. -/
structure Settles (decisive : α → Prop) (answers : ℕ → α) (max n : ℕ) : Prop where
  le : n ≤ max
  before : ∀ i < n, ¬ decisive (answers i)
  last : n < max → decisive (answers n)

section Settles
variable {decisive weaker : α → Prop} {answers : ℕ → α} {max n m : ℕ}

theorem settles_zero (h : decisive (answers 0)) : Settles decisive answers max 0 :=
  ⟨Nat.zero_le max, fun i hi => absurd hi (Nat.not_lt_zero i), fun _ => h⟩

/-- The first answer is not decisive. -/
theorem settles_succ (h : ¬ decisive (answers 0)) :
    Settles decisive answers (max + 1) (n + 1) ↔
      Settles decisive (fun i => answers (i + 1)) max n := by
  constructor
  · intro hn
    exact ⟨Nat.le_of_succ_le_succ hn.le, fun i hi => hn.before (i + 1) (Nat.succ_lt_succ hi),
      fun hlt => hn.last (Nat.succ_lt_succ hlt)⟩
  · intro hn
    refine ⟨Nat.succ_le_succ hn.le, ?_, fun hlt => hn.last (Nat.lt_of_succ_lt_succ hlt)⟩
    intro i hi
    cases i with
    | zero => exact h
    | succ i => exact hn.before i (Nat.lt_of_succ_lt_succ hi)

theorem exists_settles (decisive : α → Prop) (answers : ℕ → α) (max : ℕ) :
    ∃ n, Settles decisive answers max n := by
  induction max generalizing answers with
  | zero =>
      exact ⟨0, le_rfl, fun i hi => absurd hi (Nat.not_lt_zero i), fun h => absurd h (lt_irrefl 0)⟩
  | succ max ih =>
      by_cases h : decisive (answers 0)
      · exact ⟨0, settles_zero h⟩
      · obtain ⟨n, hn⟩ := ih fun i => answers (i + 1)
        exact ⟨n + 1, (settles_succ h).mpr hn⟩

/-- Where more answers are decisive, no more of them are asked for. -/
theorem Settles.mono (hn : Settles decisive answers max n) (hm : Settles weaker answers max m)
    (h : ∀ a, decisive a → weaker a) : m ≤ n := by
  by_contra hle
  have hlt : n < m := Nat.lt_of_not_le hle
  have hdecisive : decisive (answers n) := hn.last (Nat.lt_of_lt_of_le hlt hm.le)
  exact hm.before n hlt (h _ hdecisive)

theorem Settles.unique (hn : Settles decisive answers max n)
    (hm : Settles decisive answers max m) : n = m :=
  le_antisymm (hm.mono hn fun _ => id) (hn.mono hm fun _ => id)

/-- Only what is decisive among the answers matters. -/
theorem Settles.congr (hn : Settles decisive answers max n)
    (h : ∀ i ≤ max, decisive (answers i) ↔ weaker (answers i)) :
    Settles weaker answers max n where
  le := hn.le
  before i hi := by
    have hle : i ≤ max := Nat.le_of_lt (Nat.lt_of_lt_of_le hi hn.le)
    exact fun hweaker => hn.before i hi ((h i hle).mpr hweaker)
  last hlt := (h n hn.le).mp (hn.last hlt)

end Settles

namespace Prog

/-- What a query answers if it is run again and again. -/
def answers (query : Prog σ α) (s : σ) (n : ℕ) : α := query.val (query.state^[n] s)

/-- Once run, the query goes on with its later answers. -/
theorem answers_state (query : Prog σ α) (s : σ) (n : ℕ) :
    query.answers (query.state s) n = query.answers s (n + 1) := by
  rw [answers, answers, Function.iterate_succ_apply]

/-- Ask until an answer is decisive, at most `more` times after the first: the last answer. -/
def poll (query : Prog σ α) (decisive : α → Bool) : ℕ → Prog σ α
  | 0 => query
  | more + 1 => do
      let a ← query
      if decisive a then pure a else poll query decisive more

/-- A round of the loop. -/
theorem run_poll_succ (query : Prog σ α) (decisive : α → Bool) (more : ℕ) (s : σ) :
    (poll query decisive (more + 1)).run s =
      if decisive (query.answers s 0) then (query.answers s 0, query.state s)
      else (poll query decisive more).run (query.state s) := by
  change (if decisive (query.val s) then (pure (query.val s) : Prog σ α)
    else poll query decisive more).run (query.state s) = _
  split
  · next h => exact (if_pos h).symm
  · next h => exact (if_neg h).symm

/-- **A polling loop** returns the answer that settles it, and has asked up to it. -/
theorem run_poll {query : Prog σ α} {decisive : α → Bool} {more n : ℕ} {s : σ}
    (h : Settles (decisive · = true) (query.answers s) more n) :
    (poll query decisive more).run s = (query.answers s n, query.state^[n + 1] s) := by
  induction more generalizing s n with
  | zero =>
      obtain rfl : n = 0 := Nat.le_zero.mp h.le
      rfl
  | succ more ih =>
      rw [run_poll_succ]
      by_cases hdecisive : decisive (query.answers s 0) = true
      · obtain rfl : n = 0 := h.unique (settles_zero hdecisive)
        rw [if_pos hdecisive]
        rfl
      · cases n with
        | zero => exact absurd (h.last (Nat.succ_pos more)) hdecisive
        | succ n =>
            have hrest : Settles (decisive · = true) (query.answers (query.state s)) more n := by
              have hshift : query.answers (query.state s) = fun i => query.answers s (i + 1) :=
                funext (answers_state query s)
              rw [hshift]
              exact (settles_succ hdecisive).mp h
            rw [if_neg hdecisive, ih hrest, answers_state, ← Function.iterate_succ_apply]

theorem val_poll {query : Prog σ α} {decisive : α → Bool} {more n : ℕ} {s : σ}
    (h : Settles (decisive · = true) (query.answers s) more n) :
    (poll query decisive more).val s = query.answers s n := by
  rw [val, run_poll h]

theorem state_poll {query : Prog σ α} {decisive : α → Bool} {more n : ℕ} {s : σ}
    (h : Settles (decisive · = true) (query.answers s) more n) :
    (poll query decisive more).state s = query.state^[n + 1] s := by
  rw [state, run_poll h]

end Prog

end WiFiNINA
