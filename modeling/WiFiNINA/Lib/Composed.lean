import Mathlib.Data.Nat.Notation
import WiFiNINA.Lib.Prog

/-!
# Programs composed of basic ones

Most of a driver's functions do nothing but run a few basic operations one after the other,
where what comes next depends on the results so far.  `Composed I B n p` says that `p` is such
a function over the operations `B`, as long as its runs begin in states where `I` holds and the
operations keep it, and that along every path the costs of its operations sum up to at most `n`.
What sequencing preserves then needs a proof for the basic operations only, and holds of every
function that is so composed; the functions are looked at once for all such properties.

Two kinds of properties are meant: a relation between the states before and after a run, which
may depend on the cost (`Composed.guarantees`), and a relation between two runs, which they
carry from the states in which they begin to those in which they end (`Composed.respects`).

## Main definitions

* `Composed I B n p` — composed of operations of `B`, at a cost of at most `n`.
* `AddsUp R` — a relation of states that is indexed by a cost and adds up.
* `Prog.Carries E F p`, `Prog.Respects E p` — two runs of `p` from related states return the
  same and end in related states.

## Main statements

* `Composed.guarantees`, `Composed.respects` — the rules for the two kinds of properties.
-/

namespace WiFiNINA

variable {σ : Type}

/-- Composed of the basic programs `B`, each of which has a cost, at a cost of at most `n`.
What follows a program may rely on `I` having held before it. -/
inductive Composed (I : σ → Prop) (B : ⦃α : Type⦄ → ℕ → Prog σ α → Prop) :
    {α : Type} → ℕ → Prog σ α → Prop
  | basic {α : Type} {n : ℕ} {p : Prog σ α} (h : B n p) : Composed I B n p
  | pure {α : Type} (a : α) : Composed I B 0 (pure a)
  | bind {α β : Type} {m n : ℕ} {p : Prog σ α} {f : α → Prog σ β} (hp : Composed I B m p)
      (hf : ∀ s, I s → Composed I B n (f (p.val s))) : Composed I B (m + n) (p >>= f)
  | mono {α : Type} {m n : ℕ} {p : Prog σ α} (h : Composed I B m p) (hmn : m ≤ n) :
      Composed I B n p

/-- A relation of states that is indexed by a cost: it holds at no cost of a state and itself,
and it adds up along two steps. -/
structure AddsUp (R : ℕ → σ → σ → Prop) : Prop where
  refl : ∀ s, R 0 s s
  trans : ∀ {m n s t u}, R m s t → R n t u → R (m + n) s u
  mono : ∀ {m n s t}, R m s t → m ≤ n → R n s t

namespace Prog
variable {α β : Type}

/-- Two runs from states that `E` relates return the same value, and `F` relates the states in
which they end. -/
def Carries (E F : σ → σ → Prop) (p : Prog σ α) : Prop :=
  ∀ s t, E s t → p.val s = p.val t ∧ F (p.state s) (p.state t)

/-- Two runs from related states return the same value and end in related states. -/
abbrev Respects (E : σ → σ → Prop) (p : Prog σ α) : Prop := Carries E E p

theorem respects_pure {E : σ → σ → Prop} (a : α) : Respects E (pure a : Prog σ α) :=
  fun _ _ h => ⟨rfl, h⟩

theorem Carries.bind {E F G : σ → σ → Prop} {p : Prog σ α} {f : α → Prog σ β}
    (hp : Carries E F p) (hf : ∀ s t, E s t → Carries F G (f (p.val s))) :
    Carries E G (p >>= f) := by
  intro s t h
  obtain ⟨hval, hstate⟩ := hp s t h
  have hrest := hf s t h _ _ hstate
  rw [val_bind, val_bind, state_bind, state_bind, ← hval]
  exact hrest

end Prog

namespace Composed
variable {I : σ → Prop} {B : ⦃α : Type⦄ → ℕ → Prog σ α → Prop} {α β : Type} {m n : ℕ}

/-- What comes first is free. -/
theorem before {p : Prog σ α} {f : α → Prog σ β} (hp : Composed I B 0 p)
    (hf : ∀ s, I s → Composed I B n (f (p.val s))) : Composed I B n (p >>= f) :=
  (hp.bind hf).mono (Nat.le_of_eq (Nat.zero_add n))

/-- What comes last is free. -/
theorem after {p : Prog σ α} {f : α → Prog σ β} (hp : Composed I B n p)
    (hf : ∀ s, I s → Composed I B 0 (f (p.val s))) : Composed I B n (p >>= f) := hp.bind hf

theorem map {p : Prog σ α} (hp : Composed I B n p) (f : α → β) :
    Composed I B n (p >>= fun a => Pure.pure (f a)) := hp.after fun _ _ => .pure _

/-- The dearer branch counts. -/
theorem ite (c : Prop) [Decidable c] {p q : Prog σ α} (hp : Composed I B m p)
    (hq : Composed I B n q) : Composed I B (max m n) (if c then p else q) := by
  split
  · exact hp.mono (Nat.le_max_left m n)
  · exact hq.mono (Nat.le_max_right m n)

/-- A branch that does nothing. -/
theorem ite_pure (c : Prop) [Decidable c] (a : α) {q : Prog σ α} (hq : Composed I B n q) :
    Composed I B n (if c then Pure.pure a else q) := by
  split
  · exact (Composed.pure a).mono (Nat.zero_le n)
  · exact hq

/-- Basic programs may themselves be composed of others. -/
theorem refine {B' : ⦃α : Type⦄ → ℕ → Prog σ α → Prop}
    (h : ∀ {γ : Type} {k : ℕ} {q : Prog σ γ}, B k q → Composed I B' k q) {p : Prog σ α}
    (hp : Composed I B n p) : Composed I B' n p := by
  induction hp with
  | basic hb => exact h hb
  | pure a => exact .pure a
  | bind _ _ ihp ihf => exact .bind ihp fun s hs => ihf s hs
  | mono _ hmn ih => exact ih.mono hmn

/-- What the basic programs keep, every program composed of them keeps. -/
theorem keeps (hI : ∀ {γ : Type} {k : ℕ} {q : Prog σ γ}, B k q → ∀ s, I s → I (q.state s))
    {p : Prog σ α} (hp : Composed I B n p) : ∀ s, I s → I (p.state s) := by
  induction hp with
  | basic hb => exact hI hb
  | pure a => exact fun s hs => hs
  | bind _ _ ihp ihf => exact fun s hs => ihf s hs _ (ihp s hs)
  | mono _ _ ih => exact ih

/-- **What adds up along basic programs** adds up along every program composed of them. -/
theorem guarantees {R : ℕ → σ → σ → Prop} (hR : AddsUp R)
    (hI : ∀ {γ : Type} {k : ℕ} {q : Prog σ γ}, B k q → ∀ s, I s → I (q.state s))
    (h : ∀ {γ : Type} {k : ℕ} {q : Prog σ γ}, B k q → ∀ s, I s → R k s (q.state s))
    {p : Prog σ α} (hp : Composed I B n p) : ∀ s, I s → R n s (p.state s) := by
  induction hp with
  | basic hb => exact h hb
  | pure a => exact fun s _ => hR.refl s
  | bind hp _ ihp ihf => exact fun s hs => hR.trans (ihp s hs) (ihf s hs _ (hp.keeps hI s hs))
  | mono _ hmn ih => exact fun s hs => hR.mono (ih s hs) hmn

/-- **What basic programs respect**, every program composed of them respects. -/
theorem respects {E : σ → σ → Prop} (hE : ∀ {s t}, E s t → I s)
    (h : ∀ {γ : Type} {k : ℕ} {q : Prog σ γ}, B k q → Prog.Respects E q) {p : Prog σ α}
    (hp : Composed I B n p) : Prog.Respects E p := by
  induction hp with
  | basic hb => exact h hb
  | pure a => exact Prog.respects_pure a
  | bind _ _ ihp ihf => exact ihp.bind fun s _ hst => ihf s (hE hst)
  | mono _ _ ih => exact ih

end Composed
end WiFiNINA
