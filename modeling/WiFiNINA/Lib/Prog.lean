import Mathlib.Logic.Function.Basic

/-!
# Sequential programs over an explicit state

A `Prog σ α` is a total computation that reads and replaces a state of type `σ`
and returns a value.  Its meaning is given by two projections, the value it
returns and the state it leaves, and every sequencing construct has one simp
lemma for each of them, so that a program is unfolded symbolically by `simp`
without naming its intermediate states.

`zoom` runs a program of a component inside a larger state, which is how a layer
is stated over the part of the state it owns and still composes with the layers
above it: everything outside the component is framed by construction.

## Main definitions

* `Prog σ α`, `Prog.val`, `Prog.state` — programs and their two projections.
* `Prog.read`, `Prog.modify` — the primitives.
* `Prog.zoom` — run a component's program inside a larger state.
* `Prog.Guarantees` — a relation between the states before and after every run.
-/

namespace WiFiNINA

/-- A total computation over the state `σ`. -/
structure Prog (σ α : Type) where
  /-- The value returned and the state left. -/
  run : σ → α × σ

namespace Prog
variable {σ τ α β : Type}

/-- The value the program returns from `s`. -/
def val (p : Prog σ α) (s : σ) : α := (p.run s).1

/-- The state the program leaves from `s`. -/
def state (p : Prog σ α) (s : σ) : σ := (p.run s).2

instance : Monad (Prog σ) where
  pure a := ⟨fun s => (a, s)⟩
  bind p f := ⟨fun s => (f (p.val s)).run (p.state s)⟩

theorem bind_bind {γ : Type} (p : Prog σ α) (f : α → Prog σ β) (g : β → Prog σ γ) :
    p >>= f >>= g = p >>= fun a => f a >>= g := rfl

theorem run_bind (p : Prog σ α) (f : α → Prog σ β) (s : σ) :
    (p >>= f).run s = (f (p.val s)).run (p.state s) := rfl

@[simp] theorem val_mk (f : σ → α × σ) (s : σ) : (Prog.mk f).val s = (f s).1 := rfl
@[simp] theorem state_mk (f : σ → α × σ) (s : σ) : (Prog.mk f).state s = (f s).2 := rfl

@[simp] theorem val_pure (a : α) (s : σ) : (pure a : Prog σ α).val s = a := rfl
@[simp] theorem state_pure (a : α) (s : σ) : (pure a : Prog σ α).state s = s := rfl

@[simp] theorem val_bind (p : Prog σ α) (f : α → Prog σ β) (s : σ) :
    (p >>= f).val s = (f (p.val s)).val (p.state s) := rfl
@[simp] theorem state_bind (p : Prog σ α) (f : α → Prog σ β) (s : σ) :
    (p >>= f).state s = (f (p.val s)).state (p.state s) := rfl

@[simp] theorem val_ite (c : Prop) [Decidable c] (p q : Prog σ α) (s : σ) :
    (if c then p else q).val s = if c then p.val s else q.val s := by
  split <;> rfl
@[simp] theorem state_ite (c : Prop) [Decidable c] (p q : Prog σ α) (s : σ) :
    (if c then p else q).state s = if c then p.state s else q.state s := by
  split <;> rfl

/-- Return the current state. -/
def read : Prog σ σ := ⟨fun s => (s, s)⟩

/-- Replace the current state. -/
def modify (f : σ → σ) : Prog σ Unit := ⟨fun s => ((), f s)⟩

@[simp] theorem val_read (s : σ) : (read : Prog σ σ).val s = s := rfl
@[simp] theorem state_read (s : σ) : (read : Prog σ σ).state s = s := rfl
@[simp] theorem state_modify (f : σ → σ) (s : σ) : (modify f).state s = f s := rfl

/-- Run a program of the component that `get` and `set` address. -/
def zoom (get : σ → τ) (set : τ → σ → σ) (p : Prog τ α) : Prog σ α :=
  ⟨fun s => (p.val (get s), set (p.state (get s)) s)⟩

@[simp] theorem val_zoom (get : σ → τ) (set : τ → σ → σ) (p : Prog τ α) (s : σ) :
    (zoom get set p).val s = p.val (get s) := rfl
@[simp] theorem state_zoom (get : σ → τ) (set : τ → σ → σ) (p : Prog τ α) (s : σ) :
    (zoom get set p).state s = set (p.state (get s)) s := rfl

/-- Run a program for its effect. -/
def ignore (p : Prog σ α) : Prog σ Unit := ⟨fun s => ((), p.state s)⟩

@[simp] theorem state_ignore (p : Prog σ α) (s : σ) : p.ignore.state s = p.state s := rfl

section Guarantees
variable {R : σ → σ → Prop}

/-- Every run of `p` takes a state to one that `R` relates it to. -/
def Guarantees (R : σ → σ → Prop) (p : Prog σ α) : Prop := ∀ s, R s (p.state s)

theorem Guarantees.pure (hrefl : ∀ s, R s s) (a : α) : Guarantees R (pure a : Prog σ α) :=
  fun s => hrefl s

theorem Guarantees.bind (htrans : ∀ {s t u}, R s t → R t u → R s u) {p : Prog σ α}
    {f : α → Prog σ β} (hp : Guarantees R p) (hf : ∀ a, Guarantees R (f a)) :
    Guarantees R (p >>= f) :=
  fun s => htrans (hp s) (hf _ _)

theorem Guarantees.ite (c : Prop) [Decidable c] {p q : Prog σ α} (hp : Guarantees R p)
    (hq : Guarantees R q) : Guarantees R (if c then p else q) := by
  split
  · exact hp
  · exact hq

end Guarantees

end Prog
end WiFiNINA
