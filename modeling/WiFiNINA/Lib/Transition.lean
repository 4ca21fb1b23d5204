import Mathlib.Data.List.Basic

/-!
# Runs of a system

A system takes steps that are determined by the state and an action, and that may
only be taken where they are enabled; everything outside the system is part of the
action.  A run is a list of actions, each enabled in the state the earlier ones
lead to.

## Main definitions

* `System`, `System.exec`, `System.Run` — systems and their runs.
* `System.restrict` — a system whose steps meet a condition.
* `System.drive` — the run that a list of inputs makes.
* `System.collect` — what a run puts out, step by step.

## Main statements

* `System.invariant` — what holds at the start and is kept by every enabled step
  holds after every run.
* `System.collect_balance` — what every step balances, every run balances.
* `System.exec_simulation`, `System.collect_simulation` — a function of the state that
  every step respects turns runs into runs, and keeps what they put out.
-/

namespace WiFiNINA

/-- A deterministic system with actions of type `α`. -/
structure System (σ α : Type) where
  enabled : σ → α → Prop
  next : σ → α → σ

namespace System
variable {σ α : Type} (S : System σ α)

/-- The state after a list of actions. -/
def exec (s : σ) (as : List α) : σ := as.foldl S.next s

/-- Every action is enabled when it is taken. -/
def Run : σ → List α → Prop
  | _, [] => True
  | s, a :: as => S.enabled s a ∧ Run (S.next s a) as

instance decidableRun [∀ s a, Decidable (S.enabled s a)] :
    (s : σ) → (as : List α) → Decidable (S.Run s as)
  | _, [] => isTrue trivial
  | s, a :: as =>
      haveI := decidableRun (S.next s a) as
      inferInstanceAs (Decidable (S.enabled s a ∧ _))

/-- The system with an additional condition on every step. -/
def restrict (C : σ → α → Prop) : System σ α where
  enabled s a := S.enabled s a ∧ C s a
  next := S.next

instance (C : σ → α → Prop) [∀ s a, Decidable (S.enabled s a)] [∀ s a, Decidable (C s a)] (s : σ)
    (a : α) : Decidable ((S.restrict C).enabled s a) :=
  inferInstanceAs (Decidable (S.enabled s a ∧ C s a))

@[simp] theorem exec_restrict (C : σ → α → Prop) (s : σ) (as : List α) :
    (S.restrict C).exec s as = S.exec s as := rfl

@[simp] theorem exec_nil (s : σ) : S.exec s [] = s := rfl
@[simp] theorem exec_cons (s : σ) (a : α) (as : List α) :
    S.exec s (a :: as) = S.exec (S.next s a) as := rfl
@[simp] theorem run_nil (s : σ) : S.Run s [] := trivial
@[simp] theorem run_cons (s : σ) (a : α) (as : List α) :
    S.Run s (a :: as) ↔ S.enabled s a ∧ S.Run (S.next s a) as := Iff.rfl

theorem exec_append (s : σ) (as bs : List α) :
    S.exec s (as ++ bs) = S.exec (S.exec s as) bs := List.foldl_append

theorem run_append {s : σ} {as bs : List α} :
    S.Run s (as ++ bs) ↔ S.Run s as ∧ S.Run (S.exec s as) bs := by
  induction as generalizing s with
  | nil => simp
  | cons a as ih => simp [ih, and_assoc]

variable {S}

/-- **The invariant rule.** -/
theorem invariant {I : σ → Prop} (hstep : ∀ s a, I s → S.enabled s a → I (S.next s a)) {s : σ}
    {as : List α} (hs : I s) (hrun : S.Run s as) : I (S.exec s as) := by
  induction as generalizing s with
  | nil => exact hs
  | cons a as ih => exact ih (hstep s a hs hrun.1) hrun.2

theorem forall_of_run {P : α → Prop} (h : ∀ s a, S.enabled s a → P a) {s : σ} {as : List α}
    (hrun : S.Run s as) : ∀ a ∈ as, P a := by
  induction as generalizing s with
  | nil => simp
  | cons a as ih => exact List.forall_mem_cons.mpr ⟨h s a hrun.1, ih hrun.2⟩

theorem run_of_enabled (h : ∀ s a, S.enabled s a) (s : σ) (as : List α) : S.Run s as := by
  induction as generalizing s with
  | nil => trivial
  | cons a as ih => exact ⟨h s a, ih _⟩

/-- The run that goes through a list of inputs, each made into an action where it is met. -/
def drive (S : System σ α) {ι : Type} (act : σ → ι → α) : σ → List ι → List α
  | _, [] => []
  | s, x :: xs => act s x :: drive S act (S.next s (act s x)) xs

theorem run_drive {ι : Type} {act : σ → ι → α} {xs : List ι}
    (h : ∀ x ∈ xs, ∀ s, S.enabled s (act s x)) (s : σ) : S.Run s (S.drive act s xs) := by
  induction xs generalizing s with
  | nil => trivial
  | cons x xs ih =>
      rw [List.forall_mem_cons] at h
      exact ⟨h.1 s, ih h.2 _⟩

theorem forall_drive {ι : Type} {act : σ → ι → α} {P : α → Prop} {xs : List ι}
    (h : ∀ x ∈ xs, ∀ s, P (act s x)) (s : σ) : ∀ a ∈ S.drive act s xs, P a := by
  induction xs generalizing s with
  | nil => simp [drive]
  | cons x xs ih =>
      rw [List.forall_mem_cons] at h
      exact List.forall_mem_cons.mpr ⟨h.1 s, ih h.2 _⟩

theorem run_restrict_of_forall {C : α → Prop} {s : σ} {as : List α} (hrun : S.Run s as)
    (h : ∀ a ∈ as, C a) : (S.restrict fun _ a => C a).Run s as := by
  induction as generalizing s with
  | nil => trivial
  | cons a as ih =>
      obtain ⟨ha, has⟩ := List.forall_mem_cons.mp h
      exact ⟨⟨hrun.1, ha⟩, ih hrun.2 has⟩

section Collect
variable {β γ : Type}

/-- What the steps of a run put out, in order. -/
def collect (S : System σ α) (out : σ → α → List β) : σ → List α → List β
  | _, [] => []
  | s, a :: as => out s a ++ collect S out (S.next s a) as

@[simp] theorem collect_nil (out : σ → α → List β) (s : σ) : S.collect out s [] = [] := rfl
@[simp] theorem collect_cons (out : σ → α → List β) (s : σ) (a : α) (as : List α) :
    S.collect out s (a :: as) = out s a ++ S.collect out (S.next s a) as := rfl

theorem collect_restrict (C : σ → α → Prop) (out : σ → α → List β) (s : σ) (as : List α) :
    (S.restrict C).collect out s as = S.collect out s as := by
  induction as generalizing s with
  | nil => rfl
  | cons a as ih => exact congrArg (out s a ++ ·) (ih _)

theorem collect_flatMap (g : β → List γ) (out : σ → α → List β) (s : σ) (as : List α) :
    (S.collect out s as).flatMap g = S.collect (fun s a => (out s a).flatMap g) s as := by
  induction as generalizing s with
  | nil => rfl
  | cons a as ih => rw [collect_cons, collect_cons, List.flatMap_append, ih]

theorem collect_append (out : σ → α → List β) (s : σ) (as bs : List α) :
    S.collect out s (as ++ bs) = S.collect out s as ++ S.collect out (S.exec s as) bs := by
  induction as generalizing s with
  | nil => rfl
  | cons a as ih =>
      rw [List.cons_append, collect_cons, collect_cons, ih, exec_cons, List.append_assoc]

theorem collect_eq_nil {out : σ → α → List β} (h : ∀ s a, S.enabled s a → out s a = []) {s : σ}
    {as : List α} (hrun : S.Run s as) : S.collect out s as = [] := by
  induction as generalizing s with
  | nil => rfl
  | cons a as ih => rw [collect_cons, h s a hrun.1, ih hrun.2, List.nil_append]

/-- A relation between lists that concatenation keeps holds of what runs put out if it
holds of what steps do. -/
theorem collect_rel {R : List β → List γ → Prop} (hnil : R [] [])
    (happend : ∀ {x y x' y'}, R x y → R x' y' → R (x ++ x') (y ++ y')) {I : σ → Prop}
    {out : σ → α → List β} {out' : σ → α → List γ}
    (hkeep : ∀ s a, I s → S.enabled s a → I (S.next s a))
    (hstep : ∀ s a, I s → S.enabled s a → R (out s a) (out' s a)) {s : σ} {as : List α}
    (hs : I s) (hrun : S.Run s as) : R (S.collect out s as) (S.collect out' s as) := by
  induction as generalizing s with
  | nil => exact hnil
  | cons a as ih =>
      exact happend (hstep s a hs hrun.1) (ih (hkeep s a hs hrun.1) hrun.2)

theorem forall_collect {P : β → Prop} {I : σ → Prop} {out : σ → α → List β}
    (hkeep : ∀ s a, I s → S.enabled s a → I (S.next s a))
    (hstep : ∀ s a, I s → S.enabled s a → ∀ b ∈ out s a, P b) {s : σ} {as : List α}
    (hs : I s) (hrun : S.Run s as) : ∀ b ∈ S.collect out s as, P b := by
  induction as generalizing s with
  | nil => simp
  | cons a as ih =>
      exact List.forall_mem_append.mpr
        ⟨hstep s a hs hrun.1, ih (hkeep s a hs hrun.1) hrun.2⟩

/-- **Balance**: if what each step takes in, after what was there, is what it puts out before
what is left, then so it is over a run. -/
theorem collect_balance {I : σ → Prop} {content : σ → List β} {ins outs : σ → α → List β}
    (hkeep : ∀ s a, I s → S.enabled s a → I (S.next s a))
    (hstep : ∀ s a, I s → S.enabled s a →
      content s ++ ins s a = outs s a ++ content (S.next s a)) {s : σ} {as : List α} (hs : I s)
    (hrun : S.Run s as) :
    content s ++ S.collect ins s as = S.collect outs s as ++ content (S.exec s as) := by
  induction as generalizing s with
  | nil => simp
  | cons a as ih =>
      have hrest := ih (hkeep s a hs hrun.1) hrun.2
      calc content s ++ (ins s a ++ S.collect ins (S.next s a) as)
          = outs s a ++ (content (S.next s a) ++ S.collect ins (S.next s a) as) := by
            rw [← List.append_assoc, hstep s a hs hrun.1, List.append_assoc]
        _ = outs s a ++ (S.collect outs (S.next s a) as ++ content (S.exec (S.next s a) as)) := by
            rw [hrest]
        _ = outs s a ++ S.collect outs (S.next s a) as ++ content (S.exec s (a :: as)) := by
            rw [List.append_assoc]
            rfl

/-- One action of another system for each step of a run. -/
def actions (S : System σ α) (g : σ → α → γ) : σ → List α → List γ :=
  S.collect fun s a => [g s a]

@[simp] theorem actions_nil (g : σ → α → γ) (s : σ) : S.actions g s [] = [] := rfl
@[simp] theorem actions_cons (g : σ → α → γ) (s : σ) (a : α) (as : List α) :
    S.actions g s (a :: as) = g s a :: S.actions g (S.next s a) as := rfl

section Simulation
variable {τ : Type} {T : System τ γ} {I : σ → Prop} {f : σ → τ} {g : σ → α → γ}

/-- **Simulation**, of the state. -/
theorem exec_simulation (hkeep : ∀ s a, I s → S.enabled s a → I (S.next s a))
    (hsim : ∀ s a, I s → S.enabled s a → f (S.next s a) = T.next (f s) (g s a)) {s : σ}
    {as : List α} (hs : I s) (hrun : S.Run s as) :
    f (S.exec s as) = T.exec (f s) (S.actions g s as) := by
  induction as generalizing s with
  | nil => rfl
  | cons a as ih =>
      rw [exec_cons, actions_cons, exec_cons, ← hsim s a hs hrun.1]
      exact ih (hkeep s a hs hrun.1) hrun.2

/-- **Simulation**, of what is put out. -/
theorem collect_simulation {out : σ → α → List β} {out' : τ → γ → List β}
    (hkeep : ∀ s a, I s → S.enabled s a → I (S.next s a))
    (hsim : ∀ s a, I s → S.enabled s a → f (S.next s a) = T.next (f s) (g s a))
    (hout : ∀ s a, I s → S.enabled s a → out s a = out' (f s) (g s a)) {s : σ}
    {as : List α} (hs : I s) (hrun : S.Run s as) :
    S.collect out s as = T.collect out' (f s) (S.actions g s as) := by
  induction as generalizing s with
  | nil => rfl
  | cons a as ih =>
      rw [collect_cons, actions_cons, collect_cons, ← hsim s a hs hrun.1, hout s a hs hrun.1,
        ih (hkeep s a hs hrun.1) hrun.2]

end Simulation

theorem forall_actions {P : γ → Prop} {g : σ → α → γ} {s : σ} {as : List α}
    (h : ∀ a ∈ as, ∀ s, P (g s a)) : ∀ b ∈ S.actions g s as, P b := by
  induction as generalizing s with
  | nil => simp
  | cons a as ih =>
      rw [List.forall_mem_cons] at h
      rw [actions_cons, List.forall_mem_cons]
      exact ⟨h.1 s, ih h.2⟩

theorem map_actions {δ : Type} {φ : γ → δ} {ψ : α → δ} {g : σ → α → γ}
    (h : ∀ s a, φ (g s a) = ψ a) {s : σ} {as : List α} :
    (S.actions g s as).map φ = as.map ψ := by
  induction as generalizing s with
  | nil => rfl
  | cons a as ih => rw [actions_cons, List.map_cons, List.map_cons, h, ih]

end Collect

end System
end WiFiNINA
