import Mathlib.Data.List.Basic

/-!
# What comes before what in a trace

A trace lists events in the order in which they happen.  An event that another one has to come
before, as the creation of a resource has to come before its use, is a property of every place
at which the later one occurs.

## Main definitions

* `Before` — an event comes before every occurrence of another.

## Main statements

* `before_append` — a trace that is continued.
-/

namespace WiFiNINA

variable {ε : Type} {a b c : ε} {l l' : List ε}

/-- Before every occurrence of `b` there is one of `a`. -/
def Before (a b : ε) (l : List ε) : Prop := ∀ pre post, l = pre ++ b :: post → a ∈ pre

theorem before_of_notMem (h : b ∉ l) : Before a b l := by
  intro pre post hl
  exact absurd (hl ▸ List.mem_append_right pre List.mem_cons_self) h

/-- Nothing comes before the first event. -/
theorem before_cons : Before a b (c :: l) ↔ c ≠ b ∧ (c = a ∨ Before a b l) := by
  constructor
  · intro h
    refine ⟨fun hcb => ?_, ?_⟩
    · exact absurd (h [] l (by rw [hcb, List.nil_append])) List.not_mem_nil
    · by_cases hca : c = a
      · exact .inl hca
      · refine .inr fun pre post hl => ?_
        have hmem : a ∈ c :: pre := h (c :: pre) post (by rw [hl, List.cons_append])
        exact (List.mem_cons.mp hmem).resolve_left (Ne.symm hca)
  · rintro ⟨hcb, h⟩ pre post hl
    cases pre with
    | nil => exact absurd (List.head_eq_of_cons_eq hl) hcb
    | cons d pre =>
        obtain ⟨rfl, htail⟩ := List.cons.inj hl
        rcases h with hca | h
        · exact List.mem_cons.mpr (.inl hca.symm)
        · exact List.mem_cons_of_mem c (h pre post htail)

/-- **A trace that is continued**: behind an occurrence of the earlier event anything may come. -/
theorem before_append : Before a b (l ++ l') ↔ Before a b l ∧ (a ∈ l ∨ Before a b l') := by
  induction l with
  | nil => simp [before_of_notMem]
  | cons c l ih =>
      rw [List.cons_append, before_cons, before_cons, ih, List.mem_cons, and_assoc]
      refine and_congr_right fun _ => ?_
      by_cases hca : c = a
      · simp [hca]
      · simp [hca, Ne.symm hca]

/-- Once the earlier event has happened, the trace may be continued in any way. -/
theorem Before.append_of_mem (h : Before a b l) (ha : a ∈ l) (l' : List ε) :
    Before a b (l ++ l') :=
  before_append.mpr ⟨h, .inl ha⟩

/-- An event that happens needs the earlier one. -/
theorem Before.mem (h : Before a b l) (hb : b ∈ l) : a ∈ l := by
  obtain ⟨pre, post, rfl⟩ := List.append_of_mem hb
  exact List.mem_append_left _ (h pre post rfl)

end WiFiNINA
