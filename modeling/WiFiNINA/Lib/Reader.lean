import WiFiNINA.Lib.Framing

/-!
# A strict reader of length-prefixed fields

`takeFields` makes do with what it finds.  A reader that owes its input nothing refuses a stream
that ends early, and returns what it does not use.  What it accepts is then exactly what the
writer writes, if every length field is the code of some length.

## Main definitions

* `ExactCode L β` — every string of the right width is a code.
* `readFields` — the strict reader.

## Main statements

* `readFields_eq_some` — it inverts the writer, and accepts nothing else.
-/

namespace WiFiNINA

open LengthCode

/-- A length code that leaves no string of its width unused. -/
class ExactCode (L : Type) (β : outParam Type) [LengthCode L β] : Prop where
  encode_decode : ∀ s : List β, s.length = width L → encode (decode s : L) = s

section Reader
variable (L : Type) {β : Type} [LengthCode L β]

/-- The first `n` fields of a stream, and what follows them. -/
def readFields : ℕ → List β → Option (List (List β) × List β)
  | 0, s => some ([], s)
  | n + 1, s =>
      let len := toNat (decode (s.take (width L)) : L)
      let body := s.drop (width L)
      if width L ≤ s.length ∧ len ≤ body.length then
        (readFields n (body.drop len)).map fun r => (body.take len :: r.1, r.2)
      else none

variable {L} {n : ℕ} {s rest : List β} {x : List β} {xs : List (List β)}

/-- The stream that begins with a field. -/
theorem readFields_field (hx : x.length < bound L) (n : ℕ) (s : List β) :
    readFields L (n + 1) (field L x ++ s) =
      (readFields L n s).map fun r => (x :: r.1, r.2) := by
  have hcode : (field L x ++ s).take (width L) = encode (ofNat x.length : L) := by
    rw [field, List.append_assoc]
    exact List.take_left' (length_encode _)
  have hlen : toNat (decode ((field L x ++ s).take (width L)) : L) = x.length := by
    rw [hcode, decode_encode, toNat_ofNat, Nat.mod_eq_of_lt hx]
  rw [readFields]
  simp only [hlen, drop_width_field, List.drop_left, List.take_left]
  rw [if_pos]
  simp only [List.length_append, length_field]
  omega

theorem readFields_fields (hxs : ∀ x ∈ xs, x.length < bound L) (s : List β) :
    readFields L xs.length (fields L xs ++ s) = some (xs, s) := by
  induction xs with
  | nil => rfl
  | cons x xs ih =>
      obtain ⟨hx, hxs⟩ := List.forall_mem_cons.mp hxs
      rw [List.length_cons, fields_cons, List.append_assoc, readFields_field hx, ih hxs]
      rfl

/-- A length that was read, and what it counts, are a field. -/
theorem field_append [ExactCode L β] (hwidth : width L ≤ s.length)
    (hlen : toNat (decode (s.take (width L)) : L) ≤ (s.drop (width L)).length) :
    field L ((s.drop (width L)).take (toNat (decode (s.take (width L)) : L))) ++
      (s.drop (width L)).drop (toNat (decode (s.take (width L)) : L)) = s := by
  have hcode : encode (decode (s.take (width L)) : L) = s.take (width L) :=
    ExactCode.encode_decode _ (List.length_take_of_le hwidth)
  rw [field, List.length_take_of_le hlen, ofNat_toNat, hcode, List.append_assoc,
    List.take_append_drop, List.take_append_drop]

/-- **The strict reader** accepts a stream if it begins with the fields that it returns, and
with nothing else. -/
theorem readFields_eq_some [ExactCode L β] :
    readFields L n s = some (xs, rest) ↔
      xs.length = n ∧ (∀ x ∈ xs, x.length < bound L) ∧ s = fields L xs ++ rest := by
  refine ⟨fun h => ?_, ?_⟩
  · induction n generalizing s xs with
    | zero =>
        obtain ⟨rfl, rfl⟩ := Prod.mk.inj (Option.some.inj h)
        exact ⟨rfl, List.forall_mem_nil _, rfl⟩
    | succ n ih =>
        rw [readFields] at h
        split at h
        · next hroom =>
            obtain ⟨r, hr, heq⟩ := Option.map_eq_some_iff.mp h
            obtain ⟨rfl, rfl⟩ := Prod.mk.inj heq
            obtain ⟨hcount, hbound, hrest⟩ := ih hr
            refine ⟨?_, List.forall_mem_cons.mpr ⟨?_, hbound⟩, ?_⟩
            · rw [List.length_cons, hcount]
            · rw [List.length_take_of_le hroom.2]
              exact LengthCode.toNat_lt _
            · rw [fields_cons, List.append_assoc, ← hrest, field_append hroom.1 hroom.2]
        · cases h
  · rintro ⟨rfl, hxs, rfl⟩
    exact readFields_fields hxs rest

end Reader
end WiFiNINA
