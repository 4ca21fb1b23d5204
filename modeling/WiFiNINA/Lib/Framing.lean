import Mathlib.Algebra.Order.BigOperators.Group.List
import Mathlib.Algebra.Order.Ring.Canonical
import Mathlib.Algebra.Order.Ring.Nat
import Mathlib.Data.List.Basic
import Mathlib.Data.List.Forall2

/-!
# Length-prefixed fields over a stream that may end early

A field is a fixed-width length followed by that many symbols; a message body is
a counted sequence of fields.  The writing side is `fields`.  The reading side
has a capacity for every field and two habits that a specification has to name:
a length that reaches the capacity is clipped to one below it, and a read past
the end of the stream yields a default symbol instead of failing.  `takeFields`
is that reader as a function of the stream, with the number of symbols it asked
for, so that "nothing was made up" is the statement that this number does not
exceed the length of the stream.

## Main definitions

* `LengthCode L β` — a fixed-width code for lengths, with its wrapping predecessor.
* `padTake` — read `n` symbols, supplying a default past the end.
* `field`, `fields` — the written form.
* `clip`, `takeFields` — the clipped reader.

## Main statements

* `fields_append_inj` — counted fields are uniquely decodable, whatever follows.
* `takeFields_fields` — the reader inverts the writer below the capacities.
* `takeFields_full` — at the capacity it loses the last symbol.
* `takeFields_append` — what is read without padding does not depend on what follows.
* `takeFields_slices` — what is read without padding are slices of the stream.
* `takeFields_fields_concat` — what is left of a field that is too long.
-/

namespace WiFiNINA

section Padding
variable {β : Type}

/-- The first `n` symbols of `s`, with `d` for every symbol `s` does not have. -/
def padTake (d : β) (n : ℕ) (s : List β) : List β := s.take n ++ List.replicate (n - s.length) d

@[simp] theorem length_padTake (d : β) (n : ℕ) (s : List β) : (padTake d n s).length = n := by
  simp [padTake]
  omega

@[simp] theorem padTake_zero (d : β) (s : List β) : padTake d 0 s = [] := by
  simp [padTake]

theorem padTake_succ (d : β) (n : ℕ) (s : List β) :
    padTake d (n + 1) s = s.headD d :: padTake d n s.tail := by
  cases s with
  | nil => simp [padTake, List.replicate_succ]
  | cons x s => simp [padTake]

theorem padTake_of_le {d : β} {n : ℕ} {s : List β} (h : n ≤ s.length) :
    padTake d n s = s.take n := by
  simp [padTake, Nat.sub_eq_zero_of_le h]

theorem padTake_append_of_le {d : β} {n : ℕ} {s : List β} (t : List β) (h : n ≤ s.length) :
    padTake d n (s ++ t) = padTake d n s := by
  rw [padTake_of_le h, padTake_of_le (by simp; omega), List.take_append_of_le_length h]

@[simp] theorem padTake_left (d : β) (s t : List β) : padTake d s.length (s ++ t) = s := by
  rw [padTake_of_le (by simp), List.take_left]

theorem padTake_of_length_le {d : β} {n : ℕ} {s : List β} (h : s.length ≤ n) :
    padTake d n s = s ++ List.replicate (n - s.length) d := by
  rw [padTake, List.take_of_length_le h]

theorem take_padTake (d : β) {k n : ℕ} (s : List β) (h : k ≤ n) :
    (padTake d n s).take k = padTake d k s := by
  rw [padTake, padTake, List.take_append, List.take_take, Nat.min_eq_left h, List.take_replicate,
    List.length_take]
  congr 2
  omega

/-- What is cut off a stream behind its first `k` symbols does not matter to one who reads on
if it was the default. -/
theorem padTake_take_eq_iff {d : β} {k : ℕ} {s : List β} (t : List β) :
    padTake d s.length ((s ++ t).take k) = s ↔ ∀ c ∈ s.drop k, c = d := by
  rcases Nat.le_total s.length k with h | h
  · rw [List.take_append, List.take_of_length_le h, List.drop_eq_nil_of_le h]
    simp
  · have hlen : (s.take k).length = k := List.length_take_of_le h
    rw [List.take_append_of_le_length h, padTake_of_length_le (by omega), hlen]
    nth_rewrite 3 [← List.take_append_drop k s]
    rw [List.append_cancel_left_eq, eq_comm, List.eq_replicate_iff, List.length_drop]
    simp

end Padding

/-- A fixed-width code for lengths below `bound`, as machine integers: conversion
from a natural number reduces modulo `bound`, and the predecessor of zero is the
largest length. -/
class LengthCode (L : Type) (β : outParam Type) where
  width : ℕ
  bound : ℕ
  encode : L → List β
  decode : List β → L
  toNat : L → ℕ
  ofNat : ℕ → L
  pred : L → L
  length_encode : ∀ l, (encode l).length = width
  decode_encode : ∀ l, decode (encode l) = l
  width_pos : 0 < width
  bound_pos : 0 < bound
  toNat_ofNat : ∀ n, toNat (ofNat n) = n % bound
  ofNat_toNat : ∀ l, ofNat (toNat l) = l
  toNat_pred : ∀ l, toNat (pred l) = if toNat l = 0 then bound - 1 else toNat l - 1

attribute [simp] LengthCode.length_encode LengthCode.decode_encode LengthCode.toNat_ofNat
  LengthCode.ofNat_toNat

export LengthCode (toNat)

section Fields
variable (L : Type) {β : Type} [LengthCode L β]
open LengthCode

variable {L} in
theorem LengthCode.toNat_lt (l : L) : toNat l < bound L := by
  have h := toNat_ofNat (L := L) (toNat l)
  rw [ofNat_toNat] at h
  rw [h]
  exact Nat.mod_lt _ bound_pos

/-- One written field: the length of `x`, reduced to the width of the code, then `x`. -/
def field (x : List β) : List β := encode (ofNat x.length : L) ++ x

/-- The written form of a sequence of fields. -/
def fields (xs : List (List β)) : List β := xs.flatMap (field L)

/-- The number of symbols a sequence of fields is written with. -/
def fieldsSize (xs : List (List β)) : ℕ := (xs.map fun x => width L + x.length).sum

@[simp] theorem length_field (x : List β) : (field L x).length = width L + x.length := by
  simp [field]

@[simp] theorem fields_nil : fields L ([] : List (List β)) = [] := rfl
@[simp] theorem fields_cons (x : List β) (xs : List (List β)) :
    fields L (x :: xs) = field L x ++ fields L xs := by
  simp [fields]

@[simp] theorem fieldsSize_nil : fieldsSize L ([] : List (List β)) = 0 := rfl
@[simp] theorem fieldsSize_cons (x : List β) (xs : List (List β)) :
    fieldsSize L (x :: xs) = width L + x.length + fieldsSize L xs := by
  simp [fieldsSize]

@[simp] theorem length_fields (xs : List (List β)) :
    (fields L xs).length = fieldsSize L xs := by
  induction xs with
  | nil => rfl
  | cons x xs ih => simp [ih]

theorem length_le_fieldsSize_self (xs : List (List β)) : xs.length ≤ fieldsSize L xs := by
  induction xs with
  | nil => simp
  | cons x xs ih =>
      have := width_pos (L := L)
      rw [List.length_cons, fieldsSize_cons]
      omega

theorem length_le_fieldsSize_of_mem {xs : List (List β)} {x : List β} (hx : x ∈ xs) :
    x.length ≤ fieldsSize L xs := by
  induction xs with
  | nil => simp at hx
  | cons y xs ih =>
      rw [fieldsSize_cons]
      rcases List.mem_cons.mp hx with rfl | hx
      · omega
      · have := ih hx
        omega

/-- **Unique decodability.** Two equally long sequences of fields whose lengths the
code can represent are equal as soon as their written forms agree, whatever
follows them; so are the remainders. -/
theorem fields_append_inj {xs ys : List (List β)} {s t : List β}
    (hlen : xs.length = ys.length)
    (hxs : ∀ x ∈ xs, x.length < bound L) (hys : ∀ y ∈ ys, y.length < bound L)
    (h : fields L xs ++ s = fields L ys ++ t) : xs = ys ∧ s = t := by
  induction xs generalizing ys with
  | nil =>
      obtain rfl : ys = [] := List.length_eq_zero_iff.mp hlen.symm
      exact ⟨rfl, by simpa using h⟩
  | cons x xs ih =>
      obtain ⟨y, ys, rfl⟩ := List.exists_cons_of_length_eq_add_one hlen.symm
      simp only [fields_cons, field, List.append_assoc] at h
      -- the two length fields are equally wide, so they agree on their own
      obtain ⟨hcode, hrest⟩ := List.append_inj h (by simp)
      have hnat : x.length = y.length := by
        have h1 := congrArg (fun c => toNat (decode c : L)) hcode
        simpa [Nat.mod_eq_of_lt (hxs x (by simp)), Nat.mod_eq_of_lt (hys y (by simp))] using h1
      obtain ⟨rfl, htail⟩ := List.append_inj hrest hnat
      obtain ⟨rfl, rfl⟩ := ih (by simpa using hlen) (fun z hz => hxs z (by simp [hz]))
        (fun z hz => hys z (by simp [hz])) htail
      exact ⟨rfl, rfl⟩

end Fields

/-! ## The clipped reader -/

section Reader
variable {L β : Type} [LengthCode L β]
open LengthCode

/-- A received length that reaches the capacity is replaced by the capacity's
predecessor, as machine integers. -/
def clip (cap len : L) : L := if toNat cap ≤ toNat len then pred cap else len

theorem toNat_clip_of_lt {cap len : L} (h : toNat len < toNat cap) : clip cap len = len := by
  simp [clip, Nat.not_le.mpr h]

theorem toNat_clip {cap : L} (len : L) (h : 0 < toNat cap) :
    toNat (clip cap len) = min (toNat len) (toNat cap - 1) := by
  rw [clip]
  split
  · rw [toNat_pred, if_neg (by omega)]
    omega
  · omega

theorem toNat_clip_lt {cap : L} (len : L) (h : 0 < toNat cap) :
    toNat (clip cap len) < toNat cap := by
  rw [toNat_clip len h]
  omega

/-- How many symbols are stored for a field at most, if a terminator is stored behind it: the
capacity zero wraps. -/
def reach (cap : L) : ℕ := if toNat cap = 0 then bound L else toNat cap

theorem toNat_clip_lt_reach (cap len : L) : toNat (clip cap len) < reach cap := by
  rw [reach]
  split
  · exact toNat_lt _
  · exact toNat_clip_lt len (by omega)

theorem reach_le (cap : L) : reach cap ≤ bound L := by
  rw [reach]
  split
  · exact le_rfl
  · exact (toNat_lt cap).le

/-- A length that was read is never the capacity itself. -/
theorem clip_ne (cap len : L) (hbound : 1 < bound L) : clip cap len ≠ cap := by
  intro h
  have hnat := congrArg toNat h
  have hlt := toNat_lt cap
  rw [clip] at hnat
  split at hnat
  · rw [toNat_pred] at hnat
    split at hnat <;> omega
  · omega

/-- The length a reader of capacity `cap` goes by at the head of `s`. -/
def readLength (d : β) (cap : L) (s : List β) : L := clip cap (decode (padTake d (width L) s))

/-- Read one field per capacity: the symbols of each field, and how many symbols
were asked for in all. -/
def takeFields (d : β) : List L → List β → List (List β) × ℕ
  | [], _ => ([], 0)
  | cap :: caps, s =>
      let n := toNat (readLength d cap s)
      let r := takeFields d caps (s.drop (width L + n))
      (padTake d n (s.drop (width L)) :: r.1, width L + n + r.2)

variable (d : β)

@[simp] theorem takeFields_nil (s : List β) : takeFields d ([] : List L) s = ([], 0) := rfl

theorem takeFields_cons (cap : L) (caps : List L) (s : List β) :
    takeFields d (cap :: caps) s =
      (padTake d (toNat (readLength d cap s)) (s.drop (width L)) ::
          (takeFields d caps (s.drop (width L + toNat (readLength d cap s)))).1,
        width L + toNat (readLength d cap s) +
          (takeFields d caps (s.drop (width L + toNat (readLength d cap s)))).2) := rfl

@[simp] theorem length_takeFields (caps : List L) (s : List β) :
    (takeFields d caps s).1.length = caps.length := by
  induction caps generalizing s with
  | nil => rfl
  | cons cap caps ih => simp [takeFields_cons, ih]

/-- Every field read is strictly shorter than its capacity. -/
theorem takeFields_lt {caps : List L} (hcaps : ∀ cap ∈ caps, 0 < toNat cap) (s : List β) :
    List.Forall₂ (fun x cap => x.length < toNat cap) (takeFields d caps s).1 caps := by
  induction caps generalizing s with
  | nil => exact .nil
  | cons cap caps ih =>
      rw [takeFields_cons]
      refine .cons ?_ (ih (fun c hc => hcaps c (by simp [hc])) _)
      simpa [readLength] using toNat_clip_lt _ (hcaps cap (by simp))

/-- No field is stored beyond the reach of its capacity. -/
theorem takeFields_lt_reach (caps : List L) (s : List β) :
    List.Forall₂ (fun x cap => x.length < reach cap) (takeFields d caps s).1 caps := by
  induction caps generalizing s with
  | nil => exact .nil
  | cons cap caps ih =>
      rw [takeFields_cons]
      refine .cons ?_ (ih _)
      rw [length_padTake]
      exact toNat_clip_lt_reach cap _

/-- The reader asks for no more than the headers and the capacities hold. -/
theorem takeFields_reads_le {caps : List L} (hcaps : ∀ cap ∈ caps, 0 < toNat cap) (s : List β) :
    (takeFields d caps s).2 ≤ (caps.map fun cap => width L + toNat cap).sum := by
  induction caps generalizing s with
  | nil => simp
  | cons cap caps ih =>
      have hclip : toNat (readLength d cap s) < toNat cap := toNat_clip_lt _ (hcaps cap (by simp))
      have h := ih (fun c hc => hcaps c (by simp [hc]))
        (s.drop (width L + toNat (readLength d cap s)))
      rw [takeFields_cons, List.map_cons, List.sum_cons]
      simp only
      omega

/-- Below the capacities the reader returns what was written, and goes on right behind it. -/
theorem takeFields_fields_append {xs : List (List β)} {caps : List L}
    (h : List.Forall₂ (fun x cap => x.length < toNat cap) xs caps)
    (hb : ∀ x ∈ xs, x.length < bound L) (caps' : List L) (s : List β) :
    takeFields d (caps ++ caps') (fields L xs ++ s) =
      (xs ++ (takeFields d caps' s).1, fieldsSize L xs + (takeFields d caps' s).2) := by
  induction h with
  | nil => simp
  | @cons x cap xs caps hx hrest ih =>
      have hlen : readLength d cap (fields L (x :: xs) ++ s) = (ofNat x.length : L) := by
        have hcode : padTake d (width L) (fields L (x :: xs) ++ s) =
            encode (ofNat x.length : L) := by
          rw [fields_cons, field, List.append_assoc, List.append_assoc,
            ← length_encode (ofNat x.length : L)]
          exact padTake_left d _ _
        rw [readLength, hcode, decode_encode]
        apply toNat_clip_of_lt
        rwa [toNat_ofNat, Nat.mod_eq_of_lt (hb x (by simp))]
      have hnat : toNat (readLength d cap (fields L (x :: xs) ++ s)) = x.length := by
        rw [hlen, toNat_ofNat, Nat.mod_eq_of_lt (hb x (by simp))]
      have hbody : (fields L (x :: xs) ++ s).drop (width L) = x ++ (fields L xs ++ s) := by
        rw [fields_cons, field, List.append_assoc, List.append_assoc]
        exact List.drop_left' (length_encode _)
      have htail : (fields L (x :: xs) ++ s).drop (width L + x.length) = fields L xs ++ s := by
        rw [← List.drop_drop, hbody, List.drop_left]
      rw [List.cons_append, takeFields_cons, hnat, hbody, htail, ih fun y hy => hb y (by simp [hy])]
      simp [Nat.add_assoc]

/-- **Round trip.** Below the capacities the reader returns what was written and
stops right behind it. -/
theorem takeFields_fields {xs : List (List β)} {caps : List L}
    (h : List.Forall₂ (fun x cap => x.length < toNat cap) xs caps)
    (hb : ∀ x ∈ xs, x.length < bound L) (s : List β) :
    takeFields d caps (fields L xs ++ s) = (xs, fieldsSize L xs) := by
  have happend := takeFields_fields_append d h hb [] s
  rwa [List.append_nil, takeFields_nil, List.append_nil, Nat.add_zero] at happend

/-- A field that fills its capacity loses its last symbol, and the reader goes on with
that symbol. -/
theorem takeFields_full {cap : L} {caps : List L} {x : List β} (c : β) (s : List β)
    (hx : x.length + 1 = toNat cap) :
    takeFields d (cap :: caps) (field L (x ++ [c]) ++ s) =
      (x :: (takeFields d caps (c :: s)).1,
        width L + x.length + (takeFields d caps (c :: s)).2) := by
  have hcap : x.length + 1 < bound L := hx ▸ toNat_lt cap
  have hsplit : field L (x ++ [c]) ++ s = encode (ofNat (x.length + 1) : L) ++ (x ++ c :: s) := by
    simp [field]
  have hlen : toNat (readLength d cap (field L (x ++ [c]) ++ s)) = x.length := by
    have hcode : padTake d (width L) (field L (x ++ [c]) ++ s) =
        encode (ofNat (x.length + 1) : L) := by
      rw [hsplit, ← length_encode (ofNat (x.length + 1) : L)]
      exact padTake_left d _ _
    rw [readLength, hcode, decode_encode, toNat_clip _ (by omega), toNat_ofNat,
      Nat.mod_eq_of_lt hcap]
    omega
  have hbody : (field L (x ++ [c]) ++ s).drop (width L) = x ++ c :: s := by
    rw [hsplit]
    exact List.drop_left' (length_encode _)
  rw [takeFields_cons, hlen, ← List.drop_drop, hbody, padTake_left, List.drop_left]

/-- A run of the reader that asked for no more than the stream had does not see
what follows the stream. -/
theorem takeFields_append {caps : List L} {s : List β} (t : List β)
    (h : (takeFields d caps s).2 ≤ s.length) :
    takeFields d caps (s ++ t) = takeFields d caps s := by
  induction caps generalizing s with
  | nil => rfl
  | cons cap caps ih =>
      rw [takeFields_cons] at h
      have hwidth : width L ≤ s.length := by omega
      have hlen : readLength d cap (s ++ t) = readLength d cap s := by
        rw [readLength, readLength, padTake_append_of_le t hwidth]
      have hfield : width L + toNat (readLength d cap s) ≤ s.length := by omega
      rw [takeFields_cons, takeFields_cons, hlen, List.drop_append_of_le_length hwidth,
        List.drop_append_of_le_length hfield, padTake_append_of_le t (by simp; omega),
        ih (by simp; omega)]

/-- A run of the reader that asked for no more than the stream had returns slices
of the stream: fixed-width headers and the fields read, alternating. -/
theorem takeFields_slices {caps : List L} {s : List β}
    (h : (takeFields d caps s).2 ≤ s.length) :
    ∃ hs : List (List β), hs.length = caps.length ∧ (∀ c ∈ hs, c.length = width L) ∧
      s.take (takeFields d caps s).2 =
        (List.zipWith (· ++ ·) hs (takeFields d caps s).1).flatten := by
  induction caps generalizing s with
  | nil => exact ⟨[], rfl, by simp, by simp⟩
  | cons cap caps ih =>
      rw [takeFields_cons] at h ⊢
      obtain ⟨hs, hlen, hwidth, hslice⟩ := ih (s := s.drop (width L + toNat (readLength d cap s)))
        (by simp; omega)
      refine ⟨s.take (width L) :: hs, by simp [hlen], ?_, ?_⟩
      · intro c hc
        rcases List.mem_cons.mp hc with rfl | hc
        · simp; omega
        · exact hwidth c hc
      · rw [List.take_add, List.take_add, hslice, padTake_of_le (by simp; omega)]
        simp

/-- At the head of a written field the reader goes by the length of the field, unless that
reaches the capacity. -/
theorem toNat_readLength_field {cap : L} {x : List β} (s : List β) (hcap : 0 < toNat cap)
    (hx : x.length < bound L) :
    toNat (readLength d cap (field L x ++ s)) = min x.length (toNat cap - 1) := by
  have hcode : padTake d (width L) (field L x ++ s) = encode (ofNat x.length : L) := by
    rw [field, List.append_assoc, ← length_encode (ofNat x.length : L)]
    exact padTake_left d _ _
  rw [readLength, hcode, decode_encode, toNat_clip _ hcap, toNat_ofNat, Nat.mod_eq_of_lt hx]

omit [LengthCode L β] in
/-- What is left of a field behind its first `n` symbols, if it has as many. -/
theorem drop_min_length (x s : List β) (n : ℕ) :
    (x ++ s).drop (min x.length n) = x.drop n ++ s := by
  rw [List.drop_append_of_le_length (Nat.min_le_left _ _)]
  rcases Nat.le_total x.length n with h | h
  · rw [Nat.min_eq_left h, List.drop_length, List.drop_eq_nil_of_le h]
  · rw [Nat.min_eq_right h]

theorem drop_width_field (x s : List β) : (field L x ++ s).drop (width L) = x ++ s := by
  rw [field, List.append_assoc]
  exact List.drop_left' (length_encode _)

/-- Of a written field the reader returns what the capacity leaves room for, and it goes on
with the rest of that field. -/
theorem takeFields_field {cap : L} (caps : List L) {x : List β} (s : List β)
    (hcap : 0 < toNat cap) (hx : x.length < bound L) :
    takeFields d (cap :: caps) (field L x ++ s) =
      (x.take (toNat cap - 1) :: (takeFields d caps (x.drop (toNat cap - 1) ++ s)).1,
        width L + min x.length (toNat cap - 1) +
          (takeFields d caps (x.drop (toNat cap - 1) ++ s)).2) := by
  have htake : padTake d (min x.length (toNat cap - 1)) (x ++ s) = x.take (toNat cap - 1) := by
    rw [padTake_append_of_le _ (Nat.min_le_left _ _), padTake_of_le (Nat.min_le_left _ _),
      Nat.min_comm, ← List.take_take, List.take_length]
  rw [takeFields_cons, toNat_readLength_field d s hcap hx, ← List.drop_drop, drop_width_field,
    htake, drop_min_length]

/-- **Only the last field is too long.**  The reader returns the fields in front of it and a
prefix of it, and goes on with what is left of it. -/
theorem takeFields_fields_concat {xs : List (List β)} {caps : List L} {x : List β} {cap : L}
    (h : List.Forall₂ (fun x cap => x.length < toNat cap) xs caps)
    (hb : ∀ x ∈ xs, x.length < bound L) (hcap : 0 < toNat cap) (hx : x.length < bound L)
    (s : List β) :
    (takeFields d (caps ++ [cap]) (fields L xs ++ (field L x ++ s))).1 =
        xs ++ [x.take (toNat cap - 1)] ∧
      (fields L xs ++ (field L x ++ s)).drop
          (takeFields d (caps ++ [cap]) (fields L xs ++ (field L x ++ s))).2 =
        x.drop (toNat cap - 1) ++ s := by
  rw [takeFields_fields_append d h hb, takeFields_field d [] s hcap hx]
  refine ⟨rfl, ?_⟩
  rw [takeFields_nil, Nat.add_zero, ← List.drop_drop, ← length_fields L xs, List.drop_left,
    ← List.drop_drop, drop_width_field, drop_min_length]

end Reader
end WiFiNINA
