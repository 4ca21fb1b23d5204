import Mathlib.Data.List.Basic
import Mathlib.Data.Set.Defs
import Mathlib.Logic.Function.Basic

/-!
# Byte memory made of objects, with a log of the stores

A pointer is an object together with an offset into it, so that pointers into
different objects never meet and pointer arithmetic stays inside one object.  A
memory is total: an access past the end of an object is an address like any
other.  What makes such an access visible is the log, which records every
address stored to, in order; `since` reads off what was stored between two
states.  Bounds are therefore statements about the log, and never assumptions
built into the store.

## Main definitions

* `Ptr ω`, `Ptr.add` — pointers and their arithmetic.
* `Memory ω β` — contents and store log.
* `Memory.store`, `Memory.storeList`, `Memory.load`, `Memory.loadList`.
* `Ptr.region p n` — the `n` addresses from `p` on.
* `Memory.since` — the addresses stored to between two states.
* `Memory.Confined` — nothing but some addresses was stored to.
-/

namespace WiFiNINA

/-- A pointer: an object and an offset into it. -/
@[ext] structure Ptr (ω : Type) where
  obj : ω
  off : ℕ
  deriving DecidableEq

namespace Ptr
variable {ω : Type}

/-- Advance a pointer by `n` cells of the same object. -/
def add (p : Ptr ω) (n : ℕ) : Ptr ω := ⟨p.obj, p.off + n⟩

@[simp] theorem obj_add (p : Ptr ω) (n : ℕ) : (p.add n).obj = p.obj := rfl
@[simp] theorem off_add (p : Ptr ω) (n : ℕ) : (p.add n).off = p.off + n := rfl
@[simp] theorem add_zero (p : Ptr ω) : p.add 0 = p := rfl
@[simp] theorem add_add (p : Ptr ω) (m n : ℕ) : (p.add m).add n = p.add (m + n) := by
  simp only [add, Nat.add_assoc]

@[simp] theorem add_inj (p : Ptr ω) (m n : ℕ) : p.add m = p.add n ↔ m = n := by
  simp [add]

/-- The `n` consecutive addresses that start at `p`. -/
def region (p : Ptr ω) (n : ℕ) : List (Ptr ω) := (List.range n).map p.add

@[simp] theorem region_zero (p : Ptr ω) : p.region 0 = [] := rfl

theorem mem_region {p q : Ptr ω} {n : ℕ} : q ∈ p.region n ↔ ∃ i < n, q = p.add i := by
  simp [region, eq_comm]

theorem region_add (p : Ptr ω) (m n : ℕ) :
    p.region (m + n) = p.region m ++ (p.add m).region n := by
  simp only [region, List.range_add, List.map_append, List.map_map, List.append_cancel_left_eq]
  exact List.map_congr_left fun i _ => by simp

theorem region_succ (p : Ptr ω) (n : ℕ) : p.region (n + 1) = p :: (p.add 1).region n := by
  rw [Nat.add_comm, region_add]
  rfl

theorem obj_of_mem_region {p q : Ptr ω} {n : ℕ} (h : q ∈ p.region n) : q.obj = p.obj := by
  obtain ⟨i, _, rfl⟩ := mem_region.mp h
  rfl

theorem region_subset {p q : Ptr ω} {m n : ℕ} (hmn : m ≤ n) (h : q ∈ p.region m) :
    q ∈ p.region n := by
  obtain ⟨i, hi, rfl⟩ := mem_region.mp h
  exact mem_region.mpr ⟨i, by omega, rfl⟩

end Ptr

/-- Contents of every address, and the addresses stored to, latest first. -/
structure Memory (ω β : Type) where
  cells : Ptr ω → β
  log : List (Ptr ω)

namespace Memory
variable {ω β : Type}

/-- The value at one address. -/
def load (m : Memory ω β) (p : Ptr ω) : β := m.cells p

/-- The `n` consecutive values from `p` on. -/
def loadList (m : Memory ω β) (p : Ptr ω) (n : ℕ) : List β := (p.region n).map m.load

/-- What was stored to between the earlier state `m` and the later state `m'`. -/
def since (m' m : Memory ω β) : List (Ptr ω) := m'.log.take (m'.log.length - m.log.length)

theorem since_of_log {m m' : Memory ω β} {new : List (Ptr ω)} (h : m'.log = new ++ m.log) :
    m'.since m = new := by
  simp [since, h]

@[simp] theorem since_self (m : Memory ω β) : m.since m = [] := by
  simp [since]

/-- What was stored from `m` to `m''` was stored up to some state in between or after it. -/
theorem forall_since_trans {m m' m'' : Memory ω β} {P : Ptr ω → Prop} {new new' : List (Ptr ω)}
    (h : m'.log = new ++ m.log) (h' : m''.log = new' ++ m'.log) :
    (∀ a ∈ m''.since m, P a) ↔ (∀ a ∈ m'.since m, P a) ∧ ∀ a ∈ m''.since m', P a := by
  have hlog : m''.log = (new' ++ new) ++ m.log := by rw [h', h, List.append_assoc]
  rw [since_of_log h, since_of_log h', since_of_log hlog, List.forall_mem_append, and_comm]

@[simp] theorem length_loadList (m : Memory ω β) (p : Ptr ω) (n : ℕ) :
    (m.loadList p n).length = n := by
  simp [loadList, Ptr.region]

theorem getElem_loadList (m : Memory ω β) (p : Ptr ω) (n : ℕ) {i : ℕ}
    (hi : i < (m.loadList p n).length) : (m.loadList p n)[i] = m.load (p.add i) := by
  simp [loadList, Ptr.region]

@[simp] theorem loadList_zero (m : Memory ω β) (p : Ptr ω) : m.loadList p 0 = [] := rfl

theorem loadList_succ (m : Memory ω β) (p : Ptr ω) (n : ℕ) :
    m.loadList p (n + 1) = m.load p :: m.loadList (p.add 1) n := by
  simp [loadList, Ptr.region_succ]

theorem loadList_add (m : Memory ω β) (p : Ptr ω) (k n : ℕ) :
    m.loadList p (k + n) = m.loadList p k ++ m.loadList (p.add k) n := by
  simp [loadList, Ptr.region_add]

theorem loadList_congr {m m' : Memory ω β} {p : Ptr ω} {n : ℕ}
    (h : ∀ q ∈ p.region n, m'.load q = m.load q) : m'.loadList p n = m.loadList p n :=
  List.map_congr_left h

theorem take_loadList (m : Memory ω β) (p : Ptr ω) {k n : ℕ} (h : k ≤ n) :
    (m.loadList p n).take k = m.loadList p k := by
  obtain ⟨d, rfl⟩ := Nat.exists_eq_add_of_le h
  simp [loadList_add]

theorem drop_loadList (m : Memory ω β) (p : Ptr ω) {k n : ℕ} (h : k ≤ n) :
    (m.loadList p n).drop k = m.loadList (p.add k) (n - k) := by
  obtain ⟨d, rfl⟩ := Nat.exists_eq_add_of_le h
  simp [loadList_add]

section Store
variable [DecidableEq ω]

/-- Replace the value at one address. -/
def store (m : Memory ω β) (p : Ptr ω) (b : β) : Memory ω β :=
  ⟨Function.update m.cells p b, p :: m.log⟩

/-- Store consecutive values from `p` on, first value first. -/
def storeList (m : Memory ω β) (p : Ptr ω) : List β → Memory ω β
  | [] => m
  | b :: bs => (m.store p b).storeList (p.add 1) bs

theorem load_store (m : Memory ω β) (p q : Ptr ω) (b : β) :
    (m.store p b).load q = if q = p then b else m.load q := by
  simp [load, store, Function.update_apply]

@[simp] theorem load_store_self (m : Memory ω β) (p : Ptr ω) (b : β) :
    (m.store p b).load p = b := by
  simp [load_store]

theorem load_store_of_ne (m : Memory ω β) {p q : Ptr ω} (b : β) (h : q ≠ p) :
    (m.store p b).load q = m.load q := by
  simp [load_store, h]

@[simp] theorem storeList_nil (m : Memory ω β) (p : Ptr ω) : m.storeList p [] = m := rfl
@[simp] theorem storeList_cons (m : Memory ω β) (p : Ptr ω) (b : β) (bs : List β) :
    m.storeList p (b :: bs) = (m.store p b).storeList (p.add 1) bs := rfl

theorem storeList_append (m : Memory ω β) (p : Ptr ω) (xs ys : List β) :
    m.storeList p (xs ++ ys) = (m.storeList p xs).storeList (p.add xs.length) ys := by
  induction xs generalizing m p with
  | nil => simp
  | cons x xs ih =>
      rw [List.cons_append, storeList_cons, ih, storeList_cons, Ptr.add_add,
        List.length_cons, Nat.add_comm 1]

theorem load_storeList_of_notMem (m : Memory ω β) {p q : Ptr ω} {bs : List β}
    (h : q ∉ p.region bs.length) : (m.storeList p bs).load q = m.load q := by
  induction bs generalizing m p with
  | nil => rfl
  | cons b bs ih =>
      rw [List.length_cons, Ptr.region_succ, List.mem_cons, not_or] at h
      rw [storeList_cons, ih _ h.2, load_store_of_ne _ _ h.1]

theorem load_storeList_of_obj_ne (m : Memory ω β) {p q : Ptr ω} {bs : List β}
    (h : q.obj ≠ p.obj) : (m.storeList p bs).load q = m.load q :=
  load_storeList_of_notMem m fun hq => h (Ptr.obj_of_mem_region hq)

theorem load_storeList_add (m : Memory ω β) (p : Ptr ω) (bs : List β) {i : ℕ}
    (hi : i < bs.length) : (m.storeList p bs).load (p.add i) = bs[i] := by
  induction bs generalizing m p i with
  | nil => simp at hi
  | cons b bs ih =>
      rw [storeList_cons]
      cases i with
      | zero =>
          rw [load_storeList_of_notMem]
          · simp
          · intro h
            obtain ⟨j, _, hj⟩ := Ptr.mem_region.mp h
            simp [Ptr.add, Ptr.ext_iff] at hj
            omega
      | succ i =>
          have h := ih (m.store p b) (p.add 1) (i := i) (by simpa using hi)
          rw [Ptr.add_add, Nat.add_comm 1] at h
          simpa using h

/-- The same stores into two memories keep the addresses on which they agree. -/
theorem load_storeList_congr {m m' : Memory ω β} (p : Ptr ω) (bs : List β) {q : Ptr ω}
    (h : m.load q = m'.load q) : (m.storeList p bs).load q = (m'.storeList p bs).load q := by
  induction bs generalizing m m' p with
  | nil => exact h
  | cons b bs ih =>
      rw [storeList_cons, storeList_cons]
      exact ih _ (by rw [load_store, load_store, h])

/-- Reading back exactly what was stored. -/
@[simp] theorem loadList_storeList (m : Memory ω β) (p : Ptr ω) (bs : List β) :
    (m.storeList p bs).loadList p bs.length = bs := by
  apply List.ext_getElem (by simp)
  intro i hi _
  rw [getElem_loadList]
  exact load_storeList_add m p bs (by simpa using hi)

theorem loadList_storeList_append (m : Memory ω β) (p : Ptr ω) (xs ys : List β) :
    (m.storeList p (xs ++ ys)).loadList p xs.length = xs := by
  have hle : xs.length ≤ (xs ++ ys).length := by simp
  rw [← take_loadList _ _ hle, loadList_storeList, List.take_left]

theorem loadList_storeList_of_length (m : Memory ω β) (p : Ptr ω) {bs : List β} {n : ℕ}
    (h : bs.length = n) : (m.storeList p bs).loadList p n = bs :=
  h ▸ loadList_storeList m p bs

/-- A store over the beginning of a list of values leaves the rest of it. -/
theorem loadList_storeList_of_le (m : Memory ω β) (p : Ptr ω) {bs : List β} {n : ℕ}
    (h : bs.length ≤ n) :
    (m.storeList p bs).loadList p n = bs ++ (m.loadList p n).drop bs.length := by
  have hrest : (m.storeList p bs).loadList (p.add bs.length) (n - bs.length) =
      m.loadList (p.add bs.length) (n - bs.length) := by
    refine loadList_congr fun q hq => load_storeList_of_notMem m fun hq' => ?_
    obtain ⟨i, _, rfl⟩ := Ptr.mem_region.mp hq
    obtain ⟨j, hj, heq⟩ := Ptr.mem_region.mp hq'
    rw [Ptr.add_add, Ptr.add_inj] at heq
    omega
  calc (m.storeList p bs).loadList p n
      = (m.storeList p bs).loadList p bs.length ++
          (m.storeList p bs).loadList (p.add bs.length) (n - bs.length) := by
        rw [← loadList_add, Nat.add_sub_cancel' h]
    _ = bs ++ (m.loadList p n).drop bs.length := by
        rw [loadList_storeList, hrest, drop_loadList _ _ h]

theorem loadList_storeList_of_obj_ne (m : Memory ω β) {p q : Ptr ω} {bs : List β} (n : ℕ)
    (h : q.obj ≠ p.obj) : (m.storeList p bs).loadList q n = m.loadList q n :=
  loadList_congr fun _ hr =>
    load_storeList_of_obj_ne m (by rwa [Ptr.obj_of_mem_region hr])

@[simp] theorem log_store (m : Memory ω β) (p : Ptr ω) (b : β) :
    (m.store p b).log = p :: m.log := rfl

theorem log_storeList (m : Memory ω β) (p : Ptr ω) (bs : List β) :
    (m.storeList p bs).log = (p.region bs.length).reverse ++ m.log := by
  induction bs generalizing m p with
  | nil => rfl
  | cons b bs ih => simp [ih, Ptr.region_succ]

@[simp] theorem since_storeList (m : Memory ω β) (p : Ptr ω) (bs : List β) :
    (m.storeList p bs).since m = (p.region bs.length).reverse :=
  since_of_log (log_storeList m p bs)

end Store

/-- From `m` to `m'` only addresses in `W` were stored to, and the others hold what they
held. -/
structure Confined (W : Set (Ptr ω)) (m m' : Memory ω β) : Prop where
  log : ∃ new, m'.log = new ++ m.log ∧ ∀ a ∈ new, a ∈ W
  load : ∀ a, a ∉ W → m'.load a = m.load a

section Confined
variable {W W' : Set (Ptr ω)} {m m' m'' : Memory ω β}

theorem Confined.refl (m : Memory ω β) : Confined W m m :=
  ⟨⟨[], rfl, List.forall_mem_nil _⟩, fun _ _ => rfl⟩

theorem Confined.trans (h : Confined W m m') (h' : Confined W m' m'') : Confined W m m'' := by
  obtain ⟨new, hlog, hnew⟩ := h.log
  obtain ⟨new', hlog', hnew'⟩ := h'.log
  refine ⟨⟨new' ++ new, by rw [hlog', hlog, List.append_assoc], ?_⟩, ?_⟩
  · exact List.forall_mem_append.mpr ⟨hnew', hnew⟩
  · exact fun a ha => (h'.load a ha).trans (h.load a ha)

theorem Confined.mono (h : Confined W m m') (hW : W ⊆ W') : Confined W' m m' := by
  obtain ⟨new, hlog, hnew⟩ := h.log
  exact ⟨⟨new, hlog, fun a ha => hW (hnew a ha)⟩, fun a ha => h.load a fun hmem => ha (hW hmem)⟩

theorem confined_storeList [DecidableEq ω] (m : Memory ω β) {p : Ptr ω} {bs : List β}
    (h : ∀ a ∈ p.region bs.length, a ∈ W) : Confined W m (m.storeList p bs) := by
  refine ⟨⟨_, log_storeList m p bs, fun a ha => h a (List.mem_reverse.mp ha)⟩, fun a ha => ?_⟩
  exact load_storeList_of_notMem m fun hmem => ha (h a hmem)

end Confined

/-- The two memories differ at most inside the objects `objs`. -/
def AgreeOff (objs : List ω) (m m' : Memory ω β) : Prop :=
  ∀ q : Ptr ω, q.obj ∉ objs → m'.load q = m.load q

theorem AgreeOff.loadList {objs : List ω} {m m' : Memory ω β} (h : AgreeOff objs m m')
    {p : Ptr ω} (n : ℕ) (hp : p.obj ∉ objs) : m'.loadList p n = m.loadList p n :=
  loadList_congr fun q hq => h q (Ptr.obj_of_mem_region hq ▸ hp)

section AgreeOff
variable [DecidableEq ω] {objs : List ω} {m m' : Memory ω β}

/-- The same values stored at the same place keep an agreement. -/
theorem AgreeOff.storeList (h : AgreeOff objs m m') (p : Ptr ω) (bs : List β) :
    AgreeOff objs (m.storeList p bs) (m'.storeList p bs) :=
  fun q hq => load_storeList_congr p bs (h q hq)

/-- Stores inside the objects do not break one. -/
theorem agreeOff_storeList (m : Memory ω β) {p : Ptr ω} (bs : List β) (hp : p.obj ∈ objs) :
    AgreeOff objs m (m.storeList p bs) := by
  intro q hq
  exact load_storeList_of_obj_ne m fun hobj => hq (hobj ▸ hp)

end AgreeOff
end Memory
end WiFiNINA
