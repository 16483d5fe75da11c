import Mathlib.Data.List.GetD
import Mathlib.Tactic

/-!
# Memory with a record of the ranges used

A `Memory β` is a cell for every address, and the list of ranges that were read or written, the
newest first.  `load` and `store` move whole ranges and record them; `slice` looks at the cells
without leaving a record.

The lemmas say what a slice sees of a store (`slice_store_same`, `slice_store_apart`), how slices
join (`slice_append`), and that both operations only add their own range to the record.
-/

/-- Cells by address, and the ranges `(start, length)` used so far. -/
structure Memory (β : Type*) where
  cell : ℤ → β
  touched : List (ℤ × ℕ)

namespace Memory

variable {β : Type*}

/-- The `n` cells from `p` on. -/
def slice (m : Memory β) (p : ℤ) (n : ℕ) : List β :=
  (List.range n).map fun i : ℕ => m.cell (p + i)

/-- Read `n` cells from `p` on. -/
def load (m : Memory β) (p : ℤ) (n : ℕ) : List β × Memory β :=
  (m.slice p n, { m with touched := (p, n) :: m.touched })

/-- Write the list to the cells from `p` on. -/
def store (m : Memory β) (p : ℤ) (xs : List β) : Memory β where
  cell a := if p ≤ a then xs.getD (a - p).toNat (m.cell a) else m.cell a
  touched := (p, xs.length) :: m.touched

/-- Every range used so far lies in `[lo, hi)`. -/
def UsedWithin (m : Memory β) (lo hi : ℤ) : Prop :=
  ∀ t ∈ m.touched, lo ≤ t.1 ∧ t.1 + t.2 ≤ hi

/-- From `m` to `m'`, only ranges in `[lo, hi)` were used, and only cells in them changed. -/
structure UsesWithin (m m' : Memory β) (lo hi : ℤ) : Prop where
  ranges : ∃ new, m'.touched = new ++ m.touched ∧ ∀ t ∈ new, lo ≤ t.1 ∧ t.1 + t.2 ≤ hi
  frame : ∀ a, a < lo ∨ hi ≤ a → m'.cell a = m.cell a

variable {m : Memory β} {p q lo hi : ℤ} {n k : ℕ} {xs : List β}

@[simp] lemma slice_length : (m.slice p n).length = n := by
  simp only [slice, List.length_map, List.length_range]

@[simp] lemma slice_zero : m.slice p 0 = [] := rfl

lemma getElem_slice {i : ℕ} (h : i < (m.slice p n).length) :
    (m.slice p n)[i] = m.cell (p + i) := by
  simp only [slice, List.getElem_map, List.getElem_range]

/-- A slice splits anywhere. -/
lemma slice_append (m : Memory β) (p : ℤ) (n k : ℕ) :
    m.slice p (n + k) = m.slice p n ++ m.slice (p + n) k := by
  simp only [slice, List.range_add, List.map_append, List.map_map]
  congr 1
  apply List.map_congr_left
  intro i _
  simp only [Function.comp_apply, Nat.cast_add, add_assoc]

/-- A slice only depends on its own cells. -/
lemma slice_congr {m' : Memory β} (h : ∀ a, p ≤ a → a < p + n → m'.cell a = m.cell a) :
    m'.slice p n = m.slice p n := by
  apply List.map_congr_left
  intro i hi
  have hlt := List.mem_range.1 hi
  exact h (p + i) (by omega) (by omega)

lemma store_touched : (m.store p xs).touched = (p, xs.length) :: m.touched := rfl

lemma store_cell_inside {i : ℕ} (hi : i < xs.length) : (m.store p xs).cell (p + i) = xs[i] := by
  have hidx : (p + i - p).toNat = i := by omega
  simp only [store, hidx]
  rw [if_pos (by omega), List.getD_eq_getElem _ _ hi]

lemma store_cell_single {x : β} : (m.store p [x]).cell p = x := by
  simpa using @store_cell_inside β m p [x] 0 Nat.zero_lt_one

lemma store_cell_outside {a : ℤ} (ha : a < p ∨ p + xs.length ≤ a) :
    (m.store p xs).cell a = m.cell a := by
  simp only [store]
  split_ifs with hle
  · rw [List.getD_eq_default]
    omega
  · rfl

/-- What a single cell holds after a store to one. -/
lemma store_single_cell (m : Memory β) (p a : ℤ) (x : β) :
    (m.store p [x]).cell a = if a = p then x else m.cell a := by
  by_cases h : a = p
  · rw [h, if_pos rfl, store_cell_single]
  · rw [if_neg h, store_cell_outside]
    simp only [List.length_singleton]
    omega

/-- A store is read back. -/
lemma slice_store_same (hn : xs.length = n) : (m.store p xs).slice p n = xs := by
  apply List.ext_getElem
  · rw [slice_length, hn]
  · intro i hi hi'
    rw [getElem_slice]
    exact store_cell_inside hi'

/-- A slice that is stored where it comes from changes nothing. -/
lemma store_slice (m : Memory β) (p : ℤ) (n : ℕ) : (m.store p (m.slice p n)).cell = m.cell := by
  funext a
  by_cases hinside : p ≤ a ∧ a < p + n
  · obtain ⟨i, rfl⟩ := Int.le.dest hinside.1
    have hi : i < (m.slice p n).length := by
      rw [slice_length]
      omega
    rw [store_cell_inside hi, getElem_slice]
  · refine store_cell_outside ?_
    rw [slice_length]
    omega

/-- A store is not seen in a slice beside it. -/
lemma slice_store_apart (h : p + n ≤ q ∨ q + xs.length ≤ p) :
    (m.store q xs).slice p n = m.slice p n := by
  apply slice_congr
  intro a hlo hhi
  apply store_cell_outside
  omega

@[simp] lemma load_fst : (m.load p n).1 = m.slice p n := rfl

@[simp] lemma load_cell : (m.load p n).2.cell = m.cell := rfl

@[simp] lemma slice_load : (m.load q k).2.slice p n = m.slice p n := rfl

lemma UsedWithin.load (h : m.UsedWithin lo hi) (hlo : lo ≤ p) (hhi : p + n ≤ hi) :
    (m.load p n).2.UsedWithin lo hi := by
  intro t ht
  rcases List.mem_cons.1 ht with rfl | ht
  · exact ⟨hlo, hhi⟩
  · exact h t ht

lemma UsedWithin.store (h : m.UsedWithin lo hi) (hlo : lo ≤ p) (hhi : p + xs.length ≤ hi) :
    (m.store p xs).UsedWithin lo hi := by
  intro t ht
  rcases List.mem_cons.1 ht with rfl | ht
  · exact ⟨hlo, hhi⟩
  · exact h t ht

lemma usedWithin_load :
    (m.load p n).2.UsedWithin lo hi ↔ (lo ≤ p ∧ p + n ≤ hi) ∧ m.UsedWithin lo hi :=
  List.forall_mem_cons

lemma usedWithin_store :
    (m.store p xs).UsedWithin lo hi ↔ (lo ≤ p ∧ p + xs.length ≤ hi) ∧ m.UsedWithin lo hi :=
  List.forall_mem_cons

/-- The newest range of the record is the store's own. -/
lemma UsedWithin.of_store (h : (m.store p xs).UsedWithin lo hi) :
    lo ≤ p ∧ p + xs.length ≤ hi :=
  h (p, xs.length) (List.mem_cons_self ..)

lemma UsesWithin.refl (m : Memory β) : UsesWithin m m lo hi :=
  ⟨⟨[], rfl, fun _ ht => absurd ht List.not_mem_nil⟩, fun _ _ => rfl⟩

lemma UsesWithin.trans {m' m'' : Memory β} (h : UsesWithin m m' lo hi)
    (h' : UsesWithin m' m'' lo hi) : UsesWithin m m'' lo hi := by
  obtain ⟨new, hnew, hin⟩ := h.ranges
  obtain ⟨new', hnew', hin'⟩ := h'.ranges
  refine ⟨⟨new' ++ new, by rw [hnew', hnew, List.append_assoc], fun t ht => ?_⟩, fun a ha => ?_⟩
  · rcases List.mem_append.1 ht with ht | ht
    · exact hin' t ht
    · exact hin t ht
  · rw [h'.frame a ha, h.frame a ha]

lemma usesWithin_store (hlo : lo ≤ p) (hhi : p + xs.length ≤ hi) :
    UsesWithin m (m.store p xs) lo hi := by
  refine ⟨⟨[(p, xs.length)], rfl, fun t ht => ?_⟩, fun a ha => store_cell_outside (by omega)⟩
  obtain rfl := List.mem_singleton.1 ht
  exact ⟨hlo, hhi⟩

lemma usesWithin_load (hlo : lo ≤ p) (hhi : p + n ≤ hi) : UsesWithin m (m.load p n).2 lo hi := by
  refine ⟨⟨[(p, n)], rfl, fun t ht => ?_⟩, fun _ _ => rfl⟩
  obtain rfl := List.mem_singleton.1 ht
  exact ⟨hlo, hhi⟩

/-- A range among the newest ones lies in the bounds. -/
lemma UsesWithin.mem {m' : Memory β} (h : UsesWithin m m' lo hi) {new : List (ℤ × ℕ)}
    (hnew : m'.touched = new ++ m.touched) {t : ℤ × ℕ} (ht : t ∈ new) :
    lo ≤ t.1 ∧ t.1 + t.2 ≤ hi := by
  obtain ⟨new', hnew', hin⟩ := h.ranges
  obtain rfl : new' = new := List.append_cancel_right (hnew'.symm.trans hnew)
  exact hin t ht

/-- A slice beside the bounds is as it was. -/
lemma UsesWithin.slice {m' : Memory β} (h : UsesWithin m m' lo hi) (hapart : p + n ≤ lo ∨ hi ≤ p) :
    m'.slice p n = m.slice p n :=
  slice_congr fun a _ _ => h.frame a (by omega)

end Memory
