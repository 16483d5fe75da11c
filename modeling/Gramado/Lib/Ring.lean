import Mathlib.Data.List.Basic
import Mathlib.Tactic

/-!
# Rings of slots

A ring has `N` slots, each empty or holding an entry.  `view N slot h` lists the entries from slot
`h` on, once around.  A reader that empties slot `h` and moves on takes the first entry of its view
or, from an empty slot, nothing (`view_take`); a reader that jumps to another slot sees the same
entries in another order (`view_perm`); and a writer that fills slot `t` puts its entry in the
middle of the view, between the entries `before` and `behind` slot `t` (`view_put`).
-/

namespace Ring

variable {β : Type*}

/-- The slot after slot `i`. -/
def next (N i : ℕ) : ℕ := if i + 1 ≥ N then 0 else i + 1

/-- The slot `k` places after slot `h`. -/
def index (N h k : ℕ) : ℕ := if h + k < N then h + k else h + k - N

/-- How many places after slot `h` slot `t` is. -/
def offset (N h t : ℕ) : ℕ := if h ≤ t then t - h else t + N - h

/-- The entries from slot `h` on, once around. -/
def view (N : ℕ) (slot : ℕ → Option β) (h : ℕ) : List β :=
  (List.range N).filterMap fun k => slot (index N h k)

/-- The entries from slot `h` on, up to slot `t` and without it. -/
def before (N : ℕ) (slot : ℕ → Option β) (h t : ℕ) : List β :=
  (List.range (offset N h t)).filterMap fun k => slot (index N h k)

/-- The entries behind slot `t`, going on to slot `h` and without it. -/
def behind (N : ℕ) (slot : ℕ → Option β) (h t : ℕ) : List β :=
  (List.range (N - offset N h t - 1)).filterMap fun k => slot (index N h (offset N h t + 1 + k))

variable {N h t i k : ℕ} {slot : ℕ → Option β}

lemma next_lt (hN : 0 < N) : next N i < N := by
  simp only [next]
  split_ifs <;> omega

lemma index_lt (hh : h < N) (hk : k < N) : index N h k < N := by
  simp only [index]
  split_ifs <;> omega

lemma index_zero (hh : h < N) : index N h 0 = h := by
  simp only [index]
  split_ifs <;> omega

lemma offset_lt (hh : h < N) (ht : t < N) : offset N h t < N := by
  simp only [offset]
  split_ifs <;> omega

lemma index_offset (hh : h < N) (ht : t < N) : index N h (offset N h t) = t := by
  simp only [index, offset]
  split_ifs <;> omega

/-- Different places hold different slots. -/
lemma index_inj (hi : i < N) (hk : k < N) (heq : index N h i = index N h k) :
    i = k := by
  simp only [index] at heq
  split_ifs at heq <;> omega

lemma index_next (hh : h < N) (hk : k + 1 < N) : index N (next N h) k = index N h (k + 1) := by
  simp only [index, next]
  split_ifs <;> omega

/-- The last place seen from the next slot is the slot itself. -/
lemma index_next_last (hh : h < N) : index N (next N h) (N - 1) = h := by
  simp only [index, next]
  split_ifs <;> omega

/-- `filterMap` only looks at the entries of its list. -/
lemma filterMap_range_congr {n : ℕ} {f g : ℕ → Option β} (hfg : ∀ k < n, f k = g k) :
    (List.range n).filterMap f = (List.range n).filterMap g :=
  List.filterMap_congr fun k hk => hfg k (List.mem_range.1 hk)

lemma filterMap_range_succ (n : ℕ) (f : ℕ → Option β) :
    (List.range (n + 1)).filterMap f
      = (f 0).toList ++ (List.range n).filterMap fun k => f (k + 1) := by
  rw [List.range_succ_eq_map, List.filterMap_cons, List.filterMap_map]
  cases f 0 <;> rfl

lemma filterMap_range_last (n : ℕ) (f : ℕ → Option β) :
    (List.range (n + 1)).filterMap f = (List.range n).filterMap f ++ (f n).toList := by
  rw [List.range_succ, List.filterMap_append, List.filterMap_cons, List.filterMap_nil]
  cases f n <;> rfl

lemma filterMap_range_split {n d : ℕ} (f : ℕ → Option β) (hd : d < n) :
    (List.range n).filterMap f = (List.range d).filterMap f ++ (f d).toList ++
      (List.range (n - d - 1)).filterMap fun k => f (d + 1 + k) := by
  obtain ⟨m, rfl⟩ : ∃ m, n = d + 1 + m := ⟨n - d - 1, by omega⟩
  rw [List.range_add, List.filterMap_append, filterMap_range_last, List.filterMap_map,
    show d + 1 + m - d - 1 = m by omega]
  rfl

/-! ## Reading -/

variable (slot) in
/-- What is seen from the next slot: the same, with the entry of the slot left at the end. -/
lemma view_next (hh : h < N) :
    view N slot h = (slot h).toList ++ (List.range (N - 1)).filterMap (fun k =>
        slot (index N h (k + 1))) ∧
      view N slot (next N h) = (List.range (N - 1)).filterMap (fun k =>
        slot (index N h (k + 1))) ++ (slot h).toList := by
  obtain ⟨n, rfl⟩ : ∃ n, N = n + 1 := ⟨N - 1, by omega⟩
  constructor
  · rw [view, filterMap_range_succ, index_zero hh, Nat.add_sub_cancel]
  · have hlast : index (n + 1) (next (n + 1) h) n = h := index_next_last hh
    rw [view, filterMap_range_last, hlast, Nat.add_sub_cancel]
    congr 1
    exact filterMap_range_congr fun k hk => by rw [index_next hh (by omega)]

variable (slot) in
/-- **Taking**: a reader that empties slot `h` and moves on takes the first entry of the view. -/
lemma view_take (hh : h < N) :
    view N slot h = (slot h).toList ++ view N (Function.update slot h none) (next N h) := by
  obtain ⟨hview, -⟩ := view_next slot hh
  obtain ⟨-, hrest⟩ := view_next (Function.update slot h none) hh
  rw [hview, hrest, Function.update_self, Option.toList_none, List.append_nil]
  congr 1
  refine filterMap_range_congr fun k hk => ?_
  rw [Function.update_of_ne]
  intro heq
  have hzero : k + 1 = 0 :=
    index_inj (by omega) (by omega) (heq.trans (index_zero hh).symm)
  omega

/-- Moving on without taking only turns the view. -/
lemma view_next_perm (hh : h < N) : (view N slot (next N h)).Perm (view N slot h) := by
  obtain ⟨hview, hnext⟩ := view_next slot hh
  rw [hview, hnext]
  exact List.perm_append_comm

lemma view_perm_zero (hh : h < N) : (view N slot h).Perm (view N slot 0) := by
  induction h with
  | zero => exact List.Perm.refl _
  | succ h ih =>
      have hnext : next N h = h + 1 := by
        simp only [next]
        split_ifs <;> omega
      rw [← hnext]
      exact (view_next_perm (by omega)).trans (ih (by omega))

/-- **Jumping**: from every slot the same entries are seen. -/
lemma view_perm {h' : ℕ} (hh : h < N) (hh' : h' < N) :
    (view N slot h).Perm (view N slot h') :=
  (view_perm_zero hh).trans (view_perm_zero hh').symm

lemma view_eq_nil (hempty : ∀ i < N, slot i = none) (hh : h < N) : view N slot h = [] := by
  simp only [view, List.filterMap_eq_nil_iff, List.mem_range]
  intro k hk
  exact hempty _ (index_lt hh hk)

/-! ## Writing -/

/-- Slot `t` in the view. -/
lemma view_split (hh : h < N) (ht : t < N) :
    view N slot h = before N slot h t ++ (slot t).toList ++ behind N slot h t := by
  rw [view, filterMap_range_split _ (offset_lt hh ht), index_offset hh ht]
  rfl

lemma before_update (hh : h < N) (ht : t < N) (x : Option β) :
    before N (Function.update slot t x) h t = before N slot h t := by
  refine filterMap_range_congr fun k hk => Function.update_of_ne (fun heq => ?_) ..
  have hd := offset_lt hh ht
  have hk' := index_inj (by omega) hd (heq.trans (index_offset hh ht).symm)
  omega

lemma behind_update (hh : h < N) (ht : t < N) (x : Option β) :
    behind N (Function.update slot t x) h t = behind N slot h t := by
  refine filterMap_range_congr fun k hk => Function.update_of_ne (fun heq => ?_) ..
  have hd := offset_lt hh ht
  have hk' := index_inj (by omega) hd (heq.trans (index_offset hh ht).symm)
  omega

/-- **Putting**: a writer that fills slot `t` puts its entry between what is before and what is
behind the slot, in place of what the slot held. -/
lemma view_put (hh : h < N) (ht : t < N) (x : Option β) :
    view N (Function.update slot t x) h
      = before N slot h t ++ x.toList ++ behind N slot h t := by
  rw [view_split hh ht, before_update hh ht, behind_update hh ht, Function.update_self]

end Ring
