import Mathlib.Data.List.GetD
import Mathlib.Tactic

/-!
# A list laid over memory

`overlay s p l` is the memory `s : ℕ → α` with the list `l` written from the place `p` on.  What loops
write cell by cell is such an overlay: a cell behind the list makes it longer (`update_end`), a cell in
front of it as well (`update_front`), and `swapEnds`, which exchanges cells from both ends until the two
places meet, turns it round (`swapEnds_overlay`).
-/

namespace Overlay

variable {α : Type*}

/-- `s` with the list from the place `p` on. -/
def overlay (s : ℕ → α) (p : ℕ) (l : List α) : ℕ → α :=
  fun k => if p ≤ k then l.getD (k - p) (s k) else s k

/-- `while (i < j)`, the cells `i` and `j` are exchanged, and the places move towards each other. -/
def swapEnds (s : ℕ → α) (i j : ℕ) : ℕ → α :=
  if i < j then swapEnds (Function.update (Function.update s i (s j)) j (s i)) (i + 1) (j - 1) else s
termination_by j - i

variable {s : ℕ → α} {p k i j : ℕ} {l l' : List α} {a : α}

@[simp] lemma overlay_nil : overlay s p [] = s := by
  funext k
  simp [overlay]

lemma overlay_inside (hk : k < l.length) : overlay s p l (p + k) = l[k] := by
  rw [overlay, if_pos (Nat.le_add_right p k), Nat.add_sub_cancel_left, List.getD_eq_getElem _ _ hk]

lemma overlay_outside (hk : k < p ∨ p + l.length ≤ k) : overlay s p l k = s k := by
  rw [overlay]
  by_cases hp : p ≤ k
  · rw [if_pos hp, List.getD_eq_default _ _ (by omega)]
  · rw [if_neg hp]

/-- Memory that agrees with the list where the list is, and with `s` elsewhere. -/
lemma eq_overlay {t : ℕ → α} (hin : ∀ k (hk : k < l.length), t (p + k) = l[k])
    (hout : ∀ k, k < p ∨ p + l.length ≤ k → t k = s k) : t = overlay s p l := by
  funext k
  by_cases hk : k < p ∨ p + l.length ≤ k
  · rw [hout k hk, overlay_outside hk]
  · obtain ⟨i, rfl⟩ : ∃ i, k = p + i := ⟨k - p, by omega⟩
    rw [hin i (by omega), overlay_inside (by omega)]

/-- A list behind a list. -/
lemma overlay_append : overlay s p (l ++ l') = overlay (overlay s p l) (p + l.length) l' := by
  refine (eq_overlay (fun k hk => ?_) fun k hk => ?_).symm
  · by_cases hleft : k < l.length
    · rw [overlay_outside (.inl (by omega)), overlay_inside hleft, List.getElem_append_left hleft]
    · obtain ⟨i, rfl⟩ : ∃ i, k = l.length + i := ⟨k - l.length, by omega⟩
      rw [List.length_append] at hk
      rw [← Nat.add_assoc, overlay_inside (by omega), List.getElem_append_right (by omega)]
      simp only [Nat.add_sub_cancel_left]
  · rw [List.length_append] at hk
    rw [overlay_outside (by omega), overlay_outside (by omega)]

/-- One cell. -/
lemma update_eq : Function.update s p a = overlay s p [a] := by
  refine eq_overlay (fun k hk => ?_) fun k hk => ?_
  · obtain rfl : k = 0 := by
      rw [List.length_singleton] at hk
      omega
    exact Function.update_self ..
  · rw [List.length_singleton] at hk
    exact Function.update_of_ne (by omega) ..

/-- A cell behind the list. -/
lemma update_end : Function.update (overlay s p l) (p + l.length) a = overlay s p (l ++ [a]) := by
  rw [update_eq, overlay_append]

/-- A cell that the list comes to stand in front of. -/
lemma update_front : overlay (Function.update s (p + l.length) a) p l = overlay s p (l ++ [a]) := by
  refine eq_overlay (fun k hk => ?_) fun k hk => ?_
  · rw [List.length_append, List.length_singleton] at hk
    by_cases hlast : k = l.length
    · subst hlast
      rw [overlay_outside (.inr le_rfl), Function.update_self]
      simp
    · rw [overlay_inside (by omega), List.getElem_append_left (by omega)]
  · rw [List.length_append, List.length_singleton] at hk
    rw [overlay_outside (by omega), Function.update_of_ne (by omega)]

/-- A cell of the list. -/
lemma update_inside (hk : k < l.length) :
    Function.update (overlay s p l) (p + k) a = overlay s p (l.set k a) := by
  refine eq_overlay (fun i hi => ?_) fun i hi => ?_
  · rw [List.length_set] at hi
    rw [List.getElem_set]
    by_cases hik : i = k
    · subst hik
      rw [Function.update_self, if_pos rfl]
    · rw [Function.update_of_ne (by omega), overlay_inside hi, if_neg (Ne.symm hik)]
  · rw [List.length_set] at hi
    rw [Function.update_of_ne (by omega), overlay_outside (by omega)]

/-- A list over a list that is no longer. -/
lemma overlay_overlay (h : l.length ≤ l'.length) : overlay (overlay s p l) p l' = overlay s p l' := by
  refine eq_overlay (fun k hk => overlay_inside hk) fun k hk => ?_
  rw [overlay_outside (by omega), overlay_outside (by omega)]

lemma swapEnds_eq (k : ℕ) :
    swapEnds s i j k = if i ≤ k ∧ k ≤ j then s (i + j - k) else s k := by
  induction s, i, j using swapEnds.induct with
  | case1 s i j hlt ih =>
      rw [swapEnds, if_pos hlt, ih]
      by_cases hends : k = i ∨ k = j
      · -- the two cells that are exchanged first
        rw [if_neg (by omega)]
        rcases hends with rfl | rfl
        · rw [Function.update_of_ne (by omega), Function.update_self, if_pos (by omega)]
          congr 1
          omega
        · rw [Function.update_self, if_pos (by omega)]
          congr 1
          omega
      · by_cases hin : i ≤ k ∧ k ≤ j
        · rw [if_pos (by omega), if_pos hin, Function.update_of_ne (by omega),
            Function.update_of_ne (by omega)]
          congr 1
          omega
        · rw [if_neg (by omega), if_neg hin, Function.update_of_ne (by omega),
            Function.update_of_ne (by omega)]
  | case2 s i j hle =>
      rw [swapEnds, if_neg hle]
      by_cases hin : i ≤ k ∧ k ≤ j
      · rw [if_pos hin]
        congr 1
        omega
      · rw [if_neg hin]

/-- **The exchange turns the list round**, and leaves what is behind it. -/
lemma swapEnds_overlay (hl : l ≠ []) :
    swapEnds (overlay s p (l ++ l')) p (p + l.length - 1) = overlay s p (l.reverse ++ l') := by
  have hpos := List.length_pos_iff.2 hl
  rw [overlay_append, overlay_append, List.length_reverse]
  refine eq_overlay (fun k hk => ?_) fun k hk => ?_
  · rw [swapEnds_eq, if_neg (by omega), overlay_inside hk]
  · rw [swapEnds_eq]
    by_cases hin : p ≤ k ∧ k ≤ p + l.length - 1
    · obtain ⟨i, rfl⟩ : ∃ i, k = p + i := ⟨k - p, by omega⟩
      have hplace : p + (p + l.length - 1) - (p + i) = p + (l.length - 1 - i) := by omega
      rw [if_pos hin, hplace, overlay_outside (.inl (by omega)), overlay_inside (by omega),
        overlay_inside (by rw [List.length_reverse]; omega), List.getElem_reverse]
    · rw [if_neg hin, overlay_outside hk, overlay_outside (by omega),
        overlay_outside (by rw [List.length_reverse]; omega)]

end Overlay
