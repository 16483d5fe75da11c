import Mathlib.Data.Nat.Find
import Mathlib.Tactic

/-!
# Scans over memory

`forward p left a` looks for the first address from `a` on that meets `p`, among `left` addresses;
`backward p a` looks for the last one up to `a`.  Both give `none` when they run off the memory.

`forward_eq_some` and `backward_eq_some` say when a scan stops where; `forward_range` and `backward_le`
are what a scan that stopped says about the place.
-/

namespace Scan

variable (p : ℕ → Prop) [DecidablePred p]

/-- The first address from `a` on that meets `p`. -/
def forward : ℕ → ℕ → Option ℕ
  | 0, _ => none
  | left + 1, a => if p a then some a else forward left (a + 1)

/-- The last address up to `a` that meets `p`. -/
def backward : ℕ → Option ℕ
  | 0 => if p 0 then some 0 else none
  | a + 1 => if p (a + 1) then some (a + 1) else backward a

variable {p} {a b left : ℕ}

lemma forward_eq_some (hlo : a ≤ b) (hleft : b < a + left) (hstop : p b)
    (hgo : ∀ k, a ≤ k → k < b → ¬p k) : forward p left a = some b := by
  induction left generalizing a with
  | zero => omega
  | succ left ih =>
      rw [forward]
      rcases Nat.eq_or_lt_of_le hlo with rfl | hlt
      · rw [if_pos hstop]
      · rw [if_neg (hgo a le_rfl hlt)]
        exact ih hlt (by omega) fun k hk => hgo k (by omega)

lemma backward_eq_some (hhi : b ≤ a) (hstop : p b) (hgo : ∀ k, b < k → k ≤ a → ¬p k) :
    backward p a = some b := by
  induction a with
  | zero =>
      obtain rfl : b = 0 := by omega
      rw [backward, if_pos hstop]
  | succ a ih =>
      rw [backward]
      rcases Nat.eq_or_lt_of_le hhi with rfl | hlt
      · rw [if_pos hstop]
      · rw [if_neg (hgo (a + 1) hlt le_rfl)]
        exact ih (by omega) fun k hk hk' => hgo k hk (by omega)

/-- Where a scan stops, it had to. -/
lemma forward_range (h : forward p left a = some b) : a ≤ b ∧ b < a + left ∧ p b := by
  induction left generalizing a with
  | zero => cases h
  | succ left ih =>
      rw [forward] at h
      split_ifs at h with hp
      · obtain rfl := Option.some.inj h
        exact ⟨le_rfl, by omega, hp⟩
      · obtain ⟨hle, hlt, hstop⟩ := ih h
        exact ⟨by omega, by omega, hstop⟩

/-- A scan that stops nowhere had nowhere to stop. -/
lemma forward_eq_none : forward p left a = none ↔ ∀ k, a ≤ k → k < a + left → ¬p k := by
  induction left generalizing a with
  | zero => exact iff_of_true rfl fun k hlo hhi => by omega
  | succ left ih =>
      rw [forward]
      split_ifs with hp
      · exact iff_of_false nofun fun h => h a le_rfl (by omega) hp
      · rw [ih]
        refine ⟨fun h k hlo hhi => ?_, fun h k hlo hhi => h k (by omega) (by omega)⟩
        rcases Nat.eq_or_lt_of_le hlo with rfl | hlt
        · exact hp
        · exact h k hlt (by omega)

lemma backward_le (h : backward p a = some b) : b ≤ a ∧ p b := by
  induction a with
  | zero =>
      rw [backward] at h
      split_ifs at h with hp
      obtain rfl := Option.some.inj h
      exact ⟨le_rfl, hp⟩
  | succ a ih =>
      rw [backward] at h
      split_ifs at h with hp
      · obtain rfl := Option.some.inj h
        exact ⟨le_rfl, hp⟩
      · exact ⟨(ih h).1.trans (Nat.le_succ a), (ih h).2⟩

end Scan
