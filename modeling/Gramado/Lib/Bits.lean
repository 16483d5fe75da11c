import Mathlib.Data.Nat.Bitwise
import Mathlib.Tactic

/-!
# Fields of a word

Words are naturals.  `shiftRight_and_mask` reads the field of `n` bits that starts at bit `k`,
`and_field` keeps that field in its place, `or_above` puts a field above other bits, and `or_low_div` says that
bits below `k` do not reach it.
-/

namespace Bits

variable {x f k n : ℕ}

/-- `(x >> k) & (2 ^ n - 1)`. -/
lemma shiftRight_and_mask : (x >>> k) &&& (2 ^ n - 1) = x / 2 ^ k % 2 ^ n := by
  rw [Nat.and_two_pow_sub_one_eq_mod, Nat.shiftRight_eq_div_pow]

/-- `x & mask` for a mask of the `n` bits from bit `k` on. -/
lemma and_field : x &&& ((2 ^ n - 1) * 2 ^ k) = x / 2 ^ k % 2 ^ n * 2 ^ k := by
  rw [← Nat.and_two_pow_sub_one_eq_mod, ← Nat.shiftRight_eq_div_pow, ← Nat.shiftLeft_eq,
    ← Nat.shiftLeft_eq]
  refine Nat.eq_of_testBit_eq fun i => ?_
  rcases Nat.lt_or_ge i k with hlt | hge
  · simp [Nat.not_le.2 hlt]
  · simp [hge, Nat.add_sub_of_le hge, Bool.and_comm]

/-- A field above all the bits that are there. -/
lemma or_above (hx : x < 2 ^ k) : x ||| f * 2 ^ k = f * 2 ^ k + x := by
  rw [Nat.or_comm, ← Nat.shiftLeft_eq, Nat.shiftLeft_add_eq_or_of_lt hx]

/-- Bits below bit `k` leave the bits from there on alone. -/
lemma or_low_div (hf : f < 2 ^ k) : (x ||| f) / 2 ^ k = x / 2 ^ k := by
  rw [← Nat.shiftRight_eq_div_pow, ← Nat.shiftRight_eq_div_pow, Nat.shiftRight_or_distrib,
    Nat.shiftRight_eq_div_pow f, Nat.div_eq_of_lt hf, Nat.or_zero]

end Bits
