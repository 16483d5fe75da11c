import Mathlib.Tactic

/-!
# Ones-complement sums

Sums of 16-bit words with the end-around carry, as the headers of the internet protocols carry them.

* `sum_eq_max_iff` — such a sum is `0xFFFF` exactly when the plain sum is a positive multiple of
  `65535`.
* `little_modEq_big` — the words of a list of bytes in the one byte order sum up to `256` times those
  in the other, modulo `65535`; a checksum can be computed in either of them.
-/

namespace OnesComplement

/-- The sum of two words; the carry comes in at the other end. -/
def add (a b : ℕ) : ℕ := (a + b) % 65536 + (a + b) / 65536

/-- The ones-complement sum of some words. -/
def sum : List ℕ → ℕ
  | [] => 0
  | w :: ws => add w (sum ws)

variable {a b : ℕ} {ws : List ℕ}

lemma add_modEq (a b : ℕ) : add a b ≡ a + b [MOD 65535] := by
  have hsplit := Nat.div_add_mod (a + b) 65536
  have hcarry : 65536 * ((a + b) / 65536) ≡ (a + b) / 65536 [MOD 65535] := by
    simpa using (show 65536 ≡ 1 [MOD 65535] from rfl).mul_right ((a + b) / 65536)
  have hstep := (hcarry.add_right ((a + b) % 65536)).symm
  rw [hsplit] at hstep
  simpa only [add, Nat.add_comm] using hstep

lemma add_le (ha : a ≤ 65535) (hb : b ≤ 65535) : add a b ≤ 65535 := by
  unfold add
  omega

lemma add_eq_zero_iff : add a b = 0 ↔ a = 0 ∧ b = 0 := by
  unfold add
  omega

lemma sum_modEq (ws : List ℕ) : sum ws ≡ ws.sum [MOD 65535] := by
  induction ws with
  | nil => rfl
  | cons w ws ih => exact (add_modEq w (sum ws)).trans (ih.add_left w)

lemma sum_le (h : ∀ w ∈ ws, w ≤ 65535) : sum ws ≤ 65535 := by
  induction ws with
  | nil => exact Nat.zero_le _
  | cons w ws ih =>
      exact add_le (h w (List.mem_cons_self ..)) (ih fun v hv => h v (List.mem_cons_of_mem _ hv))

lemma sum_eq_zero_iff : sum ws = 0 ↔ ws.sum = 0 := by
  induction ws with
  | nil => rfl
  | cons w ws ih => rw [sum, add_eq_zero_iff, ih, List.sum_cons, Nat.add_eq_zero_iff]

/-- **When a ones-complement sum is all ones.** -/
theorem sum_eq_max_iff (h : ∀ w ∈ ws, w ≤ 65535) :
    sum ws = 65535 ↔ 0 < ws.sum ∧ ws.sum ≡ 0 [MOD 65535] := by
  have hmod := sum_modEq ws
  have hle := sum_le h
  have hzero := @sum_eq_zero_iff ws
  unfold Nat.ModEq at *
  omega

/-! ## Words of bytes -/

/-- The 16-bit words of a list of bytes, low byte first; a last single byte is the low one. -/
def little : List UInt8 → List ℕ
  | a :: b :: rest => (a.toNat + 256 * b.toNat) :: little rest
  | [a] => [a.toNat]
  | [] => []

/-- The 16-bit words of a list of bytes, high byte first; a last single byte is the high one. -/
def big : List UInt8 → List ℕ
  | a :: b :: rest => (256 * a.toNat + b.toNat) :: big rest
  | [a] => [256 * a.toNat]
  | [] => []

lemma big_le : ∀ (bytes : List UInt8), ∀ w ∈ big bytes, w ≤ 65535
  | [] => nofun
  | [a] => by
      intro w hw
      have := a.toNat_lt
      rw [List.mem_singleton.1 hw]
      omega
  | a :: b :: rest => by
      intro w hw
      have := a.toNat_lt
      have := b.toNat_lt
      rcases List.mem_cons.1 hw with rfl | hw
      · omega
      · exact big_le rest w hw

/-- **The byte order does not matter**, but for a factor. -/
theorem little_modEq_big : ∀ (bytes : List UInt8),
    (little bytes).sum ≡ 256 * (big bytes).sum [MOD 65535]
  | [] => rfl
  | [a] => by
      simp only [little, big, List.sum_cons, List.sum_nil, Nat.ModEq]
      omega
  | a :: b :: rest => by
      have hrest := little_modEq_big rest
      simp only [little, big, List.sum_cons]
      unfold Nat.ModEq at *
      omega

/-- A sum that is zero in the one order is zero in the other. -/
lemma big_modEq_zero {bytes : List UInt8} (h : (little bytes).sum ≡ 0 [MOD 65535]) :
    (big bytes).sum ≡ 0 [MOD 65535] := by
  have horder := little_modEq_big bytes
  unfold Nat.ModEq at *
  omega

/-- Lists of even length are summed up part by part. -/
lemma little_append : ∀ {l : List UInt8} (_ : Even l.length) (l' : List UInt8),
    little (l ++ l') = little l ++ little l'
  | [], _, _ => rfl
  | [a], h, _ => by simp at h
  | a :: b :: rest, h, l' => by
      have hrest : Even rest.length := by
        simpa [Nat.even_add_one] using h
      simp only [List.cons_append, little, little_append hrest l']

end OnesComplement
