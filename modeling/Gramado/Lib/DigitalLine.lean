import Mathlib.Tactic

/-!
# One axis of a digital line

A line of `m` moves along its longest axis is drawn in whole points.  Another axis, on which the line covers
`d ≤ m`, has an error term: each turn takes `d` off it, and when it falls below zero, `m` is added and the
point moves on that axis.

* `Axis.Tracks d m k a` — what is true of the axis after `k` turns: the error ties the moves made so far to the
  exact position `k * d / m`.
* `Axis.Tracks.near` — the moves are within one half of the exact position.
* `Axis.Tracks.arrives` — after `m` turns there were `d` moves.
-/

namespace DigitalLine

/-- The error term of an axis, and the moves on it. -/
structure Axis where
  err : ℤ
  moves : ℤ

variable {d m : ℤ} {k : ℕ} {a : Axis}

/-- One turn. -/
def Axis.turn (d m : ℤ) (a : Axis) : Axis :=
  if a.err - d < 0 then ⟨a.err - d + m, a.moves + 1⟩ else ⟨a.err - d, a.moves⟩

/-- The start: the error term is one half of the longest axis. -/
def Axis.start (m : ℤ) : Axis := ⟨m / 2, 0⟩

/-- The axis after `k` turns. -/
structure Axis.Tracks (d m : ℤ) (k : ℕ) (a : Axis) : Prop where
  err : a.err = m / 2 - k * d + m * a.moves
  nonneg : 0 ≤ a.err
  lt : a.err < m

lemma Axis.Tracks.start (hm : 0 < m) : (Axis.start m).Tracks d m 0 where
  err := by simp [Axis.start]
  nonneg := by
    dsimp only [Axis.start]
    omega
  lt := by
    dsimp only [Axis.start]
    omega

/-- **One turn** keeps the axis on its line. -/
lemma Axis.Tracks.turn (h : a.Tracks d m k) (hd : 0 ≤ d) (hm : d ≤ m) : (a.turn d m).Tracks d m (k + 1) := by
  have hnonneg := h.nonneg
  have hlt := h.lt
  rw [Axis.turn]
  by_cases hneg : a.err - d < 0
  · rw [if_pos hneg]
    refine ⟨?_, by dsimp only; omega, by dsimp only; omega⟩
    rw [h.err]
    push_cast
    ring
  · rw [if_neg hneg]
    refine ⟨?_, by dsimp only; omega, by dsimp only; omega⟩
    rw [h.err]
    push_cast
    ring

/-- **The run**: after `k` turns the axis is where it should be. -/
theorem Axis.Tracks.iterate (hd : 0 ≤ d) (hm : d ≤ m) (hpos : 0 < m) :
    ∀ k, ((Axis.turn d m)^[k] (Axis.start m)).Tracks d m k := by
  intro k
  induction k with
  | zero => exact .start hpos
  | succ k ih =>
      rw [Function.iterate_succ_apply']
      exact ih.turn hd hm

/-- **Within one half** of the exact position. -/
theorem Axis.Tracks.near (h : a.Tracks d m k) : 2 * |m * a.moves - k * d| ≤ m := by
  have herr := h.err
  have hnonneg := h.nonneg
  have hlt := h.lt
  have hdiff : m * a.moves - k * d = a.err - m / 2 := by linarith
  rw [hdiff]
  rcases abs_cases (a.err - m / 2) with ⟨heq, -⟩ | ⟨heq, -⟩ <;> omega

/-- No moves back, and no more than the line covers. -/
lemma Axis.Tracks.bounds (h : a.Tracks d m k) (hd : 0 ≤ d) (hk : (k : ℤ) ≤ m) : 0 ≤ a.moves ∧ a.moves ≤ d := by
  have herr := h.err
  have hnonneg := h.nonneg
  have hlt := h.lt
  have hpos : 0 < m := by omega
  have hcover : 0 ≤ (k : ℤ) * d := mul_nonneg (by omega) hd
  have hall : (k : ℤ) * d ≤ m * d := mul_le_mul_of_nonneg_right hk hd
  constructor
  · by_contra hneg
    have hback : m * a.moves ≤ m * (-1) := mul_le_mul_of_nonneg_left (by omega) hpos.le
    omega
  · by_contra hmore
    have hover : m * (d + 1) ≤ m * a.moves := mul_le_mul_of_nonneg_left (by omega) hpos.le
    rw [mul_add, mul_one] at hover
    omega

/-- **The end** of the line. -/
theorem Axis.Tracks.arrives (h : a.Tracks d m k) (hd : 0 ≤ d) (hk : (k : ℤ) = m) : a.moves = d := by
  have hbounds := h.bounds hd hk.le
  by_contra hne
  have hless : m * a.moves ≤ m * (d - 1) := mul_le_mul_of_nonneg_left (by omega) (by omega)
  have herr := h.err
  have hnonneg := h.nonneg
  have hlt := h.lt
  rw [hk] at herr
  rw [mul_sub, mul_one] at hless
  omega

/-- A turn moves by one or not at all. -/
lemma Axis.turn_moves (d m : ℤ) (a : Axis) :
    (a.turn d m).moves = a.moves ∨ (a.turn d m).moves = a.moves + 1 := by
  rw [Axis.turn]
  split
  · exact .inr rfl
  · exact .inl rfl

/-! ## An error term that grows

Where `d` is added and `m` is taken off when the term has reached it, `n` turns are tied to `k` carries in the same
way.  Either of the two numbers can be the one that is given.
-/

/-- After `n` turns there were `k` carries. -/
structure Climbs (d m e n k : ℤ) : Prop where
  err : e = m / 2 + n * d - m * k
  nonneg : 0 ≤ e
  lt : e < m

variable {e n c : ℤ}

lemma Climbs.start (hm : 0 < m) : Climbs d m (m / 2) 0 0 where
  err := by ring
  nonneg := by omega
  lt := by omega

/-- A turn without a carry. -/
lemma Climbs.add (h : Climbs d m e n c) (hd : 0 ≤ d) (hlt : e + d < m) : Climbs d m (e + d) (n + 1) c where
  err := by
    rw [h.err]
    ring
  nonneg := by
    have hnonneg := h.nonneg
    omega
  lt := hlt

/-- A turn with a carry. -/
lemma Climbs.carry (h : Climbs d m e n c) (hm : d ≤ m) (hge : m ≤ e + d) :
    Climbs d m (e + d - m) (n + 1) (c + 1) where
  err := by
    rw [h.err]
    ring
  nonneg := by omega
  lt := by
    have hlt := h.lt
    omega

/-- No more carries than `d`, in no more than `m` turns. -/
lemma Climbs.carries_le (h : Climbs d m e n c) (hd : 0 ≤ d) (hn : n ≤ m) : c ≤ d := by
  have herr := h.err
  have hnonneg := h.nonneg
  have hlt := h.lt
  have hall : n * d ≤ m * d := mul_le_mul_of_nonneg_right hn hd
  by_contra hmore
  have hover : m * (d + 1) ≤ m * c := mul_le_mul_of_nonneg_left (by omega) (by omega)
  rw [mul_add, mul_one] at hover
  omega

/-- No fewer carries than none. -/
lemma Climbs.carries_nonneg (h : Climbs d m e n c) (hd : 0 ≤ d) (hn : 0 ≤ n) : 0 ≤ c := by
  have herr := h.err
  have hnonneg := h.nonneg
  have hlt := h.lt
  have hcover : 0 ≤ n * d := mul_nonneg hn hd
  by_contra hneg
  have hback : m * c ≤ m * (-1) := mul_le_mul_of_nonneg_left (by omega) (by omega)
  omega

/-- Fewer than `m` turns, as long as there are carries to come. -/
lemma Climbs.turns_lt (h : Climbs d m e n c) (hd : 0 ≤ d) (hc : c + 1 ≤ d) : n < m := by
  have herr := h.err
  have hlt := h.lt
  have hnonneg := h.nonneg
  have hall : m * (c + 1) ≤ m * d := mul_le_mul_of_nonneg_left hc (by omega)
  rw [mul_add, mul_one] at hall
  by_contra hmore
  have hover : m * d ≤ n * d := mul_le_mul_of_nonneg_right (by omega) hd
  omega

end DigitalLine
