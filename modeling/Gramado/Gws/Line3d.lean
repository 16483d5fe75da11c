import Gramado.Core.CStrings
import Gramado.Lib.DigitalLine

/-!
# Lines in three dimensions

`plotLine3d` and `plotLine3dLT2` of `adam/gram3d/demo00/grprim.c`, with the macro `grMAX3` of
`libs/libgr/include/grprim0.h` and the `abs` of the runtime library.  The points that go to `grPlot0` are kept
in their order.

* `plotLine3d_eq`, `plotLine3dLT2_eq` — both walk the same points.
* `lineDrawn_iff` — between which points a line is drawn.
-/

namespace Gramado.Gws

open Clib DigitalLine

/-! ## The code -/

/-- A point with whole coordinates. -/
@[ext]
structure Point3 where
  x : ℤ
  y : ℤ
  z : ℤ
deriving DecidableEq

/-- `abs`. -/
def intAbs (j : ℤ) : Except Undefined ℤ := if j < 0 then intResult (-j) else .ok j

/-- `grMAX3`. -/
def grMAX3 (x y z : ℤ) : ℤ := if x > y then (if x > z then x else z) else (if y > z then y else z)

/-- What is computed before the loop. -/
structure Deltas where
  dx : ℤ
  sx : ℤ
  dy : ℤ
  sy : ℤ
  dz : ℤ
  sz : ℤ
  dm : ℤ

/-- The direction on an axis. -/
def stepSign (a b : ℤ) : ℤ := if a < b then 1 else -1

/-- `abs(b-a)`. -/
def absDiff (a b : ℤ) : Except Undefined ℤ := do
  let j ← intResult (b - a)
  intAbs j

/-- The declarations at the head of both functions. -/
def deltas (p q : Point3) : Except Undefined Deltas := do
  let dx ← absDiff p.x q.x
  let dy ← absDiff p.y q.y
  let dz ← absDiff p.z q.z
  return ⟨dx, stepSign p.x q.x, dy, stepSign p.y q.y, dz, stepSign p.z q.z, grMAX3 dx dy dz⟩

/-- A coordinate and its error term, such as `x0` and `x1`. -/
structure Coord where
  pos : ℤ
  err : ℤ

/-- `x1 -= dx; if (x1 < 0) { x1 += dm; x0 += sx; }`. -/
def Coord.step (d dm s : ℤ) (c : Coord) : Except Undefined Coord := do
  let err ← intResult (c.err - d)
  if err < 0 then
    let err ← intResult (err + dm)
    let pos ← intResult (c.pos + s)
    return ⟨pos, err⟩
  return ⟨c.pos, err⟩

/-- The variables of the loop. -/
structure Cursor where
  x : Coord
  y : Coord
  z : Coord

def Cursor.point (c : Cursor) : Point3 := ⟨c.x.pos, c.y.pos, c.z.pos⟩

/-- The three axes, one after the other. -/
def Cursor.step (l : Deltas) (c : Cursor) : Except Undefined Cursor := do
  let x ← c.x.step l.dx l.dm l.sx
  let y ← c.y.step l.dy l.dm l.sy
  let z ← c.z.step l.dz l.dm l.sz
  return ⟨x, y, z⟩

/-- The first point, with the error offset `dm >> 1`. -/
def Cursor.start (l : Deltas) (p : Point3) : Cursor := ⟨⟨p.x, l.dm / 2⟩, ⟨p.y, l.dm / 2⟩, ⟨p.z, l.dm / 2⟩⟩

/-- The loop of `plotLine3d`, with `i` turns to go: the number of pixels, and the points of `grPlot0`. -/
def plotLoop (l : Deltas) : ℕ → Cursor → ℤ → List Point3 → Except Undefined (ℤ × List Point3)
  | 0, c, npixels, plotted => do
      let npixels ← intResult (npixels + 1)
      return (npixels, plotted ++ [c.point])
  | i + 1, c, npixels, plotted => do
      let npixels ← intResult (npixels + 1)
      let c' ← c.step l
      plotLoop l i c' npixels (plotted ++ [c.point])

/-- `plotLine3d`. -/
def plotLine3d (p q : Point3) : Except Undefined (ℤ × List Point3) := do
  let l ← deltas p q
  plotLoop l l.dm.toNat (.start l p) 0 []

/-- What the pointers `x2`, `y2` and `z2` point to, if they are not null. -/
structure Tracked where
  x2 : Option ℤ
  y2 : Option ℤ
  z2 : Option ℤ

/-- The stores at the vector that is tracked. -/
def Tracked.record (t : Tracked) (p : Point3) : Tracked :=
  ⟨t.x2.map fun _ => p.x, t.y2.map fun _ => p.y, t.z2.map fun _ => p.z⟩

/-- The loop of `plotLine3dLT2`, with `i` turns to go. -/
def trackLoop (l : Deltas) (n draw : ℤ) : ℕ → Cursor → Tracked → List Point3 →
    Except Undefined (Tracked × List Point3)
  | 0, c, t, plotted =>
      let plotted' := if draw ≠ 0 then plotted ++ [c.point] else plotted
      let t' := if 0 = n then t.record c.point else t
      .ok (t', plotted')
  | i + 1, c, t, plotted => do
      let plotted' := if draw ≠ 0 then plotted ++ [c.point] else plotted
      let t' := if (i + 1 : ℕ) = n then t.record c.point else t
      let c' ← c.step l
      trackLoop l n draw i c' t' plotted'

/-- `plotLine3dLT2`: the number of vectors, the tracked vector, and the points of `grPlot0`. -/
def plotLine3dLT2 (p q : Point3) (t : Tracked) (n draw : ℤ) : Except Undefined (ℤ × Tracked × List Point3) := do
  let l ← deltas p q
  let (t', plotted) ← trackLoop l n draw l.dm.toNat (.start l p) t []
  return (l.dm, t', plotted)

/-! ## What should hold -/

/-- The coordinates are of the type `int`. -/
structure Point3.IsInt (p : Point3) : Prop where
  x : INT_MIN ≤ p.x ∧ p.x ≤ INT_MAX
  y : INT_MIN ≤ p.y ∧ p.y ≤ INT_MAX
  z : INT_MIN ≤ p.z ∧ p.z ≤ INT_MAX

/-- The difference of two points. -/
def Point3.sub (q p : Point3) : Point3 := ⟨q.x - p.x, q.y - p.y, q.z - p.z⟩

/-- Two points whose coordinates and differences are of the type `int`. -/
structure Drawable (p q : Point3) : Prop where
  left : p.IsInt
  right : q.IsInt
  diff : (q.sub p).IsInt

/-- The longest axis of the line. -/
def Point3.span (p q : Point3) : ℕ := max (q.x - p.x).natAbs (max (q.y - p.y).natAbs (q.z - p.z).natAbs)

/-- The ideal line at the point number `k`, on one axis. -/
def idealAt (a b : ℤ) (n k : ℕ) : ℚ := a + (k / n : ℚ) * (b - a)

/-- **A line of points** from `p` to `q`. -/
structure IsLine (p q : Point3) (points : List Point3) : Prop where
  length : points.length = p.span q + 1
  first : points.head? = some p
  last : points.getLast? = some q
  adjacent : points.IsChain fun a b => |b.x - a.x| ≤ 1 ∧ |b.y - a.y| ≤ 1 ∧ |b.z - a.z| ≤ 1
  close : ∀ k r, points[k]? = some r → |r.x - idealAt p.x q.x (p.span q) k| ≤ 1 / 2 ∧
    |r.y - idealAt p.y q.y (p.span q) k| ≤ 1 / 2 ∧ |r.z - idealAt p.z q.z (p.span q) k| ≤ 1 / 2

/-- **A line is drawn**: `plotLine3d` plots a line of points and counts them; `plotLine3dLT2` plots the same
points, and as the vector number `n` it gives the one with `n` points behind it. -/
structure LineDrawn (p q : Point3) : Prop where
  drawn : ∃ points, plotLine3d p q = .ok (points.length, points) ∧ IsLine p q points ∧
    ∀ t n draw, ∃ t', plotLine3dLT2 p q t n draw = .ok (p.span q, t', if draw ≠ 0 then points else []) ∧
      (∀ i : ℕ, n = i → ∀ r, points.reverse[i]? = some r → t' = t.record r) ∧
      ((n < 0 ∨ p.span q < n) → t' = t)

section

variable {a b m n draw : ℤ} {i k : ℕ} {x : Axis} {p q : Point3} {t : Tracked} {plotted : List Point3}

/-! ## One axis -/

/-- A coordinate that has gone from `a` towards `b`. -/
def coordOf (a b : ℤ) (x : Axis) : Coord := ⟨a + stepSign a b * x.moves, x.err⟩

lemma stepSign_mul_abs (a b : ℤ) : stepSign a b * |b - a| = b - a := by
  rw [stepSign]
  split
  · rw [abs_of_pos (by omega), one_mul]
  · rw [abs_of_nonpos (by omega), neg_one_mul, neg_neg]

lemma abs_stepSign (a b : ℤ) : |stepSign a b| = 1 := by
  rw [stepSign]
  split <;> rfl

/-- Between its ends a coordinate is an `int`. -/
lemma coordOf_isInt (ha : INT_MIN ≤ a ∧ a ≤ INT_MAX) (hb : INT_MIN ≤ b ∧ b ≤ INT_MAX) (hx : 0 ≤ x.moves ∧ x.moves ≤ |b - a|) :
    INT_MIN ≤ (coordOf a b x).pos ∧ (coordOf a b x).pos ≤ INT_MAX := by
  rw [coordOf, stepSign]
  dsimp only
  split
  · rw [abs_of_pos (by omega)] at hx
    omega
  · rw [abs_of_nonpos (by omega)] at hx
    omega

lemma intResult_of_le {y : ℤ} (h : INT_MIN ≤ y ∧ y ≤ INT_MAX) : intResult y = .ok y := if_pos h

lemma intResult_of_abs_le {y : ℤ} (h : |y| ≤ INT_MAX) : intResult y = .ok y := by
  refine intResult_of_le ⟨le_trans ?_ (abs_le.1 h).1, (abs_le.1 h).2⟩
  rw [INT_MIN, INT_MAX]
  omega

/-- **One step on one axis** is one turn. -/
lemma Coord.step_eq (ha : INT_MIN ≤ a ∧ a ≤ INT_MAX) (hb : INT_MIN ≤ b ∧ b ≤ INT_MAX)
    (hm : |b - a| ≤ m) (hmax : m ≤ INT_MAX) (hk : (k + 1 : ℕ) ≤ m) (hx : x.Tracks |b - a| m k) :
    (coordOf a b x).step |b - a| m (stepSign a b) = .ok (coordOf a b (x.turn |b - a| m)) := by
  have hnonneg := hx.nonneg
  have hlt := hx.lt
  have habs := abs_nonneg (b - a)
  have hint := coordOf_isInt ha hb ((hx.turn habs hm).bounds habs hk)
  have herr : intResult (x.err - |b - a|) = .ok (x.err - |b - a|) :=
    intResult_of_abs_le ((abs_le.2 ⟨by omega, by omega⟩).trans hmax)
  rw [Axis.turn] at hint ⊢
  rw [Coord.step, coordOf, herr, ok_bind]
  by_cases hneg : x.err - |b - a| < 0
  · rw [if_pos hneg] at hint ⊢
    have hpos : a + stepSign a b * x.moves + stepSign a b =
        (coordOf a b ⟨x.err - |b - a| + m, x.moves + 1⟩).pos := by
      dsimp only [coordOf]
      ring
    have hadd : intResult (x.err - |b - a| + m) = .ok (x.err - |b - a| + m) :=
      intResult_of_abs_le ((abs_le.2 ⟨by omega, by omega⟩).trans hmax)
    rw [if_pos hneg, hadd, ok_bind, hpos, intResult_of_le hint]
    rfl
  · rw [if_neg hneg, if_neg hneg]
    rfl

/-- The axis after `k` turns. -/
def axisAt (a b m : ℤ) (k : ℕ) : Axis := (Axis.turn |b - a| m)^[k] (Axis.start m)

lemma axisAt_tracks (hm : |b - a| ≤ m) (hpos : 0 < m) (k : ℕ) : (axisAt a b m k).Tracks |b - a| m k :=
  Axis.Tracks.iterate (abs_nonneg _) hm hpos k

lemma axisAt_succ : axisAt a b m (k + 1) = (axisAt a b m k).turn |b - a| m := Function.iterate_succ_apply' ..

/-- The coordinate after `k` turns. -/
def coordAt (a b m : ℤ) (k : ℕ) : Coord := coordOf a b (axisAt a b m k)

lemma coordAt_zero : coordAt a b m 0 = ⟨a, m / 2⟩ := by
  rw [coordAt, coordOf, axisAt, Function.iterate_zero_apply, Axis.start, mul_zero, add_zero]

lemma coordAt_step (ha : INT_MIN ≤ a ∧ a ≤ INT_MAX) (hb : INT_MIN ≤ b ∧ b ≤ INT_MAX) (hm : |b - a| ≤ m)
    (hmax : m ≤ INT_MAX) (hk : (k + 1 : ℕ) ≤ m) :
    (coordAt a b m k).step |b - a| m (stepSign a b) = .ok (coordAt a b m (k + 1)) := by
  rw [coordAt, Coord.step_eq ha hb hm hmax hk (axisAt_tracks hm (by omega) k), coordAt, axisAt_succ]

/-- **The end** of an axis. -/
lemma coordAt_last (hm : |b - a| ≤ m) (hk : (k : ℤ) = m) : (coordAt a b m k).pos = b := by
  rcases eq_or_lt_of_le ((abs_nonneg _).trans hm) with hzero | hpos
  · obtain rfl : k = 0 := by omega
    have hsame := abs_nonpos_iff.1 (hzero ▸ hm)
    rw [coordAt_zero]
    dsimp only
    omega
  · have hmoves := (axisAt_tracks hm hpos k).arrives (abs_nonneg _) hk
    rw [coordAt, coordOf]
    dsimp only
    rw [hmoves, stepSign_mul_abs]
    omega

/-- **A step moves by one** or not at all. -/
lemma coordAt_adjacent (a b m : ℤ) (k : ℕ) : |(coordAt a b m (k + 1)).pos - (coordAt a b m k).pos| ≤ 1 := by
  have hmoves := Axis.turn_moves |b - a| m (axisAt a b m k)
  rw [← axisAt_succ] at hmoves
  have hdiff : (coordAt a b m (k + 1)).pos - (coordAt a b m k).pos =
      stepSign a b * ((axisAt a b m (k + 1)).moves - (axisAt a b m k).moves) := by
    dsimp only [coordAt, coordOf]
    ring
  rw [hdiff, abs_mul, abs_stepSign, one_mul]
  rcases hmoves with h | h
  · rw [h, sub_self, abs_zero]
    exact zero_le_one
  · rw [h, add_sub_cancel_left, abs_one]

/-- **Within one half** of the ideal line. -/
lemma coordAt_close {n : ℕ} (hm : |b - a| ≤ n) (hk : k ≤ n) :
    |(coordAt a b n k).pos - idealAt a b n k| ≤ 1 / 2 := by
  rcases Nat.eq_zero_or_pos n with rfl | hpos
  · obtain rfl : k = 0 := by omega
    rw [coordAt_zero, idealAt]
    norm_num
  · have hnear := (axisAt_tracks hm (by exact_mod_cast hpos) k).near
    have hn : (0 : ℚ) < n := by exact_mod_cast hpos
    have hsign : (stepSign a b : ℚ) * |b - a| = b - a := by exact_mod_cast stepSign_mul_abs a b
    have habs : |(stepSign a b : ℚ)| = 1 := by exact_mod_cast abs_stepSign a b
    have hdiff : ((coordAt a b n k).pos : ℚ) - idealAt a b n k =
        stepSign a b * (((n * (axisAt a b n k).moves - k * |b - a| : ℤ) : ℚ) / n) := by
      rw [idealAt, ← hsign, coordAt, coordOf]
      push_cast
      field_simp
      ring
    rw [hdiff, abs_mul, habs, one_mul, abs_div, abs_of_pos hn, div_le_div_iff₀ hn two_pos, one_mul, mul_comm]
    exact_mod_cast hnear

/-! ## The loops -/

/-- The variables of the loop after `k` turns. -/
def cursorAt (p q : Point3) (m : ℤ) (k : ℕ) : Cursor :=
  ⟨coordAt p.x q.x m k, coordAt p.y q.y m k, coordAt p.z q.z m k⟩

/-- The points from number `k` on. -/
def pointsFrom (p q : Point3) (m : ℤ) (k i : ℕ) : List Point3 :=
  (List.range' k i).map fun j => (cursorAt p q m j).point

/-- What is computed before the loop, when nothing overflows. -/
def deltasOf (p q : Point3) : Deltas :=
  ⟨|q.x - p.x|, stepSign p.x q.x, |q.y - p.y|, stepSign p.y q.y, |q.z - p.z|, stepSign p.z q.z, p.span q⟩

lemma span_eq_max (p q : Point3) :
    (p.span q : ℤ) = max |q.x - p.x| (max |q.y - p.y| |q.z - p.z|) := by
  rw [Point3.span, Nat.cast_max, Nat.cast_max, Int.natCast_natAbs, Int.natCast_natAbs, Int.natCast_natAbs]

lemma abs_le_span (p q : Point3) : |q.x - p.x| ≤ p.span q ∧ |q.y - p.y| ≤ p.span q ∧ |q.z - p.z| ≤ p.span q := by
  rw [span_eq_max]
  exact ⟨le_max_left _ _, (le_max_left _ _).trans (le_max_right _ _), (le_max_right _ _).trans (le_max_right _ _)⟩

lemma absDiff_eq (h : INT_MIN ≤ b - a ∧ b - a ≤ INT_MAX) :
    absDiff a b = if |b - a| ≤ INT_MAX then .ok |b - a| else .error .overflow := by
  rw [absDiff, intResult_of_le h, ok_bind, intAbs]
  by_cases hneg : b - a < 0
  · rw [if_pos hneg, intResult, abs_of_neg hneg]
    refine if_congr (and_iff_right ?_) rfl rfl
    rw [INT_MIN]
    omega
  · rw [if_neg hneg, abs_of_nonneg (not_lt.1 hneg), if_pos h.2]

lemma grMAX3_span (p q : Point3) : grMAX3 |q.x - p.x| |q.y - p.y| |q.z - p.z| = p.span q := by
  rw [grMAX3, span_eq_max]
  split <;> split <;> omega

/-- **Before the loop** an `abs` can overflow. -/
lemma deltas_eq (h : Drawable p q) :
    deltas p q = if (p.span q : ℤ) ≤ INT_MAX then .ok (deltasOf p q) else .error .overflow := by
  obtain ⟨hx, hy, hz⟩ := abs_le_span p q
  rw [deltas, absDiff_eq h.diff.x, absDiff_eq h.diff.y, absDiff_eq h.diff.z]
  by_cases hspan : (p.span q : ℤ) ≤ INT_MAX
  · rw [if_pos (hx.trans hspan), if_pos (hy.trans hspan), if_pos (hz.trans hspan), if_pos hspan, ok_bind, ok_bind,
      ok_bind, grMAX3_span]
    rfl
  · rw [if_neg hspan]
    have hover : ¬(|q.x - p.x| ≤ INT_MAX ∧ |q.y - p.y| ≤ INT_MAX ∧ |q.z - p.z| ≤ INT_MAX) := by
      rw [span_eq_max] at hspan
      omega
    by_cases h₁ : |q.x - p.x| ≤ INT_MAX
    · rw [if_pos h₁, ok_bind]
      by_cases h₂ : |q.y - p.y| ≤ INT_MAX
      · rw [if_pos h₂, ok_bind, if_neg fun h₃ => hover ⟨h₁, h₂, h₃⟩]
        rfl
      · rw [if_neg h₂]
        rfl
    · rw [if_neg h₁]
      rfl

/-- **One turn of the loop.** -/
lemma cursorAt_step (h : Drawable p q) (hmax : (p.span q : ℤ) ≤ INT_MAX) (hk : k + 1 ≤ p.span q) :
    (cursorAt p q (p.span q) k).step (deltasOf p q) = .ok (cursorAt p q (p.span q) (k + 1)) := by
  obtain ⟨hx, hy, hz⟩ := abs_le_span p q
  have hturn : ((k + 1 : ℕ) : ℤ) ≤ p.span q := by exact_mod_cast hk
  rw [cursorAt, Cursor.step, deltasOf]
  dsimp only
  rw [coordAt_step h.left.x h.right.x hx hmax hturn, ok_bind, coordAt_step h.left.y h.right.y hy hmax hturn, ok_bind,
    coordAt_step h.left.z h.right.z hz hmax hturn]
  rfl

lemma cursorAt_zero (p q : Point3) : cursorAt p q (p.span q) 0 = .start (deltasOf p q) p := by
  rw [cursorAt, coordAt_zero, coordAt_zero, coordAt_zero]
  rfl

/-- **The loop of `plotLine3d`** counts up to the overflow. -/
lemma plotLoop_eq (h : Drawable p q) (hmax : (p.span q : ℤ) ≤ INT_MAX) (hn : 0 ≤ n) (hnmax : n ≤ INT_MAX)
    (hk : k + i = p.span q) :
    plotLoop (deltasOf p q) i (cursorAt p q (p.span q) k) n plotted =
      if n + i + 1 ≤ INT_MAX then .ok (n + i + 1, plotted ++ pointsFrom p q (p.span q) k (i + 1))
      else .error .overflow := by
  induction i generalizing k n plotted with
  | zero =>
      rw [plotLoop, intResult, Nat.cast_zero, add_zero]
      by_cases hlast : n + 1 ≤ INT_MAX
      · rw [if_pos hlast, if_pos ⟨by rw [INT_MIN]; omega, hlast⟩]
        rfl
      · rw [if_neg hlast, if_neg fun hint => hlast hint.2]
        rfl
  | succ i ih =>
      rw [plotLoop, intResult]
      by_cases hmore : n + 1 ≤ INT_MAX
      · have hcount : n + 1 + i + 1 = n + (i + 1 : ℕ) + 1 := by
          push_cast
          ring
        rw [if_pos ⟨by rw [INT_MIN]; omega, hmore⟩, ok_bind, cursorAt_step h hmax (by omega), ok_bind,
          ih (by omega) hmore (by omega), hcount, List.append_assoc]
        rfl
      · rw [if_neg fun hint => hmore hint.2, if_neg (by push_cast; omega)]
        rfl

/-- The vector number `n`, if there is one. -/
def trackedAt (p q : Point3) (n : ℤ) (i : ℕ) (t : Tracked) : Tracked :=
  if 0 ≤ n ∧ n ≤ i then t.record (cursorAt p q (p.span q) (p.span q - n.toNat)).point else t

lemma trackedAt_zero (hk : k = p.span q) :
    (if 0 = n then t.record (cursorAt p q (p.span q) k).point else t) = trackedAt p q n 0 t := by
  rw [trackedAt]
  by_cases hn : 0 = n
  · rw [if_pos hn, if_pos (by omega), ← hn, Int.toNat_zero, Nat.sub_zero, hk]
  · rw [if_neg hn, if_neg (by omega)]

/-- Only the vector number `n` is recorded. -/
lemma trackedAt_succ (hk : k + (i + 1) = p.span q) :
    trackedAt p q n i (if (i + 1 : ℕ) = n then t.record (cursorAt p q (p.span q) k).point else t) =
      trackedAt p q n (i + 1) t := by
  rw [trackedAt, trackedAt]
  by_cases hn : (i + 1 : ℕ) = n
  · have hindex : p.span q - n.toNat = k := by omega
    rw [if_neg (by omega), if_pos hn, if_pos (by omega), hindex]
  · rw [if_neg hn]
    exact if_congr (by omega) rfl rfl

lemma drawn_append {c : Point3} {cs : List Point3} :
    ((if draw ≠ 0 then plotted ++ [c] else plotted) ++ if draw ≠ 0 then cs else []) =
      plotted ++ if draw ≠ 0 then c :: cs else [] := by
  by_cases hdraw : draw ≠ 0
  · rw [if_pos hdraw, if_pos hdraw, if_pos hdraw, List.append_assoc, List.singleton_append]
  · rw [if_neg hdraw, if_neg hdraw, if_neg hdraw]

/-- **The loop of `plotLine3dLT2`.** -/
lemma trackLoop_eq (h : Drawable p q) (hmax : (p.span q : ℤ) ≤ INT_MAX) (hk : k + i = p.span q) :
    trackLoop (deltasOf p q) n draw i (cursorAt p q (p.span q) k) t plotted =
      .ok (trackedAt p q n i t, plotted ++ if draw ≠ 0 then pointsFrom p q (p.span q) k (i + 1) else []) := by
  induction i generalizing k t plotted with
  | zero =>
      have hone : pointsFrom p q (p.span q) k 1 = [(cursorAt p q (p.span q) k).point] := rfl
      have hend : k = p.span q := hk
      rw [trackLoop, trackedAt_zero hend, Nat.zero_add, hone, ← drawn_append, ite_self, List.append_nil]
  | succ i ih =>
      have hcons : pointsFrom p q (p.span q) k (i + 1 + 1) =
          (cursorAt p q (p.span q) k).point :: pointsFrom p q (p.span q) (k + 1) (i + 1) := rfl
      rw [trackLoop, cursorAt_step h hmax (by omega), ok_bind, ih (by omega), trackedAt_succ hk, hcons, drawn_append]

/-- **`plotLine3d`.** -/
lemma plotLine3d_eq (h : Drawable p q) : plotLine3d p q =
    if (p.span q : ℤ) + 1 ≤ INT_MAX then .ok (p.span q + 1, pointsFrom p q (p.span q) 0 (p.span q + 1))
    else .error .overflow := by
  rw [plotLine3d, deltas_eq h]
  by_cases hmax : (p.span q : ℤ) ≤ INT_MAX
  · have hdm : (deltasOf p q).dm.toNat = p.span q := Int.toNat_natCast _
    rw [if_pos hmax, ok_bind, hdm, ← cursorAt_zero, plotLoop_eq h hmax le_rfl (by decide) (Nat.zero_add _), zero_add,
      List.nil_append]
  · rw [if_neg hmax, if_neg (by omega)]
    rfl

/-- **`plotLine3dLT2`.** -/
lemma plotLine3dLT2_eq (h : Drawable p q) (hmax : (p.span q : ℤ) ≤ INT_MAX) : plotLine3dLT2 p q t n draw =
    .ok (p.span q, trackedAt p q n (p.span q) t,
      if draw ≠ 0 then pointsFrom p q (p.span q) 0 (p.span q + 1) else []) := by
  have hdm : (deltasOf p q).dm.toNat = p.span q := Int.toNat_natCast _
  rw [plotLine3dLT2, deltas_eq h, if_pos hmax, ok_bind, hdm, ← cursorAt_zero, trackLoop_eq h hmax (Nat.zero_add _)]
  rfl

/-! ## The points -/

lemma length_pointsFrom : (pointsFrom p q m k i).length = i := by
  rw [pointsFrom, List.length_map, List.length_range']

lemma getElem_pointsFrom {j : ℕ} {r : Point3} (h : (pointsFrom p q m 0 i)[j]? = some r) :
    j < i ∧ r = (cursorAt p q m j).point := by
  obtain ⟨hlt, heq⟩ := List.getElem?_eq_some_iff.1 h
  rw [length_pointsFrom] at hlt
  refine ⟨hlt, heq.symm.trans ?_⟩
  simp [pointsFrom]

/-- The point with `j` points behind it. -/
lemma getElem_reverse_pointsFrom {j : ℕ} {r : Point3} (h : (pointsFrom p q m 0 (i + 1)).reverse[j]? = some r) :
    j ≤ i ∧ r = (cursorAt p q m (i - j)).point := by
  have hlt : j < (pointsFrom p q m 0 (i + 1)).length := by
    rw [← List.length_reverse]
    exact (List.getElem?_eq_some_iff.1 h).1
  rw [List.getElem?_reverse hlt, length_pointsFrom, Nat.add_sub_cancel] at h
  rw [length_pointsFrom] at hlt
  exact ⟨by omega, (getElem_pointsFrom h).2⟩

lemma pointsFrom_adjacent : (pointsFrom p q m k i).IsChain fun a b =>
    |b.x - a.x| ≤ 1 ∧ |b.y - a.y| ≤ 1 ∧ |b.z - a.z| ≤ 1 := by
  induction i generalizing k with
  | zero => exact List.isChain_nil
  | succ i ih =>
      cases i with
      | zero => exact List.isChain_singleton _
      | succ i =>
          refine List.isChain_cons_cons.2 ⟨⟨?_, ?_, ?_⟩, ih⟩
          all_goals exact coordAt_adjacent _ _ _ _

lemma cursorAt_last (p q : Point3) : (cursorAt p q (p.span q) (p.span q)).point = q := by
  obtain ⟨hx, hy, hz⟩ := abs_le_span p q
  exact Point3.ext (coordAt_last hx rfl) (coordAt_last hy rfl) (coordAt_last hz rfl)

lemma pointsFrom_isLine (p q : Point3) : IsLine p q (pointsFrom p q (p.span q) 0 (p.span q + 1)) where
  length := length_pointsFrom
  first := by
    have hpoint : (cursorAt p q (p.span q) 0).point = p := by
      rw [cursorAt_zero]
      rfl
    exact congrArg some hpoint
  last := by
    rw [pointsFrom, List.range'_concat, List.map_append, List.map_singleton, List.getLast?_append_cons]
    rw [Nat.one_mul, Nat.zero_add]
    exact congrArg some (cursorAt_last p q)
  adjacent := pointsFrom_adjacent
  close k r hr := by
    obtain ⟨hlt, rfl⟩ := getElem_pointsFrom hr
    obtain ⟨hx, hy, hz⟩ := abs_le_span p q
    exact ⟨coordAt_close hx (by omega), coordAt_close hy (by omega), coordAt_close hz (by omega)⟩

end

/-- **Between which points a line is drawn**: the longest axis must have less than `INT_MAX` moves. -/
theorem lineDrawn_iff (p q : Point3) (h : Drawable p q) : LineDrawn p q ↔ (p.span q : ℤ) < INT_MAX := by
  constructor
  · rintro ⟨points, hplot, -⟩
    by_contra hmax
    rw [plotLine3d_eq h, if_neg (by omega)] at hplot
    cases hplot
  · intro hmax
    refine ⟨pointsFrom p q (p.span q) 0 (p.span q + 1), ?_, pointsFrom_isLine p q, fun t n draw => ?_⟩
    · rw [plotLine3d_eq h, if_pos (by omega), length_pointsFrom, Nat.cast_add, Nat.cast_one]
    · refine ⟨_, plotLine3dLT2_eq h hmax.le, fun i hi r hr => ?_, fun hout => if_neg (by omega)⟩
      obtain ⟨hle, rfl⟩ := getElem_reverse_pointsFrom hr
      rw [trackedAt, if_pos (by omega), hi, Int.toNat_natCast]

/-- From the origin to `(3, 2, 1)`. -/
theorem lineDrawn_iff_short : LineDrawn ⟨0, 0, 0⟩ ⟨3, 2, 1⟩ ↔
    ((Point3.span ⟨0, 0, 0⟩ ⟨3, 2, 1⟩ : ℕ) : ℤ) < INT_MAX :=
  lineDrawn_iff _ _ ⟨⟨by decide, by decide, by decide⟩, ⟨by decide, by decide, by decide⟩,
    ⟨by decide, by decide, by decide⟩⟩

/-- **No line is drawn** from the origin to the point with the least `int` as its first coordinate: it has no
absolute value. -/
theorem lineDrawn_fails : ¬∀ p q : Point3, Drawable p q → LineDrawn p q := by
  intro hall
  have h : Drawable ⟨0, 0, 0⟩ ⟨INT_MIN, 0, 0⟩ := ⟨⟨by decide, by decide, by decide⟩,
    ⟨by decide, by decide, by decide⟩, ⟨by decide, by decide, by decide⟩⟩
  obtain ⟨points, hplot, -⟩ := hall _ _ h
  have hover : plotLine3d ⟨0, 0, 0⟩ ⟨INT_MIN, 0, 0⟩ = .error .overflow := rfl
  rw [hover] at hplot
  cases hplot

end Gramado.Gws
