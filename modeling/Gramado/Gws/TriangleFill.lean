import Gramado.Core.CStrings
import Gramado.Gws.BackbufferRectangle
import Gramado.Lib.DigitalLine

/-!
# Filling a triangle

`fillTriangle0` of `adam/gram3d/demo00/grprim.c`.  The vertices are sorted by `y`; then the edge from the first to
the last one is walked together with the edge to the middle one, and below that together with the edge from there.
On each line the smallest and the largest `x` go to `grBackbufferDrawHorizontalLine`, which draws from the first up
to the column before the last.

* `spans_le` — no line goes beyond the largest vertex.
* `Span.covers_of_drawn` — a line draws no more than its columns.
* `fillTriangle_never` — so the vertex on the right is never drawn.
-/

namespace Gramado.Gws

open Clib DigitalLine

/-! ## The code -/

/-- A vertex. -/
structure Vertex where
  x : ℤ
  y : ℤ
  deriving DecidableEq

/-- A call of `grBackbufferDrawHorizontalLine`. -/
structure Span where
  minx : ℤ
  y : ℤ
  maxx : ℤ

/-- How a fill does not return: an `int` operation has no result, or a loop has not ended within the turns that are
looked at. -/
inductive FillStop where
  | undefined (u : Undefined)
  | waiting

/-- An `int` operation. -/
def int (x : ℤ) : Except FillStop ℤ :=
  match intResult x with
  | .ok v => .ok v
  | .error u => .error (.undefined u)

/-- `dx`, `dy`, `signx` and `changed` of an edge. -/
structure Slope where
  dx : ℤ
  dy : ℤ
  signx : ℤ
  changed : Bool

/-- The slope of the edge from `p` to `q`; `dx` is the longer side. -/
def slope (p q : Vertex) : Except FillStop Slope := do
  let dx ← int (q.x - p.x)
  let dy ← int (q.y - p.y)
  if dx < 0 then
    let dx ← int (-dx)
    if dy > dx then return ⟨dy, dx, -1, true⟩ else return ⟨dx, dy, -1, false⟩
  else if dy > dx then return ⟨dy, dx, 1, true⟩ else return ⟨dx, dy, 1, false⟩

/-- An edge that is walked: where it is, its error term, and how much is added behind the line. -/
structure Walk where
  t : ℤ
  e : ℤ
  tp : ℤ

section Loops

variable (l : Slope) (turns : ℕ)

/-- `while (e >= dx) { e -= dx; if (changed) tp = signx; else goto …; }`: whether it goes to the label. -/
def carryLoop : ℕ → Walk → Except FillStop (Bool × Walk)
  | 0, _ => .error .waiting
  | n + 1, w =>
      if w.e ≥ l.dx then
        if l.changed then carryLoop n { w with e := w.e - l.dx, tp := l.signx }
        else .ok (true, { w with e := w.e - l.dx })
      else .ok (false, w)

/-- The edge to the middle vertex, until `y` is about to change: `while (i < dx1) { … }`. -/
def firstLine : ℕ → ℤ → Walk → Except FillStop (ℤ × Walk)
  | 0, _, _ => .error .waiting
  | n + 1, i, w =>
      if i < l.dx then do
        let i := i + 1
        let e ← int (w.e + l.dy)
        let (leaves, w) ← carryLoop l turns { w with e := e }
        if leaves then return (i, w)
        else if l.changed then return (i, w)
        else
          let t ← int (w.t + l.signx)
          firstLine n i { w with t := t }
      else return (i, w)

/-- The edge to the last vertex, until `y` is about to change: `while (1) { … }`, or `while (t2x != x3) { … }`. -/
def secondLine (goal : Option ℤ) : ℕ → Walk → Except FillStop Walk
  | 0, _ => .error .waiting
  | n + 1, w =>
      if goal = some w.t then return w
      else do
        let e ← int (w.e + l.dy)
        let (leaves, w) ← carryLoop l turns { w with e := e }
        if leaves then return w
        else if l.changed then return w
        else
          let t ← int (w.t + l.signx)
          secondLine goal n { w with t := t }

/-- The edge from the middle vertex, until `y` is about to change: `while (ii < dx1) { … }`. -/
def lowerLine : ℕ → ℤ → Walk → Except FillStop (ℤ × Walk)
  | 0, _, _ => .error .waiting
  | n + 1, ii, w =>
      if ii < l.dx then do
        let e ← int (w.e + l.dy)
        if e ≥ l.dx then
          -- `break` out of both loops, or `goto next3`
          if l.changed then return (ii, { w with e := e - l.dx, tp := l.signx })
          else return (ii, { w with e := e - l.dx })
        else if l.changed then return (ii, { w with e := e })
        else
          let t ← int (w.t + l.signx)
          lowerLine n (ii + 1) { w with t := t, e := e }
      else return (ii, w)

/-- Behind the line: `if (!changed) { t += signx; } t += tp;`. -/
def advance (w : Walk) : Except FillStop Walk := do
  let t ← if l.changed then .ok w.t else int (w.t + l.signx)
  let t ← int (t + w.tp)
  return { w with t := t }

end Loops

/-- `minx` and `maxx`, from where both edges were before the line and where they are at its end. -/
def spanOf (y t1 t2 t1' t2' : ℤ) : Span where
  minx := min (min (min t1 t2) t1') t2'
  y := y
  maxx := max (max (max t1 t2) t1') t2'

/-- Where a half leaves off: the lines drawn so far, `y`, and the edge to the last vertex. -/
structure Half where
  spans : List Span
  y : ℤ
  w2 : Walk

/-- The first half: `for (i=0; i<dx1;)`. -/
def firstHalf (turns : ℕ) (l1 l2 : Slope) (y2 : ℤ) : ℕ → ℤ → Walk → Half → Except FillStop Half
  | 0, _, _, _ => .error .waiting
  | n + 1, i, w1, h =>
      if i < l1.dx then do
        let (i, w1') ← firstLine l1 turns turns i { w1 with tp := 0 }
        let w2' ← secondLine l2 turns none turns { h.w2 with tp := 0 }
        let spans := h.spans ++ [spanOf h.y w1.t h.w2.t w1'.t w2'.t]
        let w1 ← advance l1 w1'
        let w2 ← advance l2 w2'
        let y ← int (h.y + 1)
        if y = y2 then return ⟨spans, y, w2⟩ else firstHalf turns l1 l2 y2 n i w1 ⟨spans, y, w2⟩
      else return h

/-- The second half: `for (ii=0; ii<=dx1; ii++)`. -/
def secondHalf (turns : ℕ) (l1 l2 : Slope) (last : Vertex) : ℕ → ℤ → Walk → Half → Except FillStop (List Span)
  | 0, _, _, _ => .error .waiting
  | n + 1, ii, w1, h =>
      if ii ≤ l1.dx then do
        let (ii, w1') ← lowerLine l1 turns ii { w1 with tp := 0 }
        let w2' ← secondLine l2 turns (some last.x) turns { h.w2 with tp := 0 }
        let spans := h.spans ++ [spanOf h.y w1.t h.w2.t w1'.t w2'.t]
        let w1 ← advance l1 w1'
        let w2 ← advance l2 w2'
        let y ← int (h.y + 1)
        if y > last.y then return spans else secondHalf turns l1 l2 last n (ii + 1) w1 ⟨spans, y, w2⟩
      else return h.spans

/-- The lines down to the middle vertex; a flat top has none. -/
def upperHalf (turns : ℕ) (l1 l2 : Slope) (v1 v2 : Vertex) : Except FillStop Half :=
  let w2 : Walk := ⟨v1.x, l2.dx / 2, 0⟩
  if v1.y = v2.y then .ok ⟨[], v1.y, w2⟩
  else firstHalf turns l1 l2 v2.y turns 0 ⟨v1.x, l1.dx / 2, 0⟩ ⟨[], v1.y, w2⟩

/-- `fillTriangle0` on sorted vertices. -/
def fillSorted (turns : ℕ) (v1 v2 v3 : Vertex) : Except FillStop (List Span) := do
  let l1 ← slope v1 v2
  let l2 ← slope v1 v3
  let h ← upperHalf turns l1 l2 v1 v2
  let l1 ← slope v2 v3
  secondHalf turns l1 l2 v3 turns 0 ⟨v2.x, l1.dx / 2, 0⟩ h

/-- The one with the smaller `y` first. -/
def sortVertices (p q : Vertex) : Vertex × Vertex := if p.y > q.y then (q, p) else (p, q)

/-- `fillTriangle0`: the vertices are sorted, with at most `turns` turns of each loop. -/
def fillTriangle0 (turns : ℕ) (v1 v2 v3 : Vertex) : Except FillStop (List Span) :=
  let (v1, v2) := sortVertices v1 v2
  let (v1, v3) := sortVertices v1 v3
  let (v2, v3) := sortVertices v2 v3
  fillSorted turns v1 v2 v3

/-! ## An edge -/

variable {l : Slope} {p q : Vertex} {w w' w'' : Walk} {turns n : ℕ} {i i' k c e M : ℤ} {goal : Option ℤ}

lemma int_ok {x v : ℤ} (h : int x = .ok v) : v = x := by
  rw [int] at h
  split at h
  · next heq =>
      cases h
      exact (intResult_inv heq).1
  · cases h

/-- What a slope says. -/
structure Sloped (p q : Vertex) (l : Slope) : Prop where
  sign : l.signx = 1 ∨ l.signx = -1
  reach : q.x = p.x + l.signx * |q.x - p.x|
  steep : l.changed = true → l.dx = q.y - p.y ∧ l.dy = |q.x - p.x| ∧ l.dy < l.dx
  flat : l.changed = false → l.dx = |q.x - p.x| ∧ l.dy = q.y - p.y ∧ l.dy ≤ l.dx

lemma slope_ok (h : slope p q = .ok l) : Sloped p q l := by
  unfold slope at h
  obtain ⟨dx, hdx, h⟩ := bind_eq_ok h
  obtain ⟨dy, hdy, h⟩ := bind_eq_ok h
  obtain rfl := int_ok hdx
  obtain rfl := int_ok hdy
  by_cases hneg : q.x - p.x < 0
  · rw [if_pos hneg] at h
    obtain ⟨dx, hdx, h⟩ := bind_eq_ok h
    obtain rfl := int_ok hdx
    have habs := abs_of_neg hneg
    split_ifs at h with hsteep
    · cases h
      refine ⟨.inr rfl, by dsimp only; omega, fun _ => ⟨rfl, habs.symm, hsteep⟩, fun hflat => (nomatch hflat)⟩
    · cases h
      refine ⟨.inr rfl, by dsimp only; omega, fun hsteep => (nomatch hsteep),
        fun _ => ⟨habs.symm, rfl, not_lt.1 hsteep⟩⟩
  · rw [if_neg hneg] at h
    have habs := abs_of_nonneg (not_lt.1 hneg)
    split_ifs at h with hsteep
    · cases h
      refine ⟨.inl rfl, by dsimp only; omega, fun _ => ⟨rfl, habs.symm, hsteep⟩, fun hflat => (nomatch hflat)⟩
    · cases h
      refine ⟨.inl rfl, by dsimp only; omega, fun hsteep => (nomatch hsteep),
        fun _ => ⟨habs.symm, rfl, not_lt.1 hsteep⟩⟩

/-- A point of the edge is not beyond its ends. -/
lemma Sloped.le (h : Sloped p q l) (hp : p.x ≤ M) (hq : q.x ≤ M) (hk : 0 ≤ k) (hle : k ≤ |q.x - p.x|) :
    p.x + l.signx * k ≤ M := by
  have hreach := h.reach
  rcases h.sign with hsign | hsign
  · rw [hsign] at hreach ⊢
    omega
  · rw [hsign]
    omega

/-- Only one number of moves leads to the end. -/
lemma Sloped.moves (h : Sloped p q l) (hend : p.x + l.signx * k = q.x) : k = |q.x - p.x| := by
  have hreach := h.reach
  rcases h.sign with hsign | hsign
  · rw [hsign] at hreach hend
    omega
  · rw [hsign] at hreach hend
    omega

/-! ## The carry -/

lemma carryLoop_lt {r : Bool × Walk} (hlt : w.e < l.dx) (h : carryLoop l n w = .ok r) : r = (false, w) := by
  cases n with
  | zero => cases h
  | succ n =>
      rw [carryLoop, if_neg (by omega)] at h
      exact (Except.ok.inj h).symm

/-- An edge that is not steep goes to the label. -/
lemma carryLoop_flat {r : Bool × Walk} (hflat : l.changed = false) (hge : l.dx ≤ w.e) (h : carryLoop l n w = .ok r) :
    r = (true, { w with e := w.e - l.dx }) := by
  cases n with
  | zero => cases h
  | succ n =>
      rw [carryLoop, if_pos hge, hflat] at h
      exact (Except.ok.inj h).symm

/-- A steep one has one carry. -/
lemma carryLoop_steep {r : Bool × Walk} (hsteep : l.changed = true) (hge : l.dx ≤ w.e) (hlt : w.e - l.dx < l.dx)
    (h : carryLoop l n w = .ok r) : r = (false, { w with e := w.e - l.dx, tp := l.signx }) := by
  cases n with
  | zero => cases h
  | succ n =>
      rw [carryLoop, if_pos hge, hsteep] at h
      exact carryLoop_lt hlt h

/-- **A turn of a steep edge**: the move behind the line is the carry. -/
lemma steep_turn {b : Bool} (hsteep : l.changed = true) (hd : 0 ≤ l.dy) (hm : l.dy ≤ l.dx)
    (hclimbs : Climbs l.dy l.dx w.e k c) (htp : w.tp = 0)
    (h : carryLoop l n { w with e := w.e + l.dy } = .ok (b, w')) :
    b = false ∧ w'.t = w.t ∧ ∃ c', w'.tp = l.signx * (c' - c) ∧ Climbs l.dy l.dx w'.e (k + 1) c' := by
  by_cases hlt : w.e + l.dy < l.dx
  · obtain ⟨rfl, rfl⟩ := Prod.mk.inj (carryLoop_lt hlt h)
    exact ⟨rfl, rfl, c, by rw [sub_self, mul_zero]; exact htp, hclimbs.add hd hlt⟩
  · have hless := hclimbs.lt
    obtain ⟨rfl, rfl⟩ := Prod.mk.inj (carryLoop_steep hsteep (not_lt.1 hlt) (by dsimp only; omega) h)
    exact ⟨rfl, rfl, c + 1, by ring, hclimbs.carry hm (not_lt.1 hlt)⟩

lemma advance_flat (hflat : l.changed = false) (h : advance l w = .ok w') :
    w'.t = w.t + l.signx + w.tp ∧ w'.e = w.e := by
  unfold advance at h
  rw [hflat] at h
  obtain ⟨t, ht, h⟩ := bind_eq_ok h
  obtain ⟨t', ht', h⟩ := bind_eq_ok h
  obtain rfl := int_ok ht
  obtain rfl := int_ok ht'
  cases h
  exact ⟨rfl, rfl⟩

lemma advance_steep (hsteep : l.changed = true) (h : advance l w = .ok w') : w'.t = w.t + w.tp ∧ w'.e = w.e := by
  unfold advance at h
  rw [hsteep] at h
  obtain ⟨t, ht, h⟩ := bind_eq_ok h
  obtain ⟨t', ht', h⟩ := bind_eq_ok h
  cases ht
  obtain rfl := int_ok ht'
  cases h
  exact ⟨rfl, rfl⟩

/-! ## The edges at the middle vertex -/

/-- Where an edge at the middle vertex is after `i` turns: it moved with each, or once for each carry. -/
structure Middle (p : Vertex) (l : Slope) (i : ℤ) (w : Walk) : Prop where
  flat : l.changed = false → w.t = p.x + l.signx * i
  steep : l.changed = true → ∃ n c, (0 ≤ n ∧ n ≤ i ∧ n ≤ l.dx) ∧ w.t = p.x + l.signx * c ∧
    Climbs l.dy l.dx w.e n c

lemma Middle.start (h : Sloped p q l) (tp : ℤ) : Middle p l 0 ⟨p.x, l.dx / 2, tp⟩ where
  flat _ := by ring
  steep hsteep := by
    obtain ⟨-, hdy, hlt⟩ := h.steep hsteep
    have hpos := abs_nonneg (q.x - p.x)
    exact ⟨0, 0, ⟨le_refl _, le_refl _, by omega⟩, by ring, .start (by omega)⟩

/-- It is not beyond its ends. -/
lemma Middle.le (hm : Middle p l i w) (h : Sloped p q l) (hp : p.x ≤ M) (hq : q.x ≤ M) (hi : 0 ≤ i)
    (hle : i ≤ l.dx) : w.t ≤ M := by
  cases hchanged : l.changed with
  | false =>
      rw [hm.flat hchanged]
      have hdx := (h.flat hchanged).1
      exact h.le hp hq hi (by omega)
  | true =>
      obtain ⟨n, c, ⟨hn, -, hdx⟩, ht, hclimbs⟩ := hm.steep hchanged
      obtain ⟨-, hdy, -⟩ := h.steep hchanged
      have hpos := abs_nonneg (q.x - p.x)
      rw [ht]
      refine h.le hp hq (hclimbs.carries_nonneg (by omega) hn) ?_
      rw [← hdy]
      exact hclimbs.carries_le (by omega) hdx

/-- The line of an edge that is not steep. -/
lemma firstLine_flat (hflat : l.changed = false) (hi : i ≤ l.dx) (h : firstLine l turns n i w = .ok (i', w')) :
    ∃ j, w'.t = w.t + l.signx * (j - i) ∧ (i ≤ j ∧ j ≤ l.dx) ∧ w'.tp = w.tp ∧
      (i' = j + 1 ∧ i' ≤ l.dx ∨ i' = l.dx ∧ j = l.dx) := by
  induction n generalizing i w with
  | zero => cases h
  | succ n ih =>
      rw [firstLine] at h
      by_cases hless : i < l.dx
      · rw [if_pos hless] at h
        obtain ⟨e, he, h⟩ := bind_eq_ok h
        obtain ⟨⟨leaves, u⟩, hcarry, h⟩ := bind_eq_ok h
        by_cases hlt : e < l.dx
        · obtain ⟨rfl, rfl⟩ := Prod.mk.inj (carryLoop_lt hlt hcarry)
          dsimp only at h
          rw [if_neg (by decide), hflat, if_neg (by decide)] at h
          obtain ⟨t, ht, h⟩ := bind_eq_ok h
          obtain rfl := int_ok ht
          obtain ⟨j, hj, ⟨hij, hjdx⟩, htp, hi'⟩ := ih (by omega) h
          refine ⟨j, ?_, ⟨by omega, hjdx⟩, htp, hi'⟩
          rw [hj]
          ring
        · obtain ⟨rfl, rfl⟩ := Prod.mk.inj (carryLoop_flat hflat (not_lt.1 hlt) hcarry)
          dsimp only at h
          rw [if_pos rfl] at h
          cases h
          exact ⟨i, by ring, ⟨le_refl _, hi⟩, rfl, .inl ⟨rfl, by omega⟩⟩
      · rw [if_neg hless] at h
        cases h
        exact ⟨i', by ring, ⟨le_refl _, hi⟩, rfl, .inr ⟨by omega, by omega⟩⟩

/-- **A line of the upper edge.** -/
lemma firstLine_middle (hs : Sloped p q l) (hd : 0 ≤ l.dy) (hp : p.x ≤ M) (hq : q.x ≤ M) (hm : Middle p l i w)
    (hi : 0 ≤ i) (hless : i < l.dx) (htp : w.tp = 0) (h : firstLine l turns n i w = .ok (i', w'))
    (hadvance : advance l w' = .ok w'') : w'.t ≤ M ∧ i < i' ∧ (i' < l.dx → Middle p l i' w'') := by
  cases hchanged : l.changed with
  | false =>
      obtain ⟨j, hj, ⟨hij, hjdx⟩, htp', hi'⟩ := firstLine_flat hchanged hless.le h
      obtain ⟨ht, -⟩ := advance_flat hchanged hadvance
      have hdx := (hs.flat hchanged).1
      have hpos : w'.t = p.x + l.signx * j := by
        rw [hj, hm.flat hchanged]
        ring
      refine ⟨?_, by omega, fun hmore => ⟨fun _ => ?_, fun hsteep => ?_⟩⟩
      · rw [hpos]
        exact hs.le hp hq (by omega) (by omega)
      · obtain rfl : i' = j + 1 := by omega
        rw [ht, hpos, htp', htp]
        ring
      · rw [hchanged] at hsteep
        cases hsteep
  | true =>
      obtain ⟨k, c, ⟨hk, hki, hkdx⟩, ht, hclimbs⟩ := hm.steep hchanged
      obtain ⟨hdx, hdy, hlt⟩ := hs.steep hchanged
      cases n with
      | zero => cases h
      | succ n =>
          rw [firstLine, if_pos hless] at h
          obtain ⟨e, he, h⟩ := bind_eq_ok h
          obtain rfl := int_ok he
          obtain ⟨⟨leaves, u⟩, hcarry, h⟩ := bind_eq_ok h
          obtain ⟨rfl, hut, c', hutp, hclimbs'⟩ := steep_turn hchanged hd hlt.le hclimbs htp hcarry
          dsimp only at h
          rw [if_neg (by decide), if_pos hchanged] at h
          cases h
          obtain ⟨ht'', he''⟩ := advance_steep hchanged hadvance
          refine ⟨?_, by omega, fun hmore => ⟨fun hflat => ?_, fun _ => ?_⟩⟩
          · rw [hut]
            exact hm.le hs hp hq hi hless.le
          · rw [hchanged] at hflat
            cases hflat
          · refine ⟨k + 1, c', ⟨by omega, by omega, by omega⟩, ?_, by rw [he'']; exact hclimbs'⟩
            rw [ht'', hut, hutp, ht]
            ring

/-- The line of an edge that is not steep. -/
lemma lowerLine_flat (hflat : l.changed = false) (hi : i ≤ l.dx) (h : lowerLine l n i w = .ok (i', w')) :
    w'.t = w.t + l.signx * (i' - i) ∧ (i ≤ i' ∧ i' ≤ l.dx) ∧ w'.tp = w.tp := by
  induction n generalizing i w with
  | zero => cases h
  | succ n ih =>
      rw [lowerLine] at h
      by_cases hless : i < l.dx
      · rw [if_pos hless] at h
        obtain ⟨e, he, h⟩ := bind_eq_ok h
        by_cases hge : e ≥ l.dx
        · rw [if_pos hge, hflat] at h
          cases h
          exact ⟨by ring, ⟨le_refl _, hi⟩, rfl⟩
        · rw [if_neg hge, hflat] at h
          obtain ⟨t, ht, h⟩ := bind_eq_ok h
          obtain rfl := int_ok ht
          obtain ⟨hj, ⟨hij, hjdx⟩, htp⟩ := ih (by omega) h
          refine ⟨?_, ⟨by omega, hjdx⟩, htp⟩
          rw [hj]
          ring
      · rw [if_neg hless] at h
        cases h
        exact ⟨by ring, ⟨le_refl _, hi⟩, rfl⟩

/-- **A line of the lower edge.** -/
lemma lowerLine_middle (hs : Sloped p q l) (hd : 0 ≤ l.dy) (hp : p.x ≤ M) (hq : q.x ≤ M) (hm : Middle p l i w)
    (hi : 0 ≤ i) (hle : i ≤ l.dx) (htp : w.tp = 0) (h : lowerLine l n i w = .ok (i', w'))
    (hadvance : advance l w' = .ok w'') : w'.t ≤ M ∧ i ≤ i' ∧ Middle p l (i' + 1) w'' := by
  cases hchanged : l.changed with
  | false =>
      obtain ⟨hj, ⟨hij, hjdx⟩, htp'⟩ := lowerLine_flat hchanged hle h
      obtain ⟨ht, -⟩ := advance_flat hchanged hadvance
      have hdx := (hs.flat hchanged).1
      have hpos : w'.t = p.x + l.signx * i' := by
        rw [hj, hm.flat hchanged]
        ring
      refine ⟨?_, hij, fun _ => ?_, fun hsteep => ?_⟩
      · rw [hpos]
        exact hs.le hp hq (by omega) (by omega)
      · rw [ht, hpos, htp', htp]
        ring
      · rw [hchanged] at hsteep
        cases hsteep
  | true =>
      obtain ⟨k, c, ⟨hk, hki, hkdx⟩, ht, hclimbs⟩ := hm.steep hchanged
      obtain ⟨hdx, hdy, hlt⟩ := hs.steep hchanged
      have hbound := hm.le hs hp hq hi hle
      obtain ⟨ht'', he''⟩ := advance_steep hchanged hadvance
      have hless := hclimbs.lt
      cases n with
      | zero => cases h
      | succ n =>
          rw [lowerLine] at h
          by_cases hmore : i < l.dx
          · rw [if_pos hmore] at h
            obtain ⟨e, he, h⟩ := bind_eq_ok h
            obtain rfl := int_ok he
            by_cases hge : w.e + l.dy ≥ l.dx
            · rw [if_pos hge, if_pos hchanged] at h
              cases h
              refine ⟨hbound, le_refl _, fun hflat => ?_, fun _ => ?_⟩
              · rw [hchanged] at hflat
                cases hflat
              · refine ⟨k + 1, c + 1, ⟨by omega, by omega, by omega⟩, ?_, by rw [he'']; exact hclimbs.carry hlt.le hge⟩
                rw [ht'']
                dsimp only
                rw [ht]
                ring
            · rw [if_neg hge, if_pos hchanged] at h
              cases h
              refine ⟨hbound, le_refl _, fun hflat => ?_, fun _ => ?_⟩
              · rw [hchanged] at hflat
                cases hflat
              · refine ⟨k + 1, c, ⟨by omega, by omega, by omega⟩, ?_,
                  by rw [he'']; exact hclimbs.add hd (not_le.1 hge)⟩
                rw [ht'']
                dsimp only
                rw [ht, htp, add_zero]
          · rw [if_neg hmore] at h
            cases h
            refine ⟨hbound, le_refl _, fun hflat => ?_, fun _ => ?_⟩
            · rw [hchanged] at hflat
              cases hflat
            · refine ⟨k, c, ⟨hk, by omega, hkdx⟩, ?_, by rw [he'']; exact hclimbs⟩
              rw [ht'', ht, htp, add_zero]

/-! ## The edge to the last vertex -/

/-- Where the edge to the last vertex is after `k` lines: each of them ended with a carry, or was a turn. -/
structure Long (p q : Vertex) (l : Slope) (k : ℤ) (w : Walk) : Prop where
  flat : l.changed = false → ∃ n, (0 ≤ n ∧ n ≤ |q.x - p.x|) ∧ w.t = p.x + l.signx * n ∧
    (0 < l.dx → Climbs l.dy l.dx w.e n k)
  steep : l.changed = true → ∃ n c, (0 ≤ n ∧ n ≤ k) ∧ w.t = p.x + l.signx * c ∧ Climbs l.dy l.dx w.e n c

lemma Long.start (h : Sloped p q l) (tp : ℤ) : Long p q l 0 ⟨p.x, l.dx / 2, tp⟩ where
  flat _ := ⟨0, ⟨le_refl _, abs_nonneg _⟩, by ring, .start⟩
  steep hsteep := by
    obtain ⟨-, hdy, hlt⟩ := h.steep hsteep
    have hpos := abs_nonneg (q.x - p.x)
    exact ⟨0, 0, ⟨le_refl _, le_refl _⟩, by ring, .start (by omega)⟩

/-- It is not beyond its ends. -/
lemma Long.le (hl : Long p q l k w) (h : Sloped p q l) (hp : p.x ≤ M) (hq : q.x ≤ M) (hk : k ≤ q.y - p.y) :
    w.t ≤ M := by
  cases hchanged : l.changed with
  | false =>
      obtain ⟨n, ⟨hn, hle⟩, ht, -⟩ := hl.flat hchanged
      rw [ht]
      exact h.le hp hq hn hle
  | true =>
      obtain ⟨n, c, ⟨hn, hle⟩, ht, hclimbs⟩ := hl.steep hchanged
      obtain ⟨hdx, hdy, -⟩ := h.steep hchanged
      have hpos := abs_nonneg (q.x - p.x)
      rw [ht]
      refine h.le hp hq (hclimbs.carries_nonneg (by omega) hn) ?_
      rw [← hdy]
      exact hclimbs.carries_le (by omega) (by omega)

/-- A line of an edge that is not steep: as long as there are lines to come, it ends with a carry before the end of
the edge. -/
lemma secondLine_flat (hs : Sloped p q l) (hflat : l.changed = false) (hd : 0 ≤ l.dy) {c : ℤ}
    (hgoal : goal = some q.x ∨ goal = none ∧ k + 1 ≤ l.dy) (hc : 0 ≤ c ∧ c ≤ |q.x - p.x|)
    (ht : w.t = p.x + l.signx * c) (hclimbs : Climbs l.dy l.dx w.e c k)
    (h : secondLine l turns goal n w = .ok w') :
    ∃ j, w'.t = p.x + l.signx * j ∧ (0 ≤ j ∧ j ≤ |q.x - p.x|) ∧ w'.tp = w.tp ∧
      (k + 1 ≤ l.dy → j + 1 ≤ |q.x - p.x| ∧ Climbs l.dy l.dx w'.e (j + 1) (k + 1)) := by
  obtain ⟨hdx, -, hm⟩ := hs.flat hflat
  induction n generalizing c w with
  | zero => cases h
  | succ n ih =>
      rw [secondLine] at h
      by_cases hstop : goal = some w.t
      · rw [if_pos hstop] at h
        cases h
        refine ⟨c, ht, hc, rfl, fun hmore => ?_⟩
        -- the end of the edge is not reached before its last line
        have hless := hclimbs.turns_lt hd hmore
        have hend : q.x = w'.t := by
          rcases hgoal with hgoal | ⟨hgoal, -⟩
          · exact Option.some.inj (hgoal.symm.trans hstop)
          · rw [hgoal] at hstop
            cases hstop
        have hmoves := hs.moves (k := c) (by rw [hend, ht])
        omega
      · rw [if_neg hstop] at h
        obtain ⟨e, he, h⟩ := bind_eq_ok h
        obtain rfl := int_ok he
        obtain ⟨⟨leaves, u⟩, hcarry, h⟩ := bind_eq_ok h
        by_cases hlt : w.e + l.dy < l.dx
        · obtain ⟨rfl, rfl⟩ := Prod.mk.inj (carryLoop_lt hlt hcarry)
          dsimp only at h
          rw [if_neg (by decide), hflat, if_neg (by decide)] at h
          obtain ⟨t, ht', h⟩ := bind_eq_ok h
          obtain rfl := int_ok ht'
          have hadd := hclimbs.add hd hlt
          have hroom : c + 1 ≤ |q.x - p.x| := by
            by_cases hmore : k + 1 ≤ l.dy
            · have hless := hadd.turns_lt hd hmore
              omega
            · rcases hgoal with hgoal | ⟨-, hmore'⟩
              · by_contra hfull
                obtain rfl : c = |q.x - p.x| := by omega
                rw [← hs.reach] at ht
                exact hstop (hgoal.trans (congrArg some ht.symm))
              · exact absurd hmore' hmore
          have hpos : w.t + l.signx = p.x + l.signx * (c + 1) := by
            rw [ht]
            ring
          obtain ⟨j, hj, hjle, htp, hnext⟩ :=
            ih (w := { w with t := w.t + l.signx, e := w.e + l.dy }) ⟨by omega, hroom⟩ hpos hadd h
          exact ⟨j, hj, hjle, htp, hnext⟩
        · obtain ⟨rfl, rfl⟩ := Prod.mk.inj (carryLoop_flat hflat (not_lt.1 hlt) hcarry)
          dsimp only at h
          rw [if_pos rfl] at h
          cases h
          refine ⟨c, ht, hc, rfl, fun hmore => ⟨?_, hclimbs.carry hm (not_lt.1 hlt)⟩⟩
          have hless := hclimbs.turns_lt hd hmore
          omega

/-- **A line of the edge to the last vertex.** -/
lemma secondLine_long (hs : Sloped p q l) (hd : 0 ≤ l.dy) (hp : p.x ≤ M) (hq : q.x ≤ M) (hl : Long p q l k w)
    (hk : 0 ≤ k ∧ k ≤ q.y - p.y) (hgoal : goal = some q.x ∨ goal = none ∧ k + 1 ≤ q.y - p.y) (htp : w.tp = 0)
    (h : secondLine l turns goal n w = .ok w') (hadvance : advance l w' = .ok w'') :
    w'.t ≤ M ∧ (k + 1 ≤ q.y - p.y → Long p q l (k + 1) w'') := by
  cases hchanged : l.changed with
  | false =>
      obtain ⟨c, hc, ht, hclimbs⟩ := hl.flat hchanged
      obtain ⟨hdx, hdy, hm⟩ := hs.flat hchanged
      obtain ⟨ht'', he''⟩ := advance_flat hchanged hadvance
      by_cases hpos : 0 < l.dx
      · obtain ⟨j, hj, ⟨hj0, hjle⟩, htp', hnext⟩ :=
          secondLine_flat hs hchanged hd (by rw [hdy]; exact hgoal) hc ht (hclimbs hpos) h
        refine ⟨by rw [hj]; exact hs.le hp hq hj0 hjle, fun hmore => ⟨fun _ => ?_, fun hsteep => ?_⟩⟩
        · obtain ⟨hroom, hclimbs'⟩ := hnext (by omega)
          refine ⟨j + 1, ⟨by omega, hroom⟩, ?_, fun _ => by rw [he'']; exact hclimbs'⟩
          rw [ht'', hj, htp', htp]
          ring
        · rw [hchanged] at hsteep
          cases hsteep
      · -- a single point: there is no line to come
        have hnone : ¬k + 1 ≤ q.y - p.y := by omega
        refine ⟨?_, fun hmore => absurd hmore hnone⟩
        obtain rfl : c = 0 := by omega
        have hend : goal = some w.t := by
          rcases hgoal with hgoal | ⟨-, hmore⟩
          · rw [hgoal, ht, hs.reach, ← hdx, show l.dx = 0 by have := abs_nonneg (q.x - p.x); omega]
          · exact absurd hmore hnone
        cases n with
        | zero => cases h
        | succ n =>
            rw [secondLine, if_pos hend] at h
            cases h
            rw [ht, mul_zero, add_zero]
            exact hp
  | true =>
      have hbound := hl.le hs hp hq hk.2
      obtain ⟨m, c, ⟨hm0, hmk⟩, ht, hclimbs⟩ := hl.steep hchanged
      obtain ⟨hdx, hdy, hlt⟩ := hs.steep hchanged
      obtain ⟨ht'', he''⟩ := advance_steep hchanged hadvance
      cases n with
      | zero => cases h
      | succ n =>
          rw [secondLine] at h
          by_cases hstop : goal = some w.t
          · rw [if_pos hstop] at h
            cases h
            refine ⟨hbound, fun _ => ⟨fun hflat => ?_, fun _ => ?_⟩⟩
            · rw [hchanged] at hflat
              cases hflat
            · refine ⟨m, c, ⟨hm0, by omega⟩, ?_, by rw [he'']; exact hclimbs⟩
              rw [ht'', ht, htp, add_zero]
          · rw [if_neg hstop] at h
            obtain ⟨e, he, h⟩ := bind_eq_ok h
            obtain rfl := int_ok he
            obtain ⟨⟨leaves, u⟩, hcarry, h⟩ := bind_eq_ok h
            obtain ⟨rfl, hut, c', hutp, hclimbs'⟩ := steep_turn hchanged hd hlt.le hclimbs htp hcarry
            dsimp only at h
            rw [if_neg (by decide), if_pos hchanged] at h
            cases h
            refine ⟨by rw [hut]; exact hbound, fun _ => ⟨fun hflat => ?_, fun _ => ?_⟩⟩
            · rw [hchanged] at hflat
              cases hflat
            · refine ⟨m + 1, c', ⟨by omega, by omega⟩, ?_, by rw [he'']; exact hclimbs'⟩
              rw [ht'', hut, hutp, ht]
              ring

/-! ## The halves -/

variable {v1 v2 v3 : Vertex} {l1 l2 : Slope} {w1 : Walk} {half half' : Half} {spans : List Span}

/-- No line goes beyond `M`. -/
def Ends (M : ℤ) (spans : List Span) : Prop := ∀ s ∈ spans, s.maxx ≤ M

lemma Ends.append {y t1 t2 t1' t2' : ℤ} (h : Ends M spans) (h1 : t1 ≤ M) (h2 : t2 ≤ M) (h1' : t1' ≤ M)
    (h2' : t2' ≤ M) : Ends M (spans ++ [spanOf y t1 t2 t1' t2']) := by
  intro s hs
  rcases List.mem_append.1 hs with hs | hs
  · exact h s hs
  · obtain rfl := List.mem_singleton.1 hs
    exact max_le (max_le (max_le h1 h2) h1') h2'

lemma Long.reset (hl : Long v1 v3 l k w) (tp : ℤ) : Long v1 v3 l k { w with tp := tp } := ⟨hl.flat, hl.steep⟩

lemma Middle.reset (hm : Middle p l i w) (tp : ℤ) : Middle p l i { w with tp := tp } := ⟨hm.flat, hm.steep⟩

/-- **The first half.** -/
lemma firstHalf_spec (hs1 : Sloped v1 v2 l1) (hd1 : 0 ≤ l1.dy) (hs2 : Sloped v1 v3 l2) (hd2 : 0 ≤ l2.dy)
    (hx1 : v1.x ≤ M) (hx2 : v2.x ≤ M) (hx3 : v3.x ≤ M) (hy : v2.y ≤ v3.y) (hrow : v1.y ≤ half.y ∧ half.y < v2.y)
    (hi : 0 ≤ i) (hm : i < l1.dx → Middle v1 l1 i w1) (hl : Long v1 v3 l2 (half.y - v1.y) half.w2)
    (hends : Ends M half.spans) (h : firstHalf turns l1 l2 v2.y n i w1 half = .ok half') :
    Ends M half'.spans ∧ (v1.y ≤ half'.y ∧ half'.y ≤ v2.y) ∧ Long v1 v3 l2 (half'.y - v1.y) half'.w2 := by
  induction n generalizing i w1 half with
  | zero => cases h
  | succ n ih =>
      rw [firstHalf] at h
      by_cases hless : i < l1.dx
      · rw [if_pos hless] at h
        obtain ⟨⟨i', w1'⟩, hfirst, h⟩ := bind_eq_ok h
        obtain ⟨w2', hsecond, h⟩ := bind_eq_ok h
        obtain ⟨w1'', hadvance1, h⟩ := bind_eq_ok h
        obtain ⟨w2'', hadvance2, h⟩ := bind_eq_ok h
        obtain ⟨y, hy', h⟩ := bind_eq_ok h
        obtain rfl := int_ok hy'
        have hmiddle := hm hless
        obtain ⟨hend1, hi', hm'⟩ :=
          firstLine_middle hs1 hd1 hx1 hx2 (hmiddle.reset 0) hi hless rfl hfirst hadvance1
        obtain ⟨hend2, hl'⟩ := secondLine_long hs2 hd2 hx1 hx3 (hl.reset 0) ⟨by omega, by omega⟩
          (.inr ⟨rfl, by omega⟩) rfl hsecond hadvance2
        have hends' := hends.append (y := half.y) (hmiddle.le hs1 hx1 hx2 hi hless.le)
          (hl.le hs2 hx1 hx3 (by omega)) hend1 hend2
        have hlong : Long v1 v3 l2 (half.y + 1 - v1.y) w2'' := by
          rw [show half.y + 1 - v1.y = half.y - v1.y + 1 by ring]
          exact hl' (by omega)
        by_cases hlast : half.y + 1 = v2.y
        · rw [if_pos hlast] at h
          cases h
          exact ⟨hends', ⟨by dsimp only; omega, by dsimp only; omega⟩, hlong⟩
        · rw [if_neg hlast] at h
          exact ih ⟨by dsimp only; omega, by dsimp only; omega⟩ (by omega) hm' hlong hends' h
      · rw [if_neg hless] at h
        cases h
        exact ⟨hends, ⟨hrow.1, hrow.2.le⟩, hl⟩

/-- **The second half.** -/
lemma secondHalf_spec (hs1 : Sloped v2 v3 l1) (hd1 : 0 ≤ l1.dy) (hs2 : Sloped v1 v3 l2) (hd2 : 0 ≤ l2.dy)
    (hx1 : v1.x ≤ M) (hx2 : v2.x ≤ M) (hx3 : v3.x ≤ M) (hrow : v1.y ≤ half.y ∧ half.y ≤ v3.y) (hi : 0 ≤ i)
    (hm : Middle v2 l1 i w1) (hl : Long v1 v3 l2 (half.y - v1.y) half.w2) (hends : Ends M half.spans)
    (h : secondHalf turns l1 l2 v3 n i w1 half = .ok spans) : Ends M spans := by
  induction n generalizing i w1 half with
  | zero => cases h
  | succ n ih =>
      rw [secondHalf] at h
      by_cases hle : i ≤ l1.dx
      · rw [if_pos hle] at h
        obtain ⟨⟨i', w1'⟩, hlower, h⟩ := bind_eq_ok h
        obtain ⟨w2', hsecond, h⟩ := bind_eq_ok h
        obtain ⟨w1'', hadvance1, h⟩ := bind_eq_ok h
        obtain ⟨w2'', hadvance2, h⟩ := bind_eq_ok h
        obtain ⟨y, hy', h⟩ := bind_eq_ok h
        obtain rfl := int_ok hy'
        obtain ⟨hend1, hi', hm'⟩ :=
          lowerLine_middle hs1 hd1 hx2 hx3 (hm.reset 0) hi hle rfl hlower hadvance1
        obtain ⟨hend2, hl'⟩ := secondLine_long hs2 hd2 hx1 hx3 (hl.reset 0) ⟨by omega, by omega⟩
          (.inl rfl) rfl hsecond hadvance2
        have hends' := hends.append (y := half.y) (hm.le hs1 hx2 hx3 hi hle) (hl.le hs2 hx1 hx3 (by omega))
          hend1 hend2
        by_cases hlast : half.y + 1 > v3.y
        · rw [if_pos hlast] at h
          cases h
          exact hends'
        · rw [if_neg hlast] at h
          have hlong : Long v1 v3 l2 (half.y + 1 - v1.y) w2'' := by
            rw [show half.y + 1 - v1.y = half.y - v1.y + 1 by ring]
            exact hl' (by omega)
          exact ih ⟨by dsimp only; omega, by dsimp only; omega⟩ (by omega) hm' hlong hends' h
      · rw [if_neg hle] at h
        cases h
        exact hends

lemma Sloped.dy_nonneg (h : Sloped p q l) (hy : p.y ≤ q.y) : 0 ≤ l.dy := by
  cases hchanged : l.changed with
  | false =>
      have hdy := (h.flat hchanged).2.1
      omega
  | true =>
      rw [(h.steep hchanged).2.1]
      exact abs_nonneg _

lemma fillSorted_spec (hx1 : v1.x ≤ M) (hx2 : v2.x ≤ M) (hx3 : v3.x ≤ M) (hy12 : v1.y ≤ v2.y) (hy23 : v2.y ≤ v3.y)
    (h : fillSorted turns v1 v2 v3 = .ok spans) : Ends M spans := by
  unfold fillSorted at h
  obtain ⟨l1, hl1, h⟩ := bind_eq_ok h
  obtain ⟨l2, hl2, h⟩ := bind_eq_ok h
  obtain ⟨half, hhalf, h⟩ := bind_eq_ok h
  obtain ⟨l3, hl3, h⟩ := bind_eq_ok h
  have hs1 := slope_ok hl1
  have hs2 := slope_ok hl2
  have hs3 := slope_ok hl3
  have hlong : Long v1 v3 l2 (v1.y - v1.y) ⟨v1.x, l2.dx / 2, 0⟩ := by
    rw [sub_self]
    exact .start hs2 0
  have hnone : Ends M [] := fun s hs => nomatch hs
  have hupper : Ends M half.spans ∧ (v1.y ≤ half.y ∧ half.y ≤ v2.y) ∧ Long v1 v3 l2 (half.y - v1.y) half.w2 := by
    unfold upperHalf at hhalf
    by_cases hflat : v1.y = v2.y
    · rw [if_pos hflat] at hhalf
      cases hhalf
      exact ⟨hnone, ⟨le_refl _, hy12⟩, hlong⟩
    · rw [if_neg hflat] at hhalf
      exact firstHalf_spec hs1 (hs1.dy_nonneg hy12) hs2 (hs2.dy_nonneg (hy12.trans hy23)) hx1 hx2 hx3 hy23
        ⟨le_refl _, by dsimp only; omega⟩ (le_refl 0) (fun _ => .start hs1 0) hlong hnone hhalf
  obtain ⟨hends, ⟨hlo, hhi⟩, hl⟩ := hupper
  exact secondHalf_spec hs3 (hs3.dy_nonneg hy23) hs2 (hs2.dy_nonneg (hy12.trans hy23)) hx1 hx2 hx3
    ⟨hlo, hhi.trans hy23⟩ (le_refl 0) (.start hs3 0) hl hends h

/-- Sorting two vertices. -/
lemma sortVertices_cases (p q : Vertex) :
    sortVertices p q = (p, q) ∧ p.y ≤ q.y ∨ sortVertices p q = (q, p) ∧ q.y < p.y := by
  rw [sortVertices]
  by_cases hgt : p.y > q.y
  · exact .inr ⟨if_pos hgt, hgt⟩
  · exact .inl ⟨if_neg hgt, not_lt.1 hgt⟩

/-- **No line goes beyond the largest vertex.** -/
theorem spans_le (hx1 : v1.x ≤ M) (hx2 : v2.x ≤ M) (hx3 : v3.x ≤ M)
    (h : fillTriangle0 turns v1 v2 v3 = .ok spans) : Ends M spans := by
  unfold fillTriangle0 at h
  rcases sortVertices_cases v1 v2 with ⟨h12, hy12⟩ | ⟨h12, hy12⟩
  all_goals
    rw [h12] at h
    dsimp only at h
  · rcases sortVertices_cases v1 v3 with ⟨h13, hy13⟩ | ⟨h13, hy13⟩
    all_goals
      rw [h13] at h
      dsimp only at h
    · rcases sortVertices_cases v2 v3 with ⟨h23, hy23⟩ | ⟨h23, hy23⟩
      all_goals rw [h23] at h
      · exact fillSorted_spec hx1 hx2 hx3 hy12 hy23 h
      · exact fillSorted_spec hx1 hx3 hx2 hy13 hy23.le h
    · rcases sortVertices_cases v2 v1 with ⟨h23, hy23⟩ | ⟨h23, hy23⟩
      all_goals rw [h23] at h
      · exact fillSorted_spec hx3 hx2 hx1 (by omega) hy23 h
      · exact fillSorted_spec hx3 hx1 hx2 hy13.le hy12 h
  · rcases sortVertices_cases v2 v3 with ⟨h13, hy13⟩ | ⟨h13, hy13⟩
    all_goals
      rw [h13] at h
      dsimp only at h
    · rcases sortVertices_cases v1 v3 with ⟨h23, hy23⟩ | ⟨h23, hy23⟩
      all_goals rw [h23] at h
      · exact fillSorted_spec hx2 hx1 hx3 hy12.le hy23 h
      · exact fillSorted_spec hx2 hx3 hx1 hy13 hy23.le h
    · rcases sortVertices_cases v1 v2 with ⟨h23, hy23⟩ | ⟨h23, hy23⟩
      all_goals rw [h23] at h
      · exact fillSorted_spec hx3 hx1 hx2 (by omega) hy23 h
      · exact fillSorted_spec hx3 hx2 hx1 hy13.le hy12.le h

/-! ## What should hold -/

/-- The columns that `grBackbufferDrawHorizontalLine` draws of a line, if the screen has them. -/
def Span.Covers (s : Span) (x : ℤ) : Prop := s.minx ≤ x ∧ x < s.maxx

section Pixels

variable {scr : Screen} {stack : Pixel} {color : UInt32} {rop : ℕ} {c c' : Canvas} {x y k : ℤ} {r : ℕ × ℕ}

lemma grPlot2D_pixels (h : grPlot2D scr stack color x y rop c = .ok (k, c')) (hr : r ∈ c'.pixels) :
    r ∈ c.pixels ∨ (r.1 : ℤ) = x ∧ (r.2 : ℤ) = y := by
  unfold grPlot2D libdispBackbufferPutpixel fbBackBufferPutpixel at h
  dsimp only at h
  split_ifs at h with hx hy hscreen hoffset
  · cases h
    exact .inl hr
  · cases h
    exact .inl hr
  · cases h
    exact .inl hr
  · cases h
    rcases List.mem_append.1 hr with hr | hr
    · exact .inl hr
    · obtain rfl := List.mem_singleton.1 hr
      exact .inr ⟨by dsimp only; omega, by dsimp only; omega⟩

lemma lineLoop_pixels {n : ℕ} (h : lineLoop scr stack color rop y n x c = .ok (k, c')) (hr : r ∈ c'.pixels) :
    r ∈ c.pixels ∨ (x ≤ r.1 ∧ (r.1 : ℤ) < x + n) ∧ (r.2 : ℤ) = y := by
  induction n generalizing x k c with
  | zero =>
      cases h
      exact .inl hr
  | succ n ih =>
      rw [lineLoop] at h
      obtain ⟨⟨k, c1⟩, hplot, h⟩ := bind_eq_ok h
      obtain ⟨⟨k', c2⟩, hrest, h⟩ := bind_eq_ok h
      cases h
      push_cast
      rcases ih hrest with hr | ⟨⟨hlo, hhi⟩, hy⟩
      · rcases grPlot2D_pixels hplot hr with hr | ⟨hx, hy⟩
        · exact .inl hr
        · exact .inr ⟨⟨by omega, by omega⟩, hy⟩
      · exact .inr ⟨⟨by omega, by omega⟩, hy⟩

/-- **A line draws no more than its columns.** -/
theorem Span.covers_of_drawn {s : Span} (hmin : INT_MIN ≤ s.minx ∧ s.minx ≤ INT_MAX)
    (hmax : INT_MIN ≤ s.maxx ∧ s.maxx ≤ INT_MAX) (hy : INT_MIN ≤ s.y ∧ s.y ≤ INT_MAX)
    (h : grBackbufferDrawHorizontalLine scr stack (toUlong s.minx) (toUlong s.y) (toUlong s.maxx) color rop c =
      .ok (k, c')) (hr : r ∈ c'.pixels) : r ∈ c.pixels ∨ s.Covers r.1 ∧ (r.2 : ℤ) = s.y := by
  have hint : ∀ x : ℤ, INT_MIN ≤ x ∧ x ≤ INT_MAX → toInt32 (toUlong x) = x := by
    intro x hx
    rw [INT_MIN, INT_MAX] at hx
    rw [toInt32, toUlong, Int.bmod]
    omega
  rw [grBackbufferDrawHorizontalLine, hint _ hmin, hint _ hmax, hint _ hy] at h
  dsimp only at h
  generalize hleft : (if s.minx < 0 then 0 else s.minx) = left at h
  generalize hright : (if s.maxx ≥ toInt32 scr.width then toInt32 scr.width - 1 else s.maxx) = right at h
  have hlo : s.minx ≤ left := by
    split_ifs at hleft <;> omega
  have hhi : right ≤ s.maxx := by
    split_ifs at hright <;> omega
  by_cases hnone : left > right
  · rw [if_pos hnone] at h
    cases h
    exact .inl hr
  · rw [if_neg hnone] at h
    obtain ⟨⟨n, c1⟩, hloop, h⟩ := bind_eq_ok h
    cases h
    rcases lineLoop_pixels hloop hr with hr | ⟨⟨hfrom, hto⟩, hrow⟩
    · exact .inl hr
    · exact .inr ⟨⟨by omega, by omega⟩, hrow⟩

end Pixels

/-- The point is on the edge from `p` to `q`. -/
def OnEdge (p q r : Vertex) : Prop :=
  (q.x - p.x) * (r.y - p.y) = (q.y - p.y) * (r.x - p.x) ∧
    (min p.x q.x ≤ r.x ∧ r.x ≤ max p.x q.x) ∧ min p.y q.y ≤ r.y ∧ r.y ≤ max p.y q.y

/-- The pixel is drawn. -/
def FillDraws (v1 v2 v3 r : Vertex) : Prop :=
  ∃ turns spans, fillTriangle0 turns v1 v2 v3 = .ok spans ∧ ∃ s ∈ spans, s.y = r.y ∧ s.Covers r.x

/-- **What a fill should do**: it comes back with one line for each `y` from the smallest to the largest one, in
this order; what they cover lies between the smallest and the largest `x`, and the points of the edges are covered;
and the pixels do not depend on the order of the vertices. -/
structure FillRight (v1 v2 v3 : Vertex) : Prop where
  lines : ∃ turns spans, fillTriangle0 turns v1 v2 v3 = .ok spans ∧
    spans.map Span.y = (List.range (max (max v1.y v2.y) v3.y + 1 - min (min v1.y v2.y) v3.y).toNat).map
      (fun k : ℕ => min (min v1.y v2.y) v3.y + (k : ℤ)) ∧
    ∀ s ∈ spans, ∀ x, s.Covers x → min (min v1.x v2.x) v3.x ≤ x ∧ x ≤ max (max v1.x v2.x) v3.x
  edges : ∀ r, OnEdge v1 v2 r ∨ OnEdge v2 v3 r ∨ OnEdge v1 v3 r → FillDraws v1 v2 v3 r
  order : ∀ r, (FillDraws v1 v2 v3 r ↔ FillDraws v2 v1 v3 r) ∧ (FillDraws v1 v2 v3 r ↔ FillDraws v1 v3 v2 r)

lemma onEdge_left (p q : Vertex) : OnEdge p q p :=
  ⟨by ring, ⟨min_le_left _ _, le_max_left _ _⟩, min_le_left _ _, le_max_left _ _⟩

lemma onEdge_right (p q : Vertex) : OnEdge p q q :=
  ⟨by ring, ⟨min_le_right _ _, le_max_right _ _⟩, min_le_right _ _, le_max_right _ _⟩

/-- A vertex that no other is right of is not drawn. -/
lemma not_fillDraws {r : Vertex} (h1 : v1.x ≤ r.x) (h2 : v2.x ≤ r.x) (h3 : v3.x ≤ r.x) :
    ¬FillDraws v1 v2 v3 r := by
  rintro ⟨turns, spans, hfill, s, hs, -, -, hlt⟩
  have hle := spans_le h1 h2 h3 hfill s hs
  omega

/-- **The vertex on the right is never drawn.** -/
theorem fillTriangle_never (v1 v2 v3 : Vertex) : ¬FillRight v1 v2 v3 := by
  intro h
  by_cases h12 : v1.x ≤ v2.x
  · by_cases h23 : v2.x ≤ v3.x
    · exact not_fillDraws (h12.trans h23) h23 (le_refl _) (h.edges v3 (.inr (.inl (onEdge_right v2 v3))))
    · exact not_fillDraws h12 (le_refl _) (by omega) (h.edges v2 (.inl (onEdge_right v1 v2)))
  · by_cases h13 : v1.x ≤ v3.x
    · exact not_fillDraws h13 (by omega) (le_refl _) (h.edges v3 (.inr (.inl (onEdge_right v2 v3))))
    · exact not_fillDraws (le_refl _) (by omega) (by omega) (h.edges v1 (.inl (onEdge_left v1 v2)))

/-- Not the one of a triangle with a flat top. -/
theorem fillTriangle_fails : ¬∀ v1 v2 v3 : Vertex, FillRight v1 v2 v3 := by
  intro h
  have hright := h ⟨0, 0⟩ ⟨10, 0⟩ ⟨5, 5⟩
  exact not_fillDraws (by decide) (by decide) (by decide) (hright.edges ⟨10, 0⟩ (.inl (onEdge_right _ _)))

end Gramado.Gws
