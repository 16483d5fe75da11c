import Gramado.Gdi.Rectangle

/-!
# Rectangles of the display server

`rectBackbufferDrawRectangle0` of `adam/gram3d/demo00/rect.c` fills a rectangle of the back buffer by the kernel's
service 9, or line by line with `grBackbufferDrawHorizontalLine` of `demo00/line.c`, `grPlot2D` of
`demo00/grprim.c` and the pixels of `libs/libdisp/libdisp.c`.  The back buffer is that of the kernel.

The lines of the server end before the last column of the screen, and a height of zero has no line there; the
kernel knows one raster operation more.

* `Agree` — both ways leave the same contents.
* `rectangles_iff` — for which arguments they do.
-/

namespace Gramado.Gws

open Memory

/-! ## The code -/

/-- How the server does not return. -/
inductive Stopped where
  /-- The kernel stopped. -/
  | kernel (f : Fault)
  /-- `exit(status)`. -/
  | exited (status : ℤ)

section Code

variable (scr : Screen) (stack : Pixel)

/-- The operations of `fb_BackBufferPutpixel`; one that it does not know leaves the result as it was on the
stack. -/
def fbOperation (operation : ℕ) (p q stack : Pixel) : Pixel :=
  match operation with
  | 0 => p
  | 1 => { b := q.b ||| p.b, g := q.g ||| p.g, r := q.r ||| p.r, a := q.a }
  | 2 => { b := q.b &&& p.b, g := q.g &&& p.g, r := q.r &&& p.r, a := q.a }
  | 3 => { b := q.b ^^^ p.b, g := q.g ^^^ p.g, r := q.r ^^^ p.r, a := q.a }
  | 10 => { q with r := q.r &&& 0xFE }
  | 11 => { q with g := q.g &&& 0xFE }
  | 12 => { q with b := q.b &&& 0xFE }
  | 20 => { b := q.b &&& 0x80, g := q.g &&& 0x80, r := q.r &&& 0x80, a := q.a }
  | 21 => { q with r := q.r &&& 0x00 }
  | _ => stack

/-- `fb_BackBufferPutpixel`; `stack` is what is in its variables for the result. -/
def fbBackBufferPutpixel (color : UInt32) (x y : ℤ) (rop : ℕ) (c : Canvas) : Except Stopped (ℤ × Canvas) :=
  let deviceWidth : ℕ := scr.width % 2 ^ 16
  let deviceHeight : ℕ := scr.height % 2 ^ 16
  if x < 0 ∨ y < 0 ∨ x ≥ deviceWidth ∨ y ≥ deviceHeight then .ok (0, c)
  else
    let x := (x % 2 ^ 16).toNat
    let y := (y % 2 ^ 16).toNat
    let tmpOffset := deviceWidth * scr.bpp.bytes * y + x * scr.bpp.bytes
    if tmpOffset ≥ 0x00200000 then .error (.exited 1)
    else
      let (old, m) := c.buffer.load tmpOffset scr.bpp.bytes
      let p := fbOperation (rop % 2 ^ 8) (.ofColor color) (.ofBytes old) stack
      .ok (1, ⟨m.store tmpOffset (p.bytes scr.bpp), c.pixels ++ [(x, y)]⟩)

/-- `libdisp_backbuffer_putpixel`. -/
def libdispBackbufferPutpixel (color : UInt32) (x y : ℤ) (rop : ℕ) (c : Canvas) : Except Stopped (ℤ × Canvas) :=
  if x < 0 then .ok (0, c) else if y < 0 then .ok (0, c) else fbBackBufferPutpixel scr stack color x y rop c

/-- `grPlot2D`. -/
def grPlot2D (color : UInt32) (x y : ℤ) (rop : ℕ) (c : Canvas) : Except Stopped (ℤ × Canvas) :=
  if x < 0 then .ok (0, c) else if y < 0 then .ok (0, c) else libdispBackbufferPutpixel scr stack color x y rop c

/-- The loop of `grBackbufferDrawHorizontalLine`, `n` pixels from `x1` on: its `check_value`. -/
def lineLoop (color : UInt32) (rop : ℕ) (y : ℤ) : ℕ → ℤ → Canvas → Except Stopped (ℤ × Canvas)
  | 0, _, c => .ok (0, c)
  | n + 1, x1, c => do
      let (k, c) ← grPlot2D scr stack color x1 y rop c
      let (checkValue, c) ← lineLoop color rop y n (x1 + 1) c
      return (k + checkValue, c)

/-- `grBackbufferDrawHorizontalLine`; its test `y < 0` is on an `unsigned long`. -/
def grBackbufferDrawHorizontalLine (x1 y x2 : ℕ) (color : UInt32) (rop : ℕ) (c : Canvas) :
    Except Stopped (ℤ × Canvas) := do
  let w := toInt32 scr.width
  let left := if toInt32 x1 < 0 then 0 else toInt32 x1
  let right := if toInt32 x2 ≥ w then w - 1 else toInt32 x2
  if left > right then return (0, c)
  let (checkValue, c) ← lineLoop scr stack color rop (toInt32 y) (right - left).toNat left c
  return (if checkValue < right - left then checkValue else right - left, c)

/-- The lines of the server, at most `n` of them. -/
def linesLoop (left right bottom deviceH : ℕ) (color : UInt32) (rop : ℕ) : ℕ → ℕ → Canvas → Except Stopped Canvas
  | 0, _, c => .ok c
  | n + 1, top, c =>
      if top ≥ bottom then .ok c
      else if top ≥ deviceH then .ok c
      else do
        let (_, c) ← grBackbufferDrawHorizontalLine scr stack left top right color rop c
        linesLoop left right bottom deviceH color rop n (top + 1) c

/-- `__draw_rectangle_via_kgws`: the kernel's service 9. -/
def drawRectangleViaKgws (x y width height : ℕ) (color : UInt32) (rop : ℕ) (c : Canvas) : Except Stopped Canvas :=
  match backbufferDrawRectangle scr stack x y (width % 2 ^ 16) (height % 2 ^ 16) color rop c with
  | .ok (_, c) => .ok c
  | .error f => .error (.kernel f)

/-- `rectBackbufferDrawRectangle0`; `stack` is the stack of the kernel, `fbStack` that of the server. -/
def rectBackbufferDrawRectangle0 (fbStack : Pixel) (x y width height : ℕ) (color : UInt32) (ropFlags : ℕ)
    (useKgws : ℤ) (c : Canvas) : Except Stopped Canvas :=
  let deviceW := scr.width % 2 ^ 16
  let deviceH := scr.height % 2 ^ 16
  if deviceW > 800 then .ok c
  else if deviceH > 600 then .ok c
  else
    let left := x % 2 ^ 16
    let top := y % 2 ^ 16
    let width := width % 2 ^ 16
    let height := height % 2 ^ 16
    let right := left + width
    let bottom := top + height
    let bgColor := color &&& 0xFFFFFF
    if left > right then .error (.exited 0)
    else if top > bottom then .error (.exited 0)
    else if width > deviceW then .ok c
    else if height > deviceH then .ok c
    else
      let width := if width > ulongSub deviceW left then ulongSub deviceW left else width
      let height := if height > ulongSub deviceH top then ulongSub deviceH top else height
      if right > deviceW then .ok c
      else if bottom > deviceH then .ok c
      else if useKgws = TRUE then drawRectangleViaKgws scr stack left top width height bgColor ropFlags c
      else linesLoop scr fbStack left right bottom deviceH bgColor ropFlags height top c

end Code

/-! ## What should hold -/

/-- **Both ways leave the same contents** in the back buffer, whatever was in it and on the stacks. -/
def Agree (scr : Screen) (x y width height : ℕ) (color : UInt32) (ropFlags : ℕ) : Prop :=
  ∀ (stack fbStack : Pixel) (c : Canvas), ∃ c₁ c₂,
    rectBackbufferDrawRectangle0 scr stack fbStack x y width height color ropFlags TRUE c = .ok c₁ ∧
    rectBackbufferDrawRectangle0 scr stack fbStack x y width height color ropFlags FALSE c = .ok c₂ ∧
    c₁.buffer.cell = c₂.buffer.cell

/-- The rectangle, of the arguments modulo `2 ^ 16`, is on a screen of at most 800 by 600 pixels. -/
def Accepted (scr : Screen) (x y width height : ℕ) : Prop :=
  scr.width ≤ 800 ∧ scr.height ≤ 600 ∧ x % 2 ^ 16 + width % 2 ^ 16 ≤ scr.width ∧
    y % 2 ^ 16 + height % 2 ^ 16 ≤ scr.height

/-- The operations that both ways know. -/
def Supported (operation : ℕ) : Prop :=
  operation ≤ 3 ∨ (10 ≤ operation ∧ operation ≤ 12) ∨ operation = 20 ∨ operation = 21

/-- A color is black. -/
def Black (p : Pixel) : Prop := p.b = 0 ∧ p.g = 0 ∧ p.r = 0

/-- A color is white. -/
def White (p : Pixel) : Prop := p.b = 0xFF ∧ p.g = 0xFF ∧ p.r = 0xFF

/-- The operations that leave every pixel as it is. -/
def Idle (operation : ℕ) (p : Pixel) : Prop :=
  ((operation = 1 ∨ operation = 3) ∧ Black p) ∨ (operation = 2 ∧ White p)

/-- **The condition**: nothing is to be drawn; or the operation changes nothing; or both know it, there is a line,
and the last column of the screen is not in the rectangle. -/
def AgreeCondition (scr : Screen) (x y width height : ℕ) (color : UInt32) (ropFlags : ℕ) : Prop :=
  ¬Accepted scr x y width height ∨ width % 2 ^ 16 = 0 ∨ scr.height = 0 ∨
      Idle (ropFlags % 2 ^ 8) (.ofColor (color &&& 0xFFFFFF)) ∨
    (Supported (ropFlags % 2 ^ 8) ∧ 0 < height % 2 ^ 16 ∧ x % 2 ^ 16 + width % 2 ^ 16 < scr.width)

section

variable {scr : Screen} {f g : Pixel → Pixel} {c c₁ c₂ : Canvas} {p q : ℕ × ℕ} {L : List (ℕ × ℕ)}
  {stack fbStack color' : Pixel} {color : UInt32} {x y width height ropFlags operation n k : ℕ}

/-! ## Painting -/

/-- A pixel is changed. -/
def paint (scr : Screen) (f : Pixel → Pixel) (c : Canvas) (p : ℕ × ℕ) : Canvas :=
  ⟨(c.buffer.load (scr.offset p.1 p.2) scr.bpp.bytes).2.store (scr.offset p.1 p.2)
    ((f (.ofBytes (c.buffer.slice (scr.offset p.1 p.2) scr.bpp.bytes))).bytes scr.bpp), c.pixels ++ [p]⟩

/-- The bytes of a pixel in the buffer. -/
def bytesAt (scr : Screen) (c : Canvas) (p : ℕ × ℕ) : List UInt8 := c.buffer.slice (scr.offset p.1 p.2) scr.bpp.bytes

/-- The pixels of the lines of the screen are apart. -/
lemma offset_apart (hp : p.1 < scr.width) (hq : q.1 < scr.width) (hne : p ≠ q) :
    (scr.offset p.1 p.2 : ℤ) + scr.bpp.bytes ≤ scr.offset q.1 q.2 ∨
      (scr.offset q.1 q.2 : ℤ) + scr.bpp.bytes ≤ scr.offset p.1 p.2 := by
  have hoffset : ∀ r : ℕ × ℕ, scr.offset r.1 r.2 = scr.bpp.bytes * (scr.width * r.2 + r.1) := fun r => by
    rw [Screen.offset, Nat.mod_eq_of_lt scr.width_lt]
    ring
  have hbefore : ∀ r r' : ℕ × ℕ, scr.width * r.2 + r.1 < scr.width * r'.2 + r'.1 →
      (scr.offset r.1 r.2 : ℤ) + scr.bpp.bytes ≤ scr.offset r'.1 r'.2 := fun r r' hlt => by
    rw [hoffset r, hoffset r']
    have hle := Nat.mul_le_mul_left scr.bpp.bytes (Nat.succ_le_of_lt hlt)
    rw [Nat.mul_succ] at hle
    exact_mod_cast hle
  rcases lt_trichotomy (scr.width * p.2 + p.1) (scr.width * q.2 + q.1) with hlt | heq | hlt
  · exact .inl (hbefore p q hlt)
  · refine absurd ?_ hne
    have hpos : 0 < scr.width := by omega
    have hcolumn := congrArg (· % scr.width) heq
    have hrow := congrArg (· / scr.width) heq
    simp only [Nat.mul_add_mod, Nat.mod_eq_of_lt hp, Nat.mod_eq_of_lt hq] at hcolumn
    simp only [Nat.mul_add_div hpos, Nat.div_eq_of_lt hp, Nat.div_eq_of_lt hq, Nat.add_zero] at hrow
    exact Prod.ext hcolumn hrow
  · exact .inr (hbefore q p hlt)

lemma bytesAt_paint_self : bytesAt scr (paint scr f c p) p = (f (.ofBytes (bytesAt scr c p))).bytes scr.bpp :=
  slice_store_same (Pixel.length_bytes _ _)

lemma bytesAt_paint_ne (hp : p.1 < scr.width) (hq : q.1 < scr.width) (hne : p ≠ q) :
    bytesAt scr (paint scr f c p) q = bytesAt scr c q := by
  refine slice_store_apart ?_
  rw [Pixel.length_bytes]
  exact offset_apart hq hp hne.symm

lemma bytesAt_foldl_notMem (hL : ∀ p ∈ L, p.1 < scr.width) (hq : q.1 < scr.width) (hnot : q ∉ L) :
    bytesAt scr (L.foldl (paint scr f) c) q = bytesAt scr c q := by
  induction L generalizing c with
  | nil => rfl
  | cons p L ih =>
      rw [List.mem_cons, not_or] at hnot
      rw [List.foldl_cons, ih (fun r hr => hL r (List.mem_cons_of_mem _ hr)) hnot.2,
        bytesAt_paint_ne (hL p List.mem_cons_self) hq (Ne.symm hnot.1)]

/-- **A pixel that is painted once.** -/
lemma bytesAt_foldl_mem (hL : ∀ p ∈ L, p.1 < scr.width) (hnodup : L.Nodup) (hq : q ∈ L) :
    bytesAt scr (L.foldl (paint scr f) c) q = (f (.ofBytes (bytesAt scr c q))).bytes scr.bpp := by
  induction L generalizing c with
  | nil => cases hq
  | cons p L ih =>
      have hrest : ∀ r ∈ L, r.1 < scr.width := fun r hr => hL r (List.mem_cons_of_mem _ hr)
      obtain ⟨hnot, hnodup⟩ := List.nodup_cons.1 hnodup
      rw [List.foldl_cons]
      rcases List.mem_cons.1 hq with rfl | hmem
      · rw [bytesAt_foldl_notMem hrest (hL q List.mem_cons_self) hnot, bytesAt_paint_self]
      · rw [ih hrest hnodup hmem, bytesAt_paint_ne (hL p List.mem_cons_self) (hrest q hmem)]
        rintro rfl
        exact hnot hmem

/-- Painting that leaves every pixel as it is. -/
lemma cell_foldl_idle (hf : ∀ l : List UInt8, l.length = scr.bpp.bytes → (f (.ofBytes l)).bytes scr.bpp = l) :
    (L.foldl (paint scr f) c).buffer.cell = c.buffer.cell := by
  induction L generalizing c with
  | nil => rfl
  | cons p L ih =>
      rw [List.foldl_cons, ih, paint, hf _ slice_length]
      exact store_slice _ _ _

/-! ## The pixels of both ways -/

/-- What the kernel makes of a pixel. -/
def kernelPixel (ropFlags : ℕ) (color : UInt32) (stack q : Pixel) : Pixel :=
  rasterOperation (ropFlags % 2 ^ 8) (.ofColor color) q stack

/-- What the server makes of a pixel. -/
def serverPixel (ropFlags : ℕ) (color : UInt32) (stack q : Pixel) : Pixel :=
  fbOperation (ropFlags % 2 ^ 8) (.ofColor color) q stack

lemma bldispPutpixel0_snd (hx : x < 2 ^ 16) (hy : y < 2 ^ 16) :
    (bldispPutpixel0 scr stack color x y ropFlags c).2 = paint scr (kernelPixel ropFlags color stack) c (x, y) := by
  rw [bldispPutpixel0]
  simp only [Nat.mod_eq_of_lt hx, Nat.mod_eq_of_lt hy]
  rfl

/-- Line after line, pixel after pixel. -/
lemma foldl_grid : (grid x n y k).foldl (paint scr f) c =
    (List.range' y k).foldl (fun c row => ((List.range' x n).map fun col => (col, row)).foldl (paint scr f) c) c := by
  rw [grid, List.foldl_flatMap]

/-- **The kernel's way.** -/
lemma drawRectangleViaKgws_eq (hscr : 0 < scr.width ∧ 0 < scr.height) (hw : scr.width ≤ 800) (hh : scr.height ≤ 600)
    (hright : x + width ≤ scr.width) (hbottom : y + height ≤ scr.height) :
    drawRectangleViaKgws scr stack x y width height color ropFlags c =
      .ok ((grid x width y (rowCount scr.height y height)).foldl (paint scr (kernelPixel ropFlags color stack)) c) := by
  have hcall : backbufferDrawRectangle scr stack x y (width % 2 ^ 16) (height % 2 ^ 16) color ropFlags c =
      .ok (rowsLoop (fun Y => drawHorizontalLine scr stack x Y (x + width) color ropFlags) scr.height y height c) := by
    rw [backbufferDrawRectangle, drawRectangle0, if_neg (by decide), if_neg (by omega)]
    simp only [Nat.mod_eq_of_lt scr.width_lt, Nat.mod_eq_of_lt scr.height_lt,
      Nat.mod_eq_of_lt (show x < 2 ^ 16 by omega), Nat.mod_eq_of_lt (show y < 2 ^ 16 by omega),
      Nat.mod_eq_of_lt (show width < 2 ^ 16 by omega), Nat.mod_eq_of_lt (show height < 2 ^ 16 by omega)]
    rw [if_neg (by omega), if_neg (by omega), if_neg (by omega), if_neg (by omega)]
  rw [drawRectangleViaKgws, hcall]
  dsimp only
  rw [rowsLoop_snd (by omega), foldl_grid]
  refine congrArg Except.ok (List.foldl_ext _ _ _ fun c row hrow => ?_)
  have hlt := (List.mem_range'_1.1 hrow).2
  have hcount : y + rowCount scr.height y height ≤ scr.height + 1 := by
    rw [rowCount]
    split <;> omega
  rw [drawHorizontalLine_snd, List.foldl_map, Nat.add_sub_cancel_left]
  refine List.foldl_ext _ _ _ fun c col hcol => bldispPutpixel0_snd ?_ (by omega)
  have hlt := (List.mem_range'_1.1 hcol).2
  omega

/-- A pixel of the server on the screen. -/
lemma grPlot2D_eq (hw : scr.width ≤ 800) (hh : scr.height ≤ 600) (hx : x < scr.width) (hy : y < scr.height) :
    grPlot2D scr fbStack color x y ropFlags c =
      .ok (1, paint scr (serverPixel ropFlags color fbStack) c (x, y)) := by
  have hoffset : scr.width * scr.bpp.bytes * y + x * scr.bpp.bytes = scr.offset x y := by
    rw [Screen.offset, Nat.mod_eq_of_lt scr.width_lt]
    ring
  have hle := scr.offset_le hx hy
  have hpos : 0 < scr.bpp.bytes := by
    cases scr.bpp <;> decide
  have hsize : BUFFER_SIZE = 0x00200000 := rfl
  rw [grPlot2D, if_neg (by omega), if_neg (by omega), libdispBackbufferPutpixel, if_neg (by omega), if_neg (by omega),
    fbBackBufferPutpixel]
  simp only [Nat.mod_eq_of_lt scr.width_lt, Nat.mod_eq_of_lt scr.height_lt]
  rw [if_neg (by omega)]
  have hx' : ((x : ℤ) % 2 ^ 16).toNat = x := by omega
  have hy' : ((y : ℤ) % 2 ^ 16).toNat = y := by omega
  rw [hx', hy', hoffset, if_neg (by omega)]
  rfl

/-- The loop of a line of the server. -/
lemma lineLoop_eq (hw : scr.width ≤ 800) (hh : scr.height ≤ 600) (hx : x + n ≤ scr.width) (hy : y < scr.height) :
    lineLoop scr fbStack color ropFlags y n x c =
      .ok (n, ((List.range' x n).map fun col => (col, y)).foldl (paint scr (serverPixel ropFlags color fbStack)) c) := by
  induction n generalizing x c with
  | zero => rfl
  | succ n ih =>
      have hnext : ((x : ℤ) + 1) = (x + 1 : ℕ) := by push_cast; rfl
      rw [lineLoop, grPlot2D_eq hw hh (by omega) hy, ok_bind]
      dsimp only
      rw [hnext, ih (by omega), ok_bind, List.range'_succ, List.map_cons, List.foldl_cons]
      refine congrArg Except.ok (Prod.ext ?_ rfl)
      push_cast
      ring

/-- How many pixels a line of the server has: the last column of the screen is left out. -/
def serverLine (scr : Screen) (left right : ℕ) : ℕ := min right (scr.width - 1) - left

/-- **A line of the server.** -/
lemma grBackbufferDrawHorizontalLine_eq {left right : ℕ} (fbStack : Pixel) (c : Canvas) (hw : scr.width ≤ 800) (hh : scr.height ≤ 600)
    (hle : left ≤ right) (hright : right ≤ scr.width) (hy : y < scr.height) :
    ∃ k, grBackbufferDrawHorizontalLine scr fbStack left y right color ropFlags c = .ok (k,
      ((List.range' left (serverLine scr left right)).map fun col => (col, y)).foldl
        (paint scr (serverPixel ropFlags color fbStack)) c) := by
  have hint : ∀ n : ℕ, n ≤ 800 → toInt32 n = n := fun n hn => toInt32_of_range (by omega) (by omega)
  rw [grBackbufferDrawHorizontalLine, hint _ hw, hint _ (hle.trans (hright.trans hw)), hint _ (hright.trans hw),
    hint _ (by omega : y ≤ 800), serverLine]
  dsimp only
  rw [if_neg (show ¬(left : ℤ) < 0 by omega)]
  by_cases hlast : (right : ℤ) ≥ scr.width
  · rw [if_pos hlast]
    by_cases hnone : (left : ℤ) > scr.width - 1
    · have hzero : min right (scr.width - 1) - left = 0 := by omega
      rw [if_pos hnone, hzero]
      exact ⟨0, rfl⟩
    · have hcount : ((scr.width : ℤ) - 1 - left).toNat = min right (scr.width - 1) - left := by omega
      rw [if_neg hnone, hcount, lineLoop_eq hw hh (by omega) hy, ok_bind]
      exact ⟨_, rfl⟩
  · have hcount : ((right : ℤ) - left).toNat = min right (scr.width - 1) - left := by omega
    rw [if_neg hlast, if_neg (by omega), hcount, lineLoop_eq hw hh (by omega) hy, ok_bind]
    exact ⟨_, rfl⟩

/-- **The server's way.** -/
lemma linesLoop_eq {left right : ℕ} (hw : scr.width ≤ 800) (hh : scr.height ≤ 600) (hle : left ≤ right)
    (hright : right ≤ scr.width) (hbottom : y + n ≤ scr.height) :
    linesLoop scr fbStack left right (y + n) scr.height color ropFlags n y c =
      .ok ((grid left (serverLine scr left right) y n).foldl (paint scr (serverPixel ropFlags color fbStack)) c) := by
  rw [foldl_grid]
  induction n generalizing y c with
  | zero => rfl
  | succ n ih =>
      have hnext : y + (n + 1) = y + 1 + n := by omega
      obtain ⟨k, hline⟩ := grBackbufferDrawHorizontalLine_eq fbStack c hw hh hle hright
        (show y < scr.height by omega)
      rw [linesLoop, if_neg (by omega), if_neg (by omega), hline, ok_bind]
      dsimp only
      rw [hnext, ih (by omega), List.range'_succ, List.foldl_cons]

/-! ## Both ways -/

/-- A rectangle that is not accepted is not drawn. -/
lemma rectangle_refused (h : ¬Accepted scr x y width height) (useKgws : ℤ) :
    rectBackbufferDrawRectangle0 scr stack fbStack x y width height color ropFlags useKgws c = .ok c := by
  rw [rectBackbufferDrawRectangle0]
  simp only [Nat.mod_eq_of_lt scr.width_lt, Nat.mod_eq_of_lt scr.height_lt]
  by_cases hw : scr.width > 800
  · exact if_pos hw
  rw [if_neg hw]
  by_cases hh : scr.height > 600
  · exact if_pos hh
  rw [if_neg hh, if_neg (by omega), if_neg (by omega)]
  by_cases hwidth : width % 2 ^ 16 > scr.width
  · exact if_pos hwidth
  rw [if_neg hwidth]
  by_cases hheight : height % 2 ^ 16 > scr.height
  · exact if_pos hheight
  rw [if_neg hheight]
  by_cases hright : x % 2 ^ 16 + width % 2 ^ 16 > scr.width
  · exact if_pos hright
  rw [if_neg hright]
  by_cases hbottom : y % 2 ^ 16 + height % 2 ^ 16 > scr.height
  · exact if_pos hbottom
  · exact absurd ⟨by omega, by omega, by omega, by omega⟩ h

/-- A rectangle that is accepted is not clipped. -/
lemma rectangle_accepted (h : Accepted scr x y width height) (useKgws : ℤ) :
    rectBackbufferDrawRectangle0 scr stack fbStack x y width height color ropFlags useKgws c =
      if useKgws = TRUE then drawRectangleViaKgws scr stack (x % 2 ^ 16) (y % 2 ^ 16) (width % 2 ^ 16) (height % 2 ^ 16)
        (color &&& 0xFFFFFF) ropFlags c
      else linesLoop scr fbStack (x % 2 ^ 16) (x % 2 ^ 16 + width % 2 ^ 16) (y % 2 ^ 16 + height % 2 ^ 16) scr.height
        (color &&& 0xFFFFFF) ropFlags (height % 2 ^ 16) (y % 2 ^ 16) c := by
  obtain ⟨hw, hh, hright, hbottom⟩ := h
  have hwidth : ulongSub scr.width (x % 2 ^ 16) = scr.width - x % 2 ^ 16 := ulongSub_of_le (by omega) (by omega)
  have hheight : ulongSub scr.height (y % 2 ^ 16) = scr.height - y % 2 ^ 16 := ulongSub_of_le (by omega) (by omega)
  rw [rectBackbufferDrawRectangle0]
  simp only [Nat.mod_eq_of_lt scr.width_lt, Nat.mod_eq_of_lt scr.height_lt]
  rw [if_neg (by omega), if_neg (by omega), if_neg (by omega), if_neg (by omega), if_neg (by omega), if_neg (by omega),
    if_neg (show ¬x % 2 ^ 16 + width % 2 ^ 16 > scr.width by omega),
    if_neg (show ¬y % 2 ^ 16 + height % 2 ^ 16 > scr.height by omega), hwidth, hheight,
    if_neg (show ¬width % 2 ^ 16 > scr.width - x % 2 ^ 16 by omega),
    if_neg (show ¬height % 2 ^ 16 > scr.height - y % 2 ^ 16 by omega)]

/-! ## The raster operations -/

lemma supported_cases (h : Supported operation) : operation = 0 ∨ operation = 1 ∨ operation = 2 ∨ operation = 3 ∨
    operation = 10 ∨ operation = 11 ∨ operation = 12 ∨ operation = 20 ∨ operation = 21 := by
  rw [Supported] at h
  omega

/-- Both ways compute the operations that both know alike. -/
lemma fbOperation_eq (h : Supported operation) (p q stack fbStack : Pixel) :
    fbOperation operation p q fbStack = rasterOperation operation p q stack := by
  rcases supported_cases h with rfl | rfl | rfl | rfl | rfl | rfl | rfl | rfl | rfl <;> rfl

lemma Idle.supported {p : Pixel} (h : Idle operation p) : Supported operation := by
  rcases h with ⟨rfl | rfl, -⟩ | ⟨rfl, -⟩ <;> exact .inl (by decide)

lemma bytes_ofBytes {d : Depth} {l : List UInt8} (h : l.length = d.bytes) : (Pixel.ofBytes l).bytes d = l := by
  cases d with
  | bpp24 =>
      obtain ⟨b, g, r, rfl⟩ := List.length_eq_three.1 h
      rfl
  | bpp32 =>
      obtain ⟨b, g, r, a, rfl⟩ : ∃ b g r a, l = [b, g, r, a] := by
        match l, h with
        | [b, g, r, a], _ => exact ⟨b, g, r, a, rfl⟩
      rfl

/-- **An idle operation** leaves every pixel as it is. -/
lemma rasterOperation_idle {p : Pixel} (h : Idle operation p) (q stack : Pixel) :
    rasterOperation operation p q stack = q := by
  rcases h with ⟨rfl | rfl, hb, hg, hr⟩ | ⟨rfl, hb, hg, hr⟩
  · simp [rasterOperation, hb, hg, hr]
  · simp [rasterOperation, hb, hg, hr]
  · have hwhite : (0xFF : UInt8) = -1 := rfl
    simp [rasterOperation, hb, hg, hr, hwhite]

/-- A pixel has the same byte for all its colors. -/
def Pixel.Gray (q : Pixel) (b : UInt8) : Prop := q.b = b ∧ q.g = b ∧ q.r = b

/-- **An operation that is not idle** changes some gray. -/
lemma rasterOperation_changes {p : Pixel} (h : Supported operation) (hidle : ¬Idle operation p) :
    ∃ b : UInt8, ∀ q stack, Pixel.Gray q b → ¬Pixel.Gray (rasterOperation operation p q stack) b := by
  have hwhite : (0xFF : UInt8) = -1 := rfl
  rcases supported_cases h with rfl | rfl | rfl | rfl | rfl | rfl | rfl | rfl | rfl
  · refine ⟨p.b + 1, fun q stack _ hgray => ?_⟩
    have hsame : p.b = p.b + 1 := hgray.1
    simp at hsame
  · refine ⟨0, fun q stack hq hgray => hidle (.inl ⟨.inl rfl, ?_⟩)⟩
    simpa [rasterOperation, Pixel.Gray, hq.1, hq.2.1, hq.2.2, Black] using hgray
  · refine ⟨0xFF, fun q stack hq hgray => hidle (.inr ⟨rfl, ?_⟩)⟩
    simpa [rasterOperation, Pixel.Gray, hq.1, hq.2.1, hq.2.2, White, hwhite] using hgray
  · refine ⟨0, fun q stack hq hgray => hidle (.inl ⟨.inr rfl, ?_⟩)⟩
    simpa [rasterOperation, Pixel.Gray, hq.1, hq.2.1, hq.2.2, Black] using hgray
  all_goals
    refine ⟨0xFF, fun q stack hq hgray => ?_⟩
    obtain ⟨hb, hg, hr⟩ := hgray
    simp only [rasterOperation, hq.1, hq.2.1, hq.2.2] at hb hg hr
    revert hb hg hr
    decide

/-- An operation that not both know: the kernel may make a black of a white, and the server leaves what is on its
stack. -/
lemma operation_unknown (p fbStack : Pixel) {q : Pixel} (h : ¬Supported operation) (hq : Pixel.Gray q 0xFF) :
    (rasterOperation operation p q ⟨0, 0, 0, 0⟩).b = 0 ∧ fbOperation operation p q fbStack = fbStack := by
  rw [Supported] at h
  have hserver : fbOperation operation p q fbStack = fbStack := by
    rw [fbOperation]
    all_goals omega
  by_cases hfour : operation = 4
  · subst hfour
    have hblack : ~~~(0xFF : UInt8) = 0 := rfl
    exact ⟨by simp [rasterOperation, hq.1, hblack], hserver⟩
  · refine ⟨?_, hserver⟩
    rw [rasterOperation]
    all_goals omega

/-! ## The condition -/

/-- A buffer of one byte. -/
def plainCanvas (b : UInt8) : Canvas := ⟨⟨fun _ => b, []⟩, []⟩

lemma plainCanvas_gray (scr : Screen) (b : UInt8) (p : ℕ × ℕ) :
    Pixel.Gray (.ofBytes (bytesAt scr (plainCanvas b) p)) b := by
  rw [bytesAt]
  cases scr.bpp <;> exact ⟨rfl, rfl, rfl⟩

/-- The colors of a pixel are seen in its bytes. -/
lemma gray_of_bytes {p q : Pixel} {d : Depth} {b : UInt8} (hq : Pixel.Gray q b) (h : p.bytes d = q.bytes d) :
    Pixel.Gray p b := by
  cases d with
  | bpp24 =>
      obtain ⟨hb, hg, hr⟩ : p.b = q.b ∧ p.g = q.g ∧ p.r = q.r := by simpa [Pixel.bytes] using h
      exact ⟨hb.trans hq.1, hg.trans hq.2.1, hr.trans hq.2.2⟩
  | bpp32 =>
      obtain ⟨hb, hg, hr, -⟩ : p.b = q.b ∧ p.g = q.g ∧ p.r = q.r ∧ p.a = q.a := by simpa [Pixel.bytes] using h
      exact ⟨hb.trans hq.1, hg.trans hq.2.1, hr.trans hq.2.2⟩

/-- The pixels of the kernel, and those of the server. -/
lemma agree_iff (h : Accepted scr x y width height) (hscr : 0 < scr.width ∧ 0 < scr.height) :
    Agree scr x y width height color ropFlags ↔ ∀ (stack fbStack : Pixel) (c : Canvas),
      ((grid (x % 2 ^ 16) (width % 2 ^ 16) (y % 2 ^ 16)
        (rowCount scr.height (y % 2 ^ 16) (height % 2 ^ 16))).foldl
          (paint scr (kernelPixel ropFlags (color &&& 0xFFFFFF) stack)) c).buffer.cell =
      ((grid (x % 2 ^ 16) (serverLine scr (x % 2 ^ 16) (x % 2 ^ 16 + width % 2 ^ 16)) (y % 2 ^ 16)
        (height % 2 ^ 16)).foldl (paint scr (serverPixel ropFlags (color &&& 0xFFFFFF) fbStack)) c).buffer.cell := by
  refine forall_congr' fun stack => forall_congr' fun fbStack => forall_congr' fun c => ?_
  rw [rectangle_accepted h, rectangle_accepted h, if_pos rfl, if_neg (by decide),
    drawRectangleViaKgws_eq hscr h.1 h.2.1 h.2.2.1 h.2.2.2,
    linesLoop_eq h.1 h.2.1 (Nat.le_add_right _ _) h.2.2.1 h.2.2.2]
  constructor
  · rintro ⟨c₁, c₂, h₁, h₂, hcell⟩
    rwa [Except.ok.inj h₁, Except.ok.inj h₂]
  · exact fun hcell => ⟨_, _, rfl, rfl, hcell⟩

lemma grid_none : grid x 0 y k = [] := by
  rw [grid, List.flatMap_eq_nil_iff]
  exact fun _ _ => rfl

lemma bytesAt_congr (scr : Screen) (h : c₁.buffer.cell = c₂.buffer.cell) (p : ℕ × ℕ) : bytesAt scr c₁ p = bytesAt scr c₂ p :=
  slice_congr fun _ _ _ => by rw [h]

lemma grid_width (hright : x + n ≤ scr.width) : ∀ p ∈ grid x n y k, p.1 < scr.width := fun p hp => by
  have hcolumn := (mem_grid.1 hp).1
  omega

/-- **The condition is enough.** -/
lemma agree_of_condition (h : AgreeCondition scr x y width height color ropFlags) :
    Agree scr x y width height color ropFlags := by
  by_cases haccept : Accepted scr x y width height
  · by_cases hscr : 0 < scr.width ∧ 0 < scr.height
    · rw [agree_iff haccept hscr]
      intro stack fbStack c
      obtain ⟨hw, hh, hright, hbottom⟩ := haccept
      rcases h with h | hnone | hzero | hidle | ⟨hsupported, hline, hcolumn⟩
      · exact absurd ⟨hw, hh, hright, hbottom⟩ h
      · have hserver : serverLine scr (x % 2 ^ 16) (x % 2 ^ 16 + width % 2 ^ 16) = 0 := by
          rw [serverLine]
          omega
        rw [hnone] at hserver ⊢
        rw [hserver, grid_none, grid_none]
        rfl
      · omega
      · rw [cell_foldl_idle fun l hl => ?_, cell_foldl_idle fun l hl => ?_]
        · rw [serverPixel, fbOperation_eq hidle.supported _ _ stack, rasterOperation_idle hidle, bytes_ofBytes hl]
        · rw [kernelPixel, rasterOperation_idle hidle, bytes_ofBytes hl]
      · have hpixel : serverPixel ropFlags (color &&& 0xFFFFFF) fbStack =
            kernelPixel ropFlags (color &&& 0xFFFFFF) stack :=
          funext fun q => fbOperation_eq hsupported _ _ _ _
        have hserver : serverLine scr (x % 2 ^ 16) (x % 2 ^ 16 + width % 2 ^ 16) = width % 2 ^ 16 := by
          rw [serverLine]
          omega
        have hrows : rowCount scr.height (y % 2 ^ 16) (height % 2 ^ 16) = height % 2 ^ 16 := by
          rw [rowCount, if_neg (by omega)]
          omega
        rw [hpixel, hserver, hrows]
    · -- an empty screen: no way draws anything
      intro stack fbStack c
      have hempty : scr.width = 0 ∨ scr.height = 0 := by omega
      refine ⟨c, c, ?_, ?_, rfl⟩
      · rw [rectangle_accepted haccept, if_pos rfl, drawRectangleViaKgws, backbufferDrawRectangle_empty hempty]
      · obtain ⟨hw, hh, hright, hbottom⟩ := haccept
        rw [rectangle_accepted ⟨hw, hh, hright, hbottom⟩, if_neg (by decide),
          linesLoop_eq hw hh (Nat.le_add_right _ _) hright hbottom]
        rcases hempty with hwidth | hheight
        · have hserver : serverLine scr (x % 2 ^ 16) (x % 2 ^ 16 + width % 2 ^ 16) = 0 := by
            rw [serverLine]
            omega
          rw [hserver, grid_none]
          rfl
        · have hlines : height % 2 ^ 16 = 0 := by omega
          rw [hlines]
          rfl
  · exact fun stack fbStack c => ⟨c, c, rectangle_refused haccept TRUE, rectangle_refused haccept FALSE, rfl⟩

/-- **The condition is needed**: there is a pixel that the two ways leave different. -/
lemma condition_of_agree (h : Agree scr x y width height color ropFlags) :
    AgreeCondition scr x y width height color ropFlags := by
  by_contra hnot
  rw [AgreeCondition, not_or, not_or, not_or, not_or, not_not] at hnot
  obtain ⟨haccept, hwidth, hheight, hidle, hkeeps⟩ := hnot
  rw [agree_iff haccept (by unfold Accepted at haccept; omega)] at h
  obtain ⟨hw, hh, hright, hbottom⟩ := haccept
  have hpos := rowCount_pos scr.height (y % 2 ^ 16) (height % 2 ^ 16)
  by_cases hsupported : Supported (ropFlags % 2 ^ 8)
  · -- a pixel that only the kernel paints, in a gray that changes
    obtain ⟨b, hb⟩ := rasterOperation_changes hsupported hidle
    obtain ⟨p, hp, hnot⟩ : ∃ p, p ∈ grid (x % 2 ^ 16) (width % 2 ^ 16) (y % 2 ^ 16)
        (rowCount scr.height (y % 2 ^ 16) (height % 2 ^ 16)) ∧
        p ∉ grid (x % 2 ^ 16) (serverLine scr (x % 2 ^ 16) (x % 2 ^ 16 + width % 2 ^ 16)) (y % 2 ^ 16)
          (height % 2 ^ 16) := by
      refine ⟨(x % 2 ^ 16 + width % 2 ^ 16 - 1, y % 2 ^ 16), mem_grid.2 (by dsimp only; omega), fun hmem => ?_⟩
      have hmem := mem_grid.1 hmem
      rw [serverLine] at hmem
      exact hkeeps ⟨hsupported, by omega, by omega⟩
    have hbytes := bytesAt_congr scr (h ⟨0, 0, 0, 0⟩ ⟨0, 0, 0, 0⟩ (plainCanvas b)) p
    have hcolumn := grid_width hright p hp
    rw [bytesAt_foldl_mem (grid_width hright) (grid_nodup _ _ _ _) hp,
      bytesAt_foldl_notMem (grid_width (by rw [serverLine]; omega)) hcolumn hnot] at hbytes
    have hgray := plainCanvas_gray scr b p
    refine hb _ _ hgray (gray_of_bytes hgray (hbytes.trans (bytes_ofBytes slice_length).symm))
  · -- the first pixel, with a black on one stack and a white on the other
    have hp : (x % 2 ^ 16, y % 2 ^ 16) ∈ grid (x % 2 ^ 16) (width % 2 ^ 16) (y % 2 ^ 16)
        (rowCount scr.height (y % 2 ^ 16) (height % 2 ^ 16)) := mem_grid.2 (by dsimp only; omega)
    have hbytes := bytesAt_congr scr (h ⟨0, 0, 0, 0⟩ ⟨0xFF, 0xFF, 0xFF, 0xFF⟩ (plainCanvas 0xFF))
      (x % 2 ^ 16, y % 2 ^ 16)
    have hgray := plainCanvas_gray scr 0xFF (x % 2 ^ 16, y % 2 ^ 16)
    have hunknown := operation_unknown (.ofColor (color &&& 0xFFFFFF)) ⟨0xFF, 0xFF, 0xFF, 0xFF⟩ hsupported hgray
    have hwhite : Pixel.Gray ⟨0xFF, 0xFF, 0xFF, 0xFF⟩ 0xFF := ⟨rfl, rfl, rfl⟩
    have hblack : ∀ q, Pixel.Gray q 0xFF → ¬(kernelPixel ropFlags (color &&& 0xFFFFFF) ⟨0, 0, 0, 0⟩
        (.ofBytes (bytesAt scr (plainCanvas 0xFF) (x % 2 ^ 16, y % 2 ^ 16)))).bytes scr.bpp = q.bytes scr.bpp := by
      intro q hq heq
      have hsame := (gray_of_bytes hq heq).1
      rw [kernelPixel, hunknown.1] at hsame
      exact absurd hsame (by decide)
    rw [bytesAt_foldl_mem (grid_width hright) (grid_nodup _ _ _ _) hp] at hbytes
    by_cases hmem : (x % 2 ^ 16, y % 2 ^ 16) ∈ grid (x % 2 ^ 16)
        (serverLine scr (x % 2 ^ 16) (x % 2 ^ 16 + width % 2 ^ 16)) (y % 2 ^ 16) (height % 2 ^ 16)
    · rw [bytesAt_foldl_mem (grid_width (by rw [serverLine]; omega)) (grid_nodup _ _ _ _) hmem, serverPixel,
        hunknown.2] at hbytes
      exact hblack _ hwhite hbytes
    · rw [bytesAt_foldl_notMem (grid_width (by rw [serverLine]; omega)) (grid_width hright _ hp) hmem] at hbytes
      exact hblack _ hgray (hbytes.trans (bytes_ofBytes slice_length).symm)

end

/-- **For which arguments both ways agree.** -/
theorem rectangles_iff (scr : Screen) (x y width height : ℕ) (color : UInt32) (ropFlags : ℕ) :
    Agree scr x y width height color ropFlags ↔ AgreeCondition scr x y width height color ropFlags :=
  ⟨condition_of_agree, agree_of_condition⟩

/-- **A line across the screen**: the server leaves out its last column. -/
theorem rectangles_fail : ¬∀ (scr : Screen) (x y width height : ℕ) (color : UInt32) (ropFlags : ℕ),
    Agree scr x y width height color ropFlags := by
  intro hall
  have hcondition := condition_of_agree (hall .svga 0 0 800 1 0 0)
  rcases hcondition with hrefused | hwidth | hheight | hidle | ⟨-, -, hcolumn⟩
  · exact hrefused ⟨by decide, by decide, by decide, by decide⟩
  · exact absurd hwidth (by decide)
  · exact absurd hheight (by decide)
  · rcases hidle with ⟨hoperation, -⟩ | ⟨hoperation, -⟩
    · exact absurd hoperation (by decide)
    · exact absurd hoperation (by decide)
  · exact absurd hcolumn (by decide)

end Gramado.Gws
