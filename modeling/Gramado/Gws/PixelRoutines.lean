import Gramado.Core.CStrings
import Gramado.Gws.BackbufferRectangle

/-!
# Three routines for a pixel

`bldisp_putpixel0` of the kernel, and the `putpixel0` and `fb_BackBufferPutpixel` of `libs/libdisp/libdisp.c`, on a
display of any size: the back buffer may be larger than the 2 MB of a `Screen`.  `grBackBufferGetPixelColor` reads
the pixel.

* `pixelRoutines_iff` — where the three agree: for the operations that all know, and in the first 2 MB.
* `Screen.bldispPutpixel0_display` — on a `Screen`, the kernel's routine is the one of its rectangles.
-/

namespace Gramado

open Memory Clib

/-- A display.  Its sizes come from fields of 16 bits; the library does not start on an empty one. -/
structure Display where
  width : ℕ
  height : ℕ
  bpp : Depth
  width_lt : width < 2 ^ 16
  height_lt : height < 2 ^ 16

/-- A screen that the buffers hold is a display. -/
def Screen.display (scr : Screen) : Display := ⟨scr.width, scr.height, scr.bpp, scr.width_lt, scr.height_lt⟩

namespace Display

/-! ## The code -/

section Code

variable (d : Display)

/-- Where a pixel is. -/
def place (x y : ℕ) : ℕ := d.bpp.bytes * (d.width * y + x)

/-- The offset of a pixel, an `int`: `bytes_count` times the width and `y`, and `bytes_count` times `x`. -/
def intOffset (x y : ℤ) : Except Undefined ℤ := do
  let row ← intResult (d.bpp.bytes * (d.width % 2 ^ 16 : ℕ) * y)
  let column ← intResult (d.bpp.bytes * x)
  intResult (row + column)

/-- The bytes from `offset` on are changed as the operation says. -/
def modify (operation : Pixel → Pixel) (offset : ℤ) (p : ℕ × ℕ) (c : Canvas) : Canvas :=
  let (old, m) := c.buffer.load offset d.bpp.bytes
  ⟨m.store offset ((operation (.ofBytes old)).bytes d.bpp), c.pixels ++ [p]⟩

/-- Both `putpixel0`, with the operations as a parameter; the buffer is there. -/
def putpixel (operation : Pixel → Pixel) (x y : ℕ) (c : Canvas) : Except Undefined (ℤ × Canvas) := do
  let x : ℕ := x % 2 ^ 16
  let y : ℕ := y % 2 ^ 16
  let offset ← intOffset d x y
  .ok (1, d.modify operation offset (x, y) c)

/-- `bldisp_putpixel0`. -/
def bldispPutpixel0 (stack : Pixel) (color : UInt32) (x y ropFlags : ℕ) (c : Canvas) :
    Except Undefined (ℤ × Canvas) :=
  d.putpixel (fun q => rasterOperation (ropFlags % 2 ^ 8) (.ofColor color) q stack) x y c

/-- `putpixel0`. -/
def putpixel0 (stack : Pixel) (color : UInt32) (x y ropFlags : ℕ) (c : Canvas) : Except Undefined (ℤ × Canvas) :=
  d.putpixel (fun q => Gws.fbOperation (ropFlags % 2 ^ 8) (.ofColor color) q stack) x y c

/-- `fb_BackBufferPutpixel`. -/
def fbBackBufferPutpixel (stack : Pixel) (color : UInt32) (x y : ℤ) (rop : ℕ) (c : Canvas) :
    Except Gws.Stopped (ℤ × Canvas) :=
  let deviceWidth : ℕ := d.width % 2 ^ 16
  let deviceHeight : ℕ := d.height % 2 ^ 16
  if x < 0 ∨ y < 0 ∨ x ≥ deviceWidth ∨ y ≥ deviceHeight then .ok (0, c)
  else
    let x := (x % 2 ^ 16).toNat
    let y := (y % 2 ^ 16).toNat
    let tmpOffset := deviceWidth * d.bpp.bytes * y + x * d.bpp.bytes
    if tmpOffset ≥ 0x00200000 then .error (.exited 1)
    else
      .ok (1, d.modify (fun q => Gws.fbOperation (rop % 2 ^ 8) (.ofColor color) q stack) tmpOffset (x, y) c)

/-- `grBackBufferGetPixelColor`; `a` is what is in its variable of that name, which is read at 32 bits only. -/
def grBackBufferGetPixelColor (a : UInt8) (x y : ℤ) (c : Canvas) : Except Undefined UInt32 :=
  if x < 0 then .ok 0
  else if y < 0 then .ok 0
  else do
    let offset ← intOffset d x y
    let q := Pixel.ofBytes (c.buffer.load offset d.bpp.bytes).1
    let a := if d.bpp = .bpp32 then q.a else a
    .ok (UInt32.ofNat (q.b.toNat + 2 ^ 8 * q.g.toNat + 2 ^ 16 * q.r.toNat + 2 ^ 24 * a.toNat))

end Code

end Display

/-! ## The buffers of the kernel -/

variable {d : Display} {scr : Screen} {stack p q : Pixel} {color : UInt32} {x y rop : ℕ} {c : Canvas} {a : UInt8}

/-- **Offsets in the first gigabyte** are an `int`. -/
lemma Display.intOffset_eq (hoffset : d.place x y < 2 ^ 30) : d.intOffset x y = .ok (d.place x y) := by
  have hwidth : d.width % 2 ^ 16 = d.width := Nat.mod_eq_of_lt d.width_lt
  have hsum : d.place x y = d.bpp.bytes * d.width * y + d.bpp.bytes * x := by
    rw [place]
    ring
  have hrow : (d.bpp.bytes * (d.width : ℕ) * y : ℤ) = (d.bpp.bytes * d.width * y : ℕ) := by push_cast; rfl
  have hcolumn : (d.bpp.bytes * x : ℤ) = (d.bpp.bytes * x : ℕ) := by push_cast; rfl
  have hint : ∀ n : ℕ, n < 2 ^ 30 → intResult n = .ok n := fun n hn =>
    intResult_ok (by rw [INT_MIN]; omega) (by rw [INT_MAX]; omega)
  rw [hsum] at hoffset ⊢
  rw [intOffset, hwidth, hrow, hcolumn, hint _ (by omega), ok_bind, hint _ (by omega), ok_bind]
  rw [← Nat.cast_add, hint _ hoffset]

lemma Screen.place_display : scr.display.place x y = scr.offset x y := by
  rw [Display.place, offset, Nat.mod_eq_of_lt scr.width_lt]
  simp only [display]
  ring

/-- **On a screen that the buffers hold**, the kernel's routine is the one that draws its rectangles. -/
theorem Screen.bldispPutpixel0_display (hx : x < scr.width) (hy : y < scr.height) :
    scr.display.bldispPutpixel0 stack color x y rop c = .ok (Gramado.bldispPutpixel0 scr stack color x y rop c) := by
  have hoffset := scr.offset_le hx hy
  have hsize : BUFFER_SIZE = 2 ^ 21 := rfl
  have hx' : x % 2 ^ 16 = x := Nat.mod_eq_of_lt (hx.trans scr.width_lt)
  have hy' : y % 2 ^ 16 = y := Nat.mod_eq_of_lt (hy.trans scr.height_lt)
  rw [Display.bldispPutpixel0, Display.putpixel]
  rw [hx', hy', Display.intOffset_eq (by rw [place_display]; omega), ok_bind, place_display, Gramado.bldispPutpixel0]
  simp only [hx', hy']
  rfl

/-! ## What should hold -/

/-- The operations that one of the routines knows: the kernel has number 4 besides. -/
def KnownOperation (operation : ℕ) : Prop := Gws.Supported operation ∨ operation = 4

/-- The three routines did the same to the pixel and nothing to others; the color that was plotted is read back. -/
structure SamePixel (d : Display) (x y : ℕ) (color : UInt32) (rop : ℕ) (a : UInt8) (c c₁ c₂ c₃ : Canvas) :
    Prop where
  agree : c₁.buffer.cell = c₂.buffer.cell ∧ c₂.buffer.cell = c₃.buffer.cell
  frame : ∀ i : ℤ, i < d.place x y ∨ d.place x y + d.bpp.bytes ≤ i → c₁.buffer.cell i = c.buffer.cell i
  unknown : ¬KnownOperation (rop % 2 ^ 8) → c₁.buffer.cell = c.buffer.cell
  readBack : rop % 2 ^ 8 = 0 → ∃ v, d.grBackBufferGetPixelColor a x y c₁ = .ok v ∧ v.toNat % 2 ^ 24 = color.toNat % 2 ^ 24

/-- **The routines agree**, whatever is in the buffer and on the three stacks. -/
def RoutinesAgree (d : Display) (x y : ℕ) (color : UInt32) (rop : ℕ) : Prop :=
  ∀ (kernelStack stack fbStack : Pixel) (a : UInt8) (c : Canvas), ∃ c₁ c₂ c₃,
    d.bldispPutpixel0 kernelStack color x y rop c = .ok (1, c₁) ∧
    d.putpixel0 stack color x y rop c = .ok (1, c₂) ∧
    d.fbBackBufferPutpixel fbStack color x y rop c = .ok (1, c₃) ∧
    SamePixel d x y color rop a c c₁ c₂ c₃

/-! ## One pixel -/

namespace Display

variable {operation : Pixel → Pixel} {offset : ℤ} {pos : ℕ × ℕ}

/-- A pixel that is changed keeps the bytes of the others. -/
lemma modify_frame {i : ℤ} (h : i < offset ∨ offset + d.bpp.bytes ≤ i) :
    (d.modify operation offset pos c).buffer.cell i = c.buffer.cell i := by
  refine store_cell_outside ?_
  rw [Pixel.length_bytes]
  exact h

lemma modify_slice : (d.modify operation offset pos c).buffer.slice offset d.bpp.bytes
    = (operation (.ofBytes (c.buffer.slice offset d.bpp.bytes))).bytes d.bpp :=
  slice_store_same (Pixel.length_bytes _ _)

/-- The first byte is the blue one. -/
lemma modify_blue : (d.modify operation offset pos c).buffer.cell offset
    = (operation (.ofBytes (c.buffer.slice offset d.bpp.bytes))).b := by
  have hslice : ((d.modify operation offset pos c).buffer.slice offset d.bpp.bytes).head?
      = ((operation (.ofBytes (c.buffer.slice offset d.bpp.bytes))).bytes d.bpp).head? :=
    congrArg List.head? modify_slice
  generalize operation (.ofBytes (c.buffer.slice offset d.bpp.bytes)) = q at hslice ⊢
  cases hbpp : d.bpp with
  | bpp24 => simpa [hbpp, Depth.bytes, slice, List.range_succ, Pixel.bytes] using hslice
  | bpp32 => simpa [hbpp, Depth.bytes, slice, List.range_succ, Pixel.bytes] using hslice

/-- The routines with an `int` for the offset, in the first gigabyte. -/
lemma putpixel_eq (hx : x < d.width) (hy : y < d.height) (hoffset : d.place x y < 2 ^ 30) :
    d.putpixel operation x y c = .ok (1, d.modify operation (d.place x y) (x, y) c) := by
  have hx' : x % 2 ^ 16 = x := Nat.mod_eq_of_lt (hx.trans d.width_lt)
  have hy' : y % 2 ^ 16 = y := Nat.mod_eq_of_lt (hy.trans d.height_lt)
  rw [putpixel, hx', hy', intOffset_eq hoffset, ok_bind]

/-- What it means that they come back. -/
lemma putpixel_inv {k : ℤ} {c' : Canvas} (h : d.putpixel operation x y c = .ok (k, c')) :
    ∃ offset, d.intOffset (x % 2 ^ 16 : ℕ) (y % 2 ^ 16 : ℕ) = .ok offset ∧
      c' = d.modify operation offset (x % 2 ^ 16, y % 2 ^ 16) c := by
  obtain ⟨offset, hoffset, hcall⟩ := bind_eq_ok h
  exact ⟨offset, hoffset, (Prod.mk.inj (Except.ok.inj hcall)).2.symm⟩

/-- The routine with the limit, on the display. -/
lemma fbBackBufferPutpixel_eq (hx : x < d.width) (hy : y < d.height) :
    d.fbBackBufferPutpixel stack color x y rop c =
      if d.place x y ≥ 0x00200000 then .error (.exited 1)
      else .ok (1, d.modify (fun q => Gws.fbOperation (rop % 2 ^ 8) (.ofColor color) q stack) (d.place x y)
        (x, y) c) := by
  have hplace : d.width * d.bpp.bytes * y + x * d.bpp.bytes = d.place x y := by
    rw [place]
    ring
  have hx' : ((x : ℤ) % 2 ^ 16).toNat = x := by have := d.width_lt; omega
  have hy' : ((y : ℤ) % 2 ^ 16).toNat = y := by have := d.height_lt; omega
  rw [fbBackBufferPutpixel]
  simp only [Nat.mod_eq_of_lt d.width_lt, Nat.mod_eq_of_lt d.height_lt]
  rw [if_neg (by omega), hx', hy', hplace]

end Display

/-! ## The color -/

lemma ofColor_b (color : UInt32) : (Pixel.ofColor color).b.toNat = color.toNat % 2 ^ 8 := by
  simp only [Pixel.ofColor, UInt32.toNat_toUInt8, UInt32.toNat_and]
  rw [show (0xFF : UInt32).toNat = 2 ^ 8 - 1 from rfl, Nat.and_two_pow_sub_one_eq_mod, Nat.mod_mod]

lemma ofColor_g (color : UInt32) : (Pixel.ofColor color).g.toNat = color.toNat / 2 ^ 8 % 2 ^ 8 := by
  simp only [Pixel.ofColor, UInt32.toNat_toUInt8, UInt32.toNat_shiftRight, UInt32.toNat_and]
  rw [show (8 : UInt32).toNat % 32 = 8 from rfl, Nat.shiftRight_and_distrib,
    show (0xFF00 : UInt32).toNat >>> 8 = 2 ^ 8 - 1 from rfl, Nat.and_two_pow_sub_one_eq_mod, Nat.mod_mod,
    Nat.shiftRight_eq_div_pow]

lemma ofColor_r (color : UInt32) : (Pixel.ofColor color).r.toNat = color.toNat / 2 ^ 16 % 2 ^ 8 := by
  simp only [Pixel.ofColor, UInt32.toNat_toUInt8, UInt32.toNat_shiftRight, UInt32.toNat_and]
  rw [show (16 : UInt32).toNat % 32 = 16 from rfl, Nat.shiftRight_and_distrib,
    show (0xFF0000 : UInt32).toNat >>> 16 = 2 ^ 8 - 1 from rfl, Nat.and_two_pow_sub_one_eq_mod, Nat.mod_mod,
    Nat.shiftRight_eq_div_pow]

/-- A pixel that stands in the buffer is read. -/
lemma Display.getPixelColor_eq (hoffset : d.place x y < 2 ^ 30)
    (hslice : c.buffer.slice (d.place x y) d.bpp.bytes = (Pixel.ofColor color).bytes d.bpp) :
    ∃ v, d.grBackBufferGetPixelColor a x y c = .ok v ∧ v.toNat % 2 ^ 24 = color.toNat % 2 ^ 24 := by
  rw [grBackBufferGetPixelColor, if_neg (by omega), if_neg (by omega), intOffset_eq hoffset, ok_bind]
  dsimp only
  rw [load_fst, hslice]
  refine ⟨_, rfl, ?_⟩
  have hb := ofColor_b color
  have hg := ofColor_g color
  have hr := ofColor_r color
  generalize (if d.bpp = .bpp32 then (Pixel.ofBytes ((Pixel.ofColor color).bytes d.bpp)).a else a) = alpha
  have hcolors : (Pixel.ofBytes ((Pixel.ofColor color).bytes d.bpp)).b = (Pixel.ofColor color).b ∧
      (Pixel.ofBytes ((Pixel.ofColor color).bytes d.bpp)).g = (Pixel.ofColor color).g ∧
      (Pixel.ofBytes ((Pixel.ofColor color).bytes d.bpp)).r = (Pixel.ofColor color).r := by
    cases d.bpp <;> exact ⟨rfl, rfl, rfl⟩
  rw [hcolors.1, hcolors.2.1, hcolors.2.2, UInt32.toNat_ofNat', hb, hg, hr]
  have halpha := alpha.toNat_lt
  omega

/-! ## The condition -/

/-- The routines agree on an operation that all know, in the first 2 MB. -/
lemma routines_agree (hx : x < d.width) (hy : y < d.height) (hknown : Gws.Supported (rop % 2 ^ 8))
    (hplace : d.place x y < 0x00200000) : RoutinesAgree d x y color rop := by
  intro kernelStack stack fbStack a c
  have hoffset : d.place x y < 2 ^ 30 := hplace.trans (by norm_num)
  have hsame : ∀ s q, Gws.fbOperation (rop % 2 ^ 8) (.ofColor color) q s
      = rasterOperation (rop % 2 ^ 8) (.ofColor color) q kernelStack := fun s q => Gws.fbOperation_eq hknown _ _ _ _
  refine ⟨_, _, _, Display.putpixel_eq hx hy hoffset, Display.putpixel_eq hx hy hoffset,
    (Display.fbBackBufferPutpixel_eq hx hy).trans (if_neg (by omega)), ?_⟩
  simp only [hsame]
  exact {
    agree := ⟨rfl, rfl⟩
    frame := fun i hi => Display.modify_frame hi
    unknown := fun hunknown => absurd (Or.inl hknown) hunknown
    readBack := fun hzero => by
      refine Display.getPixelColor_eq hoffset ?_
      rw [Display.modify_slice, hzero]
      rfl }

/-- They agree on no other, and nowhere else. -/
lemma routines_agree_inv (hx : x < d.width) (hy : y < d.height) (h : RoutinesAgree d x y color rop) :
    Gws.Supported (rop % 2 ^ 8) ∧ d.place x y < 0x00200000 := by
  -- the stacks differ, and the buffer is white
  obtain ⟨c₁, c₂, c₃, hkernel, hserver, hfb, hsame⟩ :=
    h ⟨0, 0, 0, 0⟩ ⟨1, 1, 1, 1⟩ ⟨1, 1, 1, 1⟩ 0 (Gws.plainCanvas 0xFF)
  rw [Display.fbBackBufferPutpixel_eq hx hy] at hfb
  refine ⟨?_, ?_⟩
  · by_contra hunknown
    obtain ⟨offset, hoffset, rfl⟩ := Display.putpixel_inv hkernel
    obtain ⟨offset', hoffset', rfl⟩ := Display.putpixel_inv hserver
    obtain rfl := Except.ok.inj (hoffset.symm.trans hoffset')
    have hwhite : Gws.Pixel.Gray (.ofBytes ((Gws.plainCanvas 0xFF).buffer.slice offset d.bpp.bytes)) 0xFF := by
      cases d.bpp <;> exact ⟨rfl, rfl, rfl⟩
    obtain ⟨hblack, hstack⟩ :=
      Gws.operation_unknown (.ofColor color) ⟨1, 1, 1, 1⟩ hunknown hwhite
    have hblue := congrFun hsame.agree.1 offset
    rw [Display.modify_blue, Display.modify_blue, hblack, hstack] at hblue
    exact absurd hblue (by decide)
  · by_contra hfar
    rw [if_pos (by omega)] at hfb
    cases hfb

/-- **The routines agree** if and only if all know the operation and the pixel begins in the first 2 MB. -/
theorem pixelRoutines_iff (d : Display) (x y : ℕ) (color : UInt32) (rop : ℕ) (hx : x < d.width)
    (hy : y < d.height) :
    RoutinesAgree d x y color rop ↔ Gws.Supported (rop % 2 ^ 8) ∧ d.place x y < 0x00200000 :=
  ⟨routines_agree_inv hx hy, fun h => routines_agree hx hy h.1 h.2⟩

theorem pixelRoutines_iff_svga :
    (0 < Screen.svga.display.width ∧ 0 < Screen.svga.display.height) ∧
      (RoutinesAgree Screen.svga.display 0 0 0xFF 3 ↔
        Gws.Supported (3 % 2 ^ 8) ∧ Screen.svga.display.place 0 0 < 0x00200000) :=
  ⟨by decide, pixelRoutines_iff Screen.svga.display 0 0 0xFF 3 (by decide) (by decide)⟩

/-- Operation 4 is known to the kernel alone. -/
theorem pixelRoutines_fail : ¬∀ (d : Display) (x y : ℕ) (color : UInt32) (rop : ℕ), x < d.width → y < d.height →
    RoutinesAgree d x y color rop := by
  intro h
  have hknown := (routines_agree_inv (by decide) (by decide)
    (h Screen.svga.display 0 0 0 4 (by decide) (by decide))).1
  unfold Gws.Supported at hknown
  omega

end Gramado
