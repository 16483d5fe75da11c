import Gramado.Lib.Memory
import Gramado.Core.CTypes

/-!
# The screen and its buffers

The screen is drawn in a back buffer, pixel by pixel, and parts of that are copied to the front
buffer.  Both buffers are a large page of 2 MB; addresses are offsets from their starts.
`bldisp_putpixel0` puts one pixel.
-/

namespace Gramado

open Memory

/-- `gSavedBPP`, for the two depths at which a pixel can be put. -/
inductive Depth where
  | bpp24
  | bpp32
  deriving DecidableEq

/-- `bytes_count`. -/
def Depth.bytes : Depth → ℕ
  | .bpp24 => 3
  | .bpp32 => 4

/-- The size of a buffer. -/
def BUFFER_SIZE : ℕ := 2 * 1024 * 1024

/-- A screen that the buffers hold.  `gSavedX` and `screen_width` are its width, `gSavedY` and
`screen_height` its height; the boot loader has them from fields of 16 bits. -/
structure Screen where
  width : ℕ
  height : ℕ
  bpp : Depth
  width_lt : width < 2 ^ 16
  height_lt : height < 2 ^ 16
  fits : bpp.bytes * (width * height) ≤ BUFFER_SIZE

/-- A screen of 800 by 600 pixels. -/
def Screen.svga : Screen where
  width := 800
  height := 600
  bpp := .bpp24
  width_lt := by decide
  height_lt := by decide
  fits := by decide

/-- The bytes of a color. -/
structure Pixel where
  b : UInt8
  g : UInt8
  r : UInt8
  a : UInt8

/-- The color of an argument. -/
def Pixel.ofColor (color : UInt32) : Pixel where
  b := (color &&& 0xFF).toUInt8
  g := ((color &&& 0xFF00) >>> 8).toUInt8
  r := ((color &&& 0xFF0000) >>> 16).toUInt8
  a := ((color >>> 24) + 1).toUInt8

/-- What a pixel `q` becomes under a raster operation with the color `p`.  An operation without a
number here leaves the result as it was on the stack. -/
def rasterOperation (operation : ℕ) (p q stack : Pixel) : Pixel :=
  match operation with
  | 0 => p
  | 1 => { b := q.b ||| p.b, g := q.g ||| p.g, r := q.r ||| p.r, a := q.a }
  | 2 => { b := q.b &&& p.b, g := q.g &&& p.g, r := q.r &&& p.r, a := q.a }
  | 3 => { b := q.b ^^^ p.b, g := q.g ^^^ p.g, r := q.r ^^^ p.r, a := q.a }
  | 4 => { b := ~~~q.b &&& p.b, g := ~~~q.g &&& p.g, r := ~~~q.r &&& p.r, a := q.a }
  | 10 => { q with r := q.r &&& 0xFE }
  | 11 => { q with g := q.g &&& 0xFE }
  | 12 => { q with b := q.b &&& 0xFE }
  | 20 => { b := q.b &&& 0x80, g := q.g &&& 0x80, r := q.r &&& 0x80, a := q.a }
  | 21 => { q with r := q.r &&& 0x00 }
  | _ => stack

/-- The bytes of a pixel in a buffer. -/
def Pixel.bytes (p : Pixel) : Depth → List UInt8
  | .bpp24 => [p.b, p.g, p.r]
  | .bpp32 => [p.b, p.g, p.r, p.a]

/-- A pixel from its bytes in a buffer. -/
def Pixel.ofBytes (l : List UInt8) : Pixel := ⟨l.getD 0 0, l.getD 1 0, l.getD 2 0, l.getD 3 0⟩

/-- A buffer, and the pixels put into it, one after the other. -/
structure Canvas where
  buffer : Memory UInt8
  pixels : List (ℕ × ℕ)

/-- Where a pixel is in a buffer. -/
def Screen.offset (scr : Screen) (x y : ℕ) : ℕ :=
  scr.bpp.bytes * (scr.width % 2 ^ 16) * y + scr.bpp.bytes * x

/-- `bldisp_putpixel0`; `stack` is what is in its variables for the result. -/
def bldispPutpixel0 (scr : Screen) (stack : Pixel) (color : UInt32) (x y ropFlags : ℕ)
    (c : Canvas) : ℤ × Canvas :=
  let x := x % 2 ^ 16
  let y := y % 2 ^ 16
  let offset := scr.offset x y
  let (old, m) := c.buffer.load offset scr.bpp.bytes
  let p := rasterOperation (ropFlags % 2 ^ 8) (.ofColor color) (.ofBytes old) stack
  (1, ⟨m.store offset (p.bytes scr.bpp), c.pixels ++ [(x, y)]⟩)

/-! ## Pixels of a screen -/

@[simp] lemma Pixel.length_bytes (p : Pixel) (d : Depth) : (p.bytes d).length = d.bytes := by
  cases d <;> rfl

/-- A pixel of the screen is in the buffer. -/
lemma Screen.offset_le (scr : Screen) {x y : ℕ} (hx : x < scr.width) (hy : y < scr.height) :
    scr.offset x y + scr.bpp.bytes ≤ BUFFER_SIZE := by
  refine le_trans ?_ scr.fits
  have hrow : scr.width * (y + 1) ≤ scr.width * scr.height := Nat.mul_le_mul_left _ hy
  calc scr.offset x y + scr.bpp.bytes = scr.bpp.bytes * (scr.width * y + x + 1) := by
        rw [offset, Nat.mod_eq_of_lt scr.width_lt]
        ring
    _ ≤ scr.bpp.bytes * (scr.width * scr.height) := by
        refine Nat.mul_le_mul_left _ ?_
        rw [Nat.mul_add, Nat.mul_one] at hrow
        omega

/-- A pixel that is put uses the bytes of its place. -/
lemma bldispPutpixel0_uses {scr : Screen} {stack : Pixel} {color : UInt32} {x y ropFlags : ℕ}
    {c : Canvas} {hi : ℤ}
    (hle : scr.offset (x % 2 ^ 16) (y % 2 ^ 16) + scr.bpp.bytes ≤ hi) :
    UsesWithin c.buffer (bldispPutpixel0 scr stack color x y ropFlags c).2.buffer 0 hi := by
  have hload : UsesWithin c.buffer (c.buffer.load (scr.offset (x % 2 ^ 16) (y % 2 ^ 16))
      scr.bpp.bytes).2 0 hi := by
    refine ⟨⟨[(_, _)], rfl, fun t ht => ?_⟩, fun _ _ => rfl⟩
    obtain rfl := List.mem_singleton.1 ht
    exact ⟨Int.natCast_nonneg _, hle⟩
  refine hload.trans (usesWithin_store (Int.natCast_nonneg _) ?_)
  rw [Pixel.length_bytes]
  exact hle

end Gramado
