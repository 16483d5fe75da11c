import Gramado.Core.Kinguio

/-!
# Pictures

`bmpDisplayBMP` of `adam/gram3d/demo00/bmp.c`.  A file is the list of its bytes; what goes to
`libdisp_backbuffer_putpixel` is kept in its order.

The low byte of the offset in the header is taken for the start of the palette; the rows are read without what fills
them up; the half of a byte at which a picture of 4 bits ended is where the next one starts; and the last row of the
file goes to the row below the picture.

* `bmpDisplay_ok_iff` — for which files no byte outside is read.
* `bmpDisplay_iff` — for which files the picture is drawn.
-/

namespace Gramado.Gws

open Clib

/-! ## The code -/

/-- A call of `libdisp_backbuffer_putpixel`. -/
structure Put where
  x : ℕ
  y : ℕ
  color : UInt32

/-- `BMP_CHANGE_COLOR_NULL`. -/
def BMP_CHANGE_COLOR_NULL : ℤ := 0

/-- `BMP_CHANGE_COLOR_TRANSPARENT`. -/
def BMP_CHANGE_COLOR_TRANSPARENT : ℤ := 1000

/-- `BMP_CHANGE_COLOR_SUBSTITUTE`. -/
def BMP_CHANGE_COLOR_SUBSTITUTE : ℤ := 2000

/-- `bmp_change_color_flag`, `bmp_selected_color` and `bmp_substitute_color`. -/
structure ColorChange where
  flag : ℤ
  selected : UInt32
  substitute : UInt32

/-- A byte of the file. -/
def bmpByte (bmp : List UInt8) (offset : ℤ) : Except Undefined UInt8 :=
  if 0 ≤ offset ∧ offset < bmp.length then .ok (bmp.getD offset.toNat 0) else .error .badPointer

/-- An `unsigned short` of the file. -/
def bmpShort (bmp : List UInt8) (offset : ℤ) : Except Undefined UInt16 := do
  let b₀ ← bmpByte bmp offset
  let b₁ ← bmpByte bmp (offset + 1)
  return b₀.toUInt16 ||| (b₁.toUInt16 <<< 8)

/-- The number with the bytes, the lowest one first. -/
def colorOf (b₀ b₁ b₂ b₃ : UInt8) : UInt32 :=
  b₀.toUInt32 ||| (b₁.toUInt32 <<< 8) ||| (b₂.toUInt32 <<< 16) ||| (b₃.toUInt32 <<< 24)

/-- An `unsigned int` of the file. -/
def bmpInt (bmp : List UInt8) (offset : ℤ) : Except Undefined UInt32 := do
  let b₀ ← bmpByte bmp offset
  let b₁ ← bmpByte bmp (offset + 1)
  let b₂ ← bmpByte bmp (offset + 2)
  let b₃ ← bmpByte bmp (offset + 3)
  return colorOf b₀ b₁ b₂ b₃

/-- `base`, `nibble_count_16colors`, `color`, and the pixels so far. -/
structure Decoder where
  base : ℤ
  nibble : ℤ
  color : UInt32
  puts : List Put

/-- A pixel of `bitCount` bits; `palette` is where the palette is. -/
def decodePixel (bmp : List UInt8) (palette : ℤ) (bitCount : ℕ) (s : Decoder) : Except Undefined Decoder :=
  match bitCount with
  | 4 => do
      let index ← bmpByte bmp s.base
      if s.nibble = 2222 then
        let color ← bmpInt bmp (palette + 4 * (index &&& 0x0F).toNat)
        let base ← intResult (s.base + 1)
        return { s with base := base, nibble := 0, color := color }
      else
        let color ← bmpInt bmp (palette + 4 * ((index >>> 4) &&& 0x0F).toNat)
        return { s with nibble := 2222, color := color }
  | 8 => do
      let index ← bmpByte bmp s.base
      let color ← bmpInt bmp (palette + 4 * index.toNat)
      let base ← intResult (s.base + 1)
      return { s with base := base, color := color }
  | 16 => do
      let b₀ ← bmpByte bmp s.base
      let b₁ ← bmpByte bmp (s.base + 1)
      let base ← intResult (s.base + 2)
      return { s with base := base, color := colorOf 0 (b₀ &&& 0xF8) ((b₀ &&& 0x07) ||| (b₁ &&& 0xE0)) (b₁ &&& 0x1F) }
  | 24 => do
      let b₀ ← bmpByte bmp s.base
      let b₁ ← bmpByte bmp (s.base + 1)
      let b₂ ← bmpByte bmp (s.base + 2)
      let base ← intResult (s.base + 3)
      return { s with base := base, color := colorOf b₀ b₁ b₂ 0 }
  | 32 => do
      let b₀ ← bmpByte bmp s.base
      let b₁ ← bmpByte bmp (s.base + 1)
      let b₂ ← bmpByte bmp (s.base + 2)
      let _ ← bmpByte bmp (s.base + 3)
      let base ← intResult (s.base + 4)
      return { s with base := base, color := colorOf b₀ b₁ b₂ 0 }
  | _ => return s

/-- The switch at the end of a pixel. -/
def putPixel (change : ColorChange) (left bottom : ℕ) (s : Decoder) : Decoder :=
  if change.flag = BMP_CHANGE_COLOR_TRANSPARENT then
    if s.color ≠ change.selected then { s with puts := s.puts ++ [⟨left, bottom, s.color⟩] } else s
  else if change.flag = BMP_CHANGE_COLOR_SUBSTITUTE then
    if s.color = change.selected then { s with puts := s.puts ++ [⟨left, bottom, change.substitute⟩] }
    else { s with puts := s.puts ++ [⟨left, bottom, s.color⟩] }
  else { s with puts := s.puts ++ [⟨left, bottom, s.color⟩] }

/-- A row, `n` pixels from `left` on. -/
def decodeRow (bmp : List UInt8) (palette : ℤ) (bitCount : ℕ) (change : ColorChange) (bottom : ℕ) :
    ℕ → ℕ → Decoder → Except Undefined Decoder
  | 0, _, s => .ok s
  | n + 1, left, s => do
      let s ← decodePixel bmp palette bitCount s
      decodeRow bmp palette bitCount change bottom n ((left + 1) % 2 ^ 32) (putPixel change left bottom s)

/-- The rows, `n` of them from `bottom` up; `bottom` is an `unsigned int`. -/
def decodeRows (bmp : List UInt8) (palette : ℤ) (bitCount : ℕ) (change : ColorChange) (left width : ℕ) :
    ℕ → ℕ → Decoder → Except Undefined Decoder
  | 0, _, s => .ok s
  | n + 1, bottom, s => do
      let s ← decodeRow bmp palette bitCount change bottom width left s
      decodeRows bmp palette bitCount change left width n ((bottom + (2 ^ 32 - 1)) % 2 ^ 32) s

/-- The start of the data area, behind a palette of the full size. -/
def dataBase (offsetForBase : ℤ) (bitCount : ℕ) : ℤ :=
  match bitCount with
  | 1 => offsetForBase + 8
  | 4 => offsetForBase + 64
  | 8 => offsetForBase + 1024
  | 16 => offsetForBase + 65536
  | _ => offsetForBase

/-- `bmpDisplayBMP` for a file that is there: the result, `nibble_count_16colors`, and the pixels. -/
def bmpDisplayBMP (bmp : List UInt8) (x y : ℕ) (change : ColorChange) (nibble : ℤ) :
    Except Undefined (ℤ × ℤ × List Put) :=
  if x > 800 ∨ y > 600 then .ok (1, nibble, [])
  else do
    let _sig ← bmpShort bmp 0
    let b₀ ← bmpByte bmp 0
    let b₁ ← bmpByte bmp 1
    if b₀ ≠ charByte 'B' ∨ b₁ ≠ charByte 'M' then return (1, nibble, [])
    let _size ← bmpInt bmp 2
    let offBits ← bmpInt bmp 10
    let offsetForBase : ℤ := (offBits &&& 0xFF).toNat
    let _headerSize ← bmpInt bmp 14
    let width ← bmpInt bmp 18
    let height ← bmpInt bmp 22
    let bitCount ← bmpShort bmp 28
    let left := x % 2 ^ 16
    let top := y % 2 ^ 16
    let bmpWidth := (width &&& 0xFFFF).toNat
    let bmpHeight := (height &&& 0xFFFF).toNat
    let s ← decodeRows bmp offsetForBase bitCount.toNat change left bmpWidth bmpHeight (top + bmpHeight)
      ⟨dataBase offsetForBase bitCount.toNat, nibble, 0, []⟩
    return (0, s.nibble, s.puts)

/-! ## Files -/

/-- A byte of the file; none is there behind the end. -/
def byteAt (bmp : List UInt8) (offset : ℕ) : UInt8 := bmp.getD offset 0

/-- An `unsigned short` of the file. -/
def shortAt (bmp : List UInt8) (offset : ℕ) : UInt16 :=
  (byteAt bmp offset).toUInt16 ||| ((byteAt bmp (offset + 1)).toUInt16 <<< 8)

/-- An `unsigned int` of the file. -/
def intAt (bmp : List UInt8) (offset : ℕ) : UInt32 :=
  colorOf (byteAt bmp offset) (byteAt bmp (offset + 1)) (byteAt bmp (offset + 2)) (byteAt bmp (offset + 3))

/-- The fields of the header that say what the picture is. -/
structure Header where
  offBits : ℕ
  headerSize : ℕ
  width : ℕ
  height : ℕ
  planes : ℕ
  bitCount : ℕ
  compression : ℕ
  clrUsed : ℕ

/-- The header of a file. -/
def headerOf (bmp : List UInt8) : Header where
  offBits := (intAt bmp 10).toNat
  headerSize := (intAt bmp 14).toNat
  width := (intAt bmp 18).toNat
  height := (intAt bmp 22).toNat
  planes := (shortAt bmp 26).toNat
  bitCount := (shortAt bmp 28).toNat
  compression := (intAt bmp 30).toNat
  clrUsed := (intAt bmp 46).toNat

namespace Header

variable (h : Header)

/-- The colours of the palette: a number of zero is all that the pixels can name. -/
def colors : ℕ :=
  if h.clrUsed = 0 then if h.bitCount ≤ 8 then 2 ^ h.bitCount else 0 else h.clrUsed

/-- The bytes of a row, with what fills it up to a multiple of four. -/
def stride : ℕ := (h.bitCount * h.width + 31) / 32 * 4

/-- Where row `i` of the picture is, counted from the top: the last row comes first. -/
def rowStart (i : ℕ) : ℕ := h.offBits + (h.height - 1 - i) * h.stride

end Header

/-- What the file has for column `j` of row `i`, if the picture has a palette. -/
def indexAt (bmp : List UInt8) (i j : ℕ) : ℕ :=
  let start := (headerOf bmp).rowStart i
  if (headerOf bmp).bitCount = 4 then
    if j % 2 = 0 then (byteAt bmp (start + j / 2)).toNat / 16 else (byteAt bmp (start + j / 2)).toNat % 16
  else (byteAt bmp (start + j)).toNat

/-- Blue, green and red, which stand in this order. -/
def rgbAt (bmp : List UInt8) (offset : ℕ) : UInt32 := intAt bmp offset &&& 0xFFFFFF

/-- The colour of column `j` of row `i`. -/
def pictureColor (bmp : List UInt8) (i j : ℕ) : UInt32 :=
  let h := headerOf bmp
  if h.bitCount ≤ 8 then rgbAt bmp (54 + 4 * indexAt bmp i j)
  else rgbAt bmp (h.rowStart i + h.bitCount / 8 * j)

/-- A file with an uncompressed picture of 4, 8, 24 or 32 bits. -/
structure WellFormed (bmp : List UInt8) : Prop where
  signature : byteAt bmp 0 = charByte 'B' ∧ byteAt bmp 1 = charByte 'M'
  headerSize : (headerOf bmp).headerSize = 40
  planes : (headerOf bmp).planes = 1
  bitCount : (headerOf bmp).bitCount = 4 ∨ (headerOf bmp).bitCount = 8 ∨ (headerOf bmp).bitCount = 24 ∨
    (headerOf bmp).bitCount = 32
  compression : (headerOf bmp).compression = 0
  /-- Both are `int` in the format, and a height below zero has the rows the other way round. -/
  size : (headerOf bmp).width < 2 ^ 31 ∧ (headerOf bmp).height < 2 ^ 31
  palette : 54 + 4 * (headerOf bmp).colors ≤ (headerOf bmp).offBits
  data : (headerOf bmp).offBits + (headerOf bmp).height * (headerOf bmp).stride ≤ bmp.length
  indices : (headerOf bmp).bitCount ≤ 8 → ∀ i < (headerOf bmp).height, ∀ j < (headerOf bmp).width,
    indexAt bmp i j < (headerOf bmp).colors

/-- The picture stands at `(x, y)`, and nothing outside of it. -/
structure Drawn (bmp : List UInt8) (x y : ℕ) (puts : List Put) : Prop where
  inside : ∀ p ∈ puts, (x ≤ p.x ∧ p.x < x + (headerOf bmp).width) ∧ y ≤ p.y ∧ p.y < y + (headerOf bmp).height
  everywhere : ∀ i < (headerOf bmp).height, ∀ j < (headerOf bmp).width, ∃ p ∈ puts, p.x = x + j ∧ p.y = y + i
  colors : ∀ p ∈ puts, p.color &&& 0xFFFFFF = pictureColor bmp (p.y - y) (p.x - x)

/-- **The call reads bytes of the file only, and a well-formed picture is drawn.** -/
def Displays (bmp : List UInt8) (x y : ℕ) (change : ColorChange) (nibble : ℤ) : Prop :=
  ∃ r, bmpDisplayBMP bmp x y change nibble = .ok r ∧ (WellFormed bmp → Drawn bmp x y r.2.2)

/-! ## How far the decoder reads -/

/-- The half bytes of a pixel. -/
def halfBytes (bitCount : ℕ) : ℕ :=
  match bitCount with
  | 4 => 1
  | 8 => 2
  | 16 => 4
  | 24 => 6
  | 32 => 8
  | _ => 0

/-- Where the decoder starts, in half bytes. -/
def startOf (base : ℤ) (bitCount : ℕ) (nibble : ℤ) : ℤ :=
  2 * base + if bitCount = 4 ∧ nibble = 2222 then 1 else 0

/-- So many pixels from `start` on are in the file, and what is behind them has an `int` for its number. -/
def Fits (bmp : List UInt8) (bitCount : ℕ) (start : ℤ) (pixels : ℕ) : Prop :=
  halfBytes bitCount * pixels = 0 ∨
    (start + halfBytes bitCount * pixels ≤ 2 * bmp.length ∧ (start + halfBytes bitCount * pixels) / 2 ≤ INT_MAX)

/-- The file has all bytes that a call reads: nothing for a place behind the limits, the two of the signature if it
is another one, the header and the pixels otherwise. -/
def StaysInside (bmp : List UInt8) (x y : ℕ) (nibble : ℤ) : Prop :=
  x > 800 ∨ y > 600 ∨
    (2 ≤ bmp.length ∧ (byteAt bmp 0 ≠ charByte 'B' ∨ byteAt bmp 1 ≠ charByte 'M')) ∨
    (30 ≤ bmp.length ∧ Fits bmp (headerOf bmp).bitCount
      (startOf (dataBase ((headerOf bmp).offBits % 256 : ℕ) (headerOf bmp).bitCount) (headerOf bmp).bitCount nibble)
      (((headerOf bmp).height % 65536) * ((headerOf bmp).width % 65536)))

section

variable {bmp : List UInt8} {palette k : ℤ} {bitCount n : ℕ} {s s' : Decoder} {change : ColorChange}
  {left bottom width x y : ℕ} {nibble : ℤ}

/-- The call comes to its end. -/
def Returns {α : Type} (r : Except Undefined α) : Prop := ∃ a, r = .ok a

lemma returns_ok {α : Type} {a : α} : Returns (.ok a : Except Undefined α) ↔ True :=
  iff_of_true ⟨a, rfl⟩ trivial

/-- A sequence whose rest comes to its end under a condition that does not name the result of the first step. -/
lemma returns_bind {α β : Type} {r : Except Undefined α} {f : α → Except Undefined β} {P : Prop}
    (h : ∀ a, r = .ok a → (Returns (f a) ↔ P)) : Returns (r >>= f) ↔ Returns r ∧ P := by
  constructor
  · rintro ⟨b, hb⟩
    obtain ⟨a, ha, hfa⟩ := bind_eq_ok hb
    exact ⟨⟨a, ha⟩, (h a ha).mp ⟨b, hfa⟩⟩
  · rintro ⟨⟨a, ha⟩, hP⟩
    rw [ha, ok_bind]
    exact (h a ha).mpr hP

lemma byte_returns : Returns (bmpByte bmp k) ↔ 0 ≤ k ∧ k < bmp.length := by
  unfold bmpByte
  split_ifs with h
  · exact iff_of_true ⟨_, rfl⟩ h
  · exact iff_of_false (by rintro ⟨a, ha⟩; cases ha) h

lemma byte_eq {m : ℕ} (hk : k = m) (h : m < bmp.length) : bmpByte bmp k = .ok (byteAt bmp m) := by
  rw [bmpByte, if_pos (by omega), hk]
  rfl

lemma intResult_returns : Returns (intResult k) ↔ INT_MIN ≤ k ∧ k ≤ INT_MAX := by
  unfold intResult
  split_ifs with h
  · exact iff_of_true ⟨_, rfl⟩ h
  · exact iff_of_false (by rintro ⟨a, ha⟩; cases ha) h

lemma int_returns : Returns (bmpInt bmp k) ↔ 0 ≤ k ∧ k + 3 < bmp.length := by
  have hparts : Returns (bmpInt bmp k) ↔ Returns (bmpByte bmp k) ∧ Returns (bmpByte bmp (k + 1)) ∧
      Returns (bmpByte bmp (k + 2)) ∧ Returns (bmpByte bmp (k + 3)) ∧ True :=
    returns_bind fun _ _ => returns_bind fun _ _ => returns_bind fun _ _ => returns_bind fun _ _ => returns_ok
  rw [hparts]
  simp only [byte_returns, and_true]
  omega

lemma int_eq {m : ℕ} (hk : k = m) (h : m + 3 < bmp.length) : bmpInt bmp k = .ok (intAt bmp m) := by
  have h₁ : bmpByte bmp (k + 1) = .ok (byteAt bmp (m + 1)) := byte_eq (by omega) (by omega)
  have h₂ : bmpByte bmp (k + 2) = .ok (byteAt bmp (m + 2)) := byte_eq (by omega) (by omega)
  have h₃ : bmpByte bmp (k + 3) = .ok (byteAt bmp (m + 3)) := byte_eq (by omega) (by omega)
  rw [bmpInt, byte_eq hk (by omega), h₁, h₂, h₃]
  rfl

lemma short_eq {m : ℕ} (hk : k = m) (h : m + 1 < bmp.length) : bmpShort bmp k = .ok (shortAt bmp m) := by
  have h₁ : bmpByte bmp (k + 1) = .ok (byteAt bmp (m + 1)) := byte_eq (by omega) (by omega)
  rw [bmpShort, byte_eq hk (by omega), h₁]
  rfl

/-! ### One pixel -/

/-- Where the decoder stands, behind the palette. -/
structure Placed (palette : ℤ) (bitCount : ℕ) (s : Decoder) (position : ℤ) : Prop where
  nonneg : 0 ≤ palette
  behind : dataBase palette bitCount ≤ s.base
  range : s.base ≤ INT_MAX
  position : startOf s.base bitCount s.nibble = position

variable {position : ℤ}

/-- A colour of the palette is in the file if a byte of the data is. -/
lemma color_returns (colors : ℕ) {index : ℕ} (hnonneg : 0 ≤ palette) (hbehind : palette + 4 * colors ≤ s.base)
    (hbyte : Returns (bmpByte bmp s.base)) (hindex : index < colors) :
    Returns (bmpInt bmp (palette + 4 * index)) := by
  rw [byte_returns] at hbyte
  rw [int_returns]
  omega

lemma and_lt_sixteen (index : UInt8) : (index &&& 0x0F).toNat < 16 := by
  rw [UInt8.toNat_and]
  exact Nat.and_lt_two_pow (n := 4) _ (by decide)

/-- **A pixel is read if it is in the file**: the palette ends where the data begin. -/
lemma decodePixel_returns (h : Placed palette bitCount s position) :
    Returns (decodePixel bmp palette bitCount s) ↔ Fits bmp bitCount position 1 := by
  obtain ⟨hnonneg, hbehind, hrange, rfl⟩ := h
  rw [INT_MAX] at hrange
  unfold decodePixel
  split
  · have hbehind : palette + 64 ≤ s.base := hbehind
    by_cases hn : s.nibble = 2222
    · refine (returns_bind (P := Returns (intResult (s.base + 1))) fun index hindex => ?_).trans ?_
      · rw [if_pos hn]
        refine (returns_bind fun _ _ => (returns_bind fun _ _ => returns_ok).trans (and_iff_left trivial)).trans ?_
        exact and_iff_right (color_returns 16 hnonneg hbehind ⟨_, hindex⟩ (and_lt_sixteen _))
      · simp only [byte_returns, intResult_returns, Fits, halfBytes, startOf, hn, INT_MIN, INT_MAX]
        simp only [and_self, if_true, Nat.cast_one, mul_one, one_ne_zero, false_or]
        omega
    · refine (returns_bind (P := True) fun index hindex => ?_).trans ?_
      · rw [if_neg hn]
        refine (returns_bind fun _ _ => returns_ok).trans ((and_iff_left trivial).trans (iff_true_intro ?_))
        exact color_returns 16 hnonneg hbehind ⟨_, hindex⟩ (and_lt_sixteen _)
      · simp only [byte_returns, Fits, halfBytes, startOf, hn, INT_MAX]
        simp only [and_false, if_false, Nat.cast_one, mul_one, one_ne_zero, false_or, and_true]
        omega
  · have hbehind : palette + 1024 ≤ s.base := hbehind
    refine (returns_bind (P := Returns (intResult (s.base + 1))) fun index hindex => ?_).trans ?_
    · refine (returns_bind fun _ _ => (returns_bind fun _ _ => returns_ok).trans (and_iff_left trivial)).trans ?_
      exact and_iff_right (color_returns 256 hnonneg hbehind ⟨_, hindex⟩ index.toNat_lt)
    · simp only [byte_returns, intResult_returns, Fits, halfBytes, startOf, INT_MIN, INT_MAX]
      simp only [Nat.reduceEqDiff, false_and, if_false, Nat.cast_ofNat, Nat.cast_one, mul_one, false_or]
      omega
  · have hbehind : palette + 65536 ≤ s.base := hbehind
    refine (returns_bind fun _ _ => returns_bind fun _ _ => returns_bind fun _ _ => returns_ok).trans ?_
    simp only [byte_returns, intResult_returns, Fits, halfBytes, startOf, INT_MIN, INT_MAX]
    simp only [Nat.reduceEqDiff, false_and, if_false, Nat.cast_ofNat, Nat.cast_one, mul_one, false_or, and_true]
    omega
  · have hbehind : palette ≤ s.base := hbehind
    refine (returns_bind fun _ _ => returns_bind fun _ _ => returns_bind fun _ _ => returns_bind fun _ _ =>
      returns_ok).trans ?_
    simp only [byte_returns, intResult_returns, Fits, halfBytes, startOf, INT_MIN, INT_MAX]
    simp only [Nat.reduceEqDiff, false_and, if_false, Nat.cast_ofNat, Nat.cast_one, mul_one, false_or, and_true]
    omega
  · have hbehind : palette ≤ s.base := hbehind
    refine (returns_bind fun _ _ => returns_bind fun _ _ => returns_bind fun _ _ => returns_bind fun _ _ =>
      returns_bind fun _ _ => returns_ok).trans ?_
    simp only [byte_returns, intResult_returns, Fits, halfBytes, startOf, INT_MIN, INT_MAX]
    simp only [Nat.reduceEqDiff, false_and, if_false, Nat.cast_ofNat, Nat.cast_one, mul_one, false_or, and_true]
    omega
  · refine returns_ok.trans (iff_of_true trivial (Or.inl ?_))
    unfold halfBytes
    split <;> first | contradiction | rfl

/-- The decoder after a pixel of `k` whole bytes. -/
lemma Placed.advance {k : ℤ} {color : UInt32} (h : Placed palette bitCount s position) (hbits : bitCount ≠ 4)
    (hk : (halfBytes bitCount : ℤ) = 2 * k) (hmax : s.base + k ≤ INT_MAX) :
    Placed palette bitCount { s with base := s.base + k, color := color } (position + halfBytes bitCount) := by
  obtain ⟨hnonneg, hbehind, hrange, rfl⟩ := h
  refine ⟨hnonneg, by dsimp only; omega, hmax, ?_⟩
  rw [startOf, startOf, if_neg fun h => hbits h.1, hk]
  ring

lemma halfBytes_other (h₄ : bitCount ≠ 4) (h₈ : bitCount ≠ 8) (h₁₆ : bitCount ≠ 16) (h₂₄ : bitCount ≠ 24)
    (h₃₂ : bitCount ≠ 32) : halfBytes bitCount = 0 := by
  unfold halfBytes
  split <;> first | contradiction | rfl

/-- What a pixel leaves. -/
lemma decodePixel_placed (h : Placed palette bitCount s position)
    (hpixel : decodePixel bmp palette bitCount s = .ok s') :
    Placed palette bitCount s' (position + halfBytes bitCount) ∧ s'.puts = s.puts := by
  unfold decodePixel at hpixel
  split at hpixel
  · obtain ⟨index, -, hpixel⟩ := bind_eq_ok hpixel
    obtain ⟨hnonneg, hbehind, hrange, rfl⟩ := h
    split at hpixel
    · obtain ⟨color, -, hpixel⟩ := bind_eq_ok hpixel
      obtain ⟨base, hbase, hpixel⟩ := bind_eq_ok hpixel
      obtain ⟨rfl, hmax⟩ := intResult_inv hbase
      cases hpixel
      refine ⟨⟨hnonneg, by dsimp only; omega, hmax, ?_⟩, rfl⟩
      simp [startOf, halfBytes, *]
      omega
    · obtain ⟨color, -, hpixel⟩ := bind_eq_ok hpixel
      cases hpixel
      refine ⟨⟨hnonneg, hbehind, hrange, ?_⟩, rfl⟩
      simp [startOf, halfBytes, *]
  · obtain ⟨index, -, hpixel⟩ := bind_eq_ok hpixel
    obtain ⟨color, -, hpixel⟩ := bind_eq_ok hpixel
    obtain ⟨base, hbase, hpixel⟩ := bind_eq_ok hpixel
    obtain ⟨rfl, hmax⟩ := intResult_inv hbase
    cases hpixel
    exact ⟨h.advance (by decide) rfl hmax, rfl⟩
  · obtain ⟨b₀, -, hpixel⟩ := bind_eq_ok hpixel
    obtain ⟨b₁, -, hpixel⟩ := bind_eq_ok hpixel
    obtain ⟨base, hbase, hpixel⟩ := bind_eq_ok hpixel
    obtain ⟨rfl, hmax⟩ := intResult_inv hbase
    cases hpixel
    exact ⟨h.advance (by decide) rfl hmax, rfl⟩
  · obtain ⟨b₀, -, hpixel⟩ := bind_eq_ok hpixel
    obtain ⟨b₁, -, hpixel⟩ := bind_eq_ok hpixel
    obtain ⟨b₂, -, hpixel⟩ := bind_eq_ok hpixel
    obtain ⟨base, hbase, hpixel⟩ := bind_eq_ok hpixel
    obtain ⟨rfl, hmax⟩ := intResult_inv hbase
    cases hpixel
    exact ⟨h.advance (by decide) rfl hmax, rfl⟩
  · obtain ⟨b₀, -, hpixel⟩ := bind_eq_ok hpixel
    obtain ⟨b₁, -, hpixel⟩ := bind_eq_ok hpixel
    obtain ⟨b₂, -, hpixel⟩ := bind_eq_ok hpixel
    obtain ⟨b₃, -, hpixel⟩ := bind_eq_ok hpixel
    obtain ⟨base, hbase, hpixel⟩ := bind_eq_ok hpixel
    obtain ⟨rfl, hmax⟩ := intResult_inv hbase
    cases hpixel
    exact ⟨h.advance (by decide) rfl hmax, rfl⟩
  · cases hpixel
    rename_i h₄ h₈ h₁₆ h₂₄ h₃₂
    rw [halfBytes_other h₄ h₈ h₁₆ h₂₄ h₃₂, Nat.cast_zero, add_zero]
    exact ⟨h, rfl⟩

/-- What is put is put into this row. -/
lemma putPixel_puts (change : ColorChange) (left bottom : ℕ) (s : Decoder) :
    ∃ new, (putPixel change left bottom s).puts = s.puts ++ new ∧ ∀ p ∈ new, p.y = bottom := by
  unfold putPixel
  split_ifs
  all_goals first
    | exact ⟨_, rfl, by simp⟩
    | exact ⟨[], by simp, by simp⟩

lemma Placed.putPixel (h : Placed palette bitCount s position) :
    Placed palette bitCount (putPixel change left bottom s) position := by
  have hbase : (Gws.putPixel change left bottom s).base = s.base := by
    unfold Gws.putPixel
    split_ifs <;> rfl
  have hnibble : (Gws.putPixel change left bottom s).nibble = s.nibble := by
    unfold Gws.putPixel
    split_ifs <;> rfl
  exact ⟨h.nonneg, hbase ▸ h.behind, hbase ▸ h.range, by rw [hbase, hnibble, h.position]⟩

/-! ### Rows -/

lemma fits_zero : Fits bmp bitCount position 0 :=
  Or.inl (mul_zero _)

/-- What comes later is further behind. -/
lemma fits_add {m : ℕ} :
    Fits bmp bitCount position (m + n) ↔
      Fits bmp bitCount position m ∧ Fits bmp bitCount (position + halfBytes bitCount * m) n := by
  unfold Fits
  have hmul : (halfBytes bitCount : ℤ) * (m + n : ℕ) = halfBytes bitCount * m + halfBytes bitCount * n := by
    push_cast
    ring
  rw [hmul, Nat.mul_add, ← add_assoc]
  norm_cast
  generalize halfBytes bitCount * m = a
  generalize halfBytes bitCount * n = b
  omega

/-- **A row is read if its pixels are in the file.** -/
lemma decodeRow_returns (h : Placed palette bitCount s position) :
    Returns (decodeRow bmp palette bitCount change bottom n left s) ↔ Fits bmp bitCount position n := by
  induction n generalizing left s position with
  | zero => exact iff_of_true ⟨s, rfl⟩ fits_zero
  | succ n ih =>
      refine (returns_bind fun s' hpixel => ih (decodePixel_placed h hpixel).1.putPixel).trans ?_
      rw [decodePixel_returns h, Nat.add_comm, fits_add, Nat.cast_one, mul_one]

/-- What a row leaves. -/
lemma decodeRow_placed (h : Placed palette bitCount s position)
    (hrow : decodeRow bmp palette bitCount change bottom n left s = .ok s') :
    Placed palette bitCount s' (position + halfBytes bitCount * n) ∧
      ∃ new, s'.puts = s.puts ++ new ∧ ∀ p ∈ new, p.y = bottom := by
  induction n generalizing left s position with
  | zero =>
      cases hrow
      exact ⟨by simpa using h, [], by simp, by simp⟩
  | succ n ih =>
      obtain ⟨s₁, hpixel, hrow⟩ := bind_eq_ok hrow
      obtain ⟨h₁, hputs⟩ := decodePixel_placed h hpixel
      obtain ⟨h₂, new, hnew, hrows⟩ := ih h₁.putPixel hrow
      obtain ⟨new', hnew', hrow'⟩ := putPixel_puts change left bottom s₁
      refine ⟨?_, new' ++ new, ?_, ?_⟩
      · convert h₂ using 1
        push_cast
        ring
      · rw [hnew, hnew', hputs, List.append_assoc]
      · simp only [List.mem_append]
        rintro p (hp | hp)
        · exact hrow' p hp
        · exact hrows p hp

/-- **The rows are read if their pixels are in the file.** -/
lemma decodeRows_returns (h : Placed palette bitCount s position) :
    Returns (decodeRows bmp palette bitCount change left width n bottom s) ↔
      Fits bmp bitCount position (n * width) := by
  induction n generalizing bottom s position with
  | zero =>
      rw [Nat.zero_mul]
      exact iff_of_true ⟨s, rfl⟩ fits_zero
  | succ n ih =>
      refine (returns_bind fun s' hrow => ih (decodeRow_placed h hrow).1).trans ?_
      rw [decodeRow_returns h, Nat.succ_mul, Nat.add_comm, fits_add]

/-- **The rows are below the top**: the first one is as far below it as there are rows. -/
lemma decodeRows_puts {top : ℕ} (h : Placed palette bitCount s position) (hbottom : top + n ≤ bottom)
    (hrange : bottom < 2 ^ 32) (hputs : ∀ p ∈ s.puts, top < p.y)
    (hrows : decodeRows bmp palette bitCount change left width n bottom s = .ok s') :
    ∀ p ∈ s'.puts, top < p.y := by
  induction n generalizing bottom s position with
  | zero =>
      cases hrows
      exact hputs
  | succ n ih =>
      obtain ⟨s₁, hrow, hrows⟩ := bind_eq_ok hrows
      obtain ⟨h₁, new, hnew, hy⟩ := decodeRow_placed h hrow
      have hnext : (bottom + (2 ^ 32 - 1)) % 2 ^ 32 = bottom - 1 := by omega
      rw [hnext] at hrows
      refine ih h₁ (by omega) (by omega) ?_ hrows
      rw [hnew]
      simp only [List.mem_append]
      rintro p (hp | hp)
      · exact hputs p hp
      · rw [hy p hp]
        omega

/-- Rows without columns. -/
lemma decodeRows_zero (hrows : decodeRows bmp palette bitCount change left 0 n bottom s = .ok s') :
    s'.puts = s.puts := by
  induction n generalizing bottom s with
  | zero =>
      cases hrows
      rfl
  | succ n ih =>
      obtain ⟨s₁, hrow, hrows⟩ := bind_eq_ok hrows
      cases hrow
      exact ih hrows

/-! ## The whole call -/

/-- The decoder in front of the first pixel. -/
lemma placed_start (offset : ℕ) (hoffset : offset < 256) :
    Placed offset bitCount ⟨dataBase offset bitCount, nibble, 0, []⟩
      (startOf (dataBase offset bitCount) bitCount nibble) := by
  refine ⟨by omega, le_rfl, ?_, rfl⟩
  dsimp only
  unfold dataBase
  rw [INT_MAX]
  split <;> omega

lemma and_ff (v : UInt32) : (v &&& 0xFF).toNat = v.toNat % 256 := by
  have h : (v &&& 0xFF).toNat = v.toNat &&& 2 ^ 8 - 1 := UInt32.toNat_and v 0xFF
  rw [h, Nat.and_two_pow_sub_one_eq_mod]

lemma and_ffff (v : UInt32) : (v &&& 0xFFFF).toNat = v.toNat % 65536 := by
  have h : (v &&& 0xFFFF).toNat = v.toNat &&& 2 ^ 16 - 1 := UInt32.toNat_and v 0xFFFF
  rw [h, Nat.and_two_pow_sub_one_eq_mod]

/-- What the call does with a file that has the header. -/
lemma bmpDisplay_eq (hx : x ≤ 800) (hy : y ≤ 600) (hlength : 30 ≤ bmp.length)
    (hsignature : byteAt bmp 0 = charByte 'B' ∧ byteAt bmp 1 = charByte 'M') :
    bmpDisplayBMP bmp x y change nibble = (do
      let s ← decodeRows bmp ((headerOf bmp).offBits % 256 : ℕ) (headerOf bmp).bitCount change x
        ((headerOf bmp).width % 65536) ((headerOf bmp).height % 65536) (y + (headerOf bmp).height % 65536)
        ⟨dataBase ((headerOf bmp).offBits % 256 : ℕ) (headerOf bmp).bitCount, nibble, 0, []⟩
      return (0, s.nibble, s.puts)) := by
  rw [bmpDisplayBMP, if_neg (by omega), short_eq (k := 0) (m := 0) rfl (by omega), ok_bind, byte_eq (k := 0) (m := 0) rfl (by omega),
    ok_bind, byte_eq (k := 1) (m := 1) rfl (by omega), ok_bind, if_neg (by simp [hsignature])]
  rw [int_eq (k := 2) (m := 2) rfl (by omega), ok_bind, int_eq (k := 10) (m := 10) rfl (by omega), ok_bind,
    int_eq (k := 14) (m := 14) rfl (by omega), ok_bind, int_eq (k := 18) (m := 18) rfl (by omega), ok_bind,
    int_eq (k := 22) (m := 22) rfl (by omega), ok_bind, short_eq (k := 28) (m := 28) rfl (by omega), ok_bind]
  simp only [and_ff, and_ffff]
  rw [Nat.mod_eq_of_lt (show x < 2 ^ 16 by omega), Nat.mod_eq_of_lt (show y < 2 ^ 16 by omega)]
  rfl

lemma short_inv {v : UInt16} (h : bmpShort bmp k = .ok v) : 0 ≤ k ∧ k + 1 < bmp.length := by
  obtain ⟨b₀, h₀, h⟩ := bind_eq_ok h
  obtain ⟨b₁, h₁, h⟩ := bind_eq_ok h
  exact ⟨(byte_returns.mp ⟨b₀, h₀⟩).1, (byte_returns.mp ⟨b₁, h₁⟩).2⟩

/-- What a call within the limits has read. -/
lemma bmpDisplay_inv (hlimits : ¬(x > 800 ∨ y > 600)) (h : Returns (bmpDisplayBMP bmp x y change nibble)) :
    2 ≤ bmp.length ∧ (byteAt bmp 0 = charByte 'B' → byteAt bmp 1 = charByte 'M' → 30 ≤ bmp.length) := by
  obtain ⟨r, h⟩ := h
  rw [bmpDisplayBMP, if_neg hlimits] at h
  obtain ⟨sig, hsig, h⟩ := bind_eq_ok h
  have hlength := (short_inv hsig).2
  refine ⟨by omega, fun hB hM => ?_⟩
  rw [byte_eq (k := 0) (m := 0) rfl (by omega), ok_bind, byte_eq (k := 1) (m := 1) rfl (by omega), ok_bind,
    if_neg (by simp [hB, hM])] at h
  obtain ⟨_, -, h⟩ := bind_eq_ok h
  obtain ⟨_, -, h⟩ := bind_eq_ok h
  obtain ⟨_, -, h⟩ := bind_eq_ok h
  obtain ⟨_, -, h⟩ := bind_eq_ok h
  obtain ⟨_, -, h⟩ := bind_eq_ok h
  obtain ⟨bitCount, hbits, h⟩ := bind_eq_ok h
  have := (short_inv hbits).2
  omega

/-- A file with another signature is not drawn. -/
lemma bmpDisplay_other (hlimits : ¬(x > 800 ∨ y > 600)) (hlength : 2 ≤ bmp.length)
    (hsignature : byteAt bmp 0 ≠ charByte 'B' ∨ byteAt bmp 1 ≠ charByte 'M') :
    bmpDisplayBMP bmp x y change nibble = .ok (1, nibble, []) := by
  rw [bmpDisplayBMP, if_neg hlimits, short_eq (k := 0) (m := 0) rfl (by omega), ok_bind,
    byte_eq (k := 0) (m := 0) rfl (by omega), ok_bind, byte_eq (k := 1) (m := 1) rfl (by omega), ok_bind,
    if_pos hsignature]
  rfl

/-- **The files of which no byte outside is read.** -/
theorem bmpDisplay_ok_iff : Returns (bmpDisplayBMP bmp x y change nibble) ↔ StaysInside bmp x y nibble := by
  by_cases hlimits : x > 800 ∨ y > 600
  · refine iff_of_true ⟨(1, nibble, []), if_pos hlimits⟩ ?_
    rcases hlimits with hx | hy
    · exact Or.inl hx
    · exact Or.inr (Or.inl hy)
  have hfits : 30 ≤ bmp.length → byteAt bmp 0 = charByte 'B' ∧ byteAt bmp 1 = charByte 'M' →
      (Returns (bmpDisplayBMP bmp x y change nibble) ↔ Fits bmp (headerOf bmp).bitCount
        (startOf (dataBase ((headerOf bmp).offBits % 256 : ℕ) (headerOf bmp).bitCount) (headerOf bmp).bitCount nibble)
        (((headerOf bmp).height % 65536) * ((headerOf bmp).width % 65536))) := by
    intro hlength hsignature
    rw [bmpDisplay_eq (by omega) (by omega) hlength hsignature,
      ← decodeRows_returns (placed_start _ (Nat.mod_lt _ (by omega)))]
    exact (returns_bind fun _ _ => returns_ok).trans (and_iff_left trivial)
  constructor
  · intro h
    obtain ⟨hlength, hheader⟩ := bmpDisplay_inv hlimits h
    by_cases hsignature : byteAt bmp 0 = charByte 'B' ∧ byteAt bmp 1 = charByte 'M'
    · have hlength := hheader hsignature.1 hsignature.2
      exact Or.inr (Or.inr (Or.inr ⟨hlength, (hfits hlength hsignature).mp h⟩))
    · exact Or.inr (Or.inr (Or.inl ⟨hlength, not_and_or.mp hsignature⟩))
  · rintro (hx | hy | ⟨hlength, hsignature⟩ | ⟨hlength, hfit⟩)
    · exact absurd (Or.inl hx) hlimits
    · exact absurd (Or.inr hy) hlimits
    · exact ⟨_, bmpDisplay_other hlimits hlength hsignature⟩
    · by_cases hsignature : byteAt bmp 0 = charByte 'B' ∧ byteAt bmp 1 = charByte 'M'
      · exact (hfits hlength hsignature).mpr hfit
      · exact ⟨_, bmpDisplay_other hlimits (by omega) (not_and_or.mp hsignature)⟩

/-- **Nothing is drawn in the row at the top**, nor without rows and columns. -/
lemma bmpDisplay_puts {r : ℤ × ℤ × List Put} (h : bmpDisplayBMP bmp x y change nibble = .ok r) :
    (∀ p ∈ r.2.2, y < p.y) ∧ ((headerOf bmp).width = 0 ∨ (headerOf bmp).height = 0 → r.2.2 = []) := by
  by_cases hlimits : x > 800 ∨ y > 600
  · rw [bmpDisplayBMP, if_pos hlimits] at h
    cases h
    exact ⟨by simp, fun _ => rfl⟩
  obtain ⟨hlength, hheader⟩ := bmpDisplay_inv hlimits ⟨r, h⟩
  by_cases hsignature : byteAt bmp 0 = charByte 'B' ∧ byteAt bmp 1 = charByte 'M'
  · rw [bmpDisplay_eq (by omega) (by omega) (hheader hsignature.1 hsignature.2) hsignature] at h
    obtain ⟨s, hrows, h⟩ := bind_eq_ok h
    cases h
    refine ⟨decodeRows_puts (placed_start _ (Nat.mod_lt _ (by omega))) le_rfl (by omega) (by simp) hrows, ?_⟩
    rintro (hwidth | hheight)
    · rw [hwidth, Nat.zero_mod] at hrows
      exact decodeRows_zero hrows
    · rw [hheight, Nat.zero_mod] at hrows
      cases hrows
      rfl
  · rw [bmpDisplay_other hlimits hlength (not_and_or.mp hsignature)] at h
    cases h
    exact ⟨by simp, fun _ => rfl⟩

/-- **A picture is drawn if it is empty and no byte outside is read**, as the row at the top is missing. -/
theorem bmpDisplay_iff (bmp : List UInt8) (x y : ℕ) (change : ColorChange) (nibble : ℤ) :
    Displays bmp x y change nibble ↔ StaysInside bmp x y nibble ∧
      ¬(WellFormed bmp ∧ 0 < (headerOf bmp).width ∧ 0 < (headerOf bmp).height) := by
  constructor
  · rintro ⟨r, h, hdrawn⟩
    refine ⟨bmpDisplay_ok_iff.mp ⟨r, h⟩, ?_⟩
    rintro ⟨hformed, hwidth, hheight⟩
    obtain ⟨p, hp, -, hy⟩ := (hdrawn hformed).everywhere 0 hheight 0 hwidth
    have := (bmpDisplay_puts h).1 p hp
    omega
  · rintro ⟨hinside, hempty⟩
    obtain ⟨r, h⟩ := bmpDisplay_ok_iff.mpr hinside
    refine ⟨r, h, fun hformed => ?_⟩
    have hsize : (headerOf bmp).width = 0 ∨ (headerOf bmp).height = 0 := by
      by_contra hsize
      exact hempty ⟨hformed, by omega, by omega⟩
    have hputs := (bmpDisplay_puts h).2 hsize
    refine ⟨by simp [hputs], ?_, by simp [hputs]⟩
    intro i hi j hj
    omega

end

/-- A red pixel, with 24 bits. -/
def redPixel : List UInt8 :=
  [0x42, 0x4D, 58, 0, 0, 0, 0, 0, 0, 0, 54, 0, 0, 0, 40, 0, 0, 0, 1, 0, 0, 0, 1, 0, 0, 0, 1, 0, 24, 0, 0, 0, 0, 0,
    4, 0, 0, 0, 0, 0, 0, 0, 0, 0, 0, 0, 0, 0, 0, 0, 0, 0, 0, 0, 0x00, 0x00, 0xFF, 0]

lemma redPixel_wellFormed : WellFormed redPixel where
  signature := ⟨rfl, rfl⟩
  headerSize := rfl
  planes := rfl
  bitCount := Or.inr (Or.inr (Or.inl rfl))
  compression := rfl
  size := by decide
  palette := by decide
  data := by decide
  indices := fun h => absurd h (by decide)

/-- The red pixel at the corner of the screen is drawn one row below it. -/
theorem bmpDisplay_fails : ¬Displays redPixel 0 0 ⟨BMP_CHANGE_COLOR_NULL, 0, 0⟩ 0 := by
  rintro ⟨r, h, hdrawn⟩
  obtain ⟨p, hp, -, hy⟩ := (hdrawn redPixel_wellFormed).everywhere 0 (by decide) 0 (by decide)
  have := (bmpDisplay_puts h).1 p hp
  omega

end Gramado.Gws
