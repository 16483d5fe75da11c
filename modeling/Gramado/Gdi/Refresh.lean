import Gramado.Gdi.Rectangle

/-!
# Refreshing a rectangle

`__refresh_rectangle0` of `gramk/gdi/gre/rect.c` copies the lines of a rectangle from the back buffer
to the front buffer, in steps of 8, 4 or 1 bytes.  It does not clip on the right, so that a line that
is too long goes on at the left end of the next one, and it copies the line below the screen too.

* `Refreshed` — the front buffer has the bytes of the back buffer on the rectangle, and nothing else
  has changed.
* `RefreshCondition` — when that is so for all contents of the buffers.

The proof goes in three steps: what the loops store (`copyUnits_cell`, `copyRows_cell`), that the
copy is exact when the pixels stored are those of the rectangle (`refreshed_iff`), and when they are
(`copied_iff`).
-/

namespace Gramado

open Memory

/-! ## The code -/

/-- `memcpy32`, `memcpy64` and `memcpy`: `n` units of `u` bytes, one after the other. -/
def copyUnits (u : ℕ) : ℕ → ℤ → ℤ → Memory UInt8 → Memory UInt8
  | 0, _, _, m => m
  | n + 1, dst, src, m =>
      let (x, m) := m.load src u
      copyUnits u n (dst + u) (src + u) (m.store dst x)

/-- `memcpy`. -/
def memcpy : ℕ → ℤ → ℤ → Memory UInt8 → Memory UInt8 := copyUnits 1

/-- `memcpy32`. -/
def memcpy32 : ℕ → ℤ → ℤ → Memory UInt8 → Memory UInt8 := copyUnits 4

/-- `memcpy64`. -/
def memcpy64 : ℕ → ℤ → ℤ → Memory UInt8 → Memory UInt8 := copyUnits 8

/-- The loop over the lines, from the line `i` on. -/
def refreshLoop (copyLine : ℤ → ℤ → Memory UInt8 → Memory UInt8)
    (firstLine deviceHeight screenPitch : ℕ) : ℕ → ℕ → ℤ → ℤ → Memory UInt8 → Memory UInt8
  | 0, _, _, _, m => m
  | n + 1, i, dest, src, m =>
      if firstLine + i > deviceHeight then m
      else
        refreshLoop copyLine firstLine deviceHeight screenPitch n (i + 1) (dest + screenPitch)
          (src + screenPitch) (copyLine dest src m)

/-- `FRONTBUFFER_ADDRESS`, from which all addresses are counted. -/
def FRONTBUFFER_ADDRESS : ℤ := 0

/-- `BACKBUFFER_ADDRESS`: the back buffer comes right behind the front buffer. -/
def BACKBUFFER_ADDRESS : ℤ := BUFFER_SIZE

/-- `__refresh_rectangle0`. -/
def refreshRectangle0 (scr : Screen) (x y width height : ℕ) (bufferDest bufferSrc : ℤ)
    (m : Memory UInt8) : Except Fault (Memory UInt8) :=
  if scr.width = 0 ∨ scr.height = 0 then .error (.panic "refresh_rectangle: w h\n")
  else
    let X := x % 2 ^ 16
    let Y := y % 2 ^ 16
    let hlWidth := width % 2 ^ 16
    let lines := height % 2 ^ 16
    let screenPitch := scr.bpp.bytes * scr.width % 2 ^ 32
    let rectanglePitch := scr.bpp.bytes * hlWidth % 2 ^ 32
    let offset : ℕ := (Y * screenPitch + X * scr.bpp.bytes) % 2 ^ 32
    let dest := bufferDest + offset
    let src := bufferSrc + offset
    if rectanglePitch % 8 = 0 then
      .ok (refreshLoop (memcpy64 (rectanglePitch / 8)) Y scr.height screenPitch lines 0 dest src m)
    else if rectanglePitch % 4 = 0 then
      .ok (refreshLoop (memcpy32 (rectanglePitch / 4)) Y scr.height screenPitch lines 0 dest src m)
    else
      .ok (refreshLoop (memcpy rectanglePitch) Y scr.height screenPitch lines 0 dest src m)

/-- `refresh_rectangle`. -/
def refreshRectangle (scr : Screen) (x y width height : ℕ) (m : Memory UInt8) :
    Except Fault (Memory UInt8) :=
  refreshRectangle0 scr x y width height FRONTBUFFER_ADDRESS BACKBUFFER_ADDRESS m

/-! ## What a refresh should do -/

/-- The byte of the front buffer belongs to a pixel of the rectangle on the screen. -/
def OnScreenByte (scr : Screen) (x y width height : ℕ) (a : ℤ) : Prop :=
  ∃ p, OnScreen scr x y width height p ∧ scr.offset p.1 p.2 ≤ a ∧
    a < scr.offset p.1 p.2 + scr.bpp.bytes

/-- **What a refresh should do**: the bytes of the rectangle are copied, all others stay as they are,
and no byte outside the two buffers is used. -/
structure Refreshed (scr : Screen) (x y width height : ℕ) (m m' : Memory UInt8) : Prop where
  copied : ∀ a, OnScreenByte scr x y width height a → m'.cell a = m.cell (BACKBUFFER_ADDRESS + a)
  kept : ∀ a, ¬OnScreenByte scr x y width height a → m'.cell a = m.cell a
  inside : m'.UsedWithin 0 (2 * BUFFER_SIZE)

/-- The screen is not empty.  If the code copies a line (the width and the height are not zero modulo
`2 ^ 16` and `y` modulo `2 ^ 16` is at most the height of the screen), the rectangle starts on the
screen and ends on it, or the reduction modulo `2 ^ 16` cuts off what is beyond the screen; the last
possibility is a rectangle of all columns down to the bottom, whose width and height are reduced to
numbers that make up for each other.  If it copies none, the rectangle has no pixel on the screen. -/
def RefreshCondition (scr : Screen) (x y width height : ℕ) : Prop :=
  0 < scr.width ∧ 0 < scr.height ∧
    if 0 < width % 2 ^ 16 ∧ 0 < height % 2 ^ 16 ∧ y % 2 ^ 16 ≤ scr.height then
      x < scr.width ∧ y < scr.height ∧
        ((x + width % 2 ^ 16 ≤ scr.width ∧
            (width < 2 ^ 16 ∨ x + width % 2 ^ 16 = scr.width) ∧
            y + height % 2 ^ 16 ≤ scr.height ∧
            (height < 2 ^ 16 ∨ y + height % 2 ^ 16 = scr.height)) ∨
          (x = 0 ∧ 2 ^ 16 ≤ height ∧
            ∃ k, width % 2 ^ 16 = k * scr.width ∧ y + height % 2 ^ 16 + k = scr.height + 1))
    else scr.width ≤ x ∨ width = 0 ∨ scr.height ≤ y ∨ height = 0

/-! ## What the loops store -/

section Copy

variable {u n : ℕ} {dst src lo hi : ℤ} {m : Memory UInt8}

/-- The ranges that a copy uses. -/
lemma copyUnits_usedWithin (hu : 0 < u) :
    (copyUnits u n dst src m).UsedWithin lo hi ↔
      m.UsedWithin lo hi ∧
        (n = 0 ∨ (lo ≤ dst ∧ dst + u * n ≤ hi) ∧ lo ≤ src ∧ src + u * n ≤ hi) := by
  induction n generalizing dst src m with
  | zero => simp [copyUnits]
  | succ n ih =>
      rw [copyUnits, ih, usedWithin_store, usedWithin_load, load_fst, slice_length]
      push_cast
      rw [mul_add, mul_one]
      rcases Nat.eq_zero_or_pos n with rfl | hpos
      · simp only [Nat.cast_zero, mul_zero, true_or, and_true, zero_add, false_or]
        tauto
      · have hmul : (u : ℤ) * 1 ≤ u * n := by
          refine mul_le_mul_of_nonneg_left ?_ (Int.natCast_nonneg _)
          omega
        have hn : n ≠ 0 := hpos.ne'
        simp only [hn, false_or]
        constructor
        · rintro ⟨⟨hdst, hsrc, hm⟩, hdst', hsrc'⟩
          exact ⟨hm, ⟨hdst.1, by linarith⟩, hsrc.1, by linarith⟩
        · rintro ⟨hm, hdst, hsrc⟩
          exact ⟨⟨⟨hdst.1, by linarith⟩, ⟨hsrc.1, by linarith⟩, hm⟩,
            ⟨by linarith, by linarith⟩, by linarith, by linarith⟩

/-- What a copy from the back buffer stores.  `v` is what the back buffer and what lies behind it
hold; where the copy stores there, it stores what is there. -/
lemma copyUnits_cell {v : ℤ → UInt8} (hdst : 0 ≤ dst)
    (hback : ∀ a, BACKBUFFER_ADDRESS ≤ a → m.cell a = v a)
    (hsame : ∀ a, BACKBUFFER_ADDRESS ≤ a → dst ≤ a → a < dst + u * n →
      v (BACKBUFFER_ADDRESS + a) = v a) (a : ℤ) :
    (copyUnits u n dst (BACKBUFFER_ADDRESS + dst) m).cell a =
      if dst ≤ a ∧ a < dst + u * n then v (BACKBUFFER_ADDRESS + a) else m.cell a := by
  induction n generalizing dst m with
  | zero =>
      rw [copyUnits, if_neg]
      simp only [Nat.cast_zero, mul_zero]
      omega
  | succ n ih =>
      push_cast at hsame ⊢
      rw [mul_add, mul_one] at hsame ⊢
      have hun : (0 : ℤ) ≤ u * n := mul_nonneg (Int.natCast_nonneg _) (Int.natCast_nonneg _)
      set m' := ((m.load (BACKBUFFER_ADDRESS + dst) u).2.store dst
        (m.load (BACKBUFFER_ADDRESS + dst) u).1) with hm'
      -- the cells after the first unit
      have hone (b : ℤ) : m'.cell b =
          if dst ≤ b ∧ b < dst + u then v (BACKBUFFER_ADDRESS + b) else m.cell b := by
        split_ifs with hin
        · obtain ⟨i, hi⟩ := Int.eq_ofNat_of_zero_le (sub_nonneg.2 hin.1)
          obtain rfl : b = dst + i := by omega
          have hlt : i < (m.load (BACKBUFFER_ADDRESS + dst) u).1.length := by
            rw [load_fst, slice_length]
            omega
          rw [hm', store_cell_inside hlt]
          simp only [load_fst, getElem_slice]
          rw [hback _ (by omega), add_assoc]
        · rw [hm', store_cell_outside]
          · rfl
          · rw [load_fst, slice_length]
            omega
      have hback' (b : ℤ) (hb : BACKBUFFER_ADDRESS ≤ b) : m'.cell b = v b := by
        rw [hone]
        split_ifs with hin
        · exact hsame b hb hin.1 (by linarith)
        · exact hback b hb
      rw [copyUnits]
      dsimp only
      rw [← hm', add_assoc, ih (by omega) hback' fun b hb hlo hhi => hsame b hb (by omega) (by linarith),
        hone]
      by_cases hin : dst + u ≤ a ∧ a < dst + u + u * n
      · rw [if_pos hin, if_pos ⟨by omega, by linarith⟩]
      · rw [if_neg hin]
        by_cases hfirst : dst ≤ a ∧ a < dst + u
        · rw [if_pos hfirst, if_pos ⟨hfirst.1, by linarith⟩]
        · rw [if_neg hfirst, if_neg]
          rintro ⟨hlo, hhi⟩
          exact hin ⟨by omega, by linarith⟩

/-- The lines of a rectangle, from the address `dst` of the front buffer on. -/
def copyRows (copyLine : ℤ → ℤ → Memory UInt8 → Memory UInt8) (pitch : ℕ) :
    ℕ → ℤ → Memory UInt8 → Memory UInt8
  | 0, _, m => m
  | r + 1, dst, m =>
      copyRows copyLine pitch r (dst + pitch) (copyLine dst (BACKBUFFER_ADDRESS + dst) m)

/-- The loop copies lines down to the one below the screen. -/
lemma refreshLoop_eq {copyLine : ℤ → ℤ → Memory UInt8 → Memory UInt8}
    {firstLine deviceHeight pitch : ℕ} (i : ℕ) :
    refreshLoop copyLine firstLine deviceHeight pitch n i dst (BACKBUFFER_ADDRESS + dst) m =
      copyRows copyLine pitch (min n (deviceHeight + 1 - (firstLine + i))) dst m := by
  induction n generalizing i dst m with
  | zero => simp [refreshLoop, copyRows]
  | succ n ih =>
      rw [refreshLoop]
      by_cases hend : firstLine + i > deviceHeight
      · have hnone : min (n + 1) (deviceHeight + 1 - (firstLine + i)) = 0 := by omega
        rw [if_pos hend, hnone]
        rfl
      · have hsome : min (n + 1) (deviceHeight + 1 - (firstLine + i)) =
            min n (deviceHeight + 1 - (firstLine + (i + 1))) + 1 := by omega
        rw [if_neg hend, hsome, copyRows, add_assoc, ih]

/-- The byte is in one of `r` lines of `len` bytes. -/
def InRows (r pitch len : ℕ) (dst a : ℤ) : Prop :=
  ∃ i < r, dst + i * pitch ≤ a ∧ a < dst + i * pitch + len

lemma inRows_succ {r pitch len : ℕ} {dst a : ℤ} :
    InRows (r + 1) pitch len dst a ↔
      (dst ≤ a ∧ a < dst + len) ∨ InRows r pitch len (dst + pitch) a := by
  constructor
  · rintro ⟨i, hi, hlo, hhi⟩
    cases i with
    | zero =>
        simp only [Nat.cast_zero, zero_mul, add_zero] at hlo hhi
        exact .inl ⟨hlo, hhi⟩
    | succ i =>
        push_cast at hlo hhi
        exact .inr ⟨i, by omega, by linarith, by linarith⟩
  · rintro (⟨hlo, hhi⟩ | ⟨i, hi, hlo, hhi⟩)
    · exact ⟨0, by omega, by simpa using hlo, by simpa using hhi⟩
    · refine ⟨i + 1, by omega, ?_, ?_⟩ <;> push_cast <;> linarith

variable {r pitch : ℕ}

/-- The ranges that the lines use. -/
lemma copyRows_usedWithin (hu : 0 < u) (hn : 0 < n) (hdst : 0 ≤ dst) :
    (copyRows (copyUnits u n) pitch r dst m).UsedWithin 0 (2 * BUFFER_SIZE) ↔
      m.UsedWithin 0 (2 * BUFFER_SIZE) ∧
        ∀ i < r, dst + i * pitch + (u * n : ℕ) ≤ BUFFER_SIZE := by
  induction r generalizing dst m with
  | zero => simp [copyRows]
  | succ r ih =>
      have hpitch : (0 : ℤ) ≤ pitch := Int.natCast_nonneg _
      rw [copyRows, ih (by omega), copyUnits_usedWithin hu]
      simp only [hn.ne', false_or, BACKBUFFER_ADDRESS]
      constructor
      · rintro ⟨⟨hm, hline, hsrc⟩, hrest⟩
        refine ⟨hm, fun i hi => ?_⟩
        cases i with
        | zero =>
            push_cast
            linarith [hsrc.2]
        | succ i =>
            have hi := hrest i (by omega)
            push_cast at hi ⊢
            linarith
      · rintro ⟨hm, hall⟩
        have hfirst := hall 0 r.succ_pos
        push_cast at hfirst
        rw [zero_mul, add_zero] at hfirst
        refine ⟨⟨hm, ⟨hdst, by linarith⟩, by linarith, by linarith⟩, fun i hi => ?_⟩
        have hi := hall (i + 1) (by omega)
        push_cast at hi ⊢
        linarith

/-- **What the lines store.** -/
lemma copyRows_cell {v : ℤ → UInt8} (hdst : 0 ≤ dst)
    (hback : ∀ a, BACKBUFFER_ADDRESS ≤ a → m.cell a = v a)
    (hsame : ∀ a, BACKBUFFER_ADDRESS ≤ a → InRows r pitch (u * n) dst a →
      v (BACKBUFFER_ADDRESS + a) = v a) (a : ℤ) :
    (InRows r pitch (u * n) dst a →
        (copyRows (copyUnits u n) pitch r dst m).cell a = v (BACKBUFFER_ADDRESS + a)) ∧
      (¬InRows r pitch (u * n) dst a →
        (copyRows (copyUnits u n) pitch r dst m).cell a = m.cell a) := by
  induction r generalizing dst m with
  | zero =>
      refine ⟨?_, fun _ => rfl⟩
      rintro ⟨i, hi, -⟩
      omega
  | succ r ih =>
      have hpitch : (0 : ℤ) ≤ pitch := Int.natCast_nonneg _
      have hline := copyUnits_cell (u := u) (n := n) (m := m) hdst hback fun b hb hlo hhi =>
        hsame b hb (inRows_succ.2 (.inl ⟨hlo, by push_cast; exact hhi⟩))
      have hrest := ih (m := copyUnits u n dst (BACKBUFFER_ADDRESS + dst) m)
        (show 0 ≤ dst + pitch by omega) (fun b hb => by
          rw [hline]
          split_ifs with hin
          · exact hsame b hb (inRows_succ.2 (.inl ⟨hin.1, by push_cast; exact hin.2⟩))
          · exact hback b hb)
        fun b hb hin => hsame b hb (inRows_succ.2 (.inr hin))
      rw [copyRows]
      by_cases hin : InRows r pitch (u * n) (dst + pitch) a
      · exact ⟨fun _ => hrest.1 hin, fun h => absurd (inRows_succ.2 (.inr hin)) h⟩
      · rw [hrest.2 hin, hline]
        by_cases hfirst : dst ≤ a ∧ a < dst + u * n
        · rw [if_pos hfirst]
          refine ⟨fun _ => rfl, fun h => absurd (inRows_succ.2 (.inl ⟨hfirst.1, ?_⟩)) h⟩
          push_cast
          exact hfirst.2
        · rw [if_neg hfirst]
          refine ⟨fun h => ?_, fun _ => rfl⟩
          rcases inRows_succ.1 h with h | h
          · push_cast at h
            exact absurd h hfirst
          · exact absurd h hin

end Copy

/-! ## When the copy is exact -/

section Exact

variable {scr : Screen} {x y width height : ℕ}

/-- How many lines are copied. -/
def lineCount (scr : Screen) (y height : ℕ) : ℕ :=
  min (height % 2 ^ 16) (scr.height + 1 - y % 2 ^ 16)

/-- Where the copy starts. -/
def startOffset (scr : Screen) (x y : ℕ) : ℕ :=
  (y % 2 ^ 16 * (scr.bpp.bytes * scr.width) + x % 2 ^ 16 * scr.bpp.bytes) % 2 ^ 32

lemma Depth.bytes_pos (d : Depth) : 0 < d.bytes := by
  cases d <;> decide

lemma Depth.bytes_le (d : Depth) : d.bytes ≤ 4 := by
  cases d <;> decide

lemma Depth.mul_lt (d : Depth) {n : ℕ} (hn : n < 2 ^ 16) : d.bytes * n < 2 ^ 32 := by
  have hmul : d.bytes * n ≤ 4 * n := Nat.mul_le_mul_right _ d.bytes_le
  omega

/-- All three loops copy the bytes of the lines. -/
lemma refreshRectangle_eq (hwidth : 0 < scr.width) (hheight : 0 < scr.height) (m : Memory UInt8) :
    ∃ u n, 0 < u ∧ u * n = scr.bpp.bytes * (width % 2 ^ 16) ∧
      refreshRectangle scr x y width height m =
        .ok (copyRows (copyUnits u n) (scr.bpp.bytes * scr.width) (lineCount scr y height)
          (startOffset scr x y) m) := by
  have hpitch := Nat.mod_eq_of_lt (scr.bpp.mul_lt scr.width_lt)
  have hline := Nat.mod_eq_of_lt (scr.bpp.mul_lt (Nat.mod_lt width (by decide : 0 < 2 ^ 16)))
  rw [refreshRectangle, refreshRectangle0, if_neg (by omega)]
  simp only [hpitch, hline, refreshLoop_eq, FRONTBUFFER_ADDRESS, zero_add, add_zero]
  split_ifs with h8 h4
  · exact ⟨8, _, by decide, Nat.mul_div_cancel' (Nat.dvd_of_mod_eq_zero h8), rfl⟩
  · exact ⟨4, _, by decide, Nat.mul_div_cancel' (Nat.dvd_of_mod_eq_zero h4), rfl⟩
  · exact ⟨1, _, by decide, Nat.one_mul _, rfl⟩

/-- The bytes of pixels on the screen are in the front buffer. -/
lemma OnScreenByte.mem {a : ℤ} (h : OnScreenByte scr x y width height a) :
    0 ≤ a ∧ a < BUFFER_SIZE := by
  obtain ⟨p, ⟨⟨-, -, hcol⟩, -, -, hrow⟩, hlo, hhi⟩ := h
  have hle := scr.offset_le hcol hrow
  omega

lemma copyRows_none {u pitch r : ℕ} (dst : ℤ) (m : Memory UInt8) :
    copyRows (copyUnits u 0) pitch r dst m = m := by
  induction r generalizing dst with
  | zero => rfl
  | succ r ih => exact ih _

/-- Contents that tell the buffers apart. -/
def contrast : Memory UInt8 := ⟨fun a => if a < BACKBUFFER_ADDRESS then 0 else 1, []⟩

/-- **The copy is exact for all contents when it stores the bytes of the rectangle and no others.** -/
lemma refreshed_iff (hwidth : 0 < scr.width) (hheight : 0 < scr.height) :
    (∀ cells : ℤ → UInt8, ∃ m', refreshRectangle scr x y width height ⟨cells, []⟩ = .ok m' ∧
        Refreshed scr x y width height ⟨cells, []⟩ m') ↔
      ∀ a, InRows (lineCount scr y height) (scr.bpp.bytes * scr.width)
          (scr.bpp.bytes * (width % 2 ^ 16)) (startOffset scr x y) a ↔
        OnScreenByte scr x y width height a := by
  have hstart : (0 : ℤ) ≤ startOffset scr x y := Int.natCast_nonneg _
  constructor
  · intro h a
    obtain ⟨m', hcall, hcopied, hkept, hinside⟩ := h contrast.cell
    obtain ⟨u, n, hu, hun, heq⟩ := refreshRectangle_eq (x := x) (y := y) hwidth hheight contrast
    obtain rfl := Except.ok.inj (heq.symm.trans hcall)
    rw [← hun]
    -- the lines are in the front buffer, for otherwise bytes behind the back buffer are read
    have hfront (b : ℤ) (hb : InRows (lineCount scr y height) (scr.bpp.bytes * scr.width) (u * n)
        (startOffset scr x y) b) : 0 ≤ b ∧ b < BUFFER_SIZE := by
      obtain ⟨i, hi, hlo, hhi⟩ := hb
      have hi' : (0 : ℤ) ≤ i * (scr.bpp.bytes * scr.width : ℕ) := by positivity
      refine ⟨by omega, ?_⟩
      rcases Nat.eq_zero_or_pos n with rfl | hn
      · rw [mul_zero] at hhi
        omega
      · have hrow := ((copyRows_usedWithin hu hn hstart).1 hinside).2 i hi
        omega
    have hcell := copyRows_cell (v := contrast.cell) (m := contrast) hstart (fun _ _ => rfl)
      (fun b hb hin => absurd (hfront b hin).2 (not_lt.2 hb)) a
    have hone (b : ℤ) (hb : 0 ≤ b) : contrast.cell (BACKBUFFER_ADDRESS + b) = 1 :=
      if_neg (by omega)
    have hzero (hlt : a < BUFFER_SIZE) : contrast.cell a = 0 := if_pos hlt
    constructor
    · intro hin
      by_contra hout
      obtain ⟨hpos, hlt⟩ := hfront a hin
      have hsame := hkept a hout
      rw [hcell.1 hin, hone a hpos, hzero hlt] at hsame
      exact absurd hsame (by decide)
    · intro hin
      by_contra hout
      obtain ⟨hpos, hlt⟩ := hin.mem
      have hsame := hcopied a hin
      rw [hcell.2 hout, hone a hpos, hzero hlt] at hsame
      exact absurd hsame (by decide)
  · intro h cells
    obtain ⟨u, n, hu, hun, heq⟩ :=
      @refreshRectangle_eq scr x y width height hwidth hheight ⟨cells, []⟩
    rw [← hun] at h
    have hcell := copyRows_cell (v := cells) (m := ⟨cells, []⟩) hstart (fun _ _ => rfl)
      (fun b hb hin => absurd ((h b).1 hin).mem.2 (not_lt.2 hb))
    refine ⟨_, heq, fun a ha => (hcell a).1 ((h a).2 ha),
      fun a ha => (hcell a).2 fun hin => ha ((h a).1 hin), ?_⟩
    have hnone : UsedWithin ⟨cells, []⟩ 0 (2 * BUFFER_SIZE) := fun t ht => absurd ht List.not_mem_nil
    rcases Nat.eq_zero_or_pos n with rfl | hn
    · rw [copyRows_none]
      exact hnone
    · refine (copyRows_usedWithin hu hn hstart).2 ⟨hnone, fun i hi => ?_⟩
      -- the last byte of the line
      have hlen : 0 < u * n := Nat.mul_pos hu hn
      have hlast := ((h (startOffset scr x y + i * (scr.bpp.bytes * scr.width : ℕ) +
        (u * n : ℕ) - 1)).1 ⟨i, hi, by omega, by omega⟩).mem.2
      omega

/-! ### Pixels instead of bytes -/

/-- The pixel number `q`, line by line, is copied. -/
def Copied (scr : Screen) (x y width height q : ℕ) : Prop :=
  ∃ i < lineCount scr y height, (y % 2 ^ 16 + i) * scr.width + x % 2 ^ 16 ≤ q ∧
    q < (y % 2 ^ 16 + i) * scr.width + x % 2 ^ 16 + width % 2 ^ 16

/-- The pixel number `q` belongs to the rectangle on the screen. -/
def Due (scr : Screen) (x y width height q : ℕ) : Prop :=
  ∃ p, OnScreen scr x y width height p ∧ q = p.2 * scr.width + p.1

/-- The start of the copy is below `2 ^ 32` when a line is copied. -/
lemma startOffset_eq (hlines : 0 < lineCount scr y height) :
    startOffset scr x y = scr.bpp.bytes * (y % 2 ^ 16 * scr.width + x % 2 ^ 16) := by
  have hy : y % 2 ^ 16 ≤ scr.height := by
    rw [lineCount] at hlines
    omega
  have hfits : scr.bpp.bytes * (y % 2 ^ 16 * scr.width) ≤ 2 ^ 21 := by
    refine le_trans (Nat.mul_le_mul_left _ ?_) scr.fits
    rw [Nat.mul_comm]
    exact Nat.mul_le_mul_left _ hy
  have hx : scr.bpp.bytes * (x % 2 ^ 16) ≤ 4 * (x % 2 ^ 16) := Nat.mul_le_mul_right _ scr.bpp.bytes_le
  have hsum : y % 2 ^ 16 * (scr.bpp.bytes * scr.width) + x % 2 ^ 16 * scr.bpp.bytes =
      scr.bpp.bytes * (y % 2 ^ 16 * scr.width) + scr.bpp.bytes * (x % 2 ^ 16) := by ring
  rw [startOffset, hsum, Nat.mod_eq_of_lt (by omega), Nat.mul_add]

lemma inRows_iff (a : ℕ) :
    InRows (lineCount scr y height) (scr.bpp.bytes * scr.width)
        (scr.bpp.bytes * (width % 2 ^ 16)) (startOffset scr x y) a ↔
      Copied scr x y width height (a / scr.bpp.bytes) := by
  refine exists_congr fun i => and_congr_right fun hi => ?_
  have hstart : startOffset scr x y + i * (scr.bpp.bytes * scr.width) =
      scr.bpp.bytes * ((y % 2 ^ 16 + i) * scr.width + x % 2 ^ 16) := by
    rw [startOffset_eq (show 0 < lineCount scr y height by omega)]
    ring
  rw [Nat.le_div_iff_mul_le scr.bpp.bytes_pos, Nat.div_lt_iff_lt_mul scr.bpp.bytes_pos,
    Nat.add_mul _ (width % 2 ^ 16), Nat.mul_comm _ scr.bpp.bytes, ← hstart,
    Nat.mul_comm (width % 2 ^ 16)]
  norm_cast

lemma onScreenByte_iff (a : ℕ) :
    OnScreenByte scr x y width height a ↔ Due scr x y width height (a / scr.bpp.bytes) := by
  refine exists_congr fun p => and_congr_right fun _ => ?_
  have hoffset : scr.offset p.1 p.2 = (p.2 * scr.width + p.1) * scr.bpp.bytes := by
    rw [Screen.offset, Nat.mod_eq_of_lt scr.width_lt]
    ring
  have hdiv : a / scr.bpp.bytes = p.2 * scr.width + p.1 ↔
      p.2 * scr.width + p.1 ≤ a / scr.bpp.bytes ∧
        a / scr.bpp.bytes < p.2 * scr.width + p.1 + 1 := by omega
  rw [hdiv, Nat.le_div_iff_mul_le scr.bpp.bytes_pos, Nat.div_lt_iff_lt_mul scr.bpp.bytes_pos,
    Nat.add_mul _ 1, Nat.one_mul, ← hoffset]
  norm_cast

/-- Bytes and pixels tell the same story. -/
lemma bytes_iff_pixels :
    (∀ a, InRows (lineCount scr y height) (scr.bpp.bytes * scr.width)
          (scr.bpp.bytes * (width % 2 ^ 16)) (startOffset scr x y) a ↔
        OnScreenByte scr x y width height a) ↔
      ∀ q, Copied scr x y width height q ↔ Due scr x y width height q := by
  constructor
  · intro h q
    have hq := h (q * scr.bpp.bytes : ℕ)
    rwa [inRows_iff, onScreenByte_iff, Nat.mul_div_cancel _ scr.bpp.bytes_pos] at hq
  · intro h a
    rcases lt_or_ge a 0 with hneg | hpos
    · refine iff_of_false ?_ fun ha => absurd ha.mem.1 (not_le.2 hneg)
      rintro ⟨i, -, hlo, -⟩
      have hi : (0 : ℤ) ≤ i * (scr.bpp.bytes * scr.width : ℕ) := by positivity
      omega
    · obtain ⟨n, rfl⟩ := Int.eq_ofNat_of_zero_le hpos
      rw [inRows_iff, onScreenByte_iff]
      exact h _

/-! ### The pixels copied and the pixels due -/

/-- A pixel number has one line and one column. -/
lemma pixel_unique {w r c r' c' : ℕ} (hc : c < w) (hc' : c' < w) (h : r * w + c = r' * w + c') :
    r = r' ∧ c = c' := by
  have hw : 0 < w := by omega
  have hrow : r = r' := by
    have hdiv := congrArg (· / w) h
    simpa [Nat.mul_comm _ w, Nat.mul_add_div hw, Nat.div_eq_of_lt hc, Nat.div_eq_of_lt hc'] using hdiv
  subst hrow
  exact ⟨rfl, by omega⟩

/-- The pixels due, by line and column. -/
lemma due_iff {r c : ℕ} (hc : c < scr.width) :
    Due scr x y width height (r * scr.width + c) ↔
      (x ≤ c ∧ c < x + width) ∧ y ≤ r ∧ r < y + height ∧ r < scr.height := by
  constructor
  · rintro ⟨p, ⟨⟨hlo, hhi, hcol⟩, hrow⟩, heq⟩
    obtain ⟨rfl, rfl⟩ := pixel_unique hc hcol heq
    exact ⟨⟨hlo, hhi⟩, hrow⟩
  · rintro ⟨hcol, hrow⟩
    exact ⟨(c, r), ⟨⟨hcol.1, hcol.2, hc⟩, hrow⟩, rfl⟩

/-- When both sets of pixels are the same, and there is one, they start at the same pixel. -/
lemma start_of_copied_iff (h : ∀ q, Copied scr x y width height q ↔ Due scr x y width height q)
    (hline : 0 < width % 2 ^ 16) (hlines : 0 < lineCount scr y height) :
    x < scr.width ∧ y < scr.height ∧ 0 < width ∧ 0 < height := by
  obtain ⟨p, ⟨⟨hx, hx', hcol⟩, hy, hy', hrow⟩, -⟩ :=
    (h (y % 2 ^ 16 * scr.width + x % 2 ^ 16)).1 ⟨0, hlines, by simp, by simpa using hline⟩
  omega

/-- The lines end on the screen. -/
lemma copied_iff_of_fits (hx : x < scr.width) (hy : y < scr.height) (hline : 0 < width % 2 ^ 16)
    (hlines : 0 < height % 2 ^ 16) (hfits : x + width % 2 ^ 16 ≤ scr.width) :
    (∀ q, Copied scr x y width height q ↔ Due scr x y width height q) ↔
      (width < 2 ^ 16 ∨ x + width % 2 ^ 16 = scr.width) ∧ y + height % 2 ^ 16 ≤ scr.height ∧
        (height < 2 ^ 16 ∨ y + height % 2 ^ 16 = scr.height) := by
  have hwidth := scr.width_lt
  have hheight := scr.height_lt
  have hx16 : x % 2 ^ 16 = x := Nat.mod_eq_of_lt (by omega)
  have hy16 : y % 2 ^ 16 = y := Nat.mod_eq_of_lt (by omega)
  have hcopied (r c : ℕ) (hc : c < scr.width) : Copied scr x y width height (r * scr.width + c) ↔
      (x ≤ c ∧ c < x + width % 2 ^ 16) ∧ y ≤ r ∧ r < y + lineCount scr y height := by
    constructor
    · rintro ⟨i, hi, hlo, hhi⟩
      rw [hx16, hy16] at hlo hhi
      have hrow : r = y + i := by
        rcases lt_trichotomy r (y + i) with hlt | heq | hgt
        · have hmul : (r + 1) * scr.width ≤ (y + i) * scr.width := Nat.mul_le_mul_right _ hlt
          rw [Nat.add_mul, Nat.one_mul] at hmul
          omega
        · exact heq
        · have hmul : (y + i + 1) * scr.width ≤ r * scr.width := Nat.mul_le_mul_right _ hgt
          rw [Nat.add_mul _ 1, Nat.one_mul] at hmul
          omega
      subst hrow
      omega
    · rintro ⟨hcol, hlo, hhi⟩
      refine ⟨r - y, by omega, ?_, ?_⟩ <;> rw [hx16, hy16, Nat.add_sub_cancel' hlo] <;> omega
  have hcount : lineCount scr y height = min (height % 2 ^ 16) (scr.height + 1 - y) := by
    rw [lineCount, hy16]
  constructor
  · intro h
    have hsame (r c : ℕ) (hc : c < scr.width) := 
      ((hcopied r c hc).symm.trans (h _)).trans (due_iff hc)
    have hlast := (hsame (y + lineCount scr y height - 1) x hx).1 (by omega)
    refine ⟨?_, by omega, ?_⟩
    · by_contra hnot
      have hbeyond := (hsame y (x + width % 2 ^ 16) (by omega)).2 (by omega)
      omega
    · by_contra hnot
      have hbelow := (hsame (y + height % 2 ^ 16) x hx).2 (by omega)
      omega
  · rintro ⟨hright, hbottom, hexact⟩ q
    have hpos : 0 < scr.width := by omega
    have hq : q = q / scr.width * scr.width + q % scr.width := (Nat.div_add_mod' q scr.width).symm
    have hc : q % scr.width < scr.width := Nat.mod_lt _ hpos
    have hlines : lineCount scr y height = height % 2 ^ 16 := hcount.trans (min_eq_left (by omega))
    rw [hq, hcopied _ _ hc, due_iff hc, hlines]
    refine and_congr (and_congr_right fun _ => ?_) (and_congr_right fun _ => ?_) <;> omega

/-- If the pixels that are due end more than a line below the lines that are copied, all lines are copied and
the height was cut. -/
lemma lines_of_beyond {y height rows lines bottom k : ℕ} (hrows : rows < 2 ^ 16)
    (hpos : 0 < height % 2 ^ 16) (hlines : lines = min (height % 2 ^ 16) (rows + 1 - y))
    (hbottom : bottom = min (y + height) rows) (hk : bottom = y + (lines - 1) + 1 + k + 1) :
    2 ^ 16 ≤ height ∧ y + height % 2 ^ 16 + (k + 2) = rows + 1 := by
  have hin : bottom ≤ rows := hbottom.le.trans (min_le_right _ _)
  have hall : lines = height % 2 ^ 16 := by
    rcases min_choice (height % 2 ^ 16) (rows + 1 - y) with h | h
    · rw [hlines, h]
    · omega
  have hbig : 2 ^ 16 ≤ height := by
    by_contra hsmall
    have hle : bottom ≤ y + height := hbottom.le.trans (min_le_left _ _)
    rw [Nat.mod_eq_of_lt (not_le.1 hsmall)] at hall
    omega
  have hend : bottom = rows := hbottom.trans (min_eq_right (by omega))
  exact ⟨hbig, by omega⟩

/-- The lines are too long for the screen: they go on in the next lines. -/
lemma copied_iff_of_wraps (hx : x < scr.width) (hy : y < scr.height)
    (hlines : 0 < height % 2 ^ 16) (hwraps : scr.width < x + width % 2 ^ 16) :
    (∀ q, Copied scr x y width height q ↔ Due scr x y width height q) ↔
      x = 0 ∧ 2 ^ 16 ≤ height ∧
        ∃ k, width % 2 ^ 16 = k * scr.width ∧ y + height % 2 ^ 16 + k = scr.height + 1 := by
  have hwidth := scr.width_lt
  have hheight := scr.height_lt
  have hx16 : x % 2 ^ 16 = x := Nat.mod_eq_of_lt (by omega)
  have hy16 : y % 2 ^ 16 = y := Nat.mod_eq_of_lt (by omega)
  have hcount : lineCount scr y height = min (height % 2 ^ 16) (scr.height + 1 - y) := by
    rw [lineCount, hy16]
  constructor
  · intro h
    -- the first pixel of the second line is copied
    have hnext : Due scr x y width height ((y + 1) * scr.width + 0) := by
      refine (h _).1 ⟨0, by omega, ?_, ?_⟩ <;> rw [hx16, hy16] <;> ring_nf <;> omega
    obtain ⟨hcol, -⟩ := (due_iff (by omega)).1 hnext
    obtain rfl : x = 0 := by omega
    -- the last pixel copied is the last one due
    obtain ⟨bottom, hbottom⟩ : ∃ bottom, bottom = min (y + height) scr.height := ⟨_, rfl⟩
    have hupper : (y + (lineCount scr y height - 1)) * scr.width + width % 2 ^ 16 ≤
        bottom * scr.width := by
      obtain ⟨p, ⟨⟨-, -, hcol⟩, -, hrow, hrow'⟩, heq⟩ :=
        (h ((y + (lineCount scr y height - 1)) * scr.width + width % 2 ^ 16 - 1)).1
          ⟨lineCount scr y height - 1, by omega, by rw [hx16, hy16]; omega,
            by rw [hx16, hy16]; omega⟩
      have hmul : (p.2 + 1) * scr.width ≤ bottom * scr.width :=
        Nat.mul_le_mul_right _ (by omega)
      rw [Nat.add_mul, Nat.one_mul] at hmul
      omega
    have hlower : bottom * scr.width ≤
        (y + (lineCount scr y height - 1)) * scr.width + width % 2 ^ 16 := by
      have hlast : Due scr 0 y width height ((bottom - 1) * scr.width + (scr.width - 1)) :=
        (due_iff (by omega)).2 (by omega)
      obtain ⟨i, hi, -, hhi⟩ := (h _).2 hlast
      rw [hx16, hy16] at hhi
      have hmul : (y + i) * scr.width ≤ (y + (lineCount scr y height - 1)) * scr.width :=
        Nat.mul_le_mul_right _ (by omega)
      have hone : bottom * scr.width = (bottom - 1) * scr.width + scr.width := by
        rw [← Nat.succ_mul]
        congr 1
        omega
      omega
    -- so the line is a number of lines of the screen
    have hlt : y + (lineCount scr y height - 1) + 1 < bottom := by
      have hmul : (y + (lineCount scr y height - 1) + 1) * scr.width < bottom * scr.width := by
        rw [Nat.add_mul _ 1, Nat.one_mul]
        omega
      exact Nat.lt_of_mul_lt_mul_right hmul
    obtain ⟨k, hk⟩ := Nat.exists_eq_add_of_lt hlt
    have hlong : width % 2 ^ 16 = (k + 2) * scr.width := by
      have hsplit : bottom * scr.width =
          (y + (lineCount scr y height - 1)) * scr.width + (k + 2) * scr.width := by
        rw [hk]
        ring
      omega
    obtain ⟨hbig, hsum⟩ := lines_of_beyond hheight hlines hcount hbottom hk
    exact ⟨rfl, hbig, k + 2, hlong, hsum⟩
  · rintro ⟨rfl, hbig, k, hlong, hsum⟩ q
    have hk : 1 < k := by
      by_contra hk
      have hmul : k * scr.width ≤ 1 * scr.width := Nat.mul_le_mul_right _ (by omega)
      omega
    have hpos : 0 < scr.width := by omega
    have hq : q / scr.width * scr.width + q % scr.width = q := Nat.div_add_mod' q scr.width
    have hc : q % scr.width < scr.width := Nat.mod_lt _ hpos
    have hdue : Due scr 0 y width height q ↔
        y * scr.width ≤ q ∧ q < scr.height * scr.width := by
      rw [← Nat.le_div_iff_mul_le hpos, ← Nat.div_lt_iff_lt_mul hpos]
      conv_lhs => rw [← hq]
      rw [due_iff hc]
      have hone : 1 * scr.width ≤ k * scr.width := Nat.mul_le_mul_right _ (by omega)
      omega
    rw [hdue]
    have hend (i : ℕ) : (y + i) * scr.width + 0 + width % 2 ^ 16 = (y + i + k) * scr.width := by
      rw [hlong]
      ring
    constructor
    · rintro ⟨i, hi, hlo, hhi⟩
      rw [hx16, hy16] at hlo hhi
      rw [hend] at hhi
      have hfirst : y * scr.width ≤ (y + i) * scr.width := Nat.mul_le_mul_right _ (by omega)
      have hlast : (y + i + k) * scr.width ≤ scr.height * scr.width :=
        Nat.mul_le_mul_right _ (by omega)
      omega
    · rintro ⟨hlo, hhi⟩
      rcases le_or_gt (q / scr.width) (y + height % 2 ^ 16 - 1) with hrow | hrow
      · have hfirst := (Nat.le_div_iff_mul_le hpos).2 hlo
        refine ⟨q / scr.width - y, by omega, ?_, ?_⟩
        · rw [hx16, hy16, Nat.add_sub_cancel' hfirst]
          omega
        · rw [hx16, hy16, Nat.add_sub_cancel' hfirst]
          omega
      · refine ⟨height % 2 ^ 16 - 1, by omega, ?_, ?_⟩
        · rw [hx16, hy16]
          have hmul := (Nat.le_div_iff_mul_le hpos).1 hrow.le
          have hsame : y + height % 2 ^ 16 - 1 = y + (height % 2 ^ 16 - 1) := by omega
          rwa [hsame] at hmul
        · rw [hx16, hy16, hend]
          have hsame : y + (height % 2 ^ 16 - 1) + k = scr.height := by omega
          rwa [hsame]

/-- No line is copied: no pixel may be due. -/
lemma copied_iff_of_none
    (hnone : ¬(0 < width % 2 ^ 16 ∧ 0 < height % 2 ^ 16 ∧ y % 2 ^ 16 ≤ scr.height)) :
    (∀ q, Copied scr x y width height q ↔ Due scr x y width height q) ↔
      scr.width ≤ x ∨ width = 0 ∨ scr.height ≤ y ∨ height = 0 := by
  have hempty (q : ℕ) : ¬Copied scr x y width height q := by
    rintro ⟨i, hi, hlo, hhi⟩
    rw [lineCount] at hi
    omega
  constructor
  · intro h
    by_contra hsome
    have hdue : Due scr x y width height (y * scr.width + x) :=
      (due_iff (by omega)).2 (by omega)
    exact hempty _ ((h _).2 hdue)
  · intro h q
    refine iff_of_false (hempty q) ?_
    rintro ⟨p, ⟨hcol, hrow⟩, -⟩
    omega

/-- **When the pixels copied are the pixels due.** -/
lemma copied_iff (hwidth : 0 < scr.width) (hheight : 0 < scr.height) :
    (∀ q, Copied scr x y width height q ↔ Due scr x y width height q) ↔
      RefreshCondition scr x y width height := by
  rw [RefreshCondition, and_iff_right hwidth, and_iff_right hheight]
  split_ifs with hsome
  · obtain ⟨hline, hlines, hy⟩ := hsome
    have hcount : 0 < lineCount scr y height := by
      rw [lineCount]
      omega
    by_cases hstart : x < scr.width ∧ y < scr.height
    · obtain ⟨hx, hy⟩ := hstart
      rw [and_iff_right hx, and_iff_right hy]
      rcases le_or_gt (x + width % 2 ^ 16) scr.width with hfits | hwraps
      · rw [copied_iff_of_fits hx hy hline hlines hfits, and_iff_right hfits]
        refine (or_iff_left_of_imp ?_).symm
        rintro ⟨rfl, hbig, k, hlong, hsum⟩
        have hk : k = 1 := by
          have hlt : k * scr.width < 2 * scr.width := by omega
          have hk2 := Nat.lt_of_mul_lt_mul_right hlt
          have hk0 : k ≠ 0 := by
            rintro rfl
            omega
          omega
        subst hk
        omega
      · rw [copied_iff_of_wraps hx hy hlines hwraps]
        refine (or_iff_right ?_).symm
        rintro ⟨hfits, -⟩
        omega
    · refine iff_of_false (fun h => hstart ?_) fun h => hstart ⟨h.1, h.2.1⟩
      have hboth := start_of_copied_iff h hline hcount
      exact ⟨hboth.1, hboth.2.1⟩
  · exact copied_iff_of_none hsome

/-- **`refresh_rectangle` copies exactly the rectangle under the condition and only then.** -/
theorem refreshRectangle_exact (scr : Screen) (x y width height : ℕ) :
    (∀ cells : ℤ → UInt8, ∃ m', refreshRectangle scr x y width height ⟨cells, []⟩ = .ok m' ∧
        Refreshed scr x y width height ⟨cells, []⟩ m') ↔
      RefreshCondition scr x y width height := by
  by_cases hscr : 0 < scr.width ∧ 0 < scr.height
  · rw [refreshed_iff hscr.1 hscr.2, bytes_iff_pixels, copied_iff hscr.1 hscr.2]
  · refine iff_of_false (fun h => ?_) fun h => hscr ⟨h.1, h.2.1⟩
    obtain ⟨m', hcall, -⟩ := h fun _ => 0
    rw [refreshRectangle, refreshRectangle0, if_pos (by omega)] at hcall
    cases hcall

/-- A rectangle of two columns at the right edge: the second column goes to the left edge. -/
theorem refreshRectangle_wraps :
    ¬∀ cells : ℤ → UInt8, ∃ m', refreshRectangle .svga 799 0 2 1 ⟨cells, []⟩ = .ok m' ∧
      Refreshed .svga 799 0 2 1 ⟨cells, []⟩ m' := by
  rw [refreshed_iff (by decide) (by decide), bytes_iff_pixels,
    copied_iff_of_wraps (by decide) (by decide) (by decide) (by decide)]
  rintro ⟨h, -⟩
  exact absurd h (by decide)

end Exact

end Gramado
