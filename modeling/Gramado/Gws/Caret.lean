import Gramado.Lib.Run
import Gramado.Core.CStrings
import Gramado.Gws.CreateWindow

/-!
# The caret of an edit box

`wm_draw_char_into_the_window` in `adam/gram3d/demo00/wm.c`.  Backspace, Tab and the printable characters
move the caret `ip_x`, `ip_y`, which counts in characters of 8 by 8 pixels.  At the last column the caret
goes back to the first one, and in a box of multiple lines to the next line, the last one included.

An `int` operation whose result is no `int` ends the call.

* `caret_stays_iff` — which keys leave the caret, and so everything that is drawn, in the window.
-/

namespace Gramado.Gws

open Clib StepRun

/-- `VK_BACK`. -/
def VK_BACK : ℤ := 0x0E

/-- `VK_TAB`. -/
def VK_TAB : ℤ := 0x0F

/-- `WT_SCROLLBAR`. -/
def WT_SCROLLBAR : ℕ := 6

/-- A window with an input pointer for the keyboard. -/
structure TextWindow extends GwsWindow where
  ipX : ℤ
  ipY : ℤ
  widthInChars : ℕ
  heightInChars : ℕ

/-- A character that was drawn: the place in the window, and the rectangle that was refreshed. -/
structure DrawnChar where
  x : ℕ
  y : ℕ
  char : UInt8
  refreshed : GwsRect
  deriving DecidableEq

/-- The window, and what was drawn into it. -/
structure TextState where
  window : TextWindow
  drawn : List DrawnChar

namespace TextState

/-- The caret is set. -/
def setCaret (s : TextState) (x y : ℤ) : TextState :=
  { s with window := { s.window with ipX := x, ipY := y } }

/-- The caret goes to a column, and from behind the last one to the next line. -/
def moveTo (s : TextState) (x : ℤ) : Except Undefined TextState :=
  if toUlong x ≥ s.window.widthInChars then
    if s.window.type = WT_EDITBOX_MULTIPLE_LINES then do
      let y ← intResult (s.window.ipY + 1)
      .ok (s.setCaret 0 y)
    else .ok (s.setCaret 0 s.window.ipY)
  else .ok (s.setCaret x s.window.ipY)

/-- `dtextDrawText` and `gws_refresh_rectangle` at the caret. -/
def drawChar (s : TextState) (ch : UInt8) : Except Undefined TextState := do
  let x ← intResult (s.window.ipX * 8)
  let y ← intResult (s.window.ipY * 8)
  let place : GwsRect :=
    ⟨ulongAdd s.window.absoluteX (toUlong x), ulongAdd s.window.absoluteY (toUlong y), 8, 8⟩
  .ok { s with drawn := s.drawn ++ [⟨toUlong x, toUlong y, ch, place⟩] }

end TextState

/-- The types that take no characters. -/
def IsPlain (type : ℕ) : Prop :=
  type ∈ [WT_OVERLAPPED, WT_SCROLLBAR, WT_STATUSBAR, WT_CHECKBOX, WT_BUTTON, WT_ICON]

instance (type : ℕ) : Decidable (IsPlain type) := inferInstanceAs (Decidable (_ ∈ _))

/-- Not a control character, and no character of more than seven bits. -/
def IsPrintable (ascii : UInt8) : Prop := ¬(ascii < 0x20 ∨ ascii ≥ 0x7F)

instance (ascii : UInt8) : Decidable (IsPrintable ascii) := inferInstanceAs (Decidable (¬_))

/-- `wm_draw_char_into_the_window`. -/
def wmDrawCharIntoTheWindow (s : TextState) (ch : ℤ) : Except Undefined TextState :=
  if s.window.magic ≠ 1234 then .ok s
  else if ch < 0 then .ok s
  else if ch = VK_BACK then do
    let x ← intResult (s.window.ipX - 1)
    .ok (s.setCaret (if x < 0 then 0 else x) s.window.ipY)
  else if ch = VK_TAB then do
    let x ← intResult (s.window.ipX + 8)
    s.moveTo x
  else if ¬IsPrintable (toByte ch) then .ok s
  else if IsPlain s.window.type then .ok s
  else if IsEditbox s.window.type then do
    let s ← s.drawChar (toByte ch)
    let x ← intResult (s.window.ipX + 1)
    s.moveTo x
  else .ok s

/-! ## The caret in the window -/

/-- A character was drawn and refreshed in the window. -/
structure DrawnChar.Inside (w : TextWindow) (c : DrawnChar) : Prop where
  right : c.x + 8 ≤ w.widthInChars * 8
  bottom : c.y + 8 ≤ w.heightInChars * 8
  refreshed : c.refreshed = ⟨ulongAdd w.absoluteX c.x, ulongAdd w.absoluteY c.y, 8, 8⟩

/-- **The caret is in the window**, and so is what was drawn. -/
structure TextState.Inside (s : TextState) : Prop where
  left : 0 ≤ s.window.ipX
  right : s.window.ipX < s.window.widthInChars
  top : 0 ≤ s.window.ipY
  bottom : s.window.ipY < s.window.heightInChars
  drawn : ∀ c ∈ s.drawn, c.Inside s.window

/-- A live edit box.  The counters are of the type `int`. -/
structure TextState.IsEditbox (s : TextState) : Prop where
  magic : s.window.magic = 1234
  editbox : Gws.IsEditbox s.window.type
  column : INT_MIN ≤ s.window.ipX ∧ s.window.ipX ≤ INT_MAX
  line : INT_MIN ≤ s.window.ipY ∧ s.window.ipY ≤ INT_MAX

/-- There is a line below, if one is needed for the column `x`. -/
def TextState.HasRoom (s : TextState) (x : ℤ) : Prop :=
  s.window.widthInChars ≤ x → s.window.type = WT_EDITBOX_MULTIPLE_LINES →
    s.window.ipY + 1 < s.window.heightInChars ∧ s.window.ipY + 1 ≤ INT_MAX

/-- **A key that keeps the caret in the window.**  Tab and the printable characters need a line below,
if they go behind the last column of a box of multiple lines.  The numbers have to be of the type `int`:
the column behind a Tab, and the pixels where a character is drawn. -/
structure TextState.Accepts (s : TextState) (ch : ℤ) : Prop where
  tab : ch = VK_TAB → s.window.ipX + 8 ≤ INT_MAX ∧ s.HasRoom (s.window.ipX + 8)
  char : 0 ≤ ch → ch ≠ VK_BACK → ch ≠ VK_TAB → IsPrintable (toByte ch) →
    s.window.ipX * 8 ≤ INT_MAX ∧ s.window.ipY * 8 ≤ INT_MAX ∧ s.HasRoom (s.window.ipX + 1)

section

variable {s s' : TextState} {x y ch : ℤ} {c : UInt8}

lemma intMax_eq : INT_MAX = 2147483647 := rfl

lemma intMin_eq : INT_MIN = -2147483648 := rfl

lemma toUlong_of_int (hlo : 0 ≤ x) (hhi : x ≤ INT_MAX) : (toUlong x : ℤ) = x := by
  have hmax := intMax_eq
  rw [toUlong, Int.toNat_of_nonneg (Int.emod_nonneg _ (by decide)), Int.emod_eq_of_lt hlo (by omega)]

lemma intResult_range (h : intResult x = .ok y) : y = x ∧ INT_MIN ≤ y ∧ y ≤ INT_MAX := by
  rw [intResult] at h
  by_cases hx : INT_MIN ≤ x ∧ x ≤ INT_MAX
  · rw [if_pos hx] at h
    cases h
    exact ⟨rfl, hx⟩
  · rw [if_neg hx] at h
    cases h

namespace TextState

/-! ## What stays -/

lemma IsEditbox.setCaret (hs : s.IsEditbox) (hx : INT_MIN ≤ x ∧ x ≤ INT_MAX) (hy : INT_MIN ≤ y ∧ y ≤ INT_MAX) :
    (s.setCaret x y).IsEditbox :=
  ⟨hs.magic, hs.editbox, hx, hy⟩

lemma IsEditbox.moveTo (hs : s.IsEditbox) (hx : INT_MIN ≤ x ∧ x ≤ INT_MAX) (h : s.moveTo x = .ok s') :
    s'.IsEditbox := by
  have hzero : INT_MIN ≤ 0 ∧ 0 ≤ INT_MAX := ⟨by decide, by decide⟩
  rw [TextState.moveTo] at h
  by_cases hbehind : toUlong x ≥ s.window.widthInChars
  · rw [if_pos hbehind] at h
    by_cases hmultiple : s.window.type = WT_EDITBOX_MULTIPLE_LINES
    · rw [if_pos hmultiple] at h
      obtain ⟨y, hy, h⟩ := bind_eq_ok h
      cases h
      exact hs.setCaret hzero (intResult_range hy).2
    · rw [if_neg hmultiple] at h
      cases h
      exact hs.setCaret hzero hs.line
  · rw [if_neg hbehind] at h
    cases h
    exact hs.setCaret hx hs.line

lemma IsEditbox.drawChar (hs : s.IsEditbox) (h : s.drawChar c = .ok s') : s'.IsEditbox := by
  rw [TextState.drawChar] at h
  obtain ⟨x, -, h⟩ := bind_eq_ok h
  obtain ⟨y, -, h⟩ := bind_eq_ok h
  cases h
  exact ⟨hs.magic, hs.editbox, hs.column, hs.line⟩

/-- **An edit box stays one.** -/
lemma IsEditbox.wmDrawChar (hs : s.IsEditbox) (h : wmDrawCharIntoTheWindow s ch = .ok s') : s'.IsEditbox := by
  have hplain : ¬IsPlain s.window.type := by
    rcases hs.editbox with h | h <;> rw [h] <;> decide
  rw [wmDrawCharIntoTheWindow, if_neg (not_not.2 hs.magic)] at h
  by_cases hneg : ch < 0
  · rw [if_pos hneg] at h
    cases h
    exact hs
  rw [if_neg hneg] at h
  by_cases hback : ch = VK_BACK
  · rw [if_pos hback] at h
    obtain ⟨x, hx, h⟩ := bind_eq_ok h
    have hrange := intResult_range hx
    cases h
    by_cases hlow : x < 0
    · rw [if_pos hlow]
      exact hs.setCaret ⟨by decide, by decide⟩ hs.line
    · rw [if_neg hlow]
      exact hs.setCaret hrange.2 hs.line
  rw [if_neg hback] at h
  by_cases htab : ch = VK_TAB
  · rw [if_pos htab] at h
    obtain ⟨x, hx, h⟩ := bind_eq_ok h
    exact hs.moveTo (intResult_range hx).2 h
  rw [if_neg htab] at h
  by_cases hprint : IsPrintable (toByte ch)
  · rw [if_neg (not_not.2 hprint), if_neg hplain, if_pos hs.editbox] at h
    obtain ⟨t, ht, h⟩ := bind_eq_ok h
    obtain ⟨x, hx, h⟩ := bind_eq_ok h
    exact (hs.drawChar ht).moveTo (intResult_range hx).2 h
  · rw [if_pos hprint] at h
    cases h
    exact hs

/-! ## One key -/

/-- The caret goes to a place in the window. -/
lemma Inside.setCaret (hs : s.Inside) (hx : 0 ≤ x) (hx' : x < s.window.widthInChars) (hy : 0 ≤ y)
    (hy' : y < s.window.heightInChars) : (s.setCaret x y).Inside where
  left := hx
  right := hx'
  top := hy
  bottom := hy'
  drawn c hc := ⟨(hs.drawn c hc).right, (hs.drawn c hc).bottom, (hs.drawn c hc).refreshed⟩

lemma no_state_of_error {e : Undefined} : ¬∃ s' : TextState, .error e = Except.ok s' ∧ s'.Inside := by
  rintro ⟨s', hs', -⟩
  exact absurd hs' (by simp)

/-- **A move to the right** ends in the window exactly if there is room for it. -/
lemma moveTo_iff (hs : s.Inside) (hx : 0 ≤ x) (hxm : x ≤ INT_MAX) :
    (∃ s', s.moveTo x = .ok s' ∧ s'.Inside) ↔ s.HasRoom x := by
  have hcast := toUlong_of_int hx hxm
  have hwidth : (0 : ℤ) < s.window.widthInChars := lt_of_le_of_lt hs.left hs.right
  have hmin := intMin_eq
  have htop := hs.top
  rw [TextState.moveTo, TextState.HasRoom]
  by_cases hbehind : (s.window.widthInChars : ℤ) ≤ x
  swap
  · -- the caret stays in its line
    rw [if_neg (by omega)]
    refine iff_of_true ⟨_, rfl, ?_⟩ fun h => absurd h hbehind
    exact hs.setCaret hx (by omega) hs.top hs.bottom
  rw [if_pos (by omega)]
  by_cases hmultiple : s.window.type = WT_EDITBOX_MULTIPLE_LINES
  swap
  · rw [if_neg hmultiple]
    refine iff_of_true ⟨_, rfl, ?_⟩ fun _ h => absurd h hmultiple
    exact hs.setCaret le_rfl hwidth hs.top hs.bottom
  rw [if_pos hmultiple]
  simp only [hbehind, hmultiple, forall_const]
  by_cases hint : s.window.ipY + 1 ≤ INT_MAX
  · rw [intResult_ok (by omega) hint, ok_bind]
    constructor
    · rintro ⟨s', hs', hin⟩
      obtain rfl := Except.ok.inj hs'
      exact ⟨hin.bottom, hint⟩
    · rintro ⟨hroom, -⟩
      exact ⟨_, rfl, hs.setCaret le_rfl hwidth (by omega) hroom⟩
  · rw [intResult_error (by omega), error_bind]
    exact iff_of_false no_state_of_error fun h => hint h.2

/-- What is drawn at the caret is drawn in the window. -/
lemma drawChar_inside (hs : s.Inside) (hx : s.window.ipX * 8 ≤ INT_MAX) (hy : s.window.ipY * 8 ≤ INT_MAX) :
    ∃ s', s.drawChar c = .ok s' ∧ s'.Inside ∧ s'.window = s.window := by
  have hmin := intMin_eq
  have hleft := hs.left
  have htop := hs.top
  have hright := hs.right
  have hbottom := hs.bottom
  have hcolumn := toUlong_of_int (x := s.window.ipX * 8) (by omega) hx
  have hline := toUlong_of_int (x := s.window.ipY * 8) (by omega) hy
  have hfitX : toUlong (s.window.ipX * 8) + 8 ≤ s.window.widthInChars * 8 := by omega
  have hfitY : toUlong (s.window.ipY * 8) + 8 ≤ s.window.heightInChars * 8 := by omega
  rw [TextState.drawChar, intResult_ok (by omega) hx, ok_bind, intResult_ok (by omega) hy, ok_bind]
  refine ⟨_, rfl, ⟨hleft, hright, htop, hbottom, ?_⟩, rfl⟩
  simp only [List.forall_mem_append, List.forall_mem_singleton]
  exact ⟨hs.drawn, ⟨hfitX, hfitY, rfl⟩⟩

/-- **One key** leaves the caret in the window exactly if it is accepted. -/
lemma wmDrawChar_iff (hbox : s.IsEditbox) (hs : s.Inside) :
    (∃ s', wmDrawCharIntoTheWindow s ch = .ok s' ∧ s'.Inside) ↔ s.Accepts ch := by
  have hmax := intMax_eq
  have hmin := intMin_eq
  have hleft := hs.left
  have htop := hs.top
  have hright := hs.right
  have hcolumn := hbox.column
  have hplain : ¬IsPlain s.window.type := by
    rcases hbox.editbox with h | h <;> rw [h] <;> decide
  rw [wmDrawCharIntoTheWindow, if_neg (not_not.2 hbox.magic)]
  by_cases hneg : ch < 0
  · rw [if_pos hneg]
    refine iff_of_true ⟨s, rfl, hs⟩ ⟨?_, fun h => absurd hneg (not_lt.2 h)⟩
    rintro rfl
    exact absurd hneg (by decide)
  rw [if_neg hneg]
  by_cases hback : ch = VK_BACK
  · rw [if_pos hback, intResult_ok (by omega) (by omega), ok_bind]
    refine iff_of_true ⟨_, rfl, ?_⟩ ⟨fun h => ?_, fun _ h => absurd hback h⟩
    · by_cases hlow : s.window.ipX - 1 < 0
      · rw [if_pos hlow]
        exact hs.setCaret le_rfl (by omega) htop hs.bottom
      · rw [if_neg hlow]
        exact hs.setCaret (by omega) (by omega) htop hs.bottom
    · exact absurd (hback.symm.trans h) (by decide)
  rw [if_neg hback]
  by_cases htab : ch = VK_TAB
  · have haccepts : s.Accepts ch ↔ s.window.ipX + 8 ≤ INT_MAX ∧ s.HasRoom (s.window.ipX + 8) :=
      ⟨fun h => h.tab htab, fun h => ⟨fun _ => h, fun _ _ hne => absurd htab hne⟩⟩
    rw [if_pos htab, haccepts]
    by_cases hint : s.window.ipX + 8 ≤ INT_MAX
    · rw [intResult_ok (by omega) hint, ok_bind, moveTo_iff hs (by omega) hint, and_iff_right hint]
    · rw [intResult_error (by omega), error_bind]
      exact iff_of_false no_state_of_error fun h => hint h.1
  rw [if_neg htab]
  by_cases hprint : IsPrintable (toByte ch)
  swap
  · rw [if_pos hprint]
    exact iff_of_true ⟨s, rfl, hs⟩ ⟨fun h => absurd h htab, fun _ _ _ h => absurd h hprint⟩
  have haccepts : s.Accepts ch ↔ s.window.ipX * 8 ≤ INT_MAX ∧ s.window.ipY * 8 ≤ INT_MAX ∧
      s.HasRoom (s.window.ipX + 1) :=
    ⟨fun h => h.char (not_lt.1 hneg) hback htab hprint, fun h => ⟨fun h => absurd h htab, fun _ _ _ _ => h⟩⟩
  rw [if_neg (not_not.2 hprint), if_neg hplain, if_pos hbox.editbox, haccepts]
  by_cases hx : s.window.ipX * 8 ≤ INT_MAX
  swap
  · rw [TextState.drawChar, intResult_error (by omega), error_bind, error_bind]
    exact iff_of_false no_state_of_error fun h => hx h.1
  by_cases hy : s.window.ipY * 8 ≤ INT_MAX
  swap
  · rw [TextState.drawChar, intResult_ok (by omega) hx, ok_bind, intResult_error (by omega), error_bind,
      error_bind]
    exact iff_of_false no_state_of_error fun h => hy h.2.1
  obtain ⟨t, ht, htin, hwindow⟩ := drawChar_inside (c := toByte ch) hs hx hy
  rw [ht, ok_bind, and_iff_right hx, and_iff_right hy, hwindow, intResult_ok (by omega) (by omega), ok_bind,
    moveTo_iff htin (by omega) (by omega), TextState.HasRoom, TextState.HasRoom, hwindow]

end TextState

end

/-- **Which keys leave the caret in the window**, and with it everything that is drawn. -/
theorem caret_stays_iff {s : TextState} (hbox : s.IsEditbox) (hs : s.Inside) (keys : List ℤ) :
    Stays wmDrawCharIntoTheWindow TextState.Inside s keys ↔
      Obeys wmDrawCharIntoTheWindow TextState.Accepts s keys :=
  stays_iff_obeys (fun _ _ _ h => h.wmDrawChar) (fun _ _ => TextState.wmDrawChar_iff) keys s hbox hs

/-- An edit box of multiple lines, with one line of two characters. -/
def smallBox : TextState where
  window := { GwsWindow.zero with
    used := TRUE
    magic := 1234
    type := WT_EDITBOX_MULTIPLE_LINES
    width := 16
    height := 8
    ipX := 0
    ipY := 0
    widthInChars := 2
    heightInChars := 1 }
  drawn := []

lemma smallBox_isEditbox : smallBox.IsEditbox := ⟨rfl, .inr rfl, by decide, by decide⟩

lemma smallBox_inside : smallBox.Inside :=
  ⟨by decide, by decide, by decide, by decide, List.forall_mem_nil _⟩

/-- A Tab, pressed once. -/
theorem caret_stays_iff_tab : Stays wmDrawCharIntoTheWindow TextState.Inside smallBox [VK_TAB] ↔
    Obeys wmDrawCharIntoTheWindow TextState.Accepts smallBox [VK_TAB] :=
  caret_stays_iff smallBox_isEditbox smallBox_inside [VK_TAB]

/-- **A Tab in the last line** takes the caret out of the window. -/
theorem caret_stays_fails : ¬∀ (s : TextState) (keys : List ℤ), s.IsEditbox → s.Inside →
    Stays wmDrawCharIntoTheWindow TextState.Inside s keys := by
  intro hall
  obtain ⟨-, s', hs', hin⟩ := hall smallBox [VK_TAB] smallBox_isEditbox smallBox_inside
  have hmoved : wmDrawCharIntoTheWindow smallBox VK_TAB = .ok (smallBox.setCaret 0 1) := rfl
  obtain rfl := Except.ok.inj (hmoved.symm.trans hs')
  exact absurd hin.head.bottom (by decide)

end Gramado.Gws
