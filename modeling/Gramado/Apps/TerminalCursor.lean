import Gramado.Apps.Terminal
import Gramado.Dev.ConsoleCursor

/-!
# The cursor of the terminal

The cursor should stay inside of the terminal, and with it every cell that is drawn and every store
into `LINES`.  Only a new line looks at the last row; a character in the last cell leaves the
terminal at the bottom, and the commands that move the cursor are bounded by 24 rows and 80 columns,
whatever the size is.

* `ByteOk` — the condition of a byte, read before it.
* `cursor_run` — the cursor stays inside exactly as long as every byte meets its condition.
-/

namespace Gramado.Terminal

open StepRun

/-! ## What should hold -/

/-- A cell of a terminal of `w` columns and `h` rows. -/
def IsCell (w h : ℕ) (x y : ℤ) : Prop := (0 ≤ x ∧ x < w) ∧ 0 ≤ y ∧ y < h

/-- What is drawn or stored belongs to a cell of the terminal. -/
def TermEvent.Inside (w h charWidth charHeight : ℕ) : TermEvent → Prop
  | .drawChar x y _ => ∃ col row : ℕ, IsCell w h col row ∧
      x = col * charWidth % 2 ^ 16 ∧ y = row * charHeight % 2 ^ 16
  | .store row col _ => IsCell w h col row
  | .clear => True

/-- **What should hold after each byte.** -/
def Term.Shown (s : Term) : Prop :=
  IsCell s.widthInChars s.heightInChars s.cursorX s.cursorY ∧
    ∀ e ∈ s.log, e.Inside s.widthInChars s.heightInChars s.charWidth s.charHeight

/-- The saved position is in the terminal as well. -/
def Term.Inside (s : Term) : Prop :=
  s.Shown ∧ IsCell s.widthInChars s.heightInChars s.textSavedCol s.textSavedRow

/-! ## When it does -/

/-- The cursor is not in the last cell. -/
def NotLast (s : Term) : Prop := s.cursorX + 1 < s.widthInChars ∨ s.cursorY + 1 < s.heightInChars

/-- The condition of a command. -/
def CommandOk (s : Term) : CsiAction → Prop
  | .down => min (s.cursorY + s.ivalue) 24 < s.heightInChars
  | .right => min (s.cursorX + s.ivalue) 79 < s.widthInChars
  | .erase => s.cursorX + s.ivalue < 80 →
      s.cursorY * s.widthInChars + s.cursorX + s.ivalue < s.widthInChars * s.heightInChars
  | _ => True

/-- **The condition of a byte**: a byte that is drawn as a character does not come to the last cell,
and the commands stay inside. -/
def ByteOk (s : Term) (ascii : UInt8) : Prop :=
  if ¬s.sequenceStatus ∧ ¬IsControl ascii then NotLast s
  else if IsControl ascii then ascii = 9 ∨ ascii = 8 ∨ ascii = 12 → NotLast s
  else if s.esc.start then
    if s.esc.csi then CommandOk s (csiAction ascii)
    else if s.esc.strEnd ∨ s.esc.altCharset ∨ s.esc.test then True
    else escAction ascii = .mark → NotLast s
  else True

/-- The condition of a step. -/
def StepOk (s : Term) : TermStep → Prop
  | .reset => True
  | .char ascii => ByteOk s ascii

instance (s : Term) : Decidable (NotLast s) := inferInstanceAs (Decidable (_ ∨ _))

instance (s : Term) : ∀ action, Decidable (CommandOk s action)
  | .down => inferInstanceAs (Decidable (_ < _))
  | .right => inferInstanceAs (Decidable (_ < _))
  | .erase => inferInstanceAs (Decidable (_ → _))
  | .endOfSequence | .saveCur | .restoreCur | .up | .left | .style | .value => .isTrue trivial

instance (s : Term) (ascii : UInt8) : Decidable (ByteOk s ascii) :=
  inferInstanceAs (Decidable (ite _ _ _))

instance (s : Term) : ∀ e, Decidable (StepOk s e)
  | .reset => .isTrue trivial
  | .char ascii => inferInstanceAs (Decidable (ByteOk s ascii))

/-! ## Where the functions leave the cursor -/

section

variable {s : Term}

/-- A coordinate below 2 ^ 64 is compared as it is. -/
lemma toUlong_ge {x : ℤ} {w : ℕ} (hx : 0 ≤ x) (hx' : x < 2 ^ 64) : toUlong x ≥ w ↔ (w : ℤ) ≤ x := by
  rw [toUlong]
  omega

/-- The size of the terminal. -/
structure Small (s : Term) : Prop where
  width : s.widthInChars ≤ 80
  height : s.heightInChars ≤ 32

lemma setCursor_inside (hs : s.Inside) {x y : ℤ} :
    (s.setCursor x y).Inside ↔ IsCell s.widthInChars s.heightInChars x y :=
  ⟨fun h => h.1.1, fun h => ⟨⟨h, hs.1.2⟩, hs.2⟩⟩

/-- The cursor is in the first cell, wherever it was. -/
lemma clear_inside (hs : s.Inside) (x y : ℤ) :
    (clearTerminalClientWindow (s.setCursor x y)).Inside := by
  obtain ⟨⟨hcursor, hlog⟩, hsaved⟩ := hs
  refine ⟨⟨?_, ?_⟩, hsaved⟩
  · obtain ⟨⟨hx, hx'⟩, hy, hy'⟩ := hcursor
    exact ⟨⟨le_rfl, hx.trans_lt hx'⟩, le_rfl, hy.trans_lt hy'⟩
  · intro e he
    rcases List.mem_append.1 he with he | he
    · exact hlog e he
    · rw [List.mem_singleton.1 he]
      trivial

lemma drawCell_inside (hs : s.Inside) (hsmall : Small s) (c : UInt8) : (drawCell s c).Inside := by
  obtain ⟨⟨hcursor, hlog⟩, hsaved⟩ := hs
  refine ⟨⟨hcursor, ?_⟩, hsaved⟩
  intro e he
  rcases List.mem_append.1 he with he | he
  · exact hlog e he
  · obtain ⟨⟨hx, hx'⟩, hy, hy'⟩ := hcursor
    have hw := hsmall.width
    have hh := hsmall.height
    have hcol : toUlong s.cursorX = s.cursorX.toNat := by rw [toUlong]; omega
    have hrow : toUlong s.cursorY = s.cursorY.toNat := by rw [toUlong]; omega
    rcases List.mem_cons.1 he with rfl | he
    · refine ⟨s.cursorX.toNat, s.cursorY.toNat, ⟨⟨by omega, ?_⟩, by omega, ?_⟩, ?_, ?_⟩
      · change (s.cursorX.toNat : ℤ) < s.widthInChars
        omega
      · change (s.cursorY.toNat : ℤ) < s.heightInChars
        omega
      · rw [hcol]
        rfl
      · rw [hrow]
        rfl
    · rw [List.mem_singleton.1 he]
      exact ⟨⟨hx, hx'⟩, hy, hy'⟩

/-- The cell behind the last one of a row is the first of the next. -/
lemma advance_eq (hs : s.Inside) (hsmall : Small s) :
    advance s = if s.cursorX + 1 < s.widthInChars then s.setCursor (s.cursorX + 1) s.cursorY
      else s.setCursor 0 (s.cursorY + 1) := by
  obtain ⟨⟨⟨⟨hx, hx'⟩, -⟩, -⟩, -⟩ := hs
  have hw := hsmall.width
  have hge : toUlong (s.cursorX + 1) ≥ s.widthInChars ↔ (s.widthInChars : ℤ) ≤ s.cursorX + 1 :=
    toUlong_ge (by omega) (by omega)
  rw [advance]
  by_cases hlast : s.cursorX + 1 < s.widthInChars
  · rw [if_pos hlast]
    exact if_neg fun h => absurd (hge.1 h) (not_le.2 hlast)
  · rw [if_neg hlast]
    exact if_pos (hge.2 (not_lt.1 hlast))

/-- Only the cursor can get out of the terminal. -/
lemma advance_cell (hs : s.Inside) (hsmall : Small s) (h : IsCell s.widthInChars s.heightInChars
    (advance s).cursorX (advance s).cursorY) : (advance s).Inside := by
  rw [advance_eq hs hsmall] at h ⊢
  split_ifs at h ⊢
  · exact (setCursor_inside hs).2 h
  · exact (setCursor_inside hs).2 h

lemma advance_inside (hs : s.Inside) (hsmall : Small s) : (advance s).Inside ↔ NotLast s := by
  have hcursor := hs.1.1
  rw [advance_eq hs hsmall, NotLast]
  obtain ⟨⟨hx, hx'⟩, hy, hy'⟩ := hcursor
  split_ifs with hlast
  · rw [setCursor_inside hs]
    exact iff_of_true ⟨⟨by omega, hlast⟩, hy, hy'⟩ (.inl hlast)
  · rw [setCursor_inside hs]
    refine ⟨fun h => .inr h.2.2, fun h => ⟨⟨le_rfl, by omega⟩, by omega, ?_⟩⟩
    exact h.resolve_left hlast

/-- **A character.**  A carriage return and a new line are not drawn. -/
lemma terminalWriteChar_inside (hs : s.Inside) (hsmall : Small s) (c : UInt8) :
    (terminalWriteChar s c).Inside ↔ c = 13 ∨ c = 10 ∨ NotLast s := by
  obtain ⟨⟨hx, hx'⟩, hy, hy'⟩ := hs.1.1
  have hh := hsmall.height
  rw [terminalWriteChar]
  split_ifs with hreturn hline
  · rw [setCursor_inside hs]
    exact iff_of_true ⟨⟨le_rfl, by omega⟩, hy, hy'⟩ (.inl hreturn)
  · refine iff_of_true ?_ (.inr (.inl hline))
    have hge : toUlong (s.cursorY + 1) ≥ s.heightInChars ↔ (s.heightInChars : ℤ) ≤ s.cursorY + 1 :=
      toUlong_ge (by omega) (by omega)
    dsimp only
    split_ifs with hbottom
    · exact clear_inside hs _ _
    · have hbottom' : ¬toUlong (s.cursorY + 1) ≥ s.heightInChars := hbottom
      rw [setCursor_inside hs]
      rw [hge] at hbottom'
      exact ⟨⟨le_rfl, by omega⟩, by omega, by omega⟩
  · rw [advance_inside (drawCell_inside hs hsmall c) ⟨hsmall.width, hsmall.height⟩]
    exact ⟨fun h => .inr (.inr h), fun h => (h.resolve_left hreturn).resolve_left hline⟩

/-! ## Erasing -/

/-- A character that is drawn. -/
lemma blank_eq (s : Term) : terminalWriteChar s 32 = advance (drawCell s 32) := rfl

@[simp] lemma advance_log (s : Term) : (advance s).log = s.log := by
  rw [advance]
  split_ifs <;> rfl

/-- What was drawn stays drawn. -/
lemma blanks_log (n : ℕ) : ∀ s : Term, s.log ⊆ (blanks n s).log := by
  induction n with
  | zero => exact fun s => List.Subset.refl _
  | succ n ih =>
      intro s
      refine List.Subset.trans ?_ (ih _)
      rw [blank_eq, advance_log]
      exact List.subset_append_left _ _

/-- What a character leaves as it is. -/
structure Kept (s t : Term) : Prop where
  width : t.widthInChars = s.widthInChars
  height : t.heightInChars = s.heightInChars
  savedCol : t.textSavedCol = s.textSavedCol
  savedRow : t.textSavedRow = s.textSavedRow

lemma Kept.refl (s : Term) : Kept s s := ⟨rfl, rfl, rfl, rfl⟩

lemma Kept.trans {s t u : Term} (h : Kept s t) (h' : Kept t u) : Kept s u :=
  ⟨h'.width.trans h.width, h'.height.trans h.height, h'.savedCol.trans h.savedCol,
    h'.savedRow.trans h.savedRow⟩

lemma setCursor_kept (s : Term) (x y : ℤ) : Kept s (s.setCursor x y) := ⟨rfl, rfl, rfl, rfl⟩

lemma terminalWriteChar_kept (s : Term) (c : UInt8) : Kept s (terminalWriteChar s c) := by
  rw [terminalWriteChar]
  split_ifs
  · exact setCursor_kept _ _ _
  · dsimp only
    split_ifs <;> exact ⟨rfl, rfl, rfl, rfl⟩
  · rw [advance]
    split_ifs <;> exact ⟨rfl, rfl, rfl, rfl⟩

lemma blanks_kept (n : ℕ) : ∀ s : Term, Kept s (blanks n s) := by
  induction n with
  | zero => exact fun s => .refl s
  | succ n ih => exact fun s => (terminalWriteChar_kept s 32).trans (ih _)

/-- A space outside of the terminal is seen, whatever follows. -/
lemma blanks_outside {n : ℕ} (h : (blanks (n + 1) s).Inside) :
    IsCell s.widthInChars s.heightInChars s.cursorX s.cursorY := by
  have hkept := blanks_kept (n + 1) s
  have hmem : TermEvent.store s.cursorY s.cursorX 32 ∈ (blanks (n + 1) s).log := by
    refine blanks_log n _ ?_
    rw [blank_eq, advance_log]
    exact List.mem_append_right _ (List.mem_cons_of_mem _ (List.mem_singleton_self _))
  have hin := h.1.2 _ hmem
  rw [hkept.width, hkept.height] at hin
  exact hin

/-- The number of the cell under the cursor, row after row. -/
def Term.cell (s : Term) : ℤ := s.cursorY * s.widthInChars + s.cursorX

/-- The number of cells. -/
def Term.cells (s : Term) : ℤ := s.heightInChars * s.widthInChars

/-- A cell that is not the last one has another behind it. -/
lemma notLast_iff (hs : s.Inside) : NotLast s ↔ s.cell + 1 < s.cells := by
  obtain ⟨⟨hx, hx'⟩, hy, hy'⟩ := hs.1.1
  rw [NotLast, Term.cell, Term.cells]
  constructor
  · rintro (h | h)
    · nlinarith
    · nlinarith
  · intro h
    by_contra hlast
    rw [not_or, not_lt, not_lt] at hlast
    have hrow : s.cursorY + 1 = s.heightInChars := by omega
    rw [← hrow] at h
    linarith [add_one_mul s.cursorY (s.widthInChars : ℤ)]

/-- The cursor goes on by one cell. -/
lemma blank_cell (hs : s.Inside) (hsmall : Small s) :
    (terminalWriteChar s 32).cell = s.cell + 1 := by
  have hx' := hs.1.1.1.2
  rw [blank_eq, advance_eq (drawCell_inside hs hsmall 32) ⟨hsmall.width, hsmall.height⟩]
  rw [Term.cell, Term.cell]
  split_ifs with hlast
  · change s.cursorY * s.widthInChars + (s.cursorX + 1) = _
    ring
  · have hcol : s.cursorX + 1 = s.widthInChars := by
      change ¬s.cursorX + 1 < s.widthInChars at hlast
      omega
    change (s.cursorY + 1) * s.widthInChars + 0 = _
    rw [← hcol]
    ring

/-- **Spaces** stay inside as long as there are cells behind the cursor. -/
lemma blanks_inside (n : ℕ) : ∀ {s : Term}, s.Inside → Small s →
    ((blanks n s).Inside ↔ s.cell + n < s.cells) := by
  induction n with
  | zero =>
      intro s hs _
      obtain ⟨⟨hx, hx'⟩, hy, hy'⟩ := hs.1.1
      refine iff_of_true hs ?_
      rw [Term.cell, Term.cells, Nat.cast_zero]
      nlinarith
  | succ n ih =>
      intro s hs hsmall
      have hkept := terminalWriteChar_kept s 32
      have hcells : (terminalWriteChar s 32).cells = s.cells := by
        rw [Term.cells, Term.cells, hkept.width, hkept.height]
      have hone : (terminalWriteChar s 32).Inside ↔ NotLast s :=
        (terminalWriteChar_inside hs hsmall 32).trans (by simp)
      have hsmall' : Small (terminalWriteChar s 32) :=
        ⟨hkept.width.trans_le hsmall.width, hkept.height.trans_le hsmall.height⟩
      change (blanks n (terminalWriteChar s 32)).Inside ↔ _
      by_cases hlast : NotLast s
      · rw [ih (hone.2 hlast) hsmall', blank_cell hs hsmall, hcells]
        push_cast
        rw [add_right_comm, add_assoc]
      · refine iff_of_false ?_ ?_
        · intro h
          refine hlast (hone.1 ?_)
          cases n with
          | zero => exact h
          | succ n =>
              have hcell := blanks_outside h
              rw [hkept.width, hkept.height] at hcell
              exact advance_cell (drawCell_inside hs hsmall 32) ⟨hsmall.width, hsmall.height⟩ hcell
        · rw [notLast_iff hs] at hlast
          push_cast
          omega

/-! ## The bytes -/

/-- A parameter has one digit. -/
lemma ivalue_range (s : Term) : 0 ≤ s.ivalue ∧ s.ivalue ≤ 9 := by
  rw [Term.ivalue, kAtoi_code]
  split_ifs with hdigit
  · have hlo := UInt8.le_iff_toNat_le.1 hdigit.1
    have hhi := UInt8.le_iff_toNat_le.1 hdigit.2
    simp only [UInt8.reduceToNat] at hlo hhi
    omega
  · decide

lemma controlCode_inside (hs : s.Inside) (hsmall : Small s) (ascii : UInt8) :
    (controlCode s ascii).Inside ↔ (ascii = 9 ∨ ascii = 8 ∨ ascii = 12 → NotLast s) := by
  rw [controlCode]
  split_ifs with hdrawn hescape
  · rw [terminalWriteChar_inside hs hsmall]
    constructor
    · rintro (h | h | h) htab
      · subst h
        simp at htab
      · subst h
        simp at htab
      · exact h
    · intro h
      rcases hdrawn with htab | hback | hreturn | hform | hline
      · exact .inr (.inr (h (.inl htab)))
      · exact .inr (.inr (h (.inr (.inl hback))))
      · exact .inl hreturn
      · exact .inr (.inr (h (.inr (.inr hform))))
      · exact .inr (.inl hline)
  · refine iff_of_true hs fun h => ?_
    subst hescape
    simp at h
  · refine iff_of_true hs fun h => absurd ?_ hdrawn
    rcases h with h | h | h
    · exact .inl h
    · exact .inr (.inl h)
    · exact .inr (.inr (.inr (.inl h)))

lemma csiByte_inside (hs : s.Inside) (hsmall : Small s) (ascii : UInt8) :
    (csiByte s ascii).Inside ↔ CommandOk s (csiAction ascii) := by
  have hvalue := (ivalue_range s).1
  have hcursor := hs.1.1
  have hx := hcursor.1
  have hy := hcursor.2
  rw [csiByte]
  cases csiAction ascii with
  | endOfSequence => exact iff_of_true hs trivial
  | saveCur => exact iff_of_true ⟨hs.1, hcursor⟩ trivial
  | restoreCur => exact iff_of_true ((setCursor_inside hs).2 hs.2) trivial
  | up =>
      refine iff_of_true ((setCursor_inside hs).2 ⟨hx, ?_⟩) trivial
      split_ifs <;> constructor <;> omega
  | down =>
      refine (setCursor_inside hs).trans ⟨fun h => ?_, fun h => ⟨hx, ?_⟩⟩
      · have hrow := h.2.2
        simp only [CommandOk]
        split_ifs at hrow <;> omega
      · simp only [CommandOk] at h
        split_ifs <;> constructor <;> omega
  | right =>
      refine (setCursor_inside hs).trans ⟨fun h => ?_, fun h => ⟨?_, hy⟩⟩
      · have hcol := h.1.2
        simp only [CommandOk]
        split_ifs at hcol <;> omega
      · simp only [CommandOk] at h
        split_ifs <;> constructor <;> omega
  | left =>
      refine iff_of_true ((setCursor_inside hs).2 ⟨?_, hy⟩) trivial
      constructor <;> split_ifs <;> omega
  | erase =>
      simp only [CommandOk]
      split_ifs with hshort
      · rw [blanks_inside _ hs hsmall, Term.cell, Term.cells, Int.toNat_of_nonneg hvalue,
          mul_comm (s.heightInChars : ℤ)]
        exact ⟨fun h _ => h, fun h => h hshort⟩
      · exact iff_of_true hs fun h => absurd h hshort
  | style => exact iff_of_true hs trivial
  | value => exact iff_of_true hs trivial

lemma escByte_inside (hs : s.Inside) (hsmall : Small s) (ascii : UInt8) :
    (escByte s ascii).Inside ↔ (escAction ascii = .mark → NotLast s) := by
  have hzero : (s.setEsc .zero).Inside := hs
  have hzero' : Small (s.setEsc .zero) := ⟨hsmall.width, hsmall.height⟩
  rw [escByte]
  cases escAction ascii with
  | line =>
      refine iff_of_true ?_ nofun
      have hreset : ((s.setEsc .zero).setStatus false).Inside := hs
      exact (terminalWriteChar_inside hreset ⟨hsmall.width, hsmall.height⟩ 10).2 (.inr (.inl rfl))
  | mark =>
      refine (terminalWriteChar_inside hzero hzero' 36).trans ?_
      change _ ↔ (EscAction.mark = .mark → NotLast (s.setEsc .zero))
      simp
  | introducer | test | str | altCharset | charset | ignored => exact iff_of_true hs nofun

/-- **A byte**: the cursor stays inside exactly when the byte meets its condition. -/
lemma tputc_inside (hs : s.Inside) (hsmall : Small s) (ascii : UInt8) :
    (tputc s ascii).Inside ↔ ByteOk s ascii := by
  rw [tputc, ByteOk, ite_or, ite_or]
  split_ifs with htext hcontrol
  · rw [terminalWriteChar_inside hs hsmall]
    refine ⟨?_, fun h => .inr (.inr h)⟩
    rintro (h | h | h)
    · exact absurd (h ▸ .inl (by decide)) htext.2
    · exact absurd (h ▸ .inl (by decide)) htext.2
    · exact h
  · exact controlCode_inside hs hsmall ascii
  · exact csiByte_inside hs hsmall ascii
  · exact iff_of_true hs trivial
  · exact iff_of_true hs trivial
  · exact iff_of_true hs trivial
  · exact escByte_inside hs hsmall ascii
  · exact iff_of_true hs trivial

/-! ## What a byte leaves as it is -/

/-- The saved position is what it was, or the cursor. -/
structure Follows (s t : Term) : Prop where
  width : t.widthInChars = s.widthInChars
  height : t.heightInChars = s.heightInChars
  saved : (t.textSavedCol = s.textSavedCol ∧ t.textSavedRow = s.textSavedRow) ∨
    (t.textSavedCol = s.cursorX ∧ t.textSavedRow = s.cursorY)

lemma Kept.follows {s t : Term} (h : Kept s t) : Follows s t :=
  ⟨h.width, h.height, .inl ⟨h.savedCol, h.savedRow⟩⟩

lemma csiByte_follows (s : Term) (ascii : UInt8) : Follows s (csiByte s ascii) := by
  rw [csiByte]
  cases csiAction ascii with
  | saveCur => exact ⟨rfl, rfl, .inr ⟨rfl, rfl⟩⟩
  | erase =>
      dsimp only
      split_ifs
      · exact (blanks_kept _ s).follows
      · exact (Kept.refl s).follows
  | endOfSequence | restoreCur | up | down | right | left | style | value =>
      exact Kept.follows ⟨rfl, rfl, rfl, rfl⟩

lemma escByte_kept (s : Term) (ascii : UInt8) : Kept s (escByte s ascii) := by
  rw [escByte]
  cases escAction ascii with
  | line =>
      have hline := terminalWriteChar_kept ((s.setEsc .zero).setStatus false) 10
      exact ⟨hline.width, hline.height, hline.savedCol, hline.savedRow⟩
  | mark =>
      have hmark := terminalWriteChar_kept (s.setEsc .zero) 36
      exact ⟨hmark.width, hmark.height, hmark.savedCol, hmark.savedRow⟩
  | introducer | test | str | altCharset | charset | ignored => exact ⟨rfl, rfl, rfl, rfl⟩

lemma tputc_follows (s : Term) (ascii : UInt8) : Follows s (tputc s ascii) := by
  have hself := (Kept.refl s).follows
  rw [tputc, controlCode]
  split_ifs
  · exact (terminalWriteChar_kept s ascii).follows
  · exact (terminalWriteChar_kept s ascii).follows
  · exact Kept.follows ⟨rfl, rfl, rfl, rfl⟩
  · exact hself
  · exact csiByte_follows s ascii
  · exact hself
  · exact hself
  · exact hself
  · exact (escByte_kept s ascii).follows
  · exact hself

/-- The saved position is inside because the cursor was. -/
lemma Follows.inside {t : Term} (h : Follows s t) (hs : s.Inside) (ht : t.Shown) : t.Inside := by
  refine ⟨ht, ?_⟩
  rw [h.width, h.height]
  obtain ⟨hcol, hrow⟩ | ⟨hcol, hrow⟩ := h.saved
  · rw [hcol, hrow]
    exact hs.2
  · rw [hcol, hrow]
    exact hs.1.1

/-! ## Runs -/

/-- One step. -/
lemma termStep_shown {s s' : Term} {e : TermStep} (hs : s.Inside ∧ Small s)
    (h : termStep s e = .ok s') : (s'.Shown ↔ StepOk s e) ∧ Small s' ∧ (s'.Shown → s'.Inside) := by
  cases e with
  | reset =>
      cases h
      exact ⟨iff_of_true hs.1.1 trivial, ⟨hs.2.width, hs.2.height⟩, fun _ => hs.1⟩
  | char ascii =>
      cases h
      have hfollows := tputc_follows s ascii
      have hinside : (tputc s ascii).Shown → (tputc s ascii).Inside := hfollows.inside hs.1
      refine ⟨?_, ⟨hfollows.width.trans_le hs.2.width, hfollows.height.trans_le hs.2.height⟩, hinside⟩
      exact ⟨fun hshown => (tputc_inside hs.1 hs.2 ascii).1 (hinside hshown),
        fun hok => ((tputc_inside hs.1 hs.2 ascii).2 hok).1⟩

/-- **The cursor of the terminal.**  On a terminal of at most 80 columns and 32 rows, whatever is
written: the cursor and all that is drawn stay inside exactly as long as each byte meets its
condition. -/
theorem cursor_run (s : Term) (calls : List (List UInt8)) (hs : s.Inside)
    (hw : s.widthInChars ≤ 80) (hh : s.heightInChars ≤ 32) :
    Along termStep Term.Shown s (stepsOfCalls calls) ↔
      Meets termStep StepOk s (stepsOfCalls calls) := by
  refine along_iff_meets (fun s => s.Inside ∧ Small s) (fun s hs => hs.1.1)
    (fun s e s' hs h => (termStep_shown hs h).1) ?_ _ s ⟨hs, hw, hh⟩
  intro s e s' hs hok h
  obtain ⟨hiff, hsmall, hinside⟩ := termStep_shown hs h
  exact ⟨hinside (hiff.2 hok), hsmall⟩

end

/-! ## Twenty-four rows -/

/-- A terminal of 80 columns and `h` rows that nothing was written to. -/
def blankTerm (h : ℕ) : Term where
  widthInChars := 80
  heightInChars := h
  charWidth := 8
  charHeight := 8
  cursorX := 0
  cursorY := 0
  textSavedCol := 0
  textSavedRow := 0
  sequenceStatus := false
  esc := .zero
  csiBuffer := 0
  log := []

lemma blankTerm_inside {h : ℕ} (hh : 0 < h) : (blankTerm h).Inside :=
  have hcell : IsCell 80 h 0 0 := ⟨⟨le_rfl, by decide⟩, le_rfl, Int.natCast_pos.2 hh⟩
  ⟨⟨hcell, nofun⟩, hcell⟩

/-- `ESC [ 9 B B B`: the last row of 24 is the row 23, and the cursor goes to the row 24. -/
theorem cursor_run_fails :
    ¬∀ (s : Term) (calls : List (List UInt8)), s.Inside → s.widthInChars ≤ 80 →
      s.heightInChars ≤ 32 → Along termStep Term.Shown s (stepsOfCalls calls) := by
  intro h
  have hrun : (runs termStep (blankTerm 24) (stepsOfCalls [[27, 91, 57, 66, 66, 66]])).toOption.map
      (fun t => (t.heightInChars, t.cursorY)) = some (24, 24) := by
    decide
  obtain ⟨t, hend, ht⟩ := runs_observed hrun
  have hshown := (h (blankTerm 24) [[27, 91, 57, 66, 66, 66]] (blankTerm_inside (by decide))
    (by decide) (by decide)).final hend
  have hrow := hshown.1.2.2
  simp only [Prod.mk.injEq] at ht
  rw [ht.1, ht.2] at hrow
  exact absurd hrow (by decide)

/-- A terminal of 25 rows holds the same bytes. -/
theorem cursor_run_twentyFive :
    (blankTerm 25).Inside ∧ Along termStep Term.Shown (blankTerm 25)
      (stepsOfCalls [[27, 91, 57, 66, 66, 66]]) :=
  ⟨blankTerm_inside (by decide),
    (cursor_run (blankTerm 25) _ (blankTerm_inside (by decide)) (by decide) (by decide)).2
      (by decide)⟩

end Gramado.Terminal
