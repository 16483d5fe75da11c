import Gramado.Dev.Console
import Gramado.Lib.Run

/-!
# The cursor and the area of its console

Whatever is written, the cursor of a console should stay in the area of the console, and no character
should be drawn outside of it.  The branches that move the cursor check this in part only: a tab, a
blank, a backspace and a restore not at all, a new line and `__local_gotoxy` against a limit that is
one too high, and a scroll sends the cursor to column 0, not to the left column.

* `ConsoleCondition` — when the next byte keeps the cursor and what it draws inside.
* `console_run` — a run stays inside exactly as long as its bytes meet that.

Each way to move the cursor has a lemma that says when it stays inside; they end with `_inside`.
-/

namespace Gramado

open StepRun

/-! ## What is to hold, and when it does -/

/-- The area has the cell. -/
def CursorArea.Has (a : CursorArea) (x y : ℕ) : Prop :=
  (a.left ≤ x ∧ x < a.right) ∧ a.top ≤ y ∧ y < a.bottom

/-- The cursor is in the area. -/
def Console.Inside (c : Console) : Prop := c.area.Has c.cursorX c.cursorY

/-- The cursors, and all characters drawn, are in the areas of their consoles. -/
def ConsoleState.Inside (s : ConsoleState) : Prop :=
  (∀ n, (s.tty n).Inside) ∧
    ∀ n x y ch, ConsoleEvent.draw n x y ch ∈ s.log → (s.tty n).area.Has x y

/-- A character is not printed behind the last cell, or the area starts in column 0. -/
def PrintOk (c : Console) : Prop :=
  c.area.left = 0 ∨ c.cursorX + 1 < c.area.right ∨ c.cursorY + 1 < c.area.bottom

/-- When a byte put by `console_outbyte` stays inside. -/
def OutbyteOk (ch : ℤ) (c : Console) : Prop :=
  if ch < 0 ∨ ch = 12 ∨ ch = 13 then True
  else if ch = 10 then c.cursorY + 1 < c.area.bottom
  else if ch = 9 then c.cursorX + 8 < c.area.right
  else if ch = 32 then c.cursorX + 1 < c.area.right
  else if ch = 8 then c.area.left < c.cursorX
  else PrintOk c

/-- The same for `console_outbyte2`, which knows the start of a line, if it is in column 0. -/
def Outbyte2Ok (ch : ℤ) (c : Console) : Prop :=
  if ch = 12 ∨ ch = 13 then True
  else if ch = 10 then c.cursorY + 1 < c.area.bottom
  else if ch = 9 then c.cursorX + 8 < c.area.right
  else if ch = 32 then c.cursorX + 1 < c.area.right
  else if ch = 8 then
    c.area.left < c.cursorX ∨ c.cursorX = 0 ∧ (c.cursorY = 0 ∨ c.area.top < c.cursorY)
  else PrintOk c

/-- How many characters fit in the area behind the cursor. -/
def Console.room (c : Console) : ℕ :=
  (c.area.bottom - 1 - c.cursorY) * (c.area.right - c.area.left) + (c.area.right - 1 - c.cursorX)

/-- When a byte in stage 0 stays inside. -/
def GroundOk (ch : UInt8) (c : Console) : Prop :=
  if 32 ≤ ch ∧ ch ≠ 127 then c.echo ∧ ch ≤ 127 → Outbyte2Ok ch.toNat c
  else if ch = 10 ∨ ch = 13 ∨ ch = 8 ∨ ch = 9 then OutbyteOk ch.toNat c
  else True

/-- When a byte in stage 1 stays inside.  `ESC Z` prints six characters. -/
def EscapeOk (ch : UInt8) (c : Console) : Prop :=
  match escapeCommand ch with
  | none | some .introducer => True
  | some .newLine => c.area.left = 0 ∧ c.cursorY + 1 < c.area.bottom
  | some .linefeed => OutbyteOk ch.toNat c
  | some .identify => c.echo → c.area.left = 0 ∨ 6 ≤ c.room

/-- When a command with the parameters `p` and `q` stays inside; `x` and `y` are the saved cursor.
A move beyond the limits of `__local_gotoxy` is not made. -/
def CommandOk (c : Console) (p q : ℤ) (x y : ℕ) : CsiCommand → Prop
  | .column => c.area.right < p ∨ c.area.left ≤ p ∧ p < c.area.right
  | .up => c.cursorY < p ∨ c.area.top + p ≤ c.cursorY
  | .down => c.cursorY + p ≠ c.area.bottom
  | .right => c.cursorX + p ≠ c.area.right
  | .left => c.cursorX < p ∨ c.area.left + p ≤ c.cursorX
  | .nextLine =>
      c.area.bottom < c.cursorY + p ∨ c.area.left = 0 ∧ c.cursorY + p < c.area.bottom
  | .previousLine => c.cursorY < p ∨ c.area.left = 0 ∧ c.area.top + p ≤ c.cursorY
  | .line => c.area.bottom < p ∨ c.area.top ≤ p ∧ p < c.area.bottom
  | .position =>
      c.area.right < p ∨ c.area.bottom < q ∨
        (c.area.left ≤ p ∧ p < c.area.right) ∧ c.area.top ≤ q ∧ q < c.area.bottom
  | .deleteChars | .insertChars => c.cursorX + csiBlanks p c < c.area.right
  | .restore => c.area.Has x y
  | .eraseDisplay | .eraseLine | .insertLines | .deleteLines | .attributes | .margins | .save => True

/-- When a byte of `console_write` stays inside. -/
def ByteOk (n : ConsoleNumber) (ch : UInt8) (s : ConsoleState) : Prop :=
  match s.stage with
  | .ground => GroundOk ch (s.tty n)
  | .escape => EscapeOk ch (s.tty n)
  | .csi | .params | .final =>
      let (t, atSwitch) := beforeSwitch ch s
      ∀ command, atSwitch → csiCommand ch = some command →
        CommandOk (s.tty n) (t.ivalue 0) (t.ivalue 1) (s.savedX % 2 ^ 16).toNat
          (s.savedY % 2 ^ 16).toNat command

/-! ## Runs -/

/-- What happens to the consoles. -/
inductive ConsoleOp where
  /-- A call of `console_outbyte`. -/
  | outbyte (ch : ℤ) (n : ConsoleNumber)
  /-- A call of `console_outbyte2`. -/
  | outbyte2 (ch : ℤ) (n : ConsoleNumber)
  /-- A call of `console_write` starts. -/
  | start
  /-- It takes a byte. -/
  | byte (n : ConsoleNumber) (ch : UInt8)
  /-- Another console is shown. -/
  | switch (n : ConsoleNumber)

/-- One step. -/
def consoleStep (s : ConsoleState) : ConsoleOp → Except Fault ConsoleState
  | .outbyte ch n => .ok (consoleOutbyte ch n s)
  | .outbyte2 ch n => .ok (consoleOutbyte2 ch n s)
  | .start => .ok { s with stage := .ground }
  | .byte n ch => .ok (consoleByte n ch s)
  | .switch n => .ok (showConsole n s)

/-- When a step stays inside. -/
def ConsoleCondition (s : ConsoleState) : ConsoleOp → Prop
  | .outbyte ch n => OutbyteOk ch (s.tty n)
  | .outbyte2 ch n => Outbyte2Ok ch (s.tty n)
  | .start => True
  | .byte n ch => ByteOk n ch s
  | .switch n => (s.tty n).area.left = 0 ∧ (s.tty n).area.top = 0

/-- A call of `console_write` is a run. -/
lemma consoleWrite_run (n : ConsoleNumber) {bytes : List UInt8} (hbytes : bytes ≠ [])
    (s : ConsoleState) :
    runs consoleStep s (.start :: bytes.map (.byte n)) = .ok (consoleWrite n s bytes) := by
  rw [consoleWrite, if_neg hbytes, runs_cons_ok rfl]
  generalize ({ s with stage := .ground } : ConsoleState) = t
  clear hbytes
  induction bytes generalizing t with
  | nil => rfl
  | cons ch bytes ih =>
      rw [List.map_cons, runs_cons_ok rfl, ih]
      rfl

/-- So is a switch to another console. -/
lemma jobcontrolSwitchConsole_run (banner : List UInt8) (n : ConsoleNumber) (s : ConsoleState) :
    ∃ es, runs consoleStep s es = .ok (jobcontrolSwitchConsole banner n s) := by
  suffices h : ∀ (bytes : List UInt8) (t : ConsoleState), ∃ es, runs consoleStep t es =
      .ok (bytes.foldl (fun s ch => consoleOutbyte2 ch.toNat s.fgConsole s) t) by
    obtain ⟨es, hes⟩ := h (banner ++ [10, 36, 32]) (showConsole n s)
    exact ⟨.switch n :: es, by rw [runs_cons_ok rfl]; exact hes⟩
  intro bytes
  induction bytes with
  | nil => exact fun t => ⟨[], rfl⟩
  | cons ch bytes ih =>
      intro t
      obtain ⟨es, hes⟩ := ih (consoleOutbyte2 ch.toNat t.fgConsole t)
      exact ⟨.outbyte2 ch.toNat t.fgConsole :: es, by rw [runs_cons_ok rfl]; exact hes⟩

/-! ## Moves of the cursor -/

section

variable {n : ConsoleNumber} {s s' : ConsoleState} {x y : ℕ}

@[simp] lemma setCursor_same :
    (s.setCursor n x y).tty n = { s.tty n with cursorX := x, cursorY := y } :=
  Function.update_self ..

lemma setCursor_other {k : ConsoleNumber} (h : k ≠ n) : (s.setCursor n x y).tty k = s.tty k :=
  Function.update_of_ne h ..

@[simp] lemma setCursor_area (k : ConsoleNumber) :
    ((s.setCursor n x y).tty k).area = (s.tty k).area := by
  by_cases h : k = n
  · subst h
    rw [setCursor_same]
  · rw [setCursor_other h]

@[simp] lemma setCursor_log : (s.setCursor n x y).log = s.log := rfl

/-- The last move counts. -/
lemma setCursor_tty_again (h : s'.tty = (s.setCursor n x y).tty) (x' y' : ℕ) :
    (s'.setCursor n x' y').tty = (s.setCursor n x' y').tty := by
  funext k
  by_cases hk : k = n
  · subst hk
    rw [setCursor_same, h, setCursor_same, setCursor_same]
  · rw [setCursor_other hk, h, setCursor_other hk, setCursor_other hk]

/-- **After a move**, and new entries in the log. -/
lemma inside_moved {new : List ConsoleEvent} (hs : s.Inside)
    (htty : s'.tty = (s.setCursor n x y).tty) (hlog : s'.log = s.log ++ new) :
    s'.Inside ↔ (s.tty n).area.Has x y ∧
      ∀ k a b ch, ConsoleEvent.draw k a b ch ∈ new → (s.tty k).area.Has a b := by
  rw [ConsoleState.Inside, htty, hlog]
  simp only [setCursor_area, List.mem_append]
  constructor
  · rintro ⟨hcursor, hdrawn⟩
    have hn := hcursor n
    rw [setCursor_same] at hn
    exact ⟨hn, fun k a b ch h => hdrawn k a b ch (.inr h)⟩
  · rintro ⟨hn, hnew⟩
    refine ⟨fun k => ?_, fun k a b ch h => h.elim (hs.2 k a b ch) (hnew k a b ch)⟩
    by_cases hk : k = n
    · subst hk
      rw [setCursor_same]
      exact hn
    · rw [setCursor_other hk]
      exact hs.1 k

lemma inside_congr (htty : s'.tty = s.tty) (hlog : s'.log = s.log) : s'.Inside ↔ s.Inside := by
  rw [ConsoleState.Inside, ConsoleState.Inside, htty, hlog]

lemma setSaved_inside (x y : ℤ) : (s.setSaved x y).Inside ↔ s.Inside := inside_congr rfl rfl

/-- After a move that draws nothing. -/
lemma setCursor_inside (hs : s.Inside) : (s.setCursor n x y).Inside ↔ (s.tty n).area.Has x y := by
  rw [inside_moved hs rfl (List.append_nil _).symm]
  simp

/-- The cell behind the cursor; behind the last cell, where `scrollAtBottom` puts the cursor. -/
def Console.nextCell (c : Console) : ℕ × ℕ :=
  if c.cursorX + 1 < c.area.right then (c.cursorX + 1, c.cursorY)
  else if c.cursorY + 1 < c.area.bottom then (c.area.left, c.cursorY + 1)
  else (0, c.area.bottom - 1)

lemma Console.Inside.nextCell_iff {c : Console} (h : c.Inside) :
    c.area.Has c.nextCell.1 c.nextCell.2 ↔ PrintOk c := by
  obtain ⟨hx, hy⟩ := h
  have hleft := c.area.left_lt
  have htop := c.area.top_lt
  rw [Console.nextCell, PrintOk]
  split_ifs with hright hbottom
  · simp only [CursorArea.Has]
    omega
  · simp only [CursorArea.Has]
    omega
  · simp only [CursorArea.Has]
    omega

lemma scrollAtBottom_tty :
    (scrollAtBottom n s).tty =
      if (s.tty n).cursorY ≥ (s.tty n).area.bottom then
        (s.setCursor n 0 ((s.tty n).area.bottom - 1)).tty
      else s.tty := by
  rw [scrollAtBottom]
  split_ifs with hbottom hfull
  · dsimp only
    rw [consoleScrollRect, setCursor_area]
    exact setCursor_tty_again rfl _ _
  · rfl
  · rfl

lemma scrollAtBottom_log :
    ∃ new, (scrollAtBottom n s).log = s.log ++ new ∧ ∀ e ∈ new, e = .scroll n := by
  rw [scrollAtBottom]
  split_ifs with hbottom hfull
  · exact ⟨[.scroll n], rfl, by simp⟩
  · exact ⟨[], (List.append_nil _).symm, nofun⟩
  · exact ⟨[], (List.append_nil _).symm, nofun⟩

lemma drawEcho_tty (ch : ℤ) : (drawEcho n s ch).tty = s.tty := by
  rw [drawEcho]
  split_ifs <;> rfl

lemma drawEcho_log (ch : ℤ) :
    (drawEcho n s ch).log = s.log ++
      if (s.tty n).echo then [.draw n (s.tty n).cursorX (s.tty n).cursorY ch] else [] := by
  rw [drawEcho]
  split_ifs <;> simp

/-- What printing a character does: it draws in the cell behind the cursor, or where the cursor is. -/
structure Printed (n : ConsoleNumber) (ch : ℤ) (s s' : ConsoleState) : Prop where
  tty : s'.tty = (s.setCursor n (s.tty n).nextCell.1 (s.tty n).nextCell.2).tty
  log : ∃ new, s'.log = s.log ++ new ∧
    ∀ k a b c, ConsoleEvent.draw k a b c ∈ new →
      k = n ∧ ((a, b) = (s.tty n).nextCell ∨ (s.tty n).area.Has a b)
  drawn : (s.tty n).echo → ¬PrintOk (s.tty n) →
    .draw n (s.tty n).nextCell.1 (s.tty n).nextCell.2 ch ∈ s'.log

/-- Where a character goes that is to be printed at a cell below the area. -/
def CursorArea.scrolled (a : CursorArea) (x y : ℕ) : ℕ × ℕ :=
  if y ≥ a.bottom then (0, a.bottom - 1) else (x, y)

/-- The last steps of printing, once the cursor is at the cell. -/
lemma drawEcho_scrollAtBottom {t : ConsoleState} (htty : t.tty = (s.setCursor n x y).tty)
    (hlog : t.log = s.log) (ch : ℤ) {cell : ℕ × ℕ}
    (hcell : (s.tty n).area.scrolled x y = cell) :
    (drawEcho n (scrollAtBottom n t) ch).tty = (s.setCursor n cell.1 cell.2).tty ∧
      (∃ new, (drawEcho n (scrollAtBottom n t) ch).log = s.log ++ new ∧
        ∀ k a b c, ConsoleEvent.draw k a b c ∈ new → k = n ∧ (a, b) = cell) ∧
      ((s.tty n).echo → .draw n cell.1 cell.2 ch ∈ (drawEcho n (scrollAtBottom n t) ch).log) := by
  have hscroll : (scrollAtBottom n t).tty = (s.setCursor n cell.1 cell.2).tty := by
    subst hcell
    rw [scrollAtBottom_tty, htty, setCursor_same, CursorArea.scrolled]
    split_ifs with hbottom
    · rw [setCursor_tty_again htty]
    · rfl
  have hsame : ((scrollAtBottom n t).tty n).cursorX = cell.1 ∧
      ((scrollAtBottom n t).tty n).cursorY = cell.2 ∧
      ((scrollAtBottom n t).tty n).echo = (s.tty n).echo := by
    rw [hscroll, setCursor_same]
    exact ⟨rfl, rfl, rfl⟩
  obtain ⟨hx, hy, hecho⟩ := hsame
  obtain ⟨new, hnew, hall⟩ := @scrollAtBottom_log n t
  have hlog' : (drawEcho n (scrollAtBottom n t) ch).log = s.log ++
      (new ++ if (s.tty n).echo then [.draw n cell.1 cell.2 ch] else []) := by
    rw [drawEcho_log, hnew, hlog, hx, hy, hecho, List.append_assoc]
  refine ⟨(drawEcho_tty ch).trans hscroll, ⟨_, hlog', ?_⟩, ?_⟩
  · intro k a b c hdraw
    rcases List.mem_append.1 hdraw with h | h
    · cases hall _ h
    · split_ifs at h
      · cases List.mem_singleton.1 h
        exact ⟨rfl, rfl⟩
      · cases h
  · intro h
    rw [hlog', if_pos h]
    simp

lemma Console.Inside.scrolled_wrapped {c : Console} (h : c.Inside) (hend : AtLineEnd c) :
    c.area.scrolled c.area.left (ulongAdd c.cursorY 1) = c.nextCell := by
  obtain ⟨-, -, hy⟩ := h
  have hbottom := c.area.bottom_lt
  rw [ulongAdd_of_lt (by omega), CursorArea.scrolled, Console.nextCell,
    if_neg (show ¬c.cursorX + 1 < c.area.right by unfold AtLineEnd at hend; omega)]
  split_ifs <;> first | rfl | omega

lemma Console.nextCell_inner {c : Console} (hend : ¬AtLineEnd c) :
    c.nextCell = (ulongAdd c.cursorX 1, c.cursorY) := by
  have hright := c.area.right_lt
  unfold AtLineEnd at hend
  rw [ulongAdd_of_lt (by omega), Console.nextCell, if_pos (by omega)]

lemma printMoved_printed (hs : s.Inside) (ch : ℤ) : Printed n ch s (printMoved n s ch) := by
  have hc := hs.1 n
  have hcell : ∃ x y, (if AtLineEnd (s.tty n) then
        s.setCursor n (s.tty n).area.left (ulongAdd (s.tty n).cursorY 1)
      else s.setCursor n (ulongAdd (s.tty n).cursorX 1) (s.tty n).cursorY) = s.setCursor n x y ∧
      (s.tty n).area.scrolled x y = (s.tty n).nextCell := by
    split_ifs with hend
    · exact ⟨_, _, rfl, hc.scrolled_wrapped hend⟩
    · refine ⟨_, _, rfl, ?_⟩
      rw [Console.nextCell_inner hend, CursorArea.scrolled, if_neg (not_le.2 hc.2.2)]
  obtain ⟨x, y, hmove, hcell⟩ := hcell
  obtain ⟨htty, ⟨new, hlog, hnew⟩, hdrawn⟩ :=
    drawEcho_scrollAtBottom (t := s.setCursor n x y) rfl rfl ch hcell
  rw [printMoved, hmove]
  exact ⟨htty, ⟨new, hlog, fun k a b c h => ⟨(hnew k a b c h).1, .inl (hnew k a b c h).2⟩⟩,
    fun hecho _ => hdrawn hecho⟩

lemma printInPlace_printed (hs : s.Inside) (ch : ℤ) : Printed n ch s (printInPlace n s ch) := by
  have hc := hs.1 n
  rw [printInPlace]
  dsimp only
  by_cases hend : AtLineEnd (s.tty n)
  · obtain ⟨htty, ⟨new, hlog, hnew⟩, hdrawn⟩ :=
      drawEcho_scrollAtBottom (t := s.setCursor n _ _) rfl rfl ch (hc.scrolled_wrapped hend)
    rw [if_neg (not_not_intro hend), if_neg (not_not_intro hend)]
    exact ⟨htty, ⟨new, hlog, fun k a b c h => ⟨(hnew k a b c h).1, .inl (hnew k a b c h).2⟩⟩,
      fun hecho _ => hdrawn hecho⟩
  · have hstay : s.tty = (s.setCursor n (s.tty n).cursorX (s.tty n).cursorY).tty :=
      (Function.update_eq_self _ _).symm
    obtain ⟨htty, ⟨new, hlog, hnew⟩, -⟩ :=
      drawEcho_scrollAtBottom (t := s) hstay rfl ch
        (show (s.tty n).area.scrolled _ _ = ((s.tty n).cursorX, (s.tty n).cursorY) by
          rw [CursorArea.scrolled, if_neg (not_le.2 hc.2.2)])
    rw [if_pos hend, if_pos hend]
    refine ⟨?_, ⟨new, hlog, fun k a b c h => ⟨(hnew k a b c h).1, .inr ?_⟩⟩, ?_⟩
    · set d := drawEcho n (scrollAtBottom n s) ch
      change (d.setCursor n (ulongAdd (d.tty n).cursorX 1) (d.tty n).cursorY).tty = _
      rw [Console.nextCell_inner hend, setCursor_tty_again htty, htty, setCursor_same]
    · obtain ⟨rfl, rfl⟩ := Prod.mk.inj (hnew k a b c h).2
      exact hc
    · intro _ hnot
      refine absurd (.inr (.inl ?_)) hnot
      unfold AtLineEnd at hend
      omega

/-- **Printing a character.** -/
lemma Printed.inside_iff {ch : ℤ} (h : Printed n ch s s') (hs : s.Inside) :
    s'.Inside ↔ PrintOk (s.tty n) := by
  obtain ⟨new, hlog, hnew⟩ := h.log
  rw [inside_moved hs h.tty hlog, (hs.1 n).nextCell_iff, and_iff_left_iff_imp]
  intro hok k a b c hdraw
  obtain ⟨rfl, hcell | hcell⟩ := hnew k a b c hdraw
  · have hnext := (hs.1 k).nextCell_iff.2 hok
    rwa [← hcell] at hnext
  · exact hcell

/-! ## Bytes -/

lemma lineFeed_inside (hs : s.Inside) (home : Bool) :
    (lineFeed n s home).Inside ↔ (s.tty n).cursorY + 1 < (s.tty n).area.bottom := by
  obtain ⟨⟨hx, hx'⟩, hy, hy'⟩ := hs.1 n
  have hbottom := (s.tty n).area.bottom_lt
  have hleft := (s.tty n).area.left_lt
  rw [lineFeed, if_neg (not_le.2 hy'), setCursor_inside hs, ulongAdd_of_lt (by omega)]
  simp only [CursorArea.Has]
  cases home
  · simp only [Bool.false_eq_true, if_false]
    omega
  · simp only [if_true]
    omega

/-- The moves that both functions make. -/
lemma setCursor_home_inside (hs : s.Inside) :
    (s.setCursor n (s.tty n).area.left (s.tty n).area.top).Inside ∧
      (s.setCursor n (s.tty n).area.left (s.tty n).cursorY).Inside := by
  have hc := hs.1 n
  have hleft := (s.tty n).area.left_lt
  have htop := (s.tty n).area.top_lt
  rw [setCursor_inside hs, setCursor_inside hs]
  exact ⟨⟨⟨le_rfl, hleft⟩, le_rfl, htop⟩, ⟨le_rfl, hleft⟩, hc.2⟩

lemma setCursor_right_inside (hs : s.Inside) {k : ℕ} (hk : k < 2 ^ 16) :
    (s.setCursor n (ulongAdd (s.tty n).cursorX k) (s.tty n).cursorY).Inside ↔
      (s.tty n).cursorX + k < (s.tty n).area.right := by
  obtain ⟨⟨hx, hx'⟩, hy⟩ := hs.1 n
  have hright := (s.tty n).area.right_lt
  rw [setCursor_inside hs, ulongAdd_of_lt (by omega)]
  simp only [CursorArea.Has, hy, and_true]
  omega

lemma setCursor_back_inside (hs : s.Inside) :
    (s.setCursor n (ulongSub (s.tty n).cursorX 1) (s.tty n).cursorY).Inside ↔
      (s.tty n).area.left < (s.tty n).cursorX := by
  obtain ⟨⟨hx, hx'⟩, hy⟩ := hs.1 n
  have hright := (s.tty n).area.right_lt
  rw [setCursor_inside hs]
  simp only [CursorArea.Has, hy, and_true]
  unfold ulongSub
  omega

lemma consoleOutbyte_inside (hs : s.Inside) (ch : ℤ) :
    (consoleOutbyte ch n s).Inside ↔ OutbyteOk ch (s.tty n) := by
  rw [consoleOutbyte, OutbyteOk]
  dsimp only
  by_cases hneg : ch < 0
  · rw [if_pos hneg, if_pos (.inl hneg)]
    exact iff_of_true hs trivial
  rw [if_neg hneg]
  by_cases hform : ch = 12
  · rw [if_pos hform, if_pos (.inr (.inl hform))]
    exact iff_of_true (setCursor_home_inside hs).1 trivial
  by_cases hreturn : ch = 13
  · subst hreturn
    exact iff_of_true (setCursor_home_inside hs).2 trivial
  rw [if_neg hform, if_neg (show ¬(ch < 0 ∨ ch = 12 ∨ ch = 13) by omega), if_neg hreturn]
  split_ifs
  · exact lineFeed_inside hs _
  · exact setCursor_right_inside hs (by decide)
  · exact setCursor_right_inside hs (by decide)
  · exact setCursor_back_inside hs
  · exact (printMoved_printed hs ch).inside_iff hs

lemma consoleOutbyte2_inside (hs : s.Inside) (ch : ℤ) :
    (consoleOutbyte2 ch n s).Inside ↔ Outbyte2Ok ch (s.tty n) := by
  have hc := hs.1 n
  rw [consoleOutbyte2, Outbyte2Ok]
  dsimp only
  by_cases hform : ch = 12
  · rw [if_pos hform, if_pos (.inl hform)]
    exact iff_of_true (setCursor_home_inside hs).1 trivial
  by_cases hreturn : ch = 13
  · subst hreturn
    exact iff_of_true (setCursor_home_inside hs).2 trivial
  rw [if_neg hform, if_neg (show ¬(ch = 12 ∨ ch = 13) by omega), if_neg hreturn]
  by_cases hback : ch = 8
  · subst hback
    obtain ⟨⟨hx, hx'⟩, hy, hy'⟩ := hc
    have hright := (s.tty n).area.right_lt
    have hbottom := (s.tty n).area.bottom_lt
    have hten : ¬(8 : ℤ) = 10 := by decide
    have hnine : ¬(8 : ℤ) = 9 := by decide
    have hblank : ¬(8 : ℤ) = 32 := by decide
    rw [if_neg hten, if_neg hnine, if_neg hblank, if_neg hten, if_neg hnine, if_neg hblank,
      if_pos rfl]
    rcases Nat.eq_zero_or_pos (s.tty n).cursorX with hzero | hpos
    · rw [if_neg (by omega)]
      rcases Nat.eq_zero_or_pos (s.tty n).cursorY with hfirst | hbelow
      · rw [if_neg (by omega), (printInPlace_printed hs 8).inside_iff hs]
        exact iff_of_true (.inl (by omega)) (.inr ⟨hzero, .inl hfirst⟩)
      · rw [if_pos ⟨rfl, hbelow⟩]
        refine (setCursor_inside hs).trans ?_
        rw [ulongSub_of_le hbelow (by omega)]
        simp only [CursorArea.Has]
        omega
    · rw [if_pos ⟨rfl, hpos⟩]
      refine (setCursor_back_inside hs).trans ?_
      omega
  · simp only [hback, false_and, if_false]
    split_ifs
    · exact lineFeed_inside hs _
    · exact setCursor_right_inside hs (by decide)
    · exact setCursor_right_inside hs (by decide)
    · exact (printInPlace_printed hs ch).inside_iff hs

lemma consolePutchar_inside (hs : s.Inside) (ch : ℤ) :
    (consolePutchar ch n s).Inside ↔ OutbyteOk ch (s.tty n) :=
  consoleOutbyte_inside (s := { s with stdioTerminalmodeFlag := true }) hs ch

/-- Blanks move the cursor and draw nothing. -/
lemma blanks_inside (hs : s.Inside) {k : ℕ} (hk : k < 2 ^ 16) :
    ((consolePutchar 32 n)^[k] s).Inside ↔ (s.tty n).cursorX + k < (s.tty n).area.right := by
  have hright := (s.tty n).area.right_lt
  have hcursor := (hs.1 n).1.2
  have hmoved : ((consolePutchar 32 n)^[k] s).tty =
        (s.setCursor n ((s.tty n).cursorX + k) (s.tty n).cursorY).tty ∧
      ((consolePutchar 32 n)^[k] s).log = s.log := by
    induction k with
    | zero => exact ⟨(Function.update_eq_self _ _).symm, rfl⟩
    | succ k ih =>
        obtain ⟨htty, hlog⟩ := ih (by omega)
        rw [Function.iterate_succ_apply']
        set t := (consolePutchar 32 n)^[k] s
        refine ⟨?_, hlog⟩
        change (t.setCursor n (ulongAdd (t.tty n).cursorX 1) (t.tty n).cursorY).tty = _
        rw [setCursor_tty_again htty, htty, setCursor_same, ulongAdd_of_lt (by dsimp only; omega)]
        rfl
  rw [inside_moved hs hmoved.1 (hmoved.2.trans (List.append_nil _).symm)]
  simp only [CursorArea.Has, (hs.1 n).2, and_true, List.not_mem_nil, false_implies, implies_true]
  have hleft := (hs.1 n).1.1
  omega

/-! ## `__local_gotoxy` -/

lemma localGotoxy_inside (hs : s.Inside) (x y : ℤ) :
    (localGotoxy n s x y).Inside ↔
      (s.tty n).area.right < toUlong x ∨ (s.tty n).area.bottom < toUlong y ∨
        (s.tty n).area.Has (x % 2 ^ 32).toNat (y % 2 ^ 32).toNat := by
  rw [localGotoxy]
  split_ifs with hright hbottom
  · exact iff_of_true hs (.inl hright)
  · exact iff_of_true hs (.inr (.inl hbottom))
  · rw [setCursor_inside hs, or_iff_right hright, or_iff_right hbottom]

/-- A small number is converted to a large one if it is negative. -/
lemma lt_toUlong_iff {b : ℕ} {x : ℤ} (hb : b < 2 ^ 16) (hx : -2 ^ 31 ≤ x) (hx' : x < 2 ^ 31) :
    b < toUlong x ↔ x < 0 ∨ (b : ℤ) < x := by
  unfold toUlong
  rcases lt_or_ge x 0 with hneg | hpos
  · exact iff_of_true (by omega) (.inl hneg)
  · rw [or_iff_right (not_lt.2 hpos)]
    omega

/-- The same for arguments that are small numbers. -/
lemma localGotoxy_small (hs : s.Inside) {x y : ℤ} (hx : -2 ^ 31 ≤ x) (hx' : x < 2 ^ 31)
    (hy : -2 ^ 31 ≤ y) (hy' : y < 2 ^ 31) :
    (localGotoxy n s x y).Inside ↔
      x < 0 ∨ (s.tty n).area.right < x ∨ y < 0 ∨ (s.tty n).area.bottom < y ∨
        ((s.tty n).area.left ≤ x ∧ x < (s.tty n).area.right) ∧
          (s.tty n).area.top ≤ y ∧ y < (s.tty n).area.bottom := by
  rw [localGotoxy_inside hs, lt_toUlong_iff (s.tty n).area.right_lt hx hx',
    lt_toUlong_iff (s.tty n).area.bottom_lt hy hy', or_assoc, or_assoc]
  refine or_congr_right' fun hcolumn => or_congr_right' fun _ => or_congr_right' fun hline =>
    or_congr_right' fun _ => ?_
  have hcolumn : ((x % 2 ^ 32).toNat : ℤ) = x := by omega
  have hline : ((y % 2 ^ 32).toNat : ℤ) = y := by omega
  conv_rhs => rw [← hcolumn, ← hline]
  simp only [CursorArea.Has, Nat.cast_le, Nat.cast_lt]

lemma toInt32_ulongAdd {a : ℕ} {p : ℤ} (ha : a < 2 ^ 16) (hp : 0 ≤ p) (hp' : p < 2 ^ 16) :
    toInt32 (ulongAdd a (toUlong p)) = a + p := by
  have hsum : ulongAdd a (toUlong p) = a + p.toNat := by
    unfold toUlong
    rw [ulongAdd_of_lt] <;> omega
  rw [hsum, toInt32_of_range] <;> omega

lemma toInt32_ulongSub {a : ℕ} {p : ℤ} (ha : a < 2 ^ 16) (hp : 0 ≤ p) (hp' : p < 2 ^ 16) :
    toInt32 (ulongSub a (toUlong p)) = a - p := by
  unfold toInt32 ulongSub toUlong
  rw [Int.bmod_eq_emod]
  split_ifs <;> omega

lemma toInt32_small {a : ℕ} (ha : a < 2 ^ 16) : toInt32 a = a :=
  toInt32_of_range (by omega) (by omega)

/-! ## Commands -/

lemma atoiDigits_end (rv : ℤ) : atoiDigits rv [0, 0, 0] = rv := by
  rw [atoiDigits, if_neg (by decide)]

/-- The value of a parameter is the value of its digit. -/
lemma kAtoi_code (b : UInt8) :
    kAtoi [b, 0, 0, 0] = if 48 ≤ b ∧ b ≤ 57 then (b.toNat : ℤ) - 48 else 0 := by
  have hend : kAtoi [0, 0, 0] = 0 := by rw [kAtoi, if_pos rfl]
  rw [kAtoi, atoiDigits_end, hend]
  split_ifs with hnull hdigit hdigit
  · subst hnull
    exact absurd hdigit.1 (by decide)
  · rfl
  · rw [atoiDigits, if_pos hdigit, atoiDigits_end, zero_mul, zero_add]
  · rfl
  · rfl
  · rfl

/-- A parameter has one digit. -/
lemma ivalue_range (s : ConsoleState) (i : ℕ) : 0 ≤ s.ivalue i ∧ s.ivalue i ≤ 9 := by
  rw [ConsoleState.ivalue, kAtoi_code]
  split_ifs with hdigit
  · have hlo := UInt8.le_iff_toNat_le.1 hdigit.1
    have hhi := UInt8.le_iff_toNat_le.1 hdigit.2
    simp only [UInt8.reduceToNat] at hlo hhi
    omega
  · decide

lemma csiExecute_inside (hs : s.Inside) {p q : ℤ} (hp : 0 ≤ p) (hp' : p ≤ 9) (hq : 0 ≤ q)
    (hq' : q ≤ 9) (command : CsiCommand) :
    (csiExecute n s p q command).Inside ↔
      CommandOk (s.tty n) p q (s.savedX % 2 ^ 16).toNat (s.savedY % 2 ^ 16).toNat command := by
  obtain ⟨⟨hx, hx'⟩, hy, hy'⟩ := hs.1 n
  have hright := (s.tty n).area.right_lt
  have hbottom := (s.tty n).area.bottom_lt
  have hleft := (s.tty n).area.left_lt
  have htop := (s.tty n).area.top_lt
  have hX : (s.tty n).cursorX < 2 ^ 16 := by omega
  have hY : (s.tty n).cursorY < 2 ^ 16 := by omega
  have hsmall : p < 2 ^ 16 := by omega
  have hblanks : (csiPrintBlanks p n s).Inside ↔
      (s.tty n).cursorX + csiBlanks p (s.tty n) < (s.tty n).area.right := by
    have hcount : 0 ≤ csiBlanks p (s.tty n) ∧ csiBlanks p (s.tty n) < 2 ^ 16 := by
      unfold csiBlanks
      split_ifs <;> omega
    rw [csiPrintBlanks, blanks_inside hs] <;> omega
  cases command with
  | column =>
      rw [csiExecute, toInt32_small hY, localGotoxy_small hs, CommandOk] <;> omega
  | up =>
      rw [csiExecute, toInt32_small hX, toInt32_ulongSub hY hp hsmall, localGotoxy_small hs,
        CommandOk] <;> omega
  | down =>
      rw [csiExecute, toInt32_small hX, toInt32_ulongAdd hY hp hsmall, localGotoxy_small hs,
        CommandOk] <;> omega
  | right =>
      rw [csiExecute, toInt32_ulongAdd hX hp hsmall, toInt32_small hY, localGotoxy_small hs,
        CommandOk] <;> omega
  | left =>
      rw [csiExecute, toInt32_ulongSub hX hp hsmall, toInt32_small hY, localGotoxy_small hs,
        CommandOk] <;> omega
  | nextLine =>
      rw [csiExecute, toInt32_ulongAdd hY hp hsmall, localGotoxy_small hs, CommandOk] <;> omega
  | previousLine =>
      rw [csiExecute, toInt32_ulongSub hY hp hsmall, localGotoxy_small hs, CommandOk] <;> omega
  | line =>
      rw [csiExecute, toInt32_small hX, localGotoxy_small hs, CommandOk] <;> omega
  | position =>
      rw [csiExecute, localGotoxy_small hs, CommandOk] <;> omega
  | eraseDisplay => exact iff_of_true hs trivial
  | eraseLine => exact iff_of_true hs trivial
  | insertLines => exact iff_of_true hs trivial
  | deleteLines => exact iff_of_true hs trivial
  | attributes => exact iff_of_true ((inside_congr rfl rfl).2 hs) trivial
  | margins => exact iff_of_true hs trivial
  | save =>
      rw [csiExecute, localSaveCur, setSaved_inside]
      exact iff_of_true hs trivial
  | deleteChars => rw [csiExecute, hblanks, CommandOk]
  | insertChars => rw [csiExecute, hblanks, CommandOk]
  | restore => rw [csiExecute, localRestoreCur, setCursor_inside hs, CommandOk]

/-! ## The bytes of `console_write` -/

lemma groundByte_inside (hs : s.Inside) (ch : UInt8) :
    (groundByte n ch s).Inside ↔ GroundOk ch (s.tty n) := by
  rw [groundByte, GroundOk]
  split_ifs with hprint hdraw hescape hcontrol hcontrol
  · rw [consoleOutbyte2_inside hs, forall_prop_of_true hdraw]
  · exact iff_of_true hs fun h => absurd h hdraw
  · subst hescape
    exact absurd hcontrol (by decide)
  · exact iff_of_true hs trivial
  · exact consolePutchar_inside hs ch.toNat
  · exact iff_of_true hs trivial

/-- The room after a character has been printed. -/
lemma Console.Inside.room_next {c c' : Console} (h : c.Inside) (harea : c'.area = c.area)
    (hcell : (c'.cursorX, c'.cursorY) = c.nextCell) (hroom : 0 < c.room) :
    c'.room = c.room - 1 := by
  obtain ⟨⟨hx, hx'⟩, hy, hy'⟩ := h
  unfold Console.room at hroom ⊢
  rw [Console.nextCell] at hcell
  rw [harea]
  split_ifs at hcell with hright hbottom
  · obtain ⟨hX, hY⟩ := Prod.mk.inj hcell
    rw [hX, hY]
    omega
  · obtain ⟨hX, hY⟩ := Prod.mk.inj hcell
    have hrows : c.area.bottom - 1 - c.cursorY = c.area.bottom - 1 - (c.cursorY + 1) + 1 := by
      omega
    rw [hX, hY, hrows, Nat.add_mul]
    omega
  · have hrows : c.area.bottom - 1 - c.cursorY = 0 := by omega
    rw [hrows] at hroom
    omega

lemma Console.Inside.printOk_iff {c : Console} (h : c.Inside) :
    PrintOk c ↔ c.area.left = 0 ∨ 0 < c.room := by
  obtain ⟨⟨hx, hx'⟩, hy, hy'⟩ := h
  rw [PrintOk, Console.room, Nat.add_pos_iff_pos_or_pos, Nat.mul_pos_iff_of_pos_right (by omega)]
  omega

/-- Printing keeps the console apart from its cursor. -/
lemma Printed.console {ch : ℤ} (h : Printed n ch s s') :
    s'.tty n = { s.tty n with
      cursorX := (s.tty n).nextCell.1
      cursorY := (s.tty n).nextCell.2 } := by
  rw [h.tty, setCursor_same]

/-- The areas stay, and so do the flags and the entries of the log. -/
structure LogExtends (s s' : ConsoleState) : Prop where
  area : ∀ k, (s'.tty k).area = (s.tty k).area
  echo : ∀ k, (s'.tty k).echo = (s.tty k).echo
  log : ∀ e ∈ s.log, e ∈ s'.log

lemma LogExtends.refl (s : ConsoleState) : LogExtends s s :=
  ⟨fun _ => rfl, fun _ => rfl, fun _ he => he⟩

lemma LogExtends.trans {s'' : ConsoleState} (h : LogExtends s s') (h' : LogExtends s' s'') :
    LogExtends s s'' :=
  ⟨fun k => (h'.area k).trans (h.area k), fun k => (h'.echo k).trans (h.echo k),
    fun e he => h'.log e (h.log e he)⟩

lemma logExtends_setCursor : LogExtends s (s.setCursor n x y) := by
  refine ⟨fun k => setCursor_area k, fun k => ?_, fun _ he => he⟩
  by_cases hk : k = n
  · subst hk
    rw [setCursor_same]
  · rw [setCursor_other hk]

lemma logExtends_printInPlace (ch : ℤ) : LogExtends s (printInPlace n s ch) := by
  have hscroll (t : ConsoleState) : LogExtends t (scrollAtBottom n t) := by
    obtain ⟨new, hnew, -⟩ := @scrollAtBottom_log n t
    have hlog (e) (he : e ∈ t.log) : e ∈ (scrollAtBottom n t).log := by
      rw [hnew]
      exact List.mem_append_left _ he
    have htty := @scrollAtBottom_tty n t
    split_ifs at htty
    · exact ⟨fun k => by rw [htty, setCursor_area],
        fun k => by rw [htty, logExtends_setCursor.echo], hlog⟩
    · exact ⟨fun k => by rw [htty], fun k => by rw [htty], hlog⟩
  have hdraw (t : ConsoleState) : LogExtends t { drawEcho n t ch with prev2 := ch % 2 ^ 8 } := by
    refine ⟨fun k => ?_, fun k => ?_, fun e he => ?_⟩
    · exact congrArg (fun tty => (tty k).area) (drawEcho_tty ch)
    · exact congrArg (fun tty => (tty k).echo) (drawEcho_tty ch)
    · change e ∈ (drawEcho n t ch).log
      rw [drawEcho_log]
      exact List.mem_append_left _ he
  rw [printInPlace]
  split_ifs with hend
  · exact logExtends_setCursor.trans ((hscroll _).trans (hdraw _))
  · exact ((hscroll _).trans (hdraw _)).trans logExtends_setCursor

/-- A printable character in stage 0. -/
lemma groundByte_printable (hecho : (s.tty n).echo) {ch : UInt8} (hlo : 32 < ch) (hhi : ch < 127) :
    groundByte n ch { s with stage := .ground } =
      printInPlace n { s with stage := .ground } ch.toNat := by
  have hlo' := UInt8.lt_iff_toNat_lt.1 hlo
  have hhi' := UInt8.lt_iff_toNat_lt.1 hhi
  simp only [UInt8.reduceToNat] at hlo' hhi'
  have hprint : 32 ≤ ch ∧ ch ≠ 127 ∧ ch ≤ 127 := by
    refine ⟨UInt8.le_iff_toNat_le.2 hlo'.le, ?_, UInt8.le_iff_toNat_le.2 hhi'.le⟩
    rintro rfl
    exact absurd hhi' (by decide)
  rw [groundByte, if_pos ⟨hprint.1, hprint.2.1⟩, if_pos ⟨hecho, hprint.2.2⟩, consoleOutbyte2]
  dsimp only
  rw [if_neg (by omega), if_neg (by omega), if_neg (by omega), if_neg (by omega),
    if_neg (by omega), if_neg (by omega), if_neg (by omega)]

lemma logExtends_stage {stage : EscapeStage} : LogExtends s { s with stage := stage } :=
  ⟨fun _ => rfl, fun _ => rfl, fun _ he => he⟩

lemma consoleWriteString_extends {string : List UInt8} (hecho : (s.tty n).echo)
    (hstring : ∀ ch ∈ string, 32 < ch ∧ ch < 127) : LogExtends s (consoleWriteString n s string) := by
  induction string generalizing s with
  | nil => exact .refl s
  | cons ch string ih =>
      obtain ⟨hlo, hhi⟩ := hstring ch List.mem_cons_self
      have hfirst : LogExtends s (groundByte n ch { s with stage := .ground }) := by
        rw [groundByte_printable hecho hlo hhi]
        exact logExtends_stage.trans (logExtends_printInPlace _)
      refine hfirst.trans (ih ?_ fun c hc => hstring c (List.mem_cons_of_mem _ hc))
      rw [hfirst.echo]
      exact hecho

/-- Without echo nothing happens. -/
lemma consoleWriteString_silent {string : List UInt8} (hecho : ¬(s.tty n).echo)
    (hstring : ∀ ch ∈ string, 32 ≤ ch ∧ ch ≠ 127) :
    (consoleWriteString n s string).tty = s.tty ∧ (consoleWriteString n s string).log = s.log := by
  induction string generalizing s with
  | nil => exact ⟨rfl, rfl⟩
  | cons ch string ih =>
      have hfirst : groundByte n ch { s with stage := .ground } = { s with stage := .ground } := by
        rw [groundByte, if_pos (hstring ch List.mem_cons_self), if_neg fun h => hecho h.1]
      have hrest := @ih { s with stage := .ground } hecho
        fun c hc => hstring c (List.mem_cons_of_mem _ hc)
      have hcons : consoleWriteString n s (ch :: string) =
          consoleWriteString n (groundByte n ch { s with stage := .ground }) string := rfl
      rw [hcons, hfirst]
      exact hrest

/-- **Printing several characters** stays inside if there is room for them, or if the area starts in
column 0. -/
lemma consoleWriteString_inside {string : List UInt8} (hs : s.Inside) (hecho : (s.tty n).echo)
    (hstring : ∀ ch ∈ string, 32 < ch ∧ ch < 127) :
    (consoleWriteString n s string).Inside ↔
      (s.tty n).area.left = 0 ∨ string.length ≤ (s.tty n).room := by
  induction string generalizing s with
  | nil => exact iff_of_true hs (.inr (Nat.zero_le _))
  | cons ch string ih =>
      obtain ⟨hlo, hhi⟩ := hstring ch List.mem_cons_self
      have hstring' (c) (hc : c ∈ string) := hstring c (List.mem_cons_of_mem _ hc)
      have hprinted : Printed n ch.toNat s (groundByte n ch { s with stage := .ground }) := by
        rw [groundByte_printable hecho hlo hhi]
        have h := printInPlace_printed (s := { s with stage := .ground }) (n := n) hs ch.toNat
        exact ⟨h.tty, h.log, h.drawn⟩
      change (consoleWriteString n (groundByte n ch { s with stage := .ground }) string).Inside ↔ _
      generalize groundByte n ch { s with stage := .ground } = t at hprinted
      have hecho' : (t.tty n).echo := by
        rw [hprinted.console]
        exact hecho
      have harea : (t.tty n).area = (s.tty n).area := by rw [hprinted.console]
      have hroom := (hs.1 n).printOk_iff
      by_cases hok : PrintOk (s.tty n)
      · rw [ih ((hprinted.inside_iff hs).2 hok) hecho' hstring', harea]
        rw [hroom] at hok
        rw [List.length_cons]
        rcases Nat.eq_zero_or_pos (s.tty n).room with hnone | hpos
        · exact iff_of_true (.inl (by omega)) (.inl (by omega))
        · rw [(hs.1 n).room_next harea (by rw [hprinted.console]) hpos]
          omega
      · refine iff_of_false (fun hinside => ?_) ?_
        · -- the character behind the last cell stays in the log
          have hkept := consoleWriteString_extends hecho' hstring'
          have hcell := hinside.2 _ _ _ _ (hkept.log _ (hprinted.drawn hecho hok))
          rw [hkept.area, harea, (hs.1 n).nextCell_iff] at hcell
          exact hok hcell
        · rw [hroom] at hok
          rw [List.length_cons]
          omega

lemma escapeByte_inside (hs : s.Inside) (ch : UInt8) :
    (escapeByte n ch s).Inside ↔ EscapeOk ch (s.tty n) := by
  have hground : ({ s with stage := .ground } : ConsoleState).Inside := hs
  obtain ⟨⟨hx, hx'⟩, hy, hy'⟩ := hs.1 n
  have hbottom := (s.tty n).area.bottom_lt
  rw [escapeByte, EscapeOk]
  cases escapeCommand ch with
  | none => exact iff_of_true hs trivial
  | some command =>
      cases command with
      | introducer => exact iff_of_true hs trivial
      | newLine =>
          dsimp only
          have hdown : toInt32 (ulongAdd (s.tty n).cursorY 1) = (s.tty n).cursorY + 1 :=
            toInt32_ulongAdd (p := 1) (by omega) (by decide) (by decide)
          rw [hdown, localGotoxy_small hground (by decide) (by decide) (by omega) (by omega)]
          dsimp only
          omega
      | linefeed => exact consolePutchar_inside hground _
      | identify =>
          -- the first byte, ESC, is not printed
          have hescape (t : ConsoleState) : consoleWriteString n t RESPONSE =
              consoleWriteString n { t with stage := .escape } [91, 63, 49, 59, 50, 99] := rfl
          dsimp only
          rw [hescape]
          by_cases hecho : (s.tty n).echo
          · rw [forall_prop_of_true hecho]
            exact @consoleWriteString_inside n { s with stage := .escape } _ hs hecho (by simp)
          · refine iff_of_true ?_ fun h => absurd h hecho
            have hsilent := @consoleWriteString_silent n { s with stage := .escape }
              [91, 63, 49, 59, 50, 99] hecho (by simp)
            exact (inside_congr hsilent.1 hsilent.2).2 hs

lemma beforeSwitch_same (ch : UInt8) :
    (beforeSwitch ch s).1.tty = s.tty ∧ (beforeSwitch ch s).1.log = s.log ∧
      (beforeSwitch ch s).1.savedX = s.savedX ∧ (beforeSwitch ch s).1.savedY = s.savedY := by
  have hparam (t : ConsoleState) : (paramByte ch t).1.tty = t.tty ∧ (paramByte ch t).1.log = t.log ∧
      (paramByte ch t).1.savedX = t.savedX ∧ (paramByte ch t).1.savedY = t.savedY := by
    rw [paramByte]
    split_ifs <;> exact ⟨rfl, rfl, rfl, rfl⟩
  rw [beforeSwitch]
  split
  · exact ⟨rfl, rfl, rfl, rfl⟩
  · exact ⟨rfl, rfl, rfl, rfl⟩
  · rw [csiByte]
    split_ifs
    · exact ⟨rfl, rfl, rfl, rfl⟩
    · exact hparam _
  · exact hparam s
  · exact ⟨rfl, rfl, rfl, rfl⟩

lemma finalByte_inside (hs : s.Inside) (ch : UInt8) :
    (finalByte n ch s).Inside ↔ ∀ command, csiCommand ch = some command →
      CommandOk (s.tty n) (s.ivalue 0) (s.ivalue 1) (s.savedX % 2 ^ 16).toNat
        (s.savedY % 2 ^ 16).toNat command := by
  have hground : ({ s with stage := .ground } : ConsoleState).Inside := hs
  rw [finalByte]
  cases csiCommand ch with
  | none => exact iff_of_true hs nofun
  | some command =>
      obtain ⟨hp, hp'⟩ := ivalue_range s 0
      obtain ⟨hq, hq'⟩ := ivalue_range s 1
      have h := csiExecute_inside (n := n) hground hp hp' hq hq' command
      refine Iff.trans ?_ (h.trans ⟨fun hok c hc => ?_, fun hok => hok command rfl⟩)
      · exact Iff.rfl
      · cases hc
        exact hok

lemma consoleByte_inside (hs : s.Inside) (ch : UInt8) :
    (consoleByte n ch s).Inside ↔ ByteOk n ch s := by
  have hswitch : (let (t, atSwitch) := beforeSwitch ch s
      if atSwitch then finalByte n ch t else t).Inside ↔
      let (t, atSwitch) := beforeSwitch ch s
      ∀ command, atSwitch → csiCommand ch = some command →
        CommandOk (s.tty n) (t.ivalue 0) (t.ivalue 1) (s.savedX % 2 ^ 16).toNat
          (s.savedY % 2 ^ 16).toNat command := by
    have hsame := @beforeSwitch_same s ch
    generalize beforeSwitch ch s = r at hsame ⊢
    obtain ⟨t, atSwitch⟩ := r
    obtain ⟨htty, hlog, hX, hY⟩ := hsame
    have ht : t.Inside := (inside_congr htty hlog).2 hs
    dsimp only at htty hX hY ⊢
    cases atSwitch
    · exact iff_of_true ht fun _ h => absurd h (by decide)
    · rw [if_pos rfl, finalByte_inside ht, htty, hX, hY]
      exact forall_congr' fun _ => ⟨fun h _ => h, fun h => h rfl⟩
  rw [consoleByte, ByteOk]
  cases hstage : s.stage with
  | ground => exact groundByte_inside hs ch
  | escape => exact escapeByte_inside hs ch
  | csi => exact hswitch
  | params => exact hswitch
  | final => exact hswitch

lemma showConsole_inside (hs : s.Inside) :
    (showConsole n s).Inside ↔ (s.tty n).area.left = 0 ∧ (s.tty n).area.top = 0 := by
  have hleft := (s.tty n).area.left_lt
  have htop := (s.tty n).area.top_lt
  have hclear (t : ConsoleState) : consoleClear n t = t.setCursor n 0 0 := by
    have hzero : toUlong 0 = 0 := rfl
    rw [consoleClear, localGotoxy, hzero, if_neg (Nat.not_lt_zero _), if_neg (Nat.not_lt_zero _)]
    rfl
  have htty : (showConsole n s).tty = (s.setCursor n 0 0).tty := by
    rw [showConsole, hclear]
    change ((consoleClear n _).setCursor n 0 0).tty = _
    rw [hclear]
    exact setCursor_tty_again (setCursor_tty_again rfl 0 0) 0 0
  have hlog : (showConsole n s).log = s.log ++ [] := by
    rw [showConsole, hclear, List.append_nil]
    change (consoleClear n _).log = _
    rw [hclear]
    rfl
  rw [inside_moved hs htty hlog]
  simp only [CursorArea.Has, List.not_mem_nil, false_implies, implies_true, and_true]
  omega

/-- One step. -/
lemma consoleStep_iff (hs : s.Inside) {e : ConsoleOp} (h : consoleStep s e = .ok s') :
    s'.Inside ↔ ConsoleCondition s e := by
  cases e with
  | outbyte ch n =>
      cases h
      exact consoleOutbyte_inside hs ch
  | outbyte2 ch n =>
      cases h
      exact consoleOutbyte2_inside hs ch
  | start =>
      cases h
      exact iff_of_true hs trivial
  | byte n ch =>
      cases h
      exact consoleByte_inside hs ch
  | switch n =>
      cases h
      exact showConsole_inside hs

end

/-- **The cursor stays in the area of its console, and with it all that is drawn, exactly as long as
every byte meets its condition.** -/
theorem console_run (s : ConsoleState) (h : s.Inside) (es : List ConsoleOp) :
    Along consoleStep ConsoleState.Inside s es ↔ Meets consoleStep ConsoleCondition s es :=
  along_iff_meets ConsoleState.Inside (fun _ hs => hs) (fun _ _ _ hs hstep => consoleStep_iff hs hstep)
    (fun _ _ _ hs hok hstep => (consoleStep_iff hs hstep).2 hok) es s h

/-- The consoles as `VirtualConsole_early_initialization` leaves them, on a screen of 800 by 600
pixels. -/
def bootConsoles : ConsoleState where
  tty := fun _ =>
    { cursorX := 0
      cursorY := 0
      area := ⟨0, 0, 100, 75, by decide, by decide, by decide, by decide⟩
      fullscreenFlag := true
      echo := true }
  fgConsole := ⟨0, by decide⟩
  savedX := 0
  savedY := 0
  stage := .ground
  par := fun _ => 0
  npar := 0
  prev := 0
  prev2 := 0
  stdioTerminalmodeFlag := false
  stdioVerbosemodeFlag := true
  log := []

lemma bootConsoles_inside : bootConsoles.Inside :=
  ⟨fun _ => ⟨⟨Nat.le_refl 0, show 0 < 100 by decide⟩, Nat.le_refl 0, show 0 < 75 by decide⟩, nofun⟩

/-- A letter in the first cell stays inside. -/
theorem console_run_letter :
    Along consoleStep ConsoleState.Inside bootConsoles [.outbyte2 65 0] :=
  (console_run bootConsoles bootConsoles_inside [.outbyte2 65 0]).2 fun _ _ =>
    ⟨show PrintOk _ from .inl rfl, trivial⟩

/-- A backspace in the first column: the cursor goes to the column `2 ^ 64 - 1`. -/
theorem console_run_fails :
    ¬∀ s : ConsoleState, s.Inside → ∀ es : List ConsoleOp,
      Along consoleStep ConsoleState.Inside s es := by
  intro h
  obtain ⟨-, hrest⟩ := h bootConsoles bootConsoles_inside [.start, .byte 0 8]
  obtain ⟨-, hback⟩ := hrest _ rfl
  obtain ⟨hcursor, -⟩ := hback _ rfl
  exact absurd (hcursor 0).1.2 (by decide)

end Gramado
