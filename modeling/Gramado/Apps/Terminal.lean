import Gramado.Lib.Run
import Gramado.Dev.Console

/-!
# The terminal application

`tputstring`, `tputc` and what they call in `apps/osshell/ss/terminal/terminal.c`: the text that a
client writes is drawn into the terminal's window, one cell after the other, and escape sequences
move the cursor.

Every cell that is drawn, and every store into `LINES`, is an entry of the log.  `Terminal.esc` is
an `int` with one bit for each state; the model has a flag for each.  `Terminal.left` and
`Terminal.top`, where the cursor goes when the window is cleared, are never anything but 0.  `fd`
and `window` are taken to be valid: otherwise nothing is done at all.  The functions never fault.
-/

namespace Gramado.Terminal

/-! ## State -/

/-- `Terminal.esc`: `ESC_START`, `ESC_CSI`, `ESC_STR`, `ESC_ALTCHARSET`, `ESC_STR_END`,
`ESC_TEST`. -/
structure EscapeState where
  start : Bool
  csi : Bool
  str : Bool
  altCharset : Bool
  strEnd : Bool
  test : Bool
  deriving DecidableEq

/-- `Terminal.esc = 0`. -/
def EscapeState.zero : EscapeState := ⟨false, false, false, false, false, false⟩

/-- `Terminal.esc = ESC_START`. -/
def EscapeState.started : EscapeState := { EscapeState.zero with start := true }

/-- What can be seen of the terminal. -/
inductive TermEvent where
  /-- `gws_draw_char`, at a place in pixels. -/
  | drawChar (x y : ℕ) (c : UInt8)
  /-- `LINES[row].CHARS[col] = c`. -/
  | store (row col : ℤ) (c : UInt8)
  /-- `gws_clear_window`. -/
  | clear
  deriving DecidableEq

/-- The terminal. -/
structure Term where
  widthInChars : ℕ
  heightInChars : ℕ
  charWidth : ℕ
  charHeight : ℕ
  cursorX : ℤ
  cursorY : ℤ
  textSavedCol : ℤ
  textSavedRow : ℤ
  sequenceStatus : Bool
  esc : EscapeState
  csiBuffer : UInt8
  log : List TermEvent

variable (s : Term)

/-- The cursor is set. -/
def Term.setCursor (x y : ℤ) : Term := { s with cursorX := x, cursorY := y }

/-- `Terminal.esc` is set. -/
def Term.setEsc (esc : EscapeState) : Term := { s with esc := esc }

/-- `__sequence_status` is set. -/
def Term.setStatus (status : Bool) : Term := { s with sequenceStatus := status }

/-! ## Drawing -/

/-- `clear_terminal_client_window`. -/
def clearTerminalClientWindow : Term :=
  { s with cursorX := 0, cursorY := 0, log := s.log ++ [.clear] }

/-- A character in the cell under the cursor: `gws_draw_char` and `terminalInsertNextChar`. -/
def drawCell (c : UInt8) : Term :=
  let x := toUlong s.cursorX * s.charWidth % 2 ^ 16
  let y := toUlong s.cursorY * s.charHeight % 2 ^ 16
  { s with log := s.log ++ [.drawChar x y c, .store s.cursorY s.cursorX c] }

/-- "Circula": the cursor goes on by one cell. -/
def advance : Term :=
  let s := s.setCursor (s.cursorX + 1) s.cursorY
  if toUlong s.cursorX ≥ s.widthInChars then s.setCursor 0 (s.cursorY + 1) else s

/-- `terminal_write_char`. -/
def terminalWriteChar (c : UInt8) : Term :=
  if c = 13 then s.setCursor 0 s.cursorY
  else if c = 10 then
    let s := s.setCursor 0 (s.cursorY + 1)
    if toUlong s.cursorY ≥ s.heightInChars then clearTerminalClientWindow s else s
  else advance (drawCell s c)

/-- `tputstring(fd, "\n")`: a control code is drawn whatever the state of the sequence is. -/
def newLine : Term := (terminalWriteChar (s.setStatus false) 10).setStatus false

/-- The loop that draws spaces. -/
def blanks : ℕ → Term → Term
  | 0, s => s
  | n + 1, s => blanks n (terminalWriteChar s 32)

/-! ## The switches of `tputc` -/

/-- The codes `0x00`, …, `0x1F` and `0x7F`. -/
def IsControl (ascii : UInt8) : Prop := ascii ≤ 0x1F ∨ ascii = 0x7F

instance (ascii : UInt8) : Decidable (IsControl ascii) := inferInstanceAs (Decidable (_ ∨ _))

/-- A control code. -/
def controlCode (ascii : UInt8) : Term :=
  if ascii = 9 ∨ ascii = 8 ∨ ascii = 13 ∨ ascii = 12 ∨ ascii = 10 then terminalWriteChar s ascii
  else if ascii = 0x1B then (s.setStatus true).setEsc .started
  else s

/-- What a byte means behind `ESC [`. -/
inductive CsiAction where
  | endOfSequence
  | saveCur
  | restoreCur
  | up
  | down
  | right
  | left
  | erase
  | style
  | value
  deriving DecidableEq

/-- The switch behind `ESC [`. -/
def csiAction (ascii : UInt8) : CsiAction :=
  if ascii = 109 then .endOfSequence
  else if ascii = 115 then .saveCur
  else if ascii = 117 then .restoreCur
  else if ascii = 65 then .up
  else if ascii = 66 then .down
  else if ascii = 67 then .right
  else if ascii = 68 then .left
  else if ascii = 75 then .erase
  else if ascii = 59 then .style
  else .value

/-- `ivalue`: the first byte of the buffer, read as a string by `atoi`, which is `k_atoi` letter by
letter. -/
def Term.ivalue : ℤ := kAtoi [s.csiBuffer, 0, 0, 0]

/-- What a byte does behind `ESC [`. -/
def csiByte (ascii : UInt8) : Term :=
  match csiAction ascii with
  | .endOfSequence => (s.setStatus false).setEsc .zero
  | .saveCur => { s with textSavedCol := s.cursorX, textSavedRow := s.cursorY }
  | .restoreCur => s.setCursor s.textSavedCol s.textSavedRow
  | .up =>
      let y := s.cursorY - s.ivalue
      s.setCursor s.cursorX (if y < 0 then 0 else y)
  | .down =>
      let y := s.cursorY + s.ivalue
      s.setCursor s.cursorX (if y > 24 then 24 else y)
  | .right =>
      let x := s.cursorX + s.ivalue
      s.setCursor (if x ≥ 80 then 79 else x) s.cursorY
  | .left =>
      let x := if s.cursorX ≥ s.ivalue then s.cursorX - s.ivalue else s.cursorX
      s.setCursor (if x < 0 then 0 else x) s.cursorY
  | .erase => if s.cursorX + s.ivalue < 80 then blanks s.ivalue.toNat s else s
  | .style => s
  | .value => { s with csiBuffer := ascii }

/-- What a byte means behind `ESC`. -/
inductive EscAction where
  | introducer
  | test
  | str
  | altCharset
  | charset
  | line
  | mark
  | ignored
  deriving DecidableEq

/-- The switch behind `ESC`. -/
def escAction (ascii : UInt8) : EscAction :=
  if ascii = 91 then .introducer
  else if ascii = 35 then .test
  else if ascii = 80 ∨ ascii = 95 ∨ ascii = 94 ∨ ascii = 93 ∨ ascii = 107 then .str
  else if ascii = 40 then .altCharset
  else if ascii = 41 ∨ ascii = 42 ∨ ascii = 43 then .charset
  else if ascii = 65 ∨ ascii = 68 then .line
  else if ascii = 69 ∨ ascii = 72 ∨ ascii = 77 ∨ ascii = 90 ∨ ascii = 99 ∨ ascii = 61 ∨
      ascii = 62 then .mark
  else .ignored

/-- What a byte does behind `ESC`. -/
def escByte (ascii : UInt8) : Term :=
  match escAction ascii with
  | .introducer => s.setEsc { s.esc with csi := true }
  | .test => s.setEsc { s.esc with test := true }
  | .str => s.setEsc { s.esc with str := true }
  | .altCharset => s.setEsc { s.esc with altCharset := true }
  | .charset => (s.setEsc .zero).setStatus false
  | .line => newLine (s.setEsc .zero)
  | .mark => terminalWriteChar (s.setEsc .zero) 36
  | .ignored => s

/-- `tputc`. -/
def tputc (ascii : UInt8) : Term :=
  if ¬s.sequenceStatus ∧ ¬IsControl ascii then terminalWriteChar s ascii
  else if IsControl ascii then controlCode s ascii
  else if s.esc.start then
    if s.esc.csi then csiByte s ascii
    else if s.esc.strEnd then s
    else if s.esc.altCharset then s
    else if s.esc.test then s
    else escByte s ascii
  else s

/-- `tputstring`, on the characters of the string. -/
def tputstring (string : List UInt8) : Term :=
  if string = [] then s
  else (string.foldl tputc (s.setStatus false)).setStatus false

/-! ## Steps -/

/-- The parts of a call of `tputstring`. -/
inductive TermStep where
  /-- `__sequence_status = 0`, at the start of the call and at its end. -/
  | reset
  | char (ascii : UInt8)
  deriving DecidableEq

/-- One step. -/
def termStep (s : Term) : TermStep → Except Fault Term
  | .reset => .ok (s.setStatus false)
  | .char ascii => .ok (tputc s ascii)

/-- The steps of a call. -/
def stepsOfCall (string : List UInt8) : List TermStep :=
  if string = [] then [] else [.reset] ++ string.map .char ++ [.reset]

/-- The steps of a series of calls. -/
def stepsOfCalls (calls : List (List UInt8)) : List TermStep := calls.flatMap stepsOfCall

end Gramado.Terminal
