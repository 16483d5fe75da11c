import Gramado.Core.CTypes

/-!
# The virtual consoles

`console.c` has four consoles, each with a cursor and an area of the screen in which it prints.
`console_outbyte` and `console_outbyte2` put one byte on a console, `console_write` goes through a
string and follows the escape sequences in it.  Its parser is in globals that all consoles share: the
stage, the parameters and the saved cursor.

A console here is one that `DDINIT_console` has set up, on a screen in graphics mode and with a font,
so that the checks for that pass.  What is drawn is kept as a log.
-/

namespace Gramado

/-! ## The consoles -/

/-- `CONSOLETTYS_COUNT_MAX`. -/
abbrev CONSOLETTYS_COUNT_MAX : ℕ := 4

/-- `NPAR`. -/
def NPAR : ℕ := 16

/-- The area of a console, in characters.  It is not empty, for `console_outbyte` panics on one that
is, and the `& 0xFFFF` of `console_scroll_rect` leaves it as it is. -/
structure CursorArea where
  left : ℕ
  top : ℕ
  right : ℕ
  bottom : ℕ
  left_lt : left < right
  top_lt : top < bottom
  right_lt : right < 2 ^ 16
  bottom_lt : bottom < 2 ^ 16

/-- An entry of `CONSOLE_TTYS`. -/
structure Console where
  cursorX : ℕ
  cursorY : ℕ
  area : CursorArea
  fullscreenFlag : Bool
  /-- `termios.c_lflag & ECHO`. -/
  echo : Bool

/-- A number of a console that is in range. -/
abbrev ConsoleNumber := Fin CONSOLETTYS_COUNT_MAX

/-- What the consoles do to the screen. -/
inductive ConsoleEvent where
  /-- `__ConsoleDraw_Outbyte` draws a character. -/
  | draw (n : ConsoleNumber) (x y : ℕ) (ch : ℤ)
  /-- `console_scroll_rect` scrolls the screen. -/
  | scroll (n : ConsoleNumber)
  deriving DecidableEq

/-- `__EscapeSequenceStage`: the stages 0 to 4. -/
inductive EscapeStage where
  | ground
  | escape
  | csi
  | params
  | final
  deriving DecidableEq

/-- The consoles and the globals of `console.c`. -/
structure ConsoleState where
  tty : ConsoleNumber → Console
  fgConsole : ConsoleNumber
  savedX : ℤ
  savedY : ℤ
  stage : EscapeStage
  /-- The parameters; each is zero or the code of a digit. -/
  par : ℕ → UInt8
  npar : ℕ
  /-- The `prev` of `console_outbyte`, as an `unsigned char`. -/
  prev : ℤ
  /-- The `prev` of `console_outbyte2`. -/
  prev2 : ℤ
  stdioTerminalmodeFlag : Bool
  stdioVerbosemodeFlag : Bool
  log : List ConsoleEvent

/-! ## Moving the cursor -/

section

variable (n : ConsoleNumber) (s : ConsoleState)

/-- Sets `cursor_x` and `cursor_y`. -/
def ConsoleState.setCursor (x y : ℕ) : ConsoleState :=
  { s with tty := Function.update s.tty n { s.tty n with cursorX := x, cursorY := y } }

/-- `__local_gotoxy`. -/
def localGotoxy (newX newY : ℤ) : ConsoleState :=
  if toUlong newX > (s.tty n).area.right then s
  else if toUlong newY > (s.tty n).area.bottom then s
  else s.setCursor n (newX % 2 ^ 32).toNat (newY % 2 ^ 32).toNat

/-- Sets `saved_x` and `saved_y`. -/
def ConsoleState.setSaved (x y : ℤ) : ConsoleState :=
  { s with
    savedX := x
    savedY := y }

/-- `__local_save_cur`. -/
def localSaveCur : ConsoleState :=
  s.setSaved (toInt32 (s.tty n).cursorX) (toInt32 (s.tty n).cursorY)

/-- `__local_restore_cur`. -/
def localRestoreCur : ConsoleState :=
  s.setCursor n (s.savedX % 2 ^ 16).toNat (s.savedY % 2 ^ 16).toNat

/-- `console_scroll_rect`. -/
def consoleScrollRect : ConsoleState :=
  let s := { s with log := s.log ++ [ConsoleEvent.scroll n] }
  s.setCursor n 0 ((s.tty n).area.bottom - 1)

/-! ## Putting a byte -/

/-- `__ConsoleDraw_Outbyte`, when the console echoes. -/
def drawEcho (ch : ℤ) : ConsoleState :=
  if (s.tty n).echo then
    { s with log := s.log ++ [ConsoleEvent.draw n (s.tty n).cursorX (s.tty n).cursorY ch] }
  else s

/-- A new line: at the bottom of the area the screen is scrolled, above it the cursor goes down and,
if `home` says so, to the left. -/
def lineFeed (home : Bool) : ConsoleState :=
  if (s.tty n).cursorY ≥ (s.tty n).area.bottom then
    let s := if (s.tty n).fullscreenFlag then consoleScrollRect n s else s
    s.setCursor n (s.tty n).cursorX ((s.tty n).area.bottom - 1)
  else
    s.setCursor n (if home then (s.tty n).area.left else (s.tty n).cursorX)
      (ulongAdd (s.tty n).cursorY 1)

/-- The limit on the number of lines, before a character is drawn. -/
def scrollAtBottom : ConsoleState :=
  if (s.tty n).cursorY ≥ (s.tty n).area.bottom then
    let s := if (s.tty n).fullscreenFlag then consoleScrollRect n s else s
    s.setCursor n 0 ((s.tty n).area.bottom - 1)
  else s

/-- The end of a line. -/
def AtLineEnd (c : Console) : Prop := c.cursorX ≥ c.area.right - 1

instance (c : Console) : Decidable (AtLineEnd c) := by
  unfold AtLineEnd
  infer_instance

/-- How `console_outbyte` prints a character: it moves the cursor and draws. -/
def printMoved (ch : ℤ) : ConsoleState :=
  let c := s.tty n
  let s :=
    if AtLineEnd c then s.setCursor n c.area.left (ulongAdd c.cursorY 1)
    else s.setCursor n (ulongAdd c.cursorX 1) c.cursorY
  let s := drawEcho n (scrollAtBottom n s) ch
  { s with prev := ch % 2 ^ 8 }

/-- How `console_outbyte2` prints a character: it draws and moves the cursor, but at the end of a line
it moves first. -/
def printInPlace (ch : ℤ) : ConsoleState :=
  let c := s.tty n
  let increment := ¬AtLineEnd c
  let s := if increment then s else s.setCursor n c.area.left (ulongAdd c.cursorY 1)
  let s := drawEcho n (scrollAtBottom n s) ch
  let s := { s with prev2 := ch % 2 ^ 8 }
  if increment then s.setCursor n (ulongAdd (s.tty n).cursorX 1) (s.tty n).cursorY else s

/-- `console_outbyte`. -/
def consoleOutbyte (ch : ℤ) (n : ConsoleNumber) (s : ConsoleState) : ConsoleState :=
  let c := s.tty n
  let home := s.prev = 13 ∨ s.stdioTerminalmodeFlag ∨ s.stdioVerbosemodeFlag
  if ch < 0 then s
  else if ch = 12 then s.setCursor n c.area.left c.area.top
  else if ch = 10 then { lineFeed n s home with prev := 10 }
  else if ch = 9 then { s.setCursor n (ulongAdd c.cursorX 8) c.cursorY with prev := 9 }
  else if ch = 13 then { s.setCursor n c.area.left c.cursorY with prev := 13 }
  else if ch = 32 then { s.setCursor n (ulongAdd c.cursorX 1) c.cursorY with prev := 32 }
  else if ch = 8 then { s.setCursor n (ulongSub c.cursorX 1) c.cursorY with prev := 8 }
  else printMoved n s ch

/-- `console_outbyte2`. -/
def consoleOutbyte2 (ch : ℤ) (n : ConsoleNumber) (s : ConsoleState) : ConsoleState :=
  let c := s.tty n
  let home := s.prev2 = 13 ∨ s.stdioTerminalmodeFlag ∨ s.stdioVerbosemodeFlag
  if ch = 12 then s.setCursor n c.area.left c.area.top
  else if ch = 10 then { lineFeed n s home with prev2 := 10 }
  else if ch = 9 then { s.setCursor n (ulongAdd c.cursorX 8) c.cursorY with prev2 := 9 }
  else if ch = 13 then { s.setCursor n c.area.left c.cursorY with prev2 := 13 }
  else if ch = 32 then { s.setCursor n (ulongAdd c.cursorX 1) c.cursorY with prev2 := 32 }
  else if ch = 8 ∧ c.cursorX > 0 then
    { s.setCursor n (ulongSub c.cursorX 1) c.cursorY with prev2 := 8 }
  else if ch = 8 ∧ c.cursorY > 0 then
    { s.setCursor n (c.area.right - 1) (ulongSub c.cursorY 1) with prev2 := 8 }
  -- a backspace at the first cell of the screen is printed
  else printInPlace n s ch

/-- `console_putchar`. -/
def consolePutchar (ch : ℤ) (n : ConsoleNumber) (s : ConsoleState) : ConsoleState :=
  let s := consoleOutbyte ch n { s with stdioTerminalmodeFlag := true }
  { s with stdioTerminalmodeFlag := false }

end

/-! ## The parameters of an escape sequence -/

/-- The digits at the front of a string. -/
def atoiDigits : ℤ → List UInt8 → ℤ
  | rv, [] => rv
  | rv, b :: rest =>
      if 48 ≤ b ∧ b ≤ 57 then atoiDigits (rv * 10 + (b.toNat - 48)) rest else rv

/-- `k_atoi`. -/
def kAtoi : List UInt8 → ℤ
  | [] => 0
  | b :: rest =>
      if b = 0 then 0
      else if 48 ≤ b ∧ b ≤ 57 then atoiDigits 0 (b :: rest)
      else if b = 45 then -atoiDigits 0 rest
      else if b = 43 then atoiDigits 0 rest
      else kAtoi rest

/-- `ivalue`: the code of a digit is an `int`, which `k_atoi` reads as a string. -/
def ConsoleState.ivalue (s : ConsoleState) (i : ℕ) : ℤ := kAtoi [s.par i, 0, 0, 0]

/-- The loop that clears the parameters. -/
def ConsoleState.clearPar (s : ConsoleState) : ConsoleState :=
  { s with
    par := fun i => if i < NPAR then 0 else s.par i
    npar := 0 }

/-! ## The commands of an escape sequence -/

/-- The final bytes that the switch of stage 4 knows. -/
inductive CsiCommand where
  | column
  | up
  | down
  | right
  | left
  | nextLine
  | previousLine
  | line
  | position
  | eraseDisplay
  | eraseLine
  | insertLines
  | deleteLines
  | deleteChars
  | insertChars
  | attributes
  | margins
  | save
  | restore
  deriving DecidableEq

/-- The cases of the switch. -/
def csiCommand (ch : UInt8) : Option CsiCommand :=
  match Char.ofNat ch.toNat with
  | 'G' | '\x60' => some .column
  | 'A' => some .up
  | 'B' | 'e' => some .down
  | 'C' | 'a' => some .right
  | 'D' => some .left
  | 'E' => some .nextLine
  | 'F' => some .previousLine
  | 'd' => some .line
  | 'H' | 'f' => some .position
  | 'J' => some .eraseDisplay
  | 'K' => some .eraseLine
  | 'L' => some .insertLines
  | 'M' => some .deleteLines
  | 'P' => some .deleteChars
  | '@' => some .insertChars
  | 'm' => some .attributes
  | 'r' => some .margins
  | 's' => some .save
  | 'u' => some .restore
  | _ => none

/-- The bytes that stage 1 knows. -/
inductive EscapeCommand where
  | introducer
  | newLine
  | linefeed
  | identify
  deriving DecidableEq

/-- The cases of stage 1. -/
def escapeCommand (ch : UInt8) : Option EscapeCommand :=
  match Char.ofNat ch.toNat with
  | '[' => some .introducer
  | 'E' => some .newLine
  | 'D' => some .linefeed
  | 'Z' => some .identify
  | _ => none

/-- How many blanks `csi_P` and `csi_at` print. -/
def csiBlanks (nr : ℤ) (c : Console) : ℤ :=
  if toUlong nr > c.area.right - 1 then (c.area.right - 1 : ℕ)
  else if nr = 0 then 1
  else nr

/-- `csi_P` and `csi_at`: the loops `while (nr--)` over `__local_delete_char` and
`__local_insert_char`. -/
def csiPrintBlanks (nr : ℤ) (n : ConsoleNumber) (s : ConsoleState) : ConsoleState :=
  (consolePutchar 32 n)^[(csiBlanks nr (s.tty n)).toNat] s

/-- The cases of stage 4, with the first two parameters.  `csi_J`, `csi_K`, `csi_L` and `csi_M` do
nothing, nor does `r`. -/
def csiExecute (n : ConsoleNumber) (s : ConsoleState) (ivalue ivalue2 : ℤ) :
    CsiCommand → ConsoleState
  | .column => localGotoxy n s ivalue (toInt32 (s.tty n).cursorY)
  | .up =>
      localGotoxy n s (toInt32 (s.tty n).cursorX)
        (toInt32 (ulongSub (s.tty n).cursorY (toUlong ivalue)))
  | .down =>
      localGotoxy n s (toInt32 (s.tty n).cursorX)
        (toInt32 (ulongAdd (s.tty n).cursorY (toUlong ivalue)))
  | .right =>
      localGotoxy n s (toInt32 (ulongAdd (s.tty n).cursorX (toUlong ivalue)))
        (toInt32 (s.tty n).cursorY)
  | .left =>
      localGotoxy n s (toInt32 (ulongSub (s.tty n).cursorX (toUlong ivalue)))
        (toInt32 (s.tty n).cursorY)
  | .nextLine => localGotoxy n s 0 (toInt32 (ulongAdd (s.tty n).cursorY (toUlong ivalue)))
  | .previousLine => localGotoxy n s 0 (toInt32 (ulongSub (s.tty n).cursorY (toUlong ivalue)))
  | .line => localGotoxy n s (toInt32 (s.tty n).cursorX) ivalue
  | .position => localGotoxy n s ivalue ivalue2
  | .eraseDisplay | .eraseLine | .insertLines | .deleteLines | .margins => s
  | .deleteChars | .insertChars => csiPrintBlanks ivalue n s
  | .attributes => s.clearPar
  | .save => localSaveCur n s
  | .restore => localRestoreCur n s

/-- The stage that a case of stage 4 leaves behind. -/
def CsiCommand.nextStage : CsiCommand → EscapeStage
  | .attributes => .ground
  | _ => .final

/-! ## `console_write` -/

/-- Stage 3: parameters are taken into the array; any other byte is left to stage 4. -/
def paramByte (ch : UInt8) (s : ConsoleState) : ConsoleState × Bool :=
  if ch = 59 ∧ s.npar < NPAR - 1 then ({ s with npar := s.npar + 1 }, false)
  else if 48 ≤ ch ∧ ch ≤ 57 then ({ s with par := Function.update s.par s.npar ch }, false)
  else ({ s with stage := .final }, true)

/-- Stage 2. -/
def csiByte (ch : UInt8) (s : ConsoleState) : ConsoleState × Bool :=
  let s := { s.clearPar with stage := .params }
  if ch = 63 then (s, false) else paramByte ch s

/-- What the stages 2 to 4 do before the switch, and whether the byte gets to it. -/
def beforeSwitch (ch : UInt8) (s : ConsoleState) : ConsoleState × Bool :=
  match s.stage with
  | .ground | .escape => (s, false)
  | .csi => csiByte ch s
  | .params => paramByte ch s
  | .final => (s, true)

section

variable (n : ConsoleNumber) (ch : UInt8) (s : ConsoleState)

/-- Stage 4. -/
def finalByte : ConsoleState :=
  let s := { s with stage := .ground }
  match csiCommand ch with
  | none => s
  | some command =>
      { csiExecute n s (s.ivalue 0) (s.ivalue 1) command with stage := command.nextStage }

/-- Stage 0. -/
def groundByte : ConsoleState :=
  if 32 ≤ ch ∧ ch ≠ 127 then
    if (s.tty n).echo ∧ ch ≤ 127 then consoleOutbyte2 ch.toNat n s else s
  else if ch = 27 then { s with stage := .escape }
  else if ch = 10 ∨ ch = 13 ∨ ch = 8 ∨ ch = 9 then consolePutchar ch.toNat n s
  else s

/-- `console_write_string`.  Each byte is a call of `console_write` of its own, which starts in stage
0; so no byte of the string gets to another stage. -/
def consoleWriteString (string : List UInt8) : ConsoleState :=
  string.foldl (fun s ch => groundByte n ch { s with stage := .ground }) s

/-- `__RESPONSE`: `"\033[?1;2c"`. -/
def RESPONSE : List UInt8 := [27, 91, 63, 49, 59, 50, 99]

/-- Stage 1.  `ESC M` does nothing. -/
def escapeByte : ConsoleState :=
  let s := { s with stage := .ground }
  match escapeCommand ch with
  | none => s
  | some .introducer => { s with stage := .csi }
  | some .newLine => localGotoxy n s 0 (toInt32 (ulongAdd (s.tty n).cursorY 1))
  | some .linefeed => consolePutchar ch.toNat n s
  | some .identify => consoleWriteString n s RESPONSE

/-- A round of the loop of `console_write`. -/
def consoleByte : ConsoleState :=
  match s.stage with
  | .ground => groundByte n ch s
  | .escape => escapeByte n ch s
  | .csi | .params | .final =>
      let (s, atSwitch) := beforeSwitch ch s
      if atSwitch then finalByte n ch s else s

/-- `console_write`. -/
def consoleWrite (bytes : List UInt8) : ConsoleState :=
  if bytes = [] then s
  else bytes.foldl (fun s ch => consoleByte n ch s) { s with stage := .ground }

end

/-! ## Switching consoles -/

/-- `console_clear_imp`: the cursor goes to the corner of the screen. -/
def consoleClear (n : ConsoleNumber) (s : ConsoleState) : ConsoleState := localGotoxy n s 0 0

/-- The console is shown: `console_set_current_virtual_console`, `console_clear_imp`, and
`set_up_cursor` from the banner. -/
def showConsole (n : ConsoleNumber) (s : ConsoleState) : ConsoleState :=
  let s := consoleClear n { s with fgConsole := n }
  (consoleClear s.fgConsole s).setCursor s.fgConsole 0 0

/-- `jobcontrol_switch_console`: after that, `printk` prints the banner and the prompt. -/
def jobcontrolSwitchConsole (banner : List UInt8) (n : ConsoleNumber) (s : ConsoleState) :
    ConsoleState :=
  (banner ++ [10, 36, 32]).foldl (fun s (ch : UInt8) => consoleOutbyte2 ch.toNat s.fgConsole s)
    (showConsole n s)

end Gramado
