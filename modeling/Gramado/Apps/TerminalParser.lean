import Gramado.Apps.TerminalCursor
import Gramado.Dev.EscapeParser

/-!
# The escape sequences of the terminal

Cutting a text into calls of `tputstring` should not be seen, `ESC [ N F` should move the cursor or
erase by `N`, and a sequence should be over, with its parameter, behind its final byte.  But each call
begins and ends outside of any sequence, only the last digit of `N` is kept, and only `m` ends a
sequence; the buffer of the parameter is never emptied.

* `EndsInGround` — a call that ends outside of any sequence; only then a cut behind it is not seen.
* `Move.Fits` — when a command goes as far as it should.
* `CsiText.Settled` — nothing of a sequence is left behind it; `CsiText.Clean` says when.
-/

namespace Gramado.Terminal

/-! ## What can be seen -/

/-- The cursor, the saved position, and what was drawn. -/
structure SameScreen (s t : Term) : Prop where
  cursorX : s.cursorX = t.cursorX
  cursorY : s.cursorY = t.cursorY
  savedCol : s.textSavedCol = t.textSavedCol
  savedRow : s.textSavedRow = t.textSavedRow
  log : s.log = t.log

lemma SameScreen.refl (s : Term) : SameScreen s s := ⟨rfl, rfl, rfl, rfl, rfl⟩

/-- Several calls of `tputstring`. -/
def tputstrings (s : Term) (calls : List (List UInt8)) : Term := calls.foldl tputstring s

/-! ## The parser alone -/

/-- Where the parser is. -/
inductive Mode where
  /-- Text is printed. -/
  | ground
  /-- Behind `ESC`. -/
  | escape
  /-- Behind `ESC [`. -/
  | csi
  /-- Nothing is read until the next `ESC`. -/
  | ignoring
  deriving DecidableEq

/-- A byte behind `ESC`. -/
def Mode.afterEscape (ascii : UInt8) : Mode :=
  match escAction ascii with
  | .introducer => .csi
  | .str | .ignored => .escape
  | .charset | .line => .ground
  | .test | .altCharset | .mark => .ignoring

/-- A byte that is no control code. -/
def Mode.graphic (ascii : UInt8) : Mode → Mode
  | .ground => .ground
  | .escape => .afterEscape ascii
  | .csi => if ascii = 109 then .ground else .csi
  | .ignoring => .ignoring

/-- A byte moves the parser. -/
def Mode.step (mode : Mode) (ascii : UInt8) : Mode :=
  if ascii = 0x1B then .escape else if IsControl ascii then mode else mode.graphic ascii

/-- The call ends outside of a sequence. -/
def EndsInGround (u : List UInt8) : Prop := u.foldl Mode.step .ground = .ground

instance (u : List UInt8) : Decidable (EndsInGround u) :=
  inferInstanceAs (Decidable (_ = Mode.ground))

/-- The terminal is where the parser says. -/
def InMode (s : Term) : Mode → Prop
  | .ground => ¬s.sequenceStatus
  | .escape => s.sequenceStatus ∧ s.esc.start ∧ ¬s.esc.csi ∧ ¬s.esc.strEnd ∧ ¬s.esc.altCharset ∧
      ¬s.esc.test
  | .csi => s.sequenceStatus ∧ s.esc.start ∧ s.esc.csi
  | .ignoring => s.sequenceStatus ∧
      (s.esc.start → ¬s.esc.csi ∧ (s.esc.strEnd ∨ s.esc.altCharset ∨ s.esc.test))

/-- The state of the parser is set. -/
def Term.setParser (s : Term) (status : Bool) (esc : EscapeState) (buffer : UInt8) : Term :=
  { s with sequenceStatus := status, esc := esc, csiBuffer := buffer }

section

variable {s : Term}

/-- Drawing a character does not look at the parser. -/
lemma terminalWriteChar_setParser (s : Term) (c : UInt8) (status : Bool) (esc : EscapeState)
    (buffer : UInt8) : terminalWriteChar (s.setParser status esc buffer) c =
      (terminalWriteChar s c).setParser status esc buffer := by
  rw [terminalWriteChar, terminalWriteChar]
  split_ifs with hreturn hline
  · rfl
  · change (if toUlong (s.cursorY + 1) ≥ s.heightInChars then _ else _) =
      Term.setParser (if toUlong (s.cursorY + 1) ≥ s.heightInChars then _ else _) _ _ _
    split_ifs <;> rfl
  · change (if toUlong (s.cursorX + 1) ≥ s.widthInChars then _ else _) =
      Term.setParser (if toUlong (s.cursorX + 1) ≥ s.widthInChars then _ else _) _ _ _
    split_ifs <;> rfl

lemma blanks_setParser (n : ℕ) (status : Bool) (esc : EscapeState) (buffer : UInt8) :
    ∀ s : Term, blanks n (s.setParser status esc buffer) =
      (blanks n s).setParser status esc buffer := by
  induction n with
  | zero => exact fun s => rfl
  | succ n ih =>
      intro s
      rw [blanks, blanks, terminalWriteChar_setParser, ih]

/-- Drawing a character leaves the parser as it is. -/
lemma terminalWriteChar_keepsMode (s : Term) (c : UInt8) :
    (terminalWriteChar s c).sequenceStatus = s.sequenceStatus ∧
      (terminalWriteChar s c).esc = s.esc := by
  have hself : terminalWriteChar s c =
      (terminalWriteChar s c).setParser s.sequenceStatus s.esc s.csiBuffer :=
    terminalWriteChar_setParser s c _ _ _
  exact ⟨(congrArg Term.sequenceStatus hself :), (congrArg Term.esc hself :)⟩

lemma blanks_keepsMode (n : ℕ) (s : Term) :
    (blanks n s).sequenceStatus = s.sequenceStatus ∧ (blanks n s).esc = s.esc := by
  have hself : blanks n s = (blanks n s).setParser s.sequenceStatus s.esc s.csiBuffer :=
    blanks_setParser n _ _ _ s
  exact ⟨(congrArg Term.sequenceStatus hself :), (congrArg Term.esc hself :)⟩

lemma InMode.congr {t : Term} {mode : Mode} (hs : InMode s mode)
    (hstatus : t.sequenceStatus = s.sequenceStatus) (hesc : t.esc = s.esc) : InMode t mode := by
  cases mode <;> simpa only [InMode, hstatus, hesc] using hs

lemma controlCode_mode {mode : Mode} (hs : InMode s mode) {ascii : UInt8}
    (hascii : IsControl ascii) : InMode (controlCode s ascii) (mode.step ascii) := by
  rw [controlCode, Mode.step]
  split_ifs with hdrawn hescape hescape
  · subst hescape
    exact absurd hdrawn (by decide)
  · obtain ⟨hstatus, hesc⟩ := terminalWriteChar_keepsMode s ascii
    exact hs.congr hstatus hesc
  · exact ⟨rfl, rfl, (fun h => by cases h), (fun h => by cases h), (fun h => by cases h), (fun h => by cases h)⟩
  · exact hs

/-- Behind `ESC [`, only `m` leads out. -/
lemma csiByte_mode (hs : InMode s .csi) (ascii : UInt8) :
    InMode (csiByte s ascii) (if ascii = 109 then .ground else .csi) := by
  by_cases hend : ascii = 109
  · rw [if_pos hend, csiByte, csiAction, if_pos hend]
    exact fun h => by cases h
  · rw [if_neg hend]
    have hne : csiAction ascii ≠ .endOfSequence := by
      rw [csiAction, if_neg hend]
      split_ifs <;> exact fun h => by cases h
    rw [csiByte]
    cases haction : csiAction ascii with
    | endOfSequence => exact absurd haction hne
    | erase =>
        dsimp only
        split_ifs
        · exact hs.congr (blanks_keepsMode _ s).1 (blanks_keepsMode _ s).2
        · exact hs
    | saveCur | restoreCur | up | down | right | left | style | value => exact hs

lemma escByte_mode (hs : InMode s .escape) (ascii : UInt8) :
    InMode (escByte s ascii) (.afterEscape ascii) := by
  obtain ⟨hstatus, hstart, hcsi, hend, halt, htest⟩ := hs
  rw [escByte, Mode.afterEscape]
  cases escAction ascii with
  | introducer => exact ⟨hstatus, hstart, rfl⟩
  | test => exact ⟨hstatus, fun _ => ⟨hcsi, .inr (.inr rfl)⟩⟩
  | str => exact ⟨hstatus, hstart, hcsi, hend, halt, htest⟩
  | altCharset => exact ⟨hstatus, fun _ => ⟨hcsi, .inr (.inl rfl)⟩⟩
  | charset => exact fun h => by cases h
  | line => exact fun h => by cases h
  | mark =>
      obtain ⟨hstatus', hesc⟩ := terminalWriteChar_keepsMode (s.setEsc .zero) 36
      refine ⟨hstatus'.trans hstatus, fun h => ?_⟩
      rw [hesc] at h
      cases h
  | ignored => exact ⟨hstatus, hstart, hcsi, hend, halt, htest⟩

/-- **The terminal follows the parser.** -/
lemma tputc_mode {mode : Mode} (hs : InMode s mode) (ascii : UInt8) :
    InMode (tputc s ascii) (mode.step ascii) := by
  by_cases hcontrol : IsControl ascii
  · rw [tputc, if_neg (fun h => h.2 hcontrol), if_pos hcontrol]
    exact controlCode_mode hs hcontrol
  · have hescape : ascii ≠ 0x1B := by
      rintro rfl
      exact hcontrol (by decide)
    rw [Mode.step, if_neg hescape, if_neg hcontrol, tputc]
    cases mode with
    | ground =>
        rw [if_pos ⟨hs, hcontrol⟩]
        exact hs.congr (terminalWriteChar_keepsMode s ascii).1 (terminalWriteChar_keepsMode s ascii).2
    | escape =>
        obtain ⟨hstatus, hstart, hcsi, hend, halt, htest⟩ := id hs
        rw [if_neg (fun h => h.1 hstatus), if_neg hcontrol, if_pos hstart, if_neg hcsi, if_neg hend,
          if_neg halt, if_neg htest]
        exact escByte_mode hs ascii
    | csi =>
        obtain ⟨hstatus, hstart, hcsi⟩ := id hs
        rw [if_neg (fun h => h.1 hstatus), if_neg hcontrol, if_pos hstart, if_pos hcsi]
        exact csiByte_mode hs ascii
    | ignoring =>
        obtain ⟨hstatus, hignored⟩ := id hs
        rw [if_neg (fun h => h.1 hstatus), if_neg hcontrol]
        by_cases hstart : s.esc.start
        · obtain ⟨hcsi, hflags⟩ := hignored hstart
          rw [if_pos hstart, if_neg hcsi]
          rw [← or_assoc] at hflags
          split_ifs with hend halt htest
          · exact hs
          · exact hs
          · exact hs
          · exact absurd hflags (by simp [hend, halt, htest])
        · rw [if_neg hstart]
          exact hs

lemma bytes_mode (u : List UInt8) : ∀ {s : Term} {mode : Mode}, InMode s mode →
    InMode (u.foldl tputc s) (u.foldl Mode.step mode) := by
  induction u with
  | nil => exact fun hs => hs
  | cons ascii u ih => exact fun hs => ih (tputc_mode hs ascii)

/-! ## Cuts -/

/-- The bytes of a call, before its end. -/
def readBytes (s : Term) (u : List UInt8) : Term := u.foldl tputc (s.setStatus false)

lemma tputstring_eq {u : List UInt8} (hu : u ≠ []) :
    tputstring s u = (readBytes s u).setStatus false := by
  rw [tputstring, if_neg hu, readBytes]

/-- Each call starts outside of any sequence. -/
lemma readBytes_mode (s : Term) (u : List UInt8) :
    InMode (readBytes s u) (u.foldl Mode.step .ground) := by
  have hground : InMode (s.setStatus false) .ground := nofun
  exact bytes_mode u hground

lemma readBytes_status (s : Term) (u : List UInt8) :
    (readBytes s u).sequenceStatus = false ↔ EndsInGround u := by
  have hmode := readBytes_mode s u
  rw [EndsInGround]
  cases hend : u.foldl Mode.step .ground with
  | ground =>
      rw [hend] at hmode
      exact iff_of_true (Bool.eq_false_of_not_eq_true hmode) rfl
  | escape | csi | ignoring =>
      rw [hend] at hmode
      exact iff_of_false (by simp [hmode.1]) nofun

/-- Behind a call that ends outside of a sequence, the next call goes on where it ended. -/
lemma tputstring_append {u : List UInt8} (hu : EndsInGround u) (v : List UInt8) :
    tputstring (tputstring s u) v = tputstring s (u ++ v) := by
  by_cases hu' : u = []
  · subst hu'
    rfl
  by_cases hv : v = []
  · subst hv
    rw [List.append_nil]
    rfl
  have hstatus := (readBytes_status s u).2 hu
  have hsame : ((readBytes s u).setStatus false).setStatus false = readBytes s u := by
    rw [Term.setStatus, Term.setStatus, ← hstatus]
  rw [tputstring_eq hv, tputstring_eq hu', tputstring_eq (List.append_ne_nil_of_left_ne_nil hu' v),
    readBytes, hsame, readBytes, readBytes, List.foldl_append]

/-- Inside of a sequence an `x` is not drawn. -/
lemma letter_ignored (hs : s.sequenceStatus = true) : (tputc s 120).log = s.log := by
  have hcontrol : ¬IsControl 120 := by decide
  rw [tputc, if_neg (fun h => h.1 hs), if_neg hcontrol]
  split_ifs <;> rfl

/-- **A cut behind `u` is not seen, whatever follows, exactly if `u` ends outside of a sequence.** -/
lemma cut_iff (u : List UInt8) :
    (∀ v, 0 ∉ v → SameScreen (tputstring (tputstring s u) v) (tputstring s (u ++ v))) ↔
      EndsInGround u := by
  constructor
  · intro h
    by_contra hu
    have hu' : u ≠ [] := by
      rintro rfl
      exact hu rfl
    have hstatus : (readBytes s u).sequenceStatus = true :=
      Bool.eq_true_of_not_eq_false (mt (readBytes_status s u).1 hu)
    -- a letter behind it tells the two apart
    have htwo : (tputstring (tputstring s u) [120]).log =
        (drawCell ((readBytes s u).setStatus false) 120).log := by
      rw [tputstring_eq hu']
      exact advance_log _
    have hone : (tputstring s (u ++ [120])).log = (readBytes s u).log := by
      rw [tputstring_eq (List.append_ne_nil_of_left_ne_nil hu' _), readBytes, List.foldl_append]
      exact letter_ignored hstatus
    have hsame := (h [120] (by decide)).log
    rw [htwo, hone] at hsame
    exact absurd (List.self_eq_append_right.1 hsame.symm) nofun
  · intro hu v _
    rw [tputstring_append hu]
    exact .refl _

/-- The same for many calls. -/
lemma tputstrings_flatten {calls : List (List UInt8)} (hcalls : ∀ u ∈ calls, EndsInGround u)
    (last : List UInt8) :
    tputstrings s (calls ++ [last]) = tputstring s (calls.flatten ++ last) := by
  induction calls generalizing s with
  | nil => rfl
  | cons u calls ih =>
      rw [List.flatten_cons, List.append_assoc, ← tputstring_append (hcalls u List.mem_cons_self)]
      exact ih fun w hw => hcalls w (List.mem_cons_of_mem _ hw)

/-! ## Commands with a number -/

/-- The commands that move the cursor or erase. -/
inductive Move where
  | up
  | down
  | right
  | left
  | erase
  deriving DecidableEq

/-- The final byte: `A`, `B`, `C`, `D` or `K`. -/
def Move.final : Move → UInt8
  | .up => 65
  | .down => 66
  | .right => 67
  | .left => 68
  | .erase => 75

/-- **What should happen**: the cursor moves by `number`, up to the edge of the terminal, or as many
spaces are drawn, up to the end of the row. -/
def Move.expected (s : Term) (number : ℤ) : Move → Term
  | .up => s.setCursor s.cursorX (max (s.cursorY - number) 0)
  | .down => s.setCursor s.cursorX (min (s.cursorY + number) (s.heightInChars - 1))
  | .right => s.setCursor (min (s.cursorX + number) (s.widthInChars - 1)) s.cursorY
  | .left => s.setCursor (max (s.cursorX - number) 0) s.cursorY
  | .erase => blanks (min number (s.widthInChars - s.cursorX)).toNat s

/-- A coordinate gets to where it should: the edge should be at `size`, the code has it at `limit`
and goes by the last digit. -/
def Reaches (pos number : ℤ) (size limit : ℤ) : Prop :=
  if pos + number < size then number < 10 ∧ pos + number ≤ limit
  else (pos + number % 10 = size - 1 ∧ size ≤ limit + 1) ∨
    (size = limit + 1 ∧ limit ≤ pos + number % 10)

/-- **When a command goes as far as it should.** -/
def Move.Fits (s : Term) (number : ℤ) : Move → Prop
  | .up => number < 10 ∨ s.cursorY ≤ number % 10
  | .down => Reaches s.cursorY number s.heightInChars 24
  | .right => Reaches s.cursorX number s.widthInChars 79
  | .left => s.cursorX = 0 ∨ number % 10 ≤ s.cursorX ∧ (number < 10 ∨ s.cursorX = number % 10)
  | .erase => number = 0 ∨ s.cursorX + number % 10 < 80 ∧
      (number < 10 ∧ s.cursorX + number ≤ s.widthInChars ∨
        s.cursorX + number % 10 = s.widthInChars)

/-- The sequence `ESC [ number F`. -/
def Move.bytes (move : Move) (number : List UInt8) : List UInt8 := [27, 91] ++ (number ++ [move.final])

/-- `Terminal.esc` behind `ESC [`. -/
def EscapeState.introduced : EscapeState := { EscapeState.started with csi := true }

/-- The terminal behind `ESC [`. -/
def Term.introduced (s : Term) (buffer : UInt8) : Term := s.setParser true .introduced buffer

/-- `ESC [` at the start of a call. -/
lemma readBytes_introduced (s : Term) (u : List UInt8) :
    readBytes s ([27, 91] ++ u) = u.foldl tputc (s.introduced s.csiBuffer) := rfl

/-- A byte behind `ESC [` that is no control code. -/
lemma tputc_introduced (s : Term) (buffer : UInt8) {ascii : UInt8} (h : ¬IsControl ascii) :
    tputc (s.introduced buffer) ascii = csiByte (s.introduced buffer) ascii := by
  have hstart : (s.introduced buffer).esc.start = true := rfl
  have hcsi : (s.introduced buffer).esc.csi = true := rfl
  rw [tputc, if_neg (fun hstatus => hstatus.1 rfl), if_neg h, if_pos hstart, if_pos hcsi]

/-- The byte that a part of a sequence leaves in the buffer. -/
def leftover (buffer : UInt8) (body : List UInt8) : UInt8 :=
  ((body.filter fun b => b ≠ 59).getLast?).getD buffer

/-- The bytes between `ESC [` and the final byte. -/
def IsBody (body : List UInt8) : Prop := ∀ b ∈ body, 32 ≤ b ∧ b ≤ 63

/-- A byte of the body goes into the buffer. -/
lemma csiAction_body {b : UInt8} (h : 32 ≤ b ∧ b ≤ 63) :
    ¬IsControl b ∧ csiAction b = if b = 59 then .style else .value := by
  have hlo := UInt8.le_iff_toNat_le.1 h.1
  have hhi := UInt8.le_iff_toNat_le.1 h.2
  simp only [UInt8.reduceToNat] at hlo hhi
  have hne (c : UInt8) (hc : 63 < c.toNat) : b ≠ c := by
    rintro rfl
    omega
  constructor
  · rintro (hcontrol | hcontrol)
    · have := UInt8.le_iff_toNat_le.1 hcontrol
      simp only [UInt8.reduceToNat] at this
      omega
    · exact hne 0x7F (by decide) hcontrol
  · rw [csiAction, if_neg (hne 109 (by decide)), if_neg (hne 115 (by decide)),
      if_neg (hne 117 (by decide)), if_neg (hne 65 (by decide)), if_neg (hne 66 (by decide)),
      if_neg (hne 67 (by decide)), if_neg (hne 68 (by decide)), if_neg (hne 75 (by decide))]

lemma body_run {body : List UInt8} (hbody : IsBody body) (s : Term) (buffer : UInt8) :
    body.foldl tputc (s.introduced buffer) = s.introduced (leftover buffer body) := by
  induction body using List.reverseRecOn with
  | nil => rfl
  | append_singleton body b ih =>
      obtain ⟨hcontrol, haction⟩ := csiAction_body (hbody b (by simp))
      rw [List.foldl_append, ih fun c hc => hbody c (List.mem_append_left _ hc)]
      rw [List.foldl_cons, List.foldl_nil, tputc_introduced _ _ hcontrol, csiByte, haction]
      by_cases hstyle : b = 59
      · have hsame : leftover buffer (body ++ [b]) = leftover buffer body := by
          simp [leftover, hstyle]
        rw [hsame, if_pos hstyle]
      · have hlast : leftover buffer (body ++ [b]) = b := by
          simp [leftover, hstyle]
        rw [hlast, if_neg hstyle]
        rfl

/-- **A sequence**, up to its final byte and with it. -/
lemma readBytes_sequence {body : List UInt8} (hbody : IsBody body) {final : UInt8}
    (hfinal : ¬IsControl final) (s : Term) :
    readBytes s ([27, 91] ++ (body ++ [final])) =
      csiByte (s.introduced (leftover s.csiBuffer body)) final := by
  rw [readBytes_introduced, List.foldl_append, body_run hbody, List.foldl_cons, List.foldl_nil,
    tputc_introduced _ _ hfinal]

/-! ## What the commands do -/

lemma digits_body {p : List UInt8} (hp : ∀ d ∈ p, 48 ≤ d ∧ d ≤ 57) : IsBody p := by
  intro d hd
  obtain ⟨hlo, hhi⟩ := hp d hd
  exact ⟨UInt8.le_trans (show 32 ≤ 48 by decide) hlo, UInt8.le_trans hhi (show 57 ≤ 63 by decide)⟩

/-- The last digit of a number is left in the buffer. -/
lemma leftover_digits {p : List UInt8} (hp : ∀ d ∈ p, 48 ≤ d ∧ d ≤ 57) (hne : p ≠ [])
    (buffer : UInt8) : kAtoi [leftover buffer p, 0, 0, 0] = decimal p % 10 := by
  induction p using List.reverseRecOn with
  | nil => exact absurd rfl hne
  | append_singleton p d _ =>
      have hd := hp d (by simp)
      have hd' := digit_range hd
      have hstyle : d ≠ 59 := by
        rintro rfl
        exact absurd hd.2 (by decide)
      have hlast : leftover buffer (p ++ [d]) = d := by
        simp [leftover, hstyle]
      rw [hlast, kAtoi_code, if_pos hd, decimal_concat]
      omega

lemma Move.final_graphic (move : Move) : ¬IsControl move.final := by
  cases move <;> decide

/-- Two cursors over the same screen. -/
lemma sameScreen_setCursor (s : Term) (status status' : Bool) (esc : EscapeState) (buffer : UInt8)
    (x y x' y' : ℤ) : SameScreen (((s.setParser status esc buffer).setCursor x y).setStatus status')
      (s.setCursor x' y') ↔ x = x' ∧ y = y' :=
  ⟨fun h => ⟨h.cursorX, h.cursorY⟩, fun h => ⟨h.1, h.2, rfl, rfl, rfl⟩⟩

/-- A row gets to where it should. -/
lemma min_eq_iff_reaches {pos number size limit : ℤ} (hnumber : 0 ≤ number) :
    min (pos + number % 10) limit = min (pos + number) (size - 1) ↔
      Reaches pos number size limit := by
  rw [Reaches]
  split_ifs with hinside <;> omega

/-- Each space is two entries of the log. -/
lemma blanks_log_length (n : ℕ) : ∀ s : Term, (blanks n s).log.length = s.log.length + 2 * n := by
  induction n with
  | zero => exact fun s => rfl
  | succ n ih =>
      intro s
      have hone : (terminalWriteChar s 32).log.length = s.log.length + 2 := by
        rw [blank_eq, advance_log, drawCell, List.length_append]
        rfl
      rw [blanks, ih, hone]
      omega

lemma sameScreen_blanks (s : Term) (m n : ℕ) (status status' : Bool) (esc : EscapeState)
    (buffer : UInt8) : SameScreen ((blanks m (s.setParser status esc buffer)).setStatus status')
      (blanks n s) ↔ m = n := by
  rw [blanks_setParser]
  constructor
  · intro h
    have hlength := congrArg List.length h.log
    change (blanks m s).log.length = _ at hlength
    rw [blanks_log_length, blanks_log_length] at hlength
    omega
  · rintro rfl
    exact ⟨rfl, rfl, rfl, rfl, rfl⟩

/-- **A command with a number.** -/
lemma Move.expected_iff (hs : IsCell s.widthInChars s.heightInChars s.cursorX s.cursorY) (move : Move)
    {p : List UInt8} (hp : ∀ d ∈ p, 48 ≤ d ∧ d ≤ 57) (hne : p ≠ []) :
    SameScreen (tputstring s (move.bytes p)) (move.expected s (decimal p)) ↔
      move.Fits s (decimal p) := by
  obtain ⟨⟨hx, hx'⟩, hy, hy'⟩ := hs
  have hnumber := decimal_nonneg hp
  have hvalue : (s.introduced (leftover s.csiBuffer p)).ivalue = decimal p % 10 :=
    leftover_digits hp hne _
  have hrun : tputstring s (move.bytes p) =
      (csiByte (s.introduced (leftover s.csiBuffer p)) move.final).setStatus false := by
    have hbytes : move.bytes p ≠ [] := List.cons_ne_nil _ _
    rw [tputstring_eq hbytes, Move.bytes, readBytes_sequence (digits_body hp) move.final_graphic]
  rw [hrun]
  cases move with
  | up =>
      refine (sameScreen_setCursor s _ _ _ _ _ _ _ _).trans ?_
      rw [hvalue, Move.Fits]
      change s.cursorX = s.cursorX ∧ (if s.cursorY - decimal p % 10 < 0 then 0
        else s.cursorY - decimal p % 10) = _ ↔ _
      split_ifs <;> omega
  | down =>
      refine (sameScreen_setCursor s _ _ _ _ _ _ _ _).trans ?_
      rw [hvalue, Move.Fits, ← min_eq_iff_reaches hnumber]
      change s.cursorX = s.cursorX ∧ (if s.cursorY + decimal p % 10 > 24 then 24
        else s.cursorY + decimal p % 10) = _ ↔ _
      split_ifs <;> omega
  | right =>
      refine (sameScreen_setCursor s _ _ _ _ _ _ _ _).trans ?_
      rw [hvalue, Move.Fits, ← min_eq_iff_reaches hnumber]
      change (if s.cursorX + decimal p % 10 ≥ 80 then 79 else s.cursorX + decimal p % 10) = _ ∧
        s.cursorY = s.cursorY ↔ _
      split_ifs <;> omega
  | left =>
      refine (sameScreen_setCursor s _ _ _ _ _ _ _ _).trans ?_
      rw [hvalue, Move.Fits]
      change (if (if s.cursorX ≥ decimal p % 10 then s.cursorX - decimal p % 10 else s.cursorX) < 0
        then 0 else if s.cursorX ≥ decimal p % 10 then s.cursorX - decimal p % 10 else s.cursorX) =
          _ ∧ s.cursorY = s.cursorY ↔ _
      have hstays : ¬(if s.cursorX ≥ decimal p % 10 then s.cursorX - decimal p % 10 else s.cursorX) < 0 := by
        split_ifs <;> omega
      rw [if_neg hstays, and_iff_left rfl]
      split_ifs <;> omega
  | erase =>
      have herase : csiByte (s.introduced (leftover s.csiBuffer p)) Move.erase.final =
          blanks (if s.cursorX + decimal p % 10 < 80 then (decimal p % 10).toNat else 0)
            (s.introduced (leftover s.csiBuffer p)) := by
        change (if s.cursorX + (s.introduced (leftover s.csiBuffer p)).ivalue < 80 then _ else _) = _
        rw [hvalue]
        split_ifs <;> rfl
      rw [herase]
      refine (sameScreen_blanks s _ _ _ _ _ _).trans ?_
      rw [Move.Fits]
      split_ifs <;> omega

/-! ## What a sequence leaves behind -/

/-- A sequence `ESC [ P … P I … I F`: bytes of the parameters, intermediate bytes and a final byte. -/
structure CsiText where
  params : List UInt8
  inters : List UInt8
  final : UInt8
  params_range : ∀ b ∈ params, 48 ≤ b ∧ b ≤ 63
  inters_range : ∀ b ∈ inters, 32 ≤ b ∧ b ≤ 47
  final_range : 64 ≤ final ∧ final ≤ 126

namespace CsiText

variable (q : CsiText)

/-- The bytes between `ESC [` and the final byte. -/
def body : List UInt8 := q.params ++ q.inters

/-- The bytes of the sequence. -/
def bytes : List UInt8 := [27, 91] ++ (q.body ++ [q.final])

/-- **What should hold behind the final byte**: text is printed, and nothing that is written later
uses the parameter. -/
def Settled (s : Term) : Prop :=
  (readBytes s q.bytes).sequenceStatus = false ∧
    ∀ v, 0 ∉ v → SameScreen (tputstring (readBytes s q.bytes) v)
      (tputstring { readBytes s q.bytes with csiBuffer := 0 } v)

/-- **When it does**: the final byte is `m`, and the byte that is left in the buffer is no digit but
0. -/
def Clean (s : Term) : Prop :=
  q.final = 109 ∧ ¬(49 ≤ leftover s.csiBuffer q.body ∧ leftover s.csiBuffer q.body ≤ 57)

lemma body_range : IsBody q.body := by
  intro b hb
  rcases List.mem_append.1 hb with hb | hb
  · obtain ⟨hlo, hhi⟩ := q.params_range b hb
    exact ⟨UInt8.le_trans (show 32 ≤ 48 by decide) hlo, hhi⟩
  · obtain ⟨hlo, hhi⟩ := q.inters_range b hb
    exact ⟨hlo, UInt8.le_trans hhi (show 47 ≤ 63 by decide)⟩

lemma final_graphic : ¬IsControl q.final := by
  rintro (h | h)
  · exact absurd (UInt8.le_trans q.final_range.1 h) (show ¬(64 : UInt8) ≤ 31 by decide)
  · exact absurd (h ▸ q.final_range.2) (by decide)

lemma readBytes_eq (s : Term) :
    readBytes s q.bytes = csiByte (s.introduced (leftover s.csiBuffer q.body)) q.final :=
  readBytes_sequence q.body_range q.final_graphic s

end CsiText

/-- The same terminal, but for the buffer, and with the same value in it. -/
def Twin (s t : Term) : Prop :=
  ∃ buffer, s = t.setParser t.sequenceStatus t.esc buffer ∧ kAtoi [buffer, 0, 0, 0] = t.ivalue

lemma Twin.ivalue {t : Term} (h : Twin s t) : s.ivalue = t.ivalue := by
  obtain ⟨buffer, rfl, hvalue⟩ := h
  exact hvalue

lemma Twin.sameScreen {t : Term} (h : Twin s t) : SameScreen s t := by
  obtain ⟨buffer, rfl, -⟩ := h
  exact ⟨rfl, rfl, rfl, rfl, rfl⟩

lemma Twin.setCursor {t : Term} (h : Twin s t) (x y : ℤ) :
    Twin (s.setCursor x y) (t.setCursor x y) := by
  obtain ⟨buffer, rfl, hvalue⟩ := h
  exact ⟨buffer, rfl, hvalue⟩

lemma Twin.setStatus {t : Term} (h : Twin s t) (status : Bool) :
    Twin (s.setStatus status) (t.setStatus status) := by
  obtain ⟨buffer, rfl, hvalue⟩ := h
  exact ⟨buffer, rfl, hvalue⟩

lemma Twin.setEsc {t : Term} (h : Twin s t) (esc : EscapeState) :
    Twin (s.setEsc esc) (t.setEsc esc) := by
  obtain ⟨buffer, rfl, hvalue⟩ := h
  exact ⟨buffer, rfl, hvalue⟩

lemma Twin.write {t : Term} (h : Twin s t) (c : UInt8) :
    Twin (terminalWriteChar s c) (terminalWriteChar t c) := by
  obtain ⟨buffer, rfl, hvalue⟩ := h
  obtain ⟨hstatus, hesc⟩ := terminalWriteChar_keepsMode t c
  have hself : terminalWriteChar t c =
      (terminalWriteChar t c).setParser t.sequenceStatus t.esc t.csiBuffer :=
    terminalWriteChar_setParser t c _ _ _
  refine ⟨buffer, ?_, ?_⟩
  · rw [terminalWriteChar_setParser, hstatus, hesc]
  · rw [hvalue, hself]
    rfl

lemma Twin.blanks (n : ℕ) : ∀ {s t : Term}, Twin s t →
    Twin (blanks n s) (Terminal.blanks n t) := by
  induction n with
  | zero => exact fun h => h
  | succ n ih => exact fun h => ih (h.write 32)

lemma csiByte_twin {t : Term} (h : Twin s t) (ascii : UInt8) :
    Twin (csiByte s ascii) (csiByte t ascii) := by
  have hvalue := h.ivalue
  have hsame := h.sameScreen
  rw [csiByte, csiByte, hvalue, hsame.cursorX, hsame.cursorY, hsame.savedCol, hsame.savedRow]
  cases csiAction ascii with
  | endOfSequence => exact (h.setStatus false).setEsc .zero
  | saveCur =>
      obtain ⟨buffer, rfl, hbuffer⟩ := h
      exact ⟨buffer, rfl, hbuffer⟩
  | restoreCur | up | down | right | left => exact h.setCursor _ _
  | erase =>
      dsimp only
      split_ifs
      · exact h.blanks _
      · exact h
  | style => exact h
  | value =>
      obtain ⟨buffer, rfl, -⟩ := h
      exact ⟨ascii, rfl, rfl⟩

lemma escByte_twin {t : Term} (h : Twin s t) (ascii : UInt8) :
    Twin (escByte s ascii) (escByte t ascii) := by
  have hesc : s.esc = t.esc := by
    obtain ⟨buffer, rfl, -⟩ := h
    rfl
  rw [escByte, escByte, hesc]
  cases escAction ascii with
  | introducer | test | str | altCharset => exact h.setEsc _
  | charset => exact (h.setEsc .zero).setStatus false
  | line => exact (((h.setEsc .zero).setStatus false).write 10).setStatus false
  | mark => exact (h.setEsc .zero).write 36
  | ignored => exact h

/-- **Only the value of the buffer is used.** -/
lemma tputc_twin {t : Term} (h : Twin s t) (ascii : UInt8) : Twin (tputc s ascii) (tputc t ascii) := by
  have hparser : s.sequenceStatus = t.sequenceStatus ∧ s.esc = t.esc := by
    obtain ⟨buffer, rfl, -⟩ := h
    exact ⟨rfl, rfl⟩
  rw [tputc, tputc, controlCode, controlCode, hparser.1, hparser.2]
  split_ifs
  · exact h.write ascii
  · exact h.write ascii
  · exact (h.setStatus true).setEsc .started
  · exact h
  · exact csiByte_twin h ascii
  · exact h
  · exact h
  · exact h
  · exact escByte_twin h ascii
  · exact h

lemma bytes_twin (v : List UInt8) : ∀ {s t : Term}, Twin s t →
    Twin (v.foldl tputc s) (v.foldl tputc t) := by
  induction v with
  | nil => exact fun h => h
  | cons ascii v ih => exact fun h => ih (tputc_twin h ascii)

lemma tputstring_twin {t : Term} (h : Twin s t) (v : List UInt8) :
    Twin (tputstring s v) (tputstring t v) := by
  rw [tputstring, tputstring]
  split_ifs
  · exact h
  · exact (bytes_twin v (h.setStatus false)).setStatus false

/-- What is left in the buffer is the parameter of a later command: `ESC [ C`, or `ESC [ D` at the
right edge. -/
lemma parameter_used (h : ∀ v, 0 ∉ v → SameScreen (tputstring s v)
    (tputstring { s with csiBuffer := 0 } v)) : s.ivalue = 0 := by
  have hdigit := ivalue_range s
  have hzero : kAtoi [0, 0, 0, 0] = 0 := by decide
  have hright := (h [27, 91, 67] (by decide)).cursorX
  have hleft := (h [27, 91, 68] (by decide)).cursorX
  change (if s.cursorX + s.ivalue ≥ 80 then 79 else s.cursorX + s.ivalue) =
    (if s.cursorX + kAtoi [0, 0, 0, 0] ≥ 80 then 79 else s.cursorX + kAtoi [0, 0, 0, 0]) at hright
  change (if (if s.cursorX ≥ s.ivalue then s.cursorX - s.ivalue else s.cursorX) < 0 then 0
    else (if s.cursorX ≥ s.ivalue then s.cursorX - s.ivalue else s.cursorX)) =
      (if (if s.cursorX ≥ kAtoi [0, 0, 0, 0] then s.cursorX - kAtoi [0, 0, 0, 0] else s.cursorX) < 0
        then 0
        else (if s.cursorX ≥ kAtoi [0, 0, 0, 0] then s.cursorX - kAtoi [0, 0, 0, 0] else s.cursorX))
    at hleft
  rw [hzero] at hright hleft
  split_ifs at hright hleft <;> omega

/-- The value of a buffer is 0 but for the digits from 1. -/
lemma value_eq_zero (b : UInt8) : kAtoi [b, 0, 0, 0] = 0 ↔ ¬(49 ≤ b ∧ b ≤ 57) := by
  rw [kAtoi_code]
  simp only [UInt8.le_iff_toNat_le, UInt8.reduceToNat]
  split_ifs <;> omega

/-- **When a sequence leaves nothing behind.** -/
lemma CsiText.settled_iff (q : CsiText) (s : Term) : q.Settled s ↔ q.Clean s := by
  rw [Settled, Clean, q.readBytes_eq]
  by_cases hend : q.final = 109
  · have hbyte : csiByte (s.introduced (leftover s.csiBuffer q.body)) q.final =
        s.setParser false .zero (leftover s.csiBuffer q.body) := by
      rw [hend]
      rfl
    rw [hbyte, ← value_eq_zero]
    constructor
    · rintro ⟨-, hlater⟩
      exact ⟨hend, parameter_used hlater⟩
    · rintro ⟨-, hvalue⟩
      refine ⟨rfl, fun v _ => Twin.sameScreen (tputstring_twin ?_ v)⟩
      exact ⟨leftover s.csiBuffer q.body, rfl, hvalue⟩
  · refine iff_of_false ?_ fun h => hend h.1
    rintro ⟨hstatus, -⟩
    have hmode := csiByte_mode (s := s.introduced (leftover s.csiBuffer q.body)) ⟨rfl, rfl, rfl⟩ q.final
    rw [if_neg hend] at hmode
    exact absurd (hstatus.symm.trans hmode.1) nofun

/-- **The escape sequences of the terminal.**  A cut behind `u` is not seen, whatever follows,
exactly if `u` ends outside of any sequence, and calls that end there are one call; a command with a
number goes as far as it should exactly if it fits; and a sequence leaves nothing behind exactly if it
ends with `m` and the last byte of it that is kept is no digit but 0. -/
theorem tputstring_parse (s : Term) :
    (∀ u, (∀ v, 0 ∉ v → SameScreen (tputstring (tputstring s u) v) (tputstring s (u ++ v))) ↔
        EndsInGround u) ∧
      (∀ calls last, (∀ u ∈ calls, EndsInGround u) →
        tputstrings s (calls ++ [last]) = tputstring s (calls.flatten ++ last)) ∧
      (IsCell s.widthInChars s.heightInChars s.cursorX s.cursorY → ∀ (move : Move) (p : List UInt8),
        p ≠ [] → (∀ d ∈ p, 48 ≤ d ∧ d ≤ 57) →
          (SameScreen (tputstring s (move.bytes p)) (move.expected s (decimal p)) ↔
            move.Fits s (decimal p))) ∧
      ∀ q : CsiText, q.Settled s ↔ q.Clean s :=
  ⟨fun u => cut_iff u, fun _ last hcalls => tputstrings_flatten hcalls last,
    fun hs move _ hne hp => move.expected_iff hs hp hne, fun q => q.settled_iff s⟩

/-- `ESC [ 5 C`, and then `x`: the `x` is put into the buffer. -/
theorem tputstring_parse_fails : ¬∀ (s : Term) (q : CsiText), q.Settled s := by
  intro h
  obtain ⟨hstatus, -⟩ := h (blankTerm 25)
    { params := [53]
      inters := []
      final := 67
      params_range := by simp
      inters_range := by simp
      final_range := by decide }
  exact absurd hstatus (by decide)

end

end Gramado.Terminal
