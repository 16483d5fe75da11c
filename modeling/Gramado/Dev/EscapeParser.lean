import Gramado.Dev.ConsoleCursor

/-!
# The parser of escape sequences

`console_write` should read escape sequences as if its calls were one long string, give each sequence
the parameters written in it, and print what follows.  But each call starts in stage 0, a parameter
keeps only its last digit, and all commands but `m` leave the parser in stage 4, where the next byte is
taken for another command.

* `EndsInGround` — a call that ends outside of any sequence; only then a cut behind it is not seen.
* `CsiSequence.Ok` — a sequence is executed once, with its parameters, and leaves the parser in stage
  0; `CsiSequence.Fits` says when.

`parserStep` is the parser alone, without the console: the stages depend on nothing else
(`consoleByte_follows`).
-/

namespace Gramado

/-! ## What the parser should do -/

/-- What can be seen of the consoles: the cursors, and what was drawn. -/
def SameScreen (s t : ConsoleState) : Prop := s.tty = t.tty ∧ s.log = t.log

/-- Several calls of `console_write`. -/
def consoleWrites (n : ConsoleNumber) (s : ConsoleState) (calls : List (List UInt8)) :
    ConsoleState :=
  calls.foldl (consoleWrite n) s

/-- A sequence `ESC [ p1 ; ... ; pn F`; the parameters are decimal numbers. -/
structure CsiSequence where
  params : List (List UInt8)
  final : UInt8
  params_ne : params ≠ []
  digits : ∀ p ∈ params, ∀ d ∈ p, 48 ≤ d ∧ d ≤ 57
  final_range : 64 ≤ final ∧ final ≤ 126

/-- The bytes of the sequence. -/
def CsiSequence.bytes (q : CsiSequence) : List UInt8 :=
  [27, 91] ++ ([59].intercalate q.params ++ [q.final])

/-- The number that the digits stand for. -/
def decimal (p : List UInt8) : ℤ := p.foldl (fun v d => 10 * v + (d.toNat - 48)) 0

/-- The parameters that the parser has read. -/
def ConsoleState.parameters (s : ConsoleState) : List ℤ := (List.range (s.npar + 1)).map s.ivalue

/-- The command that a byte starts, with the parameters: the byte gets to the switch of stage 4. -/
def dispatch (ch : UInt8) (s : ConsoleState) : List (UInt8 × List ℤ) :=
  let (t, atSwitch) := beforeSwitch ch s
  if atSwitch then [(ch, t.parameters)] else []

/-- All commands that the bytes start. -/
def dispatches (n : ConsoleNumber) : ConsoleState → List UInt8 → List (UInt8 × List ℤ)
  | _, [] => []
  | s, ch :: bytes => dispatch ch s ++ dispatches n (consoleByte n ch s) bytes

/-- **What should happen to a sequence**: it starts one command, with its own parameters, and the
parser is back in stage 0. -/
def CsiSequence.Ok (q : CsiSequence) (n : ConsoleNumber) (s : ConsoleState) : Prop :=
  dispatches n { s with stage := .ground } q.bytes = [(q.final, q.params.map decimal)] ∧
    (consoleWrite n s q.bytes).stage = .ground

/-- When it does: there are at most 16 parameters, all below 10, and the command is `m` or none. -/
def CsiSequence.Fits (q : CsiSequence) : Prop :=
  q.params.length ≤ NPAR ∧ (∀ p ∈ q.params, decimal p < 10) ∧
    (csiCommand q.final = none ∨ csiCommand q.final = some .attributes)

/-! ## The parser alone -/

/-- Stage 4. -/
def finalStep (ch : UInt8) : EscapeStage :=
  match csiCommand ch with
  | none => .ground
  | some command => command.nextStage

/-- Stage 3, with the number of the parameter. -/
def paramStep (npar : ℕ) (ch : UInt8) : EscapeStage × ℕ :=
  if ch = 59 ∧ npar < NPAR - 1 then (.params, npar + 1)
  else if 48 ≤ ch ∧ ch ≤ 57 then (.params, npar)
  else (finalStep ch, npar)

/-- A byte moves the parser. -/
def parserStep : EscapeStage × ℕ → UInt8 → EscapeStage × ℕ
  | (.ground, npar), ch => (if ch = 27 then .escape else .ground, npar)
  | (.escape, npar), ch =>
      (if escapeCommand ch = some .introducer then .csi else .ground, npar)
  | (.csi, _), ch => if ch = 63 then (.params, 0) else paramStep 0 ch
  | (.params, npar), ch => paramStep npar ch
  | (.final, npar), ch => (finalStep ch, npar)

/-- The call ends outside of a sequence. -/
def EndsInGround (u : List UInt8) : Prop := (u.foldl parserStep (.ground, 0)).1 = .ground

/-- The console is where the parser says. -/
def Follows (s : ConsoleState) (p : EscapeStage × ℕ) : Prop :=
  s.stage = p.1 ∧ (s.stage = .params → s.npar = p.2)

section

variable {n : ConsoleNumber} {s : ConsoleState}

/-! ## Putting bytes keeps the stage -/

lemma drawEcho_stage (ch : ℤ) : (drawEcho n s ch).stage = s.stage := by
  rw [drawEcho]
  split_ifs <;> rfl

lemma lineFeed_stage (home : Bool) : (lineFeed n s home).stage = s.stage := by
  rw [lineFeed]
  split_ifs <;> rfl

lemma scrollAtBottom_stage : (scrollAtBottom n s).stage = s.stage := by
  rw [scrollAtBottom]
  split_ifs <;> rfl

lemma printMoved_stage (ch : ℤ) : (printMoved n s ch).stage = s.stage := by
  rw [printMoved]
  refine (drawEcho_stage ch).trans (scrollAtBottom_stage.trans ?_)
  split_ifs <;> rfl

lemma printInPlace_stage (ch : ℤ) : (printInPlace n s ch).stage = s.stage := by
  have hprint (t : ConsoleState) : (drawEcho n (scrollAtBottom n t) ch).stage = t.stage :=
    (drawEcho_stage ch).trans scrollAtBottom_stage
  rw [printInPlace]
  split_ifs
  · exact hprint _
  · exact hprint _

lemma consoleOutbyte_stage (ch : ℤ) : (consoleOutbyte ch n s).stage = s.stage := by
  rw [consoleOutbyte]
  split_ifs
  · rfl
  · rfl
  · exact lineFeed_stage _
  · rfl
  · rfl
  · rfl
  · rfl
  · exact printMoved_stage ch

lemma consoleOutbyte2_stage (ch : ℤ) : (consoleOutbyte2 ch n s).stage = s.stage := by
  rw [consoleOutbyte2]
  split_ifs
  · rfl
  · exact lineFeed_stage _
  · rfl
  · rfl
  · rfl
  · rfl
  · rfl
  · exact printInPlace_stage ch

lemma consolePutchar_stage (ch : ℤ) : (consolePutchar ch n s).stage = s.stage :=
  consoleOutbyte_stage ch

lemma localGotoxy_stage (x y : ℤ) : (localGotoxy n s x y).stage = s.stage := by
  rw [localGotoxy]
  split_ifs <;> rfl

lemma groundByte_stage (ch : UInt8) :
    (groundByte n ch s).stage = if ch = 27 then .escape else s.stage := by
  rw [groundByte]
  split_ifs with hprint hecho hescape hescape hescape hcontrol
  · subst hescape
    exact absurd hprint (by decide)
  · exact consoleOutbyte2_stage _
  · subst hescape
    exact absurd hprint (by decide)
  · rfl
  · rfl
  · exact consolePutchar_stage _
  · rfl

lemma escapeByte_stage (ch : UInt8) :
    (escapeByte n ch s).stage =
      if escapeCommand ch = some .introducer then .csi else .ground := by
  rw [escapeByte]
  cases escapeCommand ch with
  | none => rfl
  | some command =>
      cases command with
      | introducer => rfl
      | newLine => exact localGotoxy_stage _ _
      | linefeed => exact consolePutchar_stage _
      | identify => exact groundByte_stage 99

lemma finalByte_stage (ch : UInt8) : (finalByte n ch s).stage = finalStep ch := by
  rw [finalByte, finalStep]
  cases csiCommand ch <;> rfl

lemma Follows.of_ne {p : EscapeStage × ℕ} (h : s.stage = p.1) (hne : p.1 ≠ .params) : Follows s p :=
  ⟨h, fun hparams => absurd (h.symm.trans hparams) hne⟩

lemma finalStep_ne (ch : UInt8) : finalStep ch ≠ .params := by
  rw [finalStep]
  cases csiCommand ch with
  | none => nofun
  | some command => cases command <;> nofun

lemma paramByte_follows (ch : UInt8) (hs : s.stage = .params) :
    Follows (let (t, atSwitch) := paramByte ch s; if atSwitch then finalByte n ch t else t)
      (paramStep s.npar ch) := by
  rw [paramByte, paramStep]
  split_ifs
  · exact ⟨hs, fun _ => rfl⟩
  · exact ⟨hs, fun _ => rfl⟩
  · exact .of_ne (finalByte_stage ch) (finalStep_ne ch)

/-- **The stages of the parser do not depend on the console.** -/
lemma consoleByte_follows {p : EscapeStage × ℕ} (h : Follows s p) (ch : UInt8) :
    Follows (consoleByte n ch s) (parserStep p ch) := by
  obtain ⟨stage, npar⟩ := p
  obtain ⟨hstage, hnpar⟩ := h
  dsimp only at hstage hnpar
  rw [consoleByte, hstage]
  cases stage with
  | ground =>
      refine .of_ne ((groundByte_stage ch).trans (by rw [hstage]; rfl)) ?_
      rw [parserStep]
      dsimp only
      split_ifs <;> exact fun h => by cases h
  | escape =>
      refine .of_ne (escapeByte_stage ch) ?_
      rw [parserStep]
      dsimp only
      split_ifs <;> exact fun h => by cases h
  | csi =>
      simp only [beforeSwitch, hstage, csiByte, parserStep]
      by_cases hmark : ch = 63
      · rw [if_pos hmark, if_pos hmark]
        exact ⟨rfl, fun _ => rfl⟩
      · rw [if_neg hmark, if_neg hmark]
        exact paramByte_follows (s := { s.clearPar with stage := .params }) ch rfl
  | params =>
      simp only [beforeSwitch, hstage, parserStep]
      rw [← hnpar hstage]
      exact paramByte_follows ch hstage
  | final =>
      simp only [beforeSwitch, hstage, parserStep]
      exact .of_ne (finalByte_stage ch) (finalStep_ne ch)

lemma bytes_follow {p : EscapeStage × ℕ} (h : Follows s p) (bytes : List UInt8) :
    Follows (bytes.foldl (fun s ch => consoleByte n ch s) s) (bytes.foldl parserStep p) := by
  induction bytes generalizing s p with
  | nil => exact h
  | cons ch bytes ih => exact ih (consoleByte_follows h ch)

/-! ## Cuts -/

/-- A call starts in stage 0, and so does a call of no bytes end. -/
lemma consoleWrite_stage {u : List UInt8} (hu : u ≠ []) :
    (consoleWrite n s u).stage = .ground ↔ EndsInGround u := by
  have h := bytes_follow (n := n) (s := { s with stage := .ground }) (p := (.ground, 0))
    (.of_ne rfl nofun) u
  rw [consoleWrite, if_neg hu, h.1, EndsInGround]

/-- Behind a call that ends in stage 0, the next call goes on where it ended. -/
lemma consoleWrite_append {u : List UInt8} (hu : EndsInGround u) (v : List UInt8) :
    consoleWrite n (consoleWrite n s u) v = consoleWrite n s (u ++ v) := by
  by_cases hu' : u = []
  · subst hu'
    rfl
  by_cases hv : v = []
  · subst hv
    rw [List.append_nil]
    rfl
  have hstage := (consoleWrite_stage (n := n) (s := s) hu').2 hu
  have hsame : ({ consoleWrite n s u with stage := .ground } : ConsoleState) =
      consoleWrite n s u := by rw [← hstage]
  rw [consoleWrite, if_neg hv, hsame, consoleWrite, consoleWrite, if_neg hu',
    if_neg (List.append_ne_nil_of_left_ne_nil hu' v), List.foldl_append]

/-- A new line always moves the cursor. -/
lemma newLine_moves : ((groundByte n 10 s).tty n).cursorY ≠ (s.tty n).cursorY := by
  have hline (t : ConsoleState) (home : Bool) :
      ((lineFeed n t home).tty n).cursorY ≠ (t.tty n).cursorY := by
    have hbottom := (t.tty n).area.bottom_lt
    have htop := (t.tty n).area.top_lt
    have hdown (x : ℕ) (hy : (t.tty n).cursorY < (t.tty n).area.bottom) :
        ((t.setCursor n x (ulongAdd (t.tty n).cursorY 1)).tty n).cursorY ≠ (t.tty n).cursorY := by
      rw [setCursor_same, ulongAdd_of_lt (by omega)]
      dsimp only
      omega
    rw [lineFeed]
    split_ifs with hend hfull
    · rw [setCursor_same]
      dsimp only
      rw [consoleScrollRect, setCursor_area]
      dsimp only
      omega
    · rw [setCursor_same]
      dsimp only
      omega
    · exact hdown _ (by omega)
    · exact hdown _ (by omega)
  exact hline { s with stdioTerminalmodeFlag := true } _

/-- Outside of stage 0 it is not seen. -/
lemma newLine_ignored (hs : s.stage ≠ .ground) : (consoleByte n 10 s).tty = s.tty := by
  have hfinal (t : ConsoleState) : (finalByte n 10 t).tty = t.tty := rfl
  rw [consoleByte]
  cases hstage : s.stage with
  | ground => exact absurd hstage hs
  | escape => rfl
  | csi => simp only [beforeSwitch, hstage]; rfl
  | params => simp only [beforeSwitch, hstage]; rfl
  | final => simp only [beforeSwitch, hstage]; rfl

/-- **A cut behind `u` is not seen, whatever follows, exactly if `u` ends in stage 0.** -/
lemma cut_iff (u : List UInt8) :
    (∀ v, SameScreen (consoleWrite n (consoleWrite n s u) v) (consoleWrite n s (u ++ v))) ↔
      EndsInGround u := by
  constructor
  · intro h
    by_contra hu
    have hu' : u ≠ [] := by
      rintro rfl
      exact hu rfl
    have hstage := mt (consoleWrite_stage (n := n) (s := s) hu').1 hu
    -- a new line behind it tells the two apart
    have htwo : (consoleWrite n (consoleWrite n s u) [10]).tty =
        (groundByte n 10 { consoleWrite n s u with stage := .ground }).tty := rfl
    have hone : consoleWrite n s (u ++ [10]) = consoleByte n 10 (consoleWrite n s u) := by
      rw [consoleWrite, consoleWrite, if_neg hu', if_neg (List.append_ne_nil_of_left_ne_nil hu' _),
        List.foldl_append]
      rfl
    have hsame := congrFun (h [10]).1 n
    rw [htwo, hone, newLine_ignored hstage] at hsame
    exact newLine_moves (congrArg Console.cursorY hsame)
  · intro hu v
    rw [consoleWrite_append hu]
    exact ⟨rfl, rfl⟩

/-- The same for many calls. -/
lemma consoleWrites_flatten {calls : List (List UInt8)} (hcalls : ∀ u ∈ calls, EndsInGround u)
    (last : List UInt8) :
    consoleWrites n s (calls ++ [last]) = consoleWrite n s (calls.flatten ++ last) := by
  induction calls generalizing s with
  | nil => rfl
  | cons u calls ih =>
      rw [List.flatten_cons, List.append_assoc, ← consoleWrite_append (hcalls u List.mem_cons_self)]
      exact ih fun w hw => hcalls w (List.mem_cons_of_mem _ hw)

/-- `console_write_string` cuts behind every byte. -/
lemma consoleWriteString_eq (string : List UInt8) :
    consoleWriteString n s string = consoleWrites n s (string.map fun ch => [ch]) := by
  induction string generalizing s with
  | nil => rfl
  | cons ch string ih => exact ih

/-! ## Sequences -/

lemma dispatches_append (u v : List UInt8) :
    dispatches n s (u ++ v) =
      dispatches n s u ++ dispatches n (u.foldl (fun s ch => consoleByte n ch s) s) v := by
  induction u generalizing s with
  | nil => rfl
  | cons ch u ih => rw [List.cons_append, dispatches, ih, ← List.append_assoc]; rfl

/-- The byte that the digits leave in the array. -/
def lastByte (p : List UInt8) : UInt8 := p.getLast?.getD 0

/-- The value that it stands for. -/
def lastValue (p : List UInt8) : ℤ := kAtoi [lastByte p, 0, 0, 0]

lemma decimal_concat (p : List UInt8) (d : UInt8) :
    decimal (p ++ [d]) = 10 * decimal p + (d.toNat - 48) := by
  rw [decimal, List.foldl_append]
  rfl

lemma digit_range {d : UInt8} (h : 48 ≤ d ∧ d ≤ 57) : 48 ≤ d.toNat ∧ d.toNat ≤ 57 := by
  have hlo := UInt8.le_iff_toNat_le.1 h.1
  have hhi := UInt8.le_iff_toNat_le.1 h.2
  simpa only [UInt8.reduceToNat] using And.intro hlo hhi

lemma decimal_nonneg {p : List UInt8} (hp : ∀ d ∈ p, 48 ≤ d ∧ d ≤ 57) : 0 ≤ decimal p := by
  induction p using List.reverseRecOn with
  | nil => exact le_rfl
  | append_singleton p d ih =>
      have hp' := ih fun c hc => hp c (List.mem_append_left _ hc)
      have hd := digit_range (hp d (by simp))
      rw [decimal_concat]
      omega

/-- A number is its last digit exactly if it is below 10. -/
lemma lastValue_eq_iff {p : List UInt8} (hp : ∀ d ∈ p, 48 ≤ d ∧ d ≤ 57) :
    lastValue p = decimal p ↔ decimal p < 10 := by
  induction p using List.reverseRecOn with
  | nil => decide
  | append_singleton p d _ =>
      have hp' := decimal_nonneg fun c hc => hp c (List.mem_append_left _ hc)
      have hd := hp d (by simp)
      have hd' := digit_range hd
      rw [lastValue, lastByte, List.getLast?_concat, Option.getD_some, kAtoi_code, if_pos hd,
        decimal_concat]
      omega

lemma beforeSwitch_params (hs : s.stage = .params) (ch : UInt8) :
    beforeSwitch ch s = paramByte ch s := by
  rw [beforeSwitch, hs]

lemma consoleByte_params (hs : s.stage = .params) (ch : UInt8) :
    consoleByte n ch s =
      let (t, atSwitch) := paramByte ch s
      if atSwitch then finalByte n ch t else t := by
  rw [consoleByte, hs, ← beforeSwitch_params hs]

/-- A byte in the array, at the current parameter. -/
def ConsoleState.setPar (s : ConsoleState) (b : UInt8) : ConsoleState :=
  { s with par := Function.update s.par s.npar b }

/-- The next parameter. -/
def ConsoleState.nextPar (s : ConsoleState) : ConsoleState := { s with npar := s.npar + 1 }

/-- A digit goes into the array. -/
lemma digit_run {d : UInt8} (hd : 48 ≤ d ∧ d ≤ 57) (hs : s.stage = .params) :
    dispatch d s = [] ∧ consoleByte n d s = s.setPar d := by
  have hsep : ¬(d = 59 ∧ s.npar < NPAR - 1) := by
    rintro ⟨rfl, -⟩
    exact absurd hd.2 (by decide)
  have hbyte : paramByte d s = (s.setPar d, false) := by
    rw [paramByte, if_neg hsep, if_pos hd]
    rfl
  refine ⟨?_, ?_⟩
  · rw [dispatch, beforeSwitch_params hs, hbyte]
    rfl
  · rw [consoleByte_params hs, hbyte]
    rfl

/-- Digits go into the array, one over the other. -/
lemma digits_run {p : List UInt8} (hp : ∀ d ∈ p, 48 ≤ d ∧ d ≤ 57) (hs : s.stage = .params) :
    dispatches n s p = [] ∧ p.foldl (fun s ch => consoleByte n ch s) s =
      s.setPar (p.getLast?.getD (s.par s.npar)) := by
  induction p generalizing s with
  | nil =>
      refine ⟨rfl, ?_⟩
      rw [List.getLast?_nil, Option.getD_none, ConsoleState.setPar, Function.update_eq_self]
      rfl
  | cons d p ih =>
      obtain ⟨hnone, hbyte⟩ := digit_run (n := n) (hp d List.mem_cons_self) hs
      obtain ⟨hnone', hrest⟩ := @ih (s.setPar d) (fun c hc => hp c (List.mem_cons_of_mem _ hc)) hs
      refine ⟨?_, ?_⟩
      · rw [dispatches, hnone, hbyte, hnone']
        rfl
      · rw [List.foldl_cons, hbyte, hrest, List.getLast?_cons, Option.getD_some]
        simp only [ConsoleState.setPar, Function.update_self, Function.update_idem]

/-- A separator counts the parameters, as long as there is room. -/
lemma separator_run (hs : s.stage = .params) (hroom : s.npar < NPAR - 1) :
    dispatch 59 s = [] ∧ consoleByte n 59 s = s.nextPar := by
  have hbyte : paramByte 59 s = (s.nextPar, false) := by
    rw [paramByte, if_pos ⟨rfl, hroom⟩]
    rfl
  refine ⟨?_, ?_⟩
  · rw [dispatch, beforeSwitch_params hs, hbyte]
    rfl
  · rw [consoleByte_params hs, hbyte]
    rfl

/-- A parameter and its separator. -/
lemma param_run {p : List UInt8} (hp : ∀ d ∈ p, 48 ≤ d ∧ d ≤ 57) (hs : s.stage = .params)
    (hzero : s.par s.npar = 0) (hroom : s.npar < NPAR - 1) (rest : List UInt8) :
    dispatches n s (p ++ 59 :: rest) = dispatches n (s.setPar (lastByte p)).nextPar rest ∧
      (p ++ 59 :: rest).foldl (fun s ch => consoleByte n ch s) s =
        rest.foldl (fun s ch => consoleByte n ch s) (s.setPar (lastByte p)).nextPar := by
  obtain ⟨hnone, hdigits⟩ := digits_run (n := n) hp hs
  rw [hzero, ← lastByte] at hdigits
  obtain ⟨hnone', hsep⟩ := separator_run (n := n) (s := s.setPar (lastByte p)) hs hroom
  refine ⟨?_, ?_⟩
  · rw [dispatches_append, hnone, hdigits, List.nil_append, dispatches, hnone', hsep,
      List.nil_append]
  · rw [List.foldl_append, hdigits, List.foldl_cons, hsep]

/-- What the parser has read of a sequence. -/
structure Read (s : ConsoleState) (ps : List (List UInt8)) (t : ConsoleState) : Prop where
  stage : t.stage = .params
  npar : t.npar + 1 = s.npar + ps.length
  before : ∀ i < s.npar, t.par i = s.par i
  here : ∀ i (h : i < ps.length), t.par (s.npar + i) = lastByte ps[i]

/-- What is left of the array stays clear. -/
lemma setPar_clear (hzero : ∀ i ≥ s.npar, i < NPAR → s.par i = 0) (b : UInt8) :
    ∀ i ≥ (s.setPar b).nextPar.npar, i < NPAR → (s.setPar b).nextPar.par i = 0 := by
  intro i hi hlt
  have hi' : s.npar < i := hi
  exact (Function.update_of_ne hi'.ne' ..).trans (hzero i hi'.le hlt)

/-- Up to 16 parameters are read. -/
lemma params_run {ps : List (List UInt8)} (hne : ps ≠ [])
    (hp : ∀ p ∈ ps, ∀ d ∈ p, 48 ≤ d ∧ d ≤ 57) (hs : s.stage = .params)
    (hzero : ∀ i ≥ s.npar, i < NPAR → s.par i = 0) (hfit : s.npar + ps.length ≤ NPAR) :
    dispatches n s ([59].intercalate ps) = [] ∧
      Read s ps (([59].intercalate ps).foldl (fun s ch => consoleByte n ch s) s) := by
  induction ps generalizing s with
  | nil => exact absurd rfl hne
  | cons p ps ih =>
      have hpar := hzero s.npar le_rfl (by rw [List.length_cons] at hfit; omega)
      cases ps with
      | nil =>
          obtain ⟨hnone, hdigits⟩ := digits_run (n := n) (hp p List.mem_cons_self) hs
          rw [List.intercalate_singleton, hdigits, hpar]
          refine ⟨hnone, hs, rfl, fun i hi => Function.update_of_ne hi.ne .., fun i hi => ?_⟩
          obtain rfl : i = 0 := by
            rw [List.length_singleton] at hi
            omega
          exact Function.update_self ..
      | cons q ps =>
          rw [List.length_cons, List.length_cons] at hfit
          obtain ⟨hnone, hrun⟩ := param_run (n := n) (hp p List.mem_cons_self) hs hpar
            (show s.npar < NPAR - 1 by omega) ([59].intercalate (q :: ps))
          obtain ⟨hnone', hread⟩ := @ih (s.setPar (lastByte p)).nextPar (List.cons_ne_nil _ _)
            (fun c hc => hp c (List.mem_cons_of_mem _ hc)) hs (setPar_clear hzero _)
            (by rw [List.length_cons]; exact (Nat.add_right_comm s.npar 1 _).trans_le hfit)
          have hcons : [59].intercalate (p :: q :: ps) = p ++ 59 :: [59].intercalate (q :: ps) := by
            rw [List.intercalate_cons_cons, List.append_assoc]
            rfl
          rw [hcons, hnone, hrun]
          have hnpar : (s.setPar (lastByte p)).nextPar.npar = s.npar + 1 := rfl
          refine ⟨hnone', hread.stage, ?_, fun i hi => ?_, fun i hi => ?_⟩
          · rw [hread.npar, hnpar]
            simp only [List.length_cons]
            omega
          · rw [hread.before i (by omega)]
            exact Function.update_of_ne hi.ne ..
          · cases i with
            | zero =>
                rw [Nat.add_zero, hread.before s.npar (by omega)]
                exact Function.update_self ..
            | succ i =>
                have hhere := hread.here i (by simpa using hi)
                rw [hnpar, Nat.add_assoc, Nat.add_comm 1 i] at hhere
                exact hhere

/-- The separator behind the 16th parameter is taken for a command. -/
lemma params_overrun {ps : List (List UInt8)} (hp : ∀ p ∈ ps, ∀ d ∈ p, 48 ≤ d ∧ d ≤ 57)
    (hs : s.stage = .params) (hzero : ∀ i ≥ s.npar, i < NPAR → s.par i = 0)
    (hnpar : s.npar < NPAR) (hmore : NPAR < s.npar + ps.length) (tail : List UInt8) :
    ∃ values rest, dispatches n s ([59].intercalate ps ++ tail) = (59, values) :: rest := by
  induction ps generalizing s with
  | nil => exact absurd hmore (by rw [List.length_nil]; omega)
  | cons p ps ih =>
      cases ps with
      | nil => exact absurd hmore (by rw [List.length_singleton]; omega)
      | cons q ps =>
          have hpar := hzero s.npar le_rfl hnpar
          have hcons : [59].intercalate (p :: q :: ps) ++ tail =
              p ++ 59 :: ([59].intercalate (q :: ps) ++ tail) := by
            rw [List.intercalate_cons_cons, List.append_assoc, List.append_assoc]
            rfl
          rw [hcons]
          by_cases hroom : s.npar < NPAR - 1
          · obtain ⟨hnone, -⟩ := param_run (n := n) (hp p List.mem_cons_self) hs hpar hroom
              ([59].intercalate (q :: ps) ++ tail)
            rw [hnone]
            refine @ih (s.setPar (lastByte p)).nextPar
              (fun c hc => hp c (List.mem_cons_of_mem _ hc)) hs (setPar_clear hzero _) ?_ ?_
            · change s.npar + 1 < NPAR
              omega
            · change NPAR < s.npar + 1 + _
              simp only [List.length_cons] at hmore ⊢
              omega
          · obtain ⟨hnone, hdigits⟩ := digits_run (n := n) (hp p List.mem_cons_self) hs
            have hswitch (t : ConsoleState) (ht : t.stage = .params) (hfull : ¬t.npar < NPAR - 1) :
                ∃ values, dispatch 59 t = [(59, values)] := by
              rw [dispatch, beforeSwitch_params ht, paramByte, if_neg fun h => hfull h.2,
                if_neg (by decide)]
              exact ⟨_, rfl⟩
            obtain ⟨values, hvalues⟩ := hswitch (s.setPar (p.getLast?.getD (s.par s.npar))) hs hroom
            rw [dispatches_append, hnone, hdigits, List.nil_append, dispatches, hvalues]
            exact ⟨values, _, rfl⟩

/-- The state behind `ESC [`. -/
def ConsoleState.opened (s : ConsoleState) : ConsoleState := { s.clearPar with stage := .params }

/-- A byte of a sequence is not the question mark that `ESC [` may be followed by. -/
lemma CsiSequence.ne_mark (q : CsiSequence) {b : UInt8}
    (hb : b ∈ [59].intercalate q.params ++ [q.final]) : b ≠ 63 := by
  have hparams : ∀ {ps : List (List UInt8)}, (∀ p ∈ ps, ∀ d ∈ p, 48 ≤ d ∧ d ≤ 57) →
      ∀ b ∈ [59].intercalate ps, b ≠ 63 := by
    intro ps
    induction ps with
    | nil => exact fun _ b hb => absurd hb List.not_mem_nil
    | cons p ps ih =>
        intro hp b hb
        have hdigit (hb : b ∈ p) : b ≠ 63 := by
          rintro rfl
          exact absurd (hp p List.mem_cons_self _ hb).2 (by decide)
        cases ps with
        | nil =>
            rw [List.intercalate_singleton] at hb
            exact hdigit hb
        | cons r ps =>
            rw [List.intercalate_cons_cons, List.mem_append, List.mem_append] at hb
            rcases hb with (hb | hb) | hb
            · exact hdigit hb
            · rw [List.mem_singleton.1 hb]
              decide
            · exact ih (fun c hc => hp c (List.mem_cons_of_mem _ hc)) b hb
  rcases List.mem_append.1 hb with hb | hb
  · exact hparams q.digits b hb
  · rw [List.mem_singleton.1 hb]
    intro h
    exact absurd (h ▸ q.final_range.1) (by decide)

/-- Behind `ESC [`, the bytes go to stage 3. -/
lemma csi_run {w : List UInt8} (hw : w ≠ []) (hmark : ∀ b ∈ w, b ≠ 63) :
    dispatches n { s with stage := .csi } w = dispatches n s.opened w ∧
      w.foldl (fun s ch => consoleByte n ch s) { s with stage := .csi } =
        w.foldl (fun s ch => consoleByte n ch s) s.opened := by
  cases w with
  | nil => exact absurd rfl hw
  | cons b w =>
      have hfirst : beforeSwitch b { s with stage := .csi } = beforeSwitch b s.opened :=
        (if_neg (hmark b List.mem_cons_self) : csiByte b { s with stage := .csi } = _)
      have hbyte : consoleByte n b { s with stage := .csi } = consoleByte n b s.opened := by
        change (let (t, atSwitch) := beforeSwitch b { s with stage := .csi }
          if atSwitch then finalByte n b t else t) =
          let (t, atSwitch) := beforeSwitch b s.opened
          if atSwitch then finalByte n b t else t
        rw [hfirst]
      rw [dispatches, dispatches, dispatch, dispatch, hfirst, hbyte, List.foldl_cons,
        List.foldl_cons, hbyte]
      exact ⟨rfl, rfl⟩

lemma CsiSequence.run (q : CsiSequence) (n : ConsoleNumber) (s : ConsoleState) :
    dispatches n { s with stage := .ground } q.bytes =
        dispatches n s.opened ([59].intercalate q.params ++ [q.final]) ∧
      consoleWrite n s q.bytes = ([59].intercalate q.params ++ [q.final]).foldl
        (fun s ch => consoleByte n ch s) s.opened := by
  have hcsi := csi_run (n := n) (s := s) (List.append_ne_nil_of_right_ne_nil
    ([59].intercalate q.params) (List.cons_ne_nil q.final [])) fun b hb => q.ne_mark hb
  refine ⟨?_, ?_⟩
  · rw [← hcsi.1]
    rfl
  · rw [← hcsi.2, consoleWrite, if_neg (show q.bytes ≠ [] from List.cons_ne_nil _ _)]
    rfl

lemma Read.parameters {ps : List (List UInt8)} {t : ConsoleState} (h : Read s ps t)
    (hs : s.npar = 0) : t.parameters = ps.map lastValue := by
  have hlength : t.npar + 1 = ps.length := by rw [h.npar, hs, Nat.zero_add]
  rw [ConsoleState.parameters, hlength]
  refine List.ext_getElem (by simp) fun i hi hi' => ?_
  rw [List.length_map] at hi'
  have hhere := h.here i hi'
  rw [hs, Nat.zero_add] at hhere
  simp only [List.getElem_map, List.getElem_range, ConsoleState.ivalue, lastValue, hhere]

lemma map_lastValue_iff {ps : List (List UInt8)} (hp : ∀ p ∈ ps, ∀ d ∈ p, 48 ≤ d ∧ d ≤ 57) :
    ps.map lastValue = ps.map decimal ↔ ∀ p ∈ ps, decimal p < 10 := by
  rw [List.map_inj_left]
  exact forall₂_congr fun p hmem => lastValue_eq_iff (hp p hmem)

lemma finalStep_ground (ch : UInt8) :
    finalStep ch = .ground ↔ csiCommand ch = none ∨ csiCommand ch = some .attributes := by
  rw [finalStep]
  cases csiCommand ch with
  | none => simp
  | some command => cases command <;> simp [CsiCommand.nextStage]

/-- **When a sequence is executed as it should be.** -/
lemma CsiSequence.ok_iff (q : CsiSequence) (n : ConsoleNumber) (s : ConsoleState) :
    q.Ok n s ↔ q.Fits := by
  obtain ⟨hbytes, hwrite⟩ := q.run n s
  have hzero : ∀ i ≥ s.opened.npar, i < NPAR → s.opened.par i = 0 := fun i _ hi => if_pos hi
  rw [CsiSequence.Ok, CsiSequence.Fits, hbytes, hwrite]
  rcases le_or_gt q.params.length NPAR with hfit | hmore
  · obtain ⟨hnone, hread⟩ := params_run (n := n) q.params_ne q.digits (s := s.opened) rfl hzero
      (by simpa [ConsoleState.opened, ConsoleState.clearPar] using hfit)
    have hsep : ¬q.final = 59 := by
      intro h
      exact absurd (h ▸ q.final_range.1) (by decide)
    have hdigit : ¬(48 ≤ q.final ∧ q.final ≤ 57) := by
      rintro ⟨-, h⟩
      have hlo := UInt8.le_iff_toNat_le.1 q.final_range.1
      have hhi := UInt8.le_iff_toNat_le.1 h
      simp only [UInt8.reduceToNat] at hlo hhi
      omega
    have hparameters := hread.parameters rfl
    rw [dispatches_append, hnone, List.foldl_append, List.nil_append]
    generalize ([59].intercalate q.params).foldl (fun s ch => consoleByte n ch s) s.opened = t
      at hread hparameters
    have hbyte : paramByte q.final t = ({ t with stage := .final }, true) := by
      rw [paramByte, if_neg fun h => hsep h.1, if_neg hdigit]
    have hdispatch : dispatches n t [q.final] = [(q.final, q.params.map lastValue)] := by
      rw [dispatches, dispatch, beforeSwitch_params hread.stage, hbyte, ← hparameters]
      rfl
    have hstage : (consoleByte n q.final t).stage = finalStep q.final := by
      rw [consoleByte_params hread.stage, hbyte]
      exact finalByte_stage q.final
    rw [hdispatch, List.foldl_cons, List.foldl_nil, hstage, finalStep_ground, List.cons.injEq,
      Prod.mk.injEq, map_lastValue_iff q.digits]
    simp only [true_and, and_true, hfit]
  · obtain ⟨values, rest, hover⟩ := params_overrun (n := n) q.digits (s := s.opened) rfl hzero
      (show 0 < NPAR by decide) (by simpa [ConsoleState.opened, ConsoleState.clearPar] using hmore)
      [q.final]
    refine iff_of_false ?_ fun h => absurd h.1 (not_le.2 hmore)
    rintro ⟨h, -⟩
    rw [hover, List.cons.injEq, Prod.mk.injEq] at h
    exact absurd (h.1.1 ▸ q.final_range.1) (by decide)

end

/-- **The parser.**  A cut behind `u` is not seen, whatever follows, exactly if `u` ends in stage 0;
calls that end there are one call; and a sequence is executed once, with its parameters, and left
behind, exactly if it has at most 16 parameters, all below 10, and its command is `m` or none. -/
theorem escape_parse (n : ConsoleNumber) (s : ConsoleState) :
    (∀ u, (∀ v, SameScreen (consoleWrite n (consoleWrite n s u) v) (consoleWrite n s (u ++ v))) ↔
        EndsInGround u) ∧
      (∀ calls last, (∀ u ∈ calls, EndsInGround u) →
        consoleWrites n s (calls ++ [last]) = consoleWrite n s (calls.flatten ++ last)) ∧
      ∀ q : CsiSequence, q.Ok n s ↔ q.Fits :=
  ⟨fun u => cut_iff u, fun _ last hcalls => consoleWrites_flatten hcalls last,
    fun q => q.ok_iff n s⟩

/-- `ESC [ 5 G` leaves the parser in stage 4. -/
theorem escape_parse_fails :
    ¬∀ (n : ConsoleNumber) (s : ConsoleState) (q : CsiSequence), q.Ok n s := by
  intro h
  obtain ⟨-, hstage⟩ := h 0 bootConsoles
    { params := [[53]]
      final := 71
      params_ne := by decide
      digits := by simp
      final_range := by decide }
  exact absurd hstage (by decide)

end Gramado
