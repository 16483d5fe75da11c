import Gramado.Lib.Run
import Gramado.Fs.ReadWrite

/-!
# The kernel gate

`process_close_gate` and `process_open_gate` in `core/ke/intake/process.c`, the system calls 226, 227
and 228 in `sci.c`, and the two user functions of `rtl.c` (and `gws.c`) that make them:
`rtl_enter_critical_section` reads the gate until it is open and closes it with a call of its own.

Two processes may both have read the open gate before either closes it.  What the kernel writes down
about the owner is the wrong way round: closing clears the record and opening sets it.

* `GateState.OneInside`, `GateState.RecordOk` — what should hold.
* `gate_run` — when it holds along a run.
-/

namespace Gramado

open StepRun

/-! ## The kernel -/

/-- `__GATE_CLOSED`. -/
def GATE_CLOSED : ℤ := 0

/-- `__GATE_OPEN`. -/
def GATE_OPEN : ℤ := 1

/-- `PERSONALITY_GRAMADO`. -/
def PERSONALITY_GRAMADO : ℤ := 1000

/-- What the gate and `sci0` look at in a process. -/
structure GateProcess where
  used : ℤ
  magic : ℤ
  personality : ℤ
  critical : ℤ

/-- Where a process is in its use of the gate. -/
inductive GatePc where
  /-- Before `rtl_enter_critical_section` or after `rtl_exit_critical_section`. -/
  | outside
  /-- In the loop: the gate was closed. -/
  | waiting
  /-- After the loop: the gate was open. -/
  | closing
  /-- Between the end of the one and the other. -/
  | inside
  deriving DecidableEq

/-- The gate, its record, and the processes. -/
structure GateState where
  spinlockIpc : ℤ
  criticalsectionPid : ℤ
  processList : ℤ → Option GateProcess
  pc : ℤ → GatePc

/-- The system calls about the gate. -/
inductive GateCall where
  /-- 226, `SCI_GET_KERNELSEMAPHORE`. -/
  | getGate
  /-- 227, `SCI_CLOSE_KERNELSEMAPHORE`. -/
  | closeGate
  /-- 228, `SCI_OPEN_KERNELSEMAPHORE`. -/
  | openGate
  deriving DecidableEq

variable (s : GateState)

/-- The gate, `criticalsection_pid` and the flag `_critical` of a process are written. -/
def GateState.write (gate owner pid : ℤ) (p : GateProcess) (critical : ℤ) : GateState :=
  { s with
    spinlockIpc := gate
    criticalsectionPid := owner
    processList := Function.update s.processList pid (some { p with critical := critical }) }

/-- `process_close_gate`. -/
def processCloseGate (pid : ℤ) : Except Fault GateState :=
  if pid < 0 then .error (.panic "process_close_gate: pid\n")
  else
    match s.processList pid with
    | none => .error (.panic "process_close_gate: p\n")
    | some p => .ok (s.write GATE_CLOSED 0 pid p FALSE)

/-- `process_open_gate`. -/
def processOpenGate (pid : ℤ) : Except Fault GateState :=
  if pid < 0 then .error (.panic "process_open_gate: pid\n")
  else
    match s.processList pid with
    | none => .error (.panic "process_open_gate: p\n")
    | some p => .ok (s.write GATE_OPEN pid pid p TRUE)

/-- `sci0` for these calls, when `pid` is the current process: the value for the caller and the new
state. -/
def gateSci0 (pid : ℤ) (number : GateCall) : Except Fault (ℤ × GateState) :=
  if pid < 0 ∨ pid ≥ PROCESS_COUNT_MAX then .error (.panic "sci0: current_process\n")
  else
    match s.processList pid with
    | none => .error (.panic "sci0: p\n")
    | some p =>
        if p.used ≠ TRUE ∨ p.magic ≠ 1234 then .error (.panic "sci0: p validation\n")
        else if p.personality ≠ PERSONALITY_GRAMADO then .error (.panic "sci0: Personality\n")
        else
          match number with
          | .getGate => .ok (s.spinlockIpc, s)
          | .closeGate => (processCloseGate s pid).map fun s => (0, s)
          | .openGate => (processOpenGate s pid).map fun s => (0, s)

/-! ## The user functions -/

/-- The next call that a process makes. -/
def GatePc.call : GatePc → GateCall
  | .outside | .waiting => .getGate
  | .closing => .closeGate
  | .inside => .openGate

/-- Where the process is after the call returned `r`. -/
def GatePc.after : GatePc → ℤ → GatePc
  | .outside, r | .waiting, r => if r = 1 then .closing else .waiting
  | .closing, _ => .inside
  | .inside, _ => .outside

/-- A process makes its next call. -/
def gateStep (pid : ℤ) : Except Fault GateState := do
  let (r, s') ← gateSci0 s pid (s.pc pid).call
  .ok { s' with pc := Function.update s'.pc pid ((s.pc pid).after r) }

/-! ## What should hold -/

/-- At most one process is inside. -/
def GateState.OneInside : Prop := ∀ p q, s.pc p = .inside → s.pc q = .inside → p = q

/-- The process has its flag set. -/
def GateState.Critical (pid : ℤ) : Prop := ∃ p, s.processList pid = some p ∧ p.critical = TRUE

/-- The record: while the gate is closed it names the process inside, which alone has its flag set;
while it is open no process has. -/
structure GateState.RecordOk : Prop where
  closed : s.spinlockIpc = GATE_CLOSED → ∃ p, s.pc p = .inside ∧ s.criticalsectionPid = p ∧
    ∀ q, s.Critical q ↔ q = p
  opened : s.spinlockIpc = GATE_OPEN → ∀ q, ¬s.Critical q

/-- The gate is open, and nobody has been inside. -/
structure GateState.Fresh : Prop where
  gate : s.spinlockIpc = GATE_OPEN
  pc : ∀ p, s.pc p = .outside
  critical : ∀ p, ¬s.Critical p

/-- The step does not close the gate. -/
def NeverCloses (pid : ℤ) : Prop := s.pc pid ≠ .closing

/-- The step does not close a gate that is closed. -/
def ClosesOpenGate (pid : ℤ) : Prop := s.pc pid = .closing → s.spinlockIpc = GATE_OPEN

instance (pid : ℤ) : Decidable (NeverCloses s pid) := inferInstanceAs (Decidable (_ ≠ _))

instance (pid : ℤ) : Decidable (ClosesOpenGate s pid) := inferInstanceAs (Decidable (_ → _))

section

variable {s} {s' : GateState} {pid : ℤ}

/-! ## One step -/

/-- A process changes its place, and nothing else does. -/
def GateState.goto (s : GateState) (pid : ℤ) (pc : GatePc) : GateState :=
  { s with pc := Function.update s.pc pid pc }

@[simp] lemma goto_self (s : GateState) (pid : ℤ) (pc : GatePc) : (s.goto pid pc).pc pid = pc :=
  Function.update_self ..

lemma goto_of_ne {q : ℤ} (s : GateState) (pc : GatePc) (hq : q ≠ pid) :
    (s.goto pid pc).pc q = s.pc q :=
  Function.update_of_ne hq ..

/-- **What a step does**, by what its process does next. -/
lemma gateStep_cases (h : gateStep s pid = .ok s') :
    (s.pc pid).call = .getGate ∧ s' = s.goto pid (if s.spinlockIpc = 1 then .closing else .waiting) ∨
      (∃ p, s.processList pid = some p ∧
        (s.pc pid = .closing ∧ s' = (s.write GATE_CLOSED 0 pid p FALSE).goto pid .inside ∨
          s.pc pid = .inside ∧ s' = (s.write GATE_OPEN pid pid p TRUE).goto pid .outside)) := by
  rw [gateStep] at h
  obtain ⟨⟨r, t⟩, hcall, h⟩ := bind_eq_ok h
  cases h
  unfold gateSci0 at hcall
  split_ifs at hcall with hrange
  have hpid : ¬pid < 0 := fun hneg => hrange (.inl hneg)
  cases hp : s.processList pid with
  | none => simp [hp] at hcall
  | some p =>
      rw [hp] at hcall
      dsimp only at hcall
      split_ifs at hcall with hvalid hpersonality
      cases hpc : s.pc pid with
      | outside | waiting =>
          rw [hpc] at hcall
          cases hcall
          exact .inl ⟨rfl, rfl⟩
      | closing =>
          simp only [hpc, GatePc.call, processCloseGate, if_neg hpid, hp] at hcall
          cases hcall
          exact .inr ⟨p, rfl, .inl ⟨rfl, rfl⟩⟩
      | inside =>
          simp only [hpc, GatePc.call, processOpenGate, if_neg hpid, hp] at hcall
          cases hcall
          exact .inr ⟨p, rfl, .inr ⟨rfl, rfl⟩⟩

/-! ## Mutual exclusion -/

/-- The gate is open exactly if nobody is inside, and at most one process is. -/
structure GateState.Exclusive (s : GateState) : Prop where
  one : s.OneInside
  gate : s.spinlockIpc = GATE_OPEN ↔ ∀ p, s.pc p ≠ .inside

lemma GateState.Fresh.exclusive (h : s.Fresh) : s.Exclusive := by
  have hnone : ∀ p, s.pc p ≠ .inside := fun p hp => by
    rw [h.pc] at hp
    cases hp
  exact ⟨fun p _ hp _ => absurd hp (hnone p), fun _ => hnone, fun _ => h.gate⟩

/-- A process that reads the gate stays outside. -/
lemma goto_inside (pc : GatePc) (hcall : (s.pc pid).call = .getGate) (hpc : pc ≠ .inside) (q : ℤ) :
    (s.goto pid pc).pc q = .inside ↔ s.pc q = .inside := by
  by_cases hq : q = pid
  · subst hq
    rw [goto_self]
    refine iff_of_false hpc fun hin => ?_
    rw [hin] at hcall
    cases hcall
  · rw [goto_of_ne s pc hq]

/-- **One step** keeps mutual exclusion exactly if it does not close a closed gate. -/
lemma gateStep_oneInside (h : s.Exclusive) (hstep : gateStep s pid = .ok s') :
    (s'.OneInside ↔ ClosesOpenGate s pid) ∧ (ClosesOpenGate s pid → s'.Exclusive) := by
  obtain ⟨hcall, rfl⟩ | ⟨p, -, ⟨hpc, rfl⟩ | ⟨hpc, rfl⟩⟩ := gateStep_cases hstep
  · have hin := goto_inside (if s.spinlockIpc = 1 then .closing else .waiting) hcall
      (by split_ifs <;> decide)
    have hone : GateState.OneInside (s.goto pid _) := fun q r hq hr =>
      h.one q r ((hin q).1 hq) ((hin r).1 hr)
    have hok : ClosesOpenGate s pid := fun hclosing => by
      rw [hclosing] at hcall
      cases hcall
    refine ⟨iff_of_true hone hok, fun _ => ⟨hone, ?_⟩⟩
    exact h.gate.trans (forall_congr' fun q => not_congr (hin q).symm)
  · have hsame (q : ℤ) (hq : q ≠ pid) :
        ((s.write GATE_CLOSED 0 pid p FALSE).goto pid .inside).pc q = s.pc q := goto_of_ne _ _ hq
    have hexclusive : ClosesOpenGate s pid →
        GateState.Exclusive ((s.write GATE_CLOSED 0 pid p FALSE).goto pid .inside) := by
      intro hok
      have hnone := h.gate.1 (hok hpc)
      have honly : ∀ q, ((s.write GATE_CLOSED 0 pid p FALSE).goto pid .inside).pc q = .inside →
          q = pid := by
        intro q hq
        by_contra hne
        rw [hsame q hne] at hq
        exact hnone q hq
      refine ⟨fun q r hq hr => (honly q hq).trans (honly r hr).symm, ?_⟩
      refine iff_of_false (by decide : GATE_CLOSED ≠ GATE_OPEN) fun hall => ?_
      exact hall pid (goto_self ..)
    refine ⟨⟨fun hone _ => ?_, fun hok => (hexclusive hok).one⟩, hexclusive⟩
    -- whoever is inside already would be inside with the process that closes
    refine h.gate.2 fun q hq => ?_
    have hne : q ≠ pid := by
      rintro rfl
      rw [hpc] at hq
      cases hq
    exact hne (hone q pid ((hsame q hne).trans hq) (goto_self ..))
  · have hnone (q : ℤ) :
        ((s.write GATE_OPEN pid pid p TRUE).goto pid .outside).pc q ≠ .inside := by
      intro hq
      by_cases hne : q = pid
      · subst hne
        rw [goto_self] at hq
        cases hq
      · exact hne (h.one q pid ((goto_of_ne _ _ hne).symm.trans hq) hpc)
    have hone : GateState.OneInside ((s.write GATE_OPEN pid pid p TRUE).goto pid .outside) :=
      fun q _ hq => absurd hq (hnone q)
    have hok : ClosesOpenGate s pid := fun hclosing => by
      rw [hpc] at hclosing
      cases hclosing
    exact ⟨iff_of_true hone hok, fun _ => ⟨hone, fun _ => hnone, fun _ => rfl⟩⟩

/-! ## The record -/

/-- Nobody closed the gate so far. -/
structure GateState.Unused (s : GateState) : Prop where
  gate : s.spinlockIpc = GATE_OPEN
  pc : ∀ p, s.pc p ≠ .inside
  critical : ∀ p, ¬s.Critical p

/-- What should hold of the gate. -/
def GateState.GateOk (s : GateState) : Prop := s.OneInside ∧ s.RecordOk

lemma GateState.Unused.ok (h : s.Unused) : s.GateOk := by
  refine ⟨fun p _ hp => absurd hp (h.pc p), fun hclosed => ?_, fun _ => h.critical⟩
  rw [h.gate] at hclosed
  cases hclosed

/-- **One step** keeps the record exactly if it does not close the gate. -/
lemma gateStep_record (h : s.Unused) (hstep : gateStep s pid = .ok s') :
    (s'.GateOk ↔ NeverCloses s pid) ∧ (NeverCloses s pid → s'.Unused) := by
  obtain ⟨hcall, rfl⟩ | ⟨p, hp, ⟨hpc, rfl⟩ | ⟨hpc, rfl⟩⟩ := gateStep_cases hstep
  · have hin := goto_inside (if s.spinlockIpc = 1 then .closing else .waiting) hcall
      (by split_ifs <;> decide)
    have hunused : GateState.Unused (s.goto pid _) :=
      ⟨h.gate, fun q hq => h.pc q ((hin q).1 hq), h.critical⟩
    have hok : NeverCloses s pid := fun hclosing => by
      rw [hclosing] at hcall
      cases hcall
    exact ⟨iff_of_true hunused.ok hok, fun _ => hunused⟩
  · have hbad : ¬NeverCloses s pid := fun hok => hok hpc
    refine ⟨iff_of_false (fun hok => ?_) hbad, fun hok => absurd hok hbad⟩
    obtain ⟨q, hq, -, hflag⟩ := hok.2.closed rfl
    have hself : q = pid := hok.1 q pid hq (goto_self ..)
    obtain ⟨p', hp', hset⟩ := (hflag pid).2 hself.symm
    -- closing cleared the flag
    have hcleared : ((s.write GATE_CLOSED 0 pid p FALSE).goto pid .inside).processList pid =
        some { p with critical := FALSE } := Function.update_self ..
    rw [hcleared, Option.some.injEq] at hp'
    rw [← hp'] at hset
    exact absurd hset (show ¬FALSE = TRUE by decide)
  · exact absurd hpc (h.pc pid)

/-! ## Runs -/

/-- **The kernel gate.**  Along every run from a fresh gate, the processes exclude each other exactly
if none closes a gate that is closed; and the record is right as well exactly if none closes it at
all. -/
theorem gate_run (s : GateState) (pids : List ℤ) (h : s.Fresh) :
    (Along gateStep GateState.GateOk s pids ↔ Meets gateStep NeverCloses s pids) ∧
      (Along gateStep GateState.OneInside s pids ↔ Meets gateStep ClosesOpenGate s pids) := by
  constructor
  · refine along_iff_meets GateState.Unused (fun _ hs => hs.ok)
      (fun _ _ _ hs hstep => (gateStep_record hs hstep).1)
      (fun _ _ _ hs hok hstep => (gateStep_record hs hstep).2 hok) pids s ?_
    refine ⟨h.gate, fun p hp => ?_, h.critical⟩
    rw [h.pc] at hp
    cases hp
  · exact along_iff_meets GateState.Exclusive (fun _ hs => hs.one)
      (fun _ _ _ hs hstep => (gateStep_oneInside hs hstep).1)
      (fun _ _ _ hs hok hstep => (gateStep_oneInside hs hstep).2 hok) pids s h.exclusive

end

/-! ## Two processes -/

/-- Every process is valid, and the gate is open. -/
def openGate : GateState where
  spinlockIpc := GATE_OPEN
  criticalsectionPid := 0
  processList := fun _ => some ⟨TRUE, 1234, PERSONALITY_GRAMADO, FALSE⟩
  pc := fun _ => .outside

lemma openGate_fresh : openGate.Fresh := by
  refine ⟨rfl, fun _ => rfl, fun p hp => ?_⟩
  obtain ⟨q, hq, hset⟩ := hp
  cases hq
  cases hset

/-- Both read the open gate, and both go in. -/
theorem gate_run_fails :
    ¬∀ (s : GateState) (pids : List ℤ), s.Fresh →
      Along gateStep GateState.GateOk s pids := by
  intro h
  have hrun : (runs gateStep openGate [10, 11, 10, 11]).toOption.map (fun t => (t.pc 10, t.pc 11)) =
      some (.inside, .inside) := by
    decide
  obtain ⟨t, hend, ht⟩ := runs_observed hrun
  obtain ⟨h₁₀, h₁₁⟩ := Prod.mk.inj ht
  have hone := ((h openGate _ openGate_fresh).final hend).1 10 11 h₁₀ h₁₁
  exact absurd hone (by decide)

/-- Two processes read the gate. -/
theorem gate_run_openGate : Along gateStep GateState.GateOk openGate [10, 11] :=
  (gate_run openGate [10, 11] openGate_fresh).1.2 (by decide)

end Gramado
