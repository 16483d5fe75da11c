import Gramado.Ke.Clone

/-!
# The task switch

`tsTaskSwitch` and `__task_switch` of `core/ke/intake/disp/ts.c`, `psSpawnThreadByTID` of
`disp/spawn.c`, `psScheduler` of `sched/sched.c`, and the functions that change the state of a thread:
the `do_thread_…` functions, `do_waitpid`, `set_current_thread` and `schedi_check_for_standby` of
`sched/schedi.c`, `exit_thread` of `thread.c` and `core_start_thread` of `kmain/wrappers.c`.  The
timed sleep, the scheduler and the clone are those of the other modules.

`__task_switch` jumps between two labels until it has a thread that it can dispatch.  One step here is
the way from a label to the next jump, and `label` says where the function stands.  Interrupts are off
meanwhile: no other function of the kernel runs between two labels.

The state has one component that the kernel does not have: `parked` remembers of each thread whether
it was a zombie, blocked or waiting after a step, and has not been ready after a step since.

The check of `pml4_PA` behind the dispatch, the counters of ticks, and the check for an interrupt to be
acknowledged, which the timer always passes, are left out.
-/

namespace Gramado

/-! ## State -/

/-- Where `__task_switch` stands: it has returned, or it is at one of its labels. -/
inductive TsLabel where
  | done
  | zeroGravity
  | goAhead
  deriving DecidableEq, Repr

/-- The state of the threads and processes, the place in `__task_switch`, and the record of who was
parked. -/
structure TsState extends ProcessState where
  label : TsLabel
  parked : ℕ → Bool

/-- What is written down of a thread after a step. -/
def parkedAfter (before : Bool) : Option Thread → Bool
  | none => false
  | some t =>
      match t.state with
      | .ZOMBIE | .WAITING | .BLOCKED => true
      | .READY => false
      | _ => before

/-- The state after a step that has led to `p`. -/
def TsState.after (s : TsState) (label : TsLabel) (p : ProcessState) : TsState :=
  { p with label := label, parked := fun ptr => parkedAfter (s.parked ptr) (p.sched.threads.thread ptr) }

/-- A function that looks at nothing but the threads. -/
def onSleep (f : SleepState → Except Fault SleepState) (p : ProcessState) :
    Except Fault ProcessState := do
  let s ← f p.toSleepState
  .ok { p with toSleepState := s }

/-! ## `schedi.c` -/

/-- The body of the `do_thread_…` functions that only write the state. -/
def setThreadState (state : ThreadState) (tid : ℤ) (s : SleepState) : Except Fault SleepState :=
  withThread tid s fun ptr t => .ok (s.setThread ptr { t with state := state })

/-- `do_thread_blocked`. -/
def doThreadBlocked : ℤ → SleepState → Except Fault SleepState := setThreadState .BLOCKED

/-- `do_thread_dead`. -/
def doThreadDead : ℤ → SleepState → Except Fault SleepState := setThreadState .DEAD

/-- `do_thread_initialized`. -/
def doThreadInitialized : ℤ → SleepState → Except Fault SleepState := setThreadState .INITIALIZED

/-- `do_thread_running`. -/
def doThreadRunning : ℤ → SleepState → Except Fault SleepState := setThreadState .RUNNING

/-- `do_thread_standby`. -/
def doThreadStandby : ℤ → SleepState → Except Fault SleepState := setThreadState .STANDBY

/-- `do_thread_zombie`: the init thread is spared. -/
def doThreadZombie (tid : ℤ) (s : SleepState) : Except Fault SleepState :=
  withThread tid s fun ptr t =>
    if tid = INIT_TID then .ok s else .ok (s.setThread ptr { t with state := .ZOMBIE })

/-- `do_thread_ready`, for the scheduler's state within the threads'. -/
def readyThread (tid : ℤ) (s : SleepState) : Except Fault SleepState := do
  let sched ← doThreadReady tid s.sched
  .ok { s with sched := sched }

/-- `set_current_thread`. -/
def setCurrentThread (tid : ℤ) (s : SleepState) : Except Fault SleepState :=
  if tid = s.currentThread then .ok s
  else withThread tid s fun _ _ => .ok { s with currentThread := tid }

/-- `do_waitpid`: the control thread of the current process is blocked. -/
def doWaitpid (p : ProcessState) : Except Fault ProcessState :=
  let process := p.processList p.currentProcess.toNat
  let d := p.process process
  if process = 0 then .ok p
  else if d.used = TRUE ∧ d.magic = 1234 then do
    let t ← p.sched.threads.deref d.control
    .ok (p.putThread d.control { t with state := .BLOCKED })
  else .ok p

/-! ## Threads that begin and end -/

/-- `exit_thread`. -/
def exitThread (tid : ℤ) (s : SleepState) : Except Fault SleepState :=
  if tid < 0 ∨ tid ≥ THREAD_COUNT_MAX then .ok s
  else do
    panicIf (s.sched.idleThread = 0) "exit_thread: Idle\n"
    let idle ← s.sched.threads.deref s.sched.idleThread
    panicIf (idle.magic ≠ 1234) "exit_thread: Idle validation\n"
    panicIf (tid = idle.tid) "exit_thread: We can't kill the Idle thread\n"
    let ptr := s.sched.threads.threadList tid.toNat
    if ptr = 0 then .ok s
    else do
      let t ← s.sched.threads.deref ptr
      if t.magic ≠ 1234 then .ok s
      else .ok (s.setThread ptr { t with exitInProgress := TRUE })

/-- `core_start_thread`, with the pointer as the caller gives it. -/
def coreStartThread (thread : ℕ) (p : ProcessState) : Except Fault ProcessState :=
  if thread = 0 then .ok p
  else do
    let t ← p.sched.threads.deref thread
    if t.used ≠ TRUE then .ok p
    else if t.magic ≠ 1234 then .ok p
    else schediSelectForExecution thread p

/-- The structure of a thread that is spawned. -/
def spawned (initThread : ℕ) (t : Thread) : Thread :=
  { t with
    state := .RUNNING
    exitInProgress := FALSE
    runningCount := 0
    runningCountMs := 0
    next := initThread }

/-- `psSpawnThreadByTID`, with `__spawn_thread_by_tid_imp`, up to the entry into user mode. -/
def psSpawnThreadByTid (tid : ℤ) (p : ProcessState) : Except Fault ProcessState := do
  panicIf (tid < 0 ∨ tid ≥ THREAD_COUNT_MAX) "psSpawnThreadByTID: TID=%d\n"
  let nextTid := tid % 2 ^ 16
  panicIf (nextTid < 0 ∨ nextTid ≥ THREAD_COUNT_MAX) "__spawn_thread_by_tid_imp: next_tid=%d"
  let ptr := p.sched.threads.threadList nextTid.toNat
  panicIf (ptr = 0) "__spawn_thread_by_tid_imp: target_thread, next_tid=\x7b%d\x7d"
  let t ← p.sched.threads.deref ptr
  panicIf (¬ t.Valid) "__spawn_thread_by_tid_imp: target_thread validation\n"
  panicIf (t.tid ≠ nextTid) "__spawn_thread_by_tid_imp: target_thread->tid validation\n"
  panicIf (t.state ≠ .STANDBY) "__spawn_thread_by_tid_imp: TID=\x7b%d\x7d not in Standby\n"
  panicIf ((p.fields ptr).saved = TRUE) "__spawn_thread_by_tid_imp: Saved TID=\x7b%d\x7d\n"
  let p := p.putFields ptr { p.fields ptr with saved := FALSE }
  let p := p.putThread ptr (spawned p.sched.initThread t)
  let p := { p with taskSwitchStatus := UNLOCKED, schedulerStatus := UNLOCKED }
  let owner := p.owner ptr
  panicIf (owner.ownerProcess = 0) "__spawn_thread_by_tid_imp: target_thread->owner_process\n"
  panicIf (owner.ownerPid < 0 ∨ owner.ownerPid ≥ PROCESS_COUNT_MAX)
    "__spawn_thread_by_tid_imp: cur_pid\n"
  let p := { p with currentProcess := owner.ownerPid }
  let p ← onSleep (setCurrentThread t.tid) p
  panicIf (p.currentThread < 0 ∨ p.currentThread ≥ THREAD_COUNT_MAX)
    "__spawn_thread_by_tid_imp: current_thread\n"
  panicIf (owner.cpl ≠ RING3) "__spawn_thread_by_tid_imp: Invalid cpl\n"
  .ok p

/-- A valid thread in standby stands in the slot `i` of `threadList`. -/
def StandbyAt (s : SchedState) (i : ℕ) : Prop :=
  s.threads.threadList i ≠ 0 ∧
    (s.threads.thread (s.threads.threadList i)).any fun t => t.Valid ∧ t.state = .STANDBY

instance (s : SchedState) : DecidablePred (StandbyAt s) := fun _ => inferInstanceAs (Decidable (_ ∧ _))

/-- `schedi_check_for_standby`; `none` is the return to the task switch. -/
def schediCheckForStandby (p : ProcessState) : Except Fault (Option ProcessState) :=
  match Scan.forward (StandbyAt p.sched) THREAD_COUNT_MAX.toNat 0 with
  | none => .ok none
  | some i => do
      let t ← p.sched.threads.deref (p.sched.threads.threadList i)
      panicIf (t.tid < 0 ∨ t.tid ≥ THREAD_COUNT_MAX) "schedi_check_for_standby: fail\n"
      panicIf (t.tid = INIT_TID) "schedi_check_for_standby: Can't spawn INIT_TID\n"
      let p ← onSleep (setCurrentThread t.tid) p
      let p ← psSpawnThreadByTid t.tid p
      .ok (some p)

/-! ## `ts.c` -/

/-- The first checks of `__task_switch`: the owner of the current thread becomes the current process. -/
def checkCurrentOwner (p : ProcessState) : Except Fault ProcessState := do
  panicIf (p.currentThread < 0 ∨ p.currentThread ≥ THREAD_COUNT_MAX) "ts: current_thread\n"
  let ptr := p.sched.threads.threadList p.currentThread.toNat
  panicIf (ptr = 0) "ts: CurrentThread\n"
  let t ← p.sched.threads.deref ptr
  panicIf (¬ t.Valid) "ts: CurrentThread validation\n"
  let ownerPid := (p.owner ptr).ownerPid
  panicIf (ownerPid < 0 ∨ ownerPid ≥ PROCESS_COUNT_MAX) "ts: owner_pid\n"
  let process := p.processList ownerPid.toNat
  panicIf (process = 0) "ts: CurrentProcess\n"
  let d := p.process process
  panicIf (d.used ≠ TRUE ∨ d.magic ≠ 1234) "ts: CurrentProcess validation\n"
  panicIf (d.pid ≠ ownerPid) "ts: CurrentProcess->pid != owner_pid\n"
  .ok { p with currentProcess := ownerPid }

/-- The task switch is not locked, and the quantum of the current thread is over with this tick. -/
def QuantumOver (s : SleepState) : Prop :=
  s.taskSwitchStatus ≠ LOCKED ∧
    (s.sched.threads.thread (s.sched.threads.threadList s.currentThread.toNat)).any fun t =>
      t.quantum ≤ ulongAdd t.runningCount 1

instance (s : SleepState) : Decidable (QuantumOver s) := inferInstanceAs (Decidable (_ ∧ _))

/-- `__task_switch`, up to its return or to the jump to `ZeroGravity`. -/
def startSwitch (p : ProcessState) : Except Fault (TsLabel × ProcessState) := do
  let p ← checkCurrentOwner p
  let isOver := QuantumOver p.toSleepState
  let p ← onSleep taskSwitch p
  if isOver then do
    match ← schediCheckForStandby p with
    | some p => .ok (.done, p)
    | none => .ok (.zeroGravity, p)
  else .ok (.done, p)

/-- `tsTaskSwitch`.  `wsPid` is the process of the display server, which gets a callback instead, when
it is ready for it. -/
def tsTaskSwitch (wsPid : ℤ) (callbackReady : Bool) (p : ProcessState) :
    Except Fault (TsLabel × ProcessState) := do
  panicIf (p.currentProcess < 0 ∨ p.currentProcess ≥ PROCESS_COUNT_MAX)
    "psTaskSwitch: current_process_pid %d"
  panicIf (p.currentThread < 0 ∨ p.currentThread ≥ THREAD_COUNT_MAX) "psTaskSwitch: current_thread %d"
  if p.currentProcess = wsPid ∧ callbackReady then .ok (.done, p) else startSwitch p

/-- `irq0_TIMER`: the tick of the counter, and the task switch. -/
def irq0Timer (wsPid : ℤ) (callbackReady : Bool) (p : ProcessState) :
    Except Fault (TsLabel × ProcessState) :=
  tsTaskSwitch wsPid callbackReady { p with toSleepState := tick p.toSleepState }

/-- `psScheduler`: the number of the next thread.  What is in the cursor of the scheduler before its
loop is `garbage`. -/
def psScheduler (garbage : ℕ) (p : ProcessState) : Except Fault (ℤ × ProcessState) :=
  if p.schedulerStatus = LOCKED then .ok (-1, p)
  else if p.sched.threadsCounter = 0 then .error (.panic "psScheduler: No threads\n")
  else if p.sched.threadsCounter = 1 then do
    let t ← p.sched.threads.deref p.sched.idleThread
    .ok (t.tid,
      { p with sched := { p.sched with currentq := p.sched.idleThread }, currentThread := t.tid })
  else do
    let (tid, sched) ← scheduler garbage p.sched
    .ok (tid, { p with sched := sched })

/-- `current_thread = psScheduler()`. -/
def reschedule (garbage : ℕ) (p : ProcessState) : Except Fault ProcessState := do
  let (tid, p) ← psScheduler garbage p
  .ok { p with currentThread := tid }

/-- A thread that waits for its timeout breaks the round: it is the only one in the current queue. -/
def takeTimeout (t : Thread) (p : ProcessState) : ProcessState :=
  { p.putThread p.timeoutThread { t with waitingForTimeout := FALSE, next := 0 } with
    sched := { (p.putThread p.timeoutThread { t with waitingForTimeout := FALSE, next := 0 }).sched with
      currentq := p.timeoutThread } }

/-- The next thread of the round, or the head of a new round. -/
def nextInRound (garbage : ℕ) (p : ProcessState) : Except Fault ProcessState := do
  let t ← p.sched.threads.deref p.sched.currentq
  if t.next = 0 then reschedule garbage p
  else .ok { p with sched := { p.sched with currentq := t.next } }

/-- From `ZeroGravity` to the jump to `go_ahead`. -/
def zeroGravity (garbage : ℕ) (p : ProcessState) : Except Fault ProcessState :=
  if p.sched.threadsCounter = 0 then .error (.panic "ts: No threads\n")
  else if p.sched.threadsCounter = 1 then
    if p.sched.initThread ≠ p.sched.idleThread then .error (.panic "ts: Invalid single thread\n")
    else .ok { p with sched := { p.sched with currentq := p.sched.idleThread } }
  else if p.timeoutThread = 0 then nextInRound garbage p
  else do
    let t ← p.sched.threads.deref p.timeoutThread
    if t.magic = 1234 ∧ t.waitingForTimeout = TRUE then .ok (takeTimeout t p)
    else nextInRound garbage p

/-- "Counters" and limits of a thread that is about to be dispatched. -/
def limited (t : Thread) : Thread :=
  { t with
    runningCount := 0
    runningCountMs := 0
    basePriority := if t.basePriority > PRIORITY_MAX then PRIORITY_MAX else t.basePriority
    priority := if t.priority > PRIORITY_MAX then PRIORITY_MAX else t.priority
    quantum := if t.quantum > QUANTUM_MAX then QUANTUM_MAX else t.quantum }

/-- The owner of the thread that was dispatched becomes the current process. -/
def setOwner (owner : OwnerFields) (p : ProcessState) : Except Fault ProcessState := do
  panicIf (owner.ownerPid < 0 ∨ owner.ownerPid ≥ THREAD_COUNT_MAX) "ts: targetthread_OwnerPID ERROR\n"
  let process := p.processList owner.ownerPid.toNat
  panicIf (process = 0) "ts: TargetProcess %s struct fail\n"
  let d := p.process process
  panicIf (d.used ≠ TRUE ∨ d.magic ≠ 1234) "ts: TargetProcess %s validation\n"
  panicIf (d.pid ≠ owner.ownerPid) "ts: TargetProcess->pid != targetthread_OwnerPID\n"
  .ok { p with currentProcess := d.pid }

/-- From `dispatch_current` to the return. -/
def dispatchCurrent (tid : ℤ) (p : ProcessState) : Except Fault ProcessState := do
  panicIf (tid < 0 ∨ tid ≥ THREAD_COUNT_MAX) "ts-dispatch_current: current_thread\n"
  let ptr := p.sched.threads.threadList tid.toNat
  panicIf (ptr = 0) "ts-dispatch_current: TargetThread\n"
  let t ← p.sched.threads.deref ptr
  panicIf (¬ t.Valid) "ts-dispatch_current: validation\n"
  panicIf (t.state ≠ .READY) "ts-dispatch_current: Not ready\n"
  let owner := p.owner ptr
  let p ← onSleep (dispatcher tid) (p.putThread ptr (limited t))
  setOwner owner p

/-- From `go_ahead` to the return, or to the jump to `ZeroGravity`. -/
def goAhead (garbage : ℕ) (p : ProcessState) : Except Fault (TsLabel × ProcessState) := do
  let target := p.sched.currentq
  if target = 0 then do
    let p ← reschedule garbage p
    .ok (.zeroGravity, p)
  else do
    let t ← p.sched.threads.deref target
    if t.Valid ∧ t.state = .READY then do
      let p ← dispatchCurrent t.tid p
      .ok (.done, p)
    else do
      let p ← reschedule garbage p
      .ok (.zeroGravity, p)

/-! ## Steps -/

/-- What can happen while no task switch is under way. -/
inductive TsCall where
  | timer (wsPid : ℤ) (callbackReady : Bool)
  | doThreadBlocked (tid : ℤ)
  | doThreadDead (tid : ℤ)
  | doThreadInitialized (tid : ℤ)
  | doThreadReady (tid : ℤ)
  | doThreadRunning (tid : ℤ)
  | doThreadStandby (tid : ℤ)
  | doThreadWaiting (tid : ℤ) (ms : ℕ)
  | doThreadZombie (tid : ℤ)
  | sleep (tid : ℤ) (ms : ℕ)
  | sleepUntil (tid : ℤ) (ms : ℕ)
  | yield (tid : ℤ)
  | waitForAReason (tid reason : ℤ)
  | wakeupThread (tid : ℤ)
  | wakeupThreadReason (tid reason : ℤ)
  | doWaitpid
  | exitThread (tid : ℤ)
  | startThread (thread : ℕ)
  | createThread (env : CloneEnv) (pid : ℤ) (cpl : ℕ)
  | copyProcess (env : CloneEnv) (filename : List UInt8) (pid : ℤ)

/-- A call from outside, or the task switch goes on. -/
inductive TsEvent where
  | call (c : TsCall)
  | goOn (garbage : ℕ)

/-- The call, from where no task switch is under way. -/
def tsCall (p : ProcessState) : TsCall → Except Fault (TsLabel × ProcessState)
  | .timer wsPid callbackReady => irq0Timer wsPid callbackReady p
  | .doThreadBlocked tid => returned (onSleep (doThreadBlocked tid) p)
  | .doThreadDead tid => returned (onSleep (doThreadDead tid) p)
  | .doThreadInitialized tid => returned (onSleep (doThreadInitialized tid) p)
  | .doThreadReady tid => returned (onSleep (readyThread tid) p)
  | .doThreadRunning tid => returned (onSleep (doThreadRunning tid) p)
  | .doThreadStandby tid => returned (onSleep (doThreadStandby tid) p)
  | .doThreadWaiting tid ms => returned (onSleep (doThreadWaiting tid ms) p)
  | .doThreadZombie tid => returned (onSleep (doThreadZombie tid) p)
  | .sleep tid ms => returned (onSleep (sleep tid ms) p)
  | .sleepUntil tid ms => returned (onSleep (sleepUntil tid ms) p)
  | .yield tid => returned (onSleep (yield tid) p)
  | .waitForAReason tid reason => returned (onSleep (waitForAReason tid reason) p)
  | .wakeupThread tid => returned (onSleep (wakeupThread tid) p)
  | .wakeupThreadReason tid reason => returned (onSleep (wakeupThreadReason tid reason) p)
  | .doWaitpid => returned (doWaitpid p)
  | .exitThread tid => returned (onSleep (exitThread tid) p)
  | .startThread thread => returned (coreStartThread thread p)
  | .createThread env pid cpl => do
      let created ← createThread env pid cpl p
      .ok (.done, created.getD p)
  | .copyProcess env filename pid => do
      let (_, p) ← copyProcess env filename pid p
      .ok (.done, p)
where
  /-- A function that comes back is no task switch. -/
  returned (x : Except Fault ProcessState) : Except Fault (TsLabel × ProcessState) := do
    let p ← x
    .ok (.done, p)

/-- One step.  An event that is not possible where `__task_switch` stands leaves the state alone. -/
def tsStep (s : TsState) (e : TsEvent) : Except Fault TsState :=
  match s.label, e with
  | .done, .call c => do
      let (label, p) ← tsCall s.toProcessState c
      .ok (s.after label p)
  | .zeroGravity, .goOn garbage => do
      let p ← zeroGravity garbage s.toProcessState
      .ok (s.after .goAhead p)
  | .goAhead, .goOn garbage => do
      let (label, p) ← goAhead garbage s.toProcessState
      .ok (s.after label p)
  | _, _ => .ok s

end Gramado
