import Gramado.Ke.Scheduler

/-!
# Timed sleep

`sleep`, `sleep_until`, `yield`, `wait_for_a_reason`, `wakeup_thread` and `do_thread_waiting` of
`core/ke/intake/sched/schedi.c`, the part of `__task_switch` of `core/ke/intake/disp/ts.c` that ends
a tick of the current thread, `dispatcher`, and the tick of the timer.

A thread asks for sleep with `sleep`, which only sets a flag.  The next task switch finds the flag
and calls `sleep_until`, which makes the thread `WAITING` and notes in `wake_jiffy` when it is to be
woken.  `wait_for_a_reason` makes a thread `WAITING` too, and notes nothing.

The state has one component that the kernel does not have: `rest` remembers of each structure how it
was put to rest.  The functions write it and never read it.
-/

namespace Gramado

/-! ## State -/

/-- `LOCKED`. -/
def LOCKED : ℕ := 0

/-- `UNLOCKED`. -/
def UNLOCKED : ℕ := 1

/-- The fields of `struct thread_d` that only the functions here use. -/
structure SleepFields where
  saved : ℤ
  sleepInProgress : ℤ
  desiredSleepMs : ℕ
  yieldInProgress : ℤ
  waitingJiffy : ℕ

/-- How a thread was put to rest. -/
inductive Rest where
  /-- It is not at rest, or it was woken, or its time has come. -/
  | awake
  /-- It is to sleep until the counter reaches the given number. -/
  | sleeping (due : ℕ)
  /-- It waits for an event. -/
  | waitingForReason
  deriving DecidableEq, Repr

/-- The scheduler's globals, the other fields of the threads by their address, and the globals of the
task switch.  `rest` is the record of who rests. -/
structure SleepState where
  sched : SchedState
  fields : ℕ → SleepFields
  currentThread : ℤ
  taskSwitchStatus : ℕ
  rest : ℕ → Rest

namespace SleepState

/-- The structure of a thread is replaced. -/
def setThread (s : SleepState) (ptr : ℕ) (t : Thread) : SleepState :=
  { s with sched := s.sched.setThread ptr t }

/-- The other fields of a thread are replaced. -/
def setFields (s : SleepState) (ptr : ℕ) (f : SleepFields) : SleepState :=
  { s with fields := Function.update s.fields ptr f }

/-- The record of a thread is replaced. -/
def setRest (s : SleepState) (ptr : ℕ) (r : Rest) : SleepState :=
  { s with rest := Function.update s.rest ptr r }

end SleepState

/-! ## `schedi.c` -/

/-- The checks with which the functions of `schedi.c` begin: what comes after them is only done for
a valid structure in the slot of `threadList`. -/
def withThread (tid : ℤ) (s : SleepState) (body : ℕ → Thread → Except Fault SleepState) :
    Except Fault SleepState :=
  if tid < 0 ∨ tid ≥ THREAD_COUNT_MAX then .ok s
  else
    let ptr := s.sched.threads.threadList tid.toNat
    if ptr = 0 then .ok s
    else do
      let t ← s.sched.threads.deref ptr
      if t.used ≠ TRUE then .ok s
      else if t.magic ≠ 1234 then .ok s
      else body ptr t

/-- `do_thread_waiting`. -/
def doThreadWaiting (tid : ℤ) (ms : ℕ) (s : SleepState) : Except Fault SleepState :=
  withThread tid s fun ptr t =>
    let jiffiesToWait := if ms = 0 then 1 else ms
    let s := s.setFields ptr { s.fields ptr with waitingJiffy := s.sched.jiffies }
    let s := s.setRest ptr (.sleeping (s.sched.jiffies + jiffiesToWait))
    .ok (s.setThread ptr
      { t with state := .WAITING, wakeJiffy := ulongAdd s.sched.jiffies jiffiesToWait })

/-- `sleep_until`. -/
def sleepUntil (tid : ℤ) (ms : ℕ) (s : SleepState) : Except Fault SleepState :=
  if tid < 0 ∨ tid ≥ THREAD_COUNT_MAX then .ok s
  else
    let ms := if ms = 0 then 1 else ms
    doThreadWaiting tid ms s

/-- `sleep`. -/
def sleep (tid : ℤ) (ms : ℕ) (s : SleepState) : Except Fault SleepState :=
  withThread tid s fun ptr _ =>
    .ok (s.setFields ptr { s.fields ptr with sleepInProgress := TRUE, desiredSleepMs := ms })

/-- `yield`. -/
def yield (tid : ℤ) (s : SleepState) : Except Fault SleepState :=
  withThread tid s fun ptr _ =>
    .ok (s.setFields ptr { s.fields ptr with yieldInProgress := TRUE })

/-- `wait_for_a_reason`. -/
def waitForAReason (tid reason : ℤ) (s : SleepState) : Except Fault SleepState :=
  if reason < 0 ∨ reason ≥ 10 then .ok s
  else withThread tid s fun ptr t =>
    .ok ((s.setRest ptr .waitingForReason).setThread ptr { t with state := .WAITING })

/-- `wakeup_thread_reason`. -/
def wakeupThreadReason (_tid _reason : ℤ) (_s : SleepState) : Except Fault SleepState :=
  .error (.panic "wakeup_thread_reason: #todo\n")

/-- `wakeup_thread`. -/
def wakeupThread (tid : ℤ) (s : SleepState) : Except Fault SleepState :=
  withThread tid s fun ptr t =>
    if (s.fields ptr).saved = FALSE then .ok s
    else if t.state = .READY then .ok s
    else if t.state = .RUNNING then .ok s
    else if t.state = .BLOCKED then .ok s
    else do
      let sched ← doThreadReady tid s.sched
      .ok ({ s with sched := sched }.setRest ptr .awake)

/-! ## `ts.c` and `dispatch.c` -/

/-- The quantum is not over: requests to yield and to sleep are met. -/
def stillInQuantum (ptr : ℕ) (t : Thread) (s : SleepState) : Except Fault SleepState :=
  let yields := t.state = .RUNNING ∧ (s.fields ptr).yieldInProgress = TRUE
  let t := if yields then { t with runningCount := t.quantum } else t
  let s := s.setThread ptr t
  let s :=
    if yields then s.setFields ptr { s.fields ptr with yieldInProgress := FALSE } else s
  if t.state = .RUNNING ∧ (s.fields ptr).sleepInProgress = TRUE then do
    let s := s.setThread ptr { t with runningCount := t.quantum }
    let s ← sleepUntil t.tid (s.fields ptr).desiredSleepMs s
    .ok (s.setFields ptr { s.fields ptr with sleepInProgress := FALSE })
  else .ok s

/-- `__tsOnFinishedExecuting`. -/
def tsOnFinishedExecuting (ptr : ℕ) (t : Thread) (s : SleepState) : SleepState :=
  if t.state = .RUNNING then s.setThread ptr { t with state := .READY } else s.setThread ptr t

/-- `__task_switch`, up to the choice of the next thread. -/
def taskSwitch (s : SleepState) : Except Fault SleepState :=
  if s.currentThread < 0 ∨ s.currentThread ≥ THREAD_COUNT_MAX then
    .error (.panic "ts: current_thread\n")
  else
    let ptr := s.sched.threads.threadList s.currentThread.toNat
    if ptr = 0 then .error (.panic "ts: CurrentThread\n")
    else do
      let t ← s.sched.threads.deref ptr
      if ¬ t.Valid then .error (.panic "ts: CurrentThread validation\n")
      else
        let t := { t with runningCount := ulongAdd t.runningCount 1 }
        if s.taskSwitchStatus = LOCKED then .ok (s.setThread ptr t)
        else if s.taskSwitchStatus ≠ UNLOCKED then
          .error (.panic "ts: task_switch_status != UNLOCKED\n")
        else
          let s := s.setFields ptr { s.fields ptr with saved := TRUE }
          if t.runningCount < t.quantum then stillInQuantum ptr t s
          else .ok (tsOnFinishedExecuting ptr t s)

/-- The structure of a thread that is dispatched: it runs, and its priority and its quantum are not
below the least. -/
def dispatched (t : Thread) : Thread :=
  { t with
    state := .RUNNING
    runningCount := 0
    runningCountMs := 0
    basePriority := if t.basePriority < PRIORITY_MIN then PRIORITY_MIN else t.basePriority
    priority := if t.priority < PRIORITY_MIN then PRIORITY_MIN else t.priority
    quantum := if t.quantum < QUANTUM_MIN then QUANTUM_MIN else t.quantum }

/-- `dispatcher`, after `current_thread` was set to the selected thread. -/
def dispatcher (tid : ℤ) (s : SleepState) : Except Fault SleepState :=
  let s := { s with currentThread := tid }
  if tid < 0 ∨ tid ≥ THREAD_COUNT_MAX then .error (.panic "dispatcher: current_thread\n")
  else
    let ptr := s.sched.threads.threadList tid.toNat
    if ptr = 0 then .error (.panic "dispatcher: TargetThread\n")
    else do
      let t ← s.sched.threads.deref ptr
      if t.magic ≠ 1234 then .error (.panic "dispatcher: magic\n")
      else if t.state ≠ .READY then .error (.panic "dispatcher: state\n")
      else
        let s := s.setThread ptr (dispatched t)
        .ok (s.setFields ptr { s.fields ptr with saved := FALSE })

/-! ## Steps -/

/-- What can happen. -/
inductive SleepEvent where
  | tick
  | pass (garbage : ℕ)
  | sleep (tid : ℤ) (ms : ℕ)
  | sleepUntil (tid : ℤ) (ms : ℕ)
  | yield (tid : ℤ)
  | waitForAReason (tid reason : ℤ)
  | wakeupThread (tid : ℤ)
  | wakeupThreadReason (tid reason : ℤ)
  | taskSwitch
  | dispatch (tid : ℤ)
  deriving DecidableEq, Repr

/-- The record when the counter has reached `jiffies`: who was to sleep until now is awake. -/
def Rest.at (jiffies : ℕ) : Rest → Rest
  | .sleeping due => if due ≤ jiffies then .awake else .sleeping due
  | .awake => .awake
  | .waitingForReason => .waitingForReason

/-- The timer's `jiffies++`. -/
def tick (s : SleepState) : SleepState :=
  let jiffies := ulongAdd s.sched.jiffies 1
  { s with
    sched := { s.sched with jiffies := jiffies }
    rest := fun ptr => (s.rest ptr).at jiffies }

/-- A pass of the scheduler, whose result is the new `current_thread`. -/
def pass (garbage : ℕ) (s : SleepState) : Except Fault SleepState := do
  let (tid, sched) ← schedulerRr garbage s.sched
  .ok { s with sched := sched, currentThread := tid }

/-- One step. -/
def sleepStep (s : SleepState) : SleepEvent → Except Fault SleepState
  | .tick => .ok (tick s)
  | .pass garbage => pass garbage s
  | .sleep tid ms => sleep tid ms s
  | .sleepUntil tid ms => sleepUntil tid ms s
  | .yield tid => yield tid s
  | .waitForAReason tid reason => waitForAReason tid reason s
  | .wakeupThread tid => wakeupThread tid s
  | .wakeupThreadReason tid reason => wakeupThreadReason tid reason s
  | .taskSwitch => taskSwitch s
  | .dispatch tid => dispatcher tid s

end Gramado
