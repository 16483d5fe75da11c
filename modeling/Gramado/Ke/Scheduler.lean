import Gramado.Lib.Run
import Gramado.Ke.Thread

/-!
# The round-robin scheduler

`core/ke/intake/sched/sched.c`, with `do_thread_ready` of `schedi.c` and `qlist_set_element` of
`schedq.c`.

`__scheduler_rr` makes the list for the next round.  It puts the idle thread at the head and goes
once through the slots of `threadList` behind it (`rrSlot`): a sleeper whose time has come is woken,
a zombie is reaped, a ready thread is linked, and a thread that is about to exit becomes a zombie.
The function uses the same cursor `TmpThread` before the loop, where it has no value yet; the model
passes what is in it as `garbage`.
-/

namespace Gramado

open StepRun

/-! ## Constants -/

/-- `PRIORITY_MIN`, that is `PRIORITY_P1`. -/
def PRIORITY_MIN : ℕ := 1

/-- `PRIORITY_SYSTEM_THRESHOLD`, that is `PRIORITY_P4`. -/
def PRIORITY_SYSTEM_THRESHOLD : ℕ := 4

/-- `PRIORITY_MAX`, that is `PRIORITY_P6`. -/
def PRIORITY_MAX : ℕ := 6

/-- `QUANTUM_MIN`, that is `QUANTUM_Q1`. -/
def QUANTUM_MIN : ℕ := 1

/-- `QUANTUM_NORMAL_THRESHOLD`, that is `QUANTUM_Q1`. -/
def QUANTUM_NORMAL_THRESHOLD : ℕ := 1

/-- `QUANTUM_NORMAL_TIME_CRITICAL`, that is `QUANTUM_Q3`. -/
def QUANTUM_NORMAL_TIME_CRITICAL : ℕ := 3

/-- `QUANTUM_SYSTEM_TIME_CRITICAL`, that is `QUANTUM_Q6`. -/
def QUANTUM_SYSTEM_TIME_CRITICAL : ℕ := 6

/-- `SYSTEM_THRESHOLD_TID`. -/
def SYSTEM_THRESHOLD_TID : ℤ := 0

/-- `INIT_TID`. -/
def INIT_TID : ℤ := SYSTEM_THRESHOLD_TID

/-- `SCHED_POLICY_RR`. -/
def SCHED_POLICY_RR : ℤ := 0

/-- `SCHED_POLICY_QUEUES`. -/
def SCHED_POLICY_QUEUES : ℤ := 1

/-- `SCHED_CURRENT_QUEUE`. -/
def SCHED_CURRENT_QUEUE : ℤ := 0

/-- `SCHED_P1_QUEUE`. -/
def SCHED_P1_QUEUE : ℤ := 1

/-- `SCHED_P6_QUEUE`. -/
def SCHED_P6_QUEUE : ℤ := 6

/-- `SCHEQ_QUEUE_COUNT_MAX`. -/
def SCHEQ_QUEUE_COUNT_MAX : ℤ := 7

/-- `SYSTEM_SCHEDULING`. -/
def SYSTEM_SCHEDULING : ℕ := 3

/-- `SYSTEM_RUNNING`. -/
def SYSTEM_RUNNING : ℕ := 4

/-! ## State -/

/-- `struct scheduler_info_d`. -/
structure SchedulerInfo where
  initialized : ℤ
  policy : ℤ
  rrRoundCounter : ℕ
  flags : ℕ

/-- The fields of `struct ds_info_d` that the scheduler uses. -/
structure DisplayServerInfo where
  initialized : ℤ
  tid : ℤ

/-- The globals of the scheduler.  `idleThread` and `threadsCounter` are fields of
`UPProcessorBlock`. -/
structure SchedState where
  threads : Threads
  info : SchedulerInfo
  idleThread : ℕ
  threadsCounter : ℕ
  initThread : ℕ
  systemState : ℕ
  jiffies : ℕ
  foregroundThread : ℤ
  displayServer : DisplayServerInfo
  p1q : ℕ
  p2q : ℕ
  p3q : ℕ
  p4q : ℕ
  p5q : ℕ
  p6q : ℕ
  currentq : ℕ
  qList : ℤ → ℕ

/-- The structure of a thread is replaced. -/
def SchedState.setThread (s : SchedState) (ptr : ℕ) (t : Thread) : SchedState :=
  { s with threads := s.threads.set ptr t }

/-- The check of a thread structure. -/
def Thread.Valid (t : Thread) : Prop := t.used = TRUE ∧ t.magic = 1234

instance (t : Thread) : Decidable t.Valid := inferInstanceAs (Decidable (_ ∧ _))

/-! ## The functions the scheduler calls -/

/-- `do_thread_ready`. -/
def doThreadReady (tid : ℤ) (s : SchedState) : Except Fault SchedState :=
  if tid < 0 ∨ tid ≥ THREAD_COUNT_MAX then .ok s
  else
    let ptr := s.threads.threadList tid.toNat
    if ptr = 0 then .ok s
    else do
      let t ← s.threads.deref ptr
      if t.used ≠ TRUE then .ok s
      else if t.magic ≠ 1234 then .ok s
      else .ok (s.setThread ptr { t with state := .READY, readyJiffy := s.jiffies })

/-- `qlist_set_element`. -/
def qlistSetElement (index : ℤ) (headThread : ℕ) (s : SchedState) : ℤ × SchedState :=
  if index < 0 ∨ index ≥ SCHEQ_QUEUE_COUNT_MAX then (-1, s)
  else if headThread = 0 then (-1, s)
  else if index = SCHED_CURRENT_QUEUE then
    (0, { s with qList := Function.update s.qList SCHED_CURRENT_QUEUE headThread })
  else if index ≥ SCHED_P1_QUEUE ∨ index ≤ SCHED_P6_QUEUE then
    (0, { s with qList := Function.update s.qList index headThread })
  else (-1, s)

/-! ## One slot -/

/-- "WAITING threads": the alarm is reset, and the thread is woken when its time has come. -/
def wakeWaiting (tmpThread : ℕ) (s : SchedState) : Except Fault SchedState := do
  let t ← s.threads.deref tmpThread
  if t.Valid ∧ t.state = .WAITING then
    let t := if s.jiffies > t.alarm then { t with alarm := 0 } else t
    let s := s.setThread tmpThread t
    if s.jiffies ≥ t.wakeJiffy then doThreadReady t.tid s else .ok s
  else .ok s

/-- "ZOMBIE threads": the structure is given up, and `TmpThread` becomes `NULL`. -/
def reapZombie (tmpThread : ℕ) (s : SchedState) : Except Fault (ℕ × SchedState) := do
  let t ← s.threads.deref tmpThread
  if t.Valid ∧ t.state = .ZOMBIE then
    let s :=
      if s.displayServer.initialized = TRUE ∧ t.tid = s.displayServer.tid then
        { s with displayServer := { s.displayServer with initialized := FALSE } }
      else s
    if tmpThread = s.initThread then
      .error (.panic "__scheduler_rr: Can't kill InitThread\n")
    else .ok (0, s.setThread tmpThread { t with used := FALSE, magic := 0 })
  else .ok (tmpThread, s)

/-- The base priority is kept between `PRIORITY_MIN` and `PRIORITY_MAX`. -/
def balancePriority (basePriority : ℕ) : ℕ :=
  let p := if basePriority < PRIORITY_MIN then PRIORITY_MIN else basePriority
  if p > PRIORITY_MAX then PRIORITY_MAX else p

/-- The quantum of a thread that is linked. -/
def quantumFor (s : SchedState) (t : Thread) : ℕ :=
  let q := QUANTUM_NORMAL_THRESHOLD
  let q := if t.tid = s.foregroundThread then QUANTUM_NORMAL_TIME_CRITICAL else q
  let q :=
    if s.displayServer.initialized = TRUE ∧ t.tid = s.displayServer.tid then
      QUANTUM_SYSTEM_TIME_CRITICAL
    else q
  if t.isResponder = TRUE then QUANTUM_SYSTEM_TIME_CRITICAL else q

/-- What is set in the structure of a thread that is linked. -/
def scheduled (s : SchedState) (t : Thread) : Thread :=
  { t with
    runningCount := 0
    runningCountMs := 0
    scheduledCount := ulongAdd t.scheduledCount 1
    basePriority := balancePriority t.basePriority
    priority := balancePriority t.basePriority
    quantum := quantumFor s t
    isResponder := if t.isResponder = TRUE then FALSE else t.isResponder }

/-- "READY threads": the thread is linked behind the last one. -/
def linkReady (tmpThread : ℕ) (s : SchedState) : Except Fault SchedState := do
  let t ← s.threads.deref tmpThread
  if t.Valid ∧ t.state = .READY then do
    let p ← s.threads.deref s.p6q
    let s := s.setThread s.p6q { p with next := tmpThread }
    let s := { s with p6q := tmpThread }
    let t ← s.threads.deref tmpThread
    .ok (s.setThread tmpThread (scheduled s t))
  else .ok s

/-- "Exit": a thread that is about to exit becomes a zombie, unless it is the idle thread. -/
def finishExit (tmpThread : ℕ) (s : SchedState) : Except Fault SchedState := do
  let t ← s.threads.deref tmpThread
  if t.magic = 1234 ∧ t.exitInProgress = TRUE ∧ tmpThread ≠ s.idleThread then
    let s := s.setThread tmpThread { t with state := .ZOMBIE }
    if t.tid = s.foregroundThread then .ok { s with foregroundThread := -1 } else .ok s
  else .ok s

/-- "Credits": two credits make the quantum longer. -/
def useCredits (tmpThread : ℕ) (s : SchedState) : Except Fault SchedState := do
  let t ← s.threads.deref tmpThread
  if t.magic = 1234 ∧ t.credits ≥ 2 then
    .ok (s.setThread tmpThread { t with quantum := ulongAdd t.quantum 1, credits := 0 })
  else .ok s

/-- The body of the loop, for the slot `i` of `threadList`. -/
def rrSlot (s : SchedState) (i : ℕ) : Except Fault SchedState :=
  let tmpThread := s.threads.threadList i
  if tmpThread = 0 then .ok s
  else do
    let s ← wakeWaiting tmpThread s
    let (tmpThread, s) ← reapZombie tmpThread s
    let s ← linkReady tmpThread s
    let s ← finishExit tmpThread s
    useCredits tmpThread s

/-! ## The round -/

/-- The slots `start`, `start + 1`, … of `threadList`. -/
def slotsFrom (start : ℕ) : List ℕ := List.range' start (THREAD_COUNT_MAX.toNat - start)

/-- The idle thread becomes the head of the current queue and of `p6q`. -/
def setHead (ptr : ℕ) (s : SchedState) : SchedState :=
  let s := (qlistSetElement SCHED_CURRENT_QUEUE ptr { s with currentq := ptr }).2
  (qlistSetElement SCHED_P6_QUEUE ptr { s with p6q := ptr }).2

/-- "Wake up init thread": what is woken is the thread of the cursor, which has no value here. -/
def wakeInit (garbage : ℕ) (idle : Thread) (s : SchedState) : Except Fault SchedState :=
  if s.jiffies ≥ idle.wakeJiffy then do
    let t ← s.threads.deref garbage
    doThreadReady t.tid s
  else .ok s

/-- "Finalizing the list", and the counter of the rounds. -/
def finishRound (s : SchedState) : Except Fault SchedState := do
  let last ← s.threads.deref s.p6q
  let s := s.setThread s.p6q { last with next := 0 }
  .ok { s with info := { s.info with rrRoundCounter := ulongAdd s.info.rrRoundCounter 1 } }

/-- The idle thread's priority and quantum for the round. -/
def stabilized (idle : Thread) : Thread :=
  { idle with
    basePriority := PRIORITY_SYSTEM_THRESHOLD
    priority := PRIORITY_SYSTEM_THRESHOLD
    quantum := QUANTUM_NORMAL_THRESHOLD }

/-- The queues before the round. -/
def clearQueues (s : SchedState) : SchedState :=
  { s with p1q := 0, p2q := 0, p3q := 0, p4q := 0, p5q := 0, p6q := 0, currentq := 0 }

/-- `__scheduler_rr`, with what is in `TmpThread` before the loop. -/
def schedulerRr (garbage : ℕ) (s : SchedState) : Except Fault (ℤ × SchedState) :=
  let s := clearQueues s
  if s.info.initialized ≠ TRUE then .error (.panic "__scheduler_rr: Scheduler not initialized\n")
  else if s.info.policy ≠ SCHED_POLICY_RR then .error (.panic "__scheduler_rr: Scheduler policy\n")
  else
    let ptr := s.idleThread
    if ptr = 0 then .error (.panic "__scheduler_rr: Idle\n")
    else do
      let idle ← s.threads.deref ptr
      if ¬ idle.Valid then .error (.panic "__scheduler_rr: Idle validation\n")
      else if ptr ≠ s.initThread then .error (.panic "__scheduler_rr: Idle != InitThread\n")
      else
        let s := s.setThread ptr (stabilized idle)
        let firstTid := idle.tid
        if firstTid ≠ SYSTEM_THRESHOLD_TID then .error (.panic "__scheduler_rr: FirstTID\n")
        else
          let s := setHead ptr s
          if idle.tid ≠ 0 then .error (.panic "sched: Idle->tid != INIT_TID\n")
          else if idle.tid ≠ INIT_TID then .error (.panic "sched: Idle->tid != INIT_TID\n")
          else do
            let s ← wakeInit garbage idle s
            let s ← runs rrSlot s (slotsFrom (idle.tid + 1).toNat)
            let s ← finishRound s
            .ok (firstTid, s)

/-- `scheduler`. -/
def scheduler (garbage : ℕ) (s : SchedState) : Except Fault (ℤ × SchedState) :=
  let policy := s.info.policy
  if s.systemState ≠ SYSTEM_RUNNING then .error (.panic "scheduler: system_state\n")
  else
    let s := { s with systemState := SYSTEM_SCHEDULING }
    if s.threadsCounter = 0 then
      .error (.panic "scheduler: UPProcessorBlock.threads_counter == 0\n")
    else if s.info.initialized ≠ TRUE then .error (.panic "scheduler: SchedulerInfo.initialized\n")
    else do
      let (firstTid, s) ←
        if policy = SCHED_POLICY_RR then schedulerRr garbage s
        else if policy = SCHED_POLICY_QUEUES then
          .error (.panic "scheduler: Policy not supported\n")
        else .error (.panic "scheduler: Invalid policy\n")
      let ptr := s.idleThread
      if ptr = 0 then .error (.panic "scheduler: Idle\n")
      else do
        let idle ← s.threads.deref ptr
        if idle.magic ≠ 1234 then .error (.panic "scheduler: Idle validation\n")
        else if firstTid ≠ idle.tid then .error (.panic "scheduler: first_tid != Idle->tid\n")
        else .ok (firstTid, { s with systemState := SYSTEM_RUNNING })

end Gramado
