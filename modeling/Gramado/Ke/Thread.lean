import Gramado.Core.CTypes

/-!
# Threads

`struct thread_d` of `core/ke/intake/thread.h` with the fields that the message functions and the
scheduler use, and the table `threadList` that names the threads by their tid.

A pointer to a thread is an address in `ℕ`, with 0 for `NULL`; `Threads.deref` follows it and faults
where no structure is.
-/

namespace Gramado

/-- `THREAD_COUNT_MAX`. -/
def THREAD_COUNT_MAX : ℤ := 1024

/-- `MSG_QUEUE_MAX`. -/
def MSG_QUEUE_MAX : ℕ := 64

/-- `thread_state_t`. -/
inductive ThreadState where
  | INITIALIZED
  | STANDBY
  | ZOMBIE
  | DEAD
  | READY
  | RUNNING
  | WAITING
  | BLOCKED
  deriving DecidableEq, Repr

/-- What a message carries: the fields of `struct msg_d` that a reader gets. -/
structure Message where
  opaqueWindow : ℕ
  msg : ℤ
  long1 : ℕ
  long2 : ℕ
  long3 : ℕ
  long4 : ℕ
  senderTid : ℤ
  receiverTid : ℤ
  deriving DecidableEq, Repr

/-- `struct msg_d`: an entry of a thread's message queue. -/
structure MsgD where
  used : ℤ
  magic : ℤ
  message : Message
  deriving DecidableEq, Repr

/-- `struct thread_d`.  Every entry of the queue has its own `struct msg_d`; `none` is `NULL`. -/
structure Thread where
  used : ℤ
  magic : ℤ
  tid : ℤ
  state : ThreadState
  basePriority : ℕ
  priority : ℕ
  quantum : ℕ
  credits : ℕ
  runningCount : ℕ
  runningCountMs : ℕ
  scheduledCount : ℕ
  readyJiffy : ℕ
  wakeJiffy : ℕ
  alarm : ℕ
  exitInProgress : ℤ
  waitingForTimeout : ℤ
  isResponder : ℤ
  msgQueue : ℕ → Option MsgD
  msgQueueHead : ℕ
  msgQueueTail : ℕ
  next : ℕ

/-- A structure with the given number, as `memset` leaves the rest of it. -/
def newThread (tid : ℤ) : Thread where
  used := TRUE
  magic := 1234
  tid := tid
  state := .INITIALIZED
  basePriority := 0
  priority := 0
  quantum := 0
  credits := 0
  runningCount := 0
  runningCountMs := 0
  scheduledCount := 0
  readyJiffy := 0
  wakeJiffy := 0
  alarm := 0
  exitInProgress := FALSE
  waitingForTimeout := FALSE
  isResponder := FALSE
  msgQueue _ := none
  msgQueueHead := 0
  msgQueueTail := 0
  next := 0

/-- The thread structures by their address, and `threadList`. -/
structure Threads where
  thread : ℕ → Option Thread
  threadList : ℕ → ℕ

namespace Threads

/-- The structure behind a pointer. -/
def deref (s : Threads) (ptr : ℕ) : Except Fault Thread :=
  match s.thread ptr with
  | some t => .ok t
  | none => .error .badPointer

/-- The structure at an address is replaced. -/
def set (s : Threads) (ptr : ℕ) (t : Thread) : Threads :=
  { s with thread := Function.update s.thread ptr (some t) }

variable {s : Threads} {ptr q : ℕ} {t u : Thread}

lemma deref_eq_ok : s.deref ptr = .ok t ↔ s.thread ptr = some t := by
  simp only [deref]
  cases s.thread ptr <;> simp

@[simp] lemma set_threadList : (s.set ptr t).threadList = s.threadList := rfl

@[simp] lemma set_thread_same : (s.set ptr t).thread ptr = some t :=
  Function.update_self ..

@[simp] lemma set_thread_of_ne (h : q ≠ ptr) : (s.set ptr t).thread q = s.thread q :=
  Function.update_of_ne h ..

@[simp] lemma set_set : (s.set ptr t).set ptr u = s.set ptr u := by
  simp only [set, Function.update_idem]

end Threads

end Gramado
