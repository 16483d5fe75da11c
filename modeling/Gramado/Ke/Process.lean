import Gramado.Fs.ReadWrite
import Gramado.Ke.Sleep

/-!
# Processes

`struct process_d` of `core/ke/intake/process.h` with the fields that `copy_process` and the task
switch use, what these two need of a thread beyond `Thread`, and the state in which they work.

File structures are only met here as addresses; all that is looked at is how many descriptors they
count.
-/

namespace Gramado

/-- `NUMBER_OF_FILES`. -/
def NUMBER_OF_FILES : ℕ := 32

/-- `GRAMADO_PID_KERNEL`. -/
def GRAMADO_PID_KERNEL : ℤ := 0

/-- `GRAMADO_PID_BASE`. -/
def GRAMADO_PID_BASE : ℤ := GRAMADO_PID_KERNEL

/-- `RING3`. -/
def RING3 : ℕ := 3

/-- `USER_THRESHOLD_TID`. -/
def USER_THRESHOLD_TID : ℕ := 100

/-- `PRIORITY_NORMAL_THRESHOLD`, that is `PRIORITY_P1`. -/
def PRIORITY_NORMAL_THRESHOLD : ℕ := 1

/-- `QUANTUM_SYSTEM_THRESHOLD`, that is `QUANTUM_Q4`. -/
def QUANTUM_SYSTEM_THRESHOLD : ℕ := 4

/-- `QUANTUM_MAX`, that is `QUANTUM_Q6`. -/
def QUANTUM_MAX : ℕ := 6

/-- `thread_type_t`. -/
inductive ThreadType where
  | THREAD_TYPE_NULL
  | THREAD_TYPE_SYSTEM
  | THREAD_TYPE_INTERACTIVE
  | THREAD_TYPE_BATCH
  deriving DecidableEq, Repr

/-- The fields of `struct thread_d` that tell whose thread it is and with what rights it runs. -/
structure OwnerFields where
  ownerPid : ℤ
  ownerProcess : ℕ
  cpl : ℕ
  rflagsInitialIopl : ℕ
  contextCs : ℕ
  type : ThreadType
  newClone : ℤ

/-- `struct process_d`.  `control` is the address of a thread. -/
structure ProcessD extends Process where
  pid : ℤ
  ppid : ℤ
  cpl : ℕ
  control : ℕ
  pml4VA : ℕ
  pdpt0VA : ℕ
  pd0VA : ℕ
  image : ℕ
  imagePA : ℕ
  childImage : ℕ
  childImagePA : ℕ
  childStack : ℕ
  tty : ℕ
  heapStart : ℕ
  heapSize : ℕ
  heapEnd : ℕ
  connectors : ℕ → ℤ
  isTerminal : ℤ
  isChildOfTerminal : ℤ
  processname : List UInt8

/-- The state of the threads, the other fields of the threads and the processes by their address,
`processList`, `fd_counter` of the files by their address, and the globals that go with them. -/
structure ProcessState extends SleepState where
  owner : ℕ → OwnerFields
  process : ℕ → ProcessD
  processList : ℕ → ℕ
  currentProcess : ℤ
  fdCounter : ℕ → ℤ
  stdin : ℕ
  stdout : ℕ
  stderr : ℕ
  heappoolVa : ℕ
  heapCount : ℕ
  heapSize : ℕ
  timeoutThread : ℕ
  schedulerStatus : ℕ

namespace ProcessState

/-- The structure of a thread is replaced. -/
def putThread (s : ProcessState) (ptr : ℕ) (t : Thread) : ProcessState :=
  { s with sched := s.sched.setThread ptr t }

/-- The other fields of a thread are replaced. -/
def putFields (s : ProcessState) (ptr : ℕ) (f : SleepFields) : ProcessState :=
  { s with fields := Function.update s.fields ptr f }

/-- Whose thread it is. -/
def putOwner (s : ProcessState) (ptr : ℕ) (o : OwnerFields) : ProcessState :=
  { s with owner := Function.update s.owner ptr o }

/-- The structure of a process is replaced. -/
def putProcess (s : ProcessState) (ptr : ℕ) (p : ProcessD) : ProcessState :=
  { s with process := Function.update s.process ptr p }

end ProcessState

/-- `if (c) panic(message)`. -/
def panicIf (c : Prop) [Decidable c] (message : String) : Except Fault Unit :=
  if c then .error (.panic message) else .ok ()

/-- What comes behind such a check is only reached past it. -/
@[simp] lemma panicIf_bind_ok {α : Type} {c : Prop} [Decidable c] {message : String}
    {f : Unit → Except Fault α} {a : α} :
    (panicIf c message >>= f) = .ok a ↔ ¬c ∧ f () = .ok a := by
  by_cases hc : c
  · simp [panicIf, hc]
  · simp [panicIf, hc]

end Gramado
