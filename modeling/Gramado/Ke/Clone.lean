import Gramado.Lib.Scan
import Gramado.Ke.Process

/-!
# Cloning a process

`copy_process` and `copy_process_struct` of `core/ke/intake/clone.c`, with the functions that make
the new process and its control thread: `create_and_initialize_process_object`, `getNewPID` and
`alloc_memory_for_image_and_stack` of `process.c`, `copy_thread_struct` and `create_thread` of
`thread.c`, and `schediSelectForExecution` of `schedi.c`.

What the allocators, the paging functions and the file system answer stands in a `CloneEnv`; 0 is
the null pointer.  The contents of the pages, the context of the threads and the security fields of
a process are written here and not read; they are left out.  So is the store of
`create_and_initialize_process_object` through the null `control` of the new process: the first
page is mapped, and nothing here reads it.
-/

namespace Gramado

/-- What `fs_load_image` leaves behind: its result, the first bytes at the address, and the name,
which it converts in place. -/
structure ImageLoad where
  status : ℤ
  head : ℕ → UInt8
  name : List UInt8

/-- The answers of the allocators, of the paging functions and of the loader. -/
structure CloneEnv where
  /-- `CloneKernelPML4()`. -/
  pml4 : ℕ
  /-- `kmalloc(sizeof(struct process_d))`. -/
  processObject : ℕ
  /-- `tty_create(..)`. -/
  tty : ℕ
  /-- `slab_1MB_allocator()`. -/
  slab : ℕ
  /-- `mmAllocPages(..)` for the image. -/
  imagePages : ℕ
  /-- `mmAllocPages(..)` for the stack. -/
  stackPages : ℕ
  /-- `new_file(ObjectTypeFile)`, twice. -/
  connector1 : ℕ
  connector2 : ℕ
  /-- `kmalloc(sizeof(struct thread_d))`. -/
  threadObject : ℕ
  /-- One of the `kmalloc(sizeof(struct msg_d))` answers null. -/
  noMessages : Bool
  /-- `kmalloc(sizeof(struct rect_d))`. -/
  rectObject : ℕ
  /-- `get_table_pointer_va()`. -/
  pageTable : ℕ
  /-- `CloneKernelPD0()`. -/
  pd0 : ℕ
  /-- `CloneKernelPDPT0()`. -/
  pdpt0 : ℕ
  /-- `virtual_to_physical(.., gKernelPML4Address)`. -/
  physical : ℕ → ℕ
  /-- `fs_load_image(..)`. -/
  fsLoadImage : List UInt8 → ℕ → Except Fault ImageLoad

/-! ## The process -/

/-- `getNewPID`. -/
def getNewPid (s : ProcessState) : ℤ :=
  match Scan.forward (fun i => s.processList i = 0) PROCESS_COUNT_MAX.toNat 0 with
  | some i => i
  | none => -1

/-- The structure that `create_and_initialize_process_object` fills in. -/
def newProcess (pid : ℤ) (env : CloneEnv) (s : ProcessState) : ProcessD where
  used := TRUE
  magic := 1234
  objects _ := 0
  pid := pid
  ppid := -1
  cpl := 0
  control := 0
  pml4VA := 0
  pdpt0VA := 0
  pd0VA := 0
  image := CONTROLTHREAD_BASE
  imagePA := 0
  childImage := 0
  childImagePA := 0
  childStack := 0
  tty := env.tty
  heapStart := ulongAdd s.heappoolVa (s.heapCount * s.heapSize % 2 ^ 64)
  heapSize := s.heapSize
  heapEnd := ulongAdd (ulongAdd s.heappoolVa (s.heapCount * s.heapSize % 2 ^ 64)) s.heapSize
  connectors _ := 0
  isTerminal := FALSE
  isChildOfTerminal := FALSE
  processname := []

/-- The state with a new process under the number `pid`. -/
def addProcess (env : CloneEnv) (pid : ℤ) (s : ProcessState) : ProcessState :=
  { s.putProcess env.processObject (newProcess pid env s) with
    heapCount := s.heapCount + 1
    processList := Function.update s.processList pid.toNat env.processObject }

/-- `create_and_initialize_process_object`; `none` is the null pointer. -/
def createAndInitializeProcessObject (env : CloneEnv) (s : ProcessState) :
    Except Fault (Option ProcessState) :=
  if env.processObject = 0 then .ok none
  else
    let newPid := getNewPid s
    if newPid < GRAMADO_PID_BASE ∨ newPid ≥ PROCESS_COUNT_MAX then .ok none
    else do
      panicIf (env.tty = 0) "create_and_initialize_process_object: tty_create\n"
      panicIf (s.heappoolVa = 0) "create_and_initialize_process_object: g_heappool_va\n"
      panicIf (s.heapCount = 0) "create_and_initialize_process_object: g_heap_count\n"
      panicIf (s.heapSize = 0) "create_and_initialize_process_object: g_heap_size\n"
      .ok (some (addProcess env newPid s))

/-- Where the image goes: the pages are asked only when the slab has no more. -/
def CloneEnv.newBase (env : CloneEnv) : ℕ := if env.slab = 0 then env.imagePages else env.slab

/-- `alloc_memory_for_image_and_stack`. -/
def allocMemoryForImageAndStack (env : CloneEnv) (process : ℕ) (s : ProcessState) :
    Except Fault (ℤ × ProcessState) := do
  panicIf (process = 0) "alloc_memory_for_image_and_stack: process\n"
  let p := s.process process
  panicIf (p.magic ≠ 1234) "alloc_memory_for_image_and_stack: process validation\n"
  panicIf (env.newBase = 0) "alloc_memory_for_image_and_stack: __new_base\n"
  panicIf (env.stackPages = 0) "alloc_memory_for_image_and_stack: __new_stack\n"
  panicIf (env.physical env.newBase = 0) "alloc_memory_for_image_and_stack: new_base_PA\n"
  if env.physical env.stackPages = 0 then .ok (-1, s)
  else
    let p :=
      { p with
        childImage := env.newBase
        childStack := env.stackPages
        childImagePA := env.physical env.newBase }
    .ok (0, s.putProcess process p)

/-! ## The descriptors -/

/-- The descriptors that the clone has after the loop: the parent's, with the three streams of the
kernel in front. -/
def inheritedObjects (s : ProcessState) (objects own : ℕ → ℕ) : ℕ → ℕ := fun i =>
  if i = 0 then s.stdin
  else if i = 1 then s.stdout
  else if i = 2 then s.stderr
  else if i < NUMBER_OF_FILES then objects i
  else own i

/-- `__f->fd_counter++` for every descriptor that is copied. -/
def inheritCounts (objects : ℕ → ℕ) (fdCounter : ℕ → ℤ) : ℕ → ℤ :=
  (List.range NUMBER_OF_FILES).foldl
    (fun counter i =>
      if objects i ≠ 0 then Function.update counter (objects i) (counter (objects i) + 1)
      else counter)
    fdCounter

/-- The first empty spot among the descriptors 3, …, 29, or 0. -/
def emptySpot (objects : ℕ → ℕ) : ℕ :=
  match Scan.forward (fun i => objects i = 0) 27 3 with
  | some i => i
  | none => 0

/-- The two connectors get the first two empty spots; a spot that is taken is reserved with 216. -/
def putConnectors (env : CloneEnv) (p : ProcessD) : Except Fault ProcessD := do
  let spot1 := emptySpot p.objects
  let objects := if spot1 = 0 then p.objects else Function.update p.objects spot1 216
  let spot2 := emptySpot objects
  panicIf (spot1 = 0) "copy_process_struct: No spot1 for connector1\n"
  panicIf (spot2 = 0) "copy_process_struct: No spot2 for connector1\n"
  .ok { p with
    objects := Function.update (Function.update objects spot1 env.connector1) spot2 env.connector2
    connectors := Function.update (Function.update p.connectors 0 spot1) 1 spot2 }

/-- A terminal and its clone share two new files. -/
def createConnectors (env : CloneEnv) (p1 p2 : ℕ) (s : ProcessState) :
    Except Fault ProcessState := do
  panicIf (env.connector1 = 0) "copy_process_struct: connector1\n"
  panicIf (env.connector2 = 0) "copy_process_struct: connector2\n"
  let s := { s with
    fdCounter := Function.update (Function.update s.fdCounter env.connector1 1) env.connector2 1 }
  let father ← putConnectors env (s.process p1)
  let s := s.putProcess p1 { father with isTerminal := TRUE }
  let child ← putConnectors env (s.process p2)
  .ok (s.putProcess p2 { child with isChildOfTerminal := TRUE })

/-- The clone's structure and the counts after the copy. -/
def inherit (p1 p2 : ℕ) (s : ProcessState) : ProcessState :=
  let process1 := s.process p1
  let process2 := s.process p2
  let s := s.putProcess p2
    { process2 with
      ppid := process1.pid
      used := process1.used
      magic := process1.magic
      image := process1.childImage
      imagePA := process1.childImagePA
      childImage := 0
      childImagePA := 0
      cpl := process1.cpl
      objects := inheritedObjects s process1.objects process2.objects }
  { s with fdCounter := inheritCounts process1.objects s.fdCounter }

/-- `copy_process_struct`. -/
def copyProcessStruct (env : CloneEnv) (p1 p2 : ℕ) (s : ProcessState) :
    Except Fault (ℤ × ProcessState) :=
  let process1 := s.process p1
  let process2 := s.process p2
  if p1 = 0 then .ok (1, s)
  else if process1.used ≠ TRUE ∨ process1.magic ≠ 1234 then .ok (1, s)
  else if p2 = 0 then .ok (1, s)
  else if process2.used ≠ TRUE ∨ process2.magic ≠ 1234 then .ok (1, s)
  else if process1.isTerminal = TRUE then do
    let s ← createConnectors env p1 p2 (inherit p1 p2 s)
    .ok (0, s)
  else .ok (0, inherit p1 p2 s)

/-! ## The control thread -/

/-- An entry of a new thread's message queue. -/
def newMsg : MsgD := ⟨TRUE, 1234, ⟨0, 0, 0, 0, 0, 0, 0, 0⟩⟩

/-- The structure that `create_thread` fills in. -/
def createdThread (tid : ℤ) : Thread :=
  { newThread tid with
    basePriority := PRIORITY_SYSTEM_THRESHOLD
    priority := PRIORITY_SYSTEM_THRESHOLD
    quantum := QUANTUM_NORMAL_THRESHOLD
    msgQueue := fun _ => some newMsg }

/-- The state with a new thread in the slot `i` of `threadList`. -/
def addThread (env : CloneEnv) (pid : ℤ) (cpl process i : ℕ) (s : ProcessState) : ProcessState :=
  let s := s.putFields env.threadObject ⟨FALSE, FALSE, 0, FALSE, 0⟩
  let s := s.putOwner env.threadObject
    ⟨pid, process, cpl, if cpl = RING3 then 3 else 0, if cpl = RING3 then 0x1B else 8,
      .THREAD_TYPE_SYSTEM, FALSE⟩
  let s := s.putThread env.threadObject (createdThread i)
  { s with
    sched := { s.sched with
      threads := { s.sched.threads with
        threadList := Function.update s.sched.threads.threadList i env.threadObject }
      threadsCounter := s.sched.threadsCounter + 1 } }

/-- `create_thread`; `none` is the null pointer. -/
def createThread (env : CloneEnv) (pid : ℤ) (cpl : ℕ) (s : ProcessState) :
    Except Fault (Option ProcessState) := do
  panicIf (pid < 0) "create_thread: [ERROR] pid\n"
  panicIf (cpl ≠ 0 ∧ cpl ≠ RING3) "create_thread: [ERROR] Invalid cpl\n"
  if s.currentThread < 0 ∨ s.currentThread ≥ THREAD_COUNT_MAX then .ok none
  else do
    panicIf (pid < 0 ∨ pid ≥ PROCESS_COUNT_MAX) "create_thread: ProcessID"
    let process := s.processList pid.toNat
    panicIf (process = 0) "create_thread: Process\n"
    panicIf ((s.process process).used ≠ TRUE) "create_thread: Process->used\n"
    panicIf ((s.process process).magic ≠ 1234) "create_thread: Process->magic\n"
    panicIf (env.threadObject = 0) "create_thread: Thread\n"
    panicIf (env.noMessages) "__ps_initialize_thread_common_elements: tmp"
    match Scan.forward (fun i => s.sched.threads.threadList i = 0)
        (THREAD_COUNT_MAX.toNat - USER_THRESHOLD_TID) USER_THRESHOLD_TID with
    | none => .error (.panic "create_thread: [FAIL] No more slots\n")
    | some i => do
        panicIf (env.rectObject = 0) "create_thread: r\n"
        let s := addThread env pid cpl process i s
        panicIf ((s.sched.threadsCounter : ℤ) ≥ THREAD_COUNT_MAX)
          "create_thread: [FAIL] UPProcessorBlock.threads_counter \n"
        .ok (some s)

/-- A quantum between `QUANTUM_MIN` and `QUANTUM_MAX`. -/
def clampQuantum (quantum : ℕ) : ℕ :=
  let q := if quantum < QUANTUM_MIN then QUANTUM_MIN else quantum
  if q > QUANTUM_MAX then QUANTUM_MAX else q

/-- What the clone of a thread takes over. -/
def copiedThread (father clone : Thread) : Thread :=
  { clone with
    basePriority := father.basePriority
    priority := father.priority
    state := .BLOCKED
    quantum := clampQuantum father.quantum
    runningCount := 0
    runningCountMs := 0
    scheduledCount := 0
    waitingForTimeout := FALSE }

/-- The clone at `env.threadObject` takes over what it is to share with its father. -/
def takeOver (env : CloneEnv) (thread : ℕ) (father clone : Thread) (s : ProcessState) :
    ProcessState :=
  let owner := s.owner thread
  let s := s.putThread env.threadObject (copiedThread father clone)
  let s := s.putFields env.threadObject
    { s.fields env.threadObject with
      saved := (s.fields thread).saved
      yieldInProgress := FALSE
      sleepInProgress := FALSE
      desiredSleepMs := 0 }
  s.putOwner env.threadObject
    { s.owner env.threadObject with
      type := owner.type
      rflagsInitialIopl := owner.rflagsInitialIopl
      contextCs := owner.contextCs % 2 ^ 16
      ownerProcess := owner.ownerProcess }

/-- `copy_thread_struct`. -/
def copyThreadStruct (env : CloneEnv) (thread : ℕ) (s : ProcessState) :
    Except Fault ProcessState := do
  panicIf (thread = 0) "copy_thread_struct: father\n"
  let father ← s.sched.threads.deref thread
  let owner := s.owner thread
  panicIf (father.magic ≠ 1234) "copy_thread_struct: father validation\n"
  panicIf (owner.cpl ≠ RING3) "copy_thread_struct: father_cpl!=RING3\n"
  match ← createThread env owner.ownerPid owner.cpl s with
  | none => .error (.panic "copy_thread_struct: clone\n")
  | some s => do
      let clone ← s.sched.threads.deref env.threadObject
      panicIf (clone.magic ≠ 1234) "copy_thread_struct: clone validation\n"
      panicIf ((s.owner env.threadObject).cpl ≠ RING3) "copy_thread_struct: clone_cpl!=RING3\n"
      panicIf (owner.rflagsInitialIopl ≠ 3) "copy_thread_struct: clone rflags_initial_iopl\n"
      panicIf (owner.contextCs % 4 ≠ 3) "copy_thread_struct: cpl\n"
      .ok (takeOver env thread father clone s)

/-- `schediSelectForExecution`. -/
def schediSelectForExecution (thread : ℕ) (s : ProcessState) : Except Fault ProcessState :=
  if thread = 0 then .ok s
  else do
    let t ← s.sched.threads.deref thread
    .ok (s.putThread thread { t with state := .STANDBY })

/-! ## The image -/

/-- `fsCheckELFFile`, with `elfCheckSignature`, on the bytes at the address. -/
def fsCheckElfFile (address : ℕ) (buf : ℕ → UInt8) : ℤ :=
  if address = 0 then 0
  else if buf 0 ≠ 0x7F ∨ buf 1 ≠ 0x45 ∨ buf 2 ≠ 0x4C ∨ buf 3 ≠ 0x46 then -1
  else 0

/-- The page tables of the clone, from the `pt` on: only what stops the system shows here. -/
def installPages (env : CloneEnv) (child : ℕ) (s : ProcessState) : Except Fault ProcessState := do
  let p := s.process child
  panicIf (p.pml4VA = 0) "copy_process: [2nd time] child_process->pml4_VA\n"
  panicIf (p.pdpt0VA = 0) "copy_process: [2nd time] child_process->pdpt0_VA\n"
  panicIf (p.pd0VA = 0) "copy_process: [2nd time] child_process->pd0_VA\n"
  panicIf (env.pageTable = 0) "copy_process: [FAIL] ptVA\n"
  panicIf (env.pd0 = 0) "copy_process: child_process->pd0_VA==0\n"
  panicIf (env.physical env.pd0 = 0) "copy_process: child_process->pd0_PA==0\n"
  panicIf (env.pdpt0 = 0) "copy_process: child_process->pdpt0_VA==0\n"
  panicIf (env.physical env.pdpt0 = 0) "copy_process: child_process->pdpt0_PA==0\n"
  .ok (s.putProcess child
    { p with pd0VA := env.pd0, image := CONTROLTHREAD_BASE, pdpt0VA := env.pdpt0 })

/-- The name of the clone; a longer one runs over the end of `__processname`. -/
def setProcessName (child : ℕ) (name : List UInt8) (s : ProcessState) :
    Except Fault ProcessState :=
  if name.length ≥ 64 then .error .badPointer
  else .ok (s.putProcess child { s.process child with processname := name })

/-! ## The system call -/

/-- "Balance": the priority and the quantum of the parent's thread and of the clone's. -/
def balanced (system : Bool) (t : Thread) : Thread :=
  { t with
    priority := if system then PRIORITY_SYSTEM_THRESHOLD else PRIORITY_NORMAL_THRESHOLD
    quantum := if system then QUANTUM_SYSTEM_THRESHOLD else QUANTUM_NORMAL_THRESHOLD }

/-- "Balance", for both threads. -/
def balance (parent child : ℕ) (s : ProcessState) : Except Fault ProcessState := do
  let t ← s.sched.threads.deref parent
  let system := (s.owner parent).type = .THREAD_TYPE_SYSTEM ∨
    (s.owner child).type = .THREAD_TYPE_SYSTEM
  let s := s.putThread parent (balanced system t)
  let t ← s.sched.threads.deref child
  .ok (s.putThread child (balanced system t))

/-- The part of `copy_process` that looks at the parent's control thread, and makes it `RUNNING`. -/
def checkParentThread (pid : ℤ) (parent : ℕ) (s : ProcessState) : Except Fault ProcessState := do
  let p := s.process parent
  panicIf (p.control = 0) "copy_process: parent_thread\n"
  let t ← s.sched.threads.deref p.control
  panicIf (t.magic ≠ 1234) "copy_process: parent_thread validation\n"
  panicIf ((s.owner p.control).cpl ≠ RING3) "copy_process: parent_thread->cpl\n"
  let s := s.putThread p.control { t with state := .RUNNING }
  panicIf ((s.owner p.control).ownerPid ≠ p.pid) "copy_process: parent_thread->owner_pid\n"
  panicIf (s.currentThread ≠ t.tid) "copy_process: current_thread mismatched\n"
  panicIf (pid ≠ p.pid) "copy_process: parent_pid mismatched\n"
  panicIf (p.pid < 0 ∨ p.pid ≥ PROCESS_COUNT_MAX) "copy_process: parent_process->pid limits\n"
  panicIf (s.currentProcess ≠ p.pid) "copy_process: current_process != parent_process->pid\n"
  .ok s

/-- What follows a successful load: the page tables, the name, and the child is put in line. -/
def finishClone (env : CloneEnv) (parent child : ℕ) (name : List UInt8) (s : ProcessState) :
    Except Fault ProcessState := do
  let s ← installPages env child s
  let s ← setProcessName child name s
  let thread := env.threadObject
  let s := s.putFields thread { s.fields thread with saved := FALSE }
  let s := s.putOwner thread { s.owner thread with newClone := TRUE }
  let control := (s.process parent).control
  let s ← balance control thread s
  let s ← schediSelectForExecution thread s
  let t ← s.sched.threads.deref control
  let s := { s with currentThread := t.tid }
  panicIf (s.currentThread < 0 ∨ s.currentThread ≥ THREAD_COUNT_MAX)
    "copy_process: current_thread limits\n"
  .ok s

/-- The image of the clone: it is loaded and its signature is looked at. -/
def loadClone (env : CloneEnv) (parent child : ℕ) (filename : List UInt8) (s : ProcessState) :
    Except Fault (ℤ × ProcessState) := do
  let p := s.process parent
  let c := { s.process child with image := p.childImage, imagePA := p.childImagePA }
  let s := s.putProcess child c
  panicIf (c.image = 0) "copy_process: [FAIL] child_process->Image\n"
  panicIf (c.imagePA = 0) "copy_process: [FAIL] child_process->ImagePA\n"
  let load ← env.fsLoadImage filename c.image
  if load.status ≠ 0 then .ok (-1, s)
  else if fsCheckElfFile c.image load.head < 0 then .ok (-1, s)
  else do
    let s ← finishClone env parent child load.name s
    .ok (c.pid, s)

/-- From `do_clone` on. -/
def doClone (env : CloneEnv) (pid : ℤ) (parent : ℕ) (filename : List UInt8) (s : ProcessState) :
    Except Fault (ℤ × ProcessState) := do
  match ← createAndInitializeProcessObject env s with
  | none => .ok (-1, s)
  | some s => do
      let child := env.processObject
      let p := s.process parent
      let c := s.process child
      if c.magic ≠ 1234 then .ok (-1, s)
      else do
        panicIf (c.pid < 0 ∨ c.pid ≥ PROCESS_COUNT_MAX) "copy_process: child_pid limits\n"
        panicIf (c.pid = pid) "copy_process: child_pid == parent_pid\n"
        panicIf (c.pid = GRAMADO_PID_KERNEL) "copy_process: child_pid == GRAMADO_PID_KERNEL\n"
        let s := s.putProcess child
          { c with pml4VA := env.pml4, pdpt0VA := p.pdpt0VA, pd0VA := p.pd0VA }
        let (status, s) ← allocMemoryForImageAndStack env parent s
        panicIf (status ≠ 0) "copy_process: __alloc_memory_for_image_and_stack\n"
        let (status, s) ← copyProcessStruct env parent child s
        panicIf (status ≠ 0) "copy_process: [FAIL] copy_process_struct\n"
        let s ← copyThreadStruct env p.control s
        let s := s.putProcess child { s.process child with control := env.threadObject }
        let s := s.putOwner env.threadObject
          { s.owner env.threadObject with ownerProcess := child, ownerPid := c.pid }
        loadClone env parent child filename s

/-- `copy_process`. -/
def copyProcess (env : CloneEnv) (filename : List UInt8) (pid : ℤ) (s : ProcessState) :
    Except Fault (ℤ × ProcessState) := do
  panicIf (env.pml4 = 0) "copy_process: _pml4\n"
  if pid < 0 ∨ pid ≥ PROCESS_COUNT_MAX then .ok (-1, s)
  else
    let parent := s.processList pid.toNat
    let p := s.process parent
    if parent = 0 then .ok (-1, s)
    else if p.used ≠ TRUE ∨ p.magic ≠ 1234 then .ok (-1, s)
    else do
      panicIf (p.cpl ≠ RING3) "copy_process: cpl != RING3\n"
      if p.pml4VA = 0 then .ok (-1, s)
      else if p.pdpt0VA = 0 then .ok (-1, s)
      else if p.pd0VA = 0 then .ok (-1, s)
      else do
        let s ← checkParentThread pid parent s
        doClone env pid parent filename s

end Gramado
