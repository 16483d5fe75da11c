import Gramado.Ke.Clone

/-!
# The parts of a clone

When each part of `copy_process` returns, and what it has done then.
-/

namespace Gramado

/-! ## The parts of the call -/

section Parts

variable {env : CloneEnv} {s s' : ProcessState} {pid : ℤ} {parent child thread i : ℕ}
  {filename name : List UInt8}

/-- A sequence succeeds exactly if both its steps do. -/
lemma bind_eq_ok_iff {α β : Type} {x : Except Fault α} {f : α → Except Fault β} {b : β} :
    (x >>= f) = .ok b ↔ ∃ a, x = .ok a ∧ f a = .ok b :=
  ⟨bind_eq_ok, fun ⟨a, ha, hb⟩ => by rw [ha, ok_bind, hb]⟩

/-- What comes behind a pointer is only reached if the pointer leads to a structure. -/
lemma deref_bind_ok {α : Type} {threads : Threads} {ptr : ℕ} {f : Thread → Except Fault α} {a : α} :
    (threads.deref ptr >>= f) = .ok a ↔ ∃ t, threads.thread ptr = some t ∧ f t = .ok a := by
  simp only [bind_eq_ok_iff, Threads.deref_eq_ok]

/-- The parent's control thread is the caller. -/
structure OwnThread (s : ProcessState) (pid : ℤ) (parent : ℕ) (t : Thread) : Prop where
  control : (s.process parent).control ≠ 0
  thread : s.sched.threads.thread (s.process parent).control = some t
  magic : t.magic = 1234
  cpl : (s.owner (s.process parent).control).cpl = RING3
  ownerPid : (s.owner (s.process parent).control).ownerPid = (s.process parent).pid
  current : s.currentThread = t.tid
  samePid : pid = (s.process parent).pid
  range : 0 ≤ pid ∧ pid < PROCESS_COUNT_MAX
  process : s.currentProcess = (s.process parent).pid

lemma checkParentThread_ok :
    checkParentThread pid parent s = .ok s' ↔ ∃ t, OwnThread s pid parent t ∧
      s' = s.putThread (s.process parent).control { t with state := .RUNNING } := by
  simp only [checkParentThread, panicIf_bind_ok, deref_bind_ok, not_not]
  constructor
  · rintro ⟨hcontrol, t, ht, hmagic, hcpl, howner, hcurrent, hpid, hrange, hprocess, hs'⟩
    cases hs'
    refine ⟨t, ⟨hcontrol, ht, hmagic, hcpl, howner, hcurrent, hpid, ?_, hprocess⟩, rfl⟩
    rw [hpid]
    omega
  · rintro ⟨t, ht, rfl⟩
    refine ⟨ht.control, t, ht.thread, ht.magic, ht.cpl, ht.ownerPid, ht.current, ht.samePid, ?_,
      ht.process, rfl⟩
    rw [← ht.samePid]
    have := ht.range
    omega

/-- `copy_process` comes as far as the parent's control thread. -/
structure AsksParent (s : ProcessState) (pid : ℤ) : Prop where
  range : 0 ≤ pid ∧ pid < PROCESS_COUNT_MAX
  parent : s.processList pid.toNat ≠ 0
  used : (s.process (s.processList pid.toNat)).used = TRUE
  magic : (s.process (s.processList pid.toNat)).magic = 1234
  pml4VA : (s.process (s.processList pid.toNat)).pml4VA ≠ 0
  pdpt0VA : (s.process (s.processList pid.toNat)).pdpt0VA ≠ 0
  pd0VA : (s.process (s.processList pid.toNat)).pd0VA ≠ 0

/-- A call returns with an error and has done nothing, or it comes to the parent's control thread. -/
lemma copyProcess_inv {r : ℤ} (h : copyProcess env filename pid s = .ok (r, s')) :
    (r = -1 ∧ s' = s) ∨ AsksParent s pid ∧ ∃ s₁,
      checkParentThread pid (s.processList pid.toNat) s = .ok s₁ ∧
        doClone env pid (s.processList pid.toNat) filename s₁ = .ok (r, s') := by
  simp only [copyProcess, panicIf_bind_ok] at h
  obtain ⟨-, h⟩ := h
  by_cases hrange : pid < 0 ∨ pid ≥ PROCESS_COUNT_MAX
  · rw [if_pos hrange] at h
    cases h
    exact .inl ⟨rfl, rfl⟩
  rw [if_neg hrange] at h
  by_cases hparent : s.processList pid.toNat = 0
  · rw [if_pos hparent] at h
    cases h
    exact .inl ⟨rfl, rfl⟩
  rw [if_neg hparent] at h
  by_cases hvalid : (s.process (s.processList pid.toNat)).used ≠ TRUE ∨
      (s.process (s.processList pid.toNat)).magic ≠ 1234
  · rw [if_pos hvalid] at h
    cases h
    exact .inl ⟨rfl, rfl⟩
  rw [if_neg hvalid] at h
  simp only [panicIf_bind_ok] at h
  obtain ⟨-, h⟩ := h
  by_cases hpml4 : (s.process (s.processList pid.toNat)).pml4VA = 0
  · rw [if_pos hpml4] at h
    cases h
    exact .inl ⟨rfl, rfl⟩
  rw [if_neg hpml4] at h
  by_cases hpdpt : (s.process (s.processList pid.toNat)).pdpt0VA = 0
  · rw [if_pos hpdpt] at h
    cases h
    exact .inl ⟨rfl, rfl⟩
  rw [if_neg hpdpt] at h
  by_cases hpd : (s.process (s.processList pid.toNat)).pd0VA = 0
  · rw [if_pos hpd] at h
    cases h
    exact .inl ⟨rfl, rfl⟩
  rw [if_neg hpd] at h
  obtain ⟨s₁, hcheck, h⟩ := bind_eq_ok h
  rw [not_or, not_not, not_not] at hvalid
  exact .inr ⟨⟨by omega, hparent, hvalid.1, hvalid.2, hpml4, hpdpt, hpd⟩, s₁, hcheck, h⟩

/-- There is no room for another process. -/
def NoRoom (env : CloneEnv) (s : ProcessState) : Prop :=
  env.processObject = 0 ∨ ∀ i : ℕ, (i : ℤ) < PROCESS_COUNT_MAX → s.processList i ≠ 0

/-- A process object can be made, with the pid `i`. -/
structure CanCreate (env : CloneEnv) (s : ProcessState) (i : ℕ) : Prop where
  object : env.processObject ≠ 0
  slot : Scan.forward (fun i => s.processList i = 0) PROCESS_COUNT_MAX.toNat 0 = some i
  tty : env.tty ≠ 0
  heappoolVa : s.heappoolVa ≠ 0
  heapCount : s.heapCount ≠ 0
  heapSize : s.heapSize ≠ 0

lemma CanCreate.empty (h : CanCreate env s i) : (i : ℤ) < PROCESS_COUNT_MAX ∧ s.processList i = 0 := by
  obtain ⟨-, hlt, hempty⟩ := Scan.forward_range h.slot
  exact ⟨by rw [PROCESS_COUNT_MAX] at hlt ⊢; omega, hempty⟩

lemma createObject_none : createAndInitializeProcessObject env s = .ok none ↔ NoRoom env s := by
  rw [createAndInitializeProcessObject, NoRoom]
  dsimp only
  split_ifs with hobject hpid
  · exact iff_of_true rfl (.inl hobject)
  · refine iff_of_true rfl (.inr fun i hi => ?_)
    rw [getNewPid] at hpid
    cases hscan : Scan.forward (fun i => s.processList i = 0) PROCESS_COUNT_MAX.toNat 0 with
    | none =>
        refine Scan.forward_eq_none.1 hscan i (Nat.zero_le i) ?_
        rw [PROCESS_COUNT_MAX] at hi ⊢
        omega
    | some k =>
        obtain ⟨-, hlt, -⟩ := Scan.forward_range hscan
        simp only [hscan, GRAMADO_PID_BASE, GRAMADO_PID_KERNEL] at hpid
        rw [PROCESS_COUNT_MAX] at hlt hpid
        omega
  · refine iff_of_false (fun h => ?_) ?_
    · simp only [panicIf_bind_ok] at h
      cases h.2.2.2.2
    · rintro (h | hfull)
      · exact hobject h
      · rw [getNewPid] at hpid
        cases hscan : Scan.forward (fun i => s.processList i = 0) PROCESS_COUNT_MAX.toNat 0 with
        | none => simp [hscan, GRAMADO_PID_BASE, GRAMADO_PID_KERNEL] at hpid
        | some k =>
            obtain ⟨-, hlt, hempty⟩ := Scan.forward_range hscan
            exact hfull k (by rw [PROCESS_COUNT_MAX] at hlt ⊢; omega) hempty

lemma createObject_some :
    createAndInitializeProcessObject env s = .ok (some s') ↔
      ∃ i, CanCreate env s i ∧ s' = addProcess env i s := by
  rw [createAndInitializeProcessObject]
  dsimp only
  constructor
  · intro h
    split_ifs at h with hobject hpid
    · cases h
    · cases h
    · simp only [panicIf_bind_ok] at h
      obtain ⟨htty, hva, hcount, hsize, hs'⟩ := h
      cases hs'
      rw [getNewPid] at hpid
      cases hscan : Scan.forward (fun i => s.processList i = 0) PROCESS_COUNT_MAX.toNat 0 with
      | none => simp [hscan, GRAMADO_PID_BASE, GRAMADO_PID_KERNEL] at hpid
      | some i =>
          refine ⟨i, ⟨hobject, hscan, htty, hva, hcount, hsize⟩, ?_⟩
          simp only [getNewPid, hscan]
  · rintro ⟨i, hi, rfl⟩
    have hlt := hi.empty.1
    have hpid : getNewPid s = i := by simp only [getNewPid, hi.slot]
    rw [if_neg hi.object, hpid, if_neg (by simp only [GRAMADO_PID_BASE, GRAMADO_PID_KERNEL]; omega)]
    simp only [panicIf_bind_ok]
    exact ⟨hi.tty, hi.heappoolVa, hi.heapCount, hi.heapSize, trivial⟩

/-- There is memory for the image and for the stack. -/
structure ImageMemory (env : CloneEnv) : Prop where
  base : env.newBase ≠ 0
  stack : env.stackPages ≠ 0
  basePA : env.physical env.newBase ≠ 0
  stackPA : env.physical env.stackPages ≠ 0

/-- The parent remembers the memory for its child. -/
def withImage (env : CloneEnv) (parent : ℕ) (s : ProcessState) : ProcessState :=
  s.putProcess parent
    { s.process parent with
      childImage := env.newBase
      childStack := env.stackPages
      childImagePA := env.physical env.newBase }

lemma allocMemory_ok :
    allocMemoryForImageAndStack env parent s = .ok (0, s') ↔
      (parent ≠ 0 ∧ (s.process parent).magic = 1234 ∧ ImageMemory env) ∧
        s' = withImage env parent s := by
  simp only [allocMemoryForImageAndStack, panicIf_bind_ok, not_not]
  constructor
  · rintro ⟨hparent, hmagic, hbase, hstack, hbasePA, h⟩
    split_ifs at h with hstackPA
    · cases h
    · obtain ⟨-, rfl⟩ := Prod.mk.inj (Except.ok.inj h)
      exact ⟨⟨hparent, hmagic, hbase, hstack, hbasePA, hstackPA⟩, rfl⟩
  · rintro ⟨⟨hparent, hmagic, hmem⟩, rfl⟩
    refine ⟨hparent, hmagic, hmem.base, hmem.stack, hmem.basePA, ?_⟩
    rw [if_neg hmem.stackPA]
    rfl

/-- Both structures are in order. -/
structure CanCopyProcess (s : ProcessState) (p1 p2 : ℕ) : Prop where
  ne1 : p1 ≠ 0
  used1 : (s.process p1).used = TRUE
  magic1 : (s.process p1).magic = 1234
  ne2 : p2 ≠ 0
  used2 : (s.process p2).used = TRUE
  magic2 : (s.process p2).magic = 1234

lemma copyProcessStruct_eq (h : CanCopyProcess s parent child)
    (hterminal : (s.process parent).isTerminal ≠ TRUE) :
    copyProcessStruct env parent child s = .ok (0, inherit parent child s) := by
  rw [copyProcessStruct, if_neg h.ne1, if_neg, if_neg h.ne2, if_neg, if_neg hterminal]
  · simp [h.used2, h.magic2]
  · simp [h.used1, h.magic1]

lemma copyProcessStruct_terminal (h : CanCopyProcess s parent child)
    (hterminal : (s.process parent).isTerminal = TRUE) :
    copyProcessStruct env parent child s =
      (createConnectors env parent child (inherit parent child s) >>= fun s => .ok (0, s)) := by
  rw [copyProcessStruct, if_neg h.ne1, if_neg, if_neg h.ne2, if_neg, if_pos hterminal]
  · simp [h.used2, h.magic2]
  · simp [h.used1, h.magic1]

/-- A thread can be made, in the slot `i`. -/
structure CanCreateThread (env : CloneEnv) (s : ProcessState) (pid : ℤ) (cpl i : ℕ) : Prop where
  range : 0 ≤ pid ∧ pid < PROCESS_COUNT_MAX
  cpl : cpl = 0 ∨ cpl = RING3
  current : 0 ≤ s.currentThread ∧ s.currentThread < THREAD_COUNT_MAX
  process : s.processList pid.toNat ≠ 0
  used : (s.process (s.processList pid.toNat)).used = TRUE
  magic : (s.process (s.processList pid.toNat)).magic = 1234
  object : env.threadObject ≠ 0
  messages : env.noMessages = false
  slot : Scan.forward (fun i => s.sched.threads.threadList i = 0)
    (THREAD_COUNT_MAX.toNat - USER_THRESHOLD_TID) USER_THRESHOLD_TID = some i
  rect : env.rectObject ≠ 0
  counter : (s.sched.threadsCounter : ℤ) + 1 < THREAD_COUNT_MAX

lemma createThread_some {cpl : ℕ} :
    createThread env pid cpl s = .ok (some s') ↔ ∃ i, CanCreateThread env s pid cpl i ∧
      s' = addThread env pid cpl (s.processList pid.toNat) i s := by
  rw [createThread]
  constructor
  · intro h
    simp only [panicIf_bind_ok] at h
    obtain ⟨hpid, hcpl, h⟩ := h
    split_ifs at h with hcurrent
    · cases h
    · simp only [panicIf_bind_ok] at h
      obtain ⟨hrange, hprocess, hused, hmagic, hobject, hmessages, h⟩ := h
      cases hscan : Scan.forward (fun i => s.sched.threads.threadList i = 0)
          (THREAD_COUNT_MAX.toNat - USER_THRESHOLD_TID) USER_THRESHOLD_TID with
      | none => simp [hscan] at h
      | some i =>
          simp only [hscan, panicIf_bind_ok] at h
          obtain ⟨hrect, hcounter, hs'⟩ := h
          cases hs'
          refine ⟨i, ⟨by omega, by omega, by omega, hprocess, not_not.1 hused, not_not.1 hmagic,
            hobject, by simpa using hmessages, hscan, hrect, ?_⟩, rfl⟩
          simp only [addThread, ge_iff_le, not_le, Nat.cast_add, Nat.cast_one] at hcounter
          exact hcounter
  · rintro ⟨i, h, rfl⟩
    have hrange := h.range
    have hcurrent := h.current
    have hcounter := h.counter
    simp only [panicIf_bind_ok]
    refine ⟨by omega, by rcases h.cpl with h | h <;> simp [h], ?_⟩
    rw [if_neg (by omega)]
    simp only [panicIf_bind_ok, h.slot]
    refine ⟨by omega, h.process, by simp [h.used], by simp [h.magic], h.object, by simp [h.messages],
      h.rect, ?_, trivial⟩
    simp only [addThread, ge_iff_le, not_le, Nat.cast_add, Nat.cast_one]
    exact hcounter

/-- The thread can be cloned, in the slot `i`. -/
structure CanCopyThread (env : CloneEnv) (s : ProcessState) (thread : ℕ) (father : Thread) (i : ℕ) :
    Prop where
  ne : thread ≠ 0
  found : s.sched.threads.thread thread = some father
  magic : father.magic = 1234
  cpl : (s.owner thread).cpl = RING3
  create : CanCreateThread env s (s.owner thread).ownerPid RING3 i
  iopl : (s.owner thread).rflagsInitialIopl = 3
  cs : (s.owner thread).contextCs % 4 = 3

/-- The state with the clone of a thread. -/
def threadCopied (env : CloneEnv) (thread : ℕ) (father : Thread) (i : ℕ) (s : ProcessState) :
    ProcessState :=
  let pid := (s.owner thread).ownerPid
  takeOver env thread father (createdThread i)
    (addThread env pid RING3 (s.processList pid.toNat) i s)

lemma addThread_thread {cpl process : ℕ} :
    (addThread env pid cpl process i s).sched.threads.thread env.threadObject =
      some (createdThread i) :=
  Threads.set_thread_same

lemma copyThreadStruct_ok :
    copyThreadStruct env thread s = .ok s' ↔ ∃ father i, CanCopyThread env s thread father i ∧
      s' = threadCopied env thread father i s := by
  simp only [copyThreadStruct, panicIf_bind_ok, deref_bind_ok, not_not]
  constructor
  · rintro ⟨hne, father, hfather, hmagic, hcpl, h⟩
    obtain ⟨r, hcreate, h⟩ := bind_eq_ok h
    cases r with
    | none => cases h
    | some s₁ =>
        obtain ⟨i, hi, rfl⟩ := createThread_some.1 hcreate
        simp only [deref_bind_ok, panicIf_bind_ok, not_not, addThread_thread] at h
        obtain ⟨clone, hclone, -, -, hiopl, hcs, hs'⟩ := h
        cases hclone
        cases hs'
        rw [hcpl] at hi
        refine ⟨father, i, ⟨hne, hfather, hmagic, hcpl, hi, hiopl, hcs⟩, ?_⟩
        rw [hcpl, threadCopied]
  · rintro ⟨father, i, h, rfl⟩
    refine ⟨h.ne, father, h.found, h.magic, h.cpl, ?_⟩
    rw [h.cpl, createThread_some.2 ⟨i, h.create, rfl⟩, ok_bind]
    simp only [deref_bind_ok, panicIf_bind_ok, not_not, addThread_thread]
    refine ⟨_, rfl, rfl, ?_, h.iopl, h.cs, rfl⟩
    simp only [addThread, ProcessState.putThread, ProcessState.putOwner, Function.update_self]

/-- The page tables of the clone can be made. -/
structure PagesOk (env : CloneEnv) (p : ProcessD) : Prop where
  pml4VA : p.pml4VA ≠ 0
  pdpt0VA : p.pdpt0VA ≠ 0
  pd0VA : p.pd0VA ≠ 0
  pageTable : env.pageTable ≠ 0
  pd0 : env.pd0 ≠ 0
  pd0PA : env.physical env.pd0 ≠ 0
  pdpt0 : env.pdpt0 ≠ 0
  pdpt0PA : env.physical env.pdpt0 ≠ 0

lemma installPages_ok :
    installPages env child s = .ok s' ↔ PagesOk env (s.process child) ∧
      s' = s.putProcess child { s.process child with
        pd0VA := env.pd0, image := CONTROLTHREAD_BASE, pdpt0VA := env.pdpt0 } := by
  simp only [installPages, panicIf_bind_ok]
  constructor
  · rintro ⟨h1, h2, h3, h4, h5, h6, h7, h8, hs'⟩
    cases hs'
    exact ⟨⟨h1, h2, h3, h4, h5, h6, h7, h8⟩, rfl⟩
  · rintro ⟨h, rfl⟩
    exact ⟨h.pml4VA, h.pdpt0VA, h.pd0VA, h.pageTable, h.pd0, h.pd0PA, h.pdpt0, h.pdpt0PA, rfl⟩

lemma setProcessName_ok :
    setProcessName child name s = .ok s' ↔ name.length < 64 ∧
      s' = s.putProcess child { s.process child with processname := name } := by
  rw [setProcessName]
  split_ifs with hlength
  · exact iff_of_false nofun fun h => absurd h.1 (not_lt.2 hlength)
  · refine ⟨fun h => ⟨not_le.1 hlength, (Except.ok.inj h).symm⟩, fun h => by rw [h.2]⟩

/-- Is one of the two threads a system thread? -/
def systemPair (s : ProcessState) (a b : ℕ) : Bool :=
  (s.owner a).type = .THREAD_TYPE_SYSTEM ∨ (s.owner b).type = .THREAD_TYPE_SYSTEM

lemma balance_ok {a b : ℕ} (hne : a ≠ b) :
    balance a b s = .ok s' ↔ ∃ t u, s.sched.threads.thread a = some t ∧
      s.sched.threads.thread b = some u ∧
      s' = (s.putThread a (balanced (systemPair s a b) t)).putThread b
        (balanced (systemPair s a b) u) := by
  have hb (t : Thread) : (s.putThread a t).sched.threads.thread b = s.sched.threads.thread b :=
    Threads.set_thread_of_ne hne.symm
  simp only [balance, deref_bind_ok, hb]
  constructor
  · rintro ⟨t, ht, u, hu, hs'⟩
    exact ⟨t, u, ht, hu, (Except.ok.inj hs').symm⟩
  · rintro ⟨t, u, ht, hu, rfl⟩
    exact ⟨t, ht, u, hu, rfl⟩

lemma schediSelectForExecution_ok (hne : thread ≠ 0) :
    schediSelectForExecution thread s = .ok s' ↔ ∃ t, s.sched.threads.thread thread = some t ∧
      s' = s.putThread thread { t with state := .STANDBY } := by
  rw [schediSelectForExecution, if_neg hne]
  simp only [deref_bind_ok]
  exact ⟨fun ⟨t, ht, h⟩ => ⟨t, ht, (Except.ok.inj h).symm⟩, fun ⟨t, ht, h⟩ => ⟨t, ht, by rw [h]⟩⟩

end Parts

end Gramado
