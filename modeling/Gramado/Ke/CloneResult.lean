import Gramado.Ke.CloneOutcome

/-!
# What a clone leaves behind

`copy_process` as a whole, when it returns.

* `SameTables` — a step leaves the process table, the thread table, the descriptors and their counts
  alone; every step behind the copies does.
* `Cloned` — the tables after a clone that succeeded.
* `copyProcess_result` — a call succeeds with these tables, or it leaves everything as it was, if the
  image loads and begins as an ELF file.
-/

namespace Gramado

/-! ## Steps that leave the tables alone -/

/-- The tables are the same: the processes and the threads in their lists, what tells the processes
apart, their descriptors, and the counts of the files. -/
structure SameTables (s s' : ProcessState) : Prop where
  processList : s'.processList = s.processList
  threadList : s'.sched.threads.threadList = s.sched.threads.threadList
  fdCounter : s'.fdCounter = s.fdCounter
  pid : ∀ a, (s'.process a).pid = (s.process a).pid
  ppid : ∀ a, (s'.process a).ppid = (s.process a).ppid
  control : ∀ a, (s'.process a).control = (s.process a).control
  objects : ∀ a, (s'.process a).objects = (s.process a).objects

section Same

variable {env : CloneEnv} {s s' s'' : ProcessState} {ptr parent child : ℕ} {name : List UInt8}

lemma SameTables.trans (h : SameTables s s') (h' : SameTables s' s'') : SameTables s s'' where
  processList := h'.processList.trans h.processList
  threadList := h'.threadList.trans h.threadList
  fdCounter := h'.fdCounter.trans h.fdCounter
  pid a := (h'.pid a).trans (h.pid a)
  ppid a := (h'.ppid a).trans (h.ppid a)
  control a := (h'.control a).trans (h.control a)
  objects a := (h'.objects a).trans (h.objects a)

/-- A process whose descriptors and numbers stay. -/
lemma SameTables.putProcess {p : ProcessD} (hpid : p.pid = (s.process ptr).pid)
    (hppid : p.ppid = (s.process ptr).ppid) (hcontrol : p.control = (s.process ptr).control)
    (hobjects : p.objects = (s.process ptr).objects) : SameTables s (s.putProcess ptr p) := by
  have hprocess : ∀ a, (s.putProcess ptr p).process a = s.process a ∨
      a = ptr ∧ (s.putProcess ptr p).process a = p := fun a => by
    by_cases ha : a = ptr
    · exact .inr ⟨ha, by rw [ha]; exact Function.update_self ..⟩
    · exact .inl (Function.update_of_ne ha ..)
  refine ⟨rfl, rfl, rfl, fun a => ?_, fun a => ?_, fun a => ?_, fun a => ?_⟩ <;>
    rcases hprocess a with h | ⟨rfl, h⟩ <;> rw [h] <;> assumption

lemma SameTables.putThread (t : Thread) : SameTables s (s.putThread ptr t) :=
  ⟨rfl, rfl, rfl, fun _ => rfl, fun _ => rfl, fun _ => rfl, fun _ => rfl⟩

lemma SameTables.putFields (f : SleepFields) : SameTables s (s.putFields ptr f) :=
  ⟨rfl, rfl, rfl, fun _ => rfl, fun _ => rfl, fun _ => rfl, fun _ => rfl⟩

lemma SameTables.putOwner (o : OwnerFields) : SameTables s (s.putOwner ptr o) :=
  ⟨rfl, rfl, rfl, fun _ => rfl, fun _ => rfl, fun _ => rfl, fun _ => rfl⟩

lemma withImage_same : SameTables s (withImage env parent s) := .putProcess rfl rfl rfl rfl

lemma installPages_same (h : installPages env child s = .ok s') : SameTables s s' := by
  obtain ⟨-, rfl⟩ := installPages_ok.1 h
  exact .putProcess rfl rfl rfl rfl

lemma setProcessName_same (h : setProcessName child name s = .ok s') : SameTables s s' := by
  obtain ⟨-, rfl⟩ := setProcessName_ok.1 h
  exact .putProcess rfl rfl rfl rfl

lemma balance_same {a b : ℕ} (h : balance a b s = .ok s') : SameTables s s' := by
  simp only [balance, deref_bind_ok] at h
  obtain ⟨t, -, u, -, h⟩ := h
  cases h
  exact (SameTables.putThread _).trans (.putThread _)

lemma schediSelectForExecution_same (h : schediSelectForExecution ptr s = .ok s') :
    SameTables s s' := by
  rw [schediSelectForExecution] at h
  by_cases hnull : ptr = 0
  · rw [if_pos hnull] at h
    cases h
    exact ⟨rfl, rfl, rfl, fun _ => rfl, fun _ => rfl, fun _ => rfl, fun _ => rfl⟩
  · rw [if_neg hnull] at h
    simp only [deref_bind_ok] at h
    obtain ⟨t, -, h⟩ := h
    cases h
    exact .putThread _

/-- Nothing that follows the load changes the tables. -/
lemma finishClone_same (h : finishClone env parent child name s = .ok s') : SameTables s s' := by
  rw [finishClone] at h
  obtain ⟨s₁, hpages, h⟩ := bind_eq_ok h
  obtain ⟨s₂, hname, h⟩ := bind_eq_ok h
  obtain ⟨s₃, hbalance, h⟩ := bind_eq_ok h
  obtain ⟨s₄, hselect, h⟩ := bind_eq_ok h
  simp only [deref_bind_ok, panicIf_bind_ok] at h
  obtain ⟨t, -, -, h⟩ := h
  cases h
  have hready : SameTables s₂ s₄ :=
    (SameTables.putFields _).trans ((SameTables.putOwner _).trans
      ((balance_same hbalance).trans (schediSelectForExecution_same hselect)))
  have hall := ((installPages_same hpages).trans (setProcessName_same hname)).trans hready
  exact ⟨hall.processList, hall.threadList, hall.fdCounter, hall.pid, hall.ppid, hall.control,
    hall.objects⟩

end Same

/-! ## The descriptors -/

/-- How many of the descriptors refer to the file `f`. -/
def references (objects : ℕ → ℕ) (f : ℕ) : ℕ := (List.range NUMBER_OF_FILES).countP fun i => objects i = f

/-- **The copy of a process structure**: what the parent has open, the child has open, but for the three
streams; the parent keeps what it has open; and each descriptor that is copied is counted. -/
structure Inherited (env : CloneEnv) (s s' : ProcessState) (parent child : ℕ) : Prop where
  processList : s'.processList = s.processList
  threadList : s'.sched.threads.threadList = s.sched.threads.threadList
  pid : (s'.process child).pid = (s.process child).pid
  ppid : (s'.process child).ppid = (s.process parent).pid
  childImage : (s'.process parent).childImage = (s.process parent).childImage
  parentControl : (s'.process parent).control = (s.process parent).control
  streams : (s'.process child).objects 0 = s.stdin ∧ (s'.process child).objects 1 = s.stdout ∧
    (s'.process child).objects 2 = s.stderr
  inherited : ∀ i, 3 ≤ i → i < NUMBER_OF_FILES → (s.process parent).objects i ≠ 0 →
    (s'.process child).objects i = (s.process parent).objects i
  kept : ∀ i, (s.process parent).objects i ≠ 0 →
    (s'.process parent).objects i = (s.process parent).objects i
  unchanged : (s.process parent).isTerminal ≠ TRUE →
    (s'.process parent).objects = (s.process parent).objects
  counted : ∀ f, f ≠ 0 →
    ((s.process parent).isTerminal = TRUE → f ≠ env.connector1 ∧ f ≠ env.connector2) →
    s'.fdCounter f = s.fdCounter f + references (s.process parent).objects f

section Descriptors

variable {env : CloneEnv} {s s' : ProcessState} {parent child : ℕ} {p p' : ProcessD}

lemma inheritCounts_eq (objects : ℕ → ℕ) (fdCounter : ℕ → ℤ) {f : ℕ} (hf : f ≠ 0) :
    inheritCounts objects fdCounter f = fdCounter f + references objects f := by
  rw [inheritCounts, references]
  generalize List.range NUMBER_OF_FILES = slots
  induction slots generalizing fdCounter with
  | nil => simp
  | cons i slots ih =>
      rw [List.foldl_cons, ih, List.countP_cons]
      by_cases hzero : objects i = 0
      · have hother : ¬objects i = f := fun h => hf (h ▸ hzero)
        simp [hzero, Ne.symm hf]
      · by_cases hi : objects i = f
        · subst hi
          simp [hzero]
          ring
        · simp [hzero, hi, Function.update_of_ne (Ne.symm hi)]

/-- A spot that is found is empty, and no stream's. -/
lemma emptySpot_range {objects : ℕ → ℕ} (h : emptySpot objects ≠ 0) :
    3 ≤ emptySpot objects ∧ objects (emptySpot objects) = 0 := by
  rw [emptySpot] at h ⊢
  cases hscan : Scan.forward (fun i => objects i = 0) 27 3 with
  | none => simp [hscan] at h
  | some i =>
      obtain ⟨hlo, -, hempty⟩ := Scan.forward_range hscan
      exact ⟨hlo, hempty⟩

/-- The connectors go to spots that are empty. -/
lemma putConnectors_ok (h : putConnectors env p = .ok p') :
    (∀ i, p.objects i ≠ 0 → p'.objects i = p.objects i) ∧
      (∀ i < 3, p'.objects i = p.objects i) ∧
      p' = { p with objects := p'.objects, connectors := p'.connectors } := by
  simp only [putConnectors, panicIf_bind_ok] at h
  obtain ⟨hspot1, hspot2, h⟩ := h
  rw [if_neg hspot1] at hspot2 h
  cases h
  obtain ⟨hlo1, hempty1⟩ := emptySpot_range hspot1
  obtain ⟨hlo2, hempty2⟩ := emptySpot_range hspot2
  have hother : emptySpot (Function.update p.objects (emptySpot p.objects) 216) ≠ emptySpot p.objects := by
    intro hsame
    rw [hsame, Function.update_self] at hempty2
    cases hempty2
  rw [Function.update_of_ne hother] at hempty2
  have helse : ∀ i, i ≠ emptySpot p.objects →
      i ≠ emptySpot (Function.update p.objects (emptySpot p.objects) 216) →
      Function.update (Function.update (Function.update p.objects (emptySpot p.objects) 216)
        (emptySpot p.objects) env.connector1)
        (emptySpot (Function.update p.objects (emptySpot p.objects) 216)) env.connector2 i
        = p.objects i := fun i h1 h2 => by
    rw [Function.update_of_ne h2, Function.update_of_ne h1, Function.update_of_ne h1]
  refine ⟨fun i hi => helse i ?_ ?_, fun i hi => helse i (by omega) (by omega), rfl⟩
  · rintro rfl
    exact hi hempty1
  · rintro rfl
    exact hi hempty2

lemma inherit_child :
    (inherit parent child s).process child = { s.process child with
      ppid := (s.process parent).pid
      used := (s.process parent).used
      magic := (s.process parent).magic
      image := (s.process parent).childImage
      imagePA := (s.process parent).childImagePA
      childImage := 0
      childImagePA := 0
      cpl := (s.process parent).cpl
      objects := inheritedObjects s (s.process parent).objects (s.process child).objects } :=
  Function.update_self ..

lemma inherit_parent (hne : parent ≠ child) :
    (inherit parent child s).process parent = s.process parent :=
  Function.update_of_ne hne ..

lemma inheritedObjects_of_le {objects own : ℕ → ℕ} {i : ℕ} (hlo : 3 ≤ i) (hhi : i < NUMBER_OF_FILES) :
    inheritedObjects s objects own i = objects i := by
  rw [inheritedObjects, if_neg (by omega), if_neg (by omega), if_neg (by omega), if_pos hhi]

/-- The copy for a parent that is no terminal. -/
lemma inherit_inherited (hne : parent ≠ child) (hterminal : (s.process parent).isTerminal ≠ TRUE) :
    Inherited env s (inherit parent child s) parent child where
  processList := rfl
  threadList := rfl
  pid := by rw [inherit_child]
  ppid := by rw [inherit_child]
  childImage := by rw [inherit_parent hne]
  parentControl := by rw [inherit_parent hne]
  streams := by
    rw [inherit_child]
    exact ⟨rfl, rfl, rfl⟩
  inherited i hlo hhi _ := by
    rw [inherit_child]
    exact inheritedObjects_of_le hlo hhi
  kept i _ := by rw [inherit_parent hne]
  unchanged _ := by rw [inherit_parent hne]
  counted f hf _ := inheritCounts_eq _ _ hf

/-- The copy for a terminal: the two connectors come on top. -/
lemma createConnectors_inherited (hne : parent ≠ child)
    (hterminal : (s.process parent).isTerminal = TRUE)
    (h : createConnectors env parent child (inherit parent child s) = .ok s') :
    Inherited env s s' parent child := by
  simp only [createConnectors, panicIf_bind_ok] at h
  obtain ⟨-, -, h⟩ := h
  obtain ⟨father, hfather, h⟩ := bind_eq_ok h
  obtain ⟨clone, hclone, h⟩ := bind_eq_ok h
  cases h
  obtain ⟨hkept, hlow, hsame⟩ := putConnectors_ok hfather
  rw [inherit_parent hne] at hkept hlow hsame
  obtain ⟨hkept', hlow', hsame'⟩ := putConnectors_ok hclone
  have hfirst : ((({ inherit parent child s with
        fdCounter := Function.update (Function.update (inherit parent child s).fdCounter
          env.connector1 1) env.connector2 1 } : ProcessState).putProcess parent
        { father with isTerminal := TRUE }).process child) = (inherit parent child s).process child :=
    Function.update_of_ne hne.symm ..
  rw [hfirst, inherit_child] at hkept' hlow' hsame'
  have hparent : ∀ (t : ProcessState) (a : ProcessD),
      ((t.putProcess parent { father with isTerminal := TRUE }).putProcess child a).process parent
        = { father with isTerminal := TRUE } := fun t a => by
    simp only [ProcessState.putProcess]
    rw [Function.update_of_ne hne, Function.update_self]
  have hchild : ∀ (t : ProcessState) (a : ProcessD), (t.putProcess child a).process child = a :=
    fun t a => Function.update_self ..
  refine
    { processList := rfl
      threadList := rfl
      pid := ?_
      ppid := ?_
      childImage := ?_
      parentControl := ?_
      streams := ?_
      inherited := fun i hlo hhi hopen => ?_
      kept := fun i hopen => ?_
      unchanged := fun hnot => absurd hterminal hnot
      counted := fun f hf hother => ?_ }
  · rw [hchild, hsame']
  · rw [hchild, hsame']
  · rw [hparent, hsame]
  · rw [hparent, hsame]
  · rw [hchild]
    exact ⟨hlow' 0 (by omega), hlow' 1 (by omega), hlow' 2 (by omega)⟩
  · have hcopied : inheritedObjects s (s.process parent).objects (s.process child).objects i
        = (s.process parent).objects i := inheritedObjects_of_le hlo hhi
    rw [hchild]
    refine (hkept' i ?_).trans hcopied
    show inheritedObjects s (s.process parent).objects (s.process child).objects i ≠ 0
    rwa [hcopied]
  · rw [hparent]
    exact hkept i hopen
  · obtain ⟨h1, h2⟩ := hother hterminal
    show Function.update (Function.update (inherit parent child s).fdCounter env.connector1 1)
      env.connector2 1 f = _
    rw [Function.update_of_ne h2, Function.update_of_ne h1]
    exact inheritCounts_eq _ _ hf

/-- **What `copy_process_struct` has done** when it reports success. -/
lemma copyProcessStruct_inherited (hne : parent ≠ child)
    (h : copyProcessStruct env parent child s = .ok (0, s')) : Inherited env s s' parent child := by
  rw [copyProcessStruct] at h
  by_cases hparent : parent = 0
  · rw [if_pos hparent] at h
    cases h
  rw [if_neg hparent] at h
  by_cases hvalid : (s.process parent).used ≠ TRUE ∨ (s.process parent).magic ≠ 1234
  · rw [if_pos hvalid] at h
    cases h
  rw [if_neg hvalid] at h
  by_cases hchild : child = 0
  · rw [if_pos hchild] at h
    cases h
  rw [if_neg hchild] at h
  by_cases hvalid' : (s.process child).used ≠ TRUE ∨ (s.process child).magic ≠ 1234
  · rw [if_pos hvalid'] at h
    cases h
  rw [if_neg hvalid'] at h
  by_cases hterminal : (s.process parent).isTerminal = TRUE
  · rw [if_pos hterminal] at h
    obtain ⟨s₁, hconnected, h⟩ := bind_eq_ok h
    cases h
    exact createConnectors_inherited hne hterminal hconnected
  · rw [if_neg hterminal] at h
    cases h
    exact inherit_inherited hne hterminal

end Descriptors

/-! ## The whole call -/

/-- The image loads, and it begins as an ELF file. -/
def ImageOk (env : CloneEnv) (filename : List UInt8) : Prop :=
  ∃ load, env.fsLoadImage filename env.newBase = .ok load ∧ load.status = 0 ∧
    ¬fsCheckElfFile env.newBase load.head < 0

/-- **The tables after a clone that succeeded**: the child has a new number and a new control thread,
and it has open what the parent has open, but for the three streams. -/
structure Cloned (env : CloneEnv) (s s' : ProcessState) (parent : ℕ) (r : ℤ) : Prop where
  newPid : 0 ≤ r ∧ r < PROCESS_COUNT_MAX ∧ s.processList r.toNat = 0
  processList : s'.processList = Function.update s.processList r.toNat env.processObject
  pid : (s'.process env.processObject).pid = r
  ppid : (s'.process env.processObject).ppid = (s.process parent).pid
  control : (s'.process env.processObject).control = env.threadObject
  newThread : ∃ tid, s.sched.threads.threadList tid = 0 ∧
    s'.sched.threads.threadList = Function.update s.sched.threads.threadList tid env.threadObject
  streams : (s'.process env.processObject).objects 0 = s.stdin ∧
    (s'.process env.processObject).objects 1 = s.stdout ∧
    (s'.process env.processObject).objects 2 = s.stderr
  inherited : ∀ i, 3 ≤ i → i < NUMBER_OF_FILES → (s.process parent).objects i ≠ 0 →
    (s'.process env.processObject).objects i = (s.process parent).objects i
  kept : ∀ i, (s.process parent).objects i ≠ 0 →
    (s'.process parent).objects i = (s.process parent).objects i
  unchanged : (s.process parent).isTerminal ≠ TRUE →
    (s'.process parent).objects = (s.process parent).objects
  counted : ∀ f, f ≠ 0 →
    ((s.process parent).isTerminal = TRUE → f ≠ env.connector1 ∧ f ≠ env.connector2) →
    s'.fdCounter f = s.fdCounter f + references (s.process parent).objects f

section Result

variable {env : CloneEnv} {s s' : ProcessState} {parent child : ℕ} {pid r : ℤ} {filename : List UInt8}

/-- The load succeeds, or the image is not in order. -/
lemma loadClone_ok (hbase : (s.process parent).childImage = env.newBase)
    (h : loadClone env parent child filename s = .ok (r, s')) (himage : ImageOk env filename) :
    r = (s.process child).pid ∧ SameTables s s' := by
  obtain ⟨load, hload, hstatus, helf⟩ := himage
  simp only [loadClone, panicIf_bind_ok, hbase, hload, ok_bind] at h
  obtain ⟨-, -, h⟩ := h
  rw [if_neg (not_not.2 hstatus), if_neg helf] at h
  obtain ⟨s₁, hfinish, h⟩ := bind_eq_ok h
  cases h
  refine ⟨rfl, SameTables.trans ?_ (finishClone_same hfinish)⟩
  exact .putProcess rfl rfl rfl rfl

/-- A thread that is cloned is entered in an empty slot; the processes and the files are left alone. -/
lemma copyThreadStruct_tables {thread : ℕ} (h : copyThreadStruct env thread s = .ok s') :
    s'.processList = s.processList ∧ s'.process = s.process ∧ s'.fdCounter = s.fdCounter ∧
      ∃ tid, s.sched.threads.threadList tid = 0 ∧
        s'.sched.threads.threadList = Function.update s.sched.threads.threadList tid env.threadObject := by
  obtain ⟨father, tid, hcopy, rfl⟩ := copyThreadStruct_ok.1 h
  exact ⟨rfl, rfl, rfl, tid, (Scan.forward_range hcopy.create.slot).2.2, rfl⟩

/-- The state in which the structure of the parent is copied to the child with the number `i`. -/
def prepared (env : CloneEnv) (i parent : ℕ) (s : ProcessState) : ProcessState :=
  withImage env parent ((addProcess env i s).putProcess env.processObject
    { newProcess i env s with
      pml4VA := env.pml4, pdpt0VA := (s.process parent).pdpt0VA, pd0VA := (s.process parent).pd0VA })

lemma prepared_parent (hne : parent ≠ env.processObject) {i : ℕ} :
    (prepared env i parent s).process parent = { s.process parent with
      childImage := env.newBase
      childStack := env.stackPages
      childImagePA := env.physical env.newBase } := by
  have hparent : ((addProcess env i s).putProcess env.processObject { newProcess i env s with
      pml4VA := env.pml4, pdpt0VA := (s.process parent).pdpt0VA,
      pd0VA := (s.process parent).pd0VA }).process parent = s.process parent := by
    simp only [addProcess, ProcessState.putProcess]
    rw [Function.update_of_ne hne, Function.update_of_ne hne]
  rw [prepared, withImage, hparent]
  exact Function.update_self ..

lemma prepared_child (hne : parent ≠ env.processObject) {i : ℕ} :
    ((prepared env i parent s).process env.processObject).pid = i := by
  rw [prepared, withImage_same.pid]
  simp only [ProcessState.putProcess, Function.update_self]
  rfl

/-- From `do_clone` on, with an address for the child that is not the parent's. -/
lemma doClone_result (hne : parent ≠ env.processObject)
    (h : doClone env pid parent filename s = .ok (r, s')) (himage : ImageOk env filename) :
    (r = -1 ∧ s' = s) ∨ Cloned env s s' parent r := by
  rw [doClone] at h
  obtain ⟨created, hcreate, h⟩ := bind_eq_ok h
  cases created with
  | none =>
      cases h
      exact .inl ⟨rfl, rfl⟩
  | some s₁ =>
      obtain ⟨i, hi, rfl⟩ := createObject_some.1 hcreate
      refine .inr ?_
      have hchild : (addProcess env i s).process env.processObject = newProcess i env s :=
        Function.update_self ..
      have hparent : (addProcess env i s).process parent = s.process parent :=
        Function.update_of_ne hne ..
      simp only [hchild, hparent] at h
      have hmagic : (newProcess i env s).magic = 1234 := rfl
      rw [if_neg (not_not.2 hmagic)] at h
      simp only [panicIf_bind_ok] at h
      obtain ⟨-, -, -, h⟩ := h
      obtain ⟨⟨status, s₂⟩, halloc, h⟩ := bind_eq_ok h
      simp only [panicIf_bind_ok, not_not] at h
      obtain ⟨rfl, h⟩ := h
      obtain ⟨-, rfl⟩ := allocMemory_ok.1 halloc
      obtain ⟨⟨status, s₃⟩, hstruct, h⟩ := bind_eq_ok h
      simp only [panicIf_bind_ok, not_not] at h
      obtain ⟨rfl, h⟩ := h
      have hcopied : Inherited env (prepared env i parent s) s₃ parent env.processObject :=
        copyProcessStruct_inherited hne hstruct
      obtain ⟨s₄, hthread, h⟩ := bind_eq_ok h
      obtain ⟨hlist, hprocess, hcounts, tid, hempty, hthreads⟩ := copyThreadStruct_tables hthread
      have hbase : (s₄.process parent).childImage = env.newBase := by
        rw [hprocess, hcopied.childImage, prepared_parent hne]
      have hstay : ∀ (t : ProcessState) (p : ProcessD) (o : OwnerFields),
          (((t.putProcess env.processObject p).putOwner env.threadObject o).process parent)
            = t.process parent := fun t p o => Function.update_of_ne hne ..
      have hnew : ∀ (t : ProcessState) (p : ProcessD) (o : OwnerFields),
          (((t.putProcess env.processObject p).putOwner env.threadObject o).process env.processObject)
            = p := fun t p o => Function.update_self ..
      obtain ⟨hr, hsame⟩ := loadClone_ok (by rw [hstay, hbase]) h himage
      have hobjects : ∀ a, (s'.process a).objects = (s₃.process a).objects := fun a => by
        rw [hsame.objects, ← hprocess]
        by_cases ha : a = env.processObject
        · rw [ha, hnew]
        · show (Function.update s₄.process _ _ a).objects = _
          rw [Function.update_of_ne ha]
      have hpid : r = i := by
        rw [hr, hnew]
        show (s₄.process env.processObject).pid = i
        rw [hprocess, hcopied.pid, prepared_child hne]
      subst hpid
      have hsource : ((prepared env i parent s).process parent).objects = (s.process parent).objects := by
        rw [prepared_parent hne]
      have hterminal : ((prepared env i parent s).process parent).isTerminal
          = (s.process parent).isTerminal := by rw [prepared_parent hne]
      exact
        { newPid := ⟨by omega, hi.empty.1, hi.empty.2⟩
          processList := hsame.processList.trans (hlist.trans hcopied.processList)
          pid := by
            rw [hsame.pid, hnew]
            show (s₄.process env.processObject).pid = i
            rw [hprocess, hcopied.pid, prepared_child hne]
          ppid := by
            rw [hsame.ppid, hnew]
            show (s₄.process env.processObject).ppid = _
            rw [hprocess, hcopied.ppid, prepared_parent hne]
          control := by rw [hsame.control, hnew]
          newThread := by
            have hsources : s₃.sched.threads.threadList = s.sched.threads.threadList :=
              hcopied.threadList
            rw [hsources] at hempty hthreads
            exact ⟨tid, hempty, hsame.threadList.trans hthreads⟩
          streams := by
            rw [hobjects]
            exact hcopied.streams
          inherited := fun k hlo hhi hopen => by
            rw [hobjects, ← hsource]
            rw [← hsource] at hopen
            exact hcopied.inherited k hlo hhi hopen
          kept := fun k hopen => by
            rw [hobjects, ← hsource]
            rw [← hsource] at hopen
            exact hcopied.kept k hopen
          unchanged := fun hnot => by
            rw [hobjects, ← hsource]
            exact hcopied.unchanged (hterminal ▸ hnot)
          counted := fun f hf hother => by
            rw [hsame.fdCounter, ← hsource]
            rw [← hterminal] at hother
            exact (congrFun hcounts f).trans (hcopied.counted f hf hother) }

/-- A call with a parent whose control thread is running returns with an error and has done nothing, or
it comes to `do_clone` in the same state. -/
lemma copyProcess_ok {t : Thread}
    (hthread : s.sched.threads.thread (s.process (s.processList pid.toNat)).control = some t)
    (hrunning : t.state = .RUNNING) (h : copyProcess env filename pid s = .ok (r, s')) :
    (r = -1 ∧ s' = s) ∨ doClone env pid (s.processList pid.toNat) filename s = .ok (r, s') := by
  rcases copyProcess_inv h with hfail | ⟨-, s₁, hcheck, h⟩
  · exact .inl hfail
  obtain ⟨u, hown, rfl⟩ := checkParentThread_ok.1 hcheck
  -- the thread is running already
  have hsame : s.putThread (s.process (s.processList pid.toNat)).control { u with state := .RUNNING }
      = s := by
    have hu : u = t := Option.some.inj (hown.thread.symm.trans hthread)
    have hstate : ({ u with state := .RUNNING } : Thread) = t := by
      rw [hu, ← hrunning]
    rw [hstate]
    have hthreads : Function.update s.sched.threads.thread
        (s.process (s.processList pid.toNat)).control (some t) = s.sched.threads.thread := by
      rw [← hthread, Function.update_eq_self]
    simp only [ProcessState.putThread, SchedState.setThread, Threads.set, hthreads]
  rw [hsame] at h
  exact .inr h

/-- **A clone is all or nothing**, for a parent that is running and an address for the child that is not
in use: the call succeeds, or it leaves everything as it was.  Of an image that does not load, or does
not begin as an ELF file, nothing is said. -/
theorem copyProcess_result {t : Thread}
    (hthread : s.sched.threads.thread (s.process (s.processList pid.toNat)).control = some t)
    (hrunning : t.state = .RUNNING) (hnew : ∀ i, s.processList i ≠ env.processObject)
    (himage : ImageOk env filename) (h : copyProcess env filename pid s = .ok (r, s')) :
    (r = -1 ∧ s' = s) ∨ Cloned env s s' (s.processList pid.toNat) r := by
  rcases copyProcess_ok hthread hrunning h with hfail | hclone
  · exact .inl hfail
  · exact doClone_result (hnew _) hclone himage

end Result

/-! ## Clones of one process -/

/-- The answers when everything is there, with a result of the load. -/
def cloneEnv (status : ℤ) : CloneEnv where
  pml4 := 0x100
  processObject := 0x3000
  tty := 0x200
  slab := 0x300
  imagePages := 0x400
  stackPages := 0x500
  connector1 := 0x7000
  connector2 := 0x7100
  threadObject := 0x4000
  noMessages := false
  rectObject := 0x600
  pageTable := 0x700
  pd0 := 0x800
  pdpt0 := 0x880
  physical a := a
  fsLoadImage name _ := .ok ⟨status, fun i => [0x7F, 0x45, 0x4C, 0x46].getD i 0, name⟩

/-- The process 5 at `0x1000`, in a table with the kernel's.  It has closed its standard input. -/
def callingProcess (terminal : ℤ) : ProcessD where
  used := TRUE
  magic := 1234
  objects i := if i = 1 then 0x6100 else if i = 2 then 0x6200 else 0
  pid := 5
  ppid := 0
  cpl := RING3
  control := 0x2000
  pml4VA := 0x900
  pdpt0VA := 0xA00
  pd0VA := 0xB00
  image := CONTROLTHREAD_BASE
  imagePA := 0xC00
  childImage := 0
  childImagePA := 0
  childStack := 0
  tty := 0xD00
  heapStart := 0
  heapSize := 0
  heapEnd := 0
  connectors _ := 0
  isTerminal := terminal
  isChildOfTerminal := FALSE
  processname := []

/-- The thread 100 of the process 5 is running. -/
def callingState (terminal : ℤ) : ProcessState where
  sched :=
    { threads :=
        { thread := fun a => if a = 0x2000 then some { newThread 100 with state := .RUNNING } else none
          threadList := fun i => if i = 100 then 0x2000 else 0 }
      info := ⟨TRUE, SCHED_POLICY_RR, 0, 0⟩
      idleThread := 0
      threadsCounter := 1
      initThread := 0
      systemState := SYSTEM_RUNNING
      jiffies := 0
      foregroundThread := 0
      displayServer := ⟨FALSE, 0⟩
      p1q := 0
      p2q := 0
      p3q := 0
      p4q := 0
      p5q := 0
      p6q := 0
      currentq := 0
      qList := fun _ => 0 }
  fields _ := ⟨FALSE, FALSE, 0, FALSE, 0⟩
  currentThread := 100
  taskSwitchStatus := UNLOCKED
  rest _ := .awake
  owner _ := ⟨5, 0x1000, RING3, 3, 0x1B, .THREAD_TYPE_NULL, FALSE⟩
  process _ := callingProcess terminal
  processList i := if i = 0 then 0x800 else if i = 5 then 0x1000 else 0
  currentProcess := 5
  fdCounter _ := 0
  stdin := 0x6000
  stdout := 0x6100
  stderr := 0x6200
  heappoolVa := 0x10000
  heapCount := 1
  heapSize := 0x1000
  timeoutThread := 0
  schedulerStatus := UNLOCKED

/-- What is looked at in the counterexamples: the result, the child's standard input, the parent's
descriptor 3, and the child's entry in the process table. -/
def cloneView : Except Fault (ℤ × ProcessState) → Option (ℤ × ℕ × ℕ × ℕ)
  | .ok (r, s') => some (r, (s'.process 0x3000).objects 0, (s'.process 0x1000).objects 3,
      s'.processList 1)
  | .error _ => none

lemma cloneView_some {x : Except Fault (ℤ × ProcessState)} {r : ℤ} {a b c : ℕ}
    (h : cloneView x = some (r, a, b, c)) : ∃ s', x = .ok (r, s') ∧
      (s'.process 0x3000).objects 0 = a ∧ (s'.process 0x1000).objects 3 = b ∧ s'.processList 1 = c := by
  cases x with
  | error f => cases h
  | ok result =>
      obtain ⟨r', s'⟩ := result
      simp only [cloneView, Option.some.injEq, Prod.mk.injEq] at h
      obtain ⟨rfl, hobjects, hparent, hlist⟩ := h
      exact ⟨s', rfl, hobjects, hparent, hlist⟩

/-- The clone of the process 5. -/
def callClone (terminal status : ℤ) : Except Fault (ℤ × ProcessState) :=
  copyProcess (cloneEnv status) [0x41] 5 (callingState terminal)

lemma callingState_new (terminal status : ℤ) (i : ℕ) :
    (callingState terminal).processList i ≠ (cloneEnv status).processObject := by
  show (if i = 0 then 0x800 else if i = 5 then 0x1000 else 0) ≠ 0x3000
  split_ifs <;> decide

/-- The clone of a process that is no terminal. -/
theorem copyProcess_result_callingProcess : ∃ r s',
    copyProcess (cloneEnv 0) [0x41] 5 (callingState FALSE) = .ok (r, s') ∧
      ((r = -1 ∧ s' = callingState FALSE) ∨ Cloned (cloneEnv 0) (callingState FALSE) s' 0x1000 r) := by
  obtain ⟨s', hrun, -⟩ := cloneView_some
    (by decide +kernel : cloneView (callClone FALSE 0) = some (1, 0x6000, 0, 0x3000))
  have himage : ImageOk (cloneEnv 0) [0x41] := ⟨_, rfl, rfl, by decide⟩
  have hresult := copyProcess_result (t := { newThread 100 with state := .RUNNING }) rfl rfl
    (callingState_new FALSE 0) himage hrun
  exact ⟨1, s', hrun, hresult⟩

/-- **A clone is not all or nothing as it stands**: the child's standard input is not the one that the
parent has closed; a terminal gets a new descriptor; and a child whose image does not load stays in the
process table. -/
theorem copyProcess_result_fails :
    (¬∀ (env : CloneEnv) (filename : List UInt8) (pid : ℤ) (s s' : ProcessState) (r : ℤ),
      (∀ i, s.processList i ≠ env.processObject) → copyProcess env filename pid s = .ok (r, s') → 0 ≤ r →
        ∀ i < NUMBER_OF_FILES, (s'.process env.processObject).objects i
          = (s.process (s.processList pid.toNat)).objects i) ∧
    (¬∀ (env : CloneEnv) (filename : List UInt8) (pid : ℤ) (s s' : ProcessState) (r : ℤ),
      (∀ i, s.processList i ≠ env.processObject) → copyProcess env filename pid s = .ok (r, s') → 0 ≤ r →
        (s'.process (s.processList pid.toNat)).objects
          = (s.process (s.processList pid.toNat)).objects) ∧
    ¬∀ (env : CloneEnv) (filename : List UInt8) (pid : ℤ) (s s' : ProcessState) (r : ℤ),
      (∀ i, s.processList i ≠ env.processObject) → copyProcess env filename pid s = .ok (r, s') → r < 0 →
        s'.processList = s.processList := by
  refine ⟨fun hall => ?_, fun hall => ?_, fun hall => ?_⟩
  · obtain ⟨s', hrun, hobjects, -, -⟩ := cloneView_some
      (by decide +kernel : cloneView (callClone FALSE 0) = some (1, 0x6000, 0, 0x3000))
    have hsame := hall _ _ _ _ s' 1 (callingState_new FALSE 0) hrun (by decide) 0 (by decide)
    exact absurd (hobjects.symm.trans hsame) (by decide)
  · obtain ⟨s', hrun, -, hparent, -⟩ := cloneView_some
      (by decide +kernel : cloneView (callClone TRUE 0) = some (1, 0x6000, 0x7000, 0x3000))
    have hsame := congrFun (hall _ _ _ _ s' 1 (callingState_new TRUE 0) hrun (by decide)) 3
    exact absurd (hparent.symm.trans hsame) (by decide)
  · obtain ⟨s', hrun, -, -, hlist⟩ := cloneView_some
      (by decide +kernel : cloneView (callClone FALSE 1) = some (-1, 0x6000, 0, 0x3000))
    have hsame := congrFun (hall _ _ _ _ s' (-1) (callingState_new FALSE 1) hrun (by decide)) 1
    exact absurd (hlist.symm.trans hsame) (by decide)

end Gramado
