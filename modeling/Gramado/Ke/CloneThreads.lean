import Gramado.Ke.CloneResult

/-!
# What a clone does to the threads

`Cloning` says of a state within `copy_process` how its threads differ from those at the call: the
parent's control thread may have been set running, and one thread is new.  Every part of the call keeps
it, so it holds of the state in which the call returns (`copyProcess_cloning`), whether the clone
succeeded or not.
-/

namespace Gramado

/-- The memory for a thread is not in use, as it is with an allocator that keeps its promise. -/
structure FreshThread (env : CloneEnv) (p : ProcessState) : Prop where
  thread : p.sched.threads.thread env.threadObject = none
  unlisted : ∀ i, p.sched.threads.threadList i ≠ env.threadObject

/-- The same for a process and its control thread. -/
structure FreshObjects (env : CloneEnv) (p : ProcessState) : Prop extends FreshThread env p where
  process : ∀ i, p.processList i ≠ env.processObject

/-- **The threads within a clone**: the control thread of the parent, which is the current one, may have
been set running; the new thread has not; the other ones are as they were. -/
structure Cloning (env : CloneEnv) (parent : ℕ) (p₀ p : ProcessState) : Prop where
  control : (p.process parent).control = (p₀.process parent).control
  present : ∀ ptr, (p₀.sched.threads.thread ptr).isSome → (p.sched.threads.thread ptr).isSome
  other : ∀ ptr t', ptr ≠ env.threadObject → p.sched.threads.thread ptr = some t' →
    ∃ t, p₀.sched.threads.thread ptr = some t ∧ t'.tid = t.tid ∧
      (t'.state = t.state ∨
        ptr = (p₀.process parent).control ∧ t'.state = .RUNNING ∧ t.tid = p₀.currentThread)
  saved : ∀ ptr, ptr ≠ env.threadObject → (p.fields ptr).saved = (p₀.fields ptr).saved
  child : ∀ t', p.sched.threads.thread env.threadObject = some t' → t'.state ≠ .RUNNING
  slots : ∀ i : ℕ, p.sched.threads.threadList i = p₀.sched.threads.threadList i ∨
    p.sched.threads.threadList i = env.threadObject ∧
      ∀ t', p.sched.threads.thread env.threadObject = some t' → t'.tid = i
  current : p.currentThread = p₀.currentThread

section Cloning

/-- Where a structure is written, there is one. -/
lemma isSome_putThread {p : ProcessState} {q ptr : ℕ} {u : Thread}
    (h : (p.sched.threads.thread q).isSome) : ((p.putThread ptr u).sched.threads.thread q).isSome := by
  by_cases hq : q = ptr
  · have hset : (p.putThread ptr u).sched.threads.thread ptr = some u := Threads.set_thread_same
    rw [hq, hset]
    rfl
  · have hset : (p.putThread ptr u).sched.threads.thread q = p.sched.threads.thread q :=
      Threads.set_thread_of_ne hq
    rwa [hset]

variable {env : CloneEnv} {p₀ p p' : ProcessState} {pid : ℤ} {parent child ptr i : ℕ}
  {t u : Thread} {filename name : List UInt8}

namespace Cloning

/-- The parent's control thread is set running. -/
lemma start (h : FreshObjects env p₀)
    (ht : p₀.sched.threads.thread (p₀.process parent).control = some t)
    (hcurrent : p₀.currentThread = t.tid) :
    Cloning env parent p₀ (p₀.putThread (p₀.process parent).control { t with state := .RUNNING }) where
  control := rfl
  present _ hq := isSome_putThread hq
  other q t' _ ht' := by
    by_cases hq : q = (p₀.process parent).control
    · subst hq
      obtain rfl := Option.some.inj (Threads.set_thread_same.symm.trans ht')
      exact ⟨t, ht, rfl, .inr ⟨rfl, rfl, hcurrent.symm⟩⟩
    · exact ⟨t', (Threads.set_thread_of_ne hq).symm.trans ht', rfl, .inl rfl⟩
  saved _ _ := rfl
  child t' ht' := by
    have hne : env.threadObject ≠ (p₀.process parent).control := by
      intro heq
      rw [← heq, h.thread] at ht
      cases ht
    cases ht'.symm.trans ((Threads.set_thread_of_ne hne).trans h.thread)
  slots _ := .inl rfl
  current := rfl

/-- A part that touches no thread, and not the parent's `control`. -/
lemma of_same (h : Cloning env parent p₀ p) (hsame : p'.toSleepState = p.toSleepState)
    (hcontrol : (p'.process parent).control = (p.process parent).control) :
    Cloning env parent p₀ p' where
  control := hcontrol.trans h.control
  present := by
    rw [hsame]
    exact h.present
  other := by
    rw [hsame]
    exact h.other
  saved := by
    rw [hsame]
    exact h.saved
  child := by
    rw [hsame]
    exact h.child
  slots := by
    rw [hsame]
    exact h.slots
  current := by rw [hsame, h.current]

/-- A process is written, and the parent's `control` stays. -/
lemma putProcess (h : Cloning env parent p₀ p) {d : ProcessD}
    (hd : d.control = (p.process child).control ∨ parent ≠ child) :
    Cloning env parent p₀ (p.putProcess child d) := by
  refine h.of_same rfl ?_
  show (Function.update p.process child d parent).control = _
  by_cases hchild : parent = child
  · rw [hchild, Function.update_self]
    exact hd.resolve_right (not_not.2 hchild)
  · rw [Function.update_of_ne hchild]

/-- A thread is written, with the state that it has. -/
lemma putThread (h : Cloning env parent p₀ p) (ht : p.sched.threads.thread ptr = some t)
    (htid : u.tid = t.tid) (hstate : u.state = t.state) :
    Cloning env parent p₀ (p.putThread ptr u) where
  control := h.control
  present q hq := isSome_putThread (h.present q hq)
  other q t' hne ht' := by
    by_cases hq : q = ptr
    · subst hq
      obtain rfl := Option.some.inj (Threads.set_thread_same.symm.trans ht')
      obtain ⟨t₀, ht₀, htid₀, hstate₀⟩ := h.other q t hne ht
      refine ⟨t₀, ht₀, htid.trans htid₀, ?_⟩
      rwa [hstate]
    · exact h.other q t' hne ((Threads.set_thread_of_ne hq).symm.trans ht')
  saved := h.saved
  child t' ht' := by
    by_cases hq : env.threadObject = ptr
    · rw [hq] at ht'
      obtain rfl := Option.some.inj (Threads.set_thread_same.symm.trans ht')
      rw [hstate]
      exact h.child t (hq ▸ ht)
    · exact h.child t' ((Threads.set_thread_of_ne hq).symm.trans ht')
  slots k := by
    refine (h.slots k).imp_right fun hk => ⟨hk.1, fun t' ht' => ?_⟩
    by_cases hq : env.threadObject = ptr
    · rw [hq] at ht'
      obtain rfl := Option.some.inj (Threads.set_thread_same.symm.trans ht')
      exact htid.trans (hk.2 t (hq ▸ ht))
    · exact hk.2 t' ((Threads.set_thread_of_ne hq).symm.trans ht')
  current := h.current

/-- The new thread is written, and does not run. -/
lemma putChild (h : Cloning env parent p₀ p) (ht : p.sched.threads.thread env.threadObject = some t)
    (htid : u.tid = t.tid) (hstate : u.state ≠ .RUNNING) :
    Cloning env parent p₀ (p.putThread env.threadObject u) where
  control := h.control
  present q hq := isSome_putThread (h.present q hq)
  other q t' hne ht' := h.other q t' hne ((Threads.set_thread_of_ne hne).symm.trans ht')
  saved := h.saved
  child t' ht' := by
    obtain rfl := Option.some.inj (Threads.set_thread_same.symm.trans ht')
    exact hstate
  slots k := by
    refine (h.slots k).imp_right fun hk => ⟨hk.1, fun t' ht' => ?_⟩
    obtain rfl := Option.some.inj (Threads.set_thread_same.symm.trans ht')
    exact htid.trans (hk.2 t ht)
  current := h.current

/-- The other fields of the new thread are written. -/
lemma putFields (h : Cloning env parent p₀ p) (f : SleepFields) :
    Cloning env parent p₀ (p.putFields env.threadObject f) where
  control := h.control
  present := h.present
  other := h.other
  saved q hne := by
    show (Function.update p.fields env.threadObject f q).saved = _
    rw [Function.update_of_ne hne]
    exact h.saved q hne
  child := h.child
  slots := h.slots
  current := h.current

end Cloning

/-- A new thread comes into the table. -/
lemma addThread_cloning {cpl process : ℕ} (h : Cloning env parent p₀ p)
    (hlist : p.sched.threads.threadList = p₀.sched.threads.threadList) :
    Cloning env parent p₀ (addThread env pid cpl process i p) where
  control := h.control
  present q hq := isSome_putThread (p := (p.putFields env.threadObject _).putOwner env.threadObject _)
    (h.present q hq)
  other q t' hne ht' := h.other q t' hne ((Threads.set_thread_of_ne hne).symm.trans ht')
  saved q hne := by
    show (Function.update p.fields env.threadObject _ q).saved = _
    rw [Function.update_of_ne hne]
    exact h.saved q hne
  child t' ht' := by
    obtain rfl := Option.some.inj (addThread_thread.symm.trans ht')
    exact nofun
  slots k := by
    show Function.update p.sched.threads.threadList i env.threadObject k = _ ∨
      Function.update p.sched.threads.threadList i env.threadObject k = _ ∧ _
    by_cases hk : k = i
    · subst hk
      rw [Function.update_self]
      refine .inr ⟨rfl, fun t' ht' => ?_⟩
      obtain rfl := Option.some.inj (addThread_thread.symm.trans ht')
      rfl
    · rw [Function.update_of_ne hk, hlist]
      exact .inl rfl
  current := h.current

lemma copyThreadStruct_cloning {thread : ℕ} (h : Cloning env parent p₀ p)
    (hlist : p.sched.threads.threadList = p₀.sched.threads.threadList)
    (hok : copyThreadStruct env thread p = .ok p') : Cloning env parent p₀ p' := by
  obtain ⟨father, i, -, rfl⟩ := copyThreadStruct_ok.1 hok
  rw [threadCopied, takeOver]
  have hadded : Cloning env parent p₀ (addThread env (p.owner thread).ownerPid RING3
      (p.processList (p.owner thread).ownerPid.toNat) i p) := addThread_cloning h hlist
  have hcopied := hadded.putChild (u := copiedThread father (createdThread i)) addThread_thread rfl (fun h => by cases h)
  exact (hcopied.putFields _).of_same rfl rfl

lemma balance_cloning {a b : ℕ} (h : Cloning env parent p₀ p) (hok : balance a b p = .ok p') :
    Cloning env parent p₀ p' := by
  simp only [balance, deref_bind_ok] at hok
  obtain ⟨t, ht, u, hu, hok⟩ := hok
  cases hok
  refine Cloning.putThread ?_ hu rfl rfl
  exact h.putThread ht rfl rfl

lemma schediSelectForExecution_cloning (h : Cloning env parent p₀ p)
    (hok : schediSelectForExecution env.threadObject p = .ok p') : Cloning env parent p₀ p' := by
  rw [schediSelectForExecution] at hok
  by_cases hnull : env.threadObject = 0
  · rw [if_pos hnull] at hok
    cases hok
    exact h
  · rw [if_neg hnull] at hok
    obtain ⟨t, ht, hok⟩ := deref_bind_ok.1 hok
    cases hok
    exact h.putChild ht rfl (fun h => by cases h)

lemma installPages_cloning (h : Cloning env parent p₀ p) (hok : installPages env child p = .ok p') :
    Cloning env parent p₀ p' := by
  obtain ⟨-, rfl⟩ := installPages_ok.1 hok
  exact h.putProcess (.inl rfl)

lemma setProcessName_cloning (h : Cloning env parent p₀ p)
    (hok : setProcessName child name p = .ok p') : Cloning env parent p₀ p' := by
  obtain ⟨-, rfl⟩ := setProcessName_ok.1 hok
  exact h.putProcess (.inl rfl)

/-- The parent's control thread is made the current one: it has been all the time. -/
lemma finishClone_cloning (h : Cloning env parent p₀ p) (ht : p₀.sched.threads.thread
      (p₀.process parent).control = some t) (hcurrent : p₀.currentThread = t.tid)
    (hne : (p₀.process parent).control ≠ env.threadObject)
    (hok : finishClone env parent child name p = .ok p') : Cloning env parent p₀ p' := by
  rw [finishClone] at hok
  obtain ⟨p₁, hpages, hok⟩ := bind_eq_ok hok
  obtain ⟨p₂, hname, hok⟩ := bind_eq_ok hok
  obtain ⟨p₃, hbalance, hok⟩ := bind_eq_ok hok
  obtain ⟨p₄, hselect, hok⟩ := bind_eq_ok hok
  simp only [deref_bind_ok, panicIf_bind_ok] at hok
  obtain ⟨u, hu, -, hok⟩ := hok
  cases hok
  have hnamed := setProcessName_cloning (installPages_cloning h hpages) hname
  have hready : Cloning env parent p₀ ((p₂.putFields env.threadObject
      { p₂.fields env.threadObject with saved := FALSE }).putOwner env.threadObject
        { p₂.owner env.threadObject with newClone := TRUE }) := (hnamed.putFields _).of_same rfl rfl
  have hdone := schediSelectForExecution_cloning (balance_cloning hready hbalance) hselect
  have htid : u.tid = p₀.currentThread := by
    have hthread : p₄.sched.threads.thread (p₂.process parent).control = some u := hu
    rw [hnamed.control] at hthread
    obtain ⟨t₀, ht₀, htid₀, -⟩ := hdone.other _ u hne hthread
    obtain rfl := Option.some.inj (ht.symm.trans ht₀)
    exact htid₀.trans hcurrent.symm
  exact { hdone with current := htid }

lemma createConnectors_sleep (hok : createConnectors env parent child p = .ok p') :
    p'.toSleepState = p.toSleepState := by
  simp only [createConnectors, panicIf_bind_ok] at hok
  obtain ⟨-, -, hok⟩ := hok
  obtain ⟨father, -, hok⟩ := bind_eq_ok hok
  obtain ⟨clone, -, hok⟩ := bind_eq_ok hok
  cases hok
  rfl

lemma inherit_sleep : (inherit parent child p).toSleepState = p.toSleepState := by
  rw [inherit, ProcessState.putProcess]

/-- The copy of a process structure touches no thread. -/
lemma copyProcessStruct_sleep {r : ℤ} (hok : copyProcessStruct env parent child p = .ok (r, p')) :
    p'.toSleepState = p.toSleepState := by
  simp only [copyProcessStruct] at hok
  split_ifs at hok
  · cases hok
    rfl
  · cases hok
    rfl
  · cases hok
    rfl
  · cases hok
    rfl
  · obtain ⟨p₁, hconnect, hok⟩ := bind_eq_ok hok
    cases hok
    exact (createConnectors_sleep hconnect).trans inherit_sleep
  · cases hok
    exact inherit_sleep

lemma copyProcessStruct_cloning {r : ℤ} (h : Cloning env parent p₀ p) (hne : parent ≠ child)
    (hok : copyProcessStruct env parent child p = .ok (r, p')) (hr : r = 0) :
    Cloning env parent p₀ p' ∧
      p'.sched.threads.threadList = p.sched.threads.threadList := by
  subst hr
  have hinherited := copyProcessStruct_inherited hne hok
  exact ⟨h.of_same (copyProcessStruct_sleep hok) hinherited.parentControl, hinherited.threadList⟩

lemma loadClone_cloning {r : ℤ} (h : Cloning env parent p₀ p) (ht : p₀.sched.threads.thread
      (p₀.process parent).control = some t) (hcurrent : p₀.currentThread = t.tid)
    (hne : (p₀.process parent).control ≠ env.threadObject)
    (hok : loadClone env parent child filename p = .ok (r, p')) : Cloning env parent p₀ p' := by
  simp only [loadClone, panicIf_bind_ok] at hok
  obtain ⟨-, -, hok⟩ := hok
  obtain ⟨load, -, hok⟩ := bind_eq_ok hok
  have himage : Cloning env parent p₀ (p.putProcess child { p.process child with
      image := (p.process parent).childImage
      imagePA := (p.process parent).childImagePA }) := h.putProcess (.inl rfl)
  by_cases hstatus : load.status ≠ 0
  · rw [if_pos hstatus] at hok
    cases hok
    exact himage
  rw [if_neg hstatus] at hok
  by_cases helf : fsCheckElfFile (p.process parent).childImage load.head < 0
  · rw [if_pos helf] at hok
    cases hok
    exact himage
  rw [if_neg helf] at hok
  obtain ⟨p₁, hfinish, hok⟩ := bind_eq_ok hok
  cases hok
  exact finishClone_cloning himage ht hcurrent hne hfinish

lemma createObject_cloning (hok : createAndInitializeProcessObject env p = .ok (some p'))
    (hparent : parent ≠ env.processObject) (h : Cloning env parent p₀ p) : Cloning env parent p₀ p' ∧
      (p'.process env.processObject).magic = 1234 ∧
      p'.sched.threads.threadList = p.sched.threads.threadList := by
  obtain ⟨i, -, rfl⟩ := createObject_some.1 hok
  refine ⟨?_, ?_, rfl⟩
  · exact (h.putProcess (d := newProcess i env p) (.inr hparent)).of_same rfl rfl
  · rw [addProcess]
    simp only [ProcessState.putProcess, Function.update_self]
    rfl

lemma allocMemory_cloning (hok : allocMemoryForImageAndStack env parent p = .ok (0, p'))
    (h : Cloning env parent p₀ p) : Cloning env parent p₀ p' ∧
      p'.sched.threads.threadList = p.sched.threads.threadList := by
  obtain ⟨-, rfl⟩ := allocMemory_ok.1 hok
  exact ⟨h.putProcess (.inl rfl), rfl⟩

/-- From `do_clone` on, when the parent's control thread has been set running. -/
lemma doClone_cloning {r : ℤ} (hfresh : FreshObjects env p₀) (hparent : parent ≠ env.processObject)
    (ht : p₀.sched.threads.thread (p₀.process parent).control = some t)
    (hcurrent : p₀.currentThread = t.tid)
    (hok : doClone env pid parent filename
      (p₀.putThread (p₀.process parent).control { t with state := .RUNNING }) = .ok (r, p')) :
    Cloning env parent p₀ p' := by
  have hne : (p₀.process parent).control ≠ env.threadObject := by
    intro heq
    rw [heq, hfresh.thread] at ht
    cases ht
  have hstart := Cloning.start hfresh ht hcurrent
  generalize hp : p₀.putThread (p₀.process parent).control { t with state := .RUNNING } = p at hok hstart
  have hlist : p.sched.threads.threadList = p₀.sched.threads.threadList := by
    rw [← hp]
    rfl
  rw [doClone] at hok
  obtain ⟨created, hcreate, hok⟩ := bind_eq_ok hok
  cases created with
  | none =>
      cases hok
      exact hstart
  | some p₁ =>
      obtain ⟨hcreated, hchild, hlist₁⟩ := createObject_cloning hcreate hparent hstart
      dsimp only at hok
      rw [if_neg (not_not.2 hchild)] at hok
      simp only [panicIf_bind_ok] at hok
      obtain ⟨-, -, -, hok⟩ := hok
      obtain ⟨⟨status, p₂⟩, halloc, hok⟩ := bind_eq_ok hok
      simp only [panicIf_bind_ok, not_not] at hok
      obtain ⟨rfl, hok⟩ := hok
      obtain ⟨himage, hlist₂⟩ := allocMemory_cloning halloc (hcreated.putProcess (.inr hparent))
      obtain ⟨⟨status, p₃⟩, hstruct, hok⟩ := bind_eq_ok hok
      simp only [panicIf_bind_ok, not_not] at hok
      obtain ⟨rfl, hok⟩ := hok
      obtain ⟨hcopied, hlist₃⟩ := copyProcessStruct_cloning himage hparent hstruct rfl
      obtain ⟨p₄, hthread, hok⟩ := bind_eq_ok hok
      have hlist₄ : p₃.sched.threads.threadList = p₀.sched.threads.threadList :=
        hlist₃.trans (hlist₂.trans (hlist₁.trans hlist))
      have hthreaded := copyThreadStruct_cloning hcopied hlist₄ hthread
      refine loadClone_cloning ?_ ht hcurrent hne hok
      exact (hthreaded.putProcess (.inr hparent)).of_same rfl rfl

/-- **A call of `copy_process`** that returns has not touched the threads, or it has come to the parent's
control thread, and the threads are as they are within a clone. -/
lemma copyProcess_cloning {r : ℤ} (hfresh : FreshObjects env p)
    (hok : copyProcess env filename pid p = .ok (r, p')) :
    p' = p ∨ AsksParent p pid ∧ Cloning env (p.processList pid.toNat) p p' := by
  rcases copyProcess_inv hok with ⟨-, hsame⟩ | ⟨hasks, p₁, hcheck, hclone⟩
  · exact .inl hsame
  · obtain ⟨t, hown, rfl⟩ := checkParentThread_ok.1 hcheck
    exact .inr ⟨hasks,
      doClone_cloning hfresh (hfresh.process pid.toNat) hown.thread hown.current hclone⟩

end Cloning

end Gramado
