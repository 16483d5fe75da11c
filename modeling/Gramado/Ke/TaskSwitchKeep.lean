import Gramado.Ke.SleepRun
import Gramado.Ke.CloneOutcome
import Gramado.Ke.TaskSwitch

/-!
# What each call does to the threads

* `NoStart` — nobody starts to run and nobody is put in standby: a thread keeps its state, or it gets
  another one of the rest.  `Calm` — and the current thread stays the current one.
* `Carried Shifted` — a round of the scheduler: a thread keeps its state, is ready, or is a zombie.
* `Cloning` — a clone so far: one thread may have been set running, and one thread is new.
-/

namespace Gramado

open StepRun

/-! ## Calls that start nobody -/

/-- The thread in the slot `i` of `threadList`. -/
def SleepState.At (s : SleepState) (i : ℕ) (t : Thread) : Prop :=
  (i : ℤ) < THREAD_COUNT_MAX ∧ s.sched.threads.threadList i ≠ 0 ∧
    s.sched.threads.thread (s.sched.threads.threadList i) = some t

/-- Nobody of the table runs. -/
def NoneRuns (s : SleepState) : Prop := ∀ i t, s.At i t → t.state ≠ .RUNNING

/-- No thread structure has gone. -/
def Present (s s' : SleepState) : Prop :=
  ∀ ptr, (s.sched.threads.thread ptr).isSome → (s'.sched.threads.thread ptr).isSome

/-- The same thread, and its state is what it was, or neither `RUNNING` nor `STANDBY`. -/
structure Rested (t t' : Thread) : Prop where
  tid : t'.tid = t.tid
  state : t'.state = t.state ∨ t'.state ≠ .RUNNING ∧ t'.state ≠ .STANDBY

/-- Every thread of the new state is one of the old state, and has not started to run.  A context that
was saved is still saved. -/
structure NoStart (s s' : SleepState) : Prop where
  present : Present s s'
  threadList : s'.sched.threads.threadList = s.sched.threads.threadList
  thread : ∀ ptr t', s'.sched.threads.thread ptr = some t' →
    ∃ t, s.sched.threads.thread ptr = some t ∧ Rested t t'
  saved : ∀ ptr, (s.fields ptr).saved = TRUE → (s'.fields ptr).saved = TRUE

/-- A call that starts nobody and leaves the current thread the current one. -/
structure Calm (s s' : SleepState) : Prop extends NoStart s s' where
  current : s'.currentThread = s.currentThread

section NoStart

variable {s s' s'' : SleepState} {t t' t'' u : Thread} {ptr i : ℕ}

/-- Where a structure is written, there is one. -/
lemma present_of_set (hthreads : s'.sched.threads = s.sched.threads.set ptr u) : Present s s' := by
  intro q hq
  rw [hthreads]
  by_cases hptr : q = ptr
  · rw [hptr, Threads.set_thread_same]
    rfl
  · rwa [Threads.set_thread_of_ne hptr]

lemma Rested.refl (t : Thread) : Rested t t := ⟨rfl, .inl rfl⟩

lemma Rested.trans (h : Rested t t') (h' : Rested t' t'') : Rested t t'' := by
  refine ⟨h'.tid.trans h.tid, ?_⟩
  rcases h'.state with hsame | hrest
  · rw [hsame]
    exact h.state
  · exact .inr hrest

lemma Rested.running (h : Rested t t') (hrun : t'.state = .RUNNING) : t.state = .RUNNING := by
  rcases h.state with hsame | ⟨hnot, -⟩
  · exact hsame.symm.trans hrun
  · exact absurd hrun hnot

lemma Rested.standby (h : Rested t t') (hstandby : t'.state = .STANDBY) : t.state = .STANDBY := by
  rcases h.state with hsame | ⟨-, hnot⟩
  · exact hsame.symm.trans hstandby
  · exact absurd hstandby hnot

namespace NoStart

lemma refl (s : SleepState) : NoStart s s :=
  ⟨fun _ => id, rfl, fun _ t ht => ⟨t, ht, Rested.refl t⟩, fun _ => id⟩

lemma trans (h : NoStart s s') (h' : NoStart s' s'') : NoStart s s'' where
  present ptr hptr := h'.present ptr (h.present ptr hptr)
  threadList := h'.threadList.trans h.threadList
  thread ptr t'' ht'' := by
    obtain ⟨t', ht', hlast⟩ := h'.thread ptr t'' ht''
    obtain ⟨t, ht, hfirst⟩ := h.thread ptr t' ht'
    exact ⟨t, ht, hfirst.trans hlast⟩
  saved ptr hsaved := h'.saved ptr (h.saved ptr hsaved)

/-- A thread is written. -/
lemma setThread (ht : s.sched.threads.thread ptr = some t) (hone : Rested t u) :
    NoStart s (s.setThread ptr u) where
  present := present_of_set rfl
  threadList := rfl
  thread q t' ht' := by
    by_cases hq : q = ptr
    · subst hq
      obtain rfl : u = t' := Option.some.inj (Threads.set_thread_same.symm.trans ht')
      exact ⟨t, ht, hone⟩
    · exact ⟨t', (Threads.set_thread_of_ne hq).symm.trans ht', Rested.refl t'⟩
  saved _ := id

/-- The other fields of a thread are written. -/
lemma setFields {f : SleepFields} (hf : (s.fields ptr).saved = TRUE → f.saved = TRUE) :
    NoStart s (s.setFields ptr f) where
  present _ := id
  threadList := rfl
  thread _ t ht := ⟨t, ht, Rested.refl t⟩
  saved q hsaved := by
    show (Function.update s.fields ptr f q).saved = TRUE
    by_cases hq : q = ptr
    · subst hq
      rw [Function.update_self]
      exact hf hsaved
    · rwa [Function.update_of_ne hq]

lemma of_same (hthreads : s'.sched.threads = s.sched.threads) (hfields : s'.fields = s.fields) :
    NoStart s s' where
  present ptr := by
    rw [hthreads]
    exact id
  threadList := by rw [hthreads]
  thread ptr t ht := by
    rw [hthreads] at ht
    exact ⟨t, ht, Rested.refl t⟩
  saved ptr := by
    rw [hfields]
    exact id

/-- The thread of a slot was in the slot before. -/
lemma at_slot (h : NoStart s s') (ht' : s'.At i t') : ∃ t, s.At i t ∧ Rested t t' := by
  obtain ⟨hi, hne, ht'⟩ := ht'
  rw [h.threadList] at hne ht'
  obtain ⟨t, ht, hrest⟩ := h.thread _ t' ht'
  exact ⟨t, ⟨hi, hne, ht⟩, hrest⟩

lemma noneRuns (h : NoStart s s') (hnone : NoneRuns s) : NoneRuns s' := by
  intro i t' ht' hrun
  obtain ⟨t, ht, hrest⟩ := h.at_slot ht'
  exact hnone i t ht (hrest.running hrun)

end NoStart

namespace Calm

lemma refl (s : SleepState) : Calm s s := ⟨NoStart.refl s, rfl⟩

lemma trans (h : Calm s s') (h' : Calm s' s'') : Calm s s'' :=
  ⟨h.toNoStart.trans h'.toNoStart, h'.current.trans h.current⟩

lemma setThread (ht : s.sched.threads.thread ptr = some t) (hone : Rested t u) :
    Calm s (s.setThread ptr u) :=
  ⟨NoStart.setThread ht hone, rfl⟩

lemma setFields {f : SleepFields} (hf : (s.fields ptr).saved = TRUE → f.saved = TRUE) :
    Calm s (s.setFields ptr f) :=
  ⟨NoStart.setFields hf, rfl⟩

end Calm

end NoStart

/-! ## `schedi.c` -/

section Schedi

variable {s s' : SleepState} {p p' : ProcessState} {t : Thread} {ptr ms : ℕ} {tid reason : ℤ}

lemma withThread_calm {body : ℕ → Thread → Except Fault SleepState}
    (hbody : ∀ ptr t, s.sched.threads.thread ptr = some t → body ptr t = .ok s' → Calm s s')
    (h : withThread tid s body = .ok s') : Calm s s' := by
  rcases withThread_inv h with rfl | ⟨ptr, t, -, -, ht, -, hok⟩
  · exact Calm.refl s'
  · exact hbody ptr t ht hok

/-- What the `do_thread_…` functions that only write the state have done. -/
lemma setThreadState_inv {state : ThreadState} (h : setThreadState state tid s = .ok s') :
    s' = s ∨ ∃ ptr t, Names s.sched tid ptr ∧ ptr ≠ 0 ∧ s.sched.threads.thread ptr = some t ∧
      t.Valid ∧ s' = s.setThread ptr { t with state := state } := by
  rcases withThread_inv h with rfl | ⟨ptr, t, hnames, hne, ht, hvalid, hok⟩
  · exact .inl rfl
  · cases hok
    exact .inr ⟨ptr, t, hnames, hne, ht, hvalid, rfl⟩

lemma setThreadState_calm {state : ThreadState} (hstate : state ≠ .RUNNING ∧ state ≠ .STANDBY)
    (h : setThreadState state tid s = .ok s') : Calm s s' := by
  rcases setThreadState_inv h with rfl | ⟨ptr, t, -, -, ht, -, rfl⟩
  · exact Calm.refl s'
  · exact Calm.setThread ht ⟨rfl, .inr hstate⟩

lemma doThreadZombie_calm (h : doThreadZombie tid s = .ok s') : Calm s s' := by
  refine withThread_calm (fun ptr t ht hok => ?_) h
  split_ifs at hok
  · cases hok
    exact Calm.refl s
  · cases hok
    exact Calm.setThread ht ⟨rfl, .inr ⟨nofun, nofun⟩⟩

lemma doThreadWaiting_calm (h : doThreadWaiting tid ms s = .ok s') : Calm s s' := by
  refine withThread_calm (fun ptr t ht hok => ?_) h
  cases hok
  have hfields : Calm s (s.setFields ptr { s.fields ptr with waitingJiffy := s.sched.jiffies }) :=
    Calm.setFields id
  have hrest : Calm s ((s.setFields ptr { s.fields ptr with waitingJiffy := s.sched.jiffies }).setRest
      ptr (.sleeping (s.sched.jiffies + if ms = 0 then 1 else ms))) :=
    hfields.trans ⟨NoStart.of_same rfl rfl, rfl⟩
  exact hrest.trans (Calm.setThread ht ⟨rfl, .inr ⟨nofun, nofun⟩⟩)

lemma sleepUntil_calm (h : sleepUntil tid ms s = .ok s') : Calm s s' := by
  rw [sleepUntil] at h
  by_cases hrange : tid < 0 ∨ tid ≥ THREAD_COUNT_MAX
  · rw [if_pos hrange] at h
    cases h
    exact Calm.refl s
  · rw [if_neg hrange] at h
    exact doThreadWaiting_calm h

lemma sleep_calm (h : sleep tid ms s = .ok s') : Calm s s' := by
  refine withThread_calm (fun ptr t ht hok => ?_) h
  cases hok
  exact Calm.setFields id

lemma yield_calm (h : yield tid s = .ok s') : Calm s s' := by
  refine withThread_calm (fun ptr t ht hok => ?_) h
  cases hok
  exact Calm.setFields id

lemma waitForAReason_calm (h : waitForAReason tid reason s = .ok s') : Calm s s' := by
  rw [waitForAReason] at h
  by_cases hreason : reason < 0 ∨ reason ≥ 10
  · rw [if_pos hreason] at h
    cases h
    exact Calm.refl s
  · rw [if_neg hreason] at h
    refine withThread_calm (fun ptr t ht hok => ?_) h
    cases hok
    have hrest : Calm s (s.setRest ptr .waitingForReason) := ⟨NoStart.of_same rfl rfl, rfl⟩
    exact hrest.trans (Calm.setThread ht ⟨rfl, .inr ⟨(fun h => by cases h), (fun h => by cases h)⟩⟩)

/-- `do_thread_ready` makes a thread ready, or does nothing. -/
lemma doThreadReady_inv {s s' : SchedState} (h : doThreadReady tid s = .ok s') :
    s' = s ∨ ∃ ptr t, s.threads.thread ptr = some t ∧
      s' = s.setThread ptr { t with state := .READY, readyJiffy := s.jiffies } := by
  simp only [doThreadReady] at h
  split_ifs at h
  · cases h
    exact .inl rfl
  · cases h
    exact .inl rfl
  · obtain ⟨t, ht, h⟩ := bind_eq_ok h
    split_ifs at h
    · cases h
      exact .inl rfl
    · cases h
      exact .inl rfl
    · cases h
      exact .inr ⟨_, t, Threads.deref_eq_ok.1 ht, rfl⟩

lemma readyThread_calm (h : readyThread tid s = .ok s') : Calm s s' := by
  obtain ⟨sched, hready, h⟩ := bind_eq_ok h
  cases h
  rcases doThreadReady_inv hready with rfl | ⟨ptr, t, ht, rfl⟩
  · exact Calm.refl s
  · exact Calm.setThread ht ⟨rfl, .inr ⟨nofun, nofun⟩⟩

lemma wakeupThread_calm (h : wakeupThread tid s = .ok s') : Calm s s' := by
  refine withThread_calm (fun ptr t ht hok => ?_) h
  split_ifs at hok
  · cases hok
    exact Calm.refl s
  · cases hok
    exact Calm.refl s
  · cases hok
    exact Calm.refl s
  · cases hok
    exact Calm.refl s
  · obtain ⟨sched, hready, hok⟩ := bind_eq_ok hok
    cases hok
    have hwoken : readyThread tid s = .ok { s with sched := sched } := by rw [readyThread, hready, ok_bind]
    exact (readyThread_calm hwoken).trans ⟨NoStart.of_same rfl rfl, rfl⟩

lemma wakeupThreadReason_calm (h : wakeupThreadReason tid reason s = .ok s') : Calm s s' := by
  cases h

lemma exitThread_calm (h : exitThread tid s = .ok s') : Calm s s' := by
  rw [exitThread] at h
  by_cases hrange : tid < 0 ∨ tid ≥ THREAD_COUNT_MAX
  · rw [if_pos hrange] at h
    cases h
    exact Calm.refl s
  · rw [if_neg hrange] at h
    simp only [panicIf_bind_ok, deref_bind_ok] at h
    obtain ⟨-, idle, -, -, -, h⟩ := h
    by_cases hnull : s.sched.threads.threadList tid.toNat = 0
    · rw [if_pos hnull] at h
      cases h
      exact Calm.refl s
    · rw [if_neg hnull] at h
      obtain ⟨t, ht, h⟩ := deref_bind_ok.1 h
      by_cases hmagic : t.magic ≠ 1234
      · rw [if_pos hmagic] at h
        cases h
        exact Calm.refl s
      · rw [if_neg hmagic] at h
        cases h
        exact Calm.setThread ht ⟨rfl, .inl rfl⟩

lemma onSleep_inv {f : SleepState → Except Fault SleepState} (h : onSleep f p = .ok p') :
    ∃ s', f p.toSleepState = .ok s' ∧ p' = { p with toSleepState := s' } := by
  obtain ⟨s', hf, h⟩ := bind_eq_ok h
  cases h
  exact ⟨s', hf, rfl⟩

/-- A function that is calm where it looks at nothing but the threads. -/
lemma onSleep_calm {f : SleepState → Except Fault SleepState}
    (hf : ∀ s', f p.toSleepState = .ok s' → Calm p.toSleepState s') (h : onSleep f p = .ok p') :
    Calm p.toSleepState p'.toSleepState := by
  obtain ⟨s', hok, rfl⟩ := onSleep_inv h
  exact hf s' hok

lemma doWaitpid_calm (h : doWaitpid p = .ok p') : Calm p.toSleepState p'.toSleepState := by
  simp only [doWaitpid] at h
  split_ifs at h
  · cases h
    exact Calm.refl _
  · obtain ⟨t, ht, h⟩ := deref_bind_ok.1 h
    cases h
    exact Calm.setThread ht ⟨rfl, .inr ⟨nofun, nofun⟩⟩
  · cases h
    exact Calm.refl _

lemma setCurrentThread_noStart (h : setCurrentThread tid s = .ok s') : NoStart s s' := by
  rw [setCurrentThread] at h
  by_cases hsame : tid = s.currentThread
  · rw [if_pos hsame] at h
    cases h
    exact NoStart.refl s
  · rw [if_neg hsame] at h
    rcases withThread_inv h with rfl | ⟨ptr, t, -, -, -, -, hok⟩
    · exact NoStart.refl s'
    · cases hok
      exact NoStart.of_same rfl rfl

end Schedi

/-! ## A tick -/

section Tick

variable {s s' : SleepState} {t u : Thread} {ptr : ℕ}

lemma tick_calm (s : SleepState) : Calm s (tick s) := ⟨NoStart.of_same rfl rfl, rfl⟩

/-- A request to sleep is met. -/
lemma met_calm {s₁ s₂ : SleepState} {f : SleepFields} {tid : ℤ} {ms : ℕ} (hcalm : Calm s s₁)
    (ht : s₁.sched.threads.thread ptr = some t) (hone : Rested t u)
    (hok : sleepUntil tid ms (s₁.setThread ptr u) = .ok s₂) (hf : f.saved = (s₂.fields ptr).saved) :
    Calm s (s₂.setFields ptr f) := by
  have hset : Calm s (s₁.setThread ptr u) := hcalm.trans (Calm.setThread ht hone)
  exact (hset.trans (sleepUntil_calm hok)).trans (Calm.setFields fun hsaved => hf.trans hsaved)

lemma stillInQuantum_calm (ht : s.sched.threads.thread ptr = some t) (hone : Rested t u)
    (h : stillInQuantum ptr u s = .ok s') : Calm s s' := by
  have hcount : ∀ n, Calm s (s.setThread ptr { u with runningCount := n }) := fun n =>
    Calm.setThread ht ⟨hone.tid, hone.state⟩
  simp only [stillInQuantum] at h
  split_ifs at h with hyield hslept hslept
  · obtain ⟨s₁, hok, h⟩ := bind_eq_ok h
    cases h
    refine met_calm ?_ Threads.set_thread_same ?_ hok rfl
    · exact (hcount u.quantum).trans (Calm.setFields id)
    · exact ⟨rfl, .inl rfl⟩
  · cases h
    exact (hcount u.quantum).trans (Calm.setFields id)
  · obtain ⟨s₁, hok, h⟩ := bind_eq_ok h
    cases h
    refine met_calm ?_ Threads.set_thread_same ?_ hok rfl
    · exact hcount u.runningCount
    · exact ⟨rfl, .inl rfl⟩
  · cases h
    exact hcount u.runningCount

/-- What the task switch has done with the current thread. -/
lemma taskSwitch_inv (h : taskSwitch s = .ok s') :
    ∃ ptr t, ptr = s.sched.threads.threadList s.currentThread.toNat ∧
      s.sched.threads.thread ptr = some t ∧
      (s.taskSwitchStatus = LOCKED ∧
          s' = s.setThread ptr { t with runningCount := ulongAdd t.runningCount 1 } ∨
        ulongAdd t.runningCount 1 < t.quantum ∧
          stillInQuantum ptr { t with runningCount := ulongAdd t.runningCount 1 }
            (s.setFields ptr { s.fields ptr with saved := TRUE }) = .ok s' ∨
        s' = tsOnFinishedExecuting ptr { t with runningCount := ulongAdd t.runningCount 1 }
          (s.setFields ptr { s.fields ptr with saved := TRUE })) := by
  rw [taskSwitch] at h
  by_cases hrange : s.currentThread < 0 ∨ s.currentThread ≥ THREAD_COUNT_MAX
  · rw [if_pos hrange] at h
    cases h
  rw [if_neg hrange] at h
  by_cases hnull : s.sched.threads.threadList s.currentThread.toNat = 0
  · rw [if_pos hnull] at h
    cases h
  rw [if_neg hnull] at h
  obtain ⟨t, ht, h⟩ := deref_bind_ok.1 h
  refine ⟨_, t, rfl, ht, ?_⟩
  by_cases hvalid : ¬ t.Valid
  · rw [if_pos hvalid] at h
    cases h
  rw [if_neg hvalid] at h
  by_cases hlocked : s.taskSwitchStatus = LOCKED
  · rw [if_pos hlocked] at h
    cases h
    exact .inl ⟨hlocked, rfl⟩
  rw [if_neg hlocked] at h
  by_cases hstatus : s.taskSwitchStatus ≠ UNLOCKED
  · rw [if_pos hstatus] at h
    cases h
  rw [if_neg hstatus] at h
  by_cases hin : ulongAdd t.runningCount 1 < t.quantum
  · rw [if_pos hin] at h
    exact .inr (.inl ⟨hin, h⟩)
  · rw [if_neg hin] at h
    cases h
    exact .inr (.inr rfl)

lemma tsOnFinishedExecuting_calm (ht : s.sched.threads.thread ptr = some t) (hone : Rested t u) :
    Calm s (tsOnFinishedExecuting ptr u s) := by
  rw [tsOnFinishedExecuting]
  split_ifs
  · exact Calm.setThread ht ⟨hone.tid, .inr ⟨(fun h => by cases h), (fun h => by cases h)⟩⟩
  · exact Calm.setThread ht hone

lemma taskSwitch_calm (h : taskSwitch s = .ok s') : Calm s s' := by
  obtain ⟨ptr, t, -, ht, hdone⟩ := taskSwitch_inv h
  have hcount : Rested t { t with runningCount := ulongAdd t.runningCount 1 } := ⟨rfl, .inl rfl⟩
  have hsaved : Calm s (s.setFields ptr { s.fields ptr with saved := TRUE }) :=
    Calm.setFields fun _ => rfl
  rcases hdone with ⟨-, rfl⟩ | ⟨-, hin⟩ | rfl
  · exact Calm.setThread ht hcount
  · exact hsaved.trans (stillInQuantum_calm ht hcount hin)
  · exact hsaved.trans (tsOnFinishedExecuting_calm ht hcount)

/-- **A thread whose quantum is over stops running**, and with it the only one that did. -/
lemma taskSwitch_noneRuns (hover : QuantumOver s) (hlow : 0 ≤ s.currentThread)
    (hrunning : ∀ i t, s.At i t → t.state = .RUNNING → (i : ℤ) = s.currentThread)
    (h : taskSwitch s = .ok s') : NoneRuns s' := by
  intro i u hu hrun
  obtain ⟨u₀, hu₀, hrest⟩ := (taskSwitch_calm h).at_slot hu
  have hslot : i = s.currentThread.toNat := by
    have := hrunning i u₀ hu₀ (hrest.running hrun)
    omega
  have hthread := hu.2.2
  rw [(taskSwitch_calm h).threadList, hslot] at hthread
  obtain ⟨ptr, t, hptr, ht, hdone⟩ := taskSwitch_inv h
  rw [← hptr] at hthread
  have hquantum : t.quantum ≤ ulongAdd t.runningCount 1 := by
    have := hover.2
    rw [← hptr, ht, Option.any_some] at this
    exact of_decide_eq_true this
  rcases hdone with ⟨hlocked, -⟩ | ⟨hin, -⟩ | rfl
  · exact hover.1 hlocked
  · exact absurd hquantum (not_le.2 hin)
  · rw [tsOnFinishedExecuting] at hthread
    split_ifs at hthread with hwas
    · obtain rfl := Option.some.inj (Threads.set_thread_same.symm.trans hthread)
      cases hrun
    · obtain rfl := Option.some.inj (Threads.set_thread_same.symm.trans hthread)
      exact hwas hrun

end Tick

/-! ## The scheduler -/

/-- What a round can do to a thread. -/
structure Shifted (t t' : Thread) : Prop where
  tid : t'.tid = t.tid
  state : t'.state = t.state ∨ t'.state = .READY ∨ t'.state = .ZOMBIE

section Scheduler

variable {s s' : SchedState} {p p' : ProcessState} {t t' t'' : Thread} {tmp i garbage : ℕ} {tid : ℤ}

lemma Shifted.refl (t : Thread) : Shifted t t := ⟨rfl, .inl rfl⟩

lemma Shifted.trans (h : Shifted t t') (h' : Shifted t' t'') : Shifted t t'' := by
  refine ⟨h'.tid.trans h.tid, ?_⟩
  rcases h'.state with hsame | hrest
  · rw [hsame]
    exact h.state
  · exact .inr hrest

lemma Shifted.rested (h : Shifted t t') : Rested t t' := by
  refine ⟨h.tid, h.state.imp_right fun hstate => ?_⟩
  rcases hstate with hready | hzombie
  · exact ⟨by rw [hready]; exact nofun, by rw [hready]; exact nofun⟩
  · exact ⟨by rw [hzombie]; exact nofun, by rw [hzombie]; exact nofun⟩

lemma Turned.shifted {j : ℕ} (h : Turned j t t') : Shifted t t' := by
  refine ⟨h.same.tid, ?_⟩
  rcases h.state with hsame | hzombie | ⟨hready, -⟩
  · exact .inl hsame
  · exact .inr (.inr hzombie)
  · exact .inr (.inl hready)

/-- The threads are not touched. -/
lemma Carried.of_same {R : Thread → Thread → Prop} (hR : ∀ t, R t t) (hglobals : SameGlobals s s')
    (hthreads : s'.threads = s.threads) : Carried R s s' where
  globals := hglobals
  thread ptr t ht := ⟨t, by rw [hthreads, ht], hR t⟩
  null ptr hnone := by rw [hthreads, hnone]

lemma Carried.andThen {s'' : SchedState} (h : Carried Shifted s s') (h' : Carried Shifted s' s'') :
    Carried Shifted s s'' :=
  h.trans (fun hfirst hlast => hfirst.trans hlast) h'

lemma setThread_shifted (ht : s.threads.thread tmp = some t) (hone : Shifted t t') :
    Carried Shifted s (s.setThread tmp t') :=
  Carried.of_set Shifted.refl ⟨rfl, rfl, rfl, rfl, rfl⟩ rfl ht hone

lemma doThreadReady_shifted (h : doThreadReady tid s = .ok s') : Carried Shifted s s' := by
  rcases doThreadReady_inv h with rfl | ⟨ptr, t, ht, rfl⟩
  · exact Carried.refl Shifted.refl s'
  · exact setThread_shifted ht ⟨rfl, .inr (.inl rfl)⟩

lemma wakeWaiting_shifted (h : wakeWaiting tmp s = .ok s') : Carried Shifted s s' := by
  obtain ⟨t, ht, h⟩ := deref_bind_ok.1 h
  by_cases hwaiting : t.Valid ∧ t.state = .WAITING
  · rw [if_pos hwaiting] at h
    have halarm : Shifted t (if s.jiffies > t.alarm then { t with alarm := 0 } else t) := by
      split_ifs
      · exact ⟨rfl, .inl rfl⟩
      · exact Shifted.refl t
    have hset := setThread_shifted ht halarm
    dsimp only at h
    generalize (if s.jiffies > t.alarm then { t with alarm := 0 } else t) = u at h hset
    split_ifs at h
    · exact hset.andThen (doThreadReady_shifted h)
    · cases h
      exact hset
  · rw [if_neg hwaiting] at h
    cases h
    exact Carried.refl Shifted.refl s

lemma reapZombie_shifted {r : ℕ × SchedState} (h : reapZombie tmp s = .ok r) : Carried Shifted s r.2 := by
  obtain ⟨t, ht, h⟩ := deref_bind_ok.1 h
  by_cases hzombie : t.Valid ∧ t.state = .ZOMBIE
  · rw [if_pos hzombie] at h
    obtain ⟨s₁, hglobals, hthreads, h⟩ : ∃ s₁ : SchedState, SameGlobals s s₁ ∧ s₁.threads = s.threads ∧
        (if tmp = s₁.initThread then
          (.error (.panic "__scheduler_rr: Can't kill InitThread\n") : Except Fault (ℕ × SchedState))
        else .ok (0, s₁.setThread tmp { t with used := FALSE, magic := 0 })) = .ok r := by
      refine ⟨_, ?_, ?_, h⟩
      · split_ifs <;> exact ⟨rfl, rfl, rfl, rfl, rfl⟩
      · split_ifs <;> rfl
    split_ifs at h
    cases h
    exact (Carried.of_same Shifted.refl hglobals hthreads).andThen
      (setThread_shifted (t := t) (by rw [hthreads, ht]) ⟨rfl, .inl rfl⟩)
  · rw [if_neg hzombie] at h
    cases h
    exact Carried.refl Shifted.refl s

/-- The body of the loop, at any slot. -/
lemma rrSlot_shifted (h : rrSlot s i = .ok s') : Carried Shifted s s' := by
  simp only [rrSlot] at h
  split_ifs at h
  · cases h
    exact Carried.refl Shifted.refl s
  · obtain ⟨s₁, hwake, h⟩ := bind_eq_ok h
    obtain ⟨⟨tmp, s₂⟩, hreap, h⟩ := bind_eq_ok h
    obtain ⟨s₃, hlink, h⟩ := bind_eq_ok h
    obtain ⟨s₄, hexit, hcredits⟩ := bind_eq_ok h
    have hreaped := (wakeWaiting_shifted hwake).andThen (reapZombie_shifted hreap)
    have hlinked : Carried Shifted s₂ s₃ :=
      (linkReady_carried (j := 0) hlink).mono fun _ _ h => h.toTurned.shifted
    have hexited : Carried Shifted s₃ s₄ :=
      (finishExit_carried (j := 0) hexit).mono fun _ _ h => h.toTurned.shifted
    have hcredited : Carried Shifted s₄ s' :=
      (useCredits_carried (j := 0) hcredits).mono fun _ _ h => h.toTurned.shifted
    exact hreaped.andThen ((hlinked.andThen hexited).andThen hcredited)

lemma qlistSetElement_same (index : ℤ) (ptr : ℕ) (s : SchedState) :
    SameGlobals s (qlistSetElement index ptr s).2 ∧ (qlistSetElement index ptr s).2.threads = s.threads := by
  rw [qlistSetElement]
  split_ifs <;> exact ⟨⟨rfl, rfl, rfl, rfl, rfl⟩, rfl⟩

lemma setHead_shifted (ptr : ℕ) (s : SchedState) : Carried Shifted s (setHead ptr s) := by
  have hset : ∀ (index : ℤ) (s : SchedState), Carried Shifted s (qlistSetElement index ptr s).2 :=
    fun index s => Carried.of_same Shifted.refl (qlistSetElement_same index ptr s).1
      (qlistSetElement_same index ptr s).2
  have hcurrent : Carried Shifted s { s with currentq := ptr } :=
    Carried.of_same Shifted.refl ⟨rfl, rfl, rfl, rfl, rfl⟩ rfl
  have hp6 : ∀ s : SchedState, Carried Shifted s { s with p6q := ptr } := fun s =>
    Carried.of_same Shifted.refl ⟨rfl, rfl, rfl, rfl, rfl⟩ rfl
  exact (hcurrent.andThen (hset _ _)).andThen
    ((hp6 _).andThen (hset _ _))

lemma wakeInit_shifted (h : wakeInit garbage t s = .ok s') : Carried Shifted s s' := by
  rw [wakeInit] at h
  split_ifs at h
  · obtain ⟨u, -, h⟩ := deref_bind_ok.1 h
    exact doThreadReady_shifted h
  · cases h
    exact Carried.refl Shifted.refl s

lemma finishRound_shifted (h : finishRound s = .ok s') : Carried Shifted s s' := by
  obtain ⟨last, hlast, h⟩ := deref_bind_ok.1 h
  cases h
  have hnext : Shifted last { last with next := 0 } := ⟨rfl, .inl rfl⟩
  exact (setThread_shifted hlast hnext).andThen
    (Carried.of_same Shifted.refl ⟨rfl, rfl, rfl, rfl, rfl⟩ rfl)

/-- **A round** of the scheduler, of whatever table. -/
lemma schedulerRr_shifted (h : schedulerRr garbage s = .ok (tid, s')) : Carried Shifted s s' := by
  rw [schedulerRr] at h
  by_cases hinit : (clearQueues s).info.initialized ≠ TRUE
  · rw [if_pos hinit] at h
    cases h
  rw [if_neg hinit] at h
  by_cases hpolicy : (clearQueues s).info.policy ≠ SCHED_POLICY_RR
  · rw [if_pos hpolicy] at h
    cases h
  rw [if_neg hpolicy] at h
  by_cases hnull : (clearQueues s).idleThread = 0
  · rw [if_pos hnull] at h
    cases h
  rw [if_neg hnull] at h
  obtain ⟨idle, hidle, h⟩ := deref_bind_ok.1 h
  have hclear : Carried Shifted s (clearQueues s) :=
    Carried.of_same Shifted.refl ⟨rfl, rfl, rfl, rfl, rfl⟩ rfl
  have hstabilized : Carried Shifted (clearQueues s)
      ((clearQueues s).setThread (clearQueues s).idleThread (stabilized idle)) :=
    setThread_shifted hidle ⟨rfl, .inl rfl⟩
  have hstart := (hclear.andThen hstabilized).andThen (setHead_shifted (clearQueues s).idleThread _)
  dsimp only at h
  generalize setHead (clearQueues s).idleThread
    ((clearQueues s).setThread (clearQueues s).idleThread (stabilized idle)) = s₀ at h hstart
  split_ifs at h
  obtain ⟨s₁, hwake, h⟩ := bind_eq_ok h
  obtain ⟨s₂, hrun, h⟩ := bind_eq_ok h
  obtain ⟨s₃, hfinish, h⟩ := bind_eq_ok h
  cases h
  have hloop : Carried Shifted s₁ s₂ :=
    runs_keep (J := Carried Shifted s₁) (fun _ _ _ hbefore hslot =>
      hbefore.andThen (rrSlot_shifted hslot)) _ s₁ s₂ (Carried.refl Shifted.refl s₁) hrun
  exact ((hstart.andThen (wakeInit_shifted hwake)).andThen hloop).andThen (finishRound_shifted hfinish)

lemma scheduler_shifted (h : scheduler garbage s = .ok (tid, s')) : Carried Shifted s s' := by
  rw [scheduler] at h
  by_cases hsystem : s.systemState ≠ SYSTEM_RUNNING
  · rw [if_pos hsystem] at h
    cases h
  rw [if_neg hsystem] at h
  by_cases hnone : s.threadsCounter = 0
  · rw [if_pos hnone] at h
    cases h
  rw [if_neg hnone] at h
  by_cases hinit : s.info.initialized ≠ TRUE
  · rw [if_pos hinit] at h
    cases h
  rw [if_neg hinit] at h
  by_cases hpolicy : s.info.policy = SCHED_POLICY_RR
  swap
  · rw [if_neg hpolicy] at h
    by_cases hqueues : s.info.policy = SCHED_POLICY_QUEUES
    · rw [if_pos hqueues] at h
      cases h
    · rw [if_neg hqueues] at h
      cases h
  rw [if_pos hpolicy] at h
  obtain ⟨⟨first, s₁⟩, hrr, h⟩ := bind_eq_ok h
  dsimp only at h
  by_cases hnull : s₁.idleThread = 0
  · rw [if_pos hnull] at h
    cases h
  rw [if_neg hnull] at h
  obtain ⟨idle, -, h⟩ := deref_bind_ok.1 h
  split_ifs at h
  cases h
  have hbefore : Carried Shifted s { s with systemState := SYSTEM_SCHEDULING } :=
    Carried.of_same Shifted.refl ⟨rfl, rfl, rfl, rfl, rfl⟩ rfl
  exact (hbefore.andThen (schedulerRr_shifted hrr)).andThen
    (Carried.of_same Shifted.refl ⟨rfl, rfl, rfl, rfl, rfl⟩ rfl)

/-- What the scheduler does, among the threads. -/
lemma Carried.noStart {s s' : SleepState} (h : Carried Shifted s.sched s'.sched)
    (hfields : s'.fields = s.fields) : NoStart s s' where
  present ptr hptr := by
    obtain ⟨t, ht⟩ := Option.isSome_iff_exists.1 hptr
    obtain ⟨t', ht', -⟩ := h.thread ptr t ht
    rw [ht']
    rfl
  threadList := h.globals.threadList
  thread ptr t' ht' := by
    obtain ⟨t, ht, hone⟩ := h.before ht'
    exact ⟨t, ht, hone.rested⟩
  saved ptr := by
    rw [hfields]
    exact id

lemma reschedule_noStart (h : reschedule garbage p = .ok p') :
    NoStart p.toSleepState p'.toSleepState := by
  obtain ⟨⟨tid, p₁⟩, hscheduler, h⟩ := bind_eq_ok h
  cases h
  rw [psScheduler] at hscheduler
  by_cases hlocked : p.schedulerStatus = LOCKED
  · rw [if_pos hlocked] at hscheduler
    cases hscheduler
    exact NoStart.of_same rfl rfl
  rw [if_neg hlocked] at hscheduler
  by_cases hnone : p.sched.threadsCounter = 0
  · rw [if_pos hnone] at hscheduler
    cases hscheduler
  rw [if_neg hnone] at hscheduler
  by_cases hone : p.sched.threadsCounter = 1
  · rw [if_pos hone] at hscheduler
    obtain ⟨t, -, hscheduler⟩ := deref_bind_ok.1 hscheduler
    cases hscheduler
    exact NoStart.of_same rfl rfl
  rw [if_neg hone] at hscheduler
  obtain ⟨⟨first, sched⟩, hround, hscheduler⟩ := bind_eq_ok hscheduler
  cases hscheduler
  exact Carried.noStart (scheduler_shifted hround) rfl

lemma nextInRound_noStart (h : nextInRound garbage p = .ok p') :
    NoStart p.toSleepState p'.toSleepState := by
  obtain ⟨t, -, h⟩ := deref_bind_ok.1 h
  split_ifs at h
  · exact reschedule_noStart h
  · cases h
    exact NoStart.of_same rfl rfl

/-- The choice of the next thread starts nobody. -/
lemma zeroGravity_noStart (h : zeroGravity garbage p = .ok p') :
    NoStart p.toSleepState p'.toSleepState := by
  simp only [zeroGravity] at h
  split_ifs at h
  · cases h
    exact NoStart.of_same rfl rfl
  · exact nextInRound_noStart h
  · obtain ⟨t, ht, h⟩ := deref_bind_ok.1 h
    split_ifs at h
    · cases h
      have hset : NoStart p.toSleepState (p.putThread p.timeoutThread
          { t with waitingForTimeout := FALSE, next := 0 }).toSleepState :=
        NoStart.setThread ht ⟨rfl, .inl rfl⟩
      exact hset.trans (NoStart.of_same rfl rfl)
    · exact nextInRound_noStart h

end Scheduler

/-! ## Threads that start to run -/

section Starts

variable {s s' : SleepState} {p p' : ProcessState} {t : Thread} {ptr : ℕ} {tid : ℤ}

/-- `set_current_thread`, for a valid thread. -/
lemma setCurrentThread_inv (hnames : Names s.sched tid ptr) (ht : s.sched.threads.thread ptr = some t)
    (hvalid : t.Valid) (hne : ptr ≠ 0) (h : setCurrentThread tid s = .ok s') :
    s' = { s with currentThread := tid } := by
  rw [setCurrentThread] at h
  by_cases hsame : tid = s.currentThread
  · rw [if_pos hsame] at h
    cases h
    rw [hsame]
  · obtain ⟨hlow, hhigh, hslot⟩ := hnames
    rw [if_neg hsame, withThread, if_neg (by omega), hslot, if_neg hne, Threads.deref_eq_ok.2 ht,
      ok_bind, if_neg (not_not.2 hvalid.1), if_neg (not_not.2 hvalid.2)] at h
    exact (Except.ok.inj h).symm

/-- **A spawn**: a thread in standby, whose context was never saved, runs and is the current one. -/
lemma psSpawnThreadByTid_inv (h : psSpawnThreadByTid tid p = .ok p') :
    ∃ t ptr, Names p.sched tid ptr ∧ ptr ≠ 0 ∧ p.sched.threads.thread ptr = some t ∧ t.tid = tid ∧
      t.state = .STANDBY ∧ (p.fields ptr).saved ≠ TRUE ∧
      p'.sched.threads = p.sched.threads.set ptr (spawned p.sched.initThread t) ∧
      (∀ q, q ≠ ptr → p'.fields q = p.fields q) ∧ p'.currentThread = tid := by
  simp only [psSpawnThreadByTid, panicIf_bind_ok, deref_bind_ok, not_not] at h
  obtain ⟨hrange, -, hne, t, ht, hvalid, htid, hstate, hsaved, howner, hpid, h⟩ := h
  have hmod : tid % 2 ^ 16 = tid := by
    rw [THREAD_COUNT_MAX] at hrange
    omega
  rw [hmod] at hne ht htid hsaved howner hpid h
  obtain ⟨p₁, hset, h⟩ := bind_eq_ok h
  simp only [panicIf_bind_ok] at h
  obtain ⟨-, -, h⟩ := h
  cases h
  obtain ⟨s', hcurrent, rfl⟩ := onSleep_inv hset
  refine ⟨t, _, ⟨by omega, by omega, rfl⟩, hne, ht, htid, hstate, hsaved, ?_⟩
  have hnow := setCurrentThread_inv (t := spawned p.sched.initThread t)
    ⟨by omega, by omega, by rw [htid]; rfl⟩ Threads.set_thread_same hvalid hne hcurrent
  rw [hnow]
  exact ⟨rfl, fun q hq => Function.update_of_ne hq .., htid⟩

/-- What the search for a thread in standby spawns. -/
lemma schediCheckForStandby_inv (h : schediCheckForStandby p = .ok (some p')) :
    ∃ p₁ tid, NoStart p.toSleepState p₁.toSleepState ∧ psSpawnThreadByTid tid p₁ = .ok p' := by
  rw [schediCheckForStandby] at h
  cases hscan : Scan.forward (StandbyAt p.sched) THREAD_COUNT_MAX.toNat 0 with
  | none =>
      rw [hscan] at h
      cases h
  | some i =>
      rw [hscan] at h
      obtain ⟨t, -, h⟩ := deref_bind_ok.1 h
      simp only [panicIf_bind_ok] at h
      obtain ⟨-, -, h⟩ := h
      obtain ⟨p₁, hset, h⟩ := bind_eq_ok h
      obtain ⟨p₂, hspawn, h⟩ := bind_eq_ok h
      cases h
      obtain ⟨s', hcurrent, rfl⟩ := onSleep_inv hset
      exact ⟨_, t.tid, setCurrentThread_noStart hcurrent, hspawn⟩

/-- `dispatcher`, where it returns. -/
lemma dispatcher_inv (h : dispatcher tid s = .ok s') :
    ∃ t ptr, s.sched.threads.threadList tid.toNat = ptr ∧ s.sched.threads.thread ptr = some t ∧
      s'.sched.threads = s.sched.threads.set ptr (dispatched t) ∧
      (∀ q, q ≠ ptr → s'.fields q = s.fields q) ∧ s'.currentThread = tid := by
  simp only [dispatcher] at h
  split_ifs at h
  obtain ⟨t, ht, h⟩ := deref_bind_ok.1 h
  split_ifs at h
  cases h
  exact ⟨t, _, rfl, ht, rfl, fun q hq => Function.update_of_ne hq .., rfl⟩

/-- **A dispatch**: a thread that is ready runs and is the current one. -/
lemma dispatchCurrent_inv (h : dispatchCurrent tid p = .ok p') :
    ∃ t ptr, Names p.sched tid ptr ∧ ptr ≠ 0 ∧ p.sched.threads.thread ptr = some t ∧
      t.state = .READY ∧ p'.sched.threads = p.sched.threads.set ptr (dispatched (limited t)) ∧
      (∀ q, q ≠ ptr → p'.fields q = p.fields q) ∧ p'.currentThread = tid := by
  simp only [dispatchCurrent, panicIf_bind_ok, deref_bind_ok, not_not] at h
  obtain ⟨hrange, hne, t, ht, -, hstate, h⟩ := h
  obtain ⟨p₁, hdispatch, h⟩ := bind_eq_ok h
  simp only [setOwner, panicIf_bind_ok] at h
  obtain ⟨-, -, -, -, h⟩ := h
  cases h
  obtain ⟨s', hok, rfl⟩ := onSleep_inv hdispatch
  refine ⟨t, _, ⟨by omega, by omega, rfl⟩, hne, ht, hstate, ?_⟩
  obtain ⟨u, q, hq, hu, hthreads, hfields, hcurrent⟩ := dispatcher_inv hok
  obtain rfl : p.sched.threads.threadList tid.toNat = q := hq
  obtain rfl := Option.some.inj (Threads.set_thread_same.symm.trans hu)
  exact ⟨hthreads.trans Threads.set_set, hfields, hcurrent⟩

end Starts

end Gramado
