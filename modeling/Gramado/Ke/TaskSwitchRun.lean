import Gramado.Ke.CloneThreads
import Gramado.Ke.TaskSwitchKeep

/-!
# One running thread

* `Orderly` — the invariant: a thread of the table that runs is the current one, no task switch is under
  way, and it is not parked; who is ready is not parked; who is in standby although it is parked has a
  saved context, so that `__spawn_thread_by_tid_imp` stops the system instead of running it.
* `StepOk` — what is asked of a step.
* `oneRunning_run` — in a run of such steps at most one thread runs, the current one, and who is a
  zombie, blocked or waiting does not run before it has been ready.
-/

namespace Gramado

open StepRun

/-! ## The invariant -/

/-- The thread is a zombie, blocked or waiting. -/
def ThreadState.Parks (state : ThreadState) : Prop :=
  state = .ZOMBIE ∨ state = .BLOCKED ∨ state = .WAITING

instance (state : ThreadState) : Decidable state.Parks := inferInstanceAs (Decidable (_ ∨ _))

/-- At most one thread of the table runs, and if one does, it is the one that `current_thread` names. -/
structure OneRunning (s : SleepState) : Prop where
  unique : ∀ i j t u, s.At i t → s.At j u → t.state = .RUNNING → u.state = .RUNNING → i = j
  current : ∀ i t, s.At i t → t.state = .RUNNING → (i : ℤ) = s.currentThread ∧ t.tid = s.currentThread

/-- **The invariant.** -/
structure Orderly (s : TsState) : Prop where
  tids : ∀ i t, s.At i t → t.tid = i
  running : ∀ i t, s.At i t → t.state = .RUNNING → s.label = .done ∧ (i : ℤ) = s.currentThread ∧
    s.parked (s.sched.threads.threadList i) = false
  standby : ∀ i t, s.At i t → t.state = .STANDBY → s.parked (s.sched.threads.threadList i) = true →
    (s.fields (s.sched.threads.threadList i)).saved = TRUE
  parks : ∀ ptr t, s.sched.threads.thread ptr = some t → t.state.Parks → s.parked ptr = true
  ready : ∀ ptr t, s.sched.threads.thread ptr = some t → t.state = .READY → s.parked ptr = false
  unborn : ∀ ptr, s.sched.threads.thread ptr = none → s.parked ptr = false

/-- What is to be shown of a step that leads to `p`: the invariant, and no structure has gone. -/
structure Next (s : TsState) (label : TsLabel) (p : ProcessState) : Prop where
  orderly : Orderly (s.after label p)
  present : Present s.toSleepState p.toSleepState

section Invariant

variable {s : TsState} {p p' : ProcessState} {label : TsLabel} {t u : Thread} {ptr i : ℕ}

lemma parkedAfter_true {before : Bool} (h : parkedAfter before (some t) = true) :
    t.state.Parks ∨ before = true ∧ t.state ≠ .READY := by
  simp only [parkedAfter] at h
  cases hstate : t.state with
  | ZOMBIE => exact .inl (.inl rfl)
  | BLOCKED => exact .inl (.inr (.inl rfl))
  | WAITING => exact .inl (.inr (.inr rfl))
  | READY => simp [hstate] at h
  | INITIALIZED => exact .inr ⟨by simpa [hstate] using h, nofun⟩
  | STANDBY => exact .inr ⟨by simpa [hstate] using h, nofun⟩
  | DEAD => exact .inr ⟨by simpa [hstate] using h, nofun⟩
  | RUNNING => exact .inr ⟨by simpa [hstate] using h, nofun⟩

lemma parkedAfter_parks {before : Bool} (h : t.state.Parks) : parkedAfter before (some t) = true := by
  rcases h with h | h | h <;> simp [parkedAfter, h]

/-- The record after a step. -/
lemma after_parked {o : Option Thread} (ho : p.sched.threads.thread ptr = o) :
    (s.after label p).parked ptr = parkedAfter (s.parked ptr) o := by
  rw [← ho]
  rfl

lemma Orderly.one (h : Orderly s) : OneRunning s.toSleepState where
  unique i j t u ht hu hrun hrun' := by
    have hi := (h.running i t ht hrun).2.1
    have hj := (h.running j u hu hrun').2.1
    omega
  current i t ht hrun :=
    ⟨(h.running i t ht hrun).2.1, (h.tids i t ht).trans (h.running i t ht hrun).2.1⟩

lemma Orderly.noneRuns (h : Orderly s) (hlabel : s.label ≠ .done) : NoneRuns s.toSleepState :=
  fun i t ht hrun => hlabel (h.running i t ht hrun).1

/-- What is to be shown of the state after a step. -/
lemma Orderly.after (htids : ∀ i t, p.At i t → t.tid = i)
    (hrunning : ∀ i t, p.At i t → t.state = .RUNNING → label = .done ∧ (i : ℤ) = p.currentThread ∧
      s.parked (p.sched.threads.threadList i) = false)
    (hstandby : ∀ i t, p.At i t → t.state = .STANDBY →
      s.parked (p.sched.threads.threadList i) = true →
        (p.fields (p.sched.threads.threadList i)).saved = TRUE) : Orderly (s.after label p) where
  tids := htids
  running i t ht hrun := by
    obtain ⟨hlabel, hcurrent, hparked⟩ := hrunning i t ht hrun
    refine ⟨hlabel, hcurrent, ?_⟩
    have hslot : p.sched.threads.thread (p.sched.threads.threadList i) = some t := ht.2.2
    show (s.after label p).parked (p.sched.threads.threadList i) = false
    rw [after_parked hslot]
    simpa only [parkedAfter, hrun] using hparked
  standby i t ht hstate hparked := by
    have hslot : p.sched.threads.thread (p.sched.threads.threadList i) = some t := ht.2.2
    have hrecord : (s.after label p).parked (p.sched.threads.threadList i) = true := hparked
    rw [after_parked hslot] at hrecord
    refine hstandby i t ht hstate ?_
    simpa only [parkedAfter, hstate] using hrecord
  parks ptr t ht hparks := by
    exact (after_parked ht).trans (parkedAfter_parks hparks)
  ready ptr t ht hready := by
    have hclear : parkedAfter (s.parked ptr) (some t) = false := by simp only [parkedAfter, hready]
    exact (after_parked ht).trans hclear
  unborn ptr hnone := after_parked (p := p) hnone

/-- **A step that starts nobody**, and leaves the current thread the current one where somebody runs. -/
lemma Orderly.noStart (h : Orderly s) (hstep : NoStart s.toSleepState p.toSleepState)
    (hrun : NoneRuns p.toSleepState ∨ label = .done ∧ p.currentThread = s.currentThread) :
    Next s label p := by
  refine ⟨Orderly.after (fun i t ht => ?_) (fun i t ht hstate => ?_) fun i t ht hstate hparked => ?_,
    hstep.present⟩
  · obtain ⟨t₀, ht₀, hrest⟩ := hstep.at_slot ht
    exact hrest.tid.trans (h.tids i t₀ ht₀)
  · obtain ⟨t₀, ht₀, hrest⟩ := hstep.at_slot ht
    obtain ⟨hlabel, hcurrent, hparked⟩ := h.running i t₀ ht₀ (hrest.running hstate)
    rcases hrun with hnone | ⟨hdone, hsame⟩
    · exact absurd hstate (hnone i t ht)
    · rw [hstep.threadList]
      exact ⟨hdone, hcurrent.trans hsame.symm, hparked⟩
  · obtain ⟨t₀, ht₀, hrest⟩ := hstep.at_slot ht
    rw [hstep.threadList] at hparked ⊢
    exact hstep.saved _ (h.standby i t₀ ht₀ (hrest.standby hstate) hparked)

lemma Orderly.calm (h : Orderly s) (hstep : Calm s.toSleepState p.toSleepState) :
    Next s .done p :=
  h.noStart hstep.toNoStart (.inr ⟨rfl, hstep.current⟩)

/-- **A step that starts one thread**, after a part that starts nobody: the thread in the slot `i`, when
nobody else runs and it is not parked. -/
lemma Orderly.starts (h : Orderly s) (hstep : NoStart s.toSleepState p.toSleepState) (ht : p.At i t)
    (hothers : ∀ k u, p.At k u → u.state = .RUNNING → k = i)
    (hparked : s.parked (p.sched.threads.threadList i) = false)
    (hthreads : p'.sched.threads = p.sched.threads.set (p.sched.threads.threadList i) u)
    (htid : u.tid = t.tid) (hstate : u.state = .RUNNING) (hcurrent : p'.currentThread = i)
    (hsaved : ∀ q, q ≠ p.sched.threads.threadList i → (p.fields q).saved = TRUE →
      (p'.fields q).saved = TRUE) : Next s .done p' := by
  have hlist : p'.sched.threads.threadList = p.sched.threads.threadList := by rw [hthreads]; rfl
  have htids : ∀ k v, p.At k v → v.tid = k := fun k v hv => by
    obtain ⟨v₀, hv₀, hrest⟩ := hstep.at_slot hv
    exact hrest.tid.trans (h.tids k v₀ hv₀)
  -- the slot of a thread afterwards: it is the one that was started, or nothing has changed there
  have hslot : ∀ k v, p'.At k v → (k = i ∧ v = u) ∨
      p.At k v ∧ p.sched.threads.threadList k ≠ p.sched.threads.threadList i := by
    rintro k v ⟨hk, hne, hv⟩
    rw [hlist] at hne hv
    rw [hthreads] at hv
    by_cases hptr : p.sched.threads.threadList k = p.sched.threads.threadList i
    · have hki := htids k t ⟨hk, hne, by rw [hptr]; exact ht.2.2⟩
      rw [htids i t ht] at hki
      rw [hptr] at hv
      exact .inl ⟨by omega, (Option.some.inj (Threads.set_thread_same.symm.trans hv)).symm⟩
    · exact .inr ⟨⟨hk, hne, (Threads.set_thread_of_ne hptr).symm.trans hv⟩, hptr⟩
  refine ⟨Orderly.after (fun k v hv => ?_) (fun k v hv hrun => ?_) fun k v hv hstandby hrecord => ?_,
    fun q hq => present_of_set hthreads q (hstep.present q hq)⟩
  · rcases hslot k v hv with ⟨rfl, rfl⟩ | ⟨hv, -⟩
    · exact htid.trans (htids k t ht)
    · exact htids k v hv
  · rw [hlist]
    rcases hslot k v hv with ⟨rfl, rfl⟩ | ⟨hv, hne⟩
    · exact ⟨rfl, hcurrent.symm, hparked⟩
    · exact absurd (congrArg p.sched.threads.threadList (hothers k v hv hrun)) hne
  · rcases hslot k v hv with ⟨rfl, rfl⟩ | ⟨hv, hne⟩
    · rw [hstate] at hstandby
      cases hstandby
    · rw [hlist] at hrecord ⊢
      obtain ⟨v₀, hv₀, hrest⟩ := hstep.at_slot hv
      rw [hstep.threadList] at hrecord hne ⊢
      rw [hstep.threadList] at hsaved
      exact hsaved _ hne (hstep.saved _ (h.standby k v₀ hv₀ (hrest.standby hstandby) hrecord))

/-- **A clone**, of a parent whose control thread is not parked. -/
lemma Orderly.cloning {env : CloneEnv} {parent : ℕ} (h : Orderly s)
    (hfresh : FreshThread env s.toProcessState)
    (hclear : s.parked (s.process parent).control = false)
    (hclone : Cloning env parent s.toProcessState p) : Next s .done p := by
  -- the new thread, or one of the old ones in its slot
  have hslot : ∀ k v, p.At k v → p.sched.threads.threadList k = env.threadObject ∧ v.tid = k ∨
      p.sched.threads.threadList k ≠ env.threadObject ∧
        p.sched.threads.threadList k = s.sched.threads.threadList k ∧ ∃ v₀, s.At k v₀ ∧
          v.tid = v₀.tid ∧ (v.state = v₀.state ∨
            p.sched.threads.threadList k = (s.process parent).control ∧ v.state = .RUNNING ∧
              v₀.tid = s.currentThread) := by
    rintro k v ⟨hk, hne, hv⟩
    by_cases hobject : p.sched.threads.threadList k = env.threadObject
    · rcases hclone.slots k with hsame | ⟨-, htid⟩
      · exact absurd (hsame.symm.trans hobject) (hfresh.unlisted k)
      · exact .inl ⟨hobject, htid v (hobject ▸ hv)⟩
    · have hsame : p.sched.threads.threadList k = s.sched.threads.threadList k :=
        (hclone.slots k).resolve_right fun hnew => hobject hnew.1
      obtain ⟨v₀, hv₀, hother⟩ := hclone.other _ v hobject hv
      rw [hsame] at hne hv₀
      exact .inr ⟨hobject, hsame, v₀, ⟨hk, hne, hv₀⟩, hother⟩
  refine ⟨Orderly.after (fun k v hv => ?_) (fun k v hv hrun => ?_) fun k v hv hstandby hrecord => ?_,
    hclone.present⟩
  · rcases hslot k v hv with ⟨-, htid⟩ | ⟨-, -, v₀, hv₀, htid, -⟩
    · exact htid
    · exact htid.trans (h.tids k v₀ hv₀)
  · rcases hslot k v hv with ⟨hobject, -⟩ | ⟨-, hsame, v₀, hv₀, -, hstate | ⟨hcontrol, -, htid⟩⟩
    · exact absurd hrun (hclone.child v (hobject ▸ hv.2.2))
    · obtain ⟨-, hcurrent, hparked⟩ := h.running k v₀ hv₀ (hstate.symm.trans hrun)
      rw [hsame]
      exact ⟨rfl, hcurrent.trans hclone.current.symm, hparked⟩
    · rw [hcontrol]
      exact ⟨rfl, ((h.tids k v₀ hv₀).symm.trans htid).trans hclone.current.symm, hclear⟩
  · rcases hslot k v hv with ⟨hobject, -⟩ | ⟨hne, hsame, v₀, hv₀, -, hstate | ⟨-, hrunning, -⟩⟩
    · rw [hobject, h.unborn _ hfresh.thread] at hrecord
      cases hrecord
    · rw [hclone.saved _ hne]
      rw [hsame] at hrecord ⊢
      exact h.standby k v₀ hv₀ (hstate.symm.trans hstandby) hrecord
    · rw [hrunning] at hstandby
      cases hstandby

end Invariant

/-! ## The condition -/

/-- A thread may be put in standby: it is not parked, or its context is saved. -/
def MayStandby (s : TsState) (ptr : ℕ) : Prop :=
  s.parked ptr = true → (s.fields ptr).saved = TRUE

/-- What is asked of a step: `do_thread_running`, which nobody calls, is called for the current thread
and that thread is not parked; no parked thread whose context was never saved is put in standby; a
process does not clone itself while its control thread is parked; and the allocator gives memory that is
not in use. -/
def StepOk (s : TsState) : TsEvent → Prop
  | .call (.doThreadRunning tid) => ∀ ptr t, Names s.sched tid ptr →
      s.sched.threads.thread ptr = some t → t.Valid → tid = s.currentThread ∧ s.parked ptr = false
  | .call (.doThreadStandby tid) => ∀ ptr t, Names s.sched tid ptr →
      s.sched.threads.thread ptr = some t → t.Valid → MayStandby s ptr
  | .call (.startThread thread) => ∀ t, s.sched.threads.thread thread = some t → t.Valid →
      MayStandby s thread
  | .call (.createThread env _ _) => FreshThread env s.toProcessState
  | .call (.copyProcess env _ pid) => FreshObjects env s.toProcessState ∧
      (AsksParent s.toProcessState pid →
        s.parked (s.process (s.processList pid.toNat)).control = false)
  | _ => True

/-! ## Steps -/

section Steps

variable {s s' : TsState} {p p' : ProcessState} {label : TsLabel} {t u : Thread} {ptr i garbage : ℕ}
  {tid wsPid : ℤ} {callbackReady : Bool}

/-- A thread is put in standby. -/
lemma Orderly.putStandby (h : Orderly s)
    (ht : s.sched.threads.thread ptr = some t) (hmay : MayStandby s ptr) (htid : u.tid = t.tid)
    (hstate : u.state = .STANDBY) (hthreads : p.sched.threads = s.sched.threads.set ptr u)
    (hfields : p.fields = s.fields) (hcurrent : p.currentThread = s.currentThread) :
    Next s .done p := by
  have hlist : p.sched.threads.threadList = s.sched.threads.threadList := by rw [hthreads]; rfl
  have hslot : ∀ k v, p.At k v → s.sched.threads.threadList k = ptr ∧ v = u ∧ s.At k t ∨ s.At k v := by
    rintro k v ⟨hk, hne, hv⟩
    rw [hlist] at hne hv
    rw [hthreads] at hv
    by_cases hptr : s.sched.threads.threadList k = ptr
    · rw [hptr] at hv
      exact .inl ⟨hptr, (Option.some.inj (Threads.set_thread_same.symm.trans hv)).symm, hk, hne,
        by rw [hptr]; exact ht⟩
    · exact .inr ⟨hk, hne, (Threads.set_thread_of_ne hptr).symm.trans hv⟩
  refine ⟨Orderly.after (fun k v hv => ?_) (fun k v hv hrun => ?_) fun k v hv hstandby hrecord => ?_,
    present_of_set hthreads⟩
  · rcases hslot k v hv with ⟨-, rfl, hold⟩ | hold
    · exact htid.trans (h.tids k t hold)
    · exact h.tids k v hold
  · rcases hslot k v hv with ⟨-, rfl, -⟩ | hold
    · rw [hstate] at hrun
      cases hrun
    · rw [hlist, hcurrent]
      exact ⟨rfl, (h.running k v hold hrun).2⟩
  · rw [hlist] at hrecord ⊢
    rw [hfields]
    rcases hslot k v hv with ⟨hptr, -, -⟩ | hold
    · rw [hptr] at hrecord ⊢
      exact hmay hrecord
    · exact h.standby k v hold hstandby hrecord

/-- The slot of a thread that a tid names. -/
lemma at_of_names {s : SleepState} (hnames : Names s.sched tid ptr) (hne : ptr ≠ 0)
    (ht : s.sched.threads.thread ptr = some t) : s.At tid.toNat t := by
  obtain ⟨hlow, hhigh, hslot⟩ := hnames
  refine ⟨by omega, ?_, ?_⟩
  · rwa [hslot]
  · rwa [hslot]

/-- A thread in standby is spawned, when nobody runs. -/
lemma Orderly.spawn (h : Orderly s) (hstep : NoStart s.toSleepState p.toSleepState)
    (hnone : NoneRuns p.toSleepState) (hok : psSpawnThreadByTid tid p = .ok p') :
    Next s .done p' := by
  obtain ⟨t, ptr, hnames, hne, ht, htid, hstate, hsaved, hthreads, hfields, hcurrent⟩ :=
    psSpawnThreadByTid_inv hok
  have hat := at_of_names hnames hne ht
  obtain ⟨hlow, -, hslot⟩ := hnames
  obtain ⟨t₀, ht₀, hrest⟩ := hstep.at_slot hat
  -- a parked thread in standby has a saved context, and the spawn stops there
  have hparked : s.parked (p.sched.threads.threadList tid.toNat) = false := by
    rw [hstep.threadList]
    refine Bool.eq_false_iff.2 fun hparked => hsaved ?_
    have hwas := hstep.saved _ (h.standby _ t₀ ht₀ (hrest.standby hstate) hparked)
    rwa [← hstep.threadList, hslot] at hwas
  refine h.starts hstep hat (fun k u hu hrun => absurd hrun (hnone k u hu)) hparked
    (u := spawned p.sched.initThread t) ?_ rfl rfl ?_ ?_
  · rw [hslot]
    exact hthreads
  · rw [hcurrent]
    omega
  · intro q hq hwas
    rw [hfields q (hslot ▸ hq)]
    exact hwas

/-- A thread that is ready is dispatched, when nobody runs. -/
lemma Orderly.dispatch (h : Orderly s) (hnone : NoneRuns s.toSleepState)
    (hok : dispatchCurrent tid s.toProcessState = .ok p') : Next s .done p' := by
  obtain ⟨t, ptr, hnames, hne, ht, hstate, hthreads, hfields, hcurrent⟩ := dispatchCurrent_inv hok
  have hat : s.At tid.toNat t := at_of_names hnames hne ht
  obtain ⟨hlow, -, hslot⟩ := hnames
  refine h.starts (NoStart.refl _) hat (fun k u hu hrun => absurd hrun (hnone k u hu)) ?_
    (u := dispatched (limited t)) ?_ rfl rfl ?_ ?_
  · rw [hslot]
    exact h.ready ptr t ht hstate
  · rw [hslot]
    exact hthreads
  · rw [hcurrent]
    omega
  · intro q hq hwas
    rw [hfields q (hslot ▸ hq)]
    exact hwas

lemma checkCurrentOwner_inv (hok : checkCurrentOwner p = .ok p') :
    p'.toSleepState = p.toSleepState ∧ 0 ≤ p.currentThread := by
  simp only [checkCurrentOwner, panicIf_bind_ok, deref_bind_ok, not_not] at hok
  obtain ⟨hrange, -, t, -, -, -, -, -, -, hok⟩ := hok
  cases hok
  exact ⟨rfl, by omega⟩

/-- **The timer**: the task switch returns, spawns, or goes on with nobody running. -/
lemma Orderly.timer (h : Orderly s)
    (hok : irq0Timer wsPid callbackReady s.toProcessState = .ok (label, p)) :
    Next s label p := by
  have htick : Calm s.toSleepState (tick s.toSleepState) := tick_calm _
  simp only [irq0Timer, tsTaskSwitch, panicIf_bind_ok] at hok
  obtain ⟨-, -, hok⟩ := hok
  split_ifs at hok
  · cases hok
    exact h.calm htick
  · rw [startSwitch] at hok
    obtain ⟨p₁, howner, hok⟩ := bind_eq_ok hok
    obtain ⟨hsame, hlow⟩ := checkCurrentOwner_inv howner
    dsimp only at hok
    obtain ⟨p₂, hswitch, hok⟩ := bind_eq_ok hok
    obtain ⟨s₂, htask, rfl⟩ := onSleep_inv hswitch
    rw [hsame] at htask hok
    have hcalm := htick.trans (taskSwitch_calm htask)
    by_cases hover : QuantumOver (tick s.toSleepState)
    · rw [if_pos hover] at hok
      have hnone : NoneRuns s₂ := by
        refine taskSwitch_noneRuns hover hlow (fun i t ht hrun => ?_) htask
        obtain ⟨t₀, ht₀, hrest⟩ := htick.at_slot ht
        exact (h.running i t₀ ht₀ (hrest.running hrun)).2.1
      obtain ⟨found, hcheck, hok⟩ := bind_eq_ok hok
      cases found with
      | none =>
          cases hok
          exact h.noStart hcalm.toNoStart (.inl hnone)
      | some p₃ =>
          cases hok
          obtain ⟨p₄, tid, hset, hspawn⟩ := schediCheckForStandby_inv hcheck
          exact h.spawn (hcalm.toNoStart.trans hset) (hset.noneRuns hnone) hspawn
    · rw [if_neg hover] at hok
      cases hok
      exact h.calm hcalm

lemma Orderly.goAhead (h : Orderly s) (hlabel : s.label ≠ .done)
    (hok : goAhead garbage s.toProcessState = .ok (label, p)) : Next s label p := by
  have hnone := h.noneRuns hlabel
  have hagain : ∀ {p₁ : ProcessState}, reschedule garbage s.toProcessState = .ok p₁ →
      Next s .zeroGravity p₁ := fun hschedule =>
    h.noStart (reschedule_noStart hschedule) (.inl ((reschedule_noStart hschedule).noneRuns hnone))
  rw [Gramado.goAhead] at hok
  by_cases hnull : s.sched.currentq = 0
  · rw [if_pos hnull] at hok
    obtain ⟨p₁, hschedule, hok⟩ := bind_eq_ok hok
    cases hok
    exact hagain hschedule
  rw [if_neg hnull] at hok
  obtain ⟨t, -, hok⟩ := deref_bind_ok.1 hok
  by_cases hready : t.Valid ∧ t.state = .READY
  · rw [if_pos hready] at hok
    obtain ⟨p₁, hdispatch, hok⟩ := bind_eq_ok hok
    cases hok
    exact h.dispatch hnone hdispatch
  · rw [if_neg hready] at hok
    obtain ⟨p₁, hschedule, hok⟩ := bind_eq_ok hok
    cases hok
    exact hagain hschedule

/-- A function that comes back. -/
lemma returned_inv {x : Except Fault ProcessState} (h : tsCall.returned x = .ok (label, p)) :
    label = .done ∧ x = .ok p := by
  obtain ⟨p₁, hx, h⟩ := bind_eq_ok h
  cases h
  exact ⟨rfl, hx⟩

/-- A call that is calm. -/
lemma Orderly.returned {f : SleepState → Except Fault SleepState} (h : Orderly s)
    (hf : ∀ s', f s.toSleepState = .ok s' → Calm s.toSleepState s')
    (hok : tsCall.returned (onSleep f s.toProcessState) = .ok (label, p)) :
    Next s label p := by
  obtain ⟨rfl, hcall⟩ := returned_inv hok
  exact h.calm (onSleep_calm hf hcall)

/-- A new thread in the table is in no state to be run. -/
lemma Orderly.createThread {env : CloneEnv} {pid : ℤ} {cpl : ℕ} (h : Orderly s)
    (hfresh : FreshThread env s.toProcessState)
    (hok : createThread env pid cpl s.toProcessState = .ok (some p)) : Next s .done p := by
  obtain ⟨k, hcreate, rfl⟩ := createThread_some.1 hok
  have hslot : ∀ j v, (addThread env pid cpl (s.processList pid.toNat) k s.toProcessState).At j v →
      j = k ∧ v = createdThread k ∨ s.At j v ∧ s.sched.threads.threadList j =
        (addThread env pid cpl (s.processList pid.toNat) k s.toProcessState).sched.threads.threadList j ∧
          s.sched.threads.threadList j ≠ env.threadObject := by
    rintro j v ⟨hj, hne, hv⟩
    by_cases hjk : j = k
    · subst hjk
      have hnew : (addThread env pid cpl (s.processList pid.toNat) j
          s.toProcessState).sched.threads.threadList j = env.threadObject := Function.update_self ..
      rw [hnew] at hv
      exact .inl ⟨rfl, (Option.some.inj (addThread_thread.symm.trans hv)).symm⟩
    · have hold : (addThread env pid cpl (s.processList pid.toNat) k
          s.toProcessState).sched.threads.threadList j = s.sched.threads.threadList j :=
        Function.update_of_ne hjk ..
      rw [hold] at hne hv
      exact .inr ⟨⟨hj, hne, (Threads.set_thread_of_ne (hfresh.unlisted j)).symm.trans hv⟩, hold.symm,
        hfresh.unlisted j⟩
  refine ⟨Orderly.after (fun j v hv => ?_) (fun j v hv hrun => ?_) fun j v hv hstandby hrecord => ?_,
    fun q hq => isSome_putThread (p := (s.putFields env.threadObject _).putOwner env.threadObject _) hq⟩
  · rcases hslot j v hv with ⟨rfl, rfl⟩ | ⟨hold, -⟩
    · rfl
    · exact h.tids j v hold
  · rcases hslot j v hv with ⟨rfl, rfl⟩ | ⟨hold, hsame, -⟩
    · cases hrun
    · rw [← hsame]
      exact ⟨rfl, (h.running j v hold hrun).2⟩
  · rcases hslot j v hv with ⟨rfl, rfl⟩ | ⟨hold, hsame, hne⟩
    · cases hstandby
    · rw [← hsame] at hrecord ⊢
      show (Function.update s.fields env.threadObject _ _).saved = TRUE
      rw [Function.update_of_ne hne]
      exact h.standby j v hold hstandby hrecord

/-- `do_thread_running`, for the current thread. -/
lemma Orderly.doThreadRunning (h : Orderly s) (hok : StepOk s (.call (.doThreadRunning tid)))
    (hcall : onSleep (doThreadRunning tid) s.toProcessState = .ok p) : Next s .done p := by
  obtain ⟨s', hset, rfl⟩ := onSleep_inv hcall
  rcases setThreadState_inv hset with rfl | ⟨ptr, t, hnames, hne, ht, hvalid, rfl⟩
  · exact h.calm (Calm.refl _)
  · obtain ⟨rfl, hparked⟩ := hok ptr t hnames ht hvalid
    have hat := at_of_names hnames hne ht
    obtain ⟨hlow, -, hslot⟩ := hnames
    refine h.starts (NoStart.refl _) hat (fun k u hu hrun => ?_) ?_
      (u := { t with state := .RUNNING }) ?_ rfl rfl ?_ fun _ _ => id
    · have hk := (h.running k u hu hrun).2.1
      omega
    · rw [hslot]
      exact hparked
    · rw [hslot]
      rfl
    · show s.currentThread = (s.currentThread.toNat : ℤ)
      omega

/-- `do_thread_standby`. -/
lemma Orderly.doThreadStandby (h : Orderly s) (hok : StepOk s (.call (.doThreadStandby tid)))
    (hcall : onSleep (doThreadStandby tid) s.toProcessState = .ok p) : Next s .done p := by
  obtain ⟨s', hset, rfl⟩ := onSleep_inv hcall
  rcases setThreadState_inv hset with rfl | ⟨ptr, t, hnames, -, ht, hvalid, rfl⟩
  · exact h.calm (Calm.refl _)
  · have hmay := hok ptr t hnames ht hvalid
    exact h.putStandby (u := { t with state := .STANDBY }) ht hmay rfl rfl rfl rfl rfl

/-- `core_start_thread`. -/
lemma Orderly.startThread {thread : ℕ} (h : Orderly s) (hok : StepOk s (.call (.startThread thread)))
    (hcall : coreStartThread thread s.toProcessState = .ok p) : Next s .done p := by
  rw [coreStartThread] at hcall
  by_cases hnull : thread = 0
  · rw [if_pos hnull] at hcall
    cases hcall
    exact h.calm (Calm.refl _)
  rw [if_neg hnull] at hcall
  obtain ⟨t, ht, hcall⟩ := deref_bind_ok.1 hcall
  by_cases hused : t.used ≠ TRUE
  · rw [if_pos hused] at hcall
    cases hcall
    exact h.calm (Calm.refl _)
  rw [if_neg hused] at hcall
  by_cases hmagic : t.magic ≠ 1234
  · rw [if_pos hmagic] at hcall
    cases hcall
    exact h.calm (Calm.refl _)
  rw [if_neg hmagic, schediSelectForExecution_ok hnull] at hcall
  obtain ⟨u, hu, rfl⟩ := hcall
  obtain rfl := Option.some.inj (ht.symm.trans hu)
  have hmay := hok t ht ⟨not_not.1 hused, not_not.1 hmagic⟩
  exact h.putStandby (u := { t with state := .STANDBY }) ht hmay rfl rfl rfl rfl rfl

/-- **A call**, from where no task switch is under way. -/
lemma Orderly.call {c : TsCall} (h : Orderly s) (hok : StepOk s (.call c))
    (hcall : tsCall s.toProcessState c = .ok (label, p)) : Next s label p := by
  cases c with
  | timer wsPid callbackReady => exact h.timer hcall
  | doThreadBlocked tid =>
      exact h.returned (fun _ => setThreadState_calm ⟨by decide, by decide⟩) hcall
  | doThreadDead tid =>
      exact h.returned (fun _ => setThreadState_calm ⟨by decide, by decide⟩) hcall
  | doThreadInitialized tid =>
      exact h.returned (fun _ => setThreadState_calm ⟨by decide, by decide⟩) hcall
  | doThreadReady tid => exact h.returned (fun _ => readyThread_calm) hcall
  | doThreadRunning tid =>
      obtain ⟨rfl, hdone⟩ := returned_inv hcall
      exact h.doThreadRunning hok hdone
  | doThreadStandby tid =>
      obtain ⟨rfl, hdone⟩ := returned_inv hcall
      exact h.doThreadStandby hok hdone
  | doThreadWaiting tid ms => exact h.returned (fun _ => doThreadWaiting_calm) hcall
  | doThreadZombie tid => exact h.returned (fun _ => doThreadZombie_calm) hcall
  | sleep tid ms => exact h.returned (fun _ => sleep_calm) hcall
  | sleepUntil tid ms => exact h.returned (fun _ => sleepUntil_calm) hcall
  | yield tid => exact h.returned (fun _ => yield_calm) hcall
  | waitForAReason tid reason => exact h.returned (fun _ => waitForAReason_calm) hcall
  | wakeupThread tid => exact h.returned (fun _ => wakeupThread_calm) hcall
  | wakeupThreadReason tid reason => exact h.returned (fun _ => wakeupThreadReason_calm) hcall
  | doWaitpid =>
      obtain ⟨rfl, hdone⟩ := returned_inv hcall
      exact h.calm (doWaitpid_calm hdone)
  | exitThread tid => exact h.returned (fun _ => exitThread_calm) hcall
  | startThread thread =>
      obtain ⟨rfl, hdone⟩ := returned_inv hcall
      exact h.startThread hok hdone
  | createThread env pid cpl =>
      obtain ⟨created, hcreate, hcall⟩ := bind_eq_ok hcall
      cases hcall
      cases created with
      | none => exact h.calm (Calm.refl _)
      | some p₁ => exact h.createThread hok hcreate
  | copyProcess env filename pid =>
      obtain ⟨⟨r, p₁⟩, hclone, hcall⟩ := bind_eq_ok hcall
      cases hcall
      rcases copyProcess_cloning hok.1 hclone with rfl | ⟨hasks, hcloning⟩
      · exact h.calm (Calm.refl _)
      · exact h.cloning hok.1.toFreshThread (hok.2 hasks) hcloning

/-- **A step** is not possible where the task switch stands, or it is one of those above. -/
lemma tsStep_next {e : TsEvent} (h : Orderly s) (hok : StepOk s e) (hstep : tsStep s e = .ok s') :
    s' = s ∨ ∃ label p, s' = s.after label p ∧ Next s label p := by
  cases hlabel : s.label with
  | done =>
      cases e with
      | call c =>
          simp only [tsStep, hlabel] at hstep
          obtain ⟨⟨label, p⟩, hcall, hstep⟩ := bind_eq_ok hstep
          cases hstep
          exact .inr ⟨label, p, rfl, h.call hok hcall⟩
      | goOn garbage =>
          simp only [tsStep, hlabel] at hstep
          cases hstep
          exact .inl rfl
  | zeroGravity =>
      have hnone := h.noneRuns (by rw [hlabel]; exact nofun)
      cases e with
      | call c =>
          simp only [tsStep, hlabel] at hstep
          cases hstep
          exact .inl rfl
      | goOn garbage =>
          simp only [tsStep, hlabel] at hstep
          obtain ⟨p, hnext, hstep⟩ := bind_eq_ok hstep
          cases hstep
          have hquiet := zeroGravity_noStart hnext
          exact .inr ⟨_, p, rfl, h.noStart hquiet (.inl (hquiet.noneRuns hnone))⟩
  | goAhead =>
      cases e with
      | call c =>
          simp only [tsStep, hlabel] at hstep
          cases hstep
          exact .inl rfl
      | goOn garbage =>
          simp only [tsStep, hlabel] at hstep
          obtain ⟨⟨label, p⟩, hnext, hstep⟩ := bind_eq_ok hstep
          cases hstep
          exact .inr ⟨label, p, rfl, h.goAhead (by rw [hlabel]; exact nofun) hnext⟩

/-- **A step keeps the invariant.** -/
lemma Orderly.step {e : TsEvent} (h : Orderly s) (hok : StepOk s e) (hstep : tsStep s e = .ok s') :
    Orderly s' := by
  rcases tsStep_next h hok hstep with rfl | ⟨label, p, rfl, hnext⟩
  · exact h
  · exact hnext.orderly

/-- Who is parked stays so, until it is ready. -/
lemma Orderly.stays_parked {e : TsEvent} (h : Orderly s) (hok : StepOk s e) (hstep : tsStep s e = .ok s')
    (hparked : s.parked ptr = true) :
    s'.parked ptr = true ∨ ∃ t, s'.sched.threads.thread ptr = some t ∧ t.state = .READY := by
  rcases tsStep_next h hok hstep with rfl | ⟨label, p, rfl, hnext⟩
  · exact .inl hparked
  · have hsome : (s.sched.threads.thread ptr).isSome := by
      by_contra hnone
      rw [h.unborn ptr (Option.not_isSome_iff_eq_none.1 hnone)] at hparked
      cases hparked
    obtain ⟨t, ht⟩ := Option.isSome_iff_exists.1 (hnext.present ptr hsome)
    have hrecord : (s.after label p).parked ptr = parkedAfter (s.parked ptr) (some t) :=
      after_parked ht
    rw [hparked] at hrecord
    rw [hrecord]
    by_cases hready : t.state = .READY
    · exact .inr ⟨t, ht, hready⟩
    · refine .inl ?_
      cases hstate : t.state <;> simp only [parkedAfter, hstate]
      exact absurd hstate hready

end Steps

/-! ## Runs -/

section Runs

variable {s s₁ s₂ : TsState} {es before after : List TsEvent} {t u : Thread} {ptr i : ℕ}

/-- Who was parked at the start of a run and is not at its end has been ready. -/
lemma ready_between (h : Orderly s₁) (hok : Meets tsStep StepOk s₁ es)
    (hrun : runs tsStep s₁ es = .ok s₂) (hparked : s₁.parked ptr = true)
    (hend : s₂.parked ptr = false) :
    ∃ mid rest s t, es = mid ++ rest ∧ runs tsStep s₁ mid = .ok s ∧
      s.sched.threads.thread ptr = some t ∧ t.state = .READY := by
  induction es generalizing s₁ with
  | nil =>
      obtain rfl : s₁ = s₂ := by simpa using hrun
      rw [hparked] at hend
      cases hend
  | cons e es ih =>
      obtain ⟨s, hstep, hrest⟩ := runs_cons_inv hrun
      obtain ⟨hone, hmore⟩ := hok s hstep
      rcases h.stays_parked hone hstep hparked with hstill | ⟨t, ht, hready⟩
      · obtain ⟨mid, rest, s', t, rfl, hmid, ht, hready⟩ := ih (h.step hone hstep) hmore hrest hstill
        exact ⟨e :: mid, rest, s', t, rfl, by rw [runs_cons_ok hstep, hmid], ht, hready⟩
      · exact ⟨[e], es, s, t, rfl, by rw [runs_cons_ok hstep, runs_nil], ht, hready⟩

/-- **One running thread.**  In every run whose steps meet the condition, at most one thread of the table
runs after each step, and it is the one that `current_thread` names; and a thread that is a zombie,
blocked or waiting at some point of the run, and runs at a later one, is ready at a point in between. -/
theorem oneRunning_run (h : Orderly s) (hok : Meets tsStep StepOk s es) :
    Along tsStep (fun s => OneRunning s.toSleepState) s es ∧
      ∀ before after s₁ s₂ t u i, es = before ++ after → runs tsStep s before = .ok s₁ →
        runs tsStep s₁ after = .ok s₂ → s₂.At i u → u.state = .RUNNING →
          s₁.sched.threads.thread (s₂.sched.threads.threadList i) = some t → t.state.Parks →
            ∃ mid rest s' t', after = mid ++ rest ∧ runs tsStep s₁ mid = .ok s' ∧
              s'.sched.threads.thread (s₂.sched.threads.threadList i) = some t' ∧ t'.state = .READY := by
  have hkeep : ∀ s e s', Orderly s → StepOk s e → tsStep s e = .ok s' → Orderly s' :=
    fun s e s' hs he hstep => hs.step he hstep
  refine ⟨(Meets.along hkeep es s h hok).imp fun s hs => hs.one, ?_⟩
  intro before after s₁ s₂ t u i hes hbefore hafter hu hrunning ht hparks
  subst hes
  have h₁ : Orderly s₁ := by
    refine Along.final (Meets.along hkeep before s h ?_) hbefore
    exact hok.of_prefix
  have h₂ : Orderly s₂ := (Meets.along hkeep after s₁ h₁ (hok.of_append hbefore)).final hafter
  exact ready_between h₁ (hok.of_append hbefore) hafter (h₁.parks _ t ht hparks)
    (h₂.running i u hu hrunning).2.2

end Runs

/-! ## Runs of one process -/

/-- The process 5 is at work, and nobody is parked. -/
def workingState : TsState :=
  { callingState FALSE with label := .done, parked := fun _ => false }

lemma workingState_at {i : ℕ} {t : Thread} (h : workingState.At i t) :
    i = 100 ∧ t = { newThread 100 with state := .RUNNING } := by
  obtain ⟨-, hne, ht⟩ := h
  have hlist : workingState.sched.threads.threadList i = if i = 100 then 0x2000 else 0 := rfl
  by_cases hi : i = 100
  · subst hi
    exact ⟨rfl, (Option.some.inj ht).symm⟩
  · rw [hlist, if_neg hi] at hne
    exact absurd rfl hne

lemma workingState_orderly : Orderly workingState where
  tids i t h := by
    obtain ⟨rfl, rfl⟩ := workingState_at h
    rfl
  running i t h _ := by
    obtain ⟨rfl, -⟩ := workingState_at h
    exact ⟨rfl, rfl, rfl⟩
  standby i t h hstate := by
    obtain ⟨-, rfl⟩ := workingState_at h
    cases hstate
  parks ptr t h hparks := by
    have hthread : (if ptr = 0x2000 then some { newThread 100 with state := .RUNNING } else none)
        = some t := h
    by_cases hptr : ptr = 0x2000
    · rw [if_pos hptr] at hthread
      obtain rfl := Option.some.inj hthread
      exact absurd hparks (by decide)
    · rw [if_neg hptr] at hthread
      cases hthread
  ready _ _ _ _ := rfl
  unborn _ _ := rfl

/-- Memory for a clone of the process 5. -/
lemma workingState_fresh : FreshObjects (cloneEnv 0) workingState.toProcessState where
  thread := rfl
  unlisted i := by
    show (if i = 100 then 0x2000 else 0) ≠ 0x4000
    split_ifs <;> decide
  process := callingState_new FALSE 0

/-- A clone, and then the wait for the child. -/
theorem oneRunning_run_cloneFirst :
    Along tsStep (fun s => OneRunning s.toSleepState) workingState
      [.call (.copyProcess (cloneEnv 0) [0x41] 5), .call .doWaitpid] := by
  refine (oneRunning_run workingState_orderly ?_).1
  exact fun _ _ => ⟨⟨workingState_fresh, fun _ => rfl⟩, fun _ _ => ⟨trivial, trivial⟩⟩

/-- What is looked at in the counterexample: the pointer in the slot 100, and the state of that thread. -/
def hundredView : Except Fault TsState → Option (ℕ × ThreadState)
  | .ok s => (s.sched.threads.thread 0x2000).map fun t => (s.sched.threads.threadList 100, t.state)
  | .error _ => none

lemma hundredView_some {x : Except Fault TsState} {ptr : ℕ} {state : ThreadState}
    (h : hundredView x = some (ptr, state)) : ∃ s t, x = .ok s ∧
      s.sched.threads.threadList 100 = ptr ∧ s.sched.threads.thread 0x2000 = some t ∧ t.state = state := by
  cases x with
  | error f => cases h
  | ok s =>
      obtain ⟨t, ht, hview⟩ := Option.map_eq_some_iff.1 h
      simp only [Prod.mk.injEq] at hview
      exact ⟨s, t, rfl, hview.1, ht, hview.2⟩

/-- **A blocked thread is set running, and was never ready**: the process waits for a child, which blocks
its control thread until the next task switch, and makes a clone before that. -/
theorem oneRunning_run_fails : ¬∀ s es, Orderly s →
    ∀ before after s₁ s₂ t u i, es = before ++ after → runs tsStep s before = .ok s₁ →
      runs tsStep s₁ after = .ok s₂ → s₂.At i u → u.state = .RUNNING →
        s₁.sched.threads.thread (s₂.sched.threads.threadList i) = some t → t.state.Parks →
          ∃ mid rest s' t', after = mid ++ rest ∧ runs tsStep s₁ mid = .ok s' ∧
            s'.sched.threads.thread (s₂.sched.threads.threadList i) = some t' ∧ t'.state = .READY := by
  intro hall
  obtain ⟨s₁, t, hfirst, -, ht, hblocked⟩ := hundredView_some
    (by decide +kernel : hundredView (runs tsStep workingState [.call .doWaitpid])
      = some (0x2000, .BLOCKED))
  obtain ⟨s₂, u, hboth, hlist, hu, hrunning⟩ := hundredView_some
    (by decide +kernel : hundredView (runs tsStep workingState
      ([.call .doWaitpid] ++ [.call (.copyProcess (cloneEnv 0) [0x41] 5)])) = some (0x2000, .RUNNING))
  obtain ⟨s, hstart, hsecond⟩ := runs_append_inv hboth
  obtain rfl := Except.ok.inj (hfirst.symm.trans hstart)
  have hat : s₂.At 100 u := ⟨by decide, by rw [hlist]; decide, by rw [hlist]; exact hu⟩
  obtain ⟨mid, rest, s', t', hsplit, hmid, ht', hready⟩ := hall workingState _ workingState_orderly
    [.call .doWaitpid] [.call (.copyProcess (cloneEnv 0) [0x41] 5)] s₁ s₂ t u 100 rfl hfirst hsecond hat
    hrunning (by rw [hlist]; exact ht) (.inr (.inl hblocked))
  rw [hlist] at ht'
  cases mid with
  | nil =>
      -- before the clone the thread is still blocked
      obtain rfl : s₁ = s' := by simpa using hmid
      rw [Option.some.inj (ht'.symm.trans ht), hblocked] at hready
      cases hready
  | cons e mid =>
      -- after the clone it runs
      obtain ⟨rfl, hnil⟩ := List.cons.inj hsplit
      obtain ⟨rfl, -⟩ := List.append_eq_nil_iff.1 hnil.symm
      obtain rfl := Except.ok.inj (hsecond.symm.trans hmid)
      rw [Option.some.inj (ht'.symm.trans hu), hrunning] at hready
      cases hready

end Gramado
