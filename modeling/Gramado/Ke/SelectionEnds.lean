import Gramado.Ke.Selection

/-!
# When the search ends

`Rescheduled` is what a pass does to the state of the task switch.  Behind a pass the list has the idle
thread, and behind it the threads that were due: `ends_after` says what the search makes of this list.
It goes round for ever if no thread is due and the idle thread is not ready (`Stuck`), or if the
scheduler is locked and no thread of the list is ready.
-/

namespace Gramado

open StepRun Cells Loop

/-! ## A pass, seen from the task switch -/

/-- More than one thread, none of them due for its timeout, and the scheduler not locked. -/
structure Searching (p : ProcessState) : Prop where
  table : TableOk p.sched
  counted : p.sched.threadsCounter ≠ 0
  several : p.sched.threadsCounter ≠ 1
  unlocked : p.schedulerStatus ≠ LOCKED
  noTimeout : ¬ TimeoutDue p
  timeout : p.timeoutThread ≠ 0 → (p.sched.threads.thread p.timeoutThread).isSome

/-- What the call of the scheduler has done. -/
structure Rescheduled (p p' : ProcessState) : Prop where
  pass : PassDone p.sched p'.sched
  running : p'.sched.systemState = SYSTEM_RUNNING
  schedulerStatus : p'.schedulerStatus = p.schedulerStatus
  timeoutThread : p'.timeoutThread = p.timeoutThread

section Reschedule

variable {p p' : ProcessState} {s s' : SchedState} {garbage : ℕ}

/-- The state of the system does not matter to the table. -/
lemma TableOk.setSystemState (h : TableOk s) (systemState : ℕ) :
    TableOk { s with systemState := systemState } :=
  ⟨h.initialized, h.policy, h.init, h.idleSlot, h.idle, h.structures, h.distinct, h.tids⟩

/-- The scheduler comes to its end when it can. -/
lemma scheduler_done (h : TableOk s) (hcounter : s.threadsCounter ≠ 0) (hpass : CanPass s) (garbage : ℕ) :
    ∃ s', scheduler garbage s = .ok (SYSTEM_THRESHOLD_TID, s') ∧ PassDone s s' ∧
      s'.systemState = SYSTEM_RUNNING := by
  obtain ⟨hrunning, hsleeps, halive⟩ := hpass
  obtain ⟨s₁, hrr, hdone⟩ := schedulerRr_done (h.setSystemState SYSTEM_SCHEDULING) hsleeps halive garbage
  obtain ⟨idle, hidle, hvalid, htid⟩ := hdone.table.idle_tid
  have hnull : s₁.idleThread ≠ 0 := hdone.table.idle_ne
  refine ⟨{ s₁ with systemState := SYSTEM_RUNNING }, ?_, ?_, rfl⟩
  · simp only [scheduler]
    rw [if_neg (not_not.2 hrunning), if_neg hcounter, if_neg (not_not.2 h.initialized), if_pos h.policy,
      hrr, ok_bind]
    dsimp only
    rw [if_neg hnull, Threads.deref_eq_ok.2 hidle, ok_bind, if_neg (not_not.2 hvalid.2),
      if_neg (not_not.2 htid.symm)]
  · have hcarried := hdone.carried
    exact ⟨hdone.table.setSystemState _,
      ⟨⟨hcarried.globals.initialized, hcarried.globals.policy, hcarried.globals.idleThread,
        hcarried.globals.initThread, hcarried.globals.threadList⟩, hcarried.thread, hcarried.null⟩,
      hdone.jiffies, hdone.head, hdone.chain, hdone.ready, hdone.exits, hdone.idleState, hdone.counter⟩

/-- With a null pointer in its cursor it comes to its end only then. -/
lemma scheduler_inv_null {r : ℤ × SchedState} (h : TableOk s) (hok : scheduler 0 s = .ok r) :
    CanPass s := by
  simp only [scheduler] at hok
  by_cases hrunning : s.systemState ≠ SYSTEM_RUNNING
  · rw [if_pos hrunning] at hok
    cases hok
  rw [if_neg hrunning] at hok
  by_cases hcounter : s.threadsCounter = 0
  · rw [if_pos hcounter] at hok
    cases hok
  rw [if_neg hcounter, if_neg (not_not.2 h.initialized), if_pos h.policy] at hok
  obtain ⟨r₁, hrr, -⟩ := bind_eq_ok hok
  have hpass := schedulerRr_inv_null (h.setSystemState SYSTEM_SCHEDULING) hrr
  exact ⟨not_not.1 hrunning, hpass.1, hpass.2⟩

/-- While the idle thread sleeps, nothing depends on the cursor. -/
lemma scheduler_garbage (h : TableOk s) (hsleeps : IdleSleeps s) (garbage : ℕ) :
    scheduler garbage s = scheduler 0 s := by
  have h₁ := h.setSystemState SYSTEM_SCHEDULING
  obtain ⟨idle, hidle, -⟩ := h₁.idle_tid
  obtain ⟨-, -, -, -, hjiffies, -⟩ := roundStart_fields idle h₁.idle_ne
  have hrr : ∀ g, schedulerRr g { s with systemState := SYSTEM_SCHEDULING } = (do
      let s₁ ← runs rrSlot (roundStart { s with systemState := SYSTEM_SCHEDULING } idle) (slotsFrom 1)
      let s₂ ← finishRound s₁
      .ok (SYSTEM_THRESHOLD_TID, s₂)) := by
    intro g
    rw [schedulerRr_eq h₁ hidle, wakeInit, hjiffies, if_neg (not_le.2 (hsleeps idle hidle)), ok_bind]
  simp only [scheduler, hrr]

lemma reschedule_locked (hlocked : p.schedulerStatus = LOCKED) :
    reschedule garbage p = .ok { p with currentThread := -1 } := by
  rw [reschedule, psScheduler, if_pos hlocked]
  rfl

lemma reschedule_eq (hunlocked : p.schedulerStatus ≠ LOCKED) (hsome : p.sched.threadsCounter ≠ 0)
    (hseveral : p.sched.threadsCounter ≠ 1) :
    reschedule garbage p = (do
      let (tid, sched) ← scheduler garbage p.sched
      .ok { p with sched := sched, currentThread := tid }) := by
  rw [reschedule, psScheduler, if_neg hunlocked, if_neg hsome, if_neg hseveral]
  cases scheduler garbage p.sched <;> rfl

namespace Searching

lemma reschedule_done (h : Searching p) (hpass : CanPass p.sched) (garbage : ℕ) :
    ∃ p', reschedule garbage p = .ok p' ∧ Rescheduled p p' := by
  obtain ⟨s', hscheduler, hdone, hrunning⟩ := scheduler_done h.table h.counted hpass garbage
  refine ⟨{ p with sched := s', currentThread := SYSTEM_THRESHOLD_TID }, ?_, hdone, hrunning, rfl, rfl⟩
  rw [reschedule_eq h.unlocked h.counted h.several, hscheduler]
  rfl

lemma reschedule_inv_null (h : Searching p) (hok : reschedule 0 p = .ok p') : CanPass p.sched := by
  rw [reschedule_eq h.unlocked h.counted h.several] at hok
  obtain ⟨r, hscheduler, -⟩ := bind_eq_ok hok
  exact scheduler_inv_null h.table hscheduler

lemma reschedule_inv (h : Searching p) (hsleeps : IdleSleeps p.sched) (hok : reschedule garbage p = .ok p') :
    CanPass p.sched := by
  apply h.reschedule_inv_null
  rw [← hok, reschedule_eq h.unlocked h.counted h.several, reschedule_eq h.unlocked h.counted h.several,
    scheduler_garbage h.table hsleeps garbage]

end Searching

end Reschedule

/-! ## The threads behind a pass -/

namespace PassDone

variable {s s' : SchedState} {i : ℕ} {ptr : ℕ}

lemma idleThread (h : PassDone s s') : s'.idleThread = s.idleThread := h.carried.globals.idleThread

lemma threadList (h : PassDone s s') : s'.threads.threadList = s.threads.threadList :=
  h.carried.globals.threadList

lemma idleSleeps (h : PassDone s s') (hsleeps : IdleSleeps s) : IdleSleeps s' := by
  intro t' ht'
  rw [h.idleThread] at ht'
  obtain ⟨t, ht, hpassed⟩ := h.carried.before ht'
  rw [h.jiffies, hpassed.wakeJiffy]
  exact hsleeps t ht

/-- The zombies behind a pass are those who were about to exit. -/
lemma noZombie_iff (h : PassDone s s') (halive : NoZombie s) : NoZombie s' ↔ NoneExits s := by
  constructor
  · intro halive' i hi t ht hexit
    obtain ⟨t', ht', hzombie⟩ := h.exits i hi t ht hexit
    exact halive' i hi t' (h.threadList ▸ ht') hzombie
  · intro hnone i hi t' ht' hzombie
    rw [h.threadList] at ht'
    obtain ⟨t, ht, hpassed⟩ := h.carried.before ht'
    have hvalid : t.Valid := hpassed.same.valid.1 hzombie.1
    rcases hpassed.ended hzombie.2 with hzombie' | ⟨-, hexit⟩
    · exact halive i hi t ht ⟨hvalid, hzombie'⟩
    · exact hnone i hi t ht ⟨hvalid, hexit⟩

lemma noneExits (h : PassDone s s') (hnone : NoneExits s) : NoneExits s' := by
  intro i hi t' ht' hexit
  rw [h.threadList] at ht'
  obtain ⟨t, ht, hpassed⟩ := h.carried.before ht'
  exact hnone i hi t ht ⟨hpassed.same.valid.1 hexit.1, hpassed.exitInProgress.symm.trans hexit.2⟩

lemma idleReady_iff (h : PassDone s s') : IdleReady s' ↔ IdleReady s := by
  obtain ⟨t, ht, -⟩ := h.table.idle
  rw [h.idleThread] at ht
  obtain ⟨t₀, ht₀, hpassed⟩ := h.carried.before ht
  obtain ⟨t', ht', hstate⟩ := h.idleState t₀ ht₀
  obtain rfl : t = t' := by simpa using ht.symm.trans ht'
  have hready : t.Ready ↔ t₀.Ready := by
    rw [Thread.Ready, Thread.Ready, hstate, hpassed.same.valid]
  rw [IdleReady, IdleReady, readyPtr, readyPtr, h.idleThread, ht, ht₀, Option.any_some, Option.any_some,
    decide_eq_decide.2 hready]

lemma due_before (h : PassDone s s') (hdue : dueAt s' i) : dueAt s i := by
  obtain ⟨t', ht', hdue⟩ := (Option.any_eq_true _ _).1 hdue
  rw [h.threadList] at ht'
  rw [h.jiffies] at hdue
  obtain ⟨t, ht, hpassed⟩ := h.carried.before ht'
  refine (Option.any_eq_true _ _).2 ⟨t, ht, ?_⟩
  exact decide_eq_true (hpassed.toTurned.due (of_decide_eq_true hdue))

/-- The first thread behind the idle thread is the first one that was due. -/
lemma next_idle (h : PassDone s s') :
    nextOf s'.threads s.idleThread = some (((dueSlots s).map s.threads.threadList).headD 0) := by
  obtain ⟨-, -, next, hnext, hrest⟩ := h.chain
  rw [hnext, dueSlots]
  cases hL : ((slotsFrom 1).filter (dueAt s)).map s.threads.threadList with
  | nil =>
      rw [hL] at hrest
      have hzero : next = 0 := hrest
      rw [hzero, List.headD_nil]
  | cons q L =>
      rw [hL] at hrest
      rw [hrest.1, List.headD_cons]

end PassDone

/-! ## One turn -/

section Turn

variable {p p' q : ProcessState} {garbage : ℕ → ℕ} {list passes next : ℕ} {t : Thread} {c : Choice}

/-- `TimeoutDue` looks at one thread. -/
lemma not_timeoutDue (hthread : p.timeoutThread ≠ 0 → (p.sched.threads.thread p.timeoutThread).isSome)
    (h : ¬ TimeoutDue p) : p.timeoutThread = 0 ∨ ∃ t, p.timeoutThread ≠ 0 ∧
      p.sched.threads.thread p.timeoutThread = some t ∧ ¬ (t.magic = 1234 ∧ t.waitingForTimeout = TRUE) := by
  by_cases hzero : p.timeoutThread = 0
  · exact .inl hzero
  obtain ⟨t, ht⟩ := Option.isSome_iff_exists.1 (hthread hzero)
  refine .inr ⟨t, hzero, ht, fun hdue => h ⟨hzero, ?_⟩⟩
  rw [ht, Option.any_some, decide_eq_true hdue]

/-- `ZeroGravity`, when nobody's time is over. -/
lemma zeroGravity_eq {g : ℕ} (hsome : p.sched.threadsCounter ≠ 0) (hseveral : p.sched.threadsCounter ≠ 1)
    (hthread : p.timeoutThread ≠ 0 → (p.sched.threads.thread p.timeoutThread).isSome)
    (htimeout : ¬ TimeoutDue p) (hnext : nextOf p.sched.threads p.sched.currentq = some next) :
    zeroGravity g p = if next = 0 then reschedule g p
      else .ok { p with sched := { p.sched with currentq := next } } := by
  obtain ⟨t, ht, rfl⟩ := Option.map_eq_some_iff.1 hnext
  have hround : nextInRound g p = if t.next = 0 then reschedule g p
      else .ok { p with sched := { p.sched with currentq := t.next } } := by
    rw [nextInRound, Threads.deref_eq_ok.2 ht, ok_bind]
  rw [zeroGravity, if_neg hsome, if_neg hseveral, ← hround]
  rcases not_timeoutDue hthread htimeout with hzero | ⟨u, hzero, hu, hdue⟩
  · rw [if_pos hzero]
  · rw [if_neg hzero, Threads.deref_eq_ok.2 hu, ok_bind, if_neg hdue]

/-- `go_ahead` at a thread. -/
lemma selectTarget_eq {g : ℕ} (h : (p.sched.threads.thread p.sched.currentq).isSome)
    (hnull : p.sched.currentq ≠ 0) :
    selectTarget g p = if readyPtr p.sched.threads p.sched.currentq then .ok (.inl p.sched.currentq)
      else (do
        let p ← reschedule g p
        .ok (.inr p)) := by
  obtain ⟨t, ht⟩ := Option.isSome_iff_exists.1 h
  have hready : readyPtr p.sched.threads p.sched.currentq = decide (t.Valid ∧ t.state = .READY) := by
    rw [readyPtr, ht]
    rfl
  rw [selectTarget, if_neg hnull, Threads.deref_eq_ok.2 ht, ok_bind, hready]
  by_cases hcheck : t.Valid ∧ t.state = .READY
  · rw [if_pos hcheck, if_pos (decide_eq_true hcheck)]
  · rw [if_neg hcheck, if_neg (by rw [decide_eq_false hcheck]; exact fun h => by cases h)]

/-- A turn whose thread is ready. -/
lemma ends_ready (hzero : zeroGravity (garbage passes) p = .ok q)
    (hsome : (q.sched.threads.thread q.sched.currentq).isSome) (hnull : q.sched.currentq ≠ 0)
    (hready : readyPtr q.sched.threads q.sched.currentq) :
    ∃ c, Ends (searchTurn garbage) ⟨p, list, passes⟩ (.ok c) := by
  refine ⟨⟨q.sched.currentq, q, listAfter p q list⟩, (ends_exit ?_).2 rfl⟩
  rw [searchTurn, hzero, ok_bind, selectTarget_eq hsome hnull, if_pos hready]
  rfl

/-- A turn whose thread is not ready. -/
lemma searchTurn_back (list : ℕ) (hzero : zeroGravity (garbage passes) p = .ok q)
    (hsome : (q.sched.threads.thread q.sched.currentq).isSome) (hnull : q.sched.currentq ≠ 0)
    (hready : ¬ readyPtr q.sched.threads q.sched.currentq) :
    searchTurn garbage ⟨p, list, passes⟩ = (do
      let p' ← reschedule (garbage (passes + 1)) q
      .ok (.inr ⟨p', p'.sched.currentq, passes + 2⟩)) := by
  rw [searchTurn, hzero, ok_bind, selectTarget_eq hsome hnull, if_neg hready]
  cases reschedule (garbage (passes + 1)) q <;> rfl

/-- A turn that stops does not come to a thread. -/
lemma not_ends_of_error {s : Search} {f : Fault} (h : searchTurn garbage s = .error f) :
    ¬ ∃ c, Ends (searchTurn garbage) s (.ok c) := by
  rintro ⟨c, hends⟩
  cases (ends_error h).1 hends

end Turn

/-! ## Behind a pass -/

section After

variable {p q p' : ProcessState} {garbage : ℕ → ℕ} {list passes ptr i : ℕ} {L : List ℕ}

/-- The place in the list does not matter. -/
lemma Searching.setCurrentq (h : Searching p) (ptr : ℕ) :
    Searching { p with sched := { p.sched with currentq := ptr } } :=
  ⟨⟨h.table.initialized, h.table.policy, h.table.init, h.table.idleSlot, h.table.idle, h.table.structures,
    h.table.distinct, h.table.tids⟩, h.counted, h.several, h.unlocked, h.noTimeout, h.timeout⟩

lemma Rescheduled.searching (h : Searching p) (hr : Rescheduled p q) : Searching q where
  table := hr.pass.table
  counted := by
    rw [hr.pass.counter]
    exact h.counted
  several := by
    rw [hr.pass.counter]
    exact h.several
  unlocked := by
    rw [hr.schedulerStatus]
    exact h.unlocked
  noTimeout := by
    rintro ⟨hzero, hdue⟩
    rw [hr.timeoutThread] at hzero hdue
    obtain ⟨t', ht', hdue⟩ := (Option.any_eq_true _ _).1 hdue
    obtain ⟨t, ht, hpassed⟩ := hr.pass.carried.before ht'
    have hsame := of_decide_eq_true hdue
    rw [hpassed.same.magic, hpassed.waitingForTimeout] at hsame
    exact h.noTimeout ⟨hzero, (Option.any_eq_true _ _).2 ⟨t, ht, decide_eq_true hsame⟩⟩
  timeout hzero := by
    rw [hr.timeoutThread] at hzero ⊢
    obtain ⟨t, ht⟩ := Option.isSome_iff_exists.1 (h.timeout hzero)
    obtain ⟨t', ht', -⟩ := hr.pass.carried.thread _ t ht
    rw [ht']
    rfl

/-- The idle thread is at the head. -/
lemma Rescheduled.head (hr : Rescheduled p q) : q.sched.currentq = q.sched.idleThread :=
  hr.pass.head.trans hr.pass.idleThread.symm

lemma Rescheduled.head_isSome (hr : Rescheduled p q) :
    (q.sched.threads.thread q.sched.currentq).isSome := by
  obtain ⟨t, ht, -⟩ := hr.pass.table.idle
  rw [hr.head, ht]
  rfl

lemma Rescheduled.head_ne (hr : Rescheduled p q) : q.sched.currentq ≠ 0 := by
  rw [hr.head]
  exact hr.pass.table.idle_ne

/-- The head is ready if the idle thread was. -/
lemma Rescheduled.head_ready (hr : Rescheduled p q) :
    readyPtr q.sched.threads q.sched.currentq ↔ IdleReady p.sched := by
  rw [hr.head]
  exact hr.pass.idleReady_iff

lemma Rescheduled.next (hr : Rescheduled p q) : nextOf q.sched.threads q.sched.currentq
    = some (((dueSlots p.sched).map p.sched.threads.threadList).headD 0) := by
  rw [hr.pass.head]
  exact hr.pass.next_idle

/-- The next pass comes to its end if nobody was about to exit. -/
lemma Rescheduled.canPass_iff (hr : Rescheduled p q) (hpass : CanPass p.sched) :
    CanPass q.sched ↔ NoneExits p.sched := by
  rw [← hr.pass.noZombie_iff hpass.2.2]
  exact ⟨fun h => h.2.2, fun h => ⟨hr.running, hr.pass.idleSleeps hpass.2.1, h⟩⟩

/-- Nobody is due, now or later, and the idle thread is not ready. -/
structure Stuck (p : ProcessState) : Prop extends Searching p where
  pass : CanPass p.sched
  noneDue : dueSlots p.sched = []
  noneExits : NoneExits p.sched
  notReady : ¬ IdleReady p.sched

lemma Stuck.rescheduled (h : Stuck p) (hr : Rescheduled p q) : Stuck q where
  toSearching := hr.searching h.toSearching
  pass := (hr.canPass_iff h.pass).2 h.noneExits
  noneDue := by
    refine List.filter_eq_nil_iff.2 fun i hi hdue => ?_
    exact List.filter_eq_nil_iff.1 h.noneDue i hi (hr.pass.due_before hdue)
  noneExits := hr.pass.noneExits h.noneExits
  notReady := mt hr.pass.idleReady_iff.1 h.notReady

/-- **The search goes round for ever** behind a pass that has left it stuck. -/
lemma Stuck.not_ends (h : Stuck p) (hr : Rescheduled p q) :
    ¬ ∃ c, Ends (searchTurn garbage) ⟨q, list, passes⟩ (.ok c) := by
  rintro ⟨c, hends⟩
  refine Loop.not_ends (J := fun s => ∃ p, Stuck p ∧ Rescheduled p s.state) ?_ ⟨p, h, hr⟩ hends
  rintro ⟨q, list, passes⟩ ⟨p, h, hr⟩
  have hq : Stuck q := h.rescheduled hr
  obtain ⟨q₁, hreschedule, hr₁⟩ := hq.reschedule_done hq.pass (garbage passes)
  have hq₁ : Stuck q₁ := hq.rescheduled hr₁
  obtain ⟨q₂, hreschedule', hr₂⟩ := hq₁.reschedule_done hq₁.pass (garbage (passes + 1))
  have hnext : nextOf q.sched.threads q.sched.currentq = some 0 := by
    rw [hr.next, h.noneDue]
    rfl
  have hzero : zeroGravity (garbage passes) q = .ok q₁ := by
    rw [zeroGravity_eq hq.counted hq.several hq.timeout hq.noTimeout hnext, if_pos rfl, hreschedule]
  refine ⟨⟨q₂, q₂.sched.currentq, passes + 2⟩, ?_, q₁, hq₁, hr₂⟩
  rw [searchTurn_back _ hzero hr₁.head_isSome hr₁.head_ne (mt hr₁.head_ready.1 hq.notReady), hreschedule',
    ok_bind]

/-- The scheduler stops where it cannot come to its end. -/
lemma Searching.reschedule_fails (h : Searching p) (hsleeps : IdleSleeps p.sched)
    (hpass : ¬ CanPass p.sched) (g : ℕ) : ∃ f, reschedule g p = .error f := by
  cases hok : reschedule g p with
  | error f => exact ⟨f, rfl⟩
  | ok p' => exact absurd (h.reschedule_inv hsleeps hok) hpass

/-- **What the search finds behind a pass.** -/
lemma ends_after (garbage : ℕ → ℕ) (h : Searching p) (hpass : CanPass p.sched) (hr : Rescheduled p q) :
    (∃ c, Ends (searchTurn garbage) ⟨q, list, passes⟩ (.ok c)) ↔ FindsAfterPass p.sched := by
  have hq : Searching q := hr.searching h
  have hsleeps : IdleSleeps q.sched := hr.pass.idleSleeps hpass.2.1
  have hnext := hr.next
  cases hdue : dueSlots p.sched with
  | nil =>
      rw [hdue, List.map_nil, List.headD_nil] at hnext
      have hzero : zeroGravity (garbage passes) q = reschedule (garbage passes) q := by
        rw [zeroGravity_eq hq.counted hq.several hq.timeout hq.noTimeout hnext, if_pos rfl]
      have hfinds : FindsAfterPass p.sched ↔ IdleReady p.sched ∧ NoneExits p.sched := by
        constructor
        · rintro (⟨i, L, hfirst, -⟩ | ⟨-, hfound⟩)
          · rw [hdue] at hfirst
            cases hfirst
          · exact hfound
        · exact fun hfound => .inr ⟨hdue, hfound⟩
      rw [hfinds]
      by_cases hexits : NoneExits p.sched
      · have hcan : CanPass q.sched := (hr.canPass_iff hpass).2 hexits
        by_cases hready : IdleReady p.sched
        · obtain ⟨q₁, hreschedule, hr₁⟩ := hq.reschedule_done hcan (garbage passes)
          have hready₁ : readyPtr q₁.sched.threads q₁.sched.currentq :=
            hr₁.head_ready.2 (hr.pass.idleReady_iff.2 hready)
          exact iff_of_true (ends_ready (hzero.trans hreschedule) hr₁.head_isSome hr₁.head_ne hready₁)
            ⟨hready, hexits⟩
        · have hstuck : Stuck p := ⟨h, hpass, hdue, hexits, hready⟩
          exact iff_of_false (hstuck.not_ends hr) fun hfound => hready hfound.1
      · obtain ⟨f, hfails⟩ := hq.reschedule_fails hsleeps (mt (hr.canPass_iff hpass).1 hexits)
          (garbage passes)
        refine iff_of_false (not_ends_of_error (f := f) ?_) fun hfound => hexits hfound.2
        rw [searchTurn, hzero, hfails]
        rfl
  | cons i L =>
      rw [hdue, List.map_cons, List.headD_cons] at hnext
      have hmem : i ∈ dueSlots p.sched := by
        rw [hdue]
        exact List.mem_cons_self
      obtain ⟨hi, hdueAt⟩ := List.mem_filter.1 hmem
      obtain ⟨t, ht, hdueThread⟩ := (Option.any_eq_true _ _).1 hdueAt
      have hne : p.sched.threads.threadList i ≠ 0 := ((h.table.structures _).1 (by rw [ht]; rfl)).1
      obtain ⟨t', ht', -⟩ := hr.pass.carried.thread _ t ht
      have hzero : zeroGravity (garbage passes) q = .ok { q with
          sched := { q.sched with currentq := p.sched.threads.threadList i } } := by
        rw [zeroGravity_eq hq.counted hq.several hq.timeout hq.noTimeout hnext, if_neg hne]
      have hready : readyPtr q.sched.threads (p.sched.threads.threadList i) = staysAt p.sched i := by
        rw [← hr.pass.ready i hi, readyAt, hr.pass.threadList]
      by_cases hstays : staysAt p.sched i
      · refine iff_of_true (ends_ready hzero ?_ hne ?_) (.inl ⟨i, L, hdue, hstays⟩)
        · show (q.sched.threads.thread (p.sched.threads.threadList i)).isSome
          rw [ht']
          rfl
        · exact hready.trans hstays
      · -- the first thread was about to exit, so that it is a zombie and ends the next pass
        have hexits : ¬ NoneExits p.sched := by
          intro hnone
          have hdueThread := of_decide_eq_true hdueThread
          refine hstays ((Option.any_eq_true _ _).2 ⟨t, ht, decide_eq_true ⟨hdueThread, fun hexit => ?_⟩⟩)
          exact hnone i hi t ht ⟨hdueThread.1, hexit⟩
        obtain ⟨f, hfails⟩ := (hq.setCurrentq (p.sched.threads.threadList i)).reschedule_fails hsleeps
          (mt (hr.canPass_iff hpass).1 hexits) (garbage (passes + 1))
        refine iff_of_false (not_ends_of_error (f := f) ?_) ?_
        · rw [searchTurn_back _ hzero _ hne]
          · rw [hfails]
            rfl
          · show ¬ readyPtr q.sched.threads (p.sched.threads.threadList i)
            rw [hready]
            exact hstays
          · show (q.sched.threads.thread (p.sched.threads.threadList i)).isSome
            rw [ht']
            rfl
        · rintro (⟨j, M, hfirst, hstays'⟩ | ⟨hnone, -⟩)
          · rw [hdue] at hfirst
            cases hfirst
            exact hstays hstays'
          · rw [hdue] at hnone
            cases hnone

end After

end Gramado
