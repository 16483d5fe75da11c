import Gramado.Ke.Scheduler

/-!
# One slot of the scheduler's pass

What the body of the loop of `__scheduler_rr` does with the thread of one slot.

* `Thread.Due` — the threads that are linked: ready ones, and sleepers whose time has come.
* `rrSlot_due`, `rrSlot_idle` — a due thread is linked behind the last one, any other is not.
  Afterwards a thread is ready exactly when it was due and is not about to exit.
* `rrSlot_zombie` — at a zombie the body goes on with a null pointer.
-/

namespace Gramado

open StepRun

/-! ## One thread -/

/-- A thread that is ready, or becomes so because its time has come. -/
def Thread.Due (t : Thread) (jiffies : ℕ) : Prop :=
  t.Valid ∧ (t.state = .READY ∨ t.state = .WAITING ∧ t.wakeJiffy ≤ jiffies)

instance (t : Thread) (jiffies : ℕ) : Decidable (t.Due jiffies) :=
  inferInstanceAs (Decidable (_ ∧ _))

/-- A valid thread whose state is `READY`. -/
def Thread.Ready (t : Thread) : Prop := t.Valid ∧ t.state = .READY

instance (t : Thread) : Decidable t.Ready := inferInstanceAs (Decidable (_ ∧ _))

/-- A valid thread whose state is `ZOMBIE`. -/
def Thread.Zombie (t : Thread) : Prop := t.Valid ∧ t.state = .ZOMBIE

/-- A thread after the first part of the pass. -/
def woken (jiffies : ℕ) (t : Thread) : Thread :=
  if t.Valid ∧ t.state = .WAITING then
    let t := if jiffies > t.alarm then { t with alarm := 0 } else t
    if jiffies ≥ t.wakeJiffy then { t with state := .READY, readyJiffy := jiffies } else t
  else t

/-- A thread after the "Exit" part. -/
def exited (idleThread tmpThread : ℕ) (t : Thread) : Thread :=
  if t.magic = 1234 ∧ t.exitInProgress = TRUE ∧ tmpThread ≠ idleThread then
    { t with state := .ZOMBIE }
  else t

/-- A thread after the "Credits" part. -/
def credited (t : Thread) : Thread :=
  if t.magic = 1234 ∧ t.credits ≥ 2 then
    { t with quantum := ulongAdd t.quantum 1, credits := 0 }
  else t

section OneThread

variable {jiffies idleThread tmpThread : ℕ} {t : Thread} {s : SchedState}

variable (jiffies t) in
lemma woken_keeps : (woken jiffies t).used = t.used ∧ (woken jiffies t).magic = t.magic ∧
    (woken jiffies t).tid = t.tid ∧ (woken jiffies t).next = t.next ∧
    (woken jiffies t).exitInProgress = t.exitInProgress := by
  simp only [woken]
  split_ifs <;> exact ⟨rfl, rfl, rfl, rfl, rfl⟩

/-- After the first part exactly the due threads are ready. -/
lemma ready_woken : (woken jiffies t).Ready ↔ t.Due jiffies := by
  simp only [Thread.Ready, Thread.Due, woken]
  by_cases hwaiting : t.Valid ∧ t.state = .WAITING
  · obtain ⟨hvalid, hstate⟩ := hwaiting
    rw [if_pos ⟨hvalid, hstate⟩]
    have hdue : (t.Valid ∧ (t.state = .READY ∨ t.state = .WAITING ∧ t.wakeJiffy ≤ jiffies)) ↔
        t.wakeJiffy ≤ jiffies := by
      simp [hvalid, hstate]
    rw [hdue]
    split_ifs with halarm htime htime
    · exact iff_of_true ⟨hvalid, rfl⟩ htime
    · exact iff_of_false (fun h => by simp [hstate] at h) htime
    · exact iff_of_true ⟨hvalid, rfl⟩ htime
    · exact iff_of_false (fun h => by simp [hstate] at h) htime
  · rw [if_neg hwaiting]
    constructor
    · rintro ⟨hvalid, hstate⟩
      exact ⟨hvalid, Or.inl hstate⟩
    · rintro ⟨hvalid, hstate | ⟨hstate, -⟩⟩
      · exact ⟨hvalid, hstate⟩
      · exact absurd ⟨hvalid, hstate⟩ hwaiting

/-- A zombie is what it was before. -/
lemma zombie_woken : (woken jiffies t).Zombie ↔ t.Zombie := by
  simp only [Thread.Zombie, woken]
  by_cases hwaiting : t.Valid ∧ t.state = .WAITING
  · rw [if_pos hwaiting]
    have hright : ¬ (t.Valid ∧ t.state = .ZOMBIE) := fun h => by simp [hwaiting.2] at h
    split_ifs <;> exact iff_of_false (fun h => by simp [hwaiting.2] at h) hright
  · rw [if_neg hwaiting]

variable (idleThread tmpThread t) in
lemma exited_keeps : (exited idleThread tmpThread t).used = t.used ∧
    (exited idleThread tmpThread t).magic = t.magic ∧
    (exited idleThread tmpThread t).next = t.next := by
  simp only [exited]
  split_ifs <;> exact ⟨rfl, rfl, rfl⟩

/-- A thread stays ready exactly when it is not about to exit. -/
lemma ready_exited (hne : tmpThread ≠ idleThread) :
    (exited idleThread tmpThread t).Ready ↔ t.Ready ∧ t.exitInProgress ≠ TRUE := by
  simp only [exited]
  split_ifs with hexit
  · exact iff_of_false (fun h => by simp [Thread.Ready] at h) fun h => h.2 hexit.2.1
  · constructor
    · intro hready
      exact ⟨hready, fun hprogress => hexit ⟨hready.1.2, hprogress, hne⟩⟩
    · exact And.left

variable (t) in
lemma credited_keeps : (credited t).used = t.used ∧ (credited t).magic = t.magic ∧
    (credited t).state = t.state ∧ (credited t).next = t.next := by
  simp only [credited]
  split_ifs <;> exact ⟨rfl, rfl, rfl, rfl⟩

end OneThread

/-! ## One slot -/

/-- What the pass does not touch. -/
structure Kept (s s' : SchedState) : Prop where
  threadList : s'.threads.threadList = s.threads.threadList
  jiffies : s'.jiffies = s.jiffies
  idleThread : s'.idleThread = s.idleThread
  initThread : s'.initThread = s.initThread
  currentq : s'.currentq = s.currentq

namespace Kept

variable {s s' s'' : SchedState}

lemma rfl' : Kept s s := ⟨rfl, rfl, rfl, rfl, rfl⟩

/-- A state that differs in other fields only. -/
lemma of_fields {s₁ : SchedState} (h : Kept s₁ s')
    (hlist : s₁.threads.threadList = s.threads.threadList) (hjiffies : s₁.jiffies = s.jiffies)
    (hidle : s₁.idleThread = s.idleThread) (hinit : s₁.initThread = s.initThread)
    (hcurrentq : s₁.currentq = s.currentq) : Kept s s' :=
  ⟨h.threadList.trans hlist, h.jiffies.trans hjiffies, h.idleThread.trans hidle,
    h.initThread.trans hinit, h.currentq.trans hcurrentq⟩

lemma trans (h : Kept s s') (h' : Kept s' s'') : Kept s s'' :=
  ⟨h'.threadList.trans h.threadList, h'.jiffies.trans h.jiffies,
    h'.idleThread.trans h.idleThread, h'.initThread.trans h.initThread,
    h'.currentq.trans h.currentq⟩

end Kept

/-- Replacing a structure by itself. -/
lemma Threads.set_self {s : Threads} {ptr : ℕ} {t : Thread} (h : s.thread ptr = some t) :
    s.set ptr t = s := by
  have hupdate : Function.update s.thread ptr (some t) = s.thread := by
    rw [← h, Function.update_eq_self]
  rw [Threads.set, hupdate]

/-- Of two writes to one structure the last one counts, also with a write elsewhere in between. -/
lemma Threads.set_set_set {s : Threads} {ptr q : ℕ} {t u v : Thread} (hne : ptr ≠ q) :
    ((s.set ptr t).set q u).set ptr v = (s.set q u).set ptr v := by
  simp only [Threads.set]
  rw [Function.update_comm hne, Function.update_idem]

section OneSlot

variable {s s' : SchedState} {tmp : ℕ} {t p : Thread}

lemma setThread_self (h : s.threads.thread tmp = some t) : s.setThread tmp t = s := by
  rw [SchedState.setThread, Threads.set_self h]

/-- The first part wakes the thread of the cursor itself: its tid names its own slot. -/
lemma wakeWaiting_eq (ht : s.threads.thread tmp = some t) (hne : tmp ≠ 0)
    (htid : t.Valid → 0 ≤ t.tid ∧ t.tid < THREAD_COUNT_MAX ∧ s.threads.threadList t.tid.toNat = tmp) :
    wakeWaiting tmp s = .ok (s.setThread tmp (woken s.jiffies t)) := by
  simp only [wakeWaiting, Threads.deref_eq_ok.2 ht, ok_bind]
  by_cases hwaiting : t.Valid ∧ t.state = .WAITING
  · obtain ⟨hlow, hhigh, hslot⟩ := htid hwaiting.1
    have hwake : ∀ t' : Thread, t'.tid = t.tid → t'.Valid →
        (if s.jiffies ≥ t'.wakeJiffy then doThreadReady t'.tid (s.setThread tmp t')
          else .ok (s.setThread tmp t'))
        = .ok (s.setThread tmp (if s.jiffies ≥ t'.wakeJiffy then
            { t' with state := .READY, readyJiffy := s.jiffies } else t')) := by
      intro t' htid' hvalid'
      have hderef : (s.setThread tmp t').threads.deref tmp = .ok t' :=
        Threads.deref_eq_ok.2 Threads.set_thread_same
      have hlist : (s.setThread tmp t').threads.threadList = s.threads.threadList := rfl
      split_ifs with htime
      · simp only [doThreadReady, htid', hlist, hslot, hderef, ok_bind]
        rw [if_neg (by omega), if_neg hne, if_neg (not_not.2 hvalid'.1),
          if_neg (not_not.2 hvalid'.2)]
        simp only [SchedState.setThread, Threads.set_set]
      · rfl
    rw [if_pos hwaiting, woken, if_pos hwaiting]
    refine hwake _ ?_ ?_
    · split_ifs <;> rfl
    · split_ifs <;> exact hwaiting.1
  · rw [if_neg hwaiting, woken, if_neg hwaiting, setThread_self ht]

lemma reapZombie_eq (ht : s.threads.thread tmp = some t) (halive : ¬ t.Zombie) :
    reapZombie tmp s = .ok (tmp, s) := by
  simp only [reapZombie, Threads.deref_eq_ok.2 ht, ok_bind]
  exact if_neg halive

/-- A zombie leaves `NULL` in the cursor. -/
lemma reapZombie_zombie {r : ℕ × SchedState} (ht : s.threads.thread tmp = some t)
    (hzombie : t.Zombie) (h : reapZombie tmp s = .ok r) :
    r.1 = 0 ∧ ∃ t', r.2.threads = s.threads.set tmp t' := by
  have hcheck : t.Valid ∧ t.state = .ZOMBIE := hzombie
  simp only [reapZombie, Threads.deref_eq_ok.2 ht, ok_bind] at h
  rw [if_pos hcheck] at h
  split_ifs at h <;>
  · obtain rfl : _ = r := by simpa using h
    exact ⟨rfl, _, rfl⟩

/-- The state after the structure at `tmp` was linked behind the last one, `p`. -/
def linked (s : SchedState) (tmp : ℕ) (p t : Thread) : SchedState :=
  { s with
    threads := (s.threads.set s.p6q { p with next := tmp }).set tmp (scheduled s t)
    p6q := tmp }

/-- A ready thread is linked behind the last one. -/
lemma linkReady_ready (ht : s.threads.thread tmp = some t) (hp : s.threads.thread s.p6q = some p)
    (hne : tmp ≠ s.p6q) (hready : t.Ready) : linkReady tmp s = .ok (linked s tmp p t) := by
  have hcheck : t.Valid ∧ t.state = .READY := hready
  have hderef : ({ s.setThread s.p6q { p with next := tmp } with p6q := tmp } :
      SchedState).threads.deref tmp = .ok t := by
    rw [Threads.deref_eq_ok]
    exact (Threads.set_thread_of_ne hne).trans ht
  simp only [linkReady, Threads.deref_eq_ok.2 ht, ok_bind, Threads.deref_eq_ok.2 hp]
  rw [if_pos hcheck, hderef]
  rfl

lemma linkReady_eq (ht : s.threads.thread tmp = some t) (hready : ¬ t.Ready) :
    linkReady tmp s = .ok s := by
  simp only [linkReady, Threads.deref_eq_ok.2 ht, ok_bind]
  exact if_neg hready

lemma finishExit_eq (ht : s.threads.thread tmp = some t) :
    ∃ s', finishExit tmp s = .ok s' ∧ Kept s s' ∧ s'.p6q = s.p6q ∧
      s'.threads = s.threads.set tmp (exited s.idleThread tmp t) := by
  simp only [finishExit, Threads.deref_eq_ok.2 ht, ok_bind, exited]
  split_ifs
  · exact ⟨_, rfl, ⟨rfl, rfl, rfl, rfl, rfl⟩, rfl, rfl⟩
  · exact ⟨_, rfl, ⟨rfl, rfl, rfl, rfl, rfl⟩, rfl, rfl⟩
  · exact ⟨_, rfl, Kept.rfl', rfl, (Threads.set_self ht).symm⟩

lemma useCredits_eq (ht : s.threads.thread tmp = some t) :
    ∃ s', useCredits tmp s = .ok s' ∧ Kept s s' ∧ s'.p6q = s.p6q ∧
      s'.threads = s.threads.set tmp (credited t) := by
  simp only [useCredits, Threads.deref_eq_ok.2 ht, ok_bind, credited]
  split_ifs
  · exact ⟨_, rfl, ⟨rfl, rfl, rfl, rfl, rfl⟩, rfl, rfl⟩
  · exact ⟨_, rfl, Kept.rfl', rfl, (Threads.set_self ht).symm⟩

/-- The last two parts of the body. -/
lemma finish_eq (ht : s.threads.thread tmp = some t) :
    ∃ s', (finishExit tmp s >>= useCredits tmp) = .ok s' ∧ Kept s s' ∧ s'.p6q = s.p6q ∧
      s'.threads = s.threads.set tmp (credited (exited s.idleThread tmp t)) := by
  obtain ⟨s₁, hexit, hkept, hp6q, hthreads⟩ := finishExit_eq ht
  have ht₁ : s₁.threads.thread tmp = some (exited s.idleThread tmp t) := by
    rw [hthreads]
    exact Threads.set_thread_same
  obtain ⟨s₂, hcredits, hkept', hp6q', hthreads'⟩ := useCredits_eq ht₁
  refine ⟨s₂, ?_, hkept.trans hkept', hp6q'.trans hp6q, ?_⟩
  · rw [hexit, ok_bind, hcredits]
  · rw [hthreads', hthreads, Threads.set_set]

/-- The structure at the end of the body. -/
lemma ready_finished (hne : tmp ≠ s.idleThread) :
    (credited (exited s.idleThread tmp t)).Ready ↔ t.Ready ∧ t.exitInProgress ≠ TRUE := by
  rw [← ready_exited hne]
  obtain ⟨hused, hmagic, hstate, -⟩ := credited_keeps (exited s.idleThread tmp t)
  simp only [Thread.Ready, Thread.Valid, hused, hmagic, hstate]

variable {i : ℕ}

/-- What is assumed of a slot: there is a structure, it is not the idle thread's, and if it is
valid its tid is the number of the slot. -/
structure Slot (s : SchedState) (i : ℕ) (t : Thread) : Prop where
  lt : (i : ℤ) < THREAD_COUNT_MAX
  ne_null : s.threads.threadList i ≠ 0
  thread : s.threads.thread (s.threads.threadList i) = some t
  tid : t.Valid → t.tid = i
  ne_idle : s.threads.threadList i ≠ s.idleThread

/-- Waking only concerns the slot itself. -/
lemma Slot.wake (h : Slot s i t) :
    wakeWaiting (s.threads.threadList i) s
      = .ok (s.setThread (s.threads.threadList i) (woken s.jiffies t)) := by
  refine wakeWaiting_eq h.thread h.ne_null fun hvalid => ?_
  have hlt := h.lt
  rw [h.tid hvalid, Int.toNat_natCast]
  exact ⟨by omega, hlt, rfl⟩

/-- **A due thread** is linked behind the last one, and stays ready if it is not about to exit. -/
lemma rrSlot_due (h : Slot s i t) (hp : s.threads.thread s.p6q = some p)
    (hlast : s.threads.threadList i ≠ s.p6q) (hdue : t.Due s.jiffies) :
    ∃ s' t', rrSlot s i = .ok s' ∧ Kept s s' ∧ s'.p6q = s.threads.threadList i ∧
      s'.threads = (s.threads.set s.p6q { p with next := s.threads.threadList i }).set
        (s.threads.threadList i) t' ∧
      t'.next = t.next ∧ (t'.Ready ↔ t.exitInProgress ≠ TRUE) := by
  obtain ⟨-, -, -, hnext, hexit⟩ := woken_keeps s.jiffies t
  have hready : (woken s.jiffies t).Ready := ready_woken.2 hdue
  have halive : ¬ (woken s.jiffies t).Zombie := by
    intro hzombie
    exact absurd (hready.2.symm.trans hzombie.2) (by decide)
  generalize hw : woken s.jiffies t = w at hnext hexit hready halive
  generalize htmp : s.threads.threadList i = tmp at hlast
  have hp₁ : (s.setThread tmp w).threads.thread s.p6q = some p :=
    (Threads.set_thread_of_ne (Ne.symm hlast)).trans hp
  have hlink := linkReady_ready (s := s.setThread tmp w) Threads.set_thread_same hp₁ hlast hready
  have ht₂ : (linked (s.setThread tmp w) tmp p w).threads.thread tmp = some (scheduled s w) :=
    Threads.set_thread_same
  obtain ⟨s', hfinish, hkept, hp6q, hthreads⟩ := finish_eq ht₂
  have hwake := h.wake
  rw [htmp, hw] at hwake
  refine ⟨s', credited (exited s.idleThread tmp (scheduled s w)), ?_,
    hkept.of_fields rfl rfl rfl rfl rfl, hp6q, ?_, ?_, ?_⟩
  · have hne := h.ne_null
    rw [htmp] at hne
    simp only [rrSlot, htmp]
    rw [if_neg hne, hwake, ok_bind, reapZombie_eq Threads.set_thread_same halive, ok_bind]
    exact (congrArg (· >>= fun s => finishExit tmp s >>= useCredits tmp) hlink).trans hfinish
  · rw [hthreads]
    exact Threads.set_set.trans (Threads.set_set_set hlast)
  · obtain ⟨-, -, -, hcredited⟩ := credited_keeps (exited s.idleThread tmp (scheduled s w))
    obtain ⟨-, -, hexited⟩ := exited_keeps s.idleThread tmp (scheduled s w)
    exact (hcredited.trans hexited).trans hnext
  · have hne := h.ne_idle
    rw [htmp] at hne
    rw [ready_finished hne]
    have hscheduled : (scheduled s w).Ready := hready
    have hexit' : (scheduled s w).exitInProgress = t.exitInProgress := hexit
    simp [hscheduled, hexit']

/-- **Any other thread**, if it is no zombie, is not linked and not ready afterwards. -/
lemma rrSlot_idle (h : Slot s i t) (halive : ¬ t.Zombie) (hdue : ¬ t.Due s.jiffies) :
    ∃ s' t', rrSlot s i = .ok s' ∧ Kept s s' ∧ s'.p6q = s.p6q ∧
      s'.threads = s.threads.set (s.threads.threadList i) t' ∧ t'.next = t.next ∧ ¬ t'.Ready := by
  obtain ⟨-, -, -, hnext, -⟩ := woken_keeps s.jiffies t
  have hready : ¬ (woken s.jiffies t).Ready := mt ready_woken.1 hdue
  have halive' : ¬ (woken s.jiffies t).Zombie := mt zombie_woken.1 halive
  generalize hw : woken s.jiffies t = w at hnext hready halive'
  generalize htmp : s.threads.threadList i = tmp
  have ht₁ : (s.setThread tmp w).threads.thread tmp = some w := Threads.set_thread_same
  obtain ⟨s', hfinish, hkept, hp6q, hthreads⟩ := finish_eq ht₁
  have hwake := h.wake
  rw [htmp, hw] at hwake
  refine ⟨s', credited (exited s.idleThread tmp w), ?_, hkept.of_fields rfl rfl rfl rfl rfl, hp6q,
    hthreads.trans Threads.set_set, ?_, ?_⟩
  · have hne := h.ne_null
    rw [htmp] at hne
    simp only [rrSlot, htmp]
    rw [if_neg hne, hwake, ok_bind, reapZombie_eq ht₁ halive', ok_bind]
    exact (congrArg (· >>= fun s => finishExit tmp s >>= useCredits tmp)
      (linkReady_eq ht₁ hready)).trans hfinish
  · obtain ⟨-, -, -, hcredited⟩ := credited_keeps (exited s.idleThread tmp w)
    obtain ⟨-, -, hexited⟩ := exited_keeps s.idleThread tmp w
    exact (hcredited.trans hexited).trans hnext
  · have hne := h.ne_idle
    rw [htmp] at hne
    rw [ready_finished hne]
    exact fun hfinal => hready hfinal.1

/-- **At a zombie** the body does not get through: it follows the null pointer, which no structure
is at, or has stopped before. -/
lemma rrSlot_zombie (h : Slot s i t) (hnull : s.threads.thread 0 = none) (hzombie : t.Zombie) :
    rrSlot s i ≠ .ok s' := by
  intro hok
  have hzombie' : (woken s.jiffies t).Zombie := zombie_woken.2 hzombie
  have hwoken : (s.setThread (s.threads.threadList i) (woken s.jiffies t)).threads.thread
      (s.threads.threadList i) = some (woken s.jiffies t) := Threads.set_thread_same
  simp only [rrSlot] at hok
  rw [if_neg h.ne_null, h.wake, ok_bind] at hok
  cases hreap : reapZombie (s.threads.threadList i)
      (s.setThread (s.threads.threadList i) (woken s.jiffies t)) with
  | error f => simp [hreap] at hok
  | ok r =>
      obtain ⟨hcursor, t', hthreads⟩ := reapZombie_zombie hwoken hzombie' hreap
      have hderef : r.2.threads.deref 0 = .error .badPointer := by
        have hnull' : r.2.threads.thread 0 = none := by
          rw [hthreads, Threads.set_thread_of_ne (Ne.symm h.ne_null)]
          exact (Threads.set_thread_of_ne (Ne.symm h.ne_null)).trans hnull
        simp only [Threads.deref, hnull']
      rw [hreap, ok_bind, hcursor] at hok
      simp [linkReady, hderef] at hok

/-- An empty slot is passed over. -/
lemma rrSlot_null (hnull : s.threads.threadList i = 0) : rrSlot s i = .ok s := by
  simp only [rrSlot]
  exact if_pos hnull

end OneSlot

end Gramado
