import Gramado.Lib.Simulation
import Gramado.Ke.SelectionIff
import Gramado.Ke.TaskSwitchKeep

/-!
# Round robin

What becomes of the list that a pass of the scheduler has built.  The timer interrupts the current thread;
when its quantum is over, `__task_switch` goes on to the next thread of the list and dispatches it.
Meanwhile the threads make their requests: they sleep, yield, wait, block, exit and wake each other.

* `InRound` — what holds between two interrupts, as long as the list is not used up.
* `round_robin` — the threads of the list are dispatched in its order, each of them once, and one after at
  most `QUANTUM_MAX` ticks of the other.
-/

namespace Gramado

open StepRun Cells Loop Simulation

/-! ## What a step leaves of the list -/

/-- The fields that make a thread one of the list are as before, and so is, where `counts` holds, the part of
its quantum that is left. -/
structure LinkSame (counts : Prop) (t u : Thread) : Prop where
  used : u.used = t.used
  magic : u.magic = t.magic
  tid : u.tid = t.tid
  next : u.next = t.next
  waitingForTimeout : u.waitingForTimeout = t.waitingForTimeout
  count : counts → u.runningCount = t.runningCount ∧ u.quantum = t.quantum
  standby : u.state = .STANDBY → t.state = .STANDBY

/-- The list, and the threads of `L` that are ready, are as before. -/
structure ListKept (counts : Prop) (L : List ℕ) (s s' : Threads) : Prop where
  threadList : s'.threadList = s.threadList
  absent : ∀ q, s.thread q = none → s'.thread q = none
  present : ∀ q t, s.thread q = some t → ∃ u, s'.thread q = some u ∧ LinkSame counts t u ∧
    (q ∈ L → t.state = .READY → u.state = .READY)

/-- The list is as before, and so is the place in it. -/
structure LinkKept (counts : Prop) (L : List ℕ) (s s' : SleepState) : Prop where
  threads : ListKept counts L s.sched.threads s'.sched.threads
  counter : s'.sched.threadsCounter = s.sched.threadsCounter
  currentq : s'.sched.currentq = s.sched.currentq
  currentThread : s'.currentThread = s.currentThread
  taskSwitchStatus : s'.taskSwitchStatus = s.taskSwitchStatus

section Same

variable {counts : Prop} {L : List ℕ} {s s' s'' : Threads} {t u v : Thread} {ptr q : ℕ}

lemma LinkSame.refl (t : Thread) : LinkSame counts t t := ⟨rfl, rfl, rfl, rfl, rfl, fun _ => ⟨rfl, rfl⟩, id⟩

lemma LinkSame.trans (h : LinkSame counts t u) (h' : LinkSame counts u v) : LinkSame counts t v :=
  ⟨h'.used.trans h.used, h'.magic.trans h.magic, h'.tid.trans h.tid, h'.next.trans h.next,
    h'.waitingForTimeout.trans h.waitingForTimeout,
    fun hc => ⟨(h'.count hc).1.trans (h.count hc).1, (h'.count hc).2.trans (h.count hc).2⟩,
    fun hs => h.standby (h'.standby hs)⟩

/-- Another state, other than standby. -/
lemma LinkSame.state {state : ThreadState} (hstate : state ≠ .STANDBY) :
    LinkSame counts t { t with state := state } :=
  ⟨rfl, rfl, rfl, rfl, rfl, fun _ => ⟨rfl, rfl⟩, fun h => absurd h hstate⟩

lemma ListKept.refl (L : List ℕ) (s : Threads) : ListKept counts L s s :=
  ⟨rfl, fun _ => id, fun _ t ht => ⟨t, ht, .refl t, fun _ => id⟩⟩

lemma ListKept.trans (h : ListKept counts L s s') (h' : ListKept counts L s' s'') : ListKept counts L s s'' where
  threadList := h'.threadList.trans h.threadList
  absent q hq := h'.absent q (h.absent q hq)
  present q t ht := by
    obtain ⟨u, hu, hsame, hready⟩ := h.present q t ht
    obtain ⟨v, hv, hsame', hready'⟩ := h'.present q u hu
    exact ⟨v, hv, hsame.trans hsame', fun hq hstate => hready' hq (hready hq hstate)⟩

/-- One thread is written. -/
lemma ListKept.set (ht : s.thread ptr = some t) (hsame : LinkSame counts t u)
    (hready : ptr ∈ L → t.state = .READY → u.state = .READY) : ListKept counts L s (s.set ptr u) := by
  refine ⟨rfl, fun q hq => ?_, fun q v hv => ?_⟩
  · have hne : q ≠ ptr := by
      rintro rfl
      rw [ht] at hq
      cases hq
    exact (Threads.set_thread_of_ne hne).trans hq
  · by_cases hq : q = ptr
    · subst hq
      obtain rfl := Option.some.inj (ht.symm.trans hv)
      exact ⟨u, Threads.set_thread_same, hsame, hready⟩
    · exact ⟨v, (Threads.set_thread_of_ne hq).trans hv, .refl v, fun _ => id⟩

/-- The links of the list. -/
lemma ListKept.nextOf (h : ListKept counts L s s') (ht : s.thread q = some t) : nextOf s' q = nextOf s q := by
  obtain ⟨u, hu, hsame, -⟩ := h.present q t ht
  rw [Gramado.nextOf, Gramado.nextOf, hu, ht, Option.map_some, Option.map_some, hsame.next]

/-- A thread that fits a description has fitted it before. -/
lemma ListKept.any_of {f : Thread → Prop} [DecidablePred f] (h : ListKept counts L s s')
    (hf : ∀ t u, LinkSame counts t u → f u → f t) (hany : (s'.thread q).any (f ·)) :
    (s.thread q).any (f ·) := by
  cases ht : s.thread q with
  | none =>
      rw [h.absent q ht] at hany
      cases hany
  | some t =>
      obtain ⟨u, hu, hsame, -⟩ := h.present q t ht
      rw [hu, Option.any_some, decide_eq_true_iff] at hany
      rw [Option.any_some, decide_eq_true_iff]
      exact hf t u hsame hany

end Same

namespace LinkKept

variable {counts : Prop} {L : List ℕ} {s s' s'' : SleepState} {t u : Thread} {ptr : ℕ}

lemma refl (L : List ℕ) (s : SleepState) : LinkKept counts L s s := ⟨.refl L _, rfl, rfl, rfl, rfl⟩

lemma trans (h : LinkKept counts L s s') (h' : LinkKept counts L s' s'') : LinkKept counts L s s'' :=
  ⟨h.threads.trans h'.threads, h'.counter.trans h.counter, h'.currentq.trans h.currentq,
    h'.currentThread.trans h.currentThread, h'.taskSwitchStatus.trans h.taskSwitchStatus⟩

/-- Only fields outside the threads are written. -/
lemma of_same (hsched : s'.sched = s.sched) (hcurrent : s'.currentThread = s.currentThread)
    (hstatus : s'.taskSwitchStatus = s.taskSwitchStatus) : LinkKept counts L s s' :=
  ⟨by rw [hsched]; exact .refl L _, by rw [hsched], by rw [hsched], hcurrent, hstatus⟩

/-- One thread is written. -/
lemma setThread (ht : s.sched.threads.thread ptr = some t) (hsame : LinkSame counts t u)
    (hready : ptr ∈ L → t.state = .READY → u.state = .READY) : LinkKept counts L s (s.setThread ptr u) :=
  ⟨.set ht hsame hready, rfl, rfl, rfl, rfl⟩

/-- The thread of a slot that is not one of the list is written. -/
lemma setOther (ht : s.sched.threads.thread ptr = some t) (hsame : LinkSame counts t u) (hptr : ptr ∉ L) :
    LinkKept counts L s (s.setThread ptr u) :=
  setThread ht hsame fun h => absurd h hptr

/-- The tick of the counter. -/
lemma tick (s : SleepState) : LinkKept counts L s (Gramado.tick s) := ⟨.refl L _, rfl, rfl, rfl, rfl⟩

variable {tid reason : ℤ} {ms : ℕ}

/-- A function that looks at one thread. -/
lemma withThread {body : ℕ → Thread → Except Fault SleepState}
    (hbody : ∀ ptr t, Names s.sched tid ptr → s.sched.threads.thread ptr = some t →
      body ptr t = .ok s' → LinkKept counts L s s')
    (h : Gramado.withThread tid s body = .ok s') : LinkKept counts L s s' := by
  rcases withThread_inv h with rfl | ⟨ptr, t, hnames, -, ht, -, hok⟩
  · exact refl L s'
  · exact hbody ptr t hnames ht hok

lemma sleep (h : Gramado.sleep tid ms s = .ok s') : LinkKept counts L s s' := by
  refine withThread (fun ptr t _ _ hok => ?_) h
  cases hok
  exact of_same rfl rfl rfl

lemma yield (h : Gramado.yield tid s = .ok s') : LinkKept counts L s s' := by
  refine withThread (fun ptr t _ _ hok => ?_) h
  cases hok
  exact of_same rfl rfl rfl

lemma exitThread (h : Gramado.exitThread tid s = .ok s') : LinkKept counts L s s' := by
  rw [Gramado.exitThread] at h
  by_cases hrange : tid < 0 ∨ tid ≥ THREAD_COUNT_MAX
  · rw [if_pos hrange] at h
    cases h
    exact refl L s
  rw [if_neg hrange] at h
  simp only [panicIf_bind_ok, deref_bind_ok] at h
  obtain ⟨-, idle, -, -, -, h⟩ := h
  by_cases hnull : s.sched.threads.threadList tid.toNat = 0
  · rw [if_pos hnull] at h
    cases h
    exact refl L s
  rw [if_neg hnull] at h
  obtain ⟨t, ht, h⟩ := deref_bind_ok.1 h
  by_cases hmagic : t.magic ≠ 1234
  · rw [if_pos hmagic] at h
    cases h
    exact refl L s
  · rw [if_neg hmagic] at h
    cases h
    exact setThread ht ⟨rfl, rfl, rfl, rfl, rfl, fun _ => ⟨rfl, rfl⟩, id⟩ fun _ => id

lemma wakeupThread (h : Gramado.wakeupThread tid s = .ok s') : LinkKept counts L s s' := by
  refine withThread (fun ptr t _ _ hok => ?_) h
  split_ifs at hok
  · cases hok
    exact refl L s
  · cases hok
    exact refl L s
  · cases hok
    exact refl L s
  · cases hok
    exact refl L s
  · obtain ⟨sched, hready, hok⟩ := bind_eq_ok hok
    cases hok
    rcases doThreadReady_inv hready with rfl | ⟨q, u, hu, rfl⟩
    · exact of_same rfl rfl rfl
    · have hset : LinkKept counts L s (s.setThread q { u with state := .READY, readyJiffy := s.sched.jiffies }) :=
        setThread hu ⟨rfl, rfl, rfl, rfl, rfl, fun _ => ⟨rfl, rfl⟩, fun h => by cases h⟩ fun _ _ => rfl
      exact hset.trans (of_same rfl rfl rfl)

/-- A thread that is not one of the list leaves off. -/
lemma setThreadState {state : ThreadState} (hstate : state ≠ .STANDBY)
    (hother : ∀ ptr, Names s.sched tid ptr → ptr ∉ L)
    (h : Gramado.setThreadState state tid s = .ok s') : LinkKept counts L s s' := by
  refine withThread (fun ptr t hnames ht hok => ?_) h
  cases hok
  exact setOther ht (.state hstate) (hother ptr hnames)

lemma doThreadZombie (hother : ∀ ptr, Names s.sched tid ptr → ptr ∉ L)
    (h : Gramado.doThreadZombie tid s = .ok s') : LinkKept counts L s s' := by
  refine withThread (fun ptr t hnames ht hok => ?_) h
  split_ifs at hok
  · cases hok
    exact refl L s
  · cases hok
    exact setOther ht (.state (by decide)) (hother ptr hnames)

lemma doThreadWaiting (hother : ∀ ptr, Names s.sched tid ptr → ptr ∉ L)
    (h : Gramado.doThreadWaiting tid ms s = .ok s') : LinkKept counts L s s' := by
  refine withThread (fun ptr t hnames ht hok => ?_) h
  cases hok
  set s₁ := (s.setFields ptr { s.fields ptr with waitingJiffy := s.sched.jiffies }).setRest ptr
    (.sleeping (s.sched.jiffies + if ms = 0 then 1 else ms))
  have hfields : LinkKept counts L s s₁ := of_same rfl rfl rfl
  refine hfields.trans (setOther (t := t) ht ?_ (hother ptr hnames))
  exact ⟨rfl, rfl, rfl, rfl, rfl, fun _ => ⟨rfl, rfl⟩, fun h => by cases h⟩

lemma sleepUntil (hother : ∀ ptr, Names s.sched tid ptr → ptr ∉ L)
    (h : Gramado.sleepUntil tid ms s = .ok s') : LinkKept counts L s s' := by
  rw [Gramado.sleepUntil] at h
  by_cases hrange : tid < 0 ∨ tid ≥ THREAD_COUNT_MAX
  · rw [if_pos hrange] at h
    cases h
    exact refl L s
  · rw [if_neg hrange] at h
    exact doThreadWaiting hother h

lemma waitForAReason (hother : ∀ ptr, Names s.sched tid ptr → ptr ∉ L)
    (h : Gramado.waitForAReason tid reason s = .ok s') : LinkKept counts L s s' := by
  rw [Gramado.waitForAReason] at h
  by_cases hreason : reason < 0 ∨ reason ≥ 10
  · rw [if_pos hreason] at h
    cases h
    exact refl L s
  · rw [if_neg hreason] at h
    refine withThread (fun ptr t hnames ht hok => ?_) h
    cases hok
    have hrest : LinkKept counts L s (s.setRest ptr .waitingForReason) := of_same rfl rfl rfl
    exact hrest.trans (setOther ht (.state (by decide)) (hother ptr hnames))

end LinkKept

/-! ## The requests of the threads -/

/-- What the threads ask for while the list is worked through: they sleep, yield, exit and wake each other,
and the current one waits, blocks or dies. -/
def AsksFor (s : SleepState) : TsCall → Prop
  | .sleep _ _ | .yield _ | .exitThread _ | .wakeupThread _ => True
  | .sleepUntil tid _ | .doThreadWaiting tid _ | .waitForAReason tid _ | .doThreadBlocked tid
  | .doThreadZombie tid => tid = s.currentThread
  | _ => False

/-- **A request leaves the rest of the list alone.** -/
lemma asks_kept {counts : Prop} {L : List ℕ} {p p' : ProcessState} {label : TsLabel} {c : TsCall}
    (hcur : p.sched.threads.threadList p.currentThread.toNat ∉ L) (hc : AsksFor p.toSleepState c)
    (h : tsCall p c = .ok (label, p')) :
    ∃ s', p' = { p with toSleepState := s' } ∧ LinkKept counts L p.toSleepState s' := by
  have hother : ∀ ptr, Names p.sched p.currentThread ptr → ptr ∉ L := by
    rintro ptr ⟨-, -, rfl⟩
    exact hcur
  have hreturned {f : SleepState → Except Fault SleepState}
      (hf : ∀ s', f p.toSleepState = .ok s' → LinkKept counts L p.toSleepState s')
      (h : tsCall.returned (onSleep f p) = .ok (label, p')) :
      ∃ s', p' = { p with toSleepState := s' } ∧ LinkKept counts L p.toSleepState s' := by
    obtain ⟨q, hok, h⟩ := bind_eq_ok h
    cases h
    obtain ⟨s', hs', rfl⟩ := onSleep_inv hok
    exact ⟨s', rfl, hf s' hs'⟩
  cases c with
  | sleep tid ms => exact hreturned (fun _ => LinkKept.sleep) h
  | yield tid => exact hreturned (fun _ => LinkKept.yield) h
  | exitThread tid => exact hreturned (fun _ => LinkKept.exitThread) h
  | wakeupThread tid => exact hreturned (fun _ => LinkKept.wakeupThread) h
  | sleepUntil tid ms =>
      obtain rfl : tid = p.currentThread := hc
      exact hreturned (fun _ => LinkKept.sleepUntil hother) h
  | doThreadWaiting tid ms =>
      obtain rfl : tid = p.currentThread := hc
      exact hreturned (fun _ => LinkKept.doThreadWaiting hother) h
  | waitForAReason tid reason =>
      obtain rfl : tid = p.currentThread := hc
      exact hreturned (fun _ => LinkKept.waitForAReason hother) h
  | doThreadBlocked tid =>
      obtain rfl : tid = p.currentThread := hc
      exact hreturned (fun _ => LinkKept.setThreadState (by decide) hother) h
  | doThreadZombie tid =>
      obtain rfl : tid = p.currentThread := hc
      exact hreturned (fun _ => LinkKept.doThreadZombie hother) h
  | _ => exact absurd hc id

/-! ## The current thread -/

/-- The thread `t` at `cur` is the current one. -/
structure IsCurrent (s : SleepState) (cur : ℕ) (t : Thread) : Prop where
  names : Names s.sched s.currentThread cur
  ne_null : cur ≠ 0
  thread : s.sched.threads.thread cur = some t
  valid : t.Valid
  tid : s.currentThread = t.tid

/-- A thread has had a tick, and its quantum is not over, or is given up. -/
structure Counted (t u : Thread) : Prop where
  quantum : u.quantum = t.quantum
  more : t.runningCount + 1 ≤ u.runningCount
  within : u.runningCount ≤ t.quantum

section Switch

variable {L : List ℕ} {s : SleepState} {cur : ℕ} {t : Thread}

/-- A thread that is in the table can be put to sleep. -/
lemma sleepUntil_ok {tid : ℤ} {ptr : ℕ} (hnames : Names s.sched tid ptr) (hne : ptr ≠ 0)
    (ht : s.sched.threads.thread ptr = some t) (hvalid : t.Valid) (ms : ℕ) :
    ∃ s', sleepUntil tid ms s = .ok s' := by
  obtain ⟨hlow, hhigh, rfl⟩ := hnames
  have hrange : ¬(tid < 0 ∨ tid ≥ THREAD_COUNT_MAX) := by omega
  rw [sleepUntil, if_neg hrange, doThreadWaiting, withThread, if_neg hrange]
  dsimp only
  rw [if_neg hne, Threads.deref_eq_ok.2 ht, ok_bind, if_neg (not_not.2 hvalid.1),
    if_neg (not_not.2 hvalid.2)]
  exact ⟨_, rfl⟩

/-- The request to sleep, if there is one, once the ticks are counted. -/
lemma IsCurrent.meetSleep (h : IsCurrent s cur t) (hcur : cur ∉ L) {n : ℕ} {s₁ : SleepState}
    (hkept : LinkKept False L s s₁)
    (hthread : s₁.sched.threads.thread cur = some { t with runningCount := n })
    (hlow : t.runningCount + 1 ≤ n) (hhigh : n ≤ t.quantum) :
    ∃ s' u, (if t.state = .RUNNING ∧ (s₁.fields cur).sleepInProgress = TRUE then do
          let s₂ := s₁.setThread cur { t with runningCount := t.quantum }
          let s₂ ← sleepUntil t.tid (s₂.fields cur).desiredSleepMs s₂
          .ok (s₂.setFields cur { s₂.fields cur with sleepInProgress := FALSE })
        else .ok s₁) = Except.ok (ε := Fault) s' ∧
      LinkKept False L s s' ∧ s'.sched.threads.thread cur = some u ∧ Counted t u := by
  by_cases hslept : t.state = .RUNNING ∧ (s₁.fields cur).sleepInProgress = TRUE
  · rw [if_pos hslept]
    set s₂ := s₁.setThread cur { t with runningCount := t.quantum }
    have hkept₂ : LinkKept False L s s₂ :=
      hkept.trans (.setOther hthread ⟨rfl, rfl, rfl, rfl, rfl, False.elim, id⟩ hcur)
    have hnames : Names s₂.sched t.tid cur := by
      have hlist : s₂.sched.threads.threadList = s.sched.threads.threadList := hkept.threads.threadList
      rw [Names, ← h.tid, hlist]
      exact h.names
    have hother : ∀ ptr, Names s₂.sched t.tid ptr → ptr ∉ L := by
      rintro ptr ⟨-, -, rfl⟩
      rw [hnames.2.2]
      exact hcur
    obtain ⟨s₃, hs₃⟩ := sleepUntil_ok hnames h.ne_null Threads.set_thread_same h.valid
      (s₂.fields cur).desiredSleepMs
    have hkept₃ (counts : Prop) : LinkKept counts L s₂ s₃ := .sleepUntil hother hs₃
    obtain ⟨u, hu, hsame, -⟩ := (hkept₃ True).threads.present cur _ Threads.set_thread_same
    refine ⟨s₃.setFields cur { s₃.fields cur with sleepInProgress := FALSE }, u, ?_,
      (hkept₂.trans (hkept₃ False)).trans (.of_same rfl rfl rfl), hu, ?_⟩
    · dsimp only
      rw [hs₃, ok_bind]
    obtain ⟨hcount, hquantum⟩ : u.runningCount = t.quantum ∧ u.quantum = t.quantum := hsame.count trivial
    exact ⟨hquantum, by omega, hcount.le⟩
  · rw [if_neg hslept]
    exact ⟨s₁, _, rfl, hkept, hthread, rfl, hlow, hhigh⟩

/-- **The quantum is not over**: the current thread has had at least one tick more, and goes on. -/
lemma IsCurrent.stillInQuantum (h : IsCurrent s cur t) (hcur : cur ∉ L)
    (hin : t.runningCount + 1 < t.quantum) :
    ∃ s' u, Gramado.stillInQuantum cur { t with runningCount := t.runningCount + 1 } s = .ok s' ∧
      LinkKept False L s s' ∧ s'.sched.threads.thread cur = some u ∧ Counted t u := by
  have hset (n : ℕ) : LinkKept False L s (s.setThread cur { t with runningCount := n }) :=
    .setOther h.thread ⟨rfl, rfl, rfl, rfl, rfl, False.elim, id⟩ hcur
  simp only [Gramado.stillInQuantum]
  by_cases hyield : t.state = .RUNNING ∧ (s.fields cur).yieldInProgress = TRUE
  · rw [if_pos hyield, if_pos hyield]
    exact h.meetSleep hcur ((hset t.quantum).trans (.of_same rfl rfl rfl)) Threads.set_thread_same
      (by omega) le_rfl
  · rw [if_neg hyield, if_neg hyield]
    exact h.meetSleep hcur (hset _) Threads.set_thread_same le_rfl (by omega)

/-- **A tick of the current thread**, with the task switch unlocked. -/
lemma IsCurrent.taskSwitch (h : IsCurrent s cur t) (hcur : cur ∉ L) (hstatus : s.taskSwitchStatus = UNLOCKED)
    (hbound : t.runningCount + 1 < 2 ^ 64) :
    ∃ s', Gramado.taskSwitch s = .ok s' ∧ LinkKept False L s s' ∧
      (t.runningCount + 1 < t.quantum →
        ∃ u, s'.sched.threads.thread cur = some u ∧ Counted t u) := by
  obtain ⟨hlow, hhigh, hlist⟩ := h.names
  have hrange : ¬(s.currentThread < 0 ∨ s.currentThread ≥ THREAD_COUNT_MAX) := by omega
  have hcount : ulongAdd t.runningCount 1 = t.runningCount + 1 := Nat.mod_eq_of_lt hbound
  rw [Gramado.taskSwitch, if_neg hrange]
  dsimp only
  rw [hlist, if_neg h.ne_null, Threads.deref_eq_ok.2 h.thread, ok_bind, if_neg (not_not.2 h.valid), hstatus,
    if_neg (by decide), if_neg (by decide), hcount]
  set s₁ := s.setFields cur { s.fields cur with saved := TRUE }
  have hkept : LinkKept False L s s₁ := .of_same rfl rfl rfl
  have h₁ : IsCurrent s₁ cur t := ⟨h.names, h.ne_null, h.thread, h.valid, h.tid⟩
  by_cases hin : t.runningCount + 1 < t.quantum
  · rw [if_pos hin]
    obtain ⟨s', u, hok, hkept', hu⟩ := h₁.stillInQuantum hcur hin
    exact ⟨s', hok, hkept.trans hkept', fun _ => ⟨u, hu⟩⟩
  · rw [if_neg hin]
    refine ⟨_, rfl, hkept.trans ?_, fun hlt => absurd hlt hin⟩
    rw [tsOnFinishedExecuting]
    split_ifs
    · exact .setOther h.thread ⟨rfl, rfl, rfl, rfl, rfl, False.elim, fun hs => by cases hs⟩ hcur
    · exact .setOther h.thread ⟨rfl, rfl, rfl, rfl, rfl, False.elim, id⟩ hcur

end Switch

/-! ## A round -/

/-- The task switch takes the owner of a thread as it is. -/
def OwnerOk (p : ProcessState) (o : OwnerFields) : Prop :=
  0 ≤ o.ownerPid ∧ o.ownerPid < PROCESS_COUNT_MAX ∧ p.processList o.ownerPid.toNat ≠ 0 ∧
    (p.process (p.processList o.ownerPid.toNat)).used = TRUE ∧
    (p.process (p.processList o.ownerPid.toNat)).magic = 1234 ∧
    (p.process (p.processList o.ownerPid.toNat)).pid = o.ownerPid

/-- A thread that the task switch can dispatch once it is ready. -/
structure Dispatchable (p : ProcessState) (q : ℕ) : Prop where
  thread : ∃ t, p.sched.threads.thread q = some t ∧ t.Valid ∧ Names p.sched t.tid q
  owner : OwnerOk p (p.owner q)

/-- **The list of a round**: the thread at `cur`, and behind it the threads of `L`, all of them ready.  Nobody
breaks the round. -/
structure RoundList (p : ProcessState) (cur : ℕ) (L : List ℕ) : Prop where
  chain : Chain (nextOf p.sched.threads) (· = 0) cur (cur :: L)
  listed : ∀ q ∈ cur :: L, Dispatchable p q
  ready : ∀ q ∈ L, ∀ t, p.sched.threads.thread q = some t → t.state = .READY
  onTime : ¬TimeoutDue p
  timeout : p.timeoutThread ≠ 0 → (p.sched.threads.thread p.timeoutThread).isSome
  noStandby : ∀ i, ¬StandbyAt p.sched i

/-- **A round is under way**, and the thread at `cur` is the current one. -/
structure InRound (p : ProcessState) (cur : ℕ) (L : List ℕ) : Prop extends RoundList p cur L where
  head : p.sched.currentq = cur
  current : ∀ t, p.sched.threads.thread cur = some t → p.currentThread = t.tid
  unlocked : p.taskSwitchStatus = UNLOCKED
  several : 2 ≤ p.sched.threadsCounter
  process : 0 ≤ p.currentProcess ∧ p.currentProcess < PROCESS_COUNT_MAX

/-- The current thread has at most `k` ticks left. -/
structure Paced (p : ProcessState) (cur k : ℕ) : Prop where
  pos : 1 ≤ k
  left : ∃ t, p.sched.threads.thread cur = some t ∧ t.runningCount ≤ t.quantum ∧
    t.quantum ≤ QUANTUM_MAX ∧ t.quantum ≤ t.runningCount + k

section Round

variable {p p' : ProcessState} {s' : SleepState} {cur q k : ℕ} {L : List ℕ} {t : Thread} {counts : Prop} {pid : ℤ}

/-- **A step that leaves the list alone keeps the round.** -/
lemma RoundList.keep (h : RoundList p cur L) (hk : ListKept counts L p.sched.threads s'.sched.threads)
    (pid : ℤ) : RoundList { p with toSleepState := s', currentProcess := pid } cur L where
  chain := by
    refine h.chain.congr fun q hq => ?_
    obtain ⟨⟨t, ht, -⟩, -⟩ := h.listed q hq
    exact hk.nextOf ht
  listed q hq := by
    obtain ⟨⟨t, ht, hvalid, hnames⟩, howner⟩ := h.listed q hq
    obtain ⟨u, hu, hsame, -⟩ := hk.present q t ht
    refine ⟨⟨u, hu, ⟨hsame.used.trans hvalid.1, hsame.magic.trans hvalid.2⟩, ?_⟩, howner⟩
    rw [Names, hsame.tid, hk.threadList]
    exact hnames
  ready q hq u hu := by
    obtain ⟨⟨t, ht, -⟩, -⟩ := h.listed q (List.mem_cons_of_mem _ hq)
    obtain ⟨v, hv, -, hready⟩ := hk.present q t ht
    obtain rfl := Option.some.inj (hv.symm.trans hu)
    exact hready hq (h.ready q hq t ht)
  onTime hdue := by
    refine h.onTime ⟨hdue.1, hk.any_of (fun t u hsame hu => ?_) hdue.2⟩
    rw [← hsame.magic, ← hsame.waitingForTimeout]
    exact hu
  timeout hne := by
    obtain ⟨t, ht⟩ := Option.isSome_iff_exists.1 (h.timeout hne)
    obtain ⟨u, hu, -⟩ := hk.present _ t ht
    exact Option.isSome_iff_exists.2 ⟨u, hu⟩
  noStandby i hstandby := by
    rw [StandbyAt, hk.threadList] at hstandby
    refine h.noStandby i ⟨hstandby.1, hk.any_of (fun t u hsame hu => ?_) hstandby.2⟩
    refine ⟨⟨?_, ?_⟩, hsame.standby hu.2⟩
    · rw [← hsame.used]
      exact hu.1.1
    · rw [← hsame.magic]
      exact hu.1.2

/-- The thread behind the first one. -/
lemma RoundList.behind (h : RoundList p cur (q :: L)) : q ≠ 0 ∧ nextOf p.sched.threads cur = some q := by
  obtain ⟨-, -, r, hr, hrest⟩ := h.chain
  obtain rfl : r = q := hrest.1
  exact ⟨hrest.2.1, hr⟩

/-- The rest of the list. -/
lemma RoundList.tail (h : RoundList p cur (q :: L)) : RoundList p q L where
  chain := by
    obtain ⟨-, -, r, -, hrest⟩ := h.chain
    obtain rfl : r = q := hrest.1
    exact hrest
  listed a ha := h.listed a (List.mem_cons_of_mem _ ha)
  ready a ha := h.ready a (List.mem_cons_of_mem _ ha)
  onTime := h.onTime
  timeout := h.timeout
  noStandby := h.noStandby

lemma RoundList.notMem (h : RoundList p cur L) : cur ∉ L := (List.nodup_cons.1 h.chain.nodup).1

lemma InRound.isCurrent (h : InRound p cur L) : ∃ t, IsCurrent p.toSleepState cur t := by
  obtain ⟨⟨t, ht, hvalid, hnames⟩, -⟩ := h.listed cur List.mem_cons_self
  have htid := h.current t ht
  exact ⟨t, htid ▸ hnames, h.chain.2.1, ht, hvalid, htid⟩

lemma InRound.list_current (h : InRound p cur L) :
    p.sched.threads.threadList p.currentThread.toNat = cur := by
  obtain ⟨t, ht⟩ := h.isCurrent
  exact ht.names.2.2

/-- A step that leaves the place in the list alone, too. -/
lemma InRound.keep (h : InRound p cur L) (hk : LinkKept counts L p.toSleepState s')
    (hpid : 0 ≤ pid ∧ pid < PROCESS_COUNT_MAX) :
    InRound { p with toSleepState := s', currentProcess := pid } cur L where
  toRoundList := h.toRoundList.keep hk.threads pid
  head := hk.currentq.trans h.head
  current u hu := by
    obtain ⟨t, ht⟩ := h.isCurrent
    obtain ⟨v, hv, hsame, -⟩ := hk.threads.present cur t ht.thread
    obtain rfl := Option.some.inj (hv.symm.trans hu)
    rw [hsame.tid, ← ht.tid]
    exact hk.currentThread
  unlocked := hk.taskSwitchStatus.trans h.unlocked
  several := by
    rw [hk.counter]
    exact h.several
  process := hpid

lemma Paced.keep (h : Paced p cur k) (hk : LinkKept True L p.toSleepState s') :
    Paced { p with toSleepState := s', currentProcess := pid } cur k := by
  obtain ⟨t, ht, hwithin, hmax, hleft⟩ := h.left
  obtain ⟨u, hu, hsame, -⟩ := hk.threads.present cur t ht
  obtain ⟨hcount, hquantum⟩ := hsame.count trivial
  exact ⟨h.pos, u, hu, by omega, by omega, by omega⟩

/-- The first checks of the task switch are passed. -/
lemma InRound.checkCurrentOwner (h : InRound p cur L) :
    Gramado.checkCurrentOwner p = .ok { p with currentProcess := (p.owner cur).ownerPid } := by
  obtain ⟨t, ht⟩ := h.isCurrent
  obtain ⟨hlow, hhigh, hlist⟩ := ht.names
  obtain ⟨hpid, hpid', hprocess, hused, hmagic, hsame⟩ := (h.listed cur List.mem_cons_self).owner
  simp only [Gramado.checkCurrentOwner, panicIf_bind_ok, deref_bind_ok, not_not, hlist]
  exact ⟨by omega, ht.ne_null, t, ht.thread, ht.valid, by omega, hprocess, by simp [hused, hmagic], hsame, trivial⟩

/-- Nobody waits to be started. -/
lemma InRound.checkForStandby (h : InRound p cur L) : schediCheckForStandby p = .ok none := by
  have hnone : Scan.forward (StandbyAt p.sched) THREAD_COUNT_MAX.toNat 0 = none :=
    Scan.forward_eq_none.2 fun i _ _ => h.noStandby i
  rw [schediCheckForStandby, hnone]

/-- **The task switch in a round**: the current thread goes on and has a tick less, or its quantum is over
and the next thread is looked for. -/
lemma InRound.startSwitch (h : InRound p cur L) (hpace : Paced p cur k) :
    ∃ p', InRound p' cur L ∧ (Gramado.startSwitch p = .ok (.zeroGravity, p') ∨
      Gramado.startSwitch p = .ok (.done, p') ∧ ∃ k', k = k' + 1 ∧ Paced p' cur k') := by
  obtain ⟨t, ht⟩ := h.isCurrent
  obtain ⟨v, hv, hwithin, hmax, hleft⟩ := hpace.left
  obtain rfl := Option.some.inj (ht.thread.symm.trans hv)
  have hquantum : t.quantum ≤ 6 := hmax
  have hcount : ulongAdd t.runningCount 1 = t.runningCount + 1 := Nat.mod_eq_of_lt (by omega)
  obtain ⟨s', hs', hkept, hgoes⟩ := ht.taskSwitch h.notMem h.unlocked (by omega)
  obtain ⟨hpid, hpid', -⟩ := (h.listed cur List.mem_cons_self).owner
  set p' : ProcessState := { p with toSleepState := s', currentProcess := (p.owner cur).ownerPid }
  have h' : InRound p' cur L := h.keep hkept ⟨hpid, hpid'⟩
  have hover : QuantumOver { p with currentProcess := (p.owner cur).ownerPid }.toSleepState ↔
      t.quantum ≤ t.runningCount + 1 := by
    rw [QuantumOver]
    dsimp only
    rw [h.list_current, h.unlocked, ht.thread, Option.any_some, decide_eq_true_iff, hcount]
    exact and_iff_right (by decide)
  have hswitch : onSleep Gramado.taskSwitch { p with currentProcess := (p.owner cur).ownerPid } = .ok p' := by
    rw [onSleep, hs', ok_bind]
  refine ⟨p', h', ?_⟩
  rw [Gramado.startSwitch, h.checkCurrentOwner, ok_bind, hswitch, ok_bind]
  by_cases hlast : t.quantum ≤ t.runningCount + 1
  · left
    rw [if_pos (hover.2 hlast), h'.checkForStandby, ok_bind]
  · right
    rw [if_neg (mt hover.1 hlast)]
    obtain ⟨u, hu, hsame, hmore, hin⟩ := hgoes (by omega)
    exact ⟨rfl, k - 1, by omega, by omega, u, hu, by omega, by omega, by omega⟩

/-- **A timer interrupt in a round**, without a callback to the display server. -/
lemma InRound.irq0Timer (h : InRound p cur L) (hpace : Paced p cur k) {wsPid : ℤ} {callbackReady : Bool}
    (hnot : ¬(p.currentProcess = wsPid ∧ callbackReady = true)) :
    ∃ p', InRound p' cur L ∧ (Gramado.irq0Timer wsPid callbackReady p = .ok (.zeroGravity, p') ∨
      Gramado.irq0Timer wsPid callbackReady p = .ok (.done, p') ∧ ∃ k', k = k' + 1 ∧ Paced p' cur k') := by
  have hkept : LinkKept True L p.toSleepState (tick p.toSleepState) := .tick _
  have hticked : InRound { p with toSleepState := tick p.toSleepState } cur L := h.keep hkept h.process
  have hpaced : Paced { p with toSleepState := tick p.toSleepState } cur k :=
    hpace.keep hkept
  obtain ⟨t, ht⟩ := h.isCurrent
  have hcurrent : ¬((tick p.toSleepState).currentThread < 0 ∨
      (tick p.toSleepState).currentThread ≥ THREAD_COUNT_MAX) := by
    obtain ⟨hlow, hhigh, -⟩ := ht.names
    change ¬(p.currentThread < 0 ∨ p.currentThread ≥ THREAD_COUNT_MAX)
    omega
  have hprocess : ¬(p.currentProcess < 0 ∨ p.currentProcess ≥ PROCESS_COUNT_MAX) := by
    obtain ⟨hlow, hhigh⟩ := h.process
    omega
  have hinterrupt : Gramado.irq0Timer wsPid callbackReady p
      = Gramado.startSwitch { p with toSleepState := tick p.toSleepState } := by
    rw [Gramado.irq0Timer, tsTaskSwitch]
    dsimp only
    rw [panicIf, if_neg hprocess, ok_bind, panicIf, if_neg hcurrent, ok_bind, if_neg hnot]
  rw [hinterrupt]
  exact hticked.startSwitch hpaced

/-- The list goes on. -/
def ProcessState.goTo (p : ProcessState) (q : ℕ) : ProcessState :=
  { p with sched := { p.sched with currentq := q } }

/-- **The search ends with the next thread of the list.** -/
lemma InRound.search (h : InRound p cur (q :: L)) (garbage : ℕ → ℕ) :
    ∃ list, searchTurn garbage (Search.start p) = .ok (.inl ⟨q, p.goTo q, list⟩) := by
  have hseveral := h.several
  obtain ⟨⟨t, ht, hvalid, -⟩, -⟩ := h.listed q (List.mem_cons_of_mem _ List.mem_cons_self)
  obtain ⟨hne, hnext⟩ := h.behind
  have hready : readyPtr (p.goTo q).sched.threads (p.goTo q).sched.currentq := by
    show (p.sched.threads.thread q).any fun t => t.Ready
    rw [ht, Option.any_some, decide_eq_true_iff]
    exact ⟨hvalid, h.ready q List.mem_cons_self t ht⟩
  have hsome : ((p.goTo q).sched.threads.thread (p.goTo q).sched.currentq).isSome :=
    Option.isSome_iff_exists.2 ⟨t, ht⟩
  have hzero : zeroGravity (garbage 0) p = .ok (p.goTo q) := by
    rw [← h.head] at hnext
    rw [zeroGravity_eq (by omega) (by omega) h.timeout h.onTime hnext, if_neg hne]
    rfl
  refine ⟨listAfter p (p.goTo q) p.sched.currentq, ?_⟩
  rw [searchTurn]
  dsimp only [Search.start]
  rw [hzero, ok_bind, selectTarget_eq hsome hne, if_pos hready]
  rfl

/-- A thread that is dispatched has its whole quantum before it, and that is not too long. -/
lemma dispatched_count (t : Thread) :
    (dispatched (limited t)).runningCount = 0 ∧ (dispatched (limited t)).quantum ≤ QUANTUM_MAX := by
  have hlimited : (limited t).quantum ≤ QUANTUM_MAX := by
    show (if t.quantum > QUANTUM_MAX then QUANTUM_MAX else t.quantum) ≤ QUANTUM_MAX
    split_ifs <;> omega
  refine ⟨rfl, ?_⟩
  show (if (limited t).quantum < QUANTUM_MIN then QUANTUM_MIN else (limited t).quantum) ≤ QUANTUM_MAX
  split_ifs
  · decide
  · exact hlimited

lemma setOwner_ok {o : OwnerFields} (h : OwnerOk p o) :
    setOwner o p = .ok { p with currentProcess := o.ownerPid } := by
  obtain ⟨hpid, hpid', hprocess, hused, hmagic, hsame⟩ := h
  have hrange : o.ownerPid < THREAD_COUNT_MAX := hpid'
  simp only [setOwner, panicIf_bind_ok]
  exact ⟨by omega, hprocess, by simp [hused, hmagic], not_not.2 hsame, by rw [hsame]⟩

/-- The dispatch of a thread that is ready. -/
lemma dispatchCurrent_ok (ht : p.sched.threads.thread q = some t) (hvalid : t.Valid)
    (hnames : Names p.sched t.tid q) (hne : q ≠ 0) (hready : t.state = .READY) (howner : OwnerOk p (p.owner q)) :
    ∃ s', dispatchCurrent t.tid p = .ok { p with toSleepState := s', currentProcess := (p.owner q).ownerPid } ∧
      s'.sched = p.sched.setThread q (dispatched (limited t)) ∧ s'.currentThread = t.tid ∧
      s'.taskSwitchStatus = p.taskSwitchStatus := by
  obtain ⟨hlow, hhigh, hlist⟩ := hnames
  have hrange : ¬(t.tid < 0 ∨ t.tid ≥ THREAD_COUNT_MAX) := by omega
  set p₁ := p.putThread q (limited t)
  set s' := ({ p₁.toSleepState with currentThread := t.tid }.setThread q (dispatched (limited t))).setFields q
    { p₁.fields q with saved := FALSE }
  have hdispatch : dispatcher t.tid p₁.toSleepState = .ok s' := by
    have hthread : p₁.sched.threads.deref q = .ok (limited t) := Threads.deref_eq_ok.2 Threads.set_thread_same
    have hlist₁ : p₁.sched.threads.threadList t.tid.toNat = q := hlist
    have hmagic₁ : ¬(limited t).magic ≠ 1234 := not_not.2 hvalid.2
    have hready₁ : ¬(limited t).state ≠ .READY := not_not.2 hready
    rw [dispatcher]
    dsimp only
    rw [if_neg hrange, hlist₁, if_neg hne, hthread, ok_bind, if_neg hmagic₁, if_neg hready₁]
    rfl
  refine ⟨s', ?_, ?_, rfl, rfl⟩
  · simp only [dispatchCurrent, panicIf_bind_ok, deref_bind_ok, hlist, not_not]
    refine ⟨by omega, hne, t, ht, hvalid, hready, ?_⟩
    rw [onSleep, hdispatch, ok_bind, ok_bind]
    exact setOwner_ok (p := { p₁ with toSleepState := s' }) howner
  · show ((p.sched.setThread q (limited t)).setThread q (dispatched (limited t))) = _
    rw [SchedState.setThread, SchedState.setThread, SchedState.setThread, Threads.set_set]

/-- **The dispatch of the next thread of the list**: the round goes on with it. -/
lemma InRound.dispatch (h : InRound p cur (q :: L)) (ht : p.sched.threads.thread q = some t) :
    ∃ p', dispatchCurrent t.tid (p.goTo q) = .ok p' ∧ InRound p' q L ∧ Paced p' q QUANTUM_MAX := by
  obtain ⟨hne, -⟩ := h.behind
  obtain ⟨⟨u, hu, hvalid, hnames⟩, howner⟩ := h.listed q (List.mem_cons_of_mem _ List.mem_cons_self)
  obtain rfl := Option.some.inj (ht.symm.trans hu)
  have hready := h.ready q List.mem_cons_self t ht
  obtain ⟨s', hok, hsched, hcurrent, hstatus⟩ :=
    dispatchCurrent_ok (p := p.goTo q) ht hvalid hnames hne hready howner
  obtain ⟨hcount, hquantum⟩ := dispatched_count t
  have hthreads : s'.sched.threads = p.sched.threads.set q (dispatched (limited t)) :=
    congrArg SchedState.threads hsched
  have hself : s'.sched.threads.thread q = some (dispatched (limited t)) := by
    rw [hthreads]
    exact Threads.set_thread_same
  have hkept : ListKept False L p.sched.threads s'.sched.threads := by
    rw [hthreads]
    exact .set ht ⟨rfl, rfl, rfl, rfl, rfl, False.elim, fun hs => by cases hs⟩
      fun hq => absurd hq h.tail.notMem
  refine ⟨_, hok, ⟨h.tail.keep hkept _, ?_, ?_, hstatus.trans h.unlocked, ?_, howner.1, howner.2.1⟩,
    by decide, _, hself, by omega, hquantum, by omega⟩
  · rw [hsched]
    rfl
  · intro u hu
    obtain rfl := Option.some.inj (hself.symm.trans hu)
    exact hcurrent
  · rw [hsched]
    exact h.several

end Round

/-! ## Runs -/

/-- What happens while the list is worked through. -/
inductive RoundEvent where
  /-- A thread makes a request. -/
  | request (c : TsCall)
  /-- A timer interrupt that is passed on to the display server. -/
  | callback
  /-- A timer interrupt behind which the current thread goes on. -/
  | tick
  /-- A timer interrupt behind which the thread at `target` goes on. -/
  | dispatch (target : ℕ)

/-- **A step of a round**: a request, or a timer interrupt from its beginning to its end. -/
inductive RoundStep (wsPid : ℤ) : ProcessState → RoundEvent → ProcessState → Prop
  | request {p p' : ProcessState} {c : TsCall} (hc : AsksFor p.toSleepState c)
      (h : tsCall p c = .ok (.done, p')) : RoundStep wsPid p (.request c) p'
  | callback {p p' : ProcessState} (hws : p.currentProcess = wsPid)
      (h : irq0Timer wsPid true p = .ok (.done, p')) : RoundStep wsPid p .callback p'
  | tick {p p' : ProcessState} {callbackReady : Bool}
      (hnot : ¬(p.currentProcess = wsPid ∧ callbackReady = true))
      (h : irq0Timer wsPid callbackReady p = .ok (.done, p')) : RoundStep wsPid p .tick p'
  | dispatch {p p₁ p' : ProcessState} {callbackReady : Bool} {garbage : ℕ → ℕ} {c : Choice} {t : Thread}
      (hnot : ¬(p.currentProcess = wsPid ∧ callbackReady = true))
      (h : irq0Timer wsPid callbackReady p = .ok (.zeroGravity, p₁))
      (hends : Ends (searchTurn garbage) (Search.start p₁) (.ok c))
      (ht : c.state.sched.threads.thread c.target = some t)
      (hdispatch : dispatchCurrent t.tid c.state = .ok p') : RoundStep wsPid p (.dispatch c.target) p'

/-- The thread that an event dispatches. -/
def RoundEvent.target? : RoundEvent → Option ℕ
  | .dispatch target => some target
  | _ => none

/-- The event is a tick of the current thread. -/
def RoundEvent.ticks : RoundEvent → Bool
  | .tick | .dispatch _ => true
  | _ => false

/-- The threads that were dispatched, in order. -/
def dispatchedIn (es : List RoundEvent) : List ℕ := es.filterMap RoundEvent.target?

/-- The number of ticks. -/
def ticksIn (es : List RoundEvent) : ℕ := es.countP RoundEvent.ticks

section Run

variable {wsPid : ℤ} {p p' : ProcessState} {cur q k : ℕ} {L : List ℕ} {e : RoundEvent} {es : List RoundEvent}

/-- A step without a tick. -/
lemma InRound.step_quiet (h : InRound p cur L) (hpace : Paced p cur k) (hstep : RoundStep wsPid p e p')
    (hquiet : e.ticks = false) : e.target? = none ∧ InRound p' cur L ∧ Paced p' cur k := by
  cases hstep with
  | request hc hok =>
      obtain ⟨s', rfl, hkept⟩ : ∃ s', p' = { p with toSleepState := s' } ∧
          LinkKept True L p.toSleepState s' := asks_kept (h.list_current ▸ h.notMem) hc hok
      exact ⟨rfl, h.keep hkept h.process, hpace.keep hkept⟩
  | callback hws hok =>
      simp only [Gramado.irq0Timer, tsTaskSwitch, panicIf_bind_ok] at hok
      obtain ⟨-, -, hok⟩ := hok
      rw [if_pos ⟨hws, trivial⟩] at hok
      cases hok
      have hkept : LinkKept True L p.toSleepState (tick p.toSleepState) := .tick _
      exact ⟨rfl, h.keep hkept h.process, hpace.keep hkept⟩
  | tick hnot hok => cases hquiet
  | dispatch hnot hok hends ht hdispatch => cases hquiet

/-- A tick. -/
lemma InRound.step_tick (h : InRound p cur L) (hpace : Paced p cur k) (hstep : RoundStep wsPid p .tick p') :
    InRound p' cur L ∧ ∃ k', k = k' + 1 ∧ Paced p' cur k' := by
  cases hstep with
  | tick hnot hok =>
      obtain ⟨p'', hround, hzero | ⟨hdone, hleft⟩⟩ := h.irq0Timer hpace hnot
      · cases hok.symm.trans hzero
      · obtain ⟨-, rfl⟩ := Prod.mk.inj (Except.ok.inj (hok.symm.trans hdone))
        exact ⟨hround, hleft⟩

/-- **A dispatch**: it is the next thread of the list that goes on. -/
lemma InRound.step_dispatch {target : ℕ} (h : InRound p cur (q :: L)) (hpace : Paced p cur k)
    (hstep : RoundStep wsPid p (.dispatch target) p') :
    target = q ∧ InRound p' q L ∧ Paced p' q QUANTUM_MAX := by
  cases hstep with
  | dispatch hnot hok hends ht hdispatch =>
      obtain ⟨p'', hround, hzero | ⟨hdone, -⟩⟩ := h.irq0Timer hpace hnot
      · obtain ⟨-, rfl⟩ := Prod.mk.inj (Except.ok.inj (hok.symm.trans hzero))
        obtain ⟨list, hturn⟩ := hround.search _
        obtain rfl := Except.ok.inj ((ends_exit hturn).1 hends)
        obtain ⟨p₂, hok₂, hround₂, hpace₂⟩ := hround.dispatch ht
        obtain rfl := Except.ok.inj (hok₂.symm.trans hdispatch)
        exact ⟨rfl, hround₂, hpace₂⟩
      · cases hok.symm.trans hdone

/-- The next timer interrupt comes to its end. -/
lemma InRound.progress (h : InRound p cur (q :: L)) (hpace : Paced p cur k) (wsPid : ℤ) :
    (∃ p', RoundStep wsPid p (.dispatch q) p') ∨ k ≠ 1 ∧ ∃ p', RoundStep wsPid p .tick p' := by
  have hnot : ¬(p.currentProcess = wsPid ∧ false = true) := fun h => by cases h.2
  obtain ⟨p₁, hround, hzero | ⟨hdone, k', hk, hpace'⟩⟩ := h.irq0Timer hpace hnot
  · left
    obtain ⟨list, hturn⟩ := hround.search fun _ => 0
    obtain ⟨⟨t, ht, -⟩, -⟩ := hround.listed q (List.mem_cons_of_mem _ List.mem_cons_self)
    obtain ⟨p₂, hok, -⟩ := hround.dispatch ht
    exact ⟨p₂, .dispatch hnot hzero ((ends_exit hturn).2 rfl) ht hok⟩
  · right
    have hpos := hpace'.pos
    exact ⟨by omega, p₁, .tick hnot hdone⟩

/-- What a run has come to: it is still in the round, or the list is used up. -/
def RoundCame (L : List ℕ) (k : ℕ) (es : List RoundEvent) (p' : ProcessState) : Prop :=
  (∃ cur' L' k', L = dispatchedIn es ++ L' ∧ InRound p' cur' L' ∧ Paced p' cur' k' ∧
      ticksIn es + k' ≤ k + QUANTUM_MAX * (dispatchedIn es).length) ∨
    L <+: dispatchedIn es

lemma round_came (hrun : Trace (RoundStep wsPid) p es p') (h : InRound p cur L) (hpace : Paced p cur k) :
    RoundCame L k es p' := by
  induction hrun generalizing cur L k with
  | nil p => exact .inl ⟨cur, L, k, rfl, h, hpace, by simp [ticksIn, dispatchedIn]⟩
  | @cons p p₁ p' e es hstep hrest ih =>
      have hquiet (hq : e.ticks = false) : RoundCame L k (e :: es) p' := by
        obtain ⟨htarget, h₁, hpace₁⟩ := h.step_quiet hpace hstep hq
        have hD : dispatchedIn (e :: es) = dispatchedIn es := List.filterMap_cons_none htarget
        have hT : ticksIn (e :: es) = ticksIn es := List.countP_cons_of_neg (by rw [hq]; decide)
        rw [RoundCame, hD, hT]
        exact ih h₁ hpace₁
      cases e with
      | request c => exact hquiet rfl
      | callback => exact hquiet rfl
      | tick =>
          obtain ⟨h₁, k₁, rfl, hpace₁⟩ := h.step_tick hpace hstep
          have hT : ticksIn (.tick :: es) = ticksIn es + 1 := List.countP_cons_of_pos rfl
          have hD : dispatchedIn (.tick :: es) = dispatchedIn es := rfl
          rw [RoundCame, hD, hT]
          rcases ih h₁ hpace₁ with ⟨cur', L', k', hL, h', hpace', hcount⟩ | hused
          · exact .inl ⟨cur', L', k', hL, h', hpace', by omega⟩
          · exact .inr hused
      | dispatch target =>
          have hpos := hpace.pos
          have hT : ticksIn (.dispatch target :: es) = ticksIn es + 1 := List.countP_cons_of_pos rfl
          have hD : dispatchedIn (.dispatch target :: es) = target :: dispatchedIn es := rfl
          rw [RoundCame, hD, hT]
          cases L with
          | nil => exact .inr (List.nil_prefix)
          | cons q L =>
              obtain ⟨rfl, h₁, hpace₁⟩ := h.step_dispatch hpace hstep
              rcases ih h₁ hpace₁ with ⟨cur', L', k', rfl, h', hpace', hcount⟩ | hused
              · refine .inl ⟨cur', L', k', rfl, h', hpace', ?_⟩
                rw [List.length_cons, Nat.mul_succ]
                omega
              · exact .inr (List.cons_prefix_cons.2 ⟨rfl, hused⟩)

/-- **Round robin.**  In every run in which the threads make their requests and the timer interrupts them,
the threads of the list are dispatched in its order, each of them once, until the list is used up.  The
`k`-th of them has its turn before `QUANTUM_MAX * k` ticks are over, and as long as there is one that has not
had it, the next timer interrupt comes to its end. -/
theorem round_robin (h : InRound p cur L) (hpace : Paced p cur QUANTUM_MAX)
    (hrun : Trace (RoundStep wsPid) p es p') :
    (dispatchedIn es <+: L ∨ L <+: dispatchedIn es) ∧
      (∀ k ≤ L.length, QUANTUM_MAX * k ≤ ticksIn es → k ≤ (dispatchedIn es).length) ∧
      ((dispatchedIn es).length < L.length → ∃ e p'', RoundStep wsPid p' e p'' ∧ e.ticks = true) := by
  rcases round_came hrun h hpace with ⟨cur', L', k', hL, h', hpace', hcount⟩ | hused
  · have hpos := hpace'.pos
    refine ⟨.inl ⟨L', hL.symm⟩, fun k _ hk => ?_, fun hless => ?_⟩
    · by_contra hmore
      have hmul : QUANTUM_MAX * ((dispatchedIn es).length + 1) ≤ QUANTUM_MAX * k := Nat.mul_le_mul_left _ (by omega)
      rw [Nat.mul_succ] at hmul
      omega
    · cases L' with
      | nil =>
          rw [hL, List.append_nil] at hless
          exact absurd hless (lt_irrefl _)
      | cons q L' =>
          rcases h'.progress hpace' wsPid with ⟨p'', hstep⟩ | ⟨-, p'', hstep⟩
          · exact ⟨_, p'', hstep, rfl⟩
          · exact ⟨_, p'', hstep, rfl⟩
  · have hlength := hused.length_le
    exact ⟨.inr hused, fun k hk _ => hk.trans hlength, fun hless => by omega⟩

end Run

/-! ## A round of two threads -/

/-- The thread 100 of the process 5 is running, and behind it in the list is the thread 101. -/
def pairState : ProcessState :=
  { callingState FALSE with
    sched :=
      { (callingState FALSE).sched with
        threads :=
          { thread := fun a =>
              if a = 0x2000 then some { newThread 100 with state := .RUNNING, next := 0x3000 }
              else if a = 0x3000 then some { newThread 101 with state := .READY } else none
            threadList := fun i => if i = 100 then 0x2000 else if i = 101 then 0x3000 else 0 }
        threadsCounter := 2
        currentq := 0x2000 } }

lemma pairState_thread {a : ℕ} {t : Thread} (h : pairState.sched.threads.thread a = some t) :
    t = { newThread 100 with state := .RUNNING, next := 0x3000 } ∨
      t = { newThread 101 with state := .READY } := by
  have hthread : (if a = 0x2000 then some { newThread 100 with state := .RUNNING, next := 0x3000 }
      else if a = 0x3000 then some { newThread 101 with state := .READY } else none) = some t := h
  split_ifs at hthread
  · exact .inl (Option.some.inj hthread).symm
  · exact .inr (Option.some.inj hthread).symm

lemma pairState_round : InRound pairState 0x2000 [0x3000] where
  chain := ⟨rfl, by decide, 0x3000, rfl, rfl, by decide, 0, rfl, rfl⟩
  listed q hq := by
    rcases List.mem_cons.1 hq with rfl | hq
    · exact ⟨⟨_, rfl, ⟨rfl, rfl⟩, by decide, by decide, rfl⟩, by decide, by decide, by decide, rfl, rfl, rfl⟩
    · obtain rfl := List.mem_singleton.1 hq
      exact ⟨⟨_, rfl, ⟨rfl, rfl⟩, by decide, by decide, rfl⟩, by decide, by decide, by decide, rfl, rfl, rfl⟩
  ready q hq t ht := by
    obtain rfl := List.mem_singleton.1 hq
    obtain rfl := Option.some.inj ht
    rfl
  onTime hdue := hdue.1 rfl
  timeout hne := absurd rfl hne
  noStandby i hstandby := by
    obtain ⟨-, hany⟩ := hstandby
    obtain ⟨t, ht, hstate⟩ := (Option.any_eq_true _ _).1 hany
    have hstate := (of_decide_eq_true hstate).2
    rcases pairState_thread ht with rfl | rfl
    · cases hstate
    · cases hstate
  head := rfl
  current t ht := by
    obtain rfl := Option.some.inj ht
    rfl
  unlocked := rfl
  several := le_rfl
  process := by decide

lemma pairState_paced {k : ℕ} (hk : 1 ≤ k) : Paced pairState 0x2000 k :=
  ⟨hk, _, rfl, le_rfl, Nat.zero_le _, Nat.zero_le _⟩

/-- The running thread gives up its turn, and the other one has it. -/
def pairEvents : List RoundEvent := [.request (.yield 100), .dispatch 0x3000]

/-- The list of the two threads is used up. -/
theorem round_robin_pair : ∃ p', Trace (RoundStep 9) pairState pairEvents p' ∧
    (dispatchedIn pairEvents <+: [0x3000] ∨ [0x3000] <+: dispatchedIn pairEvents) ∧
      (∀ k ≤ 1, QUANTUM_MAX * k ≤ ticksIn pairEvents → k ≤ (dispatchedIn pairEvents).length) ∧
      ((dispatchedIn pairEvents).length < 1 → ∃ e p'', RoundStep 9 p' e p'' ∧ e.ticks = true) := by
  obtain ⟨p₁, hyield⟩ : ∃ p₁, RoundStep 9 pairState (.request (.yield 100)) p₁ := ⟨_, .request trivial rfl⟩
  obtain ⟨-, hround, hpace⟩ := pairState_round.step_quiet (pairState_paced le_rfl) hyield rfl
  rcases hround.progress hpace 9 with ⟨p₂, hdispatch⟩ | ⟨hne, -⟩
  · have hrun := Trace.cons hyield (Trace.cons hdispatch (.nil p₂))
    exact ⟨p₂, hrun, round_robin pairState_round (pairState_paced (by decide)) hrun⟩
  · exact absurd rfl hne

end Gramado
