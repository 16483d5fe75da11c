import Gramado.Ke.SchedulerKeep
import Gramado.Ke.Sleep

/-!
# Runs with sleeping threads

* `SleepInv` — the table is in order, and who is recorded to be at rest really rests: the thread is
  `WAITING`, and a sleeper's `wake_jiffy` is the time it was given.
* `Respected` — **what timed sleep is for**: no step makes a resting thread ready, and no pass puts
  one in its list.
* `Meets sleepStep SleepSafe` — the condition, on the state before each pass.

`sleep_respected_iff` says that the second holds of all steps of a run exactly when the third does.
-/

namespace Gramado

open StepRun Cells

/-! ## The invariant -/

/-- A thread rests as its record says. -/
def RestOk (jiffies : ℕ) (t : Thread) : Rest → Prop
  | .awake => True
  | .sleeping due => t.Valid ∧ jiffies < due ∧
      (t.state = .WAITING ∧ t.wakeJiffy = due % 2 ^ 64 ∨ t.state = .ZOMBIE)
  | .waitingForReason => t.Valid ∧ (t.state = .WAITING ∨ t.state = .ZOMBIE)

/-- Every resting thread rests as its record says. -/
structure SleepInv (s : SleepState) : Prop where
  table : TableOk s.sched
  rest : ∀ ptr, s.rest ptr ≠ .awake → ∃ t, s.sched.threads.thread ptr = some t ∧
    RestOk s.sched.jiffies t (s.rest ptr)

section Invariant

variable {s s' : SleepState} {t t' : Thread} {ptr jiffies : ℕ} {tid : ℤ} {r : Rest}

lemma RestOk.valid (h : RestOk jiffies t r) (hr : r ≠ .awake) : t.Valid := by
  cases r with
  | awake => exact absurd rfl hr
  | sleeping due => exact h.1
  | waitingForReason => exact h.1

lemma RestOk.state (h : RestOk jiffies t r) (hr : r ≠ .awake) :
    t.state = .WAITING ∨ t.state = .ZOMBIE := by
  cases r with
  | awake => exact absurd rfl hr
  | sleeping due => exact h.2.2.imp And.left id
  | waitingForReason => exact h.2

/-- Only the check fields, the state and the time of waking count. -/
lemma RestOk.turned (h : RestOk jiffies t r) (hsame : SameThread t t')
    (hwake : t'.wakeJiffy = t.wakeJiffy) (hstate : t'.state = t.state ∨ t'.state = .ZOMBIE) :
    RestOk jiffies t' r := by
  cases r with
  | awake => trivial
  | sleeping due =>
      obtain ⟨hvalid, hlt, hrest⟩ := h
      refine ⟨hsame.valid.2 hvalid, hlt, ?_⟩
      rcases hstate with hstate | hzombie
      · rwa [hstate, hwake]
      · exact Or.inr hzombie
  | waitingForReason =>
      obtain ⟨hvalid, hrest⟩ := h
      refine ⟨hsame.valid.2 hvalid, ?_⟩
      rcases hstate with hstate | hzombie
      · rwa [hstate]
      · exact Or.inr hzombie

namespace SleepInv

/-- One thread and its record are written. -/
lemma write (h : SleepInv s) (ht : s.sched.threads.thread ptr = some t) (hsame : SameThread t t')
    (hrest : RestOk s.sched.jiffies t' r) : SleepInv ((s.setRest ptr r).setThread ptr t') where
  table := h.table.carried
    (Carried.of_set SameThread.refl ⟨rfl, rfl, rfl, rfl, rfl⟩ rfl ht hsame)
  rest q hq := by
    by_cases hself : q = ptr
    · subst hself
      have hself : ((s.setRest q r).setThread q t').rest q = r := Function.update_self ..
      rw [hself]
      exact ⟨t', Threads.set_thread_same, hrest⟩
    · have hkept : ((s.setRest ptr r).setThread ptr t').rest q = s.rest q :=
        Function.update_of_ne hself ..
      rw [hkept] at hq ⊢
      obtain ⟨u, hu, hok⟩ := h.rest q hq
      exact ⟨u, (Threads.set_thread_of_ne hself).trans hu, hok⟩

/-- One thread is written, and its record stays. -/
lemma writeThread (h : SleepInv s) (ht : s.sched.threads.thread ptr = some t)
    (hsame : SameThread t t') (hrest : RestOk s.sched.jiffies t' (s.rest ptr)) :
    SleepInv (s.setThread ptr t') := by
  have hwrite := h.write ht hsame hrest
  rwa [SleepState.setRest, Function.update_eq_self] at hwrite

/-- The other fields and the globals of the task switch do not count. -/
lemma of_eq (h : SleepInv s) (hsched : s'.sched = s.sched) (hrest : s'.rest = s.rest) :
    SleepInv s' where
  table := hsched ▸ h.table
  rest ptr hptr := by
    rw [hsched]
    rw [hrest] at hptr ⊢
    exact h.rest ptr hptr

/-- The record of the thread at an address. -/
lemma restOk (h : SleepInv s) (ht : s.sched.threads.thread ptr = some t) :
    RestOk s.sched.jiffies t (s.rest ptr) := by
  by_cases hr : s.rest ptr = .awake
  · rw [hr]
    trivial
  · obtain ⟨u, hu, hok⟩ := h.rest ptr hr
    obtain rfl : t = u := by simpa using ht.symm.trans hu
    exact hok

end SleepInv

end Invariant

/-! ## Steps other than a pass -/

section Steps

variable {s s' : SleepState} {t : Thread} {ptr ms : ℕ} {tid reason : ℤ}

/-- A function of `schedi.c` returns at its checks, or runs its body. -/
lemma withThread_inv {body : ℕ → Thread → Except Fault SleepState}
    (h : withThread tid s body = .ok s') :
    s' = s ∨ ∃ ptr t, Names s.sched tid ptr ∧ ptr ≠ 0 ∧ s.sched.threads.thread ptr = some t ∧ t.Valid ∧
      body ptr t = .ok s' := by
  simp only [withThread] at h
  split_ifs at h with hrange hnull
  · cases h
    exact Or.inl rfl
  · cases h
    exact Or.inl rfl
  · obtain ⟨t, ht, h⟩ := bind_eq_ok h
    split_ifs at h with hused hmagic
    · cases h
      exact Or.inl rfl
    · cases h
      exact Or.inl rfl
    · exact Or.inr ⟨_, t, ⟨by omega, by omega, rfl⟩, hnull, Threads.deref_eq_ok.1 ht,
        ⟨not_not.1 hused, not_not.1 hmagic⟩, h⟩

lemma SleepInv.tick (h : SleepInv s) : SleepInv (tick s) where
  table := h.table.carried ⟨⟨rfl, rfl, rfl, rfl, rfl⟩, fun _ t ht => ⟨t, ht, SameThread.refl t⟩,
    fun _ => id⟩
  rest ptr hptr := by
    have hrest : (Gramado.tick s).rest ptr = (s.rest ptr).at (Gramado.tick s).sched.jiffies := rfl
    rw [hrest] at hptr ⊢
    generalize (Gramado.tick s).sched.jiffies = jiffies at hptr ⊢
    cases hr : s.rest ptr with
    | awake =>
        rw [hr] at hptr
        exact absurd rfl hptr
    | sleeping due =>
        obtain ⟨t, ht, hok⟩ := h.rest ptr (by simp [hr])
        rw [hr] at hptr hok
        rw [Rest.at] at hptr ⊢
        split_ifs at hptr ⊢ with hdue
        · exact absurd rfl hptr
        · exact ⟨t, ht, hok.1, not_le.1 hdue, hok.2.2⟩
    | waitingForReason =>
        obtain ⟨t, ht, hok⟩ := h.rest ptr (by simp [hr])
        rw [hr] at hok
        exact ⟨t, ht, hok⟩

lemma SleepInv.doThreadWaiting (h : SleepInv s) (hok : doThreadWaiting tid ms s = .ok s') :
    SleepInv s' := by
  rcases withThread_inv hok with rfl | ⟨ptr, t, -, -, ht, hvalid, hok⟩
  · exact h
  · cases hok
    refine SleepInv.write (h.of_eq rfl rfl) ht ⟨rfl, rfl, rfl⟩ ⟨hvalid, ?_, Or.inl ⟨rfl, rfl⟩⟩
    change s.sched.jiffies < s.sched.jiffies + _
    split_ifs <;> omega

lemma SleepInv.sleepUntil (h : SleepInv s) (hok : sleepUntil tid ms s = .ok s') : SleepInv s' := by
  simp only [Gramado.sleepUntil] at hok
  split_ifs at hok
  · cases hok
    exact h
  · exact h.doThreadWaiting hok
  · exact h.doThreadWaiting hok

lemma SleepInv.sleep (h : SleepInv s) (hok : sleep tid ms s = .ok s') : SleepInv s' := by
  rcases withThread_inv hok with rfl | ⟨ptr, t, -, -, -, -, hok⟩
  · exact h
  · cases hok
    exact h.of_eq rfl rfl

lemma SleepInv.yield (h : SleepInv s) (hok : yield tid s = .ok s') : SleepInv s' := by
  rcases withThread_inv hok with rfl | ⟨ptr, t, -, -, -, -, hok⟩
  · exact h
  · cases hok
    exact h.of_eq rfl rfl

lemma SleepInv.waitForAReason (h : SleepInv s) (hok : waitForAReason tid reason s = .ok s') :
    SleepInv s' := by
  simp only [Gramado.waitForAReason] at hok
  split_ifs at hok
  · cases hok
    exact h
  · rcases withThread_inv hok with rfl | ⟨ptr, t, -, -, ht, hvalid, hok⟩
    · exact h
    · cases hok
      exact h.write ht ⟨rfl, rfl, rfl⟩ ⟨hvalid, Or.inl rfl⟩

/-- Who is woken is recorded to be awake. -/
lemma SleepInv.wakeupThread (h : SleepInv s) (hok : wakeupThread tid s = .ok s') :
    SleepInv s' := by
  rcases withThread_inv hok with rfl | ⟨ptr, t, hnames, -, ht, hvalid, hok⟩
  · exact h
  · split_ifs at hok
    · cases hok
      exact h
    · cases hok
      exact h
    · cases hok
      exact h
    · cases hok
      exact h
    · obtain ⟨sched, hready, hok⟩ := bind_eq_ok hok
      cases hok
      refine ⟨h.table.carried (doThreadReady_carried hready), fun q hq => ?_⟩
      have hne : q ≠ ptr := by
        rintro rfl
        exact hq (Function.update_self ..)
      have hkept : (({ s with sched := sched } : SleepState).setRest ptr .awake).rest q = s.rest q :=
        Function.update_of_ne hne ..
      rw [hkept] at hq ⊢
      obtain ⟨u, hu, hrest⟩ := h.rest q hq
      have hother : ¬ Names s.sched tid q := fun hnames' => hne (hnames'.2.2.symm.trans hnames.2.2)
      have hsame := doThreadReady_thread h.table hready hu (hrest.valid hq)
      rw [if_neg hother] at hsame
      refine ⟨u, hsame, ?_⟩
      rw [← (doThreadReady_jiffies hready).1] at hrest
      exact hrest

/-- The counter of the quantum is written. -/
lemma SleepInv.count (h : SleepInv s) (ht : s.sched.threads.thread ptr = some t) (n : ℕ) :
    SleepInv (s.setThread ptr { t with runningCount := n }) :=
  h.writeThread ht ⟨rfl, rfl, rfl⟩ ((h.restOk ht).turned ⟨rfl, rfl, rfl⟩ rfl (Or.inl rfl))

lemma SleepInv.stillInQuantum (h : SleepInv s) (ht : s.sched.threads.thread ptr = some t) {n : ℕ}
    (hok : stillInQuantum ptr { t with runningCount := n } s = .ok s') : SleepInv s' := by
  simp only [Gramado.stillInQuantum] at hok
  split_ifs at hok with hyield hsleep hsleep
  · obtain ⟨s₁, hsleep, hok⟩ := bind_eq_ok hok
    cases hok
    have hflag : ∀ f, SleepInv ((s.setThread ptr { t with runningCount := t.quantum }).setFields
        ptr f) := fun f => (h.count ht t.quantum).of_eq rfl rfl
    refine (SleepInv.sleepUntil ?_ hsleep).of_eq rfl rfl
    exact (hflag _).count (t := { t with runningCount := t.quantum }) Threads.set_thread_same _
  · cases hok
    exact (h.count ht t.quantum).of_eq rfl rfl
  · obtain ⟨s₁, hsleep, hok⟩ := bind_eq_ok hok
    cases hok
    refine (SleepInv.sleepUntil ?_ hsleep).of_eq rfl rfl
    exact SleepInv.count (t := { t with runningCount := n }) (h.count ht n)
      Threads.set_thread_same _
  · cases hok
    exact h.count ht n

/-- Only a running thread becomes ready at the end of its quantum. -/
lemma SleepInv.finishedExecuting (h : SleepInv s) (ht : s.sched.threads.thread ptr = some t)
    (n : ℕ) : SleepInv (tsOnFinishedExecuting ptr { t with runningCount := n } s) := by
  simp only [tsOnFinishedExecuting]
  split_ifs with hrunning
  · refine h.writeThread ht ⟨rfl, rfl, rfl⟩ ?_
    by_cases hr : s.rest ptr = .awake
    · rw [hr]
      trivial
    · rcases (h.restOk ht).state hr with hstate | hstate
      · exact absurd (hrunning.symm.trans hstate) (by decide)
      · exact absurd (hrunning.symm.trans hstate) (by decide)
  · exact h.count ht n

lemma SleepInv.taskSwitch (h : SleepInv s) (hok : taskSwitch s = .ok s') : SleepInv s' := by
  simp only [Gramado.taskSwitch] at hok
  by_cases hrange : s.currentThread < 0 ∨ s.currentThread ≥ THREAD_COUNT_MAX
  · rw [if_pos hrange] at hok
    cases hok
  by_cases hnull : s.sched.threads.threadList s.currentThread.toNat = 0
  · rw [if_neg hrange, if_pos hnull] at hok
    cases hok
  rw [if_neg hrange, if_neg hnull] at hok
  obtain ⟨t, ht, hok⟩ := bind_eq_ok hok
  rw [Threads.deref_eq_ok] at ht
  have hsaved : ∀ f, SleepInv (s.setFields (s.sched.threads.threadList s.currentThread.toNat) f) :=
    fun f => h.of_eq rfl rfl
  split_ifs at hok
  · cases hok
    exact h.count ht _
  · exact (hsaved _).stillInQuantum ht hok
  · cases hok
    exact (hsaved _).finishedExecuting ht _

/-- Only a ready thread is dispatched. -/
lemma SleepInv.dispatcher (h : SleepInv s) (hok : dispatcher tid s = .ok s') : SleepInv s' := by
  simp only [Gramado.dispatcher] at hok
  split_ifs at hok with hrange hnull
  obtain ⟨t, ht, hok⟩ := bind_eq_ok hok
  rw [Threads.deref_eq_ok] at ht
  split_ifs at hok with _ hready
  cases hok
  have hready := not_not.1 hready
  have hwrite : SleepInv ((({ s with currentThread := tid } : SleepState).setThread
      (s.sched.threads.threadList tid.toNat) (dispatched t))) := by
    refine SleepInv.writeThread (t := t) (h.of_eq rfl rfl) ht ⟨rfl, rfl, rfl⟩ ?_
    by_cases hr : s.rest (s.sched.threads.threadList tid.toNat) = .awake
    · rw [show ({ s with currentThread := tid } : SleepState).rest = s.rest from rfl, hr]
      trivial
    · rcases (h.restOk ht).state hr with hstate | hstate
      · exact absurd (hready.symm.trans hstate) (by decide)
      · exact absurd (hready.symm.trans hstate) (by decide)
  exact hwrite.of_eq rfl rfl

end Steps

/-! ## A pass -/

/-- What is asked of the state before a pass, and of what is in the cursor: no thread that waits for
an event, and no sleeper whose time of waking did not fit an `unsigned long`, has a `wake_jiffy` that
the counter has reached; the idle thread is not at rest; and if the idle thread's time has come, the
thread of the cursor does not name a resting one. -/
structure PassSafe (garbage : ℕ) (s : SleepState) : Prop where
  timeout : ∀ ptr t, s.sched.threads.thread ptr = some t → t.state = .WAITING →
    (s.rest ptr = .waitingForReason ∨ ∃ due, s.rest ptr = .sleeping due ∧ 2 ^ 64 ≤ due) →
      s.sched.jiffies < t.wakeJiffy
  idle : s.rest s.sched.idleThread = .awake
  cursor : ∀ idle t ptr, s.sched.threads.thread s.sched.idleThread = some idle →
    idle.wakeJiffy ≤ s.sched.jiffies → s.sched.threads.thread garbage = some t →
      Names s.sched t.tid ptr → s.rest ptr = .awake

/-- Nobody in the current list is at rest. -/
def ListAwake (s : SleepState) : Prop :=
  ∀ L, Chain (nextOf s.sched.threads) (· = 0) s.sched.currentq L → ∀ ptr ∈ L, s.rest ptr = .awake

/-- Nobody who is at rest is ready. -/
def RestNotReady (s : SleepState) : Prop :=
  ∀ ptr t, s.sched.threads.thread ptr = some t → s.rest ptr ≠ .awake → t.state ≠ .READY

section Pass

variable {s s' : SleepState} {t : Thread} {ptr garbage : ℕ}

lemma SleepInv.restNotReady (h : SleepInv s) : RestNotReady s := by
  intro ptr t ht hr hready
  rcases (h.restOk ht).state hr with hstate | hstate
  · exact absurd (hready.symm.trans hstate) (by decide)
  · exact absurd (hready.symm.trans hstate) (by decide)

/-- A pass, as the scheduler's part of it. -/
lemma pass_inv (h : SleepInv s) (hok : pass garbage s = .ok s') :
    s'.rest = s.rest ∧ ∃ idle s₀, s.sched.threads.thread s.sched.idleThread = some idle ∧
      wakeInit garbage idle (roundStart s.sched idle) = .ok s₀ ∧ TableOk s₀ ∧
      s₀.jiffies = s.sched.jiffies ∧ s₀.idleThread = s.sched.idleThread ∧
      Carried (Turned s.sched.jiffies) s₀ s'.sched ∧ s'.sched.jiffies = s.sched.jiffies ∧
      Chain (nextOf s'.sched.threads) (· = 0) s'.sched.currentq (roundPtrs s₀ 1023) := by
  obtain ⟨⟨tid, sched⟩, hrr, hok⟩ := bind_eq_ok hok
  cases hok
  obtain ⟨idle, hidle, -⟩ := h.table.idle_tid
  obtain ⟨s₀, hpass⟩ := schedulerRr_inv h.table hidle hrr
  exact ⟨rfl, idle, s₀, hidle, hpass⟩

/-- A resting thread is not due, if the condition holds. -/
lemma PassSafe.not_due (hsafe : PassSafe garbage s) (h : SleepInv s)
    (ht : s.sched.threads.thread ptr = some t) (hr : s.rest ptr ≠ .awake) :
    ¬ t.Due s.sched.jiffies := by
  rintro ⟨-, hready | ⟨hwaiting, hle⟩⟩
  · exact h.restNotReady ptr t ht hr hready
  · have hrest := h.restOk ht
    cases hrec : s.rest ptr with
    | awake => exact hr hrec
    | sleeping due =>
        rw [hrec] at hrest
        obtain ⟨-, hlt, ⟨-, hwake⟩ | hzombie⟩ := hrest
        · by_cases hfits : due < 2 ^ 64
          · rw [Nat.mod_eq_of_lt hfits] at hwake
            omega
          · have := hsafe.timeout ptr t ht hwaiting (Or.inr ⟨due, hrec, not_lt.1 hfits⟩)
            omega
        · exact absurd (hwaiting.symm.trans hzombie) (by decide)
    | waitingForReason =>
        have := hsafe.timeout ptr t ht hwaiting (Or.inl hrec)
        omega

/-- **A pass under the condition** leaves everybody who rests alone. -/
lemma PassSafe.pass (hsafe : PassSafe garbage s) (h : SleepInv s) (hok : pass garbage s = .ok s') :
    SleepInv s' ∧ ListAwake s' := by
  obtain ⟨hrest, idle, s₀, hidle, hwake, h₀, hj₀, hid₀, hcarried, hj, hchain⟩ := pass_inv h hok
  -- what the loop starts with has the resting threads as they were
  have hstart : ∀ ptr t, s.sched.threads.thread ptr = some t → s.rest ptr ≠ .awake →
      s₀.threads.thread ptr = some t := by
    intro ptr t ht hr
    have hne : ptr ≠ s.sched.idleThread := fun heq => hr (heq ▸ hsafe.idle)
    have hround := h.table.roundStart hidle
    obtain ⟨hthreads, -, -, -, hjiffies, -⟩ := roundStart_fields idle h.table.idle_ne
    have ht₁ : (roundStart s.sched idle).threads.thread ptr = some t := by
      rw [hthreads, Threads.set_thread_of_ne hne, ht]
    simp only [wakeInit, hjiffies] at hwake
    split_ifs at hwake with htime
    · obtain ⟨u, hu, hwake⟩ := bind_eq_ok hwake
      rw [Threads.deref_eq_ok] at hu
      obtain ⟨u₀, hu₀, hturned⟩ := (roundStart_carried h.table hidle).before hu
      rw [doThreadReady_thread hround hwake ht₁ ((h.restOk ht).valid hr), if_neg]
      rintro ⟨hlow, hhigh, hslot⟩
      rw [hthreads, Threads.set_threadList] at hslot
      rw [hturned.same.tid] at hlow hhigh hslot
      exact hr (hsafe.cursor idle u₀ ptr hidle htime hu₀ ⟨hlow, hhigh, hslot⟩)
    · cases hwake
      exact ht₁
  refine ⟨⟨?_, fun ptr hr => ?_⟩, fun L hL ptr hptr => ?_⟩
  · exact h₀.carried (hcarried.mono fun _ _ hturned => hturned.same)
  · rw [hrest] at hr ⊢
    obtain ⟨t, ht, hrestOk⟩ := h.rest ptr hr
    obtain ⟨t', ht', hturned⟩ := hcarried.thread ptr t (hstart ptr t ht hr)
    refine ⟨t', ht', ?_⟩
    rw [hj]
    refine hrestOk.turned hturned.same hturned.wakeJiffy ?_
    rcases hturned.state with hstate | hzombie | ⟨-, hdue⟩
    · exact Or.inl hstate
    · exact Or.inr hzombie
    · exact absurd hdue (hsafe.not_due h ht hr)
  · rw [hL.unique hchain, h₀.mem_roundPtrs_iff, hid₀, hj₀] at hptr
    rw [hrest]
    rcases hptr with rfl | ⟨t, ht, hdue⟩
    · exact hsafe.idle
    · by_contra hr
      obtain ⟨u, hu, -⟩ := h.rest ptr hr
      obtain rfl : u = t := by simpa using (hstart ptr u hu hr).symm.trans ht
      exact hsafe.not_due h hu hr hdue

/-- **A pass that puts nobody who rests in its list** met the condition. -/
lemma ListAwake.passSafe (hlist : ListAwake s') (h : SleepInv s)
    (hok : Gramado.pass garbage s = .ok s') : PassSafe garbage s := by
  obtain ⟨hrest, idle, s₀, hidle, hwake, h₀, hj₀, hid₀, -, -, hchain⟩ := pass_inv h hok
  have hawake : ∀ ptr, (ptr = s.sched.idleThread ∨
      ∃ t, s₀.threads.thread ptr = some t ∧ t.Due s.sched.jiffies) → s.rest ptr = .awake := by
    intro ptr hptr
    rw [← hid₀, ← hj₀, ← h₀.mem_roundPtrs_iff] at hptr
    rw [← hrest]
    exact hlist _ hchain ptr hptr
  have hround := h.table.roundStart hidle
  obtain ⟨hthreads, -, -, -, hjiffies, -⟩ := roundStart_fields idle h.table.idle_ne
  refine ⟨?_, hawake _ (Or.inl rfl), ?_⟩
  · intro ptr t ht hwaiting hrec
    by_contra htime
    have hr : s.rest ptr ≠ .awake := by
      rcases hrec with hrec | ⟨due, hrec, -⟩ <;> simp [hrec]
    have hvalid := (h.restOk ht).valid hr
    have hne : ptr ≠ s.sched.idleThread := fun heq => hr (hawake ptr (Or.inl heq))
    have ht₁ : (roundStart s.sched idle).threads.thread ptr = some t := by
      rw [hthreads, Threads.set_thread_of_ne hne, ht]
    have hdue : t.Due s.sched.jiffies := ⟨hvalid, Or.inr ⟨hwaiting, not_lt.1 htime⟩⟩
    refine hr (hawake ptr (Or.inr ?_))
    simp only [wakeInit, hjiffies] at hwake
    split_ifs at hwake
    · obtain ⟨u, -, hwake⟩ := bind_eq_ok hwake
      refine ⟨_, doThreadReady_thread hround hwake ht₁ hvalid, ?_⟩
      split_ifs
      · exact ⟨hvalid, Or.inl rfl⟩
      · exact hdue
    · cases hwake
      exact ⟨t, ht₁, hdue⟩
  · intro idle' u ptr hidle' htime hu hnames
    obtain rfl : idle = idle' := by simpa using hidle.symm.trans hidle'
    by_contra hr
    obtain ⟨t, ht, hrestOk⟩ := h.rest ptr hr
    have hvalid := hrestOk.valid hr
    have hne : ptr ≠ s.sched.idleThread := fun heq => hr (hawake ptr (Or.inl heq))
    have ht₁ : (roundStart s.sched idle).threads.thread ptr = some t := by
      rw [hthreads, Threads.set_thread_of_ne hne, ht]
    refine hr (hawake ptr (Or.inr ?_))
    simp only [wakeInit, hjiffies] at hwake
    rw [if_pos htime] at hwake
    obtain ⟨u₁, hu₁, hwake⟩ := bind_eq_ok hwake
    rw [Threads.deref_eq_ok] at hu₁
    obtain ⟨u₀, hu₀, hturned⟩ := (roundStart_carried h.table hidle).before hu₁
    obtain rfl : u = u₀ := by simpa using hu.symm.trans hu₀
    refine ⟨_, doThreadReady_thread hround hwake ht₁ hvalid, ?_⟩
    have hnames' : Names (roundStart s.sched idle) u₁.tid ptr := by
      rw [Names, hthreads, Threads.set_threadList, hturned.same.tid]
      exact hnames
    rw [if_pos hnames']
    exact ⟨hvalid, Or.inl rfl⟩

end Pass

/-! ## Runs -/

/-- **What timed sleep is for.**  After the step nobody who is at rest, that is who sleeps and whose
time has not come or who waits for an event, is ready; and a pass puts none of them in its list. -/
def Respected (_ : SleepState) : SleepEvent → SleepState → Prop
  | .pass _, s' => RestNotReady s' ∧ ListAwake s'
  | _, s' => RestNotReady s'

/-- What is asked of the state before a step. -/
def SleepSafe (s : SleepState) : SleepEvent → Prop
  | .pass garbage => PassSafe garbage s
  | _ => True

section Runs

variable {s s' : SleepState} {e : SleepEvent}

/-- **A step that meets the condition** keeps the invariant. -/
lemma SleepInv.step (h : SleepInv s) (hsafe : SleepSafe s e) (hok : sleepStep s e = .ok s') :
    SleepInv s' := by
  cases e with
  | tick =>
      cases hok
      exact h.tick
  | pass garbage => exact (PassSafe.pass hsafe h hok).1
  | sleep tid ms => exact h.sleep hok
  | sleepUntil tid ms => exact h.sleepUntil hok
  | yield tid => exact h.yield hok
  | waitForAReason tid reason => exact h.waitForAReason hok
  | wakeupThread tid => exact h.wakeupThread hok
  | wakeupThreadReason tid reason => cases hok
  | taskSwitch => exact h.taskSwitch hok
  | dispatch tid => exact h.dispatcher hok

/-- Of a single step, the condition decides. -/
lemma SleepInv.respected_iff (h : SleepInv s) (hok : sleepStep s e = .ok s') :
    Respected s e s' ↔ SleepSafe s e := by
  cases e with
  | pass garbage =>
      constructor
      · exact fun hrespected => hrespected.2.passSafe h hok
      · exact fun hsafe => ⟨(h.step hsafe hok).restNotReady, (PassSafe.pass hsafe h hok).2⟩
  | _ =>
      have hstep := fun hsafe => h.step hsafe hok
      exact iff_of_true (hstep trivial).restNotReady trivial

/-- **When timed sleep is respected.**  For every table in order in which nobody is recorded to be at
rest, and every run of ticks, passes, requests and wake-ups from it, all steps respect who rests if
and only if all passes of the run begin in a state in which no resting thread looks due. -/
theorem sleep_respected_iff (s : SleepState) (es : List SleepEvent) (h : TableOk s.sched)
    (hawake : ∀ ptr, s.rest ptr = .awake) :
    AlongSteps sleepStep Respected s es ↔ Meets sleepStep SleepSafe s es := by
  refine alongSteps_iff_meets SleepInv (fun s e s' hinv hok => ?_) (fun s e s' hinv hsafe hok => ?_)
    es s ⟨h, fun ptr hr => absurd (hawake ptr) hr⟩
  · exact hinv.respected_iff hok
  · exact hinv.step hsafe hok

end Runs

/-! ## Two threads -/

/-- A state in which nobody is at rest. -/
def allAwake (s : SchedState) : SleepState where
  sched := s
  fields _ := ⟨TRUE, FALSE, 0, FALSE, 0⟩
  currentThread := 1
  taskSwitchStatus := UNLOCKED
  rest _ := .awake

theorem sleep_respected_iff_twoThreads :
    AlongSteps sleepStep Respected (allAwake (twoThreads 5 { newThread 1 with state := .RUNNING }))
        [.sleepUntil 1 3, .tick, .pass 0] ↔
      Meets sleepStep SleepSafe (allAwake (twoThreads 5 { newThread 1 with state := .RUNNING }))
        [.sleepUntil 1 3, .tick, .pass 0] :=
  sleep_respected_iff (allAwake (twoThreads 5 { newThread 1 with state := .RUNNING }))
    [.sleepUntil 1 3, .tick, .pass 0] (twoThreads_ok 5 rfl) fun _ => rfl

section TwoThreads

variable {s : SleepState} {t u : Thread}

lemma twoThreads_set (jiffies : ℕ) :
    (twoThreads jiffies t).setThread 0x2000 u = twoThreads jiffies u := by
  have hthread : Function.update (twoThreads jiffies t).threads.thread 0x2000 (some u)
      = (twoThreads jiffies u).threads.thread := by
    funext ptr
    by_cases hptr : ptr = 0x2000
    · subst hptr
      rfl
    · simp [twoThreads, hptr]
  rw [SchedState.setThread, Threads.set, hthread]
  rfl

lemma twoThreads_slot {jiffies i : ℕ} (hpos : 1 ≤ i)
    (hu : (twoThreads jiffies t).threads.thread ((twoThreads jiffies t).threads.threadList i)
      = some u) : t = u := by
  by_cases hone : i = 1
  · subst hone
    simpa [twoThreads] using hu
  · simp [twoThreads, hone, show i ≠ 0 by omega] at hu

/-- While the idle thread sleeps and the other one is not about to exit, a pass comes to its end. -/
lemma twoThreads_pass (htid : t.tid = 1) (hwaiting : t.state = .WAITING)
    (hexit : t.exitInProgress ≠ TRUE) (hs : s.sched = twoThreads 5 t) :
    ∃ s', sleepStep s (.pass 0) = .ok s' := by
  have hends : NothingEnds (twoThreads 5 t) := by
    refine ⟨fun u hu => ?_, fun i hi u hu hzombie => ?_, fun i hi u hu _ => ?_⟩
    · cases hu
      exact (by decide : 5 < 10)
    · obtain rfl := twoThreads_slot (mem_slots.1 hi).1 hu
      exact absurd (hwaiting.symm.trans hzombie.2) (by decide)
    · obtain rfl := twoThreads_slot (mem_slots.1 hi).1 hu
      exact hexit
  obtain ⟨tid, s', hok, -⟩ := hends.roundBuilt (twoThreads_ok 5 htid) 0
  refine ⟨{ s with sched := s', currentThread := tid }, ?_⟩
  simp only [sleepStep, pass, hs, hok, ok_bind]

/-- A pass at 5 that comes to its end, while the waiting thread is recorded to be at rest and its
`wake_jiffy` has passed. -/
lemma not_respected {e : SleepEvent} {s₀ : SleepState} (h : SleepInv s₀)
    (hstep : sleepStep s₀ e = .ok s) (hsafe : SleepSafe s₀ e) (hs : s.sched = twoThreads 5 t)
    (htid : t.tid = 1) (hwaiting : t.state = .WAITING) (hexit : t.exitInProgress ≠ TRUE)
    (hwake : t.wakeJiffy ≤ 5)
    (hrest : s.rest 0x2000 = .waitingForReason ∨
      ∃ due, s.rest 0x2000 = .sleeping due ∧ 2 ^ 64 ≤ due) :
    ¬ AlongSteps sleepStep Respected s₀ [e, .pass 0] := by
  intro halong
  obtain ⟨s', hpass⟩ := twoThreads_pass htid hwaiting hexit hs
  have hrespected := ((halong s hstep).2 s' hpass).1
  have hcondition := ((h.step hsafe hstep).respected_iff hpass).1 hrespected
  have ht : s.sched.threads.thread 0x2000 = some t := by
    rw [hs]
    rfl
  have hlt := hcondition.timeout 0x2000 t ht hwaiting hrest
  rw [hs] at hlt
  exact absurd hwake (not_le.2 hlt)

end TwoThreads

/-- A thread that waits for an event is made ready by the next pass, because its `wake_jiffy` is
still zero.  So is one that is to sleep for the longest time there is: its `wake_jiffy` wraps to a
number that the counter has passed. -/
theorem sleep_respected_fails :
    (¬ AlongSteps sleepStep Respected
        (allAwake (twoThreads 5 { newThread 1 with state := .RUNNING }))
        [.waitForAReason 1 0, .pass 0]) ∧
      ¬ AlongSteps sleepStep Respected
        (allAwake (twoThreads 5 { newThread 1 with state := .RUNNING }))
        [.sleepUntil 1 (2 ^ 64 - 1), .pass 0] := by
  have hinv : SleepInv (allAwake (twoThreads 5 { newThread 1 with state := .RUNNING })) :=
    ⟨twoThreads_ok 5 rfl, fun ptr hr => absurd rfl hr⟩
  constructor
  · exact not_respected hinv rfl trivial (twoThreads_set 5) rfl rfl (by decide) (by decide)
      (Or.inl rfl)
  · exact not_respected hinv rfl trivial (twoThreads_set 5) rfl rfl (by decide) (by decide)
      (Or.inr ⟨5 + (2 ^ 64 - 1), rfl, by decide⟩)

end Gramado
