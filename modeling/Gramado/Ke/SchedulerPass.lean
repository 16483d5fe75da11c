import Gramado.Ke.SchedulerKeep

/-!
# The outcome of a pass

A pass of `__scheduler_rr` comes to its end if the idle thread sleeps and no thread is a zombie
(`schedulerRr_done`), and with nothing in the cursor only then (`schedulerRr_fails`).  `PassDone` says
all that the next pass depends on: which threads are in the list, which of them are still ready, and
that the threads that were about to exit are zombies now.
-/

namespace Gramado

open StepRun Cells

/-- A valid thread that is about to exit. -/
def Thread.Exiting (t : Thread) : Prop := t.Valid ∧ t.exitInProgress = TRUE

section Slot

variable {s s' : SchedState} {t u : Thread} {tmp q i : ℕ}

/-- What stands behind the first two parts of the body, at a slot without a zombie. -/
lemma Slot.parts (h : Slot s i t) (halive : ¬ t.Zombie) (hok : rrSlot s i = .ok s') :
    ∃ s₁, linkReady (s.threads.threadList i)
        (s.setThread (s.threads.threadList i) (woken s.jiffies t)) = .ok s₁ ∧
      (finishExit (s.threads.threadList i) s₁ >>= useCredits (s.threads.threadList i)) = .ok s' := by
  simp only [rrSlot] at hok
  rw [if_neg h.ne_null, h.wake, ok_bind,
    reapZombie_eq Threads.set_thread_same (mt zombie_woken.1 halive), ok_bind] at hok
  exact bind_eq_ok hok

/-- A thread that is about to exit is a zombie behind the body. -/
lemma rrSlot_exiting (h : Slot s i t) (halive : ¬ t.Zombie) (hexit : t.Exiting)
    (hok : rrSlot s i = .ok s') :
    ∃ t', s'.threads.thread (s.threads.threadList i) = some t' ∧ t'.Zombie := by
  obtain ⟨s₁, hlink, hrest⟩ := h.parts halive hok
  have hwoken : Passed s.jiffies t (woken s.jiffies t) := Passed.woken t
  obtain ⟨t₁, ht₁, hone⟩ := (linkReady_carried (j := s.jiffies) hlink).thread _ _ Threads.set_thread_same
  have hidle : s₁.idleThread = s.idleThread :=
    (linkReady_carried (j := s.jiffies) hlink).globals.idleThread
  have hpassed : Passed s.jiffies t t₁ := hwoken.trans hone
  obtain ⟨s₂, hfinish, -, -, hthreads⟩ := finish_eq ht₁
  obtain rfl : s₂ = s' := by simpa using hfinish.symm.trans hrest
  have hvalid : t₁.Valid := hpassed.same.valid.2 hexit.1
  have hexit₁ : t₁.magic = 1234 ∧ t₁.exitInProgress = TRUE ∧ s.threads.threadList i ≠ s₁.idleThread :=
    ⟨hvalid.2, hpassed.exitInProgress.trans hexit.2, hidle ▸ h.ne_idle⟩
  refine ⟨credited (exited s₁.idleThread (s.threads.threadList i) t₁), ?_, ?_⟩
  · rw [hthreads]
    exact Threads.set_thread_same
  · obtain ⟨hused, hmagic, hstate, -⟩ :=
      credited_keeps (exited s₁.idleThread (s.threads.threadList i) t₁)
    rw [Thread.Zombie, Thread.Valid, hused, hmagic, hstate, exited, if_pos hexit₁]
    exact ⟨hvalid, rfl⟩

/-- Linking leaves the states of the other threads. -/
lemma linkReady_others (hq : q ≠ tmp) (hu : s.threads.thread q = some u)
    (hok : linkReady tmp s = .ok s') :
    ∃ u', s'.threads.thread q = some u' ∧ u'.state = u.state := by
  obtain ⟨t, ht, hok⟩ := bind_eq_ok hok
  split_ifs at hok
  · obtain ⟨p, hp, hok⟩ := bind_eq_ok hok
    obtain ⟨t₁, ht₁, hok⟩ := bind_eq_ok hok
    cases hok
    have hset : ∀ (r : SchedState) (v : Thread), (r.setThread tmp v).threads.thread q
        = r.threads.thread q := fun r v => Threads.set_thread_of_ne hq
    rw [hset]
    by_cases hlast : q = s.p6q
    · subst hlast
      obtain rfl : p = u := by simpa using (Threads.deref_eq_ok.1 hp).symm.trans hu
      exact ⟨_, Threads.set_thread_same, rfl⟩
    · exact ⟨u, (Threads.set_thread_of_ne hlast).trans hu, rfl⟩
  · cases hok
    exact ⟨u, hu, rfl⟩

/-- The body leaves the states of the other threads. -/
lemma rrSlot_others (h : Slot s i t) (halive : ¬ t.Zombie) (hq : q ≠ s.threads.threadList i)
    (hu : s.threads.thread q = some u) (hok : rrSlot s i = .ok s') :
    ∃ u', s'.threads.thread q = some u' ∧ u'.state = u.state := by
  obtain ⟨s₁, hlink, hrest⟩ := h.parts halive hok
  have hu₀ : (s.setThread (s.threads.threadList i) (woken s.jiffies t)).threads.thread q = some u :=
    (Threads.set_thread_of_ne hq).trans hu
  obtain ⟨u₁, hu₁, hstate⟩ := linkReady_others hq hu₀ hlink
  obtain ⟨t₁, ht₁, -⟩ := (linkReady_carried (j := s.jiffies) hlink).thread _ _ Threads.set_thread_same
  obtain ⟨s₂, hfinish, -, -, hthreads⟩ := finish_eq ht₁
  obtain rfl : s₂ = s' := by simpa using hfinish.symm.trans hrest
  refine ⟨u₁, ?_, hstate⟩
  rw [hthreads]
  exact (Threads.set_thread_of_ne hq).trans hu₁

end Slot

/-! ## The counter of the threads -/

section Counter

variable {s s' : SchedState} {tmp i garbage : ℕ} {idle : Thread} {tid : ℤ}

lemma doThreadReady_counter (h : doThreadReady tid s = .ok s') : s'.threadsCounter = s.threadsCounter := by
  simp only [doThreadReady] at h
  split_ifs at h
  · cases h
    rfl
  · cases h
    rfl
  · obtain ⟨t, -, h⟩ := bind_eq_ok h
    split_ifs at h <;> cases h <;> rfl

lemma wakeWaiting_counter (h : wakeWaiting tmp s = .ok s') : s'.threadsCounter = s.threadsCounter := by
  obtain ⟨t, -, h⟩ := bind_eq_ok h
  dsimp only at h
  split_ifs at h
  · have hready := doThreadReady_counter h
    exact hready
  · cases h
    rfl
  · have hready := doThreadReady_counter h
    exact hready
  · cases h
    rfl
  · cases h
    rfl

lemma reapZombie_counter {r : ℕ × SchedState} (h : reapZombie tmp s = .ok r) :
    r.2.threadsCounter = s.threadsCounter := by
  obtain ⟨t, -, h⟩ := bind_eq_ok h
  dsimp only at h
  split_ifs at h <;> cases h <;> rfl

lemma linkReady_counter (h : linkReady tmp s = .ok s') : s'.threadsCounter = s.threadsCounter := by
  obtain ⟨t, -, h⟩ := bind_eq_ok h
  split_ifs at h
  · obtain ⟨p, -, h⟩ := bind_eq_ok h
    obtain ⟨t₁, -, h⟩ := bind_eq_ok h
    cases h
    rfl
  · cases h
    rfl

lemma finishExit_counter (h : finishExit tmp s = .ok s') : s'.threadsCounter = s.threadsCounter := by
  obtain ⟨t, -, h⟩ := bind_eq_ok h
  dsimp only at h
  split_ifs at h <;> cases h <;> rfl

lemma useCredits_counter (h : useCredits tmp s = .ok s') : s'.threadsCounter = s.threadsCounter := by
  obtain ⟨t, -, h⟩ := bind_eq_ok h
  split_ifs at h <;> cases h <;> rfl

lemma rrSlot_counter (h : rrSlot s i = .ok s') : s'.threadsCounter = s.threadsCounter := by
  simp only [rrSlot] at h
  split_ifs at h
  · cases h
    rfl
  · obtain ⟨s₁, hwake, h⟩ := bind_eq_ok h
    obtain ⟨⟨tmp, s₂⟩, hreap, h⟩ := bind_eq_ok h
    obtain ⟨s₃, hlink, h⟩ := bind_eq_ok h
    obtain ⟨s₄, hexit, hcredits⟩ := bind_eq_ok h
    calc s'.threadsCounter = s₄.threadsCounter := useCredits_counter hcredits
      _ = s₃.threadsCounter := finishExit_counter hexit
      _ = s₂.threadsCounter := linkReady_counter hlink
      _ = s₁.threadsCounter := reapZombie_counter hreap
      _ = s.threadsCounter := wakeWaiting_counter hwake

end Counter

/-! ## The loop -/

/-- What the loop has done to the threads of the slots up to `n`, and what not to the idle thread. -/
structure LoopDone (s₀ : SchedState) (n : ℕ) (s : SchedState) : Prop where
  round : RoundInv s₀ n s
  carried : Carried (Passed s₀.jiffies) s₀ s
  exits : ∀ i : ℕ, 1 ≤ i → i ≤ n → ∀ t, s₀.threads.thread (s₀.threads.threadList i) = some t →
    t.Exiting → ∃ t', s.threads.thread (s₀.threads.threadList i) = some t' ∧ t'.Zombie
  idleState : ∀ t, s₀.threads.thread s₀.idleThread = some t →
    ∃ t', s.threads.thread s₀.idleThread = some t' ∧ t'.state = t.state
  counter : s.threadsCounter = s₀.threadsCounter

section Pass

variable {s s' s₀ : SchedState} {t idle : Thread} {n i garbage : ℕ} {tid : ℤ}

lemma loop_done (h : TableOk s₀) (hp6q : s₀.p6q = s₀.idleThread) (hn : (n : ℤ) < THREAD_COUNT_MAX)
    (hrun : runs rrSlot s₀ (List.range' 1 n) = .ok s) : LoopDone s₀ n s := by
  obtain ⟨hround, hcarried⟩ := round_carried h hp6q hn hrun
  induction n generalizing s with
  | zero =>
      obtain rfl : s₀ = s := by simpa using hrun
      exact ⟨hround, hcarried, fun i hpos hle => by omega, fun t ht => ⟨t, ht, rfl⟩, rfl⟩
  | succ n ih =>
      have halive := round_alive h hp6q hn hrun (n + 1) (by omega) le_rfl
      rw [List.range'_concat, show 1 + 1 * n = n + 1 by omega] at hrun
      obtain ⟨s₁, hbefore, hlast⟩ := runs_append_inv hrun
      obtain ⟨hinv, hcarried₁⟩ := round_carried h hp6q (by omega) hbefore
      have hdone := ih (by omega) hbefore hinv hcarried₁
      obtain ⟨s₂, hstep, hrest⟩ := runs_cons_inv hlast
      obtain rfl : s₂ = s := by simpa using hrest
      have hcounter := (rrSlot_counter hstep).trans hdone.counter
      by_cases hne : s₀.threads.threadList (n + 1) = 0
      · obtain rfl : s₁ = s₂ := by simpa using (hinv.step_null h hne).1.symm.trans hstep
        refine ⟨hround, hcarried, fun i hpos hle t ht hexit => ?_, hdone.idleState, hcounter⟩
        rcases Nat.lt_succ_iff_lt_or_eq.1 (Nat.lt_succ_of_le hle) with hlt | rfl
        · exact hdone.exits i hpos (by omega) t ht hexit
        · rw [hne, h.null] at ht
          cases ht
      obtain ⟨t, ht, hslot⟩ := hinv.slot h hn hne
      have hlist : s₁.threads.threadList = s₀.threads.threadList := hinv.kept.threadList
      have hone : Carried (Passed s₁.jiffies) s₁ s₂ := rrSlot_carried hslot (halive t ht) hstep
      refine ⟨hround, hcarried, fun i hpos hle u hu hexit => ?_, fun u hu => ?_, hcounter⟩
      · rcases Nat.lt_succ_iff_lt_or_eq.1 (Nat.lt_succ_of_le hle) with hlt | rfl
        · obtain ⟨u', hu', hzombie⟩ := hdone.exits i hpos (by omega) u hu hexit
          obtain ⟨u'', hu'', hpassed⟩ := hone.thread _ u' hu'
          exact ⟨u'', hu'', hpassed.toTurned.zombie hzombie⟩
        · obtain rfl : t = u := by simpa using ht.symm.trans hu
          rw [← hlist]
          exact rrSlot_exiting hslot (halive t ht) hexit hstep
      · obtain ⟨u', hu', hstate⟩ := hdone.idleState u hu
        have hidle : s₀.idleThread ≠ s₁.threads.threadList (n + 1) := by
          rw [hlist]
          exact h.idle_ne_slot hn hne
        obtain ⟨u'', hu'', hstate'⟩ := rrSlot_others hslot (halive t ht) hidle hu' hstep
        exact ⟨u'', hu'', hstate'.trans hstate⟩

lemma finishRound_counter (h : finishRound s = .ok s') : s'.threadsCounter = s.threadsCounter := by
  obtain ⟨p, -, h⟩ := bind_eq_ok h
  cases h
  rfl

lemma roundStart_counter (hne : s.idleThread ≠ 0) :
    (roundStart s idle).threadsCounter = s.threadsCounter := by
  rw [roundStart, setHead, qlistSetElement_current hne, qlistSetElement_p6 hne]
  rfl

/-! ## The whole pass -/

/-- The idle thread is not to be woken. -/
def IdleSleeps (s : SchedState) : Prop :=
  ∀ t, s.threads.thread s.idleThread = some t → s.jiffies < t.wakeJiffy

/-- No slot behind the idle thread's has a zombie. -/
def NoZombie (s : SchedState) : Prop :=
  ∀ i ∈ slotsFrom 1, ∀ t, s.threads.thread (s.threads.threadList i) = some t → ¬ t.Zombie

/-- What a pass that comes to its end has done. -/
structure PassDone (s s' : SchedState) : Prop where
  table : TableOk s'
  carried : Carried (Passed s.jiffies) s s'
  jiffies : s'.jiffies = s.jiffies
  head : s'.currentq = s.idleThread
  chain : Chain (nextOf s'.threads) (· = 0) s.idleThread
    (s.idleThread :: ((slotsFrom 1).filter (dueAt s)).map s.threads.threadList)
  ready : ∀ i ∈ slotsFrom 1, readyAt s' i = staysAt s i
  exits : ∀ i ∈ slotsFrom 1, ∀ t, s.threads.thread (s.threads.threadList i) = some t → t.Exiting →
    ∃ t', s'.threads.thread (s.threads.threadList i) = some t' ∧ t'.Zombie
  idleState : ∀ t, s.threads.thread s.idleThread = some t →
    ∃ t', s'.threads.thread s.idleThread = some t' ∧ t'.state = t.state
  counter : s'.threadsCounter = s.threadsCounter

/-- The end of the pass only writes the end of the list. -/
lemma LoopDone.finish {s₁ s₂ : SchedState} (hdone : LoopDone s₀ 1023 s₁) (h : TableOk s₀)
    (hcurrentq : s₀.currentq = s₀.idleThread) (hfinish : finishRound s₁ = .ok s₂) :
    PassDone s₀ s₂ := by
  have hmax : ((1023 : ℕ) : ℤ) < THREAD_COUNT_MAX := by decide
  obtain ⟨p, hp, hchain⟩ := hdone.round.close h hmax
  have hcounter := (finishRound_counter hfinish).trans hdone.counter
  obtain ⟨hthreads, hglobals, hj, hq⟩ : s₂.threads = s₁.threads.set s₁.p6q { p with next := 0 } ∧
      SameGlobals s₁ s₂ ∧ s₂.jiffies = s₁.jiffies ∧ s₂.currentq = s₁.currentq := by
    rw [finishRound, Threads.deref_eq_ok.2 hp, ok_bind] at hfinish
    cases hfinish
    exact ⟨rfl, ⟨rfl, rfl, rfl, rfl, rfl⟩, rfl, rfl⟩
  have hlast : Carried (Passed s₀.jiffies) s₁ s₂ :=
    Carried.of_set Passed.refl hglobals hthreads hp (.of_state ⟨rfl, rfl, rfl⟩ rfl rfl rfl rfl)
  have hcarried : Carried (Passed s₀.jiffies) s₀ s₂ := hdone.carried.trans Passed.trans hlast
  have hkept : ∀ ptr u, s₁.threads.thread ptr = some u →
      ∃ u', s₂.threads.thread ptr = some u' ∧ u'.state = u.state := by
    intro ptr u hu
    rw [hthreads]
    by_cases hptr : ptr = s₁.p6q
    · subst hptr
      obtain rfl : p = u := by simpa using hp.symm.trans hu
      exact ⟨_, Threads.set_thread_same, rfl⟩
    · exact ⟨u, (Threads.set_thread_of_ne hptr).trans hu, rfl⟩
  refine ⟨h.carried (hcarried.mono fun _ _ hpassed => hpassed.same), hcarried,
    hj.trans hdone.round.kept.jiffies, (hq.trans hdone.round.kept.currentq).trans hcurrentq,
    hthreads ▸ h.roundPtrs_eq ▸ hchain, ?_, ?_, ?_, hcounter⟩
  · intro i hi
    obtain ⟨hpos, hlt⟩ := mem_slots.1 hi
    simp only [THREAD_COUNT_MAX] at hlt
    have hlist : s₂.threads.threadList = s₁.threads.threadList := hglobals.threadList
    rw [← hdone.round.passed i hpos (by omega), readyAt, readyAt, hlist, hthreads]
    exact readyPtr_link hp 0
  · intro i hi t ht hexit
    obtain ⟨hpos, hlt⟩ := mem_slots.1 hi
    simp only [THREAD_COUNT_MAX] at hlt
    obtain ⟨t', ht', hzombie⟩ := hdone.exits i hpos (by omega) t ht hexit
    obtain ⟨t'', ht'', hpassed⟩ := hlast.thread _ t' ht'
    exact ⟨t'', ht'', hpassed.toTurned.zombie hzombie⟩
  · intro t ht
    obtain ⟨t', ht', hstate⟩ := hdone.idleState t ht
    obtain ⟨t'', ht'', hstate'⟩ := hkept _ t' ht'
    exact ⟨t'', ht'', hstate'.trans hstate⟩

/-- The pass, begun with the idle thread at the head of the list. -/
lemma PassDone.of_roundStart (h : TableOk s) (hidle : s.threads.thread s.idleThread = some idle)
    (hdone : PassDone (roundStart s idle) s') : PassDone s s' := by
  obtain ⟨hthreads, -, -, hidleThread, hjiffies, -⟩ := roundStart_fields idle h.idle_ne
  have hlist : (roundStart s idle).threads.threadList = s.threads.threadList := by
    rw [hthreads, Threads.set_threadList]
  have hslot : ∀ i ∈ slotsFrom 1, (roundStart s idle).threads.thread (s.threads.threadList i)
      = s.threads.thread (s.threads.threadList i) := fun i hi => by
    rw [← h.roundStart_slot idle hi, hlist]
  have hdue : ∀ i ∈ slotsFrom 1, dueAt (roundStart s idle) i = dueAt s i := fun i hi => by
    rw [dueAt, dueAt, hlist, hslot i hi, hjiffies]
  obtain ⟨htable, hcarried, hj, hhead, hchain, hready, hexits, hidleState, hcounter⟩ := hdone
  rw [hjiffies] at hcarried hj
  rw [hidleThread] at hhead hidleState
  rw [hidleThread, hlist, List.filter_congr hdue] at hchain
  rw [roundStart_counter h.idle_ne] at hcounter
  refine ⟨htable, (roundStart_carried h hidle).trans Passed.trans hcarried, hj, hhead, hchain, ?_, ?_,
    ?_, hcounter⟩
  · intro i hi
    rw [hready i hi, staysAt, staysAt, hlist, hslot i hi, hjiffies]
  · intro i hi t ht hexit
    rw [hlist] at hexits
    exact hexits i hi t ((hslot i hi).trans ht) hexit
  · intro t ht
    obtain rfl : idle = t := by simpa using hidle.symm.trans ht
    have hstart : (roundStart s idle).threads.thread s.idleThread = some (stabilized idle) := by
      rw [hthreads, Threads.set_thread_same]
    obtain ⟨t', ht', hstate⟩ := hidleState _ hstart
    exact ⟨t', ht', hstate⟩

/-- **A pass comes to its end** if the idle thread sleeps and there is no zombie. -/
lemma schedulerRr_done (h : TableOk s) (hsleeps : IdleSleeps s) (halive : NoZombie s) (garbage : ℕ) :
    ∃ s', schedulerRr garbage s = .ok (SYSTEM_THRESHOLD_TID, s') ∧ PassDone s s' := by
  obtain ⟨idle, hidle, -⟩ := h.idle_tid
  obtain ⟨-, hp6q, hcurrentq, hidleThread, hjiffies, -⟩ := roundStart_fields idle h.idle_ne
  have h₀ := h.roundStart hidle
  have hmax : ((1023 : ℕ) : ℤ) < THREAD_COUNT_MAX := by decide
  obtain ⟨s₁, hrun, hinv⟩ := round_run h₀ (hp6q.trans hidleThread.symm) hmax (by
    intro i hpos hle t ht
    have hi : i ∈ slotsFrom 1 := mem_slots.2 ⟨hpos, by omega⟩
    exact halive i hi t ((h.roundStart_slot idle hi).symm.trans ht))
  have hloop := loop_done h₀ (hp6q.trans hidleThread.symm) hmax hrun
  obtain ⟨s₂, hfinish, -⟩ := finishRound_eq h₀ hinv hmax (hcurrentq.trans hidleThread.symm)
  have hdone := hloop.finish h₀ (hcurrentq.trans hidleThread.symm) hfinish
  refine ⟨s₂, ?_, hdone.of_roundStart h hidle⟩
  rw [schedulerRr_eq h hidle, wakeInit, hjiffies, if_neg (not_le.2 (hsleeps idle hidle)), ok_bind,
    slotsFrom_one, hrun, ok_bind, hfinish, ok_bind]

/-- With a null pointer in the cursor it comes to its end only then. -/
lemma schedulerRr_inv_null {r : ℤ × SchedState} (h : TableOk s) (hok : schedulerRr 0 s = .ok r) :
    IdleSleeps s ∧ NoZombie s := by
  obtain ⟨idle, hidle, -⟩ := h.idle_tid
  obtain ⟨-, hp6q, -, hidleThread, hjiffies, -⟩ := roundStart_fields idle h.idle_ne
  have h₀ := h.roundStart hidle
  rw [schedulerRr_eq h hidle, wakeInit, hjiffies] at hok
  have hsleeps : s.jiffies < idle.wakeJiffy := by
    by_contra hwake
    have hderef : (roundStart s idle).threads.deref 0 = .error .badPointer := by
      simp only [Threads.deref, h₀.null]
    rw [if_pos (not_lt.1 hwake), hderef] at hok
    exact absurd hok (by simp)
  rw [if_neg (not_le.2 hsleeps), ok_bind] at hok
  obtain ⟨s₁, hrun, -⟩ := bind_eq_ok hok
  rw [slotsFrom_one] at hrun
  have halive := round_alive h₀ (hp6q.trans hidleThread.symm) (by decide) hrun
  refine ⟨fun t ht => ?_, fun i hi t ht => ?_⟩
  · obtain rfl : idle = t := by simpa using hidle.symm.trans ht
    exact hsleeps
  · obtain ⟨hpos, hlt⟩ := mem_slots.1 hi
    simp only [THREAD_COUNT_MAX] at hlt
    exact halive i hpos (by omega) t ((h.roundStart_slot idle hi).trans ht)

end Pass

end Gramado
