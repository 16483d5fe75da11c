import Gramado.Ke.SchedulerRound

/-!
# What a pass leaves alone

A pass of `__scheduler_rr` that comes to its end leaves the table in order, and does to each thread
one of three things (`Turned`): its state stays what it was, or it becomes a zombie, or the thread
was due and is ready.  `schedulerRr_inv` says this of the whole function, together with the list it
has made.
-/

namespace Gramado

open StepRun Cells

/-! ## Changes of the threads -/

/-- As far as the table is concerned, the same thread. -/
structure SameThread (t t' : Thread) : Prop where
  used : t'.used = t.used
  magic : t'.magic = t.magic
  tid : t'.tid = t.tid

/-- What a pass does to a thread. -/
structure Turned (jiffies : ℕ) (t t' : Thread) : Prop where
  same : SameThread t t'
  wakeJiffy : t'.wakeJiffy = t.wakeJiffy
  state : t'.state = t.state ∨ t'.state = .ZOMBIE ∨ t'.state = .READY ∧ t.Due jiffies

/-- What a pass does to a thread, and what else of it is left alone. -/
structure Passed (jiffies : ℕ) (t t' : Thread) : Prop extends Turned jiffies t t' where
  exitInProgress : t'.exitInProgress = t.exitInProgress
  waitingForTimeout : t'.waitingForTimeout = t.waitingForTimeout
  ended : t'.state = .ZOMBIE → t.state = .ZOMBIE ∨ t.magic = 1234 ∧ t.exitInProgress = TRUE

/-- The globals that the table's order is about. -/
structure SameGlobals (s s' : SchedState) : Prop where
  initialized : s'.info.initialized = s.info.initialized
  policy : s'.info.policy = s.info.policy
  idleThread : s'.idleThread = s.idleThread
  initThread : s'.initThread = s.initThread
  threadList : s'.threads.threadList = s.threads.threadList

/-- The structures are where they were, and each one changes as `R` allows. -/
structure Carried (R : Thread → Thread → Prop) (s s' : SchedState) : Prop where
  globals : SameGlobals s s'
  thread : ∀ ptr t, s.threads.thread ptr = some t → ∃ t', s'.threads.thread ptr = some t' ∧ R t t'
  null : ∀ ptr, s.threads.thread ptr = none → s'.threads.thread ptr = none

section Changes

variable {R R' : Thread → Thread → Prop} {s s' s'' : SchedState} {t t' t'' : Thread} {ptr j : ℕ}

lemma SameThread.refl (t : Thread) : SameThread t t := ⟨rfl, rfl, rfl⟩

lemma SameThread.trans (h : SameThread t t') (h' : SameThread t' t'') : SameThread t t'' :=
  ⟨h'.used.trans h.used, h'.magic.trans h.magic, h'.tid.trans h.tid⟩

lemma SameThread.valid (h : SameThread t t') : t'.Valid ↔ t.Valid := by
  rw [Thread.Valid, Thread.Valid, h.used, h.magic]

lemma Turned.refl (t : Thread) : Turned j t t := ⟨SameThread.refl t, rfl, Or.inl rfl⟩

/-- A thread that is due after a turn was due before it. -/
lemma Turned.due (h : Turned j t t') (hdue : t'.Due j) : t.Due j := by
  rcases h.state with hstate | hzombie | ⟨-, hdue'⟩
  · rwa [Thread.Due, h.same.valid, hstate, h.wakeJiffy] at hdue
  · simp [Thread.Due, hzombie] at hdue
  · exact hdue'

lemma Turned.trans (h : Turned j t t') (h' : Turned j t' t'') : Turned j t t'' := by
  refine ⟨h.same.trans h'.same, h'.wakeJiffy.trans h.wakeJiffy, ?_⟩
  rcases h'.state with hstate | hzombie | ⟨hready, hdue⟩
  · rw [hstate]
    exact h.state
  · exact Or.inr (Or.inl hzombie)
  · exact Or.inr (Or.inr ⟨hready, h.due hdue⟩)

lemma Passed.refl (t : Thread) : Passed j t t := ⟨Turned.refl t, rfl, rfl, .inl⟩

lemma Passed.trans (h : Passed j t t') (h' : Passed j t' t'') : Passed j t t'' where
  toTurned := h.toTurned.trans h'.toTurned
  exitInProgress := h'.exitInProgress.trans h.exitInProgress
  waitingForTimeout := h'.waitingForTimeout.trans h.waitingForTimeout
  ended hzombie := by
    rcases h'.ended hzombie with hzombie' | ⟨hmagic, hexit⟩
    · exact h.ended hzombie'
    · rw [h.same.magic] at hmagic
      rw [h.exitInProgress] at hexit
      exact .inr ⟨hmagic, hexit⟩

/-- A zombie stays one. -/
lemma Turned.zombie (h : Turned j t t') (hzombie : t.Zombie) : t'.Zombie := by
  refine ⟨h.same.valid.2 hzombie.1, ?_⟩
  rcases h.state with hstate | hstate | ⟨-, hdue⟩
  · exact hstate.trans hzombie.2
  · exact hstate
  · rcases hdue.2 with hready | ⟨hwaiting, -⟩
    · exact absurd (hready.symm.trans hzombie.2) (by decide)
    · exact absurd (hwaiting.symm.trans hzombie.2) (by decide)

lemma SameGlobals.refl (s : SchedState) : SameGlobals s s := ⟨rfl, rfl, rfl, rfl, rfl⟩

lemma SameGlobals.trans (h : SameGlobals s s') (h' : SameGlobals s' s'') : SameGlobals s s'' :=
  ⟨h'.initialized.trans h.initialized, h'.policy.trans h.policy,
    h'.idleThread.trans h.idleThread, h'.initThread.trans h.initThread,
    h'.threadList.trans h.threadList⟩

namespace Carried

lemma refl (hR : ∀ t, R t t) (s : SchedState) : Carried R s s :=
  ⟨SameGlobals.refl s, fun _ t ht => ⟨t, ht, hR t⟩, fun _ => id⟩

lemma trans (hR : ∀ {t t' t''}, R t t' → R t' t'' → R t t'') (h : Carried R s s')
    (h' : Carried R s' s'') : Carried R s s'' where
  globals := h.globals.trans h'.globals
  thread ptr t ht := by
    obtain ⟨t', ht', hone⟩ := h.thread ptr t ht
    obtain ⟨t'', ht'', htwo⟩ := h'.thread ptr t' ht'
    exact ⟨t'', ht'', hR hone htwo⟩
  null ptr hnone := h'.null ptr (h.null ptr hnone)

lemma mono (h : Carried R s s') (hR : ∀ t t', R t t' → R' t t') : Carried R' s s' where
  globals := h.globals
  thread ptr t ht := by
    obtain ⟨t', ht', hone⟩ := h.thread ptr t ht
    exact ⟨t', ht', hR t t' hone⟩
  null := h.null

/-- One structure is written. -/
lemma of_set (hR : ∀ t, R t t) (hglobals : SameGlobals s s')
    (hthreads : s'.threads = s.threads.set ptr t') (ht : s.threads.thread ptr = some t)
    (hone : R t t') : Carried R s s' where
  globals := hglobals
  thread q u hu := by
    rw [hthreads]
    by_cases hq : q = ptr
    · subst hq
      obtain rfl : t = u := by simpa using ht.symm.trans hu
      exact ⟨t', Threads.set_thread_same, hone⟩
    · exact ⟨u, (Threads.set_thread_of_ne hq).trans hu, hR u⟩
  null q hq := by
    have hne : q ≠ ptr := by
      rintro rfl
      simp [ht] at hq
    rw [hthreads, Threads.set_thread_of_ne hne, hq]

/-- A structure that is there afterwards was there before. -/
lemma before (h : Carried R s s') (ht' : s'.threads.thread ptr = some t') :
    ∃ t, s.threads.thread ptr = some t ∧ R t t' := by
  cases ht : s.threads.thread ptr with
  | none => simp [h.null ptr ht] at ht'
  | some t =>
      obtain ⟨u, hu, hone⟩ := h.thread ptr t ht
      obtain rfl : u = t' := by simpa using hu.symm.trans ht'
      exact ⟨t, rfl, hone⟩

end Carried

/-- The table stays in order. -/
lemma TableOk.carried (h : TableOk s) (hc : Carried SameThread s s') : TableOk s' := by
  obtain ⟨hglobals, hthread, hnull⟩ := hc
  refine ⟨hglobals.initialized.trans h.initialized, hglobals.policy.trans h.policy, ?_, ?_, ?_, ?_,
    ?_, ?_⟩
  · rw [hglobals.idleThread, hglobals.initThread, h.init]
  · rw [hglobals.threadList, hglobals.idleThread, h.idleSlot]
  · obtain ⟨t, ht, hvalid⟩ := h.idle
    obtain ⟨t', ht', hsame⟩ := hthread _ t ht
    exact ⟨t', by rw [hglobals.idleThread, ht'], hsame.valid.2 hvalid⟩
  · intro ptr
    rw [hglobals.threadList, ← h.structures ptr]
    cases ht : s.threads.thread ptr with
    | none => rw [hnull ptr ht]
    | some t =>
        obtain ⟨t', ht', -⟩ := hthread ptr t ht
        rw [ht']
        rfl
  · rw [hglobals.threadList]
    exact h.distinct
  · intro i t' hi ht' hvalid
    rw [hglobals.threadList] at ht'
    obtain ⟨t, ht, hsame⟩ := Carried.before ⟨hglobals, hthread, hnull⟩ ht'
    exact hsame.tid.trans (h.tids i t hi ht (hsame.valid.1 hvalid))

end Changes

/-! ## The parts of the pass -/

section Parts

variable {s s' : SchedState} {t : Thread} {tmp i n j garbage : ℕ}

/-- The state is as it was. -/
lemma Passed.of_state (hsame : SameThread t t') (hwake : t'.wakeJiffy = t.wakeJiffy)
    (hexit : t'.exitInProgress = t.exitInProgress)
    (hwaiting : t'.waitingForTimeout = t.waitingForTimeout) (hstate : t'.state = t.state) :
    Passed j t t' :=
  ⟨⟨hsame, hwake, .inl hstate⟩, hexit, hwaiting, fun hzombie => .inl (hstate.symm.trans hzombie)⟩

/-- A due thread is made ready. -/
lemma Passed.of_due (hsame : SameThread t t') (hwake : t'.wakeJiffy = t.wakeJiffy)
    (hexit : t'.exitInProgress = t.exitInProgress)
    (hwaiting : t'.waitingForTimeout = t.waitingForTimeout) (hstate : t'.state = .READY)
    (hdue : t.Due j) : Passed j t t' :=
  ⟨⟨hsame, hwake, .inr (.inr ⟨hstate, hdue⟩)⟩, hexit, hwaiting,
    fun hzombie => absurd (hstate.symm.trans hzombie) (by decide)⟩

lemma Passed.woken (t : Thread) : Passed j t (woken j t) := by
  simp only [Gramado.woken]
  split_ifs with hwaiting halarm htime htime
  · exact .of_due ⟨rfl, rfl, rfl⟩ rfl rfl rfl rfl ⟨hwaiting.1, Or.inr ⟨hwaiting.2, htime⟩⟩
  · exact .of_state ⟨rfl, rfl, rfl⟩ rfl rfl rfl rfl
  · exact .of_due ⟨rfl, rfl, rfl⟩ rfl rfl rfl rfl ⟨hwaiting.1, Or.inr ⟨hwaiting.2, htime⟩⟩
  · exact Passed.refl t
  · exact Passed.refl t

lemma linkReady_carried (h : linkReady tmp s = .ok s') : Carried (Passed j) s s' := by
  obtain ⟨t, ht, h⟩ := bind_eq_ok h
  split_ifs at h
  · obtain ⟨p, hp, h⟩ := bind_eq_ok h
    obtain ⟨t₁, ht₁, h⟩ := bind_eq_ok h
    cases h
    have hlink : Carried (Passed j) s { s.setThread s.p6q { p with next := tmp } with p6q := tmp } :=
      Carried.of_set Passed.refl ⟨rfl, rfl, rfl, rfl, rfl⟩ rfl (Threads.deref_eq_ok.1 hp)
        (.of_state ⟨rfl, rfl, rfl⟩ rfl rfl rfl rfl)
    exact hlink.trans Passed.trans (Carried.of_set Passed.refl ⟨rfl, rfl, rfl, rfl, rfl⟩ rfl
      (Threads.deref_eq_ok.1 ht₁) (.of_state ⟨rfl, rfl, rfl⟩ rfl rfl rfl rfl))
  · cases h
    exact Carried.refl Passed.refl s

lemma finishExit_carried (h : finishExit tmp s = .ok s') : Carried (Passed j) s s' := by
  obtain ⟨t, ht, h⟩ := bind_eq_ok h
  have hone : t.magic = 1234 ∧ t.exitInProgress = TRUE → Passed j t { t with state := .ZOMBIE } :=
    fun hexit => ⟨⟨⟨rfl, rfl, rfl⟩, rfl, .inr (.inl rfl)⟩, rfl, rfl, fun _ => .inr hexit⟩
  dsimp only at h
  split_ifs at h with hexit <;> cases h
  · exact Carried.of_set Passed.refl ⟨rfl, rfl, rfl, rfl, rfl⟩ rfl (Threads.deref_eq_ok.1 ht)
      (hone ⟨hexit.1, hexit.2.1⟩)
  · exact Carried.of_set Passed.refl ⟨rfl, rfl, rfl, rfl, rfl⟩ rfl (Threads.deref_eq_ok.1 ht)
      (hone ⟨hexit.1, hexit.2.1⟩)
  · exact Carried.refl Passed.refl s

lemma useCredits_carried (h : useCredits tmp s = .ok s') : Carried (Passed j) s s' := by
  obtain ⟨t, ht, h⟩ := bind_eq_ok h
  split_ifs at h <;> cases h
  · exact Carried.of_set Passed.refl ⟨rfl, rfl, rfl, rfl, rfl⟩ rfl (Threads.deref_eq_ok.1 ht)
      (.of_state ⟨rfl, rfl, rfl⟩ rfl rfl rfl rfl)
  · exact Carried.refl Passed.refl s

/-- The body of the loop, at a slot without a zombie. -/
lemma rrSlot_carried (h : Slot s i t) (halive : ¬ t.Zombie) (hok : rrSlot s i = .ok s') :
    Carried (Passed s.jiffies) s s' := by
  have hwake : Carried (Passed s.jiffies) s
      (s.setThread (s.threads.threadList i) (woken s.jiffies t)) :=
    Carried.of_set Passed.refl ⟨rfl, rfl, rfl, rfl, rfl⟩ rfl h.thread (Passed.woken t)
  simp only [rrSlot] at hok
  rw [if_neg h.ne_null, h.wake, ok_bind,
    reapZombie_eq Threads.set_thread_same (mt zombie_woken.1 halive), ok_bind] at hok
  obtain ⟨s₁, hlink, hok⟩ := bind_eq_ok hok
  obtain ⟨s₂, hexit, hcredits⟩ := bind_eq_ok hok
  have hlinked : Carried (Passed s.jiffies) s s₁ :=
    hwake.trans Passed.trans (linkReady_carried hlink)
  have hexited : Carried (Passed s.jiffies) s s₂ :=
    hlinked.trans Passed.trans (finishExit_carried hexit)
  exact hexited.trans Passed.trans (useCredits_carried hcredits)

/-- **The loop**, as far as it comes. -/
lemma round_carried {s₀ : SchedState} (h : TableOk s₀) (hp6q : s₀.p6q = s₀.idleThread)
    (hn : (n : ℤ) < THREAD_COUNT_MAX) (hrun : runs rrSlot s₀ (List.range' 1 n) = .ok s) :
    RoundInv s₀ n s ∧ Carried (Passed s₀.jiffies) s₀ s := by
  induction n generalizing s with
  | zero =>
      obtain rfl : s₀ = s := by simpa using hrun
      exact ⟨RoundInv.start h hp6q, Carried.refl Passed.refl s₀⟩
  | succ n ih =>
      have halive := round_alive h hp6q hn hrun (n + 1) (by omega) le_rfl
      rw [List.range'_concat, show 1 + 1 * n = n + 1 by omega] at hrun
      obtain ⟨s₁, hbefore, hlast⟩ := runs_append_inv hrun
      obtain ⟨hinv, hcarried⟩ := ih (by omega) hbefore
      obtain ⟨s₂, hstep, hrest⟩ := runs_cons_inv hlast
      obtain rfl : s₂ = s := by simpa using hrest
      obtain ⟨s₂', hstep', hinv'⟩ := hinv.step h hn halive
      obtain rfl : s₂ = s₂' := by simpa using hstep.symm.trans hstep'
      refine ⟨hinv', ?_⟩
      by_cases hne : s₀.threads.threadList (n + 1) = 0
      · rw [(hinv.step_null h hne).1] at hstep
        cases hstep
        exact hcarried
      · obtain ⟨t, ht, hslot⟩ := hinv.slot h hn hne
        have hone := rrSlot_carried hslot (halive t ht) hstep
        rw [hinv.kept.jiffies] at hone
        exact hcarried.trans Passed.trans hone

lemma doThreadReady_carried {tid : ℤ} (h : doThreadReady tid s = .ok s') :
    Carried SameThread s s' := by
  simp only [doThreadReady] at h
  split_ifs at h
  · cases h
    exact Carried.refl SameThread.refl s
  · cases h
    exact Carried.refl SameThread.refl s
  · obtain ⟨t, ht, h⟩ := bind_eq_ok h
    split_ifs at h <;> cases h
    · exact Carried.refl SameThread.refl s
    · exact Carried.refl SameThread.refl s
    · exact Carried.of_set SameThread.refl ⟨rfl, rfl, rfl, rfl, rfl⟩ rfl (Threads.deref_eq_ok.1 ht)
        ⟨rfl, rfl, rfl⟩

end Parts

/-! ## The whole pass -/

/-- The tid names the slot in which the pointer is. -/
def Names (s : SchedState) (tid : ℤ) (ptr : ℕ) : Prop :=
  0 ≤ tid ∧ tid < THREAD_COUNT_MAX ∧ s.threads.threadList tid.toNat = ptr

instance (s : SchedState) (tid : ℤ) (ptr : ℕ) : Decidable (Names s tid ptr) :=
  inferInstanceAs (Decidable (_ ∧ _))

section Pass

variable {s s' s₀ : SchedState} {t idle : Thread} {ptr garbage : ℕ} {tid : ℤ}

/-- What `do_thread_ready` does to a valid thread. -/
lemma doThreadReady_thread (h : TableOk s) (hok : doThreadReady tid s = .ok s')
    (ht : s.threads.thread ptr = some t) (hvalid : t.Valid) :
    s'.threads.thread ptr = some
      (if Names s tid ptr then { t with state := .READY, readyJiffy := s.jiffies } else t) := by
  have hne : ptr ≠ 0 := ((h.structures ptr).1 (by rw [ht]; rfl)).1
  simp only [doThreadReady] at hok
  split_ifs with hnames
  · obtain ⟨hlow, hhigh, hslot⟩ := hnames
    rw [if_neg (by omega), hslot, if_neg hne, Threads.deref_eq_ok.2 ht, ok_bind,
      if_neg (not_not.2 hvalid.1), if_neg (not_not.2 hvalid.2)] at hok
    cases hok
    exact Threads.set_thread_same
  · split_ifs at hok with hrange hnull
    · cases hok
      exact ht
    · cases hok
      exact ht
    · obtain ⟨u, hu, hok⟩ := bind_eq_ok hok
      split_ifs at hok <;> cases hok
      · exact ht
      · exact ht
      · refine (Threads.set_thread_of_ne fun heq => hnames ⟨?_, ?_, heq.symm⟩).trans ht
        · omega
        · omega

lemma doThreadReady_jiffies (h : doThreadReady tid s = .ok s') :
    s'.jiffies = s.jiffies ∧ s'.p6q = s.p6q ∧ s'.currentq = s.currentq := by
  simp only [doThreadReady] at h
  split_ifs at h
  · cases h
    exact ⟨rfl, rfl, rfl⟩
  · cases h
    exact ⟨rfl, rfl, rfl⟩
  · obtain ⟨t, ht, h⟩ := bind_eq_ok h
    split_ifs at h <;> cases h <;> exact ⟨rfl, rfl, rfl⟩

/-- The list of a pass has the idle thread and the due threads. -/
lemma TableOk.mem_roundPtrs_iff (h : TableOk s₀) :
    ptr ∈ roundPtrs s₀ 1023 ↔
      ptr = s₀.idleThread ∨ ∃ t, s₀.threads.thread ptr = some t ∧ t.Due s₀.jiffies := by
  rw [h.roundPtrs_eq, List.mem_cons, List.mem_map]
  constructor
  · rintro (hidle | ⟨i, hi, rfl⟩)
    · exact Or.inl hidle
    · have hdue := (List.mem_filter.1 hi).2
      rw [dueAt, Option.any_eq_true] at hdue
      obtain ⟨t, ht, hdue⟩ := hdue
      exact Or.inr ⟨t, ht, of_decide_eq_true hdue⟩
  · rintro (hidle | ⟨t, ht, hdue⟩)
    · exact Or.inl hidle
    · obtain ⟨-, i, hi, rfl⟩ := (h.structures ptr).1 (by rw [ht]; rfl)
      rcases Nat.eq_zero_or_pos i with rfl | hpos
      · exact Or.inl h.idleSlot
      · refine Or.inr ⟨i, List.mem_filter.2 ⟨mem_slots.2 ⟨hpos, hi⟩, ?_⟩, rfl⟩
        rw [dueAt, ht, Option.any_some, decide_eq_true hdue]

/-- Before the loop the idle thread is stabilised. -/
lemma roundStart_carried (h : TableOk s) (hidle : s.threads.thread s.idleThread = some idle) :
    Carried (Passed s.jiffies) s (roundStart s idle) := by
  obtain ⟨hthreads, -, -, hidleThread, -, hinit, hinfo⟩ := roundStart_fields idle h.idle_ne
  refine Carried.of_set Passed.refl ⟨by rw [hinfo], by rw [hinfo], hidleThread, hinit, ?_⟩ hthreads
    hidle (.of_state ⟨rfl, rfl, rfl⟩ rfl rfl rfl rfl)
  rw [hthreads, Threads.set_threadList]

/-- **A pass that comes to its end.**  `s₀` is what the loop starts with: the thread of the cursor
may have been woken.  The list has the idle thread and the threads that are due in `s₀`. -/
lemma schedulerRr_inv (h : TableOk s) (hidle : s.threads.thread s.idleThread = some idle)
    (hok : schedulerRr garbage s = .ok (tid, s')) :
    ∃ s₀, wakeInit garbage idle (roundStart s idle) = .ok s₀ ∧ TableOk s₀ ∧
      s₀.jiffies = s.jiffies ∧ s₀.idleThread = s.idleThread ∧ Carried (Turned s.jiffies) s₀ s' ∧
      s'.jiffies = s.jiffies ∧
      Chain (nextOf s'.threads) (· = 0) s'.currentq (roundPtrs s₀ 1023) := by
  rw [schedulerRr_eq h hidle] at hok
  obtain ⟨s₀, hwake, hok⟩ := bind_eq_ok hok
  obtain ⟨s₁, hrun, hok⟩ := bind_eq_ok hok
  obtain ⟨s₂, hfinish, hok⟩ := bind_eq_ok hok
  cases hok
  obtain ⟨-, hp6q, hcurrentq, hidleThread, hjiffies, -⟩ := roundStart_fields idle h.idle_ne
  have hstart := h.roundStart hidle
  generalize roundStart s idle = s₁' at *
  have hwoken : Carried SameThread s₁' s₀ ∧ s₀.jiffies = s₁'.jiffies ∧ s₀.p6q = s₁'.p6q ∧
      s₀.currentq = s₁'.currentq := by
    simp only [wakeInit] at hwake
    split_ifs at hwake
    · obtain ⟨u, -, hwake⟩ := bind_eq_ok hwake
      exact ⟨doThreadReady_carried hwake, doThreadReady_jiffies hwake⟩
    · cases hwake
      exact ⟨Carried.refl SameThread.refl _, rfl, rfl, rfl⟩
  obtain ⟨hcarried, hj₀, hp₀, hc₀⟩ := hwoken
  have h₀ := hstart.carried hcarried
  have hid₀ := hcarried.globals.idleThread
  have hmax : ((1023 : ℕ) : ℤ) < THREAD_COUNT_MAX := by decide
  have hp6q₀ : s₀.p6q = s₀.idleThread := by rw [hp₀, hp6q, hid₀, hidleThread]
  have hcq₀ : s₀.currentq = s₀.idleThread := by rw [hc₀, hcurrentq, hid₀, hidleThread]
  have hjiffies₀ : s₀.jiffies = s.jiffies := hj₀.trans hjiffies
  rw [slotsFrom_one] at hrun
  obtain ⟨hinv, hround⟩ := round_carried h₀ hp6q₀ hmax hrun
  obtain ⟨p, hp, hchain⟩ := hinv.close h₀ hmax
  rw [finishRound, Threads.deref_eq_ok.2 hp, ok_bind] at hfinish
  cases hfinish
  rw [hjiffies₀] at hround
  replace hround : Carried (Turned s.jiffies) s₀ s₁ := hround.mono fun _ _ => Passed.toTurned
  refine ⟨s₀, hwake, h₀, hjiffies₀, hid₀.trans hidleThread, ?_, ?_, ?_⟩
  · exact hround.trans Turned.trans (Carried.of_set Turned.refl ⟨rfl, rfl, rfl, rfl, rfl⟩ rfl hp
      ⟨⟨rfl, rfl, rfl⟩, rfl, Or.inl rfl⟩)
  · exact hinv.kept.jiffies.trans hjiffies₀
  · have hcurrent : s₁.currentq = s₀.idleThread := hinv.kept.currentq.trans hcq₀
    exact hcurrent ▸ hchain

end Pass

end Gramado
