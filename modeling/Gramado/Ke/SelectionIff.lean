import Gramado.Ke.SelectionEnds
import Gramado.Ke.CloneResult

/-!
# When the search comes to a thread

The search with one thread in the system, with a locked scheduler, with a thread that breaks the round,
and on the current list; `selects_iff` puts the cases together.
-/

namespace Gramado

open StepRun Cells Loop

/-! ## The thread that is chosen -/

section Listed

variable {p q : ProcessState} {g list : ℕ} {garbage : ℕ → ℕ} {c : Choice}

/-- Behind `ZeroGravity` the thread is on the list. -/
lemma zeroGravity_listed (h : zeroGravity g p = .ok q)
    (hlist : OnList p.sched.threads list p.sched.currentq) :
    OnList q.sched.threads (listAfter p q list) q.sched.currentq := by
  rw [listAfter]
  by_cases hentered : p.sched.threadsCounter = 1 ∨ TimeoutDue p ∨
      nextOf p.sched.threads p.sched.currentq = some 0
  · rw [if_pos hentered]
    exact .refl
  rw [if_neg hentered]
  obtain ⟨hseveral, htimeout, hnext⟩ : p.sched.threadsCounter ≠ 1 ∧ ¬ TimeoutDue p ∧
      nextOf p.sched.threads p.sched.currentq ≠ some 0 := by
    rwa [not_or, not_or] at hentered
  have hround : nextInRound g p = .ok q := by
    simp only [zeroGravity] at h
    by_cases hnone : p.sched.threadsCounter = 0
    · rw [if_pos hnone] at h
      cases h
    rw [if_neg hnone, if_neg hseveral] at h
    by_cases hzero : p.timeoutThread = 0
    · rwa [if_pos hzero] at h
    rw [if_neg hzero] at h
    obtain ⟨t, ht, h⟩ := bind_eq_ok h
    rwa [if_neg fun hdue => htimeout ⟨hzero, by
      rw [Threads.deref_eq_ok.1 ht, Option.any_some, decide_eq_true hdue]⟩] at h
  obtain ⟨t, ht, h⟩ := bind_eq_ok hround
  have hthread := Threads.deref_eq_ok.1 ht
  have hone : nextOf p.sched.threads p.sched.currentq = some t.next := by
    rw [nextOf, hthread, Option.map_some]
  have hne : t.next ≠ 0 := fun heq => hnext (by rw [hone, heq])
  rw [if_neg hne] at h
  cases h
  exact hlist.tail ⟨hone, hne⟩

lemma selectTarget_inl {target : ℕ} (h : selectTarget g p = .ok (.inl target)) :
    target = p.sched.currentq ∧ ∃ t, p.sched.threads.thread target = some t ∧ t.Valid ∧ t.state = .READY := by
  simp only [selectTarget] at h
  by_cases hnull : p.sched.currentq = 0
  · rw [if_pos hnull] at h
    cases hreschedule : reschedule g p <;> simp [hreschedule] at h
  rw [if_neg hnull] at h
  obtain ⟨t, ht, h⟩ := bind_eq_ok h
  by_cases hready : t.Valid ∧ t.state = .READY
  · rw [if_pos hready] at h
    cases h
    exact ⟨rfl, t, Threads.deref_eq_ok.1 ht, hready⟩
  · rw [if_neg hready] at h
    cases hreschedule : reschedule g p <;> simp [hreschedule] at h

/-- **Whatever the search comes to** is valid, ready and on the current list. -/
lemma ends_choiceOk (h : Ends (searchTurn garbage) (Search.start p) (.ok c)) : ChoiceOk c := by
  have hstart : OnList p.sched.threads p.sched.currentq p.sched.currentq := .refl
  refine h.result (J := fun s => OnList s.state.sched.threads s.list s.state.sched.currentq) ?_ ?_ hstart
  · rintro ⟨p, list, passes⟩ s' - hturn
    obtain ⟨q, hzero, hturn⟩ := bind_eq_ok hturn
    obtain ⟨r, hselect, hturn⟩ := bind_eq_ok hturn
    cases r with
    | inl target => cases hturn
    | inr p' =>
        cases hturn
        exact .refl
  · rintro ⟨p, list, passes⟩ c hlist hturn
    obtain ⟨q, hzero, hturn⟩ := bind_eq_ok hturn
    obtain ⟨r, hselect, hturn⟩ := bind_eq_ok hturn
    cases r with
    | inl target =>
        cases hturn
        obtain ⟨rfl, hready⟩ := selectTarget_inl hselect
        exact ⟨hready, zeroGravity_listed hzero hlist⟩
    | inr p' => cases hturn

lemma selects_iff_ends : Selects garbage p ↔ ∃ c, Ends (searchTurn garbage) (Search.start p) (.ok c) :=
  ⟨fun ⟨c, hends, _⟩ => ⟨c, hends⟩, fun ⟨c, hends⟩ => ⟨c, hends, ends_choiceOk hends⟩⟩

end Listed

/-! ## One thread -/

section Single

variable {p q : ProcessState} {garbage : ℕ → ℕ} {list passes : ℕ}

/-- The idle thread is the only one. -/
structure Single (p : ProcessState) : Prop where
  table : TableOk p.sched
  one : p.sched.threadsCounter = 1

/-- The list is the idle thread. -/
def atIdle (p : ProcessState) : ProcessState :=
  { p with sched := { p.sched with currentq := p.sched.idleThread } }

lemma Single.zeroGravity_eq {g : ℕ} (h : Single p) : zeroGravity g p = .ok (atIdle p) := by
  rw [zeroGravity, if_neg (by rw [h.one]; exact one_ne_zero), if_pos h.one,
    if_neg (not_not.2 h.table.init.symm)]
  rfl

lemma Single.idle_isSome (h : Single p) : (p.sched.threads.thread p.sched.idleThread).isSome := by
  obtain ⟨t, ht, -⟩ := h.table.idle
  rw [ht]
  rfl

/-- The scheduler takes the one thread that there is. -/
lemma reschedule_one (g : ℕ) {t : Thread} (hunlocked : p.schedulerStatus ≠ LOCKED)
    (hone : p.sched.threadsCounter = 1) (ht : p.sched.threads.thread p.sched.idleThread = some t) :
    reschedule g p = .ok { atIdle p with currentThread := t.tid } := by
  have hsome : ¬ p.sched.threadsCounter = 0 := by
    rw [hone]
    exact one_ne_zero
  rw [reschedule, psScheduler, if_neg hunlocked, if_neg hsome, if_pos hone, Threads.deref_eq_ok.2 ht,
    ok_bind]
  rfl

/-- The scheduler changes nothing. -/
lemma Single.reschedule_eq (h : Single p) (g : ℕ) :
    ∃ p', reschedule g (atIdle p) = .ok p' ∧ Single p' ∧ (IdleReady p'.sched ↔ IdleReady p.sched) := by
  have htable : TableOk (atIdle p).sched :=
    ⟨h.table.initialized, h.table.policy, h.table.init, h.table.idleSlot, h.table.idle, h.table.structures,
      h.table.distinct, h.table.tids⟩
  by_cases hlocked : p.schedulerStatus = LOCKED
  · exact ⟨_, reschedule_locked hlocked, ⟨htable, h.one⟩, Iff.rfl⟩
  obtain ⟨t, ht, -⟩ := h.table.idle
  have hdo := reschedule_one (p := atIdle p) g hlocked h.one ht
  exact ⟨_, hdo, ⟨htable, h.one⟩, Iff.rfl⟩

/-- The search ends if the one thread is ready. -/
lemma Single.ends_iff (h : Single p) :
    (∃ c, Ends (searchTurn garbage) ⟨p, list, passes⟩ (.ok c)) ↔ IdleReady p.sched := by
  by_cases hready : IdleReady p.sched
  · exact iff_of_true (ends_ready h.zeroGravity_eq h.idle_isSome h.table.idle_ne hready) hready
  refine iff_of_false ?_ hready
  rintro ⟨c, hends⟩
  refine not_ends (J := fun s => Single s.state ∧ ¬ IdleReady s.state.sched) ?_ ⟨h, hready⟩ hends
  rintro ⟨p, list, passes⟩ ⟨h, hready⟩
  obtain ⟨p', hreschedule, hsingle, hidle⟩ := h.reschedule_eq (garbage (passes + 1))
  refine ⟨⟨p', p'.sched.currentq, passes + 2⟩, ?_, hsingle, mt hidle.1 hready⟩
  rw [searchTurn_back _ h.zeroGravity_eq h.idle_isSome h.table.idle_ne hready, hreschedule, ok_bind]

end Single

/-! ## A locked scheduler -/

section Locked

variable {p q : ProcessState} {garbage : ℕ → ℕ} {list passes n : ℕ}

/-- The search walks down the list, since the scheduler makes no other one. -/
structure Walking (p : ProcessState) : Prop where
  locked : p.schedulerStatus = LOCKED
  counted : p.sched.threadsCounter ≠ 0
  several : p.sched.threadsCounter ≠ 1
  noTimeout : ¬ TimeoutDue p
  timeout : p.timeoutThread ≠ 0 → (p.sched.threads.thread p.timeoutThread).isSome
  null : p.sched.threads.thread 0 = none
  listed : ∀ ptr, OnList p.sched.threads p.sched.currentq ptr → (p.sched.threads.thread ptr).isSome

/-- The thread behind `ZeroGravity`. -/
def walked (p : ProcessState) : ℕ := stepOn p.sched.threads p.sched.currentq

lemma Walking.onList (h : Walking p) : OnList p.sched.threads p.sched.currentq (walked p) := by
  obtain ⟨t, ht⟩ := Option.isSome_iff_exists.1 (h.listed _ .refl)
  have hnext : nextOf p.sched.threads p.sched.currentq = some t.next := by
    rw [nextOf, ht, Option.map_some]
  simp only [walked, stepOn, hnext]
  by_cases hzero : t.next = 0
  · rw [if_pos hzero]
    exact .refl
  · rw [if_neg hzero]
    exact .single ⟨hnext, hzero⟩

lemma Walking.walked_ne (h : Walking p) : walked p ≠ 0 := by
  intro hzero
  have hsome := h.listed _ h.onList
  rw [hzero, h.null] at hsome
  cases hsome

/-- `ZeroGravity` takes one step down the list. -/
lemma Walking.zeroGravity_eq (h : Walking p) (g : ℕ) : ∃ q, zeroGravity g p = .ok q ∧
    q.sched = { p.sched with currentq := walked p } ∧ q.schedulerStatus = p.schedulerStatus ∧
    q.timeoutThread = p.timeoutThread := by
  obtain ⟨t, ht⟩ := Option.isSome_iff_exists.1 (h.listed _ .refl)
  have hnext : nextOf p.sched.threads p.sched.currentq = some t.next := by
    rw [nextOf, ht, Option.map_some]
  have hzero := Gramado.zeroGravity_eq (g := g) h.counted h.several h.timeout h.noTimeout hnext
  by_cases hlast : t.next = 0
  · have hwalked : walked p = p.sched.currentq := by
      simp only [walked, stepOn, hnext]
      rw [if_pos hlast]
    rw [if_pos hlast, reschedule_locked h.locked] at hzero
    exact ⟨_, hzero, by rw [hwalked], rfl, rfl⟩
  · have hwalked : walked p = t.next := by
      simp only [walked, stepOn, hnext]
      rw [if_neg hlast]
    rw [if_neg hlast] at hzero
    exact ⟨_, hzero, by rw [hwalked], rfl, rfl⟩

/-- The search goes on from the next thread of the list. -/
lemma Walking.turn (garbage : ℕ → ℕ) (list passes : ℕ) (h : Walking p) (hready : ¬ readyPtr p.sched.threads (walked p)) :
    ∃ s', searchTurn garbage ⟨p, list, passes⟩ = .ok (.inr s') ∧ Walking s'.state ∧
      s'.state.sched.threads = p.sched.threads ∧ s'.state.sched.currentq = walked p := by
  obtain ⟨q, hzero, hsched, hstatus, htimeout⟩ := h.zeroGravity_eq (garbage passes)
  have hthreads : q.sched.threads = p.sched.threads := by rw [hsched]
  have hcurrentq : q.sched.currentq = walked p := by rw [hsched]
  have hcounter : q.sched.threadsCounter = p.sched.threadsCounter := by rw [hsched]
  refine ⟨⟨{ q with currentThread := -1 }, q.sched.currentq, passes + 2⟩, ?_, ?_, hthreads, hcurrentq⟩
  · rw [searchTurn_back _ hzero, reschedule_locked (hstatus.trans h.locked), ok_bind]
    · rw [hthreads, hcurrentq]
      exact h.listed _ h.onList
    · rw [hcurrentq]
      exact h.walked_ne
    · rwa [hthreads, hcurrentq]
  · refine ⟨hstatus.trans h.locked, ?_, ?_, ?_, ?_, ?_, ?_⟩
    · show q.sched.threadsCounter ≠ 0
      rw [hcounter]
      exact h.counted
    · show q.sched.threadsCounter ≠ 1
      rw [hcounter]
      exact h.several
    · show ¬ (q.timeoutThread ≠ 0 ∧ _)
      rw [htimeout, hthreads]
      exact h.noTimeout
    · show q.timeoutThread ≠ 0 → (q.sched.threads.thread q.timeoutThread).isSome
      rw [htimeout, hthreads]
      exact h.timeout
    · show q.sched.threads.thread 0 = none
      rw [hthreads]
      exact h.null
    · show ∀ ptr, OnList q.sched.threads q.sched.currentq ptr → (q.sched.threads.thread ptr).isSome
      rw [hthreads, hcurrentq]
      exact fun ptr hptr => h.listed ptr (h.onList.trans hptr)

/-- **With a locked scheduler** the search ends if a thread further down the list is ready, or the last
one. -/
lemma Walking.ends_iff (h : Walking p) :
    (∃ c, Ends (searchTurn garbage) ⟨p, list, passes⟩ (.ok c)) ↔
      ∃ k, 1 ≤ k ∧ readyPtr p.sched.threads ((stepOn p.sched.threads)^[k] p.sched.currentq) := by
  constructor
  · rintro ⟨c, hends⟩
    by_contra hnone
    refine not_ends (J := fun s => Walking s.state ∧ ¬ ∃ k, 1 ≤ k ∧ readyPtr s.state.sched.threads
      ((stepOn s.state.sched.threads)^[k] s.state.sched.currentq)) ?_ ⟨h, hnone⟩ hends
    rintro ⟨p, list, passes⟩ ⟨h, hnone⟩
    have hready : ¬ readyPtr p.sched.threads (walked p) := fun hready => hnone ⟨1, le_rfl, hready⟩
    obtain ⟨s', hturn, hwalking, hthreads, hcurrentq⟩ := h.turn garbage list passes hready
    refine ⟨s', hturn, hwalking, ?_⟩
    rintro ⟨k, hk, hfound⟩
    rw [hthreads, hcurrentq] at hfound
    exact hnone ⟨k + 1, by omega, hfound⟩
  · rintro ⟨k, hk, hfound⟩
    induction k generalizing p list passes with
    | zero => omega
    | succ k ih =>
        by_cases hready : readyPtr p.sched.threads (walked p)
        · obtain ⟨q, hzero, hsched, -⟩ := h.zeroGravity_eq (garbage passes)
          refine ends_ready hzero ?_ ?_ ?_
          · rw [hsched]
            exact h.listed _ h.onList
          · rw [hsched]
            exact h.walked_ne
          · rwa [hsched]
        · obtain ⟨⟨p', list', passes'⟩, hturn, hwalking, hthreads, hcurrentq⟩ := h.turn
            garbage list passes hready
          have hpos : 1 ≤ k := by
            rcases Nat.eq_zero_or_pos k with rfl | hpos
            · exact absurd hfound hready
            · exact hpos
          have hrest : readyPtr p'.sched.threads ((stepOn p'.sched.threads)^[k] p'.sched.currentq) := by
            rw [hthreads, hcurrentq]
            exact hfound
          obtain ⟨c, hends⟩ := ih hwalking hpos hrest
          exact ⟨c, (ends_turn hturn).2 hends⟩

end Locked

/-! ## Every list -/

section Lists

variable {p q : ProcessState} {s s' : SchedState} {t : Thread} {m n : ℕ}

/-- A turn whose thread is not ready, so that the scheduler makes a new list. -/
lemma Searching.back_iff (search : Search) (h : Searching q)
    (hback : ∀ garbage : ℕ → ℕ, searchTurn garbage search = (do
      let p' ← reschedule (garbage n) q
      .ok (.inr ⟨p', p'.sched.currentq, m⟩))) :
    (∀ garbage, ∃ c, Ends (searchTurn garbage) search (.ok c)) ↔
      CanPass q.sched ∧ FindsAfterPass q.sched := by
  have hafter : CanPass q.sched → ∀ garbage,
      ((∃ c, Ends (searchTurn garbage) search (.ok c)) ↔ FindsAfterPass q.sched) := by
    intro hpass garbage
    obtain ⟨p', hreschedule, hr⟩ := h.reschedule_done hpass (garbage n)
    have hturn := hback garbage
    rw [hreschedule, ok_bind] at hturn
    rw [← ends_after garbage h hpass hr]
    exact exists_congr fun c => ends_turn hturn
  constructor
  · intro hall
    have hturn := hback fun _ => 0
    cases hreschedule : reschedule 0 q with
    | error f =>
        rw [hreschedule] at hturn
        exact absurd (hall fun _ => 0) (not_ends_of_error hturn)
    | ok p' =>
        have hpass := h.reschedule_inv_null hreschedule
        exact ⟨hpass, (hafter hpass fun _ => 0).1 (hall _)⟩
  · rintro ⟨hpass, hfinds⟩ garbage
    exact (hafter hpass garbage).2 hfinds

/-- Behind a pass in which nobody exits the same threads are due. -/
lemma PassDone.dueSlots_eq (h : PassDone s s') (hnone : NoneExits s) : dueSlots s' = dueSlots s := by
  refine List.filter_congr fun i hi => Bool.eq_iff_iff.2 ⟨h.due_before, fun hdue => ?_⟩
  obtain ⟨t, ht, hdueThread⟩ := (Option.any_eq_true _ _).1 hdue
  have hstays : staysAt s i := by
    refine (Option.any_eq_true _ _).2 ⟨t, ht, decide_eq_true ⟨of_decide_eq_true hdueThread, fun hexit => ?_⟩⟩
    exact hnone i hi t ht ⟨(of_decide_eq_true hdueThread).1, hexit⟩
  obtain ⟨t', ht', hready⟩ := (Option.any_eq_true _ _).1 ((h.ready i hi).trans hstays)
  have hreadyThread : t'.Ready := of_decide_eq_true hready
  exact (Option.any_eq_true _ _).2 ⟨t', ht', decide_eq_true ⟨hreadyThread.1, .inl hreadyThread.2⟩⟩

/-- Where nobody exits, the first due thread stays. -/
lemma firstStays_iff (hnone : NoneExits s) : FirstStays s ↔ dueSlots s ≠ [] := by
  constructor
  · rintro ⟨i, L, hfirst, -⟩
    rw [hfirst]
    exact List.cons_ne_nil i L
  · intro hdue
    obtain ⟨i, L, hfirst⟩ := List.exists_cons_of_ne_nil hdue
    have hmem : i ∈ dueSlots s := by
      rw [hfirst]
      exact List.mem_cons_self
    obtain ⟨hi, hdueAt⟩ := List.mem_filter.1 hmem
    obtain ⟨t, ht, hdueThread⟩ := (Option.any_eq_true _ _).1 hdueAt
    refine ⟨i, L, hfirst, (Option.any_eq_true _ _).2 ⟨t, ht, decide_eq_true ?_⟩⟩
    have hdueThread := of_decide_eq_true hdueThread
    exact ⟨hdueThread, fun hexit => hnone i hi t ht ⟨hdueThread.1, hexit⟩⟩

/-- At the end of a list the next thread is the head of the next one. -/
lemma Searching.last_iff (h : Searching p) (hnext : nextOf p.sched.threads p.sched.currentq = some 0) :
    (∀ garbage, ∃ c, Ends (searchTurn garbage) (Search.start p) (.ok c)) ↔
      CanPass p.sched ∧ (IdleReady p.sched ∨ NoneExits p.sched ∧ dueSlots p.sched ≠ []) := by
  have hzero : ∀ g, zeroGravity g p = reschedule g p := fun g => by
    rw [zeroGravity_eq h.counted h.several h.timeout h.noTimeout hnext, if_pos rfl]
  have hpassed : CanPass p.sched → ∀ garbage,
      ((∃ c, Ends (searchTurn garbage) (Search.start p) (.ok c)) ↔
        IdleReady p.sched ∨ NoneExits p.sched ∧ dueSlots p.sched ≠ []) := by
    intro hpass garbage
    obtain ⟨q, hreschedule, hr⟩ := h.reschedule_done hpass (garbage 0)
    have hq := hr.searching h
    have hturn₀ : zeroGravity (garbage 0) p = .ok q := (hzero _).trans hreschedule
    by_cases hready : IdleReady p.sched
    · exact iff_of_true (ends_ready hturn₀ hr.head_isSome hr.head_ne (hr.head_ready.2 hready)) (.inl hready)
    have hturn := searchTurn_back p.sched.currentq hturn₀ hr.head_isSome hr.head_ne
      (mt hr.head_ready.1 hready)
    by_cases hexits : NoneExits p.sched
    · have hcan : CanPass q.sched := (hr.canPass_iff hpass).2 hexits
      obtain ⟨q₁, hreschedule₁, hr₁⟩ := hq.reschedule_done hcan (garbage (0 + 1))
      rw [hreschedule₁, ok_bind] at hturn
      have hfinds : FindsAfterPass q.sched ↔
          IdleReady p.sched ∨ NoneExits p.sched ∧ dueSlots p.sched ≠ [] := by
        have hidle : ¬ IdleReady q.sched := mt hr.pass.idleReady_iff.1 hready
        rw [FindsAfterPass, firstStays_iff (hr.pass.noneExits hexits), hr.pass.dueSlots_eq hexits]
        exact ⟨fun hfinds => hfinds.elim (fun hdue => .inr ⟨hexits, hdue⟩) fun hfound =>
          absurd hfound.2.1 hidle, fun hfound => .inl (hfound.resolve_left hready).2⟩
      rw [← hfinds, ← ends_after garbage hq hcan hr₁]
      exact exists_congr fun c => ends_turn hturn
    · obtain ⟨f, hfails⟩ := hq.reschedule_fails (hr.pass.idleSleeps hpass.2.1)
        (mt (hr.canPass_iff hpass).1 hexits) (garbage (0 + 1))
      rw [hfails] at hturn
      refine iff_of_false (not_ends_of_error hturn) ?_
      rintro (hidle | ⟨hnone, -⟩)
      · exact hready hidle
      · exact hexits hnone
  constructor
  · intro hall
    cases hreschedule : reschedule 0 p with
    | error f =>
        have hturn : searchTurn (fun _ => 0) (Search.start p) = .error f := by
          show (zeroGravity 0 p >>= _) = _
          rw [hzero, hreschedule]
          rfl
        exact absurd (hall fun _ => 0) (not_ends_of_error hturn)
    | ok q =>
        have hpass := h.reschedule_inv_null hreschedule
        exact ⟨hpass, (hpassed hpass fun _ => 0).1 (hall _)⟩
  · rintro ⟨hpass, hfound⟩ garbage
    exact (hpassed hpass garbage).2 hfound

/-- Within a list the next thread is tried, and after it a new list. -/
lemma Searching.next_iff (h : Searching p) (hnext : nextOf p.sched.threads p.sched.currentq = some n)
    (hne : n ≠ 0) (hsome : (p.sched.threads.thread n).isSome) :
    (∀ garbage, ∃ c, Ends (searchTurn garbage) (Search.start p) (.ok c)) ↔
      readyPtr p.sched.threads n ∨ CanPass p.sched ∧ FindsAfterPass p.sched := by
  have hzero : ∀ g, zeroGravity g p = .ok { p with sched := { p.sched with currentq := n } } := fun g => by
    rw [zeroGravity_eq h.counted h.several h.timeout h.noTimeout hnext, if_neg hne]
  by_cases hready : readyPtr p.sched.threads n
  · exact iff_of_true (fun garbage => ends_ready (hzero (garbage 0)) hsome hne hready) (.inl hready)
  have hback := (h.setCurrentq n).back_iff (Search.start p) fun garbage =>
    searchTurn_back _ (hzero (garbage 0)) hsome hne hready
  exact hback.trans ⟨.inr, fun hfound => hfound.resolve_left hready⟩

end Lists

/-! ## A thread that breaks the round -/

section Timeout

variable {p : ProcessState} {s : Threads} {t u : Thread} {ptr q : ℕ}

/-- What holds of a thread still holds if it held of the structure that is replaced. -/
lemma thread_set_iff {Q : Thread → Prop} (ht : s.thread ptr = some t) (hQ : Q u ↔ Q t) :
    (∀ v, (s.set ptr u).thread q = some v → Q v) ↔ ∀ v, s.thread q = some v → Q v := by
  by_cases hq : q = ptr
  · subst hq
    rw [Threads.set_thread_same, ht]
    simp only [Option.some.injEq, forall_eq', hQ]
  · rw [Threads.set_thread_of_ne hq]

lemma thread_set_any {f : Thread → Bool} (ht : s.thread ptr = some t) (hf : f u = f t) :
    ((s.set ptr u).thread q).any f = (s.thread q).any f := by
  by_cases hq : q = ptr
  · subst hq
    rw [Threads.set_thread_same, ht, Option.any_some, Option.any_some, hf]
  · rw [Threads.set_thread_of_ne hq]

/-- The thread alone is the list. -/
lemma takeTimeout_threads (t : Thread) (p : ProcessState) : (takeTimeout t p).sched.threads
    = p.sched.threads.set p.timeoutThread { t with waitingForTimeout := FALSE, next := 0 } := rfl

lemma canPass_takeTimeout (ht : p.sched.threads.thread p.timeoutThread = some t) :
    CanPass (takeTimeout t p).sched ↔ CanPass p.sched :=
  and_congr Iff.rfl (and_congr (thread_set_iff ht Iff.rfl)
    (forall₂_congr fun _ _ => thread_set_iff ht Iff.rfl))

lemma findsAfterPass_takeTimeout (ht : p.sched.threads.thread p.timeoutThread = some t) :
    FindsAfterPass (takeTimeout t p).sched ↔ FindsAfterPass p.sched := by
  have hdue : dueAt (takeTimeout t p).sched = dueAt p.sched := funext fun _ => thread_set_any ht rfl
  have hstays : staysAt (takeTimeout t p).sched = staysAt p.sched := funext fun _ => thread_set_any ht rfl
  have hidle : IdleReady (takeTimeout t p).sched ↔ IdleReady p.sched :=
    Eq.to_iff (congrArg (· = true) (thread_set_any ht rfl))
  have hexits : NoneExits (takeTimeout t p).sched ↔ NoneExits p.sched :=
    forall₂_congr fun _ _ => thread_set_iff ht Iff.rfl
  rw [FindsAfterPass, FindsAfterPass, FirstStays, FirstStays, dueSlots, dueSlots, hdue, hstays, hidle, hexits]

/-- A thread that breaks the round is tried first. -/
lemma timeout_iff (h : TableOk p.sched) (hcounted : p.sched.threadsCounter ≠ 0)
    (hseveral : p.sched.threadsCounter ≠ 1) (hdue : TimeoutDue p) :
    (∀ garbage, ∃ c, Ends (searchTurn garbage) (Search.start p) (.ok c)) ↔
      readyPtr p.sched.threads p.timeoutThread ∨
        p.schedulerStatus ≠ LOCKED ∧ CanPass p.sched ∧ FindsAfterPass p.sched := by
  obtain ⟨hne, hany⟩ := hdue
  obtain ⟨t, ht, hwaits⟩ := (Option.any_eq_true _ _).1 hany
  have hzero : ∀ g, zeroGravity g p = .ok (takeTimeout t p) := fun g => by
    rw [zeroGravity, if_neg hcounted, if_neg hseveral, if_neg hne, Threads.deref_eq_ok.2 ht, ok_bind,
      if_pos (of_decide_eq_true hwaits)]
  have hself : (takeTimeout t p).sched.threads.thread p.timeoutThread
      = some { t with waitingForTimeout := FALSE, next := 0 } := Threads.set_thread_same
  have hsome : ((takeTimeout t p).sched.threads.thread (takeTimeout t p).sched.currentq).isSome := by
    show ((takeTimeout t p).sched.threads.thread p.timeoutThread).isSome
    rw [hself]
    rfl
  have hready : readyPtr (takeTimeout t p).sched.threads (takeTimeout t p).sched.currentq
      = readyPtr p.sched.threads p.timeoutThread := thread_set_any ht rfl
  have hnone : ¬ TimeoutDue (takeTimeout t p) := by
    rintro ⟨-, hany⟩
    have hwaits : (1234 = 1234 ∧ FALSE = TRUE) := by
      rw [show (takeTimeout t p).timeoutThread = p.timeoutThread from rfl, hself, Option.any_some] at hany
      exact ⟨rfl, (of_decide_eq_true hany).2⟩
    exact absurd hwaits.2 (by decide)
  by_cases hfirst : readyPtr p.sched.threads p.timeoutThread
  · exact iff_of_true (fun garbage => ends_ready (hzero (garbage 0)) hsome hne (hready.trans hfirst))
      (.inl hfirst)
  have hnot : ¬ readyPtr (takeTimeout t p).sched.threads (takeTimeout t p).sched.currentq := by
    rwa [hready]
  have hback : ∀ garbage : ℕ → ℕ, searchTurn garbage (Search.start p) = (do
      let p' ← reschedule (garbage (0 + 1)) (takeTimeout t p)
      .ok (.inr ⟨p', p'.sched.currentq, 0 + 2⟩)) := fun garbage =>
    searchTurn_back _ (hzero (garbage 0)) hsome hne hnot
  by_cases hlocked : p.schedulerStatus = LOCKED
  · -- the list is the thread alone, and stays it
    refine iff_of_false (fun hall => ?_) fun hfound => (hfound.resolve_left hfirst).1 hlocked
    obtain ⟨c, hends⟩ := hall fun _ => 0
    have hturn := hback fun _ => 0
    have hlocked' : (takeTimeout t p).schedulerStatus = LOCKED := hlocked
    rw [reschedule_locked hlocked', ok_bind] at hturn
    have hnext : nextOf (takeTimeout t p).sched.threads p.timeoutThread = some 0 := by
      rw [nextOf, hself, Option.map_some]
    have hstep : stepOn (takeTimeout t p).sched.threads p.timeoutThread = p.timeoutThread := by
      simp only [stepOn, hnext, if_true]
    have honly : ∀ ptr, OnList (takeTimeout t p).sched.threads p.timeoutThread ptr →
        ptr = p.timeoutThread := by
      intro ptr hptr
      induction hptr with
      | refl => rfl
      | tail _ hlink ih =>
          rw [ih, hnext] at hlink
          exact absurd (Option.some.inj hlink.1).symm hlink.2
    have hwalking : Walking { takeTimeout t p with currentThread := -1 } :=
      ⟨hlocked, hcounted, hseveral, hnone, fun _ => hsome, by
        show (takeTimeout t p).sched.threads.thread 0 = none
        rw [takeTimeout_threads, Threads.set_thread_of_ne hne.symm]
        exact h.null, fun ptr hptr => by
        rw [honly ptr hptr]
        exact hsome⟩
    obtain ⟨k, -, hfound⟩ := hwalking.ends_iff.1 ⟨c, (ends_turn hturn).1 hends⟩
    have hfixed : (stepOn (takeTimeout t p).sched.threads)^[k] p.timeoutThread = p.timeoutThread :=
      Function.iterate_fixed hstep k
    have hfound' : readyPtr (takeTimeout t p).sched.threads
        ((stepOn (takeTimeout t p).sched.threads)^[k] p.timeoutThread) := hfound
    rw [hfixed] at hfound'
    exact hnot hfound'
  · have hcarried : Carried SameThread p.sched (takeTimeout t p).sched :=
      Carried.of_set SameThread.refl ⟨rfl, rfl, rfl, rfl, rfl⟩ (takeTimeout_threads t p) ht ⟨rfl, rfl, rfl⟩
    have hsearching : Searching (takeTimeout t p) :=
      ⟨h.carried hcarried, hcounted, hseveral, hlocked, hnone, fun _ => hsome⟩
    rw [hsearching.back_iff _ hback, canPass_takeTimeout ht, findsAfterPass_takeTimeout ht]
    exact ⟨fun hfound => .inr ⟨hlocked, hfound⟩, fun hfound => (hfound.resolve_left hfirst).2⟩

end Timeout

/-- **The dispatch search**: for every table in order, with a valid idle thread, and every list of
threads of the table, the search comes to a valid ready thread of the current list, whatever is in the
cursor of the scheduler, if and only if its condition holds. -/
theorem selects_iff (p : ProcessState) (htable : TableOk p.sched)
    (hlist : ∀ ptr, OnList p.sched.threads p.sched.currentq ptr → (p.sched.threads.thread ptr).isSome)
    (htimeout : p.timeoutThread ≠ 0 → (p.sched.threads.thread p.timeoutThread).isSome) :
    (∀ garbage, Selects garbage p) ↔ SearchCondition p := by
  have hends : (∀ garbage, Selects garbage p) ↔
      ∀ garbage, ∃ c, Ends (searchTurn garbage) (Search.start p) (.ok c) :=
    forall_congr' fun _ => selects_iff_ends
  rw [hends, SearchCondition]
  by_cases hcounted : p.sched.threadsCounter = 0
  · rw [if_pos hcounted]
    refine iff_of_false (fun hall => ?_) id
    have hturn : searchTurn (fun _ => 0) (Search.start p) = .error (.panic "ts: No threads\n") := by
      show (zeroGravity 0 p >>= _) = _
      rw [zeroGravity, if_pos hcounted]
      rfl
    exact not_ends_of_error hturn (hall _)
  rw [if_neg hcounted]
  by_cases hone : p.sched.threadsCounter = 1
  · rw [if_pos hone]
    have hsingle : Single p := ⟨htable, hone⟩
    exact ⟨fun hall => hsingle.ends_iff.1 (hall fun _ => 0), fun hready _ => hsingle.ends_iff.2 hready⟩
  rw [if_neg hone]
  by_cases hdue : TimeoutDue p
  · rw [if_pos hdue]
    exact timeout_iff htable hcounted hone hdue
  rw [if_neg hdue]
  by_cases hlocked : p.schedulerStatus = LOCKED
  · rw [if_pos hlocked]
    have hwalking : Walking p := ⟨hlocked, hcounted, hone, hdue, htimeout, htable.null, hlist⟩
    exact ⟨fun hall => hwalking.ends_iff.1 (hall fun _ => 0), fun hfound _ => hwalking.ends_iff.2 hfound⟩
  rw [if_neg hlocked]
  have hsearching : Searching p := ⟨htable, hcounted, hone, hlocked, hdue, htimeout⟩
  obtain ⟨t, ht⟩ := Option.isSome_iff_exists.1 (hlist _ .refl)
  have hnext : nextOf p.sched.threads p.sched.currentq = some t.next := by
    rw [nextOf, ht, Option.map_some]
  by_cases hlast : t.next = 0
  · rw [hlast] at hnext
    rw [if_pos hnext]
    exact hsearching.last_iff hnext
  · have hstep : stepOn p.sched.threads p.sched.currentq = t.next := by
      simp only [stepOn, hnext, if_neg hlast]
    rw [if_neg (by rw [hnext]; exact fun heq => hlast (Option.some.inj heq)), hstep]
    exact hsearching.next_iff hnext hlast (hlist _ (.single ⟨hnext, hlast⟩))

/-! ## The idle thread alone -/

/-- The idle thread is the only thread, and waits or is ready. -/
def loneIdle (state : ThreadState) : ProcessState :=
  { callingState FALSE with
    sched :=
      { (callingState FALSE).sched with
        threads :=
          { thread := fun a =>
              if a = 0x1000 then some { newThread 0 with state := state, wakeJiffy := 10 } else none
            threadList := fun i => if i = 0 then 0x1000 else 0 }
        idleThread := 0x1000
        initThread := 0x1000
        currentq := 0x1000 } }

variable {state : ThreadState} {ptr : ℕ}

lemma loneIdle_thread {t : Thread} (h : (loneIdle state).sched.threads.thread ptr = some t) :
    ptr = 0x1000 ∧ t = { newThread 0 with state := state, wakeJiffy := 10 } := by
  have hthread : (if ptr = 0x1000 then some { newThread 0 with state := state, wakeJiffy := 10 }
      else none) = some t := h
  by_cases hptr : ptr = 0x1000
  · rw [if_pos hptr] at hthread
    exact ⟨hptr, (Option.some.inj hthread).symm⟩
  · rw [if_neg hptr] at hthread
    cases hthread

lemma loneIdle_list (i : ℕ) : (loneIdle state).sched.threads.threadList i = if i = 0 then 0x1000 else 0 :=
  rfl

lemma loneIdle_slot {i : ℕ} (h : (loneIdle state).sched.threads.threadList i ≠ 0) : i = 0 := by
  by_contra hi
  rw [loneIdle_list, if_neg hi] at h
  exact h rfl

lemma loneIdle_ok : TableOk (loneIdle state).sched where
  initialized := rfl
  policy := rfl
  init := rfl
  idleSlot := rfl
  idle := ⟨_, rfl, rfl, rfl⟩
  structures ptr := by
    constructor
    · intro hsome
      obtain ⟨t, ht⟩ := Option.isSome_iff_exists.1 hsome
      obtain ⟨rfl, -⟩ := loneIdle_thread ht
      exact ⟨by decide, 0, by decide, rfl⟩
    · rintro ⟨hne, i, -, rfl⟩
      obtain rfl := loneIdle_slot hne
      rfl
  distinct i j _ _ heq hne := by
    have hi := loneIdle_slot hne
    rw [heq] at hne
    rw [hi, loneIdle_slot hne]
  tids i t _ ht _ := by
    obtain ⟨hptr, rfl⟩ := loneIdle_thread ht
    rw [loneIdle_slot (i := i) (by rw [hptr]; decide)]
    rfl

lemma loneIdle_listed (h : OnList (loneIdle state).sched.threads (loneIdle state).sched.currentq ptr) :
    ((loneIdle state).sched.threads.thread ptr).isSome := by
  induction h with
  | refl => rfl
  | tail _ hlink ih =>
      obtain ⟨t, ht⟩ := Option.isSome_iff_exists.1 ih
      obtain ⟨rfl, rfl⟩ := loneIdle_thread ht
      exact absurd (Option.some.inj hlink.1).symm hlink.2

/-- The idle thread alone is found when it is ready. -/
theorem selects_iff_loneIdle : Selects (fun _ => 0) (loneIdle .READY) :=
  (selects_iff (loneIdle .READY) loneIdle_ok (fun _ => loneIdle_listed) fun hne => absurd rfl hne).2 rfl
    fun _ => 0

/-- **The search goes round for ever** if the idle thread is the only one and waits. -/
theorem selects_fails : ¬ ∀ p : ProcessState, TableOk p.sched →
    (∀ ptr, OnList p.sched.threads p.sched.currentq ptr → (p.sched.threads.thread ptr).isSome) →
      (p.timeoutThread ≠ 0 → (p.sched.threads.thread p.timeoutThread).isSome) →
        ∀ garbage, Selects garbage p := by
  intro hall
  have hselects := hall (loneIdle .WAITING) loneIdle_ok (fun _ => loneIdle_listed)
    (fun hne => absurd rfl hne) fun _ => 0
  have hsingle : Single (loneIdle .WAITING) := ⟨loneIdle_ok, rfl⟩
  have hready : readyPtr (loneIdle .WAITING).sched.threads 0x1000 :=
    hsingle.ends_iff.1 (selects_iff_ends.1 hselects)
  exact absurd hready (by decide)

end Gramado
