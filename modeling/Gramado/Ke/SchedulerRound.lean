import Gramado.Lib.Chain
import Gramado.Ke.SchedulerSlot

/-!
# The list of a round

* `TableOk` — the table as the creation of threads leaves it: every structure is in one slot, and
  its tid is the number of the slot.
* `RoundInv` — the invariant of the loop: the due threads of the slots passed so far are linked
  behind the idle thread, in the order of their tids.
* `RoundBuilt` — what `__scheduler_rr` is for: it returns, and the current list is a null-terminated
  chain of the idle thread and the threads that are ready at the end of the pass.
* `NothingEnds` — the condition: the idle thread is not to be woken, no thread is a zombie, and no
  due thread is about to exit.
-/

namespace Gramado

open StepRun Cells

/-- Where a thread's `next` leads. -/
def nextOf (s : Threads) (ptr : ℕ) : Option ℕ := (s.thread ptr).map Thread.next

/-- There is a ready thread at an address. -/
def readyPtr (s : Threads) (ptr : ℕ) : Bool := (s.thread ptr).any fun t => t.Ready

/-- The slot has a thread that is ready. -/
def readyAt (s : SchedState) (i : ℕ) : Bool := readyPtr s.threads (s.threads.threadList i)

/-- The slot has a thread that is due. -/
def dueAt (s : SchedState) (i : ℕ) : Bool :=
  (s.threads.thread (s.threads.threadList i)).any fun t => t.Due s.jiffies

/-- The slot has a thread that is due and not about to exit. -/
def staysAt (s : SchedState) (i : ℕ) : Bool :=
  (s.threads.thread (s.threads.threadList i)).any fun t =>
    t.Due s.jiffies ∧ t.exitInProgress ≠ TRUE

/-- The idle thread, and the due threads of the slots up to `n`. -/
def roundSlots (s : SchedState) (n : ℕ) : List ℕ := 0 :: (List.range' 1 n).filter (dueAt s)

/-- Their structures. -/
def roundPtrs (s : SchedState) (n : ℕ) : List ℕ := (roundSlots s n).map s.threads.threadList

/-- The table as the creation of threads leaves it, with a valid idle thread. -/
structure TableOk (s : SchedState) : Prop where
  initialized : s.info.initialized = TRUE
  policy : s.info.policy = SCHED_POLICY_RR
  init : s.idleThread = s.initThread
  idleSlot : s.threads.threadList 0 = s.idleThread
  idle : ∃ t, s.threads.thread s.idleThread = some t ∧ t.Valid
  structures : ∀ ptr, (s.threads.thread ptr).isSome ↔
    ptr ≠ 0 ∧ ∃ i : ℕ, (i : ℤ) < THREAD_COUNT_MAX ∧ s.threads.threadList i = ptr
  distinct : ∀ i j : ℕ, (i : ℤ) < THREAD_COUNT_MAX → (j : ℤ) < THREAD_COUNT_MAX →
    s.threads.threadList i = s.threads.threadList j → s.threads.threadList i ≠ 0 → i = j
  tids : ∀ (i : ℕ) (t : Thread), (i : ℤ) < THREAD_COUNT_MAX →
    s.threads.thread (s.threads.threadList i) = some t → t.Valid → t.tid = i

/-! ## The invariant of the loop -/

/-- The pass, begun in `s₀`, has gone through the slots up to `n`. -/
structure RoundInv (s₀ : SchedState) (n : ℕ) (s : SchedState) : Prop where
  kept : Kept s₀ s
  linked : Linked (nextOf s.threads) (roundPtrs s₀ n)
  last : (roundPtrs s₀ n).getLast? = some s.p6q
  domain : ∀ ptr, (s.threads.thread ptr).isSome = (s₀.threads.thread ptr).isSome
  ahead : ∀ i : ℕ, n < i → (i : ℤ) < THREAD_COUNT_MAX → s₀.threads.threadList i ≠ 0 →
    s.threads.thread (s₀.threads.threadList i) = s₀.threads.thread (s₀.threads.threadList i)
  passed : ∀ i : ℕ, 1 ≤ i → i ≤ n → readyAt s i = staysAt s₀ i
  idle : ∃ t, s.threads.thread s₀.idleThread = some t ∧ t.Valid ∧ t.tid = SYSTEM_THRESHOLD_TID

section Pointers

variable {s s' : Threads} {ptr q : ℕ} {t p : Thread}

lemma nextOf_set : nextOf (s.set ptr t) = Function.update (nextOf s) ptr (some t.next) := by
  funext q
  rcases eq_or_ne q ptr with rfl | hne
  · rw [nextOf, Threads.set_thread_same, Function.update_self]
    rfl
  · rw [nextOf, Threads.set_thread_of_ne hne, Function.update_of_ne hne]
    rfl

/-- A write that keeps `next` moves no link. -/
lemma nextOf_set_of_eq (ht : s.thread ptr = some t) (hnext : p.next = t.next) :
    nextOf (s.set ptr p) = nextOf s := by
  have hself : nextOf s ptr = some p.next := by rw [nextOf, ht, hnext, Option.map_some]
  rw [nextOf_set, ← hself, Function.update_eq_self]

lemma isSome_set (ht : s.thread ptr = some t) (p : Thread) (q : ℕ) :
    ((s.set ptr p).thread q).isSome = (s.thread q).isSome := by
  rcases eq_or_ne q ptr with rfl | hne
  · rw [Threads.set_thread_same, ht]
    rfl
  · rw [Threads.set_thread_of_ne hne]

lemma readyPtr_set_of_ne (hne : q ≠ ptr) : readyPtr (s.set ptr t) q = readyPtr s q := by
  rw [readyPtr, Threads.set_thread_of_ne hne]
  rfl

lemma readyPtr_set_same : readyPtr (s.set ptr t) ptr = decide t.Ready := by
  rw [readyPtr, Threads.set_thread_same]
  rfl

/-- Linking does not make a thread ready. -/
lemma readyPtr_link (hp : s.thread ptr = some p) (r : ℕ) :
    readyPtr (s.set ptr { p with next := r }) q = readyPtr s q := by
  rcases eq_or_ne q ptr with rfl | hne
  · rw [readyPtr_set_same, readyPtr, hp]
    rfl
  · exact readyPtr_set_of_ne hne

/-- Linking keeps a valid thread valid, with its tid. -/
lemma valid_link {tid : ℤ} (hp : s.thread ptr = some p) (r : ℕ)
    (hq : ∃ t, s.thread q = some t ∧ t.Valid ∧ t.tid = tid) :
    ∃ t, (s.set ptr { p with next := r }).thread q = some t ∧ t.Valid ∧ t.tid = tid := by
  obtain ⟨t, ht, hvalid, htid⟩ := hq
  rcases eq_or_ne q ptr with rfl | hne
  · obtain rfl : p = t := by simpa using hp.symm.trans ht
    exact ⟨_, Threads.set_thread_same, hvalid, htid⟩
  · exact ⟨t, (Threads.set_thread_of_ne hne).trans ht, hvalid, htid⟩

end Pointers

section Table

variable {s₀ s : SchedState} {n : ℕ}

lemma TableOk.null (h : TableOk s₀) : s₀.threads.thread 0 = none := by
  have hzero := h.structures 0
  simpa using hzero

lemma TableOk.idle_ne (h : TableOk s₀) : s₀.idleThread ≠ 0 := by
  obtain ⟨t, ht, -⟩ := h.idle
  exact ((h.structures _).1 (by rw [ht]; rfl)).1

lemma TableOk.idle_tid (h : TableOk s₀) : ∃ t, s₀.threads.thread s₀.idleThread = some t ∧
    t.Valid ∧ t.tid = SYSTEM_THRESHOLD_TID := by
  obtain ⟨t, ht, hvalid⟩ := h.idle
  refine ⟨t, ht, hvalid, h.tids 0 t (by simp [THREAD_COUNT_MAX]) ?_ hvalid⟩
  rw [h.idleSlot, ht]

lemma roundSlots_succ (s₀ : SchedState) (n : ℕ) :
    roundSlots s₀ (n + 1) = roundSlots s₀ n ++ if dueAt s₀ (n + 1) then [n + 1] else [] := by
  simp only [roundSlots, List.range'_concat, List.filter_append, List.cons_append]
  congr 2
  rw [show 1 + 1 * n = n + 1 by omega, List.filter_singleton]
  cases dueAt s₀ (n + 1) <;> rfl

/-- A linked slot has a structure and is not behind `n`. -/
lemma TableOk.mem_roundSlots (h : TableOk s₀) {i : ℕ} (hi : i ∈ roundSlots s₀ n) :
    i ≤ n ∧ s₀.threads.threadList i ≠ 0 := by
  rcases List.mem_cons.1 hi with rfl | hi
  · refine ⟨Nat.zero_le n, ?_⟩
    rw [h.idleSlot]
    exact h.idle_ne
  · obtain ⟨hrange, hdue⟩ := List.mem_filter.1 hi
    have hle := List.mem_range'_1.1 hrange
    refine ⟨by omega, fun hnull => ?_⟩
    rw [dueAt, hnull, h.null] at hdue
    simp at hdue

lemma TableOk.roundPtrs_nodup (h : TableOk s₀) (hn : (n : ℤ) < THREAD_COUNT_MAX) :
    (roundPtrs s₀ n).Nodup := by
  refine List.Nodup.map_on (fun i hi j hj heq => ?_) ?_
  · obtain ⟨hin, hne⟩ := h.mem_roundSlots hi
    obtain ⟨hjn, -⟩ := h.mem_roundSlots hj
    exact h.distinct i j (by omega) (by omega) heq hne
  · refine List.nodup_cons.2 ⟨fun hmem => ?_, List.Nodup.filter _ List.nodup_range'⟩
    have hrange := List.mem_range'_1.1 (List.mem_filter.1 hmem).1
    omega

/-- The next slot is not in the list yet. -/
lemma TableOk.fresh (h : TableOk s₀) (hn : ((n + 1 : ℕ) : ℤ) < THREAD_COUNT_MAX) :
    s₀.threads.threadList (n + 1) ∉ roundPtrs s₀ n := by
  intro hmem
  obtain ⟨i, hi, heq⟩ := List.mem_map.1 hmem
  obtain ⟨hin, hnei⟩ := h.mem_roundSlots hi
  have hsame := h.distinct i (n + 1) (by omega) hn heq hnei
  omega

/-- The structure in a slot of the table. -/
lemma TableOk.structure_at (h : TableOk s₀) {i : ℕ} (hi : (i : ℤ) < THREAD_COUNT_MAX)
    (hne : s₀.threads.threadList i ≠ 0) :
    ∃ t, s₀.threads.thread (s₀.threads.threadList i) = some t :=
  Option.isSome_iff_exists.1 ((h.structures _).2 ⟨hne, i, hi, rfl⟩)

/-- The loop starts with the idle thread alone in the list. -/
lemma RoundInv.start (h : TableOk s₀) (hp6q : s₀.p6q = s₀.idleThread) : RoundInv s₀ 0 s₀ where
  kept := Kept.rfl'
  linked := List.isChain_singleton _
  last := by simp [roundPtrs, roundSlots, h.idleSlot, hp6q]
  domain _ := rfl
  ahead _ _ _ _ := rfl
  passed i hpos hle := by omega
  idle := h.idle_tid

/-- Different slots have different structures. -/
lemma TableOk.slot_ne (h : TableOk s₀) {i j : ℕ} (hi : (i : ℤ) < THREAD_COUNT_MAX)
    (hj : (j : ℤ) < THREAD_COUNT_MAX) (hne : i ≠ j) (hnull : s₀.threads.threadList j ≠ 0) :
    s₀.threads.threadList i ≠ s₀.threads.threadList j := fun heq =>
  hne (h.distinct i j hi hj heq (heq ▸ hnull))

lemma TableOk.idle_ne_slot (h : TableOk s₀) (hn : ((n + 1 : ℕ) : ℤ) < THREAD_COUNT_MAX)
    (hnull : s₀.threads.threadList (n + 1) ≠ 0) :
    s₀.idleThread ≠ s₀.threads.threadList (n + 1) := by
  rw [← h.idleSlot]
  exact h.slot_ne (by simp [THREAD_COUNT_MAX]) hn (Nat.succ_ne_zero n).symm hnull

/-- The slot that comes next is as it was before the pass. -/
lemma RoundInv.slot (h : TableOk s₀) (hinv : RoundInv s₀ n s)
    (hn : ((n + 1 : ℕ) : ℤ) < THREAD_COUNT_MAX) (hne : s₀.threads.threadList (n + 1) ≠ 0) :
    ∃ t, s₀.threads.thread (s₀.threads.threadList (n + 1)) = some t ∧ Slot s (n + 1) t := by
  obtain ⟨t, ht⟩ := h.structure_at hn hne
  have ht' : s.threads.thread (s₀.threads.threadList (n + 1)) = some t :=
    (hinv.ahead (n + 1) (Nat.lt_succ_self n) hn hne).trans ht
  refine ⟨t, ht, hn, ?_, ?_, h.tids (n + 1) t hn ht, ?_⟩
  · rwa [hinv.kept.threadList]
  · rwa [hinv.kept.threadList]
  · rw [hinv.kept.threadList, hinv.kept.idleThread]
    exact (h.idle_ne_slot hn hne).symm

/-- There is a last structure, and it is in the list. -/
lemma RoundInv.last_structure (h : TableOk s₀) (hinv : RoundInv s₀ n s)
    (hn : (n : ℤ) < THREAD_COUNT_MAX) :
    s.p6q ∈ roundPtrs s₀ n ∧ ∃ p, s.threads.thread s.p6q = some p := by
  have hmem : s.p6q ∈ roundPtrs s₀ n := List.mem_of_getLast? hinv.last
  refine ⟨hmem, Option.isSome_iff_exists.1 ?_⟩
  obtain ⟨i, hi, heq⟩ := List.mem_map.1 hmem
  obtain ⟨hin, hne⟩ := h.mem_roundSlots hi
  rw [hinv.domain, ← heq]
  exact (h.structures _).2 ⟨hne, i, by omega, rfl⟩

lemma roundPtrs_succ (s₀ : SchedState) (n : ℕ) :
    roundPtrs s₀ (n + 1) = roundPtrs s₀ n ++
      if dueAt s₀ (n + 1) then [s₀.threads.threadList (n + 1)] else [] := by
  rw [roundPtrs, roundSlots_succ, List.map_append]
  cases dueAt s₀ (n + 1) <;> rfl

/-- The part of the invariant that looks at other slots than the one passed. -/
lemma RoundInv.passed_succ {s' : SchedState} (hinv : RoundInv s₀ n s)
    (hothers : ∀ i ≤ n, readyAt s' i = readyAt s i)
    (hself : readyAt s' (n + 1) = staysAt s₀ (n + 1)) :
    ∀ i : ℕ, 1 ≤ i → i ≤ n + 1 → readyAt s' i = staysAt s₀ i := by
  intro i hpos hle
  rcases Nat.lt_succ_iff_lt_or_eq.1 (Nat.lt_succ_of_le hle) with hlt | rfl
  · exact (hothers i (by omega)).trans (hinv.passed i hpos (by omega))
  · exact hself

/-- An empty slot. -/
lemma RoundInv.step_null (h : TableOk s₀) (hinv : RoundInv s₀ n s)
    (hnull : s₀.threads.threadList (n + 1) = 0) :
    rrSlot s (n + 1) = .ok s ∧ RoundInv s₀ (n + 1) s := by
  have hdue : dueAt s₀ (n + 1) = false := by
    rw [dueAt, hnull, h.null]
    rfl
  have hptrs : roundPtrs s₀ (n + 1) = roundPtrs s₀ n := by
    rw [roundPtrs_succ, hdue]
    exact List.append_nil _
  have hnone : s.threads.thread 0 = none := by
    have hdomain := hinv.domain 0
    rw [h.null] at hdomain
    simpa using hdomain
  refine ⟨rrSlot_null (by rw [hinv.kept.threadList, hnull]), hinv.kept, ?_, ?_, hinv.domain, ?_,
    hinv.passed_succ (fun _ _ => rfl) ?_, hinv.idle⟩
  · rw [hptrs]
    exact hinv.linked
  · rw [hptrs]
    exact hinv.last
  · intro i hi
    exact hinv.ahead i (by omega)
  · rw [readyAt, readyPtr, staysAt, hinv.kept.threadList, hnull, hnone, h.null]
    rfl

/-- A due thread. -/
lemma RoundInv.step_due (h : TableOk s₀) (hinv : RoundInv s₀ n s)
    (hn : ((n + 1 : ℕ) : ℤ) < THREAD_COUNT_MAX) (hne : s₀.threads.threadList (n + 1) ≠ 0)
    {t : Thread} (ht : s₀.threads.thread (s₀.threads.threadList (n + 1)) = some t)
    (hslot : Slot s (n + 1) t) (hdue : t.Due s.jiffies) :
    ∃ s', rrSlot s (n + 1) = .ok s' ∧ RoundInv s₀ (n + 1) s' := by
  obtain ⟨hmem, p, hp⟩ := hinv.last_structure h (by omega)
  have hfresh := h.fresh hn
  have htmp : s.threads.threadList (n + 1) = s₀.threads.threadList (n + 1) := by
    rw [hinv.kept.threadList]
  have hlast : s.threads.threadList (n + 1) ≠ s.p6q := by
    rw [htmp]
    exact fun heq => hfresh (heq ▸ hmem)
  obtain ⟨s', t', hok, hkept, hp6q, hthreads, hnext, hready⟩ := rrSlot_due hslot hp hlast hdue
  rw [htmp] at hlast hp6q hthreads
  have hthread : s.threads.thread (s₀.threads.threadList (n + 1)) = some t := by
    rw [← htmp]
    exact hslot.thread
  have hthread' : (s.threads.set s.p6q { p with next := s₀.threads.threadList (n + 1) }).thread
      (s₀.threads.threadList (n + 1)) = some t := (Threads.set_thread_of_ne hlast).trans hthread
  have hdueAt : dueAt s₀ (n + 1) = true := by
    rw [dueAt, ht, ← hinv.kept.jiffies, Option.any_some, decide_eq_true hdue]
  have hptrs : roundPtrs s₀ (n + 1) = roundPtrs s₀ n ++ [s₀.threads.threadList (n + 1)] := by
    rw [roundPtrs_succ, hdueAt]
    rfl
  have hidle := h.idle_ne_slot hn hne
  refine ⟨s', hok, hinv.kept.trans hkept, ?_, ?_, ?_, ?_, hinv.passed_succ ?_ ?_, ?_⟩
  · obtain ⟨L, hL⟩ := List.getLast?_eq_some_iff.1 hinv.last
    have hnodup := h.roundPtrs_nodup (show (n : ℤ) < THREAD_COUNT_MAX by omega)
    have hlinked := hinv.linked
    rw [hL] at hlinked hnodup
    rw [hptrs, hL, hthreads, nextOf_set_of_eq hthread' hnext, nextOf_set]
    exact hlinked.extend fun hmemL => (List.nodup_append.1 hnodup).2.2 _ hmemL _
      (List.mem_singleton_self _) rfl
  · rw [hptrs, hp6q]
    exact List.getLast?_concat
  · intro ptr
    rw [hthreads, isSome_set hthread', isSome_set hp, hinv.domain]
  · intro i hi hlt hnull
    have hself := h.slot_ne hlt hn (by omega) hne
    have hp6q : s₀.threads.threadList i ≠ s.p6q := by
      intro heq
      obtain ⟨j, hj, hjeq⟩ := List.mem_map.1 hmem
      obtain ⟨hjn, hjne⟩ := h.mem_roundSlots hj
      exact h.slot_ne hlt (by omega) (by omega) hjne (heq.trans hjeq.symm)
    rw [hthreads, Threads.set_thread_of_ne hself, Threads.set_thread_of_ne hp6q]
    exact hinv.ahead i (by omega) hlt hnull
  · intro i hi
    have hself := h.slot_ne (show (i : ℤ) < THREAD_COUNT_MAX by omega) hn (by omega) hne
    rw [readyAt, readyAt, hkept.threadList, hthreads, hinv.kept.threadList,
      readyPtr_set_of_ne hself, readyPtr_link hp]
  · rw [readyAt, hkept.threadList, htmp, hthreads, readyPtr_set_same, staysAt, ht,
      ← hinv.kept.jiffies, Option.any_some]
    exact decide_eq_decide.2 (hready.trans (and_iff_right hdue).symm)
  · rw [hthreads, Threads.set_thread_of_ne hidle]
    exact valid_link hp _ hinv.idle

/-- A thread that is neither due nor a zombie. -/
lemma RoundInv.step_idle (h : TableOk s₀) (hinv : RoundInv s₀ n s)
    (hn : ((n + 1 : ℕ) : ℤ) < THREAD_COUNT_MAX) (hne : s₀.threads.threadList (n + 1) ≠ 0)
    {t : Thread} (ht : s₀.threads.thread (s₀.threads.threadList (n + 1)) = some t)
    (hslot : Slot s (n + 1) t) (halive : ¬ t.Zombie) (hdue : ¬ t.Due s.jiffies) :
    ∃ s', rrSlot s (n + 1) = .ok s' ∧ RoundInv s₀ (n + 1) s' := by
  have htmp : s.threads.threadList (n + 1) = s₀.threads.threadList (n + 1) := by
    rw [hinv.kept.threadList]
  obtain ⟨s', t', hok, hkept, hp6q, hthreads, hnext, hready⟩ := rrSlot_idle hslot halive hdue
  rw [htmp] at hthreads
  have hthread : s.threads.thread (s₀.threads.threadList (n + 1)) = some t := by
    rw [← htmp]
    exact hslot.thread
  have hdueAt : dueAt s₀ (n + 1) = false := by
    rw [dueAt, ht, ← hinv.kept.jiffies, Option.any_some, decide_eq_false hdue]
  have hptrs : roundPtrs s₀ (n + 1) = roundPtrs s₀ n := by
    rw [roundPtrs_succ, hdueAt]
    exact List.append_nil _
  have hidle := h.idle_ne_slot hn hne
  refine ⟨s', hok, hinv.kept.trans hkept, ?_, ?_, ?_, ?_, hinv.passed_succ ?_ ?_, ?_⟩
  · rw [hptrs, hthreads, nextOf_set_of_eq hthread hnext]
    exact hinv.linked
  · rw [hptrs, hp6q]
    exact hinv.last
  · intro ptr
    rw [hthreads, isSome_set hthread, hinv.domain]
  · intro i hi hlt hnull
    rw [hthreads, Threads.set_thread_of_ne (h.slot_ne hlt hn (by omega) hne)]
    exact hinv.ahead i (by omega) hlt hnull
  · intro i hi
    have hself := h.slot_ne (show (i : ℤ) < THREAD_COUNT_MAX by omega) hn (by omega) hne
    rw [readyAt, readyAt, hkept.threadList, hthreads, hinv.kept.threadList,
      readyPtr_set_of_ne hself]
  · rw [readyAt, hkept.threadList, htmp, hthreads, readyPtr_set_same, staysAt, ht,
      ← hinv.kept.jiffies, Option.any_some]
    exact decide_eq_decide.2 (iff_of_false hready fun hstays => hdue hstays.1)
  · rw [hthreads, Threads.set_thread_of_ne hidle]
    exact hinv.idle

/-- **One slot of the pass**, when it has no zombie. -/
lemma RoundInv.step (h : TableOk s₀) (hinv : RoundInv s₀ n s)
    (hn : ((n + 1 : ℕ) : ℤ) < THREAD_COUNT_MAX)
    (halive : ∀ t, s₀.threads.thread (s₀.threads.threadList (n + 1)) = some t → ¬ t.Zombie) :
    ∃ s', rrSlot s (n + 1) = .ok s' ∧ RoundInv s₀ (n + 1) s' := by
  by_cases hne : s₀.threads.threadList (n + 1) = 0
  · exact ⟨s, hinv.step_null h hne⟩
  · obtain ⟨t, ht, hslot⟩ := hinv.slot h hn hne
    by_cases hdue : t.Due s.jiffies
    · exact hinv.step_due h hn hne ht hslot hdue
    · exact hinv.step_idle h hn hne ht hslot (halive t ht) hdue

/-! ## The whole pass -/

/-- **The pass**, when there are no zombies in the slots up to `n`. -/
lemma round_run (h : TableOk s₀) (hp6q : s₀.p6q = s₀.idleThread) (hn : (n : ℤ) < THREAD_COUNT_MAX)
    (halive : ∀ i : ℕ, 1 ≤ i → i ≤ n → ∀ t,
      s₀.threads.thread (s₀.threads.threadList i) = some t → ¬ t.Zombie) :
    ∃ s, runs rrSlot s₀ (List.range' 1 n) = .ok s ∧ RoundInv s₀ n s := by
  induction n with
  | zero => exact ⟨s₀, rfl, RoundInv.start h hp6q⟩
  | succ n ih =>
      obtain ⟨s, hrun, hinv⟩ := ih (by omega) fun i hpos hle => halive i hpos (by omega)
      obtain ⟨s', hstep, hinv'⟩ := hinv.step h hn (halive (n + 1) (by omega) le_rfl)
      refine ⟨s', ?_, hinv'⟩
      rw [List.range'_concat, show 1 + 1 * n = n + 1 by omega]
      exact runs_append hrun (runs_cons_ok hstep)

/-- The pass does not get through the slots if one of them has a zombie. -/
lemma round_alive (h : TableOk s₀) (hp6q : s₀.p6q = s₀.idleThread) (hn : (n : ℤ) < THREAD_COUNT_MAX)
    (hrun : runs rrSlot s₀ (List.range' 1 n) = .ok s) :
    ∀ i : ℕ, 1 ≤ i → i ≤ n → ∀ t,
      s₀.threads.thread (s₀.threads.threadList i) = some t → ¬ t.Zombie := by
  induction n generalizing s with
  | zero =>
      intro i hpos hle
      omega
  | succ n ih =>
      rw [List.range'_concat, show 1 + 1 * n = n + 1 by omega] at hrun
      obtain ⟨s₁, hbefore, hlast⟩ := runs_append_inv hrun
      have halive := ih (by omega) hbefore
      intro i hpos hle t ht hzombie
      rcases Nat.lt_succ_iff_lt_or_eq.1 (Nat.lt_succ_of_le hle) with hlt | rfl
      · exact halive i hpos (by omega) t ht hzombie
      · obtain ⟨s₂, hbefore', hinv⟩ := round_run h hp6q (show (n : ℤ) < THREAD_COUNT_MAX by omega)
          halive
        obtain rfl : s₁ = s₂ := by simpa using hbefore.symm.trans hbefore'
        have hne : s₀.threads.threadList (n + 1) ≠ 0 := by
          intro hnull
          rw [hnull, h.null] at ht
          cases ht
        obtain ⟨t', ht', hslot⟩ := hinv.slot h hn hne
        obtain rfl : t = t' := by simpa using ht.symm.trans ht'
        obtain ⟨s₃, hstep, -⟩ := runs_cons_inv hlast
        refine rrSlot_zombie hslot ?_ hzombie hstep
        have hdomain := hinv.domain 0
        rw [h.null] at hdomain
        simpa using hdomain

/-- **The end of the pass**: the list is closed. -/
lemma RoundInv.close (h : TableOk s₀) (hinv : RoundInv s₀ n s) (hn : (n : ℤ) < THREAD_COUNT_MAX) :
    ∃ p, s.threads.thread s.p6q = some p ∧
      Chain (nextOf (s.threads.set s.p6q { p with next := 0 })) (· = 0) s₀.idleThread
        (roundPtrs s₀ n) := by
  obtain ⟨hmem, p, hp⟩ := hinv.last_structure h hn
  refine ⟨p, hp, ?_⟩
  obtain ⟨L, hL⟩ := List.getLast?_eq_some_iff.1 hinv.last
  have hnodup := h.roundPtrs_nodup hn
  have hlinked := hinv.linked
  rw [hL] at hlinked hnodup
  have hfresh : s.p6q ∉ L := fun hmemL => (List.nodup_append.1 hnodup).2.2 _ hmemL _
    (List.mem_singleton_self _) rfl
  have hclosed : Linked (nextOf (s.threads.set s.p6q { p with next := 0 })) (roundPtrs s₀ n) := by
    rw [hL, nextOf_set]
    exact (hlinked.extend hfresh).left_of_append
  have hhead : roundPtrs s₀ n
      = s₀.idleThread :: ((List.range' 1 n).filter (dueAt s₀)).map s₀.threads.threadList := by
    rw [roundPtrs, roundSlots, List.map_cons, h.idleSlot]
  rw [hhead] at hclosed ⊢
  refine hclosed.chain (fun q hq => ?_) (fun q hq => ?_) rfl
  · rw [← hhead] at hq
    obtain ⟨i, hi, rfl⟩ := List.mem_map.1 hq
    exact (h.mem_roundSlots hi).2
  · rw [← hhead, hinv.last] at hq
    obtain rfl : s.p6q = q := by simpa using hq
    rw [nextOf_set, Function.update_self]

end Table

/-! ## `__scheduler_rr` -/

/-- The current list of a state is that of a round: it starts with the valid idle thread, whose tid
is `tid`, and is a null-terminated chain of it and the ready threads, in the order of their tids. -/
structure ListBuilt (tid : ℤ) (s : SchedState) : Prop where
  head : s.currentq = s.idleThread
  idle : ∃ t, s.threads.thread s.idleThread = some t ∧ t.Valid ∧ t.tid = tid
  chain : Chain (nextOf s.threads) (· = 0) s.currentq
    (s.idleThread :: ((slotsFrom 1).filter (readyAt s)).map s.threads.threadList)

/-- **What `__scheduler_rr` is for**: it returns the first tid of a list of the threads that are
ready at the end of the pass.  A pointer that is at no structure of the table would stop it. -/
def RoundBuilt (garbage : ℕ) (s : SchedState) : Prop :=
  ∃ tid s', schedulerRr garbage s = .ok (tid, s') ∧ ListBuilt tid s'

/-- The idle thread is not to be woken, no thread is a zombie, and no due thread is about to
exit. -/
structure NothingEnds (s : SchedState) : Prop where
  idleSleeps : ∀ t, s.threads.thread s.idleThread = some t → s.jiffies < t.wakeJiffy
  noZombie : ∀ i ∈ slotsFrom 1, ∀ t, s.threads.thread (s.threads.threadList i) = some t →
    ¬ t.Zombie
  noExit : ∀ i ∈ slotsFrom 1, ∀ t, s.threads.thread (s.threads.threadList i) = some t →
    t.Due s.jiffies → t.exitInProgress ≠ TRUE

/-- The state before the loop. -/
def roundStart (s : SchedState) (idle : Thread) : SchedState :=
  setHead s.idleThread ((clearQueues s).setThread s.idleThread (stabilized idle))

section Round

variable {s s' : SchedState} {idle : Thread} {garbage : ℕ}

lemma qlistSetElement_current {ptr : ℕ} (hne : ptr ≠ 0) (s : SchedState) :
    (qlistSetElement SCHED_CURRENT_QUEUE ptr s).2
      = { s with qList := Function.update s.qList SCHED_CURRENT_QUEUE ptr } := by
  rw [qlistSetElement, if_neg (by decide), if_neg hne, if_pos rfl]

lemma qlistSetElement_p6 {ptr : ℕ} (hne : ptr ≠ 0) (s : SchedState) :
    (qlistSetElement SCHED_P6_QUEUE ptr s).2
      = { s with qList := Function.update s.qList SCHED_P6_QUEUE ptr } := by
  rw [qlistSetElement, if_neg (by decide), if_neg hne, if_neg (by decide), if_pos (by decide)]

variable (idle) in
/-- What the loop starts with. -/
lemma roundStart_fields (hne : s.idleThread ≠ 0) :
    (roundStart s idle).threads = s.threads.set s.idleThread (stabilized idle) ∧
      (roundStart s idle).p6q = s.idleThread ∧ (roundStart s idle).currentq = s.idleThread ∧
      (roundStart s idle).idleThread = s.idleThread ∧ (roundStart s idle).jiffies = s.jiffies ∧
      (roundStart s idle).initThread = s.initThread ∧ (roundStart s idle).info = s.info := by
  rw [roundStart, setHead, qlistSetElement_current hne, qlistSetElement_p6 hne]
  exact ⟨rfl, rfl, rfl, rfl, rfl, rfl, rfl⟩

/-- With a table in order, all checks before the loop pass. -/
lemma schedulerRr_eq (h : TableOk s) (hidle : s.threads.thread s.idleThread = some idle) :
    schedulerRr garbage s = (do
      let s₀ ← wakeInit garbage idle (roundStart s idle)
      let s₁ ← runs rrSlot s₀ (slotsFrom 1)
      let s₂ ← finishRound s₁
      .ok (SYSTEM_THRESHOLD_TID, s₂)) := by
  obtain ⟨t, ht, hvalid, htid⟩ := h.idle_tid
  obtain rfl : idle = t := by simpa using hidle.symm.trans ht
  have hderef : (clearQueues s).threads.deref (clearQueues s).idleThread = .ok idle :=
    Threads.deref_eq_ok.2 hidle
  have hzero : idle.tid = 0 := htid
  have hinit : idle.tid = INIT_TID := htid
  have hne : (clearQueues s).idleThread ≠ 0 := h.idle_ne
  have hsame : (clearQueues s).idleThread = (clearQueues s).initThread := h.init
  have hinitialized : (clearQueues s).info.initialized = TRUE := h.initialized
  have hpolicy : (clearQueues s).info.policy = SCHED_POLICY_RR := h.policy
  dsimp only [schedulerRr]
  rw [if_neg (not_not.2 hinitialized), if_neg (not_not.2 hpolicy), if_neg hne, hderef, ok_bind,
    if_neg (not_not.2 hvalid), if_neg (not_not.2 hsame), if_neg (not_not.2 htid),
    if_neg (not_not.2 hzero), if_neg (not_not.2 hinit), htid]
  rfl

/-- The table is still in order. -/
lemma TableOk.roundStart (h : TableOk s) (hidle : s.threads.thread s.idleThread = some idle) :
    TableOk (roundStart s idle) := by
  obtain ⟨hthreads, -, -, hidleThread, -, hinit, hinfo⟩ := roundStart_fields idle h.idle_ne
  obtain ⟨t, ht, hvalid, -⟩ := h.idle_tid
  obtain rfl : idle = t := by simpa using hidle.symm.trans ht
  refine ⟨?_, ?_, ?_, ?_, ?_, ?_, ?_, ?_⟩
  · rw [hinfo, h.initialized]
  · rw [hinfo, h.policy]
  · rw [hidleThread, hinit, h.init]
  · rw [hthreads, hidleThread]
    exact h.idleSlot
  · rw [hthreads, hidleThread]
    exact ⟨_, Threads.set_thread_same, hvalid⟩
  · intro ptr
    rw [hthreads, isSome_set hidle]
    exact h.structures ptr
  · rw [hthreads]
    exact h.distinct
  · intro i u hi hu huvalid
    rw [hthreads, Threads.set_threadList] at hu
    by_cases hhead : s.threads.threadList i = s.idleThread
    · rw [hhead, Threads.set_thread_same] at hu
      obtain rfl : stabilized idle = u := by simpa using hu
      exact h.tids i idle hi (by rw [hhead, hidle]) huvalid
    · rw [Threads.set_thread_of_ne hhead] at hu
      exact h.tids i u hi hu huvalid

lemma mem_slots {i : ℕ} : i ∈ slotsFrom 1 ↔ 1 ≤ i ∧ (i : ℤ) < THREAD_COUNT_MAX := by
  simp only [slotsFrom, THREAD_COUNT_MAX, List.mem_range'_1]
  omega

variable (idle) in
/-- Before the loop only the idle thread's structure is written. -/
lemma TableOk.roundStart_slot (h : TableOk s) {i : ℕ} (hi : i ∈ slotsFrom 1) :
    (Gramado.roundStart s idle).threads.thread ((Gramado.roundStart s idle).threads.threadList i)
      = s.threads.thread (s.threads.threadList i) := by
  obtain ⟨hthreads, -⟩ := roundStart_fields idle h.idle_ne
  obtain ⟨hpos, hlt⟩ := mem_slots.1 hi
  rw [hthreads, Threads.set_threadList]
  refine Threads.set_thread_of_ne fun heq => ?_
  have hne : s.threads.threadList i ≠ 0 := by
    rw [heq]
    exact h.idle_ne
  rw [← h.idleSlot] at heq
  have hzero := h.distinct i 0 hlt (by simp [THREAD_COUNT_MAX]) heq hne
  omega

/-- The end of the function, after the loop. -/
lemma finishRound_eq {s₀ s₁ : SchedState} {n : ℕ} (h : TableOk s₀) (hinv : RoundInv s₀ n s₁)
    (hn : (n : ℤ) < THREAD_COUNT_MAX) (hcurrentq : s₀.currentq = s₀.idleThread) :
    ∃ s₂, finishRound s₁ = .ok s₂ ∧ s₂.currentq = s₂.idleThread ∧
      s₂.idleThread = s₀.idleThread ∧ s₂.threads.threadList = s₀.threads.threadList ∧
      (∃ t, s₂.threads.thread s₂.idleThread = some t ∧ t.Valid ∧ t.tid = SYSTEM_THRESHOLD_TID) ∧
      (∀ i, readyAt s₂ i = readyAt s₁ i) ∧
      Chain (nextOf s₂.threads) (· = 0) s₀.idleThread (roundPtrs s₀ n) := by
  obtain ⟨p, hp, hchain⟩ := hinv.close h hn
  refine ⟨{ s₁.setThread s₁.p6q { p with next := 0 } with
    info := { s₁.info with rrRoundCounter := ulongAdd s₁.info.rrRoundCounter 1 } }, ?_, ?_, ?_, ?_,
    ?_, ?_, hchain⟩
  · rw [finishRound, Threads.deref_eq_ok.2 hp, ok_bind]
    rfl
  · exact (hinv.kept.currentq.trans hcurrentq).trans hinv.kept.idleThread.symm
  · exact hinv.kept.idleThread
  · exact hinv.kept.threadList
  · have hidle : (s₁.setThread s₁.p6q { p with next := 0 }).idleThread = s₀.idleThread :=
      hinv.kept.idleThread
    rw [hidle]
    exact valid_link hp 0 hinv.idle
  · intro i
    exact readyPtr_link hp 0

lemma slotsFrom_one : slotsFrom 1 = List.range' 1 1023 := rfl

/-- The list of the pass, from the idle thread on. -/
lemma TableOk.roundPtrs_eq {s₀ : SchedState} (h : TableOk s₀) :
    roundPtrs s₀ 1023
      = s₀.idleThread :: ((slotsFrom 1).filter (dueAt s₀)).map s₀.threads.threadList := by
  rw [roundPtrs, roundSlots, List.map_cons, h.idleSlot, slotsFrom_one]

/-- Where no due thread is about to exit, the due threads stay. -/
lemma dueAt_eq_staysAt {s₀ : SchedState} {i : ℕ}
    (hexit : ∀ t, s₀.threads.thread (s₀.threads.threadList i) = some t → t.Due s₀.jiffies →
      t.exitInProgress ≠ TRUE) : dueAt s₀ i = staysAt s₀ i := by
  rw [dueAt, staysAt]
  cases ht : s₀.threads.thread (s₀.threads.threadList i) with
  | none => rfl
  | some t =>
      rw [Option.any_some, Option.any_some]
      exact decide_eq_decide.2 ⟨fun hdue => ⟨hdue, hexit t ht hdue⟩, And.left⟩

/-- If nothing ends, the list is built. -/
lemma NothingEnds.roundBuilt (hends : NothingEnds s) (h : TableOk s) (garbage : ℕ) :
    RoundBuilt garbage s := by
  obtain ⟨idle, hidle, -⟩ := h.idle_tid
  obtain ⟨-, hp6q, hcurrentq, hidleThread, hjiffies, -⟩ := roundStart_fields idle h.idle_ne
  have h₀ := h.roundStart hidle
  have hslot : ∀ i ∈ slotsFrom 1, _ := fun i hi => h.roundStart_slot idle hi
  generalize hs₀ : roundStart s idle = s₀ at hp6q hcurrentq hidleThread hjiffies h₀ hslot
  have hmax : ((1023 : ℕ) : ℤ) < THREAD_COUNT_MAX := by decide
  obtain ⟨s₁, hrun, hinv⟩ := round_run h₀ (hp6q.trans hidleThread.symm) hmax (by
    intro i hpos hle t ht
    have hi : i ∈ slotsFrom 1 := mem_slots.2 ⟨hpos, by omega⟩
    exact hends.noZombie i hi t ((hslot i hi).symm.trans ht))
  obtain ⟨s₂, hfinish, hhead, hidle₂, hlist, hvalid, hready, hchain⟩ :=
    finishRound_eq h₀ hinv hmax (hcurrentq.trans hidleThread.symm)
  refine ⟨SYSTEM_THRESHOLD_TID, s₂, ?_, hhead, hvalid, ?_⟩
  · rw [schedulerRr_eq h hidle, hs₀, wakeInit, hjiffies,
      if_neg (not_le.2 (hends.idleSleeps idle hidle)), ok_bind, slotsFrom_one, hrun, ok_bind,
      hfinish, ok_bind]
  · rw [hhead, hidle₂, hlist, ← List.filter_congr fun i hi => ?_, ← h₀.roundPtrs_eq]
    · exact hchain
    · obtain ⟨hpos, hlt⟩ := mem_slots.1 hi
      rw [hready, hinv.passed i hpos (by simp only [THREAD_COUNT_MAX] at hlt; omega)]
      refine dueAt_eq_staysAt fun t ht hdue => ?_
      rw [hslot i hi] at ht
      rw [hjiffies] at hdue
      exact hends.noExit i hi t ht hdue

/-- If the list is built, nothing ends. -/
lemma RoundBuilt.nothingEnds (h : TableOk s) (hbuilt : ∀ garbage, RoundBuilt garbage s) :
    NothingEnds s := by
  obtain ⟨idle, hidle, -⟩ := h.idle_tid
  obtain ⟨hthreads, hp6q, hcurrentq, hidleThread, hjiffies, -⟩ :=
    roundStart_fields idle h.idle_ne
  have h₀ := h.roundStart hidle
  have hslot : ∀ i ∈ slotsFrom 1, _ := fun i hi => h.roundStart_slot idle hi
  obtain ⟨tid, s₂, hok, hhead, -, hchain⟩ := hbuilt 0
  rw [schedulerRr_eq h hidle, wakeInit, hjiffies] at hok
  generalize hs₀ : roundStart s idle = s₀ at *
  -- the cursor has no value, so the idle thread must not be woken
  have hsleeps : s.jiffies < idle.wakeJiffy := by
    by_contra hwake
    have hderef : s₀.threads.deref 0 = .error .badPointer := by
      simp only [Threads.deref, h₀.null]
    rw [if_pos (not_lt.1 hwake), hderef] at hok
    exact absurd hok (by simp)
  have hmax : ((1023 : ℕ) : ℤ) < THREAD_COUNT_MAX := by decide
  rw [if_neg (not_le.2 hsleeps), ok_bind, slotsFrom_one] at hok
  cases hrun : runs rrSlot s₀ (List.range' 1 1023) with
  | error f => simp [hrun] at hok
  | ok s₁ =>
      have halive := round_alive h₀ (hp6q.trans hidleThread.symm) hmax hrun
      obtain ⟨s₁', hrun', hinv⟩ := round_run h₀ (hp6q.trans hidleThread.symm) hmax halive
      obtain rfl : s₁ = s₁' := by simpa using hrun.symm.trans hrun'
      obtain ⟨s₂', hfinish, -, hidle₂, hlist, -, hready, hchain'⟩ :=
        finishRound_eq h₀ hinv hmax (hcurrentq.trans hidleThread.symm)
      rw [hrun, ok_bind, hfinish, ok_bind] at hok
      obtain ⟨-, rfl⟩ : SYSTEM_THRESHOLD_TID = tid ∧ s₂' = s₂ := by simpa using hok
      rw [hhead, hidle₂, hlist] at hchain
      have hsame := hchain'.unique hchain
      rw [h₀.roundPtrs_eq] at hsame
      refine ⟨?_, ?_, ?_⟩
      · intro t ht
        obtain rfl : idle = t := by simpa using hidle.symm.trans ht
        exact hsleeps
      · intro i hi t ht
        obtain ⟨hpos, hlt⟩ := mem_slots.1 hi
        simp only [THREAD_COUNT_MAX] at hlt
        exact halive i hpos (by omega) t ((hslot i hi).trans ht)
      · intro i hi t ht hdue
        -- a due thread is in the list, so it is ready at the end
        obtain ⟨hpos, hlt⟩ := mem_slots.1 hi
        have hdueAt : dueAt s₀ i = true := by
          rw [dueAt, hslot i hi, ht, hjiffies, Option.any_some, decide_eq_true hdue]
        have hmem : s₀.threads.threadList i
            ∈ ((slotsFrom 1).filter (readyAt s₂')).map s₀.threads.threadList := by
          rw [← (List.cons.inj hsame).2]
          exact List.mem_map_of_mem (List.mem_filter.2 ⟨hi, hdueAt⟩)
        obtain ⟨j, hj, heq⟩ := List.mem_map.1 hmem
        have hready₂ : readyAt s₂' i = true := by
          rw [readyAt, hlist, ← heq, ← hlist]
          exact (List.mem_filter.1 hj).2
        rw [hready, hinv.passed i hpos (by simp only [THREAD_COUNT_MAX] at hlt; omega), staysAt,
          hslot i hi, ht, Option.any_some] at hready₂
        exact (of_decide_eq_true hready₂).2

/-- **When the list of a round is what it is for.**  For every table in order, `__scheduler_rr`
builds it, whatever is in the cursor before the loop, if and only if nothing is to end in this pass
and the idle thread sleeps. -/
theorem roundBuilt_iff_nothingEnds (s : SchedState) (h : TableOk s) :
    (∀ garbage, RoundBuilt garbage s) ↔ NothingEnds s :=
  ⟨RoundBuilt.nothingEnds h, fun hends garbage => hends.roundBuilt h garbage⟩

end Round

/-! ## A table with two threads -/

/-- The idle thread, which sleeps until 10, and the thread `t` in slot 1. -/
def twoThreads (jiffies : ℕ) (t : Thread) : SchedState where
  threads :=
    { thread := fun ptr =>
        if ptr = 0x1000 then some { newThread 0 with wakeJiffy := 10 }
        else if ptr = 0x2000 then some t
        else none
      threadList := fun i => if i = 0 then 0x1000 else if i = 1 then 0x2000 else 0 }
  info := ⟨TRUE, SCHED_POLICY_RR, 0, 0⟩
  idleThread := 0x1000
  threadsCounter := 2
  initThread := 0x1000
  systemState := SYSTEM_RUNNING
  jiffies := jiffies
  foregroundThread := 0
  displayServer := ⟨FALSE, 0⟩
  p1q := 0
  p2q := 0
  p3q := 0
  p4q := 0
  p5q := 0
  p6q := 0
  currentq := 0
  qList _ := 0

lemma twoThreads_ok (jiffies : ℕ) {t : Thread} (htid : t.tid = 1) : TableOk (twoThreads jiffies t) where
  initialized := rfl
  policy := rfl
  init := rfl
  idleSlot := rfl
  idle := ⟨_, rfl, rfl, rfl⟩
  structures ptr := by
    simp only [twoThreads, THREAD_COUNT_MAX]
    constructor
    · intro hsome
      split_ifs at hsome with hidle hself
      · exact ⟨by omega, 0, by decide, by simp [hidle]⟩
      · exact ⟨by omega, 1, by decide, by simp [hself]⟩
      · simp at hsome
    · rintro ⟨hne, i, -, rfl⟩
      by_cases hzero : i = 0
      · simp [hzero]
      · by_cases hone : i = 1
        · simp [hone]
        · simp [hzero, hone] at hne
  distinct i j _ _ heq hne := by
    simp only [twoThreads] at heq hne
    split_ifs at heq hne <;> omega
  tids i u _ hu hvalid := by
    simp only [twoThreads] at hu
    by_cases hzero : i = 0
    · simp only [hzero, if_true] at hu
      obtain rfl : _ = u := by simpa using hu
      rw [hzero]
      rfl
    · by_cases hone : i = 1
      · simp only [hone] at hu
        obtain rfl : t = u := by simpa using hu
        rw [htid, hone]
        rfl
      · simp [hzero, hone] at hu

theorem roundBuilt_iff_nothingEnds_twoThreads :
    (∀ garbage, RoundBuilt garbage (twoThreads 5 { newThread 1 with state := .READY })) ↔
      NothingEnds (twoThreads 5 { newThread 1 with state := .READY }) :=
  roundBuilt_iff_nothingEnds (twoThreads 5 { newThread 1 with state := .READY })
    (twoThreads_ok 5 rfl)

/-- At the time at which the idle thread is to be woken, the cursor is followed before it has a
value.  A zombie makes the pass follow a null pointer.  A ready thread that is about to exit is
linked and becomes a zombie afterwards. -/
theorem roundBuilt_fails :
    (¬ ∀ garbage, RoundBuilt garbage (twoThreads 10 { newThread 1 with state := .READY })) ∧
      (¬ ∀ garbage, RoundBuilt garbage (twoThreads 5 { newThread 1 with state := .ZOMBIE })) ∧
      ¬ ∀ garbage, RoundBuilt garbage
        (twoThreads 5 { newThread 1 with state := .READY, exitInProgress := TRUE }) := by
  have hslot : 1 ∈ slotsFrom 1 := mem_slots.2 ⟨le_rfl, by decide⟩
  refine ⟨fun h => ?_, fun h => ?_, fun h => ?_⟩
  · have hends := RoundBuilt.nothingEnds (twoThreads_ok 10 rfl) h
    exact absurd (hends.idleSleeps _ rfl) (by decide)
  · have hends := RoundBuilt.nothingEnds (twoThreads_ok 5 rfl) h
    exact hends.noZombie 1 hslot _ rfl ⟨⟨rfl, rfl⟩, rfl⟩
  · have hends := RoundBuilt.nothingEnds (twoThreads_ok 5 rfl) h
    exact hends.noExit 1 hslot _ rfl ⟨⟨rfl, rfl⟩, Or.inl rfl⟩ rfl

/-! ## `scheduler` -/

/-- The wrapper adds nothing to a round that is built. -/
theorem scheduler_builds {s : SchedState} (h : TableOk s) (hrunning : s.systemState = SYSTEM_RUNNING)
    (hcounter : s.threadsCounter ≠ 0) (hends : NothingEnds s) (garbage : ℕ) :
    ∃ tid s', scheduler garbage s = .ok (tid, s') ∧ s'.systemState = SYSTEM_RUNNING ∧
      ListBuilt tid s' := by
  have h' : TableOk { s with systemState := SYSTEM_SCHEDULING } :=
    ⟨h.initialized, h.policy, h.init, h.idleSlot, h.idle, h.structures, h.distinct, h.tids⟩
  have hends' : NothingEnds { s with systemState := SYSTEM_SCHEDULING } :=
    ⟨hends.idleSleeps, hends.noZombie, hends.noExit⟩
  obtain ⟨tid, s', hok, hbuilt⟩ := hends'.roundBuilt h' garbage
  obtain ⟨t, ht, hvalid, htid⟩ := hbuilt.idle
  refine ⟨tid, { s' with systemState := SYSTEM_RUNNING }, ?_, rfl,
    hbuilt.head, hbuilt.idle, hbuilt.chain⟩
  have hne : s'.idleThread ≠ 0 := by
    have hstart := hbuilt.chain
    rw [hbuilt.head] at hstart
    exact hstart.2.1
  dsimp only [scheduler]
  rw [if_neg (not_not.2 hrunning), if_neg hcounter, if_neg (not_not.2 h.initialized),
    if_pos h.policy, hok, ok_bind]
  dsimp only
  rw [if_neg hne, Threads.deref_eq_ok.2 ht, ok_bind, if_neg (not_not.2 hvalid.2),
    if_neg (not_not.2 htid.symm)]

end Gramado
