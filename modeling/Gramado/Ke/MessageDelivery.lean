import Gramado.Ke.MessageQueue

/-!
# Delivery of every message

The runs of this module are any interleaving of all four functions, with any index and restart flag
of `sys_get_message2`.

* `AllDelivered` — with enough retrievals a thread gets every message that was accepted for it,
  each one once.
* `PostsToFree` — an accepted post has a positive code and finds the slot at the receiver's tail
  without a message.

Retrievals of either kind lose nothing.  The ring has no full test, its slots count as empty when
their code is 0, and a restart puts the tail in front of pending messages:
`allDelivered_iff_postsToFree` gives the condition that covers the three.
-/

namespace Gramado

open StepRun RingQueue

/-- **Every accepted post is delivered exactly once**, so far or by the next retrievals, once there
are enough of them. -/
def AllDelivered (t : MsgTrace) : Prop :=
  ∀ tid ptr u, InTable t.ipc.threads tid ptr u →
    ∀ jiffies ubuf n, ubuf ≠ 0 → MSG_QUEUE_MAX ≤ n →
      ∃ t', runs msgStep t (retrievals tid jiffies ubuf n) = .ok t' ∧
        (t'.delivered ptr).Perm (t'.posted ptr).zipIdx

/-- An accepted post has a positive code and overwrites no message. -/
def PostsToFree : MsgTrace → MsgEvent → Prop :=
  AtReceiver fun x u => 0 < x.msg ∧ u.messageAt u.msgQueueTail = none

/-! ## Deliveries and the abstract queue -/

/-- **What is delivered is what the abstract queue has.** -/
lemma allDelivered_iff {t : MsgTrace} (hwf : Everywhere (Wf MSG_QUEUE_MAX) t) :
    AllDelivered t ↔ Everywhere (Complete MSG_QUEUE_MAX) t := by
  constructor
  · intro h tid ptr u hu
    obtain ⟨t', hrun, hperm⟩ := h tid ptr u hu 0 1 MSG_QUEUE_MAX one_ne_zero le_rfl
    obtain ⟨t'', hrun', hdelivered, hposted⟩ :=
      runs_retrievals_all 0 one_ne_zero le_rfl hu (hwf tid ptr u hu)
    obtain rfl : t' = t'' := by simpa using hrun.symm.trans hrun'
    rwa [hdelivered, hposted] at hperm
  · intro h tid ptr u hu jiffies ubuf n hubuf hn
    obtain ⟨t', hrun, hdelivered, hposted⟩ :=
      runs_retrievals_all jiffies hubuf hn hu (hwf tid ptr u hu)
    refine ⟨t', hrun, ?_⟩
    rw [hdelivered, hposted]
    exact h tid ptr u hu

/-- The invariant of the runs. -/
def CompleteQueue (b : Mailbox Message) : Prop := Wf MSG_QUEUE_MAX b ∧ Complete MSG_QUEUE_MAX b

lemma allDelivered_of_complete {t : MsgTrace} (h : Everywhere CompleteQueue t) : AllDelivered t :=
  (allDelivered_iff fun tid ptr u hu => (h tid ptr u hu).1).2 fun tid ptr u hu => (h tid ptr u hu).2

lemma FreshQueue.complete {b : Mailbox Message} (h : FreshQueue b) : CompleteQueue b := by
  refine ⟨h.wf, ?_⟩
  rw [Complete, h.history, h.posted]
  exact List.Perm.nil

/-! ## Retrievals -/

section Retrievals

variable {b : Mailbox Message} {restart : ℤ} {head : ℕ}

variable (restart head) in
lemma finishSlots_lt (hb : Wf MSG_QUEUE_MAX b) :
    (finishSlots restart head b.tail).1 < MSG_QUEUE_MAX ∧
      (finishSlots restart head b.tail).2 < MSG_QUEUE_MAX := by
  have hpos : 0 < MSG_QUEUE_MAX := by decide
  simp only [finishSlots]
  split_ifs
  · exact ⟨hpos, hpos⟩
  · exact ⟨Ring.next_lt hpos, hb.tail_lt⟩

lemma CompleteQueue.poll (h : CompleteQueue b) : CompleteQueue (poll MSG_QUEUE_MAX b) :=
  ⟨h.1.poll, h.2.congr (by rw [history_poll h.1]) rfl⟩

/-- A retrieval with an index in range. -/
lemma CompleteQueue.takeAt (h : CompleteQueue b) (hhead : head < MSG_QUEUE_MAX) :
    CompleteQueue (takeAt b head (finishSlots restart head b.tail).1
      (finishSlots restart head b.tail).2) := by
  obtain ⟨hfirst, hsecond⟩ := finishSlots_lt restart head h.1
  exact ⟨⟨hfirst, hsecond⟩, h.2.congr (history_takeAt_perm h.1 hhead hfirst) rfl⟩

/-- A retrieval with an index out of range. -/
lemma CompleteQueue.move (h : CompleteQueue b) :
    CompleteQueue (move b (finishSlots restart b.head b.tail).1
      (finishSlots restart b.head b.tail).2) := by
  obtain ⟨hfirst, hsecond⟩ := finishSlots_lt restart b.head h.1
  exact ⟨⟨hfirst, hsecond⟩, h.2.congr (history_move_perm h.1 hfirst) rfl⟩

end Retrievals

/-! ## One call -/

variable {t t' : MsgTrace} {e : MsgEvent}

/-- **One call** loses nothing if its post meets the condition, and only then. -/
lemma complete_step (h : Everywhere CompleteQueue t) (hs : msgStep t e = .ok t') :
    (AllDelivered t' ↔ PostsToFree t e) ∧ (PostsToFree t e → Everywhere CompleteQueue t') := by
  -- a call that does not post has nothing to meet
  have hquiet : e.accepted = none → Everywhere CompleteQueue t' →
      (AllDelivered t' ↔ PostsToFree t e) ∧ (PostsToFree t e → Everywhere CompleteQueue t') := by
    intro haccepted h'
    exact ⟨iff_of_true (allDelivered_of_complete h') (atReceiver_of_quiet haccepted), fun _ => h'⟩
  cases msgStep_steps hs with
  | idle _ haccepted hidle => exact hquiet haccepted (hidle.everywhere h)
  | posts _ receiverTid x ptr haccepted hacts =>
      obtain ⟨u, u', hu, hu', hmailbox⟩ := hacts.self
      have hqueue := h _ ptr u hu
      have hwf : Everywhere (Wf MSG_QUEUE_MAX) t' :=
        hacts.everywhere (fun tid q v hv => (h tid q v hv).1) fun b hb => hb.put
      have hcomplete := hacts.everywhere_iff hu fun tid q v hv => (h tid q v hv).2
      have hempty : (mailbox t ptr u).slot (mailbox t ptr u).tail = none ↔
          u.messageAt u.msgQueueTail = none := Option.map_eq_none_iff
      rw [complete_put_iff hqueue.1 hqueue.2, hempty] at hcomplete
      rw [allDelivered_iff hwf, PostsToFree, atReceiver_iff haccepted hu, hcomplete]
      exact ⟨Iff.rfl, fun hfree tid q v hv => ⟨hwf tid q v hv, hcomplete.2 hfree tid q v hv⟩⟩
  | polls currentThread jiffies ubuf ptr hacts =>
      exact hquiet rfl (hacts.everywhere h fun b hb => hb.poll)
  | jumps currentThread jiffies ubuf ptr index restart hlow hhigh hacts =>
      exact hquiet rfl (hacts.everywhere h fun b hb => hb.takeAt (by omega))
  | skips currentThread jiffies ubuf ptr index restart hacts =>
      exact hquiet rfl (hacts.everywhere h fun b hb => hb.move)

/-! ## Runs -/

/-- **When every message is delivered.**  From fresh queues, for every interleaving of posts and
retrievals of both kinds: in every state of the run every accepted post is delivered exactly once
by enough retrievals if and only if every accepted post of the run has a positive code and finds no
message in the slot it writes. -/
theorem allDelivered_iff_postsToFree (t : MsgTrace) (es : List MsgEvent)
    (hfresh : Everywhere FreshQueue t) :
    Along msgStep AllDelivered t es ↔ Meets msgStep PostsToFree t es :=
  along_iff_meets (Everywhere CompleteQueue) (fun _ => allDelivered_of_complete)
    (fun _ _ _ h hs => (complete_step h hs).1) (fun _ _ _ h hC hs => (complete_step h hs).2 hC) es t
    fun tid ptr u hu => (hfresh tid ptr u hu).complete

theorem allDelivered_iff_postsToFree_oneThread :
    Along msgStep AllDelivered oneThread
        [⟨5, 100, .post 7 5 11 0 0⟩, ⟨5, 101, .get2 0x8000 3 1⟩, ⟨5, 102, .get 0x8000⟩] ↔
      Meets msgStep PostsToFree oneThread
        [⟨5, 100, .post 7 5 11 0 0⟩, ⟨5, 101, .get2 0x8000 3 1⟩, ⟨5, 102, .get 0x8000⟩] :=
  allDelivered_iff_postsToFree oneThread _ oneThread_fresh

/-! ## Lost messages -/

/-- A queue with fewer messages than were posted has lost one. -/
lemma not_allDelivered {t : MsgTrace} {u : Thread} (tid ptr : ℕ)
    (hu : InTable t.ipc.threads tid ptr u) (hwf : Wf MSG_QUEUE_MAX (mailbox t ptr u))
    (hlost : (history MSG_QUEUE_MAX (mailbox t ptr u)).length < (t.posted ptr).length) :
    ¬ AllDelivered t := by
  intro h
  obtain ⟨t', hrun, hperm⟩ := h tid ptr u hu 0 1 MSG_QUEUE_MAX one_ne_zero le_rfl
  obtain ⟨t'', hrun', hdelivered, hposted⟩ := runs_retrievals_all 0 one_ne_zero le_rfl hu hwf
  obtain rfl : t' = t'' := by simpa using hrun.symm.trans hrun'
  have hlength := hperm.length_eq
  rw [hdelivered, hposted, List.length_zipIdx] at hlength
  omega

/-- A message with code 0 is accepted and never delivered.  A restart with a message pending puts
the tail back to slot 0, and the next post overwrites the message there. -/
theorem allDelivered_fails :
    ¬ Along msgStep AllDelivered oneThread [⟨5, 100, .post2 7 5 0 0 0 0 0⟩] ∧
      ¬ Along msgStep AllDelivered oneThread
        [⟨5, 100, .post 7 5 11 0 0⟩, ⟨5, 101, .get2 0x8000 3 1⟩, ⟨5, 102, .post 7 5 12 0 0⟩] := by
  constructor
  · intro h
    exact not_allDelivered 5 0x1000 ⟨by decide, by decide, rfl, rfl, rfl, rfl⟩
      ⟨by decide, by decide⟩ (by decide +kernel) (h.2 _ rfl)
  · intro h
    exact not_allDelivered 5 0x1000 ⟨by decide, by decide, rfl, rfl, rfl, rfl⟩
      ⟨by decide, by decide⟩ (by decide +kernel) (((h.2 _ rfl).2 _ rfl).2 _ rfl)

end Gramado
