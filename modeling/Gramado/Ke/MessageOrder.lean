import Gramado.Ke.MessageQueue

/-!
# The order of delivery

The runs of this module are any interleaving of `ipc_post_message_to_tid`,
`ipc_post_message_to_tid2` and `sys_get_message`, by any threads.

* `FifoDelivery` — whatever number of retrievals a thread makes from here on, it gets its messages
  in the order of posting.
* `PostsInFront` — a post finds no message waiting behind the tail of the receiver's queue, that is
  in the slots from the tail on to the head.

A retrieval moves the head on from an empty slot, so that the tail can fall behind the head:
`fifoDelivery_iff_postsInFront` shows that this is all that can spoil the order.
-/

namespace Gramado

open StepRun RingQueue

/-- The calls of a queue: posts, and retrievals at the head. -/
def MsgEvent.IsQueueCall (e : MsgEvent) : Prop :=
  ∀ ubuf index restart, e.call ≠ .get2 ubuf index restart

/-- An event of a run without `sys_get_message2`. -/
abbrev QueueEvent := {e : MsgEvent // e.IsQueueCall}

/-- One call. -/
def queueStep (t : MsgTrace) (e : QueueEvent) : Except Fault MsgTrace := msgStep t e.1

/-- **Retrievals return the messages in the order of posting**, those made so far and the `n` next
ones of any thread. -/
def FifoDelivery (t : MsgTrace) : Prop :=
  ∀ tid ptr u, InTable t.ipc.threads tid ptr u → ∀ jiffies ubuf n, ubuf ≠ 0 →
    ∃ t', runs msgStep t (retrievals tid jiffies ubuf n) = .ok t' ∧
      (t'.delivered ptr).Sublist (t'.posted ptr).zipIdx

/-- A post of a positive code finds no message in the slots behind the receiver's tail. -/
def PostsInFront (t : MsgTrace) (e : QueueEvent) : Prop :=
  AtReceiver (fun x u => 0 < x.msg →
    Ring.behind MSG_QUEUE_MAX u.messageAt u.msgQueueHead u.msgQueueTail = []) t e.1

/-! ## Deliveries and the abstract queue -/

/-- The messages behind the tail, with their numbers and without. -/
lemma behind_mailbox_eq_nil {t : MsgTrace} {ptr : ℕ} {u : Thread} :
    Ring.behind MSG_QUEUE_MAX (mailbox t ptr u).slot (mailbox t ptr u).head
        (mailbox t ptr u).tail = [] ↔
      Ring.behind MSG_QUEUE_MAX u.messageAt u.msgQueueHead u.msgQueueTail = [] := by
  simp only [Ring.behind, mailbox, mailboxOf, List.filterMap_eq_nil_iff, Option.map_eq_none_iff]

/-- **The order of deliveries is that of the abstract queue.** -/
lemma fifoDelivery_iff {t : MsgTrace} (hwf : Everywhere (Wf MSG_QUEUE_MAX) t) :
    FifoDelivery t ↔ Everywhere (InOrder MSG_QUEUE_MAX) t := by
  constructor
  · intro h tid ptr u hu
    obtain ⟨t', hrun, hsub⟩ := h tid ptr u hu 0 1 MSG_QUEUE_MAX one_ne_zero
    obtain ⟨t'', hrun', hdelivered, hposted⟩ :=
      runs_retrievals_all 0 one_ne_zero le_rfl hu (hwf tid ptr u hu)
    obtain rfl : t' = t'' := by simpa using hrun.symm.trans hrun'
    rwa [hdelivered, hposted] at hsub
  · intro h tid ptr u hu jiffies ubuf n hubuf
    obtain ⟨t', u', hrun, -, hmailbox⟩ := runs_retrievals jiffies hubuf n hu
    refine ⟨t', hrun, ?_⟩
    have hposted : t'.posted ptr = t.posted ptr :=
      (congrArg Mailbox.posted hmailbox).trans (polls_posted _)
    have horder : (history MSG_QUEUE_MAX (mailbox t' ptr u')).Sublist (t.posted ptr).zipIdx := by
      rw [hmailbox, history_polls (hwf tid ptr u hu)]
      exact h tid ptr u hu
    rw [hposted]
    exact (List.sublist_append_left _ _).trans horder

/-- The invariant of the runs. -/
def OrderedQueue (b : Mailbox Message) : Prop := Wf MSG_QUEUE_MAX b ∧ InOrder MSG_QUEUE_MAX b

lemma OrderedQueue.poll {b : Mailbox Message} (h : OrderedQueue b) :
    OrderedQueue (poll MSG_QUEUE_MAX b) :=
  ⟨h.1.poll, h.2.congr (history_poll h.1) rfl⟩

lemma fifoDelivery_of_ordered {t : MsgTrace} (h : Everywhere OrderedQueue t) : FifoDelivery t :=
  (fifoDelivery_iff fun tid ptr u hu => (h tid ptr u hu).1).2 fun tid ptr u hu => (h tid ptr u hu).2

lemma FreshQueue.ordered {b : Mailbox Message} (h : FreshQueue b) : OrderedQueue b := by
  refine ⟨h.wf, ?_⟩
  rw [InOrder, h.history]
  exact List.nil_sublist _

/-! ## One call -/

variable {t t' : MsgTrace} {e : QueueEvent}

/-- **One call** leads to ordered queues if it posts in front, and to deliveries in order only
then. -/
lemma ordered_step (h : Everywhere OrderedQueue t) (hs : queueStep t e = .ok t') :
    (FifoDelivery t' ↔ PostsInFront t e) ∧ (PostsInFront t e → Everywhere OrderedQueue t') := by
  obtain ⟨e, hcall⟩ := e
  have hsteps : Steps t t' e := msgStep_steps hs
  -- a call that does not post has nothing to meet
  have hquiet : e.accepted = none → Everywhere OrderedQueue t' →
      (FifoDelivery t' ↔ PostsInFront t ⟨e, hcall⟩) ∧
        (PostsInFront t ⟨e, hcall⟩ → Everywhere OrderedQueue t') := by
    intro haccepted h'
    exact ⟨iff_of_true (fifoDelivery_of_ordered h') (atReceiver_of_quiet haccepted), fun _ => h'⟩
  cases hsteps with
  | idle _ haccepted hidle => exact hquiet haccepted (hidle.everywhere h)
  | posts _ receiverTid x ptr haccepted hacts =>
      obtain ⟨u, u', hu, hu', hmailbox⟩ := hacts.self
      have hqueue := h _ ptr u hu
      have hwf : Everywhere (Wf MSG_QUEUE_MAX) t' :=
        hacts.everywhere (fun tid q v hv => (h tid q v hv).1) fun b hb => hb.put
      have horder := hacts.everywhere_iff hu fun tid q v hv => (h tid q v hv).2
      rw [inOrder_put_iff hqueue.1 hqueue.2, behind_mailbox_eq_nil] at horder
      rw [fifoDelivery_iff hwf, PostsInFront, atReceiver_iff haccepted hu, horder]
      exact ⟨Iff.rfl, fun hfront tid q v hv => ⟨hwf tid q v hv, horder.2 hfront tid q v hv⟩⟩
  | polls currentThread jiffies ubuf ptr hacts =>
      exact hquiet rfl (hacts.everywhere h fun b hb => hb.poll)
  | jumps => exact absurd rfl (hcall _ _ _)
  | skips => exact absurd rfl (hcall _ _ _)

/-! ## Runs -/

/-- **When messages are delivered in order.**  From fresh queues, for every interleaving of posts
and retrievals: in every state of the run all retrievals are in the order of posting if and only if
every post of the run finds no message behind the receiver's tail. -/
theorem fifoDelivery_iff_postsInFront (t : MsgTrace) (es : List QueueEvent)
    (hfresh : Everywhere FreshQueue t) :
    Along queueStep FifoDelivery t es ↔ Meets queueStep PostsInFront t es :=
  along_iff_meets (Everywhere OrderedQueue) (fun _ => fifoDelivery_of_ordered)
    (fun _ _ _ h hs => (ordered_step h hs).1) (fun _ _ _ h hC hs => (ordered_step h hs).2 hC) es t
    fun tid ptr u hu => (hfresh tid ptr u hu).ordered

/-! ## A poll before the posts -/

/-- A retrieval by thread 5. -/
def pollEvent : QueueEvent := ⟨⟨5, 100, .get 0x8000⟩, by simp [MsgEvent.IsQueueCall]⟩

/-- A post of the code `msg` to thread 5. -/
def postEvent (msg : ℤ) : QueueEvent :=
  ⟨⟨5, 100, .post2 7 5 msg 0 0 0 0⟩, by simp [MsgEvent.IsQueueCall]⟩

theorem fifoDelivery_iff_postsInFront_oneThread :
    Along queueStep FifoDelivery oneThread [pollEvent, postEvent 11, pollEvent] ↔
      Meets queueStep PostsInFront oneThread [pollEvent, postEvent 11, pollEvent] :=
  fifoDelivery_iff_postsInFront oneThread _ oneThread_fresh

/-- The state after a retrieval from the empty queue and two posts. -/
def pollThenPosts : MsgTrace :=
  match runs queueStep oneThread [pollEvent, postEvent 11, postEvent 12] with
  | .ok t => t
  | .error _ => oneThread

lemma pollThenPosts_pending : ∃ u, InTable pollThenPosts.ipc.threads 5 0x1000 u ∧
    Wf MSG_QUEUE_MAX (mailbox pollThenPosts 0x1000 u) ∧
    (history MSG_QUEUE_MAX (mailbox pollThenPosts 0x1000 u)).map (fun d => (d.1.msg, d.2))
      = [(12, 1), (11, 0)] :=
  ⟨_, ⟨by decide, by decide, rfl, rfl, rfl, rfl⟩, ⟨by decide, by decide⟩, by decide +kernel⟩

/-- A retrieval finds the queue empty and moves the head to slot 1.  Of the two messages posted
then, the second one, in slot 1, is delivered 63 retrievals before the first one. -/
theorem fifoDelivery_fails :
    ¬ Along queueStep FifoDelivery oneThread [pollEvent, postEvent 11, postEvent 12] ∧
      ∃ t t', runs queueStep oneThread [pollEvent, postEvent 11, postEvent 12] = .ok t ∧
        runs msgStep t (retrievals 5 100 0x8000 64) = .ok t' ∧
        (t'.delivered 0x1000).map (fun d => (d.1.msg, d.2)) = [(12, 1), (11, 0)] := by
  obtain ⟨u, hu, hwf, hpending⟩ := pollThenPosts_pending
  obtain ⟨t', hrun, hdelivered, -⟩ :=
    runs_retrievals_all 100 (show 0x8000 ≠ 0 by decide) (show MSG_QUEUE_MAX ≤ 64 from le_rfl) hu hwf
  refine ⟨fun h => ?_, pollThenPosts, t', rfl, hrun, by rw [hdelivered, hpending]⟩
  have hfifo : FifoDelivery pollThenPosts := ((h.2 _ rfl).2 _ rfl).2 _ rfl
  obtain ⟨t'', hrun', hsub⟩ := hfifo 5 0x1000 u hu 100 0x8000 64 (by decide)
  obtain rfl : t' = t'' := by simpa using hrun.symm.trans hrun'
  have hnumbers := hsub.map Prod.snd
  rw [List.zipIdx_map_snd] at hnumbers
  have hsorted := (List.pairwise_lt_range' (s := 0)).sublist hnumbers
  have hdisorder : (t'.delivered 0x1000).map Prod.snd = [1, 0] := by
    have hsecond := congrArg (List.map Prod.snd) hpending
    rw [List.map_map] at hsecond
    rw [hdelivered]
    exact hsecond
  rw [hdisorder] at hsorted
  exact absurd hsorted (by decide)

end Gramado
