import Gramado.Lib.Run
import Gramado.Lib.RingQueue
import Gramado.Ke.Message

/-!
# The message queue of a thread, over runs

`MsgTrace` follows any interleaving of posts and retrievals, by any threads.  Besides the kernel's
state it keeps, for every thread structure, the accepted posts in order, the number of the post
that each slot of the queue was last written by, and what the retrievals delivered.

`mailbox` reads the abstract queue of `RingQueue` off the structure, and `msgStep_steps` says that
every call is one step of one thread's mailbox and leaves all others alone.
-/

namespace Gramado

open StepRun RingQueue

/-- A call of the message functions. -/
inductive MsgCall where
  | post2 (senderTid receiverTid msg : ℤ) (long1 long2 long3 long4 : ℕ)
  | post (senderTid receiverTid msg : ℤ) (long1 long2 : ℕ)
  | get (ubuf : ℕ)
  | get2 (ubuf : ℕ) (index restart : ℤ)
  deriving DecidableEq, Repr

/-- A call, made while `currentThread` runs at the time `jiffies`. -/
structure MsgEvent where
  currentThread : ℤ
  jiffies : ℕ
  call : MsgCall
  deriving DecidableEq, Repr

/-- The kernel's state, and for every thread structure: the accepted posts, the number of the post
in each slot, the delivered messages with their numbers. -/
structure MsgTrace where
  ipc : IpcState
  posted : ℕ → List Message
  tag : ℕ → ℕ → ℕ
  delivered : ℕ → List (Message × ℕ)

/-- The state in which the event's call is made. -/
def MsgTrace.at (t : MsgTrace) (e : MsgEvent) : IpcState :=
  { t.ipc with currentThread := e.currentThread, jiffies := e.jiffies }

/-- The slot at the tail of the queue of the structure at `ptr`. -/
def tailSlot (s : Threads) (ptr : ℕ) : ℕ := ((s.thread ptr).map Thread.msgQueueTail).getD 0

/-- The slot at the head. -/
def headSlot (s : Threads) (ptr : ℕ) : ℕ := ((s.thread ptr).map Thread.msgQueueHead).getD 0

/-- The history after a post with the given return value. -/
def MsgTrace.afterPost (t : MsgTrace) (ret receiverTid : ℤ) (m : Message) (s : IpcState) :
    MsgTrace :=
  let ptr := s.threads.threadList (receiverTid % 0x10000).toNat
  if ret = 0 then
    { t with
      ipc := s
      posted := Function.update t.posted ptr (t.posted ptr ++ [m])
      tag := Function.update t.tag ptr (Function.update (t.tag ptr)
        (tailSlot t.ipc.threads ptr) (t.posted ptr).length) }
  else { t with ipc := s }

/-- The history after a retrieval from `slot`. -/
def MsgTrace.afterGet (t : MsgTrace) (currentThread : ℤ) (slot : ℕ → ℕ)
    (m : Option UserMessage) (s : IpcState) : MsgTrace :=
  let ptr := s.threads.threadList currentThread.toNat
  match m with
  | none => { t with ipc := s }
  | some m =>
      { t with
        ipc := s
        delivered := Function.update t.delivered ptr
          (t.delivered ptr ++ [(m.message, t.tag ptr (slot ptr))]) }

/-- One call, and what it adds to the histories. -/
def msgStep (t : MsgTrace) (e : MsgEvent) : Except Fault MsgTrace :=
  match e.call with
  | .post2 senderTid receiverTid msg long1 long2 long3 long4 =>
      match ipcPostMessageToTid2 senderTid receiverTid msg long1 long2 long3 long4 (t.at e) with
      | .error f => .error f
      | .ok (ret, s) => .ok (t.afterPost ret receiverTid
          ⟨0, msg, long1, long2, long3, long4, senderTid % 0x10000, receiverTid % 0x10000⟩ s)
  | .post senderTid receiverTid msg long1 long2 =>
      match ipcPostMessageToTid senderTid receiverTid msg long1 long2 (t.at e) with
      | .error f => .error f
      | .ok (ret, s) => .ok (t.afterPost ret receiverTid
          ⟨0, msg, long1, long2, e.jiffies, e.jiffies, senderTid % 0x10000,
            receiverTid % 0x10000⟩ s)
  | .get ubuf =>
      match sysGetMessage ubuf (t.at e) with
      | .error f => .error f
      | .ok (m, s) => .ok (t.afterGet e.currentThread (headSlot t.ipc.threads) m s)
  | .get2 ubuf index restart =>
      match sysGetMessage2 ubuf index restart (t.at e) with
      | .error f => .error f
      | .ok (m, s) => .ok (t.afterGet e.currentThread (fun _ => index.toNat) m s)

/-! ## The abstract queue of a thread -/

/-- The mailbox that a thread's structure and its histories stand for. -/
def mailboxOf (u : Thread) (tag : ℕ → ℕ) (posted : List Message)
    (delivered : List (Message × ℕ)) : Mailbox Message where
  slot i := (u.messageAt i).map fun m => (m, tag i)
  head := u.msgQueueHead
  tail := u.msgQueueTail
  posted := posted
  delivered := delivered

/-- The mailbox of the structure at `ptr`. -/
def mailbox (t : MsgTrace) (ptr : ℕ) (u : Thread) : Mailbox Message :=
  mailboxOf u (t.tag ptr) (t.posted ptr) (t.delivered ptr)

/-- The structure `u` at `ptr` is the valid thread of the table with the number `tid`. -/
structure InTable (s : Threads) (tid ptr : ℕ) (u : Thread) : Prop where
  tid_lt : (tid : ℤ) < THREAD_COUNT_MAX
  ptr_ne : ptr ≠ 0
  entry : s.threadList tid = ptr
  thread : s.thread ptr = some u
  used : u.used = TRUE
  magic : u.magic = 1234

/-- **One call on one mailbox**: the thread `tid` makes the step `f`, everything else stays. -/
structure Acts (t t' : MsgTrace) (tid ptr : ℕ) (f : Mailbox Message → Mailbox Message) : Prop where
  threadList : t'.ipc.threads.threadList = t.ipc.threads.threadList
  others : ∀ q ≠ ptr, t'.ipc.threads.thread q = t.ipc.threads.thread q ∧ t'.tag q = t.tag q ∧
    t'.posted q = t.posted q ∧ t'.delivered q = t.delivered q
  self : ∃ u u', InTable t.ipc.threads tid ptr u ∧ InTable t'.ipc.threads tid ptr u' ∧
    mailbox t' ptr u' = f (mailbox t ptr u)

/-- A call that leaves every mailbox alone. -/
structure Idle (t t' : MsgTrace) : Prop where
  threads : t'.ipc.threads = t.ipc.threads
  tag : t'.tag = t.tag
  posted : t'.posted = t.posted
  delivered : t'.delivered = t.delivered

/-! ## The entries of a queue -/

section Entries

variable {u : Thread} {i : ℕ} {m : Option MsgD} {x : Option Message} {n : ℕ}

lemma messageAt_update (u : Thread) (i : ℕ) (m : Option MsgD) :
    Thread.messageAt { u with msgQueue := Function.update u.msgQueue i m }
      = Function.update u.messageAt i (m.bind MsgD.content) := by
  funext j
  simp only [Thread.messageAt]
  rcases eq_or_ne j i with rfl | hne
  · rw [Function.update_self, Function.update_self]
  · rw [Function.update_of_ne hne, Function.update_of_ne hne]
    rfl

/-- A cleared entry has no message. -/
lemma messageAt_clearEntry (u : Thread) (i : ℕ) :
    (u.clearEntry i).messageAt = Function.update u.messageAt i none := by
  rw [Thread.clearEntry, messageAt_update]
  congr 1
  cases u.msgQueue i with
  | none => rfl
  | some m => simp [MsgD.content, noMessage]

/-- A valid entry has the message that was written to it, if the code is positive. -/
lemma content_written {m : MsgD} (hused : m.used = TRUE) (hmagic : m.magic = 1234) (x : Message) :
    MsgD.content { m with message := x } = if 0 < x.msg then some x else none := by
  simp only [MsgD.content, hused, hmagic]
  rw [if_neg (by simp)]
  split_ifs <;> first | rfl | omega

/-- Writing slot `i` and its number. -/
lemma slot_update (f : ℕ → Option Message) (tag : ℕ → ℕ) (i n : ℕ) (x : Option Message) :
    (fun j => (Function.update f i x j).map fun m => (m, Function.update tag i n j))
      = Function.update (fun j => (f j).map fun m => (m, tag j)) i (x.map fun m => (m, n)) := by
  funext j
  rcases eq_or_ne j i with rfl | hne
  · simp only [Function.update_self]
  · simp only [Function.update_of_ne hne]

lemma slot_update_none (f : ℕ → Option Message) (tag : ℕ → ℕ) (i : ℕ) :
    (fun j => (Function.update f i none j).map fun m => (m, tag j))
      = Function.update (fun j => (f j).map fun m => (m, tag j)) i none := by
  simpa using slot_update f tag i (tag i) none

end Entries

/-! ## What the functions do -/

/-- The thread structure after a post of `x` to it. -/
def postedTo (u : Thread) (m : MsgD) (x : Message) : Thread :=
  { u with
    waitingForTimeout := TRUE
    msgQueue := Function.update u.msgQueue u.msgQueueTail (some { m with message := x })
    msgQueueTail := nextSlot u.msgQueueTail
    isResponder := TRUE }

/-- **What a post that does not panic does.** -/
lemma postMessage_ok {fn : String} {senderTid receiverTid msg ret : ℤ}
    {long1 long2 long3 long4 : ℕ} {s s' : IpcState}
    (h : postMessage fn senderTid receiverTid msg long1 long2 long3 long4 s = .ok (ret, s')) :
    ret = 0 ∧ ∃ ptr u m, InTable s.threads (receiverTid % 0x10000).toNat ptr u ∧
      m.used = TRUE ∧ m.magic = 1234 ∧
      s'.threads = s.threads.set ptr (postedTo u m
        ⟨0, msg, long1, long2, long3, long4, senderTid % 0x10000, receiverTid % 0x10000⟩) := by
  simp only [postMessage] at h
  split_ifs at h with hdst hptr
  split at h
  · simp at h
  rename_i u hderef
  split_ifs at h with hvalid htid
  split at h
  · simp at h
  rename_i m hm
  split_ifs at h with hmvalid
  obtain ⟨rfl, rfl⟩ : 0 = ret ∧ _ = s' := by simpa using h
  rw [not_or, not_not, not_not] at hvalid hmvalid
  exact ⟨rfl, _, u, m, ⟨by omega, hptr, rfl, Threads.deref_eq_ok.1 hderef, hvalid.1, hvalid.2⟩,
    hmvalid.1, hmvalid.2, rfl⟩

/-- What is known of the thread that a retrieval works on. -/
lemma callingThread_ok {fn : String} {ubuf ptr : ℕ} {u : Thread} {s : IpcState}
    (h : callingThread fn ubuf s = .ok (some (ptr, u))) :
    InTable s.threads s.currentThread.toNat ptr u := by
  simp only [callingThread] at h
  split_ifs at h with hubuf hcurrent hptr
  · simp at h
  split at h
  · simp at h
  rename_i v hderef
  split_ifs at h with hvalid
  obtain ⟨rfl, rfl⟩ : s.threads.threadList s.currentThread.toNat = ptr ∧ v = u := by simpa using h
  rw [not_or, not_not, not_not] at hvalid
  exact ⟨by omega, hptr, rfl, Threads.deref_eq_ok.1 hderef, hvalid.1, hvalid.2⟩

/-- Where a post puts its message: the receiver and the message, when the code is accepted. -/
def MsgEvent.accepted (e : MsgEvent) : Option (ℤ × Message) :=
  match e.call with
  | .post2 senderTid receiverTid msg long1 long2 long3 long4 =>
      if msg < 0 then none
      else some (receiverTid,
        ⟨0, msg, long1, long2, long3, long4, senderTid % 0x10000, receiverTid % 0x10000⟩)
  | .post senderTid receiverTid msg long1 long2 =>
      if msg ≤ 0 then none
      else some (receiverTid,
        ⟨0, msg, long1, long2, e.jiffies, e.jiffies, senderTid % 0x10000, receiverTid % 0x10000⟩)
  | .get _ => none
  | .get2 _ _ _ => none

variable {t t' : MsgTrace} {e : MsgEvent}

/-- The trace after a successful post has made the step `put` on the receiver's mailbox. -/
lemma acts_post {receiverTid : ℤ} {ptr : ℕ} {u : Thread} {m : MsgD} {x : Message} {s : IpcState}
    (hu : InTable t.ipc.threads (receiverTid % 0x10000).toNat ptr u)
    (hm : m.used = TRUE ∧ m.magic = 1234)
    (hs : s.threads = t.ipc.threads.set ptr (postedTo u m x)) :
    Acts t (t.afterPost 0 receiverTid x s) (receiverTid % 0x10000).toNat ptr
      (fun b => put MSG_QUEUE_MAX b x (0 < x.msg)) where
  threadList := by simp [MsgTrace.afterPost, hs]
  others q hq := by
    simp only [MsgTrace.afterPost, if_true, hs, Threads.set_threadList, hu.entry]
    simp [Threads.set_thread_of_ne hq, Function.update_of_ne hq]
  self := by
    have hu' : InTable (t.afterPost 0 receiverTid x s).ipc.threads (receiverTid % 0x10000).toNat ptr
        (postedTo u m x) :=
      { hu with
        entry := by simpa [MsgTrace.afterPost, hs] using hu.entry
        thread := by simp [MsgTrace.afterPost, hs] }
    refine ⟨u, postedTo u m x, hu, hu', ?_⟩
    have htail : tailSlot t.ipc.threads ptr = u.msgQueueTail := by simp [tailSlot, hu.thread]
    simp only [MsgTrace.afterPost, if_true, hs, Threads.set_threadList, hu.entry, mailbox,
      mailboxOf, put, Function.update_self, htail]
    have hslots : (postedTo u m x).messageAt = Function.update u.messageAt u.msgQueueTail
        (if 0 < x.msg then some x else none) := by
      have hcontent := messageAt_update u u.msgQueueTail (some { m with message := x })
      rw [Option.bind_some, content_written hm.1 hm.2] at hcontent
      exact hcontent
    rw [hslots, slot_update]
    by_cases hcode : 0 < x.msg
    · simp only [hcode, if_true, Option.map_some]
      rfl
    · simp only [hcode, if_false, Option.map_none]
      rfl

/-- The trace after a retrieval from slot `i` has made a step `takeAt`. -/
lemma acts_get {slot : ℕ → ℕ} {ptr i : ℕ} {u u' : Thread} {um : Option UserMessage}
    {f : Mailbox Message → Mailbox Message}
    (hu : InTable t.ipc.threads e.currentThread.toNat ptr u) (hslot : slot ptr = i)
    (hum : um.map UserMessage.message = u.messageAt i)
    (hvalid : u'.used = u.used ∧ u'.magic = u.magic)
    (hcleared : u'.messageAt = Function.update u.messageAt i none)
    (hf : f (mailbox t ptr u) = takeAt (mailbox t ptr u) i u'.msgQueueHead u'.msgQueueTail) :
    Acts t (t.afterGet e.currentThread slot um ((t.at e).setThread ptr u'))
      e.currentThread.toNat ptr f where
  threadList := by cases um <;> rfl
  others q hq := by
    have hthread : ((t.at e).setThread ptr u').threads.thread q = t.ipc.threads.thread q :=
      Threads.set_thread_of_ne hq
    have hlist : ((t.at e).setThread ptr u').threads.threadList = t.ipc.threads.threadList := rfl
    cases um with
    | none => exact ⟨hthread, rfl, rfl, rfl⟩
    | some m =>
        refine ⟨hthread, rfl, rfl, ?_⟩
        simp only [MsgTrace.afterGet, hlist, hu.entry, Function.update_of_ne hq]
  self := by
    have hself : ((t.at e).setThread ptr u').threads.thread ptr = some u' :=
      Threads.set_thread_same
    have hlist : ((t.at e).setThread ptr u').threads.threadList = t.ipc.threads.threadList := rfl
    have hu' : InTable (t.afterGet e.currentThread slot um
        ((t.at e).setThread ptr u')).ipc.threads e.currentThread.toNat ptr u' :=
      ⟨hu.tid_lt, hu.ptr_ne, by cases um <;> exact hu.entry, by cases um <;> exact hself,
        hvalid.1.trans hu.used, hvalid.2.trans hu.magic⟩
    refine ⟨u, u', hu, hu', ?_⟩
    rw [hf]
    cases um with
    | none =>
        have hnone : u.messageAt i = none := by simpa using hum.symm
        simp only [MsgTrace.afterGet, mailbox, mailboxOf, takeAt, hcleared, slot_update_none, hnone,
          Option.map_none, Option.toList_none, List.append_nil]
    | some m =>
        have hsome : u.messageAt i = some m.message := by simpa using hum.symm
        simp only [MsgTrace.afterGet, hlist, hu.entry, mailbox, mailboxOf, takeAt,
          hcleared, slot_update_none, hsome, hslot, Function.update_self, Option.map_some,
          Option.toList_some]

/-- Head and tail after `sys_get_message2`. -/
def finishSlots (restart : ℤ) (head tail : ℕ) : ℕ × ℕ :=
  if restart = TRUE then (0, 0) else (nextSlot head, tail)

/-- **What a call does**: nothing to any mailbox, or one step on one of them. -/
inductive Steps (t t' : MsgTrace) : MsgEvent → Prop where
  /-- A post of a code that is not accepted, a retrieval without a current thread. -/
  | idle (e : MsgEvent) : e.accepted = none → Idle t t' → Steps t t' e
  | posts (e : MsgEvent) (receiverTid : ℤ) (x : Message) (ptr : ℕ) :
      e.accepted = some (receiverTid, x) →
      Acts t t' (receiverTid % 0x10000).toNat ptr
        (fun b => put MSG_QUEUE_MAX b x (0 < x.msg)) →
      Steps t t' e
  | polls (currentThread : ℤ) (jiffies ubuf ptr : ℕ) :
      Acts t t' currentThread.toNat ptr (poll MSG_QUEUE_MAX) →
      Steps t t' ⟨currentThread, jiffies, .get ubuf⟩
  | jumps (currentThread : ℤ) (jiffies ubuf ptr : ℕ) (index restart : ℤ) :
      0 ≤ index → index < MSG_QUEUE_MAX →
      Acts t t' currentThread.toNat ptr (fun b =>
        takeAt b index.toNat (finishSlots restart index.toNat b.tail).1
          (finishSlots restart index.toNat b.tail).2) →
      Steps t t' ⟨currentThread, jiffies, .get2 ubuf index restart⟩
  | skips (currentThread : ℤ) (jiffies ubuf ptr : ℕ) (index restart : ℤ) :
      Acts t t' currentThread.toNat ptr (fun b =>
        move b (finishSlots restart b.head b.tail).1 (finishSlots restart b.head b.tail).2) →
      Steps t t' ⟨currentThread, jiffies, .get2 ubuf index restart⟩

/-- A post of an accepted code makes the receiver's step. -/
lemma steps_of_post {fn : String} {senderTid receiverTid msg ret : ℤ}
    {long1 long2 long3 long4 : ℕ} {s : IpcState}
    (haccepted : e.accepted = some (receiverTid,
      ⟨0, msg, long1, long2, long3, long4, senderTid % 0x10000, receiverTid % 0x10000⟩))
    (h : postMessage fn senderTid receiverTid msg long1 long2 long3 long4 (t.at e) = .ok (ret, s)) :
    Steps t (t.afterPost ret receiverTid
      ⟨0, msg, long1, long2, long3, long4, senderTid % 0x10000, receiverTid % 0x10000⟩ s) e := by
  obtain ⟨rfl, ptr, u, m, hu, hused, hmagic, hs⟩ := postMessage_ok h
  exact Steps.posts e receiverTid _ ptr haccepted (acts_post hu ⟨hused, hmagic⟩ hs)

/-- A post whose code is not accepted leaves the mailboxes alone. -/
lemma steps_of_refused {receiverTid : ℤ} {x : Message} (haccepted : e.accepted = none) :
    Steps t (t.afterPost (-1) receiverTid x (t.at e)) e :=
  Steps.idle e haccepted ⟨rfl, rfl, rfl, rfl⟩

/-- The calling thread is found when it is in the table. -/
lemma callingThread_eq {fn : String} {ubuf ptr : ℕ} {u : Thread} {s : IpcState}
    (hcurrent : 0 ≤ s.currentThread) (hu : InTable s.threads s.currentThread.toNat ptr u)
    (hubuf : ubuf ≠ 0) : callingThread fn ubuf s = .ok (some (ptr, u)) := by
  have htid := hu.tid_lt
  simp only [callingThread, hu.entry, Threads.deref_eq_ok.2 hu.thread, hu.used, hu.magic]
  rw [if_neg hubuf, if_neg (by omega), if_neg hu.ptr_ne, if_neg (by simp)]

/-- A retrieval by a thread of the table polls its mailbox. -/
lemma sysGetMessage_acts {ubuf ptr : ℕ} {u : Thread}
    (hcalling : callingThread "sys_get_message" ubuf (t.at e) = .ok (some (ptr, u))) :
    ∃ um s, sysGetMessage ubuf (t.at e) = .ok (um, s) ∧
      Acts t (t.afterGet e.currentThread (headSlot t.ipc.threads) um s) e.currentThread.toNat ptr
        (poll MSG_QUEUE_MAX) := by
  have hu : InTable t.ipc.threads e.currentThread.toNat ptr u := callingThread_ok hcalling
  have hhead : headSlot t.ipc.threads ptr = u.msgQueueHead := by simp [headSlot, hu.thread]
  simp only [sysGetMessage, hcalling]
  cases hmessage : u.messageAt u.msgQueueHead with
  | some message =>
      refine ⟨_, _, rfl, acts_get hu hhead ?_ ⟨rfl, rfl⟩ (messageAt_clearEntry u _) rfl⟩
      rw [hmessage, Option.map_some]
  | none =>
      refine ⟨_, _, rfl, acts_get hu hhead ?_ ⟨rfl, rfl⟩ ?_ rfl⟩
      · rw [hmessage, Option.map_none]
      · rw [← hmessage, Function.update_eq_self]
        rfl

lemma steps_of_get {currentThread : ℤ} {jiffies ubuf : ℕ} {um : Option UserMessage} {s : IpcState}
    (h : sysGetMessage ubuf (t.at ⟨currentThread, jiffies, .get ubuf⟩) = .ok (um, s)) :
    Steps t (t.afterGet currentThread (headSlot t.ipc.threads) um s)
      ⟨currentThread, jiffies, .get ubuf⟩ := by
  cases hcalling : callingThread "sys_get_message" ubuf
      (t.at ⟨currentThread, jiffies, .get ubuf⟩) with
  | error f => simp [sysGetMessage, hcalling] at h
  | ok found =>
      cases found with
      | none =>
          obtain ⟨rfl, rfl⟩ : none = um ∧ _ = s := by simpa [sysGetMessage, hcalling] using h
          exact Steps.idle _ rfl ⟨rfl, rfl, rfl, rfl⟩
      | some found =>
          obtain ⟨um', s', hget, hacts⟩ := sysGetMessage_acts hcalling
          obtain ⟨rfl, rfl⟩ : um' = um ∧ s' = s := by simpa using hget.symm.trans h
          exact Steps.polls currentThread jiffies ubuf found.1 hacts

lemma finishGet_slots (restart : ℤ) (u : Thread) :
    (finishGet restart u).msgQueueHead = (finishSlots restart u.msgQueueHead u.msgQueueTail).1 ∧
      (finishGet restart u).msgQueueTail
        = (finishSlots restart u.msgQueueHead u.msgQueueTail).2 := by
  simp only [finishGet, finishSlots]
  split_ifs <;> exact ⟨rfl, rfl⟩

lemma finishGet_rest (restart : ℤ) (u : Thread) :
    (finishGet restart u).messageAt = u.messageAt ∧ (finishGet restart u).used = u.used ∧
      (finishGet restart u).magic = u.magic := by
  simp only [finishGet]
  split_ifs <;> exact ⟨rfl, rfl, rfl⟩

lemma steps_of_get2 {currentThread index restart : ℤ} {jiffies ubuf : ℕ}
    {um : Option UserMessage} {s : IpcState}
    (h : sysGetMessage2 ubuf index restart (t.at ⟨currentThread, jiffies, .get2 ubuf index restart⟩)
      = .ok (um, s)) :
    Steps t (t.afterGet currentThread (fun _ => index.toNat) um s)
      ⟨currentThread, jiffies, .get2 ubuf index restart⟩ := by
  simp only [sysGetMessage2] at h
  split at h
  · simp at h
  · obtain ⟨rfl, rfl⟩ : none = um ∧ _ = s := by simpa using h
    exact Steps.idle _ rfl ⟨rfl, rfl, rfl, rfl⟩
  rename_i ptr u hcalling
  have hu : InTable t.ipc.threads currentThread.toNat ptr u := callingThread_ok hcalling
  split_ifs at h with hrange
  · -- the index is refused: only head and tail move
    obtain ⟨rfl, rfl⟩ : none = um ∧ _ = s := by simpa using h
    refine Steps.skips currentThread jiffies ubuf ptr index restart ?_
    obtain ⟨hmessages, hused, hmagic⟩ := finishGet_rest restart u
    refine ⟨rfl, fun q hq => ⟨Threads.set_thread_of_ne hq, rfl, rfl, rfl⟩, u,
      finishGet restart u, hu, ⟨hu.tid_lt, hu.ptr_ne, hu.entry, Threads.set_thread_same,
        hused.trans hu.used, hmagic.trans hu.magic⟩, ?_⟩
    obtain ⟨hhead, htail⟩ := finishGet_slots restart u
    simp only [mailbox, mailboxOf, move, hmessages, ← hhead, ← htail]
    rfl
  · refine Steps.jumps currentThread jiffies ubuf ptr index restart (by omega) (by omega) ?_
    split at h
    · rename_i message hmessage
      obtain ⟨rfl, rfl⟩ : some _ = um ∧ _ = s := by simpa using h
      obtain ⟨hmessages, hused, hmagic⟩ := finishGet_rest restart
        (Thread.clearEntry { u with msgQueueHead := index.toNat } index.toNat)
      obtain ⟨hhead, htail⟩ := finishGet_slots restart
        (Thread.clearEntry { u with msgQueueHead := index.toNat } index.toNat)
      refine acts_get (e := ⟨currentThread, jiffies, .get2 ubuf index restart⟩) hu rfl ?_
        ⟨hused, hmagic⟩ ?_ ?_
      · exact hmessage.symm
      · rw [hmessages, messageAt_clearEntry]
        rfl
      · rw [hhead, htail]
        rfl
    · rename_i hnone
      obtain ⟨rfl, rfl⟩ : none = um ∧ _ = s := by simpa using h
      obtain ⟨hmessages, hused, hmagic⟩ := finishGet_rest restart
        { u with msgQueueHead := index.toNat }
      obtain ⟨hhead, htail⟩ := finishGet_slots restart { u with msgQueueHead := index.toNat }
      refine acts_get (e := ⟨currentThread, jiffies, .get2 ubuf index restart⟩) hu rfl ?_
        ⟨hused, hmagic⟩ ?_ ?_
      · exact hnone.symm
      · rw [hmessages]
        exact (Function.update_eq_self_iff.2 hnone.symm).symm
      · rw [hhead, htail]
        rfl

/-- **Every call is one step of one mailbox at most.** -/
lemma msgStep_steps (h : msgStep t e = .ok t') : Steps t t' e := by
  obtain ⟨currentThread, jiffies, call⟩ := e
  cases call with
  | post2 senderTid receiverTid msg long1 long2 long3 long4 =>
      simp only [msgStep, ipcPostMessageToTid2] at h
      by_cases hcode : msg < 0
      · rw [if_pos hcode] at h
        obtain rfl : _ = t' := by simpa using h
        exact steps_of_refused (by simp [MsgEvent.accepted, hcode])
      · rw [if_neg hcode] at h
        split at h
        · simp at h
        rename_i ret s hpost
        obtain rfl : _ = t' := by simpa using h
        exact steps_of_post (by simp [MsgEvent.accepted, hcode]) hpost
  | post senderTid receiverTid msg long1 long2 =>
      simp only [msgStep, ipcPostMessageToTid] at h
      by_cases hcode : msg ≤ 0
      · rw [if_pos hcode] at h
        obtain rfl : _ = t' := by simpa using h
        exact steps_of_refused (by simp [MsgEvent.accepted, hcode])
      · rw [if_neg hcode] at h
        split at h
        · simp at h
        rename_i ret s hpost
        obtain rfl : _ = t' := by simpa using h
        exact steps_of_post (by simp [MsgEvent.accepted, hcode]) hpost
  | get ubuf =>
      simp only [msgStep] at h
      split at h
      · simp at h
      rename_i um s hget
      obtain rfl : _ = t' := by simpa using h
      exact steps_of_get hget
  | get2 ubuf index restart =>
      simp only [msgStep] at h
      split at h
      · simp at h
      rename_i um s hget
      obtain rfl : _ = t' := by simpa using h
      exact steps_of_get2 hget

/-! ## All queues of the table -/

/-- Every queue of the table satisfies `Q`. -/
def Everywhere (Q : Mailbox Message → Prop) (t : MsgTrace) : Prop :=
  ∀ tid ptr u, InTable t.ipc.threads tid ptr u → Q (mailbox t ptr u)

section Everywhere

variable {Q : Mailbox Message → Prop} {tid ptr : ℕ} {u : Thread}
  {f : Mailbox Message → Mailbox Message}

lemma Idle.everywhere (h : Idle t t') (hQ : Everywhere Q t) : Everywhere Q t' := by
  intro tid ptr u hu
  rw [h.threads] at hu
  have hmailbox := hQ tid ptr u hu
  rwa [mailbox, ← h.tag, ← h.posted, ← h.delivered] at hmailbox

/-- A thread is found at one place only, and its structure is the one that is there. -/
lemma InTable.unique {s : Threads} {v : Thread} {tid' : ℕ} (hu : InTable s tid ptr u)
    (hv : InTable s tid' ptr v) : u = v := by
  simpa using hu.thread.symm.trans hv.thread

/-- **A step on one queue keeps `Q` everywhere when it keeps it there.** -/
lemma Acts.everywhere_iff (h : Acts t t' tid ptr f) (hu : InTable t.ipc.threads tid ptr u)
    (hQ : Everywhere Q t) : Everywhere Q t' ↔ Q (f (mailbox t ptr u)) := by
  obtain ⟨v, u', hv, hu', hmailbox⟩ := h.self
  obtain rfl : u = v := hu.unique hv
  rw [← hmailbox]
  constructor
  · intro hQ'
    exact hQ' tid ptr u' hu'
  · intro hself tid' q w hw
    by_cases hq : q = ptr
    · subst hq
      obtain rfl : u' = w := hu'.unique hw
      exact hself
    · obtain ⟨hthread, htag, hposted, hdelivered⟩ := h.others q hq
      have hw' : InTable t.ipc.threads tid' q w :=
        { hw with entry := h.threadList ▸ hw.entry, thread := hthread ▸ hw.thread }
      rw [mailbox, htag, hposted, hdelivered]
      exact hQ tid' q w hw'

lemma Acts.everywhere (h : Acts t t' tid ptr f) (hQ : Everywhere Q t)
    (hf : ∀ b, Q b → Q (f b)) : Everywhere Q t' := by
  obtain ⟨u, -, hu, -⟩ := h.self
  exact (h.everywhere_iff hu hQ).2 (hf _ (hQ tid ptr u hu))

/-- An event meets `C` at the thread it posts to, if it posts. -/
def AtReceiver (C : Message → Thread → Prop) (t : MsgTrace) (e : MsgEvent) : Prop :=
  ∀ receiverTid x ptr u, e.accepted = some (receiverTid, x) →
    InTable t.ipc.threads (receiverTid % 0x10000).toNat ptr u → C x u

lemma atReceiver_of_quiet {C : Message → Thread → Prop} (h : e.accepted = none) :
    AtReceiver C t e := by
  intro receiverTid x ptr u hpost
  simp [h] at hpost

lemma atReceiver_iff {C : Message → Thread → Prop} {receiverTid : ℤ} {x : Message}
    (haccepted : e.accepted = some (receiverTid, x))
    (hu : InTable t.ipc.threads (receiverTid % 0x10000).toNat ptr u) :
    AtReceiver C t e ↔ C x u := by
  constructor
  · intro h
    exact h receiverTid x ptr u haccepted hu
  · intro h receiverTid' x' ptr' v haccepted' hv
    obtain ⟨rfl, rfl⟩ : receiverTid = receiverTid' ∧ x = x' := by
      simpa using haccepted.symm.trans haccepted'
    obtain rfl : ptr = ptr' := hu.entry.symm.trans hv.entry
    obtain rfl : u = v := hu.unique hv
    exact h

/-- `n` retrievals by one thread. -/
def retrievals (tid jiffies ubuf n : ℕ) : List MsgEvent :=
  List.replicate n ⟨tid, jiffies, .get ubuf⟩

/-- **Retrievals by a thread of the table succeed, and poll its mailbox.** -/
lemma runs_retrievals (jiffies : ℕ) {ubuf : ℕ} (hubuf : ubuf ≠ 0) (n : ℕ)
    (hu : InTable t.ipc.threads tid ptr u) :
    ∃ t' u', runs msgStep t (retrievals tid jiffies ubuf n) = .ok t' ∧
      InTable t'.ipc.threads tid ptr u' ∧
      mailbox t' ptr u' = polls MSG_QUEUE_MAX (mailbox t ptr u) n := by
  induction n generalizing t u with
  | zero => exact ⟨t, u, rfl, hu, rfl⟩
  | succ n ih =>
      obtain ⟨um, s, hget, hacts⟩ := sysGetMessage_acts
        (t := t) (e := ⟨tid, jiffies, .get ubuf⟩) (callingThread_eq (Int.natCast_nonneg tid) hu hubuf)
      obtain ⟨v, v', hv, hv', hpoll⟩ := hacts.self
      obtain rfl : u = v := hu.unique hv
      obtain ⟨t', u', hrun, hu', hmailbox⟩ := ih hv'
      refine ⟨t', u', ?_, hu', ?_⟩
      · rw [retrievals, List.replicate_succ]
        refine (runs_cons_ok ?_).trans hrun
        simp only [msgStep, hget]
      · rw [hmailbox, hpoll, polls_poll]

/-- **`MSG_QUEUE_MAX` retrievals deliver everything that is pending.** -/
lemma runs_retrievals_all (jiffies : ℕ) {ubuf n : ℕ} (hubuf : ubuf ≠ 0) (hn : MSG_QUEUE_MAX ≤ n)
    (hu : InTable t.ipc.threads tid ptr u) (hwf : Wf MSG_QUEUE_MAX (mailbox t ptr u)) :
    ∃ t', runs msgStep t (retrievals tid jiffies ubuf n) = .ok t' ∧
      t'.delivered ptr = history MSG_QUEUE_MAX (mailbox t ptr u) ∧
      t'.posted ptr = t.posted ptr := by
  obtain ⟨t', u', hrun, -, hmailbox⟩ := runs_retrievals jiffies hubuf n hu
  refine ⟨t', hrun, ?_, ?_⟩
  · exact (congrArg Mailbox.delivered hmailbox).trans (delivered_polls hwf hn)
  · exact (congrArg Mailbox.posted hmailbox).trans (polls_posted _)

end Everywhere

/-- Queues as a thread gets them when it is created, before anything is posted. -/
structure FreshQueue (b : Mailbox Message) : Prop where
  head : b.head = 0
  tail : b.tail = 0
  slot : ∀ i < MSG_QUEUE_MAX, b.slot i = none
  posted : b.posted = []
  delivered : b.delivered = []

section FreshQueue

variable {b : Mailbox Message}

lemma FreshQueue.wf (h : FreshQueue b) : Wf MSG_QUEUE_MAX b :=
  ⟨by rw [h.head]; decide, by rw [h.tail]; decide⟩

/-- A new thread has a fresh queue. -/
lemma freshQueue_new (u : Thread) (tag : ℕ → ℕ) :
    FreshQueue (mailboxOf (psInitializeThreadCommonElements u) tag [] []) where
  head := rfl
  tail := rfl
  slot i hi := by
    simp [mailboxOf, psInitializeThreadCommonElements, Thread.messageAt, MsgD.content, noMessage,
      hi]
  posted := rfl
  delivered := rfl

/-- Nothing was delivered by a fresh queue, and nothing is pending. -/
lemma FreshQueue.history (h : FreshQueue b) : history MSG_QUEUE_MAX b = [] := by
  rw [RingQueue.history, h.delivered, pending, Ring.view_eq_nil h.slot h.wf.head_lt]
  rfl

end FreshQueue

/-! ## A new thread -/

/-- The new thread 5, at the address 0x1000, is the only one. -/
def oneThread : MsgTrace where
  ipc :=
    { threads :=
        { thread := fun ptr =>
            if ptr = 0x1000 then some (psInitializeThreadCommonElements (newThread 5)) else none
          threadList := fun tid => if tid = 5 then 0x1000 else 0 }
      currentThread := 5
      jiffies := 0
      timeoutThread := 0 }
  posted _ := []
  tag _ _ := 0
  delivered _ := []

lemma oneThread_fresh : Everywhere FreshQueue oneThread := by
  intro tid ptr u hu
  have hthread := hu.thread
  simp only [oneThread] at hthread
  split_ifs at hthread
  obtain rfl : _ = u := by simpa using hthread
  exact freshQueue_new _ _

end Gramado
