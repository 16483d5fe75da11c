import Gramado.Lib.Ring
import Gramado.Ke.Thread

/-!
# Messages between threads

`core/ke/intake/ipc.c`.  Every thread has a ring of `MSG_QUEUE_MAX` entries.  The two functions that
post write the entry at the tail and move the tail on (`postMessage`); the two functions that
retrieve look at the entry at the head, take its message if it has one, and move the head on in
either case.  An entry has a message when its code is positive.
-/

namespace Gramado

/-- The globals that the message functions use. -/
structure IpcState where
  threads : Threads
  currentThread : ℤ
  jiffies : ℕ
  timeoutThread : ℕ

/-- What a retrieval puts in the client's buffer: the message, the jiffies of the post (word 10) and
those of the retrieval (word 11). -/
structure UserMessage where
  message : Message
  posted : ℕ
  gotten : ℕ
  deriving DecidableEq, Repr

/-- The message of a cleared entry. -/
def noMessage : Message := ⟨0, 0, 0, 0, 0, 0, 0, 0⟩

/-- `__ps_initialize_thread_common_elements`: the empty queue of a new thread. -/
def psInitializeThreadCommonElements (t : Thread) : Thread :=
  { t with
    msgQueue := fun i => if i < MSG_QUEUE_MAX then some ⟨TRUE, 1234, noMessage⟩ else none
    msgQueueHead := 0
    msgQueueTail := 0 }

/-- The next place of a head or a tail: `i++`, and 0 when the end of the queue is reached. -/
def nextSlot (i : ℕ) : ℕ := Ring.next MSG_QUEUE_MAX i

/-- The structure of a thread is replaced. -/
def IpcState.setThread (s : IpcState) (ptr : ℕ) (t : Thread) : IpcState :=
  { s with threads := s.threads.set ptr t }

/-! ## Posting -/

/-- The part that `ipc_post_message_to_tid` and `ipc_post_message_to_tid2` share, once the message
code is accepted.  `fn` is the name with which they panic. -/
def postMessage (fn : String) (senderTid receiverTid msg : ℤ) (long1 long2 long3 long4 : ℕ)
    (s : IpcState) : Except Fault (ℤ × IpcState) :=
  let srcTid := senderTid % 0x10000
  let dstTid := receiverTid % 0x10000
  if dstTid < 0 ∨ dstTid ≥ THREAD_COUNT_MAX then .error (.panic (fn ++ ": dst_tid\n"))
  else
    let ptr := s.threads.threadList dstTid.toNat
    if ptr = 0 then .error (.panic (fn ++ ": t\n"))
    else
      match s.threads.deref ptr with
      | .error f => .error f
      | .ok t =>
          if t.used ≠ TRUE ∨ t.magic ≠ 1234 then .error (.panic (fn ++ ": t validation\n"))
          else if t.tid ≠ dstTid then .error (.panic (fn ++ ": t->tid != dst_tid\n"))
          else
            match t.msgQueue t.msgQueueTail with
            | none => .error (.panic (fn ++ ": m\n"))
            | some m =>
                if m.used ≠ TRUE ∨ m.magic ≠ 1234 then
                  .error (.panic (fn ++ ": m validation\n"))
                else
                  let m := { m with message := ⟨0, msg, long1, long2, long3, long4, srcTid, dstTid⟩ }
                  let t := { t with
                    waitingForTimeout := TRUE
                    msgQueue := Function.update t.msgQueue t.msgQueueTail (some m)
                    msgQueueTail := nextSlot t.msgQueueTail
                    isResponder := TRUE }
                  .ok (0, { s.setThread ptr t with timeoutThread := ptr })

/-- `ipc_post_message_to_tid2`: a code of 0 is accepted. -/
def ipcPostMessageToTid2 (senderTid receiverTid msg : ℤ) (long1 long2 long3 long4 : ℕ)
    (s : IpcState) : Except Fault (ℤ × IpcState) :=
  if msg < 0 then .ok (-1, s)
  else
    postMessage "ipc_post_message_to_tid2" senderTid receiverTid msg long1 long2 long3 long4 s

/-- `ipc_post_message_to_tid`: a code of 0 is refused. -/
def ipcPostMessageToTid (senderTid receiverTid msg : ℤ) (long1 long2 : ℕ) (s : IpcState) :
    Except Fault (ℤ × IpcState) :=
  if msg ≤ 0 then .ok (-1, s)
  else
    postMessage "ipc_post_message_to_tid" senderTid receiverTid msg long1 long2 s.jiffies s.jiffies s

/-! ## Retrieving -/

/-- The message of an entry, if it has one. -/
def MsgD.content (m : MsgD) : Option Message :=
  if m.used ≠ TRUE ∨ m.magic ≠ 1234 then none
  else if m.message.msg ≤ 0 then none
  else some m.message

/-- The message at slot `i` of the thread's queue, if there is one. -/
def Thread.messageAt (t : Thread) (i : ℕ) : Option Message :=
  (t.msgQueue i).bind MsgD.content

/-- The entry at slot `i` is cleared. -/
def Thread.clearEntry (t : Thread) (i : ℕ) : Thread :=
  let m := (t.msgQueue i).map fun m => { m with message := noMessage }
  { t with msgQueue := Function.update t.msgQueue i m }

/-- The checks with which both retrievals begin: the thread that calls, `none` when there is no
current thread. -/
def callingThread (fn : String) (ubuf : ℕ) (s : IpcState) : Except Fault (Option (ℕ × Thread)) :=
  if ubuf = 0 then .error (.panic (fn ++ ": ubuf\n"))
  else if s.currentThread < 0 ∨ s.currentThread ≥ THREAD_COUNT_MAX then .ok none
  else
    let ptr := s.threads.threadList s.currentThread.toNat
    if ptr = 0 then .error (.panic (fn ++ ": t\n"))
    else
      match s.threads.deref ptr with
      | .error f => .error f
      | .ok t =>
          if t.used ≠ TRUE ∨ t.magic ≠ 1234 then .error (.panic (fn ++ ": t validation\n"))
          else .ok (some (ptr, t))

/-- `sys_get_message`. -/
def sysGetMessage (ubuf : ℕ) (s : IpcState) : Except Fault (Option UserMessage × IpcState) :=
  match callingThread "sys_get_message" ubuf s with
  | .error f => .error f
  | .ok none => .ok (none, s)
  | .ok (some (ptr, t)) =>
      match t.messageAt t.msgQueueHead with
      | some message =>
          let t := { t.clearEntry t.msgQueueHead with msgQueueHead := nextSlot t.msgQueueHead }
          .ok (some ⟨message, message.long3, s.jiffies⟩, s.setThread ptr t)
      | none =>
          -- without a message the head moves on all the same
          let t := { t with msgQueueHead := nextSlot t.msgQueueHead }
          .ok (none, s.setThread ptr t)

/-- The end of `sys_get_message2`: back to the start of the queue, or the head moves on. -/
def finishGet (restart : ℤ) (t : Thread) : Thread :=
  if restart = TRUE then { t with msgQueueHead := 0, msgQueueTail := 0 }
  else { t with msgQueueHead := nextSlot t.msgQueueHead }

/-- `sys_get_message2`. -/
def sysGetMessage2 (ubuf : ℕ) (index restart : ℤ) (s : IpcState) :
    Except Fault (Option UserMessage × IpcState) :=
  match callingThread "sys_get_message2" ubuf s with
  | .error f => .error f
  | .ok none => .ok (none, s)
  | .ok (some (ptr, t)) =>
      if index < 0 ∨ index ≥ MSG_QUEUE_MAX then
        .ok (none, s.setThread ptr (finishGet restart t))
      else
        let t := { t with msgQueueHead := index.toNat }
        match t.messageAt t.msgQueueHead with
        | some message =>
            .ok (some ⟨message, message.long3, s.jiffies⟩,
              s.setThread ptr (finishGet restart (t.clearEntry t.msgQueueHead)))
        | none => .ok (none, s.setThread ptr (finishGet restart t))

end Gramado
