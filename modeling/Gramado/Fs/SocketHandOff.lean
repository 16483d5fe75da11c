import Gramado.Lib.Run
import Gramado.Fs.ReadWrite

/-!
# Messages through a socket

Every process that has a socket's file structure in its table can write to it and read from it:
after `sys_accept` these are the client, under its own descriptor, and the server, under
descriptor 31.  A message is handed over through the one buffer of the structure.

`IoTrace` follows any interleaving of the two calls and keeps, for every file structure, the
messages that writes reported and the messages that reads returned.  `HandOff` is what the ends of
a connection rely on, `Fits` the condition on one call: a write is shorter than the buffer, a read
asks for as much as the waiting message is long.  `handOff_iff_fits` relates them over whole runs.
The other calls are harmless: a write to a full socket and a read from an empty one change nothing.
-/

namespace Gramado

open StepRun

variable (consoleWrite : UserBytes → ℤ → Except Fault ℤ)

/-- A call of `read` or `write` by some thread. -/
inductive IoCall where
  | write (caller : Caller) (fd : ℤ) (ubuf : UserBytes) (count : ℤ)
  | read (caller : Caller) (fd : ℤ) (ubuf : ℕ) (count : ℤ)

/-- The file structure that the call gets to, if the common checks let it. -/
def IoCall.entry (s : IoState) : IoCall → Except Fault Entry
  | .write caller fd ubuf count => ioEntry caller fd ubuf.isNone count s
  | .read caller fd ubuf count => ioEntry caller fd (ubuf = 0) count s

/-- The state, the messages written to and read from every file structure, oldest first, and the
states around each call that reported a failure. -/
structure IoTrace where
  io : IoState
  sent : ℕ → List (List UInt8)
  received : ℕ → List (List UInt8)
  failed : List (IoState × IoState)

/-- `xs` is added to the history of the file structure that the call got to. -/
def addMessage (entry : Except Fault Entry) (xs : List UInt8) (log : ℕ → List (List UInt8)) :
    ℕ → List (List UInt8) :=
  match entry with
  | .ok (.object ptr) => Function.update log ptr (log ptr ++ [xs])
  | _ => log

/-- One call, and what it adds to the histories. -/
def ioStep (t : IoTrace) (c : IoCall) : Except Fault IoTrace :=
  match c with
  | .write caller fd ubuf count =>
      match writeImp consoleWrite caller fd ubuf count t.io with
      | .error f => .error f
      | .ok (ret, io) =>
          if 0 < ret then
            .ok { t with
              io := io
              sent := addMessage (c.entry t.io) (firstBytes (ubuf.getD fun _ => 0) ret.toNat) t.sent }
          else .ok { t with io := io, failed := (t.io, io) :: t.failed }
  | .read caller fd ubuf count =>
      match readImp caller fd ubuf count t.io with
      | .error f => .error f
      | .ok (ret, bytes, io) =>
          if 0 < ret then
            .ok { t with io := io, received := addMessage (c.entry t.io) bytes t.received }
          else .ok { t with io := io, failed := (t.io, io) :: t.failed }

/-- **What the ends of a connection rely on**, for the file structures `ends`. -/
structure HandOff (ends : Set ℕ) (t : IoTrace) : Prop where
  /-- The reads returned the messages of the writes, whole, once and in order, and at most one
  message is still waiting. -/
  inOrder : ∀ q ∈ ends, ∃ waiting, t.sent q = t.received q ++ waiting ∧ waiting.length ≤ 1
  /-- A call that reported a failure left the structures and their buffers as they were. -/
  failuresClean : ∀ p ∈ t.failed, ∀ q ∈ ends, p.2.files q = p.1.files q

/-- **What a call needs.**  A write to an empty socket is shorter than the buffer.  A read from a
full one asks for the length of the waiting message, or for a length that is refused. -/
def Fits (ends : Set ℕ) (t : IoTrace) (c : IoCall) : Prop :=
  match c with
  | .write _ _ _ count =>
      ∀ q ∈ ends, c.entry t.io = .ok (.object q) →
        (t.io.files q).file.socketBufferFull = FALSE → count < BUFSIZ
  | .read _ _ _ count =>
      ∀ q ∈ ends, c.entry t.io = .ok (.object q) →
        (t.io.files q).file.socketBufferFull = TRUE →
          count % 0x10000 = 0 ∨ BUFSIZ < count % 0x10000 ∨
            ∀ message ∈ (t.sent q).getLast?, count % 0x10000 = message.length

/-! ## The two states of a socket -/

/-- What never changes in the file structure of a socket. -/
structure SocketFile (f : File) : Prop where
  used : f.used = TRUE
  magic : f.magic = 1234
  object : f.object = .socket
  canRead : f.sync.canRead = TRUE
  canWrite : f.sync.canWrite = TRUE
  lbfsize : f.lbfsize = BUFSIZ
  /-- The descriptors of the standard streams are not given to sockets. -/
  notStd : STDERR_FILENO < f.file

lemma SocketFile.unbuffered {f : File} (hs : SocketFile f) : isUnbuffered f.object :=
  Or.inl hs.object

/-- The socket can be written. -/
structure SocketEmpty (s : OpenFile) : Prop where
  socket : SocketFile s.file
  flags : s.file.flags = SWR
  full : s.file.socketBufferFull = FALSE

/-- The socket can be read: `message` is waiting in its buffer. -/
structure SocketHolds (s : OpenFile) (message : List UInt8) : Prop where
  socket : SocketFile s.file
  flags : s.file.flags = SRD
  full : s.file.socketBufferFull = TRUE
  content : s.mem.slice s.file.base message.length = message

lemma socketFile_empty (buff slot : ℤ) (mem : Memory UInt8) (hslot : STDERR_FILENO < slot) :
    SocketEmpty ⟨socketFile buff slot, mem⟩ :=
  ⟨⟨rfl, rfl, rfl, rfl, rfl, rfl, hslot⟩, rfl, rfl⟩

section Objects

variable {s : OpenFile} {message : List UInt8} {tid fd count : ℤ} {ubuf : ℕ} {bytes : ℕ → UInt8}

/-- On a socket the two calls go straight to the socket's branch. -/
lemma writeObject_socket (hs : SocketFile s.file) (string : UserBytes) :
    writeObject consoleWrite tid fd string count s = writeSocket tid string count s := by
  obtain ⟨-, -, hobject, -, hcan, -, hstd⟩ := hs
  simp only [STDERR_FILENO] at hstd
  unfold writeObject
  rw [if_neg (by simp [hcan]), if_neg (by simp only [STDIN_FILENO, STDERR_FILENO]; omega),
    if_neg (by simp only [STDOUT_FILENO]; omega)]
  simp only [writeByType, hobject]

lemma readObject_socket (hs : SocketFile s.file) :
    readObject fd ubuf count s = readSocket ubuf count s := by
  unfold readObject
  rw [if_neg (by simp [hs.canRead])]
  simp only [hs.object]

/-- Writing to a full socket and reading from an empty one is refused on the flags, before anything
is changed. -/
lemma writeSocket_holds (h : SocketHolds s message) (string : UserBytes) :
    writeSocket tid string count s = .ok (-1, s) := by
  have hflag : s.file.flags &&& SWR = 0 := by
    rw [h.flags]
    decide
  simp only [writeSocket, hflag, if_true]

lemma readSocket_empty (h : SocketEmpty s) : readSocket ubuf count s = .ok ⟨-1, [], s⟩ := by
  have hflag : s.file.flags &&& SRD = 0 := by
    rw [h.flags]
    decide
  simp only [readSocket, hflag, if_true]

lemma fileWriteBuffer_socket (hs : SocketFile s.file) (hfits : count < BUFSIZ) :
    fileWriteBuffer (some bytes) count s
      = ⟨count, { s with mem := s.mem.store s.file.base (firstBytes bytes (memcpyLen count)) }⟩ := by
  dsimp only [fileWriteBuffer]
  rw [if_neg (by omega), if_pos hs.unbuffered]

lemma fileReadBuffer_socket (hs : SocketFile s.file) (hubuf : ubuf ≠ 0)
    (hpos : 0 < count % 0x10000) (hle : count % 0x10000 ≤ BUFSIZ) :
    fileReadBuffer ubuf count s
      = ⟨count % 0x10000, s.mem.slice s.file.base (count % 0x10000).toNat,
          ⟨{ s.file with flags := s.file.flags ||| SWR },
            (s.mem.load s.file.base (count % 0x10000).toNat).2⟩⟩ := by
  have hlen : memcpyLen (count % 0x10000) = (count % 0x10000).toNat :=
    memcpyLen_eq (by omega) (by omega)
  dsimp only [fileReadBuffer]
  rw [if_neg (by simp [hs.used, hs.magic]), if_neg hubuf, if_neg (by omega),
    if_neg (by rw [hs.lbfsize]; omega), if_pos hs.unbuffered, hlen]
  rfl

/-- A message of `count` bytes goes to the start of the buffer. -/
lemma writeSocket_empty (tid : ℤ) (bytes : ℕ → UInt8) (h : SocketEmpty s) (hpos : 0 < count)
    (hfits : count < BUFSIZ) :
    ∃ s', writeSocket tid (some bytes) count s = .ok (count, s') ∧
      SocketHolds s' (firstBytes bytes count.toNat) := by
  have hflag : s.file.flags &&& SWR ≠ 0 := by
    rw [h.flags]
    decide
  have hcleared : SocketFile { s.file with flags := 0 } := { h.socket with }
  have hlen : memcpyLen count = count.toNat :=
    memcpyLen_eq (by omega) (by simp only [BUFSIZ] at hfits; omega)
  dsimp only [writeSocket]
  rw [if_neg hflag, if_neg (by rw [h.full]; decide), if_pos h.full,
    fileWriteBuffer_socket (s := { s with file := { s.file with flags := 0 } }) hcleared hfits,
    if_neg (by simp only; omega)]
  have hreadable : ((0 : UInt16) &&& ~~~SWR) ||| SRD = SRD := by decide
  refine ⟨_, rfl, { h.socket with }, hreadable, rfl, ?_⟩
  simp only [hlen, firstBytes_length]
  exact Memory.slice_store_same (firstBytes_length _ _)

/-- A message of `BUFSIZ` bytes or more is refused after the flags are gone. -/
lemma writeSocket_overlong (h : SocketEmpty s) (hlong : BUFSIZ ≤ count) :
    writeSocket tid (some bytes) count s
      = .ok (-1, { s with file := { s.file with flags := 0 } }) := by
  have hflag : s.file.flags &&& SWR ≠ 0 := by
    rw [h.flags]
    decide
  dsimp only [writeSocket]
  rw [if_neg hflag, if_neg (by rw [h.full]; decide), if_pos h.full]
  simp only [fileWriteBuffer, if_pos (show count ≥ BUFSIZ from hlong)]
  rfl

/-- A read that asks for nothing or for more than the buffer holds is refused before anything is
changed. -/
lemma readSocket_refused (h : SocketHolds s message)
    (hrefused : count % 0x10000 = 0 ∨ BUFSIZ < count % 0x10000) :
    readSocket ubuf count s = .ok ⟨-1, [], s⟩ := by
  have hflag : s.file.flags &&& SRD ≠ 0 := by
    rw [h.flags]
    decide
  have hread : fileReadBuffer ubuf count s = ⟨EOF, [], s⟩ := by
    dsimp only [fileReadBuffer]
    rw [if_neg (by simp [h.socket.used, h.socket.magic])]
    rcases hrefused with hzero | hlong
    · rw [if_pos (show count % 0x10000 ≤ 0 by omega), ite_self]
    · rw [if_pos (show count % 0x10000 > s.file.lbfsize by rw [h.socket.lbfsize]; exact hlong),
        ite_self, ite_self]
  dsimp only [readSocket]
  rw [if_neg hflag, if_neg (by rw [h.full]; decide), if_pos h.full, hread]
  rfl

/-- Every other read takes what it asks for from the start of the buffer, whatever the length of
the message. -/
lemma readSocket_holds (h : SocketHolds s message) (hubuf : ubuf ≠ 0) (hpos : 0 < count % 0x10000)
    (hle : count % 0x10000 ≤ BUFSIZ) :
    ∃ s', readSocket ubuf count s
        = .ok ⟨count % 0x10000, s.mem.slice s.file.base (count % 0x10000).toNat, s'⟩ ∧
      SocketEmpty s' := by
  have hflag : s.file.flags &&& SRD ≠ 0 := by
    rw [h.flags]
    decide
  dsimp only [readSocket]
  rw [if_neg hflag, if_neg (by rw [h.full]; decide), if_pos h.full,
    fileReadBuffer_socket h.socket hubuf hpos hle, if_neg (by simp only; omega)]
  refine ⟨_, rfl, { h.socket with }, ?_, rfl⟩
  simp only [h.flags]
  decide

end Objects

/-! ## The common checks -/

section Entry

variable {caller : Caller} {fd count : ℤ} {null : Bool} {s : IoState}

/-- The checks end a call without success, or let it get to a file structure with a buffer and a
positive count. -/
lemma ioEntry_cases {entry : Entry} (h : ioEntry caller fd null count s = .ok entry) :
    (∃ ret ≤ 0, entry = .returns ret) ∨ ∃ ptr, entry = .object ptr ∧ null = false ∧ 0 < count := by
  have hends {ret : ℤ} (hret : ret ≤ 0)
      (h : (Except.ok (.returns ret) : Except Fault Entry) = .ok entry) :
      ∃ ret ≤ 0, entry = .returns ret := ⟨ret, hret, by simpa using h.symm⟩
  unfold ioEntry at h
  by_cases hpid : caller.pid < 0 ∨ caller.pid ≥ PROCESS_COUNT_MAX
  · rw [if_pos hpid] at h
    exact Or.inl (hends (by decide) h)
  rw [if_neg hpid] at h
  cases hp : s.processList caller.pid.toNat with
  | none =>
      rw [hp] at h
      exact Or.inl (hends (by decide) h)
  | some p =>
      simp only [hp] at h
      split_ifs at h with hvalid hfd hnull hneg hzero
      · exact Or.inl (hends (by decide) h)
      · exact Or.inl (hends (by decide) h)
      · exact Or.inl (hends (by decide) h)
      · exact Or.inl (hends (by decide) h)
      · exact Or.inl (hends (by decide) h)
      cases hfile : getFileFromFd caller.pid fd s with
      | error f => simp [hfile] at h
      | ok ptr =>
          simp only [hfile] at h
          split_ifs at h
          · exact Or.inl (hends (by decide) h)
          · exact Or.inr ⟨ptr, by simpa using h.symm, by simpa using hnull, by omega⟩

end Entry

/-! ## One call -/

section Step

variable {consoleWrite} {ends : Set ℕ} {t t' : IoTrace}

/-- Where a socket and the histories of its messages are. -/
def SocketInv (q : ℕ) (t : IoTrace) : Prop :=
  (SocketEmpty (t.io.files q) ∧ t.sent q = t.received q) ∨
    ∃ message, SocketHolds (t.io.files q) message ∧ t.sent q = t.received q ++ [message]

/-- The invariant behind `HandOff`. -/
structure HandOffInv (ends : Set ℕ) (t : IoTrace) : Prop where
  sockets : ∀ q ∈ ends, SocketInv q t
  failuresClean : ∀ p ∈ t.failed, ∀ q ∈ ends, p.2.files q = p.1.files q

lemma HandOffInv.handOff (h : HandOffInv ends t) : HandOff ends t where
  inOrder q hq := by
    rcases h.sockets q hq with ⟨-, heq⟩ | ⟨message, -, heq⟩
    · exact ⟨[], by simpa using heq, by simp⟩
    · exact ⟨[message], heq, by simp⟩
  failuresClean := h.failuresClean

/-- A call changes one file structure; the others keep their state and their histories. -/
lemma HandOffInv.update (h : HandOffInv ends t) {ptr : ℕ} {file : OpenFile}
    (hio : t'.io = t.io.setFile ptr file) (hsent : ∀ q ≠ ptr, t'.sent q = t.sent q)
    (hreceived : ∀ q ≠ ptr, t'.received q = t.received q)
    (hptr : ptr ∈ ends → SocketInv ptr t')
    (hfailed : t'.failed = t.failed ∨
      t'.failed = (t.io, t'.io) :: t.failed ∧ (ptr ∈ ends → file = t.io.files ptr)) :
    HandOffInv ends t' where
  sockets q hq := by
    by_cases hqp : q = ptr
    · subst hqp
      exact hptr hq
    · simp only [SocketInv, hio, IoState.setFile_of_ne _ _ hqp, hsent q hqp, hreceived q hqp]
      exact h.sockets q hq
  failuresClean p hp q hq := by
    rcases hfailed with hfailed | ⟨hfailed, hsame⟩
    · exact h.failuresClean p (hfailed ▸ hp) q hq
    · rw [hfailed] at hp
      rcases List.mem_cons.1 hp with rfl | hp
      · simp only [hio]
        by_cases hqp : q = ptr
        · subst hqp
          rw [IoState.setFile_same, hsame hq]
        · exact IoState.setFile_of_ne _ _ hqp
      · exact h.failuresClean p hp q hq

/-- A call that is refused on an unchanged file structure changes nothing the ends rely on. -/
lemma HandOffInv.refused (h : HandOffInv ends t) (hfiles : ∀ q ∈ ends, t'.io.files q = t.io.files q)
    (hsent : t'.sent = t.sent) (hreceived : t'.received = t.received)
    (hfailed : t'.failed = (t.io, t'.io) :: t.failed) : HandOffInv ends t' where
  sockets q hq := by
    simp only [SocketInv, hfiles q hq, hsent, hreceived]
    exact h.sockets q hq
  failuresClean p hp q hq := by
    rw [hfailed] at hp
    rcases List.mem_cons.1 hp with rfl | hp
    · exact hfiles q hq
    · exact h.failuresClean p hp q hq

/-- **What a call of `write` can do to the trace.** -/
lemma ioStep_write {caller : Caller} {fd count : ℤ} {ubuf : UserBytes}
    (h : ioStep consoleWrite t (.write caller fd ubuf count) = .ok t') :
    ((∀ q, IoCall.entry t.io (.write caller fd ubuf count) ≠ .ok (.object q)) ∧ t'.io = t.io ∧
        t'.sent = t.sent ∧ t'.received = t.received ∧ t'.failed = (t.io, t'.io) :: t.failed) ∨
      ∃ ptr bytes ret file, ubuf = some bytes ∧ 0 < count ∧
        IoCall.entry t.io (.write caller fd ubuf count) = .ok (.object ptr) ∧
        writeObject consoleWrite caller.tid fd (some bytes) count (t.io.files ptr)
          = .ok (ret, file) ∧
        t'.io = t.io.setFile ptr file ∧ t'.received = t.received ∧
        ((0 < ret ∧ t'.failed = t.failed ∧ t'.sent
            = Function.update t.sent ptr (t.sent ptr ++ [firstBytes bytes ret.toNat])) ∨
          (ret ≤ 0 ∧ t'.failed = (t.io, t'.io) :: t.failed ∧ t'.sent = t.sent)) := by
  simp only [ioStep, writeImp, IoCall.entry] at h ⊢
  cases hentry : ioEntry caller fd ubuf.isNone count t.io with
  | error f => simp [hentry] at h
  | ok entry =>
      rcases ioEntry_cases hentry with ⟨ret, hret, rfl⟩ | ⟨ptr, rfl, hnull, hcount⟩
      · left
        simp only [hentry, if_neg (show ¬ 0 < ret by omega)] at h
        obtain rfl : _ = t' := by simpa using h
        exact ⟨by simp, rfl, rfl, rfl, rfl⟩
      · right
        cases ubuf with
        | none => simp at hnull
        | some bytes =>
            simp only [hentry] at h
            cases hobj : writeObject consoleWrite caller.tid fd (some bytes) count
                (t.io.files ptr) with
            | error f => simp [hobj] at h
            | ok result =>
                obtain ⟨ret, file⟩ := result
                simp only [hobj] at h
                refine ⟨ptr, bytes, ret, file, rfl, hcount, rfl, hobj, ?_⟩
                split_ifs at h with hpos
                · obtain rfl : _ = t' := by simpa using h
                  exact ⟨rfl, rfl, Or.inl ⟨hpos, rfl, rfl⟩⟩
                · obtain rfl : _ = t' := by simpa using h
                  exact ⟨rfl, rfl, Or.inr ⟨by omega, rfl, rfl⟩⟩

/-- **What a call of `read` can do to the trace.** -/
lemma ioStep_read {caller : Caller} {fd count : ℤ} {ubuf : ℕ}
    (h : ioStep consoleWrite t (.read caller fd ubuf count) = .ok t') :
    ((∀ q, IoCall.entry t.io (.read caller fd ubuf count) ≠ .ok (.object q)) ∧ t'.io = t.io ∧
        t'.sent = t.sent ∧ t'.received = t.received ∧ t'.failed = (t.io, t'.io) :: t.failed) ∨
      ∃ ptr r, ubuf ≠ 0 ∧
        IoCall.entry t.io (.read caller fd ubuf count) = .ok (.object ptr) ∧
        readObject fd ubuf count (t.io.files ptr) = .ok r ∧
        t'.io = t.io.setFile ptr r.after ∧ t'.sent = t.sent ∧
        ((0 < r.ret ∧ t'.failed = t.failed ∧
            t'.received = Function.update t.received ptr (t.received ptr ++ [r.bytes])) ∨
          (r.ret ≤ 0 ∧ t'.failed = (t.io, t'.io) :: t.failed ∧ t'.received = t.received)) := by
  simp only [ioStep, readImp, IoCall.entry] at h ⊢
  cases hentry : ioEntry caller fd (decide (ubuf = 0)) count t.io with
  | error f => simp [hentry] at h
  | ok entry =>
      rcases ioEntry_cases hentry with ⟨ret, hret, rfl⟩ | ⟨ptr, rfl, hnull, hcount⟩
      · left
        simp only [hentry, if_neg (show ¬ 0 < ret by omega)] at h
        obtain rfl : _ = t' := by simpa using h
        exact ⟨by simp, rfl, rfl, rfl, rfl⟩
      · right
        simp only [hentry] at h
        cases hobj : readObject fd ubuf count (t.io.files ptr) with
        | error f => simp [hobj] at h
        | ok r =>
            simp only [hobj] at h
            refine ⟨ptr, r, by simpa using hnull, rfl, hobj, ?_⟩
            split_ifs at h with hpos
            · obtain rfl : _ = t' := by simpa using h
              exact ⟨rfl, rfl, Or.inl ⟨hpos, rfl, rfl⟩⟩
            · obtain rfl : _ = t' := by simpa using h
              exact ⟨rfl, rfl, Or.inr ⟨by omega, rfl, rfl⟩⟩

/-- A call that gets to no file structure of the ends needs nothing. -/
lemma fits_of_elsewhere {c : IoCall}
    (h : ∀ q ∈ ends, IoCall.entry t.io c ≠ .ok (.object q)) : Fits ends t c := by
  cases c with
  | write caller fd ubuf count => exact fun q hq hentry => absurd hentry (h q hq)
  | read caller fd ubuf count => exact fun q hq hentry => absurd hentry (h q hq)

/-- **A call of `write` keeps what the ends rely on exactly when it fits.** -/
lemma HandOffInv.write_iff {caller : Caller} {fd count : ℤ} {ubuf : UserBytes}
    (h : HandOffInv ends t) (hstep : ioStep consoleWrite t (.write caller fd ubuf count) = .ok t') :
    (HandOff ends t' ↔ Fits ends t (.write caller fd ubuf count)) ∧
      (Fits ends t (.write caller fd ubuf count) → HandOffInv ends t') := by
  have hgood (hfits : Fits ends t (.write caller fd ubuf count)) (hinv : HandOffInv ends t') :
      (HandOff ends t' ↔ Fits ends t (.write caller fd ubuf count)) ∧
        (Fits ends t (.write caller fd ubuf count) → HandOffInv ends t') :=
    ⟨iff_of_true hinv.handOff hfits, fun _ => hinv⟩
  rcases ioStep_write hstep with ⟨helse, hio, hsent, hreceived, hfailed⟩ |
    ⟨ptr, bytes, ret, file, rfl, hcount, hentry, hobj, hio, hreceived, hcase⟩
  · exact hgood (fits_of_elsewhere fun q _ => helse q)
      (h.refused (fun q _ => by rw [hio]) hsent hreceived hfailed)
  have honly (q : ℕ) (hq : IoCall.entry t.io (.write caller fd (some bytes) count)
      = .ok (.object q)) : q = ptr := by
    rw [hentry] at hq
    simpa using hq.symm
  by_cases hends : ptr ∈ ends
  swap
  · -- the call goes to a file that is no end of the connection
    refine hgood (fits_of_elsewhere fun q hq hqe => hends (honly q hqe ▸ hq)) ?_
    refine h.update hio (fun q hq => ?_) (fun q _ => by rw [hreceived])
      (fun hmem => absurd hmem hends) ?_
    · rcases hcase with ⟨-, -, hsent⟩ | ⟨-, -, hsent⟩
      · rw [hsent, Function.update_of_ne hq]
      · rw [hsent]
    · rcases hcase with ⟨-, hfailed, -⟩ | ⟨-, hfailed, -⟩
      · exact Or.inl hfailed
      · exact Or.inr ⟨hfailed, fun hmem => absurd hmem hends⟩
  rcases h.sockets ptr hends with ⟨hempty, hhist⟩ | ⟨message, hholds, hhist⟩
  · rw [writeObject_socket consoleWrite hempty.socket] at hobj
    by_cases hfits : count < BUFSIZ
    · obtain ⟨file', hwrite, hholds⟩ := writeSocket_empty caller.tid bytes hempty hcount
        hfits
      obtain ⟨rfl, rfl⟩ : count = ret ∧ file' = file := by simpa [hwrite] using hobj
      obtain ⟨-, hfailed, hsent⟩ : 0 < count ∧ t'.failed = t.failed ∧ t'.sent
          = Function.update t.sent ptr (t.sent ptr ++ [firstBytes bytes count.toNat]) := by
        rcases hcase with hcase | ⟨hneg, -⟩
        · exact hcase
        · omega
      refine hgood (fun q _ _ _ => hfits) (h.update hio (fun q hq => ?_)
        (fun q _ => by rw [hreceived])
        (fun _ => Or.inr ⟨firstBytes bytes count.toNat, ?_, ?_⟩) (Or.inl hfailed))
      · rw [hsent, Function.update_of_ne hq]
      · rw [hio, IoState.setFile_same]
        exact hholds
      · rw [hsent, Function.update_self, hreceived, hhist]
    · -- the flags are lost, which the record of failures shows
      rw [writeSocket_overlong hempty (by omega)] at hobj
      obtain ⟨rfl, rfl⟩ := by simpa using hobj
      have hnofit : ¬ Fits ends t (.write caller fd (some bytes) count) :=
        fun hf => hfits (hf ptr hends hentry hempty.full)
      refine ⟨iff_of_false (fun hoff => ?_) hnofit, fun hf => absurd hf hnofit⟩
      obtain ⟨-, hfailed, -⟩ : (-1 : ℤ) ≤ 0 ∧ t'.failed = (t.io, t'.io) :: t.failed ∧
          t'.sent = t.sent := by
        rcases hcase with ⟨hpos, -⟩ | hcase
        · omega
        · exact hcase
      have hclean := hoff.failuresClean (t.io, t'.io) (by rw [hfailed]; simp) ptr hends
      simp only [hio, IoState.setFile_same] at hclean
      have hflags : (0 : UInt16) = (t.io.files ptr).file.flags :=
        congrArg (fun f : OpenFile => f.file.flags) hclean
      rw [hempty.flags] at hflags
      exact absurd hflags (by decide)
  · rw [writeObject_socket consoleWrite hholds.socket, writeSocket_holds hholds] at hobj
    obtain ⟨rfl, rfl⟩ := by simpa using hobj
    have hfits : Fits ends t (.write caller fd (some bytes) count) := by
      intro q _ hqe hfull
      rw [honly q hqe, hholds.full] at hfull
      exact absurd hfull (by decide)
    obtain ⟨-, hfailed, hsent⟩ : (-1 : ℤ) ≤ 0 ∧ t'.failed = (t.io, t'.io) :: t.failed ∧
        t'.sent = t.sent := by
      rcases hcase with ⟨hpos, -⟩ | hcase
      · omega
      · exact hcase
    rw [IoState.setFile_self] at hio
    exact hgood hfits (h.refused (fun q _ => by rw [hio]) hsent hreceived hfailed)

/-- **A call of `read` keeps what the ends rely on exactly when it fits.** -/
lemma HandOffInv.read_iff {caller : Caller} {fd count : ℤ} {ubuf : ℕ}
    (h : HandOffInv ends t) (hstep : ioStep consoleWrite t (.read caller fd ubuf count) = .ok t') :
    (HandOff ends t' ↔ Fits ends t (.read caller fd ubuf count)) ∧
      (Fits ends t (.read caller fd ubuf count) → HandOffInv ends t') := by
  have hgood (hfits : Fits ends t (.read caller fd ubuf count)) (hinv : HandOffInv ends t') :
      (HandOff ends t' ↔ Fits ends t (.read caller fd ubuf count)) ∧
        (Fits ends t (.read caller fd ubuf count) → HandOffInv ends t') :=
    ⟨iff_of_true hinv.handOff hfits, fun _ => hinv⟩
  rcases ioStep_read hstep with ⟨helse, hio, hsent, hreceived, hfailed⟩ |
    ⟨ptr, r, hubuf, hentry, hobj, hio, hsent, hcase⟩
  · exact hgood (fits_of_elsewhere fun q _ => helse q)
      (h.refused (fun q _ => by rw [hio]) hsent hreceived hfailed)
  have honly (q : ℕ) (hq : IoCall.entry t.io (.read caller fd ubuf count)
      = .ok (.object q)) : q = ptr := by
    rw [hentry] at hq
    simpa using hq.symm
  -- a refused read: nothing has changed
  have hunchanged (hr : r = ⟨-1, [], t.io.files ptr⟩) : HandOffInv ends t' := by
    subst hr
    rw [IoState.setFile_self] at hio
    rcases hcase with ⟨hpos, -⟩ | ⟨-, hfailed, hreceived⟩
    · simp at hpos
    · exact h.refused (fun q _ => by rw [hio]) hsent hreceived hfailed
  by_cases hends : ptr ∈ ends
  swap
  · refine hgood (fits_of_elsewhere fun q hq hqe => hends (honly q hqe ▸ hq)) ?_
    refine h.update hio (fun q _ => by rw [hsent]) (fun q hq => ?_)
      (fun hmem => absurd hmem hends) ?_
    · rcases hcase with ⟨-, -, hreceived⟩ | ⟨-, -, hreceived⟩
      · rw [hreceived, Function.update_of_ne hq]
      · rw [hreceived]
    · rcases hcase with ⟨-, hfailed, -⟩ | ⟨-, hfailed, -⟩
      · exact Or.inl hfailed
      · exact Or.inr ⟨hfailed, fun hmem => absurd hmem hends⟩
  rcases h.sockets ptr hends with ⟨hempty, hhist⟩ | ⟨message, hholds, hhist⟩
  · rw [readObject_socket hempty.socket, readSocket_empty hempty] at hobj
    refine hgood (fun q _ hqe hfull => ?_) (hunchanged (by simpa using hobj.symm))
    rw [honly q hqe, hempty.full] at hfull
    exact absurd hfull (by decide)
  · rw [readObject_socket hholds.socket] at hobj
    have hlast : (t.sent ptr).getLast? = some message := by
      rw [hhist, List.getLast?_append, List.getLast?_singleton]
      rfl
    by_cases hrefused : count % 0x10000 = 0 ∨ BUFSIZ < count % 0x10000
    · rw [readSocket_refused hholds hrefused] at hobj
      refine hgood (fun q _ _ _ => ?_) (hunchanged (by simpa using hobj.symm))
      exact hrefused.imp_right Or.inl
    rw [not_or] at hrefused
    obtain ⟨file', hread, hempty⟩ := readSocket_holds hholds hubuf
      (show 0 < count % 0x10000 by omega) (show count % 0x10000 ≤ BUFSIZ by omega)
    rw [hread] at hobj
    obtain rfl := by simpa using hobj
    obtain ⟨-, hfailed, hreceived⟩ : 0 < count % 0x10000 ∧ t'.failed = t.failed ∧
        t'.received = Function.update t.received ptr (t.received ptr ++
          [(t.io.files ptr).mem.slice (t.io.files ptr).file.base (count % 0x10000).toNat]) := by
      rcases hcase with hcase | ⟨hneg, -⟩
      · exact hcase
      · simp only at hneg
        omega
    by_cases hlen : count % 0x10000 = message.length
    · -- the read asks for the whole message
      have hbytes : (t.io.files ptr).mem.slice (t.io.files ptr).file.base
          (count % 0x10000).toNat = message := by
        rw [hlen, Int.toNat_natCast]
        exact hholds.content
      refine hgood (fun q _ hqe _ => Or.inr (Or.inr ?_))
        (h.update hio (fun q _ => by rw [hsent]) (fun q hq => ?_) (fun _ => Or.inl ⟨?_, ?_⟩)
          (Or.inl hfailed))
      · rw [honly q hqe, hlast]
        simpa using hlen
      · rw [hreceived, Function.update_of_ne hq]
      · rw [hio, IoState.setFile_same]
        exact hempty
      · rw [hsent, hreceived, Function.update_self, hhist, hbytes]
    · -- the read returns bytes of another length than the message
      have hnofit : ¬ Fits ends t (.read caller fd ubuf count) := by
        intro hf
        rcases hf ptr hends hentry hholds.full with hzero | hlong | hmessage
        · exact hrefused.1 hzero
        · exact hrefused.2 hlong
        · exact hlen (hmessage message hlast)
      refine ⟨iff_of_false (fun hoff => ?_) hnofit, fun hf => absurd hf hnofit⟩
      obtain ⟨waiting, hwait, -⟩ := hoff.inOrder ptr hends
      rw [hsent, hreceived, Function.update_self, hhist, List.append_assoc] at hwait
      have hhead := List.append_cancel_left hwait
      simp only [List.singleton_append, List.cons.injEq] at hhead
      have hlength := congrArg List.length hhead.1
      rw [Memory.slice_length] at hlength
      omega

end Step

/-! ## Whole runs -/

/-- A state with nothing in any history. -/
def IoTrace.start (s : IoState) : IoTrace := ⟨s, fun _ => [], fun _ => [], []⟩

/-- **The ends of a connection get what they rely on in every state of a run exactly when every
call of the run fits**, whatever processes make the calls, in whatever order, and whatever other
files they use in between. -/
theorem handOff_iff_fits (s : IoState) (ends : Set ℕ) (hends : ∀ q ∈ ends, SocketEmpty (s.files q))
    (calls : List IoCall) :
    Along (ioStep consoleWrite) (HandOff ends) (.start s) calls ↔
      Meets (ioStep consoleWrite) (Fits ends) (.start s) calls := by
  refine along_iff_meets (HandOffInv ends) (fun _ h => h.handOff) ?_ ?_ calls (.start s)
    ⟨fun q hq => Or.inl ⟨hends q hq, rfl⟩, by simp [IoTrace.start]⟩
  · intro t c t' h hstep
    cases c with
    | write caller fd ubuf count => exact (h.write_iff hstep).1
    | read caller fd ubuf count => exact (h.read_iff hstep).1
  · intro t c t' h hfits hstep
    cases c with
    | write caller fd ubuf count => exact (h.write_iff hstep).2 hfits
    | read caller fd ubuf count => exact (h.read_iff hstep).2 hfits

/-! ## A connected pair -/

/-- Client (process 5) and server (process 6) after `sys_accept`: the client's descriptor 3 and the
server's descriptor 31 name the structure at 1, the server's descriptor 3 its own one at 2. -/
def connectedPair : IoState where
  processList pid :=
    if pid = 5 then some ⟨TRUE, 1234, fun fd => if fd = 3 then 1 else 0⟩
    else if pid = 6 then
      some ⟨TRUE, 1234, fun fd => if fd = 31 then 1 else if fd = 3 then 2 else 0⟩
    else none
  files ptr :=
    if ptr = 1 then ⟨socketFile 0x30100048 31, ⟨fun _ => 0, []⟩⟩
    else ⟨socketFile 0x30100490 3, ⟨fun _ => 0, []⟩⟩

lemma connectedPair_empty : ∀ q ∈ ({1, 2} : Set ℕ), SocketEmpty (connectedPair.files q) := by
  rintro q (rfl | rfl)
  · exact socketFile_empty 0x30100048 31 ⟨fun _ => 0, []⟩ (by decide)
  · exact socketFile_empty 0x30100490 3 ⟨fun _ => 0, []⟩ (by decide)

theorem handOff_iff_fits_connectedPair :
    Along (ioStep fun _ count => .ok count) (HandOff {1, 2}) (.start connectedPair)
        [.write ⟨5, 50⟩ 3 (some fun _ => 65) 10, .read ⟨6, 60⟩ 31 1 10] ↔
      Meets (ioStep fun _ count => .ok count) (Fits {1, 2}) (.start connectedPair)
        [.write ⟨5, 50⟩ 3 (some fun _ => 65) 10, .read ⟨6, 60⟩ 31 1 10] :=
  handOff_iff_fits (fun _ count => .ok count) connectedPair {1, 2} connectedPair_empty _

/-- The client writes 1024 bytes: the call fails, and with the flags gone the next write of one byte
and the next read fail as well.  Or it writes 10 bytes and the server reads 16: the server gets 16
bytes for the message. -/
theorem handOff_fails :
    (¬ Along (ioStep fun _ count => .ok count) (HandOff {1, 2}) (.start connectedPair)
        [.write ⟨5, 50⟩ 3 (some fun _ => 65) 1024] ∧
      ∃ t, runs (ioStep fun _ count => .ok count) (.start connectedPair)
          [.write ⟨5, 50⟩ 3 (some fun _ => 65) 1024, .write ⟨5, 50⟩ 3 (some fun _ => 65) 1,
            .read ⟨6, 60⟩ 31 1 1] = .ok t ∧ t.failed.length = 3) ∧
      ¬ Along (ioStep fun _ count => .ok count) (HandOff {1, 2}) (.start connectedPair)
        [.write ⟨5, 50⟩ 3 (some fun _ => 65) 10, .read ⟨6, 60⟩ 31 1 16] := by
  refine ⟨⟨fun h => ?_, _, rfl, rfl⟩, fun h => ?_⟩
  · have hclean := (h.2 _ rfl).failuresClean _ (List.mem_cons_self ..) 1 (by simp)
    have hflags : (0 : UInt16) = SWR := congrArg (fun f : OpenFile => f.file.flags) hclean
    exact absurd hflags (by decide)
  · obtain ⟨waiting, hwait, -⟩ := ((h.2 _ rfl).2 _ rfl).inOrder 1 (by simp)
    have hlength : (10 : ℕ) = 16 :=
      congrArg (fun log : List (List UInt8) => (log.headD []).length) hwait
    exact absurd hlength (by decide)

end Gramado
