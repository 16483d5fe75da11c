import Gramado.Fs.Pipe
import Gramado.Fs.SocketHandOff

/-!
# The action word of a file

`sys_set_file_sync` and `sys_get_file_sync` of `kres/fs/fs.c`: the two ends of a connection leave each other
a word in the file structure that they share.  Sending and receiving a message leave it as it is.
-/

namespace Gramado

/-! ## The action word -/

/-- `SYNC_REQUEST_GET_ACTION`. -/
def SYNC_REQUEST_GET_ACTION : ℤ := 2

/-- `ACTION_REQUEST`. -/
def ACTION_REQUEST : ℤ := 1000

/-- `ACTION_REPLY`. -/
def ACTION_REPLY : ℤ := 2000

/-- `ACTION_ERROR`. -/
def ACTION_ERROR : ℤ := 4000

/-- The file structure that `sys_set_file_sync` and `sys_get_file_sync` get to. -/
def syncObject (caller : Caller) (fd : ℤ) (s : IoState) : Option ℕ :=
  if fd < 0 ∨ fd ≥ OPEN_MAX then none
  else if caller.pid < 0 ∨ caller.pid ≥ PROCESS_COUNT_MAX then none
  else
    match s.processList caller.pid.toNat with
    | none => none
    | some p =>
        if p.magic ≠ 1234 then none
        else if p.objects fd.toNat = 0 then none
        else
          let f := (s.files (p.objects fd.toNat)).file
          if f.used ≠ TRUE ∨ f.magic ≠ 1234 then none else some (p.objects fd.toNat)

/-- `sys_set_file_sync`. -/
def sysSetFileSync (caller : Caller) (fd request data : ℤ) (s : IoState) : IoState :=
  match syncObject caller fd s with
  | none => s
  | some ptr => s.setFile ptr { s.files ptr with file := setFileSync request data (s.files ptr).file }

/-- `sys_get_file_sync`. -/
def sysGetFileSync (caller : Caller) (fd request : ℤ) (s : IoState) : ℤ :=
  if fd < 0 ∨ fd ≥ OPEN_MAX then -EBADF
  else
    match syncObject caller fd s with
    | none => -1
    | some ptr => if request = SYNC_REQUEST_GET_ACTION then (s.files ptr).file.sync.action else -1

/-! ## The file of a connection -/

/-- The action word is set. -/
def OpenFile.setAction (v : ℤ) (f : OpenFile) : OpenFile :=
  { f with file := { f.file with sync := { f.file.sync with action := v } } }

/-- The server has taken up the connection. -/
def OpenFile.accepted (f : OpenFile) : OpenFile := { f with file := { f.file with file := 31 } }

section File

variable {f f' : OpenFile} {m : List UInt8} {v : ℤ}

lemma SocketFile.setAction (h : SocketFile f.file) : SocketFile (f.setAction v).file := { h with }

lemma SocketEmpty.setAction (h : SocketEmpty f) : SocketEmpty (f.setAction v) :=
  ⟨h.socket.setAction, h.flags, h.full⟩

lemma SocketHolds.setAction (h : SocketHolds f m) : SocketHolds (f.setAction v) m :=
  ⟨h.socket.setAction, h.flags, h.full, h.content⟩

lemma SocketFile.accepted (h : SocketFile f.file) : SocketFile f.accepted.file :=
  { h with notStd := (by decide : STDERR_FILENO < 31) }

lemma SocketEmpty.accepted (h : SocketEmpty f) : SocketEmpty f.accepted :=
  ⟨h.socket.accepted, h.flags, h.full⟩

lemma SocketHolds.accepted (h : SocketHolds f m) : SocketHolds f.accepted m :=
  ⟨h.socket.accepted, h.flags, h.full, h.content⟩

/-- What was read is what was waiting, and the action word stays. -/
lemma readSocket_message (h : SocketHolds f m) (hm : m.length = 512) {ubuf : ℕ} (hubuf : ubuf ≠ 0) :
    ∃ f', readSocket ubuf 512 f = .ok ⟨512, m, f'⟩ ∧ SocketEmpty f' ∧ f'.file.sync = f.file.sync := by
  have hflag : f.file.flags &&& SRD ≠ 0 := by
    rw [h.flags]
    decide
  have hcontent : f.mem.slice f.file.base 512 = m := hm ▸ h.content
  have hread : fileReadBuffer ubuf 512 f = ⟨512, m, ⟨{ f.file with flags := f.file.flags ||| SWR },
      (f.mem.load f.file.base 512).2⟩⟩ := by
    rw [fileReadBuffer_socket h.socket hubuf (by decide) (by decide)]
    rw [← hcontent]
    rfl
  dsimp only [readSocket]
  rw [if_neg hflag, if_neg (by rw [h.full]; decide), if_pos h.full, hread,
    if_neg (show ¬(512 : ℤ) ≤ 0 by decide)]
  refine ⟨_, rfl, ⟨{ h.socket with }, ?_, rfl⟩, rfl⟩
  simp only [h.flags]
  decide

/-- A message goes to the buffer, and the action word stays. -/
lemma writeSocket_message (h : SocketEmpty f) (tid : ℤ) (b : ℕ → UInt8) :
    ∃ f', writeSocket tid (some b) 512 f = .ok (512, f') ∧ SocketHolds f' (firstBytes b 512) ∧
      f'.file.sync = f.file.sync := by
  obtain ⟨f', hwrite, hholds⟩ := writeSocket_empty tid b h (by decide : (0 : ℤ) < 512) (by decide)
  refine ⟨f', hwrite, hholds, ?_⟩
  have hflag : f.file.flags &&& SWR ≠ 0 := by
    rw [h.flags]
    decide
  have hcleared : SocketFile { f.file with flags := 0 } := { h.socket with }
  dsimp only [writeSocket] at hwrite
  rw [if_neg hflag, if_neg (by rw [h.full]; decide), if_pos h.full,
    fileWriteBuffer_socket (s := { f with file := { f.file with flags := 0 } }) hcleared (by decide),
    if_neg (show ¬(512 : ℤ) ≤ 0 by decide)] at hwrite
  obtain ⟨-, rfl⟩ := Prod.mk.inj (Except.ok.inj hwrite)
  rfl

end File

/-! ## Descriptors -/

/-- The descriptor of the process names the file structure. -/
structure NamesFile (s : IoState) (caller : Caller) (fd : ℤ) (ptr : ℕ) : Prop where
  pid : 0 ≤ caller.pid ∧ caller.pid < PROCESS_COUNT_MAX
  range : 0 ≤ fd ∧ fd < OPEN_MAX
  ne_null : ptr ≠ 0
  process : ∃ p, s.processList caller.pid.toNat = some p ∧ p.used = TRUE ∧ p.magic = 1234 ∧
    p.objects fd.toNat = ptr

namespace NamesFile

variable {s : IoState} {caller : Caller} {fd : ℤ} {ptr q : ℕ} {f : OpenFile}

lemma setFile (h : NamesFile s caller fd ptr) : NamesFile (s.setFile q f) caller fd ptr :=
  ⟨h.pid, h.range, h.ne_null, h.process⟩

/-- The checks of `read` and `write`. -/
lemma ioEntry (h : NamesFile s caller fd ptr) : ioEntry caller fd false 512 s = .ok (.object ptr) := by
  obtain ⟨p, hp, hused, hmagic, hptr⟩ := h.process
  obtain ⟨hpid, hpid'⟩ := h.pid
  obtain ⟨hfd, hfd'⟩ := h.range
  have hcaller : ¬(caller.pid < 0 ∨ caller.pid ≥ PROCESS_COUNT_MAX) := by omega
  have hrange : ¬(fd < 0 ∨ fd ≥ OPEN_MAX) := by omega
  have hfile : getFileFromFd caller.pid fd s = .ok ptr := by
    rw [getFileFromFd, if_neg (show ¬(fd < 0 ∨ fd ≥ 32) from hrange), if_neg hcaller, hp]
    simp only [hused, hmagic, hptr, ne_eq, not_true, if_false]
  rw [Gramado.ioEntry, if_neg hcaller, hp]
  simp only [hused, hmagic, hfile, ne_eq, not_true, or_self, if_false, if_neg hrange, Bool.false_eq_true,
    if_neg h.ne_null]
  rfl

/-- The checks of the calls on the action word. -/
lemma syncObject (h : NamesFile s caller fd ptr) (hf : SocketFile (s.files ptr).file) :
    syncObject caller fd s = some ptr := by
  obtain ⟨p, hp, hused, hmagic, hptr⟩ := h.process
  obtain ⟨hpid, hpid'⟩ := h.pid
  obtain ⟨hfd, hfd'⟩ := h.range
  have hcaller : ¬(caller.pid < 0 ∨ caller.pid ≥ PROCESS_COUNT_MAX) := by omega
  have hrange : ¬(fd < 0 ∨ fd ≥ OPEN_MAX) := by omega
  rw [Gramado.syncObject, if_neg hrange, if_neg hcaller, hp]
  simp only [hmagic, hptr, hf.used, hf.magic, ne_eq, not_true, or_self, if_false, if_neg h.ne_null]

lemma setSync (h : NamesFile s caller fd ptr) (hf : SocketFile (s.files ptr).file) (v : ℤ) :
    sysSetFileSync caller fd SYNC_REQUEST_SET_ACTION v s = s.setFile ptr ((s.files ptr).setAction v) := by
  rw [sysSetFileSync, h.syncObject hf]
  rfl

lemma getSync (h : NamesFile s caller fd ptr) (hf : SocketFile (s.files ptr).file) :
    sysGetFileSync caller fd SYNC_REQUEST_GET_ACTION s = (s.files ptr).file.sync.action := by
  obtain ⟨hfd, hfd'⟩ := h.range
  rw [sysGetFileSync, if_neg (by omega), h.syncObject hf]
  rfl

variable (consoleWrite : UserBytes → ℤ → Except Fault ℤ)

lemma write (h : NamesFile s caller fd ptr) (hf : SocketEmpty (s.files ptr)) (b : ℕ → UInt8) :
    ∃ f, writeImp consoleWrite caller fd (some b) 512 s = .ok (512, s.setFile ptr f) ∧
      SocketHolds f (firstBytes b 512) ∧ f.file.sync = (s.files ptr).file.sync := by
  obtain ⟨f, hwrite, hholds, hsync⟩ := writeSocket_message hf caller.tid b
  refine ⟨f, ?_, hholds, hsync⟩
  rw [writeImp, show (some b : UserBytes).isNone = false from rfl, h.ioEntry]
  dsimp only
  rw [writeObject_socket consoleWrite hf.socket, hwrite]

lemma read (h : NamesFile s caller fd ptr) {m : List UInt8} (hf : SocketHolds (s.files ptr) m)
    (hm : m.length = 512) {ubuf : ℕ} (hubuf : ubuf ≠ 0) :
    ∃ f, readImp caller fd ubuf 512 s = .ok (512, m, s.setFile ptr f) ∧ SocketEmpty f ∧
      f.file.sync = (s.files ptr).file.sync := by
  obtain ⟨f, hread, hempty, hsync⟩ := readSocket_message hf hm hubuf
  refine ⟨f, ?_, hempty, hsync⟩
  rw [readImp, show decide (ubuf = 0) = false from decide_eq_false hubuf, h.ioEntry]
  dsimp only
  rw [readObject_socket hf.socket, hread]

end NamesFile

end Gramado
