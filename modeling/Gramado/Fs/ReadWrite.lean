import Gramado.Fs.File

/-!
# The system calls `read` and `write`

`__read_imp` and `__write_imp` of `kres/fs/fslib.c`: the checks they share (`ioEntry`), and what
they do with a file, by the type of its object.

A call is made by the thread and the process that are running; `Caller` names both.  The credits,
the wake-ups and the yields that the calls hand to the threads change no file and are left out; what
`console_write` draws is left out as well and stands as a parameter that gives its return value.
-/

namespace Gramado

/-- `OPEN_MAX`. -/
def OPEN_MAX : ℤ := 32

/-- `PROCESS_COUNT_MAX`. -/
def PROCESS_COUNT_MAX : ℤ := 1024

/-- `EBADF`. -/
def EBADF : ℤ := 9

/-- `EINVAL`. -/
def EINVAL : ℤ := 22

/-- `STDIN_FILENO`. -/
def STDIN_FILENO : ℤ := 0

/-- `STDOUT_FILENO`. -/
def STDOUT_FILENO : ℤ := 1

/-- `STDERR_FILENO`. -/
def STDERR_FILENO : ℤ := 2

/-- `struct process_d`: the open files, by descriptor, as addresses of file structures. -/
structure Process where
  used : ℤ
  magic : ℤ
  objects : ℕ → ℕ

/-- The process list and the file structures by their address. -/
structure IoState where
  processList : ℕ → Option Process
  files : ℕ → OpenFile

/-- The process and the thread that are running. -/
structure Caller where
  pid : ℤ
  tid : ℤ
  deriving DecidableEq, Repr

/-- The file structure at an address is replaced. -/
def IoState.setFile (s : IoState) (ptr : ℕ) (f : OpenFile) : IoState :=
  { s with files := Function.update s.files ptr f }

@[simp] lemma IoState.setFile_same (s : IoState) (ptr : ℕ) (f : OpenFile) :
    (s.setFile ptr f).files ptr = f :=
  Function.update_self ..

@[simp] lemma IoState.setFile_of_ne (s : IoState) {ptr q : ℕ} (f : OpenFile) (h : q ≠ ptr) :
    (s.setFile ptr f).files q = s.files q :=
  Function.update_of_ne h ..

@[simp] lemma IoState.setFile_self (s : IoState) (ptr : ℕ) : s.setFile ptr (s.files ptr) = s := by
  simp only [IoState.setFile, Function.update_eq_self]

/-- `get_file_from_fd`: the address of the file that the descriptor names, 0 when there is none. -/
def getFileFromFd (pid fd : ℤ) (s : IoState) : Except Fault ℕ :=
  if fd < 0 ∨ fd ≥ 32 then .ok 0
  else if pid < 0 ∨ pid ≥ PROCESS_COUNT_MAX then .ok 0
  else
    match s.processList pid.toNat with
    | none => .error (.panic "get_file_from_fd: p\n")
    | some p =>
        if p.used ≠ TRUE then .ok 0
        else if p.magic ≠ 1234 then .ok 0
        else .ok (p.objects fd.toNat)

/-- How the common checks of a call end: with its return value, or at an open file. -/
inductive Entry where
  | returns (ret : ℤ)
  | object (ptr : ℕ)
  deriving DecidableEq, Repr

/-- The checks with which `__read_imp` and `__write_imp` begin. -/
def ioEntry (caller : Caller) (fd : ℤ) (ubufIsNull : Bool) (count : ℤ) (s : IoState) :
    Except Fault Entry :=
  if caller.pid < 0 ∨ caller.pid ≥ PROCESS_COUNT_MAX then .ok (.returns (-1))
  else
    match s.processList caller.pid.toNat with
    | none => .ok (.returns (-1))
    | some p =>
        if p.used ≠ TRUE ∨ p.magic ≠ 1234 then .ok (.returns (-1))
        else if fd < 0 ∨ fd ≥ OPEN_MAX then .ok (.returns (-EBADF))
        else if ubufIsNull then .ok (.returns (-EINVAL))
        else if count < 0 then .ok (.returns (-EINVAL))
        else if count = 0 then .ok (.returns 0)
        else
          match getFileFromFd caller.pid fd s with
          | .error f => .error f
          | .ok ptr => if ptr = 0 then .ok (.returns (-1)) else .ok (.object ptr)

/-! ## Writing -/

/-- `__write_imp` on a socket. -/
def writeSocket (tid : ℤ) (ubuf : UserBytes) (count : ℤ) (s : OpenFile) :
    Except Fault (ℤ × OpenFile) :=
  let f := s.file
  if f.flags &&& SWR = 0 then .ok (-1, s)
  else if f.socketBufferFull = TRUE then
    let f := { f with flags := SRD, tidWaiting := -1 }
    if f.sync.blockOnWriteFull = TRUE then .ok (-1, { s with file := { f with tidWaiting := tid } })
    else .ok (-1, { s with file := f })
  else if f.socketBufferFull = FALSE then
    -- the flags are gone before the copy is known to work
    let r := fileWriteBuffer ubuf count { s with file := { f with flags := 0 } }
    if r.ret ≤ 0 then .ok (-1, r.after)
    else
      let f := r.after.file
      let f := { f with
        socketBufferFull := TRUE
        flags := (f.flags &&& ~~~SWR) ||| SRD
        tidWaiting := if f.sync.blockOnWrite = TRUE then tid else -1 }
      .ok (r.ret, { r.after with file := f })
  else .error (.panic "__write_imp: Unexpected error when writing on socket\n")

/-- `__write_imp` on a regular file. -/
def writeRegular (ubuf : UserBytes) (count : ℤ) (s : OpenFile) : ℤ × OpenFile :=
  if s.file.flags &&& SWR = 0 then (0, s)
  else
    let r := fileWriteBuffer ubuf count s
    if r.ret > 0 then
      let f := r.after.file
      (r.ret, { r.after with file :=
        { f with flags := SRD, sync := { f.sync with canRead := TRUE } } })
    else (0, r.after)

/-- `sys_write_pipe` and `sys_read_pipe`: nothing is transferred yet. -/
def sysPipe (fd : ℤ) (ubufIsNull : Bool) (count : ℤ) : ℤ :=
  if fd < 0 ∨ fd ≥ OPEN_MAX then -EBADF
  else if ubufIsNull then -EINVAL
  else if count ≤ 0 then -1
  else -1

/-- `__write_imp` on an object that is not one of the standard streams. -/
def writeByType (tid fd : ℤ) (ubuf : UserBytes) (count : ℤ) (s : OpenFile) :
    Except Fault (ℤ × OpenFile) :=
  match s.file.object with
  | .nic => .ok (0, s)
  | .socket => writeSocket tid ubuf count s
  | .file => .ok (writeRegular ubuf count s)
  | .ptmx => .ok (0, s)
  | .pty => .ok (0, s)
  | .fileSystem => .ok (0, s)
  | .pipe => .ok (sysPipe fd ubuf.isNone count, s)
  | _ => .ok (-1, s)

section

variable (consoleWrite : UserBytes → ℤ → Except Fault ℤ)

/-- `__write_imp` once the file is known. -/
def writeObject (tid fd : ℤ) (ubuf : UserBytes) (count : ℤ) (s : OpenFile) :
    Except Fault (ℤ × OpenFile) :=
  if s.file.sync.canWrite ≠ TRUE then .ok (-1, s)
  else if s.file.file = STDIN_FILENO ∨ s.file.file = STDERR_FILENO then
    if s.file.object = .file then .ok (writeRegular ubuf count s) else .ok (-1, s)
  else if s.file.file = STDOUT_FILENO then
    if s.file.object = .file then .ok (writeRegular ubuf count s)
    else if s.file.object = .virtualConsole then
      match consoleWrite ubuf count with
      | .error f => .error f
      | .ok n => .ok (n, s)
    else .ok (-1, s)
  else writeByType tid fd ubuf count s

/-- `__write_imp`. -/
def writeImp (caller : Caller) (fd : ℤ) (ubuf : UserBytes) (count : ℤ) (s : IoState) :
    Except Fault (ℤ × IoState) :=
  match ioEntry caller fd ubuf.isNone count s with
  | .error f => .error f
  | .ok (.returns ret) => .ok (ret, s)
  | .ok (.object ptr) =>
      match writeObject consoleWrite caller.tid fd ubuf count (s.files ptr) with
      | .error f => .error f
      | .ok (ret, file) => .ok (ret, s.setFile ptr file)

end

/-! ## Reading -/

/-- `__read_imp` on a socket: the return value, the bytes copied to the client, the file. -/
def readSocket (ubuf : ℕ) (count : ℤ) (s : OpenFile) : Except Fault ReadResult :=
  let f := s.file
  if f.flags &&& SRD = 0 then .ok ⟨-1, [], s⟩
  else if f.socketBufferFull = FALSE then
    if f.sync.blockOnReadEmpty = TRUE then
      .error (.panic "__read_imp: [DEBUG] Couldn't read socket. Buffer not full\n")
    else .ok ⟨-1, [], { s with file := { f with flags := SWR, tidWaiting := -1 } }⟩
  else if f.socketBufferFull = TRUE then
    let r := fileReadBuffer ubuf count s
    if r.ret ≤ 0 then .ok ⟨-1, r.bytes, r.after⟩
    else
      let f := r.after.file
      .ok ⟨r.ret, r.bytes, { r.after with file := { f with
        socketBufferFull := FALSE
        flags := (f.flags &&& ~~~SRD) ||| SWR
        tidWaiting := -1 } }⟩
  else .error (.panic "__read_imp: Unexpected error when reading socket\n")

/-- `__read_imp` on a regular file. -/
def readRegular (ubuf : ℕ) (count : ℤ) (s : OpenFile) : ReadResult :=
  if s.file.flags &&& SRD = 0 then ⟨-1, [], s⟩
  else
    let r := fileReadBuffer ubuf count s
    if r.ret ≤ 0 then ⟨-1, r.bytes, r.after⟩
    else
      let f := r.after.file
      ⟨r.ret, r.bytes, { r.after with file :=
        { f with flags := f.flags ||| SWR, sync := { f.sync with canWrite := TRUE } } }⟩

/-- `__read_imp` once the file is known.  The standard streams only jump ahead to the regular file
that they are. -/
def readObject (fd : ℤ) (ubuf : ℕ) (count : ℤ) (s : OpenFile) : Except Fault ReadResult :=
  if s.file.sync.canRead ≠ TRUE then .ok ⟨-1, [], s⟩
  else
    match s.file.object with
    | .socket => readSocket ubuf count s
    | .file => .ok (readRegular ubuf count s)
    | .ptmx => .ok ⟨0, [], s⟩
    | .pty => .ok ⟨0, [], s⟩
    | .fileSystem => .ok ⟨0, [], s⟩
    | .pipe => .ok ⟨sysPipe fd (ubuf = 0) count, [], s⟩
    | _ => .ok ⟨-1, [], s⟩

/-- `__read_imp`: the return value, the bytes copied to the client, the state. -/
def readImp (caller : Caller) (fd : ℤ) (ubuf : ℕ) (count : ℤ) (s : IoState) :
    Except Fault (ℤ × List UInt8 × IoState) :=
  match ioEntry caller fd (ubuf = 0) count s with
  | .error f => .error f
  | .ok (.returns ret) => .ok (ret, [], s)
  | .ok (.object ptr) =>
      match readObject fd ubuf count (s.files ptr) with
      | .error f => .error f
      | .ok r => .ok (r.ret, r.bytes, s.setFile ptr r.after)

/-! ## Sockets -/

/-- The file structure that `socket_gramado` and its siblings make for a new socket with its buffer
at `buff`, and that `sys_accept` enters in the server's table as descriptor 31. -/
def socketFile (buff slot : ℤ) : File where
  used := TRUE
  magic := 1234
  object := .socket
  file := slot
  flags := SWR
  base := buff
  p := buff
  lbfsize := BUFSIZ
  cnt := BUFSIZ
  r := 0
  w := 0
  fsize := 0
  socketBufferFull := 0
  tidWaiting := 0
  sync := {
    action := 0
    canRead := TRUE
    canWrite := TRUE
    blockOnWrite := TRUE
    blockOnWriteFull := TRUE
    blockOnReadEmpty := TRUE }

end Gramado
