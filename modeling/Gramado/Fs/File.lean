import Gramado.Core.CTypes
import Gramado.Lib.Memory

/-!
# Open files and their buffers

`struct file_d` of `kstdio.h`, and the two functions of `kres/fs/fslib.c` that move bytes between a
file's buffer and a client: `file_read_buffer` and `file_write_buffer`.

The fields are the source's without the leading underscore.  A `char *` is an address in `ℤ`, an
`int` a value in `ℤ`; the memory around the buffer is a `Memory`, so the ranges that a copy reads
or writes are on record.  `printk` and `debug_print` leave no trace.
-/

namespace Gramado

/-- The object types that the file functions tell apart; every other one is `other`. -/
inductive ObjectType where
  | file
  | tty
  | ioBuffer
  | socket
  | pipe
  | nic
  | virtualConsole
  | ptmx
  | pty
  | fileSystem
  | other
  deriving DecidableEq, Repr

/-- `BUFSIZ`. -/
def BUFSIZ : ℤ := 1024

/-- `EOF`. -/
def EOF : ℤ := -1

/-- `__SRD`: ok to read. -/
def SRD : UInt16 := 0x0004

/-- `__SWR`: ok to write. -/
def SWR : UInt16 := 0x0008

/-- The fields of `struct kstdio_sync_d` in use. -/
structure Sync where
  action : ℤ
  canRead : ℤ
  canWrite : ℤ
  blockOnWrite : ℤ
  blockOnWriteFull : ℤ
  blockOnReadEmpty : ℤ
  deriving DecidableEq, Repr

/-- `struct file_d`. -/
structure File where
  used : ℤ
  magic : ℤ
  object : ObjectType
  file : ℤ
  flags : UInt16
  base : ℤ
  p : ℤ
  lbfsize : ℤ
  cnt : ℤ
  r : ℤ
  w : ℤ
  fsize : ℤ
  socketBufferFull : ℤ
  tidWaiting : ℤ
  sync : Sync
  deriving DecidableEq, Repr

/-- A file structure together with the memory that its buffer is in. -/
structure OpenFile where
  file : File
  mem : Memory UInt8

/-! ## Where files come from -/

/-- `PROMPT_SIZE`. -/
def PROMPT_SIZE : ℤ := BUFSIZ

/-- A slot of the file table as `__initialize_file_table` leaves it. -/
def tableFile : File where
  used := TRUE
  magic := 1234
  object := .file
  file := 0
  flags := 0
  base := 0
  p := 0
  lbfsize := 0
  cnt := 0
  r := 0
  w := 0
  fsize := 0
  socketBufferFull := 0
  tidWaiting := 0
  sync := ⟨0, 0, 0, 0, 0, 0⟩

/-- `new_file`: a slot of the table becomes an empty file whose buffer is the block at `base`. -/
def newFile (object : ObjectType) (base : ℤ) (slot : File) : File :=
  { slot with
    file := -1
    object := object
    sync := { slot.sync with canRead := TRUE, canWrite := TRUE }
    flags := SWR ||| SRD
    base := base
    p := base
    lbfsize := PROMPT_SIZE
    r := 0
    w := 0
    cnt := PROMPT_SIZE
    used := TRUE
    magic := 1234 }

/-! ## Reading and writing -/

/-- The bytes behind a client's `char *`; `none` is the null pointer. -/
abbrev UserBytes := Option (ℕ → UInt8)

/-- The first `n` bytes behind the pointer. -/
def firstBytes (string : ℕ → UInt8) (n : ℕ) : List UInt8 := (List.range n).map string

@[simp] lemma firstBytes_length (string : ℕ → UInt8) (n : ℕ) :
    (firstBytes string n).length = n := by
  simp only [firstBytes, List.length_map, List.length_range]

/-- The length argument of `memcpy`: an `int` converted to `unsigned long`. -/
def memcpyLen (len : ℤ) : ℕ := (len % 2 ^ 64).toNat

lemma memcpyLen_eq {len : ℤ} (h0 : 0 ≤ len) (h : len < 2 ^ 64) : memcpyLen len = len.toNat := by
  rw [memcpyLen, Int.emod_eq_of_lt h0 h]

/-- The files whose reads and writes respect the offsets. -/
def hasOffsets (object : ObjectType) : Prop :=
  object = .file ∨ object = .tty ∨ object = .ioBuffer

/-- The files whose reads and writes always start at `_base`. -/
def isUnbuffered (object : ObjectType) : Prop :=
  object = .socket ∨ object = .pipe

instance (object : ObjectType) : Decidable (hasOffsets object) :=
  inferInstanceAs (Decidable (_ ∨ _ ∨ _))

instance (object : ObjectType) : Decidable (isUnbuffered object) :=
  inferInstanceAs (Decidable (_ ∨ _))

/-- What a read gives back: the return value, the bytes copied to the client, the file after it. -/
structure ReadResult where
  ret : ℤ
  bytes : List UInt8
  after : OpenFile

/-- What a write gives back. -/
structure WriteResult where
  ret : ℤ
  after : OpenFile

/-- The copy of `file_read_buffer` for files with offsets, once the offsets are known to be in
order: `count` bytes at most, from the read offset on. -/
def readFromOffset (count : ℤ) (s : OpenFile) : ReadResult :=
  let f := s.file
  let delta := f.w - f.r
  if delta = 0 then ⟨0, [], s⟩
  else
    let count := if count > delta then delta else count
    let f := { f with p := f.base + f.r }
    if count ≤ 0 then ⟨EOF, [], { s with file := f }⟩
    else
      let (bytes, mem) := s.mem.load f.p count.toNat
      let f := { f with p := f.p + count, r := f.r + count }
      let f := if f.r > f.w then { f with r := f.w } else f
      ⟨count, bytes,
        ⟨{ f with flags := f.flags ||| SWR, sync := { f.sync with canWrite := TRUE } }, mem⟩⟩

/-- `file_read_buffer`: `count` bytes at most from the file to the client's `buffer`. -/
def fileReadBuffer (buffer : ℕ) (len : ℤ) (s : OpenFile) : ReadResult :=
  let f := s.file
  let count := len % 0x10000
  if f.used ≠ TRUE ∨ f.magic ≠ 1234 then ⟨EOF, [], s⟩
  else if buffer = 0 then ⟨EOF, [], s⟩
  else if count ≤ 0 then ⟨EOF, [], s⟩
  else if count > f.lbfsize then ⟨EOF, [], s⟩
  else if isUnbuffered f.object then
    let (bytes, mem) := s.mem.load f.base (memcpyLen count)
    ⟨count, bytes, ⟨{ f with flags := f.flags ||| SWR }, mem⟩⟩
  else if hasOffsets f.object then
    if f.lbfsize ≤ 0 then ⟨EOF, [], s⟩
    else if f.lbfsize > 8 * 1024 then ⟨EOF, [], s⟩
    else if f.r < 0 then ⟨EOF, [], { s with file := { f with r := 0 } }⟩
    else if f.r > f.lbfsize then ⟨EOF, [], s⟩
    else if f.r > f.w then ⟨0, [], { s with file := { f with r := f.w } }⟩
    else readFromOffset (if count > f.lbfsize then f.lbfsize - 1 else count) s
  else ⟨EOF, [], s⟩

/-- The copy of `file_write_buffer` for files with offsets, once the length is known to fit. -/
def writeAtOffset (string : ℕ → UInt8) (len : ℤ) (s : OpenFile) : WriteResult :=
  let f := s.file
  let f := if f.w < f.r then { f with w := f.r, cnt := toInt32 (f.lbfsize - f.r) } else f
  let f := { f with p := f.base + f.w }
  let mem := s.mem.store f.p (firstBytes string (memcpyLen len))
  ⟨len, ⟨{ f with
      p := f.p + len
      w := toInt32 (f.w + len)
      cnt := toInt32 (f.cnt - len)
      flags := SRD
      sync := { f.sync with canRead := TRUE } }, mem⟩⟩

/-- `file_write_buffer`: the first `len` bytes of the client's `string` to the file, fewer when
they do not fit. -/
def fileWriteBuffer (string : UserBytes) (len : ℤ) (s : OpenFile) : WriteResult :=
  let f := s.file
  match string with
  | none => ⟨EOF, s⟩
  | some string =>
      if len ≥ BUFSIZ then ⟨EOF, s⟩
      else if isUnbuffered f.object then
        ⟨len, { s with mem := s.mem.store f.base (firstBytes string (memcpyLen len)) }⟩
      else if hasOffsets f.object then
        if f.lbfsize > BUFSIZ then ⟨EOF, s⟩
        else if f.w < 0 then
          ⟨EOF, { s with file := { f with p := f.base, w := 0, r := 0, cnt := f.lbfsize } }⟩
        else if f.w ≥ BUFSIZ then
          ⟨EOF, { s with file := { f with w := BUFSIZ, cnt := 0 } }⟩
        else if f.cnt < 0 then
          ⟨EOF, { s with file :=
            { f with cnt := 0, w := f.lbfsize, r := f.lbfsize, p := f.base + f.lbfsize } }⟩
        else
          let f := if f.cnt > f.lbfsize then
              { f with cnt := f.lbfsize, p := f.base, w := 0, r := 0 }
            else f
          if len < 0 then ⟨-1, { s with file := f }⟩
          else if len > f.cnt then
            if f.cnt ≤ 0 then
              ⟨-1, { s with file :=
                { f with w := f.lbfsize, r := f.lbfsize, p := f.base + f.lbfsize, cnt := 0 } }⟩
            else writeAtOffset string f.cnt { s with file := f }
          else writeAtOffset string len { s with file := f }
      else ⟨EOF, s⟩

/-! ## Seeking and resetting -/

/-- `SEEK_SET`. -/
def SEEK_SET : ℤ := 0

/-- `SEEK_CUR`. -/
def SEEK_CUR : ℤ := 1

/-- `SEEK_END`. -/
def SEEK_END : ℤ := 2

/-- `GRAMADO_SEEK_CLEAR`. -/
def GRAMADO_SEEK_CLEAR : ℤ := 1000

/-- What every case of `k_fseek` but the clearing one ends with: the write and the read offset both
become `offset`, the working pointer goes to `p`. -/
def seekTo (offset p : ℤ) (s : OpenFile) : OpenFile :=
  { s with file := { s.file with r := toInt32 offset, w := toInt32 offset, p := p } }

/-- `k_fseek` of `kstdio.c`. -/
def kFseek (offset whence : ℤ) (s : OpenFile) : Except Fault (ℤ × OpenFile) :=
  let f := s.file
  if whence < 0 then .ok (-1, s)
  else if whence = SEEK_SET then
    let offset := if offset < 0 then 0 else offset
    let offset := if offset > f.cnt then f.cnt else offset
    .ok (0, seekTo offset (f.base + offset) s)
  else if whence = SEEK_CUR then
    let offset := if offset > f.cnt then f.cnt else offset
    .ok (0, seekTo (f.p + offset - f.base) (f.p + offset) s)
  else if whence = SEEK_END then
    let offset := if offset > 0 then 0 else offset
    if f.fsize > f.lbfsize then
      .error (.panic "k_fseek: #todo f->_fsize > f->_lbfsize\n")
    else if f.fsize + offset > f.lbfsize then
      .error (.panic "k_fseek: #todo (f->_fsize + offset) > f->_lbfsize\n")
    else .ok (0, seekTo (f.fsize + offset) (f.base + (f.fsize + offset)) s)
  else if whence = GRAMADO_SEEK_CLEAR then
    .ok (0, ⟨{ f with p := f.base, r := 0, w := 0, cnt := f.lbfsize },
      s.mem.store f.base (List.replicate BUFSIZ.toNat 0)⟩)
  else .ok (-1, s)

/-- `k_rewind`: the working pointer only. -/
def kRewind (f : File) : File := { f with p := f.base }

/-- `SYNC_REQUEST_SET_ACTION`. -/
def SYNC_REQUEST_SET_ACTION : ℤ := 1

/-- The requests of `sys_set_file_sync` on the object that the descriptor names. -/
def setFileSync (request data : ℤ) (f : File) : File :=
  if request = SYNC_REQUEST_SET_ACTION then
    { f with sync := { f.sync with action := data } }
  else if request = 216 then
    let f := kRewind { f with sync := { f.sync with action := 0 }, flags := SWR }
    { f with r := 0, w := 0, socketBufferFull := FALSE }
  else if request = 217 then
    { f with sync := { f.sync with action := 0 }, flags := SRD }
  else f

end Gramado
