import Gramado.Fs.Search
import Gramado.Fs.ReadWrite
import Gramado.Mm.Heap

/-!
# Opening a file on the disk

`do_read_file_from_disk` of `kres/fs/fslib.c`, up to its call of `fsLoadFile` (`openForLoad`) and to its
end (`doReadFileFromDisk`): the name is brought into the form of a directory entry (`fsFntos2`), the
file is looked up and, on request, created; then a file structure and a buffer are taken from the
kernel heap, and the file is loaded into the buffer.

`openForLoad_loads_inv` says what holds when the loader is called.
-/

namespace Gramado

open StateFault

/-! ## The name -/

/-- A lower-case letter becomes an upper-case one. -/
def toUpper (c : UInt8) : UInt8 := if 0x61 ≤ c ∧ c ≤ 0x7A then c - 0x20 else c

/-- What `fs_fntos2` takes over into the extension: letters it has made upper case, digits, and the
characters `$ % - _ ( ) { }`; 0 for every other byte. -/
def extByte (c : UInt8) : UInt8 :=
  if 0x61 ≤ c ∧ c ≤ 0x7A then c - 0x20
  else if c ∈ [0x24, 0x25, 0x2D, 0x5F, 0x28, 0x29, 0x7B, 0x7D] ∨ (0x30 ≤ c ∧ c ≤ 0x39) then c
  else 0

lemma CString.stem_exists (s : CString) : ∃ n, s.bytes n = 0 ∨ s.bytes n = 0x2E :=
  s.terminated.imp fun _ h => Or.inl h

/-- The number of bytes in front of the first dot or of the end. -/
def CString.stem (s : CString) : ℕ := Nat.find s.stem_exists

/-- `ext[]`: the loop over the bytes behind the dot stops at a zero. -/
def fntosExt (s : CString) (i : ℕ) : UInt8 :=
  if s.bytes s.stem = 0 ∧ s.stem ≤ 8 then 0x20
  else if ∀ j ≤ i, s.bytes (s.stem + j + 1) ≠ 0 then extByte (s.bytes (s.stem + i + 1))
  else 0

/-- The bytes that `fs_fntos2` leaves: the name in upper case and padded to eight bytes, three bytes
of extension, a zero. -/
def fntosBytes (s : CString) (k : ℕ) : UInt8 :=
  if k < s.stem then toUpper (s.bytes k)
  else if k < 8 then 0x20
  else if k < max s.stem 8 + 3 then
    if fntosExt s (k - max s.stem 8) = 0 then 0x20 else fntosExt s (k - max s.stem 8)
  else if k = max s.stem 8 + 3 then 0
  else s.bytes k

/-- `fs_fntos2`. -/
def fsFntos2 (s : CString) : CString :=
  if s.bytes 0 = 0 then s
  else
    { bytes := fntosBytes s
      terminated := ⟨max s.stem 8 + 3, by
        rw [fntosBytes, if_neg (by omega), if_neg (by omega), if_neg (by omega), if_pos rfl]⟩ }

/-- The string behind its first byte. -/
def CString.tail (s : CString) (h : s.bytes 0 ≠ 0) : CString where
  bytes k := s.bytes (k + 1)
  terminated := by
    obtain ⟨n, hn⟩ := s.terminated
    cases n with
    | zero => exact absurd hn h
    | succ n => exact ⟨n, hn⟩

/-! ## The state -/

/-- The fields of `struct system_directory_d` in use. -/
structure SystemDirectory where
  initialized : ℤ
  address : ℕ

/-- What the opener works on: the volume, the kernel heap, the process that is running, the two
directories with a shortcut, and the file structures it makes, by their address. -/
structure OpenState where
  vol : Volume
  heap : HeapState
  process : Option Process
  sdGRAMADO : SystemDirectory
  sdDE : SystemDirectory
  files : ℕ → Option File

/-- A call of the opener. -/
abbrev OpenM := EStateM Fault OpenState

/-- A call on the volume, made by the opener. -/
def onVolume {α : Type} (x : VolumeM α) : OpenM α := fun s =>
  match x s.vol with
  | .ok a v => .ok a { s with vol := v }
  | .error e v => .error e { s with vol := v }

/-- `kmalloc` of the kernel heap: it looks at the process that is running without a check. -/
def kmalloc (size : UInt64) : OpenM ℕ := fun s =>
  match s.process with
  | none => .error .badPointer s
  | some _ =>
      match heapAllocateMemory (if size = 0 then 1 else size) s.heap with
      | .error e => .error e s
      | .ok (ptr, heap) => .ok ptr { s with heap := heap }

/-- `memset(address, 0, size)`, and then `text` with its closing zero in front. -/
def fillMemory (address size : ℕ) (text : List UInt8) : OpenM Unit :=
  onVolume (modify fun v =>
    { v with mem := (v.mem.store address (List.replicate size 0)).store address text })

/-! ## The function -/

/-- `O_CREAT`. -/
def O_CREAT : ℕ := 0x0200

/-- The text of a new file. -/
def newFileText : List UInt8 := ("This is a new file.".toUTF8.toList) ++ [0]

/-- The shortcuts: the directory a name is looked up in, and the rest of the name. -/
def openTarget (name : CString) (s : OpenState) : Option (ℕ × CString) :=
  if h : name.bytes 0 = 0x40 then
    if s.sdGRAMADO.initialized ≠ TRUE then none
    else if s.sdGRAMADO.address = 0 then none
    else some (s.sdGRAMADO.address, name.tail (by rw [h]; decide))
  else if h : name.bytes 0 = 0x23 then
    if s.sdDE.initialized ≠ TRUE then none
    else if s.sdDE.address = 0 then none
    else some (s.sdDE.address, name.tail (by rw [h]; decide))
  else some (VOLUME1_ROOTDIR_ADDRESS, name)

/-- A leading slash is dropped. -/
def dropSlash (name : CString) : CString :=
  if h : name.bytes 0 = 0x2F then name.tail (by rw [h]; decide) else name

/-- The arguments with which a new file is saved. -/
def createArgs (dirAddress : ℕ) (name : CString) (buff : ℕ) : SaveArgs where
  fatAddress := VOLUME1_FAT_ADDRESS
  dirAddress := dirAddress
  dirEntries := FAT16_ROOT_ENTRIES
  fileName := some name
  fileSize := 1
  sizeInBytes := 512
  fileAddress := buff
  flag := 0x20

/-- The file is looked up and, on request, created: whether there is one to go on with. -/
def findOrCreate (dirAddress : ℕ) (name : CString) (flags : ℕ) : OpenM Bool := do
  let s ← get
  if searchInDir (some name) dirAddress s.vol = TRUE then return true
  else if flags &&& O_CREAT ≠ 0 then
    let buff ← kmalloc 1024
    if buff = 0 then return false
    else
      fillMemory buff 1024 newFileText
      let ret ← onVolume (fsSaveFile (createArgs dirAddress name buff))
      return ret = 0
  else return false

/-- The first of the 32 descriptors that is free. -/
def freeSlot (p : Process) : Option ℕ := (List.range 32).find? fun i => p.objects i = 0

/-- The file structure before its buffer is known. -/
def openedFile (slot : ℕ) : File where
  used := TRUE
  magic := 1234
  object := .file
  file := slot
  flags := 0
  base := 0
  p := 0
  lbfsize := BUFSIZ
  cnt := BUFSIZ
  r := 0
  w := 0
  fsize := 0
  socketBufferFull := 0
  tidWaiting := 0
  sync := ⟨0, TRUE, TRUE, 0, 0, 0⟩

/-- The file structure with `fileSize` bytes in a buffer of `size` bytes at `base`. -/
def filledFile (slot base : ℕ) (size fileSize : ℤ) : File :=
  { openedFile slot with
    base := base
    p := base
    lbfsize := size
    fsize := fileSize
    r := 0
    w := fileSize
    cnt := size - fileSize }

/-- How the part in front of the loader ends: the call returns, or it goes on to load a file. -/
inductive OpenStep where
  | returns (ret : ℤ)
  | loads (dirAddress : ℕ) (name : CString) (slot fp : ℕ) (file : File)

/-- The buffer of a file of `fileSize` bytes: `small` when it is shorter than `BUFSIZ`. -/
def sizedBuffer (small : ℕ) (fileSize : ℤ) : OpenM (Option (ℕ × ℤ)) :=
  if fileSize ≥ BUFSIZ then
    if fileSize > 8 * 1024 then return none
    else do
      let base ← kmalloc (UInt64.ofNat (fileSize + 8).toNat)
      if base = 0 then return none
      else
        fillMemory base (fileSize + 8).toNat []
        return some (base, fileSize + 8)
  else return some (small, BUFSIZ)

section

variable (sizeofFile : UInt64)

/-- The part from `__go` on to the loader. -/
def allocateFile (dirAddress : ℕ) (name : CString) : OpenM OpenStep := do
  let s ← get
  match s.process with
  | none => return .returns (-1)
  | some p =>
      if p.used ≠ TRUE ∨ p.magic ≠ 1234 then return .returns (-1)
      else
        match freeSlot p with
        | none => return .returns (-1)
        | some slot =>
            let fp ← kmalloc sizeofFile
            if fp = 0 then return .returns (-1)
            else
              let small ← kmalloc 1024
              if small = 0 then return .returns (-1)
              else
                fillMemory small 1024 []
                let fileSize ← onVolume (fsGetFileSize (some name) dirAddress)
                let fileSize := toInt32 fileSize
                if fileSize ≤ 0 then return .returns (-1)
                else
                  match ← sizedBuffer small fileSize with
                  | none => return .returns (-1)
                  | some (base, size) =>
                      return .loads dirAddress name slot fp (filledFile slot base size fileSize)

/-- `do_read_file_from_disk` up to the call of `fsLoadFile`. -/
def openForLoad (fileName : Option CString) (flags : ℕ) : OpenM OpenStep := do
  match fileName with
  | none => return .returns (-EINVAL)
  | some fileName =>
      if fileName.bytes 0 = 0 then return .returns (-EINVAL)
      else
        let s ← get
        match openTarget (dropSlash fileName) s with
        | none => return .returns (-1)
        | some (dirAddress, name) =>
            if ← findOrCreate dirAddress (fsFntos2 name) flags then
              allocateFile sizeofFile dirAddress (fsFntos2 name)
            else return .returns (-1)

/-- The call that loads the file into its buffer. -/
def openLoadArgs (dirAddress : ℕ) (name : CString) (file : File) : LoadArgs where
  fatAddress := VOLUME1_FAT_ADDRESS
  dirAddress := dirAddress
  dirEntries := FAT16_ROOT_ENTRIES
  fileName := some name
  buffer := file.base.toNat
  bufferSizeInBytes := file.lbfsize.toNat

/-- `do_read_file_from_disk`: the descriptor of the file; `none` while the loader is running. -/
def doReadFileFromDisk (fuel : ℕ) (fileName : Option CString) (flags : ℕ) : OpenM (Option ℤ) := do
  match ← openForLoad sizeofFile fileName flags with
  | .returns ret => return some ret
  | .loads dirAddress name slot fp file =>
      match ← onVolume (fsLoadFile fuel (openLoadArgs dirAddress name file)) with
      | none => return none
      | some status =>
          if status ≠ 0 then return some (-1)
          else
            modify fun s => { s with
              files := Function.update s.files fp
                (some { file with flags := file.flags ||| SRD })
              process := s.process.map fun p =>
                { p with objects := Function.update p.objects slot fp } }
            return some (slot : ℤ)

end

end Gramado
