import Gramado.Ke.Process

/-!
# `pipe` and `dup`

The calls of `kres/fs/pipe.c` that make descriptors: `sys_pipe`, `sys_dup`, `sys_dup2` and
`sys_dup3`.  The table `Process->Objects` is a `Memory`, so that every index used is on record, and
the file structures are looked up by their addresses; 0 is the null pointer.  The blocks that
`kmalloc` answers with are a parameter.

The two searches of `sys_pipe` have nothing between them that takes the first slot, so both find the
same one.  A copy of a file leaves out its offsets and flags, and the copy onto a descriptor empties
that descriptor where the source is not open.

* `descriptorCall_atomic_iff` — which calls leave the table as they should.
-/

namespace Gramado.Pipe

/-- The length of `Process->Objects`. -/
def OBJECTS : ℤ := 64

/-- `ACTION_NULL`. -/
def ACTION_NULL : ℤ := 0

/-- `struct file_d` with the other fields that the calls set. -/
structure PipeFile extends File where
  tmpfname : ℕ
  pid : ℤ
  uid : ℤ
  gid : ℤ
  senderPid : ℤ
  receiverPid : ℤ
  canExecute : ℤ
  canAccept : ℤ
  canConnect : ℤ
  deriving DecidableEq

/-- The current process at its address, with its table, and the file structures. -/
structure PipeState where
  process : ℕ
  used : ℤ
  magic : ℤ
  objects : Memory ℕ
  file : ℕ → PipeFile
  currentProcess : ℤ
  currentUser : ℤ
  currentGroup : ℤ

namespace PipeState

/-- `Process->Objects[i]`. -/
def readObject (s : PipeState) (i : ℤ) : ℕ × PipeState :=
  (s.objects.cell i, { s with objects := (s.objects.load i 1).2 })

/-- `Process->Objects[i] = ptr`. -/
def writeObject (s : PipeState) (i : ℤ) (ptr : ℕ) : PipeState :=
  { s with objects := s.objects.store i [ptr] }

/-- The file at an address is changed. -/
def setFile (s : PipeState) (ptr : ℕ) (f : PipeFile) : PipeState :=
  { s with file := Function.update s.file ptr f }

/-- The file behind a descriptor. -/
def fileAt (s : PipeState) (i : ℤ) : PipeFile := s.file (s.objects.cell i)

/-- The checks of the process. -/
def Usable (s : PipeState) : Prop := s.process ≠ 0 ∧ s.used = TRUE ∧ s.magic = 1234

end PipeState

/-- `slot` and `i` behind a search loop. -/
structure SlotSearch where
  slot : ℤ
  i : ℤ
  after : PipeState

/-- `for (; i < …; i++) if (Process->Objects[i] == 0) { slot = i; break; }`. -/
def emptySlot : ℕ → ℤ → PipeState → SlotSearch
  | 0, i, s => ⟨-1, i, s⟩
  | left + 1, i, s =>
      let object := s.readObject i
      if object.1 = 0 then ⟨i, i, object.2⟩ else emptySlot left (i + 1) object.2

/-- The fields that a copy takes from the old file. -/
def inherit (fOld fNew : PipeFile) : PipeFile :=
  { fNew with
    object := fOld.object
    base := fOld.base
    p := fOld.p
    tmpfname := fOld.tmpfname
    lbfsize := fOld.lbfsize
    cnt := fOld.cnt
    used := TRUE
    magic := 1234 }

/-- `sys_dup`. -/
def sysDup (oldfd : ℤ) (kmalloc : ℕ → ℕ) (s : PipeState) : ℤ × PipeState :=
  if oldfd < 0 ∨ oldfd ≥ OPEN_MAX then (-EINVAL, s)
  else if s.process = 0 then (-1, s)
  else if s.used ≠ TRUE ∨ s.magic ≠ 1234 then (-1, s)
  else
    let search := emptySlot (NUMBER_OF_FILES - 3) 3 s
    let s := search.after
    if search.slot = -1 then (-1, s.writeObject search.i 0)
    else
      let fOld := s.readObject oldfd
      let s := fOld.2
      if fOld.1 = 0 then (-1, s.writeObject search.i 0)
      else
        let fNew := kmalloc 0
        if fNew = 0 then (-1, s.writeObject search.i 0)
        else
          let s := s.setFile fNew (inherit (s.file fOld.1) (s.file fNew))
          (search.slot, s.writeObject search.slot fNew)

/-- The body that `sys_dup2` and `sys_dup3` share. -/
def dupOnto (oldfd newfd : ℤ) (s : PipeState) : ℤ × PipeState :=
  if oldfd < 0 ∨ oldfd ≥ OPEN_MAX then (-EINVAL, s)
  else if newfd < 0 ∨ newfd ≥ OPEN_MAX then (-EINVAL, s)
  else if s.process = 0 then (-1, s)
  else if s.used ≠ TRUE ∨ s.magic ≠ 1234 then (-1, s)
  else
    let slot := newfd
    if slot = -1 then (-1, s.writeObject slot 0)
    else
      let fOld := s.readObject oldfd
      let s := fOld.2
      if fOld.1 = 0 then (-1, s.writeObject slot 0)
      else
        let fNew := s.readObject slot
        let s := fNew.2
        if fNew.1 = 0 then (-1, s.writeObject slot 0)
        else (slot, s.setFile fNew.1 (inherit (s.file fOld.1) (s.file fNew.1)))

/-- `sys_dup2`. -/
def sysDup2 (oldfd newfd : ℤ) (s : PipeState) : ℤ × PipeState := dupOnto oldfd newfd s

/-- `sys_dup3`; the flags are not looked at. -/
def sysDup3 (oldfd newfd _flags : ℤ) (s : PipeState) : ℤ × PipeState := dupOnto oldfd newfd s

/-- One end of a pipe over the buffer `buff`. -/
def pipeFile (s : PipeState) (buff : ℕ) (slot : ℤ) (f : PipeFile) : PipeFile :=
  { f with
    used := TRUE
    magic := 1234
    object := .pipe
    pid := s.currentProcess
    uid := s.currentUser
    gid := s.currentGroup
    senderPid := -1
    receiverPid := -1
    sync := { f.sync with action := ACTION_NULL, canRead := TRUE, canWrite := TRUE }
    canExecute := FALSE
    canAccept := FALSE
    canConnect := FALSE
    tmpfname := 0
    base := buff
    p := buff
    lbfsize := BUFSIZ
    cnt := BUFSIZ
    r := 0
    w := 0
    file := slot }

/-- What `sys_pipe` gives back: the return value, `pipefd` if it was written, and the state. -/
structure PipeResult where
  ret : ℤ
  pipefd : Option (ℤ × ℤ)
  after : PipeState

/-- `sys_pipe`; the flags are not looked at. -/
def sysPipe (_flags : ℤ) (kmalloc : ℕ → ℕ) (s : PipeState) : PipeResult :=
  if s.process = 0 then ⟨-1, none, s⟩
  else if s.used ≠ TRUE ∨ s.magic ≠ 1234 then ⟨-1, none, s⟩
  else
    let search1 := emptySlot (OPEN_MAX.toNat - 3) 3 s
    let search2 := emptySlot (OPEN_MAX.toNat - 3) 3 search1.after
    let slot1 := search1.slot
    let slot2 := search2.slot
    let s := search2.after
    if slot1 = -1 ∨ slot2 = -1 then ⟨-1, none, s⟩
    else
      let buff := kmalloc 0
      if buff = 0 then ⟨-1, none, (s.writeObject slot1 0).writeObject slot2 0⟩
      else
        let f1 := kmalloc 1
        let f2 := kmalloc 2
        if f1 = 0 ∨ f2 = 0 then ⟨-1, none, (s.writeObject slot1 0).writeObject slot2 0⟩
        else
          let s := s.setFile f1 (pipeFile s buff slot1 (s.file f1))
          let s := s.setFile f2 (pipeFile s buff slot2 (s.file f2))
          ⟨0, some (slot1, slot2), (s.writeObject slot1 f1).writeObject slot2 f2⟩

/-! ## Atomicity -/

/-- The same buffer, offsets and flags. -/
structure SameStream (f g : PipeFile) : Prop where
  base : f.base = g.base
  lbfsize : f.lbfsize = g.lbfsize
  cnt : f.cnt = g.cnt
  p : f.p = g.p
  r : f.r = g.r
  w : f.w = g.w
  flags : f.flags = g.flags

/-- No index outside the table is accessed. -/
def StaysInTable (s s' : PipeState) : Prop := s.objects.UsesWithin s'.objects 0 OBJECTS

/-- Every slot of the table is unchanged. -/
def KeepsTable (s s' : PipeState) : Prop :=
  ∀ i, 0 ≤ i → i < OBJECTS → s'.objects.cell i = s.objects.cell i

/-- Two distinct slots that were free are taken, and no other one is changed. -/
def TakesTwo (s : PipeState) (pipefd : Option (ℤ × ℤ)) (s' : PipeState) : Prop :=
  ∃ a b, pipefd = some (a, b) ∧ a ≠ b ∧ (0 ≤ a ∧ a < OBJECTS) ∧ (0 ≤ b ∧ b < OBJECTS) ∧
    s.objects.cell a = 0 ∧ s.objects.cell b = 0 ∧
    ∀ i, 0 ≤ i → i < OBJECTS → i ≠ a → i ≠ b → s'.objects.cell i = s.objects.cell i

/-- `fd` is the one slot that now has a file equivalent to the one of `oldfd`; every other slot has
the file it had, as it was. -/
structure Duplicates (oldfd fd : ℤ) (s s' : PipeState) : Prop where
  inTable : 0 ≤ fd ∧ fd < OBJECTS
  opened : s'.objects.cell fd ≠ 0
  equivalent : SameStream (s'.fileAt fd) (s.fileAt oldfd)
  slots : ∀ i, 0 ≤ i → i < OBJECTS → i ≠ fd → s'.objects.cell i = s.objects.cell i
  files : ∀ i, 0 ≤ i → i < OBJECTS → i ≠ fd → s.objects.cell i ≠ 0 → s'.fileAt i = s.fileAt i

/-- A call that makes a copy succeeds with a descriptor or fails with a negative number. -/
structure DupAtomic (oldfd : ℤ) (s : PipeState) (result : ℤ × PipeState) : Prop where
  inTable : StaysInTable s result.2
  success : 0 ≤ result.1 → Duplicates oldfd result.1 s result.2
  failure : result.1 < 0 → KeepsTable s result.2

structure PipeAtomic (s : PipeState) (result : PipeResult) : Prop where
  inTable : StaysInTable s result.after
  success : result.ret = 0 → TakesTwo s result.pipefd result.after
  failure : result.ret ≠ 0 → KeepsTable s result.after

/-- A call with its arguments. -/
inductive DescriptorCall
  | pipe (flags : ℤ)
  | dup (oldfd : ℤ)
  | dup2 (oldfd newfd : ℤ)
  | dup3 (oldfd newfd flags : ℤ)

/-- The call is atomic on the table. -/
def Atomic (kmalloc : ℕ → ℕ) (s : PipeState) : DescriptorCall → Prop
  | .pipe flags => PipeAtomic s (sysPipe flags kmalloc s)
  | .dup oldfd => DupAtomic oldfd s (sysDup oldfd kmalloc s)
  | .dup2 oldfd newfd => DupAtomic oldfd s (sysDup2 oldfd newfd s)
  | .dup3 oldfd newfd flags => DupAtomic oldfd s (sysDup3 oldfd newfd flags s)

/-! ## When the calls are atomic -/

/-- What a copy does not take over already is as in the source. -/
structure SameOffsets (f g : PipeFile) : Prop where
  r : f.r = g.r
  w : f.w = g.w
  flags : f.flags = g.flags

/-- What a copy takes over already is as in the source. -/
structure Inherited (fOld fNew : PipeFile) : Prop where
  object : fNew.object = fOld.object
  base : fNew.base = fOld.base
  p : fNew.p = fOld.p
  tmpfname : fNew.tmpfname = fOld.tmpfname
  lbfsize : fNew.lbfsize = fOld.lbfsize
  cnt : fNew.cnt = fOld.cnt
  used : fNew.used = TRUE
  magic : fNew.magic = 1234

namespace PipeState

/-- There is a free slot among those that the searches look at. -/
def HasFree (s : PipeState) : Prop := ∃ i, 3 ≤ i ∧ i < OPEN_MAX ∧ s.objects.cell i = 0

/-- The file of `oldfd` can be copied over the one at `ptr`, for the descriptor `fd`: what the copy
leaves out is the same in both, and no other slot has the file at `ptr`, or it does not change. -/
def CanCopy (s : PipeState) (oldfd fd : ℤ) (ptr : ℕ) : Prop :=
  SameOffsets (s.file ptr) (s.fileAt oldfd) ∧
    ((∀ i, 0 ≤ i → i < OBJECTS → i ≠ fd → s.objects.cell i ≠ ptr) ∨
      Inherited (s.fileAt oldfd) (s.file ptr))

end PipeState

/-- A descriptor that the calls let through. -/
def ValidFd (fd : ℤ) : Prop := 0 ≤ fd ∧ fd < OPEN_MAX

/-- A copy onto the descriptor `newfd`: it is not open, or the source is and can be copied. -/
def DupOntoCondition (oldfd newfd : ℤ) (s : PipeState) : Prop :=
  ValidFd oldfd → ValidFd newfd → s.Usable → s.objects.cell newfd ≠ 0 →
    s.objects.cell oldfd ≠ 0 ∧ s.CanCopy oldfd newfd (s.objects.cell newfd)

/-- The condition of each call. -/
def Condition (kmalloc : ℕ → ℕ) (s : PipeState) : DescriptorCall → Prop
  | .pipe _ => ¬ (s.Usable ∧ s.HasFree ∧ kmalloc 0 ≠ 0 ∧ kmalloc 1 ≠ 0 ∧ kmalloc 2 ≠ 0)
  | .dup oldfd => ValidFd oldfd → s.Usable →
      (¬ s.HasFree → s.objects.cell NUMBER_OF_FILES = 0) ∧
        ∀ fd, 3 ≤ fd → fd < OPEN_MAX → s.objects.cell fd = 0 →
          (∀ i, 3 ≤ i → i < fd → s.objects.cell i ≠ 0) →
            s.objects.cell oldfd ≠ 0 → kmalloc 0 ≠ 0 → s.CanCopy oldfd fd (kmalloc 0)
  | .dup2 oldfd newfd => DupOntoCondition oldfd newfd s
  | .dup3 oldfd newfd _ => DupOntoCondition oldfd newfd s

/-! ## Looking at the table -/

variable {s s' : PipeState} {kmalloc : ℕ → ℕ} {oldfd newfd fd i ret : ℤ} {ptr : ℕ}

/-- From `s` to `s'`, slots of the table were looked at. -/
structure LooksAt (s s' : PipeState) : Prop where
  inTable : StaysInTable s s'
  cell : s'.objects.cell = s.objects.cell
  file : s'.file = s.file

lemma LooksAt.refl (s : PipeState) : LooksAt s s := ⟨Memory.UsesWithin.refl _, rfl, rfl⟩

lemma LooksAt.read (h : LooksAt s s') (hlo : 0 ≤ i) (hhi : i < OBJECTS) :
    LooksAt s (s'.readObject i).2 :=
  ⟨h.inTable.trans (Memory.usesWithin_load hlo (by rw [Nat.cast_one]; omega)), h.cell, h.file⟩

lemma LooksAt.write (h : LooksAt s s') (hlo : 0 ≤ i) (hhi : i < OBJECTS) :
    StaysInTable s (s'.writeObject i ptr) :=
  h.inTable.trans (Memory.usesWithin_store hlo (by rw [List.length_singleton, Nat.cast_one]; omega))

lemma writeObject_cell (s : PipeState) (i : ℤ) (ptr : ℕ) (k : ℤ) :
    (s.writeObject i ptr).objects.cell k = if k = i then ptr else s.objects.cell k :=
  Memory.store_single_cell _ _ _ _

/-- Freeing a slot leaves the table as it was if the slot was free. -/
lemma keepsTable_free (h : LooksAt s s') (hlo : 0 ≤ i) (hhi : i < OBJECTS) :
    KeepsTable s (s'.writeObject i 0) ↔ s.objects.cell i = 0 := by
  constructor
  · intro hkeeps
    rw [← hkeeps i hlo hhi, writeObject_cell, if_pos rfl]
  · intro hfree k _ _
    rw [writeObject_cell, h.cell]
    by_cases hk : k = i
    · rw [if_pos hk, hk, hfree]
    · rw [if_neg hk]

/-- Where the search stops: at the first free slot, or behind the last one. -/
lemma emptySlot_spec (left : ℕ) (i : ℤ) (h : LooksAt s s') (hlo : 0 ≤ i)
    (hhi : i + left ≤ OBJECTS) :
    LooksAt s (emptySlot left i s').after ∧
      (((emptySlot left i s').slot = -1 ∧ (emptySlot left i s').i = i + left ∧
          ∀ k, i ≤ k → k < i + left → s.objects.cell k ≠ 0) ∨
        ∃ fd, (emptySlot left i s').slot = fd ∧ (emptySlot left i s').i = fd ∧
          i ≤ fd ∧ fd < i + left ∧ s.objects.cell fd = 0 ∧
            ∀ k, i ≤ k → k < fd → s.objects.cell k ≠ 0) := by
  induction left generalizing i s' with
  | zero => exact ⟨h, .inl ⟨rfl, by rw [Nat.cast_zero, add_zero]; rfl, fun k _ _ => by omega⟩⟩
  | succ left ih =>
      have hread : LooksAt s (s'.readObject i).2 := h.read hlo (by omega)
      have hobject : (s'.readObject i).1 = s.objects.cell i := by rw [← h.cell]; rfl
      rw [emptySlot]
      simp only [hobject]
      by_cases hfree : s.objects.cell i = 0
      · rw [if_pos hfree]
        exact ⟨hread, .inr ⟨i, rfl, rfl, le_rfl, by omega, hfree, fun k _ _ => by omega⟩⟩
      · rw [if_neg hfree]
        obtain ⟨hlooks, hstop⟩ := ih (i + 1) hread (by omega) (by omega)
        refine ⟨hlooks, ?_⟩
        rcases hstop with ⟨hslot, hi, hused⟩ | ⟨fd, hslot, hi, hle, hlt, hfd, hused⟩
        · refine .inl ⟨hslot, by rw [hi]; omega, fun k hk hk' => ?_⟩
          rcases hk.eq_or_lt with rfl | hk
          · exact hfree
          · exact hused k (by omega) (by omega)
        · refine .inr ⟨fd, hslot, hi, by omega, by omega, hfd, fun k hk hk' => ?_⟩
          rcases hk.eq_or_lt with rfl | hk
          · exact hfree
          · exact hused k (by omega) hk'

/-- There is one first free slot. -/
lemma firstFree_unique {fd fd' lo : ℤ} (hle : lo ≤ fd) (hle' : lo ≤ fd')
    (hfree : s.objects.cell fd = 0) (hfree' : s.objects.cell fd' = 0)
    (hused : ∀ k, lo ≤ k → k < fd → s.objects.cell k ≠ 0)
    (hused' : ∀ k, lo ≤ k → k < fd' → s.objects.cell k ≠ 0) : fd = fd' := by
  rcases lt_trichotomy fd fd' with hlt | heq | hgt
  · exact absurd hfree (hused' fd hle hlt)
  · exact heq
  · exact absurd hfree' (hused fd' hle' hgt)

/-! ## Copying a file -/

lemma sameStream_inherit {f g : PipeFile} : SameStream (inherit f g) f ↔ SameOffsets g f :=
  ⟨fun h => ⟨h.r, h.w, h.flags⟩, fun h => ⟨rfl, rfl, rfl, rfl, h.r, h.w, h.flags⟩⟩

lemma inherit_eq_self {f g : PipeFile} : inherit f g = g ↔ Inherited f g := by
  constructor
  · intro h
    rw [← h]
    exact ⟨rfl, rfl, rfl, rfl, rfl, rfl, rfl, rfl⟩
  · rintro ⟨hobject, hbase, hp, htmpfname, hlbfsize, hcnt, hused, hmagic⟩
    rw [inherit, ← hobject, ← hbase, ← hp, ← htmpfname, ← hlbfsize, ← hcnt, ← hused, ← hmagic]

lemma dupAtomic_kept (hret : ret < 0) (h : LooksAt s s') : DupAtomic oldfd s (ret, s') where
  inTable := h.inTable
  success hsuccess := absurd hret (not_lt.2 hsuccess)
  failure _ i _ _ := congrFun h.cell i

/-- A failure that frees a slot. -/
lemma dupAtomic_free (hret : ret < 0) (h : LooksAt s s') (hlo : 0 ≤ i) (hhi : i < OBJECTS) :
    DupAtomic oldfd s (ret, s'.writeObject i 0) ↔ s.objects.cell i = 0 := by
  rw [← keepsTable_free h hlo hhi]
  refine ⟨fun hatomic => hatomic.failure hret, fun hkeeps => ?_⟩
  exact ⟨h.write hlo hhi, fun hsuccess => absurd hret (not_lt.2 hsuccess), fun _ => hkeeps⟩

lemma pipeAtomic_kept {pipefd : Option (ℤ × ℤ)} (h : LooksAt s s') :
    PipeAtomic s ⟨-1, pipefd, s'⟩ where
  inTable := h.inTable
  success hsuccess := absurd hsuccess (by decide : ¬ (-1 : ℤ) = 0)
  failure _ i _ _ := congrFun h.cell i

/-- A failure that frees the slot twice. -/
lemma pipeAtomic_free {pipefd : Option (ℤ × ℤ)} (h : LooksAt s s') (hlo : 0 ≤ i) (hhi : i < OBJECTS)
    (hfree : s.objects.cell i = 0) :
    PipeAtomic s ⟨-1, pipefd, (s'.writeObject i 0).writeObject i 0⟩ where
  inTable := (h.write hlo hhi).trans
    (Memory.usesWithin_store hlo (by rw [List.length_singleton, Nat.cast_one]; omega))
  success hsuccess := absurd hsuccess (by decide : ¬ (-1 : ℤ) = 0)
  failure _ k hk hk' := by
    rw [writeObject_cell, (keepsTable_free h hlo hhi).2 hfree k hk hk']
    by_cases hki : k = i
    · rw [if_pos hki, hki, hfree]
    · rw [if_neg hki]

/-- A success: `fd` has the file at `ptr`, over which the source was copied. -/
lemma dupAtomic_copy (hlo : 0 ≤ fd) (hhi : fd < OBJECTS) (hptr : ptr ≠ 0)
    (hin : StaysInTable s s')
    (hcell : ∀ k, s'.objects.cell k = if k = fd then ptr else s.objects.cell k)
    (hfile : s'.file = Function.update s.file ptr (inherit (s.fileAt oldfd) (s.file ptr))) :
    DupAtomic oldfd s (fd, s') ↔ s.CanCopy oldfd fd ptr := by
  have hcopy : s'.fileAt fd = inherit (s.fileAt oldfd) (s.file ptr) := by
    rw [PipeState.fileAt, hcell, if_pos rfl, hfile, Function.update_self]
  have hother : ∀ i, i ≠ fd → s'.fileAt i
      = Function.update s.file ptr (inherit (s.fileAt oldfd) (s.file ptr)) (s.objects.cell i) := by
    intro i hi
    rw [PipeState.fileAt, hcell, if_neg hi, hfile]
  constructor
  · intro hatomic
    have hdup : Duplicates oldfd fd s s' := hatomic.success hlo
    refine ⟨sameStream_inherit.1 (hcopy ▸ hdup.equivalent), ?_⟩
    refine or_iff_not_imp_right.2 fun hinherited i hi hi' hne heq => hinherited ?_
    have hsame := hdup.files i hi hi' hne (heq ▸ hptr)
    have hi : s.fileAt i = s.file ptr := congrArg s.file heq
    rw [hother i hne, heq, Function.update_self, hi] at hsame
    exact inherit_eq_self.1 hsame
  · rintro ⟨hoffsets, hshared⟩
    refine ⟨hin, fun _ => ?_, fun hfailure => absurd hlo (not_le.2 hfailure)⟩
    refine ⟨⟨hlo, hhi⟩, ?_, ?_, fun i _ _ hi => by rw [hcell, if_neg hi], fun i hi hi' hne _ => ?_⟩
    · rwa [hcell, if_pos rfl]
    · rw [hcopy]
      exact sameStream_inherit.2 hoffsets
    · rw [hother i hne]
      rcases hshared with halone | hinherited
      · exact Function.update_of_ne (halone i hi hi' hne) _ _
      · rw [inherit_eq_self.2 hinherited, Function.update_eq_self]
        rfl

/-! ## Each call -/

lemma validFd_iff : ValidFd fd ↔ ¬ (fd < 0 ∨ fd ≥ OPEN_MAX) := by
  rw [not_or, not_lt, not_le]
  rfl

lemma usable_iff : s.Usable ↔ s.process ≠ 0 ∧ ¬ (s.used ≠ TRUE ∨ s.magic ≠ 1234) := by
  rw [not_or, not_not, not_not]
  rfl

/-- A copy onto a descriptor. -/
lemma dupOnto_atomic : DupAtomic oldfd s (dupOnto oldfd newfd s) ↔ DupOntoCondition oldfd newfd s := by
  unfold dupOnto
  by_cases hold : oldfd < 0 ∨ oldfd ≥ OPEN_MAX
  · rw [if_pos hold]
    refine iff_of_true (dupAtomic_kept (by decide) (.refl s)) fun hvalid => ?_
    exact absurd hold (validFd_iff.1 hvalid)
  rw [if_neg hold]
  by_cases hnew : newfd < 0 ∨ newfd ≥ OPEN_MAX
  · rw [if_pos hnew]
    refine iff_of_true (dupAtomic_kept (by decide) (.refl s)) fun _ hvalid => ?_
    exact absurd hnew (validFd_iff.1 hvalid)
  rw [if_neg hnew]
  by_cases hprocess : s.process = 0
  · rw [if_pos hprocess]
    refine iff_of_true (dupAtomic_kept (by decide) (.refl s)) fun _ _ husable => ?_
    exact absurd hprocess husable.1
  rw [if_neg hprocess]
  by_cases hcheck : s.used ≠ TRUE ∨ s.magic ≠ 1234
  · rw [if_pos hcheck]
    refine iff_of_true (dupAtomic_kept (by decide) (.refl s)) fun _ _ husable => ?_
    exact absurd hcheck (usable_iff.1 husable).2
  rw [if_neg hcheck]
  have husable : s.Usable := usable_iff.2 ⟨hprocess, hcheck⟩
  obtain ⟨hlo, hlt⟩ := validFd_iff.2 hold
  obtain ⟨hlo', hlt'⟩ := validFd_iff.2 hnew
  have hOBJECTS : OPEN_MAX ≤ OBJECTS := by decide
  have hcond : DupOntoCondition oldfd newfd s ↔ (s.objects.cell newfd ≠ 0 →
      s.objects.cell oldfd ≠ 0 ∧ s.CanCopy oldfd newfd (s.objects.cell newfd)) :=
    ⟨fun h => h ⟨hlo, hlt⟩ ⟨hlo', hlt'⟩ husable, fun h _ _ _ => h⟩
  have hread : LooksAt s (s.readObject oldfd).2 := (LooksAt.refl s).read hlo (by omega)
  have hread' : LooksAt s ((s.readObject oldfd).2.readObject newfd).2 := hread.read hlo' (by omega)
  rw [hcond]
  simp only [show ¬ newfd = -1 by omega, if_false]
  by_cases hsource : s.objects.cell oldfd = 0
  · rw [if_pos (show (s.readObject oldfd).1 = 0 from hsource),
      dupAtomic_free (by decide) hread hlo' (by omega)]
    refine ⟨fun hfree hopen => absurd hfree hopen, fun h => ?_⟩
    by_contra hopen
    exact (h hopen).1 hsource
  rw [if_neg (show ¬ (s.readObject oldfd).1 = 0 from hsource)]
  by_cases htarget : s.objects.cell newfd = 0
  · rw [if_pos (show ((s.readObject oldfd).2.readObject newfd).1 = 0 from htarget),
      dupAtomic_free (by decide) hread' hlo' (by omega)]
    exact iff_of_true htarget fun hopen => absurd htarget hopen
  rw [if_neg (show ¬ ((s.readObject oldfd).2.readObject newfd).1 = 0 from htarget),
    dupAtomic_copy hlo' (by omega) htarget]
  · exact ⟨fun h _ => ⟨hsource, h⟩, fun h => (h htarget).2⟩
  · exact hread'.inTable
  · intro k
    by_cases hk : k = newfd
    · rw [if_pos hk, hk]
      rfl
    · rw [if_neg hk]
      rfl
  · rfl

/-- `sys_dup`. -/
lemma sysDup_atomic :
    DupAtomic oldfd s (sysDup oldfd kmalloc s) ↔ Condition kmalloc s (.dup oldfd) := by
  unfold sysDup
  by_cases hold : oldfd < 0 ∨ oldfd ≥ OPEN_MAX
  · rw [if_pos hold]
    refine iff_of_true (dupAtomic_kept (by decide) (.refl s)) fun hvalid => ?_
    exact absurd hold (validFd_iff.1 hvalid)
  rw [if_neg hold]
  by_cases hprocess : s.process = 0
  · rw [if_pos hprocess]
    refine iff_of_true (dupAtomic_kept (by decide) (.refl s)) fun _ husable => ?_
    exact absurd hprocess husable.1
  rw [if_neg hprocess]
  by_cases hcheck : s.used ≠ TRUE ∨ s.magic ≠ 1234
  · rw [if_pos hcheck]
    refine iff_of_true (dupAtomic_kept (by decide) (.refl s)) fun _ husable => ?_
    exact absurd hcheck (usable_iff.1 husable).2
  rw [if_neg hcheck]
  have husable : s.Usable := usable_iff.2 ⟨hprocess, hcheck⟩
  obtain ⟨hlo, hlt⟩ := validFd_iff.2 hold
  have hOBJECTS : OPEN_MAX ≤ OBJECTS := by decide
  obtain ⟨hlooks, hstop⟩ := emptySlot_spec (NUMBER_OF_FILES - 3) 3 (LooksAt.refl s)
    (by decide) (by decide)
  have hend : (3 : ℤ) + (NUMBER_OF_FILES - 3 : ℕ) = OPEN_MAX := by decide
  rw [hend] at hstop
  simp only [Condition]
  rcases hstop with ⟨hslot, hi, hused⟩ | ⟨fd, hslot, hi, hle, hlt', hfree, hused⟩
  · have hnone : ¬ s.HasFree := fun ⟨k, hk, hk', hzero⟩ => hused k hk hk' hzero
    rw [if_pos hslot, hi, dupAtomic_free (by decide) hlooks (by decide) (by decide)]
    refine ⟨fun h _ _ => ⟨fun _ => h, fun fd hle hlt' hfree => ?_⟩, fun h => ?_⟩
    · exact absurd hfree (hused fd hle hlt')
    · exact (h ⟨hlo, hlt⟩ husable).1 hnone
  have hsome : s.HasFree := ⟨fd, hle, hlt', hfree⟩
  have hread : LooksAt s ((emptySlot (NUMBER_OF_FILES - 3) 3 s).after.readObject oldfd).2 :=
    hlooks.read hlo (by omega)
  have hobject : ((emptySlot (NUMBER_OF_FILES - 3) 3 s).after.readObject oldfd).1
      = s.objects.cell oldfd := congrFun hlooks.cell oldfd
  have hcond : (ValidFd oldfd → s.Usable → (¬ s.HasFree → s.objects.cell NUMBER_OF_FILES = 0) ∧
      ∀ fd, 3 ≤ fd → fd < OPEN_MAX → s.objects.cell fd = 0 →
        (∀ i, 3 ≤ i → i < fd → s.objects.cell i ≠ 0) →
          s.objects.cell oldfd ≠ 0 → kmalloc 0 ≠ 0 → s.CanCopy oldfd fd (kmalloc 0)) ↔
      (s.objects.cell oldfd ≠ 0 → kmalloc 0 ≠ 0 → s.CanCopy oldfd fd (kmalloc 0)) := by
    constructor
    · intro h
      exact (h ⟨hlo, hlt⟩ husable).2 fd hle hlt' hfree hused
    · refine fun h _ _ => ⟨fun hnone => absurd hsome hnone, fun fd' hle' hlt'' hfree' hused' => ?_⟩
      rwa [firstFree_unique hle' hle hfree' hfree hused' hused]
  rw [hcond, if_neg (by rw [hslot]; omega), hobject, hslot, hi]
  by_cases hsource : s.objects.cell oldfd = 0
  · rw [if_pos hsource, dupAtomic_free (by decide) hread (by omega) (by omega)]
    exact iff_of_true hfree fun hopen => absurd hsource hopen
  rw [if_neg hsource]
  by_cases hblock : kmalloc 0 = 0
  · rw [if_pos hblock, dupAtomic_free (by decide) hread (by omega) (by omega)]
    exact iff_of_true hfree fun _ hnonnull => absurd hblock hnonnull
  rw [if_neg hblock, dupAtomic_copy (by omega) (by omega) hblock]
  · exact ⟨fun h _ _ => h, fun h => h hsource hblock⟩
  · exact hread.write (by omega) (by omega)
  · intro k
    rw [writeObject_cell]
    exact congrArg (fun cell => if k = fd then kmalloc 0 else cell k) hread.cell
  · simp only [PipeState.setFile, PipeState.writeObject, hread.file]
    rfl

/-- `sys_pipe`: every success finds one slot for both ends. -/
lemma sysPipe_atomic {flags : ℤ} :
    PipeAtomic s (sysPipe flags kmalloc s) ↔ Condition kmalloc s (.pipe flags) := by
  unfold sysPipe
  by_cases hprocess : s.process = 0
  · rw [if_pos hprocess]
    exact iff_of_true (pipeAtomic_kept (.refl s)) fun h => h.1.1 hprocess
  rw [if_neg hprocess]
  by_cases hcheck : s.used ≠ TRUE ∨ s.magic ≠ 1234
  · rw [if_pos hcheck]
    exact iff_of_true (pipeAtomic_kept (.refl s)) fun h => (usable_iff.1 h.1).2 hcheck
  rw [if_neg hcheck]
  have husable : s.Usable := usable_iff.2 ⟨hprocess, hcheck⟩
  have hOBJECTS : OPEN_MAX ≤ OBJECTS := by decide
  have hend : (3 : ℤ) + (OPEN_MAX.toNat - 3 : ℕ) = OPEN_MAX := by decide
  obtain ⟨hlooks, hstop⟩ := emptySlot_spec (OPEN_MAX.toNat - 3) 3 (LooksAt.refl s)
    (by decide) (by decide)
  obtain ⟨hlooks', hstop'⟩ := emptySlot_spec (OPEN_MAX.toNat - 3) 3 hlooks
    (by decide) (by decide)
  rw [hend] at hstop hstop'
  rcases hstop with ⟨hslot, -, hused⟩ | ⟨fd, hslot, -, hle, hlt, hfree, hused⟩
  · have hnone : ¬ s.HasFree := fun ⟨k, hk, hk', hzero⟩ => hused k hk hk' hzero
    rcases hstop' with ⟨hslot', -, -⟩ | ⟨fd', -, -, hle', hlt', hfree', -⟩
    · rw [if_pos (.inl hslot)]
      exact iff_of_true (pipeAtomic_kept hlooks') fun h => hnone h.2.1
    · exact absurd hfree' (hused fd' hle' hlt')
  rcases hstop' with ⟨-, -, hused'⟩ | ⟨fd', hslot', -, hle', hlt', hfree', hused'⟩
  · exact absurd hfree (hused' fd hle hlt)
  have hsome : s.HasFree := ⟨fd, hle, hlt, hfree⟩
  -- The second search finds what the first one found.
  obtain rfl : fd = fd' := firstFree_unique hle hle' hfree hfree' hused hused'
  rw [if_neg (by rw [hslot, hslot']; omega), hslot, hslot']
  by_cases hbuff : kmalloc 0 = 0
  · rw [if_pos hbuff]
    exact iff_of_true (pipeAtomic_free hlooks' (by omega) (by omega) hfree) fun h => h.2.2.1 hbuff
  rw [if_neg hbuff]
  by_cases hfiles : kmalloc 1 = 0 ∨ kmalloc 2 = 0
  · rw [if_pos hfiles]
    refine iff_of_true (pipeAtomic_free hlooks' (by omega) (by omega) hfree) fun h => ?_
    rcases hfiles with hf1 | hf2
    · exact h.2.2.2.1 hf1
    · exact h.2.2.2.2 hf2
  rw [if_neg hfiles]
  refine iff_of_false (fun hatomic => ?_) fun h => h ⟨husable, hsome, hbuff, not_or.1 hfiles⟩
  obtain ⟨a, b, hpipefd, hne, -⟩ := hatomic.success rfl
  obtain ⟨rfl, rfl⟩ := Prod.mk.inj (Option.some.inj hpipefd)
  exact hne rfl

/-- **Descriptors**: a call is atomic on the table of the process if and only if its condition
holds. -/
theorem descriptorCall_atomic_iff (kmalloc : ℕ → ℕ) (s : PipeState) (call : DescriptorCall) :
    Atomic kmalloc s call ↔ Condition kmalloc s call := by
  cases call with
  | pipe flags => exact sysPipe_atomic
  | dup oldfd => exact sysDup_atomic
  | dup2 oldfd newfd => exact dupOnto_atomic
  | dup3 oldfd newfd flags => exact dupOnto_atomic

/-- A process with the three streams only. -/
def streamsOnly : PipeState where
  process := 0x1000
  used := TRUE
  magic := 1234
  objects := ⟨fun i => if i = 0 then 0x2000 else if i = 1 then 0x3000 else if i = 2 then 0x4000 else 0, []⟩
  file _ :=
    { tableFile with
      tmpfname := 0
      pid := 0
      uid := 0
      gid := 0
      senderPid := -1
      receiverPid := -1
      canExecute := FALSE
      canAccept := FALSE
      canConnect := FALSE }
  currentProcess := 0
  currentUser := 0
  currentGroup := 0

/-- Both ends of a pipe get the descriptor 3. -/
theorem descriptorCall_not_atomic :
    ¬ Atomic (fun n => 0x5000 + 0x1000 * n) streamsOnly (.pipe 0) := by
  intro hatomic
  have hpipe : PipeAtomic streamsOnly (sysPipe 0 (fun n => 0x5000 + 0x1000 * n) streamsOnly) := hatomic
  have husable : streamsOnly.Usable := ⟨by decide, rfl, rfl⟩
  have hfree : streamsOnly.HasFree := ⟨3, by decide, by decide, by decide⟩
  exact sysPipe_atomic.1 hpipe ⟨husable, hfree, by decide, by decide, by decide⟩

end Gramado.Pipe
