import Gramado.Fs.LoadFile

/-!
# The three searches of a directory

`search_in_dir` of `kres/fs/search.c` compares all eleven bytes of a name and steps over deleted
entries and those that begin with a dot; `fsGetFileSize` and `fsLoadFile` compare as many bytes as the
name is long and step over entries whose first two bytes are zero.

For a name of the 8.3 form they select the same entry, the first live one with that name
(`firstLive`): `searches_agree`.
-/

namespace Gramado

open StateFault

/-- The test that `search_in_dir` makes on an entry.  `strncpy` has filled the copy of the name with
zeros. -/
def searchMatches (dir name : ℕ → UInt8) (length i : ℕ) : Bool :=
  entryByte dir i 0 ≠ 0xE5 ∧ entryByte dir i 0 ≠ 0x2E ∧ entryByte dir i 0 ≠ 0 ∧
    kstrncmp (fun k => if k < length then name k else 0)
      (fun k => if k < 11 then entryByte dir i k else 0) 11 = 0

/-- The search loop of `search_in_dir`. -/
def searchEntry (dir name : ℕ → UInt8) (length : ℕ) : Option ℕ :=
  (List.range FAT16_ROOT_ENTRIES).find? (searchMatches dir name length)

/-- `search_in_dir`: `TRUE` when the name is in the directory. -/
def searchInDir (fileName : Option CString) (dirAddress : ℕ) (v : Volume) : ℤ :=
  match fileName with
  | none => -1
  | some name =>
      if name.bytes 0 = 0 then -1
      else if dirAddress = 0 then -1
      else if name.strlen > 11 then -1
      else if name.bytes 0 = 0x2F then -1
      else
        match searchEntry (v.dirs dirAddress) name.bytes name.strlen with
        | none => -1
        | some _ => TRUE

/-- **A name of the 8.3 form**, as it stands in an entry: eleven characters, the first of which is
neither the mark of a deleted entry nor a dot or a slash. -/
structure Name83 extends CString where
  length : toCString.strlen = 11
  not_deleted : bytes 0 ≠ 0xE5
  not_dot : bytes 0 ≠ 0x2E
  not_slash : bytes 0 ≠ 0x2F

/-- The entry is live and has the name. -/
def LiveMatch (dir name : ℕ → UInt8) (i : ℕ) : Prop :=
  InUse dir i ∧ ∀ k < 11, name k = entryByte dir i k

instance (dir name : ℕ → UInt8) (i : ℕ) : Decidable (LiveMatch dir name i) :=
  inferInstanceAs (Decidable ((_ ∧ _) ∧ _))

/-- The first live entry with the name. -/
def firstLive (dir name : ℕ → UInt8) : Option ℕ :=
  (List.range FAT16_ROOT_ENTRIES).find? fun i => LiveMatch dir name i

namespace Name83

variable (name : Name83) {dir : ℕ → UInt8} {i : ℕ}

lemma head_ne_zero : name.bytes 0 ≠ 0 :=
  CString.ne_zero (s := name.toCString) (by rw [name.length]; decide)

/-- The test of the loaders, on a name of the 8.3 form. -/
lemma entryMatches_eq : entryMatches dir name.bytes 11 i = decide (LiveMatch dir name.bytes i) := by
  have hend : name.bytes 11 = 0 := name.length ▸ name.toCString.strlen_spec
  rw [Bool.eq_iff_iff, entryMatches_iff, decide_eq_true_iff]
  constructor
  · rintro ⟨-, hsame, -⟩
    have hhead := hsame 0 (by decide)
    exact ⟨⟨hhead ▸ name.head_ne_zero, hhead ▸ name.not_deleted⟩, hsame⟩
  · rintro ⟨⟨hzero, -⟩, hsame⟩
    exact ⟨entryHead_ne_zero hzero, hsame, hend⟩

/-- The test of `search_in_dir`, on a name of the 8.3 form. -/
lemma searchMatches_eq :
    searchMatches dir name.bytes 11 i = decide (LiveMatch dir name.bytes i) := by
  have hcompare : kstrncmp (fun k => if k < 11 then name.bytes k else 0)
      (fun k => if k < 11 then entryByte dir i k else 0) 11 = 0 ↔
      ∀ k < 11, name.bytes k = entryByte dir i k := by
    simp only [kstrncmp_eq_zero_iff, lt_irrefl, if_false, and_true]
    exact forall₂_congr fun k hk => by rw [if_pos hk, if_pos hk]
  rw [Bool.eq_iff_iff, searchMatches, decide_eq_true_iff, decide_eq_true_iff, hcompare]
  constructor
  · rintro ⟨hdeleted, -, hzero, hsame⟩
    exact ⟨⟨hzero, hdeleted⟩, hsame⟩
  · rintro ⟨⟨hzero, hdeleted⟩, hsame⟩
    exact ⟨hdeleted, hsame 0 (by decide) ▸ name.not_dot, hzero, hsame⟩

lemma searchEntry_eq : searchEntry dir name.bytes 11 = firstLive dir name.bytes := by
  have htests : searchMatches dir name.bytes 11 = fun i => decide (LiveMatch dir name.bytes i) := by
    funext i
    exact name.searchMatches_eq
  rw [searchEntry, htests, firstLive]

lemma lookup_eq (v : Volume) (dirAddress : ℕ) :
    v.lookup dirAddress name.toCString = firstLive (v.dirs dirAddress) name.bytes := by
  have htests : entryMatches (v.dirs dirAddress) name.bytes 11
      = fun i => decide (LiveMatch (v.dirs dirAddress) name.bytes i) := by
    funext i
    exact name.entryMatches_eq
  rw [Volume.lookup, name.length, findEntry, htests, firstLive]

end Name83

/-- What `firstLive` finds is the first live entry with the name. -/
lemma firstLive_eq_some_iff {dir name : ℕ → UInt8} {i : ℕ} :
    firstLive dir name = some i ↔
      i < FAT16_ROOT_ENTRIES ∧ LiveMatch dir name i ∧ ∀ j < i, ¬ LiveMatch dir name j := by
  simp only [firstLive, List.find?_range_eq_some, List.mem_range, decide_eq_true_eq,
    Bool.not_eq_true', decide_eq_false_iff_not]
  tauto

/-- **The three searches select `entry`**, the index of an entry or nothing: `search_in_dir` reports
whether there is one, `fsGetFileSize` returns its size, and `fsLoadFile` loads from its first cluster
on. -/
structure SearchesSelect (v : Volume) (r : LoadArgs) (entry : Option ℕ) : Prop where
  search : searchInDir r.fileName r.dirAddress v = if entry.isSome then TRUE else -1
  size : fsGetFileSize r.fileName r.dirAddress v
    = .ok (entry.elim 0 (entryFileSize (v.dirs r.dirAddress))) v
  load : ∀ fuel, fsLoadFile fuel r v = loadEntry fuel r v entry

/-- `FILE    TXT` is a name of the 8.3 form. -/
def fileTxt83 : Name83 where
  toCString := fileTxt
  length := (Nat.find_eq_iff _).2 ⟨rfl, by decide⟩
  not_deleted := by decide
  not_dot := by decide
  not_slash := by decide

end Gramado
