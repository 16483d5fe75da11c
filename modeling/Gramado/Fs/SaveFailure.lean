import Gramado.Fs.FileName
import Gramado.Fs.FatInvariant
import Gramado.Fs.LoadFile
import Gramado.Fs.ReadWrite

/-!
# Saves that fail

How a call of `fsSaveFile` ends: it panics in front of the scan, it gives up with 1 (`goto fail`), it
saves the file, or it panics on a cluster beyond the disk when the entry is written already.
`sys_create_empty_file` and `sys_create_empty_directory` of `kres/fs/fs.c` take a negative value for a
failure.

* `freeList` — the free clusters, in the order in which the scan meets them.
* `fsSaveFile_cases` — the four ends.
* `saveIndices` — the words of `fat16ClustersToSave` that a call uses.
* `save_failure` — when the list is used within its bounds, when a call that fails leaves the volume as
  it was, and when the caller sees the failure.
-/

namespace Gramado

open StateFault

/-! ## The checks and the free clusters -/

/-- The checks in front of the scan: the call panics, gives up (`none`), or goes on with the name. -/
def SaveArgs.check (q : SaveArgs) : Except Fault (Option CString) :=
  if q.fatAddress = 0 then throw (.panic "fsSaveFile: fat_address\n")
  else if q.dirAddress = 0 then throw (.panic "fsSaveFile: dir_address\n")
  else if q.fatAddress ≠ VOLUME1_FAT_ADDRESS then throw (.panic "fsSaveFile: fat_address\n")
  else
    match q.fileName with
    | none => return none
    | some name =>
        if name.bytes 0 = 0 then return none
        else if q.dirEntries = 0 ∨ q.dirEntries > FAT16_ROOT_ENTRIES then
          throw (.panic "fsSaveFile: [FAIL] max dir entries")
        else if q.fileSize > maxFileSizeInSectors then return none
        else return some name

/-- The free clusters among the `n` from `c` on, in their order. -/
def freeList : ℕ → ℕ → (UInt16 → UInt16) → List UInt16
  | 0, _, _ => []
  | n + 1, c, fat =>
      if fat (UInt16.ofNat c) = 0 then UInt16.ofNat c :: freeList n (c + 1) fat
      else freeList n (c + 1) fat

/-- The clusters that the scan takes. -/
def SaveArgs.taken (q : SaveArgs) (v : Volume) : List UInt16 :=
  (freeList CLUSTERS_TO_SAVE_MAX 3 v.fat).take q.fileSize

/-- **The call comes to the walk over the list**: it passes the checks, there is one free cluster more
than the file needs, and the directory has an empty entry. -/
structure SaveReached (q : SaveArgs) (v : Volume) (name : CString) (slot : ℕ) : Prop where
  check : q.check = .ok (some name)
  free : q.fileSize < (freeList CLUSTERS_TO_SAVE_MAX 3 v.fat).length
  slot : findEmptyDirectoryEntry (v.dirs q.dirAddress) q.dirEntries.toNat = some slot

/-- The list is replaced. -/
def Volume.withList (list : ℤ → UInt16) (v : Volume) : Volume := { v with fat16ClustersToSave := list }

section Parts

variable {q : SaveArgs} {v : Volume} {name : CString}

/-- What a call does on a volume with its caches loaded. -/
lemma fsSaveFile_eq (hv : CachesLoaded v) : fsSaveFile q v =
    match q.check with
    | .error e => .error e v
    | .ok none => .ok 1 v
    | .ok (some name) => (do
        if ← findClusters CLUSTERS_TO_SAVE_MAX 3 0 q.fileSize then saveFound name q
        else return 1 : VolumeM ℤ) v := by
  rw [fsSaveFile, SaveArgs.check]
  by_cases hzero : q.fatAddress = 0
  · rw [if_pos hzero, if_pos hzero]
    rfl
  rw [if_neg hzero, if_neg hzero]
  by_cases hdir : q.dirAddress = 0
  · rw [if_pos hdir, if_pos hdir]
    rfl
  rw [if_neg hdir, if_neg hdir]
  by_cases hfat : q.fatAddress ≠ VOLUME1_FAT_ADDRESS
  · rw [if_pos hfat, if_pos hfat]
    rfl
  rw [if_neg hfat, if_neg hfat]
  cases hname : q.fileName with
  | none => rfl
  | some name =>
      dsimp only
      by_cases hempty : name.bytes 0 = 0
      · rw [if_pos hempty, if_pos hempty]
        rfl
      rw [if_neg hempty, if_neg hempty]
      by_cases hentries : q.dirEntries = 0 ∨ q.dirEntries > FAT16_ROOT_ENTRIES
      · rw [if_pos hentries, if_pos hentries]
        rfl
      rw [if_neg hentries, if_neg hentries]
      by_cases hsize : q.fileSize > maxFileSizeInSectors
      · rw [if_pos hsize, if_pos hsize]
        rfl
      rw [if_neg hsize, if_neg hsize, bind_of_ok (fsLoadRootdir_eq hv.rootdirOnDisk hv.rootdir),
        bind_of_ok (fsLoadFat_of_loaded hv.fatLoaded)]
      rfl

/-- What the checks have tested when they let a call pass. -/
lemma SaveArgs.check_some (h : q.check = .ok (some name)) :
    name.bytes 0 ≠ 0 ∧ q.fileSize ≤ maxFileSizeInSectors := by
  rw [SaveArgs.check] at h
  by_cases hzero : q.fatAddress = 0
  · rw [if_pos hzero] at h
    cases h
  rw [if_neg hzero] at h
  by_cases hdir : q.dirAddress = 0
  · rw [if_pos hdir] at h
    cases h
  rw [if_neg hdir] at h
  by_cases hfat : q.fatAddress ≠ VOLUME1_FAT_ADDRESS
  · rw [if_pos hfat] at h
    cases h
  rw [if_neg hfat] at h
  cases hname : q.fileName with
  | none =>
      rw [hname] at h
      cases h
  | some name' =>
      rw [hname] at h
      dsimp only at h
      by_cases hempty : name'.bytes 0 = 0
      · rw [if_pos hempty] at h
        cases h
      rw [if_neg hempty] at h
      by_cases hentries : q.dirEntries = 0 ∨ q.dirEntries > FAT16_ROOT_ENTRIES
      · rw [if_pos hentries] at h
        cases h
      rw [if_neg hentries] at h
      by_cases hsize : q.fileSize > maxFileSizeInSectors
      · rw [if_pos hsize] at h
        cases h
      rw [if_neg hsize] at h
      cases h
      exact ⟨hempty, not_lt.1 hsize⟩

lemma freeList_range : ∀ {n c : ℕ} {fat : UInt16 → UInt16}, c + n ≤ 2 ^ 16 →
    ∀ x ∈ freeList n c fat, c ≤ x.toNat ∧ x.toNat < c + n
  | 0, _, _, _, x, hx => absurd hx List.not_mem_nil
  | n + 1, c, fat, hrange, x, hx => by
      have hc : (UInt16.ofNat c).toNat = c :=
        UInt16.toNat_ofNat_of_lt' (by simp only [UInt16.size]; omega)
      have hlater : x ∈ freeList n (c + 1) fat → c ≤ x.toNat ∧ x.toNat < c + (n + 1) := fun h => by
        have hrest := freeList_range (by omega) x h
        omega
      rw [freeList] at hx
      by_cases hfree : fat (UInt16.ofNat c) = 0
      · rw [if_pos hfree] at hx
        rcases List.mem_cons.1 hx with rfl | hx
        · omega
        · exact hlater hx
      · rw [if_neg hfree] at hx
        exact hlater hx

/-- **The scan**: it succeeds if there is one free cluster more than it was asked for, and lists the
first ones with the mark behind them. -/
lemma findClusters_eq : ∀ (n c : ℕ) (j : ℤ) (fileSize : ℕ) (v : Volume),
    ∃ list, (∀ k < j, list k = v.fat16ClustersToSave k) ∧
      (fileSize < (freeList n c v.fat).length → Listed list j ((freeList n c v.fat).take fileSize)) ∧
      findClusters n c j fileSize v
        = .ok (decide (fileSize < (freeList n c v.fat).length)) (v.withList list)
  | 0, c, j, fileSize, v =>
      ⟨v.fat16ClustersToSave, fun _ _ => rfl, fun h => absurd h (Nat.not_lt_zero _), rfl⟩
  | n + 1, c, j, fileSize, v => by
      simp only [findClusters, get_bind, freeList]
      by_cases hfree : v.fat (UInt16.ofNat c) = 0
      · simp only [if_pos hfree]
        cases fileSize with
        | zero =>
            refine ⟨Function.update v.fat16ClustersToSave j 0xFFF8,
              fun k hk => Function.update_of_ne hk.ne _ _, fun _ => Function.update_self _ _ _, ?_⟩
            rw [decide_eq_true (by simp : 0 < (UInt16.ofNat c :: freeList n (c + 1) v.fat).length)]
            rfl
        | succ m =>
            obtain ⟨list, hbefore, hlisted, hrun⟩ := findClusters_eq n (c + 1) (j + 1) m
              (v.setClusterToSave j (UInt16.ofNat c))
            refine ⟨list, fun k hk => ?_, fun h => ⟨?_, hlisted ?_⟩, ?_⟩
            · rw [hbefore k (by omega)]
              exact Function.update_of_ne hk.ne _ _
            · rw [hbefore j (by omega)]
              exact Function.update_self _ _ _
            · show m < (freeList n (c + 1) v.fat).length
              simpa using h
            · rw [if_neg (Nat.succ_ne_zero m), modify_bind, Nat.add_sub_cancel, hrun]
              simp only [List.length_cons, Nat.add_lt_add_iff_right]
              rfl
      · simp only [if_neg hfree]
        exact findClusters_eq n (c + 1) j fileSize v

/-- The clusters that the scan takes are none of the marks. -/
lemma SaveArgs.taken_ne_mark : ∀ c ∈ q.taken v, c ≠ 0xFFF8 := fun c hc =>
  ne_mark (freeList_range (by decide) c (List.mem_of_mem_take hc)).2

lemma SaveArgs.taken_length (hfree : q.fileSize < (freeList CLUSTERS_TO_SAVE_MAX 3 v.fat).length) :
    (q.taken v).length = q.fileSize := by
  rw [SaveArgs.taken, List.length_take, min_eq_left hfree.le]

lemma ataWriteSector_of_ge {lba : ℕ} (bytes : ℕ → UInt8) (h : v.gNumberOfSectorsInBootDisk ≤ lba) :
    ∃ e, ataWriteSector bytes lba v = .error e v := by
  simp only [ataWriteSector, get_bind]
  by_cases hzero : v.gNumberOfSectorsInBootDisk = 0
  · rw [if_pos hzero]
    exact ⟨_, rfl⟩
  · rw [if_neg hzero, if_pos h]
    exact ⟨_, rfl⟩

/-- The walk panics on the first cluster beyond the disk.  It touches no directory. -/
lemma saveClusters_panics : ∀ {n : ℕ} {i : ℤ} (address : ℕ) {L : List UInt16} {v : Volume},
    Listed v.fat16ClustersToSave i L → (∀ c ∈ L, c ≠ 0xFFF8) → L.length < n →
    (∃ c ∈ L, v.gNumberOfSectorsInBootDisk ≤ dataareaLba c) →
    ∃ e v', saveClusters n i address v = .error e v' ∧ v'.dirs = v.dirs
  | 0, _, _, _, _, _, _, hlength, _ => absurd hlength (Nat.not_lt_zero _)
  | n + 1, i, address, [], v, _, _, _, ⟨c, hc, _⟩ => absurd hc List.not_mem_nil
  | n + 1, i, address, c :: L, v, ⟨hc, hlisted⟩, hclusters, hlength, hbeyond => by
      obtain ⟨hmark, hmarks⟩ := List.forall_mem_cons.1 hclusters
      simp only [saveClusters, get_bind, hc, if_neg hmark, modify_bind, hlisted.head]
      by_cases hlt : dataareaLba c < v.gNumberOfSectorsInBootDisk
      · have hrest : ∃ d ∈ L, v.gNumberOfSectorsInBootDisk ≤ dataareaLba d := by
          obtain ⟨d, hd, hle⟩ := hbeyond
          rcases List.mem_cons.1 hd with rfl | hd
          · omega
          · exact ⟨d, hd, hle⟩
        obtain ⟨e, v', hrun, hdirs⟩ := saveClusters_panics (ulongAdd address SECTOR_SIZE)
          (v := (v.setFat c (L.headD 0xFFF8)).setSector (dataareaLba c) (v.bytesAt address))
          hlisted hmarks (Nat.lt_of_succ_lt_succ hlength) hrest
        refine ⟨e, v', ?_, hdirs⟩
        rw [bind_of_ok (ataWriteSector_of_lt (v.bytesAt address)
          (show dataareaLba c < (v.setFat c (L.headD 0xFFF8)).gNumberOfSectorsInBootDisk from hlt))]
        exact hrun
      · obtain ⟨e, hwrite⟩ := ataWriteSector_of_ge (v.bytesAt address)
          (show (v.setFat c (L.headD 0xFFF8)).gNumberOfSectorsInBootDisk ≤ dataareaLba c from
            not_lt.1 hlt)
        exact ⟨e, _, bind_of_error hwrite, rfl⟩

/-- The first byte of the new entry is not the one that stood there. -/
lemma newEntry_ne (hname : name.bytes 0 ≠ 0) {flag : UInt8} {first : UInt16} {size slot : ℕ}
    {dir : ℕ → UInt8} (hslot : entryByte dir slot 0 = 0) :
    putEntry slot (dirEntry name.bytes flag first size) dir ≠ dir := by
  intro hsame
  have hhead : entryByte (putEntry slot (dirEntry name.bytes flag first size) dir) slot 0
      = name.bytes 0 := dirEntry_head
  rw [hsame, hslot] at hhead
  exact hname hhead.symm

/-- What is left when the scan has succeeded: nothing is done without an empty entry, the file is saved
if the clusters are on the disk, and if they are not, the call panics with the entry written. -/
lemma saveFound_cases {L : List UInt16} (hlisted : Listed v.fat16ClustersToSave 0 L)
    (hmark : ∀ c ∈ L, c ≠ 0xFFF8) (hlength : L.length ≤ maxFileSizeInSectors)
    (hname : name.bytes 0 ≠ 0)
    (hrootdisk : VOLUME1_ROOTDIR_LBA + rootdirSize ≤ v.gNumberOfSectorsInBootDisk) :
    match findEmptyDirectoryEntry (v.dirs q.dirAddress) q.dirEntries.toNat with
    | none => saveFound name q v = .ok 1 v
    | some _ =>
        ((∀ c ∈ L, dataareaLba c < v.gNumberOfSectorsInBootDisk) →
          ∃ v', saveFound name q v = .ok 0 v') ∧
        ((∃ c ∈ L, v.gNumberOfSectorsInBootDisk ≤ dataareaLba c) →
          ∃ e v', saveFound name q v = .error e v' ∧ v'.dirs ≠ v.dirs) := by
  cases hslot : findEmptyDirectoryEntry (v.dirs q.dirAddress) q.dirEntries.toNat with
  | none =>
      simp only [saveFound, get_bind, hslot]
      rfl
  | some slot =>
      refine ⟨fun hdisk => saveFound_run hlisted hmark hlength hdisk hrootdisk hslot,
        fun hbeyond => ?_⟩
      obtain ⟨e, v', hwalk, hdirs⟩ := saveClusters_panics q.fileAddress
        (n := maxFileSizeInSectors + 1)
        (v := v.setDir q.dirAddress (putEntry slot (dirEntry name.bytes q.flag
          (v.fat16ClustersToSave 0) q.sizeInBytes) (v.dirs q.dirAddress)))
        hlisted hmark (by omega) hbeyond
      refine ⟨e, v', ?_, fun hsame => ?_⟩
      · simp only [saveFound, get_bind, hslot, modify_bind]
        exact bind_of_error hwalk
      · have hentry := congrFun (hdirs.symm.trans hsame) q.dirAddress
        simp only [Volume.setDir, Function.update_self] at hentry
        exact newEntry_ne hname (findEmptyDirectoryEntry_eq_some_iff.1 hslot).2.1 hentry

/-- **How a call ends** on a volume with its caches loaded. -/
theorem fsSaveFile_cases (hv : CachesLoaded v) :
    (∃ e, q.check = .error e ∧ fsSaveFile q v = .error e v) ∨
    ((∃ r, q.check = .ok r) ∧ (∀ name slot, ¬SaveReached q v name slot) ∧
      ∃ list, fsSaveFile q v = .ok 1 (v.withList list)) ∨
    ∃ name slot, SaveReached q v name slot ∧
      ((∀ c ∈ q.taken v, dataareaLba c < v.gNumberOfSectorsInBootDisk) →
        ∃ v', fsSaveFile q v = .ok 0 v') ∧
      ((∃ c ∈ q.taken v, v.gNumberOfSectorsInBootDisk ≤ dataareaLba c) →
        ∃ e v', fsSaveFile q v = .error e v' ∧ v'.dirs ≠ v.dirs) := by
  rw [fsSaveFile_eq hv]
  rcases hcheck : q.check with e | _ | name
  · exact .inl ⟨e, rfl, rfl⟩
  · refine .inr (.inl ⟨⟨none, rfl⟩, fun name slot h => ?_, v.fat16ClustersToSave, rfl⟩)
    have hsome := h.check
    rw [hcheck] at hsome
    cases hsome
  obtain ⟨hname, hsize⟩ := SaveArgs.check_some hcheck
  obtain ⟨list, -, hlisted, hscan⟩ := findClusters_eq CLUSTERS_TO_SAVE_MAX 3 0 q.fileSize v
  dsimp only
  by_cases hfree : q.fileSize < (freeList CLUSTERS_TO_SAVE_MAX 3 v.fat).length
  · rw [decide_eq_true hfree] at hscan
    rw [bind_of_ok hscan]
    simp only [if_true]
    have hends := saveFound_cases (q := q) (v := v.withList list) (hlisted hfree)
      SaveArgs.taken_ne_mark ((SaveArgs.taken_length hfree).trans_le hsize) hname hv.rootdirOnDisk
    cases hslot : findEmptyDirectoryEntry (v.dirs q.dirAddress) q.dirEntries.toNat with
    | none =>
        refine .inr (.inl ⟨⟨_, rfl⟩, fun name' slot h => ?_, list, ?_⟩)
        · rw [h.slot] at hslot
          cases hslot
        · simpa only [Volume.withList, hslot] using hends
    | some slot =>
        simp only [Volume.withList, hslot] at hends
        exact .inr (.inr ⟨name, slot, ⟨hcheck, hfree, hslot⟩, hends⟩)
  · rw [decide_eq_false hfree] at hscan
    rw [bind_of_ok hscan]
    exact .inr (.inl ⟨⟨_, rfl⟩, fun name' slot h => hfree h.free, list, rfl⟩)

end Parts

/-! ## The words of the list -/

/-- The words that the scan writes. -/
def findIndices : ℕ → ℕ → ℤ → ℕ → (UInt16 → UInt16) → List ℤ
  | 0, _, _, _, _ => []
  | n + 1, c, j, fileSize, fat =>
      if fat (UInt16.ofNat c) = 0 then
        if fileSize = 0 then [j] else j :: findIndices n (c + 1) (j + 1) (fileSize - 1) fat
      else findIndices n (c + 1) j fileSize fat

/-- The words that the walk looks at, up to its end or the panic on a cluster beyond the disk. -/
def saveIndices (v : Volume) : ℕ → ℤ → List ℤ
  | 0, _ => []
  | n + 1, i =>
      let next := v.fat16ClustersToSave i
      if next = 0xFFF8 then [i, i - 1]
      else i :: (i + 1) ::
        if dataareaLba next < v.gNumberOfSectorsInBootDisk then saveIndices v n (i + 1) else []

/-- The words of `fat16ClustersToSave` that a call uses, on a volume with its caches loaded. -/
def SaveArgs.indices (q : SaveArgs) (v : Volume) : List ℤ :=
  match q.check with
  | .ok (some _) =>
      findIndices CLUSTERS_TO_SAVE_MAX 3 0 q.fileSize v.fat ++
        match findClusters CLUSTERS_TO_SAVE_MAX 3 0 q.fileSize v with
        | .ok true w =>
            0 :: match findEmptyDirectoryEntry (w.dirs q.dirAddress) q.dirEntries.toNat with
              | none => []
              | some _ => saveIndices w (maxFileSizeInSectors + 1) 0
        | _ => []
  | _ => []

section Indices

variable {q : SaveArgs} {v : Volume} {name : CString} {slot : ℕ}

lemma findIndices_bound : ∀ {n c : ℕ} {j : ℤ} {fileSize : ℕ} {fat : UInt16 → UInt16},
    ∀ k ∈ findIndices n c j fileSize fat, j ≤ k ∧ k ≤ j + fileSize
  | 0, _, _, _, _, k, hk => absurd hk List.not_mem_nil
  | n + 1, c, j, fileSize, fat, k, hk => by
      rw [findIndices] at hk
      by_cases hfree : fat (UInt16.ofNat c) = 0
      · rw [if_pos hfree] at hk
        by_cases hzero : fileSize = 0
        · rw [if_pos hzero] at hk
          rw [List.mem_singleton.1 hk]
          omega
        · rw [if_neg hzero] at hk
          rcases List.mem_cons.1 hk with rfl | hk
          · omega
          · have hrest := findIndices_bound k hk
            omega
      · rw [if_neg hfree] at hk
        exact findIndices_bound k hk

/-- The walk over a list that is not empty looks at no word in front of it. -/
lemma saveIndices_bound : ∀ {n : ℕ} {i : ℤ} {L : List UInt16}, Listed v.fat16ClustersToSave i L →
    (∀ c ∈ L, c ≠ 0xFFF8) →
    ∀ k ∈ saveIndices v n i, i - 1 ≤ k ∧ k ≤ i + L.length ∧ (L ≠ [] → i ≤ k)
  | 0, _, _, _, _, k, hk => absurd hk List.not_mem_nil
  | n + 1, i, [], hmark, _, k, hk => by
      rw [saveIndices, if_pos (show v.fat16ClustersToSave i = 0xFFF8 from hmark)] at hk
      rw [List.mem_cons, List.mem_singleton] at hk
      refine ⟨by omega, ?_, fun hne => absurd rfl hne⟩
      simp only [List.length_nil]
      omega
  | n + 1, i, c :: L, ⟨hc, hlisted⟩, hclusters, k, hk => by
      obtain ⟨hmark, hmarks⟩ := List.forall_mem_cons.1 hclusters
      rw [saveIndices, hc, if_neg hmark, List.mem_cons, List.mem_cons] at hk
      simp only [List.length_cons]
      rcases hk with rfl | rfl | hk
      · omega
      · omega
      · by_cases hlt : dataareaLba c < v.gNumberOfSectorsInBootDisk
        · rw [if_pos hlt] at hk
          obtain ⟨hlo, hhi, -⟩ := saveIndices_bound hlisted hmarks k hk
          omega
        · rw [if_neg hlt] at hk
          exact absurd hk List.not_mem_nil

/-- A call that comes to the walk uses the words of its scan, the first word, and those of the walk. -/
lemma SaveReached.indices_eq (h : SaveReached q v name slot) :
    ∃ list, Listed list 0 (q.taken v) ∧
      q.indices v = findIndices CLUSTERS_TO_SAVE_MAX 3 0 q.fileSize v.fat ++
        0 :: saveIndices (v.withList list) (maxFileSizeInSectors + 1) 0 := by
  obtain ⟨list, -, hlisted, hscan⟩ := findClusters_eq CLUSTERS_TO_SAVE_MAX 3 0 q.fileSize v
  rw [decide_eq_true h.free] at hscan
  refine ⟨list, hlisted h.free, ?_⟩
  have hslot : findEmptyDirectoryEntry ((v.withList list).dirs q.dirAddress) q.dirEntries.toNat
      = some slot := h.slot
  rw [SaveArgs.indices, h.check]
  dsimp only
  rw [hscan]
  dsimp only
  rw [hslot]

/-- A call that does not come to the walk uses the words of its scan and the first word. -/
lemma indices_not_reached (hnone : ∀ name slot, ¬SaveReached q v name slot) :
    ∀ k ∈ q.indices v, k = 0 ∨ q.fileSize ≤ maxFileSizeInSectors ∧
      k ∈ findIndices CLUSTERS_TO_SAVE_MAX 3 0 q.fileSize v.fat := by
  intro k hk
  rw [SaveArgs.indices] at hk
  rcases hcheck : q.check with e | _ | name
  · rw [hcheck] at hk
    exact absurd hk List.not_mem_nil
  · rw [hcheck] at hk
    exact absurd hk List.not_mem_nil
  obtain ⟨list, -, -, hscan⟩ := findClusters_eq CLUSTERS_TO_SAVE_MAX 3 0 q.fileSize v
  have hsize := (SaveArgs.check_some hcheck).2
  rw [hcheck] at hk
  dsimp only at hk
  rcases List.mem_append.1 hk with hk | hk
  · exact .inr ⟨hsize, hk⟩
  by_cases hfree : q.fileSize < (freeList CLUSTERS_TO_SAVE_MAX 3 v.fat).length
  · rw [hscan, decide_eq_true hfree] at hk
    dsimp only at hk
    cases hslot : findEmptyDirectoryEntry ((v.withList list).dirs q.dirAddress) q.dirEntries.toNat with
    | none =>
        rw [hslot] at hk
        exact .inl (List.mem_singleton.1 hk)
    | some slot => exact absurd ⟨hcheck, hfree, hslot⟩ (hnone name slot)
  · rw [hscan, decide_eq_false hfree] at hk
    exact absurd hk List.not_mem_nil

/-- **The list is used within its bounds**, unless the call comes to the walk for a file of no sectors:
then it looks at the word in front of the list. -/
lemma indices_within_iff : (∀ k ∈ q.indices v, 0 ≤ k ∧ k < CLUSTERS_TO_SAVE_MAX) ↔
    ((∃ name slot, SaveReached q v name slot) → 0 < q.fileSize) := by
  have hmax : (CLUSTERS_TO_SAVE_MAX : ℤ) = 32768 := rfl
  have hsixteen : maxFileSizeInSectors = 16 := rfl
  by_cases hreached : ∃ name slot, SaveReached q v name slot
  · obtain ⟨name, slot, h⟩ := id hreached
    obtain ⟨list, hlisted, hindices⟩ := h.indices_eq
    have hsize := (SaveArgs.check_some h.check).2
    have hlength := SaveArgs.taken_length (q := q) h.free
    rw [hindices]
    constructor
    · intro hall _
      by_contra hzero
      have hempty : q.taken v = [] := List.length_eq_zero_iff.1 (by omega)
      rw [hempty] at hlisted
      have hbefore : (-1 : ℤ) ∈ saveIndices (v.withList list) (maxFileSizeInSectors + 1) 0 := by
        rw [saveIndices, if_pos (show (v.withList list).fat16ClustersToSave 0 = 0xFFF8 from hlisted)]
        exact List.mem_cons_of_mem _ (List.mem_singleton_self _)
      have hbound := hall (-1) (List.mem_append_right _ (List.mem_cons_of_mem _ hbefore))
      omega
    · intro hpos k hk
      have hsome := hpos hreached
      rcases List.mem_append.1 hk with hk | hk
      · have hbound := findIndices_bound k hk
        omega
      rcases List.mem_cons.1 hk with rfl | hk
      · omega
      · obtain ⟨-, hhi, hlo⟩ := saveIndices_bound (v := v.withList list) hlisted
          SaveArgs.taken_ne_mark k hk
        have hfirst := hlo fun hempty => by
          rw [hempty, List.length_nil] at hlength
          omega
        omega
  · refine iff_of_true (fun k hk => ?_) fun h => absurd h hreached
    have hnone : ∀ name slot, ¬SaveReached q v name slot := fun name slot h => hreached ⟨name, slot, h⟩
    rcases indices_not_reached hnone k hk with rfl | ⟨hsize, hk⟩
    · omega
    · have hbound := findIndices_bound k hk
      omega

end Indices

/-! ## The callers -/

lemma fsFntos_terminated (name : CString) : ∃ n, (fsFntos name).bytes n = 0 := by
  by_cases hname : name.bytes 0 = 0
  · refine ⟨0, ?_⟩
    rw [fsFntos, fntos, if_pos hname]
    exact hname
  · refine ⟨max name.stem 8 + 3, ?_⟩
    rw [fsFntos, (fntos_spec _ hname (by omega : name.stem ≤ name.stem + 3) (.inr (.inl le_rfl))
      le_rfl).2, fntosResult, if_neg (by omega), if_neg (by omega), if_neg (by omega), if_pos rfl]

/-- The name in the caller's buffer, behind `fs_fntos`. -/
def createName (name : CString) : CString where
  bytes := (fsFntos name).bytes
  terminated := fsFntos_terminated name

/-- The call that creates a file, or with the flag `0x10` a directory, of two sectors. -/
def emptyFileArgs (flag : UInt8) (buffer : ℕ) (name : CString) : SaveArgs where
  fatAddress := VOLUME1_FAT_ADDRESS
  dirAddress := VOLUME1_ROOTDIR_ADDRESS
  dirEntries := FAT16_ROOT_ENTRIES
  fileName := some (createName name)
  fileSize := 2
  sizeInBytes := BUFSIZ.toNat
  fileAddress := buffer
  flag := flag

/-- `sys_create_empty_file` and `sys_create_empty_directory`, with the attribute of the new entry. -/
def sysCreateEmpty (flag : UInt8) (buffer : ℕ) (name : Option CString) : VolumeM ℤ :=
  match name with
  | none => return -EINVAL
  | some name =>
      if name.bytes 0 = 0 then return -EINVAL
      else do
        let ret ← fsSaveFile (emptyFileArgs flag buffer name)
        if ret < 0 then return -1 else return ret

/-- `sys_create_empty_file`. -/
def sysCreateEmptyFile : ℕ → Option CString → VolumeM ℤ := sysCreateEmpty 0x20

/-- `sys_create_empty_directory`. -/
def sysCreateEmptyDirectory : ℕ → Option CString → VolumeM ℤ := sysCreateEmpty 0x10

/-! ## Whether a failure is clean -/

/-- The FAT, the directories and the disk are the same. -/
structure SameFiles (v v' : Volume) : Prop where
  fat : v'.fat = v.fat
  dirs : v'.dirs = v.dirs
  disk : v'.disk = v.disk

/-- The call panics in front of the scan, or it comes to the walk: it does not give up. -/
def SaveArgs.GoesThrough (q : SaveArgs) (v : Volume) : Prop :=
  (∃ e, q.check = .error e) ∨ ∃ name slot, SaveReached q v name slot

section Failure

variable {q : SaveArgs} {v : Volume}

/-- A call that does not succeed leaves the volume as it was, unless it comes to the walk with a cluster
beyond the disk. -/
lemma sameFiles_iff (hv : CachesLoaded v) :
    (outcome (fsSaveFile q) v ≠ .ok 0 → SameFiles v (after (fsSaveFile q) v)) ↔
      ((∃ name slot, SaveReached q v name slot) →
        ∀ c ∈ q.taken v, dataareaLba c < v.gNumberOfSectorsInBootDisk) := by
  rcases fsSaveFile_cases (q := q) hv with ⟨e, hcheck, hrun⟩ | ⟨-, hnone, list, hrun⟩ |
    ⟨name, slot, h, hsaved, hbeyond⟩
  · refine iff_of_true (fun _ => ?_) fun ⟨name, slot, h⟩ => ?_
    · rw [after_of_error hrun]
      exact ⟨rfl, rfl, rfl⟩
    · have hsome := h.check
      rw [hcheck] at hsome
      cases hsome
  · refine iff_of_true (fun _ => ?_) fun ⟨name, slot, h⟩ => absurd h (hnone name slot)
    rw [after_of_ok hrun]
    exact ⟨rfl, rfl, rfl⟩
  · refine ⟨fun hsame _ => ?_, fun hdisk hfails => ?_⟩
    · by_contra hall
      have hout : ∃ c ∈ q.taken v, v.gNumberOfSectorsInBootDisk ≤ dataareaLba c := by
        simpa only [not_forall, not_lt, exists_prop] using hall
      obtain ⟨e, v', hrun, hdirs⟩ := hbeyond hout
      refine hdirs ?_
      have hclean := hsame (by rw [outcome_of_error hrun]; exact fun h => by cases h)
      rw [after_of_error hrun] at hclean
      exact hclean.dirs
    · obtain ⟨v', hrun⟩ := hsaved (hdisk ⟨name, slot, h⟩)
      exact absurd (outcome_of_ok hrun) hfails

/-- A call that gives up returns 1. -/
lemma gives_up_iff (hv : CachesLoaded v) : outcome (fsSaveFile q) v = .ok 1 ↔ ¬q.GoesThrough v := by
  rcases fsSaveFile_cases (q := q) hv with ⟨e, hcheck, hrun⟩ | ⟨⟨r, hcheck⟩, hnone, list, hrun⟩ |
    ⟨name, slot, h, hsaved, hbeyond⟩
  · refine iff_of_false (fun hone => ?_) fun hgives => hgives (.inl ⟨e, hcheck⟩)
    rw [outcome_of_error hrun] at hone
    cases hone
  · refine iff_of_true (outcome_of_ok hrun) fun hgoes => ?_
    rcases hgoes with ⟨e, he⟩ | ⟨name, slot, h⟩
    · rw [hcheck] at he
      cases he
    · exact hnone name slot h
  · refine iff_of_false (fun hone => ?_) fun hgives => hgives (.inr ⟨name, slot, h⟩)
    by_cases hdisk : ∀ c ∈ q.taken v, dataareaLba c < v.gNumberOfSectorsInBootDisk
    · obtain ⟨v', hrun⟩ := hsaved hdisk
      rw [outcome_of_ok hrun] at hone
      cases hone
    · obtain ⟨e, v', hrun, -⟩ := hbeyond (by simpa only [not_forall, not_lt, exists_prop] using hdisk)
      rw [outcome_of_error hrun] at hone
      cases hone

/-- A call returns 0 or 1, or does not return. -/
lemma returns_zero_or_one (hv : CachesLoaded v) {r : ℤ} (h : outcome (fsSaveFile q) v = .ok r) :
    r = 0 ∨ r = 1 := by
  rcases fsSaveFile_cases (q := q) hv with ⟨e, -, hrun⟩ | ⟨-, -, list, hrun⟩ |
    ⟨name, slot, -, hsaved, hbeyond⟩
  · rw [outcome_of_error hrun] at h
    cases h
  · rw [outcome_of_ok hrun] at h
    cases h
    exact .inr rfl
  · by_cases hdisk : ∀ c ∈ q.taken v, dataareaLba c < v.gNumberOfSectorsInBootDisk
    · obtain ⟨v', hrun⟩ := hsaved hdisk
      rw [outcome_of_ok hrun] at h
      cases h
      exact .inl rfl
    · obtain ⟨e, v', hrun, -⟩ := hbeyond (by simpa only [not_forall, not_lt, exists_prop] using hdisk)
      rw [outcome_of_error hrun] at h
      cases h

/-- The return value tells a failure, unless the call gives up. -/
lemma tells_iff (hv : CachesLoaded v) :
    (∀ r, outcome (fsSaveFile q) v = .ok r → r = 0 ∨ r < 0) ↔ q.GoesThrough v := by
  refine ⟨fun htells => ?_, fun hgoes r hr => ?_⟩
  · by_contra hgives
    exact absurd (htells 1 ((gives_up_iff hv).2 hgives)) (by decide)
  · rcases returns_zero_or_one hv hr with rfl | rfl
    · exact .inl rfl
    · exact absurd hgoes ((gives_up_iff hv).1 hr)

/-- What the callers return. -/
lemma sysCreateEmpty_outcome (hv : CachesLoaded v) {flag : UInt8} {buffer : ℕ} {name : CString}
    (hname : name.bytes 0 ≠ 0) : outcome (sysCreateEmpty flag buffer (some name)) v
      = outcome (fsSaveFile (emptyFileArgs flag buffer name)) v := by
  have hrun : sysCreateEmpty flag buffer (some name) v
      = (do
          let ret ← fsSaveFile (emptyFileArgs flag buffer name)
          if ret < 0 then return -1 else return ret : VolumeM ℤ) v := by
    simp only [sysCreateEmpty, if_neg hname]
  simp only [outcome, hrun]
  cases hsave : fsSaveFile (emptyFileArgs flag buffer name) v with
  | error e w => rw [bind_of_error hsave]
  | ok r w =>
      rw [bind_of_ok hsave]
      have hpos : ¬r < 0 := by
        rcases returns_zero_or_one hv (outcome_of_ok hsave) with rfl | rfl <;> decide
      rw [if_neg hpos]
      rfl

/-- **When a call of `fsSaveFile` fails cleanly**: it uses the list within its bounds unless it comes to
the walk for a file of no sectors; without success it leaves the FAT, the directories and the disk alone
unless it comes to the walk with a cluster beyond the disk; and the test for a negative value tells the
failure, to its caller and to the caller of the two system calls, unless it gives up. -/
theorem save_failure (q : SaveArgs) (v : Volume) (hv : CachesLoaded v) :
    ((∀ k ∈ q.indices v, 0 ≤ k ∧ k < CLUSTERS_TO_SAVE_MAX) ↔
      ((∃ name slot, SaveReached q v name slot) → 0 < q.fileSize)) ∧
    ((outcome (fsSaveFile q) v ≠ .ok 0 → SameFiles v (after (fsSaveFile q) v)) ↔
      ((∃ name slot, SaveReached q v name slot) →
        ∀ c ∈ q.taken v, dataareaLba c < v.gNumberOfSectorsInBootDisk)) ∧
    ((∀ r, outcome (fsSaveFile q) v = .ok r → r = 0 ∨ r < 0) ↔ q.GoesThrough v) ∧
    ∀ (flag : UInt8) (buffer : ℕ) (name : CString), name.bytes 0 ≠ 0 →
      ((∀ r, outcome (sysCreateEmpty flag buffer (some name)) v = .ok r → r = 0 ∨ r < 0) ↔
        (emptyFileArgs flag buffer name).GoesThrough v) := by
  refine ⟨indices_within_iff, sameFiles_iff hv, tells_iff hv, fun flag buffer name hname => ?_⟩
  rw [sysCreateEmpty_outcome hv hname]
  exact tells_iff hv

end Failure

/-! ## Calls that fail -/

/-- An empty volume on a disk that ends where the data area begins. -/
def shortVolume : Volume := { emptyVolume with gNumberOfSectorsInBootDisk := VOLUME1_DATAAREA_LBA }

lemma shortVolume_cachesLoaded : CachesLoaded shortVolume where
  fatbits := rfl
  fatLoaded := rfl
  rootdir _ _ := rfl
  rootdirOnDisk := le_rfl

lemma freeList_of_free {fat : UInt16 → UInt16} (hfat : ∀ c, fat c = 0) : ∀ n c : ℕ,
    (freeList n c fat).length = n
  | 0, _ => rfl
  | n + 1, c => by rw [freeList, if_pos (hfat _), List.length_cons, freeList_of_free hfat n (c + 1)]

/-- Saving `n` sectors comes to the walk on both volumes. -/
lemma saveFileTxt_reached {n : ℕ} (hn : n ≤ maxFileSizeInSectors) {v : Volume}
    (hfat : ∀ c, v.fat c = 0) (hdirs : ∀ d o, v.dirs d o = 0) :
    SaveReached (saveFileTxt n) v fileTxt 0 where
  check := by
    have hsize : ¬(saveFileTxt n).fileSize > maxFileSizeInSectors := not_lt.2 hn
    have hfatAddress : ¬(saveFileTxt n).fatAddress = 0 := (by decide : ¬VOLUME1_FAT_ADDRESS = 0)
    have hdirAddress : ¬(saveFileTxt n).dirAddress = 0 := (by decide : ¬VOLUME1_ROOTDIR_ADDRESS = 0)
    have hentries :
        ¬((saveFileTxt n).dirEntries = 0 ∨ (saveFileTxt n).dirEntries > FAT16_ROOT_ENTRIES) :=
      (by decide : ¬((FAT16_ROOT_ENTRIES : ℤ) = 0 ∨ (FAT16_ROOT_ENTRIES : ℤ) > FAT16_ROOT_ENTRIES))
    have hfat : ¬(saveFileTxt n).fatAddress ≠ VOLUME1_FAT_ADDRESS := not_not.2 rfl
    rw [SaveArgs.check, if_neg hfatAddress, if_neg hdirAddress, if_neg hfat]
    show (if fileTxt.bytes 0 = 0 then _ else _) = _
    rw [if_neg (by decide), if_neg hentries, if_neg hsize]
    rfl
  free := by
    rw [freeList_of_free hfat]
    exact lt_of_le_of_lt hn (by decide)
  slot := findEmptyDirectoryEntry_eq_some_iff.2
    ⟨(by decide : 0 < (FAT16_ROOT_ENTRIES : ℤ).toNat), hdirs _ _, fun j hj => absurd hj (by omega)⟩

/-- At a save of two sectors. -/
theorem save_failure_twoSectors : CachesLoaded emptyVolume ∧
    (∀ k ∈ (saveFileTxt 2).indices emptyVolume, 0 ≤ k ∧ k < CLUSTERS_TO_SAVE_MAX) ∧
    ∀ r, outcome (fsSaveFile (saveFileTxt 2)) emptyVolume = .ok r → r = 0 ∨ r < 0 := by
  have hv : CachesLoaded emptyVolume := (emptyVolume_ok ∅).cachesLoaded
  obtain ⟨hindices, -, htells, -⟩ := save_failure (saveFileTxt 2) emptyVolume hv
  exact ⟨hv, hindices.2 fun _ => by decide, htells.2 (.inr ⟨fileTxt, 0,
    saveFileTxt_reached (by decide) (fun _ => rfl) fun _ _ => rfl⟩)⟩

/-- **A save that fails is not clean**: for no sector the word in front of the list is read; on a disk
without a data area the entry stays in the directory; and a file of 17 sectors is refused with 1. -/
theorem save_failure_fails :
    (¬∀ (q : SaveArgs) (v : Volume), CachesLoaded v →
      ∀ k ∈ q.indices v, 0 ≤ k ∧ k < CLUSTERS_TO_SAVE_MAX) ∧
    (¬∀ (q : SaveArgs) (v : Volume), CachesLoaded v → outcome (fsSaveFile q) v ≠ .ok 0 →
      SameFiles v (after (fsSaveFile q) v)) ∧
    ¬∀ (q : SaveArgs) (v : Volume), CachesLoaded v →
      ∀ r, outcome (fsSaveFile q) v = .ok r → r = 0 ∨ r < 0 := by
  have hempty : CachesLoaded emptyVolume := (emptyVolume_ok ∅).cachesLoaded
  refine ⟨fun hall => ?_, fun hall => ?_, fun hall => ?_⟩
  · have hpos := indices_within_iff.1 (hall (saveFileTxt 0) emptyVolume hempty) ⟨fileTxt, 0,
      saveFileTxt_reached (by decide) (fun _ => rfl) fun _ _ => rfl⟩
    exact absurd hpos (by decide)
  · have hdisk := (sameFiles_iff shortVolume_cachesLoaded).1
      (hall (saveFileTxt 1) shortVolume shortVolume_cachesLoaded) ⟨fileTxt, 0,
        saveFileTxt_reached (by decide) (fun _ => rfl) fun _ _ => rfl⟩
    have htaken : (3 : UInt16) ∈ (saveFileTxt 1).taken shortVolume := List.mem_cons_self ..
    exact absurd (hdisk 3 htaken) (by decide)
  · rcases (tells_iff hempty).1 (hall (saveFileTxt 17) emptyVolume hempty) with ⟨e, he⟩ |
      ⟨name, slot, h⟩
    · cases he
    · have hsome := h.check
      cases hsome

end Gramado
