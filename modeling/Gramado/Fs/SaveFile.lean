import Gramado.Fs.Volume

/-!
# Saving a file

`fsSaveFile` of `kres/fs/fslib.c`: it collects free clusters in `fat16ClustersToSave`, closes the
list with `0xFFF8`, enters the file in the first empty entry of the directory, and then walks over
the list, linking the FAT and writing one sector for each cluster.

* `findClusters`, `findClusters_ok_inv` — the scan of the FAT.
* `saveClusters`, `saveClusters_ok_inv` — the walk over the list: `saveFat` is what it does to the
  FAT, `saveDisk` what it does to the disk.
* `fsSaveFile_ok_inv` — everything a call that reports success has done: `Saved`.
-/

namespace Gramado

open StateFault

/-- `CLUSTERS_TO_SAVE_MAX`. -/
def CLUSTERS_TO_SAVE_MAX : ℕ := 32 * 1024

/-- `MaxFileSizeInSectors` of `fsSaveFile`. -/
def maxFileSizeInSectors : ℕ := 16

/-- The LBA of a cluster: `VOLUME1_DATAAREA_LBA + cluster - 2`. -/
def dataareaLba (cluster : UInt16) : ℕ := VOLUME1_DATAAREA_LBA + cluster.toNat - 2

/-- The bytes of the client's memory from an address on. -/
def Volume.bytesAt (v : Volume) (address : ℕ) : ℕ → UInt8 := fun o => v.mem.cell (address + o)

/-- `fat16ClustersToSave[j] = w`. -/
def Volume.setClusterToSave (j : ℤ) (w : UInt16) (v : Volume) : Volume :=
  { v with fat16ClustersToSave := Function.update v.fat16ClustersToSave j w }

/-- `fat[c] = w`. -/
def Volume.setFat (c w : UInt16) (v : Volume) : Volume :=
  { v with fat := Function.update v.fat c w }

/-- The bytes become entry `i` of a directory. -/
def putEntry (i : ℕ) (bytes : List UInt8) (dir : ℕ → UInt8) (o : ℕ) : UInt8 :=
  if FAT16_ENTRY_SIZE * i ≤ o ∧ o < FAT16_ENTRY_SIZE * i + FAT16_ENTRY_SIZE then
    bytes.getD (o - FAT16_ENTRY_SIZE * i) 0
  else dir o

/-! ## The function -/

/-- The scan for free clusters: `n` words of the FAT from `c` on are left to be looked at, `fileSize`
clusters are still missing, the next one becomes word `j` of the list. -/
def findClusters : ℕ → ℕ → ℤ → ℕ → VolumeM Bool
  | 0, _, _, _ => return false
  | n + 1, c, j, fileSize => do
      let v ← get
      if v.fat (UInt16.ofNat c) = 0 then
        -- the mark goes into the list only when one more free cluster is met
        if fileSize = 0 then
          modify (Volume.setClusterToSave j 0xFFF8)
          return true
        else
          modify (Volume.setClusterToSave j (UInt16.ofNat c))
          findClusters n (c + 1) (j + 1) (fileSize - 1)
      else findClusters n (c + 1) j fileSize

/-- `DirEntry`: the 32 bytes of the new entry. -/
def dirEntry (name : ℕ → UInt8) (flag : UInt8) (firstCluster : UInt16) (sizeInBytes : ℕ) :
    List UInt8 :=
  let ext (k : ℕ) : UInt8 := if flag = 0x10 then 0x20 else name k
  let size (n : ℕ) : UInt8 := if flag = 0x10 then 0 else UInt8.ofNat n
  [name 0, name 1, name 2, name 3, name 4, name 5, name 6, name 7, ext 8, ext 9, ext 10,
    flag, 0, 0x97, 0xD3, 0xBA, 0xE2, 0x58, 0xE2, 0x58, 0, 0, 0xD3, 0xBA, 0xE2, 0x58,
    UInt8.ofNat firstCluster.toNat, UInt8.ofNat (firstCluster.toNat / 256),
    size sizeInBytes, size (sizeInBytes / 256), size (sizeInBytes / 256 / 256),
    size (sizeInBytes / 256 / 256 / 256)]

/-- The walk over the list from word `i` on, when `i + n` is one more than the last word that may
be looked at: `true` when it meets the mark. -/
def saveClusters : ℕ → ℤ → ℕ → VolumeM Bool
  | 0, _, _ => return false
  | n + 1, i, address => do
      let v ← get
      let next := v.fat16ClustersToSave i
      if next = 0xFFF8 then
        modify (Volume.setFat (v.fat16ClustersToSave (i - 1)) 0xFFF8)
        return true
      else
        modify (Volume.setFat next (v.fat16ClustersToSave (i + 1)))
        ataWriteSector (v.bytesAt address) (dataareaLba next)
        saveClusters n (i + 1) (ulongAdd address SECTOR_SIZE)

/-- The arguments of `fsSaveFile`. -/
structure SaveArgs where
  fatAddress : ℕ
  dirAddress : ℕ
  dirEntries : ℤ
  fileName : Option CString
  /-- In sectors. -/
  fileSize : ℕ
  sizeInBytes : ℕ
  fileAddress : ℕ
  flag : UInt8

/-- `fsSaveFile` from `save_file` on. -/
def saveFound (name : CString) (q : SaveArgs) : VolumeM ℤ := do
  let v ← get
  let entry := dirEntry name.bytes q.flag (v.fat16ClustersToSave 0) q.sizeInBytes
  match findEmptyDirectoryEntry (v.dirs q.dirAddress) q.dirEntries.toNat with
  | none => return 1
  | some i =>
      modify (Volume.setDir q.dirAddress (putEntry i entry (v.dirs q.dirAddress)))
      if ← saveClusters (maxFileSizeInSectors + 1) 0 q.fileAddress then
        fsSaveRootdir
        modify fun v => { v with gFatCacheSaved := FAT_CACHE_NOT_SAVED }
        return 0
      else return 1

/-- `fsSaveFile`: 0 when the file is saved. -/
def fsSaveFile (q : SaveArgs) : VolumeM ℤ := do
  if q.fatAddress = 0 then throw (.panic "fsSaveFile: fat_address\n")
  else if q.dirAddress = 0 then throw (.panic "fsSaveFile: dir_address\n")
  else if q.fatAddress ≠ VOLUME1_FAT_ADDRESS then throw (.panic "fsSaveFile: fat_address\n")
  else
    match q.fileName with
    | none => return 1
    | some name =>
        if name.bytes 0 = 0 then return 1
        else if q.dirEntries = 0 ∨ q.dirEntries > FAT16_ROOT_ENTRIES then
          throw (.panic "fsSaveFile: [FAIL] max dir entries")
        else if q.fileSize > maxFileSizeInSectors then return 1
        else
          fsLoadRootdir
          fsLoadFat
          if ← findClusters CLUSTERS_TO_SAVE_MAX 3 0 q.fileSize then saveFound name q
          else return 1

/-! ## The new entry -/

lemma putEntry_same {i k : ℕ} {bytes : List UInt8} {dir : ℕ → UInt8} (hk : k < 32) :
    entryByte (putEntry i bytes dir) i k = bytes.getD k 0 := by
  simp only [entryByte, putEntry]
  rw [if_pos (by simp only [FAT16_ENTRY_SIZE]; omega), Nat.add_sub_cancel_left]

lemma putEntry_of_ne {i j k : ℕ} {bytes : List UInt8} {dir : ℕ → UInt8} (hne : j ≠ i)
    (hk : k < 32) : entryByte (putEntry i bytes dir) j k = entryByte dir j k := by
  simp only [entryByte, putEntry]
  rw [if_neg (by simp only [FAT16_ENTRY_SIZE]; omega)]

section NewEntry

variable {i : ℕ} {name : ℕ → UInt8} {flag : UInt8} {first : UInt16} {size : ℕ} {dir : ℕ → UInt8}

/-- The name of the new entry, unless it is a directory's. -/
lemma dirEntry_name (hflag : flag ≠ 0x10) {k : ℕ} (hk : k < 11) :
    entryByte (putEntry i (dirEntry name flag first size) dir) i k = name k := by
  rw [putEntry_same (by omega)]
  simp only [dirEntry, if_neg hflag]
  interval_cases k <;> rfl

@[simp] lemma dirEntry_head :
    entryByte (putEntry i (dirEntry name flag first size) dir) i 0 = name 0 := by
  rw [putEntry_same (by omega)]
  rfl

@[simp] lemma dirEntry_flag :
    entryFlag (putEntry i (dirEntry name flag first size) dir) i = flag := by
  rw [entryFlag, putEntry_same (by omega)]
  rfl

@[simp] lemma dirEntry_cluster :
    entryCluster (putEntry i (dirEntry name flag first size) dir) i = first := by
  rw [entryCluster, putEntry_same (by omega), putEntry_same (by omega)]
  exact le16_bytes first

lemma dirEntry_fileSize :
    entryFileSize (putEntry i (dirEntry name flag first size) dir) i
      = if flag = 0x10 then 0 else size % 2 ^ 32 := by
  rw [entryFileSize, putEntry_same (by omega), putEntry_same (by omega), putEntry_same (by omega),
    putEntry_same (by omega)]
  simp only [dirEntry]
  split_ifs with hflag
  · rfl
  · exact le32_bytes size

end NewEntry

/-! ## The scan -/

/-- From word `j` on, the list holds the clusters and then the mark. -/
def Listed (list : ℤ → UInt16) : ℤ → List UInt16 → Prop
  | j, [] => list j = 0xFFF8
  | j, c :: L => list j = c ∧ Listed list (j + 1) L

/-- The word where a list of clusters begins. -/
lemma Listed.head {list : ℤ → UInt16} {j : ℤ} {L : List UInt16} (h : Listed list j L) :
    list j = L.headD 0xFFF8 := by
  cases L with
  | nil => exact h
  | cons c L => exact h.1

/-- **What the scan finds**: as many different free clusters as it was asked for, listed with the
mark behind them. -/
lemma findClusters_ok_inv : ∀ {n c : ℕ} {j : ℤ} {fileSize : ℕ} {v v' : Volume},
    c + n ≤ 2 ^ 16 → findClusters n c j fileSize v = .ok true v' →
    ∃ L list, L.length = fileSize ∧ L.Nodup ∧
      (∀ x ∈ L, c ≤ x.toNat ∧ x.toNat < c + n ∧ v.fat x = 0) ∧
      Listed list j L ∧ (∀ k < j, list k = v.fat16ClustersToSave k) ∧
      v' = { v with fat16ClustersToSave := list }
  | 0, _, _, _, _, _, _, h => by simp [findClusters] at h
  | n + 1, c, j, fileSize, v, v', hrange, h => by
      have hc : (UInt16.ofNat c).toNat = c :=
        UInt16.toNat_ofNat_of_lt' (by simp only [UInt16.size]; omega)
      simp only [findClusters, get_bind] at h
      split_ifs at h with hfree hdone
      · -- the mark
        simp only [modify_bind, pure_run, EStateM.Result.ok.injEq, true_and] at h
        subst hdone
        refine ⟨[], _, rfl, List.nodup_nil, fun x hx => absurd hx (List.not_mem_nil), ?_, ?_,
          h.symm⟩
        · exact Function.update_self ..
        · intro k hk
          exact Function.update_of_ne hk.ne ..
      · -- one more cluster; those found later lie behind it
        rw [modify_bind] at h
        obtain ⟨L, list, hlength, hnodup, hfound, hlisted, hbefore, rfl⟩ :=
          findClusters_ok_inv (by omega) h
        refine ⟨UInt16.ofNat c :: L, list, by simp only [List.length_cons]; omega, ?_, ?_,
          ⟨?_, hlisted⟩, ?_, rfl⟩
        · refine List.nodup_cons.2 ⟨fun hmem => ?_, hnodup⟩
          have hlater := (hfound _ hmem).1
          omega
        · intro x hx
          rcases List.mem_cons.1 hx with rfl | hx
          · exact ⟨hc.ge, by omega, hfree⟩
          · obtain ⟨hlo, hhi, hzero⟩ := hfound x hx
            exact ⟨by omega, by omega, hzero⟩
        · rw [hbefore j (by omega)]
          exact Function.update_self ..
        · intro k hk
          rw [hbefore k (by omega)]
          exact Function.update_of_ne hk.ne ..
      · obtain ⟨L, list, hlength, hnodup, hfound, hlisted, hbefore, rfl⟩ :=
          findClusters_ok_inv (by omega) h
        refine ⟨L, list, hlength, hnodup, fun x hx => ?_, hlisted, hbefore, rfl⟩
        obtain ⟨hlo, hhi, hzero⟩ := hfound x hx
        exact ⟨by omega, by omega, hzero⟩

/-! ## The walk -/

/-- What the walk over a list does to the volume, `prev` being the word in front of it. -/
def linkClusters : List UInt16 → UInt16 → ℕ → Volume → Volume
  | [], prev, _, v => v.setFat prev 0xFFF8
  | c :: L, _, address, v =>
      linkClusters L c (ulongAdd address SECTOR_SIZE)
        ((v.setFat c (L.headD 0xFFF8)).setSector (dataareaLba c) (v.bytesAt address))

/-- **What the walk does**: it links the clusters of the list and writes a sector for each. -/
lemma saveClusters_ok_inv : ∀ {n : ℕ} {i : ℤ} {address : ℕ} {L : List UInt16} {v v' : Volume},
    Listed v.fat16ClustersToSave i L → (∀ c ∈ L, c ≠ 0xFFF8) →
    saveClusters n i address v = .ok true v' →
    (∀ c ∈ L, dataareaLba c < v.gNumberOfSectorsInBootDisk) ∧
      v' = linkClusters L (v.fat16ClustersToSave (i - 1)) address v
  | 0, _, _, _, _, _, _, _, h => by simp [saveClusters] at h
  | n + 1, i, address, [], v, v', hlisted, _, h => by
      have hmark : v.fat16ClustersToSave i = 0xFFF8 := hlisted
      simp only [saveClusters, get_bind, if_pos hmark, modify_bind, pure_run,
        EStateM.Result.ok.injEq, true_and] at h
      exact ⟨fun c hc => absurd hc (List.not_mem_nil), h.symm⟩
  | n + 1, i, address, c :: L, v, v', ⟨hc, hlisted⟩, hclusters, h => by
      have hmark : c ≠ 0xFFF8 := hclusters c (List.mem_cons_self ..)
      simp only [saveClusters, get_bind, hc, if_neg hmark, modify_bind, hlisted.head] at h
      obtain ⟨_, w, hwrite, hrest⟩ := bind_ok_inv h
      obtain ⟨hlt, hw⟩ := ataWriteSector_ok_inv hwrite
      have hsame : w.fat16ClustersToSave = v.fat16ClustersToSave := by rw [hw]; rfl
      have hsectors : w.gNumberOfSectorsInBootDisk = v.gNumberOfSectorsInBootDisk := by rw [hw]; rfl
      have hprev : w.fat16ClustersToSave (i + 1 - 1) = c := by
        rw [hsame, add_sub_cancel_right, hc]
      obtain ⟨hlts, hv'⟩ := saveClusters_ok_inv (hsame ▸ hlisted)
        (fun x hx => hclusters x (List.mem_cons_of_mem _ hx)) hrest
      rw [hsectors] at hlts
      refine ⟨List.forall_mem_cons.2 ⟨hlt, hlts⟩, ?_⟩
      rw [hv', hprev, hw, linkClusters]

/-- The FAT after the walk over a list. -/
def saveFat : List UInt16 → UInt16 → (UInt16 → UInt16) → UInt16 → UInt16
  | [], prev, fat => Function.update fat prev 0xFFF8
  | c :: L, _, fat => saveFat L c (Function.update fat c (L.headD 0xFFF8))

/-- The disk after the walk over a list that starts writing at `address`. -/
def saveDisk (mem : Memory UInt8) : List UInt16 → ℕ → (ℕ → ℕ → UInt8) → ℕ → ℕ → UInt8
  | [], _, disk => disk
  | c :: L, address, disk =>
      saveDisk mem L (ulongAdd address SECTOR_SIZE)
        (Function.update disk (dataareaLba c) fun o => mem.cell (address + o))

/-- The walk only changes the FAT and the disk. -/
lemma linkClusters_eq : ∀ (L : List UInt16) (prev : UInt16) (address : ℕ) (v : Volume),
    linkClusters L prev address v
      = { v with fat := saveFat L prev v.fat, disk := saveDisk v.mem L address v.disk }
  | [], _, _, _ => rfl
  | c :: L, _, address, v => by
      rw [linkClusters, linkClusters_eq]
      rfl

/-! ## The whole call -/

/-- **What a call of `fsSaveFile` that reports success has done**, when the caches are loaded:
`clusters` are the clusters it took, `slot` is the entry. -/
structure Saved (q : SaveArgs) (v v' : Volume) (name : CString) (clusters : List UInt16)
    (slot : ℕ) : Prop where
  fatAddress : q.fatAddress = VOLUME1_FAT_ADDRESS
  dirAddress : q.dirAddress ≠ 0
  fileName : q.fileName = some name
  name_ne : name.bytes 0 ≠ 0
  fileSize_le : q.fileSize ≤ maxFileSizeInSectors
  length : clusters.length = q.fileSize
  nodup : clusters.Nodup
  range : ∀ c ∈ clusters, 3 ≤ c.toNat ∧ c.toNat < 3 + CLUSTERS_TO_SAVE_MAX
  free : ∀ c ∈ clusters, v.fat c = 0
  onDisk : ∀ c ∈ clusters, dataareaLba c < v.gNumberOfSectorsInBootDisk
  slot_lt : slot < FAT16_ROOT_ENTRIES
  slot_empty : entryByte (v.dirs q.dirAddress) slot 0 = 0
  slot_first : ∀ j < slot, entryByte (v.dirs q.dirAddress) j 0 ≠ 0
  fat : v'.fat = saveFat clusters (v.fat16ClustersToSave (-1)) v.fat
  dirs : v'.dirs = Function.update v.dirs q.dirAddress
    (putEntry slot (dirEntry name.bytes q.flag (clusters.headD 0xFFF8) q.sizeInBytes)
      (v.dirs q.dirAddress))
  rootdir : RootdirCached rootdirSize v'
  dataarea : ∀ lba, VOLUME1_DATAAREA_LBA ≤ lba →
    v'.disk lba = saveDisk v.mem clusters q.fileAddress v.disk lba
  rootdirOnDisk : VOLUME1_ROOTDIR_LBA + rootdirSize ≤ v.gNumberOfSectorsInBootDisk
  frame : v' = { v with
    disk := v'.disk
    fat := v'.fat
    dirs := v'.dirs
    fat16ClustersToSave := v'.fat16ClustersToSave
    gFatCacheSaved := FAT_CACHE_NOT_SAVED }

/-- No cluster that the scan finds is the mark. -/
lemma ne_mark {c : UInt16} (h : c.toNat < 3 + CLUSTERS_TO_SAVE_MAX) : c ≠ 0xFFF8 := by
  rintro rfl
  exact absurd h (by decide)

/-- **What the rest of the call does** when the scan has succeeded. -/
lemma saveFound_ok_inv {q : SaveArgs} {v v' : Volume} {name : CString} {L : List UInt16}
    (hlisted : Listed v.fat16ClustersToSave 0 L) (hmark : ∀ c ∈ L, c ≠ 0xFFF8)
    (h : saveFound name q v = .ok 0 v') :
    ∃ slot, findEmptyDirectoryEntry (v.dirs q.dirAddress) q.dirEntries.toNat = some slot ∧
      (∀ c ∈ L, dataareaLba c < v.gNumberOfSectorsInBootDisk) ∧
      RootdirCached rootdirSize v' ∧
      (∀ lba, VOLUME1_DATAAREA_LBA ≤ lba →
        v'.disk lba = saveDisk v.mem L q.fileAddress v.disk lba) ∧
      v' = { v with
        disk := v'.disk
        fat := saveFat L (v.fat16ClustersToSave (-1)) v.fat
        dirs := Function.update v.dirs q.dirAddress
          (putEntry slot (dirEntry name.bytes q.flag (L.headD 0xFFF8) q.sizeInBytes)
            (v.dirs q.dirAddress))
        gFatCacheSaved := FAT_CACHE_NOT_SAVED } := by
  simp only [saveFound, get_bind] at h
  cases hslot : findEmptyDirectoryEntry (v.dirs q.dirAddress) q.dirEntries.toNat with
  | none => simp [hslot] at h
  | some slot =>
      simp only [hslot, modify_bind, hlisted.head] at h
      obtain ⟨stored, w, hwalk, h⟩ := bind_ok_inv h
      cases stored with
      | false => simp at h
      | true =>
          obtain ⟨hdisk, hw⟩ := saveClusters_ok_inv (L := L) (by exact hlisted) hmark hwalk
          rw [linkClusters_eq] at hw
          simp only [if_true] at h
          obtain ⟨_, u, hsave, h⟩ := bind_ok_inv h
          obtain ⟨hcached, hothers, hframe, -⟩ := fsSaveRootdir_ok_inv hsave
          simp only [modify_bind, pure_run, EStateM.Result.ok.injEq, true_and] at h
          subst h
          refine ⟨slot, rfl, hdisk, hcached, fun lba hlba => ?_, ?_⟩
          · rw [hothers lba (Or.inr hlba), hw]
            rfl
          · rw [hframe, hw]
            rfl

/-- **The one way to success.** -/
theorem fsSaveFile_ok_inv {q : SaveArgs} {v v' : Volume}
    (hloaded : v.gFatCacheLoaded = FAT_CACHE_LOADED) (hrootdir : RootdirCached rootdirSize v)
    (h : fsSaveFile q v = .ok 0 v') : ∃ name clusters slot, Saved q v v' name clusters slot := by
  unfold fsSaveFile at h
  obtain ⟨-, h⟩ := check_ok_inv h
  obtain ⟨hdir, h⟩ := check_ok_inv h
  obtain ⟨hfat, h⟩ := check_ok_inv h
  cases hname : q.fileName with
  | none => simp [hname] at h
  | some name =>
      simp only [hname] at h
      obtain ⟨hempty, h⟩ := test_ok_inv (by decide) h
      obtain ⟨hentries, h⟩ := check_ok_inv h
      obtain ⟨hsize, h⟩ := test_ok_inv (by decide) h
      obtain ⟨_, w, hroot, h⟩ := bind_ok_inv h
      obtain ⟨hw, hrootdisk⟩ := fsLoadRootdir_ok_inv hrootdir hroot
      rw [hw, bind_of_ok (fsLoadFat_of_loaded hloaded)] at h
      obtain ⟨found, w', hscan, h⟩ := bind_ok_inv h
      cases found with
      | false => simp at h
      | true =>
          obtain ⟨L, list, hlength, hnodup, hfound, hlisted, hbefore, hscanned⟩ :=
            findClusters_ok_inv (by decide) hscan
          rw [hscanned] at h
          obtain ⟨slot, hslot, hdisk, hcached, hdata, hframe⟩ := saveFound_ok_inv hlisted
            (fun c hc => ne_mark (hfound c hc).2.1) h
          obtain ⟨hlt, hslotempty, hslotfirst⟩ := findEmptyDirectoryEntry_eq_some_iff.1 hslot
          have hbound : q.dirEntries ≤ FAT16_ROOT_ENTRIES := by omega
          have hprev : list (-1) = v.fat16ClustersToSave (-1) := hbefore (-1) (by decide)
          refine ⟨name, L, slot, ?_⟩
          exact {
            fatAddress := not_not.1 hfat
            dirAddress := hdir
            fileName := hname
            name_ne := hempty
            fileSize_le := not_lt.1 hsize
            length := hlength
            nodup := hnodup
            range := fun c hc => ⟨(hfound c hc).1, (hfound c hc).2.1⟩
            free := fun c hc => (hfound c hc).2.2
            onDisk := hdisk
            slot_lt := by omega
            slot_empty := hslotempty
            slot_first := hslotfirst
            fat := by rw [hframe, ← hprev]
            dirs := by rw [hframe]
            rootdir := hcached
            dataarea := hdata
            rootdirOnDisk := hrootdisk
            frame := by rw [hframe] }

/-! ## When a call succeeds -/

/-- The free clusters among the `n` from `c` on. -/
def freeClusters (n c : ℕ) (fat : UInt16 → UInt16) : ℕ :=
  (List.range n).countP fun k => fat (UInt16.ofNat (c + k)) = 0

lemma freeClusters_succ (n c : ℕ) (fat : UInt16 → UInt16) :
    freeClusters (n + 1) c fat
      = freeClusters n (c + 1) fat + if fat (UInt16.ofNat c) = 0 then 1 else 0 := by
  have hshift : (fun k => decide (fat (UInt16.ofNat (c + k)) = 0)) ∘ Nat.succ
      = fun k => decide (fat (UInt16.ofNat (c + 1 + k)) = 0) := by
    funext k
    rw [Function.comp_apply, Nat.succ_add_eq_add_succ]
  rw [freeClusters, List.range_succ_eq_map, List.countP_cons, List.countP_map, hshift,
    freeClusters]
  simp only [Nat.add_zero, decide_eq_true_eq]

/-- The scan succeeds when there is one free cluster more than it was asked for. -/
lemma findClusters_run : ∀ {n c : ℕ} {j : ℤ} {fileSize : ℕ} {v : Volume},
    fileSize < freeClusters n c v.fat → ∃ v', findClusters n c j fileSize v = .ok true v'
  | 0, _, _, _, _, h => absurd h (by simp [freeClusters])
  | n + 1, c, j, fileSize, v, h => by
      rw [freeClusters_succ] at h
      simp only [findClusters, get_bind]
      split_ifs at h ⊢ with hfree hdone
      · exact ⟨_, rfl⟩
      · rw [modify_bind]
        exact findClusters_run (v := v.setClusterToSave j (UInt16.ofNat c)) (by
          simp only [Volume.setClusterToSave]
          omega)
      · exact findClusters_run (by omega)

/-- The walk reaches the mark when the list is short enough and its clusters are on the disk. -/
lemma saveClusters_run : ∀ {n : ℕ} {i : ℤ} (address : ℕ) {L : List UInt16} {v : Volume},
    Listed v.fat16ClustersToSave i L → (∀ c ∈ L, c ≠ 0xFFF8) → L.length < n →
    (∀ c ∈ L, dataareaLba c < v.gNumberOfSectorsInBootDisk) →
    saveClusters n i address v
      = .ok true (linkClusters L (v.fat16ClustersToSave (i - 1)) address v)
  | 0, _, _, _, _, _, _, hlength, _ => absurd hlength (Nat.not_lt_zero _)
  | n + 1, i, address, [], v, hlisted, _, _, _ => by
      have hmark : v.fat16ClustersToSave i = 0xFFF8 := hlisted
      simp only [saveClusters, get_bind, if_pos hmark, modify_bind, pure_run, linkClusters]
  | n + 1, i, address, c :: L, v, ⟨hc, hlisted⟩, hclusters, hlength, hdisk => by
      obtain ⟨hmark, hmarks⟩ := List.forall_mem_cons.1 hclusters
      obtain ⟨hlt, hlts⟩ := List.forall_mem_cons.1 hdisk
      have hprev : v.fat16ClustersToSave (i + 1 - 1) = c := by rw [add_sub_cancel_right, hc]
      have hwrite := ataWriteSector_of_lt (v.bytesAt address)
        (show dataareaLba c < (v.setFat c (L.headD 0xFFF8)).gNumberOfSectorsInBootDisk from hlt)
      have hrest := saveClusters_run (ulongAdd address SECTOR_SIZE)
        (v := (v.setFat c (L.headD 0xFFF8)).setSector (dataareaLba c) (v.bytesAt address))
        hlisted hmarks (Nat.lt_of_succ_lt_succ hlength) hlts
      simp only [saveClusters, get_bind, hc, if_neg hmark, modify_bind, hlisted.head]
      rw [bind_of_ok hwrite, hrest, linkClusters]
      dsimp only [Volume.setSector, Volume.setFat]
      rw [hprev]

lemma saveFound_run {q : SaveArgs} {v : Volume} {name : CString} {L : List UInt16} {slot : ℕ}
    (hlisted : Listed v.fat16ClustersToSave 0 L) (hmark : ∀ c ∈ L, c ≠ 0xFFF8)
    (hlength : L.length ≤ maxFileSizeInSectors)
    (hdisk : ∀ c ∈ L, dataareaLba c < v.gNumberOfSectorsInBootDisk)
    (hrootdisk : VOLUME1_ROOTDIR_LBA + rootdirSize ≤ v.gNumberOfSectorsInBootDisk)
    (hslot : findEmptyDirectoryEntry (v.dirs q.dirAddress) q.dirEntries.toNat = some slot) :
    ∃ v', saveFound name q v = .ok 0 v' := by
  have hwalk := saveClusters_run q.fileAddress (n := maxFileSizeInSectors + 1)
    (v := v.setDir q.dirAddress (putEntry slot
      (dirEntry name.bytes q.flag (v.fat16ClustersToSave 0) q.sizeInBytes) (v.dirs q.dirAddress)))
    hlisted hmark (by omega) hdisk
  rw [linkClusters_eq] at hwalk
  obtain ⟨u, hsave⟩ := fsSaveRootdir_run (v := { v with
    fat := saveFat L (v.fat16ClustersToSave (-1)) v.fat
    disk := saveDisk v.mem L q.fileAddress v.disk
    dirs := Function.update v.dirs q.dirAddress (putEntry slot
      (dirEntry name.bytes q.flag (v.fat16ClustersToSave 0) q.sizeInBytes) (v.dirs q.dirAddress)) })
    hrootdisk
  refine ⟨{ u with gFatCacheSaved := FAT_CACHE_NOT_SAVED }, ?_⟩
  simp only [saveFound, get_bind, hslot, modify_bind]
  rw [bind_of_ok hwalk]
  simp only [if_true]
  exact (bind_of_ok hsave).trans rfl

/-- **When a save succeeds**: the caches are loaded, the arguments are in order, there are more free
clusters than the file needs, all of them on the disk, and the directory has an empty entry. -/
theorem fsSaveFile_run {q : SaveArgs} {v : Volume} {name : CString} {slot : ℕ}
    (hloaded : v.gFatCacheLoaded = FAT_CACHE_LOADED) (hrootdir : RootdirCached rootdirSize v)
    (hrootdisk : VOLUME1_ROOTDIR_LBA + rootdirSize ≤ v.gNumberOfSectorsInBootDisk)
    (hfat : q.fatAddress = VOLUME1_FAT_ADDRESS) (hdir : q.dirAddress ≠ 0)
    (hname : q.fileName = some name) (hempty : name.bytes 0 ≠ 0)
    (hentries : 0 < q.dirEntries ∧ q.dirEntries ≤ FAT16_ROOT_ENTRIES)
    (hsize : q.fileSize ≤ maxFileSizeInSectors)
    (hfree : q.fileSize < freeClusters CLUSTERS_TO_SAVE_MAX 3 v.fat)
    (hdisk : ∀ c : UInt16, c.toNat < 3 + CLUSTERS_TO_SAVE_MAX → v.fat c = 0 →
      dataareaLba c < v.gNumberOfSectorsInBootDisk)
    (hslot : findEmptyDirectoryEntry (v.dirs q.dirAddress) q.dirEntries.toNat = some slot) :
    ∃ v', fsSaveFile q v = .ok 0 v' := by
  obtain ⟨w, hscan⟩ := findClusters_run (j := 0) hfree
  obtain ⟨L, list, hlength, -, hfound, hlisted, -, rfl⟩ := findClusters_ok_inv (by decide) hscan
  unfold fsSaveFile
  rw [if_neg (by rw [hfat]; decide), if_neg hdir, if_neg (not_not.2 hfat)]
  simp only [hname]
  rw [if_neg hempty, if_neg (by omega), if_neg (not_lt.2 hsize),
    bind_of_ok (fsLoadRootdir_eq hrootdisk hrootdir), bind_of_ok (fsLoadFat_of_loaded hloaded),
    bind_of_ok hscan]
  exact saveFound_run hlisted (fun c hc => ne_mark (hfound c hc).2.1) (by omega)
    (fun c hc => hdisk c (hfound c hc).2.1 (hfound c hc).2.2) hrootdisk hslot

end Gramado
