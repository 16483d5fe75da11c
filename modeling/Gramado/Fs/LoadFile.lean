import Gramado.Fs.FatInvariant

/-!
# Loading a file

`fsGetFileSize` of `kres/fs/fat/fat16.c` and `fsLoadFile` of `kres/fs/fsload.c`.  A load checks its
arguments (`loadPanic`), compares the size in the directory entry with the limit, looks the name up
once more, and then copies one sector for each cluster it meets in the FAT (`loadClusters`).

The FAT need not lead to a mark, so the copying loop has the number of sectors it may still copy as
an argument; `none` is a loop that is still running.

* `fsGetFileSize_eq`, `fsLoadFile_eq` — both functions on a volume whose caches are loaded.
* `loadClusters_all` — along a chain, the loop copies its sectors one behind the other
  (`copySectors`).
-/

namespace Gramado

open StateFault Cells

/-- `IMAGESIZE_LIMIT_IN_KB`. -/
def IMAGESIZE_LIMIT_IN_KB : ℕ := 405

/-- The core addresses of `__check_address_validation`: the FAT, the root directory, the kernel
image, the frontbuffer and the backbuffer. -/
def coreAddresses : List ℕ :=
  [VOLUME1_FAT_ADDRESS, VOLUME1_ROOTDIR_ADDRESS, 0x30000000, 0x30200000, 0x30400000]

/-- `__check_address_validation`. -/
def checkAddressValidation (address : ℕ) : ℤ := if address ∈ coreAddresses then FALSE else TRUE

/-- `read_lba`: a sector of a FAT16 volume goes to the buffer. -/
def readLba (buffer lba : ℕ) : VolumeM Unit := do
  let v ← get
  if v.gCurrentvolumeFatbits = 32 then return ()
  else if v.gCurrentvolumeFatbits = 16 then
    let bytes ← ataReadSector lba
    modify fun v => { v with mem := v.mem.store buffer (firstSector bytes) }
  else if v.gCurrentvolumeFatbits = 12 then return ()
  else throw (.panic "read_lba: default\n")
where
  /-- The bytes of one sector. -/
  firstSector (bytes : ℕ → UInt8) : List UInt8 := (List.range SECTOR_SIZE).map bytes

/-- `fsGetFileSize` loads the root directory, no other. -/
def reloadRootdir (dirAddress : ℕ) : VolumeM Unit :=
  if dirAddress = VOLUME1_ROOTDIR_ADDRESS then fsLoadRootdir else return ()

/-- `fsGetFileSize`: 0 when the file is not found. -/
def fsGetFileSize (fileName : Option CString) (dirAddress : ℕ) : VolumeM ℕ := do
  match fileName with
  | none => return 0
  | some name =>
      if name.bytes 0 = 0 then return 0
      else if dirAddress = 0 then return 0
      else
        reloadRootdir dirAddress
        let v ← get
        match v.root with
        | none => throw (.panic "fsGetFileSize: [FAIL] No root file system!\n")
        | some root =>
            if root.spc ≤ 0 then throw (.panic "fsGetFileSize: [FAIL] spc\n")
            else if root.dirEntries = 0 then
              throw (.panic "fsGetFileSize: [FAIL] max root entries\n")
            else
              match findEntry (v.dirs dirAddress) name.bytes (min name.strlen 11)
                (root.dirEntries % 2 ^ 64).toNat with
              | none => return 0
              | some i => return entryFileSize (v.dirs dirAddress) i

/-- The arguments of `fsLoadFile`. -/
structure LoadArgs where
  fatAddress : ℕ
  dirAddress : ℕ
  dirEntries : ℤ
  fileName : Option CString
  buffer : ℕ
  bufferSizeInBytes : ℕ

/-- `BufferSizeInBytes`: the lower 32 bits of the argument. -/
def LoadArgs.limit (r : LoadArgs) : ℕ := r.bufferSizeInBytes % 2 ^ 32

/-- The message of the first check of `fsLoadFile` that panics. -/
def loadPanic (r : LoadArgs) (root : Option FileSystem) : Option String :=
  if r.fatAddress = 0 then some "fsLoadFile: [FAIL] fat_address\n"
  else if r.dirAddress = 0 then some "fsLoadFile: [FAIL] dir_address\n"
  else if r.fatAddress ≠ VOLUME1_FAT_ADDRESS then some "fsLoadFile: Not valid fat address\n"
  else if r.dirEntries % 0x10000 > FAT16_ROOT_ENTRIES then some "fsLoadFile: DirEntries\n"
  else if r.dirEntries % 0x10000 ≠ FAT16_ROOT_ENTRIES then
    some "fsLoadFile: [DEBUG] DirEntries IS LESS THE 512\n"
  else if r.limit = 0 then some "fsLoadFile: BufferSizeInBytes = 0\n"
  else if r.limit > 512 * 4096 then some "fsLoadFile: BufferSizeInBytes limits\n"
  else
    match root with
    | none => some "fsLoadFile: root\n"
    | some root =>
        if root.used ≠ TRUE ∨ root.magic ≠ 1234 then some "fsLoadFile: root validation\n"
        else if root.spc ≤ 0 then some "fsLoadFile: Spc\n"
        else if root.dirEntries ≠ FAT16_ROOT_ENTRIES then some "fsLoadFile: root->dir_entries\n"
        else none

/-- The copying loop of `fsLoadFile`, for at most `fuel` more sectors. -/
def loadClusters : ℕ → ℕ → UInt16 → ℕ → VolumeM (Option ℕ)
  | 0, _, _, _ => return none
  | fuel + 1, buffer, cluster, nreads => do
      if checkAddressValidation buffer ≠ TRUE then
        throw (.panic "fsLoadFile: Not a valid address\n")
      else if cluster = 0 ∨ cluster > 0xFFF0 then
        throw (.panic "fsLoadFile: fat[] vector limits.\n")
      else
        readLba buffer (dataareaLba cluster)
        let v ← get
        let next := v.fat cluster
        if next = 0xFFF7 then throw (.panic "fsLoadFile: Bad cluster\n")
        else if next = 0xFFFF ∨ next = 0xFFF8 then
          if (nreads + 1) / 2 > IMAGESIZE_LIMIT_IN_KB then throw (.panic "fsLoadFile: nreads\n")
          else return some 0
        else loadClusters fuel (ulongAdd buffer SECTOR_SIZE) next (nreads + 1)

/-- `fsLoadFile`: `some 0` when the file is loaded, `some 1` when the call gives up. -/
def fsLoadFile (fuel : ℕ) (r : LoadArgs) : VolumeM (Option ℕ) := do
  let v ← get
  match loadPanic r v.root with
  | some message => throw (.panic message)
  | none =>
      match r.fileName with
      | none => return some 1
      | some name =>
          if name.bytes 0 = 0 then return some 1
          else if name.strlen > 11 then return some 1
          else
            let fileSize ← fsGetFileSize r.fileName r.dirAddress
            if fileSize ≥ r.limit then return some 1
            else
              let v ← get
              match findEntry (v.dirs r.dirAddress) name.bytes name.strlen FAT16_ROOT_ENTRIES with
              | none => return some 1
              | some i =>
                  let cluster := entryCluster (v.dirs r.dirAddress) i
                  if cluster = 0 ∨ cluster > 0xFFF0 then return some 1
                  else
                    fsLoadFat
                    loadClusters fuel r.buffer cluster 0

/-! ## On a volume with its caches loaded -/

/-- **The caches are loaded**, the volume has a FAT16 and its root directory 512 entries. -/
structure CachesLoaded (v : Volume) : Prop where
  fatbits : v.gCurrentvolumeFatbits = 16
  fatLoaded : v.gFatCacheLoaded = FAT_CACHE_LOADED
  rootdir : RootdirCached rootdirSize v
  rootdirOnDisk : VOLUME1_ROOTDIR_LBA + rootdirSize ≤ v.gNumberOfSectorsInBootDisk

lemma VolumeOk.cachesLoaded {D : Set ℕ} {v : Volume} (h : VolumeOk D v) : CachesLoaded v :=
  ⟨h.fatbits, h.fatLoaded, h.rootdir, h.rootdirOnDisk⟩

/-- What `loadPanic` has checked when it lets a call pass. -/
structure LoadAccepted (r : LoadArgs) (root : Option FileSystem) : Prop where
  dirAddress : r.dirAddress ≠ 0
  limit_pos : 0 < r.limit
  limit_le : r.limit ≤ 512 * 4096
  root : ∃ fs, root = some fs ∧ 0 < fs.spc ∧ fs.dirEntries = FAT16_ROOT_ENTRIES

lemma loadPanic_none {r : LoadArgs} {root : Option FileSystem} (h : loadPanic r root = none) :
    LoadAccepted r root := by
  unfold loadPanic at h
  split_ifs at h with h1 h2 h3 h4 h5 h6 h7
  cases root with
  | none => simp at h
  | some fs =>
      simp only at h
      split_ifs at h with h8 h9 h10
      exact ⟨h2, by omega, by omega, fs, rfl, by omega, not_not.1 h10⟩

section Loaded

variable {v : Volume} {r : LoadArgs} {name : CString} {dirAddress : ℕ}

lemma reloadRootdir_eq (hv : CachesLoaded v) : reloadRootdir dirAddress v = .ok () v := by
  unfold reloadRootdir
  split_ifs
  · exact fsLoadRootdir_eq hv.rootdirOnDisk hv.rootdir
  · rfl

/-- The entry that both functions find. -/
def Volume.lookup (v : Volume) (dirAddress : ℕ) (name : CString) : Option ℕ :=
  findEntry (v.dirs dirAddress) name.bytes name.strlen FAT16_ROOT_ENTRIES

/-- **The size of a file** is the one in the entry that is found. -/
lemma fsGetFileSize_eq (hv : CachesLoaded v) (hr : LoadAccepted r v.root)
    (hname : name.bytes 0 ≠ 0) (hlength : name.strlen ≤ 11) :
    fsGetFileSize (some name) r.dirAddress v
      = .ok ((v.lookup r.dirAddress name).elim 0 (entryFileSize (v.dirs r.dirAddress))) v := by
  obtain ⟨fs, hroot, hspc, hentries⟩ := hr.root
  have hmax : (fs.dirEntries % 2 ^ 64).toNat = FAT16_ROOT_ENTRIES := by rw [hentries]; rfl
  have hne : fs.dirEntries ≠ 0 := by rw [hentries]; decide
  simp only [fsGetFileSize]
  rw [if_neg hname, if_neg hr.dirAddress, bind_of_ok (reloadRootdir_eq hv), get_bind, hroot]
  simp only
  rw [if_neg (by omega), if_neg hne, hmax, min_eq_left hlength, ← Volume.lookup]
  cases v.lookup r.dirAddress name with
  | none => rfl
  | some i => rfl

/-- What `fsLoadFile` does with the entry that its search selects: it gives up, or it copies the
clusters from the first one of the entry on. -/
def loadEntry (fuel : ℕ) (r : LoadArgs) (v : Volume) :
    Option ℕ → EStateM.Result Fault Volume (Option ℕ)
  | none => .ok (some 1) v
  | some i =>
      let cluster := entryCluster (v.dirs r.dirAddress) i
      if entryFileSize (v.dirs r.dirAddress) i ≥ r.limit ∨ cluster = 0 ∨ cluster > 0xFFF0 then
        .ok (some 1) v
      else loadClusters fuel r.buffer cluster 0 v

/-- **A load** goes by the entry that the search selects. -/
lemma fsLoadFile_eq (hv : CachesLoaded v) (hr : loadPanic r v.root = none)
    (hfile : r.fileName = some name) (hname : name.bytes 0 ≠ 0) (hlength : name.strlen ≤ 11)
    (fuel : ℕ) :
    fsLoadFile fuel r v = loadEntry fuel r v (v.lookup r.dirAddress name) := by
  have hok := loadPanic_none hr
  have hpos := hok.limit_pos
  have hsize := fsGetFileSize_eq hv hok hname hlength
  simp only [fsLoadFile, get_bind, hr, hfile]
  rw [if_neg hname, if_neg (by omega)]
  cases hi : v.lookup r.dirAddress name with
  | none =>
      rw [hi, Option.elim_none] at hsize
      rw [bind_of_ok hsize, if_neg (by omega), get_bind]
      rw [Volume.lookup] at hi
      rw [hi]
      rfl
  | some i =>
      rw [hi, Option.elim_some] at hsize
      rw [bind_of_ok hsize]
      by_cases hlimit : entryFileSize (v.dirs r.dirAddress) i ≥ r.limit
      · rw [if_pos hlimit]
        simp only [loadEntry, hlimit, true_or, if_true, pure_run]
      · rw [if_neg hlimit, get_bind]
        rw [Volume.lookup] at hi
        rw [hi]
        simp only [loadEntry, hlimit, false_or]
        split_ifs with hcluster
        · rfl
        · exact bind_of_ok (fsLoadFat_of_loaded hv.fatLoaded)

end Loaded

/-! ## Copying a chain -/

/-- The bytes of the sector of a cluster. -/
def sectorOf (disk : ℕ → ℕ → UInt8) (c : UInt16) : List UInt8 :=
  readLba.firstSector (disk (dataareaLba c))

@[simp] lemma sectorOf_length (disk : ℕ → ℕ → UInt8) (c : UInt16) :
    (sectorOf disk c).length = SECTOR_SIZE := by
  simp only [sectorOf, readLba.firstSector, List.length_map, List.length_range]

/-- The volume after the sector of a cluster is copied. -/
def Volume.copySector (v : Volume) (buffer : ℕ) (c : UInt16) : Volume :=
  { v with mem := v.mem.store buffer (sectorOf v.disk c) }

/-- The memory after the sectors of the clusters are copied one behind the other. -/
def copySectors (disk : ℕ → ℕ → UInt8) : List UInt16 → ℕ → Memory UInt8 → Memory UInt8
  | [], _, mem => mem
  | c :: C, buffer, mem =>
      copySectors disk C (ulongAdd buffer SECTOR_SIZE) (mem.store buffer (sectorOf disk c))

/-- Where the `k`-th sector of a load goes. -/
def sectorAddress (buffer k : ℕ) : ℕ := (buffer + SECTOR_SIZE * k) % 2 ^ 64

lemma sectorAddress_zero {buffer : ℕ} (h : buffer < 2 ^ 64) : sectorAddress buffer 0 = buffer := by
  rw [sectorAddress, Nat.mul_zero, Nat.add_zero, Nat.mod_eq_of_lt h]

lemma sectorAddress_succ (buffer k : ℕ) :
    sectorAddress buffer (k + 1) = sectorAddress (ulongAdd buffer SECTOR_SIZE) k := by
  simp only [sectorAddress, ulongAdd, SECTOR_SIZE]
  omega

lemma ulongAdd_lt (a b : ℕ) : ulongAdd a b < 2 ^ 64 := Nat.mod_lt _ (by decide)

/-- **One turn of the loop** on a cluster of the volume. -/
lemma loadClusters_step {v : Volume} {c : UInt16} (hbits : v.gCurrentvolumeFatbits = 16)
    (hc : InVolume v c) (fuel buffer nreads : ℕ) :
    loadClusters (fuel + 1) buffer c nreads v
      = if checkAddressValidation buffer ≠ TRUE then
          .error (.panic "fsLoadFile: Not a valid address\n") v
        else if v.fat c = 0xFFF7 then
          .error (.panic "fsLoadFile: Bad cluster\n") (v.copySector buffer c)
        else if EndMark (v.fat c) then
          if (nreads + 1) / 2 > IMAGESIZE_LIMIT_IN_KB then
            .error (.panic "fsLoadFile: nreads\n") (v.copySector buffer c)
          else .ok (some 0) (v.copySector buffer c)
        else loadClusters fuel (ulongAdd buffer SECTOR_SIZE) (v.fat c) (nreads + 1)
          (v.copySector buffer c) := by
  have hlimits : ¬ (c = 0 ∨ c > 0xFFF0) := by
    rintro (hzero | hlarge)
    · exact hc.ne_zero hzero
    · have hlt := hc.fat
      have hgt := UInt16.lt_iff_toNat_lt.1 hlarge
      have hmax : (0xFFF0 : UInt16).toNat = 0xFFF0 := rfl
      simp only [VOLUME1_FAT_SIZE] at hlt
      omega
  have hread : readLba buffer (dataareaLba c) v = .ok () (v.copySector buffer c) := by
    simp only [readLba, get_bind]
    rw [if_neg (by rw [hbits]; decide), if_pos hbits, bind_of_ok (ataReadSector_of_lt hc.disk)]
    rfl
  simp only [loadClusters]
  by_cases hvalid : checkAddressValidation buffer ≠ TRUE
  · rw [if_pos hvalid, if_pos hvalid, throw_run]
  · rw [if_neg hvalid, if_neg hvalid, if_neg hlimits, bind_of_ok hread, get_bind]
    simp only [ite_run, throw_run, pure_run, EndMark]
    rfl

/-- A cluster of the volume is no mark of a bad one. -/
lemma InVolume.ne_bad {v : Volume} {c : UInt16} (h : InVolume v c) : c ≠ 0xFFF7 := by
  rintro rfl
  exact absurd h.fat (by decide)

/-- **One turn of the loop** along a chain: the address is refused, or the sector is copied and the
loop ends with the chain or goes on with its rest. -/
lemma loadClusters_chain {v : Volume} {c p : UInt16} {C : List UInt16}
    (hbits : v.gCurrentvolumeFatbits = 16)
    (hchain : Chain (nextCluster v.fat) EndMark p (c :: C)) (hin : ∀ x ∈ c :: C, InVolume v x)
    (fuel buffer nreads : ℕ) :
    loadClusters (fuel + 1) buffer p nreads v
      = if checkAddressValidation buffer ≠ TRUE then
          .error (.panic "fsLoadFile: Not a valid address\n") v
        else if C = [] then
          if (nreads + 1) / 2 > IMAGESIZE_LIMIT_IN_KB then
            .error (.panic "fsLoadFile: nreads\n") (v.copySector buffer c)
          else .ok (some 0) (v.copySector buffer c)
        else loadClusters fuel (ulongAdd buffer SECTOR_SIZE) (v.fat c) (nreads + 1)
          (v.copySector buffer c) := by
  obtain ⟨rfl, -, r, hr, hC⟩ := hchain
  have hword : v.fat p = r := Option.some.inj hr
  rw [loadClusters_step hbits (hin p (List.mem_cons_self ..))]
  cases C with
  | nil =>
      have hmark : EndMark (v.fat p) := hword ▸ hC
      have hgood : v.fat p ≠ 0xFFF7 := by
        rintro hbad
        rw [hbad] at hmark
        exact absurd hmark (by decide)
      rw [if_neg hgood, if_pos hmark, if_pos rfl]
  | cons q C =>
      have hq : InVolume v (v.fat p) := by
        rw [hword, hC.1]
        exact hin q (by simp)
      rw [if_neg hq.ne_bad, if_neg hq.not_endMark, if_neg (List.cons_ne_nil q C)]

/-- The chain behind its first cluster. -/
lemma chain_rest {fat : UInt16 → UInt16} {p c : UInt16} {C : List UInt16}
    (h : Chain (nextCluster fat) EndMark p (c :: C)) :
    p = c ∧ Chain (nextCluster fat) EndMark (fat c) C := by
  obtain ⟨rfl, -, r, hr, hC⟩ := h
  obtain rfl : fat p = r := Option.some.inj hr
  exact ⟨rfl, hC⟩

/-- **A whole chain is copied** when no address is refused and it is short enough. -/
lemma loadClusters_all : ∀ {C : List UInt16} {fuel buffer nreads : ℕ} {p : UInt16} {v : Volume},
    v.gCurrentvolumeFatbits = 16 → buffer < 2 ^ 64 → C ≠ [] →
    Chain (nextCluster v.fat) EndMark p C → (∀ x ∈ C, InVolume v x) → C.length ≤ fuel →
    (nreads + C.length) / 2 ≤ IMAGESIZE_LIMIT_IN_KB →
    (∀ k < C.length, checkAddressValidation (sectorAddress buffer k) = TRUE) →
    loadClusters fuel buffer p nreads v
      = .ok (some 0) { v with mem := copySectors v.disk C buffer v.mem }
  | [], _, _, _, _, _, _, _, hne, _, _, _, _, _ => absurd rfl hne
  | c :: C, 0, _, _, _, _, _, _, _, _, _, hfuel, _, _ => absurd hfuel (by simp)
  | c :: C, fuel + 1, buffer, nreads, p, v, hbits, hbuffer, _, hchain, hin, hfuel, hsize, hvalid =>
      by
      have hfirst := hvalid 0 (Nat.succ_pos _)
      rw [sectorAddress_zero hbuffer] at hfirst
      rw [loadClusters_chain hbits hchain hin, if_neg (not_not.2 hfirst)]
      simp only [List.length_cons] at hfuel hsize
      by_cases hlast : C = []
      · subst hlast
        rw [if_pos rfl, if_neg (by simp only [List.length_nil] at hsize; omega)]
        rfl
      · obtain ⟨-, hrest⟩ := chain_rest hchain
        rw [if_neg hlast, loadClusters_all (v := v.copySector buffer c) hbits
          (ulongAdd_lt buffer SECTOR_SIZE) hlast hrest
          (fun x hx => ⟨(hin x (List.mem_cons_of_mem _ hx)).data,
            (hin x (List.mem_cons_of_mem _ hx)).fat, (hin x (List.mem_cons_of_mem _ hx)).disk⟩)
          (by omega) (by omega) fun k hk => ?_]
        · rfl
        · rw [← sectorAddress_succ]
          exact hvalid (k + 1) (Nat.succ_lt_succ hk)

/-- **A load along a chain does not see the rest of the volume.** -/
lemma loadClusters_congr : ∀ {fuel : ℕ} {C : List UInt16} {buffer nreads : ℕ} {p : UInt16}
    {v w : Volume}, v.gCurrentvolumeFatbits = 16 → w.gCurrentvolumeFatbits = 16 → C ≠ [] →
    Chain (nextCluster v.fat) EndMark p C → (∀ x ∈ C, InVolume v x ∧ InVolume w x) →
    (∀ x ∈ C, w.fat x = v.fat x ∧ w.disk (dataareaLba x) = v.disk (dataareaLba x)) →
    w.mem = v.mem →
    outcome (loadClusters fuel buffer p nreads) w = outcome (loadClusters fuel buffer p nreads) v ∧
      (after (loadClusters fuel buffer p nreads) w).mem
        = (after (loadClusters fuel buffer p nreads) v).mem
  | 0, _, _, _, _, _, _, _, _, _, _, _, _, hmem => ⟨rfl, hmem⟩
  | _ + 1, [], _, _, _, _, _, _, _, hne, _, _, _, _ => absurd rfl hne
  | fuel + 1, c :: C, buffer, nreads, p, v, w, hv, hw, _, hchain, hin, hsame, hmem => by
      have hchain' : Chain (nextCluster w.fat) EndMark p (c :: C) :=
        hchain.congr fun x hx => by rw [nextCluster, nextCluster, (hsame x hx).1]
      have hstep := loadClusters_chain hv hchain (fun x hx => (hin x hx).1) fuel buffer nreads
      have hstep' := loadClusters_chain hw hchain' (fun x hx => (hin x hx).2) fuel buffer nreads
      have hsector : (w.copySector buffer c).mem = (v.copySector buffer c).mem := by
        simp only [Volume.copySector, sectorOf, hmem, (hsame c (List.mem_cons_self ..)).2]
      simp only [outcome, after, hstep, hstep']
      by_cases hvalid : checkAddressValidation buffer ≠ TRUE
      · simp only [if_pos hvalid, hmem, and_self]
      · simp only [if_neg hvalid]
        by_cases hlast : C = []
        · simp only [if_pos hlast]
          split_ifs
          · exact ⟨rfl, hsector⟩
          · exact ⟨rfl, hsector⟩
        · simp only [if_neg hlast]
          have hword := (hsame c (List.mem_cons_self ..)).1
          obtain ⟨-, hrest⟩ := chain_rest hchain
          rw [hword]
          exact loadClusters_congr (v := v.copySector buffer c) (w := w.copySector buffer c) hv hw
            hlast hrest
            (fun x hx =>
              have h := hin x (List.mem_cons_of_mem _ hx)
              ⟨⟨h.1.data, h.1.fat, h.1.disk⟩, ⟨h.2.data, h.2.fat, h.2.disk⟩⟩)
            (fun x hx => hsame x (List.mem_cons_of_mem _ hx)) hsector

end Gramado
