import Gramado.Fs.Directory
import Gramado.Lib.Memory
import Gramado.Lib.StateFault

/-!
# The boot volume and its caches

What `fsSaveFile` and `fsLoadFile` work on: the sectors of the boot disk, the FAT cached at
`VOLUME1_FAT_ADDRESS`, the directories cached at their addresses, the list `fat16ClustersToSave`,
and the memory that files are copied from and to.

A call on the volume is a `VolumeM`: it can panic, and what it did before it panicked stays done.
The disk controller is an array of sectors; its status, which no caller looks at, and the waits for
it are left out.  The caches, the list and the client's memory are regions of their own.  Only
writes to the client's memory are put on its record.

`fsLoadRootdir_eq` and `fsLoadFat_of_loaded` say what loading the caches does.
-/

namespace Gramado

open StateFault

/-- `SECTOR_SIZE`. -/
def SECTOR_SIZE : ℕ := 512

/-- `VOLUME1_FAT_ADDRESS`. -/
def VOLUME1_FAT_ADDRESS : ℕ := 0x00030000

/-- `VOLUME1_ROOTDIR_ADDRESS`. -/
def VOLUME1_ROOTDIR_ADDRESS : ℕ := 0x00070000

/-- `VOLUME1_FAT_LBA`. -/
def VOLUME1_FAT_LBA : ℕ := 67

/-- `VOLUME1_FAT_SIZE`, in sectors. -/
def VOLUME1_FAT_SIZE : ℕ := 246

/-- `VOLUME1_ROOTDIR_LBA`. -/
def VOLUME1_ROOTDIR_LBA : ℕ := 559

/-- The number of sectors of the root directory. -/
def rootdirSize : ℕ := 32

/-- `VOLUME1_DATAAREA_LBA`. -/
def VOLUME1_DATAAREA_LBA : ℕ := 591

/-- `VOLUME1_SPC`: sectors per cluster. -/
def VOLUME1_SPC : ℕ := 1

/-- `FAT_CACHE_LOADED`. -/
def FAT_CACHE_LOADED : ℤ := 1

/-- `FAT_CACHE_NOT_SAVED`. -/
def FAT_CACHE_NOT_SAVED : ℤ := 0

/-- The fields of `struct filesystem_d` in use. -/
structure FileSystem where
  used : ℤ
  magic : ℤ
  spc : ℤ
  dirEntries : ℤ
  deriving DecidableEq, Repr

/-- The boot disk, the caches and the memory around them. -/
structure Volume where
  /-- The bytes of a sector, by its LBA. -/
  disk : ℕ → ℕ → UInt8
  gNumberOfSectorsInBootDisk : ℕ
  gCurrentvolumeFatbits : ℤ
  fat : UInt16 → UInt16
  gFatCacheLoaded : ℤ
  gFatCacheSaved : ℤ
  /-- The words of the list, and those in front of it. -/
  fat16ClustersToSave : ℤ → UInt16
  /-- The bytes of a directory, by the address it is cached at. -/
  dirs : ℕ → ℕ → UInt8
  root : Option FileSystem
  mem : Memory UInt8

/-- A call on the volume. -/
abbrev VolumeM := EStateM Fault Volume

/-- A sector of the disk is overwritten. -/
def Volume.setSector (lba : ℕ) (bytes : ℕ → UInt8) (v : Volume) : Volume :=
  { v with disk := Function.update v.disk lba bytes }

/-- The directory at an address is replaced. -/
def Volume.setDir (address : ℕ) (dir : ℕ → UInt8) (v : Volume) : Volume :=
  { v with dirs := Function.update v.dirs address dir }

/-! ## The disk -/

/-- `ataReadSector`: the bytes that arrive in the buffer. -/
def ataReadSector (lba : ℕ) : VolumeM (ℕ → UInt8) := do
  let v ← get
  if v.gNumberOfSectorsInBootDisk = 0 then
    throw (.panic "ataReadSector: gNumberOfSectorsInBootDisk\n")
  else if lba ≥ v.gNumberOfSectorsInBootDisk then
    throw (.panic "ataReadSector: lba limits\n")
  else return v.disk lba

/-- `ataWriteSector` with the bytes of the buffer. -/
def ataWriteSector (bytes : ℕ → UInt8) (lba : ℕ) : VolumeM Unit := do
  let v ← get
  if v.gNumberOfSectorsInBootDisk = 0 then
    throw (.panic "ataWriteSector: gNumberOfSectorsInBootDisk\n")
  else if lba ≥ v.gNumberOfSectorsInBootDisk then
    throw (.panic "ataWriteSector: lba limits\n")
  else modify (Volume.setSector lba bytes)

lemma ataReadSector_of_lt {lba : ℕ} {v : Volume} (h : lba < v.gNumberOfSectorsInBootDisk) :
    ataReadSector lba v = .ok (v.disk lba) v := by
  simp only [ataReadSector, get_bind]
  rw [if_neg (by omega), if_neg (by omega)]
  rfl

lemma ataReadSector_ok_inv {lba : ℕ} {v v' : Volume} {bytes : ℕ → UInt8}
    (h : ataReadSector lba v = .ok bytes v') :
    lba < v.gNumberOfSectorsInBootDisk ∧ bytes = v.disk lba ∧ v' = v := by
  simp only [ataReadSector, get_bind] at h
  split_ifs at h with hzero hlimit
  · simp at h
  · simp at h
  · simp only [pure_run, EStateM.Result.ok.injEq] at h
    exact ⟨by omega, h.1.symm, h.2.symm⟩

lemma ataWriteSector_ok_inv {lba : ℕ} {v v' : Volume} {bytes : ℕ → UInt8} {u : Unit}
    (h : ataWriteSector bytes lba v = .ok u v') :
    lba < v.gNumberOfSectorsInBootDisk ∧ v' = v.setSector lba bytes := by
  simp only [ataWriteSector, get_bind] at h
  split_ifs at h with hzero hlimit
  · simp at h
  · simp at h
  · simp only [modify_run, EStateM.Result.ok.injEq] at h
    exact ⟨by omega, h.2.symm⟩

lemma ataWriteSector_of_lt {lba : ℕ} {v : Volume} (bytes : ℕ → UInt8)
    (h : lba < v.gNumberOfSectorsInBootDisk) :
    ataWriteSector bytes lba v = .ok () (v.setSector lba bytes) := by
  simp only [ataWriteSector, get_bind]
  rw [if_neg (by omega), if_neg (by omega)]
  rfl

/-! ## Loading and saving the caches -/

/-- `__load_sequential_sectors`: `n` sectors from `lba` on; `put i` is where the bytes of the `i`-th
one go. -/
def loadSequentialSectors (put : ℕ → (ℕ → UInt8) → Volume → Volume) (lba : ℕ) : ℕ → VolumeM Unit
  | 0 => return ()
  | n + 1 => do
      loadSequentialSectors put lba n
      let bytes ← ataReadSector (lba + n)
      modify (put n bytes)

/-- Sector `i` of the root directory goes to the cache. -/
def putRootdir (i : ℕ) (bytes : ℕ → UInt8) (v : Volume) : Volume :=
  v.setDir VOLUME1_ROOTDIR_ADDRESS fun o =>
    if o / SECTOR_SIZE = i then bytes (o % SECTOR_SIZE) else v.dirs VOLUME1_ROOTDIR_ADDRESS o

/-- Sector `i` of the FAT goes to the cache. -/
def putFat (i : ℕ) (bytes : ℕ → UInt8) (v : Volume) : Volume :=
  { v with fat := fun c =>
      if c.toNat / 256 = i then
        le16 (bytes (2 * (c.toNat % 256))) (bytes (2 * (c.toNat % 256) + 1))
      else v.fat c }

/-- `fs_load_rootdir(VOLUME1_ROOTDIR_ADDRESS, VOLUME1_ROOTDIR_LBA, 32)`. -/
def fsLoadRootdir : VolumeM Unit :=
  loadSequentialSectors putRootdir VOLUME1_ROOTDIR_LBA rootdirSize

/-- `fs_load_fat(VOLUME1_FAT_ADDRESS, VOLUME1_FAT_LBA, 246)`. -/
def fsLoadFat : VolumeM Unit := do
  let v ← get
  if v.gFatCacheLoaded = FAT_CACHE_LOADED then return ()
  else
    loadSequentialSectors putFat VOLUME1_FAT_LBA VOLUME1_FAT_SIZE
    modify fun v => { v with gFatCacheLoaded := FAT_CACHE_LOADED }

/-- `__do_save_sequence` on the root directory: its first `n` sectors. -/
def saveRootdirSectors : ℕ → VolumeM Unit
  | 0 => return ()
  | n + 1 => do
      saveRootdirSectors n
      let v ← get
      ataWriteSector (fun o => v.dirs VOLUME1_ROOTDIR_ADDRESS (SECTOR_SIZE * n + o))
        (VOLUME1_ROOTDIR_LBA + n)

/-- `fs_save_rootdir(VOLUME1_ROOTDIR_ADDRESS, VOLUME1_ROOTDIR_LBA, 32)`. -/
def fsSaveRootdir : VolumeM Unit := saveRootdirSectors rootdirSize

/-- The first `n` sectors of the cached root directory are those of the disk. -/
def RootdirCached (n : ℕ) (v : Volume) : Prop :=
  ∀ o < SECTOR_SIZE * n,
    v.dirs VOLUME1_ROOTDIR_ADDRESS o = v.disk (VOLUME1_ROOTDIR_LBA + o / SECTOR_SIZE) (o % SECTOR_SIZE)

/-- Loading a cached sector of the root directory again changes nothing. -/
lemma putRootdir_cached {i n : ℕ} {v : Volume} (hi : i < n) (h : RootdirCached n v) :
    putRootdir i (v.disk (VOLUME1_ROOTDIR_LBA + i)) v = v := by
  have hsame : (fun o => if o / SECTOR_SIZE = i then
      v.disk (VOLUME1_ROOTDIR_LBA + i) (o % SECTOR_SIZE) else v.dirs VOLUME1_ROOTDIR_ADDRESS o)
      = v.dirs VOLUME1_ROOTDIR_ADDRESS := by
    funext o
    split_ifs with ho
    · rw [h o (by simp only [SECTOR_SIZE] at ho ⊢; omega), ho]
    · rfl
  simp only [putRootdir, hsame, Volume.setDir, Function.update_eq_self]

/-- **Loading the root directory** that is cached already changes nothing. -/
lemma fsLoadRootdir_eq {v : Volume}
    (hdisk : VOLUME1_ROOTDIR_LBA + rootdirSize ≤ v.gNumberOfSectorsInBootDisk)
    (h : RootdirCached rootdirSize v) : fsLoadRootdir v = .ok () v := by
  have hall : ∀ n ≤ rootdirSize,
      loadSequentialSectors putRootdir VOLUME1_ROOTDIR_LBA n v = .ok () v := by
    intro n
    induction n with
    | zero => intro _; rfl
    | succ n ih =>
        intro hn
        rw [loadSequentialSectors, bind_of_ok (ih (by omega)),
          bind_of_ok (ataReadSector_of_lt (by omega)), modify_run,
          putRootdir_cached (by omega) h]
  exact hall rootdirSize le_rfl

/-- When the root directory is cached, loading it either does nothing or panics. -/
lemma fsLoadRootdir_ok_inv {v v' : Volume} {u : Unit} (h : RootdirCached rootdirSize v)
    (hload : fsLoadRootdir v = .ok u v') :
    v' = v ∧ VOLUME1_ROOTDIR_LBA + rootdirSize ≤ v.gNumberOfSectorsInBootDisk := by
  have hdisk : VOLUME1_ROOTDIR_LBA + rootdirSize ≤ v.gNumberOfSectorsInBootDisk := by
    have hall : ∀ n v', loadSequentialSectors putRootdir VOLUME1_ROOTDIR_LBA n v = .ok u v' →
        v'.gNumberOfSectorsInBootDisk = v.gNumberOfSectorsInBootDisk ∧
          (0 < n → VOLUME1_ROOTDIR_LBA + n ≤ v.gNumberOfSectorsInBootDisk) := by
      intro n
      induction n with
      | zero =>
          intro v' hrun
          obtain rfl : v = v' := by simpa [loadSequentialSectors] using hrun
          exact ⟨rfl, fun hpos => absurd hpos (lt_irrefl 0)⟩
      | succ n ih =>
          intro v' hrun
          obtain ⟨_, w, hfirst, hrest⟩ := bind_ok_inv hrun
          obtain ⟨bytes, w', hread, hput⟩ := bind_ok_inv hrest
          obtain ⟨hsame, -⟩ := ih w hfirst
          obtain ⟨hlt, -, rfl⟩ := ataReadSector_ok_inv hread
          obtain rfl : putRootdir n bytes w' = v' := by simpa using hput
          exact ⟨hsame, fun _ => by omega⟩
    exact (hall rootdirSize v' hload).2 (by decide)
  rw [fsLoadRootdir_eq hdisk h] at hload
  simp only [EStateM.Result.ok.injEq] at hload
  exact ⟨hload.2.symm, hdisk⟩

/-- The FAT is loaded once. -/
lemma fsLoadFat_of_loaded {v : Volume} (h : v.gFatCacheLoaded = FAT_CACHE_LOADED) :
    fsLoadFat v = .ok () v := by
  simp only [fsLoadFat, get_bind, if_pos h, pure_run]

/-- **Saving the root directory**: the sectors of the disk become those of the cache, the others
stay. -/
lemma fsSaveRootdir_ok_inv {v v' : Volume} {u : Unit} (h : fsSaveRootdir v = .ok u v') :
    RootdirCached rootdirSize v' ∧
      (∀ lba, lba < VOLUME1_ROOTDIR_LBA ∨ VOLUME1_DATAAREA_LBA ≤ lba → v'.disk lba = v.disk lba) ∧
      v' = { v with disk := v'.disk } ∧
      VOLUME1_ROOTDIR_LBA + rootdirSize ≤ v.gNumberOfSectorsInBootDisk := by
  have hall : ∀ n v', saveRootdirSectors n v = .ok u v' →
      RootdirCached n v' ∧
        (∀ lba, lba < VOLUME1_ROOTDIR_LBA ∨ VOLUME1_ROOTDIR_LBA + n ≤ lba →
          v'.disk lba = v.disk lba) ∧
        v' = { v with disk := v'.disk } ∧
        (0 < n → VOLUME1_ROOTDIR_LBA + n ≤ v.gNumberOfSectorsInBootDisk) := by
    intro n
    induction n with
    | zero =>
        intro v' hrun
        obtain rfl : v = v' := by simpa [saveRootdirSectors] using hrun
        exact ⟨fun o ho => absurd ho (by omega), fun _ _ => rfl, rfl,
          fun hpos => absurd hpos (lt_irrefl 0)⟩
    | succ n ih =>
        intro v' hrun
        obtain ⟨_, w, hfirst, hrest⟩ := bind_ok_inv hrun
        obtain ⟨hcached, hothers, hframe, -⟩ := ih w hfirst
        rw [get_bind] at hrest
        obtain ⟨hlt, rfl⟩ := ataWriteSector_ok_inv hrest
        have hdirs : w.dirs = v.dirs := by rw [hframe]
        have hsectors : w.gNumberOfSectorsInBootDisk = v.gNumberOfSectorsInBootDisk := by
          rw [hframe]
        refine ⟨fun o ho => ?_, fun lba hlba => ?_, ?_, fun _ => by omega⟩
        · by_cases hlast : o / SECTOR_SIZE = n
          · have hoff : SECTOR_SIZE * n + o % SECTOR_SIZE = o := by
              rw [← hlast]
              exact Nat.div_add_mod o SECTOR_SIZE
            dsimp only [Volume.setSector]
            rw [hlast, Function.update_self, hoff]
          · dsimp only [Volume.setSector]
            rw [Function.update_of_ne (by omega)]
            exact hcached o (by simp only [SECTOR_SIZE] at ho hlast ⊢; omega)
        · dsimp only [Volume.setSector]
          rw [Function.update_of_ne (by omega)]
          exact hothers lba (by omega)
        · rw [hframe]
          rfl
  obtain ⟨hcached, hothers, hframe, hsize⟩ := hall rootdirSize v' h
  exact ⟨hcached, fun lba hlba => hothers lba hlba, hframe, hsize (by decide)⟩

/-- A disk that is long enough for the root directory takes it. -/
lemma fsSaveRootdir_run {v : Volume}
    (hdisk : VOLUME1_ROOTDIR_LBA + rootdirSize ≤ v.gNumberOfSectorsInBootDisk) :
    ∃ v', fsSaveRootdir v = .ok () v' := by
  have hall : ∀ n ≤ rootdirSize, ∃ v', saveRootdirSectors n v = .ok () v' ∧
      v'.gNumberOfSectorsInBootDisk = v.gNumberOfSectorsInBootDisk := by
    intro n
    induction n with
    | zero => exact fun _ => ⟨v, rfl, rfl⟩
    | succ n ih =>
        intro hn
        obtain ⟨w, hfirst, hsectors⟩ := ih (by omega)
        refine ⟨w.setSector (VOLUME1_ROOTDIR_LBA + n)
          fun o => w.dirs VOLUME1_ROOTDIR_ADDRESS (SECTOR_SIZE * n + o), ?_, hsectors⟩
        rw [saveRootdirSectors, bind_of_ok hfirst, get_bind]
        exact ataWriteSector_of_lt _ (by omega)
  obtain ⟨v', hrun, -⟩ := hall rootdirSize le_rfl
  exact ⟨v', hrun⟩

end Gramado
