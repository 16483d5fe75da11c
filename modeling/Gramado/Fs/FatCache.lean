import Gramado.Fs.RoundTrip

/-!
# The FAT cache and the boot volume

A save changes the FAT in its cache and writes the root directory to the disk; the FAT itself reaches
the disk only when it is asked for: `fs_save_fat16_cache` of `kres/fs/fat/fat16.c`, called by a service
of the kernel and by `do_reboot` of `kmain/system.c`.  After a reset, `fsInit` loads both from the disk.

* `fsSaveFat16Cache_ok_inv` — what saving the cache does to the disk: its sectors of the FAT hold the
  cached words (`FatOnDisk`).
* `mountBootVolume_eq` — what the boot volume looks like after it is mounted.
-/

namespace Gramado

open StateFault

/-- `FAT_CACHE_NOT_LOADED`. -/
def FAT_CACHE_NOT_LOADED : ℤ := 0

/-- `FAT_CACHE_SAVED`. -/
def FAT_CACHE_SAVED : ℤ := 1

/-- Byte `o` of sector `i` of the cached FAT. -/
def fatSector (fat : UInt16 → UInt16) (i o : ℕ) : UInt8 :=
  let word := (fat (UInt16.ofNat (256 * i + o / 2))).toNat
  if o % 2 = 0 then UInt8.ofNat word else UInt8.ofNat (word / 256)

/-- `__do_save_sequence` on the FAT: its first `n` sectors. -/
def saveFatSectors : ℕ → VolumeM Unit
  | 0 => return ()
  | n + 1 => do
      saveFatSectors n
      let v ← get
      ataWriteSector (fatSector v.fat n) (VOLUME1_FAT_LBA + n)

/-- `fs_save_fat(VOLUME1_FAT_ADDRESS, VOLUME1_FAT_LBA, VOLUME1_FAT_SIZE)`. -/
def fsSaveFat : VolumeM Unit := saveFatSectors VOLUME1_FAT_SIZE

/-- `fs_save_fat16_cache`: -1 when the cache counts as saved. -/
def fsSaveFat16Cache : VolumeM ℤ := do
  let v ← get
  if v.gFatCacheSaved ≠ FAT_CACHE_NOT_SAVED then return -1
  else
    fsSaveFat
    modify fun v => { v with gFatCacheSaved := FAT_CACHE_SAVED }
    return 0

/-- `do_reboot` up to `hal_reboot`: whether the machine is reset.  It is not, when the cache was saved
already. -/
def doReboot : VolumeM Bool := do
  let status ← fsSaveFat16Cache
  let v ← get
  return !(status < 0 ∨ v.gFatCacheSaved ≠ FAT_CACHE_SAVED)

/-- `fs_init_structures` and the cache flags that `fat16Init` sets. -/
def fat16Init (v : Volume) : Volume :=
  { v with
    gFatCacheLoaded := FAT_CACHE_NOT_LOADED
    gFatCacheSaved := FAT_CACHE_NOT_SAVED
    root := some ⟨TRUE, 1234, VOLUME1_SPC, FAT16_ROOT_ENTRIES⟩ }

/-- `fsInit` on the boot volume: the structures, then `fsbp_initialize_fat`, then the root directory of
`fsbp_initialize_bp_directories`. -/
def mountBootVolume : VolumeM Unit := do
  modify fat16Init
  fsLoadFat
  fsLoadRootdir

/-! ## Saving the cache -/

/-- The word of a cluster, as the disk has it. -/
def diskFat (disk : ℕ → ℕ → UInt8) (c : UInt16) : UInt16 :=
  le16 (disk (VOLUME1_FAT_LBA + c.toNat / 256) (2 * (c.toNat % 256)))
    (disk (VOLUME1_FAT_LBA + c.toNat / 256) (2 * (c.toNat % 256) + 1))

/-- The two bytes of a word of the FAT, in its sector. -/
lemma le16_fatSector (fat : UInt16 → UInt16) (c : UInt16) :
    le16 (fatSector fat (c.toNat / 256) (2 * (c.toNat % 256)))
      (fatSector fat (c.toNat / 256) (2 * (c.toNat % 256) + 1)) = fat c := by
  have heven : 256 * (c.toNat / 256) + 2 * (c.toNat % 256) / 2 = c.toNat := by omega
  have hodd : 256 * (c.toNat / 256) + (2 * (c.toNat % 256) + 1) / 2 = c.toNat := by omega
  simp only [fatSector, heven, hodd, UInt16.ofNat_toNat]
  rw [if_pos (by omega), if_neg (by omega)]
  exact le16_bytes (fat c)

/-- The sectors of the FAT are in front of the root directory. -/
lemma fatLba_lt {i : ℕ} (h : i < VOLUME1_FAT_SIZE) : VOLUME1_FAT_LBA + i < VOLUME1_ROOTDIR_LBA := by
  simp only [VOLUME1_FAT_SIZE, VOLUME1_FAT_LBA, VOLUME1_ROOTDIR_LBA] at h ⊢
  omega

/-- The first sectors of the FAT are written, the other ones of the disk stay. -/
lemma saveFatSectors_ok_inv {u : Unit} : ∀ {n : ℕ} {v v' : Volume}, saveFatSectors n v = .ok u v' →
    (∀ i < n, v'.disk (VOLUME1_FAT_LBA + i) = fatSector v.fat i) ∧
      (∀ lba, lba < VOLUME1_FAT_LBA ∨ VOLUME1_FAT_LBA + n ≤ lba → v'.disk lba = v.disk lba) ∧
      v' = { v with disk := v'.disk }
  | 0, v, v', h => by
      obtain rfl : v = v' := by simpa [saveFatSectors] using h
      exact ⟨fun i hi => absurd hi (Nat.not_lt_zero i), fun _ _ => rfl, rfl⟩
  | n + 1, v, v', h => by
      obtain ⟨_, w, hfirst, hrest⟩ := bind_ok_inv h
      obtain ⟨hwritten, hothers, hframe⟩ := saveFatSectors_ok_inv hfirst
      rw [get_bind] at hrest
      obtain ⟨-, rfl⟩ := ataWriteSector_ok_inv hrest
      have hfat : w.fat = v.fat := by rw [hframe]
      refine ⟨fun i hi => ?_, fun lba hlba => ?_, ?_⟩
      · dsimp only [Volume.setSector]
        by_cases hlast : i = n
        · rw [hlast, Function.update_self, hfat]
        · rw [Function.update_of_ne (by omega)]
          exact hwritten i (by omega)
      · dsimp only [Volume.setSector]
        rw [Function.update_of_ne (by omega)]
        exact hothers lba (by omega)
      · rw [hframe]
        rfl

/-- A disk that reaches to the root directory takes the FAT. -/
lemma saveFatSectors_run {v : Volume} (hdisk : VOLUME1_ROOTDIR_LBA ≤ v.gNumberOfSectorsInBootDisk) :
    ∀ n ≤ VOLUME1_FAT_SIZE, ∃ v', saveFatSectors n v = .ok () v' ∧
      v'.gNumberOfSectorsInBootDisk = v.gNumberOfSectorsInBootDisk := by
  intro n
  induction n with
  | zero => exact fun _ => ⟨v, rfl, rfl⟩
  | succ n ih =>
      intro hn
      obtain ⟨w, hfirst, hsectors⟩ := ih (by omega)
      refine ⟨w.setSector (VOLUME1_FAT_LBA + n) (fatSector w.fat n), ?_, hsectors⟩
      have hlba := fatLba_lt hn
      rw [saveFatSectors, bind_of_ok hfirst, get_bind]
      exact ataWriteSector_of_lt _ (by omega)

/-- **What a call of `fs_save_fat16_cache` has done** when it returns: nothing, when the cache counted
as saved; otherwise the FAT of the disk is the cached one and no other sector has changed. -/
theorem fsSaveFat16Cache_ok_inv {v v' : Volume} {status : ℤ}
    (h : fsSaveFat16Cache v = .ok status v') :
    (status = -1 ∧ v' = v ∧ v.gFatCacheSaved ≠ FAT_CACHE_NOT_SAVED) ∨
      (status = 0 ∧ (∀ c : UInt16, c.toNat < 256 * VOLUME1_FAT_SIZE → diskFat v'.disk c = v.fat c) ∧
        (∀ lba, VOLUME1_ROOTDIR_LBA ≤ lba → v'.disk lba = v.disk lba) ∧
        v' = { v with disk := v'.disk, gFatCacheSaved := FAT_CACHE_SAVED }) := by
  simp only [fsSaveFat16Cache, get_bind] at h
  by_cases hsaved : v.gFatCacheSaved ≠ FAT_CACHE_NOT_SAVED
  · rw [if_pos hsaved, pure_run, EStateM.Result.ok.injEq] at h
    exact Or.inl ⟨h.1.symm, h.2.symm, hsaved⟩
  · rw [if_neg hsaved] at h
    obtain ⟨_, w, hsave, h⟩ := bind_ok_inv h
    obtain ⟨hwritten, hothers, hframe⟩ := saveFatSectors_ok_inv hsave
    simp only [modify_bind, pure_run, EStateM.Result.ok.injEq] at h
    obtain ⟨rfl, rfl⟩ := h
    refine Or.inr ⟨rfl, fun c hc => ?_, fun lba hlba => ?_, ?_⟩
    · have hsector := hwritten (c.toNat / 256) (by omega)
      simp only [diskFat]
      rw [hsector]
      exact le16_fatSector v.fat c
    · refine hothers lba (Or.inr ?_)
      simp only [VOLUME1_ROOTDIR_LBA, VOLUME1_FAT_LBA, VOLUME1_FAT_SIZE] at hlba ⊢
      omega
    · rw [hframe]

/-- The cache is saved when it counts as not saved. -/
lemma fsSaveFat16Cache_run {v : Volume} (hdisk : VOLUME1_ROOTDIR_LBA ≤ v.gNumberOfSectorsInBootDisk)
    (hflag : v.gFatCacheSaved = FAT_CACHE_NOT_SAVED) : ∃ v', fsSaveFat16Cache v = .ok 0 v' := by
  obtain ⟨w, hsave, -⟩ := saveFatSectors_run hdisk VOLUME1_FAT_SIZE le_rfl
  have hrun : fsSaveFat v = .ok () w := hsave
  refine ⟨{ w with gFatCacheSaved := FAT_CACHE_SAVED }, ?_⟩
  rw [fsSaveFat16Cache, get_bind, if_neg (not_not.2 hflag), bind_of_ok hrun]
  rfl

/-- **`do_reboot` resets the machine** if and only if the call has saved the cache; when it was saved
before, the machine is not reset. -/
lemma doReboot_true_iff {v v' : Volume} :
    doReboot v = .ok true v' ↔ fsSaveFat16Cache v = .ok 0 v' := by
  constructor
  · intro h
    obtain ⟨status, w, hsave, h⟩ := bind_ok_inv h
    simp only [get_bind, pure_run, EStateM.Result.ok.injEq] at h
    obtain ⟨hreset, rfl⟩ := h
    rcases fsSaveFat16Cache_ok_inv hsave with ⟨rfl, -, -⟩ | ⟨rfl, -⟩
    · rw [decide_eq_true (Or.inl (by decide))] at hreset
      cases hreset
    · exact hsave
  · intro h
    rcases fsSaveFat16Cache_ok_inv h with ⟨hstatus, -, -⟩ | ⟨-, -, -, hframe⟩
    · exact absurd hstatus (by decide)
    · have hflag : v'.gFatCacheSaved = FAT_CACHE_SAVED := by rw [hframe]
      rw [doReboot, bind_of_ok h, get_bind, hflag]
      rfl

/-! ## Mounting -/

/-- The first `n` sectors of the FAT are in the cache. -/
def Volume.loadedFat (n : ℕ) (v : Volume) : Volume :=
  { v with fat := fun c => if c.toNat / 256 < n then diskFat v.disk c else v.fat c }

/-- The first `n` sectors of the root directory are in the cache. -/
def Volume.loadedRootdir (n : ℕ) (v : Volume) : Volume :=
  v.setDir VOLUME1_ROOTDIR_ADDRESS fun o =>
    if o / SECTOR_SIZE < n then v.disk (VOLUME1_ROOTDIR_LBA + o / SECTOR_SIZE) (o % SECTOR_SIZE)
    else v.dirs VOLUME1_ROOTDIR_ADDRESS o

lemma loadFatSectors_eq {v : Volume} : ∀ n, VOLUME1_FAT_LBA + n ≤ v.gNumberOfSectorsInBootDisk →
    loadSequentialSectors putFat VOLUME1_FAT_LBA n v = .ok () (v.loadedFat n) := by
  intro n
  induction n with
  | zero =>
      intro _
      simp only [Volume.loadedFat, Nat.not_lt_zero, if_false]
      rfl
  | succ n ih =>
      intro hn
      have hlba : VOLUME1_FAT_LBA + n < (v.loadedFat n).gNumberOfSectorsInBootDisk := hn
      rw [loadSequentialSectors, bind_of_ok (ih (by omega)), bind_of_ok (ataReadSector_of_lt hlba),
        modify_run]
      simp only [putFat, Volume.loadedFat]
      congr 2
      funext c
      by_cases hc : c.toNat / 256 = n
      · rw [if_pos hc, if_pos (by omega), diskFat, hc]
      · rw [if_neg hc]
        exact if_congr (by omega) rfl rfl

lemma loadRootdirSectors_eq {v : Volume} : ∀ n,
    VOLUME1_ROOTDIR_LBA + n ≤ v.gNumberOfSectorsInBootDisk →
    loadSequentialSectors putRootdir VOLUME1_ROOTDIR_LBA n v = .ok () (v.loadedRootdir n) := by
  intro n
  induction n with
  | zero =>
      intro _
      simp only [Volume.loadedRootdir, Nat.not_lt_zero, if_false, Volume.setDir,
        Function.update_eq_self]
      rfl
  | succ n ih =>
      intro hn
      have hlba : VOLUME1_ROOTDIR_LBA + n < (v.loadedRootdir n).gNumberOfSectorsInBootDisk := hn
      rw [loadSequentialSectors, bind_of_ok (ih (by omega)), bind_of_ok (ataReadSector_of_lt hlba),
        modify_run]
      simp only [putRootdir, Volume.loadedRootdir, Volume.setDir, Function.update_idem,
        Function.update_self]
      congr 3
      funext o
      by_cases ho : o / SECTOR_SIZE = n
      · rw [if_pos ho, if_pos (by omega), ho]
      · rw [if_neg ho]
        exact if_congr (by omega) rfl rfl

/-- The boot volume behind `mountBootVolume`. -/
def Volume.mounted (v : Volume) : Volume :=
  Volume.loadedRootdir rootdirSize
    { Volume.loadedFat VOLUME1_FAT_SIZE (fat16Init v) with gFatCacheLoaded := FAT_CACHE_LOADED }

/-- **Mounting the boot volume** loads both caches from the disk. -/
theorem mountBootVolume_eq {v : Volume}
    (hdisk : VOLUME1_ROOTDIR_LBA + rootdirSize ≤ v.gNumberOfSectorsInBootDisk) :
    mountBootVolume v = .ok () v.mounted := by
  have hfat : VOLUME1_FAT_LBA + VOLUME1_FAT_SIZE ≤ (fat16Init v).gNumberOfSectorsInBootDisk := by
    refine le_trans ?_ (le_trans (Nat.le_add_right _ rootdirSize) hdisk)
    decide
  have hload : fsLoadFat (fat16Init v) = .ok ()
      { Volume.loadedFat VOLUME1_FAT_SIZE (fat16Init v) with gFatCacheLoaded := FAT_CACHE_LOADED } := by
    have hcold : FAT_CACHE_NOT_LOADED ≠ FAT_CACHE_LOADED := by decide
    rw [fsLoadFat, get_bind, if_neg (show (fat16Init v).gFatCacheLoaded ≠ _ from hcold),
      bind_of_ok (loadFatSectors_eq VOLUME1_FAT_SIZE hfat)]
    rfl
  rw [mountBootVolume, modify_bind, bind_of_ok hload]
  exact loadRootdirSectors_eq rootdirSize hdisk

end Gramado
