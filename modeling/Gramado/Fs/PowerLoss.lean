import Gramado.Fs.FileStore

/-!
# Losing power

Between two calls the machine loses what is not on the disk: the cached FAT, the cached directories, the
memory.  It starts again and mounts the boot volume (`Volume.restarted`, `mountBootVolume`).  A save has
written the sectors of the file and the root directory; the FAT is on the disk as it was when it was saved
last.

* `fsSaveFile_frame` — a save writes nothing in front of the root directory, so the FAT of the disk is
  only changed by `fs_save_fat16_cache`.
* `fatSaved_survives` — the files of the root directory that were there when the FAT was saved are there
  after any run of calls, a loss of power and a mount.
* `unsaved_file_panics` — a file saved after that is not: it is still found in the root directory, and a
  load of it panics.
-/

namespace Gramado

open StateFault Cells Simulation

/-- The machine after a reset: the disk is what it was, the rest is whatever `ram` holds, up to the type
of the volume, which `keInitGlobals` sets. -/
def Volume.restarted (v ram : Volume) : Volume :=
  { ram with
    disk := v.disk
    gNumberOfSectorsInBootDisk := v.gNumberOfSectorsInBootDisk
    gCurrentvolumeFatbits := 16 }

/-! ## What a save writes -/

/-- The sectors in front of the root directory are left alone. -/
def KeepsLow (v v' : Volume) : Prop := ∀ lba < VOLUME1_ROOTDIR_LBA, v'.disk lba = v.disk lba

section KeepsLow

lemma KeepsLow.refl (v : Volume) : KeepsLow v v := fun _ _ => rfl

lemma KeepsLow.trans (v v' v'' : Volume) (h : KeepsLow v v') (h' : KeepsLow v' v'') : KeepsLow v v'' :=
  fun lba hlba => (h' lba hlba).trans (h lba hlba)

lemma ataReadSector_frame (lba : ℕ) : Frame KeepsLow (ataReadSector lba) := by
  refine .bind KeepsLow.trans (.get KeepsLow.refl) fun v => ?_
  exact .ite (.throw KeepsLow.refl _) (.ite (.throw KeepsLow.refl _) (.pure KeepsLow.refl _))

/-- A write behind the beginning of the root directory. -/
lemma ataWriteSector_frame (bytes : ℕ → UInt8) {lba : ℕ} (hlba : VOLUME1_ROOTDIR_LBA ≤ lba) :
    Frame KeepsLow (ataWriteSector bytes lba) := by
  refine .bind KeepsLow.trans (.get KeepsLow.refl) fun v => ?_
  refine .ite (.throw KeepsLow.refl _) (.ite (.throw KeepsLow.refl _) (.modify fun w low hlow => ?_))
  exact Function.update_of_ne (by omega) _ _

lemma loadSequentialSectors_frame (put : ℕ → (ℕ → UInt8) → Volume → Volume)
    (hput : ∀ i bytes v, (put i bytes v).disk = v.disk) (lba : ℕ) :
    ∀ n, Frame KeepsLow (loadSequentialSectors put lba n)
  | 0 => .pure KeepsLow.refl _
  | n + 1 => by
      refine .bind KeepsLow.trans (loadSequentialSectors_frame put hput lba n) fun _ => ?_
      refine .bind KeepsLow.trans (ataReadSector_frame _) fun bytes => .modify fun v low _ => ?_
      rw [hput]

lemma fsLoadFat_frame : Frame KeepsLow fsLoadFat := by
  have hload := loadSequentialSectors_frame putFat (fun _ _ _ => rfl) VOLUME1_FAT_LBA VOLUME1_FAT_SIZE
  refine .bind KeepsLow.trans (.get KeepsLow.refl) fun v => ?_
  exact .ite (.pure KeepsLow.refl _) (.bind KeepsLow.trans hload fun _ => .modify fun _ _ _ => rfl)

lemma saveRootdirSectors_frame : ∀ n, Frame KeepsLow (saveRootdirSectors n)
  | 0 => .pure KeepsLow.refl _
  | n + 1 => by
      refine .bind KeepsLow.trans (saveRootdirSectors_frame n) fun _ => ?_
      exact .bind KeepsLow.trans (.get KeepsLow.refl) fun v =>
        ataWriteSector_frame _ (Nat.le_add_right _ n)

lemma findClusters_frame : ∀ (n c : ℕ) (j : ℤ) (fileSize : ℕ),
    Frame KeepsLow (findClusters n c j fileSize)
  | 0, _, _, _ => .pure KeepsLow.refl _
  | n + 1, c, j, fileSize => by
      refine .bind KeepsLow.trans (.get KeepsLow.refl) fun v => ?_
      refine .ite (.ite ?_ ?_) (findClusters_frame n (c + 1) j fileSize)
      · exact .bind KeepsLow.trans (.modify fun _ _ _ => rfl) fun _ => .pure KeepsLow.refl _
      · exact .bind KeepsLow.trans (.modify fun _ _ _ => rfl) fun _ =>
          findClusters_frame n (c + 1) (j + 1) (fileSize - 1)

/-- Every cluster, even one that is none, has its sector behind the beginning of the root directory. -/
lemma rootdirLba_le (c : UInt16) : VOLUME1_ROOTDIR_LBA ≤ dataareaLba c := by
  simp only [dataareaLba, VOLUME1_DATAAREA_LBA, VOLUME1_ROOTDIR_LBA]
  omega

lemma saveClusters_frame : ∀ (n : ℕ) (i : ℤ) (address : ℕ), Frame KeepsLow (saveClusters n i address)
  | 0, _, _ => .pure KeepsLow.refl _
  | n + 1, i, address => by
      refine .bind KeepsLow.trans (.get KeepsLow.refl) fun v => ?_
      refine .ite (.bind KeepsLow.trans (.modify fun _ _ _ => rfl) fun _ => .pure KeepsLow.refl _) ?_
      refine .bind KeepsLow.trans (.modify fun _ _ _ => rfl) fun _ => ?_
      exact .bind KeepsLow.trans (ataWriteSector_frame _ (rootdirLba_le _)) fun _ =>
        saveClusters_frame n (i + 1) (ulongAdd address SECTOR_SIZE)

/-- **A save writes nothing in front of the root directory**, however it ends. -/
lemma fsSaveFile_frame (q : SaveArgs) : Frame KeepsLow (fsSaveFile q) := by
  have hfound (name : CString) : Frame KeepsLow (saveFound name q) := by
    refine .bind KeepsLow.trans (.get KeepsLow.refl) fun v => ?_
    dsimp only
    cases findEmptyDirectoryEntry (v.dirs q.dirAddress) q.dirEntries.toNat with
    | none => exact .pure KeepsLow.refl _
    | some slot =>
        refine .bind KeepsLow.trans (.modify fun _ _ _ => rfl) fun _ => ?_
        refine .bind KeepsLow.trans (saveClusters_frame _ _ _) fun stored => .ite ?_ (.pure KeepsLow.refl _)
        refine .bind KeepsLow.trans (saveRootdirSectors_frame rootdirSize) fun _ => ?_
        exact .bind KeepsLow.trans (.modify fun _ _ _ => rfl) fun _ => .pure KeepsLow.refl _
  unfold fsSaveFile
  refine .ite (.throw KeepsLow.refl _) (.ite (.throw KeepsLow.refl _) (.ite (.throw KeepsLow.refl _) ?_))
  cases q.fileName with
  | none => exact .pure KeepsLow.refl _
  | some name =>
      refine .ite (.pure KeepsLow.refl _) (.ite (.throw KeepsLow.refl _) (.ite (.pure KeepsLow.refl _) ?_))
      have hroot : Frame KeepsLow fsLoadRootdir :=
        loadSequentialSectors_frame putRootdir (fun _ _ _ => rfl) _ _
      refine .bind KeepsLow.trans hroot fun _ => ?_
      refine .bind KeepsLow.trans fsLoadFat_frame fun _ => ?_
      exact .bind KeepsLow.trans (findClusters_frame _ _ _ _) fun found =>
        .ite (hfound name) (.pure KeepsLow.refl _)

end KeepsLow

/-! ## The FAT of the disk -/

section Crash

variable {D : Set ℕ} {v₀ v v' : Volume} {st : Store} {e : VolumeCall D × ℤ}

/-- The FAT of the disk has the words of `v₀` that are not free. -/
def FatOnDisk (v₀ v : Volume) : Prop :=
  ∀ c : UInt16, c.toNat < 256 * VOLUME1_FAT_SIZE → v₀.fat c ≠ 0 → diskFat v.disk c = v₀.fat c

/-- What does not write in front of the root directory leaves the FAT of the disk alone. -/
lemma KeepsLow.diskFat_eq (h : KeepsLow v v') {c : UInt16} (hc : c.toNat < 256 * VOLUME1_FAT_SIZE) :
    diskFat v'.disk c = diskFat v.disk c := by
  have hlba := fatLba_lt (i := c.toNat / 256) (by omega)
  rw [diskFat, diskFat, h _ hlba]

/-- **What a call does**: the volume stays well-formed and is extended, and the FAT of the disk is left
alone, unless the call saves it. -/
lemma VolumeStep.extends (hR : Refines D v st) (h : VolumeStep v e v') :
    (∃ st', Refines D v' st') ∧ VolumeExtends v v' ∧
      (KeepsLow v v' ∨ e = (.saveFat, 0) ∧
        ∀ c : UInt16, c.toNat < 256 * VOLUME1_FAT_SIZE → diskFat v'.disk c = v.fat c) := by
  obtain ⟨st', -, hR'⟩ := volumeStep_simulates v e v' st hR h
  refine ⟨⟨st', hR'⟩, ?_⟩
  obtain ⟨call, status⟩ := e
  cases call with
  | save c =>
      refine ⟨?_, Or.inl ((fsSaveFile_frame c.args).of_ok h)⟩
      rcases SaveCall.ends hR.ok h with ⟨-, L, slot, hL, hs⟩ | ⟨-, list, rfl⟩
      · exact hs.extends hL
      · exact .of_same rfl rfl (fun _ _ => rfl) rfl
  | load c =>
      obtain ⟨fuel, k, -, hload⟩ := h
      rcases LoadCall.ends hR.ok.cachesLoaded (hR.files _ c.dir c.key) hload with
        ⟨-, rfl, -⟩ | ⟨-, f, -, -, -, hframe, -⟩
      · exact ⟨VolumeExtends.refl v', Or.inl (KeepsLow.refl v')⟩
      · rw [hframe]
        exact ⟨.of_same rfl rfl (fun _ _ => rfl) rfl, Or.inl fun _ _ => rfl⟩
  | write p bytes =>
      obtain ⟨-, rfl⟩ := h
      exact ⟨.of_same rfl rfl (fun _ _ => rfl) rfl, Or.inl fun _ _ => rfl⟩
  | saveFat =>
      refine ⟨(fsSaveFat16Cache_refines hR h).2, ?_⟩
      rcases fsSaveFat16Cache_ok_inv h with ⟨-, rfl, -⟩ | ⟨rfl, hfat, -, -⟩
      · exact Or.inl (KeepsLow.refl v')
      · exact Or.inr ⟨rfl, hfat⟩

/-- What holds after every run behind a save of the FAT. -/
structure Behind (D : Set ℕ) (v₀ v : Volume) : Prop where
  refines : ∃ st, Refines D v st
  extended : VolumeExtends v₀ v
  onDisk : FatOnDisk v₀ v

lemma Behind.step (hJ : Behind D v₀ v) (h : VolumeStep v e v') : Behind D v₀ v' := by
  obtain ⟨st, hR⟩ := hJ.refines
  obtain ⟨hR', hext, hdisk⟩ := VolumeStep.extends hR h
  refine ⟨hR', hJ.extended.trans hext, fun c hc hused => ?_⟩
  rcases hdisk with hlow | ⟨-, hsaved⟩
  · rw [hlow.diskFat_eq hc, hJ.onDisk c hc hused]
  · rw [hsaved c hc, hJ.extended.fat c hused]

/-- A save of the FAT that reports success puts all of it on the disk. -/
lemma behind_saved (hR : Refines D v₀ st) (h : fsSaveFat16Cache v₀ = .ok 0 v) : Behind D v₀ v := by
  obtain ⟨hR', hext⟩ := fsSaveFat16Cache_refines hR h
  rcases fsSaveFat16Cache_ok_inv h with ⟨hstatus, -, -⟩ | ⟨-, hfat, -, -⟩
  · exact absurd hstatus (by decide)
  · exact ⟨⟨st, hR'⟩, hext, fun c hc _ => hfat c hc⟩

/-! ## After the loss -/

/-- The volume behind the reset and the mount. -/
def Volume.remounted (v ram : Volume) : Volume := (v.restarted ram).mounted

variable {ram : Volume} {i : ℕ} {name : List UInt8} {file : StoredFile}

lemma remounted_cachesLoaded (ram : Volume)
    (hdisk : VOLUME1_ROOTDIR_LBA + rootdirSize ≤ v.gNumberOfSectorsInBootDisk) :
    CachesLoaded (v.remounted ram) where
  fatbits := rfl
  fatLoaded := rfl
  rootdir := by
    intro o ho
    have hin : o / SECTOR_SIZE < rootdirSize := Nat.div_lt_of_lt_mul ho
    simp only [Volume.remounted, Volume.mounted, Volume.loadedRootdir, Volume.setDir,
      Function.update_self, if_pos hin]
  rootdirOnDisk := hdisk

/-- The FAT is the one of the disk. -/
lemma remounted_fat {c : UInt16} (hc : c.toNat < 256 * VOLUME1_FAT_SIZE) :
    (v.remounted ram).fat c = diskFat v.disk c :=
  if_pos (by omega)

/-- The entries of the root directory are the cached ones. -/
lemma remounted_entryByte (hcached : RootdirCached rootdirSize v) (hi : i < FAT16_ROOT_ENTRIES) {k : ℕ}
    (hk : k < 32) : entryByte ((v.remounted ram).dirs VOLUME1_ROOTDIR_ADDRESS) i k
      = entryByte (v.dirs VOLUME1_ROOTDIR_ADDRESS) i k := by
  have ho : FAT16_ENTRY_SIZE * i + k < SECTOR_SIZE * rootdirSize := by
    simp only [FAT16_ENTRY_SIZE, SECTOR_SIZE, rootdirSize, FAT16_ROOT_ENTRIES] at hi ⊢
    omega
  have hin : (FAT16_ENTRY_SIZE * i + k) / SECTOR_SIZE < rootdirSize := Nat.div_lt_of_lt_mul ho
  simp only [Volume.remounted, Volume.mounted, Volume.loadedRootdir, Volume.setDir, entryByte,
    Function.update_self, if_pos hin]
  exact (hcached _ ho).symm

/-- An entry of the root directory that was in use on a volume that this one extends. -/
lemma remounted_entry (ram : Volume) (hcached : RootdirCached rootdirSize v) (hext : VolumeExtends v₀ v)
    (hi : i < FAT16_ROOT_ENTRIES) (hused : entryByte (v₀.dirs VOLUME1_ROOTDIR_ADDRESS) i 0 ≠ 0) :
    entryCluster ((v.remounted ram).dirs VOLUME1_ROOTDIR_ADDRESS) i
        = entryCluster (v₀.dirs VOLUME1_ROOTDIR_ADDRESS) i ∧
      entryFileSize ((v.remounted ram).dirs VOLUME1_ROOTDIR_ADDRESS) i
        = entryFileSize (v₀.dirs VOLUME1_ROOTDIR_ADDRESS) i := by
  have hbyte {k : ℕ} (hk : k < 32) :
      entryByte ((v.remounted ram).dirs VOLUME1_ROOTDIR_ADDRESS) i k
        = entryByte (v₀.dirs VOLUME1_ROOTDIR_ADDRESS) i k :=
    (remounted_entryByte hcached hi hk).trans (hext.entries _ i hused k hk)
  constructor
  · rw [entryCluster, entryCluster, hbyte (by decide), hbyte (by decide)]
  · rw [entryFileSize, entryFileSize, hbyte (by decide), hbyte (by decide), hbyte (by decide),
      hbyte (by decide)]

/-- A cluster of a volume that this one extends. -/
lemma remounted_inVolume (hext : VolumeExtends v₀ v) {c : UInt16} (hc : InVolume v₀ c) :
    InVolume (v.remounted ram) c := by
  refine ⟨hc.data, hc.fat, ?_⟩
  show dataareaLba c < v.gNumberOfSectorsInBootDisk
  rw [hext.size]
  exact hc.disk

/-- The searches of the root directory find what they found before the loss. -/
lemma remounted_firstNamed (ram : Volume) (hcached : RootdirCached rootdirSize v)
    (h : firstNamed (v.dirs VOLUME1_ROOTDIR_ADDRESS) name = some i) :
    firstNamed ((v.remounted ram).dirs VOLUME1_ROOTDIR_ADDRESS) name = some i := by
  have hsame {j : ℕ} (hj : j < FAT16_ROOT_ENTRIES) :
      Named ((v.remounted ram).dirs VOLUME1_ROOTDIR_ADDRESS) name j ↔
        Named (v.dirs VOLUME1_ROOTDIR_ADDRESS) name j := by
    have hname : entryName ((v.remounted ram).dirs VOLUME1_ROOTDIR_ADDRESS) j
        = entryName (v.dirs VOLUME1_ROOTDIR_ADDRESS) j :=
      nameKey_eq_iff.2 fun k hk => remounted_entryByte hcached hj (by omega)
    rw [Named, Named, InUse, InUse, hname, remounted_entryByte hcached hj (by decide)]
  obtain ⟨hlt, hnamed, hfirst⟩ := firstNamed_eq_some_iff.1 h
  exact firstNamed_eq_some_iff.2
    ⟨hlt, (hsame hlt).2 hnamed, fun j hj hmatch => hfirst j hj ((hsame (hj.trans hlt)).1 hmatch)⟩

/-- A file whose words of the FAT are on the disk is stored behind the loss. -/
lemma Behind.holds (hJ : Behind D v₀ v)
    (hpacked : Packed (v₀.dirs VOLUME1_ROOTDIR_ADDRESS))
    (hfile : FileHeld v₀ VOLUME1_ROOTDIR_ADDRESS name (some file)) :
    FileHeld (v.remounted ram) VOLUME1_ROOTDIR_ADDRESS name (some file) := by
  obtain ⟨st, hR⟩ := hJ.refines
  rcases hfile with ⟨-, hnone⟩ | ⟨i, f, hi, hf, C, hC, hf'⟩
  · cases hnone
  obtain rfl : file = f := Option.some.inj hf
  obtain ⟨hlt, ⟨huse, -⟩, -⟩ := firstNamed_eq_some_iff.1 hi
  have hi' := hJ.extended.firstNamed hpacked hi
  obtain ⟨hcluster, hsize⟩ := remounted_entry ram hR.ok.rootdir hJ.extended hlt huse.1
  refine Or.inr ⟨i, _, remounted_firstNamed ram hR.ok.rootdir hi', rfl, C, ?_, ?_⟩
  · -- the words of the chain are on the disk
    rw [hcluster]
    rcases hC with hnone | ⟨hne, hchain, hin⟩
    · exact Or.inl hnone
    · refine Or.inr ⟨hne, hchain.congr fun c hc => ?_,
        fun c hc => remounted_inVolume hJ.extended (hin c hc)⟩
      have hused := chain_not_free hchain (fun x hx => (hin x hx).ne_zero) c hc
      rw [nextCluster, nextCluster, remounted_fat (hin c hc).fat, hJ.onDisk c (hin c hc).fat hused]
  · have hbytes : C.flatMap (sectorOf (v.remounted ram).disk) = C.flatMap (sectorOf v₀.disk) :=
      List.flatMap_congr fun c hc => hJ.extended.data c (hC.not_free hc) (hC.inVolume hc).data
    rw [hbytes, hsize]
    exact hf'

/-- What holds as long as the FAT is not saved: the disk has the words `fat`, and the volume extends
`base`. -/
structure Unsaved (D : Set ℕ) (fat : UInt16 → UInt16) (base v : Volume) : Prop where
  refines : ∃ st, Refines D v st
  extended : VolumeExtends base v
  onDisk : ∀ c : UInt16, c.toNat < 256 * VOLUME1_FAT_SIZE → diskFat v.disk c = fat c

lemma Unsaved.step {fat : UInt16 → UInt16} {base : Volume} (hJ : Unsaved D fat base v)
    (hnot : e ≠ (.saveFat, 0)) (h : VolumeStep v e v') : Unsaved D fat base v' := by
  obtain ⟨st, hR⟩ := hJ.refines
  obtain ⟨hR', hext, hdisk⟩ := VolumeStep.extends hR h
  refine ⟨hR', hJ.extended.trans hext, fun c hc => ?_⟩
  rcases hdisk with hlow | ⟨hsaved, -⟩
  · rw [hlow.diskFat_eq hc, hJ.onDisk c hc]
  · exact absurd hsaved hnot

/-- A load along a first cluster that the FAT has as a free one panics. -/
lemma loadClusters_free {c : UInt16} (hbits : v.gCurrentvolumeFatbits = 16) (hc : InVolume v c)
    (hfree : v.fat c = 0) (fuel buffer nreads : ℕ) :
    ∃ f w, loadClusters (fuel + 2) buffer c nreads v = .error f w := by
  rw [loadClusters_step hbits hc, hfree]
  by_cases hvalid : checkAddressValidation buffer ≠ TRUE
  · rw [if_pos hvalid]
    exact ⟨_, _, rfl⟩
  rw [if_neg hvalid, if_neg (by decide), if_neg (by decide), loadClusters]
  by_cases hvalid' : checkAddressValidation (ulongAdd buffer SECTOR_SIZE) ≠ TRUE
  · rw [if_pos hvalid']
    exact ⟨_, _, rfl⟩
  · rw [if_neg hvalid', if_pos (Or.inl rfl)]
    exact ⟨_, _, rfl⟩

/-- **What was saved since then does not.**  The FAT is saved, a file is saved in the root directory under a
new name, and the FAT is not saved again before the power is lost.  The file is still found after the
mount, and every load of it that gets to its clusters panics. -/
theorem unsaved_file_panics (D : Set ℕ) (v₀ v₁ v₂ v₃ v₄ ram : Volume) (st : Store)
    (es es' : List (VolumeCall D × ℤ)) (c : SaveCall D) (r : LoadCall D) (fuel : ℕ)
    (hR : Refines D v₀ st) (hfat : fsSaveFat16Cache v₀ = .ok 0 v₁) (hrun : Trace VolumeStep v₁ es v₂)
    (hnot : ∀ e ∈ es, e ≠ (.saveFat, 0)) (hdir : c.args.dirAddress = VOLUME1_ROOTDIR_ADDRESS)
    (hnew : firstNamed (v₂.dirs VOLUME1_ROOTDIR_ADDRESS) c.key = none)
    (hsave : fsSaveFile c.args v₂ = .ok 0 v₃) (hrun' : Trace VolumeStep v₃ es' v₄)
    (hnot' : ∀ e ∈ es', e ≠ (.saveFat, 0)) (hdir' : r.args.dirAddress = VOLUME1_ROOTDIR_ADDRESS)
    (hkey : r.key = c.key) (hsize : (c.file v₂.mem.cell).size < r.args.limit)
    (haccepted : loadPanic r.args (some ⟨TRUE, 1234, VOLUME1_SPC, FAT16_ROOT_ENTRIES⟩) = none) :
    ∃ w, mountBootVolume (v₄.restarted ram) = .ok () w ∧
      (∃ i, w.lookup VOLUME1_ROOTDIR_ADDRESS r.name.toCString = some i) ∧
      ∃ f w', fsLoadFile (fuel + 2) r.args w = .error f w' := by
  have hsaved : Unsaved D v₀.fat v₀ v₁ := by
    obtain ⟨hR₁, hext⟩ := fsSaveFat16Cache_refines hR hfat
    rcases fsSaveFat16Cache_ok_inv hfat with ⟨hstatus, -, -⟩ | ⟨-, hdisk, -, -⟩
    · exact absurd hstatus (by decide)
    · exact ⟨⟨st, hR₁⟩, hext, hdisk⟩
  have hbefore : Unsaved D v₀.fat v₀ v₂ :=
    hrun.keep_of (fun _ _ _ hne hJ hstep => hJ.step hne hstep) hnot hsaved
  obtain ⟨st₂, hR₂⟩ := hbefore.refines
  rcases SaveCall.ends hR₂.ok hsave with ⟨-, L, slot, hL, hs⟩ | ⟨hstatus, -⟩
  swap
  · exact absurd hstatus (by decide)
  have hat : Unsaved D v₀.fat v₃ v₃ := by
    have hstep : VolumeStep v₂ (.save c, 0) v₃ := hsave
    have hsince := hbefore.step (by simp) hstep
    exact ⟨hsince.refines, VolumeExtends.refl v₃, hsince.onDisk⟩
  have hend : Unsaved D v₀.fat v₃ v₄ :=
    hrun'.keep_of (fun _ _ _ hne hJ hstep => hJ.step hne hstep) hnot' hat
  obtain ⟨st₄, hR₄⟩ := hend.refines
  -- the first cluster was free when the FAT was saved
  cases L with
  | nil => exact absurd rfl hL
  | cons first L =>
      have hin := hs.inVolume (List.mem_cons_self ..)
      have hword : diskFat v₄.disk first = 0 := by
        rw [hend.onDisk first hin.fat]
        by_contra hused
        have hkept := hbefore.extended.fat first hused
        rw [hs.free first (List.mem_cons_self ..)] at hkept
        exact hused hkept.symm
      have hslot : firstNamed (v₃.dirs VOLUME1_ROOTDIR_ADDRESS) c.key = some slot := by
        rw [← hdir] at hnew ⊢
        exact hs.firstNamed_new hnew
      have huse := (firstNamed_eq_some_iff.1 hslot).2.1.1
      have hpacked : Packed (v₃.dirs VOLUME1_ROOTDIR_ADDRESS) :=
        hs.packed (hR₂.packed _ (hdir ▸ c.dir))
      have hfound := remounted_firstNamed ram hR₄.ok.rootdir (hend.extended.firstNamed hpacked hslot)
      obtain ⟨hcluster, hentrySize⟩ :=
        remounted_entry ram hR₄.ok.rootdir hend.extended hs.slot_lt huse.1
      have hnewCluster : entryCluster (v₃.dirs VOLUME1_ROOTDIR_ADDRESS) slot = first :=
        hdir ▸ hs.newCluster
      have hnewSize : entryFileSize (v₃.dirs VOLUME1_ROOTDIR_ADDRESS) slot
          = (c.file v₂.mem.cell).size := by
        rw [← hdir, hs.dirs, Function.update_self, dirEntry_fileSize]
        rfl
      have hinw : InVolume (v₄.remounted ram) first := remounted_inVolume hend.extended hin
      have hlookup : (v₄.remounted ram).lookup VOLUME1_ROOTDIR_ADDRESS r.name.toCString = some slot := by
        rw [r.name.lookup_eq, ← firstNamed_key, show nameKey r.name.bytes = r.key from rfl, hkey]
        exact hfound
      refine ⟨v₄.remounted ram, mountBootVolume_eq hR₄.ok.rootdirOnDisk, ⟨slot, hlookup⟩, ?_⟩
      have hcaches := remounted_cachesLoaded ram hR₄.ok.rootdirOnDisk
      rw [fsLoadFile_eq hcaches haccepted r.fileName r.name.head_ne_zero r.name.length.le, hdir', hlookup]
      simp only [loadEntry, hdir', hcluster, hnewCluster, hentrySize, hnewSize]
      rw [if_neg (not_or.2 ⟨not_le.2 hsize, hinw.le_max⟩)]
      refine loadClusters_free hcaches.fatbits hinw ?_ fuel _ 0
      rw [remounted_fat hin.fat, hword]

end Crash

/-! ## A loss on a fresh volume -/

/-- A formatted volume whose FAT counts as not saved. -/
def freshVolume : Volume := { emptyVolume with gFatCacheSaved := FAT_CACHE_NOT_SAVED }

lemma freshVolume_refines :
    Refines {VOLUME1_ROOTDIR_ADDRESS} freshVolume ⟨fun _ _ => none, fun _ => 0⟩ :=
  emptyVolume_refines.of_same (emptyVolume_refines.ok.of_same rfl rfl (fun _ _ => rfl) rfl rfl rfl) rfl
    (.of_same rfl rfl (fun _ _ => rfl) rfl) rfl rfl

/-- The file of `saveTwo` on a volume with the caches of the fresh one. -/
lemma freshVolume_save {v : Volume} (hcached : RootdirCached rootdirSize v)
    (hframe : v = { freshVolume with disk := v.disk, gFatCacheSaved := v.gFatCacheSaved }) :
    ∃ v', fsSaveFile saveTwo.args v = .ok 0 v' := by
  have hfat : v.fat = fun _ => 0 := by rw [hframe]; rfl
  have hdirs : v.dirs = fun _ _ => 0 := by rw [hframe]; rfl
  have hsectors : v.gNumberOfSectorsInBootDisk = 65536 := by rw [hframe]; rfl
  have hloaded : v.gFatCacheLoaded = FAT_CACHE_LOADED := by rw [hframe]; rfl
  have hslot : findEmptyDirectoryEntry (v.dirs saveTwo.args.dirAddress)
      saveTwo.args.dirEntries.toNat = some 0 := by
    rw [hdirs]
    exact findEmptyDirectoryEntry_eq_some_iff.2 ⟨by decide, rfl, fun j hj => absurd hj (by omega)⟩
  have hcount : freeClusters CLUSTERS_TO_SAVE_MAX 3 v.fat = CLUSTERS_TO_SAVE_MAX := by
    rw [hfat, freeClusters, List.countP_eq_length.2, List.length_range]
    exact fun _ _ => rfl
  refine fsSaveFile_run hloaded hcached (by rw [hsectors]; decide) rfl (by decide) saveTwo.fileName
    (by decide) (by decide) (by decide) (by rw [hcount]; decide) (fun c hc _ => ?_) hslot
  rw [hsectors]
  simp only [dataareaLba, VOLUME1_DATAAREA_LBA, CLUSTERS_TO_SAVE_MAX] at hc ⊢
  omega

/-- The FAT is saved and then the file: it is lost, and a load of it panics. -/
theorem unsaved_file_panics_two : ∃ v₃ : Volume, ∀ (ram : Volume) (fuel : ℕ),
    ∃ w, mountBootVolume (v₃.restarted ram) = .ok () w ∧
      (∃ i, w.lookup VOLUME1_ROOTDIR_ADDRESS loadTwo.name.toCString = some i) ∧
      ∃ f w', fsLoadFile (fuel + 2) loadTwo.args w = .error f w' := by
  obtain ⟨v₁, hfat⟩ := fsSaveFat16Cache_run (v := freshVolume) (by decide) rfl
  have hR := (fsSaveFat16Cache_refines freshVolume_refines hfat).1
  have hframe : v₁ = { freshVolume with disk := v₁.disk, gFatCacheSaved := v₁.gFatCacheSaved } := by
    rcases fsSaveFat16Cache_ok_inv hfat with ⟨hstatus, -, -⟩ | ⟨-, -, -, hframe⟩
    · exact absurd hstatus (by decide)
    · rw [hframe]
  obtain ⟨v₃, hsave⟩ := freshVolume_save hR.ok.rootdir hframe
  have hnew : firstNamed (v₁.dirs VOLUME1_ROOTDIR_ADDRESS) saveTwo.key = none := by
    rw [hframe]
    exact emptyVolume_unnamed VOLUME1_ROOTDIR_ADDRESS saveTwo.key
  have hsize : (saveTwo.file v₁.mem.cell).size < loadTwo.args.limit := by
    show 1024 % 2 ^ 32 < 4096 % 2 ^ 32
    decide
  refine ⟨v₃, fun ram fuel => ?_⟩
  exact unsaved_file_panics {VOLUME1_ROOTDIR_ADDRESS} freshVolume v₁ v₁ v₃ v₃ ram _ [] [] saveTwo loadTwo
    fuel freshVolume_refines hfat (.nil v₁) (by simp) rfl hnew hsave (.nil v₃) (by simp) rfl (by decide)
    hsize (by decide)

end Gramado
