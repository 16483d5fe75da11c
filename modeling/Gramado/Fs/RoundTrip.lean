import Gramado.Fs.LoadFile

/-!
# Saving and loading again

A save writes the sectors of a file to the clusters it takes (`saveDisk_taken`), a load puts the
sectors of a chain one behind the other (`slice_copySectors`).  So a load gives back what was saved,
provided that it finds the new entry: `fsLoadFile` takes the first entry with the name, and
`fsSaveFile` takes the first empty one, whatever names are in front of it.

`save_load` is the exact account.  When no entry in front of the new one has the name, the saved
sectors come back; otherwise the load does what it would have done without the save.
-/

namespace Gramado

open StateFault Cells

/-! ## Sectors in memory -/

lemma dataareaLba_ne {c d : UInt16} (h : c ≠ d) : dataareaLba c ≠ dataareaLba d := by
  intro heq
  apply h
  apply UInt16.toNat_inj.1
  simp only [dataareaLba, VOLUME1_DATAAREA_LBA] at heq
  omega

/-- The walk only writes to the clusters of the list. -/
lemma saveDisk_of_notMem {mem : Memory UInt8} : ∀ {L : List UInt16} {address : ℕ}
    {disk : ℕ → ℕ → UInt8} {c : UInt16}, c ∉ L →
    saveDisk mem L address disk (dataareaLba c) = disk (dataareaLba c)
  | [], _, _, _, _ => rfl
  | d :: L, address, disk, c, hc => by
      obtain ⟨hcd, hcL⟩ := not_or.1 (List.mem_cons.not.1 hc)
      rw [saveDisk, saveDisk_of_notMem hcL, Function.update_of_ne (dataareaLba_ne hcd)]

/-- A sector of memory, as a slice. -/
lemma firstSector_eq_slice (mem : Memory UInt8) (address : ℕ) :
    (readLba.firstSector fun o => mem.cell (address + o)) = mem.slice address SECTOR_SIZE := rfl

/-- **The walk puts the file on the disk**: the sectors of the clusters, in order, are the bytes from
`address` on. -/
lemma saveDisk_taken {mem : Memory UInt8} : ∀ {L : List UInt16} {address : ℕ}
    {disk : ℕ → ℕ → UInt8}, L.Nodup → address + SECTOR_SIZE * L.length ≤ 2 ^ 64 →
    L.flatMap (sectorOf (saveDisk mem L address disk))
      = mem.slice address (SECTOR_SIZE * L.length)
  | [], _, _, _, _ => rfl
  | c :: L, address, disk, hnodup, hrange => by
      obtain ⟨hcL, hL⟩ := List.nodup_cons.1 hnodup
      simp only [List.length_cons, Nat.mul_succ] at hrange
      have hfirst : sectorOf (saveDisk mem (c :: L) address disk) c
          = mem.slice address SECTOR_SIZE := by
        rw [sectorOf, saveDisk, saveDisk_of_notMem hcL, Function.update_self, firstSector_eq_slice]
      have hsplit : SECTOR_SIZE * (c :: L).length = SECTOR_SIZE + SECTOR_SIZE * L.length := by
        rw [List.length_cons, Nat.mul_succ, Nat.add_comm]
      rw [List.flatMap_cons, hfirst, hsplit, Memory.slice_append]
      cases L with
      | nil => rfl
      | cons d L =>
          have hnext : ulongAdd address SECTOR_SIZE = address + SECTOR_SIZE := by
            apply ulongAdd_of_lt
            simp only [List.length_cons, SECTOR_SIZE] at hrange ⊢
            omega
          rw [saveDisk, hnext, saveDisk_taken hL (by omega), Nat.cast_add]

/-- The load leaves the bytes in front of the buffer alone. -/
lemma slice_before_copySectors {disk : ℕ → ℕ → UInt8} : ∀ {C : List UInt16} {buffer : ℕ}
    {mem : Memory UInt8} {p : ℤ} {n : ℕ}, p + n ≤ buffer →
    buffer + SECTOR_SIZE * C.length ≤ 2 ^ 64 →
    (copySectors disk C buffer mem).slice p n = mem.slice p n
  | [], _, _, _, _, _, _ => rfl
  | [c], buffer, mem, p, n, hp, _ => by
      rw [copySectors, copySectors, Memory.slice_store_apart (Or.inl hp)]
  | c :: d :: C, buffer, mem, p, n, hp, hrange => by
      have hnext : ulongAdd buffer SECTOR_SIZE = buffer + SECTOR_SIZE := by
        apply ulongAdd_of_lt
        simp only [List.length_cons, SECTOR_SIZE] at hrange ⊢
        omega
      rw [copySectors, hnext, slice_before_copySectors (by push_cast; omega)
        (by simp only [List.length_cons, Nat.mul_succ] at hrange ⊢; omega),
        Memory.slice_store_apart (Or.inl hp)]

/-- **A load puts the sectors one behind the other.** -/
lemma slice_copySectors {disk : ℕ → ℕ → UInt8} : ∀ {C : List UInt16} {buffer : ℕ}
    {mem : Memory UInt8}, buffer + SECTOR_SIZE * C.length ≤ 2 ^ 64 →
    (copySectors disk C buffer mem).slice buffer (SECTOR_SIZE * C.length)
      = C.flatMap (sectorOf disk)
  | [], _, _, _ => rfl
  | c :: C, buffer, mem, hrange => by
      have hsplit : SECTOR_SIZE * (c :: C).length = SECTOR_SIZE + SECTOR_SIZE * C.length := by
        rw [List.length_cons, Nat.mul_succ, Nat.add_comm]
      have hsame : (mem.store buffer (sectorOf disk c)).slice buffer SECTOR_SIZE
          = sectorOf disk c :=
        Memory.slice_store_same (sectorOf_length disk c)
      rw [hsplit, Memory.slice_append, List.flatMap_cons]
      cases C with
      | nil => rw [copySectors, copySectors, hsame]; rfl
      | cons d C =>
          simp only [List.length_cons, Nat.mul_succ] at hrange
          have hnext : ulongAdd buffer SECTOR_SIZE = buffer + SECTOR_SIZE := by
            apply ulongAdd_of_lt
            simp only [SECTOR_SIZE] at hrange ⊢
            omega
          have hrest : buffer + SECTOR_SIZE + SECTOR_SIZE * (d :: C).length ≤ 2 ^ 64 := by
            simp only [List.length_cons, Nat.mul_succ]
            omega
          rw [copySectors, hnext, slice_before_copySectors (by push_cast; rfl) hrest, hsame,
            ← Nat.cast_add, slice_copySectors hrest]

/-! ## Which entry a load finds -/

/-- An entry in front of the first empty one has the name. -/
def NameInFront (dir name : ℕ → UInt8) : Prop :=
  ∃ j, (∀ i ≤ j, entryByte dir i 0 ≠ 0) ∧ ∀ k < 11, name k = entryByte dir j k

section Saved

variable {D : Set ℕ} {q : SaveArgs} {v v' : Volume} {name : CString} {L : List UInt16}
  {slot : ℕ}

/-- An entry with the eleven bytes of the name passes the loader's test. -/
lemma entryMatches_eleven {dir : ℕ → UInt8} {i : ℕ} (hlength : name.strlen = 11) :
    entryMatches dir name.bytes name.strlen i = true ↔
      ∀ k < 11, name.bytes k = entryByte dir i k := by
  have hend : name.bytes 11 = 0 := hlength ▸ name.strlen_spec
  rw [hlength, entryMatches_iff]
  constructor
  · rintro ⟨-, hsame, -⟩
    exact hsame
  · intro hsame
    have hhead : entryByte dir i 0 ≠ 0 :=
      hsame 0 (by decide) ▸ CString.ne_zero (by rw [hlength]; decide)
    exact ⟨entryHead_ne_zero hhead, hsame, hend⟩

/-- The test of an entry in front of the new one is not affected by the save. -/
lemma Saved.entryMatches_eq (h : Saved q v v' name L slot) (hlength : name.strlen = 11) {j : ℕ}
    (hj : j ≠ slot) :
    entryMatches (v'.dirs q.dirAddress) name.bytes name.strlen j
      = entryMatches (v.dirs q.dirAddress) name.bytes name.strlen j :=
  entryMatches_congr (by omega) fun k hk => h.entryByte_eq (by simp [hj]) hk

/-- When the name is not in front of the new entry, a load finds the new entry. -/
lemma Saved.lookup_new (h : Saved q v v' name L slot) (hlength : name.strlen = 11)
    (hflag : q.flag ≠ 0x10) (hfront : ¬ NameInFront (v.dirs q.dirAddress) name.bytes) :
    v'.lookup q.dirAddress name = some slot := by
  refine findEntry_eq_some_iff.2 ⟨h.slot_lt, ?_, fun j hj => ?_⟩
  · rw [entryMatches_eleven hlength]
    intro k hk
    rw [h.dirs, Function.update_self, dirEntry_name hflag hk]
  · rw [h.entryMatches_eq hlength hj.ne]
    by_contra hmatch
    rw [Bool.not_eq_false, entryMatches_eleven hlength] at hmatch
    exact hfront ⟨j, fun i hi => h.slot_first i (by omega), hmatch⟩

/-- When it is, a load finds the entry that it would have found without the save. -/
lemma Saved.lookup_old (h : Saved q v v' name L slot) (hlength : name.strlen = 11)
    (hfront : NameInFront (v.dirs q.dirAddress) name.bytes) :
    ∃ i, v.lookup q.dirAddress name = some i ∧ v'.lookup q.dirAddress name = some i ∧ i ≠ slot ∧
      i < FAT16_ROOT_ENTRIES ∧ ∀ k < 11, name.bytes k = entryByte (v.dirs q.dirAddress) i k := by
  obtain ⟨j, hused, hsame⟩ := hfront
  have hjslot : j < slot := by
    by_contra hle
    exact hused slot (by omega) h.slot_empty
  have hj : entryMatches (v.dirs q.dirAddress) name.bytes name.strlen j = true :=
    (entryMatches_eleven hlength).2 hsame
  -- the search stops at `j` at the latest
  have hex : ∃ i, entryMatches (v.dirs q.dirAddress) name.bytes name.strlen i = true := ⟨j, hj⟩
  have hle : Nat.find hex ≤ j := Nat.find_min' hex hj
  have hbefore (i : ℕ) (hi : i < Nat.find hex) :
      entryMatches (v.dirs q.dirAddress) name.bytes name.strlen i = false := by
    simpa using Nat.find_min hex hi
  have hslot := h.slot_lt
  have hne : Nat.find hex ≠ slot := by omega
  refine ⟨Nat.find hex, findEntry_eq_some_iff.2 ⟨by omega, Nat.find_spec hex, hbefore⟩,
    findEntry_eq_some_iff.2 ⟨by omega, ?_, fun i hi => ?_⟩, hne, by omega,
    (entryMatches_eleven hlength).1 (Nat.find_spec hex)⟩
  · rw [h.entryMatches_eq hlength hne]
    exact Nat.find_spec hex
  · rw [h.entryMatches_eq hlength (by omega)]
    exact hbefore i hi

/-- The entries of a well-formed volume lead to clusters that the save does not touch. -/
lemma Saved.loadEntry_old (h : Saved q v v' name L slot) (hv : VolumeOk D v) (hL : L ≠ [])
    (hd : q.dirAddress ∈ D) {r : LoadArgs} (hdir : r.dirAddress = q.dirAddress) {i : ℕ}
    (hi : i < FAT16_ROOT_ENTRIES) (hne : i ≠ slot) (huse : InUse (v.dirs q.dirAddress) i)
    (fuel : ℕ) :
    let x : VolumeM (Option ℕ) := fun u => loadEntry fuel r u (some i)
    outcome x v' = outcome x v ∧ (after x v').mem = (after x v).mem := by
  intro x
  have hpair : (q.dirAddress, i) ≠ (q.dirAddress, slot) := by simp [hne]
  have hcluster := h.entryCluster_eq hpair
  have hsize : entryFileSize (v'.dirs q.dirAddress) i = entryFileSize (v.dirs q.dirAddress) i := by
    rw [entryFileSize, entryFileSize, h.entryByte_eq hpair (by omega),
      h.entryByte_eq hpair (by omega), h.entryByte_eq hpair (by omega),
      h.entryByte_eq hpair (by omega)]
  have hmem : v'.mem = v.mem := by rw [h.frame]
  obtain ⟨C, hC⟩ := hv.chains q.dirAddress hd i hi huse
  simp only [x, outcome, after, loadEntry, hdir, hcluster, hsize]
  split_ifs with hgiveup
  · exact ⟨rfl, hmem⟩
  · have hfirst : entryCluster (v.dirs q.dirAddress) i ≠ 0 := by tauto
    obtain ⟨hnonempty, hchain⟩ := hC.chain hfirst
    have hC' := h.oldChain hL hC
    exact loadClusters_congr hv.fatbits ((hv.saved h hL).fatbits) hnonempty hchain
      (fun c hc => ⟨hC.inVolume hc, hC'.inVolume hc⟩)
      (fun c hc => ⟨h.fat_eq hL (hC.not_free hc), by
        have hdata := (hC.inVolume hc).data
        rw [h.dataarea _ (by simp only [dataareaLba, VOLUME1_DATAAREA_LBA]; omega),
          saveDisk_of_notMem fun hcL => hC.not_free hc (h.free c hcL)]⟩) hmem

/-- Loading the new entry copies what was saved. -/
lemma Saved.load_new (h : Saved q v v' name L slot) (hv : VolumeOk D v) (hL : L ≠ [])
    (hcontent : q.fileAddress + SECTOR_SIZE * q.fileSize ≤ 2 ^ 64) {r : LoadArgs}
    (hdir : r.dirAddress = q.dirAddress) (hlimit : q.sizeInBytes % 2 ^ 32 < r.limit)
    (hrange : r.buffer + SECTOR_SIZE * q.fileSize ≤ 2 ^ 64)
    (hvalid : ∀ k < q.fileSize, checkAddressValidation (sectorAddress r.buffer k) = TRUE)
    {fuel : ℕ} (hfuel : q.fileSize ≤ fuel) :
    ∃ v'', loadEntry fuel r v' (some slot) = .ok (some 0) v'' ∧
      v''.mem.slice r.buffer (SECTOR_SIZE * q.fileSize)
        = v.mem.slice q.fileAddress (SECTOR_SIZE * q.fileSize) := by
  have hlength := h.length
  have hmem : v'.mem = v.mem := by rw [h.frame]
  have hpos : 0 < L.length := List.length_pos_of_ne_nil hL
  have hmax := h.fileSize_le
  have hnew := h.newChain hL
  have hok := hv.saved h hL
  have hfirst : InVolume v' (entryCluster (v'.dirs q.dirAddress) slot) := by
    apply hnew.firstInVolume
    rw [h.newCluster]
    cases L with
    | nil => exact absurd rfl hL
    | cons c L => exact (h.inVolume (List.mem_cons_self ..)).ne_zero
  obtain ⟨-, hchain⟩ := hnew.chain hfirst.ne_zero
  have hsize : ¬ entryFileSize (v'.dirs q.dirAddress) slot ≥ r.limit := by
    rw [h.dirs, Function.update_self, dirEntry_fileSize]
    split_ifs <;> omega
  have hlow : ¬ entryCluster (v'.dirs q.dirAddress) slot > 0xFFF0 := by
    intro hgt
    have hlt := hfirst.fat
    have hgt' := UInt16.lt_iff_toNat_lt.1 hgt
    have hconst : (0xFFF0 : UInt16).toNat = 0xFFF0 := rfl
    simp only [VOLUME1_FAT_SIZE] at hlt
    omega
  have hbuffer : r.buffer < 2 ^ 64 := by
    simp only [SECTOR_SIZE] at hrange
    omega
  refine ⟨{ v' with mem := copySectors v'.disk L r.buffer v'.mem }, ?_, ?_⟩
  · simp only [loadEntry, hdir]
    rw [if_neg (by simp only [hsize, hfirst.ne_zero, hlow, or_self, not_false_iff])]
    exact loadClusters_all hok.fatbits hbuffer hL hchain (fun c hc => h.inVolume hc) (by omega)
      (by simp only [maxFileSizeInSectors] at hmax; simp only [IMAGESIZE_LIMIT_IN_KB]; omega)
      fun k hk => hvalid k (by omega)
  · rw [← hlength] at hrange hcontent ⊢
    have hdata : L.flatMap (sectorOf v'.disk)
        = L.flatMap (sectorOf (saveDisk v.mem L q.fileAddress v.disk)) := by
      apply List.flatMap_congr
      intro c hc
      have hlba := (h.inVolume hc).data
      rw [sectorOf, sectorOf,
        h.dataarea _ (by simp only [dataareaLba, VOLUME1_DATAAREA_LBA]; omega)]
    rw [slice_copySectors hrange, hdata, saveDisk_taken h.nodup hcontent]

/-- **The save is not seen** by a load that finds an entry in front of the new one. -/
lemma Saved.load_unseen (h : Saved q v v' name L slot) (hv : VolumeOk D v) (hL : L ≠ [])
    (hd : q.dirAddress ∈ D) (hlength : name.strlen = 11) (hdeleted : name.bytes 0 ≠ 0xE5)
    {r : LoadArgs} (hr : loadPanic r v.root = none) (hrname : r.fileName = some name)
    (hrdir : r.dirAddress = q.dirAddress)
    (hfront : NameInFront (v.dirs q.dirAddress) name.bytes) (fuel : ℕ) :
    outcome (fsLoadFile fuel r) v' = outcome (fsLoadFile fuel r) v ∧
      (after (fsLoadFile fuel r) v').mem = (after (fsLoadFile fuel r) v).mem := by
  have hr' : loadPanic r v'.root = none := by rw [h.frame]; exact hr
  have hload := fsLoadFile_eq hv.cachesLoaded hr hrname h.name_ne hlength.le fuel
  have hload' :=
    fsLoadFile_eq (hv.saved h hL).cachesLoaded hr' hrname h.name_ne hlength.le fuel
  obtain ⟨i, hi, hi', hne, hlt, hsame⟩ := h.lookup_old hlength hfront
  have huse : InUse (v.dirs q.dirAddress) i := by
    rw [InUse, ← hsame 0 (by decide)]
    exact ⟨h.name_ne, hdeleted⟩
  simp only [outcome, after, hload, hload', hrdir, hi, hi']
  exact h.loadEntry_old hv hL hd hrdir hlt hne huse fuel

end Saved

/-! ## The round trip -/

/-- **Saving and loading again.**  A file of 1 to 16 sectors is saved under an eleven-character name,
and the name is loaded from the same directory.  If no entry in front of the first empty one has the
name, the load copies exactly the saved sectors, provided that they fit.  If one has, the load ends as
it would have ended without the save, and copies the same bytes. -/
theorem save_load (D : Set ℕ) (q : SaveArgs) (v v' : Volume) (name : CString) (r : LoadArgs)
    (hv : VolumeOk D v) (hd : q.dirAddress ∈ D) (hname : q.fileName = some name)
    (hlength : name.strlen = 11) (hdeleted : name.bytes 0 ≠ 0xE5) (hfile : q.flag ≠ 0x10)
    (hsize : q.fileSize ≠ 0) (hcontent : q.fileAddress + SECTOR_SIZE * q.fileSize ≤ 2 ^ 64)
    (hsave : fsSaveFile q v = .ok 0 v')
    (hr : loadPanic r v.root = none) (hrname : r.fileName = some name)
    (hrdir : r.dirAddress = q.dirAddress) :
    (¬ NameInFront (v.dirs q.dirAddress) name.bytes →
      q.sizeInBytes % 2 ^ 32 < r.limit → r.buffer + SECTOR_SIZE * q.fileSize ≤ 2 ^ 64 →
      (∀ k < q.fileSize, checkAddressValidation (sectorAddress r.buffer k) = TRUE) →
      ∀ fuel ≥ q.fileSize, ∃ v'', fsLoadFile fuel r v' = .ok (some 0) v'' ∧
        v''.mem.slice r.buffer (SECTOR_SIZE * q.fileSize)
          = v.mem.slice q.fileAddress (SECTOR_SIZE * q.fileSize)) ∧
    (NameInFront (v.dirs q.dirAddress) name.bytes →
      ∀ fuel, outcome (fsLoadFile fuel r) v' = outcome (fsLoadFile fuel r) v ∧
        (after (fsLoadFile fuel r) v').mem = (after (fsLoadFile fuel r) v).mem) := by
  obtain ⟨name', L, slot, h⟩ := fsSaveFile_ok_inv hv.fatLoaded hv.rootdir hsave
  obtain rfl : name' = name := Option.some.inj (h.fileName.symm.trans hname)
  have hL : L ≠ [] := by
    rintro rfl
    exact hsize h.length.symm
  constructor
  · intro hfront hlimit hrange hvalid fuel hfuel
    have hr' : loadPanic r v'.root = none := by rw [h.frame]; exact hr
    rw [fsLoadFile_eq (hv.saved h hL).cachesLoaded hr' hrname h.name_ne hlength.le, hrdir,
      h.lookup_new hlength hfile hfront]
    exact h.load_new hv hL hcontent hrdir hlimit hrange hvalid hfuel
  · intro hfront fuel
    exact h.load_unseen hv hL hd hlength hdeleted hr hrname hrdir hfront fuel

lemma fileTxt_strlen : fileTxt.strlen = 11 := (Nat.find_eq_iff _).2 ⟨rfl, by decide⟩

/-- Two sectors saved on an empty volume come back. -/
theorem save_load_twoSectors : ∃ v' v'', fsSaveFile (saveFileTxt 2) emptyVolume = .ok 0 v' ∧
    fsLoadFile 2 ⟨VOLUME1_FAT_ADDRESS, VOLUME1_ROOTDIR_ADDRESS, 512, some fileTxt, 0x30110048, 4096⟩
      v' = .ok (some 0) v'' ∧
    v''.mem.slice 0x30110048 1024 = emptyVolume.mem.slice 0x30100048 1024 := by
  obtain ⟨v', hsave⟩ := emptyVolume_save (n := 2) (by decide)
  have hfront : ¬ NameInFront (emptyVolume.dirs VOLUME1_ROOTDIR_ADDRESS) fileTxt.bytes := by
    rintro ⟨j, hused, -⟩
    exact hused j le_rfl rfl
  obtain ⟨v'', hload, hslice⟩ := (save_load {VOLUME1_ROOTDIR_ADDRESS} (saveFileTxt 2) emptyVolume v'
    fileTxt
    ⟨VOLUME1_FAT_ADDRESS, VOLUME1_ROOTDIR_ADDRESS, 512, some fileTxt, 0x30110048, 4096⟩
    (emptyVolume_ok _) rfl rfl fileTxt_strlen (by decide) (by decide) (by decide) (by decide) hsave
    (by decide) rfl rfl).1 hfront (by decide) (by decide) (by decide) 2 le_rfl
  exact ⟨v', v'', hsave, hload, hslice⟩

/-- A root directory with one file, `FILE    TXT`. -/
def oneFileDir : ℕ → UInt8 := putEntry 0 (dirEntry fileTxt.bytes 0x20 3 512) fun _ => 0

/-- A volume with that file, whose only sector is filled with zeros, and a memory filled with ones. -/
def oneFileVolume : Volume :=
  { emptyVolume with
    dirs := fun _ => oneFileDir
    disk := fun lba o =>
      if VOLUME1_ROOTDIR_LBA ≤ lba ∧ lba < VOLUME1_DATAAREA_LBA then
        oneFileDir (SECTOR_SIZE * (lba - VOLUME1_ROOTDIR_LBA) + o)
      else 0
    fat := Function.update (fun _ => 0) 3 0xFFF8
    mem := ⟨fun _ => 1, []⟩ }

/-- The load of `FILE    TXT` into a buffer of 4096 bytes. -/
def loadFileTxt : LoadArgs :=
  ⟨VOLUME1_FAT_ADDRESS, VOLUME1_ROOTDIR_ADDRESS, 512, some fileTxt, 0x30110048, 4096⟩

lemma oneFileVolume_empty {i : ℕ} (hi : i ≠ 0) : entryByte oneFileDir i 0 = 0 :=
  putEntry_of_ne hi (by decide)

lemma oneFileVolume_cluster : entryCluster oneFileDir 0 = 3 := dirEntry_cluster

lemma oneFileVolume_rootdir : RootdirCached rootdirSize oneFileVolume := by
  intro o ho
  have hlba : VOLUME1_ROOTDIR_LBA ≤ VOLUME1_ROOTDIR_LBA + o / SECTOR_SIZE ∧
      VOLUME1_ROOTDIR_LBA + o / SECTOR_SIZE < VOLUME1_DATAAREA_LBA := by
    simp only [SECTOR_SIZE, rootdirSize, VOLUME1_ROOTDIR_LBA, VOLUME1_DATAAREA_LBA] at ho ⊢
    omega
  simp only [oneFileVolume]
  rw [if_pos hlba, Nat.add_sub_cancel_left, Nat.div_add_mod]

lemma oneFileVolume_inVolume : InVolume oneFileVolume 3 := by
  constructor <;> decide

lemma oneFileVolume_chain : Chain (nextCluster oneFileVolume.fat) EndMark 3 [3] := by
  exact ⟨rfl, by decide, 0xFFF8, by decide, Or.inr rfl⟩

lemma oneFileVolume_ok : VolumeOk {VOLUME1_ROOTDIR_ADDRESS} oneFileVolume where
  fatbits := rfl
  fatLoaded := rfl
  rootdir := oneFileVolume_rootdir
  rootdirOnDisk := by decide
  chains := by
    intro d _ i _ huse
    by_cases hi : i = 0
    · subst hi
      refine ⟨[3], Or.inr ⟨by decide, ?_, ?_⟩⟩
      · exact oneFileVolume_cluster.symm ▸ oneFileVolume_chain
      · intro c hc
        rw [List.mem_singleton.1 hc]
        exact oneFileVolume_inVolume
    · exact absurd (oneFileVolume_empty hi) huse.1
  disjoint := by
    intro d hd i _ d' hd' j _ hne howns howns'
    have hzero {k : ℕ} (h : InUse oneFileDir k) : k = 0 := by
      by_contra hk
      exact h.1 (oneFileVolume_empty hk)
    refine absurd ?_ hne
    rw [Set.mem_singleton_iff.1 hd, Set.mem_singleton_iff.1 hd', hzero howns.1, hzero howns'.1]

lemma oneFileVolume_save : ∃ v', fsSaveFile (saveFileTxt 1) oneFileVolume = .ok 0 v' := by
  have hslot : findEmptyDirectoryEntry (oneFileVolume.dirs VOLUME1_ROOTDIR_ADDRESS)
      (FAT16_ROOT_ENTRIES : ℤ).toNat = some 1 := by
    refine findEmptyDirectoryEntry_eq_some_iff.2 ⟨by decide, oneFileVolume_empty (by decide), ?_⟩
    intro j hj
    obtain rfl : j = 0 := by omega
    decide
  have hcount (n : ℕ) : 1 < freeClusters (n + 1 + 1 + 1) 3 oneFileVolume.fat := by
    rw [freeClusters_succ, freeClusters_succ, freeClusters_succ, if_pos (by decide),
      if_pos (by decide)]
    omega
  have hfree : 1 < freeClusters CLUSTERS_TO_SAVE_MAX 3 oneFileVolume.fat := hcount 32765
  have hentries : (0 : ℤ) < FAT16_ROOT_ENTRIES ∧ (FAT16_ROOT_ENTRIES : ℤ) ≤ FAT16_ROOT_ENTRIES := by
    decide
  have haddress : VOLUME1_ROOTDIR_ADDRESS ≠ 0 := by decide
  refine fsSaveFile_run rfl oneFileVolume_rootdir (by decide) rfl haddress rfl (by decide)
    hentries (by decide) hfree ?_ hslot
  intro c hc _
  have hlimit : oneFileVolume.gNumberOfSectorsInBootDisk = 65536 := rfl
  rw [hlimit]
  simp only [dataareaLba, VOLUME1_DATAAREA_LBA, CLUSTERS_TO_SAVE_MAX] at hc ⊢
  omega

lemma oneFileVolume_load : fsLoadFile 1 loadFileTxt oneFileVolume
    = .ok (some 0) { oneFileVolume with
        mem := copySectors oneFileVolume.disk [3] loadFileTxt.buffer oneFileVolume.mem } := by
  have hlookup : oneFileVolume.lookup VOLUME1_ROOTDIR_ADDRESS fileTxt = some 0 := by
    refine findEntry_eq_some_iff.2 ⟨by decide, ?_, fun j hj => absurd hj (by omega)⟩
    exact (entryMatches_eleven fileTxt_strlen).2 (by decide)
  rw [fsLoadFile_eq oneFileVolume_ok.cachesLoaded (by decide) rfl (by decide) fileTxt_strlen.le]
  show loadEntry 1 loadFileTxt oneFileVolume
    (oneFileVolume.lookup VOLUME1_ROOTDIR_ADDRESS fileTxt) = _
  rw [hlookup]
  simp only [loadEntry]
  rw [if_neg (by decide)]
  refine loadClusters_all rfl (by decide) (by decide) ?_ ?_ (by decide) (by decide) (by decide)
  · exact oneFileVolume_cluster.symm ▸ oneFileVolume_chain
  · intro c hc
    rw [List.mem_singleton.1 hc]
    exact oneFileVolume_inVolume

/-- **A save does not replace a file of the same name**: the old content is loaded. -/
theorem save_load_fails : ¬ ∀ (q : SaveArgs) (v v' v'' : Volume) (name : CString) (r : LoadArgs)
    (fuel : ℕ), VolumeOk {VOLUME1_ROOTDIR_ADDRESS} v → q.dirAddress = VOLUME1_ROOTDIR_ADDRESS →
    q.fileName = some name → name.strlen = 11 → q.flag ≠ 0x10 → q.fileSize ≠ 0 →
    fsSaveFile q v = .ok 0 v' → r.fileName = some name → r.dirAddress = q.dirAddress →
    fsLoadFile fuel r v' = .ok (some 0) v'' →
    v''.mem.slice r.buffer (SECTOR_SIZE * q.fileSize)
      = v.mem.slice q.fileAddress (SECTOR_SIZE * q.fileSize) := by
  intro hall
  obtain ⟨v', hsave⟩ := oneFileVolume_save
  obtain ⟨name, L, slot, h⟩ := fsSaveFile_ok_inv rfl oneFileVolume_rootdir hsave
  obtain rfl : fileTxt = name := Option.some.inj h.fileName
  have hL : L ≠ [] := by
    rintro rfl
    exact absurd h.length (by decide)
  have hfront : NameInFront oneFileDir fileTxt.bytes := by
    refine ⟨0, fun i hi => ?_, by decide⟩
    obtain rfl : i = 0 := by omega
    decide
  obtain ⟨hsame, hmem⟩ := h.load_unseen oneFileVolume_ok hL rfl fileTxt_strlen (by decide)
    (r := loadFileTxt) (by decide) rfl rfl hfront 1
  rw [outcome_of_ok oneFileVolume_load] at hsame
  rw [after_of_ok oneFileVolume_load] at hmem
  have hload := run_of_outcome hsame
  have hslice := hall (saveFileTxt 1) oneFileVolume v' _ fileTxt loadFileTxt 1 oneFileVolume_ok rfl
    rfl fileTxt_strlen (by decide) (by decide) hsave rfl rfl hload
  rw [hmem] at hslice
  have hrange : loadFileTxt.buffer + SECTOR_SIZE * [(3 : UInt16)].length ≤ 2 ^ 64 := by decide
  have hzeros := @slice_copySectors oneFileVolume.disk _ _ oneFileVolume.mem hrange
  have hsector := hzeros.symm.trans hslice
  rw [List.flatMap_cons, List.flatMap_nil, List.append_nil] at hsector
  have hfirst := congrArg (fun bytes => bytes[0]?) hsector
  simp only [sectorOf, readLba.firstSector, Memory.slice, List.getElem?_map] at hfirst
  rw [List.getElem?_range (by decide), List.getElem?_range (by decide)] at hfirst
  exact absurd hfirst (by decide)

end Gramado
