import Gramado.Fs.OpenFile
import Gramado.Fs.RoundTrip
import Gramado.Mm.HeapInvariant

/-!
# Where a load writes

`fsLoadFile` copies whole sectors as long as the FAT leads on; what it compares with the limit is the
size in the directory entry.

* `LoadsWithin` — **what a caller relies on**: however far the load gets, it only writes to the bytes
  of its destination.
* `CanCopy` — the loop gets to copy its `j`-th sector: the address is not refused and the FAT has led
  to a cluster that is on the disk.
* `loadsWithin_iff` — the exact condition, for every volume with its caches loaded.
* `openForLoad_loads_inv` — what `do_read_file_from_disk` has done when it calls the loader.
* `SizesMatch` — a file has as many clusters as its size needs.  On such a volume the buffer that the
  opener takes fits exactly when the size rounded up to sectors is no more than eight bytes larger
  than the size, or the file is shorter than `BUFSIZ`.
-/

namespace Gramado

open StateFault Cells Memory

/-! ## The loop -/

/-- The cluster the FAT leads to after `j` steps. -/
def clusterAt (fat : UInt16 → UInt16) (first : UInt16) (j : ℕ) : UInt16 := fat^[j] first

/-- **The loop can copy its `j`-th sector**: its address is not refused, and the cluster is neither
a mark nor zero and is on the disk. -/
structure CanCopy (v : Volume) (buffer : ℕ) (first : UInt16) (j : ℕ) : Prop where
  address : checkAddressValidation (sectorAddress buffer j) = TRUE
  cluster : ¬ (clusterAt v.fat first j = 0 ∨ clusterAt v.fat first j > 0xFFF0)
  disk : dataareaLba (clusterAt v.fat first j) < v.gNumberOfSectorsInBootDisk

section Loop

variable {v v' : Volume} {buffer m : ℕ} {first : UInt16} {disk : ℕ → ℕ → UInt8} {lo hi : ℤ}

lemma clusterAt_succ (fat : UInt16 → UInt16) (first : UInt16) (j : ℕ) :
    clusterAt fat first (j + 1) = clusterAt fat (fat first) j :=
  Function.iterate_succ_apply ..

/-- The condition of a sector, one step further on. -/
lemma canCopy_succ_iff {j : ℕ} : CanCopy v buffer first (j + 1) ↔
    CanCopy v (ulongAdd buffer SECTOR_SIZE) (v.fat first) j := by
  constructor
  · rintro ⟨haddress, hcluster, hdisk⟩
    rw [sectorAddress_succ] at haddress
    rw [clusterAt_succ] at hcluster hdisk
    exact ⟨haddress, hcluster, hdisk⟩
  · rintro ⟨haddress, hcluster, hdisk⟩
    rw [← sectorAddress_succ] at haddress
    rw [← clusterAt_succ] at hcluster hdisk
    exact ⟨haddress, hcluster, hdisk⟩

/-- The first `m` clusters that the FAT leads to. -/
def clustersFrom (fat : UInt16 → UInt16) (first : UInt16) (m : ℕ) : List UInt16 :=
  (List.range m).map (clusterAt fat first)

lemma clustersFrom_succ (fat : UInt16 → UInt16) (first : UInt16) (m : ℕ) :
    clustersFrom fat first (m + 1) = first :: clustersFrom fat (fat first) m := by
  rw [clustersFrom, List.range_succ_eq_map, List.map_cons, List.map_map]
  rfl

/-- **How far the loop gets** on any volume: it copies its first `m` sectors and stops because it may
not copy more or because it cannot copy the next one. -/
structure Reached (v v' : Volume) (fuel buffer : ℕ) (first : UInt16) (m : ℕ) : Prop where
  le_fuel : m ≤ fuel
  copied : ∀ j < m, CanCopy v buffer first j
  stopped : m < fuel → ¬ CanCopy v buffer first m
  state : v' = { v with mem := copySectors v.disk (clustersFrom v.fat first m) buffer v.mem }

lemma Reached.stop {fuel : ℕ} (h : ¬ CanCopy v buffer first 0) : Reached v v fuel buffer first 0 :=
  ⟨Nat.zero_le _, fun _ hj => absurd hj (Nat.not_lt_zero _), fun _ => h, rfl⟩

/-- One sector is copied, and the loop does not get to the next one. -/
lemma Reached.one {fuel : ℕ} (hfirst : CanCopy v buffer first 0)
    (hnext : ¬ CanCopy v buffer first 1) :
    Reached v (v.copySector buffer first) (fuel + 1) buffer first 1 := by
  refine ⟨Nat.succ_le_succ (Nat.zero_le _), fun j hj => ?_, fun _ => hnext, rfl⟩
  obtain rfl : j = 0 := by omega
  exact hfirst

/-- One sector is copied, and the loop goes on. -/
lemma Reached.succ {fuel : ℕ} (hfirst : CanCopy v buffer first 0)
    (hrest : Reached (v.copySector buffer first) v' fuel (ulongAdd buffer SECTOR_SIZE) (v.fat first) m) :
    Reached v v' (fuel + 1) buffer first (m + 1) := by
  refine ⟨Nat.succ_le_succ hrest.le_fuel, fun j hj => ?_, fun hm hnext => ?_, ?_⟩
  · cases j with
    | zero => exact hfirst
    | succ j =>
        obtain ⟨haddress, hcluster, hdisk⟩ := hrest.copied j (by omega)
        exact canCopy_succ_iff.2 ⟨haddress, hcluster, hdisk⟩
  · obtain ⟨haddress, hcluster, hdisk⟩ := canCopy_succ_iff.1 hnext
    exact hrest.stopped (by omega) ⟨haddress, hcluster, hdisk⟩
  · rw [hrest.state, clustersFrom_succ]
    rfl

/-- A mark, or a word that is none of the loop's clusters, ends the copying. -/
lemma not_canCopy_one (h : v.fat first = 0xFFF7 ∨ v.fat first = 0xFFFF ∨ v.fat first = 0xFFF8) :
    ¬ CanCopy v buffer first 1 := by
  intro hnext
  refine hnext.cluster (Or.inr ?_)
  rw [clusterAt_succ]
  show v.fat first > 0xFFF0
  rcases h with h | h | h <;> rw [h] <;> decide

/-- **A turn that copies its sector.** -/
lemma loadClusters_turn (hbits : v.gCurrentvolumeFatbits = 16) (hbuffer : buffer < 2 ^ 64)
    (hfirst : CanCopy v buffer first 0) (fuel nreads : ℕ) :
    loadClusters (fuel + 1) buffer first nreads v
      = if v.fat first = 0xFFF7 then
          .error (.panic "fsLoadFile: Bad cluster\n") (v.copySector buffer first)
        else if EndMark (v.fat first) then
          if (nreads + 1) / 2 > IMAGESIZE_LIMIT_IN_KB then
            .error (.panic "fsLoadFile: nreads\n") (v.copySector buffer first)
          else .ok (some 0) (v.copySector buffer first)
        else loadClusters fuel (ulongAdd buffer SECTOR_SIZE) (v.fat first) (nreads + 1)
          (v.copySector buffer first) := by
  have hvalid : ¬ checkAddressValidation buffer ≠ TRUE := by
    rw [not_not, ← hfirst.address, sectorAddress_zero hbuffer]
  have hcluster : ¬ (first = 0 ∨ first > 0xFFF0) := hfirst.cluster
  have hdisk : dataareaLba first < v.gNumberOfSectorsInBootDisk := hfirst.disk
  have hread : readLba buffer (dataareaLba first) v = .ok () (v.copySector buffer first) := by
    simp only [readLba, get_bind]
    rw [if_neg (by rw [hbits]; decide), if_pos hbits, bind_of_ok (ataReadSector_of_lt hdisk)]
    rfl
  have hfat : (v.copySector buffer first).fat first = v.fat first := rfl
  simp only [loadClusters]
  rw [if_neg hvalid, if_neg hcluster, bind_of_ok hread, get_bind]
  simp only [ite_run, throw_run, pure_run, hfat, EndMark]
  rfl

/-- A turn that cannot copy its sector panics. -/
lemma loadClusters_stop (hbits : v.gCurrentvolumeFatbits = 16) (hbuffer : buffer < 2 ^ 64)
    (hfirst : ¬ CanCopy v buffer first 0) (fuel nreads : ℕ) :
    ∃ e, loadClusters (fuel + 1) buffer first nreads v = .error e v := by
  simp only [loadClusters]
  by_cases hvalid : checkAddressValidation buffer ≠ TRUE
  · exact ⟨_, by rw [if_pos hvalid, throw_run]⟩
  by_cases hcluster : first = 0 ∨ first > 0xFFF0
  · exact ⟨_, by rw [if_neg hvalid, if_pos hcluster, throw_run]⟩
  have hdisk : ¬ dataareaLba first < v.gNumberOfSectorsInBootDisk := fun hdisk =>
    hfirst ⟨by rw [sectorAddress_zero hbuffer]; exact not_not.1 hvalid, hcluster, hdisk⟩
  have hread : ∃ e, readLba buffer (dataareaLba first) v = .error e v := by
    simp only [readLba, get_bind]
    rw [if_neg (by rw [hbits]; decide), if_pos hbits]
    by_cases hnone : v.gNumberOfSectorsInBootDisk = 0
    · refine ⟨.panic "ataReadSector: gNumberOfSectorsInBootDisk\n", bind_of_error ?_⟩
      simp only [ataReadSector, get_bind]
      rw [if_pos hnone, throw_run]
    · refine ⟨.panic "ataReadSector: lba limits\n", bind_of_error ?_⟩
      simp only [ataReadSector, get_bind]
      rw [if_neg hnone, if_pos (not_lt.1 hdisk), throw_run]
  obtain ⟨e, hread⟩ := hread
  exact ⟨e, by rw [if_neg hvalid, if_neg hcluster, bind_of_error hread]⟩

/-- **The loop, on any FAT16 volume.** -/
lemma loadClusters_reached : ∀ (fuel : ℕ) {buffer : ℕ} (nreads : ℕ) {first : UInt16} {v : Volume},
    v.gCurrentvolumeFatbits = 16 → buffer < 2 ^ 64 →
    ∃ m, Reached v (after (loadClusters fuel buffer first nreads) v) fuel buffer first m
  | 0, _, _, _, _, _, _ =>
      ⟨0, le_rfl, fun _ hj => absurd hj (Nat.not_lt_zero _), fun h => absurd h (Nat.lt_irrefl 0), rfl⟩
  | fuel + 1, buffer, nreads, first, v, hbits, hbuffer => by
      by_cases hfirst : CanCopy v buffer first 0
      swap
      · obtain ⟨e, hstep⟩ := loadClusters_stop hbits hbuffer hfirst fuel nreads
        rw [after_of_error hstep]
        exact ⟨0, Reached.stop hfirst⟩
      have hstep := loadClusters_turn hbits hbuffer hfirst fuel nreads
      by_cases hbad : v.fat first = 0xFFF7
      · rw [if_pos hbad] at hstep
        rw [after_of_error hstep]
        exact ⟨1, Reached.one hfirst (not_canCopy_one (Or.inl hbad))⟩
      by_cases hmark : EndMark (v.fat first)
      · rw [if_neg hbad, if_pos hmark] at hstep
        have hafter : after (loadClusters (fuel + 1) buffer first nreads) v
            = v.copySector buffer first := by
          split_ifs at hstep
          · exact after_of_error hstep
          · exact after_of_ok hstep
        rw [hafter]
        exact ⟨1, Reached.one hfirst (not_canCopy_one (Or.inr hmark))⟩
      · rw [if_neg hbad, if_neg hmark] at hstep
        obtain ⟨m, hm⟩ := @loadClusters_reached fuel (ulongAdd buffer SECTOR_SIZE) (nreads + 1)
          (v.fat first) (v.copySector buffer first) hbits (ulongAdd_lt buffer SECTOR_SIZE)
        have hafter : after (loadClusters (fuel + 1) buffer first nreads) v
            = after (loadClusters fuel (ulongAdd buffer SECTOR_SIZE) (v.fat first) (nreads + 1))
              (v.copySector buffer first) := by
          simp only [after, hstep]
        rw [hafter]
        exact ⟨m + 1, hm.succ hfirst⟩

/-! ## The ranges of the sectors -/

lemma copySectors_usesWithin : ∀ {C : List UInt16} {buffer : ℕ} {mem : Memory UInt8},
    buffer < 2 ^ 64 →
    (∀ k < C.length, lo ≤ sectorAddress buffer k ∧ sectorAddress buffer k + 512 ≤ hi) →
    UsesWithin mem (copySectors disk C buffer mem) lo hi
  | [], _, mem, _, _ => UsesWithin.refl mem
  | c :: C, buffer, mem, hbuffer, hbounds => by
      have hfirst := hbounds 0 (Nat.succ_pos _)
      rw [sectorAddress_zero hbuffer] at hfirst
      have hlength : ((sectorOf disk c).length : ℤ) = 512 := by
        rw [sectorOf_length, SECTOR_SIZE]
        rfl
      refine (usesWithin_store hfirst.1 (by rw [hlength]; exact hfirst.2)).trans
        (copySectors_usesWithin (ulongAdd_lt buffer SECTOR_SIZE) fun k hk => ?_)
      rw [← sectorAddress_succ]
      exact hbounds (k + 1) (Nat.succ_lt_succ hk)

/-- Every sector is among the ranges used. -/
lemma copySectors_touched : ∀ (C : List UInt16) {buffer : ℕ} (mem : Memory UInt8), buffer < 2 ^ 64 →
    ∃ new, (copySectors disk C buffer mem).touched = new ++ mem.touched ∧
      ∀ k < C.length, ((sectorAddress buffer k : ℤ), 512) ∈ new
  | [], _, _, _ => ⟨[], rfl, fun _ hk => absurd hk (Nat.not_lt_zero _)⟩
  | c :: C, buffer, mem, hbuffer => by
      obtain ⟨new, htouched, hmem⟩ := copySectors_touched C (mem.store buffer (sectorOf disk c))
        (ulongAdd_lt buffer SECTOR_SIZE)
      refine ⟨new ++ [((buffer : ℤ), 512)], ?_, fun k hk => ?_⟩
      · rw [copySectors, htouched, store_touched, sectorOf_length, SECTOR_SIZE, List.append_assoc,
          List.singleton_append]
      · cases k with
        | zero =>
            rw [sectorAddress_zero hbuffer]
            exact List.mem_append_right _ (List.mem_singleton_self _)
        | succ k =>
            rw [sectorAddress_succ]
            exact List.mem_append_left _ (hmem k (Nat.lt_of_succ_lt_succ hk))

/-- A loop whose sectors all lie in the destination stays in it, and conversely. -/
lemma Reached.usesWithin_iff {fuel : ℕ} (h : Reached v v' fuel buffer first m)
    (hbuffer : buffer < 2 ^ 64) : UsesWithin v.mem v'.mem lo hi ↔
      ∀ k < m, lo ≤ sectorAddress buffer k ∧ sectorAddress buffer k + 512 ≤ hi := by
  have hlength : (clustersFrom v.fat first m).length = m := by
    rw [clustersFrom, List.length_map, List.length_range]
  have hmem : v'.mem = copySectors v.disk (clustersFrom v.fat first m) buffer v.mem := by
    rw [h.state]
  rw [hmem]
  constructor
  · intro huses k hk
    obtain ⟨new, htouched, hin⟩ := @copySectors_touched v.disk
      (clustersFrom v.fat first m) buffer v.mem hbuffer
    exact huses.mem htouched (hin k (by rwa [hlength]))
  · intro hbounds
    refine copySectors_usesWithin hbuffer fun k hk => hbounds k ?_
    rwa [hlength] at hk

end Loop

/-! ## The call -/

/-- **What a caller relies on**: however far the load gets, it only writes to the bytes of its
destination. -/
def LoadsWithin (r : LoadArgs) (v : Volume) : Prop :=
  ∀ fuel, UsesWithin v.mem (after (fsLoadFile fuel r) v).mem r.buffer
    (r.buffer + r.bufferSizeInBytes)

/-- The checks of the call pass, and it goes on to copy the entry `i`. -/
structure GoesOn (r : LoadArgs) (v : Volume) (i : ℕ) : Prop where
  accepted : loadPanic r v.root = none
  found : ∃ name, r.fileName = some name ∧ name.bytes 0 ≠ 0 ∧ name.strlen ≤ 11 ∧
    v.lookup r.dirAddress name = some i
  size : entryFileSize (v.dirs r.dirAddress) i < r.limit

/-- **The sectors fit**: each sector that the loop can copy, as it can copy all those in front of it,
ends within the destination. -/
def LoadFits (r : LoadArgs) (v : Volume) : Prop :=
  ∀ i, GoesOn r v i → ∀ k,
    (∀ j ≤ k, CanCopy v r.buffer (entryCluster (v.dirs r.dirAddress) i) j) →
      SECTOR_SIZE * (k + 1) ≤ r.bufferSizeInBytes

section Call

variable {v : Volume} {r : LoadArgs} {i k : ℕ}

/-- A call that does not go on to copy leaves the volume as it is: it panics at a check, or gives
up. -/
lemma fsLoadFile_gives_up (hv : CachesLoaded v) (hnone : ∀ i, ¬ GoesOn r v i) (fuel : ℕ) :
    fsLoadFile fuel r v
      = (loadPanic r v.root).elim (.ok (some 1) v) fun message => .error (.panic message) v := by
  cases hpanic : loadPanic r v.root with
  | some message =>
      simp only [fsLoadFile, get_bind, hpanic, Option.elim_some]
      rfl
  | none =>
      rw [Option.elim_none]
      cases hfile : r.fileName with
      | none => simp only [fsLoadFile, get_bind, hpanic, hfile, pure_run]
      | some name =>
          by_cases hempty : name.bytes 0 = 0
          · simp only [fsLoadFile, get_bind, hpanic, hfile]
            rw [if_pos hempty, pure_run]
          by_cases hlong : name.strlen > 11
          · simp only [fsLoadFile, get_bind, hpanic, hfile]
            rw [if_neg hempty, if_pos hlong, pure_run]
          have heq := fsLoadFile_eq hv hpanic hfile hempty (not_lt.1 hlong) fuel
          cases hlookup : v.lookup r.dirAddress name with
          | none =>
              rw [hlookup] at heq
              exact heq
          | some i =>
              have hlarge : entryFileSize (v.dirs r.dirAddress) i ≥ r.limit := by
                by_contra hsize
                exact hnone i ⟨hpanic, ⟨name, hfile, hempty, not_lt.1 hlong, hlookup⟩,
                  not_le.1 hsize⟩
              rw [hlookup] at heq
              rw [heq, loadEntry]
              exact if_pos (Or.inl hlarge)

/-- A call that goes on copies from the first cluster of its entry on, unless that is none. -/
lemma GoesOn.load_eq (hv : CachesLoaded v) (hgoes : GoesOn r v i) (fuel : ℕ) :
    fsLoadFile fuel r v =
      if entryCluster (v.dirs r.dirAddress) i = 0 ∨ entryCluster (v.dirs r.dirAddress) i > 0xFFF0 then
        .ok (some 1) v
      else loadClusters fuel r.buffer (entryCluster (v.dirs r.dirAddress) i) 0 v := by
  obtain ⟨hpanic, ⟨name, hfile, hempty, hlength, hlookup⟩, hsize⟩ := hgoes
  have heq := fsLoadFile_eq hv hpanic hfile hempty hlength fuel
  rw [heq, hlookup, loadEntry]
  split_ifs with hgiveup hcluster hcluster
  · rfl
  · exact absurd (hgiveup.resolve_left (not_le.2 hsize)) hcluster
  · exact absurd (Or.inr hcluster) hgiveup
  · rfl

/-- A call that goes on copies the sectors it can copy. -/
lemma fsLoadFile_reached (hv : CachesLoaded v) (hgoes : GoesOn r v i) (hbuffer : r.buffer < 2 ^ 64)
    (fuel : ℕ) : ∃ m, Reached v (after (fsLoadFile fuel r) v) fuel r.buffer
      (entryCluster (v.dirs r.dirAddress) i) m := by
  have heq := hgoes.load_eq hv fuel
  by_cases hcluster : entryCluster (v.dirs r.dirAddress) i = 0 ∨
      entryCluster (v.dirs r.dirAddress) i > 0xFFF0
  · rw [if_pos hcluster] at heq
    rw [after_of_ok heq]
    exact ⟨0, Reached.stop fun h => h.cluster hcluster⟩
  · rw [if_neg hcluster] at heq
    have hafter : after (fsLoadFile fuel r) v
        = after (loadClusters fuel r.buffer (entryCluster (v.dirs r.dirAddress) i) 0) v := by
      simp only [after, heq]
    rw [hafter]
    exact loadClusters_reached fuel 0 hv.fatbits hbuffer

/-- **When a load stays in its destination**, on any volume with its caches loaded. -/
theorem loadsWithin_iff (hv : CachesLoaded v) (hbuffer : r.buffer + r.bufferSizeInBytes < 2 ^ 64) :
    LoadsWithin r v ↔ LoadFits r v := by
  have hlt : r.buffer < 2 ^ 64 := by omega
  -- while the sectors before it fit, a sector's address does not wrap
  have haddress : ∀ k, SECTOR_SIZE * k ≤ r.bufferSizeInBytes →
      sectorAddress r.buffer k = r.buffer + SECTOR_SIZE * k := fun k hk =>
    Nat.mod_eq_of_lt (by omega)
  constructor
  · intro hwithin i hgoes k
    have hbounds : ∀ k, (∀ j ≤ k, CanCopy v r.buffer (entryCluster (v.dirs r.dirAddress) i) j) →
        sectorAddress r.buffer k + 512 ≤ r.buffer + r.bufferSizeInBytes := by
      intro k hcan
      obtain ⟨m, hm⟩ := fsLoadFile_reached hv hgoes hlt (k + 1)
      have hmk : k < m := by
        by_contra hle
        exact hm.stopped (by omega) (hcan m (by omega))
      have := ((hm.usesWithin_iff hlt).1 (hwithin (k + 1)) k hmk).2
      exact_mod_cast this
    induction k with
    | zero =>
        intro hcan
        have hzero := hbounds 0 hcan
        rw [sectorAddress_zero hlt] at hzero
        simp only [SECTOR_SIZE]
        omega
    | succ k ih =>
        intro hcan
        have hbefore := ih fun j hj => hcan j (by omega)
        have hnext := hbounds (k + 1) hcan
        rw [haddress (k + 1) hbefore] at hnext
        rw [Nat.add_assoc] at hnext
        exact Nat.le_of_add_le_add_left hnext
  · intro hfits fuel
    by_cases hnone : ∀ i, ¬ GoesOn r v i
    · have hsame : after (fsLoadFile fuel r) v = v := by
        simp only [after, fsLoadFile_gives_up hv hnone]
        cases loadPanic r v.root <;> rfl
      rw [hsame]
      exact UsesWithin.refl _
    · obtain ⟨i, hi⟩ := not_forall.1 hnone
      have hgoes := not_not.1 hi
      obtain ⟨m, hm⟩ := fsLoadFile_reached hv hgoes hlt fuel
      refine (hm.usesWithin_iff hlt).2 fun k hk => ?_
      have hend := hfits i hgoes k fun j hj => hm.copied j (by omega)
      rw [haddress k (by simp only [SECTOR_SIZE] at hend ⊢; omega)]
      simp only [SECTOR_SIZE] at hend ⊢
      push_cast
      omega

end Call

/-! ## Well-formed files -/

/-- **The sizes in the entries match the chains**: a file has as many clusters as its size needs, and
the entry of a directory says zero. -/
def SizesMatch (D : Set ℕ) (v : Volume) : Prop :=
  ∀ d ∈ D, ∀ i < FAT16_ROOT_ENTRIES, InUse (v.dirs d) i → ∀ C,
    EntryChain v (entryCluster (v.dirs d) i) C →
      entryFlag (v.dirs d) i &&& 0x10 ≠ 0 ∧ entryFileSize (v.dirs d) i = 0 ∨
        C.length = (entryFileSize (v.dirs d) i + 511) / SECTOR_SIZE

section WellFormed

variable {D : Set ℕ} {v v' : Volume} {first : UInt16} {C : List UInt16} {buffer k : ℕ}

/-- Along a chain the FAT leads through its clusters, and then to a mark. -/
lemma clusterAt_chain {fat : UInt16 → UInt16} : ∀ {C : List UInt16} {first : UInt16},
    Chain (nextCluster fat) EndMark first C →
      (∀ j < C.length, clusterAt fat first j ∈ C) ∧ EndMark (clusterAt fat first C.length)
  | [], _, h => ⟨fun _ hj => absurd hj (Nat.not_lt_zero _), h⟩
  | c :: C, first, h => by
      obtain ⟨rfl, hrest⟩ := chain_rest h
      obtain ⟨hin, hmark⟩ := clusterAt_chain hrest
      refine ⟨fun j hj => ?_, ?_⟩
      · cases j with
        | zero => exact List.mem_cons_self ..
        | succ j =>
            rw [clusterAt_succ]
            exact List.mem_cons_of_mem _ (hin j (Nat.lt_of_succ_lt_succ hj))
      · rw [List.length_cons, clusterAt_succ]
        exact hmark

lemma InVolume.le_max {c : UInt16} (h : InVolume v c) : ¬ (c = 0 ∨ c > 0xFFF0) := by
  rintro (hzero | hlarge)
  · exact h.ne_zero hzero
  · have hlt := h.fat
    have hgt := UInt16.lt_iff_toNat_lt.1 hlarge
    have hmax : (0xFFF0 : UInt16).toNat = 0xFFF0 := rfl
    simp only [VOLUME1_FAT_SIZE] at hlt
    omega

/-- The sectors that can be copied from the first cluster of an entry are those of its chain, up to
the first address that is refused. -/
lemma EntryChain.canCopy_iff (h : EntryChain v first C) (hfirst : first ≠ 0) :
    (∀ j ≤ k, CanCopy v buffer first j) ↔
      k < C.length ∧ ∀ j ≤ k, checkAddressValidation (sectorAddress buffer j) = TRUE := by
  obtain ⟨-, hchain⟩ := h.chain hfirst
  obtain ⟨hin, hmark⟩ := clusterAt_chain hchain
  constructor
  · intro hcan
    refine ⟨?_, fun j hj => (hcan j hj).address⟩
    by_contra hle
    refine (hcan C.length (not_lt.1 hle)).cluster (Or.inr ?_)
    rcases hmark with hmark | hmark <;> rw [hmark] <;> decide
  · rintro ⟨hlt, haddress⟩ j hj
    have hvol := h.inVolume (hin j (by omega))
    exact ⟨haddress j hj, hvol.le_max, hvol.disk⟩

/-- A change of the memory alone leaves a volume well-formed. -/
lemma VolumeOk.of_mem (h : VolumeOk D v) (hmem : v' = { v with mem := v'.mem }) : VolumeOk D v' := by
  have hchain : ∀ {first : UInt16} {C : List UInt16}, EntryChain v first C ↔ EntryChain v' first C :=
    ⟨fun hC => hC.congr (fun _ _ => by rw [hmem]) (by rw [hmem]),
      fun hC => hC.congr (fun _ _ => by rw [hmem]) (by rw [hmem])⟩
  have hdirs : v'.dirs = v.dirs := by rw [hmem]
  refine ⟨by rw [hmem]; exact h.fatbits, by rw [hmem]; exact h.fatLoaded,
    by rw [hmem]; exact h.rootdir, by rw [hmem]; exact h.rootdirOnDisk, ?_, ?_⟩
  · intro d hd i hi huse
    rw [hdirs] at huse ⊢
    obtain ⟨C, hC⟩ := h.chains d hd i hi huse
    exact ⟨C, hchain.1 hC⟩
  · intro d hd i hi d' hd' j hj hne howns howns' C C' hC hC'
    rw [hdirs] at howns howns' hC hC'
    exact h.disjoint d hd i hi d' hd' j hj hne howns howns' C C' (hchain.2 hC) (hchain.2 hC')

lemma SizesMatch.of_mem (h : SizesMatch D v) (hmem : v' = { v with mem := v'.mem }) :
    SizesMatch D v' := by
  intro d hd i hi huse C hC
  have hdirs : v'.dirs = v.dirs := by rw [hmem]
  rw [hdirs] at huse hC ⊢
  exact h d hd i hi huse C (hC.congr (fun _ _ => by rw [hmem]) (by rw [hmem]))

/-- **Saving one sector of 512 bytes** keeps the sizes right. -/
lemma SizesMatch.saved {q : SaveArgs} {name : CString} {L : List UInt16} {slot : ℕ}
    (h : SizesMatch D v) (hv : VolumeOk D v) (hsaved : Saved q v v' name L slot) (hL : L ≠ [])
    (hlength : L.length = 1) (hsize : q.sizeInBytes = 512) (hflag : q.flag ≠ 0x10) :
    SizesMatch D v' := by
  intro d hd i hi huse C hC
  by_cases hne : (d, i) = (q.dirAddress, slot)
  · obtain ⟨rfl, rfl⟩ := Prod.mk.inj hne
    right
    rw [hC.unique (hsaved.newChain hL), hlength, hsaved.dirs, Function.update_self,
      dirEntry_fileSize, if_neg hflag, hsize]
    rfl
  · have hkept := fun {k} hk => hsaved.entryByte_eq (k := k) hne hk
    have hold := h d hd i hi ((hsaved.inUse_iff hne).1 huse) C
      (hsaved.chain_before hv hL hd hi hne huse hC)
    rw [entryFlag, entryFileSize, hkept (by omega), hkept (by omega), hkept (by omega),
      hkept (by omega), hkept (by omega)]
    exact hold

/-- **Well-formed chains and entries.** -/
structure FilesOk (D : Set ℕ) (v : Volume) : Prop where
  volume : VolumeOk D v
  sizes : SizesMatch D v

lemma FilesOk.of_mem (h : FilesOk D v) (hmem : v' = { v with mem := v'.mem }) : FilesOk D v' :=
  ⟨h.volume.of_mem hmem, h.sizes.of_mem hmem⟩

end WellFormed

/-! ## The opener -/

section Opener

variable {D : Set ℕ} {s s' : OpenState} {dirAddress flags slot fp : ℕ} {name : CString}
  {sizeofFile : UInt64} {file : File}

lemma onVolume_ok_inv {α : Type} {x : VolumeM α} {a : α} (h : onVolume x s = .ok a s') :
    ∃ v, x s.vol = .ok a v ∧ s' = { s with vol := v } := by
  simp only [onVolume] at h
  cases hx : x s.vol with
  | ok b v =>
      simp only [hx, EStateM.Result.ok.injEq] at h
      obtain ⟨rfl, rfl⟩ := h
      exact ⟨v, rfl, rfl⟩
  | error e v => simp [hx] at h

/-- A block of the kernel heap lies behind the header of its start. -/
lemma kmalloc_ok_inv {size : UInt64} {ptr : ℕ} (h : kmalloc size s = .ok ptr s') :
    s'.vol = s.vol ∧ (ptr ≠ 0 →
      kernelHeapStart + sizeofMmblock ≤ ptr ∧ ptr < kernelHeapEnd + sizeofMmblock) := by
  simp only [kmalloc] at h
  cases hprocess : s.process with
  | none => simp [hprocess] at h
  | some p =>
      simp only [hprocess] at h
      cases halloc : heapAllocateMemory (if size = 0 then 1 else size) s.heap with
      | error e => simp [halloc] at h
      | ok r =>
          obtain ⟨q, heap⟩ := r
          simp only [halloc, EStateM.Result.ok.injEq] at h
          obtain ⟨rfl, rfl⟩ := h
          refine ⟨rfl, fun hne => ?_⟩
          rcases heapAllocateMemory_cases halloc with ⟨hzero, -⟩ | ⟨-, hlo, hhi, hptr, -⟩
          · exact absurd hzero hne
          · rw [hptr, ulongAdd_of_lt (by
              simp only [kernelHeapEnd, sizeofMmblock] at hhi ⊢
              omega)]
            omega

lemma fillMemory_ok_inv {address size : ℕ} {text : List UInt8} {u : Unit}
    (h : fillMemory address size text s = .ok u s') :
    s'.vol = { s.vol with mem := s'.vol.mem } := by
  obtain ⟨v, hx, rfl⟩ := onVolume_ok_inv h
  simp only [modify_run, EStateM.Result.ok.injEq] at hx
  rw [← hx.2]

/-- A file that is found or created leaves well-formed files. -/
lemma findOrCreate_inv (h : findOrCreate dirAddress name flags s = .ok true s')
    (hv : FilesOk D s.vol) : FilesOk D s'.vol := by
  simp only [findOrCreate, get_bind] at h
  split_ifs at h with hsearch hcreat
  · simp only [pure_run, EStateM.Result.ok.injEq, true_and] at h
    exact h ▸ hv
  · obtain ⟨buff, s₁, halloc, h⟩ := bind_ok_inv h
    obtain ⟨hbuff, h⟩ := test_ok_inv (by decide) h
    obtain ⟨u, s₂, hfill, h⟩ := bind_ok_inv h
    obtain ⟨ret, s₃, hsave, h⟩ := bind_ok_inv h
    simp only [pure_run, EStateM.Result.ok.injEq, decide_eq_true_eq] at h
    obtain ⟨hret, rfl⟩ := h
    obtain ⟨v, hsaved, rfl⟩ := onVolume_ok_inv hsave
    rw [hret] at hsaved
    have hfilled : FilesOk D s₂.vol := by
      have hvol := (kmalloc_ok_inv halloc).1
      have hmem := fillMemory_ok_inv hfill
      rw [hvol] at hmem
      exact hv.of_mem hmem
    obtain ⟨name', L, slot, hsaved⟩ :=
      fsSaveFile_ok_inv hfilled.volume.fatLoaded hfilled.volume.rootdir hsaved
    have hlength : L.length = 1 := hsaved.length
    have hL : L ≠ [] := by
      rintro rfl
      exact absurd hlength (by decide)
    have hflag : (createArgs dirAddress name buff).flag ≠ 0x10 := (by decide : (0x20 : UInt8) ≠ 0x10)
    exact ⟨hfilled.volume.saved hsaved hL,
      hfilled.sizes.saved hfilled.volume hsaved hL hlength rfl hflag⟩
  · simp at h

/-- **What holds when the loader is called**: the buffer is for the size that the volume, before its
memory changed, gave for the file, and is in the kernel heap. -/
structure ReadyToLoad (v : Volume) (dirAddress : ℕ) (name : CString) (file : File) : Prop where
  size : ∃ w n, v = { w with mem := v.mem } ∧ fsGetFileSize (some name) dirAddress w = .ok n w ∧
    0 < toInt32 n ∧
    (toInt32 n ≥ BUFSIZ ∧ toInt32 n ≤ 8 * 1024 ∧ file.lbfsize = toInt32 n + 8 ∨
      toInt32 n < BUFSIZ ∧ file.lbfsize = BUFSIZ)
  base : ∃ b : ℕ, file.base = b ∧
    kernelHeapStart + sizeofMmblock ≤ b ∧ b < kernelHeapEnd + sizeofMmblock

/-- Asking for a size does not change the volume. -/
lemma fsGetFileSize_ok_inv {v v' : Volume} {n : ℕ} (hv : CachesLoaded v)
    (h : fsGetFileSize (some name) dirAddress v = .ok n v') : v' = v := by
  simp only [fsGetFileSize] at h
  by_cases hempty : name.bytes 0 = 0
  · rw [if_pos hempty, pure_run] at h
    exact (EStateM.Result.ok.inj h).2.symm
  by_cases hdir : dirAddress = 0
  · rw [if_neg hempty, if_pos hdir, pure_run] at h
    exact (EStateM.Result.ok.inj h).2.symm
  rw [if_neg hempty, if_neg hdir, bind_of_ok (reloadRootdir_eq hv), get_bind] at h
  cases hroot : v.root with
  | none => simp [hroot] at h
  | some root =>
      simp only [hroot] at h
      obtain ⟨-, h⟩ := check_ok_inv h
      obtain ⟨-, h⟩ := check_ok_inv h
      cases hfind : findEntry (v.dirs dirAddress) name.bytes (min name.strlen 11)
          (root.dirEntries % 2 ^ 64).toNat with
      | none =>
          simp only [hfind, pure_run] at h
          exact (EStateM.Result.ok.inj h).2.symm
      | some i =>
          simp only [hfind, pure_run] at h
          exact (EStateM.Result.ok.inj h).2.symm

/-- The buffer of a file. -/
lemma sizedBuffer_inv {small base : ℕ} {fileSize size : ℤ}
    (h : sizedBuffer small fileSize s = .ok (some (base, size)) s')
    (hsmall : kernelHeapStart + sizeofMmblock ≤ small ∧ small < kernelHeapEnd + sizeofMmblock) :
    s'.vol = { s.vol with mem := s'.vol.mem } ∧
      (kernelHeapStart + sizeofMmblock ≤ base ∧ base < kernelHeapEnd + sizeofMmblock) ∧
      (fileSize ≥ BUFSIZ ∧ fileSize ≤ 8 * 1024 ∧ size = fileSize + 8 ∨
        fileSize < BUFSIZ ∧ size = BUFSIZ) := by
  simp only [sizedBuffer] at h
  split_ifs at h with hlarge hlimit
  · simp at h
  · obtain ⟨ptr, s₁, halloc, h⟩ := bind_ok_inv h
    obtain ⟨hptr, h⟩ := test_ok_inv (by simp) h
    obtain ⟨u, s₂, hfill, h⟩ := bind_ok_inv h
    simp only [pure_run, EStateM.Result.ok.injEq, Option.some.injEq, Prod.mk.injEq] at h
    obtain ⟨⟨rfl, rfl⟩, rfl⟩ := h
    obtain ⟨hvol, hbase⟩ := kmalloc_ok_inv halloc
    have hmem := fillMemory_ok_inv hfill
    rw [hvol] at hmem
    exact ⟨hmem, hbase hptr, Or.inl ⟨hlarge, not_lt.1 hlimit, rfl⟩⟩
  · simp only [pure_run, EStateM.Result.ok.injEq, Option.some.injEq, Prod.mk.injEq] at h
    obtain ⟨⟨rfl, rfl⟩, rfl⟩ := h
    exact ⟨rfl, hsmall, Or.inr ⟨not_le.1 hlarge, rfl⟩⟩

/-- **The part between the search and the loader.** -/
lemma allocateFile_inv {d : ℕ} {nm : CString}
    (h : allocateFile sizeofFile d nm s = .ok (.loads dirAddress name slot fp file) s')
    (hv : FilesOk D s.vol) :
    dirAddress = d ∧ name = nm ∧ FilesOk D s'.vol ∧ ReadyToLoad s'.vol dirAddress name file := by
  simp only [allocateFile, get_bind] at h
  cases hprocess : s.process with
  | none => simp [hprocess] at h
  | some p =>
      simp only [hprocess] at h
      obtain ⟨-, h⟩ := test_ok_inv (by simp) h
      cases hslot : freeSlot p with
      | none => simp [hslot] at h
      | some n =>
          simp only [hslot] at h
          obtain ⟨fp', s₁, hfp, h⟩ := bind_ok_inv h
          obtain ⟨-, h⟩ := test_ok_inv (by simp) h
          obtain ⟨small, s₂, hsmall, h⟩ := bind_ok_inv h
          obtain ⟨hne, h⟩ := test_ok_inv (by simp) h
          obtain ⟨u, s₃, hfill, h⟩ := bind_ok_inv h
          obtain ⟨fileSize, s₄, hsize, h⟩ := bind_ok_inv h
          obtain ⟨hpos, h⟩ := test_ok_inv (by simp) h
          obtain ⟨buffer, s₅, hbuffer, h⟩ := bind_ok_inv h
          cases buffer with
          | none => simp at h
          | some b =>
              obtain ⟨base, size⟩ := b
              simp only [pure_run, EStateM.Result.ok.injEq, OpenStep.loads.injEq] at h
              obtain ⟨⟨rfl, rfl, rfl, rfl, rfl⟩, rfl⟩ := h
              obtain ⟨hvol₂, hbase⟩ := kmalloc_ok_inv hsmall
              have hmem₃ := fillMemory_ok_inv hfill
              rw [hvol₂, (kmalloc_ok_inv hfp).1] at hmem₃
              have hv₃ : FilesOk D s₃.vol := hv.of_mem hmem₃
              obtain ⟨v, hget, rfl⟩ := onVolume_ok_inv hsize
              obtain rfl := fsGetFileSize_ok_inv hv₃.volume.cachesLoaded hget
              obtain ⟨hmem₅, hbounds, hbuf⟩ := sizedBuffer_inv hbuffer (hbase hne)
              have hv₅ : FilesOk D s₅.vol := hv₃.of_mem hmem₅
              exact ⟨rfl, rfl, hv₅, ⟨s₃.vol, fileSize, hmem₅, hget, not_le.1 hpos, hbuf⟩,
                base, rfl, hbounds⟩

/-- **What `do_read_file_from_disk` has done when it calls the loader.** -/
lemma openForLoad_loads_inv {fileName : Option CString}
    (h : openForLoad sizeofFile fileName flags s = .ok (.loads dirAddress name slot fp file) s')
    (hv : FilesOk D s.vol) : FilesOk D s'.vol ∧ ReadyToLoad s'.vol dirAddress name file := by
  cases fileName with
  | none => simp [openForLoad] at h
  | some nm =>
      simp only [openForLoad] at h
      obtain ⟨-, h⟩ := test_ok_inv (by simp) h
      rw [get_bind] at h
      cases htarget : openTarget (dropSlash nm) s with
      | none => simp [htarget] at h
      | some target =>
          obtain ⟨d, target⟩ := target
          simp only [htarget] at h
          obtain ⟨found, s₁, hfind, h⟩ := bind_ok_inv h
          cases found with
          | false => simp at h
          | true =>
              obtain ⟨rfl, rfl, hready⟩ := allocateFile_inv h (findOrCreate_inv hfind hv)
              exact hready

end Opener

/-! ## The opener's buffer -/

/-- **The size rounded up to sectors fits the opener's buffer.** -/
def OpenFits (r : LoadArgs) (v : Volume) : Prop :=
  ∀ i, GoesOn r v i →
    entryFileSize (v.dirs r.dirAddress) i < 1024 ∨
      SECTOR_SIZE * ((entryFileSize (v.dirs r.dirAddress) i + 511) / SECTOR_SIZE)
        ≤ entryFileSize (v.dirs r.dirAddress) i + 8

section OpenerBuffer

variable {D : Set ℕ} {v : Volume} {dirAddress i : ℕ} {name : CString} {file : File}

lemma entryFileSize_lt (dir : ℕ → UInt8) (i : ℕ) : entryFileSize dir i < 2 ^ 32 := by
  have h0 := (entryByte dir i 28).toNat_lt
  have h1 := (entryByte dir i 29).toNat_lt
  have h2 := (entryByte dir i 30).toNat_lt
  have h3 := (entryByte dir i 31).toNat_lt
  simp only [entryFileSize, le32]
  omega

/-- The entry that is found has the first byte of the name. -/
lemma lookup_inUse (h : v.lookup dirAddress name = some i) (hempty : name.bytes 0 ≠ 0)
    (hdeleted : name.bytes 0 ≠ 0xE5) :
    i < FAT16_ROOT_ENTRIES ∧ InUse (v.dirs dirAddress) i := by
  obtain ⟨hlt, hmatch, -⟩ := findEntry_eq_some_iff.1 h
  refine ⟨hlt, ?_⟩
  have hpos : 0 < name.strlen := by
    rw [Nat.pos_iff_ne_zero]
    intro hzero
    have hspec := name.strlen_spec
    rw [hzero] at hspec
    exact hempty hspec
  have hfirst := (entryMatches_iff.1 hmatch).2.1 0 hpos
  rw [InUse, ← hfirst]
  exact ⟨hempty, hdeleted⟩

/-- The addresses of a buffer in the kernel heap are never refused. -/
lemma heap_accepted {b j : ℕ} (hlo : kernelHeapStart + sizeofMmblock ≤ b)
    (hhi : b < kernelHeapEnd + sizeofMmblock) (hj : j < 17) :
    checkAddressValidation (sectorAddress b j) = TRUE := by
  have haddress : sectorAddress b j = b + 512 * j := by
    rw [sectorAddress, SECTOR_SIZE]
    simp only [kernelHeapEnd, sizeofMmblock] at hhi
    omega
  rw [haddress, checkAddressValidation, if_neg]
  simp only [coreAddresses, VOLUME1_FAT_ADDRESS, VOLUME1_ROOTDIR_ADDRESS, List.mem_cons,
    List.not_mem_nil, or_false]
  simp only [kernelHeapStart, kernelHeapEnd, sizeofMmblock] at hlo hhi
  omega

/-- The size that the opener had found is that of the entry the loader copies. -/
lemma ReadyToLoad.size_eq (h : ReadyToLoad v dirAddress name file) (hv : FilesOk D v)
    (hgoes : GoesOn (openLoadArgs dirAddress name file) v i) :
    ∃ n : ℕ, entryFileSize (v.dirs dirAddress) i = n ∧ 0 < n ∧
      (1024 ≤ n ∧ n ≤ 8192 ∧ file.lbfsize.toNat = n + 8 ∨ n < 1024 ∧ file.lbfsize.toNat = 1024) := by
  obtain ⟨w, n, hw, hget, hpos, hbuf⟩ := h.size
  obtain ⟨hpanic, ⟨name', hfile, hempty, hlength, hlookup⟩, -⟩ := hgoes
  obtain rfl : name = name' := Option.some.inj hfile
  have hcaches : CachesLoaded w := by
    have hc := hv.volume.cachesLoaded
    rw [hw] at hc
    exact ⟨hc.fatbits, hc.fatLoaded, hc.rootdir, hc.rootdirOnDisk⟩
  have hroot : v.root = w.root := by rw [hw]
  have hdirs : v.dirs = w.dirs := by rw [hw]
  rw [hroot] at hpanic
  have hsize := fsGetFileSize_eq hcaches (loadPanic_none hpanic) hempty hlength
  have hlookup' : w.lookup dirAddress name = some i := by
    rw [Volume.lookup, ← hdirs]
    exact hlookup
  have hdir : (openLoadArgs dirAddress name file).dirAddress = dirAddress := rfl
  rw [hdir, hlookup', Option.elim_some] at hsize
  obtain ⟨rfl, -⟩ := EStateM.Result.ok.inj (hget.symm.trans hsize)
  have hlt := entryFileSize_lt (w.dirs dirAddress) i
  refine ⟨_, by rw [hdirs], ?_⟩
  generalize entryFileSize (w.dirs dirAddress) i = n at hpos hbuf hlt
  have hrange : (n : ℤ) < 2 ^ 31 := by
    by_contra hlarge
    have : toInt32 n < 0 := by
      rw [toInt32, Int.bmod_def]
      split_ifs <;> omega
    omega
  rw [toInt32_of_range (by omega) hrange] at hpos hbuf
  simp only [BUFSIZ] at hbuf
  omega

/-- The buffer is in the address space. -/
lemma ReadyToLoad.buffer_lt (h : ReadyToLoad v dirAddress name file) :
    (openLoadArgs dirAddress name file).buffer
      + (openLoadArgs dirAddress name file).bufferSizeInBytes < 2 ^ 64 := by
  obtain ⟨b, hb, -, hhi⟩ := h.base
  obtain ⟨w, n, -, -, hpos, hbuf⟩ := h.size
  simp only [openLoadArgs, hb, Int.toNat_natCast]
  simp only [kernelHeapEnd, sizeofMmblock] at hhi
  simp only [BUFSIZ] at hbuf
  omega

/-- **The sectors of a well-formed file in the opener's buffer.** -/
lemma ReadyToLoad.fits_iff (h : ReadyToLoad v dirAddress name file) (hv : FilesOk D v)
    (hdir : dirAddress ∈ D) (hdeleted : name.bytes 0 ≠ 0xE5) :
    LoadFits (openLoadArgs dirAddress name file) v ↔
      OpenFits (openLoadArgs dirAddress name file) v := by
  obtain ⟨b, hb, hlo, hhi⟩ := h.base
  have hbuffer : (openLoadArgs dirAddress name file).buffer = b := by
    rw [openLoadArgs, hb]
    exact Int.toNat_natCast b
  refine forall_congr' fun i => forall_congr' fun hgoes => ?_
  obtain ⟨n, hn, hpos, hsize⟩ := h.size_eq hv hgoes
  obtain ⟨-, ⟨name', hfile, hempty, -, hlookup⟩, -⟩ := hgoes
  obtain rfl : name = name' := Option.some.inj hfile
  obtain ⟨hlt, huse⟩ := lookup_inUse hlookup hempty hdeleted
  obtain ⟨C, hC⟩ := hv.volume.chains dirAddress hdir i hlt huse
  have hlength : C.length = (n + 511) / SECTOR_SIZE := by
    rcases hv.sizes dirAddress hdir i hlt huse C hC with ⟨-, hzero⟩ | hlength
    · omega
    · rwa [hn] at hlength
  rw [show (openLoadArgs dirAddress name file).dirAddress = dirAddress from rfl, hn, hbuffer]
  rw [show (openLoadArgs dirAddress name file).bufferSizeInBytes = file.lbfsize.toNat from rfl]
  simp only [SECTOR_SIZE] at hlength ⊢
  have hfirst : entryCluster (v.dirs dirAddress) i ≠ 0 := by
    intro hzero
    have hnil : C = [] := hC.unique (Or.inl ⟨hzero, rfl⟩)
    rw [hnil, List.length_nil] at hlength
    omega
  constructor
  · intro hfits
    have hlast := hfits (C.length - 1) ((hC.canCopy_iff hfirst).2
      ⟨by omega, fun j hj => heap_accepted hlo hhi (by omega)⟩)
    omega
  · intro hopen k hcan
    have hk := ((hC.canCopy_iff hfirst).1 hcan).1
    omega

end OpenerBuffer

/-! ## When loading stays in its destination -/

/-- **When a load stays in its destination.**  For every volume with its caches loaded, a call of
`fsLoadFile` only writes to the bytes of its limit if and only if the sectors that the FAT leads to
fit.  So does, for every volume whose chains and entries are well-formed, every call of the loader
that `do_read_file_from_disk` makes; and there, unless the name begins with the mark of a deleted
entry, the sectors fit if and only if the file is shorter than `BUFSIZ` or its size rounded up to
sectors is at most eight bytes larger. -/
theorem load_within (D : Set ℕ) :
    (∀ (v : Volume) (r : LoadArgs), CachesLoaded v → r.buffer + r.bufferSizeInBytes < 2 ^ 64 →
      (LoadsWithin r v ↔ LoadFits r v)) ∧
    ∀ (sizeofFile : UInt64) (fileName : Option CString) (flags : ℕ) (s s' : OpenState)
      (dirAddress : ℕ) (name : CString) (slot fp : ℕ) (file : File), FilesOk D s.vol →
      openForLoad sizeofFile fileName flags s = .ok (.loads dirAddress name slot fp file) s' →
      dirAddress ∈ D →
        (LoadsWithin (openLoadArgs dirAddress name file) s'.vol ↔
          LoadFits (openLoadArgs dirAddress name file) s'.vol) ∧
        (name.bytes 0 ≠ 0xE5 →
          (LoadFits (openLoadArgs dirAddress name file) s'.vol ↔
            OpenFits (openLoadArgs dirAddress name file) s'.vol)) := by
  refine ⟨fun v r hv hbuffer => loadsWithin_iff hv hbuffer, ?_⟩
  intro sizeofFile fileName flags s s' dirAddress name slot fp file hv hopen hdir
  obtain ⟨hv', hready⟩ := openForLoad_loads_inv hopen hv
  exact ⟨loadsWithin_iff hv'.volume.cachesLoaded hready.buffer_lt, hready.fits_iff hv' hdir⟩

/-! ## A file of three sectors -/

/-- A root directory with one file, `FILE    TXT`, of the given size. -/
def threeSectorsDir (size : ℕ) : ℕ → UInt8 :=
  putEntry 0 (dirEntry fileTxt.bytes 0x20 3 size) fun _ => 0

/-- A volume with that file in the clusters 3, 4 and 5. -/
def threeSectors (size : ℕ) : Volume :=
  { emptyVolume with
    dirs := fun _ => threeSectorsDir size
    disk := fun lba o =>
      if VOLUME1_ROOTDIR_LBA ≤ lba ∧ lba < VOLUME1_DATAAREA_LBA then
        threeSectorsDir size (SECTOR_SIZE * (lba - VOLUME1_ROOTDIR_LBA) + o)
      else 0
    fat := fun c => if c = 3 then 4 else if c = 4 then 5 else if c = 5 then 0xFFF8 else 0 }

/-- `file.txt`, as a program names the file. -/
def dottedFileTxt : CString where
  bytes i := [102, 105, 108, 101, 46, 116, 120, 116].getD i 0
  terminated := ⟨8, rfl⟩

/-- A process without open files, on a fresh heap, before it opens the file. -/
def beforeOpen (size : ℕ) : OpenState where
  vol := threeSectors size
  heap := (initHeap zeroHeap).2
  process := some ⟨TRUE, 1234, fun _ => 0⟩
  sdGRAMADO := ⟨FALSE, 0⟩
  sdDE := ⟨FALSE, 0⟩
  files _ := none

section ThreeSectors

variable {size : ℕ}

lemma threeSectors_empty {i : ℕ} (hi : i ≠ 0) : entryByte (threeSectorsDir size) i 0 = 0 :=
  putEntry_of_ne hi (by decide)

lemma threeSectors_chain : EntryChain (threeSectors size) 3 [3, 4, 5] := by
  refine Or.inr ⟨by decide, ?_, fun c hc => ?_⟩
  · exact ⟨rfl, by decide, 4, rfl, rfl, by decide, 5, rfl, rfl, by decide, 0xFFF8, rfl, Or.inr rfl⟩
  · have hcases : c = 3 ∨ c = 4 ∨ c = 5 := by simpa using hc
    have hsectors : (threeSectors size).gNumberOfSectorsInBootDisk = 65536 := rfl
    rcases hcases with rfl | rfl | rfl <;>
      exact ⟨by decide, by decide, by rw [hsectors]; decide⟩

lemma threeSectors_rootdir : RootdirCached rootdirSize (threeSectors size) := by
  intro o ho
  have hlba : VOLUME1_ROOTDIR_LBA ≤ VOLUME1_ROOTDIR_LBA + o / SECTOR_SIZE ∧
      VOLUME1_ROOTDIR_LBA + o / SECTOR_SIZE < VOLUME1_DATAAREA_LBA := by
    simp only [SECTOR_SIZE, rootdirSize, VOLUME1_ROOTDIR_LBA, VOLUME1_DATAAREA_LBA] at ho ⊢
    omega
  simp only [threeSectors]
  rw [if_pos hlba, Nat.add_sub_cancel_left, Nat.div_add_mod]

lemma threeSectors_fileSize (d : ℕ) :
    entryFileSize ((threeSectors size).dirs d) 0 = size % 2 ^ 32 :=
  dirEntry_fileSize.trans (if_neg (by decide))

lemma threeSectors_ok (hsize : (size % 2 ^ 32 + 511) / SECTOR_SIZE = 3) :
    FilesOk {VOLUME1_ROOTDIR_ADDRESS} (threeSectors size) := by
  have hzero {k : ℕ} (h : InUse (threeSectorsDir size) k) : k = 0 := by
    by_contra hk
    exact h.1 (threeSectors_empty hk)
  have hcluster : entryCluster (threeSectorsDir size) 0 = 3 := dirEntry_cluster
  refine ⟨⟨rfl, rfl, threeSectors_rootdir,
    (by decide : VOLUME1_ROOTDIR_LBA + rootdirSize ≤ 65536), ?_, ?_⟩, ?_⟩
  · intro d _ i _ huse
    obtain rfl := hzero huse
    exact ⟨[3, 4, 5], hcluster.symm ▸ threeSectors_chain⟩
  · intro d hd i _ d' hd' j _ hne howns howns'
    refine absurd ?_ hne
    rw [Set.mem_singleton_iff.1 hd, Set.mem_singleton_iff.1 hd', hzero howns.1, hzero howns'.1]
  · intro d _ i _ huse C hC
    obtain rfl := hzero huse
    right
    have hfirst : EntryChain (threeSectors size) 3 C := hcluster ▸ hC
    rw [hfirst.unique threeSectors_chain, threeSectors_fileSize, hsize]
    rfl

lemma threeSectors_lookup :
    (threeSectors size).lookup VOLUME1_ROOTDIR_ADDRESS fileTxt = some 0 := by
  refine findEntry_eq_some_iff.2 ⟨by decide, ?_, fun j hj => absurd hj (by omega)⟩
  exact (entryMatches_eleven fileTxt_strlen).2 fun k hk => (dirEntry_name (by decide) hk).symm

/-- The name in the form of an entry. -/
lemma fsFntos2_fileTxt : fsFntos2 dottedFileTxt = fileTxt := by
  have hstem : dottedFileTxt.stem = 4 := (Nat.find_eq_iff _).2 ⟨Or.inr rfl, by decide⟩
  rw [fsFntos2, if_neg (by decide)]
  have hbytes : fntosBytes dottedFileTxt = fileTxt.bytes := by
    funext k
    by_cases hk : k < 12
    · simp only [fntosBytes, fntosExt, hstem]
      interval_cases k <;> decide
    · rw [fntosBytes, hstem, if_neg (by omega), if_neg (by omega), if_neg (by omega),
        if_neg (by omega)]
      have hlong : 11 ≤ k := by omega
      simp only [dottedFileTxt, fileTxt]
      rw [List.getD_eq_default, List.getD_eq_default]
      · exact hlong
      · exact le_trans (by decide) hlong
  simp only [hbytes]

lemma threeSectors_search :
    searchInDir (some fileTxt) VOLUME1_ROOTDIR_ADDRESS (threeSectors size) = TRUE := by
  have hfound : searchEntry ((threeSectors size).dirs VOLUME1_ROOTDIR_ADDRESS) fileTxt.bytes 11
      = some 0 := by
    simp only [searchEntry, List.find?_range_eq_some, searchMatches, decide_eq_true_eq]
    have hname : ∀ k < 11, entryByte (threeSectorsDir size) 0 k = fileTxt.bytes k := fun k hk =>
      dirEntry_name (by decide) hk
    have hdirs : (threeSectors size).dirs VOLUME1_ROOTDIR_ADDRESS = threeSectorsDir size := rfl
    rw [hdirs, hname 0 (by decide)]
    refine ⟨⟨by decide, by decide, by decide, ?_⟩, List.mem_range.2 (by decide),
      fun j hj => absurd hj (Nat.not_lt_zero j)⟩
    refine kstrncmp_eq_zero_iff.2 ⟨fun k hk => ?_, rfl, rfl⟩
    rw [if_pos hk, if_pos hk]
    exact (hname k hk).symm
  simp only [searchInDir, fileTxt_strlen, hfound]
  rfl

/-- A heap with room for `k` more blocks of up to 9000 bytes. -/
structure HeapRoom (k : ℕ) (s : HeapState) : Prop where
  lo : kernelHeapStart ≤ s.gHeapPointer
  hi : s.gHeapPointer + 10000 * k < kernelHeapEnd
  available : 10000 * k < s.gAvailableHeap ∧ s.gAvailableHeap < 2 ^ 64
  count : s.mmblockCount + k < mmblockCountMax

/-- An allocation from a heap with room. -/
lemma kmalloc_run {s : OpenState} {n : UInt64} {k : ℕ} (hprocess : s.process.isSome)
    (hroom : HeapRoom (k + 1) s.heap) (hn : n.toNat ≤ 9000) :
    ∃ ptr heap, kmalloc n s = .ok ptr { s with heap := heap } ∧ ptr ≠ 0 ∧ HeapRoom k heap := by
  obtain ⟨p, hp⟩ := Option.isSome_iff_exists.1 hprocess
  obtain ⟨hlo, hhi, ⟨havail, hmax⟩, hcount⟩ := hroom
  have harea : userAreaInBytes (if n = 0 then 1 else n) ≤ 9000 := by
    rw [userAreaInBytes]
    split_ifs with hzero <;> simp_all
  have hend : kernelHeapEnd < 2 ^ 63 := by decide
  have hstart : 0 < kernelHeapStart := by decide
  generalize harg : (if n = 0 then 1 else n) = size at harea
  have hrun : ∃ heap, heapAllocateMemory size s.heap
      = .ok (ulongAdd s.heap.gHeapPointer sizeofMmblock, heap) ∧
      heap.mmblockCount = s.heap.mmblockCount + 1 := by
    rw [heapAllocateMemory, if_neg (by omega), if_neg (by omega), if_neg (by omega),
      if_neg (by omega), if_neg (by omega)]
    exact ⟨_, rfl, rfl⟩
  obtain ⟨heap, hrun, hblocks⟩ := hrun
  have hptr : ulongAdd s.heap.gHeapPointer sizeofMmblock = s.heap.gHeapPointer + 72 :=
    ulongAdd_of_lt (by simp only [sizeofMmblock]; omega)
  rw [hptr] at hrun
  rcases heapAllocateMemory_cases hrun with ⟨hzero, -⟩ | ⟨-, -, -, -, hnext, hleft⟩
  · omega
  · rw [ulongAdd_of_lt (by omega)] at hnext
    have htotal : ulongSub heap.gHeapPointer s.heap.gHeapPointer = userAreaInBytes size + 72 := by
      rw [hnext, ulongSub_of_le (by omega) (by omega)]
      omega
    have hcharge : ulongSub s.heap.gAvailableHeap (userAreaInBytes size + 72)
        = s.heap.gAvailableHeap - (userAreaInBytes size + 72) := ulongSub_of_le (by omega) hmax
    rw [htotal, hcharge] at hleft
    refine ⟨s.heap.gHeapPointer + 72, heap, ?_, by omega,
      ⟨by omega, by omega, ⟨by omega, by omega⟩, by omega⟩⟩
    simp only [kmalloc, hp, harg, hrun]

/-- The part between the search and the loader, when nothing fails. -/
lemma allocateFile_run {s s₁ s₂ s₃ s₄ : OpenState} {p : Process} {sizeofFile : UInt64}
    {d slot fp small n base : ℕ} {nm : CString} {bufferSize : ℤ}
    (hprocess : s.process = some p) (hvalid : ¬ (p.used ≠ TRUE ∨ p.magic ≠ 1234))
    (hslot : freeSlot p = some slot) (hfp : kmalloc sizeofFile s = .ok fp s₁) (hfp₀ : fp ≠ 0)
    (hsmall : kmalloc 1024 s₁ = .ok small s₂) (hsmall₀ : small ≠ 0)
    (hfill : fillMemory small 1024 [] s₂ = .ok () s₃)
    (hget : fsGetFileSize (some nm) d s₃.vol = .ok n s₃.vol) (hpos : ¬ toInt32 n ≤ 0)
    (hbuffer : sizedBuffer small (toInt32 n) s₃ = .ok (some (base, bufferSize)) s₄) :
    allocateFile sizeofFile d nm s
      = .ok (.loads d nm slot fp (filledFile slot base bufferSize (toInt32 n))) s₄ := by
  have hsize : onVolume (fsGetFileSize (some nm) d) s₃ = .ok n s₃ := by
    simp only [onVolume, hget]
  simp only [allocateFile, get_bind, hprocess]
  rw [if_neg hvalid]
  simp only [hslot]
  rw [bind_of_ok hfp, if_neg hfp₀, bind_of_ok hsmall, if_neg hsmall₀, bind_of_ok hfill,
    bind_of_ok hsize, if_neg hpos, bind_of_ok hbuffer]
  rfl

/-- Opening the file comes to the loader. -/
lemma openForLoad_threeSectors (hlo : 1024 ≤ size) (hhi : size ≤ 8192) :
    ∃ slot fp file s', openForLoad 200 (some dottedFileTxt) 0 (beforeOpen size)
        = .ok (.loads VOLUME1_ROOTDIR_ADDRESS fileTxt slot fp file) s' ∧
      file.lbfsize = size + 8 ∧ s'.vol = { threeSectors size with mem := s'.vol.mem } := by
  have hsearch : searchInDir (some fileTxt) VOLUME1_ROOTDIR_ADDRESS (beforeOpen size).vol = TRUE :=
    threeSectors_search
  have hfind : findOrCreate VOLUME1_ROOTDIR_ADDRESS fileTxt 0 (beforeOpen size)
      = .ok true (beforeOpen size) := by
    simp only [findOrCreate, get_bind]
    rw [if_pos hsearch, pure_run]
  have hdrop : dropSlash dottedFileTxt = dottedFileTxt := by
    rw [dropSlash, dif_neg (by decide)]
  have htarget : openTarget (dropSlash dottedFileTxt) (beforeOpen size)
      = some (VOLUME1_ROOTDIR_ADDRESS, dottedFileTxt) := by
    rw [hdrop, openTarget, dif_neg (by decide), dif_neg (by decide)]
  have hopen : openForLoad 200 (some dottedFileTxt) 0 (beforeOpen size)
      = allocateFile 200 VOLUME1_ROOTDIR_ADDRESS fileTxt (beforeOpen size) := by
    simp only [openForLoad]
    rw [if_neg (by decide), get_bind, htarget]
    simp only [fsFntos2_fileTxt]
    rw [bind_of_ok hfind, if_pos rfl]
  have hprocess : (beforeOpen size).process = some ⟨TRUE, 1234, fun _ => 0⟩ := rfl
  have hheap : (beforeOpen size).heap = (initHeap zeroHeap).2 := rfl
  have hroom : HeapRoom 3 (beforeOpen size).heap := by
    rw [hheap]
    exact ⟨by decide, by decide, ⟨by decide, by decide⟩, by decide⟩
  have hslot : freeSlot ⟨TRUE, 1234, fun _ => 0⟩ = some 0 := rfl
  obtain ⟨fp, heap₁, hfp, hfp₀, hroom₁⟩ := kmalloc_run (n := 200) rfl hroom (by decide)
  obtain ⟨small, heap₂, hsmall, hsmall₀, hroom₂⟩ :=
    kmalloc_run (s := { beforeOpen size with heap := heap₁ }) (n := 1024) rfl hroom₁ (by decide)
  -- the memory behind the small buffer is cleared
  obtain ⟨s₃, hfill, hs₃⟩ : ∃ s₃, fillMemory small 1024 [] { beforeOpen size with heap := heap₂ }
      = .ok () s₃ ∧ s₃ = { beforeOpen size with vol := s₃.vol, heap := heap₂ } :=
    ⟨_, rfl, rfl⟩
  have hvol₃ := fillMemory_ok_inv hfill
  have hvol₃ : s₃.vol = { threeSectors size with mem := s₃.vol.mem } := hvol₃
  have hcaches : CachesLoaded s₃.vol := by
    rw [hvol₃]
    exact ⟨rfl, rfl, threeSectors_rootdir,
      (by decide : VOLUME1_ROOTDIR_LBA + rootdirSize ≤ 65536)⟩
  have hget : fsGetFileSize (some fileTxt) VOLUME1_ROOTDIR_ADDRESS s₃.vol = .ok size s₃.vol := by
    have hroot : s₃.vol.root = some ⟨TRUE, 1234, 1, 512⟩ := by
      rw [hvol₃]
      rfl
    have hlookup : s₃.vol.lookup VOLUME1_ROOTDIR_ADDRESS fileTxt = some 0 := by
      rw [hvol₃]
      exact threeSectors_lookup
    have hfile : entryFileSize (s₃.vol.dirs VOLUME1_ROOTDIR_ADDRESS) 0 = size := by
      rw [hvol₃]
      exact (threeSectors_fileSize VOLUME1_ROOTDIR_ADDRESS).trans (Nat.mod_eq_of_lt (by omega))
    have hsize := fsGetFileSize_eq (r := loadFileTxt) hcaches (loadPanic_none (by rw [hroot]; decide))
      (by decide : fileTxt.bytes 0 ≠ 0) fileTxt_strlen.le
    rw [show loadFileTxt.dirAddress = VOLUME1_ROOTDIR_ADDRESS from rfl, hlookup, Option.elim_some,
      hfile] at hsize
    exact hsize
  have hpos : ¬ toInt32 size ≤ 0 := by
    rw [toInt32_of_range (by omega) (by omega)]
    omega
  have hbuffer : ∃ base s₄, sizedBuffer small (toInt32 size) s₃ = .ok (some (base, size + 8)) s₄ ∧
      s₄.vol = { threeSectors size with mem := s₄.vol.mem } := by
    rw [toInt32_of_range (by omega) (by omega), sizedBuffer, if_pos (by simp only [BUFSIZ]; omega),
      if_neg (by omega)]
    obtain ⟨base, heap₃, halloc, hbase, -⟩ := kmalloc_run (s := s₃)
      (n := UInt64.ofNat (((size : ℤ) + 8).toNat)) (by rw [hs₃]; rfl) (by rw [hs₃]; exact hroom₂)
      (by rw [UInt64.toNat_ofNat']; omega)
    obtain ⟨s₄, hfill₄⟩ : ∃ s₄, fillMemory base ((size : ℤ) + 8).toNat []
        { s₃ with heap := heap₃ } = .ok () s₄ := ⟨_, rfl⟩
    refine ⟨base, s₄, ?_, ?_⟩
    · rw [bind_of_ok halloc, if_neg hbase, bind_of_ok hfill₄]
      rfl
    · have hvol₄ := fillMemory_ok_inv hfill₄
      rw [hvol₄]
      show ({ s₃.vol with mem := s₄.vol.mem } : Volume) = _
      rw [hvol₃]
  obtain ⟨base, s₄, hbuffer, hvol₄⟩ := hbuffer
  refine ⟨0, fp, filledFile 0 base (size + 8) (toInt32 size), s₄, ?_, rfl, hvol₄⟩
  rw [hopen]
  exact allocateFile_run hprocess (by decide) hslot hfp hfp₀ hsmall hsmall₀ hfill hget hpos hbuffer

/-- Loading the file with a limit of `n` bytes. -/
def loadThreeSectors (n : ℕ) : LoadArgs :=
  ⟨VOLUME1_FAT_ADDRESS, VOLUME1_ROOTDIR_ADDRESS, 512, some fileTxt, 0x30110048, n⟩

lemma threeSectors_goesOn {v : Volume} {r : LoadArgs}
    (hv : v = { threeSectors size with mem := v.mem })
    (hr : r = { loadThreeSectors (size + 8) with buffer := r.buffer }) (hlo : 1024 ≤ size)
    (hhi : size ≤ 8192) : GoesOn r v 0 := by
  have hlimit : r.limit = size + 8 := by
    rw [hr]
    exact Nat.mod_eq_of_lt (by omega : size + 8 < 2 ^ 32)
  have hroot : v.root = some ⟨TRUE, 1234, 1, 512⟩ := by
    rw [hv]
    rfl
  refine ⟨?_, ⟨fileTxt, by rw [hr]; rfl, by decide, fileTxt_strlen.le, ?_⟩, ?_⟩
  · rw [hroot]
    unfold loadPanic
    rw [hlimit]
    have hfat : r.fatAddress = VOLUME1_FAT_ADDRESS := by rw [hr]; rfl
    have hdir : r.dirAddress = VOLUME1_ROOTDIR_ADDRESS := by rw [hr]; rfl
    have hentries : r.dirEntries = 512 := by rw [hr]; rfl
    rw [hfat, hdir, hentries, if_neg (by decide), if_neg (by decide), if_neg (by decide),
      if_neg (by decide), if_neg (by decide), if_neg (by omega), if_neg (by omega)]
    rfl
  · have hdir : r.dirAddress = VOLUME1_ROOTDIR_ADDRESS := by rw [hr]; rfl
    rw [hdir, hv]
    exact threeSectors_lookup
  · rw [hlimit, hv, threeSectors_fileSize, Nat.mod_eq_of_lt (by omega)]
    omega

/-- There is no other file. -/
lemma threeSectors_unique {v : Volume} {r : LoadArgs} {i : ℕ}
    (hv : v = { threeSectors size with mem := v.mem }) (hname : r.fileName = some fileTxt)
    (hdir : r.dirAddress = VOLUME1_ROOTDIR_ADDRESS) (hgoes : GoesOn r v i) : i = 0 := by
  obtain ⟨name, hfile, -, -, hlookup⟩ := hgoes.found
  obtain rfl : fileTxt = name := Option.some.inj (hname.symm.trans hfile)
  rw [hdir, hv] at hlookup
  exact (Option.some.inj (threeSectors_lookup.symm.trans hlookup)).symm

/-- The arguments with which the opener calls the loader. -/
lemma openForLoad_threeSectors_args {file : File} (hfile : file.lbfsize = size + 8) :
    openLoadArgs VOLUME1_ROOTDIR_ADDRESS fileTxt file
      = { loadThreeSectors (size + 8) with
          buffer := (openLoadArgs VOLUME1_ROOTDIR_ADDRESS fileTxt file).buffer } := by
  have hsize : file.lbfsize.toNat = size + 8 := by omega
  rw [openLoadArgs, hsize]
  rfl

end ThreeSectors

/-- A file of 1536 bytes: the load stays in the buffer that the opener takes. -/
theorem load_within_threeSectors :
    (LoadsWithin (loadThreeSectors 1536) (threeSectors 1025) ↔
      LoadFits (loadThreeSectors 1536) (threeSectors 1025)) ∧
    ∃ slot fp file s', openForLoad 200 (some dottedFileTxt) 0 (beforeOpen 1536)
        = .ok (.loads VOLUME1_ROOTDIR_ADDRESS fileTxt slot fp file) s' ∧
      LoadsWithin (openLoadArgs VOLUME1_ROOTDIR_ADDRESS fileTxt file) s'.vol := by
  refine ⟨(load_within ∅).1 (threeSectors 1025) (loadThreeSectors 1536)
    (threeSectors_ok (by decide)).volume.cachesLoaded (by decide), ?_⟩
  obtain ⟨slot, fp, file, s', hopen, hfile, hvol⟩ :=
    @openForLoad_threeSectors 1536 (by decide) (by decide)
  obtain ⟨hfits, hopenFits⟩ := (load_within {VOLUME1_ROOTDIR_ADDRESS}).2 200 (some dottedFileTxt) 0
    (beforeOpen 1536) s' VOLUME1_ROOTDIR_ADDRESS fileTxt slot fp file
    (threeSectors_ok (by decide)) hopen rfl
  refine ⟨slot, fp, file, s', hopen, hfits.2 ((hopenFits (by decide)).2 fun i hgoes => Or.inr ?_)⟩
  obtain rfl := threeSectors_unique hvol (r := openLoadArgs _ _ file) rfl rfl hgoes
  have hsize : entryFileSize (s'.vol.dirs VOLUME1_ROOTDIR_ADDRESS) 0 = 1536 := by
    rw [hvol]
    exact threeSectors_fileSize VOLUME1_ROOTDIR_ADDRESS
  rw [show (openLoadArgs VOLUME1_ROOTDIR_ADDRESS fileTxt file).dirAddress = VOLUME1_ROOTDIR_ADDRESS
    from rfl, hsize]
  decide

/-- **A file of 1025 bytes overruns**: its three sectors are 1536 bytes, the opener's buffer has
1033. -/
theorem load_within_fails :
    FilesOk {VOLUME1_ROOTDIR_ADDRESS} (beforeOpen 1025).vol ∧
      (∃ slot fp file s', openForLoad 200 (some dottedFileTxt) 0 (beforeOpen 1025)
          = .ok (.loads VOLUME1_ROOTDIR_ADDRESS fileTxt slot fp file) s' ∧
        ¬ LoadsWithin (openLoadArgs VOLUME1_ROOTDIR_ADDRESS fileTxt file) s'.vol) ∧
      ¬ LoadsWithin (loadThreeSectors 1033) (threeSectors 1025) := by
  have hfiles : FilesOk {VOLUME1_ROOTDIR_ADDRESS} (threeSectors 1025) := threeSectors_ok (by decide)
  obtain ⟨slot, fp, file, s', hopen, hfile, hvol⟩ :=
    @openForLoad_threeSectors 1025 (by decide) (by decide)
  refine ⟨hfiles, ⟨slot, fp, file, s', hopen, fun hwithin => ?_⟩, fun hwithin => ?_⟩
  · obtain ⟨hv', hready⟩ := openForLoad_loads_inv hopen hfiles
    have hgoes := threeSectors_goesOn hvol (openForLoad_threeSectors_args hfile) (by decide)
      (by decide)
    have hfits := (loadsWithin_iff hv'.volume.cachesLoaded hready.buffer_lt).1 hwithin
    have hopenFits := (hready.fits_iff hv' rfl (by decide)).1 hfits 0 hgoes
    have hsize : entryFileSize (s'.vol.dirs VOLUME1_ROOTDIR_ADDRESS) 0 = 1025 := by
      rw [hvol]
      exact threeSectors_fileSize VOLUME1_ROOTDIR_ADDRESS
    rw [show (openLoadArgs VOLUME1_ROOTDIR_ADDRESS fileTxt file).dirAddress
      = VOLUME1_ROOTDIR_ADDRESS from rfl, hsize] at hopenFits
    exact absurd hopenFits (by decide)
  · have hgoes := @threeSectors_goesOn 1025 (threeSectors 1025)
      (loadThreeSectors 1033) rfl rfl (by decide) (by decide)
    have hfits := (loadsWithin_iff hfiles.volume.cachesLoaded (by decide)).1 hwithin 0 hgoes 2
    have hcluster : entryCluster ((threeSectors 1025).dirs VOLUME1_ROOTDIR_ADDRESS) 0 = 3 :=
      dirEntry_cluster
    refine absurd (hfits ?_) (by decide)
    have hchain : EntryChain (threeSectors 1025)
        (entryCluster ((threeSectors 1025).dirs VOLUME1_ROOTDIR_ADDRESS) 0) [3, 4, 5] :=
      hcluster.symm ▸ threeSectors_chain
    exact (hchain.canCopy_iff (by rw [hcluster]; decide)).2 ⟨by decide, by decide⟩

end Gramado
