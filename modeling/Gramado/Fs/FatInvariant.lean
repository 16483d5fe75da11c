import Gramado.Fs.SaveFile
import Gramado.Lib.Chain

/-!
# The FAT of a well-formed volume

In a well-formed volume (`VolumeOk`) the caches agree with the disk, the clusters of every directory
entry are a chain of the FAT (`EntryChain`), and no two entries share a cluster.

A cluster of a chain never has the free mark as its FAT word (`EntryChain.not_free`), so the chains do
not see what happens to free clusters (`EntryChain.congr`).  This separates the chains of the volume
from the clusters that `fsSaveFile` takes: `VolumeOk.saved`.

The clusters taken become the chain of the new entry (`chain_saveFat`), unless there are none.  Then
the mark that closes the list is entered as the first cluster, and the word of the FAT that gets the
mark is read from in front of the list.  `saveKeepsFat_iff` is the exact condition.
-/

namespace Gramado

open StateFault Cells

/-- Where the FAT leads from a cluster. -/
def nextCluster (fat : UInt16 → UInt16) (c : UInt16) : Option UInt16 := some (fat c)

/-- The marks at which the loader stops. -/
def EndMark (c : UInt16) : Prop := c = 0xFFFF ∨ c = 0xFFF8

instance (c : UInt16) : Decidable (EndMark c) := inferInstanceAs (Decidable (_ ∨ _))

/-- The cluster has a word in the FAT and a sector in the data area. -/
structure InVolume (v : Volume) (c : UInt16) : Prop where
  data : 2 ≤ c.toNat
  fat : c.toNat < 256 * VOLUME1_FAT_SIZE
  disk : dataareaLba c < v.gNumberOfSectorsInBootDisk

/-- **The clusters of an entry** that names `first` as its first one: none, when that is zero;
otherwise a chain of the FAT that stays inside the volume and ends in a mark. -/
def EntryChain (v : Volume) (first : UInt16) (C : List UInt16) : Prop :=
  (first = 0 ∧ C = []) ∨
    (C ≠ [] ∧ Chain (nextCluster v.fat) EndMark first C ∧ ∀ c ∈ C, InVolume v c)

/-- The entry is neither empty nor deleted. -/
def InUse (dir : ℕ → UInt8) (i : ℕ) : Prop := entryByte dir i 0 ≠ 0 ∧ entryByte dir i 0 ≠ 0xE5

/-- The entry is in use, and is not `.` or `..`, which share the clusters of a directory. -/
def OwnsClusters (dir : ℕ → UInt8) (i : ℕ) : Prop := InUse dir i ∧ entryByte dir i 0 ≠ 0x2E

/-- **A well-formed volume**, `D` being the addresses at which its directories are cached. -/
structure VolumeOk (D : Set ℕ) (v : Volume) : Prop where
  fatbits : v.gCurrentvolumeFatbits = 16
  fatLoaded : v.gFatCacheLoaded = FAT_CACHE_LOADED
  rootdir : RootdirCached rootdirSize v
  rootdirOnDisk : VOLUME1_ROOTDIR_LBA + rootdirSize ≤ v.gNumberOfSectorsInBootDisk
  chains : ∀ d ∈ D, ∀ i < FAT16_ROOT_ENTRIES, InUse (v.dirs d) i →
    ∃ C, EntryChain v (entryCluster (v.dirs d) i) C
  disjoint : ∀ d ∈ D, ∀ i < FAT16_ROOT_ENTRIES, ∀ d' ∈ D, ∀ j < FAT16_ROOT_ENTRIES,
    (d, i) ≠ (d', j) → OwnsClusters (v.dirs d) i → OwnsClusters (v.dirs d') j →
    ∀ C C', EntryChain v (entryCluster (v.dirs d) i) C →
      EntryChain v (entryCluster (v.dirs d') j) C' → List.Disjoint C C'

/-! ## Chains and free clusters -/

lemma endMark_ne_zero {c : UInt16} (h : EndMark c) : c ≠ 0 := by
  rcases h with rfl | rfl <;> decide

lemma InVolume.ne_zero {v : Volume} {c : UInt16} (h : InVolume v c) : c ≠ 0 := by
  rintro rfl
  exact absurd h.data (by decide)

lemma InVolume.not_endMark {v : Volume} {c : UInt16} (h : InVolume v c) : ¬ EndMark c := by
  rintro (rfl | rfl) <;> exact absurd h.fat (by decide)

/-- The word of a cluster in a chain is the next cluster or a mark, so it is not zero. -/
lemma chain_not_free {fat : UInt16 → UInt16} : ∀ {C : List UInt16} {p : UInt16},
    Chain (nextCluster fat) EndMark p C → (∀ c ∈ C, c ≠ 0) → ∀ c ∈ C, fat c ≠ 0
  | [], _, _, _ => fun c hc => absurd hc (List.not_mem_nil)
  | q :: C, p, ⟨hpq, _, r, hr, hC⟩, hne => by
      have hword : fat p = r := Option.some.inj hr
      have hr0 : r ≠ 0 := by
        cases C with
        | nil => exact endMark_ne_zero hC
        | cons q' C =>
            obtain rfl : r = q' := hC.1
            exact hne r (by simp)
      intro c hc
      rcases List.mem_cons.1 hc with rfl | hc
      · rw [← hpq, hword]
        exact hr0
      · exact chain_not_free hC (fun x hx => hne x (List.mem_cons_of_mem _ hx)) c hc

section EntryChain

variable {v v' : Volume} {first : UInt16} {C C' : List UInt16}

lemma EntryChain.inVolume (h : EntryChain v first C) {c : UInt16} (hc : c ∈ C) : InVolume v c := by
  rcases h with ⟨-, rfl⟩ | ⟨-, -, hin⟩
  · exact absurd hc (List.not_mem_nil)
  · exact hin c hc

lemma EntryChain.not_free (h : EntryChain v first C) {c : UInt16} (hc : c ∈ C) : v.fat c ≠ 0 := by
  rcases h with ⟨-, rfl⟩ | ⟨-, hchain, hin⟩
  · exact absurd hc (List.not_mem_nil)
  · exact chain_not_free hchain (fun x hx => (hin x hx).ne_zero) c hc

/-- An entry with a first cluster is followed along a chain that begins there. -/
lemma EntryChain.chain (h : EntryChain v first C) (hfirst : first ≠ 0) :
    C ≠ [] ∧ Chain (nextCluster v.fat) EndMark first C := by
  rcases h with ⟨hzero, -⟩ | ⟨hne, hchain, -⟩
  · exact absurd hzero hfirst
  · exact ⟨hne, hchain⟩

/-- The first cluster of a chain is in the volume. -/
lemma EntryChain.firstInVolume (h : EntryChain v first C) (hfirst : first ≠ 0) : InVolume v first := by
  obtain ⟨hne, hchain⟩ := h.chain hfirst
  cases C with
  | nil => exact absurd rfl hne
  | cons q C =>
      obtain rfl : first = q := hchain.1
      exact h.inVolume (List.mem_cons_self ..)

/-- The clusters of an entry are determined. -/
lemma EntryChain.unique (h : EntryChain v first C) (h' : EntryChain v first C') : C = C' := by
  by_cases hfirst : first = 0
  · have hnil {C : List UInt16} (h : EntryChain v first C) : C = [] := by
      rcases h with ⟨-, hC⟩ | ⟨hne, hchain, hin⟩
      · exact hC
      · cases C with
        | nil => rfl
        | cons q C =>
            obtain rfl : first = q := hchain.1
            exact absurd hfirst (hin first (List.mem_cons_self ..)).ne_zero
    rw [hnil h, hnil h']
  · exact (h.chain hfirst).2.unique (h'.chain hfirst).2

/-- **Chains do not see the free clusters.** -/
lemma EntryChain.congr (h : EntryChain v first C) (hfat : ∀ c, v.fat c ≠ 0 → v'.fat c = v.fat c)
    (hsectors : v'.gNumberOfSectorsInBootDisk = v.gNumberOfSectorsInBootDisk) :
    EntryChain v' first C := by
  rcases h with hnone | ⟨hne, hchain, hin⟩
  · exact Or.inl hnone
  · refine Or.inr ⟨hne, hchain.congr fun c hc => ?_, fun c hc => ?_⟩
    · rw [nextCluster, nextCluster,
        hfat c (chain_not_free hchain (fun x hx => (hin x hx).ne_zero) c hc)]
    · exact ⟨(hin c hc).data, (hin c hc).fat, hsectors ▸ (hin c hc).disk⟩

end EntryChain

/-! ## The new chain -/

/-- The walk leaves the words of other clusters alone. -/
lemma saveFat_of_notMem : ∀ {L : List UInt16} {prev x : UInt16} {fat : UInt16 → UInt16},
    x ∉ L → x ≠ prev → saveFat L prev fat x = fat x
  | [], _, _, _, _, hne => Function.update_of_ne hne ..
  | c :: L, _, x, fat, hx, _ => by
      obtain ⟨hxc, hxL⟩ := not_or.1 (List.mem_cons.not.1 hx)
      rw [saveFat, saveFat_of_notMem hxL hxc, Function.update_of_ne hxc]

/-- The word of the cluster in front keeps leading to the list. -/
lemma saveFat_prev {L : List UInt16} {prev : UInt16} {fat : UInt16 → UInt16} (hprev : prev ∉ L)
    (hword : fat prev = L.headD 0xFFF8) : saveFat L prev fat prev = L.headD 0xFFF8 := by
  cases L with
  | nil => exact Function.update_self ..
  | cons c L =>
      obtain ⟨hpc, hpL⟩ := not_or.1 (List.mem_cons.not.1 hprev)
      rw [saveFat, saveFat_of_notMem hpL hpc, Function.update_of_ne hpc, hword]

/-- **The clusters of the list become a chain.** -/
lemma chain_saveFat : ∀ {L : List UInt16} {c prev : UInt16} {fat : UInt16 → UInt16},
    (c :: L).Nodup → (∀ x ∈ c :: L, ¬ EndMark x) →
    Chain (nextCluster (saveFat (c :: L) prev fat)) EndMark c (c :: L)
  | L, c, prev, fat, hnodup, hmark => by
      obtain ⟨hcL, hL⟩ := List.nodup_cons.1 hnodup
      have hword : saveFat (c :: L) prev fat c = L.headD 0xFFF8 := by
        rw [saveFat]
        exact saveFat_prev hcL (Function.update_self ..)
      refine ⟨rfl, hmark c (List.mem_cons_self ..), L.headD 0xFFF8, congrArg some hword, ?_⟩
      cases L with
      | nil => exact Or.inr rfl
      | cons d L =>
          rw [saveFat]
          exact chain_saveFat hL fun x hx => hmark x (List.mem_cons_of_mem _ hx)

/-! ## Saving keeps the volume well-formed -/

section Saved

variable {D : Set ℕ} {q : SaveArgs} {v v' : Volume} {name : CString} {L : List UInt16}
  {slot d i : ℕ}

lemma Saved.inVolume (h : Saved q v v' name L slot) {c : UInt16} (hc : c ∈ L) :
    InVolume v' c := by
  obtain ⟨hlo, hhi⟩ := h.range c hc
  have hmax : 3 + CLUSTERS_TO_SAVE_MAX ≤ 256 * VOLUME1_FAT_SIZE := by decide
  have hsectors : v'.gNumberOfSectorsInBootDisk = v.gNumberOfSectorsInBootDisk := by rw [h.frame]
  exact ⟨by omega, by omega, hsectors ▸ h.onDisk c hc⟩

/-- The words of the clusters in use are kept. -/
lemma Saved.fat_eq (h : Saved q v v' name L slot) (hL : L ≠ []) {c : UInt16} (hc : v.fat c ≠ 0) :
    v'.fat c = v.fat c := by
  cases L with
  | nil => exact absurd rfl hL
  | cons a L =>
      have hnot : c ∉ a :: L := fun hmem => hc (h.free c hmem)
      obtain ⟨hca, hcL⟩ := not_or.1 (List.mem_cons.not.1 hnot)
      rw [h.fat, saveFat, saveFat_of_notMem hcL hca, Function.update_of_ne hca]

/-- The bytes of the other entries are kept. -/
lemma Saved.entryByte_eq (h : Saved q v v' name L slot) (hne : (d, i) ≠ (q.dirAddress, slot))
    {k : ℕ} (hk : k < 32) : entryByte (v'.dirs d) i k = entryByte (v.dirs d) i k := by
  rw [h.dirs]
  by_cases hd : d = q.dirAddress
  · subst hd
    rw [Function.update_self]
    exact putEntry_of_ne (fun hi => hne (by rw [hi])) hk
  · rw [Function.update_of_ne hd]

lemma Saved.entryCluster_eq (h : Saved q v v' name L slot)
    (hne : (d, i) ≠ (q.dirAddress, slot)) :
    entryCluster (v'.dirs d) i = entryCluster (v.dirs d) i := by
  rw [entryCluster, entryCluster, h.entryByte_eq hne (by omega), h.entryByte_eq hne (by omega)]

lemma Saved.inUse_iff (h : Saved q v v' name L slot) (hne : (d, i) ≠ (q.dirAddress, slot)) :
    InUse (v'.dirs d) i ↔ InUse (v.dirs d) i := by
  rw [InUse, InUse, h.entryByte_eq hne (by omega)]

lemma Saved.ownsClusters_iff (h : Saved q v v' name L slot)
    (hne : (d, i) ≠ (q.dirAddress, slot)) :
    OwnsClusters (v'.dirs d) i ↔ OwnsClusters (v.dirs d) i := by
  rw [OwnsClusters, OwnsClusters, h.inUse_iff hne, h.entryByte_eq hne (by omega)]

lemma Saved.newCluster (h : Saved q v v' name L slot) :
    entryCluster (v'.dirs q.dirAddress) slot = L.headD 0xFFF8 := by
  rw [h.dirs, Function.update_self, dirEntry_cluster]

/-- The chain of an entry that was there before. -/
lemma Saved.oldChain (h : Saved q v v' name L slot) (hL : L ≠ []) {first : UInt16}
    {C : List UInt16} (hC : EntryChain v first C) : EntryChain v' first C :=
  hC.congr (fun _ hc => h.fat_eq hL hc) (by rw [h.frame])

/-- **The clusters taken are the clusters of the new entry.** -/
lemma Saved.newChain (h : Saved q v v' name L slot) (hL : L ≠ []) :
    EntryChain v' (entryCluster (v'.dirs q.dirAddress) slot) L := by
  rw [h.newCluster]
  refine Or.inr ⟨hL, ?_, fun c hc => h.inVolume hc⟩
  cases L with
  | nil => exact absurd rfl hL
  | cons c L =>
      rw [h.fat]
      exact chain_saveFat h.nodup fun x hx => (h.inVolume hx).not_endMark

/-- The new chain shares no cluster with one that was there before. -/
lemma Saved.disjoint (h : Saved q v v' name L slot) {first : UInt16} {C : List UInt16}
    (hC : EntryChain v first C) : List.Disjoint C L :=
  fun c hc hcL => hC.not_free hc (h.free c hcL)

/-- The chain of another entry in use, found after the save, was its chain before. -/
lemma Saved.chain_before (h : Saved q v v' name L slot) (hv : VolumeOk D v) (hL : L ≠ [])
    (hd : d ∈ D) (hi : i < FAT16_ROOT_ENTRIES) (hne : (d, i) ≠ (q.dirAddress, slot))
    (huse : InUse (v'.dirs d) i) {C : List UInt16}
    (hC : EntryChain v' (entryCluster (v'.dirs d) i) C) :
    EntryChain v (entryCluster (v.dirs d) i) C := by
  obtain ⟨C', hC'⟩ := hv.chains d hd i hi ((h.inUse_iff hne).1 huse)
  rw [h.entryCluster_eq hne] at hC
  rwa [hC.unique (h.oldChain hL hC')]

/-- **Saving at least one sector keeps the volume well-formed.** -/
theorem VolumeOk.saved (hv : VolumeOk D v) (h : Saved q v v' name L slot) (hL : L ≠ []) :
    VolumeOk D v' where
  fatbits := by rw [h.frame]; exact hv.fatbits
  fatLoaded := by rw [h.frame]; exact hv.fatLoaded
  rootdir := h.rootdir
  rootdirOnDisk := by rw [h.frame]; exact hv.rootdirOnDisk
  chains := by
    intro d hd i hi huse
    by_cases hne : (d, i) = (q.dirAddress, slot)
    · obtain ⟨rfl, rfl⟩ := Prod.mk.inj hne
      exact ⟨L, h.newChain hL⟩
    · obtain ⟨C, hC⟩ := hv.chains d hd i hi ((h.inUse_iff hne).1 huse)
      exact ⟨C, (h.entryCluster_eq hne) ▸ h.oldChain hL hC⟩
  disjoint := by
    intro d hd i hi d' hd' j hj hij howns howns' C C' hC hC'
    by_cases hne : (d, i) = (q.dirAddress, slot)
    · -- the new entry and an old one
      have hne' : (d', j) ≠ (q.dirAddress, slot) := fun heq => hij (hne.trans heq.symm)
      obtain ⟨rfl, rfl⟩ := Prod.mk.inj hne
      rw [hC.unique (h.newChain hL)]
      exact (h.disjoint (h.chain_before hv hL hd' hj hne' howns'.1 hC')).symm
    · have hold := h.chain_before hv hL hd hi hne howns.1 hC
      by_cases hne' : (d', j) = (q.dirAddress, slot)
      · obtain ⟨rfl, rfl⟩ := Prod.mk.inj hne'
        rw [hC'.unique (h.newChain hL)]
        exact h.disjoint hold
      · exact hv.disjoint d hd i hi d' hd' j hj hij ((h.ownsClusters_iff hne).1 howns)
          ((h.ownsClusters_iff hne').1 howns') C C' hold
          (h.chain_before hv hL hd' hj hne' howns'.1 hC')

end Saved

/-! ## The exact condition -/

/-- **What a save that reports success is to do to the FAT**: `clusters` become the chain of the
entry `slot`, and nothing else changes. -/
structure SaveKeepsFat (D : Set ℕ) (q : SaveArgs) (v v' : Volume) (slot : ℕ)
    (clusters : List UInt16) : Prop where
  wellFormed : VolumeOk D v'
  length : clusters.length = (q.fileSize + VOLUME1_SPC - 1) / VOLUME1_SPC
  free : ∀ c ∈ clusters, v.fat c = 0
  chain : EntryChain v' (entryCluster (v'.dirs q.dirAddress) slot) clusters
  bytes : ∀ d i, (d, i) ≠ (q.dirAddress, slot) → ∀ k < 32,
    entryByte (v'.dirs d) i k = entryByte (v.dirs d) i k
  chains : ∀ d ∈ D, ∀ i < FAT16_ROOT_ENTRIES, (d, i) ≠ (q.dirAddress, slot) →
    InUse (v.dirs d) i → ∀ C, EntryChain v (entryCluster (v.dirs d) i) C →
      EntryChain v' (entryCluster (v'.dirs d) i) C

/-- A save of nothing enters the closing mark as the first cluster, which no chain begins with. -/
lemma not_saveKeepsFat {D : Set ℕ} {q : SaveArgs} {v v' : Volume} {name : CString}
    {L : List UInt16} {taken : ℕ} (h : Saved q v v' name L taken) (hsize : q.fileSize = 0)
    (slot : ℕ) (clusters : List UInt16) : ¬ SaveKeepsFat D q v v' slot clusters := by
  intro hkeeps
  have hslot : slot = taken := by
    by_contra hne
    -- the entry that was taken has changed, so it is the new one
    have hbyte := hkeeps.bytes q.dirAddress taken (by simp [Ne.symm hne]) 0 (by omega)
    rw [h.dirs, Function.update_self, dirEntry_head, h.slot_empty] at hbyte
    exact h.name_ne hbyte
  have hL : L = [] := List.eq_nil_of_length_eq_zero (h.length.trans hsize)
  have hclusters : clusters = [] :=
    List.eq_nil_of_length_eq_zero (by rw [hkeeps.length, hsize]; rfl)
  have hchain := hkeeps.chain
  rw [hslot, h.newCluster, hL, hclusters] at hchain
  rcases hchain with ⟨hzero, -⟩ | ⟨hne, -, -⟩
  · exact absurd hzero (by decide)
  · exact hne rfl

/-- **A save keeps the FAT well-formed if and only if it saves at least one sector.** -/
theorem saveKeepsFat_iff (D : Set ℕ) (q : SaveArgs) (v v' : Volume) (hv : VolumeOk D v)
    (hsave : fsSaveFile q v = .ok 0 v') :
    (∃ slot clusters, SaveKeepsFat D q v v' slot clusters) ↔ q.fileSize ≠ 0 := by
  obtain ⟨name, L, slot, h⟩ := fsSaveFile_ok_inv hv.fatLoaded hv.rootdir hsave
  constructor
  · rintro ⟨slot', clusters, hkeeps⟩ hsize
    exact not_saveKeepsFat h hsize slot' clusters hkeeps
  · intro hsize
    have hL : L ≠ [] := by
      rintro rfl
      exact hsize h.length.symm
    refine ⟨slot, L, ?_⟩
    exact {
      wellFormed := hv.saved h hL
      length := by rw [h.length, VOLUME1_SPC, Nat.add_sub_cancel, Nat.div_one]
      free := h.free
      chain := h.newChain hL
      bytes := fun d i hne k hk => h.entryByte_eq hne hk
      chains := fun d _ i _ hne _ C hC => (h.entryCluster_eq hne) ▸ h.oldChain hL hC }

/-! ## A save on an empty volume -/

/-- A formatted volume without files. -/
def emptyVolume : Volume where
  disk _ _ := 0
  gNumberOfSectorsInBootDisk := 65536
  gCurrentvolumeFatbits := 16
  fat _ := 0
  gFatCacheLoaded := FAT_CACHE_LOADED
  gFatCacheSaved := 1
  fat16ClustersToSave _ := 0
  dirs _ _ := 0
  root := some ⟨TRUE, 1234, 1, 512⟩
  mem := ⟨fun _ => 0, []⟩

lemma emptyVolume_ok (D : Set ℕ) : VolumeOk D emptyVolume where
  fatbits := rfl
  fatLoaded := rfl
  rootdir _ _ := rfl
  rootdirOnDisk := by decide
  chains := fun _ _ _ _ huse => absurd rfl huse.1
  disjoint := fun _ _ _ _ _ _ _ _ _ howns => absurd rfl howns.1.1

/-- `FILE    TXT`. -/
def fileTxt : CString where
  bytes i := [70, 73, 76, 69, 32, 32, 32, 32, 84, 88, 84].getD i 0
  terminated := ⟨11, rfl⟩

/-- Saving `n` sectors as `FILE    TXT` in the root directory. -/
def saveFileTxt (n : ℕ) : SaveArgs where
  fatAddress := VOLUME1_FAT_ADDRESS
  dirAddress := VOLUME1_ROOTDIR_ADDRESS
  dirEntries := FAT16_ROOT_ENTRIES
  fileName := some fileTxt
  fileSize := n
  sizeInBytes := 512 * n
  fileAddress := 0x30100048
  flag := 0x20

lemma emptyVolume_save {n : ℕ} (hn : n ≤ maxFileSizeInSectors) :
    ∃ v', fsSaveFile (saveFileTxt n) emptyVolume = .ok 0 v' := by
  have hcount : freeClusters CLUSTERS_TO_SAVE_MAX 3 emptyVolume.fat = CLUSTERS_TO_SAVE_MAX := by
    rw [freeClusters, List.countP_eq_length.2, List.length_range]
    intro k _
    rfl
  have hslot : findEmptyDirectoryEntry (emptyVolume.dirs VOLUME1_ROOTDIR_ADDRESS)
      (FAT16_ROOT_ENTRIES : ℤ).toNat = some 0 :=
    findEmptyDirectoryEntry_eq_some_iff.2 ⟨by decide, rfl, fun j hj => absurd hj (by omega)⟩
  have hentries : (0 : ℤ) < FAT16_ROOT_ENTRIES ∧ (FAT16_ROOT_ENTRIES : ℤ) ≤ FAT16_ROOT_ENTRIES := by
    decide
  have haddress : VOLUME1_ROOTDIR_ADDRESS ≠ 0 := by decide
  refine fsSaveFile_run rfl (fun _ _ => rfl) (by decide) rfl haddress rfl (by decide)
    hentries hn ?_ ?_ hslot
  · rw [hcount]
    exact lt_of_le_of_lt hn (by decide)
  · intro c hc _
    have hlimit : emptyVolume.gNumberOfSectorsInBootDisk = 65536 := rfl
    rw [hlimit]
    simp only [dataareaLba, VOLUME1_DATAAREA_LBA, CLUSTERS_TO_SAVE_MAX] at hc ⊢
    omega

/-- The condition at a save of two sectors. -/
theorem saveKeepsFat_iff_twoSectors : ∃ v', fsSaveFile (saveFileTxt 2) emptyVolume = .ok 0 v' ∧
    ((∃ slot clusters, SaveKeepsFat {VOLUME1_ROOTDIR_ADDRESS} (saveFileTxt 2) emptyVolume v' slot
      clusters) ↔ (saveFileTxt 2).fileSize ≠ 0) := by
  obtain ⟨v', hsave⟩ := emptyVolume_save (n := 2) (by decide)
  exact ⟨v', hsave, saveKeepsFat_iff _ _ _ v' (emptyVolume_ok _) hsave⟩

/-- **A save of no sector is reported as a success and leaves a broken entry.** -/
theorem saveKeepsFat_fails : ¬ ∀ (D : Set ℕ) (q : SaveArgs) (v v' : Volume), VolumeOk D v →
    fsSaveFile q v = .ok 0 v' → ∃ slot clusters, SaveKeepsFat D q v v' slot clusters := by
  intro hall
  obtain ⟨v', hsave⟩ := emptyVolume_save (n := 0) (by decide)
  obtain ⟨slot, clusters, hkeeps⟩ := hall ∅ _ _ v' (emptyVolume_ok ∅) hsave
  obtain ⟨name, L, taken, h⟩ := fsSaveFile_ok_inv rfl (fun _ _ => rfl) hsave
  exact not_saveKeepsFat h rfl slot clusters hkeeps

end Gramado
