import Gramado.Fs.LoadBounds

/-!
# Loading along the FAT

What `fsLoadFile` makes of whatever the FAT holds.  Its loop ends with success at the marks `0xFFFF`
and `0xFFF8` only.  It panics at any other word that is no cluster, and where the FAT leads in a circle
nothing stops it: the sectors are counted, but the count is compared with its limit at the end.

* `loadClusters_none_iff`, `loadClusters_some_iff` — when the loop is still running, and when it has
  ended with success.
* `load_chain` — a chain that ends in one of the marks is loaded exactly, if the call's limits allow it.
* `load_terminates` — when a call is over within as many reads as a FAT has words.
-/

namespace Gramado

open StateFault Cells

/-! ## The loop -/

/-- The loop ends behind a cluster with this word, one way or another. -/
def FinalWord (c : UInt16) : Prop := c = 0xFFF7 ∨ EndMark c

/-- The loop copies its first `m` sectors, and the FAT has then led to a mark. -/
structure EndsAfter (v : Volume) (buffer : ℕ) (first : UInt16) (m : ℕ) : Prop where
  pos : 0 < m
  copied : ∀ j < m, CanCopy v buffer first j
  mark : EndMark (clusterAt v.fat first m)

section Loop

variable {v : Volume} {buffer m : ℕ} {first c : UInt16}

@[simp] lemma canCopy_copySector {b j : ℕ} :
    CanCopy (v.copySector b c) buffer first j ↔ CanCopy v buffer first j :=
  ⟨fun h => ⟨h.address, h.cluster, h.disk⟩, fun h => ⟨h.address, h.cluster, h.disk⟩⟩

/-- What can be copied is not final. -/
lemma CanCopy.not_final {j : ℕ} (h : CanCopy v buffer first j) :
    ¬ FinalWord (clusterAt v.fat first j) := by
  intro hfinal
  refine h.cluster (Or.inr ?_)
  rcases hfinal with hbad | hmark | hmark
  · rw [hbad]
    decide
  · rw [hmark]
    decide
  · rw [hmark]
    decide

/-- **The loop is still running** if it has copied all its sectors and none of them was final. -/
lemma loadClusters_none_iff : ∀ (fuel : ℕ) {buffer nreads : ℕ} {first : UInt16} {v : Volume},
    v.gCurrentvolumeFatbits = 16 → buffer < 2 ^ 64 →
    (outcome (loadClusters fuel buffer first nreads) v = .ok none ↔
      (∀ j < fuel, CanCopy v buffer first j) ∧
        ∀ j < fuel, ¬ FinalWord (clusterAt v.fat first (j + 1)))
  | 0, _, _, _, _, _, _ =>
      iff_of_true rfl
        ⟨fun _ hj => absurd hj (Nat.not_lt_zero _), fun _ hj => absurd hj (Nat.not_lt_zero _)⟩
  | fuel + 1, buffer, nreads, first, v, hbits, hbuffer => by
      by_cases hfirst : CanCopy v buffer first 0
      swap
      · obtain ⟨e, hstep⟩ := loadClusters_stop hbits hbuffer hfirst fuel nreads
        rw [outcome_of_error hstep]
        exact iff_of_false (by simp) fun h => hfirst (h.1 0 (Nat.succ_pos _))
      have hstep := loadClusters_turn hbits hbuffer hfirst fuel nreads
      by_cases hfinal : FinalWord (v.fat first)
      · refine iff_of_false ?_ fun h => h.2 0 (Nat.succ_pos _) hfinal
        simp only [outcome, hstep]
        rcases hfinal with hbad | hmark
        · simp [hbad]
        · have hgood : v.fat first ≠ 0xFFF7 := by
            rintro hbad
            rw [hbad] at hmark
            exact absurd hmark (by decide)
          rw [if_neg hgood, if_pos hmark]
          split_ifs <;> simp
      · obtain ⟨hbad, hmark⟩ := not_or.1 hfinal
        have ih := @loadClusters_none_iff fuel (ulongAdd buffer SECTOR_SIZE) (nreads + 1)
          (v.fat first) (v.copySector buffer first) hbits (ulongAdd_lt buffer SECTOR_SIZE)
        have houtcome : outcome (loadClusters (fuel + 1) buffer first nreads) v
            = outcome (loadClusters fuel (ulongAdd buffer SECTOR_SIZE) (v.fat first) (nreads + 1))
              (v.copySector buffer first) := by
          simp only [outcome, hstep, if_neg hbad]
          rw [if_neg hmark]
        rw [houtcome, ih, Nat.forall_lt_succ_left, Nat.forall_lt_succ_left]
        simp only [canCopy_copySector, canCopy_succ_iff, clusterAt_succ]
        exact ⟨fun h => ⟨⟨hfirst, h.1⟩, hfinal, h.2⟩, fun h => ⟨h.1.2, h.2.2⟩⟩

/-- A loop that goes on ends one sector later than its rest. -/
lemma endsAfter_succ_iff (hfirst : CanCopy v buffer first 0) (hmark : ¬ EndMark (v.fat first)) :
    EndsAfter v buffer first (m + 1) ↔ EndsAfter v (ulongAdd buffer SECTOR_SIZE) (v.fat first) m := by
  constructor
  · rintro ⟨-, hcopied, hend⟩
    rw [clusterAt_succ] at hend
    refine ⟨Nat.pos_of_ne_zero fun hzero => ?_, fun j hj => ?_, hend⟩
    · rw [hzero] at hend
      exact hmark hend
    · exact canCopy_succ_iff.1 (hcopied (j + 1) (Nat.succ_lt_succ hj))
  · rintro ⟨-, hcopied, hend⟩
    refine ⟨Nat.succ_pos _, fun j hj => ?_, by rwa [clusterAt_succ]⟩
    cases j with
    | zero => exact hfirst
    | succ j => exact canCopy_succ_iff.2 (hcopied j (Nat.lt_of_succ_lt_succ hj))

/-- A loop ends at its first final word. -/
lemma EndsAfter.eq_one (h : EndsAfter v buffer first m) (hfinal : FinalWord (v.fat first)) : m = 1 := by
  have hpos := h.pos
  by_contra hne
  exact (h.copied 1 (by omega)).not_final hfinal

/-- **The loop ends with success** at a mark that it reaches, if it has not copied too much. -/
lemma loadClusters_some_iff : ∀ (fuel : ℕ) {buffer nreads n : ℕ} {first : UInt16} {v : Volume},
    v.gCurrentvolumeFatbits = 16 → buffer < 2 ^ 64 →
    (outcome (loadClusters fuel buffer first nreads) v = .ok (some n) ↔
      n = 0 ∧ ∃ m ≤ fuel, EndsAfter v buffer first m ∧ (nreads + m) / 2 ≤ IMAGESIZE_LIMIT_IN_KB)
  | 0, _, _, _, _, _, _, _ => by
      refine iff_of_false (fun h => nomatch h) ?_
      rintro ⟨-, m, hm, hends, -⟩
      exact absurd hends.pos (Nat.not_lt.2 hm)
  | fuel + 1, buffer, nreads, n, first, v, hbits, hbuffer => by
      by_cases hfirst : CanCopy v buffer first 0
      swap
      · obtain ⟨e, hstep⟩ := loadClusters_stop hbits hbuffer hfirst fuel nreads
        rw [outcome_of_error hstep]
        refine iff_of_false (by simp) ?_
        rintro ⟨-, m, -, hends, -⟩
        exact hfirst (hends.copied 0 hends.pos)
      have hstep := loadClusters_turn hbits hbuffer hfirst fuel nreads
      by_cases hbad : v.fat first = 0xFFF7
      · rw [if_pos hbad] at hstep
        rw [outcome_of_error hstep]
        refine iff_of_false (by simp) ?_
        rintro ⟨-, m, -, hends, -⟩
        have hmark := hends.mark
        rw [hends.eq_one (.inl hbad)] at hmark
        have hword : EndMark (v.fat first) := hmark
        rw [hbad] at hword
        exact absurd hword (by decide)
      by_cases hmark : EndMark (v.fat first)
      · rw [if_neg hbad, if_pos hmark] at hstep
        have hends : EndsAfter v buffer first 1 :=
          ⟨Nat.one_pos, fun j hj => by rwa [Nat.lt_one_iff.1 hj], hmark⟩
        by_cases hlarge : (nreads + 1) / 2 > IMAGESIZE_LIMIT_IN_KB
        · rw [if_pos hlarge] at hstep
          rw [outcome_of_error hstep]
          refine iff_of_false (by simp) ?_
          rintro ⟨-, m, -, hends', hsmall⟩
          rw [hends'.eq_one (.inr hmark)] at hsmall
          exact absurd hsmall (Nat.not_le.2 hlarge)
        · rw [if_neg hlarge] at hstep
          rw [outcome_of_ok hstep, Except.ok.injEq, Option.some.injEq]
          exact ⟨fun h => ⟨h.symm, 1, by omega, hends, not_lt.1 hlarge⟩, fun h => h.1.symm⟩
      · have ih := @loadClusters_some_iff fuel (ulongAdd buffer SECTOR_SIZE) (nreads + 1) n
          (v.fat first) (v.copySector buffer first) hbits (ulongAdd_lt buffer SECTOR_SIZE)
        have hends : ∀ m, EndsAfter v buffer first (m + 1) ↔
            EndsAfter (v.copySector buffer first) (ulongAdd buffer SECTOR_SIZE) (v.fat first) m := by
          intro m
          rw [endsAfter_succ_iff hfirst hmark]
          exact ⟨fun h => ⟨h.pos, fun j hj => canCopy_copySector.2 (h.copied j hj), h.mark⟩,
            fun h => ⟨h.pos, fun j hj => canCopy_copySector.1 (h.copied j hj), h.mark⟩⟩
        have houtcome : outcome (loadClusters (fuel + 1) buffer first nreads) v
            = outcome (loadClusters fuel (ulongAdd buffer SECTOR_SIZE) (v.fat first) (nreads + 1))
              (v.copySector buffer first) := by
          simp only [outcome, hstep, if_neg hbad]
          rw [if_neg hmark]
        rw [houtcome, ih]
        refine and_congr_right fun _ => ⟨?_, ?_⟩
        · rintro ⟨m, hm, hrest, hsmall⟩
          exact ⟨m + 1, by omega, (hends m).2 hrest, by rwa [← Nat.add_assoc, Nat.add_right_comm]⟩
        · rintro ⟨m, hm, hwhole, hsmall⟩
          obtain ⟨m, rfl⟩ := Nat.exists_eq_succ_of_ne_zero hwhole.pos.ne'
          exact ⟨m, by omega, (hends m).1 hwhole, by rwa [Nat.add_right_comm, Nat.add_assoc]⟩

end Loop

/-! ## The volume of the examples -/

lemma fileTxt_lookup {v : Volume} (hdirs : v.dirs = oneFileVolume.dirs) :
    v.lookup VOLUME1_ROOTDIR_ADDRESS fileTxt = some 0 := by
  refine findEntry_eq_some_iff.2 ⟨by decide, ?_, fun j hj => absurd hj (by omega)⟩
  rw [hdirs]
  exact (entryMatches_eleven fileTxt_strlen).2 (by decide)

/-- The volume with one file, and a FAT that holds the words `fat`. -/
def fatVolume (fat : UInt16 → UInt16) : Volume := { oneFileVolume with fat := fat }

lemma fatVolume_cachesLoaded (fat : UInt16 → UInt16) : CachesLoaded (fatVolume fat) where
  fatbits := rfl
  fatLoaded := rfl
  rootdir := oneFileVolume_rootdir
  rootdirOnDisk := oneFileVolume_ok.rootdirOnDisk

lemma fatVolume_goesOn (fat : UInt16 → UInt16) (buffer : ℕ) :
    GoesOn { loadFileTxt with buffer := buffer } (fatVolume fat) 0 where
  accepted := (by decide : loadPanic loadFileTxt oneFileVolume.root = none)
  found := ⟨fileTxt, rfl, by decide, fileTxt_strlen.le, fileTxt_lookup rfl⟩
  size := (by decide : entryFileSize (oneFileVolume.dirs loadFileTxt.dirAddress) 0 < loadFileTxt.limit)

/-- A load from it ends at a mark. -/
lemma fatVolume_ends {fat : UInt16 → UInt16} {fuel : ℕ} {v' : Volume}
    (hload : fsLoadFile fuel loadFileTxt (fatVolume fat) = .ok (some 0) v') :
    ∃ m, 0 < m ∧ EndMark (clusterAt fat 3 m) ∧ m / 2 ≤ IMAGESIZE_LIMIT_IN_KB := by
  have hcaches := fatVolume_cachesLoaded fat
  have hrun := (fatVolume_goesOn fat loadFileTxt.buffer).load_eq hcaches fuel
  have hfirst : entryCluster ((fatVolume fat).dirs loadFileTxt.dirAddress) 0 = 3 :=
    oneFileVolume_cluster
  rw [hfirst, if_neg (by decide)] at hrun
  have hsome := (loadClusters_some_iff fuel hcaches.fatbits (by decide)).1
    (outcome_of_ok (hrun.symm.trans hload))
  obtain ⟨-, m, -, hends, hsmall⟩ := hsome
  exact ⟨m, hends.pos, hends.mark, by rwa [Nat.zero_add] at hsmall⟩

/-! ## A chain -/

/-- **A chain is loaded exactly**: the call returns success, the sectors of the chain stand in the
destination in the chain's order, and no other sector of the data area matters. -/
structure LoadsChain (r : LoadArgs) (v : Volume) (C : List UInt16) : Prop where
  placed : ∀ fuel ≥ C.length, ∃ mem, fsLoadFile fuel r v = .ok (some 0) { v with mem := mem } ∧
    mem.slice r.buffer (SECTOR_SIZE * C.length) = C.flatMap (sectorOf v.disk)
  only : ∀ fuel disk, (∀ lba < VOLUME1_DATAAREA_LBA, disk lba = v.disk lba) →
    (∀ c ∈ C, disk (dataareaLba c) = v.disk (dataareaLba c)) →
      outcome (fsLoadFile fuel r) { v with disk := disk } = outcome (fsLoadFile fuel r) v ∧
        (after (fsLoadFile fuel r) { v with disk := disk }).mem = (after (fsLoadFile fuel r) v).mem

/-- What the call allows: the size in the entry is below that of the destination, the chain is not too
long, and no sector's address is refused. -/
structure LoadAllowed (r : LoadArgs) (fileSize length : ℕ) : Prop where
  size : fileSize < r.limit
  short : length / 2 ≤ IMAGESIZE_LIMIT_IN_KB
  addresses : ∀ k < length, checkAddressValidation (sectorAddress r.buffer k) = TRUE

section Chain

variable {v : Volume} {r : LoadArgs} {name : CString} {i m : ℕ} {C : List UInt16} {first : UInt16}
  {disk : ℕ → ℕ → UInt8}

/-- Along a chain, the loop ends with it. -/
lemma EndsAfter.eq_length {buffer : ℕ} (h : EndsAfter v buffer first m)
    (hC : Chain (nextCluster v.fat) EndMark first C) (hin : ∀ c ∈ C, InVolume v c) : m = C.length := by
  obtain ⟨hmem, hmark⟩ := clusterAt_chain hC
  rcases Nat.lt_trichotomy m C.length with hlt | heq | hgt
  · exact absurd h.mark (hin _ (hmem m hlt)).not_endMark
  · exact heq
  · exact absurd (.inr hmark) (h.copied _ hgt).not_final

/-- Other contents of the data area leave the caches as they are. -/
lemma CachesLoaded.of_disk (hv : CachesLoaded v)
    (hsame : ∀ lba < VOLUME1_DATAAREA_LBA, disk lba = v.disk lba) :
    CachesLoaded { v with disk := disk } where
  fatbits := hv.fatbits
  fatLoaded := hv.fatLoaded
  rootdir := by
    intro o ho
    show v.dirs _ o = disk _ _
    rw [hsame _ (by simp only [SECTOR_SIZE, rootdirSize, VOLUME1_ROOTDIR_LBA,
      VOLUME1_DATAAREA_LBA] at ho ⊢; omega)]
    exact hv.rootdir o ho
  rootdirOnDisk := hv.rootdirOnDisk

/-- A chain that ends in a mark, and its clusters, do not see the rest of the data area. -/
lemma loadsChain_only (hv : CachesLoaded v) (hr : loadPanic r v.root = none)
    (hfile : r.fileName = some name) (hname : name.bytes 0 ≠ 0) (hlength : name.strlen ≤ 11)
    (hi : v.lookup r.dirAddress name = some i) (hne : C ≠ [])
    (hC : Chain (nextCluster v.fat) EndMark (entryCluster (v.dirs r.dirAddress) i) C)
    (hin : ∀ c ∈ C, InVolume v c) (fuel : ℕ)
    (hdata : ∀ lba < VOLUME1_DATAAREA_LBA, disk lba = v.disk lba)
    (hsame : ∀ c ∈ C, disk (dataareaLba c) = v.disk (dataareaLba c)) :
    outcome (fsLoadFile fuel r) { v with disk := disk } = outcome (fsLoadFile fuel r) v ∧
      (after (fsLoadFile fuel r) { v with disk := disk }).mem = (after (fsLoadFile fuel r) v).mem := by
  have hrun := fsLoadFile_eq hv hr hfile hname hlength fuel
  have hrun' := fsLoadFile_eq (hv.of_disk hdata) hr hfile hname hlength fuel
  have hlookup : Volume.lookup { v with disk := disk } r.dirAddress name = some i := hi
  rw [hi] at hrun
  rw [hlookup] at hrun'
  simp only [outcome, after, hrun, hrun', loadEntry]
  split_ifs with hgiveup
  · exact ⟨rfl, rfl⟩
  · exact loadClusters_congr (v := v) (w := { v with disk := disk }) hv.fatbits hv.fatbits hne hC
      (fun c hc => ⟨hin c hc, ⟨(hin c hc).data, (hin c hc).fat, (hin c hc).disk⟩⟩)
      (fun c hc => ⟨rfl, hsame c hc⟩) rfl

/-- **When a chain is loaded.**  For every FAT and every entry whose clusters are a chain of the volume
that ends in one of the two marks, the load is exact if and only if the call allows it. -/
theorem load_chain (hv : CachesLoaded v) (hr : loadPanic r v.root = none)
    (hfile : r.fileName = some name) (hname : name.bytes 0 ≠ 0) (hlength : name.strlen ≤ 11)
    (hi : v.lookup r.dirAddress name = some i) (hne : C ≠ [])
    (hC : Chain (nextCluster v.fat) EndMark (entryCluster (v.dirs r.dirAddress) i) C)
    (hin : ∀ c ∈ C, InVolume v c) (hrange : r.buffer + SECTOR_SIZE * C.length ≤ 2 ^ 64) :
    LoadsChain r v C ↔ LoadAllowed r (entryFileSize (v.dirs r.dirAddress) i) C.length := by
  have hpos : 0 < C.length := List.length_pos_of_ne_nil hne
  have hbuffer : r.buffer < 2 ^ 64 := by
    simp only [SECTOR_SIZE] at hrange
    omega
  have hfirst : ¬ (entryCluster (v.dirs r.dirAddress) i = 0 ∨
      entryCluster (v.dirs r.dirAddress) i > 0xFFF0) := by
    obtain ⟨hmem, -⟩ := clusterAt_chain hC
    exact (hin _ (hmem 0 hpos)).le_max
  have hrun := fsLoadFile_eq hv hr hfile hname hlength
  simp only [hi, loadEntry] at hrun
  constructor
  · rintro ⟨hplaced, -⟩
    obtain ⟨mem, hload, -⟩ := hplaced C.length le_rfl
    rw [hrun] at hload
    split_ifs at hload with hgiveup
    · simp at hload
    have houtcome := (loadClusters_some_iff C.length hv.fatbits hbuffer).1 (outcome_of_ok hload)
    obtain ⟨-, m, -, hends, hsmall⟩ := houtcome
    obtain rfl := hends.eq_length hC hin
    exact ⟨not_le.1 fun hle => hgiveup (.inl hle), by rwa [Nat.zero_add] at hsmall,
      fun k hk => (hends.copied k hk).address⟩
  · rintro ⟨hsize, hshort, haddresses⟩
    refine ⟨fun fuel hfuel => ⟨copySectors v.disk C r.buffer v.mem, ?_, slice_copySectors hrange⟩,
      fun fuel disk => loadsChain_only hv hr hfile hname hlength hi hne hC hin fuel⟩
    rw [hrun, if_neg (not_or.2 ⟨not_le.2 hsize, hfirst⟩)]
    exact loadClusters_all hv.fatbits hbuffer hne hC hin hfuel (by rwa [Nat.zero_add]) haddresses

end Chain

/-- The load of a file of one sector. -/
theorem load_chain_oneFileVolume : LoadsChain loadFileTxt oneFileVolume [3] ↔
    LoadAllowed loadFileTxt (entryFileSize (oneFileVolume.dirs loadFileTxt.dirAddress) 0) 1 :=
  load_chain oneFileVolume_ok.cachesLoaded (by decide) rfl (by decide) fileTxt_strlen.le
    (fileTxt_lookup rfl) (by decide) (oneFileVolume_cluster.symm ▸ oneFileVolume_chain)
    (fun c hc => List.mem_singleton.1 hc ▸ oneFileVolume_inVolume) (by decide)

/-- A FAT with the chain of the clusters 3 to 814. -/
def longFat (c : UInt16) : UInt16 := if c = 814 then 0xFFF8 else c + 1

/-- The clusters of the chain from one of them on. -/
lemma longFat_chain : ∀ n k, 3 ≤ k → k + n = 815 →
    Chain (nextCluster longFat) (0xFFF8 ≤ ·) (if n = 0 then 0xFFF8 else UInt16.ofNat k)
      ((List.range' k n).map UInt16.ofNat)
  | 0, _, _, _ => (by decide : (0xFFF8 : UInt16) ≤ 0xFFF8)
  | n + 1, k, hk, hn => by
      have hrest := longFat_chain n (k + 1) (by omega) (by omega)
      have hsmall : ¬ (0xFFF8 : UInt16) ≤ UInt16.ofNat k := by
        rw [UInt16.le_iff_toNat_le, UInt16.toNat_ofNat']
        show ¬ 65528 ≤ k % 2 ^ 16
        omega
      rw [if_neg (Nat.succ_ne_zero n)]
      refine ⟨rfl, hsmall, _, ?_, hrest⟩
      rw [nextCluster, longFat]
      congr 1
      by_cases hlast : n = 0
      · obtain rfl : k = 814 := by omega
        rw [if_pos hlast]
        rfl
      · have hne : UInt16.ofNat k ≠ 814 := by
          rw [ne_eq, ← UInt16.toNat_inj, UInt16.toNat_ofNat']
          show ¬ k % 2 ^ 16 = 814
          omega
        rw [if_neg hne, if_neg hlast, UInt16.ofNat_add]
        rfl

lemma longFat_clusterAt {m : ℕ} (hm : m ≤ 811) : clusterAt longFat 3 m = UInt16.ofNat (3 + m) := by
  induction m with
  | zero => rfl
  | succ m ih =>
      have hne : UInt16.ofNat (3 + m) ≠ 814 := by
        rw [ne_eq, ← UInt16.toNat_inj, UInt16.toNat_ofNat']
        show ¬ (3 + m) % 2 ^ 16 = 814
        omega
      rw [clusterAt, Function.iterate_succ_apply', ← clusterAt, ih (by omega), longFat, if_neg hne,
        ← Nat.add_assoc, UInt16.ofNat_add (3 + m) 1]
      rfl

/-- A chain with the mark `0xFFF9` behind it is not loaded, and neither is one of 812 clusters. -/
theorem load_chain_fails :
    (Chain (nextCluster fun _ => 0xFFF9) (0xFFF8 ≤ ·) 3 [3] ∧
      ¬ LoadsChain loadFileTxt (fatVolume fun _ => 0xFFF9) [3]) ∧
    Chain (nextCluster longFat) (0xFFF8 ≤ ·) 3 ((List.range' 3 812).map UInt16.ofNat) ∧
      ¬ LoadsChain loadFileTxt (fatVolume longFat) ((List.range' 3 812).map UInt16.ofNat) := by
  have hstop : (0xFFF8 : UInt16) ≤ 0xFFF9 := by decide
  refine ⟨⟨⟨rfl, by decide, 0xFFF9, rfl, hstop⟩, fun hloads => ?_⟩,
    longFat_chain 812 3 le_rfl rfl, fun hloads => ?_⟩
  · obtain ⟨mem, hload, -⟩ := hloads.placed _ le_rfl
    obtain ⟨m, hpos, hmark, -⟩ := fatVolume_ends hload
    obtain ⟨m, rfl⟩ := Nat.exists_eq_succ_of_ne_zero hpos.ne'
    rw [clusterAt, Function.iterate_succ_apply'] at hmark
    exact absurd hmark (by decide)
  · obtain ⟨mem, hload, -⟩ := hloads.placed _ le_rfl
    obtain ⟨m, -, hmark, hsmall⟩ := fatVolume_ends hload
    simp only [IMAGESIZE_LIMIT_IN_KB] at hsmall
    rw [longFat_clusterAt (by omega), EndMark, ← UInt16.toNat_inj, ← UInt16.toNat_inj,
      UInt16.toNat_ofNat'] at hmark
    have hmarks : (3 + m) % 2 ^ 16 = 65535 ∨ (3 + m) % 2 ^ 16 = 65528 := hmark
    omega

/-! ## When a call is over -/

/-- The number of words that the FAT of a FAT16 volume can have. -/
def FAT16_WORDS : ℕ := 0x10000

/-- The cluster has a number that the loop accepts, and a sector on the disk. -/
def Readable (v : Volume) (c : UInt16) : Prop :=
  ¬ (c = 0 ∨ c > 0xFFF0) ∧ dataareaLba c < v.gNumberOfSectorsInBootDisk

/-- **The call is over** within as many reads as the FAT has words: it has returned, or panicked. -/
def OverInTime (r : LoadArgs) (v : Volume) : Prop :=
  outcome (fsLoadFile FAT16_WORDS r) v ≠ .ok none

/-- The call has returned within as many reads as the FAT has words. -/
def ReturnsInTime (r : LoadArgs) (v : Volume) : Prop :=
  ∃ n, outcome (fsLoadFile FAT16_WORDS r) v = .ok (some n)

/-- From the first cluster on the FAT does not lead in a circle: it comes to a word that is no
cluster.  Or the address of a sector is refused in time. -/
def LeadsOut (v : Volume) (buffer : ℕ) (first : UInt16) : Prop :=
  (∃ j, ¬ Readable v (clusterAt v.fat first j)) ∨
    ∃ j < FAT16_WORDS, checkAddressValidation (sectorAddress buffer j) ≠ TRUE

/-- The entry has no first cluster, or the FAT leads from it to a mark, through clusters that can be
copied and are not too many. -/
def LeadsToMark (v : Volume) (buffer : ℕ) (first : UInt16) : Prop :=
  first = 0 ∨ first > 0xFFF0 ∨ ∃ m, EndsAfter v buffer first m ∧ m / 2 ≤ IMAGESIZE_LIMIT_IN_KB

section Call

variable {v : Volume} {r : LoadArgs} {buffer i : ℕ} {first : UInt16}

/-- **A path through the FAT that leads out does so in time**: there are no more clusters than that. -/
lemma exists_not_readable_lt {j : ℕ} (h : ¬ Readable v (clusterAt v.fat first j)) :
    ∃ k < FAT16_WORDS, ¬ Readable v (clusterAt v.fat first k) := by
  classical
  let S : Finset UInt16 := ((Finset.Icc 1 0xFFF0).image UInt16.ofNat).filter (Readable v)
  have hcard : S.card ≤ 0xFFF0 :=
    (Finset.card_filter_le _ _).trans (Finset.card_image_le.trans (by rw [Nat.card_Icc]))
  have hmem : ∀ c : UInt16, c ∈ S ↔ Readable v c := by
    intro c
    refine Finset.mem_filter.trans (and_iff_right_of_imp fun hc => ?_)
    obtain ⟨hzero, hlarge⟩ := not_or.1 hc.1
    refine Finset.mem_image.2 ⟨c.toNat, Finset.mem_Icc.2 ⟨?_, ?_⟩, UInt16.ofNat_toNat⟩
    · refine Nat.one_le_iff_ne_zero.2 fun heq => hzero ?_
      rw [← UInt16.toNat_inj, heq]
      rfl
    · exact UInt16.le_iff_toNat_le.1 (UInt16.not_lt.1 hlarge)
  obtain ⟨k, hk, hout⟩ := exists_notMem_le_card (mt (hmem _).1 h)
  exact ⟨k, lt_of_le_of_lt (hk.trans hcard) (by decide), mt (hmem _).2 hout⟩

/-- The loop is over in time exactly if the FAT leads out. -/
lemma loadClusters_over_iff (hbits : v.gCurrentvolumeFatbits = 16) (hbuffer : buffer < 2 ^ 64) :
    outcome (loadClusters FAT16_WORDS buffer first 0) v ≠ .ok none ↔ LeadsOut v buffer first := by
  rw [ne_eq, loadClusters_none_iff FAT16_WORDS hbits hbuffer]
  have hreadable : ∀ {j}, CanCopy v buffer first j ↔
      checkAddressValidation (sectorAddress buffer j) = TRUE ∧ Readable v (clusterAt v.fat first j) :=
    ⟨fun h => ⟨h.address, h.cluster, h.disk⟩, fun h => ⟨h.1, h.2.1, h.2.2⟩⟩
  constructor
  · intro hover
    by_contra hin
    obtain ⟨hall, haddress⟩ := not_or.1 hin
    have hcopy : ∀ j < FAT16_WORDS, CanCopy v buffer first j := fun j hj =>
      hreadable.2 ⟨by_contra fun h => haddress ⟨j, hj, h⟩, by_contra fun h => hall ⟨j, h⟩⟩
    refine hover ⟨hcopy, fun j _ hfinal => hall ⟨j + 1, fun h => h.1 (Or.inr ?_)⟩⟩
    rcases hfinal with hbad | hmark | hmark
    · rw [hbad]
      decide
    · rw [hmark]
      decide
    · rw [hmark]
      decide
  · rintro (⟨j, hj⟩ | ⟨j, hj, hrefused⟩) ⟨hcopy, -⟩
    · obtain ⟨k, hk, hout⟩ := exists_not_readable_lt hj
      exact hout (hreadable.1 (hcopy k hk)).2
    · exact hrefused (hcopy j hj).address

/-- A call that goes on is over in time exactly if the FAT leads out. -/
lemma GoesOn.over_iff (hv : CachesLoaded v) (hgoes : GoesOn r v i) (hbuffer : r.buffer < 2 ^ 64) :
    OverInTime r v ↔ LeadsOut v r.buffer (entryCluster (v.dirs r.dirAddress) i) := by
  have hrun := hgoes.load_eq hv FAT16_WORDS
  rw [OverInTime]
  split_ifs at hrun with hcluster
  · rw [outcome_of_ok hrun]
    exact iff_of_true (by simp) (Or.inl ⟨0, fun h => h.1 hcluster⟩)
  · have houtcome : outcome (fsLoadFile FAT16_WORDS r) v = outcome
        (loadClusters FAT16_WORDS r.buffer (entryCluster (v.dirs r.dirAddress) i) 0) v := by
      simp only [outcome, hrun]
    rw [houtcome, loadClusters_over_iff hv.fatbits hbuffer]

/-- A call that goes on returns in time exactly if the FAT leads to a mark. -/
lemma GoesOn.returns_iff (hv : CachesLoaded v) (hgoes : GoesOn r v i) (hbuffer : r.buffer < 2 ^ 64) :
    ReturnsInTime r v ↔ LeadsToMark v r.buffer (entryCluster (v.dirs r.dirAddress) i) := by
  have hrun := hgoes.load_eq hv FAT16_WORDS
  rw [ReturnsInTime]
  split_ifs at hrun with hcluster
  · rw [outcome_of_ok hrun]
    exact iff_of_true ⟨1, rfl⟩ (hcluster.imp_right Or.inl)
  have houtcome : outcome (fsLoadFile FAT16_WORDS r) v = outcome
      (loadClusters FAT16_WORDS r.buffer (entryCluster (v.dirs r.dirAddress) i) 0) v := by
    simp only [outcome, hrun]
  rw [houtcome]
  simp only [loadClusters_some_iff FAT16_WORDS hv.fatbits hbuffer, exists_eq_left, Nat.zero_add]
  constructor
  · rintro ⟨m, -, hends, hsmall⟩
    exact Or.inr (Or.inr ⟨m, hends, hsmall⟩)
  · rintro (hzero | hlarge | ⟨m, hends, hsmall⟩)
    · exact absurd (Or.inl hzero) hcluster
    · exact absurd (Or.inr hlarge) hcluster
    · refine ⟨m, ?_, hends, hsmall⟩
      simp only [IMAGESIZE_LIMIT_IN_KB] at hsmall
      simp only [FAT16_WORDS]
      omega

/-- The entry that a call goes on to is the one that its search selects. -/
lemma GoesOn.unique {j : ℕ} (h : GoesOn r v i) (h' : GoesOn r v j) : j = i := by
  obtain ⟨name, hfile, -, -, hlookup⟩ := h.found
  obtain ⟨name', hfile', -, -, hlookup'⟩ := h'.found
  obtain rfl : name = name' := Option.some.inj (hfile.symm.trans hfile')
  exact Option.some.inj (hlookup'.symm.trans hlookup)

/-- **When a load is over.**  Whatever the FAT and the entry hold, it is over within as many reads as
the FAT has words exactly if the FAT does not lead in a circle from the first cluster on; and it
returns exactly if its checks pass and the FAT leads to one of the two marks. -/
theorem load_terminates (hv : CachesLoaded v) (hbuffer : r.buffer < 2 ^ 64) :
    (OverInTime r v ↔
      ∀ i, GoesOn r v i → LeadsOut v r.buffer (entryCluster (v.dirs r.dirAddress) i)) ∧
    (ReturnsInTime r v ↔ loadPanic r v.root = none ∧
      ∀ i, GoesOn r v i → LeadsToMark v r.buffer (entryCluster (v.dirs r.dirAddress) i)) := by
  by_cases hnone : ∀ i, ¬ GoesOn r v i
  · have hrun := fsLoadFile_gives_up hv hnone FAT16_WORDS
    cases hpanic : loadPanic r v.root with
    | some message =>
        rw [hpanic] at hrun
        rw [OverInTime, ReturnsInTime, outcome_of_error hrun]
        exact ⟨iff_of_true (by simp) fun i h => absurd h (hnone i),
          iff_of_false (by simp) fun h => absurd h.1 (by simp)⟩
    | none =>
        rw [hpanic] at hrun
        rw [OverInTime, ReturnsInTime, outcome_of_ok hrun]
        exact ⟨iff_of_true (by simp) fun i h => absurd h (hnone i),
          iff_of_true ⟨1, rfl⟩ ⟨rfl, fun i h => absurd h (hnone i)⟩⟩
  · obtain ⟨i, hi⟩ := not_forall.1 hnone
    have hgoes := not_not.1 hi
    have hforall : ∀ P : ℕ → Prop, (∀ j, GoesOn r v j → P j) ↔ P i := fun P =>
      ⟨fun h => h i hgoes, fun h j hj => hgoes.unique hj ▸ h⟩
    rw [hforall, hforall, and_iff_right hgoes.accepted]
    exact ⟨hgoes.over_iff hv hbuffer, hgoes.returns_iff hv hbuffer⟩

end Call

/-- The load of a file of one sector. -/
theorem load_terminates_oneFileVolume :
    (OverInTime loadFileTxt oneFileVolume ↔ ∀ i, GoesOn loadFileTxt oneFileVolume i →
      LeadsOut oneFileVolume loadFileTxt.buffer
        (entryCluster (oneFileVolume.dirs loadFileTxt.dirAddress) i)) ∧
    (ReturnsInTime loadFileTxt oneFileVolume ↔ loadPanic loadFileTxt oneFileVolume.root = none ∧
      ∀ i, GoesOn loadFileTxt oneFileVolume i → LeadsToMark oneFileVolume loadFileTxt.buffer
        (entryCluster (oneFileVolume.dirs loadFileTxt.dirAddress) i)) :=
  load_terminates oneFileVolume_ok.cachesLoaded (by decide)

/-- The cluster of the file leads to itself. -/
theorem load_terminates_fails : ¬ ∀ (r : LoadArgs) (v : Volume), CachesLoaded v →
    loadPanic r v.root = none → r.buffer < 2 ^ 64 → OverInTime r v := by
  intro hall
  have hbuffer : 0x30110049 < 2 ^ 64 := by decide
  have hgoes := fatVolume_goesOn (fun _ => 3) 0x30110049
  have hcaches := fatVolume_cachesLoaded fun _ => 3
  have hcluster : ∀ j, clusterAt (fun _ => 3) 3 j = 3 := by
    intro j
    induction j with
    | zero => rfl
    | succ j ih => rwa [clusterAt_succ]
  have hfirst : entryCluster (oneFileVolume.dirs loadFileTxt.dirAddress) 0 = 3 := oneFileVolume_cluster
  rcases (hgoes.over_iff hcaches hbuffer).1 (hall _ _ hcaches hgoes.accepted hbuffer) with
    ⟨j, hj⟩ | ⟨j, -, hrefused⟩
  · refine hj ?_
    show Readable (fatVolume fun _ => 3)
      (clusterAt (fun _ => 3) (entryCluster (oneFileVolume.dirs loadFileTxt.dirAddress) 0) j)
    rw [hfirst, hcluster]
    exact ⟨by decide, (by decide : dataareaLba 3 < oneFileVolume.gNumberOfSectorsInBootDisk)⟩
  · refine hrefused (if_neg ?_)
    -- the addresses of the sectors are odd
    simp only [coreAddresses, sectorAddress, SECTOR_SIZE, VOLUME1_FAT_ADDRESS,
      VOLUME1_ROOTDIR_ADDRESS, List.mem_cons, List.not_mem_nil, or_false]
    omega

end Gramado
