import Gramado.Mm.AddressSpace

/-!
# The page tables of a child

What the parts of `copy_process` leave in memory: a region of a directory filled with a new page table, a table
of the kernel cloned, and the tree of tables of a child, `PagingState.child`.

* `KernelTables.region`, `KernelTables.clone` — the kernel's tables stay in order, and show the new region.
* `KernelTables.install` — `installTables` goes through, or the heap of tables is used up.
* `KernelTables.child` — the child's tables show what the kernel's showed, and its image.
-/

namespace Gramado

open PageWalk StepRun

/-! ## Regions and clones -/

section Parts

variable {s s' : PagingState} {space : ℕ → Option Window} {mem : ℕ → ℕ} {x d pa flags limit dir : ℕ}

lemma KernelTables.next_aligned (h : KernelTables s space) : 4096 ∣ s.next := by
  have haligned := h.aligned
  rw [PagingState.next]
  omega

/-- **A page table is filled and hung into a directory** that lies above the tables taken so far. -/
lemma directory_fill (hdir : Directory mem limit dir space) {pt : ℕ} (hlimit : limit ≤ pt) (haligned : 4096 ∣ pt)
    (hapart : pt + 4096 ≤ dir) (hlt : pt < FAT_ADDRESS) (hd : d < 512)
    (hflags : flags = 3 ∨ flags = 7 ∨ flags = 0x1B) (hpa : pa + REGION_2MB ≤ 2 ^ 48) :
    Directory (mmFillPageTable dir d pt pa flags mem).2 (pt + 4096) dir
      (Function.update space d (some { base := pa / 4096 * 4096, user := flags.testBit 2 })) := by
  simp only [REGION_2MB, FAT_ADDRESS] at hpa hlt
  have hmem := mmFillPageTable_apply hd (show pa < 2 ^ 64 by omega) dir pt flags mem
  refine hdir.set (by omega) (fun x hx => ?_) (fun d' hd' hne => ?_) (.of_flags (goodFlags hflags) haligned le_rfl
    (by omega) (by omega) ?_ fun i hi => ?_)
  · rw [hmem, if_neg (by omega), if_neg (by omega)]
  · rw [hmem, if_neg (by omega), if_neg (by omega)]
  · rw [hmem, if_pos rfl]
  · have hindex : (pt + 8 * i - pt) / 8 = i := by omega
    rw [hmem, if_neg (by omega), if_pos (by omega), hindex, Nat.mod_eq_of_lt (by omega)]

/-- A region is filled with the next table, and hung into the kernel's directory. -/
def PagingState.region (s : PagingState) (d pa flags : ℕ) : PagingState where
  mem := (mmFillPageTable KERNEL_PD_PA d s.next pa flags s.mem).2
  tablePointerHeapBase := s.next

lemma region_mem (hd : d < 512) (hpa : pa < 2 ^ 64) (x : ℕ) : (s.region d pa flags).mem x =
    if x = KERNEL_PD_PA + 8 * d then s.next ||| flags
    else if s.next ≤ x ∧ x < s.next + 4096 ∧ 8 ∣ x - s.next then
      (pa + 4096 * ((x - s.next) / 8)) % 2 ^ 64 ||| flags
    else s.mem x := mmFillPageTable_apply hd hpa KERNEL_PD_PA s.next flags s.mem x

/-- **A region of the kernel's directory is filled.** -/
lemma KernelTables.region (h : KernelTables s space) (hroom : s.next < FAT_ADDRESS) (hd : d < 512)
    (hflags : flags = 3 ∨ flags = 7 ∨ flags = 0x1B) (hpa : pa + REGION_2MB ≤ 2 ^ 48) :
    KernelTables (s.region d pa flags)
      (Function.update space d (some { base := pa / 4096 * 4096, user := flags.testBit 2 })) := by
  obtain ⟨hfat, hpd, hpdpt, hpml4⟩ := kernel_tables
  have haligned := h.next_aligned
  have hlt : pa < 2 ^ 64 := by
    simp only [REGION_2MB] at hpa
    omega
  refine ⟨haligned, hroom, h.pml4.congr fun i hi => ?_, h.pdpt.congr fun i hi => ?_,
    directory_fill h.directory le_rfl haligned (by omega) hroom hd hflags hpa⟩
  · rw [region_mem hd hlt, if_neg (by omega), if_neg (by omega)]
  · rw [region_mem hd hlt, if_neg (by omega), if_neg (by omega)]

/-- What is below the tables taken so far stays as it is. -/
lemma region_below (hroom : s.next < FAT_ADDRESS) (hd : d < 512) (hpa : pa + REGION_2MB ≤ 2 ^ 48)
    (hx : x < s.next) : (s.region d pa flags).mem x = s.mem x := by
  obtain ⟨hfat, hpd, hpdpt, hpml4⟩ := kernel_tables
  simp only [REGION_2MB] at hpa
  rw [region_mem hd (by omega), if_neg (by omega), if_neg (by omega)]

/-- A table of the kernel is copied to the next table. -/
def PagingState.cloned (s : PagingState) (src : ℕ) : PagingState :=
  { s.take with mem := copyEntries src s.next s.mem }

@[simp] lemma cloned_base (s : PagingState) (src : ℕ) : (s.cloned src).tablePointerHeapBase = s.next := rfl

lemma cloned_next (s : PagingState) (src : ℕ) : (s.cloned src).next = s.next + 4096 := rfl

/-- Only the new table is written to. -/
lemma cloned_mem (s : PagingState) {src : ℕ} (hsrc : s.next + 4096 ≤ src) (hx : x < s.next ∨ s.next + 4096 ≤ x) :
    (s.cloned src).mem x = s.mem x := by
  rw [PagingState.cloned]
  dsimp only
  rw [copyEntries_eq (.inr hsrc), if_neg (by omega)]

lemma cloned_entry (s : PagingState) {src i : ℕ} (hsrc : s.next + 4096 ≤ src) (hi : i < 512) :
    (s.cloned src).mem (s.next + 8 * i) = s.mem (src + 8 * i) := by
  have hindex : s.next + 8 * i - s.next = 8 * i := by omega
  rw [PagingState.cloned]
  dsimp only
  rw [copyEntries_eq (.inr hsrc), if_pos (by omega), hindex]

/-- **A table of the kernel is cloned.** -/
lemma KernelTables.clone (h : KernelTables s space) (hroom : s.next < FAT_ADDRESS) (name : String) {src : ℕ}
    (hsrc : KERNEL_PD_PA ≤ src) :
    cloneTable name src s = .ok (s.next, s.cloned src) ∧ KernelTables (s.cloned src) space := by
  obtain ⟨hfat, hpd, hpdpt, hpml4⟩ := kernel_tables
  have hnext : s.next ≠ 0 := Nat.ne_of_gt (Nat.lt_of_lt_of_le (by decide) (Nat.le_add_left 4096 _))
  have haligned := h.next_aligned
  refine ⟨?_, h.frame (fun x hx => cloned_mem s (by omega) ?_) haligned (Nat.le_add_right _ _) hroom⟩
  · rw [cloneTable, (h.take hroom).1, ok_bind]
    dsimp only
    rw [panicIf, if_neg hnext]
    rfl
  · have hstep : s.next = s.tablePointerHeapBase + 4096 := rfl
    omega

lemma KernelTables.clone_full (h : KernelTables s space) (hroom : ¬s.next < FAT_ADDRESS) (name : String)
    (src : ℕ) : cloneTable name src s = .error (.panic "get_table_pointer_va: [FIXME] Limits\n") := by
  rw [cloneTable, h.take_full hroom, error_bind]

end Parts

/-! ## The tables of a child -/

/-- A tree of tables of its own, below the limit. -/
def ChildTables (mem : ℕ → ℕ) (limit root : ℕ) (space : ℕ → Option Window) : Prop :=
  ∃ pdpt dir, root + 4096 ≤ limit ∧ pdpt + 4096 ≤ limit ∧ dir + 4096 ≤ limit ∧ Linked mem root pdpt ∧
    Linked mem pdpt dir ∧ Directory mem limit dir space

section Child

variable {s : PagingState} {space : ℕ → Option Window} {mem mem' : ℕ → ℕ} {limit limit' root imagePa : ℕ}

lemma ChildTables.walk (h : ChildTables mem limit root space) (va : ℕ) :
    PageWalk.walk mem root va = PageWalk.translate space va := by
  obtain ⟨pdpt, dir, -, -, -, hroot, hpdpt, hdir⟩ := h
  exact walk_tree hroot hpdpt hdir va

/-- What is written above the limit does not reach them. -/
lemma ChildTables.frame (h : ChildTables mem limit root space) (hlimit : limit ≤ limit')
    (hmem : ∀ x < limit, mem' x = mem x) : ChildTables mem' limit' root space := by
  obtain ⟨pdpt, dir, hr, hp, hd, hroot, hpdpt, hdir⟩ := h
  exact ⟨pdpt, dir, hr.trans hlimit, hp.trans hlimit, hd.trans hlimit,
    hroot.congr fun i hi => hmem _ (by omega), hpdpt.congr fun i hi => hmem _ (by omega),
    hdir.congr hlimit hmem fun d hd => hmem _ (by omega)⟩

/-- The page table of the image, and the copy of the directory with it. -/
def PagingState.withImage (s : PagingState) (imagePa : ℕ) : PagingState where
  mem := (mmFillPageTable s.take.next 1 s.next imagePa 7 (s.take.cloned KERNEL_PD_PA).mem).2
  tablePointerHeapBase := s.take.next

/-- The child's tables, with the PML4 at `root`. -/
def PagingState.installed (s : PagingState) (root imagePa : ℕ) : PagingState :=
  let c := (s.withImage imagePa).cloned KERNEL_PDPT_PA
  let mem := linkEntry (s.take.next + 8 * 1) s.next 7 c.mem
  let mem := linkEntry (s.withImage imagePa).next s.take.next 7 mem
  { c with mem := linkEntry root (s.withImage imagePa).next 7 mem }

lemma take_next (s : PagingState) : s.take.next = s.next + 4096 := rfl

lemma withImage_base (s : PagingState) (imagePa : ℕ) :
    (s.withImage imagePa).tablePointerHeapBase = s.next + 4096 := rfl

lemma withImage_next (s : PagingState) (imagePa : ℕ) : (s.withImage imagePa).next = s.next + 0x2000 := by
  have hbase := withImage_base s imagePa
  have hstep : (s.withImage imagePa).next = (s.withImage imagePa).tablePointerHeapBase + 4096 := rfl
  omega

lemma panicIf_not {c : Prop} [Decidable c] (hc : ¬c) (message : String) : panicIf c message = .ok () :=
  if_neg hc

lemma next_ne_zero (s : PagingState) : s.next ≠ 0 :=
  Nat.ne_of_gt (Nat.lt_of_lt_of_le (by decide) (Nat.le_add_left 4096 _))

lemma withImage_mem (hpa : imagePa < 2 ^ 64) (x : ℕ) : (s.withImage imagePa).mem x =
    if x = s.take.next + 8 then s.next ||| 7
    else if s.next ≤ x ∧ x < s.next + 4096 ∧ 8 ∣ x - s.next then
      (imagePa + 4096 * ((x - s.next) / 8)) % 2 ^ 64 ||| 7
    else (s.take.cloned KERNEL_PD_PA).mem x :=
  mmFillPageTable_apply (d := 1) (by decide) hpa s.take.next s.next 7 (s.take.cloned KERNEL_PD_PA).mem x

/-- The kernel's tables are left in order while the directory of the child is made. -/
lemma KernelTables.withImage (h : KernelTables s space) (hroom : s.next + 4096 < FAT_ADDRESS)
    (hpa : imagePa + REGION_2MB ≤ 2 ^ 48) : KernelTables (s.withImage imagePa) space := by
  obtain ⟨hfat, hpd, hpdpt, hpml4⟩ := kernel_tables
  have hnext := take_next s
  have hstep : s.next = s.tablePointerHeapBase + 4096 := rfl
  have hbase := withImage_base s imagePa
  have haligned := h.next_aligned
  simp only [REGION_2MB] at hpa
  refine h.frame (fun x hx => ?_) (by omega) (by omega) (by omega)
  rw [withImage_mem (by omega), if_neg (by omega), if_neg (by omega), cloned_mem s.take (by omega) (by omega),
    take_mem]

/-- **What `copy_process` leaves for the child.** -/
lemma KernelTables.install (h : KernelTables s space) (horigin : space 0 = some ⟨0, false⟩)
    (hroom : s.next + 0x2000 < FAT_ADDRESS) (hpa : imagePa + REGION_2MB ≤ 2 ^ 48) :
    installTables root imagePa s = .ok (s.installed root imagePa) := by
  have hnext := take_next s
  have hnext' := withImage_next s imagePa
  obtain ⟨htake, h1⟩ := h.take (by omega)
  obtain ⟨hclone, h2⟩ := h1.clone (by omega) "CloneKernelPD0" (le_refl KERNEL_PD_PA)
  have h3 := h.withImage (by omega) hpa
  obtain ⟨hclone', h4⟩ := h3.clone (by omega) "CloneKernelPDPT0" (show KERNEL_PD_PA ≤ KERNEL_PDPT_PA by decide)
  have hindex : x64GetPdeIndex CONTROLTHREAD_BASE = 1 := by decide
  have hstate : ({ s.take.cloned KERNEL_PD_PA with
      mem := (mmFillPageTable s.take.next (1 : ℕ) s.next imagePa 7 (s.take.cloned KERNEL_PD_PA).mem).2 } :
      PagingState) = s.withImage imagePa := rfl
  rw [installTables, htake, ok_bind]
  dsimp only
  rw [panicIf_not (next_ne_zero s), ok_bind, h1.physical_table horigin (by omega), ok_bind, cloneKernelPd0,
    hclone, ok_bind]
  dsimp only
  rw [h2.physical_table horigin (by omega), ok_bind, panicIf_not (next_ne_zero _), ok_bind,
    panicIf_not (next_ne_zero _), ok_bind, hindex, hstate, cloneKernelPdpt0, hclone', ok_bind]
  dsimp only
  rw [h4.physical_table horigin (by omega), ok_bind, panicIf_not (next_ne_zero _), ok_bind,
    panicIf_not (next_ne_zero _), ok_bind]
  rfl

/-- When the heap of tables is used up on the way, the system stops. -/
lemma KernelTables.install_full (h : KernelTables s space) (horigin : space 0 = some ⟨0, false⟩)
    (hroom : ¬s.next + 0x2000 < FAT_ADDRESS) (hpa : imagePa + REGION_2MB ≤ 2 ^ 48) :
    installTables root imagePa s = .error (.panic "get_table_pointer_va: [FIXME] Limits\n") := by
  have hnext := take_next s
  have hnext' := withImage_next s imagePa
  by_cases hone : s.next < FAT_ADDRESS
  · obtain ⟨htake, h1⟩ := h.take hone
    rw [installTables, htake, ok_bind]
    dsimp only
    rw [panicIf_not (next_ne_zero s), ok_bind, h1.physical_table horigin hone, ok_bind, cloneKernelPd0]
    by_cases htwo : s.take.next < FAT_ADDRESS
    · obtain ⟨hclone, h2⟩ := h1.clone htwo "CloneKernelPD0" (le_refl KERNEL_PD_PA)
      have h3 := h.withImage htwo hpa
      have hindex : x64GetPdeIndex CONTROLTHREAD_BASE = 1 := by decide
      have hstate : ({ s.take.cloned KERNEL_PD_PA with
          mem := (mmFillPageTable s.take.next (1 : ℕ) s.next imagePa 7 (s.take.cloned KERNEL_PD_PA).mem).2 } :
          PagingState) = s.withImage imagePa := rfl
      rw [hclone, ok_bind]
      dsimp only
      rw [h2.physical_table horigin htwo, ok_bind, panicIf_not (next_ne_zero _), ok_bind,
        panicIf_not (next_ne_zero _), ok_bind, hindex, hstate, cloneKernelPdpt0, h3.clone_full hroom, error_bind]
    · rw [h1.clone_full htwo, error_bind]
  · rw [installTables, h.take_full hone, error_bind]

/-! ## What the child's tables hold -/

/-- The state after `CloneKernelPML4` and the tables of the child. -/
def PagingState.child (s : PagingState) (imagePa : ℕ) : PagingState :=
  (s.cloned KERNEL_PML4_PA).installed s.next imagePa

/-- Where they lie: the page table of the image, the directory, and the table above it. -/
lemma child_tables (s : PagingState) (imagePa : ℕ) : (s.cloned KERNEL_PML4_PA).next = s.next + 0x1000 ∧
    (s.cloned KERNEL_PML4_PA).take.next = s.next + 0x2000 ∧
    ((s.cloned KERNEL_PML4_PA).withImage imagePa).next = s.next + 0x3000 := by
  have hp := cloned_next s KERNEL_PML4_PA
  have hd := take_next (s.cloned KERNEL_PML4_PA)
  have hq := withImage_next (s.cloned KERNEL_PML4_PA) imagePa
  exact ⟨hp, by omega, by omega⟩

lemma child_base (s : PagingState) (imagePa : ℕ) : (s.child imagePa).tablePointerHeapBase = s.next + 0x3000 :=
  (child_tables s imagePa).2.2

lemma child_next (s : PagingState) (imagePa : ℕ) : (s.child imagePa).next = s.next + 4096 * 4 := by
  have hbase := child_base s imagePa
  have hstep : (s.child imagePa).next = (s.child imagePa).tablePointerHeapBase + 4096 := rfl
  omega

variable {i x : ℕ}

/-- Before the entries of the three tables are set. -/
lemma child_mem (hpa : imagePa < 2 ^ 64) (hroom : s.next + 0x3000 < FAT_ADDRESS) (x : ℕ) :
    (s.child imagePa).mem x =
      if x = s.next then (s.next + 0x3000) ||| 7
      else if x = s.next + 0x3000 then (s.next + 0x2000) ||| 7
      else (((s.cloned KERNEL_PML4_PA).withImage imagePa).cloned KERNEL_PDPT_PA).mem x := by
  obtain ⟨hfat, hpd, hpdpt, hpml4⟩ := kernel_tables
  obtain ⟨hp, hd, hq⟩ := child_tables s imagePa
  rw [PagingState.child, PagingState.installed]
  dsimp only
  rw [linkEntry_eq, linkEntry_eq, linkEntry_eq, hp, hd, hq]
  simp only [Function.update_apply]
  by_cases hslot : x = s.next + 0x2000 + 8 * 1
  · have hset : (((s.cloned KERNEL_PML4_PA).withImage imagePa).cloned KERNEL_PDPT_PA).mem x
        = (s.next + 0x1000) ||| 7 := by
      rw [cloned_mem _ (by omega) (by omega), withImage_mem hpa, if_pos (by omega), hp]
    rw [if_pos hslot, hset]
  · rw [if_neg hslot]

/-- What was there before the child stays. -/
lemma child_old (hpa : imagePa < 2 ^ 64) (hroom : s.next + 0x3000 < FAT_ADDRESS) (haligned : 4096 ∣ s.next)
    (hx : x < s.next ∨ FAT_ADDRESS ≤ x) : (s.child imagePa).mem x = s.mem x := by
  obtain ⟨hfat, hpd, hpdpt, hpml4⟩ := kernel_tables
  obtain ⟨hp, hd, hq⟩ := child_tables s imagePa
  rw [child_mem hpa hroom, if_neg (by omega), if_neg (by omega), cloned_mem _ (by omega) (by omega),
    withImage_mem hpa, if_neg (by omega), if_neg (by omega), cloned_mem _ (by omega) (by omega), take_mem,
    cloned_mem _ (by omega) (by omega)]

/-- The PML4, but for its first entry. -/
lemma child_pml4 (hpa : imagePa < 2 ^ 64) (hroom : s.next + 0x3000 < FAT_ADDRESS) (haligned : 4096 ∣ s.next)
    (hi : i < 512) (hne : i ≠ 0) : (s.child imagePa).mem (s.next + 8 * i) = s.mem (KERNEL_PML4_PA + 8 * i) := by
  obtain ⟨hfat, hpd, hpdpt, hpml4⟩ := kernel_tables
  obtain ⟨hp, hd, hq⟩ := child_tables s imagePa
  rw [child_mem hpa hroom, if_neg (by omega), if_neg (by omega), cloned_mem _ (by omega) (by omega),
    withImage_mem hpa, if_neg (by omega), if_neg (by omega), cloned_mem _ (by omega) (by omega), take_mem,
    cloned_entry s (by omega) hi]

/-- The page table of the image. -/
lemma child_image (hpa : imagePa + REGION_2MB ≤ 2 ^ 48) (hroom : s.next + 0x3000 < FAT_ADDRESS)
    (haligned : 4096 ∣ s.next) (hi : i < 512) :
    (s.child imagePa).mem (s.next + 0x1000 + 8 * i) = (imagePa + 4096 * i) ||| 7 := by
  obtain ⟨hfat, hpd, hpdpt, hpml4⟩ := kernel_tables
  obtain ⟨hp, hd, hq⟩ := child_tables s imagePa
  have hindex : (s.next + 0x1000 + 8 * i - (s.next + 0x1000)) / 8 = i := by omega
  simp only [REGION_2MB] at hpa
  rw [child_mem (by omega) hroom, if_neg (by omega), if_neg (by omega), cloned_mem _ (by omega) (by omega),
    withImage_mem (by omega), if_neg (by omega), if_pos (by omega), hp, hindex, Nat.mod_eq_of_lt (by omega)]

/-- The directory, but for the entry of the image. -/
lemma child_directory (hpa : imagePa < 2 ^ 64) (hroom : s.next + 0x3000 < FAT_ADDRESS)
    (haligned : 4096 ∣ s.next) (hi : i < 512) (hne : i ≠ 1) :
    (s.child imagePa).mem (s.next + 0x2000 + 8 * i) = s.mem (KERNEL_PD_PA + 8 * i) := by
  obtain ⟨hfat, hpd, hpdpt, hpml4⟩ := kernel_tables
  obtain ⟨hp, hd, hq⟩ := child_tables s imagePa
  rw [child_mem hpa hroom, if_neg (by omega), if_neg (by omega), cloned_mem _ (by omega) (by omega),
    withImage_mem hpa, if_neg (by omega), if_neg (by omega), ← hd, cloned_entry _ (by omega) hi, take_mem,
    cloned_mem _ (by omega) (by omega)]

/-- The entry of the image. -/
lemma child_slot (hpa : imagePa < 2 ^ 64) (hroom : s.next + 0x3000 < FAT_ADDRESS) (haligned : 4096 ∣ s.next) :
    (s.child imagePa).mem (s.next + 0x2000 + 8 * 1) = (s.next + 0x1000) ||| 7 := by
  obtain ⟨hfat, hpd, hpdpt, hpml4⟩ := kernel_tables
  obtain ⟨hp, hd, hq⟩ := child_tables s imagePa
  rw [child_mem hpa hroom, if_neg (by omega), if_neg (by omega), cloned_mem _ (by omega) (by omega),
    withImage_mem hpa, if_pos (by omega), hp]

/-- The table above the directory, but for its first entry. -/
lemma child_pdpt (hpa : imagePa < 2 ^ 64) (hroom : s.next + 0x3000 < FAT_ADDRESS) (haligned : 4096 ∣ s.next)
    (hi : i < 512) (hne : i ≠ 0) :
    (s.child imagePa).mem (s.next + 0x3000 + 8 * i) = s.mem (KERNEL_PDPT_PA + 8 * i) := by
  obtain ⟨hfat, hpd, hpdpt, hpml4⟩ := kernel_tables
  obtain ⟨hp, hd, hq⟩ := child_tables s imagePa
  rw [child_mem hpa hroom, if_neg (by omega), if_neg (by omega), ← hq, cloned_entry _ (by omega) hi,
    withImage_mem hpa, if_neg (by omega), if_neg (by omega), cloned_mem _ (by omega) (by omega), take_mem,
    cloned_mem _ (by omega) (by omega)]

/-- **The child's tables show what the kernel's showed, and its image.** -/
lemma KernelTables.child (h : KernelTables s space) (hroom : s.next + 0x3000 < FAT_ADDRESS)
    (hpa : imagePa + REGION_2MB ≤ 2 ^ 48) :
    KernelTables (s.child imagePa) space ∧ (∀ x < s.next, (s.child imagePa).mem x = s.mem x) ∧
      ChildTables (s.child imagePa).mem (s.child imagePa).next s.next
        (Function.update space 1 (some { base := imagePa / 4096 * 4096, user := true })) := by
  obtain ⟨hfat, hpd, hpdpt, hpml4⟩ := kernel_tables
  have haligned := h.next_aligned
  have hlt : imagePa < 2 ^ 64 := by
    simp only [REGION_2MB] at hpa
    omega
  have hstep : s.next = s.tablePointerHeapBase + 4096 := rfl
  have hbase := child_base s imagePa
  have hseven : GoodFlags 7 := goodFlags (.inr (.inl rfl))
  have hleads {next : ℕ} (haligned : 2 ^ 12 ∣ next) (hlt : next < 2 ^ 52) : Leads (next ||| 7) next :=
    .of_flags hseven (by decide) haligned hlt
  refine ⟨h.frame (fun x hx => child_old hlt hroom haligned (by omega)) (by omega) (by omega) (by omega),
    fun x hx => child_old hlt hroom haligned (.inl hx), s.next + 0x3000, s.next + 0x2000, ?_, ?_, ?_, ?_, ?_, ?_⟩
  · rw [child_next]
    omega
  · rw [child_next]
  · rw [child_next]
    omega
  · refine h.pml4.set ?_ fun i hi hne => child_pml4 hlt hroom haligned hi hne
    rw [child_mem hlt hroom, if_pos rfl]
    exact hleads (by omega) (by omega)
  · refine h.pdpt.set ?_ fun i hi hne => child_pdpt hlt hroom haligned hi hne
    rw [child_mem hlt hroom, if_neg (by omega), if_pos rfl]
    exact hleads (by omega) (by omega)
  · refine h.directory.set (by rw [child_next]; omega) (fun x hx => child_old hlt hroom haligned (.inl hx))
      (fun d hd hne => child_directory hlt hroom haligned hd hne) ?_
    have htable : 2 ^ 12 ∣ s.next + 0x1000 := by omega
    refine ShowsWindow.of_flags hseven htable (by rw [child_next]; omega) (by omega) (hpa.trans (by decide))
      (child_slot hlt hroom haligned) fun i hi => child_image hpa hroom haligned hi

end Child

end Gramado
