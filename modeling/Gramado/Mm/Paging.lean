import Gramado.Lib.Run
import Gramado.Lib.Bits
import Gramado.Core.CTypes

/-!
# Mapping and translating

`kres/mm/pages.c`.  The kernel's page tables lie in the memory below 1 MB, where virtual and physical
addresses are the same.  `mm_map_2mb_region` takes a page table from `get_table_pointer_va`, fills it
(`mm_fill_page_table`) and hangs it into the kernel's page directory; `__virtual_to_physical` walks the
four levels.

The slot of the directory is chosen by bits 21 to 29 of the virtual address and by no others, an entry
keeps bits 12 to 47 of the physical address, and the walk stops the system above the first GB.
`paging_run`: runs that map aligned regions of the first GB translate as they were told to.
-/

namespace Gramado

open StepRun

/-! ## The tables -/

/-- `FAT_ADDRESS`. -/
def FAT_ADDRESS : ℕ := 0x30000

/-- `KERNEL_PD_PA`. -/
def KERNEL_PD_PA : ℕ := 0x9A000

/-- `KERNEL_PDPT_PA`. -/
def KERNEL_PDPT_PA : ℕ := 0x9B000

/-- `KERNEL_PML4_PA`. -/
def KERNEL_PML4_PA : ℕ := 0x9C000

/-- The size of a region. -/
def REGION_2MB : ℕ := 0x200000

/-- The `unsigned long` values in memory, by their addresses, and `table_pointer_heap_base`. -/
structure PagingState where
  mem : ℕ → ℕ
  tablePointerHeapBase : ℕ

/-- `get_table_pointer_va`. -/
def getTablePointerVa (s : PagingState) : Except Fault (ℕ × PagingState) :=
  let base := ulongAdd s.tablePointerHeapBase 0x1000
  if base ≥ FAT_ADDRESS then .error (.panic "get_table_pointer_va: [FIXME] Limits\n")
  else .ok (base, { s with tablePointerHeapBase := base })

/-- The body of the loop of `mm_fill_page_table`, on the frame to come and the memory. -/
def fillEntry (pt flags : ℕ) (loop : ℕ × (ℕ → ℕ)) (i : ℕ) : ℕ × (ℕ → ℕ) :=
  (ulongAdd loop.1 4096, Function.update loop.2 (pt + 8 * i) (loop.1 ||| flags))

/-- The loop of `mm_fill_page_table`, over the first `n` entries. -/
def fillEntries (pt pa flags n : ℕ) (mem : ℕ → ℕ) : ℕ × (ℕ → ℕ) :=
  (List.range n).foldl (fillEntry pt flags) (pa, mem)

/-- `mm_fill_page_table`. -/
def mmFillPageTable (directoryVa : ℕ) (directoryEntry : ℤ) (ptVa region2mbPa flags : ℕ)
    (mem : ℕ → ℕ) : ℤ × (ℕ → ℕ) :=
  if directoryEntry < 0 ∨ directoryEntry ≥ 512 then (-1, mem)
  else
    let mem := (fillEntries ptVa region2mbPa flags 512 mem).2
    let entry := directoryVa + 8 * directoryEntry.toNat
    let mem := Function.update mem entry ptVa
    (0, Function.update mem entry (mem entry ||| flags))

/-- `X64_GET_PDE_INDEX`: the address is cut to an `unsigned int` first. -/
def x64GetPdeIndex (va : ℕ) : ℕ := ((va % 2 ^ 32) >>> 21) &&& 0x1FF

/-- `mm_map_2mb_region`. -/
def mmMap2mbRegion (pa va : ℕ) (s : PagingState) : Except Fault (ℤ × PagingState) := do
  let (pt, s) ← getTablePointerVa s
  if pt = 0 then .ok (-1, s)
  else
    let pdindex : ℤ := x64GetPdeIndex va
    if pdindex < 0 then .ok (-1, s)
    else if pdindex ≥ 512 then .ok (-1, s)
    else .ok (0, { s with mem := (mmFillPageTable KERNEL_PD_PA pdindex pt pa 0x1B s.mem).2 })

/-- The address that an entry holds. -/
def entryAddress (tmp : ℕ) : ℕ := tmp &&& 0xFFFFFFFFF000

/-- `__virtual_to_physical`.  Above the first GB it prints a message and never returns. -/
def virtualToPhysical (virtualAddress pml4Va : ℕ) (mem : ℕ → ℕ) : Except Fault ℕ :=
  let a := (virtualAddress >>> 39) &&& 0x1FF
  let b := (virtualAddress >>> 30) &&& 0x1FF
  let d := (virtualAddress >>> 21) &&& 0x1FF
  let t := (virtualAddress >>> 12) &&& 0x1FF
  let o := virtualAddress &&& 0xFFF
  if a ≠ 0 then .error (.panic "__virtual_to_physical: [TODO] a != 0 \n")
  else if b ≠ 0 then .error (.panic "__virtual_to_physical: [TODO] b != 0 \n")
  else if pml4Va = 0 then .error (.panic "__virtual_to_physical: [FAIL] Invalid pml4_va\n")
  else
    let ptpt := entryAddress (mem (pml4Va + 8 * a))
    let dir := entryAddress (mem (ptpt + 8 * b))
    let pt := entryAddress (mem (dir + 8 * d))
    .ok (ulongAdd (entryAddress (mem (pt + 8 * t))) o)

/-! ## Runs -/

/-- A mapping, or a page table that is taken for something else. -/
inductive PagingCall where
  | map (pa va : ℕ)
  | getTable

/-- The tables, the regions mapped with success, `(pa, va)`, and the tables handed out, the newest
first. -/
structure PagingTrace where
  state : PagingState
  mapped : List (ℕ × ℕ)
  handed : List ℕ

/-- One call. -/
def pagingStep (t : PagingTrace) : PagingCall → Except Fault PagingTrace
  | .map pa va => do
      let (pt, _) ← getTablePointerVa t.state
      let (status, state) ← mmMap2mbRegion pa va t.state
      .ok { state := state
            mapped := if status = 0 then (pa, va) :: t.mapped else t.mapped
            handed := pt :: t.handed }
  | .getTable => do
      let (pt, state) ← getTablePointerVa t.state
      .ok { t with state := state, handed := pt :: t.handed }

/-- The translation with the kernel's tables. -/
def PagingTrace.translate (t : PagingTrace) (va : ℕ) : Except Fault ℕ :=
  virtualToPhysical va KERNEL_PML4_PA t.state.mem

/-- An address of the machine: bits 48 to 63 repeat bit 47. -/
def Canonical (va : ℕ) : Prop := va < 2 ^ 47 ∨ (2 ^ 64 - 2 ^ 47 ≤ va ∧ va < 2 ^ 64)

/-- The region was mapped last at its virtual address. -/
def PagingTrace.MappedLast (t : PagingTrace) (pa va : ℕ) : Prop :=
  t.mapped.find? (fun r => r.2 = va) = some (pa, va)

/-- **What a call promises.**  Every region mapped last at its address is translated to where it was
mapped; a mapping changes the translation of no address outside its region; the tables handed out
are different and below the FAT. -/
structure PagingContract (t : PagingTrace) (c : PagingCall) (t' : PagingTrace) : Prop where
  follows : ∀ pa va, t'.MappedLast pa va → ∀ offset < REGION_2MB,
    t'.translate (ulongAdd va offset) = .ok (ulongAdd pa offset)
  frame : ∀ x, Canonical x →
    (∀ pa va, c = .map pa va → ¬(va ≤ x ∧ x < va + REGION_2MB)) → t'.translate x = t.translate x
  apart : t'.handed.Nodup
  below : ∀ pt ∈ t'.handed, pt < FAT_ADDRESS

/-- The region starts at a multiple of 2 MB in the first GB, and goes to whole frames within the 48
bits of a physical address. -/
def PagingCondition (_ : PagingTrace) : PagingCall → Prop
  | .map pa va => va < 2 ^ 30 ∧ REGION_2MB ∣ va ∧ 4096 ∣ pa ∧ pa + REGION_2MB ≤ 2 ^ 48
  | .getTable => True

/-- The tables as `mmInitializePaging` makes them before the first mapping, or later: the upper levels
are linked, and the directory holds no table that is still to be handed out. -/
structure PagingReady (s : PagingState) : Prop where
  base : s.tablePointerHeapBase < FAT_ADDRESS
  aligned : 4096 ∣ s.tablePointerHeapBase
  pml4 : entryAddress (s.mem KERNEL_PML4_PA) = KERNEL_PDPT_PA
  pdpt : entryAddress (s.mem KERNEL_PDPT_PA) = KERNEL_PD_PA
  directory : ∀ d < 512, entryAddress (s.mem (KERNEL_PD_PA + 8 * d)) ≤ s.tablePointerHeapBase

/-! ## The walk -/

lemma index_eq (x k : ℕ) : (x >>> k) &&& 0x1FF = x / 2 ^ k % 512 :=
  Bits.shiftRight_and_mask (n := 9)

lemma entryAddress_eq (x : ℕ) : entryAddress x = x / 2 ^ 12 % 2 ^ 36 * 2 ^ 12 :=
  Bits.and_field (k := 12) (n := 36)

/-- The flags of an entry do not reach its address. -/
lemma entryAddress_flags {x : ℕ} (hx : 4096 ∣ x) (hlt : x < 2 ^ 48) :
    entryAddress (x ||| 0x1B) = x := by
  rw [entryAddress_eq, Bits.or_low_div (by decide)]
  omega

/-- The page table that slot `d` of the directory points to. -/
def PagingState.table (s : PagingState) (d : ℕ) : ℕ := entryAddress (s.mem (KERNEL_PD_PA + 8 * d))

/-- In the first GB the walk reads one entry of one page table. -/
lemma virtualToPhysical_eq {s : PagingState}
    (hpml4 : entryAddress (s.mem KERNEL_PML4_PA) = KERNEL_PDPT_PA)
    (hpdpt : entryAddress (s.mem KERNEL_PDPT_PA) = KERNEL_PD_PA) {x : ℕ} (hx : x < 2 ^ 30) :
    virtualToPhysical x KERNEL_PML4_PA s.mem = .ok (ulongAdd
      (entryAddress (s.mem (s.table (x / 2 ^ 21) + 8 * (x / 2 ^ 12 % 512)))) (x % 4096)) := by
  have hoffset : x &&& 0xFFF = x % 4096 := Nat.and_two_pow_sub_one_eq_mod x 12
  have ha : x / 2 ^ 39 % 512 = 0 := by omega
  have hb : x / 2 ^ 30 % 512 = 0 := by omega
  have hd : x / 2 ^ 21 % 512 = x / 2 ^ 21 := by omega
  simp only [virtualToPhysical, index_eq, ha, hb, hd, hoffset, ne_eq, not_true_eq_false, if_false,
    mul_zero, add_zero, hpml4, hpdpt, PagingState.table]
  rw [if_neg (by decide)]

/-- Above the first GB the walk does not return, whatever the tables say. -/
lemma virtualToPhysical_above {x : ℕ} (hcanon : Canonical x) (hx : 2 ^ 30 ≤ x) (mem mem' : ℕ → ℕ) :
    virtualToPhysical x KERNEL_PML4_PA mem = virtualToPhysical x KERNEL_PML4_PA mem' := by
  simp only [virtualToPhysical, index_eq]
  split_ifs with ha hb hpml4
  · rfl
  · rfl
  · rfl
  · simp only [Canonical, not_not] at hcanon ha hb
    omega

/-! ## Filling a table -/

/-- The loop fills one entry after the other with one frame after the other. -/
lemma fillEntries_eq (pt flags : ℕ) {pa : ℕ} (mem : ℕ → ℕ) (hpa : pa < 2 ^ 64) (n : ℕ) :
    (fillEntries pt pa flags n mem).1 = (pa + 4096 * n) % 2 ^ 64 ∧
      ∀ x, (fillEntries pt pa flags n mem).2 x =
        if pt ≤ x ∧ x < pt + 8 * n ∧ 8 ∣ x - pt then
          (pa + 4096 * ((x - pt) / 8)) % 2 ^ 64 ||| flags
        else mem x := by
  induction n with
  | zero =>
      refine ⟨(Nat.mod_eq_of_lt hpa).symm, fun x => ?_⟩
      rw [if_neg (by omega)]
      rfl
  | succ n ih =>
      obtain ⟨hframe, hmem⟩ := ih
      have hstep : fillEntries pt pa flags (n + 1) mem
          = fillEntry pt flags (fillEntries pt pa flags n mem) n := by
        rw [fillEntries, List.range_succ, List.foldl_append]
        rfl
      rw [hstep]
      constructor
      · simp only [fillEntry, hframe, ulongAdd]
        omega
      · intro x
        simp only [fillEntry, hframe, Function.update_apply, hmem]
        by_cases hlast : x = pt + 8 * n
        · have hindex : (x - pt) / 8 = n := by omega
          rw [if_pos hlast, if_pos (by omega), hindex]
        · rw [if_neg hlast]
          by_cases hentry : pt ≤ x ∧ x < pt + 8 * (n + 1) ∧ 8 ∣ x - pt
          · rw [if_pos hentry, if_pos (by omega)]
          · rw [if_neg hentry, if_neg (by omega)]

/-- Memory after a mapping: the slot of the directory, the entries of the table, the rest. -/
def mappedMem (pt d pa : ℕ) (mem : ℕ → ℕ) (x : ℕ) : ℕ :=
  if x = KERNEL_PD_PA + 8 * d then pt ||| 0x1B
  else if pt ≤ x ∧ x < pt + 8 * 512 ∧ 8 ∣ x - pt then
    (pa + 4096 * ((x - pt) / 8)) % 2 ^ 64 ||| 0x1B
  else mem x

variable {s s' : PagingState} {t t' : PagingTrace} {pa va pt : ℕ}

lemma getTablePointerVa_eq (hroom : s.tablePointerHeapBase + 4096 < FAT_ADDRESS) :
    getTablePointerVa s = .ok (s.tablePointerHeapBase + 4096,
      { s with tablePointerHeapBase := s.tablePointerHeapBase + 4096 }) := by
  simp only [FAT_ADDRESS] at hroom
  have hadd : ulongAdd s.tablePointerHeapBase 0x1000 = s.tablePointerHeapBase + 0x1000 :=
    ulongAdd_of_lt (by omega)
  simp only [getTablePointerVa, hadd]
  rw [if_neg (by simp only [FAT_ADDRESS]; omega)]

/-- A table comes from right above the last one. -/
lemma getTablePointerVa_ok (hbase : s.tablePointerHeapBase < FAT_ADDRESS)
    (h : getTablePointerVa s = .ok (pt, s')) :
    pt = s.tablePointerHeapBase + 4096 ∧ pt < FAT_ADDRESS ∧
      s' = { s with tablePointerHeapBase := pt } := by
  have hroom : s.tablePointerHeapBase + 4096 < FAT_ADDRESS := by
    simp only [FAT_ADDRESS] at hbase ⊢
    by_contra hlimit
    have hadd : ulongAdd s.tablePointerHeapBase 0x1000 = s.tablePointerHeapBase + 0x1000 :=
      ulongAdd_of_lt (by omega)
    simp only [getTablePointerVa, hadd, FAT_ADDRESS] at h
    rw [if_pos (by omega)] at h
    cases h
  rw [getTablePointerVa_eq hroom] at h
  obtain ⟨rfl, rfl⟩ := Prod.mk.inj (Except.ok.inj h)
  exact ⟨rfl, hroom, rfl⟩

lemma mmFillPageTable_eq {d : ℕ} (hd : d < 512) (mem : ℕ → ℕ) (hpa : pa < 2 ^ 64) :
    (mmFillPageTable KERNEL_PD_PA d pt pa 0x1B mem).2 = mappedMem pt d pa mem := by
  obtain ⟨-, hfill⟩ := fillEntries_eq pt 0x1B mem hpa 512
  rw [mmFillPageTable, if_neg (by omega), Int.toNat_natCast]
  generalize (fillEntries pt pa 0x1B 512 mem).2 = filled at hfill ⊢
  funext x
  simp only [Function.update_self, Function.update_apply, hfill, mappedMem]
  by_cases hx : x = KERNEL_PD_PA + 8 * d
  · rw [if_pos hx, if_pos hx]
  · rw [if_neg hx, if_neg hx, if_neg hx]

/-- A mapping succeeds whenever there is a table for it. -/
lemma mmMap2mbRegion_ok (hbase : s.tablePointerHeapBase < FAT_ADDRESS) (hpa : pa < 2 ^ 64)
    (h : getTablePointerVa s = .ok (pt, s')) :
    mmMap2mbRegion pa va s
      = .ok (0, { mem := mappedMem pt (x64GetPdeIndex va) pa s.mem, tablePointerHeapBase := pt }) := by
  obtain ⟨hpt, -, rfl⟩ := getTablePointerVa_ok hbase h
  have hindex : x64GetPdeIndex va < 512 := by
    rw [x64GetPdeIndex, index_eq]
    exact Nat.mod_lt _ (by decide)
  simp only [mmMap2mbRegion, h, ok_bind]
  rw [if_neg (by omega), if_neg (by omega), if_neg (by omega), mmFillPageTable_eq hindex _ hpa]

/-! ## The invariant -/

/-- The tables are in order, every region mapped last at its address fills its table, and the tables
handed out lie below the pointer. -/
structure PagingWf (t : PagingTrace) : Prop where
  ready : PagingReady t.state
  region : ∀ pa va, t.MappedLast pa va →
    (va < 2 ^ 30 ∧ REGION_2MB ∣ va ∧ 4096 ∣ pa ∧ pa + REGION_2MB ≤ 2 ^ 48) ∧
      ∀ i < 512, entryAddress (t.state.mem (t.state.table (va / 2 ^ 21) + 8 * i)) = pa + 4096 * i
  handed_le : ∀ pt ∈ t.handed, pt ≤ t.state.tablePointerHeapBase
  handed_nodup : t.handed.Nodup

lemma PagingWf.follows (h : PagingWf t) (hlast : t.MappedLast pa va) {offset : ℕ}
    (hoffset : offset < REGION_2MB) :
    t.translate (ulongAdd va offset) = .ok (ulongAdd pa offset) := by
  obtain ⟨⟨hva, halign, hpa, hfit⟩, hentries⟩ := h.region pa va hlast
  simp only [REGION_2MB] at hoffset halign hfit
  rw [ulongAdd_of_lt (by omega), ulongAdd_of_lt (by omega)]
  have hslot : (va + offset) / 2 ^ 21 = va / 2 ^ 21 := by omega
  have hentry : (va + offset) / 2 ^ 12 % 512 = offset / 4096 := by omega
  have hbyte : (va + offset) % 4096 = offset % 4096 := by omega
  rw [PagingTrace.translate, virtualToPhysical_eq h.ready.pml4 h.ready.pdpt (by omega), hslot,
    hentry, hbyte, hentries _ (by omega), ulongAdd_of_lt (by omega)]
  congr 1
  omega

/-! ## A mapping -/

lemma x64GetPdeIndex_eq (hva : va < 2 ^ 30) : x64GetPdeIndex va = va / 2 ^ 21 := by
  rw [x64GetPdeIndex, index_eq]
  omega

section Mapping

variable {d x : ℕ}

/-- What lies above the FAT and is not the slot of the directory stays as it is. -/
lemma mappedMem_above (hpt : pt + 4096 ≤ KERNEL_PD_PA) (hx : KERNEL_PD_PA ≤ x)
    (hslot : x ≠ KERNEL_PD_PA + 8 * d) (mem : ℕ → ℕ) : mappedMem pt d pa mem x = mem x := by
  rw [mappedMem, if_neg hslot, if_neg (by omega)]

/-- What lies below the new table stays as it is. -/
lemma mappedMem_below (hpt : pt ≤ KERNEL_PD_PA) (hx : x < pt) (mem : ℕ → ℕ) :
    mappedMem pt d pa mem x = mem x := by
  rw [mappedMem, if_neg (by omega), if_neg (by omega)]

lemma mappedMem_slot (mem : ℕ → ℕ) :
    mappedMem pt d pa mem (KERNEL_PD_PA + 8 * d) = pt ||| 0x1B := by
  rw [mappedMem, if_pos rfl]

lemma mappedMem_entry (hpt : pt + 4096 ≤ KERNEL_PD_PA) {i : ℕ} (hi : i < 512)
    (hfit : pa + REGION_2MB ≤ 2 ^ 48) (mem : ℕ → ℕ) :
    mappedMem pt d pa mem (pt + 8 * i) = (pa + 4096 * i) ||| 0x1B := by
  simp only [REGION_2MB] at hfit
  have hindex : (pt + 8 * i - pt) / 8 = i := by omega
  rw [mappedMem, if_neg (by omega), if_pos (by omega), hindex, Nat.mod_eq_of_lt (by omega)]

end Mapping

/-- The tables after the mapping of a region. -/
def PagingState.mapRegion (s : PagingState) (pa va : ℕ) : PagingState where
  mem := mappedMem (s.tablePointerHeapBase + 4096) (va / 2 ^ 21) pa s.mem
  tablePointerHeapBase := s.tablePointerHeapBase + 4096

@[simp] lemma mapRegion_base :
    (s.mapRegion pa va).tablePointerHeapBase = s.tablePointerHeapBase + 4096 := rfl

lemma mapRegion_mem (x : ℕ) : (s.mapRegion pa va).mem x
    = mappedMem (s.tablePointerHeapBase + 4096) (va / 2 ^ 21) pa s.mem x := rfl

lemma PagingReady.mapRegion (h : PagingReady s) (pa : ℕ) {va : ℕ} (hva : va < 2 ^ 30)
    (hroom : s.tablePointerHeapBase + 4096 < FAT_ADDRESS) :
    PagingReady (s.mapRegion pa va) ∧
      ∀ d < 512, (s.mapRegion pa va).table d =
        if d = va / 2 ^ 21 then s.tablePointerHeapBase + 4096 else s.table d := by
  have haligned := h.aligned
  have hpt : s.tablePointerHeapBase + 4096 + 4096 ≤ KERNEL_PD_PA := by
    simp only [KERNEL_PD_PA, FAT_ADDRESS] at hroom ⊢
    omega
  have habove : ∀ x, KERNEL_PD_PA ≤ x → x ≠ KERNEL_PD_PA + 8 * (va / 2 ^ 21) →
      (s.mapRegion pa va).mem x = s.mem x := fun x hx hslot => mappedMem_above hpt hx hslot _
  have htable : ∀ d < 512, (s.mapRegion pa va).table d =
      if d = va / 2 ^ 21 then s.tablePointerHeapBase + 4096 else s.table d := by
    intro d hd
    split_ifs with heq
    · simp only [FAT_ADDRESS] at hroom
      rw [heq, PagingState.table, mapRegion_mem, mappedMem_slot,
        entryAddress_flags (by omega) (by omega)]
    · rw [PagingState.table, habove _ (by omega) (by omega), PagingState.table]
  refine ⟨⟨hroom, ?_, ?_, ?_, ?_⟩, htable⟩
  · rw [mapRegion_base]
    omega
  · rw [habove _ (by decide) (by simp only [KERNEL_PML4_PA, KERNEL_PD_PA]; omega), h.pml4]
  · rw [habove _ (by decide) (by simp only [KERNEL_PDPT_PA, KERNEL_PD_PA]; omega), h.pdpt]
  · intro d hd
    have hle : s.table d ≤ s.tablePointerHeapBase := h.directory d hd
    have hnew : (s.mapRegion pa va).table d ≤ s.tablePointerHeapBase + 4096 := by
      rw [htable d hd]
      split_ifs <;> omega
    exact hnew

/-- The entries of the tables in use: those of the new one are the frames of the region, the others
are as they were. -/
lemma mapRegion_entry (h : PagingReady s) (hva : va < 2 ^ 30) (hpa : 4096 ∣ pa)
    (hfit : pa + REGION_2MB ≤ 2 ^ 48) (hroom : s.tablePointerHeapBase + 4096 < FAT_ADDRESS)
    {d i : ℕ} (hd : d < 512) (hi : i < 512) :
    entryAddress ((s.mapRegion pa va).mem ((s.mapRegion pa va).table d + 8 * i)) =
      if d = va / 2 ^ 21 then pa + 4096 * i else entryAddress (s.mem (s.table d + 8 * i)) := by
  have hpt : s.tablePointerHeapBase + 4096 + 4096 ≤ KERNEL_PD_PA := by
    simp only [KERNEL_PD_PA, FAT_ADDRESS] at hroom ⊢
    omega
  rw [(h.mapRegion pa hva hroom).2 d hd]
  split_ifs
  · rw [mapRegion_mem, mappedMem_entry hpt hi hfit]
    simp only [REGION_2MB] at hfit
    exact entryAddress_flags (by omega) (by omega)
  · have hle : s.table d ≤ s.tablePointerHeapBase := h.directory d hd
    have hbelow : s.table d + 8 * i < s.tablePointerHeapBase + 4096 := by omega
    rw [mapRegion_mem, mappedMem_below (by omega) hbelow]

/-- The trace after the mapping of a region. -/
def PagingTrace.mapRegion (t : PagingTrace) (pa va : ℕ) : PagingTrace where
  state := t.state.mapRegion pa va
  mapped := (pa, va) :: t.mapped
  handed := (t.state.tablePointerHeapBase + 4096) :: t.handed

@[simp] lemma PagingTrace.mapRegion_state :
    (t.mapRegion pa va).state = t.state.mapRegion pa va := rfl

/-- A mapping in the first GB, aligned or not. -/
lemma pagingStep_map_eq (h : PagingReady t.state) (hva : va < 2 ^ 30) (hpa : pa < 2 ^ 64)
    (hroom : t.state.tablePointerHeapBase + 4096 < FAT_ADDRESS) :
    pagingStep t (.map pa va) = .ok (t.mapRegion pa va) := by
  have hpt := getTablePointerVa_eq hroom
  rw [pagingStep, hpt, ok_bind]
  dsimp only
  rw [mmMap2mbRegion_ok h.base hpa hpt, x64GetPdeIndex_eq hva, ok_bind]
  rfl

lemma pagingStep_map (h : PagingReady t.state) (hva : va < 2 ^ 30)
    (hfit : pa + REGION_2MB ≤ 2 ^ 48) (hs : pagingStep t (.map pa va) = .ok t') :
    t.state.tablePointerHeapBase + 4096 < FAT_ADDRESS ∧ t' = t.mapRegion pa va := by
  have hpa : pa < 2 ^ 64 := by
    simp only [REGION_2MB] at hfit
    omega
  obtain ⟨⟨pt, s'⟩, hpt, -⟩ := bind_eq_ok hs
  obtain ⟨rfl, hroom, -⟩ := getTablePointerVa_ok h.base hpt
  rw [pagingStep_map_eq h hva hpa hroom] at hs
  exact ⟨hroom, (Except.ok.inj hs).symm⟩

/-- A table taken for something else leaves memory as it is. -/
lemma pagingStep_getTable (h : PagingReady t.state) (hs : pagingStep t .getTable = .ok t') :
    t.state.tablePointerHeapBase + 4096 < FAT_ADDRESS ∧
      t' = { state :=
               { t.state with tablePointerHeapBase := t.state.tablePointerHeapBase + 4096 }
             mapped := t.mapped
             handed := (t.state.tablePointerHeapBase + 4096) :: t.handed } := by
  obtain ⟨⟨pt, s'⟩, hpt, hs⟩ := bind_eq_ok hs
  obtain ⟨rfl, hroom, rfl⟩ := getTablePointerVa_ok h.base hpt
  exact ⟨hroom, (Except.ok.inj hs).symm⟩

/-! ## One call -/

/-- A table above all others is handed out once more. -/
lemma PagingWf.handed (h : PagingWf t) :
    (∀ pt ∈ (t.state.tablePointerHeapBase + 4096) :: t.handed,
      pt ≤ t.state.tablePointerHeapBase + 4096) ∧
      ((t.state.tablePointerHeapBase + 4096) :: t.handed).Nodup := by
  constructor
  · intro pt hpt
    rcases List.mem_cons.1 hpt with rfl | hold
    · exact le_rfl
    · exact (h.handed_le pt hold).trans (Nat.le_add_right _ _)
  · refine List.nodup_cons.2 ⟨fun hold => ?_, h.handed_nodup⟩
    have hle := h.handed_le _ hold
    omega

lemma PagingWf.map (h : PagingWf t) (hc : PagingCondition t (.map pa va))
    (hs : pagingStep t (.map pa va) = .ok t') : PagingWf t' := by
  obtain ⟨hva, halign, hpa, hfit⟩ := hc
  obtain ⟨hroom, rfl⟩ := pagingStep_map h.ready hva hfit hs
  refine ⟨(h.ready.mapRegion pa hva hroom).1, ?_, h.handed.1, h.handed.2⟩
  intro pa' va' hlast
  simp only [PagingTrace.MappedLast, PagingTrace.mapRegion, List.find?_cons] at hlast
  split at hlast
  · -- the new region
    obtain ⟨rfl, rfl⟩ := Prod.mk.inj (Option.some.inj hlast)
    refine ⟨⟨hva, halign, hpa, hfit⟩, fun i hi => ?_⟩
    rw [PagingTrace.mapRegion_state, mapRegion_entry h.ready hva hpa hfit hroom (by omega) hi,
      if_pos rfl]
  · next hne =>
      obtain ⟨hcond, hentries⟩ := h.region pa' va' hlast
      refine ⟨hcond, fun i hi => ?_⟩
      obtain ⟨hva', halign', -, -⟩ := hcond
      have hslot : va' / 2 ^ 21 ≠ va / 2 ^ 21 := by
        have hva : va ≠ va' := by simpa using hne
        simp only [REGION_2MB] at halign halign'
        omega
      rw [PagingTrace.mapRegion_state, mapRegion_entry h.ready hva hpa hfit hroom (by omega) hi,
        if_neg hslot]
      exact hentries i hi

lemma PagingWf.getTable (h : PagingWf t) (hs : pagingStep t .getTable = .ok t') : PagingWf t' := by
  obtain ⟨hroom, rfl⟩ := pagingStep_getTable h.ready hs
  have haligned := h.ready.aligned
  refine ⟨⟨hroom, ?_, h.ready.pml4, h.ready.pdpt, ?_⟩, h.region, h.handed.1, h.handed.2⟩
  · simp only
    omega
  · intro d hd
    exact (h.ready.directory d hd).trans (Nat.le_add_right _ _)

lemma PagingWf.step (h : PagingWf t) {c : PagingCall} (hc : PagingCondition t c)
    (hs : pagingStep t c = .ok t') : PagingWf t' := by
  cases c with
  | map pa va => exact h.map hc hs
  | getTable => exact h.getTable hs

/-- Outside the region the walk reads what it read before. -/
lemma PagingWf.frame_map (h : PagingWf t) (hc : PagingCondition t (.map pa va))
    (hs : pagingStep t (.map pa va) = .ok t') {x : ℕ} (hx : Canonical x)
    (hout : ¬(va ≤ x ∧ x < va + REGION_2MB)) : t'.translate x = t.translate x := by
  obtain ⟨hva, halign, hpa, hfit⟩ := hc
  obtain ⟨hroom, rfl⟩ := pagingStep_map h.ready hva hfit hs
  rcases Nat.lt_or_ge x (2 ^ 30) with hlt | hge
  · have hready := (h.ready.mapRegion pa hva hroom).1
    have hslot : x / 2 ^ 21 ≠ va / 2 ^ 21 := by
      simp only [REGION_2MB] at halign hout
      omega
    rw [PagingTrace.translate, PagingTrace.translate, PagingTrace.mapRegion_state,
      virtualToPhysical_eq hready.pml4 hready.pdpt hlt,
      virtualToPhysical_eq h.ready.pml4 h.ready.pdpt hlt,
      mapRegion_entry h.ready hva hpa hfit hroom (by omega) (Nat.mod_lt _ (by decide)),
      if_neg hslot]
  · exact virtualToPhysical_above hx hge _ _

lemma PagingWf.contract (h : PagingWf t) {c : PagingCall} (hc : PagingCondition t c)
    (hs : pagingStep t c = .ok t') : PagingContract t c t' := by
  have h' := h.step hc hs
  refine ⟨fun pa va hlast offset hoffset => h'.follows hlast hoffset, ?_, h'.handed_nodup, ?_⟩
  · intro x hx hout
    cases c with
    | map pa va => exact h.frame_map hc hs hx (hout pa va rfl)
    | getTable =>
        obtain ⟨-, rfl⟩ := pagingStep_getTable h.ready hs
        rfl
  · intro pt hpt
    exact (h'.handed_le pt hpt).trans_lt h'.ready.base

/-- **Translation follows the mapped regions** in every run that maps aligned regions of the first
GB. -/
theorem paging_run {s : PagingState} (hready : PagingReady s) (calls : List PagingCall)
    (hcalls : Meets pagingStep PagingCondition ⟨s, [], []⟩ calls) :
    AlongSteps pagingStep PagingContract ⟨s, [], []⟩ calls := by
  have hinit : PagingWf ⟨s, [], []⟩ := by
    refine ⟨hready, fun pa va hlast => ?_, fun pt hpt => ?_, List.nodup_nil⟩
    · cases hlast
    · cases hpt
  exact hcalls.alongSteps (fun _ _ _ h hc hs => ⟨h.contract hc hs, h.step hc hs⟩) hinit

/-- The tables as `mmInitializePaging` clears and links them, in a memory of zeros. -/
def bootPaging : PagingState where
  mem x :=
    if x = KERNEL_PML4_PA then KERNEL_PDPT_PA ||| 7
    else if x = KERNEL_PDPT_PA then KERNEL_PD_PA ||| 7
    else if KERNEL_PD_PA ≤ x ∧ x < KERNEL_PML4_PA + 4096 then 2
    else 0
  tablePointerHeapBase := 0x1000

lemma bootPaging_ready : PagingReady bootPaging where
  base := by decide
  aligned := by decide
  pml4 := by decide
  pdpt := by decide
  directory d hd := by
    have hpdpt : KERNEL_PDPT_PA = KERNEL_PD_PA + 4096 := rfl
    have hpml4 : KERNEL_PML4_PA = KERNEL_PD_PA + 8192 := rfl
    rw [bootPaging]
    dsimp only
    rw [if_neg (by omega), if_neg (by omega), if_pos (by omega)]
    decide

/-- The registers of the local APIC. -/
theorem paging_run_lapic :
    AlongSteps pagingStep PagingContract ⟨bootPaging, [], []⟩ [.map 0xFEE00000 0x31400000] :=
  paging_run bootPaging_ready _ fun _ _ =>
    ⟨⟨by decide, by decide, by decide, by decide⟩, trivial⟩

/-- A table of the firmware that does not start at a page: the translation of its address lacks the
offset in the page. -/
theorem paging_fails :
    ¬AlongSteps pagingStep PagingContract ⟨bootPaging, [], []⟩ [.map 0x7FE1234 0x31800000] := by
  intro h
  have hroom : bootPaging.tablePointerHeapBase + 4096 < FAT_ADDRESS := by decide
  have hstep : pagingStep ⟨bootPaging, [], []⟩ (.map 0x7FE1234 0x31800000) = .ok _ :=
    pagingStep_map_eq bootPaging_ready (by decide) (by decide) hroom
  have hva : 0x31800000 < 2 ^ 30 := by decide
  have hzero : ulongAdd 0x31800000 0 = 0x31800000 := by decide
  obtain ⟨hready, htable⟩ := bootPaging_ready.mapRegion 0x7FE1234 hva hroom
  have hfollows := (h _ hstep).1.follows 0x7FE1234 0x31800000 rfl 0 (by decide)
  rw [hzero, PagingTrace.translate, PagingTrace.mapRegion_state,
    virtualToPhysical_eq hready.pml4 hready.pdpt hva, htable _ (by decide), if_pos rfl,
    mapRegion_mem, mappedMem_entry (by decide) (by decide) (by decide)] at hfollows
  exact absurd (Except.ok.inj hfollows) (by decide)

end Gramado
