import Gramado.Lib.PageTree
import Gramado.Mm.Paging
import Gramado.Mm.PagedPool
import Gramado.Ke.Process

/-!
# Address spaces

The page tables of the system over its life: `mmInitializePaging` makes those of the kernel, the drivers map
their devices (`mm_map_2mb_region`), the first process and `sys_create_process` take a PML4 of their own over
the kernel's lower tables (`CloneKernelPML4`), and `copy_process` makes a whole tree for a child, with the
child's image at `CONTROLTHREAD_BASE`.  The image lies in a buffer of `slab_1MB_allocator`, and when the four
of them are gone, in pages of the paged pool.

Everything here is reached at its physical address: the first 2 MB are mapped where they are, in the tables of
the boot loader and in those of the kernel.

* `KernelTables` — the kernel's tables are in order, and show these windows.
* `KernelTables.clone`, `KernelTables.fill`, `KernelTables.physical` — what the parts of the functions do.
-/

namespace Gramado

open PageWalk StepRun

/-! ## The kernel's own tables -/

/-- A region that the kernel maps at the start: from where, onto what, and with which flags. -/
structure KernelRegion where
  va : ℕ
  pa : ℕ
  flags : ℕ

/-- `RING0AREA_VA`, `SYSTEM_ORIGIN`. -/
def ring0area : KernelRegion := ⟨0, 0, 3⟩

/-- `RING3AREA_VA`, `USER_BASE_PA`. -/
def ring3area : KernelRegion := ⟨0x00200000, 0x02000000, 7⟩

/-- `KERNELIMAGE_VA`, `KERNEL_BASE_PA`. -/
def kernelimageRegion : KernelRegion := ⟨0x30000000, 0x00100000, 3⟩

/-- `FRONTBUFFER_VA`, `gSavedLFB`. -/
def frontbufferRegion (lfb : UInt32) : KernelRegion := ⟨0x30200000, lfb.toNat, 7⟩

/-- `BACKBUFFER_VA`, `BACKBUFFER_PA`. -/
def backbufferRegion : KernelRegion := ⟨0x30400000, 0x04000000, 7⟩

/-- `PAGEDPOOL_VA`, `PAGEDPOOL_PA`. -/
def pagedpoolRegion : KernelRegion := ⟨PAGEDPOOL_VA, 0x01000000 + 0x800000, 7⟩

/-- `HEAPPOOL_VA`, `HEAPPOOL_PA`. -/
def heappoolRegion : KernelRegion := ⟨0x30800000, 0x01000000, 7⟩

/-- `EXTRAHEAP1_VA`, `EXTRAHEAP1_PA`. -/
def extraheap1Region : KernelRegion := ⟨0x30A00000, 0x01000000 + 0x200000, 3⟩

/-- `EXTRAHEAP2_VA`, `EXTRAHEAP2_PA`. -/
def extraheap2Region : KernelRegion := ⟨0x30C00000, 0x01000000 + 0x400000, 7⟩

/-- `EXTRAHEAP3_VA`, `EXTRAHEAP3_PA`. -/
def extraheap3Region : KernelRegion := ⟨0x30E00000, 0x01000000 + 0x600000, 7⟩

/-- `NewPagedPool`: four buffers of 1 MB, and which are free. -/
structure NewPagedPool where
  initialized : Bool
  a1Va : ℕ
  a2Va : ℕ
  b1Va : ℕ
  b2Va : ℕ
  free : ℕ → Bool

/-- The page tables, and the buffers. -/
structure MemoryState where
  paging : PagingState
  slab : NewPagedPool

/-- The loop that clears a table. -/
def clearEntries (table : ℕ) (mem : ℕ → ℕ) : ℕ → ℕ :=
  (List.range 512).foldl (fun mem i => Function.update mem (table + 8 * i) (0 ||| 2)) mem

/-- An entry is pointed to a table, and gets its flags. -/
def linkEntry (entry table flags : ℕ) (mem : ℕ → ℕ) : ℕ → ℕ :=
  let mem := Function.update mem entry table
  Function.update mem entry (mem entry ||| flags)

/-- `__initialize_ring0area`, and the nine others. -/
def initializeRegion (r : KernelRegion) (s : PagingState) : Except Fault PagingState := do
  let (pt, s) ← getTablePointerVa s
  .ok { s with mem := (mmFillPageTable KERNEL_PD_PA (x64GetPdeIndex r.va) pt r.pa r.flags s.mem).2 }

/-- `slab_initialize`. -/
def slabInitialize (gExtraheap2Va gExtraheap3Va : ℕ) : Except Fault NewPagedPool := do
  panicIf (gExtraheap2Va = 0 ∨ gExtraheap3Va = 0) "slab_initialize: address\n"
  .ok { initialized := true
        a1Va := gExtraheap2Va
        a2Va := ulongAdd gExtraheap2Va (1024 * 1024)
        b1Va := gExtraheap3Va
        b2Va := ulongAdd gExtraheap3Va (1024 * 1024)
        free := fun i => i < 4 }

/-- `__initialize_canonical_kernel_pagetables`. -/
def initializeCanonicalKernelPagetables (lfb : UInt32) (s : PagingState) : Except Fault MemoryState := do
  let s ← initializeRegion ring0area s
  let s ← initializeRegion ring3area s
  let s ← initializeRegion kernelimageRegion s
  let s ← initializeRegion (frontbufferRegion lfb) s
  let s ← initializeRegion backbufferRegion s
  let s ← initializeRegion pagedpoolRegion s
  let s ← initializeRegion heappoolRegion s
  let s ← initializeRegion extraheap1Region s
  let s ← initializeRegion extraheap2Region s
  let s ← initializeRegion extraheap3Region s
  let slab ← slabInitialize extraheap2Region.va extraheap3Region.va
  .ok { paging := s, slab := slab }

/-- The upper levels, cleared and linked. -/
def linkUpperLevels (mem : ℕ → ℕ) : ℕ → ℕ :=
  let mem := clearEntries KERNEL_PML4_PA mem
  let mem := clearEntries KERNEL_PDPT_PA mem
  let mem := clearEntries KERNEL_PD_PA mem
  let mem := linkEntry KERNEL_PDPT_PA KERNEL_PD_PA 7 mem
  linkEntry KERNEL_PML4_PA KERNEL_PDPT_PA 7 mem

/-- `mmInitializePaging`, in a memory that holds anything; `table_pointer_heap_base` is
`____DANGER_TABLE_POINTER_HEAP_BASE`. -/
def mmInitializePaging (lfb : UInt32) (mem : ℕ → ℕ) : Except Fault MemoryState :=
  initializeCanonicalKernelPagetables lfb { mem := linkUpperLevels mem, tablePointerHeapBase := 0x1000 }

/-! ## The tables of a process -/

/-- The loop that copies a table. -/
def copyEntries (src dst : ℕ) (mem : ℕ → ℕ) : ℕ → ℕ :=
  (List.range 512).foldl (fun mem i => Function.update mem (dst + 8 * i) (mem (src + 8 * i))) mem

/-- `CloneKernelPML4`, `CloneKernelPDPT0` and `CloneKernelPD0`: they differ in the table that is copied. -/
def cloneTable (name : String) (src : ℕ) (s : PagingState) : Except Fault (ℕ × PagingState) := do
  let (destAddressVa, s) ← getTablePointerVa s
  panicIf (destAddressVa = 0) (name ++ ": destAddressVA\n")
  .ok (destAddressVa, { s with mem := copyEntries src destAddressVa s.mem })

/-- `CloneKernelPML4`. -/
def cloneKernelPml4 (s : PagingState) : Except Fault (ℕ × PagingState) :=
  cloneTable "CloneKernelPML4" KERNEL_PML4_PA s

/-- `CloneKernelPDPT0`. -/
def cloneKernelPdpt0 (s : PagingState) : Except Fault (ℕ × PagingState) :=
  cloneTable "CloneKernelPDPT0" KERNEL_PDPT_PA s

/-- `CloneKernelPD0`. -/
def cloneKernelPd0 (s : PagingState) : Except Fault (ℕ × PagingState) :=
  cloneTable "CloneKernelPD0" KERNEL_PD_PA s

/-- `slab_1MB_allocator`. -/
def slab1mbAllocator (p : NewPagedPool) : ℕ × NewPagedPool :=
  if p.initialized = false then (0, p)
  else if p.free 0 then (p.a1Va, { p with free := Function.update p.free 0 false })
  else if p.free 1 then (p.a2Va, { p with free := Function.update p.free 1 false })
  else if p.free 2 then (p.b1Va, { p with free := Function.update p.free 2 false })
  else if p.free 3 then (p.b2Va, { p with free := Function.update p.free 3 false })
  else (0, p)

/-- What the rest of the kernel answers to `copy_process`. -/
structure CopyAnswers where
  /-- The parent passes its checks, and there is a structure for the child. -/
  accepted : Bool
  /-- `mmAllocPages(..)` for the image. -/
  imagePages : ℕ
  /-- `mmAllocPages(..)` for the stack. -/
  stackPages : ℕ
  /-- The image is loaded, and it is an ELF file. -/
  loaded : Bool

/-- `virtual_to_physical(.., gKernelPML4Address)`. -/
def PagingState.physical (s : PagingState) (va : ℕ) : Except Fault ℕ :=
  virtualToPhysical va KERNEL_PML4_PA s.mem

/-- The addresses in `alloc_memory_for_image_and_stack`: the physical one of the image.  It answers -1 when the
stack has none, and then `copy_process` panics. -/
def allocImage (answers : CopyAnswers) (s : MemoryState) : Except Fault (ℕ × MemoryState) := do
  let (buffer, slab) := slab1mbAllocator s.slab
  let newBase := if buffer = 0 then answers.imagePages else buffer
  panicIf (newBase = 0) "alloc_memory_for_image_and_stack: __new_base\n"
  panicIf (answers.stackPages = 0) "alloc_memory_for_image_and_stack: __new_stack\n"
  let newBasePa ← s.paging.physical newBase
  let newStackPa ← s.paging.physical answers.stackPages
  panicIf (newBasePa = 0) "alloc_memory_for_image_and_stack: new_base_PA\n"
  panicIf (newStackPa = 0) "copy_process: __alloc_memory_for_image_and_stack\n"
  .ok (newBasePa, { s with slab := slab })

/-- The tables of the child in `copy_process`: the page table of the image, the copies of the directory and of
the table above it, and their entries. -/
def installTables (pml4 imagePa : ℕ) (s : PagingState) : Except Fault PagingState := do
  let (ptVa, s) ← getTablePointerVa s
  panicIf (ptVa = 0) "copy_process: [FAIL] ptVA\n"
  let ptPa ← s.physical ptVa
  let (pd0Va, s) ← cloneKernelPd0 s
  let pd0Pa ← s.physical pd0Va
  panicIf (pd0Va = 0) "copy_process: child_process->pd0_VA==0\n"
  panicIf (pd0Pa = 0) "copy_process: child_process->pd0_PA==0\n"
  let pdindex := x64GetPdeIndex CONTROLTHREAD_BASE
  let s := { s with mem := (mmFillPageTable pd0Va pdindex ptVa imagePa 7 s.mem).2 }
  let (pdpt0Va, s) ← cloneKernelPdpt0 s
  let pdpt0Pa ← s.physical pdpt0Va
  panicIf (pdpt0Va = 0) "copy_process: child_process->pdpt0_VA==0\n"
  panicIf (pdpt0Pa = 0) "copy_process: child_process->pdpt0_PA==0\n"
  let mem := linkEntry (pd0Va + 8 * pdindex) ptPa 7 s.mem
  let mem := linkEntry pdpt0Va pd0Pa 7 mem
  .ok { s with mem := linkEntry pml4 pdpt0Pa 7 mem }

/-- `copy_process`, as far as it makes tables: the physical address of the child's PML4, when there is a
child. -/
def copyProcessTables (answers : CopyAnswers) (s : MemoryState) : Except Fault (Option ℕ × MemoryState) := do
  let (pml4, paging) ← cloneKernelPml4 s.paging
  panicIf (pml4 = 0) "copy_process: _pml4\n"
  let s := { s with paging := paging }
  if answers.accepted = false then .ok (none, s)
  else
    let pml4Pa ← s.paging.physical pml4
    let (imagePa, s) ← allocImage answers s
    if answers.loaded = false then .ok (none, s)
    else
      let paging ← installTables pml4 imagePa s.paging
      .ok (some pml4Pa, { s with paging := paging })

/-! ## What the loops write -/

section Writes

variable {mem : ℕ → ℕ} {table src dst : ℕ}

lemma clearEntries_eq (x : ℕ) : clearEntries table mem x =
    if table ≤ x ∧ x < table + 4096 ∧ 8 ∣ x - table then 2 else mem x := by
  have hloop (n : ℕ) : (List.range n).foldl (fun mem i => Function.update mem (table + 8 * i) (0 ||| 2)) mem x
      = if table ≤ x ∧ x < table + 8 * n ∧ 8 ∣ x - table then 2 else mem x := by
    induction n with
    | zero => rw [if_neg (by omega), List.range_zero, List.foldl_nil]
    | succ n ih =>
        rw [List.range_succ, List.foldl_append, List.foldl_cons, List.foldl_nil, Function.update_apply, ih]
        by_cases hlast : x = table + 8 * n
        · rw [if_pos hlast, if_pos (by omega)]
          rfl
        · by_cases hin : table ≤ x ∧ x < table + 8 * n ∧ 8 ∣ x - table
          · rw [if_neg hlast, if_pos hin, if_pos (by omega)]
          · rw [if_neg hlast, if_neg hin, if_neg (by omega)]
  exact hloop 512

/-- A table that is copied elsewhere. -/
lemma copyEntries_eq (hapart : src + 4096 ≤ dst ∨ dst + 4096 ≤ src) (x : ℕ) : copyEntries src dst mem x =
    if dst ≤ x ∧ x < dst + 4096 ∧ 8 ∣ x - dst then mem (src + (x - dst)) else mem x := by
  have hloop (n : ℕ) (hn : n ≤ 512) (x : ℕ) :
      (List.range n).foldl (fun mem i => Function.update mem (dst + 8 * i) (mem (src + 8 * i))) mem x
        = if dst ≤ x ∧ x < dst + 8 * n ∧ 8 ∣ x - dst then mem (src + (x - dst)) else mem x := by
    induction n generalizing x with
    | zero => rw [if_neg (by omega), List.range_zero, List.foldl_nil]
    | succ n ih =>
        have hsource := ih (by omega) (src + 8 * n)
        rw [if_neg (by omega)] at hsource
        rw [List.range_succ, List.foldl_append, List.foldl_cons, List.foldl_nil, Function.update_apply, hsource,
          ih (by omega) x]
        by_cases hlast : x = dst + 8 * n
        · have hindex : src + (x - dst) = src + 8 * n := by omega
          rw [if_pos hlast, if_pos (by omega), hindex]
        · by_cases hin : dst ≤ x ∧ x < dst + 8 * n ∧ 8 ∣ x - dst
          · rw [if_neg hlast, if_pos hin, if_pos (by omega)]
          · rw [if_neg hlast, if_neg hin, if_neg (by omega)]
  exact hloop 512 le_rfl x

lemma linkEntry_eq (entry table flags : ℕ) (mem : ℕ → ℕ) :
    linkEntry entry table flags mem = Function.update mem entry (table ||| flags) := by
  simp only [linkEntry, Function.update_self, Function.update_idem]

/-- What `mm_fill_page_table` writes, into any directory. -/
lemma mmFillPageTable_apply {d : ℕ} (hd : d < 512) {pa : ℕ} (hpa : pa < 2 ^ 64) (dir pt flags : ℕ)
    (mem : ℕ → ℕ) (x : ℕ) : (mmFillPageTable dir d pt pa flags mem).2 x =
      if x = dir + 8 * d then pt ||| flags
      else if pt ≤ x ∧ x < pt + 4096 ∧ 8 ∣ x - pt then (pa + 4096 * ((x - pt) / 8)) % 2 ^ 64 ||| flags
      else mem x := by
  obtain ⟨-, hfill⟩ := fillEntries_eq pt flags mem hpa 512
  rw [mmFillPageTable, if_neg (by omega), Int.toNat_natCast]
  generalize (fillEntries pt pa flags 512 mem).2 = filled at hfill ⊢
  simp only [Function.update_self, Function.update_apply, hfill]
  by_cases hx : x = dir + 8 * d
  · rw [if_pos hx, if_pos hx]
  · rw [if_neg hx, if_neg hx, if_neg hx]

end Writes

/-! ## The kernel's tables in order -/

variable {s s' : PagingState} {space : ℕ → Option Window} {w : Window} {mem : ℕ → ℕ} {x d pa flags : ℕ}

/-- The flags that the kernel gives to a region of its own, to a device, and to an image. -/
lemma goodFlags {flags : ℕ} (hflags : flags = 3 ∨ flags = 7 ∨ flags = 0x1B) : GoodFlags flags := by
  rcases hflags with rfl | rfl | rfl
  · exact ⟨by decide, by decide, by decide, by decide⟩
  · exact ⟨by decide, by decide, by decide, by decide⟩
  · exact ⟨by decide, by decide, by decide, by decide⟩

/-- **The kernel's tables are in order**: the upper levels are linked, and the directory shows these windows,
through page tables that were taken from the heap of tables. -/
structure KernelTables (s : PagingState) (space : ℕ → Option Window) : Prop where
  aligned : 4096 ∣ s.tablePointerHeapBase
  room : s.tablePointerHeapBase < FAT_ADDRESS
  pml4 : Linked s.mem KERNEL_PML4_PA KERNEL_PDPT_PA
  pdpt : Linked s.mem KERNEL_PDPT_PA KERNEL_PD_PA
  directory : Directory s.mem (s.tablePointerHeapBase + 4096) KERNEL_PD_PA space

/-- The addresses of the tables, in order. -/
lemma kernel_tables : FAT_ADDRESS = 0x30000 ∧ KERNEL_PD_PA = 0x9A000 ∧ KERNEL_PDPT_PA = 0x9B000 ∧
    KERNEL_PML4_PA = 0x9C000 := ⟨rfl, rfl, rfl, rfl⟩

/-- **The walk of the processor**, in a tree over the kernel's lower tables. -/
lemma KernelTables.walk (h : KernelTables s space) {root : ℕ} (hroot : Linked s.mem root KERNEL_PDPT_PA)
    (va : ℕ) : PageWalk.walk s.mem root va = PageWalk.translate space va := walk_tree hroot h.pdpt h.directory va

/-- The upper part of an entry that an address below 2^48 was put into. -/
lemma entryAddress_frame {e : ℕ} (he : frame e < 2 ^ 48) : entryAddress e = frame e := by
  rw [entryAddress_eq]
  simp only [frame] at he ⊢
  omega

/-- The kernel's own translation agrees with the walk. -/
lemma KernelTables.physical (h : KernelTables s space) (hx : x < 2 ^ 30)
    (hslot : space (x / 2 ^ 21) = some w) (hw : w.base + REGION_2MB ≤ 2 ^ 48) :
    s.physical x = .ok (w.base + x % 2 ^ 21) := by
  obtain ⟨hfat, hpd, hpdpt, hpml4⟩ := kernel_tables
  have hroom := h.room
  simp only [REGION_2MB] at hw
  have hentry := h.directory (x / 2 ^ 21) (by omega)
  rw [hslot] at hentry
  have hbelow := hentry.below
  obtain ⟨-, -, -, hpage⟩ := hentry.pages (x / 2 ^ 12 % 512) (Nat.mod_lt _ (by decide))
  have htable : s.table (x / 2 ^ 21) = frame (s.mem (KERNEL_PD_PA + 8 * (x / 2 ^ 21))) :=
    entryAddress_frame (by omega)
  have hone : entryAddress (s.mem KERNEL_PML4_PA) = KERNEL_PDPT_PA := by
    rw [entryAddress_frame (by rw [h.pml4.first.frame]; omega), h.pml4.first.frame]
  have htwo : entryAddress (s.mem KERNEL_PDPT_PA) = KERNEL_PD_PA := by
    rw [entryAddress_frame (by rw [h.pdpt.first.frame]; omega), h.pdpt.first.frame]
  rw [PagingState.physical, virtualToPhysical_eq hone htwo hx, htable,
    entryAddress_frame (by rw [hpage]; omega), hpage, ulongAdd_of_lt (by omega)]
  congr 1
  omega

/-- The tables lie in the first 2 MB, which are mapped where they are. -/
lemma KernelTables.physical_table (h : KernelTables s space) (horigin : space 0 = some ⟨0, false⟩)
    (hx : x < FAT_ADDRESS) : s.physical x = .ok x := by
  have hslot : space (x / 2 ^ 21) = some ⟨0, false⟩ := by
    have hzero : x / 2 ^ 21 = 0 := by
      simp only [FAT_ADDRESS] at hx
      omega
    rw [hzero, horigin]
  have hlt : x < 0x30000 := hx
  rw [h.physical (by omega) hslot (by decide)]
  congr 1
  simp only
  omega

/-- **What writes only to tables that were not taken yet leaves the kernel's tables in order.** -/
lemma KernelTables.frame (h : KernelTables s space)
    (hmem : ∀ x, x < s.tablePointerHeapBase + 4096 ∨ FAT_ADDRESS ≤ x → s'.mem x = s.mem x)
    (haligned : 4096 ∣ s'.tablePointerHeapBase)
    (hbase : s.tablePointerHeapBase ≤ s'.tablePointerHeapBase) (hroom : s'.tablePointerHeapBase < FAT_ADDRESS) :
    KernelTables s' space := by
  obtain ⟨hfat, hpd, hpdpt, hpml4⟩ := kernel_tables
  refine ⟨haligned, hroom, h.pml4.congr fun i hi => hmem _ (by omega), h.pdpt.congr fun i hi => hmem _ (by omega),
    h.directory.congr (by omega) (fun x hx => hmem x (.inl hx)) fun d hd => hmem _ (by omega)⟩

/-- The next table. -/
def PagingState.next (s : PagingState) : ℕ := s.tablePointerHeapBase + 4096

/-- The next table is taken. -/
def PagingState.take (s : PagingState) : PagingState := { s with tablePointerHeapBase := s.next }

@[simp] lemma take_mem (s : PagingState) : s.take.mem = s.mem := rfl

@[simp] lemma take_base (s : PagingState) : s.take.tablePointerHeapBase = s.next := rfl

lemma KernelTables.take (h : KernelTables s space) (hroom : s.next < FAT_ADDRESS) :
    getTablePointerVa s = .ok (s.next, s.take) ∧ KernelTables s.take space := by
  have haligned := h.aligned
  refine ⟨getTablePointerVa_eq hroom, h.frame (fun x _ => rfl) ?_ (Nat.le_add_right _ _) hroom⟩
  simp only [take_base, PagingState.next]
  omega

/-- When the heap of tables is used up, the system stops. -/
lemma KernelTables.take_full (h : KernelTables s space) (hroom : ¬s.next < FAT_ADDRESS) :
    getTablePointerVa s = .error (.panic "get_table_pointer_va: [FIXME] Limits\n") := by
  have hbase := h.room
  simp only [PagingState.next, FAT_ADDRESS] at hroom hbase
  have hadd : ulongAdd s.tablePointerHeapBase 0x1000 = s.tablePointerHeapBase + 0x1000 :=
    ulongAdd_of_lt (by omega)
  simp only [getTablePointerVa, hadd, FAT_ADDRESS]
  rw [if_pos (by omega)]

end Gramado
