import Gramado.Lib.PageWalk
import Gramado.Core.CTypes

/-!
# The page tables of the boot loader

`SetUpPaging` of `blgram/mm/pages.c`, up to the control registers.  The loader runs with 32 bits: an entry
is two `unsigned long`, the low one first.  Six regions of 2 MB are mapped, each with a page table of its
own.

* `TablesBuilt` — what the tables hold when some of the regions are mapped.
* `setUpPaging_walk` — to what the processor translates every address then, and with which rights.
-/

namespace Gramado

open PageWalk

/-! ## The tables -/

/-- `KERNEL_BASE`. -/
def KERNEL_BASE : ℕ := 0x00100000

/-- `USER_BASE`. -/
def USER_BASE : ℕ := 0x00400000

/-- `VM_BASE`. -/
def VM_BASE : ℕ := 0x000B8000

/-- `boot_pml4`. -/
def BOOT_PML4 : ℕ := 0x01000000 - 0x00700000

/-- `boot_pdpt`. -/
def BOOT_PDPT : ℕ := 0x01000000 - 0x00800000

/-- `boot_pd0`. -/
def BOOT_PD0 : ℕ := 0x01000000 - 0x00900000

/-- The two halves of the entry `i` are written, the upper one with zero. -/
def writeEntry (table i low : ℕ) (mem : ℕ → ℕ) : ℕ → ℕ :=
  Function.update (Function.update mem (table + 8 * i) low) (table + 8 * i + 4) 0

/-- The loop that clears a table. -/
def clearTable (table : ℕ) (mem : ℕ → ℕ) : ℕ → ℕ :=
  (List.range 512).foldl (fun mem i => writeEntry table i (0 ||| 2) mem) mem

/-- An entry is pointed to a table, and gets its flags. -/
def pointEntry (table i ptr flags : ℕ) (mem : ℕ → ℕ) : ℕ → ℕ :=
  let mem := Function.update mem (table + 8 * i) ptr
  let mem := Function.update mem (table + 8 * i) (mem (table + 8 * i) ||| flags)
  Function.update mem (table + 8 * i + 4) 0

/-- The body of the loop that fills a page table, on the address to come and the memory. -/
def fillPage (pt flags : ℕ) (loop : ℕ × (ℕ → ℕ)) (i : ℕ) : ℕ × (ℕ → ℕ) :=
  ((loop.1 + 4096) % 2 ^ 32, writeEntry pt i (loop.1 ||| flags) loop.2)

/-- A region of 2 MB: the entry of the page directory, the page table, where it lies, and the flags. -/
structure BootRegion where
  slot : ℕ
  table : ℕ
  base : ℕ
  flags : ℕ

/-- One `Entry_` of `SetUpPaging`. -/
def mapEntry (r : BootRegion) (mem : ℕ → ℕ) : ℕ → ℕ :=
  pointEntry BOOT_PD0 r.slot r.table r.flags
    ((List.range 512).foldl (fillPage r.table r.flags) (r.base, mem)).2

/-- The first 2 MB, `ptKM`. -/
def entry0 : BootRegion := ⟨0, 0x0008F000, 0, 3⟩

/-- The user mode area, `ptUM`. -/
def entry1 : BootRegion := ⟨1, 0x0008D000, USER_BASE, 7⟩

/-- The video memory of the text mode, `ptVGA`. -/
def entry2 : BootRegion := ⟨2, 0x0008C000, VM_BASE, 7⟩

/-- The kernel image, `ptKM2`. -/
def entry384 : BootRegion := ⟨384, 0x0008E000, KERNEL_BASE, 3⟩

/-- The frontbuffer at `g_lbf_pa`, `ptLFB`. -/
def entry385 (lfb : UInt32) : BootRegion := ⟨385, 0x0008B000, lfb.toNat, 7⟩

/-- The backbuffer, `ptBACKBUFFER`. -/
def entry386 : BootRegion := ⟨386, 0x0008A000, 0x01000000, 7⟩

/-- `SetUpPaging`, up to the control registers, on the `unsigned long` values in memory. -/
def setUpPaging (lfb : UInt32) (mem : ℕ → ℕ) : ℕ → ℕ :=
  let mem := clearTable BOOT_PML4 mem
  let mem := clearTable BOOT_PDPT mem
  let mem := clearTable BOOT_PD0 mem
  let mem := pointEntry BOOT_PDPT 0 BOOT_PD0 3 mem
  let mem := pointEntry BOOT_PML4 0 BOOT_PDPT 3 mem
  let mem := mapEntry entry0 mem
  let mem := mapEntry entry1 mem
  let mem := mapEntry entry2 mem
  let mem := mapEntry entry384 mem
  let mem := mapEntry (entry385 lfb) mem
  mapEntry entry386 mem

/-- What the processor reads at an address: 64 bits. -/
def entryAt (mem : ℕ → ℕ) (a : ℕ) : ℕ := mem a + 2 ^ 32 * mem (a + 4)

/-! ## What is written -/

section Writes

variable {mem : ℕ → ℕ} {table a i : ℕ}

lemma entryAt_write (htable : 8 ∣ table) (ha : 8 ∣ a) (low : ℕ) :
    entryAt (writeEntry table i low mem) a = if a = table + 8 * i then low else entryAt mem a := by
  simp only [entryAt, writeEntry, Function.update_apply]
  by_cases hhere : a = table + 8 * i
  · subst hhere
    simp
  · have hlow : a ≠ table + 8 * i + 4 := by omega
    have hhigh : a + 4 ≠ table + 8 * i := by omega
    have hhigh' : a + 4 ≠ table + 8 * i + 4 := by omega
    rw [if_neg hlow, if_neg hhere, if_neg hhigh', if_neg hhigh, if_neg hhere]

lemma pointEntry_eq (ptr flags : ℕ) :
    pointEntry table i ptr flags mem = writeEntry table i (ptr ||| flags) mem := by
  simp only [pointEntry, writeEntry, Function.update_self, Function.update_idem]

/-- The table that begins at `table`, up to its `n`-th entry. -/
def InEntries (table n a : ℕ) : Prop := table ≤ a ∧ a < table + 8 * n

instance (table n a : ℕ) : Decidable (InEntries table n a) := inferInstanceAs (Decidable (_ ∧ _))

lemma entryAt_clear (htable : 8 ∣ table) (ha : 8 ∣ a) :
    entryAt (clearTable table mem) a = if InEntries table 512 a then 2 else entryAt mem a := by
  have hloop (n : ℕ) : entryAt ((List.range n).foldl (fun mem i => writeEntry table i (0 ||| 2) mem) mem) a
      = if InEntries table n a then 2 else entryAt mem a := by
    induction n with
    | zero => rw [if_neg (by rw [InEntries]; omega), List.range_zero, List.foldl_nil]
    | succ n ih =>
        rw [List.range_succ, List.foldl_append, List.foldl_cons, List.foldl_nil, entryAt_write htable ha, ih]
        by_cases hlast : a = table + 8 * n
        · rw [if_pos hlast, if_pos (by rw [InEntries]; omega)]
          rfl
        · by_cases hin : InEntries table n a
          · rw [if_neg hlast, if_pos hin, if_pos (by rw [InEntries] at hin ⊢; omega)]
          · rw [if_neg hlast, if_neg hin, if_neg (by rw [InEntries] at hin ⊢; omega)]
  exact hloop 512

lemma entryAt_fill (htable : 8 ∣ table) (ha : 8 ∣ a) {base : ℕ} (hbase : base < 2 ^ 32) (flags : ℕ) :
    entryAt ((List.range 512).foldl (fillPage table flags) (base, mem)).2 a
      = if InEntries table 512 a then (base + 4096 * ((a - table) / 8)) % 2 ^ 32 ||| flags
        else entryAt mem a := by
  have hloop (n : ℕ) : ((List.range n).foldl (fillPage table flags) (base, mem)).1 = (base + 4096 * n) % 2 ^ 32 ∧
      entryAt ((List.range n).foldl (fillPage table flags) (base, mem)).2 a
        = if InEntries table n a then (base + 4096 * ((a - table) / 8)) % 2 ^ 32 ||| flags
          else entryAt mem a := by
    induction n with
    | zero =>
        rw [if_neg (by rw [InEntries]; omega), List.range_zero, List.foldl_nil]
        exact ⟨(Nat.mod_eq_of_lt hbase).symm, rfl⟩
    | succ n ih =>
        obtain ⟨hnext, hentry⟩ := ih
        rw [List.range_succ, List.foldl_append, List.foldl_cons, List.foldl_nil, fillPage]
        refine ⟨?_, ?_⟩
        · dsimp only
          rw [hnext]
          omega
        · dsimp only
          rw [entryAt_write htable ha, hnext, hentry]
          by_cases hlast : a = table + 8 * n
          · have hindex : (a - table) / 8 = n := by omega
            rw [if_pos hlast, if_pos (by rw [InEntries]; omega), hindex]
          · by_cases hin : InEntries table n a
            · rw [if_neg hlast, if_pos hin, if_pos (by rw [InEntries] at hin ⊢; omega)]
            · rw [if_neg hlast, if_neg hin, if_neg (by rw [InEntries] at hin ⊢; omega)]
  exact (hloop 512).2

end Writes

/-! ## The tables built -/

/-- The entry is one of the directory, the page table lies below the directory, and the rights let the kernel
write. -/
structure RegionOk (r : BootRegion) : Prop where
  slot : r.slot < 512
  aligned : 2 ^ 12 ∣ r.table
  below : r.table + 4096 ≤ BOOT_PD0
  base : r.base < 2 ^ 32
  flags : r.flags = 3 ∨ r.flags = 7

/-- **The tables with the regions of `rs` mapped**, the latest first. -/
structure TablesBuilt (rs : List BootRegion) (mem : ℕ → ℕ) : Prop where
  pml4 : ∀ i < 512, entryAt mem (BOOT_PML4 + 8 * i) = if i = 0 then BOOT_PDPT ||| 3 else 2
  pdpt : ∀ i < 512, entryAt mem (BOOT_PDPT + 8 * i) = if i = 0 then BOOT_PD0 ||| 3 else 2
  directory : ∀ i < 512, entryAt mem (BOOT_PD0 + 8 * i) =
    match rs.find? (fun r => r.slot = i) with
    | some r => r.table ||| r.flags
    | none => 2
  pages : ∀ r ∈ rs, ∀ i < 512, entryAt mem (r.table + 8 * i) = (r.base + 4096 * i) % 2 ^ 32 ||| r.flags

/-- Where the upper levels lie. -/
lemma boot_tables : BOOT_PML4 = 0x900000 ∧ BOOT_PDPT = 0x800000 ∧ BOOT_PD0 = 0x700000 := ⟨rfl, rfl, rfl⟩

section Built

variable {mem : ℕ → ℕ} {rs : List BootRegion} {r : BootRegion} {a : ℕ}

/-- The upper levels, before a region is mapped. -/
def upperLevels (mem : ℕ → ℕ) : ℕ → ℕ :=
  pointEntry BOOT_PML4 0 BOOT_PDPT 3 (pointEntry BOOT_PDPT 0 BOOT_PD0 3
    (clearTable BOOT_PD0 (clearTable BOOT_PDPT (clearTable BOOT_PML4 mem))))

lemma entryAt_upperLevels (ha : 8 ∣ a) : entryAt (upperLevels mem) a =
    if a = BOOT_PML4 then BOOT_PDPT ||| 3 else if a = BOOT_PDPT then BOOT_PD0 ||| 3
    else if InEntries BOOT_PD0 512 a ∨ InEntries BOOT_PDPT 512 a ∨ InEntries BOOT_PML4 512 a then 2
    else entryAt mem a := by
  have hpml4 : 8 ∣ BOOT_PML4 := by decide
  have hpdpt : 8 ∣ BOOT_PDPT := by decide
  have hpd : 8 ∣ BOOT_PD0 := by decide
  rw [upperLevels, pointEntry_eq, pointEntry_eq, entryAt_write hpml4 ha, entryAt_write hpdpt ha,
    entryAt_clear hpd ha, entryAt_clear hpdpt ha, entryAt_clear hpml4 ha, Nat.mul_zero, Nat.add_zero,
    Nat.add_zero]
  split_ifs <;> tauto

lemma tablesBuilt_nil (mem : ℕ → ℕ) : TablesBuilt [] (upperLevels mem) := by
  obtain ⟨hpml4, hpdpt, hpd⟩ := boot_tables
  refine ⟨fun i hi => ?_, fun i hi => ?_, fun i hi => ?_, fun r hr => absurd hr List.not_mem_nil⟩
  · rw [entryAt_upperLevels (by omega)]
    by_cases hzero : i = 0
    · rw [if_pos (by omega), if_pos hzero]
    · rw [if_neg (by omega), if_neg (by omega), if_pos (by simp only [InEntries]; omega), if_neg hzero]
  · rw [entryAt_upperLevels (by omega)]
    by_cases hzero : i = 0
    · rw [if_neg (by omega), if_pos (by omega), if_pos hzero]
    · rw [if_neg (by omega), if_neg (by omega), if_pos (by simp only [InEntries]; omega), if_neg hzero]
  · rw [entryAt_upperLevels (by omega), if_neg (by omega), if_neg (by omega),
      if_pos (by simp only [InEntries]; omega)]
    rfl

/-- What one more region writes. -/
lemma entryAt_mapEntry (hr : RegionOk r) (ha : 8 ∣ a) : entryAt (mapEntry r mem) a =
    if a = BOOT_PD0 + 8 * r.slot then r.table ||| r.flags
    else if InEntries r.table 512 a then (r.base + 4096 * ((a - r.table) / 8)) % 2 ^ 32 ||| r.flags
    else entryAt mem a := by
  have hpd : 8 ∣ BOOT_PD0 := by decide
  have htable : 8 ∣ r.table := (by decide : 8 ∣ 2 ^ 12).trans hr.aligned
  rw [mapEntry, pointEntry_eq, entryAt_write hpd ha, entryAt_fill htable ha hr.base]

/-- **One more region is mapped.** -/
lemma TablesBuilt.mapEntry (h : TablesBuilt rs mem) (hr : RegionOk r)
    (hrs : ∀ r' ∈ rs, RegionOk r' ∧ r'.table ≠ r.table) : TablesBuilt (r :: rs) (mapEntry r mem) := by
  obtain ⟨hpml4, hpdpt, hpd⟩ := boot_tables
  have hbelow := hr.below
  have hslot := hr.slot
  obtain ⟨q, hq⟩ := hr.aligned
  refine ⟨fun i hi => ?_, fun i hi => ?_, fun i hi => ?_, fun r' hr' i hi => ?_⟩
  · rw [entryAt_mapEntry hr (by omega), if_neg (by omega), if_neg (by simp only [InEntries]; omega),
      h.pml4 i hi]
  · rw [entryAt_mapEntry hr (by omega), if_neg (by omega), if_neg (by simp only [InEntries]; omega),
      h.pdpt i hi]
  · rw [entryAt_mapEntry hr (by omega)]
    by_cases hhere : r.slot = i
    · have hfind : (r :: rs).find? (fun r => r.slot = i) = some r :=
        List.find?_cons_of_pos (decide_eq_true hhere)
      rw [if_pos (by rw [hhere]), hfind]
    · have hfind : (r :: rs).find? (fun r => r.slot = i) = rs.find? (fun r => r.slot = i) :=
        List.find?_cons_of_neg (by rw [decide_eq_true_iff]; exact hhere)
      rw [if_neg (by omega), if_neg (by simp only [InEntries]; omega), h.directory i hi, hfind]
  · rcases List.mem_cons.1 hr' with rfl | hold
    · have hindex : (r'.table + 8 * i - r'.table) / 8 = i := by omega
      rw [entryAt_mapEntry hr (by omega), if_neg (by omega), if_pos (by simp only [InEntries]; omega), hindex]
    · obtain ⟨hr'ok, hne⟩ := hrs r' hold
      obtain ⟨q', hq'⟩ := hr'ok.aligned
      have hbelow' := hr'ok.below
      rw [entryAt_mapEntry hr (by omega), if_neg (by omega), if_neg (by simp only [InEntries]; omega),
        h.pages r' hold i hi]

/-- The page that a region maps an address to: the processor may write there, and user mode may do
nothing, since the upper levels do not let it through. -/
def BootRegion.translation (r : BootRegion) (va : ℕ) : Translation where
  address := (r.base / 4096 * 4096 + va % 2 ^ 21) % 2 ^ 32
  writable := true
  user := false

/-- An entry that was put together from a table and flags. -/
lemma RegionOk.entry (hr : RegionOk r) (ha : 2 ^ 12 ∣ a) : (a ||| r.flags).testBit 0 = true ∧
    (a ||| r.flags).testBit 1 = true ∧ (a ||| r.flags).testBit 7 = false := by
  rw [testBit_or_flags ha (by decide), testBit_or_flags ha (by decide), testBit_or_flags ha (by decide)]
  rcases hr.flags with hflags | hflags
  · rw [hflags]
    decide
  · rw [hflags]
    decide

/-- The rights that the entry of a page gives. -/
lemma RegionOk.page (hr : RegionOk r) (x : ℕ) :
    (x ||| r.flags).testBit 0 = true ∧ (x ||| r.flags).testBit 1 = true := by
  rw [Nat.testBit_or, Nat.testBit_or]
  rcases hr.flags with hflags | hflags
  · rw [hflags]
    exact ⟨Bool.or_true _, Bool.or_true _⟩
  · rw [hflags]
    exact ⟨Bool.or_true _, Bool.or_true _⟩

/-- The address in a page of 4 KB is the one behind the base of its region. -/
lemma page_address (base va : ℕ) : (base + 4096 * index 0 va) % 2 ^ 32 / 2 ^ 12 * 2 ^ 12 / 2 ^ (12 + 9 * 0) *
    2 ^ (12 + 9 * 0) + va % 2 ^ (12 + 9 * 0) = (base / 4096 * 4096 + va % 2 ^ 21) % 2 ^ 32 := by
  have hva : va % 2 ^ 21 = va % 2 ^ 12 + 2 ^ 12 * index 0 va :=
    (Nat.mod_mul : va % (2 ^ 12 * 512) = _)
  have hpage : (base + 4096 * index 0 va) % 2 ^ 32 / 2 ^ 12 = (base / 4096 + index 0 va) % 2 ^ 20 := by
    omega
  rw [Nat.mul_zero, Nat.add_zero, Nat.mul_div_cancel _ (by decide), hpage, hva]
  omega

/-- The walk from the page directory on. -/
lemma TablesBuilt.walk_directory (h : TablesBuilt rs mem) (hrs : ∀ r ∈ rs, RegionOk r) (va : ℕ) :
    walkFrom (entryAt mem) va 1 BOOT_PD0 (true && (BOOT_PDPT ||| 3).testBit 1 && (BOOT_PD0 ||| 3).testBit 1)
        (true && (BOOT_PDPT ||| 3).testBit 2 && (BOOT_PD0 ||| 3).testBit 2)
      = (rs.find? (fun r => r.slot = index 1 va)).map fun r => r.translation va := by
  have hlt (level : ℕ) : index level va < 512 := Nat.mod_lt _ (by decide)
  have h2 := h.directory _ (hlt 1)
  cases hfind : rs.find? (fun r => r.slot = index 1 va) with
  | none =>
      rw [hfind] at h2
      exact walkFrom_absent h2 (by decide)
  | some r =>
      rw [hfind] at h2
      have hmem : r ∈ rs := List.mem_of_find?_eq_some hfind
      have hr := hrs r hmem
      have hbelow := hr.below
      obtain ⟨hpresent, hwritable, hlarge⟩ := hr.entry hr.aligned
      have h1 := h.pages r hmem _ (hlt 0)
      obtain ⟨hpresent', hwritable'⟩ := hr.page ((r.base + 4096 * index 0 va) % 2 ^ 32)
      have hflags : r.flags < 2 ^ 12 := by
        rcases hr.flags with hf | hf <;> omega
      have htable : frame (r.table ||| r.flags) = r.table := by
        obtain ⟨-, -, hpd⟩ := boot_tables
        obtain ⟨q, hq⟩ := hr.aligned
        rw [frame_or hflags (by omega)]
        omega
      have hframe : frame ((r.base + 4096 * index 0 va) % 2 ^ 32 ||| r.flags)
          = (r.base + 4096 * index 0 va) % 2 ^ 32 / 2 ^ 12 * 2 ^ 12 := frame_or hflags (by omega)
      rw [walkFrom_table h2 hpresent hlarge, htable, walkFrom_page h1 hpresent', hwritable, hwritable',
        Option.map_some, page, hframe, page_address]
      rfl

/-- **The walk through the tables**: what lies above the first GB is not mapped. -/
lemma TablesBuilt.walk (h : TablesBuilt rs mem) (hrs : ∀ r ∈ rs, RegionOk r) (va : ℕ) :
    PageWalk.walk (entryAt mem) BOOT_PML4 va = if va % 2 ^ 48 < 2 ^ 30 then
      (rs.find? (fun r => r.slot = index 1 va)).map fun r => r.translation va else none := by
  have hlt (level : ℕ) : index level va < 512 := Nat.mod_lt _ (by decide)
  have h4 := h.pml4 _ (hlt 3)
  have h3 := h.pdpt _ (hlt 2)
  have h2 := h.directory _ (hlt 1)
  rw [PageWalk.walk]
  by_cases hthree : index 3 va = 0
  · rw [if_pos hthree] at h4
    rw [walkFrom_table h4 (by decide) (by decide)]
    have hframe : frame (BOOT_PDPT ||| 3) = BOOT_PDPT := by decide
    rw [hframe]
    by_cases htwo : index 2 va = 0
    · rw [if_pos htwo] at h3
      rw [walkFrom_table h3 (by decide) (by decide)]
      have hframe : frame (BOOT_PD0 ||| 3) = BOOT_PD0 := by decide
      rw [hframe, if_pos (by simp only [index] at hthree htwo; omega)]
      exact h.walk_directory hrs va
    · rw [if_neg htwo] at h3
      rw [walkFrom_absent h3 (by decide), if_neg]
      simp only [index] at hthree htwo
      omega
  · rw [if_neg hthree] at h4
    rw [walkFrom_absent h4 (by decide), if_neg]
    simp only [index] at hthree
    omega

end Built

/-! ## Every address -/

/-- A page that only the kernel may touch. -/
def kernelPage (address : ℕ) : Option Translation := some { address := address, writable := true, user := false }

/-- **What the loader maps**: the first 2 MB where they are, an area for user mode, the video memory of the
text mode, and above `0x30000000` the kernel image, the frontbuffer and the backbuffer. -/
def bootMap (lfb : UInt32) (va : ℕ) : Option Translation :=
  if va < 0x200000 then kernelPage va
  else if va < 0x400000 then kernelPage (USER_BASE + (va - 0x200000))
  else if va < 0x600000 then kernelPage (VM_BASE + (va - 0x400000))
  else if va < 0x30000000 then none
  else if va < 0x30200000 then kernelPage (KERNEL_BASE + (va - 0x30000000))
  else if va < 0x30400000 then kernelPage ((lfb.toNat / 4096 * 4096 + (va - 0x30200000)) % 2 ^ 32)
  else if va < 0x30600000 then kernelPage (0x01000000 + (va - 0x30400000))
  else none

/-- The regions, the latest first. -/
def bootRegions (lfb : UInt32) : List BootRegion := [entry386, entry385 lfb, entry384, entry2, entry1, entry0]

lemma bootRegions_ok (lfb : UInt32) : ∀ r ∈ bootRegions lfb, RegionOk r := by
  intro r hr
  simp only [bootRegions, List.mem_cons, List.not_mem_nil, or_false] at hr
  rcases hr with rfl | rfl | rfl | rfl | rfl | rfl
  · exact ⟨by decide, by decide, by decide, by decide, by decide⟩
  · exact ⟨(by decide : 385 < 512), (by decide : 2 ^ 12 ∣ 0x0008B000), (by decide : 0x0008B000 + 4096 ≤ BOOT_PD0),
      lfb.toNat_lt, .inr rfl⟩
  · exact ⟨by decide, by decide, by decide, by decide, by decide⟩
  · exact ⟨by decide, by decide, by decide, by decide, by decide⟩
  · exact ⟨by decide, by decide, by decide, by decide, by decide⟩
  · exact ⟨by decide, by decide, by decide, by decide, by decide⟩

/-- The regions are mapped one after the other. -/
lemma tablesBuilt_foldr {rs : List BootRegion} (hok : ∀ r ∈ rs, RegionOk r)
    (hnodup : (rs.map BootRegion.table).Nodup) (mem : ℕ → ℕ) :
    TablesBuilt rs (rs.foldr mapEntry (upperLevels mem)) := by
  induction rs with
  | nil => exact tablesBuilt_nil mem
  | cons r rs ih =>
      obtain ⟨hr, hrs⟩ := List.forall_mem_cons.1 hok
      obtain ⟨hnew, hrest⟩ := List.nodup_cons.1 hnodup
      refine (ih hrs hrest).mapEntry hr fun r' hr' => ⟨hrs r' hr', fun heq => hnew ?_⟩
      rw [← heq]
      exact List.mem_map_of_mem hr'

lemma setUpPaging_built (lfb : UInt32) (mem : ℕ → ℕ) : TablesBuilt (bootRegions lfb) (setUpPaging lfb mem) := by
  have hnodup : ((bootRegions lfb).map BootRegion.table).Nodup := by
    show [0x0008A000, 0x0008B000, 0x0008E000, 0x0008C000, 0x0008D000, 0x0008F000].Nodup
    decide
  exact tablesBuilt_foldr (bootRegions_ok lfb) hnodup mem

/-- The region of a slot of the page directory. -/
lemma bootRegions_find (lfb : UInt32) (slot : ℕ) : (bootRegions lfb).find? (fun r => r.slot = slot) =
    if slot = 386 then some entry386 else if slot = 385 then some (entry385 lfb)
    else if slot = 384 then some entry384 else if slot = 2 then some entry2
    else if slot = 1 then some entry1 else if slot = 0 then some entry0 else none := by
  split_ifs with h386 h385 h384 h2 h1 h0
  · subst h386
    rfl
  · subst h385
    rfl
  · subst h384
    rfl
  · subst h2
    rfl
  · subst h1
    rfl
  · subst h0
    rfl
  · refine List.find?_eq_none.2 fun r hr => ?_
    rw [decide_eq_true_iff]
    simp only [bootRegions, List.mem_cons, List.not_mem_nil, or_false] at hr
    rcases hr with rfl | rfl | rfl | rfl | rfl | rfl
    · exact Ne.symm h386
    · exact Ne.symm h385
    · exact Ne.symm h384
    · exact Ne.symm h2
    · exact Ne.symm h1
    · exact Ne.symm h0

/-- **The loader's page tables**: whatever was in memory before, the processor translates every address as
`bootMap` says, and lets nobody but the kernel through. -/
theorem setUpPaging_walk (lfb : UInt32) (mem : ℕ → ℕ) (va : ℕ) :
    walk (entryAt (setUpPaging lfb mem)) BOOT_PML4 va = bootMap lfb (va % 2 ^ 48) := by
  rw [(setUpPaging_built lfb mem).walk (bootRegions_ok lfb), bootRegions_find]
  have hpage {r : BootRegion} {address : ℕ} (h : (r.base / 4096 * 4096 + va % 2 ^ 21) % 2 ^ 32 = address) :
      (some r).map (fun r => r.translation va) = kernelPage address := by
    rw [Option.map_some, BootRegion.translation, h, kernelPage]
  have hindex : index 1 va = va % 2 ^ 48 / 2 ^ 21 % 512 := by
    simp only [index]
    omega
  rw [hindex]
  generalize hv : va % 2 ^ 48 = v
  simp only [bootMap]
  by_cases h0 : v < 0x200000
  · rw [if_pos (by omega), if_neg (by omega), if_neg (by omega), if_neg (by omega), if_neg (by omega),
      if_neg (by omega), if_pos (by omega), if_pos h0]
    exact hpage (by simp only [entry0]; omega)
  rw [if_neg h0]
  by_cases h1 : v < 0x400000
  · rw [if_pos (by omega), if_neg (by omega), if_neg (by omega), if_neg (by omega), if_neg (by omega),
      if_pos (by omega), if_pos h1]
    exact hpage (by simp only [entry1, USER_BASE]; omega)
  rw [if_neg h1]
  by_cases h2 : v < 0x600000
  · rw [if_pos (by omega), if_neg (by omega), if_neg (by omega), if_neg (by omega), if_pos (by omega), if_pos h2]
    exact hpage (by simp only [entry2, VM_BASE]; omega)
  rw [if_neg h2]
  by_cases hgap : v < 0x30000000
  · rw [if_pos (by omega), if_neg (by omega), if_neg (by omega), if_neg (by omega), if_neg (by omega),
      if_neg (by omega), if_neg (by omega), if_pos hgap]
    rfl
  rw [if_neg hgap]
  by_cases h384 : v < 0x30200000
  · rw [if_pos (by omega), if_neg (by omega), if_neg (by omega), if_pos (by omega), if_pos h384]
    exact hpage (by simp only [entry384, KERNEL_BASE]; omega)
  rw [if_neg h384]
  by_cases h385 : v < 0x30400000
  · rw [if_pos (by omega), if_neg (by omega), if_pos (by omega), if_pos h385]
    exact hpage (by simp only [entry385]; omega)
  rw [if_neg h385]
  by_cases h386 : v < 0x30600000
  · rw [if_pos (by omega), if_pos (by omega), if_pos h386]
    exact hpage (by simp only [entry386]; omega)
  rw [if_neg h386]
  by_cases hgb : v < 2 ^ 30
  · rw [if_pos hgb, if_neg (by omega), if_neg (by omega), if_neg (by omega), if_neg (by omega),
      if_neg (by omega), if_neg (by omega)]
    rfl
  · rw [if_neg hgb]

end Gramado
