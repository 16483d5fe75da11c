import Gramado.Mm.ChildTables

/-!
# Address spaces over a run

What the tables are for: an address space shows 2 MB of memory behind each slot of the first GB, or nothing.
The kernel has one, the processes with a PML4 of their own over the kernel's lower tables share it, and every
child of `copy_process` has one that was the kernel's at that moment, with the child's image in it.

* `Spaces` — the address spaces, and what each call does to them.
* `address_spaces_run` — in every run the walk of the processor through any PML4 is what its address space says,
  and the system stops exactly when 46 tables do not suffice.
* `ring3_memory` — the memory that user mode can reach through any of them.
* `children_overlap` — a child's upper megabyte is the lower one of the next child.
-/

namespace Gramado

open PageWalk StepRun

/-! ## What the address spaces show -/

/-- What a region of the kernel looks like in its address space. -/
def KernelRegion.window (r : KernelRegion) : Window where
  base := r.pa / 4096 * 4096
  user := r.flags.testBit 2

/-- The regions that the kernel maps at the start, in order. -/
def kernelRegions (lfb : UInt32) : List KernelRegion :=
  [ring0area, ring3area, kernelimageRegion, frontbufferRegion lfb, backbufferRegion, pagedpoolRegion,
    heappoolRegion, extraheap1Region, extraheap2Region, extraheap3Region]

/-- One more region is shown. -/
def showRegion (space : ℕ → Option Window) (r : KernelRegion) : ℕ → Option Window :=
  Function.update space (r.va / 2 ^ 21) (some r.window)

/-- The address space of the kernel at the start. -/
def canonicalSpace (lfb : UInt32) : ℕ → Option Window := (kernelRegions lfb).foldl showRegion fun _ => none

/-- Where the image of a child lies, when `images` buffers have been given away: in the next buffer of the two
extra heaps, or in the pages. -/
def imagePhysical (images pages : ℕ) : ℕ :=
  if images < 4 then extraheap2Region.pa + images * 0x100000
  else pagedpoolRegion.pa + (pages - pagedpoolRegion.va)

/-- The address spaces: how many tables and how many buffers were taken, what the kernel's directory shows, and
what the children see, the newest first. -/
structure Spaces where
  tables : ℕ
  images : ℕ
  kernel : ℕ → Option Window
  children : List (ℕ → Option Window)

/-- The address space of the kernel, and no process. -/
def Spaces.start (lfb : UInt32) : Spaces where
  tables := 10
  images := 0
  kernel := canonicalSpace lfb
  children := []

/-- What makes tables. -/
inductive SpaceCall where
  /-- A device is mapped by its driver. -/
  | map (pa va : ℕ)
  /-- A table is taken for something else. -/
  | getTable
  /-- The first process, and `sys_create_process`. -/
  | clonePml4
  | copyProcess (answers : CopyAnswers)

/-- What a call does to the address spaces. -/
def Spaces.step (a : Spaces) : SpaceCall → Spaces
  | .map pa va =>
      { a with
        tables := a.tables + 1
        kernel := Function.update a.kernel (va / 2 ^ 21) (some { base := pa / 4096 * 4096, user := false }) }
  | .getTable => { a with tables := a.tables + 1 }
  | .clonePml4 => { a with tables := a.tables + 1 }
  | .copyProcess answers =>
      if answers.accepted = false then { a with tables := a.tables + 1 }
      else if answers.loaded = false then { a with tables := a.tables + 1, images := min 4 (a.images + 1) }
      else
        let image : Window := { base := imagePhysical a.images answers.imagePages, user := true }
        { a with
          tables := a.tables + 4
          images := min 4 (a.images + 1)
          children := Function.update a.kernel 1 (some image) :: a.children }

/-- The address spaces after some calls. -/
def spacesAfter (lfb : UInt32) (calls : List SpaceCall) : Spaces := calls.foldl Spaces.step (.start lfb)

/-- Pages of the paged pool. -/
def InPool (x : ℕ) : Prop := pagedpoolRegion.va ≤ x ∧ x < pagedpoolRegion.va + REGION_2MB ∧ 4096 ∣ x

/-- Devices are mapped behind the regions of the kernel, onto any address in the 48 bits of the machine, and
`mmAllocPages` answers with pages of its pool. -/
def SpaceCall.Ok : SpaceCall → Prop
  | .map pa va => 0x31000000 ≤ va ∧ va < 2 ^ 30 ∧ pa + REGION_2MB ≤ 2 ^ 48
  | .getTable => True
  | .clonePml4 => True
  | .copyProcess answers => InPool answers.imagePages ∧ InPool answers.stackPages

/-! ## The calls -/

/-- The state, and the physical addresses of the PML4s: of the processes over the kernel's lower tables, and of
the children, the newest first. -/
structure SpaceTrace where
  state : MemoryState
  roots : List ℕ
  children : List ℕ

/-- The state with other tables. -/
def SpaceTrace.withPaging (t : SpaceTrace) (paging : PagingState) : SpaceTrace :=
  { t with state := { t.state with paging := paging } }

/-- One call. -/
def spaceStep (t : SpaceTrace) : SpaceCall → Except Fault SpaceTrace
  | .map pa va => do
      let (_, paging) ← mmMap2mbRegion pa va t.state.paging
      .ok (t.withPaging paging)
  | .getTable => do
      let (_, paging) ← getTablePointerVa t.state.paging
      .ok (t.withPaging paging)
  | .clonePml4 => do
      let (pml4, paging) ← cloneKernelPml4 t.state.paging
      let pml4Pa ← paging.physical pml4
      .ok { t.withPaging paging with roots := pml4Pa :: t.roots }
  | .copyProcess answers => do
      let (child, state) ← copyProcessTables answers t.state
      .ok { t with state := state, children := child.toList ++ t.children }

/-- The whole of a run: the tables of the kernel, and the calls. -/
def runSpaces (lfb : UInt32) (mem : ℕ → ℕ) (calls : List SpaceCall) : Except Fault SpaceTrace := do
  let state ← mmInitializePaging lfb mem
  runs spaceStep { state := state, roots := [], children := [] } calls

/-! ## The start -/

section Start

variable {s : PagingState} {space : ℕ → Option Window} {r : KernelRegion}

/-- The upper levels are linked, and nothing is shown yet. -/
lemma kernelTables_upper {mem : ℕ → ℕ} (hs : s.mem = linkUpperLevels mem)
    (hbase : s.tablePointerHeapBase = 0x1000) : KernelTables s fun _ => none := by
  obtain ⟨hfat, hpd, hpdpt, hpml4⟩ := kernel_tables
  have hseven : GoodFlags 7 := goodFlags (.inr (.inl rfl))
  have hmem (x : ℕ) : s.mem x =
      if x = KERNEL_PML4_PA then KERNEL_PDPT_PA ||| 7 else if x = KERNEL_PDPT_PA then KERNEL_PD_PA ||| 7
      else if KERNEL_PD_PA ≤ x ∧ x < KERNEL_PD_PA + 4096 ∧ 8 ∣ x - KERNEL_PD_PA then 2
      else if KERNEL_PDPT_PA ≤ x ∧ x < KERNEL_PDPT_PA + 4096 ∧ 8 ∣ x - KERNEL_PDPT_PA then 2
      else if KERNEL_PML4_PA ≤ x ∧ x < KERNEL_PML4_PA + 4096 ∧ 8 ∣ x - KERNEL_PML4_PA then 2 else mem x := by
    rw [hs]
    simp only [linkUpperLevels, linkEntry_eq, Function.update_apply, clearEntries_eq]
  refine ⟨by omega, by omega, ⟨?_, fun i hi hne => ?_⟩, ⟨?_, fun i hi hne => ?_⟩, fun d hd => ?_⟩
  · rw [hmem, if_pos rfl]
    exact .of_flags hseven (by decide) (by decide) (by decide)
  · rw [hmem, if_neg (by omega), if_neg (by omega), if_neg (by omega), if_neg (by omega), if_pos (by omega)]
    decide
  · rw [hmem, if_neg (by decide), if_pos rfl]
    exact .of_flags hseven (by decide) (by decide) (by decide)
  · rw [hmem, if_neg (by omega), if_neg (by omega), if_neg (by omega), if_pos (by omega)]
    decide
  · show (s.mem (KERNEL_PD_PA + 8 * d)).testBit 0 = false
    rw [hmem, if_neg (by omega), if_neg (by omega), if_pos (by omega)]
    decide

/-- A region of the kernel: one of the first GB, for the kernel or for everyone. -/
structure KernelRegion.Ok (r : KernelRegion) : Prop where
  va : r.va < 2 ^ 30
  pa : r.pa + REGION_2MB ≤ 2 ^ 48
  flags : r.flags = 3 ∨ r.flags = 7

lemma kernelRegions_ok (lfb : UInt32) : ∀ r ∈ kernelRegions lfb, r.Ok := by
  have hlfb := lfb.toNat_lt
  intro r hr
  simp only [kernelRegions, List.mem_cons, List.not_mem_nil, or_false] at hr
  rcases hr with rfl | rfl | rfl | rfl | rfl | rfl | rfl | rfl | rfl | rfl
  · exact ⟨by decide, by decide, by decide⟩
  · exact ⟨by decide, by decide, by decide⟩
  · exact ⟨by decide, by decide, by decide⟩
  · exact ⟨(by decide : 0x30200000 < 2 ^ 30), by simp only [frontbufferRegion, REGION_2MB]; omega, .inr rfl⟩
  · exact ⟨by decide, by decide, by decide⟩
  · exact ⟨by decide, by decide, by decide⟩
  · exact ⟨by decide, by decide, by decide⟩
  · exact ⟨by decide, by decide, by decide⟩
  · exact ⟨by decide, by decide, by decide⟩
  · exact ⟨by decide, by decide, by decide⟩

lemma KernelTables.initializeRegion (h : KernelTables s space) (hr : r.Ok) (hroom : s.next < FAT_ADDRESS) :
    Gramado.initializeRegion r s = .ok (s.region (r.va / 2 ^ 21) r.pa r.flags) ∧
      KernelTables (s.region (r.va / 2 ^ 21) r.pa r.flags) (showRegion space r) := by
  have hva := hr.va
  refine ⟨?_, h.region hroom (by omega) (hr.flags.imp_right .inl) hr.pa⟩
  rw [Gramado.initializeRegion, (h.take hroom).1, ok_bind, x64GetPdeIndex_eq hva]
  rfl

/-- The regions one after the other. -/
lemma KernelTables.initializeRegions {rs : List KernelRegion} (hrs : ∀ r ∈ rs, r.Ok) (h : KernelTables s space)
    (hroom : s.tablePointerHeapBase + 4096 * rs.length < FAT_ADDRESS) :
    ∃ s', rs.foldlM (fun s r => Gramado.initializeRegion r s) s = .ok s' ∧
      KernelTables s' (rs.foldl showRegion space) ∧
      s'.tablePointerHeapBase = s.tablePointerHeapBase + 4096 * rs.length := by
  induction rs generalizing s space with
  | nil => exact ⟨s, rfl, h, rfl⟩
  | cons r rs ih =>
      obtain ⟨hr, hrest⟩ := List.forall_mem_cons.1 hrs
      rw [List.length_cons] at hroom ⊢
      have hstep : s.next = s.tablePointerHeapBase + 4096 := rfl
      obtain ⟨hone, h1⟩ := h.initializeRegion hr (by omega)
      have hbase : (s.region (r.va / 2 ^ 21) r.pa r.flags).tablePointerHeapBase = s.next := rfl
      obtain ⟨s', hrun, htables, hend⟩ := ih hrest h1 (by omega)
      refine ⟨s', ?_, htables, by omega⟩
      rw [List.foldlM_cons, hone]
      exact hrun

end Start

/-! ## The buffers -/

/-- The buffers, when the first `images` are taken. -/
def slabAfter (images : ℕ) : NewPagedPool where
  initialized := true
  a1Va := extraheap2Region.va
  a2Va := extraheap2Region.va + 0x100000
  b1Va := extraheap3Region.va
  b2Va := extraheap3Region.va + 0x100000
  free i := images ≤ i ∧ i < 4

lemma slabInitialize_eq : slabInitialize extraheap2Region.va extraheap3Region.va = .ok (slabAfter 0) := by
  have hfree : (fun i => decide (i < 4)) = fun i : ℕ => decide (0 ≤ i ∧ i < 4) := by
    funext i
    rw [decide_eq_decide]
    omega
  rw [slabInitialize, panicIf_not (by decide), ok_bind, slabAfter, ← hfree]
  rfl

lemma slabAfter_take {images : ℕ} (himages : images < 4) :
    slab1mbAllocator (slabAfter images)
      = (extraheap2Region.va + images * 0x100000, slabAfter (images + 1)) := by
  have hfree : Function.update (slabAfter images).free images false = (slabAfter (images + 1)).free := by
    funext i
    simp only [slabAfter, Function.update_apply]
    by_cases hi : i = images
    · rw [if_pos hi, eq_comm, decide_eq_false_iff_not]
      omega
    · rw [if_neg hi, decide_eq_decide]
      omega
  have hstate : { slabAfter images with free := (slabAfter (images + 1)).free } = slabAfter (images + 1) := rfl
  have hone (i : ℕ) (hi : i < images) : (slabAfter images).free i = false := decide_eq_false (by omega)
  have hnow : (slabAfter images).free images = true := decide_eq_true ⟨le_rfl, himages⟩
  rw [slab1mbAllocator, if_neg (show ¬(slabAfter images).initialized = false from Bool.false_ne_true.symm)]
  interval_cases images
  · rw [if_pos hnow, hfree, hstate]
    rfl
  · rw [hone 0 (by decide), if_neg Bool.false_ne_true, if_pos hnow, hfree, hstate]
    rfl
  · rw [hone 0 (by decide), hone 1 (by decide), if_neg Bool.false_ne_true, if_neg Bool.false_ne_true, if_pos hnow,
      hfree, hstate]
    rfl
  · rw [hone 0 (by decide), hone 1 (by decide), hone 2 (by decide), if_neg Bool.false_ne_true,
      if_neg Bool.false_ne_true, if_neg Bool.false_ne_true, if_pos hnow, hfree, hstate]
    rfl

lemma slabAfter_empty : slab1mbAllocator (slabAfter 4) = (0, slabAfter 4) := rfl

/-- What is behind the slots of the kernel's own regions. -/
structure CanonicalSlots (space : ℕ → Option Window) : Prop where
  origin : space 0 = some { base := 0, user := false }
  pagedpool : space 387 = some { base := pagedpoolRegion.pa, user := true }
  extraheap2 : space 390 = some { base := extraheap2Region.pa, user := true }
  extraheap3 : space 391 = some { base := extraheap3Region.pa, user := true }

/-- The windows at the start, slot by slot. -/
lemma canonicalSpace_eq (lfb : UInt32) (d : ℕ) : canonicalSpace lfb d =
    if d = 391 then some extraheap3Region.window else if d = 390 then some extraheap2Region.window
    else if d = 389 then some extraheap1Region.window else if d = 388 then some heappoolRegion.window
    else if d = 387 then some pagedpoolRegion.window else if d = 386 then some backbufferRegion.window
    else if d = 385 then some (frontbufferRegion lfb).window else if d = 384 then some kernelimageRegion.window
    else if d = 1 then some ring3area.window else if d = 0 then some ring0area.window else none := by
  have h391 : extraheap3Region.va / 2 ^ 21 = 391 := rfl
  have h390 : extraheap2Region.va / 2 ^ 21 = 390 := rfl
  have h389 : extraheap1Region.va / 2 ^ 21 = 389 := rfl
  have h388 : heappoolRegion.va / 2 ^ 21 = 388 := rfl
  have h387 : pagedpoolRegion.va / 2 ^ 21 = 387 := rfl
  have h386 : backbufferRegion.va / 2 ^ 21 = 386 := rfl
  have h385 : (frontbufferRegion lfb).va / 2 ^ 21 = 385 := (by decide : 0x30200000 / 2 ^ 21 = 385)
  have h384 : kernelimageRegion.va / 2 ^ 21 = 384 := rfl
  have h1 : ring3area.va / 2 ^ 21 = 1 := rfl
  have h0 : ring0area.va / 2 ^ 21 = 0 := rfl
  simp only [canonicalSpace, kernelRegions, List.foldl_cons, List.foldl_nil, showRegion, Function.update_apply,
    h391, h390, h389, h388, h387, h386, h385, h384, h1, h0]

lemma canonicalSpace_slots (lfb : UInt32) : CanonicalSlots (canonicalSpace lfb) := by
  refine ⟨?_, ?_, ?_, ?_⟩
  · rw [canonicalSpace_eq]
    rfl
  · rw [canonicalSpace_eq]
    rfl
  · rw [canonicalSpace_eq]
    rfl
  · rw [canonicalSpace_eq]
    rfl

section Image

variable {s : MemoryState} {space : ℕ → Option Window} {answers : CopyAnswers} {images x : ℕ}

/-- A page of the paged pool. -/
lemma KernelTables.physical_pool (h : KernelTables s.paging space) (hslots : CanonicalSlots space)
    (hx : InPool x) : s.paging.physical x = .ok (pagedpoolRegion.pa + (x - pagedpoolRegion.va)) := by
  obtain ⟨hlow, hhigh, -⟩ := hx
  have hva : pagedpoolRegion.va = 0x30600000 := rfl
  simp only [REGION_2MB, hva] at hlow hhigh
  have hslot : x / 2 ^ 21 = 387 := by omega
  rw [h.physical (w := { base := pagedpoolRegion.pa, user := true }) (by omega) (hslot ▸ hslots.pagedpool)
    (by decide), hva]
  refine congrArg Except.ok ?_
  simp only
  omega

/-- A buffer of the extra heaps. -/
lemma KernelTables.physical_buffer (h : KernelTables s.paging space) (hslots : CanonicalSlots space)
    (himages : images < 4) : s.paging.physical (extraheap2Region.va + images * 0x100000)
      = .ok (extraheap2Region.pa + images * 0x100000) := by
  have hva : extraheap2Region.va = 0x30C00000 := rfl
  have hpa : extraheap2Region.pa = 0x1400000 := rfl
  have hpa' : extraheap3Region.pa = 0x1600000 := rfl
  rw [hva]
  rcases Nat.lt_or_ge images 2 with htwo | htwo
  · have hslot : (0x30C00000 + images * 0x100000) / 2 ^ 21 = 390 := by omega
    rw [h.physical (w := { base := extraheap2Region.pa, user := true }) (by omega) (hslot ▸ hslots.extraheap2)
      (by decide)]
    refine congrArg Except.ok ?_
    simp only [hpa]
    omega
  · have hslot : (0x30C00000 + images * 0x100000) / 2 ^ 21 = 391 := by omega
    rw [h.physical (w := { base := extraheap3Region.pa, user := true }) (by omega) (hslot ▸ hslots.extraheap3)
      (by decide)]
    refine congrArg Except.ok ?_
    simp only [hpa, hpa']
    omega

/-- **The physical address of the image**: the next buffer, or the pages when there is none. -/
lemma KernelTables.allocImage (h : KernelTables s.paging space) (hslots : CanonicalSlots space)
    (hslab : s.slab = slabAfter images) (himages : images ≤ 4) (himage : InPool answers.imagePages)
    (hstack : InPool answers.stackPages) :
    Gramado.allocImage answers s
      = .ok (imagePhysical images answers.imagePages, { s with slab := slabAfter (min 4 (images + 1)) }) := by
  have hva : pagedpoolRegion.va = 0x30600000 := rfl
  have hpa : pagedpoolRegion.pa = 0x1800000 := rfl
  have hpa' : extraheap2Region.pa = 0x1400000 := rfl
  have hva' : extraheap2Region.va = 0x30C00000 := rfl
  have hstack' := h.physical_pool hslots hstack
  have himage' := h.physical_pool hslots himage
  obtain ⟨hlow, -, -⟩ := hstack
  obtain ⟨hlow', -, -⟩ := himage
  rw [Gramado.allocImage, hslab]
  rcases Nat.lt_or_ge images 4 with hbuffer | hnone
  · have hmin : min 4 (images + 1) = images + 1 := by omega
    rw [slabAfter_take hbuffer, hmin]
    dsimp only
    rw [if_neg (by omega), panicIf_not (by omega), ok_bind, panicIf_not (by omega), ok_bind,
      h.physical_buffer hslots hbuffer, ok_bind, hstack', ok_bind, panicIf_not (by omega), ok_bind,
      panicIf_not (by omega), ok_bind, imagePhysical, if_pos hbuffer]
  · obtain rfl : images = 4 := by omega
    rw [slabAfter_empty]
    dsimp only
    rw [if_pos rfl, panicIf_not (by omega), ok_bind, panicIf_not (by omega), ok_bind, himage', ok_bind, hstack',
      ok_bind, panicIf_not (by omega), ok_bind, panicIf_not (by omega), ok_bind, imagePhysical,
      if_neg (by decide)]
    rfl

/-- The image starts at a page, in the 48 bits of the machine. -/
lemma imagePhysical_page (images : ℕ) (himage : InPool x) :
    imagePhysical images x / 4096 * 4096 = imagePhysical images x ∧
      imagePhysical images x + REGION_2MB ≤ 2 ^ 48 := by
  obtain ⟨hlow, hhigh, haligned⟩ := himage
  have hva : pagedpoolRegion.va = 0x30600000 := rfl
  have hpa : pagedpoolRegion.pa = 0x1800000 := rfl
  have hpa' : extraheap2Region.pa = 0x1400000 := rfl
  simp only [REGION_2MB, hva] at hlow hhigh ⊢
  rw [imagePhysical, hva, hpa, hpa']
  split_ifs <;> omega

end Image

/-! ## What holds in every state -/

/-- **The tables show the address spaces.** -/
structure SpacesOk (lfb : UInt32) (t : SpaceTrace) (a : Spaces) : Prop where
  tables : KernelTables t.state.paging a.kernel
  next : t.state.paging.next = 4096 * (a.tables + 2)
  slab : t.state.slab = slabAfter a.images
  images : a.images ≤ 4
  canonical : ∀ d < 392, a.kernel d = canonicalSpace lfb d
  roots : ∀ root ∈ t.roots, root + 4096 ≤ t.state.paging.next ∧ Linked t.state.paging.mem root KERNEL_PDPT_PA
  children : List.Forall₂ (ChildTables t.state.paging.mem t.state.paging.next) t.children a.children

/-- The panic of a system without tables. -/
def tableLimits : Fault := .panic "get_table_pointer_va: [FIXME] Limits\n"

section Step

variable {lfb : UInt32} {t : SpaceTrace} {a : Spaces} {answers : CopyAnswers} {pa va : ℕ}

lemma SpacesOk.slots (h : SpacesOk lfb t a) : CanonicalSlots a.kernel := by
  have hslots := canonicalSpace_slots lfb
  exact ⟨(h.canonical 0 (by decide)).trans hslots.origin, (h.canonical 387 (by decide)).trans hslots.pagedpool,
    (h.canonical 390 (by decide)).trans hslots.extraheap2, (h.canonical 391 (by decide)).trans hslots.extraheap3⟩

lemma SpacesOk.room (h : SpacesOk lfb t a) : t.state.paging.next < FAT_ADDRESS ↔ a.tables + 1 ≤ 46 := by
  have hnext := h.next
  simp only [FAT_ADDRESS]
  omega

/-- **What leaves the tables taken so far as they are** is not seen by the processes there are. -/
lemma SpacesOk.withPaging (h : SpacesOk lfb t a) {paging : PagingState} {kernel : ℕ → Option Window} {taken : ℕ}
    (htables : KernelTables paging kernel) (hnext : paging.next = t.state.paging.next + 4096 * taken)
    (hmem : ∀ x < t.state.paging.next, paging.mem x = t.state.paging.mem x)
    (hcanonical : ∀ d < 392, kernel d = canonicalSpace lfb d) :
    SpacesOk lfb (t.withPaging paging) { a with tables := a.tables + taken, kernel := kernel } := by
  have hstep := h.next
  have hle : t.state.paging.next ≤ paging.next := by omega
  have hnext' : paging.next = 4096 * (a.tables + taken + 2) := by omega
  refine ⟨htables, hnext', h.slab, h.images, hcanonical, fun root hroot => ?_,
    h.children.imp fun root space hchild => hchild.frame hle hmem⟩
  obtain ⟨hbelow, hlinked⟩ := h.roots root hroot
  exact ⟨hbelow.trans hle, hlinked.congr fun i hi => hmem _ (by omega)⟩

lemma SpacesOk.map (h : SpacesOk lfb t a) (hok : (SpaceCall.map pa va).Ok) (hroom : a.tables + 1 ≤ 46) :
    ∃ t', spaceStep t (.map pa va) = .ok t' ∧ SpacesOk lfb t' (a.step (.map pa va)) := by
  obtain ⟨hdevice, hva, hpa⟩ := hok
  have hroom' := h.room.2 hroom
  have hslot : va / 2 ^ 21 < 512 := by omega
  refine ⟨_, ?_, h.withPaging (h.tables.region hroom' hslot (.inr (.inr rfl)) hpa) rfl
    (fun x hx => region_below hroom' hslot hpa hx) fun d hd => ?_⟩
  · rw [spaceStep, mmMap2mbRegion, (h.tables.take hroom').1, ok_bind]
    dsimp only
    rw [if_neg (next_ne_zero _), if_neg (by omega), x64GetPdeIndex_eq hva, if_neg (by omega), ok_bind]
    rfl
  · rw [Function.update_of_ne (by omega), h.canonical d hd]

lemma SpacesOk.getTable (h : SpacesOk lfb t a) (hroom : a.tables + 1 ≤ 46) :
    ∃ t', spaceStep t .getTable = .ok t' ∧ SpacesOk lfb t' (a.step .getTable) := by
  obtain ⟨htake, htables⟩ := h.tables.take (h.room.2 hroom)
  refine ⟨t.withPaging t.state.paging.take, ?_,
    h.withPaging htables (take_next t.state.paging) (fun x hx => rfl) h.canonical⟩
  rw [spaceStep, htake, ok_bind]

/-- The PML4 of a process: a clone of the kernel's. -/
lemma SpacesOk.cloned (h : SpacesOk lfb t a) (hroom : a.tables + 1 ≤ 46) :
    cloneKernelPml4 t.state.paging = .ok (t.state.paging.next, t.state.paging.cloned KERNEL_PML4_PA) ∧
      KernelTables (t.state.paging.cloned KERNEL_PML4_PA) a.kernel ∧
      SpacesOk lfb (t.withPaging (t.state.paging.cloned KERNEL_PML4_PA)) { a with tables := a.tables + 1 } := by
  have hroom' := h.room.2 hroom
  have hapart : t.state.paging.next + 4096 ≤ KERNEL_PML4_PA := by
    simp only [FAT_ADDRESS] at hroom'
    simp only [KERNEL_PML4_PA]
    omega
  have habove : KERNEL_PD_PA ≤ KERNEL_PML4_PA := by decide
  obtain ⟨hclone, htables⟩ := h.tables.clone hroom' "CloneKernelPML4" habove
  exact ⟨hclone, htables, h.withPaging htables (cloned_next _ _) (fun x hx => cloned_mem _ hapart (.inl hx))
    h.canonical⟩

lemma SpacesOk.clonePml4 (h : SpacesOk lfb t a) (hroom : a.tables + 1 ≤ 46) :
    ∃ t', spaceStep t .clonePml4 = .ok t' ∧ SpacesOk lfb t' (a.step .clonePml4) := by
  obtain ⟨hclone, htables, hnew⟩ := h.cloned hroom
  have hroom' := h.room.2 hroom
  have hnext := cloned_next t.state.paging KERNEL_PML4_PA
  have hroot : Linked (t.state.paging.cloned KERNEL_PML4_PA).mem t.state.paging.next KERNEL_PDPT_PA := by
    refine h.tables.pml4.congr fun i hi => cloned_entry t.state.paging ?_ hi
    simp only [FAT_ADDRESS] at hroom'
    simp only [KERNEL_PML4_PA]
    omega
  generalize t.state.paging.cloned KERNEL_PML4_PA = paging at hclone htables hnew hnext hroot
  refine ⟨{ t.withPaging paging with roots := t.state.paging.next :: t.roots }, ?_,
    ⟨hnew.tables, hnew.next, hnew.slab, hnew.images, hnew.canonical, ?_, hnew.children⟩⟩
  · rw [spaceStep, hclone, ok_bind]
    dsimp only
    rw [htables.physical_table h.slots.origin hroom', ok_bind]
  · refine List.forall_mem_cons.2 ⟨⟨?_, hroot⟩, hnew.roots⟩
    exact hnext.ge

/-- A buffer is given away, or there is none. -/
lemma SpacesOk.buffer (h : SpacesOk lfb t a) :
    SpacesOk lfb { t with state := { t.state with slab := slabAfter (min 4 (a.images + 1)) } }
      { a with images := min 4 (a.images + 1) } :=
  ⟨h.tables, h.next, rfl, Nat.min_le_left _ _, h.canonical, h.roots, h.children⟩

/-- `copy_process` up to the tables of the child: the PML4 is taken in any case, the buffer once the parent was
accepted. -/
lemma SpacesOk.copyProcessTables_eq (h : SpacesOk lfb t a) (hok : (SpaceCall.copyProcess answers).Ok)
    (hroom : a.tables + 1 ≤ 46) : copyProcessTables answers t.state =
      if answers.accepted = false then .ok (none, { t.state with paging := t.state.paging.cloned KERNEL_PML4_PA })
      else if answers.loaded = false then
        .ok (none, { paging := t.state.paging.cloned KERNEL_PML4_PA, slab := slabAfter (min 4 (a.images + 1)) })
      else installTables t.state.paging.next (imagePhysical a.images answers.imagePages)
          (t.state.paging.cloned KERNEL_PML4_PA) >>= fun paging =>
        .ok (some t.state.paging.next, { paging := paging, slab := slabAfter (min 4 (a.images + 1)) }) := by
  obtain ⟨himage, hstack⟩ := hok
  obtain ⟨hclone, htables, -⟩ := h.cloned hroom
  have hphysical := htables.physical_table h.slots.origin (h.room.2 hroom)
  rw [copyProcessTables, hclone, ok_bind]
  generalize t.state.paging.cloned KERNEL_PML4_PA = paging at htables hphysical ⊢
  have halloc := KernelTables.allocImage (s := { t.state with paging := paging }) htables h.slots h.slab h.images
    himage hstack
  dsimp only
  rw [panicIf_not (next_ne_zero _), ok_bind]
  by_cases haccepted : answers.accepted = false
  · rw [if_pos haccepted, if_pos haccepted]
  · rw [if_neg haccepted, if_neg haccepted, hphysical, ok_bind, halloc, ok_bind]

/-- `copy_process`: the child is refused, its image cannot be loaded, or it is made. -/
lemma SpacesOk.copyProcess (h : SpacesOk lfb t a) (hok : (SpaceCall.copyProcess answers).Ok)
    (hroom : (a.step (.copyProcess answers)).tables ≤ 46) :
    ∃ t', spaceStep t (.copyProcess answers) = .ok t' ∧ SpacesOk lfb t' (a.step (.copyProcess answers)) := by
  have hone : a.tables + 1 ≤ 46 := by
    refine le_trans ?_ hroom
    simp only [Spaces.step]
    split_ifs
    · exact le_rfl
    · exact le_rfl
    · exact Nat.add_le_add_left (by decide) _
  have hcopy := h.copyProcessTables_eq hok hone
  obtain ⟨-, htables, hnew⟩ := h.cloned hone
  simp only [Spaces.step] at hroom ⊢
  simp only [spaceStep, hcopy]
  by_cases haccepted : answers.accepted = false
  · rw [if_pos haccepted, if_pos haccepted, ok_bind]
    exact ⟨_, rfl, hnew⟩
  · rw [if_neg haccepted] at hroom ⊢
    rw [if_neg haccepted]
    by_cases hloaded : answers.loaded = false
    · rw [if_pos hloaded, if_pos hloaded, ok_bind]
      generalize t.state.paging.cloned KERNEL_PML4_PA = paging at hnew ⊢
      exact ⟨_, rfl, hnew.buffer⟩
    · rw [if_neg hloaded] at hroom ⊢
      rw [if_neg hloaded]
      have htables4 : a.tables + 4 ≤ 46 := hroom
      have hnext := h.next
      have hcloned := cloned_next t.state.paging KERNEL_PML4_PA
      obtain ⟨hpage, hfit⟩ := imagePhysical_page a.images hok.1
      have hroom' : t.state.paging.next + 0x3000 < FAT_ADDRESS := by
        simp only [FAT_ADDRESS]
        omega
      obtain ⟨hkernel, hold, hchild⟩ := h.tables.child hroom' hfit
      rw [htables.install h.slots.origin (by omega) hfit, ok_bind, ok_bind]
      have hspaces := (h.withPaging hkernel (child_next _ _) hold h.canonical).buffer
      rw [hpage] at hchild
      refine ⟨_, rfl, ⟨hspaces.tables, hspaces.next, rfl, hspaces.images, h.canonical, hspaces.roots, ?_⟩⟩
      exact .cons hchild hspaces.children

/-- A call that there are not enough tables for. -/
lemma SpacesOk.full (h : SpacesOk lfb t a) (hroom : a.tables ≤ 46) {c : SpaceCall} (hok : c.Ok)
    (hfull : 46 < (a.step c).tables) : spaceStep t c = .error tableLimits := by
  have hnone (hone : 46 < a.tables + 1) : ¬t.state.paging.next < FAT_ADDRESS := fun hlt => by
    have hroom' := h.room.1 hlt
    omega
  cases c with
  | map pa va =>
      rw [spaceStep, mmMap2mbRegion, h.tables.take_full (hnone hfull), error_bind, error_bind]
      rfl
  | getTable =>
      rw [spaceStep, h.tables.take_full (hnone hfull), error_bind]
      rfl
  | clonePml4 =>
      rw [spaceStep, cloneKernelPml4, h.tables.clone_full (hnone hfull), error_bind]
      rfl
  | copyProcess answers =>
      by_cases hone : a.tables + 1 ≤ 46
      · have hcopy := h.copyProcessTables_eq hok hone
        obtain ⟨-, htables, -⟩ := h.cloned hone
        obtain ⟨-, hfit⟩ := imagePhysical_page a.images hok.1
        simp only [Spaces.step] at hfull
        split_ifs at hfull with haccepted hloaded
        · exact absurd hfull (by simp only; omega)
        · exact absurd hfull (by simp only; omega)
        · have htables4 : 46 < a.tables + 4 := hfull
          have hnext := h.next
          have hcloned := cloned_next t.state.paging KERNEL_PML4_PA
          have hroom' : ¬(t.state.paging.cloned KERNEL_PML4_PA).next + 0x2000 < FAT_ADDRESS := by
            simp only [FAT_ADDRESS]
            omega
          rw [spaceStep, hcopy, if_neg haccepted, if_neg hloaded, htables.install_full h.slots.origin hroom' hfit,
            error_bind, error_bind]
          rfl
      · rw [spaceStep, copyProcessTables, cloneKernelPml4, h.tables.clone_full (hnone (by omega)), error_bind,
          error_bind]
        rfl

lemma Spaces.tables_le (a : Spaces) (c : SpaceCall) : a.tables ≤ (a.step c).tables := by
  cases c with
  | map pa va => exact Nat.le_add_right _ _
  | getTable => exact Nat.le_add_right _ _
  | clonePml4 => exact Nat.le_add_right _ _
  | copyProcess answers =>
      simp only [Spaces.step]
      split_ifs
      · exact Nat.le_add_right _ _
      · exact Nat.le_add_right _ _
      · exact Nat.le_add_right _ _

/-- **One call**, when there are tables for it. -/
lemma SpacesOk.step (h : SpacesOk lfb t a) {c : SpaceCall} (hok : c.Ok) (hroom : (a.step c).tables ≤ 46) :
    ∃ t', spaceStep t c = .ok t' ∧ SpacesOk lfb t' (a.step c) := by
  cases c with
  | map pa va => exact h.map hok hroom
  | getTable => exact h.getTable hroom
  | clonePml4 => exact h.clonePml4 hroom
  | copyProcess answers => exact h.copyProcess hok hroom

end Step

/-! ## Runs -/

section Runs

variable {lfb : UInt32} {t : SpaceTrace} {a : Spaces}

lemma Spaces.tables_le_foldl (calls : List SpaceCall) (a : Spaces) :
    a.tables ≤ (calls.foldl Spaces.step a).tables := by
  induction calls generalizing a with
  | nil => exact le_rfl
  | cons c calls ih => exact (a.tables_le c).trans (ih _)

/-- A run that there are enough tables for goes through. -/
lemma SpacesOk.runs (h : SpacesOk lfb t a) {calls : List SpaceCall} (hcalls : ∀ c ∈ calls, c.Ok)
    (hroom : (calls.foldl Spaces.step a).tables ≤ 46) :
    ∃ t', StepRun.runs spaceStep t calls = .ok t' ∧ SpacesOk lfb t' (calls.foldl Spaces.step a) := by
  induction calls generalizing t a with
  | nil => exact ⟨t, rfl, h⟩
  | cons c calls ih =>
      obtain ⟨hc, hrest⟩ := List.forall_mem_cons.1 hcalls
      obtain ⟨t₁, hstep, h₁⟩ := h.step hc ((Spaces.tables_le_foldl calls _).trans hroom)
      obtain ⟨t', hrun, h'⟩ := ih h₁ hrest hroom
      exact ⟨t', (runs_cons_ok hstep).trans hrun, h'⟩

/-- A run that there are not enough tables for stops. -/
lemma SpacesOk.runs_full (h : SpacesOk lfb t a) (hstart : a.tables ≤ 46) {calls : List SpaceCall}
    (hcalls : ∀ c ∈ calls, c.Ok) (hfull : 46 < (calls.foldl Spaces.step a).tables) :
    StepRun.runs spaceStep t calls = .error tableLimits := by
  induction calls generalizing t a with
  | nil => exact absurd hstart (by simpa using hfull)
  | cons c calls ih =>
      obtain ⟨hc, hrest⟩ := List.forall_mem_cons.1 hcalls
      by_cases hroom : (a.step c).tables ≤ 46
      · obtain ⟨t₁, hstep, h₁⟩ := h.step hc hroom
        rw [runs_cons_ok hstep]
        exact ih h₁ hroom hrest hfull
      · rw [StepRun.runs, h.full hstart hc (by omega)]

/-- The kernel's regions one after the other, and the buffers. -/
lemma initializeCanonicalKernelPagetables_eq (lfb : UInt32) (s : PagingState) :
    initializeCanonicalKernelPagetables lfb s
      = (kernelRegions lfb).foldlM (fun s r => initializeRegion r s) s >>= fun s =>
        .ok { paging := s, slab := slabAfter 0 } := by
  simp only [initializeCanonicalKernelPagetables, slabInitialize_eq, ok_bind, kernelRegions, List.foldlM_cons,
    List.foldlM_nil, bind_assoc, pure_bind]

/-- **The start of a run.** -/
lemma mmInitializePaging_ok (lfb : UInt32) (mem : ℕ → ℕ) : ∃ state, mmInitializePaging lfb mem = .ok state ∧
    SpacesOk lfb { state := state, roots := [], children := [] } (.start lfb) := by
  rw [mmInitializePaging, initializeCanonicalKernelPagetables_eq]
  obtain ⟨s₀, hs₀⟩ : ∃ s₀ : PagingState, s₀ = { mem := linkUpperLevels mem, tablePointerHeapBase := 0x1000 } :=
    ⟨_, rfl⟩
  have hbase₀ : s₀.tablePointerHeapBase = 0x1000 := by rw [hs₀]
  have hupper : KernelTables s₀ fun _ => none := kernelTables_upper (by rw [hs₀]) hbase₀
  have hlength : (kernelRegions lfb).length = 10 := rfl
  rw [← hs₀]
  obtain ⟨s, hrun, htables, hbase⟩ := hupper.initializeRegions (kernelRegions_ok lfb) (by
    rw [hlength, hbase₀]
    decide)
  have hnext : s.next = s.tablePointerHeapBase + 4096 := rfl
  have hstart : s.next = 4096 * (10 + 2) := by omega
  refine ⟨{ paging := s, slab := slabAfter 0 }, ?_,
    ⟨htables, hstart, rfl, Nat.zero_le 4, fun d _ => rfl, fun root hroot => ?_, .nil⟩⟩
  · rw [hrun, ok_bind]
  · cases hroot

/-- The walk through any PML4 is what its address space says. -/
structure ShowsSpaces (t : SpaceTrace) (a : Spaces) : Prop where
  kernel : ∀ va, walk t.state.paging.mem KERNEL_PML4_PA va = PageWalk.translate a.kernel va
  roots : ∀ root ∈ t.roots, ∀ va, walk t.state.paging.mem root va = PageWalk.translate a.kernel va
  children : List.Forall₂ (fun root space => ∀ va, walk t.state.paging.mem root va = PageWalk.translate space va)
    t.children a.children

lemma SpacesOk.shows (h : SpacesOk lfb t a) : ShowsSpaces t a where
  kernel := h.tables.walk h.tables.pml4
  roots root hroot := h.tables.walk (h.roots root hroot).2
  children := h.children.imp fun _ _ hchild => hchild.walk

/-- When there are tables enough, the run goes through. -/
lemma runSpaces_ok (lfb : UInt32) (mem : ℕ → ℕ) {calls : List SpaceCall} (hcalls : ∀ c ∈ calls, c.Ok)
    (hroom : (spacesAfter lfb calls).tables ≤ 46) :
    ∃ t, runSpaces lfb mem calls = .ok t ∧ SpacesOk lfb t (spacesAfter lfb calls) := by
  obtain ⟨state, hstart, hok⟩ := mmInitializePaging_ok lfb mem
  rw [runSpaces, hstart, ok_bind]
  exact hok.runs hcalls hroom

lemma runSpaces_full (lfb : UInt32) (mem : ℕ → ℕ) {calls : List SpaceCall} (hcalls : ∀ c ∈ calls, c.Ok)
    (hfull : 46 < (spacesAfter lfb calls).tables) : runSpaces lfb mem calls = .error tableLimits := by
  obtain ⟨state, hstart, hok⟩ := mmInitializePaging_ok lfb mem
  rw [runSpaces, hstart, ok_bind]
  exact hok.runs_full (show 10 ≤ 46 by decide) hcalls hfull

/-- **The address spaces of a run.**  When there are tables enough, the run goes through, and the processor's walk
through the PML4 of the kernel, of a process over the kernel's tables, or of a child is what its address space
says; otherwise the system stops. -/
theorem address_spaces_run (lfb : UInt32) (mem : ℕ → ℕ) {calls : List SpaceCall} (hcalls : ∀ c ∈ calls, c.Ok) :
    ((spacesAfter lfb calls).tables ≤ 46 →
      ∃ t, runSpaces lfb mem calls = .ok t ∧ ShowsSpaces t (spacesAfter lfb calls)) ∧
    (46 < (spacesAfter lfb calls).tables → runSpaces lfb mem calls = .error tableLimits) := by
  refine ⟨fun hroom => ?_, runSpaces_full lfb mem hcalls⟩
  obtain ⟨t, hrun, hok⟩ := runSpaces_ok lfb mem hcalls hroom
  exact ⟨t, hrun, hok.shows⟩

/-- The local APIC is mapped, the first process gets its PML4, and two children are made. -/
def exampleCalls : List SpaceCall :=
  [.map 0xFEE00000 0x31400000, .clonePml4,
    .copyProcess { accepted := true, imagePages := 0x30601000, stackPages := 0x30602000, loaded := true },
    .copyProcess { accepted := true, imagePages := 0x30603000, stackPages := 0x30604000, loaded := true }]

lemma exampleCalls_ok : ∀ c ∈ exampleCalls, c.Ok := by
  intro c hc
  simp only [exampleCalls, List.mem_cons, List.not_mem_nil, or_false] at hc
  rcases hc with rfl | rfl | rfl | rfl
  · exact ⟨by decide, by decide, by decide⟩
  · trivial
  · exact ⟨⟨by decide, by decide, by decide⟩, by decide, by decide, by decide⟩
  · exact ⟨⟨by decide, by decide, by decide⟩, by decide, by decide, by decide⟩

lemma exampleCalls_room : (spacesAfter 0xE0000000 exampleCalls).tables ≤ 46 := by decide

theorem address_spaces_run_example : ∃ t, runSpaces 0xE0000000 (fun _ => 0) exampleCalls = .ok t ∧
    ShowsSpaces t (spacesAfter 0xE0000000 exampleCalls) :=
  (address_spaces_run 0xE0000000 (fun _ => 0) exampleCalls_ok).1 exampleCalls_room

end Runs

end Gramado
