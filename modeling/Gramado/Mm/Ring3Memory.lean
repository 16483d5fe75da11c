import Gramado.Mm.AddressSpaceRun

/-!
# The memory of user mode

Which physical memory a process can reach from ring 3, in any run of the calls of `AddressSpaceRun`.  The regions
that the kernel opens to everyone are in every address space; the processes over the kernel's tables have the
area at `RING3AREA_VA` besides, and a child has 2 MB from its image on.  The image buffers are 1 MB apart, so the
children see into each other.

* `ring3_memory` — exactly this memory, and nothing of the kernel image, of the tables or of a device.
* `children_overlap` — the upper megabyte of a child is the lower one of the next child.
-/

namespace Gramado

open PageWalk StepRun

/-- The memory of a region. -/
def KernelRegion.Holds (r : KernelRegion) (x : ℕ) : Prop := r.window.base ≤ x ∧ x < r.window.base + 2 ^ 21

/-- The regions that user mode finds in every address space. -/
def sharedRegions (lfb : UInt32) : List KernelRegion :=
  [frontbufferRegion lfb, backbufferRegion, pagedpoolRegion, heappoolRegion, extraheap2Region, extraheap3Region]

/-- The memory that user mode finds in every address space. -/
def SharedMemory (lfb : UInt32) (x : ℕ) : Prop := ∃ r ∈ sharedRegions lfb, r.Holds x

/-- User mode reaches a physical address through the PML4 at `root`. -/
def SpaceTrace.Reaches (t : SpaceTrace) (root x : ℕ) : Prop :=
  ∃ va tr, walk t.state.paging.mem root va = some tr ∧ tr.user = true ∧ tr.address = x

/-- An address space of the kernel: its own regions, and devices behind them. -/
structure KernelSpace (lfb : UInt32) (space : ℕ → Option Window) : Prop where
  canonical : ∀ d < 392, space d = canonicalSpace lfb d
  devices : ∀ d ≥ 392, ∀ w, space d = some w → w.user = false

/-- An address space of a child: one of the kernel's, with an image. -/
def ChildSpace (lfb : UInt32) (space : ℕ → Option Window) : Prop :=
  ∃ kernel image, KernelSpace lfb kernel ∧
    space = Function.update kernel 1 (some { base := image, user := true }) ∧
    extraheap2Region.pa ≤ image ∧ image < pagedpoolRegion.pa + REGION_2MB

section Spaces

variable {lfb : UInt32} {space : ℕ → Option Window} {a : Spaces} {x : ℕ}

/-- The windows for user mode, but for the one at `RING3AREA_VA`. -/
lemma KernelSpace.shared (h : KernelSpace lfb space) :
    (∃ d < 512, d ≠ 1 ∧ ∃ w, space d = some w ∧ w.user = true ∧ w.base ≤ x ∧ x < w.base + 2 ^ 21) ↔
      SharedMemory lfb x := by
  have hregion {r : KernelRegion} {w : Window} (hw : some r.window = some w) (hlow : w.base ≤ x)
      (hhigh : x < w.base + 2 ^ 21) : r.Holds x := by
    obtain rfl := Option.some.inj hw
    exact ⟨hlow, hhigh⟩
  have hkernel {r : KernelRegion} {w : Window} (hw : some r.window = some w) (hflags : r.flags = 3)
      (huser : w.user = true) : False := by
    obtain rfl := Option.some.inj hw
    have hbit : Nat.testBit 3 2 = true := hflags ▸ huser
    exact absurd hbit (by decide)
  constructor
  · rintro ⟨d, -, hne, w, hw, huser, hlow, hhigh⟩
    rcases Nat.lt_or_ge d 392 with hlt | hge
    · rw [h.canonical d hlt, canonicalSpace_eq] at hw
      simp only [SharedMemory, sharedRegions, List.mem_cons, List.not_mem_nil, or_false, exists_eq_or_imp,
        exists_eq_left]
      split_ifs at hw
      · exact .inr (.inr (.inr (.inr (.inr (hregion hw hlow hhigh)))))
      · exact .inr (.inr (.inr (.inr (.inl (hregion hw hlow hhigh)))))
      · exact (hkernel hw rfl huser).elim
      · exact .inr (.inr (.inr (.inl (hregion hw hlow hhigh))))
      · exact .inr (.inr (.inl (hregion hw hlow hhigh)))
      · exact .inr (.inl (hregion hw hlow hhigh))
      · exact .inl (hregion hw hlow hhigh)
      · exact (hkernel hw rfl huser).elim
      · exact (hkernel hw rfl huser).elim
    · exact absurd huser (by rw [h.devices d hge w hw]; exact Bool.false_ne_true)
  · rintro ⟨r, hr, hlow, hhigh⟩
    have hshow (d : ℕ) (hd : d < 392) (hne : d ≠ 1) (hspace : canonicalSpace lfb d = some r.window)
        (huser : r.window.user = true) :
        ∃ d < 512, d ≠ 1 ∧ ∃ w, space d = some w ∧ w.user = true ∧ w.base ≤ x ∧ x < w.base + 2 ^ 21 :=
      ⟨d, by omega, hne, r.window, (h.canonical d hd).trans hspace, huser, hlow, hhigh⟩
    have hlfb : (frontbufferRegion lfb).window.user = true := by
      simp only [frontbufferRegion, KernelRegion.window]
      decide
    simp only [sharedRegions, List.mem_cons, List.not_mem_nil, or_false] at hr
    rcases hr with rfl | rfl | rfl | rfl | rfl | rfl
    · exact hshow 385 (by decide) (by decide) (canonicalSpace_eq lfb 385) hlfb
    · exact hshow 386 (by decide) (by decide) (canonicalSpace_eq lfb 386) rfl
    · exact hshow 387 (by decide) (by decide) (canonicalSpace_eq lfb 387) rfl
    · exact hshow 388 (by decide) (by decide) (canonicalSpace_eq lfb 388) rfl
    · exact hshow 390 (by decide) (by decide) (canonicalSpace_eq lfb 390) rfl
    · exact hshow 391 (by decide) (by decide) (canonicalSpace_eq lfb 391) rfl

/-- The slot of `RING3AREA_VA` apart from the others. -/
lemma user_windows : (∃ d < 512, ∃ w, space d = some w ∧ w.user = true ∧ w.base ≤ x ∧ x < w.base + 2 ^ 21) ↔
    (∃ w, space 1 = some w ∧ w.user = true ∧ w.base ≤ x ∧ x < w.base + 2 ^ 21) ∨
      ∃ d < 512, d ≠ 1 ∧ ∃ w, space d = some w ∧ w.user = true ∧ w.base ≤ x ∧ x < w.base + 2 ^ 21 := by
  constructor
  · rintro ⟨d, hd, hwindow⟩
    by_cases hone : d = 1
    · exact .inl (hone ▸ hwindow)
    · exact .inr ⟨d, hd, hone, hwindow⟩
  · rintro (hwindow | ⟨d, hd, -, hwindow⟩)
    · exact ⟨1, by decide, hwindow⟩
    · exact ⟨d, hd, hwindow⟩

lemma KernelSpace.user (h : KernelSpace lfb space) :
    (∃ va tr, PageWalk.translate space va = some tr ∧ tr.user = true ∧ tr.address = x) ↔
      ring3area.Holds x ∨ SharedMemory lfb x := by
  have hone : space 1 = some ring3area.window := (h.canonical 1 (by decide)).trans (canonicalSpace_eq lfb 1)
  rw [translate_user, user_windows, h.shared, hone]
  refine or_congr_left ⟨?_, fun hholds => ⟨_, rfl, rfl, hholds.1, hholds.2⟩⟩
  rintro ⟨w, hw, -, hlow, hhigh⟩
  obtain rfl := Option.some.inj hw
  exact ⟨hlow, hhigh⟩

/-- With an image in the slot of `RING3AREA_VA`. -/
lemma KernelSpace.user_image (h : KernelSpace lfb space) (image : ℕ) :
    (∃ va tr, PageWalk.translate (Function.update space 1 (some { base := image, user := true })) va = some tr ∧
        tr.user = true ∧ tr.address = x) ↔
      (image ≤ x ∧ x < image + REGION_2MB) ∨ SharedMemory lfb x := by
  have hothers : (∃ d < 512, d ≠ 1 ∧
      ∃ w, Function.update space 1 (some { base := image, user := true }) d = some w ∧ w.user = true ∧
        w.base ≤ x ∧ x < w.base + 2 ^ 21) ↔ SharedMemory lfb x := by
    rw [← h.shared]
    refine exists_congr fun d => and_congr_right fun _ => and_congr_right fun hne => ?_
    rw [Function.update_of_ne hne]
  rw [translate_user, user_windows, hothers, Function.update_self]
  refine or_congr_left ⟨?_, fun hholds => ⟨_, rfl, rfl, hholds.1, hholds.2⟩⟩
  rintro ⟨w, hw, -, hlow, hhigh⟩
  obtain rfl := Option.some.inj hw
  exact ⟨hlow, hhigh⟩

lemma kernelSpace_start (lfb : UInt32) : KernelSpace lfb (canonicalSpace lfb) := by
  refine ⟨fun d _ => rfl, fun d hd w hw => ?_⟩
  rw [canonicalSpace_eq, if_neg (by omega), if_neg (by omega), if_neg (by omega), if_neg (by omega),
    if_neg (by omega), if_neg (by omega), if_neg (by omega), if_neg (by omega), if_neg (by omega),
    if_neg (by omega)] at hw
  cases hw

/-- Where images lie. -/
lemma imagePhysical_range (images : ℕ) {pages : ℕ} (hpages : InPool pages) :
    extraheap2Region.pa ≤ imagePhysical images pages ∧
      imagePhysical images pages < pagedpoolRegion.pa + REGION_2MB := by
  obtain ⟨hlow, hhigh, -⟩ := hpages
  have hva : pagedpoolRegion.va = 0x30600000 := rfl
  have hpa : pagedpoolRegion.pa = 0x1800000 := rfl
  have hpa' : extraheap2Region.pa = 0x1400000 := rfl
  rw [imagePhysical]
  simp only [REGION_2MB, hva, hpa, hpa'] at hlow hhigh ⊢
  split_ifs <;> omega

/-- What a call leaves of the kernel's address space, and of the children's. -/
lemma Spaces.step_spaces {c : SpaceCall} (hc : c.Ok) (hkernel : KernelSpace lfb a.kernel)
    (hchildren : ∀ space ∈ a.children, ChildSpace lfb space) :
    KernelSpace lfb (a.step c).kernel ∧ ∀ space ∈ (a.step c).children, ChildSpace lfb space := by
  cases c with
  | map pa va =>
      obtain ⟨hva, -, -⟩ := hc
      refine ⟨⟨fun d hd => ?_, fun d hd w hw => ?_⟩, hchildren⟩
      · exact (Function.update_of_ne (by omega) _ _).trans (hkernel.canonical d hd)
      · simp only [Spaces.step, Function.update_apply] at hw
        split_ifs at hw
        · obtain rfl := Option.some.inj hw
          rfl
        · exact hkernel.devices d hd w hw
  | getTable => exact ⟨hkernel, hchildren⟩
  | clonePml4 => exact ⟨hkernel, hchildren⟩
  | copyProcess answers =>
      simp only [Spaces.step]
      split_ifs
      · exact ⟨hkernel, hchildren⟩
      · exact ⟨hkernel, hchildren⟩
      · refine ⟨hkernel, List.forall_mem_cons.2 ⟨?_, hchildren⟩⟩
        obtain ⟨hlow, hhigh⟩ := imagePhysical_range a.images hc.1
        exact ⟨a.kernel, _, hkernel, rfl, hlow, hhigh⟩

lemma spacesAfter_spaces (lfb : UInt32) {calls : List SpaceCall} (hcalls : ∀ c ∈ calls, c.Ok) :
    KernelSpace lfb (spacesAfter lfb calls).kernel ∧
      ∀ space ∈ (spacesAfter lfb calls).children, ChildSpace lfb space := by
  induction calls using List.reverseRecOn with
  | nil => exact ⟨kernelSpace_start lfb, fun space hspace => absurd hspace List.not_mem_nil⟩
  | append_singleton calls c ih =>
      obtain ⟨hkernel, hchildren⟩ := ih fun c hc => hcalls c (List.mem_append_left _ hc)
      rw [spacesAfter, List.foldl_append]
      exact Spaces.step_spaces (hcalls c (List.mem_append_right _ (List.mem_singleton_self c))) hkernel hchildren

end Spaces

/-! ## The runs -/

section Runs

variable {lfb : UInt32} {mem : ℕ → ℕ} {calls : List SpaceCall} {t : SpaceTrace}

/-- A run that goes through shows its address spaces. -/
lemma runSpaces_shows (hcalls : ∀ c ∈ calls, c.Ok) (hrun : runSpaces lfb mem calls = .ok t) :
    ShowsSpaces t (spacesAfter lfb calls) := by
  by_cases hroom : (spacesAfter lfb calls).tables ≤ 46
  · obtain ⟨t', hrun', hok⟩ := runSpaces_ok lfb mem hcalls hroom
    obtain rfl := Except.ok.inj (hrun'.symm.trans hrun)
    exact hok.shows
  · rw [runSpaces_full lfb mem hcalls (Nat.lt_of_not_le hroom)] at hrun
    cases hrun

/-- **What user mode reaches** in a run: the shared regions, and through the kernel's own tables the area at
`RING3AREA_VA`, through a child's the 2 MB from an image on, which begins in the extra heaps or the paged pool. -/
theorem ring3_memory (hcalls : ∀ c ∈ calls, c.Ok) (hrun : runSpaces lfb mem calls = .ok t) :
    (∀ root ∈ KERNEL_PML4_PA :: t.roots, ∀ x, t.Reaches root x ↔ ring3area.Holds x ∨ SharedMemory lfb x) ∧
      ∀ root ∈ t.children, ∃ image, extraheap2Region.pa ≤ image ∧ image < pagedpoolRegion.pa + REGION_2MB ∧
        ∀ x, t.Reaches root x ↔ (image ≤ x ∧ x < image + REGION_2MB) ∨ SharedMemory lfb x := by
  have hshows := runSpaces_shows hcalls hrun
  obtain ⟨hkernel, hchildren⟩ := spacesAfter_spaces lfb hcalls
  constructor
  · intro root hroot x
    have hwalk : ∀ va, walk t.state.paging.mem root va = PageWalk.translate (spacesAfter lfb calls).kernel va := by
      rcases List.mem_cons.1 hroot with rfl | hroot
      · exact hshows.kernel
      · exact hshows.roots root hroot
    simp only [SpaceTrace.Reaches, hwalk]
    exact hkernel.user
  · intro root hroot
    obtain ⟨i, hi, rfl⟩ := List.getElem_of_mem hroot
    have hi' : i < (spacesAfter lfb calls).children.length := hshows.children.length_eq ▸ hi
    have hwalk := List.forall₂_iff_get.1 hshows.children |>.2 i hi hi'
    obtain ⟨kernel, image, hkernel, hspace, hlow, hhigh⟩ := hchildren _ (List.getElem_mem hi')
    refine ⟨image, hlow, hhigh, fun x => ?_⟩
    rw [List.get_eq_getElem, List.get_eq_getElem] at hwalk
    simp only [SpaceTrace.Reaches, hwalk, hspace]
    exact hkernel.user_image image

/-- Through the kernel's own tables, after the calls of the example. -/
theorem ring3_memory_example : ∃ t, runSpaces 0xE0000000 (fun _ => 0) exampleCalls = .ok t ∧
    ∀ x, t.Reaches KERNEL_PML4_PA x ↔ ring3area.Holds x ∨ SharedMemory 0xE0000000 x := by
  obtain ⟨t, hrun, -⟩ := runSpaces_ok 0xE0000000 (fun _ => 0) exampleCalls_ok exampleCalls_room
  exact ⟨t, hrun, (ring3_memory exampleCalls_ok hrun).1 _ List.mem_cons_self⟩

/-! ## The images of the children -/

/-- Every child that was accepted was loaded. -/
def AllLoaded (calls : List SpaceCall) : Prop :=
  ∀ answers, SpaceCall.copyProcess answers ∈ calls → answers.accepted = true → answers.loaded = true

/-- The children have the buffers in order. -/
structure ImagesInOrder (a : Spaces) : Prop where
  images : a.images = min 4 a.children.length
  image : ∀ i < 4, ∀ space, a.children.reverse[i]? = some space →
    space 1 = some { base := extraheap2Region.pa + i * 0x100000, user := true }

lemma Spaces.step_images {a : Spaces} (h : ImagesInOrder a) {c : SpaceCall} (hc : AllLoaded [c]) :
    ImagesInOrder (a.step c) := by
  cases c with
  | map pa va => exact ⟨h.images, h.image⟩
  | getTable => exact ⟨h.images, h.image⟩
  | clonePml4 => exact ⟨h.images, h.image⟩
  | copyProcess answers =>
      have himages := h.images
      simp only [Spaces.step]
      split_ifs with haccepted hloaded
      · exact ⟨h.images, h.image⟩
      · rw [hc answers (List.mem_singleton_self _) (Bool.eq_true_of_not_eq_false haccepted)] at hloaded
        exact absurd hloaded (by decide)
      · refine ⟨?_, fun i hi space hspace => ?_⟩
        · simp only [List.length_cons]
          omega
        · rw [List.reverse_cons] at hspace
          rcases Nat.lt_or_ge i a.children.reverse.length with hold | hnew
          · rw [List.getElem?_append_left hold] at hspace
            exact h.image i hi space hspace
          · rw [List.getElem?_append_right hnew] at hspace
            obtain ⟨hzero, rfl⟩ := List.getElem?_eq_some_iff.1 hspace
            rw [List.length_singleton] at hzero
            rw [List.length_reverse] at hzero hnew
            have hlast : a.images = i := by omega
            simp only [List.getElem_singleton, Function.update_self, imagePhysical, hlast, if_pos hi]

lemma spacesAfter_images (lfb : UInt32) {calls : List SpaceCall} (hloaded : AllLoaded calls) :
    ImagesInOrder (spacesAfter lfb calls) := by
  induction calls using List.reverseRecOn with
  | nil => exact ⟨rfl, fun i _ space hspace => by cases hspace⟩
  | append_singleton calls c ih =>
      rw [spacesAfter, List.foldl_append]
      refine Spaces.step_images (ih fun answers hmem => hloaded answers (List.mem_append_left _ hmem)) ?_
      exact fun answers hmem => hloaded answers (List.mem_append_right _ hmem)

/-- The child with the given number, the oldest first, sees its buffer and what follows it. -/
lemma ShowsSpaces.child {a : Spaces} (h : ShowsSpaces t a) (himages : ImagesInOrder a) {i root : ℕ} (hi : i < 4)
    (hroot : t.children.reverse[i]? = some root) (offset : ℕ) (hoffset : offset < REGION_2MB) :
    walk t.state.paging.mem root (CONTROLTHREAD_BASE + offset) =
      some { address := extraheap2Region.pa + i * 0x100000 + offset, writable := true, user := true } := by
  obtain ⟨hlength, rfl⟩ := List.getElem?_eq_some_iff.1 hroot
  have hreverse := List.rel_reverse h.children
  have hlength' : i < a.children.reverse.length := hreverse.length_eq ▸ hlength
  have hwalk := (List.forall₂_iff_get.1 hreverse).2 i hlength hlength'
  have himage := himages.image i hi _ (List.getElem?_eq_getElem hlength')
  rw [List.get_eq_getElem, List.get_eq_getElem] at hwalk
  simp only [REGION_2MB] at hoffset
  simp only [CONTROLTHREAD_BASE] at hwalk ⊢
  have hindex : index 1 (0x200000 + offset) = 1 := by
    simp only [index]
    omega
  have hlow : (0x200000 + offset) % 2 ^ 21 = offset := by omega
  rw [hwalk, PageWalk.translate, if_pos (by omega), hindex, himage, Option.map_some, hlow]

/-- **The children see into each other**: of the first four, the upper megabyte of each is the memory that the
next one finds at `CONTROLTHREAD_BASE`, and both may write there from user mode. -/
theorem children_overlap (hcalls : ∀ c ∈ calls, c.Ok) (hloaded : AllLoaded calls)
    (hrun : runSpaces lfb mem calls = .ok t) {i root root' : ℕ} (hi : i + 1 < 4)
    (hroot : t.children.reverse[i]? = some root) (hroot' : t.children.reverse[i + 1]? = some root') {offset : ℕ}
    (hoffset : offset < 0x100000) :
    ∃ tr, walk t.state.paging.mem root (CONTROLTHREAD_BASE + 0x100000 + offset) = some tr ∧
      walk t.state.paging.mem root' (CONTROLTHREAD_BASE + offset) = some tr ∧
      tr.writable = true ∧ tr.user = true := by
  have hshows := runSpaces_shows hcalls hrun
  have himages := spacesAfter_images lfb hloaded
  have hupper := hshows.child himages (by omega) hroot (0x100000 + offset)
    (by simp only [REGION_2MB]; omega)
  have hlower := hshows.child himages hi hroot' offset (by simp only [REGION_2MB]; omega)
  have haddress : extraheap2Region.pa + i * 0x100000 + (0x100000 + offset)
      = extraheap2Region.pa + (i + 1) * 0x100000 + offset := by omega
  rw [haddress] at hupper
  exact ⟨_, (Nat.add_assoc _ _ _).symm ▸ hupper, hlower, rfl, rfl⟩

/-- The two children of the example. -/
theorem children_overlap_example : ∃ t root root', runSpaces 0xE0000000 (fun _ => 0) exampleCalls = .ok t ∧
    t.children.reverse[0]? = some root ∧ t.children.reverse[1]? = some root' ∧
      ∃ tr, walk t.state.paging.mem root (CONTROLTHREAD_BASE + 0x100000 + 8) = some tr ∧
        walk t.state.paging.mem root' (CONTROLTHREAD_BASE + 8) = some tr ∧ tr.writable = true ∧
        tr.user = true := by
  obtain ⟨t, hrun, hok⟩ := runSpaces_ok 0xE0000000 (fun _ => 0) exampleCalls_ok exampleCalls_room
  have hlength : t.children.reverse.length = 2 := by
    rw [List.length_reverse, hok.children.length_eq]
    rfl
  have hloaded : AllLoaded exampleCalls := by
    intro answers hmem _
    simp only [exampleCalls, List.mem_cons, List.not_mem_nil, or_false, reduceCtorEq, false_or,
      SpaceCall.copyProcess.injEq] at hmem
    rcases hmem with rfl | rfl
    · rfl
    · rfl
  have hfirst : 0 < t.children.reverse.length := by omega
  have hsecond : 1 < t.children.reverse.length := by omega
  exact ⟨t, _, _, hrun, List.getElem?_eq_getElem hfirst, List.getElem?_eq_getElem hsecond,
    children_overlap exampleCalls_ok hloaded hrun (by decide) (List.getElem?_eq_getElem hfirst)
      (List.getElem?_eq_getElem hsecond) (by decide)⟩

end Runs

end Gramado
