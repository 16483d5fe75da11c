import Gramado.Lib.Run
import Gramado.Lib.Extent
import Gramado.Mm.HeapInvariant

/-!
# The paged pool

`kres/mm/mmpool.c`.  The pool is 2 MB of virtual memory in 512 pages, and `pageAllocList[]` has a slot
for each: a slot without a structure is a free page.  `newPage` hands out the first free page and
`allocPages(n)` the first run of `n` free pages; no page is ever given back.  Slot 0 is taken by
`initializeFramesAlloc`.

`allocPages(n)` links the structures of its pages through `pageConductor`, which nothing sets before
the first `pageConductor->next = p`.  Where that store goes is not for the model to say: a call comes
with an arbitrary effect of it on the pool (`StrayStore`).

`pool_run`: as long as these stores leave the pool alone, the pages handed out are disjoint, in the
pool, not page 0, and marked.
-/

namespace Gramado

open StepRun Extent

/-! ## Pages -/

/-- `PAGE_COUNT_MAX`. -/
def PAGE_COUNT_MAX : ℕ := 512

/-- `PAGE_SIZE`. -/
def PAGE_SIZE : ℕ := 4096

/-- `PAGEDPOOL_VA`. -/
def PAGEDPOOL_VA : ℕ := 0x30600000

/-- `sizeof(struct page_d)`. -/
def sizeofPageD : UInt64 := 40

/-- `struct page_d`; `next` is the slot of the next structure. -/
structure PageD where
  id : ℤ
  used : ℤ
  magic : ℤ
  absoluteFrameNumber : ℕ
  locked : ℤ
  free : ℤ
  refCount : ℤ
  next : Option ℕ

/-- `g_pagedpool_va`, the structures that `pageAllocList[]` points to, and the heap they are taken
from. -/
structure PagedPool where
  gPagedpoolVa : ℕ
  slots : ℕ → Option PageD
  heap : HeapState

/-- What the store through the uninitialised `pageConductor` does to the pool, if it does not end in
a page fault. -/
abbrev StrayStore := PagedPool → Except Fault PagedPool

/-- `base + id * PAGE_SIZE`: the product is one of `int`s. -/
def pageAddress (base : ℕ) (id : ℤ) : ℕ := (((base : ℤ) + toInt32 (id * PAGE_SIZE)) % 2 ^ 64).toNat

/-- The number of the frame at a physical address, an `unsigned int`. -/
def frameNumber (pa : ℕ) : ℕ := ((pa - pa % PAGE_SIZE) / PAGE_SIZE) % 2 ^ 32

/-- A structure for the page of a slot, in use. -/
def usedPage (slot frame : ℕ) : PageD where
  id := slot
  used := TRUE
  magic := 1234
  absoluteFrameNumber := frame
  locked := FALSE
  free := FALSE
  refCount := 1
  next := none

/-! ## The allocators -/

/-- `initializeFramesAlloc`. -/
def initializeFramesAlloc (s : PagedPool) : Except Fault PagedPool := do
  let (p, heap) ← heapAllocateMemory sizeofPageD s.heap
  if p = 0 then .error (.panic "initializeFramesAlloc:\n")
  else
    .ok { s with
      heap := heap
      slots := Function.update (fun _ => none) 0
        (some { usedPage 0 0 with refCount := 0, free := TRUE }) }

/-- The slot that `__pageObject` registers its structure in. -/
def freePageSlot (slots : ℕ → Option PageD) : Option ℕ :=
  (List.range PAGE_COUNT_MAX).find? fun i => (slots i).isNone

/-- `newPage`, and in it `__pageObject`; `pa` is what the kernel's page tables say. -/
def newPage (pa : ℕ → ℕ) (s : PagedPool) : Except Fault (ℕ × PagedPool) :=
  if s.gPagedpoolVa = 0 then .error (.panic "newPage: base\n")
  else
    match freePageSlot s.slots with
    | none => .error (.panic "newPage: New\n")
    | some slot => do
        let (New, heap) ← heapAllocateMemory sizeofPageD s.heap
        if New = 0 then .error (.panic "newPage: New\n")
        else
          let va := pageAddress s.gPagedpoolVa slot
          if va = 0 then .error (.panic "newPage: va==0\n")
          else if pa va = 0 then .error (.panic "newPage: pa==0\n")
          else
            .ok (va, { s with
              heap := heap
              slots := Function.update s.slots slot (some (usedPage slot (frameNumber (pa va)))) })

/-- The loop of `__firstSlotForAList`: `count` free slots from `base` on are found, `left` slots are
to be looked at. -/
def firstSlotFrom (slots : ℕ → Option PageD) (size : ℤ) : ℕ → ℕ → ℕ → Option ℕ
  | _, _, 0 => none
  | base, count, left + 1 =>
      if (slots (base + count)).isSome then firstSlotFrom slots size (base + count + 1) 0 left
      else if (count : ℤ) + 1 ≥ size then some base
      else firstSlotFrom slots size base (count + 1) left

/-- `__firstSlotForAList`; `none` stands for -1. -/
def firstSlotForAList (slots : ℕ → Option PageD) (size : ℤ) : Option ℕ :=
  firstSlotFrom slots size 0 0 PAGE_COUNT_MAX

/-- `pageConductor->next = p`: the first time the pointer is uninitialised. -/
def linkPage (stray : StrayStore) (pageConductor : Option ℕ) (slot : ℕ) (s : PagedPool) :
    Except Fault PagedPool :=
  match pageConductor with
  | none => stray s
  | some c => .ok { s with
      slots := Function.update s.slots c ((s.slots c).map fun p => { p with next := some slot }) }

section AllocLoop

variable (base first : ℕ) (size : ℤ) (pa : ℕ → ℕ) (stray : StrayStore)

/-- The loop of `allocPages`, with `left` slots to go. -/
def allocSlots : ℕ → ℕ → ℕ → Option ℕ → PagedPool → Except Fault (ℕ × PagedPool)
  | 0, _, _, _, _ => .error (.panic "allocPages: fail\n")
  | left + 1, slot, count, pageConductor, s =>
      -- there is no slot behind the array
      if slot ≥ PAGE_COUNT_MAX then .error .badPointer
      else if (s.slots slot).isSome then allocSlots left (slot + 1) count pageConductor s
      else do
        let (p, heap) ← heapAllocateMemory sizeofPageD s.heap
        if p = 0 then .error (.panic "allocPages: fail 2\n")
        else
          let page := usedPage slot (frameNumber (pa (pageAddress base slot)))
          let s := { s with heap := heap, slots := Function.update s.slots slot (some page) }
          let s ← linkPage stray pageConductor slot s
          if (count : ℤ) + 1 ≥ size then
            match s.slots first with
            | none => .error .badPointer
            | some Ret => .ok (pageAddress base Ret.id, s)
          else allocSlots left (slot + 1) (count + 1) (some slot) s

end AllocLoop

/-- `allocPages`. -/
def allocPages (size : ℤ) (pa : ℕ → ℕ) (stray : StrayStore) (s : PagedPool) :
    Except Fault (ℕ × PagedPool) :=
  if size ≤ 0 then .error (.panic "allocPages: size 0\n")
  else if size = 1 then newPage pa s
  else if size ≥ PAGE_COUNT_MAX then .error (.panic "allocPages: size limits\n")
  else
    match firstSlotForAList s.slots size with
    | none => .error (.panic "allocPages: No more free slots\n")
    | some first =>
        allocSlots s.gPagedpoolVa first size pa stray (size.toNat + 1) first 0 none s

/-! ## Runs -/

/-- A call of the pool. -/
inductive PoolCall where
  | newPage (pa : ℕ → ℕ)
  | allocPages (size : ℤ) (pa : ℕ → ℕ) (stray : StrayStore)

/-- A range of pages that a call returned. -/
structure PageGrant where
  va : ℕ
  pages : ℕ
  deriving DecidableEq

/-- The addresses of the pages. -/
def PageGrant.extent (g : PageGrant) : Extent ℕ := ⟨g.va, g.va + g.pages * PAGE_SIZE⟩

/-- The pool, and what it handed out, the newest first. -/
structure PoolTrace where
  pool : PagedPool
  granted : List PageGrant

/-- One call. -/
def poolStep (t : PoolTrace) : PoolCall → Except Fault PoolTrace
  | .newPage pa => do
      let (va, pool) ← newPage pa t.pool
      .ok ⟨pool, ⟨va, 1⟩ :: t.granted⟩
  | .allocPages size pa stray => do
      let (va, pool) ← allocPages size pa stray t.pool
      .ok ⟨pool, ⟨va, size.toNat⟩ :: t.granted⟩

/-- The slot has a structure that says the page is in use. -/
def PagedPool.Marked (s : PagedPool) (slot : ℕ) : Prop :=
  ∃ p, s.slots slot = some p ∧
    p.id = slot ∧ p.used = TRUE ∧ p.magic = 1234 ∧ p.free = FALSE

/-- **What clients of the pool rely on.** -/
structure PoolSafe (t : PoolTrace) : Prop where
  /-- No page is handed out twice. -/
  apart : t.granted.Pairwise fun g h => Disjoint g.extent.positions h.extent.positions
  /-- The pages are in the 2 MB of the pool, behind page 0. -/
  inside : ∀ g ∈ t.granted, PAGEDPOOL_VA + PAGE_SIZE ≤ g.extent.start ∧
    g.extent.stop ≤ PAGEDPOOL_VA + 2 * 1024 * 1024
  /-- Every page handed out is marked in its slot. -/
  marked : ∀ g ∈ t.granted, ∀ k < g.pages, t.pool.Marked ((g.va - PAGEDPOOL_VA) / PAGE_SIZE + k)

/-- The store through the uninitialised pointer, if the call comes to it, leaves the pool as it is. -/
def StrayHarmless (_ : PoolTrace) : PoolCall → Prop
  | .newPage _ => True
  | .allocPages size _ stray => 2 ≤ size → size < PAGE_COUNT_MAX →
      ∀ s s', stray s = .ok s' → s' = s

/-! ## Searching -/

lemma freePageSlot_spec {slots : ℕ → Option PageD} {slot : ℕ}
    (h : freePageSlot slots = some slot) : slot < PAGE_COUNT_MAX ∧ slots slot = none := by
  have hfree := List.find?_some h
  have hmem := List.mem_of_find?_eq_some h
  exact ⟨List.mem_range.1 hmem, Option.isNone_iff_eq_none.1 hfree⟩

/-- The search goes on in a run of `count` free slots, and ends in a run of `size`. -/
lemma firstSlotFrom_spec {slots : ℕ → Option PageD} {size : ℤ} {first : ℕ} :
    ∀ (left base count : ℕ), base + count + left = PAGE_COUNT_MAX →
      (∀ k, base ≤ k → k < base + count → slots k = none) →
      firstSlotFrom slots size base count left = some first →
      (first : ℤ) + size ≤ PAGE_COUNT_MAX ∧
        ∀ k : ℕ, first ≤ k → (k : ℤ) < first + size → slots k = none
  | 0, _, _, _, _, h => by cases h
  | left + 1, base, count, hsum, hfree, h => by
      simp only [firstSlotFrom] at h
      split_ifs at h with hslot hsize
      · refine firstSlotFrom_spec left (base + count + 1) 0 (by omega) ?_ h
        intro k hlo hhi
        omega
      · obtain rfl : base = first := by simpa using h
        refine ⟨by omega, fun k hlo hhi => ?_⟩
        rcases Nat.lt_or_ge k (base + count) with hlt | hge
        · exact hfree k hlo hlt
        · obtain rfl : k = base + count := by omega
          simpa using hslot
      · refine firstSlotFrom_spec left base (count + 1) (by omega) ?_ h
        intro k hlo hhi
        rcases Nat.lt_or_ge k (base + count) with hlt | hge
        · exact hfree k hlo hlt
        · obtain rfl : k = base + count := by omega
          simpa using hslot

/-! ## What a call does to the slots -/

lemma usedPage_marked (slot frame : ℕ) :
    (usedPage slot frame).id = slot ∧ (usedPage slot frame).used = TRUE ∧
      (usedPage slot frame).magic = 1234 ∧ (usedPage slot frame).free = FALSE :=
  ⟨rfl, rfl, rfl, rfl⟩

/-- No slot is freed, and no page that is marked loses its mark. -/
structure Extends (s s' : PagedPool) : Prop where
  base : s'.gPagedpoolVa = s.gPagedpoolVa
  occupied : ∀ k, s.slots k ≠ none → s'.slots k ≠ none
  marked : ∀ k, s.Marked k → s'.Marked k

namespace Extends

variable {s s' s'' : PagedPool} {heap : HeapState} {slot frame : ℕ} {c : ℕ} {next : Option ℕ}

lemma refl (s : PagedPool) : Extends s s := ⟨rfl, fun _ h => h, fun _ h => h⟩

lemma trans (h : Extends s s') (h' : Extends s' s'') : Extends s s'' where
  base := h'.base.trans h.base
  occupied k hk := h'.occupied k (h.occupied k hk)
  marked k hk := h'.marked k (h.marked k hk)

/-- A free slot gets a structure. -/
lemma register (hfree : s.slots slot = none) :
    Extends s { s with
      heap := heap, slots := Function.update s.slots slot (some (usedPage slot frame)) } where
  base := rfl
  occupied k hk := by
    simp only [Function.update_apply]
    split_ifs
    · exact Option.some_ne_none _
    · exact hk
  marked k hk := by
    obtain ⟨p, hp, hmarks⟩ := hk
    refine ⟨p, ?_, hmarks⟩
    simp only
    rw [Function.update_of_ne, hp]
    rintro rfl
    rw [hfree] at hp
    cases hp

/-- A structure gets a successor. -/
lemma link :
    Extends s { s with
      slots := Function.update s.slots c ((s.slots c).map fun p => { p with next := next }) } where
  base := rfl
  occupied k hk := by
    simp only [Function.update_apply]
    split_ifs with heq
    · subst heq
      simpa using hk
    · exact hk
  marked k hk := by
    obtain ⟨p, hp, hmarks⟩ := hk
    simp only [PagedPool.Marked, Function.update_apply]
    split_ifs with heq
    · subst heq
      exact ⟨{ p with next := next }, by rw [hp, Option.map_some], hmarks⟩
    · exact ⟨p, hp, hmarks⟩

end Extends

/-- **What a successful call does**: the pages `first`, …, `first + n - 1` of the pool were free, are
marked now, and are returned. -/
structure Grants (s s' : PagedPool) (va first n : ℕ) : Prop where
  grows : Extends s s'
  va_eq : va = pageAddress s.gPagedpoolVa first
  pos : 1 ≤ n
  le : first + n ≤ PAGE_COUNT_MAX
  free : ∀ k, first ≤ k → k < first + n → s.slots k = none
  marked : ∀ k, first ≤ k → k < first + n → s'.Marked k

variable {s s' : PagedPool} {pa : ℕ → ℕ} {stray : StrayStore} {size : ℤ} {va : ℕ}

lemma newPage_spec (h : newPage pa s = .ok (va, s')) : ∃ first, Grants s s' va first 1 := by
  unfold newPage at h
  split_ifs at h
  cases hslot : freePageSlot s.slots with
  | none => simp [hslot] at h
  | some slot =>
      obtain ⟨hlt, hfree⟩ := freePageSlot_spec hslot
      simp only [hslot] at h
      obtain ⟨⟨New, heap⟩, -, h⟩ := bind_eq_ok h
      simp only at h
      split_ifs at h
      obtain ⟨rfl, rfl⟩ := Prod.mk.inj (Except.ok.inj h)
      refine ⟨slot, Extends.register hfree, rfl, le_rfl, hlt, ?_, ?_⟩
      · intro k hlo hhi
        obtain rfl : k = slot := by omega
        exact hfree
      · intro k hlo hhi
        obtain rfl : k = slot := by omega
        exact ⟨_, Function.update_self .., usedPage_marked _ _⟩

/-- The link leaves the pool's data as `Extends` wants it, and takes no free slot. -/
lemma linkPage_spec (hstray : ∀ s s', stray s = .ok s' → s' = s) {c : Option ℕ} {slot : ℕ}
    (h : linkPage stray c slot s = .ok s') :
    Extends s s' ∧ ∀ k, s.slots k = none → s'.slots k = none := by
  cases c with
  | none =>
      obtain rfl := hstray _ _ h
      exact ⟨Extends.refl _, fun _ hk => hk⟩
  | some c =>
      obtain rfl := Except.ok.inj h
      refine ⟨Extends.link, fun k hk => ?_⟩
      simp only [Function.update_apply]
      split_ifs with heq
      · rw [← heq, hk, Option.map_none]
      · exact hk

/-- The loop in a run of free slots: the slots up to `slot` are marked, the others still free. -/
lemma allocSlots_spec (hstray : ∀ s s', stray s = .ok s' → s' = s) {base first n : ℕ}
    (hle : first + n ≤ PAGE_COUNT_MAX) :
    ∀ (left slot count : ℕ) (c : Option ℕ) (s : PagedPool), slot = first + count → count < n →
      (∀ k, slot ≤ k → k < first + n → s.slots k = none) →
      (∀ k, first ≤ k → k < slot → s.Marked k) →
      allocSlots base first n pa stray left slot count c s = .ok (va, s') →
      Extends s s' ∧ va = pageAddress base first ∧
        ∀ k, first ≤ k → k < first + n → s'.Marked k
  | 0, _, _, _, _, _, _, _, _, h => by cases h
  | left + 1, slot, count, c, s, hslot, hcount, hfree, hmarked, h => by
      have hnone : s.slots slot = none := hfree slot le_rfl (by omega)
      rw [allocSlots, if_neg (by omega), if_neg (by simp [hnone])] at h
      obtain ⟨⟨p, heap⟩, -, h⟩ := bind_eq_ok h
      dsimp only at h
      have hp : p ≠ 0 := by
        rintro rfl
        rw [if_pos rfl] at h
        cases h
      rw [if_neg hp] at h
      obtain ⟨s₂, hlink, h⟩ := bind_eq_ok h
      obtain ⟨hgrow₂, hkeep₂⟩ := linkPage_spec hstray hlink
      have hgrow := (@Extends.register s heap slot
        (frameNumber (pa (pageAddress base slot))) hnone).trans hgrow₂
      have hself : s₂.Marked slot :=
        hgrow₂.marked _ ⟨_, Function.update_self .., usedPage_marked _ _⟩
      have hmarked₂ : ∀ k, first ≤ k → k < slot + 1 → s₂.Marked k := by
        intro k hlo hhi
        rcases Nat.lt_succ_iff_lt_or_eq.1 hhi with hlt | rfl
        · exact hgrow.marked k (hmarked k hlo hlt)
        · exact hself
      split_ifs at h with hlast
      · -- the last page of the run
        obtain ⟨q, hq, hid, -⟩ := hmarked₂ first le_rfl (by omega)
        rw [hq] at h
        obtain ⟨rfl, rfl⟩ := Prod.mk.inj (Except.ok.inj h)
        refine ⟨hgrow, by rw [hid], fun k hlo hhi => hmarked₂ k hlo (by omega)⟩
      · have hfree₂ : ∀ k, slot + 1 ≤ k → k < first + n → s₂.slots k = none := by
          intro k hlo hhi
          refine hkeep₂ k ?_
          simp only
          rw [Function.update_of_ne (by omega)]
          exact hfree k (by omega) hhi
        obtain ⟨hgrow', hva, hall⟩ := allocSlots_spec hstray hle left (slot + 1) (count + 1)
          (some slot) s₂ (by omega) (by omega) hfree₂ hmarked₂ h
        exact ⟨hgrow.trans hgrow', hva, hall⟩

lemma allocPages_spec (hstray : 2 ≤ size → size < PAGE_COUNT_MAX → ∀ s s', stray s = .ok s' → s' = s)
    (h : allocPages size pa stray s = .ok (va, s')) : ∃ first, Grants s s' va first size.toNat := by
  unfold allocPages at h
  split_ifs at h with hpos hone hmax
  · obtain rfl := hone
    exact newPage_spec h
  · cases hfirst : firstSlotForAList s.slots size with
    | none => simp [hfirst] at h
    | some first =>
        obtain ⟨n, rfl⟩ : ∃ n : ℕ, size = n := ⟨size.toNat, by omega⟩
        obtain ⟨hle, hfree⟩ := firstSlotFrom_spec _ 0 0 (by omega) (fun k _ hk => by omega) hfirst
        have hfree' : ∀ k, first ≤ k → k < first + n → s.slots k = none := fun k hlo hhi =>
          hfree k hlo (by omega)
        simp only [hfirst, Int.toNat_natCast] at h ⊢
        obtain ⟨hgrow, hva, hmarked⟩ := allocSlots_spec (hstray (by omega) (by omega))
          (by exact_mod_cast hle) (n + 1) first 0 none s rfl (by omega) hfree'
          (fun k hlo hhi => by omega) h
        exact ⟨first, hgrow, hva, by omega, by exact_mod_cast hle, hfree', hmarked⟩

lemma pageAddress_eq {k : ℕ} (hk : k ≤ PAGE_COUNT_MAX) :
    pageAddress PAGEDPOOL_VA k = PAGEDPOOL_VA + k * PAGE_SIZE := by
  have hint : toInt32 ((k : ℤ) * PAGE_SIZE) = k * PAGE_SIZE := by
    simp only [PAGE_COUNT_MAX, PAGE_SIZE] at hk ⊢
    exact toInt32_of_range (by omega) (by omega)
  simp only [pageAddress, hint]
  simp only [PAGE_COUNT_MAX, PAGE_SIZE, PAGEDPOOL_VA] at hk ⊢
  omega

/-! ## The invariant -/

/-- The first slot of a range of pages. -/
def PageGrant.slot (g : PageGrant) : ℕ := (g.va - PAGEDPOOL_VA) / PAGE_SIZE

/-- Page 0 is taken, and every range handed out is a run of slots that are marked; no two ranges
share a slot. -/
structure PoolWf (t : PoolTrace) : Prop where
  base : t.pool.gPagedpoolVa = PAGEDPOOL_VA
  zero : t.pool.slots 0 ≠ none
  va : ∀ g ∈ t.granted, g.va = PAGEDPOOL_VA + g.slot * PAGE_SIZE
  range : ∀ g ∈ t.granted, 1 ≤ g.slot ∧ 1 ≤ g.pages ∧ g.slot + g.pages ≤ PAGE_COUNT_MAX
  marked : ∀ g ∈ t.granted, ∀ k < g.pages, t.pool.Marked (g.slot + k)
  apart : t.granted.Pairwise fun g h => g.slot + g.pages ≤ h.slot ∨ h.slot + h.pages ≤ g.slot

lemma PoolWf.safe {t : PoolTrace} (h : PoolWf t) : PoolSafe t where
  apart := by
    refine h.apart.imp_of_mem fun {g g'} hg hg' hor => ?_
    have hva := h.va g hg
    have hva' := h.va g' hg'
    rw [positions, positions, Set.disjoint_left]
    intro x hx hx'
    simp only [PageGrant.extent, Set.mem_Ico, PAGE_SIZE] at hx hx' hva hva'
    omega
  inside g hg := by
    have hva := h.va g hg
    obtain ⟨hpos, -, hle⟩ := h.range g hg
    simp only [PageGrant.extent, PAGE_SIZE, PAGE_COUNT_MAX] at hle hva ⊢
    omega
  marked g hg k hk := h.marked g hg k hk

lemma PoolWf.grants {t : PoolTrace} (h : PoolWf t) {first n : ℕ}
    (hg : Grants t.pool s' va first n) : PoolWf ⟨s', ⟨va, n⟩ :: t.granted⟩ := by
  have hva : va = PAGEDPOOL_VA + first * PAGE_SIZE := by
    have hle := hg.le
    rw [hg.va_eq, h.base, pageAddress_eq (by omega)]
  have hslot : (⟨va, n⟩ : PageGrant).slot = first := by
    simp only [PageGrant.slot, hva, PAGE_SIZE]
    omega
  have hfirst : 1 ≤ first := by
    by_contra hzero
    exact h.zero (hg.free 0 (by omega) (by have := hg.pos; omega))
  constructor
  case base => exact hg.grows.base.trans h.base
  case zero => exact hg.grows.occupied 0 h.zero
  case va =>
    intro g hmem
    rcases List.mem_cons.1 hmem with rfl | hmem
    · rw [hslot, hva]
    · exact h.va g hmem
  case range =>
    intro g hmem
    rcases List.mem_cons.1 hmem with rfl | hmem
    · rw [hslot]
      exact ⟨hfirst, hg.pos, hg.le⟩
    · exact h.range g hmem
  case marked =>
    intro g hmem k hk
    rcases List.mem_cons.1 hmem with rfl | hmem
    · rw [hslot]
      exact hg.marked _ (by omega) (by simp only at hk; omega)
    · exact hg.grows.marked _ (h.marked g hmem k hk)
  case apart =>
    refine List.pairwise_cons.2 ⟨fun g hmem => ?_, h.apart⟩
    rw [hslot]
    -- a slot in both ranges would be marked and free
    by_contra hover
    simp only [not_or, not_le] at hover
    have hpos := hg.pos
    obtain ⟨-, hpages, -⟩ := h.range g hmem
    have hmax : g.slot + (max first g.slot - g.slot) = max first g.slot := by omega
    obtain ⟨p, hp, -⟩ := h.marked g hmem (max first g.slot - g.slot) (by omega)
    rw [hmax, hg.free _ (le_max_left _ _) (by omega)] at hp
    cases hp

lemma PoolWf.step {t t' : PoolTrace} {c : PoolCall} (h : PoolWf t) (hc : StrayHarmless t c)
    (hs : poolStep t c = .ok t') : PoolWf t' := by
  cases c with
  | newPage pa =>
      obtain ⟨⟨va, pool⟩, hcall, hs⟩ := bind_eq_ok hs
      obtain rfl := Except.ok.inj hs
      obtain ⟨first, hg⟩ := newPage_spec hcall
      exact h.grants hg
  | allocPages size pa stray =>
      obtain ⟨⟨va, pool⟩, hcall, hs⟩ := bind_eq_ok hs
      obtain rfl := Except.ok.inj hs
      obtain ⟨first, hg⟩ := allocPages_spec hc hcall
      exact h.grants hg

lemma initializeFramesAlloc_wf {slots : ℕ → Option PageD} {heap : HeapState} {pool : PagedPool}
    (h : initializeFramesAlloc ⟨PAGEDPOOL_VA, slots, heap⟩ = .ok pool) : PoolWf ⟨pool, []⟩ := by
  obtain ⟨⟨p, heap'⟩, -, h⟩ := bind_eq_ok h
  simp only at h
  split_ifs at h
  obtain rfl := Except.ok.inj h
  refine ⟨rfl, ?_, ?_, ?_, ?_, List.Pairwise.nil⟩
  · simp
  all_goals
    intro g hg
    cases hg

/-- The pool after the boot on a fresh heap. -/
def bootPool : PoolTrace :=
  match initializeFramesAlloc ⟨PAGEDPOOL_VA, fun _ => none, (initHeap zeroHeap).2⟩ with
  | .ok pool => ⟨pool, []⟩
  | .error _ => ⟨⟨0, fun _ => none, zeroHeap⟩, []⟩

lemma bootPool_eq :
    ∃ pool, initializeFramesAlloc ⟨PAGEDPOOL_VA, fun _ => none, (initHeap zeroHeap).2⟩ = .ok pool ∧
      bootPool = ⟨pool, []⟩ :=
  ⟨_, rfl, rfl⟩

/-- Two pages and one more, with a store that goes elsewhere. -/
def twoAndOne : List PoolCall := [.allocPages 2 (fun va => va) .ok, .newPage fun va => va]

/-- The effect of the store when `pageConductor` points 32 bytes in front of the structure at
`0x301000B8`, that of page 1: its `id` and `used` are overwritten with its own address. -/
def strayToId : StrayStore := fun s => .ok { s with
  slots := Function.update s.slots 1
    ((s.slots 1).map fun p => { p with id := 0x301000B8, used := 0 }) }

lemma poolStep_strayToId :
    ∃ t, poolStep bootPool (.allocPages 2 (fun va => va) strayToId) = .ok t ∧
      t.granted = [⟨0x306B8000, 2⟩] ∧ t.pool.slots 184 = none :=
  ⟨_, rfl, by decide, rfl⟩

end Gramado
