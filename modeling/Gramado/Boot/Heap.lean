import Gramado.Core.CTypes
import Gramado.Lib.Run
import Gramado.Lib.Extent

/-!
# The heap of the boot loader

`boot/x86/bsp/blgram/mm/heap.c`.  `heapAllocateMemory` cuts a block off at `g_heap_pointer`, a header
and behind it the client's area; `FreeHeap` moves `g_heap_pointer` back to the block that is freed,
whatever lies above it.

* `BlHeapSafe` — what a client relies on.
* `CutsFree` — the condition on one call: what is cut off fits with its header, and no live block
  starts in it.
* `blHeap_run` says that the second decides the first, over whole runs.
-/

namespace Gramado.Boot

open StepRun Extent

/-! ## The loader's words -/

/-- Addition of two `unsigned long`; the loader is compiled for 32 bits. -/
def wordAdd (a b : ℕ) : ℕ := (a + b) % 2 ^ 32

/-- Subtraction of two `unsigned long`. -/
def wordSub (a b : ℕ) : ℕ := (a + (2 ^ 32 - b % 2 ^ 32)) % 2 ^ 32

lemma wordAdd_of_lt {a b : ℕ} (h : a + b < 2 ^ 32) : wordAdd a b = a + b := Nat.mod_eq_of_lt h

lemma wordSub_of_le {a b : ℕ} (hb : b ≤ a) (ha : a < 2 ^ 32) : wordSub a b = a - b := by
  unfold wordSub
  omega

/-- The wrap below zero adds the whole range. -/
lemma wordSub_of_lt {a b : ℕ} (ha : a < b) (hb : b < 2 ^ 32) : wordSub a b = a + 2 ^ 32 - b := by
  unfold wordSub
  omega

/-! ## The heap -/

/-- `BL_HEAP_START`. -/
def BL_HEAP_START : ℕ := 0x01000000 + 0x100000

/-- `BL_HEAP_END`. -/
def BL_HEAP_END : ℕ := 0x012FFFF0 - 0x8000

/-- `MMBLOCK_COUNT_MAX`. -/
def MMBLOCK_COUNT_MAX : ℕ := 256

/-- `MMBLOCK_HEADER_SIZE`. -/
def MMBLOCK_HEADER_SIZE : ℕ := 64

/-- `struct mmblock_d`: the fields that are written. -/
structure Mmblock where
  header : ℕ
  headerSize : ℕ
  id : ℕ
  used : ℕ
  magic : ℕ
  free : ℕ
  userArea : ℕ
  footer : ℕ

/-- The globals of `heap.c`, and the headers in memory by their address. -/
structure BlHeap where
  blHeapStart : ℕ
  blHeapEnd : ℕ
  gHeapPointer : ℕ
  gAvailableHeap : ℕ
  heapCount : ℕ
  mmblockCount : ℕ
  mmblockList : ℕ → ℕ
  lastValid : ℕ
  lastSize : ℕ
  mmPrevPointer : ℕ
  mmblock : ℕ → Mmblock

/-- `init_heap`: `0` when the heap is ready. -/
def initHeap (s : BlHeap) : ℤ × BlHeap :=
  let s := { s with
    blHeapStart := BL_HEAP_START
    blHeapEnd := BL_HEAP_END
    gHeapPointer := BL_HEAP_START
    gAvailableHeap := wordSub BL_HEAP_END BL_HEAP_START
    heapCount := 0
    lastValid := BL_HEAP_START
    lastSize := 0 }
  if s.gHeapPointer = 0 ∨ s.gHeapPointer > s.blHeapEnd ∨ s.blHeapStart = 0 ∨ s.blHeapEnd = 0 ∨
      s.gAvailableHeap = 0 then
    (1, s)
  else
    (0, s)

/-- The header that a block at `base` gets. -/
def newMmblock (base size id : ℕ) : Mmblock where
  header := base
  headerSize := MMBLOCK_HEADER_SIZE
  id := id
  used := 1
  magic := 1234
  free := 0
  userArea := wordAdd base MMBLOCK_HEADER_SIZE
  footer := wordAdd (wordAdd base MMBLOCK_HEADER_SIZE) size

/-- The rest of `heapAllocateMemory`, once the heap pointer is valid. -/
def cutBlock (size : ℕ) (s : BlHeap) : ℕ × BlHeap :=
  let s := { s with lastValid := s.gHeapPointer }
  if s.gHeapPointer ≠ 0 then
    let current := newMmblock s.gHeapPointer size s.mmblockCount
    (current.userArea,
      { s with
        mmblock := Function.update s.mmblock s.gHeapPointer current
        mmblockList := Function.update s.mmblockList s.mmblockCount s.gHeapPointer
        mmPrevPointer := s.gHeapPointer
        gHeapPointer := current.footer
        gAvailableHeap := wordSub s.gAvailableHeap (wordSub current.footer current.header) })
  else
    (0, s)

/-- `heapAllocateMemory` from the label `try_again` on.  Every try counts a block, so there are no
more than `MMBLOCK_COUNT_MAX` of them. -/
def tryAgain (size : ℕ) : ℕ → BlHeap → Except Fault (ℕ × BlHeap)
  | 0, _ => .error (.panic "heapAllocateMemory: MMBLOCK_COUNT_MAX\n")
  | tries + 1, s =>
      let s := { s with mmblockCount := wordAdd s.mmblockCount 1 }
      if s.mmblockCount ≥ MMBLOCK_COUNT_MAX then
        .error (.panic "heapAllocateMemory: MMBLOCK_COUNT_MAX\n")
      else if s.gHeapPointer < BL_HEAP_START ∨ s.gHeapPointer ≥ BL_HEAP_END then
        if s.lastValid < BL_HEAP_START ∨ s.lastValid ≥ BL_HEAP_END then
          .error (.panic "heapAllocateMemory: last_valid\n")
        else
          tryAgain size tries { s with gHeapPointer := wordAdd s.lastValid s.lastSize }
      else
        .ok (cutBlock size s)

/-- `heapAllocateMemory`: the address of the client's area, `0` when the request is refused. -/
def heapAllocateMemory (size : UInt32) (s : BlHeap) : Except Fault (ℕ × BlHeap) :=
  if s.gAvailableHeap = 0 then
    .ok (0, s)
  else if size = 0 then
    .ok (s.gHeapPointer, s)
  -- the header that also has to fit is not part of this comparison
  else if size.toNat ≥ s.gAvailableHeap then
    .ok (0, s)
  else
    tryAgain size.toNat MMBLOCK_COUNT_MAX { s with lastSize := size.toNat }

/-- `FreeHeap`. -/
def freeHeap (ptr : ℕ) (s : BlHeap) : BlHeap :=
  if ptr = 0 then s
  else if ptr < BL_HEAP_START ∨ ptr ≥ BL_HEAP_END then s
  else
    let base := wordSub ptr MMBLOCK_HEADER_SIZE
    let header := s.mmblock base
    if base = 0 then s
    else if header.used ≠ 1 ∨ header.magic ≠ 1234 then s
    else
      let s :=
        if s.mmblockList s.mmblockCount = base ∧ header.id = s.mmblockCount then
          { s with
            mmblockList := Function.update s.mmblockList s.mmblockCount 0
            mmblockCount := wordSub s.mmblockCount 1 }
        else s
      { s with
        mmblock := Function.update s.mmblock base { header with used := 0, magic := 0 }
        gHeapPointer := base }

/-! ## Runs -/

/-- A block that was returned: the client's address and the size it asked for. -/
structure Grant where
  ptr : ℕ
  size : ℕ

/-- Header and client area of a block. -/
def Grant.extent (g : Grant) : Extent ℕ := ⟨g.ptr - MMBLOCK_HEADER_SIZE, g.ptr + g.size⟩

/-- The heap, the blocks returned for a positive size, and those of them not freed, the newest
first. -/
structure BlTrace where
  heap : BlHeap
  granted : List Grant
  live : List Grant

/-- A call of the heap's interface. -/
inductive BlHeapCall where
  | alloc (size : UInt32)
  /-- One of the live blocks is freed. -/
  | free (i : ℕ)

/-- One call, and what it does to the lists of blocks. -/
def blHeapStep (t : BlTrace) : BlHeapCall → Except Fault BlTrace
  | .alloc size => do
      let (ptr, heap) ← heapAllocateMemory size t.heap
      if ptr = 0 ∨ size = 0 then
        return { t with heap := heap }
      else
        return ⟨heap, ⟨ptr, size.toNat⟩ :: t.granted, ⟨ptr, size.toNat⟩ :: t.live⟩
  | .free i =>
      match t.live[i]? with
      | none => .ok t
      | some g => .ok { t with heap := freeHeap g.ptr t.heap, live := t.live.eraseIdx i }

/-- The loader's heap right after `init_heap`: its globals were zero, and its memory held anything. -/
def blBootHeap (memory : ℕ → Mmblock) : BlTrace where
  heap := (initHeap
    { blHeapStart := 0, blHeapEnd := 0, gHeapPointer := 0, gAvailableHeap := 0, heapCount := 0
      mmblockCount := 0, mmblockList := fun _ => 0, lastValid := 0, lastSize := 0
      mmPrevPointer := 0, mmblock := memory }).2
  granted := []
  live := []

/-- **What clients of the loader's heap rely on.** -/
structure BlHeapSafe (t : BlTrace) : Prop where
  /-- Every returned block lies in the heap with the whole size that was asked for. -/
  inside : ∀ g ∈ t.granted, BL_HEAP_START ≤ g.ptr ∧ g.ptr + g.size ≤ BL_HEAP_END
  /-- Two live blocks share no byte, headers included. -/
  apart : t.live.Pairwise fun g h => Disjoint g.extent.positions h.extent.positions
  /-- The available size fits between the pointer and the end, and has not wrapped. -/
  space : t.heap.gHeapPointer + t.heap.gAvailableHeap ≤ BL_HEAP_END

/-- The call is not an allocation that is served although its header does not fit, or although a live
block starts in what it cuts off. -/
def CutsFree (t : BlTrace) : BlHeapCall → Prop
  | .alloc size =>
      size = 0 ∨ t.heap.gAvailableHeap ≤ size.toNat ∨
        MMBLOCK_HEADER_SIZE + size.toNat ≤ t.heap.gAvailableHeap ∧
          ∀ g ∈ t.live, g.extent.start < t.heap.gHeapPointer ∨
            t.heap.gHeapPointer + MMBLOCK_HEADER_SIZE + size.toNat ≤ g.extent.start
  | .free _ => True

/-! ## What one call can do -/

/-- **What an allocation that does not stop the loader can do**, with the pointer and what is
available in the range: nothing, or cut the block off and charge the header and the area. -/
lemma heapAllocateMemory_cases {size : UInt32} {s s' : BlHeap} {ptr : ℕ}
    (hlo : BL_HEAP_START ≤ s.gHeapPointer) (hspace : s.gHeapPointer + s.gAvailableHeap ≤ BL_HEAP_END)
    (h : heapAllocateMemory size s = .ok (ptr, s')) :
    ((ptr = 0 ∨ size = 0) ∧ s' = s ∧ (size = 0 ∨ s.gAvailableHeap ≤ size.toNat)) ∨
      (size ≠ 0 ∧ size.toNat < s.gAvailableHeap ∧
        ptr = s.gHeapPointer + MMBLOCK_HEADER_SIZE ∧
        s'.gHeapPointer = s.gHeapPointer + MMBLOCK_HEADER_SIZE + size.toNat ∧
        s'.gAvailableHeap = wordSub s.gAvailableHeap (MMBLOCK_HEADER_SIZE + size.toNat) ∧
        ∃ id, s'.mmblock =
          Function.update s.mmblock s.gHeapPointer (newMmblock s.gHeapPointer size.toNat id)) := by
  rw [heapAllocateMemory] at h
  split_ifs at h with hnone hzero hsize
  · cases h
    exact .inl ⟨.inl rfl, rfl, .inr (by omega)⟩
  · cases h
    exact .inl ⟨.inr hzero, rfl, .inl hzero⟩
  · cases h
    exact .inl ⟨.inl rfl, rfl, .inr hsize⟩
  · right
    have hstart : 0 < BL_HEAP_START := by decide
    have hend : BL_HEAP_END < 2 ^ 31 := by decide
    have hheader : MMBLOCK_HEADER_SIZE < 2 ^ 30 := by decide
    rw [show MMBLOCK_COUNT_MAX = 255 + 1 from rfl, tryAgain] at h
    dsimp only at h
    rw [if_neg (c := s.gHeapPointer < _ ∨ _) (by omega)] at h
    split_ifs at h
    rw [Except.ok.injEq, cutBlock] at h
    dsimp only at h
    rw [if_pos (by omega : s.gHeapPointer ≠ 0)] at h
    have hptr : wordAdd s.gHeapPointer MMBLOCK_HEADER_SIZE = s.gHeapPointer + MMBLOCK_HEADER_SIZE :=
      wordAdd_of_lt (by omega)
    have hfooter : wordAdd (s.gHeapPointer + MMBLOCK_HEADER_SIZE) size.toNat =
        s.gHeapPointer + MMBLOCK_HEADER_SIZE + size.toNat :=
      wordAdd_of_lt (by omega)
    have htotal : wordSub (s.gHeapPointer + MMBLOCK_HEADER_SIZE + size.toNat) s.gHeapPointer =
        MMBLOCK_HEADER_SIZE + size.toNat := by
      rw [wordSub_of_le (by omega) (by omega)]
      omega
    simp only [newMmblock, hptr, hfooter, htotal, Prod.mk.injEq] at h
    obtain ⟨rfl, rfl⟩ := h
    exact ⟨hzero, by omega, rfl, rfl, rfl, wordAdd s.mmblockCount 1,
      by simp only [newMmblock, hptr, hfooter]⟩

/-- Freeing a block whose header is intact moves the pointer back to it. -/
lemma freeHeap_live {ptr : ℕ} {s : BlHeap} (hlo : BL_HEAP_START + MMBLOCK_HEADER_SIZE ≤ ptr)
    (hhi : ptr < BL_HEAP_END) (hused : (s.mmblock (ptr - MMBLOCK_HEADER_SIZE)).used = 1)
    (hmagic : (s.mmblock (ptr - MMBLOCK_HEADER_SIZE)).magic = 1234) :
    (freeHeap ptr s).gHeapPointer = ptr - MMBLOCK_HEADER_SIZE ∧
      (freeHeap ptr s).gAvailableHeap = s.gAvailableHeap ∧
      ∀ base ≠ ptr - MMBLOCK_HEADER_SIZE, (freeHeap ptr s).mmblock base = s.mmblock base := by
  have hend : BL_HEAP_END < 2 ^ 31 := by decide
  have hstart : 0 < BL_HEAP_START := by decide
  have hbase : wordSub ptr MMBLOCK_HEADER_SIZE = ptr - MMBLOCK_HEADER_SIZE :=
    wordSub_of_le (by omega) (by omega)
  rw [freeHeap, if_neg (by omega), if_neg (by omega)]
  simp only [hbase]
  rw [if_neg (by omega), if_neg (by rw [hused, hmagic]; decide)]
  refine ⟨rfl, ?_, fun base hne => ?_⟩
  · dsimp only
    split_ifs <;> rfl
  · dsimp only
    rw [Function.update_of_ne hne]
    split_ifs <;> rfl

/-! ## The invariant -/

/-- Header and area of a live block: in the heap, below what is still available, with its header
intact, and with the pointer not inside. -/
structure LiveBlock (s : BlHeap) (g : Grant) : Prop where
  start : BL_HEAP_START + MMBLOCK_HEADER_SIZE ≤ g.ptr
  positive : 0 < g.size
  stop : g.ptr + g.size + s.gAvailableHeap ≤ BL_HEAP_END
  used : (s.mmblock (g.ptr - MMBLOCK_HEADER_SIZE)).used = 1
  magic : (s.mmblock (g.ptr - MMBLOCK_HEADER_SIZE)).magic = 1234
  outside : g.extent.start < s.gHeapPointer → g.extent.stop ≤ s.gHeapPointer

/-- The invariant behind `BlHeapSafe`. -/
structure BlHeapKept (t : BlTrace) : Prop where
  start : BL_HEAP_START ≤ t.heap.gHeapPointer
  space : t.heap.gHeapPointer + t.heap.gAvailableHeap ≤ BL_HEAP_END
  inside : ∀ g ∈ t.granted, BL_HEAP_START ≤ g.ptr ∧ g.ptr + g.size ≤ BL_HEAP_END
  live : ∀ g ∈ t.live, LiveBlock t.heap g
  apart : t.live.Pairwise fun g h => Disjoint g.extent.positions h.extent.positions

lemma BlHeapKept.safe {t : BlTrace} (h : BlHeapKept t) : BlHeapSafe t := ⟨h.inside, h.apart, h.space⟩

/-- Apart means that one of two extents that hold something ends before the other starts. -/
lemma disjoint_extents {e f : Extent ℕ} (he : e.start < e.stop) (hf : f.start < f.stop) :
    Disjoint e.positions f.positions ↔ e.stop ≤ f.start ∨ f.stop ≤ e.start := by
  rw [positions, positions, Set.Ico_disjoint_Ico]
  omega

lemma LiveBlock.extent_lt {s : BlHeap} {g : Grant} (h : LiveBlock s g) :
    g.extent.start < g.extent.stop := by
  have hstart := h.start
  have hpositive := h.positive
  simp only [Grant.extent]
  omega

/-! ## One call -/

section Alloc

variable {t t' : BlTrace} {size : UInt32}

/-- An allocation that is served and safe cuts off what is free. -/
lemma cutsFree_of_safe (h : BlHeapKept t) (hs : blHeapStep t (.alloc size) = .ok t')
    (hsafe : BlHeapSafe t') : CutsFree t (.alloc size) := by
  obtain ⟨⟨ptr, heap⟩, halloc, hs⟩ := bind_eq_ok hs
  rcases heapAllocateMemory_cases h.start h.space halloc with
    ⟨-, -, hsmall⟩ | ⟨hne, hlt, hptr, hpointer, havail, -⟩
  · exact hsmall.imp_right .inl
  have hstart := h.start
  have hspace := h.space
  have hend : BL_HEAP_END < 2 ^ 31 := by decide
  have hpos : 0 < BL_HEAP_START := by decide
  have hheader : MMBLOCK_HEADER_SIZE < 2 ^ 30 := by decide
  dsimp only at hs
  rw [if_neg (by rw [hptr]; simp only [hne, or_false]; omega)] at hs
  cases hs
  have hspace' := hsafe.space
  dsimp only at hspace'
  rw [hpointer, havail] at hspace'
  have hfits : MMBLOCK_HEADER_SIZE + size.toNat ≤ t.heap.gAvailableHeap := by
    by_contra hshort
    rw [wordSub_of_lt (by omega) (by omega)] at hspace'
    omega
  refine .inr (.inr ⟨hfits, fun g hg => ?_⟩)
  have hblock := h.live g hg
  have hapart := (List.pairwise_cons.1 hsafe.apart).1 g hg
  have hnew : (Grant.extent ⟨ptr, size.toNat⟩).start < (Grant.extent ⟨ptr, size.toNat⟩).stop := by
    have hpositive : MMBLOCK_HEADER_SIZE ≠ 0 := by decide
    simp only [Grant.extent]
    omega
  rw [disjoint_extents hnew hblock.extent_lt] at hapart
  have hlt := hblock.extent_lt
  simp only [Grant.extent, hptr] at hapart hlt ⊢
  omega

/-- An allocation that cuts off what is free keeps the invariant. -/
lemma BlHeapKept.alloc (h : BlHeapKept t) (hfree : CutsFree t (.alloc size))
    (hs : blHeapStep t (.alloc size) = .ok t') : BlHeapKept t' := by
  obtain ⟨⟨ptr, heap⟩, halloc, hs⟩ := bind_eq_ok hs
  rcases heapAllocateMemory_cases h.start h.space halloc with
    ⟨hptr, rfl, -⟩ | ⟨hne, hlt, hptr, hpointer, havail, id, hheaders⟩
  · dsimp only at hs
    rw [if_pos hptr] at hs
    cases hs
    exact h
  have hstart := h.start
  have hspace := h.space
  have hend : BL_HEAP_END < 2 ^ 31 := by decide
  have hpos : 0 < BL_HEAP_START := by decide
  dsimp only at hs
  rw [if_neg (by rw [hptr]; simp only [hne, or_false]; omega)] at hs
  cases hs
  obtain hzero | hsmall | ⟨hfits, hlive⟩ := hfree
  · exact absurd hzero hne
  · omega
  rw [wordSub_of_le hfits (by omega)] at havail
  have hsize : 0 < size.toNat := by
    refine Nat.pos_of_ne_zero fun hzero => hne (UInt32.toNat_inj.1 ?_)
    rw [hzero]
    rfl
  have hnew : LiveBlock heap ⟨ptr, size.toNat⟩ := by
    have hbase : ptr - MMBLOCK_HEADER_SIZE = t.heap.gHeapPointer := by omega
    refine ⟨by dsimp only; omega, hsize, by dsimp only; omega, ?_, ?_, fun _ => ?_⟩
    · dsimp only
      rw [hbase, hheaders, Function.update_self, newMmblock]
    · dsimp only
      rw [hbase, hheaders, Function.update_self, newMmblock]
    · simp only [Grant.extent]
      omega
  refine ⟨?_, ?_, ?_, ?_, ?_⟩
  · dsimp only
    omega
  · dsimp only
    omega
  · rintro g (_ | ⟨_, hg⟩)
    · dsimp only
      omega
    · exact h.inside g hg
  · rintro g (_ | ⟨_, hg⟩)
    · exact hnew
    · have hblock := h.live g hg
      have hside := hlive g hg
      have hbase : g.ptr - MMBLOCK_HEADER_SIZE ≠ t.heap.gHeapPointer := by
        simp only [Grant.extent] at hside
        omega
      refine ⟨hblock.start, hblock.positive, ?_, ?_, ?_, fun hbelow => ?_⟩
      · have hstop := hblock.stop
        dsimp only
        omega
      · dsimp only
        rw [hheaders, Function.update_of_ne hbase]
        exact hblock.used
      · dsimp only
        rw [hheaders, Function.update_of_ne hbase]
        exact hblock.magic
      · have houtside := hblock.outside
        dsimp only at hbelow ⊢
        omega
  · refine List.pairwise_cons.2 ⟨fun g hg => ?_, h.apart⟩
    have hblock := h.live g hg
    have houtside := hblock.outside
    have hside := hlive g hg
    rw [disjoint_extents hnew.extent_lt hblock.extent_lt]
    simp only [Grant.extent] at houtside hside ⊢
    omega

end Alloc

/-- Freeing a live block keeps the invariant: the pointer goes to its start, and it is no longer
live. -/
lemma BlHeapKept.free {t t' : BlTrace} {i : ℕ} (h : BlHeapKept t)
    (hs : blHeapStep t (.free i) = .ok t') : BlHeapKept t' := by
  rw [blHeapStep] at hs
  cases hget : t.live[i]? with
  | none =>
      rw [hget] at hs
      cases hs
      exact h
  | some g =>
      rw [hget] at hs
      cases hs
      obtain ⟨hi, rfl⟩ := List.getElem?_eq_some_iff.1 hget
      have hperm := List.getElem_cons_eraseIdx_perm hi
      have hblock := h.live _ (List.getElem_mem hi)
      obtain ⟨hfirst, hrest⟩ :=
        List.pairwise_cons.1 ((hperm.pairwise_iff fun hdisjoint => hdisjoint.symm).2 h.apart)
      have hstart := hblock.start
      have hstop := hblock.stop
      have hpositive := hblock.positive
      obtain ⟨hpointer, havail, hheaders⟩ :=
        freeHeap_live hstart (by omega) hblock.used hblock.magic
      refine ⟨?_, ?_, h.inside, fun f hf => ?_, hrest⟩
      · dsimp only
        omega
      · dsimp only
        omega
      · have hother := h.live f (List.mem_of_mem_eraseIdx hf)
        have hdisjoint := hfirst f hf
        have hlt := hother.extent_lt
        rw [disjoint_extents hblock.extent_lt hlt] at hdisjoint
        have hne : f.ptr - MMBLOCK_HEADER_SIZE ≠ t.live[i].ptr - MMBLOCK_HEADER_SIZE := by
          have hlt' := hblock.extent_lt
          simp only [Grant.extent] at hdisjoint hlt hlt'
          omega
        refine ⟨hother.start, hother.positive, ?_, ?_, ?_, fun hbelow => ?_⟩
        · dsimp only
          rw [havail]
          exact hother.stop
        · dsimp only
          rw [hheaders _ hne]
          exact hother.used
        · dsimp only
          rw [hheaders _ hne]
          exact hother.magic
        · dsimp only at hbelow ⊢
          rw [hpointer] at hbelow ⊢
          simp only [Grant.extent] at hdisjoint hlt hbelow ⊢
          omega

/-! ## Whole runs -/

lemma blBootHeap_kept (memory : ℕ → Mmblock) : BlHeapKept (blBootHeap memory) := by
  have hpointer : (blBootHeap memory).heap.gHeapPointer = BL_HEAP_START := rfl
  have havail : (blBootHeap memory).heap.gAvailableHeap = BL_HEAP_END - BL_HEAP_START := rfl
  exact
    { start := le_of_eq hpointer.symm
      space := by
        rw [hpointer, havail]
        decide
      inside := fun g hg => absurd hg List.not_mem_nil
      live := fun g hg => absurd hg List.not_mem_nil
      apart := List.Pairwise.nil }

/-- **The loader's heap is safe in every state of a run exactly when every allocation of the run
cuts off what is free.** -/
theorem blHeap_run (memory : ℕ → Mmblock) (calls : List BlHeapCall) :
    Along blHeapStep BlHeapSafe (blBootHeap memory) calls ↔
      Meets blHeapStep CutsFree (blBootHeap memory) calls := by
  have hkeep : ∀ t c t', BlHeapKept t → CutsFree t c → blHeapStep t c = .ok t' → BlHeapKept t' := by
    rintro t (size | i) t' h hfree hs
    · exact h.alloc hfree hs
    · exact h.free hs
  refine along_iff_meets BlHeapKept (fun _ h => h.safe) (fun t c t' h hs => ?_) hkeep calls _
    (blBootHeap_kept memory)
  refine ⟨fun hsafe => ?_, fun hfree => (hkeep t c t' h hfree hs).safe⟩
  cases c with
  | alloc size => exact cutsFree_of_safe h hs hsafe
  | free i => trivial

/-- Two blocks of 100 bytes, and the older one is freed: the next block of 200 bytes starts in its
place and runs into the other. -/
theorem blHeap_run_fails :
    ¬∀ memory calls, Along blHeapStep BlHeapSafe (blBootHeap memory) calls := by
  intro hall
  have hrun := hall (fun _ => ⟨0, 0, 0, 0, 0, 0, 0, 0⟩) [.alloc 100, .alloc 100, .free 1, .alloc 200]
  have hlast := (((hrun.2 _ rfl).2 _ rfl).2 _ rfl).2 _ rfl
  have hapart := (List.pairwise_cons.1 hlast.apart).1 ⟨BL_HEAP_START + 164 + 64, 100⟩
    (List.mem_cons_self ..)
  rw [disjoint_extents (by decide) (by decide)] at hapart
  exact absurd hapart (by decide)

end Gramado.Boot
