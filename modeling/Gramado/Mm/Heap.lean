import Gramado.Core.CTypes

/-!
# The kernel heap

`kres/mm/mm.c`.  The heap is the fixed range from `KERNEL_HEAP_START` to `KERNEL_HEAP_END`.
`heapAllocateMemory` cuts a block off its front: a `struct mmblock_d` header and behind it the
client area whose address is returned.  `heapFreeMemory` only marks a header as reusable, no block
is ever handed out twice.
-/

namespace Gramado

/-- `KERNEL_HEAP_START` of `x64gva.h`. -/
def kernelHeapStart : ℕ := 0x30100000

/-- `KERNEL_HEAP_END` of `x64gva.h`. -/
def kernelHeapEnd : ℕ := 0x301D0000

/-- `sizeof(struct mmblock_d)`: five `unsigned long`, six `int` and a pointer. -/
def sizeofMmblock : ℕ := 72

/-- `MMBLOCK_COUNT_MAX`. -/
def mmblockCountMax : ℕ := 2 * 4096

/-- `HEAP_COUNT_MAX`. -/
def heapCountMax : ℕ := 8

/-- `struct mmblock_d`, the header in front of a client area. -/
structure MmBlock where
  header : ℕ
  headerSize : ℕ
  userArea : ℕ
  userareaSize : ℕ
  footer : ℕ
  id : ℕ
  used : ℤ
  magic : ℤ
  free : ℤ
  deriving DecidableEq, Repr

/-- The globals of `mm.c`, and the headers in the heap's memory by their address. -/
structure HeapState where
  kernelHeapInitialized : ℤ
  kernelHeapStart : ℕ
  kernelHeapEnd : ℕ
  gHeapPointer : ℕ
  gAvailableHeap : ℕ
  heapCount : ℕ
  heapList : ℕ → ℕ
  mmblockCount : ℕ
  mmblockList : ℕ → ℕ
  mmPrevPointer : ℕ
  mmblock : ℕ → MmBlock

/-- `__init_heap`: `0` when the heap is ready. -/
def initHeap (s : HeapState) : ℤ × HeapState :=
  let s := { s with
    kernelHeapInitialized := FALSE
    kernelHeapStart := Gramado.kernelHeapStart
    kernelHeapEnd := Gramado.kernelHeapEnd
    gHeapPointer := Gramado.kernelHeapStart
    gAvailableHeap := ulongSub Gramado.kernelHeapEnd Gramado.kernelHeapStart
    heapCount := 0 }
  if s.gHeapPointer = 0 ∨ s.gHeapPointer > s.kernelHeapEnd ∨ s.kernelHeapStart = 0 ∨
      s.kernelHeapEnd = 0 ∨ s.gAvailableHeap = 0 then
    (-1, s)
  else
    (0, { s with
      heapList := fun i => if i < heapCountMax then 0 else s.heapList i
      kernelHeapInitialized := TRUE })

/-- What a request of `size` bytes reserves as client area: a request for nothing gets 8. -/
def userAreaInBytes (size : UInt64) : ℕ := if size.toNat = 0 then 8 else size.toNat

/-- The header that a block at `base` gets. -/
def newMmBlock (base userArea id : ℕ) : MmBlock where
  header := base
  headerSize := sizeofMmblock
  userArea := ulongAdd base sizeofMmblock
  userareaSize := userArea
  footer := ulongAdd (ulongAdd base sizeofMmblock) userArea
  id := id
  used := TRUE
  magic := 1234
  free := FALSE

/-- `heapAllocateMemory`: the address of the client area, `0` when the request is refused. -/
def heapAllocateMemory (size : UInt64) (s : HeapState) : Except Fault (ℕ × HeapState) :=
  if s.gAvailableHeap = 0 then
    .ok (0, s)
  -- the header that also has to fit is not part of this comparison
  else if userAreaInBytes size ≥ s.gAvailableHeap then
    .ok (0, s)
  else if s.mmblockCount + 1 ≥ mmblockCountMax then
    .error (.panic "heapAllocateMemory: mmblockCount")
  else if s.gHeapPointer < kernelHeapStart ∨ s.gHeapPointer ≥ kernelHeapEnd then
    .error (.panic "heapAllocateMemory: Out of kernel heap")
  else if s.gHeapPointer = 0 then
    .ok (0, { s with mmblockCount := s.mmblockCount + 1 })
  else
    let current := newMmBlock s.gHeapPointer (userAreaInBytes size) (s.mmblockCount + 1)
    let total := ulongSub current.footer current.header
    .ok (current.userArea, { s with
      gAvailableHeap := ulongSub s.gAvailableHeap total
      mmPrevPointer := s.gHeapPointer
      gHeapPointer := current.footer
      mmblockCount := s.mmblockCount + 1
      mmblockList := Function.update s.mmblockList (s.mmblockCount + 1) s.gHeapPointer
      mmblock := Function.update s.mmblock s.gHeapPointer current })

/-- `heapFreeMemory`: the header in front of `ptr`, if it is one, becomes reusable. -/
def heapFreeMemory (ptr : UInt64) (s : HeapState) : HeapState :=
  if ptr = 0 then s
  else if ptr.toNat < kernelHeapStart ∨ ptr.toNat ≥ kernelHeapEnd then s
  else
    let base := ulongSub ptr.toNat sizeofMmblock
    let blockHeader := s.mmblock base
    if base = 0 then s
    else if blockHeader.used ≠ TRUE ∨ blockHeader.magic ≠ 1234 then s
    else { s with
      mmblock := Function.update s.mmblock base { blockHeader with used := TRUE, magic := 4321 } }

/-! ## What one call can do -/

lemma initHeap_spec (s : HeapState) :
    (initHeap s).1 = 0 ∧ (initHeap s).2.gHeapPointer = kernelHeapStart ∧
      (initHeap s).2.gAvailableHeap = kernelHeapEnd - kernelHeapStart := by
  have hsub : ulongSub kernelHeapEnd kernelHeapStart = kernelHeapEnd - kernelHeapStart := by decide
  simp only [initHeap, hsub]
  rw [if_neg (by decide)]
  exact ⟨rfl, rfl, rfl⟩

/-- **What an allocation that does not panic can do**: refuse and change nothing, or cut the block
off at the heap pointer and charge the header and the client area. -/
lemma heapAllocateMemory_cases {size : UInt64} {s s' : HeapState} {ptr : ℕ}
    (h : heapAllocateMemory size s = .ok (ptr, s')) :
    (ptr = 0 ∧ s' = s ∧ s.gAvailableHeap ≤ userAreaInBytes size) ∨
      (userAreaInBytes size < s.gAvailableHeap ∧
        kernelHeapStart ≤ s.gHeapPointer ∧ s.gHeapPointer < kernelHeapEnd ∧
        ptr = ulongAdd s.gHeapPointer sizeofMmblock ∧
        s'.gHeapPointer = ulongAdd ptr (userAreaInBytes size) ∧
        s'.gAvailableHeap
          = ulongSub s.gAvailableHeap (ulongSub s'.gHeapPointer s.gHeapPointer)) := by
  unfold heapAllocateMemory at h
  split_ifs at h with h0 hsize hcount hrange hnull
  · obtain ⟨rfl, rfl⟩ : 0 = ptr ∧ s = s' := by simpa using h
    exact Or.inl ⟨rfl, rfl, by omega⟩
  · obtain ⟨rfl, rfl⟩ : 0 = ptr ∧ s = s' := by simpa using h
    exact Or.inl ⟨rfl, rfl, hsize⟩
  · exact absurd hnull (by simp only [kernelHeapStart] at hrange; omega)
  · right
    simp only [newMmBlock, Except.ok.injEq, Prod.mk.injEq] at h
    obtain ⟨rfl, rfl⟩ := h
    exact ⟨by omega, by omega, by omega, rfl, rfl, rfl⟩

@[simp] lemma heapFreeMemory_gHeapPointer (ptr : UInt64) (s : HeapState) :
    (heapFreeMemory ptr s).gHeapPointer = s.gHeapPointer := by
  simp only [heapFreeMemory]
  split_ifs <;> rfl

@[simp] lemma heapFreeMemory_gAvailableHeap (ptr : UInt64) (s : HeapState) :
    (heapFreeMemory ptr s).gAvailableHeap = s.gAvailableHeap := by
  simp only [heapFreeMemory]
  split_ifs <;> rfl

end Gramado
