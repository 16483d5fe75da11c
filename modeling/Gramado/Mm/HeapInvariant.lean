import Gramado.Lib.Run
import Gramado.Lib.Extent
import Gramado.Mm.Heap

/-!
# What the kernel heap keeps over a whole run

After `initHeap`, any sequence of `heapAllocateMemory` and `heapFreeMemory` calls is followed.
`HeapTrace` remembers, besides the heap itself, every block that was returned (`granted`) and those
of them not freed since (`live`).

* `HeapSafe` — what a client relies on: whole blocks inside the range, live blocks apart, and the
  pointer and the remaining size adding up to the end of the heap.
* `AllocFits` — the condition on one call.  The code compares the client area alone with what is
  left, so a request for which the area fits and area and header together do not is served beyond
  the end of the heap.
* `HeapStacked` — the invariant behind `HeapSafe`: the blocks lie on top of each other below
  `g_heap_pointer`.

`heapSafe_iff_allocFits` says that the second decides the first.
-/

namespace Gramado

open StepRun Extent

/-- A block that was returned: the client's address and the size it asked for. -/
structure Grant where
  ptr : ℕ
  size : UInt64
  deriving DecidableEq, Repr

/-- Header and client area of a returned block. -/
def Grant.extent (g : Grant) : Extent ℕ :=
  ⟨g.ptr - sizeofMmblock, g.ptr + userAreaInBytes g.size⟩

/-- The heap, the blocks returned so far and those of them not freed, the newest first. -/
structure HeapTrace where
  heap : HeapState
  granted : List Grant
  live : List Grant

/-- A call of the heap's interface. -/
inductive HeapCall where
  | alloc (size : UInt64)
  | free (ptr : UInt64)
  deriving DecidableEq, Repr

/-- One call, and what it does to the lists of blocks. -/
def heapStep (t : HeapTrace) : HeapCall → Except Fault HeapTrace
  | .alloc size => do
      let (ptr, heap) ← heapAllocateMemory size t.heap
      if ptr = 0 then
        return { t with heap := heap }
      else
        return ⟨heap, ⟨ptr, size⟩ :: t.granted, ⟨ptr, size⟩ :: t.live⟩
  | .free ptr =>
      .ok { t with
        heap := heapFreeMemory ptr t.heap
        live := t.live.filter (fun g => g.ptr ≠ ptr.toNat) }

/-- The heap right after `initHeap`, before the first call. -/
def bootHeap (s : HeapState) : HeapTrace := ⟨(initHeap s).2, [], []⟩

/-- **What clients of the heap rely on.** -/
structure HeapSafe (t : HeapTrace) : Prop where
  /-- Every returned block lies in the heap with the whole size that was asked for. -/
  inside : ∀ g ∈ t.granted, kernelHeapStart ≤ g.ptr ∧ g.ptr + g.size.toNat ≤ kernelHeapEnd
  /-- Two live blocks share no byte, headers included. -/
  apart : t.live.Pairwise fun g h => Disjoint g.extent.positions h.extent.positions
  /-- Pointer and remaining size add up to the end of the heap. -/
  total : t.heap.gHeapPointer + t.heap.gAvailableHeap = kernelHeapEnd
  /-- The remaining size has not wrapped below zero. -/
  noWrap : t.heap.gAvailableHeap ≤ kernelHeapEnd - kernelHeapStart

/-- The call is not an allocation whose client area fits in what is left while the header and the
client area together do not. -/
def AllocFits (t : HeapTrace) : HeapCall → Prop
  | .alloc size =>
      t.heap.gAvailableHeap ≤ userAreaInBytes size ∨
        sizeofMmblock + userAreaInBytes size ≤ t.heap.gAvailableHeap
  | .free _ => True

/-- The invariant behind `HeapSafe`: the returned blocks are cut off one after the other between
the start of the heap and `g_heap_pointer`. -/
structure HeapStacked (t : HeapTrace) : Prop where
  stacked : Stacked kernelHeapStart (t.granted.map Grant.extent) t.heap.gHeapPointer
  ptrs : ∀ g ∈ t.granted, kernelHeapStart + sizeofMmblock ≤ g.ptr
  live : t.live.Sublist t.granted
  total : t.heap.gHeapPointer + t.heap.gAvailableHeap = kernelHeapEnd

/-! ## The invariant gives safety -/

lemma size_le_userAreaInBytes (size : UInt64) : size.toNat ≤ userAreaInBytes size := by
  unfold userAreaInBytes
  split_ifs <;> omega

lemma userAreaInBytes_pos (size : UInt64) : 0 < userAreaInBytes size := by
  unfold userAreaInBytes
  split_ifs <;> omega

lemma HeapStacked.start_le {t : HeapTrace} (h : HeapStacked t) :
    kernelHeapStart ≤ t.heap.gHeapPointer :=
  h.stacked.le_top

lemma HeapStacked.safe {t : HeapTrace} (h : HeapStacked t) : HeapSafe t where
  inside g hg := by
    obtain ⟨-, -, hstop⟩ := h.stacked.bounds (List.mem_map_of_mem hg)
    have hptr := h.ptrs g hg
    have hsize := size_le_userAreaInBytes g.size
    have htotal := h.total
    simp only [Grant.extent] at hstop
    constructor <;> omega
  apart := by
    have hlive := h.stacked.sublist (h.live.map Grant.extent)
    have hdisjoint := hlive.pairwise_disjoint
    rwa [List.pairwise_map] at hdisjoint
  total := h.total
  noWrap := by
    have hstart := h.start_le
    have htotal := h.total
    omega

/-! ## One call -/

/-- **What one call can do to the trace.** -/
lemma heapStep_cases {t t' : HeapTrace} {c : HeapCall} (h : heapStep t c = .ok t') :
    (t'.granted = t.granted ∧ t'.live.Sublist t.live ∧
        t'.heap.gHeapPointer = t.heap.gHeapPointer ∧
        t'.heap.gAvailableHeap = t.heap.gAvailableHeap ∧ AllocFits t c) ∨
      ∃ size ptr, c = .alloc size ∧
        userAreaInBytes size < t.heap.gAvailableHeap ∧
        kernelHeapStart ≤ t.heap.gHeapPointer ∧ t.heap.gHeapPointer < kernelHeapEnd ∧
        ptr = ulongAdd t.heap.gHeapPointer sizeofMmblock ∧
        t'.granted = ⟨ptr, size⟩ :: t.granted ∧ t'.live = ⟨ptr, size⟩ :: t.live ∧
        t'.heap.gHeapPointer = ulongAdd ptr (userAreaInBytes size) ∧
        t'.heap.gAvailableHeap
          = ulongSub t.heap.gAvailableHeap (ulongSub t'.heap.gHeapPointer t.heap.gHeapPointer) := by
  cases c with
  | free ptr =>
      left
      obtain rfl : _ = t' := by simpa [heapStep] using h
      exact ⟨rfl, List.filter_sublist, by simp, by simp, trivial⟩
  | alloc size =>
      simp only [heapStep] at h
      cases halloc : heapAllocateMemory size t.heap with
      | error f => rw [halloc] at h; exact absurd h (by simp [bind, Except.bind])
      | ok r =>
          obtain ⟨ptr, heap⟩ := r
          rw [halloc] at h
          simp only [bind, Except.bind, pure, Except.pure] at h
          rcases heapAllocateMemory_cases halloc with
            ⟨rfl, rfl, hrefused⟩ | ⟨harea, hlo, hhi, hptr, hpointer, havail⟩
          · left
            obtain rfl : t = t' := by simpa using h
            exact ⟨rfl, List.Sublist.refl _, rfl, rfl, Or.inl hrefused⟩
          · right
            have hne : ptr ≠ 0 := by
              rw [hptr, ulongAdd_of_lt] <;>
                simp only [kernelHeapStart, kernelHeapEnd, sizeofMmblock] at * <;> omega
            rw [if_neg hne] at h
            obtain rfl : _ = t' := by simpa using h
            exact ⟨size, ptr, rfl, harea, hlo, hhi, hptr, rfl, rfl, hpointer, havail⟩

/-- A call that meets `AllocFits` keeps the invariant: the new block lies on top of the others. -/
lemma HeapStacked.step {t t' : HeapTrace} {c : HeapCall} (h : HeapStacked t) (hfits : AllocFits t c)
    (hstep : heapStep t c = .ok t') : HeapStacked t' := by
  rcases heapStep_cases hstep with ⟨hgranted, hlive, hpointer, havail, -⟩ |
    ⟨size, ptr, rfl, harea, hlo, hhi, hptr, hgranted, hlive, hpointer, havail⟩
  · exact ⟨by rw [hgranted, hpointer]; exact h.stacked, by rw [hgranted]; exact h.ptrs,
      by rw [hgranted]; exact hlive.trans h.live, by rw [hpointer, havail]; exact h.total⟩
  · have htotal := h.total
    have hfit : sizeofMmblock + userAreaInBytes size ≤ t.heap.gAvailableHeap := by
      rcases hfits with hfits | hfits
      · omega
      · exact hfits
    have hend : kernelHeapEnd < 2 ^ 64 := by decide
    rw [ulongAdd_of_lt (by omega)] at hptr
    rw [ulongAdd_of_lt (by omega)] at hpointer
    have hsize : ulongSub t'.heap.gHeapPointer t.heap.gHeapPointer
        = sizeofMmblock + userAreaInBytes size := by
      rw [ulongSub_of_le (by omega) (by omega)]
      omega
    rw [hsize, ulongSub_of_le (by omega) (by omega)] at havail
    have hextent : Grant.extent ⟨ptr, size⟩ = ⟨t.heap.gHeapPointer, t'.heap.gHeapPointer⟩ := by
      simp only [Grant.extent, hpointer, hptr, Nat.add_sub_cancel]
    refine ⟨?_, ?_, by rw [hgranted, hlive]; exact h.live.cons_cons _, by omega⟩
    · rw [hgranted, List.map_cons, hextent]
      exact h.stacked.push (by omega)
    · rw [hgranted]
      intro g hg
      rcases List.mem_cons.1 hg with rfl | hg
      · simp only
        omega
      · exact h.ptrs g hg

/-- A call that does not meet `AllocFits` leaves a pointer and a size that no longer add up: the
remaining size has wrapped. -/
lemma allocFits_of_total {t t' : HeapTrace} {c : HeapCall}
    (htotal : t.heap.gHeapPointer + t.heap.gAvailableHeap = kernelHeapEnd)
    (htotal' : t'.heap.gHeapPointer + t'.heap.gAvailableHeap = kernelHeapEnd)
    (hstep : heapStep t c = .ok t') : AllocFits t c := by
  rcases heapStep_cases hstep with ⟨-, -, -, -, hfits⟩ |
    ⟨size, ptr, rfl, harea, hlo, hhi, hptr, -, -, hpointer, havail⟩
  · exact hfits
  · right
    by_contra hshort
    have hend : kernelHeapEnd < 2 ^ 60 := by decide
    have hheader : sizeofMmblock < 2 ^ 60 := by decide
    rw [ulongAdd_of_lt (by omega)] at hptr
    rw [ulongAdd_of_lt (by omega)] at hpointer
    have hsize : ulongSub t'.heap.gHeapPointer t.heap.gHeapPointer
        = sizeofMmblock + userAreaInBytes size := by
      rw [ulongSub_of_le (by omega) (by omega)]
      omega
    rw [hsize, ulongSub_of_lt (by omega) (by omega)] at havail
    omega

/-! ## Whole runs -/

lemma bootHeap_stacked (s : HeapState) : HeapStacked (bootHeap s) := by
  obtain ⟨-, hpointer, havail⟩ := initHeap_spec s
  refine ⟨?_, by simp [bootHeap], List.Sublist.refl _, ?_⟩
  · simp only [bootHeap, List.map_nil, hpointer]
    exact le_refl kernelHeapStart
  · simp only [bootHeap, hpointer, havail]
    decide

/-- **The heap is safe in every state of a run exactly when every allocation of the run fits with
its header**, whatever the globals held before `initHeap`. -/
theorem heapSafe_iff_allocFits (s : HeapState) (calls : List HeapCall) :
    Along heapStep HeapSafe (bootHeap s) calls ↔ Meets heapStep AllocFits (bootHeap s) calls :=
  along_iff_meets HeapStacked (fun _ h => h.safe)
    (fun _ _ _ h hstep => ⟨fun h' => allocFits_of_total h.total h'.total hstep,
      fun hfits => (h.step hfits hstep).safe⟩)
    (fun _ _ _ h hfits hstep => h.step hfits hstep) calls (bootHeap s) (bootHeap_stacked s)

/-- A heap whose globals are all zero, as the kernel image has them before `initHeap`. -/
def zeroHeap : HeapState where
  kernelHeapInitialized := 0
  kernelHeapStart := 0
  kernelHeapEnd := 0
  gHeapPointer := 0
  gAvailableHeap := 0
  heapCount := 0
  heapList := fun _ => 0
  mmblockCount := 0
  mmblockList := fun _ => 0
  mmPrevPointer := 0
  mmblock := fun _ => ⟨0, 0, 0, 0, 0, 0, 0, 0, 0⟩

/-- On the fresh heap a request for a byte less than the whole heap is served: the block ends 71
bytes beyond the heap, and the remaining size wraps. -/
theorem heap_overrun :
    ¬ Along heapStep HeapSafe (bootHeap zeroHeap) [.alloc 0xCFFFF] ∧
      ∃ t, runs heapStep (bootHeap zeroHeap) [.alloc 0xCFFFF] = .ok t ∧
        t.granted = [⟨kernelHeapStart + sizeofMmblock, 0xCFFFF⟩] ∧
        kernelHeapStart + sizeofMmblock + 0xCFFFF = kernelHeapEnd + 71 ∧
        t.heap.gAvailableHeap = 2 ^ 64 - 71 := by
  refine ⟨fun h => ?_, _, rfl, rfl, rfl, by decide⟩
  exact absurd (h.2 _ rfl).noWrap (by decide)

end Gramado
