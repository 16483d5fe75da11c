import Gramado.Lib.Chain
import Gramado.Lib.Loop
import Gramado.Mm.PagedPool

/-!
# The first fit of the paged pool

`__firstSlotForAList` starts again with a `goto` behind every slot that is taken.  `slotSearchTurn` is
one turn of it with the C variables; the search comes to an end after at most 513 turns
(`firstSlotForAList_ends`), and what it comes to is the least run of free slots that is long enough
(`firstSlotForAList_isFirstFit`).

`allocPages` links the structures of the pages of the run in increasing order, if the store through
`pageConductor`, which nothing sets before it, leaves the pool alone.
-/

namespace Gramado

open Cells

/-! ## The search with its `goto` -/

/-- The variables of `__firstSlotForAList`. -/
structure SlotSearch where
  i : ℕ
  Base : ℕ
  Count : ℕ

/-- `pageAllocList[i]`. -/
def pageAllocListAt (slots : ℕ → Option PageD) (i : ℕ) : Except Fault (Option PageD) :=
  if i < PAGE_COUNT_MAX then .ok (slots i) else .error .badPointer

/-- One turn of the loop of `__firstSlotForAList`. -/
def slotSearchTurn (slots : ℕ → Option PageD) (size : ℤ) (v : SlotSearch) :
    Except Fault (Option ℕ ⊕ SlotSearch) :=
  if v.i < PAGE_COUNT_MAX then do
    let slot ← pageAllocListAt slots v.i
    if slot.isSome then
      -- `goto tryAgain`
      .ok (.inr ⟨v.Base + v.Count + 1, v.Base + v.Count + 1, 0⟩)
    else if (v.Count : ℤ) + 1 ≥ size then .ok (.inl (some v.Base))
    else .ok (.inr ⟨v.i + 1, v.Base, v.Count + 1⟩)
  else .ok (.inl none)

/-- The turns from a state of the loop on are those of `firstSlotFrom`. -/
lemma within_slotSearch (slots : ℕ → Option PageD) (size : ℤ) (left : ℕ) :
    ∀ base count : ℕ, base + count + left = PAGE_COUNT_MAX →
      Loop.within (slotSearchTurn slots size) (left + 1) ⟨base + count, base, count⟩
        = some (.ok (firstSlotFrom slots size base count left)) := by
  induction left with
  | zero =>
      intro base count hsum
      have hturn : slotSearchTurn slots size ⟨base + count, base, count⟩ = .ok (.inl none) :=
        if_neg (by simp only; omega)
      rw [Loop.within, hturn, firstSlotFrom]
  | succ left ih =>
      intro base count hsum
      have hlt : base + count < PAGE_COUNT_MAX := by omega
      rw [Loop.within, slotSearchTurn, if_pos hlt, pageAllocListAt, if_pos hlt, ok_bind, firstSlotFrom]
      split_ifs with hslot hsize
      · exact ih (base + count + 1) 0 (by omega)
      · rfl
      · exact ih base (count + 1) (by omega)

/-- **The search comes to an end**, and never looks behind the table. -/
lemma firstSlotForAList_ends (slots : ℕ → Option PageD) (size : ℤ) :
    Loop.within (slotSearchTurn slots size) (PAGE_COUNT_MAX + 1) ⟨0, 0, 0⟩
      = some (.ok (firstSlotForAList slots size)) :=
  within_slotSearch slots size PAGE_COUNT_MAX 0 0 (by omega)

/-! ## What is found -/

/-- A run of free slots behind the reserved one; a size below 1 counts as 1. -/
structure FreeRun (slots : ℕ → Option PageD) (size : ℤ) (base : ℕ) : Prop where
  pos : 0 < base
  le : (base : ℤ) + max 1 size ≤ PAGE_COUNT_MAX
  free : ∀ k : ℕ, base ≤ k → (k : ℤ) < base + max 1 size → slots k = none

/-- What a search has to come to. -/
structure IsFirstFit (slots : ℕ → Option PageD) (size : ℤ) (r : Option ℕ) : Prop where
  found : ∀ base, r = some base → IsLeast {b | FreeRun slots size b} base
  failed : r = none → ∀ b, ¬FreeRun slots size b

variable {slots : ℕ → Option PageD} {size : ℤ}

/-- **The first fit**: in a run of `count` free slots that is too short yet, with no long enough run in
front of it. -/
lemma firstSlotFrom_isFirstFit (h0 : slots 0 ≠ none) (left : ℕ) :
    ∀ base count : ℕ, base + count + left = PAGE_COUNT_MAX → (count : ℤ) < max 1 size →
      (∀ k, base ≤ k → k < base + count → slots k = none) →
      (∀ b, FreeRun slots size b → base ≤ b) →
      IsFirstFit slots size (firstSlotFrom slots size base count left) := by
  induction left with
  | zero =>
      intro base count hsum hcount _ hleast
      refine ⟨fun _ h => absurd h (by simp [firstSlotFrom]), fun _ b hb => ?_⟩
      have := hleast b hb
      have := hb.le
      omega
  | succ left ih =>
      intro base count hsum hcount hfree hleast
      rw [firstSlotFrom]
      split_ifs with hslot hsize
      · -- no run contains the slot that is taken
        refine ih (base + count + 1) 0 (by omega) (by simp) (fun k hlo hhi => by omega) ?_
        intro b hb
        by_contra hlt
        have := hleast b hb
        rw [hb.free (base + count) (by omega) (by push_cast; omega)] at hslot
        simp at hslot
      · have hself : slots (base + count) = none := by simpa using hslot
        have hrun : ∀ k, base ≤ k → k < base + count + 1 → slots k = none := by
          intro k hlo hhi
          rcases Nat.lt_succ_iff_lt_or_eq.1 hhi with hlt | rfl
          · exact hfree k hlo hlt
          · exact hself
        refine ⟨fun b hb => ?_, by simp⟩
        obtain rfl := Option.some.inj hb
        refine ⟨⟨?_, by omega, fun k hlo hhi => hrun k hlo (by omega)⟩, hleast⟩
        rcases Nat.eq_zero_or_pos base with rfl | hpos
        · exact absurd (hrun 0 le_rfl (by omega)) h0
        · exact hpos
      · refine ih base (count + 1) (by omega) (by push_cast; omega) ?_ hleast
        intro k hlo hhi
        rcases Nat.lt_succ_iff_lt_or_eq.1 hhi with hlt | rfl
        · exact hfree k hlo hlt
        · simpa using hslot

lemma firstSlotForAList_isFirstFit (slots : ℕ → Option PageD) (size : ℤ) (h0 : slots 0 ≠ none) :
    IsFirstFit slots size (firstSlotForAList slots size) :=
  firstSlotFrom_isFirstFit h0 PAGE_COUNT_MAX 0 0 (by omega) (by simp) (fun k _ hk => by omega)
    fun b _ => Nat.zero_le b

/-- A single page is looked for in the same place by `newPage`. -/
lemma freePageSlot_isFirstFit (h0 : slots 0 ≠ none) :
    IsFirstFit slots 1 (freePageSlot slots) := by
  constructor
  case failed =>
      intro hslot b hb
      have hle := hb.le
      have hnone := List.find?_eq_none.1 hslot b (List.mem_range.2 (by omega))
      simp [hb.free b le_rfl (by omega)] at hnone
  case found =>
      intro slot hslot
      obtain ⟨hlt, hfree⟩ := freePageSlot_spec hslot
      refine ⟨⟨?_, by omega, fun k hlo hhi => ?_⟩, fun b hb => ?_⟩
      · rcases Nat.eq_zero_or_pos slot with rfl | hpos
        · exact absurd hfree h0
        · exact hpos
      · obtain rfl : k = slot := by omega
        exact hfree
      · by_contra hlo
        obtain ⟨-, -, hbefore⟩ := List.find?_range_eq_some.1 hslot
        have htaken := hbefore b (by omega)
        simp [hb.free b le_rfl (by omega)] at htaken

/-- Two searches for the same run agree. -/
lemma IsFirstFit.unique {r r' : Option ℕ} (h : IsFirstFit slots size r) (h' : IsFirstFit slots size r') :
    r = r' := by
  cases r with
  | none =>
      cases r' with
      | none => rfl
      | some b => exact absurd (h'.found b rfl).1 (h.failed rfl b)
  | some b =>
      cases r' with
      | none => exact absurd (h.found b rfl).1 (h'.failed rfl b)
      | some b' => rw [(h.found b rfl).unique (h'.found b' rfl)]

/-! ## The list of the pages -/

/-- The structure of a page of a run of `n` pages, linked to the next one. -/
def linkedPage (pa : ℕ → ℕ) (base first n k : ℕ) : PageD :=
  { usedPage k (frameNumber (pa (pageAddress base k))) with
    next := if k + 1 < first + n then some (k + 1) else none }

lemma linkedPage_id (pa : ℕ → ℕ) (base first n k : ℕ) : (linkedPage pa base first n k).id = k := rfl

/-- The pages of a run have their structures, in a list in increasing order, and no other slot has
changed. -/
def LinksRun (pa : ℕ → ℕ) (base first n : ℕ) (slots slots' : ℕ → Option PageD) : Prop :=
  ∀ k, slots' k = if first ≤ k ∧ k < first + n then some (linkedPage pa base first n k) else slots k

/-- The structure that `next` points to. -/
def nextPage (slots : ℕ → Option PageD) (p : Option ℕ) : Option (Option ℕ) := (p.bind slots).map PageD.next

/-- From `p` on, `next` leads over the structures of the slots of `L` to a null pointer. -/
def PageList (slots : ℕ → Option PageD) (p : Option ℕ) (L : List ℕ) : Prop :=
  Chain (nextPage slots) (· = none) p (L.map some)

variable {pa : ℕ → ℕ} {base first n : ℕ} {slots' : ℕ → Option PageD}

/-- **The list is the run.** -/
lemma LinksRun.pageList (h : LinksRun pa base first n slots slots') {m : ℕ} (hm : 1 ≤ m) (hn : m ≤ n) :
    PageList slots' (some (first + n - m)) (List.range' (first + n - m) m) := by
  induction m with
  | zero => omega
  | succ m ih =>
      have hslot : slots' (first + n - (m + 1)) = some (linkedPage pa base first n (first + n - (m + 1))) := by
        rw [h, if_pos (by omega)]
      refine ⟨rfl, by simp, _, by rw [nextPage, Option.bind_some, hslot, Option.map_some], ?_⟩
      have hnext : first + n - (m + 1) + 1 = first + n - m := by omega
      rcases Nat.eq_zero_or_pos m with rfl | hpos
      · simp [linkedPage, show ¬first + n - (0 + 1) + 1 < first + n by omega, Chain]
      · rw [linkedPage, hnext, if_pos (by omega)]
        exact ih hpos (by omega)

/-- The conductor of `allocPages` after `count` pages. -/
def conductor (first count : ℕ) : Option ℕ := if count = 0 then none else some (first + count - 1)

/-- **One more page**: it gets its structure, and the one before it is linked to it. -/
lemma LinksRun.link {count : ℕ} {stray : StrayStore} {s s₀ : PagedPool} (heap : HeapState)
    (hstray : ∀ s, stray s = .ok s) (h : LinksRun pa base first count s₀.slots s.slots) :
    ∃ s', linkPage stray (conductor first count) (first + count)
        { s with
          heap := heap
          slots := Function.update s.slots (first + count)
            (some (usedPage (first + count)
              (frameNumber (pa (pageAddress base ((first + count : ℕ) : ℤ)))))) }
        = .ok s' ∧ LinksRun pa base first (count + 1) s₀.slots s'.slots := by
  rcases Nat.eq_zero_or_pos count with rfl | hpos
  · refine ⟨_, hstray _, fun k => ?_⟩
    simp only [Function.update_apply]
    split_ifs with hk hrun
    · subst hk
      simp [linkedPage]
      rfl
    · omega
    · omega
    · rw [h, if_neg (by omega)]
  · refine ⟨_, by rw [conductor, if_neg (by omega)]; rfl, fun k => ?_⟩
    simp only [Function.update_apply]
    have hlast : first + count - 1 ≠ first + count := by omega
    simp only [hlast, if_false]
    rcases Nat.lt_trichotomy k (first + count) with hlt | rfl | hgt
    · by_cases hk : k = first + count - 1
      · rw [if_pos hk, h, if_pos (by omega), if_pos (by omega)]
        subst hk
        simp only [linkedPage, Option.map_some]
        rw [if_pos (by omega), show first + count - 1 + 1 = first + count by omega]
      · rw [if_neg hk, if_neg (by omega), h]
        by_cases hin : first ≤ k
        · rw [if_pos (by omega), if_pos (by omega), linkedPage, linkedPage, if_pos (by omega),
            if_pos (by omega)]
        · rw [if_neg (by omega), if_neg (by omega)]
    · rw [if_neg (by omega), if_pos rfl, if_pos (by omega), linkedPage, if_neg (by omega)]
      rfl
    · rw [if_neg (by omega), if_neg (by omega), h, if_neg (by omega), if_neg (by omega)]

/-! ## The call -/

/-- The message behind the loop of `allocPages`. -/
def allocPagesFail : Fault := .panic "allocPages: fail\n"

/-- The call returns with `Q`, or the system is halted before it for want of a size, a run or memory. -/
def Allocates (Q : ℕ × PagedPool → Prop) : Except Fault (ℕ × PagedPool) → Prop
  | .ok r => Q r
  | .error e => e ≠ .badPointer ∧ e ≠ allocPagesFail

lemma heapAllocateMemory_error {size : UInt64} {heap : HeapState} {e : Fault}
    (h : heapAllocateMemory size heap = .error e) : e ≠ .badPointer ∧ e ≠ allocPagesFail := by
  unfold heapAllocateMemory at h
  split_ifs at h <;> cases h <;> simp [allocPagesFail]

/-- **The loop in the run that was found** links the pages it goes over. -/
lemma allocSlots_allocates (pa : ℕ → ℕ) (base : ℕ) (s₀ : PagedPool) {stray : StrayStore}
    (hstray : ∀ s, stray s = .ok s) (hle : first + n ≤ PAGE_COUNT_MAX) (hfree : ∀ k, first ≤ k → k < first + n → s₀.slots k = none)
    (left : ℕ) : ∀ (count : ℕ) (s : PagedPool), left + count = n + 1 → count < n →
      LinksRun pa base first count s₀.slots s.slots →
      Allocates (fun r => r.1 = pageAddress base first ∧ LinksRun pa base first n s₀.slots r.2.slots)
        (allocSlots base first n pa stray left (first + count) count (conductor first count) s) := by
  induction left with
  | zero =>
      intro count s hleft hcount
      omega
  | succ left ih =>
      intro count s hleft hcount hrun
      have hnone : s.slots (first + count) = none := by
        rw [hrun, if_neg (by omega)]
        exact hfree _ (by omega) (by omega)
      rw [allocSlots, if_neg (by omega), if_neg (by simp [hnone])]
      cases hheap : heapAllocateMemory sizeofPageD s.heap with
      | error e => exact heapAllocateMemory_error hheap
      | ok r =>
          obtain ⟨p, heap⟩ := r
          rw [ok_bind]
          dsimp only
          obtain ⟨s', hlink, hrun'⟩ := LinksRun.link heap hstray hrun
          by_cases hp : p = 0
          · rw [if_pos hp]
            exact ⟨by simp, by simp [allocPagesFail]⟩
          · rw [if_neg hp, hlink, ok_bind]
            split_ifs with hlast
            · obtain rfl : count + 1 = n := by omega
              have hfirst := hrun' first
              rw [if_pos (by omega)] at hfirst
              rw [hfirst]
              refine ⟨?_, hrun'⟩
              rw [linkedPage_id]
            · exact ih (count + 1) s' (by omega) (by omega) hrun'

/-- A page of its own is a run of one. -/
lemma newPage_allocates {s : PagedPool} (h0 : s.slots 0 ≠ none) :
    Allocates (fun r => ∃ first, firstSlotForAList s.slots 1 = some first ∧
        r.1 = pageAddress s.gPagedpoolVa first ∧ LinksRun pa s.gPagedpoolVa first 1 s.slots r.2.slots)
      (newPage pa s) := by
  have hpage : IsFirstFit s.slots 1 (freePageSlot s.slots) := freePageSlot_isFirstFit h0
  have hsame : firstSlotForAList s.slots 1 = freePageSlot s.slots :=
    (firstSlotForAList_isFirstFit s.slots 1 h0).unique hpage
  unfold newPage
  rw [hsame]
  split_ifs
  · exact ⟨by simp, by simp [allocPagesFail]⟩
  · cases freePageSlot s.slots with
    | none => exact ⟨by simp, by simp [allocPagesFail]⟩
    | some slot =>
        dsimp only
        cases hheap : heapAllocateMemory sizeofPageD s.heap with
        | error e => exact heapAllocateMemory_error hheap
        | ok r =>
            obtain ⟨New, heap⟩ := r
            rw [ok_bind]
            dsimp only
            by_cases hp : New = 0
            · rw [if_pos hp]
              exact ⟨by simp, by simp [allocPagesFail]⟩
            rw [if_neg hp]
            generalize hva : pageAddress s.gPagedpoolVa slot = va
            split_ifs
            · exact ⟨by simp, by simp [allocPagesFail]⟩
            · exact ⟨by simp, by simp [allocPagesFail]⟩
            refine ⟨slot, rfl, hva.symm, fun k => ?_⟩
            simp only [Function.update_apply]
            by_cases hk : k = slot
            · rw [if_pos hk, if_pos (by omega), hk, linkedPage, if_neg (by omega), hva]
              rfl
            · rw [if_neg hk, if_neg (by omega)]

/-- **What `allocPages` is for**: it takes the least run, and links the structures of its pages. -/
def LinksFirstFit (s : PagedPool) (size : ℤ) (pa : ℕ → ℕ) (stray : StrayStore) : Prop :=
  Allocates (fun r => ∃ first, FreeRun s.slots size first ∧ (∀ b, FreeRun s.slots size b → first ≤ b) ∧
      r.1 = pageAddress s.gPagedpoolVa first ∧
      LinksRun pa s.gPagedpoolVa first size.toNat s.slots r.2.slots ∧
      PageList r.2.slots (some first) (List.range' first size.toNat))
    (allocPages size pa stray s)

lemma exists_linksRun {s : PagedPool} (h0 : s.slots 0 ≠ none) (hsize : 1 ≤ size)
    {r : ℕ × PagedPool} (hfirst : firstSlotForAList s.slots size = some first)
    (hva : r.1 = pageAddress s.gPagedpoolVa first)
    (hrun : LinksRun pa s.gPagedpoolVa first size.toNat s.slots r.2.slots) :
    ∃ first, FreeRun s.slots size first ∧ (∀ b, FreeRun s.slots size b → first ≤ b) ∧
      r.1 = pageAddress s.gPagedpoolVa first ∧
      LinksRun pa s.gPagedpoolVa first size.toNat s.slots r.2.slots ∧
      PageList r.2.slots (some first) (List.range' first size.toNat) := by
  have hfit := firstSlotForAList_isFirstFit s.slots size h0
  have hleast := hfit.found first hfirst
  have hlist := hrun.pageList (show 1 ≤ size.toNat by omega) le_rfl
  rw [Nat.add_sub_cancel] at hlist
  exact ⟨first, hleast.1, fun b hb => hleast.2 hb, hva, hrun, hlist⟩

lemma Allocates.imp {Q Q' : ℕ × PagedPool → Prop} {r : Except Fault (ℕ × PagedPool)} (h : Allocates Q r)
    (hQ : ∀ r, Q r → Q' r) : Allocates Q' r := by
  cases r with
  | ok r => exact hQ r h
  | error e => exact h

/-- The call comes to the store through the unset `pageConductor`: it asks for more than one page, and
gets a run and memory for the first structure. -/
def StoresUnset (s : PagedPool) (size : ℤ) : Prop :=
  2 ≤ size ∧ size < PAGE_COUNT_MAX ∧ (∃ first, FreeRun s.slots size first) ∧
    ∃ p heap, heapAllocateMemory sizeofPageD s.heap = .ok (p, heap) ∧ p ≠ 0

/-- **The list is right** if the call does not come to the store, or the store does no harm. -/
lemma linksFirstFit {s : PagedPool} (h0 : s.slots 0 ≠ none) (stray : StrayStore)
    (hstray : StoresUnset s size → ∀ s, stray s = .ok s) : LinksFirstFit s size pa stray := by
  unfold LinksFirstFit allocPages
  split_ifs with hpos hone hmax
  · exact ⟨by simp, by simp [allocPagesFail]⟩
  · subst hone
    exact (newPage_allocates h0).imp fun r ⟨first, hfirst, hva, hrun⟩ =>
      exists_linksRun h0 le_rfl hfirst hva hrun
  · exact ⟨by simp, by simp [allocPagesFail]⟩
  · cases hfirst : firstSlotForAList s.slots size with
    | none => exact ⟨by simp, by simp [allocPagesFail]⟩
    | some first =>
        have hfree := ((firstSlotForAList_isFirstFit s.slots size h0).found first hfirst).1
        have hle := hfree.le
        obtain ⟨n, rfl⟩ : ∃ n : ℕ, size = n := ⟨size.toNat, by omega⟩
        by_cases hstores : StoresUnset s n
        · have hcall := allocSlots_allocates pa s.gPagedpoolVa s (hstray hstores)
            (show first + n ≤ PAGE_COUNT_MAX by omega)
            (fun k hlo hhi => hfree.free k hlo (by omega)) (n + 1) 0 s rfl (by omega)
            (fun k => (if_neg (by omega)).symm)
          exact hcall.imp fun r ⟨hva, hrun⟩ => exists_linksRun h0 (by omega) hfirst hva hrun
        · -- there is no memory for the first structure
          have hnone : s.slots first = none := hfree.free first le_rfl (by omega)
          dsimp only
          rw [allocSlots, if_neg (by omega), if_neg (by simp [hnone])]
          cases hheap : heapAllocateMemory sizeofPageD s.heap with
          | error e => exact heapAllocateMemory_error hheap
          | ok r =>
              obtain ⟨p, heap⟩ := r
              rw [ok_bind]
              dsimp only
              by_cases hp : p = 0
              · rw [if_pos hp]
                exact ⟨by simp, by simp [allocPagesFail]⟩
              · exact absurd ⟨by omega, by omega, ⟨first, hfree⟩, p, heap, hheap, hp⟩ hstores

/-- Where the store comes, a pointer to an unmapped page ends the call in a page fault. -/
lemma not_linksFirstFit {s : PagedPool} (h0 : s.slots 0 ≠ none) (h : StoresUnset s size) :
    ¬LinksFirstFit s size pa fun _ => .error .badPointer := by
  obtain ⟨hlo, hhi, ⟨b, hb⟩, p, heap, hheap, hp⟩ := h
  intro hlinks
  have hfit := firstSlotForAList_isFirstFit s.slots size h0
  cases hfirst : firstSlotForAList s.slots size with
  | none => exact hfit.failed hfirst b hb
  | some first =>
      have hrun := (hfit.found first hfirst).1
      have hnone : s.slots first = none := hrun.free first le_rfl (by omega)
      have hle := hrun.le
      have hcall : allocPages size pa (fun _ => .error .badPointer) s = .error .badPointer := by
        unfold allocPages
        rw [if_neg (by omega), if_neg (by omega), if_neg (by omega), hfirst]
        dsimp only
        rw [allocSlots, if_neg (by omega), if_neg (by simp [hnone]), hheap, ok_bind]
        dsimp only
        rw [if_neg hp, linkPage, error_bind]
      rw [LinksFirstFit, hcall] at hlinks
      exact hlinks.1 rfl

/-- The search, and the call with whatever the unset pointer holds. -/
def FirstFit (s : PagedPool) (size : ℤ) (pa : ℕ → ℕ) : Prop :=
  (∃ r, Loop.Ends (slotSearchTurn s.slots size) ⟨0, 0, 0⟩ (.ok r) ∧ IsFirstFit s.slots size r) ∧
    ∀ stray, LinksFirstFit s size pa stray

/-- **The first fit, exactly**: with slot 0 taken the search is right for every table and every size,
and the list is right whatever `pageConductor` holds if and only if the call does not come to the
store through it; it is right for every store that does no harm. -/
theorem firstFit_iff (s : PagedPool) (h0 : s.slots 0 ≠ none) (size : ℤ) (pa : ℕ → ℕ) :
    (FirstFit s size pa ↔ ¬StoresUnset s size) ∧
      ∀ stray : StrayStore, (∀ s, stray s = .ok s) → LinksFirstFit s size pa stray := by
  refine ⟨⟨fun h hstores => not_linksFirstFit h0 hstores (h.2 _), fun hno => ⟨?_, fun stray => ?_⟩⟩, ?_⟩
  · exact ⟨_, ⟨_, firstSlotForAList_ends s.slots size⟩, firstSlotForAList_isFirstFit s.slots size h0⟩
  · exact linksFirstFit h0 stray fun hstores => absurd hstores hno
  · intro stray hstray
    exact linksFirstFit h0 stray fun _ => hstray

lemma bootPool_slots : bootPool.pool.slots = Function.update (fun _ => none) 0
    (some { usedPage 0 0 with refCount := 0, free := TRUE }) :=
  rfl

theorem firstFit_iff_onePage :
    FirstFit bootPool.pool 1 (fun va => va) ∧
      LinksFirstFit bootPool.pool 3 (fun va => va) .ok := by
  have h0 : bootPool.pool.slots 0 ≠ none := by simp [bootPool_slots]
  refine ⟨(firstFit_iff _ h0 1 _).1.2 ?_, (firstFit_iff _ h0 3 _).2 _ fun s => rfl⟩
  rintro ⟨hlo, -⟩
  omega

/-- Two pages, with a pointer to an unmapped page in the unset variable. -/
theorem firstFit_fails :
    ¬∀ (s : PagedPool) (size : ℤ) (pa : ℕ → ℕ), s.slots 0 ≠ none → 1 ≤ size → FirstFit s size pa := by
  intro h
  have h0 : bootPool.pool.slots 0 ≠ none := by simp [bootPool_slots]
  refine not_linksFirstFit h0 ?_ ((h bootPool.pool 2 (fun va => va) h0 (by omega)).2 _)
  refine ⟨le_rfl, by decide, ⟨1, by decide, by decide, ?_⟩, _, _, rfl, by decide⟩
  intro k hlo hhi
  rw [bootPool_slots, Function.update_of_ne (by omega)]

end Gramado
