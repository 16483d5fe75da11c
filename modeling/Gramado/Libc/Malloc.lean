import Mathlib
import Gramado.Core.CTypes

/-!
# The allocators of the ring 3 library

`malloc`, `calloc` and `realloc` of `libc/stdlib.c`, with `memset` and `bcopy` of `libc/string.c`.
`stddef.h` declares `size_t` as an `int`, so every size is one.  The allocator under them, `shAlloc`, asks
the kernel; a `SharedAllocator` is any that hands out blocks of its own.

* `malloc_exact` — a block of `malloc` has the bytes that were asked for.
* `calloc_exact_iff` — one of `calloc` has, as long as the product does not come round to a small number.
* `realloc_exact_iff` — `realloc` copies as many bytes as the new block has, whatever the old one had.
-/

namespace Gramado.Libc

/-! ## The address space -/

/-- A `size_t` of this library. -/
abbrev SizeT := {n : ℤ // -2 ^ 31 ≤ n ∧ n < 2 ^ 31}

/-- A number as a `size_t`. -/
def SizeT.ofInt (n : ℤ) : SizeT := ⟨toInt32 n, by
  have hlo := Int.le_bmod (x := n) (show 0 < 2 ^ 32 by norm_num)
  have hhi := Int.bmod_lt (x := n) (show 0 < 2 ^ 32 by norm_num)
  norm_num at hlo hhi
  exact ⟨hlo, hhi⟩⟩

/-- A block of memory. -/
structure Block where
  start : ℕ
  length : ℕ

/-- Two blocks have no byte in common. -/
def Block.Apart (b b' : Block) : Prop :=
  b.start + b.length ≤ b'.start ∨ b'.start + b'.length ≤ b.start

/-- The memory of a process, the blocks it was given, and the addresses it read and wrote, the newest
first. -/
structure UserSpace where
  cell : ℕ → UInt8
  blocks : List Block
  reads : List ℕ
  writes : List ℕ

/-- `*p`. -/
def UserSpace.load (p : ℕ) (s : UserSpace) : UInt8 × UserSpace :=
  (s.cell p, { s with reads := p :: s.reads })

/-- `*p = value`. -/
def UserSpace.store (p : ℕ) (value : UInt8) (s : UserSpace) : UserSpace :=
  { s with cell := Function.update s.cell p value, writes := p :: s.writes }

/-- An allocator in the kernel: `shAlloc(n)` is `NULL`, or a block of `n` bytes of its own. -/
structure SharedAllocator where
  shAlloc : SizeT → UserSpace → ℕ × UserSpace
  null : ∀ n s, (shAlloc n s).1 = 0 → (shAlloc n s).2 = s
  block : ∀ n s, (shAlloc n s).1 ≠ 0 →
    (shAlloc n s).2.blocks = ⟨(shAlloc n s).1, n.1.toNat⟩ :: s.blocks
  apart : ∀ n s, (shAlloc n s).1 ≠ 0 → ∀ b ∈ s.blocks, Block.Apart ⟨(shAlloc n s).1, n.1.toNat⟩ b
  outside : ∀ n s a, a < (shAlloc n s).1 ∨ (shAlloc n s).1 + n.1.toNat ≤ a →
    (shAlloc n s).2.cell a = s.cell a
  reads : ∀ n s, (shAlloc n s).2.reads = s.reads
  writes : ∀ n s, (shAlloc n s).2.writes = s.writes

/-! ## The functions -/

/-- The loop of `memset`. -/
def memsetLoop (value : UInt8) : ℕ → ℕ → UserSpace → UserSpace
  | 0, _, s => s
  | left + 1, temp, s => memsetLoop value left (temp + 1) (s.store temp value)

/-- `memset`. -/
def memset (ptr : ℕ) (value : UInt8) (size : SizeT) (s : UserSpace) : UserSpace :=
  if ptr ≠ 0 ∧ size.1 > 0 then memsetLoop value size.1.toNat ptr s else s

/-- The loop of `bcopy`. -/
def bcopyLoop : ℕ → ℕ → ℕ → UserSpace → UserSpace
  | 0, _, _, s => s
  | left + 1, fromPtr, toPtr, s =>
      let (value, s) := s.load fromPtr
      bcopyLoop left (fromPtr + 1) (toPtr + 1) (s.store toPtr value)

/-- `bcopy`: `while (len--)`, which a negative `len` takes the long way to 0. -/
def bcopy (fromPtr toPtr : ℕ) (len : SizeT) (s : UserSpace) : UserSpace :=
  bcopyLoop (len.1 % 2 ^ 32).toNat fromPtr toPtr s

variable (A : SharedAllocator)

/-- `malloc`. -/
def malloc (size : SizeT) (s : UserSpace) : ℕ × UserSpace :=
  let newSize := size.1 % 2 ^ 32
  if size.1 < 0 then (0, s)
  else
    let newSize := if size.1 = 0 then 1 else newSize
    A.shAlloc (SizeT.ofInt newSize) s

/-- `realloc`. -/
def realloc (start : ℕ) (newsize : SizeT) (s : UserSpace) : ℕ × UserSpace :=
  let (newstart, s) := malloc A newsize s
  if newstart = 0 then (0, s)
  else (newstart, bcopy start newstart newsize s)

/-- `calloc`. -/
def calloc (count size : SizeT) (s : UserSpace) : ℕ × UserSpace :=
  let newSize := SizeT.ofInt (count.1 * size.1)
  let newSize := if count.1 ≤ 0 then SizeT.ofInt (1 * size.1) else newSize
  let (ptr, s) := malloc A newSize s
  if ptr ≠ 0 then (ptr, memset ptr 0 newSize s) else (ptr, s)

/-! ## What a call does to the memory -/

/-- From `s` to `s'` the process read in `[lo, hi)` only, wrote in the block only, and changed nothing
outside it. -/
structure Touches (s s' : UserSpace) (lo hi : ℕ) (b : Block) : Prop where
  reads : ∃ new, s'.reads = new ++ s.reads ∧ ∀ a ∈ new, lo ≤ a ∧ a < hi
  writes : ∃ new, s'.writes = new ++ s.writes ∧ ∀ a ∈ new, b.start ≤ a ∧ a < b.start + b.length
  outside : ∀ a, a < b.start ∨ b.start + b.length ≤ a → s'.cell a = s.cell a

variable {A} {s s' : UserSpace} {value : UInt8} {n : ℕ}

lemma memsetLoop_spec (value : UInt8) (n : ℕ) : ∀ (p : ℕ) (s : UserSpace),
    (memsetLoop value n p s).blocks = s.blocks ∧ (memsetLoop value n p s).reads = s.reads ∧
      (memsetLoop value n p s).writes = (List.range' p n).reverse ++ s.writes ∧
      ∀ a, (memsetLoop value n p s).cell a = if p ≤ a ∧ a < p + n then value else s.cell a := by
  induction n with
  | zero =>
      intro p s
      refine ⟨rfl, rfl, rfl, fun a => ?_⟩
      rw [if_neg (by omega)]
      rfl
  | succ n ih =>
      intro p s
      obtain ⟨hblocks, hreads, hwrites, hcell⟩ := ih (p + 1) (s.store p value)
      refine ⟨hblocks, hreads, ?_, fun a => ?_⟩
      · rw [memsetLoop, hwrites, List.range'_succ, List.reverse_cons, List.append_assoc]
        rfl
      · rw [memsetLoop, hcell, UserSpace.store]
        simp only [Function.update_apply]
        split_ifs <;> first | rfl | omega

/-- **What the copy loop does**, if no byte of the source is overwritten by it. -/
lemma bcopyLoop_spec (n : ℕ) : ∀ (p q : ℕ) (s : UserSpace),
    (bcopyLoop n p q s).blocks = s.blocks ∧
      (bcopyLoop n p q s).reads = (List.range' p n).reverse ++ s.reads ∧
      (bcopyLoop n p q s).writes = (List.range' q n).reverse ++ s.writes ∧
      (∀ a, a < q ∨ q + n ≤ a → (bcopyLoop n p q s).cell a = s.cell a) ∧
      (p + n ≤ q ∨ q + n ≤ p → ∀ k < n, (bcopyLoop n p q s).cell (q + k) = s.cell (p + k)) := by
  induction n with
  | zero =>
      intro p q s
      exact ⟨rfl, rfl, rfl, fun _ _ => rfl, fun _ k hk => by omega⟩
  | succ n ih =>
      intro p q s
      obtain ⟨hblocks, hreads, hwrites, houtside, hcopy⟩ :=
        ih (p + 1) (q + 1) ((s.load p).2.store q (s.load p).1)
      refine ⟨hblocks, ?_, ?_, fun a ha => ?_, fun happart k hk => ?_⟩
      · rw [bcopyLoop, hreads, List.range'_succ, List.reverse_cons, List.append_assoc]
        rfl
      · rw [bcopyLoop, hwrites, List.range'_succ, List.reverse_cons, List.append_assoc]
        rfl
      · rw [bcopyLoop, houtside a (by omega)]
        exact Function.update_of_ne (by omega) _ _
      · rcases Nat.eq_zero_or_pos k with rfl | hpos
        · rw [bcopyLoop, houtside (q + 0) (by omega)]
          exact Function.update_self ..
        · have hnext := hcopy (by omega) (k - 1) (by omega)
          have hq : q + 1 + (k - 1) = q + k := by omega
          have hp : p + 1 + (k - 1) = p + k := by omega
          rw [hq, hp] at hnext
          rw [bcopyLoop, hnext]
          exact Function.update_of_ne (by omega) _ _

/-! ## Exact sizes -/

/-- `p` is a new block of `n` bytes, at least as many as were asked for, with no byte in common with the
older ones; beside it nothing was changed, and nothing read outside `[lo, hi)`. -/
structure Gives (s s' : UserSpace) (p : ℕ) (request : ℤ) (lo hi n : ℕ) : Prop where
  block : s'.blocks = ⟨p, n⟩ :: s.blocks
  enough : request ≤ n
  apart : ∀ b ∈ s.blocks, Block.Apart ⟨p, n⟩ b
  touches : Touches s s' lo hi ⟨p, n⟩

/-- `NULL` and nothing done, or a block as `Q` wants it. -/
def NullOr (s : UserSpace) (r : ℕ × UserSpace) (Q : ℕ → Prop) : Prop := r = (0, s) ∨ r.1 ≠ 0 ∧ ∃ n, Q n

/-- What `malloc` shall do. -/
def MallocExact (A : SharedAllocator) (s : UserSpace) (size : SizeT) : Prop :=
  let r := malloc A size s
  NullOr s r fun n => Gives s r.2 r.1 size.1 0 0 n

/-- What `calloc` shall do: the product is not rounded to an `int`. -/
def CallocExact (A : SharedAllocator) (s : UserSpace) (count size : SizeT) : Prop :=
  let r := calloc A count size s
  NullOr s r fun n => Gives s r.2 r.1 (count.1 * size.1) 0 0 n ∧
    ∀ k : ℕ, (k : ℤ) < count.1 * size.1 → r.2.cell (r.1 + k) = 0

/-- What `realloc` of a block of `m` bytes shall do. -/
def ReallocExact (A : SharedAllocator) (s : UserSpace) (start m : ℕ) (newsize : SizeT) : Prop :=
  let r := realloc A start newsize s
  NullOr s r fun n => Gives s r.2 r.1 newsize.1 start (start + m) n ∧
    ∀ k : ℕ, k < m → (k : ℤ) < newsize.1 → r.2.cell (r.1 + k) = s.cell (start + k)

lemma SizeT.ofInt_val {x : ℤ} (hlo : -2 ^ 31 ≤ x) (hhi : x < 2 ^ 31) : (SizeT.ofInt x).1 = x :=
  toInt32_of_range hlo hhi

/-- The number that `malloc` passes on. -/
lemma malloc_eq {size : SizeT} (h : 0 ≤ size.1) :
    malloc A size s = A.shAlloc (SizeT.ofInt (max 1 size.1)) s := by
  have hhi := size.2.2
  have hmod : size.1 % 2 ^ 32 = size.1 := Int.emod_eq_of_lt h (by omega)
  unfold malloc
  rw [if_neg (by omega), hmod]
  dsimp only
  split_ifs with hzero
  · rw [hzero]
    rfl
  · rw [max_eq_right (by omega)]

/-- **`malloc`**: a number below 0 gets `NULL`, 0 a block of one byte. -/
lemma malloc_gives (A : SharedAllocator) (s : UserSpace) (size : SizeT) :
    malloc A size s = (0, s) ∨ 0 ≤ size.1 ∧ (malloc A size s).1 ≠ 0 ∧
      Gives s (malloc A size s).2 (malloc A size s).1 size.1 0 0 (max 1 size.1).toNat := by
  rcases lt_or_ge size.1 0 with hneg | hpos
  · left
    unfold malloc
    rw [if_pos hneg]
  · rw [malloc_eq hpos]
    have hhi := size.2.2
    have hval : (SizeT.ofInt (max 1 size.1)).1 = max 1 size.1 := SizeT.ofInt_val (by omega) (by omega)
    rcases eq_or_ne (A.shAlloc (SizeT.ofInt (max 1 size.1)) s).1 0 with hnull | hsome
    · exact Or.inl (Prod.ext hnull (A.null _ _ hnull))
    · refine Or.inr ⟨hpos, hsome, ?_⟩
      have hblock := A.block _ _ hsome
      have hapart := A.apart _ _ hsome
      have houtside := A.outside (SizeT.ofInt (max 1 size.1)) s
      rw [hval] at hblock hapart houtside
      refine ⟨hblock, by omega, hapart, ⟨[], A.reads _ _, by simp⟩, ⟨[], A.writes _ _, by simp⟩, houtside⟩

/-- **A block of `malloc` has the bytes that were asked for.** -/
theorem malloc_exact (A : SharedAllocator) (s : UserSpace) (size : SizeT) : MallocExact A s size := by
  rcases malloc_gives A s size with hnull | ⟨-, hsome, hgives⟩
  · exact Or.inl hnull
  · exact Or.inr ⟨hsome, _, hgives⟩

/-- The product of `calloc` comes round to a number that is not below 0, and there is memory for it. -/
def CallocWraps (A : SharedAllocator) (s : UserSpace) (count size : SizeT) : Prop :=
  0 < count.1 ∧ 0 < size.1 ∧ 2 ^ 31 ≤ count.1 * size.1 ∧ count.1 * size.1 % 2 ^ 32 < 2 ^ 31 ∧
    (A.shAlloc (SizeT.ofInt (max 1 (count.1 * size.1 % 2 ^ 32))) s).1 ≠ 0

/-- The size that `calloc` passes to `malloc`. -/
def callocSize (count size : SizeT) : SizeT :=
  if count.1 ≤ 0 then SizeT.ofInt (1 * size.1) else SizeT.ofInt (count.1 * size.1)

/-- Clearing a block that was just given. -/
lemma Gives.memset {p : ℕ} {size : SizeT} (h : Gives s s' p size.1 0 0 n) (hp : p ≠ 0) :
    Gives s (memset p 0 size s') p size.1 0 0 n ∧
      ∀ k : ℕ, (k : ℤ) < size.1 → (memset p 0 size s').cell (p + k) = 0 := by
  have henough := h.enough
  by_cases hsize : size.1 > 0
  · rw [Libc.memset, if_pos ⟨hp, hsize⟩]
    obtain ⟨hblocks, hreads, hwrites, hcell⟩ := memsetLoop_spec 0 size.1.toNat p s'
    obtain ⟨⟨new, hnew, hin⟩, ⟨new', hnew', hin'⟩, houtside⟩ := h.touches
    refine ⟨⟨hblocks.trans h.block, henough, h.apart, ⟨new, hreads.trans hnew, hin⟩,
      ⟨_, by rw [hwrites, hnew', List.append_assoc], ?_⟩, fun a ha => ?_⟩, fun k hk => ?_⟩
    · intro a ha
      rcases List.mem_append.1 ha with ha | ha
      · rw [List.mem_reverse, List.mem_range'_1] at ha
        dsimp only
        omega
      · exact hin' a ha
    · dsimp only at ha
      rw [hcell, if_neg (by omega)]
      exact houtside a ha
    · rw [hcell, if_pos (by omega)]
  · rw [Libc.memset, if_neg (fun hand => hsize hand.2)]
    exact ⟨h, fun k hk => by omega⟩

/-- **`calloc`** clears what `malloc` gives for the number it passes on. -/
lemma calloc_gives (A : SharedAllocator) (s : UserSpace) (count size : SizeT) :
    (malloc A (callocSize count size) s = (0, s) ∧ calloc A count size s = (0, s)) ∨
      0 ≤ (callocSize count size).1 ∧ (A.shAlloc (SizeT.ofInt (max 1 (callocSize count size).1)) s).1 ≠ 0 ∧ (calloc A count size s).1 ≠ 0 ∧
      Gives s (calloc A count size s).2 (calloc A count size s).1 (callocSize count size).1 0 0
        (max 1 (callocSize count size).1).toNat ∧
      ∀ k : ℕ, (k : ℤ) < (callocSize count size).1 →
        (calloc A count size s).2.cell ((calloc A count size s).1 + k) = 0 := by
  have hcalloc : calloc A count size s =
      if (malloc A (callocSize count size) s).1 ≠ 0 then
        ((malloc A (callocSize count size) s).1, memset (malloc A (callocSize count size) s).1 0
          (callocSize count size) (malloc A (callocSize count size) s).2)
      else malloc A (callocSize count size) s := rfl
  rw [hcalloc]
  rcases malloc_gives A s (callocSize count size) with hnull | ⟨hpos, hsome, hgives⟩
  · left
    rw [if_neg (by rw [hnull]; simp)]
    exact ⟨hnull, hnull⟩
  · obtain ⟨hgives', hzero⟩ := hgives.memset hsome
    rw [if_pos hsome]
    refine Or.inr ⟨hpos, ?_, hsome, hgives', hzero⟩
    rwa [malloc_eq hpos] at hsome

lemma toInt32_eq_emod {x : ℤ} (hpos : 0 ≤ toInt32 x) : toInt32 x = x % 2 ^ 32 := by
  unfold toInt32 at hpos ⊢
  rw [Int.bmod_def] at hpos ⊢
  split_ifs at hpos ⊢ with hlt
  · rfl
  · exfalso
    have := Int.emod_lt_of_pos x (show (0 : ℤ) < 2 ^ 32 by norm_num)
    norm_num at this hpos
    omega

/-- **The block of `calloc` is large enough and zero if and only if the product does not come round** to a
number that there is memory for. -/
theorem calloc_exact_iff (A : SharedAllocator) (s : UserSpace) (count size : SizeT) :
    CallocExact A s count size ↔ ¬CallocWraps A s count size := by
  have hgives := calloc_gives A s count size
  constructor
  · rintro hexact ⟨hcount, hsize, hlarge, hround, hmemory⟩
    have hval : (callocSize count size).1 = count.1 * size.1 % 2 ^ 32 := by
      have hint : toInt32 (count.1 * size.1) = count.1 * size.1 % 2 ^ 32 := by
        unfold toInt32
        rw [Int.bmod_def, if_pos (by norm_num; omega)]
        norm_num
      rw [callocSize, if_neg (by omega)]
      exact hint
    have hpos : 0 ≤ (callocSize count size).1 := by omega
    rw [← hval] at hmemory
    rcases hgives with ⟨hnull, -⟩ | ⟨-, -, hsome, hgives, -⟩
    · -- there was memory
      rw [malloc_eq hpos] at hnull
      exact hmemory (congrArg Prod.fst hnull)
    · rcases hexact with hnull | ⟨-, n, hexact, -⟩
      · exact hsome (congrArg Prod.fst hnull)
      · have hblock := hexact.block.symm.trans hgives.block
        have henough := hexact.enough
        have hn : n = (max 1 (callocSize count size).1).toNat := by
          injection hblock with hhead
          injection hhead
        omega
  · intro hno
    rcases hgives with ⟨-, hnull⟩ | ⟨hpos, hmemory, hsome, hgives, hzero⟩
    · exact Or.inl hnull
    · have hle : count.1 * size.1 ≤ (callocSize count size).1 := by
        rcases le_or_gt count.1 0 with hcount | hcount
        · rw [callocSize, if_pos hcount] at hpos ⊢
          have hsize : (SizeT.ofInt (1 * size.1)).1 = size.1 := by
            rw [one_mul]
            exact SizeT.ofInt_val size.2.1 size.2.2
          rw [hsize] at hpos ⊢
          exact (mul_nonpos_of_nonpos_of_nonneg hcount hpos).trans hpos
        · rcases le_or_gt size.1 0 with hsize | hsize
          · exact (mul_nonpos_of_nonneg_of_nonpos hcount.le hsize).trans hpos
          · rw [callocSize, if_neg (by omega)] at hpos hmemory ⊢
            have hval : (SizeT.ofInt (count.1 * size.1)).1 = count.1 * size.1 % 2 ^ 32 :=
              toInt32_eq_emod hpos
            have hhi := (SizeT.ofInt (count.1 * size.1)).2.2
            rw [hval] at hmemory hhi ⊢
            by_contra hlt
            refine hno ⟨hcount, hsize, ?_, hhi, hmemory⟩
            by_contra hsmall
            exact hlt (Int.emod_eq_of_lt (by positivity) (by omega)).ge
      refine Or.inr ⟨hsome, _, ⟨hgives.block, hle.trans hgives.enough, hgives.apart, hgives.touches⟩, ?_⟩
      intro k hk
      exact hzero k (by omega)

/-- **`realloc` is right if and only if the block does not grow**, or there is no memory for the new one. -/
theorem realloc_exact_iff (A : SharedAllocator) (s : UserSpace) (start m : ℕ) (newsize : SizeT)
    (hblock : ⟨start, m⟩ ∈ s.blocks) :
    ReallocExact A s start m newsize ↔
      newsize.1 ≤ m ∨ (A.shAlloc (SizeT.ofInt (max 1 newsize.1)) s).1 = 0 := by
  have hrealloc : realloc A start newsize s =
      if (malloc A newsize s).1 = 0 then (0, (malloc A newsize s).2)
      else ((malloc A newsize s).1, bcopy start (malloc A newsize s).1 newsize (malloc A newsize s).2) := rfl
  unfold ReallocExact
  rw [hrealloc]
  rcases malloc_gives A s newsize with hnull | ⟨hpos, hsome, hgives⟩
  · rw [if_pos (congrArg Prod.fst hnull), hnull]
    refine ⟨fun _ => ?_, fun _ => Or.inl rfl⟩
    rcases lt_or_ge newsize.1 0 with hneg | hpos
    · left
      omega
    · right
      rw [← malloc_eq hpos, hnull]
  · rw [if_neg hsome]
    have hlen : (newsize.1 % 2 ^ 32).toNat = newsize.1.toNat := by
      have hhi := newsize.2.2
      omega
    have hmemory : (A.shAlloc (SizeT.ofInt (max 1 newsize.1)) s).1 ≠ 0 := by rwa [malloc_eq hpos] at hsome
    obtain ⟨hblocks, hreads, hwrites, houtside, hcopy⟩ :=
      bcopyLoop_spec newsize.1.toNat start (malloc A newsize s).1 (malloc A newsize s).2
    rw [bcopy, hlen]
    constructor
    · rintro (hnull | ⟨-, n, hexact, -⟩)
      · exact absurd (congrArg Prod.fst hnull) hsome
      · left
        by_contra hgrows
        -- the byte behind the old block is read
        obtain ⟨new, hnew, hin⟩ := hexact.touches.reads
        obtain ⟨new', hnew', hin'⟩ := hgives.touches.reads
        dsimp only at hnew
        rw [hreads, hnew', ← List.append_assoc] at hnew
        have hall := List.append_cancel_right hnew
        have hmem : start + m ∈ new := by
          rw [← hall, List.mem_append, List.mem_reverse, List.mem_range'_1]
          left
          omega
        have := hin _ hmem
        omega
    · intro hcond
      have hle : newsize.1 ≤ m := hcond.resolve_right hmemory
      have happart := hgives.apart _ hblock
      simp only [Block.Apart] at happart
      obtain ⟨⟨new, hnew, hin⟩, ⟨new', hnew', hin'⟩, hout⟩ := hgives.touches
      refine Or.inr ⟨hsome, _, ⟨hblocks.trans hgives.block, hgives.enough, hgives.apart,
        ⟨_, by rw [hreads, hnew, List.append_assoc], ?_⟩, ⟨_, by rw [hwrites, hnew', List.append_assoc], ?_⟩,
        fun a ha => ?_⟩, fun k hk hlt => ?_⟩
      · intro a ha
        rcases List.mem_append.1 ha with ha | ha
        · rw [List.mem_reverse, List.mem_range'_1] at ha
          omega
        · have := hin a ha
          omega
      · intro a ha
        rcases List.mem_append.1 ha with ha | ha
        · rw [List.mem_reverse, List.mem_range'_1] at ha
          dsimp only
          omega
        · exact hin' a ha
      · dsimp only at ha
        rw [houtside a (by omega)]
        exact hout a ha
      · rw [hcopy (by omega) k (by omega)]
        exact hout _ (by dsimp only; omega)

/-- **The sizes of the allocators, exactly.** -/
theorem allocators_exact (A : SharedAllocator) (s : UserSpace) (count size newsize : SizeT) (start m : ℕ)
    (hblock : ⟨start, m⟩ ∈ s.blocks) :
    MallocExact A s size ∧ (CallocExact A s count size ↔ ¬CallocWraps A s count size) ∧
      (ReallocExact A s start m newsize ↔
        newsize.1 ≤ m ∨ (A.shAlloc (SizeT.ofInt (max 1 newsize.1)) s).1 = 0) :=
  ⟨malloc_exact A s size, calloc_exact_iff A s count size, realloc_exact_iff A s start m newsize hblock⟩

/-- An allocator that puts every block behind the older ones. -/
def bumpAllocator : SharedAllocator where
  shAlloc n s :=
    let p := (s.blocks.map fun b => b.start + b.length).sum + 1
    (p, { s with blocks := ⟨p, n.1.toNat⟩ :: s.blocks })
  null n s h := by simp at h
  block n s _ := rfl
  apart n s _ b hb := by
    have hle := List.single_le_sum (fun _ _ => Nat.zero_le _) _
      (List.mem_map_of_mem (f := fun b : Block => b.start + b.length) hb)
    right
    dsimp only at hle ⊢
    omega
  outside n s a _ := rfl
  reads n s := rfl
  writes n s := rfl

/-- A process with one block of a byte. -/
def oneByte : UserSpace := ⟨fun _ => 0, [⟨100, 1⟩], [], []⟩

theorem allocators_exact_oneByte :
    MallocExact bumpAllocator oneByte ⟨7, by norm_num⟩ ∧
      CallocExact bumpAllocator oneByte ⟨3, by norm_num⟩ ⟨7, by norm_num⟩ ∧
      ReallocExact bumpAllocator oneByte 100 1 ⟨1, by norm_num⟩ := by
  obtain ⟨hmalloc, hcalloc, hrealloc⟩ := allocators_exact bumpAllocator oneByte ⟨3, by norm_num⟩
    ⟨7, by norm_num⟩ ⟨1, by norm_num⟩ 100 1 (by simp [oneByte])
  refine ⟨hmalloc, hcalloc.2 ?_, hrealloc.2 (Or.inl (by norm_num))⟩
  rintro ⟨-, -, hlarge, -⟩
  norm_num at hlarge

/-- `calloc(65536, 65536)` gives one byte, and a block of one byte is copied as if it had two. -/
theorem allocators_inexact :
    ¬CallocExact bumpAllocator oneByte ⟨65536, by norm_num⟩ ⟨65536, by norm_num⟩ ∧
      ¬ReallocExact bumpAllocator oneByte 100 1 ⟨2, by norm_num⟩ := by
  constructor
  · rw [calloc_exact_iff, not_not]
    refine ⟨by norm_num, by norm_num, by norm_num, by norm_num, ?_⟩
    simp [bumpAllocator]
  · rw [realloc_exact_iff _ _ _ _ _ (by simp [oneByte])]
    simp [bumpAllocator]

end Gramado.Libc
