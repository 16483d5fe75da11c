import Mathlib.Tactic

/-!
# The machine under the kernel

The kernel is compiled for x86-64.  `unsigned long` values are naturals that every operation
reduces modulo `2 ^ 64`, `int` values are integers that a conversion reduces to the signed 32-bit
range; both reductions are written out where the source can reach them.

A kernel function either returns or stops the system.  `Fault` says how it stops: by calling
`panic` (or `x_panic`) with a message, or by going through a pointer that points at no object.
-/

namespace Gramado

/-- How a kernel function ends without returning. -/
inductive Fault where
  /-- `panic(message)` and `x_panic(message)`: the system halts. -/
  | panic (message : String)
  /-- A null, dangling or uninitialised pointer is dereferenced. -/
  | badPointer
  deriving DecidableEq, Repr

@[simp] lemma ok_bind {φ α β : Type} (a : α) (f : α → Except φ β) : (Except.ok a >>= f) = f a :=
  rfl

@[simp] lemma error_bind {φ α β : Type} (e : φ) (f : α → Except φ β) :
    ((Except.error e : Except φ α) >>= f) = .error e :=
  rfl

/-- A sequence that succeeds takes both its steps. -/
lemma bind_eq_ok {φ α β : Type} {x : Except φ α} {f : α → Except φ β} {b : β}
    (h : (x >>= f) = .ok b) : ∃ a, x = .ok a ∧ f a = .ok b := by
  cases x with
  | ok a => exact ⟨a, rfl, h⟩
  | error e => cases h

/-- What is made of a result, is made of a result. -/
lemma map_eq_ok {α β φ : Type*} {x : Except φ α} {f : α → β} {b : β} (h : x.map f = .ok b) :
    ∃ a, x = .ok a ∧ f a = b := by
  cases x with
  | ok a => exact ⟨a, rfl, Except.ok.inj h⟩
  | error e => cases h

/-- `TRUE`. -/
abbrev TRUE : ℤ := 1

/-- `FALSE`. -/
abbrev FALSE : ℤ := 0

/-- `CONTROLTHREAD_BASE`: user memory begins here. -/
def CONTROLTHREAD_BASE : ℕ := 0x00200000

/-- Addition of two `unsigned long`. -/
def ulongAdd (a b : ℕ) : ℕ := (a + b) % 2 ^ 64

/-- Subtraction of two `unsigned long`: it wraps below zero. -/
def ulongSub (a b : ℕ) : ℕ := (a + (2 ^ 64 - b % 2 ^ 64)) % 2 ^ 64

/-- An `int` or a `long` converted to `unsigned long`. -/
def toUlong (x : ℤ) : ℕ := (x % 2 ^ 64).toNat

/-- Conversion of an integer to `int`. -/
def toInt32 (x : ℤ) : ℤ := Int.bmod x (2 ^ 32)

lemma ulongAdd_of_lt {a b : ℕ} (h : a + b < 2 ^ 64) : ulongAdd a b = a + b :=
  Nat.mod_eq_of_lt h

lemma ulongSub_of_le {a b : ℕ} (hb : b ≤ a) (ha : a < 2 ^ 64) : ulongSub a b = a - b := by
  unfold ulongSub
  omega

/-- The wrap below zero adds the whole range. -/
lemma ulongSub_of_lt {a b : ℕ} (ha : a < b) (hb : b < 2 ^ 64) :
    ulongSub a b = a + 2 ^ 64 - b := by
  unfold ulongSub
  omega

lemma toInt32_of_range {x : ℤ} (hlo : -2 ^ 31 ≤ x) (hhi : x < 2 ^ 31) : toInt32 x = x := by
  unfold toInt32
  rw [Int.bmod_eq_of_le] <;> omega

/-! ## Buffers -/

/-- The first `n` bytes of a buffer. -/
def bytesOf (b : ℕ → UInt8) (n : ℕ) : List UInt8 := (List.range n).map b

@[simp] lemma length_bytesOf (b : ℕ → UInt8) (n : ℕ) : (bytesOf b n).length = n := by
  simp [bytesOf]

/-- The first byte of a buffer, and the others. -/
lemma bytesOf_succ (b : ℕ → UInt8) (n : ℕ) :
    bytesOf b (n + 1) = b 0 :: bytesOf (fun k => b (k + 1)) n := by
  rw [bytesOf, List.range_succ_eq_map, List.map_cons, List.map_map]
  rfl

/-- A buffer of two pieces. -/
lemma bytesOf_add (b : ℕ → UInt8) (n k : ℕ) :
    bytesOf b (n + k) = bytesOf b n ++ bytesOf (fun i => b (n + i)) k := by
  rw [bytesOf, List.range_add, List.map_append, List.map_map]
  rfl

lemma bytesOf_congr {b b' : ℕ → UInt8} {n : ℕ} :
    bytesOf b n = bytesOf b' n ↔ ∀ k < n, b k = b' k := by
  rw [bytesOf, bytesOf, List.map_inj_left]
  simp only [List.mem_range]

/-- `memcpy` of a list to the front of a buffer. -/
def copyFront (dst : ℕ → UInt8) (data : List UInt8) : ℕ → UInt8 := fun k => data.getD k (dst k)

lemma bytesOf_copyFront (b : ℕ → UInt8) (data : List UInt8) :
    bytesOf (copyFront b data) data.length = data := by
  refine List.ext_getElem (length_bytesOf _ _) fun i _ hi => ?_
  simp [bytesOf, copyFront, hi]

end Gramado
