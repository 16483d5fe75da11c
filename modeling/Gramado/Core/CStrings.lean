import Gramado.Core.CTypes
import Gramado.Lib.Overlay
import Gramado.Lib.Scan

/-!
# Strings in memory

`strlen`, `strcpy` and `memset` of `core/clibs/kstring.c`, which the library in user space has as well,
on memory `ℕ → UInt8`.  A scan that finds no `NUL` in the address space comes back with `badPointer`.

A call may also end because of an `int` operation whose result is no `int` (`intResult`).

* `overlay s p (text ++ [0])` is memory in which a string stands at `p`; the lemmas say what the functions
  make of that.
-/

namespace Gramado.Clib

open Overlay

/-- How a call ends without a result. -/
inductive Undefined where
  /-- A load outside an object. -/
  | badPointer
  /-- An `int` operation whose result is no `int`. -/
  | overflow
  deriving DecidableEq, Repr

/-- `INT_MAX`. -/
def INT_MAX : ℤ := 2147483647

/-- `INT_MIN`. -/
def INT_MIN : ℤ := -2147483648

/-- The result of an `int` operation. -/
def intResult (x : ℤ) : Except Undefined ℤ :=
  if INT_MIN ≤ x ∧ x ≤ INT_MAX then .ok x else .error .overflow

/-- An integer that is stored in a `char`. -/
def toByte (x : ℤ) : UInt8 := UInt8.ofNat (x % 256).toNat

/-- The number of addresses. -/
def ADDRESSES : ℕ := 2 ^ 64

/-- `strlen`, of the string at `p`. -/
def strlen (s : ℕ → UInt8) (p : ℕ) : Except Undefined ℕ :=
  match Scan.forward (fun k => s k = 0) ADDRESSES p with
  | some k => .ok (k - p)
  | none => .error .badPointer

/-- The bytes of the string at the front of a buffer. -/
def cString (s : ℕ → UInt8) : Except Undefined (List UInt8) := do
  let n ← strlen s 0
  .ok (bytesOf s n)

/-- The loop `while (to[i] = from[i]) i += 1`, with `left` turns to go. -/
def copyChars (dst src : ℕ) : ℕ → ℕ → (ℕ → UInt8) → Except Undefined (ℕ → UInt8)
  | 0, _, _ => .error .badPointer
  | left + 1, i, s =>
      let c := s (src + i)
      let s := Function.update s (dst + i) c
      if c ≠ 0 then copyChars dst src left (i + 1) s else .ok s

/-- `strcpy`. -/
def strcpy (dst src : ℕ) (s : ℕ → UInt8) : Except Undefined (ℕ → UInt8) :=
  copyChars dst src ADDRESSES 0 s

/-- The loop of `memset`, with `left` turns to go. -/
def setChars (value : UInt8) : ℕ → ℕ → (ℕ → UInt8) → ℕ → UInt8
  | 0, _, s => s
  | left + 1, ptr, s => setChars value left (ptr + 1) (Function.update s ptr value)

/-- `memset`. -/
def memset (ptr : ℕ) (value : UInt8) (size : ℤ) (s : ℕ → UInt8) : ℕ → UInt8 :=
  if size > 0 then setChars value size.toNat ptr s else s

/-! ## Lemmas -/

section

variable {s : ℕ → UInt8} {p q k n left : ℕ} {x : ℤ} {text l : List UInt8} {value : UInt8}

lemma intResult_ok (hlo : INT_MIN ≤ x) (hhi : x ≤ INT_MAX) : intResult x = .ok x :=
  if_pos ⟨hlo, hhi⟩

lemma intResult_error (h : ¬(INT_MIN ≤ x ∧ x ≤ INT_MAX)) : intResult x = .error .overflow :=
  if_neg h

lemma intResult_inv {y : ℤ} (h : intResult x = .ok y) : y = x ∧ x ≤ INT_MAX := by
  rw [intResult] at h
  split_ifs at h with hrange
  cases h
  exact ⟨rfl, hrange.2⟩

/-- A string that stands in memory. -/
lemma strlen_overlay (htext : 0 ∉ text) (hlength : text.length < ADDRESSES) :
    strlen (overlay s p (text ++ [0])) p = .ok text.length := by
  have hscan : Scan.forward (fun k => overlay s p (text ++ [0]) k = 0) ADDRESSES p =
      some (p + text.length) := by
    refine Scan.forward_eq_some (by omega) (by omega) ?_ fun k hlo hhi => ?_
    · rw [overlay_inside (by simp)]
      simp
    · obtain ⟨i, rfl⟩ : ∃ i, k = p + i := ⟨k - p, by omega⟩
      rw [overlay_inside (by rw [List.length_append, List.length_singleton]; omega),
        List.getElem_append_left (by omega)]
      exact fun h => htext (h ▸ List.getElem_mem _)
  rw [strlen, hscan]
  simp

lemma cString_overlay (htext : 0 ∉ text) (hlength : text.length < ADDRESSES) :
    cString (overlay s 0 (text ++ [0])) = .ok text := by
  rw [cString, strlen_overlay htext hlength, ok_bind]
  refine congrArg Except.ok (List.ext_getElem (length_bytesOf _ _) fun i _ hi => ?_)
  have hcell := overlay_inside (s := s) (p := 0) (k := i) (l := text ++ [0])
    (by rw [List.length_append]; omega)
  rw [Nat.zero_add, List.getElem_append_left hi] at hcell
  simp only [bytesOf, List.getElem_map, List.getElem_range, hcell]

/-- The loop of `strcpy` to a place that is not behind the string. -/
lemma copyChars_overlay (hpq : q ≤ p) (htext : 0 ∉ text) (hk : k ≤ text.length)
    (hleft : text.length - k < left) :
    copyChars q p left k (overlay (overlay s p (text ++ [0])) q (text.take k)) =
      .ok (overlay (overlay s p (text ++ [0])) q (text ++ [0])) := by
  induction left generalizing k with
  | zero => omega
  | succ left ih =>
      have htake : (text.take k).length = k := by rw [List.length_take]; omega
      have hend : ∀ c, Function.update (overlay (overlay s p (text ++ [0])) q (text.take k)) (q + k) c =
          overlay (overlay s p (text ++ [0])) q (text.take k ++ [c]) := fun c => by
        have hupdate := update_end (s := overlay s p (text ++ [0])) (p := q) (l := text.take k) (a := c)
        rwa [htake] at hupdate
      -- the byte that is read is not yet written over
      rw [copyChars, overlay_outside (.inr (by omega)), overlay_inside (by simp; omega)]
      rcases Nat.eq_or_lt_of_le hk with rfl | hlt
      · rw [hend, List.take_length]
        simp
      · have hne : text[k] ≠ 0 := fun h => htext (h ▸ List.getElem_mem hlt)
        have hnext := ih (k := k + 1) hlt (by omega)
        rw [List.getElem_append_left hlt, if_pos hne, hend, List.take_append_getElem]
        exact hnext

lemma strcpy_overlay (hpq : q ≤ p) (htext : 0 ∉ text) (hlength : text.length < ADDRESSES) :
    strcpy q p (overlay s p (text ++ [0])) =
      .ok (overlay (overlay s p (text ++ [0])) q (text ++ [0])) := by
  have hcopy := copyChars_overlay (s := s) (k := 0) hpq htext (Nat.zero_le _) hlength
  rwa [List.take_zero, overlay_nil] at hcopy

/-- The loop of `memset`. -/
lemma setChars_eq : setChars value n p s = overlay s p (List.replicate n value) := by
  induction n generalizing p s with
  | zero => simp [setChars]
  | succ n ih =>
      rw [setChars, ih, update_eq]
      exact (overlay_append (l := [value])).symm

/-- Zeros behind a string, from its `NUL` on. -/
lemma memset_overlay (s : ℕ → UInt8) (p : ℕ) (text : List UInt8) (size : ℤ) : ∃ t, memset (p + text.length) 0 size (overlay s p (text ++ [0])) =
    overlay t p (text ++ [0]) := by
  rw [memset]
  by_cases hsize : size > 0
  · rw [if_pos hsize, setChars_eq]
    obtain ⟨n, hn⟩ : ∃ n, size.toNat = n + 1 := ⟨size.toNat - 1, by omega⟩
    refine ⟨overlay (overlay s p (text ++ [0])) (p + text.length) (List.replicate size.toNat 0),
      eq_overlay (fun k hk => ?_) fun k _ => rfl⟩
    rw [List.length_append, List.length_singleton] at hk
    by_cases hlast : k = text.length
    · subst hlast
      have hcell := overlay_inside (s := overlay s p (text ++ [0])) (p := p + text.length) (k := 0)
        (l := List.replicate size.toNat 0) (by simp [hn])
      rw [Nat.add_zero] at hcell
      rw [hcell]
      simp
    · rw [overlay_outside (.inl (by omega)), overlay_inside (by simp; omega)]
  · rw [if_neg hsize]
    exact ⟨s, rfl⟩

end

end Gramado.Clib
