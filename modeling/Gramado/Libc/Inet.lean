import Mathlib.Data.FinEnum
import Mathlib.Data.List.TakeWhile
import Gramado.Lib.Bits
import Gramado.Libc.Decimal

/-!
# `inet_addr`

`inet_addr` of `libc/inet.c`, with `__htonl_imp`.  A string is the list of its bytes without the `NUL`.

One rule takes the function from a number to the next one: a byte is skipped, unless the string is at its
end.  So a number that is missing counts as 0, an empty one as well, and what stands behind the fourth is
not looked at.

* `inetAddr_correct_iff` — for which strings the result is what it should be.
-/

namespace Gramado.Libc

open Clib

/-- `__htonl_imp`. -/
def htonlImp (hostlong : BitVec 32) : BitVec 32 :=
  ((hostlong >>> 24) &&& 0xFF#32) ||| ((hostlong <<< 8) &&& 0xFF0000#32) |||
    ((hostlong >>> 8) &&& 0xFF00#32) ||| ((hostlong <<< 24) &&& 0xFF000000#32)

/-- `INADDR_NONE`. -/
def INADDR_NONE : BitVec 32 := 0xFFFFFFFF#32

/-- The inner loop: the octet and what is left of the string, or nothing for an invalid character. -/
def readOctet : List UInt8 → ℤ → Except Undefined (Option (ℤ × List UInt8))
  | [], octet => .ok (some (octet, []))
  | ch :: cp, octet =>
      if ch = charByte '.' then .ok (some (octet, ch :: cp))
      else if ¬IsDigit ch then .ok none
      else do
        let tens ← intResult (octet * 10)
        let octet ← intResult (tens + ((ch.toNat : ℤ) - 48))
        readOctet cp octet

/-- The outer loop, with `left` turns to go. -/
def inetLoop : ℕ → List UInt8 → BitVec 32 → Except Undefined (BitVec 32)
  | 0, _, addr => .ok (htonlImp addr)
  | left + 1, cp, addr => do
      match ← readOctet cp 0 with
      | none => .ok INADDR_NONE
      | some (octet, cp) =>
          if octet > 255 then .ok INADDR_NONE
          else inetLoop left cp.tail ((addr <<< 8) ||| BitVec.ofInt 32 octet)

/-- `inet_addr`. -/
def inetAddr (cp : List UInt8) : Except Undefined (BitVec 32) := inetLoop 4 cp 0

/-! ## What is to be returned -/

/-- The number that digits stand for, behind the number `n`. -/
def decimalFrom (n : ℕ) (text : List UInt8) : ℕ :=
  text.foldl (fun n c => 10 * n + (c.toNat - 48)) n

/-- The number that digits stand for. -/
abbrev decimalValue (text : List UInt8) : ℕ := decimalFrom 0 text

/-- A non-empty decimal number, and its value. -/
structure IsOctet (text : List UInt8) (n : BitVec 8) : Prop where
  nonempty : text ≠ []
  digits : ∀ c ∈ text, IsDigit c
  value : decimalValue text = n.toNat

/-- The string is the dotted quad `a.b.c.d`. -/
def DottedQuad (cp : List UInt8) (a b c d : BitVec 8) : Prop :=
  ∃ A B C D, IsOctet A a ∧ IsOctet B b ∧ IsOctet C c ∧ IsOctet D d ∧
    cp = A ++ charByte '.' :: (B ++ charByte '.' :: (C ++ charByte '.' :: D))

/-- The address whose bytes in memory are `a`, `b`, `c` and `d`. -/
def networkOrder (a b c d : BitVec 8) : BitVec 32 := d ++ c ++ b ++ a

/-- **What `inet_addr` should return**: the address of a dotted quad, `INADDR_NONE` otherwise. -/
def InetAddrCorrect (cp : List UInt8) : Prop :=
  (∀ a b c d, DottedQuad cp a b c d → inetAddr cp = .ok (networkOrder a b c d)) ∧
    ((¬∃ a b c d, DottedQuad cp a b c d) → inetAddr cp = .ok INADDR_NONE)

/-! ## The parts of the string -/

/-- The first `n` parts between dots; those that are missing are empty. -/
def firstParts : ℕ → List UInt8 → List (List UInt8)
  | 0, _ => []
  | n + 1, cp =>
      cp.takeWhile (· ≠ charByte '.') :: firstParts n (cp.dropWhile (· ≠ charByte '.')).tail

/-- Nothing but digits, and a value up to 255. -/
def Accepted (part : List UInt8) : Prop := (∀ c ∈ part, IsDigit c) ∧ decimalValue part ≤ 255

instance : DecidablePred Accepted := fun _ => inferInstanceAs (Decidable (_ ∧ _))

/-- The number at the front of a part is an `int`. -/
def StartsSmall (part : List UInt8) : Prop :=
  (decimalValue (part.takeWhile fun c => IsDigit c) : ℤ) ≤ INT_MAX

instance : DecidablePred StartsSmall := fun _ => inferInstanceAs (Decidable (_ ≤ _))

/-- **Where `inet_addr` works.**  The first of the four parts that is not accepted, if there is one, starts
with a small number; if there is none, then there are three dots and no empty part, or the four parts are
all 255. -/
structure InetAddrWorks (cp : List UInt8) : Prop where
  small : ∀ part ∈ (firstParts 4 cp).find? (fun part => ¬Accepted part), StartsSmall part
  quad : (∀ part ∈ firstParts 4 cp, Accepted part) →
    (cp.count (charByte '.') = 3 ∧ ∀ part ∈ firstParts 4 cp, part ≠ []) ∨
      ∀ part ∈ firstParts 4 cp, decimalValue part = 255

/-- The outer loop, part by part. -/
def readParts : List (List UInt8) → BitVec 32 → Except Undefined (BitVec 32)
  | [], addr => .ok (htonlImp addr)
  | part :: parts, addr =>
      if ¬StartsSmall part then .error .overflow
      else if Accepted part then
        readParts parts ((addr <<< 8) ||| BitVec.ofNat 32 (decimalValue part))
      else .ok INADDR_NONE

section

variable {cp part rest tail text : List UInt8} {parts : List (List UInt8)} {n m : ℕ} {c : UInt8}
  {addr : BitVec 32} {a b d e : BitVec 8}

@[simp] lemma decimalFrom_nil : decimalFrom n [] = n := rfl

/-- Digits only make a number greater. -/
lemma le_decimalFrom (n : ℕ) (text : List UInt8) : n ≤ decimalFrom n text := by
  induction text generalizing n with
  | nil => rfl
  | cons c text ih =>
      have hmore := ih (10 * n + (c.toNat - 48))
      show n ≤ decimalFrom (10 * n + (c.toNat - 48)) text
      omega

lemma isDigit_toNat (h : IsDigit c) : ((c.toNat : ℤ) - 48) = ((c.toNat - 48 : ℕ) : ℤ) := by
  have hlow : (charByte '0').toNat ≤ c.toNat := UInt8.le_iff_toNat_le.1 h.1
  have hzero : (charByte '0').toNat = 48 := rfl
  omega

/-- A part ends at the end of the string or before a dot. -/
def EndsPart (tail : List UInt8) : Prop := tail.head?.all fun c => c = charByte '.'

/-- **The inner loop** reads one part. -/
lemma readOctet_part (hpart : charByte '.' ∉ part) (htail : EndsPart tail) (hn : (n : ℤ) ≤ INT_MAX) :
    readOctet (part ++ tail) n =
      if ¬(decimalFrom n (part.takeWhile fun c => IsDigit c) : ℤ) ≤ INT_MAX then .error .overflow
      else if ∀ c ∈ part, IsDigit c then .ok (some ((decimalFrom n part : ℤ), tail))
      else .ok none := by
  induction part generalizing n with
  | nil =>
      rw [List.takeWhile_nil, decimalFrom_nil, if_neg (not_not.2 hn), if_pos (by simp), List.nil_append]
      cases tail with
      | nil => rfl
      | cons c tail =>
          have hc : c = charByte '.' := by simpa [EndsPart] using htail
          rw [readOctet, if_pos hc]
  | cons c part ih =>
      have hdot : c ≠ charByte '.' := fun h => hpart (h ▸ List.mem_cons_self)
      rw [List.cons_append, readOctet, if_neg hdot]
      by_cases hdigit : IsDigit c
      swap
      · rw [if_pos hdigit, List.takeWhile_cons_of_neg (by simpa using hdigit)]
        rw [decimalFrom_nil, if_neg (not_not.2 hn), if_neg fun h => hdigit (h c List.mem_cons_self)]
      rw [if_neg (not_not.2 hdigit), List.takeWhile_cons_of_pos (by simpa using hdigit)]
      have hmin : INT_MIN = -2147483648 := rfl
      have hmax : INT_MAX = 2147483647 := rfl
      have hmore := le_decimalFrom (10 * n + (c.toNat - 48)) (part.takeWhile fun c => IsDigit c)
      have hvalue : decimalFrom n (c :: part.takeWhile fun c => IsDigit c) =
        decimalFrom (10 * n + (c.toNat - 48)) (part.takeWhile fun c => IsDigit c) := rfl
      have hall : (∀ x ∈ c :: part, IsDigit x) ↔ ∀ x ∈ part, IsDigit x := by
        simp [hdigit]
      rw [hvalue, isDigit_toNat hdigit]
      by_cases hsum : ((10 * n + (c.toNat - 48) : ℕ) : ℤ) ≤ INT_MAX
      · have hcast : (n : ℤ) * 10 + ((c.toNat - 48 : ℕ) : ℤ) = (10 * n + (c.toNat - 48) : ℕ) := by
          push_cast
          ring
        rw [intResult_ok (by omega) (by omega), ok_bind, hcast, intResult_ok (by omega) hsum, ok_bind,
          ih (fun h => hpart (List.mem_cons_of_mem _ h)) hsum]
        simp only [hall]
        rfl
      · rw [if_pos (by omega)]
        by_cases htens : (n : ℤ) * 10 ≤ INT_MAX
        · rw [intResult_ok (by omega) htens, ok_bind, intResult_error (by omega)]
          rfl
        · rw [intResult_error (by omega)]
          rfl

/-- A string is its first part and what ends it. -/
lemma endsPart_dropWhile (cp : List UInt8) : EndsPart (cp.dropWhile (· ≠ charByte '.')) := by
  rw [EndsPart]
  cases h : (cp.dropWhile (· ≠ charByte '.')).head? with
  | none => rfl
  | some c =>
      have hc := List.head?_dropWhile_not (fun c => decide (c ≠ charByte '.')) cp
      rw [h] at hc
      simpa using hc

/-- The inner loop at the front of a string. -/
lemma readOctet_eq (cp : List UInt8) : readOctet cp 0 =
    if ¬StartsSmall (cp.takeWhile (· ≠ charByte '.')) then .error .overflow
    else if ∀ c ∈ cp.takeWhile (· ≠ charByte '.'), IsDigit c then
      .ok (some ((decimalValue (cp.takeWhile (· ≠ charByte '.')) : ℤ), cp.dropWhile (· ≠ charByte '.')))
    else .ok none := by
  have hpart : charByte '.' ∉ cp.takeWhile (· ≠ charByte '.') := fun h => by
    simpa using List.mem_takeWhile_imp h
  have hread := readOctet_part (n := 0) hpart (endsPart_dropWhile cp) (by decide)
  rw [List.takeWhile_append_dropWhile, Nat.cast_zero] at hread
  exact hread

/-- **The outer loop** reads the first parts. -/
lemma inetLoop_eq : inetLoop n cp addr = readParts (firstParts n cp) addr := by
  induction n generalizing cp addr with
  | zero => rfl
  | succ n ih =>
      rw [inetLoop, firstParts, readParts, readOctet_eq]
      by_cases hsmall : StartsSmall (cp.takeWhile (· ≠ charByte '.'))
      swap
      · rw [if_pos hsmall, if_pos hsmall]
        rfl
      rw [if_neg (not_not.2 hsmall), if_neg (not_not.2 hsmall)]
      by_cases hdigits : ∀ c ∈ cp.takeWhile (· ≠ charByte '.'), IsDigit c
      swap
      · rw [if_neg hdigits, if_neg fun h => hdigits h.1]
        rfl
      rw [if_pos hdigits, ok_bind]
      by_cases hvalue : decimalValue (cp.takeWhile (· ≠ charByte '.')) ≤ 255
      · rw [if_pos ⟨hdigits, hvalue⟩, ← ih]
        exact if_neg (by omega)
      · rw [if_neg fun h => hvalue h.2]
        exact if_pos (by omega)

/-! ## The outcome -/

lemma Accepted.startsSmall (h : Accepted part) : StartsSmall part := by
  have hall : (part.takeWhile fun c => IsDigit c) = part :=
    List.takeWhile_eq_self_iff.2 fun c hc => decide_eq_true (h.1 c hc)
  have hmax : INT_MAX = 2147483647 := rfl
  have hvalue := h.2
  rw [StartsSmall, hall]
  omega

/-- One octet goes into the address. -/
def pushOctet (addr : BitVec 32) (part : List UInt8) : BitVec 32 :=
  (addr <<< 8) ||| BitVec.ofNat 32 (decimalValue part)

lemma readParts_accepted (h : ∀ part ∈ parts, Accepted part) (addr : BitVec 32) :
    readParts parts addr = .ok (htonlImp (parts.foldl pushOctet addr)) := by
  induction parts generalizing addr with
  | nil => rfl
  | cons part parts ih =>
      have hpart := h part List.mem_cons_self
      rw [readParts, if_neg (not_not.2 hpart.startsSmall), if_pos hpart,
        ih fun part hmem => h part (List.mem_cons_of_mem _ hmem)]
      rfl

lemma readParts_found (h : parts.find? (fun part => ¬Accepted part) = some part) :
    readParts parts addr = if StartsSmall part then .ok INADDR_NONE else .error .overflow := by
  induction parts generalizing addr with
  | nil => cases h
  | cons first parts ih =>
      rw [List.find?_cons] at h
      by_cases hfirst : Accepted first
      · rw [readParts, if_neg (not_not.2 hfirst.startsSmall), if_pos hfirst]
        exact ih (by simpa [hfirst] using h)
      · obtain rfl : first = part := by simpa [hfirst] using h
        rw [readParts, if_neg hfirst]
        by_cases hsmall : StartsSmall first
        · rw [if_neg (not_not.2 hsmall), if_pos hsmall]
        · rw [if_pos hsmall, if_neg hsmall]

/-! ## The address -/

lemma networkOrder_toNat (a b c d : BitVec 8) : (networkOrder a b c d).toNat =
    d.toNat * 2 ^ 24 + (c.toNat * 2 ^ 16 + (b.toNat * 2 ^ 8 + a.toNat)) := by
  simp only [networkOrder, BitVec.toNat_append]
  rw [← Nat.shiftLeft_add_eq_or_of_lt a.isLt, ← Nat.shiftLeft_add_eq_or_of_lt b.isLt,
    ← Nat.shiftLeft_add_eq_or_of_lt c.isLt]
  simp only [Nat.shiftLeft_eq]
  ring

/-- `__htonl_imp` turns the four bytes round. -/
lemma htonlImp_toNat (x : BitVec 32) : (htonlImp x).toNat =
    x.toNat % 256 * 2 ^ 24 + (x.toNat / 2 ^ 8 % 256 * 2 ^ 16 +
      (x.toNat / 2 ^ 16 % 256 * 2 ^ 8 + x.toNat / 2 ^ 24)) := by
  have hx := x.isLt
  have h₀ : (x.toNat >>> 24) &&& 0xFF = x.toNat / 2 ^ 24 := by
    rw [show 0xFF = 2 ^ 8 - 1 from rfl, Bits.shiftRight_and_mask]
    omega
  have h₁ : (x.toNat >>> 8) &&& 0xFF00 = x.toNat / 2 ^ 16 % 256 * 2 ^ 8 := by
    rw [show 0xFF00 = (2 ^ 8 - 1) * 2 ^ 8 from rfl, Bits.and_field, Nat.shiftRight_eq_div_pow]
    omega
  have h₂ : (x.toNat <<< 8 % 2 ^ 32) &&& 0xFF0000 = x.toNat / 2 ^ 8 % 256 * 2 ^ 16 := by
    rw [show 0xFF0000 = (2 ^ 8 - 1) * 2 ^ 16 from rfl, Bits.and_field, Nat.shiftLeft_eq]
    omega
  have h₃ : (x.toNat <<< 24 % 2 ^ 32) &&& 0xFF000000 = x.toNat % 256 * 2 ^ 24 := by
    rw [show 0xFF000000 = (2 ^ 8 - 1) * 2 ^ 24 from rfl, Bits.and_field, Nat.shiftLeft_eq]
    omega
  have hmask : (0xFF#32).toNat = 0xFF ∧ (0xFF00#32).toNat = 0xFF00 ∧
    (0xFF0000#32).toNat = 0xFF0000 ∧ (0xFF000000#32).toNat = 0xFF000000 := ⟨rfl, rfl, rfl, rfl⟩
  simp only [htonlImp, BitVec.toNat_or, BitVec.toNat_and, BitVec.toNat_ushiftRight,
    BitVec.toNat_shiftLeft, hmask]
  rw [h₀, h₁, h₂, h₃, Nat.or_right_comm (x.toNat / 2 ^ 24), Bits.or_above (k := 8) (by omega),
    Bits.or_above (k := 16) (by omega), Bits.or_above (k := 24) (by omega)]

lemma pushOctet_toNat (h : Accepted part) :
    (pushOctet addr part).toNat = addr.toNat % 2 ^ 24 * 2 ^ 8 + decimalValue part := by
  have hvalue := h.2
  rw [pushOctet, BitVec.toNat_or, BitVec.toNat_ofNat, BitVec.toNat_shiftLeft, Nat.or_comm,
    Nat.shiftLeft_eq, Nat.mod_eq_of_lt (by omega)]
  rw [show addr.toNat * 2 ^ 8 % 2 ^ 32 = addr.toNat % 2 ^ 24 * 2 ^ 8 by omega, Bits.or_above (by omega)]

/-- Four octets in network order. -/
lemma htonlImp_octets {A B D E : List UInt8} (hA : Accepted A) (hB : Accepted B) (hD : Accepted D)
    (hE : Accepted E) : (htonlImp ([A, B, D, E].foldl pushOctet 0)).toNat =
      decimalValue E * 2 ^ 24 + (decimalValue D * 2 ^ 16 + (decimalValue B * 2 ^ 8 + decimalValue A)) := by
  have hvalueA := hA.2
  have hvalueB := hB.2
  have hvalueD := hD.2
  have hvalueE := hE.2
  have hfold : ([A, B, D, E].foldl pushOctet 0).toNat =
      ((decimalValue A * 2 ^ 8 + decimalValue B) * 2 ^ 8 + decimalValue D) * 2 ^ 8 + decimalValue E := by
    have hzero : (0 : BitVec 32).toNat % 2 ^ 24 * 2 ^ 8 = 0 := rfl
    simp only [List.foldl_cons, List.foldl_nil, pushOctet_toNat hA, pushOctet_toNat hB, pushOctet_toNat hD,
      pushOctet_toNat hE]
    rw [hzero, Nat.zero_add, Nat.mod_eq_of_lt (a := decimalValue A) (by omega),
      Nat.mod_eq_of_lt (a := decimalValue A * 2 ^ 8 + decimalValue B) (by omega), Nat.mod_eq_of_lt (by omega)]
  rw [htonlImp_toNat, hfold]
  omega

/-! ## Dotted quads -/

lemma IsOctet.dot_notMem (h : IsOctet part a) : charByte '.' ∉ part :=
  fun hmem => absurd (h.digits _ hmem) (by decide)

lemma IsOctet.accepted (h : IsOctet part a) : Accepted part :=
  ⟨h.digits, by rw [h.value]; have := a.isLt; omega⟩

/-- An accepted part that is not empty is an octet. -/
lemma Accepted.isOctet (h : Accepted part) (hne : part ≠ []) :
    IsOctet part (BitVec.ofNat 8 (decimalValue part)) where
  nonempty := hne
  digits := h.1
  value := by
    have hvalue := h.2
    rw [BitVec.toNat_ofNat, Nat.mod_eq_of_lt (by omega)]

lemma mem_ne_dot (h : charByte '.' ∉ part) (c : UInt8) (hc : c ∈ part) :
    decide (c ≠ charByte '.') = true :=
  decide_eq_true (ne_of_mem_of_not_mem hc h)

lemma takeWhile_dot (h : charByte '.' ∉ part) :
    (part ++ charByte '.' :: rest).takeWhile (· ≠ charByte '.') = part := by
  rw [List.takeWhile_append_of_pos (mem_ne_dot h),
    List.takeWhile_cons_of_neg (by simp), List.append_nil]

lemma firstParts_dot (h : charByte '.' ∉ part) :
    firstParts (n + 1) (part ++ charByte '.' :: rest) = part :: firstParts n rest := by
  have hdrop : (part ++ charByte '.' :: rest).dropWhile (· ≠ charByte '.') = charByte '.' :: rest := by
    rw [List.dropWhile_append_of_pos (mem_ne_dot h),
      List.dropWhile_cons_of_neg (by simp)]
  rw [firstParts, takeWhile_dot h, hdrop, List.tail_cons]

lemma firstParts_last (h : charByte '.' ∉ part) : firstParts 1 part = [part] := by
  rw [firstParts, firstParts, List.takeWhile_eq_self_iff.2 (mem_ne_dot h)]

/-- The parts of a quad. -/
lemma firstParts_quad {A B D E : List UInt8} (hA : charByte '.' ∉ A) (hB : charByte '.' ∉ B)
    (hD : charByte '.' ∉ D) (hE : charByte '.' ∉ E) :
    firstParts 4 (A ++ charByte '.' :: (B ++ charByte '.' :: (D ++ charByte '.' :: E))) = [A, B, D, E] := by
  rw [firstParts_dot hA, firstParts_dot hB, firstParts_dot hD, firstParts_last hE]

/-- A string with a dot, split at the first one. -/
lemma exists_part (h : cp.count (charByte '.') = m + 1) : ∃ part rest,
    cp = part ++ charByte '.' :: rest ∧ charByte '.' ∉ part ∧ rest.count (charByte '.') = m := by
  obtain ⟨part, rest, rfl, hpart⟩ := List.eq_append_cons_of_mem
    (List.count_pos_iff.1 (by rw [h]; exact Nat.succ_pos m) : charByte '.' ∈ cp)
  refine ⟨part, rest, rfl, hpart, ?_⟩
  rw [List.count_append, List.count_eq_zero.2 hpart, List.count_cons_self] at h
  omega

/-- Which strings are dotted quads. -/
lemma dottedQuad_iff : (∃ a b c d, DottedQuad cp a b c d) ↔
    (∀ part ∈ firstParts 4 cp, Accepted part) ∧ cp.count (charByte '.') = 3 ∧
      ∀ part ∈ firstParts 4 cp, part ≠ [] := by
  constructor
  · rintro ⟨a, b, c, d, A, B, C, D, hA, hB, hC, hD, rfl⟩
    rw [firstParts_quad hA.dot_notMem hB.dot_notMem hC.dot_notMem hD.dot_notMem]
    refine ⟨?_, ?_, ?_⟩
    · simp only [List.forall_mem_cons]
      exact ⟨hA.accepted, hB.accepted, hC.accepted, hD.accepted, List.forall_mem_nil _⟩
    · simp only [List.count_append, List.count_cons_self, List.count_eq_zero.2 hA.dot_notMem,
        List.count_eq_zero.2 hB.dot_notMem, List.count_eq_zero.2 hC.dot_notMem,
        List.count_eq_zero.2 hD.dot_notMem]
    · simp only [List.forall_mem_cons]
      exact ⟨hA.nonempty, hB.nonempty, hC.nonempty, hD.nonempty, List.forall_mem_nil _⟩
  · rintro ⟨haccepted, hcount, hne⟩
    obtain ⟨A, cp, rfl, hA, hcount⟩ := exists_part hcount
    obtain ⟨B, cp, rfl, hB, hcount⟩ := exists_part hcount
    obtain ⟨C, D, rfl, hC, hcount⟩ := exists_part hcount
    rw [firstParts_quad hA hB hC (List.count_eq_zero.1 hcount)] at haccepted hne
    simp only [List.forall_mem_cons] at haccepted hne
    obtain ⟨haA, haB, haC, haD, -⟩ := haccepted
    obtain ⟨hneA, hneB, hneC, hneD, -⟩ := hne
    exact ⟨_, _, _, _, A, B, C, D, haA.isOctet hneA, haB.isOctet hneB, haC.isOctet hneC,
      haD.isOctet hneD, rfl⟩

/-- What is made of four parts that are accepted. -/
lemma inetAddr_accepted (h : ∀ part ∈ firstParts 4 cp, Accepted part) :
    ∃ addr, inetAddr cp = .ok addr ∧
      (addr = INADDR_NONE ↔ ∀ part ∈ firstParts 4 cp, decimalValue part = 255) ∧
      ∀ a b c d, DottedQuad cp a b c d → addr = networkOrder a b c d := by
  obtain ⟨A, B, C, D, hparts⟩ : ∃ A B C D, firstParts 4 cp = [A, B, C, D] := ⟨_, _, _, _, rfl⟩
  have hread := readParts_accepted h 0
  rw [← inetLoop_eq] at hread
  refine ⟨_, hread, ?_, ?_⟩
  · rw [hparts] at h ⊢
    simp only [List.forall_mem_cons] at h ⊢
    obtain ⟨hA, hB, hC, hD, -⟩ := h
    have hnone : INADDR_NONE.toNat = 255 * 2 ^ 24 + (255 * 2 ^ 16 + (255 * 2 ^ 8 + 255)) := rfl
    rw [← BitVec.toNat_inj, htonlImp_octets hA hB hC hD, hnone]
    have hvalues := And.intro hA.2 (And.intro hB.2 (And.intro hC.2 hD.2))
    constructor
    · intro heq
      exact ⟨by omega, by omega, by omega, by omega, List.forall_mem_nil _⟩
    · rintro ⟨h₀, h₁, h₂, h₃, -⟩
      rw [h₀, h₁, h₂, h₃]
  · rintro a b c d ⟨A, B, C, D, hA, hB, hC, hD, rfl⟩
    rw [firstParts_quad hA.dot_notMem hB.dot_notMem hC.dot_notMem hD.dot_notMem]
    rw [← BitVec.toNat_inj, htonlImp_octets hA.accepted hB.accepted hC.accepted hD.accepted,
      networkOrder_toNat, hA.value, hB.value, hC.value, hD.value]

/-- What is made of a part that is not accepted. -/
lemma inetAddr_found (h : (firstParts 4 cp).find? (fun part => ¬Accepted part) = some part) :
    inetAddr cp = if StartsSmall part then .ok INADDR_NONE else .error .overflow := by
  rw [inetAddr, inetLoop_eq, readParts_found h]

end

/-- **For which strings** `inet_addr` returns what it should. -/
theorem inetAddr_correct_iff (cp : List UInt8) : InetAddrCorrect cp ↔ InetAddrWorks cp := by
  cases hfind : (firstParts 4 cp).find? fun part => ¬Accepted part with
  | some part =>
      have hpart : ¬Accepted part := by simpa using List.find?_some hfind
      have hnot : ¬∀ part ∈ firstParts 4 cp, Accepted part :=
        fun h => hpart (h part (List.mem_of_find?_eq_some hfind))
      have hquad : ¬∃ a b c d, DottedQuad cp a b c d := fun h => hnot (dottedQuad_iff.1 h).1
      have hresult := inetAddr_found hfind
      constructor
      · rintro ⟨-, hnone⟩
        refine ⟨fun part hmem => ?_, fun h => absurd h hnot⟩
        obtain rfl : _ = part := Option.some.inj (hfind.symm.trans hmem)
        by_contra hsmall
        rw [hnone hquad, if_neg hsmall] at hresult
        cases hresult
      · rintro ⟨hsmall, -⟩
        refine ⟨fun a b c d h => absurd ⟨a, b, c, d, h⟩ hquad, fun _ => ?_⟩
        rw [hresult, if_pos (hsmall part hfind)]
  | none =>
      have hall : ∀ part ∈ firstParts 4 cp, Accepted part := by simpa using List.find?_eq_none.1 hfind
      obtain ⟨addr, hresult, hnone, haddr⟩ := inetAddr_accepted hall
      constructor
      · rintro ⟨-, hother⟩
        refine ⟨fun part hmem => absurd (hfind.symm.trans hmem) nofun, fun _ => ?_⟩
        by_cases hquad : ∃ a b c d, DottedQuad cp a b c d
        · exact .inl (dottedQuad_iff.1 hquad).2
        · exact .inr (hnone.1 (Except.ok.inj (hresult.symm.trans (hother hquad))))
      · rintro ⟨-, hquad⟩
        refine ⟨fun a b c d h => ?_, fun hno => ?_⟩
        · rw [hresult, haddr a b c d h]
        · rcases hquad hall with hshape | h255
          · exact absurd (dottedQuad_iff.2 ⟨hall, hshape⟩) hno
          · rw [hresult, hnone.2 h255]

/-- **`1.2`** is taken for `1.2.0.0`. -/
theorem inetAddr_correct_fails : ¬∀ cp : List UInt8, 0 ∉ cp → InetAddrCorrect cp := by
  intro hall
  obtain ⟨-, hother⟩ := hall ("1.2".toList.map charByte) (by decide)
  have hresult : inetAddr ("1.2".toList.map charByte) = .ok 0x0201#32 := by decide +kernel
  have hno : ¬∃ a b c d, DottedQuad ("1.2".toList.map charByte) a b c d := fun h =>
    absurd (dottedQuad_iff.1 h).2.1 (by decide +kernel)
  exact absurd (hresult.symm.trans (hother hno)) (by decide)

end Gramado.Libc
