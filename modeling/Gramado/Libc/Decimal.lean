import Gramado.Core.Kinguio

/-!
# Decimal conversion in the library

`itoa`, with its `reverse`, and `atoi` of `libc/stdlib.c`, beside the `kinguio_itoa` of `libc/stdio.c`.
An `int` operation whose result is no `int` ends a call.

* `decimal_round_trip` — both conversions store the same text, and `atoi` reads it back, for every `int`
  but the least.
-/

namespace Gramado.Libc

open Clib Overlay

/-! ## `itoa` -/

/-- `reverse`. -/
def reverse (s : ℕ → UInt8) : Except Undefined (ℕ → UInt8) := do
  let length ← strlen s 0
  .ok (swapEnds s 0 (length - 1))

/-- `do { s[i++] = n%10 + '0'; } while ((n /= 10) > 0)`. -/
def itoaLoop (n : ℤ) (i : ℕ) (s : ℕ → UInt8) : ℕ × (ℕ → UInt8) :=
  let s := Function.update s i (toByte (n.tmod 10 + 48))
  if n.tdiv 10 > 0 then itoaLoop (n.tdiv 10) (i + 1) s else (i + 1, s)
termination_by n.natAbs
decreasing_by exact natAbs_tdiv_lt (by omega)

/-- `itoa`. -/
def itoa (n : ℤ) (s : ℕ → UInt8) : Except Undefined (ℕ → UInt8) := do
  let sign := n
  let n ← if sign < 0 then intResult (-n) else .ok n
  let (i, s) := itoaLoop n 0 s
  let (i, s) := if sign < 0 then (i + 1, Function.update s i (charByte '-')) else (i, s)
  reverse (Function.update s i 0)

/-! ## `atoi` -/

/-- `'0' <= c && c <= '9'`. -/
def IsDigit (c : UInt8) : Prop := charByte '0' ≤ c ∧ c ≤ charByte '9'

instance : DecidablePred IsDigit := fun _ => inferInstanceAs (Decidable (_ ∧ _))

/-- `-` or `+`. -/
def IsSign (c : UInt8) : Prop := c = charByte '-' ∨ c = charByte '+'

instance : DecidablePred IsSign := fun _ => inferInstanceAs (Decidable (_ ∨ _))

/-- The first loop: what is left of the string from a digit or a sign on. -/
def skipToNumber : List UInt8 → List UInt8
  | [] => []
  | c :: str => if IsDigit c ∨ IsSign c then c :: str else skipToNumber str

/-- The last loop. -/
def readDigits : List UInt8 → ℤ → Except Undefined ℤ
  | [], rv => .ok rv
  | c :: str, rv =>
      if IsDigit c then do
        let tens ← intResult (rv * 10)
        let rv ← intResult (tens + ((c.toNat : ℤ) - 48))
        readDigits str rv
      else .ok rv

/-- `atoi`, of a string without its `NUL`. -/
def atoi (str : List UInt8) : Except Undefined ℤ := do
  let str := skipToNumber str
  let sign := str.head? = some (charByte '-')
  let str := if str.head?.any fun c => IsSign c then str.tail else str
  let rv ← readDigits str 0
  if sign then intResult (-rv) else .ok rv

/-! ## The texts -/

section

variable {s t : ℕ → UInt8} {n i : ℕ} {x : ℤ} {c : UInt8} {text : List UInt8}

/-- The loop of `itoa` is that of `kinguio_itoa`, where the number is not negative. -/
lemma itoaLoop_eq (n i : ℕ) (s : ℕ → UInt8) : itoaLoop n i s = putDigits n i s := by
  induction n using Nat.strong_induction_on generalizing i s with
  | _ n ih =>
      have hdiv : (n : ℤ).tdiv 10 = (n / 10 : ℕ) := rfl
      rw [itoaLoop, putDigits, hdiv]
      by_cases hlast : n < 10
      · have hzero : n / 10 = 0 := by omega
        rw [hzero, if_neg (by decide), if_neg (by decide)]
      · rw [if_pos (by omega), if_pos (by omega), ih (n / 10) (by omega)]

/-- `reverse` turns the string round. -/
lemma reverse_overlay (hne : text ≠ []) (htext : 0 ∉ text) (hlength : text.length < ADDRESSES) :
    reverse (overlay s 0 (text ++ [0])) = .ok (overlay s 0 (text.reverse ++ [0])) := by
  have hswap : swapEnds (overlay s 0 (text ++ [0])) 0 (0 + text.length - 1) =
      overlay s 0 (text.reverse ++ [0]) := swapEnds_overlay hne
  rw [Nat.zero_add] at hswap
  rw [reverse, strlen_overlay htext hlength, ok_bind, hswap]

lemma decimalText_ne_nil : decimalText x ≠ [] := by
  rw [decimalText]
  split_ifs <;> simp [Nat.toDigits_ne_nil]

/-- **`itoa`**: every `int` but the least comes out as its decimal text. -/
lemma itoa_eq (hlo : INT_MIN < x) (hhi : x ≤ INT_MAX) :
    itoa x s = .ok (overlay s 0 (decimalText x ++ [0])) := by
  have hnul := decimalText_nul (x := x)
  have hlength := length_decimalText hlo.le hhi
  have hspace : 11 < ADDRESSES := by decide
  have hfinish : reverse (overlay s 0 ((decimalText x).reverse ++ [0])) =
      .ok (overlay s 0 ((decimalText x).reverse.reverse ++ [0])) := reverse_overlay
    (List.reverse_ne_nil_iff.2 decimalText_ne_nil) (by rwa [List.mem_reverse])
    (by rw [List.length_reverse]; omega)
  rw [List.reverse_reverse] at hfinish
  -- the digits behind the loop, in reverse, and their number
  set digits := ((Nat.toDigits 10 x.natAbs).map charByte).reverse with hdigits
  have hloop : itoaLoop x.natAbs 0 s = (digits.length, overlay s 0 digits) := by
    rw [itoaLoop_eq, putDigits_eq, Nat.zero_add, hdigits, List.length_reverse, List.length_map]
  have hend : ∀ l b, Function.update (overlay s 0 l) l.length b = overlay s 0 (l ++ [b]) := fun l b => by
    have hupdate := update_end (s := s) (p := 0) (l := l) (a := b)
    rwa [Nat.zero_add] at hupdate
  rw [itoa]
  by_cases hneg : x < 0
  · have habs : -x = (x.natAbs : ℤ) := by omega
    have hresult : intResult (-x) = .ok (x.natAbs : ℤ) := by
      rw [habs]
      refine intResult_ok ?_ ?_ <;> simp only [INT_MIN, INT_MAX] at * <;> omega
    have htext : (decimalText x).reverse = digits ++ [charByte '-'] := by
      rw [decimalText, if_pos hneg, List.reverse_cons]
    have hlen : digits.length + 1 = (digits ++ [charByte '-']).length := by simp
    rw [htext] at hfinish
    simp only [if_pos hneg, hresult, ok_bind, hloop]
    rw [hend, hlen, hend, hfinish]
  · have habs : x = (x.natAbs : ℤ) := by omega
    have htext : (decimalText x).reverse = digits := by rw [decimalText, if_neg hneg]
    rw [htext] at hfinish
    have hloop' : itoaLoop x 0 s = (digits.length, overlay s 0 digits) :=
      (congrArg (itoaLoop · 0 s) habs).trans hloop
    simp only [if_neg hneg, ok_bind, hloop']
    rw [hend, hfinish]

/-! ## What is read back -/

lemma isDigit_digit {d : ℕ} (h : d < 10) : IsDigit (charByte (Nat.digitChar d)) ∧
    ((charByte (Nat.digitChar d)).toNat : ℤ) - 48 = d := by
  interval_cases d <;> decide

/-- Digits only make a number greater. -/
lemma le_ofDigitChars {l : List Char} : n ≤ Nat.ofDigitChars 10 l n := by
  induction l generalizing n with
  | nil => rw [Nat.ofDigitChars_nil]
  | cons c l ih =>
      rw [Nat.ofDigitChars_cons]
      have hmore := ih (n := 10 * n + (c.toNat - '0'.toNat))
      omega

/-- The last loop of `atoi` reads a number that an `int` can hold, and one that it cannot is an
overflow. -/
lemma readDigits_eq {l : List Char} (hl : ∀ c ∈ l, ∃ d < 10, c = Nat.digitChar d) (hn : (n : ℤ) ≤ INT_MAX) :
    readDigits (l.map charByte) n =
      if (Nat.ofDigitChars 10 l n : ℤ) ≤ INT_MAX then .ok (Nat.ofDigitChars 10 l n)
      else .error .overflow := by
  induction l generalizing n with
  | nil => rw [List.map_nil, readDigits, Nat.ofDigitChars_nil, if_pos hn]
  | cons c l ih =>
      obtain ⟨d, hd, rfl⟩ := hl c List.mem_cons_self
      obtain ⟨hdigit, hvalue⟩ := isDigit_digit hd
      have hle := le_ofDigitChars (n := 10 * n + d) (l := l)
      have hmin : INT_MIN = -2147483648 := rfl
      have hmax : INT_MAX = 2147483647 := rfl
      rw [List.map_cons, readDigits, if_pos hdigit, hvalue, Nat.ofDigitChars_cons_digitChar_of_lt_ten hd]
      by_cases htens : (n : ℤ) * 10 ≤ INT_MAX
      · rw [intResult_ok (by omega) htens, ok_bind]
        by_cases hsum : (n : ℤ) * 10 + d ≤ INT_MAX
        · have hcast : (n : ℤ) * 10 + d = (10 * n + d : ℕ) := by push_cast; ring
          rw [intResult_ok (by omega) hsum, ok_bind, hcast]
          exact ih (fun c hc => hl c (List.mem_cons_of_mem _ hc)) (by omega)
        · rw [intResult_error (by omega), if_neg (by omega)]
          rfl
      · rw [intResult_error (by omega), if_neg (by omega)]
        rfl

/-- **`atoi` of a decimal text.** -/
lemma atoi_decimalText (hhi : x ≤ INT_MAX) : atoi (decimalText x) =
    if INT_MIN < x then .ok x else .error .overflow := by
  have hdigits : ∀ c ∈ Nat.toDigits 10 x.natAbs, ∃ d < 10, c = Nat.digitChar d :=
    fun c hc => mem_toDigits (by decide) hc
  have hread := readDigits_eq (n := 0) hdigits (by decide)
  rw [Nat.ofDigitChars_ten_toDigits] at hread
  have hmin : INT_MIN = -2147483648 := rfl
  have hmax : INT_MAX = 2147483647 := rfl
  rw [atoi, decimalText]
  by_cases hneg : x < 0
  · have hskip : skipToNumber (charByte '-' :: (Nat.toDigits 10 x.natAbs).map charByte) =
        charByte '-' :: (Nat.toDigits 10 x.natAbs).map charByte := by
      rw [skipToNumber, if_pos (.inr (.inl rfl))]
    have hsign : (IsSign (charByte '-')) := .inl rfl
    rw [if_pos hneg, hskip]
    simp only [List.head?_cons, Option.any_some, hsign, decide_true, if_true, List.tail_cons]
    rw [← Nat.cast_zero, hread]
    by_cases hx : INT_MIN < x
    · rw [if_pos (by omega), if_pos hx, ok_bind, intResult_ok (by omega) (by omega)]
      exact congrArg Except.ok (by omega)
    · rw [if_neg (by omega), if_neg hx]
      rfl
  · obtain ⟨c, l, hl⟩ := List.exists_cons_of_ne_nil (Nat.toDigits_ne_nil (n := x.natAbs) (b := 10))
    obtain ⟨d, hd, rfl⟩ := hdigits c (hl ▸ List.mem_cons_self)
    obtain ⟨hdigit, -⟩ := isDigit_digit hd
    have hsign : ¬IsSign (charByte (Nat.digitChar d)) := by
      interval_cases d <;> decide
    have hminus : charByte (Nat.digitChar d) ≠ charByte '-' := fun h => hsign (.inl h)
    have hskip : skipToNumber (charByte (Nat.digitChar d) :: l.map charByte) =
        charByte (Nat.digitChar d) :: l.map charByte := by
      rw [skipToNumber, if_pos (.inl hdigit)]
    rw [hl] at hread
    rw [if_neg hneg, hl, List.map_cons, hskip]
    simp only [List.head?_cons, Option.any_some, hsign, decide_false, Bool.false_eq_true, if_false,
      Option.some.injEq, hminus]
    rw [← Nat.cast_zero, ← List.map_cons, hread, if_pos (by omega), if_pos (by omega)]
    exact congrArg Except.ok (by omega)

/-- Both conversions store the text of the number and its `NUL`, and the text is read back. -/
def RoundTrip (n : ℤ) : Prop :=
  (∀ s, itoa n s = .ok (overlay s 0 (decimalText n ++ [0]))) ∧
    (∀ s, kinguioItoa n s = .ok (overlay s 0 (decimalText n ++ [0]))) ∧ atoi (decimalText n) = .ok n

end

/-- **The round trip** works for every `int` but the least. -/
theorem decimal_round_trip {n : ℤ} (hlo : INT_MIN ≤ n) (hhi : n ≤ INT_MAX) :
    RoundTrip n ↔ n ≠ INT_MIN := by
  constructor
  · rintro ⟨-, -, hatoi⟩ rfl
    rw [atoi_decimalText hhi, if_neg (lt_irrefl _)] at hatoi
    cases hatoi
  · intro hn
    have hlt : INT_MIN < n := lt_of_le_of_ne hlo (Ne.symm hn)
    refine ⟨fun s => itoa_eq hlt hhi, fun s => kinguioItoa_eq hlo hhi, ?_⟩
    rw [atoi_decimalText hhi, if_pos hlt]

/-- The number -120. -/
theorem decimal_round_trip_negative : RoundTrip (-120) :=
  (decimal_round_trip (by decide) (by decide)).2 (by decide)

/-- **The least `int`** is negated by `itoa`, and no `int` is the result. -/
theorem decimal_round_trip_fails : ¬∀ n, INT_MIN ≤ n → n ≤ INT_MAX → RoundTrip n := by
  intro hall
  obtain ⟨hitoa, -, -⟩ := hall INT_MIN (by decide) (by decide)
  have hfirst : itoa INT_MIN (fun _ => 0) = .error .overflow := rfl
  exact absurd (hfirst.symm.trans (hitoa fun _ => 0)) nofun

end Gramado.Libc
