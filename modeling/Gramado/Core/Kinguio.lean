import Gramado.Core.CStrings

/-!
# Numbers as text

`kinguio_itoa` and `kinguio_i2hex`, which `core/clibs/kstdio.c` of the kernel and `libc/stdio.c` of the
library both have, on memory in which `str` is the place 0.

* `kinguioItoa_eq` — every `int` comes out as its decimal text.
* `kinguioI2hex_eq` — every `unsigned int` comes out in hexadecimal digits, without leading zeros.
-/

namespace Gramado.Clib

open Overlay

/-- A character constant. -/
def charByte (c : Char) : UInt8 := UInt8.ofNat c.toNat

/-! ## The texts -/

/-- The decimal text: a minus, if the number is negative, and the digits without leading zeros. -/
def decimalText (n : ℤ) : List UInt8 :=
  if n < 0 then charByte '-' :: (Nat.toDigits 10 n.natAbs).map charByte
  else (Nat.toDigits 10 n.natAbs).map charByte

/-- The hexadecimal digits, in upper case. -/
def hexText (n : ℕ) : List UInt8 := (Nat.toDigits 16 n).map fun c => charByte c.toUpper

/-! ## `kinguio_itoa` -/

/-- A quotient by ten is nearer to zero. -/
lemma natAbs_tdiv_lt {value : ℤ} (h : value.tdiv 10 ≠ 0) : (value.tdiv 10).natAbs < value.natAbs := by
  have hpos := Int.natAbs_pos.2 h
  rw [Int.natAbs_tdiv] at hpos ⊢
  exact Nat.div_lt_self (Nat.pos_of_ne_zero fun hzero => by simp [hzero] at hpos) (by decide)

/-- `do { *p++ = (char)(value % 10) + '0'; value /= 10; } while (value)`. -/
def putDigits (value : ℤ) (p : ℕ) (s : ℕ → UInt8) : ℕ × (ℕ → UInt8) :=
  let s := Function.update s p (toByte (value.tmod 10 + 48))
  if value.tdiv 10 ≠ 0 then putDigits (value.tdiv 10) (p + 1) s else (p + 1, s)
termination_by value.natAbs
decreasing_by exact natAbs_tdiv_lt ‹_›

/-- The digits, the `NUL`, and the exchange that brings the digits into order. -/
def itoaDigits (valuestring : ℕ) (value minFlag : ℤ) (s : ℕ → UInt8) : ℕ → UInt8 :=
  let (p, s) := putDigits value valuestring s
  let s := if minFlag ≠ 0 then Function.update s valuestring (s valuestring + 1) else s
  let s := Function.update s p 0
  swapEnds s valuestring (p - 1)

/-- `kinguio_itoa`. -/
def kinguioItoa (val : ℤ) (s : ℕ → UInt8) : Except Undefined (ℕ → UInt8) :=
  if 0 > val then
    let s := Function.update s 0 (charByte '-')
    if -INT_MAX > val then .ok (itoaDigits 1 INT_MAX INT_MAX s)
    else do
      let value ← intResult (-val)
      .ok (itoaDigits 1 value 0 s)
  else .ok (itoaDigits 0 val 0 s)

/-! ## `kinguio_i2hex` -/

/-- `while (cp > dest) { x = n & 0xF; n >>= 4; *--cp = …; }`. -/
def putNibbles : ℕ → ℕ → (ℕ → UInt8) → ℕ → UInt8
  | 0, _, s => s
  | cp + 1, n, s =>
      let x := n % 16
      putNibbles cp (n / 16) (Function.update s cp (toByte (x + if x > 9 then 65 - 10 else 48)))

/-- `for (i = 0; i < len; i++)`, with `left` turns to go: the first digit that is no zero comes to the
front, with those behind it. -/
def dropZeros : ℕ → ℕ → (ℕ → UInt8) → Except Undefined (ℕ → UInt8)
  | 0, _, s => .ok s
  | left + 1, cp, s => if s cp = charByte '0' then dropZeros left (cp + 1) s else strcpy 0 cp s

/-- `kinguio_i2hex`, for a value in the range of its type; `size` is the number of bytes to which the
buffer is cleared. -/
def i2hex (size : ℤ) (val len : ℕ) (s : ℕ → UInt8) : Except Undefined (ℕ → UInt8) :=
  if val = 0 then .ok (Function.update (Function.update s 0 (charByte '0')) 1 0)
  else do
    let s := putNibbles len val s
    let s := Function.update s len 0
    let s ← dropZeros len 0 s
    let n ← strlen s 0
    .ok (memset n 0 (size - n) s)

/-! ## What they print -/

section

variable {s : ℕ → UInt8} {n p k len : ℕ} {val size : ℤ} {l : List UInt8}

lemma toByte_digit (h : n < 10) : toByte (n + 48) = charByte (Nat.digitChar n) := by
  interval_cases n <;> rfl

lemma toByte_nibble (h : n < 16) :
    toByte (n + if n > 9 then 65 - 10 else 48) = charByte (Nat.digitChar n).toUpper := by
  interval_cases n <;> rfl

/-- The loop of `kinguio_itoa` leaves the digits in reverse. -/
lemma putDigits_eq (n p : ℕ) (s : ℕ → UInt8) : putDigits n p s =
    (p + (Nat.toDigits 10 n).length, overlay s p ((Nat.toDigits 10 n).map charByte).reverse) := by
  induction n using Nat.strong_induction_on generalizing p s with
  | _ n ih =>
      have hmod : (n : ℤ).tmod 10 = (n % 10 : ℕ) := rfl
      have hdiv : (n : ℤ).tdiv 10 = (n / 10 : ℕ) := rfl
      rw [putDigits, hmod, hdiv, toByte_digit (Nat.mod_lt n (by decide)), update_eq]
      by_cases hlast : n < 10
      · have hzero : n / 10 = 0 := by omega
        have hsame : n % 10 = n := by omega
        rw [hzero, if_neg (by simp), hsame, Nat.toDigits_of_lt_base hlast]
        rfl
      · have hnext : ((n / 10 : ℕ) : ℤ) ≠ 0 := by omega
        rw [if_pos hnext, ih (n / 10) (by omega),
          Nat.toDigits_of_base_le (n := n) (by decide) (by omega)]
        simp only [List.length_append, List.map_append, List.reverse_append, List.length_singleton,
          List.map_singleton, List.reverse_singleton, overlay_append]
        rw [Nat.add_assoc, Nat.add_comm 1]

/-- A character of a number is the character of a digit. -/
lemma mem_toDigits {c : Char} {b : ℕ} (hb : 1 < b) (h : c ∈ Nat.toDigits b n) :
    ∃ d < b, c = Nat.digitChar d := by
  induction n using Nat.strong_induction_on with
  | _ n ih =>
      by_cases hlast : n < b
      · rw [Nat.toDigits_of_lt_base hlast] at h
        exact ⟨n, hlast, List.mem_singleton.1 h⟩
      · rw [Nat.toDigits_of_base_le hb (not_lt.1 hlast)] at h
        rcases List.mem_append.1 h with h | h
        · exact ih (n / b) (Nat.div_lt_self (by omega) hb) h
        · exact ⟨n % b, Nat.mod_lt n (by omega), List.mem_singleton.1 h⟩

lemma decimalText_nul {x : ℤ} : 0 ∉ decimalText x := by
  have hdigits : 0 ∉ (Nat.toDigits 10 x.natAbs).map charByte := fun h => by
    obtain ⟨c, hc, hzero⟩ := List.mem_map.1 h
    obtain ⟨d, hd, rfl⟩ := mem_toDigits (by decide) hc
    interval_cases d <;> cases hzero
  rw [decimalText]
  split_ifs
  · exact fun h => hdigits ((List.mem_cons.1 h).resolve_left (by decide))
  · exact hdigits

lemma hexText_nul : 0 ∉ hexText n := fun h => by
  obtain ⟨c, hc, hzero⟩ := List.mem_map.1 h
  obtain ⟨d, hd, rfl⟩ := mem_toDigits (by decide) hc
  interval_cases d <;> cases hzero

/-- A decimal text is short. -/
lemma length_decimalText (hlo : INT_MIN ≤ val) (hhi : val ≤ INT_MAX) : (decimalText val).length ≤ 11 := by
  have hdigits : (Nat.toDigits 10 val.natAbs).length ≤ 10 := by
    refine (Nat.length_toDigits_le_iff (by decide) (by decide)).2 ?_
    simp only [INT_MIN, INT_MAX] at hlo hhi
    omega
  rw [decimalText]
  split_ifs
  · rw [List.length_cons, List.length_map]
    omega
  · rw [List.length_map]
    omega

/-- The decimal digits. -/
lemma itoaDigits_eq (n p : ℕ) (s : ℕ → UInt8) :
    itoaDigits p n 0 s = overlay s p ((Nat.toDigits 10 n).map charByte ++ [0]) := by
  have hdigits : ((Nat.toDigits 10 n).map charByte).reverse ≠ [] := by simp [Nat.toDigits_ne_nil]
  have hlength : (Nat.toDigits 10 n).length = ((Nat.toDigits 10 n).map charByte).reverse.length := by
    rw [List.length_reverse, List.length_map]
  simp only [itoaDigits, putDigits_eq, ne_eq, not_true_eq_false, if_false]
  rw [hlength, update_end, swapEnds_overlay hdigits, List.reverse_reverse]

/-- The digits of `INT_MAX`, the last one raised: those of the least `int`. -/
lemma itoaDigits_min (p : ℕ) (s : ℕ → UInt8) :
    itoaDigits p INT_MAX INT_MAX s = overlay s p ((Nat.toDigits 10 2147483648).map charByte ++ [0]) := by
  have hput := putDigits_eq 2147483647 p s
  have hfirst : overlay s p ((Nat.toDigits 10 2147483647).map charByte).reverse p = 55 :=
    overlay_inside (k := 0) (by decide)
  have hraise : Function.update (overlay s p ((Nat.toDigits 10 2147483647).map charByte).reverse) p 56 =
      overlay s p ((Nat.toDigits 10 2147483648).map charByte).reverse :=
    update_inside (k := 0) (by decide)
  have hlength : (Nat.toDigits 10 2147483647).length =
      ((Nat.toDigits 10 2147483648).map charByte).reverse.length := by decide
  have hmax : INT_MAX = (2147483647 : ℕ) := rfl
  rw [itoaDigits, hmax, hput]
  simp only [hfirst, ne_eq, Nat.cast_ofNat, OfNat.ofNat_ne_zero, not_false_eq_true, if_true]
  rw [show (55 : UInt8) + 1 = 56 from rfl, hraise, hlength, update_end, swapEnds_overlay (by decide),
    List.reverse_reverse]

/-- **`kinguio_itoa`**: every `int` comes out as its decimal text. -/
theorem kinguioItoa_eq (hlo : INT_MIN ≤ val) (hhi : val ≤ INT_MAX) :
    kinguioItoa val s = .ok (overlay s 0 (decimalText val ++ [0])) := by
  have hsign : ∀ digits : List UInt8, overlay (Function.update s 0 (charByte '-')) 1 digits =
      overlay s 0 (charByte '-' :: digits) := fun digits => by
    rw [update_eq]
    exact (overlay_append (l := [charByte '-'])).symm
  rw [kinguioItoa, decimalText]
  by_cases hneg : val < 0
  · rw [if_pos hneg, if_pos hneg]
    by_cases hmin : val = INT_MIN
    · subst hmin
      rw [if_pos (by decide), itoaDigits_min, hsign]
      rfl
    · have habs : -val = (val.natAbs : ℤ) := by omega
      have hresult : intResult (-val) = .ok (-val) := by
        refine intResult_ok ?_ ?_ <;> simp only [INT_MIN, INT_MAX] at * <;> omega
      rw [if_neg (by simp only [INT_MIN, INT_MAX] at *; omega)]
      simp only [hresult, ok_bind]
      rw [habs, itoaDigits_eq, hsign]
      rfl
  · have habs : val = (val.natAbs : ℤ) := by omega
    rw [if_neg hneg, if_neg hneg]
    nth_rewrite 1 [habs]
    rw [itoaDigits_eq]

/-! ## What `kinguio_i2hex` prints -/

/-- The last `len` hexadecimal digits of a number. -/
def nibbleText : ℕ → ℕ → List UInt8
  | 0, _ => []
  | len + 1, n => nibbleText len (n / 16) ++ [charByte (Nat.digitChar (n % 16)).toUpper]

@[simp] lemma length_nibbleText (len n : ℕ) : (nibbleText len n).length = len := by
  induction len generalizing n with
  | zero => rfl
  | succ len ih => simp [nibbleText, ih]

lemma putNibbles_eq (len n : ℕ) (s : ℕ → UInt8) :
    putNibbles len n s = overlay s 0 (nibbleText len n) := by
  induction len generalizing n s with
  | zero => simp [putNibbles, nibbleText]
  | succ len ih =>
      have hfront := update_front (s := s) (p := 0) (l := nibbleText len (n / 16))
        (a := charByte (Nat.digitChar (n % 16)).toUpper)
      rw [length_nibbleText, Nat.zero_add] at hfront
      rw [putNibbles, nibbleText, ← hfront, ← ih, ← toByte_nibble (Nat.mod_lt n (by decide))]

lemma nibbleText_zero (len : ℕ) : nibbleText len 0 = List.replicate len (charByte '0') := by
  induction len with
  | zero => rfl
  | succ len ih =>
      rw [nibbleText, Nat.zero_div, ih, List.replicate_succ']
      rfl

lemma length_hexText : (hexText n).length = (Nat.toDigits 16 n).length := by
  rw [hexText, List.length_map]

/-- Zeros, and the digits. -/
lemma nibbleText_eq (hn : 0 < n) (hlen : n < 16 ^ len) : (hexText n).length ≤ len ∧
    nibbleText len n = List.replicate (len - (hexText n).length) (charByte '0') ++ hexText n := by
  induction len generalizing n with
  | zero => omega
  | succ len ih =>
      by_cases hlast : n < 16
      · have hzero : n / 16 = 0 := by omega
        have hsame : n % 16 = n := by omega
        rw [nibbleText, hzero, hsame, nibbleText_zero, hexText, Nat.toDigits_of_lt_base hlast]
        simp
      · obtain ⟨hlength, htext⟩ := ih (n := n / 16) (by omega) (by rw [pow_succ] at hlen; omega)
        have hdigits : hexText n = hexText (n / 16) ++ [charByte (Nat.digitChar (n % 16)).toUpper] := by
          rw [hexText, Nat.toDigits_of_base_le (by decide) (by omega), List.map_append]
          rfl
        rw [nibbleText, htext, hdigits, List.length_append, List.length_singleton]
        refine ⟨by omega, ?_⟩
        rw [Nat.add_sub_add_right, List.append_assoc]

/-- The first digit is no zero. -/
lemma hexText_head (hn : 0 < n) : ∃ c rest, hexText n = c :: rest ∧ c ≠ charByte '0' := by
  induction n using Nat.strong_induction_on with
  | _ n ih =>
      by_cases hlast : n < 16
      · refine ⟨charByte (Nat.digitChar n).toUpper, [], ?_, ?_⟩
        · rw [hexText, Nat.toDigits_of_lt_base hlast]
          rfl
        · interval_cases n <;> decide
      · obtain ⟨c, rest, htext, hc⟩ := ih (n / 16) (by omega) (by omega)
        refine ⟨c, rest ++ [charByte (Nat.digitChar (n % 16)).toUpper], ?_, hc⟩
        rw [hexText, Nat.toDigits_of_base_le (by decide) (by omega), List.map_append]
        rw [hexText] at htext
        rw [htext]
        rfl

/-- The search for the first digit that is no zero. -/
lemma dropZeros_eq {left : ℕ} (hzero : ∀ i < k, s (p + i) = charByte '0')
    (hstop : s (p + k) ≠ charByte '0') (hk : k < left) : dropZeros left p s = strcpy 0 (p + k) s := by
  induction k generalizing p left with
  | zero =>
      obtain ⟨left, rfl⟩ : ∃ m, left = m + 1 := ⟨left - 1, by omega⟩
      rw [Nat.add_zero] at hstop
      rw [dropZeros, if_neg hstop, Nat.add_zero]
  | succ k ih =>
      obtain ⟨left, rfl⟩ : ∃ m, left = m + 1 := ⟨left - 1, by omega⟩
      have hnext : p + 1 + k = p + (k + 1) := by omega
      have hfirst : s p = charByte '0' := hzero 0 (by omega)
      rw [dropZeros, if_pos hfirst, ih (fun i hi => ?_) (by rwa [hnext]) (by omega), hnext]
      rw [Nat.add_assoc, Nat.add_comm 1]
      exact hzero (i + 1) (by omega)

/-- **`kinguio_i2hex`**: every number with no more than `len` digits comes out in its digits. -/
theorem i2hex_eq (size : ℤ) (s : ℕ → UInt8) (hlen : n < 16 ^ len) (hspace : len < ADDRESSES) :
    ∃ t, i2hex size n len s = .ok (overlay t 0 (hexText n ++ [0])) := by
  rcases Nat.eq_zero_or_pos n with rfl | hn
  · refine ⟨s, ?_⟩
    have hone := update_end (s := s) (p := 0) (l := [charByte '0']) (a := 0)
    rw [i2hex, if_pos rfl, update_eq (s := s)]
    exact congrArg Except.ok hone
  · obtain ⟨hlength, htext⟩ := nibbleText_eq hn hlen
    obtain ⟨c, rest, hhead, hc⟩ := hexText_head hn
    set k := len - (hexText n).length with hk
    set m := overlay s 0 (List.replicate k (charByte '0')) with hm
    have hend : Function.update (putNibbles len n s) len 0 = overlay m k (hexText n ++ [0]) := by
      have hupdate := update_end (s := s) (p := 0) (l := nibbleText len n) (a := 0)
      rw [length_nibbleText, Nat.zero_add] at hupdate
      rw [putNibbles_eq, hupdate, htext, List.append_assoc, overlay_append, List.length_replicate,
        Nat.zero_add]
    have hzeros : ∀ i < k, overlay m k (hexText n ++ [0]) (0 + i) = charByte '0' := fun i hi => by
      rw [overlay_outside (.inl (by omega)), hm, overlay_inside (by simpa using hi), List.getElem_replicate]
    have hstop : overlay m k (hexText n ++ [0]) (0 + k) ≠ charByte '0' := by
      have hcell := overlay_inside (s := m) (p := k) (k := 0) (l := c :: rest ++ [0]) (by simp)
      rw [Nat.add_zero] at hcell
      rw [Nat.zero_add, hhead, hcell]
      exact hc
    have hlt : k < len := by
      rw [hhead, List.length_cons] at hk hlength
      omega
    have hdrop := dropZeros_eq hzeros hstop hlt
    rw [Nat.zero_add, strcpy_overlay (Nat.zero_le k) hexText_nul (by omega)] at hdrop
    have hstrlen := strlen_overlay (s := overlay m k (hexText n ++ [0])) (p := 0) hexText_nul
      (show (hexText n).length < ADDRESSES by omega)
    rw [i2hex, if_neg hn.ne']
    simp only [hend, hdrop, hstrlen, ok_bind]
    obtain ⟨t, ht⟩ := memset_overlay (overlay m k (hexText n ++ [0])) 0 (hexText n)
      (size - (hexText n).length)
    rw [Nat.zero_add] at ht
    exact ⟨t, congrArg Except.ok ht⟩

end

end Gramado.Clib
