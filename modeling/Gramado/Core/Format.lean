import Gramado.Core.Kinguio
import Gramado.Lib.Concat

/-!
# Formats and what they stand for

A format is given by its items: characters, `%%`, and conversions with their arguments.  `Item.format`
is how an item is written, `Item.expansion` what it stands for, and `Matches` says that a `va_list` holds
the arguments, from the slot `n` on.

The standard has the letters of `%x` in lower case.  The formatters of this system take `%x` for `%X`;
`Letters` says which of the two is asked for.
-/

namespace Gramado.Clib

/-- What `va_arg` finds: slots of 64 bits, and the bytes up to the `NUL` at an address. -/
structure VaList where
  slot : ℕ → ℕ
  text : ℕ → Option (List UInt8)

/-- A character of a format that stands for itself. -/
abbrev PlainChar := {c : UInt8 // c ≠ 0 ∧ c ≠ charByte '%'}

/-- The bytes of a string without its `NUL`. -/
abbrev Text := {s : List UInt8 // 0 ∉ s}

/-- The values of an `int`. -/
abbrev IntValue := {n : ℤ // INT_MIN ≤ n ∧ n ≤ INT_MAX}

/-- An item of a format, with its argument; `%i` is written for `%d` if `i` is true. -/
inductive Item where
  | text (c : PlainChar)
  | percent
  | char (c : UInt8)
  | str (s : Text)
  | int (i : Bool) (n : IntValue)
  | unsigned (n : Fin (2 ^ 32))
  | hex (n : Fin (2 ^ 32))

/-- The letters of hexadecimal digits. -/
inductive Letters where
  | upper
  | lower
  deriving DecidableEq

/-- Hexadecimal digits. -/
def hexDigits : Letters → ℕ → List UInt8
  | .upper, n => hexText n
  | .lower, n => (Nat.toDigits 16 n).map charByte

/-- No digit of the number is a letter. -/
def NoLetters (n : ℕ) : Prop := ∀ c ∈ Nat.toDigits 16 n, c.isDigit

instance : DecidablePred NoLetters := fun n =>
  inferInstanceAs (Decidable (∀ c ∈ Nat.toDigits 16 n, c.isDigit))

namespace Item

/-- How the item is written. -/
def format : Item → List UInt8
  | .text c => [c.1]
  | .percent => [charByte '%', charByte '%']
  | .char _ => [charByte '%', charByte 'c']
  | .str _ => [charByte '%', charByte 's']
  | .int i _ => [charByte '%', if i then charByte 'i' else charByte 'd']
  | .unsigned _ => [charByte '%', charByte 'u']
  | .hex _ => [charByte '%', charByte 'x']

/-- What the item stands for. -/
def expansion (letters : Letters) : Item → List UInt8
  | .text c => [c.1]
  | .percent => [charByte '%']
  | .char c => [c]
  | .str s => s.1
  | .int _ n => decimalText n.1
  | .unsigned n => decimalText (n.val : ℤ)
  | .hex n => hexDigits letters n.val

/-- The number of its arguments. -/
def arguments : Item → ℕ
  | .text _ => 0
  | .percent => 0
  | _ => 1

/-- Its argument is in the slot `n`. -/
def At (va : VaList) (n : ℕ) : Item → Prop
  | .text _ => True
  | .percent => True
  | .char c => UInt8.ofNat (va.slot n) = c
  | .str s => va.slot n ≠ 0 ∧ va.text (va.slot n) = some s.1
  | .int _ k => toInt32 (va.slot n) = k.1
  | .unsigned k => va.slot n % 2 ^ 32 = k.val
  | .hex k => va.slot n % 2 ^ 32 = k.val

end Item

/-! ## What is printed -/

/-- What the loop of a formatter has stored from `str` on, the number of arguments that it has taken, and
its buffer for numbers. -/
structure Output where
  out : List UInt8
  arguments : ℕ
  buffer : ℕ → UInt8

/-- `_vsputs_r`, of a string and for a conversion that takes `n` arguments. -/
def Output.puts (o : Output) (text : List UInt8) (n : ℕ) : Output :=
  { o with out := o.out ++ text, arguments := o.arguments + n }

/-- `_vsputs_r` of the buffer, after a number was written to it. -/
def Output.print (o : Output) (write : (ℕ → UInt8) → Except Undefined (ℕ → UInt8)) :
    Except Undefined Output := do
  let buffer ← write o.buffer
  let text ← cString buffer
  .ok ({ o with buffer := buffer }.puts text 1)

/-- The string `_c_r`, of one character. -/
def charString (c : UInt8) : List UInt8 := if c = 0 then [] else [c]

/-! ## The loop -/

/-- What makes a formatter: how a character is copied, what `%l` does, if it is known, and the `switch`
over the conversions.  `output` is what every formatter keeps. -/
structure Formatter (σ : Type) where
  output : σ → Output
  put : UInt8 → σ → σ
  isLong : UInt8 → Bool
  setLong : σ → σ
  conversion : UInt8 → σ → Except Undefined σ

/-- Where the loop stands: outside a conversion, behind a `%`, or behind `%l`. -/
inductive Place where
  | text
  | percent
  | long

/-- `while (fmt[index])`, on the memory from `fmt + index` on. -/
def formatLoop {σ : Type} (f : Formatter σ) : Place → ℤ → List UInt8 → σ → Except Undefined σ
  | _, _, [], _ => .error .badPointer
  | .text, index, c :: fmt, o =>
      if c = 0 then .ok o
      else if c = charByte '%' then do
        let index ← intResult (index + 1)
        formatLoop f .percent index fmt o
      else do
        let index ← intResult (index + 1)
        formatLoop f .text index fmt (f.put c o)
  | .percent, index, c :: fmt, o =>
      if f.isLong c then do
        let index ← intResult (index + 1)
        formatLoop f .long index fmt (f.setLong o)
      else do
        let o ← f.conversion c o
        let index ← intResult (index + 1)
        formatLoop f .text index fmt o
  | .long, index, c :: fmt, o => do
      let o ← f.conversion c o
      let index ← intResult (index + 1)
      formatLoop f .text index fmt o

/-- The arguments of the items are in the slots from `n` on. -/
def Matches {ι : Type} (at' : ℕ → ι → Prop) (arguments : ι → ℕ) : ℕ → List ι → Prop
  | _, [] => True
  | n, item :: items => at' n item ∧ Matches at' arguments (n + arguments item) items

section

variable {σ ι : Type} {f : Formatter σ} {o o' : σ} {fmt : List UInt8} {index : ℤ} {c : UInt8} {n : ℕ}
  {J : σ → Prop} {at' : ℕ → ι → Prop} {format printed : ι → List UInt8} {arguments : ι → ℕ}
  {items : List ι}

lemma formatLoop_text (hc : c ≠ 0) (hpercent : c ≠ charByte '%') (hlow : 0 ≤ index)
    (hindex : index + 1 ≤ INT_MAX) : formatLoop f .text index (c :: fmt) o =
      formatLoop f .text (index + 1) fmt (f.put c o) := by
  have hmin : INT_MIN ≤ 0 := by decide
  rw [formatLoop, if_neg hc, if_neg hpercent, intResult_ok (by omega) hindex, ok_bind]

lemma formatLoop_conversion (hlong : f.isLong c = false) (hc : f.conversion c o = .ok o')
    (hlow : 0 ≤ index) (hindex : index + 2 ≤ INT_MAX) :
    formatLoop f .text index (charByte '%' :: c :: fmt) o = formatLoop f .text (index + 2) fmt o' := by
  have hmin : INT_MIN ≤ 0 := by decide
  have hnext : index + 1 + 1 = index + 2 := by omega
  rw [formatLoop, if_neg (by decide), if_pos rfl, intResult_ok (by omega) (by omega), ok_bind,
    formatLoop, hlong, if_neg Bool.false_ne_true, hc, ok_bind, intResult_ok (by omega) (by omega), ok_bind,
    hnext]

/-- A conversion behind `%l`. -/
lemma formatLoop_long {l : UInt8} (hlong : f.isLong l = true) (hc : f.conversion c (f.setLong o) = .ok o')
    (hlow : 0 ≤ index) (hindex : index + 3 ≤ INT_MAX) :
    formatLoop f .text index (charByte '%' :: l :: c :: fmt) o =
      formatLoop f .text (index + 3) fmt o' := by
  have hmin : INT_MIN ≤ 0 := by decide
  have hnext : index + 1 + 1 + 1 = index + 3 := by omega
  rw [formatLoop, if_neg (by decide), if_pos rfl, intResult_ok (by omega) (by omega), ok_bind,
    formatLoop, if_pos hlong, intResult_ok (by omega) (by omega), ok_bind, formatLoop, hc, ok_bind,
    intResult_ok (by omega) (by omega), ok_bind, hnext]

/-- What the loop does with an item that is printed as `printed`. -/
def ItemStep (f : Formatter σ) (J : σ → Prop) (format printed : List UInt8) (arguments : ℕ) (o : σ) :
    Prop :=
  ∀ fmt index, 0 ≤ index → index + format.length ≤ INT_MAX →
    ∃ o', formatLoop f .text index (format ++ fmt) o = formatLoop f .text (index + format.length) fmt o' ∧
      J o' ∧ (f.output o').out = (f.output o).out ++ printed ∧
        (f.output o').arguments = (f.output o).arguments + arguments

/-- **The items of a format**, from what the loop does with one. -/
lemma formatLoop_items (hstep : ∀ item o, J o → at' (f.output o).arguments item →
      ItemStep f J (format item) (printed item) (arguments item) o) (fmt : List UInt8) (hJ : J o)
    (hmatches : Matches at' arguments (f.output o).arguments items) (hlow : 0 ≤ index)
    (hindex : index + (items.flatMap format).length ≤ INT_MAX) :
    ∃ o', formatLoop f .text index (items.flatMap format ++ fmt) o =
        formatLoop f .text (index + (items.flatMap format).length) fmt o' ∧
      J o' ∧ (f.output o').out = (f.output o).out ++ items.flatMap printed ∧
        (f.output o').arguments = (f.output o).arguments + (items.map arguments).sum := by
  induction items generalizing index o with
  | nil => exact ⟨o, by simp, hJ, by simp, by simp⟩
  | cons item items ih =>
      obtain ⟨hitem, hrest⟩ := hmatches
      rw [List.flatMap_cons, List.length_append] at hindex
      push_cast at hindex
      obtain ⟨o₁, hfirst, hJ₁, hout, harguments⟩ :=
        hstep item o hJ hitem (items.flatMap format ++ fmt) index hlow (by omega)
      rw [← harguments] at hrest
      obtain ⟨o₂, hmore, hJ₂, hout', harguments'⟩ := ih hJ₁ hrest
        (show 0 ≤ index + ((format item).length : ℤ) by omega) (by omega)
      refine ⟨o₂, ?_, hJ₂, ?_, ?_⟩
      · rw [List.flatMap_cons, List.append_assoc, hfirst, hmore, List.length_append]
        push_cast
        rw [add_assoc]
      · rw [hout', hout, List.flatMap_cons, List.append_assoc]
      · rw [harguments', harguments, List.map_cons, List.sum_cons, Nat.add_assoc]

/-- The index stays an `int` up to the end of the format. -/
lemma formatLoop_index {place : Place} (hnul : 0 ∉ fmt) (hindex : index ≤ INT_MAX)
    (h : formatLoop f place index (fmt ++ [0]) o = .ok o') : index + fmt.length ≤ INT_MAX := by
  induction fmt generalizing place index o with
  | nil => simpa using hindex
  | cons c fmt ih =>
      have hc : c ≠ 0 := fun hc => hnul (by simp [hc])
      -- whichever way the loop goes, it goes on with the next index
      have hnext : ∀ {place o}, (do
          let index ← intResult (index + 1)
          formatLoop f place index (fmt ++ [0]) o) = .ok o' → index + (fmt.length + 1 : ℕ) ≤ INT_MAX := by
        intro place o h
        obtain ⟨next, hnext, h⟩ := bind_eq_ok h
        obtain ⟨rfl, hle⟩ := intResult_inv hnext
        have hmore := ih (fun hmem => hnul (List.mem_cons_of_mem c hmem)) hle h
        omega
      rw [List.cons_append] at h
      rw [List.length_cons]
      cases place with
      | text =>
          rw [formatLoop, if_neg hc] at h
          by_cases hpercent : c = charByte '%'
          · rw [if_pos hpercent] at h
            exact hnext h
          · rw [if_neg hpercent] at h
            exact hnext h
      | percent =>
          rw [formatLoop] at h
          by_cases hlong : f.isLong c = true
          · rw [if_pos hlong] at h
            exact hnext h
          · rw [if_neg hlong] at h
            obtain ⟨o₁, -, h⟩ := bind_eq_ok h
            exact hnext h
      | long =>
          rw [formatLoop] at h
          obtain ⟨o₁, -, h⟩ := bind_eq_ok h
          exact hnext h

/-- **A conversion that is the `NUL`**: the loop goes on behind it. -/
lemma formatLoop_end {place : Place} (hplace : place ≠ .text) (hlong : f.isLong 0 = false) :
    ¬∃ o', formatLoop f place index [0] o = .ok o' := by
  rintro ⟨o', h⟩
  have hstop : ∀ {o}, (do
      let index ← intResult (index + 1)
      formatLoop f .text index [] o) ≠ .ok o' := by
    intro o h
    obtain ⟨next, -, h⟩ := bind_eq_ok h
    cases h
  cases place with
  | text => exact hplace rfl
  | percent =>
      rw [formatLoop, hlong, if_neg Bool.false_ne_true] at h
      obtain ⟨o₁, -, h⟩ := bind_eq_ok h
      exact hstop h
  | long =>
      rw [formatLoop] at h
      obtain ⟨o₁, -, h⟩ := bind_eq_ok h
      exact hstop h

end

/-! ## Lemmas -/

section

variable {n k : ℕ} {x y : ℤ} {c : UInt8} {letters : Letters}

lemma mem_decimalText (h : c ∈ decimalText x) :
    c = charByte '-' ∨ ∃ d < 10, c = charByte (Nat.digitChar d) := by
  have hdigits : c ∈ (Nat.toDigits 10 x.natAbs).map charByte →
      ∃ d < 10, c = charByte (Nat.digitChar d) := fun h => by
    obtain ⟨b, hb, rfl⟩ := List.mem_map.1 h
    obtain ⟨d, hd, rfl⟩ := mem_toDigits (by decide) hb
    exact ⟨d, hd, rfl⟩
  rw [decimalText] at h
  split_ifs at h
  · rcases List.mem_cons.1 h with rfl | h
    · exact .inl rfl
    · exact .inr (hdigits h)
  · exact .inr (hdigits h)

/-- There is no `%` in a number. -/
lemma percent_notMem_decimalText : charByte '%' ∉ decimalText x := fun h => by
  rcases mem_decimalText h with h | ⟨d, hd, h⟩
  · exact absurd h (by decide)
  · interval_cases d <;> exact absurd h (by decide)

/-- There is no minus before a number that is not negative, and there is one before one that is. -/
lemma minus_mem_decimalText : charByte '-' ∈ decimalText x ↔ x < 0 := by
  have hdigits : charByte '-' ∉ (Nat.toDigits 10 x.natAbs).map charByte := fun h => by
    obtain ⟨b, hb, hminus⟩ := List.mem_map.1 h
    obtain ⟨d, hd, rfl⟩ := mem_toDigits (by decide) hb
    interval_cases d <;> exact absurd hminus (by decide)
  rw [decimalText]
  split_ifs with hneg
  · exact iff_of_true List.mem_cons_self hneg
  · exact iff_of_false hdigits hneg

lemma mem_hexDigits (h : c ∈ hexDigits letters n) : ∃ d < 16,
    c = charByte (Nat.digitChar d) ∨ c = charByte (Nat.digitChar d).toUpper := by
  cases letters with
  | upper =>
      obtain ⟨b, hb, rfl⟩ := List.mem_map.1 h
      obtain ⟨d, hd, rfl⟩ := mem_toDigits (by decide) hb
      exact ⟨d, hd, .inr rfl⟩
  | lower =>
      obtain ⟨b, hb, rfl⟩ := List.mem_map.1 h
      obtain ⟨d, hd, rfl⟩ := mem_toDigits (by decide) hb
      exact ⟨d, hd, .inl rfl⟩

lemma percent_notMem_hexDigits : charByte '%' ∉ hexDigits letters n := fun h => by
  obtain ⟨d, hd, h | h⟩ := mem_hexDigits h <;> interval_cases d <;> exact absurd h (by decide)

lemma minus_notMem_hexDigits : charByte '-' ∉ hexDigits letters n := fun h => by
  obtain ⟨d, hd, h | h⟩ := mem_hexDigits h <;> interval_cases d <;> exact absurd h (by decide)

lemma hexDigits_nul : 0 ∉ hexDigits letters n := fun h => by
  obtain ⟨d, hd, h | h⟩ := mem_hexDigits h <;> interval_cases d <;> exact absurd h (by decide)

lemma length_hexDigits : (hexDigits letters n).length = (hexText n).length := by
  cases letters with
  | upper => rfl
  | lower => rw [hexDigits, hexText, List.length_map, List.length_map]

/-- Digits in upper case are those that are asked for, or there are no letters among them. -/
lemma hexText_eq_iff : hexText n = hexDigits letters n ↔ letters = .upper ∨ NoLetters n := by
  cases letters with
  | upper => simp [hexDigits]
  | lower =>
      rw [hexText, hexDigits, List.map_inj_left]
      simp only [reduceCtorEq, false_or, NoLetters]
      refine forall₂_congr fun c hc => ?_
      obtain ⟨d, hd, rfl⟩ := mem_toDigits (by decide) hc
      interval_cases d <;> decide

/-- Different numbers have different decimal digits. -/
lemma toDigits_injective (h : (Nat.toDigits 10 n).map charByte = (Nat.toDigits 10 k).map charByte) :
    n = k := by
  have hback : ∀ m, ((Nat.toDigits 10 m).map charByte).map (fun b => Char.ofNat b.toNat) =
      Nat.toDigits 10 m := fun m => by
    rw [List.map_map]
    refine (List.map_congr_left fun c hc => ?_).trans (List.map_id _)
    obtain ⟨d, hd, rfl⟩ := mem_toDigits (by decide) hc
    interval_cases d <;> rfl
  have hchars : Nat.toDigits 10 n = Nat.toDigits 10 k := by
    rw [← hback n, h, hback k]
  rw [← Nat.ofDigitChars_ten_toDigits (n := n), hchars, Nat.ofDigitChars_ten_toDigits]

/-- There is no `NUL` in a format. -/
lemma Item.nul_notMem_format {item : Item} : 0 ∉ item.format := fun hitem => by
  cases item with
  | text c => exact c.2.1 (List.mem_singleton.1 hitem).symm
  | int i n =>
      cases i with
      | false => exact absurd hitem (by decide : (0 : UInt8) ∉ [charByte '%', charByte 'd'])
      | true => exact absurd hitem (by decide : (0 : UInt8) ∉ [charByte '%', charByte 'i'])
  | percent => exact absurd hitem (by decide)
  | char c => exact absurd hitem (by decide : (0 : UInt8) ∉ [charByte '%', charByte 'c'])
  | str s => exact absurd hitem (by decide : (0 : UInt8) ∉ [charByte '%', charByte 's'])
  | unsigned n => exact absurd hitem (by decide : (0 : UInt8) ∉ [charByte '%', charByte 'u'])
  | hex n => exact absurd hitem (by decide : (0 : UInt8) ∉ [charByte '%', charByte 'x'])

/-- The digits of a smaller number are no more. -/
lemma length_toDigits_mono (h : n ≤ k) : (Nat.toDigits 10 n).length ≤ (Nat.toDigits 10 k).length := by
  refine (Nat.length_toDigits_le_iff (by decide) Nat.length_toDigits_pos).2 (lt_of_le_of_lt h ?_)
  exact (Nat.length_toDigits_le_iff (by decide) Nat.length_toDigits_pos).1 le_rfl

lemma decimalText_natCast (n : ℕ) : decimalText n = (Nat.toDigits 10 n).map charByte := by
  rw [decimalText, if_neg (by omega), Int.natAbs_natCast]

variable {o : Output} {write : (ℕ → UInt8) → Except Undefined (ℕ → UInt8)} {t : ℕ → UInt8}
  {text : List UInt8} {len : ℕ}

lemma Output.print_eq (hwrite : write o.buffer = .ok (Overlay.overlay t 0 (text ++ [0])))
    (htext : 0 ∉ text) (hlength : text.length < ADDRESSES) :
    ∃ b, o.print write = .ok ({ o with buffer := b }.puts text 1) := by
  refine ⟨Overlay.overlay t 0 (text ++ [0]), ?_⟩
  rw [Output.print, hwrite, ok_bind, cString_overlay htext hlength, ok_bind]

/-- A number in decimal. -/
lemma Output.print_itoa (hlo : INT_MIN ≤ x) (hhi : x ≤ INT_MAX) :
    ∃ b, o.print (kinguioItoa x) = .ok ({ o with buffer := b }.puts (decimalText x) 1) := by
  have hlength := length_decimalText hlo hhi
  have hspace : 11 < ADDRESSES := by decide
  exact Output.print_eq (kinguioItoa_eq hlo hhi) decimalText_nul (by omega)

/-- A number in hexadecimal digits. -/
lemma Output.print_i2hex (size : ℤ) (hn : n < 16 ^ len) (hlen : len < ADDRESSES) :
    ∃ b, o.print (i2hex size n len) = .ok ({ o with buffer := b }.puts (hexText n) 1) := by
  obtain ⟨t, ht⟩ := i2hex_eq size o.buffer hn hlen
  have hlength : (hexText n).length ≤ len ∨ n = 0 := by
    rcases Nat.eq_zero_or_pos n with hzero | hpos
    · exact .inr hzero
    · exact .inl (nibbleText_eq hpos hn).1
  refine Output.print_eq ht hexText_nul ?_
  rcases hlength with h | rfl
  · omega
  · decide

end

end Gramado.Clib
