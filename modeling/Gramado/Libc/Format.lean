import Gramado.Core.Format
import Gramado.Libc.Sprintf

/-!
# The library's formatter, with its buffers

`kinguio_vsprintf` and `sprintf` of `libc/stdio.c`, with `__utoa_r`, `kinguio_i2hex_versao2` and the flag
`type64bit`, which `%l` sets and `%u` and `%x` clear.

* `sprintf_correct` — when the expansion of a format is stored, its length returned, and a `NUL` put
  behind it.
* `kinguioVsprintf_text` — the text is that of `Libc.kinguioVsprintf`, which has no buffers.
-/

namespace Gramado.Libc.Format

open Clib Overlay

/-! ## Numbers -/

/-- `__utoa_r`. -/
def utoaR (val : ℕ) (s : ℕ → UInt8) : ℕ → UInt8 :=
  let (p, s) := putDigits val 0 s
  swapEnds (Function.update s p 0) 0 (p - 1)

/-- `kinguio_i2hex_versao2`. -/
def kinguioI2hexVersao2 (val len : ℕ) (s : ℕ → UInt8) : Except Undefined (ℕ → UInt8) :=
  i2hex len val len s

/-- `kinguio_i2hex`. -/
def kinguioI2hex (val len : ℕ) (s : ℕ → UInt8) : Except Undefined (ℕ → UInt8) := i2hex 8 val len s

/-- `kinguio_utoa`. -/
def kinguioUtoa (val radix : ℕ) (s : ℕ → UInt8) : Except Undefined (ℕ → UInt8) :=
  if radix = 16 then kinguioI2hexVersao2 val 16 s else .ok (utoaR val s)

/-! ## The loop -/

/-- The locals of `kinguio_vsprintf`. -/
structure Locals extends Output where
  type64bit : Bool

/-- `_vsputs_r`. -/
def Locals.puts (l : Locals) (text : List UInt8) (n : ℕ) : Locals :=
  { l with toOutput := l.toOutput.puts text n }

/-- `_vsputs_r` of the buffer, after a number was written to it. -/
def Locals.print (l : Locals) (write : (ℕ → UInt8) → Except Undefined (ℕ → UInt8)) :
    Except Undefined Locals := do
  let o ← l.toOutput.print write
  .ok { l with toOutput := o }

/-- The string of `%s`. -/
def stringArgument (va : VaList) (n : ℕ) : Except Undefined (List UInt8) :=
  if va.slot n = 0 then .ok ("(null)".toList.map charByte)
  else
    match va.text (va.slot n) with
    | some s => .ok s
    | none => .error .badPointer

/-- The inner `switch`. -/
def conversion (va : VaList) (c : UInt8) (l : Locals) : Except Undefined Locals :=
  let slot := va.slot l.arguments
  if c = charByte 'c' then .ok (l.puts (charString (UInt8.ofNat slot)) 1)
  else if c = charByte 's' ∨ c = charByte 'S' then do
    let s ← stringArgument va l.arguments
    .ok (l.puts s 1)
  else if c = charByte 'd' ∨ c = charByte 'i' then l.print (Clib.kinguioItoa (toInt32 slot))
  else if c = charByte 'u' then
    if l.type64bit then do
      let l ← l.print (kinguioUtoa (slot % 2 ^ 64) 10)
      .ok { l with type64bit := false }
    else
      -- the parameter of `kinguio_itoa` is an `int`
      l.print (Clib.kinguioItoa (toInt32 (slot % 2 ^ 32 : ℕ)))
  else if c = charByte 'X' ∨ c = charByte 'x' then
    if l.type64bit then do
      let l ← l.print (kinguioUtoa (slot % 2 ^ 64) 16)
      .ok { l with type64bit := false }
    else l.print (kinguioI2hex (slot % 2 ^ 32) 8)
  else .ok (l.puts [charByte '%', charByte '%'] 0)

/-- `%l` sets `type64bit`. -/
def formatter (va : VaList) : Formatter Locals where
  output l := l.toOutput
  put c l := l.puts (charString c) 0
  isLong c := c = charByte 'l'
  setLong l := { l with type64bit := true }
  conversion := conversion va

/-- `kinguio_vsprintf`, of a format with nothing but its `NUL` behind it. -/
def kinguioVsprintf (va : VaList) (fmt : List UInt8) (buffer : ℕ → UInt8) : Except Undefined Locals :=
  formatLoop (formatter va) .text 0 (fmt ++ [0]) { out := [], arguments := 0, buffer, type64bit := false }

/-- What `kinguio_vsprintf` returns: `(int) (str_tmp - str)`. -/
def returned (l : Locals) : ℤ := toInt32 l.out.length

/-- `sprintf`, to the memory from `dest` on. -/
def sprintf (va : VaList) (fmt : List UInt8) (buffer dest : ℕ → UInt8) :
    Except Undefined (ℤ × (ℕ → UInt8)) := do
  let l ← kinguioVsprintf va fmt buffer
  let ret := returned l
  if ret < 0 then .error .badPointer
  else .ok (ret, Function.update (overlay dest 0 l.out) ret.toNat 0)

/-! ## What it should do -/

/-- An item of a format, with its argument. -/
inductive LongItem where
  | short (item : Item)
  | ulong (n : Fin (2 ^ 64))
  | ulongHex (n : Fin (2 ^ 64))

namespace LongItem

/-- How the item is written. -/
def format : LongItem → List UInt8
  | .short item => item.format
  | .ulong _ => [charByte '%', charByte 'l', charByte 'u']
  | .ulongHex _ => [charByte '%', charByte 'l', charByte 'x']

/-- What the item stands for. -/
def expansion (letters : Letters) : LongItem → List UInt8
  | .short item => item.expansion letters
  | .ulong n => decimalText (n.val : ℤ)
  | .ulongHex n => hexDigits letters n.val

/-- The number of its arguments. -/
def arguments : LongItem → ℕ
  | .short item => item.arguments
  | _ => 1

/-- Its argument is in the slot `n`. -/
def At (va : VaList) (n : ℕ) : LongItem → Prop
  | .short item => item.At va n
  | .ulong k => va.slot n % 2 ^ 64 = k.val
  | .ulongHex k => va.slot n % 2 ^ 64 = k.val

end LongItem

/-- What may stand behind the items. -/
inductive Ending where
  | nothing
  | percent
  | long
  deriving DecidableEq

/-- How it is written. -/
def Ending.format : Ending → List UInt8
  | .nothing => []
  | .percent => [charByte '%']
  | .long => [charByte '%', charByte 'l']

/-- The items, and what is behind them. -/
def formatOf (items : List LongItem) (ending : Ending) : List UInt8 :=
  items.flatMap LongItem.format ++ ending.format

/-- What the items stand for. -/
def expansionOf (letters : Letters) (items : List LongItem) : List UInt8 :=
  items.flatMap (LongItem.expansion letters)

/-- The arguments of the items are those of the call. -/
def Arguments (va : VaList) (items : List LongItem) : Prop :=
  Matches (LongItem.At va) LongItem.arguments 0 items

/-- `kinguio_vsprintf` stores the expansion, returns its length and has taken the arguments, and `sprintf`
leaves a `NUL` behind the last character. -/
def Formats (va : VaList) (fmt : List UInt8) (buffer dest : ℕ → UInt8) (expansion : List UInt8)
    (arguments : ℕ) : Prop :=
  ∃ l, kinguioVsprintf va fmt buffer = .ok l ∧ l.out = expansion ∧ returned l = expansion.length ∧
    l.arguments = arguments ∧
      sprintf va fmt buffer dest = .ok (expansion.length, overlay dest 0 (expansion ++ [0]))

/-- An item that is printed as it should be: `%%` is not, nor a `NUL`, an unsigned number above
`INT_MAX`, or letters if they are to be in lower case. -/
def Right (letters : Letters) : LongItem → Prop
  | .short .percent => False
  | .short (.char c) => c ≠ 0
  | .short (.unsigned n) => n.val < 2 ^ 31
  | .short (.hex n) => letters = .upper ∨ NoLetters n.val
  | .ulongHex n => letters = .upper ∨ NoLetters n.val
  | _ => True

/-- What is printed for an item. -/
def printed : LongItem → List UInt8
  | .short .percent => [charByte '%', charByte '%']
  | .short (.char c) => charString c
  | .short (.unsigned n) => decimalText (toInt32 (n.val : ℕ))
  | .short (.hex n) => hexText n.val
  | .ulongHex n => hexText n.val
  | item => item.expansion .upper

/-! ## Numbers in the buffer -/

section

variable {va : VaList} {item : LongItem} {items : List LongItem} {letters : Letters} {l : Locals}
  {write : (ℕ → UInt8) → Except Undefined (ℕ → UInt8)} {text : List UInt8} {n : ℕ} {x : ℤ}

lemma utoaR_eq (n : ℕ) (s : ℕ → UInt8) : utoaR n s = overlay s 0 (decimalText n ++ [0]) := by
  rw [decimalText_natCast, ← itoaDigits_eq, itoaDigits, utoaR]
  rfl

lemma length_toDigits_ulong (h : n < 2 ^ 64) : (decimalText n).length < ADDRESSES := by
  have hdigits : (Nat.toDigits 10 n).length ≤ 20 :=
    (Nat.length_toDigits_le_iff (by decide) (by decide)).2 (by omega)
  have hspace : 20 < ADDRESSES := by decide
  rw [decimalText_natCast, List.length_map]
  omega

lemma Locals.print_eq {b : ℕ → UInt8}
    (h : l.toOutput.print write = .ok ({ l.toOutput with buffer := b }.puts text 1)) :
    l.print write = .ok ({ l with buffer := b }.puts text 1) := by
  rw [Locals.print, h]
  rfl

/-- An `unsigned long` in decimal. -/
lemma Locals.print_utoa (hn : n < 2 ^ 64) :
    ∃ b, l.print (kinguioUtoa n 10) = .ok ({ l with buffer := b }.puts (decimalText n) 1) := by
  have hwrite : kinguioUtoa n 10 l.buffer = .ok (overlay l.buffer 0 (decimalText n ++ [0])) := by
    rw [kinguioUtoa, if_neg (by decide), utoaR_eq]
  obtain ⟨b, hprint⟩ := Output.print_eq hwrite decimalText_nul (length_toDigits_ulong hn)
  exact ⟨b, Locals.print_eq hprint⟩

/-- An `unsigned long` in hexadecimal digits. -/
lemma Locals.print_utoa_hex (hn : n < 2 ^ 64) :
    ∃ b, l.print (kinguioUtoa n 16) = .ok ({ l with buffer := b }.puts (hexText n) 1) := by
  obtain ⟨b, hprint⟩ := Output.print_i2hex (o := l.toOutput) (16 : ℕ)
    (show n < 16 ^ 16 from lt_of_lt_of_le hn (by decide)) (by decide)
  exact ⟨b, Locals.print_eq hprint⟩

lemma toInt32_range (x : ℤ) : INT_MIN ≤ toInt32 x ∧ toInt32 x ≤ INT_MAX := by
  have hlo := Int.le_bmod (x := x) (m := 2 ^ 32) (by decide)
  have hhi := Int.bmod_lt (x := x) (m := 2 ^ 32) (by decide)
  simp only [INT_MIN, INT_MAX, toInt32]
  omega

/-! ## One item -/

/-- **One item**, from where `type64bit` is clear. -/
lemma item_step (hclear : l.type64bit = false) (hitem : item.At va l.arguments) :
    ItemStep (formatter va) (fun l => l.type64bit = false) item.format (printed item) item.arguments l := by
  -- an item with a conversion
  have hstep : ∀ c : UInt8, c ≠ charByte 'l' → item.format = [charByte '%', c] →
      (∃ b, conversion va c l = .ok ({ l with buffer := b }.puts (printed item) item.arguments)) →
      ItemStep (formatter va) (fun l => l.type64bit = false) item.format (printed item)
        item.arguments l := by
    rintro c hc hformat ⟨b, hconversion⟩ fmt index hlow hindex
    rw [hformat] at hindex ⊢
    have hlong : (formatter va).isLong c = false := decide_eq_false hc
    exact ⟨_, formatLoop_conversion hlong hconversion hlow hindex, hclear, rfl, rfl⟩
  -- one with a conversion behind `%l`
  have hlongStep : ∀ c : UInt8, item.format = [charByte '%', charByte 'l', c] →
      (∃ b, conversion va c { l with type64bit := true } =
        .ok ({ l with buffer := b }.puts (printed item) item.arguments)) →
      ItemStep (formatter va) (fun l => l.type64bit = false) item.format (printed item)
        item.arguments l := by
    rintro c hformat ⟨b, hconversion⟩ fmt index hlow hindex
    rw [hformat] at hindex ⊢
    exact ⟨_, formatLoop_long (f := formatter va) rfl hconversion hlow hindex, hclear, rfl, rfl⟩
  cases item with
  | short item =>
      cases item with
      | text c =>
          have hchar : charString c.1 = [c.1] := if_neg c.2.1
          intro fmt index hlow hindex
          refine ⟨_, formatLoop_text (f := formatter va) c.2.1 c.2.2 hlow hindex, hclear, ?_, rfl⟩
          exact congrArg (l.out ++ ·) hchar
      | percent => exact hstep (charByte '%') (by decide) rfl ⟨l.buffer, rfl⟩
      | char c =>
          have hvalue : UInt8.ofNat (va.slot l.arguments) = c := hitem
          refine hstep (charByte 'c') (by decide) rfl ⟨l.buffer, ?_⟩
          rw [conversion, if_pos rfl, hvalue]
          rfl
      | str s =>
          obtain ⟨hne, htext⟩ := hitem
          refine hstep (charByte 's') (by decide) rfl ⟨l.buffer, ?_⟩
          rw [conversion, if_neg (by decide), if_pos (.inl rfl), stringArgument, if_neg hne, htext]
          rfl
      | int i n =>
          have hvalue : toInt32 (va.slot l.arguments) = n.1 := hitem
          obtain ⟨b, hprint⟩ := Output.print_itoa (o := l.toOutput) n.2.1 n.2.2
          refine hstep (if i then charByte 'i' else charByte 'd') (by cases i <;> decide) rfl
            ⟨b, Eq.trans ?_ (Locals.print_eq hprint)⟩
          cases i with
          | false =>
              rw [if_neg Bool.false_ne_true, conversion, if_neg (by decide), if_neg (by decide),
                if_pos (.inl rfl), hvalue]
          | true =>
              rw [if_pos rfl, conversion, if_neg (by decide), if_neg (by decide), if_pos (.inr rfl), hvalue]
      | unsigned n =>
          have hvalue : va.slot l.arguments % 2 ^ 32 = n.val := hitem
          obtain ⟨hlo, hhi⟩ := toInt32_range (n.val : ℕ)
          obtain ⟨b, hprint⟩ := Output.print_itoa (o := l.toOutput) hlo hhi
          refine hstep (charByte 'u') (by decide) rfl ⟨b, Eq.trans ?_ (Locals.print_eq hprint)⟩
          rw [conversion, if_neg (by decide), if_neg (by decide), if_neg (by decide), if_pos rfl, hclear,
            if_neg Bool.false_ne_true, hvalue]
      | hex n =>
          have hvalue : va.slot l.arguments % 2 ^ 32 = n.val := hitem
          have hlt : n.val < 16 ^ 8 := lt_of_lt_of_le n.isLt (by decide)
          obtain ⟨b, hprint⟩ := Output.print_i2hex (o := l.toOutput) 8 hlt (by decide)
          refine hstep (charByte 'x') (by decide) rfl ⟨b, Eq.trans ?_ (Locals.print_eq hprint)⟩
          rw [conversion, if_neg (by decide), if_neg (by decide), if_neg (by decide), if_neg (by decide),
            if_pos (.inr rfl), hclear, if_neg Bool.false_ne_true, hvalue]
          rfl
  | ulong n =>
      have hvalue : va.slot l.arguments % 2 ^ 64 = n.val := hitem
      obtain ⟨b, hprint⟩ := Locals.print_utoa (l := { l with type64bit := true }) n.isLt
      refine hlongStep (charByte 'u') rfl ⟨b, ?_⟩
      rw [conversion, if_neg (by decide), if_neg (by decide), if_neg (by decide), if_pos rfl, if_pos rfl]
      dsimp only
      rw [hvalue, hprint, ok_bind, ← hclear]
      rfl
  | ulongHex n =>
      have hvalue : va.slot l.arguments % 2 ^ 64 = n.val := hitem
      obtain ⟨b, hprint⟩ := Locals.print_utoa_hex (l := { l with type64bit := true }) n.isLt
      refine hlongStep (charByte 'x') rfl ⟨b, ?_⟩
      rw [conversion, if_neg (by decide), if_neg (by decide), if_neg (by decide), if_neg (by decide),
        if_pos (.inr rfl), if_pos rfl]
      dsimp only
      rw [hvalue, hprint, ok_bind, ← hclear]
      rfl

/-! ## What is printed, and what should be -/

lemma toInt32_neg (hn : 2 ^ 31 ≤ n) (hlt : n < 2 ^ 32) : toInt32 (n : ℕ) < 0 := by
  have hmod : (n : ℤ) % ((2 ^ 32 : ℕ) : ℤ) = n := Int.emod_eq_of_lt (by omega) (by push_cast; omega)
  rw [toInt32, Int.bmod, hmod, if_neg (by push_cast; omega)]
  push_cast
  omega

lemma decimalText_toInt32_iff (hlt : n < 2 ^ 32) :
    decimalText (toInt32 (n : ℕ)) = decimalText (n : ℤ) ↔ n < 2 ^ 31 := by
  refine ⟨fun h => ?_, fun hn => by rw [toInt32_of_range (by omega) (by omega)]⟩
  by_contra hn
  have hminus := minus_mem_decimalText.2 (toInt32_neg (by omega) hlt)
  rw [h, minus_mem_decimalText] at hminus
  omega

/-- **An item comes out right** if and only if it is one of the right ones. -/
lemma printed_eq_iff : printed item = item.expansion letters ↔ Right letters item := by
  cases item with
  | short item =>
      cases item with
      | text c => simp [printed, LongItem.expansion, Item.expansion, Right]
      | percent => simp [printed, LongItem.expansion, Item.expansion, Right]
      | char c =>
          by_cases hc : c = 0
          · simp [printed, LongItem.expansion, Item.expansion, Right, charString, hc]
          · simp [printed, LongItem.expansion, Item.expansion, Right, charString, hc]
      | str s => simp [printed, LongItem.expansion, Item.expansion, Right]
      | int i n => simp [printed, LongItem.expansion, Item.expansion, Right]
      | unsigned n => exact decimalText_toInt32_iff n.isLt
      | hex n => exact hexText_eq_iff
  | ulong n => simp [printed, LongItem.expansion, Right]
  | ulongHex n => exact hexText_eq_iff

/-- The items that come out wrong. -/
lemma wrong_cases (h : ¬Right letters item) : item = .short .percent ∨ item = .short (.char 0) ∨
    (∃ n : Fin (2 ^ 32), item = .short (.unsigned n) ∧ 2 ^ 31 ≤ n.val) ∨
      ∃ n, printed item = hexText n ∧ item.expansion letters = hexDigits letters n := by
  cases item with
  | short item =>
      cases item with
      | text c => exact absurd trivial h
      | percent => exact .inl rfl
      | char c =>
          have hc : c = 0 := not_not.1 h
          exact .inr (.inl (by rw [hc]))
      | str s => exact absurd trivial h
      | int i n => exact absurd trivial h
      | unsigned n => exact .inr (.inr (.inl ⟨n, rfl, not_lt.1 h⟩))
      | hex n => exact .inr (.inr (.inr ⟨n.val, rfl, rfl⟩))
  | ulong n => exact absurd trivial h
  | ulongHex n => exact .inr (.inr (.inr ⟨n.val, rfl, rfl⟩))

/-- No item has less `%` or less minus signs than it should. -/
lemma countP_le {a : UInt8} (ha : a = charByte '%' ∨ a = charByte '-') :
    (item.expansion letters).countP (· == a) ≤ (printed item).countP (· == a) := by
  by_cases hright : Right letters item
  · rw [printed_eq_iff.2 hright]
  have hzero : a ∉ item.expansion letters → (item.expansion letters).countP (· == a) ≤
      (printed item).countP (· == a) := fun h => by
    rw [← List.count_eq_countP', List.count_eq_zero.2 h]
    exact Nat.zero_le _
  rcases wrong_cases hright with rfl | rfl | ⟨n, rfl, hn⟩ | ⟨n, -, hexpansion⟩
  · rcases ha with rfl | rfl
    · exact (by decide : 1 ≤ 2)
    · exact le_refl 0
  · refine hzero ?_
    rcases ha with rfl | rfl
    · exact (by decide : charByte '%' ∉ [(0 : UInt8)])
    · exact (by decide : charByte '-' ∉ [(0 : UInt8)])
  · refine hzero (show a ∉ decimalText (n.val : ℤ) from ?_)
    rcases ha with rfl | rfl
    · exact percent_notMem_decimalText
    · exact fun h => absurd (minus_mem_decimalText.1 h) (by omega)
  · refine hzero ?_
    rw [hexpansion]
    rcases ha with rfl | rfl
    · exact percent_notMem_hexDigits
    · exact minus_notMem_hexDigits

/-- **The text is right if and only if every item is.** -/
lemma flatMap_printed_eq_iff : items.flatMap printed = expansionOf letters items ↔
    ∀ item ∈ items, Right letters item := by
  refine ⟨fun h => ?_, fun h => List.flatMap_congr fun item hitem => printed_eq_iff.2 (h item hitem)⟩
  have hpercent := Concat.countP_eq_of_flatMap_eq (p := (· == charByte '%'))
    (fun item _ => countP_le (.inl rfl)) h.symm
  have hminus := Concat.countP_eq_of_flatMap_eq (p := (· == charByte '-'))
    (fun item _ => countP_le (.inr rfl)) h.symm
  have hlength := Concat.length_eq_of_flatMap_eq (fun item hitem => ?_) h
  · exact fun item hitem => printed_eq_iff.1 (Concat.eq_of_flatMap_eq hlength h item hitem)
  · -- what is left of the wrong items is no longer than it should be
    by_cases hright : Right letters item
    · rw [printed_eq_iff.2 hright]
    rcases wrong_cases hright with rfl | rfl | ⟨n, rfl, hn⟩ | ⟨n, hprinted, hexpansion⟩
    · exact absurd (hpercent _ hitem) (show ¬(1 : ℕ) = 2 by decide)
    · exact Nat.zero_le _
    · have hcount := hminus _ hitem
      have hneg := minus_mem_decimalText.2 (toInt32_neg hn n.isLt)
      have hpos : charByte '-' ∉ decimalText ((n.val : ℕ) : ℤ) := fun h =>
        absurd (minus_mem_decimalText.1 h) (by omega)
      rw [← List.count_eq_countP'] at hcount
      exact absurd (hcount.symm.trans (List.count_eq_zero.2 hpos)) (List.count_pos_iff.2 hneg).ne'
    · rw [hprinted, hexpansion, length_hexDigits]

/-! ## The whole call -/

variable {buffer dest : ℕ → UInt8} {ending : Ending}

lemma nul_notMem_formatOf : 0 ∉ formatOf items ending := fun h => by
  rcases List.mem_append.1 h with h | h
  · obtain ⟨item, -, hitem⟩ := List.mem_flatMap.1 h
    cases item with
    | short item => exact Item.nul_notMem_format hitem
    | ulong n => exact absurd hitem (by decide : (0 : UInt8) ∉ [charByte '%', charByte 'l', charByte 'u'])
    | ulongHex n =>
        exact absurd hitem (by decide : (0 : UInt8) ∉ [charByte '%', charByte 'l', charByte 'x'])
  · cases ending <;> exact absurd h (by decide)

/-- A format that ends in `%` or in `%l` is not survived. -/
lemma ending_eq (hargs : Arguments va items) (h : kinguioVsprintf va (formatOf items ending) buffer = .ok l) :
    ending = .nothing := by
  have hindex := formatLoop_index nul_notMem_formatOf (by decide) h
  rw [formatOf, List.length_append] at hindex
  push_cast at hindex
  have hbound : 0 + ((items.flatMap LongItem.format).length : ℤ) ≤ INT_MAX := by omega
  obtain ⟨l', hitems, -⟩ := formatLoop_items (f := formatter va)
    (o := { out := [], arguments := 0, buffer, type64bit := false })
    (fun item l hclear hitem => item_step hclear hitem) (ending.format ++ [0]) rfl hargs (le_refl 0) hbound
  rw [kinguioVsprintf, formatOf, List.append_assoc, hitems] at h
  cases ending with
  | nothing => rfl
  | percent =>
      rw [Ending.format, List.singleton_append, formatLoop, if_neg (by decide), if_pos rfl] at h
      obtain ⟨next, -, h⟩ := bind_eq_ok h
      exact absurd ⟨l, h⟩ (formatLoop_end (fun h => by cases h) rfl)
  | long =>
      rw [Ending.format, List.cons_append, List.singleton_append, formatLoop, if_neg (by decide),
        if_pos rfl] at h
      obtain ⟨next, -, h⟩ := bind_eq_ok h
      have hlong : (formatter va).isLong (charByte 'l') = true := rfl
      rw [formatLoop, if_pos hlong] at h
      obtain ⟨next', -, h⟩ := bind_eq_ok h
      exact absurd ⟨l, h⟩ (formatLoop_end (fun h => by cases h) rfl)

/-- What the call stores for a format that an `int` counts. -/
lemma kinguioVsprintf_whole (buffer : ℕ → UInt8) (hargs : Arguments va items)
    (hindex : ((formatOf items .nothing).length : ℤ) ≤ INT_MAX) :
    ∃ l, kinguioVsprintf va (formatOf items .nothing) buffer = .ok l ∧
      l.out = items.flatMap printed ∧ l.arguments = (items.map LongItem.arguments).sum := by
  rw [formatOf, Ending.format, List.append_nil] at hindex ⊢
  obtain ⟨l, hitems, -, hprinted, harguments⟩ := formatLoop_items (f := formatter va)
    (o := { out := [], arguments := 0, buffer, type64bit := false })
    (fun item l hclear hitem => item_step hclear hitem) [0] rfl hargs (le_refl 0) (by rwa [zero_add])
  refine ⟨l, ?_, hprinted, harguments.trans (Nat.zero_add _)⟩
  rw [kinguioVsprintf, hitems, formatLoop, if_pos rfl]

/-- What a call that does what it should has met. -/
lemma Formats.inv (hargs : Arguments va items)
    (h : Formats va (formatOf items ending) buffer dest (expansionOf letters items) n) :
    ending = .nothing ∧ (∀ item ∈ items, Right letters item) ∧
      ((formatOf items ending).length : ℤ) ≤ INT_MAX ∧
        ((expansionOf letters items).length : ℤ) ≤ INT_MAX := by
  obtain ⟨l, hok, hout, hreturned, -⟩ := h
  have hindex := formatLoop_index nul_notMem_formatOf (by decide) hok
  obtain rfl := ending_eq hargs hok
  rw [zero_add] at hindex
  obtain ⟨l', hwhole, hprinted, -⟩ := kinguioVsprintf_whole buffer hargs hindex
  obtain rfl := Except.ok.inj (hok.symm.trans hwhole)
  rw [hout] at hprinted
  refine ⟨rfl, flatMap_printed_eq_iff.1 hprinted.symm, hindex, ?_⟩
  rw [← hreturned]
  exact (toInt32_range _).2

end

/-- **The library's formatter** does what it should if and only if the format does not end within a
conversion, every item is printed as it should be, and an `int` counts both the format and the text. -/
theorem sprintf_correct {va : VaList} {items : List LongItem} (h : Arguments va items)
    (letters : Letters) (ending : Ending) (buffer dest : ℕ → UInt8) :
    Formats va (formatOf items ending) buffer dest (expansionOf letters items)
        (items.map LongItem.arguments).sum ↔
      ending = .nothing ∧ (∀ item ∈ items, Right letters item) ∧
        ((formatOf items ending).length : ℤ) ≤ INT_MAX ∧
          ((expansionOf letters items).length : ℤ) ≤ INT_MAX := by
  refine ⟨fun hformats => hformats.inv h, ?_⟩
  rintro ⟨rfl, hright, hindex, hlength⟩
  obtain ⟨l, hwhole, hprinted, harguments⟩ := kinguioVsprintf_whole buffer h hindex
  have hout := hprinted.trans (flatMap_printed_eq_iff.2 hright)
  have hreturned : returned l = (expansionOf letters items).length := by
    rw [returned, hout]
    exact toInt32_of_range (by omega) (by simp only [INT_MAX] at hlength; omega)
  have hend := update_end (s := dest) (p := 0) (l := expansionOf letters items) (a := 0)
  rw [Nat.zero_add] at hend
  refine ⟨l, hwhole, hout, hreturned, harguments, ?_⟩
  rw [sprintf, hwhole, ok_bind, hreturned, hout]
  dsimp only
  rw [if_neg (by omega), Int.toNat_natCast, hend]

/-! ## The formatter without buffers -/

section

variable {va : VaList} {l l' : Locals} {c : UInt8} {fmt : List UInt8} {index : ℤ} {n : ℕ} {x : ℤ}

/-- The arguments for `Libc.kinguioVsprintf`. -/
def varArgs (va : VaList) : VarArgs := ⟨va.slot, va.text⟩

lemma decimal_eq (n : ℕ) : decimal n = decimalText n := (decimalText_natCast n).symm

lemma kinguioItoa_text (x : ℤ) : Libc.kinguioItoa x = decimalText x := rfl

lemma kinguioI2hex_text (n : ℕ) : Libc.kinguioI2hex n = hexText n := rfl

/-- The place in the loop there. -/
def stateAt : Place → FormatState
  | .text => .text
  | .percent => .percent
  | .long => .long

/-- A conversion prints what it prints there. -/
lemma conversion_text (h : conversion va c l = .ok l') : ∃ out, l'.out = l.out ++ out ∧
    Libc.conversion (varArgs va) c l.type64bit l.arguments = .ok (out, l'.type64bit, l'.arguments) := by
  have hreg : (varArgs va).reg l.arguments = va.slot l.arguments := rfl
  rw [conversion] at h
  rw [Libc.conversion, hreg]
  by_cases hc : c = ascii 'c'
  · rw [if_pos (show c = charByte 'c' from hc)] at h
    rw [if_pos hc]
    cases h
    exact ⟨_, rfl, rfl⟩
  rw [if_neg (show ¬(c = charByte 'c') from hc)] at h
  rw [if_neg hc]
  by_cases hs : c = ascii 's' ∨ c = ascii 'S'
  · rw [if_pos (show c = charByte 's' ∨ c = charByte 'S' from hs)] at h
    rw [if_pos hs]
    obtain ⟨text, htext, h⟩ := bind_eq_ok h
    cases h
    refine ⟨text, rfl, ?_⟩
    have hstring : (varArgs va).string l.arguments = .ok text := by
      rw [stringArgument] at htext
      rw [VarArgs.string, hreg]
      by_cases hnull : va.slot l.arguments = 0
      · rw [if_pos hnull] at htext ⊢
        exact congrArg Except.ok (Except.ok.inj htext)
      · rw [if_neg hnull] at htext ⊢
        show (match va.text (va.slot l.arguments) with
          | some s => Except.ok s
          | none => .error Abort.badPointer) = _
        cases hat : va.text (va.slot l.arguments) with
        | none => rw [hat] at htext; cases htext
        | some s => rw [hat] at htext; exact congrArg Except.ok (Except.ok.inj htext)
    rw [hstring]
    rfl
  rw [if_neg (show ¬(c = charByte 's' ∨ c = charByte 'S') from hs)] at h
  rw [if_neg hs]
  have hitoa : ∀ x : ℤ, l.print (Clib.kinguioItoa (toInt32 x)) = .ok l' →
      l'.out = l.out ++ decimalText (toInt32 x) ∧ l'.type64bit = l.type64bit ∧
        l'.arguments = l.arguments + 1 := fun x hprint => by
    obtain ⟨hlo, hhi⟩ := toInt32_range x
    obtain ⟨b, hok⟩ := Output.print_itoa (o := l.toOutput) hlo hhi
    obtain rfl := Except.ok.inj ((Locals.print_eq hok).symm.trans hprint)
    exact ⟨rfl, rfl, rfl⟩
  by_cases hd : c = ascii 'd' ∨ c = ascii 'i'
  · rw [if_pos (show c = charByte 'd' ∨ c = charByte 'i' from hd)] at h
    rw [if_pos hd]
    obtain ⟨hout, hflag, harguments⟩ := hitoa _ h
    exact ⟨_, hout, by rw [hflag, harguments]; rfl⟩
  rw [if_neg (show ¬(c = charByte 'd' ∨ c = charByte 'i') from hd)] at h
  rw [if_neg hd]
  by_cases hu : c = ascii 'u'
  · rw [if_pos (show c = charByte 'u' from hu)] at h
    rw [if_pos hu]
    cases hlong : l.type64bit with
    | true =>
        rw [hlong, if_pos rfl] at h
        obtain ⟨b, hprint⟩ := Locals.print_utoa (l := l)
          (Nat.mod_lt (va.slot l.arguments) (by decide : 0 < 2 ^ 64))
        rw [hprint, ok_bind] at h
        cases h
        exact ⟨_, rfl, by rw [if_pos rfl, decimal_eq]; rfl⟩
    | false =>
        rw [hlong, if_neg Bool.false_ne_true] at h
        obtain ⟨hout, hflag, harguments⟩ := hitoa _ h
        have hmod : toInt32 ((va.slot l.arguments % 2 ^ 32 : ℕ) : ℤ) = toInt32 (va.slot l.arguments) := by
          rw [toInt32, toInt32, Int.natCast_mod]
          exact Int.emod_bmod ..
        rw [hmod] at hout
        exact ⟨_, hout, by rw [if_neg Bool.false_ne_true, hflag, hlong, harguments]; rfl⟩
  rw [if_neg (show ¬(c = charByte 'u') from hu)] at h
  rw [if_neg hu]
  by_cases hx : c = ascii 'X' ∨ c = ascii 'x'
  · rw [if_pos (show c = charByte 'X' ∨ c = charByte 'x' from hx)] at h
    rw [if_pos hx]
    cases hlong : l.type64bit with
    | true =>
        rw [hlong, if_pos rfl] at h
        obtain ⟨b, hprint⟩ := Locals.print_utoa_hex (l := l)
          (Nat.mod_lt (va.slot l.arguments) (by decide : 0 < 2 ^ 64))
        rw [hprint, ok_bind] at h
        cases h
        exact ⟨_, rfl, by rw [if_pos rfl]; rfl⟩
    | false =>
        rw [hlong, if_neg Bool.false_ne_true] at h
        obtain ⟨b, hprint⟩ := Output.print_i2hex (o := l.toOutput) 8
          (show va.slot l.arguments % 2 ^ 32 < 16 ^ 8 from Nat.mod_lt _ (by decide)) (by decide)
        obtain rfl := Except.ok.inj ((Locals.print_eq hprint).symm.trans h)
        exact ⟨_, rfl, by rw [if_neg Bool.false_ne_true]; exact congrArg _ (congrArg _ (by rw [← hlong]; rfl))⟩
  rw [if_neg (show ¬(c = charByte 'X' ∨ c = charByte 'x') from hx)] at h
  rw [if_neg hx]
  cases h
  exact ⟨_, rfl, rfl⟩

/-- **The text is that of the formatter without buffers.** -/
theorem kinguioVsprintf_text {place : Place} (h : formatLoop (formatter va) place index fmt l = .ok l') :
    ∃ out, l'.out = l.out ++ out ∧
      Libc.kinguioVsprintf (varArgs va) (stateAt place) l.type64bit l.arguments fmt = .ok out := by
  induction fmt generalizing place index l with
  | nil => cases place <;> cases h
  | cons c fmt ih =>
      -- a conversion, and what comes behind it
      have hconversion : (do
          let l ← conversion va c l
          let index ← intResult (index + 1)
          formatLoop (formatter va) .text index fmt l) = .ok l' → ∃ out, l'.out = l.out ++ out ∧ (do
            let r ← Libc.conversion (varArgs va) c l.type64bit l.arguments
            let rest ← Libc.kinguioVsprintf (varArgs va) .text r.2.1 r.2.2 fmt
            .ok (r.1 ++ rest)) = .ok out := by
        intro h
        obtain ⟨l₁, hfirst, h⟩ := bind_eq_ok h
        obtain ⟨next, -, h⟩ := bind_eq_ok h
        obtain ⟨out, hout, htext⟩ := conversion_text hfirst
        obtain ⟨rest, hrest, hmore⟩ := ih h
        refine ⟨out ++ rest, by rw [hrest, hout, List.append_assoc], ?_⟩
        rw [htext, ok_bind]
        dsimp only
        rw [show FormatState.text = stateAt .text from rfl, hmore, ok_bind]
      cases place with
      | text =>
          rw [formatLoop] at h
          rw [stateAt, Libc.kinguioVsprintf]
          by_cases hnul : c = 0
          · rw [if_pos hnul] at h ⊢
            cases h
            exact ⟨[], by simp, rfl⟩
          rw [if_neg hnul] at h ⊢
          by_cases hpercent : c = ascii '%'
          · rw [if_pos (show c = charByte '%' from hpercent)] at h
            obtain ⟨next, -, h⟩ := bind_eq_ok h
            obtain ⟨out, hout, hmore⟩ := ih h
            exact ⟨out, hout, (if_pos hpercent).trans hmore⟩
          · rw [if_neg (show ¬(c = charByte '%') from hpercent)] at h
            obtain ⟨next, -, h⟩ := bind_eq_ok h
            obtain ⟨out, hout, hmore⟩ := ih h
            refine ⟨c :: out, ?_, (if_neg hpercent).trans ?_⟩
            · have hput : l'.out = l.out ++ charString c ++ out := hout
              rw [hput, charString, if_neg hnul, List.append_assoc, List.singleton_append]
            · exact (congrArg (· >>= _) hmore).trans rfl
      | percent =>
          rw [formatLoop] at h
          rw [stateAt, Libc.kinguioVsprintf]
          by_cases hl : c = ascii 'l'
          · have hlong : (formatter va).isLong c = true := decide_eq_true hl
            rw [if_pos hlong] at h
            obtain ⟨next, -, h⟩ := bind_eq_ok h
            obtain ⟨out, hout, hmore⟩ := ih h
            exact ⟨out, hout, (if_pos hl).trans hmore⟩
          · have hlong : (formatter va).isLong c = false := decide_eq_false hl
            rw [hlong, if_neg Bool.false_ne_true] at h
            obtain ⟨out, hout, hmore⟩ := hconversion h
            exact ⟨out, hout, (if_neg hl).trans hmore⟩
      | long =>
          rw [formatLoop] at h
          rw [stateAt, Libc.kinguioVsprintf]
          exact hconversion h

end

/-! ## Calls -/

/-- Arguments that are all the same number. -/
def sameArguments (n : ℕ) : VaList := ⟨fun _ => n, fun _ => none⟩

/-- `"%lx %u"` for 200. -/
def numberItems : List LongItem := [.ulongHex 200, .short (.text ⟨32, by decide⟩), .short (.unsigned ⟨200, by decide⟩)]

/-- The call for a buffer of zeros. -/
theorem sprintf_correct_numbers :
    Formats (sameArguments 200) (formatOf numberItems .nothing) (fun _ => 0) (fun _ => 0)
      (expansionOf .upper numberItems) (numberItems.map LongItem.arguments).sum := by
  have hargs : Arguments (sameArguments 200) numberItems := ⟨rfl, trivial, rfl, trivial⟩
  refine (sprintf_correct hargs .upper .nothing _ _).2 ⟨rfl, fun item hitem => ?_, by decide, by decide⟩
  rcases List.mem_cons.1 hitem with rfl | hitem
  · exact .inl rfl
  rcases List.mem_cons.1 hitem with rfl | hitem
  · trivial
  · obtain rfl := List.mem_singleton.1 hitem
    rw [Right]
    decide

/-- **An unsigned number above `INT_MAX` comes out negative**, in either reading of `%x`. -/
theorem sprintf_fails : ¬∃ letters : Letters, ∀ (va : VaList) (items : List LongItem) (ending : Ending)
    (buffer dest : ℕ → UInt8), Arguments va items →
      Formats va (formatOf items ending) buffer dest (expansionOf letters items)
        (items.map LongItem.arguments).sum := by
  rintro ⟨letters, hall⟩
  have hargs : Arguments (sameArguments 3000000000) [.short (.unsigned 3000000000)] := ⟨rfl, trivial⟩
  obtain ⟨-, hright, -⟩ := (hall _ _ .nothing (fun _ => 0) (fun _ => 0) hargs).inv hargs
  have hvalue : ((3000000000 : Fin (2 ^ 32)) : ℕ) = 3000000000 := rfl
  have hlt := hright (.short (.unsigned 3000000000)) List.mem_cons_self
  rw [Right, hvalue] at hlt
  exact absurd hlt (by decide)

end Gramado.Libc.Format
