import Gramado.Core.Format

/-!
# The kernel's formatter

`kinguio_vsprintf` of `core/clibs/kstdio.c`.

* `kinguioVsprintf_correct` — when it stores the expansion of a format, followed by a `NUL`, and stays
  within the format.
-/

namespace Gramado.Kstdio

open Clib Overlay

/-! ## The loop -/

/-- The string of `%s`. -/
def stringArgument (va : VaList) (n : ℕ) : Except Undefined (List UInt8) :=
  if va.slot n = 0 then .ok ("<NULL>".toList.map charByte)
  else
    match va.text (va.slot n) with
    | some s => .ok s
    | none => .error .badPointer

/-- The inner `switch`. -/
def conversion (va : VaList) (c : UInt8) (o : Output) : Except Undefined Output :=
  if c = charByte 'c' then .ok (o.puts (charString (UInt8.ofNat (va.slot o.arguments))) 1)
  else if c = charByte 's' then do
    let s ← stringArgument va o.arguments
    .ok (o.puts s 1)
  else if c = charByte 'd' ∨ c = charByte 'i' then o.print (kinguioItoa (toInt32 (va.slot o.arguments)))
  else if c = charByte 'u' then
    -- `unsigned char u`
    let u : ℕ := va.slot o.arguments % 2 ^ 32 % 2 ^ 8
    o.print (kinguioItoa u)
  else if c = charByte 'X' ∨ c = charByte 'x' then
    o.print (i2hex 8 (va.slot o.arguments % 2 ^ 32) 8)
  else .ok (o.puts [charByte '%', charByte '%'] 0)

/-- There is no `%l`. -/
def formatter (va : VaList) : Formatter Output where
  output o := o
  put c o := o.puts (charString c) 0
  isLong _ := false
  setLong o := o
  conversion := conversion va

/-- `kinguio_vsprintf`, of a format with nothing but its `NUL` behind it.  What is in the local buffer is
`buffer`. -/
def kinguioVsprintf (va : VaList) (fmt : List UInt8) (buffer : ℕ → UInt8) : Except Undefined Output :=
  formatLoop (formatter va) .text 0 (fmt ++ [0]) ⟨[], 0, buffer⟩

/-! ## What it should do -/

/-- A format without a final `%`, or with one. -/
def formatOf (items : List Item) (lone : Bool) : List UInt8 :=
  items.flatMap Item.format ++ if lone then [charByte '%'] else []

/-- What the items stand for. -/
def expansionOf (letters : Letters) (items : List Item) : List UInt8 :=
  items.flatMap (Item.expansion letters)

/-- The arguments of the items are those of the call. -/
def Arguments (va : VaList) (items : List Item) : Prop := Matches (Item.At va) Item.arguments 0 items

/-- The call comes back; it has stored the expansion at `dest`, followed by a `NUL`, and has taken the
arguments. -/
def Formats (va : VaList) (fmt : List UInt8) (buffer dest : ℕ → UInt8) (expansion : List UInt8)
    (arguments : ℕ) : Prop :=
  ∃ o, kinguioVsprintf va fmt buffer = .ok o ∧ o.out = expansion ∧ o.arguments = arguments ∧
    overlay dest 0 o.out expansion.length = 0

/-- An item that is printed as it should be: `%%` is not, nor a `NUL`, an unsigned number above 255, or
letters if they are to be in lower case. -/
def Right (letters : Letters) : Item → Prop
  | .percent => False
  | .char c => c ≠ 0
  | .unsigned n => n.val < 256
  | .hex n => letters = .upper ∨ NoLetters n.val
  | _ => True

/-- What is printed for an item. -/
def printed : Item → List UInt8
  | .text c => [c.1]
  | .percent => [charByte '%', charByte '%']
  | .char c => charString c
  | .str s => s.1
  | .int _ n => decimalText n.1
  | .unsigned n => decimalText (n.val % 256 : ℕ)
  | .hex n => hexText n.val

/-! ## One item -/

section

variable {va : VaList} {item : Item} {items : List Item} {letters : Letters} {o : Output}
  {buffer dest : ℕ → UInt8}

/-- **One item.** -/
lemma item_step (hitem : item.At va o.arguments) : ItemStep (formatter va) (fun _ => True) item.format
    (printed item) item.arguments o := by
  -- an item with a conversion
  have hstep : ∀ c : UInt8, item.format = [charByte '%', c] →
      (∃ b, conversion va c o = .ok ({ o with buffer := b }.puts (printed item) item.arguments)) →
      ItemStep (formatter va) (fun _ => True) item.format (printed item) item.arguments o := by
    rintro c hformat ⟨b, hconversion⟩ fmt index hlow hindex
    rw [hformat] at hindex ⊢
    exact ⟨_, formatLoop_conversion (f := formatter va) rfl hconversion hlow hindex, trivial, rfl, rfl⟩
  cases item with
  | text c =>
      have hchar : charString c.1 = [c.1] := if_neg c.2.1
      intro fmt index hlow hindex
      refine ⟨_, formatLoop_text (f := formatter va) c.2.1 c.2.2 hlow hindex, trivial, ?_, rfl⟩
      exact congrArg (o.out ++ ·) hchar
  | percent => exact hstep (charByte '%') rfl ⟨o.buffer, rfl⟩
  | char c =>
      refine hstep (charByte 'c') rfl ⟨o.buffer, ?_⟩
      rw [conversion, if_pos rfl, show UInt8.ofNat (va.slot o.arguments) = c from hitem]
      rfl
  | str s =>
      obtain ⟨hne, htext⟩ := hitem
      refine hstep (charByte 's') rfl ⟨o.buffer, ?_⟩
      rw [conversion, if_neg (by decide), if_pos rfl, stringArgument, if_neg hne, htext]
      rfl
  | int i n =>
      have hvalue : toInt32 (va.slot o.arguments) = n.1 := hitem
      obtain ⟨b, hprint⟩ := Output.print_itoa (o := o) n.2.1 n.2.2
      refine hstep (if i then charByte 'i' else charByte 'd') rfl ⟨b, Eq.trans ?_ hprint⟩
      cases i with
      | false =>
          rw [if_neg Bool.false_ne_true, conversion, if_neg (by decide), if_neg (by decide),
            if_pos (.inl rfl), hvalue]
      | true =>
          rw [if_pos rfl, conversion, if_neg (by decide), if_neg (by decide), if_pos (.inr rfl), hvalue]
  | unsigned n =>
      have hvalue : va.slot o.arguments % 2 ^ 32 = n.val := hitem
      have hsmall : n.val % 2 ^ 8 < 2 ^ 8 := Nat.mod_lt _ (by decide)
      obtain ⟨b, hprint⟩ := Output.print_itoa (o := o) (x := (n.val % 2 ^ 8 : ℕ))
        (le_trans (by decide) (Int.natCast_nonneg _)) (by simp only [INT_MAX]; omega)
      refine hstep (charByte 'u') rfl ⟨b, Eq.trans ?_ hprint⟩
      rw [conversion, if_neg (by decide), if_neg (by decide), if_neg (by decide), if_pos rfl, hvalue]
  | hex n =>
      have hvalue : va.slot o.arguments % 2 ^ 32 = n.val := hitem
      have hlt : n.val < 16 ^ 8 := lt_of_lt_of_le n.isLt (by decide)
      obtain ⟨b, hprint⟩ := Output.print_i2hex (o := o) 8 hlt (by decide)
      refine hstep (charByte 'x') rfl ⟨b, Eq.trans ?_ hprint⟩
      rw [conversion, if_neg (by decide), if_neg (by decide), if_neg (by decide), if_neg (by decide),
        if_pos (.inr rfl), hvalue]

end

/-! ## What is printed, and what should be -/

section

variable {va : VaList} {item : Item} {items : List Item} {letters : Letters} {buffer dest : ℕ → UInt8}

lemma printed_eq_iff : printed item = item.expansion letters ↔ Right letters item := by
  cases item with
  | text c => simp [printed, Item.expansion, Right]
  | percent => simp [printed, Item.expansion, Right]
  | char c =>
      by_cases hc : c = 0
      · simp [printed, Item.expansion, Right, charString, hc]
      · simp [printed, Item.expansion, Right, charString, hc]
  | str s => simp [printed, Item.expansion, Right]
  | int i n => simp [printed, Item.expansion, Right]
  | unsigned n =>
      rw [printed, Item.expansion, Right, decimalText_natCast, decimalText_natCast]
      refine ⟨fun h => ?_, fun h => by rw [Nat.mod_eq_of_lt h]⟩
      have hsame := toDigits_injective h
      omega
  | hex n => exact hexText_eq_iff

/-- A number that is cut off has no more digits, and nothing but `%%` is printed longer. -/
lemma length_printed_le (h : item ≠ .percent) :
    (printed item).length ≤ (item.expansion letters).length := by
  cases item with
  | text c => exact le_rfl
  | percent => exact absurd rfl h
  | char c =>
      rw [printed, charString]
      split_ifs
      · exact Nat.zero_le _
      · exact le_rfl
  | str s => exact le_rfl
  | int i n => exact le_rfl
  | unsigned n =>
      rw [printed, Item.expansion, decimalText_natCast, decimalText_natCast, List.length_map,
        List.length_map]
      exact length_toDigits_mono (Nat.mod_le _ _)
  | hex n => exact length_hexDigits.ge

/-- Every other item has as many `%` as it should. -/
lemma countP_percent (h : item ≠ .percent) : (printed item).countP (· == charByte '%') =
    (item.expansion letters).countP (· == charByte '%') := by
  cases item with
  | text c => rfl
  | percent => exact absurd rfl h
  | char c =>
      rw [printed, charString]
      split_ifs with hc
      · subst hc
        rfl
      · rfl
  | str s => rfl
  | int i n => rfl
  | unsigned n =>
      rw [printed, Item.expansion, ← List.count_eq_countP',
        List.count_eq_zero.2 percent_notMem_decimalText, List.count_eq_zero.2 percent_notMem_decimalText]
  | hex n =>
      have hupper : charByte '%' ∉ hexText n.val := @percent_notMem_hexDigits n.val .upper
      rw [printed, Item.expansion, ← List.count_eq_countP', List.count_eq_zero.2 hupper,
        List.count_eq_zero.2 percent_notMem_hexDigits]

/-- **The text is right if and only if every item is.** -/
lemma flatMap_printed_eq_iff : items.flatMap printed = expansionOf letters items ↔
    ∀ item ∈ items, Right letters item := by
  refine ⟨fun h => ?_, fun h => List.flatMap_congr fun item hitem => printed_eq_iff.2 (h item hitem)⟩
  have hcount := Concat.countP_eq_of_flatMap_eq (p := (· == charByte '%')) (fun item _ => ?_) h.symm
  · have hne : ∀ item ∈ items, item ≠ .percent := by
      rintro item hitem rfl
      exact absurd (hcount .percent hitem) (show ¬(1 : ℕ) = 2 by decide)
    have hlength := Concat.length_eq_of_flatMap_eq (fun item hitem => length_printed_le (hne item hitem)) h
    exact fun item hitem => printed_eq_iff.1 (Concat.eq_of_flatMap_eq hlength h item hitem)
  · by_cases hpercent : item = .percent
    · subst hpercent
      exact (show (1 : ℕ) ≤ 2 by decide)
    · exact (countP_percent hpercent).ge

/-! ## The whole call -/

lemma nul_notMem_formatOf {lone : Bool} : 0 ∉ formatOf items lone := fun h => by
  rcases List.mem_append.1 h with h | h
  · obtain ⟨item, -, hitem⟩ := List.mem_flatMap.1 h
    exact Item.nul_notMem_format hitem
  · cases lone <;> exact absurd h (by decide)

/-- A format that ends in a lone `%` is not survived. -/
lemma Formats.not_lone {lone : Bool} {expansion : List UInt8} {n : ℕ} (hargs : Arguments va items)
    (h : Formats va (formatOf items lone) buffer dest expansion n) : lone = false := by
  obtain ⟨o, hok, -⟩ := h
  have hindex := formatLoop_index nul_notMem_formatOf (by decide) hok
  cases lone with
  | false => rfl
  | true =>
      rw [kinguioVsprintf, formatOf, if_pos rfl, List.append_assoc, List.singleton_append] at hok
      rw [formatOf, if_pos rfl, List.length_append, List.length_singleton] at hindex
      push_cast at hindex
      have hbound : 0 + ((items.flatMap Item.format).length : ℤ) ≤ INT_MAX := by omega
      obtain ⟨o', hitems, -⟩ := formatLoop_items (f := formatter va) (o := ⟨[], 0, buffer⟩)
        (fun item o _ hitem => item_step hitem) [charByte '%', 0] trivial hargs (le_refl 0) hbound
      rw [hitems, formatLoop, if_neg (by decide), if_pos rfl] at hok
      obtain ⟨next, -, hok⟩ := bind_eq_ok hok
      exact absurd ⟨o, hok⟩ (formatLoop_end (fun h => by cases h) rfl)

/-- What the call stores for a format that an `int` counts. -/
lemma kinguioVsprintf_whole (buffer : ℕ → UInt8) (hargs : Arguments va items)
    (hindex : ((formatOf items false).length : ℤ) ≤ INT_MAX) :
    ∃ o, kinguioVsprintf va (formatOf items false) buffer = .ok o ∧
      o.out = items.flatMap printed ∧ o.arguments = (items.map Item.arguments).sum := by
  rw [formatOf, if_neg Bool.false_ne_true, List.append_nil] at hindex ⊢
  obtain ⟨o, hitems, -, hprinted, harguments⟩ := formatLoop_items (f := formatter va)
    (o := ⟨[], 0, buffer⟩) (fun item o _ hitem => item_step hitem) [0] trivial hargs (le_refl 0)
    (by rwa [zero_add])
  refine ⟨o, ?_, hprinted, harguments.trans (Nat.zero_add _)⟩
  rw [kinguioVsprintf, hitems, formatLoop, if_pos rfl]

/-- What a call that does what it should has met. -/
lemma Formats.inv {n : ℕ} (hargs : Arguments va items)
    (h : Formats va (formatOf items false) buffer dest (expansionOf letters items) n) :
    (∀ item ∈ items, Right letters item) ∧ ((formatOf items false).length : ℤ) ≤ INT_MAX ∧
      dest (expansionOf letters items).length = 0 := by
  obtain ⟨o, hok, hout, -, hend⟩ := h
  have hindex := formatLoop_index nul_notMem_formatOf (by decide) hok
  rw [zero_add] at hindex
  obtain ⟨o', hwhole, hprinted, -⟩ := kinguioVsprintf_whole buffer hargs hindex
  obtain rfl := Except.ok.inj (hok.symm.trans hwhole)
  rw [hout, overlay_outside (.inr (by omega))] at hend
  rw [hout] at hprinted
  exact ⟨flatMap_printed_eq_iff.1 hprinted.symm, hindex, hend⟩

end

/-- **The kernel's formatter** does what it should if and only if no `%` stands alone at the end, every
item is printed as it should be, an `int` counts the format, and there is a `NUL` at the place behind the
text already: the function does not store one. -/
theorem kinguioVsprintf_correct {va : VaList} {items : List Item} (h : Arguments va items)
    (letters : Letters) (lone : Bool) (buffer dest : ℕ → UInt8) :
    Formats va (formatOf items lone) buffer dest (expansionOf letters items)
        (items.map Item.arguments).sum ↔
      lone = false ∧ (∀ item ∈ items, Right letters item) ∧
        ((formatOf items lone).length : ℤ) ≤ INT_MAX ∧ dest (expansionOf letters items).length = 0 := by
  constructor
  · intro hformats
    obtain rfl := hformats.not_lone h
    exact ⟨rfl, hformats.inv h⟩
  · rintro ⟨rfl, hright, hindex, hend⟩
    obtain ⟨o, hwhole, hprinted, harguments⟩ := kinguioVsprintf_whole buffer h hindex
    have hout := hprinted.trans (flatMap_printed_eq_iff.2 hright)
    refine ⟨o, hwhole, hout, harguments, ?_⟩
    rw [hout, overlay_outside (.inr (by omega)), hend]

/-- Arguments that are all the same number. -/
def sameArguments (n : ℕ) : VaList := ⟨fun _ => n, fun _ => none⟩

/-- `"=%u %d"` for 200. -/
def numberItems : List Item := [.text ⟨61, by decide⟩, .unsigned 200, .int false ⟨200, by decide⟩]

/-- The call for a buffer of zeros. -/
theorem kinguioVsprintf_correct_numbers :
    Formats (sameArguments 200) (formatOf numberItems false) (fun _ => 0) (fun _ => 0)
      (expansionOf .lower numberItems) (numberItems.map Item.arguments).sum := by
  have hargs : Arguments (sameArguments 200) numberItems :=
    ⟨trivial, rfl, toInt32_of_range (by decide) (by decide), trivial⟩
  refine (kinguioVsprintf_correct hargs .lower false _ _).2 ⟨rfl, fun item hitem => ?_, by decide, rfl⟩
  rcases List.mem_cons.1 hitem with rfl | hitem
  · trivial
  rcases List.mem_cons.1 hitem with rfl | hitem
  · have hvalue : ((200 : Fin (2 ^ 32)) : ℕ) = 200 := rfl
    rw [Right, hvalue]
    decide
  · obtain rfl := List.mem_singleton.1 hitem
    trivial

/-- **An unsigned number above 255 is cut off**, in either reading of `%x`. -/
theorem kinguioVsprintf_fails : ¬∃ letters : Letters, ∀ (va : VaList) (items : List Item) (lone : Bool)
    (buffer dest : ℕ → UInt8), Arguments va items →
      Formats va (formatOf items lone) buffer dest (expansionOf letters items)
        (items.map Item.arguments).sum := by
  rintro ⟨letters, hall⟩
  have hargs : Arguments (sameArguments 300) [.unsigned 300] := ⟨rfl, trivial⟩
  obtain ⟨hright, -⟩ := (hall _ _ false (fun _ => 0) (fun _ => 0) hargs).inv hargs
  have hvalue : ((300 : Fin (2 ^ 32)) : ℕ) = 300 := rfl
  have hlt := hright (.unsigned 300) List.mem_cons_self
  rw [Right, hvalue] at hlt
  exact absurd hlt (by decide)

end Gramado.Kstdio
