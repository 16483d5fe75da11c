import Gramado.Libc.Stdio

/-!
# `sprintf`

`kinguio_vsprintf` in `libc/stdio.c`: a format is copied, and a conversion takes the next argument.

A call `sprintf(dest, string)` has no arguments, so that a conversion takes what the registers and
the stack hold (`VarArgs`).  A `%` before the final `NUL` takes that byte for its conversion, and the
formatting goes on behind the string.

* `Paired` — every `%` stands before a second one.  Such a string is copied
  (`kinguioVsprintf_paired`), and any other one can come out different
  (`kinguioVsprintf_unpaired`).
-/

namespace Gramado.Libc

/-- A character constant. -/
def ascii (c : Char) : UInt8 := UInt8.ofNat c.toNat

/-- What `va_arg` finds. -/
structure VarArgs where
  /-- The values, as 64 bits. -/
  reg : ℕ → ℕ
  /-- The bytes up to the `NUL` at an address, if it can be read. -/
  text : ℕ → Option (List UInt8)

/-! ## Numbers -/

/-- Decimal digits. -/
def decimal (n : ℕ) : List UInt8 := (Nat.toDigits 10 n).map ascii

/-- `kinguio_itoa`. -/
def kinguioItoa (val : ℤ) : List UInt8 :=
  if val < 0 then ascii '-' :: decimal val.natAbs else decimal val.natAbs

/-- `kinguio_i2hex` and `kinguio_i2hex_versao2`: no leading zeros. -/
def kinguioI2hex (val : ℕ) : List UInt8 := (Nat.toDigits 16 val).map fun c => ascii c.toUpper

/-! ## The format -/

/-- The string that an argument points at. -/
def VarArgs.string (va : VarArgs) (n : ℕ) : Except Abort (List UInt8) :=
  if va.reg n = 0 then .ok ("(null)".toList.map ascii)
  else
    match va.text (va.reg n) with
    | some s => .ok s
    | none => .error .badPointer

/-- The inner `switch` of `kinguio_vsprintf`: what is printed, `type64bit`, and the number of the
next argument. -/
def conversion (va : VarArgs) (c : UInt8) (type64bit : Bool) (n : ℕ) :
    Except Abort (List UInt8 × Bool × ℕ) :=
  if c = ascii 'c' then
    let b := UInt8.ofNat (va.reg n)
    .ok (if b = 0 then [] else [b], type64bit, n + 1)
  else if c = ascii 's' ∨ c = ascii 'S' then do
    let s ← va.string n
    .ok (s, type64bit, n + 1)
  else if c = ascii 'd' ∨ c = ascii 'i' then
    .ok (kinguioItoa (toInt32 (va.reg n)), type64bit, n + 1)
  else if c = ascii 'u' then
    if type64bit then .ok (decimal (va.reg n % 2 ^ 64), false, n + 1)
    else .ok (kinguioItoa (toInt32 (va.reg n)), type64bit, n + 1)
  else if c = ascii 'X' ∨ c = ascii 'x' then
    if type64bit then .ok (kinguioI2hex (va.reg n % 2 ^ 64), false, n + 1)
    else .ok (kinguioI2hex (va.reg n % 2 ^ 32), type64bit, n + 1)
  else .ok ([ascii '%', ascii '%'], type64bit, n)

/-- Where the loop of `kinguio_vsprintf` is. -/
inductive FormatState where
  | text
  /-- Behind a `%`. -/
  | percent
  /-- Behind `%l`. -/
  | long
  deriving DecidableEq

/-- The loop of `kinguio_vsprintf` on the memory from the format on: what is printed.  The loop ends
at a `NUL` where it stands outside a conversion. -/
def kinguioVsprintf (va : VarArgs) : FormatState → Bool → ℕ → List UInt8 → Except Abort (List UInt8)
  | _, _, _, [] => .error .badPointer
  | .text, type64bit, n, c :: fmt =>
      if c = 0 then .ok []
      else if c = ascii '%' then kinguioVsprintf va .percent type64bit n fmt
      else do
        let rest ← kinguioVsprintf va .text type64bit n fmt
        .ok (c :: rest)
  | .percent, type64bit, n, c :: fmt =>
      if c = ascii 'l' then kinguioVsprintf va .long true n fmt
      else do
        let (out, type64bit, n) ← conversion va c type64bit n
        let rest ← kinguioVsprintf va .text type64bit n fmt
        .ok (out ++ rest)
  | .long, type64bit, n, c :: fmt => do
      let (out, type64bit, n) ← conversion va c type64bit n
      let rest ← kinguioVsprintf va .text type64bit n fmt
      .ok (out ++ rest)

/-- `sprintf(dest, string)`: the bytes that are written, with the `NUL`. -/
def sprintf (va : VarArgs) (fmt : List UInt8) : Except Abort (List UInt8) := do
  let out ← kinguioVsprintf va .text false 0 fmt
  .ok (out ++ [0])

/-! ## Strings that are copied -/

/-- Every `%` stands before a second one. -/
def Paired : List UInt8 → Prop
  | [] => True
  | [c] => c ≠ ascii '%'
  | c :: c' :: s => if c = ascii '%' then c' = ascii '%' ∧ Paired s else Paired (c' :: s)

instance decidablePaired : ∀ s : List UInt8, Decidable (Paired s)
  | [] => .isTrue trivial
  | [c] => inferInstanceAs (Decidable (c ≠ ascii '%'))
  | c :: c' :: s =>
      letI := decidablePaired s
      letI := decidablePaired (c' :: s)
      inferInstanceAs (Decidable (if c = ascii '%' then _ ∧ _ else _))

section

variable {va : VarArgs} {type64bit : Bool} {n : ℕ} {c : UInt8} {s fmt out after : List UInt8}

lemma kinguioVsprintf_text (hc : c ≠ 0) (hpercent : c ≠ ascii '%') :
    kinguioVsprintf va .text type64bit n (c :: fmt) =
      (kinguioVsprintf va .text type64bit n fmt).map (c :: ·) := by
  rw [kinguioVsprintf, if_neg hc, if_neg hpercent]
  cases kinguioVsprintf va .text type64bit n fmt <;> rfl

lemma kinguioVsprintf_percent :
    kinguioVsprintf va .text type64bit n (ascii '%' :: fmt) =
      kinguioVsprintf va .percent type64bit n fmt := by
  rw [kinguioVsprintf, if_neg (by decide), if_pos rfl]

/-- A double `%` is printed as it is. -/
lemma kinguioVsprintf_pair :
    kinguioVsprintf va .text type64bit n (ascii '%' :: ascii '%' :: fmt) =
      (kinguioVsprintf va .text type64bit n fmt).map ([ascii '%', ascii '%'] ++ ·) := by
  have hconversion : conversion va (ascii '%') type64bit n =
      .ok ([ascii '%', ascii '%'], type64bit, n) := rfl
  rw [kinguioVsprintf_percent, kinguioVsprintf, if_neg (by decide), hconversion, ok_bind]
  dsimp only
  cases kinguioVsprintf va .text type64bit n fmt <;> rfl

/-- **A paired string is copied.** -/
theorem kinguioVsprintf_paired (hs : Paired s) (hnul : 0 ∉ s) :
    kinguioVsprintf va .text type64bit n (s ++ 0 :: after) = .ok s := by
  induction s using Paired.induct with
  | case1 => rfl
  | case2 c =>
      have hc : c ≠ 0 := fun h => hnul (by simp [h])
      rw [List.singleton_append, kinguioVsprintf_text hc hs]
      rfl
  | case3 c' s ih =>
      rw [Paired, if_pos rfl] at hs
      obtain ⟨rfl, hs⟩ := hs
      rw [List.cons_append, List.cons_append, kinguioVsprintf_pair,
        ih hs fun h => hnul (by simp [h])]
      rfl
  | case4 c c' s hpercent ih =>
      rw [Paired, if_neg hpercent] at hs
      have hc : c ≠ 0 := fun h => hnul (by simp [h])
      rw [List.cons_append, kinguioVsprintf_text hc hpercent,
        ih hs fun h => hnul (List.mem_cons_of_mem c h)]
      rfl

/-! ## Strings that are not -/

/-- Every argument is 97, and what it points at is the string `a`. -/
def lettersVa : VarArgs := ⟨fun _ => 97, fun _ => some [97]⟩

/-- A conversion prints something that does not begin with `%`, or it prints `%%`. -/
lemma conversion_letters {r : List UInt8 × Bool × ℕ}
    (h : conversion lettersVa c type64bit n = .ok r) :
    r.1 = [ascii '%', ascii '%'] ∨ ∃ b bs, r.1 = b :: bs ∧ b ≠ ascii '%' := by
  have hreg : lettersVa.reg n = 97 := rfl
  have hitoa : kinguioItoa (toInt32 ((97 : ℕ) : ℤ)) = [57, 55] := by
    rw [toInt32_of_range (by decide) (by decide)]
    decide
  have hdecimal : decimal (97 % 2 ^ 64) = [57, 55] := by decide
  have hlong : kinguioI2hex (97 % 2 ^ 64) = [54, 49] := by decide
  have hint : kinguioI2hex (97 % 2 ^ 32) = [54, 49] := by decide
  rw [conversion, hreg, hitoa, hdecimal, hlong, hint] at h
  split_ifs at h
  · cases h
    exact .inr ⟨97, [], rfl, by decide⟩
  · cases h
    exact .inr ⟨97, [], rfl, by decide⟩
  · cases h
    exact .inr ⟨57, [55], rfl, by decide⟩
  · cases h
    exact .inr ⟨57, [55], rfl, by decide⟩
  · cases h
    exact .inr ⟨57, [55], rfl, by decide⟩
  · cases h
    exact .inr ⟨54, [49], rfl, by decide⟩
  · cases h
    exact .inr ⟨54, [49], rfl, by decide⟩
  · cases h
    exact .inl rfl

/-- So what it prints does not begin with a `%` and the byte of the format, unless that is a second
`%`. -/
lemma conversion_letters_prefix {r : List UInt8 × Bool × ℕ} {rest : List UInt8} {b : UInt8}
    (h : conversion lettersVa c type64bit n = .ok r) (hb : b ≠ ascii '%') :
    ¬ascii '%' :: b :: s <+: r.1 ++ rest := by
  rcases conversion_letters h with hr | ⟨b', bs, hr, hb'⟩
  · rw [hr]
    intro hprefix
    have htail : b :: s <+: ascii '%' :: rest := (List.cons_prefix_cons.1 hprefix).2
    exact hb (List.cons_prefix_cons.1 htail).1
  · rw [hr]
    intro hprefix
    exact hb' (List.cons_prefix_cons.1 hprefix).1.symm

lemma kinguioVsprintf_letters (k : ℕ) :
    kinguioVsprintf va .text type64bit n (List.replicate k 97 ++ [0]) =
      .ok (List.replicate k 97) := by
  induction k with
  | zero => rfl
  | succ k ih =>
      rw [List.replicate_succ, List.cons_append, kinguioVsprintf_text (by decide) (by decide), ih]
      rfl

/-- **Any other string** can come out different, or grow by what is behind it. -/
theorem kinguioVsprintf_unpaired {k : ℕ} (hs : ¬Paired s) (hnul : 0 ∉ s)
    (h : kinguioVsprintf lettersVa .text type64bit n (s ++ 0 :: (List.replicate k 97 ++ [0])) =
      .ok out) : ¬s <+: out ∨ k ≤ out.length := by
  induction s using Paired.induct generalizing out type64bit n with
  | case1 => exact absurd trivial hs
  | case2 c =>
      rw [Paired, not_not] at hs
      subst hs
      have hconversion : conversion lettersVa 0 type64bit n =
          .ok ([ascii '%', ascii '%'], type64bit, n) := rfl
      rw [List.singleton_append, kinguioVsprintf_percent, kinguioVsprintf, if_neg (by decide),
        hconversion, ok_bind] at h
      dsimp only at h
      rw [kinguioVsprintf_letters, ok_bind] at h
      cases h
      right
      simp only [List.length_append, List.length_replicate]
      omega
  | case3 c' s ih =>
      rw [Paired, if_pos rfl] at hs
      by_cases hc' : c' = ascii '%'
      · subst hc'
        rw [List.cons_append, List.cons_append, kinguioVsprintf_pair] at h
        obtain ⟨out', hout', rfl⟩ := map_eq_ok h
        have hs' : ¬Paired s := fun hp => hs ⟨rfl, hp⟩
        rcases ih hs' (fun h => hnul (by simp [h])) hout' with hprefix | hlength
        · left
          intro hp
          exact hprefix (List.cons_prefix_cons.1 (List.cons_prefix_cons.1 hp).2).2
        · right
          simp only [List.length_append]
          omega
      · left
        rw [List.cons_append, List.cons_append, kinguioVsprintf_percent, kinguioVsprintf] at h
        by_cases hl : c' = ascii 'l'
        · rw [if_pos hl] at h
          obtain ⟨d, fmt, hfmt⟩ : ∃ d fmt, s ++ 0 :: (List.replicate k 97 ++ [0]) = d :: fmt := by
            cases s with
            | nil => exact ⟨_, _, rfl⟩
            | cons d s => exact ⟨_, _, rfl⟩
          rw [hfmt, kinguioVsprintf] at h
          obtain ⟨r, hr, h⟩ := bind_eq_ok h
          obtain ⟨rest, -, h⟩ := bind_eq_ok h
          cases h
          exact conversion_letters_prefix hr hc'
        · rw [if_neg hl] at h
          obtain ⟨r, hr, h⟩ := bind_eq_ok h
          obtain ⟨rest, -, h⟩ := bind_eq_ok h
          cases h
          exact conversion_letters_prefix hr hc'
  | case4 c c' s hpercent ih =>
      rw [Paired, if_neg hpercent] at hs
      have hc : c ≠ 0 := fun h => hnul (by simp [h])
      rw [List.cons_append, kinguioVsprintf_text hc hpercent] at h
      obtain ⟨out', hout', rfl⟩ := map_eq_ok h
      rcases ih hs (fun h => hnul (List.mem_cons_of_mem c h)) hout' with hprefix | hlength
      · left
        intro hp
        exact hprefix (List.cons_prefix_cons.1 hp).2
      · right
        simp only [List.length_cons]
        omega

end

end Gramado.Libc
