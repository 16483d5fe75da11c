import Gramado.Lib.Loop
import Gramado.Core.CStrings
import Mathlib.Order.Bounds.Basic

/-!
# `strspn` and `strcspn`

The two functions of `libc/string.c`.  A string is the list of its bytes without the `NUL`, and a load
behind the `NUL` ends the call.

Both loops have the condition `result = 1`, which is an assignment: every turn looks at the byte 1 of
the string, and nothing but that byte can end the loop.

* `strspn_strcspn_correct` — which calls return the length that they should.
-/

namespace Gramado.Libc

open Clib

/-- The byte `i` of a string, or its `NUL`. -/
def charAt (str : List UInt8) (i : ℕ) : Except Undefined UInt8 :=
  if i < str.length then .ok (str.getD i 0)
  else if i = str.length then .ok 0
  else .error .badPointer

/-- `while (accept[accept_length]) accept_length++`, for what is left of the string. -/
def countChars : List UInt8 → ℕ → Except Undefined ℕ
  | [], length => .ok length
  | _ :: rest, length =>
      if (length : ℤ) = INT_MAX then .error .overflow else countChars rest (length + 1)

/-- The inner loop, with `left` turns to go: whether the byte `result` of the string is found. -/
def findChar (str set : List UInt8) (result : ℕ) : ℕ → ℕ → Except Undefined Bool
  | 0, _ => .ok false
  | left + 1, i => do
      let c ← charAt str result
      let d ← charAt set i
      if c ≠ d then findChar str set result left (i + 1) else .ok true

/-- `result` and `matches`. -/
structure SpanState where
  result : ℕ
  matched : Bool

/-- The condition of both outer loops. -/
def SpanState.condition (s : SpanState) : SpanState := { s with result := 1 }

/-- One turn of an outer loop; `stops matched` is the test that returns at its end. -/
def spanTurn (stops : Bool → Bool) (str set : List UInt8) (length : ℕ) (s : SpanState) :
    Except Undefined (ℕ ⊕ SpanState) := do
  let s := s.condition
  let c ← charAt str s.result
  if c = 0 then .ok (.inl s.result)
  else do
    let found ← findChar str set s.result length 0
    let s := { s with matched := s.matched || found }
    if stops s.matched then .ok (.inl s.result) else .ok (.inr { s with result := s.result + 1 })

/-- Either function, if it ends within so many turns of its outer loop. -/
def span (stops : Bool → Bool) (turns : ℕ) (str set : List UInt8) : Option (Except Undefined ℕ) :=
  match countChars set 0 with
  | .error e => some (.error e)
  | .ok length => Loop.within (spanTurn stops str set length) turns ⟨0, false⟩

/-- `strspn`: `if (!matches) return`. -/
def strspn (turns : ℕ) (str accept : List UInt8) : Option (Except Undefined ℕ) :=
  span (fun matched => !matched) turns str accept

/-- `strcspn`: `if (matches) return`. -/
def strcspn (turns : ℕ) (str reject : List UInt8) : Option (Except Undefined ℕ) :=
  span (fun matched => matched) turns str reject

/-! ## What is to be returned -/

/-- The longest prefix of the string that is made of characters that meet `p` has the length `n`. -/
def PrefixLength (p : UInt8 → Prop) (str : List UInt8) (n : ℕ) : Prop :=
  IsGreatest {k | k ≤ str.length ∧ ∀ c ∈ str.take k, p c} n

/-- The first character meets `p`, and the second, if there is one, does not. -/
def OnlyFirst (p : UInt8 → Prop) (str : List UInt8) : Prop :=
  ∃ a rest, str = a :: rest ∧ p a ∧ ∀ b ∈ rest.head?, ¬p b

section

variable {p : UInt8 → Prop} {stops : Bool → Bool} {str set rest : List UInt8} {a b c : UInt8}
  {n i left length turns : ℕ} {matched : Bool} {r : Except Undefined ℕ}

lemma prefixLength_one : PrefixLength p str 1 ↔ OnlyFirst p str := by
  constructor
  · rintro ⟨⟨hlength, hfirst⟩, hgreatest⟩
    cases str with
    | nil => cases hlength
    | cons a rest =>
        refine ⟨a, rest, rfl, hfirst a List.mem_cons_self, ?_⟩
        intro b hb hpb
        obtain ⟨rest, rfl⟩ := List.head?_eq_some_iff.1 hb
        -- otherwise the first two characters are a longer prefix
        have htwo : 2 ≤ 1 := hgreatest ⟨Nat.le_add_left .., fun c hc => by
          rcases List.mem_cons.1 hc with rfl | hc
          · exact hfirst _ List.mem_cons_self
          · rwa [List.eq_of_mem_singleton hc]⟩
        omega
  · rintro ⟨a, rest, rfl, ha, hrest⟩
    refine ⟨⟨Nat.le_add_left .., fun c hc => ?_⟩, ?_⟩
    · rwa [List.eq_of_mem_singleton hc]
    · rintro k ⟨hlength, hall⟩
      by_contra hk
      cases rest with
      | nil =>
          simp only [List.length_singleton] at hlength
          omega
      | cons b rest =>
          refine hrest b rfl (hall b ?_)
          obtain ⟨j, rfl⟩ : ∃ j, k = j + 2 := ⟨k - 2, by omega⟩
          simp

/-! ## The loops -/

lemma countChars_eq (h : (n : ℤ) ≤ INT_MAX) : countChars set n =
    if ((n + set.length : ℕ) : ℤ) ≤ INT_MAX then .ok (n + set.length) else .error .overflow := by
  induction set generalizing n with
  | nil => rw [countChars, List.length_nil, Nat.add_zero, if_pos h]
  | cons c rest ih =>
      rw [countChars, List.length_cons]
      by_cases hmax : (n : ℤ) = INT_MAX
      · have hmore : ¬((n + (rest.length + 1) : ℕ) : ℤ) ≤ INT_MAX := by omega
        rw [if_pos hmax, if_neg hmore]
      · rw [if_neg hmax, ih (by omega), Nat.add_assoc, Nat.add_comm 1]

/-- The inner loop looks for the character in the rest of the set. -/
lemma findChar_eq (hc : charAt str n = .ok c) (hi : i + left = set.length) :
    findChar str set n left i = .ok (decide (c ∈ set.drop i)) := by
  induction left generalizing i with
  | zero => rw [findChar, List.drop_of_length_le (by omega)]; rfl
  | succ left ih =>
      have hlt : i < set.length := by omega
      have hd : charAt set i = .ok set[i] := by
        rw [charAt, if_pos hlt, List.getD_eq_getElem _ _ hlt]
      rw [findChar, hc, ok_bind, hd, ok_bind, List.drop_eq_getElem_cons hlt]
      by_cases heq : c = set[i]
      · rw [if_neg (not_not.2 heq), heq]
        simp only [List.mem_cons, true_or, decide_true]
      · rw [if_pos heq, ih (by omega)]
        simp only [List.mem_cons, heq, false_or]

/-- Every turn looks at the second character. -/
lemma spanTurn_second (hb : b ≠ 0) : spanTurn stops (a :: b :: rest) set set.length ⟨n, matched⟩ =
    if stops (matched || decide (b ∈ set)) then .ok (.inl 1)
    else .ok (.inr ⟨2, matched || decide (b ∈ set)⟩) := by
  have hc : charAt (a :: b :: rest) 1 = .ok b := by
    rw [charAt, if_pos (by simp)]
    rfl
  have hfind : findChar (a :: b :: rest) set 1 set.length 0 = .ok (decide (b ∈ set)) := by
    rw [findChar_eq hc (by omega), List.drop_zero]
  simp only [spanTurn, SpanState.condition, hc, hfind, ok_bind, if_neg hb]
  rfl

/-- A character that does not stop the first turn stops no other one. -/
lemma span_never (hb : b ≠ 0) (hgo : stops (decide (b ∈ set)) = false) :
    ¬Loop.Ends (spanTurn stops (a :: b :: rest) set set.length) ⟨0, false⟩ r := by
  refine Loop.not_ends (J := fun s => (s.matched || decide (b ∈ set)) = decide (b ∈ set)) ?_ rfl
  rintro ⟨n, matched⟩ hmatched
  refine ⟨⟨2, decide (b ∈ set)⟩, ?_, Bool.or_self _⟩
  rw [spanTurn_second hb, show (matched || decide (b ∈ set)) = decide (b ∈ set) from hmatched, hgo,
    if_neg Bool.false_ne_true]

/-- What either function returns. -/
lemma span_returns (hstr : 0 ∉ str) : (∃ turns, span stops turns str set = some (.ok n)) ↔
    (set.length : ℤ) ≤ INT_MAX ∧ n = 1 ∧
      ∃ a rest, str = a :: rest ∧ ∀ b ∈ rest.head?, stops (decide (b ∈ set)) = true := by
  simp only [span, countChars_eq (n := 0) (by decide), Nat.zero_add]
  by_cases hlength : (set.length : ℤ) ≤ INT_MAX
  swap
  · rw [if_neg hlength]
    simp [hlength]
  rw [if_pos hlength]
  show Loop.Ends _ _ _ ↔ _
  cases str with
  | nil =>
      -- the byte behind the `NUL`
      have hturn : spanTurn stops [] set set.length ⟨0, false⟩ = .error .badPointer := rfl
      rw [Loop.ends_error hturn]
      simp
  | cons a rest =>
      cases rest with
      | nil =>
          have hturn : spanTurn stops [a] set set.length ⟨0, false⟩ = .ok (.inl 1) := rfl
          rw [Loop.ends_exit hturn]
          simp [hlength]
      | cons b rest =>
          have hb : b ≠ 0 := fun h => hstr (by simp [h])
          cases hstop : stops (decide (b ∈ set)) with
          | false => simp [span_never hb hstop, hstop]
          | true =>
              have hturn : spanTurn stops (a :: b :: rest) set set.length ⟨0, false⟩ = .ok (.inl 1) := by
                rw [spanTurn_second hb, Bool.false_or, if_pos hstop]
              rw [Loop.ends_exit hturn]
              simp [hlength, hstop]

/-- A call is right where the length is 1. -/
lemma span_correct (hstr : 0 ∉ str) (hp : ∀ c, p c ↔ stops (decide (c ∈ set)) = false) :
    (∃ turns n, span stops turns str set = some (.ok n) ∧ PrefixLength p str n) ↔
      (set.length : ℤ) ≤ INT_MAX ∧ OnlyFirst p str := by
  constructor
  · rintro ⟨turns, n, hspan, hprefix⟩
    obtain ⟨hlength, rfl, -⟩ := (span_returns hstr).1 ⟨turns, hspan⟩
    exact ⟨hlength, prefixLength_one.1 hprefix⟩
  · rintro ⟨hlength, a, rest, rfl, ha, hrest⟩
    have hstop : ∀ b ∈ rest.head?, stops (decide (b ∈ set)) = true := fun b hb => by
      simpa only [hp, Bool.not_eq_false] using hrest b hb
    obtain ⟨turns, hspan⟩ := (span_returns hstr).2 ⟨hlength, rfl, a, rest, rfl, hstop⟩
    exact ⟨turns, 1, hspan, prefixLength_one.2 ⟨a, rest, rfl, ha, hrest⟩⟩

end

/-- **Which calls are right**: those for strings of which the first character counts and the second, if
there is one, does not.  The set has as many characters as an `int` can count. -/
theorem strspn_strcspn_correct {str set : List UInt8} (hstr : 0 ∉ str) :
    ((∃ turns n, strspn turns str set = some (.ok n) ∧ PrefixLength (· ∈ set) str n) ↔
      (set.length : ℤ) ≤ INT_MAX ∧ OnlyFirst (· ∈ set) str) ∧
    ((∃ turns n, strcspn turns str set = some (.ok n) ∧ PrefixLength (· ∉ set) str n) ↔
      (set.length : ℤ) ≤ INT_MAX ∧ OnlyFirst (· ∉ set) str) :=
  ⟨span_correct hstr fun c => by simp, span_correct hstr fun c => by simp⟩

/-- `"ab"` and the set `"a"`. -/
theorem strspn_strcspn_correct_ab :
    (∃ turns n, strspn turns [97, 98] [97] = some (.ok n) ∧ PrefixLength (· ∈ [97]) [97, 98] n) ↔
      ([97].length : ℤ) ≤ INT_MAX ∧ OnlyFirst (· ∈ [97]) [97, 98] :=
  (strspn_strcspn_correct (by decide)).1

/-- **The loop has no end**: `strspn("aa", "a")` and `strcspn("aa", "b")` do not return. -/
theorem strspn_strcspn_fails : ¬∀ str set : List UInt8, 0 ∉ str → 0 ∉ set →
    (∃ turns n, strspn turns str set = some (.ok n) ∧ PrefixLength (· ∈ set) str n) ∧
    (∃ turns n, strcspn turns str set = some (.ok n) ∧ PrefixLength (· ∉ set) str n) := by
  intro hall
  obtain ⟨⟨turns, n, hspan, -⟩, -⟩ := hall [97, 97] [97] (by decide) (by decide)
  have hgo : (fun matched => !matched) (decide ((97 : UInt8) ∈ [97])) = false := rfl
  exact span_never (by decide) hgo ⟨turns, hspan⟩

end Gramado.Libc
