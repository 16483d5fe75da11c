import Mathlib.Data.List.TakeWhile
import Gramado.Core.Kinguio
import Gramado.Libc.Span

/-!
# The environment

`getenv` with its `__findenv`, and `v7_getenv` with its `nvmatch`, of `libc/stdlib.c`.  A string is the list
of its bytes without the `NUL`, and a load behind the `NUL` ends the call.  The pointer that is returned is
the number of an entry of `environ` and an offset in it.

`__findenv` compares as many characters as the name has, whatever the entry, and does not look for the `=`.

* `getenv_correct_iff` — with which environments `getenv` finds what it should; `v7_getenv` always does.
-/

namespace Gramado.Libc

open Clib

/-- A pointer into an entry of `environ`, or `NULL`. -/
abbrev EntryPointer := Option (ℕ × ℕ)

/-- The loop over `i` in `__findenv`, with `left` turns to go: `fail`. -/
def compareName (c name : List UInt8) : ℕ → ℕ → Bool → Except Undefined Bool
  | 0, _, fail => .ok fail
  | left + 1, i, fail => do
      let a ← charAt c i
      let b ← charAt name i
      -- the `i++` at the end of the turn
      if (i : ℤ) = INT_MAX then .error .overflow
      else compareName c name left (i + 1) (fail || a ≠ b)

/-- The loop over the entries in `__findenv`, from the one with the number `p` on. -/
def findenvLoop (name : List UInt8) (len : ℕ) : List (List UInt8) → ℕ → Except Undefined EntryPointer
  | [], _ => .ok none
  | c :: environ, p => do
      let fail ← compareName c name len 0 false
      if fail then findenvLoop name len environ (p + 1) else .ok (some (p, len + 1))

/-- `__findenv`. -/
def findenv (environ : List (List UInt8)) (name : List UInt8) : Except Undefined EntryPointer :=
  findenvLoop name (name.takeWhile (· ≠ charByte '=')).length environ 0

/-- `getenv`. -/
def getenv (environ : List (List UInt8)) : Option (List UInt8) → Except Undefined EntryPointer
  | none => .ok none
  | some [] => .ok none
  | some (c :: name) => findenv environ (c :: name)

/-- `nvmatch`, with the number of characters of `s2` before: the offset that is returned. -/
def nvmatch : List UInt8 → List UInt8 → ℕ → Except Undefined (Option ℕ)
  -- both strings are at their end, and the loop goes on behind it
  | [], [], _ => .error .badPointer
  | [], b :: _, offset => .ok (if b = charByte '=' then some (offset + 1) else none)
  | _ :: _, [], _ => .ok none
  | a :: s1, b :: s2, offset =>
      if a ≠ b then .ok none
      else if a = charByte '=' then .ok (some (offset + 1))
      else nvmatch s1 s2 (offset + 1)

/-- The loop of `v7_getenv`, from the entry with the number `p` on. -/
def v7Loop (name : List UInt8) : List (List UInt8) → ℕ → Except Undefined EntryPointer
  | [], _ => .ok none
  | c :: environ, p => do
      match ← nvmatch name c 0 with
      | some offset => .ok (some (p, offset))
      | none => v7Loop name environ (p + 1)

/-- `v7_getenv`. -/
def v7Getenv (environ : List (List UInt8)) (name : List UInt8) : Except Undefined EntryPointer :=
  v7Loop name environ 0

/-! ## What is to be found -/

/-- Characters that may stand in a name: no `NUL` and no `=`. -/
def NameChars (text : List UInt8) : Prop := ∀ c ∈ text, c ≠ 0 ∧ c ≠ charByte '='

instance : DecidablePred NameChars := fun _ => inferInstanceAs (Decidable (∀ _ ∈ _, _))

/-- A string `NAME=value`. -/
structure Variable where
  name : List UInt8
  value : List UInt8
  name_chars : NameChars name
  value_chars : 0 ∉ value

/-- The string. -/
def Variable.text (v : Variable) : List UInt8 := v.name ++ charByte '=' :: v.value

/-- The value is what stands behind the `=`. -/
@[simp] lemma Variable.drop_text (v : Variable) : v.text.drop (v.name.length + 1) = v.value := by
  rw [Variable.text, List.drop_append]
  simp

/-- The entries of `environ`. -/
def entries (environ : List Variable) : List (List UInt8) := environ.map Variable.text

/-- **What should be found**: the value of the first entry with that name. -/
def lookup (environ : List Variable) (name : List UInt8) : EntryPointer :=
  (environ.findIdx? (·.name = name)).map fun p => (p, name.length + 1)

/-- **Where `getenv` works.**  The name is not longer than an `int` can count, and of the entries before the
one that is looked for none is shorter than the name and none has a name that only begins with it. -/
structure GetenvWorks (environ : List Variable) (name : List UInt8) : Prop where
  countable : environ ≠ [] → (name.length : ℤ) ≤ INT_MAX
  before : ∀ v ∈ environ.takeWhile (·.name ≠ name),
    name.length ≤ v.text.length + 1 ∧ ¬name <+: v.name

section

variable {name entry : List UInt8} {environ : List Variable} {v : Variable} {left i p offset : ℕ} {fail : Bool}

/-! ## `v7_getenv` -/

/-- `nvmatch` finds the value of a variable with that name, and no other. -/
lemma nvmatch_eq {front value : List UInt8} (hname : NameChars name) (hfront : NameChars front) :
    nvmatch name (front ++ charByte '=' :: value) offset =
      .ok (if front = name then some (offset + name.length + 1) else none) := by
  induction name generalizing front offset with
  | nil =>
      cases front with
      | nil => rfl
      | cons b front =>
          have hb : b ≠ charByte '=' := (hfront b List.mem_cons_self).2
          rw [List.cons_append, nvmatch, if_neg hb, if_neg (List.cons_ne_nil b front)]
  | cons a name ih =>
      have ha : a ≠ charByte '=' := (hname a List.mem_cons_self).2
      cases front with
      | nil => rw [List.nil_append, nvmatch, if_pos ha, if_neg (List.cons_ne_nil a name).symm]
      | cons b front =>
          rw [List.cons_append, nvmatch]
          by_cases hab : a = b
          · subst hab
            rw [if_neg (not_not.2 rfl), if_neg ha, ih (fun c hc => hname c (List.mem_cons_of_mem _ hc))
              fun c hc => hfront c (List.mem_cons_of_mem _ hc)]
            simp only [List.cons.injEq, true_and, List.length_cons]
            rw [Nat.add_right_comm offset 1, Nat.add_assoc offset]
          · rw [if_pos hab, if_neg fun h => hab (List.cons.inj h).1.symm]

/-- What `lookup` finds from an entry with the number `p` on. -/
def lookupFrom (environ : List Variable) (name : List UInt8) (p : ℕ) : EntryPointer :=
  (environ.findIdx? (·.name = name)).map fun k => (p + k, name.length + 1)

lemma lookup_eq : lookup environ name = lookupFrom environ name 0 := by
  simp only [lookup, lookupFrom, Nat.zero_add]

lemma lookupFrom_nil : lookupFrom [] name p = none := rfl

lemma lookupFrom_cons : lookupFrom (v :: environ) name p =
    if v.name = name then some (p, name.length + 1) else lookupFrom environ name (p + 1) := by
  rw [lookupFrom, List.findIdx?_cons]
  by_cases hv : v.name = name
  · simp [hv]
  · simp only [hv, decide_false, Bool.false_eq_true, if_false, Option.map_map, lookupFrom]
    refine congrArg (Option.map · _) (funext fun k => ?_)
    show (p + (k + 1), name.length + 1) = (p + 1 + k, name.length + 1)
    rw [Nat.add_assoc, Nat.add_comm 1 k]

/-- **`v7_getenv`** finds what it should. -/
lemma v7Getenv_eq (hname : NameChars name) : v7Getenv (entries environ) name = .ok (lookup environ name) := by
  rw [lookup_eq, v7Getenv]
  generalize 0 = p
  induction environ generalizing p with
  | nil => rfl
  | cons v environ ih =>
      rw [entries, List.map_cons, v7Loop, Variable.text, nvmatch_eq hname v.name_chars, ok_bind, lookupFrom_cons,
        Nat.zero_add]
      by_cases hv : v.name = name
      · rw [if_pos hv, if_pos hv]
      · rw [if_neg hv, if_neg hv]
        exact ih (p + 1)

/-! ## `getenv` -/

lemma takeWhile_name (hname : NameChars name) : name.takeWhile (· ≠ charByte '=') = name :=
  List.takeWhile_eq_self_iff.2 fun c hc => decide_eq_true (hname c hc).2

/-- **The loop over the characters** compares them all, and needs that many in the entry, its `NUL`
included. -/
lemma compareName_eq (hname : NameChars name) (hi : i + left = name.length)
    (hlength : (name.length : ℤ) ≤ INT_MAX) (hc : name.length ≤ entry.length + 1) :
    compareName entry name left i fail = .ok (fail || decide ¬name.drop i <+: entry.drop i) := by
  induction left generalizing i fail with
  | zero =>
      rw [compareName, List.drop_of_length_le (by omega)]
      simp
  | succ left ih =>
      have hlt : i < name.length := by omega
      have hb : charAt name i = .ok name[i] := by
        rw [charAt, if_pos hlt, List.getD_eq_getElem _ _ hlt]
      have hne : name[i] ≠ 0 := (hname _ (List.getElem_mem hlt)).1
      have hcount : ¬(i : ℤ) = INT_MAX := by omega
      rw [compareName, List.drop_eq_getElem_cons hlt]
      rcases Nat.lt_or_ge i entry.length with hic | hic
      · have ha : charAt entry i = .ok entry[i] := by
          rw [charAt, if_pos hic, List.getD_eq_getElem _ _ hic]
        rw [ha, ok_bind, hb, ok_bind, if_neg hcount, ih (by omega), List.drop_eq_getElem_cons hic]
        simp only [List.cons_prefix_cons]
        by_cases hsame : name[i] = entry[i]
        · simp [hsame]
        · simp [hsame, Ne.symm hsame]
      · -- the `NUL` of the entry
        have hend : i = entry.length := by omega
        have ha : charAt entry i = .ok 0 := by rw [charAt, if_neg (by omega), if_pos hend]
        rw [ha, ok_bind, hb, ok_bind, if_neg hcount, ih (by omega), List.drop_of_length_le hic]
        simp [hne.symm, hlt]

/-- An entry that is too short, or a name that is too long, ends the call. -/
lemma compareName_error (entry name : List UInt8) (i left : ℕ) (fail : Bool) (hi : i + left = name.length)
    (hleft : 0 < left) (hic : i ≤ entry.length + 1) (hcount : (i : ℤ) ≤ INT_MAX) (h : INT_MAX < name.length ∨ entry.length + 1 < name.length) :
    ∃ e, compareName entry name left i fail = .error e := by
  induction left generalizing i fail with
  | zero => omega
  | succ left ih =>
      have hlt : i < name.length := by omega
      have hb : charAt name i = .ok name[i] := by
        rw [charAt, if_pos hlt, List.getD_eq_getElem _ _ hlt]
      rw [compareName]
      rcases Nat.eq_or_lt_of_le hic with hbehind | hinside
      · have ha : charAt entry i = .error .badPointer := by
          rw [charAt, if_neg (by omega), if_neg (by omega)]
        exact ⟨_, by rw [ha]; rfl⟩
      · obtain ⟨a, ha⟩ : ∃ a, charAt entry i = .ok a := by
          rcases Nat.lt_or_ge i entry.length with hin | hin
          · exact ⟨_, by rw [charAt, if_pos hin]⟩
          · exact ⟨_, by rw [charAt, if_neg (by omega), if_pos (by omega)]⟩
        rw [ha, ok_bind, hb, ok_bind]
        by_cases hmax : (i : ℤ) = INT_MAX
        · exact ⟨_, if_pos hmax⟩
        · rw [if_neg hmax]
          exact ih (i + 1) _ (by omega) (by omega) (by omega) (by omega)

/-- The text of a variable begins with a name, if the variable's name does. -/
lemma prefix_text (hname : NameChars name) : name <+: v.text ↔ name <+: v.name := by
  refine ⟨fun h => ?_, fun h => h.trans (List.prefix_append _ _)⟩
  rcases List.prefix_or_prefix_of_prefix h (List.prefix_append v.name _) with hprefix | hprefix
  · exact hprefix
  · -- the variable's name is all of it, since the next character is the `=`
    obtain ⟨rest, rfl⟩ := hprefix
    rw [Variable.text, List.prefix_append_right_inj] at h
    cases rest with
    | nil => rw [List.append_nil]
    | cons c rest =>
        have hc : c = charByte '=' := (List.cons_prefix_cons.1 h).1
        exact absurd hc (hname c (by simp)).2

/-- The condition from an entry on. -/
lemma getenvWorks_cons : GetenvWorks (v :: environ) name ↔ (name.length : ℤ) ≤ INT_MAX ∧
    (v.name ≠ name → (name.length ≤ v.text.length + 1 ∧ ¬name <+: v.name) ∧ GetenvWorks environ name) := by
  constructor
  · rintro ⟨hlength, hbefore⟩
    refine ⟨hlength (List.cons_ne_nil v environ), fun hv => ?_⟩
    rw [List.takeWhile_cons, if_pos (decide_eq_true hv)] at hbefore
    exact ⟨hbefore v List.mem_cons_self, fun _ => hlength (List.cons_ne_nil v environ),
      fun w hw => hbefore w (List.mem_cons_of_mem _ hw)⟩
  · rintro ⟨hlength, hrest⟩
    refine ⟨fun _ => hlength, ?_⟩
    by_cases hv : v.name = name
    · rw [List.takeWhile_cons, if_neg (by simpa using hv)]
      exact List.forall_mem_nil _
    · obtain ⟨hfirst, -, hbefore⟩ := hrest hv
      rw [List.takeWhile_cons, if_pos (decide_eq_true hv)]
      exact List.forall_mem_cons.2 ⟨hfirst, hbefore⟩

/-- What is found is not before the first entry that was looked at. -/
lemma lookupFrom_le {k n : ℕ} (h : lookupFrom environ name p = some (k, n)) : p ≤ k := by
  obtain ⟨j, -, hj⟩ := Option.map_eq_some_iff.1 h
  cases hj
  exact Nat.le_add_right p j

/-- **The loop over the entries** finds what it should exactly under the condition. -/
lemma findenvLoop_iff (environ : List Variable) (p : ℕ) (hname : NameChars name) (hne : name ≠ []) :
    findenvLoop name name.length (entries environ) p = .ok (lookupFrom environ name p) ↔
      GetenvWorks environ name := by
  have hpos : 0 < name.length := List.length_pos_iff.2 hne
  induction environ generalizing p with
  | nil => exact iff_of_true rfl ⟨fun h => absurd rfl h, List.forall_mem_nil _⟩
  | cons v environ ih =>
      rw [getenvWorks_cons, entries, List.map_cons, findenvLoop, lookupFrom_cons]
      by_cases hbad : INT_MAX < name.length ∨ v.text.length + 1 < name.length
      · -- no variable with that name is so short
        obtain ⟨e, he⟩ := compareName_error v.text name 0 name.length false
          (Nat.zero_add _) hpos (Nat.zero_le _) (by decide) hbad
        rw [he, error_bind]
        refine iff_of_false nofun ?_
        rintro ⟨hlength, hrest⟩
        rcases hbad with hlong | hshort
        · omega
        · have hv : v.name ≠ name := by
            rintro rfl
            rw [Variable.text, List.length_append] at hshort
            omega
          have := (hrest hv).1.1
          omega
      · have hlength : (name.length : ℤ) ≤ INT_MAX := by omega
        have hfit : name.length ≤ v.text.length + 1 := by omega
        rw [compareName_eq hname (Nat.zero_add _) hlength hfit, ok_bind]
        simp only [List.drop_zero, prefix_text hname, Bool.false_or]
        by_cases hv : v.name = name
        · rw [if_pos hv]
          refine iff_of_true ?_ ⟨hlength, fun h => absurd hv h⟩
          rw [hv, if_neg (by simp)]
        · rw [if_neg hv]
          by_cases hprefix : name <+: v.name
          · -- the entry is taken for the variable
            refine iff_of_false ?_ fun h => (h.2 hv).1.2 hprefix
            rw [if_neg (by simpa using hprefix)]
            intro heq
            have hle := lookupFrom_le (Except.ok.inj heq).symm
            omega
          · rw [if_pos (by simpa using hprefix)]
            refine (ih _).trans ⟨fun h => ⟨hlength, fun _ => ⟨⟨hfit, hprefix⟩, h⟩⟩, fun h => (h.2 hv).2⟩

end

/-- **Where `getenv` finds what it should**, and so agrees with `v7_getenv`. -/
theorem getenv_correct_iff {environ : List Variable} {name : List UInt8} (hne : name ≠ [])
    (hname : NameChars name) :
    (getenv (entries environ) (some name) = .ok (lookup environ name) ∧
      getenv (entries environ) (some name) = v7Getenv (entries environ) name) ↔
      GetenvWorks environ name := by
  obtain ⟨c, rest, rfl⟩ := List.exists_cons_of_ne_nil hne
  have hloop := findenvLoop_iff environ 0 hname hne
  rw [v7Getenv_eq hname, getenv, findenv, takeWhile_name hname, and_self, lookup_eq]
  exact hloop

/-- `PATH=/` and the name `PATH`. -/
def pathVariable : Variable where
  name := "PATH".toList.map charByte
  value := [charByte '/']
  name_chars := by decide +kernel
  value_chars := by decide +kernel

/-- The environment `PATH=/`. -/
theorem getenv_correct_iff_path :
    (getenv (entries [pathVariable]) (some pathVariable.name) = .ok (lookup [pathVariable] pathVariable.name) ∧
      getenv (entries [pathVariable]) (some pathVariable.name) =
        v7Getenv (entries [pathVariable]) pathVariable.name) ↔
      GetenvWorks [pathVariable] pathVariable.name :=
  getenv_correct_iff (by decide +kernel) (by decide +kernel)

/-- **The name `P`** is taken for `PATH`. -/
theorem getenv_correct_fails : ¬∀ (environ : List Variable) (name : List UInt8), name ≠ [] → NameChars name →
    getenv (entries environ) (some name) = .ok (lookup environ name) ∧
      getenv (entries environ) (some name) = v7Getenv (entries environ) name := by
  intro hall
  obtain ⟨hfound, -⟩ := hall [pathVariable] [charByte 'P'] (by decide +kernel) (by decide +kernel)
  have hwrong : getenv (entries [pathVariable]) (some [charByte 'P']) = .ok (some (0, 2)) := by
    decide +kernel
  have hnone : lookup [pathVariable] [charByte 'P'] = none := by decide +kernel
  rw [hwrong, hnone] at hfound
  cases hfound

end Gramado.Libc
