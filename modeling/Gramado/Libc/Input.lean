import Gramado.Lib.Memory
import Gramado.Libc.Stdio

/-!
# The line editor of ring 3

`input` of `libc/stdio.c` puts the characters of a command line into `prompt[]`.  The buffer is a memory that
records the ranges stored to, so a store behind it is seen.

`typed` says what the keys leave on the line: a character goes to its end if there is still room for the `NUL`
behind it, a Tab goes in as `\t`, and Backspace, Delete and `0x08` take the last one away.

* `input_keeps_iff` — the position and the stores stay in bounds, and Enter shows the line, exactly while no
  character comes to a full line and no Tab to one with room.
-/

namespace Gramado.Libc

/-- `PROMPT_MAX_DEFAULT`, the size of `prompt[]`. -/
def PROMPT_MAX_DEFAULT : ℕ := BUFSIZ

def VK_RETURN : UInt8 := 0x1C
def VK_TAB : UInt8 := 0x0F
def VK_BACKSPACE : UInt8 := 0x0E

/-- The characters that erase one. -/
def Erases (c : UInt8) : Prop := c = 0x08 ∨ c = 0x7F ∨ c = VK_BACKSPACE

instance (c : UInt8) : Decidable (Erases c) := inferInstanceAs (Decidable (_ ∨ _ ∨ _))

/-- The globals of `input`. -/
structure PromptLine where
  prompt : Memory UInt8
  prompt_pos : ℤ
  prompt_max : ℤ

namespace PromptLine

/-- `prompt[prompt_pos] = c`. -/
def put (s : PromptLine) (c : UInt8) : PromptLine := { s with prompt := s.prompt.store s.prompt_pos [c] }

/-- The first test of `input`. -/
def adjustMax (s : PromptLine) : PromptLine :=
  if s.prompt_max = 0 ∨ s.prompt_max ≥ PROMPT_MAX_DEFAULT then { s with prompt_max := PROMPT_MAX_DEFAULT }
  else s

end PromptLine

/-- `input`; the returned value is the first component. -/
def input (ch : ℕ) (s : PromptLine) : UInt8 × PromptLine :=
  let c := UInt8.ofNat ch
  let s := s.adjustMax
  if s.prompt_pos > s.prompt_max then (0, s)
  else if c = VK_RETURN then (VK_RETURN, s.put 0)
  -- a Tab ends the line too, and the position stays before it
  else if c = VK_TAB then (VK_RETURN, s.put '\t'.toUInt8)
  else if Erases c then
    if s.prompt_pos ≤ 0 then (0, { s with prompt_pos := 0 }.put 0)
    else (0, { s with prompt_pos := s.prompt_pos - 1 })
  else (0, { s.put c with prompt_pos := s.prompt_pos + 1 })

/-- The characters, one after the other. -/
def feed (s : PromptLine) (keys : List ℕ) : PromptLine := keys.foldl (fun s ch => (input ch s).2) s

/-- The empty prompt: as the program starts, or as `prompt_clean` leaves it. -/
def emptyPrompt (cleaned : Bool) : PromptLine where
  prompt := ⟨fun _ => 0, []⟩
  prompt_pos := 0
  prompt_max := if cleaned then PROMPT_MAX_DEFAULT else 0

/-! ## What is typed -/

/-- The character of a key that is none of the editing ones. -/
def charOf (c : UInt8) : UInt8 := if c = VK_TAB then '\t'.toUInt8 else c

/-- The line after one more key. -/
def typeKey (line : List UInt8) (ch : ℕ) : List UInt8 :=
  let c := UInt8.ofNat ch
  if c = VK_RETURN then line
  else if Erases c then line.dropLast
  else if line.length + 1 < PROMPT_MAX_DEFAULT then line ++ [charOf c]
  else line

/-- The line that the keys leave. -/
def typed (keys : List ℕ) : List UInt8 := keys.foldl typeKey []

/-- The position and all stores so far are in bounds. -/
structure InPrompt (s : PromptLine) : Prop where
  nonneg : 0 ≤ s.prompt_pos
  lt : s.prompt_pos < PROMPT_MAX_DEFAULT
  stores : s.prompt.UsedWithin 0 PROMPT_MAX_DEFAULT

/-- The buffer holds the line, and a `NUL` behind it. -/
def ShowsLine (s : PromptLine) (line : List UInt8) : Prop :=
  ∀ i : ℕ, i ≤ line.length → s.prompt.cell i = line.getD i 0

/-- After every character the prompt is in bounds, and Enter would show what was typed. -/
def KeepsLine (s : PromptLine) (keys : List ℕ) : Prop :=
  ∀ before, before <+: keys →
    InPrompt (feed s before) ∧ ShowsLine (input VK_RETURN.toNat (feed s before)).2 (typed before)

/-- A character comes to a line with room for it, and a Tab to a full one. -/
def Fits (line : List UInt8) (ch : ℕ) : Prop :=
  let c := UInt8.ofNat ch
  c ≠ VK_RETURN → ¬Erases c → (line.length + 1 < PROMPT_MAX_DEFAULT ↔ c ≠ VK_TAB)

/-! ## One character -/

/-- The invariant: the position is the end of the line, and the buffer holds its characters. -/
structure HoldsLine (s : PromptLine) (line : List UInt8) : Prop where
  position : s.prompt_pos = line.length
  room : line.length < PROMPT_MAX_DEFAULT
  max : s.prompt_max = 0 ∨ s.prompt_max = PROMPT_MAX_DEFAULT
  stores : s.prompt.UsedWithin 0 PROMPT_MAX_DEFAULT
  chars : ∀ i : ℕ, i < line.length → s.prompt.cell i = line.getD i 0

variable {s : PromptLine} {line : List UInt8} {c : UInt8} {ch : ℕ}

lemma HoldsLine.adjustMax (h : HoldsLine s line) :
    HoldsLine s.adjustMax line ∧ ¬s.adjustMax.prompt_pos > s.adjustMax.prompt_max := by
  have hpos := h.position
  have hroom := h.room
  have hcond : s.prompt_max = 0 ∨ s.prompt_max ≥ PROMPT_MAX_DEFAULT := h.max.imp_right fun heq => heq.ge
  rw [PromptLine.adjustMax, if_pos hcond]
  exact ⟨⟨hpos, hroom, Or.inr rfl, h.stores, h.chars⟩, by dsimp only; omega⟩

lemma put_cell (h : HoldsLine s line) (c : UInt8) (i : ℕ) :
    (s.put c).prompt.cell i = if i = line.length then c else s.prompt.cell i := by
  have hcell : (s.put c).prompt.cell i = if (i : ℤ) = s.prompt_pos then c else s.prompt.cell i :=
    Memory.store_single_cell _ _ _ _
  rw [hcell, h.position]
  simp only [Nat.cast_inj]

lemma put_stores (h : HoldsLine s line) (c : UInt8) :
    (s.put c).prompt.UsedWithin 0 PROMPT_MAX_DEFAULT := by
  have hpos := h.position
  have hroom := h.room
  refine h.stores.store (by omega) ?_
  rw [List.length_singleton]
  omega

/-- A store at the end of the line leaves its characters. -/
lemma HoldsLine.put (h : HoldsLine s line) (c : UInt8) : HoldsLine (s.put c) line where
  position := h.position
  room := h.room
  max := h.max
  stores := put_stores h c
  chars i hi := by
    rw [put_cell h, if_neg (by omega)]
    exact h.chars i hi

/-- A character goes to the end of the line. -/
lemma HoldsLine.push (h : HoldsLine s line) (hroom : line.length + 1 < PROMPT_MAX_DEFAULT) :
    HoldsLine { s.put c with prompt_pos := s.prompt_pos + 1 } (line ++ [c]) where
  position := by
    rw [h.position, List.length_append]
    rfl
  room := by
    rw [List.length_append]
    exact hroom
  max := h.max
  stores := put_stores h c
  chars i hi := by
    rw [List.length_append, List.length_singleton] at hi
    rw [put_cell h]
    split_ifs with hlast
    · rw [hlast, List.getD_append_right _ _ _ _ le_rfl, Nat.sub_self, List.getD_cons_zero]
    · rw [List.getD_append _ _ _ _ (by omega)]
      exact h.chars i (by omega)

/-- The last character is taken away, if there is one. -/
lemma HoldsLine.pop (h : HoldsLine s line) (hpos : 0 < s.prompt_pos) :
    HoldsLine { s with prompt_pos := s.prompt_pos - 1 } line.dropLast where
  position := by
    have hlength := h.position
    rw [List.length_dropLast]
    dsimp only
    omega
  room := by
    have hroom := h.room
    rw [List.length_dropLast]
    omega
  max := h.max
  stores := h.stores
  chars i hi := by
    rw [List.length_dropLast] at hi
    rw [List.getD_eq_getElem _ _ (by rw [List.length_dropLast]; exact hi), List.getElem_dropLast,
      ← List.getD_eq_getElem _ 0 (by omega)]
    exact h.chars i (by omega)

/-- **A character that fits keeps the invariant.** -/
lemma input_holds (h : HoldsLine s line) (hfits : Fits line ch) :
    HoldsLine (input ch s).2 (typeKey line ch) := by
  obtain ⟨hmax, hroom⟩ := h.adjustMax
  unfold input typeKey
  simp only
  rw [if_neg hroom]
  by_cases hreturn : UInt8.ofNat ch = VK_RETURN
  · rw [if_pos hreturn, if_pos hreturn]
    exact hmax.put 0
  have hfits := hfits hreturn
  rw [if_neg hreturn, if_neg hreturn]
  by_cases herase : Erases (UInt8.ofNat ch)
  · have htab : UInt8.ofNat ch ≠ VK_TAB := by
      rcases herase with h | h | h <;> rw [h] <;> decide
    rw [if_neg htab, if_pos herase, if_pos herase]
    split_ifs with hpos
    · have hlength := hmax.position
      obtain rfl : line = [] := List.length_eq_zero_iff.1 (by omega)
      have hzero : s.adjustMax.prompt_pos = 0 := by simpa using hlength
      have hsame : { s.adjustMax with prompt_pos := 0 } = s.adjustMax := by rw [← hzero]
      rw [hsame]
      exact hmax.put 0
    · exact hmax.pop (by omega)
  have hfits := hfits herase
  rw [if_neg herase, if_neg herase]
  by_cases htab : UInt8.ofNat ch = VK_TAB
  · rw [if_pos htab, if_neg (fun hlt => hfits.1 hlt htab)]
    exact hmax.put _
  · rw [if_neg htab, if_pos (hfits.2 htab), charOf, if_neg htab]
    exact hmax.push (hfits.2 htab)

/-- What Enter shows. -/
lemma HoldsLine.shows (h : HoldsLine s line) : ShowsLine (input VK_RETURN.toNat s).2 line := by
  obtain ⟨hmax, hroom⟩ := h.adjustMax
  have henter : (input VK_RETURN.toNat s).2 = s.adjustMax.put 0 := by
    unfold input
    simp only
    rw [if_neg hroom, if_pos (UInt8.ofNat_toNat)]
  intro i hi
  rw [henter, put_cell hmax]
  split_ifs with hlast
  · rw [hlast, List.getD_eq_default _ _ le_rfl]
  · exact hmax.chars i (by omega)

lemma HoldsLine.inPrompt (h : HoldsLine s line) : InPrompt s where
  nonneg := by
    rw [h.position]
    exact Int.natCast_nonneg _
  lt := by
    rw [h.position]
    exact_mod_cast h.room
  stores := h.stores

/-- **A character that does not fit** leaves the bounds, or the line is not what was typed. -/
lemma fits_of_keeps (h : HoldsLine s line) (hin : InPrompt (input ch s).2)
    (hshows : ShowsLine (input VK_RETURN.toNat (input ch s).2).2 (typeKey line ch)) : Fits line ch := by
  obtain ⟨hmax, hroom⟩ := h.adjustMax
  intro hreturn herase
  unfold typeKey at hshows
  simp only at hshows
  rw [if_neg hreturn, if_neg herase] at hshows
  by_cases htab : UInt8.ofNat ch = VK_TAB
  · have hput : (input ch s).2 = s.adjustMax.put '\t'.toUInt8 := by
      unfold input
      simp only
      rw [if_neg hroom, if_neg hreturn, if_pos htab]
    refine ⟨fun hlt => ?_, fun hne => absurd htab hne⟩
    rw [if_pos hlt, charOf, if_pos htab, hput] at hshows
    -- Enter puts a `NUL` where the Tab should be
    have hlast := hshows line.length (by simp)
    rw [(hmax.put _).shows line.length le_rfl, List.getD_eq_default _ _ le_rfl,
      List.getD_append_right _ _ _ _ le_rfl, Nat.sub_self, List.getD_cons_zero] at hlast
    exact absurd hlast (by decide)
  · refine ⟨fun _ => htab, fun _ => ?_⟩
    have hadvance : (input ch s).2.prompt_pos = s.adjustMax.prompt_pos + 1 := by
      unfold input
      simp only
      rw [if_neg hroom, if_neg hreturn, if_neg htab, if_neg herase]
    have hlt := hin.lt
    rw [hadvance, hmax.position] at hlt
    exact_mod_cast hlt

/-! ## Every sequence of characters -/

lemma feed_append_one (s : PromptLine) (keys : List ℕ) (ch : ℕ) :
    feed s (keys ++ [ch]) = (input ch (feed s keys)).2 := by
  rw [feed, List.foldl_append]
  rfl

lemma typed_append_one (keys : List ℕ) (ch : ℕ) : typed (keys ++ [ch]) = typeKey (typed keys) ch := by
  rw [typed, List.foldl_append]
  rfl

lemma emptyPrompt_holds (cleaned : Bool) : HoldsLine (emptyPrompt cleaned) [] where
  position := rfl
  room := by decide
  max := by
    cases cleaned
    · exact Or.inl rfl
    · exact Or.inr rfl
  stores _ ht := absurd ht List.not_mem_nil
  chars i hi := absurd hi (Nat.not_lt_zero i)

/-- The invariant after characters that all fit. -/
lemma feed_holds (cleaned : Bool) (keys : List ℕ)
    (hfits : ∀ before ch, before ++ [ch] <+: keys → Fits (typed before) ch) :
    HoldsLine (feed (emptyPrompt cleaned) keys) (typed keys) := by
  induction keys using List.reverseRecOn with
  | nil => exact emptyPrompt_holds cleaned
  | append_singleton keys ch ih =>
      rw [feed_append_one, typed_append_one]
      refine input_holds (ih fun before ch' hpre => ?_) (hfits keys ch (List.prefix_refl _))
      exact hfits before ch' (hpre.trans (List.prefix_append _ _))

/-- Characters after which the line is right fit. -/
lemma KeepsLine.fits {cleaned : Bool} {keys : List ℕ} (hkeeps : KeepsLine (emptyPrompt cleaned) keys) :
    ∀ before ch, before ++ [ch] <+: keys → Fits (typed before) ch := by
  induction keys using List.reverseRecOn with
  | nil =>
      intro before ch hpre
      simp at hpre
  | append_singleton keys last ih =>
      have hfits := ih fun before hpre => hkeeps before (hpre.trans (List.prefix_append _ _))
      intro before ch hpre
      rcases List.prefix_concat_iff.1 hpre with heq | hpre
      · obtain ⟨hbefore, hlast⟩ := List.append_inj' heq rfl
        subst hbefore
        obtain rfl := List.singleton_inj.1 hlast
        obtain ⟨hin, hshows⟩ := hkeeps _ (List.prefix_refl _)
        rw [feed_append_one] at hin hshows
        rw [typed_append_one] at hshows
        exact fits_of_keeps (feed_holds cleaned before hfits) hin hshows
      · exact hfits before ch hpre

/-- **Command line editing, exactly**: the stores stay in `prompt[]`, the position below its size, and Enter
shows what was typed, if and only if every character comes to a line with room and every Tab to a full one. -/
theorem input_keeps_iff (cleaned : Bool) (keys : List ℕ) :
    KeepsLine (emptyPrompt cleaned) keys ↔
      ∀ before ch, before ++ [ch] <+: keys → Fits (typed before) ch := by
  refine ⟨fun hkeeps => hkeeps.fits, fun hfits before hpre => ?_⟩
  have hholds := feed_holds cleaned before fun b ch hb => hfits b ch (hb.trans hpre)
  exact ⟨hholds.inPrompt, hholds.shows⟩

lemma typed_letters (n : ℕ) (h : n < PROMPT_MAX_DEFAULT) :
    typed (List.replicate n 97) = List.replicate n (97 : UInt8) := by
  induction n with
  | zero => rfl
  | succ n ih =>
      rw [List.replicate_succ', typed_append_one, ih (by omega), List.replicate_succ', typeKey]
      have hchar : UInt8.ofNat 97 = 97 := rfl
      rw [hchar, if_neg (by decide), if_neg (by decide), List.length_replicate, if_pos h]
      rfl

/-- A Tab is not in the line that Enter shows, and the 1024th letter takes the position out of the buffer. -/
theorem input_fails : ¬KeepsLine (emptyPrompt false) [VK_TAB.toNat] ∧
    ¬KeepsLine (emptyPrompt false) (List.replicate 1024 97) := by
  constructor
  · intro h
    have hfits := h.fits [] VK_TAB.toNat (List.prefix_refl _) (by decide) (by decide)
    exact hfits.1 (by decide) (by decide)
  · intro h
    have hfits := h.fits (List.replicate 1023 97) 97
      (by rw [← List.replicate_succ']) (by decide) (by decide)
    rw [typed_letters 1023 (by decide), List.length_replicate] at hfits
    exact absurd (hfits.2 (by decide)) (by decide)

end Gramado.Libc
