import Gramado.Lib.Memory

/-!
# The prompt buffer

`kinput` of `core/clibs/kstdio.c` edits `prompt[]` one key code at a time.  The three arrays are
memories that record the ranges that were stored to, so a store behind an array is seen.

`typed` says what the keys leave on the line: a character goes to its end, Backspace takes the last
one away, Enter ends the line or, with multiple lines, goes into the text as `\r\n`.

* `kinput_keeps_iff` — the position and the stores stay in bounds, and the buffer holds the typed
  text, exactly while that text is shorter than the buffer.
-/

namespace Gramado.Prompt

def PROMPT_SIZE : ℕ := 1024
def PROMPT_MAX_DEFAULT : ℕ := 1024
def VK_RETURN : UInt8 := 0x1C
/-- The key code of the second case of the switch. -/
def VK_BACK : UInt8 := 0x0E

/-- `g_inputmode`. -/
inductive InputMode
  | line
  | multipleLines
  deriving DecidableEq

structure PromptState where
  prompt : Memory UInt8
  prompt_out : Memory UInt8
  prompt_err : Memory UInt8
  prompt_pos : ℕ

namespace PromptState

/-- `prompt[prompt_pos] = c`. -/
def put (s : PromptState) (c : UInt8) : PromptState :=
  { s with prompt := s.prompt.store s.prompt_pos [c] }

def advance (s : PromptState) : PromptState := { s with prompt_pos := s.prompt_pos + 1 }

/-- The body of the loop that clears the three arrays. -/
def clearAt (s : PromptState) (i : ℕ) : PromptState :=
  { s with
    prompt := s.prompt.store i [0]
    prompt_out := s.prompt_out.store i [0]
    prompt_err := s.prompt_err.store i [0] }

def clear (s : PromptState) : PromptState :=
  (List.range PROMPT_MAX_DEFAULT).foldl clearAt s

end PromptState

/-- `kinput`; the returned value is the first component. -/
def kinput (g_inputmode : InputMode) (ch : ℕ) (s : PromptState) : UInt8 × PromptState :=
  let c := UInt8.ofNat ch
  if g_inputmode = .line ∧ PROMPT_SIZE ≤ s.prompt_pos then (0, s)
  else if g_inputmode = .multipleLines ∧ PROMPT_SIZE ≤ s.prompt_pos then (0, s)
  else if c = VK_RETURN then
    match g_inputmode with
    | .line => (VK_RETURN, { (s.put 0).clear with prompt_pos := 0 })
    | .multipleLines => (0, ((s.put '\r'.toUInt8).advance.put '\n'.toUInt8).advance)
  else if c = VK_BACK then
    if s.prompt_pos = 0 then (0, { s with prompt_pos := 0 }.put 0)
    else (0, { s with prompt_pos := s.prompt_pos - 1 }.put 0)
  else (0, (s.put c).advance)

/-- The keys, one after the other. -/
def feed (g_inputmode : InputMode) (s : PromptState) (keys : List ℕ) : PromptState :=
  keys.foldl (fun s ch => (kinput g_inputmode ch s).2) s

/-- The prompt after initialization. -/
def start : PromptState where
  prompt := ⟨fun _ => 0, []⟩
  prompt_out := ⟨fun _ => 0, []⟩
  prompt_err := ⟨fun _ => 0, []⟩
  prompt_pos := 0

/-! ## What is typed -/

/-- The text after one more key. -/
def typeKey (g_inputmode : InputMode) (text : List UInt8) (ch : ℕ) : List UInt8 :=
  if UInt8.ofNat ch = VK_RETURN then
    match g_inputmode with
    | .line => []
    | .multipleLines => text ++ ['\r'.toUInt8, '\n'.toUInt8]
  else if UInt8.ofNat ch = VK_BACK then text.dropLast
  else text ++ [UInt8.ofNat ch]

/-- The text that the keys leave. -/
def typed (g_inputmode : InputMode) (keys : List ℕ) : List UInt8 :=
  keys.foldl (typeKey g_inputmode) []

/-- The position and all stores so far are in bounds. -/
structure InBounds (s : PromptState) : Prop where
  position : s.prompt_pos < PROMPT_SIZE
  prompt : s.prompt.UsedWithin 0 PROMPT_SIZE
  prompt_out : s.prompt_out.UsedWithin 0 PROMPT_SIZE
  prompt_err : s.prompt_err.UsedWithin 0 PROMPT_SIZE

/-- The buffer holds the text, and zeros behind it. -/
def Shows (s : PromptState) (text : List UInt8) : Prop :=
  ∀ i : ℕ, i < PROMPT_SIZE → s.prompt.cell i = text.getD i 0

/-- The invariant: the prompt is in bounds and is the text. -/
structure Holds (s : PromptState) (text : List UInt8) : Prop where
  bounds : InBounds s
  position : s.prompt_pos = text.length
  shows : Shows s text

/-- After every key the prompt is in bounds, and a single line shows what was typed. -/
def KeepsPrompt (g_inputmode : InputMode) (keys : List ℕ) : Prop :=
  ∀ before, before <+: keys →
    InBounds (feed g_inputmode start before) ∧
      (g_inputmode = .line → Shows (feed g_inputmode start before) (typed g_inputmode before))

/-! ## One store -/

variable {s : PromptState} {text : List UInt8} {c : UInt8} {ch : ℕ} {mode : InputMode}

lemma getD_append_one (text : List UInt8) (i : ℕ) :
    (text ++ [c]).getD i 0 = if i = text.length then c else text.getD i 0 := by
  rcases Nat.lt_trichotomy i text.length with h | h | h
  · rw [if_neg (by omega), List.getD_append _ _ _ _ h]
  · rw [if_pos h, h, List.getD_append_right _ _ _ _ le_rfl, Nat.sub_self, List.getD_cons_zero]
  · have hend : (text ++ [c]).length ≤ i := by
      rw [List.length_append, List.length_singleton]
      omega
    rw [if_neg h.ne', List.getD_eq_default _ _ hend, List.getD_eq_default _ _ h.le]

lemma getD_dropLast (text : List UInt8) (i : ℕ) :
    text.dropLast.getD i 0 = if i = text.length - 1 then 0 else text.getD i 0 := by
  rcases Nat.lt_or_ge i (text.length - 1) with h | h
  · rw [if_neg (by omega), List.getD_eq_getElem _ _ (by simpa using h),
      List.getD_eq_getElem _ _ (by omega), List.getElem_dropLast]
  · rw [List.getD_eq_default _ _ (by simpa using h)]
    by_cases heq : i = text.length - 1
    · rw [if_pos heq]
    · rw [if_neg heq, List.getD_eq_default _ _ (by omega)]

lemma InBounds.put (h : InBounds s) : InBounds (s.put c) where
  position := h.position
  prompt := by
    refine h.prompt.store (by omega) ?_
    have hpos := h.position
    simp only [List.length_singleton]
    omega
  prompt_out := h.prompt_out
  prompt_err := h.prompt_err

/-- The clearing loop stays in the arrays. -/
lemma inBounds_clear (h : InBounds s) : InBounds s.clear := by
  have hloop : ∀ is : List ℕ, (∀ i ∈ is, i < PROMPT_SIZE) → ∀ s, InBounds s →
      InBounds (is.foldl PromptState.clearAt s) := by
    intro is
    induction is with
    | nil => exact fun _ s h => h
    | cons i is ih =>
        intro his s h
        have hi := his i List.mem_cons_self
        refine ih (fun j hj => his j (List.mem_cons_of_mem i hj)) _ ⟨h.position, ?_, ?_, ?_⟩
        · exact h.prompt.store (by omega) (by simp only [List.length_singleton]; omega)
        · exact h.prompt_out.store (by omega) (by simp only [List.length_singleton]; omega)
        · exact h.prompt_err.store (by omega) (by simp only [List.length_singleton]; omega)
  exact hloop _ (fun i hi => List.mem_range.1 hi) s h

/-- The clearing loop leaves zeros. -/
lemma clear_cell (s : PromptState) (i : ℕ) (hi : i < PROMPT_SIZE) :
    s.clear.prompt.cell i = 0 := by
  have hloop : ∀ (is : List ℕ) (s : PromptState), (i ∈ is ∨ s.prompt.cell i = 0) →
      (is.foldl PromptState.clearAt s).prompt.cell i = 0 := by
    intro is
    induction is with
    | nil => exact fun s h => h.resolve_left List.not_mem_nil
    | cons j is ih =>
        intro s h
        have hcell : (s.clearAt j).prompt.cell i = if (i : ℤ) = j then 0 else s.prompt.cell i :=
          Memory.store_single_cell _ _ _ _
        apply ih (s.clearAt j)
        rw [hcell]
        rcases h with h | h
        · rcases List.mem_cons.1 h with rfl | h
          · exact .inr (if_pos rfl)
          · exact .inl h
        · exact .inr (by rw [h, ite_self])
  rw [PromptState.clear]
  exact hloop _ s (.inl (List.mem_range.2 hi))

/-! ## One key -/

/-- A character goes to the end of the text. -/
lemma Holds.push (h : Holds s text) (hroom : text.length + 1 < PROMPT_SIZE) :
    Holds (s.put c).advance (text ++ [c]) where
  bounds := by
    have hput : InBounds (s.put c) := h.bounds.put
    exact ⟨by rw [← h.position] at hroom; exact hroom, hput.prompt, hput.prompt_out,
      hput.prompt_err⟩
  position := by
    rw [List.length_append, List.length_singleton, ← h.position]
    rfl
  shows i hi := by
    have hcell : (s.put c).advance.prompt.cell i
        = if (i : ℤ) = s.prompt_pos then c else s.prompt.cell i := Memory.store_single_cell _ _ _ _
    rw [hcell, getD_append_one, ← h.position, h.shows i hi]
    simp only [Nat.cast_inj]

/-- Backspace takes the last character away, if there is one. -/
lemma Holds.pop (h : Holds s text) :
    Holds ({ s with prompt_pos := s.prompt_pos - 1 }.put 0) text.dropLast where
  bounds := by
    have hpos := h.bounds.position
    have hback : InBounds { s with prompt_pos := s.prompt_pos - 1 } :=
      ⟨show s.prompt_pos - 1 < PROMPT_SIZE by omega, h.bounds.prompt, h.bounds.prompt_out,
        h.bounds.prompt_err⟩
    exact hback.put
  position := by
    rw [List.length_dropLast, ← h.position]
    rfl
  shows i hi := by
    have hcell : ({ s with prompt_pos := s.prompt_pos - 1 }.put 0).prompt.cell i
        = if (i : ℤ) = (s.prompt_pos - 1 : ℕ) then 0 else s.prompt.cell i :=
      Memory.store_single_cell _ _ _ _
    rw [hcell, getD_dropLast, ← h.position, h.shows i hi]
    simp only [Nat.cast_inj]

/-- An empty prompt is the empty text. -/
lemma holds_empty (h : InBounds s) (hzero : ∀ i : ℕ, i < PROMPT_SIZE → s.prompt.cell i = 0) :
    Holds { s with prompt_pos := 0 } [] where
  bounds :=
    have hpos : 0 < PROMPT_SIZE := by decide
    ⟨hpos, h.prompt, h.prompt_out, h.prompt_err⟩
  position := rfl
  shows i hi := by
    rw [List.getD_nil]
    exact hzero i hi

/-- Enter ends a single line. -/
lemma Holds.finish (h : Holds s text) : Holds { (s.put 0).clear with prompt_pos := 0 } [] :=
  holds_empty (inBounds_clear h.bounds.put) (clear_cell _)

/-- What a key does where there is room. -/
lemma kinput_of_room (h : s.prompt_pos < PROMPT_SIZE) :
    (kinput mode ch s).2 =
      if UInt8.ofNat ch = VK_RETURN then
        match mode with
        | .line => { (s.put 0).clear with prompt_pos := 0 }
        | .multipleLines => ((s.put '\r'.toUInt8).advance.put '\n'.toUInt8).advance
      else if UInt8.ofNat ch = VK_BACK then { s with prompt_pos := s.prompt_pos - 1 }.put 0
      else (s.put (UInt8.ofNat ch)).advance := by
  have hroom : ¬ PROMPT_SIZE ≤ s.prompt_pos := by omega
  simp only [kinput, hroom, and_false, if_false]
  by_cases hreturn : UInt8.ofNat ch = VK_RETURN
  · rw [if_pos hreturn, if_pos hreturn]
    cases mode <;> rfl
  · rw [if_neg hreturn, if_neg hreturn]
    by_cases hback : UInt8.ofNat ch = VK_BACK
    · rw [if_pos hback, if_pos hback]
      by_cases hzero : s.prompt_pos = 0
      · rw [if_pos hzero, hzero]
      · rw [if_neg hzero]
    · rw [if_neg hback, if_neg hback]

/-- The position follows the text, in bounds or not. -/
lemma kinput_pos (h : Holds s text) :
    (kinput mode ch s).2.prompt_pos = (typeKey mode text ch).length := by
  rw [kinput_of_room h.bounds.position]
  unfold typeKey
  by_cases hreturn : UInt8.ofNat ch = VK_RETURN
  · rw [if_pos hreturn, if_pos hreturn]
    cases mode with
    | line => rfl
    | multipleLines =>
        rw [List.length_append, ← h.position]
        rfl
  · rw [if_neg hreturn, if_neg hreturn]
    by_cases hback : UInt8.ofNat ch = VK_BACK
    · rw [if_pos hback, if_pos hback]
      exact h.pop.position
    · rw [if_neg hback, if_neg hback, List.length_append, ← h.position]
      rfl

/-- A key keeps the invariant while the text is shorter than the buffer. -/
lemma kinput_holds (h : Holds s text) (hroom : (typeKey mode text ch).length < PROMPT_SIZE) :
    Holds (kinput mode ch s).2 (typeKey mode text ch) := by
  rw [kinput_of_room h.bounds.position]
  unfold typeKey at hroom ⊢
  by_cases hreturn : UInt8.ofNat ch = VK_RETURN
  · rw [if_pos hreturn] at hroom ⊢
    rw [if_pos hreturn]
    cases mode with
    | line => exact h.finish
    | multipleLines =>
        have hlength : text.length + 2 < PROMPT_SIZE := by
          rwa [List.length_append] at hroom
        have hfirst := h.push (c := '\r'.toUInt8) (by omega)
        have hsecond := hfirst.push (c := '\n'.toUInt8)
          (by rw [List.length_append, List.length_singleton]; omega)
        rwa [List.append_assoc] at hsecond
  · rw [if_neg hreturn] at hroom ⊢
    rw [if_neg hreturn]
    by_cases hback : UInt8.ofNat ch = VK_BACK
    · rw [if_pos hback, if_pos hback]
      exact h.pop
    · rw [if_neg hback] at hroom ⊢
      rw [if_neg hback]
      rw [List.length_append, List.length_singleton] at hroom
      exact h.push hroom

/-! ## Every key sequence -/

lemma feed_append_one (mode : InputMode) (s : PromptState) (keys : List ℕ) (ch : ℕ) :
    feed mode s (keys ++ [ch]) = (kinput mode ch (feed mode s keys)).2 := by
  rw [feed, List.foldl_append]
  rfl

lemma typed_append_one (mode : InputMode) (keys : List ℕ) (ch : ℕ) :
    typed mode (keys ++ [ch]) = typeKey mode (typed mode keys) ch := by
  rw [typed, List.foldl_append]
  rfl

lemma start_holds : Holds start [] :=
  have hnone : ∀ t ∈ start.prompt.touched, (0 : ℤ) ≤ t.1 ∧ t.1 + t.2 ≤ PROMPT_SIZE :=
    fun _ ht => absurd ht List.not_mem_nil
  holds_empty ⟨by decide, hnone, hnone, hnone⟩ fun _ _ => rfl

/-- The invariant after keys whose text always was shorter than the buffer. -/
lemma feed_holds (keys : List ℕ)
    (hroom : ∀ before, before <+: keys → (typed mode before).length < PROMPT_SIZE) :
    Holds (feed mode start keys) (typed mode keys) := by
  induction keys using List.reverseRecOn with
  | nil => exact start_holds
  | append_singleton keys ch ih =>
      have hkeys := ih fun before hbefore => hroom before (hbefore.trans (List.prefix_append ..))
      have hlast := hroom (keys ++ [ch]) (List.prefix_refl _)
      rw [typed_append_one] at hlast
      rw [feed_append_one, typed_append_one]
      exact kinput_holds hkeys hlast

/-- The invariant after keys that always left the prompt in bounds. -/
lemma holds_of_inBounds (keys : List ℕ)
    (hbounds : ∀ before, before <+: keys → InBounds (feed mode start before)) :
    Holds (feed mode start keys) (typed mode keys) := by
  induction keys using List.reverseRecOn with
  | nil => exact start_holds
  | append_singleton keys ch ih =>
      have hkeys := ih fun before hbefore => hbounds before (hbefore.trans (List.prefix_append ..))
      have hlast := (hbounds (keys ++ [ch]) (List.prefix_refl _)).position
      rw [feed_append_one, kinput_pos hkeys] at hlast
      rw [feed_append_one, typed_append_one]
      exact kinput_holds hkeys hlast

/-- **The prompt**: after every key the position and the stores are in bounds, and a single line is
the typed text, if and only if the text never fills the buffer. -/
theorem kinput_keeps_iff (g_inputmode : InputMode) (keys : List ℕ) :
    KeepsPrompt g_inputmode keys ↔
      ∀ before, before <+: keys → (typed g_inputmode before).length < PROMPT_SIZE := by
  constructor
  · intro hkeeps before hbefore
    have hholds := holds_of_inBounds before fun first hfirst =>
      (hkeeps first (hfirst.trans hbefore)).1
    rw [← hholds.position]
    exact hholds.bounds.position
  · intro hroom before hbefore
    have hholds := feed_holds before fun first hfirst => hroom first (hfirst.trans hbefore)
    exact ⟨hholds.bounds, fun _ => hholds.shows⟩

lemma typed_replicate (mode : InputMode) (n : ℕ) (hreturn : UInt8.ofNat ch ≠ VK_RETURN)
    (hback : UInt8.ofNat ch ≠ VK_BACK) :
    typed mode (List.replicate n ch) = List.replicate n (UInt8.ofNat ch) := by
  induction n with
  | zero => rfl
  | succ n ih =>
      rw [List.replicate_succ', typed_append_one, ih, List.replicate_succ']
      unfold typeKey
      rw [if_neg hreturn, if_neg hback]

/-- Enter behind 1023 characters stores its line feed behind the buffer. -/
theorem kinput_keeps_fails :
    ¬ KeepsPrompt .multipleLines (List.replicate 1023 97 ++ [0x1C]) := by
  intro hkeeps
  have hfirst : Holds (feed .multipleLines start (List.replicate 1023 97))
      (typed .multipleLines (List.replicate 1023 97)) :=
    holds_of_inBounds _ fun before hbefore => (hkeeps before (hbefore.trans (List.prefix_append ..))).1
  have hlast := (hkeeps _ (List.prefix_refl _)).1.position
  rw [feed_append_one, kinput_pos hfirst, typed_replicate _ _ (by decide) (by decide)] at hlast
  unfold typeKey at hlast
  rw [if_pos (by decide), List.length_append, List.length_replicate] at hlast
  exact absurd hlast (by decide)

end Gramado.Prompt
