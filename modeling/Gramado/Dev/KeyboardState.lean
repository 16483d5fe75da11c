import Gramado.Dev.Keyboard
import Mathlib.Data.Finset.Insert

/-!
# The state of the keyboard

The keys that are held, as the bytes of the keyboard tell them: a key is a code with the prefix before it, and it is
held from its make code to its break code.  After each byte the kernel should know which modifiers are held, and how
often each lock was pressed; and a plain key that is pressed without alt should feed its character.

* `keyboard_iff` — for which streams of bytes it does.
-/

namespace Gramado.Keyboard

open StepRun

/-! ## What should hold -/

/-- A key: the prefix and the code. -/
abbrev Key := UInt8 × UInt8

/-- The keyboard: the prefix that waits for its code, the keys that are held, and the locks. -/
structure Keys where
  pending : UInt8
  held : Finset Key
  capslock : Bool
  numlock : Bool
  scrolllock : Bool

/-- Nothing is held. -/
def Keys.idle : Keys := ⟨0, ∅, false, false, false⟩

/-- The shift keys. -/
def shiftKeys : Finset Key := {(0, 0x2A), (0, 0x36)}

/-- The control keys. -/
def controlKeys : Finset Key := {(0, 0x1D), (0xE0, 0x1D)}

/-- One of the keys is held. -/
def Keys.Holds (g : Keys) (keys : Finset Key) : Prop := ∃ key ∈ keys, key ∈ g.held

instance (g : Keys) (keys : Finset Key) : Decidable (g.Holds keys) :=
  inferInstanceAs (Decidable (∃ key ∈ keys, key ∈ g.held))

/-- An alt key is held. -/
def Keys.Alt (g : Keys) : Prop := ∃ key ∈ g.held, key.2 = 0x38

instance (g : Keys) : Decidable g.Alt := inferInstanceAs (Decidable (∃ key ∈ g.held, key.2 = 0x38))

/-- A lock is flipped by a press of its key, but not by a repeat. -/
def flipped (lock key : Key) (g : Keys) (b : Bool) : Bool := if key = lock ∧ key ∉ g.held then !b else b

/-- A complete code. -/
def Keys.code (g : Keys) (raw : UInt8) : Keys :=
  let key := (g.pending, raw &&& 0x7F)
  if raw &&& 0x80 ≠ 0 then
    { g with
      pending := 0
      held := g.held.erase key }
  else
    { pending := 0
      held := insert key g.held
      capslock := flipped (0, 0x3A) key g g.capslock
      numlock := flipped (0, 0x45) key g g.numlock
      scrolllock := flipped (0, 0x46) key g g.scrolllock }

/-- A byte: an answer of the controller, a prefix, or the last byte of a code. -/
def Keys.byte (g : Keys) (raw : UInt8) : Keys :=
  if isAnswer raw then g
  else if isPrefix raw then { g with pending := raw }
  else g.code raw

variable {κ : Type}

/-- The kernel together with the keyboard. -/
abbrev Joint (κ : Type) := Kernel κ × Keys

/-- A byte goes from the keyboard to the kernel. -/
def jointByte (R : Rest κ) (s : Joint κ) (raw : UInt8) : Except String (Joint κ) := do
  let k ← keyboardByte R s.1 raw
  return (k, s.2.byte raw)

/-- **The kernel knows the keyboard.** -/
structure Agrees (s : Joint κ) : Prop where
  prefixByte : s.1.prefixByte = s.2.pending
  shift : s.1.mods.shift = true ↔ s.2.Holds shiftKeys
  ctrl : s.1.mods.ctrl = true ↔ s.2.Holds controlKeys
  capslock : s.1.mods.capslock = s.2.capslock
  numlock : s.1.mods.numlock = s.2.numlock
  scrolllock : s.1.mods.scrolllock = s.2.scrolllock

/-- A byte that is the press of a plain key, with no alt key held: it is neither a modifier nor a lock nor a
function key, and it has no prefix. -/
structure PlainPress (g : Keys) (raw : UInt8) : Prop where
  complete : ¬isAnswer raw ∧ ¬isPrefix raw
  make : raw &&& 0x80 = 0
  unprefixed : g.pending = 0
  plain : labelOf (raw &&& 0x7F) = .other ∨ labelOf (raw &&& 0x7F) = .menu
  alt : ¬g.Alt

/-- The character of a key, as the modifiers and the locks choose it. -/
def Keys.char (g : Keys) (code : UInt8) : UInt8 :=
  if g.Holds controlKeys then charOf ctlAbnt2 code
  else if g.capslock ∨ g.Holds shiftKeys then charOf shiftAbnt2 code
  else charOf mapAbnt2 code

/-- **The characters**: where the standard input is the target, the press of a plain key feeds its character if it
has one; nothing else is fed but with an alt key. -/
structure Feeds (R : Rest κ) (s : Joint κ) (raw : UInt8) (s' : Joint κ) : Prop where
  plain : PlainPress s.2 raw → s.1.Typing R → s.2.char (raw &&& 0x7F) ≠ 0 →
    s'.1.fed = s.1.fed ++ [s.2.char (raw &&& 0x7F)]
  null : PlainPress s.2 raw → s.2.char (raw &&& 0x7F) = 0 → s'.1.fed = s.1.fed
  other : ¬PlainPress s.2 raw → ¬s.2.Alt → s'.1.fed = s.1.fed

/-- **The keys that the kernel can follow**, by their kinds. -/
structure Followed (g : Keys) (raw : UInt8) : Prop where
  /-- A shift code is that of a shift key, or one is held; it does not release one while the other is held. -/
  shift : labelOf (raw &&& 0x7F) = .shift → if raw &&& 0x80 = 0 then
    (g.pending, raw &&& 0x7F) ∈ shiftKeys ∨ g.Holds shiftKeys
    else ∀ key ∈ shiftKeys, key ≠ (g.pending, raw &&& 0x7F) → key ∉ g.held
  /-- The same for the control keys. -/
  control : labelOf (raw &&& 0x7F) = .control → if raw &&& 0x80 = 0 then
    (g.pending, raw &&& 0x7F) ∈ controlKeys ∨ g.Holds controlKeys
    else ∀ key ∈ controlKeys, key ≠ (g.pending, raw &&& 0x7F) → key ∉ g.held
  /-- A lock key that is pressed has no prefix and is not held yet. -/
  lock : labelOf (raw &&& 0x7F) = .capital ∨ labelOf (raw &&& 0x7F) = .numlock ∨ labelOf (raw &&& 0x7F) = .scroll →
    raw &&& 0x80 = 0 → g.pending = 0 ∧ (g.pending, raw &&& 0x7F) ∉ g.held

/-- The condition on a byte. -/
def Follows (s : Joint κ) (raw : UInt8) : Prop := ¬isAnswer raw → ¬isPrefix raw → Followed s.2 raw

section

variable {R : Rest κ} {s s' : Joint κ} {g : Keys} {raw code : UInt8} {m : Modifiers} {keys : Finset Key} {b b' : Bool}
  {L : Label}

/-! ## The modifiers -/

lemma labelOf_shiftKeys : ∀ key ∈ shiftKeys, labelOf key.2 = .shift := by
  intro key hkey
  rcases Finset.mem_insert.1 hkey with rfl | hkey
  · rfl
  · rw [Finset.mem_singleton.1 hkey]
    rfl

lemma labelOf_controlKeys : ∀ key ∈ controlKeys, labelOf key.2 = .control := by
  intro key hkey
  rcases Finset.mem_insert.1 hkey with rfl | hkey
  · rfl
  · rw [Finset.mem_singleton.1 hkey]
    rfl

/-- The labels of the locks have one code each. -/
lemma labelOf_lock : (labelOf code = .capital ↔ code = 0x3A) ∧ (labelOf code = .numlock ↔ code = 0x45) ∧
    (labelOf code = .scroll ↔ code = 0x46) := by
  refine ⟨⟨fun h => ?_, fun h => h ▸ rfl⟩, ⟨fun h => ?_, fun h => h ▸ rfl⟩, ⟨fun h => ?_, fun h => h ▸ rfl⟩⟩
  all_goals
    rw [labelOf] at h
    repeat' split at h
    all_goals first | assumption | cases h

/-- **A modifier** after a code. -/
lemma modifier_iff (hbefore : b = true ↔ g.Holds keys) (hkeys : ∀ key ∈ keys, labelOf key.2 = L)
    (hafter : b' = if labelOf (raw &&& 0x7F) = L then decide (raw &&& 0x80 = 0) else b) :
    ((b' = true ↔ (g.code raw).Holds keys) ↔
      (labelOf (raw &&& 0x7F) = L → if raw &&& 0x80 = 0 then
        (g.pending, raw &&& 0x7F) ∈ keys ∨ g.Holds keys
        else ∀ key ∈ keys, key ≠ (g.pending, raw &&& 0x7F) → key ∉ g.held)) := by
  have hmem : labelOf (raw &&& 0x7F) ≠ L → (g.pending, raw &&& 0x7F) ∉ keys := fun hne hmem => hne (hkeys _ hmem)
  rw [hafter, Keys.code]
  by_cases hlabel : labelOf (raw &&& 0x7F) = L
  · rw [if_pos hlabel, forall_prop_of_true hlabel]
    by_cases hmake : raw &&& 0x80 = 0
    · rw [if_neg (not_not.2 hmake), if_pos hmake, decide_eq_true hmake, eq_self_iff_true, true_iff]
      simp only [Keys.Holds, Finset.mem_insert]
      constructor
      · rintro ⟨key, hkey, rfl | hheld⟩
        · exact .inl hkey
        · exact .inr ⟨key, hkey, hheld⟩
      · rintro (hkey | ⟨key, hkey, hheld⟩)
        · exact ⟨_, hkey, .inl rfl⟩
        · exact ⟨key, hkey, .inr hheld⟩
    · rw [if_pos hmake, if_neg hmake, decide_eq_false hmake]
      simp [Keys.Holds, Finset.mem_erase]
  · rw [if_neg hlabel, hbefore]
    refine iff_of_true ?_ fun h => absurd h hlabel
    split
    · simp only [Keys.Holds, Finset.mem_erase]
      refine exists_congr fun key => and_congr_right fun hkey => (and_iff_right ?_).symm
      rintro rfl
      exact hmem hlabel hkey
    · simp only [Keys.Holds, Finset.mem_insert]
      refine exists_congr fun key => and_congr_right fun hkey => (or_iff_right ?_).symm
      rintro rfl
      exact hmem hlabel hkey

/-- **A lock** after a code. -/
lemma lock_iff {c : UInt8} (hL : labelOf (raw &&& 0x7F) = L ↔ raw &&& 0x7F = c)
    (hafter : b' = if raw &&& 0x80 = 0 ∧ labelOf (raw &&& 0x7F) = L then !b else b) :
    (b' = (if raw &&& 0x80 ≠ 0 then b else flipped (0, c) (g.pending, raw &&& 0x7F) g b)) ↔
      (labelOf (raw &&& 0x7F) = L → raw &&& 0x80 = 0 → g.pending = 0 ∧ (g.pending, raw &&& 0x7F) ∉ g.held) := by
  have hkey : (g.pending, raw &&& 0x7F) = (0, c) ↔ g.pending = 0 ∧ labelOf (raw &&& 0x7F) = L := by
    rw [Prod.mk.injEq, hL]
  rw [hafter]
  by_cases hmake : raw &&& 0x80 = 0
  · rw [if_neg (not_not.2 hmake), flipped]
    by_cases hlabel : labelOf (raw &&& 0x7F) = L
    · rw [if_pos ⟨hmake, hlabel⟩]
      by_cases hnew : g.pending = 0 ∧ (g.pending, raw &&& 0x7F) ∉ g.held
      · rw [if_pos ⟨hkey.2 ⟨hnew.1, hlabel⟩, hnew.2⟩]
        exact iff_of_true rfl fun _ _ => hnew
      · rw [if_neg fun h => hnew ⟨(hkey.1 h.1).1, h.2⟩]
        refine iff_of_false (fun h => ?_) fun h => hnew (h hlabel hmake)
        cases b <;> cases h
    · rw [if_neg fun h => hlabel h.2, if_neg fun h => hlabel (hkey.1 h.1).2]
      exact iff_of_true rfl fun h => absurd h hlabel
  · rw [if_neg fun h => hmake h.1, if_pos hmake]
    exact iff_of_true rfl fun _ h => absurd h hmake

/-- What a code does to the modifiers of the kernel. -/
structure Coded (raw : UInt8) (m m' : Modifiers) : Prop where
  shift : m'.shift = if labelOf (raw &&& 0x7F) = .shift then decide (raw &&& 0x80 = 0) else m.shift
  ctrl : m'.ctrl = if labelOf (raw &&& 0x7F) = .control then decide (raw &&& 0x80 = 0) else m.ctrl
  alt : m'.alt = if labelOf (raw &&& 0x7F) = .alt then decide (raw &&& 0x80 = 0) else m.alt
  capslock : m'.capslock = if raw &&& 0x80 = 0 ∧ labelOf (raw &&& 0x7F) = .capital then !m.capslock else m.capslock
  numlock : m'.numlock = if raw &&& 0x80 = 0 ∧ labelOf (raw &&& 0x7F) = .numlock then !m.numlock else m.numlock
  scrolllock : m'.scrolllock =
    if raw &&& 0x80 = 0 ∧ labelOf (raw &&& 0x7F) = .scroll then !m.scrolllock else m.scrolllock

lemma released_coded (h : raw &&& 0x80 ≠ 0) (m : Modifiers) :
    Coded raw m (released (labelOf (raw &&& 0x7F)) m).2 := by
  generalize hlabel : labelOf (raw &&& 0x7F) = label
  constructor
  all_goals simp only [hlabel, h, decide_false, false_and, if_false]
  all_goals cases label <;> rfl

lemma pressed_coded (h : raw &&& 0x80 = 0) (m : Modifiers) :
    Coded raw m (pressed (labelOf (raw &&& 0x7F)) m).2 := by
  generalize hlabel : labelOf (raw &&& 0x7F) = label
  constructor
  all_goals simp only [hlabel, h, decide_true, true_and]
  all_goals cases label <;> rfl

/-! ## One byte -/

/-- Beside the modifiers: an alt that is on is held, and the prefix is one. -/
structure Steady (s : Joint κ) : Prop where
  agrees : Agrees s
  alt : s.1.mods.alt = true → s.2.Alt
  pending : s.2.pending = 0 ∨ isPrefix s.2.pending

lemma code_pending (g : Keys) (raw : UInt8) : (g.code raw).pending = 0 := by
  rw [Keys.code]
  split <;> rfl

/-- The locks after a code. -/
lemma code_locks (g : Keys) (raw : UInt8) :
    (g.code raw).capslock =
      (if raw &&& 0x80 ≠ 0 then g.capslock else flipped (0, 0x3A) (g.pending, raw &&& 0x7F) g g.capslock) ∧
    (g.code raw).numlock =
      (if raw &&& 0x80 ≠ 0 then g.numlock else flipped (0, 0x45) (g.pending, raw &&& 0x7F) g g.numlock) ∧
    (g.code raw).scrolllock =
      (if raw &&& 0x80 ≠ 0 then g.scrolllock else flipped (0, 0x46) (g.pending, raw &&& 0x7F) g g.scrolllock) := by
  rw [Keys.code]
  split <;> exact ⟨rfl, rfl, rfl⟩

/-- **The modifiers after a code** are right exactly for the keys that the kernel can follow. -/
lemma agrees_code (h : Agrees s) (k' : Kernel κ) (hpre : k'.prefixByte = 0) (hcoded : Coded raw s.1.mods k'.mods) :
    Agrees (k', s.2.code raw) ↔ Followed s.2 raw := by
  have hshift := modifier_iff h.shift labelOf_shiftKeys hcoded.shift
  have hcontrol := modifier_iff h.ctrl labelOf_controlKeys hcoded.ctrl
  have hcaps := lock_iff (g := s.2) labelOf_lock.1 hcoded.capslock
  have hnum := lock_iff (g := s.2) labelOf_lock.2.1 hcoded.numlock
  have hscroll := lock_iff (g := s.2) labelOf_lock.2.2 hcoded.scrolllock
  rw [h.capslock] at hcaps
  rw [h.numlock] at hnum
  rw [h.scrolllock] at hscroll
  have hpending := code_pending s.2 raw
  have hlocks := code_locks s.2 raw
  rw [← hlocks.1] at hcaps
  rw [← hlocks.2.1] at hnum
  rw [← hlocks.2.2] at hscroll
  constructor
  · intro hagrees
    exact ⟨hshift.1 hagrees.shift, hcontrol.1 hagrees.ctrl, fun hlabel =>
      hlabel.elim (hcaps.1 hagrees.capslock) fun hlabel =>
        hlabel.elim (hnum.1 hagrees.numlock) (hscroll.1 hagrees.scrolllock)⟩
  · intro hfollowed
    exact ⟨hpre.trans hpending.symm, hshift.2 hfollowed.shift, hcontrol.2 hfollowed.control,
      hcaps.2 fun hlabel => hfollowed.lock (.inl hlabel), hnum.2 fun hlabel => hfollowed.lock (.inr (.inl hlabel)),
      hscroll.2 fun hlabel => hfollowed.lock (.inr (.inr hlabel))⟩

lemma labelOf_alt : labelOf code = .alt ↔ code = 0x38 := by
  refine ⟨fun h => ?_, fun h => h ▸ rfl⟩
  rw [labelOf] at h
  repeat' split at h
  all_goals first | assumption | cases h

/-- **Alt after a code**: the kernel has it on only while an alt key is held. -/
lemma alt_code {m' : Modifiers} (h : m.alt = true → g.Alt) (hcoded : Coded raw m m') :
    m'.alt = true → (g.code raw).Alt := by
  intro halt
  rw [hcoded.alt] at halt
  rw [Keys.code]
  by_cases hlabel : labelOf (raw &&& 0x7F) = .alt
  · rw [if_pos hlabel] at halt
    have hmake := of_decide_eq_true halt
    rw [if_neg (not_not.2 hmake)]
    exact ⟨_, Finset.mem_insert_self _ _, labelOf_alt.1 hlabel⟩
  · rw [if_neg hlabel] at halt
    obtain ⟨key, hheld, hcode⟩ := h halt
    split
    · refine ⟨key, Finset.mem_erase.2 ⟨?_, hheld⟩, hcode⟩
      rintro rfl
      exact hlabel (labelOf_alt.2 hcode)
    · exact ⟨key, Finset.mem_insert_of_mem hheld, hcode⟩

/-- The character that the kernel chooses. -/
lemma pressedChar_eq (h : Agrees s) (code : UInt8) :
    pressedChar MSG_KEYDOWN code s.1.mods = s.2.char code := by
  have hctrl : s.1.mods.ctrl = decide (s.2.Holds controlKeys) := by
    rw [Bool.eq_iff_iff, decide_eq_true_iff, h.ctrl]
  have hshift : s.1.mods.shift = decide (s.2.Holds shiftKeys) := by
    rw [Bool.eq_iff_iff, decide_eq_true_iff, h.shift]
  rw [pressedChar, if_neg (by decide), Keys.char, hctrl, hshift, h.capslock]
  by_cases hcontrol : s.2.Holds controlKeys
  · simp [hcontrol]
  · by_cases hshifted : s.2.Holds shiftKeys
    · simp [hcontrol, hshifted]
    · cases s.2.capslock <;> simp [hcontrol, hshifted]

/-- **The characters of a code.** -/
lemma feeds_code {k' : Kernel κ} (h : Steady s) (hraw : ¬isAnswer raw) (hcode : ¬isPrefix raw)
    (hk : wmRawKeyEvent R raw s.1.prefixByte s.1 = .ok k') (g' : Keys) : Feeds R s raw ({ k' with prefixByte := 0 }, g') := by
  obtain ⟨-, hevent⟩ := rawKeyEvent_ok hk fun hff => hraw (.inr (.inr (.inr hff)))
  by_cases hbreak : raw &&& BREAK_MASK ≠ 0
  · rw [if_pos hbreak] at hevent
    exact ⟨fun hplain => absurd hplain.make hbreak, fun _ _ => hevent.2, fun _ _ => hevent.2⟩
  rw [if_neg hbreak] at hevent
  obtain ⟨-, hfed⟩ := hevent
  have hpressed : PlainPress s.2 raw →
      pressed (labelOf (raw &&& KEYBOARD_KEY_MASK)) s.1.mods = (MSG_KEYDOWN, s.1.mods) := by
    intro hplain
    rcases hplain.plain with hlabel | hlabel
    all_goals
      rw [KEYBOARD_KEY_MASK, hlabel]
      rfl
  constructor
  · intro hplain htyping hchar
    have halt : s.1.mods.alt = false := Bool.eq_false_iff.2 fun hon => hplain.alt (h.alt hon)
    rw [hpressed hplain] at hfed
    refine hfed.trans ?_
    rw [pressedChar_eq h.agrees, typed, h.agrees.prefixByte, hplain.unprefixed]
    exact congrArg _ (if_pos ⟨hchar, by decide, rfl, halt, htyping⟩)
  · intro hplain hchar
    rw [hpressed hplain] at hfed
    refine hfed.trans ?_
    rw [pressedChar_eq h.agrees, typed]
    rw [if_neg fun hall => hall.1 hchar, List.append_nil]
  · intro hplain halt
    refine hfed.trans ?_
    rw [typed, if_neg ?_, List.append_nil]
    rintro ⟨-, hpre, hmsg, -⟩
    refine hplain ⟨⟨hraw, hcode⟩, not_not.1 hbreak, ?_, ?_, halt⟩
    · rw [h.agrees.prefixByte] at hpre
      exact h.pending.resolve_right hpre
    · generalize hlabel : labelOf (raw &&& KEYBOARD_KEY_MASK) = label at hmsg
      rw [KEYBOARD_KEY_MASK] at hlabel
      rw [hlabel]
      cases label with
      | other => exact .inl rfl
      | menu => exact .inr rfl
      | _ => cases hmsg

/-- **One byte.** -/
lemma jointByte_step (h : Steady s) (hs : jointByte R s raw = .ok s') :
    (Agrees s' ∧ Feeds R s raw s' ↔ Follows s raw) ∧ (Agrees s' → Steady s') := by
  obtain ⟨k', hk', hret⟩ := bind_eq_ok hs
  obtain rfl := Except.ok.inj hret
  rw [keyboardByte] at hk'
  by_cases hraw : isAnswer raw
  · rw [if_pos hraw] at hk'
    obtain rfl := Except.ok.inj hk'
    have hsame : s.2.byte raw = s.2 := if_pos hraw
    rw [hsame]
    refine ⟨iff_of_true ⟨h.agrees, ?_⟩ fun hno => absurd hraw hno, fun _ => h⟩
    exact ⟨fun hplain => absurd hraw hplain.complete.1, fun _ _ => rfl, fun _ _ => rfl⟩
  by_cases hprefix : isPrefix raw
  · rw [if_neg hraw, if_pos hprefix] at hk'
    obtain rfl := Except.ok.inj hk'
    have hbyte : s.2.byte raw = { s.2 with pending := raw } := (if_neg hraw).trans (if_pos hprefix)
    rw [hbyte]
    have hagrees : Agrees (⟨{ s.1 with prefixByte := raw }, { s.2 with pending := raw }⟩ : Joint κ) :=
      ⟨rfl, h.agrees.shift, h.agrees.ctrl, h.agrees.capslock, h.agrees.numlock, h.agrees.scrolllock⟩
    refine ⟨iff_of_true ⟨hagrees, ?_⟩ fun _ hno => absurd hprefix hno, fun _ => ⟨hagrees, h.alt, .inr hprefix⟩⟩
    exact ⟨fun hplain => absurd hprefix hplain.complete.2, fun _ _ => rfl, fun _ _ => rfl⟩
  rw [if_neg hraw, if_neg hprefix] at hk'
  obtain ⟨k₁, hk₁, hret⟩ := bind_eq_ok hk'
  obtain rfl := Except.ok.inj hret
  have hbyte : s.2.byte raw = s.2.code raw := (if_neg hraw).trans (if_neg hprefix)
  rw [hbyte]
  have hcoded : Coded raw s.1.mods k₁.mods := by
    obtain ⟨-, hevent⟩ := rawKeyEvent_ok hk₁ fun hff => hraw (.inr (.inr (.inr hff)))
    by_cases hbreak : raw &&& BREAK_MASK ≠ 0
    · rw [if_pos hbreak] at hevent
      rw [hevent.1]
      exact released_coded hbreak _
    · rw [if_neg hbreak] at hevent
      rw [hevent.1]
      exact pressed_coded (not_not.1 hbreak) _
  refine ⟨?_, fun hagrees => ⟨hagrees, alt_code h.alt hcoded, .inl (code_pending _ _)⟩⟩
  rw [and_iff_left (feeds_code h hraw hprefix hk₁ _), agrees_code h.agrees { k₁ with prefixByte := 0 } rfl hcoded]
  exact ⟨fun hfollowed _ _ => hfollowed, fun hfollows => hfollows hraw hprefix⟩

end

/-- The keyboard and the kernel after the initialization. -/
def started (rest : κ) : Joint κ := (⟨0, ⟨false, false, false, false, false, false, false⟩, [], rest⟩, .idle)

lemma idle_holds (keys : Finset Key) : ¬Keys.idle.Holds keys := by
  rintro ⟨key, -, hheld⟩
  exact Finset.notMem_empty _ hheld

lemma started_steady (rest : κ) : Steady (started rest) where
  agrees := ⟨rfl, iff_of_false Bool.false_ne_true (idle_holds _), iff_of_false Bool.false_ne_true (idle_holds _), rfl,
    rfl, rfl⟩
  alt := nofun
  pending := .inl rfl

/-- **For which streams of bytes** the kernel knows the modifiers and the locks after every code, and feeds the
characters of the plain keys: those whose codes the kernel can follow. -/
theorem keyboard_iff {κ : Type} (R : Rest κ) (rest : κ) (bytes : List UInt8) :
    AlongSteps (jointByte R) (fun s raw s' => Agrees s' ∧ Feeds R s raw s') (started rest) bytes ↔
      Meets (jointByte R) Follows (started rest) bytes :=
  alongSteps_iff_meets Steady (fun _ _ _ h hs => (jointByte_step h hs).1)
    (fun _ _ _ h hC hs => (jointByte_step h hs).2 ((jointByte_step h hs).1.2 hC).1) bytes _ (started_steady rest)

/-- A kernel that types to the standard input. -/
def typingRest : Rest Unit where
  consoleValid _ := true
  shellFlag _ := 0
  targetStdin _ := TRUE
  targetThreadQueue _ := TRUE
  feedStdin _ rest := rest
  post _ _ _ rest := rest
  consoleInput _ _ _ _ rest := .ok rest

/-- **Two shift keys**: after the right one is released, the kernel does not know that the left one is held. -/
theorem keyboard_fails : ¬∀ (κ : Type) (R : Rest κ) (rest : κ) (bytes : List UInt8),
    AlongSteps (jointByte R) (fun s raw s' => Agrees s' ∧ Feeds R s raw s') (started rest) bytes := by
  intro hall
  have hagrees := along_iff_alongSteps.2 ⟨(started_steady ()).agrees,
    (alongSteps_and.1 (hall Unit typingRest () [0x2A, 0x36, 0xB6])).1⟩
  have hrun : (runs (jointByte typingRest) (started ()) [0x2A, 0x36, 0xB6]).toOption.map
      (fun s => (s.1.mods.shift, decide (s.2.Holds shiftKeys))) = some (false, true) := by
    decide +kernel
  obtain ⟨t, ht, hobserved⟩ := runs_observed hrun
  obtain ⟨hoff, hheld⟩ := Prod.mk.inj hobserved
  have hon := (hagrees.final ht).shift.2 (of_decide_eq_true hheld)
  rw [hoff] at hon
  cases hon

end Gramado.Keyboard
