import Mathlib.Tactic

/-!
# Loops without a bound

A loop is given by one turn, `turn : σ → Except ε (β ⊕ σ)`: it stops with an error, it leaves the loop
with a result, or it goes on in a new state.  `within turn n s` is what the loop has come to after at
most `n` turns, and `Ends turn s r` says that it comes to `r` at all.

A loop comes to one thing at most (`Ends.unique`).  `ends_turn` takes one turn; `not_ends` is the rule for
a loop that never ends, and `Ends.result` the one for what holds of a result.
-/

namespace Loop

variable {σ ε β : Type*}

/-- What the loop has come to after at most `n` turns. -/
def within (turn : σ → Except ε (β ⊕ σ)) : ℕ → σ → Option (Except ε β)
  | 0, _ => none
  | n + 1, s =>
      match turn s with
      | .error e => some (.error e)
      | .ok (.inl b) => some (.ok b)
      | .ok (.inr s') => within turn n s'

/-- The loop comes to `r`. -/
def Ends (turn : σ → Except ε (β ⊕ σ)) (s : σ) (r : Except ε β) : Prop :=
  ∃ n, within turn n s = some r

variable {turn : σ → Except ε (β ⊕ σ)} {s s' : σ} {r r' : Except ε β} {e : ε} {b : β} {n m : ℕ}

/-- More turns change nothing. -/
lemma within_add (h : within turn n s = some r) (m : ℕ) : within turn (n + m) s = some r := by
  induction n generalizing s with
  | zero => cases h
  | succ n ih =>
      rw [Nat.succ_add, within]
      rw [within] at h
      cases hturn : turn s with
      | error e => rwa [hturn] at h
      | ok next =>
          rw [hturn] at h
          cases next with
          | inl b => exact h
          | inr s' => exact ih h

/-- A loop comes to one thing at most. -/
lemma Ends.unique (h : Ends turn s r) (h' : Ends turn s r') : r = r' := by
  obtain ⟨n, hn⟩ := h
  obtain ⟨m, hm⟩ := h'
  have hsum := within_add hm n
  rw [Nat.add_comm, within_add hn m] at hsum
  exact Option.some.inj hsum

/-- One turn that goes on. -/
lemma ends_turn (h : turn s = .ok (.inr s')) : Ends turn s r ↔ Ends turn s' r := by
  constructor
  · rintro ⟨n, hn⟩
    cases n with
    | zero => cases hn
    | succ n =>
        rw [within, h] at hn
        exact ⟨n, hn⟩
  · rintro ⟨n, hn⟩
    refine ⟨n + 1, ?_⟩
    rw [within, h]
    exact hn

/-- A turn that leaves the loop. -/
lemma ends_exit (h : turn s = .ok (.inl b)) : Ends turn s r ↔ r = .ok b := by
  have hends : Ends turn s (.ok b) := ⟨1, by rw [within, h]⟩
  refine ⟨fun hr => hr.unique hends, ?_⟩
  rintro rfl
  exact hends

/-- A turn that stops with an error. -/
lemma ends_error (h : turn s = .error e) : Ends turn s r ↔ r = .error e := by
  have hends : Ends turn s (.error e) := ⟨1, by rw [within, h]⟩
  refine ⟨fun hr => hr.unique hends, ?_⟩
  rintro rfl
  exact hends

/-- **A loop that never ends**: every state that meets `J` goes on to one that does. -/
lemma not_ends {J : σ → Prop} (hstep : ∀ s, J s → ∃ s', turn s = .ok (.inr s') ∧ J s') (h : J s) :
    ¬Ends turn s r := by
  rintro ⟨n, hn⟩
  induction n generalizing s with
  | zero => cases hn
  | succ n ih =>
      obtain ⟨s', hturn, hs'⟩ := hstep s h
      rw [within, hturn] at hn
      exact ih hs' hn

/-- **An invariant of the loop** says what holds of its result. -/
lemma Ends.result {J : σ → Prop} {Q : β → Prop} (hstep : ∀ s s', J s → turn s = .ok (.inr s') → J s')
    (hexit : ∀ s b, J s → turn s = .ok (.inl b) → Q b) (hs : J s) (h : Ends turn s (.ok b)) : Q b := by
  obtain ⟨n, hn⟩ := h
  induction n generalizing s with
  | zero => cases hn
  | succ n ih =>
      rw [within] at hn
      cases hturn : turn s with
      | error e =>
          rw [hturn] at hn
          cases hn
      | ok next =>
          rw [hturn] at hn
          cases next with
          | inl b' =>
              cases hn
              exact hexit s b hs hturn
          | inr s' => exact ih (hstep s s' hs hturn) hn

end Loop
