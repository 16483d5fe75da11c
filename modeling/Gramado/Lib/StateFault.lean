import Mathlib.Tactic

/-!
# Programs whose state survives a fault

A program of type `EStateM φ σ α` either returns a value or ends with a fault, and leaves a state
behind in both cases.

* `outcome x s` — what the program returns from `s`, or the fault it ends with.
* `after x s` — the state that it leaves behind.
* `Frame R x` — the program stays in the relation `R`, however it ends.

`bind_of_ok` runs the first part of a program; `bind_ok_inv`, `check_ok_inv` and `test_ok_inv` take a
run that returns apart; the `Frame` rules build a frame from the frames of the parts.
-/

namespace StateFault

variable {φ σ α β : Type} {x : EStateM φ σ α} {f : α → EStateM φ σ β} {s s' t : σ} {a : α} {b : β}
  {e : φ}

/-- What the program returns, or the fault that ends it. -/
def outcome (x : EStateM φ σ α) (s : σ) : Except φ α :=
  match x s with
  | .ok a _ => .ok a
  | .error e _ => .error e

/-- The state the program leaves behind. -/
def after (x : EStateM φ σ α) (s : σ) : σ :=
  match x s with
  | .ok _ s' => s'
  | .error _ s' => s'

@[simp] lemma pure_run : (pure a : EStateM φ σ α) s = .ok a s := rfl

@[simp] lemma throw_run : (throw e : EStateM φ σ α) s = .error e s := rfl

@[simp] lemma get_run : (get : EStateM φ σ σ) s = .ok s s := rfl

@[simp] lemma modify_run (g : σ → σ) : (modify g : EStateM φ σ PUnit) s = .ok ⟨⟩ (g s) := rfl

lemma ite_run {c : Prop} [Decidable c] {y : EStateM φ σ α} :
    (if c then x else y) s = if c then x s else y s := by
  split_ifs <;> rfl

lemma bind_of_ok (h : x s = .ok a s') : (x >>= f) s = f a s' := by
  simp only [bind, EStateM.bind, h]

lemma bind_of_error (h : x s = .error e s') : (x >>= f) s = .error e s' := by
  simp only [bind, EStateM.bind, h]

@[simp] lemma get_bind {f : σ → EStateM φ σ β} : (get >>= f) s = f s s := rfl

@[simp] lemma modify_bind (g : σ → σ) {f : PUnit → EStateM φ σ β} :
    (modify g >>= f) s = f ⟨⟩ (g s) := rfl

@[simp] lemma pure_bind_run : ((pure a : EStateM φ σ α) >>= f) s = f a s := rfl

@[simp] lemma throw_bind_run : ((throw e : EStateM φ σ α) >>= f) s = .error e s := rfl

/-- A sequence that returns does so part by part. -/
lemma bind_ok_inv (h : (x >>= f) s = .ok b t) : ∃ a s', x s = .ok a s' ∧ f a s' = .ok b t := by
  cases hx : x s with
  | ok a s' => exact ⟨a, s', rfl, by rwa [bind_of_ok hx] at h⟩
  | error e s' => simp [bind_of_error hx] at h

/-- A program that returns has passed the check in front of it. -/
lemma check_ok_inv {c : Prop} [Decidable c] (h : (if c then throw e else x) s = .ok a t) :
    ¬ c ∧ x s = .ok a t := by
  split_ifs at h with hc
  · simp at h
  · exact ⟨hc, h⟩

/-- A program that returns something else than the test in front of it has passed the test. -/
lemma test_ok_inv {c : Prop} [Decidable c] {a' : α} (hne : a' ≠ a)
    (h : (if c then pure a' else x) s = .ok a t) : ¬ c ∧ x s = .ok a t := by
  split_ifs at h with hc
  · simp [hne] at h
  · exact ⟨hc, h⟩

lemma outcome_of_ok (h : x s = .ok a s') : outcome x s = .ok a := by
  simp only [outcome, h]

lemma outcome_of_error (h : x s = .error e s') : outcome x s = .error e := by
  simp only [outcome, h]

/-- A program whose outcome is a value returns it. -/
lemma run_of_outcome (h : outcome x s = .ok a) : x s = .ok a (after x s) := by
  unfold outcome at h
  unfold after
  cases hx : x s with
  | ok b t =>
      rw [hx] at h
      rw [Except.ok.inj h]
  | error e t => simp [hx] at h

lemma after_of_ok (h : x s = .ok a s') : after x s = s' := by
  simp only [after, h]

lemma after_of_error (h : x s = .error e s') : after x s = s' := by
  simp only [after, h]

/-! ## Frames -/

/-- Whatever the program does, it stays in `R`. -/
def Frame (R : σ → σ → Prop) (x : EStateM φ σ α) : Prop := ∀ s, R s (after x s)

variable {R : σ → σ → Prop}

lemma Frame.pure (hrefl : ∀ s, R s s) (a : α) : Frame R (Pure.pure a : EStateM φ σ α) :=
  fun s => hrefl s

lemma Frame.throw (hrefl : ∀ s, R s s) (e : φ) : Frame R (throw e : EStateM φ σ α) :=
  fun s => hrefl s

lemma Frame.get (hrefl : ∀ s, R s s) : Frame R (MonadState.get : EStateM φ σ σ) :=
  fun s => hrefl s

lemma Frame.modify {g : σ → σ} (hg : ∀ s, R s (g s)) : Frame R (modify g : EStateM φ σ PUnit) :=
  hg

/-- A sequence stays in what its parts stay in. -/
lemma Frame.bind (htrans : ∀ s t u, R s t → R t u → R s u) (hx : Frame R x)
    (hf : ∀ a, Frame R (f a)) : Frame R (x >>= f) := by
  intro s
  have hfirst := hx s
  cases hrun : x s with
  | ok a s' =>
      rw [after_of_ok hrun] at hfirst
      have hrest := htrans _ _ _ hfirst (hf a s')
      simpa only [after, bind_of_ok hrun] using hrest
  | error e s' =>
      rw [after_of_error hrun] at hfirst
      simpa only [after, bind_of_error hrun] using hfirst

lemma Frame.ite {c : Prop} [Decidable c] {y : EStateM φ σ α} (hx : Frame R x) (hy : Frame R y) :
    Frame R (if c then x else y) := by
  split_ifs
  · exact hx
  · exact hy

/-- A frame is about the state after a return, too. -/
lemma Frame.of_ok (hx : Frame R x) (h : x s = .ok a s') : R s s' := by
  have hframe := hx s
  rwa [after_of_ok h] at hframe

end StateFault
