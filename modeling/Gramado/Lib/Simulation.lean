import Mathlib.Tactic

/-!
# Traces and forward simulation

A system is a relation `step : σ → ε → σ → Prop`: in a state, with a label, it may go over to another
state.  Calls that can end in more than one way, or never end, are systems of this kind.

* `Trace step s es t` — from `s`, the system may go through the labels `es` and come to `t`.
* `Trace.keep_of`, `Trace.keep` — what every step keeps holds at the end of a trace.
* `Simulates step step' R` — each step of the first system is answered by a step of the second one with
  the same label, and `R` holds again.  `Simulates.trace` is the same for whole traces.
-/

namespace Simulation

variable {σ τ ε : Type*}

/-- From the first state, the system may go through the labels and come to the second one. -/
inductive Trace (step : σ → ε → σ → Prop) : σ → List ε → σ → Prop
  | nil (s : σ) : Trace step s [] s
  | cons {s s' t : σ} {e : ε} {es : List ε} (head : step s e s') (tail : Trace step s' es t) :
      Trace step s (e :: es) t

/-- Every step of the first system is answered by the second one. -/
def Simulates (step : σ → ε → σ → Prop) (step' : τ → ε → τ → Prop) (R : σ → τ → Prop) : Prop :=
  ∀ s e s' t, R s t → step s e s' → ∃ t', step' t e t' ∧ R s' t'

variable {step : σ → ε → σ → Prop} {step' : τ → ε → τ → Prop} {R : σ → τ → Prop}

lemma Trace.single {s t : σ} {e : ε} (h : step s e t) : Trace step s [e] t := .cons h (.nil t)

/-- One trace after another. -/
lemma Trace.append {s t u : σ} {es fs : List ε} (h : Trace step s es t) (h' : Trace step t fs u) :
    Trace step s (es ++ fs) u := by
  induction h with
  | nil s => exact h'
  | cons head tail ih => exact .cons head (ih h')

/-- **The invariant rule.**  What every step with a label in `C` keeps holds at the end of a trace whose
labels are in `C`. -/
theorem Trace.keep_of {J : σ → Prop} {C : ε → Prop}
    (hstep : ∀ s e s', C e → J s → step s e s' → J s') {s t : σ} {es : List ε} (h : Trace step s es t)
    (hC : ∀ e ∈ es, C e) (hJ : J s) : J t := by
  induction h with
  | nil s => exact hJ
  | cons head tail ih =>
      obtain ⟨hhead, htail⟩ := List.forall_mem_cons.1 hC
      exact ih htail (hstep _ _ _ hhead hJ head)

/-- What every step keeps holds at the end of a trace. -/
theorem Trace.keep {J : σ → Prop} (hstep : ∀ s e s', J s → step s e s' → J s') {s t : σ}
    {es : List ε} (h : Trace step s es t) (hJ : J s) : J t :=
  h.keep_of (C := fun _ => True) (fun s e s' _ => hstep s e s') (fun _ _ => trivial) hJ

/-- **Simulation of traces.**  Every trace of the first system is one of the second, with the same
labels, and ends in related states. -/
theorem Simulates.trace (hsim : Simulates step step' R) {s s' : σ} {es : List ε}
    (h : Trace step s es s') {t : τ} (hR : R s t) : ∃ t', Trace step' t es t' ∧ R s' t' := by
  induction h generalizing t with
  | nil s => exact ⟨t, .nil t, hR⟩
  | cons head tail ih =>
      obtain ⟨t₁, hstep, hR₁⟩ := hsim _ _ _ _ hR head
      obtain ⟨t', hrest, hR'⟩ := ih hR₁
      exact ⟨t', .cons hstep hrest, hR'⟩

end Simulation
