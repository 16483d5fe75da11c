import Mathlib.Tactic

/-!
# Runs of a step function that can fault

A component is given by a step function `σ → ε → Except φ σ`: an event either moves the state or
ends the run with a fault.  Runs are looked at in four ways.

* `Along step P s es` — `P` holds in every state the run from `s` on the events `es` passes
  through, up to its end or to the fault that stops it.
* `AlongSteps step Q s es` — `Q` holds of every step the run really takes, of the state before, the
  event and the state after it.
* `Meets step C s es` — every step the run really takes meets the condition `C`, read in the state
  *before* the step.
* `collect step obs s es` — what the observer `obs` sees of the steps of the run, in order.

* `Stays step P s es` — no step of the run faults, and `P` holds in every state; `Obeys step C s es` is the
  condition of a run that must not fault.

`Meets.along` is the invariant rule.  `along_iff_meets` is its exact form: when `C` decides for each
step whether it leads to `P`, a run stays in `P` if and only if all its steps meet `C`;
`alongSteps_iff_meets` says the same of a `Q` about steps.
-/

namespace StepRun

variable {σ ε φ : Type*} (step : σ → ε → Except φ σ)

/-- The state a run ends in, or the fault that stops it. -/
def runs : σ → List ε → Except φ σ
  | s, [] => .ok s
  | s, e :: es =>
      match step s e with
      | .ok s' => runs s' es
      | .error f => .error f

/-- `P` holds in every state of the run. -/
def Along (P : σ → Prop) : σ → List ε → Prop
  | s, [] => P s
  | s, e :: es => P s ∧ ∀ s', step s e = .ok s' → Along P s' es

/-- `Q` holds of every step of the run that does not fault. -/
def AlongSteps (Q : σ → ε → σ → Prop) : σ → List ε → Prop
  | _, [] => True
  | s, e :: es => ∀ s', step s e = .ok s' → Q s e s' ∧ AlongSteps Q s' es

/-- Every step of the run that does not fault meets `C` in the state it starts from. -/
def Meets (C : σ → ε → Prop) : σ → List ε → Prop
  | _, [] => True
  | s, e :: es => ∀ s', step s e = .ok s' → C s e ∧ Meets C s' es

/-- No step of the run faults, and `P` holds in every state. -/
def Stays (P : σ → Prop) : σ → List ε → Prop
  | s, [] => P s
  | s, e :: es => P s ∧ ∃ s', step s e = .ok s' ∧ Stays P s' es

/-- Every step of the run, and the one that faults, meets `C` in the state it starts from. -/
def Obeys (C : σ → ε → Prop) : σ → List ε → Prop
  | _, [] => True
  | s, e :: es => C s e ∧ ∀ s', step s e = .ok s' → Obeys C s' es

/-- What `obs` sees of the run, step by step. -/
def collect {β : Type*} (obs : σ → ε → List β) : σ → List ε → List β
  | _, [] => []
  | s, e :: es =>
      obs s e ++
        match step s e with
        | .ok s' => collect obs s' es
        | .error _ => []

variable {step} {P J : σ → Prop} {C : σ → ε → Prop}

/-- The condition of a run is checked by running it. -/
instance decidableMeets [∀ s e, Decidable (C s e)] :
    ∀ (s : σ) (es : List ε), Decidable (Meets step C s es)
  | _, [] => .isTrue trivial
  | s, e :: es =>
      match h : step s e with
      | .error _ => .isTrue fun s' hs => nomatch h.symm.trans hs
      | .ok t =>
          letI := decidableMeets t es
          decidable_of_iff (C s e ∧ Meets step C t es)
            ⟨fun hC s' hs => by cases h.symm.trans hs; exact hC, fun hC => hC t h⟩

@[simp] lemma runs_nil (s : σ) : runs step s [] = .ok s := rfl

lemma runs_cons_ok {s s' : σ} {e : ε} {es : List ε} (h : step s e = .ok s') :
    runs step s (e :: es) = runs step s' es := by
  simp only [runs, h]

lemma runs_singleton (s : σ) (e : ε) : runs step s [e] = step s e := by
  simp only [runs]
  cases step s e <;> rfl

/-- A run that ends without a fault took its first step. -/
lemma runs_cons_inv {s t : σ} {e : ε} {es : List ε} (h : runs step s (e :: es) = .ok t) :
    ∃ s', step s e = .ok s' ∧ runs step s' es = .ok t := by
  simp only [runs] at h
  cases hs : step s e with
  | ok s' => exact ⟨s', rfl, by simpa only [hs] using h⟩
  | error f => simp [hs] at h

lemma runs_append {s t u : σ} {es fs : List ε} (h : runs step s es = .ok t)
    (h' : runs step t fs = .ok u) : runs step s (es ++ fs) = .ok u := by
  induction es generalizing s with
  | nil =>
      obtain rfl : s = t := by simpa using h
      simpa using h'
  | cons e es ih =>
      obtain ⟨s', hs, hrest⟩ := runs_cons_inv h
      rw [List.cons_append, runs_cons_ok hs]
      exact ih hrest

/-- A run on two lists of events goes through a state in between. -/
lemma runs_append_inv {s u : σ} {es fs : List ε} (h : runs step s (es ++ fs) = .ok u) :
    ∃ t, runs step s es = .ok t ∧ runs step t fs = .ok u := by
  induction es generalizing s with
  | nil => exact ⟨s, rfl, h⟩
  | cons e es ih =>
      obtain ⟨s', hs, hrest⟩ := runs_cons_inv h
      rw [runs_cons_ok hs]
      exact ih hrest

/-- A run of steps that keep `J` ends in `J`. -/
lemma runs_keep (hstep : ∀ s e s', J s → step s e = .ok s' → J s') :
    ∀ (es : List ε) (s t : σ), J s → runs step s es = .ok t → J t
  | [], s, t, hJ, hrun => by
      obtain rfl : s = t := by simpa using hrun
      exact hJ
  | e :: es, s, t, hJ, hrun => by
      obtain ⟨s', hs, hrest⟩ := runs_cons_inv hrun
      exact runs_keep hstep es s' t (hstep s e s' hJ hs) hrest

/-- What is seen of the end of a run that ends. -/
lemma runs_observed {β : Type*} {f : σ → β} {b : β} {s : σ} {es : List ε}
    (h : (runs step s es).toOption.map f = some b) : ∃ t, runs step s es = .ok t ∧ f t = b := by
  cases hr : runs step s es with
  | ok t =>
      rw [hr] at h
      exact ⟨t, rfl, Option.some.inj h⟩
  | error e =>
      rw [hr] at h
      cases h

/-- What holds of the steps of a run holds of its last step. -/
lemma AlongSteps.last {Q : σ → ε → σ → Prop} {s t t' : σ} {es : List ε} {e : ε}
    (h : AlongSteps step Q s (es ++ [e])) (hr : runs step s es = .ok t) (hs : step t e = .ok t') :
    Q t e t' := by
  induction es generalizing s with
  | nil =>
      obtain rfl : s = t := by simpa using hr
      exact (h t' hs).1
  | cons e es ih =>
      obtain ⟨s', hs', hrest⟩ := runs_cons_inv hr
      exact ih (h s' hs').2 hrest

/-- Steps that never fault from a `J`, and keep it, make runs that never fault. -/
lemma runs_total_keep (hstep : ∀ s e, J s → ∃ s', step s e = .ok s' ∧ J s') :
    ∀ (es : List ε) (s : σ), J s → ∃ t, runs step s es = .ok t
  | [], s, _ => ⟨s, rfl⟩
  | e :: es, s, hJ => by
      obtain ⟨s', hs, hJ'⟩ := hstep s e hJ
      rw [runs_cons_ok hs]
      exact runs_total_keep hstep es s' hJ'

/-- Steps that never fault make runs that never fault. -/
lemma runs_total (hstep : ∀ s e, ∃ s', step s e = .ok s') (es : List ε) (s : σ) :
    ∃ t, runs step s es = .ok t :=
  runs_total_keep (J := fun _ => True) (fun s e _ => (hstep s e).imp fun _ h => ⟨h, trivial⟩) es s
    trivial

/-- What every step keeps holds along every run. -/
lemma along_keep (hstep : ∀ s e s', J s → step s e = .ok s' → J s') :
    ∀ (es : List ε) {s : σ}, J s → Along step J s es
  | [], _, hJ => hJ
  | e :: es, s, hJ => ⟨hJ, fun s' hs => along_keep hstep es (hstep s e s' hJ hs)⟩

lemma Along.head {s : σ} {es : List ε} (h : Along step P s es) : P s := by
  cases es with
  | nil => exact h
  | cons e es => exact h.1

/-- What holds along a run holds in the state it ends in. -/
lemma Along.final {s t : σ} {es : List ε} (h : Along step P s es) (hr : runs step s es = .ok t) :
    P t := by
  induction es generalizing s with
  | nil =>
      obtain rfl : s = t := by simpa using hr
      exact h
  | cons e es ih =>
      obtain ⟨s', hs, hrest⟩ := runs_cons_inv hr
      exact ih (h.2 s' hs) hrest

/-- **The invariant rule.**  A `J` that every step meeting `C` keeps holds along every run whose
steps meet `C`. -/
theorem Meets.along (hstep : ∀ s e s', J s → C s e → step s e = .ok s' → J s') :
    ∀ (es : List ε) (s : σ), J s → Meets step C s es → Along step J s es
  | [], _, hJ, _ => hJ
  | e :: es, s, hJ, hC =>
      ⟨hJ, fun s' hs => Meets.along hstep es s' (hstep s e s' hJ (hC s' hs).1 hs) (hC s' hs).2⟩

/-- The beginning of a run whose steps meet `C`. -/
lemma Meets.of_prefix {s : σ} {es fs : List ε} (h : Meets step C s (es ++ fs)) : Meets step C s es := by
  induction es generalizing s with
  | nil => trivial
  | cons e es ih => exact fun s' hs => ⟨(h s' hs).1, ih (h s' hs).2⟩

/-- What is left of a run whose steps meet `C`. -/
lemma Meets.of_append {s t : σ} {es fs : List ε} (h : Meets step C s (es ++ fs))
    (hr : runs step s es = .ok t) : Meets step C t fs := by
  induction es generalizing s with
  | nil =>
      obtain rfl : s = t := by simpa using hr
      exact h
  | cons e es ih =>
      obtain ⟨s', hs, hrest⟩ := runs_cons_inv hr
      exact ih (h s' hs).2 hrest

/-- The same for what is to hold of the steps. -/
theorem Meets.alongSteps {Q : σ → ε → σ → Prop}
    (hstep : ∀ s e s', J s → C s e → step s e = .ok s' → Q s e s' ∧ J s') :
    ∀ {es : List ε} {s : σ}, Meets step C s es → J s → AlongSteps step Q s es
  | [], _, _, _ => trivial
  | _ :: _, _, hC, hJ => fun s' hs =>
      have hone := hstep _ _ s' hJ (hC s' hs).1 hs
      ⟨hone.1, (hC s' hs).2.alongSteps hstep hone.2⟩

lemma Along.imp (hPQ : ∀ s, J s → P s) :
    ∀ {es : List ε} {s : σ}, Along step J s es → Along step P s es
  | [], s, h => hPQ s h
  | _ :: _, s, h => ⟨hPQ s h.1, fun s' hs => Along.imp hPQ (h.2 s' hs)⟩

/-- **The exact condition of a run.**  Where the invariant `J` holds, `C` decides whether a step
leads to `P`, and a step that meets `C` keeps `J`. -/
theorem along_iff_meets (J : σ → Prop) (hJP : ∀ s, J s → P s)
    (hiff : ∀ s e s', J s → step s e = .ok s' → (P s' ↔ C s e))
    (hkeep : ∀ s e s', J s → C s e → step s e = .ok s' → J s') :
    ∀ (es : List ε) (s : σ), J s → (Along step P s es ↔ Meets step C s es)
  | [], s, hJ => iff_of_true (hJP s hJ) trivial
  | e :: es, s, hJ => by
      constructor
      · intro h s' hs
        have hC : C s e := (hiff s e s' hJ hs).1 (h.2 s' hs).head
        exact ⟨hC, (along_iff_meets J hJP hiff hkeep es s' (hkeep s e s' hJ hC hs)).1 (h.2 s' hs)⟩
      · intro h
        refine ⟨hJP s hJ, fun s' hs => ?_⟩
        obtain ⟨hC, hrest⟩ := h s' hs
        exact (along_iff_meets J hJP hiff hkeep es s' (hkeep s e s' hJ hC hs)).2 hrest

lemma Stays.head {s : σ} {es : List ε} (h : Stays step P s es) : P s := by
  cases es with
  | nil => exact h
  | cons e es => exact h.1

/-- **The exact condition of a run that must not fault.**  Every step keeps `J`, and where `J` holds, `C`
decides whether a step from a `P` is taken and leads to one. -/
theorem stays_iff_obeys (hkeep : ∀ s e s', J s → step s e = .ok s' → J s')
    (hiff : ∀ s e, J s → P s → ((∃ s', step s e = .ok s' ∧ P s') ↔ C s e)) :
    ∀ (es : List ε) (s : σ), J s → P s → (Stays step P s es ↔ Obeys step C s es)
  | [], _, _, hP => iff_of_true hP trivial
  | e :: es, s, hJ, hP => by
      constructor
      · rintro ⟨-, s', hs, hrest⟩
        refine ⟨(hiff s e hJ hP).1 ⟨s', hs, hrest.head⟩, fun t ht => ?_⟩
        obtain rfl : s' = t := Except.ok.inj (hs.symm.trans ht)
        exact (stays_iff_obeys hkeep hiff es s' (hkeep s e s' hJ hs) hrest.head).1 hrest
      · rintro ⟨hC, hrest⟩
        obtain ⟨s', hs, hP'⟩ := (hiff s e hJ hP).2 hC
        exact ⟨hP, s', hs, (stays_iff_obeys hkeep hiff es s' (hkeep s e s' hJ hs) hP').2 (hrest s' hs)⟩

/-- **The rule for runs that do not fault.**  From a `J`, a step that meets `C` is taken and keeps `J`. -/
theorem Obeys.stays (hstep : ∀ s e, J s → C s e → ∃ s', step s e = .ok s' ∧ J s') (hP : ∀ s, J s → P s) :
    ∀ (es : List ε) (s : σ), J s → Obeys step C s es → Stays step P s es
  | [], s, hJ, _ => hP s hJ
  | e :: es, s, hJ, h => by
      obtain ⟨s', hs, hJ'⟩ := hstep s e hJ h.1
      exact ⟨hP s hJ, s', hs, Obeys.stays hstep hP es s' hJ' (h.2 s' hs)⟩

/-- **The exact condition of the steps of a run.**  Where the invariant `J` holds, `C` decides
whether `Q` holds of a step, and a step that meets `C` keeps `J`. -/
theorem alongSteps_iff_meets {Q : σ → ε → σ → Prop} (J : σ → Prop)
    (hiff : ∀ s e s', J s → step s e = .ok s' → (Q s e s' ↔ C s e))
    (hkeep : ∀ s e s', J s → C s e → step s e = .ok s' → J s') :
    ∀ (es : List ε) (s : σ), J s → (AlongSteps step Q s es ↔ Meets step C s es)
  | [], _, _ => Iff.rfl
  | e :: es, s, hJ => by
      refine forall_congr' fun s' => forall_congr' fun hs => ?_
      rw [hiff s e s' hJ hs]
      exact and_congr_right fun hC =>
        alongSteps_iff_meets J hiff hkeep es s' (hkeep s e s' hJ hC hs)

/-! ## Parts of a run -/

lemma alongSteps_and {Q R : σ → ε → σ → Prop} : ∀ {es : List ε} {s : σ},
    AlongSteps step (fun s e s' => Q s e s' ∧ R s e s') s es ↔
      AlongSteps step Q s es ∧ AlongSteps step R s es
  | [], _ => (and_iff_left trivial).symm
  | e :: es, s => by
      rw [AlongSteps, AlongSteps, AlongSteps, ← forall_and]
      refine forall_congr' fun s' => ?_
      rw [← forall_and]
      refine forall_congr' fun _ => ?_
      rw [alongSteps_and, and_and_and_comm]

lemma along_iff_alongSteps : ∀ {es : List ε} {s : σ},
    Along step P s es ↔ P s ∧ AlongSteps step (fun _ _ s' => P s') s es
  | [], _ => (and_iff_left trivial).symm
  | _ :: _, _ =>
      and_congr_right fun _ => forall_congr' fun _ => forall_congr' fun _ => along_iff_alongSteps

/-- **What every step computes, every part of the run computes.**  The observation `f` goes along with the events
by `g` in every step if and only if it does so up to every point of the run. -/
theorem alongSteps_iff_foldl {β : Type*} {f : σ → β} {g : β → ε → β} : ∀ {es : List ε} {s : σ},
    AlongSteps step (fun s e s' => f s' = g (f s) e) s es ↔
      ∀ before, before <+: es → ∀ t, runs step s before = .ok t → f t = before.foldl g (f s)
  | [], s => by
      refine iff_of_true trivial fun before hbefore t ht => ?_
      obtain rfl := List.prefix_nil.1 hbefore
      obtain rfl : s = t := by simpa using ht
      rfl
  | e :: es, s => by
      constructor
      · intro h before hbefore t ht
        cases before with
        | nil =>
            obtain rfl : s = t := by simpa using ht
            rfl
        | cons e' before =>
            obtain ⟨rfl, hrestBefore⟩ := List.cons_prefix_cons.1 hbefore
            obtain ⟨s', hs, hrest⟩ := runs_cons_inv ht
            rw [List.foldl_cons, ← (h s' hs).1]
            exact alongSteps_iff_foldl.1 (h s' hs).2 before hrestBefore t hrest
      · intro h s' hs
        have hone : f s' = g (f s) e :=
          h [e] (List.cons_prefix_cons.2 ⟨rfl, List.nil_prefix⟩) s' (by rw [runs_cons_ok hs, runs_nil])
        refine ⟨hone, alongSteps_iff_foldl.2 fun before hbefore t ht => ?_⟩
        rw [hone]
        exact h (e :: before) (List.cons_prefix_cons.2 ⟨rfl, hbefore⟩) t (by rw [runs_cons_ok hs, ht])

/-! ## Observations -/

section Observations

variable {β : Type*} {obs inp out : σ → ε → List β}

@[simp] lemma collect_nil (s : σ) : collect step obs s [] = [] := rfl

lemma collect_cons {s s' : σ} {e : ε} {es : List ε} (h : step s e = .ok s') :
    collect step obs s (e :: es) = obs s e ++ collect step obs s' es := by
  simp only [collect, h]

/-- What no step shows, no run shows. -/
lemma collect_eq_nil (hstep : ∀ s e s', J s → step s e = .ok s' → J s' ∧ obs s e = []) :
    ∀ (es : List ε) (s t : σ), J s → runs step s es = .ok t → collect step obs s es = []
  | [], _, _, _, _ => rfl
  | e :: es, s, t, hJ, hrun => by
      obtain ⟨s', hs, hrest⟩ := runs_cons_inv hrun
      obtain ⟨hJ', hnone⟩ := hstep s e s' hJ hs
      rw [collect_cons hs, hnone, collect_eq_nil hstep es s' t hJ' hrest, List.append_nil]

/-- **Conservation.**  If every step passes what comes in to the back of a store and what goes out
from its front, a whole run does. -/
theorem conserved (content : σ → List β)
    (hstep : ∀ s e s', J s → step s e = .ok s' →
      J s' ∧ content s ++ inp s e = out s e ++ content s') :
    ∀ (es : List ε) (s t : σ), J s → runs step s es = .ok t →
      content s ++ collect step inp s es = collect step out s es ++ content t
  | [], s, t, _, hrun => by
      obtain rfl : s = t := by simpa using hrun
      simp
  | e :: es, s, t, hJ, hrun => by
      obtain ⟨s', hs, hrest⟩ := runs_cons_inv hrun
      obtain ⟨hJ', hone⟩ := hstep s e s' hJ hs
      rw [collect_cons hs, collect_cons hs, ← List.append_assoc, hone, List.append_assoc,
        conserved content hstep es s' t hJ' hrest, List.append_assoc]

/-- The same along one run. -/
theorem AlongSteps.conserved {content : σ → List β} :
    ∀ {es : List ε} {s t : σ},
      AlongSteps step (fun s e s' => content s ++ inp s e = out s e ++ content s') s es →
        runs step s es = .ok t →
          content s ++ collect step inp s es = collect step out s es ++ content t
  | [], s, t, _, hrun => by
      obtain rfl : s = t := by simpa using hrun
      simp
  | e :: es, s, t, h, hrun => by
      obtain ⟨s', hs, hrest⟩ := runs_cons_inv hrun
      obtain ⟨hone, hmore⟩ := h s' hs
      rw [collect_cons hs, collect_cons hs, ← List.append_assoc, hone, List.append_assoc,
        hmore.conserved hrest, List.append_assoc]

end Observations

end StepRun
