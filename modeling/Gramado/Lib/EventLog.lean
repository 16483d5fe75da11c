import Mathlib.Tactic

/-!
# Computations that leave a log

An `EventM φ σ ε` computation works on a state `σ`, may end with a fault `φ`, and leaves a list of
events `ε`, in order: the accesses it made, the calls it placed, what it sent.  The events are not
part of the state; a computation cannot look at them or take them back.

* `bind_of_ok`, `bind_of_error` — how a run goes on after its first step.
* `Yields allowed x s r s'` — the run ends with `r` in `s'`, and all its events are allowed.
* `Clean bad allowed` — a run ended without a bad fault and all its events are allowed.
  `clean_bind` and its companions take this apart along the program, in both directions, so that
  the exact condition of a clean run is computed step by step.
-/

namespace EventLog

/-- How a run ends: with a value or a fault, in which state, and the events it left. -/
@[ext]
structure Outcome (φ σ ε α : Type) where
  result : Except φ α
  state : σ
  events : List ε

/-- Computations on `σ` that can fault and that leave events. -/
def EventM (φ σ ε α : Type) : Type := σ → Outcome φ σ ε α

variable {φ σ ε α β : Type}

/-- The events of what came before. -/
def Outcome.behind (r : Outcome φ σ ε α) (events : List ε) : Outcome φ σ ε α :=
  { r with events := events ++ r.events }

@[simp] lemma Outcome.behind_result (r : Outcome φ σ ε α) (events : List ε) :
    (r.behind events).result = r.result := rfl

@[simp] lemma Outcome.behind_state (r : Outcome φ σ ε α) (events : List ε) :
    (r.behind events).state = r.state := rfl

@[simp] lemma Outcome.behind_events (r : Outcome φ σ ε α) (events : List ε) :
    (r.behind events).events = events ++ r.events := rfl

@[simp] lemma Outcome.behind_nil (r : Outcome φ σ ε α) : r.behind [] = r := rfl

lemma Outcome.behind_behind (r : Outcome φ σ ε α) (events events' : List ε) :
    (r.behind events').behind events = r.behind (events ++ events') := by
  simp only [Outcome.behind, List.append_assoc]

namespace EventM

/-- One computation after the other. -/
def bind (x : EventM φ σ ε α) (f : α → EventM φ σ ε β) : EventM φ σ ε β := fun s =>
  match (x s).result with
  | .ok a => (f a (x s).state).behind (x s).events
  | .error e => ⟨.error e, (x s).state, (x s).events⟩

instance : Monad (EventM φ σ ε) where
  pure a s := ⟨.ok a, s, []⟩
  bind := bind

/-- The state. -/
def get : EventM φ σ ε σ := fun s => ⟨.ok s, s, []⟩

/-- The state is changed. -/
def modify (f : σ → σ) : EventM φ σ ε Unit := fun s => ⟨.ok (), f s, []⟩

/-- An event. -/
def emit (x : ε) : EventM φ σ ε Unit := fun s => ⟨.ok (), s, [x]⟩

/-- The run ends. -/
def fault (e : φ) : EventM φ σ ε α := fun s => ⟨.error e, s, []⟩

end EventM

open EventM

variable {x : EventM φ σ ε α} {f : α → EventM φ σ ε β} {s s' : σ} {events : List ε}

/-! ## Runs -/

lemma pure_run (a : α) : (pure a : EventM φ σ ε α) s = ⟨.ok a, s, []⟩ := rfl

lemma bind_of_ok {a : α} (h : x s = ⟨.ok a, s', events⟩) :
    (x >>= f) s = (f a s').behind events := by
  show EventM.bind x f s = _
  simp only [EventM.bind, h]

lemma bind_of_error {e : φ} (h : x s = ⟨.error e, s', events⟩) :
    (x >>= f) s = ⟨.error e, s', events⟩ := by
  show EventM.bind x f s = _
  simp only [EventM.bind, h]

/-- A run that ends with a value took its first step. -/
lemma bind_ok_inv {b : β} (h : ((x >>= f) s).result = .ok b) :
    ∃ a, (x s).result = .ok a ∧ (x >>= f) s = (f a (x s).state).behind (x s).events := by
  cases hx : (x s).result with
  | ok a => exact ⟨a, rfl, bind_of_ok (Outcome.ext hx rfl rfl)⟩
  | error e =>
      rw [bind_of_error (Outcome.ext hx rfl rfl)] at h
      cases h

@[simp] lemma get_bind (f : σ → EventM φ σ ε β) : (EventM.get >>= f) s = f s s := rfl

@[simp] lemma modify_bind (g : σ → σ) (f : Unit → EventM φ σ ε β) :
    (EventM.modify g >>= f) s = f () (g s) := rfl

@[simp] lemma emit_bind (x : ε) (f : Unit → EventM φ σ ε β) :
    (EventM.emit x >>= f) s = (f () s).behind [x] := rfl

@[simp] lemma pure_bind' (a : α) (f : α → EventM φ σ ε β) :
    ((pure a : EventM φ σ ε α) >>= f) s = f a s := rfl

lemma ite_run {p : Prop} [Decidable p] (x y : EventM φ σ ε α) :
    (if p then x else y) s = if p then x s else y s :=
  apply_ite (fun z : EventM φ σ ε α => z s) p x y

/-- A result at the end changes nothing but the result. -/
lemma bind_pure_run (b : β) (s : σ) :
    ((x >>= fun _ => (pure b : EventM φ σ ε β)) s).state = (x s).state ∧
      ((x >>= fun _ => (pure b : EventM φ σ ε β)) s).events = (x s).events := by
  cases hx : (x s).result with
  | ok a =>
      rw [bind_of_ok (Outcome.ext hx rfl rfl)]
      exact ⟨rfl, List.append_nil _⟩
  | error e =>
      rw [bind_of_error (Outcome.ext hx rfl rfl)]
      exact ⟨rfl, rfl⟩

/-! ## What a computation leaves alone -/

/-- The part `g` of the state is the same after the computation. -/
def Keeps {γ : Type} (g : σ → γ) (x : EventM φ σ ε α) : Prop := ∀ s, g (x s).state = g s

section Keeps

variable {γ : Type} {g : σ → γ}

lemma Keeps.pure (a : α) : Keeps g (Pure.pure a : EventM φ σ ε α) := fun _ => rfl

lemma Keeps.get : Keeps g (EventM.get : EventM φ σ ε σ) := fun _ => rfl

lemma Keeps.emit (y : ε) : Keeps g (EventM.emit y : EventM φ σ ε Unit) := fun _ => rfl

lemma Keeps.fault (e : φ) : Keeps g (EventM.fault e : EventM φ σ ε α) := fun _ => rfl

lemma Keeps.modify {f : σ → σ} (h : ∀ s, g (f s) = g s) :
    Keeps g (EventM.modify f : EventM φ σ ε Unit) := h

lemma Keeps.bind (hx : Keeps g x) (hf : ∀ a, Keeps g (f a)) : Keeps g (x >>= f) := by
  intro s
  cases hr : (x s).result with
  | ok a =>
      rw [bind_of_ok (Outcome.ext hr rfl rfl)]
      exact (hf a _).trans (hx s)
  | error e =>
      rw [bind_of_error (Outcome.ext hr rfl rfl)]
      exact hx s

lemma Keeps.ite {p : Prop} [Decidable p] {x y : EventM φ σ ε α} (hx : Keeps g x)
    (hy : Keeps g y) : Keeps g (if p then x else y) := by
  split_ifs
  · exact hx
  · exact hy

end Keeps

/-! ## What a run comes to -/

/-- The run ends with the result `r` in the state `s'`, and all its events are allowed. -/
structure Yields (allowed : ε → Prop) (x : EventM φ σ ε α) (s : σ) (r : Except φ α) (s' : σ) : Prop where
  result : (x s).result = r
  state : (x s).state = s'
  events : ∀ y ∈ (x s).events, allowed y

section Yields

variable {allowed : ε → Prop} {s'' : σ}

lemma Yields.pure (a : α) (s : σ) : Yields allowed (Pure.pure a : EventM φ σ ε α) s (.ok a) s :=
  ⟨rfl, rfl, nofun⟩

lemma Yields.fault (e : φ) (s : σ) :
    Yields allowed (EventM.fault e : EventM φ σ ε α) s (.error e) s :=
  ⟨rfl, rfl, nofun⟩

lemma Yields.bind {a : α} {r : Except φ β} (hx : Yields allowed x s (.ok a) s')
    (hf : Yields allowed (f a) s' r s'') : Yields allowed (x >>= f) s r s'' := by
  have hrun : (x >>= f) s = (f a s').behind (x s).events :=
    bind_of_ok (Outcome.ext hx.result hx.state rfl)
  constructor
  · rw [hrun]
    exact hf.result
  · rw [hrun]
    exact hf.state
  · rw [hrun]
    intro y hy
    exact (List.mem_append.1 hy).elim (hx.events y) (hf.events y)

lemma Yields.bind_error {e : φ} (hx : Yields allowed x s (.error e) s') :
    Yields allowed (x >>= f) s (.error e) s' := by
  have hrun : (x >>= f) s = ⟨.error e, s', (x s).events⟩ :=
    bind_of_error (Outcome.ext hx.result hx.state rfl)
  constructor
  · rw [hrun]
  · rw [hrun]
  · rw [hrun]
    exact hx.events

end Yields

/-! ## Clean runs -/

/-- The run did not end with a bad fault, and all its events are allowed. -/
structure Clean (bad : φ → Prop) (allowed : ε → Prop) (r : Outcome φ σ ε α) : Prop where
  fault : ∀ e, r.result = .error e → ¬bad e
  events : ∀ x ∈ r.events, allowed x

variable {bad : φ → Prop} {allowed : ε → Prop}

lemma clean_behind {r : Outcome φ σ ε α} :
    Clean bad allowed (r.behind events) ↔ (∀ x ∈ events, allowed x) ∧ Clean bad allowed r := by
  constructor
  · intro h
    exact ⟨fun x hx => h.events x (List.mem_append_left _ hx), h.fault,
      fun x hx => h.events x (List.mem_append_right _ hx)⟩
  · rintro ⟨hevents, h⟩
    exact ⟨h.fault, fun x hx => (List.mem_append.1 hx).elim (hevents x) (h.events x)⟩

lemma clean_ok {a : α} :
    Clean bad allowed (⟨.ok a, s, events⟩ : Outcome φ σ ε α) ↔ ∀ x ∈ events, allowed x :=
  ⟨fun h => h.events, fun h => ⟨nofun, h⟩⟩

lemma clean_bind_of_ok {a : α} (h : x s = ⟨.ok a, s', events⟩) :
    Clean bad allowed ((x >>= f) s) ↔
      (∀ y ∈ events, allowed y) ∧ Clean bad allowed (f a s') := by
  rw [bind_of_ok h, clean_behind]

/-- A sequence is clean when its first step is, and what follows it is. -/
lemma clean_bind : Clean bad allowed ((x >>= f) s) ↔
    Clean bad allowed (x s) ∧
      ∀ a, (x s).result = .ok a → Clean bad allowed (f a (x s).state) := by
  cases hx : (x s).result with
  | ok a =>
      rw [bind_of_ok (Outcome.ext hx rfl rfl), clean_behind]
      constructor
      · rintro ⟨hevents, hrest⟩
        refine ⟨⟨fun e he => absurd (hx.symm.trans he) nofun, hevents⟩, fun b hb => ?_⟩
        obtain rfl := Except.ok.inj hb
        exact hrest
      · rintro ⟨hfirst, hrest⟩
        exact ⟨hfirst.events, hrest a rfl⟩
  | error e =>
      rw [bind_of_error (Outcome.ext hx rfl rfl)]
      constructor
      · intro h
        refine ⟨⟨fun e' he' => ?_, h.events⟩, nofun⟩
        obtain rfl := Except.error.inj (hx.symm.trans he')
        exact h.fault _ rfl
      · rintro ⟨hfirst, -⟩
        refine ⟨fun e' he' => ?_, hfirst.events⟩
        obtain rfl := Except.error.inj he'
        exact hfirst.fault _ hx

@[simp] lemma clean_pure (a : α) : Clean bad allowed ((pure a : EventM φ σ ε α) s) :=
  ⟨nofun, nofun⟩

lemma clean_fault {e : φ} :
    Clean bad allowed ((EventM.fault e : EventM φ σ ε α) s) ↔ ¬bad e :=
  ⟨fun h => h.fault e rfl,
    fun h => ⟨fun _ he => Except.error.inj he ▸ h, nofun⟩⟩

lemma clean_emit_bind {y : ε} {f : Unit → EventM φ σ ε β} :
    Clean bad allowed ((EventM.emit y >>= f) s) ↔ allowed y ∧ Clean bad allowed (f () s) := by
  rw [emit_bind, clean_behind, List.forall_mem_singleton]

end EventLog
