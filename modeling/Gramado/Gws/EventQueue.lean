import Gramado.Lib.Run
import Gramado.Lib.RingFifo
import Gramado.Gws.Window

/-!
# The event queue of a window

`on_mouse_event` and `on_update_window` in `adam/gram3d/demo00/wm.c` put an event behind the tail of
the queue of the window with focus; `serviceNextEvent` in `main.c` takes the one at the head.  The
queue should be first in, first out, and lose nothing.  But the writers do not look at the head, so
that the 33rd event overwrites the oldest, and the reader does not look at the tail, so that a request
at an empty queue moves the head past the next event.

The window keeps the focus: `keyboard_owner` points at it all the time.

* `Lossless` — the client gets the oldest pending event, and the ring holds the pending events.
* `EventOk` — when a step keeps it; `eventQueue_run` is about whole runs.
-/

namespace Gramado.Gws

open StepRun

/-! ## The code -/

/-- `get_focus`, for the window that `keyboard_owner` points at. -/
def getFocus (w : GwsWindow) : Option GwsWindow :=
  if w.used ≠ TRUE then none
  else if w.magic ≠ 1234 then none
  else some w

/-- The type of a mouse event. -/
inductive MouseMsg where
  | move
  | pressed
  | released
  deriving DecidableEq

/-- `GWS_MouseMove`, `GWS_MousePressed`, `GWS_MouseReleased`. -/
def MouseMsg.code : MouseMsg → ℤ
  | .move => 32
  | .pressed => 35
  | .released => 36

/-- `GWS_Paint`. -/
def GWS_Paint : ℤ := 8

/-- `value & 0xFFFFFFFF`, as `unsigned long`. -/
def low32 (value : ℤ) : ℕ := (value % 2 ^ 32).toNat

/-- The entry at the tail is written, and the tail goes on. -/
def GwsWindow.post (w : GwsWindow) (e : QueuedEvent) : GwsWindow :=
  { w with
    ev := Function.update w.ev w.evTail e
    evTail := if w.evTail + 1 ≥ 32 then 0 else w.evTail + 1 }

/-- The mouse is over the window. -/
def GwsWindow.Contains (w : GwsWindow) (x y : ℤ) : Prop :=
  (toUlong x ≥ w.absoluteX ∧ toUlong x ≤ w.right) ∧ toUlong y ≥ w.absoluteY ∧ toUlong y ≤ w.bottom

instance (w : GwsWindow) (x y : ℤ) : Decidable (w.Contains x y) := inferInstanceAs (Decidable (_ ∧ _))

/-- The event that `on_mouse_event` posts. -/
def GwsWindow.mouseEvent (w : GwsWindow) (eventType x y : ℤ) : QueuedEvent where
  wid := low32 w.id
  msg := low32 eventType
  long1 := ulongSub (toUlong x) w.absoluteX
  long2 := ulongSub (toUlong y) w.absoluteY

/-- The event that `on_update_window` posts. -/
def GwsWindow.updateEvent (w : GwsWindow) (eventType : ℤ) : QueuedEvent where
  wid := low32 w.id
  msg := low32 eventType
  long1 := 0
  long2 := 0

/-- `on_mouse_event`. -/
def onMouseEvent (w : GwsWindow) (eventType x y : ℤ) : GwsWindow :=
  if eventType < 0 then w
  else
    match getFocus w with
    | none => w
    | some w => if w.Contains x y then w.post (w.mouseEvent eventType x y) else w

/-- `on_update_window`. -/
def onUpdateWindow (w : GwsWindow) (eventType : ℤ) : GwsWindow :=
  if eventType < 0 then w
  else
    match getFocus w with
    | none => w
    | some w => if w.magic ≠ 1234 then w else w.post (w.updateEvent eventType)

/-- The first entries of `next_response` that `serviceNextEvent` fills. -/
def eventPacket (e : QueuedEvent) (r : Response) : Response := fun i =>
  match i with
  | 0 => 0
  | 1 => SERVER_PACKET_TYPE_EVENT
  | 2 => 1234
  | 3 => 5678
  | 4 => e.wid
  | 5 => e.msg
  | 6 => e.long1
  | 7 => e.long2
  | i => r i

/-- `serviceNextEvent`: the return value, the window, and `next_response`. -/
def serviceNextEvent (w : GwsWindow) (r : Response) : ℤ × GwsWindow × Response :=
  match getFocus w with
  | none => (-1, w, r)
  | some w =>
      if w.magic ≠ 1234 then (-1, w, r)
      else
        let head := w.evHead
        let r := eventPacket (w.ev head) r
        let w := { w with evHead := if w.evHead + 1 ≥ 32 then 0 else w.evHead + 1 }
        (0, { w with ev := Function.update w.ev head .none }, r)

/-! ## Runs -/

/-- What happens to the window. -/
inductive EventStep where
  | mouse (msg : MouseMsg) (x y : ℤ)
  | paint
  | nextEvent

/-- The window, and the events that were posted to it and not delivered yet. -/
structure EventTrace where
  window : GwsWindow
  pending : List QueuedEvent

/-- The event that a step posts. -/
def EventTrace.posted (s : EventTrace) : EventStep → List QueuedEvent
  | .mouse msg x y => if s.window.Contains x y then [s.window.mouseEvent msg.code x y] else []
  | .paint => [s.window.updateEvent GWS_Paint]
  | .nextEvent => []

/-- The window after a step. -/
def EventTrace.act (s : EventTrace) : EventStep → GwsWindow
  | .mouse msg x y => onMouseEvent s.window msg.code x y
  | .paint => onUpdateWindow s.window GWS_Paint
  | .nextEvent => (serviceNextEvent s.window fun _ => 0).2.1

/-- The pending events after a step. -/
def EventTrace.rest (s : EventTrace) : EventStep → List QueuedEvent
  | .nextEvent => s.pending.tail
  | e => s.pending ++ s.posted e

/-- One step. -/
def eventStep (s : EventTrace) (e : EventStep) : Except Fault EventTrace :=
  .ok { window := s.act e, pending := s.rest e }

/-- What the client gets if it asks now: the event in the answer, if there is an answer. -/
def EventTrace.answer (s : EventTrace) : Option QueuedEvent :=
  let (ret, _, r) := serviceNextEvent s.window fun _ => 0
  if ret < 0 then none else some ⟨r 4, r 5, r 6, r 7⟩

/-- The events that the client gets: an entry without a type is no event. -/
def EventTrace.delivered (s : EventTrace) : EventStep → List QueuedEvent
  | .nextEvent => s.answer.toList.filter fun e => e.msg ≠ 0
  | _ => []

/-! ## What should hold -/

/-- **A lossless queue**: a request is answered with the oldest pending event, or with no event; the
ring holds the pending events, with nothing overwritten, and the next one goes behind them. -/
structure EventTrace.Lossless (s : EventTrace) : Prop where
  answers : s.answer = some (s.pending.headD .none)
  holds : Ring.Holds 32 .none s.window.ev s.window.evHead s.window.evTail s.pending

/-- **When a step keeps it**: a request finds an event, and an event finds room. -/
def EventOk (s : EventTrace) (e : EventStep) : Prop :=
  match e with
  | .nextEvent => s.pending ≠ []
  | e => s.posted e ≠ [] → s.pending.length < 32

/-- The window is alive. -/
structure EventTrace.Alive (s : EventTrace) : Prop where
  used : s.window.used = TRUE
  magic : s.window.magic = 1234

section

variable {s s' : EventTrace}

lemma EventTrace.Alive.getFocus (h : s.Alive) : getFocus s.window = some s.window := by
  rw [Gws.getFocus, if_neg (not_not.2 h.used), if_neg (not_not.2 h.magic)]

/-- What a request does. -/
lemma serviceNextEvent_eq (h : s.Alive) (r : Response) :
    serviceNextEvent s.window r =
      (0, { s.window with
            ev := Function.update s.window.ev s.window.evHead .none
            evHead := Ring.next 32 s.window.evHead },
        eventPacket (s.window.ev s.window.evHead) r) := by
  rw [serviceNextEvent, h.getFocus]
  dsimp only
  rw [if_neg (not_not.2 h.magic)]
  rfl

lemma answer_eq (h : s.Alive) : s.answer = some (s.window.ev s.window.evHead) := by
  rw [EventTrace.answer, serviceNextEvent_eq h]
  rfl

/-- A request keeps to the ring, so that the answer is right whenever the ring is. -/
lemma lossless_iff (h : s.Alive) :
    s.Lossless ↔ Ring.Holds 32 .none s.window.ev s.window.evHead s.window.evTail s.pending := by
  refine ⟨fun hs => hs.holds, fun hs => ⟨?_, hs⟩⟩
  rw [answer_eq h, hs.front]

/-- What a post does. -/
lemma act_post (h : s.Alive) {e : EventStep} {x : QueuedEvent} (he : s.posted e = [x]) :
    s.act e = s.window.post x := by
  cases e with
  | mouse msg x y =>
      have hcode : ¬msg.code < 0 := by cases msg <;> decide
      rw [EventTrace.act, onMouseEvent, if_neg hcode, h.getFocus]
      rw [EventTrace.posted] at he
      split_ifs at he with hin
      dsimp only
      rw [if_pos hin, List.singleton_inj.1 he]
  | paint =>
      have hcode : ¬GWS_Paint < 0 := by decide
      rw [EventTrace.act, onUpdateWindow, if_neg hcode, h.getFocus]
      dsimp only
      rw [if_neg (not_not.2 h.magic), ← List.singleton_inj.1 he]
  | nextEvent => cases he

/-- A mouse that is not over the window does nothing. -/
lemma act_outside (h : s.Alive) {e : EventStep} (he : s.posted e = []) (hne : e ≠ .nextEvent) :
    s.act e = s.window := by
  cases e with
  | mouse msg x y =>
      have hcode : ¬msg.code < 0 := by cases msg <;> decide
      rw [EventTrace.act, onMouseEvent, if_neg hcode, h.getFocus]
      rw [EventTrace.posted] at he
      split_ifs at he with hin
      exact if_neg hin
  | paint => cases he
  | nextEvent => exact absurd rfl hne

lemma posted_cases (s : EventTrace) (e : EventStep) :
    s.posted e = [] ∨ ∃ x, s.posted e = [x] := by
  cases e with
  | mouse msg x y =>
      rw [EventTrace.posted]
      split_ifs
      · exact .inr ⟨_, rfl⟩
      · exact .inl rfl
  | paint => exact .inr ⟨_, rfl⟩
  | nextEvent => exact .inl rfl

/-- **One step.** -/
lemma eventStep_lossless (h : s.Alive) (hs : s.Lossless) (e : EventStep)
    (hstep : eventStep s e = .ok s') : (s'.Lossless ↔ EventOk s e) ∧ s'.Alive := by
  cases hstep
  have hholds := hs.holds
  by_cases hask : e = .nextEvent
  · subst hask
    have hact : s.act .nextEvent = { s.window with
        ev := Function.update s.window.ev s.window.evHead .none
        evHead := Ring.next 32 s.window.evHead } := by
      rw [EventTrace.act, serviceNextEvent_eq h]
    have halive : EventTrace.Alive ⟨s.act .nextEvent, s.rest .nextEvent⟩ := by
      rw [hact]
      exact ⟨h.used, h.magic⟩
    refine ⟨(lossless_iff halive).trans ?_, halive⟩
    rw [hact]
    exact hholds.poll_iff (by decide)
  · have hrest : s.rest e = s.pending ++ s.posted e := by
      cases e with
      | nextEvent => exact absurd rfl hask
      | mouse | paint => rfl
    have hok : EventOk s e ↔ (s.posted e ≠ [] → s.pending.length < 32) := by
      cases e with
      | nextEvent => exact absurd rfl hask
      | mouse | paint => rfl
    rw [hrest, hok]
    obtain hnone | ⟨x, hx⟩ := posted_cases s e
    · rw [act_outside h hnone hask, hnone, List.append_nil]
      exact ⟨iff_of_true hs fun hne => absurd rfl hne, h⟩
    · rw [act_post h hx, hx]
      have halive : EventTrace.Alive ⟨s.window.post x, s.pending ++ [x]⟩ := ⟨h.used, h.magic⟩
      refine ⟨(lossless_iff halive).trans ?_, halive⟩
      refine (hholds.put_iff x).trans ⟨fun hroom _ => hroom, fun hroom => hroom ?_⟩
      exact List.cons_ne_nil _ _

/-- A posted event has a type. -/
lemma posted_msg {e : EventStep} {x : QueuedEvent} (hx : x ∈ s.posted e) : x.msg ≠ 0 := by
  cases e with
  | mouse msg x y =>
      rw [EventTrace.posted] at hx
      split_ifs at hx
      · rw [List.mem_singleton.1 hx]
        cases msg <;> exact Nat.succ_ne_zero _
      · cases hx
  | paint =>
      rw [List.mem_singleton.1 hx]
      exact Nat.succ_ne_zero _
  | nextEvent => cases hx

/-- Pending events have a type. -/
def EventTrace.Typed (s : EventTrace) : Prop := ∀ e ∈ s.pending, e.msg ≠ 0

/-- **What one step passes on**: posted events go to the back, and the client gets the front. -/
lemma eventStep_passes (h : s.Alive) (hs : s.Lossless) (htyped : s.Typed) (e : EventStep)
    (hstep : eventStep s e = .ok s') :
    s.pending ++ s.posted e = s.delivered e ++ s'.pending ∧ s'.Typed := by
  cases hstep
  cases e with
  | nextEvent =>
      have hanswer := hs.answers
      refine ⟨?_, fun x hx => htyped x (List.mem_of_mem_tail hx)⟩
      rw [EventTrace.delivered, hanswer]
      change s.pending ++ [] = _ ++ s.pending.tail
      rw [List.append_nil]
      cases hpending : s.pending with
      | nil => rfl
      | cons x xs =>
          have hx : x.msg ≠ 0 := htyped x (by rw [hpending]; exact List.mem_cons_self)
          simp [hx]
  | mouse | paint =>
      refine ⟨rfl, fun x hx => ?_⟩
      rcases List.mem_append.1 hx with hx | hx
      · exact htyped x hx
      · exact posted_msg hx

/-- **The event queue.**  Along every run the queue stays lossless exactly if each request finds an
event and each event finds room; and then the client gets the posted events, each once and in the
order of posting, up to those that are pending in the end. -/
theorem eventQueue_run (s : EventTrace) (es : List EventStep) (halive : s.Alive)
    (hs : s.Lossless) (htyped : s.Typed) :
    (Along eventStep EventTrace.Lossless s es ↔ Meets eventStep EventOk s es) ∧
      (Meets eventStep EventOk s es → ∀ t, runs eventStep s es = .ok t →
        s.pending ++ collect eventStep EventTrace.posted s es =
          collect eventStep EventTrace.delivered s es ++ t.pending) := by
  constructor
  · refine along_iff_meets (fun s => s.Alive ∧ s.Lossless) (fun s hs => hs.2)
      (fun s e s' hs hstep => (eventStep_lossless hs.1 hs.2 e hstep).1) ?_ es s ⟨halive, hs⟩
    intro s e s' hs hok hstep
    obtain ⟨hiff, halive'⟩ := eventStep_lossless hs.1 hs.2 e hstep
    exact ⟨halive', hiff.2 hok⟩
  · intro hmeets t hrun
    refine AlongSteps.conserved (hmeets.alongSteps (J := fun s => s.Alive ∧ s.Lossless ∧ s.Typed)
      ?_ ⟨halive, hs, htyped⟩) hrun
    rintro s e s' ⟨halive, hs, htyped⟩ hok hstep
    obtain ⟨hiff, halive'⟩ := eventStep_lossless halive hs e hstep
    obtain ⟨hpasses, htyped'⟩ := eventStep_passes halive hs htyped e hstep
    exact ⟨hpasses, halive', hiff.2 hok, htyped'⟩

end

/-! ## A window with an empty queue -/

/-- A window of 100 by 100 pixels at (10, 10), with nothing in its queue. -/
def freshWindow : GwsWindow where
  used := TRUE
  magic := 1234
  id := 7
  type := WT_OVERLAPPED
  style := 0
  active := FALSE
  focus := FALSE
  borderSize := 1
  parent := 0
  next := 0
  titlebar := 0
  left := 10
  top := 10
  width := 100
  height := 100
  absoluteX := 10
  absoluteY := 10
  right := 110
  bottom := 110
  rcClient := ⟨2, 2, 96, 64⟩
  ev := fun _ => .none
  evHead := 0
  evTail := 0

/-- Nothing was posted to it. -/
def freshTrace : EventTrace := ⟨freshWindow, []⟩

lemma freshTrace_alive : freshTrace.Alive := ⟨rfl, rfl⟩

lemma freshTrace_lossless : freshTrace.Lossless :=
  (lossless_iff freshTrace_alive).2 (Ring.Holds.empty (by decide) fun _ => rfl)

/-- A request at the empty queue, and then an event: the next request does not get it. -/
theorem eventQueue_run_fails :
    ¬∀ (s : EventTrace) (es : List EventStep), s.Alive → s.Lossless → s.Typed →
      Along eventStep EventTrace.Lossless s es := by
  intro h
  have hrun : (runs eventStep freshTrace [.nextEvent, .paint]).toOption.map
      (fun t => (t.answer, t.pending)) = some (some .none, [⟨7, 8, 0, 0⟩]) := by
    decide
  obtain ⟨t, hend, ht⟩ := runs_observed hrun
  have hlossless := (h freshTrace [.nextEvent, .paint] freshTrace_alive freshTrace_lossless
    nofun).final hend
  obtain ⟨hanswer, hpending⟩ := Prod.mk.inj ht
  have hfirst := hlossless.answers
  rw [hanswer, hpending] at hfirst
  exact absurd hfirst (by decide)

/-- The other way round it does. -/
theorem eventQueue_run_fresh :
    Along eventStep EventTrace.Lossless freshTrace [.paint, .mouse .pressed 50 60, .nextEvent] ∧
      ∀ t, runs eventStep freshTrace [.paint, .mouse .pressed 50 60, .nextEvent] = .ok t →
        [] ++ collect eventStep EventTrace.posted freshTrace
          [.paint, .mouse .pressed 50 60, .nextEvent] =
          collect eventStep EventTrace.delivered freshTrace
            [.paint, .mouse .pressed 50 60, .nextEvent] ++ t.pending := by
  have hmeets : Meets eventStep EventOk freshTrace [.paint, .mouse .pressed 50 60, .nextEvent] := by
    rintro s' h
    cases h
    refine ⟨fun _ => by decide, ?_⟩
    rintro s' h
    cases h
    refine ⟨fun _ => by decide, ?_⟩
    rintro s' h
    cases h
    exact ⟨nofun, trivial⟩
  have hrun := eventQueue_run freshTrace [.paint, .mouse .pressed 50 60, .nextEvent]
    freshTrace_alive freshTrace_lossless nofun
  exact ⟨hrun.1.2 hmeets, hrun.2 hmeets⟩

end Gramado.Gws
