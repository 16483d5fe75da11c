import Gramado.Lib.Run
import Gramado.Lib.RingFifo
import Gramado.Net.Stack

/-!
# The receive ring of the network card

`__e1000_on_receive` and `DeviceInterface_e1000` in `kres/dev/netdev/e1000/e1000hw.c`, and a card that
shares the ring with them: it fills the descriptors from its head register on, up to the tail register
and without it, as such a card does: with head and tail equal it owns none.

The handler looks at one cause of an interrupt only.  If the transmitter or the link has a cause as
well, the frames that were received wait in the ring.

* `ReceiveSound` — what should hold of a step.
* `CauseOk` — when it does; `receiveRing_run` is about whole runs.
-/

namespace Gramado

open StepRun

/-! ## The ring -/

/-- `RECEIVE_BUFFER_MAX`. -/
abbrev RECEIVE_BUFFER_MAX : ℕ := 32

/-- `struct legacy_rx_desc`: the length, and bit 0 of the status. -/
structure RxDesc where
  length : ℕ
  done : Bool

/-- Where the interrupt handler is. -/
inductive HandlerPc where
  | idle
  /-- Before the test of the status, in the loop of `__e1000_on_receive`. -/
  | looping
  /-- Before the call of `network_on_receiving` for a buffer and a length. -/
  | consuming (old length : ℕ)
  deriving DecidableEq

/-- The ring, the registers of the card, and the handler. -/
structure NicState where
  rxDescs : ℕ → RxDesc
  rxBuffers : ℕ → ℕ → UInt8
  rxCur : ℕ
  /-- The register 0x2810. -/
  head : ℕ
  /-- The register 0x2818. -/
  tail : ℕ
  /-- The frame that was stored at the head and is not complete yet. -/
  storing : Option (List UInt8)
  pc : HandlerPc
  /-- The frames that the card completed. -/
  written : List (List UInt8)
  /-- The frames that were handed to `network_on_receiving`. -/
  received : List (List UInt8)

/-- `__initialize_rx_support`: the addresses of the ring and of the buffers come from the allocator,
and what is in the buffers is left over from before. -/
def initializeRxSupport (ringPa : ℕ) (bufferPa : ℕ → ℕ) (old : ℕ → ℕ → UInt8) :
    Except Fault NicState :=
  if ringPa = 0 then
    .error (.panic "__e1000_reset_controller: [FAIL] d->rx_descs_phys\n")
  else if ∃ i < RECEIVE_BUFFER_MAX, bufferPa i = 0 then
    .error (.panic "__e1000_reset_controller: tmp_rxaddress_pa\n")
  else if ∃ i < RECEIVE_BUFFER_MAX, bufferPa i % 2 ^ 32 = 0 then
    .error (.panic "__e1000_reset_controller: [FAIL] d->legacy_rx_descs[i].addr\n")
  else
    .ok
      { rxDescs := fun _ => ⟨E1000_DEFAULT_BUFFER_SIZE, false⟩
        rxBuffers := old
        rxCur := 0
        head := 0
        tail := 31
        storing := none
        pc := .idle
        written := []
        received := [] }

variable (s : NicState)

/-! ## The card -/

/-- The card owns the descriptors from its head on, up to the tail. -/
def NicState.Owns (i : ℕ) : Prop :=
  Ring.offset RECEIVE_BUFFER_MAX s.head i < Ring.offset RECEIVE_BUFFER_MAX s.head s.tail

instance (i : ℕ) : Decidable (s.Owns i) := inferInstanceAs (Decidable (_ < _))

/-- The card stores a frame at its head, and the length. -/
def NicState.store (frame : List UInt8) : NicState :=
  if s.storing = none ∧ s.Owns s.head ∧ frame.length ≤ E1000_DEFAULT_BUFFER_SIZE then
    { s with
      rxBuffers := Function.update s.rxBuffers s.head (copyFront (s.rxBuffers s.head) frame)
      rxDescs := Function.update s.rxDescs s.head ⟨frame.length, (s.rxDescs s.head).done⟩
      storing := some frame }
  else s

/-- The card sets bit 0 of the status, and its head goes on. -/
def NicState.complete : NicState :=
  match s.storing with
  | none => s
  | some frame =>
      { s with
        rxDescs := Function.update s.rxDescs s.head ⟨(s.rxDescs s.head).length, true⟩
        head := Ring.next RECEIVE_BUFFER_MAX s.head
        storing := none
        written := s.written ++ [frame] }

/-! ## The driver -/

/-- The causes that the handler looks at before the receiver's: the transmitter has written back, its
queue is empty, the link has changed. -/
def CauseFirst (cause : ℕ) : Prop := cause &&& 1 ≠ 0 ∨ cause &&& 2 ≠ 0 ∨ cause &&& 4 ≠ 0

/-- The cause includes receive. -/
def CauseReceive (cause : ℕ) : Prop := cause &&& 0x80 ≠ 0

instance (cause : ℕ) : Decidable (CauseFirst cause) := inferInstanceAs (Decidable (_ ∨ _ ∨ _))

instance (cause : ℕ) : Decidable (CauseReceive cause) := inferInstanceAs (Decidable (_ ≠ _))

/-- `DeviceInterface_e1000`, up to the call of `__e1000_on_receive`. -/
def deviceInterface (cause : ℕ) : HandlerPc :=
  if cause = 0 then .idle
  else if cause &&& 1 ≠ 0 then .idle
  else if cause &&& 2 ≠ 0 then .idle
  else if cause &&& 4 ≠ 0 then .idle
  else if cause &&& 0x80 ≠ 0 then .looping
  else .idle

/-- One turn of the loop, up to the call of `network_on_receiving`. -/
def takeDescriptor : Except Fault NicState :=
  let old := s.rxCur
  let length := (s.rxDescs old).length
  if (s.rxDescs old).done = false then .ok { s with pc := .idle }
  else if old ≥ RECEIVE_BUFFER_MAX then .error (.panic "__e1000_on_receive: [receive] old\n")
  else if length > E1000_DEFAULT_BUFFER_SIZE then
    .error (.panic "__e1000_on_receive: frame_lenght\n")
  else
    .ok
      { s with
        rxCur := (s.rxCur + 1) % RECEIVE_BUFFER_MAX
        rxDescs := Function.update s.rxDescs old ⟨length, false⟩
        tail := old
        pc := .consuming old length }

/-- The handler goes on by one step. -/
def NicState.handle : Except Fault NicState :=
  match s.pc with
  | .idle => .ok s
  | .looping => takeDescriptor s
  | .consuming old length =>
      .ok { s with received := s.received ++ [bytesOf (s.rxBuffers old) length], pc := .looping }

/-- What happens at the ring. -/
inductive NicEvent where
  | store (frame : List UInt8)
  | complete
  /-- The handler is called, and reads these causes.  It does not interrupt itself. -/
  | interrupt (cause : ℕ)
  | handle

/-- One step. -/
def nicStep (s : NicState) : NicEvent → Except Fault NicState
  | .store frame => .ok (s.store frame)
  | .complete => .ok s.complete
  | .interrupt cause =>
      if s.pc = .idle then .ok { s with pc := deviceInterface cause } else .ok s
  | .handle => s.handle

/-! ## What should hold -/

/-- No descriptor is complete. -/
def NicState.Drained : Prop := ∀ i < RECEIVE_BUFFER_MAX, (s.rxDescs i).done = false

instance : Decidable s.Drained := inferInstanceAs (Decidable (∀ i < _, _))

/-- A run of the handler ends whose cause included receive. -/
def EndsReceive (e : NicEvent) (s' : NicState) : Prop :=
  s'.pc = .idle ∧ (s.pc ≠ .idle ∨ ∃ cause, e = .interrupt cause ∧ CauseReceive cause)

/-- **What should hold of a step**: what was received is what was written so far, in order; the card
does not own the buffer that is read; and at the end of a run of the handler nothing is left. -/
structure ReceiveSound (e : NicEvent) (s' : NicState) : Prop where
  order : s'.received <+: s'.written
  buffer : ∀ old length, s'.pc = .consuming old length → ¬s'.Owns old
  drained : EndsReceive s e s' → s'.Drained ∧ s'.received = s'.written

/-- The step does not miss received frames: no cause comes before the receiver's. -/
def CauseOk : NicEvent → Prop
  | .interrupt cause => s.pc = .idle → CauseReceive cause → CauseFirst cause → s.Drained
  | _ => True


/-! ## The invariant -/

/-- What is complete in the ring. -/
def NicState.slots (i : ℕ) : Option (List UInt8) :=
  if (s.rxDescs i).done then some (bytesOf (s.rxBuffers i) (s.rxDescs i).length) else none

/-- The frame that the handler has taken and not handed on yet. -/
def NicState.inHand : List (List UInt8) :=
  match s.pc with
  | .consuming old length => [bytesOf (s.rxBuffers old) length]
  | _ => []

/-- The ring is shared properly, with `pending` in it: the frames wait in order from `rx_cur` to the
head, the tail is the slot behind `rx_cur`, and the handler reads no buffer but that one. -/
structure Shares (pending : List (List UInt8)) : Prop where
  queue : Ring.Holds RECEIVE_BUFFER_MAX none s.slots s.rxCur s.head (pending.map some)
  below : pending.length < RECEIVE_BUFFER_MAX
  tail_lt : s.tail < RECEIVE_BUFFER_MAX
  behind : s.rxCur = Ring.next RECEIVE_BUFFER_MAX s.tail
  frames : s.written = s.received ++ s.inHand ++ pending
  lengths : ∀ i, (s.rxDescs i).length ≤ E1000_DEFAULT_BUFFER_SIZE
  storing : ∀ frame, s.storing = some frame →
    s.Owns s.head ∧ bytesOf (s.rxBuffers s.head) (s.rxDescs s.head).length = frame
  reading : ∀ old length, s.pc = .consuming old length → old = s.tail

variable {s} {s' : NicState} {pending : List (List UInt8)}

/-- The first look at the causes leads to the loop or to the end. -/
lemma deviceInterface_or (cause : ℕ) :
    deviceInterface cause = .idle ∨ deviceInterface cause = .looping := by
  rw [deviceInterface]
  split_ifs <;> simp

lemma deviceInterface_first {cause : ℕ} (hfirst : CauseFirst cause) :
    deviceInterface cause = .idle := by
  rw [deviceInterface]
  rcases hfirst with h | h | h <;> split_ifs <;> rfl

lemma first_of_idle {cause : ℕ} (hidle : deviceInterface cause = .idle)
    (hreceive : CauseReceive cause) : CauseFirst cause := by
  rw [deviceInterface] at hidle
  split_ifs at hidle with hzero hdone hempty hlink hrx
  · rw [CauseReceive, hzero] at hreceive
    exact absurd (Nat.zero_and _) hreceive
  · exact .inl hdone
  · exact .inr (.inl hempty)
  · exact .inr (.inr hlink)
  · exact absurd hreceive hrx

namespace Shares

/-- The card owns its head if there is room. -/
lemma owns_head_iff (h : Shares s pending) : s.Owns s.head ↔ pending.length < 31 := by
  have hnext := h.queue.next
  have hbelow := h.below
  have htail := h.tail_lt
  rw [h.behind, List.length_map] at hnext
  simp only [NicState.Owns, Ring.offset, Ring.index, Ring.next, RECEIVE_BUFFER_MAX] at *
  split_ifs at * <;> omega

/-- A head that the card owns is not the tail. -/
lemma head_ne_tail (hown : s.Owns s.head) : s.head ≠ s.tail := by
  intro heq
  rw [NicState.Owns, ← heq] at hown
  exact lt_irrefl _ hown

/-- The descriptor at the head is not complete. -/
lemma head_empty (h : Shares s pending) : (s.rxDescs s.head).done = false := by
  have hslot := h.queue.content pending.length h.below
  have hnext := h.queue.next
  rw [List.length_map] at hnext
  rw [← hnext, List.getD_eq_default _ _ (by rw [List.length_map]), NicState.slots] at hslot
  by_contra hdone
  rw [if_pos (by simpa using hdone)] at hslot
  exact absurd hslot (Option.some_ne_none _)

/-- What is in hand does not lie at a head that the card owns. -/
lemma inHand_congr (h : Shares s pending) (hown : s.Owns s.head) (hpc : s'.pc = s.pc)
    (hbuffers : ∀ i ≠ s.head, s'.rxBuffers i = s.rxBuffers i) : s'.inHand = s.inHand := by
  rw [NicState.inHand, NicState.inHand, hpc]
  cases hread : s.pc with
  | idle => rfl
  | looping => rfl
  | consuming old length =>
      have hold := h.reading old length hread
      show [bytesOf (s'.rxBuffers old) length] = [bytesOf (s.rxBuffers old) length]
      rw [hbuffers old (hold ▸ (head_ne_tail hown).symm)]

/-- The card owns nothing that is read. -/
lemma not_owns_reading (h : Shares s pending) {old length : ℕ} (hpc : s.pc = .consuming old length) :
    ¬s.Owns old := by
  rw [h.reading old length hpc]
  exact lt_irrefl _

/-- A ring is drained if nothing waits in it. -/
lemma drained_iff (h : Shares s pending) : s.Drained ↔ pending = [] := by
  have hslots : ∀ i, s.slots i = none ↔ (s.rxDescs i).done = false := by
    intro i
    simp [NicState.slots]
  constructor
  · intro hdrained
    have hfirst := h.queue.front
    rw [(hslots _).2 (hdrained _ h.queue.head_lt)] at hfirst
    cases pending with
    | nil => rfl
    | cons frame pending => exact absurd hfirst.symm (Option.some_ne_none _)
  · rintro rfl i hi
    have hrx := h.queue.head_lt
    have hslot := h.queue.content _ (Ring.offset_lt hrx hi)
    rw [Ring.index_offset hrx hi] at hslot
    exact (hslots i).1 (by simpa using hslot)

/-- A ring whose next descriptor is not complete is drained. -/
lemma nil_of_not_done (h : Shares s pending) (hdone : (s.rxDescs s.rxCur).done = false) :
    pending = [] := by
  have hfirst := h.queue.front
  rw [NicState.slots, if_neg (by simpa using hdone)] at hfirst
  cases pending with
  | nil => rfl
  | cons frame pending => exact absurd hfirst.symm (Option.some_ne_none _)

/-- What was received is what was written so far. -/
lemma order (h : Shares s pending) : s.received <+: s.written :=
  ⟨s.inHand ++ pending, by rw [h.frames, List.append_assoc]⟩

/-! ## One step -/

/-- A change of the handler's place that has nothing in hand. -/
lemma setPc (h : Shares s pending) (hhand : s.inHand = []) {pc : HandlerPc}
    (hpc : pc = .idle ∨ pc = .looping) : Shares { s with pc := pc } pending where
  queue := h.queue
  below := h.below
  tail_lt := h.tail_lt
  behind := h.behind
  frames := by
    have hnone : NicState.inHand { s with pc := pc } = [] := by
      rcases hpc with rfl | rfl <;> rfl
    rw [hnone, h.frames, hhand]
  lengths := h.lengths
  storing := h.storing
  reading := by
    rintro old length hread
    rcases hpc with rfl | rfl <;> exact absurd hread (by simp)

/-- The card stores a frame. -/
lemma store (h : Shares s pending) (frame : List UInt8) : Shares (s.store frame) pending := by
  rw [NicState.store]
  split_ifs with hroom
  swap
  · exact h
  obtain ⟨-, hown, hlength⟩ := hroom
  have hempty := h.head_empty
  refine ⟨?_, h.below, h.tail_lt, h.behind, ?_, fun i => ?_, ?_, h.reading⟩
  · refine Eq.mp (congrArg (fun slots => Ring.Holds _ none slots _ _ _) (funext fun i => ?_)) h.queue
    by_cases hi : i = s.head
    · subst hi
      simp [NicState.slots, hempty]
    · simp [NicState.slots, Function.update_of_ne hi]
  · refine h.frames.trans (congrArg (fun hand => s.received ++ hand ++ pending) (Eq.symm ?_))
    exact h.inHand_congr hown rfl fun i hi => Function.update_of_ne hi _ _
  · by_cases hi : i = s.head
    · subst hi
      simpa using hlength
    · simpa [Function.update_of_ne hi] using h.lengths i
  · rintro stored ⟨⟩
    exact ⟨hown, by simp [bytesOf_copyFront]⟩

/-- The card completes a frame. -/
lemma complete (h : Shares s pending) : ∃ pending', Shares s.complete pending' := by
  rw [NicState.complete]
  cases hstoring : s.storing with
  | none => exact ⟨pending, h⟩
  | some frame =>
      dsimp only
      obtain ⟨hown, hframe⟩ := h.storing frame hstoring
      have hroom := h.owns_head_iff.1 hown
      refine ⟨pending ++ [frame], ?_, by simpa using Nat.succ_lt_succ hroom, h.tail_lt, h.behind, ?_,
        fun i => ?_, fun stored hstored => ?_, h.reading⟩
      · rw [List.map_append, List.map_singleton]
        refine Eq.mp (congrArg (fun slots => Ring.Holds _ none slots _ _ _) (funext fun i => ?_))
          ((h.queue.put_iff (some frame)).2 (by simpa using h.below))
        by_cases hi : i = s.head
        · subst hi
          simp [NicState.slots, hframe]
        · simp [NicState.slots, Function.update_of_ne hi]
      · refine Eq.trans ?_ (congrArg (fun hand => s.received ++ hand ++ (pending ++ [frame]))
          (Eq.symm (h.inHand_congr hown rfl fun i _ => rfl)))
        show s.written ++ [frame] = _
        rw [h.frames, List.append_assoc _ pending]
      · by_cases hi : i = s.head
        · subst hi
          simpa using h.lengths s.head
        · simpa [Function.update_of_ne hi] using h.lengths i
      · exact absurd hstored (by simp)

/-- The handler takes the first frame that waits, or ends. -/
lemma takeDescriptor (h : Shares s pending) (hhand : s.inHand = []) :
    ∃ s', Gramado.takeDescriptor s = .ok s' ∧ (∃ pending', Shares s' pending') ∧
      (s'.pc = .idle → pending = [] ∧ s' = { s with pc := .idle }) := by
  rw [Gramado.takeDescriptor]
  by_cases hdone : (s.rxDescs s.rxCur).done = false
  · rw [if_pos hdone]
    exact ⟨_, rfl, ⟨pending, h.setPc hhand (.inl rfl)⟩, fun _ => ⟨h.nil_of_not_done hdone, rfl⟩⟩
  have hcur := h.queue.head_lt
  have hlength := h.lengths s.rxCur
  rw [if_neg hdone, if_neg (Nat.not_le.2 hcur), if_neg (Nat.not_lt.2 hlength)]
  refine ⟨_, rfl, ?_, fun hpc => absurd hpc (by simp)⟩
  have hfirst := h.queue.front
  rw [NicState.slots, if_pos (by simpa using hdone)] at hfirst
  have hnext : Ring.next RECEIVE_BUFFER_MAX s.rxCur = (s.rxCur + 1) % RECEIVE_BUFFER_MAX := by
    simp only [Ring.next, RECEIVE_BUFFER_MAX] at hcur ⊢
    split_ifs <;> omega
  cases pending with
  | nil => exact absurd hfirst (Option.some_ne_none _)
  | cons frame pending =>
      have hframe : bytesOf (s.rxBuffers s.rxCur) (s.rxDescs s.rxCur).length = frame := by
        simpa using hfirst
      have hbelow : pending.length + 1 < RECEIVE_BUFFER_MAX := by simpa using h.below
      have hhead : s.head ≠ s.rxCur := by
        rw [h.queue.next]
        simp only [Ring.index, List.length_map, List.length_cons]
        split_ifs <;> omega
      have hshared : Ring.Holds RECEIVE_BUFFER_MAX none
          (Function.update s.slots s.rxCur none) (Ring.next RECEIVE_BUFFER_MAX s.rxCur) s.head
          (pending.map some) :=
        (h.queue.poll_iff (by decide)).2 (by simp)
      rw [← hnext]
      refine ⟨pending, ?_, by omega, hcur, rfl, ?_, fun i => ?_, fun stored hstored => ?_, ?_⟩
      · refine Eq.mp (congrArg (fun slots => Ring.Holds _ none slots _ _ _) (funext fun i => ?_))
          hshared
        by_cases hi : i = s.rxCur
        · subst hi
          simp [NicState.slots]
        · simp [NicState.slots, Function.update_of_ne hi]
      · show s.written = s.received ++ [bytesOf _ _] ++ pending
        rw [h.frames, hhand, hframe, List.append_nil, List.append_assoc, List.singleton_append]
      · by_cases hi : i = s.rxCur
        · subst hi
          simpa using h.lengths s.rxCur
        · simpa [Function.update_of_ne hi] using h.lengths i
      · obtain ⟨-, hbytes⟩ := h.storing stored hstored
        refine ⟨?_, ?_⟩
        · have hheadLt := h.queue.tail_lt
          simp only [NicState.Owns, Ring.offset]
          split_ifs <;> omega
        · show bytesOf (s.rxBuffers s.head) (Function.update s.rxDescs s.rxCur _ s.head).length = _
          rw [Function.update_of_ne hhead, hbytes]
      · rintro old length ⟨⟩
        rfl

/-- The handler hands a frame on. -/
lemma consume (h : Shares s pending) {old length : ℕ} (hpc : s.pc = .consuming old length) :
    Shares { s with received := s.received ++ [bytesOf (s.rxBuffers old) length], pc := .looping }
      pending where
  queue := h.queue
  below := h.below
  tail_lt := h.tail_lt
  behind := h.behind
  frames := by
    have hhand : s.inHand = [bytesOf (s.rxBuffers old) length] := by rw [NicState.inHand, hpc]
    show s.written = s.received ++ [_] ++ [] ++ pending
    rw [h.frames, hhand, List.append_nil]
  lengths := h.lengths
  storing := h.storing
  reading := fun _ _ hread => absurd hread (by simp)

/-- One step does not panic, and the ring stays shared properly. -/
lemma step (h : Shares s pending) (e : NicEvent) :
    ∃ s', nicStep s e = .ok s' ∧ ∃ pending', Shares s' pending' := by
  cases e with
  | store frame => exact ⟨_, rfl, pending, h.store frame⟩
  | complete => exact ⟨_, rfl, h.complete⟩
  | interrupt cause =>
      simp only [nicStep]
      split_ifs with hidle
      · have hhand : s.inHand = [] := by rw [NicState.inHand, hidle]
        exact ⟨_, rfl, pending, h.setPc hhand (deviceInterface_or cause)⟩
      · exact ⟨s, rfl, pending, h⟩
  | handle =>
      cases hpc : s.pc with
      | idle => exact ⟨s, by rw [nicStep, NicState.handle, hpc], pending, h⟩
      | looping =>
          have hhand : s.inHand = [] := by rw [NicState.inHand, hpc]
          obtain ⟨s', hs, hshares, -⟩ := h.takeDescriptor hhand
          exact ⟨s', by rw [nicStep, NicState.handle, hpc]; exact hs, hshares⟩
      | consuming old length =>
          exact ⟨_, by rw [nicStep, NicState.handle, hpc], pending, h.consume hpc⟩

/-- Where nothing waits and nothing is in hand, the run of the handler was complete. -/
lemma drained_of_nil (h : Shares s []) (hhand : s.inHand = []) :
    s.Drained ∧ s.received = s.written := by
  refine ⟨h.drained_iff.2 rfl, ?_⟩
  rw [h.frames, hhand, List.append_nil, List.append_nil]

/-- A step of the handler that ends leaves nothing. -/
lemma handle_end (h : Shares s pending) (hs : nicStep s .handle = .ok s') (hend : s'.pc = .idle)
    (hwas : s.pc ≠ .idle) : s'.Drained ∧ s'.received = s'.written := by
  cases hpc : s.pc with
  | idle => exact absurd hpc hwas
  | looping =>
      have hhand : s.inHand = [] := by rw [NicState.inHand, hpc]
      obtain ⟨s₁, hs₁, -, hnil⟩ := h.takeDescriptor hhand
      rw [nicStep, NicState.handle, hpc] at hs
      obtain rfl : s₁ = s' := Except.ok.inj (hs₁.symm.trans hs)
      obtain ⟨rfl, hstate⟩ := hnil hend
      rw [hstate]
      exact (h.setPc hhand (.inl rfl)).drained_of_nil rfl
  | consuming old length =>
      rw [nicStep, NicState.handle, hpc] at hs
      cases hs
      exact absurd hend (by simp)

/-- **One step**: it is sound exactly if it does not miss received frames. -/
theorem receiveSound_iff (h : Shares s pending) {e : NicEvent} (hs : nicStep s e = .ok s') :
    ReceiveSound s e s' ↔ CauseOk s e := by
  obtain ⟨s₁, hs₁, pending', h'⟩ := h.step e
  obtain rfl : s₁ = s' := Except.ok.inj (hs₁.symm.trans hs)
  have hsound : ReceiveSound s e s₁ ↔ (EndsReceive s e s₁ → s₁.Drained ∧ s₁.received = s₁.written) :=
    ⟨fun hsound => hsound.drained, fun hdrained => ⟨h'.order, fun _ _ => h'.not_owns_reading, hdrained⟩⟩
  rw [hsound]
  cases e with
  | store frame =>
      refine iff_of_true ?_ trivial
      rintro ⟨hend, hwas | ⟨cause, heq, -⟩⟩
      · cases hs
        rw [NicState.store] at hend
        split_ifs at hend <;> exact absurd hend hwas
      · cases heq
  | complete =>
      refine iff_of_true ?_ trivial
      rintro ⟨hend, hwas | ⟨cause, heq, -⟩⟩
      · cases hs
        rw [NicState.complete] at hend
        split at hend <;> exact absurd hend hwas
      · cases heq
  | handle =>
      refine iff_of_true ?_ trivial
      rintro ⟨hend, hwas | ⟨cause, heq, -⟩⟩
      · exact h.handle_end hs hend hwas
      · cases heq
  | interrupt cause =>
      simp only [nicStep] at hs
      split_ifs at hs with hidle
      swap
      · cases hs
        exact iff_of_true (fun hend => absurd hend.1 hidle) fun hpc => absurd hpc hidle
      · have hhand : s.inHand = [] := by rw [NicState.inHand, hidle]
        cases hs
        constructor
        · intro hdrained _ hreceive hfirst
          exact (hdrained ⟨deviceInterface_first hfirst, .inr ⟨cause, rfl, hreceive⟩⟩).1
        · rintro hok ⟨hend, hwas | ⟨cause', heq, hreceive⟩⟩
          · exact absurd hidle hwas
          · cases heq
            have hdrained := hok hidle hreceive (first_of_idle hend hreceive)
            obtain rfl := h.drained_iff.1 hdrained
            refine drained_of_nil (h.setPc hhand (deviceInterface_or cause)) ?_
            show NicState.inHand { s with pc := deviceInterface cause } = []
            rw [NicState.inHand, hend]

end Shares

/-- The ring that `__initialize_rx_support` leaves is shared properly. -/
lemma initializeRxSupport_shares {ringPa : ℕ} {bufferPa : ℕ → ℕ} {old : ℕ → ℕ → UInt8}
    (h : initializeRxSupport ringPa bufferPa old = .ok s) : Shares s [] := by
  rw [initializeRxSupport] at h
  split_ifs at h
  cases h
  exact
    { queue := Ring.Holds.empty (Nat.zero_lt_succ 31) fun _ => rfl
      below := Nat.zero_lt_succ 31
      tail_lt := Nat.lt_succ_self 31
      behind := rfl
      frames := rfl
      lengths := fun _ => le_rfl
      storing := fun _ hstoring => absurd hstoring (by simp)
      reading := fun _ _ hread => absurd hread (by simp) }

/-! ## Whole runs -/

/-- **The receive ring**: from the state that `__initialize_rx_support` leaves, whatever the card and
the handler do and in whatever order, nothing panics; and every step is sound exactly if no interrupt
finds received frames behind another cause. -/
theorem receiveRing_run {ringPa : ℕ} {bufferPa : ℕ → ℕ} {old : ℕ → ℕ → UInt8} {s : NicState}
    (hinit : initializeRxSupport ringPa bufferPa old = .ok s) (es : List NicEvent) :
    (∃ t, runs nicStep s es = .ok t) ∧
      (AlongSteps nicStep ReceiveSound s es ↔ Meets nicStep CauseOk s es) := by
  have hstart : ∃ pending, Shares s pending := ⟨[], initializeRxSupport_shares hinit⟩
  constructor
  · refine runs_total_keep (J := fun s => ∃ pending, Shares s pending) ?_ es s hstart
    rintro s e ⟨pending, h⟩
    exact h.step e
  · refine alongSteps_iff_meets (fun s => ∃ pending, Shares s pending) ?_ ?_ es s hstart
    · rintro s e s' ⟨pending, h⟩ hs
      exact h.receiveSound_iff hs
    · rintro s e s' ⟨pending, h⟩ - hs
      obtain ⟨s₁, hs₁, h'⟩ := h.step e
      obtain rfl : s₁ = s' := Except.ok.inj (hs₁.symm.trans hs)
      exact h'

/-- The ring that the examples start from. -/
def freshNic : NicState where
  rxDescs := fun _ => ⟨E1000_DEFAULT_BUFFER_SIZE, false⟩
  rxBuffers := fun _ _ => 0
  rxCur := 0
  head := 0
  tail := 31
  storing := none
  pc := .idle
  written := []
  received := []

lemma initializeRxSupport_freshNic :
    initializeRxSupport 0x1000 (fun i => 0x10000 + 0x2000 * i) (fun _ _ => 0) = .ok freshNic := by
  rw [initializeRxSupport, if_neg (by decide), if_neg (by decide), if_neg (by decide)]
  rfl

/-- A frame and its interrupt, on a fresh ring. -/
theorem receiveRing_run_freshNic :
    (∃ t, runs nicStep freshNic
      [.store [1, 2, 3], .complete, .interrupt 0x80, .handle, .handle, .handle] = .ok t) ∧
      (AlongSteps nicStep ReceiveSound freshNic
          [.store [1, 2, 3], .complete, .interrupt 0x80, .handle, .handle, .handle] ↔
        Meets nicStep CauseOk freshNic
          [.store [1, 2, 3], .complete, .interrupt 0x80, .handle, .handle, .handle]) :=
  receiveRing_run initializeRxSupport_freshNic _

/-- A frame comes together with the end of a transmission: the handler sees the transmitter's cause
only, and the frame stays in the ring. -/
theorem receiveRing_run_fails :
    ¬∀ es, AlongSteps nicStep ReceiveSound freshNic es := by
  intro hall
  have hrun : ∀ e s', nicStep ((freshNic.store [1]).complete) e = .ok s' →
      ReceiveSound ((freshNic.store [1]).complete) e s' := fun e s' hs =>
    ((hall [.store [1], .complete, e]) _ rfl).2 _ rfl |>.2 s' hs |>.1
  have hsound := hrun (.interrupt 0x81) { (freshNic.store [1]).complete with pc := .idle } rfl
  have hdrained := (hsound.drained ⟨rfl, .inr ⟨0x81, rfl, by decide⟩⟩).1
  exact absurd (hdrained 0 (by decide)) (by decide)

end Gramado
