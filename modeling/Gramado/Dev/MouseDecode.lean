import Gramado.Dev.Mouse

/-!
# Decoding the packets of the mouse

What a stream of packets is to do to the pointer, and when the driver does that.

* `Pointer.moved` — the pointer behind one more packet: moved by the deltas, kept on the screen.
* `Decodes` — along a stream the driver has this pointer, and posts every button that changed once.
* `decodes_iff` — this is so if and only if every packet meets `PacketCondition`.
-/

namespace Gramado.Mouse

open StepRun

/-! ## Streams -/

/-- A byte of the mouse that the controller delivers, with the status that announces it. -/
structure Delivered where
  status : UInt8
  byte : UInt8
  full : status &&& I8042_BUFFER_FULL ≠ 0
  mouse : status &&& I8042_WHICH_BUFFER = I8042_MOUSE_BUFFER

/-- A packet of three bytes. -/
structure Packet where
  flags : Delivered
  deltaX : Delivered
  deltaY : Delivered
  first : flags.byte &&& MOUSE_FLAGS_ALWAYS_1 ≠ 0

/-- What comes when the first byte of a packet is due: a byte that cannot be one, or a packet. -/
inductive Input where
  | skipped (b : Delivered) (h : b.byte &&& MOUSE_FLAGS_ALWAYS_1 = 0)
  | packet (p : Packet)

/-- The bytes of an input. -/
def Input.bytes : Input → List Delivered
  | .skipped b _ => [b]
  | .packet p => [p.flags, p.deltaX, p.deltaY]

/-- One interrupt for one byte. -/
def interrupt (d : Device) (m : State) (b : Delivered) : Except String State :=
  deviceInterfacePS2Mouse d [(b.status, b.byte)] m

/-- The interrupts for an input. -/
def receive (d : Device) (m : State) (input : Input) : Except String State :=
  runs (interrupt d) m input.bytes

/-! ## What is to be decoded -/

/-- A signed number of nine bits. -/
def nineBits (byte : UInt8) (sign : Bool) : ℤ := byte.toNat - if sign then 256 else 0

namespace Packet

variable (p : Packet)

/-- The delta in the direction of x. -/
def dx : ℤ := nineBits p.deltaX.byte (p.flags.byte &&& 0x10 ≠ 0)

/-- The delta in the direction of y, upwards. -/
def dy : ℤ := nineBits p.deltaY.byte (p.flags.byte &&& 0x20 ≠ 0)

/-- A delta did not fit in nine bits. -/
def Overflow : Prop := p.flags.byte &&& 0x40 ≠ 0 ∨ p.flags.byte &&& 0x80 ≠ 0

instance : Decidable p.Overflow := inferInstanceAs (Decidable (_ ∨ _))

/-- The buttons that are down. -/
def buttons (i : Fin 3) : Bool := p.flags.byte &&& buttonMask i ≠ 0

end Packet

/-- The position, and the buttons of the last packet. -/
@[ext]
structure Pointer where
  x : ℤ
  y : ℤ
  buttons : Fin 3 → Bool

/-- The pointer of the driver. -/
def State.pointer (m : State) : Pointer := ⟨m.x, m.y, m.oldState⟩

/-- The nearest column or row of the screen. -/
def clamp (size : ℕ) (z : ℤ) : ℤ := max 0 (min z (size - 1))

/-- The pointer behind one more input.  A packet whose deltas did not fit says nothing. -/
def Pointer.moved (d : Device) (s : Pointer) : Input → Pointer
  | .skipped _ _ => s
  | .packet p =>
      if p.Overflow then s
      else
        { x := clamp d.deviceWidth (s.x + p.dx)
          y := clamp d.deviceHeight (s.y - p.dy)
          buttons := p.buttons }

/-- The events of the button `i`. -/
def buttonPosts (posts : List Post) (i : Fin 3) : List Post :=
  posts.filter fun q => (q.msg = MSG_MOUSEPRESSED ∨ q.msg = MSG_MOUSERELEASED) ∧ q.long1 = i.val + 1

/-- The event that a button is to have, if it changed. -/
def changePosts (s s' : Pointer) (i : Fin 3) : List Post :=
  if s'.buttons i = s.buttons i then []
  else [⟨if s'.buttons i then MSG_MOUSEPRESSED else MSG_MOUSERELEASED, i.val + 1, i.val + 1⟩]

/-- A step posts one event for each button that changed. -/
def PostsChanges (d : Device) (m : State) (input : Input) (m' : State) : Prop :=
  ∃ new, m'.posts = m.posts ++ new ∧
    ∀ i, buttonPosts new i = changePosts m.pointer (m.pointer.moved d input) i

/-- **The stream is decoded**: behind every part of it the driver has the pointer that it is to have and is ready
for a first byte, and every packet posts the buttons that changed. -/
structure Decodes (d : Device) (m : State) (inputs : List Input) : Prop where
  pointer : ∀ before, before <+: inputs → ∀ t, runs (receive d) m before = .ok t →
    t.pointer = before.foldl (Pointer.moved d) m.pointer
  framed : Along (receive d) (fun t => t.stage = 0) m inputs
  posts : AlongSteps (receive d) (PostsChanges d) m inputs

/-! ## The condition -/

/-- A number that fits in a signed variable of eight bits. -/
def EightBits (z : ℤ) : Prop := -128 ≤ z ∧ z ≤ 127

/-- A column or row of the screen that the mask leaves alone. -/
def OnScreen (size : ℕ) (z : ℤ) : Prop := 0 ≤ z ∧ z < size ∧ z < 0x400

/-- **A packet that is decoded.**  Its deltas have eight bits and stay on the screen, or are -256 and go beyond
the edge where the pointer is; and no two buttons change. -/
def PacketCondition (d : Device) (m : State) : Input → Prop
  | .skipped _ _ => True
  | .packet p =>
      p.Overflow ∨
        (EightBits p.dx ∧ OnScreen d.deviceWidth (m.x + p.dx) ∨ m.x = 0 ∧ p.dx = -256) ∧
          (EightBits p.dy ∧ OnScreen d.deviceHeight (m.y - p.dy) ∨
            m.y = d.deviceHeight - 1 ∧ p.dy = -256 ∧ d.deviceHeight ≤ 0x400) ∧
              ∀ i j, p.buttons i ≠ m.oldState i → p.buttons j ≠ m.oldState j → i = j

instance (z : ℤ) : Decidable (EightBits z) := inferInstanceAs (Decidable (_ ∧ _))

instance (size : ℕ) (z : ℤ) : Decidable (OnScreen size z) := inferInstanceAs (Decidable (_ ∧ _ ∧ _))

instance (d : Device) (m : State) : ∀ input, Decidable (PacketCondition d m input)
  | .skipped _ _ => inferInstanceAs (Decidable True)
  | .packet _ => inferInstanceAs (Decidable (_ ∨ _ ∧ _ ∧ _))

/-! ## The position -/

/-- The lower eight bits of a number, with their sign. -/
lemma bmod_small {z : ℤ} (hlo : -512 ≤ z) (hhi : z < 256) : z.bmod 256 =
    if z < -384 then z + 512 else if z < -128 then z + 256 else if z < 128 then z else z - 256 := by
  rw [Int.bmod_def]
  push_cast
  split_ifs <;> omega

/-- The variable for a delta has the lower eight bits of it. -/
lemma packetDelta_eq (byte : UInt8) (sign : Bool) : packetDelta byte sign = (nineBits byte sign).bmod 256 := by
  have hbyte := byte.toNat_lt
  have hlow : (byte.toNat : ℤ).bmod 256 = if (byte.toNat : ℤ) < 128 then (byte.toNat : ℤ) else byte.toNat - 256 := by
    rw [bmod_small (by omega) (by omega), if_neg (by omega), if_neg (by omega)]
  unfold packetDelta nineBits toChar
  cases sign with
  | false => simp
  | true =>
      simp only [and_true, if_true, hlow]
      by_cases hpos : (byte.toNat : ℤ) < 128
      · rw [if_pos hpos, bmod_small (by omega) (by omega), bmod_small (by omega) (by omega)]
        split_ifs <;> omega
      · rw [if_neg hpos, bmod_small (by omega) (by omega), bmod_small (by omega) (by omega)]
        split_ifs <;> omega

/-- The column that the driver has is the one that it is to have, or not. -/
lemma maskX_iff {size : ℕ} {x delta : ℤ} (hx : 0 ≤ x ∧ x < size) (hdelta : -256 ≤ delta ∧ delta ≤ 255) :
    (x + delta.bmod 256) % 0x400 = clamp size (x + delta) ↔
      EightBits delta ∧ OnScreen size (x + delta) ∨ x = 0 ∧ delta = -256 := by
  rw [bmod_small (by omega) (by omega)]
  simp only [EightBits, OnScreen, clamp]
  split_ifs <;> omega
/-- The same for the row. -/
lemma maskY_iff {size : ℕ} {y delta : ℤ} (hy : 0 ≤ y ∧ y < size) (hdelta : -256 ≤ delta ∧ delta ≤ 255) :
    (y - delta.bmod 256) % 0x400 = clamp size (y - delta) ↔
      EightBits delta ∧ OnScreen size (y - delta) ∨ y = size - 1 ∧ delta = -256 ∧ size ≤ 0x400 := by
  rw [bmod_small (by omega) (by omega)]
  simp only [EightBits, OnScreen, clamp]
  split_ifs <;> omega

lemma nineBits_range (byte : UInt8) (sign : Bool) : -256 ≤ nineBits byte sign ∧ nineBits byte sign ≤ 255 := by
  have hbyte := byte.toNat_lt
  cases sign <;> simp only [nineBits, if_true, Bool.false_eq_true, if_false] <;> omega

/-! ## The buttons -/

/-- The first button that changed. -/
def firstChanged (changed : Fin 3 → Bool) : Option (Fin 3) :=
  (List.finRange 3).find? changed

lemma firstChanged_eq (changed : Fin 3 → Bool) : firstChanged changed =
    if changed 0 then some 0 else if changed 1 then some 1 else if changed 2 then some 2 else none := by
  rw [firstChanged, show List.finRange 3 = [0, 1, 2] from rfl]
  simp only [List.find?_cons, List.find?_nil]
  cases changed 0 <;> cases changed 1 <;> cases changed 2 <;> rfl

/-- The first button that changed is the only one. -/
lemma firstChanged_iff : ∀ changed : Fin 3 → Bool,
    (∀ i, firstChanged changed = some i ↔ changed i) ↔ ∀ i j, changed i → changed j → i = j := by
  decide

/-- The event of a button. -/
def buttonPost (buttons : Fin 3 → Bool) (i : Fin 3) : Post :=
  ⟨if buttons i then MSG_MOUSEPRESSED else MSG_MOUSERELEASED, i.val + 1, i.val + 1⟩

lemma buttonPosts_buttonPost (buttons : Fin 3 → Bool) (i j : Fin 3) :
    buttonPosts [buttonPost buttons j] i = if j = i then [buttonPost buttons i] else [] := by
  have hmsg : (buttonPost buttons j).msg = MSG_MOUSEPRESSED ∨ (buttonPost buttons j).msg = MSG_MOUSERELEASED := by
    cases hb : buttons j <;> simp [buttonPost, hb]
  by_cases hij : j = i
  · subst hij
    simp [buttonPosts, hmsg]
    rfl
  · have hne : (buttonPost buttons j).long1 ≠ i.val + 1 := by
      simp only [buttonPost]
      omega
    simp [buttonPosts, hij, hne]

section Parse

variable {d : Device} {m : State} {p : Packet}

lemma buttonEvent_eq (hscreen : ¬(d.deviceWidth = 0 ∨ d.deviceHeight = 0)) (buttons : Fin 3 → Bool) (i : Fin 3) :
    buttonEvent d buttons i m = .ok (m.post (buttonPost buttons i)) := by
  have hmod : ((i.val : ℤ) + 1) % 0x10000 = i.val + 1 := by omega
  cases hb : buttons i <;>
    simp [buttonEvent, wmMouseEvent, buttonPost, hb, if_neg hscreen, hmod, MSG_MOUSEPRESSED, MSG_MOUSERELEASED,
      MSG_MOUSEMOVE]

/-- The state behind a packet, without the events. -/
def placed (m : State) (p : Packet) : State :=
  { m with
    x := (m.x + p.dx.bmod 256) % 0x400
    y := (m.y - p.dy.bmod 256) % 0x400
    oldState := p.buttons }

/-- The buttons that changed. -/
def changed (m : State) (p : Packet) (i : Fin 3) : Bool := p.buttons i != m.oldState i

/-- The packet is in the buffer. -/
structure InBuffer (m : State) (p : Packet) : Prop where
  flags : m.buffer 0 = p.flags.byte
  deltaX : m.buffer 1 = p.deltaX.byte
  deltaY : m.buffer 2 = p.deltaY.byte

/-- A packet with an overflow bit is dropped. -/
lemma parseDataPacket_overflow (h : InBuffer m p) (hoverflow : p.Overflow) : parseDataPacket d m = .ok m := by
  rw [Packet.Overflow, ← h.flags] at hoverflow
  rw [parseDataPacket, if_pos hoverflow]

/-- **A packet** is placed, and its event is the one of the first button that changed, or the move. -/
lemma parseDataPacket_spec (h : InBuffer m p) (hscreen : ¬(d.deviceWidth = 0 ∨ d.deviceHeight = 0))
    (hoverflow : ¬p.Overflow) :
    ∃ new, parseDataPacket d m = .ok { placed m p with posts := m.posts ++ new } ∧
      ∀ i, buttonPosts new i =
        if firstChanged (changed m p) = some i then [buttonPost p.buttons i] else [] := by
  have hoverflow' : ¬(m.buffer 0 &&& 0x40 ≠ 0 ∨ m.buffer 0 &&& 0x80 ≠ 0) := by
    rwa [h.flags]
  have hx : packetDelta (m.buffer 1) (m.buffer 0 &&& 0x10 ≠ 0) = p.dx.bmod 256 := by
    rw [h.flags, h.deltaX, packetDelta_eq]
    rfl
  have hy : packetDelta (m.buffer 2) (m.buffer 0 &&& 0x20 ≠ 0) = p.dy.bmod 256 := by
    rw [h.flags, h.deltaY, packetDelta_eq]
    rfl
  have hbuttons : ∀ i, decide (m.buffer 0 &&& buttonMask i ≠ 0) = p.buttons i := by
    rw [h.flags]
    exact fun i => rfl
  rw [parseDataPacket, if_neg hoverflow']
  simp only [hx, hy, hbuttons, buttonEvent_eq hscreen]
  -- the event of one button
  have hbutton : ∀ k, firstChanged (changed m p) = some k → ∀ i, buttonPosts [buttonPost p.buttons k] i =
      if firstChanged (changed m p) = some i then [buttonPost p.buttons i] else [] := by
    intro k hk i
    rw [buttonPosts_buttonPost, hk]
    simp only [Option.some.injEq]
  by_cases h0 : p.buttons 0 ≠ m.oldState 0
  · rw [if_pos h0]
    exact ⟨_, rfl, hbutton 0 (by simp [firstChanged_eq, changed, h0])⟩
  rw [if_neg h0]
  by_cases h1 : p.buttons 1 ≠ m.oldState 1
  · rw [if_pos h1]
    exact ⟨_, rfl, hbutton 1 (by simp [firstChanged_eq, changed, h0, h1])⟩
  rw [if_neg h1]
  by_cases h2 : p.buttons 2 ≠ m.oldState 2
  · rw [if_pos h2]
    exact ⟨_, rfl, hbutton 2 (by simp [firstChanged_eq, changed, h0, h1, h2])⟩
  rw [if_neg h2]
  have hnone : firstChanged (changed m p) = none := by
    simp [firstChanged_eq, changed, not_not.1 h0, not_not.1 h1, not_not.1 h2]
  simp only [hnone, reduceCtorEq, if_false]
  by_cases hmoved : m.x ≠ (placed m p).x ∨ m.y ≠ (placed m p).y
  · refine ⟨[⟨MSG_MOUSEMOVE, limited d.deviceWidth (placed m p).x, limited d.deviceHeight (placed m p).y⟩], ?_,
      fun i => ?_⟩
    · exact (if_pos hmoved).trans (if_neg hscreen)
    · simp [buttonPosts, MSG_MOUSEMOVE, MSG_MOUSEPRESSED, MSG_MOUSERELEASED]
  · refine ⟨[], ?_, fun i => rfl⟩
    rw [List.append_nil]
    exact if_neg hmoved

end Parse

/-! ## One input -/

section Receive

variable {d : Device} {m m' : State} {p : Packet} {b : Delivered} {input : Input}

/-- The driver takes packets of three bytes. -/
structure Ready (d : Device) : Prop where
  initialized : d.mouseInitialized = TRUE
  noWheel : d.hasWheel ≠ TRUE
  screen : ¬(d.deviceWidth = 0 ∨ d.deviceHeight = 0)

lemma interrupt_eq (hd : Ready d) : interrupt d m b = (mouseByte d b.byte m).map Prod.snd := by
  rw [interrupt, deviceInterfacePS2Mouse, if_neg (not_not.2 hd.initialized), readBytes, if_neg b.full,
    if_neg (not_not.2 b.mouse)]
  cases mouseByte d b.byte m with
  | error e => rfl
  | ok r =>
      obtain ⟨done, m'⟩ := r
      cases done <;> rfl

/-- A byte that cannot be the first one is dropped. -/
lemma receive_skipped (hd : Ready d) (hstage : m.stage = 0) (h : b.byte &&& MOUSE_FLAGS_ALWAYS_1 = 0) :
    receive d m (.skipped b h) = .ok { m with buffer := Function.update m.buffer 0 b.byte } := by
  have hbyte : interrupt d m b = .ok { m with buffer := Function.update m.buffer 0 b.byte, stage := 0 } := by
    rw [interrupt_eq hd, mouseByte, hstage]
    simp only [if_pos h]
    rfl
  show runs (interrupt d) m [b] = _
  rw [runs_cons_ok hbyte, runs_nil, ← hstage]

/-- The buffer of a packet. -/
def packetBuffer (buffer : ℕ → UInt8) (p : Packet) : ℕ → UInt8 :=
  Function.update (Function.update (Function.update buffer 0 p.flags.byte) 1 p.deltaX.byte) 2 p.deltaY.byte

/-- The third byte of a packet has it parsed. -/
lemma receive_packet (hd : Ready d) (hstage : m.stage = 0) :
    receive d m (.packet p) =
      (parseDataPacket d { m with buffer := packetBuffer m.buffer p, stage := 2 }).map
        fun m => { m with stage := 0 } := by
  have hfirst : interrupt d m p.flags =
      .ok { m with buffer := Function.update m.buffer 0 p.flags.byte, stage := 1 } := by
    rw [interrupt_eq hd, mouseByte, hstage]
    simp only [if_neg p.first]
    rfl
  have hsecond : ∀ m₁ : State, m₁.stage = 1 → interrupt d m₁ p.deltaX =
      .ok { m₁ with buffer := Function.update m₁.buffer 1 p.deltaX.byte, stage := 2 } := by
    intro m₁ h₁
    rw [interrupt_eq hd, mouseByte, h₁]
    rfl
  have hthird : ∀ m₂ : State, m₂.stage = 2 → interrupt d m₂ p.deltaY =
      (parseDataPacket d { m₂ with buffer := Function.update m₂.buffer 2 p.deltaY.byte, stage := 2 }).map
        fun m => { m with stage := 0 } := by
    intro m₂ h₂
    rw [interrupt_eq hd, mouseByte, h₂]
    simp only [if_neg hd.noWheel]
    cases parseDataPacket d { m₂ with
      buffer := Function.update m₂.buffer 2 p.deltaY.byte
      stage := 2 } <;> rfl
  show runs (interrupt d) m [p.flags, p.deltaX, p.deltaY] = _
  rw [runs_cons_ok hfirst, runs_cons_ok (hsecond _ rfl), runs_singleton, hthird _ rfl]
  rfl

/-- What an input does, as far as the claim about it goes. -/
structure Received (m : State) (input : Input) (m' : State) : Prop where
  framed : m'.stage = 0
  pointer : m'.pointer =
    match input with
    | .skipped _ _ => m.pointer
    | .packet p => if p.Overflow then m.pointer else (placed m p).pointer
  posts : ∃ new, m'.posts = m.posts ++ new ∧ ∀ i, buttonPosts new i =
    match input with
    | .skipped _ _ => []
    | .packet p =>
        if p.Overflow then []
        else if firstChanged (changed m p) = some i then [buttonPost p.buttons i] else []

/-- **The driver takes every input**, and is ready for the next one. -/
lemma receive_total (hd : Ready d) (hstage : m.stage = 0) (input : Input) :
    ∃ m', receive d m input = .ok m' ∧ Received m input m' := by
  cases input with
  | skipped b h =>
      exact ⟨_, receive_skipped hd hstage h, ⟨hstage, rfl, [], (List.append_nil _).symm, fun _ => rfl⟩⟩
  | packet p =>
      have hbuffer : InBuffer { m with buffer := packetBuffer m.buffer p, stage := 2 } p :=
        ⟨by simp [packetBuffer], by simp [packetBuffer], by simp [packetBuffer]⟩
      rw [receive_packet hd hstage]
      by_cases hoverflow : p.Overflow
      · rw [parseDataPacket_overflow hbuffer hoverflow]
        refine ⟨_, rfl, ⟨rfl, ?_, [], (List.append_nil _).symm, fun _ => ?_⟩⟩
        · simp only [if_pos hoverflow]
          rfl
        · simp only [if_pos hoverflow]
          rfl
      · obtain ⟨new, hparse, hnew⟩ := parseDataPacket_spec hbuffer hd.screen hoverflow
        rw [hparse]
        refine ⟨_, rfl, ⟨rfl, ?_, new, rfl, fun i => ?_⟩⟩
        · simp only [if_neg hoverflow]
          rfl
        · simp only [if_neg hoverflow]
          exact hnew i

end Receive

/-! ## The stream -/

section Stream

variable {d : Device} {m m' : State} {input : Input} {inputs : List Input}

/-- The driver is ready for a first byte, and the pointer is on the screen. -/
structure Aligned (d : Device) (m : State) : Prop where
  framed : m.stage = 0
  x : 0 ≤ m.x ∧ m.x < d.deviceWidth
  y : 0 ≤ m.y ∧ m.y < d.deviceHeight

/-- A step that is decoded. -/
def StepDecoded (d : Device) (m : State) (input : Input) (m' : State) : Prop :=
  (m'.pointer = m.pointer.moved d input ∧ m'.stage = 0) ∧ PostsChanges d m input m'

lemma decodes_iff_steps (hstage : m.stage = 0) :
    Decodes d m inputs ↔ AlongSteps (receive d) (StepDecoded d) m inputs := by
  rw [show StepDecoded d = fun m input m' =>
    (m'.pointer = m.pointer.moved d input ∧ m'.stage = 0) ∧ PostsChanges d m input m' from rfl,
    alongSteps_and, alongSteps_and, alongSteps_iff_foldl]
  constructor
  · rintro ⟨hpointer, hframed, hposts⟩
    exact ⟨⟨hpointer, (along_iff_alongSteps.1 hframed).2⟩, hposts⟩
  · rintro ⟨⟨hpointer, hframed⟩, hposts⟩
    exact ⟨hpointer, along_iff_alongSteps.2 ⟨hstage, hframed⟩, hposts⟩

/-- The pointer that a packet is to lead to. -/
lemma moved_packet {p : Packet} (hoverflow : ¬p.Overflow) (s : Pointer) :
    s.moved d (.packet p) =
      ⟨clamp d.deviceWidth (s.x + p.dx), clamp d.deviceHeight (s.y - p.dy), p.buttons⟩ := by
  rw [Pointer.moved, if_neg hoverflow]

/-- The pointer is the one that it is to be if both coordinates are. -/
lemma placed_pointer_iff {p : Packet} (hm : Aligned d m) (hoverflow : ¬p.Overflow) :
    (placed m p).pointer = m.pointer.moved d (.packet p) ↔
      (EightBits p.dx ∧ OnScreen d.deviceWidth (m.x + p.dx) ∨ m.x = 0 ∧ p.dx = -256) ∧
        (EightBits p.dy ∧ OnScreen d.deviceHeight (m.y - p.dy) ∨
          m.y = d.deviceHeight - 1 ∧ p.dy = -256 ∧ d.deviceHeight ≤ 0x400) := by
  have hdx : -256 ≤ p.dx ∧ p.dx ≤ 255 := nineBits_range ..
  have hdy : -256 ≤ p.dy ∧ p.dy ≤ 255 := nineBits_range ..
  rw [moved_packet hoverflow, ← maskX_iff hm.x hdx, ← maskY_iff hm.y hdy, Pointer.ext_iff]
  exact ⟨fun h => ⟨h.1, h.2.1⟩, fun h => ⟨h.1, h.2, rfl⟩⟩

/-- Every change has its event if only one button changed. -/
lemma postsChanges_iff {p : Packet} (hm' : Received m (.packet p) m') (hoverflow : ¬p.Overflow) :
    PostsChanges d m (.packet p) m' ↔
      ∀ i j, p.buttons i ≠ m.oldState i → p.buttons j ≠ m.oldState j → i = j := by
  obtain ⟨new, hposts, hnew⟩ := hm'.posts
  simp only [if_neg hoverflow] at hnew
  have hchange : ∀ i, changePosts m.pointer (m.pointer.moved d (.packet p)) i =
      if changed m p i then [buttonPost p.buttons i] else [] := by
    intro i
    rw [moved_packet hoverflow, changePosts]
    by_cases hi : p.buttons i = m.oldState i
    · simp [State.pointer, changed, hi]
    · simp [State.pointer, changed, hi, buttonPost]
  have honly : (∀ i, buttonPosts new i = changePosts m.pointer (m.pointer.moved d (.packet p)) i) ↔
      ∀ i j, changed m p i → changed m p j → i = j := by
    rw [← firstChanged_iff]
    refine forall_congr' fun i => ?_
    rw [hnew i, hchange i]
    by_cases hfirst : firstChanged (changed m p) = some i <;> cases hi : changed m p i <;> simp [hfirst]
  have hchanged : ∀ i, changed m p i = true ↔ p.buttons i ≠ m.oldState i := fun i => bne_iff_ne
  simp only [hchanged] at honly
  rw [← honly]
  constructor
  · rintro ⟨new', hposts', hnew'⟩
    obtain rfl : new = new' := List.append_cancel_left (hposts.symm.trans hposts')
    exact hnew'
  · exact fun h => ⟨new, hposts, h⟩

/-- **A step is decoded if and only if its packet meets the condition.** -/
lemma stepDecoded_iff (hm : Aligned d m) (hm' : Received m input m') :
    StepDecoded d m input m' ↔ PacketCondition d m input := by
  cases input with
  | skipped b h =>
      refine iff_of_true ⟨⟨hm'.pointer, hm'.framed⟩, ?_⟩ trivial
      obtain ⟨new, hposts, hnew⟩ := hm'.posts
      exact ⟨new, hposts, fun i => by rw [hnew i, Pointer.moved, changePosts, if_pos rfl]⟩
  | packet p =>
      have hpointer := hm'.pointer
      by_cases hoverflow : p.Overflow
      · obtain ⟨new, hposts, hnew⟩ := hm'.posts
        simp only [if_pos hoverflow] at hpointer hnew
        refine iff_of_true ⟨⟨?_, hm'.framed⟩, new, hposts, fun i => ?_⟩ (.inl hoverflow)
        · rw [hpointer, Pointer.moved, if_pos hoverflow]
        · rw [hnew i, Pointer.moved, if_pos hoverflow, changePosts, if_pos rfl]
      · simp only [if_neg hoverflow] at hpointer
        rw [StepDecoded, hpointer, placed_pointer_iff hm hoverflow, postsChanges_iff hm' hoverflow,
          PacketCondition]
        simp only [hoverflow, false_or, hm'.framed, and_true, and_assoc]

lemma clamp_range {size : ℕ} (hsize : size ≠ 0) (z : ℤ) : 0 ≤ clamp size z ∧ clamp size z < size := by
  simp only [clamp]
  omega

/-- A decoded step keeps the pointer on the screen. -/
lemma StepDecoded.aligned (hd : Ready d) (hm : Aligned d m) (h : StepDecoded d m input m') : Aligned d m' := by
  have hscreen := not_or.1 hd.screen
  have hmoved : (0 ≤ (m.pointer.moved d input).x ∧ (m.pointer.moved d input).x < d.deviceWidth) ∧
      0 ≤ (m.pointer.moved d input).y ∧ (m.pointer.moved d input).y < d.deviceHeight := by
    cases input with
    | skipped b hb => exact ⟨hm.x, hm.y⟩
    | packet p =>
        by_cases hoverflow : p.Overflow
        · rw [Pointer.moved, if_pos hoverflow]
          exact ⟨hm.x, hm.y⟩
        · rw [moved_packet hoverflow]
          exact ⟨clamp_range hscreen.1 _, clamp_range hscreen.2 _⟩
  rw [← h.1.1] at hmoved
  exact ⟨h.1.2, hmoved.1, hmoved.2⟩

/-- The pointer starts on the screen. -/
lemma initializeMousePosition_aligned {m : State} (hstage : m.stage = 0)
    (hok : initializeMousePosition d m = .ok m') : Aligned d m' := by
  rw [initializeMousePosition] at hok
  by_cases hscreen : d.deviceWidth = 0 ∨ d.deviceHeight = 0
  · rw [if_pos hscreen] at hok
    cases hok
  · rw [if_neg hscreen] at hok
    obtain rfl := Except.ok.inj hok
    refine ⟨hstage, ?_, ?_⟩ <;> simp only <;> omega

/-- **Decoding.**  A stream of packets of three bytes, with bytes between them that cannot be first ones, is
decoded if and only if every packet meets the condition; no stream makes the driver panic. -/
theorem decodes_iff (d : Device) (hd : Ready d) (m : State) (hm : Aligned d m) (inputs : List Input) :
    (∃ t, runs (receive d) m inputs = .ok t) ∧
      (Decodes d m inputs ↔ Meets (receive d) (PacketCondition d) m inputs) := by
  have hstep : ∀ m input m', Aligned d m → receive d m input = .ok m' → Received m input m' := by
    intro m input m' hm hok
    obtain ⟨t, ht, hreceived⟩ := receive_total hd hm.framed input
    obtain rfl := Except.ok.inj (hok.symm.trans ht)
    exact hreceived
  constructor
  · refine runs_total_keep (J := fun m => m.stage = 0) (fun m input hm => ?_) inputs m hm.framed
    exact (receive_total hd hm input).imp fun _ h => ⟨h.1, h.2.framed⟩
  · rw [decodes_iff_steps hm.framed]
    refine alongSteps_iff_meets (Aligned d) (fun m input m' hm hok => ?_) (fun m input m' hm hC hok => ?_) inputs m hm
    · exact stepDecoded_iff hm (hstep m input m' hm hok)
    · exact ((stepDecoded_iff hm (hstep m input m' hm hok)).2 hC).aligned hd hm

end Stream

/-! ## Some packets -/

/-- A mouse without a wheel, and a screen of 1024 by 768. -/
def plainMouse : Device := ⟨TRUE, 0, 1024, 768⟩

lemma plainMouse_ready : Ready plainMouse := ⟨rfl, by decide, by decide⟩

/-- The pointer in the middle of the screen, and no button down. -/
def middle : State := ⟨0, fun _ => 0, 512, 384, fun _ => false, []⟩

lemma middle_aligned : Aligned plainMouse middle := ⟨rfl, by decide, by decide⟩

/-- A byte with the status that goes with it. -/
def delivered (byte : UInt8) : Delivered := ⟨0x21, byte, by decide, by decide⟩

/-- The left button is pressed while the mouse moves to the left. -/
def pressAndMove : Packet := ⟨delivered 0x19, delivered 0xFB, delivered 0x03, by decide⟩

/-- The left and the right button are pressed. -/
def pressBoth : Packet := ⟨delivered 0x0B, delivered 0, delivered 0, by decide⟩

/-- A move with a button, behind a byte that cannot be a first one. -/
theorem decodes_iff_pressAndMove :
    Decodes plainMouse middle [.skipped (delivered 0x02) (by decide), .packet pressAndMove] :=
  (decodes_iff plainMouse plainMouse_ready middle middle_aligned _).2.2 (by decide +kernel)

/-- **Two buttons at once are one event.** -/
theorem decodes_fails : ¬Decodes plainMouse middle [.packet pressBoth] := by
  intro h
  obtain ⟨m', hok, hreceived⟩ := receive_total plainMouse_ready middle_aligned.framed (.packet pressBoth)
  have hstep : StepDecoded plainMouse middle (.packet pressBoth) m' :=
    ((decodes_iff_steps middle_aligned.framed).1 h m' hok).1
  exact absurd ((stepDecoded_iff middle_aligned hreceived).1 hstep) (by decide)

end Gramado.Mouse
