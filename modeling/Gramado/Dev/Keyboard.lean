import Gramado.Core.CTypes
import Gramado.Lib.Run

/-!
# The PS/2 keyboard

`DeviceInterface_PS2Keyboard` of `kres/dev/chardev/i8042/ps2kbd.c`, `wmRawKeyEvent` and
`__ProcessExtendedKeyboardKeyStroke` of `gramk/user/input.c`, and the key maps of `kres/dev/chardev/kbdmap.c`.

A byte is a prefix, an answer of the controller, or the code of a key; the highest bit of a code says that the key
was released.  The code decides which modifier or lock changes, whatever prefix came before it.  The rest of the
kernel (the input targets, the standard input, the messages to the display server and the console) is a parameter;
it neither reads the prefix nor writes a modifier.

* `rawKeyEvent_ok` — what a code does to the modifiers and to the standard input.
* `deviceInterface_eq` — an interrupt is a run of bytes.
-/

namespace Gramado.Keyboard

open StepRun

/-! ## The functions -/

/-- `MSG_KEYDOWN`. -/
def MSG_KEYDOWN : ℤ := 20

/-- `MSG_KEYUP`. -/
def MSG_KEYUP : ℤ := 21

/-- `MSG_SYSKEYDOWN`. -/
def MSG_SYSKEYDOWN : ℤ := 22

/-- `MSG_SYSKEYUP`. -/
def MSG_SYSKEYUP : ℤ := 23

/-- `MSG_CLEAR`. -/
def MSG_CLEAR : ℤ := 44

/-- `MSG_INSERT`. -/
def MSG_INSERT : ℤ := 46

/-- `BREAK_MASK`. -/
def BREAK_MASK : UInt8 := 0x80

/-- `KEYBOARD_KEY_MASK`. -/
def KEYBOARD_KEY_MASK : UInt8 := 0x7F

/-- `map_abnt2`. -/
def mapAbnt2 : List UInt8 :=
  [
    0, 27, 49, 50, 51, 52, 53, 54, 55, 56, 57, 48, 45, 61, 14, 15,
    113, 119, 101, 114, 116, 121, 117, 105, 111, 112, 239, 91, 28, 29, 97, 115,
    100, 102, 103, 104, 106, 107, 108, 135, 126, 39, 42, 93, 122, 120, 99, 118,
    98, 110, 109, 44, 46, 59, 54, 42, 56, 32, 58, 59, 60, 61, 62, 63,
    64, 65, 66, 67, 68, 69, 70, 71, 72, 73, 45, 75, 53, 77, 43, 79,
    80, 81, 82, 83, 84, 46, 92, 87, 88, 47, 125, 91, 92, 93, 129, 130,
    96, 29, 47, 134, 56, 101, 102, 103, 104, 105, 106, 107, 108, 109, 110, 111,
    59, 60, 61, 47, 63, 64, 65, 69, 67, 68, 87, 88, 124, 125, 46, 127,
    128, 129, 130, 131, 132, 133, 134, 135
  ]

/-- `shift_abnt2`. -/
def shiftAbnt2 : List UInt8 :=
  [
    0, 27, 33, 64, 35, 36, 37, 168, 38, 42, 40, 41, 95, 43, 14, 15,
    81, 87, 69, 82, 84, 89, 85, 73, 79, 80, 96, 123, 28, 16, 65, 83,
    68, 70, 71, 72, 74, 75, 76, 128, 94, 34, 2, 125, 90, 88, 67, 86,
    66, 78, 77, 60, 62, 58, 2, 16, 4, 32, 33, 0, 0, 32, 0, 0,
    0, 0, 0, 0, 0, 9, 129, 71, 72, 73, 45, 75, 53, 77, 43, 79,
    80, 81, 82, 83, 0, 0, 124, 0, 0, 0, 0, 0, 0, 0, 0, 0,
    0, 0, 0, 0, 0, 0, 0, 0, 0, 0, 0, 0, 0, 0, 0, 0,
    0, 0, 0, 63, 0, 0, 0, 0, 0, 0, 0, 0, 0, 0, 46, 0,
    0, 0, 0, 0, 0, 0, 0, 0
  ]

/-- `ctl_abnt2`. -/
def ctlAbnt2 : List UInt8 :=
  [
    0, 27, 33, 0, 35, 36, 37, 30, 38, 42, 40, 41, 31, 43, 28, 127,
    17, 23, 5, 14, 20, 25, 21, 9, 15, 16, 27, 27, 13, 16, 1, 19,
    4, 6, 7, 8, 10, 11, 12, 59, 30, 96, 2, 29, 26, 24, 3, 22,
    2, 14, 13, 60, 62, 63, 2, 42, 4, 32, 33, 0, 0, 32, 0, 0,
    33, 0, 0, 0, 0, 0, 0, 0, 0, 0, 0, 0, 0, 0, 0, 0,
    0, 0, 0, 0, 0, 0, 28, 0, 0, 0, 27, 55, 52, 49, 0, 9,
    56, 53, 50, 0, 129, 57, 54, 51, 46, 0, 42, 45, 43, 0, 0, 0,
    0, 0, 0, 0, 0, 0, 0, 0, 0, 0, 0, 0, 0, 0, 0, 0,
    0, 0, 0, 0, 0, 0, 0, 0
  ]

/-- An entry of a key map. -/
def charOf (map : List UInt8) (scanCode : UInt8) : UInt8 := map.getD scanCode.toNat 0

/-- `shift_status`, `ctrl_status`, `winkey_status`, `alt_status`, and the three locks. -/
structure Modifiers where
  shift : Bool
  ctrl : Bool
  winkey : Bool
  alt : Bool
  capslock : Bool
  numlock : Bool
  scrolllock : Bool
deriving DecidableEq

/-- The cases `VK_F1` to `VK_F12`. -/
def isFunctionKey (vk : UInt8) : Prop := (0x3B ≤ vk ∧ vk ≤ 0x44) ∨ vk = 0x57 ∨ vk = 0x58

instance (vk : UInt8) : Decidable (isFunctionKey vk) := inferInstanceAs (Decidable (_ ∨ _))

/-- The labels of the two switches. -/
inductive Label where
  /-- `VK_LSHIFT`, `VK_RSHIFT`. -/
  | shift
  /-- `VK_LCONTROL`, `VK_RCONTROL`. -/
  | control
  /-- `VK_LWIN`, `VK_RWIN`. -/
  | winkey
  /-- `VK_LMENU`. -/
  | alt
  /-- `VK_CONTROL_MENU`, of the second switch only. -/
  | menu
  /-- `VK_CAPITAL`, of the first switch only, as the other locks. -/
  | capital
  | numlock
  | scroll
  | function
  | other
deriving DecidableEq

/-- The label of a code. -/
def labelOf (code : UInt8) : Label :=
  if code = 0x2A ∨ code = 0x36 then .shift
  else if code = 0x1D ∨ code = 0xA3 then .control
  else if code = 0x5B ∨ code = 0x5C then .winkey
  else if code = 0x38 then .alt
  else if code = 0x5D then .menu
  else if code = 0x3A then .capital
  else if code = 0x45 then .numlock
  else if code = 0x46 then .scroll
  else if isFunctionKey code then .function
  else .other

/-- The switch for a key that is released. -/
def released (label : Label) (m : Modifiers) : ℤ × Modifiers :=
  match label with
  | .shift => (MSG_SYSKEYUP, { m with shift := false })
  | .control => (MSG_SYSKEYUP, { m with ctrl := false })
  | .winkey => (MSG_SYSKEYUP, { m with winkey := false })
  | .alt => (MSG_SYSKEYUP, { m with alt := false })
  | .menu | .function => (MSG_SYSKEYUP, m)
  | .capital | .numlock | .scroll | .other => (MSG_KEYUP, m)

/-- The switch for a key that is pressed. -/
def pressed (label : Label) (m : Modifiers) : ℤ × Modifiers :=
  match label with
  | .shift => (MSG_SYSKEYDOWN, { m with shift := true })
  | .control => (MSG_SYSKEYDOWN, { m with ctrl := true })
  | .winkey => (MSG_SYSKEYDOWN, { m with winkey := true })
  | .alt => (MSG_SYSKEYDOWN, { m with alt := true })
  | .capital => (MSG_SYSKEYDOWN, { m with capslock := !m.capslock })
  | .numlock => (MSG_SYSKEYDOWN, { m with numlock := !m.numlock })
  | .scroll => (MSG_SYSKEYDOWN, { m with scrolllock := !m.scrolllock })
  | .function => (MSG_SYSKEYDOWN, m)
  | .menu | .other => (MSG_KEYDOWN, m)

/-- The character of a key that is released. -/
def releasedChar (code : UInt8) (m : Modifiers) : UInt8 :=
  if m.capslock = false then charOf mapAbnt2 code else charOf shiftAbnt2 code

/-- The character of a key that is pressed. -/
def pressedChar (msg : ℤ) (code : UInt8) (m : Modifiers) : UInt8 :=
  if msg = MSG_SYSKEYDOWN then
    if m.capslock = false then charOf mapAbnt2 code else charOf shiftAbnt2 code
  else if m.capslock = false ∧ m.shift = false then
    if m.ctrl then charOf ctlAbnt2 code else charOf mapAbnt2 code
  else if m.ctrl then charOf ctlAbnt2 code
  else charOf shiftAbnt2 code

/-- The rest of the kernel, with its states `κ`. -/
structure Rest (κ : Type) where
  /-- `fg_console` and the magic number of its terminal are valid. -/
  consoleValid : κ → Bool
  shellFlag : κ → ℤ
  targetStdin : κ → ℤ
  targetThreadQueue : κ → ℤ
  /-- `kstdio_feed_stdin`. -/
  feedStdin : UInt8 → κ → κ
  /-- `ipc_post_message_to_ds`. -/
  post : ℤ → ℕ → ℕ → κ → κ
  /-- `__consoleProcessKeyboardInput`. -/
  consoleInput : Modifiers → ℤ → ℕ → ℕ → κ → Except String κ

/-- `__prefix`, the modifiers, the characters that were given to the standard input, and the rest. -/
structure Kernel (κ : Type) where
  prefixByte : UInt8
  mods : Modifiers
  fed : List UInt8
  rest : κ

variable {κ : Type}

/-- A message is posted. -/
def Kernel.post (R : Rest κ) (msg : ℤ) (long1 long2 : ℕ) (k : Kernel κ) : Kernel κ :=
  { k with rest := R.post msg long1 long2 k.rest }

/-- A character is fed. -/
def Kernel.feed (R : Rest κ) (ch : UInt8) (k : Kernel κ) : Kernel κ :=
  { k with
    fed := k.fed ++ [ch]
    rest := R.feedStdin ch k.rest }

/-- `__ProcessExtendedKeyboardKeyStroke`: the arrows are posted with the control key only. -/
def processExtended (R : Rest κ) (raw : UInt8) (k : Kernel κ) : Kernel κ :=
  let scancode := raw &&& 0x7F
  if scancode = 0x52 then k.post R MSG_INSERT 0 scancode.toNat
  else if scancode = 0x53 then k.post R MSG_CLEAR 0 scancode.toNat
  else if scancode = 0x4D ∧ k.mods.ctrl then k.post R 83 0x6A scancode.toNat
  else if scancode = 0x48 ∧ k.mods.ctrl then k.post R 80 0x67 scancode.toNat
  else if scancode = 0x50 ∧ k.mods.ctrl then k.post R 81 0x6C scancode.toNat
  else if scancode = 0x4B ∧ k.mods.ctrl then k.post R 82 0x69 scancode.toNat
  else k

/-- The label `done`: where the event goes. -/
def dispatch (R : Rest κ) (raw pre : UInt8) (msg : ℤ) (ascii : UInt8) (k : Kernel κ) : Except String (Kernel κ) := do
  if ascii = 0 then return k
  if pre = 0xE0 ∨ pre = 0xE1 then return processExtended R raw k
  let k' :=
    if R.shellFlag k.rest ≠ TRUE ∧ msg = MSG_KEYDOWN ∧ k.mods.alt = false ∧ R.targetStdin k.rest = TRUE then
      k.feed R ascii
    else k
  if R.shellFlag k.rest ≠ TRUE ∧ k.mods.alt = false ∧ k.mods.ctrl = false ∧ k.mods.shift = false then
    -- only the function keys go to the display server
    if R.targetThreadQueue k'.rest = TRUE ∧ (msg = MSG_SYSKEYDOWN ∨ msg = MSG_SYSKEYUP) ∧ isFunctionKey ascii then
      return k'.post R msg ascii.toNat raw.toNat
    return k'
  let rest ← R.consoleInput k'.mods msg ascii.toNat raw.toNat k'.rest
  return { k' with rest := rest }

/-- `wmRawKeyEvent`. -/
def wmRawKeyEvent (R : Rest κ) (raw pre : UInt8) (k : Kernel κ) : Except String (Kernel κ) :=
  if ¬R.consoleValid k.rest then .error "wmRawKeyEvent: fg_console"
  else if raw = 0xFF then .ok k
  else if raw &&& BREAK_MASK ≠ 0 then
    let code := raw &&& KEYBOARD_KEY_MASK
    let event := released (labelOf code) k.mods
    dispatch R raw pre event.1 (releasedChar code event.2) { k with mods := event.2 }
  else
    let code := raw &&& KEYBOARD_KEY_MASK
    let event := pressed (labelOf code) k.mods
    dispatch R raw pre event.1 (pressedChar event.1 code event.2) { k with mods := event.2 }

/-- The bytes that are no part of a code. -/
def isAnswer (raw : UInt8) : Prop := raw = 0 ∨ raw = 0xFA ∨ raw = 0xFE ∨ raw = 0xFF

/-- The prefixes. -/
def isPrefix (raw : UInt8) : Prop := raw = 0xE0 ∨ raw = 0xE1

instance (raw : UInt8) : Decidable (isAnswer raw) := inferInstanceAs (Decidable (_ ∨ _))

instance (raw : UInt8) : Decidable (isPrefix raw) := inferInstanceAs (Decidable (_ ∨ _))

/-- A byte that was read by the driver. -/
def keyboardByte (R : Rest κ) (k : Kernel κ) (raw : UInt8) : Except String (Kernel κ) :=
  if isAnswer raw then .ok k
  else if isPrefix raw then .ok { k with prefixByte := raw }
  else do
    let k' ← wmRawKeyEvent R raw k.prefixByte k
    return { k' with prefixByte := 0 }

/-- `DeviceInterface_PS2Keyboard`: what the status port and the data port give, turn by turn, until there is no
byte of the keyboard any more; an answer and a prefix end the interrupt. -/
def deviceInterfacePS2Keyboard (R : Rest κ) : List (UInt8 × UInt8) → Kernel κ → Except String (Kernel κ)
  | [], k => .ok k
  | (status, raw) :: ports, k =>
      if status &&& 0x01 = 0 then .ok k
      else if status &&& 0x20 = 0x20 then .ok k
      else do
        let k' ← keyboardByte R k raw
        if isAnswer raw ∨ isPrefix raw then return k'
        deviceInterfacePS2Keyboard R ports k'

section

variable {R : Rest κ} {k k' : Kernel κ} {raw pre code ascii : UInt8} {m : Modifiers} {msg : ℤ}

/-! ## What a code does -/

/-- The kernel that a key press can reach: the shell is off, and the standard input is a target. -/
def Kernel.Typing (R : Rest κ) (k : Kernel κ) : Prop := R.shellFlag k.rest ≠ TRUE ∧ R.targetStdin k.rest = TRUE

lemma processExtended_keeps (R : Rest κ) (raw : UInt8) (k : Kernel κ) :
    (processExtended R raw k).mods = k.mods ∧ (processExtended R raw k).fed = k.fed ∧
      (processExtended R raw k).prefixByte = k.prefixByte := by
  rw [processExtended]
  repeat' split
  all_goals exact ⟨rfl, rfl, rfl⟩

instance (R : Rest κ) (k : Kernel κ) : Decidable (k.Typing R) := inferInstanceAs (Decidable (_ ∧ _))

/-- What an event gives to the standard input: the character of a key that was pressed without alt. -/
def typed (R : Rest κ) (pre : UInt8) (msg : ℤ) (ascii : UInt8) (k : Kernel κ) : List UInt8 :=
  if ascii ≠ 0 ∧ ¬isPrefix pre ∧ msg = MSG_KEYDOWN ∧ k.mods.alt = false ∧ k.Typing R then [ascii] else []

/-- **Where an event goes.** -/
lemma dispatch_ok (h : dispatch R raw pre msg ascii k = .ok k') :
    k'.mods = k.mods ∧ k'.prefixByte = k.prefixByte ∧ k'.fed = k.fed ++ typed R pre msg ascii k := by
  rw [dispatch] at h
  rw [typed]
  by_cases hnull : ascii = 0
  · rw [if_pos hnull] at h
    obtain rfl : k = k' := Except.ok.inj h
    rw [if_neg fun hall => hall.1 hnull, List.append_nil]
    exact ⟨rfl, rfl, rfl⟩
  rw [if_neg hnull] at h
  by_cases hprefix : pre = 0xE0 ∨ pre = 0xE1
  · rw [if_pos hprefix] at h
    obtain rfl : processExtended R raw k = k' := Except.ok.inj h
    obtain ⟨hmods, hfed, hpre⟩ := processExtended_keeps R raw k
    rw [if_neg fun hall => hall.2.1 hprefix, List.append_nil]
    exact ⟨hmods, hpre, hfed⟩
  rw [if_neg hprefix] at h
  obtain ⟨k₁, hk₁, hmods, hpre, hfed⟩ : ∃ k₁, k₁ = (if R.shellFlag k.rest ≠ TRUE ∧ msg = MSG_KEYDOWN ∧
      k.mods.alt = false ∧ R.targetStdin k.rest = TRUE then k.feed R ascii else k) ∧ k₁.mods = k.mods ∧
      k₁.prefixByte = k.prefixByte ∧ k₁.fed = k.fed ++ typed R pre msg ascii k := by
    refine ⟨_, rfl, ?_⟩
    rw [typed]
    by_cases hfeed : R.shellFlag k.rest ≠ TRUE ∧ msg = MSG_KEYDOWN ∧ k.mods.alt = false ∧ R.targetStdin k.rest = TRUE
    · rw [if_pos hfeed, if_pos ⟨hnull, hprefix, hfeed.2.1, hfeed.2.2.1, hfeed.1, hfeed.2.2.2⟩]
      exact ⟨rfl, rfl, rfl⟩
    · rw [if_neg hfeed, if_neg fun hall => hfeed ⟨hall.2.2.2.2.1, hall.2.2.1, hall.2.2.2.1, hall.2.2.2.2.2⟩, List.append_nil]
      exact ⟨rfl, rfl, rfl⟩
  rw [← typed, ← hfed, ← hmods, ← hpre]
  dsimp only at h
  rw [← hk₁] at h
  split at h
  · split at h
    · obtain rfl := Except.ok.inj h
      exact ⟨rfl, rfl, rfl⟩
    · obtain rfl := Except.ok.inj h
      exact ⟨rfl, rfl, rfl⟩
  · obtain ⟨rest, -, hrest⟩ := bind_eq_ok h
    obtain rfl := Except.ok.inj hrest
    exact ⟨rfl, rfl, rfl⟩

/-- **What a code does** to the modifiers and to the standard input. -/
lemma rawKeyEvent_ok (h : wmRawKeyEvent R raw pre k = .ok k') (hraw : raw ≠ 0xFF) : k'.prefixByte = k.prefixByte ∧
    if raw &&& BREAK_MASK ≠ 0 then
      k'.mods = (released (labelOf (raw &&& KEYBOARD_KEY_MASK)) k.mods).2 ∧ k'.fed = k.fed
    else
      let event := pressed (labelOf (raw &&& KEYBOARD_KEY_MASK)) k.mods
      k'.mods = event.2 ∧ k'.fed = k.fed ++ typed R pre event.1
        (pressedChar event.1 (raw &&& KEYBOARD_KEY_MASK) event.2) { k with mods := event.2 } := by
  rw [wmRawKeyEvent] at h
  by_cases hvalid : ¬R.consoleValid k.rest
  · rw [if_pos hvalid] at h
    cases h
  rw [if_neg hvalid, if_neg hraw] at h
  by_cases hbreak : raw &&& BREAK_MASK ≠ 0
  · rw [if_pos hbreak] at h ⊢
    obtain ⟨hmods, hpre, hfed⟩ := dispatch_ok h
    refine ⟨hpre, hmods, hfed.trans ?_⟩
    rw [typed, if_neg ?_, List.append_nil]
    rintro ⟨-, -, hmsg, -⟩
    generalize labelOf (raw &&& KEYBOARD_KEY_MASK) = label at hmsg
    cases label <;> cases hmsg
  · rw [if_neg hbreak] at h ⊢
    obtain ⟨hmods, hpre, hfed⟩ := dispatch_ok h
    exact ⟨hpre, hmods, hfed⟩

/-! ## An interrupt -/

/-- The bytes that an interrupt reads. -/
def bytesRead : List (UInt8 × UInt8) → List UInt8
  | [] => []
  | (status, raw) :: ports =>
      if status &&& 0x01 = 0 then []
      else if status &&& 0x20 = 0x20 then []
      else if isAnswer raw ∨ isPrefix raw then [raw]
      else raw :: bytesRead ports

/-- **An interrupt** is a run of bytes. -/
lemma deviceInterface_eq (R : Rest κ) (ports : List (UInt8 × UInt8)) (k : Kernel κ) :
    deviceInterfacePS2Keyboard R ports k = runs (keyboardByte R) k (bytesRead ports) := by
  induction ports generalizing k with
  | nil => rfl
  | cons port ports ih =>
      rw [deviceInterfacePS2Keyboard, bytesRead]
      by_cases hempty : port.1 &&& 0x01 = 0
      · rw [if_pos hempty, if_pos hempty]
        rfl
      by_cases hmouse : port.1 &&& 0x20 = 0x20
      · rw [if_neg hempty, if_neg hempty, if_pos hmouse, if_pos hmouse]
        rfl
      rw [if_neg hempty, if_neg hempty, if_neg hmouse, if_neg hmouse]
      by_cases hend : isAnswer port.2 ∨ isPrefix port.2
      · rw [if_pos hend, runs_singleton]
        cases keyboardByte R k port.2 with
        | error e => rfl
        | ok k' => rw [ok_bind, if_pos hend]; rfl
      · rw [if_neg hend, runs]
        cases keyboardByte R k port.2 with
        | error e => rfl
        | ok k' =>
            rw [ok_bind, if_neg hend]
            exact ih k'

end

end Gramado.Keyboard
