import Gramado.Core.CTypes
import Gramado.Lib.Run

/-!
# The PS/2 mouse

`DeviceInterface_PS2Mouse` and `__ps2mouse_parse_data_packet` of `kres/dev/chardev/i8042/ps2mouse.c`, and
`wmMouseEvent` of `gramk/user/input.c`, to which they hand the events.

An interrupt reads bytes from the controller until a packet is complete, a byte cannot be the first one of a
packet, or there is no byte of the mouse any more.  The byte counter and the buffer of the packet outlive the
interrupt.

The deltas of a packet have nine bits, the variables for them have eight.  The position is masked, and only what
`wmMouseEvent` posts is kept on the screen.  The first button that changed is the only event of a packet.

* `interrupt_byte` — what a delivered byte does.
-/

namespace Gramado.Mouse

open StepRun

/-! ## The functions -/

/-- `MSG_MOUSEMOVE`. -/
def MSG_MOUSEMOVE : ℤ := 32

/-- `MSG_MOUSEPRESSED`. -/
def MSG_MOUSEPRESSED : ℤ := 35

/-- `MSG_MOUSERELEASED`. -/
def MSG_MOUSERELEASED : ℤ := 36

/-- `I8042_BUFFER_FULL`. -/
def I8042_BUFFER_FULL : UInt8 := 0x01

/-- `I8042_WHICH_BUFFER`. -/
def I8042_WHICH_BUFFER : UInt8 := 0x20

/-- `I8042_MOUSE_BUFFER`. -/
def I8042_MOUSE_BUFFER : UInt8 := 0x20

/-- `MOUSE_FLAGS_ALWAYS_1`. -/
def MOUSE_FLAGS_ALWAYS_1 : UInt8 := 0x08

/-- `MOUSE_LEFT_BUTTON`, `MOUSE_RIGHT_BUTTON` and `MOUSE_MIDDLE_BUTTON`. -/
def buttonMask : Fin 3 → UInt8 := ![0x01, 0x02, 0x04]

/-- A call of `ipc_post_message_to_ds`. -/
structure Post where
  msg : ℤ
  long1 : ℤ
  long2 : ℤ
deriving DecidableEq

/-- `PS2.mouse_initialized`, `PS2Mouse.has_wheel` and the size of the screen. -/
structure Device where
  mouseInitialized : ℤ
  hasWheel : ℤ
  screenWidth : ℕ
  screenHeight : ℕ

/-- `deviceWidth`. -/
def Device.deviceWidth (d : Device) : ℕ := d.screenWidth % 0x10000

/-- `deviceHeight`. -/
def Device.deviceHeight (d : Device) : ℕ := d.screenHeight % 0x10000

/-- `mouse_stage`, `buffer_mouse`, the position, `mbuttons_old_state`, and what was posted so far. -/
structure State where
  stage : ℕ
  buffer : ℕ → UInt8
  x : ℤ
  y : ℤ
  oldState : Fin 3 → Bool
  posts : List Post

/-- `__initialize_mouse_position`. -/
def initializeMousePosition (d : Device) (m : State) : Except String State :=
  if d.deviceWidth = 0 ∨ d.deviceHeight = 0 then .error "initialize_mouse_position: w h\n"
  else .ok { m with x := (d.deviceWidth / 2 : ℕ), y := (d.deviceHeight / 2 : ℕ) }

/-- A message is posted. -/
def State.post (m : State) (p : Post) : State := { m with posts := m.posts ++ [p] }

/-- The limits of `wmMouseEvent` for a coordinate. -/
def limited (size : ℕ) (long : ℤ) : ℤ :=
  let long := if long < 1 then 1 else long
  if long ≥ size then size - 1 else long

/-- `wmMouseEvent`. -/
def wmMouseEvent (d : Device) (eventId long1 long2 : ℤ) (m : State) : Except String State :=
  if d.deviceWidth = 0 ∨ d.deviceHeight = 0 then .error "wmMouseEvent: w h\n"
  else if eventId < 0 then .ok m
  else if eventId = MSG_MOUSEMOVE then
    .ok (m.post ⟨eventId, limited d.deviceWidth long1, limited d.deviceHeight long2⟩)
  else if eventId = MSG_MOUSEPRESSED ∨ eventId = MSG_MOUSERELEASED then
    .ok (m.post ⟨eventId, long1 % 0x10000, long1 % 0x10000⟩)
  else .ok m

/-- `(char)`. -/
def toChar (z : ℤ) : ℤ := z.bmod 256

/-- A delta of the packet, with its sign bit: `mouse_packet_x` and `mouse_packet_y`. -/
def packetDelta (byte : UInt8) (sign : Bool) : ℤ :=
  let delta := toChar byte.toNat
  if delta ≠ 0 ∧ sign then toChar (delta - 0xFF - 0x01) else delta

/-- The button `i` was pressed or released. -/
def buttonEvent (d : Device) (current : Fin 3 → Bool) (i : Fin 3) (m : State) : Except String State :=
  if current i then wmMouseEvent d MSG_MOUSEPRESSED (i.val + 1) (i.val + 1) m
  else wmMouseEvent d MSG_MOUSERELEASED (i.val + 1) (i.val + 1) m

/-- `__ps2mouse_parse_data_packet`. -/
def parseDataPacket (d : Device) (m : State) : Except String State :=
  let flags := m.buffer 0
  let packetX := packetDelta (m.buffer 1) (flags &&& 0x10 ≠ 0)
  let packetY := packetDelta (m.buffer 2) (flags &&& 0x20 ≠ 0)
  if flags &&& 0x40 ≠ 0 ∨ flags &&& 0x80 ≠ 0 then .ok m
  else
    let current := fun i => decide (flags &&& buttonMask i ≠ 0)
    let m' := { m with
      x := (m.x + packetX) % 0x400
      y := (m.y - packetY) % 0x400
      oldState := current }
    if current 0 ≠ m.oldState 0 then buttonEvent d current 0 m'
    else if current 1 ≠ m.oldState 1 then buttonEvent d current 1 m'
    else if current 2 ≠ m.oldState 2 then buttonEvent d current 2 m'
    else if m.x ≠ m'.x ∨ m.y ≠ m'.y then wmMouseEvent d MSG_MOUSEMOVE m'.x m'.y m'
    else .ok m'

/-- A byte that was read: whether the interrupt is over, and the state. -/
def mouseByte (d : Device) (byte : UInt8) (m : State) : Except String (Bool × State) :=
  let m := { m with buffer := Function.update m.buffer m.stage byte }
  match m.stage with
  | 0 =>
      if byte &&& MOUSE_FLAGS_ALWAYS_1 = 0 then .ok (true, { m with stage := 0 })
      else .ok (false, { m with stage := 1 })
  | 1 => .ok (false, { m with stage := 2 })
  | 2 =>
      if d.hasWheel = TRUE then .ok (false, { m with stage := 3 })
      else do
        let m ← parseDataPacket d m
        .ok (true, { m with stage := 0 })
  | 3 => do
      let m ← parseDataPacket d m
      .ok (true, { m with stage := 0 })
  | _ => .ok (true, { m with stage := 0 })

/-- The loop of `DeviceInterface_PS2Mouse`; the ports are what the status port and the data port give, turn by
turn, until the buffer is empty. -/
def readBytes (d : Device) : List (UInt8 × UInt8) → State → Except String State
  | [], m => .ok m
  | (status, byte) :: ports, m =>
      if status &&& I8042_BUFFER_FULL = 0 then .ok m
      else if status &&& I8042_WHICH_BUFFER ≠ I8042_MOUSE_BUFFER then .ok m
      else do
        let (done, m) ← mouseByte d byte m
        if done then .ok m else readBytes d ports m

/-- `DeviceInterface_PS2Mouse`. -/
def deviceInterfacePS2Mouse (d : Device) (ports : List (UInt8 × UInt8)) (m : State) : Except String State :=
  if d.mouseInitialized ≠ TRUE then .ok m else readBytes d ports m

end Gramado.Mouse
