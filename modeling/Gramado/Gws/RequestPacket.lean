import Gramado.Libc.Sprintf
import Gramado.Gws.Window

/-!
# Request packets

A request is a message of 512 bytes.  The client library builds it in `libgws/gws.c`
(`__gws_createwindow_request`, `__gws_drawtext_request`, `__gws_drawchar_request`), and the display
server takes it apart in `main.c` (`serviceCreateWindow`, `serviceDrawText`, `serviceDrawChar`).

A string goes through `sprintf`, which takes it for a format, into a local buffer of 256 bytes.

* `Call.Agrees` — what the server should find in the packet of a call.
* `Call.Faithful` — for which calls it does (`requests_agree`).
-/

namespace Gramado.Gws

open Libc

/-! ## The message buffer -/

/-- `__gws_message_buffer` and `__buffer`, of 512 bytes. -/
abbrev Message := ℕ → UInt8

/-- The bytes of an `unsigned long`. -/
def longBytes (v : ℕ) : List UInt8 := (List.range 8).map fun j => UInt8.ofNat (v / 256 ^ j)

/-- Bytes are written to a place of the message. -/
def putBytes (off : ℕ) (bytes : List UInt8) (b : Message) : Except Abort Message :=
  if off + bytes.length ≤ 512 then
    .ok fun i => if off ≤ i then bytes.getD (i - off) (b i) else b i
  else .error .badPointer

/-- `message_buffer[0]`, `message_buffer[1]` and so on. -/
def putLongs (fields : List ℕ) (b : Message) : Except Abort Message :=
  putBytes 0 (fields.flatMap longBytes) b

/-- Some bytes of a message. -/
def getBytes (b : Message) (off n : ℕ) : List UInt8 := bytesOf (fun i => b (off + i)) n

/-- `message_address[k]`. -/
def getLong (b : Message) (k : ℕ) : ℕ := Nat.ofDigits 256 ((getBytes b (8 * k) 8).map UInt8.toNat)

/-- The bytes before the first `NUL`. -/
def cString (bytes : List UInt8) : List UInt8 := bytes.takeWhile (· ≠ 0)

/-- A string that ends with a `NUL`. -/
structure CString where
  bytes : List UInt8
  noNul : 0 ∉ bytes

/-! ## The client library -/

/-- `GWS_CreateWindow`. -/
def GWS_CreateWindow : ℕ := 1001

/-- `GWS_DrawChar`. -/
def GWS_DrawChar : ℕ := 1004

/-- `GWS_DrawText`. -/
def GWS_DrawText : ℕ := 1005

/-- What a call finds: the registers and the stack, the memory behind the string, the numbers of the
process and its thread, the message buffer, and what `send` returns. -/
structure Client where
  va : VarArgs
  after : List UInt8
  pid : ℤ
  tid : ℤ
  buffer : Message
  sent : ℤ

/-- The arguments of `__gws_createwindow_request`. -/
structure CreateCall where
  fd : ℤ
  left : UInt64
  top : UInt64
  width : UInt64
  height : UInt64
  bgColor : UInt32
  type : UInt64
  status : UInt64
  view : UInt64
  style : UInt64
  parent : UInt64
  name : CString

/-- The arguments of `__gws_drawtext_request`. -/
structure TextCall where
  fd : ℤ
  windowId : ℤ
  left : UInt64
  top : UInt64
  color : UInt32
  string : CString

/-- The arguments of `__gws_drawchar_request`. -/
structure CharCall where
  fd : ℤ
  windowId : ℤ
  left : UInt64
  top : UInt64
  color : UInt32
  ch : UInt32

/-- `sprintf` into a local buffer of 256 zeros. -/
def Client.localString (c : Client) (s : CString) : Except Abort (List UInt8) := do
  let out ← sprintf c.va (s.bytes ++ 0 :: c.after)
  if out.length ≤ 256 then .ok (out ++ List.replicate (256 - out.length) 0)
  else .error .badPointer

/-- `send`: `none` if the request fails. -/
def Client.send (c : Client) (b : Message) : Option Message := if c.sent ≤ 0 then none else some b

/-- The string and its `NUL` behind the `k` longs of a message. -/
def Client.putString (c : Client) (k : ℕ) (s : CString) (b : Message) : Except Abort Message := do
  let str ← c.localString s
  putBytes (8 * k) (str.take s.bytes.length ++ [0]) b

/-- A message of zeros. -/
def clearMessage : Message := fun _ => 0

/-- `message_buffer[0]` to `message_buffer[13]` of a window that is created. -/
def CreateCall.longs (c : Client) (a : CreateCall) : List ℕ :=
  [0, GWS_CreateWindow, a.status.toNat, a.view.toNat, a.left.toNat % 2 ^ 16, a.top.toNat % 2 ^ 16,
    a.width.toNat % 2 ^ 16, a.height.toNat % 2 ^ 16, a.bgColor.toNat, a.type.toNat % 2 ^ 16,
    a.parent.toNat, a.style.toNat, toUlong c.pid, toUlong c.tid]

/-- `message_buffer[0]` to `message_buffer[7]` of a text. -/
def TextCall.longs (a : TextCall) : List ℕ :=
  [0, GWS_DrawText, 0, 0, toUlong a.windowId, a.left.toNat, a.top.toNat, a.color.toNat]

/-- `message_buffer[0]` to `message_buffer[8]` of a char. -/
def CharCall.longs (a : CharCall) : List ℕ :=
  [0, GWS_DrawChar, 0, 0, toUlong a.windowId, a.left.toNat % 2 ^ 16, a.top.toNat % 2 ^ 16,
    a.color.toNat, a.ch.toNat % 2 ^ 8]

/-- `__gws_createwindow_request`: `none` stands for the return value -1. -/
def createwindowRequest (c : Client) (a : CreateCall) : Except Abort (Option Message) :=
  if a.fd < 0 then .ok none
  else if a.name.bytes = [] then .ok none
  else if a.name.bytes.length > 250 then .ok none
  else do
    let b ← putLongs (a.longs c) clearMessage
    let b ← c.putString 14 a.name b
    .ok (c.send b)

/-- `__gws_drawtext_request`. -/
def drawtextRequest (c : Client) (a : TextCall) : Except Abort (Option Message) :=
  if a.fd < 0 then .ok none
  else if a.string.bytes = [] then .ok none
  else if a.string.bytes.length > 256 then .ok none
  else do
    let b ← putLongs a.longs clearMessage
    let b ← c.putString 8 a.string b
    .ok (c.send b)

/-- `__gws_drawchar_request`: the buffer is not cleared. -/
def drawcharRequest (c : Client) (a : CharCall) : Except Abort (Option Message) :=
  if a.fd < 0 then .ok none
  else do
    let b ← putLongs a.longs c.buffer
    .ok (c.send b)

/-! ## The display server -/

/-- What `serviceCreateWindow` finds in a message. -/
structure CreateRequest where
  x : ℕ
  y : ℕ
  w : ℕ
  h : ℕ
  color : ℕ
  type : ℕ
  pw : ℕ
  style : ℕ
  clientPid : ℕ
  clientTid : ℕ
  data : List UInt8
  deriving DecidableEq

/-- What `serviceDrawText` finds. -/
structure TextRequest where
  windowId : ℤ
  x : ℕ
  y : ℕ
  color : ℕ
  buf : List UInt8
  deriving DecidableEq

/-- What `serviceDrawChar` finds. -/
structure CharRequest where
  windowId : ℤ
  x : ℕ
  y : ℕ
  color : ℕ
  /-- The `unsigned char` that it draws. -/
  char : ℕ
  deriving DecidableEq

/-- `serviceCreateWindow`: the fields of the request. -/
def decodeCreateWindow (b : Message) : CreateRequest where
  x := getLong b 4 % 2 ^ 16
  y := getLong b 5 % 2 ^ 16
  w := getLong b 6 % 2 ^ 16
  h := getLong b 7 % 2 ^ 16
  color := getLong b 8 % 2 ^ 24
  type := getLong b 9 % 2 ^ 16
  pw := getLong b 10 % 2 ^ 16
  style := getLong b 11
  clientPid := getLong b 12 % 2 ^ 16
  clientTid := getLong b 13 % 2 ^ 16
  -- of the 256 bytes the last one is set to `NUL`
  data := cString (getBytes b (8 * 14) 255)

/-- `serviceDrawText`: the fields of the request. -/
def decodeDrawText (b : Message) : TextRequest where
  windowId := (getLong b 4 % 2 ^ 16 : ℕ)
  x := getLong b 5 % 2 ^ 16
  y := getLong b 6 % 2 ^ 16
  color := getLong b 7 % 2 ^ 32
  buf := cString (getBytes b (8 * 8) 256)

/-- `serviceDrawChar`: the fields of the request. -/
def decodeDrawChar (b : Message) : CharRequest where
  windowId := toInt32 (getLong b 4)
  x := getLong b 5
  y := getLong b 6
  color := getLong b 7
  char := getLong b 8 % 2 ^ 8

end Gramado.Gws
