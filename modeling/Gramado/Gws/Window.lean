import Gramado.Core.CTypes

/-!
# Windows of the display server

`struct gws_window_d` of `adam/gram3d/demo00/window.h`, as far as the modelled functions of the
server use it.  A pointer is a number, and 0 is `NULL`.
-/

namespace Gramado.Gws

/-- `struct gws_rect_d`. -/
structure GwsRect where
  left : ℕ
  top : ℕ
  width : ℕ
  height : ℕ
  deriving DecidableEq

/-- An entry of the arrays `ev_wid`, `ev_msg`, `ev_long1` and `ev_long2`. -/
structure QueuedEvent where
  wid : ℕ
  msg : ℕ
  long1 : ℕ
  long2 : ℕ
  deriving DecidableEq

/-- A cleared entry. -/
def QueuedEvent.none : QueuedEvent := ⟨0, 0, 0, 0⟩

/-- `struct gws_window_d`. -/
structure GwsWindow where
  used : ℤ
  magic : ℤ
  id : ℤ
  type : ℕ
  style : ℕ
  active : ℤ
  focus : ℤ
  borderSize : ℕ
  parent : ℕ
  next : ℕ
  titlebar : ℕ
  left : ℕ
  top : ℕ
  width : ℕ
  height : ℕ
  absoluteX : ℕ
  absoluteY : ℕ
  right : ℕ
  bottom : ℕ
  rcClient : GwsRect
  ev : ℕ → QueuedEvent
  evHead : ℕ
  evTail : ℕ

/-- `WINDOW_COUNT_MAX`. -/
def WINDOW_COUNT_MAX : ℕ := 1024

/-! ## Types of windows -/

def WT_SIMPLE : ℕ := 1

def WT_EDITBOX : ℕ := 2

def WT_OVERLAPPED : ℕ := 3

def WT_POPUP : ℕ := 4

def WT_CHECKBOX : ℕ := 5

def WT_EDITBOX_MULTIPLE_LINES : ℕ := 7

def WT_BUTTON : ℕ := 8

def WT_STATUSBAR : ℕ := 9

def WT_ICON : ℕ := 10

/-! ## Types of packets -/

def SERVER_PACKET_TYPE_REPLY : ℕ := 1001

def SERVER_PACKET_TYPE_EVENT : ℕ := 1002

def SERVER_PACKET_TYPE_ERROR : ℕ := 1003

/-- `next_response`. -/
abbrev Response := ℕ → ℕ

end Gramado.Gws
