import Gramado.Gws.Window

/-!
# The state of the display server

The window objects and the globals of `adam/gram3d/demo00/wm.c` and `window.c`, the list of the
application windows that starts at `first_window`, and the table `windowList`.

Objects come from `malloc` and are never freed, so that the pointer of an object is its number in the
order of allocation.  Whether a call of `malloc` succeeds is up to an oracle that sees how many calls
were made before.
-/

namespace Gramado.Gws

/-- How the server ends without returning to its main loop. -/
inductive ServerFault where
  /-- `exit`. -/
  | exit
  /-- `while (1) {}`, and any other loop that does not end. -/
  | hang
  /-- A pointer that is null, uninitialised or points at no object is followed. -/
  | badPointer
  /-- An array is indexed out of its bounds. -/
  | badIndex
  deriving DecidableEq, Repr

/-- `WindowManager`, as far as it is used. -/
structure WindowManagerInfo where
  initialized : ℤ
  mode : ℤ
  vertical : ℤ
  isFullscreen : ℤ
  waLeft : ℕ
  waTop : ℕ
  waWidth : ℕ
  waHeight : ℕ

/-- The state of the server. -/
structure Desk where
  /-- The window objects, by pointer. -/
  win : ℕ → Option GwsWindow
  /-- How many there are. -/
  objects : ℕ
  /-- How many calls of `malloc` were made. -/
  mallocs : ℕ
  windowList : ℕ → ℕ
  windowsCount : ℕ
  firstWindow : ℕ
  lastWindow : ℕ
  topWindow : ℕ
  activeWindow : ℕ
  keyboardOwner : ℕ
  rootWindow : ℕ
  taskbarWindow : ℕ
  wm : WindowManagerInfo
  deviceWidth : ℕ
  deviceHeight : ℕ

variable (d : Desk)

/-! ## Objects -/

/-- The object that a pointer points at. -/
def Desk.deref (ptr : ℕ) : Except ServerFault GwsWindow :=
  match d.win ptr with
  | some w => .ok w
  | none => .error .badPointer

/-- An object is written. -/
def Desk.setWin (ptr : ℕ) (w : GwsWindow) : Desk :=
  { d with win := Function.update d.win ptr (some w) }

/-- `first_window` is set. -/
def Desk.setFirst (ptr : ℕ) : Desk := { d with firstWindow := ptr }

/-- `last_window` is set. -/
def Desk.setLast (ptr : ℕ) : Desk := { d with lastWindow := ptr }

/-- `top_window` is set. -/
def Desk.setTop (ptr : ℕ) : Desk := { d with topWindow := ptr }

/-- `active_window` is set. -/
def Desk.setActive (ptr : ℕ) : Desk := { d with activeWindow := ptr }

/-- `windows_count++`. -/
def Desk.countWindow : Desk := { d with windowsCount := d.windowsCount + 1 }

/-- An entry of `windowList` is set. -/
def Desk.setSlot (slot ptr : ℕ) : Desk :=
  { d with windowList := Function.update d.windowList slot ptr }

/-- Fields of an object are written. -/
def Desk.modify (ptr : ℕ) (f : GwsWindow → GwsWindow) : Except ServerFault Desk := do
  let w ← d.deref ptr
  .ok (d.setWin ptr (f w))

/-- A call of `malloc`. -/
def Desk.malloc (memory : ℕ → Bool) : Bool × Desk :=
  (memory d.mallocs, { d with mallocs := d.mallocs + 1 })

/-- A window object of zeros. -/
def GwsWindow.zero : GwsWindow where
  used := 0
  magic := 0
  id := 0
  type := 0
  style := 0
  active := 0
  focus := 0
  borderSize := 0
  parent := 0
  next := 0
  titlebar := 0
  left := 0
  top := 0
  width := 0
  height := 0
  absoluteX := 0
  absoluteY := 0
  right := 0
  bottom := 0
  rcClient := ⟨0, 0, 0, 0⟩
  ev := fun _ => .none
  evHead := 0
  evTail := 0

/-- The next object. -/
def Desk.newObject (w : GwsWindow) : ℕ × Desk :=
  (d.objects + 1, { d.setWin (d.objects + 1) w with objects := d.objects + 1 })

/-- `__create_window_object`. -/
def createWindowObject (memory : ℕ → Bool) : Except ServerFault (ℕ × Desk) :=
  let (done, d) := d.malloc memory
  if done then .ok (d.newObject { GwsWindow.zero with used := TRUE, magic := 1234 })
  else .error .hang

/-! ## The active window -/

/-- `set_active_window`. -/
def setActiveWindow (ptr : ℕ) : Except ServerFault Desk :=
  if ptr = d.activeWindow then .ok d
  else if ptr = 0 then .ok d
  else do
    let w ← d.deref ptr
    if w.magic ≠ 1234 then .ok d else .ok (d.setActive ptr)

/-! ## The list of the application windows -/

/-- The loop `while (Next->next != NULL)`.  A walk with more steps than there are objects goes in a
circle. -/
def walkToEnd : ℕ → ℕ → Except ServerFault ℕ
  | 0, _ => .error .hang
  | n + 1, ptr => do
      let w ← d.deref ptr
      if w.next = 0 then .ok ptr else walkToEnd n w.next

/-- `done:` in `wm_add_window_into_the_list`. -/
def finishAdd (ptr : ℕ) : Except ServerFault Desk := do
  let d ← (d.setLast ptr).modify ptr fun w => { w with next := 0 }
  setActiveWindow d ptr

/-- `wm_add_window_into_the_list`. -/
def wmAddWindowIntoTheList (ptr : ℕ) : Except ServerFault Desk :=
  if ptr = 0 then .ok d
  else do
    let w ← d.deref ptr
    if w.used ≠ TRUE then .ok d
    else if w.magic ≠ 1234 then .ok d
    else if w.type ≠ WT_OVERLAPPED then .ok d
    else if d.firstWindow = 0 then finishAdd (d.setFirst ptr) ptr
    else
      let first ← d.deref d.firstWindow
      if first.magic ≠ 1234 then finishAdd (d.setFirst ptr) ptr
      else
        let last ← walkToEnd d d.objects d.firstWindow
        let d ← d.modify last fun w => { w with next := ptr }
        finishAdd d ptr

/-- `set_last_window`. -/
def setLastWindow (ptr : ℕ) : Except ServerFault Desk :=
  if ptr = 0 then .ok d
  else do
    let w ← d.deref ptr
    if w.magic ≠ 1234 then .ok d else wmAddWindowIntoTheList d ptr

/-- The loop of `wm_remove_window_from_list_and_kill`. -/
def removeLoop (window : ℕ) : ℕ → ℕ → Except ServerFault Desk
  | 0, _ => .error .hang
  | n + 1, ptr =>
      if ptr = 0 then .ok d
      else do
        let w ← d.deref ptr
        -- the list is not glued: only the local pointer goes on
        if ptr = window then .ok (d.setWin ptr { w with used := FALSE, magic := 0 })
        else removeLoop window n w.next

/-- `wm_remove_window_from_list_and_kill`. -/
def wmRemoveWindowFromListAndKill (window : ℕ) : Except ServerFault Desk :=
  if window = 0 then .ok d
  else if d.firstWindow = 0 then .ok d
  else removeLoop d window (d.objects + 1) d.firstWindow

/-! ## The table of windows -/

/-- The first empty slot of `windowList`. -/
def Desk.freeSlot : Option ℕ := (List.range 1024).find? fun slot => d.windowList slot = 0

/-- The window goes into a slot of `windowList`, and gets its number. -/
def putWindow (ptr : ℕ) : Option ℕ → Except ServerFault (ℤ × Desk)
  | none => .ok (-1, d)
  | some slot => do
      let d ← (d.setSlot slot ptr).modify ptr fun w => { w with id := slot }
      .ok (slot, d)

/-- `RegisterWindow`: the return value and the new state. -/
def registerWindow (ptr : ℕ) : Except ServerFault (ℤ × Desk) :=
  if ptr = 0 then .ok (-1, d)
  else if d.windowsCount + 1 ≥ WINDOW_COUNT_MAX then .ok (-1, d.countWindow)
  else putWindow d.countWindow ptr d.freeSlot

end Gramado.Gws
