import Gramado.Gws.CreateWindow
import Gramado.Gws.EventQueue

/-!
# Moving and resizing windows

`gwssrv_change_window_position` and `gws_resize_window` in `adam/gram3d/demo00/wm.c`, and what calls
them: the two requests in `main.c`, docking, tiling, and the full-screen mode.

What is painted is left out.
-/

namespace Gramado.Gws

variable (d : Desk)

/-! ## One window -/

/-- `left` and `top` are set. -/
def GwsWindow.setOffset (x y : ℕ) (w : GwsWindow) : GwsWindow := { w with left := x, top := y }

/-- `absolute_x` and `absolute_y` are set. -/
def GwsWindow.setAbsolute (x y : ℕ) (w : GwsWindow) : GwsWindow :=
  { w with absoluteX := x, absoluteY := y }

/-- `width` and `height` are set. -/
def GwsWindow.setSize (cx cy : ℕ) (w : GwsWindow) : GwsWindow :=
  { w with width := cx, height := cy }

/-- `width` is set. -/
def GwsWindow.setWidth (cx : ℕ) (w : GwsWindow) : GwsWindow := { w with width := cx }

/-- A function is applied to the title bar of an application window. -/
def Desk.modifyTitlebar (w : GwsWindow) (f : GwsWindow → GwsWindow) : Except ServerFault Desk :=
  if w.type = WT_OVERLAPPED ∧ w.titlebar ≠ 0 then d.modify w.titlebar f else .ok d

/-- `gwssrv_change_window_position`. -/
def changeWindowPosition (window x y : ℕ) : Except ServerFault Desk :=
  if window = 0 then .ok d
  else do
    let d ← d.modify window (GwsWindow.setOffset x y)
    let w ← d.deref window
    let p ← d.deref w.parent
    let d ← d.modify window
      (GwsWindow.setAbsolute (ulongAdd p.absoluteX w.left) (ulongAdd p.absoluteY w.top))
    -- the place of the title bar does not count the parent
    d.modifyTitlebar w
      (GwsWindow.setAbsolute (ulongAdd w.left w.borderSize) (ulongAdd w.top w.borderSize))

/-- `gws_resize_window`. -/
def resizeWindow (window cx cy : ℕ) : Except ServerFault Desk :=
  if window = 0 then .ok d
  else do
    let w ← d.deref window
    if w.width ≠ cx ∨ w.height ≠ cy then
      let d ← d.modify window (GwsWindow.setSize cx cy)
      d.modifyTitlebar w (GwsWindow.setWidth (ulongSub (ulongSub cx w.borderSize) w.borderSize))
    else .ok d

/-- The live window with a number: the checks of the services. -/
def Desk.liveWindow (id : ℤ) : Except ServerFault (Option ℕ) :=
  if id < 0 ∨ id ≥ WINDOW_COUNT_MAX then .ok none
  else if d.windowList id.toNat = 0 then .ok none
  else do
    let w ← d.deref (d.windowList id.toNat)
    if w.used ≠ TRUE ∨ w.magic ≠ 1234 then .ok none else .ok (some (d.windowList id.toNat))

/-- `serviceChangeWindowPosition`. -/
def serviceChangeWindowPosition (id : ℤ) (x y : ℕ) : Except ServerFault (ℤ × Desk) := do
  match ← d.liveWindow id with
  | none => .ok (-1, d)
  | some window =>
      let d ← changeWindowPosition d window x y
      .ok (0, d)

/-- `serviceResizeWindow`. -/
def serviceResizeWindow (id : ℤ) (w h : ℕ) : Except ServerFault (ℤ × Desk) := do
  match ← d.liveWindow id with
  | none => .ok (-1, d)
  | some window =>
      let d ← resizeWindow d window w h
      .ok (0, d)

/-! ## Redrawing -/

/-- The border after `redraw_window`. -/
def GwsWindow.redrawBorder (w : GwsWindow) : GwsWindow :=
  (w.setBorder (if w.active = TRUE then 2 else 1)).drawWindowBorder

/-- `redraw_window`: the size of the border is all that it writes. -/
def redrawWindow (window : ℕ) : Except ServerFault Desk :=
  if window = 0 then .ok d
  else do
    let w ← d.deref window
    if w.used ≠ TRUE ∨ w.magic ≠ 1234 then .ok d
    else if (w.type = WT_OVERLAPPED ∨ IsEditbox w.type) ∧ w.parent ≠ 0 then
      let p ← d.deref w.parent
      if p.magic = 1234 then d.modify window GwsWindow.redrawBorder else .ok d
    else .ok d

/-- `keyboard_owner` is set. -/
def Desk.setOwner (ptr : ℕ) : Desk := { d with keyboardOwner := ptr }

/-- `set_focus`. -/
def setFocus (window : ℕ) : Except ServerFault Desk :=
  if window = 0 then .ok d
  else do
    let w ← d.deref window
    if w.used ≠ TRUE ∨ w.magic ≠ 1234 then .ok d else .ok (d.setOwner window)

/-- `on_update_window` for the window with the focus. -/
def updateFocus (eventType : ℤ) : Except ServerFault Desk :=
  if d.keyboardOwner = 0 then .ok d
  else d.modify d.keyboardOwner fun w => onUpdateWindow w eventType

/-! ## Docking -/

/-- Where a docked window goes. -/
structure Slot where
  left : ℕ
  top : ℕ
  width : ℕ
  height : ℕ

/-- A window is moved and resized. -/
def moveAndResize (window : ℕ) (s : Slot) : Except ServerFault Desk := do
  let d ← changeWindowPosition d window s.left s.top
  resizeWindow d window s.width s.height

/-- The `switch` of `dock_window`. -/
def dockSlot (w h : ℕ) (position : ℤ) : Option Slot :=
  if position = 1 then some ⟨0, 0, w, h / 2⟩
  else if position = 2 then some ⟨w / 2, 0, ulongSub (w / 2) 4, ulongSub h 4⟩
  else if position = 3 then some ⟨0, h / 2, w, h / 2⟩
  else if position = 4 then some ⟨0, 0, ulongSub (w / 2) 4, ulongSub h 4⟩
  else none

/-- `dock_window`. -/
def dockWindow (window : ℕ) (position : ℤ) : Except ServerFault Desk :=
  if d.deviceWidth = 0 ∨ d.deviceHeight = 0 then .ok d
  else if window = 0 then .ok d
  else do
    let w ← d.deref window
    if w.magic ≠ 1234 then .ok d
    else if window = d.rootWindow then .ok d
    else if window = d.taskbarWindow then .ok d
    else
      match dockSlot d.deviceWidth d.deviceHeight position with
      | none => .ok d
      | some slot => do
          let d ← moveAndResize d window slot
          redrawWindow d window

/-- `dock_active_window`: the checks are made a second time by `dock_window`. -/
def dockActiveWindow (position : ℤ) : Except ServerFault Desk :=
  if d.activeWindow = 0 then .ok d
  else do
    let w ← d.deref d.activeWindow
    if w.magic ≠ 1234 then .ok d
    else if d.activeWindow = d.rootWindow then .ok d
    else if d.activeWindow = d.taskbarWindow then .ok d
    else dockWindow d d.activeWindow position

/-! ## Tiling -/

/-- `WM_MODE_TILED`. -/
def WM_MODE_TILED : ℤ := 1

/-- The place of the window number `i` of `cnt` in a horizontal tiling. -/
def WindowManagerInfo.tile (wm : WindowManagerInfo) (i cnt : ℕ) : Slot :=
  let height := if cnt > 1 then wm.waHeight / (cnt - 1) else wm.waHeight
  { left := ulongAdd (wm.waWidth / 2) 2
    top := ulongAdd (height * i) 2
    width := ulongSub (wm.waWidth / 2) 4
    height := ulongSub height 4 }

/-- The place of the last window: the left half of the working area. -/
def WindowManagerInfo.master (wm : WindowManagerInfo) : Slot where
  left := ulongAdd wm.waLeft 2
  top := ulongAdd wm.waTop 2
  width := ulongSub (wm.waWidth / 2) 4
  height := ulongSub wm.waHeight 4

/-- `active`, `focus` and `border_size` are set. -/
def GwsWindow.setLook (active focus : ℤ) (border : ℕ) (w : GwsWindow) : GwsWindow :=
  { w with active := active, focus := focus, borderSize := border }

/-- A window is resized and moved. -/
def resizeAndMove (window : ℕ) (s : Slot) : Except ServerFault Desk := do
  let d ← resizeWindow d window s.width s.height
  changeWindowPosition d window s.left s.top

/-- The body of the loop of `__Tile` for a horizontal tiling. -/
def tileWindow (window i cnt : ℕ) : Except ServerFault Desk := do
  let d ← d.modify window (GwsWindow.setLook FALSE TRUE 1)
  let d ← resizeAndMove d window (d.wm.tile i cnt)
  if i + 1 = cnt then
    let d ← d.modify window (GwsWindow.setLook TRUE TRUE 2)
    resizeAndMove (((d.setOwner window).setLast window).setTop window) window d.wm.master
  else .ok d

/-- The second loop of `__Tile`. -/
def tileLoop (cnt : ℕ) : ℕ → ℕ → ℕ → Desk → Except ServerFault Desk
  | 0, _, _, _ => .error .hang
  | n + 1, i, window, d =>
      if window = 0 then .ok d
      else if i ≥ cnt then .ok d
      else do
        let d ←
          if d.wm.mode = WM_MODE_TILED ∧ d.wm.vertical = FALSE then tileWindow d window i cnt
          else .ok d
        let w ← d.deref window
        tileLoop cnt n (i + 1) w.next d

/-- The first loop of `__Tile`: the size of the list. -/
def listSize : ℕ → ℕ → Except ServerFault ℕ
  | 0, _ => .error .hang
  | n + 1, window =>
      if window = 0 then .ok 0
      else do
        let w ← d.deref window
        let size ← listSize n w.next
        .ok (size + 1)

/-- `__Tile`. -/
def tile : Except ServerFault Desk :=
  if d.wm.initialized ≠ TRUE then .ok d
  else if d.firstWindow = 0 then .ok d
  else do
    let cnt ← listSize d (d.objects + 1) d.firstWindow
    tileLoop cnt (d.objects + 1) 0 d.firstWindow d

/-! ## The desktop -/

/-- The loop of `wm_update_desktop`: the last application window of the list. -/
def updateLoop : ℕ → ℕ → ℕ → Desk → Except ServerFault (ℕ × Desk)
  | 0, _, _, _ => .error .hang
  | n + 1, window, last, d =>
      if window = 0 then .ok (last, d)
      else do
        let w ← d.deref window
        if w.type = WT_OVERLAPPED then
          let d ← redrawWindow d window
          let d ← updateFocus d GWS_Paint
          updateLoop n w.next window d
        else updateLoop n w.next last d

/-- The part of `wm_update_desktop` about the stack of windows. -/
def updateStack : Except ServerFault Desk :=
  if d.firstWindow = 0 then .ok d
  else do
    let first ← d.deref d.firstWindow
    if first.magic ≠ 1234 then .ok d
    else
      let (last, d) ← updateLoop (d.objects + 1) d.firstWindow d.firstWindow d
      let d ← setActiveWindow d last
      setFocus d last

/-- `wm_update_desktop`. -/
def wmUpdateDesktop (tiled : Bool) : Except ServerFault Desk := do
  let d ← if tiled ∧ d.wm.mode = WM_MODE_TILED then tile d else .ok d
  let d ← redrawWindow d d.rootWindow
  updateStack d

/-- The part of `wm_update_window_by_id` about the place of the window. -/
def placeUpdated (window : ℕ) : Except ServerFault Desk := do
  let d ←
    if d.wm.mode = WM_MODE_TILED then
      moveAndResize d window ⟨0, 0, d.wm.waWidth, d.wm.waHeight⟩
    else .ok d
  if d.wm.isFullscreen = TRUE then
    let d ← d.modify window (GwsWindow.setLook TRUE TRUE 2)
    moveAndResize (((d.setOwner window).setLast window).setTop window) window
      ⟨0, 0, d.deviceWidth, d.deviceHeight⟩
  else .ok d

/-- `wm_update_window_by_id`. -/
def wmUpdateWindowById (id : ℤ) : Except ServerFault Desk := do
  match ← d.liveWindow id with
  | none => .ok d
  | some window =>
      let w ← d.deref window
      if w.type ≠ WT_OVERLAPPED then .ok d
      else if d.wm.initialized ≠ TRUE then .ok d
      else
        let d ← placeUpdated d window
        let d ← setActiveWindow d window
        let d ← setFocus d window
        let d ← redrawWindow d window
        updateFocus d GWS_Paint

/-- `WindowManager.is_fullscreen` is set. -/
def Desk.setFullscreen (b : ℤ) : Desk := { d with wm := { d.wm with isFullscreen := b } }

/-- `wm_enter_fullscreen_mode`. -/
def wmEnterFullscreenMode : Except ServerFault Desk :=
  if d.wm.initialized ≠ TRUE then .ok d
  else if d.lastWindow ≠ 0 then do
    let w ← d.deref d.lastWindow
    wmUpdateWindowById (d.setFullscreen TRUE) w.id
  else if d.firstWindow ≠ 0 then do
    let w ← d.deref d.firstWindow
    wmUpdateWindowById (d.setFullscreen TRUE) w.id
  else .ok d

/-- `wm_exit_fullscreen_mode`. -/
def wmExitFullscreenMode (tiled : Bool) : Except ServerFault Desk :=
  if d.wm.initialized ≠ TRUE then .ok d
  else wmUpdateDesktop (d.setFullscreen FALSE) tiled

end Gramado.Gws
