import Gramado.Gws.Desktop

/-!
# Creating windows

`doCreateWindow` and `CreateWindow` in `adam/gram3d/demo00/window.c`, and `wmCreateWindowFrame` and
`do_create_controls` in `wm.c`: an application window gets a title bar, and the title bar three
buttons.

What is painted, the colours, the names and the flags of the elements are left out.
-/

namespace Gramado.Gws

/-! ## Styles -/

/-- `style & WS_MAXIMIZED`. -/
def IsMaximized (style : ℕ) : Prop := style &&& 1 ≠ 0

/-- `style & WS_FULLSCREEN`. -/
def IsFullscreen (style : ℕ) : Prop := style &&& 4 ≠ 0

/-- `style & 0x0008`: there is a status bar. -/
def HasStatusbar (style : ℕ) : Prop := style &&& 8 ≠ 0

instance (style : ℕ) : Decidable (IsMaximized style) := inferInstanceAs (Decidable (_ ≠ _))

instance (style : ℕ) : Decidable (IsFullscreen style) := inferInstanceAs (Decidable (_ ≠ _))

instance (style : ℕ) : Decidable (HasStatusbar style) := inferInstanceAs (Decidable (_ ≠ _))

/-- The types that `doCreateWindow` knows. -/
def KnownType (type : ℕ) : Prop :=
  type ∈ [WT_SIMPLE, WT_EDITBOX, WT_EDITBOX_MULTIPLE_LINES, WT_OVERLAPPED, WT_POPUP, WT_CHECKBOX,
    WT_BUTTON, WT_STATUSBAR, WT_ICON]

instance (type : ℕ) : Decidable (KnownType type) := inferInstanceAs (Decidable (_ ∈ _))

/-- `WT_EDITBOX` and `WT_EDITBOX_MULTIPLE_LINES`. -/
def IsEditbox (type : ℕ) : Prop := type = WT_EDITBOX ∨ type = WT_EDITBOX_MULTIPLE_LINES

instance (type : ℕ) : Decidable (IsEditbox type) := inferInstanceAs (Decidable (_ ∨ _))

/-- `METRICS_BORDER_SIZE`. -/
def METRICS_BORDER_SIZE : ℕ := 2

/-- `METRICS_TITLEBAR_DEFAULT_HEIGHT`. -/
def METRICS_TITLEBAR_DEFAULT_HEIGHT : ℕ := 24

/-! ## A window -/

/-- What a window is asked to be. -/
structure WindowArgs where
  type : ℕ
  style : ℕ
  status : ℕ
  x : ℕ
  y : ℕ
  width : ℕ
  height : ℕ
  pWindow : ℕ
  deriving DecidableEq

/-- A child's place: the offset in the client area of an overlapped parent counts as well. -/
def childOffset (parent : Option GwsWindow) (pos : GwsWindow → ℕ) (client : GwsRect → ℕ)
    (offset : ℕ) : ℕ :=
  match parent with
  | none => offset
  | some p =>
      let place := ulongAdd (pos p) offset
      if p.type = WT_OVERLAPPED then ulongAdd place (client p.rcClient) else place

/-- The fields that `doCreateWindow` fills in. -/
def newWindow (d : Desk) (a : WindowArgs) (parent : Option GwsWindow) : GwsWindow :=
  let deviceWidth := d.deviceWidth % 2 ^ 16
  let deviceHeight := d.deviceHeight % 2 ^ 16
  let windowX := a.x % 2 ^ 16
  let windowY := a.y % 2 ^ 16
  let width :=
    if IsFullscreen a.style then deviceWidth
    else if IsMaximized a.style then deviceWidth
    else a.width % 2 ^ 16
  let height :=
    if IsFullscreen a.style then deviceHeight
    else if IsMaximized a.style then ulongSub deviceHeight 40
    else a.height % 2 ^ 16
  let placeX := childOffset parent GwsWindow.absoluteX GwsRect.left windowX
  let placeY := childOffset parent GwsWindow.absoluteY GwsRect.top windowY
  let moved := IsMaximized a.style ∨ IsFullscreen a.style
  let absoluteX := if moved then 0 else placeX
  let absoluteY := if moved then 0 else placeY
  { GwsWindow.zero with
    used := TRUE
    magic := 1234
    id := -1
    type := a.type
    style := a.style
    focus := if a.type = WT_BUTTON ∧ a.status = 2 then TRUE else FALSE
    parent := a.pWindow
    left := windowX
    top := windowY
    width := width
    height := height
    -- an edit box counts the client area of its parent once more
    absoluteX := if IsEditbox a.type then
        ulongAdd absoluteX ((parent.map fun p => p.rcClient.left).getD 0)
      else absoluteX
    absoluteY := if IsEditbox a.type then
        ulongAdd absoluteY ((parent.map fun p => p.rcClient.top).getD 0)
      else absoluteY
    right := ulongAdd placeX width
    bottom := ulongAdd placeY height
    rcClient := if a.type = WT_OVERLAPPED then ⟨0, 0, width, height⟩
      else ⟨2, 2, ulongSub width 4, ulongSub height 36⟩ }

/-- The parent, if there is one. -/
def Desk.parentOf (d : Desk) (pWindow : ℕ) : Except ServerFault (Option GwsWindow) :=
  if pWindow = 0 then .ok none else (d.deref pWindow).map some

/-- `doCreateWindow`. -/
def doCreateWindow (memory : ℕ → Bool) (a : WindowArgs) (d : Desk) :
    Except ServerFault (ℕ × Desk) := do
  let (ptr, d) ← createWindowObject d memory
  let parent ← d.parentOf a.pWindow
  let d := d.setWin ptr (newWindow d a parent)
  let d ← if a.status = 1 then setActiveWindow d ptr else .ok d
  if KnownType a.type then .ok (ptr, d) else .error .hang

/-! ## Frames -/

/-- A frame is made for a window and its parent. -/
abbrev Frame := ℕ → ℕ → Desk → Except ServerFault Desk

/-- `__draw_window_border`: the size of the border. -/
def GwsWindow.drawWindowBorder (w : GwsWindow) : GwsWindow :=
  let w :=
    if IsEditbox w.type then
      if w.focus = TRUE then { w with borderSize := 2 }
      else if w.focus = FALSE then { w with borderSize := 1 }
      else w
    else w
  if w.type = WT_OVERLAPPED then
    if w.active = TRUE then { w with borderSize := 2 }
    else if w.active = FALSE then { w with borderSize := 1 }
    else w
  else w

/-- The masks at the start of `wmCreateWindowFrame`. -/
def GwsWindow.mask (w : GwsWindow) : GwsWindow :=
  { w with
    absoluteX := w.absoluteX % 2 ^ 16
    absoluteY := w.absoluteY % 2 ^ 16
    width := w.width % 2 ^ 16
    height := w.height % 2 ^ 16 }

/-- The size of the border is set. -/
def GwsWindow.setBorder (size : ℕ) (w : GwsWindow) : GwsWindow := { w with borderSize := size }

/-- The type is set. -/
def GwsWindow.setType (type : ℕ) (w : GwsWindow) : GwsWindow := { w with type := type }

/-- The title bar is set. -/
def GwsWindow.setTitlebar (tb : ℕ) (w : GwsWindow) : GwsWindow := { w with titlebar := tb }

/-- `rcClient.top += size`. -/
def GwsWindow.lowerClient (size : ℕ) (w : GwsWindow) : GwsWindow :=
  { w with rcClient := { w.rcClient with top := ulongAdd w.rcClient.top size } }

/-- `rcClient.height -= size`. -/
def GwsWindow.shortenClient (size : ℕ) (w : GwsWindow) : GwsWindow :=
  { w with rcClient := { w.rcClient with height := ulongSub w.rcClient.height size } }

/-- The frame of an edit box. -/
def GwsWindow.editboxFrame (w : GwsWindow) : GwsWindow :=
  (w.setBorder (if w.focus = TRUE then 2 else 1)).drawWindowBorder

/-- The border of an application window, and the place of its client area below it. -/
def GwsWindow.overlappedFrame (w : GwsWindow) : GwsWindow :=
  let w := (w.setBorder METRICS_BORDER_SIZE).drawWindowBorder
  w.lowerClient w.borderSize

/-- `wmCreateWindowFrame`, for an application window it goes on with `frameOverlapped`. -/
def createFrame (frameOverlapped : ℕ → Desk → Except ServerFault Desk) : Frame :=
  fun parent window d => do
    if parent = 0 then .ok d
    else
      let p ← d.deref parent
      if p.used ≠ TRUE ∨ p.magic ≠ 1234 then .ok d
      else if window = 0 then .ok d
      else
        let w ← d.deref window
        if w.used ≠ TRUE ∨ w.magic ≠ 1234 then .ok d
        else
          let d := d.setWin window w.mask
          if IsEditbox w.type then d.modify window GwsWindow.editboxFrame
          else if w.type = WT_OVERLAPPED then frameOverlapped window d
          else .ok d

/-! ## `CreateWindow` -/

/-- The size that a window has at least. -/
def atLeast (minimum size : ℕ) : ℕ := if size < minimum then minimum else size

/-- The arguments of an application window: in tiling mode it fills the working area. -/
def overlappedArgs (wm : WindowManagerInfo) (a : WindowArgs) : WindowArgs :=
  let a :=
    if wm.initialized = TRUE ∧ wm.mode = 1 then
      { a with x := 0, y := 0, width := wm.waWidth, height := wm.waHeight }
    else a
  { a with type := WT_SIMPLE, width := atLeast 80 a.width, height := atLeast 80 a.height }

/-- A window without the style of an application. -/
def childArgs (type minimum : ℕ) (a : WindowArgs) : WindowArgs :=
  { a with
    type := type
    style := 0
    width := atLeast minimum a.width
    height := atLeast minimum a.height }

/-- The window is created and gets its type. -/
def createTyped (memory : ℕ → Bool) (a : WindowArgs) (type : ℕ) (d : Desk) :
    Except ServerFault (ℕ × Desk) := do
  let (ptr, d) ← doCreateWindow memory a d
  let d ← d.modify ptr (GwsWindow.setType type)
  .ok (ptr, d)

/-- `CreateWindow`: `NULL` if it fails. -/
def createWindow (memory : ℕ → Bool) (frame : Frame) (a : WindowArgs) (d : Desk) :
    Except ServerFault (ℕ × Desk) :=
  let (done, d) := d.malloc memory
  if ¬done then .ok (0, d)
  else if a.type = WT_OVERLAPPED then do
    let (ptr, d) ← createTyped memory (overlappedArgs d.wm a) WT_OVERLAPPED d
    let d ← wmAddWindowIntoTheList d ptr
    let d ← setActiveWindow d ptr
    let d ← frame a.pWindow ptr d
    .ok (ptr, d)
  else if IsEditbox a.type then do
    let (ptr, d) ← createTyped memory (childArgs WT_SIMPLE 8 a) a.type d
    let d ← frame a.pWindow ptr d
    .ok (ptr, d)
  else if a.type = WT_BUTTON then do
    let (ptr, d) ← createTyped memory (childArgs WT_BUTTON 8 a) WT_BUTTON d
    let d ← frame a.pWindow ptr d
    .ok (ptr, d)
  else if a.type = WT_SIMPLE then createTyped memory (childArgs WT_SIMPLE 0 a) WT_SIMPLE d
  else .ok (0, d)

/-! ## The title bar -/

/-- A window that has no windows of its own: `wmCreateWindowFrame` for an edit box or a button. -/
def frameChild : Frame := createFrame fun _ d => .ok d

/-- A button of the title bar: `NULL`, or a failure of `RegisterWindow`, ends `do_create_controls`. -/
def createControl (memory : ℕ → Bool) (tb padding : ℕ) (d : Desk) :
    Except ServerFault (Bool × Desk) := do
  let w ← d.deref tb
  let (ptr, d) ← createWindow memory frameChild
    { type := WT_BUTTON
      style := 0
      status := 1
      x := ulongSub w.width (padding + 28 * padding)
      y := 0
      width := 28
      height := METRICS_TITLEBAR_DEFAULT_HEIGHT - 2
      pWindow := tb } d
  if ptr = 0 then .ok (false, d)
  else
    let (id, d) ← registerWindow d ptr
    .ok (decide (0 ≤ id), d)

/-- `do_create_controls`: minimize, maximize and close. -/
def doCreateControls (memory : ℕ → Bool) (tb : ℕ) (d : Desk) : Except ServerFault Desk := do
  let (done, d) ← createControl memory tb 3 d
  if ¬done then .ok d
  else
    let (done, d) ← createControl memory tb 2 d
    if ¬done then .ok d
    else
      let (_, d) ← createControl memory tb 1 d
      .ok d

/-- A bar of an application window. -/
def barArgs (window top width height : ℕ) : WindowArgs where
  type := WT_SIMPLE
  style := 0
  status := 1
  x := 0
  y := top
  width := width
  height := height
  pWindow := window

/-- The part of `wmCreateWindowFrame` about the title bar.  `none` if it returns, otherwise the
title bar. -/
def createTitlebar (memory : ℕ → Bool) (window : ℕ) (d : Desk) :
    Except ServerFault (Option ℕ × Desk) := do
  let w ← d.deref window
  let width := ulongSub w.width (2 * METRICS_BORDER_SIZE)
  let (tb, d) ← doCreateWindow memory (barArgs window 0 width METRICS_TITLEBAR_DEFAULT_HEIGHT) d
  let d ← d.modify window (GwsWindow.setTitlebar tb)
  let (id, d) ← registerWindow d tb
  if id < 0 then .ok (none, d)
  else
    let d ← doCreateControls memory tb d
    let d ← d.modify window (GwsWindow.lowerClient METRICS_TITLEBAR_DEFAULT_HEIGHT)
    -- `strdup` gives the name that is drawn
    let (done, d) := d.malloc memory
    if done then .ok (some tb, d) else .error .badPointer

/-- The part of `wmCreateWindowFrame` about the status bar: the title bar is registered in its
place. -/
def createStatusbar (memory : ℕ → Bool) (window : ℕ) (tb : Option ℕ) (d : Desk) :
    Except ServerFault Desk := do
  let w ← d.deref window
  let height := 32
  let sbTop := if w.parent ≠ 0 then ulongSub w.rcClient.height height else 0
  let sbWidth := if w.parent ≠ 0 then w.rcClient.width else 8
  let (_, d) ← doCreateWindow memory (barArgs window sbTop sbWidth height) d
  let d ← d.modify window (GwsWindow.shortenClient height)
  match tb with
  | none => .error .badPointer
  | some tb => do
      let (_, d) ← registerWindow d tb
      .ok d

/-- The part of `wmCreateWindowFrame` about an application window. -/
def frameOverlapped (memory : ℕ → Bool) (window : ℕ) (d : Desk) : Except ServerFault Desk := do
  let d ← d.modify window GwsWindow.overlappedFrame
  let w ← d.deref window
  if IsMaximized w.style then
    if HasStatusbar w.style then createStatusbar memory window none d else .ok d
  else
    let (tb, d) ← createTitlebar memory window d
    match tb with
    | none => .ok d
    | some tb => if HasStatusbar w.style then createStatusbar memory window (some tb) d else .ok d

/-- `wmCreateWindowFrame`. -/
def wmCreateWindowFrame (memory : ℕ → Bool) : Frame := createFrame (frameOverlapped memory)

/-! ## The request -/

/-- `wmManageWindow`: an application window gets an object for its client. -/
def wmManageWindow (memory : ℕ → Bool) (d : Desk) : Except ServerFault Desk :=
  let (done, d) := d.malloc memory
  if done then .ok d else .error .hang

/-- The part of `serviceCreateWindow` about a window that exists: an application window is added to
the list once more. -/
def serviceNewWindow (memory : ℕ → Bool) (ptr : ℕ) (d : Desk) : Except ServerFault (ℤ × Desk) := do
  let (id, d) ← registerWindow d ptr
  if id < 0 then .ok (-1, d)
  else
    let w ← d.deref ptr
    if w.type = WT_OVERLAPPED then
      let d ← wmAddWindowIntoTheList d ptr
      let d ← wmManageWindow memory d
      .ok (id, d)
    else .ok (id, d)

/-- `serviceCreateWindow` for the parent with the number `pw`. -/
def serviceCreateWindow (memory : ℕ → Bool) (pw : ℕ) (a : WindowArgs) (d : Desk) :
    Except ServerFault (ℤ × Desk) :=
  if pw ≥ WINDOW_COUNT_MAX then .error .exit
  else if d.windowList pw = 0 then .error .exit
  else do
    let (ptr, d) ← createWindow memory (wmCreateWindowFrame memory)
      { a with pWindow := d.windowList pw } d
    if ptr = 0 then .ok (-1, d) else serviceNewWindow memory ptr d

end Gramado.Gws
