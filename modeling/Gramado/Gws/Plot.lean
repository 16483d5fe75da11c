import Gramado.Gws.Line3d
import Gramado.Gws.PixelRoutines

/-!
# Plotting with a clipping window

`grPlot0` of `adam/gram3d/demo00/grprim.c`, with `libgr_transform_from_viewspace_to_screespace` of
`libs/libgr/libgr.c` and the pixels of `libs/libdisp/libdisp.c`, on a display of any size.

* `plot_iff` — for which points, windows and displays a plot is clipped as it should.
-/

namespace Gramado.Gws

open Clib Memory

/-! ## The code -/

/-- `struct gws_window_d`, as a clipping window. -/
structure ClippingWindow where
  used : ℤ
  magic : ℤ
  absolute_x : ℕ
  absolute_y : ℕ
  width : ℕ
  height : ℕ
  right : ℕ
  bottom : ℕ

/-- The globals that `grPlot0` reads: the projection, if there is one, is `zNear` and `zFar`. -/
structure PlotGlobals where
  gUseLeftHand : ℤ
  HotSpotX : ℕ
  HotSpotY : ℕ
  currentProjection : Option (ℤ × ℤ)

/-- How a plot does not return. -/
inductive PlotFault where
  | undefined (u : Undefined)
  | stopped (s : Stopped)

/-- Along an axis: `origin + v`, or `origin - abs(v)`. -/
def along (origin v : ℤ) : Except Undefined ℤ :=
  if v ≥ 0 then intResult (origin + v)
  else do
    let v ← intAbs v
    intResult (origin - v)

/-- Against an axis: `origin - v`, or `origin + abs(v)`. -/
def against (origin v : ℤ) : Except Undefined ℤ :=
  if v ≥ 0 then intResult (origin - v)
  else do
    let v ← intAbs v
    intResult (origin + v)

/-- `libgr_transform_from_viewspace_to_screespace`; the sign of `z` makes no difference to the first `X`. -/
def transformFromViewspaceToScreespace (x y z leftHand hotspotx hotspoty : ℤ) : Except Undefined (ℤ × ℤ) := do
  let X ← along hotspotx x
  let Y ← against hotspoty y
  if leftHand = TRUE then
    let X ← along X z
    let Y ← against Y z
    return (X, Y)
  else
    let X ← against X z
    let Y ← along Y z
    return (X, Y)

section Code

variable (d : Display) (stack : Pixel)

/-- `libdisp_backbuffer_putpixel`. -/
def displayPutpixel (color : UInt32) (x y : ℤ) (rop : ℕ) (c : Canvas) : Except Stopped (ℤ × Canvas) :=
  if x < 0 then .ok (0, c) else if y < 0 then .ok (0, c) else d.fbBackBufferPutpixel stack color x y rop c

/-- The window is used if it is valid. -/
def clipping (w : Option ClippingWindow) : Option ClippingWindow := w.filter fun w => w.used = TRUE ∧ w.magic = 1234

/-- The hot spot: of the screen, or of the window. -/
def hotspot (g : PlotGlobals) : Option ClippingWindow → ℤ × ℤ
  | none => (toInt32 g.HotSpotX, toInt32 g.HotSpotY)
  | some w => (toInt32 (ulongAdd w.absolute_x (w.width / 2)), toInt32 (ulongAdd w.absolute_y (w.height / 2)))

/-- `0 <= X < width` in C: the first comparison is a number. -/
def chained (X : ℤ) (width : ℕ) : Prop := (if 0 ≤ X then 1 else 0) < width

instance (X : ℤ) (width : ℕ) : Decidable (chained X width) := inferInstanceAs (Decidable (_ < _))

/-- The test for the window. -/
def ClippingWindow.Admits (w : ClippingWindow) (X Y : ℤ) : Prop :=
  w.absolute_x ≤ X ∧ X ≤ w.right ∧ w.absolute_y ≤ Y ∧ Y ≤ w.bottom

instance (w : ClippingWindow) (X Y : ℤ) : Decidable (w.Admits X Y) := inferInstanceAs (Decidable (_ ∧ _))

/-- The result of `libdisp_backbuffer_putpixel` is that of the plot. -/
def plotResult : Except Stopped (ℤ × Canvas) → Except PlotFault (ℤ × Canvas)
  | .ok r => .ok r
  | .error s => .error (.stopped s)

/-- `zNear` and `zFar`. -/
def depthLimits (g : PlotGlobals) : ℤ × ℤ := g.currentProjection.getD (0, 80)

/-- The point on the screen. -/
def plotPoint (g : PlotGlobals) (w : Option ClippingWindow) (z x y : ℤ) : Except Undefined (ℤ × ℤ) :=
  transformFromViewspaceToScreespace x y z g.gUseLeftHand (hotspot g (clipping w)).1 (hotspot g (clipping w)).2

/-- `grPlot0`. -/
def grPlot0 (g : PlotGlobals) (clippingWindow : Option ClippingWindow) (z x y : ℤ) (color : UInt32) (rop : ℕ)
    (c : Canvas) : Except PlotFault (ℤ × Canvas) :=
  let (zNear, zFar) := depthLimits g
  if z < zNear then .ok (0, c)
  else if z ≥ zFar then .ok (0, c)
  else
    match plotPoint g clippingWindow z x y with
    | .error u => .error (.undefined u)
    | .ok (X, Y) =>
        if X < 0 then .ok (-1, c)
        else if Y < 0 then .ok (-1, c)
        else if chained X d.width ∧ chained Y d.height then
          match clipping clippingWindow with
          | none => plotResult (displayPutpixel d stack color X Y rop c)
          | some w =>
              if w.Admits X Y then plotResult (displayPutpixel d stack color X Y rop c) else .ok (0, c)
        else .ok (-1, c)

end Code

/-! ## What should hold -/

variable {d : Display} {g : PlotGlobals} {w : Option ClippingWindow} {x y z X Y : ℤ} {color : UInt32} {rop : ℕ}
  {stack : Pixel} {c : Canvas}

/-- Within the near and the far limit. -/
def WithinDepth (g : PlotGlobals) (z : ℤ) : Prop := (depthLimits g).1 ≤ z ∧ z < (depthLimits g).2

/-- On the screen. -/
def OnDisplay (d : Display) (X Y : ℤ) : Prop := (0 ≤ X ∧ X < d.width) ∧ 0 ≤ Y ∧ Y < d.height

/-- In the rectangle of the window, if one is used. -/
def InClipping (w : Option ClippingWindow) (X Y : ℤ) : Prop :=
  ∀ v ∈ clipping w, ((v.absolute_x : ℤ) ≤ X ∧ X < v.absolute_x + v.width) ∧
    (v.absolute_y : ℤ) ≤ Y ∧ Y < v.absolute_y + v.height

/-- One pixel was changed, and it is in the back buffer. -/
structure PixelChanged (d : Display) (X Y : ℕ) (c c' : Canvas) : Prop where
  pixel : c'.pixels = c.pixels ++ [(X, Y)]
  bytes : UsesWithin c.buffer c'.buffer (d.place X Y) (d.place X Y + d.bpp.bytes)
  inside : d.place X Y + d.bpp.bytes ≤ d.bpp.bytes * (d.width * d.height)

/-- **A plot is clipped**: it changes the pixel of the point and returns 1 if the pixel is on the screen and in
the window, and it changes nothing and returns something else if it is not. -/
def PlotsClipped (d : Display) (g : PlotGlobals) (w : Option ClippingWindow) (z x y : ℤ) (color : UInt32)
    (rop : ℕ) : Prop :=
  ∀ (stack : Pixel) (c : Canvas),
    (¬WithinDepth g z → ∃ v ≠ 1, grPlot0 d stack g w z x y color rop c = .ok (v, c)) ∧
    (WithinDepth g z → ∃ X Y, plotPoint g w z x y = .ok (X, Y) ∧
      (OnDisplay d X Y ∧ InClipping w X Y →
        ∃ c', grPlot0 d stack g w z x y color rop c = .ok (1, c') ∧ PixelChanged d X.toNat Y.toNat c c') ∧
      (¬(OnDisplay d X Y ∧ InClipping w X Y) →
        ∃ v ≠ 1, grPlot0 d stack g w z x y color rop c = .ok (v, c)))

/-- The code goes on to plot a point of the screen. -/
def Reached (d : Display) (w : Option ClippingWindow) (X Y : ℤ) : Prop :=
  (2 ≤ d.width ∧ 2 ≤ d.height) ∧ ∀ v ∈ clipping w, v.Admits X Y

/-- **The condition**: the depth is out of its limits; or the transformation has no overflow, and if the point is
on the screen, then it is plotted exactly if it is in the window, and it is in the first 2 MB if it is. -/
def PlotCondition (d : Display) (g : PlotGlobals) (w : Option ClippingWindow) (z x y : ℤ) : Prop :=
  WithinDepth g z → ∃ X Y, plotPoint g w z x y = .ok (X, Y) ∧
    (OnDisplay d X Y → (InClipping w X Y ↔ Reached d w X Y) ∧
      (Reached d w X Y → d.place X.toNat Y.toNat < 0x00200000))

/-! ## The plot -/

lemma chained_iff (hX : 0 ≤ X) {n : ℕ} : chained X n ↔ 2 ≤ n := by
  rw [chained, if_pos hX]
  rfl

/-- Nothing is plotted beyond the limits of the depth. -/
lemma grPlot0_depth (h : ¬WithinDepth g z) : grPlot0 d stack g w z x y color rop c = .ok (0, c) := by
  unfold grPlot0
  by_cases hnear : z < (depthLimits g).1
  · exact if_pos hnear
  · refine (if_neg hnear).trans (if_pos ?_)
    by_contra hfar
    exact h ⟨not_lt.1 hnear, not_le.1 hfar⟩

/-- **A point on the screen.** -/
lemma grPlot0_onDisplay (stack : Pixel) (color : UInt32) (rop : ℕ) (c : Canvas) (h : WithinDepth g z)
    (hpoint : plotPoint g w z x y = .ok (X, Y)) (hon : OnDisplay d X Y) :
    (Reached d w X Y → grPlot0 d stack g w z x y color rop c
      = plotResult (d.fbBackBufferPutpixel stack color X Y rop c)) ∧
    (¬Reached d w X Y → ∃ v ≠ 1, grPlot0 d stack g w z x y color rop c = .ok (v, c)) := by
  obtain ⟨⟨hX, -⟩, hY, -⟩ := hon
  have hcall : grPlot0 d stack g w z x y color rop c =
      if chained X d.width ∧ chained Y d.height then
        match clipping w with
        | none => plotResult (displayPutpixel d stack color X Y rop c)
        | some w => if w.Admits X Y then plotResult (displayPutpixel d stack color X Y rop c) else .ok (0, c)
      else .ok (-1, c) := by
    unfold grPlot0
    dsimp only
    rw [if_neg (by have := h.1; omega), if_neg (by have := h.2; omega), hpoint]
    dsimp only
    rw [if_neg (by omega), if_neg (by omega)]
  have hput : displayPutpixel d stack color X Y rop c = d.fbBackBufferPutpixel stack color X Y rop c := by
    rw [displayPutpixel, if_neg (by omega), if_neg (by omega)]
  rw [hcall, hput]
  simp only [chained_iff hX, chained_iff hY, Reached]
  by_cases hsize : 2 ≤ d.width ∧ 2 ≤ d.height
  · rw [if_pos hsize]
    cases clipping w with
    | none => exact ⟨fun _ => rfl, fun hnot => absurd ⟨hsize, fun v hv => nomatch hv⟩ hnot⟩
    | some v =>
        dsimp only
        by_cases hadmits : v.Admits X Y
        · rw [if_pos hadmits]
          refine ⟨fun _ => rfl, fun hnot => absurd ⟨hsize, fun v' hv => ?_⟩ hnot⟩
          obtain rfl := Option.mem_some_iff.1 hv
          exact hadmits
        · rw [if_neg hadmits]
          exact ⟨fun hall => absurd (hall.2 v rfl) hadmits, fun _ => ⟨0, by norm_num, rfl⟩⟩
  · rw [if_neg hsize]
    exact ⟨fun hall => absurd hall.1 hsize, fun _ => ⟨-1, by norm_num, rfl⟩⟩

/-- **A point off the screen** is not plotted. -/
lemma grPlot0_offDisplay (h : WithinDepth g z) (hpoint : plotPoint g w z x y = .ok (X, Y))
    (hoff : ¬OnDisplay d X Y) : ∃ v ≠ 1, grPlot0 d stack g w z x y color rop c = .ok (v, c) := by
  unfold grPlot0
  dsimp only
  rw [if_neg (by have := h.1; omega), if_neg (by have := h.2; omega), hpoint]
  dsimp only
  by_cases hX : X < 0
  · exact ⟨-1, by norm_num, if_pos hX⟩
  rw [if_neg hX]
  by_cases hY : Y < 0
  · exact ⟨-1, by norm_num, if_pos hY⟩
  rw [if_neg hY]
  have hput : plotResult (displayPutpixel d stack color X Y rop c) = .ok (0, c) := by
    rw [displayPutpixel, if_neg hX, if_neg hY, Display.fbBackBufferPutpixel, Nat.mod_eq_of_lt d.width_lt,
      Nat.mod_eq_of_lt d.height_lt]
    rw [if_pos]
    · rfl
    · by_contra hin
      exact hoff ⟨⟨by omega, by omega⟩, by omega, by omega⟩
  rw [hput]
  by_cases hsize : chained X d.width ∧ chained Y d.height
  · rw [if_pos hsize]
    cases clipping w with
    | none => exact ⟨0, by norm_num, rfl⟩
    | some v =>
        refine ⟨0, by norm_num, ?_⟩
        dsimp only
        split <;> rfl
  · exact ⟨-1, by norm_num, if_neg hsize⟩

/-- The pixel of a point of the screen. -/
lemma fbBackBufferPutpixel_onDisplay (stack : Pixel) (color : UInt32) (rop : ℕ) (c : Canvas)
    (hon : OnDisplay d X Y) :
    (d.place X.toNat Y.toNat < 0x00200000 →
      ∃ c', d.fbBackBufferPutpixel stack color X Y rop c = .ok (1, c') ∧ PixelChanged d X.toNat Y.toNat c c') ∧
    (¬d.place X.toNat Y.toNat < 0x00200000 →
      d.fbBackBufferPutpixel stack color X Y rop c = .error (.exited 1)) := by
  obtain ⟨⟨hX, hwidth⟩, hY, hheight⟩ := hon
  lift X to ℕ using hX
  lift Y to ℕ using hY
  simp only [Int.toNat_natCast]
  have hx : X < d.width := by omega
  have hy : Y < d.height := by omega
  rw [Display.fbBackBufferPutpixel_eq hx hy]
  constructor
  · intro hplace
    refine ⟨_, if_neg (by omega), rfl, ?_, ?_⟩
    · have hload : UsesWithin c.buffer (c.buffer.load (d.place X Y) d.bpp.bytes).2 (d.place X Y)
          (d.place X Y + d.bpp.bytes) := by
        refine ⟨⟨[(_, _)], rfl, fun t ht => ?_⟩, fun _ _ => rfl⟩
        obtain rfl := List.mem_singleton.1 ht
        exact ⟨le_refl _, le_refl _⟩
      refine hload.trans (usesWithin_store (le_refl _) ?_)
      rw [Pixel.length_bytes]
    · have hrow : d.width * (Y + 1) ≤ d.width * d.height := Nat.mul_le_mul_left _ hy
      calc d.place X Y + d.bpp.bytes = d.bpp.bytes * (d.width * Y + X + 1) := by
            rw [Display.place]
            ring
        _ ≤ d.bpp.bytes * (d.width * d.height) := by
            refine Nat.mul_le_mul_left _ ?_
            rw [Nat.mul_add, Nat.mul_one] at hrow
            omega
  · intro hfar
    exact if_pos (by omega)

/-! ## The condition -/

/-- A plot that meets the condition is clipped. -/
lemma plotsClipped_of_condition (h : PlotCondition d g w z x y) : PlotsClipped d g w z x y color rop := by
  intro stack c
  refine ⟨fun hdepth => ⟨0, by norm_num, grPlot0_depth hdepth⟩, fun hdepth => ?_⟩
  obtain ⟨X, Y, hpoint, hon⟩ := h hdepth
  refine ⟨X, Y, hpoint, fun ⟨hdisplay, hwindow⟩ => ?_, fun hnot => ?_⟩
  · obtain ⟨hsame, hlimit⟩ := hon hdisplay
    have hreached := hsame.1 hwindow
    obtain ⟨c', hput, hchanged⟩ := (fbBackBufferPutpixel_onDisplay stack color rop c hdisplay).1 (hlimit hreached)
    refine ⟨c', ?_, hchanged⟩
    rw [(grPlot0_onDisplay stack color rop c hdepth hpoint hdisplay).1 hreached, hput]
    rfl
  · by_cases hdisplay : OnDisplay d X Y
    · have hout : ¬Reached d w X Y := fun hreached => hnot ⟨hdisplay, (hon hdisplay).1.2 hreached⟩
      exact (grPlot0_onDisplay stack color rop c hdepth hpoint hdisplay).2 hout
    · exact grPlot0_offDisplay hdepth hpoint hdisplay

/-- A plot that is clipped meets it. -/
lemma PlotsClipped.condition (h : PlotsClipped d g w z x y color rop) : PlotCondition d g w z x y := by
  intro hdepth
  obtain ⟨X, Y, hpoint, hshown, hhidden⟩ := (h ⟨0, 0, 0, 0⟩ (plainCanvas 0)).2 hdepth
  refine ⟨X, Y, hpoint, fun hdisplay => ?_⟩
  obtain ⟨hreach, hstop⟩ :=
    grPlot0_onDisplay ⟨0, 0, 0, 0⟩ color rop (plainCanvas 0) hdepth hpoint hdisplay
  obtain ⟨hnear, hfar⟩ := fbBackBufferPutpixel_onDisplay ⟨0, 0, 0, 0⟩ color rop (plainCanvas 0) hdisplay
  have hlimit : Reached d w X Y → d.place X.toNat Y.toNat < 0x00200000 := by
    intro hreached
    by_contra hbeyond
    have hexit := hreach hreached
    rw [hfar hbeyond] at hexit
    by_cases hwindow : InClipping w X Y
    · obtain ⟨c', hok, -⟩ := hshown ⟨hdisplay, hwindow⟩
      rw [hok] at hexit
      cases hexit
    · obtain ⟨v, -, hok⟩ := hhidden fun hand => hwindow hand.2
      rw [hok] at hexit
      cases hexit
  refine ⟨⟨fun hwindow => ?_, fun hreached => ?_⟩, hlimit⟩
  · by_contra hout
    obtain ⟨v, hv, hok⟩ := hstop hout
    obtain ⟨c', hok', -⟩ := hshown ⟨hdisplay, hwindow⟩
    exact hv (Prod.mk.inj (Except.ok.inj (hok.symm.trans hok'))).1
  · by_contra hwindow
    obtain ⟨v, hv, hok⟩ := hhidden fun hand => hwindow hand.2
    obtain ⟨c', hput, -⟩ := hnear (hlimit hreached)
    have hok' := hreach hreached
    rw [hput] at hok'
    exact hv (Prod.mk.inj (Except.ok.inj (hok.symm.trans hok'))).1

/-- **A plot is clipped** if and only if it meets the condition. -/
theorem plot_iff (d : Display) (g : PlotGlobals) (w : Option ClippingWindow) (z x y : ℤ) (color : UInt32)
    (rop : ℕ) : PlotsClipped d g w z x y color rop ↔ PlotCondition d g w z x y :=
  ⟨PlotsClipped.condition, plotsClipped_of_condition⟩

/-- Of the points that are plotted, those at the right and at the lower edge are outside a window that is as it
was created. -/
lemma inClipping_iff_reached {v : ClippingWindow} (hv : clipping w = some v)
    (hright : v.right = v.absolute_x + v.width) (hbottom : v.bottom = v.absolute_y + v.height)
    (hreached : Reached d w X Y) :
    InClipping w X Y ↔ X ≠ v.right ∧ Y ≠ v.bottom := by
  have hadmits := hreached.2 v hv
  obtain ⟨hleft, hx, htop, hy⟩ := hadmits
  constructor
  · intro hin
    obtain ⟨⟨-, hx'⟩, -, hy'⟩ := hin v hv
    omega
  · rintro ⟨hx', hy'⟩ v' hv'
    obtain rfl := Option.some.inj (hv.symm.trans hv')
    omega

/-- A window of 200 by 200 pixels, as it is created. -/
def innerClipping : ClippingWindow := ⟨TRUE, 1234, 100, 100, 200, 200, 300, 300⟩

/-- The point in the column behind the inner window is plotted. -/
theorem plot_fails : ¬∀ (d : Display) (g : PlotGlobals) (w : Option ClippingWindow) (z x y : ℤ) (color : UInt32)
    (rop : ℕ), PlotsClipped d g w z x y color rop := by
  intro h
  have hcondition := (h Screen.svga.display ⟨TRUE, 400, 300, none⟩ (some innerClipping) 0 100 0 0 0).condition
  obtain ⟨X, Y, hpoint, hon⟩ := hcondition ⟨by decide, by decide⟩
  have hvalue : plotPoint ⟨TRUE, 400, 300, none⟩ (some innerClipping) 0 100 0 = .ok (300, 200) := by decide
  obtain ⟨rfl, rfl⟩ := Prod.mk.inj (Except.ok.inj (hpoint.symm.trans hvalue))
  obtain ⟨hsame, -⟩ := hon ⟨⟨by decide, by decide⟩, by decide, by decide⟩
  have hin := hsame.2 ⟨⟨by decide, by decide⟩, fun v hv => ?_⟩
  · have hlt := (hin innerClipping rfl).1.2
    exact absurd hlt (by decide)
  · obtain rfl : innerClipping = v := Option.some.inj hv
    exact ⟨by decide, by decide, by decide, by decide⟩

end Gramado.Gws
