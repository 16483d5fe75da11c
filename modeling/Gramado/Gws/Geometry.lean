import Gramado.Gws.ApplicationKeep
import Gramado.Gws.Placement

/-!
# The geometry of the windows

The place of a window is stored in several fields: its offset in its parent, its absolute place, its
size, and its right and bottom edges.  They should fit together for every registered window.

They do not when a window gets a title bar, when it is moved or when it is resized: no operation
writes all of them, and none goes through the children.

* `Desk.GeometryOk` — what should hold of the registered windows.
* `Grows` — no registered window moves, so that the geometry is kept.
* `Does` — what a move or a resize does to the place of a window.
-/

namespace Gramado.Gws

/-! ## What should hold -/

/-- The fields about the place of a window. -/
structure Place where
  type : ℕ
  parent : ℕ
  left : ℕ
  top : ℕ
  width : ℕ
  height : ℕ
  absoluteX : ℕ
  absoluteY : ℕ
  right : ℕ
  bottom : ℕ
  clientLeft : ℕ
  clientTop : ℕ

/-- The place of a window. -/
def GwsWindow.place (w : GwsWindow) : Place where
  type := w.type
  parent := w.parent
  left := w.left
  top := w.top
  width := w.width
  height := w.height
  absoluteX := w.absoluteX
  absoluteY := w.absoluteY
  right := w.right
  bottom := w.bottom
  clientLeft := w.rcClient.left
  clientTop := w.rcClient.top

/-- The place of the window that a pointer points at. -/
def Desk.placeOf (d : Desk) (ptr : ℕ) : Option Place := (d.win ptr).map GwsWindow.place

/-- The offset of a window: the client area of an overlapped parent counts as well. -/
def Place.offset (p : Place) (pos client offset : ℕ) : ℕ :=
  if p.type = WT_OVERLAPPED then ulongAdd (ulongAdd pos offset) client else ulongAdd pos offset

/-- The fields of a window fit together. -/
structure Place.Fits (v : Place) (parent : Option Place) : Prop where
  absoluteX : v.absoluteX = parent.elim v.left fun p => p.offset p.absoluteX p.clientLeft v.left
  absoluteY : v.absoluteY = parent.elim v.top fun p => p.offset p.absoluteY p.clientTop v.top
  right : v.right = ulongAdd v.absoluteX v.width
  bottom : v.bottom = ulongAdd v.absoluteY v.height

/-- The pointer of a registered window. -/
def Desk.Registered (d : Desk) (ptr : ℕ) : Prop := ptr ≠ 0 ∧ ∃ slot, d.windowList slot = ptr

/-- The window fits into its parent, which is registered and older. -/
structure Desk.Placed (d : Desk) (ptr : ℕ) (v : Place) : Prop where
  placeOf : d.placeOf ptr = some v
  parent : v.parent ≠ 0 → d.Registered v.parent ∧ v.parent < ptr
  fits : v.Fits (if v.parent = 0 then none else d.placeOf v.parent)

/-- **The geometry** of all the registered windows. -/
def Desk.GeometryOk (d : Desk) : Prop := ∀ ptr, d.Registered ptr → ∃ v, d.Placed ptr v

/-- The title bar of no window is registered. -/
def Desk.NoBars (d : Desk) : Prop :=
  ∀ ptr w, d.win ptr = some w → w.titlebar ≤ d.objects ∧ ¬d.Registered w.titlebar

/-- The geometry, no title bars, and a pointer of its own for every object. -/
structure Desk.Settled (d : Desk) : Prop where
  geometry : d.GeometryOk
  wellFormed : d.WellFormed
  titlebar : d.NoBars

/-! ## What does not change -/

/-- The fields that tell whether a window is alive. -/
def GwsWindow.live (w : GwsWindow) : ℤ × ℤ := (w.used, w.magic)

/-- The pointers to other windows, and whether it is alive. -/
def GwsWindow.links (w : GwsWindow) : ℕ × ℕ × ℕ × ℤ × ℤ := (w.titlebar, w.next, w.parent, w.live)

/-- Of the registered windows, only those in `P` move. -/
structure Moves (P : ℕ → Prop) (d d' : Desk) : Prop where
  windowList : d'.windowList = d.windowList
  windowsCount : d'.windowsCount = d.windowsCount
  objects : d'.objects = d.objects
  wm : d'.wm = d.wm
  device : d'.deviceWidth = d.deviceWidth ∧ d'.deviceHeight = d.deviceHeight
  firstWindow : d'.firstWindow = d.firstWindow
  wellFormed : d.WellFormed → d'.WellFormed
  place : ∀ q, d.Registered q → ¬P q → d'.placeOf q = d.placeOf q
  links : ∀ q, (d'.win q).map GwsWindow.links = (d.win q).map GwsWindow.links

/-- No registered window moves. -/
abbrev Still (d d' : Desk) : Prop := Moves (fun _ => False) d d'

section

variable {P : ℕ → Prop} {d d' d'' : Desk} {ptr q window : ℕ} {v p : Place} {w w' : GwsWindow}
variable {f g : Place → Place → Place}

lemma Moves.refl (P : ℕ → Prop) (d : Desk) : Moves P d d :=
  ⟨rfl, rfl, rfl, rfl, ⟨rfl, rfl⟩, rfl, fun h => h, fun _ _ _ => rfl, fun _ => rfl⟩

lemma Moves.registered (h : Moves P d d') : d'.Registered q ↔ d.Registered q := by
  rw [Desk.Registered, Desk.Registered, h.windowList]

lemma Moves.trans (h : Moves P d d') (h' : Moves P d' d'') : Moves P d d'' where
  windowList := h'.windowList.trans h.windowList
  windowsCount := h'.windowsCount.trans h.windowsCount
  objects := h'.objects.trans h.objects
  wm := h'.wm.trans h.wm
  device := ⟨h'.device.1.trans h.device.1, h'.device.2.trans h.device.2⟩
  firstWindow := h'.firstWindow.trans h.firstWindow
  wellFormed := fun hd => h'.wellFormed (h.wellFormed hd)
  place := fun q hq hne => (h'.place q (h.registered.2 hq) hne).trans (h.place q hq hne)
  links := fun q => (h'.links q).trans (h.links q)

/-- What moves in fact decides. -/
lemma Moves.restrict {Q : ℕ → Prop} (h : Moves P d d')
    (hplace : ∀ q, d.Registered q → P q → ¬Q q → d'.placeOf q = d.placeOf q) : Moves Q d d' where
  windowList := h.windowList
  windowsCount := h.windowsCount
  objects := h.objects
  wm := h.wm
  device := h.device
  firstWindow := h.firstWindow
  wellFormed := h.wellFormed
  place := fun q hq hne => by
    by_cases hP : P q
    · exact hplace q hq hP hne
    · exact h.place q hq hP
  links := h.links

lemma Still.moves (h : Still d d') : Moves P d d' := h.restrict fun _ _ hfalse => hfalse.elim

/-- The object was there before. -/
lemma Moves.before (h : Moves P d d') (hw : d'.win q = some w') :
    ∃ w, d.win q = some w ∧ w.links = w'.links := by
  have hlinks := h.links q
  rwa [hw, Option.map_some, eq_comm, Option.map_eq_some_iff] at hlinks

lemma Moves.noBars (h : Moves P d d') (hbars : d.NoBars) : d'.NoBars := by
  intro ptr w' hw'
  obtain ⟨w, hw, hlinks⟩ := h.before hw'
  rw [← (Prod.mk.inj hlinks).1, h.registered, h.objects]
  exact hbars ptr w hw

/-- Objects may come, but no registered window moves. -/
structure Grows (d d' : Desk) : Prop where
  objects_le : d.objects ≤ d'.objects
  windowList : d'.windowList = d.windowList
  count_le : d.windowsCount ≤ d'.windowsCount
  device : d'.deviceWidth = d.deviceWidth ∧ d'.deviceHeight = d.deviceHeight
  wellFormed : d.WellFormed → d'.WellFormed
  place : ∀ q ≤ d.objects, d.Registered q → d'.placeOf q = d.placeOf q
  live : ∀ q ≤ d.objects, (d'.win q).map GwsWindow.live = (d.win q).map GwsWindow.live
  noBars : d.NoBars → d'.NoBars

lemma Grows.registered (h : Grows d d') : d'.Registered q ↔ d.Registered q := by
  rw [Desk.Registered, Desk.Registered, h.windowList]

lemma Grows.trans (h : Grows d d') (h' : Grows d' d'') : Grows d d'' where
  objects_le := h.objects_le.trans h'.objects_le
  windowList := h'.windowList.trans h.windowList
  count_le := h.count_le.trans h'.count_le
  device := ⟨h'.device.1.trans h.device.1, h'.device.2.trans h.device.2⟩
  wellFormed := fun hd => h'.wellFormed (h.wellFormed hd)
  place := fun q hle hq =>
    (h'.place q (hle.trans h.objects_le) (h.registered.2 hq)).trans (h.place q hle hq)
  live := fun q hle => (h'.live q (hle.trans h.objects_le)).trans (h.live q hle)
  noBars := fun hd => h'.noBars (h.noBars hd)

lemma Still.grows (h : Still d d') : Grows d d' where
  objects_le := h.objects.ge
  windowList := h.windowList
  count_le := h.windowsCount.ge
  device := h.device
  wellFormed := h.wellFormed
  place := fun q _ hq => h.place q hq not_false
  live := fun q _ => by
    have hlinks := congrArg (Option.map fun l : ℕ × ℕ × ℕ × ℤ × ℤ => l.2.2.2) (h.links q)
    rwa [Option.map_map, Option.map_map] at hlinks
  noBars := h.noBars

lemma Grows.refl (d : Desk) : Grows d d := Still.grows (.refl _ d)

/-- A registered window is an object. -/
lemma Desk.Settled.le (hd : d.Settled) (hq : d.Registered q) : q ≤ d.objects := by
  obtain ⟨v, hv⟩ := hd.geometry q hq
  refine ((hd.wellFormed q).1 ?_).2
  have hplace := hv.placeOf
  rw [Desk.placeOf, Option.map_eq_some_iff] at hplace
  obtain ⟨w, hw, -⟩ := hplace
  rw [hw]
  rfl

/-- **A window that fits still fits** when no registered window moves. -/
lemma Grows.placed (h : Grows d d') (hd : d.Settled) (hq : d.Registered q) (hv : d.Placed q v) :
    d'.Placed q v where
  placeOf := (h.place q (hd.le hq) hq).trans hv.placeOf
  parent := fun hparent => by
    rw [h.registered]
    exact hv.parent hparent
  fits := by
    have hfits := hv.fits
    by_cases hparent : v.parent = 0
    · rwa [if_pos hparent] at hfits ⊢
    · have hregistered := (hv.parent hparent).1
      rw [if_neg hparent] at hfits ⊢
      rwa [h.place v.parent (hd.le hregistered) hregistered]

/-- **What stands still keeps the geometry.** -/
lemma Grows.settled (h : Grows d d') (hd : d.Settled) : d'.Settled where
  geometry := fun ptr hptr => by
    rw [h.registered] at hptr
    exact (hd.geometry ptr hptr).imp fun v hv => h.placed hd hptr hv
  wellFormed := h.wellFormed hd.wellFormed
  titlebar := h.noBars hd.titlebar

/-! ## Writing to a window -/

lemma setWin_moves (hw : d.win ptr = some w) (hlinks : w'.links = w.links) :
    Moves (· = ptr) d (d.setWin ptr w') := by
  refine ⟨rfl, rfl, rfl, rfl, ⟨rfl, rfl⟩, rfl, fun hwf q => ?_, fun q _ hq => ?_, fun q => ?_⟩
  · refine Iff.trans ?_ (hwf q)
    by_cases hq : q = ptr
    · subst hq
      simp [Desk.setWin, hw]
    · simp [Desk.setWin, Function.update_of_ne hq]
  · simp [Desk.placeOf, Desk.setWin, Function.update_of_ne hq]
  · by_cases hq : q = ptr
    · subst hq
      simp [Desk.setWin, hw, hlinks]
    · simp [Desk.setWin, Function.update_of_ne hq]

lemma modify_ok {f : GwsWindow → GwsWindow} (h : d.modify ptr f = .ok d') :
    ∃ w, d.win ptr = some w ∧ d' = d.setWin ptr (f w) := by
  rw [Desk.modify] at h
  obtain ⟨w, hw, h⟩ := bind_eq_ok h
  cases h
  exact ⟨w, deref_eq_ok.1 hw, rfl⟩

lemma modify_moves {f : GwsWindow → GwsWindow} (h : d.modify ptr f = .ok d')
    (hf : ∀ w, (f w).links = w.links) :
    Moves (· = ptr) d d' ∧ ∃ w, d.win ptr = some w ∧ d'.win ptr = some (f w) := by
  obtain ⟨w, hw, rfl⟩ := modify_ok h
  exact ⟨setWin_moves hw (hf w), w, hw, by simp [Desk.setWin]⟩

/-- A function that does not look at the place of a window. -/
lemma modify_still {f : GwsWindow → GwsWindow} (h : d.modify ptr f = .ok d')
    (hf : ∀ w, (f w).links = w.links) (hplace : ∀ w, (f w).place = w.place) : Still d d' := by
  obtain ⟨hmoves, w, hw, hw'⟩ := modify_moves h hf
  refine hmoves.restrict fun q _ hq _ => ?_
  rw [hq, Desk.placeOf, Desk.placeOf, hw, hw', Option.map_some, Option.map_some, hplace]

/-- A title bar is not registered. -/
lemma modifyTitlebar_still {f : GwsWindow → GwsWindow} (h : d.modifyTitlebar w f = .ok d')
    (hf : ∀ w, (f w).links = w.links) (hbars : d.NoBars)
    (hw : ∃ w', d.win ptr = some w' ∧ w'.titlebar = w.titlebar) : Still d d' := by
  rw [Desk.modifyTitlebar] at h
  split_ifs at h
  · refine (modify_moves h hf).1.restrict fun q hregistered hq _ => ?_
    obtain ⟨w', hw', hsame⟩ := hw
    rw [hq, ← hsame] at hregistered
    exact absurd hregistered (hbars ptr w' hw').2
  · cases h
    exact .refl _ d

/-! ## Moving a window -/

/-- **A window is moved**: its place becomes what `f` makes of it and the place of its parent, and
no other registered window moves. -/
structure Does (window : ℕ) (f : Place → Place → Place) (d d' : Desk) : Prop where
  moves : Moves (· = window) d d'
  place : ∀ v p, d.Registered window → d.placeOf window = some v → v.parent ≠ window →
    d.Registered v.parent → d.placeOf v.parent = some p → d'.placeOf window = some (f p v)

/-- The parent stays what it is. -/
def KeepsParent (f : Place → Place → Place) : Prop := ∀ p v, (f p v).parent = v.parent

lemma Does.trans (h : Does window f d d') (h' : Does window g d' d'') (hf : KeepsParent f) :
    Does window (fun p v => g p (f p v)) d d'' where
  moves := h.moves.trans h'.moves
  place := by
    intro v p hwindow hv hne hparent hp
    have hv' := h.place v p hwindow hv hne hparent hp
    have hp' := (h.moves.place v.parent hparent hne).trans hp
    have hsame := hf p v
    refine h'.place (f p v) p (h.moves.registered.2 hwindow) hv' ?_ ?_ ?_
    · rwa [hsame]
    · rwa [hsame, h.moves.registered]
    · rwa [hsame]

lemma Still.does (h : Still d d') : Does window (fun _ v => v) d d' where
  moves := h.moves
  place := fun _ _ hwindow hv _ _ _ => (h.place window hwindow not_false).trans hv

/-- The window has a parent. -/
def Desk.HasParent (d : Desk) (window : ℕ) : Prop := ∀ w, d.win window = some w → w.parent ≠ 0

lemma Moves.hasParent (h : Moves P d d') : d'.HasParent window ↔ d.HasParent window := by
  have hlinks := h.links window
  rw [Desk.HasParent, Desk.HasParent]
  cases hw : d.win window with
  | none =>
      rw [hw, Option.map_none, Option.map_eq_none_iff] at hlinks
      simp [hlinks]
  | some w =>
      obtain ⟨w', hw', hsame⟩ := Option.map_eq_some_iff.1 (hlinks.trans (by rw [hw, Option.map_some]))
      have hparent : w'.parent = w.parent := (Prod.mk.inj (Prod.mk.inj (Prod.mk.inj hsame).2).2).1
      simp [hw', hparent]

/-- **Where a move leads back to the same place**, nothing moves. -/
lemma Does.still (h : Does window f d d') (hd : d.Settled) (hnull : d.HasParent window)
    (hsame : ∀ v p, d.Registered window → d.placeOf window = some v →
      d.placeOf v.parent = some p → v.Fits (some p) → f p v = v) : Still d d' := by
  refine h.moves.restrict fun q hq hwindow _ => ?_
  subst hwindow
  obtain ⟨v, hv⟩ := hd.geometry q hq
  have hnull' : v.parent ≠ 0 := by
    obtain ⟨w, hw, rfl⟩ := Option.map_eq_some_iff.1 hv.placeOf
    exact hnull w hw
  have hparent := hv.parent hnull'
  obtain ⟨p, hp⟩ := hd.geometry v.parent hparent.1
  have hfits := hv.fits
  rw [if_neg hnull', hp.placeOf] at hfits
  rw [h.place v p hq hv.placeOf hparent.2.ne hparent.1 hp.placeOf, hv.placeOf,
    hsame v p hq hv.placeOf hp.placeOf hfits]

/-- The place after `gwssrv_change_window_position`. -/
def Place.moved (x y : ℕ) (p v : Place) : Place :=
  { v with
    left := x
    top := y
    absoluteX := ulongAdd p.absoluteX x
    absoluteY := ulongAdd p.absoluteY y }

/-- The place after `gws_resize_window`. -/
def Place.sized (cx cy : ℕ) (_ v : Place) : Place := { v with width := cx, height := cy }

lemma Desk.WellFormed.null (h : d.WellFormed) : d.win 0 = none := by
  have hnull := h 0
  cases hw : d.win 0 with
  | none => rfl
  | some w => simp [hw] at hnull

lemma changeWindowPosition_does {x y : ℕ} (hbars : d.NoBars) (hwf : d.WellFormed)
    (h : changeWindowPosition d window x y = .ok d') :
    Does window (Place.moved x y) d d' ∧ d.HasParent window := by
  rw [changeWindowPosition] at h
  by_cases hnull : window = 0
  · rw [if_pos hnull] at h
    cases h
    subst hnull
    refine ⟨⟨.refl _ d, fun v p hregistered => absurd rfl hregistered.1⟩, fun w hw => ?_⟩
    rw [hwf.null] at hw
    cases hw
  rw [if_neg hnull] at h
  obtain ⟨d₁, h₁, h⟩ := bind_eq_ok h
  obtain ⟨w₁, hw₁, h⟩ := bind_eq_ok h
  obtain ⟨p₁, hp₁, h⟩ := bind_eq_ok h
  obtain ⟨d₂, h₂, h⟩ := bind_eq_ok h
  obtain ⟨hmoves₁, w, hw, hw₁'⟩ := modify_moves h₁ fun _ => rfl
  obtain ⟨hmoves₂, w₁', hw₁'', hw₂⟩ := modify_moves h₂ fun _ => rfl
  obtain rfl : w₁ = w.setOffset x y :=
    Option.some.inj ((deref_eq_ok.1 hw₁).symm.trans hw₁')
  obtain rfl : w₁' = w.setOffset x y := Option.some.inj (hw₁''.symm.trans hw₁')
  have hp₁ : d₁.win w.parent = some p₁ := deref_eq_ok.1 hp₁
  have hmoves := hmoves₁.trans hmoves₂
  have hbar : Still d₂ d' := by
    exact modifyTitlebar_still h (fun _ => rfl) (hmoves.noBars hbars) ⟨_, hw₂, rfl⟩
  refine ⟨⟨hmoves.trans hbar.moves, fun v p hwindow hv hne hparent hp => ?_⟩, fun w' hw' => ?_⟩
  · rw [Desk.placeOf, hw] at hv
    cases hv
    have hp₁' := (hmoves₁.place w.parent hparent hne).trans hp
    rw [Desk.placeOf, hp₁] at hp₁'
    cases hp₁'
    rw [hbar.place window (hmoves.registered.2 hwindow) not_false, Desk.placeOf, hw₂]
    rfl
  · obtain rfl : w = w' := Option.some.inj (hw.symm.trans hw')
    intro hparent
    rw [hparent, (hmoves₁.wellFormed hwf).null] at hp₁
    cases hp₁

lemma resizeWindow_does {cx cy : ℕ} (hbars : d.NoBars)
    (h : resizeWindow d window cx cy = .ok d') : Does window (Place.sized cx cy) d d' := by
  rw [resizeWindow] at h
  by_cases hnull : window = 0
  · rw [if_pos hnull] at h
    cases h
    exact ⟨.refl _ d, fun v p hregistered => absurd hnull hregistered.1⟩
  rw [if_neg hnull] at h
  obtain ⟨w, hw, h⟩ := bind_eq_ok h
  have hw := deref_eq_ok.1 hw
  by_cases hsize : w.width ≠ cx ∨ w.height ≠ cy
  · rw [if_pos hsize] at h
    obtain ⟨d₁, h₁, h⟩ := bind_eq_ok h
    obtain ⟨hmoves, w₀, hw₀, hw₁⟩ := modify_moves h₁ fun _ => rfl
    obtain rfl : w₀ = w := Option.some.inj (hw₀.symm.trans hw)
    have hbar : Still d₁ d' := by
      exact modifyTitlebar_still h (fun _ => rfl) (hmoves.noBars hbars) ⟨_, hw₁, rfl⟩
    refine ⟨hmoves.trans hbar.moves, fun v p hwindow hv _ _ _ => ?_⟩
    rw [Desk.placeOf, hw] at hv
    cases hv
    rw [hbar.place window (hmoves.registered.2 hwindow) not_false, Desk.placeOf, hw₁]
    rfl
  · rw [if_neg hsize] at h
    cases h
    rw [not_or, not_not, not_not] at hsize
    refine ⟨.refl _ d, fun v p _ hv _ _ _ => ?_⟩
    rw [Desk.placeOf, hw] at hv
    cases hv
    rw [Desk.placeOf, hw, Place.sized, ← hsize.1, ← hsize.2]
    rfl

/-- Where a slot puts a window. -/
def Slot.put (slot : Slot) (p v : Place) : Place :=
  Place.sized slot.width slot.height p (Place.moved slot.left slot.top p v)

lemma moveAndResize_does {slot : Slot} (hbars : d.NoBars) (hwf : d.WellFormed)
    (h : moveAndResize d window slot = .ok d') : Does window slot.put d d' ∧ d.HasParent window := by
  rw [moveAndResize] at h
  obtain ⟨d₁, h₁, h⟩ := bind_eq_ok h
  obtain ⟨hmove, hparent⟩ := changeWindowPosition_does hbars hwf h₁
  have hresize := resizeWindow_does (hmove.moves.noBars hbars) h
  exact ⟨hmove.trans hresize fun _ _ => rfl, hparent⟩

lemma resizeAndMove_does {slot : Slot} (hbars : d.NoBars) (hwf : d.WellFormed)
    (h : resizeAndMove d window slot = .ok d') : Does window slot.put d d' ∧ d.HasParent window := by
  rw [resizeAndMove] at h
  obtain ⟨d₁, h₁, h⟩ := bind_eq_ok h
  have hresize := resizeWindow_does hbars h₁
  obtain ⟨hmove, hparent⟩ :=
    changeWindowPosition_does (hresize.moves.noBars hbars) (hresize.moves.wellFormed hwf) h
  exact ⟨hresize.trans hmove fun _ _ => rfl, hresize.moves.hasParent.1 hparent⟩

/-! ## Harmless moves -/

/-- The client area of the parent does not count. -/
def Desk.NoClientOffset (d : Desk) (v : Place) : Prop :=
  ∀ p, d.placeOf v.parent = some p → p.type = WT_OVERLAPPED → p.clientLeft = 0 ∧ p.clientTop = 0

/-- A window that is registered is there already. -/
def Desk.At (d : Desk) (window x y : ℕ) : Prop :=
  ∀ v, d.Registered window → d.placeOf window = some v →
    (v.left = x ∧ v.top = y) ∧ d.NoClientOffset v

/-- A window that is registered has that size already. -/
def Desk.Sized (d : Desk) (window cx cy : ℕ) : Prop :=
  ∀ v, d.Registered window → d.placeOf window = some v → v.width = cx ∧ v.height = cy

/-- Both. -/
def Desk.InSlot (d : Desk) (window : ℕ) (slot : Slot) : Prop :=
  d.At window slot.left slot.top ∧ d.Sized window slot.width slot.height

lemma ulongAdd_zero_right (a b : ℕ) : ulongAdd (ulongAdd a b) 0 = ulongAdd a b := by
  simp [ulongAdd]

/-- A window that fits and does not count a client area is placed as a move places it. -/
lemma Place.Fits.moved (h : v.Fits (some p))
    (hclient : p.type = WT_OVERLAPPED → p.clientLeft = 0 ∧ p.clientTop = 0) :
    Place.moved v.left v.top p v = v := by
  have hx := h.absoluteX
  have hy := h.absoluteY
  by_cases htype : p.type = WT_OVERLAPPED
  · simp only [Option.elim, Place.offset, if_pos htype, hclient htype, ulongAdd_zero_right] at hx hy
    rw [Place.moved, ← hx, ← hy]
  · simp only [Option.elim, Place.offset, if_neg htype] at hx hy
    rw [Place.moved, ← hx, ← hy]

lemma Desk.At.still {x y : ℕ} (hat : d.At window x y) (h : Does window (Place.moved x y) d d')
    (hd : d.Settled) (hnull : d.HasParent window) : Still d d' := by
  refine h.still hd hnull fun v p hwindow hv hp hfits => ?_
  obtain ⟨⟨rfl, rfl⟩, hclient⟩ := hat v hwindow hv
  exact hfits.moved (hclient p hp)

lemma Desk.InSlot.still {slot : Slot} (hslot : d.InSlot window slot)
    (h : Does window slot.put d d') (hd : d.Settled) (hnull : d.HasParent window) :
    Still d d' := by
  refine h.still hd hnull fun v p hwindow hv hp hfits => ?_
  obtain ⟨⟨hleft, htop⟩, hclient⟩ := hslot.1 v hwindow hv
  obtain ⟨hwidth, hheight⟩ := hslot.2 v hwindow hv
  rw [Slot.put, ← hleft, ← htop, hfits.moved (hclient p hp), ← hwidth, ← hheight, Place.sized]

/-- A window of that size, also the root window, is not resized. -/
lemma Desk.Sized.still {cx cy : ℕ} (hsized : d.Sized window cx cy) (hd : d.Settled)
    (h : resizeWindow d window cx cy = .ok d') : Still d d' := by
  have hmoves := (resizeWindow_does hd.titlebar h).moves
  refine hmoves.restrict fun q hq hwindow _ => ?_
  subst hwindow
  obtain ⟨v, hv⟩ := hd.geometry q hq
  obtain ⟨w, hw, rfl⟩ := Option.map_eq_some_iff.1 hv.placeOf
  have hsame : w.width = cx ∧ w.height = cy := hsized w.place hq hv.placeOf
  rw [resizeWindow, if_neg hq.1, deref_eq_ok.2 hw, ok_bind, if_neg (by simp [hsame])] at h
  cases h
  rfl

/-! ## What stands still -/

lemma setOwner_still (d : Desk) (ptr : ℕ) : Still d (d.setOwner ptr) :=
  ⟨rfl, rfl, rfl, rfl, ⟨rfl, rfl⟩, rfl, fun h => h, fun _ _ _ => rfl, fun _ => rfl⟩

/-- A window becomes the keyboard owner, the last one and the one on top. -/
lemma setFront_still (d : Desk) (ptr : ℕ) : Still d (((d.setOwner ptr).setLast ptr).setTop ptr) :=
  ⟨rfl, rfl, rfl, rfl, ⟨rfl, rfl⟩, rfl, fun h => h, fun _ _ _ => rfl, fun _ => rfl⟩

lemma setActiveWindow_still (h : setActiveWindow d ptr = .ok d') : Still d d' := by
  rcases setActiveWindow_ok h with rfl | rfl
  · exact .refl _ _
  · exact ⟨rfl, rfl, rfl, rfl, ⟨rfl, rfl⟩, rfl, fun h => h, fun _ _ _ => rfl, fun _ => rfl⟩

lemma setFocus_still (h : setFocus d window = .ok d') : Still d d' := by
  rw [setFocus] at h
  split_ifs at h
  · cases h
    exact .refl _ d
  · obtain ⟨w, -, h⟩ := bind_eq_ok h
    split_ifs at h
    · cases h
      exact .refl _ d
    · cases h
      exact setOwner_still d window

/-- The border does not say where a window is. -/
lemma drawWindowBorder_place (w : GwsWindow) :
    w.drawWindowBorder.links = w.links ∧ w.drawWindowBorder.place = w.place := by
  rw [GwsWindow.drawWindowBorder]
  split_ifs <;> exact ⟨rfl, rfl⟩

lemma redrawWindow_still (h : redrawWindow d window = .ok d') : Still d d' := by
  have hself {e : Desk} (he : Except.ok d = (Except.ok e : Except ServerFault Desk)) :
      Still d e := by
    cases he
    exact .refl _ d
  rw [redrawWindow] at h
  split_ifs at h
  · exact hself h
  obtain ⟨w, -, h⟩ := bind_eq_ok h
  split_ifs at h
  · exact hself h
  · obtain ⟨p, -, h⟩ := bind_eq_ok h
    split_ifs at h
    · exact modify_still h (fun w => (drawWindowBorder_place _).1)
        fun w => (drawWindowBorder_place _).2
    · exact hself h
  · exact hself h

/-- An event does not say where a window is. -/
lemma onUpdateWindow_place (w : GwsWindow) (eventType : ℤ) :
    (onUpdateWindow w eventType).links = w.links ∧ (onUpdateWindow w eventType).place = w.place := by
  rw [onUpdateWindow]
  split_ifs
  · exact ⟨rfl, rfl⟩
  cases hfocus : getFocus w with
  | none => exact ⟨rfl, rfl⟩
  | some w' =>
      rw [getFocus] at hfocus
      split_ifs at hfocus
      cases hfocus
      dsimp only
      split_ifs <;> exact ⟨rfl, rfl⟩

lemma updateFocus_still {eventType : ℤ} (h : updateFocus d eventType = .ok d') : Still d d' := by
  rw [updateFocus] at h
  split_ifs at h
  · cases h
    exact .refl _ d
  · exact modify_still h (fun w => (onUpdateWindow_place w eventType).1)
      fun w => (onUpdateWindow_place w eventType).2

end

end Gramado.Gws
