import Gramado.Gws.GeometryRun

/-!
# Hit tests

`is_within`, `is_within2`, `__is_inside_menu` and `__probe_tb_button_hover` in `adam/gram3d/demo00/wm.c`.

No two of them look at the same rectangle.  `is_within` takes the upper edge of the window for its right
one.  `is_within2` adds the offset of the window to the place of its parent and leaves the client area out,
and `__is_inside_menu` does so with the left edge of the parent for both.  The edges belong to the rectangle
of the first test, and not to those of the others.

* `hitTests_iff` — at which points each of them agrees with the geometry, whatever edges are counted.
-/

namespace Gramado.Gws

/-! ## The tests -/

/-- `is_within`. -/
def isWithin (d : Desk) (window x y : ℕ) : Except ServerFault ℤ :=
  if window ≠ 0 then do
    let w ← d.deref window
    if w.used = TRUE ∧ w.magic = 1234 then
      -- `x <= window->absolute_y`
      if x ≥ w.absoluteX ∧ x ≤ w.absoluteY ∧ y ≥ w.absoluteY ∧ y ≤ w.bottom then .ok TRUE
      else .ok FALSE
    else .ok FALSE
  else .ok FALSE

/-- `x1 + size`, stored in an `int`. -/
def intEnd (x1 : ℤ) (size : ℕ) : ℤ := toInt32 (ulongAdd (toUlong x1) size)

/-- `is_within2`. -/
def isWithin2 (d : Desk) (window x y : ℕ) : Except ServerFault ℤ :=
  if window = 0 then .ok FALSE
  else do
    let w ← d.deref window
    if w.used ≠ TRUE ∧ w.magic ≠ 1234 then .ok FALSE
    else if w.parent = 0 then .ok FALSE
    else
      let pw ← d.deref w.parent
      if pw.used ≠ TRUE ∧ pw.magic ≠ 1234 then .ok FALSE
      else
        let x1 := toInt32 (ulongAdd pw.absoluteX w.left)
        let x2 := intEnd x1 w.width
        let y1 := toInt32 (ulongAdd pw.absoluteY w.top)
        let y2 := intEnd y1 w.height
        if x > toUlong x1 ∧ x < toUlong x2 ∧ y > toUlong y1 ∧ y < toUlong y2 then .ok TRUE
        else .ok FALSE

/-- `struct gwssrv_menu_d`, as far as it is used. -/
structure GwssrvMenu where
  parent : ℕ
  window : ℕ

/-- `__is_inside_menu`. -/
def isInsideMenu (d : Desk) (menu : Option GwssrvMenu) (x y : ℤ) : Except ServerFault ℤ :=
  match menu with
  | none => .ok (-1)
  | some m =>
      if m.parent = 0 then .ok (-1)
      else if m.window = 0 then .ok (-1)
      else do
        let pw ← d.deref m.parent
        let mw ← d.deref m.window
        let x1 := toInt32 (ulongAdd pw.absoluteX mw.left)
        let x2 := intEnd x1 mw.width
        -- `pw->absolute_x` once more
        let y1 := toInt32 (ulongAdd pw.absoluteX mw.top)
        let y2 := intEnd y1 mw.height
        if x > x1 ∧ x < x2 ∧ y > y1 ∧ y < y2 then .ok TRUE else .ok FALSE

/-- The loop of `__probe_tb_button_hover` over what is left of `tb_windows`: `mouse_hover`. -/
def probeButtons (d : Desk) (long1 long2 : ℕ) : List ℕ → ℕ → Except ServerFault ℕ
  | [], hover => .ok hover
  | button :: tbWindows, hover =>
      if button ≠ 0 then do
        let w ← d.deref button
        if w.magic = 1234 then
          let status ← isWithin d button long1 long2
          if status = TRUE then .ok button
          else probeButtons d long1 long2 tbWindows (if status = FALSE then 0 else hover)
        else probeButtons d long1 long2 tbWindows hover
      else probeButtons d long1 long2 tbWindows hover

/-- `__probe_tb_button_hover`: the first four entries of `tb_windows`. -/
def probeTbButtonHover (d : Desk) (tbWindows : ℕ → ℕ) (hover long1 long2 : ℕ) : Except ServerFault ℕ :=
  probeButtons d long1 long2 ((List.range 4).map tbWindows) hover

/-! ## What they should say -/

/-- Whether the left and upper edges, and the right and lower ones, belong to a rectangle. -/
structure Convention where
  lower : Prop
  upper : Prop

/-- A number lies between two edges. -/
def Convention.Between (c : Convention) (lo x hi : ℤ) : Prop :=
  (lo < x ∨ (lo = x ∧ c.lower)) ∧ (x < hi ∨ (x = hi ∧ c.upper))

/-- A point lies in the rectangle of a window. -/
def Place.Contains (v : Place) (c : Convention) (x y : ℤ) : Prop :=
  c.Between v.absoluteX x v.right ∧ c.Between v.absoluteY y v.bottom

/-- A registered window that is alive, and its place. -/
structure Desk.Shown (d : Desk) (window : ℕ) (v : Place) : Prop where
  registered : d.Registered window
  placeOf : d.placeOf window = some v
  live : ∃ w, d.win window = some w ∧ w.used = TRUE ∧ w.magic = 1234

/-- A test says `TRUE` exactly for the points that meet `P`. -/
def Tells (result : Except ServerFault ℤ) (P : Prop) : Prop :=
  (P → result = .ok TRUE) ∧ (¬P → result = .ok FALSE)

/-- `mouse_hover` is a button that contains the point, or `NULL` if none does. -/
def HoverOk (d : Desk) (c : Convention) (tbWindows : ℕ → ℕ) (x y hover : ℕ) : Prop :=
  (∃ i < 4, tbWindows i = hover ∧ ∃ v, d.Shown hover v ∧ v.Contains c x y) ∨
    (hover = 0 ∧ ∀ i < 4, ∀ v, d.Shown (tbWindows i) v → ¬v.Contains c x y)

/-! ## Where they do -/

/-- The point is in the rows of the window, and not left of it. -/
def Place.InBand (v : Place) (x y : ℕ) : Prop := v.absoluteX ≤ x ∧ v.absoluteY ≤ y ∧ y ≤ v.bottom

instance (v : Place) (x y : ℕ) : Decidable (v.InBand x y) := inferInstanceAs (Decidable (_ ∧ _ ∧ _))

/-- How far the client area of the parent moves a window. -/
def Place.shift (p : Place) (client : ℕ) : ℕ := if p.type = WT_OVERLAPPED then client else 0

/-- The point is strictly inside the rectangle of the window, moved to the left by `dx` and up by `dy`.
The edges are stored in variables of the type `int`, and read again by `read`. -/
def Place.MovedContains (v : Place) (read : ℤ → ℤ) (dx dy : ℕ) (x y : ℤ) : Prop :=
  let x1 := toInt32 (ulongSub v.absoluteX dx)
  let y1 := toInt32 (ulongSub v.absoluteY dy)
  (read x1 < x ∧ x < read (intEnd x1 v.width)) ∧ read y1 < y ∧ y < read (intEnd y1 v.height)

/-- **Where `is_within` agrees**: in the rows of the window and from its left edge on, the rectangle ends
where the column `absolute_y` is. -/
def WithinAgrees (v : Place) (c : Convention) (x y : ℕ) : Prop :=
  v.InBand x y → (x ≤ v.absoluteY ↔ v.Contains c x y)

/-- A window that is neither used nor has the right magic number. -/
def Desk.Dead (d : Desk) (window : ℕ) : Prop :=
  ∃ w, d.win window = some w ∧ w.used ≠ TRUE ∧ w.magic ≠ 1234

/-- **Where `is_within2` agrees**: outside a window that has no parent, or a dead one; otherwise in both or
neither of the rectangle and the one that the client area of the parent has not moved. -/
structure Within2Agrees (d : Desk) (v : Place) (c : Convention) (x y : ℤ) : Prop where
  orphan : v.parent = 0 ∨ d.Dead v.parent → ¬v.Contains c x y
  child : ∀ p, v.parent ≠ 0 → ¬d.Dead v.parent → d.placeOf v.parent = some p →
    (v.MovedContains (fun e => toUlong e) (p.shift p.clientLeft) (p.shift p.clientTop) x y ↔
      v.Contains c x y)

/-- **Where `__is_inside_menu` agrees**: the rectangle is also moved down by as much as the parent's left edge
is greater than its upper one. -/
def MenuAgrees (p v : Place) (c : Convention) (x y : ℤ) : Prop :=
  v.MovedContains (fun e => e) (p.shift p.clientLeft)
    (ulongSub (ulongAdd (p.shift p.clientTop) p.absoluteY) p.absoluteX) x y ↔ v.Contains c x y

/-- **Where `__probe_tb_button_hover` agrees**: the first button in whose rows the point is, not left of it and
not right of the column `absolute_y`, contains the point.  If there is none, then no button contains it,
and there are buttons, or `mouse_hover` was `NULL` before. -/
def HoverAgrees (d : Desk) (c : Convention) (tbWindows : ℕ → ℕ) (hover x y : ℕ) : Prop :=
  (∃ i < 4, ∃ v, d.Shown (tbWindows i) v ∧ v.InBand x y ∧ x ≤ v.absoluteY ∧ v.Contains c x y ∧
    ∀ j < i, ∀ u, d.Shown (tbWindows j) u → u.InBand x y → ¬x ≤ u.absoluteY) ∨
  ((∀ i < 4, ∀ v, d.Shown (tbWindows i) v → ¬v.Contains c x y ∧ (v.InBand x y → ¬x ≤ v.absoluteY)) ∧
    ((∃ i < 4, tbWindows i ≠ 0) ∨ hover = 0))

section

variable {d : Desk} {c : Convention} {v p : Place} {window x y n : ℕ} {tbWindows : ℕ → ℕ} {P Q : Prop}

lemma tells_ite [Decidable Q] : Tells (if Q then .ok TRUE else .ok FALSE) P ↔ (Q ↔ P) := by
  by_cases hQ : Q
  · rw [if_pos hQ]
    refine ⟨fun h => iff_of_true hQ ?_, fun h => ⟨fun _ => rfl, fun hP => absurd (h.1 hQ) hP⟩⟩
    by_contra hP
    exact absurd (h.2 hP) (by decide)
  · rw [if_neg hQ]
    refine ⟨fun h => iff_of_false hQ fun hP => absurd (h.1 hP) (by decide), fun h => ?_⟩
    exact ⟨fun hP => absurd (h.2 hP) hQ, fun _ => rfl⟩

lemma tells_false : Tells (.ok FALSE) P ↔ ¬P :=
  ⟨fun h hP => absurd (h.1 hP) (by decide), fun h => ⟨fun hP => absurd hP h, fun _ => rfl⟩⟩

/-- The window that a place belongs to. -/
lemma Desk.Shown.deref (h : d.Shown window v) :
    window ≠ 0 ∧ ∃ w, d.deref window = .ok w ∧ w.place = v ∧ w.used = TRUE ∧ w.magic = 1234 := by
  obtain ⟨w, hw, hlive⟩ := h.live
  have hplace : w.place = v := Option.some.inj (by rw [← h.placeOf, Desk.placeOf, hw]; rfl)
  exact ⟨h.registered.1, w, by rw [Desk.deref, hw], hplace, hlive⟩

lemma Desk.Shown.unique {u : Place} (h : d.Shown window v) (h' : d.Shown window u) : v = u :=
  Option.some.inj (h.placeOf.symm.trans h'.placeOf)

lemma not_shown_zero : ¬d.Shown 0 v := fun h => h.registered.1 rfl

lemma Place.Contains.inBand {x y : ℕ} (h : v.Contains c x y) : v.InBand x y := by
  obtain ⟨⟨hleft, -⟩, htop, hbottom⟩ := h
  exact ⟨by omega, by omega, by omega⟩

/-! ## `is_within` -/

/-- What `is_within` looks at. -/
lemma isWithin_eq (h : d.Shown window v) : isWithin d window x y =
    if v.InBand x y ∧ x ≤ v.absoluteY then .ok TRUE else .ok FALSE := by
  obtain ⟨hne, w, hw, rfl, hlive⟩ := h.deref
  rw [isWithin, if_pos hne, hw, ok_bind, if_pos hlive]
  refine if_congr ?_ rfl rfl
  show _ ↔ (w.absoluteX ≤ x ∧ w.absoluteY ≤ y ∧ y ≤ w.bottom) ∧ x ≤ w.absoluteY
  omega

lemma isWithin_iff (h : d.Shown window v) :
    Tells (isWithin d window x y) (v.Contains c x y) ↔ WithinAgrees v c x y := by
  rw [isWithin_eq h, tells_ite]
  constructor
  · intro hiff hband
    exact ⟨fun hx => hiff.1 ⟨hband, hx⟩, fun hin => (hiff.2 hin).2⟩
  · intro hagrees
    exact ⟨fun hhit => (hagrees hhit.1).1 hhit.2, fun hin => ⟨hin.inBand, (hagrees hin.inBand).2 hin⟩⟩

/-! ## `is_within2` and the menu -/

/-- Without the client area a window is at the place of its parent and its own offset. -/
lemma ulongSub_shift (pos client offset : ℕ) :
    ulongSub (p.offset pos client offset) (p.shift client) = ulongAdd pos offset := by
  rw [Place.offset, Place.shift]
  by_cases htype : p.type = WT_OVERLAPPED
  · rw [if_pos htype, if_pos htype]
    unfold ulongSub ulongAdd
    omega
  · rw [if_neg htype, if_neg htype]
    unfold ulongSub ulongAdd
    omega

/-- The same with the left edge of the parent in place of its upper one. -/
lemma ulongSub_shift_column (column pos client offset : ℕ) :
    ulongSub (p.offset pos client offset) (ulongSub (ulongAdd (p.shift client) pos) column) =
      ulongAdd column offset := by
  rw [Place.offset, Place.shift]
  by_cases htype : p.type = WT_OVERLAPPED
  · rw [if_pos htype, if_pos htype]
    unfold ulongSub ulongAdd
    omega
  · rw [if_neg htype, if_neg htype]
    unfold ulongSub ulongAdd
    omega

/-- The parent of a window, and where it puts it. -/
lemma Desk.GeometryOk.parent (hd : d.GeometryOk) (h : d.Shown window v) (hparent : v.parent ≠ 0) :
    ∃ pw, d.win v.parent = some pw ∧ d.placeOf v.parent = some pw.place ∧
      v.absoluteX = pw.place.offset pw.place.absoluteX pw.place.clientLeft v.left ∧
      v.absoluteY = pw.place.offset pw.place.absoluteY pw.place.clientTop v.top := by
  obtain ⟨u, hu⟩ := hd window h.registered
  obtain rfl : u = v := Option.some.inj (hu.placeOf.symm.trans h.placeOf)
  obtain ⟨q, hq⟩ := hd u.parent (hu.parent hparent).1
  obtain ⟨pw, hpw, rfl⟩ := Option.map_eq_some_iff.1 hq.placeOf
  have hfits := hu.fits
  rw [if_neg hparent, hq.placeOf] at hfits
  exact ⟨pw, hpw, hq.placeOf, hfits.absoluteX, hfits.absoluteY⟩

/-- What the two other tests look at. -/
lemma movedContains_iff (read : ℤ → ℤ) {dx dy a b : ℕ} {x y : ℤ}
    (hx : ulongSub v.absoluteX dx = ulongAdd a v.left) (hy : ulongSub v.absoluteY dy = ulongAdd b v.top) :
    v.MovedContains read dx dy x y ↔
      x > read (toInt32 (ulongAdd a v.left)) ∧ x < read (intEnd (toInt32 (ulongAdd a v.left)) v.width) ∧
        y > read (toInt32 (ulongAdd b v.top)) ∧ y < read (intEnd (toInt32 (ulongAdd b v.top)) v.height) := by
  unfold Place.MovedContains
  rw [hx, hy, and_assoc]

lemma isWithin2_iff (hd : d.GeometryOk) (h : d.Shown window v) :
    Tells (isWithin2 d window x y) (v.Contains c x y) ↔ Within2Agrees d v c x y := by
  obtain ⟨hne, w, hw, rfl, hused, hmagic⟩ := h.deref
  rw [isWithin2, if_neg hne, hw, ok_bind, if_neg fun hdead => hdead.1 hused]
  by_cases hparent : w.parent = 0
  · rw [if_pos hparent, tells_false]
    exact ⟨fun hout => ⟨fun _ => hout, fun p hp => absurd hparent hp⟩,
      fun hagrees => hagrees.orphan (.inl hparent)⟩
  obtain ⟨pw, hpw, hplace, hx, hy⟩ := hd.parent h hparent
  have hwin : d.win w.parent = some pw := hpw
  have hderef : d.deref w.parent = .ok pw := by rw [Desk.deref, hwin]
  rw [if_neg hparent, hderef, ok_bind]
  by_cases hdead : pw.used ≠ TRUE ∧ pw.magic ≠ 1234
  · rw [if_pos hdead, tells_false]
    exact ⟨fun hout => ⟨fun _ => hout, fun p _ hp => absurd ⟨pw, hpw, hdead⟩ hp⟩,
      fun hagrees => hagrees.orphan (.inr ⟨pw, hpw, hdead⟩)⟩
  have halive : ¬d.Dead w.parent := by
    rintro ⟨q, hq, hqdead⟩
    obtain rfl : pw = q := Option.some.inj (hpw.symm.trans hq)
    exact hdead hqdead
  have hmoved := movedContains_iff (fun e => toUlong e) (x := x) (y := y)
    (hx ▸ ulongSub_shift _ _ _) (hy ▸ ulongSub_shift _ _ _)
  simp only [gt_iff_lt, Nat.cast_lt] at hmoved
  rw [if_neg hdead, tells_ite]
  refine Iff.trans (iff_congr hmoved.symm Iff.rfl) ⟨fun hiff => ⟨fun horphan => ?_, fun p _ _ hp => ?_⟩,
    fun hagrees => hagrees.child pw.place hparent halive hplace⟩
  · exact absurd horphan (not_or.2 ⟨hparent, halive⟩)
  · obtain rfl : pw.place = p := Option.some.inj (hplace.symm.trans hp)
    exact hiff

/-- The menu's window is a child of the menu's parent. -/
lemma isInsideMenu_iff {m : GwssrvMenu} {x y : ℤ} (hd : d.GeometryOk) (h : d.Shown m.window v)
    (hparent : m.parent = v.parent) (hne : m.parent ≠ 0) (hp : d.placeOf m.parent = some p) :
    Tells (isInsideMenu d (some m) x y) (v.Contains c x y) ↔ MenuAgrees p v c x y := by
  obtain ⟨hwindow, w, hw, rfl, -⟩ := h.deref
  obtain ⟨pw, hpw, hplace, hx, hy⟩ := hd.parent h (hparent ▸ hne)
  rw [← hparent] at hpw hplace
  obtain rfl : pw.place = p := Option.some.inj (hplace.symm.trans hp)
  have hderef : d.deref m.parent = .ok pw := by rw [Desk.deref, hpw]
  have hmoved := movedContains_iff (fun e => e) (x := x) (y := y)
    (hx ▸ ulongSub_shift _ _ _) (hy ▸ ulongSub_shift_column pw.absoluteX _ _ _)
  rw [isInsideMenu]
  simp only [if_neg hne, if_neg hwindow, hderef, hw, ok_bind]
  rw [tells_ite]
  exact iff_congr hmoved.symm Iff.rfl

/-! ## The buttons of the task bar -/

/-- The point is where `is_within` looks for the window. -/
def Desk.Hit (d : Desk) (x y button : ℕ) : Prop := ∃ v, d.Shown button v ∧ v.InBand x y ∧ x ≤ v.absoluteY

/-- An entry of `tb_windows`: no button, or one that is alive. -/
def Desk.ButtonOk (d : Desk) (button : ℕ) : Prop := button = 0 ∨ ∃ v, d.Shown button v

lemma isWithin_hit (h : d.Shown window v) :
    (d.Hit x y window ∧ isWithin d window x y = .ok TRUE) ∨
      (¬d.Hit x y window ∧ isWithin d window x y = .ok FALSE) := by
  rw [isWithin_eq h]
  by_cases hhit : v.InBand x y ∧ x ≤ v.absoluteY
  · exact .inl ⟨⟨v, h, hhit⟩, if_pos hhit⟩
  · refine .inr ⟨?_, if_neg hhit⟩
    rintro ⟨u, hu, hin⟩
    obtain rfl := h.unique hu
    exact hhit hin

/-- **The loop** ends at the first button where the point is. -/
lemma probeButtons_spec {buttons : List ℕ} (hover : ℕ) (hok : ∀ b ∈ buttons, d.ButtonOk b) :
    (∃ before b after, buttons = before ++ b :: after ∧ d.Hit x y b ∧ (∀ b' ∈ before, ¬d.Hit x y b') ∧
      probeButtons d x y buttons hover = .ok b) ∨
    ((∀ b ∈ buttons, ¬d.Hit x y b) ∧
      probeButtons d x y buttons hover = .ok (if ∃ b ∈ buttons, b ≠ 0 then 0 else hover)) := by
  induction buttons generalizing hover with
  | nil => exact .inr ⟨List.forall_mem_nil _, by simp [probeButtons]⟩
  | cons b buttons ih =>
      obtain ⟨hb, hrest⟩ := List.forall_mem_cons.1 hok
      rcases hb with rfl | ⟨v, hv⟩
      · -- no button
        have hzero : ¬d.Hit x y 0 := fun ⟨v, hv, _⟩ => not_shown_zero hv
        have hstep : probeButtons d x y (0 :: buttons) hover = probeButtons d x y buttons hover := by
          rw [probeButtons, if_neg (by simp)]
        rw [hstep]
        rcases ih hover hrest with ⟨before, b, after, rfl, hhit, hbefore, hresult⟩ | ⟨hnone, hresult⟩
        · exact .inl ⟨0 :: before, b, after, rfl, hhit, List.forall_mem_cons.2 ⟨hzero, hbefore⟩, hresult⟩
        · refine .inr ⟨List.forall_mem_cons.2 ⟨hzero, hnone⟩, ?_⟩
          simpa using hresult
      · obtain ⟨hne, w, hw, rfl, -, hmagic⟩ := hv.deref
        rcases isWithin_hit (x := x) (y := y) hv with ⟨hhit, hstatus⟩ | ⟨hout, hstatus⟩
        · refine .inl ⟨[], b, buttons, rfl, hhit, List.forall_mem_nil _, ?_⟩
          rw [probeButtons, if_pos hne, hw, ok_bind, if_pos hmagic, hstatus, ok_bind, if_pos rfl]
        · have hstep : probeButtons d x y (b :: buttons) hover = probeButtons d x y buttons 0 := by
            rw [probeButtons, if_pos hne, hw, ok_bind, if_pos hmagic, hstatus, ok_bind, if_neg (by decide),
              if_pos rfl]
          rw [hstep]
          rcases ih 0 hrest with ⟨before, b', after, rfl, hhit, hbefore, hresult⟩ | ⟨hnone, hresult⟩
          · exact .inl ⟨b :: before, b', after, rfl, hhit, List.forall_mem_cons.2 ⟨hout, hbefore⟩, hresult⟩
          · refine .inr ⟨List.forall_mem_cons.2 ⟨hout, hnone⟩, ?_⟩
            rw [hresult, ite_self, if_pos ⟨b, List.mem_cons_self, hne⟩]

lemma not_hit {i : ℕ} : ¬d.Hit x y (tbWindows i) ↔
    ∀ v, d.Shown (tbWindows i) v → v.InBand x y → ¬x ≤ v.absoluteY :=
  ⟨fun h v hv hband hx => h ⟨v, hv, hband, hx⟩, fun h ⟨v, hv, hband, hx⟩ => h v hv hband hx⟩

/-- A split of the first entries of an array. -/
lemma split_map_range {before after : List ℕ} {b : ℕ}
    (h : (List.range n).map tbWindows = before ++ b :: after) :
    before.length < n ∧ tbWindows before.length = b ∧ ∀ j < before.length, tbWindows j ∈ before := by
  have hlength : n = before.length + (after.length + 1) := by
    simpa using congrArg List.length h
  have hget : ∀ j < n, (before ++ b :: after)[j]? = some (tbWindows j) := fun j hj => by
    rw [← h, List.getElem?_map, List.getElem?_range hj]
    rfl
  refine ⟨by omega, ?_, fun j hj => ?_⟩
  · have hat := hget before.length (by omega)
    rw [List.getElem?_append_right le_rfl, Nat.sub_self] at hat
    exact (Option.some.inj hat).symm
  · have hat := hget j (by omega)
    rw [List.getElem?_append_left hj] at hat
    exact List.mem_of_getElem? hat

/-- **`__probe_tb_button_hover`.** -/
lemma probeTbButtonHover_iff (hok : ∀ i < 4, d.ButtonOk (tbWindows i)) (hover : ℕ) :
    (∃ h, probeTbButtonHover d tbWindows hover x y = .ok h ∧ HoverOk d c tbWindows x y h) ↔
      HoverAgrees d c tbWindows hover x y := by
  have hmem : ∀ b ∈ (List.range 4).map tbWindows, d.ButtonOk b := by
    simpa only [List.mem_map, List.mem_range, forall_exists_index, and_imp, forall_apply_eq_imp_iff₂] using hok
  rcases probeButtons_spec (x := x) (y := y) hover hmem with
    ⟨before, b, after, hsplit, hhit, hbefore, hresult⟩ | ⟨hnone, hresult⟩
  · -- the button number `before.length` is hit
    obtain ⟨hlt, rfl, hmembers⟩ := split_map_range hsplit
    obtain ⟨v, hv, hband, hx⟩ := hhit
    have hfirst : ∀ j < before.length, ¬d.Hit x y (tbWindows j) := fun j hj => hbefore _ (hmembers j hj)
    constructor
    · rintro ⟨h, hh, hok⟩
      obtain rfl : tbWindows before.length = h := Except.ok.inj (hresult.symm.trans hh)
      rcases hok with ⟨i, -, -, u, hu, hin⟩ | ⟨hzero, -⟩
      · obtain rfl := hv.unique hu
        exact .inl ⟨before.length, hlt, v, hv, hband, hx, hin, fun j hj => not_hit.1 (hfirst j hj)⟩
      · exact absurd (hzero ▸ hv) not_shown_zero
    · rintro (⟨i, hi, u, hu, huband, hux, hin, hno⟩ | ⟨hno, -⟩)
      · -- both are the first button that is hit
        rcases Nat.lt_trichotomy i before.length with hless | rfl | hmore
        · exact absurd ⟨u, hu, huband, hux⟩ (hfirst i hless)
        · exact ⟨_, hresult, .inl ⟨before.length, hlt, rfl, u, hu, hin⟩⟩
        · exact absurd hx (hno _ hmore v hv hband)
      · exact absurd hx ((hno _ hlt v hv).2 hband)
  · have hnohit : ∀ i < 4, ∀ v, d.Shown (tbWindows i) v → v.InBand x y → ¬x ≤ v.absoluteY := fun i hi =>
      not_hit.1 (hnone _ (List.mem_map_of_mem (List.mem_range.2 hi)))
    have hbuttons : (∃ b ∈ (List.range 4).map tbWindows, b ≠ 0) ↔ ∃ i < 4, tbWindows i ≠ 0 := by
      simp only [List.mem_map, List.mem_range, exists_exists_and_eq_and]
    constructor
    · rintro ⟨h, hh, hok⟩
      obtain rfl := Except.ok.inj (hresult.symm.trans hh)
      have hzero : (if ∃ b ∈ (List.range 4).map tbWindows, b ≠ 0 then 0 else hover) = 0 ∧
          ∀ i < 4, ∀ v, d.Shown (tbWindows i) v → ¬v.Contains c x y := by
        rcases hok with ⟨i, hi, hentry, v, hv, hin⟩ | hzero
        · exfalso
          by_cases hany : ∃ b ∈ (List.range 4).map tbWindows, b ≠ 0
          · rw [if_pos hany] at hv
            exact not_shown_zero hv
          · rw [if_neg hany] at hentry hv
            rw [← hentry] at hv
            exact hany (hbuttons.2 ⟨i, hi, fun hnull => not_shown_zero (hnull ▸ hv)⟩)
        · exact hzero
      refine .inr ⟨fun i hi v hv => ⟨hzero.2 i hi v hv, hnohit i hi v hv⟩, ?_⟩
      by_cases hany : ∃ b ∈ (List.range 4).map tbWindows, b ≠ 0
      · exact .inl (hbuttons.1 hany)
      · exact .inr (by rw [← hzero.1, if_neg hany])
    · rintro (⟨i, hi, u, hu, huband, hux, -⟩ | ⟨hno, hempty⟩)
      · exact absurd hux (hnohit i hi u hu huband)
      · refine ⟨_, hresult, .inr ⟨?_, fun i hi v hv => (hno i hi v hv).1⟩⟩
        rcases hempty with hany | rfl
        · rw [if_pos (hbuttons.2 hany)]
        · rw [ite_self]

end

/-- A menu of 200 by 200 pixels. -/
def menuWindow : GwsWindow :=
  { GwsWindow.zero with
    used := TRUE
    magic := 1234
    id := 1
    type := WT_SIMPLE
    parent := 1
    left := 4
    top := 360
    width := 200
    height := 200
    absoluteX := 4
    absoluteY := 360
    right := 204
    bottom := 560
    rcClient := ⟨2, 2, 196, 164⟩ }

/-- The root window with the menu. -/
def menuDesk : Desk :=
  { rootDesk.setWin 2 menuWindow with
    objects := 2
    windowList := Function.update rootDesk.windowList 1 2
    windowsCount := 2 }

lemma menuDesk_registered {q : ℕ} (h : menuDesk.Registered q) : q = 1 ∨ q = 2 := by
  obtain ⟨hq, i, hi⟩ := h
  by_cases hslot : i = 1
  · subst hslot
    exact .inr hi.symm
  · have hold : menuDesk.windowList i = rootDesk.windowList i := Function.update_of_ne hslot _ _
    exact .inl (rootDesk_registered ⟨hq, i, hold ▸ hi⟩)

lemma menuDesk_geometry : menuDesk.GeometryOk := by
  intro q hq
  rcases menuDesk_registered hq with rfl | rfl
  · exact ⟨rootWindow.place, rfl, fun hparent => absurd rfl hparent, rfl, rfl, rfl, rfl⟩
  · exact ⟨menuWindow.place, rfl, fun _ => ⟨⟨by decide, 0, rfl⟩, by decide⟩, rfl, rfl, rfl, rfl⟩

lemma menuDesk_shown : menuDesk.Shown 2 menuWindow.place :=
  ⟨⟨by decide, 1, rfl⟩, rfl, menuWindow, rfl, rfl, rfl⟩

end Gramado.Gws
