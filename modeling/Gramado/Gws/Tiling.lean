import Gramado.Gws.GeometryRun
import Mathlib.Order.CompletePartialOrder

/-!
# The tiling layout

What `__Tile` in `adam/gram3d/demo00/wm.c` does to the windows of the list: the last one gets the left half
of the working area, and the others are stacked in the right half.  Every window keeps a padding of two
pixels; where a tile has no four pixels for it, its size wraps below zero.

* `tile_spec` — where every window of the list is put.
* `tile_iff` — for which working areas and lists the layout is one.
-/

namespace Gramado.Gws

open Cells

/-! ## What should hold -/

/-- The pixels of a window. -/
def Place.pixels (v : Place) : Set (ℕ × ℕ) :=
  Set.Ico v.absoluteX (v.absoluteX + v.width) ×ˢ Set.Ico v.absoluteY (v.absoluteY + v.height)

/-- A window fills an area but for a padding of two pixels. -/
structure Place.Pads (v : Place) (left top width height : ℕ) : Prop where
  left : v.absoluteX = left + 2
  top : v.absoluteY = top + 2
  width : v.width + 4 = width
  height : v.height + 4 = height

/-- **The layout.**  Every window is in the working area, and no two of them overlap; the last one has the
left half, the keyboard and the top; the others are one below the other in the right half. -/
structure Desk.Tiled (d : Desk) (wa : WindowManagerInfo) (L : List ℕ) : Prop where
  inside : ∀ ptr ∈ L, ∃ v, d.placeOf ptr = some v ∧ v.absoluteX + v.width ≤ wa.waWidth ∧
    v.absoluteY + v.height ≤ wa.waHeight
  disjoint : L.Pairwise fun p q => ∀ v u, d.placeOf p = some v → d.placeOf q = some u →
    Disjoint v.pixels u.pixels
  master : ∀ ptr ∈ L.getLast?, d.keyboardOwner = ptr ∧ d.topWindow = ptr ∧
    ∀ v, d.placeOf ptr = some v → v.Pads 0 0 (wa.waWidth / 2) wa.waHeight
  right : ∀ ptr ∈ L.dropLast, ∀ v, d.placeOf ptr = some v → wa.waWidth / 2 ≤ v.absoluteX
  stacked : L.dropLast.Pairwise fun p q => ∀ v u, d.placeOf p = some v → d.placeOf q = some u →
    v.absoluteY + v.height ≤ u.absoluteY

/-- **The tiles are large enough** for the padding. -/
structure TilesFit (wa : WindowManagerInfo) (cnt : ℕ) : Prop where
  width : 4 ≤ wa.waWidth / 2
  height : 4 ≤ wa.waHeight
  tile : 1 < cnt → 4 ≤ wa.waHeight / (cnt - 1)

/-- The title bar that a move or a resize writes. -/
def GwsWindow.bar (w : GwsWindow) : ℕ := if w.type = WT_OVERLAPPED then w.titlebar else 0

/-- **What `__Tile` finds**: a horizontal tiling, a working area whose sizes are of the type `int`, and a list
of children of a root window at the origin.  The title bars are windows of their own. -/
structure Desk.Tileable (d : Desk) (root : ℕ) (L : List ℕ) : Prop where
  initialized : d.wm.initialized = TRUE
  mode : d.wm.mode = WM_MODE_TILED
  vertical : d.wm.vertical = FALSE
  origin : d.wm.waLeft = 0 ∧ d.wm.waTop = 0
  size : d.wm.waWidth < 2 ^ 31 ∧ d.wm.waHeight < 2 ^ 31
  wellFormed : d.WellFormed
  chain : Chain d.next (· = 0) d.firstWindow L
  nonempty : L ≠ []
  rootOrigin : root ∉ L ∧ ∃ p, d.win root = some p ∧ p.absoluteX = 0 ∧ p.absoluteY = 0
  window : ∀ ptr ∈ L, ∃ w, d.win ptr = some w ∧ w.parent = root ∧
    (w.bar ≠ 0 → w.bar ∉ L ∧ w.bar ≠ root ∧ (d.win w.bar).isSome)

section

variable {d d' d₁ d₂ : Desk} {p q x y cx cy root i cnt n : ℕ} {w w₁ rw : GwsWindow} {s : Slot} {L : List ℕ}
  {f : GwsWindow → GwsWindow}

/-! ## One window -/

/-- A window has the keyboard and is on top. -/
def Desk.Front (d : Desk) (p : ℕ) : Prop := d.keyboardOwner = p ∧ d.topWindow = p

/-- Of the objects, only a window and its title bar are written, and none is added. -/
structure Writes (p bar : ℕ) (d d' : Desk) : Prop where
  win : ∀ q, q ≠ p → (bar ≠ 0 → q ≠ bar) → d'.win q = d.win q
  isSome : ∀ q, (d'.win q).isSome = (d.win q).isSome
  wm : d'.wm = d.wm
  front : d.Front p → d'.Front p

lemma Writes.refl (p bar : ℕ) (d : Desk) : Writes p bar d d :=
  ⟨fun _ _ _ => rfl, fun _ => rfl, rfl, fun h => h⟩

lemma Writes.trans {bar : ℕ} (h : Writes p bar d d₁) (h' : Writes p bar d₁ d₂) : Writes p bar d d₂ where
  win q hp hbar := (h'.win q hp hbar).trans (h.win q hp hbar)
  isSome q := (h'.isSome q).trans (h.isSome q)
  wm := h'.wm.trans h.wm
  front hd := h'.front (h.front hd)

lemma modify_of_win (h : d.win p = some w) : d.modify p f = .ok (d.setWin p (f w)) := by
  rw [Desk.modify, deref_eq_ok.2 h, ok_bind]

lemma setWin_self : (d.setWin p w).win p = some w := Function.update_self ..

lemma setWin_ne (h : x ≠ p) : (d.setWin p w).win x = d.win x := Function.update_of_ne h _ _

lemma setWin_writes {bar : ℕ} (h : q = p ∨ (bar ≠ 0 ∧ q = bar)) (hq : (d.win q).isSome) :
    Writes p bar d (d.setWin q w) where
  win x hp hbar := by
    refine Function.update_of_ne ?_ _ _
    rintro rfl
    rcases h with rfl | ⟨hne, rfl⟩
    · exact hp rfl
    · exact hbar hne rfl
  isSome x := by
    by_cases hx : x = q
    · subst hx
      rw [setWin_self, hq]
      rfl
    · rw [setWin_ne hx]
  wm := rfl
  front h := h

/-- The title bar is written, and the window is not. -/
lemma modifyTitlebar_spec (w₁ : GwsWindow) (hw : d.win p = some w) (hbar : w₁.bar ≠ 0 → w₁.bar ≠ p ∧ (d.win w₁.bar).isSome) :
    ∃ d', d.modifyTitlebar w₁ f = .ok d' ∧ Writes p w₁.bar d d' ∧ d'.win p = some w := by
  rw [Desk.modifyTitlebar]
  by_cases h : w₁.type = WT_OVERLAPPED ∧ w₁.titlebar ≠ 0
  · have heq : w₁.bar = w₁.titlebar := if_pos h.1
    rw [heq] at hbar ⊢
    obtain ⟨hne, hsome⟩ := hbar h.2
    obtain ⟨b, hb⟩ := Option.isSome_iff_exists.1 hsome
    rw [if_pos h, modify_of_win hb]
    refine ⟨_, rfl, setWin_writes (.inr ⟨h.2, rfl⟩) hsome, ?_⟩
    rw [setWin_ne hne.symm, hw]
  · rw [if_neg h]
    exact ⟨d, rfl, .refl _ _ d, hw⟩

/-- **A resize.** -/
lemma resizeWindow_spec (cx cy : ℕ) (hp : p ≠ 0) (hw : d.win p = some w)
    (hbar : w.bar ≠ 0 → w.bar ≠ p ∧ (d.win w.bar).isSome) :
    ∃ d', resizeWindow d p cx cy = .ok d' ∧ Writes p w.bar d d' ∧ d'.win p = some (w.setSize cx cy) := by
  rw [resizeWindow, if_neg hp, deref_eq_ok.2 hw, ok_bind]
  by_cases hsize : w.width ≠ cx ∨ w.height ≠ cy
  · have hset : Writes p w.bar d (d.setWin p (w.setSize cx cy)) :=
      setWin_writes (.inl rfl) (by rw [hw]; rfl)
    rw [if_pos hsize, modify_of_win hw, ok_bind]
    obtain ⟨d', hd', hwrites, hwin⟩ := modifyTitlebar_spec (w.setSize cx cy)
      (f := GwsWindow.setWidth (ulongSub (ulongSub cx w.borderSize) w.borderSize)) setWin_self
      fun hne => ⟨(hbar hne).1, (hset.isSome _).trans (hbar hne).2⟩
    exact ⟨d', hd', hset.trans hwrites, hwin⟩
  · rw [not_or, not_not, not_not] at hsize
    refine ⟨d, if_neg (by simp [hsize]), .refl _ _ d, ?_⟩
    rw [hw, ← hsize.1, ← hsize.2]
    rfl

/-- **A move.** -/
lemma changeWindowPosition_spec (hp : p ≠ 0) (hw : d.win p = some w) (hroot : w.parent ≠ p)
    (hrw : d.win w.parent = some rw) (hbar : w.bar ≠ 0 → w.bar ≠ p ∧ (d.win w.bar).isSome) :
    ∃ d', changeWindowPosition d p x y = .ok d' ∧ Writes p w.bar d d' ∧
      d'.win p = some ((w.setOffset x y).setAbsolute (ulongAdd rw.absoluteX x) (ulongAdd rw.absoluteY y)) := by
  have hoffset : Writes p w.bar d (d.setWin p (w.setOffset x y)) :=
    setWin_writes (.inl rfl) (by rw [hw]; rfl)
  have hself : (d.setWin p (w.setOffset x y)).win p = some (w.setOffset x y) := setWin_self
  have hparent : (d.setWin p (w.setOffset x y)).win (w.setOffset x y).parent = some rw :=
    (setWin_ne hroot).trans hrw
  have habsolute : Writes p w.bar (d.setWin p (w.setOffset x y)) ((d.setWin p (w.setOffset x y)).setWin p
      ((w.setOffset x y).setAbsolute (ulongAdd rw.absoluteX x) (ulongAdd rw.absoluteY y))) :=
    setWin_writes (.inl rfl) (by rw [hself]; rfl)
  have hboth := hoffset.trans habsolute
  obtain ⟨d', hd', hwrites, hwin⟩ := modifyTitlebar_spec (w.setOffset x y)
    (f := GwsWindow.setAbsolute (ulongAdd x w.borderSize) (ulongAdd y w.borderSize)) setWin_self
    fun hne => ⟨(hbar hne).1, (hboth.isSome _).trans (hbar hne).2⟩
  rw [changeWindowPosition, if_neg hp, modify_of_win hw, ok_bind, deref_eq_ok.2 hself, ok_bind,
    deref_eq_ok.2 hparent, ok_bind, modify_of_win hself, ok_bind]
  exact ⟨d', hd', hboth.trans hwrites, hwin⟩

/-- A window at its tile. -/
structure GwsWindow.At (w : GwsWindow) (s : Slot) : Prop where
  absoluteX : w.absoluteX = s.left
  absoluteY : w.absoluteY = s.top
  width : w.width = s.width
  height : w.height = s.height

/-- What a tiling leaves of a window: its links and its title bar. -/
def GwsWindow.kept (w : GwsWindow) : ℕ × ℕ × ℕ := (w.next, w.parent, w.bar)

/-- The root window is at the origin. -/
structure Desk.Origin (d : Desk) (root : ℕ) : Prop where
  atZero : ∃ rw, d.win root = some rw ∧ rw.absoluteX = 0 ∧ rw.absoluteY = 0

/-- A child of the root window that can be tiled. -/
structure Desk.Child (d : Desk) (root p : ℕ) (w : GwsWindow) : Prop where
  win : d.win p = some w
  ne : p ≠ 0 ∧ p ≠ root
  parent : w.parent = root
  bar : w.bar ≠ 0 → w.bar ≠ p ∧ w.bar ≠ root ∧ (d.win w.bar).isSome

lemma Desk.Child.writes (h : d.Child root p w) (hwrites : Writes p w.bar d d') (hwin : d'.win p = some w₁)
    (hkept : w₁.kept = w.kept) : d'.Child root p w₁ := by
  obtain ⟨-, hparent, hbar⟩ : w₁.next = w.next ∧ w₁.parent = w.parent ∧ w₁.bar = w.bar := by
    simpa [GwsWindow.kept] using hkept
  refine ⟨hwin, h.ne, hparent.trans h.parent, fun hne => ?_⟩
  rw [hbar] at hne ⊢
  obtain ⟨hp, hroot, hsome⟩ := h.bar hne
  exact ⟨hp, hroot, (hwrites.isSome _).trans hsome⟩

lemma Desk.Origin.writes (h : d.Origin root) (hc : d.Child root p w) (hwrites : Writes p w.bar d d') :
    d'.Origin root := by
  obtain ⟨rw, hrw, horigin⟩ := h.atZero
  exact ⟨rw, by rw [hwrites.win root hc.ne.2.symm fun hne => (hc.bar hne).2.1.symm, hrw], horigin⟩

lemma ulongAdd_zero (hx : x < 2 ^ 64) : ulongAdd 0 x = x := by
  rw [ulongAdd, Nat.zero_add, Nat.mod_eq_of_lt hx]

/-- **A window is put into a slot.** -/
lemma resizeAndMove_spec (hc : d.Child root p w) (ho : d.Origin root) (hleft : s.left < 2 ^ 64)
    (htop : s.top < 2 ^ 64) : ∃ d' w', resizeAndMove d p s = .ok d' ∧ Writes p w.bar d d' ∧
      d'.win p = some w' ∧ w'.At s ∧ w'.kept = w.kept := by
  obtain ⟨d₁, h₁, hwrites₁, hwin₁⟩ := resizeWindow_spec s.width s.height hc.ne.1 hc.win
    fun hne => ⟨(hc.bar hne).1, (hc.bar hne).2.2⟩
  have hc₁ : d₁.Child root p (w.setSize s.width s.height) := hc.writes hwrites₁ hwin₁ rfl
  obtain ⟨rw, hrw, hx, hy⟩ := (ho.writes hc hwrites₁).atZero
  have hparent : (w.setSize s.width s.height).parent = root := hc.parent
  rw [← hparent] at hrw
  obtain ⟨d₂, h₂, hwrites₂, hwin₂⟩ := changeWindowPosition_spec (x := s.left) (y := s.top) hc.ne.1 hwin₁
    (by rw [hparent]; exact hc.ne.2.symm) hrw
    fun hne => ⟨(hc₁.bar hne).1, (hc₁.bar hne).2.2⟩
  rw [hx, hy, ulongAdd_zero hleft, ulongAdd_zero htop] at hwin₂
  refine ⟨d₂, _, ?_, hwrites₁.trans hwrites₂, hwin₂, ⟨rfl, rfl, rfl, rfl⟩, rfl⟩
  rw [resizeAndMove, h₁, ok_bind, h₂]

/-! ## The list -/

/-- A window gets another look. -/
lemma setLook_spec (hc : d.Child root p w) (active focus : ℤ) (border : ℕ) :
    ∃ d', d.modify p (GwsWindow.setLook active focus border) = .ok d' ∧ Writes p w.bar d d' ∧
      d'.win p = some (w.setLook active focus border) :=
  ⟨_, modify_of_win hc.win, setWin_writes (.inl rfl) (by rw [hc.win]; rfl), setWin_self⟩

/-- **One turn of the loop.** -/
lemma tileWindow_spec (i cnt : ℕ) (hc : d.Child root p w) (ho : d.Origin root) :
    ∃ d' w', tileWindow d p i cnt = .ok d' ∧ Writes p w.bar d d' ∧ d'.win p = some w' ∧
      w'.At (d.wm.place i cnt) ∧ w'.kept = w.kept ∧ (i + 1 = cnt → d'.Front p) := by
  obtain ⟨d₁, h₁, hwrites₁, hwin₁⟩ := setLook_spec hc FALSE TRUE 1
  have hc₁ := hc.writes hwrites₁ hwin₁ rfl
  obtain ⟨d₂, w₂, h₂, hwrites₂, hwin₂, hat₂, hkept₂⟩ := resizeAndMove_spec (s := d₁.wm.tile i cnt) hc₁
    (ho.writes hc hwrites₁) (Nat.mod_lt _ (by decide)) (Nat.mod_lt _ (by decide))
  rw [hwrites₁.wm] at hat₂
  have hboth : Writes p w.bar d d₂ := hwrites₁.trans hwrites₂
  have hc₂ : d₂.Child root p w₂ := hc.writes hboth hwin₂ hkept₂
  have hbar₂ : w₂.bar = w.bar := (Prod.mk.inj (Prod.mk.inj hkept₂).2).2
  rw [tileWindow, h₁, ok_bind, h₂, ok_bind, WindowManagerInfo.place]
  by_cases hlast : i + 1 = cnt
  · obtain ⟨d₃, h₃, hwrites₃, hwin₃⟩ := setLook_spec hc₂ TRUE TRUE 2
    rw [hbar₂] at hwrites₃
    have hfront : Writes p w.bar d₃ (((d₃.setOwner p).setLast p).setTop p) :=
      ⟨fun _ _ _ => rfl, fun _ => rfl, rfl, fun _ => ⟨rfl, rfl⟩⟩
    have hall := hboth.trans (hwrites₃.trans hfront)
    have hc₃ : (((d₃.setOwner p).setLast p).setTop p).Child root p (w₂.setLook TRUE TRUE 2) :=
      hc.writes hall hwin₃ hkept₂
    obtain ⟨d₄, w₄, h₄, hwrites₄, hwin₄, hat₄, hkept₄⟩ := resizeAndMove_spec (s := d.wm.master) hc₃
      (ho.writes hc hall) (Nat.mod_lt _ (by decide)) (Nat.mod_lt _ (by decide))
    have hwm : d₃.wm = d.wm := hall.wm
    rw [if_pos hlast, if_pos hlast, h₃, ok_bind, hwm, h₄]
    have hbar₄ : (w₂.setLook TRUE TRUE 2).bar = w.bar := hbar₂
    rw [hbar₄] at hwrites₄
    exact ⟨d₄, w₄, rfl, hall.trans hwrites₄, hwin₄, hat₄, hkept₄.trans hkept₂,
      fun _ => hwrites₄.front ⟨rfl, rfl⟩⟩
  · rw [if_neg hlast, if_neg hlast]
    exact ⟨d₂, w₂, rfl, hboth, hwin₂, hat₂, hkept₂, fun h => absurd h hlast⟩

/-- The children of the root window that are still to be tiled. -/
structure Desk.Children (d : Desk) (root : ℕ) (bars : Set ℕ) (L : List ℕ) : Prop where
  child : ∀ p ∈ L, p ∉ bars ∧ ∃ w, d.Child root p w ∧ (w.bar ≠ 0 → w.bar ∈ bars)

/-- **The loop** puts every window of the list into its slot, and writes nothing else but title bars. -/
lemma tileLoop_spec {bars : Set ℕ} (hmode : d.wm.mode = WM_MODE_TILED) (hvertical : d.wm.vertical = FALSE)
    (ho : d.Origin root) (hL : Chain d.next (· = 0) p L) (hc : d.Children root bars L)
    (hn : L.length < n) (hcnt : i + L.length = cnt) :
    ∃ d', tileLoop cnt n i p d = .ok d' ∧ (∀ q ∉ L, q ∉ bars → d'.win q = d.win q) ∧
      (∀ j q, L[j]? = some q → ∃ w, d'.win q = some w ∧ w.At (d.wm.place (i + j) cnt)) ∧
      ∀ q ∈ L.getLast?, d'.Front q := by
  induction n generalizing i p L d with
  | zero => omega
  | succ n ih =>
      rw [tileLoop]
      cases L with
      | nil =>
          have hend : p = 0 := hL
          rw [if_pos hend]
          exact ⟨d, rfl, fun _ _ _ => rfl, fun j q h => (by cases h), fun q h => (by cases h)⟩
      | cons q L =>
          obtain ⟨rfl, hmore, r, hr, hrest⟩ := hL
          obtain ⟨hp, w, hw, hbar⟩ := hc.child p List.mem_cons_self
          have hchain : Chain d.next (· = 0) p (p :: L) := ⟨rfl, hmore, r, hr, hrest⟩
          have hnodup : p ∉ L := (List.nodup_cons.1 hchain.nodup).1
          rw [List.length_cons] at hn hcnt
          obtain ⟨d₁, w₁, h₁, hwrites, hwin, hat, hkept, hfront⟩ :=
            tileWindow_spec i cnt hw ho
          have hnext : w.next = r := by
            obtain ⟨u, hu, hnext⟩ := next_eq_some.1 hr
            obtain rfl := Option.some.inj (hw.win.symm.trans hu)
            exact hnext
          have hnext₁ : w₁.next = r := (Prod.mk.inj hkept).1.trans hnext
          -- the rest of the list is what it was
          have hsame : ∀ q ∈ L, d₁.win q = d.win q := fun q hq =>
            hwrites.win q (ne_of_mem_of_not_mem hq hnodup) fun hne =>
              ne_of_mem_of_not_mem (hbar hne) (hc.child q (List.mem_cons_of_mem _ hq)).1 |>.symm
          have hL₁ : Chain d₁.next (· = 0) r L := hrest.congr fun q hq => by
            rw [Desk.next, Desk.next, hsame q hq]
          have hc₁ : d₁.Children root bars L := ⟨fun q hq => by
            obtain ⟨hqbars, u, hu, hubar⟩ := hc.child q (List.mem_cons_of_mem _ hq)
            refine ⟨hqbars, u, ⟨(hsame q hq).trans hu.win, hu.ne, hu.parent, fun hne => ?_⟩, hubar⟩
            obtain ⟨hne₁, hne₂, hsome⟩ := hu.bar hne
            exact ⟨hne₁, hne₂, (hwrites.isSome _).trans hsome⟩⟩
          obtain ⟨d₂, h₂, hothers, hslots, hlast⟩ := ih (i := i + 1) (by rw [hwrites.wm, hmode])
            (by rw [hwrites.wm, hvertical]) (ho.writes hw hwrites) hL₁ hc₁ (by omega) (by omega)
          have hlt : ¬i ≥ cnt := by omega
          rw [if_neg hmore, if_neg hlt, if_pos ⟨hmode, hvertical⟩, h₁, ok_bind]
          dsimp only
          rw [deref_eq_ok.2 hwin, ok_bind, hnext₁]
          refine ⟨d₂, h₂, fun q hq hqbars => ?_, fun j q hj => ?_, fun q hq => ?_⟩
          · rw [List.mem_cons, not_or] at hq
            rw [hothers q hq.2 hqbars, hwrites.win q hq.1 fun hne => (ne_of_mem_of_not_mem (hbar hne) hqbars).symm]
          · cases j with
            | zero =>
                obtain rfl : p = q := Option.some.inj hj
                exact ⟨w₁, (hothers p hnodup hp).trans hwin, hat⟩
            | succ j =>
                obtain ⟨u, hu, huat⟩ := hslots j q hj
                rw [hwrites.wm, Nat.add_right_comm] at huat
                exact ⟨u, hu, huat⟩
          · cases L with
            | nil =>
                obtain rfl : p = q := Option.some.inj hq
                obtain rfl : d₁ = d₂ := by
                  have hend : r = 0 := hL₁
                  cases n with
                  | zero => cases h₂
                  | succ n =>
                      rw [tileLoop, if_pos hend] at h₂
                      exact Except.ok.inj h₂
                exact hfront (by simpa using hcnt)
            | cons q' L => exact hlast q hq

lemma listSize_eq (hL : Chain d.next (· = 0) p L) (hn : L.length < n) : listSize d n p = .ok L.length := by
  induction n generalizing p L with
  | zero => omega
  | succ n ih =>
      rw [listSize]
      cases L with
      | nil =>
          have hend : p = 0 := hL
          rw [if_pos hend]
          rfl
      | cons q L =>
          obtain ⟨rfl, hmore, r, hr, hrest⟩ := hL
          obtain ⟨w, hw, rfl⟩ := next_eq_some.1 hr
          rw [List.length_cons] at hn ⊢
          rw [if_neg hmore, deref_eq_ok.2 hw, ok_bind, ih hrest (by omega)]
          rfl

/-- There are no more windows in the list than objects. -/
lemma Desk.Tileable.length_le (h : d.Tileable root L) : L.length ≤ d.objects := by
  have hsubset : L.toFinset ⊆ Finset.Icc 1 d.objects := by
    intro ptr hptr
    obtain ⟨w, hw, -⟩ := h.window ptr (List.mem_toFinset.1 hptr)
    exact Finset.mem_Icc.2 ((h.wellFormed ptr).1 (by rw [hw]; rfl))
  have hcard := Finset.card_le_card hsubset
  rwa [List.toFinset_card_of_nodup h.chain.nodup, Nat.card_Icc, Nat.add_sub_cancel] at hcard

/-- **`__Tile`** puts every window of the list into its slot, and the last one in front. -/
lemma tile_spec (h : d.Tileable root L) : ∃ d', tile d = .ok d' ∧
    (∀ j q, L[j]? = some q → ∃ w, d'.win q = some w ∧ w.At (d.wm.place j L.length)) ∧
    ∀ q ∈ L.getLast?, d'.Front q := by
  obtain ⟨hroot, p, hp, hx, hy⟩ := h.rootOrigin
  have hfirst : d.firstWindow ≠ 0 := by
    obtain ⟨q, M, hM⟩ := List.exists_cons_of_ne_nil h.nonempty
    have hchain := h.chain
    rw [hM] at hchain
    exact hchain.2.1
  have hc : d.Children root {b | b ∉ L ∧ b ≠ root} L := ⟨fun q hq => by
    obtain ⟨w, hw, hparent, hbar⟩ := h.window q hq
    refine ⟨fun hmem => hmem.1 hq, w, ⟨hw, ⟨fun hzero => ?_, fun hsame => hroot (hsame ▸ hq)⟩, hparent, fun hne => ?_⟩,
      fun hne => ⟨(hbar hne).1, (hbar hne).2.1⟩⟩
    · rw [hzero, h.wellFormed.null] at hw
      cases hw
    · exact ⟨fun hsame => (hbar hne).1 (hsame ▸ hq), (hbar hne).2⟩⟩
  have hlength := Nat.lt_succ_of_le h.length_le
  obtain ⟨d', hd', -, hslots, hfront⟩ := tileLoop_spec (i := 0) h.mode h.vertical ⟨p, hp, hx, hy⟩
    h.chain hc hlength (Nat.zero_add _)
  rw [tile, if_neg (not_not.2 h.initialized), if_neg hfirst, listSize_eq h.chain hlength, ok_bind]
  refine ⟨d', hd', fun j q hj => ?_, hfront⟩
  obtain ⟨w, hw, hat⟩ := hslots j q hj
  rw [Nat.zero_add] at hat
  exact ⟨w, hw, hat⟩

/-! ## The layout -/

/-- The windows of a list are at their tiles, and the last one is in front. -/
structure Desk.AtTiles (d : Desk) (wa : WindowManagerInfo) (L : List ℕ) : Prop where
  slot : ∀ j q, L[j]? = some q → ∃ w, d.win q = some w ∧ w.At (wa.place j L.length)
  front : ∀ q ∈ L.getLast?, d.Front q

variable {wa : WindowManagerInfo} {v u : Place} {j : ℕ}

/-- The place of the window number `j`. -/
lemma Desk.AtTiles.placeOf (h : d.AtTiles wa L) (hj : L[j]? = some q) (hv : d.placeOf q = some v) :
    v.absoluteX = (wa.place j L.length).left ∧ v.absoluteY = (wa.place j L.length).top ∧
      v.width = (wa.place j L.length).width ∧ v.height = (wa.place j L.length).height := by
  obtain ⟨w, hw, hat⟩ := h.slot j q hj
  obtain rfl : w.place = v := Option.some.inj (by rw [← hv, Desk.placeOf, hw]; rfl)
  exact ⟨hat.absoluteX, hat.absoluteY, hat.width, hat.height⟩

lemma Desk.AtTiles.exists_placeOf (h : d.AtTiles wa L) (hj : L[j]? = some q) : ∃ v, d.placeOf q = some v := by
  obtain ⟨w, hw, -⟩ := h.slot j q hj
  exact ⟨w.place, by rw [Desk.placeOf, hw]; rfl⟩

lemma place_last (horigin : wa.waLeft = 0 ∧ wa.waTop = 0) (hj : j + 1 = n) : wa.place j n =
    ⟨2, 2, ulongSub (wa.waWidth / 2) 4, ulongSub wa.waHeight 4⟩ := by
  rw [WindowManagerInfo.place, if_pos hj, WindowManagerInfo.master, horigin.1, horigin.2]
  rfl

lemma place_tile (hsize : wa.waWidth < 2 ^ 31 ∧ wa.waHeight < 2 ^ 31) (hj : j + 1 < n) :
    wa.place j n = ⟨wa.waWidth / 2 + 2, wa.waHeight / (n - 1) * j + 2, ulongSub (wa.waWidth / 2) 4,
      ulongSub (wa.waHeight / (n - 1)) 4⟩ := by
  have hrow : wa.waHeight / (n - 1) * j ≤ wa.waHeight :=
    (Nat.mul_le_mul_left _ (by omega)).trans (Nat.div_mul_le_self _ (n - 1))
  rw [WindowManagerInfo.place, if_neg (by omega), WindowManagerInfo.tile, if_pos (by omega)]
  rw [ulongAdd_of_lt (by omega), ulongAdd_of_lt (by omega)]

/-- A size that has no room for the padding is greater than any area. -/
lemma ulongSub_four (hx : x < 2 ^ 31) (h : ulongSub x 4 < 2 ^ 31) : 4 ≤ x := by
  by_contra hlt
  rw [ulongSub_of_lt (by omega) (by omega)] at h
  omega

/-- **A layout has room for the padding.** -/
lemma Desk.AtTiles.fit (h : d.AtTiles wa L) (horigin : wa.waLeft = 0 ∧ wa.waTop = 0)
    (hsize : wa.waWidth < 2 ^ 31 ∧ wa.waHeight < 2 ^ 31) (hne : L ≠ []) (hT : d.Tiled wa L) :
    TilesFit wa L.length := by
  have hpos : 0 < L.length := List.length_pos_iff.2 hne
  have hlast : L[L.length - 1]? = some (L.getLast hne) := by
    rw [← List.getLast?_eq_getElem?, List.getLast?_eq_some_getLast hne]
  obtain ⟨v, hv, hwidth, hheight⟩ := hT.inside _ (List.getLast_mem hne)
  obtain ⟨hx, hy, hw, hh⟩ := h.placeOf hlast hv
  rw [place_last horigin (by omega)] at hx hy hw hh
  dsimp only at hx hy hw hh
  refine ⟨ulongSub_four (by omega) (by omega), ulongSub_four hsize.2 (by omega), fun hmany => ?_⟩
  obtain ⟨q, hq⟩ : ∃ q, L[0]? = some q := ⟨L[0], List.getElem?_eq_getElem hpos⟩
  obtain ⟨u, hu, -, hrow⟩ := hT.inside q (List.mem_of_getElem? hq)
  obtain ⟨-, hy, -, hh⟩ := h.placeOf hq hu
  rw [place_tile hsize (by omega)] at hy hh
  dsimp only at hy hh
  have hle := Nat.div_le_self wa.waHeight (L.length - 1)
  exact ulongSub_four (by omega) (by omega)

/-- The tile number `j` with room for the padding. -/
lemma Desk.AtTiles.tile (h : d.AtTiles wa L) (hsize : wa.waWidth < 2 ^ 31 ∧ wa.waHeight < 2 ^ 31)
    (hfit : TilesFit wa L.length) (hj : j + 1 < L.length) (hq : L[j]? = some q) (hv : d.placeOf q = some v) :
    v.Pads (wa.waWidth / 2) (wa.waHeight / (L.length - 1) * j) (wa.waWidth / 2)
        (wa.waHeight / (L.length - 1)) ∧
      wa.waHeight / (L.length - 1) * (j + 1) ≤ wa.waHeight := by
  obtain ⟨hx, hy, hw, hh⟩ := h.placeOf hq hv
  rw [place_tile hsize hj] at hx hy hw hh
  dsimp only at hx hy hw hh
  have hwidth := hfit.width
  have htile := hfit.tile (by omega)
  have hle := Nat.div_le_self wa.waHeight (L.length - 1)
  rw [ulongSub_of_le (by omega) (by omega)] at hw hh
  refine ⟨⟨hx, hy, by omega, by omega⟩, ?_⟩
  exact (Nat.mul_le_mul_left _ (by omega)).trans (Nat.div_mul_le_self _ (L.length - 1))

/-- The last window with room for the padding. -/
lemma Desk.AtTiles.last (h : d.AtTiles wa L) (horigin : wa.waLeft = 0 ∧ wa.waTop = 0)
    (hsize : wa.waWidth < 2 ^ 31 ∧ wa.waHeight < 2 ^ 31) (hfit : TilesFit wa L.length) (hj : j + 1 = L.length)
    (hq : L[j]? = some q) (hv : d.placeOf q = some v) : v.Pads 0 0 (wa.waWidth / 2) wa.waHeight := by
  obtain ⟨hx, hy, hw, hh⟩ := h.placeOf hq hv
  rw [place_last horigin hj] at hx hy hw hh
  dsimp only at hx hy hw hh
  have hwidth := hfit.width
  have hheight := hfit.height
  rw [ulongSub_of_le (by omega) (by omega)] at hw hh
  exact ⟨hx, hy, by omega, by omega⟩

lemma disjoint_pixels_of_above (h : v.absoluteY + v.height ≤ u.absoluteY) : Disjoint v.pixels u.pixels :=
  Set.disjoint_left.2 fun _ hv hu => by
    have hlt := hv.2.2
    have hle := hu.2.1
    omega

lemma disjoint_pixels_of_right (h : u.absoluteX + u.width ≤ v.absoluteX) : Disjoint v.pixels u.pixels :=
  Set.disjoint_left.2 fun _ hv hu => by
    have hle := hv.1.1
    have hlt := hu.1.2
    omega

/-- The windows before the last one. -/
lemma mem_dropLast (h : q ∈ L.dropLast) : ∃ j, j + 1 < L.length ∧ L[j]? = some q := by
  obtain ⟨j, hj⟩ := List.mem_iff_getElem?.1 h
  have hlt : j < L.dropLast.length := (List.getElem?_eq_some_iff.1 hj).1
  rw [List.length_dropLast] at hlt
  rw [List.getElem?_dropLast, if_pos hlt] at hj
  exact ⟨j, by omega, hj⟩

/-- **With room for the padding it is a layout.** -/
lemma Desk.AtTiles.tiled (h : d.AtTiles wa L) (horigin : wa.waLeft = 0 ∧ wa.waTop = 0)
    (hsize : wa.waWidth < 2 ^ 31 ∧ wa.waHeight < 2 ^ 31) (hfit : TilesFit wa L.length) : d.Tiled wa L where
  inside q hq := by
    obtain ⟨j, hj⟩ := List.mem_iff_getElem?.1 hq
    have hlt : j < L.length := (List.getElem?_eq_some_iff.1 hj).1
    obtain ⟨v, hv⟩ := h.exists_placeOf hj
    refine ⟨v, hv, ?_⟩
    rcases Nat.lt_or_ge (j + 1) L.length with hbefore | hlast
    · obtain ⟨⟨hx, hy, hw, hh⟩, hrow⟩ := h.tile hsize hfit hbefore hj hv
      rw [Nat.mul_succ] at hrow
      omega
    · obtain ⟨hx, hy, hw, hh⟩ := h.last horigin hsize hfit (by omega) hj hv
      omega
  disjoint := by
    refine List.pairwise_iff_getElem.2 fun i j hi hj hij v u hv hu => ?_
    obtain ⟨⟨hx, hy, hw, hh⟩, -⟩ := h.tile hsize hfit (by omega) (List.getElem?_eq_getElem hi) hv
    rcases Nat.lt_or_ge (j + 1) L.length with hbefore | hlast
    · obtain ⟨⟨-, hy', -, -⟩, -⟩ := h.tile hsize hfit hbefore (List.getElem?_eq_getElem hj) hu
      refine disjoint_pixels_of_above ?_
      have hrows := Nat.mul_le_mul_left (wa.waHeight / (L.length - 1)) (Nat.succ_le_of_lt hij)
      rw [Nat.mul_succ] at hrows
      omega
    · obtain ⟨hx', -, hw', -⟩ := h.last horigin hsize hfit (by omega) (List.getElem?_eq_getElem hj) hu
      exact disjoint_pixels_of_right (by omega)
  master q hq := by
    have hlast : L[L.length - 1]? = some q := by
      rw [← List.getLast?_eq_getElem?]
      exact hq
    have hpos : L.length - 1 < L.length := (List.getElem?_eq_some_iff.1 hlast).1
    exact ⟨(h.front q hq).1, (h.front q hq).2, fun v hv => h.last horigin hsize hfit (by omega) hlast hv⟩
  right q hq v hv := by
    obtain ⟨j, hlt, hj⟩ := mem_dropLast hq
    obtain ⟨⟨hx, -, -, -⟩, -⟩ := h.tile hsize hfit hlt hj hv
    omega
  stacked := by
    refine List.pairwise_iff_getElem.2 fun i j hi hj hij v u hv hu => ?_
    rw [List.length_dropLast] at hi hj
    rw [List.getElem_dropLast] at hv hu
    obtain ⟨⟨-, hy, -, hh⟩, -⟩ := h.tile hsize hfit (by omega) (List.getElem?_eq_getElem (by omega)) hv
    obtain ⟨⟨-, hy', -, -⟩, -⟩ := h.tile hsize hfit (by omega) (List.getElem?_eq_getElem (by omega)) hu
    have hrows := Nat.mul_le_mul_left (wa.waHeight / (L.length - 1)) (Nat.succ_le_of_lt hij)
    rw [Nat.mul_succ] at hrows
    omega

end

/-- **For which working areas and lists** `__Tile` makes the layout. -/
theorem tile_iff {d : Desk} {root : ℕ} {L : List ℕ} (h : d.Tileable root L) :
    ∃ d', tile d = .ok d' ∧ (d'.Tiled d.wm L ↔ TilesFit d.wm L.length) := by
  obtain ⟨d', hd', hslots, hfront⟩ := tile_spec h
  have hat : d'.AtTiles d.wm L := ⟨hslots, hfront⟩
  exact ⟨d', hd', hat.fit h.origin h.size h.nonempty, hat.tiled h.origin h.size⟩

/-- A window of the list. -/
def listedWindow (next : ℕ) : GwsWindow :=
  { GwsWindow.zero with
    used := TRUE
    magic := 1234
    type := WT_OVERLAPPED
    parent := 1
    next := next }

/-- A list of `n` windows on the root window, on a screen of 800 by 600 pixels with a task bar of 40. -/
def listDesk (n : ℕ) : Desk :=
  { rootDesk with
    win := fun q =>
      if 1 < q ∧ q ≤ n + 1 then some (listedWindow (if q = n + 1 then 0 else q + 1)) else rootDesk.win q
    objects := n + 1
    firstWindow := 2
    lastWindow := n + 1
    wm :=
      { initialized := TRUE
        mode := WM_MODE_TILED
        vertical := FALSE
        isFullscreen := FALSE
        waLeft := 0
        waTop := 0
        waWidth := 800
        waHeight := 560 } }

section

variable {n q k : ℕ}

lemma listDesk_window (h : 1 < q ∧ q ≤ n + 1) :
    (listDesk n).win q = some (listedWindow (if q = n + 1 then 0 else q + 1)) := if_pos h

lemma listDesk_other (h : ¬(1 < q ∧ q ≤ n + 1)) : (listDesk n).win q = rootDesk.win q := if_neg h

lemma listDesk_root : (listDesk n).win 1 = some rootWindow := listDesk_other (by omega)

lemma listDesk_wellFormed : (listDesk n).WellFormed := by
  intro q
  have hobjects : (listDesk n).objects = n + 1 := rfl
  rw [hobjects]
  rcases lt_trichotomy q 1 with hzero | rfl | hmore
  · have hnone : (listDesk n).win q = none :=
      (listDesk_other (by omega)).trans (Function.update_of_ne (by omega) _ _)
    rw [hnone]
    exact iff_of_false (fun h => nomatch h) (by omega)
  · rw [listDesk_root]
    exact iff_of_true rfl (by omega)
  · by_cases hle : q ≤ n + 1
    · rw [listDesk_window ⟨hmore, hle⟩]
      exact iff_of_true rfl (by omega)
    · have hnone : (listDesk n).win q = none :=
        (listDesk_other (by omega)).trans (Function.update_of_ne (by omega) _ _)
      rw [hnone]
      exact iff_of_false (fun h => nomatch h) (by omega)

/-- From the window `q` on, the list has the windows up to `n + 1`. -/
lemma listDesk_chain : ∀ k q, 1 < q → q + k = n + 1 →
    Chain (listDesk n).next (· = 0) q (List.range' q (k + 1))
  | 0, q, hq, hk => by
      have hend : q = n + 1 := by omega
      refine ⟨rfl, by omega, 0, next_eq_some.2 ⟨_, listDesk_window ⟨hq, by omega⟩, if_pos hend⟩, rfl⟩
  | k + 1, q, hq, hk =>
      ⟨rfl, by omega, q + 1, next_eq_some.2 ⟨_, listDesk_window ⟨hq, by omega⟩, if_neg (by omega)⟩,
        listDesk_chain k (q + 1) (by omega) (by omega)⟩

lemma listDesk_tileable : (listDesk (k + 1)).Tileable 1 (List.range' 2 (k + 1)) where
  initialized := rfl
  mode := rfl
  vertical := rfl
  origin := ⟨rfl, rfl⟩
  size := ⟨(by decide : 800 < 2 ^ 31), (by decide : 560 < 2 ^ 31)⟩
  wellFormed := listDesk_wellFormed
  chain := listDesk_chain k 2 (by omega) (by omega)
  nonempty := List.cons_ne_nil _ _
  rootOrigin := by
    refine ⟨fun hmem => ?_, rootWindow, listDesk_root, rfl, rfl⟩
    have hle := (List.mem_range'_1.1 hmem).1
    omega
  window q hq := by
    have hbounds := List.mem_range'_1.1 hq
    exact ⟨_, listDesk_window (by omega), rfl, fun hbar => absurd rfl hbar⟩

end

/-- Two windows. -/
theorem tile_iff_pair : ∃ d', tile (listDesk 2) = .ok d' ∧
    (d'.Tiled (listDesk 2).wm (List.range' 2 2) ↔ TilesFit (listDesk 2).wm (List.range' 2 2).length) :=
  tile_iff listDesk_tileable

/-- **Two hundred windows** have tiles of two rows, and the sizes wrap. -/
theorem tile_fails : ¬∀ (d : Desk) (root : ℕ) (L : List ℕ), d.Tileable root L →
    ∃ d', tile d = .ok d' ∧ d'.Tiled d.wm L := by
  intro hall
  have h : (listDesk 200).Tileable 1 (List.range' 2 200) := listDesk_tileable
  obtain ⟨d', hd', hT⟩ := hall (listDesk 200) 1 (List.range' 2 200) h
  obtain ⟨d'', hd'', hslots, hfront⟩ := tile_spec h
  obtain rfl : d' = d'' := Except.ok.inj (hd'.symm.trans hd'')
  have hat : d'.AtTiles (listDesk 200).wm (List.range' 2 200) := ⟨hslots, hfront⟩
  have hfit := (hat.fit h.origin h.size h.nonempty hT).tile
  rw [List.length_range'] at hfit
  exact absurd (hfit (by decide)) (by decide)

end Gramado.Gws
