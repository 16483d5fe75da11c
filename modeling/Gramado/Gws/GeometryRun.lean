import Gramado.Gws.ApplicationList
import Gramado.Gws.GeometryCreate

/-!
# Runs of the window manager

The windows are created, moved, resized, docked, tiled and shown in full-screen mode.  A step keeps
the geometry of the registered windows if it moves none of them to a new place, and if a window that
is created is placed where its fields say.

* `GeometryStep` — what happens.
* `GeometryStep.Harmless` — when a step keeps the geometry; `geometry_run` is about whole runs.
-/

namespace Gramado.Gws

open StepRun Cells

/-! ## Docking, tiling and full screen -/

section

variable (d : Desk)

/-- A move by `serviceChangeWindowPosition` is harmless. -/
def Desk.MoveOk (id : ℤ) (x y : ℕ) : Prop :=
  ∀ window, d.liveWindow id = .ok (some window) → d.At window x y

/-- A resize by `serviceResizeWindow` is harmless. -/
def Desk.ResizeOk (id : ℤ) (cx cy : ℕ) : Prop :=
  ∀ window, d.liveWindow id = .ok (some window) → d.Sized window cx cy

/-- `dock_window` is harmless. -/
def Desk.DockOk (window : ℕ) (position : ℤ) : Prop :=
  d.deviceWidth ≠ 0 → d.deviceHeight ≠ 0 → window ≠ d.rootWindow → window ≠ d.taskbarWindow →
    (∀ w, d.win window = some w → w.magic = 1234) →
      ∀ slot, dockSlot d.deviceWidth d.deviceHeight position = some slot → d.InSlot window slot

/-- Where `__Tile` leaves the window number `i` of `cnt`. -/
def WindowManagerInfo.place (wm : WindowManagerInfo) (i cnt : ℕ) : Slot :=
  if i + 1 = cnt then wm.master else wm.tile i cnt

/-- `wm_update_desktop` is harmless. -/
def Desk.DesktopOk (tiled : Bool) : Prop :=
  tiled = true → d.wm.initialized = TRUE → d.wm.mode = WM_MODE_TILED → d.wm.vertical = FALSE →
    ∀ L, Chain d.next (· = 0) d.firstWindow L →
      ∀ i window, L[i]? = some window → d.InSlot window (d.wm.place i L.length)

/-- The place that `wm_update_window_by_id` gives to a window. -/
def Desk.updateSlot : Option Slot :=
  if d.wm.isFullscreen = TRUE then some ⟨0, 0, d.deviceWidth, d.deviceHeight⟩
  else if d.wm.mode = WM_MODE_TILED then some ⟨0, 0, d.wm.waWidth, d.wm.waHeight⟩
  else none

/-- `wm_update_window_by_id` is harmless. -/
def Desk.UpdateOk (id : ℤ) : Prop :=
  d.wm.initialized = TRUE →
    ∀ window, d.liveWindow id = .ok (some window) →
      (∀ w, d.win window = some w → w.type = WT_OVERLAPPED) →
        ∀ slot, d.updateSlot = some slot → d.InSlot window slot

/-- `wm_enter_fullscreen_mode` is harmless. -/
def Desk.FullscreenOk : Prop :=
  ∀ w, d.win (if d.lastWindow ≠ 0 then d.lastWindow else d.firstWindow) = some w →
    (d.setFullscreen TRUE).UpdateOk w.id

end

section

variable {d d' : Desk} {window : ℕ}

lemma serviceChangeWindowPosition_still {id : ℤ} {x y : ℕ} {r : ℤ} (hd : d.Settled)
    (hok : d.MoveOk id x y) (h : serviceChangeWindowPosition d id x y = .ok (r, d')) : Still d d' := by
  rw [serviceChangeWindowPosition] at h
  obtain ⟨live, hlive, h⟩ := bind_eq_ok h
  cases live with
  | none =>
      cases h
      exact .refl _ d
  | some window =>
      obtain ⟨d₁, h₁, h⟩ := bind_eq_ok h
      cases h
      obtain ⟨hmove, hparent⟩ := changeWindowPosition_does hd.titlebar hd.wellFormed h₁
      exact (hok window hlive).still hmove hd hparent

lemma serviceResizeWindow_still {id : ℤ} {cx cy : ℕ} {r : ℤ} (hd : d.Settled)
    (hok : d.ResizeOk id cx cy) (h : serviceResizeWindow d id cx cy = .ok (r, d')) :
    Still d d' := by
  rw [serviceResizeWindow] at h
  obtain ⟨live, hlive, h⟩ := bind_eq_ok h
  cases live with
  | none =>
      cases h
      exact .refl _ d
  | some window =>
      obtain ⟨d₁, h₁, h⟩ := bind_eq_ok h
      cases h
      exact (hok window hlive).still hd h₁

lemma still_self (h : Except.ok d = (Except.ok d' : Except ServerFault Desk)) : Still d d' := by
  cases h
  exact .refl _ d

lemma dockWindow_still {position : ℤ} (hd : d.Settled) (hok : d.DockOk window position)
    (h : dockWindow d window position = .ok d') : Still d d' := by
  rw [dockWindow] at h
  by_cases hdevice : d.deviceWidth = 0 ∨ d.deviceHeight = 0
  · rw [if_pos hdevice] at h
    exact still_self h
  by_cases hnull : window = 0
  · rw [if_neg hdevice, if_pos hnull] at h
    exact still_self h
  rw [if_neg hdevice, if_neg hnull] at h
  obtain ⟨w, hw, h⟩ := bind_eq_ok h
  have hw := deref_eq_ok.1 hw
  split_ifs at h with hmagic hroot htaskbar
  · exact still_self h
  · exact still_self h
  · exact still_self h
  cases hslot : dockSlot d.deviceWidth d.deviceHeight position with
  | none =>
      rw [hslot] at h
      exact still_self h
  | some slot =>
      rw [hslot] at h
      obtain ⟨d₁, h₁, h⟩ := bind_eq_ok h
      rw [not_or] at hdevice
      have hin : d.InSlot window slot := by
        refine hok hdevice.1 hdevice.2 hroot htaskbar (fun w' hw' => ?_) slot hslot
        obtain rfl : w = w' := Option.some.inj (hw.symm.trans hw')
        exact not_not.1 hmagic
      obtain ⟨hdoes, hparent⟩ := moveAndResize_does hd.titlebar hd.wellFormed h₁
      exact (hin.still hdoes hd hparent).trans (redrawWindow_still h)

lemma dockActiveWindow_still {position : ℤ} (hd : d.Settled) (hok : d.DockOk d.activeWindow position)
    (h : dockActiveWindow d position = .ok d') : Still d d' := by
  rw [dockActiveWindow] at h
  by_cases hnull : d.activeWindow = 0
  · rw [if_pos hnull] at h
    exact still_self h
  rw [if_neg hnull] at h
  obtain ⟨w, -, h⟩ := bind_eq_ok h
  split_ifs at h
  · exact still_self h
  · exact still_self h
  · exact still_self h
  · exact dockWindow_still hd hok h

/-! ## Tiling -/

/-- The size of the list is the length of the chain. -/
lemma listSize_chain {n cnt : ℕ} (h : listSize d n window = .ok cnt) :
    ∃ L, Chain d.next (· = 0) window L ∧ L.length = cnt := by
  induction n generalizing window cnt with
  | zero => cases h
  | succ n ih =>
      rw [listSize] at h
      by_cases hend : window = 0
      · rw [if_pos hend] at h
        cases h
        exact ⟨[], hend, rfl⟩
      · rw [if_neg hend] at h
        obtain ⟨w, hw, h⟩ := bind_eq_ok h
        obtain ⟨size, hsize, h⟩ := bind_eq_ok h
        cases h
        obtain ⟨L, hL, rfl⟩ := ih hsize
        exact ⟨window :: L, ⟨rfl, hend, w.next, next_eq_some.2 ⟨w, deref_eq_ok.1 hw, rfl⟩, hL⟩, rfl⟩

lemma setLook_still {active focus : ℤ} {border : ℕ}
    (h : d.modify window (GwsWindow.setLook active focus border) = .ok d') : Still d d' :=
  modify_still h (fun _ => rfl) fun _ => rfl

/-- The links of the windows are what they were. -/
lemma Moves.next_eq {P : ℕ → Prop} (h : Moves P d d') : d'.next = d.next := by
  funext q
  have hlinks := congrArg (Option.map fun l : ℕ × ℕ × ℕ × ℤ × ℤ => l.2.1) (h.links q)
  rwa [Option.map_map, Option.map_map] at hlinks

/-- What is in a slot stays there when nothing moves. -/
lemma Still.inSlot {slot : Slot} (h : Still d d') (hd : d.Settled) (hin : d.InSlot window slot) :
    d'.InSlot window slot := by
  refine ⟨fun v hwindow hv => ?_, fun v hwindow hv => ?_⟩
  · rw [h.registered] at hwindow
    rw [h.place window hwindow not_false] at hv
    obtain ⟨hplace, hclient⟩ := hin.1 v hwindow hv
    refine ⟨hplace, fun p hp => ?_⟩
    obtain ⟨v', hv'⟩ := hd.geometry window hwindow
    obtain rfl : v = v' := Option.some.inj (hv.symm.trans hv'.placeOf)
    by_cases hnull : v.parent = 0
    · rw [hnull, Desk.placeOf, (h.wellFormed hd.wellFormed).null] at hp
      cases hp
    · rw [h.place v.parent (hv'.parent hnull).1 not_false] at hp
      exact hclient p hp
  · rw [h.registered] at hwindow
    rw [h.place window hwindow not_false] at hv
    exact hin.2 v hwindow hv

/-- The second of two slots decides. -/
lemma Does.put_again {a b : Slot} {d₁ d₂ : Desk} (h : Does window a.put d d₁) (hstill : Still d₁ d₂)
    (h' : Does window b.put d₂ d') : Does window b.put d d' :=
  h.trans (hstill.does.trans h' fun _ _ => rfl) fun _ _ => rfl

/-- **A window is tiled**, and where it is does not change. -/
lemma tileWindow_still {i cnt : ℕ} (hd : d.Settled) (hin : d.InSlot window (d.wm.place i cnt))
    (h : tileWindow d window i cnt = .ok d') : Still d d' := by
  rw [tileWindow] at h
  obtain ⟨d₁, h₁, h⟩ := bind_eq_ok h
  obtain ⟨d₂, h₂, h⟩ := bind_eq_ok h
  have hlook := setLook_still h₁
  have hd₁ := hlook.grows.settled hd
  have hin₁ := hlook.inSlot hd hin
  obtain ⟨htile, hparent⟩ := resizeAndMove_does hd₁.titlebar hd₁.wellFormed h₂
  rw [hlook.wm] at htile
  by_cases hlast : i + 1 = cnt
  · rw [if_pos hlast] at h
    rw [WindowManagerInfo.place, if_pos hlast] at hin₁
    obtain ⟨d₃, h₃, h⟩ := bind_eq_ok h
    have hlook₃ := setLook_still h₃
    have howner : Still d₂ (((d₃.setOwner window).setLast window).setTop window) :=
      hlook₃.trans (setFront_still d₃ window)
    have hmoves := htile.moves.trans howner.moves
    have hmaster := (resizeAndMove_does (hmoves.noBars hd₁.titlebar)
      (hmoves.wellFormed hd₁.wellFormed) h).1
    have hwm : d₃.wm = d.wm := by rw [hlook₃.wm, htile.moves.wm, hlook.wm]
    have hboth := htile.put_again howner hmaster
    rw [hwm] at hboth
    exact hlook.trans (hin₁.still hboth hd₁ hparent)
  · rw [if_neg hlast] at h
    rw [WindowManagerInfo.place, if_neg hlast] at hin₁
    cases h
    exact hlook.trans (hin₁.still htile hd₁ hparent)

lemma tileLoop_still {cnt n i : ℕ} {L : List ℕ} (hd : d.Settled)
    (hL : Chain d.next (· = 0) window L) (hcnt : i + L.length = cnt)
    (hin : d.wm.vertical = FALSE → d.wm.mode = WM_MODE_TILED →
      ∀ j ptr, L[j]? = some ptr → d.InSlot ptr (d.wm.place (i + j) cnt))
    (h : tileLoop cnt n i window d = .ok d') : Still d d' := by
  induction n generalizing i window L d with
  | zero => cases h
  | succ n ih =>
      rw [tileLoop] at h
      cases L with
      | nil =>
          have hend : window = 0 := hL
          rw [if_pos hend] at h
          exact still_self h
      | cons ptr L =>
          obtain ⟨rfl, hmore, r, hr, hL⟩ := hL
          have hlt : ¬i ≥ cnt := by
            rw [List.length_cons] at hcnt
            omega
          rw [if_neg hmore, if_neg hlt] at h
          have hone : ∃ d₁, Still d d₁ ∧ (do
              let w ← d₁.deref window
              tileLoop cnt n (i + 1) w.next d₁) = .ok d' := by
            by_cases htiled : d.wm.mode = WM_MODE_TILED ∧ d.wm.vertical = FALSE
            · rw [if_pos htiled] at h
              obtain ⟨d₁, h₁, h⟩ := bind_eq_ok h
              exact ⟨d₁, tileWindow_still hd (hin htiled.2 htiled.1 0 window rfl) h₁, h⟩
            · rw [if_neg htiled] at h
              exact ⟨d, .refl _ d, h⟩
          obtain ⟨d₁, hstill, h⟩ := hone
          obtain ⟨w, hw, h⟩ := bind_eq_ok h
          have hnext : d₁.next window = some w.next := next_eq_some.2 ⟨w, deref_eq_ok.1 hw, rfl⟩
          rw [hstill.next_eq, hr, Option.some.injEq] at hnext
          subst hnext
          rw [← hstill.next_eq] at hL
          refine hstill.trans (ih (hstill.grows.settled hd) hL ?_ ?_ h)
          · rw [← hcnt, List.length_cons]
            omega
          · intro hvertical hmode j ptr hj
            rw [hstill.wm] at hvertical hmode ⊢
            have hslot := hin hvertical hmode (j + 1) ptr hj
            rw [← Nat.add_assoc, Nat.add_right_comm] at hslot
            exact hstill.inSlot hd hslot

lemma tile_still {tiled : Bool} (hd : d.Settled) (hok : d.DesktopOk tiled)
    (htiled : tiled = true) (hmode : d.wm.mode = WM_MODE_TILED) (h : tile d = .ok d') :
    Still d d' := by
  rw [tile] at h
  by_cases hinitialized : d.wm.initialized ≠ TRUE
  · rw [if_pos hinitialized] at h
    exact still_self h
  by_cases hempty : d.firstWindow = 0
  · rw [if_neg hinitialized, if_pos hempty] at h
    exact still_self h
  rw [if_neg hinitialized, if_neg hempty] at h
  obtain ⟨cnt, hcnt, h⟩ := bind_eq_ok h
  obtain ⟨L, hL, rfl⟩ := listSize_chain hcnt
  refine tileLoop_still hd hL (Nat.zero_add _) (fun hvertical _ j ptr hj => ?_) h
  rw [Nat.zero_add]
  exact hok htiled (not_not.1 hinitialized) hmode hvertical L hL j ptr hj

/-! ## The desktop -/

lemma updateLoop_still {n last result : ℕ} (h : updateLoop n window last d = .ok (result, d')) :
    Still d d' := by
  induction n generalizing window last d with
  | zero => cases h
  | succ n ih =>
      rw [updateLoop] at h
      by_cases hend : window = 0
      · rw [if_pos hend] at h
        exact still_self (congrArg Except.ok (Prod.mk.inj (Except.ok.inj h)).2)
      rw [if_neg hend] at h
      obtain ⟨w, -, h⟩ := bind_eq_ok h
      by_cases htype : w.type = WT_OVERLAPPED
      · rw [if_pos htype] at h
        obtain ⟨d₁, h₁, h⟩ := bind_eq_ok h
        obtain ⟨d₂, h₂, h⟩ := bind_eq_ok h
        exact (redrawWindow_still h₁).trans ((updateFocus_still h₂).trans (ih h))
      · rw [if_neg htype] at h
        exact ih h

lemma updateStack_still (h : updateStack d = .ok d') : Still d d' := by
  rw [updateStack] at h
  by_cases hempty : d.firstWindow = 0
  · rw [if_pos hempty] at h
    exact still_self h
  rw [if_neg hempty] at h
  obtain ⟨first, -, h⟩ := bind_eq_ok h
  by_cases hmagic : first.magic ≠ 1234
  · rw [if_pos hmagic] at h
    exact still_self h
  rw [if_neg hmagic] at h
  obtain ⟨⟨last, d₁⟩, h₁, h⟩ := bind_eq_ok h
  obtain ⟨d₂, h₂, h⟩ := bind_eq_ok h
  exact (updateLoop_still h₁).trans ((setActiveWindow_still h₂).trans (setFocus_still h))

lemma wmUpdateDesktop_still {tiled : Bool} (hd : d.Settled) (hok : d.DesktopOk tiled)
    (h : wmUpdateDesktop d tiled = .ok d') : Still d d' := by
  have hrest {e : Desk} (he : (redrawWindow e e.rootWindow >>= fun e => updateStack e) = .ok d') :
      Still e d' := by
    obtain ⟨e₁, h₁, he⟩ := bind_eq_ok he
    exact (redrawWindow_still h₁).trans (updateStack_still he)
  rw [wmUpdateDesktop] at h
  by_cases htiled : tiled ∧ d.wm.mode = WM_MODE_TILED
  · rw [if_pos htiled] at h
    obtain ⟨d₁, h₁, h⟩ := bind_eq_ok h
    exact (tile_still hd hok htiled.1 htiled.2 h₁).trans (hrest h)
  · rw [if_neg htiled] at h
    exact hrest h

/-- The part about the full-screen mode, after the window may have been moved to another slot. -/
lemma fullscreen_still {d₀ : Desk} {f : Place → Place → Place} (hd₀ : d₀.Settled)
    (hdoes : Does window f d₀ d) (hf : ∀ slot : Slot, ∀ p v, slot.put p (f p v) = slot.put p v)
    (hkeep : KeepsParent f) (hin : d₀.InSlot window ⟨0, 0, d₀.deviceWidth, d₀.deviceHeight⟩)
    (h : (do
      let d ← d.modify window (GwsWindow.setLook TRUE TRUE 2)
      moveAndResize (((d.setOwner window).setLast window).setTop window) window
        ⟨0, 0, d.deviceWidth, d.deviceHeight⟩) = .ok d') : Still d₀ d' := by
  obtain ⟨d₁, h₁, h⟩ := bind_eq_ok h
  have hlook := setLook_still h₁
  have howner : Still d (((d₁.setOwner window).setLast window).setTop window) :=
    hlook.trans (setFront_still d₁ window)
  have hmoves := hdoes.moves.trans howner.moves
  obtain ⟨hmove, hparent⟩ := moveAndResize_does (hmoves.noBars hd₀.titlebar)
    (hmoves.wellFormed hd₀.wellFormed) h
  rw [hlook.device.1, hlook.device.2, hdoes.moves.device.1, hdoes.moves.device.2] at hmove
  have hboth := hdoes.trans (howner.does.trans hmove fun _ _ => rfl) hkeep
  simp only [hf] at hboth
  exact hin.still hboth hd₀ (hmoves.hasParent.1 hparent)

/-- **The window is moved** to the slot that `updateSlot` names. -/
lemma placeUpdated_still (hd : d.Settled)
    (hin : ∀ slot, d.updateSlot = some slot → d.InSlot window slot)
    (h : placeUpdated d window = .ok d') : Still d d' := by
  rw [placeUpdated] at h
  by_cases hmode : d.wm.mode = WM_MODE_TILED
  · rw [if_pos hmode] at h
    obtain ⟨d₁, h₁, h⟩ := bind_eq_ok h
    obtain ⟨hdoes, hparent⟩ := moveAndResize_does hd.titlebar hd.wellFormed h₁
    by_cases hfull : d.wm.isFullscreen = TRUE
    · dsimp only at h
      rw [hdoes.moves.wm, if_pos hfull] at h
      rw [Desk.updateSlot, if_pos hfull] at hin
      exact fullscreen_still hd hdoes (fun _ _ _ => rfl) (fun _ _ => rfl) (hin _ rfl) h
    · dsimp only at h
      rw [hdoes.moves.wm, if_neg hfull] at h
      rw [Desk.updateSlot, if_neg hfull, if_pos hmode] at hin
      cases h
      exact (hin _ rfl).still hdoes hd hparent
  · rw [if_neg hmode] at h
    by_cases hfull : d.wm.isFullscreen = TRUE
    · rw [ok_bind] at h
      dsimp only at h
      rw [if_pos hfull] at h
      rw [Desk.updateSlot, if_pos hfull] at hin
      exact fullscreen_still hd (Still.does (.refl _ d)) (fun _ _ _ => rfl) (fun _ _ => rfl)
        (hin _ rfl) h
    · rw [ok_bind] at h
      dsimp only at h
      rw [if_neg hfull] at h
      exact still_self h

lemma wmUpdateWindowById_still {id : ℤ} (hd : d.Settled) (hok : d.UpdateOk id)
    (h : wmUpdateWindowById d id = .ok d') : Still d d' := by
  rw [wmUpdateWindowById] at h
  obtain ⟨live, hlive, h⟩ := bind_eq_ok h
  cases live with
  | none => exact still_self h
  | some window =>
      obtain ⟨w, hw, h⟩ := bind_eq_ok h
      have hw := deref_eq_ok.1 hw
      by_cases htype : w.type ≠ WT_OVERLAPPED
      · rw [if_pos htype] at h
        exact still_self h
      by_cases hinitialized : d.wm.initialized ≠ TRUE
      · rw [if_neg htype, if_pos hinitialized] at h
        exact still_self h
      rw [if_neg htype, if_neg hinitialized] at h
      obtain ⟨d₁, h₁, h⟩ := bind_eq_ok h
      obtain ⟨d₂, h₂, h⟩ := bind_eq_ok h
      obtain ⟨d₃, h₃, h⟩ := bind_eq_ok h
      obtain ⟨d₄, h₄, h⟩ := bind_eq_ok h
      have hplace : Still d d₁ := by
        refine placeUpdated_still hd (hok (not_not.1 hinitialized) window hlive fun w' hw' => ?_) h₁
        obtain rfl : w = w' := Option.some.inj (hw.symm.trans hw')
        exact not_not.1 htype
      exact hplace.trans ((setActiveWindow_still h₂).trans ((setFocus_still h₃).trans
        ((redrawWindow_still h₄).trans (updateFocus_still h))))

/-! ## The full-screen mode -/

lemma setFullscreen_grows (d : Desk) (b : ℤ) : Grows d (d.setFullscreen b) :=
  ⟨le_rfl, rfl, le_rfl, ⟨rfl, rfl⟩, fun h => h, fun _ _ _ => rfl, fun _ _ => rfl, fun h => h⟩

lemma wmEnterFullscreenMode_grows (hd : d.Settled) (hok : d.FullscreenOk)
    (h : wmEnterFullscreenMode d = .ok d') : Grows d d' := by
  have hfull := setFullscreen_grows d TRUE
  rw [wmEnterFullscreenMode] at h
  rw [Desk.FullscreenOk] at hok
  split_ifs at h with hinitialized hlast hfirst
  · exact (still_self h).grows
  · obtain ⟨w, hw, h⟩ := bind_eq_ok h
    rw [if_pos hlast] at hok
    exact hfull.trans
      (wmUpdateWindowById_still (hfull.settled hd) (hok w (deref_eq_ok.1 hw)) h).grows
  · obtain ⟨w, hw, h⟩ := bind_eq_ok h
    rw [if_neg hlast] at hok
    exact hfull.trans
      (wmUpdateWindowById_still (hfull.settled hd) (hok w (deref_eq_ok.1 hw)) h).grows
  · exact (still_self h).grows

lemma wmExitFullscreenMode_grows {tiled : Bool} (hd : d.Settled)
    (hok : (d.setFullscreen FALSE).DesktopOk tiled) (h : wmExitFullscreenMode d tiled = .ok d') :
    Grows d d' := by
  have hfull := setFullscreen_grows d FALSE
  rw [wmExitFullscreenMode] at h
  split_ifs at h
  · exact (still_self h).grows
  · exact hfull.trans (wmUpdateDesktop_still (hfull.settled hd) hok h).grows

/-! ## Runs -/

/-- What happens to the windows. -/
inductive GeometryStep where
  /-- `serviceCreateWindow`. -/
  | create (pw : ℕ) (a : WindowArgs)
  /-- `serviceChangeWindowPosition`. -/
  | move (id : ℤ) (x y : ℕ)
  /-- `serviceResizeWindow`. -/
  | resize (id : ℤ) (w h : ℕ)
  /-- `dock_window`. -/
  | dock (window : ℕ) (position : ℤ)
  /-- `dock_active_window`. -/
  | dockActive (position : ℤ)
  /-- `wm_update_desktop`. -/
  | desktop (tiled : Bool)
  /-- `wm_update_window_by_id`. -/
  | update (id : ℤ)
  /-- `wm_enter_fullscreen_mode`. -/
  | enterFullscreen
  /-- `wm_exit_fullscreen_mode`. -/
  | exitFullscreen (tiled : Bool)

/-- One step. -/
def geometryStep (memory : ℕ → Bool) (d : Desk) : GeometryStep → Except ServerFault Desk
  | .create pw a => (serviceCreateWindow memory pw a d).map Prod.snd
  | .move id x y => (serviceChangeWindowPosition d id x y).map Prod.snd
  | .resize id w h => (serviceResizeWindow d id w h).map Prod.snd
  | .dock window position => dockWindow d window position
  | .dockActive position => dockActiveWindow d position
  | .desktop tiled => wmUpdateDesktop d tiled
  | .update id => wmUpdateWindowById d id
  | .enterFullscreen => wmEnterFullscreenMode d
  | .exitFullscreen tiled => wmExitFullscreenMode d tiled

/-- The step moves no registered window to a new place, and a new window fits. -/
def Harmless (memory : ℕ → Bool) (d : Desk) : GeometryStep → Prop
  | .create pw a => d.CreateOk memory pw a
  | .move id x y => d.MoveOk id x y
  | .resize id w h => d.ResizeOk id w h
  | .dock window position => d.DockOk window position
  | .dockActive position => d.DockOk d.activeWindow position
  | .desktop tiled => d.DesktopOk tiled
  | .update id => d.UpdateOk id
  | .enterFullscreen => d.FullscreenOk
  | .exitFullscreen tiled => (d.setFullscreen FALSE).DesktopOk tiled

/-- **One step** that is harmless keeps the geometry. -/
lemma geometryStep_settled {memory : ℕ → Bool} {e : GeometryStep} (hd : d.Settled)
    (hok : Harmless memory d e) (h : geometryStep memory d e = .ok d') : d'.Settled := by
  cases e with
  | create pw a =>
      obtain ⟨⟨id, d₁⟩, h₁, rfl⟩ := map_eq_ok h
      exact serviceCreateWindow_settled hd hok h₁
  | move id x y =>
      obtain ⟨⟨r, d₁⟩, h₁, rfl⟩ := map_eq_ok h
      exact (serviceChangeWindowPosition_still hd hok h₁).grows.settled hd
  | resize id cx cy =>
      obtain ⟨⟨r, d₁⟩, h₁, rfl⟩ := map_eq_ok h
      exact (serviceResizeWindow_still hd hok h₁).grows.settled hd
  | dock window position => exact (dockWindow_still hd hok h).grows.settled hd
  | dockActive position => exact (dockActiveWindow_still hd hok h).grows.settled hd
  | desktop tiled => exact (wmUpdateDesktop_still hd hok h).grows.settled hd
  | update id => exact (wmUpdateWindowById_still hd hok h).grows.settled hd
  | enterFullscreen => exact (wmEnterFullscreenMode_grows hd hok h).settled hd
  | exitFullscreen tiled => exact (wmExitFullscreenMode_grows hd hok h).settled hd

/-- **The geometry of the windows.**  Along a run of harmless steps it holds for every registered
window. -/
theorem geometry_run (memory : ℕ → Bool) (d : Desk) (es : List GeometryStep) (hd : d.Settled)
    (h : Meets (geometryStep memory) (Harmless memory) d es) :
    Along (geometryStep memory) Desk.GeometryOk d es :=
  Along.imp (fun _ hd => hd.geometry) (Meets.along (J := Desk.Settled)
    (fun _ _ _ hd hok hstep => geometryStep_settled hd hok hstep) es d hd h)

end

/-! ## A button on the root window -/

/-- The root window. -/
def rootWindow : GwsWindow :=
  { GwsWindow.zero with
    used := TRUE
    magic := 1234
    type := WT_SIMPLE
    width := 800
    height := 600
    right := 800
    bottom := 600
    rcClient := ⟨2, 2, 796, 564⟩ }

/-- The root window is the only one. -/
def rootDesk : Desk :=
  { emptyDesk.setWin 1 rootWindow with
    objects := 1
    windowList := Function.update (fun _ => 0) 0 1
    windowsCount := 1
    rootWindow := 1 }

/-- A button of 100 by 50 pixels. -/
def buttonArgs : WindowArgs where
  type := WT_BUTTON
  style := 0
  status := 0
  x := 10
  y := 20
  width := 100
  height := 50
  pWindow := 0

lemma rootDesk_win {q : ℕ} {w : GwsWindow} (h : rootDesk.win q = some w) : q = 1 ∧ w = rootWindow := by
  have hwin : rootDesk.win = Function.update (fun _ => none) 1 (some rootWindow) := rfl
  rw [hwin] at h
  by_cases hq : q = 1
  · subst hq
    rw [Function.update_self] at h
    exact ⟨rfl, (Option.some.inj h).symm⟩
  · rw [Function.update_of_ne hq] at h
    cases h

lemma rootDesk_registered {q : ℕ} (h : rootDesk.Registered q) : q = 1 := by
  obtain ⟨hq, i, hi⟩ := h
  by_cases hslot : i = 0
  · subst hslot
    exact hi.symm
  · have hempty : rootDesk.windowList i = 0 := by
      show Function.update (fun _ => 0) 0 1 i = 0
      rw [Function.update_of_ne hslot]
    exact absurd (hi.symm.trans hempty) hq

lemma rootDesk_settled : rootDesk.Settled := by
  refine ⟨fun q hq => ?_, fun q => ?_, fun q w hw => ?_⟩
  · obtain rfl := rootDesk_registered hq
    exact ⟨rootWindow.place, rfl, fun hparent => absurd rfl hparent, rfl, rfl, rfl, rfl⟩
  · by_cases hq : q = 1
    · subst hq
      decide
    · have hnone : rootDesk.win q = none := Function.update_of_ne hq _ _
      rw [hnone]
      have hobjects : rootDesk.objects = 1 := rfl
      simp only [Option.isSome_none, Bool.false_eq_true, false_iff]
      omega
  · obtain ⟨rfl, rfl⟩ := rootDesk_win hw
    exact ⟨Nat.zero_le _, fun hregistered => hregistered.1 rfl⟩

/-- A button that is moved keeps its right edge. -/
theorem geometry_run_fails :
    ¬∀ (memory : ℕ → Bool) (d : Desk) (es : List GeometryStep), d.Settled →
      Along (geometryStep memory) Desk.GeometryOk d es := by
  intro h
  have hrun : (runs (geometryStep fun _ => true) rootDesk
        [.create 0 buttonArgs, .move 1 30 40]).toOption.map
        (fun t => (t.windowList 1, (t.placeOf 2).map fun v => (v.absoluteX, v.width, v.right))) =
      some (2, some (30, 100, 110)) := by
    decide +kernel
  obtain ⟨t, hend, ht⟩ := runs_observed hrun
  obtain ⟨hslot, hplace⟩ := Prod.mk.inj ht
  obtain ⟨v, hv⟩ := (h (fun _ => true) rootDesk _ rootDesk_settled).final hend 2
    ⟨by decide, 1, hslot⟩
  rw [hv.placeOf, Option.map_some, Option.some.injEq, Prod.mk.injEq, Prod.mk.injEq] at hplace
  have hright := hv.fits.right
  rw [hplace.1, hplace.2.1, hplace.2.2] at hright
  exact absurd hright (by decide)

/-- The button is created where its fields say. -/
theorem geometry_run_button :
    Along (geometryStep fun _ => true) Desk.GeometryOk rootDesk [.create 0 buttonArgs] := by
  refine geometry_run (fun _ => true) rootDesk _ rootDesk_settled fun d' _ => ⟨?_, trivial⟩
  intro _ _ p hp
  obtain ⟨-, rfl⟩ := rootDesk_win hp
  intro _ _
  exact ⟨by decide, by decide⟩

end Gramado.Gws
