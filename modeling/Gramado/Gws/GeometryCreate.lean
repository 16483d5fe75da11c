import Gramado.Gws.Geometry

/-!
# The geometry of a new window

A window that is created fits into its parent if no style moves it, if the 16-bit masks of its frame
change nothing, and if it gets no title bar.

* `Builds` — a window was created, and where it is.
* `Desk.CreateOk` — when `serviceCreateWindow` keeps the geometry.
-/

namespace Gramado.Gws

/-! ## The condition -/

/-- The window is alive: frames are made for the windows of such a parent only. -/
def GwsWindow.Alive (w : GwsWindow) : Prop := w.used = TRUE ∧ w.magic = 1234

instance (w : GwsWindow) : Decidable w.Alive := inferInstanceAs (Decidable (_ ∧ _))

/-- Where a window goes in its parent, if no style moves it. -/
def GwsWindow.spot (p : GwsWindow) (a : WindowArgs) : ℕ × ℕ :=
  (childOffset (some p) GwsWindow.absoluteX GwsRect.left (a.x % 2 ^ 16),
    childOffset (some p) GwsWindow.absoluteY GwsRect.top (a.y % 2 ^ 16))

/-- No window can be registered. -/
def Desk.Full (d : Desk) : Prop := d.windowsCount + 1 ≥ WINDOW_COUNT_MAX ∨ d.freeSlot = none

/-- An application window: a style that moves it to the corner finds it there already, and it gets no
title bar. -/
structure OverlappedOk (d : Desk) (p : GwsWindow) (a : WindowArgs) : Prop where
  corner : IsMaximized a.style ∨ IsFullscreen a.style → p.spot a = (0, 0)
  titlebar : p.Alive → IsMaximized a.style
  height : p.Alive → IsFullscreen a.style ∨ 40 ≤ d.deviceHeight % 2 ^ 16

/-- Another window: the masks of its frame change nothing. -/
def ChildOk (p : GwsWindow) (a : WindowArgs) : Prop :=
  p.Alive → IsEditbox a.type ∨ a.type = WT_BUTTON → (p.spot a).1 < 2 ^ 16 ∧ (p.spot a).2 < 2 ^ 16

/-- A window for the parent `p` fits. -/
def FitsIn (d : Desk) (p : GwsWindow) (a : WindowArgs) : Prop :=
  if a.type = WT_OVERLAPPED then OverlappedOk d p (overlappedArgs d.wm a) else ChildOk p a

/-- A window fits that is created for the parent with the number `pw`. -/
def Desk.CreateOk (d : Desk) (memory : ℕ → Bool) (pw : ℕ) (a : WindowArgs) : Prop :=
  memory d.mallocs = true → ¬d.Full →
    ∀ p, d.win (d.windowList pw) = some p → FitsIn d p { a with pWindow := d.windowList pw }

/-! ## Steps that grow -/

section

variable {d d' d'' : Desk} {ptr q window parent style : ℕ} {v p : Place} {w w' : GwsWindow}
variable {memory : ℕ → Bool}

/-- What adding a window to the list leaves alone. -/
def GwsWindow.looks (w : GwsWindow) : Place × ℕ × ℕ × ℤ × ℤ := (w.place, w.titlebar, w.style, w.live)

/-- Only the list, the events and the numbers change. -/
structure Rearranges (d d' : Desk) : Prop where
  objects : d'.objects = d.objects
  windowList : d'.windowList = d.windowList
  count_le : d.windowsCount ≤ d'.windowsCount
  device : d'.deviceWidth = d.deviceWidth ∧ d'.deviceHeight = d.deviceHeight
  looks : ∀ q, (d'.win q).map GwsWindow.looks = (d.win q).map GwsWindow.looks

lemma Rearranges.refl (d : Desk) : Rearranges d d := ⟨rfl, rfl, le_rfl, ⟨rfl, rfl⟩, fun _ => rfl⟩

lemma Rearranges.trans (h : Rearranges d d') (h' : Rearranges d' d'') : Rearranges d d'' where
  objects := h'.objects.trans h.objects
  windowList := h'.windowList.trans h.windowList
  count_le := h.count_le.trans h'.count_le
  device := ⟨h'.device.1.trans h.device.1, h'.device.2.trans h.device.2⟩
  looks := fun q => (h'.looks q).trans (h.looks q)

lemma Rearranges.before (h : Rearranges d d') (hw : d'.win q = some w') :
    ∃ w, d.win q = some w ∧ w.looks = w'.looks := by
  have hlooks := h.looks q
  rwa [hw, Option.map_some, eq_comm, Option.map_eq_some_iff] at hlooks

lemma Rearranges.after (h : Rearranges d d') (hw : d.win q = some w) :
    ∃ w', d'.win q = some w' ∧ w'.looks = w.looks := by
  have hlooks := h.looks q
  rwa [hw, Option.map_some, Option.map_eq_some_iff] at hlooks

lemma Rearranges.grows (h : Rearranges d d') : Grows d d' where
  objects_le := h.objects.ge
  windowList := h.windowList
  count_le := h.count_le
  device := h.device
  wellFormed := fun hd q => by
    have hsome := congrArg Option.isSome (h.looks q)
    rw [Option.isSome_map, Option.isSome_map] at hsome
    rw [hsome, h.objects]
    exact hd q
  place := fun q _ _ => by
    have hplace := congrArg (Option.map Prod.fst) (h.looks q)
    rwa [Option.map_map, Option.map_map] at hplace
  live := fun q _ => by
    have hlive := congrArg (Option.map fun l : Place × ℕ × ℕ × ℤ × ℤ => l.2.2.2) (h.looks q)
    rwa [Option.map_map, Option.map_map] at hlive
  noBars := fun hbars q w' hw' => by
    obtain ⟨w, hw, hlooks⟩ := h.before hw'
    have htitlebar : w.titlebar = w'.titlebar := (Prod.mk.inj (Prod.mk.inj hlooks).2).1
    rw [Desk.Registered, h.objects, h.windowList, ← htitlebar]
    exact hbars q w hw

lemma modify_rearranges {f : GwsWindow → GwsWindow} (h : d.modify ptr f = .ok d')
    (hf : ∀ w, (f w).looks = w.looks) : Rearranges d d' := by
  obtain ⟨w, hw, rfl⟩ := modify_ok h
  refine ⟨rfl, rfl, le_rfl, ⟨rfl, rfl⟩, fun q => ?_⟩
  by_cases hq : q = ptr
  · subst hq
    simp [Desk.setWin, hw, hf]
  · simp [Desk.setWin, Function.update_of_ne hq]

lemma drawWindowBorder_looks (w : GwsWindow) : w.drawWindowBorder.looks = w.looks := by
  rw [GwsWindow.drawWindowBorder]
  split_ifs <;> rfl

lemma setActiveWindow_rearranges (h : setActiveWindow d ptr = .ok d') : Rearranges d d' := by
  rcases setActiveWindow_ok h with rfl | rfl
  · exact .refl d'
  · exact ⟨rfl, rfl, le_rfl, ⟨rfl, rfl⟩, fun _ => rfl⟩

lemma malloc_rearranges (d : Desk) (memory : ℕ → Bool) : Rearranges d (d.malloc memory).2 :=
  ⟨rfl, rfl, le_rfl, ⟨rfl, rfl⟩, fun _ => rfl⟩

lemma countWindow_rearranges (d : Desk) : Rearranges d d.countWindow :=
  ⟨rfl, rfl, Nat.le_succ _, ⟨rfl, rfl⟩, fun _ => rfl⟩

lemma finishAdd_rearranges (h : finishAdd d ptr = .ok d') : Rearranges d d' := by
  rw [finishAdd] at h
  obtain ⟨d₁, h₁, h⟩ := bind_eq_ok h
  have hlast : Rearranges d (d.setLast ptr) := ⟨rfl, rfl, le_rfl, ⟨rfl, rfl⟩, fun _ => rfl⟩
  exact hlast.trans ((modify_rearranges h₁ fun _ => rfl).trans (setActiveWindow_rearranges h))

/-- **The list** does not say where a window is. -/
lemma wmAddWindowIntoTheList_rearranges (h : wmAddWindowIntoTheList d ptr = .ok d') :
    Rearranges d d' := by
  have hself (he : Except.ok d = (Except.ok d' : Except ServerFault Desk)) : Rearranges d d' := by
    cases he
    exact .refl d
  have hfirst : Rearranges d (d.setFirst ptr) := ⟨rfl, rfl, le_rfl, ⟨rfl, rfl⟩, fun _ => rfl⟩
  rw [wmAddWindowIntoTheList] at h
  by_cases hnull : ptr = 0
  · rw [if_pos hnull] at h
    exact hself h
  rw [if_neg hnull] at h
  obtain ⟨w, -, h⟩ := bind_eq_ok h
  by_cases hused : w.used ≠ TRUE
  · rw [if_pos hused] at h
    exact hself h
  by_cases hmagic : w.magic ≠ 1234
  · rw [if_neg hused, if_pos hmagic] at h
    exact hself h
  by_cases htype : w.type ≠ WT_OVERLAPPED
  · rw [if_neg hused, if_neg hmagic, if_pos htype] at h
    exact hself h
  rw [if_neg hused, if_neg hmagic, if_neg htype] at h
  by_cases hempty : d.firstWindow = 0
  · rw [if_pos hempty] at h
    exact hfirst.trans (finishAdd_rearranges h)
  rw [if_neg hempty] at h
  obtain ⟨first, -, h⟩ := bind_eq_ok h
  by_cases hdead : first.magic ≠ 1234
  · rw [if_pos hdead] at h
    exact hfirst.trans (finishAdd_rearranges h)
  rw [if_neg hdead] at h
  obtain ⟨last, -, h⟩ := bind_eq_ok h
  obtain ⟨d₁, h₁, h⟩ := bind_eq_ok h
  exact (modify_rearranges h₁ fun _ => rfl).trans (finishAdd_rearranges h)

/-- An object that is not registered is written. -/
lemma setWin_grows (hw : d.win ptr = some w) (hptr : ¬d.Registered ptr) (hlive : w'.live = w.live)
    (hbar : w'.titlebar = w.titlebar ∨ w'.titlebar ≤ d.objects ∧ ¬d.Registered w'.titlebar) :
    Grows d (d.setWin ptr w') where
  objects_le := le_rfl
  windowList := rfl
  count_le := le_rfl
  device := ⟨rfl, rfl⟩
  wellFormed := fun hd q => by
    refine Iff.trans ?_ (hd q)
    by_cases hq : q = ptr
    · subst hq
      simp [Desk.setWin, hw]
    · simp [Desk.setWin, Function.update_of_ne hq]
  place := fun q _ hregistered => by
    have hq : q ≠ ptr := fun hq => hptr (hq ▸ hregistered)
    simp [Desk.placeOf, Desk.setWin, Function.update_of_ne hq]
  live := fun q _ => by
    by_cases hq : q = ptr
    · subst hq
      simp [Desk.setWin, hw, hlive]
    · simp [Desk.setWin, Function.update_of_ne hq]
  noBars := fun hbars q u hu => by
    by_cases hq : q = ptr
    · subst hq
      obtain rfl : w' = u := by simpa [Desk.setWin] using hu
      obtain hsame | hnew := hbar
      · rw [hsame]
        exact hbars q w hw
      · exact hnew
    · exact hbars q u (by simpa [Desk.setWin, Function.update_of_ne hq] using hu)

/-- A new object has no title bar. -/
lemma newObject_grows (d : Desk) (hw : w.titlebar = 0) : Grows d (d.newObject w).2 where
  objects_le := Nat.le_succ _
  windowList := rfl
  count_le := le_rfl
  device := ⟨rfl, rfl⟩
  wellFormed := (newObject_keeps d w).wellFormed
  place := fun q hq _ => by
    have hne : q ≠ d.objects + 1 := by omega
    simp [Desk.placeOf, Desk.newObject, Desk.setWin, Function.update_of_ne hne]
  live := fun q hq => by
    have hne : q ≠ d.objects + 1 := by omega
    simp [Desk.newObject, Desk.setWin, Function.update_of_ne hne]
  noBars := fun hbars q u hu => by
    by_cases hq : q = d.objects + 1
    · subst hq
      obtain rfl : w = u := by simpa [Desk.newObject, Desk.setWin] using hu
      rw [hw]
      exact ⟨Nat.zero_le _, fun hregistered => hregistered.1 rfl⟩
    · obtain ⟨hle, hregistered⟩ :=
        hbars q u (by simpa [Desk.newObject, Desk.setWin, Function.update_of_ne hq] using hu)
      exact ⟨hle.trans (Nat.le_succ _), hregistered⟩

/-! ## A new window -/

/-- **A window was created**: it is the last object, alive, at a place, and not registered. -/
structure Builds (d d' : Desk) (ptr : ℕ) (v : Place) (style : ℕ) : Prop where
  grows : Grows d d'
  ptr_eq : ptr = d.objects + 1
  objects_eq : d'.objects = d.objects + 1
  win : ∃ w, d'.win ptr = some w ∧ w.place = v ∧ w.style = style ∧ w.Alive
  bars : d.NoBars → ∀ q w, d'.win q = some w → w.titlebar ≤ d.objects

lemma Builds.rearranges (h : Builds d d' ptr v style) (h' : Rearranges d' d'') :
    Builds d d'' ptr v style where
  grows := h.grows.trans h'.grows
  ptr_eq := h.ptr_eq
  objects_eq := h'.objects.trans h.objects_eq
  win := by
    obtain ⟨w, hw, hplace, hstyle, hused, hmagic⟩ := h.win
    obtain ⟨w', hw', hlooks⟩ := h'.after hw
    simp only [GwsWindow.looks, GwsWindow.live, Prod.mk.injEq] at hlooks
    refine ⟨w', hw', hlooks.1.trans hplace, hlooks.2.2.1.trans hstyle, ?_, ?_⟩
    · exact hlooks.2.2.2.1.trans hused
    · exact hlooks.2.2.2.2.trans hmagic
  bars := fun hbars q w' hw' => by
    obtain ⟨w, hw, hlooks⟩ := h'.before hw'
    rw [← show w.titlebar = w'.titlebar from (Prod.mk.inj (Prod.mk.inj hlooks).2).1]
    exact h.bars hbars q w hw

/-- The new window is not registered. -/
lemma Builds.not_registered (h : Builds d d' ptr v style) (hd : d.Settled) :
    ¬d'.Registered ptr := by
  rw [h.grows.registered]
  intro hptr
  have hle := hd.le hptr
  rw [h.ptr_eq] at hle
  omega

/-- The new window is written. -/
lemma Builds.setWin (h : Builds d d' ptr v style) (hd : d.Settled) (hw : d'.win ptr = some w)
    (hbar : w'.titlebar = w.titlebar) (hstyle : w'.style = w.style) (hlive : w'.live = w.live) :
    Builds d (d'.setWin ptr w') ptr w'.place style where
  grows := h.grows.trans (setWin_grows hw (h.not_registered hd) hlive (.inl hbar))
  ptr_eq := h.ptr_eq
  objects_eq := h.objects_eq
  win := by
    obtain ⟨w₀, hw₀, -, hstyle₀, hused, hmagic⟩ := h.win
    obtain rfl : w = w₀ := Option.some.inj (hw.symm.trans hw₀)
    obtain ⟨hused', hmagic'⟩ := Prod.mk.inj hlive
    exact ⟨w', by simp [Desk.setWin], rfl, hstyle.trans hstyle₀, hused'.trans hused,
      hmagic'.trans hmagic⟩
  bars := fun hbars q u hu => by
    by_cases hq : q = ptr
    · subst hq
      obtain rfl : w' = u := by simpa [Desk.setWin] using hu
      rw [hbar]
      exact h.bars hbars q w hw
    · exact h.bars hbars q u (by simpa [Desk.setWin, Function.update_of_ne hq] using hu)

lemma newObject_builds (d : Desk) (hbar : w.titlebar = 0) (halive : w.Alive) :
    Builds d (d.newObject w).2 (d.newObject w).1 w.place w.style where
  grows := newObject_grows d hbar
  ptr_eq := rfl
  objects_eq := rfl
  win := ⟨w, by simp [Desk.newObject, Desk.setWin], rfl, rfl, halive⟩
  bars := fun hbars q u hu => by
    by_cases hq : q = d.objects + 1
    · subst hq
      obtain rfl : w = u := by simpa [Desk.newObject, Desk.setWin] using hu
      rw [hbar]
      exact Nat.zero_le _
    · exact (hbars q u (by simpa [Desk.newObject, Desk.setWin, Function.update_of_ne hq] using hu)).1

lemma Builds.of_malloc (h : Builds (d.malloc memory).2 d' ptr v style) :
    Builds d d' ptr v style :=
  ⟨(malloc_rearranges d memory).grows.trans h.grows, h.ptr_eq, h.objects_eq, h.win, h.bars⟩

/-- Only the size of the screen matters to a new window. -/
lemma newWindow_congr {a : WindowArgs} {parent : Option GwsWindow}
    (hdevice : d'.deviceWidth = d.deviceWidth ∧ d'.deviceHeight = d.deviceHeight) :
    newWindow d' a parent = newWindow d a parent := by
  simp only [newWindow, hdevice.1, hdevice.2]

/-- `doCreateWindow` makes the next object. -/
lemma doCreateWindow_builds {a : WindowArgs} {p : GwsWindow} (hle : a.pWindow ≤ d.objects)
    (hparent : a.pWindow ≠ 0) (hp : d.win a.pWindow = some p)
    (h : doCreateWindow memory a d = .ok (ptr, d')) :
    Builds d d' ptr (newWindow d a (some p)).place a.style := by
  rw [doCreateWindow] at h
  obtain ⟨⟨q, d₁⟩, h₁, h⟩ := bind_eq_ok h
  dsimp only at h
  obtain ⟨parent, hparent', h⟩ := bind_eq_ok h
  have hobject := createWindowObject_ok h₁
  rw [Prod.mk.injEq] at hobject
  obtain ⟨hq, hd₁⟩ := hobject
  have hne : a.pWindow ≠ d.objects + 1 := by omega
  have hp₁ : d₁.win a.pWindow = some p := by
    rw [hd₁]
    simpa [Desk.newObject, Desk.setWin, Desk.malloc, Function.update_of_ne hne] using hp
  obtain rfl : parent = some p := by
    rw [Desk.parentOf, if_neg hparent, deref_eq_ok.2 hp₁] at hparent'
    exact (Except.ok.inj hparent').symm
  have hnew : Builds d (d₁.setWin q (newWindow d₁ a (some p))) q (newWindow d a (some p)).place
      a.style := by
    have hsame : newWindow d₁ a (some p) = newWindow d a (some p) := by
      refine newWindow_congr ?_
      rw [hd₁]
      exact ⟨rfl, rfl⟩
    rw [hsame, hq, hd₁, setWin_newObject]
    exact (newObject_builds _ rfl ⟨rfl, rfl⟩).of_malloc
  by_cases hstatus : a.status = 1
  · rw [if_pos hstatus] at h
    obtain ⟨d₂, h₂, h⟩ := bind_eq_ok h
    split_ifs at h
    cases h
    exact hnew.rearranges (setActiveWindow_rearranges h₂)
  · rw [if_neg hstatus] at h
    obtain ⟨d₂, h₂, h⟩ := bind_eq_ok h
    cases h₂
    split_ifs at h
    cases h
    exact hnew

/-- The type does not say where a window is. -/
lemma createTyped_builds {a : WindowArgs} {p : GwsWindow} {type : ℕ} (hd : d.Settled)
    (hparent : d.Registered a.pWindow) (hp : d.win a.pWindow = some p)
    (h : createTyped memory a type d = .ok (ptr, d')) :
    Builds d d' ptr { (newWindow d a (some p)).place with type := type } a.style := by
  rw [createTyped] at h
  obtain ⟨⟨q, d₁⟩, h₁, h⟩ := bind_eq_ok h
  obtain ⟨d₂, h₂, h⟩ := bind_eq_ok h
  cases h
  have hbuilds := doCreateWindow_builds (hd.le hparent) hparent.1 hp h₁
  obtain ⟨w, hw, rfl⟩ := modify_ok h₂
  obtain ⟨w₀, hw₀, hplace, -⟩ := hbuilds.win
  obtain rfl : w = w₀ := Option.some.inj (hw.symm.trans hw₀)
  rw [← hplace]
  exact hbuilds.setWin hd hw rfl rfl rfl

/-! ## Its place -/

/-- The new window is at its spot, if no style moves it. -/
lemma newWindow_absolute {a : WindowArgs} {p : GwsWindow} (htype : ¬IsEditbox a.type)
    (hcorner : IsMaximized a.style ∨ IsFullscreen a.style → p.spot a = (0, 0)) :
    (newWindow d a (some p)).absoluteX = (p.spot a).1 ∧
      (newWindow d a (some p)).absoluteY = (p.spot a).2 := by
  simp only [newWindow, if_neg htype]
  split_ifs with hmoved
  · rw [hcorner hmoved]
    exact ⟨rfl, rfl⟩
  · exact ⟨rfl, rfl⟩

/-- Then its fields fit together. -/
lemma newWindow_fits {a : WindowArgs} {p : GwsWindow} (htype : ¬IsEditbox a.type)
    (hcorner : IsMaximized a.style ∨ IsFullscreen a.style → p.spot a = (0, 0)) :
    (newWindow d a (some p)).place.Fits (some p.place) := by
  obtain ⟨hx, hy⟩ := newWindow_absolute (d := d) htype hcorner
  refine ⟨hx, hy, ?_, ?_⟩
  · show (newWindow d a (some p)).right = _
    rw [GwsWindow.place, hx]
    rfl
  · show (newWindow d a (some p)).bottom = _
    rw [GwsWindow.place, hy]
    rfl

/-- The size is a 16-bit one if the screen is not too low. -/
lemma newWindow_size {a : WindowArgs} {p : Option GwsWindow}
    (hheight : IsMaximized a.style → IsFullscreen a.style ∨ 40 ≤ d.deviceHeight % 2 ^ 16) :
    (newWindow d a p).width < 2 ^ 16 ∧ (newWindow d a p).height < 2 ^ 16 := by
  have hmod (n : ℕ) : n % 2 ^ 16 < 2 ^ 16 := Nat.mod_lt n (by norm_num)
  simp only [newWindow]
  split_ifs with hfull hmaximized
  · exact ⟨hmod _, hmod _⟩
  · have hle := (hheight hmaximized).resolve_left hfull
    have hlt := hmod d.deviceHeight
    refine ⟨hmod _, ?_⟩
    rw [ulongSub_of_le hle (by omega)]
    omega
  · exact ⟨hmod _, hmod _⟩

/-- The masks of a frame. -/
def Place.mask (v : Place) : Place :=
  { v with
    absoluteX := v.absoluteX % 2 ^ 16
    absoluteY := v.absoluteY % 2 ^ 16
    width := v.width % 2 ^ 16
    height := v.height % 2 ^ 16 }

/-- Where the masks change nothing. -/
lemma Place.mask_eq (hx : v.absoluteX < 2 ^ 16) (hy : v.absoluteY < 2 ^ 16)
    (hwidth : v.width < 2 ^ 16) (hheight : v.height < 2 ^ 16) : v.mask = v := by
  rw [Place.mask, Nat.mod_eq_of_lt hx, Nat.mod_eq_of_lt hy, Nat.mod_eq_of_lt hwidth,
    Nat.mod_eq_of_lt hheight]

/-- The type of a window, and its client area, do not matter to its own place. -/
lemma Place.Fits.congr {parent : Option Place} (h : v.Fits parent) (type left top : ℕ) :
    Place.Fits { v with type := type, clientLeft := left, clientTop := top } parent :=
  ⟨h.absoluteX, h.absoluteY, h.right, h.bottom⟩

/-! ## Its frame -/

/-- **A frame** masks the place of a window whose parent is alive. -/
lemma createFrame_builds {overlapped : ℕ → Desk → Except ServerFault Desk} {p : GwsWindow}
    (hd : d.Settled) (h : Builds d d' ptr v style) (hparent : parent ≠ 0)
    (hp : d'.win parent = some p) (hframe : createFrame overlapped parent ptr d' = .ok d'') :
    ¬p.Alive ∧ d'' = d' ∨
      p.Alive ∧ ∃ d₁, Builds d d₁ ptr v.mask style ∧
        (v.type ≠ WT_OVERLAPPED ∧ Rearranges d₁ d'' ∨
          v.type = WT_OVERLAPPED ∧ overlapped ptr d₁ = .ok d'') := by
  rw [createFrame] at hframe
  rw [if_neg hparent, deref_eq_ok.2 hp, ok_bind] at hframe
  by_cases halive : p.used ≠ TRUE ∨ p.magic ≠ 1234
  · rw [if_pos halive] at hframe
    refine .inl ⟨fun hp => ?_, (Except.ok.inj hframe).symm⟩
    exact halive.elim (fun hne => hne hp.1) fun hne => hne hp.2
  have hnull : ptr ≠ 0 := by
    rw [h.ptr_eq]
    exact Nat.succ_ne_zero _
  obtain ⟨w, hw, rfl, -, hused, hmagic⟩ := h.win
  have hdead : ¬(w.used ≠ TRUE ∨ w.magic ≠ 1234) := by simp [hused, hmagic]
  rw [if_neg halive, if_neg hnull, deref_eq_ok.2 hw, ok_bind, if_neg hdead] at hframe
  rw [not_or, not_not, not_not] at halive
  refine .inr ⟨halive, d'.setWin ptr w.mask, h.setWin hd hw rfl rfl rfl, ?_⟩
  by_cases heditbox : IsEditbox w.type
  · have hne : w.type ≠ WT_OVERLAPPED := by
      rcases heditbox with htype | htype <;> rw [htype] <;> decide
    rw [if_pos heditbox] at hframe
    exact .inl ⟨hne, modify_rearranges hframe fun u => drawWindowBorder_looks _⟩
  rw [if_neg heditbox] at hframe
  by_cases htype : w.type = WT_OVERLAPPED
  · rw [if_pos htype] at hframe
    exact .inr ⟨htype, hframe⟩
  · rw [if_neg htype] at hframe
    cases hframe
    exact .inl ⟨htype, .refl _⟩

/-- The parent is as alive as it was. -/
lemma Grows.alive {p : GwsWindow} (h : Grows d d') (hle : q ≤ d.objects) (hp : d.win q = some p) :
    ∃ p', d'.win q = some p' ∧ (p'.Alive ↔ p.Alive) := by
  have hlive := h.live q hle
  rw [hp, Option.map_some, Option.map_eq_some_iff] at hlive
  obtain ⟨p', hp', hsame⟩ := hlive
  obtain ⟨hused, hmagic⟩ := Prod.mk.inj hsame
  exact ⟨p', hp', by rw [GwsWindow.Alive, GwsWindow.Alive, hused, hmagic]⟩

lemma not_moved_zero : ¬(IsMaximized 0 ∨ IsFullscreen 0) := by decide

/-- The place of a window without the style of an application. -/
lemma childArgs_fits {a : WindowArgs} {p : GwsWindow} {type minimum : ℕ} (htype : ¬IsEditbox type) :
    (newWindow d (childArgs type minimum a) (some p)).place.Fits (some p.place) :=
  newWindow_fits htype fun hmoved => absurd hmoved not_moved_zero

/-- The masks change nothing where the window is near enough to the corner. -/
lemma childArgs_mask {a : WindowArgs} {p : GwsWindow} {type minimum : ℕ} (htype : ¬IsEditbox type)
    (hx : (p.spot a).1 < 2 ^ 16) (hy : (p.spot a).2 < 2 ^ 16) :
    (newWindow d (childArgs type minimum a) (some p)).place.mask =
      (newWindow d (childArgs type minimum a) (some p)).place := by
  have hcorner : IsMaximized (childArgs type minimum a).style ∨
      IsFullscreen (childArgs type minimum a).style → p.spot (childArgs type minimum a) = (0, 0) :=
    fun hmoved => absurd hmoved not_moved_zero
  obtain ⟨hx', hy'⟩ := newWindow_absolute (d := d) (p := p) htype hcorner
  have hsize := fun parent => newWindow_size (d := d) (a := childArgs type minimum a)
    (p := parent) fun hmaximized => absurd (.inl hmaximized) not_moved_zero
  exact Place.mask_eq (hx'.trans_lt hx) (hy'.trans_lt hy) (hsize (some p)).1 (hsize (some p)).2

/-- **An edit box or a button** is created, and framed. -/
lemma framed_builds {a : WindowArgs} {p : GwsWindow} {d₁ : Desk} {type type' : ℕ} (hd : d.Settled)
    (hparent : d.Registered a.pWindow) (hp : d.win a.pWindow = some p)
    (htype : ¬IsEditbox type) (htype' : type' ≠ WT_OVERLAPPED)
    (h : createTyped memory (childArgs type 8 a) type' d = .ok (ptr, d₁))
    (hframe : wmCreateWindowFrame memory a.pWindow ptr d₁ = .ok d') :
    ∃ v, Builds d d' ptr v 0 ∧ v.parent = a.pWindow ∧
      ((p.Alive → (p.spot a).1 < 2 ^ 16 ∧ (p.spot a).2 < 2 ^ 16) → v.Fits (some p.place)) := by
  have hbuilds := createTyped_builds (a := childArgs type 8 a) hd hparent hp h
  obtain ⟨p₁, hp₁, halive⟩ := hbuilds.grows.alive (hd.le hparent) hp
  have hfits : (newWindow d (childArgs type 8 a) (some p)).place.Fits (some p.place) :=
    childArgs_fits htype
  obtain ⟨-, rfl⟩ | ⟨hp₁', d₂, hd₂, ⟨-, hrearranges⟩ | ⟨hoverlapped, -⟩⟩ :=
    createFrame_builds hd hbuilds hparent.1 hp₁ hframe
  · exact ⟨_, hbuilds, rfl, fun _ => hfits.congr _ _ _⟩
  · refine ⟨_, hd₂.rearranges hrearranges, rfl, fun hspot => ?_⟩
    obtain ⟨hx, hy⟩ := hspot (halive.1 hp₁')
    show Place.Fits { (newWindow d (childArgs type 8 a) (some p)).place.mask with type := type' } _
    rw [childArgs_mask htype hx hy]
    exact hfits.congr _ _ _
  · exact absurd hoverlapped htype'

/-- **A window that is no application** is created. -/
lemma createWindow_child_builds {a : WindowArgs} {p : GwsWindow} (hd : d.Settled)
    (hparent : d.Registered a.pWindow) (hp : d.win a.pWindow = some p)
    (htype : a.type ≠ WT_OVERLAPPED)
    (h : createWindow memory (wmCreateWindowFrame memory) a d = .ok (ptr, d')) :
    ptr = 0 ∧ Grows d d' ∨ ∃ v, Builds d d' ptr v 0 ∧ v.parent = a.pWindow ∧
      (ChildOk p a → v.Fits (some p.place)) := by
  have hmalloc := (malloc_rearranges d memory).grows
  have hd₀ := hmalloc.settled hd
  have hsimple : ¬IsEditbox WT_SIMPLE := by decide
  have hbutton : ¬IsEditbox WT_BUTTON := by decide
  rw [createWindow] at h
  dsimp only at h
  by_cases hdone : (d.malloc memory).1 = true
  · rw [if_neg (not_not.2 hdone), if_neg htype] at h
    split_ifs at h with heditbox hbutton' hsimple'
    · obtain ⟨⟨q, d₁⟩, h₁, h⟩ := bind_eq_ok h
      obtain ⟨d₂, h₂, h⟩ := bind_eq_ok h
      cases h
      obtain ⟨v, hbuilds, hsame, hfits⟩ :=
        framed_builds hd₀ hparent hp hsimple htype h₁ h₂
      exact .inr ⟨v, hbuilds.of_malloc, hsame, fun hok =>
        hfits fun halive => hok halive (.inl heditbox)⟩
    · obtain ⟨⟨q, d₁⟩, h₁, h⟩ := bind_eq_ok h
      obtain ⟨d₂, h₂, h⟩ := bind_eq_ok h
      cases h
      obtain ⟨v, hbuilds, hsame, hfits⟩ :=
        framed_builds hd₀ hparent hp hbutton (by decide) h₁ h₂
      exact .inr ⟨v, hbuilds.of_malloc, hsame, fun hok =>
        hfits fun halive => hok halive (.inr hbutton')⟩
    · have hbuilds := createTyped_builds (a := childArgs WT_SIMPLE 0 a) hd₀ hparent hp h
      exact .inr ⟨_, hbuilds.of_malloc, rfl, fun _ => (childArgs_fits hsimple).congr _ _ _⟩
    · cases h
      exact .inl ⟨rfl, hmalloc⟩
  · rw [if_pos hdone] at h
    cases h
    exact .inl ⟨rfl, hmalloc⟩

/-- The border moves the client area of an application window down. -/
lemma overlappedFrame_looks (w : GwsWindow) : ∃ top,
    w.overlappedFrame.looks =
      ({ w.place with clientTop := top }, w.titlebar, w.style, w.live) := by
  have hlooks := drawWindowBorder_looks (w.setBorder METRICS_BORDER_SIZE)
  obtain ⟨hplace, hrest⟩ := Prod.mk.inj hlooks
  refine ⟨w.overlappedFrame.rcClient.top, Prod.ext ?_ hrest⟩
  exact congrArg (fun v : Place => { v with clientTop := w.overlappedFrame.rcClient.top }) hplace

/-- The frame of a maximized window: it has no title bar, and no status bar either. -/
lemma frameOverlapped_builds (hd : d.Settled) (h : Builds d d' ptr v style)
    (hstyle : IsMaximized style) (hframe : frameOverlapped memory ptr d' = .ok d'') :
    ∃ top, Builds d d'' ptr { v with clientTop := top } style := by
  rw [frameOverlapped] at hframe
  obtain ⟨d₁, h₁, hframe⟩ := bind_eq_ok hframe
  obtain ⟨w, hw, rfl⟩ := modify_ok h₁
  obtain ⟨w₀, hw₀, rfl, rfl, halive⟩ := h.win
  obtain rfl : w = w₀ := Option.some.inj (hw.symm.trans hw₀)
  obtain ⟨top, hlooks⟩ := overlappedFrame_looks w
  simp only [GwsWindow.looks, Prod.mk.injEq] at hlooks
  obtain ⟨hplace, hbar, hsame, hlive⟩ := hlooks
  have hbuilds := h.setWin hd hw hbar hsame hlive
  obtain ⟨u, hu, hframe⟩ := bind_eq_ok hframe
  have hu : w.overlappedFrame = u := by simpa [Desk.setWin] using deref_eq_ok.1 hu
  rw [← hu, hsame, if_pos hstyle] at hframe
  rw [hplace] at hbuilds
  split_ifs at hframe
  · -- the pointer to the title bar, which there is not, is followed
    rw [createStatusbar] at hframe
    obtain ⟨u, -, hframe⟩ := bind_eq_ok hframe
    obtain ⟨⟨q, d₂⟩, -, hframe⟩ := bind_eq_ok hframe
    obtain ⟨d₃, -, hframe⟩ := bind_eq_ok hframe
    cases hframe
  · cases hframe
    exact ⟨top, hbuilds⟩

/-- Tiling leaves the parent alone. -/
lemma overlappedArgs_pWindow (wm : WindowManagerInfo) (a : WindowArgs) :
    (overlappedArgs wm a).pWindow = a.pWindow := by
  simp only [overlappedArgs]
  split_ifs <;> rfl

/-- An application window is created, and framed if its parent is alive. -/
lemma createWindow_overlapped_cases {a : WindowArgs} {p : GwsWindow} (hd : d.Settled)
    (hparent : d.Registered a.pWindow) (hp : d.win a.pWindow = some p)
    (htype : a.type = WT_OVERLAPPED)
    (h : createWindow memory (wmCreateWindowFrame memory) a d = .ok (ptr, d')) :
    ptr = 0 ∧ Grows d d' ∨ ∃ v style, v.type = WT_OVERLAPPED ∧ style = (overlappedArgs d.wm a).style ∧
      (∃ type, v = { (newWindow d (overlappedArgs d.wm a) (some p)).place with type := type }) ∧
        (¬p.Alive ∧ Builds d d' ptr v style ∨
          p.Alive ∧ ∃ d₁, Builds d d₁ ptr v.mask style ∧ frameOverlapped memory ptr d₁ = .ok d') := by
  have hmalloc := (malloc_rearranges d memory).grows
  have hd₀ := hmalloc.settled hd
  rw [createWindow] at h
  dsimp only at h
  by_cases hdone : (d.malloc memory).1 = true
  · rw [if_neg (not_not.2 hdone), if_pos htype] at h
    obtain ⟨⟨q, d₁⟩, h₁, h⟩ := bind_eq_ok h
    obtain ⟨d₂, h₂, h⟩ := bind_eq_ok h
    obtain ⟨d₃, h₃, h⟩ := bind_eq_ok h
    obtain ⟨d₄, h₄, h⟩ := bind_eq_ok h
    cases h
    have hsame := overlappedArgs_pWindow d.wm a
    have htyped := createTyped_builds (a := overlappedArgs d.wm a) hd₀ (hsame.symm ▸ hparent)
      (hsame.symm ▸ hp) h₁
    have hlisted := (htyped.rearranges (wmAddWindowIntoTheList_rearranges h₂)).rearranges
      (setActiveWindow_rearranges h₃)
    obtain ⟨p₃, hp₃, halive⟩ := hlisted.grows.alive (hd.le hparent) hp
    refine .inr ⟨_, _, rfl, rfl, ⟨WT_OVERLAPPED, rfl⟩, ?_⟩
    obtain ⟨hdead, rfl⟩ | ⟨hp₃', d₅, hd₅, ⟨hne, -⟩ | ⟨-, hframe⟩⟩ :=
      createFrame_builds hd₀ hlisted hparent.1 hp₃ h₄
    · exact .inl ⟨fun hyes => hdead (halive.2 hyes), hlisted.of_malloc⟩
    · exact absurd rfl hne
    · exact .inr ⟨halive.1 hp₃', d₅, hd₅.of_malloc, hframe⟩
  · rw [if_pos hdone] at h
    cases h
    exact .inl ⟨rfl, hmalloc⟩

/-- **An application window** is created where its fields say. -/
lemma createWindow_overlapped_builds {a : WindowArgs} {p : GwsWindow} (hd : d.Settled)
    (hparent : d.Registered a.pWindow) (hp : d.win a.pWindow = some p)
    (htype : a.type = WT_OVERLAPPED) (hok : OverlappedOk d p (overlappedArgs d.wm a))
    (h : createWindow memory (wmCreateWindowFrame memory) a d = .ok (ptr, d')) :
    ptr = 0 ∧ Grows d d' ∨ ∃ v style, Builds d d' ptr v style ∧ v.parent = a.pWindow ∧
      v.Fits (some p.place) := by
  have hsimple : ¬IsEditbox WT_SIMPLE := by decide
  have hsame := overlappedArgs_pWindow d.wm a
  have hfits : (newWindow d (overlappedArgs d.wm a) (some p)).place.Fits (some p.place) :=
    newWindow_fits hsimple hok.corner
  obtain hnone | ⟨v, style, -, rfl, ⟨type, rfl⟩, ⟨-, hbuilds⟩ | ⟨halive, d₁, hd₁, hframe⟩⟩ :=
    createWindow_overlapped_cases hd hparent hp htype h
  · exact .inl hnone
  · exact .inr ⟨_, _, hbuilds, hsame, hfits.congr _ _ _⟩
  · have hmaximized := hok.titlebar halive
    obtain ⟨top, hbuilds⟩ := frameOverlapped_builds hd hd₁ hmaximized hframe
    refine .inr ⟨_, _, hbuilds, hsame, ?_⟩
    obtain ⟨hx, hy⟩ := newWindow_absolute (d := d) hsimple hok.corner
    obtain ⟨hwidth, hheight⟩ := newWindow_size (d := d) (a := overlappedArgs d.wm a)
      (p := some p) fun _ => hok.height halive
    rw [hok.corner (.inl hmaximized)] at hx hy
    have hmask := Place.mask_eq (v := (newWindow d (overlappedArgs d.wm a) (some p)).place)
      (hx.trans_lt (by norm_num)) (hy.trans_lt (by norm_num)) hwidth hheight
    show Place.Fits { (newWindow d (overlappedArgs d.wm a) (some p)).place.mask with
      type := type
      clientTop := top } _
    rw [hmask]
    exact hfits.congr _ _ _

/-! ## A full table -/

lemma Grows.full (h : Grows d d') (hfull : d.Full) : d'.Full := by
  refine hfull.imp (fun hcount => ?_) fun hslot => ?_
  · exact hcount.trans (Nat.succ_le_succ h.count_le)
  · rw [Desk.freeSlot, h.windowList]
    exact hslot

lemma registerWindow_full {id : ℤ} (hfull : d.Full)
    (h : registerWindow d ptr = .ok (id, d')) : id < 0 ∧ Rearranges d d' := by
  have hneg : (-1 : ℤ) < 0 := by decide
  rw [registerWindow] at h
  split_ifs at h with hnull hcount
  · cases h
    exact ⟨hneg, .refl d⟩
  · cases h
    exact ⟨hneg, countWindow_rearranges d⟩
  · rw [hfull.resolve_left hcount, putWindow] at h
    cases h
    exact ⟨hneg, countWindow_rearranges d⟩

/-- **A title bar** that finds no place in the table. -/
lemma createTitlebar_full {tb : Option ℕ} (hd : d.Settled) (hfull : d.Full)
    (hwindow : ¬d.Registered window) (hnull : window ≠ 0) (hle : window ≤ d.objects)
    (h : createTitlebar memory window d = .ok (tb, d')) : tb = none ∧ Grows d d' := by
  rw [createTitlebar] at h
  obtain ⟨w, hw, h⟩ := bind_eq_ok h
  obtain ⟨⟨q, d₁⟩, h₁, h⟩ := bind_eq_ok h
  dsimp only at h
  obtain ⟨d₂, h₂, h⟩ := bind_eq_ok h
  obtain ⟨w₁, hw₁, rfl⟩ := modify_ok h₂
  obtain ⟨⟨id, d₃⟩, h₃, h⟩ := bind_eq_ok h
  have hbuilds := doCreateWindow_builds (a := barArgs window 0 _ _) hle hnull (deref_eq_ok.1 hw) h₁
  have hbar : Grows d₁ (d₁.setWin window (w₁.setTitlebar q)) := by
    refine setWin_grows hw₁ ?_ rfl (.inr ⟨?_, hbuilds.not_registered hd⟩)
    · rwa [hbuilds.grows.registered]
    · exact (hbuilds.ptr_eq.trans hbuilds.objects_eq.symm).le
  have hgrows := hbuilds.grows.trans hbar
  obtain ⟨hneg, hrearranges⟩ := registerWindow_full (hgrows.full hfull) h₃
  dsimp only at h
  rw [if_pos hneg] at h
  cases h
  exact ⟨rfl, hgrows.trans hrearranges.grows⟩

/-- Nothing that a full table sees moves. -/
lemma createWindow_overlapped_full {a : WindowArgs} {p : GwsWindow} (hd : d.Settled)
    (hfull : d.Full) (hparent : d.Registered a.pWindow) (hp : d.win a.pWindow = some p)
    (htype : a.type = WT_OVERLAPPED)
    (h : createWindow memory (wmCreateWindowFrame memory) a d = .ok (ptr, d')) : Grows d d' := by
  obtain ⟨-, hnone⟩ | ⟨v, style, -, -, -, ⟨-, hbuilds⟩ | ⟨-, d₁, hd₁, hframe⟩⟩ :=
    createWindow_overlapped_cases hd hparent hp htype h
  · exact hnone
  · exact hbuilds.grows
  by_cases hmaximized : IsMaximized style
  · obtain ⟨top, hbuilds⟩ := frameOverlapped_builds hd hd₁ hmaximized hframe
    exact hbuilds.grows
  rw [frameOverlapped] at hframe
  obtain ⟨d₂, h₂, hframe⟩ := bind_eq_ok hframe
  obtain ⟨w, hw, rfl⟩ := modify_ok h₂
  obtain ⟨top, hlooks⟩ := overlappedFrame_looks w
  simp only [GwsWindow.looks, Prod.mk.injEq] at hlooks
  have hd₂ := hd₁.setWin hd hw hlooks.2.1 hlooks.2.2.1 hlooks.2.2.2
  obtain ⟨u, hu, hstyle, hused⟩ := hd₂.win
  obtain ⟨u', hu', hframe⟩ := bind_eq_ok hframe
  obtain rfl : u = u' := Option.some.inj (hu.symm.trans (deref_eq_ok.1 hu'))
  rw [hused.1, if_neg hmaximized] at hframe
  obtain ⟨⟨tb, d₃⟩, h₃, hframe⟩ := bind_eq_ok hframe
  have hnull : ptr ≠ 0 := by
    rw [hd₂.ptr_eq]
    exact Nat.succ_ne_zero _
  obtain ⟨rfl, hgrows⟩ := createTitlebar_full (hd₂.grows.settled hd) (hd₂.grows.full hfull)
    (hd₂.not_registered hd) hnull (hd₂.ptr_eq.trans hd₂.objects_eq.symm).le h₃
  cases hframe
  exact hd₂.grows.trans hgrows

/-! ## Into the table -/

/-- The entry of a free slot is a null pointer. -/
lemma freeSlot_empty {slot : ℕ} (h : d.freeSlot = some slot) : d.windowList slot = 0 := by
  rw [Desk.freeSlot] at h
  simpa using List.find?_some h

/-- **A window that fits is registered.** -/
lemma setSlot_settled {slot : ℕ} (hd : d.Settled) (hempty : d.windowList slot = 0)
    (hnull : ptr ≠ 0) (hv : d.Placed ptr v)
    (hbars : ∀ q w, d.win q = some w → w.titlebar ≠ ptr) : (d.setSlot slot ptr).Settled := by
  have hregistered (q : ℕ) : (d.setSlot slot ptr).Registered q ↔ q = ptr ∨ d.Registered q := by
    constructor
    · rintro ⟨hq, i, hi⟩
      by_cases hslot : i = slot
      · subst hslot
        exact .inl (by simpa [Desk.setSlot] using hi.symm)
      · exact .inr ⟨hq, i, by simpa [Desk.setSlot, Function.update_of_ne hslot] using hi⟩
    · rintro (rfl | ⟨hq, i, hi⟩)
      · exact ⟨hnull, slot, by simp [Desk.setSlot]⟩
      · -- the slot that is used was empty
        have hslot : i ≠ slot := by
          rintro rfl
          exact hq (hi.symm.trans hempty)
        exact ⟨hq, i, by simpa [Desk.setSlot, Function.update_of_ne hslot] using hi⟩
  have hplaced {q : ℕ} {u : Place} (hu : d.Placed q u) : (d.setSlot slot ptr).Placed q u :=
    ⟨hu.placeOf, fun hnull => (hu.parent hnull).imp_left fun hparent =>
      (hregistered _).2 (.inr hparent), hu.fits⟩
  refine ⟨fun q hq => ?_, hd.wellFormed, fun q w hw => ?_⟩
  · obtain rfl | hold := (hregistered q).1 hq
    · exact ⟨v, hplaced hv⟩
    · exact (hd.geometry q hold).imp fun u hu => hplaced hu
  · obtain ⟨hle, hbar⟩ := hd.titlebar q w hw
    refine ⟨hle, fun hnew => ?_⟩
    exact ((hregistered _).1 hnew).elim (hbars q w hw) hbar

lemma registerWindow_settled {id : ℤ} (hd : d.Settled) (hv : d.Placed ptr v)
    (hbars : ∀ q w, d.win q = some w → w.titlebar ≠ ptr)
    (h : registerWindow d ptr = .ok (id, d')) : d'.Settled := by
  by_cases hfull : d.Full
  · exact (registerWindow_full hfull h).2.grows.settled hd
  rw [Desk.Full, not_or] at hfull
  rw [registerWindow] at h
  split_ifs at h with hnull hcount
  · cases h
    exact hd
  · exact absurd hcount hfull.1
  obtain ⟨slot, hslot⟩ := Option.ne_none_iff_exists'.1 hfull.2
  rw [hslot, putWindow] at h
  obtain ⟨d₁, h₁, h⟩ := bind_eq_ok h
  cases h
  have hset := setSlot_settled ((countWindow_rearranges d).grows.settled hd) (freeSlot_empty hslot)
    hnull (v := v) ⟨hv.placeOf, hv.parent, hv.fits⟩ hbars
  exact (modify_rearranges h₁ fun _ => rfl).grows.settled hset

/-- The new window is placed in its parent. -/
lemma Builds.placed {p : GwsWindow} (h : Builds d d' ptr v style) (hd : d.Settled)
    (hparent : d.Registered v.parent) (hp : d.win v.parent = some p)
    (hfits : v.Fits (some p.place)) : d'.Placed ptr v where
  placeOf := by
    obtain ⟨w, hw, hplace, -⟩ := h.win
    rw [Desk.placeOf, hw, Option.map_some, hplace]
  parent := fun _ => by
    refine ⟨h.grows.registered.2 hparent, ?_⟩
    rw [h.ptr_eq]
    exact Nat.lt_succ_of_le (hd.le hparent)
  fits := by
    rwa [if_neg hparent.1, h.grows.place _ (hd.le hparent) hparent, Desk.placeOf, hp,
      Option.map_some]

/-- A window that fits is registered, and added to the list if it is an application. -/
lemma serviceNewWindow_settled {id : ℤ}
    (hregister : ∀ i e, registerWindow d ptr = .ok (i, e) → e.Settled)
    (h : serviceNewWindow memory ptr d = .ok (id, d')) : d'.Settled := by
  rw [serviceNewWindow] at h
  obtain ⟨⟨i, d₁⟩, h₁, h⟩ := bind_eq_ok h
  have hd₁ := hregister i d₁ h₁
  dsimp only at h
  by_cases hneg : i < 0
  · rw [if_pos hneg] at h
    cases h
    exact hd₁
  rw [if_neg hneg] at h
  obtain ⟨w, -, h⟩ := bind_eq_ok h
  by_cases htype : w.type = WT_OVERLAPPED
  · rw [if_pos htype] at h
    obtain ⟨d₂, h₂, h⟩ := bind_eq_ok h
    obtain ⟨d₃, h₃, h⟩ := bind_eq_ok h
    cases h
    have hd₂ := (wmAddWindowIntoTheList_rearranges h₂).grows.settled hd₁
    rw [wmManageWindow] at h₃
    dsimp only at h₃
    split_ifs at h₃
    cases h₃
    exact (malloc_rearranges d₂ memory).grows.settled hd₂
  · rw [if_neg htype] at h
    cases h
    exact hd₁

/-- What `CreateWindow` makes can be registered. -/
lemma createWindow_settled {a : WindowArgs} {p : GwsWindow} (hd : d.Settled)
    (hparent : d.Registered a.pWindow) (hp : d.win a.pWindow = some p)
    (hok : memory d.mallocs = true → ¬d.Full → FitsIn d p a)
    (h : createWindow memory (wmCreateWindowFrame memory) a d = .ok (ptr, d')) :
    d'.Settled ∧
      (ptr ≠ 0 → ∀ i e, registerWindow d' ptr = .ok (i, e) → e.Settled) := by
  -- the window fits, and no window has it for its title bar
  have hbuilt {v : Place} {style : ℕ} (hb : Builds d d' ptr v style) (hsame : v.parent = a.pWindow)
      (hfits : v.Fits (some p.place)) {i : ℤ} {e : Desk}
      (he : registerWindow d' ptr = .ok (i, e)) : e.Settled := by
    rw [← hsame] at hparent hp
    refine registerWindow_settled (hb.grows.settled hd) (hb.placed hd hparent hp hfits)
      (fun q w hw hbar => ?_) he
    have hle := hb.bars hd.titlebar q w hw
    rw [hbar, hb.ptr_eq] at hle
    omega
  have hregister (hgrows : Grows d d') (hfull : d.Full) {i : ℤ} {e : Desk}
      (he : registerWindow d' ptr = .ok (i, e)) : e.Settled :=
    (registerWindow_full (hgrows.full hfull) he).2.grows.settled (hgrows.settled hd)
  by_cases hdone : memory d.mallocs = true
  · by_cases htype : a.type = WT_OVERLAPPED
    · by_cases hfull : d.Full
      · have hgrows := createWindow_overlapped_full hd hfull hparent hp htype h
        exact ⟨hgrows.settled hd, fun _ i e he => hregister hgrows hfull he⟩
      · have hover := hok hdone hfull
        rw [FitsIn, if_pos htype] at hover
        obtain ⟨rfl, hgrows⟩ | ⟨v, style, hb, hsame, hfits⟩ :=
          createWindow_overlapped_builds hd hparent hp htype hover h
        · exact ⟨hgrows.settled hd, fun hne => absurd rfl hne⟩
        · exact ⟨hb.grows.settled hd, fun _ i e he => hbuilt hb hsame hfits he⟩
    · obtain ⟨rfl, hgrows⟩ | ⟨v, hb, hsame, hfits⟩ :=
        createWindow_child_builds hd hparent hp htype h
      · exact ⟨hgrows.settled hd, fun hne => absurd rfl hne⟩
      · refine ⟨hb.grows.settled hd, fun _ i e he => ?_⟩
        by_cases hfull : d.Full
        · exact hregister hb.grows hfull he
        · have hchild := hok hdone hfull
          rw [FitsIn, if_neg htype] at hchild
          exact hbuilt hb hsame (hfits hchild) he
  · rw [createWindow] at h
    dsimp only at h
    have hfail : ¬(d.malloc memory).1 = true := hdone
    rw [if_pos hfail] at h
    cases h
    exact ⟨(malloc_rearranges d memory).grows.settled hd, fun hne => absurd rfl hne⟩

/-- **A window is created by a request.** -/
lemma serviceCreateWindow_settled {pw : ℕ} {a : WindowArgs} {id : ℤ} (hd : d.Settled)
    (hok : d.CreateOk memory pw a) (h : serviceCreateWindow memory pw a d = .ok (id, d')) :
    d'.Settled := by
  rw [serviceCreateWindow] at h
  split_ifs at h with hpw hempty
  obtain ⟨⟨ptr, d₁⟩, h₁, h⟩ := bind_eq_ok h
  have hparent : d.Registered (d.windowList pw) := ⟨hempty, pw, rfl⟩
  obtain ⟨vp, hvp⟩ := hd.geometry _ hparent
  obtain ⟨p, hp, -⟩ := Option.map_eq_some_iff.1 hvp.placeOf
  obtain ⟨hd₁, hregister⟩ := createWindow_settled (a := { a with pWindow := d.windowList pw }) hd
    hparent hp (fun hdone hfull => hok hdone hfull p hp) h₁
  dsimp only at h
  by_cases hnull : ptr = 0
  · rw [if_pos hnull] at h
    cases h
    exact hd₁
  · rw [if_neg hnull] at h
    exact serviceNewWindow_settled (hregister hnull) h

end

end Gramado.Gws
