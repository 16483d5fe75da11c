import Gramado.Gws.CreateWindow

/-!
# What creating a window leaves alone

A window is created with its title bar and its buttons.  The list of the application windows only
looks at a few fields of the old objects, and creating one does not write them.

* `Keeps` — the old objects are the same for the list.
* `Created` — what creating a window adds.
-/

namespace Gramado.Gws

/-! ## Live application windows -/

/-- An application window that is alive. -/
def IsApplication (w : GwsWindow) : Prop :=
  w.used = TRUE ∧ w.magic = 1234 ∧ w.type = WT_OVERLAPPED

/-- The pointer of a live application window. -/
def Desk.HasApplication (d : Desk) (ptr : ℕ) : Prop := ∃ w, d.win ptr = some w ∧ IsApplication w

instance (w : GwsWindow) : Decidable (IsApplication w) := inferInstanceAs (Decidable (_ ∧ _ ∧ _))

instance (d : Desk) (ptr : ℕ) : Decidable (d.HasApplication ptr) :=
  match h : d.win ptr with
  | none => .isFalse fun ⟨_, hw, _⟩ => nomatch h.symm.trans hw
  | some w => decidable_of_iff (IsApplication w)
      ⟨fun ha => ⟨w, h, ha⟩, fun ⟨_, hw, ha⟩ => Option.some.inj (h.symm.trans hw) ▸ ha⟩

/-- Every object has a pointer of its own. -/
def Desk.WellFormed (d : Desk) : Prop := ∀ ptr, (d.win ptr).isSome ↔ 0 < ptr ∧ ptr ≤ d.objects

/-- What the list looks at. -/
def listView (w : GwsWindow) : ℤ × ℤ × ℕ × ℕ := (w.used, w.magic, w.type, w.next)

/-- The old objects are as they were, as far as the list looks at them. -/
structure Keeps (d d' : Desk) : Prop where
  objects_le : d.objects ≤ d'.objects
  firstWindow : d'.firstWindow = d.firstWindow
  lastWindow : d'.lastWindow = d.lastWindow
  wellFormed : d.WellFormed → d'.WellFormed
  view : ∀ ptr ≤ d.objects, (d'.win ptr).map listView = (d.win ptr).map listView

section

variable {d d' d'' : Desk} {ptr : ℕ} {memory : ℕ → Bool}

lemma Keeps.refl (d : Desk) : Keeps d d := ⟨le_rfl, rfl, rfl, fun h => h, fun _ _ => rfl⟩

lemma Keeps.trans (h : Keeps d d') (h' : Keeps d' d'') : Keeps d d'' where
  objects_le := h.objects_le.trans h'.objects_le
  firstWindow := h'.firstWindow.trans h.firstWindow
  lastWindow := h'.lastWindow.trans h.lastWindow
  wellFormed := fun hd => h'.wellFormed (h.wellFormed hd)
  view := fun ptr hptr => (h'.view ptr (hptr.trans h.objects_le)).trans (h.view ptr hptr)

/-! ## What the functions keep -/

lemma deref_eq_ok {w : GwsWindow} : d.deref ptr = .ok w ↔ d.win ptr = some w := by
  rw [Desk.deref]
  cases d.win ptr with
  | none => simp
  | some v => simp

/-- The objects and both ends of the list are not touched. -/
lemma Keeps.of_same (hwin : d'.win = d.win) (hobjects : d'.objects = d.objects)
    (hfirst : d'.firstWindow = d.firstWindow) (hlast : d'.lastWindow = d.lastWindow) :
    Keeps d d' where
  objects_le := hobjects.ge
  firstWindow := hfirst
  lastWindow := hlast
  wellFormed := fun hd q => by rw [hwin, hobjects, hd q]
  view := fun q _ => by rw [hwin]

lemma malloc_keeps (d : Desk) (memory : ℕ → Bool) : Keeps d (d.malloc memory).2 :=
  .of_same rfl rfl rfl rfl

/-- An object is written, and the list does not look at the fields. -/
lemma setWin_keeps {w w' : GwsWindow} (hw : d.win ptr = some w) (hview : listView w' = listView w) :
    Keeps d (d.setWin ptr w') := by
  refine ⟨le_rfl, rfl, rfl, fun hd q => ?_, fun q _ => ?_⟩
  · refine Iff.trans ?_ (hd q)
    by_cases hq : q = ptr
    · subst hq
      simp [Desk.setWin, hw]
    · simp [Desk.setWin, Function.update_of_ne hq]
  · by_cases hq : q = ptr
    · subst hq
      simp [Desk.setWin, hw, hview]
    · simp [Desk.setWin, Function.update_of_ne hq]

lemma modify_keeps {f : GwsWindow → GwsWindow} (h : d.modify ptr f = .ok d')
    (hf : ∀ w, listView (f w) = listView w) : Keeps d d' := by
  rw [Desk.modify] at h
  obtain ⟨w, hw, h⟩ := bind_eq_ok h
  cases h
  exact setWin_keeps (deref_eq_ok.1 hw) (hf w)

lemma setActiveWindow_ok (h : setActiveWindow d ptr = .ok d') : d' = d ∨ d' = d.setActive ptr := by
  rw [setActiveWindow] at h
  split_ifs at h
  · exact .inl (Except.ok.inj h).symm
  · exact .inl (Except.ok.inj h).symm
  · obtain ⟨w, -, h⟩ := bind_eq_ok h
    split_ifs at h
    · exact .inl (Except.ok.inj h).symm
    · exact .inr (Except.ok.inj h).symm

lemma setActiveWindow_keeps (h : setActiveWindow d ptr = .ok d') : Keeps d d' := by
  rcases setActiveWindow_ok h with rfl | rfl
  · exact .refl _
  · exact .of_same rfl rfl rfl rfl

lemma registerWindow_keeps {id : ℤ} (h : registerWindow d ptr = .ok (id, d')) : Keeps d d' := by
  have hcount : Keeps d d.countWindow := .of_same rfl rfl rfl rfl
  rw [registerWindow] at h
  split_ifs at h
  · cases h
    exact .refl d
  · cases h
    exact hcount
  · cases hslot : d.freeSlot with
    | none =>
        rw [hslot] at h
        cases h
        exact hcount
    | some slot =>
        rw [hslot, putWindow] at h
        obtain ⟨d₁, h₁, h⟩ := bind_eq_ok h
        cases h
        have hset : Keeps d.countWindow (d.countWindow.setSlot slot ptr) := .of_same rfl rfl rfl rfl
        exact hcount.trans (hset.trans (modify_keeps h₁ fun w => rfl))

/-- A new object. -/
lemma newObject_keeps (d : Desk) (w : GwsWindow) : Keeps d (d.newObject w).2 := by
  refine ⟨Nat.le_succ _, rfl, rfl, fun hd q => ?_, fun q hq => ?_⟩
  · by_cases hq : q = d.objects + 1
    · subst hq
      simp [Desk.newObject, Desk.setWin]
    · have hold := hd q
      simp only [Desk.newObject, Desk.setWin, Function.update_of_ne hq, hold]
      omega
  · have hne : q ≠ d.objects + 1 := by omega
    simp only [Desk.newObject, Desk.setWin, Function.update_of_ne hne]

/-- **A window is created**: it is the next object, alive and not linked. -/
structure Created (d d' : Desk) (ptr type : ℕ) : Prop where
  keeps : Keeps d d'
  ptr_eq : ptr = d.objects + 1
  objects_eq : d'.objects = d.objects + 1
  view : (d'.win ptr).map listView = some (TRUE, 1234, type, 0)

lemma Keeps.created {type : ℕ} (h : Keeps d' d'') (hc : Created d d' ptr type)
    (hobjects : d''.objects = d'.objects) : Created d d'' ptr type where
  keeps := hc.keeps.trans h
  ptr_eq := hc.ptr_eq
  objects_eq := hobjects.trans hc.objects_eq
  view := by rw [h.view ptr (by rw [hc.ptr_eq, hc.objects_eq]), hc.view]

lemma Created.of_malloc {type : ℕ} (h : Created (d.malloc memory).2 d' ptr type) :
    Created d d' ptr type :=
  ⟨(malloc_keeps d memory).trans h.keeps, h.ptr_eq, h.objects_eq, h.view⟩

lemma setActiveWindow_objects (h : setActiveWindow d ptr = .ok d') : d'.objects = d.objects := by
  rcases setActiveWindow_ok h with rfl | rfl <;> rfl

lemma createWindowObject_ok (h : createWindowObject d memory = .ok (ptr, d')) :
    (ptr, d') = (d.malloc memory).2.newObject { GwsWindow.zero with used := TRUE, magic := 1234 } := by
  rw [createWindowObject] at h
  dsimp only at h
  split_ifs at h
  exact (Except.ok.inj h).symm

/-- The place where a new object is, written once more. -/
lemma setWin_newObject (d : Desk) (w w' : GwsWindow) :
    (d.newObject w).2.setWin (d.newObject w).1 w' = (d.newObject w').2 := by
  simp [Desk.newObject, Desk.setWin]

lemma newObject_created (d : Desk) {w : GwsWindow} {type : ℕ}
    (hw : listView w = (TRUE, 1234, type, 0)) :
    Created d (d.newObject w).2 (d.newObject w).1 type where
  keeps := newObject_keeps d w
  ptr_eq := rfl
  objects_eq := rfl
  view := by simp [Desk.newObject, Desk.setWin, hw]

lemma doCreateWindow_created {a : WindowArgs} (h : doCreateWindow memory a d = .ok (ptr, d')) :
    Created d d' ptr a.type := by
  rw [doCreateWindow] at h
  obtain ⟨⟨p, d₁⟩, h₁, h⟩ := bind_eq_ok h
  dsimp only at h
  obtain ⟨parent, -, h⟩ := bind_eq_ok h
  have hnew : Created d (d₁.setWin p (newWindow d₁ a parent)) p a.type := by
    have hobject := createWindowObject_ok h₁
    rw [Prod.mk.injEq] at hobject
    obtain ⟨hptr, hd₁⟩ := hobject
    have hcreated := newObject_created (d.malloc memory).2 (w := newWindow d₁ a parent) rfl
    rw [hptr]
    nth_rewrite 1 [hd₁]
    rw [setWin_newObject]
    exact hcreated.of_malloc
  by_cases hstatus : a.status = 1
  · rw [if_pos hstatus] at h
    obtain ⟨d₂, h₂, h⟩ := bind_eq_ok h
    split_ifs at h
    cases h
    exact (setActiveWindow_keeps h₂).created hnew (setActiveWindow_objects h₂)
  · rw [if_neg hstatus] at h
    obtain ⟨d₂, h₂, h⟩ := bind_eq_ok h
    cases h₂
    split_ifs at h
    cases h
    exact hnew

lemma createTyped_created {a : WindowArgs} {type : ℕ}
    (h : createTyped memory a type d = .ok (ptr, d')) : Created d d' ptr type := by
  rw [createTyped] at h
  obtain ⟨⟨p, d₁⟩, h₁, h⟩ := bind_eq_ok h
  dsimp only at h
  obtain ⟨d₂, h₂, h⟩ := bind_eq_ok h
  cases h
  have hc := doCreateWindow_created h₁
  rw [Desk.modify] at h₂
  obtain ⟨w, hw, h₂⟩ := bind_eq_ok h₂
  cases h₂
  have hw' := deref_eq_ok.1 hw
  have hview := hc.view
  rw [hw', Option.map_some, Option.some.injEq] at hview
  refine ⟨⟨hc.keeps.objects_le, hc.keeps.firstWindow, hc.keeps.lastWindow, fun hd q => ?_,
    fun q hq => ?_⟩, hc.ptr_eq, hc.objects_eq, ?_⟩
  · refine Iff.trans ?_ (hc.keeps.wellFormed hd q)
    by_cases hq : q = ptr
    · subst hq
      simp [Desk.setWin, hw']
    · simp [Desk.setWin, Function.update_of_ne hq]
  · have hne : q ≠ ptr := by
      rw [hc.ptr_eq]
      omega
    rw [← hc.keeps.view q hq]
    simp [Desk.setWin, Function.update_of_ne hne]
  · simp only [listView, Prod.mk.injEq] at hview
    simp [Desk.setWin, listView, GwsWindow.setType, hview]

/-- The border does not matter to the list. -/
lemma drawWindowBorder_view (w : GwsWindow) : listView w.drawWindowBorder = listView w := by
  rw [GwsWindow.drawWindowBorder]
  split_ifs <;> rfl

/-- **A frame** does not touch the list if the part about application windows does not. -/
lemma createFrame_keeps {overlapped : ℕ → Desk → Except ServerFault Desk}
    (hoverlapped : ∀ {window d d'}, overlapped window d = .ok d' → Keeps d d') {parent window : ℕ}
    (h : createFrame overlapped parent window d = .ok d') : Keeps d d' := by
  have hself {e : Desk} (he : Except.ok d = (Except.ok e : Except ServerFault Desk)) :
      Keeps d e := by
    cases he
    exact .refl d
  rw [createFrame] at h
  by_cases hparent : parent = 0
  · rw [if_pos hparent] at h
    exact hself h
  rw [if_neg hparent] at h
  obtain ⟨p, -, h⟩ := bind_eq_ok h
  by_cases hdead : p.used ≠ TRUE ∨ p.magic ≠ 1234
  · rw [if_pos hdead] at h
    exact hself h
  rw [if_neg hdead] at h
  by_cases hwindow : window = 0
  · rw [if_pos hwindow] at h
    exact hself h
  rw [if_neg hwindow] at h
  obtain ⟨w, hw, h⟩ := bind_eq_ok h
  by_cases hdead' : w.used ≠ TRUE ∨ w.magic ≠ 1234
  · rw [if_pos hdead'] at h
    exact hself h
  rw [if_neg hdead'] at h
  have hmask : Keeps d (d.setWin window w.mask) := setWin_keeps (deref_eq_ok.1 hw) rfl
  dsimp only at h
  split_ifs at h
  · refine hmask.trans (modify_keeps h fun w => ?_)
    exact drawWindowBorder_view _
  · exact hmask.trans (hoverlapped h)
  · cases h
    exact hmask

lemma frameChild_keeps {parent window : ℕ} (h : frameChild parent window d = .ok d') :
    Keeps d d' := by
  refine createFrame_keeps (fun h => ?_) h
  cases h
  exact .refl _

/-- **A window that is no application** is created, and framed. -/
lemma createWindow_child {frame : Frame} {a : WindowArgs}
    (hframe : ∀ {parent window d d'}, frame parent window d = .ok d' → Keeps d d')
    (htype : a.type ≠ WT_OVERLAPPED) (h : createWindow memory frame a d = .ok (ptr, d')) :
    (ptr = 0 ∧ d' = (d.malloc memory).2) ∨
      ∃ type d₁, type ≠ WT_OVERLAPPED ∧ Created d d₁ ptr type ∧ Keeps d₁ d' := by
  rw [createWindow] at h
  dsimp only at h
  by_cases hdone : (d.malloc memory).1 = true
  · rw [if_neg (not_not.2 hdone), if_neg htype] at h
    split_ifs at h with _ hbutton hsimple
    · obtain ⟨⟨p, d₁⟩, h₁, h⟩ := bind_eq_ok h
      obtain ⟨d₂, h₂, h⟩ := bind_eq_ok h
      cases h
      exact .inr ⟨a.type, d₁, htype, (createTyped_created h₁).of_malloc, hframe h₂⟩
    · obtain ⟨⟨p, d₁⟩, h₁, h⟩ := bind_eq_ok h
      obtain ⟨d₂, h₂, h⟩ := bind_eq_ok h
      cases h
      exact .inr ⟨WT_BUTTON, d₁, by decide, (createTyped_created h₁).of_malloc, hframe h₂⟩
    · exact .inr ⟨WT_SIMPLE, d', by decide, (createTyped_created h).of_malloc, .refl d'⟩
    · cases h
      exact .inl ⟨rfl, rfl⟩
  · rw [if_pos hdone] at h
    cases h
    exact .inl ⟨rfl, rfl⟩

lemma createWindow_keeps {frame : Frame} {a : WindowArgs}
    (hframe : ∀ {parent window d d'}, frame parent window d = .ok d' → Keeps d d')
    (htype : a.type ≠ WT_OVERLAPPED) (h : createWindow memory frame a d = .ok (ptr, d')) :
    Keeps d d' := by
  obtain ⟨-, rfl⟩ | ⟨type, d₁, -, hcreated, hkeeps⟩ := createWindow_child hframe htype h
  · exact malloc_keeps d memory
  · exact hcreated.keeps.trans hkeeps

lemma createControl_keeps {tb padding : ℕ} {done : Bool}
    (h : createControl memory tb padding d = .ok (done, d')) : Keeps d d' := by
  rw [createControl] at h
  obtain ⟨w, -, h⟩ := bind_eq_ok h
  obtain ⟨⟨p, d₁⟩, h₁, h⟩ := bind_eq_ok h
  have hbutton : WT_BUTTON ≠ WT_OVERLAPPED := by decide
  have hcreate : Keeps d d₁ := createWindow_keeps frameChild_keeps hbutton h₁
  dsimp only at h
  split_ifs at h
  · cases h
    exact hcreate
  · obtain ⟨⟨id, d₂⟩, h₂, h⟩ := bind_eq_ok h
    cases h
    exact hcreate.trans (registerWindow_keeps h₂)

lemma doCreateControls_keeps {tb : ℕ} (h : doCreateControls memory tb d = .ok d') : Keeps d d' := by
  rw [doCreateControls] at h
  obtain ⟨⟨done, d₁⟩, h₁, h⟩ := bind_eq_ok h
  have hfirst := createControl_keeps h₁
  cases done with
  | false =>
      cases h
      exact hfirst
  | true =>
      obtain ⟨⟨done, d₂⟩, h₂, h⟩ := bind_eq_ok h
      have hsecond := hfirst.trans (createControl_keeps h₂)
      cases done with
      | false =>
          cases h
          exact hsecond
      | true =>
          obtain ⟨⟨done, d₃⟩, h₃, h⟩ := bind_eq_ok h
          cases h
          exact hsecond.trans (createControl_keeps h₃)

lemma createTitlebar_keeps {window : ℕ} {tb : Option ℕ}
    (h : createTitlebar memory window d = .ok (tb, d')) : Keeps d d' := by
  rw [createTitlebar] at h
  obtain ⟨w, -, h⟩ := bind_eq_ok h
  obtain ⟨⟨p, d₁⟩, h₁, h⟩ := bind_eq_ok h
  dsimp only at h
  obtain ⟨d₂, h₂, h⟩ := bind_eq_ok h
  obtain ⟨⟨id, d₃⟩, h₃, h⟩ := bind_eq_ok h
  have hregistered : Keeps d d₃ := (doCreateWindow_created h₁).keeps.trans
    ((modify_keeps h₂ fun w => rfl).trans (registerWindow_keeps h₃))
  dsimp only at h
  split_ifs at h
  · cases h
    exact hregistered
  obtain ⟨d₄, h₄, h⟩ := bind_eq_ok h
  obtain ⟨d₅, h₅, h⟩ := bind_eq_ok h
  split_ifs at h
  cases h
  exact hregistered.trans ((doCreateControls_keeps h₄).trans
    ((modify_keeps h₅ fun w => rfl).trans (malloc_keeps d₅ memory)))

lemma shortenClient_view (size : ℕ) (w : GwsWindow) :
    listView (w.shortenClient size) = listView w := rfl

lemma createStatusbar_keeps {window : ℕ} {tb : Option ℕ}
    (h : createStatusbar memory window tb d = .ok d') : Keeps d d' := by
  rw [createStatusbar] at h
  obtain ⟨w, -, h⟩ := bind_eq_ok h
  obtain ⟨⟨p, d₁⟩, h₁, h⟩ := bind_eq_ok h
  dsimp only at h
  obtain ⟨d₂, h₂, h⟩ := bind_eq_ok h
  have hmodified : Keeps d d₂ :=
    (doCreateWindow_created h₁).keeps.trans (modify_keeps h₂ (shortenClient_view _))
  cases tb with
  | none => cases h
  | some tb =>
      obtain ⟨⟨id, d₃⟩, h₃, h⟩ := bind_eq_ok h
      cases h
      exact hmodified.trans (registerWindow_keeps h₃)

lemma frameOverlapped_keeps {window : ℕ} (h : frameOverlapped memory window d = .ok d') :
    Keeps d d' := by
  rw [frameOverlapped] at h
  obtain ⟨d₁, h₁, h⟩ := bind_eq_ok h
  obtain ⟨w, -, h⟩ := bind_eq_ok h
  have hborder : Keeps d d₁ := modify_keeps h₁ fun w => drawWindowBorder_view _
  by_cases hmaximized : IsMaximized w.style
  · rw [if_pos hmaximized] at h
    split_ifs at h
    · exact hborder.trans (createStatusbar_keeps h)
    · cases h
      exact hborder
  · rw [if_neg hmaximized] at h
    obtain ⟨⟨tb, d₂⟩, h₂, h⟩ := bind_eq_ok h
    have htitlebar : Keeps d d₂ := hborder.trans (createTitlebar_keeps h₂)
    cases tb with
    | none =>
        cases h
        exact htitlebar
    | some tb =>
        dsimp only at h
        split_ifs at h
        · exact htitlebar.trans (createStatusbar_keeps h)
        · cases h
          exact htitlebar

lemma wmCreateWindowFrame_keeps {parent window : ℕ}
    (h : wmCreateWindowFrame memory parent window d = .ok d') : Keeps d d' :=
  createFrame_keeps frameOverlapped_keeps h

/-- **An application window** is created, added to the list and framed. -/
lemma createWindow_overlapped {a : WindowArgs} (htype : a.type = WT_OVERLAPPED)
    (h : createWindow memory (wmCreateWindowFrame memory) a d = .ok (ptr, d')) :
    (ptr = 0 ∧ d' = (d.malloc memory).2) ∨
      ∃ d₁ d₂, Created d d₁ ptr WT_OVERLAPPED ∧ wmAddWindowIntoTheList d₁ ptr = .ok d₂ ∧
        Keeps d₂ d' := by
  rw [createWindow] at h
  dsimp only at h
  by_cases hdone : (d.malloc memory).1 = true
  · rw [if_neg (not_not.2 hdone), if_pos htype] at h
    obtain ⟨⟨p, d₁⟩, h₁, h⟩ := bind_eq_ok h
    obtain ⟨d₂, h₂, h⟩ := bind_eq_ok h
    obtain ⟨d₃, h₃, h⟩ := bind_eq_ok h
    obtain ⟨d₄, h₄, h⟩ := bind_eq_ok h
    cases h
    exact .inr ⟨d₁, d₂, (createTyped_created h₁).of_malloc, h₂,
      (setActiveWindow_keeps h₃).trans (wmCreateWindowFrame_keeps h₄)⟩
  · rw [if_pos hdone] at h
    cases h
    exact .inl ⟨rfl, rfl⟩

end

end Gramado.Gws
