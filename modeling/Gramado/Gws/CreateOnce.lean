import Gramado.Gws.GeometryRun
import Gramado.Gws.WindowTable

/-!
# A window is registered once

`serviceCreateWindow` of `adam/gram3d/demo00/main.c` with the list of the clients.  A window and what comes with it
should get a slot each, or nothing should change.

It does not when the window has a status bar, as the title bar is registered in its place; when the table is full, as
`windows_count` is counted up, the list has the window and it is active before the last window is registered; and when
there is no memory, as the server waits for ever.

* `OnceOrNothing` — what should hold of a request.
* `Server.StepOk` — when it does; `createOnce_run` is about whole runs.
-/

namespace Gramado.Gws

open StepRun Cells

/-! ## The conditions -/

/-- The types that `CreateWindow` knows. -/
def Creatable (type : ℕ) : Prop := type = WT_OVERLAPPED ∨ IsEditbox type ∨ type = WT_BUTTON ∨ type = WT_SIMPLE

instance (type : ℕ) : Decidable (Creatable type) := inferInstanceAs (Decidable (_ ∨ _ ∨ _ ∨ _))

/-- The pointer of a live window: its windows get a frame. -/
def Desk.AliveAt (d : Desk) (ptr : ℕ) : Prop := ∃ p, d.win ptr = some p ∧ p.Alive

/-- An application window whose parent is alive gets a title bar, if it is not maximized. -/
def Desk.HasTitle (d : Desk) (a : WindowArgs) : Prop :=
  a.type = WT_OVERLAPPED ∧ d.AliveAt a.pWindow ∧ ¬IsMaximized a.style

/-- It gets a status bar, if its style says so. -/
def Desk.HasStatus (d : Desk) (a : WindowArgs) : Prop :=
  a.type = WT_OVERLAPPED ∧ d.AliveAt a.pWindow ∧ HasStatusbar a.style

instance (d : Desk) (ptr : ℕ) : Decidable (d.AliveAt ptr) :=
  match h : d.win ptr with
  | none => .isFalse fun ⟨_, hp, _⟩ => nomatch h.symm.trans hp
  | some p => decidable_of_iff p.Alive
      ⟨fun halive => ⟨p, h, halive⟩, fun ⟨_, hp, halive⟩ => Option.some.inj (h.symm.trans hp) ▸ halive⟩

instance (d : Desk) (a : WindowArgs) : Decidable (d.HasTitle a) := inferInstanceAs (Decidable (_ ∧ _ ∧ _))

instance (d : Desk) (a : WindowArgs) : Decidable (d.HasStatus a) := inferInstanceAs (Decidable (_ ∧ _ ∧ _))

/-- How many windows a window is made with: itself, the title bar and its three buttons, and the status bar. -/
def Desk.parts (d : Desk) (a : WindowArgs) : ℕ :=
  1 + (if d.HasTitle a then 4 else 0) + (if d.HasStatus a then 1 else 0)

/-- The next `k` calls of `malloc` succeed. -/
def Desk.HasMemory (d : Desk) (memory : ℕ → Bool) (k : ℕ) : Prop := ∀ i < k, memory (d.mallocs + i) = true

/-- There is no memory, or the type is unknown: `CreateWindow` returns `NULL`. -/
def Desk.Refuses (d : Desk) (memory : ℕ → Bool) (a : WindowArgs) : Prop :=
  memory d.mallocs = false ∨ ¬Creatable a.type

/-- A window without a status bar, the room for it and what comes with it, and the memory. -/
structure Desk.CanOpen (d : Desk) (memory : ℕ → Bool) (a : WindowArgs) : Prop where
  parent : a.pWindow ≤ d.objects
  type : Creatable a.type
  status : ¬d.HasStatus a
  room : d.windowsCount + d.parts a < 1024
  memory : d.HasMemory memory (if d.HasTitle a then 10 else 2)

section

variable {d d' d'' : Desk} {ptr parent slot n m k : ℕ} {L : List ℕ} {w w' : GwsWindow} {memory : ℕ → Bool}
  {a : WindowArgs}

lemma Desk.HasMemory.mono (h : d.HasMemory memory k) (hm : m ≤ k) : d.HasMemory memory m :=
  fun i hi => h i (lt_of_lt_of_le hi hm)

lemma Opens.hasMemory (h : Opens d d' L n m) (hmemory : d.HasMemory memory (m + k)) : d'.HasMemory memory k := by
  intro i hi
  rw [h.mallocs, Nat.add_assoc]
  exact hmemory (m + i) (by omega)

lemma Desk.HasMemory.first (h : d.HasMemory memory k) (hk : 0 < k) : memory d.mallocs = true := h 0 hk

/-! ## Frames -/

lemma drawWindowBorder_tie (w : GwsWindow) :
    w.drawWindowBorder.tie = w.tie ∧ w.drawWindowBorder.kind = w.kind := by
  rw [GwsWindow.drawWindowBorder]
  split_ifs <;> exact ⟨rfl, rfl⟩

/-- **A frame** for a live window: what it adds is what the part about application windows adds. -/
lemma createFrame_opens {overlapped : ℕ → Desk → Except ServerFault Desk} (h : d.Sound) (hparent : parent ≤ d.objects)
    (hw : d.win ptr = some w) (hlive : w.Alive)
    (hbody : w.type = WT_OVERLAPPED → d.AliveAt parent →
      ∃ d', overlapped ptr (d.setWin ptr w.mask) = .ok d' ∧ Opens (d.setWin ptr w.mask) d' L n m)
    (hrest : ¬(w.type = WT_OVERLAPPED ∧ d.AliveAt parent) → L = [] ∧ n = 0 ∧ m = 0) :
    ∃ d', createFrame overlapped parent ptr d = .ok d' ∧ Opens d d' L n m := by
  have hptr := h.range hw
  have hmask : Opens d (d.setWin ptr w.mask) [] 0 0 := setWin_opens h hw rfl rfl
  have hself : (d.setWin ptr w.mask).win ptr = some w.mask := Function.update_self ..
  rw [createFrame]
  by_cases halive : d.AliveAt parent
  · obtain ⟨p, hp, hused, hmagic⟩ := id halive
    have hpos := (h.range hp).1
    have hdead : ¬(p.used ≠ TRUE ∨ p.magic ≠ 1234) := by simp [hused, hmagic]
    have hdead' : ¬(w.used ≠ TRUE ∨ w.magic ≠ 1234) := by simp [hlive.1, hlive.2]
    rw [if_neg hpos.ne', deref_eq_ok.2 hp, ok_bind, if_neg hdead, if_neg hptr.1.ne', deref_eq_ok.2 hw, ok_bind,
      if_neg hdead']
    dsimp only
    by_cases hoverlapped : w.type = WT_OVERLAPPED
    · have hedit : ¬IsEditbox w.type := by
        rw [hoverlapped]
        decide
      rw [if_neg hedit, if_pos hoverlapped]
      obtain ⟨d', hd', hopens⟩ := hbody hoverlapped halive
      exact ⟨d', hd', (hmask.trans hopens).of_eq rfl (Nat.zero_add n) (Nat.zero_add m)⟩
    obtain ⟨rfl, rfl, rfl⟩ := hrest fun hboth => hoverlapped hboth.1
    by_cases hedit : IsEditbox w.type
    · rw [if_pos hedit]
      obtain ⟨htie, hkind⟩ := drawWindowBorder_tie (w.mask.setBorder (if w.mask.focus = TRUE then 2 else 1))
      obtain ⟨d', hd', hopens⟩ := modify_opens (f := GwsWindow.editboxFrame) hmask.sound hself htie hkind
      exact ⟨d', hd', hmask.trans hopens⟩
    · rw [if_neg hedit, if_neg hoverlapped]
      exact ⟨_, rfl, hmask⟩
  · obtain ⟨rfl, rfl, rfl⟩ := hrest fun hboth => halive hboth.2
    by_cases hnull : parent = 0
    · exact ⟨d, if_pos hnull, .refl h⟩
    obtain ⟨p, hp⟩ := h.exists_win (Nat.pos_of_ne_zero hnull) hparent
    have hdead : p.used ≠ TRUE ∨ p.magic ≠ 1234 := by
      by_contra hdead
      rw [not_or, not_not, not_not] at hdead
      exact halive ⟨p, hp, hdead⟩
    rw [if_neg hnull, deref_eq_ok.2 hp, ok_bind, if_pos hdead]
    exact ⟨d, rfl, .refl h⟩

/-- What `CreateWindow` hands to the frame. -/
def Desk.HasFresh (d d' : Desk) (a : WindowArgs) : Prop :=
  ∃ w, d'.win (d.objects + 1) = some w ∧ w.Alive ∧ w.type = a.type ∧ (a.type = WT_OVERLAPPED → w.style = a.style)

lemma Desk.HasNew.fresh {type style : ℕ} (h : d.HasNew d' type style) (htype : type = a.type)
    (hstyle : a.type = WT_OVERLAPPED → style = a.style) : d.HasFresh d' a := by
  obtain ⟨w, hw, hkind⟩ := h
  simp only [GwsWindow.kind, Prod.mk.injEq] at hkind
  obtain ⟨hused, hmagic, rfl, rfl⟩ := hkind
  exact ⟨w, hw, ⟨hused, hmagic⟩, htype, hstyle⟩

/-- What leaves the windows as they look, leaves the new one. -/
lemma Desk.HasNew.opens {type style : ℕ} (h : d.HasNew d' type style) (hopens : Opens d' d'' L n m)
    (hobjects : d.objects + 1 ≤ d'.objects) : d.HasNew d'' type style := by
  obtain ⟨w, hw, hkind⟩ := h
  obtain ⟨w', hw', hkind'⟩ := hopens.win hw hobjects
  exact ⟨w', hw', hkind'.trans hkind⟩

lemma Desk.HasFresh.opens (h : d.HasFresh d' a) (hopens : Opens d' d'' L n m) (hobjects : d.objects + 1 ≤ d'.objects) :
    d.HasFresh d'' a := by
  obtain ⟨w, hw, hlive, htype, hstyle⟩ := h
  obtain ⟨w', hw', hkind⟩ := hopens.win hw hobjects
  simp only [GwsWindow.kind, Prod.mk.injEq] at hkind
  obtain ⟨hused, hmagic, htype', hstyle'⟩ := hkind
  exact ⟨w', hw', ⟨hused.trans hlive.1, hmagic.trans hlive.2⟩, htype'.trans htype,
    fun heq => hstyle'.trans (hstyle heq)⟩

lemma overlappedArgs_eq (wm : WindowManagerInfo) (a : WindowArgs) :
    (overlappedArgs wm a).pWindow = a.pWindow ∧ (overlappedArgs wm a).style = a.style ∧
      (overlappedArgs wm a).type = WT_SIMPLE := by
  rw [overlappedArgs]
  split_ifs <;> exact ⟨rfl, rfl, rfl⟩

/-- A window that is no application window is made, and gets its frame. -/
lemma createChild_opens {frame : Frame} (type minimum : ℕ) (h : d.Sound) (hmemory : memory d.mallocs = true)
    (hparent : a.pWindow ≤ d.objects) (htype : KnownType type) (hoverlapped : a.type ≠ WT_OVERLAPPED)
    (hframe : ∀ d₁, Opens d d₁ [] 1 1 → d.HasFresh d₁ a →
      ∃ d', frame a.pWindow (d.objects + 1) d₁ = .ok d' ∧ Opens d₁ d' L n m) :
    ∃ d', (do
      let (ptr, d) ← createTyped memory (childArgs type minimum a) a.type d
      let d ← frame a.pWindow ptr d
      .ok (ptr, d)) = (.ok (d.objects + 1, d') : Except ServerFault (ℕ × Desk)) ∧ Opens d d' L (1 + n) (1 + m) ∧
      d.HasFresh d' a := by
  obtain ⟨d₁, h₁, hopens, hnew⟩ := createTyped_opens (a := childArgs type minimum a) a.type h hmemory hparent htype
  have hfresh := hnew.fresh (a := a) rfl fun heq => absurd heq hoverlapped
  obtain ⟨d', hd', hopens'⟩ := hframe d₁ hopens hfresh
  refine ⟨d', ?_, hopens.trans hopens', hfresh.opens hopens' hopens.objects.ge⟩
  rw [h₁, ok_bind]
  dsimp only
  rw [hd', ok_bind]

/-- **`CreateWindow`** makes the window, and what its frame adds. -/
lemma createWindow_opens (frame : Frame) (h : d.Sound) (hmemory : d.HasMemory memory 2)
    (hparent : a.pWindow ≤ d.objects) (htype : Creatable a.type)
    (hframe : ∀ d₁, Opens d d₁ [] 1 2 → d.HasFresh d₁ a →
      ∃ d', frame a.pWindow (d.objects + 1) d₁ = .ok d' ∧ Opens d₁ d' L n m)
    (hsimple : a.type = WT_SIMPLE → L = [] ∧ n = 0 ∧ m = 0) :
    ∃ d', createWindow memory frame a d = .ok (d.objects + 1, d') ∧ Opens d d' L (1 + n) (2 + m) ∧
      d.HasFresh d' a := by
  have hmalloc := malloc_opens h memory
  have hdone : (d.malloc memory).1 = true := hmemory.first (by omega)
  have hsecond : memory (d.malloc memory).2.mallocs = true := hmemory 1 (by omega)
  have htotal : 1 + (1 + m) = 2 + m := by omega
  rw [createWindow]
  dsimp only
  rw [if_neg (not_not.2 hdone)]
  by_cases hoverlapped : a.type = WT_OVERLAPPED
  · rw [if_pos hoverlapped]
    obtain ⟨hpWindow, hstyle, hsimpleType⟩ := overlappedArgs_eq (d.malloc memory).2.wm a
    obtain ⟨d₁, h₁, hopens₁, hnew⟩ := createTyped_opens (a := overlappedArgs (d.malloc memory).2.wm a)
      WT_OVERLAPPED hmalloc.sound hsecond (hpWindow ▸ hparent) (by rw [hsimpleType]; decide)
    have hptr : d.objects + 1 ≤ d₁.objects := by rw [hopens₁.objects, hmalloc.objects]
    obtain ⟨d₂, h₂, hopens₂⟩ := wmAdd_opens hopens₁.sound hptr
    obtain ⟨d₃, h₃, hopens₃⟩ := setActiveWindow_opens hopens₂.sound (hptr.trans hopens₂.objects.ge)
    have hboth := hopens₂.trans hopens₃
    have hall := (hmalloc.trans hopens₁).trans hboth
    have hfresh : d.HasFresh d₃ a := by
      have hnew' : d.HasNew d₁ WT_OVERLAPPED (overlappedArgs (d.malloc memory).2.wm a).style := hnew
      exact (hnew'.opens hboth hptr).fresh hoverlapped.symm fun _ => hstyle
    obtain ⟨d', hd', hopens'⟩ := hframe d₃ hall hfresh
    refine ⟨d', ?_, hall.trans hopens', hfresh.opens hopens' hall.objects.ge⟩
    have hsame : (d.malloc memory).2.objects + 1 = d.objects + 1 := rfl
    rw [h₁, ok_bind, hsame]
    dsimp only
    rw [h₂, ok_bind, h₃, ok_bind, hd', ok_bind]
  rw [if_neg hoverlapped]
  have hframe' : ∀ d₁, Opens (d.malloc memory).2 d₁ [] 1 1 → (d.malloc memory).2.HasFresh d₁ a →
      ∃ d', frame a.pWindow ((d.malloc memory).2.objects + 1) d₁ = .ok d' ∧ Opens d₁ d' L n m :=
    fun d₁ hopens hfresh => hframe d₁ (hmalloc.trans hopens) hfresh
  by_cases hedit : IsEditbox a.type
  · rw [if_pos hedit]
    obtain ⟨d', hd', hopens, hfresh⟩ := createChild_opens WT_SIMPLE 8 hmalloc.sound hsecond hparent (by decide)
      hoverlapped hframe'
    exact ⟨d', hd', (hmalloc.trans hopens).of_eq rfl (Nat.zero_add _) htotal, hfresh⟩
  rw [if_neg hedit]
  by_cases hbutton : a.type = WT_BUTTON
  · rw [if_pos hbutton]
    obtain ⟨d', hd', hopens, hfresh⟩ := createChild_opens WT_BUTTON 8 hmalloc.sound hsecond hparent (by decide)
      hoverlapped hframe'
    rw [hbutton] at hd'
    exact ⟨d', hd', (hmalloc.trans hopens).of_eq rfl (Nat.zero_add _) htotal, hfresh⟩
  have hlast : a.type = WT_SIMPLE := by
    rcases htype with htype | htype | htype | htype
    · exact absurd htype hoverlapped
    · exact absurd htype hedit
    · exact absurd htype hbutton
    · exact htype
  obtain ⟨rfl, rfl, rfl⟩ := hsimple hlast
  rw [if_neg hbutton, if_pos hlast]
  obtain ⟨d', hd', hopens, hnew⟩ := createTyped_opens (a := childArgs WT_SIMPLE 0 a) WT_SIMPLE hmalloc.sound hsecond
    hparent (show KnownType WT_SIMPLE by decide)
  have hnew' : d.HasNew d' WT_SIMPLE 0 := hnew
  exact ⟨d', hd', hmalloc.trans hopens, hnew'.fresh hlast.symm fun heq => absurd heq hoverlapped⟩

/-! ## The title bar -/

/-- The next object is in no slot. -/
lemma Desk.Sound.new_unregistered (h : d.Sound) (slot : ℕ) : d.windowList slot ≠ d.objects + 1 := by
  intro hslot
  have hle := h.slot_range (show d.windowList slot ≠ 0 by omega)
  omega

/-- **A new window is registered**, if there is room. -/
lemma register_opens (h : d.Sound) (hopens : Opens d d' L n m) (hptr : d.objects < ptr) (hle : ptr ≤ d'.objects)
    (hL : ptr ∉ L) (hroom : d.windowsCount + L.length + 1 < 1024) :
    ∃ (slot : ℕ) (d'' : Desk), registerWindow d' ptr = .ok ((slot : ℤ), d'') ∧ d''.windowList slot = ptr ∧
      Opens d' d'' [ptr] 0 0 := by
  have hnot : ∀ slot, d.windowList slot ≠ ptr := by
    intro slot hslot
    have := h.slot_range (show d.windowList slot ≠ 0 by omega)
    omega
  exact registerWindow_opens hopens.sound (by omega) hle (hopens.unregistered hnot hL (by omega))
    (by rw [hopens.count]; exact hroom)

lemma frameChild_opens (h : d.Sound) (hparent : parent ≤ d.objects) (hw : d.win ptr = some w) (hlive : w.Alive) :
    ∃ d', frameChild parent ptr d = .ok d' ∧ Opens d d' [] 0 0 := by
  have hmask : Opens d (d.setWin ptr w.mask) [] 0 0 := setWin_opens h hw rfl rfl
  exact createFrame_opens h hparent hw hlive (fun _ _ => ⟨_, rfl, .refl hmask.sound⟩) fun _ => ⟨rfl, rfl, rfl⟩

/-- **A button of the title bar** is made and registered. -/
lemma createControl_opens {tb : ℕ} (padding : ℕ) (h : d.Sound) (hmemory : d.HasMemory memory 2) (hpos : 0 < tb)
    (htb : tb ≤ d.objects) (hroom : d.windowsCount + 1 < 1024) :
    ∃ d', createControl memory tb padding d = .ok (true, d') ∧ Opens d d' [d.objects + 1] 1 2 := by
  obtain ⟨v, hv⟩ := h.exists_win hpos htb
  rw [createControl, deref_eq_ok.2 hv, ok_bind]
  generalize hargs : (WindowArgs.mk WT_BUTTON 0 1 (ulongSub v.width (padding + 28 * padding)) 0 28
    (METRICS_TITLEBAR_DEFAULT_HEIGHT - 2) tb) = args
  have hparent : args.pWindow = tb := by rw [← hargs]
  have htype : args.type = WT_BUTTON := by rw [← hargs]
  obtain ⟨d₁, h₁, hopens₁, -⟩ := createWindow_opens (L := []) (n := 0) (m := 0) (a := args) frameChild h hmemory
    (hparent ▸ htb) (by rw [htype]; decide) (fun e hopens hfresh => by
      obtain ⟨w, hw, hlive, -⟩ := hfresh
      exact frameChild_opens hopens.sound (by rw [hopens.objects, hparent]; omega) hw hlive) fun _ => ⟨rfl, rfl, rfl⟩
  have hne : d.objects + 1 ≠ 0 := Nat.succ_ne_zero _
  obtain ⟨slot, d', h₂, -, hopens₂⟩ := register_opens h hopens₁ (Nat.lt_add_one _) hopens₁.objects.ge
    List.not_mem_nil hroom
  refine ⟨d', ?_, hopens₁.trans hopens₂⟩
  rw [h₁, ok_bind]
  dsimp only
  rw [if_neg hne, h₂, ok_bind]
  simp

/-- **The three buttons**. -/
lemma doCreateControls_opens {tb : ℕ} (h : d.Sound) (hmemory : d.HasMemory memory 6) (hpos : 0 < tb)
    (htb : tb ≤ d.objects) (hroom : d.windowsCount + 3 < 1024) :
    ∃ d', doCreateControls memory tb d = .ok d' ∧
      Opens d d' [d.objects + 1, d.objects + 2, d.objects + 3] 3 6 := by
  obtain ⟨d₁, h₁, hopens₁⟩ := createControl_opens 3 h (hmemory.mono (by omega)) hpos htb (by omega)
  have hcount₁ := hopens₁.count
  have hobjects₁ := hopens₁.objects
  obtain ⟨d₂, h₂, hopens₂⟩ := createControl_opens 2 hopens₁.sound
    ((hopens₁.hasMemory (k := 4) hmemory).mono (by omega)) hpos (by omega) (by simp at hcount₁; omega)
  have hboth := hopens₁.trans hopens₂
  have hcount₂ := hboth.count
  have hobjects₂ := hboth.objects
  obtain ⟨d₃, h₃, hopens₃⟩ := createControl_opens 1 hboth.sound (hboth.hasMemory (k := 2) hmemory) hpos (by omega)
    (by simp at hcount₂; omega)
  refine ⟨d₃, ?_, (hboth.trans hopens₃).of_eq ?_ rfl rfl⟩
  · rw [doCreateControls, h₁, ok_bind]
    dsimp only
    rw [if_neg (by simp), h₂, ok_bind]
    dsimp only
    rw [if_neg (by simp), h₃, ok_bind]
  · rw [hobjects₂, hobjects₁]
    rfl

/-- **The title bar** and its buttons are made and registered. -/
lemma createTitlebar_opens (h : d.Sound) (hmemory : d.HasMemory memory 8) (hw : d.win ptr = some w)
    (hroom : d.windowsCount + 4 < 1024) :
    ∃ d' tb, createTitlebar memory ptr d = .ok (some tb, d') ∧
      Opens d d' [d.objects + 1, d.objects + 2, d.objects + 3, d.objects + 4] 4 8 := by
  have hptr := h.range hw
  rw [createTitlebar, deref_eq_ok.2 hw, ok_bind]
  dsimp only
  generalize hargs : barArgs ptr 0 (ulongSub w.width (2 * METRICS_BORDER_SIZE)) METRICS_TITLEBAR_DEFAULT_HEIGHT = args
  have hparent : args.pWindow = ptr := by rw [← hargs]; rfl
  have htype : args.type = WT_SIMPLE := by rw [← hargs]; rfl
  obtain ⟨d₁, h₁, hopens₁, -⟩ := doCreateWindow_opens (a := args) h (hmemory.first (by omega)) (hparent ▸ hptr.2)
    (by rw [htype]; decide)
  obtain ⟨w₁, hw₁, -⟩ := hopens₁.win hw hptr.2
  obtain ⟨d₂, h₂, hopens₂⟩ := modify_opens (f := GwsWindow.setTitlebar (d.objects + 1)) hopens₁.sound hw₁ rfl rfl
  have hmade := hopens₁.trans hopens₂
  obtain ⟨slot, d₃, h₃, -, hopens₃⟩ := register_opens h hmade (Nat.lt_add_one _) hmade.objects.ge List.not_mem_nil
    (by simp; omega)
  have hregistered := hmade.trans hopens₃
  have hcount₃ := hregistered.count
  have hobjects₃ := hregistered.objects
  obtain ⟨d₄, h₄, hopens₄⟩ := doCreateControls_opens hregistered.sound
    ((hregistered.hasMemory (k := 7) hmemory).mono (by omega)) (Nat.add_one_pos d.objects) hobjects₃.ge
    (by simp at hcount₃; omega)
  have hcontrols := hregistered.trans hopens₄
  obtain ⟨w₄, hw₄, -⟩ := hcontrols.win hw hptr.2
  obtain ⟨d₅, h₅, hopens₅⟩ :=
    modify_opens (f := GwsWindow.lowerClient METRICS_TITLEBAR_DEFAULT_HEIGHT) hcontrols.sound hw₄ rfl rfl
  have hlowered := hcontrols.trans hopens₅
  have hdone : (d₅.malloc memory).1 = true := (hlowered.hasMemory (k := 1) hmemory).first (by omega)
  refine ⟨(d₅.malloc memory).2, d.objects + 1, ?_, (hlowered.trans (malloc_opens hlowered.sound memory)).of_eq ?_ rfl rfl⟩
  · have hslot : ¬((slot : ℤ) < 0) := by omega
    rw [h₁, ok_bind]
    dsimp only
    rw [h₂, ok_bind, h₃, ok_bind]
    dsimp only
    rw [if_neg hslot, h₄, ok_bind, h₅, ok_bind, if_pos hdone]
  · rw [hobjects₃]
    rfl

/-- An application window without a status bar: **its frame** is the title bar, if it is not maximized. -/
lemma frameOverlapped_opens (h : d.Sound) (hw : d.win ptr = some w) (hstatus : ¬HasStatusbar w.style)
    (htitle : ¬IsMaximized w.style → d.HasMemory memory 8 ∧ d.windowsCount + 4 < 1024) :
    ∃ d', frameOverlapped memory ptr d = .ok d' ∧
      (IsMaximized w.style → Opens d d' [] 0 0) ∧
      (¬IsMaximized w.style →
        Opens d d' [d.objects + 1, d.objects + 2, d.objects + 3, d.objects + 4] 4 8) := by
  obtain ⟨htie, hkind⟩ := drawWindowBorder_tie (w.setBorder METRICS_BORDER_SIZE)
  obtain ⟨d₁, h₁, hopens₁⟩ := modify_opens (f := GwsWindow.overlappedFrame) h hw htie hkind
  obtain ⟨w₁, hw₁, hkind₁⟩ := hopens₁.win hw (h.range hw).2
  have hstyle : w₁.style = w.style := congrArg (fun kind => kind.2.2.2) hkind₁
  rw [frameOverlapped, h₁, ok_bind, deref_eq_ok.2 hw₁, ok_bind, hstyle]
  by_cases hmaximized : IsMaximized w.style
  · rw [if_pos hmaximized, if_neg hstatus]
    exact ⟨d₁, rfl, fun _ => hopens₁, fun hnot => absurd hmaximized hnot⟩
  · obtain ⟨hmemory, hroom⟩ := htitle hmaximized
    obtain ⟨d', tb, hd', hopens'⟩ := createTitlebar_opens hopens₁.sound (hopens₁.hasMemory ((Nat.zero_add 8).symm ▸ hmemory))
      hw₁ (by rw [hopens₁.count]; exact hroom)
    rw [if_neg hmaximized, hd', ok_bind]
    dsimp only
    rw [if_neg hstatus]
    refine ⟨d', rfl, fun hyes => absurd hyes hmaximized, fun _ => (hopens₁.trans hopens').of_eq ?_ rfl rfl⟩
    rw [hopens₁.objects]
    rfl

/-! ## The window -/

/-- What is registered with a window, before it. -/
def Desk.titleParts (d : Desk) (a : WindowArgs) : List ℕ :=
  if d.HasTitle a then [d.objects + 2, d.objects + 3, d.objects + 4, d.objects + 5] else []

lemma createWindow_refuses {frame : Frame} (h : d.Refuses memory a) :
    createWindow memory frame a d = .ok (0, (d.malloc memory).2) := by
  rw [createWindow]
  dsimp only
  by_cases hdone : (d.malloc memory).1 = true
  · have htype : ¬Creatable a.type := by
      rcases h with hmemory | htype
      · exact absurd (hdone.symm.trans hmemory) (by simp)
      · exact htype
    rw [Creatable, not_or, not_or, not_or] at htype
    rw [if_neg (not_not.2 hdone), if_neg htype.1, if_neg htype.2.1, if_neg htype.2.2.1, if_neg htype.2.2.2]
  · rw [if_pos hdone]

/-- Whether a window is alive does not change. -/
lemma Opens.aliveAt (h : Opens d d' L n m) (hle : ptr ≤ d.objects) : d'.AliveAt ptr ↔ d.AliveAt ptr := by
  have hkind := h.kind ptr hle
  constructor
  · rintro ⟨p, hp, hused, hmagic⟩
    rw [hp, Option.map_some, eq_comm, Option.map_eq_some_iff] at hkind
    obtain ⟨q, hq, hsame⟩ := hkind
    simp only [GwsWindow.kind, Prod.mk.injEq] at hsame
    exact ⟨q, hq, hsame.1.trans hused, hsame.2.1.trans hmagic⟩
  · rintro ⟨p, hp, hused, hmagic⟩
    obtain ⟨q, hq, hsame⟩ := h.win hp hle
    simp only [GwsWindow.kind, Prod.mk.injEq] at hsame
    exact ⟨q, hq, hsame.1.trans hused, hsame.2.1.trans hmagic⟩

/-- **The frame of a new window**: the title bar, if it has one. -/
lemma wmCreateWindowFrame_opens (hcan : d.CanOpen memory a) {d₁ : Desk} (hopens : Opens d d₁ [] 1 2)
    (hfresh : d.HasFresh d₁ a) :
    ∃ d', wmCreateWindowFrame memory a.pWindow (d.objects + 1) d₁ = .ok d' ∧
      Opens d₁ d' (d.titleParts a) (if d.HasTitle a then 4 else 0) (if d.HasTitle a then 8 else 0) := by
  obtain ⟨w, hw, hlive, htype, hstyle⟩ := hfresh
  have halive : d₁.AliveAt a.pWindow ↔ d.AliveAt a.pWindow := hopens.aliveAt hcan.parent
  have hparent : a.pWindow ≤ d₁.objects := hcan.parent.trans (by rw [hopens.objects]; omega)
  have hmask : Opens d₁ (d₁.setWin (d.objects + 1) w.mask) [] 0 0 := setWin_opens hopens.sound hw rfl rfl
  have hself : (d₁.setWin (d.objects + 1) w.mask).win (d.objects + 1) = some w.mask := Function.update_self ..
  refine createFrame_opens hopens.sound hparent hw hlive (fun hoverlapped hat => ?_) fun hrest => ?_
  · have ha : a.type = WT_OVERLAPPED := htype.symm.trans hoverlapped
    have hsame : w.mask.style = a.style := hstyle ha
    have hstatus : ¬HasStatusbar w.mask.style := fun hbar => hcan.status ⟨ha, halive.mp hat, hsame ▸ hbar⟩
    obtain ⟨d', hd', hmaximized, htitle⟩ := frameOverlapped_opens hmask.sound hself hstatus fun hnot => by
      have hhas : d.HasTitle a := ⟨ha, halive.mp hat, hsame ▸ hnot⟩
      have hmemory := hcan.memory
      have hroom := hcan.room
      rw [if_pos hhas] at hmemory
      rw [Desk.parts, if_pos hhas] at hroom
      refine ⟨(hopens.trans hmask).hasMemory (k := 8) hmemory, ?_⟩
      rw [(hopens.trans hmask).count]
      simp
      omega
    refine ⟨d', hd', ?_⟩
    by_cases hmax : IsMaximized a.style
    · have hno : ¬d.HasTitle a := fun hhas => hhas.2.2 hmax
      rw [Desk.titleParts, if_neg hno, if_neg hno, if_neg hno]
      exact hmaximized (hsame.symm ▸ hmax)
    · have hhas : d.HasTitle a := ⟨ha, halive.mp hat, hmax⟩
      rw [Desk.titleParts, if_pos hhas, if_pos hhas, if_pos hhas]
      refine (htitle (hsame.symm ▸ hmax)).of_eq ?_ rfl rfl
      rw [hmask.objects, hopens.objects]
  · have hno : ¬d.HasTitle a := fun hhas => hrest ⟨htype.trans hhas.1, halive.mpr hhas.2.1⟩
    rw [Desk.titleParts, if_neg hno, if_neg hno, if_neg hno]
    exact ⟨rfl, rfl, rfl⟩

/-- **A window is made and registered**, with what comes with it. -/
lemma open_opens (h : d.Sound) (hcan : d.CanOpen memory a) :
    ∃ (d₁ d' : Desk) (slot : ℕ), createWindow memory (wmCreateWindowFrame memory) a d = .ok (d.objects + 1, d₁) ∧
      registerWindow d₁ (d.objects + 1) = .ok ((slot : ℤ), d') ∧ d'.windowList slot = d.objects + 1 ∧
      d.HasFresh d' a ∧ Opens d d' (d.titleParts a ++ [d.objects + 1]) (d.parts a)
        (if d.HasTitle a then 10 else 2) := by
  have hmemory : d.HasMemory memory 2 := hcan.memory.mono (by split_ifs <;> omega)
  obtain ⟨d₁, h₁, hopens₁, hfresh⟩ := createWindow_opens (wmCreateWindowFrame memory) h hmemory hcan.parent hcan.type
    (fun e hopens hfresh => wmCreateWindowFrame_opens hcan hopens hfresh) fun hsimple => by
      have hno : ¬d.HasTitle a := fun hhas => absurd (hsimple.symm.trans hhas.1) (by decide)
      rw [Desk.titleParts, if_neg hno, if_neg hno, if_neg hno]
      exact ⟨rfl, rfl, rfl⟩
  have hroom := hcan.room
  rw [Desk.parts, if_neg hcan.status] at hroom
  have hlength : (d.titleParts a).length = if d.HasTitle a then 4 else 0 := by
    rw [Desk.titleParts]
    split_ifs <;> rfl
  have hmem : d.objects + 1 ∉ d.titleParts a := by
    rw [Desk.titleParts]
    split_ifs <;> simp
  obtain ⟨slot, d', h₂, hslot, hopens₂⟩ := register_opens h hopens₁ (Nat.lt_add_one _)
    (by rw [hopens₁.objects]; omega) hmem (by rw [hlength]; omega)
  refine ⟨d₁, d', slot, h₁, h₂, hslot, hfresh.opens hopens₂ (by rw [hopens₁.objects]; omega),
    (hopens₁.trans hopens₂).of_eq rfl ?_ ?_⟩
  · rw [Desk.parts, if_neg hcan.status]
  · split_ifs <;> rfl

end

/-! ## The clients -/

/-- `struct gws_client_d`, as far as `wmManageWindow` fills it in. -/
structure GwsClient where
  l : ℤ
  t : ℤ
  w : ℤ
  h : ℤ

/-- The server, and the clients from `first_client` on. -/
structure Server where
  desk : Desk
  clients : List GwsClient

/-- The client of a window. -/
def GwsWindow.client (w : GwsWindow) : GwsClient where
  l := toInt32 w.absoluteX
  t := toInt32 w.absoluteY
  w := toInt32 w.width
  h := toInt32 w.height

/-- `wmManageWindow` with the list of the clients: without a first one it fails, and the caller waits for ever. -/
def wmManageClient (memory : ℕ → Bool) (ptr : ℕ) (s : Server) : Except ServerFault Server :=
  if s.clients = [] then .error .hang
  else do
    let d ← wmManageWindow memory s.desk
    let w ← d.deref ptr
    .ok ⟨d, s.clients ++ [w.client]⟩

/-- The part of `serviceCreateWindow` about a window that exists. -/
def serviceNewClient (memory : ℕ → Bool) (ptr : ℕ) (s : Server) : Except ServerFault (ℤ × Server) := do
  let (id, d) ← registerWindow s.desk ptr
  if id < 0 then .ok (-1, ⟨d, s.clients⟩)
  else
    let w ← d.deref ptr
    if w.type = WT_OVERLAPPED then
      let d ← wmAddWindowIntoTheList d ptr
      let s ← wmManageClient memory ptr ⟨d, s.clients⟩
      .ok (id, s)
    else .ok (id, ⟨d, s.clients⟩)

/-- `serviceCreateWindow` with the list of the clients. -/
def serviceCreateClient (memory : ℕ → Bool) (pw : ℕ) (a : WindowArgs) (s : Server) :
    Except ServerFault (ℤ × Server) :=
  if pw ≥ WINDOW_COUNT_MAX then .error .exit
  else if s.desk.windowList pw = 0 then .error .exit
  else do
    let (ptr, d) ← createWindow memory (wmCreateWindowFrame memory)
      { a with pWindow := s.desk.windowList pw } s.desk
    if ptr = 0 then .ok (-1, ⟨d, s.clients⟩) else serviceNewClient memory ptr ⟨d, s.clients⟩

/-- A window that the server makes for itself: the root window, the task bar, a menu. -/
def openWindow (memory : ℕ → Bool) (a : WindowArgs) (d : Desk) : Except ServerFault (ℤ × Desk) := do
  let (ptr, d) ← createWindow memory (wmCreateWindowFrame memory) a d
  if ptr = 0 then .ok (-1, d) else registerWindow d ptr

/-- **Without the clients** it is `serviceCreateWindow`. -/
theorem serviceCreateClient_desk {memory : ℕ → Bool} {pw : ℕ} {a : WindowArgs} {s s' : Server} {id : ℤ}
    (h : serviceCreateClient memory pw a s = .ok (id, s')) :
    serviceCreateWindow memory pw a s.desk = .ok (id, s'.desk) := by
  rw [serviceCreateClient] at h
  rw [serviceCreateWindow]
  by_cases hpw : pw ≥ WINDOW_COUNT_MAX
  · rw [if_pos hpw] at h
    cases h
  by_cases hslot : s.desk.windowList pw = 0
  · rw [if_neg hpw, if_pos hslot] at h
    cases h
  rw [if_neg hpw, if_neg hslot] at h ⊢
  obtain ⟨⟨ptr, d⟩, h₁, h⟩ := bind_eq_ok h
  rw [h₁, ok_bind]
  dsimp only at h ⊢
  by_cases hnull : ptr = 0
  · rw [if_pos hnull] at h ⊢
    cases h
    rfl
  rw [if_neg hnull, serviceNewClient] at h
  rw [if_neg hnull, serviceNewWindow]
  obtain ⟨⟨slot, d₂⟩, h₂, h⟩ := bind_eq_ok h
  rw [h₂, ok_bind]
  dsimp only at h ⊢
  by_cases hid : slot < 0
  · rw [if_pos hid] at h ⊢
    cases h
    rfl
  rw [if_neg hid] at h ⊢
  obtain ⟨w, hw, h⟩ := bind_eq_ok h
  rw [hw, ok_bind]
  by_cases htype : w.type = WT_OVERLAPPED
  · rw [if_pos htype] at h ⊢
    obtain ⟨d₃, h₃, h⟩ := bind_eq_ok h
    obtain ⟨s₄, h₄, h⟩ := bind_eq_ok h
    cases h
    rw [h₃, ok_bind]
    rw [wmManageClient] at h₄
    split_ifs at h₄
    obtain ⟨d₄, hd₄, h₄⟩ := bind_eq_ok h₄
    obtain ⟨w₄, -, h₄⟩ := bind_eq_ok h₄
    cases h₄
    rw [hd₄, ok_bind]
  · rw [if_neg htype] at h ⊢
    cases h
    rfl

/-! ## What should hold of a request -/

/-- Every new window has one slot, with its number; the first of them is in the slot `id`, no other slot changes,
and the slots are counted. -/
structure RegisteredOnce (d d' : Desk) (parts : ℕ) (id : ℤ) : Prop where
  parts : d'.objects = d.objects + parts
  window : d'.windowList id.toNat = d.objects + 1
  once : ∀ ptr, d.objects < ptr → ptr ≤ d'.objects →
    ∃ slot w, d'.windowList slot = ptr ∧ (∀ t, d'.windowList t = ptr → t = slot) ∧ d'.win ptr = some w ∧ w.id = slot
  others : ∀ slot, d'.windowList slot ≠ d.windowList slot →
    d.windowList slot = 0 ∧ d.objects < d'.windowList slot ∧ d'.windowList slot ≤ d'.objects
  count : d'.windowsCount = d'.used

/-- The tables, the lists and the active window are as before. -/
structure Unchanged (s s' : Server) : Prop where
  windowList : s'.desk.windowList = s.desk.windowList
  windowsCount : s'.desk.windowsCount = s.desk.windowsCount
  firstWindow : s'.desk.firstWindow = s.desk.firstWindow
  lastWindow : s'.desk.lastWindow = s.desk.lastWindow
  next : ∀ ptr ≤ s.desk.objects, s'.desk.next ptr = s.desk.next ptr
  clients : s'.clients = s.clients
  activeWindow : s'.desk.activeWindow = s.desk.activeWindow

/-- **The request for a window comes to its end: it registers the window and its parts once, or changes nothing.** -/
def OnceOrNothing (memory : ℕ → Bool) (s : Server) (pw : ℕ) (a : WindowArgs) : Prop :=
  ∃ id s', serviceCreateClient memory pw a s = .ok (id, s') ∧
    (0 ≤ id → RegisteredOnce s.desk s'.desk (s.desk.parts { a with pWindow := s.desk.windowList pw }) id) ∧
    (id < 0 → Unchanged s s')

/-- A request that is refused at once, or for which there is room and memory. -/
def Server.Serves (memory : ℕ → Bool) (s : Server) (pw : ℕ) (a : WindowArgs) : Prop :=
  pw < WINDOW_COUNT_MAX ∧ s.desk.windowList pw ≠ 0 ∧
    (s.desk.Refuses memory a ∨
      (s.desk.CanOpen memory { a with pWindow := s.desk.windowList pw } ∧
        (a.type = WT_OVERLAPPED → s.clients ≠ [] ∧ memory (s.desk.mallocs +
          if s.desk.HasTitle { a with pWindow := s.desk.windowList pw } then 10 else 2) = true)))

section

variable {d d' : Desk} {ptr pw n m : ℕ} {L : List ℕ} {w : GwsWindow} {memory : ℕ → Bool} {a : WindowArgs}
  {s : Server}

/-- What is registered is registered once. -/
lemma Opens.registeredOnce {slot : ℕ} (hopens : Opens d d' L n m) (hslot : d'.windowList slot = d.objects + 1)
    (hL : ∀ ptr, ptr ∈ L ↔ d.objects < ptr ∧ ptr ≤ d.objects + n) : RegisteredOnce d d' n slot where
  parts := hopens.objects
  window := hslot
  once := by
    intro ptr hlo hhi
    rw [hopens.objects] at hhi
    obtain ⟨hne, t, ht⟩ := hopens.placed ptr ((hL ptr).mpr ⟨hlo, hhi⟩)
    obtain ⟨-, w, hw, hid⟩ := hopens.sound.slot t (ht ▸ hne)
    exact ⟨t, w, ht, fun u hu => hopens.sound.unique (ht ▸ hne) (hu.trans ht.symm), ht ▸ hw, hid⟩
  others := by
    intro t ht
    by_cases hfree : d.windowList t = 0
    · have hmem := (hL _).mp (hopens.fresh t hfree (hfree ▸ ht))
      rw [hopens.objects]
      exact ⟨hfree, hmem⟩
    · exact absurd (hopens.kept t hfree) ht
  count := hopens.sound.count

/-- The windows that are registered are those that are made. -/
lemma titleParts_mem (hstatus : ¬d.HasStatus a) (ptr : ℕ) :
    ptr ∈ d.titleParts a ++ [d.objects + 1] ↔ d.objects < ptr ∧ ptr ≤ d.objects + d.parts a := by
  rw [Desk.titleParts, Desk.parts, if_neg hstatus]
  split_ifs
  · simp only [List.mem_append, List.mem_cons, List.not_mem_nil, or_false]
    omega
  · simp only [List.nil_append, List.mem_cons, List.not_mem_nil, or_false]
    omega

/-- A new application window is added once more, and its client is entered. -/
lemma newClient_opens (h : d.Sound) (hw : d.win ptr = some w)
    (hclient : w.type = WT_OVERLAPPED → s.clients ≠ [] ∧ memory d.mallocs = true) :
    ∃ s', (if w.type = WT_OVERLAPPED then do
        let d ← wmAddWindowIntoTheList d ptr
        let s ← wmManageClient memory ptr ⟨d, s.clients⟩
        .ok ((n : ℤ), s)
      else .ok ((n : ℤ), ⟨d, s.clients⟩)) = (.ok ((n : ℤ), s') : Except ServerFault (ℤ × Server)) ∧
      ∃ m, Opens d s'.desk [] 0 m := by
  by_cases htype : w.type = WT_OVERLAPPED
  · obtain ⟨hclients, hmemory⟩ := hclient htype
    obtain ⟨d₁, h₁, hopens₁⟩ := wmAdd_opens h (h.range hw).2
    have hdone : (d₁.malloc memory).1 = true := by
      rw [Desk.malloc, hopens₁.mallocs]
      exact hmemory
    have hall := hopens₁.trans (malloc_opens hopens₁.sound memory)
    obtain ⟨w₁, hw₁, -⟩ := hall.win hw (h.range hw).2
    refine ⟨⟨(d₁.malloc memory).2, s.clients ++ [w₁.client]⟩, ?_, _, hall⟩
    rw [if_pos htype, h₁, ok_bind, wmManageClient, if_neg hclients, wmManageWindow]
    dsimp only
    rw [if_pos hdone, ok_bind, deref_eq_ok.2 hw₁]
    rfl
  · exact ⟨⟨d, s.clients⟩, if_neg htype, 0, .refl h⟩

/-- **A request that is served** registers the window once, or changes nothing, and the tables stay sound. -/
lemma serves_once (h : s.desk.Sound) (hserves : s.Serves memory pw a) :
    ∃ id s', serviceCreateClient memory pw a s = .ok (id, s') ∧ s'.desk.Sound ∧
      (0 ≤ id → RegisteredOnce s.desk s'.desk (s.desk.parts { a with pWindow := s.desk.windowList pw }) id) ∧
      (id < 0 → Unchanged s s') := by
  obtain ⟨hpw, hslot, hserves⟩ := hserves
  rw [serviceCreateClient, if_neg (Nat.not_le.2 hpw), if_neg hslot]
  rcases hserves with hrefuses | ⟨hcan, hclient⟩
  · have hrefuses' : s.desk.Refuses memory { a with pWindow := s.desk.windowList pw } := hrefuses
    rw [createWindow_refuses hrefuses', ok_bind]
    refine ⟨-1, ⟨(s.desk.malloc memory).2, s.clients⟩, rfl, (malloc_opens h memory).sound, by simp, fun _ => ?_⟩
    exact ⟨rfl, rfl, rfl, rfl, fun _ _ => rfl, rfl, rfl⟩
  · obtain ⟨d₁, d₂, slot, h₁, h₂, hid, ⟨w, hw, -, htype, -⟩, hopens⟩ := open_opens h hcan
    have hclient' : w.type = WT_OVERLAPPED → s.clients ≠ [] ∧ memory d₂.mallocs = true := by
      intro hoverlapped
      rw [hopens.mallocs]
      exact hclient (htype.symm.trans hoverlapped)
    obtain ⟨s', hs', k, hopens'⟩ := newClient_opens (n := slot) hopens.sound hw hclient'
    have hne : s.desk.objects + 1 ≠ 0 := Nat.succ_ne_zero _
    have hpos : ¬(slot : ℤ) < 0 := by omega
    have hall := (hopens.trans hopens').of_eq (List.append_nil _) rfl rfl
    refine ⟨slot, s', ?_, hopens'.sound, fun _ => ?_, fun hneg => absurd hneg hpos⟩
    · rw [h₁, ok_bind]
      dsimp only
      rw [if_neg hne, serviceNewClient, h₂, ok_bind]
      dsimp only
      rw [if_neg hpos, deref_eq_ok.2 hw, ok_bind]
      exact hs'
    · refine hall.registeredOnce ?_ fun ptr => ?_
      · rw [hopens'.kept slot (hid ▸ hne), hid]
      · exact titleParts_mem hcan.status ptr

end

/-! ## Runs -/

/-- What happens to the tables and the lists of the server. -/
inductive ServerStep where
  /-- `serviceCreateWindow`. -/
  | service (pw : ℕ) (a : WindowArgs)
  /-- A window that the server makes for itself. -/
  | opened (a : WindowArgs)
  /-- `wm_add_window_into_the_list`. -/
  | add (ptr : ℕ)
  /-- `set_last_window`. -/
  | setLast (ptr : ℕ)
  /-- `wm_remove_window_from_list_and_kill`. -/
  | kill (ptr : ℕ)
  /-- `set_active_window`. -/
  | activate (ptr : ℕ)
  deriving DecidableEq

/-- One step. -/
def serverStep (memory : ℕ → Bool) (s : Server) : ServerStep → Except ServerFault Server
  | .service pw a => (serviceCreateClient memory pw a s).map Prod.snd
  | .opened a => (openWindow memory a s.desk).map fun r => ⟨r.2, s.clients⟩
  | .add ptr => (wmAddWindowIntoTheList s.desk ptr).map (⟨·, s.clients⟩)
  | .setLast ptr => (setLastWindow s.desk ptr).map (⟨·, s.clients⟩)
  | .kill ptr => (wmRemoveWindowFromListAndKill s.desk ptr).map (⟨·, s.clients⟩)
  | .activate ptr => (setActiveWindow s.desk ptr).map (⟨·, s.clients⟩)

/-- A window that is made is refused at once, or there is room and memory for it; other pointers are pointers of
windows. -/
def Server.StepOk (memory : ℕ → Bool) (s : Server) : ServerStep → Prop
  | .service pw a => s.Serves memory pw a
  | .opened a => s.desk.Refuses memory a ∨ s.desk.CanOpen memory a
  | .add ptr | .setLast ptr | .kill ptr | .activate ptr => ptr ≤ s.desk.objects

section

variable {d d' : Desk} {ptr : ℕ} {memory : ℕ → Bool} {a : WindowArgs} {s : Server}

lemma openWindow_sound (h : d.Sound) (hok : d.Refuses memory a ∨ d.CanOpen memory a) :
    ∃ r, openWindow memory a d = .ok r ∧ r.2.Sound := by
  rw [openWindow]
  rcases hok with hrefuses | hcan
  · rw [createWindow_refuses hrefuses, ok_bind]
    exact ⟨_, rfl, (malloc_opens h memory).sound⟩
  · obtain ⟨d₁, d₂, slot, h₁, h₂, -, -, hopens⟩ := open_opens h hcan
    rw [h₁, ok_bind]
    dsimp only
    rw [if_neg (Nat.succ_ne_zero _), h₂]
    exact ⟨_, rfl, hopens.sound⟩

lemma setLastWindow_sound (h : d.Sound) (hptr : ptr ≤ d.objects) :
    ∃ d', setLastWindow d ptr = .ok d' ∧ d'.Sound := by
  rw [setLastWindow]
  by_cases hnull : ptr = 0
  · exact ⟨d, if_pos hnull, h⟩
  obtain ⟨w, hw⟩ := h.exists_win (Nat.pos_of_ne_zero hnull) hptr
  rw [if_neg hnull, deref_eq_ok.2 hw, ok_bind]
  split_ifs
  · exact ⟨d, rfl, h⟩
  · obtain ⟨d', hd', hopens⟩ := wmAdd_opens h hptr
    exact ⟨d', hd', hopens.sound⟩

lemma kill_sound (h : d.Sound) (ptr : ℕ) : ∃ d', wmRemoveWindowFromListAndKill d ptr = .ok d' ∧ d'.Sound := by
  rw [wmRemoveWindowFromListAndKill]
  split_ifs
  · exact ⟨d, rfl, h⟩
  · exact ⟨d, rfl, h⟩
  · obtain ⟨L, hL⟩ := h.ends
    have hlength := Chain.length_le hL h.wellFormed
    obtain ⟨hloop, -⟩ | ⟨w, hw, -, hloop⟩ := removeLoop_eq ptr hL (Nat.lt_succ_of_le hlength)
    · exact ⟨d, hloop, h⟩
    · exact ⟨_, hloop, setWin_sound h hw rfl⟩

/-- **One step** comes to its end and keeps the tables sound. -/
lemma serverStep_sound (h : s.desk.Sound) {e : ServerStep} (hok : s.StepOk memory e) :
    ∃ s', serverStep memory s e = .ok s' ∧ s'.desk.Sound := by
  cases e with
  | service pw a =>
      obtain ⟨id, s', hs', hsound, -⟩ := serves_once h hok
      exact ⟨s', by rw [serverStep, hs']; rfl, hsound⟩
  | opened a =>
      obtain ⟨r, hr, hsound⟩ := openWindow_sound h hok
      exact ⟨⟨r.2, s.clients⟩, by rw [serverStep, hr]; rfl, hsound⟩
  | add ptr =>
      obtain ⟨d', hd', hopens⟩ := wmAdd_opens h hok
      exact ⟨⟨d', s.clients⟩, by rw [serverStep, hd']; rfl, hopens.sound⟩
  | setLast ptr =>
      obtain ⟨d', hd', hsound⟩ := setLastWindow_sound h hok
      exact ⟨⟨d', s.clients⟩, by rw [serverStep, hd']; rfl, hsound⟩
  | kill ptr =>
      obtain ⟨d', hd', hsound⟩ := kill_sound h ptr
      exact ⟨⟨d', s.clients⟩, by rw [serverStep, hd']; rfl, hsound⟩
  | activate ptr =>
      obtain ⟨d', hd', hopens⟩ := setActiveWindow_opens h hok
      exact ⟨⟨d', s.clients⟩, by rw [serverStep, hd']; rfl, hopens.sound⟩

end

/-- **Requests are served once or not at all.**  Along a run whose steps find room and memory, the server goes on, and
in every state a request that finds room and memory, or is refused at once, registers its windows once or changes
nothing. -/
theorem createOnce_run (memory : ℕ → Bool) (s : Server) (es : List ServerStep) (h : s.desk.Sound)
    (hok : Obeys (serverStep memory) (Server.StepOk memory) s es) :
    Stays (serverStep memory) (fun s => ∀ pw a, s.Serves memory pw a → OnceOrNothing memory s pw a) s es := by
  refine Obeys.stays (J := fun s => s.desk.Sound) (fun s e hs hC => serverStep_sound hs hC) ?_ es s h hok
  intro s hs pw a hserves
  obtain ⟨id, s', hs', -, hboth⟩ := serves_once hs hserves
  exact ⟨id, s', hs', hboth⟩

/-! ## A status bar -/

/-- No window was made yet, and the server is its own client. -/
def emptyServer : Server := ⟨emptyDesk, [⟨0, 0, 0, 0⟩]⟩

/-- The server with its root window. -/
def rootServer : Server := ⟨rootDesk, [⟨0, 0, 0, 0⟩]⟩

/-- The root window. -/
def rootArgs : WindowArgs where
  type := WT_SIMPLE
  style := 0
  status := 1
  x := 0
  y := 0
  width := 800
  height := 600
  pWindow := 0

/-- An application window with a status bar. -/
def statusArgs : WindowArgs := { applicationArgs with style := 8 }

lemma emptyServer_sound : emptyServer.desk.Sound where
  wellFormed := emptyList_alive.wellFormed
  slot := fun _ hslot => absurd rfl hslot
  count := by decide +kernel
  ends := ⟨[], rfl⟩

lemma rootServer_sound : rootServer.desk.Sound where
  wellFormed := rootDesk_settled.wellFormed
  slot := by
    intro slot hslot
    by_cases hzero : slot = 0
    · subst hzero
      exact ⟨by decide, rootWindow, rfl, rfl⟩
    · have hfree : rootServer.desk.windowList slot = 0 := by
        change Function.update (fun _ => 0) 0 1 slot = 0
        rw [Function.update_of_ne hzero]
      exact absurd hfree hslot
  count := by decide +kernel
  ends := ⟨[], rfl⟩

/-- The title bar of a window with a status bar is registered twice. -/
theorem createOnce_run_fails :
    ¬∀ (memory : ℕ → Bool) (s t : Server) (es : List ServerStep), s.desk.Sound →
      runs (serverStep memory) s es = .ok t → ∀ pw a, OnceOrNothing memory t pw a := by
  intro h
  have hrun : (runs (serverStep fun _ => true) emptyServer [.opened rootArgs] >>= fun t =>
      (serviceCreateClient (fun _ => true) 0 statusArgs t).map fun r => (t, r)).toOption.map
        (fun r => (r.1.desk.objects, r.2.1, r.2.2.desk.objects, r.2.2.desk.windowList 1, r.2.2.desk.windowList 5)) =
      some (1, 6, 7, 3, 3) := by
    decide +kernel
  cases hboth : (runs (serverStep fun _ => true) emptyServer [.opened rootArgs] >>= fun t =>
      (serviceCreateClient (fun _ => true) 0 statusArgs t).map fun r => (t, r)) with
  | error e =>
      rw [hboth] at hrun
      cases hrun
  | ok both =>
      rw [hboth] at hrun
      obtain ⟨t, ht, hmap⟩ := bind_eq_ok hboth
      obtain ⟨⟨id, s'⟩, hservice, rfl⟩ := map_eq_ok hmap
      obtain ⟨hold, hid, hnew, h₁, h₅⟩ : t.desk.objects = 1 ∧ id = 6 ∧ s'.desk.objects = 7 ∧
          s'.desk.windowList 1 = 3 ∧ s'.desk.windowList 5 = 3 := by
        simpa only [Except.toOption, Option.map_some, Option.some.injEq, Prod.mk.injEq] using hrun
      obtain ⟨id', s'', hs'', honce, -⟩ := h _ _ t _ emptyServer_sound ht 0 statusArgs
      obtain ⟨rfl, rfl⟩ := Prod.mk.inj (Except.ok.inj (hservice.symm.trans hs''))
      obtain ⟨slot, w, -, hunique, -⟩ := (honce (by omega)).once 3 (by omega) (by omega)
      have hsame := (hunique 1 h₁).trans (hunique 5 h₅).symm
      omega

/-- A window with a title bar. -/
theorem createOnce_run_root :
    Stays (serverStep fun _ => true) (fun s => ∀ pw a, s.Serves (fun _ => true) pw a →
      OnceOrNothing (fun _ => true) s pw a) rootServer [.service 0 applicationArgs] := by
  refine createOnce_run (fun _ => true) rootServer _ rootServer_sound ⟨⟨by decide, by decide, Or.inr ⟨?_, ?_⟩⟩,
    fun _ _ => trivial⟩
  · exact ⟨by decide, by decide, by decide, by decide, fun _ _ => rfl⟩
  · exact fun _ => ⟨by decide, rfl⟩

end Gramado.Gws
