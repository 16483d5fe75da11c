import Gramado.Gws.ApplicationList

/-!
# The table of the windows

`windowList`, `windows_count` and the numbers of the windows.  A window that is registered is in the slot that its
number names, and no other window has this number, so that it is in no second slot.

* `Desk.Sound` — the table, the count and the numbers fit together, and the list of the application windows ends.
* `Opens` — objects are made, and some of them are registered.
-/

namespace Gramado.Gws

open Cells

/-! ## What should hold -/

/-- How many slots are used. -/
def Desk.used (d : Desk) : ℕ := ((Finset.range 1024).filter fun slot => d.windowList slot ≠ 0).card

/-- The list of the application windows comes to an end. -/
def Desk.Ends (d : Desk) : Prop := ∃ L, Chain d.next (· = 0) d.firstWindow L

/-- **The table**: a window that is in a slot has its number, and `windows_count` counts the slots. -/
structure Desk.Table (d : Desk) : Prop where
  wellFormed : d.WellFormed
  slot : ∀ slot, d.windowList slot ≠ 0 → slot < 1024 ∧ ∃ w, d.win (d.windowList slot) = some w ∧ w.id = slot
  count : d.windowsCount = d.used

/-- The table and the list are sound. -/
structure Desk.Sound (d : Desk) : Prop extends d.Table where
  ends : d.Ends

/-- What the frames look at. -/
def GwsWindow.kind (w : GwsWindow) : ℤ × ℤ × ℕ × ℕ := (w.used, w.magic, w.type, w.style)

/-- What the table and the list look at. -/
def GwsWindow.tie (w : GwsWindow) : ℤ × ℕ := (w.id, w.next)

/-- **`n` objects are made with `m` calls of `malloc`**, and those in `L` are registered, each once. -/
structure Opens (d d' : Desk) (L : List ℕ) (n m : ℕ) : Prop where
  sound : d'.Sound
  kept : ∀ slot, d.windowList slot ≠ 0 → d'.windowList slot = d.windowList slot
  fresh : ∀ slot, d.windowList slot = 0 → d'.windowList slot ≠ 0 → d'.windowList slot ∈ L
  placed : ∀ ptr ∈ L, ptr ≠ 0 ∧ ∃ slot, d'.windowList slot = ptr
  count : d'.windowsCount = d.windowsCount + L.length
  objects : d'.objects = d.objects + n
  mallocs : d'.mallocs = d.mallocs + m
  kind : ∀ q ≤ d.objects, (d'.win q).map GwsWindow.kind = (d.win q).map GwsWindow.kind

section

variable {d d' d'' : Desk} {ptr q slot n m n' m' : ℕ} {L M : List ℕ} {w w' : GwsWindow} {memory : ℕ → Bool}

/-- A window is in one slot only. -/
lemma Desk.Sound.unique (h : d.Sound) {s t : ℕ} (hs : d.windowList s ≠ 0) (hst : d.windowList t = d.windowList s) :
    t = s := by
  obtain ⟨-, w, hw, hid⟩ := h.slot s hs
  obtain ⟨-, w', hw', hid'⟩ := h.slot t (hst ▸ hs)
  rw [hst, hw, Option.some.injEq] at hw'
  rw [← hw', hid] at hid'
  exact_mod_cast hid'.symm

lemma Desk.Sound.exists_win (h : d.Sound) (hpos : 0 < ptr) (hle : ptr ≤ d.objects) : ∃ w, d.win ptr = some w :=
  Option.isSome_iff_exists.mp ((h.wellFormed ptr).mpr ⟨hpos, hle⟩)

lemma Desk.Sound.range (h : d.Sound) (hw : d.win ptr = some w) : 0 < ptr ∧ ptr ≤ d.objects :=
  (h.wellFormed ptr).mp (by rw [hw]; rfl)

/-- What is in the table, is an object. -/
lemma Desk.Sound.slot_range (h : d.Sound) (hs : d.windowList slot ≠ 0) : d.windowList slot ≤ d.objects := by
  obtain ⟨-, w, hw, -⟩ := h.slot slot hs
  exact (h.range hw).2

namespace Opens

lemma refl (h : d.Sound) : Opens d d [] 0 0 where
  sound := h
  kept := fun _ _ => rfl
  fresh := fun _ hfree hused => absurd hfree hused
  placed := by simp
  count := rfl
  objects := rfl
  mallocs := rfl
  kind := fun _ _ => rfl

lemma trans (h : Opens d d' L n m) (h' : Opens d' d'' M n' m') : Opens d d'' (L ++ M) (n + n') (m + m') where
  sound := h'.sound
  kept := by
    intro slot hslot
    have hsame := h.kept slot hslot
    rw [h'.kept slot (hsame ▸ hslot), hsame]
  fresh := by
    intro slot hfree hused
    by_cases hslot : d'.windowList slot = 0
    · exact List.mem_append_right _ (h'.fresh slot hslot hused)
    · rw [h'.kept slot hslot]
      exact List.mem_append_left _ (h.fresh slot hfree hslot)
  placed := by
    intro ptr hptr
    rcases List.mem_append.mp hptr with hptr | hptr
    · obtain ⟨hne, slot, hslot⟩ := h.placed ptr hptr
      refine ⟨hne, slot, ?_⟩
      rw [h'.kept slot (hslot ▸ hne), hslot]
    · exact h'.placed ptr hptr
  count := by rw [h'.count, h.count, List.length_append, Nat.add_assoc]
  objects := by rw [h'.objects, h.objects, Nat.add_assoc]
  mallocs := by rw [h'.mallocs, h.mallocs, Nat.add_assoc]
  kind := by
    intro q hq
    rw [h'.kind q (by rw [h.objects]; omega), h.kind q hq]

/-- The numbers of the lemmas above, brought together. -/
lemma of_eq (h : Opens d d' L n m) (hL : L = M) (hn : n = n') (hm : m = m') : Opens d d' M n' m' :=
  hL ▸ hn ▸ hm ▸ h

lemma win (h : Opens d d' L n m) (hw : d.win q = some w) (hq : q ≤ d.objects) :
    ∃ w', d'.win q = some w' ∧ w'.kind = w.kind := by
  have hkind := h.kind q hq
  rwa [hw, Option.map_some, Option.map_eq_some_iff] at hkind

/-- A window that was in no slot is in none, unless it was registered. -/
lemma unregistered (h : Opens d d' L n m) (hnot : ∀ slot, d.windowList slot ≠ q) (hL : q ∉ L) (hq : q ≠ 0) :
    ∀ slot, d'.windowList slot ≠ q := by
  intro slot hslot
  by_cases hfree : d.windowList slot = 0
  · exact hL (hslot ▸ h.fresh slot hfree (hslot ▸ hq))
  · exact hnot slot (hslot ▸ (h.kept slot hfree).symm)

end Opens

/-! ## Steps that register nothing -/

lemma Desk.Ends.congr (h : d.Ends) (hfirst : d'.firstWindow = d.firstWindow) (hnext : d'.next = d.next) :
    d'.Ends := by
  obtain ⟨L, hL⟩ := h
  refine ⟨L, ?_⟩
  rw [hfirst, hnext]
  exact hL

/-- The table and the numbers of the windows are what they were. -/
lemma Desk.Table.of_same (h : d.Table) (hlist : d'.windowList = d.windowList)
    (hcount : d'.windowsCount = d.windowsCount) (hobjects : d'.objects = d.objects)
    (hid : ∀ q, (d'.win q).map GwsWindow.id = (d.win q).map GwsWindow.id) : d'.Table := by
  refine ⟨fun q => ?_, fun slot hslot => ?_, ?_⟩
  · have hsome := congrArg Option.isSome (hid q)
    rw [Option.isSome_map, Option.isSome_map] at hsome
    rw [hsome, hobjects]
    exact h.wellFormed q
  · rw [hlist] at hslot ⊢
    obtain ⟨hlt, w, hw, hwid⟩ := h.slot slot hslot
    have hsame := hid (d.windowList slot)
    rw [hw, Option.map_some, Option.map_eq_some_iff] at hsame
    obtain ⟨w', hw', hid'⟩ := hsame
    exact ⟨hlt, w', hw', hid'.trans hwid⟩
  · rw [hcount, h.count, Desk.used, Desk.used, hlist]

/-- The links are what they were as well. -/
lemma Desk.Sound.of_same (h : d.Sound) (hlist : d'.windowList = d.windowList)
    (hcount : d'.windowsCount = d.windowsCount) (hobjects : d'.objects = d.objects)
    (hfirst : d'.firstWindow = d.firstWindow) (htie : ∀ q, (d'.win q).map GwsWindow.tie = (d.win q).map GwsWindow.tie) :
    d'.Sound := by
  have hid : ∀ q, (d'.win q).map GwsWindow.id = (d.win q).map GwsWindow.id := by
    intro q
    have := congrArg (Option.map Prod.fst) (htie q)
    rwa [Option.map_map, Option.map_map] at this
  have hnext : d'.next = d.next := by
    funext q
    have := congrArg (Option.map Prod.snd) (htie q)
    rwa [Option.map_map, Option.map_map] at this
  exact ⟨h.toTable.of_same hlist hcount hobjects hid, h.ends.congr hfirst hnext⟩

/-- Nothing is registered, and the windows look the same to the frames. -/
lemma opens_of_same (h : d'.Sound) (hlist : d'.windowList = d.windowList) (hcount : d'.windowsCount = d.windowsCount)
    (hobjects : d'.objects = d.objects) (hmallocs : d'.mallocs = d.mallocs + m)
    (hkind : ∀ q, (d'.win q).map GwsWindow.kind = (d.win q).map GwsWindow.kind) : Opens d d' [] 0 m := by
  refine ⟨h, fun slot _ => by rw [hlist], fun slot hfree hused => ?_, by simp, hcount, hobjects, hmallocs,
    fun q _ => hkind q⟩
  rw [hlist] at hused
  exact absurd hfree hused

/-- A window is written that keeps its number and its link. -/
lemma setWin_sound (h : d.Sound) (hw : d.win ptr = some w) (htie : w'.tie = w.tie) : (d.setWin ptr w').Sound := by
  refine h.of_same rfl rfl rfl rfl fun q => ?_
  by_cases hq : q = ptr
  · subst hq
    simp [Desk.setWin, hw, htie]
  · simp [Desk.setWin, Function.update_of_ne hq]

lemma malloc_opens (h : d.Sound) (memory : ℕ → Bool) : Opens d (d.malloc memory).2 [] 0 1 :=
  opens_of_same (h.of_same rfl rfl rfl rfl fun _ => rfl) rfl rfl rfl rfl fun _ => rfl

/-- Fields of a window are written that nothing of this looks at. -/
lemma setWin_opens (h : d.Sound) (hw : d.win ptr = some w) (htie : w'.tie = w.tie) (hkind : w'.kind = w.kind) :
    Opens d (d.setWin ptr w') [] 0 0 := by
  refine opens_of_same (setWin_sound h hw htie) rfl rfl rfl rfl fun q => ?_
  by_cases hq : q = ptr
  · subst hq
    simp [Desk.setWin, hw, hkind]
  · simp [Desk.setWin, Function.update_of_ne hq]

lemma modify_opens {f : GwsWindow → GwsWindow} (h : d.Sound) (hw : d.win ptr = some w) (htie : (f w).tie = w.tie)
    (hkind : (f w).kind = w.kind) : ∃ d', d.modify ptr f = .ok d' ∧ Opens d d' [] 0 0 := by
  refine ⟨d.setWin ptr (f w), ?_, setWin_opens h hw htie hkind⟩
  rw [Desk.modify, deref_eq_ok.2 hw, ok_bind]

lemma setActiveWindow_opens (h : d.Sound) (hptr : ptr ≤ d.objects) :
    ∃ d', setActiveWindow d ptr = .ok d' ∧ Opens d d' [] 0 0 := by
  rw [setActiveWindow]
  split_ifs with hsame hnull
  · exact ⟨d, rfl, .refl h⟩
  · exact ⟨d, rfl, .refl h⟩
  · obtain ⟨w, hw⟩ := h.exists_win (Nat.pos_of_ne_zero hnull) hptr
    rw [deref_eq_ok.2 hw, ok_bind]
    split_ifs
    · exact ⟨d, rfl, .refl h⟩
    · exact ⟨d.setActive ptr, rfl,
        opens_of_same (h.of_same rfl rfl rfl rfl fun _ => rfl) rfl rfl rfl rfl fun _ => rfl⟩

/-! ## A new object -/

/-- The list is among the objects. -/
lemma Chain.range {p : ℕ} (h : Chain d.next (· = 0) p L) (hwf : d.WellFormed) (hq : q ∈ L) : q ≤ d.objects := by
  induction L generalizing p with
  | nil => cases hq
  | cons c L ih =>
      obtain ⟨rfl, -, r, hr, hrest⟩ := h
      rcases List.mem_cons.mp hq with rfl | hq
      · obtain ⟨w, hw, -⟩ := next_eq_some.1 hr
        exact ((hwf q).mp (by rw [hw]; rfl)).2
      · exact ih hrest hq

/-- **A new object** is in no slot. -/
lemma newObject_opens (h : d.Sound) (w : GwsWindow) : Opens d (d.newObject w).2 [] 1 0 := by
  have hold : ∀ q ≤ d.objects, (d.newObject w).2.win q = d.win q := by
    intro q hq
    have hne : q ≠ d.objects + 1 := by omega
    simp only [Desk.newObject, Desk.setWin, Function.update_of_ne hne]
  refine ⟨⟨⟨(newObject_keeps d w).wellFormed h.wellFormed, fun slot hslot => ?_, h.count⟩, ?_⟩, fun _ _ => rfl,
    fun slot hfree hused => absurd hfree hused, by simp, rfl, rfl, rfl, fun q hq => by rw [hold q hq]⟩
  · obtain ⟨hlt, v, hv, hid⟩ := h.slot slot hslot
    exact ⟨hlt, v, (hold _ (h.slot_range hslot)).trans hv, hid⟩
  · obtain ⟨L, hL⟩ := h.ends
    refine ⟨L, hL.congr fun q hq => ?_⟩
    rw [Desk.next, Desk.next, hold q (Chain.range hL h.wellFormed hq)]

lemma parentOf_ok (h : d.Sound) (hptr : ptr ≤ d.objects) : ∃ p, d.parentOf ptr = .ok p := by
  rw [Desk.parentOf]
  split_ifs with hnull
  · exact ⟨none, rfl⟩
  · obtain ⟨w, hw⟩ := h.exists_win (Nat.pos_of_ne_zero hnull) hptr
    exact ⟨some w, by rw [deref_eq_ok.2 hw]; rfl⟩

/-- The new window with the fields that the frames look at. -/
def Desk.HasNew (d d' : Desk) (type style : ℕ) : Prop :=
  ∃ w, d'.win (d.objects + 1) = some w ∧ w.kind = (TRUE, 1234, type, style)

/-- The new window is activated, if it is asked to be. -/
lemma activate_opens (status : ℕ) (h : d.Sound) (hptr : ptr ≤ d.objects) :
    ∃ d', (if status = 1 then setActiveWindow d ptr else .ok d) = .ok d' ∧ Opens d d' [] 0 0 := by
  split_ifs
  · exact setActiveWindow_opens h hptr
  · exact ⟨d, rfl, .refl h⟩

/-- **`doCreateWindow`** makes an object, if there is memory. -/
lemma doCreateWindow_opens {a : WindowArgs} (h : d.Sound) (hmemory : memory d.mallocs = true)
    (hparent : a.pWindow ≤ d.objects) (htype : KnownType a.type) :
    ∃ d', doCreateWindow memory a d = .ok (d.objects + 1, d') ∧ Opens d d' [] 1 1 ∧ d.HasNew d' a.type a.style := by
  have hmalloc := malloc_opens h memory
  have hzero := hmalloc.trans (newObject_opens hmalloc.sound { GwsWindow.zero with used := TRUE, magic := 1234 })
  obtain ⟨parent, hp⟩ := parentOf_ok hzero.sound (hparent.trans (by rw [hzero.objects]; omega))
  have hobject : createWindowObject d memory =
      .ok ((d.malloc memory).2.newObject { GwsWindow.zero with used := TRUE, magic := 1234 }) := if_pos hmemory
  rw [doCreateWindow, hobject, ok_bind]
  dsimp only
  rw [hp, ok_bind, setWin_newObject]
  generalize hw : newWindow ((d.malloc memory).2.newObject _).2 a parent = w
  have hkind : w.kind = (TRUE, 1234, a.type, a.style) := by rw [← hw]; rfl
  have hnew := hmalloc.trans (newObject_opens hmalloc.sound w)
  have hwin : ((d.malloc memory).2.newObject w).2.win (d.objects + 1) = some w := by
    simp [Desk.newObject, Desk.setWin, Desk.malloc]
  obtain ⟨d', hactive, hopens⟩ :=
    activate_opens a.status hnew.sound (by rw [hnew.objects] : d.objects + 1 ≤ _)
  refine ⟨d', ?_, (hnew.trans hopens).of_eq rfl rfl rfl, ?_⟩
  · by_cases hstatus : a.status = 1
    · rw [if_pos hstatus] at hactive ⊢
      change (setActiveWindow ((d.malloc memory).2.newObject w).2 (d.objects + 1) >>= fun e =>
        if KnownType a.type then .ok (d.objects + 1, e) else .error .hang) = _
      rw [hactive, ok_bind, if_pos htype]
    · rw [if_neg hstatus] at hactive ⊢
      rw [hactive, ok_bind, if_pos htype]
      rfl
  · obtain ⟨w', hw', hkind'⟩ := hopens.win hwin (by rw [hnew.objects])
    exact ⟨w', hw', hkind'.trans hkind⟩

/-- `CreateWindow` sets the type of a window that is as new. -/
lemma createTyped_opens {a : WindowArgs} (type : ℕ) (h : d.Sound) (hmemory : memory d.mallocs = true)
    (hparent : a.pWindow ≤ d.objects) (htype : KnownType a.type) :
    ∃ d', createTyped memory a type d = .ok (d.objects + 1, d') ∧ Opens d d' [] 1 1 ∧ d.HasNew d' type a.style := by
  obtain ⟨d₁, h₁, hopens, w, hw, hkind⟩ := doCreateWindow_opens h hmemory hparent htype
  simp only [GwsWindow.kind, Prod.mk.injEq] at hkind
  refine ⟨d₁.setWin (d.objects + 1) (w.setType type), ?_, ?_, w.setType type, ?_, ?_⟩
  · rw [createTyped, h₁, ok_bind]
    dsimp only
    rw [Desk.modify, deref_eq_ok.2 hw, ok_bind, ok_bind]
  · refine ⟨setWin_sound hopens.sound hw rfl, hopens.kept, hopens.fresh, hopens.placed, hopens.count, hopens.objects,
      hopens.mallocs, fun q hq => ?_⟩
    have hne : q ≠ d.objects + 1 := by omega
    rw [← hopens.kind q hq]
    simp only [Desk.setWin, Function.update_of_ne hne]
  · simp [Desk.setWin]
  · simp only [GwsWindow.kind, GwsWindow.setType, hkind]

/-! ## The list -/

lemma setWin_table (h : d.Table) (hw : d.win ptr = some w) (hid : w'.id = w.id) : (d.setWin ptr w').Table := by
  refine h.of_same rfl rfl rfl fun q => ?_
  by_cases hq : q = ptr
  · subst hq
    simp [Desk.setWin, hw, hid]
  · simp [Desk.setWin, Function.update_of_ne hq]

lemma setNext_kind (hw : d.win ptr = some w) (q : ℕ) :
    ((d.setWin ptr { w with next := n }).win q).map GwsWindow.kind = (d.win q).map GwsWindow.kind := by
  by_cases hq : q = ptr
  · subst hq
    simp [Desk.setWin, hw, GwsWindow.kind]
  · simp [Desk.setWin, Function.update_of_ne hq]

/-- What the end of an addition does, if the list ends when the window leads nowhere. -/
lemma finishAdd_opens (h : d.Table) (hw : d.win ptr = some w)
    (hends : ∃ L, Chain (Function.update d.next ptr (some 0)) (· = 0) d.firstWindow L) :
    ∃ d', finishAdd d ptr = .ok d' ∧ Opens d d' [] 0 0 := by
  have hw' : (d.setLast ptr).win ptr = some w := hw
  have hset : ((d.setLast ptr).setWin ptr { w with next := 0 }).win ptr = some { w with next := 0 } := by
    simp [Desk.setWin]
  obtain ⟨a, ha⟩ := setActiveWindow_eq hset
  have htable : ((d.setLast ptr).setWin ptr { w with next := 0 }).Table :=
    setWin_table (h.of_same rfl rfl rfl fun _ => rfl) hw' rfl
  have hlinks := (setWin_relinks (n := 0) hw').next_eq
  refine ⟨_, Eq.trans ?_ ha, opens_of_same ⟨htable.of_same rfl rfl rfl fun _ => rfl, ?_⟩ rfl rfl rfl rfl
    (setNext_kind hw')⟩
  · rw [finishAdd, Desk.modify, deref_eq_ok.2 hw', ok_bind, ok_bind]
  · obtain ⟨L, hL⟩ := hends
    refine ⟨L, ?_⟩
    rw [← show (d.setLast ptr).next = d.next from rfl, ← hlinks] at hL
    exact hL

/-- The list has no more windows than there are. -/
lemma Chain.length_le {p : ℕ} (h : Chain d.next (· = 0) p L) (hwf : d.WellFormed) : L.length ≤ d.objects := by
  have hsubset : L.toFinset ⊆ Finset.Icc 1 d.objects := by
    intro q hq
    have hmem := List.mem_toFinset.1 hq
    obtain ⟨A, B, rfl⟩ := List.append_of_mem hmem
    exact Finset.mem_Icc.2 ⟨Nat.pos_of_ne_zero h.suffix.2.1, Chain.range h hwf hmem⟩
  have hcard := Finset.card_le_card hsubset
  rwa [List.toFinset_card_of_nodup h.nodup, Nat.card_Icc, Nat.add_sub_cancel] at hcard

/-- **`wm_add_window_into_the_list`** comes to its end, and the list still has one. -/
lemma wmAdd_opens (h : d.Sound) (hptr : ptr ≤ d.objects) :
    ∃ d', wmAddWindowIntoTheList d ptr = .ok d' ∧ Opens d d' [] 0 0 := by
  rw [wmAddWindowIntoTheList]
  by_cases hnull : ptr = 0
  · exact ⟨d, if_pos hnull, .refl h⟩
  obtain ⟨w, hw⟩ := h.exists_win (Nat.pos_of_ne_zero hnull) hptr
  rw [if_neg hnull, deref_eq_ok.2 hw, ok_bind]
  have hfront : ∃ d', finishAdd (d.setFirst ptr) ptr = .ok d' ∧ Opens d d' [] 0 0 := by
    have htable : (d.setFirst ptr).Table := h.toTable.of_same rfl rfl rfl fun _ => rfl
    obtain ⟨d', hd', hopens⟩ := finishAdd_opens htable hw ⟨[ptr], rfl, hnull, 0, Function.update_self .., rfl⟩
    exact ⟨d', hd', hopens.sound, hopens.kept, hopens.fresh, hopens.placed, hopens.count, hopens.objects,
      hopens.mallocs, hopens.kind⟩
  split_ifs with _ _ _ hempty
  · exact ⟨d, rfl, .refl h⟩
  · exact ⟨d, rfl, .refl h⟩
  · exact ⟨d, rfl, .refl h⟩
  · exact hfront
  obtain ⟨L, hL⟩ := h.ends
  obtain ⟨M, l, rfl⟩ : ∃ M l, L = M ++ [l] := by
    rcases List.eq_nil_or_concat L with rfl | ⟨M, l, rfl⟩
    · exact absurd hL hempty
    · exact ⟨M, l, List.concat_eq_append⟩
  have hlength := Chain.length_le hL h.wellFormed
  rw [List.length_append, List.length_singleton] at hlength
  have hhead : d.firstWindow ∈ M ++ [l] := by
    cases M with
    | nil =>
        rw [hL.1]
        exact List.mem_singleton_self l
    | cons q M =>
        rw [hL.1]
        exact List.mem_cons_self
  obtain ⟨first, hfirst⟩ := h.exists_win (Nat.pos_of_ne_zero hempty) (Chain.range hL h.wellFormed hhead)
  rw [deref_eq_ok.2 hfirst, ok_bind]
  split_ifs
  · exact hfront
  obtain ⟨wl, hwl⟩ : ∃ wl, d.win l = some wl :=
    h.exists_win (Nat.pos_of_ne_zero hL.suffix.2.1) (Chain.range hL h.wellFormed (by simp))
  have hlinks := setWin_relinks (n := ptr) hwl
  rw [walkToEnd_eq hL hlength, ok_bind, Desk.modify, deref_eq_ok.2 hwl, ok_bind, ok_bind]
  obtain ⟨K, hK⟩ := hL.relink (c := ptr) (z := 0) hnull rfl
  rw [← hlinks.next_eq] at hK
  obtain ⟨w₁, hw₁⟩ : ∃ w₁, (d.setWin l { wl with next := ptr }).win ptr = some w₁ := by
    by_cases hl : ptr = l
    · subst hl
      exact ⟨_, Function.update_self ..⟩
    · exact ⟨w, (Function.update_of_ne hl _ _).trans hw⟩
  have htable : (d.setWin l { wl with next := ptr }).Table := setWin_table h.toTable hwl rfl
  obtain ⟨d', hd', hopens⟩ := finishAdd_opens htable hw₁ ⟨K, hK⟩
  exact ⟨d', hd', hopens.sound, hopens.kept, hopens.fresh, hopens.placed, hopens.count, hopens.objects,
    hopens.mallocs, fun q hq => (hopens.kind q hq).trans (setNext_kind hwl q)⟩

/-! ## Registering -/

/-- A slot that was free is used. -/
lemma used_setSlot (hslot : slot < 1024) (hfree : d.windowList slot = 0) (hptr : ptr ≠ 0) :
    (d.setSlot slot ptr).used = d.used + 1 := by
  have hinsert : ((Finset.range 1024).filter fun s => (d.setSlot slot ptr).windowList s ≠ 0) =
      insert slot ((Finset.range 1024).filter fun s => d.windowList s ≠ 0) := by
    ext s
    rw [Finset.mem_filter, Finset.mem_insert, Finset.mem_filter, Finset.mem_range]
    by_cases hs : s = slot
    · subst hs
      simp [Desk.setSlot, hptr, hslot]
    · simp [Desk.setSlot, hs]
  rw [Desk.used, Desk.used, hinsert, Finset.card_insert_of_notMem (by simp [hfree])]

/-- As long as not all slots are used, one is found. -/
lemma freeSlot_of_used (h : d.used < 1024) :
    ∃ slot, d.freeSlot = some slot ∧ slot < 1024 ∧ d.windowList slot = 0 := by
  cases hslot : d.freeSlot with
  | none =>
      have hall : ((Finset.range 1024).filter fun s => d.windowList s ≠ 0) = Finset.range 1024 := by
        refine Finset.filter_true_of_mem fun s hs => ?_
        have := List.find?_eq_none.mp hslot s (by simpa using hs)
        simpa using this
      rw [Desk.used, hall, Finset.card_range] at h
      exact absurd h (Nat.lt_irrefl _)
  | some slot =>
      have hmem := List.mem_of_find?_eq_some hslot
      have hfree := List.find?_some hslot
      exact ⟨slot, rfl, by simpa using hmem, by simpa using hfree⟩

/-- **`RegisterWindow`** puts a window that is in no slot into one, if there is room. -/
lemma registerWindow_opens (h : d.Sound) (hpos : ptr ≠ 0) (hptr : ptr ≤ d.objects)
    (hnot : ∀ slot, d.windowList slot ≠ ptr) (hroom : d.windowsCount + 1 < 1024) :
    ∃ (slot : ℕ) (d' : Desk), registerWindow d ptr = .ok ((slot : ℤ), d') ∧ d'.windowList slot = ptr ∧
      Opens d d' [ptr] 0 0 := by
  have hused := h.count
  obtain ⟨slot, hslot, hlt, hfree⟩ := freeSlot_of_used (d := d) (by omega)
  obtain ⟨w, hw⟩ := h.exists_win (Nat.pos_of_ne_zero hpos) hptr
  have hw' : (d.countWindow.setSlot slot ptr).win ptr = some w := hw
  have hlimit : ¬d.windowsCount + 1 ≥ WINDOW_COUNT_MAX := Nat.not_le.2 hroom
  refine ⟨slot, (d.countWindow.setSlot slot ptr).setWin ptr { w with id := slot }, ?_, Function.update_self .., ?_⟩
  · rw [registerWindow, if_neg hpos, if_neg hlimit, hslot, putWindow, Desk.modify, deref_eq_ok.2 hw', ok_bind, ok_bind]
  have hother : ∀ s ≠ slot, ((d.countWindow.setSlot slot ptr).setWin ptr { w with id := slot }).windowList s =
      d.windowList s := fun s hs => Function.update_of_ne hs _ _
  have hself : ((d.countWindow.setSlot slot ptr).setWin ptr { w with id := slot }).windowList slot = ptr :=
    Function.update_self ..
  have hold : ∀ q ≠ ptr, ((d.countWindow.setSlot slot ptr).setWin ptr { w with id := slot }).win q = d.win q :=
    fun q hq => Function.update_of_ne hq _ _
  have hnew : ((d.countWindow.setSlot slot ptr).setWin ptr { w with id := slot }).win ptr =
      some { w with id := slot } := Function.update_self ..
  refine ⟨⟨⟨?_, ?_, ?_⟩, ?_⟩, ?_, ?_, ?_, rfl, rfl, rfl, ?_⟩
  · intro q
    refine Iff.trans ?_ (h.wellFormed q)
    by_cases hq : q = ptr
    · subst hq
      rw [hnew, hw]
      rfl
    · rw [hold q hq]
  · intro s hs
    by_cases hss : s = slot
    · subst hss
      exact ⟨hlt, _, by rw [hself, hnew], rfl⟩
    · rw [hother s hss] at hs ⊢
      rw [hold _ (hnot s)]
      exact h.slot s hs
  · have hcount := used_setSlot (d := d) hlt hfree hpos
    change d.windowsCount + 1 = (d.setSlot slot ptr).used
    rw [hcount, h.count]
  · obtain ⟨L, hL⟩ := h.ends
    refine ⟨L, hL.congr fun q _ => ?_⟩
    rw [Desk.next, Desk.next]
    by_cases hq : q = ptr
    · subst hq
      rw [hnew, hw]
      rfl
    · rw [hold q hq]
  · intro s hs
    exact hother s fun hss => hs (hss ▸ hfree)
  · intro s hs hs'
    by_cases hss : s = slot
    · subst hss
      rw [hself]
      exact List.mem_singleton_self ptr
    · rw [hother s hss] at hs'
      exact absurd hs hs'
  · intro q hq
    obtain rfl := List.mem_singleton.mp hq
    exact ⟨hpos, slot, hself⟩
  · intro q _
    by_cases hq : q = ptr
    · subst hq
      rw [hnew, hw]
      rfl
    · rw [hold q hq]

end

end Gramado.Gws
