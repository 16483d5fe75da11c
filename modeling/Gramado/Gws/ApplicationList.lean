import Gramado.Lib.Run
import Gramado.Lib.Chain
import Gramado.Gws.ApplicationKeep

/-!
# The list of the application windows

From `first_window` on, `next` should lead to every application window that was added and not
removed, each once, and end at `last_window`.  But a window in the middle of the list that is added
again becomes its end, and what followed is lost; and a window that is removed stays where it is.

* `ListTrace.Whole` — what should hold of the list.
* `ListOk` — when a step keeps it; `applicationList_run` is about whole runs.
-/

namespace Gramado.Gws

open StepRun Cells

/-! ## What should hold -/

/-- Where `next` leads. -/
def Desk.next (d : Desk) (ptr : ℕ) : Option ℕ := (d.win ptr).map GwsWindow.next

/-- The server, and the application windows that were added and not removed: a window that is added
goes to the end, and the others keep their order. -/
structure ListTrace where
  desk : Desk
  members : List ℕ

/-- What happens to the list. -/
inductive ListStep where
  /-- `CreateWindow`, called by the server itself. -/
  | create (a : WindowArgs)
  /-- `serviceCreateWindow`. -/
  | service (pw : ℕ) (a : WindowArgs)
  /-- `wm_add_window_into_the_list`. -/
  | add (ptr : ℕ)
  /-- `set_last_window`. -/
  | setLast (ptr : ℕ)
  /-- `wm_remove_window_from_list_and_kill`. -/
  | kill (ptr : ℕ)
  deriving DecidableEq

/-- What the server does. -/
def Desk.listAct (memory : ℕ → Bool) (d : Desk) : ListStep → Except ServerFault Desk
  | .create a => (createWindow memory (wmCreateWindowFrame memory) a d).map Prod.snd
  | .service pw a => (serviceCreateWindow memory pw a d).map Prod.snd
  | .add ptr => wmAddWindowIntoTheList d ptr
  | .setLast ptr => setLastWindow d ptr
  | .kill ptr => wmRemoveWindowFromListAndKill d ptr

/-- The members after a window was created: it is the first new object. -/
def ListTrace.grown (s : ListTrace) (d' : Desk) : List ℕ :=
  if d'.HasApplication (s.desk.objects + 1) then s.members ++ [s.desk.objects + 1] else s.members

/-- The windows that should be on the list afterwards. -/
def ListTrace.expected (s : ListTrace) (d' : Desk) : ListStep → List ℕ
  | .create _ | .service _ _ => s.grown d'
  | .add ptr | .setLast ptr =>
      if s.desk.HasApplication ptr then s.members.erase ptr ++ [ptr] else s.members
  | .kill ptr => s.members.erase ptr

/-- One step. -/
def listStep (memory : ℕ → Bool) (s : ListTrace) (e : ListStep) : Except ServerFault ListTrace := do
  let d' ← s.desk.listAct memory e
  .ok ⟨d', s.expected d' e⟩

/-- `next` leads from `first_window` to every member, each once, and ends at `last_window`. -/
structure ListTrace.Whole (s : ListTrace) : Prop where
  chain : Chain s.desk.next (· = 0) s.desk.firstWindow s.members
  last : ∀ ptr ∈ s.members.getLast?, s.desk.lastWindow = ptr

/-- The step leaves the list whole: a window that is added is new or the last one, and a window that
is removed is not on the list. -/
def ListOk (s : ListTrace) : ListStep → Prop
  | .create _ | .service _ _ => True
  | .add ptr | .setLast ptr =>
      s.desk.HasApplication ptr → ptr ∈ s.members → s.members.getLast? = some ptr
  | .kill ptr => ptr ∉ s.members

instance (s : ListTrace) : ∀ e, Decidable (ListOk s e)
  | .create _ | .service _ _ => .isTrue trivial
  | .add _ | .setLast _ => inferInstanceAs (Decidable (_ → _ → _))
  | .kill _ => inferInstanceAs (Decidable (_ ∉ _))

/-- The list is whole, and its members are live application windows. -/
structure ListTrace.Alive (s : ListTrace) : Prop where
  whole : s.Whole
  wellFormed : s.desk.WellFormed
  members : ∀ ptr ∈ s.members, s.desk.HasApplication ptr

section

variable {s s' : ListTrace} {d d' d'' : Desk} {ptr l p n : ℕ} {L M : List ℕ} {memory : ℕ → Bool}

/-! ## Walking along the list -/

lemma Desk.HasApplication.range (h : d.HasApplication ptr) (hwf : d.WellFormed) :
    0 < ptr ∧ ptr ≤ d.objects := by
  obtain ⟨w, hw, -⟩ := h
  exact (hwf ptr).1 (by rw [hw]; rfl)

/-- There are no more members than objects. -/
lemma ListTrace.Alive.length_le (h : s.Alive) : s.members.length ≤ s.desk.objects := by
  have hsubset : s.members.toFinset ⊆ Finset.Icc 1 s.desk.objects := by
    intro ptr hptr
    exact Finset.mem_Icc.2 ((h.members ptr (List.mem_toFinset.1 hptr)).range h.wellFormed)
  have hcard := Finset.card_le_card hsubset
  rwa [List.toFinset_card_of_nodup h.whole.chain.nodup, Nat.card_Icc, Nat.add_sub_cancel] at hcard

lemma next_eq_some : d.next ptr = some n ↔ ∃ w, d.win ptr = some w ∧ w.next = n := by
  rw [Desk.next, Option.map_eq_some_iff]

/-- **The walk to the end** finds the last window of the chain. -/
lemma walkToEnd_eq (h : Chain d.next (· = 0) p (M ++ [l])) (hn : M.length < n) :
    walkToEnd d n p = .ok l := by
  induction M generalizing p n with
  | nil =>
      obtain ⟨rfl, -, r, hr, hstop⟩ := h
      obtain ⟨w, hw, rfl⟩ := next_eq_some.1 hr
      obtain ⟨n, rfl⟩ := Nat.exists_eq_succ_of_ne_zero hn.ne_bot
      have hend : w.next = 0 := hstop
      rw [walkToEnd, deref_eq_ok.2 hw, ok_bind, if_pos hend]
  | cons q M ih =>
      obtain ⟨rfl, -, r, hr, hrest⟩ := h
      obtain ⟨w, hw, rfl⟩ := next_eq_some.1 hr
      obtain ⟨n, rfl⟩ := Nat.exists_eq_succ_of_ne_zero (Nat.ne_of_gt (Nat.zero_lt_of_lt hn))
      have hmore : w.next ≠ 0 := by
        cases M with
        | nil => exact hrest.2.1
        | cons => exact hrest.2.1
      rw [walkToEnd, deref_eq_ok.2 hw, ok_bind, if_neg hmore]
      exact ih hrest (Nat.lt_of_succ_lt_succ hn)

/-- **The loop of a removal** kills the window where it stands. -/
lemma removeLoop_eq (window : ℕ) (h : Chain d.next (· = 0) p L) (hn : L.length < n) :
    removeLoop d window n p = .ok d ∧ window ∉ L ∨
      ∃ w, d.win window = some w ∧ window ∈ L ∧
        removeLoop d window n p = .ok (d.setWin window { w with used := FALSE, magic := 0 }) := by
  induction L generalizing p n with
  | nil =>
      obtain rfl : p = 0 := h
      obtain ⟨n, rfl⟩ := Nat.exists_eq_succ_of_ne_zero hn.ne_bot
      exact .inl ⟨if_pos rfl, List.not_mem_nil⟩
  | cons q L ih =>
      obtain ⟨rfl, hstop, r, hr, hrest⟩ := h
      obtain ⟨w, hw, rfl⟩ := next_eq_some.1 hr
      obtain ⟨n, rfl⟩ := Nat.exists_eq_succ_of_ne_zero (Nat.ne_of_gt (Nat.zero_lt_of_lt hn))
      rw [removeLoop, if_neg hstop, deref_eq_ok.2 hw, ok_bind]
      by_cases hp : p = window
      · subst hp
        rw [if_pos rfl]
        exact .inr ⟨w, hw, List.mem_cons_self, rfl⟩
      · rw [if_neg hp]
        obtain ⟨hloop, hnone⟩ | ⟨v, hv, hmem, hloop⟩ := ih hrest (Nat.lt_of_succ_lt_succ hn)
        · exact .inl ⟨hloop, List.not_mem_cons_of_ne_of_not_mem (Ne.symm hp) hnone⟩
        · exact .inr ⟨v, hv, List.mem_cons_of_mem p hmem, hloop⟩

/-! ## Adding a window -/

/-- **A link is written**: the window leads to `n`, and the windows live on. -/
structure Relinks (d d' : Desk) (ptr n : ℕ) : Prop where
  alive : ∀ q, d'.HasApplication q ↔ d.HasApplication q
  wellFormed : d.WellFormed → d'.WellFormed
  objects_eq : d'.objects = d.objects
  next_eq : d'.next = Function.update d.next ptr (some n)

lemma setWin_relinks {w : GwsWindow} (hw : d.win ptr = some w) :
    Relinks d (d.setWin ptr { w with next := n }) ptr n := by
  refine ⟨fun q => ?_, fun hwf q => ?_, rfl, funext fun q => ?_⟩
  · by_cases hq : q = ptr
    · subst hq
      simp [Desk.HasApplication, Desk.setWin, hw, IsApplication]
    · simp [Desk.HasApplication, Desk.setWin, Function.update_of_ne hq]
  · refine Iff.trans ?_ (hwf q)
    by_cases hq : q = ptr
    · subst hq
      simp [Desk.setWin, hw]
    · simp [Desk.setWin, Function.update_of_ne hq]
  · by_cases hq : q = ptr
    · subst hq
      simp [Desk.next, Desk.setWin]
    · simp [Desk.next, Desk.setWin, Function.update_of_ne hq]

lemma setActiveWindow_eq {w : GwsWindow} (hw : d.win ptr = some w) :
    ∃ a, setActiveWindow d ptr = .ok (d.setActive a) := by
  rw [setActiveWindow, deref_eq_ok.2 hw, ok_bind]
  split_ifs
  · exact ⟨d.activeWindow, rfl⟩
  · exact ⟨d.activeWindow, rfl⟩
  · exact ⟨d.activeWindow, rfl⟩
  · exact ⟨ptr, rfl⟩

/-- **The end of an addition**: the window is the last one and leads nowhere. -/
lemma finishAdd_eq (h : d.HasApplication ptr) :
    ∃ d', finishAdd d ptr = .ok d' ∧ Relinks d d' ptr 0 ∧ d'.firstWindow = d.firstWindow ∧
      d'.lastWindow = ptr := by
  obtain ⟨w, hw, -⟩ := h
  have hw' : (d.setLast ptr).win ptr = some w := hw
  have hset : ((d.setLast ptr).setWin ptr { w with next := 0 }).win ptr =
      some { w with next := 0 } := by
    simp [Desk.setWin]
  obtain ⟨a, ha⟩ := setActiveWindow_eq hset
  have hlink := setWin_relinks (n := 0) hw'
  refine ⟨_, Eq.trans ?_ ha, ⟨hlink.alive, hlink.wellFormed, hlink.objects_eq, hlink.next_eq⟩,
    rfl, rfl⟩
  rw [finishAdd, Desk.modify, deref_eq_ok.2 hw', ok_bind, ok_bind]

/-- **A window is added** behind the last one of a list. -/
structure Added (d d' : Desk) (members : List ℕ) (ptr : ℕ) : Prop where
  alive : ∀ q, d'.HasApplication q ↔ d.HasApplication q
  wellFormed : d.WellFormed → d'.WellFormed
  firstWindow : d'.firstWindow = members.head?.getD ptr
  lastWindow : d'.lastWindow = ptr
  next_self : d'.next ptr = some 0
  next_last : ∀ l ∈ members.getLast?, l ≠ ptr → d'.next l = some ptr
  next_other : ∀ q ≠ ptr, q ∉ members.getLast? → d'.next q = d.next q

lemma chain_head {next : ℕ → Option ℕ} (h : Chain next (· = 0) p L) : p = L.head?.getD 0 := by
  cases L with
  | nil => exact h
  | cons q L => exact h.1

/-- **`wm_add_window_into_the_list`** puts an application window behind the last one. -/
lemma wmAdd_added (h : s.Alive) (hptr : s.desk.HasApplication ptr) :
    ∃ d', wmAddWindowIntoTheList s.desk ptr = .ok d' ∧ Added s.desk d' s.members ptr := by
  have hpos := (hptr.range h.wellFormed).1
  obtain ⟨w, hw, hused, hmagic, htype⟩ := id hptr
  have hfirst := chain_head h.whole.chain
  rw [wmAddWindowIntoTheList, if_neg hpos.ne', deref_eq_ok.2 hw, ok_bind,
    if_neg (not_not.2 hused), if_neg (not_not.2 hmagic), if_neg (not_not.2 htype)]
  rcases List.eq_nil_or_concat s.members with hnil | ⟨M, l, hmembers⟩
  · rw [hnil] at hfirst ⊢
    have hempty : s.desk.firstWindow = 0 := hfirst
    rw [if_pos hempty]
    obtain ⟨d', hd', hlink, hfirst', hlast⟩ := finishAdd_eq (d := s.desk.setFirst ptr) hptr
    refine ⟨d', hd', hlink.alive, hlink.wellFormed, hfirst', hlast, ?_, nofun, fun q hq _ => ?_⟩
    · rw [hlink.next_eq, Function.update_self]
    · rw [hlink.next_eq, Function.update_of_ne hq]
      rfl
  · have hchain := h.whole.chain
    have hlength := h.length_le
    have hl : s.desk.HasApplication l := h.members l (by simp [hmembers])
    have hhead : s.desk.HasApplication s.desk.firstWindow := by
      rw [hmembers] at hfirst
      refine h.members _ ?_
      rw [hmembers, hfirst]
      cases M <;> simp
    obtain ⟨first, hfirst', -, hfirstMagic, -⟩ := id hhead
    obtain ⟨wl, hwl, -⟩ := id hl
    rw [hmembers] at hchain hlength
    rw [List.concat_eq_append] at hmembers hchain hlength
    rw [List.length_append, List.length_singleton] at hlength
    rw [if_neg (hhead.range h.wellFormed).1.ne', deref_eq_ok.2 hfirst', ok_bind,
      if_neg (not_not.2 hfirstMagic), walkToEnd_eq hchain hlength, ok_bind, Desk.modify,
      deref_eq_ok.2 hwl, ok_bind, ok_bind]
    have hlink := setWin_relinks (n := ptr) hwl
    obtain ⟨d', hd', hlink', hfirst'', hlast⟩ := finishAdd_eq ((hlink.alive ptr).2 hptr)
    have hgetLast : s.members.getLast? = some l := by simp [hmembers]
    refine ⟨d', hd', fun q => (hlink'.alive q).trans (hlink.alive q),
      fun hwf => hlink'.wellFormed (hlink.wellFormed hwf), ?_, hlast, ?_, ?_, ?_⟩
    · rw [hfirst'']
      change s.desk.firstWindow = _
      rw [hfirst, hmembers]
      cases M <;> simp
    · rw [hlink'.next_eq, Function.update_self]
    · rintro q hq hne
      obtain rfl : l = q := by simpa [hgetLast] using hq
      rw [hlink'.next_eq, Function.update_of_ne hne, hlink.next_eq, Function.update_self]
    · rintro q hne hq
      have hql : q ≠ l := by
        rintro rfl
        exact hq hgetLast
      rw [hlink'.next_eq, Function.update_of_ne hne, hlink.next_eq, Function.update_of_ne hql]

/-- A window that is no application window is not added. -/
lemma wmAdd_dead (h : ¬d.HasApplication ptr) (hadd : wmAddWindowIntoTheList d ptr = .ok d') :
    d' = d := by
  rw [wmAddWindowIntoTheList] at hadd
  by_cases hnull : ptr = 0
  · rw [if_pos hnull] at hadd
    exact (Except.ok.inj hadd).symm
  rw [if_neg hnull] at hadd
  obtain ⟨w, hw, hadd⟩ := bind_eq_ok hadd
  by_cases hused : w.used ≠ TRUE
  · rw [if_pos hused] at hadd
    exact (Except.ok.inj hadd).symm
  rw [if_neg hused] at hadd
  by_cases hmagic : w.magic ≠ 1234
  · rw [if_pos hmagic] at hadd
    exact (Except.ok.inj hadd).symm
  rw [if_neg hmagic] at hadd
  by_cases htype : w.type ≠ WT_OVERLAPPED
  · rw [if_pos htype] at hadd
    exact (Except.ok.inj hadd).symm
  exact absurd ⟨w, deref_eq_ok.1 hw, not_not.1 hused, not_not.1 hmagic, not_not.1 htype⟩ h

lemma setLastWindow_dead (h : ¬d.HasApplication ptr) (hset : setLastWindow d ptr = .ok d') :
    d' = d := by
  rw [setLastWindow] at hset
  by_cases hnull : ptr = 0
  · rw [if_pos hnull] at hset
    exact (Except.ok.inj hset).symm
  rw [if_neg hnull] at hset
  obtain ⟨w, hw, hset⟩ := bind_eq_ok hset
  by_cases hmagic : w.magic ≠ 1234
  · rw [if_pos hmagic] at hset
    exact (Except.ok.inj hset).symm
  · rw [if_neg hmagic] at hset
    exact wmAdd_dead h hset

/-- `set_last_window` adds an application window, and nothing else. -/
lemma setLastWindow_eq (hptr : d.HasApplication ptr) :
    setLastWindow d ptr = wmAddWindowIntoTheList d ptr := by
  obtain ⟨w, hw, -, hmagic, -⟩ := hptr
  rw [setLastWindow]
  split_ifs with hnull
  · rw [wmAddWindowIntoTheList, if_pos hnull]
  · rw [deref_eq_ok.2 hw, ok_bind, if_neg (not_not.2 hmagic)]

lemma Added.first_eq (hadd : Added s.desk d' s.members ptr) (h : s.Whole) (hne : s.members ≠ []) :
    d'.firstWindow = s.desk.firstWindow := by
  rw [hadd.firstWindow, chain_head h.chain]
  obtain ⟨q, L, hL⟩ := List.exists_cons_of_ne_nil hne
  rw [hL]
  rfl

/-- A new window comes after all the others. -/
lemma Added.chain_new (hadd : Added s.desk d' s.members ptr) (h : s.Whole) (hpos : ptr ≠ 0)
    (hnew : ptr ∉ s.members) :
    Chain d'.next (· = 0) d'.firstWindow (s.members ++ [ptr]) := by
  have hself : Chain d'.next (· = 0) ptr [ptr] := ⟨rfl, hpos, 0, hadd.next_self, rfl⟩
  rcases List.eq_nil_or_concat s.members with hnil | ⟨M, l, hmembers⟩
  · rw [hadd.firstWindow, hnil]
    exact hself
  · rw [List.concat_eq_append] at hmembers
    have hchain := h.chain
    have hnodup := h.chain.nodup
    rw [hadd.first_eq h (by simp [hmembers])]
    rw [hmembers] at hchain hnodup hnew ⊢
    rw [List.append_assoc]
    have hlptr : l ≠ ptr := by
      rintro rfl
      exact hnew (by simp)
    have hnext : d'.next l = some ptr := hadd.next_last l (by simp [hmembers]) hlptr
    refine hchain.graft (fun x hx => hadd.next_other x ?_ ?_)
      ⟨rfl, hchain.suffix.2.1, ptr, hnext, hself⟩
    · rintro rfl
      exact hnew (List.mem_append_left _ hx)
    · have hxl : x ≠ l := by
        rintro rfl
        exact (List.nodup_append.1 hnodup).2.2 x hx x List.mem_cons_self rfl
      simpa [hmembers] using hxl.symm

/-- A window that was on the list becomes the end of it: **what followed is lost**. -/
lemma Added.chain_again {A B : List ℕ} (hadd : Added s.desk d' s.members ptr) (h : s.Whole)
    (hmembers : s.members = A ++ ptr :: B) :
    Chain d'.next (· = 0) d'.firstWindow (A ++ [ptr]) := by
  have hchain := h.chain
  have hnodup := h.chain.nodup
  rw [hadd.first_eq h (by simp [hmembers])]
  rw [hmembers] at hchain hnodup
  have hdisjoint := (List.nodup_append.1 hnodup).2.2
  refine hchain.graft (fun x hx => hadd.next_other x ?_ fun hlast => ?_)
    ⟨rfl, hchain.suffix.2.1, 0, hadd.next_self, rfl⟩
  · exact hdisjoint x hx ptr List.mem_cons_self
  · rw [hmembers, List.getLast?_append_of_ne_nil _ (List.cons_ne_nil _ _)] at hlast
    exact hdisjoint x hx x (List.mem_of_getLast? hlast) rfl

/-- **Adding a window** leaves the list whole if it is new or the last one. -/
lemma Added.whole_iff (hadd : Added s.desk d' s.members ptr) (h : s.Alive)
    (hptr : s.desk.HasApplication ptr) :
    ListTrace.Whole ⟨d', s.members.erase ptr ++ [ptr]⟩ ↔
      (ptr ∈ s.members → s.members.getLast? = some ptr) := by
  have hpos := (hptr.range h.wellFormed).1.ne'
  have hlast : ∀ q ∈ (s.members.erase ptr ++ [ptr]).getLast?, d'.lastWindow = q := by
    intro q hq
    rw [List.getLast?_concat] at hq
    rw [hadd.lastWindow, Option.some.inj hq]
  by_cases hmem : ptr ∈ s.members
  · obtain ⟨A, B, hmembers⟩ := List.append_of_mem hmem
    have hchain := hadd.chain_again h.whole hmembers
    have hnodup := h.whole.chain.nodup
    rw [hmembers] at hnodup
    have herase : s.members.erase ptr = A ++ B := by
      have hnotin : ptr ∉ A := fun hA =>
        (List.nodup_append.1 hnodup).2.2 ptr hA ptr List.mem_cons_self rfl
      rw [hmembers, List.erase_append_right _ hnotin, List.erase_cons_head]
    cases B with
    | nil =>
        rw [List.append_nil] at herase
        rw [herase] at hlast ⊢
        exact iff_of_true ⟨hchain, hlast⟩ fun _ => by simp [hmembers]
    | cons b B =>
        refine iff_of_false (fun hwhole => ?_) fun hend => ?_
        · have hsame := congrArg List.length (hchain.unique hwhole.chain)
          simp [herase] at hsame
        · have hend' := hend hmem
          rw [hmembers, List.getLast?_append_of_ne_nil _ (List.cons_ne_nil _ _),
            List.getLast?_cons_cons] at hend'
          have hnotin := (List.nodup_cons.1 (List.nodup_append.1 hnodup).2.1).1
          exact hnotin (List.mem_of_getLast? hend')
  · rw [List.erase_of_not_mem hmem] at hlast ⊢
    exact iff_of_true ⟨hadd.chain_new h.whole hpos hmem, hlast⟩ fun hin => absurd hin hmem

lemma Added.alive_of (hadd : Added s.desk d' s.members ptr) (h : s.Alive)
    (hptr : s.desk.HasApplication ptr) (hok : ptr ∈ s.members → s.members.getLast? = some ptr) :
    ListTrace.Alive ⟨d', s.members.erase ptr ++ [ptr]⟩ := by
  refine ⟨(hadd.whole_iff h hptr).2 hok, hadd.wellFormed h.wellFormed, fun q hq => ?_⟩
  rw [hadd.alive]
  rcases List.mem_append.1 hq with hq | hq
  · exact h.members q (List.mem_of_mem_erase hq)
  · rwa [List.mem_singleton.1 hq]

/-! ## Creating a window -/

/-- Whether an old object is an application window does not change. -/
lemma Keeps.hasApplication (h : Keeps d d') (hptr : ptr ≤ d.objects) :
    d'.HasApplication ptr ↔ d.HasApplication ptr := by
  have hview := h.view ptr hptr
  have hsame : ∀ {w w' : GwsWindow}, listView w' = listView w → IsApplication w →
      IsApplication w' := by
    intro w w' hww' hw
    simp only [listView, Prod.mk.injEq] at hww'
    obtain ⟨hused, hmagic, htype, -⟩ := hww'
    rwa [IsApplication, hused, hmagic, htype]
  constructor
  · rintro ⟨w', hw', happ⟩
    rw [hw', Option.map_some, eq_comm, Option.map_eq_some_iff] at hview
    obtain ⟨w, hw, hww'⟩ := hview
    exact ⟨w, hw, hsame hww' happ⟩
  · rintro ⟨w, hw, happ⟩
    rw [hw, Option.map_some, Option.map_eq_some_iff] at hview
    obtain ⟨w', hw', hww'⟩ := hview
    exact ⟨w', hw', hsame hww' happ⟩

lemma Keeps.next (h : Keeps d d') (hptr : ptr ≤ d.objects) : d'.next ptr = d.next ptr := by
  have hview := congrArg (Option.map fun v : ℤ × ℤ × ℕ × ℕ => v.2.2.2) (h.view ptr hptr)
  rwa [Option.map_map, Option.map_map] at hview

/-- What leaves the old objects alone leaves the list alone. -/
lemma Keeps.alive (hkeeps : Keeps d d') (h : ListTrace.Alive ⟨d, L⟩) : ListTrace.Alive ⟨d', L⟩ := by
  have hrange : ∀ q ∈ L, q ≤ d.objects := fun q hq => ((h.members q hq).range h.wellFormed).2
  refine ⟨⟨?_, ?_⟩, hkeeps.wellFormed h.wellFormed, fun q hq => ?_⟩
  · change Chain d'.next (· = 0) d'.firstWindow L
    rw [hkeeps.firstWindow]
    exact h.whole.chain.congr fun q hq => hkeeps.next (hrange q hq)
  · change ∀ q ∈ L.getLast?, d'.lastWindow = q
    rw [hkeeps.lastWindow]
    exact h.whole.last
  · exact (hkeeps.hasApplication (hrange q hq)).2 (h.members q hq)

lemma Created.hasApplication {type : ℕ} (h : Created d d' ptr type) :
    d'.HasApplication ptr ↔ type = WT_OVERLAPPED := by
  obtain ⟨w, hw, hview⟩ := Option.map_eq_some_iff.1 h.view
  simp only [listView, Prod.mk.injEq] at hview
  obtain ⟨hused, hmagic, htype, -⟩ := hview
  constructor
  · rintro ⟨w', hw', -, -, htype'⟩
    obtain rfl : w = w' := Option.some.inj (hw.symm.trans hw')
    rw [← htype, htype']
  · rintro rfl
    exact ⟨w, hw, hused, hmagic, htype⟩

/-- The list grew by the new window, if that is an application window. -/
def ListTrace.Grows (s : ListTrace) (d' : Desk) : Prop :=
  ListTrace.Alive ⟨d', s.grown d'⟩

/-- The new window stays what it is. -/
lemma ListTrace.Grows.keeps (h : s.Grows d') (hkeeps : Keeps d' d'')
    (hobjects : s.desk.objects + 1 ≤ d'.objects) : s.Grows d'' := by
  have hsame : s.grown d'' = s.grown d' := by
    rw [ListTrace.grown, ListTrace.grown]
    simp only [hkeeps.hasApplication hobjects]
  rw [ListTrace.Grows, hsame]
  exact hkeeps.alive h

/-- **`CreateWindow`** puts an application window at the end of the list. -/
lemma createWindow_grows {a : WindowArgs} (h : s.Alive)
    (hcreate : createWindow memory (wmCreateWindowFrame memory) a s.desk = .ok (ptr, d')) :
    s.Grows d' ∧ (ptr ≠ 0 → ptr = s.desk.objects + 1 ∧ ptr ≤ d'.objects) := by
  have hnone : s.Grows (s.desk.malloc memory).2 := by
    have hnew : ¬(s.desk.malloc memory).2.HasApplication (s.desk.objects + 1) := by
      intro happ
      have hle := (Desk.HasApplication.range happ h.wellFormed).2
      exact absurd hle (Nat.not_succ_le_self _)
    rw [ListTrace.Grows, ListTrace.grown, if_neg hnew]
    exact (malloc_keeps s.desk memory).alive h
  by_cases htype : a.type = WT_OVERLAPPED
  · obtain ⟨rfl, rfl⟩ | ⟨d₁, d₂, hcreated, hadd, hkeeps⟩ := createWindow_overlapped htype hcreate
    · exact ⟨hnone, fun hne => absurd rfl hne⟩
    · have happ : d₁.HasApplication ptr := hcreated.hasApplication.2 rfl
      have hd₁ : ListTrace.Alive ⟨d₁, s.members⟩ := hcreated.keeps.alive h
      obtain ⟨d₂', hadd', hadded⟩ := wmAdd_added hd₁ happ
      obtain rfl : d₂' = d₂ := Except.ok.inj (hadd'.symm.trans hadd)
      have hnew : ptr ∉ s.members := by
        intro hmem
        have hle := ((h.members ptr hmem).range h.wellFormed).2
        rw [hcreated.ptr_eq] at hle
        exact absurd hle (Nat.not_succ_le_self _)
      have halive := hadded.alive_of hd₁ happ fun hmem => absurd hmem hnew
      have happ' : d₂'.HasApplication ptr := (hadded.alive ptr).2 happ
      have hle := (happ'.range halive.wellFormed).2
      dsimp only at halive
      rw [List.erase_of_not_mem hnew] at halive
      have hgrows : s.Grows d₂' := by
        rw [ListTrace.Grows, ListTrace.grown, ← hcreated.ptr_eq, if_pos happ']
        exact halive
      rw [← hcreated.ptr_eq]
      refine ⟨hgrows.keeps hkeeps (by rwa [← hcreated.ptr_eq]), fun _ => ⟨rfl, ?_⟩⟩
      exact hle.trans hkeeps.objects_le
  · obtain ⟨rfl, rfl⟩ | ⟨type, d₁, htype', hcreated, hkeeps⟩ :=
      createWindow_child wmCreateWindowFrame_keeps htype hcreate
    · exact ⟨hnone, fun hne => absurd rfl hne⟩
    · have hle : ptr ≤ d₁.objects := by rw [hcreated.ptr_eq, hcreated.objects_eq]
      have hgrows : s.Grows d₁ := by
        rw [ListTrace.Grows, ListTrace.grown, ← hcreated.ptr_eq,
          if_neg (mt hcreated.hasApplication.1 htype')]
        exact hcreated.keeps.alive h
      rw [← hcreated.ptr_eq]
      refine ⟨hgrows.keeps hkeeps (by rwa [← hcreated.ptr_eq]), fun _ => ⟨rfl, ?_⟩⟩
      exact hle.trans hkeeps.objects_le

/-- The new window is the last one, and adding it again changes nothing. -/
lemma ListTrace.Grows.again (h : s.Grows d) (happ : d.HasApplication (s.desk.objects + 1))
    (hadd : wmAddWindowIntoTheList d (s.desk.objects + 1) = .ok d') :
    s.Grows d' ∧ s.desk.objects + 1 ≤ d'.objects := by
  obtain ⟨d'', hadd', hadded⟩ := wmAdd_added h happ
  obtain rfl : d'' = d' := Except.ok.inj (hadd'.symm.trans hadd)
  have hmembers : s.grown d = s.members ++ [s.desk.objects + 1] := if_pos happ
  have hlast : (s.grown d).getLast? = some (s.desk.objects + 1) := by
    rw [hmembers, List.getLast?_concat]
  have halive := hadded.alive_of h happ fun _ => hlast
  have happ' := (hadded.alive _).2 happ
  have hnodup := h.whole.chain.nodup
  dsimp only at halive hnodup
  rw [hmembers] at halive hnodup
  have hnotin : s.desk.objects + 1 ∉ s.members := fun hmem =>
    (List.nodup_append.1 hnodup).2.2 _ hmem _ List.mem_cons_self rfl
  rw [List.erase_append_right _ hnotin, List.erase_cons_head, List.append_nil] at halive
  refine ⟨?_, (happ'.range halive.wellFormed).2⟩
  rw [ListTrace.Grows, ListTrace.grown, if_pos happ']
  exact halive

/-- **The request for a window** adds it a second time, when it is the last one. -/
lemma serviceCreateWindow_grows {pw : ℕ} {a : WindowArgs} {id : ℤ} (h : s.Alive)
    (hservice : serviceCreateWindow memory pw a s.desk = .ok (id, d')) : s.Grows d' := by
  rw [serviceCreateWindow] at hservice
  split_ifs at hservice
  obtain ⟨⟨ptr, d₁⟩, h₁, hservice⟩ := bind_eq_ok hservice
  obtain ⟨hgrows, hptr⟩ := createWindow_grows h h₁
  by_cases hnull : ptr = 0
  · dsimp only at hservice
    rw [if_pos hnull] at hservice
    cases hservice
    exact hgrows
  dsimp only at hservice
  rw [if_neg hnull, serviceNewWindow] at hservice
  obtain ⟨hptr, hle⟩ := hptr hnull
  obtain ⟨⟨id, d₂⟩, h₂, hservice⟩ := bind_eq_ok hservice
  have hregister := registerWindow_keeps h₂
  rw [hptr] at hle
  have hgrows₂ := hgrows.keeps hregister hle
  have hle₂ := hle.trans hregister.objects_le
  dsimp only at hservice
  by_cases hid : id < 0
  · rw [if_pos hid] at hservice
    cases hservice
    exact hgrows₂
  rw [if_neg hid] at hservice
  obtain ⟨w, hw, hservice⟩ := bind_eq_ok hservice
  by_cases htype : w.type = WT_OVERLAPPED
  · rw [if_pos htype] at hservice
    obtain ⟨d₃, h₃, hservice⟩ := bind_eq_ok hservice
    obtain ⟨d₄, h₄, hservice⟩ := bind_eq_ok hservice
    cases hservice
    have hclient : Keeps d₃ d' := by
      rw [wmManageWindow] at h₄
      dsimp only at h₄
      split_ifs at h₄
      cases h₄
      exact malloc_keeps d₃ memory
    suffices hgrows₃ : s.Grows d₃ ∧ s.desk.objects + 1 ≤ d₃.objects from
      hgrows₃.1.keeps hclient hgrows₃.2
    rw [hptr] at h₃
    by_cases happ : d₂.HasApplication (s.desk.objects + 1)
    · exact hgrows₂.again happ h₃
    · rw [wmAdd_dead happ h₃]
      exact ⟨hgrows₂, hle₂⟩
  · rw [if_neg htype] at hservice
    cases hservice
    exact hgrows₂

/-! ## Runs -/

/-- A window that is removed is killed where it stands. -/
lemma kill_whole_iff (h : s.Alive)
    (hkill : wmRemoveWindowFromListAndKill s.desk ptr = .ok d') :
    (ListTrace.Whole ⟨d', s.members.erase ptr⟩ ↔ ptr ∉ s.members) ∧
      (ptr ∉ s.members → d' = s.desk) := by
  have hself : ∀ hnot : ptr ∉ s.members, ListTrace.Whole ⟨s.desk, s.members.erase ptr⟩ := by
    intro hnot
    rw [List.erase_of_not_mem hnot]
    exact h.whole
  have hrange : ptr ∈ s.members → ptr ≠ 0 := fun hmem =>
    ((h.members ptr hmem).range h.wellFormed).1.ne'
  rw [wmRemoveWindowFromListAndKill] at hkill
  by_cases hnull : ptr = 0
  · rw [if_pos hnull] at hkill
    cases hkill
    have hnot : ptr ∉ s.members := fun hmem => hrange hmem hnull
    exact ⟨iff_of_true (hself hnot) hnot, fun _ => rfl⟩
  rw [if_neg hnull] at hkill
  by_cases hempty : s.desk.firstWindow = 0
  · rw [if_pos hempty] at hkill
    cases hkill
    have hnot : ptr ∉ s.members := by
      have hnone : Chain s.desk.next (· = 0) s.desk.firstWindow [] := hempty
      have hnil := h.whole.chain.unique hnone
      rw [hnil]
      exact List.not_mem_nil
    exact ⟨iff_of_true (hself hnot) hnot, fun _ => rfl⟩
  rw [if_neg hempty] at hkill
  obtain ⟨hloop, hnot⟩ | ⟨w, hw, hmem, hloop⟩ :=
    removeLoop_eq ptr h.whole.chain (Nat.lt_succ_of_le h.length_le)
  · cases hloop.symm.trans hkill
    exact ⟨iff_of_true (hself hnot) hnot, fun _ => rfl⟩
  · cases hloop.symm.trans hkill
    refine ⟨iff_of_false (fun hwhole => ?_) (not_not.2 hmem), fun hnot => absurd hmem hnot⟩
    -- the links are what they were, so that the window is still there
    have hsame : (s.desk.setWin ptr { w with used := FALSE, magic := 0 }).next = s.desk.next := by
      funext q
      by_cases hq : q = ptr
      · subst hq
        simp [Desk.next, Desk.setWin, hw]
      · simp [Desk.next, Desk.setWin, Function.update_of_ne hq]
    have hchain := hwhole.chain
    dsimp only at hchain
    rw [hsame] at hchain
    have hlength := congrArg List.length (hchain.unique h.whole.chain)
    rw [List.length_erase_of_mem hmem] at hlength
    have hpos := List.length_pos_of_mem hmem
    omega

/-- A window that is added by either way in. -/
lemma add_step (h : s.Alive)
    (hlive : s.desk.HasApplication ptr → wmAddWindowIntoTheList s.desk ptr = .ok d')
    (hdead : ¬s.desk.HasApplication ptr → d' = s.desk) (e : ListStep)
    (hexpected : s.expected d' e =
      if s.desk.HasApplication ptr then s.members.erase ptr ++ [ptr] else s.members)
    (hok : ListOk s e ↔
      (s.desk.HasApplication ptr → ptr ∈ s.members → s.members.getLast? = some ptr)) :
    (ListTrace.Whole ⟨d', s.expected d' e⟩ ↔ ListOk s e) ∧
      (ListOk s e → ListTrace.Alive ⟨d', s.expected d' e⟩) := by
  rw [hok, hexpected]
  by_cases happ : s.desk.HasApplication ptr
  · obtain ⟨d'', hadd', hadded⟩ := wmAdd_added h happ
    obtain rfl : d'' = d' := Except.ok.inj (hadd'.symm.trans (hlive happ))
    rw [if_pos happ]
    refine ⟨(hadded.whole_iff h happ).trans ?_, fun hcond => hadded.alive_of h happ (hcond happ)⟩
    exact ⟨fun hcond _ => hcond, fun hcond => hcond happ⟩
  · rw [if_neg happ, hdead happ]
    exact ⟨iff_of_true h.whole fun hyes => absurd hyes happ, fun _ => h⟩

/-- **One step** leaves the list whole exactly if `ListOk` holds, and then the windows live on. -/
lemma listStep_whole (h : s.Alive) {e : ListStep} (hstep : listStep memory s e = .ok s') :
    (s'.Whole ↔ ListOk s e) ∧ (ListOk s e → s'.Alive) := by
  rw [listStep] at hstep
  obtain ⟨d', hact, hstep⟩ := bind_eq_ok hstep
  cases hstep
  cases e with
  | create a =>
      obtain ⟨⟨ptr, d₁⟩, hcreate, rfl⟩ := map_eq_ok hact
      have hgrows := (createWindow_grows h hcreate).1
      exact ⟨iff_of_true hgrows.whole trivial, fun _ => hgrows⟩
  | service pw a =>
      obtain ⟨⟨id, d₁⟩, hservice, rfl⟩ := map_eq_ok hact
      have hgrows := serviceCreateWindow_grows h hservice
      exact ⟨iff_of_true hgrows.whole trivial, fun _ => hgrows⟩
  | add ptr =>
      exact add_step h (fun _ => hact) (fun hdead => wmAdd_dead hdead hact) _ rfl Iff.rfl
  | setLast ptr =>
      refine add_step h (fun happ => ?_) (fun hdead => setLastWindow_dead hdead hact) _ rfl Iff.rfl
      rw [← setLastWindow_eq happ]
      exact hact
  | kill ptr =>
      obtain ⟨hiff, hsame⟩ := kill_whole_iff h hact
      refine ⟨hiff, fun hok => ?_⟩
      have hnot : ptr ∉ s.members := hok
      rw [ListTrace.expected, hsame hnot, List.erase_of_not_mem hnot]
      exact h

/-- **The list of the application windows.**  Along every run the list stays whole exactly if no
window is added again unless it is the last one, and none is removed. -/
theorem applicationList_run (memory : ℕ → Bool) (s : ListTrace) (es : List ListStep)
    (h : s.Alive) :
    Along (listStep memory) ListTrace.Whole s es ↔ Meets (listStep memory) ListOk s es :=
  along_iff_meets ListTrace.Alive (fun s hs => hs.whole)
    (fun s e s' hs hstep => (listStep_whole hs hstep).1)
    (fun s e s' hs hok hstep => (listStep_whole hs hstep).2 hok) es s h

end

/-! ## A server without windows -/

/-- No window was created yet. -/
def emptyDesk : Desk where
  win := fun _ => none
  objects := 0
  mallocs := 0
  windowList := fun _ => 0
  windowsCount := 0
  firstWindow := 0
  lastWindow := 0
  topWindow := 0
  activeWindow := 0
  keyboardOwner := 0
  rootWindow := 0
  taskbarWindow := 0
  wm :=
    { initialized := TRUE
      mode := 0
      vertical := FALSE
      isFullscreen := FALSE
      waLeft := 0
      waTop := 0
      waWidth := 800
      waHeight := 560 }
  deviceWidth := 800
  deviceHeight := 600

/-- An application window of 200 by 100 pixels. -/
def applicationArgs : WindowArgs where
  type := WT_OVERLAPPED
  style := 0
  status := 1
  x := 40
  y := 40
  width := 200
  height := 100
  pWindow := 0

/-- No window is on the list. -/
def emptyList : ListTrace := ⟨emptyDesk, []⟩

lemma emptyList_alive : emptyList.Alive := by
  refine ⟨⟨rfl, nofun⟩, fun ptr => ?_, nofun⟩
  exact ⟨nofun, fun hrange => absurd hrange.2 (Nat.not_le.2 hrange.1)⟩

/-- The first of two windows is added again, and the second one is lost. -/
theorem applicationList_run_fails :
    ¬∀ (memory : ℕ → Bool) (s : ListTrace) (es : List ListStep), s.Alive →
      Along (listStep memory) ListTrace.Whole s es := by
  intro h
  have hrun : (runs (listStep fun _ => true) emptyList
      [.create applicationArgs, .create applicationArgs, .add 1]).toOption.map
        (fun t => (t.desk.firstWindow, t.members)) = some (1, [2, 1]) := by
    decide
  obtain ⟨t, hend, ht⟩ := runs_observed hrun
  have hwhole := (h (fun _ => true) emptyList _ emptyList_alive).final hend
  obtain ⟨hfirst, hmembers⟩ := Prod.mk.inj ht
  have hchain := hwhole.chain
  rw [hfirst, hmembers] at hchain
  exact absurd hchain.1 (by decide)

/-- Adding the last one again is harmless. -/
theorem applicationList_run_empty :
    Along (listStep fun _ => true) ListTrace.Whole emptyList
      [.create applicationArgs, .create applicationArgs, .add 2] :=
  (applicationList_run (fun _ => true) emptyList _ emptyList_alive).2 (by decide)

end Gramado.Gws
