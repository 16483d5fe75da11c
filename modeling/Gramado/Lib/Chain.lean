import Mathlib.Data.List.Chain
import Mathlib.Combinatorics.Pigeonhole
import Mathlib.Tactic

/-!
# Chains of cells

Cells are linked by a partial function `next`; a chain ends where `next` leads to a value that
counts as a stop: the null pointer of a linked list, an end mark of an allocation table.

* `Chain next stop p L` — from `p` on, `next` visits exactly the cells of `L` and then stops.
* `Linked next L` — each cell of `L` is linked to the one after it; where the last one leads to is
  left open.

A chain is determined by where it starts (`Chain.unique`) and visits no cell twice
(`Chain.nodup`); `Chain.graft` sends its end another way.  `Linked.extend` appends a cell to a list
under construction, and `Linked.chain` closes the list.

Where `next` is total, a path that leaves a finite set leaves it soon (`exists_notMem_le_card`).
-/

namespace Cells

variable {ι : Type*}

/-- From `p` on, `next` visits the cells of the list and then stops. -/
def Chain (next : ι → Option ι) (stop : ι → Prop) : ι → List ι → Prop
  | p, [] => stop p
  | p, q :: L => p = q ∧ ¬ stop p ∧ ∃ r, next p = some r ∧ Chain next stop r L

/-- Each cell of the list is linked to the one after it. -/
def Linked (next : ι → Option ι) (L : List ι) : Prop := L.IsChain fun a b => next a = some b

variable {next next' : ι → Option ι} {stop : ι → Prop} {p q r : ι} {L L' : List ι}

/-- **A chain is determined by its start.** -/
theorem Chain.unique : ∀ {L L' : List ι} {p : ι}, Chain next stop p L → Chain next stop p L' →
    L = L'
  | [], [], _, _, _ => rfl
  | [], _ :: _, _, h, h' => absurd h h'.2.1
  | _ :: _, [], _, h, h' => absurd h' h.2.1
  | a :: L, b :: L', p, ⟨hpa, _, r, hr, hL⟩, ⟨hpb, _, r', hr', hL'⟩ => by
      subst hpa hpb
      obtain rfl : r = r' := by simpa using hr.symm.trans hr'
      rw [hL.unique hL']

/-- The chain from a cell of a chain on is its rest. -/
lemma Chain.suffix : ∀ {L : List ι} {p : ι} {M : List ι}, Chain next stop p (M ++ q :: L) →
    Chain next stop q (q :: L)
  | L, p, [], h => by
      obtain rfl : p = q := h.1
      exact h
  | L, p, _ :: M, ⟨_, _, r, _, h⟩ => h.suffix

/-- **A chain visits no cell twice.** -/
theorem Chain.nodup : ∀ {L : List ι} {p : ι}, Chain next stop p L → L.Nodup
  | [], _, _ => List.nodup_nil
  | q :: L, p, h => by
      obtain ⟨hpq, hstop, r, hr, hL⟩ := h
      subst hpq
      refine List.nodup_cons.2 ⟨fun hmem => ?_, hL.nodup⟩
      obtain ⟨M, L', rfl⟩ := List.append_of_mem hmem
      -- the chain from the second visit on is a proper part of the chain from the first one on
      have hagain : Chain next stop p (p :: L') := hL.suffix
      have hfirst : Chain next stop p (p :: (M ++ p :: L')) := ⟨rfl, hstop, r, hr, hL⟩
      have hsame := hagain.unique hfirst
      have hlength := congrArg List.length hsame
      simp only [List.length_cons, List.length_append] at hlength
      omega

/-- Cells that are not visited do not matter. -/
lemma Chain.congr : ∀ {L : List ι} {p : ι}, Chain next stop p L → (∀ q ∈ L, next' q = next q) →
    Chain next' stop p L
  | [], _, h, _ => h
  | q :: L, p, ⟨hpq, hstop, r, hr, hL⟩, hagree => by
      refine ⟨hpq, hstop, r, ?_, hL.congr fun x hx => hagree x (List.mem_cons_of_mem _ hx)⟩
      rw [hpq, hagree q (List.mem_cons_self ..), ← hpq, hr]

/-- **The end of a chain is replaced**: from the cell `q` on it goes another way. -/
lemma Chain.graft {K : List ι} : ∀ {M : List ι} {p : ι}, Chain next stop p (M ++ q :: L) →
    (∀ x ∈ M, next' x = next x) → Chain next' stop q K → Chain next' stop p (M ++ K)
  | [], p, h, _, hK => by
      obtain rfl : p = q := h.1
      exact hK
  | x :: M, p, ⟨hpx, hstop, r, hr, h⟩, hagree, hK => by
      refine ⟨hpx, hstop, r, ?_, h.graft (fun y hy => hagree y (List.mem_cons_of_mem _ hy)) hK⟩
      rw [hpx, hagree x List.mem_cons_self, ← hpx, hr]

/-- **The last cell is linked to `c`, and `c` to a stop**: the chain ends again, wherever `c` was. -/
lemma Chain.relink [DecidableEq ι] {l c z : ι} (h : Chain next stop p (L ++ [l])) (hc : ¬ stop c) (hz : stop z) :
    ∃ K, Chain (Function.update (Function.update next l (some c)) c (some z)) stop p K := by
  have hself : Chain (Function.update (Function.update next l (some c)) c (some z)) stop c [c] :=
    ⟨rfl, hc, z, Function.update_self .., hz⟩
  have hnodup := h.nodup
  by_cases hmem : c ∈ L ++ [l]
  · -- what followed `c` is cut off
    obtain ⟨A, B, hAB⟩ := List.append_of_mem hmem
    rw [hAB] at h hnodup
    have hdisjoint := (List.nodup_append.1 hnodup).2.2
    have hl : l ∈ c :: B := by
      have hlast := congrArg List.getLast? hAB
      rw [List.getLast?_concat, List.getLast?_append_of_ne_nil _ (List.cons_ne_nil _ _)] at hlast
      exact List.mem_of_getLast? hlast.symm
    refine ⟨A ++ [c], h.graft (fun x hx => ?_) hself⟩
    rw [Function.update_of_ne (hdisjoint x hx c List.mem_cons_self), Function.update_of_ne (hdisjoint x hx l hl)]
  · have hne : l ≠ c := fun hlc => hmem (hlc ▸ List.mem_append_right _ (List.mem_singleton_self l))
    refine ⟨L ++ [l, c], h.graft (fun x hx => ?_) ⟨rfl, h.suffix.2.1, c, ?_, hself⟩⟩
    · have hxl := (List.nodup_append.1 hnodup).2.2 x hx l (List.mem_singleton_self l)
      have hxc : x ≠ c := fun hxc => hmem (hxc ▸ List.mem_append_left _ hx)
      rw [Function.update_of_ne hxc, Function.update_of_ne hxl]
    · rw [Function.update_of_ne hne, Function.update_self]

/-! ## Lists under construction -/

/-- Linking the last cell to a further one leaves the links before it alone. -/
lemma Linked.extend [DecidableEq ι] (h : Linked next (L ++ [p])) (hfresh : p ∉ L) :
    Linked (Function.update next p (some q)) (L ++ [p] ++ [q]) := by
  refine List.isChain_append.2 ⟨?_, List.isChain_singleton _, ?_⟩
  · rw [Linked, List.isChain_append] at h
    obtain ⟨hL, -, hlast⟩ := h
    refine List.isChain_append.2 ⟨?_, List.isChain_singleton _, ?_⟩
    · refine hL.imp_of_mem_imp fun a b ha _ hab => ?_
      rwa [Function.update_of_ne (ne_of_mem_of_not_mem ha hfresh)]
    · intro a ha b hb
      have hmem : a ∈ L := List.mem_of_getLast? ha
      rw [Function.update_of_ne (ne_of_mem_of_not_mem hmem hfresh)]
      exact hlast a ha b hb
  · intro a ha b hb
    obtain rfl : p = a := by simpa using ha
    obtain rfl : q = b := by simpa using hb
    exact Function.update_self ..

/-- **Closing a list**: when the last cell leads to a stop, the list is a chain. -/
theorem Linked.chain : ∀ {L : List ι} {p : ι}, Linked next (p :: L) →
    (∀ q ∈ p :: L, ¬ stop q) → (∀ q ∈ (p :: L).getLast?, next q = some r) → stop r →
    Chain next stop p (p :: L)
  | [], p, _, hstop, hlast, hr =>
      ⟨rfl, hstop p (List.mem_cons_self ..), r, hlast p (by simp), hr⟩
  | q :: L, p, h, hstop, hlast, hr => by
      have hlinked : next p = some q ∧ Linked next (q :: L) := List.isChain_cons_cons.1 h
      refine ⟨rfl, hstop p (List.mem_cons_self ..), q, hlinked.1, ?_⟩
      exact hlinked.2.chain (fun x hx => hstop x (List.mem_cons_of_mem _ hx))
        (fun x hx => hlast x (by simpa using hx)) hr

/-! ## Leaving a finite set -/

/-- **A path that leaves a finite set has left it after as many steps as the set has elements**:
before that it does not come back to where it was. -/
theorem exists_notMem_le_card {f : ι → ι} {S : Finset ι} {j : ℕ} (h : f^[j] p ∉ S) :
    ∃ i ≤ S.card, f^[i] p ∉ S := by
  classical
  have hex : ∃ i, f^[i] p ∉ S := ⟨j, h⟩
  refine ⟨Nat.find hex, ?_, Nat.find_spec hex⟩
  by_contra hlate
  have hin : ∀ i < Nat.find hex, f^[i] p ∈ S := fun i hi => not_not.1 (Nat.find_min hex hi)
  have hcard : S.card < (Finset.range (S.card + 1)).card := by
    rw [Finset.card_range]
    exact Nat.lt_succ_self _
  have hmaps : ∀ i ∈ Finset.range (S.card + 1), f^[i] p ∈ S := fun i hi =>
    hin i (lt_of_le_of_lt (Nat.le_of_lt_succ (Finset.mem_range.1 hi)) (not_le.1 hlate))
  -- two steps that lead to the same cell, and the end is as far from the one as from the other
  have hback : ∀ a b, a < b → b ≤ S.card → f^[a] p = f^[b] p → False := by
    intro a b hab hb heq
    refine Nat.find_spec hex ?_
    have hsplit : Nat.find hex = Nat.find hex - b + b := by omega
    rw [hsplit, Function.iterate_add_apply, ← heq, ← Function.iterate_add_apply]
    exact hin _ (by omega)
  obtain ⟨a, ha, b, hb, hne, heq⟩ := Finset.exists_ne_map_eq_of_card_lt_of_maps_to hcard hmaps
  rw [Finset.mem_range] at ha hb
  rcases Nat.lt_or_gt_of_ne hne with hlt | hgt
  · exact hback a b hlt (by omega) heq
  · exact hback b a hgt (by omega) heq.symm

end Cells
