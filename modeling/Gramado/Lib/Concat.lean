import Mathlib.Tactic

/-!
# Equal concatenations

Two ways to write the pieces of a list give the same text.  If what one way writes never counts for less
than what the other one does, each piece counts for the same (`countP_eq_of_flatMap_eq`); and if each
piece is as long, each piece is the same (`eq_of_flatMap_eq`).
-/

namespace Concat

variable {ι α : Type*} {f g : ι → List α} {l : List ι} {p : α → Bool}

lemma countP_flatMap_le (hle : ∀ x ∈ l, (f x).countP p ≤ (g x).countP p) :
    (l.flatMap f).countP p ≤ (l.flatMap g).countP p := by
  induction l with
  | nil => exact le_rfl
  | cons x l ih =>
      rw [List.flatMap_cons, List.flatMap_cons, List.countP_append, List.countP_append]
      exact add_le_add (hle x List.mem_cons_self) (ih fun y hy => hle y (List.mem_cons_of_mem x hy))

lemma countP_eq_of_flatMap_eq (hle : ∀ x ∈ l, (f x).countP p ≤ (g x).countP p)
    (h : l.flatMap f = l.flatMap g) : ∀ x ∈ l, (f x).countP p = (g x).countP p := by
  suffices hcount : (l.flatMap g).countP p ≤ (l.flatMap f).countP p →
      ∀ x ∈ l, (f x).countP p = (g x).countP p from hcount (by rw [h])
  clear h
  induction l with
  | nil => exact fun _ x hx => absurd hx List.not_mem_nil
  | cons x l ih =>
      intro hcount
      have hrest : ∀ y ∈ l, (f y).countP p ≤ (g y).countP p := fun y hy =>
        hle y (List.mem_cons_of_mem x hy)
      have hfirst := hle x List.mem_cons_self
      have hmore := countP_flatMap_le hrest
      rw [List.flatMap_cons, List.flatMap_cons, List.countP_append, List.countP_append] at hcount
      intro y hy
      rcases List.mem_cons.1 hy with rfl | hy
      · omega
      · exact ih hrest (by omega) y hy

lemma length_eq_of_flatMap_eq (hle : ∀ x ∈ l, (f x).length ≤ (g x).length)
    (h : l.flatMap f = l.flatMap g) : ∀ x ∈ l, (f x).length = (g x).length := by
  have hcount := countP_eq_of_flatMap_eq (p := fun _ => true) (fun x hx => ?_) h
  · simpa only [List.countP_true] using hcount
  · simpa only [List.countP_true] using hle x hx

lemma eq_of_flatMap_eq (hlength : ∀ x ∈ l, (f x).length = (g x).length)
    (h : l.flatMap f = l.flatMap g) : ∀ x ∈ l, f x = g x := by
  induction l with
  | nil => exact fun x hx => absurd hx List.not_mem_nil
  | cons x l ih =>
      rw [List.flatMap_cons, List.flatMap_cons] at h
      obtain ⟨hfirst, hrest⟩ := List.append_inj h (hlength x List.mem_cons_self)
      intro y hy
      rcases List.mem_cons.1 hy with rfl | hy
      · exact hfirst
      · exact ih (fun z hz => hlength z (List.mem_cons_of_mem x hz)) hrest y hy

end Concat
