import Mathlib.Order.Interval.Set.Basic
import Mathlib.Data.List.Pairwise
import Mathlib.Tactic
import Mathlib.Order.CompletePartialOrder

/-!
# Extents cut off the front of a range

An allocator that only ever moves one pointer upwards hands out extents `[start, stop)` that lie
on top of each other.  `Stacked lo es top` says that the extents `es`, the newest first, were cut
off one after the other between `lo` and `top`.

`Stacked.bounds` and `Stacked.pairwise_disjoint` read off what such an allocator promises, and
`Stacked.sublist` keeps both when some of the extents are forgotten.
-/

/-- A half-open range of positions. -/
structure Extent (α : Type*) where
  start : α
  stop : α
  deriving DecidableEq

namespace Extent

variable {α : Type*} [LinearOrder α]

/-- The positions of the extent. -/
def positions (e : Extent α) : Set α := Set.Ico e.start e.stop

/-- The extents lie on top of each other between `lo` and `top`, the newest on top. -/
def Stacked (lo : α) : List (Extent α) → α → Prop
  | [], top => lo ≤ top
  | e :: es, top => Stacked lo es e.start ∧ e.start ≤ e.stop ∧ e.stop ≤ top

variable {lo top top' : α} {e : Extent α} {es fs : List (Extent α)}

lemma Stacked.le_top (h : Stacked lo es top) : lo ≤ top := by
  induction es generalizing top with
  | nil => exact h
  | cons e es ih => exact (ih h.1).trans (h.2.1.trans h.2.2)

lemma Stacked.mono (h : Stacked lo es top) (hle : top ≤ top') : Stacked lo es top' := by
  cases es with
  | nil => exact le_trans h hle
  | cons e es => exact ⟨h.1, h.2.1, h.2.2.trans hle⟩

/-- Cutting off one more extent at the top. -/
lemma Stacked.push (h : Stacked lo es top) (hle : top ≤ top') :
    Stacked lo (⟨top, top'⟩ :: es) top' :=
  ⟨h, hle, le_refl top'⟩

/-- Every extent lies in the range. -/
lemma Stacked.bounds (h : Stacked lo es top) (he : e ∈ es) :
    lo ≤ e.start ∧ e.start ≤ e.stop ∧ e.stop ≤ top := by
  induction es generalizing top with
  | nil => simp at he
  | cons f es ih =>
      rcases List.mem_cons.1 he with rfl | he
      · exact ⟨h.1.le_top, h.2⟩
      · obtain ⟨hlo, hord, htop⟩ := ih h.1 he
        exact ⟨hlo, hord, htop.trans (h.2.1.trans h.2.2)⟩

lemma Stacked.sublist (h : Stacked lo es top) (hsub : fs.Sublist es) : Stacked lo fs top := by
  induction hsub generalizing top with
  | slnil => exact h
  | cons e hsub ih => exact (ih h.1).mono (h.2.1.trans h.2.2)
  | cons_cons e hsub ih => exact ⟨ih h.1, h.2⟩

/-- **Extents cut off one after the other share no position.** -/
theorem Stacked.pairwise_disjoint (h : Stacked lo es top) :
    es.Pairwise fun a b => Disjoint a.positions b.positions := by
  induction es generalizing top with
  | nil => exact List.Pairwise.nil
  | cons e es ih =>
      refine List.pairwise_cons.2 ⟨fun f hf => ?_, ih h.1⟩
      have hbelow : f.stop ≤ e.start := (h.1.bounds hf).2.2
      rw [disjoint_comm, positions, positions, Set.Ico_disjoint_Ico]
      exact (min_le_left _ _).trans (hbelow.trans (le_max_right _ _))

end Extent
