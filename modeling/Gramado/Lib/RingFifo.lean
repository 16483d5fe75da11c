import Mathlib.Data.List.GetD
import Gramado.Lib.Ring

/-!
# A ring that holds a queue

A ring whose empty slots hold `none`, some fixed entry, holds the queue `xs` if the entries from the
head on are those of `xs`, all other slots are empty, and the tail is behind the last one (`Holds`).
A writer that fills the slot at the tail keeps this exactly if there is room (`Holds.put_iff`), a
reader that empties the slot at the head and moves on exactly if the queue is not empty
(`Holds.poll_iff`).
-/

namespace Ring

variable {β : Type*}

/-- The ring holds the queue `xs`. -/
structure Holds (N : ℕ) (none : β) (slot : ℕ → β) (head tail : ℕ) (xs : List β) : Prop where
  head_lt : head < N
  room : xs.length ≤ N
  content : ∀ k < N, slot (index N head k) = xs.getD k none
  next : tail = index N head xs.length

variable {N : ℕ} {none : β} {slot : ℕ → β} {head tail : ℕ} {xs : List β}

/-- A ring of empty slots holds the empty queue. -/
lemma Holds.empty (hhead : head < N) (hslot : ∀ k, slot k = none) :
    Holds N none slot head head [] where
  head_lt := hhead
  room := Nat.zero_le N
  content := fun k _ => hslot _
  next := (index_zero hhead).symm

/-- The slot at the head holds the first entry. -/
lemma Holds.front (h : Holds N none slot head tail xs) : slot head = xs.headD none := by
  have hfirst := h.content 0 (Nat.zero_lt_of_lt h.head_lt)
  rw [index_zero h.head_lt] at hfirst
  rw [hfirst]
  cases xs <;> rfl

lemma Holds.tail_lt (h : Holds N none slot head tail xs) : tail < N := by
  have hhead := h.head_lt
  have hroom := h.room
  rw [h.next, index]
  split_ifs <;> omega

/-- **A writer keeps the queue exactly if there is room.** -/
theorem Holds.put_iff (h : Holds N none slot head tail xs) (x : β) :
    Holds N none (Function.update slot tail x) head (Ring.next N tail) (xs ++ [x]) ↔
      xs.length < N := by
  constructor
  · intro hput
    have hroom := hput.room
    rw [List.length_append, List.length_singleton] at hroom
    omega
  · intro hroom
    have hhead := h.head_lt
    refine ⟨hhead, by simpa using hroom, fun k hk => ?_, ?_⟩
    · by_cases hlast : k = xs.length
      · subst hlast
        rw [← h.next, Function.update_self, List.getD_append_right _ _ _ _ le_rfl, Nat.sub_self]
        rfl
      · have hne : index N head k ≠ tail := by
          rw [h.next]
          exact fun heq => hlast (index_inj hk hroom heq)
        rw [Function.update_of_ne hne, h.content k hk]
        rcases Nat.lt_or_gt_of_ne hlast with hlt | hgt
        · rw [List.getD_append _ _ _ _ hlt]
        · rw [List.getD_eq_default _ _ hgt.le, List.getD_eq_default]
          simpa using hgt
    · rw [h.next, List.length_append, List.length_singleton]
      simp only [Ring.next, index]
      split_ifs <;> omega

/-- **A reader keeps the queue exactly if there is an entry to take**: from an empty ring it goes on
past the tail. -/
theorem Holds.poll_iff (hN : 1 < N) (h : Holds N none slot head tail xs) :
    Holds N none (Function.update slot head none) (Ring.next N head) tail xs.tail ↔ xs ≠ [] := by
  have hhead := h.head_lt
  have hnext : Ring.next N head < N := next_lt (by omega)
  cases xs with
  | nil =>
      refine iff_of_false (fun hpoll => ?_) (fun hne => hne rfl)
      have htail := hpoll.next
      rw [h.next] at htail
      simp only [List.length_nil, List.tail_nil, index_zero hhead, index_zero hnext] at htail
      simp only [Ring.next] at htail
      split_ifs at htail <;> omega
  | cons x xs =>
      refine iff_of_true ⟨hnext, ?_, fun k hk => ?_, ?_⟩ (List.cons_ne_nil x xs)
      · have hroom := h.room
        rw [List.length_cons] at hroom
        exact Nat.le_of_succ_le hroom
      · by_cases hlast : k + 1 < N
        · have hne : index N (Ring.next N head) k ≠ head := by
            rw [index_next hhead hlast]
            nth_rewrite 2 [← index_zero hhead]
            exact fun heq => absurd (index_inj hlast (by omega) heq) (Nat.succ_ne_zero k)
          rw [Function.update_of_ne hne, index_next hhead hlast, h.content _ hlast]
          rfl
        · obtain rfl : k = N - 1 := by omega
          have hroom := h.room
          rw [List.length_cons] at hroom
          rw [index_next_last hhead, Function.update_self, List.tail_cons,
            List.getD_eq_default _ _ (by omega)]
      · have hroom := h.room
        rw [List.length_cons] at hroom
        rw [h.next, List.length_cons, List.tail_cons]
        simp only [Ring.next, index]
        split_ifs <;> omega

end Ring
