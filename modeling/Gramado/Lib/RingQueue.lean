import Gramado.Lib.Ring

/-!
# Message queues in a ring without a full test

A `Mailbox` is a ring of `N` slots with a head for the reader and a tail for the writer that know
nothing of each other: the writer overwrites what is at the tail (`put`), the reader takes what is
at the head and moves on even from an empty slot (`poll`), or jumps (`takeAt`).  Every message
carries its number in the order of posting.

* `InOrder` — what was and what will be delivered is in the order of posting.
* `Complete` — what was and what will be delivered is everything that was posted, each message once.

Reading changes neither (`history_poll`, `history_takeAt_perm`).  `inOrder_put_iff` and
`complete_put_iff` say exactly which puts keep them, and `delivered_polls` that `N` polls deliver
everything that is pending.
-/

namespace RingQueue

variable {α : Type*}

/-- A ring of numbered messages, and the messages posted and delivered so far. -/
structure Mailbox (α : Type*) where
  slot : ℕ → Option (α × ℕ)
  head : ℕ
  tail : ℕ
  posted : List α
  delivered : List (α × ℕ)

variable (N : ℕ) (b : Mailbox α)

/-- The messages that polls deliver from now on, in order. -/
def pending : List (α × ℕ) := Ring.view N b.slot b.head

/-- What was delivered, and what is pending. -/
def history : List (α × ℕ) := b.delivered ++ pending N b

/-- The writer's step.  A message that does not count leaves an empty slot behind. -/
def put (x : α) (counts : Prop) [Decidable counts] : Mailbox α :=
  { b with
    slot := Function.update b.slot b.tail (if counts then some (x, b.posted.length) else none)
    tail := Ring.next N b.tail
    posted := b.posted ++ [x] }

/-- The reader takes what is in slot `i`; head and tail go to `h` and `t`. -/
def takeAt (i h t : ℕ) : Mailbox α :=
  { b with
    slot := Function.update b.slot i none
    head := h
    tail := t
    delivered := b.delivered ++ (b.slot i).toList }

/-- The reader's step. -/
def poll : Mailbox α := takeAt b b.head (Ring.next N b.head) b.tail

/-- Head and tail go to `h` and `t`, nothing is taken. -/
def move (h t : ℕ) : Mailbox α := { b with head := h, tail := t }

/-- Head and tail are slots of the ring. -/
structure Wf : Prop where
  head_lt : b.head < N
  tail_lt : b.tail < N

/-- Deliveries, past and pending, are in the order of posting. -/
def InOrder : Prop := (history N b).Sublist b.posted.zipIdx

/-- Deliveries, past and pending, are all that was posted, each message once. -/
def Complete : Prop := (history N b).Perm b.posted.zipIdx

variable {N b} {x : α} {counts : Prop} [Decidable counts] {i h t : ℕ}

lemma Wf.put (hb : Wf N b) : Wf N (put N b x counts) :=
  ⟨hb.head_lt, Ring.next_lt (Nat.zero_lt_of_lt hb.tail_lt)⟩

lemma Wf.poll (hb : Wf N b) : Wf N (poll N b) :=
  ⟨Ring.next_lt (Nat.zero_lt_of_lt hb.head_lt), hb.tail_lt⟩

/-! ## Reading -/

/-- A poll moves the first pending message to the delivered ones. -/
lemma history_poll (hb : Wf N b) : history N (poll N b) = history N b := by
  simp only [history, pending, poll, takeAt]
  rw [Ring.view_take b.slot hb.head_lt, List.append_assoc]

/-- A jump turns the pending messages round. -/
lemma history_move_perm (hb : Wf N b) (hh : h < N) :
    (history N (move b h t)).Perm (history N b) :=
  (Ring.view_perm hh hb.head_lt).append_left b.delivered

/-- Taking a message from any slot, and going to any other, loses nothing. -/
lemma history_takeAt_perm (hb : Wf N b) (hi : i < N) (hh : h < N) :
    (history N (takeAt b i h t)).Perm (history N b) := by
  have htaken : (Ring.view N b.slot b.head).Perm
      ((b.slot i).toList ++ Ring.view N (Function.update b.slot i none) h) := by
    refine (Ring.view_perm hb.head_lt hi).trans ?_
    rw [Ring.view_take b.slot hi]
    exact (Ring.view_perm (Ring.next_lt (Nat.zero_lt_of_lt hi)) hh).append_left _
  simp only [history, pending, takeAt, List.append_assoc]
  exact htaken.symm.append_left b.delivered

lemma Complete.congr {b' : Mailbox α} (hb : Complete N b)
    (hhistory : (history N b').Perm (history N b)) (hposted : b'.posted = b.posted) :
    Complete N b' := by
  rw [Complete, hposted]
  exact hhistory.trans hb

lemma InOrder.congr {b' : Mailbox α} (hb : InOrder N b) (hhistory : history N b' = history N b)
    (hposted : b'.posted = b.posted) : InOrder N b' := by
  rw [InOrder, hposted, hhistory]
  exact hb

/-! ## Writing -/

lemma zipIdx_concat (xs : List α) (x : α) :
    (xs ++ [x]).zipIdx = xs.zipIdx ++ [(x, xs.length)] := by
  rw [List.zipIdx_append, List.zipIdx_singleton, Nat.zero_add]

/-- The pending messages after a put. -/
lemma pending_put (hb : Wf N b) :
    pending N (put N b x counts) = Ring.before N b.slot b.head b.tail ++
      (if counts then [(x, b.posted.length)] else []) ++
      Ring.behind N b.slot b.head b.tail := by
  simp only [pending, put]
  rw [Ring.view_put hb.head_lt hb.tail_lt]
  split_ifs <;> rfl

lemma pending_split (hb : Wf N b) :
    pending N b = Ring.before N b.slot b.head b.tail ++ (b.slot b.tail).toList ++
      Ring.behind N b.slot b.head b.tail :=
  Ring.view_split hb.head_lt hb.tail_lt

/-- **A put keeps the order exactly when no message waits behind the tail**: such a message would
come after the new one, though it was posted before it. -/
theorem inOrder_put_iff (hb : Wf N b) (horder : InOrder N b) :
    InOrder N (put N b x counts) ↔
      (counts → Ring.behind N b.slot b.head b.tail = []) := by
  have hsplit := pending_split hb
  rw [InOrder, history, hsplit] at horder
  rw [InOrder, history, pending_put hb]
  simp only [put, zipIdx_concat]
  by_cases hcounts : counts
  · simp only [hcounts, if_true, forall_const]
    constructor
    · intro hsub
      by_contra hne
      obtain ⟨y, hy⟩ := List.exists_mem_of_ne_nil _ hne
      -- the message behind the tail has a smaller number than the new one before it
      have hold : y ∈ b.posted.zipIdx := horder.subset (by simp [hy])
      have hlt : y.2 < b.posted.length := by
        simpa using List.snd_lt_of_mem_zipIdx hold
      have hpair : [(x, b.posted.length), y].Sublist
          (b.posted.zipIdx ++ [(x, b.posted.length)]) := by
        refine List.Sublist.trans ?_ hsub
        simp only [List.append_assoc]
        refine List.Sublist.trans ?_ (List.sublist_append_right _ _)
        refine List.Sublist.trans ?_ (List.sublist_append_right _ _)
        exact (List.singleton_sublist.2 hy).cons_cons _
      have hnumbers := hpair.map Prod.snd
      rw [← zipIdx_concat, List.zipIdx_map_snd] at hnumbers
      have hsorted := (List.pairwise_lt_range' (s := 0) (n := (b.posted ++ [x]).length)).sublist
        hnumbers
      simp only [List.map_cons, List.map_nil, List.pairwise_cons, List.mem_singleton,
        forall_eq] at hsorted
      omega
    · intro hnil
      rw [hnil, List.append_nil] at horder ⊢
      have hfront : (b.delivered ++ Ring.before N b.slot b.head b.tail).Sublist b.posted.zipIdx :=
        List.Sublist.trans (by
          rw [← List.append_assoc]
          exact List.sublist_append_left _ _) horder
      rw [← List.append_assoc]
      exact hfront.append (List.Sublist.refl _)
  · simp only [hcounts, if_false, List.append_nil, false_implies, iff_true]
    refine List.Sublist.trans ?_ (horder.trans (List.sublist_append_left _ _))
    refine List.Sublist.append (List.Sublist.refl _) ?_
    rw [List.append_assoc]
    exact List.Sublist.append (List.Sublist.refl _) (List.sublist_append_right _ _)

/-- **A put loses nothing exactly when the message counts and the slot at the tail is empty.** -/
theorem complete_put_iff (hb : Wf N b) (hcomplete : Complete N b) :
    Complete N (put N b x counts) ↔ counts ∧ b.slot b.tail = none := by
  have hsplit := pending_split hb
  rw [Complete, history, hsplit] at hcomplete
  rw [Complete, history, pending_put hb]
  simp only [put, zipIdx_concat]
  constructor
  · intro hperm
    have hlen := hcomplete.length_eq
    have hlen' := hperm.length_eq
    simp only [List.length_append, List.length_zipIdx, List.length_singleton] at hlen hlen'
    by_cases hcounts : counts
    · refine ⟨hcounts, ?_⟩
      cases hslot : b.slot b.tail with
      | none => rfl
      | some y =>
          simp only [hslot, Option.toList_some, List.length_singleton, hcounts, if_true] at hlen hlen'
          omega
    · simp only [hcounts, if_false, List.length_nil] at hlen'
      omega
  · rintro ⟨hcounts, hslot⟩
    simp only [hslot, Option.toList_none, List.append_nil] at hcomplete
    simp only [hcounts, if_true]
    have hmove : (b.delivered ++ (Ring.before N b.slot b.head b.tail ++ [(x, b.posted.length)] ++
        Ring.behind N b.slot b.head b.tail)).Perm
        (b.delivered ++ (Ring.before N b.slot b.head b.tail ++
          Ring.behind N b.slot b.head b.tail) ++ [(x, b.posted.length)]) := by
      simp only [List.append_assoc]
      exact (List.Perm.append_left _ List.perm_append_comm).append_left _
    exact hmove.trans (hcomplete.append_right _)

/-! ## Polling until the mailbox is empty -/

variable (N b) in
/-- `n` polls in a row. -/
def polls : ℕ → Mailbox α
  | 0 => b
  | n + 1 => poll N (polls n)

lemma polls_poll (n : ℕ) : polls N (poll N b) n = polls N b (n + 1) := by
  induction n with
  | zero => rfl
  | succ n ih => exact congrArg (poll N) ih

lemma polls_posted (n : ℕ) : (polls N b n).posted = b.posted := by
  induction n with
  | zero => rfl
  | succ n ih => exact ih

lemma polls_wf (hb : Wf N b) (n : ℕ) : Wf N (polls N b n) := by
  induction n with
  | zero => exact hb
  | succ n ih => exact ih.poll

lemma history_polls (hb : Wf N b) (n : ℕ) : history N (polls N b n) = history N b := by
  induction n with
  | zero => rfl
  | succ n ih => exact (history_poll (polls_wf hb n)).trans ih

/-- The first `n` polls empty the first `n` slots from the head on. -/
lemma polls_slot (hb : Wf N b) {n : ℕ} (hn : n ≤ N) :
    (n < N → (polls N b n).head = Ring.index N b.head n) ∧
      ∀ k < n, (polls N b n).slot (Ring.index N b.head k) = none := by
  induction n with
  | zero => exact ⟨fun _ => (Ring.index_zero hb.head_lt).symm, fun k hk => by omega⟩
  | succ n ih =>
      obtain ⟨hhead, hslot⟩ := ih (by omega)
      have hhead' := hhead (by omega)
      constructor
      · intro hlt
        have hnext : (polls N b (n + 1)).head = Ring.next N (polls N b n).head := rfl
        rw [hnext, hhead']
        have hh := hb.head_lt
        simp only [Ring.next, Ring.index]
        split_ifs <;> omega
      · intro k hk
        simp only [polls, poll, takeAt, hhead']
        rcases Nat.lt_succ_iff_lt_or_eq.1 hk with hlt | rfl
        · rw [Function.update_apply]
          split_ifs
          · rfl
          · exact hslot k hlt
        · exact Function.update_self ..

/-- **`N` polls deliver everything that is pending**, and further ones nothing. -/
theorem delivered_polls (hb : Wf N b) {n : ℕ} (hn : N ≤ n) :
    (polls N b n).delivered = history N b := by
  induction n, hn using Nat.le_induction with
  | base =>
      have hempty : pending N (polls N b N) = [] := by
        refine Ring.view_eq_nil (fun j hj => ?_) (polls_wf hb N).head_lt
        rw [← Ring.index_offset hb.head_lt hj]
        exact (polls_slot hb le_rfl).2 _ (Ring.offset_lt hb.head_lt hj)
      rw [← history_polls hb N, history, hempty, List.append_nil]
  | succ n _ ih =>
      -- the deliveries so far are all there is, so the next poll finds nothing
      have hhistory := history_polls hb (n + 1)
      have hnext : (polls N b (n + 1)).delivered
          = history N b ++ ((polls N b n).slot (polls N b n).head).toList := by
        rw [← ih]
        rfl
      rw [history, hnext, List.append_assoc] at hhistory
      rw [hnext, (List.append_eq_nil_iff.1 (List.append_right_eq_self.1 hhistory)).1,
        List.append_nil]

end RingQueue
