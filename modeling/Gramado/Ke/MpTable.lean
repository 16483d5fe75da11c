import Mathlib.Data.UInt
import Gramado.Core.CTypes
import Gramado.Fs.Directory
import Gramado.Lib.Memory

/-!
# Processors from the MP table

`__x64_probe_smp_via_mptable` of `hal/x86_64/smp/mpfloat.c`, on a machine whose processor has an APIC.  It looks for
the signature of the floating pointer structure from the EBDA on, and walks over the entries of the configuration
table, which have 20 bytes for a processor and 8 bytes otherwise.  The addresses that are read are kept.

* `probe_iff` — for which memories the probe finds the processors and reads nothing it should not.
-/

namespace Gramado.MpTable

open Memory

/-! ## The code -/

/-- What the probe changes of `smp_info`, `g_processor_count` and its own static `mp_found`. -/
structure SmpState where
  initialized : ℤ
  mp_floating_point : ℕ
  mp_configuration_table : ℕ
  processors : Memory ℕ
  number_of_processors : ℕ
  g_processor_count : ℕ
  mp_found : Bool

/-- What the probe returns, the addresses it reads in the search, and the ranges it reads of the entries. -/
structure Probed where
  status : ℤ
  smp : SmpState
  searched : List ℕ
  entriesRead : List (ℕ × ℕ)

section Code

variable (m : ℕ → UInt8)

/-- `unsigned short`, from the memory. -/
def short (a : ℕ) : ℕ := (m a).toNat + 2 ^ 8 * (m (a + 1)).toNat

/-- `uint32_t`, from the memory. -/
def word (a : ℕ) : ℕ := short m a + 2 ^ 16 * short m (a + 2)

/-- `BDA_BASE`. -/
def BDA_BASE : ℕ := 0x040E

/-- `ebda_address`. -/
def ebdaAddress : ℕ := 2 ^ 4 * short m BDA_BASE

/-- `_MP_`. -/
def Signature (a : ℕ) : Prop := m a = 95 ∧ m (a + 1) = 77 ∧ m (a + 2) = 80 ∧ m (a + 3) = 95

instance (a : ℕ) : Decidable (Signature m a) := inferInstanceAs (Decidable (_ ∧ _))

/-- The loop of the search from `p + i` on, with `left` turns to go: whether it found the signature, the index at
its end, and the addresses it read. -/
def searchLoop (p : ℕ) : ℕ → ℕ → Bool × ℕ × List ℕ
  | 0, i => (false, i, [])
  | left + 1, i =>
      let here := [p + i, p + i + 1, p + i + 2, p + i + 3]
      if Signature m (p + i) then (true, i, here)
      else
        let (found, k, reads) := searchLoop p left (i + 1)
        (found, k, here ++ reads)

/-- `sizeof(struct mp_configuration_table_d)`. -/
def CONFIGURATION_SIZE : ℕ := 44

/-- The size of the entry at an address. -/
def entrySize (a : ℕ) : ℕ := if m a = 0 then 20 else 8

/-- The loop over the entries, with `left` of them to go: the number of processors, the list, and the ranges that
were read. -/
def entryLoop : ℕ → ℕ → ℕ → Memory ℕ → ℕ × Memory ℕ × List (ℕ × ℕ)
  | 0, _, n, processors => (n, processors, [])
  | left + 1, e, n, processors =>
      if m e = 0 then
        -- the type, then the id, the version, the flags and the signature
        let (n, processors, reads) := entryLoop left (e + 20) (n + 1) (processors.store n [e])
        (n, processors, (e, 1) :: (e + 1, 1) :: (e + 2, 1) :: (e + 3, 1) :: (e + 4, 4) :: reads)
      else
        let (n, processors, reads) := entryLoop left (e + 8) n processors
        (n, processors, (e, 1) :: reads)

/-- `__x64_probe_smp_via_mptable`. -/
def probeSmpViaMptable (s : SmpState) : Probed :=
  let s := { s with initialized := FALSE }
  let ebda := ebdaAddress m
  let (found, i, searched) := searchLoop m ebda (0xFFFFF - ebda) 0
  let s := { s with mp_found := s.mp_found || found }
  if ¬s.mp_found then ⟨FALSE, { s with initialized := FALSE }, searched, []⟩
  else
    let table := ebda + i
    let s := { s with mp_floating_point := table }
    let configuration := word m (table + 4)
    if configuration = 0 then ⟨FALSE, { s with initialized := FALSE }, searched, []⟩
    else
      let s := { s with mp_configuration_table := configuration }
      let entryCount := short m (configuration + 34)
      let s := { s with
        g_processor_count := 0
        processors := s.processors.store 0 (.replicate 32 0)
        number_of_processors := 0 }
      let entryCount := if entryCount > 32 then 32 else entryCount
      let (n, processors, reads) :=
        entryLoop m entryCount (configuration + CONFIGURATION_SIZE) 0 s.processors
      ⟨TRUE, { s with
        processors := processors
        g_processor_count := n
        number_of_processors := n
        initialized := TRUE }, searched, reads⟩

end Code

/-! ## What should hold -/

section Spec

variable (m : ℕ → UInt8)

/-- The addresses of `n` entries from `a` on. -/
def entriesFrom : ℕ → ℕ → List ℕ
  | 0, _ => []
  | n + 1, a => a :: entriesFrom n (a + entrySize m a)

/-- The address behind `n` entries from `a` on. -/
def entriesEnd : ℕ → ℕ → ℕ
  | 0, a => a
  | n + 1, a => entriesEnd n (a + entrySize m a)

/-- The entry is for a processor. -/
def IsProcessor (a : ℕ) : Prop := m a = 0

/-- It is for a processor that is enabled. -/
def IsEnabled (a : ℕ) : Prop := m a = 0 ∧ (m (a + 3)).toNat.testBit 0

instance (a : ℕ) : Decidable (IsProcessor m a) := inferInstanceAs (Decidable (_ = _))

instance (a : ℕ) : Decidable (IsEnabled m a) := inferInstanceAs (Decidable (_ ∧ _))

/-- The entries of a configuration table. -/
def tableEntries (configuration : ℕ) : List ℕ :=
  entriesFrom m (short m (configuration + 34)) (configuration + CONFIGURATION_SIZE)

/-- The address behind a configuration table. -/
def tableEnd (configuration : ℕ) : ℕ :=
  entriesEnd m (short m (configuration + 34)) (configuration + CONFIGURATION_SIZE)

/-- **A configuration table**: its signature, its length, and its bytes add up to 0. -/
structure WellFormed (configuration : ℕ) : Prop where
  signature : m configuration = 80 ∧ m (configuration + 1) = 67 ∧ m (configuration + 2) = 77 ∧
    m (configuration + 3) = 80
  length : configuration + short m (configuration + 4) = tableEnd m configuration
  checksum : ((List.range (short m (configuration + 4))).map fun k => m (configuration + k)).sum = 0

/-- The first signature that is in the area up to the end of the first megabyte. -/
structure IsFirst (a : ℕ) : Prop where
  area : ebdaAddress m ≤ a ∧ a + 4 ≤ 0x100000
  signature : Signature m a
  first : ∀ b, ebdaAddress m ≤ b → b < a → ¬Signature m b

/-- There is no processor in the list. -/
def SmpState.Empty (s : SmpState) : Prop :=
  s.number_of_processors = 0 ∧ ∀ k : ℕ, k < 32 → s.processors.cell k = 0

/-- **What the probe should do.** -/
structure ProbeRight (s : SmpState) (r : Probed) : Prop where
  searched : ∀ a ∈ r.searched, a < 0x100000
  selects : ∀ a, IsFirst m a → r.smp.mp_floating_point = a
  fails : (∀ a, ¬IsFirst m a) → r.status = FALSE
  lists : ∀ a, IsFirst m a → r.status = TRUE → WellFormed m (word m (a + 4)) →
    r.smp.number_of_processors = ((tableEntries m (word m (a + 4))).filter (IsEnabled m ·)).length ∧
    r.smp.processors.slice 0 r.smp.number_of_processors
      = (tableEntries m (word m (a + 4))).filter (IsEnabled m ·)
  stores : UsesWithin s.processors r.smp.processors 0 32
  reads : ∀ a, IsFirst m a → r.status = TRUE → ∀ range ∈ r.entriesRead,
    word m (a + 4) + CONFIGURATION_SIZE ≤ range.1 ∧ range.1 + range.2 ≤ tableEnd m (word m (a + 4))
  empty : r.status = FALSE → r.smp.Empty

/-- **The condition**: there is a signature in the area.  If it comes without a table, then no processor is in the
list yet; and if it comes with one, all processors in the first 32 entries are enabled and none of the entries
behind them is an enabled processor. -/
def ProbeCondition (s : SmpState) : Prop :=
  ∃ a, IsFirst m a ∧
    (word m (a + 4) = 0 → s.Empty) ∧
    (word m (a + 4) ≠ 0 → WellFormed m (word m (a + 4)) →
      (∀ e ∈ (tableEntries m (word m (a + 4))).take 32, IsProcessor m e → IsEnabled m e) ∧
      ∀ e ∈ (tableEntries m (word m (a + 4))).drop 32, ¬IsEnabled m e)

end Spec

variable {m : ℕ → UInt8} {s : SmpState} {a b e i k n p : ℕ}

/-! ## The search -/

/-- The search finds the signature that comes first, and reads nothing behind it. -/
lemma searchLoop_found (left : ℕ) (hgo : ∀ j < k, ¬Signature m (p + i + j)) (hk : k < left)
    (hsignature : Signature m (p + i + k)) :
    ∃ reads, searchLoop m p left i = (true, i + k, reads) ∧ ∀ r ∈ reads, r ≤ p + i + k + 3 := by
  induction k generalizing i left with
  | zero =>
      obtain ⟨left, rfl⟩ := Nat.exists_eq_succ_of_ne_zero (by omega : left ≠ 0)
      refine ⟨_, by rw [searchLoop]; exact if_pos hsignature, fun r hr => ?_⟩
      simp only [List.mem_cons, List.not_mem_nil, or_false] at hr
      omega
  | succ k ih =>
      obtain ⟨left, rfl⟩ := Nat.exists_eq_succ_of_ne_zero (by omega : left ≠ 0)
      have hnext : ∀ j, p + (i + 1) + j = p + i + (j + 1) := fun j => by omega
      obtain ⟨reads, hloop, hreads⟩ := ih (i := i + 1) left
        (fun j hj => by rw [hnext]; exact hgo (j + 1) (by omega)) (by omega) (by rw [hnext]; exact hsignature)
      refine ⟨[p + i, p + i + 1, p + i + 2, p + i + 3] ++ reads, ?_, fun r hr => ?_⟩
      · rw [searchLoop]
        dsimp only
        rw [if_neg (show ¬Signature m (p + i) from hgo 0 (by omega)), hloop]
        dsimp only
        congr 2
        omega
      · rcases List.mem_append.1 hr with hr | hr
        · simp only [List.mem_cons, List.not_mem_nil, or_false] at hr
          omega
        · have hle := hreads r hr
          omega

/-- Without a signature the search goes on. -/
lemma searchLoop_reads (left : ℕ) (hgo : ∀ j < k, ¬Signature m (p + i + j)) (hk : k < left) :
    p + i + k + 3 ∈ (searchLoop m p left i).2.2 := by
  induction k generalizing i left with
  | zero =>
      obtain ⟨left, rfl⟩ := Nat.exists_eq_succ_of_ne_zero (by omega : left ≠ 0)
      rw [searchLoop]
      dsimp only
      split
      · simp
      · simp
  | succ k ih =>
      obtain ⟨left, rfl⟩ := Nat.exists_eq_succ_of_ne_zero (by omega : left ≠ 0)
      have hnext : ∀ j, p + (i + 1) + j = p + i + (j + 1) := fun j => by omega
      have hmem := ih (i := i + 1) left (fun j hj => by rw [hnext]; exact hgo (j + 1) (by omega))
        (by omega)
      rw [hnext] at hmem
      rw [searchLoop]
      dsimp only
      rw [if_neg (show ¬Signature m (p + i) from hgo 0 (by omega))]
      exact List.mem_append_right _ hmem

lemma ebdaAddress_le (m : ℕ → UInt8) : ebdaAddress m ≤ 0xFFFF0 := by
  have hlo := (m BDA_BASE).toNat_lt
  have hhi := (m (BDA_BASE + 1)).toNat_lt
  rw [ebdaAddress, short]
  omega

/-- **The search of the probe.** -/
lemma search_first (h : IsFirst m a) : ∃ reads,
    searchLoop m (ebdaAddress m) (0xFFFFF - ebdaAddress m) 0 = (true, a - ebdaAddress m, reads) ∧
      ∀ r ∈ reads, r < 0x100000 := by
  obtain ⟨hlo, hhi⟩ := h.area
  obtain ⟨reads, hloop, hreads⟩ := searchLoop_found (m := m) (p := ebdaAddress m) (i := 0)
    (k := a - ebdaAddress m) (0xFFFFF - ebdaAddress m) (fun j hj => h.first _ (by omega) (by omega)) (by omega)
    (by rw [Nat.add_zero, Nat.add_sub_cancel' hlo]; exact h.signature)
  refine ⟨reads, by rw [hloop, Nat.zero_add], fun r hr => ?_⟩
  have hle := hreads r hr
  omega

/-- **Without a signature in the area** the search reads the first byte of the second megabyte. -/
lemma search_none (h : ∀ a, ¬IsFirst m a) :
    0x100000 ∈ (searchLoop m (ebdaAddress m) (0xFFFFF - ebdaAddress m) 0).2.2 := by
  have hebda := ebdaAddress_le m
  have hnone : ∀ j, ebdaAddress m + j + 4 ≤ 0x100000 → ¬Signature m (ebdaAddress m + j) := by
    intro j
    induction j using Nat.strong_induction_on with
    | _ j ih =>
        intro hj hsignature
        refine h _ ⟨⟨Nat.le_add_right _ _, hj⟩, hsignature, fun b hlo hlt hb => ?_⟩
        refine ih (b - ebdaAddress m) (by omega) (by omega) ?_
        rw [Nat.add_sub_cancel' hlo]
        exact hb
  have hmem := searchLoop_reads (m := m) (p := ebdaAddress m) (i := 0) (k := 0xFFFFD - ebdaAddress m)
    (0xFFFFF - ebdaAddress m) (fun j hj => by rw [Nat.add_zero]; exact hnone j (by omega)) (by omega)
  have hlast : ebdaAddress m + 0 + (0xFFFFD - ebdaAddress m) + 3 = 0x100000 := by omega
  rwa [hlast] at hmem

lemma IsFirst.unique (ha : IsFirst m a) (hb : IsFirst m b) : a = b := by
  rcases lt_trichotomy a b with hlt | heq | hlt
  · exact absurd ha.signature (hb.first a ha.area.1 hlt)
  · exact heq
  · exact absurd hb.signature (ha.first b hb.area.1 hlt)

/-! ## The entries -/

lemma entrySize_pos (m : ℕ → UInt8) (e : ℕ) : 8 ≤ entrySize m e := by
  rw [entrySize]
  split <;> omega

lemma entriesEnd_ge : e ≤ entriesEnd m n e := by
  induction n generalizing e with
  | zero => exact le_refl _
  | succ n ih => exact (Nat.le_add_right _ _).trans ih

lemma entriesEnd_mono (h : k ≤ n) : entriesEnd m k e ≤ entriesEnd m n e := by
  induction n generalizing k e with
  | zero =>
      obtain rfl : k = 0 := by omega
      exact le_refl _
  | succ n ih =>
      cases k with
      | zero => exact entriesEnd_ge
      | succ k =>
          rw [entriesEnd, entriesEnd]
          exact ih (by omega)

lemma entriesFrom_take : (entriesFrom m n e).take k = entriesFrom m (min k n) e := by
  induction n generalizing k e with
  | zero => rw [Nat.min_zero, entriesFrom, List.take_nil]
  | succ n ih =>
      cases k with
      | zero => rw [Nat.zero_min, List.take_zero, entriesFrom]
      | succ k => rw [entriesFrom, List.take_succ_cons, ih, Nat.succ_min_succ, entriesFrom]

lemma entriesFrom_ge : ∀ x ∈ entriesFrom m n e, e ≤ x := by
  induction n generalizing e with
  | zero =>
      intro x hx
      cases hx
  | succ n ih =>
      intro x hx
      rcases List.mem_cons.1 hx with rfl | hx
      · exact le_refl _
      · exact (Nat.le_add_right _ _).trans (ih x hx)

/-- No two entries are at one address. -/
lemma entriesFrom_nodup : (entriesFrom m n e).Nodup := by
  induction n generalizing e with
  | zero => exact List.nodup_nil
  | succ n ih =>
      refine List.nodup_cons.2 ⟨fun hmem => ?_, ih⟩
      have hge := entriesFrom_ge _ hmem
      have hpos := entrySize_pos m e
      omega

/-- **The loop over the entries** adds the processors to the list. -/
lemma entryLoop_spec (left e n : ℕ) (processors : Memory ℕ) :
    (entryLoop m left e n processors).1 = n + ((entriesFrom m left e).filter (IsProcessor m ·)).length ∧
    (entryLoop m left e n processors).2.1.slice 0 (entryLoop m left e n processors).1
      = processors.slice 0 n ++ (entriesFrom m left e).filter (IsProcessor m ·) ∧
    (n + left ≤ 32 → UsesWithin processors (entryLoop m left e n processors).2.1 0 32) ∧
    ∀ range ∈ (entryLoop m left e n processors).2.2, e ≤ range.1 ∧ range.1 + range.2 ≤ entriesEnd m left e := by
  induction left generalizing e n processors with
  | zero =>
      refine ⟨rfl, by rw [entryLoop, entriesFrom, List.filter_nil, List.append_nil],
        fun _ => UsesWithin.refl _, fun range hr => ?_⟩
      cases hr
  | succ left ih =>
      by_cases htype : m e = 0
      · have hsize : entrySize m e = 20 := if_pos htype
        obtain ⟨hcount, hlist, hstores, hreads⟩ := ih (e + 20) (n + 1) (processors.store n [e])
        have hloop : entryLoop m (left + 1) e n processors =
            ((entryLoop m left (e + 20) (n + 1) (processors.store n [e])).1,
              (entryLoop m left (e + 20) (n + 1) (processors.store n [e])).2.1,
              (e, 1) :: (e + 1, 1) :: (e + 2, 1) :: (e + 3, 1) :: (e + 4, 4) ::
                (entryLoop m left (e + 20) (n + 1) (processors.store n [e])).2.2) := by
          rw [entryLoop, if_pos htype]
        have hfilter : (entriesFrom m (left + 1) e).filter (IsProcessor m ·)
            = e :: (entriesFrom m left (e + 20)).filter (IsProcessor m ·) := by
          rw [entriesFrom, hsize]
          exact List.filter_cons_of_pos (decide_eq_true (show IsProcessor m e from htype))
        have hslice : (processors.store n [e]).slice 0 (n + 1) = processors.slice 0 n ++ [e] := by
          have hone : (processors.store n [e]).slice n 1 = [e] := slice_store_same rfl
          rw [slice_append, slice_store_apart (by omega), Int.zero_add, hone]
        rw [hloop, hfilter, List.length_cons]
        refine ⟨by rw [hcount]; omega, ?_, fun hle => ?_, fun range hr => ?_⟩
        · rw [hlist, hslice, List.append_assoc, List.singleton_append]
        · refine UsesWithin.trans (usesWithin_store (by omega) ?_) (hstores (by omega))
          rw [List.length_singleton]
          push_cast
          omega
        · have hend : entriesEnd m (left + 1) e = entriesEnd m left (e + 20) := by rw [entriesEnd, hsize]
          have hge : e + 20 ≤ entriesEnd m left (e + 20) := entriesEnd_ge
          simp only [List.mem_cons] at hr
          rw [hend]
          rcases hr with rfl | rfl | rfl | rfl | rfl | hr
          · exact ⟨by omega, by omega⟩
          · exact ⟨by omega, by omega⟩
          · exact ⟨by omega, by omega⟩
          · exact ⟨by omega, by omega⟩
          · exact ⟨by omega, by omega⟩
          · obtain ⟨hlo, hhi⟩ := hreads range hr
            exact ⟨by omega, hhi⟩
      · have hsize : entrySize m e = 8 := if_neg htype
        obtain ⟨hcount, hlist, hstores, hreads⟩ := ih (e + 8) n processors
        have hloop : entryLoop m (left + 1) e n processors =
            ((entryLoop m left (e + 8) n processors).1, (entryLoop m left (e + 8) n processors).2.1,
              (e, 1) :: (entryLoop m left (e + 8) n processors).2.2) := by
          rw [entryLoop, if_neg htype]
        have hfilter : (entriesFrom m (left + 1) e).filter (IsProcessor m ·)
            = (entriesFrom m left (e + 8)).filter (IsProcessor m ·) := by
          rw [entriesFrom, hsize]
          exact List.filter_cons_of_neg (by rw [decide_eq_true_eq]; exact htype)
        rw [hloop, hfilter]
        refine ⟨hcount, hlist, fun hle => hstores (by omega), fun range hr => ?_⟩
        have hend : entriesEnd m (left + 1) e = entriesEnd m left (e + 8) := by rw [entriesEnd, hsize]
        have hge : e + 8 ≤ entriesEnd m left (e + 8) := entriesEnd_ge
        rw [hend]
        rcases List.mem_cons.1 hr with rfl | hr
        · exact ⟨by omega, by omega⟩
        · obtain ⟨hlo, hhi⟩ := hreads range hr
          exact ⟨by omega, hhi⟩

/-- Two ways of going through a list. -/
lemma filter_eq_filter_append_iff {α : Type} {A B : List α} {P Q : α → Prop} [DecidablePred P] [DecidablePred Q]
    (hQP : ∀ x, Q x → P x) (hnodup : (A ++ B).Nodup) :
    A.filter (P ·) = (A ++ B).filter (Q ·) ↔ (∀ x ∈ A, P x → Q x) ∧ ∀ x ∈ B, ¬Q x := by
  constructor
  · intro h
    have hmem : ∀ x, x ∈ A ∧ P x ↔ x ∈ A ++ B ∧ Q x := by
      intro x
      have := congrArg (x ∈ ·) h
      simpa only [List.mem_filter, decide_eq_true_eq, eq_iff_iff] using this
    refine ⟨fun x hx hP => ((hmem x).1 ⟨hx, hP⟩).2, fun x hx hQ => ?_⟩
    have hA := ((hmem x).2 ⟨List.mem_append_right _ hx, hQ⟩).1
    exact (List.nodup_append.1 hnodup).2.2 x hA x hx rfl
  · rintro ⟨hA, hB⟩
    have hnone : B.filter (Q ·) = [] := List.filter_eq_nil_iff.2 fun x hx => by
      rw [decide_eq_true_eq]
      exact hB x hx
    rw [List.filter_append, hnone, List.append_nil]
    refine List.filter_congr fun x hx => ?_
    exact decide_eq_decide.2 ⟨hA x hx, hQP x⟩

/-! ## The probe -/

/-- The addresses of the search. -/
lemma probe_searched :
    (probeSmpViaMptable m s).searched = (searchLoop m (ebdaAddress m) (0xFFFFF - ebdaAddress m) 0).2.2 := by
  unfold probeSmpViaMptable
  dsimp only
  split
  · rfl
  · split <;> rfl

/-- **A signature without a table.** -/
lemma probe_null (h : IsFirst m a) (hzero : word m (a + 4) = 0) : ∃ searched,
    probeSmpViaMptable m s = ⟨FALSE, { s with
      initialized := FALSE, mp_found := true, mp_floating_point := a }, searched, []⟩ ∧
      ∀ r ∈ searched, r < 0x100000 := by
  obtain ⟨searched, hloop, hsearched⟩ := search_first h
  refine ⟨searched, ?_, hsearched⟩
  unfold probeSmpViaMptable
  dsimp only
  rw [hloop]
  dsimp only
  rw [Bool.or_true, if_neg (not_not.2 rfl), Nat.add_sub_cancel' h.area.1, if_pos hzero]

/-- **A signature with a table.** -/
lemma probe_table (h : IsFirst m a) (hne : word m (a + 4) ≠ 0) : ∃ searched,
    (probeSmpViaMptable m s =
      let entries := entryLoop m (min (short m (word m (a + 4) + 34)) 32) (word m (a + 4) + CONFIGURATION_SIZE) 0
        (s.processors.store 0 (.replicate 32 0))
      ⟨TRUE, { s with
        initialized := TRUE
        mp_found := true
        mp_floating_point := a
        mp_configuration_table := word m (a + 4)
        processors := entries.2.1
        g_processor_count := entries.1
        number_of_processors := entries.1 }, searched, entries.2.2⟩) ∧
      ∀ r ∈ searched, r < 0x100000 := by
  obtain ⟨searched, hloop, hsearched⟩ := search_first h
  refine ⟨searched, ?_, hsearched⟩
  have hclamp : (if short m (word m (a + 4) + 34) > 32 then 32 else short m (word m (a + 4) + 34))
      = min (short m (word m (a + 4) + 34)) 32 := by
    split <;> omega
  unfold probeSmpViaMptable
  dsimp only
  rw [hloop]
  dsimp only
  rw [Bool.or_true, if_neg (not_not.2 rfl), Nat.add_sub_cancel' h.area.1, if_neg hne, hclamp]

/-- The list of the code, and the one that should be there. -/
lemma lists_iff (n e : ℕ) :
    (entriesFrom m (min n 32) e).filter (IsProcessor m ·) = (entriesFrom m n e).filter (IsEnabled m ·) ↔
      (∀ x ∈ (entriesFrom m n e).take 32, IsProcessor m x → IsEnabled m x) ∧
        ∀ x ∈ (entriesFrom m n e).drop 32, ¬IsEnabled m x := by
  have hnodup : ((entriesFrom m n e).take 32 ++ (entriesFrom m n e).drop 32).Nodup := by
    rw [List.take_append_drop]
    exact entriesFrom_nodup
  have hiff := filter_eq_filter_append_iff (P := IsProcessor m) (Q := IsEnabled m) (fun x hx => hx.1) hnodup
  rw [List.take_append_drop] at hiff
  rw [← hiff, entriesFrom_take, Nat.min_comm]

/-- **The probe finds the processors** if and only if it meets the condition. -/
theorem probe_iff (m : ℕ → UInt8) (s : SmpState) :
    ProbeRight m s (probeSmpViaMptable m s) ↔ ProbeCondition m s := by
  constructor
  · intro h
    obtain ⟨a, ha⟩ : ∃ a, IsFirst m a := by
      by_contra hnone
      push Not at hnone
      have hlt := h.searched _ (by rw [probe_searched]; exact search_none hnone)
      exact absurd hlt (Nat.lt_irrefl _)
    refine ⟨a, ha, fun hzero => ?_, fun hne hformed => ?_⟩
    · obtain ⟨searched, hprobe, -⟩ := probe_null (s := s) ha hzero
      have hempty := h.empty (by rw [hprobe])
      rw [hprobe] at hempty
      exact hempty
    · obtain ⟨searched, hprobe, -⟩ := probe_table (s := s) ha hne
      obtain ⟨-, hlist⟩ := h.lists a ha (by rw [hprobe]) hformed
      rw [hprobe] at hlist
      dsimp only at hlist
      rw [(entryLoop_spec _ _ _ _).2.1, slice_zero, List.nil_append] at hlist
      exact (lists_iff _ _).1 hlist
  · rintro ⟨a, ha, hnull, htable⟩
    have hstatus : FALSE ≠ TRUE := by decide
    by_cases hzero : word m (a + 4) = 0
    · obtain ⟨searched, hprobe, hsearched⟩ := probe_null (s := s) ha hzero
      rw [hprobe]
      exact {
        searched := hsearched
        selects := fun b hb => ha.unique hb
        fails := fun _ => rfl
        lists := fun _ _ htrue => absurd htrue hstatus
        stores := UsesWithin.refl _
        reads := fun _ _ htrue => absurd htrue hstatus
        empty := fun _ => hnull hzero }
    · obtain ⟨searched, hprobe, hsearched⟩ := probe_table (s := s) ha hzero
      obtain ⟨hcount, hlist, hstores, hreads⟩ := entryLoop_spec (m := m) (min (short m (word m (a + 4) + 34)) 32)
        (word m (a + 4) + CONFIGURATION_SIZE) 0 (s.processors.store 0 (.replicate 32 0))
      rw [hprobe]
      dsimp only
      exact {
        searched := hsearched
        selects := fun b hb => ha.unique hb
        fails := fun hnone => absurd ha (hnone a)
        lists := fun b hb _ hformed => by
          obtain rfl := ha.unique hb
          have hsame := (lists_iff (m := m) (short m (word m (a + 4) + 34))
            (word m (a + 4) + CONFIGURATION_SIZE)).2 (htable hzero hformed)
          refine ⟨by rw [hcount, Nat.zero_add, hsame]; rfl, ?_⟩
          rw [hlist, slice_zero, List.nil_append, hsame]
          rfl
        stores := by
          refine UsesWithin.trans (usesWithin_store (le_refl 0) ?_) (hstores (by omega))
          rw [List.length_replicate]
          norm_num
        reads := fun b hb _ range hr => by
          obtain rfl := ha.unique hb
          obtain ⟨hlo, hhi⟩ := hreads range hr
          exact ⟨hlo, hhi.trans (entriesEnd_mono (Nat.min_le_left _ _))⟩
        empty := fun hfalse => absurd hfalse.symm hstatus }

/-- A memory of zeros has no signature. -/
theorem probe_fails : ¬∀ (m : ℕ → UInt8) (s : SmpState), s.Empty → ProbeRight m s (probeSmpViaMptable m s) := by
  intro h
  have hright := h (fun _ => 0) ⟨FALSE, 0, 0, ⟨fun _ => 0, []⟩, 0, 0, false⟩ ⟨rfl, fun _ _ => rfl⟩
  have hnone : ∀ a, ¬IsFirst (fun _ => 0) a := fun a ha => absurd (show (0 : UInt8) = 95 from ha.signature.1) (by decide)
  have hlt := hright.searched _ (by rw [probe_searched]; exact search_none hnone)
  exact absurd hlt (Nat.lt_irrefl _)

end Gramado.MpTable
