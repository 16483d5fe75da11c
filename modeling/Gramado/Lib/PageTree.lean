import Gramado.Lib.PageWalk

/-!
# Trees of page tables

The tables of an address space that keeps to its first GB: a table of level 3 and one of level 2 in which
only the first entry is in use, and a page directory whose entries show 2 MB of memory each, through page
tables.  The page tables lie below a limit, so that tables made later, above it, leave them alone.

* `Linked`, `Directory` — such tables in memory.
* `walk_tree` — the walk through them.
* `Directory.congr`, `Directory.set` — a directory is kept or copied, and one entry of it is set.
-/

namespace PageWalk

/-- 2 MB of memory, and whether user mode may use them. -/
structure Window where
  base : ℕ
  user : Bool
  deriving DecidableEq, Repr

/-- Where an address leads when the entries of the directory show these windows. -/
def translate (space : ℕ → Option Window) (va : ℕ) : Option Translation :=
  if va % 2 ^ 48 < 2 ^ 30 then
    (space (index 1 va)).map fun w => { address := w.base + va % 2 ^ 21, writable := true, user := w.user }
  else none

/-- An entry that leads to a table and takes no right away. -/
structure Leads (e next : ℕ) : Prop where
  present : e.testBit 0 = true
  writable : e.testBit 1 = true
  user : e.testBit 2 = true
  small : e.testBit 7 = false
  frame : frame e = next

/-- Only the first entry of the table is in use. -/
structure Linked (mem : ℕ → ℕ) (table next : ℕ) : Prop where
  first : Leads (mem table) next
  others : ∀ i < 512, i ≠ 0 → (mem (table + 8 * i)).testBit 0 = false

/-- An entry of a directory that shows a window: its page table lies below the limit and goes through the
window page by page. -/
structure ShowsWindow (mem : ℕ → ℕ) (limit e : ℕ) (w : Window) : Prop where
  present : e.testBit 0 = true
  writable : e.testBit 1 = true
  small : e.testBit 7 = false
  below : frame e + 4096 ≤ limit
  pages : ∀ i < 512, (mem (frame e + 8 * i)).testBit 0 = true ∧ (mem (frame e + 8 * i)).testBit 1 = true ∧
    (e.testBit 2 && (mem (frame e + 8 * i)).testBit 2) = w.user ∧
    frame (mem (frame e + 8 * i)) = w.base + 4096 * i

/-- What an entry of a directory shows. -/
def Shows (mem : ℕ → ℕ) (limit e : ℕ) : Option Window → Prop
  | none => e.testBit 0 = false
  | some w => ShowsWindow mem limit e w

/-- The entries of the directory show the windows of the space. -/
def Directory (mem : ℕ → ℕ) (limit dir : ℕ) (space : ℕ → Option Window) : Prop :=
  ∀ d < 512, Shows mem limit (mem (dir + 8 * d)) (space d)

variable {mem mem' : ℕ → ℕ} {limit limit' dir dir' root pdpt table next e : ℕ}
  {space : ℕ → Option Window} {w : Window}

lemma index_lt (level va : ℕ) : index level va < 512 := Nat.mod_lt _ (by decide)

/-! ## The walk -/

/-- The walk from the directory on. -/
lemma Directory.walkFrom (h : Directory mem limit dir space) (va : ℕ) :
    walkFrom mem va 1 dir true true = (space (index 1 va)).map fun w =>
      { address := w.base + va % 2 ^ 21, writable := true, user := w.user } := by
  have hslot := h _ (index_lt 1 va)
  cases hspace : space (index 1 va) with
  | none =>
      rw [hspace] at hslot
      exact walkFrom_absent rfl hslot
  | some w =>
      rw [hspace] at hslot
      obtain ⟨hpresent, hwritable, huser, hframe⟩ := hslot.pages _ (index_lt 0 va)
      have hentry : mem (dir + 8 * index (0 + 1) va) = mem (dir + 8 * index 1 va) := rfl
      rw [walkFrom_table hentry hslot.present hslot.small, walkFrom_page rfl hpresent, hslot.writable,
        hwritable, Bool.true_and, Bool.true_and, Bool.true_and, huser, page, hframe, Option.map_some]
      have hpage : (2 : ℕ) ^ 12 ∣ w.base + 4096 * index 0 va := by
        rw [← hframe, frame]
        exact Nat.dvd_mul_left _ _
      have haddress : (w.base + 4096 * index 0 va) / 2 ^ (12 + 9 * 0) * 2 ^ (12 + 9 * 0) +
          va % 2 ^ (12 + 9 * 0) = w.base + va % 2 ^ 21 := by
        rw [Nat.div_mul_cancel hpage]
        simp only [index]
        omega
      rw [haddress]

lemma Linked.walkFrom (h : Linked mem table next) (level va : ℕ) :
    walkFrom mem va (level + 1) table true true =
      if index (level + 1) va = 0 then walkFrom mem va level next true true else none := by
  by_cases hzero : index (level + 1) va = 0
  · have hentry : mem (table + 8 * index (level + 1) va) = mem table := by rw [hzero, Nat.mul_zero, Nat.add_zero]
    rw [walkFrom_table hentry h.first.present h.first.small, h.first.frame, h.first.writable, h.first.user,
      if_pos hzero]
    rfl
  · rw [walkFrom_absent rfl (h.others _ (index_lt _ va) hzero), if_neg hzero]

/-- **The walk through a tree of tables.** -/
theorem walk_tree (hroot : Linked mem root pdpt) (hpdpt : Linked mem pdpt dir)
    (hdir : Directory mem limit dir space) (va : ℕ) : walk mem root va = translate space va := by
  rw [walk, hroot.walkFrom 2 va, hpdpt.walkFrom 1 va, hdir.walkFrom va, translate]
  have hfirst : (index 3 va = 0 ∧ index 2 va = 0) ↔ va % 2 ^ 48 < 2 ^ 30 := by
    simp only [index]
    omega
  rw [← ite_and]
  exact if_congr hfirst rfl rfl

/-- **What user mode can reach**: the windows that let it in. -/
theorem translate_user {x : ℕ} :
    (∃ va tr, translate space va = some tr ∧ tr.user = true ∧ tr.address = x) ↔
      ∃ d < 512, ∃ w, space d = some w ∧ w.user = true ∧ w.base ≤ x ∧ x < w.base + 2 ^ 21 := by
  constructor
  · rintro ⟨va, tr, htranslate, huser, rfl⟩
    rw [translate] at htranslate
    split_ifs at htranslate with hlow
    obtain ⟨w, hw, rfl⟩ := Option.map_eq_some_iff.1 htranslate
    refine ⟨_, index_lt 1 va, w, hw, huser, Nat.le_add_right _ _, ?_⟩
    exact Nat.add_lt_add_left (Nat.mod_lt _ (by decide)) _
  · rintro ⟨d, hd, w, hw, huser, hlow, hhigh⟩
    have hindex : index 1 (d * 2 ^ 21 + (x - w.base)) = d := by
      simp only [index]
      omega
    have hoffset : w.base + (d * 2 ^ 21 + (x - w.base)) % 2 ^ 21 = x := by omega
    refine ⟨d * 2 ^ 21 + (x - w.base), { address := x, writable := true, user := w.user }, ?_, huser, rfl⟩
    rw [translate, if_pos (by omega), hindex, hw, Option.map_some, hoffset]

/-! ## What a change leaves alone -/

/-- The table is kept, or copied. -/
lemma Linked.congr {table' : ℕ} (h : Linked mem table next)
    (hmem : ∀ i < 512, mem' (table' + 8 * i) = mem (table + 8 * i)) : Linked mem' table' next := by
  refine ⟨?_, fun i hi hne => ?_⟩
  · have hfirst := hmem 0 (by decide)
    rw [Nat.mul_zero, Nat.add_zero, Nat.add_zero] at hfirst
    rw [hfirst]
    exact h.first
  · rw [hmem i hi]
    exact h.others i hi hne

/-- The first entry of the table, or of a copy of it, is set. -/
lemma Linked.set {table' next' : ℕ} (h : Linked mem table next) (hfirst : Leads (mem' table') next')
    (hmem : ∀ i < 512, i ≠ 0 → mem' (table' + 8 * i) = mem (table + 8 * i)) : Linked mem' table' next' := by
  refine ⟨hfirst, fun i hi hne => ?_⟩
  rw [hmem i hi hne]
  exact h.others i hi hne

lemma Shows.congr {w : Option Window} (h : Shows mem limit e w) (hlimit : limit ≤ limit')
    (hmem : ∀ x < limit, mem' x = mem x) : Shows mem' limit' e w := by
  cases w with
  | none => exact h
  | some w =>
      refine ⟨h.present, h.writable, h.small, h.below.trans hlimit, fun i hi => ?_⟩
      have hbelow := h.below
      rw [hmem _ (by omega)]
      exact h.pages i hi

/-- **The directory is kept, or copied**, and the page tables are left alone. -/
theorem Directory.congr (h : Directory mem limit dir space) (hlimit : limit ≤ limit')
    (hmem : ∀ x < limit, mem' x = mem x) (hdir : ∀ d < 512, mem' (dir' + 8 * d) = mem (dir + 8 * d)) :
    Directory mem' limit' dir' space := by
  intro d hd
  rw [hdir d hd]
  exact (h d hd).congr hlimit hmem

/-- **One entry of the directory, or of a copy of it, is set.** -/
theorem Directory.set (h : Directory mem limit dir space) (hlimit : limit ≤ limit')
    (hmem : ∀ x < limit, mem' x = mem x) {slot : ℕ}
    (hdir : ∀ d < 512, d ≠ slot → mem' (dir' + 8 * d) = mem (dir + 8 * d))
    (hslot : ShowsWindow mem' limit' (mem' (dir' + 8 * slot)) w) :
    Directory mem' limit' dir' (Function.update space slot (some w)) := by
  intro d hd
  by_cases heq : d = slot
  · subst heq
    rw [Function.update_self]
    exact hslot
  · rw [Function.update_of_ne heq, hdir d hd heq]
    exact (h d hd).congr hlimit hmem

/-! ## Entries made of an address and flags -/

/-- Present and writable, not a large page. -/
structure GoodFlags (flags : ℕ) : Prop where
  lt : flags < 2 ^ 12
  present : flags.testBit 0 = true
  writable : flags.testBit 1 = true
  small : flags.testBit 7 = false

/-- An entry that was put together from a table and flags that let user mode through. -/
lemma Leads.of_flags {flags : ℕ} (hflags : GoodFlags flags) (huser : flags.testBit 2 = true)
    (hnext : 2 ^ 12 ∣ next) (hlt : next < 2 ^ 52) : Leads (next ||| flags) next where
  present := by rw [testBit_or_flags hnext (by decide), hflags.present]
  writable := by rw [testBit_or_flags hnext (by decide), hflags.writable]
  user := by rw [testBit_or_flags hnext (by decide), huser]
  small := by rw [testBit_or_flags hnext (by decide), hflags.small]
  frame := by rw [frame_or hflags.lt hlt, Nat.div_mul_cancel hnext]

/-- A page table that was filled with one page after the other, from any address on. -/
lemma ShowsWindow.of_flags {pt pa flags : ℕ} (hflags : GoodFlags flags) (hpt : 2 ^ 12 ∣ pt)
    (hlimit : pt + 4096 ≤ limit) (hlt : pt < 2 ^ 52) (hpa : pa + 0x200000 ≤ 2 ^ 52)
    (he : e = pt ||| flags) (hpages : ∀ i < 512, mem (pt + 8 * i) = (pa + 4096 * i) ||| flags) :
    ShowsWindow mem limit e { base := pa / 4096 * 4096, user := flags.testBit 2 } := by
  have hframe : frame e = pt := by rw [he, frame_or hflags.lt hlt, Nat.div_mul_cancel hpt]
  refine ⟨?_, ?_, ?_, hframe ▸ hlimit, fun i hi => ?_⟩
  · rw [he, testBit_or_flags hpt (by decide), hflags.present]
  · rw [he, testBit_or_flags hpt (by decide), hflags.writable]
  · rw [he, testBit_or_flags hpt (by decide), hflags.small]
  · rw [hframe, hpages i hi, Nat.testBit_or, Nat.testBit_or, Nat.testBit_or, hflags.present, hflags.writable,
      he, testBit_or_flags hpt (by decide), frame_or hflags.lt (by omega)]
    refine ⟨Bool.or_true _, Bool.or_true _, ?_, ?_⟩
    · cases flags.testBit 2
      · rfl
      · exact Bool.or_true _
    · show (pa + 4096 * i) / 2 ^ 12 * 2 ^ 12 = pa / 4096 * 4096 + 4096 * i
      omega

end PageWalk
