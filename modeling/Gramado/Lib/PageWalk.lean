import Gramado.Lib.Bits

/-!
# The walk through page tables

How a 64-bit processor translates an address with tables of four levels: an entry of a table of level 3, 2
or 1 leads to a table of the level below, an entry of level 0 to a page; on the levels 2 and 1 an entry may
be a large page itself.  `walkFrom` is the walk from a table of some level on, with the rights that the
levels above it have left, and `walk` the whole of it.

`walkFrom_absent`, `walkFrom_table` and `walkFrom_page` take one level; `frame_or` and `testBit_or_flags` read
an entry that was put together from an address and flags.
-/

namespace PageWalk

/-- Where an address leads to, and what is allowed there. -/
structure Translation where
  address : ℕ
  writable : Bool
  user : Bool
  deriving DecidableEq, Repr

/-- The index into the table of a level. -/
def index (level va : ℕ) : ℕ := va / 2 ^ (12 + 9 * level) % 512

/-- The address that an entry holds. -/
def frame (e : ℕ) : ℕ := e / 2 ^ 12 % 2 ^ 40 * 2 ^ 12

/-- The page itself, on the given level. -/
def page (level e va : ℕ) (writable user : Bool) : Translation where
  address := frame e / 2 ^ (12 + 9 * level) * 2 ^ (12 + 9 * level) + va % 2 ^ (12 + 9 * level)
  writable := writable
  user := user

/-- The walk from the table at `table` on. -/
def walkFrom (mem : ℕ → ℕ) (va : ℕ) : ℕ → ℕ → Bool → Bool → Option Translation
  | 0, table, writable, user =>
      let e := mem (table + 8 * index 0 va)
      if e.testBit 0 then some (page 0 e va (writable && e.testBit 1) (user && e.testBit 2)) else none
  | level + 1, table, writable, user =>
      let e := mem (table + 8 * index (level + 1) va)
      if e.testBit 0 then
        if level < 2 ∧ e.testBit 7 then
          some (page (level + 1) e va (writable && e.testBit 1) (user && e.testBit 2))
        else walkFrom mem va level (frame e) (writable && e.testBit 1) (user && e.testBit 2)
      else none

/-- The walk from the table of level 3. -/
def walk (mem : ℕ → ℕ) (root va : ℕ) : Option Translation := walkFrom mem va 3 root true true

variable {mem : ℕ → ℕ} {va level table e : ℕ} {writable user : Bool}

/-- An entry that is not present. -/
lemma walkFrom_absent (he : mem (table + 8 * index level va) = e) (habsent : e.testBit 0 = false) :
    walkFrom mem va level table writable user = none := by
  cases level with
  | zero => rw [walkFrom, he, habsent, if_neg Bool.false_ne_true]
  | succ level => rw [walkFrom, he, habsent, if_neg Bool.false_ne_true]

/-- An entry that leads to a table. -/
lemma walkFrom_table (he : mem (table + 8 * index (level + 1) va) = e) (hpresent : e.testBit 0 = true)
    (hlarge : e.testBit 7 = false) :
    walkFrom mem va (level + 1) table writable user =
      walkFrom mem va level (frame e) (writable && e.testBit 1) (user && e.testBit 2) := by
  rw [walkFrom, he, hpresent, if_pos rfl, hlarge, if_neg (fun h => Bool.false_ne_true h.2)]

/-- An entry that leads to a page. -/
lemma walkFrom_page (he : mem (table + 8 * index 0 va) = e) (hpresent : e.testBit 0 = true) :
    walkFrom mem va 0 table writable user =
      some (page 0 e va (writable && e.testBit 1) (user && e.testBit 2)) := by
  rw [walkFrom, he, hpresent, if_pos rfl]

/-! ## Entries -/

variable {a f : ℕ}

/-- The flags do not reach the address. -/
lemma frame_or (hf : f < 2 ^ 12) (ha : a < 2 ^ 52) : frame (a ||| f) = a / 2 ^ 12 * 2 ^ 12 := by
  rw [frame, Bits.or_low_div hf, Nat.mod_eq_of_lt (by omega)]

/-- The address of a table does not reach the flags. -/
lemma testBit_or_flags (ha : 2 ^ 12 ∣ a) {k : ℕ} (hk : k < 12) : (a ||| f).testBit k = f.testBit k := by
  obtain ⟨q, rfl⟩ := ha
  have hzero : (2 ^ 12 * q).testBit k = false := by
    rw [Nat.testBit_two_pow_mul, decide_eq_false (by omega), Bool.false_and]
  rw [Nat.testBit_or, hzero, Bool.false_or]

end PageWalk
