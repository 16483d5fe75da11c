import Gramado.Core.CTypes

/-!
# Directories

A FAT16 directory is a table of entries of `FAT16_ENTRY_SIZE` bytes each.  Here it is a function from
offsets to bytes, and the entries are numbered from 0.

The loaders look for a name in it (`findEntry`), the saver for a place (`findEmptyDirectoryEntry`).
`findEntry_eq_some_iff` and `findEmptyDirectoryEntry_eq_some_iff` say what they find.
-/

namespace Gramado

/-- `FAT16_ENTRY_SIZE`. -/
def FAT16_ENTRY_SIZE : ℕ := 32

/-- `FAT16_ROOT_ENTRIES`. -/
def FAT16_ROOT_ENTRIES : ℕ := 512

/-! ## Strings -/

/-- The bytes behind a `char *`, up to a zero and beyond it. -/
structure CString where
  bytes : ℕ → UInt8
  terminated : ∃ n, bytes n = 0

/-- `strlen`. -/
def CString.strlen (s : CString) : ℕ := Nat.find s.terminated

lemma CString.strlen_spec (s : CString) : s.bytes s.strlen = 0 := Nat.find_spec s.terminated

lemma CString.ne_zero {s : CString} {i : ℕ} (h : i < s.strlen) : s.bytes i ≠ 0 :=
  Nat.find_min s.terminated h

/-- `kstrncmp`: 0 when the first `n` bytes agree and both strings end behind them. -/
def kstrncmp (s1 s2 : ℕ → UInt8) : ℕ → ℤ
  | 0 => if s1 0 ≠ 0 ∨ s2 0 ≠ 0 then 2 else 0
  | n + 1 => if s1 0 ≠ s2 0 then 1 else kstrncmp (fun i => s1 (i + 1)) (fun i => s2 (i + 1)) n

lemma kstrncmp_eq_zero_iff : ∀ {n : ℕ} {s1 s2 : ℕ → UInt8},
    kstrncmp s1 s2 n = 0 ↔ (∀ i < n, s1 i = s2 i) ∧ s1 n = 0 ∧ s2 n = 0
  | 0, s1, s2 => by
      simp only [kstrncmp]
      split_ifs with h
      · simp only [not_lt_zero, false_imp_iff, implies_true, true_and]
        exact iff_of_false (by decide) (by tauto)
      · simp only [not_lt_zero, false_imp_iff, implies_true, true_and, true_iff]
        tauto
  | n + 1, s1, s2 => by
      simp only [kstrncmp]
      split_ifs with h
      · exact iff_of_false (by decide) fun hall => h (hall.1 0 n.succ_pos)
      · rw [kstrncmp_eq_zero_iff, Nat.forall_lt_succ_left']
        have hhead : s1 0 = s2 0 := not_not.1 h
        exact ⟨fun ⟨htail, hend⟩ => ⟨⟨hhead, htail⟩, hend⟩,
          fun ⟨⟨_, htail⟩, hend⟩ => ⟨htail, hend⟩⟩

/-! ## Entries -/

/-- A 16-bit value, low byte first. -/
def le16 (lo hi : UInt8) : UInt16 := UInt16.ofNat (lo.toNat + 256 * hi.toNat)

/-- A 32-bit value, low byte first. -/
def le32 (b0 b1 b2 b3 : UInt8) : ℕ :=
  b0.toNat + 256 * b1.toNat + 256 ^ 2 * b2.toNat + 256 ^ 3 * b3.toNat

/-- Byte `k` of entry `i`. -/
def entryByte (dir : ℕ → UInt8) (i k : ℕ) : UInt8 := dir (FAT16_ENTRY_SIZE * i + k)

/-- The first 16 bits of an entry: the loaders skip entries where they are zero. -/
def entryHead (dir : ℕ → UInt8) (i : ℕ) : UInt16 := le16 (entryByte dir i 0) (entryByte dir i 1)

/-- The attribute byte of an entry. -/
def entryFlag (dir : ℕ → UInt8) (i : ℕ) : UInt8 := entryByte dir i 11

/-- The first cluster of an entry. -/
def entryCluster (dir : ℕ → UInt8) (i : ℕ) : UInt16 :=
  le16 (entryByte dir i 26) (entryByte dir i 27)

/-- The file size of an entry, in bytes. -/
def entryFileSize (dir : ℕ → UInt8) (i : ℕ) : ℕ :=
  le32 (entryByte dir i 28) (entryByte dir i 29) (entryByte dir i 30) (entryByte dir i 31)

lemma le16_toNat (lo hi : UInt8) : (le16 lo hi).toNat = lo.toNat + 256 * hi.toNat := by
  have hlo := lo.toNat_lt
  have hhi := hi.toNat_lt
  exact UInt16.toNat_ofNat_of_lt' (by simp only [UInt16.size]; omega)

/-- The two bytes of a word give the word back. -/
lemma le16_bytes (w : UInt16) : le16 (UInt8.ofNat w.toNat) (UInt8.ofNat (w.toNat / 256)) = w := by
  apply UInt16.toNat_inj.1
  have hw := w.toNat_lt
  simp only [le16_toNat, UInt8.toNat_ofNat']
  omega

/-- The four bytes of a number give the number back, reduced to 32 bits. -/
lemma le32_bytes (n : ℕ) :
    le32 (UInt8.ofNat n) (UInt8.ofNat (n / 256)) (UInt8.ofNat (n / 256 / 256))
      (UInt8.ofNat (n / 256 / 256 / 256)) = n % 2 ^ 32 := by
  simp only [le32, UInt8.toNat_ofNat']
  omega

lemma entryHead_ne_zero {dir : ℕ → UInt8} {i : ℕ} (h : entryByte dir i 0 ≠ 0) :
    entryHead dir i ≠ 0 := by
  intro hhead
  apply h
  have hsum := congrArg UInt16.toNat hhead
  rw [entryHead, le16_toNat] at hsum
  have hzero : (entryByte dir i 0).toNat = 0 := by
    have hright : (0 : UInt16).toNat = 0 := rfl
    omega
  exact UInt8.toNat_inj.1 hzero

/-! ## Searching -/

/-- The test that `fsGetFileSize` and `fsLoadFile` make on an entry: its head is not zero, and
`length` bytes of it, copied out and closed with a zero, compare equal to the name. -/
def entryMatches (dir : ℕ → UInt8) (name : ℕ → UInt8) (length i : ℕ) : Bool :=
  entryHead dir i ≠ 0 ∧
    kstrncmp name (fun k => if k < length then entryByte dir i k else 0) length = 0

/-- The search loop of `fsGetFileSize` and `fsLoadFile`: the first of `max` entries that passes. -/
def findEntry (dir : ℕ → UInt8) (name : ℕ → UInt8) (length max : ℕ) : Option ℕ :=
  (List.range max).find? (entryMatches dir name length)

/-- `findEmptyDirectoryEntry`: the first entry whose first byte is zero; `none` is -1. -/
def findEmptyDirectoryEntry (dir : ℕ → UInt8) (numberOfEntries : ℕ) : Option ℕ :=
  (List.range numberOfEntries).find? fun i => entryByte dir i 0 = 0

lemma entryMatches_iff {dir name : ℕ → UInt8} {length i : ℕ} :
    entryMatches dir name length i = true ↔
      entryHead dir i ≠ 0 ∧ (∀ k < length, name k = entryByte dir i k) ∧ name length = 0 := by
  simp only [entryMatches, decide_eq_true_eq, kstrncmp_eq_zero_iff, lt_irrefl, if_false, and_true]
  refine and_congr_right fun _ => and_congr_left fun _ => forall₂_congr fun k hk => ?_
  rw [if_pos hk]

/-- The search only looks at the entries. -/
lemma entryMatches_congr {dir dir' name : ℕ → UInt8} {length i : ℕ} (hlen : length ≤ 32)
    (h : ∀ k < 32, entryByte dir' i k = entryByte dir i k) :
    entryMatches dir' name length i = entryMatches dir name length i := by
  rw [Bool.eq_iff_iff, entryMatches_iff, entryMatches_iff]
  have hhead : entryHead dir' i = entryHead dir i := by
    rw [entryHead, entryHead, h 0 (by omega), h 1 (by omega)]
  rw [hhead]
  refine and_congr_right fun _ => and_congr_left fun _ => forall₂_congr fun k hk => ?_
  rw [h k (by omega)]

/-- **What the search finds** is the first entry that passes. -/
lemma findEntry_eq_some_iff {dir name : ℕ → UInt8} {length max i : ℕ} :
    findEntry dir name length max = some i ↔
      i < max ∧ entryMatches dir name length i = true ∧
        ∀ j < i, entryMatches dir name length j = false := by
  simp only [findEntry, List.find?_range_eq_some, List.mem_range, Bool.not_eq_true']
  tauto

/-- **The place for a new entry**: its first byte is zero, and no first byte in front of it is. -/
lemma findEmptyDirectoryEntry_eq_some_iff {dir : ℕ → UInt8} {n i : ℕ} :
    findEmptyDirectoryEntry dir n = some i ↔
      i < n ∧ entryByte dir i 0 = 0 ∧ ∀ j < i, entryByte dir j 0 ≠ 0 := by
  simp only [findEmptyDirectoryEntry, List.find?_range_eq_some, List.mem_range, decide_eq_true_eq,
    Bool.not_eq_true', decide_eq_false_iff_not]
  tauto

end Gramado
