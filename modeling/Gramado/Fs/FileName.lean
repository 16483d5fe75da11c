import Gramado.Fs.FatName
import Gramado.Fs.OpenFile

/-!
# Names in the form of a directory entry

`fs_fntos` and `fs_fntos2` of `kres/fs/fslib.c` bring a name into the form of a directory entry, in the
buffer it stands in.  They differ in the extension of a name without a dot: `fs_fntos` makes it `BIN`,
`fs_fntos2` leaves it blank.  Both make the base upper case, and take a letter of the extension over
only after they have made it upper case: one that is upper case already is left out.

* `fntos_bytes` — what either leaves in the buffer; `fsFntos2Loop_bytes` compares it with `fsFntos2`.
* `fntos_within` — which offsets are read and written.
* `fileName_forms` — both and `to_FAT_name`, on every name of letters and digits that fits.
-/

namespace Gramado

/-! ## The functions -/

/-- The loop that makes the base upper case, when `n` characters are left before the end of the name:
where the base ends. -/
def upperBase : ℕ → ℕ → NameBuffer → ℕ × NameBuffer
  | 0, ns, b => (ns, b.look ns)
  | n + 1, ns, b =>
      if b.bytes ns = 0 ∨ b.bytes ns = 0x2E then (ns, b.look ns)
      else if 0x61 ≤ b.bytes ns ∧ b.bytes ns ≤ 0x7A then
        upperBase n (ns + 1) ((b.look ns).write ns (b.bytes ns - 0x20))
      else upperBase n (ns + 1) (b.look ns)

/-- The characters that an extension takes over as they are. -/
def extSpecial (c : UInt8) : Prop := c ∈ [0x24, 0x25, 0x2D, 0x5F, 0x28, 0x29, 0x7B, 0x7D]

instance (c : UInt8) : Decidable (extSpecial c) := inferInstanceAs (Decidable (_ ∈ _))

/-- The loop over the extension, from character `i` behind offset `p` on: `ext[]`. -/
def readExt (p : ℕ) : ℕ → ℕ → (ℕ → UInt8) → NameBuffer → (ℕ → UInt8) × NameBuffer
  | 0, _, ext, b => (ext, b)
  | n + 1, i, ext, b =>
      let o := p + i + 1
      let lower := 0x61 ≤ b.bytes o ∧ b.bytes o ≤ 0x7A
      let c := if lower then b.bytes o - 0x20 else b.bytes o
      if b.bytes o = 0 then (ext, b.look o)
      else
        let b := if lower then (b.look o).write o c else b.look o
        let ext := if lower then Function.update ext i c else ext
        let ext := if extSpecial c then Function.update ext i c else ext
        let ext := if 0x30 ≤ c ∧ c ≤ 0x39 then Function.update ext i c else ext
        if c = 0 then (ext, b) else readExt p n (i + 1) ext b

/-- The extension is written to the `n` offsets from `p` on. -/
def writeExt (ext : ℕ → UInt8) : ℕ → ℕ → ℕ → NameBuffer → NameBuffer
  | 0, _, _, b => b
  | n + 1, i, p, b =>
      writeExt ext n (i + 1) (p + 1) (b.write p (if ext i ≠ 0 then ext i else 0x20))

/-- `fs_fntos` and `fs_fntos2`, with the extension of a name that has none. -/
def fntos (newExt : ℕ → UInt8) (s : CString) : NameBuffer :=
  let b := s.buffer.look 0
  if s.bytes 0 = 0 then b
  else
    let base := upperBase s.strlen 0 b
    let ns := base.1
    let addNewExt := base.2.bytes ns = 0 ∧ ns ≤ 8
    let ext := if addNewExt then (newExt, base.2) else readExt ns 3 0 (fun _ => 0) base.2
    ((writeExt ext.1 3 0 (max ns 8) (ext.2.pad (8 - ns) ns))).write (max ns 8 + 3) 0

/-- `fs_fntos`: a name without a dot gets the extension `BIN`. -/
def fsFntos : CString → NameBuffer := fntos fun i => [0x42, 0x49, 0x4E].getD i 0

/-- `fs_fntos2`, loop by loop: a name without a dot gets a blank extension. -/
def fsFntos2Loop : CString → NameBuffer := fntos fun i => [0x20, 0x20, 0x20].getD i 0

/-! ## The loops -/

section Loops

variable {R W : ℕ}

/-- The loop over the base stops at its end, with every letter of it in upper case. -/
lemma upperBase_spec : ∀ (n ns m : ℕ) (b : NameBuffer), ns ≤ m → m ≤ ns + n →
    (∀ k, ns ≤ k → k < m → b.bytes k ≠ 0 ∧ b.bytes k ≠ 0x2E) →
    (b.bytes m = 0 ∨ b.bytes m = 0x2E) → b.Within R W → m ≤ R → m ≤ W →
    ∃ b', upperBase n ns b = (m, b') ∧ b'.Within R W ∧
      ∀ k, b'.bytes k = if ns ≤ k ∧ k < m then toUpper (b.bytes k) else b.bytes k
  | 0, ns, m, b, hns, hm, _, _, hb, hR, _ => by
      obtain rfl : m = ns := by omega
      refine ⟨b.look m, rfl, hb.look hR, fun k => ?_⟩
      rw [if_neg (by omega)]
      rfl
  | n + 1, ns, m, b, hns, hm, hchars, hend, hb, hR, hW => by
      rw [upperBase]
      by_cases hlast : ns = m
      · subst hlast
        rw [if_pos hend]
        refine ⟨b.look ns, rfl, hb.look hR, fun k => ?_⟩
        rw [if_neg (by omega)]
        rfl
      rw [if_neg (not_or.2 (hchars ns le_rfl (by omega)))]
      -- the next character, and the loop over the others
      obtain ⟨b₁, hstep, hb₁, hbytes⟩ : ∃ b₁ : NameBuffer,
          (if 0x61 ≤ b.bytes ns ∧ b.bytes ns ≤ 0x7A then
            upperBase n (ns + 1) ((b.look ns).write ns (b.bytes ns - 0x20))
          else upperBase n (ns + 1) (b.look ns)) = upperBase n (ns + 1) b₁ ∧ b₁.Within R W ∧
          ∀ k, b₁.bytes k = if k = ns then toUpper (b.bytes k) else b.bytes k := by
        by_cases hlower : 0x61 ≤ b.bytes ns ∧ b.bytes ns ≤ 0x7A
        · rw [if_pos hlower]
          refine ⟨_, rfl, (hb.look (by omega)).write (by omega) _, fun k => ?_⟩
          rw [NameBuffer.write_bytes, NameBuffer.look_bytes]
          by_cases hk : k = ns
          · subst hk
            rw [Function.update_self, if_pos rfl, toUpper, if_pos hlower]
          · rw [Function.update_of_ne hk, if_neg hk]
        · rw [if_neg hlower]
          refine ⟨_, rfl, hb.look (by omega), fun k => ?_⟩
          rw [NameBuffer.look_bytes]
          by_cases hk : k = ns
          · subst hk
            rw [if_pos rfl, toUpper, if_neg hlower]
          · rw [if_neg hk]
      have hlater : ∀ k, ns < k → b₁.bytes k = b.bytes k := fun k hk => by
        rw [hbytes, if_neg (by omega)]
      obtain ⟨b', hrun, hb', hupper⟩ := upperBase_spec n (ns + 1) m b₁ (by omega) (by omega)
        (fun k hk hkm => by
          rw [hlater k (by omega)]
          exact hchars k (by omega) hkm)
        (by rwa [hlater m (by omega)]) hb₁ hR hW
      refine ⟨b', hstep.trans hrun, hb', fun k => ?_⟩
      rw [hupper, hbytes]
      by_cases hk : k = ns
      · subst hk
        rw [if_pos rfl, if_neg (by omega), if_pos (by omega)]
      · rw [if_neg hk]
        split_ifs <;> first | rfl | omega

/-- A lower-case letter is not made a zero. -/
lemma upper_ne_zero {c : UInt8} (hc : c ≠ 0) :
    (if 0x61 ≤ c ∧ c ≤ 0x7A then c - 0x20 else c) ≠ 0 := by
  by_cases hl : 0x61 ≤ c ∧ c ≤ 0x7A
  · rw [if_pos hl]
    intro hzero
    have hspace : c = 0x20 := by
      rw [← UInt8.sub_add_cancel c 0x20, hzero]
      rfl
    subst hspace
    exact absurd hl (by decide)
  · rw [if_neg hl]
    exact hc

lemma extByte_other {c : UInt8} (hl : ¬(0x61 ≤ c ∧ c ≤ 0x7A)) :
    extByte c = if extSpecial c ∨ (0x30 ≤ c ∧ c ≤ 0x39) then c else 0 := if_neg hl

/-- What one character adds to the extension. -/
lemma extByte_update (c : UInt8) (ext : ℕ → UInt8) (i : ℕ) (hi : ext i = 0) :
    let lower := 0x61 ≤ c ∧ c ≤ 0x7A
    let d := if lower then c - 0x20 else c
    let ext₁ := if lower then Function.update ext i d else ext
    let ext₂ := if extSpecial d then Function.update ext₁ i d else ext₁
    let ext₃ := if 0x30 ≤ d ∧ d ≤ 0x39 then Function.update ext₂ i d else ext₂
    ext₃ = Function.update ext i (extByte c) := by
  have hsame : Function.update ext i 0 = ext := by rw [← hi, Function.update_eq_self]
  dsimp only
  by_cases hl : 0x61 ≤ c ∧ c ≤ 0x7A
  · simp only [if_pos hl, extByte]
    split_ifs <;> simp only [Function.update_idem]
  · simp only [if_neg hl, extByte_other hl]
    by_cases hs : extSpecial c
    · rw [if_pos hs, if_pos (Or.inl hs), ite_eq_right_iff]
      exact fun _ => Function.update_idem _ _ _
    · rw [if_neg hs]
      by_cases hdigit : 0x30 ≤ c ∧ c ≤ 0x39
      · rw [if_pos hdigit, if_pos (Or.inr hdigit)]
      · rw [if_neg hdigit, if_neg (not_or.2 ⟨hs, hdigit⟩), hsame]

/-- The loop over the extension stops at the end of the name or behind three characters; `ext` then has
what the characters add to it. -/
lemma readExt_spec {p : ℕ} : ∀ (n i : ℕ) (ext : ℕ → UInt8) (b : NameBuffer), (∀ j, i ≤ j → ext j = 0) →
    b.Within R W → (p + i + n ≤ R ∨ ∃ m ≤ R, p + i < m ∧ b.bytes m = 0) → p + i + n ≤ W →
    ∃ ext' b', readExt p n i ext b = (ext', b') ∧ b'.Within R W ∧
      (∀ k, ¬(p + i < k ∧ k ≤ p + i + n) → b'.bytes k = b.bytes k) ∧
      ∀ j, ext' j = if i ≤ j ∧ j < i + n ∧ ∀ l, i ≤ l → l ≤ j → b.bytes (p + l + 1) ≠ 0 then
        extByte (b.bytes (p + j + 1)) else ext j
  | 0, i, ext, b, _, hb, _, _ => by
      refine ⟨ext, b, rfl, hb, fun _ _ => rfl, fun j => ?_⟩
      rw [if_neg (by omega)]
  | n + 1, i, ext, b, hext, hb, hR, hW => by
      have hlook : (b.look (p + i + 1)).Within R W := hb.look <| by
        rcases hR with hR | ⟨m, hmR, hm, -⟩ <;> omega
      by_cases hc : b.bytes (p + i + 1) = 0
      · refine ⟨ext, b.look (p + i + 1), by rw [readExt, if_pos hc], hlook, fun _ _ => rfl,
          fun j => ?_⟩
        rw [if_neg fun h => h.2.2 i le_rfl h.1 hc]
      -- one character, and the loop over the others
      obtain ⟨b₁, hstep, hb₁, hsame⟩ : ∃ b₁ : NameBuffer,
          readExt p (n + 1) i ext b = readExt p n (i + 1)
            (Function.update ext i (extByte (b.bytes (p + i + 1)))) b₁ ∧ b₁.Within R W ∧
          ∀ k, k ≠ p + i + 1 → b₁.bytes k = b.bytes k := by
        refine ⟨if 0x61 ≤ b.bytes (p + i + 1) ∧ b.bytes (p + i + 1) ≤ 0x7A then
          (b.look (p + i + 1)).write (p + i + 1)
            (if 0x61 ≤ b.bytes (p + i + 1) ∧ b.bytes (p + i + 1) ≤ 0x7A then
              b.bytes (p + i + 1) - 0x20 else b.bytes (p + i + 1))
          else b.look (p + i + 1), ?_, ?_, ?_⟩
        · rw [readExt]
          dsimp only
          rw [if_neg hc, if_neg (upper_ne_zero hc), extByte_update _ _ _ (hext i le_rfl)]
        · by_cases hl : 0x61 ≤ b.bytes (p + i + 1) ∧ b.bytes (p + i + 1) ≤ 0x7A
          · rw [if_pos hl]
            exact hlook.write (by omega) _
          · rw [if_neg hl]
            exact hlook
        · intro k hk
          by_cases hl : 0x61 ≤ b.bytes (p + i + 1) ∧ b.bytes (p + i + 1) ≤ 0x7A
          · rw [if_pos hl]
            exact Function.update_of_ne hk _ _
          · rw [if_neg hl]
            rfl
      obtain ⟨ext', b', hrun, hb', hframe, hbytes⟩ := readExt_spec (p := p) n (i + 1)
        (Function.update ext i (extByte (b.bytes (p + i + 1)))) b₁
        (fun j hj => by
          rw [Function.update_of_ne (by omega)]
          exact hext j (by omega))
        hb₁ (hR.imp (fun h => by omega) fun ⟨m, hmR, hm, hzero⟩ => by
          have hbefore : m ≠ p + i + 1 := fun h => hc (h ▸ hzero)
          exact ⟨m, hmR, by omega, by rwa [hsame m hbefore]⟩) (by omega)
      refine ⟨ext', b', hstep.trans hrun, hb', fun k hk => ?_, fun j => ?_⟩
      · rw [hframe k (by omega), hsame k (by omega)]
      · rw [hbytes]
        by_cases hj : j = i
        · subst hj
          rw [if_neg (by omega), Function.update_self, if_pos]
          refine ⟨le_rfl, by omega, fun l hl hlj => ?_⟩
          obtain rfl : l = j := by omega
          exact hc
        · rw [Function.update_of_ne hj, hsame (p + j + 1) (by omega)]
          refine if_congr ⟨?_, ?_⟩ rfl rfl
          · rintro ⟨hij, hjn, hall⟩
            refine ⟨by omega, by omega, fun l hl hlj => ?_⟩
            by_cases hli : l = i
            · rwa [hli]
            · rw [← hsame (p + l + 1) (by omega)]
              exact hall l (by omega) hlj
          · rintro ⟨hij, hjn, hall⟩
            refine ⟨by omega, by omega, fun l hl hlj => ?_⟩
            rw [hsame (p + l + 1) (by omega)]
            exact hall l (by omega) hlj

/-- The extension is written, with a space for a zero. -/
lemma writeExt_spec (ext : ℕ → UInt8) : ∀ (n i p : ℕ) (b : NameBuffer), b.Within R W →
    p + n ≤ W + 1 → (writeExt ext n i p b).Within R W ∧
      ∀ k, (writeExt ext n i p b).bytes k =
        if p ≤ k ∧ k < p + n then (if ext (i + (k - p)) ≠ 0 then ext (i + (k - p)) else 0x20)
        else b.bytes k
  | 0, i, p, b, hb, _ => ⟨hb, fun k => by rw [if_neg (by omega), writeExt]⟩
  | n + 1, i, p, b, hb, hW => by
      obtain ⟨hwithin, hbytes⟩ := writeExt_spec ext n (i + 1) (p + 1)
        (b.write p (if ext i ≠ 0 then ext i else 0x20)) (hb.write (by omega) _) (by omega)
      refine ⟨hwithin, fun k => ?_⟩
      rw [writeExt, hbytes, NameBuffer.write_bytes]
      by_cases hk : k = p
      · subst hk
        have hpast : ¬(k + 1 ≤ k ∧ k < k + 1 + n) := by omega
        have hin : k ≤ k ∧ k < k + (n + 1) := by omega
        rw [if_neg hpast, if_pos hin, Function.update_self, Nat.sub_self, Nat.add_zero]
      · rw [Function.update_of_ne hk]
        by_cases hin : p ≤ k ∧ k < p + (n + 1)
        · have hshift : i + 1 + (k - (p + 1)) = i + (k - p) := by omega
          rw [if_pos (by omega), if_pos hin, hshift]
        · rw [if_neg (by omega), if_neg hin]

end Loops

/-! ## The buffer afterwards -/

/-- The extension that `fntos` writes. -/
def fntosExtension (newExt : ℕ → UInt8) (s : CString) (i : ℕ) : UInt8 :=
  if s.bytes s.stem = 0 ∧ s.stem ≤ 8 then newExt i
  else if ∀ j ≤ i, s.bytes (s.stem + j + 1) ≠ 0 then extByte (s.bytes (s.stem + i + 1))
  else 0

/-- The bytes that `fntos` leaves. -/
def fntosResult (newExt : ℕ → UInt8) (s : CString) (k : ℕ) : UInt8 :=
  if k < s.stem then toUpper (s.bytes k)
  else if k < 8 then 0x20
  else if k < max s.stem 8 + 3 then
    if fntosExtension newExt s (k - max s.stem 8) = 0 then 0x20
    else fntosExtension newExt s (k - max s.stem 8)
  else if k = max s.stem 8 + 3 then 0
  else s.bytes k

lemma CString.stem_spec (s : CString) : s.bytes s.stem = 0 ∨ s.bytes s.stem = 0x2E :=
  Nat.find_spec s.stem_exists

lemma CString.before_stem (s : CString) {k : ℕ} (hk : k < s.stem) :
    s.bytes k ≠ 0 ∧ s.bytes k ≠ 0x2E := not_or.1 (Nat.find_min s.stem_exists hk)

lemma CString.stem_le_strlen (s : CString) : s.stem ≤ s.strlen :=
  Nat.find_min' s.stem_exists (Or.inl s.strlen_spec)

/-- **What `fs_fntos` and `fs_fntos2` leave in the buffer, and which offsets they look at.**  A name
without a dot and longer than eight characters is read three characters past its end. -/
theorem fntos_spec (newExt : ℕ → UInt8) {s : CString} (hname : s.bytes 0 ≠ 0) {R W : ℕ}
    (hR : s.stem ≤ R)
    (hext : (s.bytes s.stem = 0 ∧ s.stem ≤ 8) ∨ s.stem + 3 ≤ R ∨ ∃ m ≤ R, s.stem < m ∧ s.bytes m = 0)
    (hW : max s.stem 8 + 3 ≤ W) :
    (fntos newExt s).Within R W ∧ (fntos newExt s).bytes = fntosResult newExt s := by
  obtain ⟨b₁, hbase, hb₁, hbytes₁⟩ := upperBase_spec s.strlen 0 s.stem (s.buffer.look 0)
    (Nat.zero_le _) (by rw [Nat.zero_add]; exact s.stem_le_strlen) (fun k _ hk => s.before_stem hk)
    s.stem_spec ((NameBuffer.Within.buffer s).look (Nat.zero_le R)) hR (by omega : s.stem ≤ W)
  have hlater : ∀ k, s.stem ≤ k → b₁.bytes k = s.bytes k := fun k hk => by
    rw [hbytes₁, if_neg (by omega)]
    rfl
  -- the extension, and the buffer behind the loop that reads it
  obtain ⟨ext, b₂, hread, hb₂, hframe, hext₂⟩ : ∃ ext b₂,
      (if b₁.bytes s.stem = 0 ∧ s.stem ≤ 8 then (newExt, b₁)
        else readExt s.stem 3 0 (fun _ => 0) b₁) = (ext, b₂) ∧ b₂.Within R W ∧
      (∀ k, ¬(s.stem < k ∧ k ≤ s.stem + 3) → b₂.bytes k = b₁.bytes k) ∧
      ∀ i < 3, ext i = fntosExtension newExt s i := by
    rw [hlater _ le_rfl]
    by_cases hnew : s.bytes s.stem = 0 ∧ s.stem ≤ 8
    · rw [if_pos hnew]
      exact ⟨newExt, b₁, rfl, hb₁, fun _ _ => rfl, fun i _ => (if_pos hnew).symm⟩
    · rw [if_neg hnew]
      obtain ⟨ext, b₂, hread, hb₂, hframe, hbytes⟩ := readExt_spec (p := s.stem) 3 0 (fun _ => 0) b₁
        (fun _ _ => rfl) hb₁ ((hext.resolve_left hnew).imp id fun ⟨m, hmR, hm, hzero⟩ =>
          ⟨m, hmR, hm, by rw [hlater m hm.le, hzero]⟩) (by omega)
      refine ⟨ext, b₂, hread, hb₂, hframe, fun i hi => ?_⟩
      rw [hbytes, fntosExtension, if_neg hnew, hlater _ (by omega)]
      refine if_congr ⟨fun h j hj => ?_, fun h => ⟨Nat.zero_le i, by omega, fun l _ hl => ?_⟩⟩ rfl rfl
      · rw [← hlater _ (by omega)]
        exact h.2.2 j (Nat.zero_le j) hj
      · rw [hlater _ (by omega)]
        exact h l hl
  have hpadded : (b₂.pad (8 - s.stem) s.stem).Within R W := hb₂.pad (by omega)
  obtain ⟨hwritten, hbytes₃⟩ := writeExt_spec ext 3 0 (max s.stem 8) _ hpadded (by omega)
  have hresult : fntos newExt s = (writeExt ext 3 0 (max s.stem 8)
      (b₂.pad (8 - s.stem) s.stem)).write (max s.stem 8 + 3) 0 := by
    rw [fntos]
    simp only [if_neg hname, hbase, hread]
  rw [hresult]
  refine ⟨hwritten.write (by omega) _, funext fun k => ?_⟩
  rw [NameBuffer.write_bytes, fntosResult]
  by_cases hend : k = max s.stem 8 + 3
  · rw [if_neg (by omega), if_neg (by omega), if_neg (by omega), if_pos hend, hend,
      Function.update_self]
  rw [Function.update_of_ne hend, hbytes₃, if_neg hend]
  by_cases hwrittenHere : max s.stem 8 ≤ k ∧ k < max s.stem 8 + 3
  · rw [if_pos hwrittenHere, if_neg (by omega : ¬k < s.stem), if_neg (by omega : ¬k < 8),
      if_pos hwrittenHere.2, Nat.zero_add, hext₂ _ (by omega), ite_not]
  rw [if_neg hwrittenHere, NameBuffer.pad_bytes]
  by_cases hpad : s.stem ≤ k ∧ k < s.stem + (8 - s.stem)
  · rw [if_pos hpad, if_neg (by omega), if_pos (by omega)]
  rw [if_neg hpad, hframe k (by omega)]
  by_cases hk : k < s.stem
  · rw [if_pos hk, hbytes₁, if_pos ⟨Nat.zero_le k, hk⟩]
    rfl
  · rw [if_neg hk, if_neg (by omega), if_neg (by omega), hlater k (by omega)]

/-- Loop by loop, `fs_fntos2` is the function that the calls of the file system use. -/
theorem fsFntos2Loop_eq (s : CString) : (fsFntos2Loop s).bytes = (fsFntos2 s).bytes := by
  rw [fsFntos2]
  by_cases hname : s.bytes 0 = 0
  · rw [if_pos hname, fsFntos2Loop, fntos, if_pos hname]
    rfl
  rw [if_neg hname, fsFntos2Loop,
    (fntos_spec _ hname (by omega : s.stem ≤ s.stem + 3) (.inr (.inl le_rfl)) le_rfl).2]
  funext k
  show fntosResult _ s k = fntosBytes s k
  have hext : ∀ i < 3, fntosExtension (fun i => [0x20, 0x20, 0x20].getD i 0) s i = fntosExt s i := by
    intro i hi
    rw [fntosExtension, fntosExt]
    refine if_congr Iff.rfl ?_ rfl
    interval_cases i <;> rfl
  rw [fntosResult, fntosBytes]
  by_cases hk : max s.stem 8 ≤ k ∧ k < max s.stem 8 + 3
  · rw [hext _ (by omega)]
  · by_cases hlt : k < max s.stem 8 + 3
    · have hbefore : k < s.stem ∨ k < 8 := by omega
      rcases hbefore with hstem | h8
      · rw [if_pos hstem, if_pos hstem]
      · rw [if_pos h8, if_pos h8]
    · rw [if_neg hlt, if_neg hlt]

/-! ## Names of letters and digits -/

/-- `A` to `Z`. -/
def UpperLetter (c : UInt8) : Prop := 0x41 ≤ c ∧ c ≤ 0x5A

/-- A letter in any case, or a digit. -/
def LetterOrDigit (c : UInt8) : Prop :=
  (0x61 ≤ c ∧ c ≤ 0x7A) ∨ UpperLetter c ∨ (0x30 ≤ c ∧ c ≤ 0x39)

lemma LetterOrDigit.nameChar {c : UInt8} (hc : LetterOrDigit c) : NameChar c := by
  refine ⟨?_, ?_, ?_⟩ <;> rintro rfl <;> revert hc <;> unfold LetterOrDigit UpperLetter <;> decide

/-- A letter or a digit is taken over into the extension in upper case, if it is no upper-case
letter. -/
lemma extByte_kept {c : UInt8} (hc : LetterOrDigit c) (hupper : ¬UpperLetter c) :
    extByte c = toUpper c := by
  rw [extByte, toUpper]
  by_cases hl : 0x61 ≤ c ∧ c ≤ 0x7A
  · rw [if_pos hl, if_pos hl]
  · have hdigit : 0x30 ≤ c ∧ c ≤ 0x39 := (hc.resolve_left hl).resolve_left hupper
    rw [if_neg hl, if_neg hl, if_pos (Or.inr hdigit)]

namespace ShortName

variable {n : ShortName LetterOrDigit} {dot : Bool} {rest : ℕ → UInt8} {newExt : ℕ → UInt8}

lemma nameChars : ∀ c, LetterOrDigit c → NameChar c := fun _ h => h.nameChar

lemma first_ne_zero : (n.string dot rest).bytes 0 ≠ 0 := (first_char nameChars).1

lemma string_stem : (n.string dot rest).stem = n.base.length := by
  refine (Nat.find_eq_iff _).2 ⟨?_, fun k hk => ?_⟩
  · rw [n.string_base_end]
    cases dot with
    | true => exact Or.inr rfl
    | false => exact Or.inl rfl
  · exact not_or.2 ⟨(base_char nameChars hk).1, (base_char nameChars hk).2.2⟩

/-- The extension of a name without a dot. -/
lemma extension_dotless (i : ℕ) : fntosExtension newExt (n.string false rest) i = newExt i := by
  rw [fntosExtension, string_stem, if_pos ⟨n.string_base_end, n.base_le⟩]

/-- The extension of a name with a dot. -/
lemma extension_dotted (i : ℕ) : fntosExtension newExt (n.string true rest) i =
    if i < n.ext.length then extByte (n.ext.getD i 0) else 0 := by
  have hdotted : ¬((n.string true rest).bytes n.base.length = 0 ∧ n.base.length ≤ 8) := by
    rw [n.string_base_end]
    exact fun h => absurd h.1 (by decide)
  have hchar : ∀ j ≤ n.ext.length,
      (n.string true rest).bytes (n.base.length + j + 1) = n.ext.getD j 0 := fun j hj => by
    rw [Nat.add_right_comm, n.string_ext hj]
  rw [fntosExtension, string_stem, if_neg hdotted]
  by_cases hi : i < n.ext.length
  · rw [if_pos hi, hchar i hi.le, if_pos fun j hj => ?_]
    rw [hchar j (by omega)]
    exact (ext_char nameChars (by omega) 0).1
  · rw [if_neg hi, if_neg]
    intro hall
    refine hall n.ext.length (by omega) ?_
    rw [hchar _ le_rfl, List.getD_eq_default _ _ le_rfl]

/-- The offsets that are read and written. -/
lemma fntos_within : (fntos newExt (n.string dot rest)).Within (n.text dot).length 11 := by
  have hbase := n.base_le
  have hlength : (n.text dot).length = _ := n.text_length
  refine (fntos_spec newExt first_ne_zero ?_ ?_ ?_).1
  · rw [string_stem]
    omega
  · rw [string_stem]
    cases dot with
    | false => exact .inl ⟨n.string_base_end, hbase⟩
    | true =>
        refine .inr (.inr ⟨(n.text true).length, le_rfl, ?_, ?_⟩)
        · rw [hlength, if_pos rfl]
          omega
        · rw [n.string_holds _ le_rfl, List.getD_eq_default _ _ le_rfl]
  · rw [string_stem]
    omega

/-- The eleven bytes and the zero. -/
lemma fntos_bytes {k : ℕ} (hk : k ≤ 11) : (fntos newExt (n.string dot rest)).bytes k =
    if k < 8 then toUpper (n.base.getD k 0x20)
    else if k < 11 then
      if fntosExtension newExt (n.string dot rest) (k - 8) = 0 then 0x20
      else fntosExtension newExt (n.string dot rest) (k - 8)
    else 0 := by
  have hbase := n.base_le
  rw [(fntos_spec newExt first_ne_zero (le_max_left _ _) (.inr (.inl (le_max_right _ _))) le_rfl).2,
    fntosResult, string_stem, max_eq_right hbase]
  by_cases hkb : k < n.base.length
  · rw [if_pos hkb, if_pos (by omega), n.string_base hkb]
  rw [if_neg hkb]
  by_cases hk8 : k < 8
  · rw [if_pos hk8, if_pos hk8, List.getD_eq_default _ _ (by omega)]
    rfl
  rw [if_neg hk8, if_neg hk8]
  by_cases hk11 : k < 11
  · rw [if_pos (by omega), if_pos hk11]
  · rw [if_neg (by omega), if_neg hk11, if_pos (by omega)]

/-- A byte of the extension, unless an upper-case letter belongs there. -/
lemma fntos_ext {k : ℕ} (hk8 : 8 ≤ k) (hk : k < 11) (hupper : ¬UpperLetter (n.entry rest k)) :
    (fntos newExt (n.string true rest)).bytes k = toUpper (n.entry rest k) := by
  have hentry : n.entry rest k = n.ext.getD (k - 8) 0x20 := by
    rw [entry, if_neg (by omega), if_pos hk]
  rw [hentry] at hupper ⊢
  rw [fntos_bytes hk.le, if_neg (by omega), if_pos hk, extension_dotted]
  by_cases hin : k - 8 < n.ext.length
  · have hchar : LetterOrDigit (n.ext.getD (k - 8) 0x20) := by
      rw [List.getD_eq_getElem _ _ hin]
      exact n.ext_chars _ (List.getElem_mem hin)
    have hsame : n.ext.getD (k - 8) 0 = n.ext.getD (k - 8) 0x20 := by
      rw [List.getD_eq_getElem _ _ hin, List.getD_eq_getElem _ _ hin]
    rw [if_pos hin, hsame, extByte_kept hchar hupper, if_neg]
    exact upper_ne_zero hchar.nameChar.1
  · rw [if_neg hin, if_pos rfl, List.getD_eq_default _ _ (by omega)]
    rfl

end ShortName

/-- **The three forms of a name** of letters and digits that fits in an entry.  `fs_fntos2` leaves the
name in upper case, padded, and a zero; `fs_fntos` leaves the same if the name has a dot, and `BIN` for
the extension if it has none; `to_FAT_name` makes the same entry, with the letters as they are.
Nothing is said of the bytes where an upper-case letter of the extension belongs.  No call reads behind
the end of the name or writes behind the twelve bytes. -/
theorem fileName_forms (n : ShortName LetterOrDigit) (dot : Bool) (hdot : n.ext ≠ [] → dot = true)
    (rest mid : ℕ → UInt8) :
    (∀ k < 11, ¬(8 ≤ k ∧ UpperLetter (n.entry rest k)) →
      (fsFntos2Loop (n.string dot rest)).bytes k = toUpper (n.entry rest k) ∧
      (fsFntos (n.string dot rest)).bytes k =
        if dot = false ∧ 8 ≤ k then [0x42, 0x49, 0x4E].getD (k - 8) 0 else toUpper (n.entry rest k)) ∧
    (∀ k < 11, (toFatName (n.string dot rest) ⟨mid, [], []⟩).2.bytes k = n.entry rest k) ∧
    (fsFntos (n.string dot rest)).bytes 11 = 0 ∧ (fsFntos2Loop (n.string dot rest)).bytes 11 = 0 ∧
    (fsFntos (n.string dot rest)).Within (n.text dot).length 11 ∧
    (fsFntos2Loop (n.string dot rest)).Within (n.text dot).length 11 ∧
    (toFatName (n.string dot rest) ⟨mid, [], []⟩).1.Within (n.text dot).length 10 ∧
    (toFatName (n.string dot rest) ⟨mid, [], []⟩).2.Within (n.text dot).length 10 := by
  have hmid : NameBuffer.Within (n.text dot).length 10 ⟨mid, [], []⟩ :=
    ⟨fun _ h => absurd h List.not_mem_nil, fun _ h => absurd h List.not_mem_nil⟩
  obtain ⟨hentry, hsrc, hdst⟩ := @ShortName.toFatName_entry _ n dot rest ShortName.nameChars hdot _ _
    hmid le_rfl rest
  refine ⟨fun k hk hupper => ?_, hentry, ?_, ?_, ShortName.fntos_within, ShortName.fntos_within,
    hsrc, hdst⟩
  · by_cases hk8 : k < 8
    · have hbase : ∀ newExt, (fntos newExt (n.string dot rest)).bytes k = toUpper (n.entry rest k) :=
        fun newExt => by rw [ShortName.fntos_bytes hk.le, if_pos hk8, ShortName.entry, if_pos hk8]
      exact ⟨hbase _, by rw [if_neg (by omega)]; exact hbase _⟩
    have hkept : ¬UpperLetter (n.entry rest k) := fun h => hupper ⟨by omega, h⟩
    cases dot with
    | true =>
        rw [if_neg fun h => absurd h.1 (by decide)]
        exact ⟨ShortName.fntos_ext (by omega) hk hkept, ShortName.fntos_ext (by omega) hk hkept⟩
    | false =>
        have hnone : n.ext = [] := by
          by_contra hne
          exact absurd (hdot hne) (by decide)
        have hspace : n.entry rest k = 0x20 := by
          rw [ShortName.entry, if_neg hk8, if_pos hk, hnone, List.getD_nil]
        rw [hspace, if_pos ⟨rfl, by omega⟩, fsFntos, fsFntos2Loop, ShortName.fntos_bytes hk.le,
          ShortName.fntos_bytes hk.le, if_neg hk8, if_neg hk8, if_pos hk, if_pos hk,
          ShortName.extension_dotless, ShortName.extension_dotless]
        have hi : k - 8 < 3 := by omega
        generalize k - 8 = i at hi
        interval_cases i <;> exact ⟨rfl, rfl⟩
  · exact ShortName.fntos_bytes le_rfl
  · exact ShortName.fntos_bytes le_rfl

/-- A name of one letter, with an extension. -/
def shortName (c : UInt8) (ext : List UInt8) (hc : LetterOrDigit c) (hlen : ext.length ≤ 3)
    (hext : ∀ d ∈ ext, LetterOrDigit d) : ShortName LetterOrDigit where
  base := [c]
  ext := ext
  base_pos := List.cons_ne_nil _ _
  base_le := by
    show 1 ≤ 8
    omega
  ext_le := hlen
  base_chars := fun _ hd => List.mem_singleton.1 hd ▸ hc
  ext_chars := hext

/-- `a`. -/
def nameA : ShortName LetterOrDigit :=
  shortName 0x61 [] (.inl (by decide)) (Nat.zero_le 3) fun _ hd => absurd hd List.not_mem_nil

/-- `a.T`. -/
def nameAT : ShortName LetterOrDigit :=
  shortName 0x61 [0x54] (.inl (by decide)) (by decide) fun _ hd =>
    List.mem_singleton.1 hd ▸ .inr (.inl (by decide : 0x41 ≤ (0x54 : UInt8) ∧ (0x54 : UInt8) ≤ 0x5A))

theorem fileName_forms_nameA :
    (nameA.ext ≠ [] → false = true) ∧
      (fsFntos2Loop (nameA.string false fun _ => 0)).bytes 0 = 0x41 ∧
      (fsFntos (nameA.string false fun _ => 0)).bytes 0 = 0x41 := by
  have hforms := (fileName_forms nameA false (fun h => absurd rfl h) (fun _ => 0) fun _ => 0).1 0
    (by decide) fun h => absurd h.1 (by decide)
  exact ⟨fun h => absurd rfl h, hforms⟩

/-- Without a dot, `fs_fntos` and `fs_fntos2` differ; `to_FAT_name` keeps lower-case letters; and of
the name `a.T` the last letter is left out. -/
theorem fileName_forms_fails :
    (¬∀ (n : ShortName LetterOrDigit) (dot : Bool) (rest : ℕ → UInt8), (n.ext ≠ [] → dot = true) →
      ∀ k < 11, (fsFntos (n.string dot rest)).bytes k = (fsFntos2Loop (n.string dot rest)).bytes k) ∧
    (¬∀ (n : ShortName LetterOrDigit) (dot : Bool) (rest mid : ℕ → UInt8), (n.ext ≠ [] → dot = true) →
      ∀ k < 11, (fsFntos2Loop (n.string dot rest)).bytes k
        = (toFatName (n.string dot rest) ⟨mid, [], []⟩).2.bytes k) ∧
    ¬∀ (n : ShortName LetterOrDigit) (dot : Bool) (rest : ℕ → UInt8), (n.ext ≠ [] → dot = true) →
      ∀ k < 11, (fsFntos2Loop (n.string dot rest)).bytes k = toUpper (n.entry rest k) := by
  refine ⟨fun hall => ?_, fun hall => ?_, fun hall => ?_⟩
  · have hsame := hall nameA false (fun _ => 0) (fun h => absurd rfl h) 8 (by decide)
    rw [fsFntos, fsFntos2Loop, ShortName.fntos_bytes (by decide), ShortName.fntos_bytes (by decide),
      ShortName.extension_dotless, ShortName.extension_dotless] at hsame
    exact absurd hsame (by decide)
  · have hsame := hall nameA false (fun _ => 0) (fun _ => 0) (fun h => absurd rfl h) 0 (by decide)
    have hentry : ∀ k < 11, (toFatName (nameA.string false fun _ => 0) ⟨fun _ => 0, [], []⟩).2.bytes k
        = nameA.entry (fun _ => 0) k :=
      (ShortName.toFatName_entry (R := 1) ShortName.nameChars (fun h => absurd rfl h)
        ⟨fun _ h => absurd h List.not_mem_nil, fun _ h => absurd h List.not_mem_nil⟩ le_rfl _).1
    rw [hentry 0 (by decide), fsFntos2Loop, ShortName.fntos_bytes (by decide)] at hsame
    exact absurd hsame (by decide)
  · have hsame := hall nameAT true (fun _ => 0) (fun _ => rfl) 8 (by decide)
    rw [fsFntos2Loop, ShortName.fntos_bytes (by decide), ShortName.extension_dotted] at hsame
    exact absurd hsame (by decide)

end Gramado
