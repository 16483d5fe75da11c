import Mathlib.Data.List.GetD
import Gramado.Fs.Directory

/-!
# Names in directory entries

`from_FAT_name` and `to_FAT_name` of `kres/fs/fat/fat16.c`: an entry holds the base of a name, padded
with spaces to eight bytes, and the extension, padded to three; outside of it the name is written with
a dot between them.

`from_FAT_name` looks at the first byte of its destination, and does nothing if that is zero.

* `ShortName` — a base and an extension that fit in an entry.
* `toFatName_entry` — what `to_FAT_name` writes.
* `fatName_roundTrip` — the two functions, one after the other, in both orders.
-/

namespace Gramado

/-! ## Buffers -/

/-- A buffer of characters, and the offsets that were read and written, the newest first.  An offset
that is read again at once is recorded once. -/
structure NameBuffer where
  bytes : ℕ → UInt8
  reads : List ℕ
  writes : List ℕ

/-- The character at an offset is looked at. -/
def NameBuffer.look (b : NameBuffer) (k : ℕ) : NameBuffer := { b with reads := k :: b.reads }

/-- A character is written. -/
def NameBuffer.write (b : NameBuffer) (k : ℕ) (c : UInt8) : NameBuffer :=
  { b with bytes := Function.update b.bytes k c, writes := k :: b.writes }

/-- The string before anything is done with it. -/
def CString.buffer (s : CString) : NameBuffer := ⟨s.bytes, [], []⟩

/-- Spaces are written to the `n` offsets from `k` on. -/
def NameBuffer.pad : NameBuffer → ℕ → ℕ → NameBuffer
  | b, 0, _ => b
  | b, n + 1, k => (b.write k 0x20).pad n (k + 1)

/-! ## The functions -/

/-- `strcmp` with a string that is known: whether they are the same. -/
def strcmpSame : List UInt8 → ℕ → NameBuffer → Bool × NameBuffer
  | [], k, src => (src.bytes k = 0, src.look k)
  | c :: cs, k, src =>
      if src.bytes k = c then strcmpSame cs (k + 1) (src.look k) else (false, src.look k)

/-- The loop of `to_FAT_name` over the base: at most `n` characters are left, `i` were copied. -/
def copyBase : ℕ → ℕ → NameBuffer → NameBuffer → ℕ × NameBuffer × NameBuffer
  | 0, i, src, dst => (i, src, dst)
  | n + 1, i, src, dst =>
      if src.bytes i = 0 ∨ src.bytes i = 0x2E then (i, src.look i, dst)
      else copyBase n (i + 1) (src.look i) (dst.write i (src.bytes i))

/-- The loop over the extension, from `ptr` in the source to `i` in the destination. -/
def copyExt : ℕ → ℕ → ℕ → NameBuffer → NameBuffer → ℕ × NameBuffer × NameBuffer
  | 0, _, i, src, dst => (i, src, dst)
  | n + 1, ptr, i, src, dst =>
      if src.bytes ptr = 0 then (i, src.look ptr, dst)
      else copyExt n (ptr + 1) (i + 1) (src.look ptr) (dst.write i (src.bytes ptr))

/-- `to_FAT_name` from the base on. -/
def toFatRegular (src dst : NameBuffer) : NameBuffer × NameBuffer :=
  let base := copyBase 8 0 src dst
  let src := base.2.1.look base.1
  let dst := base.2.2.pad (8 - base.1) base.1
  let ptr := if src.bytes base.1 = 0x2E then base.1 + 1 else base.1
  let ext := copyExt 3 ptr 8 src dst
  (ext.2.1, ext.2.2.pad (11 - ext.1) ext.1)

/-- `to_FAT_name`: the source and the destination. -/
def toFatName (src : CString) (dst : NameBuffer) : NameBuffer × NameBuffer :=
  let parent := strcmpSame [0x2E, 0x2E] 0 src.buffer
  if parent.1 then (parent.2, (((dst.write 0 0x2E).write 1 0x2E).write 2 0).pad 9 2)
  else
    let current := strcmpSame [0x2E] 0 parent.2
    if current.1 then (current.2, ((dst.write 0 0x2E).write 1 0).pad 10 1)
    else toFatRegular current.2 dst

/-- The number of characters among the `n` from `lo` on, without the spaces at their end. -/
def trimmed (src : ℕ → UInt8) (lo : ℕ) : ℕ → ℕ
  | 0 => 0
  | n + 1 => if src (lo + n) = 0x20 then trimmed src lo n else n + 1

/-- `n` characters are copied. -/
def copyChars (src : ℕ → UInt8) (lo : ℕ) (n k : ℕ) (dst : ℕ → UInt8) (o : ℕ) : UInt8 :=
  if k ≤ o ∧ o < k + n then src (lo + (o - k)) else dst o

/-- `from_FAT_name`: the destination. -/
def fromFatName (src dst : ℕ → UInt8) : ℕ → UInt8 :=
  if src 0 = 0 then dst
  else if dst 0 = 0 then dst
  else
    let n := trimmed src 0 8
    let dst := copyChars src 0 n 0 dst
    let dotted := if src 0 ≠ 0x2E then Function.update dst n 0x2E else dst
    let k := if src 0 ≠ 0x2E then n + 1 else n
    let e := trimmed src 8 3
    if e = 0 then
      if k = 1 then Function.update dotted k 0
      else if dotted 0 = 0x2E then Function.update dotted k 0
      else Function.update dotted (k - 1) 0
    else Function.update (copyChars src 8 e k dotted) (k + e) 0

/-! ## Names -/

/-- A character of a name: it is no zero, no space and no dot. -/
def NameChar (c : UInt8) : Prop := c ≠ 0 ∧ c ≠ 0x20 ∧ c ≠ 0x2E

/-- **A name that fits in an entry**, with characters that meet `P`. -/
structure ShortName (P : UInt8 → Prop) where
  base : List UInt8
  ext : List UInt8
  base_pos : base ≠ []
  base_le : base.length ≤ 8
  ext_le : ext.length ≤ 3
  base_chars : ∀ c ∈ base, P c
  ext_chars : ∀ c ∈ ext, P c

namespace ShortName

variable {P : UInt8 → Prop} (n : ShortName P)

/-- The eleven bytes of an entry, and whatever stands behind them. -/
def entry (rest : ℕ → UInt8) (k : ℕ) : UInt8 :=
  if k < 8 then n.base.getD k 0x20 else if k < 11 then n.ext.getD (k - 8) 0x20 else rest k

/-- The name with a dot before its extension, or without a dot. -/
def text (dot : Bool) : List UInt8 := n.base ++ if dot then 0x2E :: n.ext else []

/-- The name in a buffer, with a zero behind it and whatever else. -/
def string (dot : Bool) (rest : ℕ → UInt8) : CString where
  bytes k :=
    if k < (n.text dot).length then (n.text dot).getD k 0
    else if k = (n.text dot).length then 0 else rest k
  terminated := ⟨(n.text dot).length, by rw [if_neg (lt_irrefl _), if_pos rfl]⟩

/-- A dot is written only before an extension. -/
def hasDot : Bool := n.ext ≠ []

end ShortName

/-- The buffer holds the text and a zero. -/
def HoldsName (b : ℕ → UInt8) (text : List UInt8) : Prop := ∀ k ≤ text.length, b k = text.getD k 0

/-! ## What stays within bounds -/

/-- Only offsets up to `R` were read, and only offsets up to `W` were written. -/
structure NameBuffer.Within (R W : ℕ) (b : NameBuffer) : Prop where
  reads : ∀ k ∈ b.reads, k ≤ R
  writes : ∀ k ∈ b.writes, k ≤ W

namespace NameBuffer

variable {b : NameBuffer} {R W k : ℕ}

lemma Within.buffer (s : CString) : Within R W s.buffer :=
  ⟨fun _ h => absurd h List.not_mem_nil, fun _ h => absurd h List.not_mem_nil⟩

lemma Within.look (h : Within R W b) (hk : k ≤ R) : Within R W (b.look k) :=
  ⟨fun _ hj => (List.mem_cons.1 hj).elim (fun heq => heq ▸ hk) (h.reads _), h.writes⟩

lemma Within.write (h : Within R W b) (hk : k ≤ W) (c : UInt8) : Within R W (b.write k c) :=
  ⟨h.reads, fun _ hj => (List.mem_cons.1 hj).elim (fun heq => heq ▸ hk) (h.writes _)⟩

lemma Within.pad : ∀ {n k : ℕ} {b : NameBuffer}, Within R W b → k + n ≤ W + 1 → Within R W (b.pad n k)
  | 0, _, _, h, _ => h
  | _ + 1, _, _, h, hk => (h.write (by omega) _).pad (by omega)

@[simp] lemma look_bytes : (b.look k).bytes = b.bytes := rfl

@[simp] lemma write_bytes (c : UInt8) : (b.write k c).bytes = Function.update b.bytes k c := rfl

lemma pad_bytes : ∀ (n k : ℕ) (b : NameBuffer) (o : ℕ),
    (b.pad n k).bytes o = if k ≤ o ∧ o < k + n then 0x20 else b.bytes o
  | 0, k, b, o => by rw [pad, if_neg (by omega)]
  | n + 1, k, b, o => by
      rw [pad, pad_bytes n, write_bytes]
      by_cases ho : o = k
      · subst ho
        rw [Function.update_self, if_neg (by omega), if_pos (by omega)]
      · rw [Function.update_of_ne ho]
        split_ifs <;> first | rfl | omega

end NameBuffer

/-! ## Into an entry -/

section ToFat

variable {R W : ℕ}

/-- The loop over the base stops at the first character that ends it, or when eight are copied. -/
lemma copyBase_spec : ∀ (n i m : ℕ) (src dst : NameBuffer), i ≤ m → m ≤ i + n →
    (∀ k, i ≤ k → k < m → src.bytes k ≠ 0 ∧ src.bytes k ≠ 0x2E) →
    (m < i + n → src.bytes m = 0 ∨ src.bytes m = 0x2E) → src.Within R W → dst.Within R W → m ≤ R →
    i + n ≤ W + 1 →
    ∃ src' dst', copyBase n i src dst = (m, src', dst') ∧ src'.bytes = src.bytes ∧
      (∀ k, dst'.bytes k = if i ≤ k ∧ k < m then src.bytes k else dst.bytes k) ∧
      src'.Within R W ∧ dst'.Within R W
  | 0, i, m, src, dst, hi, hm, _, _, hsrc, hdst, _, _ => by
      obtain rfl : m = i := by omega
      refine ⟨src, dst, rfl, rfl, fun k => ?_, hsrc, hdst⟩
      rw [if_neg (by omega)]
  | n + 1, i, m, src, dst, hi, hm, hchars, hend, hsrc, hdst, hR, hW => by
      rw [copyBase]
      by_cases hlast : i = m
      · subst hlast
        rw [if_pos (hend (by omega))]
        refine ⟨src.look i, dst, rfl, rfl, fun k => ?_, hsrc.look hR, hdst⟩
        rw [if_neg (by omega)]
      · rw [if_neg (not_or.2 (hchars i le_rfl (by omega)))]
        obtain ⟨src', dst', heq, hbytes, hcopied, hsrc', hdst'⟩ := copyBase_spec n (i + 1) m
          (src.look i) (dst.write i (src.bytes i)) (by omega) (by omega)
          (fun k hk => hchars k (by omega)) (fun h => hend (by omega)) (hsrc.look (by omega))
          (hdst.write (by omega) _) hR (by omega)
        refine ⟨src', dst', heq, hbytes, fun k => ?_, hsrc', hdst'⟩
        rw [hcopied, NameBuffer.look_bytes, NameBuffer.write_bytes]
        by_cases hk : k = i
        · subst hk
          rw [Function.update_self, if_neg (by omega), if_pos (by omega)]
        · rw [Function.update_of_ne hk]
          split_ifs <;> first | rfl | omega

/-- The loop over the extension stops at the end of the name, or when three characters are copied. -/
lemma copyExt_spec : ∀ (n ptr i e : ℕ) (src dst : NameBuffer), e ≤ n →
    (∀ k < e, src.bytes (ptr + k) ≠ 0) → (e < n → src.bytes (ptr + e) = 0) → src.Within R W →
    dst.Within R W → ptr + e ≤ R → i + n ≤ W + 1 →
    ∃ src' dst', copyExt n ptr i src dst = (i + e, src', dst') ∧
      (∀ k, dst'.bytes k = if i ≤ k ∧ k < i + e then src.bytes (ptr + (k - i)) else dst.bytes k) ∧
      src'.Within R W ∧ dst'.Within R W
  | 0, ptr, i, e, src, dst, he, _, _, hsrc, hdst, _, _ => by
      obtain rfl : e = 0 := by omega
      refine ⟨src, dst, rfl, fun k => ?_, hsrc, hdst⟩
      rw [if_neg (by omega)]
  | n + 1, ptr, i, 0, src, dst, _, _, hend, hsrc, hdst, hR, _ => by
      have hzero : src.bytes ptr = 0 := hend (Nat.succ_pos n)
      rw [copyExt, if_pos hzero]
      refine ⟨src.look ptr, dst, rfl, fun k => ?_, hsrc.look (by omega), hdst⟩
      rw [if_neg (by omega)]
  | n + 1, ptr, i, e + 1, src, dst, he, hchars, hend, hsrc, hdst, hR, hW => by
      have hfirst : src.bytes ptr ≠ 0 := hchars 0 (Nat.succ_pos e)
      rw [copyExt, if_neg hfirst]
      obtain ⟨src', dst', heq, hcopied, hsrc', hdst'⟩ := copyExt_spec n (ptr + 1) (i + 1) e
        (src.look ptr) (dst.write i (src.bytes ptr)) (by omega)
        (fun k hk => by
          rw [NameBuffer.look_bytes, Nat.add_assoc, Nat.add_comm 1]
          exact hchars (k + 1) (by omega))
        (fun h => by
          rw [NameBuffer.look_bytes, Nat.add_assoc, Nat.add_comm 1]
          exact hend (by omega)) (hsrc.look (by omega)) (hdst.write (by omega) _) (by omega) (by omega)
      refine ⟨src', dst', by rw [heq, Nat.add_assoc, Nat.add_comm 1], fun k => ?_, hsrc', hdst'⟩
      rw [hcopied, NameBuffer.look_bytes, NameBuffer.write_bytes]
      by_cases hk : k = i
      · subst hk
        rw [Function.update_self, if_neg (by omega), if_pos (by omega), Nat.sub_self, Nat.add_zero]
      · rw [Function.update_of_ne hk]
        by_cases hin : i ≤ k ∧ k < i + (e + 1)
        · rw [if_pos (by omega), if_pos hin]
          congr 1
          omega
        · rw [if_neg (by omega), if_neg hin]

end ToFat

namespace ShortName

variable {P : UInt8 → Prop} (n : ShortName P) {dot : Bool} {rest : ℕ → UInt8}

lemma base_length_pos : 0 < n.base.length := List.length_pos_of_ne_nil n.base_pos

lemma text_length : (n.text dot).length = n.base.length + if dot then n.ext.length + 1 else 0 := by
  cases dot <;> simp [text]

lemma string_holds : HoldsName (n.string dot rest).bytes (n.text dot) := by
  intro k hk
  rcases Nat.lt_or_eq_of_le hk with hlt | rfl
  · exact if_pos hlt
  · show (if _ then _ else _) = _
    rw [if_neg (lt_irrefl _), if_pos rfl, List.getD_eq_default _ _ le_rfl]

lemma string_base {k : ℕ} (hk : k < n.base.length) :
    (n.string dot rest).bytes k = n.base.getD k 0x20 := by
  rw [n.string_holds k (by rw [text_length]; omega), text, List.getD_append _ _ _ _ hk,
    List.getD_eq_getElem _ _ hk, List.getD_eq_getElem _ _ hk]

lemma string_base_end :
    (n.string dot rest).bytes n.base.length = if dot then 0x2E else 0 := by
  rw [n.string_holds _ (by rw [text_length]; omega), text, List.getD_append_right _ _ _ _ le_rfl,
    Nat.sub_self]
  cases dot <;> rfl

lemma string_ext {k : ℕ} (hk : k ≤ n.ext.length) :
    (n.string true rest).bytes (n.base.length + 1 + k) = n.ext.getD k 0 := by
  rw [n.string_holds _ (by rw [text_length, if_pos rfl]; omega), text,
    List.getD_append_right _ _ _ _ (by omega)]
  have hshift : n.base.length + 1 + k - n.base.length = k + 1 := by omega
  rw [hshift]
  rfl

variable {n}

lemma base_char {k : ℕ} (hP : ∀ c, P c → NameChar c) (hk : k < n.base.length) :
    NameChar ((n.string dot rest).bytes k) := by
  rw [n.string_base hk, List.getD_eq_getElem _ _ hk]
  exact hP _ (n.base_chars _ (List.getElem_mem hk))

lemma ext_char {k : ℕ} (hP : ∀ c, P c → NameChar c) (hk : k < n.ext.length) (c : UInt8) :
    NameChar (n.ext.getD k c) := by
  rw [List.getD_eq_getElem _ _ hk]
  exact hP _ (n.ext_chars _ (List.getElem_mem hk))

/-- The string ends with its text. -/
lemma string_strlen (hP : ∀ c, P c → NameChar c) :
    (n.string dot rest).strlen = (n.text dot).length := by
  refine (Nat.find_eq_iff _).2 ⟨?_, fun k hk => ?_⟩
  · rw [n.string_holds _ le_rfl, List.getD_eq_default _ _ le_rfl]
  · rw [text_length] at hk
    rcases Nat.lt_trichotomy k n.base.length with hlt | rfl | hgt
    · exact (base_char hP hlt).1
    · rw [n.string_base_end]
      cases dot with
      | false => exact absurd hk (lt_irrefl _)
      | true => decide
    · cases dot with
      | false => exact absurd hk (by simp; omega)
      | true =>
          have hext : k = n.base.length + 1 + (k - n.base.length - 1) := by omega
          have hlt : k - n.base.length - 1 < n.ext.length := by
            rw [if_pos rfl] at hk
            omega
          rw [hext, n.string_ext (by omega)]
          exact (ext_char hP hlt 0).1

lemma first_char (hP : ∀ c, P c → NameChar c) : NameChar ((n.string dot rest).bytes 0) :=
  base_char hP n.base_length_pos

/-- **What `to_FAT_name` writes**: the entry of the name, with the source read up to its end. -/
theorem toFatName_entry (hP : ∀ c, P c → NameChar c) (hdot : n.ext ≠ [] → dot = true)
    {dst : NameBuffer} {R : ℕ} (hdst : dst.Within R 10) (hR : (n.text dot).length ≤ R)
    (rest' : ℕ → UInt8) :
    (∀ k < 11, (toFatName (n.string dot rest) dst).2.bytes k = n.entry rest' k) ∧
      (toFatName (n.string dot rest) dst).1.Within R 10 ∧
        (toFatName (n.string dot rest) dst).2.Within R 10 := by
  have hlength : (n.text dot).length = _ := n.text_length
  have hfirst : (n.string dot rest).bytes 0 ≠ 0x2E := (first_char hP).2.2
  have hregular : toFatName (n.string dot rest) dst
      = toFatRegular (((n.string dot rest).buffer.look 0).look 0) dst := by
    have hparent : strcmpSame [0x2E, 0x2E] 0 (n.string dot rest).buffer
        = (false, (n.string dot rest).buffer.look 0) := if_neg hfirst
    have hcurrent : strcmpSame [0x2E] 0 ((n.string dot rest).buffer.look 0)
        = (false, ((n.string dot rest).buffer.look 0).look 0) := if_neg hfirst
    simp only [toFatName, hparent, hcurrent, Bool.false_eq_true, if_false]
  have hsrc : NameBuffer.Within R 10 (((n.string dot rest).buffer.look 0).look 0) :=
    ((NameBuffer.Within.buffer _).look (Nat.zero_le _)).look (Nat.zero_le _)
  have hbase := n.base_le
  obtain ⟨src₁, dst₁, hcopy, hbytes, hcopied, hsrc₁, hdst₁⟩ := copyBase_spec 8 0 n.base.length
    (((n.string dot rest).buffer.look 0).look 0) dst (Nat.zero_le _) (by omega)
    (fun k _ hk => ⟨(base_char hP hk).1, (base_char hP hk).2.2⟩)
    (fun _ => by
      show (n.string dot rest).bytes _ = 0 ∨ (n.string dot rest).bytes _ = _
      rw [n.string_base_end]
      cases dot <;> simp)
    hsrc hdst (by omega) (by omega)
  have hbytes' : src₁.bytes = (n.string dot rest).bytes := hbytes
  -- where the extension begins, and its characters
  obtain ⟨ptr, hptr, hchars⟩ : ∃ ptr,
      (if (n.string dot rest).bytes n.base.length = 0x2E then n.base.length + 1 else n.base.length)
        = ptr ∧ ptr + n.ext.length ≤ (n.text dot).length ∧
      ∀ k ≤ n.ext.length, (n.string dot rest).bytes (ptr + k) = n.ext.getD k 0 := by
    refine ⟨_, rfl, ?_⟩
    rw [n.string_base_end]
    cases dot with
    | true =>
        rw [if_pos rfl, if_pos rfl]
        rw [if_pos rfl] at hlength
        exact ⟨by omega, fun k hk => n.string_ext hk⟩
    | false =>
        have hnone : n.ext = [] := by
          by_contra hne
          exact absurd (hdot hne) (by decide)
        rw [if_neg (by decide)]
        refine ⟨by rw [hnone, hlength]; simp, fun k hk => ?_⟩
        obtain rfl : k = 0 := by simpa [hnone] using hk
        rw [Nat.add_zero, n.string_base_end, hnone]
        rfl
  obtain ⟨hend, hchars⟩ := hchars
  have hext := n.ext_le
  have hsrc₂ : (src₁.look n.base.length).Within R 10 := hsrc₁.look (by omega)
  have hdst₂ : (dst₁.pad (8 - n.base.length) n.base.length).Within R 10 := hdst₁.pad (by omega)
  obtain ⟨src₃, dst₃, hcopyExt, hcopied₃, hsrc₃, hdst₃⟩ := copyExt_spec 3 ptr 8 n.ext.length
    (src₁.look n.base.length) (dst₁.pad (8 - n.base.length) n.base.length) hext
    (fun k hk => by
      rw [NameBuffer.look_bytes, hbytes', hchars k hk.le]
      exact (ext_char hP hk 0).1)
    (fun _ => by
      rw [NameBuffer.look_bytes, hbytes', hchars _ le_rfl, List.getD_eq_default _ _ le_rfl])
    hsrc₂ hdst₂ (by omega) (by omega)
  have hresult : toFatName (n.string dot rest) dst
      = (src₃, dst₃.pad (11 - (8 + n.ext.length)) (8 + n.ext.length)) := by
    rw [hregular, toFatRegular]
    simp only [hcopy, NameBuffer.look_bytes, hbytes', hptr, hcopyExt]
  rw [hresult]
  refine ⟨fun k hk => ?_, hsrc₃, hdst₃.pad (by omega)⟩
  simp only [NameBuffer.pad_bytes, hcopied₃, hcopied, entry, NameBuffer.look_bytes, hbytes']
  by_cases hk8 : k < 8
  · rw [if_neg (by omega), if_neg (by omega), if_pos hk8]
    by_cases hkm : k < n.base.length
    · rw [if_neg (by omega), if_pos ⟨Nat.zero_le _, hkm⟩]
      exact n.string_base hkm
    · rw [if_pos (by omega), List.getD_eq_default _ _ (by omega)]
  · rw [if_neg hk8, if_pos hk]
    by_cases hke : k - 8 < n.ext.length
    · rw [if_neg (by omega), if_pos (by omega), hchars _ hke.le, List.getD_eq_getElem _ _ hke,
        List.getD_eq_getElem _ _ hke]
    · rw [if_pos (by omega), List.getD_eq_default _ _ (by omega)]

end ShortName

/-! ## Out of an entry -/

/-- The characters without the spaces at their end. -/
lemma trimmed_eq {src : ℕ → UInt8} {lo m : ℕ} : ∀ {N : ℕ}, m ≤ N →
    (∀ k, m ≤ k → k < N → src (lo + k) = 0x20) → (∀ k, k + 1 = m → src (lo + k) ≠ 0x20) →
    trimmed src lo N = m
  | 0, hm, _, _ => (Nat.le_zero.1 hm).symm
  | N + 1, hm, hspaces, hlast => by
      rw [trimmed]
      by_cases heq : m = N + 1
      · rw [if_neg (hlast N heq.symm), heq]
      · rw [if_pos (hspaces N (by omega) (Nat.lt_succ_self N))]
        exact trimmed_eq (by omega) (fun k hk hN => hspaces k hk (by omega)) hlast

lemma copyChars_inside {src dst : ℕ → UInt8} {lo n k o : ℕ} (ho : k ≤ o ∧ o < k + n) :
    copyChars src lo n k dst o = src (lo + (o - k)) := if_pos ho

lemma copyChars_outside {src dst : ℕ → UInt8} {lo n k o : ℕ} (ho : ¬(k ≤ o ∧ o < k + n)) :
    copyChars src lo n k dst o = dst o := if_neg ho

namespace ShortName

variable {P : UInt8 → Prop} {n : ShortName P} {rest dst : ℕ → UInt8}

lemma entry_base {k : ℕ} (hk : k < n.base.length) : n.entry rest k = n.base.getD k 0 := by
  have hbase := n.base_le
  rw [entry, if_pos (by omega), List.getD_eq_getElem _ _ hk, List.getD_eq_getElem _ _ hk]

lemma entry_ext {k : ℕ} (hk : k < n.ext.length) : n.entry rest (8 + k) = n.ext.getD k 0 := by
  have hext := n.ext_le
  rw [entry, if_neg (by omega), if_pos (by omega), Nat.add_sub_cancel_left,
    List.getD_eq_getElem _ _ hk, List.getD_eq_getElem _ _ hk]

lemma base_getD (hP : ∀ c, P c → NameChar c) {k : ℕ} (hk : k < n.base.length) :
    NameChar (n.base.getD k 0) := by
  rw [List.getD_eq_getElem _ _ hk]
  exact hP _ (n.base_chars _ (List.getElem_mem hk))

/-- The base of an entry. -/
lemma trimmed_base (hP : ∀ c, P c → NameChar c) : trimmed (n.entry rest) 0 8 = n.base.length := by
  refine trimmed_eq n.base_le (fun k hk hk8 => ?_) fun k hk => ?_
  · rw [Nat.zero_add, entry, if_pos hk8, List.getD_eq_default _ _ hk]
  · rw [Nat.zero_add, entry_base (by omega)]
    exact (base_getD hP (by omega)).2.1

/-- The extension of an entry. -/
lemma trimmed_ext (hP : ∀ c, P c → NameChar c) : trimmed (n.entry rest) 8 3 = n.ext.length := by
  refine trimmed_eq n.ext_le (fun k hk hk3 => ?_) fun k hk => ?_
  · rw [entry, if_neg (by omega), if_pos (by omega), Nat.add_sub_cancel_left,
      List.getD_eq_default _ _ hk]
  · rw [entry_ext (by omega)]
    exact (ext_char hP (by omega) 0).2.1

/-- **What `from_FAT_name` writes**, if it writes. -/
theorem fromFatName_text (hP : ∀ c, P c → NameChar c) (hdst : dst 0 ≠ 0) :
    HoldsName (fromFatName (n.entry rest) dst) (n.text n.hasDot) := by
  have hpos := n.base_length_pos
  have hfirst : NameChar (n.entry rest 0) := by
    rw [entry_base hpos]
    exact base_getD hP hpos
  have hbase : ∀ k < n.base.length,
      copyChars (n.entry rest) 0 n.base.length 0 dst k = n.base.getD k 0 := fun k hk => by
    rw [copyChars_inside (by omega), Nat.sub_zero, Nat.zero_add, entry_base hk]
  simp only [fromFatName, trimmed_base hP, trimmed_ext hP]
  rw [if_neg hfirst.1, if_neg hdst, if_pos hfirst.2.2, if_pos hfirst.2.2]
  by_cases hext : n.ext = []
  · have hdot : n.hasDot = false := by simp [hasDot, hext]
    have hzero : Function.update (copyChars (n.entry rest) 0 n.base.length 0 dst) n.base.length 0x2E 0
        ≠ 0x2E := by
      rw [Function.update_of_ne hpos.ne, hbase 0 hpos]
      exact (base_getD hP hpos).2.2
    rw [if_pos (by rw [hext]; rfl), if_neg (by omega), if_neg hzero, Nat.add_sub_cancel]
    intro k hk
    rw [text_length, hdot, if_neg (by decide), Nat.add_zero] at hk
    rw [hdot, text, if_neg (by decide), List.append_nil]
    rcases Nat.lt_or_eq_of_le hk with hlt | rfl
    · rw [Function.update_of_ne hlt.ne, Function.update_of_ne hlt.ne, hbase k hlt]
    · rw [Function.update_self, List.getD_eq_default _ _ le_rfl]
  · have hdot : n.hasDot = true := by simp [hasDot, hext]
    rw [if_neg (fun h => hext (List.length_eq_zero_iff.1 h))]
    intro k hk
    rw [text_length, hdot, if_pos rfl] at hk
    rw [hdot, text, if_pos rfl]
    by_cases hend : k = n.base.length + 1 + n.ext.length
    · rw [hend, Function.update_self, List.getD_eq_default]
      simp
      omega
    rw [Function.update_of_ne hend]
    rcases Nat.lt_trichotomy k n.base.length with hlt | rfl | hgt
    · rw [copyChars_outside (by omega), Function.update_of_ne hlt.ne, hbase k hlt,
        List.getD_append _ _ _ _ hlt]
    · rw [copyChars_outside (by omega), Function.update_self, List.getD_append_right _ _ _ _ le_rfl,
        Nat.sub_self]
      rfl
    · have hshift : k - n.base.length = k - (n.base.length + 1) + 1 := by omega
      rw [copyChars_inside (by omega), entry_ext (by omega), List.getD_append_right _ _ _ _ hgt.le,
        hshift]
      rfl

/-- `from_FAT_name` gives the name exactly if it writes at all. -/
lemma fromFatName_iff (hP : ∀ c, P c → NameChar c) :
    HoldsName (fromFatName (n.entry rest) dst) (n.text n.hasDot) ↔ dst 0 ≠ 0 := by
  refine ⟨fun h hzero => ?_, fromFatName_text hP⟩
  have hpos := n.base_length_pos
  have hsame : fromFatName (n.entry rest) dst = dst := by
    rw [fromFatName, if_pos hzero]
    exact ite_self _
  have hstart := h 0 (Nat.zero_le _)
  rw [hsame, hzero, text, List.getD_append _ _ _ _ hpos] at hstart
  exact (base_getD hP hpos).1 hstart.symm

end ShortName

/-! ## The round trip -/

/-- **The two functions one after the other**, for every name that fits in an entry: out of the entry
comes the name, and back out of the name's entry, exactly if the destination does not begin with a
zero; and into the entry always. -/
theorem fatName_roundTrip (n : ShortName NameChar) (rest rest' dst : ℕ → UInt8) (mid : ℕ → UInt8) :
    (HoldsName (fromFatName (n.entry rest) dst) (n.text n.hasDot) ↔ dst 0 ≠ 0) ∧
      (∀ k < 11, (toFatName (n.string n.hasDot rest') ⟨mid, [], []⟩).2.bytes k = n.entry rest k) ∧
      (HoldsName (fromFatName (toFatName (n.string n.hasDot rest') ⟨mid, [], []⟩).2.bytes dst)
        (n.text n.hasDot) ↔ dst 0 ≠ 0) := by
  have hdot : n.ext ≠ [] → n.hasDot = true := fun h => by simp [ShortName.hasDot, h]
  have hmid : NameBuffer.Within (n.text n.hasDot).length 10 ⟨mid, [], []⟩ :=
    ⟨fun _ h => absurd h List.not_mem_nil, fun _ h => absurd h List.not_mem_nil⟩
  have hentry : ∀ rest₁, ∀ k < 11,
      (toFatName (n.string n.hasDot rest') ⟨mid, [], []⟩).2.bytes k = n.entry rest₁ k := fun rest₁ =>
    (ShortName.toFatName_entry (fun _ h => h) hdot hmid le_rfl rest₁).1
  refine ⟨ShortName.fromFatName_iff fun _ h => h, hentry rest, ?_⟩
  have hwhole : (toFatName (n.string n.hasDot rest') ⟨mid, [], []⟩).2.bytes
      = n.entry (toFatName (n.string n.hasDot rest') ⟨mid, [], []⟩).2.bytes := by
    funext k
    by_cases hk : k < 11
    · exact hentry _ k hk
    · rw [ShortName.entry, if_neg (by omega), if_neg hk]
  rw [hwhole]
  exact ShortName.fromFatName_iff fun _ h => h

/-- Into a buffer of zeros nothing is written. -/
theorem fatName_roundTrip_fails : ¬∀ (n : ShortName NameChar) (rest dst : ℕ → UInt8),
    HoldsName (fromFatName (n.entry rest) dst) (n.text n.hasDot) := by
  intro hall
  let n : ShortName NameChar :=
    { base := [0x41]
      ext := []
      base_pos := List.cons_ne_nil _ _
      base_le := by decide
      ext_le := by decide
      base_chars := fun c hc => List.mem_singleton.1 hc ▸ ⟨by decide, by decide, by decide⟩
      ext_chars := fun c hc => absurd hc List.not_mem_nil }
  have hstart : (0 : UInt8) = 0x41 := hall n (fun _ => 0) (fun _ => 0) 0 (Nat.zero_le _)
  exact absurd hstart (by decide)

end Gramado
