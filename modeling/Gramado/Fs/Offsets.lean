import Gramado.Lib.Run
import Gramado.Fs.File

/-!
# The offsets of an open file

An open file keeps its position four times: as the read and the write offset, as the working
pointer, and as the room that is left.  `OffsetsOk` says how the four belong together and that no
copy has left the buffer; `fileStep` is one call on the file.

Reading and writing keep `OffsetsOk` unconditionally (`OffsetsOk.read`, `OffsetsOk.write`).  A seek
moves offsets and pointer but never the room that is left, and so does the resetting request, so
they keep it only where the write offset does not really move: `SeekKeeps`.
`offsetsOk_iff_seekKeeps` follows both through whole runs.
-/

namespace Gramado

open StepRun

/-- **The four positions of an open file agree, and no copy has left its buffer.** -/
structure OffsetsOk (s : OpenFile) : Prop where
  r_nonneg : 0 ≤ s.file.r
  r_le_w : s.file.r ≤ s.file.w
  w_le : s.file.w ≤ s.file.lbfsize
  /-- `_lbfsize` is an `int`. -/
  lbfsize_int : s.file.lbfsize < 2 ^ 31
  base_le_p : s.file.base ≤ s.file.p
  p_le : s.file.p ≤ s.file.base + s.file.lbfsize
  cnt_eq : s.file.cnt = s.file.lbfsize - s.file.w
  copies : s.mem.UsedWithin s.file.base (s.file.base + s.file.lbfsize)

/-- A call on an open file. -/
inductive FileCall where
  | read (buffer : ℕ) (len : ℤ)
  | write (string : UserBytes) (len : ℤ)
  | seek (offset whence : ℤ)
  | setSync (request data : ℤ)

/-- One call on an open file. -/
def fileStep (s : OpenFile) : FileCall → Except Fault OpenFile
  | .read buffer len => .ok (fileReadBuffer buffer len s).after
  | .write string len => .ok (fileWriteBuffer string len s).after
  | .seek offset whence =>
      match kFseek offset whence s with
      | .ok (_, s') => .ok s'
      | .error f => .error f
  | .setSync request data => .ok { s with file := setFileSync request data s.file }

/-! ## Reading -/

lemma not_isUnbuffered {object : ObjectType} (hobj : hasOffsets object) :
    ¬ isUnbuffered object := by
  rcases hobj with rfl | rfl | rfl <;> decide

/-- The checks that make `fileReadBuffer` give up on a file with offsets in order. -/
def ReadRefused (buffer : ℕ) (len : ℤ) (f : File) : Prop :=
  f.used ≠ TRUE ∨ f.magic ≠ 1234 ∨ buffer = 0 ∨ len % 0x10000 ≤ 0 ∨
    f.lbfsize < len % 0x10000 ∨ 8 * 1024 < f.lbfsize

lemma fileReadBuffer_refused {s : OpenFile} {buffer : ℕ} {len : ℤ}
    (hobj : hasOffsets s.file.object) (href : ReadRefused buffer len s.file) :
    fileReadBuffer buffer len s = ⟨EOF, [], s⟩ := by
  dsimp only [fileReadBuffer]
  rw [if_neg (not_isUnbuffered hobj), if_pos hobj]
  rcases href with h | h | h | h | h | h
  · rw [if_pos (Or.inl h)]
  · rw [if_pos (Or.inr h)]
  · rw [if_pos h, ite_self]
  · rw [if_pos h, ite_self, ite_self]
  · rw [if_pos (show len % 0x10000 > s.file.lbfsize from h), ite_self, ite_self, ite_self]
  · rw [if_pos (show s.file.lbfsize > 8 * 1024 from h)]
    simp only [ite_self]

lemma fileReadBuffer_passed {s : OpenFile} {buffer : ℕ} {len : ℤ}
    (hobj : hasOffsets s.file.object) (hok : OffsetsOk s)
    (hpass : ¬ ReadRefused buffer len s.file) :
    fileReadBuffer buffer len s = readFromOffset (len % 0x10000) s := by
  have hr := hok.r_nonneg
  have hrw := hok.r_le_w
  have hw := hok.w_le
  simp only [ReadRefused, not_or, not_le, not_lt] at hpass
  obtain ⟨hused, hmagic, hbuffer, hpos, hle, hlb⟩ := hpass
  dsimp only [fileReadBuffer]
  rw [if_neg (not_isUnbuffered hobj), if_pos hobj]
  rw [if_neg (by tauto), if_neg hbuffer, if_neg (by omega), if_neg (by omega), if_neg (by omega),
    if_neg (by omega), if_neg (by omega), if_neg (by omega), if_neg (by omega),
    if_neg (by omega)]

/-- The state of a file after `n` bytes were read at the read offset. -/
def afterRead (n : ℕ) (s : OpenFile) : OpenFile where
  file := { s.file with
    p := s.file.base + s.file.r + n
    r := s.file.r + n
    flags := s.file.flags ||| SWR
    sync := { s.file.sync with canWrite := TRUE } }
  mem := (s.mem.load (s.file.base + s.file.r) n).2

/-- The copy at the read offset takes what was asked for, or all that is unread. -/
lemma readFromOffset_eq {s : OpenFile} {count : ℤ} {n : ℕ}
    (hn : (n : ℤ) = min count (s.file.w - s.file.r)) (hpos : 0 < n) :
    readFromOffset count s = ⟨n, s.mem.slice (s.file.base + s.file.r) n, afterRead n s⟩ := by
  have hcount : (if count > s.file.w - s.file.r then s.file.w - s.file.r else count) = (n : ℤ) := by
    split_ifs <;> omega
  unfold readFromOffset
  simp only [hcount]
  rw [if_neg (by omega), if_neg (by omega)]
  simp only [Int.toNat_natCast]
  rw [if_neg (by omega)]
  rfl

/-- **A read of a file with offsets**: nothing at all, or the next `n` unread bytes. -/
lemma fileReadBuffer_cases {s : OpenFile} (hobj : hasOffsets s.file.object) (hok : OffsetsOk s)
    (buffer : ℕ) (len : ℤ) :
    (∃ ret ≤ 0, fileReadBuffer buffer len s = ⟨ret, [], s⟩) ∨
      ∃ n : ℕ, 0 < n ∧ s.file.r + n ≤ s.file.w ∧
        fileReadBuffer buffer len s
          = ⟨n, s.mem.slice (s.file.base + s.file.r) n, afterRead n s⟩ := by
  by_cases href : ReadRefused buffer len s.file
  · exact Or.inl ⟨EOF, by decide, fileReadBuffer_refused hobj href⟩
  · rw [fileReadBuffer_passed hobj hok href]
    have hrw := hok.r_le_w
    have hpos : 0 < len % 0x10000 := by
      simp only [ReadRefused, not_or] at href
      omega
    by_cases hdelta : s.file.w - s.file.r = 0
    · exact Or.inl ⟨0, le_refl 0, by simp [readFromOffset, hdelta]⟩
    · obtain ⟨n, hn⟩ : ∃ n : ℕ, (n : ℤ) = min (len % 0x10000) (s.file.w - s.file.r) :=
        ⟨(min (len % 0x10000) (s.file.w - s.file.r)).toNat, by omega⟩
      exact Or.inr ⟨n, by omega, by omega, readFromOffset_eq hn (by omega)⟩

lemma OffsetsOk.afterRead {s : OpenFile} (hok : OffsetsOk s) {n : ℕ}
    (hle : s.file.r + n ≤ s.file.w) : OffsetsOk (afterRead n s) := by
  obtain ⟨hr, hrw, hw, hint, hp, hp', hcnt, hcopies⟩ := hok
  exact ⟨by simp only [Gramado.afterRead]; omega, hle, hw, hint,
    by simp only [Gramado.afterRead]; omega, by simp only [Gramado.afterRead]; omega, hcnt,
    hcopies.load (by omega) (by omega)⟩

/-- Reading keeps the offsets in order. -/
lemma OffsetsOk.read {s : OpenFile} (hok : OffsetsOk s) (hobj : hasOffsets s.file.object)
    (buffer : ℕ) (len : ℤ) : OffsetsOk (fileReadBuffer buffer len s).after := by
  rcases fileReadBuffer_cases hobj hok buffer len with ⟨ret, -, heq⟩ | ⟨n, -, hle, heq⟩
  · rw [heq]
    exact hok
  · rw [heq]
    exact hok.afterRead hle

/-! ## Writing -/

/-- The state of a file after the full-buffer branch of a write: both offsets at the end. -/
def afterFull (s : OpenFile) : OpenFile :=
  { s with file := { s.file with
      w := s.file.lbfsize, r := s.file.lbfsize, p := s.file.base + s.file.lbfsize, cnt := 0 } }

/-- The state of a file after the first `n` of `bytes` were written at the write offset. -/
def afterWrite (bytes : ℕ → UInt8) (n : ℕ) (s : OpenFile) : OpenFile where
  file := { s.file with
    p := s.file.base + s.file.w + n
    w := s.file.w + n
    cnt := s.file.cnt - n
    flags := SRD
    sync := { s.file.sync with canRead := TRUE } }
  mem := s.mem.store (s.file.base + s.file.w) (firstBytes bytes n)

/-- The copy at the write offset, when the bytes fit. -/
lemma writeAtOffset_eq {s : OpenFile} (hok : OffsetsOk s) {bytes : ℕ → UInt8} {n : ℕ}
    (hfit : s.file.w + n ≤ s.file.lbfsize) :
    writeAtOffset bytes n s = ⟨n, afterWrite bytes n s⟩ := by
  obtain ⟨hr, hrw, hw, hint, hp, hp', hcnt, hcopies⟩ := hok
  have hlen : memcpyLen n = n := by
    rw [memcpyLen_eq (by omega) (by omega), Int.toNat_natCast]
  have hw' : toInt32 (s.file.w + n) = s.file.w + n := toInt32_of_range (by omega) (by omega)
  have hcnt' : toInt32 (s.file.cnt - n) = s.file.cnt - n :=
    toInt32_of_range (by omega) (by omega)
  have hwr : ¬ s.file.w < s.file.r := by omega
  simp only [writeAtOffset, hwr, if_false, hlen, hw', hcnt']
  rfl

/-- **A write to a file with offsets**: nothing at all, the full-buffer branch, which only a buffer
shorter than `BUFSIZ` reaches, or `n` bytes at the write offset. -/
lemma fileWriteBuffer_cases {s : OpenFile} (hobj : hasOffsets s.file.object) (hok : OffsetsOk s)
    (string : UserBytes) (len : ℤ) :
    fileWriteBuffer string len s = ⟨EOF, s⟩ ∨
      (s.file.lbfsize < BUFSIZ ∧ s.file.w = s.file.lbfsize ∧
        fileWriteBuffer string len s = ⟨-1, afterFull s⟩) ∨
      ∃ (bytes : ℕ → UInt8) (n : ℕ), string = some bytes ∧ s.file.w + n ≤ s.file.lbfsize ∧
        s.file.lbfsize ≤ BUFSIZ ∧ fileWriteBuffer string len s = ⟨n, afterWrite bytes n s⟩ := by
  have hr := hok.r_nonneg
  have hrw := hok.r_le_w
  have hw := hok.w_le
  have hcnt := hok.cnt_eq
  cases string with
  | none => exact Or.inl rfl
  | some bytes =>
      dsimp only [fileWriteBuffer]
      rw [if_neg (not_isUnbuffered hobj), if_pos hobj]
      by_cases hlong : len ≥ BUFSIZ
      · rw [if_pos hlong]
        exact Or.inl rfl
      rw [if_neg hlong]
      by_cases hlarge : s.file.lbfsize > BUFSIZ
      · rw [if_pos hlarge]
        exact Or.inl rfl
      rw [if_neg hlarge, if_neg (by omega)]
      by_cases hend : s.file.w ≥ BUFSIZ
      · -- the offset is already at the end: the branch stores what is there
        left
        have hend' : s.file.w = BUFSIZ := by omega
        have hzero : s.file.cnt = 0 := by omega
        rw [if_pos hend, ← hend', ← hzero]
      · rw [if_neg hend, if_neg (by omega), if_neg (show ¬ s.file.cnt > s.file.lbfsize by omega)]
        by_cases hneg : len < 0
        · rw [if_pos hneg]
          exact Or.inl rfl
        rw [if_neg hneg]
        by_cases hshort : len > s.file.cnt
        · rw [if_pos hshort]
          by_cases hfull : s.file.cnt ≤ 0
          · rw [if_pos hfull]
            exact Or.inr (Or.inl ⟨by omega, by omega, rfl⟩)
          · rw [if_neg hfull]
            obtain ⟨n, hn⟩ : ∃ n : ℕ, s.file.cnt = n := ⟨s.file.cnt.toNat, by omega⟩
            have hfit : s.file.w + n ≤ s.file.lbfsize := by omega
            rw [hn]
            exact Or.inr (Or.inr ⟨bytes, n, rfl, hfit, by omega, writeAtOffset_eq hok hfit⟩)
        · rw [if_neg hshort]
          obtain ⟨n, rfl⟩ : ∃ n : ℕ, len = n := ⟨len.toNat, by omega⟩
          have hfit : s.file.w + n ≤ s.file.lbfsize := by omega
          exact Or.inr (Or.inr ⟨bytes, n, rfl, hfit, by omega, writeAtOffset_eq hok hfit⟩)

lemma OffsetsOk.afterWrite {s : OpenFile} (hok : OffsetsOk s) {bytes : ℕ → UInt8} {n : ℕ}
    (hfit : s.file.w + n ≤ s.file.lbfsize) : OffsetsOk (afterWrite bytes n s) := by
  obtain ⟨hr, hrw, hw, hint, hp, hp', hcnt, hcopies⟩ := hok
  have hlen := firstBytes_length bytes n
  exact ⟨hr, by simp only [Gramado.afterWrite]; omega, hfit, hint,
    by simp only [Gramado.afterWrite]; omega, by simp only [Gramado.afterWrite]; omega,
    by simp only [Gramado.afterWrite]; omega,
    hcopies.store (by omega) (by omega)⟩

lemma OffsetsOk.afterFull {s : OpenFile} (hok : OffsetsOk s) : OffsetsOk (afterFull s) := by
  obtain ⟨hr, hrw, hw, hint, hp, hp', hcnt, hcopies⟩ := hok
  exact ⟨by simp only [Gramado.afterFull]; omega, le_refl _, le_refl _, hint,
    by simp only [Gramado.afterFull]; omega, le_refl _,
    by simp only [Gramado.afterFull]; omega, hcopies⟩

/-- Writing keeps the offsets in order. -/
lemma OffsetsOk.write {s : OpenFile} (hok : OffsetsOk s) (hobj : hasOffsets s.file.object)
    (string : UserBytes) (len : ℤ) : OffsetsOk (fileWriteBuffer string len s).after := by
  rcases fileWriteBuffer_cases hobj hok string len with
    heq | ⟨-, -, heq⟩ | ⟨bytes, n, -, hfit, -, heq⟩
  · rw [heq]
    exact hok
  · rw [heq]
    exact hok.afterFull
  · rw [heq]
    exact hok.afterWrite hfit

/-! ## Seeking -/

/-- Where a seek puts the write offset: `none` for the clearing seek and for the whences that
`kFseek` refuses. -/
def seekTarget (offset whence : ℤ) (f : File) : Option ℤ :=
  if whence = SEEK_SET then some (min (max offset 0) f.cnt)
  else if whence = SEEK_CUR then some (f.p + min offset f.cnt - f.base)
  else if whence = SEEK_END then some (f.fsize + min offset 0)
  else none

/-- **What a call needs to keep the positions together**: a seek goes where the write offset
already is, clearing finds a buffer of `BUFSIZ` bytes, resetting finds the write offset at 0. -/
def SeekKeeps (s : OpenFile) : FileCall → Prop
  | .read _ _ => True
  | .write _ _ => True
  | .seek offset whence =>
      (∀ t, seekTarget offset whence s.file = some t → t = s.file.w) ∧
        (whence = GRAMADO_SEEK_CLEAR → BUFSIZ ≤ s.file.lbfsize)
  | .setSync request _ => request = 216 → s.file.w = 0

/-- **What a seek can do**: refuse and change nothing, move to its target, or clear the buffer. -/
lemma kFseek_cases {s s' : OpenFile} {offset whence ret : ℤ}
    (h : kFseek offset whence s = .ok (ret, s')) :
    (s' = s ∧ seekTarget offset whence s.file = none ∧ whence ≠ GRAMADO_SEEK_CLEAR) ∨
      (∃ t, seekTarget offset whence s.file = some t ∧ whence ≠ GRAMADO_SEEK_CLEAR ∧
        s' = seekTo t (s.file.base + t) s) ∨
      (whence = GRAMADO_SEEK_CLEAR ∧ seekTarget offset whence s.file = none ∧
        s' = ⟨{ s.file with p := s.file.base, r := 0, w := 0, cnt := s.file.lbfsize },
          s.mem.store s.file.base (List.replicate BUFSIZ.toNat 0)⟩) := by
  unfold kFseek at h
  by_cases hneg : whence < 0
  · rw [if_pos hneg] at h
    obtain ⟨-, rfl⟩ : -1 = ret ∧ s = s' := by simpa using h
    have hne (n : ℤ) (hn : 0 ≤ n) : whence ≠ n := by omega
    refine Or.inl ⟨rfl, ?_, hne _ (by decide)⟩
    simp only [seekTarget, hne SEEK_SET (by decide), hne SEEK_CUR (by decide),
      hne SEEK_END (by decide), if_false]
  rw [if_neg hneg] at h
  by_cases hset : whence = SEEK_SET
  · subst hset
    rw [if_pos rfl] at h
    obtain ⟨-, rfl⟩ := by simpa using h
    refine Or.inr (Or.inl ⟨_, if_pos rfl, by decide, ?_⟩)
    congr 1 <;> split_ifs <;> omega
  rw [if_neg hset] at h
  by_cases hcur : whence = SEEK_CUR
  · subst hcur
    rw [if_pos rfl] at h
    obtain ⟨-, rfl⟩ := by simpa using h
    refine Or.inr (Or.inl ⟨_, rfl, by decide, ?_⟩)
    congr 1 <;> split_ifs <;> omega
  rw [if_neg hcur] at h
  by_cases hend : whence = SEEK_END
  · subst hend
    rw [if_pos rfl] at h
    have hmin : (if offset > 0 then 0 else offset) = min offset 0 := by split_ifs <;> omega
    simp only [hmin] at h
    split_ifs at h
    obtain ⟨-, rfl⟩ := by simpa using h
    exact Or.inr (Or.inl ⟨_, rfl, by decide, rfl⟩)
  rw [if_neg hend] at h
  have hnone : seekTarget offset whence s.file = none := by
    simp only [seekTarget, hset, hcur, hend, if_false]
  by_cases hclear : whence = GRAMADO_SEEK_CLEAR
  · rw [if_pos hclear] at h
    obtain ⟨-, rfl⟩ := by simpa using h
    exact Or.inr (Or.inr ⟨hclear, hnone, rfl⟩)
  · rw [if_neg hclear] at h
    obtain ⟨-, rfl⟩ : -1 = ret ∧ s = s' := by simpa using h
    exact Or.inl ⟨rfl, hnone, hclear⟩

/-- Moving both offsets keeps the positions together exactly when the write offset stays. -/
lemma OffsetsOk.seekTo_iff {s : OpenFile} (hok : OffsetsOk s) (t : ℤ) :
    OffsetsOk (seekTo t (s.file.base + t) s) ↔ t = s.file.w := by
  obtain ⟨hr, hrw, hw, hint, hp, hp', hcnt, hcopies⟩ := hok
  constructor
  · intro h
    have hlo := h.base_le_p
    have hhi := h.p_le
    have hroom := h.cnt_eq
    simp only [seekTo] at hlo hhi hroom
    rw [toInt32_of_range (by omega) (by omega)] at hroom
    omega
  · rintro rfl
    have ht : toInt32 s.file.w = s.file.w := toInt32_of_range (by omega) (by omega)
    exact ⟨by simp only [seekTo, ht]; omega, le_refl _, by simp only [seekTo, ht]; omega, hint,
      by simp only [seekTo]; omega, by simp only [seekTo]; omega,
      by simp only [seekTo, ht]; omega, hcopies⟩

/-- Clearing keeps the positions together exactly when the buffer has the `BUFSIZ` bytes that are
cleared. -/
lemma OffsetsOk.clear_iff {s : OpenFile} (hok : OffsetsOk s) :
    OffsetsOk ⟨{ s.file with p := s.file.base, r := 0, w := 0, cnt := s.file.lbfsize },
      s.mem.store s.file.base (List.replicate BUFSIZ.toNat 0)⟩ ↔ BUFSIZ ≤ s.file.lbfsize := by
  obtain ⟨hr, hrw, hw, hint, hp, hp', hcnt, hcopies⟩ := hok
  have hlen : ((List.replicate BUFSIZ.toNat (0 : UInt8)).length : ℤ) = BUFSIZ := by
    simp only [List.length_replicate, BUFSIZ]
    rfl
  constructor
  · intro h
    have hused := h.copies.of_store.2
    simp only at hused
    omega
  · intro h
    exact ⟨le_refl _, le_refl _, by simp only; omega, hint, le_refl _, by simp only; omega,
      by simp only; omega, hcopies.store (le_refl _) (by omega)⟩

/-- The resetting request keeps the positions together exactly when the write offset is 0; the
other requests always do. -/
lemma OffsetsOk.setFileSync_iff {s : OpenFile} (hok : OffsetsOk s) (request data : ℤ) :
    OffsetsOk { s with file := setFileSync request data s.file } ↔
      (request = 216 → s.file.w = 0) := by
  obtain ⟨hr, hrw, hw, hint, hp, hp', hcnt, hcopies⟩ := hok
  by_cases hreset : request = 216
  · subst hreset
    simp only [setFileSync, SYNC_REQUEST_SET_ACTION, forall_const]
    constructor
    · intro h
      have hroom := h.cnt_eq
      simp only [kRewind] at hroom
      simp at hroom
      omega
    · intro h
      exact ⟨le_refl _, le_refl _, by simp [kRewind]; omega, hint, le_refl _,
        by simp [kRewind]; omega, by simp [kRewind]; omega, hcopies⟩
  · refine iff_of_true ?_ (fun h => absurd h hreset)
    simp only [setFileSync, if_neg hreset]
    split_ifs <;> exact ⟨hr, hrw, hw, hint, hp, hp', hcnt, hcopies⟩

/-! ## One call and whole runs -/

/-- **A call keeps the positions together exactly when `SeekKeeps` holds.** -/
lemma OffsetsOk.step_iff {s s' : OpenFile} {c : FileCall} (hok : OffsetsOk s)
    (hobj : hasOffsets s.file.object) (hstep : fileStep s c = .ok s') :
    OffsetsOk s' ↔ SeekKeeps s c := by
  cases c with
  | read buffer len =>
      obtain rfl : _ = s' := by simpa [fileStep] using hstep
      exact iff_of_true (hok.read hobj buffer len) trivial
  | write string len =>
      obtain rfl : _ = s' := by simpa [fileStep] using hstep
      exact iff_of_true (hok.write hobj string len) trivial
  | seek offset whence =>
      simp only [fileStep] at hstep
      split at hstep
      · rename_i ret t hseek
        obtain rfl : t = s' := by simpa using hstep
        rcases kFseek_cases hseek with ⟨rfl, hnone, hclear⟩ | ⟨u, hsome, hclear, rfl⟩ |
          ⟨hclear, hnone, rfl⟩
        · exact iff_of_true hok ⟨by simp [hnone], fun h => absurd h hclear⟩
        · rw [hok.seekTo_iff]
          exact ⟨fun h => ⟨by simp [hsome, h], fun h' => absurd h' hclear⟩, fun h => h.1 u hsome⟩
        · rw [hok.clear_iff]
          exact ⟨fun h => ⟨by simp [hnone], fun _ => h⟩, fun h => h.2 hclear⟩
      · exact absurd hstep (by simp)
  | setSync request data =>
      obtain rfl : _ = s' := by simpa [fileStep] using hstep
      exact hok.setFileSync_iff request data

/-- No call changes what kind of object a file is. -/
lemma fileStep_object {s s' : OpenFile} {c : FileCall} (hok : OffsetsOk s)
    (hobj : hasOffsets s.file.object) (hstep : fileStep s c = .ok s') :
    s'.file.object = s.file.object := by
  cases c with
  | read buffer len =>
      obtain rfl : _ = s' := by simpa [fileStep] using hstep
      rcases fileReadBuffer_cases hobj hok buffer len with ⟨_, _, heq⟩ | ⟨_, _, _, heq⟩
      · rw [heq]
      · rw [heq]
        rfl
  | write string len =>
      obtain rfl : _ = s' := by simpa [fileStep] using hstep
      rcases fileWriteBuffer_cases hobj hok string len with
        heq | ⟨_, _, heq⟩ | ⟨_, _, _, _, _, heq⟩
      · rw [heq]
      · rw [heq]
        rfl
      · rw [heq]
        rfl
  | seek offset whence =>
      simp only [fileStep] at hstep
      split at hstep
      · rename_i ret t hseek
        obtain rfl : t = s' := by simpa using hstep
        rcases kFseek_cases hseek with ⟨rfl, _⟩ | ⟨_, _, _, rfl⟩ | ⟨_, _, rfl⟩ <;> rfl
      · exact absurd hstep (by simp)
  | setSync request data =>
      obtain rfl : _ = s' := by simpa [fileStep] using hstep
      simp only [setFileSync, kRewind]
      split_ifs <;> rfl

/-- **The positions agree in every state of a run exactly when every seek and every reset of the run
leaves the write offset where it is.** -/
theorem offsetsOk_iff_seekKeeps (s : OpenFile) (hobj : hasOffsets s.file.object)
    (hok : OffsetsOk s) (calls : List FileCall) :
    Along fileStep OffsetsOk s calls ↔ Meets fileStep SeekKeeps s calls := by
  refine along_iff_meets (fun s => OffsetsOk s ∧ hasOffsets s.file.object) (fun _ h => h.1) ?_ ?_
    calls s ⟨hok, hobj⟩
  · rintro t c t' ⟨ht, htobj⟩ hstep
    exact ht.step_iff htobj hstep
  · rintro t c t' ⟨ht, htobj⟩ hkeeps hstep
    exact ⟨(ht.step_iff htobj hstep).2 hkeeps, by rwa [fileStep_object ht htobj hstep]⟩

/-! ## A new file -/

/-- A new file of the given kind, nothing copied yet. -/
def freshFile (object : ObjectType) (base : ℤ) : OpenFile :=
  ⟨newFile object base tableFile, ⟨fun _ => 0, []⟩⟩

lemma freshFile_offsetsOk (object : ObjectType) (base : ℤ) : OffsetsOk (freshFile object base) where
  r_nonneg := le_refl _
  r_le_w := le_refl _
  w_le := by simp [freshFile, newFile, PROMPT_SIZE, BUFSIZ]
  lbfsize_int := by simp [freshFile, newFile, PROMPT_SIZE, BUFSIZ]
  base_le_p := le_refl _
  p_le := by simp [freshFile, newFile, PROMPT_SIZE, BUFSIZ]
  cnt_eq := by simp [freshFile, newFile]
  copies := fun _ ht => absurd ht (List.not_mem_nil)

theorem offsetsOk_iff_seekKeeps_fresh :
    Along fileStep OffsetsOk (freshFile .file 0x30100048)
        [.write (some fun _ => 65) 10, .read 1 4, .seek 10 SEEK_SET] ↔
      Meets fileStep SeekKeeps (freshFile .file 0x30100048)
        [.write (some fun _ => 65) 10, .read 1 4, .seek 10 SEEK_SET] :=
  offsetsOk_iff_seekKeeps (freshFile .file 0x30100048) (Or.inl rfl) (freshFile_offsetsOk _ _) _

/-- Ten bytes are written and the file is moved on to 1014: the room on record is still 1014 bytes,
so a write of 1014 bytes passes for one that fits and its copy runs 1004 bytes over the end of the
buffer. -/
theorem seek_overrun :
    ¬ Along fileStep OffsetsOk (freshFile .file 0x30100048)
        [.write (some fun _ => 65) 10, .seek 1014 SEEK_SET] ∧
      ∃ s, runs fileStep (freshFile .file 0x30100048)
          [.write (some fun _ => 65) 10, .seek 1014 SEEK_SET, .write (some fun _ => 65) 1014] = .ok s ∧
        s.file.lbfsize = 1024 ∧ s.mem.touched = [(0x30100048 + 1014, 1014), (0x30100048, 10)] := by
  refine ⟨fun h => ?_, _, rfl, by decide +kernel, by decide +kernel⟩
  have hroom := ((h.2 _ rfl).2 _ rfl).cnt_eq
  exact absurd hroom (by decide +kernel)

end Gramado
