import Gramado.Fs.Offsets

/-!
# The buffer of a regular file is a queue

Only reads and writes are followed here (`Transfer`).  The bytes between the read and the write
offset are the queue (`unread`): a write puts what it accepts at the end, a read takes what it
delivers from the front.  `transfer_conserved` is that statement for one call, `fifo_run` for whole
runs.

The one branch that breaks it, the full buffer of `fileWriteBuffer`, is for buffers shorter than
`BUFSIZ`.  The kernel makes none (`BufferSized`).
-/

namespace Gramado

open StepRun

/-- A read or a write of one file. -/
inductive Transfer where
  | read (buffer : ℕ) (len : ℤ)
  | write (string : UserBytes) (len : ℤ)

/-- The transfer as a call on the file. -/
def Transfer.call : Transfer → FileCall
  | .read buffer len => .read buffer len
  | .write string len => .write string len

/-- One transfer. -/
def transferStep (s : OpenFile) (c : Transfer) : Except Fault OpenFile := fileStep s c.call

/-- The bytes that a transfer delivers to the client. -/
def deliveredBytes (s : OpenFile) : Transfer → List UInt8
  | .read buffer len => (fileReadBuffer buffer len s).bytes
  | .write _ _ => []

/-- The bytes that a transfer accepts from the client: as many as the call reports. -/
def acceptedBytes (s : OpenFile) : Transfer → List UInt8
  | .read _ _ => []
  | .write none _ => []
  | .write (some string) len =>
      firstBytes string (fileWriteBuffer (some string) len s).ret.toNat

/-- The bytes that were written and not read yet. -/
def unread (s : OpenFile) : List UInt8 :=
  s.mem.slice (s.file.base + s.file.r) (s.file.w - s.file.r).toNat

/-- **The buffer sizes of the kernel**: `__initialize_file_table` leaves 0, `new_file` and the
standard streams get `PROMPT_SIZE`, a socket or a pipe `BUFSIZ`, a file from the disk `BUFSIZ` or,
from `BUFSIZ` bytes on, 8 more than it is long. -/
def BufferSized (f : File) : Prop := f.lbfsize = 0 ∨ BUFSIZ ≤ f.lbfsize

lemma tableFile_bufferSized : BufferSized tableFile := Or.inl rfl

lemma newFile_bufferSized (object : ObjectType) (base : ℤ) (slot : File) :
    BufferSized (newFile object base slot) :=
  Or.inr (le_refl _)

/-- A file that transfers are made on: the offsets in order, the buffer one of the kernel's. -/
structure Transferable (s : OpenFile) : Prop where
  offsets : OffsetsOk s
  object : hasOffsets s.file.object
  sized : BufferSized s.file

lemma firstBytes_zero (string : ℕ → UInt8) : firstBytes string 0 = [] := rfl

/-! ## One transfer -/

/-- Reading the first `n` unread bytes leaves the others unread. -/
lemma unread_afterRead {s : OpenFile} {n : ℕ} (hle : s.file.r + n ≤ s.file.w) :
    unread s = s.mem.slice (s.file.base + s.file.r) n ++ unread (afterRead n s) := by
  have hsplit : (s.file.w - s.file.r).toNat = n + (s.file.w - (s.file.r + n)).toNat := by omega
  simp only [unread, afterRead, Memory.slice_load, hsplit, Memory.slice_append, add_assoc]

/-- Writing `n` bytes puts them behind the unread ones. -/
lemma unread_afterWrite {s : OpenFile} {bytes : ℕ → UInt8} {n : ℕ} (hok : OffsetsOk s) :
    unread (afterWrite bytes n s) = unread s ++ firstBytes bytes n := by
  have hrw := hok.r_le_w
  have hlen := firstBytes_length bytes n
  have hsplit : (s.file.w + n - s.file.r).toNat = (s.file.w - s.file.r).toNat + n := by omega
  have hstart : s.file.base + s.file.r + ((s.file.w - s.file.r).toNat : ℤ)
      = s.file.base + s.file.w := by omega
  have hold : (s.mem.store (s.file.base + s.file.w) (firstBytes bytes n)).slice
      (s.file.base + s.file.r) (s.file.w - s.file.r).toNat = unread s :=
    Memory.slice_store_apart (Or.inl (by omega))
  have hnew : (s.mem.store (s.file.base + s.file.w) (firstBytes bytes n)).slice
      (s.file.base + s.file.w) n = firstBytes bytes n :=
    Memory.slice_store_same hlen
  simp only [unread, afterWrite] at hold ⊢
  rw [hsplit, Memory.slice_append, hold, hstart, hnew]

/-- **One transfer**: what was unread and what comes in is what goes out and what is unread
afterwards, in this order. -/
lemma transfer_conserved {s s' : OpenFile} {c : Transfer} (hs : Transferable s)
    (hstep : transferStep s c = .ok s') :
    Transferable s' ∧
      unread s ++ acceptedBytes s c = deliveredBytes s c ++ unread s' := by
  obtain ⟨hok, hobj, hsized⟩ := hs
  cases c with
  | read buffer len =>
      obtain rfl : _ = s' := by simpa [transferStep, Transfer.call, fileStep] using hstep
      simp only [acceptedBytes, deliveredBytes, List.append_nil]
      rcases fileReadBuffer_cases hobj hok buffer len with ⟨ret, -, heq⟩ | ⟨n, -, hle, heq⟩
      · rw [heq]
        exact ⟨⟨hok, hobj, hsized⟩, rfl⟩
      · rw [heq]
        exact ⟨⟨hok.afterRead hle, hobj, hsized⟩, unread_afterRead hle⟩
  | write string len =>
      obtain rfl : _ = s' := by simpa [transferStep, Transfer.call, fileStep] using hstep
      rcases fileWriteBuffer_cases hobj hok string len with
        heq | ⟨hshort, hend, heq⟩ | ⟨bytes, n, rfl, hfit, -, heq⟩
      · have hnone : acceptedBytes s (.write string len) = [] := by
          cases string with
          | none => rfl
          | some bytes =>
              simp only [acceptedBytes, heq]
              rfl
        rw [hnone, heq]
        exact ⟨⟨hok, hobj, hsized⟩, by simp [deliveredBytes]⟩
      · -- the full-buffer branch: only the empty buffer of a device file is short enough
        have hzero : s.file.lbfsize = 0 := by
          rcases hsized with h | h
          · exact h
          · omega
        have hr := hok.r_nonneg
        have hrw := hok.r_le_w
        have hempty : unread s = [] := by
          have hlen : (s.file.w - s.file.r).toNat = 0 := by omega
          simp only [unread, hlen, Memory.slice_zero]
        have hnone : acceptedBytes s (.write string len) = [] := by
          cases string with
          | none => rfl
          | some bytes =>
              simp only [acceptedBytes, heq]
              rfl
        rw [hnone, heq, hempty]
        exact ⟨⟨hok.afterFull, hobj, hsized⟩, by simp [deliveredBytes, unread, afterFull]⟩
      · simp only [acceptedBytes, deliveredBytes, heq, Int.toNat_natCast, List.nil_append]
        exact ⟨⟨hok.afterWrite hfit, hobj, hsized⟩, (unread_afterWrite hok).symm⟩

/-! ## Whole runs -/

/-- Reading as much as is unread, when the read is not refused, delivers exactly the unread
bytes. -/
lemma read_unread {s : OpenFile} (hok : OffsetsOk s) (hobj : hasOffsets s.file.object)
    (hused : s.file.used = TRUE) (hmagic : s.file.magic = 1234) (hlarge : s.file.lbfsize ≤ 8 * 1024)
    {buffer : ℕ} (hbuffer : buffer ≠ 0) :
    (fileReadBuffer buffer (unread s).length s).bytes = unread s := by
  have hr := hok.r_nonneg
  have hrw := hok.r_le_w
  have hw := hok.w_le
  have hlen : ((unread s).length : ℤ) = s.file.w - s.file.r := by
    simp only [unread, Memory.slice_length]
    omega
  rw [hlen]
  have hmod : (s.file.w - s.file.r) % 0x10000 = s.file.w - s.file.r :=
    Int.emod_eq_of_lt (by omega) (by omega)
  by_cases hempty : s.file.w - s.file.r = 0
  · have hrefused : ReadRefused buffer (s.file.w - s.file.r) s.file := by
      simp only [ReadRefused, hempty]
      omega
    rw [fileReadBuffer_refused hobj hrefused]
    simp only [unread, hempty, Int.toNat_zero, Memory.slice_zero]
  · have hpass : ¬ ReadRefused buffer (s.file.w - s.file.r) s.file := by
      simp only [ReadRefused, not_or, hmod]
      exact ⟨by tauto, by tauto, hbuffer, by omega, by omega, by omega⟩
    rw [fileReadBuffer_passed hobj hok hpass, hmod,
      readFromOffset_eq (n := (s.file.w - s.file.r).toNat) (by omega) (by omega)]
    rfl

/-- Transfers leave the size of the buffer and the validity of the structure alone. -/
lemma transferStep_frame {s s' : OpenFile} {c : Transfer} (hs : Transferable s)
    (hstep : transferStep s c = .ok s') :
    s'.file.lbfsize = s.file.lbfsize ∧ s'.file.used = s.file.used ∧
      s'.file.magic = s.file.magic := by
  cases c with
  | read buffer len =>
      obtain rfl : _ = s' := by simpa [transferStep, Transfer.call, fileStep] using hstep
      rcases fileReadBuffer_cases hs.object hs.offsets buffer len with
        ⟨_, _, heq⟩ | ⟨_, _, _, heq⟩ <;> rw [heq] <;> exact ⟨rfl, rfl, rfl⟩
  | write string len =>
      obtain rfl : _ = s' := by simpa [transferStep, Transfer.call, fileStep] using hstep
      rcases fileWriteBuffer_cases hs.object hs.offsets string len with
        heq | ⟨_, _, heq⟩ | ⟨_, _, _, _, _, heq⟩ <;> rw [heq] <;> exact ⟨rfl, rfl, rfl⟩

/-- A buffer larger than `BUFSIZ` accepts nothing. -/
lemma accepted_of_large {s : OpenFile} (hs : Transferable s) (hlarge : BUFSIZ < s.file.lbfsize)
    (c : Transfer) : acceptedBytes s c = [] := by
  cases c with
  | read buffer len => rfl
  | write string len =>
      cases string with
      | none => rfl
      | some bytes =>
          rcases fileWriteBuffer_cases hs.object hs.offsets (some bytes) len with
            heq | ⟨hshort, -, -⟩ | ⟨_, _, _, _, hsmall, _⟩
          · simp only [acceptedBytes, heq]
            rfl
          · omega
          · omega

/-- **The queue law of a run** from `s` to `t`. -/
structure FifoLaw (s t : OpenFile) (calls : List Transfer) : Prop where
  /-- What was unread at first and what was accepted is what was delivered and what is unread. -/
  conserved : unread s ++ collect transferStep acceptedBytes s calls
    = collect transferStep deliveredBytes s calls ++ unread t
  /-- On a file with nothing unread at first, the deliveries are a prefix of what was accepted. -/
  isPrefix : unread s = [] →
    collect transferStep deliveredBytes s calls <+: collect transferStep acceptedBytes s calls
  /-- What is unread can be read.  Only a file that accepts no byte can have a buffer of more than
  8 KiB, which every read refuses. -/
  readable : s.file.lbfsize ≤ 8 * 1024 ∨ collect transferStep acceptedBytes s calls ≠ [] →
    ∀ buffer ≠ 0, (fileReadBuffer buffer (unread t).length t).bytes = unread t

/-- **The buffer of a regular file is a queue**, over every run of reads and writes. -/
theorem fifo_run (s : OpenFile) (hs : Transferable s) (hused : s.file.used = TRUE)
    (hmagic : s.file.magic = 1234) (calls : List Transfer) :
    ∃ t, runs transferStep s calls = .ok t ∧ FifoLaw s t calls := by
  have htotal (s : OpenFile) (c : Transfer) : ∃ s', transferStep s c = .ok s' := by
    cases c <;> exact ⟨_, rfl⟩
  obtain ⟨t, hrun⟩ := runs_total htotal calls s
  have hlaw : unread s ++ collect transferStep acceptedBytes s calls
      = collect transferStep deliveredBytes s calls ++ unread t :=
    conserved unread (fun _ _ _ => transfer_conserved) calls s t hs hrun
  refine ⟨t, hrun, hlaw, fun hempty => ?_, fun hreads buffer hbuffer => ?_⟩
  · rw [hempty, List.nil_append] at hlaw
    exact ⟨unread t, hlaw.symm⟩
  · -- the frame of the run: same buffer size, same structure
    have hframe : Transferable t ∧ t.file.lbfsize = s.file.lbfsize ∧ t.file.used = TRUE ∧
        t.file.magic = 1234 := by
      refine runs_keep (J := fun u => Transferable u ∧ u.file.lbfsize = s.file.lbfsize ∧
        u.file.used = TRUE ∧ u.file.magic = 1234) ?_ calls s t ⟨hs, rfl, hused, hmagic⟩ hrun
      rintro u c u' ⟨hu, hsize, husedu, hmagicu⟩ hstep
      obtain ⟨hsize', hused', hmagic'⟩ := transferStep_frame hu hstep
      exact ⟨(transfer_conserved hu hstep).1, hsize'.trans hsize, hused'.trans husedu,
        hmagic'.trans hmagicu⟩
    obtain ⟨ht, hsize, husedt, hmagict⟩ := hframe
    refine read_unread ht.offsets ht.object husedt hmagict ?_ hbuffer
    rw [hsize]
    rcases hreads with hreads | haccepted
    · exact hreads
    · by_contra hlarge
      have hlarge' : BUFSIZ < s.file.lbfsize := by
        simp only [BUFSIZ]
        omega
      refine haccepted (collect_eq_nil (J := fun u => Transferable u ∧ BUFSIZ < u.file.lbfsize)
        ?_ calls s t ⟨hs, hlarge'⟩ hrun)
      rintro u c u' ⟨hu, hlargeu⟩ hstep
      exact ⟨⟨(transfer_conserved hu hstep).1, by rwa [(transferStep_frame hu hstep).1]⟩,
        accepted_of_large hu hlargeu c⟩

/-- The queue law on a new file, whose buffer is filled to the last byte and beyond. -/
theorem fifo_run_fresh :
    ∃ t, runs transferStep (freshFile .file 0x30100048)
        [.write (some fun _ => 65) 1000, .write (some fun _ => 66) 100,
          .write (some fun _ => 67) 100, .read 1 512] = .ok t ∧
      FifoLaw (freshFile .file 0x30100048) t
        [.write (some fun _ => 65) 1000, .write (some fun _ => 66) 100,
          .write (some fun _ => 67) 100, .read 1 512] :=
  fifo_run (freshFile .file 0x30100048)
    ⟨freshFile_offsetsOk _ _, Or.inl rfl, newFile_bufferSized _ _ _⟩ rfl rfl _

end Gramado
