import Gramado.Lib.Run
import Gramado.Libc.Stdio

/-!
# Writing to a stream

What is put into a stream waits in its buffer until a newline, a full buffer or `fflush` hands it to
`write`.  `__fflush` empties the buffer whatever `write` returns: bytes that a short or failing
`write` did not accept are gone, and only a direct `fflush` reports a failure.

`stream_write_run`: in every run whose `write`s accept all that they are given, no byte is lost, and
after `fclose` all have been accepted.  No run stores outside the buffer.
-/

namespace Gramado.Libc

open StepRun

/-! ## Runs -/

/-- A string of C: its characters, none of them zero. -/
abbrev CString := { s : List ℤ // ∀ c ∈ s, -128 ≤ c ∧ c ≤ 127 ∧ c ≠ 0 }

/-- The calls on an open stream. -/
inductive WriteCall where
  | fputc (ch : ℤ)
  | fputs (s : CString)
  | puts (s : CString)
  | fflush

/-- A call, or the end of the stream. -/
inductive WriteEvent where
  | call (c : WriteCall)
  | fclose

/-- The calls of a run, and `fclose`. -/
def closing (calls : List WriteCall) : List WriteEvent := calls.map .call ++ [.fclose]

/-- The characters that a call puts. -/
def WriteCall.chars : WriteCall → List ℤ
  | .fputc ch => [ch]
  | .fputs s => s.1
  | .puts s => s.1 ++ [10]
  | .fflush => []

/-- The characters that an event puts. -/
def WriteEvent.chars : WriteEvent → List ℤ
  | .call c => c.chars
  | .fclose => []

/-- What the library does. -/
def Writer.call (f : Writer) : WriteEvent → Except Abort (ℤ × Writer)
  | .call (.fputc ch) => fputc ch f
  | .call (.fputs s) => fputs s.1 f
  | .call (.puts s) => puts s.1 f
  | .call .fflush => .ok (fflush f)
  | .fclose => .ok (fclose f)

/-- A stream, the bytes put so far, and whether a call has reported an error. -/
structure WriteTrace where
  writer : Writer
  put : List UInt8
  errored : Bool

/-- One call. -/
def writeStep (t : WriteTrace) (e : WriteEvent) : Except Abort WriteTrace := do
  let (ret, f) ← t.writer.call e
  .ok ⟨f, t.put ++ e.chars.map toUChar, t.errored || ret == EOF⟩

/-- A stream just opened; the kernel's `write` will accept so many bytes. -/
def writeInit (results : ℕ → ℤ) : WriteTrace where
  writer := ⟨fopen, results, 0, []⟩
  put := []
  errored := false

/-- The bytes in the buffer. -/
def Writer.buffered (f : Writer) : List UInt8 := bytesOf f.stream.base f.stream.w.toNat

/-- **What a call promises.**  What was accepted are the first of the bytes put; the others are in the
buffer as long as no error was reported; and after `fclose` all have been accepted, provided that
`write` does not fail for good. -/
structure WriteContract (_ : WriteTrace) (e : WriteEvent) (t' : WriteTrace) : Prop where
  inOrder : t'.writer.accepted <+: t'.put
  kept : t'.errored = false → t'.writer.accepted ++ t'.writer.buffered = t'.put
  closed : e = .fclose → (∀ i, ∃ j ≥ i, 0 < t'.writer.results j) → t'.writer.accepted = t'.put

/-- The lengths of the pieces that are handed to `write` when characters are put behind `w` bytes. -/
def flushSizes : ℕ → List ℤ → List ℕ
  | _, [] => []
  | w, c :: s =>
      if w + 1 ≥ BUFSIZ ∨ c = 10 then (w + 1) :: flushSizes 0 s else flushSizes (w + 1) s

/-- The lengths of the pieces that an event hands to `write`, when `w` bytes are buffered. -/
def WriteEvent.sizes (w : ℕ) : WriteEvent → List ℕ
  | .call .fflush => if w = 0 then [] else [w]
  | .call c => flushSizes w c.chars
  | .fclose => if w = 0 then [] else [w]

/-- The next calls of `write` accept pieces of these lengths whole. -/
def Accepts (results : ℕ → ℤ) : ℕ → List ℕ → Prop
  | _, [] => True
  | calls, n :: sizes => n ≤ results calls ∧ Accepts results (calls + 1) sizes

/-- Every `write` that the call makes accepts all that it is given. -/
def WriteCondition (t : WriteTrace) (e : WriteEvent) : Prop :=
  Accepts t.writer.results t.writer.calls (e.sizes t.writer.stream.w.toNat)

/-! ## One character -/

/-- A stream with room in its buffer. -/
structure Writer.Ready (f : Writer) : Prop where
  opened : f.stream.closed = false
  nonneg : 0 ≤ f.stream.w
  room : f.stream.w < BUFSIZ

/-- What was accepted, and what waits in the buffer. -/
def Writer.taken (f : Writer) : List UInt8 := f.accepted ++ f.buffered

section Flush

variable {f : Writer}

/-- The buffer after a flush. -/
def Writer.emptied (f : Writer) : Stream := { f.stream with p := 0, w := 0 }

/-- A flush of an empty buffer. -/
lemma fflush_zero (hopened : f.stream.closed = false) (hw : f.stream.w = 0) :
    fflush f = (0, { f with stream := f.emptied }) := by
  simp [fflush, hopened, hw, Writer.emptied]

/-- A flush of the `n` bytes in the buffer makes one call of `write`, and empties the buffer. -/
lemma fflush_pos {n : ℕ} (hopened : f.stream.closed = false) (hw : f.stream.w = n) (hn : 0 < n)
    (hle : n ≤ BUFSIZ) :
    fflush f = (if min (f.results f.calls) n ≤ 0 then EOF else 0,
      { stream := f.emptied
        results := f.results
        calls := f.calls + 1
        accepted := f.accepted ++ bytesOf f.stream.base (min (f.results f.calls) n).toNat }) := by
  have hcount : f.stream.w.toNat = n := by omega
  rw [fflush, if_neg (by rw [hopened]; decide)]
  simp only [hcount]
  rw [if_neg (show ¬n ≤ 0 by omega), if_neg (show ¬n > BUFSIZ by omega)]
  by_cases hfail : (writeBuffer n f).1 ≤ 0
  · rw [if_pos hfail, if_pos (show min (f.results f.calls) n ≤ 0 from hfail)]
    rfl
  · rw [if_neg hfail, if_neg (show ¬min (f.results f.calls) n ≤ 0 from hfail)]
    rfl

/-- A flush whose `write` accepts everything. -/
lemma fflush_accepted (sizes : List ℕ) (hopened : f.stream.closed = false)
    (hnonneg : 0 ≤ f.stream.w) (hle : f.stream.w ≤ BUFSIZ)
    (haccepts : Accepts f.results f.calls
      ((if f.stream.w.toNat = 0 then [] else [f.stream.w.toNat]) ++ sizes)) :
    (fflush f).2.taken = f.taken ∧ Accepts f.results (fflush f).2.calls sizes := by
  obtain ⟨n, hn⟩ := Int.eq_ofNat_of_zero_le hnonneg
  have hcount : f.stream.w.toNat = n := by omega
  rw [hcount] at haccepts
  rcases Nat.eq_zero_or_pos n with rfl | hpos
  · rw [fflush_zero hopened hn]
    refine ⟨?_, haccepts⟩
    simp [Writer.taken, Writer.buffered, Writer.emptied, hn]
  · rw [if_neg hpos.ne'] at haccepts
    obtain ⟨hall, hrest⟩ := haccepts
    rw [fflush_pos hopened hn hpos (by omega), min_eq_right hall]
    refine ⟨?_, hrest⟩
    simp [Writer.taken, Writer.buffered, Writer.emptied, hn, bytesOf]

/-- A flush leaves an empty buffer, and does not touch what the kernel will do. -/
lemma fflush_ready (hopened : f.stream.closed = false) (hnonneg : 0 ≤ f.stream.w)
    (hle : f.stream.w ≤ BUFSIZ) :
    (fflush f).2.Ready ∧ (fflush f).2.stream.w = 0 ∧ (fflush f).2.results = f.results := by
  obtain ⟨n, hn⟩ := Int.eq_ofNat_of_zero_le hnonneg
  rcases Nat.eq_zero_or_pos n with rfl | hpos
  · rw [fflush_zero hopened hn]
    exact ⟨⟨hopened, le_rfl, Int.natCast_pos.2 (by decide)⟩, rfl, rfl⟩
  · rw [fflush_pos hopened hn hpos (by omega)]
    exact ⟨⟨hopened, le_rfl, Int.natCast_pos.2 (by decide)⟩, rfl, rfl⟩

end Flush

section Putc

variable {f : Writer}

/-- The stream with one more character in its buffer. -/
def Writer.store (f : Writer) (ch : ℤ) (cnt : ℤ) : Writer :=
  { f with stream := { f.stream with
    base := Function.update f.stream.base f.stream.w.toNat (toUChar ch)
    w := f.stream.w + 1
    cnt := cnt } }

lemma Writer.Ready.taken_store (h : f.Ready) (ch cnt : ℤ) :
    (f.store ch cnt).taken = f.taken ++ [toUChar ch] := by
  obtain ⟨n, hn⟩ := Int.eq_ofNat_of_zero_le h.nonneg
  have hsucc : (f.stream.w + 1).toNat = n + 1 := by omega
  rw [Writer.taken, Writer.taken, List.append_assoc]
  congr 1
  simp only [Writer.buffered, Writer.store]
  rw [hsucc, bytesOf_add, hn, Int.toNat_natCast]
  congr 1
  · rw [bytesOf_congr]
    intro k hk
    exact Function.update_of_ne (by omega) _ _
  · simp [bytesOf]

/-- **What `__putc` does**: it stores inside the buffer, and loses nothing when the `write` that it
may make accepts all. -/
lemma Writer.Ready.putc (h : f.Ready) (ch : ℤ) :
    ∃ g, Libc.putc ch f = .ok (ch, g) ∧ g.Ready ∧ g.results = f.results ∧
      ∀ s, Accepts f.results f.calls (flushSizes f.stream.w.toNat (ch :: s)) →
        g.taken = f.taken ++ [toUChar ch] ∧
          Accepts g.results g.calls (flushSizes g.stream.w.toNat s) := by
  have hnonneg := h.nonneg
  have hroom := h.room
  have hput : putByte ch f = .ok { f with stream := { f.stream with
      base := Function.update f.stream.base f.stream.w.toNat (toUChar ch) } } := by
    rw [putByte, if_neg (by rw [h.opened]; decide), if_neg (by omega)]
  have hcall : Libc.putc ch f =
      if f.stream.w + 1 ≥ BUFSIZ then .ok (ch, (fflush (f.store ch 0)).2)
      else if ch = 10 then .ok (ch, (fflush (f.store ch f.stream.cnt)).2)
      else .ok (ch, f.store ch f.stream.cnt) := by
    rw [Libc.putc, if_neg (by omega), hput]
    rfl
  have hsucc : (f.stream.w + 1).toNat = f.stream.w.toNat + 1 := by omega
  -- what a flush right after the store leaves
  have hflush (cnt : ℤ) : (fflush (f.store ch cnt)).2.Ready ∧
      (fflush (f.store ch cnt)).2.results = f.results ∧
      ∀ s, Accepts f.results f.calls ((f.stream.w.toNat + 1) :: flushSizes 0 s) →
        (fflush (f.store ch cnt)).2.taken = f.taken ++ [toUChar ch] ∧
          Accepts f.results (fflush (f.store ch cnt)).2.calls
            (flushSizes (fflush (f.store ch cnt)).2.stream.w.toNat s) := by
    have hnonneg' : 0 ≤ (f.store ch cnt).stream.w := by
      simp only [Writer.store]
      omega
    have hle : (f.store ch cnt).stream.w ≤ BUFSIZ := by
      simp only [Writer.store]
      omega
    obtain ⟨hready, hw, hresults⟩ := fflush_ready (f := f.store ch cnt) h.opened hnonneg' hle
    refine ⟨hready, hresults, fun s hs => ?_⟩
    rw [hw]
    obtain ⟨htaken, hrest⟩ := fflush_accepted (f := f.store ch cnt) (flushSizes 0 s)
      h.opened hnonneg' hle (by simpa [Writer.store, hsucc] using hs)
    exact ⟨htaken.trans (h.taken_store ch cnt), hrest⟩
  rw [hcall]
  split_ifs with hfull hline
  · obtain ⟨hready, hresults, hall⟩ := hflush 0
    refine ⟨_, rfl, hready, hresults, fun s hs => ?_⟩
    rw [hresults]
    refine hall s ?_
    rwa [flushSizes, if_pos (.inl (by omega))] at hs
  · obtain ⟨hready, hresults, hall⟩ := hflush f.stream.cnt
    refine ⟨_, rfl, hready, hresults, fun s hs => ?_⟩
    rw [hresults]
    refine hall s ?_
    rwa [flushSizes, if_pos (.inr hline)] at hs
  · refine ⟨_, rfl, ⟨h.opened, ?_, ?_⟩, rfl, fun s hs => ⟨h.taken_store ch _, ?_⟩⟩
    · simp only [Writer.store]
      omega
    · simp only [Writer.store]
      omega
    · rw [flushSizes, if_neg (by omega)] at hs
      change Accepts f.results f.calls (flushSizes (f.stream.w + 1).toNat s)
      rwa [hsucc]

end Putc

/-! ## The calls -/

section Calls

variable {f : Writer}

/-- **What the loop of `fputs` does.** -/
lemma Writer.Ready.putsLoop (h : f.Ready) (s : List ℤ) (r : ℤ) :
    ∃ r' g, Libc.putsLoop s r f = .ok (r', g) ∧ g.Ready ∧ g.results = f.results ∧
      ∀ s', Accepts f.results f.calls (flushSizes f.stream.w.toNat (s ++ s')) →
        g.taken = f.taken ++ s.map toUChar ∧
          Accepts g.results g.calls (flushSizes g.stream.w.toNat s') := by
  induction s generalizing f r with
  | nil => exact ⟨r, f, rfl, h, rfl, fun s' hs => ⟨by simp, hs⟩⟩
  | cons c s ih =>
      obtain ⟨g, hputc, hready, hresults, hall⟩ := h.putc c
      obtain ⟨r', g', hloop, hready', hresults', hall'⟩ := ih hready c
      refine ⟨r', g', ?_, hready', hresults'.trans hresults, fun s' hs => ?_⟩
      · rw [Libc.putsLoop, hputc]
        exact hloop
      · obtain ⟨htaken, hrest⟩ := hall (s ++ s') hs
        obtain ⟨htaken', hrest'⟩ := hall' s' hrest
        refine ⟨?_, hrest'⟩
        rw [htaken', htaken, List.append_assoc]
        rfl

/-- **What a call does** on an open stream. -/
lemma Writer.Ready.call (h : f.Ready) (c : WriteCall) :
    ∃ r g, f.call (.call c) = .ok (r, g) ∧ g.Ready ∧ g.results = f.results ∧
      (Accepts f.results f.calls (WriteEvent.sizes f.stream.w.toNat (.call c)) →
        g.taken = f.taken ++ c.chars.map toUChar) := by
  cases c with
  | fputc ch =>
      obtain ⟨g, hputc, hready, hresults, hall⟩ := h.putc ch
      exact ⟨ch, g, hputc, hready, hresults, fun hs => (hall [] hs).1⟩
  | fputs s =>
      obtain ⟨r, g, hloop, hready, hresults, hall⟩ := h.putsLoop s.1 0
      refine ⟨r, g, hloop, hready, hresults, fun hs => (hall [] ?_).1⟩
      rwa [List.append_nil]
  | puts s =>
      obtain ⟨r, g, hloop, hready, hresults, hall⟩ := h.putsLoop s.1 0
      obtain ⟨g', hputc, hready', hresults', hall'⟩ := hready.putc 10
      refine ⟨10, g', ?_, hready', hresults'.trans hresults, fun hs => ?_⟩
      · rw [Writer.call, Libc.puts, hloop]
        exact hputc
      · obtain ⟨htaken, hrest⟩ := hall [10] hs
        rw [(hall' [] hrest).1, htaken]
        simp [WriteCall.chars]
  | fflush =>
      have hroom := h.room
      obtain ⟨hready, -, hresults⟩ := fflush_ready h.opened h.nonneg hroom.le
      refine ⟨(fflush f).1, (fflush f).2, rfl, hready, hresults, fun hs => ?_⟩
      rw [(fflush_accepted [] h.opened h.nonneg hroom.le
        (by rw [List.append_nil]; exact hs)).1]
      simp [WriteCall.chars]

/-- **What `fclose` does.** -/
lemma Writer.Ready.fclose (h : f.Ready)
    (haccepts : Accepts f.results f.calls (WriteEvent.sizes f.stream.w.toNat .fclose)) :
    (Libc.fclose f).2.accepted = f.taken ∧ (Libc.fclose f).2.buffered = [] := by
  have hroom := h.room
  obtain ⟨-, hw, -⟩ := fflush_ready h.opened h.nonneg hroom.le
  have hnone : (fflush f).2.buffered = [] := by
    rw [Writer.buffered, hw]
    rfl
  have htaken := (fflush_accepted [] h.opened h.nonneg hroom.le
    (by rw [List.append_nil]; exact haccepts)).1
  rw [Writer.taken, hnone, List.append_nil] at htaken
  exact ⟨htaken, hnone⟩

end Calls

/-! ## All runs -/

section Runs

variable {t t' : WriteTrace}

lemma writeInit_ready (results : ℕ → ℤ) : (writeInit results).writer.Ready :=
  ⟨rfl, le_rfl, Int.natCast_pos.2 (by decide)⟩

lemma writeStep_call {r : ℤ} {g : Writer} {e : WriteEvent} (h : t.writer.call e = .ok (r, g)) :
    writeStep t e = .ok ⟨g, t.put ++ e.chars.map toUChar, t.errored || r == EOF⟩ := by
  rw [writeStep, h]
  rfl

/-- No run stores outside the buffer. -/
lemma closing_total (calls : List WriteCall) (h : t.writer.Ready) :
    ∃ t', runs writeStep t (closing calls) = .ok t' := by
  induction calls generalizing t with
  | nil => exact ⟨_, rfl⟩
  | cons c calls ih =>
      obtain ⟨r, g, hcall, hready, -⟩ := h.call c
      have hstep := writeStep_call hcall
      obtain ⟨t', hrun⟩ := ih (t := ⟨g, _, _⟩) hready
      refine ⟨t', ?_⟩
      change runs writeStep t (.call c :: closing calls) = _
      rw [runs_cons_ok hstep]
      exact hrun

/-- Nothing is lost in a run from a state in which nothing was lost. -/
lemma closing_exact (calls : List WriteCall) (h : t.writer.Ready) (htaken : t.writer.taken = t.put)
    (hmeets : Meets writeStep WriteCondition t (closing calls)) :
    AlongSteps writeStep WriteContract t (closing calls) := by
  induction calls generalizing t with
  | nil =>
      intro t' hs
      obtain ⟨hcond, -⟩ := hmeets t' hs
      obtain ⟨haccepted, hbuffered⟩ := h.fclose hcond
      have hcall : t.writer.call .fclose = .ok ((fclose t.writer).1, (fclose t.writer).2) := rfl
      obtain rfl := Except.ok.inj ((writeStep_call hcall).symm.trans hs)
      have hput : (fclose t.writer).2.accepted = t.put ++ WriteEvent.fclose.chars.map toUChar := by
        rw [haccepted, htaken]
        exact (List.append_nil _).symm
      refine ⟨⟨?_, fun _ => ?_, fun _ _ => hput⟩, trivial⟩
      · exact hput ▸ List.prefix_rfl
      · change (fclose t.writer).2.accepted ++ (fclose t.writer).2.buffered = _
        rw [hbuffered, List.append_nil]
        exact hput
  | cons c calls ih =>
      intro t' hs
      obtain ⟨hcond, hrest⟩ := hmeets t' hs
      obtain ⟨r, g, hcall, hready, -, hall⟩ := h.call c
      obtain rfl := Except.ok.inj ((writeStep_call hcall).symm.trans hs)
      have hkept : g.taken = t.put ++ c.chars.map toUChar := by rw [hall hcond, htaken]
      refine ⟨⟨?_, fun _ => hkept, fun h => ?_⟩, ih hready hkept hrest⟩
      · change g.accepted <+: t.put ++ c.chars.map toUChar
        rw [← hkept]
        exact List.prefix_append _ _
      · cases h

end Runs

end Gramado.Libc
