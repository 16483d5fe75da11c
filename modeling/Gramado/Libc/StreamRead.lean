import Gramado.Lib.Run
import Gramado.Libc.Stdio

/-!
# Reading from a stream

What a process should see of a stream is a list: the byte it has pushed back, and then the bytes of
the file that it has not read.  `Source` is that list with the calls on it, and a run keeps it beside
the stream of the library.

The library loses bytes when `__getc` fills the buffer again although there are bytes in it.  Of a
`read` that returned `n` bytes it takes `available n`; `Reach` says that a number of bytes can be
taken before bytes are lost.  A byte of 128 or more that was pushed back comes back negative.

`stream_read_run`: in every run whose calls ask for bytes within reach, and take no pushed-back byte
of 128 or more, every call returns what it should.
-/

namespace Gramado.Libc

open StepRun

/-! ## What a process should see -/

/-- The byte pushed back, and the rest of the file. -/
structure Source where
  pushed : Option UInt8
  rest : List UInt8

/-- The bytes still to be delivered. -/
def Source.content (src : Source) : List UInt8 := src.pushed.toList ++ src.rest

/-- The first `k` bytes are delivered. -/
def Source.deliver (src : Source) (k : ℕ) : Source :=
  if k = 0 then src else ⟨none, src.content.drop k⟩

/-- The line at the front of the bytes, of at most `n` bytes. -/
def lineOf : ℕ → List UInt8 → List UInt8
  | 0, _ => []
  | _ + 1, [] => []
  | n + 1, b :: bs => if b = 10 then [b] else b :: lineOf n bs

/-- The calls of a process. -/
inductive ReadEvent where
  | fgetc
  | fgets (size : ℤ)
  | ungetc (c : UInt8)

/-- What a call returns: a number, or the string that `fgets` stores. -/
inductive ReadResult where
  | value (c : ℤ)
  | line (l : Option (List UInt8))

/-- **What a call should return**, and what should be left. -/
def Source.call (src : Source) : ReadEvent → ReadResult × Source
  | .fgetc =>
      match src.content with
      | [] => (.value EOF, src)
      | b :: _ => (.value b.toNat, src.deliver 1)
  | .fgets size =>
      let n := (size - 1).toNat
      let l := lineOf n src.content
      (.line (if 0 < n ∧ src.content = [] then none else some l), src.deliver l.length)
  | .ungetc c =>
      match src.pushed with
      | none => (.value c.toNat, { src with pushed := some c })
      | some _ => (.value EOF, src)

/-! ## Runs -/

/-- What the library does. -/
def Reader.call (f : Reader) : ReadEvent → Except Abort (ReadResult × Reader)
  | .fgetc => do
      let (c, f) ← fgetc f
      .ok (.value c, f)
  | .fgets size => do
      let (l, f) ← fgets size f
      .ok (.line l, f)
  | .ungetc c =>
      let (c, f) := ungetc c.toNat f
      .ok (.value c, f)

/-- A stream of the library, and what the process should see of it. -/
structure ReadTrace where
  reader : Reader
  source : Source

/-- One call. -/
def readStep (t : ReadTrace) (e : ReadEvent) : Except Abort ReadTrace := do
  let (_, f) ← t.reader.call e
  .ok ⟨f, (t.source.call e).2⟩

/-- A stream just opened, on a file that `read` will return in these pieces. -/
def readInit (chunks : List Chunk) : ReadTrace where
  reader := ⟨fopen, chunks⟩
  source := ⟨none, (chunks.map Subtype.val).flatten⟩

/-- **What a call promises**: it returns what it should. -/
def ReadContract (t : ReadTrace) (e : ReadEvent) (_ : ReadTrace) : Prop :=
  ∃ f, t.reader.call e = .ok ((t.source.call e).1, f)

/-- How many of the `n` bytes that `read` returned are taken before the buffer is filled again. -/
def available (n : ℕ) : ℕ := if n ≥ BUFSIZ - 1 then 1 else min n (BUFSIZ - n)

/-- `k` bytes can be taken of these pieces before a byte is lost. -/
def ChunksReach : List Chunk → ℕ → Prop
  | [], _ => True
  | x :: xs, k =>
      k ≤ available x.1.length ∨
        available x.1.length = x.1.length ∧ ChunksReach xs (k - x.1.length)

/-- `k` bytes can be taken of the buffer, and then of the file, before a byte is lost. -/
def Reader.Reach (f : Reader) (k : ℕ) : Prop :=
  let unread := (f.stream.fsize - f.stream.r).toNat
  let left := min f.stream.cnt.toNat unread
  k ≤ left ∨ left = unread ∧ ChunksReach f.chunks (k - unread)

/-- How many bytes a line of at most `n` bytes asks for; at the end of the file, one more than there
are. -/
def lineAsks : ℕ → List UInt8 → ℕ
  | 0, _ => 0
  | _ + 1, [] => 1
  | n + 1, b :: bs => if b = 10 then 1 else lineAsks n bs + 1

/-- How many bytes a call asks for. -/
def Source.asks (src : Source) : ReadEvent → ℕ
  | .fgetc => 1
  | .fgets size => lineAsks (size - 1).toNat src.content
  | .ungetc _ => 0

/-- The call takes no pushed-back byte of 128 or more, and the bytes that it asks the file for are
within reach. -/
def ReadCondition (t : ReadTrace) (e : ReadEvent) : Prop :=
  t.source.asks e = 0 ∨
    (∀ b ∈ t.source.pushed, b < 128) ∧
      t.reader.Reach (t.source.asks e - t.source.pushed.toList.length)

/-! ## The stream and what the process should see -/

/-- The bytes in the buffer that were not taken. -/
def Stream.unread (s : Stream) : List UInt8 :=
  bytesOf (fun k => s.base (s.p + k)) (s.fsize - s.r).toNat

/-- The stream has bytes that it will not give: it fills the buffer again when it is asked. -/
def Stream.Stuck (s : Stream) : Prop := s.cnt ≤ 0 ∧ s.r < s.fsize

/-- The stream of the library holds what the process should see, or is stuck. -/
structure Holds (f : Reader) (src : Source) : Prop where
  size : f.stream.lbfsize = BUFSIZ
  opened : f.stream.closed = false
  pushed : match src.pushed with
    | none => f.stream.haveUngotten = FALSE
    | some b => f.stream.haveUngotten = TRUE ∧ f.stream.ungotten = toChar b.toNat
  order : f.stream.r ≤ f.stream.fsize
  count : f.stream.cnt ≤ BUFSIZ
  rest : f.stream.Stuck ∨ src.rest = f.stream.unread ++ (f.chunks.map Subtype.val).flatten

lemma toUChar_toNat (b : UInt8) : toUChar b.toNat = b := by
  have hb := b.toNat_lt
  rw [toUChar, Int.emod_eq_of_lt (by omega) (by omega), Int.toNat_natCast, UInt8.ofNat_toNat]

/-- Only a byte below 128 survives in a `char`. -/
lemma toChar_toNat {b : UInt8} (hb : b < 128) : toChar b.toNat = b.toNat := by
  have hlt : b.toNat < 128 := UInt8.lt_iff_toNat_lt.1 hb
  rw [toChar, Int.bmod_eq_of_le] <;> omega

section Deliver

variable {src : Source} {k : ℕ}

@[simp] lemma Source.deliver_zero : src.deliver 0 = src := if_pos rfl

@[simp] lemma Source.deliver_succ : src.deliver (k + 1) = ⟨none, src.content.drop (k + 1)⟩ :=
  if_neg k.succ_ne_zero

@[simp] lemma Source.content_none (rest : List UInt8) : Source.content ⟨none, rest⟩ = rest := rfl

/-- Delivering one byte, and then others. -/
lemma Source.deliver_deliver : (src.deliver 1).deliver k = src.deliver (k + 1) := by
  cases k with
  | zero => rfl
  | succ k => simp [Nat.add_comm 1]

/-- Nothing is delivered of nothing. -/
lemma Source.deliver_nil (h : src.content = []) : src.deliver k = src := by
  obtain ⟨pushed, rest⟩ := src
  cases pushed with
  | none =>
      obtain rfl : rest = [] := h
      cases k <;> rfl
  | some b => cases h

end Deliver

/-! ## Filling the buffer -/

section Fill

variable {f : Reader} {k : ℕ}

/-- At the end of the file. -/
lemma bfill_nil (hsize : f.stream.lbfsize = BUFSIZ) (hnil : f.chunks = []) :
    bfill f = .ok (EOF, { f with stream := { f.stream with
      fsize := 0, cnt := BUFSIZ, p := 0, w := 0, r := 0 } }) := by
  simp [bfill, hsize, readBuffer, hnil]

/-- What the account of the buffer says after a `read` of `n` bytes. -/
def filled (n : ℕ) : ℤ := if n ≥ BUFSIZ - 1 then BUFSIZ else n

/-- A piece of the file fills the buffer from its base on. -/
lemma bfill_cons {x : Chunk} {xs : List Chunk} (hsize : f.stream.lbfsize = BUFSIZ)
    (hcons : f.chunks = x :: xs) :
    bfill f = .ok (filled x.1.length, ⟨{ f.stream with
      base := copyFront f.stream.base x.1
      fsize := filled x.1.length
      cnt := BUFSIZ - filled x.1.length
      p := 0
      w := 0
      r := 0 }, xs⟩) := by
  have hpos := x.2.1
  have hneg : ¬(x.1.length : ℤ) < 0 := by omega
  have hzero : ¬(x.1.length : ℤ) = 0 := by omega
  simp only [bfill, hsize, ne_eq, not_true_eq_false, if_false, readBuffer, hcons, hneg, hzero, filled]
  by_cases hfull : x.1.length ≥ BUFSIZ - 1
  · rw [if_pos (by simp only [BUFSIZ] at *; omega), if_pos hfull]
    simp
  · rw [if_neg (by simp only [BUFSIZ] at *; omega), if_neg hfull]

end Fill

/-! ## No call ends the process -/

section Total

variable {f : Reader}

lemma bfill_total (hsize : f.stream.lbfsize = BUFSIZ) :
    ∃ n g, bfill f = .ok (n, g) ∧ g.stream.lbfsize = BUFSIZ := by
  cases hf : f.chunks with
  | nil => exact ⟨_, _, bfill_nil hsize hf, hsize⟩
  | cons x xs => exact ⟨_, _, bfill_cons hsize hf, hsize⟩

lemma getc_total (hsize : f.stream.lbfsize = BUFSIZ) :
    ∃ c g, getc f = .ok (c, g) ∧ g.stream.lbfsize = BUFSIZ := by
  obtain ⟨n, g, hfill, hg⟩ := bfill_total hsize
  rw [getc, hfill]
  split_ifs
  · exact ⟨_, _, rfl, hsize⟩
  · exact ⟨_, _, rfl, hsize⟩
  · exact ⟨_, _, rfl, hsize⟩
  · by_cases hn : n ≤ 0
    · exact ⟨_, _, if_pos hn, hg⟩
    · exact ⟨_, _, if_neg hn, hg⟩
  · exact ⟨_, _, rfl, hsize⟩

lemma fgetsLoop_total {n : ℕ} (c : ℤ) (hsize : f.stream.lbfsize = BUFSIZ) :
    ∃ l c' g, fgetsLoop n c f = .ok (l, c', g) ∧ g.stream.lbfsize = BUFSIZ := by
  induction n generalizing c f with
  | zero => exact ⟨_, _, _, rfl, hsize⟩
  | succ n ih =>
      obtain ⟨c₁, g, hgetc, hg⟩ := getc_total hsize
      obtain ⟨l, c', g', hloop, hg'⟩ := ih c₁ hg
      have hcall : fgetsLoop (n + 1) c f = if c₁ < 0 then .ok ([], c₁, g)
          else if c₁ = 10 then .ok ([toUChar c₁], c₁, g)
          else .ok (toUChar c₁ :: l, c', g') := by
        rw [fgetsLoop, hgetc]
        change (if c₁ < 0 then _ else if c₁ = 10 then _ else fgetsLoop n c₁ g >>= _) = _
        rw [hloop]
        rfl
      rw [hcall]
      split_ifs
      · exact ⟨_, _, _, rfl, hg⟩
      · exact ⟨_, _, _, rfl, hg⟩
      · exact ⟨_, _, _, rfl, hg'⟩

lemma readStep_total {t : ReadTrace} {e : ReadEvent} (hsize : t.reader.stream.lbfsize = BUFSIZ) :
    ∃ t', readStep t e = .ok t' ∧ t'.reader.stream.lbfsize = BUFSIZ := by
  cases e with
  | fgetc =>
      obtain ⟨c, g, hgetc, hg⟩ := getc_total hsize
      refine ⟨⟨g, (t.source.call .fgetc).2⟩, ?_, hg⟩
      rw [readStep, Reader.call, fgetc, hgetc]
      rfl
  | fgets size =>
      obtain ⟨l, c', g, hloop, hg⟩ := fgetsLoop_total (n := (size - 1).toNat) 0 hsize
      refine ⟨⟨g, (t.source.call (.fgets size)).2⟩, ?_, hg⟩
      rw [readStep, Reader.call, fgets, hloop]
      rfl
  | ungetc c =>
      refine ⟨⟨(ungetc c.toNat t.reader).2, (t.source.call (.ungetc c)).2⟩, rfl, ?_⟩
      unfold ungetc
      split_ifs <;> exact hsize

end Total

/-! ## One byte -/

section Getc

variable {f : Reader} {src : Source} {k : ℕ}

lemma Reader.reach_zero (f : Reader) : f.Reach 0 := .inl (Nat.zero_le _)

/-- A stream that can give a byte is not stuck. -/
lemma Reader.Reach.not_stuck (h : f.Reach (k + 1)) : ¬f.stream.Stuck := by
  rintro ⟨hcnt, hr⟩
  rcases h with h | ⟨h, -⟩ <;> omega

/-- The byte that was pushed back comes first. -/
lemma Holds.getc_pushed {b : UInt8} {rest : List UInt8} (h : Holds f ⟨some b, rest⟩) (hb : b < 128) :
    getc f = .ok (b.toNat, { f with stream := { f.stream with haveUngotten := FALSE } }) ∧
      Holds { f with stream := { f.stream with haveUngotten := FALSE } } ⟨none, rest⟩ := by
  obtain ⟨hhave, hbyte⟩ := h.pushed
  refine ⟨?_, ⟨h.size, h.opened, rfl, h.order, h.count, h.rest⟩⟩
  rw [getc, if_pos hhave]
  exact congrArg (fun c => Except.ok (c, _)) (hbyte.trans (toChar_toNat hb))

/-- A byte of the buffer. -/
lemma Holds.getc_buffer {rest : List UInt8} (h : Holds f ⟨none, rest⟩) (hcnt : 0 < f.stream.cnt)
    (hr : f.stream.r < f.stream.fsize) (hreach : f.Reach (k + 1)) :
    ∃ b bs, rest = b :: bs ∧ (takeByte f).1 = b.toNat ∧ Holds (takeByte f).2 ⟨none, bs⟩ ∧
      (takeByte f).2.Reach k := by
  obtain ⟨m, hm⟩ : ∃ m, (f.stream.fsize - f.stream.r).toNat = m + 1 :=
    ⟨(f.stream.fsize - f.stream.r).toNat - 1, by omega⟩
  have hm' : (f.stream.fsize - (f.stream.r + 1)).toNat = m := by omega
  have hrest := h.rest.resolve_left hreach.not_stuck
  simp only [Stream.unread, hm, bytesOf_succ, add_zero, List.cons_append] at hrest
  refine ⟨_, _, hrest, rfl, ⟨h.size, h.opened, h.pushed, ?_, ?_, .inr ?_⟩, ?_⟩
  · change f.stream.r + 1 ≤ f.stream.fsize
    omega
  · have hcount := h.count
    change f.stream.cnt - 1 ≤ BUFSIZ
    omega
  · simp only [takeByte, Stream.unread, hm', Nat.add_assoc, Nat.add_comm 1]
  · simp only [Reader.Reach, takeByte, hm, hm'] at hreach ⊢
    rcases hreach with hle | ⟨hall, hchunks⟩
    · exact .inl (by omega)
    · refine .inr ⟨by omega, ?_⟩
      rwa [Nat.add_sub_add_right] at hchunks

/-- The first byte after the buffer was filled. -/
lemma Holds.getc_fill {rest : List UInt8} {x : Chunk} {xs : List Chunk} (h : Holds f ⟨none, rest⟩)
    (hcons : f.chunks = x :: xs) (hrest : rest = (f.chunks.map Subtype.val).flatten)
    (hreach : ChunksReach f.chunks (k + 1)) :
    ∃ b bs g, rest = b :: bs ∧ bfill f = .ok (filled x.1.length, g) ∧
      (takeByte g).1 = b.toNat ∧ Holds (takeByte g).2 ⟨none, bs⟩ ∧
      (takeByte g).2.Reach k := by
  obtain ⟨⟨l, hpos, hle⟩, rfl⟩ : ∃ y : Chunk, y = x := ⟨x, rfl⟩
  obtain ⟨b, bs, rfl⟩ : ∃ b bs, l = b :: bs := by
    cases l with
    | nil => simp at hpos
    | cons b bs => exact ⟨b, bs, rfl⟩
  refine ⟨b, bs ++ (xs.map Subtype.val).flatten, _, ?_, bfill_cons h.size hcons, ?_, ?_, ?_⟩
  · rw [hrest, hcons]
    rfl
  · rfl
  · refine ⟨h.size, h.opened, h.pushed, ?_, ?_, ?_⟩
    · change (1 : ℤ) ≤ filled (b :: bs).length
      rw [filled]
      split_ifs <;> simp [BUFSIZ]
    · change BUFSIZ - filled (b :: bs).length - 1 ≤ (BUFSIZ : ℤ)
      rw [filled]
      split_ifs <;> omega
    · by_cases hfull : (b :: bs).length ≥ BUFSIZ - 1
      · -- the buffer is taken to be used up
        refine .inl ⟨?_, ?_⟩
        · change BUFSIZ - filled (b :: bs).length - 1 ≤ (0 : ℤ)
          rw [filled, if_pos hfull]
          omega
        · change 1 < filled (b :: bs).length
          rw [filled, if_pos hfull]
          decide
      · refine .inr (congrArg (· ++ _) ?_)
        have hlen : (filled (b :: bs).length - 1).toNat = bs.length := by
          rw [filled, if_neg hfull, List.length_cons]
          omega
        refine List.ext_getElem ?_ fun i hi _ => ?_
        · rw [Stream.unread, length_bytesOf]
          exact hlen.symm
        · simp [Stream.unread, bytesOf, takeByte, copyFront, hi, Nat.add_comm 1]
  · rw [hcons] at hreach
    simp only [ChunksReach, available] at hreach
    simp only [Reader.Reach, takeByte, filled]
    split_ifs at hreach ⊢ with hfull
    · rcases hreach with hle | ⟨hone, -⟩
      · exact .inl (by omega)
      · simp only [BUFSIZ] at hfull
        omega
    · simp only [List.length_cons] at hreach ⊢
      rcases hreach with hle | ⟨hall, hchunks⟩
      · exact .inl (by omega)
      · refine .inr ⟨by omega, ?_⟩
        push_cast
        rw [add_sub_cancel_right, Int.toNat_natCast]
        rwa [Nat.add_sub_add_right] at hchunks

/-- At the end of the file. -/
lemma Holds.getc_nil (h : Holds f ⟨none, []⟩) (hnil : f.chunks = []) :
    Holds { f with stream := { f.stream with fsize := 0, cnt := BUFSIZ, p := 0, w := 0, r := 0 } }
      ⟨none, []⟩ where
  size := h.size
  opened := h.opened
  pushed := h.pushed
  order := le_rfl
  count := le_rfl
  rest := .inr (by simp [Stream.unread, bytesOf, hnil])

/-- **What `__getc` returns**, when a byte is within reach. -/
lemma Holds.getc (h : Holds f src) (hpush : ∀ b ∈ src.pushed, b < 128)
    (hreach : f.Reach (k + 1 - src.pushed.toList.length)) :
    ∃ c g, Libc.getc f = .ok (c, g) ∧ Holds g (src.deliver 1) ∧ g.Reach k ∧
      c = match src.content with
        | [] => EOF
        | b :: _ => (b.toNat : ℤ) := by
  obtain ⟨pushed, rest⟩ := src
  cases pushed with
  | some b =>
      obtain ⟨hgetc, hholds⟩ := h.getc_pushed (hpush b rfl)
      exact ⟨_, _, hgetc, hholds, hreach, rfl⟩
  | none =>
      have hnone : f.stream.haveUngotten = FALSE := h.pushed
      have hcount := h.count
      have hstuck := hreach.not_stuck
      rw [Stream.Stuck] at hstuck
      rw [Libc.getc, if_neg (by rw [hnone]; decide), if_neg (by rw [h.opened]; decide)]
      by_cases hr : f.stream.r < f.stream.fsize
      · obtain ⟨b, bs, rfl, hc, hholds, hk⟩ := h.getc_buffer (by omega) hr hreach
        rw [if_pos ⟨by omega, hcount, hr⟩]
        exact ⟨_, _, rfl, hholds, hk, hc⟩
      · have horder := h.order
        have hempty : (f.stream.fsize - f.stream.r).toNat = 0 := by omega
        have hrest := h.rest.resolve_left hreach.not_stuck
        simp only [Stream.unread, hempty, bytesOf, List.range_zero, List.map_nil,
          List.nil_append] at hrest
        have hchunks : ChunksReach f.chunks (k + 1) := by
          simp only [Reader.Reach, hempty, Nat.min_zero] at hreach
          rcases hreach with hle | ⟨-, hchunks⟩
          · exact absurd hle (by simp)
          · exact hchunks
        rw [if_neg fun hc => hr hc.2.2, if_pos (.inr (not_lt.1 hr))]
        cases hf : f.chunks with
        | nil =>
            obtain rfl : rest = [] := by rw [hrest, hf]; rfl
            rw [bfill_nil h.size hf]
            refine ⟨_, _, rfl, h.getc_nil hf, ?_, rfl⟩
            refine .inr ⟨rfl, ?_⟩
            rw [hf]
            exact trivial
        | cons x xs =>
            obtain ⟨b, bs, g, rfl, hfill, hc, hholds, hk⟩ := h.getc_fill hf hrest hchunks
            have hpos : ¬filled x.1.length ≤ 0 := by
              have := x.2.1
              rw [filled]
              split_ifs <;> simp only [BUFSIZ] <;> omega
            rw [hfill]
            refine ⟨_, _, if_neg hpos, hholds, hk, hc⟩

end Getc

/-! ## The calls -/

section Calls

variable {f : Reader} {src : Source}

/-- **What the loop of `fgets` stores.** -/
lemma Holds.fgetsLoop {n : ℕ} (h : Holds f src) (c : ℤ)
    (hpush : 0 < n → ∀ b ∈ src.pushed, b < 128)
    (hreach : f.Reach (lineAsks n src.content - src.pushed.toList.length)) :
    ∃ c' g, Libc.fgetsLoop n c f = .ok (lineOf n src.content, c', g) ∧
      Holds g (src.deliver (lineOf n src.content).length) ∧
      (lineOf n src.content = [] → c' = if n = 0 then c else EOF) := by
  induction n generalizing f src c with
  | zero => exact ⟨c, f, rfl, by simpa [lineOf] using h, fun _ => rfl⟩
  | succ n ih =>
      have hasks : lineAsks (n + 1) src.content = lineAsks (n + 1) src.content - 1 + 1 := by
        cases src.content with
        | nil => rfl
        | cons b bs =>
            simp only [lineAsks]
            split_ifs <;> omega
      rw [hasks] at hreach
      obtain ⟨c₁, g, hgetc, hholds, hrest, hc₁⟩ := h.getc (hpush n.succ_pos) hreach
      have hloop : Libc.fgetsLoop (n + 1) c f = if c₁ < 0 then .ok ([], c₁, g)
          else if c₁ = 10 then .ok ([toUChar c₁], c₁, g)
          else (Libc.fgetsLoop n c₁ g).bind fun r => .ok (toUChar c₁ :: r.1, r.2.1, r.2.2) := by
        rw [Libc.fgetsLoop, hgetc]
        rfl
      rw [hloop]
      cases hcontent : src.content with
      | nil =>
          simp only [hcontent] at hc₁
          rw [hc₁, if_pos (by decide)]
          rw [Source.deliver_nil hcontent] at hholds
          exact ⟨EOF, g, rfl, by simpa [lineOf] using hholds, fun _ => rfl⟩
      | cons b bs =>
          simp only [hcontent] at hc₁
          have hb := b.toNat_lt
          rw [hc₁, toUChar_toNat, if_neg (by omega)]
          by_cases hline : b = 10
          · subst hline
            exact ⟨_, g, rfl, hholds, fun h => by simp [lineOf] at h⟩
          · have hne : (b.toNat : ℤ) ≠ 10 := by
              intro heq
              have hten : b.toNat = 10 := by omega
              exact hline (UInt8.toNat_inj.1 hten)
            have hsrc : src.deliver 1 = ⟨none, bs⟩ := by simp [hcontent]
            rw [hcontent, lineAsks, if_neg hline, Nat.add_sub_cancel] at hrest
            rw [hsrc] at hholds
            obtain ⟨c', g', hgets, hholds', -⟩ := ih hholds b.toNat (fun _ b hb => by cases hb) hrest
            rw [if_neg hne, hgets]
            simp only [lineOf, if_neg hline]
            refine ⟨c', g', rfl, ?_, fun h => by cases h⟩
            rwa [List.length_cons, ← Source.deliver_deliver, hsrc]

/-- A byte is pushed back. -/
lemma Holds.pushBack {rest : List UInt8} (h : Holds f ⟨none, rest⟩) (c : UInt8) :
    Holds { f with stream := { f.stream with
      haveUngotten := TRUE, ungotten := toChar c.toNat, eof := FALSE } } ⟨some c, rest⟩ := by
  refine ⟨h.size, h.opened, ?_, h.order, h.count, h.rest⟩
  dsimp only
  exact ⟨rfl, rfl⟩

/-- **What a call returns**, when the bytes that it asks for are within reach. -/
lemma Holds.call {e : ReadEvent} (h : Holds f src) (hcond : ReadCondition ⟨f, src⟩ e) :
    ∃ g, f.call e = .ok ((src.call e).1, g) ∧ Holds g (src.call e).2 := by
  cases e with
  | fgetc =>
      obtain ⟨hpush, hreach⟩ := hcond.resolve_left one_ne_zero
      obtain ⟨c, g, hgetc, hholds, -, hc⟩ := h.getc (k := 0) hpush hreach
      have hcall : f.call .fgetc = .ok (.value c, g) := by
        rw [Reader.call, fgetc, hgetc]
        rfl
      rw [hcall, Source.call]
      cases hcontent : src.content with
      | nil =>
          rw [Source.deliver_nil hcontent] at hholds
          rw [hcontent] at hc
          exact ⟨g, by rw [hc], hholds⟩
      | cons b bs =>
          rw [hcontent] at hc
          exact ⟨g, by rw [hc], hholds⟩
  | fgets size =>
      have hpush : 0 < (size - 1).toNat → ∀ b ∈ src.pushed, b < 128 := by
        intro hn
        refine (hcond.resolve_left ?_).1
        change lineAsks (size - 1).toNat src.content ≠ 0
        obtain ⟨n, hn⟩ := Nat.exists_eq_add_of_lt hn
        rw [hn, Nat.zero_add]
        cases src.content with
        | nil => exact one_ne_zero
        | cons b bs =>
            simp only [lineAsks]
            split_ifs <;> omega
      have hreach : f.Reach (lineAsks (size - 1).toNat src.content - src.pushed.toList.length) := by
        rcases hcond with hzero | ⟨-, hreach⟩
        · change lineAsks (size - 1).toNat src.content = 0 at hzero
          rw [hzero, Nat.zero_sub]
          exact f.reach_zero
        · exact hreach
      obtain ⟨c, g, hloop, hholds, hc⟩ := h.fgetsLoop 0 hpush hreach
      refine ⟨g, ?_, hholds⟩
      have hcall : f.call (.fgets size) =
          .ok (.line (if c < 0 ∧ lineOf (size - 1).toNat src.content = [] then none
            else some (lineOf (size - 1).toNat src.content)), g) := by
        rw [Reader.call, fgets, hloop]
        rfl
      have hnull : (c < 0 ∧ lineOf (size - 1).toNat src.content = []) ↔
          0 < (size - 1).toNat ∧ src.content = [] := by
        constructor
        · rintro ⟨hneg, hnil⟩
          have hc := hc hnil
          obtain ⟨n, hn⟩ : ∃ n, (size - 1).toNat = n + 1 := by
            refine Nat.exists_eq_succ_of_ne_zero fun hzero => ?_
            rw [if_pos hzero] at hc
            omega
          refine ⟨by omega, ?_⟩
          rw [hn] at hnil
          cases hcontent : src.content with
          | nil => rfl
          | cons b bs =>
              rw [hcontent, lineOf] at hnil
              split_ifs at hnil
        · rintro ⟨hpos, hnil⟩
          have hline : lineOf (size - 1).toNat src.content = [] := by
            rw [hnil]
            cases (size - 1).toNat <;> rfl
          refine ⟨?_, hline⟩
          rw [hc hline, if_neg (by omega)]
          decide
      rw [hcall]
      simp only [Source.call, hnull]
  | ungetc c =>
      have hne : (c.toNat : ℤ) ≠ EOF := by
        rw [EOF]
        omega
      have hpushed := h.pushed
      obtain ⟨pushed, rest⟩ := src
      cases pushed with
      | none =>
          refine ⟨_, ?_, h.pushBack c⟩
          rw [Reader.call, ungetc, if_neg hne, if_neg (not_not.2 hpushed)]
          rfl
      | some b =>
          have hungetc : ungetc c.toNat f = (EOF, f) := by
            rw [ungetc, if_neg hne, if_pos (by rw [hpushed.1]; decide)]
          refine ⟨f, ?_, h⟩
          rw [Reader.call, hungetc]
          rfl

end Calls

/-- A stream just opened holds the file. -/
lemma readInit_holds (chunks : List Chunk) :
    Holds (readInit chunks).reader (readInit chunks).source where
  size := rfl
  opened := rfl
  pushed := rfl
  order := le_rfl
  count := le_rfl
  rest := .inr rfl

/-- **Reading is exact** in every run whose calls ask for bytes within reach: no call ends the
process, and each returns what it should. -/
theorem stream_read_run (chunks : List Chunk) (es : List ReadEvent)
    (hmeets : Meets readStep ReadCondition (readInit chunks) es) :
    (∃ t, runs readStep (readInit chunks) es = .ok t) ∧
      AlongSteps readStep ReadContract (readInit chunks) es := by
  refine ⟨runs_total_keep (fun t e => readStep_total) es _ rfl, ?_⟩
  refine hmeets.alongSteps (J := fun t => Holds t.reader t.source) ?_ (readInit_holds chunks)
  intro t e t' hholds hcond hs
  obtain ⟨g, hcall, hg⟩ := hholds.call hcond
  obtain rfl : (⟨g, (t.source.call e).2⟩ : ReadTrace) = t' := by
    rw [readStep, hcall] at hs
    exact Except.ok.inj hs
  exact ⟨⟨g, hcall⟩, hg⟩

/-- Three bytes: the first, and the line of the other two. -/
theorem stream_read_run_line :
    (∃ t, runs readStep (readInit [⟨[65, 66, 10], by decide⟩]) [.fgetc, .fgets 10] = .ok t) ∧
      AlongSteps readStep ReadContract (readInit [⟨[65, 66, 10], by decide⟩]) [.fgetc, .fgets 10] := by
  refine stream_read_run _ _ fun t ht => ⟨?_, fun t' _ => ⟨?_, trivial⟩⟩
  · exact .inr ⟨(fun b hb => by cases hb), .inr ⟨rfl, .inl (by decide)⟩⟩
  · obtain rfl := Except.ok.inj ht
    exact .inr ⟨(fun b hb => by cases hb), .inl (by decide)⟩

/-- After one byte of a full buffer the stream fills it again. -/
lemma getc_full {f : Reader} {x : Chunk} (hsize : f.stream.lbfsize = BUFSIZ)
    (hopened : f.stream.closed = false) (hpushed : f.stream.haveUngotten = FALSE)
    (hempty : f.stream.fsize ≤ f.stream.r) (hchunks : f.chunks = [x])
    (hfull : x.1.length ≥ BUFSIZ - 1) :
    ∃ c g, getc f = .ok (c, g) ∧ ∃ g', getc g = .ok (EOF, g') := by
  have hnone : ¬f.stream.haveUngotten = TRUE := by rw [hpushed]; decide
  have hclosed : ¬f.stream.closed = true := by rw [hopened]; decide
  have hpos : ¬filled x.1.length ≤ 0 := by
    rw [filled, if_pos hfull]
    decide
  have hcnt : (BUFSIZ : ℤ) - filled x.1.length - 1 ≤ 0 := by
    rw [filled, if_pos hfull]
    decide
  obtain ⟨c, g, hgetc, hstuck, hnil, hsize', hopened', hpushed'⟩ : ∃ c g, getc f = .ok (c, g) ∧
      g.stream.cnt ≤ 0 ∧ g.chunks = [] ∧ g.stream.lbfsize = BUFSIZ ∧
      ¬g.stream.closed = true ∧ ¬g.stream.haveUngotten = TRUE := by
    rw [getc, if_neg hnone, if_neg hclosed, if_neg fun h => absurd h.2.2 (not_lt.2 hempty),
      if_pos (.inr hempty), bfill_cons hsize hchunks]
    exact ⟨_, _, if_neg hpos, hcnt, rfl, hsize, hclosed, hnone⟩
  refine ⟨c, g, hgetc, ?_⟩
  rw [getc, if_neg hpushed', if_neg hopened', if_neg fun h => absurd h.1 (not_lt.2 hstuck),
    if_pos (.inl hstuck), bfill_nil hsize' hnil]
  exact ⟨_, rfl⟩

/-- Of a file of 1024 bytes that `read` returns at once, the second byte is already the end. -/
theorem stream_read_run_fails :
    ¬∀ (chunks : List Chunk) (es : List ReadEvent),
      AlongSteps readStep ReadContract (readInit chunks) es := by
  intro h
  obtain ⟨l, hl⟩ : ∃ l : List UInt8, l.length = 1022 := ⟨.replicate 1022 65, List.length_replicate⟩
  have hlen : (65 :: 65 :: l : List UInt8).length = BUFSIZ := by
    rw [List.length_cons, List.length_cons, hl, BUFSIZ]
  set x : Chunk := ⟨65 :: 65 :: l, by rw [hlen]; decide⟩ with hx
  obtain ⟨c, g, hfirst, g', hsecond⟩ := getc_full (f := (readInit [x]).reader) rfl rfl rfl le_rfl rfl
    (by rw [hx, hlen]; decide)
  have hstep : readStep (readInit [x]) .fgetc = .ok ⟨g, ⟨none, 65 :: (l ++ [])⟩⟩ := by
    rw [readStep, Reader.call, fgetc, hfirst]
    rfl
  obtain ⟨-, hcontract⟩ := h [x] [.fgetc, .fgetc] _ hstep
  obtain ⟨⟨f, hcall⟩, -⟩ := hcontract ⟨g', ⟨none, l ++ []⟩⟩ (by
    rw [readStep, Reader.call, fgetc, hsecond]
    rfl)
  rw [Reader.call, fgetc, hsecond] at hcall
  have hvalue : ReadResult.value EOF = .value 65 := (Prod.mk.inj (Except.ok.inj hcall)).1
  exact absurd (ReadResult.value.inj hvalue) (by decide)

end Gramado.Libc
