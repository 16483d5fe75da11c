import Gramado.Core.CTypes

/-!
# Buffered streams

The streams of `libc/stdio.c`: a buffer of `BUFSIZ` bytes between a process and the kernel's `read`
and `write`.  `____bfill` fills the buffer and `__getc` takes bytes out of it; `__putc` puts bytes
into it and `__fflush` hands them on.

What the kernel does is part of the state: the pieces in which `read` will return the bytes of the
file, and how many bytes each `write` will accept.
-/

namespace Gramado.Libc

/-- `BUFSIZ`. -/
def BUFSIZ : ℕ := 1024

/-- `EOF`. -/
abbrev EOF : ℤ := -1

/-- How a library call ends without returning. -/
inductive Abort where
  /-- `exit(code)`: the process ends. -/
  | exit (code : ℤ)
  /-- A store or a load outside the buffer. -/
  | badPointer
  deriving DecidableEq, Repr

/-- `struct _iobuf`; the working pointer is an offset from the base. -/
structure Stream where
  /-- The bytes at `_base`. -/
  base : ℕ → UInt8
  /-- `_base` and `_p` are null. -/
  closed : Bool
  p : ℕ
  r : ℤ
  w : ℤ
  lbfsize : ℤ
  fsize : ℤ
  cnt : ℤ
  eof : ℤ
  haveUngotten : ℤ
  ungotten : ℤ

/-- The stream that `fopen` makes. -/
def fopen : Stream where
  base _ := 0
  closed := false
  p := 0
  r := 0
  w := 0
  lbfsize := BUFSIZ
  fsize := 0
  cnt := BUFSIZ
  eof := 0
  haveUngotten := FALSE
  ungotten := 0

/-- An `int` stored in an `unsigned char`. -/
def toUChar (c : ℤ) : UInt8 := UInt8.ofNat (c % 256).toNat

/-- An `int` stored in a `char`, which is signed. -/
def toChar (c : ℤ) : ℤ := Int.bmod c 256

/-! ## Reading -/

/-- What one `read` returns of a file. -/
abbrev Chunk := { x : List UInt8 // 1 ≤ x.length ∧ x.length ≤ BUFSIZ }

/-- A stream to read from, and what `read` will return, one call after the other and then nothing. -/
structure Reader where
  stream : Stream
  chunks : List Chunk

/-- `read` of at most `BUFSIZ` bytes to the base of the buffer. -/
def readBuffer (f : Reader) : ℤ × Reader :=
  match f.chunks with
  | [] => (0, f)
  | x :: chunks =>
      (x.1.length, ⟨{ f.stream with base := copyFront f.stream.base x.1 }, chunks⟩)

/-- `____bfill`. -/
def bfill (f : Reader) : Except Abort (ℤ × Reader) :=
  if f.stream.lbfsize ≠ BUFSIZ then .error (.exit 1)
  else
    let f := { f with stream := { f.stream with cnt := BUFSIZ - 1, p := 0, w := 0, r := 0 } }
    let (nRead, f) := readBuffer f
    let s := f.stream
    if nRead < 0 then .ok (EOF, { f with stream := { s with fsize := 0, cnt := BUFSIZ } })
    else if nRead = 0 then .ok (EOF, { f with stream := { s with fsize := 0, cnt := BUFSIZ } })
    else if nRead ≥ BUFSIZ - 1 then
      .ok (BUFSIZ, { f with stream := { s with
        fsize := BUFSIZ, cnt := 0, p := 0, w := 0, r := 0 } })
    else
      .ok (nRead, { f with stream := { s with
        fsize := nRead, cnt := s.lbfsize - nRead, p := 0, w := 0, r := 0 } })

/-- The byte at the working pointer, and the stream one byte on. -/
def takeByte (f : Reader) : ℤ × Reader :=
  let s := f.stream
  ((s.base s.p).toNat, { f with stream := { s with p := s.p + 1, r := s.r + 1, cnt := s.cnt - 1 } })

/-- `__getc`. -/
def getc (f : Reader) : Except Abort (ℤ × Reader) :=
  let s := f.stream
  if s.haveUngotten = TRUE then
    .ok (s.ungotten, { f with stream := { s with haveUngotten := FALSE } })
  else if s.closed then .ok (EOF, f)
  else if s.cnt > 0 ∧ s.cnt ≤ BUFSIZ ∧ s.r < s.fsize then .ok (takeByte f)
  else if s.cnt ≤ 0 ∨ s.r ≥ s.fsize then do
    let (nreads, f) ← bfill f
    if nreads ≤ 0 then
      .ok (EOF, { f with stream := { f.stream with
        fsize := 0, cnt := BUFSIZ, p := 0, w := 0, r := 0 } })
    else .ok (takeByte f)
  else .ok (EOF, f)

/-- `fgetc`. -/
def fgetc (f : Reader) : Except Abort (ℤ × Reader) := getc f

/-- The loop of `fgets`, for as many more bytes as there is room for: the bytes it stores and the
last value of `c`. -/
def fgetsLoop : ℕ → ℤ → Reader → Except Abort (List UInt8 × ℤ × Reader)
  | 0, c, f => .ok ([], c, f)
  | n + 1, _, f => do
      let (c, f) ← getc f
      if c < 0 then .ok ([], c, f)
      else if c = 10 then .ok ([toUChar c], c, f)
      else
        let (l, c', f) ← fgetsLoop n c f
        .ok (toUChar c :: l, c', f)

/-- `fgets`: null, or the bytes that it stores in front of the terminating zero. -/
def fgets (size : ℤ) (f : Reader) : Except Abort (Option (List UInt8) × Reader) := do
  let (l, c, f) ← fgetsLoop (size - 1).toNat 0 f
  .ok (if c < 0 ∧ l = [] then none else some l, f)

/-- `ungetc`. -/
def ungetc (c : ℤ) (f : Reader) : ℤ × Reader :=
  if c = EOF then (EOF, f)
  else if f.stream.haveUngotten ≠ 0 then (EOF, f)
  else (c, { f with stream := { f.stream with
    haveUngotten := TRUE, ungotten := toChar c, eof := FALSE } })

/-! ## Writing -/

/-- A stream to write to, how many bytes each `write` will accept (none, when the number is not
positive: the call fails and returns it), how many calls there were, and the bytes accepted. -/
structure Writer where
  stream : Stream
  results : ℕ → ℤ
  calls : ℕ
  accepted : List UInt8

/-- `write` of the first `count` bytes of the buffer. -/
def writeBuffer (count : ℕ) (f : Writer) : ℤ × Writer :=
  let result := min (f.results f.calls) count
  (result, { f with
    calls := f.calls + 1
    accepted := f.accepted ++ bytesOf f.stream.base result.toNat })

/-- `__fflush`. -/
def fflush (f : Writer) : ℤ × Writer :=
  if f.stream.closed then (-1, f)
  else
    -- a count that is not positive is not written
    let count := f.stream.w.toNat
    if count ≤ 0 then (0, { f with stream := { f.stream with p := 0, w := 0 } })
    else
      let count := if count > BUFSIZ then BUFSIZ else count
      let (nwrite, f) := writeBuffer count f
      if nwrite ≤ 0 then (EOF, { f with stream := { f.stream with p := 0, w := 0 } })
      -- a short `write` is only noted
      else (0, { f with stream := { f.stream with p := 0, w := 0 } })

/-- `stream->_base[stream->_w] = ch`. -/
def putByte (ch : ℤ) (f : Writer) : Except Abort Writer :=
  let s := f.stream
  if s.closed then .error .badPointer
  else if s.w < 0 ∨ s.w ≥ BUFSIZ then .error .badPointer
  else .ok { f with stream := { s with base := Function.update s.base s.w.toNat (toUChar ch) } }

/-- `__putc`. -/
def putc (ch : ℤ) (f : Writer) : Except Abort (ℤ × Writer) :=
  if f.stream.w ≥ (BUFSIZ : ℤ) then .ok (EOF, { f with stream := { f.stream with cnt := 0 } })
  else do
    let f ← putByte ch f
    let f := { f with stream := { f.stream with w := f.stream.w + 1 } }
    if f.stream.w ≥ (BUFSIZ : ℤ) then
      let f := { f with stream := { f.stream with cnt := 0 } }
      .ok (ch, (fflush f).2)
    else if ch = 10 then .ok (ch, (fflush f).2)
    else .ok (ch, f)

/-- `fputc`. -/
def fputc (ch : ℤ) (f : Writer) : Except Abort (ℤ × Writer) := putc ch f

/-- The loop of `fputs` and of `puts`, over the characters of a string: the last value of `r`. -/
def putsLoop : List ℤ → ℤ → Writer → Except Abort (ℤ × Writer)
  | [], r, f => .ok (r, f)
  | c :: s, _, f => do
      let (r, f) ← putc c f
      putsLoop s r f

/-- `fputs`. -/
def fputs (s : List ℤ) (f : Writer) : Except Abort (ℤ × Writer) := putsLoop s 0 f

/-- `puts`, the stream being `stdout`. -/
def puts (s : List ℤ) (f : Writer) : Except Abort (ℤ × Writer) := do
  let (_, f) ← putsLoop s 0 f
  putc 10 f

/-- `fclose`. -/
def fclose (f : Writer) : ℤ × Writer :=
  let (_, f) := fflush f
  (0, { f with stream := { f.stream with closed := true, cnt := 0 } })

end Gramado.Libc
