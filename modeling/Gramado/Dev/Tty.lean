import Gramado.Lib.Run
import Gramado.Core.CTypes

/-!
# The raw queue of a terminal

`__tty_write` and `__tty_read` of `kres/dev/chardev/tty/tty.c` move bytes through the raw queue of a
tty.  The queue is an array of 1024 bytes with a head and a tail that only ever go up.  A read that
finds fewer bytes than it was asked for takes them out of the queue and returns without a copy.  A
write to a tty with a link copies the array of the other tty over its own.

* `TtyContract` — a call passes bytes on as a queue of 1024 bytes does, to the reader of the tty or,
  when there is a link, to the reader of the other one.
* `TtyCondition` — a write finds room behind the head of a tty that has no link, and a read finds all
  the bytes it asks for.

`tty_run`: in every run, all calls meet the contract if and only if they meet the condition.
-/

namespace Gramado

open StepRun

/-! ## The calls -/

/-- `TTY_BUF_SIZE`. -/
def TTY_BUF_SIZE : ℕ := 1024

/-- `struct tty_queue`. -/
structure TtyQueue where
  buf : ℕ → UInt8
  head : ℕ
  tail : ℕ

/-- `struct tty_d`; a link is the number of the other tty. -/
structure Tty where
  used : ℤ
  magic : ℤ
  link : Option ℕ
  rawQueue : TtyQueue

/-- `tty_copy_raw_buffer`: what it returns, and the tty it copies to. -/
def ttyCopyRawBuffer (ttyTo ttyFrom : Tty) : ℤ × Tty :=
  if ttyTo.magic ≠ 1234 then (-1, ttyTo)
  else if ttyFrom.magic ≠ 1234 then (-1, ttyTo)
  else (TTY_BUF_SIZE, { ttyTo with rawQueue := { ttyTo.rawQueue with
    buf := fun i => if i < TTY_BUF_SIZE then ttyFrom.rawQueue.buf i else ttyTo.rawQueue.buf i } })

/-- The loop of `__tty_read`: the bytes it has taken, whether it returns from the inside, and the
queue. -/
def ttyReadLoop : ℕ → TtyQueue → List UInt8 × Bool × TtyQueue
  | 0, q => ([], false, q)
  | rbytes + 1, q =>
      if q.head = q.tail then ([], true, q)
      else if q.tail > TTY_BUF_SIZE then ([], true, q)
      else
        let (data, stop, q') := ttyReadLoop rbytes { q with tail := q.tail + 1 }
        (q.buf q.tail :: data, stop, q')

/-- At most the size of the queue. -/
def ttyBytes (nr : ℤ) : ℕ := if nr > TTY_BUF_SIZE then TTY_BUF_SIZE else nr.toNat

/-- `__tty_read` into a buffer: what it returns, what the buffer holds then, and the tty. -/
def ttyRead (buffer : ℕ → UInt8) (nr : ℤ) (tty : Tty) : ℤ × (ℕ → UInt8) × Tty :=
  if tty.used ≠ TRUE ∨ tty.magic ≠ 1234 then (-1, buffer, tty)
  else if nr ≤ 0 then (-1, buffer, tty)
  else
    let (data, stop, q) := ttyReadLoop (ttyBytes nr) tty.rawQueue
    let tty := { tty with rawQueue := q }
    -- a return from inside the loop leaves out the copy
    if stop then (data.length, buffer, tty)
    else (data.length, copyFront buffer data, tty)

/-- The loop of `__tty_write`: how many bytes it has put into the queue, and the queue. -/
def ttyWriteLoop : List UInt8 → TtyQueue → ℕ × TtyQueue
  | [], q => (0, q)
  | c :: data, q =>
      if q.head ≥ TTY_BUF_SIZE then (0, q)
      else
        let (i, q) := ttyWriteLoop data
          { q with buf := Function.update q.buf q.head c, head := q.head + 1 }
        (i + 1, q)

/-- `__tty_write` to the tty `t` of the table: what it returns, and the table. -/
def ttyWrite (t : ℕ) (buffer : ℕ → UInt8) (nr : ℤ) (ttys : ℕ → Tty) : ℤ × (ℕ → Tty) :=
  let tty := ttys t
  if tty.used ≠ TRUE ∨ tty.magic ≠ 1234 then (-1, ttys)
  else if nr ≤ 0 then (-1, ttys)
  else
    let (i, q) := ttyWriteLoop (bytesOf buffer (ttyBytes nr)) tty.rawQueue
    let ttys := Function.update ttys t { tty with rawQueue := q }
    match tty.link with
    | none => (i, ttys)
    | some slave =>
        if (ttys slave).magic = 1234 then
          (i, Function.update ttys t (ttyCopyRawBuffer (ttys t) (ttys slave)).2)
        else (i, ttys)

/-- The ttys as they are created, and linked after that. -/
def ttyCreate (link : ℕ → Option ℕ) (t : ℕ) : Tty where
  used := TRUE
  magic := 1234
  link := link t
  rawQueue := { buf := fun _ => 0, head := 0, tail := 0 }

/-! ## Runs -/

/-- The calls, on any tty, with any buffer and any length. -/
inductive TtyEvent where
  | write (t : ℕ) (buffer : ℕ → UInt8) (nr : ℤ)
  | read (t : ℕ) (buffer : ℕ → UInt8) (nr : ℤ)

/-- The tty whose reader is to get what is written to this one. -/
def Tty.readBy (tty : Tty) (t : ℕ) : ℕ := tty.link.getD t

/-- The ttys, and for each of them the bytes that writes have accepted for its reader and the bytes
that its reads have delivered. -/
structure TtyTrace where
  ttys : ℕ → Tty
  accepted : ℕ → List UInt8
  delivered : ℕ → List UInt8

/-- One call: of a call that returns a negative number no byte is accepted or delivered. -/
def ttyStep (s : TtyTrace) : TtyEvent → Except Fault TtyTrace
  | .write t buffer nr =>
      let (ret, ttys) := ttyWrite t buffer nr s.ttys
      let u := (s.ttys t).readBy t
      .ok { s with
        ttys := ttys
        accepted := Function.update s.accepted u (s.accepted u ++ bytesOf buffer ret.toNat) }
  | .read t buffer nr =>
      let (ret, dst, tty) := ttyRead buffer nr (s.ttys t)
      .ok { s with
        ttys := Function.update s.ttys t tty
        delivered := Function.update s.delivered t (s.delivered t ++ bytesOf dst ret.toNat) }

/-- Before the first call. -/
def ttyInit (link : ℕ → Option ℕ) : TtyTrace := ⟨ttyCreate link, fun _ => [], fun _ => []⟩

/-- The bytes in the queue. -/
def TtyQueue.bytes (q : TtyQueue) : List UInt8 :=
  bytesOf (fun i => q.buf (q.tail + i)) (q.head - q.tail)

/-- What was accepted for the reader of a tty was delivered to it, in order and once, or is in its
queue. -/
def TtyTrace.Lossless (s : TtyTrace) : Prop :=
  ∀ t, s.accepted t = s.delivered t ++ (s.ttys t).rawQueue.bytes

/-- The bytes that the reader of a tty has not had yet. -/
def TtyTrace.waiting (s : TtyTrace) (t : ℕ) : ℕ := (s.accepted t).length - (s.delivered t).length

/-- **What a call promises.**  Nothing is lost, reordered or altered; a write accepts the bytes for
which there is room, every byte that was read making room again; a read delivers the bytes that
wait, as far as it asks for them. -/
def TtyContract (s : TtyTrace) (e : TtyEvent) (s' : TtyTrace) : Prop :=
  s'.Lossless ∧
    match e with
    | .write t _ nr =>
        let u := (s.ttys t).readBy t
        (s'.accepted u).length = (s.accepted u).length + min nr.toNat (TTY_BUF_SIZE - s.waiting u)
    | .read t _ nr =>
        (s'.delivered t).length = (s.delivered t).length + min nr.toNat (s.waiting t)

/-- A write to a tty without a link finds room behind the head, unless nothing was read yet; a write
to a tty with a link finds both queues at their ends and the arrays equal; a read finds no byte, or
as many as it asks for, or its buffer holds them already. -/
def TtyCondition (s : TtyTrace) : TtyEvent → Prop
  | .write t _ nr =>
      let q := (s.ttys t).rawQueue
      let u := (s.ttys t).readBy t
      nr ≤ 0 ∨
        if u = t then q.tail = 0 ∨ q.head + nr ≤ TTY_BUF_SIZE
        else
          q.head = TTY_BUF_SIZE ∧ (s.ttys u).rawQueue.bytes.length = TTY_BUF_SIZE ∧
            ∀ i, q.tail ≤ i → i < TTY_BUF_SIZE → (s.ttys u).rawQueue.buf i = q.buf i
  | .read t buffer nr =>
      let q := (s.ttys t).rawQueue
      ttyBytes nr ≤ q.bytes.length ∨ bytesOf buffer q.bytes.length = q.bytes

/-! ## What a call does -/

section Queue

variable {q : TtyQueue}

/-- The head is behind the tail, and inside the array. -/
structure TtyQueue.Sound (q : TtyQueue) : Prop where
  order : q.tail ≤ q.head
  bound : q.head ≤ TTY_BUF_SIZE

@[simp] lemma TtyQueue.length_bytes : q.bytes.length = q.head - q.tail := length_bytesOf _ _

/-- The first byte of a queue that is not empty. -/
lemma TtyQueue.bytes_cons (h : q.tail < q.head) :
    q.bytes = q.buf q.tail :: { q with tail := q.tail + 1 }.bytes := by
  obtain ⟨n, hn⟩ : ∃ n, q.head - q.tail = n + 1 := ⟨q.head - q.tail - 1, by omega⟩
  have hrest : q.head - (q.tail + 1) = n := by omega
  simp only [TtyQueue.bytes, hn, hrest, bytesOf_succ, add_zero]
  congr 2
  funext k
  rw [Nat.add_assoc, Nat.add_comm 1 k]

/-- The read loop takes bytes from the front, and stops when it finds none. -/
lemma ttyReadLoop_eq (n : ℕ) (h : q.Sound) :
    ttyReadLoop n q = (q.bytes.take n, decide (q.bytes.length < n),
      { q with tail := q.tail + min n q.bytes.length }) := by
  induction n generalizing q with
  | zero =>
      simp [ttyReadLoop]
  | succ n ih =>
      rcases h.order.eq_or_lt with hempty | hlt
      · have hlen : q.bytes.length = 0 := by rw [TtyQueue.length_bytes]; omega
        rw [ttyReadLoop, if_pos hempty.symm, hlen, List.length_eq_zero_iff.1 hlen]
        simp
      · have hbound := h.bound
        have hrest : TtyQueue.Sound { q with tail := q.tail + 1 } := ⟨hlt, hbound⟩
        rw [ttyReadLoop, if_neg (by omega), if_neg (by omega), ih hrest, q.bytes_cons hlt]
        simp only [List.take_succ_cons, List.length_cons, Nat.add_lt_add_iff_right,
          Prod.mk.injEq, TtyQueue.mk.injEq, true_and]
        omega

/-- A byte behind the head. -/
lemma TtyQueue.bytes_snoc (h : q.tail ≤ q.head) (c : UInt8) :
    { q with buf := Function.update q.buf q.head c, head := q.head + 1 }.bytes = q.bytes ++ [c] := by
  have hlen : q.head + 1 - q.tail = q.head - q.tail + 1 := by omega
  simp only [TtyQueue.bytes, hlen, bytesOf_add]
  congr 1
  · rw [bytesOf_congr]
    intro k hk
    exact Function.update_of_ne (by omega) _ _
  · have hlast : q.tail + (q.head - q.tail) = q.head := by omega
    simp [bytesOf, hlast]

/-- The write loop puts bytes behind the head, up to the end of the array. -/
lemma ttyWriteLoop_eq (data : List UInt8) (h : q.Sound) :
    ∃ q', ttyWriteLoop data q = (min data.length (TTY_BUF_SIZE - q.head), q') ∧
      q'.tail = q.tail ∧ q'.head = q.head + min data.length (TTY_BUF_SIZE - q.head) ∧
      q'.bytes = q.bytes ++ data.take (TTY_BUF_SIZE - q.head) := by
  induction data generalizing q with
  | nil =>
      exact ⟨q, by simp [ttyWriteLoop]⟩
  | cons c data ih =>
      have hbound := h.bound
      rw [ttyWriteLoop]
      by_cases hfull : q.head ≥ TTY_BUF_SIZE
      · have hroom : TTY_BUF_SIZE - q.head = 0 := by omega
        rw [if_pos hfull, hroom]
        exact ⟨q, by simp⟩
      · obtain ⟨room, hroom⟩ : ∃ room, TTY_BUF_SIZE - q.head = room + 1 :=
          ⟨TTY_BUF_SIZE - q.head - 1, by omega⟩
        have hrest : TTY_BUF_SIZE - (q.head + 1) = room := by omega
        have hsound : TtyQueue.Sound
            { q with buf := Function.update q.buf q.head c, head := q.head + 1 } :=
          ⟨Nat.le_succ_of_le h.order, Nat.lt_of_not_le hfull⟩
        obtain ⟨q', hloop, htail, hhead, hbytes⟩ := ih hsound
        rw [if_neg hfull, hloop]
        dsimp only at htail hhead hbytes ⊢
        rw [hrest] at hhead hbytes ⊢
        rw [TtyQueue.bytes_snoc h.order] at hbytes
        rw [hroom, List.length_cons]
        refine ⟨q', by simp only [Prod.mk.injEq, and_true]; omega, htail, by omega, ?_⟩
        rw [hbytes, List.append_assoc, List.singleton_append, List.take_succ_cons]

/-- A read leaves what it did not take. -/
lemma TtyQueue.bytes_drop (k : ℕ) : { q with tail := q.tail + k }.bytes = q.bytes.drop k := by
  refine List.ext_getElem ?_ fun i h _ => ?_
  · simp only [TtyQueue.length_bytes, List.length_drop]
    omega
  · simp [TtyQueue.bytes, bytesOf, Nat.add_assoc]

/-- When another array makes no difference to the bytes of a queue that ends with the array. -/
lemma TtyQueue.bytes_overlay (h : q.head = TTY_BUF_SIZE) (other : ℕ → UInt8) :
    { q with buf := fun i => if i < TTY_BUF_SIZE then other i else q.buf i }.bytes = q.bytes ↔
      ∀ i, q.tail ≤ i → i < TTY_BUF_SIZE → other i = q.buf i := by
  rw [TtyQueue.bytes, TtyQueue.bytes, bytesOf_congr]
  dsimp only
  constructor
  · intro heq i hlo hhi
    obtain ⟨k, rfl⟩ := Nat.exists_eq_add_of_le hlo
    have hk := heq k (by omega)
    rwa [if_pos hhi] at hk
  · intro heq k hk
    have hhi : q.tail + k < TTY_BUF_SIZE := by omega
    rw [if_pos hhi]
    exact heq _ (Nat.le_add_right _ _) hhi

/-- A write to a queue whose head is at the end of the array. -/
lemma ttyWriteLoop_full (data : List UInt8) (h : q.head = TTY_BUF_SIZE) :
    ttyWriteLoop data q = (0, q) := by
  cases data with
  | nil => rfl
  | cons c data => rw [ttyWriteLoop, if_pos h.ge]

end Queue

lemma take_bytesOf (b : ℕ → UInt8) (n k : ℕ) : (bytesOf b n).take k = bytesOf b (min k n) := by
  simp [bytesOf, ← List.map_take, List.take_range]

section Calls

variable {tty : Tty} {nr : ℤ}

/-- A tty that the calls take, with a sound queue. -/
structure Tty.Sound (tty : Tty) : Prop where
  used : tty.used = TRUE
  magic : tty.magic = 1234
  queue : tty.rawQueue.Sound

lemma ttyBytes_le (nr : ℤ) : ttyBytes nr ≤ TTY_BUF_SIZE := by
  rw [ttyBytes]
  split_ifs <;> omega

/-- **What a read does.** -/
lemma ttyRead_eq (h : tty.Sound) (buffer : ℕ → UInt8) (nr : ℤ) :
    ∃ ret dst, ttyRead buffer nr tty =
        (ret, dst, { tty with rawQueue := { tty.rawQueue with
          tail := tty.rawQueue.tail + min (ttyBytes nr) tty.rawQueue.bytes.length } }) ∧
      bytesOf dst ret.toNat =
        if ttyBytes nr ≤ tty.rawQueue.bytes.length then tty.rawQueue.bytes.take (ttyBytes nr)
        else bytesOf buffer tty.rawQueue.bytes.length := by
  have hvalid : ¬(tty.used ≠ TRUE ∨ tty.magic ≠ 1234) := by simp [h.used, h.magic]
  rw [ttyRead, if_neg hvalid]
  by_cases hnr : nr ≤ 0
  · have hzero : ttyBytes nr = 0 := by
      rw [ttyBytes, if_neg (by omega)]
      omega
    rw [if_pos hnr, hzero]
    exact ⟨-1, buffer, by simp, rfl⟩
  · rw [if_neg hnr, ttyReadLoop_eq _ h.queue]
    dsimp only
    by_cases hshort : tty.rawQueue.bytes.length < ttyBytes nr
    · rw [decide_eq_true hshort, if_pos rfl, if_neg (by omega),
        List.take_of_length_le (by omega)]
      exact ⟨_, buffer, rfl, rfl⟩
    · rw [decide_eq_false hshort, if_neg (by decide), if_pos (by omega)]
      exact ⟨_, _, rfl, bytesOf_copyFront _ _⟩

/-- How many bytes a write puts into the queue. -/
def Tty.room (tty : Tty) (nr : ℤ) : ℕ := min (ttyBytes nr) (TTY_BUF_SIZE - tty.rawQueue.head)

variable {ttys : ℕ → Tty} {t : ℕ}

/-- A write of no bytes fails. -/
lemma ttyWrite_none (buffer : ℕ → UInt8) (hnr : nr ≤ 0) : ttyWrite t buffer nr ttys = (-1, ttys) := by
  rw [ttyWrite, if_pos hnr, ite_self]

/-- **What a write does** to a tty without a link. -/
lemma ttyWrite_own (h : (ttys t).Sound) (hown : (ttys t).readBy t = t) (buffer : ℕ → UInt8)
    (hnr : 0 < nr) :
    ∃ q, ttyWrite t buffer nr ttys =
        ((((ttys t).room nr : ℕ) : ℤ), Function.update ttys t { ttys t with rawQueue := q }) ∧
      q.Sound ∧ q.bytes = (ttys t).rawQueue.bytes ++ bytesOf buffer ((ttys t).room nr) := by
  have hvalid : ¬((ttys t).used ≠ TRUE ∨ (ttys t).magic ≠ 1234) := by simp [h.used, h.magic]
  obtain ⟨q, hloop, htail, hhead, hbytes⟩ :=
    ttyWriteLoop_eq (bytesOf buffer (ttyBytes nr)) h.queue
  have horder := h.queue.order
  have hbound := h.queue.bound
  rw [length_bytesOf] at hloop hhead
  rw [take_bytesOf, Nat.min_comm] at hbytes
  refine ⟨q, ?_, ⟨by omega, by omega⟩, hbytes⟩
  rw [ttyWrite, if_neg hvalid, if_neg (by omega), hloop]
  dsimp only
  cases hlink : (ttys t).link with
  | none => rfl
  | some slave =>
      obtain rfl : slave = t := by simpa [Tty.readBy, hlink] using hown
      -- a tty that is linked to itself gets its own bytes
      simp [ttyCopyRawBuffer, h.magic, Tty.room]

/-- **What a write does** to a tty with a link: the array of the other tty goes over its own. -/
lemma ttyWrite_linked {u : ℕ} (h : (ttys t).Sound) (hu : (ttys u).Sound)
    (hlink : (ttys t).readBy t = u) (hne : u ≠ t) (buffer : ℕ → UInt8) (hnr : 0 < nr) :
    ∃ q, ttyWrite t buffer nr ttys =
        ((((ttys t).room nr : ℕ) : ℤ), Function.update ttys t { ttys t with rawQueue :=
          { q with buf := fun i =>
              if i < TTY_BUF_SIZE then (ttys u).rawQueue.buf i else q.buf i } }) ∧
      ((ttys t).rawQueue.head = TTY_BUF_SIZE → q = (ttys t).rawQueue) := by
  have hvalid : ¬((ttys t).used ≠ TRUE ∨ (ttys t).magic ≠ 1234) := by simp [h.used, h.magic]
  obtain ⟨q, hloop, -⟩ := ttyWriteLoop_eq (bytesOf buffer (ttyBytes nr)) h.queue
  rw [length_bytesOf] at hloop
  refine ⟨q, ?_, fun hfull => ?_⟩
  · rw [ttyWrite, if_neg hvalid, if_neg (by omega), hloop]
    dsimp only
    cases hsome : (ttys t).link with
    | none => exact absurd (by simpa [Tty.readBy, hsome] using hlink) hne.symm
    | some slave =>
        obtain rfl : slave = u := by simpa [Tty.readBy, hsome] using hlink
        simp [ttyCopyRawBuffer, h.magic, hu.magic, hne, Tty.room]
  · rw [ttyWriteLoop_full _ hfull] at hloop
    exact (Prod.mk.inj hloop).2.symm

end Calls

/-! ## The exact condition -/

variable {s s' : TtyTrace} {t : ℕ} {buffer : ℕ → UInt8} {nr : ℤ}

/-- The ttys are sound, and what was accepted is delivered or queued. -/
structure TtyTrace.Sound (s : TtyTrace) : Prop where
  tty : ∀ t, (s.ttys t).Sound
  lossless : s.Lossless

lemma ttyInit_sound (link : ℕ → Option ℕ) : (ttyInit link).Sound where
  tty _ := ⟨rfl, rfl, le_rfl, Nat.zero_le _⟩
  lossless _ := rfl

lemma TtyTrace.Sound.waiting_eq (h : s.Sound) (t : ℕ) :
    s.waiting t = (s.ttys t).rawQueue.head - (s.ttys t).rawQueue.tail := by
  rw [TtyTrace.waiting, h.lossless t, List.length_append, TtyQueue.length_bytes]
  omega

/-- The bytes asked for, as far as they wait, are at most what the queue holds. -/
lemma TtyTrace.Sound.min_waiting (h : s.Sound) (t : ℕ) (nr : ℤ) :
    min nr.toNat (s.waiting t) = min (ttyBytes nr) (s.ttys t).rawQueue.bytes.length := by
  have hbound := (h.tty t).queue.bound
  rw [h.waiting_eq, TtyQueue.length_bytes, ttyBytes]
  split_ifs <;> omega

lemma TtyTrace.Sound.read_iff (h : s.Sound) (hs : ttyStep s (.read t buffer nr) = .ok s') :
    (TtyContract s (.read t buffer nr) s' ↔ TtyCondition s (.read t buffer nr)) ∧
      (TtyCondition s (.read t buffer nr) → s'.Sound) := by
  obtain ⟨ret, dst, hread, hgot⟩ := ttyRead_eq (h.tty t) buffer nr
  rw [ttyStep, hread] at hs
  obtain rfl := Except.ok.inj hs
  set q := (s.ttys t).rawQueue with hq
  have horder : q.tail ≤ q.head := (h.tty t).queue.order
  have hlen : (bytesOf dst ret.toNat).length = min (ttyBytes nr) q.bytes.length := by
    rw [hgot]
    split_ifs
    · exact List.length_take
    · rw [length_bytesOf]
      omega
  have hcond : bytesOf dst ret.toNat = q.bytes.take (min (ttyBytes nr) q.bytes.length) ↔
      TtyCondition s (.read t buffer nr) := by
    rw [hgot]
    change _ ↔ ttyBytes nr ≤ q.bytes.length ∨ bytesOf buffer q.bytes.length = q.bytes
    split_ifs with henough
    · rw [Nat.min_eq_left henough]
      exact iff_of_true rfl (.inl henough)
    · rw [Nat.min_eq_right (by omega), List.take_length]
      exact ⟨.inr, fun h => h.resolve_left henough⟩
  have hlossless : TtyTrace.Lossless
      { s with
        ttys := Function.update s.ttys t { s.ttys t with rawQueue :=
          { q with tail := q.tail + min (ttyBytes nr) q.bytes.length } }
        delivered := Function.update s.delivered t
          (s.delivered t ++ bytesOf dst ret.toNat) } ↔
      TtyCondition s (.read t buffer nr) := by
    rw [← hcond]
    constructor
    · intro hall
      have ht := hall t
      simp only [Function.update_self, TtyQueue.bytes_drop, h.lossless t, List.append_assoc,
        List.append_cancel_left_eq, ← hq] at ht
      exact (List.append_inj (ht.symm.trans (List.take_append_drop _ _).symm)
        (by rw [hlen, List.length_take]; omega)).1
    · intro heq u
      by_cases hu : u = t
      · subst hu
        simp only [Function.update_self, TtyQueue.bytes_drop, heq, List.append_assoc,
          List.take_append_drop]
        exact h.lossless u
      · simp only [Function.update_of_ne hu]
        exact h.lossless u
  refine ⟨⟨fun hc => hlossless.1 hc.1, fun hc => ⟨hlossless.2 hc, ?_⟩⟩, fun hc =>
    ⟨fun u => ?_, hlossless.2 hc⟩⟩
  · simp only [Function.update_self, List.length_append, hlen]
    rw [h.min_waiting]
  · by_cases hu : u = t
    · subst hu
      simp only [Function.update_self]
      refine ⟨(h.tty u).used, (h.tty u).magic, ?_, (h.tty u).queue.bound⟩
      change q.tail + min (ttyBytes nr) q.bytes.length ≤ q.head
      rw [TtyQueue.length_bytes]
      omega
    · simp only [Function.update_of_ne hu]
      exact h.tty u

lemma TtyTrace.Sound.write_none_iff (h : s.Sound) (hnr : nr ≤ 0)
    (hs : ttyStep s (.write t buffer nr) = .ok s') :
    (TtyContract s (.write t buffer nr) s' ↔ TtyCondition s (.write t buffer nr)) ∧
      (TtyCondition s (.write t buffer nr) → s'.Sound) := by
  obtain rfl : s = s' := by
    rw [ttyStep, ttyWrite_none buffer hnr] at hs
    simpa [bytesOf] using hs
  have hnone : nr.toNat = 0 := by omega
  refine ⟨iff_of_true ⟨h.lossless, ?_⟩ (.inl hnr), fun _ => h⟩
  simp only [hnone, Nat.zero_min, Nat.add_zero]

/-- A tty without a link: all that it accepts is queued, but room that was made is not used. -/
lemma TtyTrace.Sound.write_own_iff (h : s.Sound) (hnr : 0 < nr)
    (hown : (s.ttys t).readBy t = t) (hs : ttyStep s (.write t buffer nr) = .ok s') :
    (TtyContract s (.write t buffer nr) s' ↔ TtyCondition s (.write t buffer nr)) ∧
      (TtyCondition s (.write t buffer nr) → s'.Sound) := by
  obtain ⟨q, hwrite, hq, hbytes⟩ := ttyWrite_own (h.tty t) hown buffer hnr
  rw [ttyStep, hwrite] at hs
  obtain rfl := Except.ok.inj hs
  simp only [TtyContract, TtyCondition, hown, Int.toNat_natCast]
  have hsound : TtyTrace.Sound
      { s with
        ttys := Function.update s.ttys t { s.ttys t with rawQueue := q }
        accepted := Function.update s.accepted t
          (s.accepted t ++ bytesOf buffer ((s.ttys t).room nr)) } := by
    constructor <;> intro u <;> by_cases hu : u = t
    · subst hu
      simp only [Function.update_self]
      exact ⟨(h.tty u).used, (h.tty u).magic, hq⟩
    · simp only [Function.update_of_ne hu]
      exact h.tty u
    · subst hu
      simp only [Function.update_self, hbytes, h.lossless u, List.append_assoc]
    · simp only [Function.update_of_ne hu]
      exact h.lossless u
  refine ⟨?_, fun _ => hsound⟩
  have horder := (h.tty t).queue.order
  have hbound := (h.tty t).queue.bound
  have hroom : ((s.ttys t).room nr = min nr.toNat (TTY_BUF_SIZE - s.waiting t)) ↔
      (s.ttys t).rawQueue.tail = 0 ∨ (s.ttys t).rawQueue.head + nr ≤ TTY_BUF_SIZE := by
    rw [h.waiting_eq, Tty.room, ttyBytes]
    split_ifs <;> omega
  simp only [Function.update_self, List.length_append, length_bytesOf, Nat.add_left_cancel_iff,
    hroom, if_true]
  exact ⟨fun hc => .inr hc.2, fun hc => ⟨hsound.lossless, hc.resolve_left (by omega)⟩⟩

/-- A tty with a link: what it accepts stays where it is. -/
lemma TtyTrace.Sound.write_linked_iff (h : s.Sound) (hnr : 0 < nr)
    (hlink : (s.ttys t).readBy t ≠ t) (hs : ttyStep s (.write t buffer nr) = .ok s') :
    (TtyContract s (.write t buffer nr) s' ↔ TtyCondition s (.write t buffer nr)) ∧
      (TtyCondition s (.write t buffer nr) → s'.Sound) := by
  obtain ⟨u, hu⟩ : ∃ u, (s.ttys t).readBy t = u := ⟨_, rfl⟩
  have hne : u ≠ t := hu ▸ hlink
  obtain ⟨q, hwrite, hq⟩ := ttyWrite_linked (h.tty t) (h.tty u) hu hne buffer hnr
  rw [ttyStep, hwrite] at hs
  obtain rfl := Except.ok.inj hs
  simp only [TtyContract, TtyCondition, hu, if_neg hne, Int.toNat_natCast]
  have horder := (h.tty t).queue.order
  have hbound := (h.tty t).queue.bound
  have hpeer := (h.tty u).queue.bound
  have hroom : (s.ttys t).room nr = 0 ↔ (s.ttys t).rawQueue.head = TTY_BUF_SIZE := by
    rw [Tty.room, ttyBytes, TTY_BUF_SIZE] at *
    split_ifs <;> omega
  set tty : Tty :=
    { s.ttys t with
      rawQueue := { q with
        buf := fun i => if i < TTY_BUF_SIZE then (s.ttys u).rawQueue.buf i else q.buf i } } with htty
  have hlossless : TtyTrace.Lossless
      { s with
        ttys := Function.update s.ttys t tty
        accepted := Function.update s.accepted u
          (s.accepted u ++ bytesOf buffer ((s.ttys t).room nr)) } ↔
      (s.ttys t).rawQueue.head = TTY_BUF_SIZE ∧ tty.rawQueue.bytes = (s.ttys t).rawQueue.bytes := by
    rw [← hroom]
    constructor
    · intro hall
      have hu' := hall u
      have ht' := hall t
      simp only [Function.update_self, Function.update_of_ne hne, Function.update_of_ne hne.symm,
        h.lossless u, h.lossless t, List.append_assoc, List.append_cancel_left_eq,
        List.append_right_eq_self] at hu' ht'
      have hlen := congrArg List.length hu'
      rw [length_bytesOf] at hlen
      exact ⟨hlen, ht'.symm⟩
    · rintro ⟨hzero, hsame⟩ v
      have hnone : bytesOf buffer ((s.ttys t).room nr) = [] := by rw [hzero]; rfl
      simp only [hnone, List.append_nil, Function.update_eq_self]
      by_cases hv : v = t
      · subst hv
        rw [Function.update_self, hsame]
        exact h.lossless v
      · rw [Function.update_of_ne hv]
        exact h.lossless v
  have hcond : (s.ttys t).rawQueue.head = TTY_BUF_SIZE →
      (tty.rawQueue.bytes = (s.ttys t).rawQueue.bytes ↔
        ∀ i, (s.ttys t).rawQueue.tail ≤ i → i < TTY_BUF_SIZE →
          (s.ttys u).rawQueue.buf i = (s.ttys t).rawQueue.buf i) := by
    intro hfull
    rw [htty, hq hfull]
    exact TtyQueue.bytes_overlay hfull _
  simp only [Function.update_self, List.length_append, length_bytesOf, Nat.add_left_cancel_iff,
    hlossless]
  refine ⟨⟨?_, ?_⟩, ?_⟩
  · rintro ⟨⟨hfull, hsame⟩, hlen⟩
    refine .inr ⟨hfull, ?_, (hcond hfull).1 hsame⟩
    rw [hroom.2 hfull, h.waiting_eq] at hlen
    rw [TtyQueue.length_bytes]
    omega
  · intro hc
    obtain ⟨hfull, hlen, heq⟩ := hc.resolve_left (by omega)
    refine ⟨⟨hfull, (hcond hfull).2 heq⟩, ?_⟩
    rw [TtyQueue.length_bytes] at hlen
    rw [hroom.2 hfull, h.waiting_eq]
    omega
  · intro hc
    obtain ⟨hfull, hlen, heq⟩ := hc.resolve_left (by omega)
    refine ⟨fun v => ?_, hlossless.2 ⟨hfull, (hcond hfull).2 heq⟩⟩
    change (Function.update s.ttys t tty v).Sound
    by_cases hv : v = t
    · subst hv
      rw [Function.update_self, htty, hq hfull]
      exact ⟨(h.tty v).used, (h.tty v).magic, (h.tty v).queue.order, (h.tty v).queue.bound⟩
    · rw [Function.update_of_ne hv]
      exact h.tty v

lemma TtyTrace.Sound.step_iff {e : TtyEvent} (h : s.Sound) (hs : ttyStep s e = .ok s') :
    (TtyContract s e s' ↔ TtyCondition s e) ∧ (TtyCondition s e → s'.Sound) := by
  cases e with
  | read t buffer nr => exact h.read_iff hs
  | write t buffer nr =>
      rcases le_or_gt nr 0 with hnr | hnr
      · exact h.write_none_iff hnr hs
      · by_cases hown : (s.ttys t).readBy t = t
        · exact h.write_own_iff hnr hown hs
        · exact h.write_linked_iff hnr hown hs

/-- **The raw queue is a queue for the reader exactly as long as** every write finds room behind the
head of a tty without a link, and every read finds as many bytes as it asks for. -/
theorem tty_run (link : ℕ → Option ℕ) (es : List TtyEvent) :
    AlongSteps ttyStep TtyContract (ttyInit link) es ↔
      Meets ttyStep TtyCondition (ttyInit link) es :=
  alongSteps_iff_meets TtyTrace.Sound (fun _ _ _ h hs => (h.step_iff hs).1)
    (fun _ _ _ h hcond hs => (h.step_iff hs).2 hcond) es _ (ttyInit_sound link)

/-- One byte is written, and two are asked for: the byte leaves the queue and is not delivered. -/
theorem tty_run_fails :
    ¬∀ (link : ℕ → Option ℕ) (es : List TtyEvent),
      AlongSteps ttyStep TtyContract (ttyInit link) es := by
  intro h
  obtain ⟨-, hread⟩ := h (fun _ => none) [.write 0 (fun _ => 65) 1, .read 0 (fun _ => 0) 2] _ rfl
  obtain ⟨⟨hlossless, -⟩, -⟩ := hread _ rfl
  exact absurd (hlossless 0) (by decide)

end Gramado
