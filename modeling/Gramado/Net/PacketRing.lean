import Gramado.Lib.Run
import Gramado.Core.CTypes

/-!
# The packets for the network server

`network_push_packet` and `network_pop_packet` of `kres/net/network.c` hand packets to the network
server through a ring of 32 pages.  Neither looks at the status of a slot before it moves its cursor:
a push overwrites a page that is full, a pop moves on from a page that is empty, and how many bytes a
packet has is stored nowhere.

* `PacketContract` — a call delivers, or keeps for delivery, what was pushed and not yet popped.
* `PacketCondition` — no push on a full ring, no pop on an empty one, and every pop asks for as many
  bytes as the packet at the head has.

`packetRing_iff`: in every run, all calls meet the contract if and only if they meet the condition.
-/

namespace Gramado

open StepRun

/-! ## The ring -/

/-- The number of pages in the ring. -/
def PACKET_RING : ℕ := 32

/-- `struct network_buffer_d`, with what is in the page of each pointer, `none` for a null one. -/
structure NetworkBuffer where
  initialized : ℤ
  receiveTail : ℤ
  receiveHead : ℤ
  buffers : ℕ → Option (ℕ → UInt8)
  isFull : ℕ → ℤ

/-- The cursor goes one slot on. -/
def circulate (cursor : ℤ) : ℤ := if cursor + 1 ≥ PACKET_RING then 0 else cursor + 1

/-- `memcpy` of `len` bytes between buffers of a page: a negative length is a huge unsigned one. -/
def copyBytes (dst src : ℕ → UInt8) (len : ℤ) : Except Fault (ℕ → UInt8) :=
  if len < 0 then .error .badPointer
  else .ok fun k => if (k : ℤ) < len then src k else dst k

/-- At most one frame. -/
def frameLength (len : ℤ) : ℤ := if len > 1500 then 1500 else len

/-- `network_push_packet`. -/
def networkPushPacket (srcBuffer : Option (ℕ → UInt8)) (len : ℤ) (nb : NetworkBuffer) :
    Except Fault (ℤ × NetworkBuffer) :=
  match srcBuffer with
  | none => .error (.panic "network_push_packet: src_buffer\n")
  | some src =>
      let len := frameLength len
      if nb.initialized ≠ TRUE then
        .error (.panic "network_push_packet: Shared buffers not initialized\n")
      else
        let tail := nb.receiveTail
        let nb := { nb with receiveTail := circulate nb.receiveTail }
        if tail < 0 ∨ tail ≥ PACKET_RING then .error (.panic "network_push_packet: tail\n")
        else do
          -- the status of the slot is read and not acted upon
          let buffers ← match nb.buffers tail.toNat with
            | none => .ok nb.buffers
            | some dst => do
                let page ← copyBytes dst src len
                .ok (Function.update nb.buffers tail.toNat (some page))
          .ok (len, { nb with
            buffers := buffers
            isFull := Function.update nb.isFull tail.toNat TRUE })

/-- `network_pop_packet` into a buffer that holds `uBuffer`: what it returns, what the buffer holds
then, and the ring. -/
def networkPopPacket (uBuffer : Option (ℕ → UInt8)) (len : ℤ) (nb : NetworkBuffer) :
    Except Fault (ℤ × (ℕ → UInt8) × NetworkBuffer) :=
  match uBuffer with
  | none => .error (.panic "network_pop_packet: [FAIL] u_buffer\n")
  | some dst =>
      let len := frameLength len
      if nb.initialized ≠ TRUE then
        .error (.panic "network_pop_packet: Shared buffers not initialized\n")
      else
        let head := nb.receiveHead
        let nb := { nb with receiveHead := circulate nb.receiveHead }
        if head < 0 ∨ head ≥ PACKET_RING then .error (.panic "network_push_packet: head\n")
        else if nb.isFull head.toNat ≠ TRUE then .ok (0, dst, nb)
        else
          match nb.buffers head.toNat with
          | none => .ok (len, dst, nb)
          | some src => do
              let dst ← copyBytes dst src len
              .ok (len, dst, { nb with isFull := Function.update nb.isFull head.toNat FALSE })

/-- The ring as `networkInit` leaves it, whatever is in the pages. -/
def networkBufferInit (pages : ℕ → ℕ → UInt8) : NetworkBuffer where
  initialized := TRUE
  receiveTail := 0
  receiveHead := 0
  buffers i := some (pages i)
  isFull _ := FALSE

/-! ## Runs -/

/-- The calls: a push of 1 to 1500 bytes, and a pop of any length into any buffer. -/
inductive PacketEvent where
  | push (src : ℕ → UInt8) (len : ℕ) (pos : 1 ≤ len) (le : len ≤ 1500)
  | pop (uBuffer : ℕ → UInt8) (len : ℤ)

/-- The ring, the packets whose push reported success and the bytes that successful pops
delivered. -/
structure PacketTrace where
  ring : NetworkBuffer
  pushed : List (List UInt8)
  popped : List (List UInt8)

/-- One call. -/
def packetStep (t : PacketTrace) : PacketEvent → Except Fault PacketTrace
  | .push src len _ _ => do
      let (ret, ring) ← networkPushPacket (some src) len t.ring
      .ok { t with
        ring := ring
        pushed := if ret < 0 then t.pushed else t.pushed ++ [bytesOf src len] }
  | .pop uBuffer len => do
      let (ret, dst, ring) ← networkPopPacket (some uBuffer) len t.ring
      .ok { t with
        ring := ring
        popped := if ret > 0 then t.popped ++ [bytesOf dst ret.toNat] else t.popped }

/-- Before the first call. -/
def packetInit (pages : ℕ → ℕ → UInt8) : PacketTrace := ⟨networkBufferInit pages, [], []⟩

/-- The slots that hold a packet. -/
def NetworkBuffer.fullSlots (nb : NetworkBuffer) : Finset ℕ :=
  (Finset.range PACKET_RING).filter fun k => nb.isFull k = TRUE

/-- What was popped is what was pushed first, and the rest is in the ring. -/
def Lossless (t : PacketTrace) : Prop :=
  t.popped <+: t.pushed ∧ t.pushed.length = t.popped.length + t.ring.fullSlots.card

/-- **What a call promises.**  Nothing is lost or reordered; a push that finds no free slot fails and
leaves the packets alone; a pop on an empty ring leaves the ring alone; a successful pop reports the
length of the packet that is due. -/
def PacketContract (t : PacketTrace) (e : PacketEvent) (t' : PacketTrace) : Prop :=
  Lossless t' ∧
    match e with
    | .push src len _ _ =>
        t.ring.fullSlots = Finset.range PACKET_RING →
          ∃ ret ring, networkPushPacket (some src) len t.ring = .ok (ret, ring) ∧ ret < 0 ∧
            ring.buffers = t.ring.buffers ∧ ring.isFull = t.ring.isFull
    | .pop uBuffer len =>
        (t.ring.fullSlots = ∅ → t'.ring = t.ring) ∧
          ∀ ret dst ring, networkPopPacket (some uBuffer) len t.ring = .ok (ret, dst, ring) →
            0 < ret → ∃ p, t.pushed[t.popped.length]? = some p ∧ ret = p.length

/-- A push finds a free slot; a pop finds a packet, and asks for all its bytes and no more. -/
def PacketCondition (t : PacketTrace) : PacketEvent → Prop
  | .push _ _ _ _ => t.ring.fullSlots ≠ Finset.range PACKET_RING
  | .pop _ len => ∃ p, t.pushed[t.popped.length]? = some p ∧ frameLength len = p.length

/-! ## What a call does -/

lemma circulate_mod (n : ℕ) : circulate ((n % PACKET_RING : ℕ) : ℤ) = ((n + 1) % PACKET_RING : ℕ) := by
  simp only [circulate, PACKET_RING]
  split_ifs <;> omega

lemma bytesOf_copy {dst src : ℕ → UInt8} {n : ℕ} :
    bytesOf (fun k => if (k : ℤ) < n then src k else dst k) n = bytesOf src n := by
  refine List.map_congr_left fun k hk => ?_
  rw [if_pos (by exact_mod_cast List.mem_range.1 hk)]

section Calls

variable {nb : NetworkBuffer} {src dst b : ℕ → UInt8} {k : ℕ}

/-- A push writes the slot at the tail, full or not. -/
lemma networkPushPacket_eq {len : ℕ} (hinit : nb.initialized = TRUE)
    (htail : nb.receiveTail = k) (hk : k < PACKET_RING) (hpage : nb.buffers k = some dst)
    (hlen : len ≤ 1500) :
    networkPushPacket (some src) len nb = .ok (len,
      { nb with
        receiveTail := circulate k
        buffers := Function.update nb.buffers k
          (some fun i => if (i : ℤ) < len then src i else dst i)
        isFull := Function.update nb.isFull k TRUE }) := by
  have hframe : frameLength len = len := if_neg (by omega)
  have hrange : ¬((k : ℤ) < 0 ∨ (k : ℤ) ≥ PACKET_RING) := by omega
  simp only [networkPushPacket, hframe, hinit, htail, ne_eq, not_true_eq_false, if_false, hrange,
    Int.toNat_natCast, hpage, copyBytes, ok_bind]
  rw [if_neg (by omega)]
  rfl

/-- A pop from an empty slot moves the head on. -/
lemma networkPopPacket_empty {len : ℤ} (hinit : nb.initialized = TRUE)
    (hhead : nb.receiveHead = k) (hk : k < PACKET_RING) (hempty : nb.isFull k ≠ TRUE) :
    networkPopPacket (some dst) len nb
      = .ok (0, dst, { nb with receiveHead := circulate k }) := by
  have hrange : ¬((k : ℤ) < 0 ∨ (k : ℤ) ≥ PACKET_RING) := by omega
  simp only [networkPopPacket, hinit, hhead, ne_eq, not_true_eq_false, if_false, hrange,
    Int.toNat_natCast, hempty, not_false_eq_true, if_true]

/-- A pop from a full slot copies as many bytes as it was asked for. -/
lemma networkPopPacket_full {len : ℤ} (hinit : nb.initialized = TRUE)
    (hhead : nb.receiveHead = k) (hk : k < PACKET_RING) (hfull : nb.isFull k = TRUE)
    (hpage : nb.buffers k = some b) :
    networkPopPacket (some dst) len nb =
      if frameLength len < 0 then .error .badPointer
      else .ok (frameLength len, (fun i => if (i : ℤ) < frameLength len then b i else dst i),
        { nb with receiveHead := circulate k, isFull := Function.update nb.isFull k FALSE }) := by
  have hrange : ¬((k : ℤ) < 0 ∨ (k : ℤ) ≥ PACKET_RING) := by omega
  simp only [networkPopPacket, hinit, hhead, ne_eq, not_true_eq_false, if_false, hrange,
    Int.toNat_natCast, hfull, hpage, copyBytes]
  split_ifs <;> rfl

end Calls

/-! ## The invariant -/

/-- The packets from the popped ones on are in the slots behind the head, each under its number
modulo the size of the ring. -/
structure Queued (t : PacketTrace) : Prop where
  initialized : t.ring.initialized = TRUE
  head : t.ring.receiveHead = (t.popped.length % PACKET_RING : ℕ)
  tail : t.ring.receiveTail = (t.pushed.length % PACKET_RING : ℕ)
  le : t.popped.length ≤ t.pushed.length
  fit : t.pushed.length ≤ t.popped.length + PACKET_RING
  page : ∀ k < PACKET_RING, ∃ b, t.ring.buffers k = some b
  full : ∀ k < PACKET_RING, t.ring.isFull k = TRUE ↔
    ∃ j, t.popped.length ≤ j ∧ j < t.pushed.length ∧ j % PACKET_RING = k
  held : ∀ j p, t.popped.length ≤ j → t.pushed[j]? = some p →
    ∃ b, t.ring.buffers (j % PACKET_RING) = some b ∧ bytesOf b p.length = p
  sized : ∀ p ∈ t.pushed, 1 ≤ p.length ∧ p.length ≤ 1500
  due : t.popped = t.pushed.take t.popped.length

lemma packetInit_queued (pages : ℕ → ℕ → UInt8) : Queued (packetInit pages) where
  initialized := rfl
  head := rfl
  tail := rfl
  le := le_rfl
  fit := Nat.zero_le _
  page k _ := ⟨pages k, rfl⟩
  full k _ := by
    simp only [packetInit, networkBufferInit, List.length_nil]
    exact iff_of_false (by decide) (by rintro ⟨j, -, hj, -⟩; omega)
  held j p _ hp := by simp [packetInit] at hp
  sized p hp := by simp [packetInit] at hp
  due := rfl

variable {t : PacketTrace}

namespace Queued

/-- The full slots are those of the packets in the ring, and no two packets share one. -/
lemma card_fullSlots (h : Queued t) :
    t.ring.fullSlots.card = t.pushed.length - t.popped.length := by
  have himage : t.ring.fullSlots
      = (Finset.Ico t.popped.length t.pushed.length).image (· % PACKET_RING) := by
    ext k
    simp only [NetworkBuffer.fullSlots, Finset.mem_filter, Finset.mem_range, Finset.mem_image,
      Finset.mem_Ico]
    constructor
    · rintro ⟨hk, hfull⟩
      obtain ⟨j, hlo, hhi, hj⟩ := (h.full k hk).1 hfull
      exact ⟨j, ⟨hlo, hhi⟩, hj⟩
    · rintro ⟨j, ⟨hlo, hhi⟩, rfl⟩
      have hk : j % PACKET_RING < PACKET_RING := Nat.mod_lt _ (by decide)
      exact ⟨hk, (h.full _ hk).2 ⟨j, hlo, hhi, rfl⟩⟩
  rw [himage, Finset.card_image_of_injOn, Nat.card_Ico]
  intro i hi j hj heq
  have hfit := h.fit
  simp only [Finset.coe_Ico, Set.mem_Ico] at hi hj
  simp only [PACKET_RING] at heq hfit
  omega

lemma lossless (h : Queued t) : Lossless t := by
  refine ⟨h.due ▸ List.take_prefix _ _, ?_⟩
  have hle := h.le
  rw [h.card_fullSlots]
  omega

/-- The ring is full when it holds as many packets as it has slots. -/
lemma full_iff (h : Queued t) :
    t.ring.fullSlots = Finset.range PACKET_RING ↔
      t.pushed.length = t.popped.length + PACKET_RING := by
  have hle := h.le
  have hfit := h.fit
  have hsub : t.ring.fullSlots ⊆ Finset.range PACKET_RING := Finset.filter_subset _ _
  rw [← Finset.eq_iff_card_le_of_subset hsub, Finset.card_range, h.card_fullSlots]
  omega

lemma empty_iff (h : Queued t) :
    t.ring.fullSlots = ∅ ↔ t.pushed.length = t.popped.length := by
  have hle := h.le
  rw [← Finset.card_eq_zero, h.card_fullSlots]
  omega

/-- The slot at the head is full when a packet is due. -/
lemma head_full_iff (h : Queued t) :
    t.ring.isFull (t.popped.length % PACKET_RING) = TRUE ↔
      t.popped.length < t.pushed.length := by
  have hfit := h.fit
  rw [h.full _ (Nat.mod_lt _ (by decide))]
  constructor
  · rintro ⟨j, hlo, hhi, -⟩
    omega
  · intro hlt
    exact ⟨_, le_rfl, hlt, rfl⟩

end Queued

/-! ## A push -/

/-- The trace after a push. -/
def PacketTrace.push (t : PacketTrace) (src : ℕ → UInt8) (len : ℕ) (page : ℕ → UInt8) :
    PacketTrace where
  ring := { t.ring with
    receiveTail := circulate ((t.pushed.length % PACKET_RING : ℕ) : ℤ)
    buffers := Function.update t.ring.buffers (t.pushed.length % PACKET_RING)
      (some fun i => if (i : ℤ) < len then src i else page i)
    isFull := Function.update t.ring.isFull (t.pushed.length % PACKET_RING) TRUE }
  pushed := t.pushed ++ [bytesOf src len]
  popped := t.popped

/-- Every push succeeds. -/
lemma packetStep_push (h : Queued t) {src : ℕ → UInt8} {len : ℕ} (pos : 1 ≤ len)
    (le : len ≤ 1500) :
    ∃ page ring, networkPushPacket (some src) len t.ring = .ok ((len : ℤ), ring) ∧
      packetStep t (.push src len pos le) = .ok (t.push src len page) := by
  obtain ⟨page, hpage⟩ := h.page _ (Nat.mod_lt t.pushed.length (by decide))
  have hcall := @networkPushPacket_eq _ src _ _ _ h.initialized h.tail
    (Nat.mod_lt _ (by decide)) hpage le
  refine ⟨page, _, hcall, ?_⟩
  simp only [packetStep, hcall, ok_bind]
  rw [if_neg (by omega)]
  rfl

/-- A push that finds a free slot puts the packet behind the others. -/
lemma Queued.push (h : Queued t) {src page : ℕ → UInt8} {len : ℕ} (pos : 1 ≤ len)
    (le : len ≤ 1500) (hfree : t.pushed.length < t.popped.length + PACKET_RING) :
    Queued (t.push src len page) where
  initialized := h.initialized
  head := h.head
  tail := by
    simp only [PacketTrace.push, List.length_append, List.length_singleton]
    exact circulate_mod _
  le := by
    have hle := h.le
    simp only [PacketTrace.push, List.length_append]
    omega
  fit := by
    simp only [PacketTrace.push, List.length_append, List.length_singleton]
    omega
  page k hk := by
    simp only [PacketTrace.push, Function.update_apply]
    split_ifs
    · exact ⟨_, rfl⟩
    · exact h.page k hk
  full k hk := by
    have hle := h.le
    simp only [PacketTrace.push, List.length_append, List.length_singleton, Function.update_apply]
    split_ifs with heq
    · exact iff_of_true rfl ⟨_, hle, Nat.lt_succ_self _, heq.symm⟩
    · rw [h.full k hk]
      refine exists_congr fun j => and_congr_right fun _ => ?_
      constructor
      · rintro ⟨hhi, hj⟩
        exact ⟨by omega, hj⟩
      · rintro ⟨hhi, rfl⟩
        refine ⟨lt_of_le_of_ne (by omega) fun hj => heq ?_, rfl⟩
        rw [hj]
  held j p hlo hp := by
    simp only [PacketTrace.push] at hp hlo ⊢
    rcases Nat.lt_or_ge j t.pushed.length with hlt | hge
    · -- an old packet: its slot is not the one at the tail
      rw [List.getElem?_append_left hlt] at hp
      obtain ⟨b, hb, hbytes⟩ := h.held j p hlo hp
      refine ⟨b, ?_, hbytes⟩
      rw [Function.update_of_ne, hb]
      simp only [PACKET_RING] at hfree ⊢
      omega
    · rw [List.getElem?_append_right hge] at hp
      obtain ⟨hj, rfl⟩ : j - t.pushed.length = 0 ∧ bytesOf src len = p := by
        rcases Nat.eq_zero_or_pos (j - t.pushed.length) with hzero | hpos
        · rw [hzero] at hp
          exact ⟨hzero, by simpa using hp⟩
        · rw [List.getElem?_eq_none (by simp only [List.length_singleton]; omega)] at hp
          cases hp
      obtain rfl : j = t.pushed.length := by omega
      refine ⟨_, Function.update_self .., ?_⟩
      rw [length_bytesOf]
      exact bytesOf_copy
  sized p hp := by
    simp only [PacketTrace.push, List.mem_append, List.mem_singleton] at hp
    rcases hp with hp | rfl
    · exact h.sized p hp
    · rw [length_bytesOf]
      exact ⟨pos, le⟩
  due := by
    have hle := h.le
    simp only [PacketTrace.push]
    rw [List.take_append_of_le_length hle]
    exact h.due

/-! ## A pop -/

/-- The trace after a pop of `len` bytes from a page `page` with a packet. -/
def PacketTrace.pop (t : PacketTrace) (dst page : ℕ → UInt8) (len : ℤ) : PacketTrace where
  ring := { t.ring with
    receiveHead := circulate ((t.popped.length % PACKET_RING : ℕ) : ℤ)
    isFull := Function.update t.ring.isFull (t.popped.length % PACKET_RING) FALSE }
  pushed := t.pushed
  popped := if len > 0 then
    t.popped ++ [bytesOf (fun i => if (i : ℤ) < len then page i else dst i) len.toNat]
  else t.popped

/-- A pop on an empty ring turns the ring. -/
lemma packetStep_pop_empty (h : Queued t) (hempty : t.pushed.length = t.popped.length)
    (dst : ℕ → UInt8) (len : ℤ) :
    packetStep t (.pop dst len) = .ok { t with ring :=
      { t.ring with receiveHead := circulate ((t.popped.length % PACKET_RING : ℕ) : ℤ) } } := by
  have hslot : t.ring.isFull (t.popped.length % PACKET_RING) ≠ TRUE :=
    fun hfull => (h.head_full_iff.1 hfull).ne' hempty
  simp only [packetStep, @networkPopPacket_empty _ dst _ len h.initialized h.head
    (Nat.mod_lt _ (by decide)) hslot, ok_bind]
  rfl

/-- A pop of a packet returns the number of bytes it was asked for. -/
lemma packetStep_pop_full (h : Queued t) {p : List UInt8}
    (hp : t.pushed[t.popped.length]? = some p) (dst : ℕ → UInt8) (len : ℤ) :
    ∃ page, bytesOf page p.length = p ∧
      if frameLength len < 0 then packetStep t (.pop dst len) = .error .badPointer
      else (∃ dst' ring, networkPopPacket (some dst) len t.ring
          = .ok (frameLength len, dst', ring)) ∧
        packetStep t (.pop dst len) = .ok (t.pop dst page (frameLength len)) := by
  obtain ⟨page, hpage, hbytes⟩ := h.held _ p le_rfl hp
  have hslot := h.head_full_iff.2 (List.getElem?_eq_some_iff.1 hp).1
  have hcall := @networkPopPacket_full _ dst _ _ len h.initialized h.head
    (Nat.mod_lt _ (by decide)) hslot hpage
  refine ⟨page, hbytes, ?_⟩
  split_ifs at hcall ⊢ with hneg
  · simp only [packetStep, hcall, error_bind]
  · refine ⟨⟨_, _, hcall⟩, ?_⟩
    simp only [packetStep, hcall, ok_bind]
    rfl

/-- A pop of all the bytes of the packet that is due takes it out. -/
lemma Queued.pop (h : Queued t) {p : List UInt8} (hp : t.pushed[t.popped.length]? = some p)
    (dst : ℕ → UInt8) {page : ℕ → UInt8} (hpage : bytesOf page p.length = p) :
    Queued (t.pop dst page p.length) := by
  obtain ⟨hlt, hget⟩ := List.getElem?_eq_some_iff.1 hp
  have hpos : 1 ≤ p.length := (h.sized p (List.mem_of_getElem? hp)).1
  have hpopped : (t.pop dst page p.length).popped = t.popped ++ [p] := by
    simp only [PacketTrace.pop]
    rw [if_pos (by omega), Int.toNat_natCast, bytesOf_copy, hpage]
  have hlength : (t.pop dst page p.length).popped.length = t.popped.length + 1 := by
    rw [hpopped, List.length_append, List.length_singleton]
  have hfit := h.fit
  constructor
  case initialized => exact h.initialized
  case head =>
    rw [hlength]
    exact circulate_mod _
  case tail => exact h.tail
  case le =>
    rw [hlength]
    exact hlt
  case fit =>
    rw [hlength]
    simp only [PacketTrace.pop]
    omega
  case page => exact h.page
  case full =>
    intro k hk
    rw [hlength]
    simp only [PacketTrace.pop, Function.update_apply]
    split_ifs with heq
    · refine iff_of_false (by decide) ?_
      rintro ⟨j, hlo, hhi, hj⟩
      simp only [PACKET_RING] at heq hj hfit
      omega
    · rw [h.full k hk]
      constructor
      · rintro ⟨j, hlo, hhi, rfl⟩
        refine ⟨j, Nat.lt_of_le_of_ne hlo fun hj => heq ?_, hhi, rfl⟩
        rw [hj]
      · rintro ⟨j, hlo, hhi, hj⟩
        exact ⟨j, by omega, hhi, hj⟩
  case held =>
    intro j q hlo hq
    exact h.held j q (by omega) hq
  case sized => exact h.sized
  case due =>
    rw [hlength, hpopped]
    simp only [PacketTrace.pop]
    rw [List.take_add_one, ← h.due, hp, Option.toList_some]

/-- A pop frees a slot, whether or not it delivers anything. -/
lemma Queued.card_pop_lt (h : Queued t) (hlt : t.popped.length < t.pushed.length)
    (dst page : ℕ → UInt8) :
    (t.pop dst page 0).ring.fullSlots.card < t.ring.fullSlots.card := by
  have hk : t.popped.length % PACKET_RING < PACKET_RING := Nat.mod_lt _ (by decide)
  refine Finset.card_lt_card ((Finset.ssubset_iff_of_subset ?_).2
    ⟨t.popped.length % PACKET_RING, ?_, ?_⟩)
  · intro k hk
    simp only [NetworkBuffer.fullSlots, PacketTrace.pop, Finset.mem_filter,
      Function.update_apply] at hk ⊢
    split_ifs at hk
    · exact absurd hk.2 (by decide)
    · exact hk
  · simp only [NetworkBuffer.fullSlots, Finset.mem_filter, Finset.mem_range]
    exact ⟨hk, h.head_full_iff.2 hlt⟩
  · intro hmem
    have hfull := (Finset.mem_filter.1 hmem).2
    simp [PacketTrace.pop] at hfull

/-! ## The exact condition -/

lemma Queued.push_iff (h : Queued t) {t' : PacketTrace} {src : ℕ → UInt8} {len : ℕ}
    {pos : 1 ≤ len} {le : len ≤ 1500} (hs : packetStep t (.push src len pos le) = .ok t') :
    (PacketContract t (.push src len pos le) t' ↔ PacketCondition t (.push src len pos le)) ∧
      (PacketCondition t (.push src len pos le) → Queued t') := by
  obtain ⟨page, ring, hcall, hstep⟩ := @packetStep_push _ h src _ pos le
  obtain rfl : t.push src len page = t' := by simpa using hstep.symm.trans hs
  have hfit := h.fit
  have hkeep : PacketCondition t (.push src len pos le) → Queued (t.push src len page) := by
    intro hfree
    have hne : t.pushed.length ≠ t.popped.length + PACKET_RING := fun heq =>
      hfree (h.full_iff.2 heq)
    exact h.push pos le (by omega)
  refine ⟨⟨?_, ?_⟩, hkeep⟩
  · -- a push on a full ring does not fail
    rintro ⟨-, hcontract⟩ hfull
    obtain ⟨ret, ring', hret, hneg, -⟩ := hcontract hfull
    rw [hcall] at hret
    obtain rfl : (len : ℤ) = ret := by simp only [Except.ok.injEq, Prod.mk.injEq] at hret; exact hret.1
    omega
  · intro hfree
    exact ⟨(hkeep hfree).lossless, fun hfull => absurd hfull hfree⟩

lemma Queued.pop_iff (h : Queued t) {t' : PacketTrace} {dst : ℕ → UInt8} {len : ℤ}
    (hs : packetStep t (.pop dst len) = .ok t') :
    (PacketContract t (.pop dst len) t' ↔ PacketCondition t (.pop dst len)) ∧
      (PacketCondition t (.pop dst len) → Queued t') := by
  have hle := h.le
  cases hp : t.pushed[t.popped.length]? with
  | none =>
      -- the ring is empty, and turns
      have hempty : t.pushed.length = t.popped.length :=
        le_antisymm (List.getElem?_eq_none_iff.1 hp) hle
      have hno : ¬PacketCondition t (.pop dst len) := by
        rintro ⟨p, hdue, -⟩
        rw [hp] at hdue
        cases hdue
      rw [packetStep_pop_empty h hempty] at hs
      refine ⟨iff_of_false ?_ hno, fun hcond => absurd hcond hno⟩
      rintro ⟨-, hsame, -⟩
      have hring := hsame (h.empty_iff.2 hempty)
      obtain rfl := (Except.ok.inj hs)
      have hhead := congrArg NetworkBuffer.receiveHead hring
      simp only [circulate_mod] at hhead
      rw [h.head] at hhead
      simp only [PACKET_RING] at hhead
      omega
  | some p =>
      obtain ⟨page, hpage, hstep⟩ := packetStep_pop_full h hp dst len
      have hcond : PacketCondition t (.pop dst len) ↔ frameLength len = p.length := by
        simp only [PacketCondition, hp, Option.some.injEq, exists_eq_left']
      split_ifs at hstep with hneg
      · rw [hstep] at hs
        cases hs
      · obtain ⟨⟨dst', ring, hcall⟩, hstep⟩ := hstep
        obtain rfl : t.pop dst page (frameLength len) = t' := by simpa using hstep.symm.trans hs
        have hkeep : frameLength len = p.length → Queued (t.pop dst page (frameLength len)) := by
          intro hlen
          rw [hlen]
          exact h.pop hp dst hpage
        have hlt := (List.getElem?_eq_some_iff.1 hp).1
        rw [hcond]
        refine ⟨⟨?_, fun hlen => ⟨(hkeep hlen).lossless, ?_, ?_⟩⟩, hkeep⟩
        · rintro ⟨⟨-, hcard⟩, -, hcontract⟩
          rcases (not_lt.1 hneg).lt_or_eq with hpos | hzero
          · obtain ⟨q, hq, hret⟩ := hcontract _ _ _ hcall hpos
            rw [hp] at hq
            rw [hret, ← Option.some.inj hq]
          · -- no byte was asked for: the packet is gone and nothing was delivered
            rw [← hzero] at hcard
            have hfewer := h.card_pop_lt hlt dst page
            have hlossless := h.lossless.2
            simp only [PacketTrace.pop, gt_iff_lt, lt_self_iff_false, if_false] at hcard hfewer
            omega
        · intro hempty
          exact absurd (h.empty_iff.1 hempty) (by omega)
        · intro ret dst'' ring' hret _
          rw [hcall] at hret
          simp only [Except.ok.injEq, Prod.mk.injEq] at hret
          exact ⟨p, hp, hret.1 ▸ hlen⟩

lemma Queued.step_iff (h : Queued t) {t' : PacketTrace} {e : PacketEvent}
    (hs : packetStep t e = .ok t') :
    (PacketContract t e t' ↔ PacketCondition t e) ∧ (PacketCondition t e → Queued t') := by
  cases e with
  | push src len pos le => exact h.push_iff hs
  | pop dst len => exact h.pop_iff hs

/-- **The ring is a lossless queue exactly as long as** no push finds it full, no pop finds it empty,
and every pop asks for as many bytes as the packet that is due has. -/
theorem packetRing_iff (pages : ℕ → ℕ → UInt8) (es : List PacketEvent) :
    AlongSteps packetStep PacketContract (packetInit pages) es ↔
      Meets packetStep PacketCondition (packetInit pages) es :=
  alongSteps_iff_meets Queued (fun _ _ _ h hs => (h.step_iff hs).1)
    (fun _ _ _ h hcond hs => (h.step_iff hs).2 hcond) es _ (packetInit_queued pages)

/-- A poll while the ring is empty moves its head on. -/
theorem packetRing_fails :
    ¬AlongSteps packetStep PacketContract (packetInit fun _ _ => 0) [.pop (fun _ => 0) 512] := by
  intro h
  obtain ⟨⟨-, hsame, -⟩, -⟩ := h _ rfl
  have hring := hsame ((packetInit_queued _).empty_iff.2 rfl)
  exact absurd (congrArg NetworkBuffer.receiveHead hring) (by decide)

end Gramado
