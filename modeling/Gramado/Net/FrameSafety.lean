import Gramado.Net.Receive

/-!
# When the reception of a frame is safe

The handlers trust every length that a frame states, and take it that a header is there as soon as
they are called.  `Safe` is what a handler should do for any frame: read inside the frame, write
inside the payload buffers, hand on lengths that fit, and halt nothing.  `reception_safe` is the
exact condition on the frame, put together from the conditions of the handlers, from the bottom up.
-/

namespace Gramado

open EventLog EventM

/-- What the handlers of a frame of `n` bytes may do. -/
def Within (n : ℕ) : NetEvent → Prop
  | .read p k => p + k ≤ n
  | .write _ _ => False
  | .payload p k => p + k ≤ 1024
  | .call p size => 0 ≤ size ∧ p + size ≤ n
  | .sent _ => True
  | .stored _ _ _ => True
  | .dhcpSent _ => True
  | .adopted _ _ => True

/-- A run of the handlers of a frame of `n` bytes that reads and writes what it may, hands on lengths
that fit, and does not halt the system. -/
abbrev Safe {α : Type} (n : ℕ) (r : Outcome Fault NetState NetEvent α) : Prop :=
  Clean (fun _ => True) (Within n) r

variable {α β : Type} {n p k : ℕ} {s s' : NetState}

/-! ## Accesses -/

lemma safe_step {x : NetM α} {f : α → NetM β} {a : α} {e : NetEvent}
    (h : x s = ⟨.ok a, s', [e]⟩) : Safe n ((x >>= f) s) ↔ Within n e ∧ Safe n (f a s') := by
  rw [Safe, clean_bind_of_ok h, List.forall_mem_singleton]

lemma safe_readByte {f : UInt8 → NetM β} :
    Safe n ((readByte p >>= f) s) ↔ p + 1 ≤ n ∧ Safe n (f (s.frame p) s) :=
  safe_step (readByte_run s p)

lemma safe_readHalf {f : UInt16 → NetM β} : Safe n ((readHalf p >>= f) s) ↔
    p + 2 ≤ n ∧ Safe n (f (half (s.frame p) (s.frame (p + 1))) s) :=
  safe_step (readHalf_run s p)

lemma safe_readIpv4 {f : Ipv4 → NetM β} :
    Safe n ((readIpv4 p >>= f) s) ↔ p + 4 ≤ n ∧ Safe n (f (fun i => s.frame (p + i)) s) :=
  safe_step (readIpv4_run s p)

lemma safe_readMac {f : Mac → NetM β} :
    Safe n ((readMac p >>= f) s) ↔ p + 6 ≤ n ∧ Safe n (f (fun i => s.frame (p + i)) s) :=
  safe_step (readMac_run s p)

lemma safe_emit {e : NetEvent} {f : Unit → NetM β} :
    Safe n ((emit e >>= f) s) ↔ Within n e ∧ Safe n (f () s) :=
  clean_emit_bind

lemma safe_pure (a : α) : Safe n ((pure a : NetM α) s) := clean_pure a

lemma not_safe_fault (e : Fault) : ¬Safe n ((fault e : NetM α) s) :=
  fun h => h.fault e rfl trivial

/-- A result at the end changes nothing. -/
lemma safe_bind_pure {x : NetM α} {b : β} : Safe n ((x >>= fun _ => pure b) s) ↔ Safe n (x s) := by
  rw [Safe, clean_bind]
  exact and_iff_left fun _ _ => clean_pure b

/-! ## Sending -/

/-- The device can take a frame: it has the buffer for it, as its initialisation leaves it. -/
def SendReady (s : NetState) : Prop :=
  ∀ nic, s.currentNIC = some nic →
    nic.txBuffersVirt nic.txCur ≠ 0 ∧ (nic.magic = 1234 → nic.txCur < SEND_BUFFER_MAX)

lemma safe_ethernetSend {nic : Nic} {frame : List UInt8} (hpos : 0 < frame.length)
    (hle : frame.length ≤ E1000_DEFAULT_BUFFER_SIZE) :
    Safe n (ethernetSend nic frame s) ↔ (nic.magic = 1234 → nic.txCur < SEND_BUFFER_MAX) := by
  unfold ethernetSend
  by_cases hmagic : nic.magic = 1234
  · rw [if_neg (not_not.2 hmagic), if_neg hpos.ne', if_neg (by omega)]
    by_cases hcur : nic.txCur ≥ SEND_BUFFER_MAX
    · rw [if_pos hcur]
      exact iff_of_false (not_safe_fault _) fun h => absurd (h hmagic) (by omega)
    · rw [if_neg hcur]
      refine iff_of_true ?_ (by omega)
      rw [safe_emit]
      exact ⟨trivial, safe_pure _⟩
  · rw [if_pos hmagic]
    exact iff_of_true (safe_pure _) fun h => absurd h hmagic

lemma udpFrame_length (macSrc : Mac) (source target : Ipv4) (macDst : Mac) (sport dport : UInt16)
    (data : List UInt8) :
    (udpFrame macSrc source target macDst sport dport data).length = 42 + data.length := by
  simp [udpFrame, etherHeader, ipHeaderSummed, ipHeader, udpHeader, halfBytes]
  omega

lemma safe_networkSendUdp {source target : Ipv4} {macDst : Mac} {sport dport : UInt16}
    {data : List UInt8} (hlen : data.length ≤ 1000) :
    Safe n (networkSendUdp source target macDst sport dport data s) ↔ SendReady s := by
  unfold networkSendUdp SendReady
  rw [get_bind]
  cases hnic : s.currentNIC with
  | none => exact iff_of_true (safe_pure _) nofun
  | some nic =>
      dsimp only
      rw [modify_bind]
      by_cases hbuf : nic.txBuffersVirt nic.txCur = 0
      · rw [if_pos hbuf]
        exact iff_of_false (not_safe_fault _) fun h => (h nic rfl).1 hbuf
      · rw [if_neg hbuf, safe_bind_pure, safe_ethernetSend (by rw [udpFrame_length]; omega)
          (by rw [udpFrame_length]; simp only [E1000_DEFAULT_BUFFER_SIZE]; omega)]
        constructor
        · rintro h nic' hnic'
          obtain rfl := Option.some.inj hnic'
          exact ⟨hbuf, h⟩
        · intro h
          exact (h nic rfl).2

lemma safe_networkSendArp {mac ip : ℕ} {source : Ipv4} {op : UInt16}
    (hop : op = ARP_OPC_REQUEST ∨ op = ARP_OPC_REPLY) (hmac : mac + 6 ≤ ip) :
    Safe n (networkSendArp (readMac mac) source (readIpv4 ip) op s) ↔
      (s.currentNIC ≠ none → ip + 4 ≤ n) ∧ SendReady s := by
  unfold networkSendArp SendReady
  rw [get_bind]
  cases hnic : s.currentNIC with
  | none => exact iff_of_true (safe_pure _) ⟨fun h => absurd rfl h, nofun⟩
  | some nic =>
      dsimp only
      rw [modify_bind, safe_readMac, if_neg (by tauto), safe_readMac, safe_readIpv4]
      dsimp only
      have hsome : (∀ nic', some nic = some nic' → nic'.txBuffersVirt nic'.txCur ≠ 0 ∧
          (nic'.magic = 1234 → nic'.txCur < SEND_BUFFER_MAX)) ↔
          nic.txBuffersVirt nic.txCur ≠ 0 ∧ (nic.magic = 1234 → nic.txCur < SEND_BUFFER_MAX) :=
        ⟨fun h => h nic rfl, fun h nic' hnic' => Option.some.inj hnic' ▸ h⟩
      rw [hsome]
      by_cases hbuf : nic.txBuffersVirt nic.txCur = 0
      · rw [if_pos hbuf]
        exact iff_of_false (fun h => not_safe_fault _ h.2.2.2) fun h => h.2.1 hbuf
      · rw [if_neg hbuf, safe_bind_pure, safe_ethernetSend (by simp [etherHeader]) (by
          simp [etherHeader, arpHeader, halfBytes, E1000_DEFAULT_BUFFER_SIZE])]
        simp only [ne_eq, reduceCtorEq, not_false_eq_true, true_implies, hbuf, true_and]
        constructor
        · rintro ⟨-, -, hip, hcur⟩
          exact ⟨hip, hcur⟩
        · rintro ⟨hip, hcur⟩
          exact ⟨by omega, by omega, hip, hcur⟩


/-! ## ARP -/

/-- The operation of an ARP frame. -/
def arpOperation (b : ℕ → UInt8) : UInt16 := netHalf b 20

/-- Which ARP frames of `n` bytes are handled safely. -/
def SafeArp (s : NetState) (n : ℕ) : Prop :=
  22 ≤ n ∧
    (arpOperation s.frame = ARP_OPC_REQUEST → s.dhcpInfo.initialized = TRUE →
      (s.currentNIC ≠ none → 32 ≤ n) ∧ SendReady s) ∧
    (arpOperation s.frame = ARP_OPC_REPLY → 32 ≤ n)

lemma safe_saveGateway (hn : 32 ≤ n) : Safe n (saveGateway 14 s) := by
  unfold saveGateway
  rw [get_bind]
  cases s.networkInfo with
  | none => exact safe_pure _
  | some info =>
      dsimp only
      by_cases hinit : info.initialized ≠ TRUE
      · rw [if_pos hinit]
        exact safe_pure _
      · rw [if_neg hinit, safe_readIpv4, safe_readMac]
        exact ⟨by omega, by omega, nofun, nofun⟩

lemma safe_networkHandleArp {size : ℤ} :
    Safe n (networkHandleArp 14 size s) ↔ SafeArp s n := by
  unfold networkHandleArp SafeArp
  rw [safe_readHalf]
  refine and_congr_right fun hn => ?_
  change Safe n ((if arpOperation s.frame = ARP_OPC_REQUEST then _ else
    if arpOperation s.frame = ARP_OPC_REPLY then _ else _ : NetM Unit) s) ↔ _
  by_cases hreq : arpOperation s.frame = ARP_OPC_REQUEST
  · have hreply : arpOperation s.frame ≠ ARP_OPC_REPLY := by rw [hreq]; decide
    rw [if_pos hreq, networkSendArpReply, get_bind]
    by_cases hinit : s.dhcpInfo.initialized = TRUE
    · rw [if_neg (not_not.2 hinit), safe_networkSendArp (.inr rfl) (by omega)]
      exact ⟨fun h => ⟨fun _ _ => h, fun h' => absurd h' hreply⟩, fun h => h.1 hreq hinit⟩
    · rw [if_pos hinit]
      exact iff_of_true (safe_pure _) (by tauto)
  · rw [if_neg hreq]
    by_cases hreply : arpOperation s.frame = ARP_OPC_REPLY
    · rw [if_pos hreply, safe_readIpv4]
      refine ⟨fun h => ⟨by tauto, fun _ => h.1⟩, fun h => ⟨h.2 hreply, ?_⟩⟩
      rw [ite_run]
      split_ifs
      · exact safe_saveGateway (h.2 hreply)
      · exact safe_pure _
    · rw [if_neg hreply]
      exact iff_of_true (safe_pure _) (by tauto)

/-! ## TCP -/

/-- Which TCP segments in a frame of `n` bytes are handled safely: the copy of the payload ends
before the frame does. -/
def SafeTcp (s : NetState) (n : ℕ) : Prop :=
  54 + 1020 ≤ n ∨ ∃ k, 54 + k < n ∧ s.frame (54 + k) = 0

lemma safe_networkHandleTcp {size : ℤ} :
    Safe n (networkHandleTcp 34 size s) ↔ SafeTcp s n := by
  obtain ⟨bytes, count, hrun, hcount⟩ : ∃ bytes count,
      copyString 54 1020 { s with tcpPayload := fun _ => 0 } =
        ⟨.ok bytes, { s with tcpPayload := fun _ => 0 }, [.read 54 count]⟩ ∧
      (54 + count ≤ n ↔ SafeTcp s n) := by
    by_cases hzero : ∃ k < 1020, s.frame (54 + k) = 0
    · obtain ⟨k, hk, hzero⟩ := hzero
      obtain ⟨j, hj, hfirst⟩ := exists_firstZero hzero
      refine ⟨_, _, copyString_of_zero (s := { s with tcpPayload := fun _ => 0 }) hfirst
        (by omega), fun h => .inr ⟨j, by omega, hfirst.1⟩, ?_⟩
      rintro (h | ⟨i, hi, hi0⟩)
      · omega
      · have := hfirst.le hi0
        omega
    · have hnone : ∀ k < 1020, s.frame (54 + k) ≠ 0 := fun k hk h0 => hzero ⟨k, hk, h0⟩
      refine ⟨_, _, copyString_of_nonzero (s := { s with tcpPayload := fun _ => 0 }) hnone,
        fun h => .inl h, ?_⟩
      rintro (h | ⟨i, hi, hi0⟩)
      · exact h
      · by_contra hlt
        exact hnone i (by omega) hi0
  unfold networkHandleTcp
  rw [safe_readHalf, safe_readHalf, safe_readIpv4, safe_readIpv4, modify_bind, safe_emit,
    TCP_HEADER_LENGHT, safe_step hrun, modify_bind, safe_emit, modify_bind, safe_emit,
    safe_readHalf]
  constructor
  · rintro ⟨-, -, -, -, -, h, -⟩
    exact hcount.1 h
  · intro h
    have hn : 54 ≤ n := by
      rcases h with h | ⟨k, hk, -⟩ <;> omega
    exact ⟨by omega, by omega, by omega, by omega, by simp [Within], hcount.2 h, by simp [Within],
      by simp [Within], by omega, safe_pure _⟩

/-! ## DHCP -/

/-- Which DHCP messages in a frame of `n` bytes are handled safely. -/
def SafeDhcp (s : NetState) (n : ℕ) : Prop :=
  285 ≤ n ∧ s.frame 284 ≠ DORA_O

/-- The request is built in the frame. -/
lemma not_safe_networkDhcpSend {source target : Ipv4} {sport dport : UInt16} :
    ¬Safe n (networkDhcpSend (.received p) DORA_R source target sport dport s) := by
  intro h
  rw [networkDhcpSend, if_neg (by decide), safe_step (e := .write p 4) rfl] at h
  exact h.1

lemma safe_networkHandleDhcp {size : ℤ} :
    Safe n (networkHandleDhcp 42 size s) ↔ SafeDhcp s n := by
  unfold networkHandleDhcp SafeDhcp
  rw [safe_readIpv4, safe_readIpv4, safe_readMac, safe_readByte, safe_readByte]
  have hhead : 285 ≤ n → 42 + 16 + 4 ≤ n ∧ 42 + 20 + 4 ≤ n ∧ 42 + 28 + 6 ≤ n ∧ 42 + 1 ≤ n := by
    omega
  by_cases hoffer : s.frame 284 = DORA_O
  · rw [if_pos hoffer]
    exact iff_of_false (fun h => not_safe_networkDhcpSend h.2.2.2.2.2) fun h => h.2 hoffer
  · rw [if_neg hoffer]
    refine ⟨fun h => ⟨h.2.2.2.2.1, hoffer⟩, fun h => ?_⟩
    obtain ⟨h1, h2, h3, h4⟩ := hhead h.1
    refine ⟨h1, h2, h3, h4, h.1, ?_⟩
    rw [ite_run]
    split_ifs
    · rw [modify_bind]
      exact ⟨fun _ h => (by cases h), fun e he => by rw [List.mem_singleton.1 he]; trivial⟩
    · exact safe_pure _

/-! ## UDP -/

/-- The port that a UDP datagram in a frame is for. -/
def udpPort (b : ℕ → UInt8) : UInt16 := netHalf b 36

/-- The length that a UDP datagram in a frame states, read as `network_handle_udp` reads it. -/
def udpStatedLength (b : ℕ → UInt8) : ℕ := (half (b 38) (b 39)).toNat

/-- The frame holds a packet that `__handle_gprotocol` answers. -/
def AsksReply (s : NetState) : Prop :=
  s.dhcpInfo.initialized = TRUE ∧ udpPort s.frame = 11888 ∧
    (∃ k ≤ 512, s.frame (42 + k) = 0) ∧
    (IsGprotocol (fun j => s.frame (42 + j)) 0x30 ∨ IsGprotocol (fun j => s.frame (42 + j)) 0x34)

/-- Which UDP datagrams in a frame of `n` bytes are handled safely. -/
def SafeUdp (s : NetState) (n : ℕ) : Prop :=
  (∃ k, 42 + k < n ∧ s.frame (42 + k) = 0) ∧
    (udpPort s.frame = 68 ∨ udpPort s.frame = 67 →
      8 ≤ udpStatedLength s.frame ∧ 34 + udpStatedLength s.frame ≤ n ∧ SafeDhcp s n) ∧
    (AsksReply s → SendReady s)

lemma within_copyEvents : (∀ e ∈ copyEvents p k, Within n e) ↔ p + k < n := by
  constructor
  · intro h
    have hread : p + (k + 1) ≤ n := h (.read p (k + 1)) (by simp [copyEvents])
    omega
  · intro hk e he
    simp only [copyEvents, List.mem_append, List.mem_cons, List.not_mem_nil, or_false] at he
    rcases he with (he | he) | rfl
    · rcases he with rfl | rfl
      · simp [Within]
      · simp only [Within]; omega
    · split_ifs at he with hle
      · simp only [List.mem_cons, List.not_mem_nil, or_false] at he
        rcases he with rfl | rfl | rfl | rfl <;> simp only [Within] <;> omega
      · cases he
    · simp [Within]

lemma safe_gprotocolReply {code text : String} {sport dport : UInt16}
    (hcode : (textBytes code).length ≤ 1024) (htext : 4 + (textBytes text).length ≤ 1024) :
    Safe n (gprotocolReply code text sport dport s) ↔ SendReady s := by
  unfold gprotocolReply
  rw [safe_step udpClearPayloadBuffer_run, modify_bind, safe_emit, safe_emit, get_bind,
    safe_bind_pure, safe_networkSendUdp (by simp)]
  constructor
  · rintro ⟨-, -, -, h⟩
    exact h
  · intro h
    exact ⟨by simp [Within], by simpa [Within] using hcode, htext, h⟩

lemma safe_handleGprotocol {sport dport : UInt16} :
    Safe n (handleGprotocol sport dport s) ↔
      (s.dhcpInfo.initialized = TRUE → dport = 11888 →
        IsGprotocol s.udpPayload 0x30 ∨ IsGprotocol s.udpPayload 0x34 → SendReady s) := by
  unfold handleGprotocol
  rw [get_bind]
  by_cases hinit : s.dhcpInfo.initialized = TRUE
  · rw [if_neg (not_not.2 hinit)]
    by_cases hport : dport = 11888
    · rw [if_neg (not_not.2 hport)]
      by_cases hrequest : IsGprotocol s.udpPayload 0x30
      · rw [if_pos hrequest, safe_gprotocolReply (by decide) (by decide)]
        exact ⟨fun h _ _ _ => h, fun h => h hinit hport (.inl hrequest)⟩
      · rw [if_neg hrequest]
        by_cases hclose : IsGprotocol s.udpPayload 0x34
        · rw [if_pos hclose, safe_gprotocolReply (by decide) (by decide)]
          exact ⟨fun h _ _ _ => h, fun h => h hinit hport (.inr hclose)⟩
        · rw [if_neg hclose]
          exact iff_of_true (safe_pure _) (by tauto)
    · rw [if_pos hport]
      exact iff_of_true (safe_pure _) fun _ h => absurd h hport
  · rw [if_pos hinit]
    exact iff_of_true (safe_pure _) fun h => absurd h hinit

lemma copied_of_ne {b : ℕ → UInt8} {j : ℕ} (h : copied b p k j ≠ 0) :
    k ≤ 512 ∧ copied b p k j = b (p + j) := by
  by_cases hcond : k ≤ 512 ∧ j < k
  · exact ⟨hcond.1, if_pos hcond⟩
  · exact absurd (if_neg hcond) h

lemma copied_of_nonzero {b : ℕ → UInt8} {j : ℕ} (h : FirstZero b p k) (hk : k ≤ 512)
    (hj : ∀ i ≤ j, b (p + i) ≠ 0) : copied b p k j = b (p + j) := by
  refine if_pos ⟨hk, ?_⟩
  by_contra hle
  exact hj k (by omega) h.1

/-- What the copy begins with is what the payload begins with, as long as all of it is copied. -/
lemma isGprotocol_copied {b : ℕ → UInt8} {code : UInt8} (h : FirstZero b p k) (hcode : code ≠ 0) :
    IsGprotocol (copied b p k) code ↔ k ≤ 512 ∧ IsGprotocol (fun j => b (p + j)) code := by
  constructor
  · rintro ⟨h0, h1, h2⟩
    obtain ⟨hk, hb0⟩ := copied_of_ne (by rw [h0]; decide : copied b p k 0 ≠ 0)
    obtain ⟨-, hb1⟩ := copied_of_ne (by rw [h1]; decide : copied b p k 1 ≠ 0)
    obtain ⟨-, hb2⟩ := copied_of_ne (by rw [h2]; exact hcode : copied b p k 2 ≠ 0)
    exact ⟨hk, hb0.symm.trans h0, hb1.symm.trans h1, hb2.symm.trans h2⟩
  · rintro ⟨hk, h0, h1, h2⟩
    have hne : ∀ i ≤ 2, b (p + i) ≠ 0 := by
      intro i hi
      interval_cases i
      · exact fun hb => absurd (h0.symm.trans hb) (by decide)
      · exact fun hb => absurd (h1.symm.trans hb) (by decide)
      · exact fun hb => hcode (h2.symm.trans hb)
    exact ⟨(copied_of_nonzero h hk fun i hi => hne i (by omega)).trans h0,
      (copied_of_nonzero h hk fun i hi => hne i (by omega)).trans h1,
      (copied_of_nonzero h hk hne).trans h2⟩

lemma safe_udpPorts {sport dport : UInt16} :
    Safe n (udpPorts 34 sport dport s) ↔
      (dport = 68 ∨ dport = 67 →
        8 ≤ udpStatedLength s.frame ∧ 34 + udpStatedLength s.frame ≤ n ∧ SafeDhcp s n) ∧
      (s.dhcpInfo.initialized = TRUE → dport = 11888 →
        IsGprotocol s.udpPayload 0x30 ∨ IsGprotocol s.udpPayload 0x34 → SendReady s) := by
  unfold udpPorts
  by_cases hdhcp : dport = 68 ∨ dport = 67
  · have hother : dport ≠ 11888 := by rcases hdhcp with rfl | rfl <;> decide
    rw [if_pos hdhcp, safe_readHalf, safe_emit, UDP_HEADER_LENGHT, safe_networkHandleDhcp]
    change _ ∧ ((0 : ℤ) ≤ udpStatedLength s.frame - (8 : ℕ) ∧
      ((34 + 8 : ℕ) : ℤ) + (udpStatedLength s.frame - (8 : ℕ)) ≤ n) ∧ _ ↔ _
    constructor
    · rintro ⟨-, ⟨h8, hle⟩, hsafe⟩
      exact ⟨fun _ => ⟨by omega, by omega, hsafe⟩, fun _ h => absurd h hother⟩
    · rintro ⟨h, -⟩
      obtain ⟨h8, hle, hsafe⟩ := h hdhcp
      exact ⟨by have := hsafe.1; omega, ⟨by omega, by omega⟩, hsafe⟩
  · rw [if_neg hdhcp]
    by_cases hport : dport = 11888 ∨ dport = 22888 ∨ dport = 34884
    · rw [if_pos hport, Safe, clean_bind, ← Safe, safe_handleGprotocol]
      constructor
      · rintro ⟨h, -⟩
        exact ⟨fun h' => absurd h' hdhcp, h⟩
      · rintro ⟨-, h⟩
        exact ⟨h, fun _ _ => clean_ok.2 fun e he => by
          rw [List.mem_singleton.1 he]; simp [Within]⟩
    · rw [if_neg hport]
      exact iff_of_true (safe_pure _) ⟨fun h => absurd h hdhcp, fun _ h => absurd (.inl h) hport⟩

lemma safe_networkHandleUdp {size : ℤ} (hn : n ≤ E1000_DEFAULT_BUFFER_SIZE) :
    Safe n (networkHandleUdp 34 size s) ↔ SafeUdp s n := by
  have hmapped := s.mapped
  by_cases hzero : ∃ k, 42 + k < s.bufferEnd ∧ s.frame (42 + k) = 0
  · obtain ⟨i, hi, hzero'⟩ := hzero
    obtain ⟨k, hki, hfirst⟩ := exists_firstZero hzero'
    rw [networkHandleUdp_run hfirst (by omega), Safe, clean_behind, ← Safe, safe_udpPorts]
    have hevents : (∀ e ∈ [NetEvent.read 34 2, .read (34 + 2) 2] ++ copyEvents 42 k ++
        [.stored (netHalf s.frame 34) (netHalf s.frame (34 + 2)) (copied s.frame 42 k)],
        Within n e) ↔ ∃ j, 42 + j < n ∧ s.frame (42 + j) = 0 := by
      simp only [List.forall_mem_append, List.forall_mem_cons, within_copyEvents]
      constructor
      · rintro ⟨⟨-, hk⟩, -⟩
        exact ⟨k, hk, hfirst.1⟩
      · rintro ⟨j, hj, hj0⟩
        have hkj := hfirst.le hj0
        exact ⟨⟨⟨by simp only [Within]; omega, by simp only [Within]; omega, nofun⟩, by omega⟩,
          trivial, nofun⟩
    have hreply : (s.dhcpInfo.initialized = TRUE → netHalf s.frame (34 + 2) = 11888 →
        IsGprotocol (copied s.frame 42 k) 0x30 ∨ IsGprotocol (copied s.frame 42 k) 0x34 →
          SendReady s) ↔ (AsksReply s → SendReady s) := by
      have hsmall : (∃ j ≤ 512, s.frame (42 + j) = 0) ↔ k ≤ 512 :=
        ⟨fun ⟨j, hj, hj0⟩ => (hfirst.le hj0).trans hj, fun h => ⟨k, h, hfirst.1⟩⟩
      rw [isGprotocol_copied hfirst (by decide), isGprotocol_copied hfirst (by decide), AsksReply,
        hsmall]
      constructor
      · rintro h ⟨hinit, hport, hk, hcode⟩
        exact h hinit hport (hcode.imp (⟨hk, ·⟩) (⟨hk, ·⟩))
      · rintro h hinit hport (⟨hk, hcode⟩ | ⟨hk, hcode⟩)
        · exact h ⟨hinit, hport, hk, .inl hcode⟩
        · exact h ⟨hinit, hport, hk, .inr hcode⟩
    exact and_congr hevents (and_congr Iff.rfl hreply)
  · refine iff_of_false (fun h => ?_) fun h => ?_
    · rw [networkHandleUdp_fault fun k hk h0 => hzero ⟨k, hk, h0⟩] at h
      exact h.fault _ rfl trivial
    · obtain ⟨k, hk, h0⟩ := h.1
      exact hzero ⟨k, by omega, h0⟩

/-! ## IPv4 and Ethernet -/

/-- The length that the IPv4 header of a frame states. -/
def ipStatedLength (b : ℕ → UInt8) : ℕ := (netHalf b 16).toNat

/-- Which IPv4 packets in a frame of `n` bytes are handled safely. -/
def SafeIpv4 (s : NetState) (n : ℕ) : Prop :=
  30 ≤ n ∧ (ipVersion s.frame 14 = 4 →
    20 ≤ ipStatedLength s.frame ∧
    (s.frame 23 = PROTOCOL_IP_UDP → 14 + ipStatedLength s.frame ≤ n ∧ SafeUdp s n) ∧
    (s.frame 23 = PROTOCOL_IP_TCP → 14 + ipStatedLength s.frame ≤ n ∧ SafeTcp s n))

lemma safe_ipv4Protocols {len : ℕ} (hn : n ≤ E1000_DEFAULT_BUFFER_SIZE) (hlen : 20 ≤ len) :
    Safe n (ipv4Protocols 14 len s) ↔ 24 ≤ n ∧
      (s.frame 23 = PROTOCOL_IP_UDP → 14 + len ≤ n ∧ SafeUdp s n) ∧
      (s.frame 23 = PROTOCOL_IP_TCP → 14 + len ≤ n ∧ SafeTcp s n) := by
  have hpass : Within n (.call (14 + IP_HEADER_LENGHT) ((len : ℤ) - IP_HEADER_LENGHT)) ↔
      14 + len ≤ n := by
    simp only [Within, IP_HEADER_LENGHT]
    omega
  unfold ipv4Protocols
  rw [safe_readByte]
  refine and_congr_right fun _ => ?_
  change Safe n ((if s.frame 23 = PROTOCOL_IP_UDP then _ else
    if s.frame 23 = PROTOCOL_IP_TCP then _ else _ : NetM Unit) s) ↔ _
  by_cases hudp : s.frame 23 = PROTOCOL_IP_UDP
  · have htcp : s.frame 23 ≠ PROTOCOL_IP_TCP := by rw [hudp]; decide
    rw [if_pos hudp, safe_emit, hpass]
    change _ ∧ Safe n (networkHandleUdp 34 _ s) ↔ _
    rw [safe_networkHandleUdp hn]
    exact ⟨fun h => ⟨fun _ => h, fun h' => absurd h' htcp⟩, fun h => h.1 hudp⟩
  · rw [if_neg hudp]
    by_cases htcp : s.frame 23 = PROTOCOL_IP_TCP
    · rw [if_pos htcp, safe_emit, hpass]
      change _ ∧ Safe n (networkHandleTcp 34 _ s) ↔ _
      rw [safe_networkHandleTcp]
      exact ⟨fun h => ⟨fun h' => absurd h' hudp, fun _ => h⟩, fun h => h.2 htcp⟩
    · rw [if_neg htcp]
      exact iff_of_true (safe_pure _) ⟨fun h => absurd h hudp, fun h => absurd h htcp⟩

lemma safe_networkHandleIpv4 {size : ℤ} (hn : n ≤ E1000_DEFAULT_BUFFER_SIZE) :
    Safe n (networkHandleIpv4 14 size s) ↔ SafeIpv4 s n := by
  have hreads : (∀ e ∈ [NetEvent.read (14 + 12) 4, .read 14 1], Within n e) ↔ 30 ≤ n := by
    simp only [List.forall_mem_cons, List.not_mem_nil, false_imp_iff, implies_true, and_true, Within]
    omega
  by_cases hversion : ipVersion s.frame 14 = 4
  · by_cases hlen : 20 ≤ ipStatedLength s.frame
    · rw [networkHandleIpv4_run hversion hlen, Safe, clean_behind, ← Safe]
      have hreads' : (∀ e ∈ [NetEvent.read (14 + 12) 4, .read 14 1, .read (14 + 2) 2],
          Within n e) ↔ 30 ≤ n := by
        simp only [List.forall_mem_cons, List.not_mem_nil, false_imp_iff, implies_true, and_true,
          Within]
        omega
      refine (and_congr hreads'
        (safe_ipv4Protocols (s := withCaller s 14) hn hlen)).trans ?_
      constructor
      · rintro ⟨h30, -, h⟩
        exact ⟨h30, fun _ => ⟨hlen, h⟩⟩
      · rintro ⟨h30, h⟩
        exact ⟨h30, by omega, (h hversion).2⟩
    · rw [networkHandleIpv4_panic hversion (by simpa [ipStatedLength] using hlen)]
      exact iff_of_false (fun h => h.fault _ rfl trivial) fun h => hlen (h.2 hversion).1
  · rw [networkHandleIpv4_drop hversion, Safe, clean_ok, hreads, SafeIpv4]
    exact (and_iff_left fun h => absurd h hversion).symm

/-- Which frames of `n` bytes are handled safely. -/
def SafeFrame (s : NetState) (n : ℕ) : Prop :=
  14 ≤ n ∧ (netHalf s.frame 12 = ETHERTYPE_IPV4 → SafeIpv4 s n) ∧
    (netHalf s.frame 12 = ETHERTYPE_ARP → SafeArp s n)

lemma safe_ethernetTypes (hn : n ≤ E1000_DEFAULT_BUFFER_SIZE) :
    Safe n (ethernetTypes (netHalf s.frame 12) n s) ↔
      (netHalf s.frame 12 = ETHERTYPE_IPV4 → 14 ≤ n ∧ SafeIpv4 s n) ∧
        (netHalf s.frame 12 = ETHERTYPE_ARP → 14 ≤ n ∧ SafeArp s n) := by
  have hpass : Within n (.call ETHERNET_HEADER_LENGHT ((n : ℤ) - ETHERNET_HEADER_LENGHT)) ↔
      14 ≤ n := by
    simp only [Within, ETHERNET_HEADER_LENGHT]
    omega
  unfold ethernetTypes
  by_cases hipv4 : netHalf s.frame 12 = ETHERTYPE_IPV4
  · have harp : netHalf s.frame 12 ≠ ETHERTYPE_ARP := by rw [hipv4]; decide
    rw [if_pos hipv4, safe_emit, hpass, safe_bind_pure]
    change _ ∧ Safe n (networkHandleIpv4 14 _ s) ↔ _
    rw [safe_networkHandleIpv4 hn]
    exact ⟨fun h => ⟨fun _ => h, fun h' => absurd h' harp⟩, fun h => h.1 hipv4⟩
  · rw [if_neg hipv4]
    by_cases harp : netHalf s.frame 12 = ETHERTYPE_ARP
    · rw [if_pos harp, safe_emit, hpass, safe_bind_pure]
      change _ ∧ Safe n (networkHandleArp 14 _ s) ↔ _
      rw [safe_networkHandleArp]
      exact ⟨fun h => ⟨fun h' => absurd h' hipv4, fun _ => h⟩, fun h => h.2 harp⟩
    · rw [if_neg harp]
      exact iff_of_true (safe_pure _) ⟨fun h => absurd h hipv4, fun h => absurd h harp⟩

/-- **When the reception of a frame is safe.**  The handlers stay inside the frame and their payload
buffers, hand on lengths that fit, and halt nothing, exactly for the frames of `SafeFrame`. -/
theorem reception_safe (s : NetState) (size : ℤ) :
    Safe size.toNat (networkOnReceiving size s) ↔
      (Receiving s size → SafeFrame s size.toNat) := by
  by_cases hreceiving : Receiving s size
  · obtain ⟨n, rfl⟩ : ∃ n : ℕ, size = n := ⟨size.toNat, by have := hreceiving.2.2; omega⟩
    have hreads : (∀ e ∈ [NetEvent.read 6 6, .read 12 2], Within n e) ↔ 14 ≤ n := by
      simp only [List.forall_mem_cons, List.not_mem_nil, false_imp_iff, implies_true, and_true,
        Within]
      omega
    rw [networkOnReceiving_run hreceiving, Int.toNat_natCast, Safe, clean_behind, ← Safe]
    refine (and_congr hreads (safe_ethernetTypes (s := withCallerMac s)
      (by have := hreceiving.2.2.2; omega))).trans ?_
    constructor
    · rintro ⟨h14, hipv4, harp⟩ -
      exact ⟨h14, fun h => (hipv4 h).2, fun h => (harp h).2⟩
    · intro h
      obtain ⟨h14, hipv4, harp⟩ := h hreceiving
      exact ⟨h14, fun h => ⟨h14, hipv4 h⟩, fun h => ⟨h14, harp h⟩⟩
  · rw [networkOnReceiving_drop hreceiving]
    exact iff_of_true (safe_pure _) fun h => absurd h hreceiving

/-- An IPv4 packet that states a length of zero. -/
def zeroLengthPacket : ℕ → UInt8 :=
  fun k => if k = 12 then 0x08 else if k = 14 then 0x45 else 0

/-- Such a packet, in a frame of 60 bytes, halts the system. -/
theorem reception_unsafe :
    ¬∀ (s : NetState) (size : ℤ), 1 ≤ size → size ≤ 8192 →
      Safe size.toNat (networkOnReceiving size s) := by
  intro h
  have hpanic : (networkOnReceiving 60 (.host zeroLengthPacket)).result =
      .error (.panic "IP: Bad total lenght #debug\n") := by rfl
  exact (h (.host zeroLengthPacket) 60 (by decide) (by decide)).fault _ hpanic trivial

end Gramado
