import Mathlib.Data.List.TakeWhile
import Gramado.Net.Stack

/-!
# The handlers of received frames

`network_on_receiving` and what it calls: the Ethernet, IPv4, ARP, UDP, TCP and DHCP handlers, and
the two senders of the DHCP client.  Every handler gets a pointer into the frame and the length that
the handler above worked out for it; no handler looks at that length.
-/

namespace Gramado

open EventLog EventM

/-- `DORA_D`. -/
abbrev DORA_D : ℤ := 1

/-- `DORA_O`. -/
abbrev DORA_O : UInt8 := 2

/-- `DORA_R`. -/
abbrev DORA_R : ℤ := 3

/-- `DHCP_DECLINE`. -/
abbrev DHCP_DECLINE : UInt8 := 4

/-- `DORA_A`. -/
abbrev DORA_A : UInt8 := 5

/-- `OPT_PAD`. -/
abbrev OPT_PAD : UInt8 := 0

/-- `OPT_REQUESTED_IP_ADDR`. -/
abbrev OPT_REQUESTED_IP_ADDR : UInt8 := 50

/-- `OPT_DHCP_MESSAGE_TYPE`. -/
abbrev OPT_DHCP_MESSAGE_TYPE : UInt8 := 53

/-- `OPT_SERVER_ID`. -/
abbrev OPT_SERVER_ID : UInt8 := 54

/-- `OPT_PARAMETER_REQUEST`. -/
abbrev OPT_PARAMETER_REQUEST : UInt8 := 55

/-- `OPT_END`. -/
abbrev OPT_END : UInt8 := 255

/-- What `ToNetByteOrder32(0x3903F326)` leaves in memory. -/
abbrev XID : List UInt8 := [0x39, 0x03, 0xF3, 0x26]

/-- What `ToNetByteOrder32(0x63825363)` leaves in memory. -/
abbrev MAGIC_COOKIE : List UInt8 := [0x63, 0x82, 0x53, 0x63]

/-! ## Local copies -/

/-- The bytes of a C string of at most `n` bytes, as `strncpy` reads them. -/
def copyString (p n : ℕ) : NetM (List UInt8) := fun s =>
  let bytes := ((List.range n).map fun k => s.frame (p + k)).takeWhile (· ≠ 0)
  ⟨.ok bytes, s, [.read p (min (bytes.length + 1) n)]⟩

/-- `__udp_clear_payload_buffer`. -/
def udpClearPayloadBuffer : NetM Unit := do
  modify fun s => { s with udpPayload := fun _ => 0 }
  emit (.payload 0 1024)

/-- A byte of `udp_payload` is cleared. -/
def udpPayloadZero (k : ℕ) : NetM Unit := do
  modify fun s => { s with udpPayload := putBytes s.udpPayload k [0] }
  emit (.payload k 1)

/-! ## DHCP -/

/-- Where a `struct dhcp_d` lies: in the received frame, or on the stack of
`network_initialize_dhcp`. -/
inductive DhcpPointer where
  | received (p : ℕ)
  | ldhcp

/-- Bytes of a `struct dhcp_d` are set. -/
def dhcpPut : DhcpPointer → ℕ → List UInt8 → NetM Unit
  | .received p, k, bytes => do
      modify fun s => { s with frame := putBytes s.frame (p + k) bytes }
      emit (.write (p + k) bytes.length)
  | .ldhcp, k, bytes => modify fun s => { s with ldhcp := putBytes s.ldhcp k bytes }

/-- The bytes of a `struct dhcp_d`. -/
def dhcpBytes : DhcpPointer → NetM (List UInt8)
  | .received p => do
      let s ← get
      emit (.read p DHCP_SIZE)
      pure ((List.range DHCP_SIZE).map fun k => s.frame (p + k))
  | .ldhcp => do
      let s ← get
      pure ((List.range DHCP_SIZE).map s.ldhcp)

/-- The options of `network_dhcp_send` behind the message type. -/
def dhcpOptions (messageType : ℤ) (source target : Ipv4) (nodename : ℕ → UInt8) : List UInt8 :=
  if messageType = DORA_D then [OPT_PARAMETER_REQUEST, 3, 1, 3, 6, OPT_END]
  else
    [OPT_REQUESTED_IP_ADDR, 4] ++ List.ofFn source ++ [OPT_SERVER_ID, 4] ++ List.ofFn target ++
      [OPT_PARAMETER_REQUEST, 3, 1, 3, 6, 12, 7] ++ (List.range 7).map nodename ++ [OPT_END]

/-- `network_dhcp_send`. -/
def networkDhcpSend (dhcp : DhcpPointer) (messageType : ℤ) (source target : Ipv4)
    (sport dport : UInt16) : NetM Unit := do
  if messageType < 0 then pure ()
  else
    dhcpPut dhcp 0 [1, 1, 6, 0]
    dhcpPut dhcp 4 XID
    -- `secs`, `flags` and the four addresses, then `chaddr`.
    dhcpPut dhcp 8 (List.replicate 20 0)
    dhcpPut dhcp 28 (List.replicate 16 0)
    let s ← get
    match s.currentNIC with
    | none => pure ()
    | some nic =>
        dhcpPut dhcp 28 (List.ofFn nic.macAddress)
        dhcpPut dhcp 44 (List.replicate 64 0)
        dhcpPut dhcp 108 (List.replicate 128 0)
        dhcpPut dhcp 236 MAGIC_COOKIE
        dhcpPut dhcp 240 [OPT_DHCP_MESSAGE_TYPE, 1, UInt8.ofNat messageType.toNat]
        if messageType ≠ DORA_D ∧ messageType ≠ DORA_R then pure ()
        else
          dhcpPut dhcp 243 (dhcpOptions messageType source target s.nodename)
          let message ← dhcpBytes dhcp
          let _ ← networkSendUdp (fun _ => 0) (fun _ => 0xFF) (fun _ => 0xFF) sport dport message
          emit (.dhcpSent message)

/-- `network_initialize_dhcp`. -/
def networkInitializeDhcp : NetM ℤ := do
  modify fun s => { s with dhcpInfo := { s.dhcpInfo with initialized := FALSE } }
  let s ← get
  if s.initialized ≠ TRUE then pure (-1)
  else
    match s.currentNIC with
    | none => pure (-1)
    | some nic =>
        if nic.magic ≠ 1234 then pure (-1)
        else if nic.initialized ≠ TRUE then pure (-1)
        else
          networkDhcpSend .ldhcp DORA_D (fun _ => 0) (fun _ => 0xFF) 68 67
          pure 0

/-- `network_handle_dhcp`. -/
def networkHandleDhcp (buffer : ℕ) (_size : ℤ) : NetM Unit := do
  let yourIpv4 ← readIpv4 (buffer + 16)
  let serverIpv4 ← readIpv4 (buffer + 20)
  -- `chaddr` and `op` are shown, nothing more.
  let _ ← readMac (buffer + 28)
  let _ ← readByte buffer
  let option ← readByte (buffer + 242)
  if option = DORA_O then
    networkDhcpSend (.received buffer) DORA_R yourIpv4 serverIpv4 68 67
  else if option = DORA_A then
    modify fun s => { s with
      dhcpInfo := { s.dhcpInfo with
        initialized := TRUE, yourIpv4 := yourIpv4, serverIpv4 := serverIpv4 },
      isOnline := TRUE }
    emit (.adopted yourIpv4 serverIpv4)
  else pure ()

/-! ## UDP -/

/-- The bytes of a string, with its zero. -/
def textBytes (text : String) : List UInt8 :=
  (text.toList.map fun c => UInt8.ofNat c.toNat) ++ [0]

/-- A reply of `__handle_gprotocol`: `udp_payload` is cleared, the two texts are written into it,
and 256 bytes of it go back. -/
def gprotocolReply (code text : String) (sport dport : UInt16) : NetM Unit := do
  udpClearPayloadBuffer
  modify fun s => { s with
    udpPayload := putBytes (putBytes s.udpPayload 0 (textBytes code)) 4 (textBytes text) }
  emit (.payload 0 (textBytes code).length)
  emit (.payload 4 (textBytes text).length)
  let s ← get
  let _ ← networkSendUdp s.dhcpInfo.yourIpv4 s.savedCallerIpv4 s.savedCallerMac dport sport
    ((List.range 256).map s.udpPayload)

/-- `udp_payload` begins with `g:`, and with the digit `code`. -/
def IsGprotocol (payload : ℕ → UInt8) (code : UInt8) : Prop :=
  payload 0 = 0x67 ∧ payload 1 = 0x3A ∧ payload 2 = code

instance (payload : ℕ → UInt8) (code : UInt8) : Decidable (IsGprotocol payload code) :=
  inferInstanceAs (Decidable (_ ∧ _))

/-- `__handle_gprotocol`; the packets of type 1, 2 and 3 are shown, nothing more. -/
def handleGprotocol (sport dport : UInt16) : NetM Unit := do
  let s ← get
  if s.dhcpInfo.initialized ≠ TRUE then pure ()
  else if dport ≠ 11888 then pure ()
  else if IsGprotocol s.udpPayload 0x30 then
    gprotocolReply "g:1 " "This is a response from Gramado OS\n" sport dport
  else if IsGprotocol s.udpPayload 0x34 then
    gprotocolReply "g:0 " "exit" sport dport
  else pure ()

/-- The copy of the bytes of a payload into `udp_payload`, if these are not too many. -/
def udpCopyBytes (p2 pSize : ℕ) : NetM Unit :=
  if pSize ≤ 512 then do
    let bytes ← copyString p2 pSize
    modify fun s => { s with udpPayload := putBytes s.udpPayload 0 bytes }
    emit (.payload 0 pSize)
    udpPayloadZero pSize
    udpPayloadZero (pSize + 1)
  else pure ()

/-- The local copy that `network_handle_udp` makes of the payload at `p2`: it ends at the next zero
byte. -/
def udpCopyPayload (p2 : ℕ) : NetM Unit := do
  udpClearPayloadBuffer
  let pSize ← strlen p2
  udpCopyBytes p2 pSize
  udpPayloadZero 1021

/-- What `network_handle_udp` does for the port of a datagram. -/
def udpPorts (buffer : ℕ) (sport dport : UInt16) : NetM Unit :=
  if dport = 68 ∨ dport = 67 then do
    -- The length is taken as it stands in the frame, high byte first.
    let ulen ← readHalf (buffer + 4)
    let size : ℤ := (ulen.toNat : ℤ) - UDP_HEADER_LENGHT
    emit (.call (buffer + UDP_HEADER_LENGHT) size)
    networkHandleDhcp (buffer + UDP_HEADER_LENGHT) size
  else if dport = 11888 ∨ dport = 22888 ∨ dport = 34884 then do
    handleGprotocol sport dport
    udpClearPayloadBuffer
  else pure ()

/-- `network_handle_udp`. -/
def networkHandleUdp (buffer : ℕ) (_size : ℤ) : NetM Unit := do
  let sport ← readHalf buffer
  let dport ← readHalf (buffer + 2)
  udpCopyPayload (buffer + UDP_HEADER_LENGHT)
  let s ← get
  emit (.stored (toNetByteOrder16 sport) (toNetByteOrder16 dport) s.udpPayload)
  udpPorts buffer (toNetByteOrder16 sport) (toNetByteOrder16 dport)

/-! ## TCP -/

/-- `network_handle_tcp`; what it finds out about the connection is shown, nothing more. -/
def networkHandleTcp (buffer : ℕ) (_size : ℤ) : NetM Unit := do
  let _ ← readHalf buffer
  let _ ← readHalf (buffer + 2)
  let _ ← readIpv4 (buffer + 4)
  let _ ← readIpv4 (buffer + 8)
  modify fun s => { s with tcpPayload := fun _ => 0 }
  emit (.payload 0 1024)
  let bytes ← copyString (buffer + TCP_HEADER_LENGHT) 1020
  modify fun s => { s with tcpPayload := putBytes s.tcpPayload 0 bytes }
  emit (.payload 0 1020)
  modify fun s => { s with tcpPayload := putBytes s.tcpPayload 1021 [0] }
  emit (.payload 1021 1)
  let _ ← readHalf (buffer + 12)
  pure ()

/-! ## IPv4, ARP and Ethernet -/

/-- What `network_handle_ipv4` does for the protocol of a packet. -/
def ipv4Protocols (buffer ipLenght : ℕ) : NetM Unit := do
  let payloadPointer := buffer + IP_HEADER_LENGHT
  let payloadSize : ℤ := (ipLenght : ℤ) - IP_HEADER_LENGHT
  let protocol ← readByte (buffer + 9)
  if protocol = PROTOCOL_IP_UDP then
    emit (.call payloadPointer payloadSize)
    networkHandleUdp payloadPointer payloadSize
  else if protocol = PROTOCOL_IP_TCP then
    emit (.call payloadPointer payloadSize)
    networkHandleTcp payloadPointer payloadSize
  else pure ()

/-- `network_handle_ipv4`. -/
def networkHandleIpv4 (buffer : ℕ) (_size : ℤ) : NetM Unit := do
  let srcIpv4 ← readIpv4 (buffer + 12)
  modify fun s => { s with savedCallerIpv4 := srcIpv4 }
  let vHl ← readByte buffer
  if (vHl >>> 4) &&& 0x0F ≠ 4 then pure ()
  else
    let len ← readHalf (buffer + 2)
    let ipLenght := (toNetByteOrder16 len).toNat
    if ipLenght < 20 ∨ ipLenght > 65535 then fault (.panic "IP: Bad total lenght #debug\n")
    else ipv4Protocols buffer ipLenght

/-- The reply of the gateway is kept, where the kernel has the structure for it. -/
def saveGateway (buffer : ℕ) : NetM Unit := do
  let s ← get
  match s.networkInfo with
  | none => pure ()
  | some info =>
      if info.initialized ≠ TRUE then pure ()
      else
        let spa ← readIpv4 (buffer + 14)
        let sha ← readMac (buffer + 8)
        modify fun s => { s with
          networkInfo := some { info with gatewayIpv4 := spa, gatewayMac := sha } }

/-- `network_handle_arp`. -/
def networkHandleArp (buffer : ℕ) (_size : ℤ) : NetM Unit := do
  let op ← readHalf (buffer + 6)
  if toNetByteOrder16 op = ARP_OPC_REQUEST then
    networkSendArpReply (readMac (buffer + 8)) (readIpv4 (buffer + 14))
  else if toNetByteOrder16 op = ARP_OPC_REPLY then
    let spa ← readIpv4 (buffer + 14)
    if spa 0 = 192 ∧ spa 1 = 168 ∧ spa 2 = 1 ∧ spa 3 = 1 then saveGateway buffer
    else pure ()
  else pure ()

/-- What `network_handle_ethernet` does for the type of a frame; IPv6 is dropped, as every type is
that is not handled. -/
def ethernetTypes (type : UInt16) (frameSize : ℤ) : NetM ℤ := do
  let size : ℤ := frameSize - ETHERNET_HEADER_LENGHT
  if type = ETHERTYPE_IPV4 then
    emit (.call ETHERNET_HEADER_LENGHT size)
    networkHandleIpv4 ETHERNET_HEADER_LENGHT size
    pure 0
  else if type = ETHERTYPE_ARP then
    emit (.call ETHERNET_HEADER_LENGHT size)
    networkHandleArp ETHERNET_HEADER_LENGHT size
    pure 0
  else pure (-1)

/-- `network_handle_ethernet`. -/
def networkHandleEthernet (frameSize : ℤ) : NetM ℤ := do
  let s ← get
  if s.initialized ≠ TRUE then pure (-1)
  else if s.locked = TRUE then pure (-1)
  else if frameSize ≤ 0 ∨ frameSize > E1000_DEFAULT_BUFFER_SIZE then pure (-1)
  else
    let macSrc ← readMac 6
    modify fun s => { s with savedCallerMac := macSrc }
    let type ← readHalf 12
    ethernetTypes (toNetByteOrder16 type) frameSize

/-- `network_on_receiving`, of a frame that is there. -/
def networkOnReceiving (frameSize : ℤ) : NetM ℤ := networkHandleEthernet frameSize

/-! ## What the handlers do -/

/-- A 16-bit field of a frame, high byte first. -/
def netHalf (b : ℕ → UInt8) (p : ℕ) : UInt16 := toNetByteOrder16 (half (b p) (b (p + 1)))

/-- The next zero byte from `p` on is `k` bytes away. -/
def FirstZero (b : ℕ → UInt8) (p k : ℕ) : Prop := b (p + k) = 0 ∧ ∀ j < k, b (p + j) ≠ 0

lemma exists_firstZero {b : ℕ → UInt8} {p k : ℕ} (h : b (p + k) = 0) :
    ∃ j ≤ k, FirstZero b p j := by
  classical
  have hex : ∃ j, b (p + j) = 0 := ⟨k, h⟩
  exact ⟨Nat.find hex, Nat.find_min' hex h, Nat.find_spec hex, fun j hj => Nat.find_min hex hj⟩

/-- The next zero byte is the only one of its kind. -/
lemma FirstZero.le {b : ℕ → UInt8} {p k j : ℕ} (h : FirstZero b p k) (hj : b (p + j) = 0) :
    k ≤ j := by
  by_contra hlt
  exact h.2 j (by omega) hj

variable {s : NetState} {p k j : ℕ}

lemma strlen_of_firstZero (h : FirstZero s.frame p k) (hk : p + k < s.bufferEnd) :
    strlen p s = ⟨.ok k, s, [.read p (k + 1)]⟩ := by
  have hfind : ((List.range (s.bufferEnd - p)).find? fun j => s.frame (p + j) = 0) = some k := by
    rw [List.find?_range_eq_some]
    refine ⟨by simpa using h.1, List.mem_range.2 (by omega), fun j hj => ?_⟩
    simpa using h.2 j hj
  simp only [strlen, hfind]

lemma strlen_of_none (h : ∀ k, p + k < s.bufferEnd → s.frame (p + k) ≠ 0) :
    strlen p s = ⟨.error .badPointer, s, [.read p (s.bufferEnd - p + 1)]⟩ := by
  have hfind : ((List.range (s.bufferEnd - p)).find? fun j => s.frame (p + j) = 0) = none := by
    rw [List.find?_range_eq_none]
    intro j hj
    simpa using h j (by omega)
  simp only [strlen, hfind]

lemma nonzero_of_mem {b : ℕ → UInt8} (h : ∀ i < k, b (p + i) ≠ 0) :
    ∀ a ∈ (List.range k).map fun i => b (p + i), decide (a ≠ 0) = true := by
  intro a ha
  obtain ⟨i, hi, rfl⟩ := List.mem_map.1 ha
  simpa using h i (List.mem_range.1 hi)

/-- A string without a zero byte is copied as a whole. -/
lemma copyString_of_nonzero (h : ∀ i < k, s.frame (p + i) ≠ 0) :
    copyString p k s = ⟨.ok ((List.range k).map fun i => s.frame (p + i)), s, [.read p k]⟩ := by
  have hall := List.takeWhile_eq_self_iff.2 (nonzero_of_mem h)
  simp only [copyString, hall, List.length_map, List.length_range]
  rw [min_eq_right (Nat.le_succ k)]

/-- Any other string is copied, and read, up to its zero byte. -/
lemma copyString_of_zero (h : FirstZero s.frame p j) (hj : j < k) :
    copyString p k s = ⟨.ok ((List.range j).map fun i => s.frame (p + i)), s,
      [.read p (j + 1)]⟩ := by
  have hcut : ((List.range k).map fun i => s.frame (p + i)).takeWhile (· ≠ 0) =
      (List.range j).map fun i => s.frame (p + i) := by
    obtain ⟨m, rfl⟩ : ∃ m, k = j + (m + 1) := ⟨k - j - 1, by omega⟩
    rw [List.range_add, List.map_append, List.takeWhile_append_of_pos (nonzero_of_mem h.2),
      List.range_succ_eq_map, List.map_cons, List.map_cons,
      List.takeWhile_cons_of_neg (by simpa using h.1), List.append_nil]
  simp only [copyString, hcut, List.length_map, List.length_range]
  rw [min_eq_left hj]

/-- What `udp_payload` holds after the copy of the bytes before the next zero byte. -/
def copied (b : ℕ → UInt8) (p k : ℕ) : ℕ → UInt8 :=
  fun j => if k ≤ 512 ∧ j < k then b (p + j) else 0

/-- The accesses of that copy. -/
def copyEvents (p k : ℕ) : List NetEvent :=
  [.payload 0 1024, .read p (k + 1)] ++
    (if k ≤ 512 then [.read p k, .payload 0 k, .payload k 1, .payload (k + 1) 1] else []) ++
    [.payload 1021 1]

/-- A zero over a zero changes nothing. -/
lemma putBytes_zero {b : ℕ → UInt8} (h : b k = 0) : putBytes b k [0] = b := by
  funext j
  rcases Nat.lt_trichotomy j k with hj | rfl | hj
  · exact if_neg (by omega)
  · simp [putBytes, h]
  · have hlen : [(0 : UInt8)].length ≤ j - k := by simp; omega
    rw [putBytes, if_pos hj.le, List.getD_eq_getElem?_getD, List.getElem?_eq_none hlen,
      Option.getD_none]

lemma putBytes_of_range {b : ℕ → UInt8} :
    putBytes (fun _ => 0) 0 ((List.range k).map b) = fun j => if j < k then b j else 0 := by
  funext j
  by_cases hj : j < k <;> simp [putBytes, hj]

lemma udpClearPayloadBuffer_run :
    udpClearPayloadBuffer s = ⟨.ok (), { s with udpPayload := fun _ => 0 }, [.payload 0 1024]⟩ :=
  rfl

lemma udpPayloadZero_run : udpPayloadZero k s =
    ⟨.ok (), { s with udpPayload := putBytes s.udpPayload k [0] }, [.payload k 1]⟩ := rfl

/-- The copy of the bytes, into a cleared buffer. -/
lemma udpCopyBytes_run (h : FirstZero s.frame p k) (hclear : s.udpPayload = fun _ => 0) :
    udpCopyBytes p k s = ⟨.ok (), { s with udpPayload := copied s.frame p k },
      if k ≤ 512 then [.read p k, .payload 0 k, .payload k 1, .payload (k + 1) 1] else []⟩ := by
  unfold udpCopyBytes
  by_cases hle : k ≤ 512
  · have hzero : ∀ j, k ≤ j → copied s.frame p k j = 0 := fun j hj => if_neg (by omega)
    have hdata : putBytes s.udpPayload 0 ((List.range k).map fun j => s.frame (p + j)) =
        copied s.frame p k := by
      rw [hclear, putBytes_of_range]
      funext j
      simp only [copied, hle, true_and]
    rw [if_pos hle, if_pos hle, bind_of_ok (copyString_of_nonzero h.2), modify_bind, emit_bind,
      bind_of_ok udpPayloadZero_run, udpPayloadZero_run]
    simp only [hdata, putBytes_zero (hzero k le_rfl), putBytes_zero (hzero (k + 1) (by omega))]
    rfl
  · rw [if_neg hle, if_neg hle]
    have hnone : copied s.frame p k = s.udpPayload := by
      rw [hclear]
      funext j
      exact if_neg fun hj => hle hj.1
    rw [hnone]
    rfl

/-- **The copy of a UDP payload**, when there is a zero byte behind it. -/
lemma udpCopyPayload_run (h : FirstZero s.frame p k) (hk : p + k < s.bufferEnd) :
    udpCopyPayload p s =
      ⟨.ok (), { s with udpPayload := copied s.frame p k }, copyEvents p k⟩ := by
  have hzero : copied s.frame p k 1021 = 0 := if_neg (by omega)
  have hstrlen := strlen_of_firstZero (s := { s with udpPayload := fun _ => 0 }) h hk
  have hcopy := udpCopyBytes_run (s := { s with udpPayload := fun _ => 0 }) h rfl
  unfold udpCopyPayload
  rw [bind_of_ok udpClearPayloadBuffer_run, bind_of_ok hstrlen, bind_of_ok hcopy,
    udpPayloadZero_run]
  simp only [putBytes_zero hzero, Outcome.behind, copyEvents, List.append_assoc, List.cons_append,
    List.nil_append]

/-- Without a zero byte the copy runs into unmapped memory. -/
lemma udpCopyPayload_fault (h : ∀ k, p + k < s.bufferEnd → s.frame (p + k) ≠ 0) :
    udpCopyPayload p s = ⟨.error .badPointer, { s with udpPayload := fun _ => 0 },
      [.payload 0 1024, .read p (s.bufferEnd - p + 1)]⟩ := by
  have hstrlen := strlen_of_none (s := { s with udpPayload := fun _ => 0 }) h
  unfold udpCopyPayload
  rw [bind_of_ok udpClearPayloadBuffer_run, bind_of_error hstrlen]
  rfl

/-- **The UDP handler**, when there is a zero byte behind the header. -/
lemma networkHandleUdp_run {size : ℤ} (h : FirstZero s.frame (p + 8) k)
    (hk : p + 8 + k < s.bufferEnd) :
    networkHandleUdp p size s =
      (udpPorts p (netHalf s.frame p) (netHalf s.frame (p + 2))
        { s with udpPayload := copied s.frame (p + 8) k }).behind
      ([.read p 2, .read (p + 2) 2] ++ copyEvents (p + 8) k ++
        [.stored (netHalf s.frame p) (netHalf s.frame (p + 2)) (copied s.frame (p + 8) k)]) := by
  unfold networkHandleUdp
  rw [UDP_HEADER_LENGHT, bind_of_ok (readHalf_run s p), bind_of_ok (readHalf_run s (p + 2)),
    bind_of_ok (udpCopyPayload_run h hk), get_bind, emit_bind, Outcome.behind_behind,
    Outcome.behind_behind, Outcome.behind_behind]
  rfl

lemma networkHandleUdp_fault {size : ℤ}
    (h : ∀ k, p + 8 + k < s.bufferEnd → s.frame (p + 8 + k) ≠ 0) :
    networkHandleUdp p size s = ⟨.error .badPointer, { s with udpPayload := fun _ => 0 },
      [.read p 2, .read (p + 2) 2, .payload 0 1024, .read (p + 8) (s.bufferEnd - (p + 8) + 1)]⟩ := by
  unfold networkHandleUdp
  rw [UDP_HEADER_LENGHT, bind_of_ok (readHalf_run s p), bind_of_ok (readHalf_run s (p + 2)),
    bind_of_error (udpCopyPayload_fault h)]
  rfl

/-- The saved address of the caller. -/
def withCaller (s : NetState) (p : ℕ) : NetState :=
  { s with savedCallerIpv4 := fun i => s.frame (p + 12 + i) }

/-- The version in an IPv4 header. -/
def ipVersion (b : ℕ → UInt8) (p : ℕ) : UInt8 := (b p >>> 4) &&& 0x0F

/-- **The IPv4 handler** drops a packet of another version, -/
lemma networkHandleIpv4_drop {size : ℤ} (h : ipVersion s.frame p ≠ 4) :
    networkHandleIpv4 p size s =
      ⟨.ok (), withCaller s p, [.read (p + 12) 4, .read p 1]⟩ := by
  unfold networkHandleIpv4
  rw [bind_of_ok (readIpv4_run s _), modify_bind, bind_of_ok (readByte_run _ p)]
  simp only [ipVersion] at h
  rw [if_pos h]
  rfl

/-- halts the system on a length that is too small, -/
lemma networkHandleIpv4_panic {size : ℤ} (h : ipVersion s.frame p = 4)
    (hlen : (netHalf s.frame (p + 2)).toNat < 20) :
    networkHandleIpv4 p size s =
      ⟨.error (.panic "IP: Bad total lenght #debug\n"), withCaller s p,
        [.read (p + 12) 4, .read p 1, .read (p + 2) 2]⟩ := by
  unfold networkHandleIpv4
  rw [bind_of_ok (readIpv4_run s _), modify_bind, bind_of_ok (readByte_run _ p)]
  simp only [ipVersion] at h
  rw [if_neg (not_not.2 h), bind_of_ok (readHalf_run _ _)]
  simp only [netHalf] at hlen
  dsimp only
  rw [if_pos (.inl hlen)]
  rfl

/-- and hands all others on. -/
lemma networkHandleIpv4_run {size : ℤ} (h : ipVersion s.frame p = 4)
    (hlen : 20 ≤ (netHalf s.frame (p + 2)).toNat) :
    networkHandleIpv4 p size s =
      (ipv4Protocols p (netHalf s.frame (p + 2)).toNat (withCaller s p)).behind
        [.read (p + 12) 4, .read p 1, .read (p + 2) 2] := by
  have hmax := (netHalf s.frame (p + 2)).toNat_lt
  unfold networkHandleIpv4
  rw [bind_of_ok (readIpv4_run s _), modify_bind, bind_of_ok (readByte_run _ p)]
  simp only [ipVersion] at h
  rw [if_neg (not_not.2 h), bind_of_ok (readHalf_run _ _)]
  simp only [netHalf] at hlen hmax
  dsimp only
  rw [if_neg (by omega)]
  rfl

/-- The receive path takes a frame of this size: the network is on, and not locked. -/
def Receiving (s : NetState) (size : ℤ) : Prop :=
  s.initialized = TRUE ∧ s.locked ≠ TRUE ∧ 0 < size ∧ size ≤ E1000_DEFAULT_BUFFER_SIZE

/-- The saved hardware address of the caller. -/
def withCallerMac (s : NetState) : NetState :=
  { s with savedCallerMac := fun i => s.frame (6 + i) }

/-- **The Ethernet handler** hands on the frames that the receive path takes, -/
lemma networkOnReceiving_run {size : ℤ} (h : Receiving s size) :
    networkOnReceiving size s =
      (ethernetTypes (netHalf s.frame 12) size (withCallerMac s)).behind [.read 6 6, .read 12 2] := by
  obtain ⟨hon, hlocked, hpos, hmax⟩ := h
  unfold networkOnReceiving networkHandleEthernet
  rw [get_bind, if_neg (not_not.2 hon), if_neg hlocked, if_neg (by omega),
    bind_of_ok (readMac_run s 6), modify_bind, bind_of_ok (readHalf_run _ 12)]
  rfl

/-- and drops all others. -/
lemma networkOnReceiving_drop {size : ℤ} (h : ¬Receiving s size) :
    networkOnReceiving size s = ⟨.ok (-1), s, []⟩ := by
  unfold networkOnReceiving networkHandleEthernet
  rw [get_bind]
  by_cases hon : s.initialized = TRUE
  · by_cases hlocked : s.locked = TRUE
    · rw [if_neg (not_not.2 hon), if_pos hlocked]
      rfl
    · have hsize : size ≤ 0 ∨ size > E1000_DEFAULT_BUFFER_SIZE := by
        by_contra hsize
        exact h ⟨hon, hlocked, by omega, by omega⟩
      rw [if_neg (not_not.2 hon), if_neg hlocked, if_pos hsize]
      rfl
  · rw [if_pos hon]
    rfl

end Gramado
