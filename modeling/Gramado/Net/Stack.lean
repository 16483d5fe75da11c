import Gramado.Core.CTypes
import Gramado.Lib.EventLog

/-!
# The network device, and sending

What the protocols of `kres/net` share: the device, the state, the accesses to a received frame
and the frames that are sent (`network_send_udp`, `network_send_arp`, `ethernet_send`).

A received frame lies in the receive buffer of the device, and its handlers go through it by
pointers.  A pointer is an offset from the first byte of the frame; what lies behind the frame are
the bytes that the buffer and the memory behind it held before.  The buffer has 8192 bytes, so that
every header and every fixed field can be read; only a scan for a zero byte can run to `bufferEnd`,
where no memory is mapped any more.

Every access to the frame, every write to a local payload buffer and every call of a lower handler
is an event of the log, and so is every frame that leaves.  Messages on the screen are left out, and
the device completes every transmission.
-/

namespace Gramado

open EventLog EventM

/-- `uint8_t mac[6]`. -/
abbrev Mac := Fin 6 → UInt8

/-- `uint8_t ip[4]`. -/
abbrev Ipv4 := Fin 4 → UInt8

/-- `E1000_DEFAULT_BUFFER_SIZE`. -/
def E1000_DEFAULT_BUFFER_SIZE : ℕ := 8192

/-- `SEND_BUFFER_MAX`. -/
def SEND_BUFFER_MAX : ℕ := 8

/-- `ETHERNET_HEADER_LENGHT`. -/
def ETHERNET_HEADER_LENGHT : ℕ := 14

/-- `IP_HEADER_LENGHT`. -/
def IP_HEADER_LENGHT : ℕ := 20

/-- `UDP_HEADER_LENGHT`. -/
def UDP_HEADER_LENGHT : ℕ := 8

/-- `TCP_HEADER_LENGHT`. -/
def TCP_HEADER_LENGHT : ℕ := 20

/-- `ETHERTYPE_IPV4`. -/
def ETHERTYPE_IPV4 : UInt16 := 0x0800

/-- `ETHERTYPE_ARP`. -/
def ETHERTYPE_ARP : UInt16 := 0x0806

/-- `PROTOCOL_IP_TCP`. -/
def PROTOCOL_IP_TCP : UInt8 := 6

/-- `PROTOCOL_IP_UDP`. -/
def PROTOCOL_IP_UDP : UInt8 := 17

/-- `ARP_OPC_REQUEST`. -/
def ARP_OPC_REQUEST : UInt16 := 1

/-- `ARP_OPC_REPLY`. -/
def ARP_OPC_REPLY : UInt16 := 2

/-- `sizeof(struct dhcp_d)`. -/
def DHCP_SIZE : ℕ := 548

/-- `struct intel_nic_info_d`. -/
structure Nic where
  magic : ℤ
  initialized : ℤ
  macAddress : Mac
  ipAddress : Ipv4
  txCur : ℕ
  txBuffersVirt : ℕ → ℕ

/-- `struct dhcp_info_d`. -/
structure DhcpInfo where
  initialized : ℤ
  yourIpv4 : Ipv4
  serverIpv4 : Ipv4

/-- `struct network_info_d`. -/
structure NetworkInfo where
  initialized : ℤ
  gatewayIpv4 : Ipv4
  gatewayMac : Mac

/-- What the protocols read and write. -/
structure NetState where
  initialized : ℤ
  locked : ℤ
  isOnline : ℤ
  currentNIC : Option Nic
  dhcpInfo : DhcpInfo
  networkInfo : Option NetworkInfo
  savedCallerMac : Mac
  savedCallerIpv4 : Ipv4
  udpPayload : ℕ → UInt8
  tcpPayload : ℕ → UInt8
  nodename : ℕ → UInt8
  /-- The local structure of `network_initialize_dhcp`. -/
  ldhcp : ℕ → UInt8
  /-- The received frame, and what lies behind it. -/
  frame : ℕ → UInt8
  bufferEnd : ℕ
  mapped : E1000_DEFAULT_BUFFER_SIZE ≤ bufferEnd

/-- A host whose network is on, without a device and before DHCP, and the frame it has received. -/
def NetState.host (frame : ℕ → UInt8) : NetState where
  initialized := TRUE
  locked := FALSE
  isOnline := FALSE
  currentNIC := none
  dhcpInfo := { initialized := FALSE, yourIpv4 := fun _ => 0, serverIpv4 := fun _ => 0 }
  networkInfo := none
  savedCallerMac := fun _ => 0
  savedCallerIpv4 := fun _ => 0
  udpPayload := fun _ => 0
  tcpPayload := fun _ => 0
  nodename := fun _ => 0
  ldhcp := fun _ => 0
  frame := frame
  bufferEnd := E1000_DEFAULT_BUFFER_SIZE
  mapped := le_rfl

/-- What the handlers do, one access after the other. -/
inductive NetEvent where
  /-- The `n` bytes of the frame from `p` on are read. -/
  | read (p n : ℕ)
  /-- The `n` bytes of the frame from `p` on are written. -/
  | write (p n : ℕ)
  /-- The `n` bytes of a local payload buffer from `p` on are written. -/
  | payload (p n : ℕ)
  /-- A lower handler gets the address `p` and the length `size`. -/
  | call (p : ℕ) (size : ℤ)
  /-- A frame leaves the device. -/
  | sent (frame : List UInt8)
  /-- The UDP handler has its copy of a datagram. -/
  | stored (sport dport : UInt16) (payload : ℕ → UInt8)
  /-- A DHCP message is handed to UDP. -/
  | dhcpSent (message : List UInt8)
  /-- The DHCP client saves its address and the one of its server. -/
  | adopted (yourIpv4 serverIpv4 : Ipv4)

/-- The computations of the network code. -/
abbrev NetM (α : Type) : Type := EventM Fault NetState NetEvent α

/-! ## Bytes -/

/-- `ToNetByteOrder16` and `FromNetByteOrder16`. -/
def toNetByteOrder16 (v : UInt16) : UInt16 := (v >>> 8) ||| (v <<< 8)

/-- A 16-bit field as it stands in memory, low byte first. -/
def halfBytes (v : UInt16) : List UInt8 := [v.toUInt8, (v >>> 8).toUInt8]

/-- The 16-bit field of two bytes in memory. -/
def half (lo hi : UInt8) : UInt16 := lo.toUInt16 ||| (hi.toUInt16 <<< 8)

/-- The bytes of an array, with a list written over those from `p` on. -/
def putBytes (b : ℕ → UInt8) (p : ℕ) (bytes : List UInt8) : ℕ → UInt8 :=
  fun k => if p ≤ k then bytes.getD (k - p) (b k) else b k

/-! ## Going through a received frame -/

/-- One byte of the frame. -/
def readByte (p : ℕ) : NetM UInt8 := fun s => ⟨.ok (s.frame p), s, [.read p 1]⟩

/-- A 16-bit field of the frame. -/
def readHalf (p : ℕ) : NetM UInt16 := fun s =>
  ⟨.ok (half (s.frame p) (s.frame (p + 1))), s, [.read p 2]⟩

/-- The four bytes of an address in the frame. -/
def readIpv4 (p : ℕ) : NetM Ipv4 := fun s => ⟨.ok fun i => s.frame (p + i), s, [.read p 4]⟩

/-- The six bytes of an address in the frame. -/
def readMac (p : ℕ) : NetM Mac := fun s => ⟨.ok fun i => s.frame (p + i), s, [.read p 6]⟩

/-- `strlen` on the frame: the distance from `p` to the next zero byte. -/
def strlen (p : ℕ) : NetM ℕ := fun s =>
  match (List.range (s.bufferEnd - p)).find? fun k => s.frame (p + k) = 0 with
  | some n => ⟨.ok n, s, [.read p (n + 1)]⟩
  | none => ⟨.error .badPointer, s, [.read p (s.bufferEnd - p + 1)]⟩

section Reads

variable (s : NetState) (p : ℕ)

lemma readByte_run : readByte p s = ⟨.ok (s.frame p), s, [.read p 1]⟩ := rfl

lemma readHalf_run :
    readHalf p s = ⟨.ok (half (s.frame p) (s.frame (p + 1))), s, [.read p 2]⟩ := rfl

lemma readIpv4_run : readIpv4 p s = ⟨.ok fun i => s.frame (p + i), s, [.read p 4]⟩ := rfl

lemma readMac_run : readMac p s = ⟨.ok fun i => s.frame (p + i), s, [.read p 6]⟩ := rfl

end Reads

/-! ## Checksums -/

/-- The sum of the 16-bit words of a header; of the loop of `net_checksum`, with the byte that is
left at the end. -/
def sumWords : List UInt8 → UInt32
  | a :: b :: rest => (half a b).toUInt32 + sumWords rest
  | [a] => a.toUInt32
  | [] => 0

/-- The words of a pseudo header: a single byte at its end does not count. -/
def sumPseudo : List UInt8 → UInt32
  | a :: b :: rest => (half a b).toUInt32 + sumPseudo rest
  | [_] => 0
  | [] => 0

/-- `net_checksum`; the pseudo header may be missing. -/
def netChecksum (phdr : Option (List UInt8)) (bytes : List UInt8) : UInt16 :=
  let checksum : UInt32 := (phdr.map sumPseudo).getD 0 + sumWords bytes
  let checksum := (checksum &&& (0xffff : UInt32)) + (checksum >>> (16 : UInt32))
  let checksum := checksum + (checksum >>> (16 : UInt32))
  let final := ~~~checksum.toUInt16
  toNetByteOrder16 final

/-! ## Sending -/

/-- `struct ether_header`. -/
def etherHeader (macSrc macDst : Mac) (type : UInt16) : List UInt8 :=
  List.ofFn macDst ++ List.ofFn macSrc ++ halfBytes (toNetByteOrder16 type)

/-- `struct ip_d`, as `network_send_udp` fills it in. -/
def ipHeader (len sum : UInt16) (source target : Ipv4) : List UInt8 :=
  [0x45, 0x00] ++ halfBytes (toNetByteOrder16 len) ++ halfBytes 0 ++
    halfBytes (toNetByteOrder16 0x4000) ++ [255, PROTOCOL_IP_UDP] ++ halfBytes sum ++
    List.ofFn source ++ List.ofFn target

/-- `struct ip_d` with its checksum. -/
def ipHeaderSummed (len : UInt16) (source target : Ipv4) : List UInt8 :=
  ipHeader len (toNetByteOrder16 (netChecksum none (ipHeader len 0 source target))) source target

/-- `struct udp_d`. -/
def udpHeader (sport dport len : UInt16) : List UInt8 :=
  halfBytes (toNetByteOrder16 sport) ++ halfBytes (toNetByteOrder16 dport) ++
    halfBytes (toNetByteOrder16 len) ++ halfBytes 0

/-- The frame that `network_send_udp` builds. -/
def udpFrame (macSrc : Mac) (source target : Ipv4) (macDst : Mac) (sport dport : UInt16)
    (data : List UInt8) : List UInt8 :=
  let len := UInt16.ofNat data.length
  etherHeader macSrc macDst ETHERTYPE_IPV4 ++ ipHeaderSummed (20 + (8 + len)) source target ++
    udpHeader sport dport (8 + len) ++ data

/-- `ethernet_send`, and the device that it sends through. -/
def ethernetSend (nic : Nic) (frame : List UInt8) : NetM ℤ := do
  if nic.magic ≠ 1234 then pure (-1)
  else if frame.length = 0 then fault (.panic "e1000_send: len=0\n")
  else if frame.length > E1000_DEFAULT_BUFFER_SIZE then fault (.panic "e1000_send: len\n")
  else if nic.txCur ≥ SEND_BUFFER_MAX then fault (.panic "e1000_send: old\n")
  else
    emit (.sent frame)
    modify fun s => { s with currentNIC := some { nic with txCur := (nic.txCur + 1) % 8 } }
    pure 0

/-- `network_send_udp`. -/
def networkSendUdp (source target : Ipv4) (macDst : Mac) (sport dport : UInt16)
    (data : List UInt8) : NetM ℤ := do
  let s ← get
  match s.currentNIC with
  | none => pure (-1)
  | some nic =>
      let nic := { nic with ipAddress := source }
      modify fun s => { s with currentNIC := some nic }
      if nic.txBuffersVirt nic.txCur = 0 then fault (.panic "network_send_udp: frame\n")
      else
        let _ ← ethernetSend nic (udpFrame nic.macAddress source target macDst sport dport data)
        pure 0

/-- `struct ether_arp`. -/
def arpHeader (op : UInt16) (sha : Mac) (spa : Ipv4) (tha : Mac) (tpa : Ipv4) : List UInt8 :=
  halfBytes 0x0100 ++ halfBytes 0x0008 ++ [6, 4] ++ halfBytes (toNetByteOrder16 op) ++
    List.ofFn sha ++ List.ofFn spa ++ List.ofFn tha ++ List.ofFn tpa

/-- `network_send_arp`; the target's addresses are read where the caller says. -/
def networkSendArp (targetMac : NetM Mac) (source : Ipv4) (targetIp : NetM Ipv4) (op : UInt16) :
    NetM Unit := do
  let s ← get
  match s.currentNIC with
  | none => pure ()
  | some nic =>
      let nic := { nic with ipAddress := source }
      modify fun s => { s with currentNIC := some nic }
      let macDst ← targetMac
      if op ≠ ARP_OPC_REQUEST ∧ op ≠ ARP_OPC_REPLY then
        fault (.panic "network_send_arp: Invalid operation code\n")
      else
        let tha ← targetMac
        let tpa ← targetIp
        if nic.txBuffersVirt nic.txCur = 0 then fault (.panic "network_send_arp: frame\n")
        else
          let _ ← ethernetSend nic
            (etherHeader nic.macAddress macDst ETHERTYPE_ARP ++
              arpHeader op nic.macAddress source tha tpa)
          pure ()

/-- `network_send_arp_reply`. -/
def networkSendArpReply (targetMac : NetM Mac) (targetIp : NetM Ipv4) : NetM Unit := do
  let s ← get
  if s.dhcpInfo.initialized ≠ TRUE then pure ()
  else networkSendArp targetMac s.dhcpInfo.yourIpv4 targetIp ARP_OPC_REPLY

end Gramado
