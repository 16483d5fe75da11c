import Gramado.Lib.Simulation
import Gramado.Net.FrameSafety
import Gramado.Net.UdpRoundTrip

/-!
# ARP on a local network

Machines that run this kernel, and other stations, on one wire.  A machine asks for an address
(`network_arp_request_to` of `net/prot/core/arp.c`), and handles the frames that reach it
(`network_on_receiving`): it answers every request, whoever is asked for, with its own address, and keeps
the hardware address out of a reply that tells of 192.168.1.1.

The wire loses, delays, repeats and reorders frames, and a frame may reach anybody: a machine receives any
frame that was ever sent (`LanStep`).  The other stations send any requests, and replies about themselves.

* `arpFrame_fields` — a handler reads out of a frame what `network_send_arp` has put into it.
* `LanOk` — every reply on the wire is about its sender; every machine knows no gateway but the one that
  it was started with or a station that has the address 192.168.1.1.
* `arp_gateway_run` — this holds after every run.
-/

namespace Gramado

open EventLog EventM Simulation

/-! ## Frames -/

/-- The frame that `network_send_arp` builds. -/
def arpFrame (macSrc macDst : Mac) (op : UInt16) (spa tpa : Ipv4) : List UInt8 :=
  etherHeader macSrc macDst ETHERTYPE_ARP ++ arpHeader op macSrc spa macDst tpa

/-- The hardware address of the sender of an ARP frame. -/
def arpSha (b : ℕ → UInt8) : Mac := fun i => b (22 + i)

/-- The protocol address of the sender of an ARP frame. -/
def arpSpa (b : ℕ → UInt8) : Ipv4 := fun i => b (28 + i)

/-- What a handler reads out of an ARP frame. -/
structure ArpFields (b : ℕ → UInt8) (op : UInt16) (sha : Mac) (spa : Ipv4) : Prop where
  type : netHalf b 12 = ETHERTYPE_ARP
  op : arpOperation b = op
  sha : arpSha b = sha
  spa : arpSpa b = spa

/-- **A handler reads what the sender has written**, whatever lies behind the frame. -/
lemma arpFrame_fields (macSrc macDst : Mac) (op : UInt16) (spa tpa : Ipv4) (behind : ℕ → UInt8) :
    ArpFields (putBytes behind 0 (arpFrame macSrc macDst op spa tpa)) op macSrc spa := by
  have hframe : arpFrame macSrc macDst op spa tpa =
      [macDst 0, macDst 1, macDst 2, macDst 3, macDst 4, macDst 5,
        macSrc 0, macSrc 1, macSrc 2, macSrc 3, macSrc 4, macSrc 5,
        (toNetByteOrder16 ETHERTYPE_ARP).toUInt8, (toNetByteOrder16 ETHERTYPE_ARP >>> 8).toUInt8,
        (0x0100 : UInt16).toUInt8, ((0x0100 : UInt16) >>> 8).toUInt8,
        (0x0008 : UInt16).toUInt8, ((0x0008 : UInt16) >>> 8).toUInt8, 6, 4,
        (toNetByteOrder16 op).toUInt8, (toNetByteOrder16 op >>> 8).toUInt8,
        macSrc 0, macSrc 1, macSrc 2, macSrc 3, macSrc 4, macSrc 5, spa 0, spa 1, spa 2, spa 3,
        macDst 0, macDst 1, macDst 2, macDst 3, macDst 4, macDst 5, tpa 0, tpa 1, tpa 2, tpa 3] := by
    simp only [arpFrame, etherHeader, arpHeader, halfBytes, List.ofFn_succ, List.ofFn_zero,
      List.cons_append, List.nil_append]
    rfl
  rw [hframe]
  refine ⟨netHalf_of_halfBytes rfl rfl, netHalf_of_halfBytes rfl rfl, ?_, ?_⟩
  · funext i
    fin_cases i <;> rfl
  · funext i
    fin_cases i <;> rfl

/-! ## What a machine does -/

/-- The address that every station takes a frame for. -/
def arpBroadcastMac : Mac := fun _ => 0xFF

/-- `network_arp_request_to`. -/
def networkArpRequestTo (source target : Ipv4) : NetM Unit := do
  let s ← get
  if s.initialized ≠ TRUE then pure ()
  else networkSendArp (pure arpBroadcastMac) source (pure target) ARP_OPC_REQUEST

/-- The frame of an event that is one. -/
def NetEvent.frame? : NetEvent → Option (List UInt8)
  | .sent frame => some frame
  | _ => none

/-- The frames that leave, in order. -/
def sentFrames (events : List NetEvent) : List (List UInt8) := events.filterMap NetEvent.frame?

/-- The hardware address of a machine that has a device. -/
def NetState.mac? (s : NetState) : Option Mac := s.currentNIC.map Nic.macAddress

/-- **The effect of sending an ARP frame**: at most that frame leaves, from the machine's own hardware
address, and only the device changes, not its address. -/
structure SendsArp (s : NetState) (macDst : Mac) (op : UInt16) (source target : Ipv4)
    (o : Outcome Fault NetState NetEvent Unit) : Prop where
  state : o.state = { s with currentNIC := o.state.currentNIC }
  mac : o.state.mac? = s.mac?
  sent : ∀ frame ∈ sentFrames o.events,
    ∃ mac, s.mac? = some mac ∧ frame = arpFrame mac macDst op source target

section Effects

variable {s : NetState}

lemma sentFrames_append (events events' : List NetEvent) :
    sentFrames (events ++ events') = sentFrames events ++ sentFrames events' :=
  List.filterMap_append

/-- What does not depend on the device. -/
lemma SendsArp.kept {macDst : Mac} {op : UInt16} {source target : Ipv4}
    {o : Outcome Fault NetState NetEvent Unit} (h : SendsArp s macDst op source target o) {γ : Type}
    (f : NetState → γ) (hf : ∀ nic, f { s with currentNIC := nic } = f s) : f o.state = f s :=
  (congrArg f h.state).trans (hf _)

/-- Events that come before and send nothing. -/
lemma SendsArp.behind {macDst : Mac} {op : UInt16} {source target : Ipv4}
    {o : Outcome Fault NetState NetEvent Unit} (h : SendsArp s macDst op source target o)
    {events : List NetEvent} (hnone : sentFrames events = []) :
    SendsArp s macDst op source target (o.behind events) := by
  refine ⟨h.state, h.mac, fun frame hframe => h.sent frame ?_⟩
  rwa [Outcome.behind_events, sentFrames_append, hnone, List.nil_append] at hframe

/-- What the device does with a frame. -/
lemma ethernetSend_effect (nic : Nic) (frame : List UInt8) (s : NetState) :
    let o := ethernetSend nic frame s
    (o.state = s ∨ ∃ cur, o.state = { s with currentNIC := some { nic with txCur := cur } }) ∧
      ∀ f ∈ sentFrames o.events, f = frame := by
  intro o
  have hnothing {r : Except Fault ℤ} (h : o = ⟨r, s, []⟩) :
      (o.state = s ∨ ∃ cur, o.state = { s with currentNIC := some { nic with txCur := cur } }) ∧
        ∀ f ∈ sentFrames o.events, f = frame := by
    rw [h]
    exact ⟨Or.inl rfl, fun f hf => absurd hf List.not_mem_nil⟩
  by_cases hmagic : nic.magic ≠ 1234
  · exact hnothing (by simp only [o, ethernetSend, if_pos hmagic]; rfl)
  by_cases hzero : frame.length = 0
  · exact hnothing (by simp only [o, ethernetSend, if_neg hmagic, if_pos hzero]; rfl)
  by_cases hlong : frame.length > E1000_DEFAULT_BUFFER_SIZE
  · exact hnothing (by simp only [o, ethernetSend, if_neg hmagic, if_neg hzero, if_pos hlong]; rfl)
  by_cases hcur : nic.txCur ≥ SEND_BUFFER_MAX
  · exact hnothing (by
      simp only [o, ethernetSend, if_neg hmagic, if_neg hzero, if_neg hlong, if_pos hcur]; rfl)
  have hsent : o = ⟨.ok 0, { s with currentNIC := some { nic with txCur := (nic.txCur + 1) % 8 } },
      [.sent frame]⟩ := by
    simp only [o, ethernetSend, if_neg hmagic, if_neg hzero, if_neg hlong, if_neg hcur]
    rfl
  rw [hsent]
  exact ⟨Or.inr ⟨_, rfl⟩, fun f hf => List.mem_singleton.1 hf⟩

/-- **Sending an ARP frame**, when the target's addresses are read without a change of the state. -/
lemma networkSendArp_effect {targetMac : NetM Mac} {targetIp : NetM Ipv4} {macDst : Mac}
    {target : Ipv4} {events events' : List NetEvent} (op : UInt16) (source : Ipv4)
    (hmac : ∀ t, t.frame = s.frame → targetMac t = ⟨.ok macDst, t, events⟩)
    (hip : ∀ t, t.frame = s.frame → targetIp t = ⟨.ok target, t, events'⟩)
    (hnone : sentFrames events = []) (hnone' : sentFrames events' = []) :
    SendsArp s macDst op source target (networkSendArp targetMac source targetIp op s) := by
  rw [networkSendArp, get_bind]
  cases hnic : s.currentNIC with
  | none =>
      refine ⟨?_, rfl, fun f hf => absurd hf List.not_mem_nil⟩
      show s = { s with currentNIC := s.currentNIC }
      rfl
  | some nic =>
      dsimp only
      set t : NetState := { s with currentNIC := some { nic with ipAddress := source } }
      have hframe : t.frame = s.frame := rfl
      -- what is left when nothing is sent
      have hquiet {r : Except Fault Unit} {log : List NetEvent} (hlog : sentFrames log = []) :
          SendsArp s macDst op source target ⟨r, t, log⟩ := by
        refine ⟨rfl, ?_, fun f hf => ?_⟩
        · rw [NetState.mac?, NetState.mac?, hnic]
          rfl
        · rw [hlog] at hf
          exact absurd hf List.not_mem_nil
      rw [modify_bind, bind_of_ok (hmac t hframe)]
      refine SendsArp.behind ?_ hnone
      by_cases hop : op ≠ ARP_OPC_REQUEST ∧ op ≠ ARP_OPC_REPLY
      · rw [if_pos hop]
        exact hquiet rfl
      rw [if_neg hop, bind_of_ok (hmac t hframe)]
      refine SendsArp.behind ?_ hnone
      rw [bind_of_ok (hip t hframe)]
      refine SendsArp.behind ?_ hnone'
      by_cases hbuffer : nic.txBuffersVirt nic.txCur = 0
      · rw [if_pos hbuffer]
        exact hquiet rfl
      rw [if_neg hbuffer]
      obtain ⟨hstate, hevents⟩ := bind_pure_run (x := ethernetSend { nic with ipAddress := source }
        (etherHeader nic.macAddress macDst ETHERTYPE_ARP ++
          arpHeader op nic.macAddress source macDst target)) () t
      obtain ⟨hcases, hsent⟩ := ethernetSend_effect { nic with ipAddress := source }
        (etherHeader nic.macAddress macDst ETHERTYPE_ARP ++
          arpHeader op nic.macAddress source macDst target) t
      refine ⟨?_, ?_, fun f hf => ?_⟩
      · rw [hstate]
        rcases hcases with hsame | ⟨cur, hcur⟩
        · rw [hsame]
        · rw [hcur]
      · rw [NetState.mac?, NetState.mac?, hstate, hnic]
        rcases hcases with hsame | ⟨cur, hcur⟩
        · rw [hsame]
          rfl
        · rw [hcur]
          rfl
      · rw [hevents] at hf
        exact ⟨nic.macAddress, by simp only [NetState.mac?, hnic, Option.map_some], hsent f hf⟩

/-- What a machine knows of the gateway. -/
def NetState.gateway? (s : NetState) : Option (Ipv4 × Mac) :=
  s.networkInfo.map fun info => (info.gatewayIpv4, info.gatewayMac)

/-- The address of the gateway, as `network_handle_arp` has it. -/
def gatewayAddress : Ipv4 := ![192, 168, 1, 1]

/-- **The effect of a received ARP frame** on a machine with the bytes `b` in its buffer: a request is
answered, a reply that tells of the gateway is kept, and nothing else happens. -/
structure HandlesArp {α : Type} (s : NetState) (b : ℕ → UInt8)
    (o : Outcome Fault NetState NetEvent α) : Prop where
  mac : o.state.mac? = s.mac?
  initialized : o.state.initialized = s.initialized
  dhcpInfo : o.state.dhcpInfo = s.dhcpInfo
  gateway : o.state.gateway? = s.gateway? ∨
    (arpOperation b = ARP_OPC_REPLY ∧ arpSpa b = gatewayAddress ∧
      o.state.gateway? = some (arpSpa b, arpSha b))
  sent : ∀ frame ∈ sentFrames o.events, s.dhcpInfo.initialized = TRUE ∧
    arpOperation b = ARP_OPC_REQUEST ∧
    ∃ mac, s.mac? = some mac ∧ frame = arpFrame mac (arpSha b) ARP_OPC_REPLY s.dhcpInfo.yourIpv4 (arpSpa b)

section Handler

variable {α : Type} {b : ℕ → UInt8} {o : Outcome Fault NetState NetEvent α}

lemma HandlesArp.quiet {r : Except Fault α} {events : List NetEvent}
    (hnone : sentFrames events = []) : HandlesArp s b (⟨r, s, events⟩ : Outcome Fault NetState NetEvent α) :=
  ⟨rfl, rfl, rfl, Or.inl rfl, fun f hf => by rw [hnone] at hf; exact absurd hf List.not_mem_nil⟩

lemma HandlesArp.behind (h : HandlesArp s b o) {events : List NetEvent}
    (hnone : sentFrames events = []) : HandlesArp s b (o.behind events) := by
  refine ⟨h.mac, h.initialized, h.dhcpInfo, h.gateway, fun frame hframe => h.sent frame ?_⟩
  rwa [Outcome.behind_events, sentFrames_append, hnone, List.nil_append] at hframe

/-- `network_handle_arp`, on the frame in the buffer. -/
lemma networkHandleArp_effect (size : ℤ) (s : NetState) :
    HandlesArp s s.frame (networkHandleArp ETHERNET_HEADER_LENGHT size s) := by
  rw [networkHandleArp, bind_of_ok (readHalf_run s _)]
  refine HandlesArp.behind ?_ rfl
  change HandlesArp s s.frame ((if arpOperation s.frame = ARP_OPC_REQUEST then _ else
    if arpOperation s.frame = ARP_OPC_REPLY then _ else _ : NetM Unit) s)
  by_cases hrequest : arpOperation s.frame = ARP_OPC_REQUEST
  · rw [if_pos hrequest, networkSendArpReply, get_bind]
    by_cases hdhcp : s.dhcpInfo.initialized ≠ TRUE
    · rw [if_pos hdhcp]
      exact HandlesArp.quiet rfl
    · rw [if_neg hdhcp]
      have hsends : SendsArp s (arpSha s.frame) ARP_OPC_REPLY s.dhcpInfo.yourIpv4 (arpSpa s.frame)
          (networkSendArp (readMac 22) s.dhcpInfo.yourIpv4 (readIpv4 28) ARP_OPC_REPLY s) :=
        networkSendArp_effect ARP_OPC_REPLY s.dhcpInfo.yourIpv4
          (fun t ht => by rw [readMac_run, ht]; rfl) (fun t ht => by rw [readIpv4_run, ht]; rfl) rfl rfl
      refine ⟨hsends.mac, ?_, ?_, Or.inl ?_, fun frame hframe => ?_⟩
      · exact hsends.kept NetState.initialized fun _ => rfl
      · exact hsends.kept NetState.dhcpInfo fun _ => rfl
      · exact hsends.kept NetState.gateway? fun _ => rfl
      · exact ⟨not_not.1 hdhcp, hrequest, hsends.sent frame hframe⟩
  rw [if_neg hrequest]
  by_cases hreply : arpOperation s.frame = ARP_OPC_REPLY
  · rw [if_pos hreply, bind_of_ok (readIpv4_run s _)]
    refine HandlesArp.behind ?_ rfl
    dsimp only
    split_ifs with hgateway
    · have hspa : arpSpa s.frame = gatewayAddress := by
        obtain ⟨h0, h1, h2, h3⟩ := hgateway
        funext i
        fin_cases i
        · exact h0
        · exact h1
        · exact h2
        · exact h3
      rw [saveGateway, get_bind]
      cases hinfo : s.networkInfo with
      | none => exact HandlesArp.quiet rfl
      | some info =>
          dsimp only
          by_cases hinit : info.initialized ≠ TRUE
          · rw [if_pos hinit]
            exact HandlesArp.quiet rfl
          · rw [if_neg hinit, bind_of_ok (readIpv4_run s _)]
            refine HandlesArp.behind ?_ rfl
            rw [bind_of_ok (readMac_run s _)]
            refine HandlesArp.behind ?_ rfl
            exact ⟨rfl, rfl, rfl, Or.inr ⟨hreply, hspa, rfl⟩, fun f hf => absurd hf List.not_mem_nil⟩
    · exact HandlesArp.quiet rfl
  · rw [if_neg hreply]
    exact HandlesArp.quiet rfl

/-- **`network_on_receiving` on an ARP frame.** -/
lemma networkOnReceiving_effect (size : ℤ) (htype : netHalf s.frame 12 = ETHERTYPE_ARP) :
    HandlesArp s s.frame (networkOnReceiving size s) := by
  by_cases hreceiving : Receiving s size
  · rw [networkOnReceiving_run hreceiving, htype]
    refine HandlesArp.behind ?_ rfl
    have harp := networkHandleArp_effect (size - ETHERNET_HEADER_LENGHT) (withCallerMac s)
    have hother : ETHERTYPE_ARP ≠ ETHERTYPE_IPV4 := by decide
    rw [ethernetTypes, if_neg hother, if_pos rfl, emit_bind]
    refine HandlesArp.behind ?_ rfl
    obtain ⟨hstate, hevents⟩ := bind_pure_run
      (x := networkHandleArp ETHERNET_HEADER_LENGHT (size - ETHERNET_HEADER_LENGHT)) (0 : ℤ)
      (withCallerMac s)
    refine ⟨?_, ?_, ?_, ?_, ?_⟩
    · rw [hstate]; exact harp.mac
    · rw [hstate]; exact harp.initialized
    · rw [hstate]; exact harp.dhcpInfo
    · rw [hstate]; exact harp.gateway
    · rw [hevents]; exact harp.sent
  · rw [networkOnReceiving_drop hreceiving]
    exact HandlesArp.quiet rfl

end Handler

end Effects

/-! ## The network -/

variable {ι : Type*}

/-- The machines, and the frames that were ever sent. -/
structure Lan (ι : Type*) where
  host : ι → NetState
  wire : List (List UInt8)

/-- The stations: the hardware address and the protocol address of each. -/
structure Stations (ι : Type*) where
  mac : ι → Mac
  ip : ι → Ipv4

/-- An ARP frame with, if it is a reply, the two addresses of one station as its sender. -/
def Truthful (stations : Stations ι) (frame : List UInt8) : Prop :=
  ∀ behind, ∃ op sha spa, ArpFields (putBytes behind 0 frame) op sha spa ∧
    (op = ARP_OPC_REPLY → ∃ k, sha = stations.mac k ∧ spa = stations.ip k)

/-- What happens on the network. -/
inductive LanEvent (ι : Type*) where
  /-- A machine asks for an address. -/
  | request (i : ι) (source target : Ipv4)
  /-- A frame reaches a machine, with what lies behind it in its buffer. -/
  | receive (i : ι) (frame : List UInt8) (behind : ℕ → UInt8) (size : ℤ)
  /-- A station that runs something else sends a frame. -/
  | foreign (frame : List UInt8)

/-- A machine has computed something. -/
def Lan.after [DecidableEq ι] (lan : Lan ι) (i : ι) {α : Type}
    (o : Outcome Fault NetState NetEvent α) : Lan ι where
  host := Function.update lan.host i o.state
  wire := lan.wire ++ sentFrames o.events

@[simp] lemma Lan.after_host_self [DecidableEq ι] (lan : Lan ι) (i : ι) {α : Type}
    (o : Outcome Fault NetState NetEvent α) : (lan.after i o).host i = o.state :=
  Function.update_self ..

lemma Lan.after_host_of_ne [DecidableEq ι] (lan : Lan ι) {i j : ι} (hij : j ≠ i) {α : Type}
    (o : Outcome Fault NetState NetEvent α) : (lan.after i o).host j = lan.host j :=
  Function.update_of_ne hij ..

/-- **A step of the network.** -/
inductive LanStep [DecidableEq ι] (stations : Stations ι) : Lan ι → LanEvent ι → Lan ι → Prop
  | request (lan : Lan ι) (i : ι) (source target : Ipv4) :
      LanStep stations lan (.request i source target)
        (lan.after i (networkArpRequestTo source target (lan.host i)))
  | receive (lan : Lan ι) (i : ι) (frame : List UInt8) (behind : ℕ → UInt8) (size : ℤ)
      (hframe : frame ∈ lan.wire) :
      LanStep stations lan (.receive i frame behind size)
        (lan.after i (networkOnReceiving size { lan.host i with frame := putBytes behind 0 frame }))
  | foreign (lan : Lan ι) (frame : List UInt8) (htrue : Truthful stations frame) :
      LanStep stations lan (.foreign frame) { lan with wire := lan.wire ++ [frame] }

/-- What a machine knows of the gateway is what it was started with, or the address of a station that has
192.168.1.1. -/
def GatewayOk (stations : Stations ι) (start : Option (Ipv4 × Mac)) (known : Option (Ipv4 × Mac)) : Prop :=
  known = start ∨ ∃ k, stations.ip k = gatewayAddress ∧ known = some (gatewayAddress, stations.mac k)

/-- **The network is in order**: every frame on the wire is an ARP frame, and every reply is about its
sender; a machine has the addresses of its station, once it has them, and what it knows of the gateway is
right. -/
structure LanOk (stations : Stations ι) (start : ι → Option (Ipv4 × Mac)) (lan : Lan ι) : Prop where
  wire : ∀ frame ∈ lan.wire, Truthful stations frame
  mac : ∀ i mac, (lan.host i).mac? = some mac → mac = stations.mac i
  ip : ∀ i, (lan.host i).dhcpInfo.initialized = TRUE → (lan.host i).dhcpInfo.yourIpv4 = stations.ip i
  gateway : ∀ i, GatewayOk stations (start i) (lan.host i).gateway?

section Run

variable [DecidableEq ι] {stations : Stations ι} {start : ι → Option (Ipv4 × Mac)} {lan lan' : Lan ι}

/-- A machine that computes something keeps the network in order, when it keeps its own addresses, learns a
right gateway at most, and sends truthful frames. -/
lemma LanOk.after {α : Type} {i : ι} {o : Outcome Fault NetState NetEvent α}
    (h : LanOk stations start lan) (hmac : o.state.mac? = (lan.host i).mac?)
    (hdhcp : o.state.dhcpInfo = (lan.host i).dhcpInfo)
    (hgateway : GatewayOk stations (start i) o.state.gateway?)
    (hsent : ∀ frame ∈ sentFrames o.events, Truthful stations frame) :
    LanOk stations start (lan.after i o) where
  wire := by
    intro frame hframe
    rcases List.mem_append.1 hframe with hold | hnew
    · exact h.wire frame hold
    · exact hsent frame hnew
  mac := by
    intro j mac hj
    by_cases hij : j = i
    · subst hij
      rw [Lan.after_host_self, hmac] at hj
      exact h.mac j mac hj
    · rw [Lan.after_host_of_ne lan hij] at hj
      exact h.mac j mac hj
  ip := by
    intro j hj
    by_cases hij : j = i
    · subst hij
      rw [Lan.after_host_self, hdhcp] at hj ⊢
      exact h.ip j hj
    · rw [Lan.after_host_of_ne lan hij] at hj ⊢
      exact h.ip j hj
  gateway := by
    intro j
    by_cases hij : j = i
    · subst hij
      rw [Lan.after_host_self]
      exact hgateway
    · rw [Lan.after_host_of_ne lan hij]
      exact h.gateway j

/-- **Every step keeps the network in order.** -/
lemma LanOk.step {e : LanEvent ι} (h : LanOk stations start lan) (hstep : LanStep stations lan e lan') :
    LanOk stations start lan' := by
  cases hstep with
  | request i source target =>
      have heffect : SendsArp (lan.host i) arpBroadcastMac ARP_OPC_REQUEST source target
          (networkArpRequestTo source target (lan.host i)) := by
        rw [networkArpRequestTo, get_bind]
        by_cases hoff : (lan.host i).initialized ≠ TRUE
        · rw [if_pos hoff]
          exact ⟨rfl, rfl, fun f hf => absurd hf List.not_mem_nil⟩
        · rw [if_neg hoff]
          exact networkSendArp_effect ARP_OPC_REQUEST source (fun _ _ => rfl) (fun _ _ => rfl) rfl rfl
      refine h.after heffect.mac (heffect.kept NetState.dhcpInfo fun _ => rfl) ?_ fun frame hframe => ?_
      · have hsame : (networkArpRequestTo source target (lan.host i)).state.gateway?
            = (lan.host i).gateway? := heffect.kept NetState.gateway? fun _ => rfl
        rw [hsame]
        exact h.gateway i
      · obtain ⟨mac, -, rfl⟩ := heffect.sent frame hframe
        exact fun behind => ⟨_, _, _, arpFrame_fields mac _ _ _ _ behind,
          fun hreply => absurd hreply (by decide)⟩
  | receive i frame behind size hframe =>
      set s : NetState := { lan.host i with frame := putBytes behind 0 frame } with hs
      obtain ⟨op, sha, spa, hfields, htrue⟩ := h.wire frame hframe behind
      have heffect : HandlesArp s (putBytes behind 0 frame) (networkOnReceiving size s) :=
        networkOnReceiving_effect size hfields.type
      refine h.after heffect.mac heffect.dhcpInfo ?_ fun frame' hframe' => ?_
      · rcases heffect.gateway with hsame | ⟨hreply, hgateway, hlearned⟩
        · rw [hsame]
          exact h.gateway i
        · obtain ⟨k, hsha, hspa⟩ := htrue (hfields.op.symm.trans hreply)
          refine Or.inr ⟨k, ?_, ?_⟩
          · rw [← hspa, ← hfields.spa, hgateway]
          · rw [hlearned, hgateway, hfields.sha, hsha]
      · obtain ⟨hdhcp, -, mac, hmac, rfl⟩ := heffect.sent frame' hframe'
        exact fun behind' => ⟨_, _, _, arpFrame_fields mac _ _ _ _ behind',
          fun _ => ⟨i, h.mac i mac hmac, h.ip i hdhcp⟩⟩
  | foreign frame htrue =>
      refine ⟨fun f hf => ?_, h.mac, h.ip, h.gateway⟩
      rcases List.mem_append.1 hf with hold | hnew
      · exact h.wire f hold
      · rw [List.mem_singleton.1 hnew]
        exact htrue

/-- **Nobody is led to a wrong gateway.**  As long as every other station tells only of itself, then after
any run in which frames are lost, delayed, repeated, reordered and delivered to anybody, a machine knows
the gateway it was started with, or the hardware address of a station that has the address 192.168.1.1. -/
theorem arp_gateway_run (stations : Stations ι) (lan lan' : Lan ι) (es : List (LanEvent ι))
    (hwire : lan.wire = [])
    (hmac : ∀ i mac, (lan.host i).mac? = some mac → mac = stations.mac i)
    (hip : ∀ i, (lan.host i).dhcpInfo.initialized = TRUE →
      (lan.host i).dhcpInfo.yourIpv4 = stations.ip i)
    (hrun : Trace (LanStep stations) lan es lan') (i : ι) :
    (lan'.host i).gateway? = (lan.host i).gateway? ∨
      ∃ k, stations.ip k = gatewayAddress ∧
        (lan'.host i).gateway? = some (gatewayAddress, stations.mac k) := by
  have hstart : LanOk stations (fun i => (lan.host i).gateway?) lan :=
    ⟨fun frame hframe => by rw [hwire] at hframe; exact absurd hframe List.not_mem_nil, hmac, hip,
      fun i => Or.inl rfl⟩
  exact (hrun.keep (fun _ _ _ hJ hstep => hJ.step hstep) hstart).gateway i

end Run

/-- A machine and the gateway. -/
def machineAndGateway : Stations Bool where
  mac k := if k then fun _ => 2 else fun _ => 1
  ip k := if k then gatewayAddress else ![192, 168, 1, 12]

/-- Before a frame is sent: the machine has no device and knows no gateway. -/
def quietLan : Lan Bool where
  host _ := { NetState.host (fun _ => 0) with
    networkInfo := some { initialized := TRUE, gatewayIpv4 := fun _ => 0, gatewayMac := fun _ => 0 } }
  wire := []

/-- The gateway tells the machine where it is. -/
def gatewayReply : List UInt8 :=
  arpFrame (machineAndGateway.mac true) (machineAndGateway.mac false) ARP_OPC_REPLY gatewayAddress
    (machineAndGateway.ip false)

/-- The machine has received the reply twice. -/
theorem arp_gateway_run_reply :
    ∃ lan, Trace (LanStep machineAndGateway) quietLan [.foreign gatewayReply,
        .receive false gatewayReply (fun _ => 0) 42, .receive false gatewayReply (fun _ => 0) 42] lan ∧
      ((lan.host false).gateway? = (quietLan.host false).gateway? ∨
        ∃ k, machineAndGateway.ip k = gatewayAddress ∧
          (lan.host false).gateway? = some (gatewayAddress, machineAndGateway.mac k)) := by
  have htrue : Truthful machineAndGateway gatewayReply :=
    fun behind => ⟨_, _, _, arpFrame_fields _ _ _ _ _ behind, fun _ => ⟨true, rfl, rfl⟩⟩
  have hrun := Trace.cons (LanStep.foreign quietLan gatewayReply htrue) <|
    Trace.cons (LanStep.receive _ false gatewayReply (fun _ => 0) 42 (List.mem_singleton.2 rfl)) <|
    Trace.cons (LanStep.receive _ false gatewayReply (fun _ => 0) 42
      (List.mem_append_left _ (List.mem_singleton.2 rfl))) <| Trace.nil _
  exact ⟨_, hrun, arp_gateway_run machineAndGateway quietLan _ _ rfl (fun i mac hmac => by cases hmac)
    (fun _ hdhcp => absurd hdhcp (show FALSE ≠ TRUE by decide)) hrun false⟩

end Gramado
