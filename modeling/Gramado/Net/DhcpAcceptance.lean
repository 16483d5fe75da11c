import Gramado.Lib.Run
import Gramado.Net.DhcpClient

/-!
# DHCP acceptance

Which datagrams the DHCP client takes for the answers to its own messages, over runs of received
datagrams of any content and of starts of the dialog.  The handler looks at one byte, the third of
the options: `dhcp_run` is the exact condition on the datagrams of a run for the client to accept
nothing but the answers that it waits for.
-/

namespace Gramado

open EventLog EventM StepRun

/-! ## Runs -/

/-- The host, and its own message that waits for an answer. -/
structure Client where
  net : NetState
  outstanding : Option (List UInt8)

/-- What can happen to the client: the kernel starts the dialog, on a stack that holds garbage, or a
datagram is received.  The bytes behind the datagram are those that the memory held. -/
inductive ClientEvent where
  | start (garbage : ℕ → UInt8)
  | receive (datagram : ℕ → UInt8) (size : ℤ)

/-- The code that handles an event. -/
def handleEvent : ClientEvent → NetM Unit
  | .start garbage => do
      modify fun s => { s with ldhcp := garbage }
      let _ ← networkInitializeDhcp
      pure ()
  | .receive datagram size => do
      modify fun s => { s with frame := datagram }
      networkHandleUdp 0 size

/-- The message that waits for an answer, after these events. -/
def follow : List NetEvent → Option (List UInt8) → Option (List UInt8)
  | [], own => own
  | .dhcpSent message :: rest, _ => follow rest (some message)
  | .adopted _ _ :: rest, _ => follow rest none
  | _ :: rest, own => follow rest own

/-- One event. -/
def clientStep (c : Client) (e : ClientEvent) : Except Fault Client :=
  let r := handleEvent e c.net
  match r.result with
  | .ok _ => .ok ⟨r.state, follow r.events c.outstanding⟩
  | .error f => .error f

/-! ## What is to be accepted -/

/-- A message from a server, of the type `t`. -/
structure IsReply (message : List UInt8) (t : UInt8) : Prop where
  op : fieldAt message 0 1 = [2]
  cookie : fieldAt message 236 4 = MAGIC_COOKIE
  type : dhcpOption message OPT_DHCP_MESSAGE_TYPE = some [t]

/-- A message from a server, of the type `t`, to the client that sent `own`. -/
structure Answers (own message : List UInt8) (t : UInt8) : Prop where
  reply : IsReply message t
  xid : fieldAt message 4 4 = fieldAt own 4 4
  chaddr : fieldAt message 28 6 = fieldAt own 28 6

/-- The DHCP message in a datagram. -/
def dhcpPayload (datagram : ℕ → UInt8) (size : ℤ) : List UInt8 :=
  (List.range (size - 8).toNat).map fun k => datagram (8 + k)

/-- The event is an answer of the type `t` to the message that waits for one. -/
def IsAnswer (c : Client) (e : ClientEvent) (t : UInt8) (own message : List UInt8) : Prop :=
  ∃ datagram size, e = .receive datagram size ∧ message = dhcpPayload datagram size ∧
    c.outstanding = some own ∧ Answers own message t

/-- **DHCP acceptance.**  The client is initialised, and an address adopted, only on the ACK to its own
REQUEST, and a REQUEST is sent only on an OFFER to its own message, for the address offered. -/
structure Accepts (c : Client) (e : ClientEvent) (c' : Client) : Prop where
  initialised : c'.net.dhcpInfo.initialized = TRUE → c'.net.dhcpInfo = c.net.dhcpInfo ∨
    ∃ your server, NetEvent.adopted your server ∈ (handleEvent e c.net).events
  adopted : ∀ your server, NetEvent.adopted your server ∈ (handleEvent e c.net).events →
    ∃ own message, IsAnswer c e DORA_A own message ∧
      dhcpOption own OPT_DHCP_MESSAGE_TYPE = some [3] ∧ List.ofFn your = fieldAt message 16 4
  requested : ∀ request, NetEvent.dhcpSent request ∈ (handleEvent e c.net).events →
    dhcpOption request OPT_DHCP_MESSAGE_TYPE = some [3] →
      ∃ own message, IsAnswer c e DORA_O own message ∧
        dhcpOption request OPT_REQUESTED_IP_ADDR = some (fieldAt message 16 4)

/-! ## What a step does -/

variable {s : NetState}

/-- The host after the reset of `network_initialize_dhcp`. -/
def resetHost (s : NetState) (garbage : ℕ → UInt8) : NetState :=
  { s with ldhcp := garbage, dhcpInfo := { s.dhcpInfo with initialized := FALSE } }

/-- The start of the dialog: nothing but the reset, or a DISCOVER. -/
lemma start_cases (s : NetState) (garbage : ℕ → UInt8) :
    QuietRun (resetHost s garbage) (handleEvent (.start garbage) s) ∨
      ∃ nic, s.currentNIC = some nic ∧ SendsRun (resetHost s garbage)
        (ownMessage garbage nic.macAddress DORA_D (fun _ => 0) (fun _ => 0xFF) s.nodename)
        (handleEvent (.start garbage) s) := by
  have hpure (a : ℤ) : QuietRun (resetHost s garbage)
      (((pure a : NetM ℤ) >>= fun _ => pure ()) (resetHost s garbage)) :=
    .bind (.pure a) fun _ t _ => QuietRun.pure (s := t) ()
  cases hnic : s.currentNIC with
  | none =>
      have hrun : handleEvent (.start garbage) s =
          ((if s.initialized ≠ TRUE then pure (-1) else pure (-1) : NetM ℤ) >>= fun _ => pure ())
            (resetHost s garbage) := by
        cases s
        cases hnic
        rfl
      rw [hrun, ite_self]
      exact .inl (hpure _)
  | some nic =>
      have hrun : handleEvent (.start garbage) s =
          ((if s.initialized ≠ TRUE then pure (-1)
            else if nic.magic ≠ 1234 then pure (-1)
            else if nic.initialized ≠ TRUE then pure (-1)
            else do
              networkDhcpSend .ldhcp DORA_D (fun _ => 0) (fun _ => 0xFF) 68 67
              pure 0 : NetM ℤ) >>= fun _ => pure ()) (resetHost s garbage) := by
        cases s
        cases hnic
        rfl
      rw [hrun]
      split_ifs
      · exact .inl (hpure _)
      · exact .inl (hpure _)
      · exact .inl (hpure _)
      · refine .inr ⟨nic, rfl, .bind_pure (.bind_pure ?_)⟩
        exact sends_networkDhcpSend (d := .ldhcp) hnic (.inl rfl)

/-- A datagram that is handled to the end goes to the code for its port. -/
lemma receive_cases {datagram : ℕ → UInt8} {size : ℤ}
    (h : (handleEvent (.receive datagram size) s).result = .ok ()) :
    ∃ t events, Same s t ∧ t.frame = datagram ∧ t.currentNIC = s.currentNIC ∧
      t.nodename = s.nodename ∧ (∀ x ∈ events, Quiet x) ∧
      handleEvent (.receive datagram size) s =
        (udpPorts 0 (netHalf datagram 0) (netHalf datagram 2) t).behind events := by
  set u : NetState := { s with frame := datagram } with hu
  have hrun : handleEvent (.receive datagram size) s = networkHandleUdp 0 size u := by
    rw [handleEvent, modify_bind]
  rw [hrun] at h ⊢
  by_cases hzero : ∃ k, 0 + 8 + k < u.bufferEnd ∧ u.frame (0 + 8 + k) = 0
  · obtain ⟨i, hi, h0⟩ := hzero
    obtain ⟨k, hk, hfirst⟩ := exists_firstZero h0
    refine ⟨{ u with udpPayload := copied u.frame (0 + 8) k }, _, ⟨rfl, rfl⟩, rfl, rfl, rfl, ?_,
      networkHandleUdp_run hfirst (by omega)⟩
    simp only [List.forall_mem_append]
    refine ⟨⟨fun x hx => ?_, quiet_copyEvents _ _⟩, fun x hx => ?_⟩
    · simp only [List.mem_cons, List.not_mem_nil, or_false] at hx
      rcases hx with rfl | rfl <;> trivial
    · rw [List.mem_singleton.1 hx]
      trivial
  · rw [networkHandleUdp_fault fun k hk h0 => hzero ⟨k, hk, h0⟩] at h
    cases h

lemma follow_quiet : ∀ {events : List NetEvent} (_ : ∀ x ∈ events, Quiet x)
    (own : Option (List UInt8)) (rest : List NetEvent), follow (events ++ rest) own = follow rest own
  | [], _, _, _ => rfl
  | x :: events, h, own, rest => by
      have hx : Quiet x := h x (List.mem_cons_self ..)
      have hrest := follow_quiet (fun y hy => h y (List.mem_cons_of_mem _ hy)) own rest
      cases x <;> first | exact hrest | exact absurd hx id

/-- Messages are followed to the last one that was sent. -/
lemma SendsRun.follow {α : Type} {r : Outcome Fault NetState NetEvent α} {message : List UInt8} {a : α}
    (h : SendsRun s message r) (hr : r.result = .ok a) (own : Option (List UInt8)) :
    follow r.events own = some message := by
  obtain ⟨events, hevents, heq⟩ := h.sent a hr
  rw [heq, follow_quiet hevents]
  rfl

lemma QuietRun.follow {α : Type} {r : Outcome Fault NetState NetEvent α} (h : QuietRun s r)
    (own : Option (List UInt8)) : follow r.events own = own := by
  rw [← List.append_nil r.events, follow_quiet h.events]
  rfl

/-- The hardware address of the host. -/
def hostMac (s : NetState) : Option Mac := s.currentNIC.map Nic.macAddress

/-- What became of a step, for the dialog. -/
inductive StepOf (c : Client) (e : ClientEvent) (c' : Client) : Prop where
  /-- The dialog is not touched, or its data are reset. -/
  | quiet (events : ∀ x ∈ (handleEvent e c.net).events, Quiet x)
      (info : c'.net.dhcpInfo.initialized = TRUE → c'.net.dhcpInfo = c.net.dhcpInfo)
      (outstanding : c'.outstanding = c.outstanding)
      (other : ∀ datagram size, e = .receive datagram size →
        netHalf datagram 2 = 68 ∨ netHalf datagram 2 = 67 →
          datagram 250 ≠ DORA_A ∧ (datagram 250 = DORA_O → c.net.currentNIC = none))
  /-- The dialog starts. -/
  | discover (garbage : ℕ → UInt8) (event : e = .start garbage) (message : List UInt8)
      (xid : fieldAt message 4 4 = XID) (nic : Nic) (hnic : c.net.currentNIC = some nic)
      (chaddr : fieldAt message 28 6 = List.ofFn nic.macAddress)
      (type : dhcpOption message OPT_DHCP_MESSAGE_TYPE = some [1])
      (events : ∀ x ∈ (handleEvent e c.net).events, Quiet x ∨ x = .dhcpSent message)
      (info : c'.net.dhcpInfo.initialized = TRUE → c'.net.dhcpInfo = c.net.dhcpInfo)
      (outstanding : c'.outstanding = some message)
  /-- An offer is taken, and its address requested. -/
  | request (datagram : ℕ → UInt8) (size : ℤ) (event : e = .receive datagram size)
      (port : netHalf datagram 2 = 68 ∨ netHalf datagram 2 = 67)
      (offer : datagram 250 = DORA_O) (message : List UInt8)
      (xid : fieldAt message 4 4 = XID) (nic : Nic) (hnic : c.net.currentNIC = some nic)
      (chaddr : fieldAt message 28 6 = List.ofFn nic.macAddress)
      (type : dhcpOption message OPT_DHCP_MESSAGE_TYPE = some [3])
      (requested : dhcpOption message OPT_REQUESTED_IP_ADDR =
        some (List.ofFn (ipv4At datagram 24)))
      (events : ∀ x ∈ (handleEvent e c.net).events, Quiet x ∨ x = .dhcpSent message)
      (sent : .dhcpSent message ∈ (handleEvent e c.net).events)
      (info : c'.net.dhcpInfo = c.net.dhcpInfo) (outstanding : c'.outstanding = some message)
  /-- An acknowledgement is taken, and its address adopted. -/
  | adopt (datagram : ℕ → UInt8) (size : ℤ) (event : e = .receive datagram size)
      (port : netHalf datagram 2 = 68 ∨ netHalf datagram 2 = 67)
      (ack : datagram 250 = DORA_A) (server : Ipv4)
      (events : ∀ x ∈ (handleEvent e c.net).events,
        Quiet x ∨ x = .adopted (ipv4At datagram 24) server)
      (adopted : .adopted (ipv4At datagram 24) server ∈ (handleEvent e c.net).events)
      (outstanding : c'.outstanding = none)

lemma clientStep_inv {c c' : Client} {e : ClientEvent} (h : clientStep c e = .ok c') :
    (handleEvent e c.net).result = .ok () ∧
      c' = ⟨(handleEvent e c.net).state, follow (handleEvent e c.net).events c.outstanding⟩ := by
  simp only [clientStep] at h
  cases hr : (handleEvent e c.net).result with
  | ok a =>
      rw [hr] at h
      exact ⟨rfl, (Except.ok.inj h).symm⟩
  | error f =>
      rw [hr] at h
      cases h

/-- **What a step does to the dialog.** -/
lemma stepOf {c c' : Client} {e : ClientEvent} (h : clientStep c e = .ok c') :
    hostMac c'.net = hostMac c.net ∧ StepOf c e c' := by
  obtain ⟨hok, rfl⟩ := clientStep_inv h
  cases e with
  | start garbage =>
      rcases start_cases c.net garbage with hquiet | ⟨nic, hnic, hsends⟩
      · refine ⟨hquiet.same.mac, .quiet hquiet.events (fun hinit => ?_) (hquiet.follow _) nofun⟩
        rw [show (handleEvent (.start garbage) c.net).state.dhcpInfo = _
          from hquiet.same.dhcpInfo] at hinit
        exact absurd hinit (show ¬(FALSE : ℤ) = TRUE by decide)
      · refine ⟨hsends.same.mac, .discover garbage rfl _ ownMessage_xid nic hnic ownMessage_chaddr
          ownMessage_discover hsends.events (fun hinit => ?_) (hsends.follow hok _)⟩
        rw [show (handleEvent (.start garbage) c.net).state.dhcpInfo = _
          from hsends.same.dhcpInfo] at hinit
        exact absurd hinit (show ¬(FALSE : ℤ) = TRUE by decide)
  | receive datagram size =>
      obtain ⟨t, events, hsame, hframe, hnic, hnode, hevents, hrun⟩ := receive_cases hok
      by_cases hport : netHalf datagram 2 = 68 ∨ netHalf datagram 2 = 67
      · obtain ⟨len, events', hevents', hports⟩ := @udpPorts_dhcp t 0 (netHalf datagram 0) _ hport
        rw [Nat.zero_add] at hports
        have hopt : t.frame (8 + 242) = datagram 250 := by rw [hframe]
        have hquiet' : ∀ x ∈ events ++ events' ++ dhcpReads 8, Quiet x := by
          simp only [List.forall_mem_append]
          exact ⟨⟨hevents, hevents'⟩, quiet_dhcpReads 8⟩
        rw [hports, networkHandleDhcp_eq, Outcome.behind_behind, Outcome.behind_behind,
          hopt] at hrun
        by_cases hoffer : datagram 250 = DORA_O
        · rw [if_pos hoffer] at hrun
          cases hc : c.net.currentNIC with
          | none =>
              have hquiet : QuietRun c.net (handleEvent (.receive datagram size) c.net) := by
                rw [hrun]
                exact .behind hsame hquiet' (quiet_networkDhcpSend (hnic.trans hc))
              refine ⟨hquiet.same.mac, .quiet hquiet.events (fun _ => hquiet.same.dhcpInfo)
                (hquiet.follow _) fun datagram' size' he _ => ?_⟩
              cases he
              exact ⟨by rw [hoffer]; decide, fun _ => hc⟩
          | some nic =>
              have hsends : SendsRun t _ (networkDhcpSend (.received 8) DORA_R
                  (ipv4At t.frame (8 + 16)) (ipv4At t.frame (8 + 20)) 68 67 t) :=
                sends_networkDhcpSend (hnic.trans hc) (.inr rfl)
              have hsends' := hsends.behind hsame hquiet'
              rw [← hrun] at hsends'
              obtain ⟨last, -, hlast⟩ := hsends'.sent () hok
              refine ⟨hsends'.same.mac, .request datagram size rfl hport hoffer _ ownMessage_xid nic
                hc ownMessage_chaddr ownMessage_request ?_ hsends'.events ?_
                hsends'.same.dhcpInfo (hsends'.follow hok _)⟩
              · rw [ownMessage_requested, hframe]
              · rw [hlast]
                exact List.mem_append_right _ (List.mem_singleton_self _)
        · rw [if_neg hoffer] at hrun
          by_cases hack : datagram 250 = DORA_A
          · rw [if_pos hack, modify_bind, hframe] at hrun
            refine ⟨?_, .adopt datagram size rfl hport hack (ipv4At datagram 28) ?_ ?_ ?_⟩
            · rw [hrun]
              exact hsame.mac
            · rw [hrun]
              exact fun x hx => (List.mem_append.1 hx).imp (hquiet' x) List.mem_singleton.1
            · rw [hrun]
              exact List.mem_append_right _ (List.mem_singleton_self _)
            · show follow _ _ = none
              rw [hrun, Outcome.behind_events, follow_quiet hquiet']
              rfl
          · rw [if_neg hack] at hrun
            have hquiet : QuietRun c.net (handleEvent (.receive datagram size) c.net) := by
              rw [hrun]
              exact .behind hsame hquiet' (.pure _)
            refine ⟨hquiet.same.mac, .quiet hquiet.events (fun _ => hquiet.same.dhcpInfo)
              (hquiet.follow _) fun datagram' size' he _ => ?_⟩
            cases he
            exact ⟨hack, fun h => absurd h hoffer⟩
      · have hquiet : QuietRun c.net (handleEvent (.receive datagram size) c.net) := by
          rw [hrun]
          exact .behind hsame hevents (quiet_udpPorts hport)
        refine ⟨hquiet.same.mac, .quiet hquiet.events (fun _ => hquiet.same.dhcpInfo)
          (hquiet.follow _) ?_⟩
        intro datagram' size' he hport'
        cases he
        exact absurd hport' hport

/-! ## The condition -/

/-- The datagram is an answer of the type `t` to the messages that this host sends. -/
structure Genuine (c : Client) (datagram : ℕ → UInt8) (size : ℤ) (t : UInt8) : Prop where
  reply : IsReply (dhcpPayload datagram size) t
  xid : fieldAt (dhcpPayload datagram size) 4 4 = XID
  chaddr : ∃ mac, hostMac c.net = some mac ∧
    fieldAt (dhcpPayload datagram size) 28 6 = List.ofFn mac

/-- What is to be known of a datagram for the DHCP ports, before it is handled: one with the type ACK
in its third option byte is a genuine ACK and a REQUEST waits for it, and one with the type OFFER
there is a genuine OFFER and a message waits for it. -/
def OnlyGenuine (c : Client) : ClientEvent → Prop
  | .start _ => True
  | .receive datagram size => netHalf datagram 2 = 68 ∨ netHalf datagram 2 = 67 →
      (datagram 250 = DORA_A → Genuine c datagram size DORA_A ∧
        ∃ own, c.outstanding = some own ∧ dhcpOption own OPT_DHCP_MESSAGE_TYPE = some [3]) ∧
      (datagram 250 = DORA_O → c.net.currentNIC ≠ none →
        Genuine c datagram size DORA_O ∧ c.outstanding ≠ none)

/-- The message that waits for an answer is one of this host. -/
def OwnOutstanding (c : Client) : Prop :=
  ∀ own, c.outstanding = some own → fieldAt own 4 4 = XID ∧
    ∃ mac, hostMac c.net = some mac ∧ fieldAt own 28 6 = List.ofFn mac

variable {c c' : Client} {e : ClientEvent}

lemma OwnOutstanding.step (h : OwnOutstanding c) (hs : clientStep c e = .ok c') :
    OwnOutstanding c' := by
  obtain ⟨hmac, hstep⟩ := stepOf hs
  intro own hown
  rw [hmac]
  have hsent {message : List UInt8} {nic : Nic} (hout : c'.outstanding = some message)
      (hxid : fieldAt message 4 4 = XID) (hnic : c.net.currentNIC = some nic)
      (hchaddr : fieldAt message 28 6 = List.ofFn nic.macAddress) :
      fieldAt own 4 4 = XID ∧
        ∃ mac, hostMac c.net = some mac ∧ fieldAt own 28 6 = List.ofFn mac := by
    obtain rfl := Option.some.inj (hout.symm.trans hown)
    exact ⟨hxid, nic.macAddress, by rw [hostMac, hnic]; rfl, hchaddr⟩
  cases hstep with
  | quiet _ _ hout _ => exact h own (hout.symm.trans hown)
  | discover _ _ _ hxid _ hnic hchaddr _ _ _ hout => exact hsent hout hxid hnic hchaddr
  | request _ _ _ _ _ _ hxid _ hnic hchaddr _ _ _ _ _ hout => exact hsent hout hxid hnic hchaddr
  | adopt _ _ _ _ _ _ _ _ hout => cases hout.symm.trans hown

lemma OwnOutstanding.answers {own : List UInt8} {datagram : ℕ → UInt8} {size : ℤ} {t : UInt8}
    (h : OwnOutstanding c) (hown : c.outstanding = some own) :
    Answers own (dhcpPayload datagram size) t ↔ Genuine c datagram size t := by
  obtain ⟨hxid, mac, hmac, hchaddr⟩ := h own hown
  constructor
  · intro ha
    exact ⟨ha.reply, ha.xid.trans hxid, mac, hmac, ha.chaddr.trans hchaddr⟩
  · rintro ⟨hreply, hxid', mac', hmac', hchaddr'⟩
    obtain rfl := Option.some.inj (hmac.symm.trans hmac')
    exact ⟨hreply, hxid'.trans hxid.symm, hchaddr'.trans hchaddr.symm⟩

/-- A message with a cookie is long enough for its addresses. -/
lemma yiaddr_of_cookie {datagram : ℕ → UInt8} {size : ℤ}
    (h : fieldAt (dhcpPayload datagram size) 236 4 = MAGIC_COOKIE) :
    fieldAt (dhcpPayload datagram size) 16 4 = List.ofFn (ipv4At datagram 24) := by
  have hlen := congrArg List.length h
  simp only [fieldAt, dhcpPayload, List.length_take, List.length_drop, List.length_map,
    List.length_range, List.length_cons, List.length_nil] at hlen
  refine List.ext_getElem ?_ fun i hi hi' => ?_
  · simp only [fieldAt, dhcpPayload, List.length_take, List.length_drop, List.length_map,
      List.length_range, List.length_ofFn]
    omega
  · simp only [fieldAt, dhcpPayload, ipv4At, List.getElem_take, List.getElem_drop,
      List.getElem_map, List.getElem_range, List.getElem_ofFn]
    exact congrArg datagram (by omega)

/-- **A step is accepted exactly where the datagram is genuine.** -/
lemma accepts_iff (h : OwnOutstanding c) (hs : clientStep c e = .ok c') :
    Accepts c e c' ↔ OnlyGenuine c e := by
  have hquiet {your server : Ipv4} : ¬Quiet (.adopted your server) := id
  have hquiet' {message : List UInt8} : ¬Quiet (.dhcpSent message) := id
  cases (stepOf hs).2 with
  | quiet hevents hinfo _ hother =>
      refine iff_of_true ⟨fun hi => .inl (hinfo hi), fun y v hx => absurd (hevents _ hx) hquiet,
        fun m hx => absurd (hevents _ hx) hquiet'⟩ ?_
      cases e with
      | start garbage => trivial
      | receive datagram size =>
          intro hport
          obtain ⟨hack, hoffer⟩ := hother datagram size rfl hport
          exact ⟨fun h => absurd h hack, fun h hnic => absurd (hoffer h) hnic⟩
  | discover garbage he message _ _ _ _ htype hevents hinfo _ =>
      subst he
      refine iff_of_true ⟨fun hi => .inl (hinfo hi), fun y v hx => ?_, fun m hx hm => ?_⟩ trivial
      · exact absurd (hevents _ hx) (by rintro (h | h); exact h; cases h)
      · rcases hevents _ hx with h | h
        · exact absurd h hquiet'
        · cases h
          rw [htype] at hm
          exact absurd hm (by decide)
  | request datagram size he hport hoffer message _ nic hnic _ htype hrequested hevents hsent hinfo
      _ =>
      subst he
      constructor
      · intro ha _
        refine ⟨fun hack => absurd (hoffer.symm.trans hack) (by decide), fun _ _ => ?_⟩
        obtain ⟨own, m, ⟨d, n, he, rfl, hown, hans⟩, -⟩ := ha.requested message hsent htype
        cases he
        exact ⟨(h.answers hown).1 hans, by rw [hown]; exact Option.some_ne_none _⟩
      · intro hC
        obtain ⟨hgenuine, hout⟩ := (hC hport).2 hoffer (by rw [hnic]; exact Option.some_ne_none _)
        obtain ⟨own, hown⟩ := Option.ne_none_iff_exists'.1 hout
        refine ⟨fun _ => .inl hinfo, fun y v hx => ?_, fun m hx _ => ?_⟩
        · exact absurd (hevents _ hx) (by rintro (h | h); exact h; cases h)
        · rcases hevents _ hx with hq | hm
          · exact absurd hq hquiet'
          · cases hm
            refine ⟨own, _, ⟨datagram, size, rfl, rfl, hown, (h.answers hown).2 hgenuine⟩, ?_⟩
            rw [hrequested, yiaddr_of_cookie hgenuine.reply.cookie]
  | adopt datagram size he hport hack server hevents hadopted _ =>
      subst he
      constructor
      · intro ha _
        refine ⟨fun _ => ?_, fun hoffer => absurd (hack.symm.trans hoffer) (by decide)⟩
        obtain ⟨own, m, ⟨d, n, he, rfl, hown, hans⟩, htype, -⟩ := ha.adopted _ _ hadopted
        cases he
        exact ⟨(h.answers hown).1 hans, own, hown, htype⟩
      · intro hC
        obtain ⟨hgenuine, own, hown, htype⟩ := (hC hport).1 hack
        refine ⟨fun _ => .inr ⟨_, _, hadopted⟩, fun y v hx => ?_, fun m hx => ?_⟩
        · rcases hevents _ hx with hq | hm
          · exact absurd hq hquiet
          · cases hm
            exact ⟨own, _, ⟨datagram, size, rfl, rfl, hown, (h.answers hown).2 hgenuine⟩, htype,
              (yiaddr_of_cookie hgenuine.reply.cookie).symm⟩
        · exact absurd (hevents _ hx) (by rintro (h | h); exact h; cases h)

/-- **When the client accepts DHCP answers as it should.**  For every host and every run of starts and
received datagrams, each step accepts only the ACK and the OFFER that the client waits for if and
only if the datagrams that look like these by their third option byte are these. -/
theorem dhcp_run (host : NetState) (es : List ClientEvent) :
    AlongSteps clientStep Accepts ⟨host, none⟩ es ↔ Meets clientStep OnlyGenuine ⟨host, none⟩ es :=
  alongSteps_iff_meets OwnOutstanding (fun c e c' h hs => @accepts_iff c c' e h hs)
    (fun c e c' h _ hs => @OwnOutstanding.step c c' e h hs) es ⟨host, none⟩ nofun

/-- A datagram of zeros to the port 68, with the type ACK where the handler looks for it. -/
def strayAck : ℕ → UInt8 := fun k => if k = 3 then 68 else if k = 250 then 5 else 0

/-- **A stray datagram is adopted**: without a cookie, and with no request sent. -/
theorem dhcp_run_fails :
    ¬∀ (host : NetState) (es : List ClientEvent),
      AlongSteps clientStep Accepts ⟨host, none⟩ es := by
  intro h
  have hfirst : FirstZero strayAck (0 + 8) 0 := ⟨rfl, nofun⟩
  have hok : (handleEvent (.receive strayAck 260) (.host fun _ => 0)).result = .ok () := by
    rw [handleEvent, modify_bind, networkHandleUdp_run hfirst (by decide)]
    rfl
  obtain ⟨c', hc'⟩ : ∃ c', clientStep ⟨.host fun _ => 0, none⟩ (.receive strayAck 260) = .ok c' := by
    simp only [clientStep, hok]
    exact ⟨_, rfl⟩
  have hnone : OwnOutstanding ⟨.host fun _ => 0, none⟩ := fun _ hown => nomatch hown
  have haccepts := (h (.host fun _ => 0) [.receive strayAck 260] c' hc').1
  obtain ⟨-, own, hown, -⟩ := ((accepts_iff hnone hc').1 haccepts (.inl rfl)).1 rfl
  cases hown

end Gramado
