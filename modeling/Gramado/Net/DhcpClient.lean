import Gramado.Net.Receive

/-!
# The messages of the DHCP client

What `network_dhcp_send` makes of a `struct dhcp_d`, wherever that lies, and what the handlers do for
the dialog with the server.  `QuietRun` is a run that is no step of the dialog, `SendsRun` one that
sends a message as its last step.  `networkHandleDhcp_eq` says by which byte the handler takes a
message, and `ownMessage_requested` what the client's own messages ask for.
-/

namespace Gramado

open EventLog EventM

/-! ## Fields and options -/

/-- The value of an option, wherever it stands in the list of options; `skip` bytes of the list
belong to the option before. -/
def optionValue (code : UInt8) : ℕ → List UInt8 → Option (List UInt8)
  | _, [] => none
  | skip + 1, _ :: rest => optionValue code skip rest
  | 0, c :: rest =>
      if c = OPT_PAD then optionValue code 0 rest
      else if c = OPT_END then none
      else
        match rest with
        | [] => none
        | len :: value =>
            if c = code then
              if len.toNat ≤ value.length then some (value.take len.toNat) else none
            else optionValue code (len.toNat + 1) rest

/-- The field of `n` bytes at `p`. -/
def fieldAt (message : List UInt8) (p n : ℕ) : List UInt8 := (message.drop p).take n

/-- An option of a message. -/
def dhcpOption (message : List UInt8) (code : UInt8) : Option (List UInt8) :=
  optionValue code 0 (message.drop 240)

/-! ## Steps of the dialog -/

/-- What a host is known by: its hardware address, and the data of its DHCP client. -/
structure Same (s s' : NetState) : Prop where
  mac : s'.currentNIC.map Nic.macAddress = s.currentNIC.map Nic.macAddress
  dhcpInfo : s'.dhcpInfo = s.dhcpInfo

lemma Same.refl (s : NetState) : Same s s := ⟨rfl, rfl⟩

lemma Same.trans {s t u : NetState} (h : Same s t) (h' : Same t u) : Same s u :=
  ⟨h'.mac.trans h.mac, h'.dhcpInfo.trans h.dhcpInfo⟩

/-- An event that is no step of the dialog. -/
def Quiet : NetEvent → Prop
  | .dhcpSent _ => False
  | .adopted _ _ => False
  | _ => True

/-- A run without a step of the dialog. -/
structure QuietRun {α : Type} (s : NetState) (r : Outcome Fault NetState NetEvent α) : Prop where
  same : Same s r.state
  events : ∀ x ∈ r.events, Quiet x

variable {α β : Type} {s t : NetState}

lemma QuietRun.pure (a : α) : QuietRun s ((pure a : NetM α) s) := ⟨.refl s, nofun⟩

lemma QuietRun.fault (e : Fault) : QuietRun s ((fault e : NetM α) s) := ⟨.refl s, nofun⟩

lemma QuietRun.behind {r : Outcome Fault NetState NetEvent α} {events : List NetEvent}
    (hs : Same s t) (hevents : ∀ x ∈ events, Quiet x) (h : QuietRun t r) :
    QuietRun s (r.behind events) :=
  ⟨hs.trans h.same, fun x hx => (List.mem_append.1 hx).elim (hevents x) (h.events x)⟩

lemma QuietRun.bind {x : NetM α} {f : α → NetM β} (h : QuietRun s (x s))
    (hf : ∀ a t, Same s t → QuietRun t (f a t)) : QuietRun s ((x >>= f) s) := by
  cases hx : (x s).result with
  | ok a =>
      rw [bind_of_ok (Outcome.ext hx rfl rfl)]
      exact .behind h.same h.events (hf a _ h.same)
  | error e =>
      rw [bind_of_error (Outcome.ext hx rfl rfl)]
      exact ⟨h.same, h.events⟩

lemma quiet_ethernetSend {nic : Nic} (hnic : s.currentNIC = some nic) (frame : List UInt8) :
    QuietRun s (ethernetSend nic frame s) := by
  unfold ethernetSend
  by_cases hmagic : nic.magic ≠ 1234
  · rw [if_pos hmagic]
    exact .pure _
  · rw [if_neg hmagic]
    split_ifs
    · exact .fault _
    · exact .fault _
    · exact .fault _
    · rw [emit_bind, modify_bind]
      exact ⟨⟨by rw [hnic]; rfl, rfl⟩, fun x hx => by rw [List.mem_singleton.1 hx]; trivial⟩

lemma quiet_networkSendUdp (source target : Ipv4) (macDst : Mac) (sport dport : UInt16)
    (data : List UInt8) : QuietRun s (networkSendUdp source target macDst sport dport data s) := by
  unfold networkSendUdp
  rw [get_bind]
  cases hnic : s.currentNIC with
  | none => exact .pure _
  | some nic =>
      dsimp only
      rw [modify_bind]
      have hsame : Same s { s with currentNIC := some { nic with ipAddress := source } } :=
        ⟨by rw [hnic]; rfl, rfl⟩
      split_ifs
      · exact ⟨hsame, fun _ he => absurd he List.not_mem_nil⟩
      · exact @QuietRun.behind _ _ _ _ [] hsame (fun _ he => absurd he List.not_mem_nil)
          (.bind (quiet_ethernetSend rfl _) fun _ _ _ => .pure _)

/-! ## The messages of the client -/

lemma putBytes_append (b : ℕ → UInt8) (p : ℕ) (l l' : List UInt8) :
    putBytes (putBytes b p l) (p + l.length) l' = putBytes b p (l ++ l') := by
  funext k
  simp only [putBytes, List.getD_eq_getElem?_getD]
  by_cases hk : p + l.length ≤ k
  · have hp : p ≤ k := by omega
    have hlen : l.length ≤ k - p := by omega
    rw [if_pos hk, if_pos hp, if_pos hp, List.getElem?_append_right hlen,
      List.getElem?_eq_none hlen, Nat.sub_sub]
    rfl
  · rw [if_neg hk]
    by_cases hp : p ≤ k
    · have hlen : k - p < l.length := by omega
      rw [if_pos hp, if_pos hp, List.getElem?_append_left hlen]
    · rw [if_neg hp, if_neg hp]

/-- The later bytes stand, where a list is written over the first part of another one. -/
lemma putBytes_front (b : ℕ → UInt8) (p : ℕ) {l l' rest : List UInt8} (h : l.length = l'.length) :
    putBytes (putBytes b p (l ++ rest)) p l' = putBytes b p (l' ++ rest) := by
  funext k
  simp only [putBytes, List.getD_eq_getElem?_getD]
  by_cases hp : p ≤ k
  · rw [if_pos hp, if_pos hp, if_pos hp]
    by_cases hlen : k - p < l'.length
    · rw [List.getElem?_append_left hlen, List.getElem?_eq_getElem hlen]
      rfl
    · rw [List.getElem?_append_right (by omega : l'.length ≤ k - p),
        List.getElem?_append_right (by omega : l.length ≤ k - p),
        List.getElem?_eq_none (by omega : l'.length ≤ k - p), h]
      rfl
  · rw [if_neg hp, if_neg hp, if_neg hp]

/-- A list that was written is read back. -/
lemma map_putBytes (b : ℕ → UInt8) {n : ℕ} {l : List UInt8} (h : l.length ≤ n) :
    (List.range n).map (putBytes b 0 l) =
      l ++ (List.range (n - l.length)).map fun k => b (l.length + k) := by
  obtain ⟨m, rfl⟩ : ∃ m, n = l.length + m := ⟨n - l.length, by omega⟩
  rw [List.range_add, List.map_append, Nat.add_sub_cancel_left, List.map_map]
  congr 1
  · refine List.ext_getElem (by simp) fun i hi hi' => ?_
    simp [putBytes, List.getD_eq_getElem?_getD, hi']
  · refine List.map_congr_left fun k _ => ?_
    simp [putBytes, List.getD_eq_getElem?_getD]

/-- The bytes of a `struct dhcp_d`. -/
def DhcpPointer.bytes : DhcpPointer → NetState → ℕ → UInt8
  | .received p, s => fun k => s.frame (p + k)
  | .ldhcp, s => s.ldhcp

/-- The structure with other bytes in it. -/
def DhcpPointer.put : DhcpPointer → NetState → ℕ → List UInt8 → NetState
  | .received p, s, k, l => { s with frame := putBytes s.frame (p + k) l }
  | .ldhcp, s, k, l => { s with ldhcp := putBytes s.ldhcp k l }

lemma DhcpPointer.bytes_put (d : DhcpPointer) (s : NetState) (k : ℕ) (l : List UInt8) :
    d.bytes (d.put s k l) = putBytes (d.bytes s) k l := by
  cases d with
  | received p =>
      funext j
      simp only [DhcpPointer.bytes, DhcpPointer.put, putBytes, Nat.add_le_add_iff_left,
        Nat.add_sub_add_left]
  | ldhcp => rfl

@[simp] lemma DhcpPointer.put_currentNIC (d : DhcpPointer) (s : NetState) (k : ℕ)
    (l : List UInt8) : (d.put s k l).currentNIC = s.currentNIC := by
  cases d <;> rfl

@[simp] lemma DhcpPointer.put_dhcpInfo (d : DhcpPointer) (s : NetState) (k : ℕ)
    (l : List UInt8) : (d.put s k l).dhcpInfo = s.dhcpInfo := by
  cases d <;> rfl

@[simp] lemma DhcpPointer.put_nodename (d : DhcpPointer) (s : NetState) (k : ℕ)
    (l : List UInt8) : (d.put s k l).nodename = s.nodename := by
  cases d <;> rfl

/-- The writes of `dhcpPut`. -/
def DhcpPointer.writes : DhcpPointer → ℕ → ℕ → List NetEvent
  | .received p, k, n => [.write (p + k) n]
  | .ldhcp, _, _ => []

lemma DhcpPointer.quiet_writes (d : DhcpPointer) (k n : ℕ) : ∀ x ∈ d.writes k n, Quiet x := by
  cases d with
  | received p => exact fun x hx => by rw [List.mem_singleton.1 hx]; trivial
  | ldhcp => exact nofun

lemma dhcpPut_run (d : DhcpPointer) (k : ℕ) (l : List UInt8) :
    dhcpPut d k l s = ⟨.ok (), d.put s k l, d.writes k l.length⟩ := by
  cases d <;> rfl

/-- All the bytes that `network_dhcp_send` sets. -/
def dhcpFixed (mac : Mac) (messageType : ℤ) (source target : Ipv4) (nodename : ℕ → UInt8) :
    List UInt8 :=
  [1, 1, 6, 0] ++ XID ++ List.replicate 20 0 ++ (List.ofFn mac ++ List.replicate 10 0) ++
    List.replicate 64 0 ++ List.replicate 128 0 ++ MAGIC_COOKIE ++
    [OPT_DHCP_MESSAGE_TYPE, 1, UInt8.ofNat messageType.toNat] ++
    dhcpOptions messageType source target nodename

/-- A run that may do one step of the dialog, as its last one: it sends `message`. -/
structure SendsRun {α : Type} (s : NetState) (message : List UInt8)
    (r : Outcome Fault NetState NetEvent α) : Prop where
  same : Same s r.state
  events : ∀ x ∈ r.events, Quiet x ∨ x = .dhcpSent message
  sent : ∀ a, r.result = .ok a → ∃ events, (∀ x ∈ events, Quiet x) ∧
    r.events = events ++ [.dhcpSent message]

lemma SendsRun.behind {r : Outcome Fault NetState NetEvent α} {message : List UInt8}
    {events : List NetEvent} (hs : Same s t) (hevents : ∀ x ∈ events, Quiet x)
    (h : SendsRun t message r) : SendsRun s message (r.behind events) where
  same := hs.trans h.same
  events x hx := (List.mem_append.1 hx).elim (fun hx => .inl (hevents x hx)) (h.events x)
  sent a ha := by
    obtain ⟨rest, hrest, heq⟩ := h.sent a ha
    refine ⟨events ++ rest, fun x hx => ?_, ?_⟩
    · exact (List.mem_append.1 hx).elim (hevents x) (hrest x)
    · rw [Outcome.behind_events, heq, List.append_assoc]

lemma sends_udp (source target : Ipv4) (macDst : Mac) (sport dport : UInt16)
    (data message : List UInt8) :
    SendsRun s message ((networkSendUdp source target macDst sport dport data >>= fun _ =>
      emit (.dhcpSent message)) s) := by
  have hquiet := quiet_networkSendUdp (s := s) source target macDst sport dport data
  cases hr : (networkSendUdp source target macDst sport dport data s).result with
  | ok a =>
      rw [bind_of_ok (Outcome.ext hr rfl rfl)]
      refine ⟨hquiet.same, fun x hx => ?_, fun _ _ => ⟨_, hquiet.events, rfl⟩⟩
      exact (List.mem_append.1 hx).imp (hquiet.events x) List.mem_singleton.1
  | error e =>
      rw [bind_of_error (Outcome.ext hr rfl rfl)]
      exact ⟨hquiet.same, fun x hx => .inl (hquiet.events x hx), nofun⟩

lemma sends_put {message l : List UInt8} {d : DhcpPointer} {k : ℕ} {f : Unit → NetM α}
    (h : SendsRun (d.put s k l) message (f () (d.put s k l))) :
    SendsRun s message ((dhcpPut d k l >>= f) s) := by
  rw [bind_of_ok (dhcpPut_run d k l)]
  exact .behind ⟨by rw [DhcpPointer.put_currentNIC], DhcpPointer.put_dhcpInfo d s k l⟩
    (d.quiet_writes k l.length) h

lemma dhcpBytes_run (d : DhcpPointer) : ∃ events, (∀ x ∈ events, Quiet x) ∧
    dhcpBytes d s = ⟨.ok ((List.range DHCP_SIZE).map (d.bytes s)), s, events⟩ := by
  cases d with
  | received p =>
      exact ⟨[.read p DHCP_SIZE], fun x hx => by rw [List.mem_singleton.1 hx]; trivial, rfl⟩
  | ldhcp => exact ⟨[], nofun, rfl⟩

/-- The structure after all the writes of `network_dhcp_send`. -/
def DhcpPointer.filled (d : DhcpPointer) (s : NetState) (mac : Mac) (messageType : ℤ)
    (source target : Ipv4) : NetState :=
  let s₄ := d.put (d.put (d.put (d.put s 0 [1, 1, 6, 0]) 4 XID) 8 (List.replicate 20 0)) 28
    (List.replicate 16 0)
  let s₈ := d.put (d.put (d.put (d.put s₄ 28 (List.ofFn mac)) 44 (List.replicate 64 0)) 108
    (List.replicate 128 0)) 236 MAGIC_COOKIE
  let s₉ := d.put s₈ 240 [OPT_DHCP_MESSAGE_TYPE, 1, UInt8.ofNat messageType.toNat]
  d.put s₉ 243 (dhcpOptions messageType source target s.nodename)

lemma DhcpPointer.bytes_filled (d : DhcpPointer) (mac : Mac) (messageType : ℤ)
    (source target : Ipv4) : d.bytes (d.filled s mac messageType source target) =
      putBytes (d.bytes s) 0 (dhcpFixed mac messageType source target s.nodename) := by
  have hmac (b : ℕ → UInt8) : putBytes (putBytes b 28 (List.replicate 16 0)) 28 (List.ofFn mac) =
      putBytes b 28 (List.ofFn mac ++ List.replicate 10 0) :=
    @putBytes_front b 28 (List.replicate 6 0) (List.ofFn mac) (List.replicate 10 0) (by simp)
  unfold DhcpPointer.filled dhcpFixed
  simp only [DhcpPointer.bytes_put, hmac]
  simp only [← putBytes_append, List.length_append, List.length_replicate, List.length_ofFn,
    List.length_cons, List.length_nil]

/-- The message that `network_dhcp_send` makes of the bytes `old`. -/
def ownMessage (old : ℕ → UInt8) (mac : Mac) (messageType : ℤ) (source target : Ipv4)
    (nodename : ℕ → UInt8) : List UInt8 :=
  (List.range DHCP_SIZE).map (putBytes old 0 (dhcpFixed mac messageType source target nodename))

section Send

variable {d : DhcpPointer} {messageType : ℤ} {source target : Ipv4} {sport dport : UInt16}

lemma sends_networkDhcpSend {nic : Nic} (hnic : s.currentNIC = some nic)
    (htype : messageType = DORA_D ∨ messageType = DORA_R) :
    SendsRun s (ownMessage (d.bytes s) nic.macAddress messageType source target s.nodename)
      (networkDhcpSend d messageType source target sport dport s) := by
  have hneg : ¬messageType < 0 := by rcases htype with rfl | rfl <;> decide
  unfold networkDhcpSend
  rw [if_neg hneg]
  refine sends_put (sends_put (sends_put (sends_put ?_)))
  rw [get_bind]
  simp only [DhcpPointer.put_currentNIC, DhcpPointer.put_nodename, hnic]
  refine sends_put (sends_put (sends_put (sends_put (sends_put ?_))))
  rw [if_neg (by tauto)]
  refine sends_put ?_
  obtain ⟨events, hevents, hrun⟩ :=
    dhcpBytes_run (s := d.filled s nic.macAddress messageType source target) d
  rw [DhcpPointer.bytes_filled] at hrun
  change SendsRun (d.filled s nic.macAddress messageType source target) _
    ((dhcpBytes d >>= _) (d.filled s nic.macAddress messageType source target))
  rw [bind_of_ok hrun]
  exact .behind (.refl _) hevents (sends_udp _ _ _ _ _ _ _)

lemma quiet_networkDhcpSend (hnic : s.currentNIC = none) :
    QuietRun s (networkDhcpSend d messageType source target sport dport s) := by
  have hput {t : NetState} {k : ℕ} {l : List UInt8} {f : Unit → NetM Unit}
      (h : QuietRun (d.put t k l) (f () (d.put t k l))) : QuietRun t ((dhcpPut d k l >>= f) t) := by
    rw [bind_of_ok (dhcpPut_run d k l)]
    exact .behind ⟨by rw [DhcpPointer.put_currentNIC], DhcpPointer.put_dhcpInfo d t k l⟩
      (d.quiet_writes k l.length) h
  unfold networkDhcpSend
  by_cases hneg : messageType < 0
  · rw [if_pos hneg]
    exact .pure _
  · rw [if_neg hneg]
    refine hput (hput (hput (hput ?_)))
    rw [get_bind]
    simp only [DhcpPointer.put_currentNIC, hnic]
    exact .pure _

end Send

section Fields

variable {old : ℕ → UInt8} {mac : Mac} {messageType : ℤ} {source target : Ipv4}
  {nodename : ℕ → UInt8}

lemma dhcpFixed_length : (dhcpFixed mac messageType source target nodename).length ≤ DHCP_SIZE := by
  unfold dhcpFixed dhcpOptions
  split_ifs <;> simp only [List.length_append, List.length_replicate, List.length_ofFn,
    List.length_cons, List.length_nil, List.length_map, List.length_range] <;> decide

lemma ownMessage_eq : ∃ rest, ownMessage old mac messageType source target nodename =
    dhcpFixed mac messageType source target nodename ++ rest :=
  ⟨_, map_putBytes old dhcpFixed_length⟩

lemma ownMessage_xid :
    fieldAt (ownMessage old mac messageType source target nodename) 4 4 = XID := by
  obtain ⟨rest, hrest⟩ := @ownMessage_eq old mac messageType source target nodename
  rw [hrest]
  rfl

lemma ownMessage_chaddr :
    fieldAt (ownMessage old mac messageType source target nodename) 28 6 = List.ofFn mac := by
  obtain ⟨rest, hrest⟩ := @ownMessage_eq old mac messageType source target nodename
  rw [hrest]
  rfl

/-- The options of the messages, behind the fixed fields. -/
lemma ownMessage_options : ∃ rest,
    (ownMessage old mac messageType source target nodename).drop 240 =
      [OPT_DHCP_MESSAGE_TYPE, 1, UInt8.ofNat messageType.toNat] ++
        dhcpOptions messageType source target nodename ++ rest := by
  obtain ⟨rest, hrest⟩ := @ownMessage_eq old mac messageType source target nodename
  rw [hrest]
  exact ⟨rest, rfl⟩

lemma ownMessage_discover : dhcpOption (ownMessage old mac DORA_D source target nodename)
    OPT_DHCP_MESSAGE_TYPE = some [1] := by
  obtain ⟨rest, hrest⟩ := @ownMessage_options old mac DORA_D source target nodename
  rw [dhcpOption, hrest]
  rfl

lemma ownMessage_request : dhcpOption (ownMessage old mac DORA_R source target nodename)
    OPT_DHCP_MESSAGE_TYPE = some [3] := by
  obtain ⟨rest, hrest⟩ := @ownMessage_options old mac DORA_R source target nodename
  rw [dhcpOption, hrest]
  rfl

/-- A request asks for the address that it was given. -/
lemma ownMessage_requested : dhcpOption (ownMessage old mac DORA_R source target nodename)
    OPT_REQUESTED_IP_ADDR = some (List.ofFn source) := by
  obtain ⟨rest, hrest⟩ := @ownMessage_options old mac DORA_R source target nodename
  rw [dhcpOption, hrest]
  rfl

end Fields

/-! ## What the handlers do for the dialog -/

lemma quiet_modify {f : NetState → NetState} (h : Same s (f s)) :
    QuietRun s (EventM.modify f s : Outcome Fault NetState NetEvent Unit) := ⟨h, nofun⟩

lemma quiet_emit {x : NetEvent} (h : Quiet x) :
    QuietRun s (emit x s : Outcome Fault NetState NetEvent Unit) :=
  ⟨.refl s, fun y hy => by rw [List.mem_singleton.1 hy]; exact h⟩

lemma quiet_gprotocolReply (code text : String) (sport dport : UInt16) :
    QuietRun s (gprotocolReply code text sport dport s) := by
  unfold gprotocolReply udpClearPayloadBuffer
  refine .bind (.bind (quiet_modify ⟨rfl, rfl⟩) fun _ t _ => quiet_emit trivial) fun _ t _ => ?_
  refine .bind (quiet_modify ⟨rfl, rfl⟩) fun _ t _ => ?_
  refine .bind (quiet_emit trivial) fun _ t _ => ?_
  refine .bind (quiet_emit trivial) fun _ t _ => ?_
  rw [get_bind]
  exact .bind (quiet_networkSendUdp _ _ _ _ _ _) fun _ t _ => QuietRun.pure (s := t) ()

lemma quiet_handleGprotocol (sport dport : UInt16) :
    QuietRun s (handleGprotocol sport dport s) := by
  unfold handleGprotocol
  rw [get_bind]
  split_ifs
  · exact .pure _
  · exact .pure _
  · exact quiet_gprotocolReply _ _ _ _
  · exact quiet_gprotocolReply _ _ _ _
  · exact .pure _

/-- The reads of the DHCP handler. -/
def dhcpReads (p : ℕ) : List NetEvent :=
  [.read (p + 16) 4, .read (p + 20) 4, .read (p + 28) 6, .read p 1, .read (p + 242) 1]

lemma quiet_dhcpReads (p : ℕ) : ∀ x ∈ dhcpReads p, Quiet x := by
  intro x hx
  simp only [dhcpReads, List.mem_cons, List.not_mem_nil, or_false] at hx
  rcases hx with rfl | rfl | rfl | rfl | rfl <;> trivial

/-- An address in the frame. -/
def ipv4At (b : ℕ → UInt8) (p : ℕ) : Ipv4 := fun i => b (p + i)

section Handler

variable {p : ℕ} {size : ℤ}

/-- The handler takes a message by its third option byte. -/
lemma networkHandleDhcp_eq : networkHandleDhcp p size s =
    ((if s.frame (p + 242) = DORA_O then
        networkDhcpSend (.received p) DORA_R (ipv4At s.frame (p + 16)) (ipv4At s.frame (p + 20)) 68 67
      else if s.frame (p + 242) = DORA_A then do
        modify fun s' => { s' with
          dhcpInfo := { s'.dhcpInfo with
            initialized := TRUE, yourIpv4 := ipv4At s.frame (p + 16),
            serverIpv4 := ipv4At s.frame (p + 20) },
          isOnline := TRUE }
        emit (.adopted (ipv4At s.frame (p + 16)) (ipv4At s.frame (p + 20)))
      else pure () : NetM Unit) s).behind (dhcpReads p) := by
  unfold networkHandleDhcp
  rw [bind_of_ok (readIpv4_run s _), bind_of_ok (readIpv4_run s _), bind_of_ok (readMac_run s _),
    bind_of_ok (readByte_run s _), bind_of_ok (readByte_run s _), Outcome.behind_behind,
    Outcome.behind_behind, Outcome.behind_behind, Outcome.behind_behind]
  rfl

end Handler

lemma SendsRun.bind_pure {x : NetM α} {message : List UInt8} {b : β}
    (h : SendsRun s message (x s)) : SendsRun s message ((x >>= fun _ => Pure.pure b) s) := by
  cases hx : (x s).result with
  | ok a =>
      rw [bind_of_ok (Outcome.ext hx rfl rfl)]
      have hnil : ((Pure.pure b : NetM β) (x s).state).events = [] := rfl
      refine ⟨h.same, fun y hy => ?_, fun _ _ => ?_⟩
      · rw [Outcome.behind_events, hnil, List.append_nil] at hy
        exact h.events y hy
      · obtain ⟨events, hevents, heq⟩ := h.sent a hx
        refine ⟨events, hevents, ?_⟩
        rw [Outcome.behind_events, hnil, List.append_nil]
        exact heq
  | error e =>
      rw [bind_of_error (Outcome.ext hx rfl rfl)]
      exact ⟨h.same, h.events, nofun⟩

lemma udpPorts_dhcp {p : ℕ} {sport dport : UInt16} (h : dport = 68 ∨ dport = 67) :
    ∃ size events, (∀ x ∈ events, Quiet x) ∧
      udpPorts p sport dport s = (networkHandleDhcp (p + 8) size s).behind events := by
  have hrun : ∃ size, udpPorts p sport dport s =
      (networkHandleDhcp (p + 8) size s).behind ([.read (p + 4) 2] ++ [.call (p + 8) size]) := by
    unfold udpPorts
    rw [if_pos h, bind_of_ok (readHalf_run s _), emit_bind, UDP_HEADER_LENGHT,
      Outcome.behind_behind]
    exact ⟨_, rfl⟩
  obtain ⟨size, hrun⟩ := hrun
  refine ⟨size, _, fun x hx => ?_, hrun⟩
  simp only [List.cons_append, List.nil_append, List.mem_cons, List.not_mem_nil, or_false] at hx
  rcases hx with rfl | rfl <;> trivial

lemma quiet_udpPorts {p : ℕ} {sport dport : UInt16} (h : ¬(dport = 68 ∨ dport = 67)) :
    QuietRun s (udpPorts p sport dport s) := by
  unfold udpPorts
  rw [if_neg h]
  split_ifs
  · exact .bind (quiet_handleGprotocol _ _) fun _ t _ =>
      .bind (quiet_modify ⟨rfl, rfl⟩) fun _ t _ => quiet_emit trivial
  · exact .pure _

lemma quiet_copyEvents (p k : ℕ) : ∀ x ∈ copyEvents p k, Quiet x := by
  intro x hx
  simp only [copyEvents, List.mem_append, List.mem_cons, List.not_mem_nil, or_false] at hx
  rcases hx with (hx | hx) | rfl
  · rcases hx with rfl | rfl <;> trivial
  · split_ifs at hx
    · simp only [List.mem_cons, List.not_mem_nil, or_false] at hx
      rcases hx with rfl | rfl | rfl | rfl <;> trivial
    · cases hx
  · trivial

end Gramado
