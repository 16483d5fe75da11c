import Gramado.Lib.OnesComplement
import Gramado.Net.Receive

/-!
# A UDP payload from host to host

`network_send_udp` builds the headers and puts the payload behind them; the handlers of the receive
path take the headers off again.  The sender states the payload's length in two headers, and the
receiver copies the payload up to its first zero byte.
-/

namespace Gramado

open EventLog EventM OnesComplement

/-! ## Fields of two bytes -/

lemma lor_mul_256 {a : ℕ} (ha : a < 256) (b : ℕ) : a ||| 256 * b = a + 256 * b := by
  rw [Nat.or_comm, Nat.add_comm, show 256 = 2 ^ 8 from rfl, Nat.two_pow_add_eq_or_of_lt ha]

lemma half_toNat (lo hi : UInt8) : (half lo hi).toNat = lo.toNat + 256 * hi.toNat := by
  have hlo := lo.toNat_lt
  have hhi := hi.toNat_lt
  simp only [half, UInt16.toNat_or, UInt8.toNat_toUInt16, UInt16.toNat_shiftLeft,
    UInt16.reduceToNat, Nat.reduceMod, Nat.shiftLeft_eq]
  rw [Nat.mod_eq_of_lt (by omega), Nat.mul_comm, lor_mul_256 hlo]

lemma halfBytes_toNat (v : UInt16) :
    v.toUInt8.toNat + 256 * (v >>> 8).toUInt8.toNat = v.toNat := by
  have hv := v.toNat_lt
  simp only [UInt16.toNat_toUInt8, UInt16.toNat_shiftRight, UInt16.reduceToNat, Nat.reduceMod,
    Nat.shiftRight_eq_div_pow]
  omega

lemma half_halfBytes (v : UInt16) : half v.toUInt8 (v >>> 8).toUInt8 = v :=
  UInt16.toNat_inj.1 ((half_toNat _ _).trans (halfBytes_toNat v))

lemma toNetByteOrder16_toNat (v : UInt16) :
    (toNetByteOrder16 v).toNat = v.toNat / 256 + 256 * (v.toNat % 256) := by
  have hv := v.toNat_lt
  have hlow : v.toNat <<< 8 % 2 ^ 16 = 256 * (v.toNat % 256) := by
    rw [Nat.shiftLeft_eq]
    omega
  simp only [toNetByteOrder16, UInt16.toNat_or, UInt16.toNat_shiftRight, UInt16.toNat_shiftLeft,
    UInt16.reduceToNat, Nat.reduceMod, hlow, Nat.shiftRight_eq_div_pow]
  exact lor_mul_256 (by omega) _

lemma toNetByteOrder16_twice (v : UInt16) : toNetByteOrder16 (toNetByteOrder16 v) = v := by
  have hv := v.toNat_lt
  refine UInt16.toNat_inj.1 ?_
  rw [toNetByteOrder16_toNat, toNetByteOrder16_toNat]
  omega

/-! ## The checksum -/

lemma sumWords_toNat : ∀ {l : List UInt8}, (little l).sum < 2 ^ 32 →
    (sumWords l).toNat = (little l).sum
  | [], _ => rfl
  | [a], _ => by simp [sumWords, little]
  | a :: b :: rest, h => by
      simp only [little, List.sum_cons] at h ⊢
      simp only [sumWords, UInt32.toNat_add, UInt16.toNat_toUInt32, half_toNat,
        sumWords_toNat (l := rest) (by omega)]
      omega

/-- What `net_checksum` computes of a header, as the sender stores it. -/
lemma netChecksum_modEq {l : List UInt8} (h : (little l).sum < 2 ^ 20) :
    (little l).sum + (toNetByteOrder16 (netChecksum none l)).toNat ≡ 0 [MOD 65535] := by
  have hsum : (sumWords l).toNat = (little l).sum := sumWords_toNat (by omega)
  have hfold (c : UInt32) (hc : c.toNat < 2 ^ 20) :
      ((c &&& (0xffff : UInt32)) + (c >>> (16 : UInt32))).toNat =
        c.toNat % 65536 + c.toNat / 65536 := by
    have hmask : c.toNat &&& 65535 = c.toNat % 65536 := Nat.and_two_pow_sub_one_eq_mod c.toNat 16
    simp only [UInt32.toNat_add, UInt32.toNat_and, UInt32.toNat_shiftRight, UInt32.reduceToNat,
      Nat.reduceMod, hmask, Nat.shiftRight_eq_div_pow]
    omega
  have hcarry (c : UInt32) (hc : c.toNat < 2 ^ 17) :
      (c + (c >>> (16 : UInt32))).toNat = c.toNat + c.toNat / 65536 := by
    simp only [UInt32.toNat_add, UInt32.toNat_shiftRight, UInt32.reduceToNat,
      Nat.reduceMod, Nat.shiftRight_eq_div_pow]
    omega
  have hnot (v : UInt16) : (~~~v).toNat = 65535 - v.toNat := by
    simp only [UInt16.toNat_not, UInt16.size]
  rw [netChecksum, toNetByteOrder16_twice]
  simp only [Option.map_none, Option.getD_none, UInt32.zero_add]
  have hc := hfold (sumWords l) (by omega)
  rw [hnot, UInt32.toNat_toUInt16, hcarry _ (by omega), hc, hsum]
  rw [hsum] at hc
  set w := (little l).sum
  have hsplit := Nat.div_add_mod w 65536
  have hmod := Nat.mod_lt w (by decide : 65536 > 0)
  generalize w / 65536 = q at *
  generalize w % 65536 = r at *
  rcases Nat.lt_or_ge (r + q) 65536 with hlt | hge
  · have hfinal : (r + q + (r + q) / 65536) % 2 ^ 16 = r + q := by omega
    rw [hfinal]
    exact (Nat.modEq_zero_iff_dvd).2 ⟨q + 1, by omega⟩
  · have hfinal : (r + q + (r + q) / 65536) % 2 ^ 16 = r + q - 65535 := by
      have hone : (r + q) / 65536 = 1 := by omega
      rw [hone]
      omega
    rw [hfinal]
    exact (Nat.modEq_zero_iff_dvd).2 ⟨q + 2, by omega⟩

/-! ## The header -/

lemma ipHeader_words (len sum : UInt16) (source target : Ipv4) :
    (little (ipHeader len sum source target)).sum =
      (little (ipHeader len 0 source target)).sum + sum.toNat := by
  have hsum := halfBytes_toNat sum
  have hzero : (0 : UInt16).toUInt8.toNat + 256 * ((0 : UInt16) >>> 8).toUInt8.toNat = 0 :=
    halfBytes_toNat 0
  simp only [ipHeader, halfBytes, List.ofFn_succ, List.ofFn_zero, little, List.cons_append,
    List.nil_append, List.sum_cons, List.sum_nil]
  omega

/-- The words of `n` pairs of bytes. -/
lemma little_sum_le : ∀ (l : List UInt8), (little l).sum ≤ 65535 * ((l.length + 1) / 2)
  | [] => le_rfl
  | [a] => by
      have := a.toNat_lt
      simp only [little, List.sum_cons, List.sum_nil, List.length_cons, List.length_nil]
      omega
  | a :: b :: rest => by
      have ha := a.toNat_lt
      have hb := b.toNat_lt
      have hrest := little_sum_le rest
      simp only [little, List.sum_cons, List.length_cons]
      omega

/-- The ones-complement sum of a header verifies. -/
def Verifies (header : List UInt8) : Prop := OnesComplement.sum (big header) = 0xFFFF

/-- **The sender's checksum verifies.** -/
lemma ipHeaderSummed_verifies (len : UInt16) (source target : Ipv4) :
    Verifies (ipHeaderSummed len source target) := by
  have hbound : (little (ipHeader len 0 source target)).sum < 2 ^ 20 := by
    refine (little_sum_le _).trans_lt ?_
    simp [ipHeader, halfBytes]
  have hzero := netChecksum_modEq hbound
  rw [← ipHeader_words] at hzero
  rw [Verifies, sum_eq_max_iff (big_le _)]
  refine ⟨?_, big_modEq_zero hzero⟩
  simp only [ipHeaderSummed, ipHeader, List.cons_append, big, List.sum_cons]
  refine Nat.add_pos_left ?_ _
  decide

/-! ## What the receive path leaves alone -/

/-- The saved addresses of the caller. -/
def NetState.caller (s : NetState) : Mac × Ipv4 := (s.savedCallerMac, s.savedCallerIpv4)

section Keeps

lemma keeps_read {α : Type} {x : NetM α} (h : ∀ s, (x s).state = s) : Keeps NetState.caller x :=
  fun s => congrArg NetState.caller (h s)

lemma keeps_ethernetSend (nic : Nic) (frame : List UInt8) :
    Keeps NetState.caller (ethernetSend nic frame) :=
  .ite (.pure _) <| .ite (.fault _) <| .ite (.fault _) <| .ite (.fault _) <|
    .bind (.emit _) fun _ => .bind (.modify fun _ => rfl) fun _ => .pure _

lemma keeps_networkSendUdp (source target : Ipv4) (macDst : Mac) (sport dport : UInt16)
    (data : List UInt8) :
    Keeps NetState.caller (networkSendUdp source target macDst sport dport data) := by
  refine .bind .get fun s => ?_
  cases s.currentNIC with
  | none => exact .pure _
  | some nic =>
      exact .bind (.modify fun _ => rfl) fun _ => .ite (.fault _) <|
        .bind (keeps_ethernetSend _ _) fun _ => .pure _

lemma keeps_dhcpPut (d : DhcpPointer) (k : ℕ) (l : List UInt8) :
    Keeps NetState.caller (dhcpPut d k l) := by
  cases d with
  | received p => exact .bind (.modify fun _ => rfl) fun _ => .emit _
  | ldhcp => exact .modify fun _ => rfl

lemma keeps_networkDhcpSend (d : DhcpPointer) (messageType : ℤ) (source target : Ipv4)
    (sport dport : UInt16) :
    Keeps NetState.caller (networkDhcpSend d messageType source target sport dport) := by
  have hput {k : ℕ} {l : List UInt8} {f : Unit → NetM Unit} (h : ∀ a, Keeps NetState.caller (f a)) :
      Keeps NetState.caller (dhcpPut d k l >>= f) := .bind (keeps_dhcpPut d k l) h
  refine .ite (.pure _) (hput fun _ => hput fun _ => hput fun _ => hput fun _ => .bind .get ?_)
  intro s
  cases s.currentNIC with
  | none => exact .pure _
  | some nic =>
      refine hput fun _ => hput fun _ => hput fun _ => hput fun _ => hput fun _ =>
        .ite (.pure _) (hput fun _ => .bind (keeps_read ?_) fun _ =>
          .bind (keeps_networkSendUdp _ _ _ _ _ _) fun _ => .emit _)
      cases d <;> exact fun _ => rfl

lemma keeps_networkHandleDhcp (p : ℕ) (size : ℤ) :
    Keeps NetState.caller (networkHandleDhcp p size) :=
  .bind (keeps_read fun _ => rfl) fun _ => .bind (keeps_read fun _ => rfl) fun _ =>
    .bind (keeps_read fun _ => rfl) fun _ => .bind (keeps_read fun _ => rfl) fun _ =>
      .bind (keeps_read fun _ => rfl) fun _ => .ite (keeps_networkDhcpSend _ _ _ _ _ _) <|
        .ite (.bind (.modify fun _ => rfl) fun _ => .emit _) (.pure _)

lemma keeps_udpClearPayloadBuffer : Keeps NetState.caller udpClearPayloadBuffer :=
  .bind (.modify fun _ => rfl) fun _ => .emit _

lemma keeps_gprotocolReply (code text : String) (sport dport : UInt16) :
    Keeps NetState.caller (gprotocolReply code text sport dport) :=
  .bind keeps_udpClearPayloadBuffer fun _ => .bind (.modify fun _ => rfl) fun _ =>
    .bind (.emit _) fun _ => .bind (.emit _) fun _ => .bind .get fun _ =>
      .bind (keeps_networkSendUdp _ _ _ _ _ _) fun _ => .pure _

lemma keeps_udpPorts (p : ℕ) (sport dport : UInt16) :
    Keeps NetState.caller (udpPorts p sport dport) :=
  .ite (.bind (keeps_read fun _ => rfl) fun _ => .bind (.emit _) fun _ =>
      keeps_networkHandleDhcp _ _) <|
    .ite (.bind (.bind .get fun _ => .ite (.pure _) <| .ite (.pure _) <|
      .ite (keeps_gprotocolReply _ _ _ _) <| .ite (keeps_gprotocolReply _ _ _ _) (.pure _))
        fun _ => keeps_udpClearPayloadBuffer) (.pure _)

lemma keeps_udpCopyPayload (p : ℕ) : Keeps NetState.caller (udpCopyPayload p) := by
  have hzero (k : ℕ) : Keeps NetState.caller (udpPayloadZero k) :=
    .bind (.modify fun _ => rfl) fun _ => .emit _
  refine .bind keeps_udpClearPayloadBuffer fun _ => .bind (keeps_read fun s => ?_) fun k =>
    .bind (.ite (.bind (keeps_read fun _ => rfl) fun _ => .bind (.modify fun _ => rfl) fun _ =>
      .bind (.emit _) fun _ => .bind (hzero _) fun _ => hzero _) (.pure _)) fun _ => hzero _
  unfold strlen
  split <;> rfl

lemma keeps_networkHandleUdp (p : ℕ) (size : ℤ) :
    Keeps NetState.caller (networkHandleUdp p size) :=
  .bind (keeps_read fun _ => rfl) fun _ => .bind (keeps_read fun _ => rfl) fun _ =>
    .bind (keeps_udpCopyPayload _) fun _ => .bind .get fun _ => .bind (.emit _) fun _ =>
      keeps_udpPorts _ _ _

end Keeps

/-! ## A UDP frame on the receive path -/

/-- The datagram that the UDP handler has its copy of. -/
def NetEvent.datagram? : NetEvent → Option (UInt16 × UInt16 × (ℕ → UInt8))
  | .stored sport dport bytes => some (sport, dport, bytes)
  | _ => none

/-- The first datagram that is stored. -/
def firstStored (events : List NetEvent) : Option (UInt16 × UInt16 × (ℕ → UInt8)) :=
  (events.filterMap NetEvent.datagram?).head?

lemma firstStored_append {events : List NetEvent} (h : ∀ x ∈ events, x.datagram? = none)
    (rest : List NetEvent) : firstStored (events ++ rest) = firstStored rest := by
  rw [firstStored, List.filterMap_append, List.filterMap_eq_nil_iff.2 h, List.nil_append]
  rfl

/-- The frame holds an IPv4 packet with a UDP datagram. -/
structure IsUdpFrame (b : ℕ → UInt8) : Prop where
  type : netHalf b 12 = ETHERTYPE_IPV4
  version : ipVersion b 14 = 4
  length : 20 ≤ (netHalf b 16).toNat
  protocol : b 23 = PROTOCOL_IP_UDP

lemma ipv4Protocols_udp {s : NetState} {p len : ℕ} (h : s.frame (p + 9) = PROTOCOL_IP_UDP) :
    ipv4Protocols p len s =
      (networkHandleUdp (p + 20) ((len : ℤ) - IP_HEADER_LENGHT) s).behind
        ([.read (p + 9) 1] ++ [.call (p + 20) ((len : ℤ) - IP_HEADER_LENGHT)]) := by
  unfold ipv4Protocols
  rw [bind_of_ok (readByte_run s _), h, if_pos rfl, emit_bind, Outcome.behind_behind]
  rfl

/-- The receive path takes such a frame to the UDP handler. -/
lemma networkOnReceiving_udp {t : NetState} {size : ℤ} (h : Receiving t size)
    (hframe : IsUdpFrame t.frame) :
    ∃ len, (networkOnReceiving size t).state =
        (networkHandleUdp 34 len (withCaller (withCallerMac t) 14)).state ∧
      firstStored (networkOnReceiving size t).events =
        firstStored (networkHandleUdp 34 len (withCaller (withCallerMac t) 14)).events := by
  set u := withCaller (withCallerMac t) 14
  set len : ℤ := ((netHalf t.frame 16).toNat : ℤ) - IP_HEADER_LENGHT
  have hip : networkHandleIpv4 14 (size - ETHERNET_HEADER_LENGHT) (withCallerMac t) =
      (networkHandleUdp 34 len u).behind ([.read (14 + 12) 4, .read 14 1, .read (14 + 2) 2] ++
        ([.read (14 + 9) 1] ++ [.call 34 len])) := by
    rw [networkHandleIpv4_run (s := withCallerMac t) (p := 14) hframe.version hframe.length,
      ipv4Protocols_udp (s := withCaller (withCallerMac t) 14) (p := 14) hframe.protocol,
      Outcome.behind_behind]
    rfl
  obtain ⟨hstate, hevents⟩ := bind_pure_run (x := networkHandleIpv4 14
    (size - ETHERNET_HEADER_LENGHT)) (0 : ℤ) (withCallerMac t)
  rw [hip] at hstate hevents
  have hrun := networkOnReceiving_run h
  rw [hframe.type, ethernetTypes, if_pos rfl, emit_bind] at hrun
  refine ⟨len, ?_, ?_⟩
  · rw [hrun]
    exact hstate
  · rw [hrun, Outcome.behind_events, Outcome.behind_events]
    simp only [ETHERNET_HEADER_LENGHT] at hevents ⊢
    rw [hevents, Outcome.behind_events, ← List.append_assoc, ← List.append_assoc]
    refine firstStored_append (fun x hx => ?_) _
    simp only [List.cons_append, List.nil_append, List.mem_cons, List.not_mem_nil, or_false] at hx
    rcases hx with rfl | rfl | rfl | rfl | rfl | rfl | rfl | rfl <;> rfl

/-! ## The frame of the sender -/

section Frame

variable {macSrc macDst : Mac} {source target : Ipv4} {sport dport : UInt16} {data : List UInt8}
  {behind : ℕ → UInt8}

/-- A frame of the sender in the receive buffer, with what lies behind it. -/
def received (macSrc : Mac) (source target : Ipv4) (macDst : Mac) (sport dport : UInt16)
    (data : List UInt8) (behind : ℕ → UInt8) : ℕ → UInt8 :=
  putBytes behind 0 (udpFrame macSrc source target macDst sport dport data)

lemma netHalf_of_halfBytes {b : ℕ → UInt8} {p : ℕ} {v : UInt16}
    (hlo : b p = (toNetByteOrder16 v).toUInt8)
    (hhi : b (p + 1) = (toNetByteOrder16 v >>> 8).toUInt8) : netHalf b p = v := by
  rw [netHalf, hlo, hhi, half_halfBytes, toNetByteOrder16_twice]

lemma received_type : netHalf (received macSrc source target macDst sport dport data behind) 12 =
    ETHERTYPE_IPV4 := netHalf_of_halfBytes rfl rfl

lemma received_ipLength (hn : data.length ≤ 512) :
    (netHalf (received macSrc source target macDst sport dport data behind) 16).toNat =
      28 + data.length := by
  have hlen : netHalf (received macSrc source target macDst sport dport data behind) 16 =
      20 + (8 + UInt16.ofNat data.length) := netHalf_of_halfBytes rfl rfl
  rw [hlen]
  simp only [UInt16.toNat_add, UInt16.toNat_ofNat', UInt16.reduceToNat]
  omega

lemma received_udpLength (hn : data.length ≤ 512) :
    (netHalf (received macSrc source target macDst sport dport data behind) 38).toNat =
      8 + data.length := by
  have hlen : netHalf (received macSrc source target macDst sport dport data behind) 38 =
      8 + UInt16.ofNat data.length := netHalf_of_halfBytes rfl rfl
  rw [hlen]
  simp only [UInt16.toNat_add, UInt16.toNat_ofNat', UInt16.reduceToNat]
  omega

lemma received_sport :
    netHalf (received macSrc source target macDst sport dport data behind) 34 = sport :=
  netHalf_of_halfBytes rfl rfl

lemma received_dport :
    netHalf (received macSrc source target macDst sport dport data behind) 36 = dport :=
  netHalf_of_halfBytes rfl rfl

lemma received_isUdpFrame (hn : data.length ≤ 512) :
    IsUdpFrame (received macSrc source target macDst sport dport data behind) where
  type := received_type
  version := by
    have hbyte : received macSrc source target macDst sport dport data behind 14 = 0x45 := rfl
    rw [ipVersion, hbyte]
    decide
  length := by rw [received_ipLength hn]; omega
  protocol := rfl

lemma received_source : (fun i : Fin 4 =>
    received macSrc source target macDst sport dport data behind (26 + i)) = source := by
  funext i
  fin_cases i <;> rfl

lemma received_macSrc : (fun i : Fin 6 =>
    received macSrc source target macDst sport dport data behind (6 + i)) = macSrc := by
  funext i
  fin_cases i <;> rfl

lemma received_data (j : ℕ) :
    received macSrc source target macDst sport dport data behind (42 + j) =
      data.getD j (behind (42 + j)) := by
  have hhead : (etherHeader macSrc macDst ETHERTYPE_IPV4 ++
      ipHeaderSummed (20 + (8 + UInt16.ofNat data.length)) source target ++
      udpHeader sport dport (8 + UInt16.ofNat data.length)).length = 42 := by
    simp [etherHeader, ipHeaderSummed, ipHeader, udpHeader, halfBytes]
  rw [received, putBytes, if_pos (Nat.zero_le _), Nat.sub_zero, udpFrame,
    List.getD_eq_getElem?_getD, List.getD_eq_getElem?_getD,
    List.getElem?_append_right (by rw [hhead]; omega), hhead, Nat.add_sub_cancel_left]

end Frame

/-! ## The round trip -/

/-- **What a frame should carry, and its reception recover**: a header whose sum verifies, the two
lengths, the addresses and the ports, and the data, with nothing behind them. -/
structure RoundTrips (macSrc : Mac) (source target : Ipv4) (macDst : Mac) (sport dport : UInt16)
    (data frame : List UInt8) (r : Outcome Fault NetState NetEvent ℤ) : Prop where
  checksum : Verifies ((frame.drop 14).take 20)
  ipLength : (netHalf (frame.getD · 0) 16).toNat = 28 + data.length
  udpLength : (netHalf (frame.getD · 0) 38).toNat = 8 + data.length
  macDst : frame.take 6 = List.ofFn macDst
  target : (frame.drop 30).take 4 = List.ofFn target
  callerMac : r.state.savedCallerMac = macSrc
  callerIpv4 : r.state.savedCallerIpv4 = source
  stored : ∃ payload, firstStored r.events = some (sport, dport, payload) ∧
    ∀ k, payload k = data.getD k 0

/-- A zero byte stands where the data end: the data are bytes other than zero, with zeros behind them
or with a zero behind the frame.  Data of no bytes are also recovered when what lies behind the frame
is too long to be copied. -/
def Delimited (data : List UInt8) (behind : ℕ → UInt8) (bufferEnd : ℕ) : Prop :=
  (∃ k < data.length, (∀ j < k, data.getD j 0 ≠ 0) ∧ ∀ j ≥ k, data.getD j 0 = 0) ∨
    ((∀ j < data.length, data.getD j 0 ≠ 0) ∧ behind (42 + data.length) = 0) ∨
    (data = [] ∧ ∃ k > 512, 42 + k < bufferEnd ∧ FirstZero behind 42 k)

/-- The frame that the sender hands to the device. -/
lemma sent_udpFrame {sender : NetState} {nic : Nic} (hnic : sender.currentNIC = some nic)
    {source target : Ipv4} {macDst : Mac} {sport dport : UInt16} {data frame : List UInt8}
    (hsent : .sent frame ∈ (networkSendUdp source target macDst sport dport data sender).events) :
    frame = udpFrame nic.macAddress source target macDst sport dport data := by
  unfold networkSendUdp at hsent
  rw [get_bind, hnic] at hsent
  dsimp only at hsent
  rw [modify_bind] at hsent
  by_cases hbuf : nic.txBuffersVirt nic.txCur = 0
  · rw [if_pos hbuf] at hsent
    cases hsent
  · rw [if_neg hbuf, (bind_pure_run _ _).2, ethernetSend] at hsent
    split_ifs at hsent
    · cases hsent
    · cases hsent
    · cases hsent
    · cases hsent
    · rw [emit_bind, modify_bind] at hsent
      exact NetEvent.sent.inj (List.mem_singleton.1 hsent)

section Stored

variable {data : List UInt8} {b behind : ℕ → UInt8} {bufferEnd k : ℕ}

/-- The bytes that the copy reads: the data, and what lies behind them. -/
structure DataAt (data : List UInt8) (b behind : ℕ → UInt8) : Prop where
  short : data.length ≤ 512
  bytes : ∀ j, b (42 + j) = data.getD j (behind (42 + j))

lemma DataAt.inside (h : DataAt data b behind) {j : ℕ} (hj : j < data.length) :
    b (42 + j) = data.getD j 0 := by
  rw [h.bytes, List.getD_eq_getElem?_getD, List.getD_eq_getElem?_getD,
    List.getElem?_eq_getElem hj]
  rfl

lemma getD_outside {j : ℕ} (hj : data.length ≤ j) (d : UInt8) : data.getD j d = d := by
  rw [List.getD_eq_getElem?_getD, List.getElem?_eq_none hj, Option.getD_none]

lemma DataAt.outside (h : DataAt data b behind) {j : ℕ} (hj : data.length ≤ j) :
    b (42 + j) = behind (42 + j) := by
  rw [h.bytes, getD_outside hj]

/-- **When the copy is the data.** -/
lemma DataAt.copied_iff (h : DataAt data b behind) (hfirst : FirstZero b 42 k)
    (hk : 42 + k < bufferEnd) :
    (∀ j, copied b 42 k j = data.getD j 0) ↔ Delimited data behind bufferEnd := by
  have hshort := h.short
  constructor
  · intro heq
    rcases Nat.lt_or_ge 512 k with hlong | hle
    · -- Nothing is copied, so that there are no data.
      have hnone (j : ℕ) : data.getD j 0 = 0 := by
        rw [← heq j]
        exact if_neg (by omega)
      have hnil : data = [] := by
        by_contra hne
        have hpos := List.length_pos_iff.2 hne
        exact hfirst.2 0 (by omega) ((h.inside hpos).trans (hnone 0))
      subst hnil
      refine .inr (.inr ⟨rfl, k, hlong, hk, ?_, fun j hj => ?_⟩)
      · rw [← h.outside (Nat.zero_le k)]
        exact hfirst.1
      · rw [← h.outside (Nat.zero_le j)]
        exact hfirst.2 j hj
    · rcases Nat.lt_trichotomy k data.length with hlt | rfl | hgt
      · refine .inl ⟨k, hlt, fun j hj => ?_, fun j hj => ?_⟩
        · rw [← h.inside (by omega)]
          exact hfirst.2 j hj
        · rw [← heq j]
          exact if_neg (by omega)
      · refine .inr (.inl ⟨fun j hj => ?_, ?_⟩)
        · rw [← h.inside hj]
          exact hfirst.2 j hj
        · rw [← h.outside le_rfl]
          exact hfirst.1
      · -- A byte from behind the frame is copied.
        have hcopy : copied b 42 k data.length = b (42 + data.length) := if_pos ⟨hle, hgt⟩
        exact absurd ((hcopy.symm.trans (heq _)).trans (getD_outside le_rfl 0))
          (hfirst.2 _ hgt)
  · intro hdata j
    have hsame : ∀ i ≤ 512, (∀ j < i, data.getD j 0 ≠ 0) → (∀ j ≥ i, data.getD j 0 = 0) →
        i ≤ data.length → k = i → copied b 42 k j = data.getD j 0 := by
      rintro i hi - hzero hlen rfl
      rcases Nat.lt_or_ge j k with hj | hj
      · rw [copied, if_pos ⟨hi, hj⟩]
        exact h.inside (by omega)
      · rw [hzero j hj]
        exact if_neg (by omega)
    rcases hdata with ⟨i, hi, hne, hzero⟩ | ⟨hne, hzero⟩ | ⟨rfl, i, hi, -, hzero⟩
    · refine hsame i (by omega) hne hzero hi.le (le_antisymm (hfirst.le ?_) ?_)
      · rw [h.inside hi]
        exact hzero i le_rfl
      · by_contra hlt
        exact hne k (by omega) ((h.inside (by omega)).symm.trans hfirst.1)
    · refine hsame data.length hshort hne (fun j hj => getD_outside hj 0) le_rfl
        (le_antisymm (hfirst.le ?_) ?_)
      · rw [h.outside le_rfl]
        exact hzero
      · by_contra hlt
        exact hne k (by omega) ((h.inside (by omega)).symm.trans hfirst.1)
    · have hki : i ≤ k := hzero.le ((h.outside (Nat.zero_le k)).symm.trans hfirst.1)
      rw [getD_outside (Nat.zero_le j)]
      exact if_neg (by omega)

lemma Delimited.zero (h : DataAt data b behind) (hend : 8192 ≤ bufferEnd)
    (hd : Delimited data behind bufferEnd) : ∃ k, 42 + k < bufferEnd ∧ b (42 + k) = 0 := by
  have hshort := h.short
  rcases hd with ⟨i, hi, -, hzero⟩ | ⟨-, hzero⟩ | ⟨rfl, i, -, hi, hzero⟩
  · exact ⟨i, by omega, (h.inside hi).trans (hzero i le_rfl)⟩
  · exact ⟨data.length, by omega, (h.outside le_rfl).trans hzero⟩
  · exact ⟨i, hi, (h.outside (Nat.zero_le i)).trans hzero.1⟩

/-- **When the UDP handler stores the data.** -/
lemma DataAt.stored_iff {t : NetState} (h : DataAt data t.frame behind) {size : ℤ}
    {sport dport : UInt16} (hsport : netHalf t.frame 34 = sport)
    (hdport : netHalf t.frame 36 = dport) :
    (∃ payload, firstStored (networkHandleUdp 34 size t).events = some (sport, dport, payload) ∧
      ∀ j, payload j = data.getD j 0) ↔ Delimited data behind t.bufferEnd := by
  by_cases hzero : ∃ k, 42 + k < t.bufferEnd ∧ t.frame (42 + k) = 0
  · obtain ⟨i, hi, hzero⟩ := hzero
    obtain ⟨k, hk, hfirst⟩ := exists_firstZero hzero
    have hstored : firstStored (networkHandleUdp 34 size t).events =
        some (sport, dport, copied t.frame 42 k) := by
      rw [networkHandleUdp_run (p := 34) hfirst (by omega), Outcome.behind_events,
        List.append_assoc, firstStored_append, List.singleton_append]
      · show some (netHalf t.frame 34, netHalf t.frame 36, copied t.frame 42 k) = _
        rw [hsport, hdport]
      · intro x hx
        simp only [copyEvents, List.mem_append, List.mem_cons, List.not_mem_nil, or_false] at hx
        rcases hx with (rfl | rfl) | ((rfl | rfl) | hx) | rfl
        · rfl
        · rfl
        · rfl
        · rfl
        · split_ifs at hx
          · simp only [List.mem_cons, List.not_mem_nil, or_false] at hx
            rcases hx with rfl | rfl | rfl | rfl <;> rfl
          · cases hx
        · rfl
    rw [hstored, ← h.copied_iff hfirst (by omega)]
    constructor
    · rintro ⟨payload, heq, hpayload⟩
      obtain ⟨-, -, rfl⟩ : sport = sport ∧ dport = dport ∧ copied t.frame 42 k = payload := by
        simpa using heq
      exact hpayload
    · intro hcopy
      exact ⟨_, rfl, hcopy⟩
  · refine iff_of_false ?_ fun hd => hzero (hd.zero h t.mapped)
    rintro ⟨payload, heq, -⟩
    rw [networkHandleUdp_fault fun k hk h0 => hzero ⟨k, hk, h0⟩] at heq
    cases heq

end Stored

/-- A host that takes frames, with this frame in its receive buffer. -/
def NetState.withFrame (host : NetState) (frame : List UInt8) (behind : ℕ → UInt8) : NetState :=
  { host with frame := putBytes behind 0 frame }

section RoundTrip

variable {macSrc macDst : Mac} {source target : Ipv4} {sport dport : UInt16} {data : List UInt8}

lemma roundTrips_iff (hn : data.length ≤ 512) (host : NetState) (hon : host.initialized = TRUE)
    (hlocked : host.locked ≠ TRUE) (behind : ℕ → UInt8) :
    RoundTrips macSrc source target macDst sport dport data
        (udpFrame macSrc source target macDst sport dport data)
        (networkOnReceiving (udpFrame macSrc source target macDst sport dport data).length
          (host.withFrame (udpFrame macSrc source target macDst sport dport data) behind)) ↔
      Delimited data behind host.bufferEnd := by
  set frame := udpFrame macSrc source target macDst sport dport data with hframe
  set t := host.withFrame frame behind with ht
  have hb : t.frame = received macSrc source target macDst sport dport data behind := rfl
  have hlen : frame.length = 42 + data.length := by
    simp [hframe, udpFrame, etherHeader, ipHeaderSummed, ipHeader, udpHeader, halfBytes]
    omega
  have hreceiving : Receiving t frame.length := by
    refine ⟨hon, hlocked, by omega, ?_⟩
    rw [hlen, E1000_DEFAULT_BUFFER_SIZE]
    omega
  obtain ⟨size, hstate, hevents⟩ := networkOnReceiving_udp hreceiving
    (by rw [hb]; exact received_isUdpFrame hn)
  have hdata : DataAt data t.frame behind := ⟨hn, fun j => received_data j⟩
  have hstored : (∃ payload,
      firstStored (networkHandleUdp 34 size (withCaller (withCallerMac t) 14)).events =
        some (sport, dport, payload) ∧ ∀ j, payload j = data.getD j 0) ↔
      Delimited data behind host.bufferEnd :=
    hdata.stored_iff (t := withCaller (withCallerMac t) 14) received_sport received_dport
  have hcaller := keeps_networkHandleUdp 34 size (withCaller (withCallerMac t) 14)
  rw [← hstate] at hcaller
  rw [← hevents] at hstored
  constructor
  · intro h
    exact hstored.1 h.stored
  · intro h
    exact
      { checksum := ipHeaderSummed_verifies _ source target
        ipLength := received_ipLength hn
        udpLength := received_udpLength hn
        macDst := rfl
        target := rfl
        callerMac := (congrArg Prod.fst hcaller).trans received_macSrc
        callerIpv4 := (congrArg Prod.snd hcaller).trans received_source
        stored := hstored.2 h }

/-- **When a UDP payload makes the round trip.**  What the sender builds verifies and states its
lengths for every payload; the host that receives the frame stores the payload exactly when a zero
byte delimits it. -/
theorem udp_round_trip {sender : NetState} {nic : Nic} (hnic : sender.currentNIC = some nic)
    {frame : List UInt8} (hn : data.length ≤ 512)
    (hsent : .sent frame ∈ (networkSendUdp source target macDst sport dport data sender).events)
    (host : NetState) (hon : host.initialized = TRUE) (hlocked : host.locked ≠ TRUE)
    (behind : ℕ → UInt8) :
    RoundTrips nic.macAddress source target macDst sport dport data frame
        (networkOnReceiving frame.length (host.withFrame frame behind)) ↔
      Delimited data behind host.bufferEnd := by
  obtain rfl := sent_udpFrame hnic hsent
  exact roundTrips_iff hn host hon hlocked behind

end RoundTrip

/-- A host whose device can send. -/
def NetState.sender : NetState where
  __ := NetState.host fun _ => 0
  currentNIC := some
    { magic := 1234
      initialized := TRUE
      macAddress := ![2, 0, 0, 0, 0, 1]
      ipAddress := fun _ => 0
      txCur := 0
      txBuffersVirt := fun _ => 1 }

/-- The letter A makes the round trip. -/
theorem udp_round_trip_letter :
    RoundTrips ![2, 0, 0, 0, 0, 1] ![10, 0, 0, 1] ![10, 0, 0, 2] ![2, 0, 0, 0, 0, 2] 5000 34884 [65]
      (udpFrame ![2, 0, 0, 0, 0, 1] ![10, 0, 0, 1] ![10, 0, 0, 2] ![2, 0, 0, 0, 0, 2] 5000 34884 [65])
      (networkOnReceiving 43 ((NetState.host fun _ => 0).withFrame
        (udpFrame ![2, 0, 0, 0, 0, 1] ![10, 0, 0, 1] ![10, 0, 0, 2] ![2, 0, 0, 0, 0, 2] 5000 34884
          [65]) fun _ => 0)) :=
  (udp_round_trip (show NetState.sender.currentNIC = some _ from rfl) (by decide)
    (List.mem_singleton.2 rfl)
    (NetState.host fun _ => 0) rfl (by decide) fun _ => 0).2
    (.inr (.inl ⟨by decide, rfl⟩))

/-- A zero byte and the letter A do not. -/
theorem udp_round_trip_zero :
    ¬∀ (sender host : NetState) (nic : Nic) (source target : Ipv4) (macDst : Mac)
      (sport dport : UInt16) (data frame : List UInt8) (behind : ℕ → UInt8),
      sender.currentNIC = some nic → data.length ≤ 512 →
      .sent frame ∈ (networkSendUdp source target macDst sport dport data sender).events →
      host.initialized = TRUE → host.locked ≠ TRUE →
      RoundTrips nic.macAddress source target macDst sport dport data frame
        (networkOnReceiving frame.length (host.withFrame frame behind)) := by
  intro h
  have hround := h .sender (.host fun _ => 0) _ ![10, 0, 0, 1] ![10, 0, 0, 2] ![2, 0, 0, 0, 0, 2]
    5000 34884 [0, 65] _ (fun _ => 0) rfl (by decide) (List.mem_singleton.2 rfl) rfl (by decide)
  rw [roundTrips_iff (by decide) _ rfl (by decide)] at hround
  rcases hround with ⟨k, hk, hbefore, hafter⟩ | ⟨hbytes, -⟩ | ⟨hnil, -⟩
  · rcases Nat.eq_zero_or_pos k with rfl | hpos
    · exact absurd (hafter 1 (by decide)) (by decide)
    · exact hbefore 0 hpos rfl
  · exact hbytes 0 (by decide) rfl
  · cases hnil

end Gramado
