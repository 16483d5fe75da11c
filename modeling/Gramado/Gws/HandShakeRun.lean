import Gramado.Gws.HandShake

/-!
# Runs of the hand-shake

Any number of clients and the server take their turns in any order.

* `Phase` — where a connection is: what the client and the server are at, what the buffer and the action
  word hold, and how far the histories have come.
* `handshake_run` — every request is processed once and in order, every call gets the answer to its own
  request, and a polling client finds its request pending or the outcome waiting for it.
* `handshake_exits` — the server can always come to an action on which the client's loop ends, other than
  for a `gws_set_text` that was answered; that one never ends.
-/

namespace Gramado.Gws

open Simulation
open Pipe (ACTION_NULL)

/-! ## Messages -/

@[simp] lemma Message.packet_length (b : Message) : b.packet.length = 512 := firstBytes_length _ _

/-- A field of a message is made of its bytes. -/
lemma getLong_of_packet {b b' : Message} (h : b.packet = b'.packet) {k : ℕ} (hk : k < 64) :
    getLong b k = getLong b' k := by
  have hbyte {i : ℕ} (hi : i < 512) : b i = b' i := by
    have hmap : (List.range 512).map b = (List.range 512).map b' := h
    exact List.map_inj_left.1 hmap i (List.mem_range.2 hi)
  have hbytes : getBytes b (8 * k) 8 = getBytes b' (8 * k) 8 := by
    refine List.map_inj_left.2 fun j hj => hbyte ?_
    have hj := List.mem_range.1 hj
    omega
  rw [getLong, getLong, hbytes]

/-- A whole message is read. -/
lemma packet_copyFront (b : Message) {bytes : List UInt8} (h : bytes.length = 512) :
    Message.packet (copyFront b bytes) = bytes := by
  have hcopy := bytesOf_copyFront b bytes
  rw [h] at hcopy
  exact hcopy

/-! ## The codes -/

/-- A request without an answer was not one for which the server always makes one. -/
lemma GwsFunction.poll_null {f : GwsFunction} (h : (f.code : ℤ) ∉ replyCodes) :
    f.poll ACTION_NULL = some .done ∨ f.poll ACTION_NULL = some .fail := by
  cases f <;> first | exact absurd (by decide) h | decide

/-- Behind an answer, every loop but that of `gws_set_text` ends. -/
lemma GwsFunction.poll_reply {f : GwsFunction} (h : (f.code : ℤ) ∉ noReplyCodes) :
    f.poll ACTION_REPLY = some .respond ∨ f = .setText := by
  cases f <;> first | exact absurd (by decide) h | decide

lemma GwsFunction.poll_request (f : GwsFunction) : f.poll ACTION_REQUEST = none := by
  cases f <;> decide

lemma GwsFunction.toInt32_code (f : GwsFunction) : toInt32 f.code = f.code := by
  cases f <;> decide

lemma GwsFunction.code_ne_zero (f : GwsFunction) : f.code ≠ 0 := by
  cases f <;> decide

section Process

variable {σ : Type} (service : ℤ → ServerData σ → ServerData σ)

/-- **What `dispacher` does with the request of a call**: whether there is an answer depends on the code, or
else on `NoReply`. -/
lemma processRequest_cases {d : ServerData σ} {f : GwsFunction} (hcode : getLong d.buffer 1 = f.code) :
    (∃ d', processRequest service d = (.setNull, d', none) ∧ (f.code : ℤ) ∉ replyCodes) ∨
      ∃ d' m, processRequest service d = (.send m, d', some m) ∧ (f.code : ℤ) ∉ noReplyCodes := by
  have hstatus : ((gwsProcedure service f.code d).2.noReply = TRUE → (f.code : ℤ) ∉ replyCodes) ∧
      ((gwsProcedure service f.code d).2.noReply ≠ TRUE → (f.code : ℤ) ∉ noReplyCodes) := by
    unfold gwsProcedure
    by_cases hreply : (f.code : ℤ) ∈ replyCodes
    · rw [if_pos hreply]
      exact ⟨fun h => absurd h (by decide : FALSE ≠ TRUE), fun _ => by cases f <;> revert hreply <;> decide⟩
    rw [if_neg hreply]
    refine ⟨fun _ => hreply, fun hne hno => hne ?_⟩
    rw [if_pos hno]
  rw [processRequest, hcode, f.toInt32_code]
  dsimp only
  by_cases hno : (gwsProcedure service f.code d).2.noReply = TRUE
  · rw [if_pos hno]
    exact .inl ⟨_, rfl, hstatus.1 hno⟩
  · rw [if_neg hno]
    exact .inr ⟨_, _, rfl, hstatus.2 hno⟩

end Process

/-! ## The phases of a connection -/

/-- The call got what the server made of its request. -/
def Reported (call : GwsCall × CallResult) (request : List UInt8 × Option (List UInt8)) : Prop :=
  request.1 = call.1.message.packet ∧
    match request.2 with
    | some answer => call.2 = .answered answer
    | none => call.1.function.poll ACTION_NULL = some .done ∧ call.2 = .done ∨
        call.1.function.poll ACTION_NULL = some .fail ∧ call.2 = .failed

lemma reported_silent {c : GwsCall} {r : CallResult}
    (h : c.function.poll ACTION_NULL = some .done ∧ r = .done ∨
      c.function.poll ACTION_NULL = some .fail ∧ r = .failed) : Reported (c, r) (c.message.packet, none) := by
  simp only [Reported, true_and]
  exact h

lemma reported_answered (c : GwsCall) (answer : List UInt8) :
    Reported (c, .answered answer) (c.message.packet, some answer) := by
  simp only [Reported, and_self]

/-- The client is about to send a request, or has done with one. -/
def ClientPc.Quiet : ClientPc → Prop
  | .idle | .send _ _ | .setNull => True
  | _ => False

/-- The server has not looked at the action word yet. -/
def Waits (d : Option DispatchPc) : Prop := d = none ∨ d = some .getAction

lemma waits_some {pc : DispatchPc} (h : Waits (some pc)) : pc = .getAction := by
  rcases h with h | h
  · cases h
  · exact Option.some.inj h

/-- **Where a connection is**: the client, `dispacher`, the file structure, and the histories. -/
inductive Phase (buffer : Message) : ClientPc → Option DispatchPc → OpenFile → List (List UInt8) →
    List (List UInt8 × Option (List UInt8)) → List (GwsCall × CallResult) → Prop
  /-- There is no request. -/
  | quiet {pc d f S R} (hpc : pc.Quiet) (hd : Waits d) (hf : SocketEmpty f)
      (ha : f.file.sync.action ≠ ACTION_REQUEST) (hR : List.Forall₂ Reported R S) :
      Phase buffer pc d f (S.map Prod.fst) S R
  /-- The request is in the buffer. -/
  | written {c d f S R} (hd : Waits d) (hf : SocketHolds f c.message.packet)
      (ha : f.file.sync.action ≠ ACTION_REQUEST) (hR : List.Forall₂ Reported R S) :
      Phase buffer (.setRequest c) d f (S.map Prod.fst ++ [c.message.packet]) S R
  /-- It is announced. -/
  | posted {c d f S R} (hd : Waits d ∨ d = some .read) (hf : SocketHolds f c.message.packet)
      (ha : f.file.sync.action = ACTION_REQUEST) (hR : List.Forall₂ Reported R S) :
      Phase buffer (.poll c) d f (S.map Prod.fst ++ [c.message.packet]) S R
  /-- The server has it. -/
  | taken {c f S R} (hb : buffer.packet = c.message.packet) (hf : SocketEmpty f)
      (ha : f.file.sync.action = ACTION_REQUEST) (hR : List.Forall₂ Reported R S) :
      Phase buffer (.poll c) (some .process) f (S.map Prod.fst ++ [c.message.packet]) S R
  /-- It is processed, and there is no answer. -/
  | silent {c f S R} (hcode : (c.function.code : ℤ) ∉ replyCodes) (hf : SocketEmpty f)
      (ha : f.file.sync.action = ACTION_REQUEST) (hR : List.Forall₂ Reported R S) :
      Phase buffer (.poll c) (some .setNull) f (S.map Prod.fst ++ [c.message.packet])
        (S ++ [(c.message.packet, none)]) R
  /-- It is processed, and there is an answer. -/
  | answering {c m f S R} (hcode : (c.function.code : ℤ) ∉ noReplyCodes) (hf : SocketEmpty f)
      (ha : f.file.sync.action = ACTION_REQUEST) (hR : List.Forall₂ Reported R S) :
      Phase buffer (.poll c) (some (.send m)) f (S.map Prod.fst ++ [c.message.packet])
        (S ++ [(c.message.packet, some m.packet)]) R
  /-- The answer is in the buffer. -/
  | answered {c f S R} {m : Message} (hcode : (c.function.code : ℤ) ∉ noReplyCodes)
      (hf : SocketHolds f m.packet) (ha : f.file.sync.action = ACTION_REQUEST)
      (hR : List.Forall₂ Reported R S) :
      Phase buffer (.poll c) (some .setReply) f (S.map Prod.fst ++ [c.message.packet])
        (S ++ [(c.message.packet, some m.packet)]) R
  /-- The client is told that there is no answer. -/
  | released {c d f S R} (hcode : (c.function.code : ℤ) ∉ replyCodes) (hd : Waits d) (hf : SocketEmpty f)
      (ha : f.file.sync.action = ACTION_NULL) (hR : List.Forall₂ Reported R S) :
      Phase buffer (.poll c) d f (S.map Prod.fst ++ [c.message.packet])
        (S ++ [(c.message.packet, none)]) R
  /-- It is told that there is one. -/
  | replied {c d f S R} {m : Message} (hcode : (c.function.code : ℤ) ∉ noReplyCodes) (hd : Waits d)
      (hf : SocketHolds f m.packet) (ha : f.file.sync.action = ACTION_REPLY) (hR : List.Forall₂ Reported R S) :
      Phase buffer (.poll c) d f (S.map Prod.fst ++ [c.message.packet])
        (S ++ [(c.message.packet, some m.packet)]) R
  /-- It is about to receive it. -/
  | receiving {c d f S R} {m : Message} (hd : Waits d) (hf : SocketHolds f m.packet)
      (ha : f.file.sync.action = ACTION_REPLY) (hR : List.Forall₂ Reported R S) :
      Phase buffer (.receive c) d f (S.map Prod.fst ++ [c.message.packet])
        (S ++ [(c.message.packet, some m.packet)]) R

namespace Phase

variable {b : Message} {pc : ClientPc} {d : Option DispatchPc} {f : OpenFile} {A : List (List UInt8)}
  {S : List (List UInt8 × Option (List UInt8))} {R : List (GwsCall × CallResult)} {c : GwsCall}

/-- The file is a socket in every phase. -/
lemma socket (h : Phase b pc d f A S R) : SocketFile f.file := by
  cases h with
  | quiet hpc hd hf ha hR => exact hf.socket
  | written hd hf ha hR => exact hf.socket
  | posted hd hf ha hR => exact hf.socket
  | taken hb hf ha hR => exact hf.socket
  | silent hcode hf ha hR => exact hf.socket
  | answering hcode hf ha hR => exact hf.socket
  | answered hcode hf ha hR => exact hf.socket
  | released hcode hd hf ha hR => exact hf.socket
  | replied hcode hd hf ha hR => exact hf.socket
  | receiving hd hf ha hR => exact hf.socket

/-- The buffer matters to the connection only that the server is at. -/
lemma buffer (h : Phase b pc none f A S R) (b' : Message) : Phase b' pc none f A S R := by
  cases h with
  | quiet hpc hd hf ha hR => exact .quiet hpc hd hf ha hR
  | written hd hf ha hR => exact .written hd hf ha hR
  | posted hd hf ha hR => exact .posted hd hf ha hR
  | released hcode hd hf ha hR => exact .released hcode hd hf ha hR
  | replied hcode hd hf ha hR => exact .replied hcode hd hf ha hR
  | receiving hd hf ha hR => exact .receiving hd hf ha hR

/-- The server takes up the connection. -/
lemma accept (h : Phase b pc none f A S R) : Phase b pc (some .getAction) f.accepted A S R := by
  have hd : Waits (some .getAction) := .inr rfl
  cases h with
  | quiet hpc _ hf ha hR => exact .quiet hpc hd hf.accepted ha hR
  | written _ hf ha hR => exact .written hd hf.accepted ha hR
  | posted _ hf ha hR => exact .posted (.inl hd) hf.accepted ha hR
  | released hcode _ hf ha hR => exact .released hcode hd hf.accepted ha hR
  | replied hcode _ hf ha hR => exact .replied hcode hd hf.accepted ha hR
  | receiving _ hf ha hR => exact .receiving hd hf.accepted ha hR

/-- The server looks at the action word. -/
lemma look (h : Phase b pc (some .getAction) f A S R) :
    f.file.sync.action ≠ ACTION_REQUEST ∧ Phase b pc none f A S R ∨
      f.file.sync.action = ACTION_REQUEST ∧ Phase b pc (some .read) f A S R := by
  have hd : Waits none := .inl rfl
  cases h with
  | quiet hpc _ hf ha hR => exact .inl ⟨ha, .quiet hpc hd hf ha hR⟩
  | written _ hf ha hR => exact .inl ⟨ha, .written hd hf ha hR⟩
  | posted _ hf ha hR => exact .inr ⟨ha, .posted (.inr rfl) hf ha hR⟩
  | released hcode _ hf ha hR => exact .inl ⟨by rw [ha]; decide, .released hcode hd hf ha hR⟩
  | replied hcode _ hf ha hR => exact .inl ⟨by rw [ha]; decide, .replied hcode hd hf ha hR⟩
  | receiving _ hf ha hR => exact .inl ⟨by rw [ha]; decide, .receiving hd hf ha hR⟩

end Phase

/-! ## The invariant -/

section Invariant

variable {ι σ : Type} [DecidableEq ι]

/-- What `dispacher` is at, for the connection `i`. -/
def HandShake.at (s : HandShake ι σ) (i : ι) : Option DispatchPc :=
  s.current.bind fun c => if c.1 = i then some c.2 else none

lemma HandShake.at_current {s : HandShake ι σ} {i : ι} {pc : DispatchPc} (h : s.current = some (i, pc)) :
    s.at i = some pc := by
  rw [HandShake.at, h, Option.bind_some, if_pos rfl]

lemma HandShake.at_other {s : HandShake ι σ} {i j : ι} {pc : DispatchPc} (h : s.current = some (i, pc))
    (hj : j ≠ i) : s.at j = none := by
  rw [HandShake.at, h, Option.bind_some, if_neg (Ne.symm hj)]

lemma HandShake.at_none {s : HandShake ι σ} (h : s.current = none) (i : ι) : s.at i = none := by
  rw [HandShake.at, h, Option.bind_none]

variable (P : Parties ι)

/-- The phase of the connection `i`. -/
def InPhase (s : HandShake ι σ) (i : ι) : Prop :=
  Phase s.data.buffer (s.client i) (s.at i) (s.io.files (P.file i)) (s.asked i) (s.served i) (s.returned i)

/-- **The invariant of the hand-shake.** -/
structure HandInv (s : HandShake ι σ) : Prop where
  process : ∃ p, s.io.processList P.server.pid.toNat = some p ∧ p.used = TRUE ∧ p.magic = 1234
  server : ∀ i pc, s.current = some (i, pc) → NamesFile s.io P.server 31 (P.file i)
  client : ∀ i, NamesFile s.io (P.client i) (P.fd i) (P.file i)
  phase : ∀ i, InPhase P s i

variable {P} {s s' : HandShake ι σ} {i : ι}

/-- **A turn for one connection** leaves the other ones as they are. -/
lemma HandInv.turn (h : HandInv P s) {f : OpenFile} (hio : s'.io = s.io.setFile (P.file i) f)
    (hcurrent : s'.current = s.current ∧ s'.data = s.data ∨ (∃ pc, s.current = some (i, pc)) ∧
      ∀ j pc, s'.current = some (j, pc) → j = i)
    (hclient : ∀ j ≠ i, s'.client j = s.client j) (hasked : ∀ j ≠ i, s'.asked j = s.asked j)
    (hserved : ∀ j ≠ i, s'.served j = s.served j) (hreturned : ∀ j ≠ i, s'.returned j = s.returned j)
    (hphase : Phase s'.data.buffer (s'.client i) (s'.at i) f (s'.asked i) (s'.served i) (s'.returned i)) :
    HandInv P s' where
  process := by
    rw [hio]
    exact h.process
  server j pc hpc := by
    rw [hio]
    rcases hcurrent with ⟨hsame, -⟩ | ⟨⟨pc₀, hpc₀⟩, honly⟩
    · exact (h.server j pc (hsame ▸ hpc)).setFile
    · obtain rfl := honly j pc hpc
      exact (h.server _ pc₀ hpc₀).setFile
  client j := by
    rw [hio]
    exact (h.client j).setFile
  phase j := by
    by_cases hj : j = i
    · subst hj
      rw [InPhase, hio, IoState.setFile_same]
      exact hphase
    · have hfile : s'.io.files (P.file j) = s.io.files (P.file j) := by
        rw [hio]
        exact IoState.setFile_of_ne _ _ fun hfile => hj (P.file_injective hfile)
      have hold := h.phase j
      rw [InPhase, hfile, hclient j hj, hasked j hj, hserved j hj, hreturned j hj]
      rcases hcurrent with ⟨hsame, hdata⟩ | ⟨⟨pc₀, hpc₀⟩, honly⟩
      · have hat : s'.at j = s.at j := by rw [HandShake.at, HandShake.at, hsame]
        rw [hat, hdata]
        exact hold
      · rw [InPhase, HandShake.at_other hpc₀ hj] at hold
        have hat : s'.at j = none := by
          cases hc : s'.current with
          | none => exact HandShake.at_none hc j
          | some c =>
              obtain ⟨k, pc⟩ := c
              obtain rfl := honly k pc hc
              exact HandShake.at_other hc hj
        rw [hat]
        exact hold.buffer _

/-! ## A client's turn -/

variable (consoleWrite : UserBytes → ℤ → Except Fault ℤ)

/-- Nothing but what the client is at, and what is recorded of it. -/
lemma HandInv.move (h : HandInv P s) {pc : ClientPc} {R : List (GwsCall × CallResult)}
    (hphase : Phase s.data.buffer pc (s.at i) (s.io.files (P.file i)) (s.asked i) (s.served i) R) :
    HandInv P { s with
      client := Function.update s.client i pc
      returned := Function.update s.returned i R } := by
  refine h.turn (i := i) (f := s.io.files (P.file i)) (IoState.setFile_self _ _).symm (.inl ⟨rfl, rfl⟩)
    (fun j hj => Function.update_of_ne hj ..) (fun _ _ => rfl) (fun _ _ => rfl)
    (fun j hj => Function.update_of_ne hj ..) ?_
  simp only [Function.update_self]
  exact hphase

/-- A client goes on elsewhere. -/
lemma HandInv.setClient (h : HandInv P s) {pc : ClientPc}
    (hphase : Phase s.data.buffer pc (s.at i) (s.io.files (P.file i)) (s.asked i) (s.served i)
      (s.returned i)) : HandInv P (s.setClient i pc) := by
  have hmove := h.move hphase
  rw [Function.update_eq_self] at hmove
  exact hmove

/-- A client goes on elsewhere, and has changed its file. -/
lemma HandInv.setFile (h : HandInv P s) {pc : ClientPc} {f : OpenFile}
    (hphase : Phase s.data.buffer pc (s.at i) f (s.asked i) (s.served i) (s.returned i)) :
    HandInv P { (s.setClient i pc) with io := s.io.setFile (P.file i) f } := by
  refine h.turn (i := i) rfl (.inl ⟨rfl, rfl⟩) (fun j hj => Function.update_of_ne hj ..) (fun _ _ => rfl)
    (fun _ _ => rfl) (fun _ _ => rfl) ?_
  simp only [HandShake.setClient, Function.update_self]
  exact hphase

/-- **A client's turn** comes to its end and keeps the invariant. -/
lemma HandInv.clientTurn (h : HandInv P s) (i : ι) :
    ∃ s', Gws.clientTurn consoleWrite P i s = .ok s' ∧ HandInv P s' := by
  have hopens := h.client i
  have hphase := h.phase i
  rw [InPhase] at hphase
  have hsocket := hphase.socket
  have hset (v : ℤ) := hopens.setSync hsocket v
  have hget := hopens.getSync hsocket
  -- a client polls as long as its request is announced
  have hstays {c : GwsCall} (hpoll : s.client i = .poll c)
      (ha : (s.io.files (P.file i)).file.sync.action = ACTION_REQUEST) :
      Gws.clientTurn consoleWrite P i s = .ok s := by
    rw [Gws.clientTurn, hpoll]
    dsimp only
    rw [hget, ha, c.function.poll_request]
  generalize hpc : s.client i = pc at hphase
  generalize hat : s.at i = d at hphase
  generalize hA : s.asked i = A at hphase
  generalize hS : s.served i = S at hphase
  generalize hR : s.returned i = R at hphase
  cases hphase with
  | quiet hquiet hd hf ha hT =>
      cases pc with
      | idle => exact ⟨s, by rw [Gws.clientTurn, hpc], h⟩
      | send c tries =>
          obtain ⟨f, hwrite, hholds, hsync⟩ := hopens.write consoleWrite hf c.message
          refine ⟨_, by rw [Gws.clientTurn, hpc]; dsimp only; rw [hwrite]; dsimp only; rw [if_pos (by decide)], ?_⟩
          refine h.turn (i := i) rfl (.inl ⟨rfl, rfl⟩) (fun j hj => Function.update_of_ne hj ..)
            (fun j hj => Function.update_of_ne hj ..) (fun _ _ => rfl) (fun _ _ => rfl) ?_
          simp only [HandShake.setClient, Function.update_self, hA, hS, hR]
          change Phase s.data.buffer _ (s.at i) f _ _ _
          rw [hat]
          exact .written hd hholds (by rw [hsync]; exact ha) hT
      | setNull =>
          refine ⟨_, by rw [Gws.clientTurn, hpc], ?_⟩
          rw [hset]
          refine h.setFile ?_
          rw [hat, hA, hS, hR]
          exact .quiet trivial hd hf.setAction (show ACTION_NULL ≠ ACTION_REQUEST by decide) hT
      | setRequest c => exact hquiet.elim
      | poll c => exact hquiet.elim
      | receive c => exact hquiet.elim
      | exited => exact hquiet.elim
  | @written c _ _ _ _ hd hf ha hT =>
      refine ⟨_, by rw [Gws.clientTurn, hpc], ?_⟩
      rw [hset]
      refine h.setFile ?_
      rw [hat, hA, hS, hR]
      exact .posted (.inl hd) hf.setAction rfl hT
  | posted hd hf ha hT => exact ⟨s, hstays hpc ha, h⟩
  | taken hb hf ha hT => exact ⟨s, hstays hpc ha, h⟩
  | silent hcode hf ha hT => exact ⟨s, hstays hpc ha, h⟩
  | answering hcode hf ha hT => exact ⟨s, hstays hpc ha, h⟩
  | answered hcode hf ha hT => exact ⟨s, hstays hpc ha, h⟩
  | @released c _ _ S _ hcode hd hf ha hT =>
      have hne : (s.io.files (P.file i)).file.sync.action ≠ ACTION_REQUEST := by
        rw [ha]
        decide
      have hasked : S.map Prod.fst ++ [c.message.packet] = (S ++ [(c.message.packet, none)]).map Prod.fst := by
        rw [List.map_append, List.map_singleton]
      -- the loop ends, and the outcome is recorded
      have hends (r : CallResult) (hr : Reported (c, r) (c.message.packet, none)) :
          HandInv P ((s.record i c r).setClient i .setNull) := by
        refine h.move (i := i) ?_
        rw [hat, hA, hS, hR, hasked]
        exact .quiet trivial hd hf hne (List.rel_append hT (.cons hr .nil))
      rcases GwsFunction.poll_null hcode with hpoll | hpoll
      · refine ⟨_, ?_, hends .done (reported_silent (.inl ⟨hpoll, rfl⟩))⟩
        rw [Gws.clientTurn, hpc]
        dsimp only
        rw [hget, ha, hpoll]
      · refine ⟨_, ?_, hends .failed (reported_silent (.inr ⟨hpoll, rfl⟩))⟩
        rw [Gws.clientTurn, hpc]
        dsimp only
        rw [hget, ha, hpoll]
  | @replied c _ _ _ _ m hcode hd hf ha hT =>
      cases hpoll : c.function.poll ACTION_REPLY with
      | none =>
          refine ⟨s, ?_, h⟩
          rw [Gws.clientTurn, hpc]
          dsimp only
          rw [hget, ha, hpoll]
      | some e =>
          obtain rfl : e = .respond := by
            rcases GwsFunction.poll_reply hcode with hrespond | hset
            · exact Option.some.inj (hpoll.symm.trans hrespond)
            · rw [hset] at hpoll
              cases hpoll
          refine ⟨_, by rw [Gws.clientTurn, hpc]; dsimp only; rw [hget, ha, hpoll], ?_⟩
          refine h.setClient ?_
          rw [hat, hA, hS, hR]
          exact .receiving hd hf ha hT
  | @receiving c _ _ S _ m hd hf ha hT =>
      obtain ⟨f, hread, hempty, hsync⟩ := hopens.read hf m.packet_length (P.clientBuffer_ne_null i)
      have hasked : S.map Prod.fst ++ [c.message.packet]
          = (S ++ [(c.message.packet, some m.packet)]).map Prod.fst := by
        rw [List.map_append, List.map_singleton]
      refine ⟨_, by rw [Gws.clientTurn, hpc]; dsimp only; rw [hread]; dsimp only; rw [if_pos (by decide)], ?_⟩
      refine h.turn (i := i) rfl (.inl ⟨rfl, rfl⟩) (fun j hj => Function.update_of_ne hj ..)
        (fun _ _ => rfl) (fun _ _ => rfl) (fun j hj => Function.update_of_ne hj ..) ?_
      simp only [HandShake.setClient, HandShake.record, Function.update_self, hA, hS, hR]
      change Phase s.data.buffer .setNull (s.at i) f _ _ _
      rw [hat, hasked]
      exact .quiet trivial hd hempty (by rw [hsync, ha]; decide) 
        (List.rel_append hT (.cons (reported_answered c m.packet) .nil))

/-! ## The server's turn -/

/-- How many turns `dispacher` may still take. -/
def DispatchPc.left : DispatchPc → ℕ
  | .getAction => 5
  | .read => 4
  | .process => 3
  | .send _ => 2
  | .setNull | .setReply => 1

lemma DispatchPc.left_range (pc : DispatchPc) : 1 ≤ pc.left ∧ pc.left ≤ 5 := by
  cases pc <;> simp only [DispatchPc.left] <;> omega

variable (service : ℤ → ServerData σ → ServerData σ)

/-- Nothing but what concerns the connection that `dispacher` is at. -/
lemma HandInv.serve (h : HandInv P s) {pc : DispatchPc} (hpc : s.current = some (i, pc))
    (d : Option DispatchPc) (data : ServerData σ) (f : OpenFile) (S : List (List UInt8 × Option (List UInt8)))
    (hphase : Phase data.buffer (s.client i) d f (s.asked i) S (s.returned i)) :
    HandInv P { s with
      io := s.io.setFile (P.file i) f
      current := d.map (Prod.mk i)
      data := data
      served := Function.update s.served i S } := by
  refine h.turn (i := i) rfl (.inr ⟨⟨pc, hpc⟩, fun j pc' hj => ?_⟩) (fun _ _ => rfl) (fun _ _ => rfl)
    (fun j hj => Function.update_of_ne hj ..) (fun _ _ => rfl) ?_
  · obtain ⟨pc₁, -, heq⟩ := Option.map_eq_some_iff.1 hj
    exact (congrArg Prod.fst heq).symm
  · have hat : HandShake.at { s with
        io := s.io.setFile (P.file i) f
        current := d.map (Prod.mk i)
        data := data
        served := Function.update s.served i S } i = d := by
      cases d with
      | none => rfl
      | some pc' => exact if_pos rfl
    rw [hat]
    simp only [Function.update_self]
    exact hphase

/-- What a turn of `dispacher` leaves: it has come closer to its end, and when it has ended, no request is
announced. -/
def Comes (P : Parties ι) (i : ι) (pc : DispatchPc) (s s' : HandShake ι σ) : Prop :=
  HandInv P s' ∧ s'.client = s.client ∧
    (s'.current = none ∧ (s'.io.files (P.file i)).file.sync.action ≠ ACTION_REQUEST ∨
      ∃ pc', s'.current = some (i, pc') ∧ pc'.left < pc.left)

/-- It looks at the action word. -/
lemma HandInv.getAction (h : HandInv P s) (hpc : s.current = some (i, .getAction)) :
    ∃ s', Gws.dispatchTurn consoleWrite service P i .getAction s = .ok s' ∧ Comes P i .getAction s s' := by
  have hphase := h.phase i
  rw [InPhase, HandShake.at_current hpc] at hphase
  rw [Gws.dispatchTurn, (h.server i _ hpc).getSync hphase.socket]
  rcases hphase.look with ⟨hne, hnext⟩ | ⟨heq, hnext⟩
  · have hserve := h.serve hpc none { s.data with buffer := clearHead s.data.buffer } _ _
      (hnext.buffer (clearHead s.data.buffer))
    rw [IoState.setFile_self, Function.update_eq_self] at hserve
    rw [if_pos hne]
    exact ⟨_, rfl, hserve, rfl, .inl ⟨rfl, hne⟩⟩
  · have hserve := h.serve hpc (some .read) s.data _ _ hnext
    rw [IoState.setFile_self, Function.update_eq_self] at hserve
    rw [if_neg (not_not.2 heq)]
    exact ⟨_, rfl, hserve, rfl, .inr ⟨.read, rfl, by decide⟩⟩

/-- **The server's turn** comes to its end and keeps the invariant. -/
lemma HandInv.dispatchTurn (h : HandInv P s) {pc : DispatchPc} (hpc : s.current = some (i, pc)) :
    ∃ s', Gws.dispatchTurn consoleWrite service P i pc s = .ok s' ∧ Comes P i pc s s' := by
  by_cases hlook : pc = .getAction
  · subst hlook
    exact h.getAction consoleWrite service hpc
  have hbusy : ¬Waits (some pc) := fun hwaits => hlook (waits_some hwaits)
  have hopens := h.server i pc hpc
  have hphase := h.phase i
  rw [InPhase, HandShake.at_current hpc] at hphase
  have hset (v : ℤ) := hopens.setSync hphase.socket v
  generalize hc : s.client i = cpc at hphase
  generalize hA : s.asked i = A at hphase
  generalize hS : s.served i = S at hphase
  generalize hR : s.returned i = R at hphase
  generalize hd : some pc = d at hphase
  cases hphase with
  | quiet hquiet hw hf ha hT => exact absurd (hd ▸ hw) hbusy
  | written hw hf ha hT => exact absurd (hd ▸ hw) hbusy
  | released hcode hw hf ha hT => exact absurd (hd ▸ hw) hbusy
  | replied hcode hw hf ha hT => exact absurd (hd ▸ hw) hbusy
  | receiving hw hf ha hT => exact absurd (hd ▸ hw) hbusy
  | @posted c _ _ _ _ hw hf ha hT =>
      obtain rfl : pc = .read := by
        rcases hw with hw | hw
        · exact absurd (hd ▸ hw) hbusy
        · exact Option.some.inj (hd.trans hw)
      obtain ⟨f, hread, hempty, hsync⟩ := hopens.read hf c.message.packet_length P.serverBuffer_ne_null
      have hpacket := packet_copyFront s.data.buffer c.message.packet_length
      generalize hbuffer : copyFront s.data.buffer c.message.packet = buffer at hpacket
      have hgoes : ¬((512 : ℤ) ≤ 0 ∨ getLong buffer 1 = 0) := by
        rw [getLong_of_packet hpacket (by decide), c.code]
        exact not_or.2 ⟨by decide, c.function.code_ne_zero⟩
      have hserve := h.serve hpc (some .process) { s.data with buffer := buffer } f (s.served i) (by
        rw [hc, hA, hS, hR]
        exact .taken hpacket hempty (by rw [hsync]; exact ha) hT)
      rw [Function.update_eq_self] at hserve
      rw [Gws.dispatchTurn, hread]
      dsimp only
      rw [hbuffer, if_neg hgoes]
      exact ⟨_, rfl, hserve, rfl, .inr ⟨.process, rfl, by decide⟩⟩
  | @taken c _ _ _ hb hf ha hT =>
      obtain rfl := Option.some.inj hd
      have hcode : getLong s.data.buffer 1 = c.function.code := (getLong_of_packet hb (by decide)).trans c.code
      rw [Gws.dispatchTurn, hS, hb]
      rcases processRequest_cases service hcode with ⟨d', heq, hno⟩ | ⟨d', m, heq, hno⟩
      · have hserve := h.serve hpc (some .setNull) d' (s.io.files (P.file i))
          (S ++ [(c.message.packet, none)]) (by rw [hc, hA, hR]; exact .silent hno hf ha hT)
        rw [IoState.setFile_self] at hserve
        rw [heq]
        exact ⟨_, rfl, hserve, rfl, .inr ⟨.setNull, rfl, by decide⟩⟩
      · have hserve := h.serve hpc (some (.send m)) d' (s.io.files (P.file i))
          (S ++ [(c.message.packet, some m.packet)]) (by rw [hc, hA, hR]; exact .answering hno hf ha hT)
        rw [IoState.setFile_self] at hserve
        rw [heq]
        exact ⟨_, rfl, hserve, rfl, .inr ⟨.send m, rfl, Nat.lt_succ_self 2⟩⟩
  | silent hcode hf ha hT =>
      obtain rfl := Option.some.inj hd
      have hserve := h.serve hpc none s.data ((s.io.files (P.file i)).setAction ACTION_NULL) (s.served i) (by
        rw [hc, hA, hS, hR]
        exact .released hcode (.inl rfl) hf.setAction rfl hT)
      rw [Function.update_eq_self] at hserve
      rw [Gws.dispatchTurn, hset]
      refine ⟨_, rfl, hserve, rfl, .inl ⟨rfl, ?_⟩⟩
      rw [IoState.setFile_same]
      exact (by decide : ACTION_NULL ≠ ACTION_REQUEST)
  | @answering c m _ _ _ hcode hf ha hT =>
      obtain rfl := Option.some.inj hd
      obtain ⟨f, hwrite, hholds, hsync⟩ := hopens.write consoleWrite hf m
      have hserve := h.serve hpc (some .setReply)
        { s.data with buffer := clearMessage, nextResponse := fun _ => 0 } f (s.served i) (by
          rw [hc, hA, hS, hR]
          exact .answered hcode hholds (by rw [hsync]; exact ha) hT)
      rw [Function.update_eq_self] at hserve
      rw [Gws.dispatchTurn, hwrite]
      exact ⟨_, rfl, hserve, rfl, .inr ⟨.setReply, rfl, Nat.lt_succ_self 1⟩⟩
  | answered hcode hf ha hT =>
      obtain rfl := Option.some.inj hd
      have hserve := h.serve hpc none s.data ((s.io.files (P.file i)).setAction ACTION_REPLY) (s.served i) (by
        rw [hc, hA, hS, hR]
        exact .replied hcode (.inl rfl) hf.setAction rfl hT)
      rw [Function.update_eq_self] at hserve
      rw [Gws.dispatchTurn, hset]
      refine ⟨_, rfl, hserve, rfl, .inl ⟨rfl, ?_⟩⟩
      rw [IoState.setFile_same]
      exact (by decide : ACTION_REPLY ≠ ACTION_REQUEST)

/-! ## Runs -/

/-- **The server takes up a connection.** -/
lemma HandInv.accept (h : HandInv P s) (hidle : s.current = none) (i : ι) :
    HandInv P { s with
      io := acceptFile P.server (P.file i) s.io
      current := some (i, .getAction) } := by
  obtain ⟨p, hp, hused, hmagic⟩ := h.process
  set p' : Process := { p with objects := Function.update p.objects 31 (P.file i) } with hp'
  have hserver : (acceptFile P.server (P.file i) s.io).processList P.server.pid.toNat = some p' := by
    rw [acceptFile, hp]
    exact Function.update_self ..
  have hother {j : ι} {q : Process} (hq : s.io.processList (P.client j).pid.toNat = some q) :
      (acceptFile P.server (P.file i) s.io).processList (P.client j).pid.toNat = some q := by
    have hne : (P.client j).pid.toNat ≠ P.server.pid.toNat := by
      have hdiff := P.client_ne_server j
      obtain ⟨hclient, -⟩ := P.client_pid j
      obtain ⟨hserver, -⟩ := P.server_pid
      omega
    exact (Function.update_of_ne hne ..).trans hq
  refine ⟨⟨p', hserver, hused, hmagic⟩, fun j pc hj => ?_, fun j => ?_, fun j => ?_⟩
  · obtain ⟨rfl, -⟩ := Prod.mk.inj (Option.some.inj hj)
    have hobject : p'.objects (Int.toNat 31) = P.file i :=
      Function.update_self (31 : ℕ) (P.file i) p.objects
    exact ⟨P.server_pid, by decide, P.file_ne_null _, p', hserver, hused, hmagic, hobject⟩
  · obtain ⟨hpid, hfd, hne, q, hq, hrest⟩ := h.client j
    exact ⟨hpid, hfd, hne, q, hother hq, hrest⟩
  · have hold := h.phase j
    rw [InPhase, HandShake.at_none hidle] at hold
    by_cases hj : j = i
    · subst hj
      have hfile : (acceptFile P.server (P.file j) s.io).files (P.file j) = (s.io.files (P.file j)).accepted :=
        Function.update_self ..
      rw [InPhase, HandShake.at_current rfl, hfile]
      exact hold.accept
    · have hfile : (acceptFile P.server (P.file i) s.io).files (P.file j) = s.io.files (P.file j) :=
        Function.update_of_ne (fun hfile => hj (P.file_injective hfile)) ..
      rw [InPhase, HandShake.at_other rfl hj, hfile]
      exact hold

/-- **Every step keeps the invariant.** -/
lemma HandInv.step (h : HandInv P s) {e : HandEvent ι} (hstep : HandStep consoleWrite service P s e s') :
    HandInv P s' := by
  -- a client that is not in the library may make a call
  have hcall {i : ι} {pc : ClientPc} (hidle : s.client i = .idle) (hpc : pc.Quiet) :
      HandInv P (s.setClient i pc) := by
    have hphase := h.phase i
    rw [InPhase, hidle] at hphase
    refine h.setClient ?_
    generalize hA : s.asked i = A at hphase ⊢
    cases hphase with
    | quiet _ hd hf ha hT => exact .quiet hpc hd hf ha hT
  cases hstep with
  | call c hidle => exact hcall hidle trivial
  | refuse hidle => exact hcall hidle trivial
  | @client _ i hok =>
      obtain ⟨s₁, hturn, hinv⟩ := h.clientTurn consoleWrite i
      obtain rfl := Except.ok.inj (hturn.symm.trans hok)
      exact hinv
  | accept i hidle => exact h.accept hidle i
  | @server _ i pc hpc hok =>
      obtain ⟨s₁, hturn, hinv, -⟩ := h.dispatchTurn consoleWrite service hpc
      obtain rfl := Except.ok.inj (hturn.symm.trans hok)
      exact hinv

variable (P) in
/-- The connections are made, and no request has been sent. -/
structure Ready (s : HandShake ι σ) : Prop where
  process : ∃ p, s.io.processList P.server.pid.toNat = some p ∧ p.used = TRUE ∧ p.magic = 1234
  client : ∀ i, NamesFile s.io (P.client i) (P.fd i) (P.file i)
  current : s.current = none
  idle : ∀ i, s.client i = .idle
  empty : ∀ i, SocketEmpty (s.io.files (P.file i))
  action : ∀ i, (s.io.files (P.file i)).file.sync.action ≠ ACTION_REQUEST
  history : ∀ i, s.asked i = [] ∧ s.served i = [] ∧ s.returned i = []

lemma Ready.inv (h : Ready P s) : HandInv P s where
  process := h.process
  server i pc hpc := by
    rw [h.current] at hpc
    cases hpc
  client := h.client
  phase i := by
    obtain ⟨hasked, hserved, hreturned⟩ := h.history i
    rw [InPhase, HandShake.at_none h.current, h.idle, hasked, hserved, hreturned]
    have hquiet : ClientPc.idle.Quiet := trivial
    exact .quiet hquiet (.inl rfl) (h.empty i) (h.action i) .nil

/-- The action word of the connection. -/
def HandShake.action (P : Parties ι) (s : HandShake ι σ) (i : ι) : ℤ := (s.io.files (P.file i)).file.sync.action

/-- The last request of the connection was processed, with this answer, and its call has not returned. -/
def HandShake.Outcome (s : HandShake ι σ) (i : ι) (c : GwsCall) (answer : Option (List UInt8)) : Prop :=
  ∃ told, s.served i = told ++ [(c.message.packet, answer)] ∧ List.Forall₂ Reported (s.returned i) told

/-- **What a polling client finds.**  Its request waits for the server, or is at the server; or it is told the
outcome. -/
def Polls (P : Parties ι) (s : HandShake ι σ) (i : ι) (c : GwsCall) : Prop :=
  s.action P i = ACTION_REQUEST ∧
      (SocketHolds (s.io.files (P.file i)) c.message.packet ∨ ∃ pc, s.current = some (i, pc)) ∨
    s.action P i = ACTION_NULL ∧ s.Outcome i c none ∨
    s.action P i = ACTION_REPLY ∧
      ∃ answer, SocketHolds (s.io.files (P.file i)) answer ∧ s.Outcome i c (some answer)

/-- What the invariant says of one connection. -/
lemma HandInv.sound (h : HandInv P s) (i : ι) :
    s.client i ≠ .exited ∧
      (∃ waiting, s.asked i = (s.served i).map Prod.fst ++ waiting ∧ waiting.length ≤ 1) ∧
      (∃ told rest, s.served i = told ++ rest ∧ rest.length ≤ 1 ∧ List.Forall₂ Reported (s.returned i) told) ∧
      ∀ c, s.client i = .poll c → Polls P s i c := by
  have hphase := h.phase i
  rw [InPhase] at hphase
  generalize hpc : s.client i = pc at hphase
  generalize hat : s.at i = d at hphase
  generalize hA : s.asked i = A at hphase
  generalize hS : s.served i = S at hphase
  generalize hR : s.returned i = R at hphase
  have hfst (S : List (List UInt8 × Option (List UInt8))) (q : List UInt8) (a : Option (List UInt8)) :
      ∃ waiting, S.map Prod.fst ++ [q] = (S ++ [(q, a)]).map Prod.fst ++ waiting ∧ waiting.length ≤ 1 :=
    ⟨[], by rw [List.map_append, List.append_nil, List.map_singleton], Nat.zero_le _⟩
  have hnone (S : List (List UInt8 × Option (List UInt8))) (R : List (GwsCall × CallResult))
      (hT : List.Forall₂ Reported R S) :
      ∃ told rest, S = told ++ rest ∧ rest.length ≤ 1 ∧ List.Forall₂ Reported R told :=
    ⟨S, [], (List.append_nil S).symm, Nat.zero_le _, hT⟩
  have hcurrent {p : DispatchPc} (hp : d = some p) : ∃ pc, s.current = some (i, pc) := by
    obtain ⟨⟨j, pc⟩, hc, hj⟩ := Option.bind_eq_some_iff.1 (hat.trans hp)
    by_cases hij : j = i
    · exact ⟨pc, hij ▸ hc⟩
    · rw [if_neg hij] at hj
      cases hj
  cases hphase with
  | quiet hquiet hd hf ha hT =>
      refine ⟨?_, ⟨[], (List.append_nil _).symm, Nat.zero_le _⟩, hnone _ _ hT, fun c hc => ?_⟩
      · rintro rfl
        exact hquiet
      · rw [hc] at hquiet
        exact hquiet.elim
  | written hd hf ha hT => exact ⟨by simp, ⟨_, rfl, le_rfl⟩, hnone _ _ hT, by simp⟩
  | posted hd hf ha hT =>
      refine ⟨by simp, ⟨_, rfl, le_rfl⟩, hnone _ _ hT, fun c hc => ?_⟩
      cases hc
      exact .inl ⟨ha, .inl hf⟩
  | taken hb hf ha hT =>
      refine ⟨by simp, ⟨_, rfl, le_rfl⟩, hnone _ _ hT, fun c hc => ?_⟩
      cases hc
      exact .inl ⟨ha, .inr (hcurrent rfl)⟩
  | silent hcode hf ha hT =>
      refine ⟨by simp, hfst _ _ _, ⟨_, _, rfl, le_rfl, hT⟩, fun c hc => ?_⟩
      cases hc
      exact .inl ⟨ha, .inr (hcurrent rfl)⟩
  | answering hcode hf ha hT =>
      refine ⟨by simp, hfst _ _ _, ⟨_, _, rfl, le_rfl, hT⟩, fun c hc => ?_⟩
      cases hc
      exact .inl ⟨ha, .inr (hcurrent rfl)⟩
  | answered hcode hf ha hT =>
      refine ⟨by simp, hfst _ _ _, ⟨_, _, rfl, le_rfl, hT⟩, fun c hc => ?_⟩
      cases hc
      exact .inl ⟨ha, .inr (hcurrent rfl)⟩
  | released hcode hd hf ha hT =>
      refine ⟨by simp, hfst _ _ _, ⟨_, _, rfl, le_rfl, hT⟩, fun c hc => ?_⟩
      cases hc
      exact .inr (.inl ⟨ha, _, hS, by rw [hR]; exact hT⟩)
  | replied hcode hd hf ha hT =>
      refine ⟨by simp, hfst _ _ _, ⟨_, _, rfl, le_rfl, hT⟩, fun c hc => ?_⟩
      cases hc
      exact .inr (.inr ⟨ha, _, hf, _, hS, by rw [hR]; exact hT⟩)
  | receiving hd hf ha hT => exact ⟨by simp, hfst _ _ _, ⟨_, _, rfl, le_rfl, hT⟩, by simp⟩

/-- **The hand-shake never mixes answers.**  In every run, the server processes the requests of each connection
once and in order; the calls that have returned got the outcome of their own requests, in order, and every
polling client finds its request waiting or at the server, or the outcome of this request.  No client leaves
its program. -/
theorem handshake_run (h : Ready P s) {es : List (HandEvent ι)}
    (hrun : Trace (HandStep consoleWrite service P) s es s') (i : ι) :
    s'.client i ≠ .exited ∧
      (∃ waiting, s'.asked i = (s'.served i).map Prod.fst ++ waiting ∧ waiting.length ≤ 1) ∧
      (∃ told rest, s'.served i = told ++ rest ∧ rest.length ≤ 1 ∧ List.Forall₂ Reported (s'.returned i) told) ∧
      ∀ c, s'.client i = .poll c → Polls P s' i c :=
  (hrun.keep (fun _ _ _ hinv hstep => hinv.step consoleWrite service hstep) h.inv).sound i

/-! ## The end of the polling loop -/

/-- The server works alone until `dispacher` has ended. -/
lemma HandInv.finish (h : HandInv P s) {pc : DispatchPc} (hpc : s.current = some (i, pc)) :
    ∃ es t, Trace (HandStep consoleWrite service P) s es t ∧ (∀ e ∈ es, e = .server) ∧ es.length ≤ pc.left ∧
      HandInv P t ∧ t.client = s.client ∧ t.current = none ∧ t.action P i ≠ ACTION_REQUEST := by
  induction hn : pc.left using Nat.strong_induction_on generalizing s pc with
  | h n ih =>
      subst hn
      obtain ⟨s₁, hok, h₁, hclient, ⟨hnone, hne⟩ | ⟨pc₁, hpc₁, hlt⟩⟩ := h.dispatchTurn consoleWrite service hpc
      · refine ⟨[.server], s₁, .single (.server hpc hok), by simp, pc.left_range.1, h₁, hclient, hnone,
          hne⟩
      · obtain ⟨es, t, hrun, hserver, hlength, hinv, hsame, hend⟩ := ih _ hlt h₁ hpc₁ rfl
        refine ⟨.server :: es, t, .cons (.server hpc hok) hrun, ?_, ?_, hinv, hsame.trans hclient, hend⟩
        · exact List.forall_mem_cons.2 ⟨rfl, hserver⟩
        · rw [List.length_cons]
          omega

/-- The server works alone until it has looked after the connection `i`. -/
lemma HandInv.comesTo (h : HandInv P s) (i : ι) :
    ∃ es t, Trace (HandStep consoleWrite service P) s es t ∧ (∀ e ∈ es, e = .server ∨ e = .accept i) ∧
      es.length ≤ 11 ∧ HandInv P t ∧ t.client = s.client ∧ t.action P i ≠ ACTION_REQUEST := by
  -- first it ends what it is at
  obtain ⟨es, t, hrun, hes, hlength, ht, hclient, hidle⟩ : ∃ es t,
      Trace (HandStep consoleWrite service P) s es t ∧ (∀ e ∈ es, e = .server) ∧ es.length ≤ 5 ∧
        HandInv P t ∧ t.client = s.client ∧ t.current = none := by
    cases hc : s.current with
    | none => exact ⟨[], s, .nil s, by simp, by simp, h, rfl, hc⟩
    | some c =>
        obtain ⟨j, pc⟩ := c
        obtain ⟨es, t, hrun, hes, hlength, ht, hclient, hidle, -⟩ := h.finish consoleWrite service hc
        exact ⟨es, t, hrun, hes, hlength.trans pc.left_range.2, ht, hclient, hidle⟩
  obtain ⟨fs, u, hrun', hfs, hlength', hu, hclient', -, hne⟩ :=
    (ht.accept hidle i).finish consoleWrite service (i := i) rfl
  refine ⟨es ++ .accept i :: fs, u, hrun.append (.cons (.accept i hidle) hrun'), ?_, ?_, hu,
    hclient'.trans hclient, hne⟩
  · intro e he
    rcases List.mem_append.1 he with he | he
    · exact .inl (hes e he)
    · rcases List.mem_cons.1 he with rfl | he
      · exact .inr rfl
      · exact .inl (hfs e he)
  · have hfive := DispatchPc.left_range .getAction
    rw [List.length_append, List.length_cons]
    omega

/-- A client's turn changes what concerns this client. -/
lemma clientTurn_frame {j : ι} (h : clientTurn consoleWrite P j s = .ok s') (hj : i ≠ j) :
    s'.client i = s.client i ∧ s'.served i = s.served i ∧ s'.returned i = s.returned i := by
  have hupdate {β : Type} (f : ι → β) (v : β) : Function.update f j v i = f i := Function.update_of_ne hj ..
  unfold clientTurn at h
  split at h
  · cases h
    exact ⟨rfl, rfl, rfl⟩
  · split at h
    · cases h
    · split_ifs at h <;> cases h <;> exact ⟨hupdate .., rfl, rfl⟩
  · cases h
    exact ⟨hupdate .., rfl, rfl⟩
  · split at h <;> cases h
    · exact ⟨rfl, rfl, rfl⟩
    · exact ⟨hupdate .., rfl, rfl⟩
    · exact ⟨hupdate .., rfl, hupdate ..⟩
    · exact ⟨hupdate .., rfl, hupdate ..⟩
  · split at h
    · cases h
    · split_ifs at h
      · cases h
        exact ⟨hupdate .., rfl, hupdate ..⟩
      · split at h <;> cases h
        · exact ⟨rfl, rfl, rfl⟩
        · exact ⟨hupdate .., rfl, hupdate ..⟩
        · exact ⟨hupdate .., rfl, rfl⟩
  · cases h
    exact ⟨hupdate .., rfl, rfl⟩
  · cases h
    exact ⟨rfl, rfl, rfl⟩

/-- A turn of `dispacher` leaves the clients alone, and processes a request in one place only. -/
lemma dispatchTurn_frame {j : ι} {pc : DispatchPc} (h : dispatchTurn consoleWrite service P j pc s = .ok s') :
    s'.client = s.client ∧ s'.returned = s.returned ∧ (i ≠ j ∨ pc ≠ .process → s'.served i = s.served i) := by
  cases pc with
  | getAction =>
      rw [dispatchTurn] at h
      split_ifs at h <;> cases h <;> exact ⟨rfl, rfl, fun _ => rfl⟩
  | read =>
      simp only [dispatchTurn] at h
      split at h
      · cases h
      · split_ifs at h <;> cases h <;> exact ⟨rfl, rfl, fun _ => rfl⟩
  | process =>
      rw [dispatchTurn] at h
      cases h
      exact ⟨rfl, rfl, fun hne => Function.update_of_ne (hne.resolve_right (not_not.2 rfl)) ..⟩
  | setNull =>
      rw [dispatchTurn] at h
      cases h
      exact ⟨rfl, rfl, fun _ => rfl⟩
  | send m =>
      simp only [dispatchTurn] at h
      split at h <;> cases h
      exact ⟨rfl, rfl, fun _ => rfl⟩
  | setReply =>
      rw [dispatchTurn] at h
      cases h
      exact ⟨rfl, rfl, fun _ => rfl⟩

variable {c : GwsCall} {answer : List UInt8}

/-- An answer is on its way, or waits to be received. -/
lemma Phase.onItsWay {b : Message} {d : Option DispatchPc} {f : OpenFile} {A : List (List UInt8)}
    {S told : List (List UInt8 × Option (List UInt8))} {R : List (GwsCall × CallResult)}
    (h : Phase b (.poll c) d f A S R) (hS : S = told ++ [(c.message.packet, some answer)])
    (hT : List.Forall₂ Reported R told) :
    d ≠ some .process ∧ (f.file.sync.action = ACTION_REQUEST ∨ f.file.sync.action = ACTION_REPLY) := by
  have hlength : S.length = R.length + 1 := by rw [hS, List.length_append, hT.length_eq, List.length_singleton]
  have hlast : S.getLast? = some (c.message.packet, some answer) := by rw [hS, List.getLast?_concat]
  cases h with
  | quiet hquiet hd hf ha hR => exact hquiet.elim
  | posted hd hf ha hR =>
      rw [hR.length_eq] at hlength
      omega
  | taken hb hf ha hR =>
      rw [hR.length_eq] at hlength
      omega
  | silent hcode hf ha hR =>
      rw [List.getLast?_concat] at hlast
      cases (Prod.mk.inj (Option.some.inj hlast)).2
  | answering hcode hf ha hR => exact ⟨by simp, .inl ha⟩
  | answered hcode hf ha hR => exact ⟨by simp, .inl ha⟩
  | released hcode hd hf ha hR =>
      rw [List.getLast?_concat] at hlast
      cases (Prod.mk.inj (Option.some.inj hlast)).2
  | replied hcode hd hf ha hR =>
      refine ⟨?_, .inr ha⟩
      rintro rfl
      cases waits_some hd

/-- What is said of a `gws_set_text` that was answered. -/
def Stuck (P : Parties ι) (s : HandShake ι σ) (i : ι) (c : GwsCall) (answer : List UInt8) : Prop :=
  HandInv P s ∧ s.client i = .poll c ∧ s.Outcome i c (some answer)

/-- **It never ends**: no step leads out of its polling loop. -/
lemma Stuck.step (h : Stuck P s i c answer) (hset : c.function = .setText) {e : HandEvent ι}
    (hstep : HandStep consoleWrite service P s e s') : Stuck P s' i c answer := by
  obtain ⟨hinv, hc, told, hS, hT⟩ := h
  have hphase := hinv.phase i
  rw [InPhase, hc] at hphase
  obtain ⟨hprocess, haction⟩ := hphase.onItsWay hS hT
  have hkept (hclient : s'.client i = s.client i) (hserved : s'.served i = s.served i)
      (hreturned : s'.returned i = s.returned i) : Stuck P s' i c answer :=
    ⟨hinv.step consoleWrite service hstep, hclient.trans hc, told, hserved.trans hS, by rw [hreturned]; exact hT⟩
  have hidle {j : ι} (hidle : s.client j = .idle) : i ≠ j := by
    rintro rfl
    rw [hc] at hidle
    cases hidle
  cases hstep with
  | call c' h => exact hkept (Function.update_of_ne (hidle h) ..) rfl rfl
  | refuse h => exact hkept (Function.update_of_ne (hidle h) ..) rfl rfl
  | @client _ j hok =>
      by_cases hj : i = j
      · subst hj
        have hpoll : c.function.poll (s.io.files (P.file i)).file.sync.action = none := by
          rw [hset]
          rcases haction with ha | ha <;> rw [ha] <;> decide
        rw [clientTurn, hc] at hok
        dsimp only at hok
        rw [(hinv.client i).getSync hphase.socket, hpoll] at hok
        cases hok
        exact ⟨hinv, hc, told, hS, hT⟩
      · obtain ⟨hclient, hserved, hreturned⟩ := clientTurn_frame consoleWrite hok hj
        exact hkept hclient hserved hreturned
  | accept j h => exact hkept rfl rfl rfl
  | @server _ j pc hpc hok =>
      obtain ⟨hclient, hreturned, hserved⟩ := dispatchTurn_frame consoleWrite service hok
      refine hkept (by rw [hclient]) (hserved ?_) (by rw [hreturned])
      by_cases hj : i = j
      · subst hj
        exact .inr fun heq => hprocess (by rw [HandShake.at_current hpc, heq])
      · exact .inl hj

/-- **Every polling loop can end, but one.**  From every state of a run in which a client polls, the server comes,
in at most eleven turns of its own, to an action on which the client's loop ends, unless the call is a
`gws_set_text` to which the server has made an answer.  That one polls for ever. -/
theorem handshake_exits (h : Ready P s) {es : List (HandEvent ι)}
    (hrun : Trace (HandStep consoleWrite service P) s es s') (hc : s'.client i = .poll c) :
    (∃ fs t, Trace (HandStep consoleWrite service P) s' fs t ∧ (∀ e ∈ fs, e = .server ∨ e = .accept i) ∧
      fs.length ≤ 11 ∧ t.client = s'.client ∧ ((c.function.poll (t.action P i)).isSome ∨
        c.function = .setText ∧ ∃ answer, t.Outcome i c (some answer))) ∧
      (c.function = .setText → ∀ answer, s'.Outcome i c (some answer) →
        ∀ fs t, Trace (HandStep consoleWrite service P) s' fs t → t.client i = .poll c) := by
  have hinv : HandInv P s' := hrun.keep (fun _ _ _ hinv hstep => hinv.step consoleWrite service hstep) h.inv
  constructor
  · obtain ⟨fs, t, hrun', hfs, hlength, ht, hclient, hne⟩ := hinv.comesTo consoleWrite service i
    refine ⟨fs, t, hrun', hfs, hlength, hclient, ?_⟩
    have hphase := ht.phase i
    rw [InPhase, hclient, hc] at hphase
    rw [HandShake.action] at hne ⊢
    generalize hat : t.at i = d at hphase
    generalize hS : t.served i = S at hphase
    generalize hA : t.asked i = A at hphase
    generalize hR : t.returned i = R at hphase
    cases hphase with
    | quiet hquiet hd hf ha hT => exact hquiet.elim
    | posted hd hf ha hT => exact absurd ha hne
    | taken hb hf ha hT => exact absurd ha hne
    | silent hcode hf ha hT => exact absurd ha hne
    | answering hcode hf ha hT => exact absurd ha hne
    | answered hcode hf ha hT => exact absurd ha hne
    | released hcode hd hf ha hT =>
        left
        rw [ha]
        rcases GwsFunction.poll_null hcode with hpoll | hpoll <;> rw [hpoll] <;> rfl
    | replied hcode hd hf ha hT =>
        rw [ha]
        rcases GwsFunction.poll_reply hcode with hpoll | hset
        · left
          rw [hpoll]
          rfl
        · exact .inr ⟨hset, _, _, hS, by rw [hR]; exact hT⟩
  · intro hset answer houtcome fs t hrun'
    have hkeep (s s' : HandShake ι σ) (e : HandEvent ι) (h : Stuck P s i c answer)
        (hstep : HandStep consoleWrite service P s e s') : Stuck P s' i c answer :=
      h.step consoleWrite service hset hstep
    exact (hrun'.keep (fun s e s' => hkeep s s' e) ⟨hinv, hc, houtcome⟩).2.1

end Invariant

/-! ## A client that asks for an event -/

/-- The server is the process 1, and the client is the process 2. -/
def oneClient : Parties Unit where
  server := ⟨1, 101⟩
  serverBuffer := 0x201000
  client _ := ⟨2, 102⟩
  clientBuffer _ := 0x202000
  fd _ := 4
  file _ := 0x5000
  server_pid := by decide
  client_pid _ := by decide
  client_ne_server _ := by decide
  fd_range _ := by decide
  file_ne_null _ := by decide
  file_injective _ _ _ := rfl
  serverBuffer_ne_null := by decide
  clientBuffer_ne_null _ := by decide

/-- The connection is made. -/
def connected : HandShake Unit Unit where
  io :=
    { processList := fun pid => if pid = 1 ∨ pid = 2 then some ⟨TRUE, 1234, fun _ => 0x5000⟩ else none
      files := fun _ => ⟨socketFile 0x9000 4, ⟨fun _ => 0, []⟩⟩ }
  data := ⟨(), clearMessage, fun _ => 0, FALSE⟩
  current := none
  client _ := .idle
  asked _ := []
  served _ := []
  returned _ := []

lemma connected_ready : Ready oneClient connected where
  process := ⟨_, rfl, rfl, rfl⟩
  client := fun () => ⟨by decide, by decide, by decide, _, rfl, rfl, rfl, rfl⟩
  current := rfl
  idle _ := rfl
  empty _ := socketFile_empty _ _ _ (by decide)
  action := fun () => by decide
  history _ := ⟨rfl, rfl, rfl⟩

/-- `gws_get_next_event` of the window 0. -/
def eventCall : GwsCall where
  function := .getNextEvent
  message := copyFront clearMessage ([0, GWS_GetNextEvent].flatMap longBytes)
  code := by decide

/-- The request is announced, and the server has taken up the connection. -/
def eventEvents : List (HandEvent Unit) := [.call () eventCall, .client (), .client (), .accept ()]

/-- The state behind the events. -/
lemma connected_run (consoleWrite : UserBytes → ℤ → Except Fault ℤ) :
    ∃ t, Trace (HandStep consoleWrite (fun _ d => d) oneClient) connected eventEvents t ∧
      t.client () = .poll eventCall :=
  ⟨_, .cons (.call eventCall rfl) (.cons (.client rfl) (.cons (.client rfl) (.cons (.accept () rfl) (.nil _)))),
    rfl⟩

/-- Its request waits for the server. -/
theorem handshake_run_event : ∃ t : HandShake Unit Unit, t.client () ≠ .exited ∧
    (∃ waiting, t.asked () = (t.served ()).map Prod.fst ++ waiting ∧ waiting.length ≤ 1) ∧
    (∃ told rest, t.served () = told ++ rest ∧ rest.length ≤ 1 ∧ List.Forall₂ Reported (t.returned ()) told) ∧
    ∀ c, t.client () = .poll c → Polls oneClient t () c := by
  obtain ⟨t, hrun, -⟩ := connected_run fun _ _ => .ok 0
  exact ⟨t, handshake_run _ _ connected_ready hrun ()⟩

/-- It is looked after. -/
theorem handshake_exits_event : ∃ s : HandShake Unit Unit, s.client () = .poll eventCall ∧
    (∃ fs t, Trace (HandStep (fun _ _ => .ok 0) (fun _ d => d) oneClient) s fs t ∧
      (∀ e ∈ fs, e = .server ∨ e = .accept ()) ∧ fs.length ≤ 11 ∧ t.client = s.client ∧
      ((eventCall.function.poll (t.action oneClient ())).isSome ∨
        eventCall.function = .setText ∧ ∃ answer, t.Outcome () eventCall (some answer))) ∧
    (eventCall.function = .setText → ∀ answer, s.Outcome () eventCall (some answer) →
      ∀ fs t, Trace (HandStep (fun _ _ => .ok 0) (fun _ d => d) oneClient) s fs t →
        t.client () = .poll eventCall) := by
  obtain ⟨s, hrun, hpoll⟩ := connected_run fun _ _ => .ok 0
  exact ⟨s, hpoll, handshake_exits _ _ connected_ready hrun hpoll⟩

end Gramado.Gws
