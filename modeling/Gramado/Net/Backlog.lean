import Gramado.Net.Socket
import Gramado.Lib.Run

/-!
# Clients that wait for a server

The calls of any number of clients and of one server, in any order: `BacklogTrace` keeps the clients
whose `connect` reported success and the clients that `accept` returned, both in order.

The cursors of the two sides know nothing of each other, no slot is ever emptied, and `connect` does
not look whether the list is full.

* `backlog_run` — every slot used lies in the array; and in every run in which a `connect` finds
  room, an `accept` finds a client, and a `listen` does not cut through the clients that wait, every
  client is accepted exactly once, in the order of the connects.
-/

namespace Gramado

open StepRun

/-- The server: its process, the descriptor of its socket, the file behind it and the socket. -/
structure Listener where
  pid : ℕ
  fd : ℕ
  file : ℕ
  socket : ℕ

/-- A call of a client, or of the server on its socket. -/
inductive BacklogCall where
  | connect (pid sockfd : ℤ) (addr : SockAddr) (addrlen : ℕ)
  | listen (backlog : ℤ)
  | accept (addr addrlen : ℕ)

/-- The state, the clients whose connect reported success, and the clients that were returned. -/
structure BacklogTrace where
  state : SocketState
  connected : List ℕ
  accepted : List ℕ

/-- The socket behind a descriptor of a process. -/
def socketAt (s : SocketState) (pid fd : ℤ) : ℕ :=
  match s.processList pid.toNat with
  | none => 0
  | some p => (s.files (p.objects fd.toNat)).socket

/-- One call. -/
def backlogStep (srv : Listener) (t : BacklogTrace) : BacklogCall → Except Fault BacklogTrace
  | .connect pid sockfd addr addrlen => do
      let (ret, s) ← sysConnect pid sockfd addr addrlen t.state
      .ok { t with
        state := s
        connected :=
          if ret < 0 then t.connected else t.connected ++ [socketAt t.state pid sockfd] }
  | .listen backlog => do
      let (_, s) ← sysListen srv.pid srv.fd backlog t.state
      .ok { t with state := s }
  | .accept addr addrlen => do
      let (ret, s) ← sysAccept srv.pid srv.fd addr addrlen t.state
      .ok { t with
        state := s
        accepted := if ret < 0 then t.accepted else t.accepted ++ [socketAt s srv.pid ret] }

/-- Before the first call. -/
def BacklogTrace.start (s : SocketState) : BacklogTrace := ⟨s, [], []⟩

/-- The clients that connected and were not returned yet. -/
def BacklogTrace.pending (t : BacklogTrace) : List ℕ :=
  t.connected.filter fun c => c ∉ t.accepted

/-- The socket of the server. -/
abbrev BacklogTrace.server (srv : Listener) (t : BacklogTrace) : Socket := t.state.sockets srv.socket

/-- `used` and `magic` say that the structure is in use. -/
def Socket.Valid (x : Socket) : Prop := x.used = TRUE ∧ x.magic = 1234

/-! ## The contract -/

/-- No client is returned twice, and repeated accepts return every client that connected. -/
structure NoneLost (srv : Listener) (t : BacklogTrace) : Prop where
  once : t.accepted.Nodup
  known : t.accepted ⊆ t.connected
  distinct : t.connected.Nodup
  all : ∀ addr addrlen, CONTROLTHREAD_BASE ≤ addr → addrlen ≠ 0 →
    ∃ n t', runs (backlogStep srv) t (List.replicate n (.accept addr addrlen)) = .ok t' ∧
      t'.connected = t.connected ∧ ∀ c ∈ t.connected, t'.accepted.count c = 1

/-- **What a call promises.**  A connect that finds the backlog full fails, and an accept returns a
client that waits and whose socket is valid. -/
def BacklogContract (srv : Listener) (t : BacklogTrace) (call : BacklogCall) (t' : BacklogTrace) :
    Prop :=
  NoneLost srv t' ∧
    match call with
    | .connect _ _ _ _ =>
        (t.server srv).backlogMax ≤ t.pending.length → t'.connected = t.connected
    | .listen _ => True
    | .accept _ _ =>
        t'.accepted = t.accepted ∨ ∃ c ∈ t.pending, t'.accepted = t.accepted ++ [c] ∧
          (t'.state.sockets c).Valid

/-- Where a cursor is after `k` steps. -/
def cursorAfter (backlogMax cursor : ℤ) (k : ℕ) : ℤ := (backlogNext backlogMax)^[k] cursor

/-- A connect finds room, an accept finds a client or no client ever came, and with the size that
`listen` sets the cursors meet the clients that wait in the same slots as before. -/
def BacklogCondition (srv : Listener) (t : BacklogTrace) : BacklogCall → Prop
  | .connect _ _ _ _ => (t.pending.length : ℤ) < (t.server srv).backlogMax
  | .listen backlog => ∀ k ≤ t.pending.length,
      cursorAfter (backlogSize backlog) (t.server srv).backlogHead k
        = cursorAfter (t.server srv).backlogMax (t.server srv).backlogHead k
  | .accept addr addrlen => addr = 0 ∨ addrlen = 0 ∨ t.connected = [] ∨ t.pending ≠ []

/-- All slots used lie in the array. -/
def SlotsInArray (srv : Listener) (t : BacklogTrace) : Prop :=
  (t.server srv).pendingConnections.UsedWithin 0 SOCKET_MAX_PENDING_CONNECTIONS

/-! ## What stays the same -/

/-- What never changes in a socket. -/
def Socket.identity (x : Socket) : ℤ × ℤ × ℕ := (x.used, x.magic, x.privateFile)

/-- What the calls never change: all but descriptor 31, the descriptor in a file, and the fields
of a socket that belong to its connection. -/
def SocketState.fixed (s : SocketState) :
    (ℕ → ℤ) × (ℕ → SockFile) × (ℕ → Option SocketProcess) × (ℕ → ℤ × ℤ × ℕ) :=
  (s.gramadoPorts, fun q => { s.files q with file := 0 },
    fun pid => (s.processList pid).map fun p =>
      { p with objects := Function.update p.objects CLIENT_FD 0 },
    fun q => (s.sockets q).identity)

/-- The list of pending connections, its cursors and the state of a socket. -/
structure Queue where
  state : ℤ
  max : ℤ
  head : ℤ
  tail : ℤ
  slots : Memory ℕ

/-- The queue of a socket. -/
def Socket.queue (x : Socket) : Queue :=
  ⟨x.state, x.backlogMax, x.backlogHead, x.backlogTail, x.pendingConnections⟩

/-- **The server and the sockets that can connect to it.**  The ports that clients can name lead to
this server or to none, and every socket's file and socket belong together, as `sys_socket` leaves
them. -/
structure Serves (srv : Listener) (s : SocketState) : Prop where
  pid_lt : (srv.pid : ℤ) < PROCESS_COUNT_MAX
  fd_lt : srv.fd < CLIENT_FD
  file_ne : srv.file ≠ 0
  socket_ne : srv.socket ≠ 0
  process : ∃ p, s.processList srv.pid = some p ∧ p.used = TRUE ∧ p.magic = 1234 ∧
    p.priv = srv.socket ∧ p.objects srv.fd = srv.file
  file : (s.files srv.file).used = TRUE ∧ isSocket (s.files srv.file) = TRUE ∧
    (s.files srv.file).canAccept = TRUE ∧ (s.files srv.file).socket = srv.socket
  valid : (s.sockets srv.socket).Valid
  oneServer : ∀ port ∈ [GRAMADO_PORT_WS, GRAMADO_PORT_NS, GRAMADO_PORT_FS], ∀ p,
    s.processList (s.gramadoPorts port).toNat = some p → p.priv = srv.socket ∨ p.priv = 0
  clients : ∀ q ≠ 0, isSocket (s.files q) = TRUE → (s.files q).socket ≠ 0 →
    (s.sockets (s.files q).socket).Valid ∧ (s.sockets (s.files q).socket).privateFile = q

/-- The server before the first call: its socket is as `create_socket_object` makes it. -/
structure Opened (srv : Listener) (s : SocketState) : Prop extends Serves srv s where
  fresh : (s.sockets srv.socket).queue = createSocketObject.queue

/-! ## What a call does -/

section Fixed

variable {s s' : SocketState}

lemma fixed_modify {f : Socket → Socket} (hf : ∀ x, (f x).identity = x.identity) (s : SocketState)
    (ptr : ℕ) : (s.modify ptr f).fixed = s.fixed := by
  refine Prod.ext rfl (Prod.ext rfl (Prod.ext rfl ?_))
  funext q
  exact s.modify_field Socket.identity hf ptr q

lemma fixed_setObject (s : SocketState) (pid ptr : ℕ) :
    (s.setObject pid CLIENT_FD ptr).fixed = s.fixed := by
  refine Prod.ext rfl (Prod.ext rfl (Prod.ext ?_ rfl))
  funext k
  simp only [SocketState.fixed, SocketState.setObject]
  by_cases hk : k = pid
  · subst hk
    rw [Function.update_self, Option.map_map]
    congr 1
    funext p
    simp only [Function.comp_apply, Function.update_idem]
  · rw [Function.update_of_ne hk]

lemma fixed_setFile (s : SocketState) (ptr : ℕ) (fd : ℤ) :
    (s.setFile ptr { s.files ptr with file := fd }).fixed = s.fixed := by
  refine Prod.ext rfl (Prod.ext ?_ rfl)
  funext q
  simp only [SocketState.fixed, SocketState.setFile]
  by_cases hq : q = ptr
  · rw [hq, Function.update_self]
  · rw [Function.update_of_ne hq]

end Fixed

section Queues

variable {s s' : SocketState} {pid sockfd target ret : ℤ} {client server : ℕ}

lemma queue_modify_keep {f : Socket → Socket} (hf : ∀ x, (f x).queue = x.queue) (s : SocketState)
    (ptr q : ℕ) : ((s.modify ptr f).sockets q).queue = (s.sockets q).queue :=
  s.modify_field Socket.queue hf ptr q

lemma queue_modify {f : Socket → Socket} {F : Queue → Queue} (hf : ∀ x, (f x).queue = F x.queue)
    (s : SocketState) (ptr q : ℕ) :
    ((s.modify ptr f).sockets q).queue
      = if q = ptr then F (s.sockets q).queue else (s.sockets q).queue := by
  split_ifs with hq
  · rw [hq, s.modify_same, hf]
  · rw [s.modify_of_ne f hq]

/-- The state of a queue. -/
def Queue.withState (x : Queue) (state : ℤ) : Queue := { x with state := state }

/-- A client goes into the slot behind the tail. -/
def Queue.put (x : Queue) (client : ℕ) : Queue :=
  { x with
    tail := backlogNext x.max x.tail
    slots := x.slots.store (backlogNext x.max x.tail) [client] }

lemma queue_setState (s : SocketState) (ptr q : ℕ) (state : ℤ) :
    ((setState ptr state s).sockets q).queue
      = if q = ptr then (s.sockets q).queue.withState state else (s.sockets q).queue :=
  queue_modify (F := fun x => x.withState state) (fun _ => rfl) s ptr q

lemma queue_linkSockets (s : SocketState) (targetPid slot f client server q : ℕ) :
    ((linkSockets targetPid slot f client server s).sockets q).queue
      = if q = server ∨ q = client then (s.sockets q).queue.withState SS_CONNECTING
        else (s.sockets q).queue := by
  have hlinked : ((linkSockets targetPid slot f client server s).sockets q).queue
      = if q = server then
          (if q = client then (s.sockets q).queue.withState SS_CONNECTING
            else (s.sockets q).queue).withState SS_CONNECTING
        else if q = client then (s.sockets q).queue.withState SS_CONNECTING
        else (s.sockets q).queue := by
    simp only [linkSockets]
    rw [queue_modify_keep, queue_modify (F := fun x => x.withState SS_CONNECTING),
      queue_modify (F := fun x => x.withState SS_CONNECTING), queue_modify_keep, queue_modify_keep,
      SocketState.setObject_sockets, queue_modify_keep, queue_modify_keep]
    all_goals exact fun _ => rfl
  rw [hlinked]
  by_cases hserver : q = server <;> by_cases hclient : q = client
  · rw [if_pos hserver, if_pos hclient, if_pos (Or.inl hserver)]
    rfl
  · rw [if_pos hserver, if_neg hclient, if_pos (Or.inl hserver)]
  · rw [if_neg hserver, if_pos hclient, if_pos (Or.inr hclient)]
  · rw [if_neg hserver, if_neg hclient, if_neg (not_or.2 ⟨hserver, hclient⟩)]

lemma fixed_linkSockets (s : SocketState) (targetPid slot f client server : ℕ) :
    (linkSockets targetPid slot f client server s).fixed = s.fixed := by
  simp only [linkSockets]
  rw [fixed_modify, fixed_modify, fixed_modify, fixed_modify, fixed_modify, fixed_setObject,
    fixed_modify, fixed_modify]
  all_goals exact fun _ => rfl

lemma queue_enqueueClient (s : SocketState) (client server q : ℕ) :
    ((enqueueClient client server s).sockets q).queue
      = if q = server then (s.sockets q).queue.put client else (s.sockets q).queue := by
  simp only [enqueueClient, SocketState.modify_same]
  rw [queue_modify_keep]
  · by_cases hq : q = server
    · subst hq
      rw [if_pos rfl, SocketState.modify_same, SocketState.modify_same]
      rfl
    · rw [if_neg hq, SocketState.modify_of_ne _ _ hq, SocketState.modify_of_ne _ _ hq]
  · exact fun _ => rfl

lemma fixed_enqueueClient (s : SocketState) (client server : ℕ) :
    (enqueueClient client server s).fixed = s.fixed := by
  simp only [enqueueClient]
  rw [fixed_modify, fixed_modify, fixed_modify]
  all_goals exact fun _ => rfl

lemma queue_assignPort (s : SocketState) (client q : ℕ) :
    ((assignPort client s).sockets q).queue = (s.sockets q).queue := by
  simp only [assignPort]
  rw [queue_modify_keep]
  exact fun _ => rfl

lemma fixed_assignPort (s : SocketState) (client : ℕ) :
    (assignPort client s).fixed = s.fixed := by
  simp only [assignPort]
  rw [fixed_modify]
  · rfl
  · exact fun _ => rfl

/-- A socket that may connect: the descriptor leads to it, and it is unconnected. -/
structure Asks (s : SocketState) (pid sockfd : ℤ) (client : ℕ) : Prop where
  socketAt : socketAt s pid sockfd = client
  ne : client ≠ 0
  file : ∃ q ≠ 0, isSocket (s.files q) = TRUE ∧ (s.files q).socket = client
  unconnected : (s.sockets client).queue.state = SS_UNCONNECTED

/-- The client waits at the server. -/
structure Connects (s s' : SocketState) (client server : ℕ) : Prop where
  atServer : (s'.sockets server).queue
    = ((s.sockets server).queue.withState SS_CONNECTING).put client
  atClient : client ≠ server →
    (s'.sockets client).queue = (s.sockets client).queue.withState SS_CONNECTING
  others : ∀ q, q ≠ server → q ≠ client → (s'.sockets q).queue = (s.sockets q).queue

lemma connectTo_inv {name : String} (h : connectTo name pid sockfd target s = .ok (ret, s')) :
    s'.fixed = s.fixed ∧
      ((ret < 0 ∧ ∀ q, (s'.sockets q).queue = (s.sockets q).queue) ∨
        (ret = 0 ∧ ∃ client p, Asks s pid sockfd client ∧
          s.processList target.toNat = some p ∧ p.priv ≠ 0 ∧ Connects s s' client p.priv)) := by
  have hrefused : ∀ {t : SocketState}, (∀ q, (t.sockets q).queue = (s.sockets q).queue) →
      t.fixed = s.fixed → Except.ok (ε := Fault) ((-1 : ℤ), t) = .ok (ret, s') →
      s'.fixed = s.fixed ∧ ((ret < 0 ∧ ∀ q, (s'.sockets q).queue = (s.sockets q).queue) ∨
        (ret = 0 ∧ ∃ client p, Asks s pid sockfd client ∧
          s.processList target.toNat = some p ∧ p.priv ≠ 0 ∧ Connects s s' client p.priv)) := by
    intro t hq hfixed ht
    obtain ⟨rfl, rfl⟩ := Prod.mk.inj (Except.ok.inj ht)
    exact ⟨hfixed, Or.inl ⟨by decide, hq⟩⟩
  have hsame : ∀ q, (s.sockets q).queue = (s.sockets q).queue := fun _ => rfl
  simp only [connectTo] at h
  split at h
  · exact hrefused hsame rfl h
  split at h
  · exact hrefused hsame rfl h
  rename_i cProcess hprocess
  split at h
  · exact hrefused hsame rfl h
  rename_i hf
  split at h
  · exact hrefused hsame rfl h
  rename_i hsocket
  split at h
  · exact hrefused hsame rfl h
  split at h
  · exact hrefused hsame rfl h
  rename_i hclient
  split at h
  · exact hrefused hsame rfl h
  rename_i hstate
  have hq : ∀ q, ((assignPort (s.files (cProcess.objects sockfd.toNat)).socket s).sockets q).queue
      = (s.sockets q).queue := queue_assignPort s _
  have hfixed : (assignPort (s.files (cProcess.objects sockfd.toNat)).socket s).fixed = s.fixed :=
    fixed_assignPort s _
  split at h
  · exact hrefused hq hfixed h
  split at h
  · exact hrefused hq hfixed h
  rename_i sProcess htarget
  split at h
  · cases h
  split at h
  · exact hrefused hq hfixed h
  rename_i slot _ hserver
  obtain ⟨rfl, rfl⟩ := Prod.mk.inj (Except.ok.inj h)
  refine ⟨by rw [fixed_enqueueClient, fixed_linkSockets, hfixed], Or.inr ⟨rfl, _, sProcess,
    ⟨?_, hclient, ⟨_, hf, not_not.1 hsocket, rfl⟩, not_not.1 hstate⟩, htarget, hserver, ?_⟩⟩
  · simp only [socketAt, hprocess]
  · constructor
    · rw [queue_enqueueClient, if_pos rfl, queue_linkSockets, if_pos (Or.inl rfl), hq]
    · intro hne
      rw [queue_enqueueClient, if_neg hne, queue_linkSockets, if_pos (Or.inr rfl), hq]
    · intro q hqs hqc
      rw [queue_enqueueClient, if_neg hqs, queue_linkSockets, if_neg (not_or.2 ⟨hqs, hqc⟩), hq]

/-- **How a connect ends**: it fails and the queues are as they were, or the client waits at the
server. -/
def ConnectEnds (server : ℕ) (pid sockfd ret : ℤ) (s s' : SocketState) : Prop :=
  s'.fixed = s.fixed ∧
    ((ret < 0 ∧ ∀ q, (s'.sockets q).queue = (s.sockets q).queue) ∨
      (ret = 0 ∧ ∃ client, Asks s pid sockfd client ∧ Connects s s' client server))

lemma ConnectEnds.refused {n : ℤ} (hn : n < 0)
    (h : Except.ok (ε := Fault) (n, s) = .ok (ret, s')) :
    ConnectEnds server pid sockfd ret s s' := by
  obtain ⟨rfl, rfl⟩ := Prod.mk.inj (Except.ok.inj h)
  exact ⟨rfl, Or.inl ⟨hn, fun _ => rfl⟩⟩

/-- A connect through a port of the server. -/
lemma connectEnds_port {srv : Listener} {name : String} {port : ℕ} (hs : Serves srv s)
    (hport : port ∈ [GRAMADO_PORT_WS, GRAMADO_PORT_NS, GRAMADO_PORT_FS])
    (h : connectTo name pid sockfd (s.gramadoPorts port) s = .ok (ret, s')) :
    ConnectEnds srv.socket pid sockfd ret s s' := by
  obtain ⟨hfixed, hrest⟩ := connectTo_inv h
  refine ⟨hfixed, hrest.imp_right ?_⟩
  rintro ⟨hret, client, p, hasks, hp, hpriv, hconnects⟩
  have hserver : p.priv = srv.socket := (hs.oneServer port hport p hp).resolve_right hpriv
  exact ⟨hret, client, hasks, hserver ▸ hconnects⟩

lemma sysConnect_ends {srv : Listener} {addr : SockAddr} {addrlen : ℕ} (hs : Serves srv s)
    (h : sysConnect pid sockfd addr addrlen s = .ok (ret, s')) :
    ConnectEnds srv.socket pid sockfd ret s s' := by
  simp only [sysConnect] at h
  split_ifs at h
  · exact .refused (by decide) h
  · exact .refused (by decide) h
  · simp only [connectLocal] at h
    split_ifs at h
    · exact .refused (by decide) h
    · exact .refused (by decide) h
    · exact connectEnds_port hs (by simp) h
    · exact .refused (by decide) h
    · exact connectEnds_port hs (by simp) h
    · exact .refused (by decide) h
    · exact connectEnds_port hs (by simp) h
    · exact .refused (by decide) h
    · exact absurd (Or.inl (by decide)) ‹¬((-1 : ℤ) < 0 ∨ (-1 : ℤ) ≥ PROCESS_COUNT_MAX)›
    · exact .refused (by decide) h
  · simp only [connectInet] at h
    split_ifs at h
    · exact .refused (by decide) h
    · exact .refused (by decide) h
    · exact .refused (by decide) h
    · exact connectEnds_port hs (by simp) h
    · exact connectEnds_port hs (by simp) h
    · exact .refused (by decide) h

end Queues

/-! ## The cursors -/

section Cursor

variable {N i : ℤ} {j k : ℕ}

lemma cursorAfter_zero : cursorAfter N i 0 = i := rfl

lemma cursorAfter_succ : cursorAfter N i (k + 1) = cursorAfter N (backlogNext N i) k := rfl

lemma cursorAfter_succ' : cursorAfter N i (k + 1) = backlogNext N (cursorAfter N i k) :=
  Function.iterate_succ_apply' ..

lemma backlogNext_nonneg (hi : 0 ≤ i) : 0 ≤ backlogNext N i := by
  simp only [backlogNext]
  split_ifs <;> omega

lemma backlogNext_lt (hN : 1 ≤ N) : backlogNext N i < N := by
  simp only [backlogNext]
  split_ifs <;> omega

/-- From a slot of the list on, a cursor goes round. -/
lemma cursorAfter_emod (hi : 0 ≤ i) (hlt : i < N) : cursorAfter N i k = (i + k) % N := by
  induction k with
  | zero => rw [cursorAfter_zero, Nat.cast_zero, add_zero, Int.emod_eq_of_lt hi hlt]
  | succ k ih =>
      have hpos : 0 < N := by omega
      have hnext : backlogNext N ((i + k) % N) = ((i + k) % N + 1) % N := by
        have hlo := Int.emod_nonneg (i + k) (by omega : N ≠ 0)
        have hhi := Int.emod_lt_of_pos (i + k) hpos
        simp only [backlogNext]
        split_ifs with hlast
        · rw [show (i + k) % N + 1 = N by omega, Int.emod_self]
        · exact (Int.emod_eq_of_lt (by omega) (by omega)).symm
      rw [cursorAfter_succ', ih, hnext, Int.emod_add_emod, Nat.cast_succ, add_assoc]

/-- Going on, a cursor meets `N` different slots. -/
lemma cursorAfter_inj (hN : 1 ≤ N) (hi : 0 ≤ i) (hj : (j : ℤ) < N) (hk : (k : ℤ) < N)
    (heq : cursorAfter N i (j + 1) = cursorAfter N i (k + 1)) : j = k := by
  have hlo := @backlogNext_nonneg N i hi
  have hhi := @backlogNext_lt N i hN
  rw [cursorAfter_succ, cursorAfter_succ, cursorAfter_emod hlo hhi, cursorAfter_emod hlo hhi] at heq
  have hmod : (j : ℤ) % N = k % N := Int.ModEq.add_left_cancel' _ heq
  rw [Int.emod_eq_of_lt (by omega) hj, Int.emod_eq_of_lt (by omega) hk] at hmod
  exact_mod_cast hmod

end Cursor

/-! ## What the server does -/

section Server

variable {srv : Listener} {s s' : SocketState}

/-- What the calls keep is all that `Serves` speaks of. -/
lemma Serves.of_fixed (h : Serves srv s) (hf : s'.fixed = s.fixed) : Serves srv s' := by
  have hports : s'.gramadoPorts = s.gramadoPorts := congrArg Prod.fst hf
  have hfiles : ∀ q, { s'.files q with file := 0 } = { s.files q with file := 0 } :=
    congrFun (congrArg (fun x => x.2.1) hf)
  have hprocs : ∀ pid, (s'.processList pid).map (fun p =>
      { p with objects := Function.update p.objects CLIENT_FD 0 }) = (s.processList pid).map (fun p =>
      { p with objects := Function.update p.objects CLIENT_FD 0 }) :=
    congrFun (congrArg (fun x => x.2.2.1) hf)
  have hids : ∀ q, (s'.sockets q).identity = (s.sockets q).identity :=
    congrFun (congrArg (fun x => x.2.2.2) hf)
  have hmap := fun pid p (hp : s.processList pid = some p) =>
    Option.map_eq_some_iff.1 ((hprocs pid).trans (congrArg _ hp))
  have hvalid : ∀ q, (s.sockets q).Valid → (s'.sockets q).Valid := fun q hq =>
    ⟨(congrArg Prod.fst (hids q)).trans hq.1, (congrArg (fun x => x.2.1) (hids q)).trans hq.2⟩
  have hsocket : ∀ q, isSocket (s'.files q) = isSocket (s.files q) := by
    intro q
    have hmagic : (s'.files q).magic = (s.files q).magic :=
      (congrArg SockFile.magic (hfiles q) :)
    have hobject : (s'.files q).object = (s.files q).object :=
      (congrArg SockFile.object (hfiles q) :)
    rw [isSocket, hmagic, hobject, isSocket]
  have hto : ∀ q, (s'.files q).socket = (s.files q).socket := fun q =>
    (congrArg SockFile.socket (hfiles q) :)
  constructor
  · exact h.pid_lt
  · exact h.fd_lt
  · exact h.file_ne
  · exact h.socket_ne
  · obtain ⟨p, hp, hused, hmagic, hpriv, hobject⟩ := h.process
    obtain ⟨p', hp', heq⟩ := hmap _ p hp
    refine ⟨p', hp', ?_, ?_, ?_, ?_⟩
    · exact (congrArg (fun x => x.used) heq).trans hused
    · exact (congrArg (fun x => x.magic) heq).trans hmagic
    · exact (congrArg SocketProcess.priv heq).trans hpriv
    · have hobjects := congrFun (congrArg (fun x => x.objects) heq) srv.fd
      simp only [Function.update_of_ne h.fd_lt.ne] at hobjects
      exact hobjects.trans hobject
  · obtain ⟨hused, hsock, haccept, hfile⟩ := h.file
    exact ⟨(congrArg SockFile.used (hfiles _)).trans hused, (hsocket _).trans hsock,
      (congrArg SockFile.canAccept (hfiles _)).trans haccept, (hto _).trans hfile⟩
  · exact hvalid _ h.valid
  · intro port hport p hp
    rw [hports] at hp
    obtain ⟨p', hp', heq⟩ := Option.map_eq_some_iff.1 ((hprocs _).symm.trans (congrArg _ hp))
    have hpriv : p'.priv = p.priv := (congrArg SocketProcess.priv heq :)
    rw [← hpriv]
    exact h.oneServer port hport p' hp'
  · intro q hq hsock hne
    rw [hsocket] at hsock
    rw [hto] at hne ⊢
    obtain ⟨hclient, hprivate⟩ := h.clients q hq hsock hne
    exact ⟨hvalid _ hclient, (congrArg (fun x => x.2.2) (hids _)).trans hprivate⟩

lemma sysListen_eq (hs : Serves srv s) (backlog : ℤ) :
    sysListen srv.pid srv.fd backlog s = .ok (0, s.modify srv.socket fun x =>
      { x with backlogMax := backlogSize backlog, isAcceptingConnections := TRUE }) := by
  obtain ⟨p, hp, -, -, hpriv, hobject⟩ := hs.process
  have hfd : (srv.fd : ℤ) < OPEN_MAX := by
    have := hs.fd_lt
    simp only [CLIENT_FD, OPEN_MAX] at this ⊢
    omega
  obtain ⟨-, hsocket, -, hfile⟩ := hs.file
  have hpid := hs.pid_lt
  simp only [sysListen, Int.toNat_natCast]
  rw [if_neg (by omega), if_neg (by omega), hp]
  simp only [hobject, hfile, hpriv]
  rw [if_neg hs.file_ne, if_neg (not_not.2 hsocket), if_neg hs.socket_ne,
    if_neg (not_not.2 rfl)]

/-- An accept with an address that it takes gets to the list. -/
lemma sysAccept_eq (hs : Serves srv s) {addr addrlen : ℕ} (haddr : CONTROLTHREAD_BASE ≤ addr)
    (haddrlen : addrlen ≠ 0) :
    sysAccept srv.pid srv.fd addr addrlen s =
      if (s.sockets srv.socket).queue.state = SS_CONNECTING ∨
          (s.sockets srv.socket).queue.state = SS_CONNECTED then acceptPending srv.pid srv.socket s
      else .ok (-1, s) := by
  obtain ⟨p, hp, hused, hmagic, hpriv, hobject⟩ := hs.process
  have hfd : (srv.fd : ℤ) < OPEN_MAX := by
    have := hs.fd_lt
    simp only [CLIENT_FD, OPEN_MAX] at this ⊢
    omega
  obtain ⟨hfused, hsocket, haccept, hfile⟩ := hs.file
  have hfmagic : (s.files srv.file).magic = 1234 := by
    by_contra hne
    rw [isSocket, if_pos hne] at hsocket
    cases hsocket
  have hpid := hs.pid_lt
  have hbase : CONTROLTHREAD_BASE ≠ 0 := by decide
  simp only [sysAccept, Int.toNat_natCast]
  rw [if_neg (by omega), if_neg (by omega), if_neg (by omega), if_neg haddrlen, if_neg (by omega),
    hp]
  simp only [hobject, hfile]
  rw [if_neg (not_or.2 ⟨not_not.2 hused, not_not.2 hmagic⟩), if_neg hs.file_ne,
    if_neg (not_or.2 ⟨not_not.2 hfused, not_not.2 hfmagic⟩), if_neg (not_not.2 hsocket),
    if_neg (not_not.2 haccept), if_neg hs.socket_ne,
    if_neg (not_or.2 ⟨not_not.2 hs.valid.1, not_not.2 hs.valid.2⟩)]
  rfl

/-- An accept with an address that it refuses. -/
lemma sysAccept_refused {addr addrlen : ℕ} {pid sockfd ret : ℤ}
    (hrefused : ¬(CONTROLTHREAD_BASE ≤ addr ∧ addrlen ≠ 0))
    (h : sysAccept pid sockfd addr addrlen s = .ok (ret, s')) : ret < 0 ∧ s' = s := by
  have hends : ∀ {n : ℤ}, n < 0 → Except.ok (ε := Fault) (n, s) = .ok (ret, s') →
      ret < 0 ∧ s' = s := by
    intro n hn hret
    obtain ⟨rfl, rfl⟩ := Prod.mk.inj (Except.ok.inj hret)
    exact ⟨hn, rfl⟩
  dsimp only [sysAccept] at h
  by_cases hfd : sockfd < 0 ∨ sockfd ≥ OPEN_MAX
  · rw [if_pos hfd] at h
    exact hends (by decide) h
  rw [if_neg hfd] at h
  by_cases hnull : addr = 0
  · rw [if_pos hnull] at h
    exact hends (by decide) h
  rw [if_neg hnull] at h
  by_cases hbase : addr < CONTROLTHREAD_BASE
  · rw [if_pos hbase] at h
    cases h
  rw [if_neg hbase] at h
  by_cases hlen : addrlen = 0
  · rw [if_pos hlen] at h
    exact hends (by decide) h
  · exact absurd ⟨not_lt.1 hbase, hlen⟩ hrefused

/-- What the loop of an accept finds in a queue. -/
def Queue.found (x : Queue) : ℕ × Memory ℕ :=
  probe (x.max + 1 - backlogNext x.max x.head).toNat (backlogNext x.max x.head) x.slots

/-- The state in which the loop of an accept has found what it finds. -/
def afterProbe (server : ℕ) (s : SocketState) : SocketState :=
  ((setState server SS_CONNECTED s).modify server fun x =>
      { x with backlogHead := backlogNext x.backlogMax x.backlogHead }).modify server fun x =>
    { x with pendingConnections := (s.sockets server).queue.found.2 }

lemma acceptPending_eq (pid server : ℕ) (s : SocketState) :
    acceptPending pid server s =
      let x := (s.sockets server).queue
      let i := backlogNext x.max x.head
      if i < 0 ∨ i ≥ x.max then .error (.panic "sys_accept: Backlog limits\n")
      else
        let client := x.found.1
        let t := afterProbe server s
        if client = 0 then .ok (-1, setState server SS_CONNECTING t)
        else if (t.sockets client).used ≠ TRUE ∨ (t.sockets client).magic ≠ 1234 then
          .ok (-1, setState server SS_CONNECTING t)
        else
          let t := setState client SS_CONNECTED t
          let file := (t.sockets client).privateFile
          let t := t.setObject pid CLIENT_FD file
          if file = 0 then .error .badPointer
          else .ok (CLIENT_FD, t.setFile file { t.files file with file := CLIENT_FD }) := by
  simp only [acceptPending, afterProbe, Queue.found, Socket.queue, setState,
    SocketState.modify_same]

lemma fixed_afterProbe (server : ℕ) (s : SocketState) : (afterProbe server s).fixed = s.fixed := by
  simp only [afterProbe, setState]
  rw [fixed_modify, fixed_modify, fixed_modify]
  all_goals exact fun _ => rfl

/-- The queue of a server whose cursor moved on. -/
def Queue.advance (x : Queue) : Queue :=
  { x with state := SS_CONNECTED, head := backlogNext x.max x.head, slots := x.found.2 }

lemma queue_afterProbe (server : ℕ) (s : SocketState) :
    ((afterProbe server s).sockets server).queue = (s.sockets server).queue.advance := by
  simp only [afterProbe, setState, SocketState.modify_same]
  rfl

lemma queue_afterProbe_of_ne {server q : ℕ} (s : SocketState) (h : q ≠ server) :
    ((afterProbe server s).sockets q).queue = (s.sockets q).queue := by
  simp only [afterProbe, setState]
  rw [SocketState.modify_of_ne _ _ h, SocketState.modify_of_ne _ _ h,
    SocketState.modify_of_ne _ _ h]

/-- The structures that hold a connection together keep it. -/
lemma fixed_setState (client : ℕ) (state : ℤ) (s : SocketState) :
    (setState client state s).fixed = s.fixed := by
  simp only [setState]
  rw [fixed_modify]
  exact fun _ => rfl

lemma valid_of_fixed (hf : s'.fixed = s.fixed) (q : ℕ) :
    ((s'.sockets q).used = (s.sockets q).used ∧ (s'.sockets q).magic = (s.sockets q).magic) ∧
      (s'.sockets q).privateFile = (s.sockets q).privateFile := by
  have hid : (s'.sockets q).identity = (s.sockets q).identity :=
    congrFun (congrArg (fun x => x.2.2.2) hf) q
  exact ⟨⟨(congrArg Prod.fst hid :), (congrArg (fun x => x.2.1) hid :)⟩,
    (congrArg (fun x => x.2.2) hid :)⟩

/-- **How an accept ends** that gets to the list: the cursor moved on, and either the client that
the loop found is returned, or there was none or it is no longer valid. -/
structure AcceptEnds (pid server : ℕ) (ret : ℤ) (s s' : SocketState) : Prop where
  fixed : s'.fixed = s.fixed
  atServer : ∃ state, (state = SS_CONNECTING ∨ state = SS_CONNECTED) ∧
    (s'.sockets server).queue = (s.sockets server).queue.advance.withState state
  others : ∀ q, (s.sockets q).queue.state ≠ SS_UNCONNECTED →
    (s'.sockets q).queue.state ≠ SS_UNCONNECTED
  result : let client := (s.sockets server).queue.found.1
    (ret < 0 ∧ (client = 0 ∨ ¬(s.sockets client).Valid)) ∨
      (ret = CLIENT_FD ∧ client ≠ 0 ∧ (s.sockets client).Valid ∧
        socketAt s' pid ret = (s.files (s.sockets client).privateFile).socket)

lemma acceptPending_inv {pid server : ℕ} {ret : ℤ} (hpid : ∃ p, s.processList pid = some p)
    (h : acceptPending pid server s = .ok (ret, s')) : AcceptEnds pid server ret s s' := by
  have hstate : ∀ (state : ℤ) (q t : ℕ), state ≠ SS_UNCONNECTED →
      ((afterProbe server s).sockets q).queue.state ≠ SS_UNCONNECTED →
      ((setState t state (afterProbe server s)).sockets q).queue.state ≠ SS_UNCONNECTED := by
    intro state q t hne hq
    rw [queue_setState]
    split_ifs
    · exact hne
    · exact hq
  have hprobe : ∀ q, (s.sockets q).queue.state ≠ SS_UNCONNECTED →
      ((afterProbe server s).sockets q).queue.state ≠ SS_UNCONNECTED := by
    intro q hq
    by_cases hs : q = server
    · rw [hs, queue_afterProbe]
      exact (by decide : SS_CONNECTED ≠ SS_UNCONNECTED)
    · rw [queue_afterProbe_of_ne s hs]
      exact hq
  have hfixed := fixed_afterProbe server s
  obtain ⟨⟨hused, hmagic⟩, -⟩ := valid_of_fixed hfixed (s.sockets server).queue.found.1
  rw [acceptPending_eq] at h
  dsimp only at h
  have hfails : Except.ok (ε := Fault) (-1, setState server SS_CONNECTING (afterProbe server s))
        = .ok (ret, s') → ((s.sockets server).queue.found.1 = 0 ∨
          ¬(s.sockets (s.sockets server).queue.found.1).Valid) →
      AcceptEnds pid server ret s s' := by
    intro hret hnone
    obtain ⟨rfl, rfl⟩ := Prod.mk.inj (Except.ok.inj hret)
    refine ⟨by rw [fixed_setState, hfixed], ⟨_, Or.inl rfl, ?_⟩, fun q hq =>
      hstate _ q _ (by decide) (hprobe q hq), Or.inl ⟨by decide, hnone⟩⟩
    rw [queue_setState, if_pos rfl, queue_afterProbe]
  by_cases hrange : backlogNext (s.sockets server).queue.max (s.sockets server).queue.head < 0 ∨
      backlogNext (s.sockets server).queue.max (s.sockets server).queue.head
        ≥ (s.sockets server).queue.max
  · rw [if_pos hrange] at h
    cases h
  rw [if_neg hrange] at h
  by_cases hnone : (s.sockets server).queue.found.1 = 0
  · rw [if_pos hnone] at h
    exact hfails h (Or.inl hnone)
  rw [if_neg hnone, hused, hmagic] at h
  by_cases hvalid : (s.sockets (s.sockets server).queue.found.1).used ≠ TRUE ∨
      (s.sockets (s.sockets server).queue.found.1).magic ≠ 1234
  · rw [if_pos hvalid] at h
    exact hfails h (Or.inr fun hv => hvalid.elim (· hv.1) (· hv.2))
  rw [if_neg hvalid] at h
  obtain ⟨hu, hm⟩ := not_or.1 hvalid
  have hfixed' : (setState (s.sockets server).queue.found.1 SS_CONNECTED
      (afterProbe server s)).fixed = s.fixed := by rw [fixed_setState, hfixed]
  obtain ⟨-, hfile⟩ := valid_of_fixed hfixed' (s.sockets server).queue.found.1
  rw [hfile] at h
  by_cases hnull : (s.sockets (s.sockets server).queue.found.1).privateFile = 0
  · rw [if_pos hnull] at h
    cases h
  rw [if_neg hnull] at h
  obtain ⟨rfl, rfl⟩ := Prod.mk.inj (Except.ok.inj h)
  constructor
  · rw [fixed_setFile, fixed_setObject, hfixed']
  · refine ⟨_, Or.inr rfl, ?_⟩
    show ((setState _ _ (afterProbe server s)).sockets server).queue = _
    rw [queue_setState, queue_afterProbe]
    split_ifs <;> rfl
  · exact fun q hq => hstate _ q _ (by decide) (hprobe q hq)
  · refine Or.inr ⟨rfl, hnone, ⟨not_not.1 hu, not_not.1 hm⟩, ?_⟩
    obtain ⟨p, hp⟩ := hpid
    have hlist : (afterProbe server s).processList pid = some p := hp
    simp only [socketAt, Int.toNat_natCast, SocketState.setFile, SocketState.setObject, setState,
      SocketState.modify_processList, SocketState.modify_files, hlist, Option.map_some,
      Function.update_self]
    rfl

/-- An accept that finds its cursor in range, and a client with a file, does not fault. -/
lemma acceptPending_ok {pid server : ℕ}
    (hrange : 0 ≤ backlogNext (s.sockets server).queue.max (s.sockets server).queue.head ∧
      backlogNext (s.sockets server).queue.max (s.sockets server).queue.head
        < (s.sockets server).queue.max)
    (hfile : (s.sockets (s.sockets server).queue.found.1).privateFile ≠ 0) :
    ∃ ret s', acceptPending pid server s = .ok (ret, s') := by
  have hfixed : (setState (s.sockets server).queue.found.1 SS_CONNECTED
      (afterProbe server s)).fixed = s.fixed := by rw [fixed_setState, fixed_afterProbe]
  obtain ⟨-, hprivate⟩ := valid_of_fixed hfixed (s.sockets server).queue.found.1
  rw [acceptPending_eq]
  dsimp only
  rw [if_neg (by omega)]
  by_cases hnone : (s.sockets server).queue.found.1 = 0
  · exact ⟨_, _, if_pos hnone⟩
  rw [if_neg hnone]
  split_ifs with hvalid hnull
  · exact ⟨_, _, rfl⟩
  · exact absurd (hprivate ▸ hnull) hfile
  · exact ⟨_, _, rfl⟩

end Server

/-! ## The loop of accept -/

section Probe

variable {n : ℕ} {i : ℤ} {slots : Memory ℕ}

lemma probe_cell : (probe n i slots).2.cell = slots.cell := by
  induction n generalizing i slots with
  | zero => rfl
  | succ n ih =>
      simp only [probe]
      split_ifs
      · rfl
      · exact ih

/-- The loop stops at a slot that is not null. -/
lemma probe_first (h : slots.cell i ≠ 0) : (probe (n + 1) i slots).1 = slots.cell i := by
  have hload : (slots.load i 1).2.cell i ≠ 0 := h
  simp only [probe]
  rw [if_pos hload]
  rfl

/-- The loop looks at its own slots only. -/
lemma probe_usedWithin {hi : ℤ} (hslots : slots.UsedWithin 0 hi) (hlo : 0 ≤ i) (hhi : i + n ≤ hi) :
    (probe n i slots).2.UsedWithin 0 hi := by
  induction n generalizing i slots with
  | zero => exact hslots
  | succ n ih =>
      have hload : (slots.load i 1).2.UsedWithin 0 hi :=
        hslots.load hlo (by push_cast at hhi ⊢; omega)
      simp only [probe]
      split_ifs
      · exact hload
      · exact ih hload (by omega) (by push_cast at hhi; omega)

end Probe

/-! ## The slots that are used -/

/-- The size of a list and its cursors are in range, and so are the slots used so far. -/
structure Queue.Bounded (x : Queue) : Prop where
  max_pos : 1 ≤ x.max
  max_le : x.max ≤ 31
  head : 0 ≤ x.head
  tail : 0 ≤ x.tail
  used : x.slots.UsedWithin 0 SOCKET_MAX_PENDING_CONNECTIONS

namespace Queue.Bounded

variable {x : Queue}

lemma withState (h : x.Bounded) (state : ℤ) : (x.withState state).Bounded :=
  ⟨h.max_pos, h.max_le, h.head, h.tail, h.used⟩

lemma resize (h : x.Bounded) {size : ℤ} (hlo : 1 ≤ size) (hhi : size ≤ 31) :
    Queue.Bounded { x with max := size } :=
  ⟨hlo, hhi, h.head, h.tail, h.used⟩

lemma put (h : x.Bounded) (client : ℕ) : (x.put client).Bounded where
  max_pos := h.max_pos
  max_le := h.max_le
  head := h.head
  tail := backlogNext_nonneg h.tail
  used := by
    have hlt := @backlogNext_lt x.max x.tail h.max_pos
    have hle := h.max_le
    refine h.used.store (backlogNext_nonneg h.tail) ?_
    simp only [List.length_singleton, SOCKET_MAX_PENDING_CONNECTIONS]
    push_cast
    omega

lemma advance (h : x.Bounded) : x.advance.Bounded where
  max_pos := h.max_pos
  max_le := h.max_le
  head := backlogNext_nonneg h.head
  tail := h.tail
  used := by
    have hlo := @backlogNext_nonneg x.max x.head h.head
    have hlt := @backlogNext_lt x.max x.head h.max_pos
    have hle := h.max_le
    refine probe_usedWithin h.used hlo ?_
    simp only [SOCKET_MAX_PENDING_CONNECTIONS]
    omega

end Queue.Bounded

lemma backlogSize_range (backlog : ℤ) : 1 ≤ backlogSize backlog ∧ backlogSize backlog ≤ 31 := by
  simp only [backlogSize]
  split_ifs <;> omega

/-- What every run keeps. -/
structure InRange (srv : Listener) (t : BacklogTrace) : Prop where
  serves : Serves srv t.state
  bounded : (t.server srv).queue.Bounded

/-- The queue of the server after a call: a connect fails or puts its client into the queue. -/
lemma backlogStep_connect_inv {srv : Listener} {t t' : BacklogTrace} {pid sockfd : ℤ}
    {addr : SockAddr} {addrlen : ℕ} (hs : Serves srv t.state)
    (h : backlogStep srv t (.connect pid sockfd addr addrlen) = .ok t') :
    t'.state.fixed = t.state.fixed ∧ t'.accepted = t.accepted ∧
      ((t'.connected = t.connected ∧
          ∀ q, (t'.state.sockets q).queue = (t.state.sockets q).queue) ∨
        ∃ client, t'.connected = t.connected ++ [client] ∧ Asks t.state pid sockfd client ∧
          Connects t.state t'.state client srv.socket) := by
  obtain ⟨⟨ret, s'⟩, hcall, ht⟩ := bind_eq_ok h
  obtain rfl := Except.ok.inj ht
  obtain ⟨hfixed, ⟨hret, hqueues⟩ | ⟨rfl, client, hasks, hconnects⟩⟩ := sysConnect_ends hs hcall
  · exact ⟨hfixed, rfl, Or.inl ⟨if_pos hret, hqueues⟩⟩
  · refine ⟨hfixed, rfl, Or.inr ⟨client, ?_, hasks, hconnects⟩⟩
    dsimp only
    rw [if_neg (by decide), hasks.socketAt]

/-- A listen sets the size of the queue. -/
lemma backlogStep_listen_inv {srv : Listener} {t t' : BacklogTrace} {backlog : ℤ}
    (hs : Serves srv t.state) (h : backlogStep srv t (.listen backlog) = .ok t') :
    t'.state.fixed = t.state.fixed ∧ t'.connected = t.connected ∧ t'.accepted = t.accepted ∧
      (t'.server srv).queue = { (t.server srv).queue with max := backlogSize backlog } ∧
      ∀ q, (t'.state.sockets q).queue.state = (t.state.sockets q).queue.state := by
  obtain ⟨⟨ret, s'⟩, hcall, ht⟩ := bind_eq_ok h
  obtain rfl := Except.ok.inj ht
  rw [sysListen_eq hs] at hcall
  obtain ⟨-, rfl⟩ := Prod.mk.inj (Except.ok.inj hcall)
  refine ⟨?_, rfl, rfl, ?_, fun q => ?_⟩
  · rw [fixed_modify]
    exact fun _ => rfl
  · simp only [BacklogTrace.server, SocketState.modify_same]
    rfl
  · by_cases hq : q = srv.socket
    · simp only [hq, SocketState.modify_same]
      rfl
    · simp only [SocketState.modify_of_ne _ _ hq]

/-- An accept leaves all as it is, or gets to the queue. -/
lemma backlogStep_accept_inv {srv : Listener} {t t' : BacklogTrace} {addr addrlen : ℕ}
    (hs : Serves srv t.state) (h : backlogStep srv t (.accept addr addrlen) = .ok t') :
    t'.connected = t.connected ∧
      ((t' = t ∧ (¬(CONTROLTHREAD_BASE ≤ addr ∧ addrlen ≠ 0) ∨
          ¬((t.server srv).queue.state = SS_CONNECTING ∨
            (t.server srv).queue.state = SS_CONNECTED))) ∨
        (CONTROLTHREAD_BASE ≤ addr ∧ addrlen ≠ 0 ∧
          ((t.server srv).queue.state = SS_CONNECTING ∨
            (t.server srv).queue.state = SS_CONNECTED) ∧
          ∃ ret, AcceptEnds srv.pid srv.socket ret t.state t'.state ∧ t'.accepted =
            if ret < 0 then t.accepted else t.accepted ++ [socketAt t'.state srv.pid ret])) := by
  obtain ⟨⟨ret, s'⟩, hcall, ht⟩ := bind_eq_ok h
  obtain rfl := Except.ok.inj ht
  refine ⟨rfl, ?_⟩
  by_cases haddr : CONTROLTHREAD_BASE ≤ addr ∧ addrlen ≠ 0
  · rw [sysAccept_eq hs haddr.1 haddr.2] at hcall
    by_cases hstate : (t.server srv).queue.state = SS_CONNECTING ∨
        (t.server srv).queue.state = SS_CONNECTED
    · obtain ⟨p, hp, -⟩ := hs.process
      rw [if_pos hstate] at hcall
      exact Or.inr ⟨haddr.1, haddr.2, hstate, ret, acceptPending_inv ⟨p, hp⟩ hcall, rfl⟩
    · rw [if_neg hstate] at hcall
      obtain ⟨rfl, rfl⟩ := Prod.mk.inj (Except.ok.inj hcall)
      exact Or.inl ⟨rfl, Or.inr hstate⟩
  · obtain ⟨hret, rfl⟩ := sysAccept_refused haddr hcall
    refine Or.inl ⟨?_, Or.inl haddr⟩
    rw [if_pos hret]

/-- Every call keeps the cursors and the slots used in range. -/
lemma InRange.step {srv : Listener} {t t' : BacklogTrace} {call : BacklogCall}
    (h : InRange srv t) (hstep : backlogStep srv t call = .ok t') : InRange srv t' := by
  cases call with
  | connect pid sockfd addr addrlen =>
      obtain ⟨hfixed, -, ⟨-, hqueues⟩ | ⟨client, -, -, hconnects⟩⟩ :=
        backlogStep_connect_inv h.serves hstep
      · exact ⟨h.serves.of_fixed hfixed, hqueues srv.socket ▸ h.bounded⟩
      · exact ⟨h.serves.of_fixed hfixed,
          hconnects.atServer ▸ (h.bounded.withState SS_CONNECTING).put client⟩
  | listen backlog =>
      obtain ⟨hfixed, -, -, hqueue, -⟩ := backlogStep_listen_inv h.serves hstep
      obtain ⟨hlo, hhi⟩ := backlogSize_range backlog
      exact ⟨h.serves.of_fixed hfixed, hqueue ▸ h.bounded.resize hlo hhi⟩
  | accept addr addrlen =>
      obtain ⟨-, ⟨rfl, -⟩ | ⟨-, -, -, ret, hends, -⟩⟩ := backlogStep_accept_inv h.serves hstep
      · exact h
      · obtain ⟨state, -, hqueue⟩ := hends.atServer
        exact ⟨h.serves.of_fixed hends.fixed, hqueue ▸ h.bounded.advance.withState state⟩

/-! ## The clients that wait -/

/-- The clients that wait are in the slots that the cursor of the accepts comes to next, in the order
of their connects, and the cursor of the connects is where the last of them is. -/
structure Waiting (srv : Listener) (t : BacklogTrace) (waiting : List ℕ) : Prop
    extends InRange srv t where
  split : t.connected = t.accepted ++ waiting
  distinct : t.connected.Nodup
  known : ∀ c ∈ t.connected, (c ≠ 0 ∧ ∃ q ≠ 0, isSocket (t.state.files q) = TRUE ∧
    (t.state.files q).socket = c) ∧ (t.state.sockets c).queue.state ≠ SS_UNCONNECTED
  idle : t.connected = [] → (t.server srv).queue.state = SS_UNCONNECTED
  busy : t.connected ≠ [] → (t.server srv).queue.state = SS_CONNECTING ∨
    (t.server srv).queue.state = SS_CONNECTED
  slot : ∀ k c, waiting[k]? = some c →
    (t.server srv).queue.slots.cell
      (cursorAfter (t.server srv).queue.max (t.server srv).queue.head (k + 1)) = c
  tail : (t.server srv).queue.tail
    = cursorAfter (t.server srv).queue.max (t.server srv).queue.head waiting.length

variable {srv : Listener} {t t' : BacklogTrace} {waiting : List ℕ}

/-- A client whose file and socket belong together has them after the call, too. -/
lemma known_of_fixed {s s' : SocketState} (hf : s'.fixed = s.fixed) {c : ℕ}
    (h : c ≠ 0 ∧ ∃ q ≠ 0, isSocket (s.files q) = TRUE ∧ (s.files q).socket = c) :
    c ≠ 0 ∧ ∃ q ≠ 0, isSocket (s'.files q) = TRUE ∧ (s'.files q).socket = c := by
  obtain ⟨hc, q, hq, hsocket, hto⟩ := h
  have hfile : { s'.files q with file := 0 } = { s.files q with file := 0 } :=
    congrFun (congrArg (fun x => x.2.1) hf) q
  have hmagic : (s'.files q).magic = (s.files q).magic := (congrArg SockFile.magic hfile :)
  have hobject : (s'.files q).object = (s.files q).object := (congrArg SockFile.object hfile :)
  have hsock : (s'.files q).socket = (s.files q).socket := (congrArg SockFile.socket hfile :)
  refine ⟨hc, q, hq, ?_, hsock.trans hto⟩
  rw [isSocket, hmagic, hobject]
  exact hsocket

namespace Waiting

lemma pending_eq (h : Waiting srv t waiting) : t.pending = waiting := by
  have hnodup := h.distinct
  rw [h.split, List.nodup_append] at hnodup
  have hfirst : t.accepted.filter (fun c => c ∉ t.accepted) = [] :=
    List.filter_eq_nil_iff.2 fun c hc => by simpa using hc
  have hrest : waiting.filter (fun c => c ∉ t.accepted) = waiting :=
    List.filter_eq_self.2 fun c hc => by
      simpa using fun hmem => hnodup.2.2 c hmem c hc rfl
  rw [BacklogTrace.pending, h.split, List.filter_append, hfirst, hrest, List.nil_append]

/-- A client that waits has a valid socket and a file that leads to it. -/
lemma client (h : Waiting srv t waiting) {c : ℕ} (hc : c ∈ t.connected) :
    c ≠ 0 ∧ (t.state.sockets c).Valid ∧ (t.state.sockets c).privateFile ≠ 0 ∧
      (t.state.files (t.state.sockets c).privateFile).socket = c := by
  obtain ⟨⟨hne, q, hq, hsocket, rfl⟩, -⟩ := h.known c hc
  obtain ⟨hvalid, hprivate⟩ := h.serves.clients q hq hsocket hne
  rw [hprivate]
  exact ⟨hne, hvalid, hq, rfl⟩

/-- A call that leaves the queues alone. -/
lemma keep (h : Waiting srv t waiting) (hfixed : t'.state.fixed = t.state.fixed)
    (hconnected : t'.connected = t.connected) (haccepted : t'.accepted = t.accepted)
    (hqueues : ∀ q, (t'.state.sockets q).queue = (t.state.sockets q).queue) :
    Waiting srv t' waiting := by
  constructor
  · exact ⟨h.serves.of_fixed hfixed, hqueues _ ▸ h.bounded⟩
  · rw [hconnected, haccepted, h.split]
  · rw [hconnected]
    exact h.distinct
  · intro c hc
    rw [hconnected] at hc
    obtain ⟨hknown, hstate⟩ := h.known c hc
    exact ⟨known_of_fixed hfixed hknown, hqueues c ▸ hstate⟩
  · rw [hconnected, hqueues]
    exact h.idle
  · rw [hconnected, hqueues]
    exact h.busy
  · rw [hqueues]
    exact h.slot
  · rw [hqueues]
    exact h.tail

/-- A connect that finds room puts its client behind the others. -/
lemma connect (h : Waiting srv t waiting) {pid sockfd : ℤ} {client : ℕ}
    (hroom : (waiting.length : ℤ) < (t.server srv).queue.max)
    (hfixed : t'.state.fixed = t.state.fixed)
    (haccepted : t'.accepted = t.accepted) (hconnected : t'.connected = t.connected ++ [client])
    (hasks : Asks t.state pid sockfd client)
    (hconnects : Connects t.state t'.state client srv.socket) :
    Waiting srv t' (waiting ++ [client]) := by
  have hnew : client ∉ t.connected := fun hmem => (h.known client hmem).2 hasks.unconnected
  have hqueue := hconnects.atServer
  have htail : backlogNext (t.server srv).queue.max (t.server srv).queue.tail
      = cursorAfter (t.server srv).queue.max (t.server srv).queue.head (waiting.length + 1) := by
    rw [h.tail, cursorAfter_succ']
  constructor
  · exact ⟨h.serves.of_fixed hfixed, hqueue ▸ (h.bounded.withState SS_CONNECTING).put client⟩
  · rw [hconnected, haccepted, h.split, List.append_assoc]
  · rw [hconnected]
    exact List.nodup_append.2 ⟨h.distinct, List.nodup_singleton _, fun a ha b hb hab =>
      hnew (List.mem_singleton.1 hb ▸ hab ▸ ha)⟩
  · have hstate : ∀ c, c = client ∨ (t.state.sockets c).queue.state ≠ SS_UNCONNECTED →
        (t'.state.sockets c).queue.state ≠ SS_UNCONNECTED := by
      intro c hc
      by_cases hserver : c = srv.socket
      · rw [hserver, hqueue]
        exact (by decide : SS_CONNECTING ≠ SS_UNCONNECTED)
      by_cases hclient : c = client
      · rw [hclient, hconnects.atClient (hclient ▸ hserver)]
        exact (by decide : SS_CONNECTING ≠ SS_UNCONNECTED)
      · rw [hconnects.others c hserver hclient]
        exact hc.resolve_left hclient
    intro c hc
    rw [hconnected] at hc
    rcases List.mem_append.1 hc with hc | hc
    · obtain ⟨hknown, hbusy⟩ := h.known c hc
      exact ⟨known_of_fixed hfixed hknown, hstate c (Or.inr hbusy)⟩
    · obtain rfl := List.mem_singleton.1 hc
      exact ⟨known_of_fixed hfixed ⟨hasks.ne, hasks.file⟩, hstate c (Or.inl rfl)⟩
  · intro hnil
    exact absurd (hconnected.symm.trans hnil) (by simp)
  · intro _
    rw [hqueue]
    exact Or.inl rfl
  · intro k c hk
    rw [hqueue]
    show ((t.server srv).queue.slots.store
      (backlogNext (t.server srv).queue.max (t.server srv).queue.tail) [client]).cell
        (cursorAfter (t.server srv).queue.max (t.server srv).queue.head (k + 1)) = c
    rw [htail]
    have hlt : k < (waiting ++ [client]).length := (List.getElem?_eq_some_iff.1 hk).1
    rw [List.length_append, List.length_singleton] at hlt
    by_cases hlast : k = waiting.length
    · subst hlast
      rw [List.getElem?_concat_length] at hk
      obtain rfl := Option.some.inj hk
      exact Memory.store_cell_single
    · rw [List.getElem?_append_left (by omega)] at hk
      rw [Memory.store_cell_outside, h.slot k c hk]
      have hne : cursorAfter (t.server srv).queue.max (t.server srv).queue.head (k + 1)
          ≠ cursorAfter (t.server srv).queue.max (t.server srv).queue.head (waiting.length + 1) :=
        fun heq => hlast (cursorAfter_inj h.bounded.max_pos h.bounded.head (by omega) hroom heq)
      simp only [List.length_singleton]
      omega
  · rw [hqueue, List.length_append, List.length_singleton]
    exact htail

/-- The cursor of the accepts comes to the first client that waits. -/
lemma found (h : Waiting srv t waiting) {c : ℕ} {rest : List ℕ} (hwaiting : waiting = c :: rest) :
    (t.server srv).queue.found.1 = c := by
  have hc : c ∈ t.connected := by
    rw [h.split, hwaiting]
    exact List.mem_append_right _ (List.mem_cons_self ..)
  have hcell : (t.server srv).queue.slots.cell
      (backlogNext (t.server srv).queue.max (t.server srv).queue.head) = c :=
    h.slot 0 c (by rw [hwaiting]; rfl)
  have hlt := @backlogNext_lt _ (t.server srv).queue.head h.bounded.max_pos
  obtain ⟨n, hn⟩ : ∃ n, ((t.server srv).queue.max + 1
      - backlogNext (t.server srv).queue.max (t.server srv).queue.head).toNat = n + 1 :=
    ⟨_, (Nat.succ_pred_eq_of_pos (by omega)).symm⟩
  rw [Queue.found, hn, probe_first (by rw [hcell]; exact (h.client hc).1), hcell]

/-- **An accept with a client that waits** returns the first of them. -/
lemma accept (h : Waiting srv t waiting) {c : ℕ} {rest : List ℕ} (hwaiting : waiting = c :: rest)
    {ret : ℤ} (hconnected : t'.connected = t.connected)
    (hends : AcceptEnds srv.pid srv.socket ret t.state t'.state) (haccepted : t'.accepted =
      if ret < 0 then t.accepted else t.accepted ++ [socketAt t'.state srv.pid ret]) :
    t'.accepted = t.accepted ++ [c] ∧ (t'.state.sockets c).Valid ∧ Waiting srv t' rest := by
  have hc : c ∈ t.connected := by
    rw [h.split, hwaiting]
    exact List.mem_append_right _ (List.mem_cons_self ..)
  obtain ⟨hne, hvalid, -, hfile⟩ := h.client hc
  have hresult := hends.result
  simp only [h.found hwaiting] at hresult
  obtain ⟨-, hnone⟩ | ⟨rfl, -, -, hsocket⟩ := hresult
  · exact absurd hnone (not_or.2 ⟨hne, not_not.2 hvalid⟩)
  rw [if_neg (by decide), hsocket, hfile] at haccepted
  obtain ⟨⟨hused, hmagic⟩, -⟩ := valid_of_fixed hends.fixed c
  obtain ⟨state, hstate, hqueue⟩ := hends.atServer
  refine ⟨haccepted, ⟨hused.trans hvalid.1, hmagic.trans hvalid.2⟩, ?_⟩
  constructor
  · exact ⟨h.serves.of_fixed hends.fixed, hqueue ▸ h.bounded.advance.withState state⟩
  · rw [hconnected, haccepted, h.split, hwaiting, List.append_assoc]
    rfl
  · rw [hconnected]
    exact h.distinct
  · intro x hx
    rw [hconnected] at hx
    obtain ⟨hknown, hbusy⟩ := h.known x hx
    exact ⟨known_of_fixed hends.fixed hknown, hends.others x hbusy⟩
  · intro hnil
    exact absurd (hconnected ▸ hc) (by rw [hnil]; exact List.not_mem_nil)
  · intro _
    rw [hqueue]
    exact hstate
  · intro k x hk
    rw [hqueue]
    show (t.server srv).queue.found.2.cell _ = x
    rw [Queue.found, probe_cell]
    exact h.slot (k + 1) x (by rw [hwaiting]; exact hk)
  · rw [hqueue]
    have htail := h.tail
    rw [hwaiting] at htail
    exact htail

/-- A listen that leaves the clients that wait where they are. -/
lemma listen (h : Waiting srv t waiting) {size : ℤ} (hlo : 1 ≤ size) (hhi : size ≤ 31)
    (hslots : ∀ k ≤ waiting.length, cursorAfter size (t.server srv).queue.head k
      = cursorAfter (t.server srv).queue.max (t.server srv).queue.head k)
    (hfixed : t'.state.fixed = t.state.fixed) (hconnected : t'.connected = t.connected)
    (haccepted : t'.accepted = t.accepted)
    (hqueue : (t'.server srv).queue = { (t.server srv).queue with max := size })
    (hstates : ∀ q, (t'.state.sockets q).queue.state = (t.state.sockets q).queue.state) :
    Waiting srv t' waiting := by
  constructor
  · exact ⟨h.serves.of_fixed hfixed, hqueue ▸ h.bounded.resize hlo hhi⟩
  · rw [hconnected, haccepted, h.split]
  · rw [hconnected]
    exact h.distinct
  · intro c hc
    rw [hconnected] at hc
    obtain ⟨hknown, hstate⟩ := h.known c hc
    exact ⟨known_of_fixed hfixed hknown, hstates c ▸ hstate⟩
  · rw [hconnected, hstates]
    exact h.idle
  · rw [hconnected, hstates]
    exact h.busy
  · intro k c hk
    have hlt : k < waiting.length := (List.getElem?_eq_some_iff.1 hk).1
    rw [hqueue]
    show (t.server srv).queue.slots.cell
      (cursorAfter size (t.server srv).queue.head (k + 1)) = c
    rw [hslots (k + 1) hlt]
    exact h.slot k c hk
  · rw [hqueue]
    show (t.server srv).queue.tail = cursorAfter size (t.server srv).queue.head waiting.length
    rw [hslots _ le_rfl]
    exact h.tail

/-- An accept that gets to the list does not fault. -/
lemma accept_ok (h : Waiting srv t waiting) {c : ℕ} {rest : List ℕ} (hwaiting : waiting = c :: rest)
    {addr addrlen : ℕ} (haddr : CONTROLTHREAD_BASE ≤ addr) (haddrlen : addrlen ≠ 0) :
    ∃ t', backlogStep srv t (.accept addr addrlen) = .ok t' := by
  have hc : c ∈ t.connected := by
    rw [h.split, hwaiting]
    exact List.mem_append_right _ (List.mem_cons_self ..)
  have hstate := h.busy (List.ne_nil_of_mem hc)
  have hfile : (t.state.sockets (t.server srv).queue.found.1).privateFile ≠ 0 := by
    rw [h.found hwaiting]
    exact (h.client hc).2.2.1
  obtain ⟨ret, s', hcall⟩ := @acceptPending_ok t.state srv.pid srv.socket
    ⟨backlogNext_nonneg h.bounded.head, backlogNext_lt h.bounded.max_pos⟩ hfile
  have haccept : sysAccept srv.pid srv.fd addr addrlen t.state = .ok (ret, s') := by
    rw [sysAccept_eq h.serves haddr haddrlen, if_pos hstate, hcall]
  exact ⟨_, by simp only [backlogStep, haccept, ok_bind]; rfl⟩

/-- **Repeated accepts** return every client that waits. -/
lemma accepts {addr addrlen : ℕ} (haddr : CONTROLTHREAD_BASE ≤ addr) (haddrlen : addrlen ≠ 0) :
    ∀ {waiting : List ℕ} {t : BacklogTrace}, Waiting srv t waiting →
      ∃ t', runs (backlogStep srv) t (List.replicate waiting.length (.accept addr addrlen)) = .ok t' ∧
        t'.connected = t.connected ∧ t'.accepted = t.connected
  | [], t, h => ⟨t, rfl, rfl, by rw [h.split, List.append_nil]⟩
  | c :: rest, t, h => by
      obtain ⟨t₁, hstep⟩ := h.accept_ok rfl haddr haddrlen
      obtain ⟨hconnected, ⟨-, hnot⟩ | ⟨-, -, -, ret, hends, haccepted⟩⟩ :=
        backlogStep_accept_inv h.serves hstep
      · have hne : t.connected ≠ [] := by
          rw [h.split]
          simp
        exact absurd hnot (not_or.2 ⟨not_not.2 ⟨haddr, haddrlen⟩,
          not_not.2 (h.busy hne)⟩)
      · obtain ⟨-, -, hrest⟩ := h.accept rfl hconnected hends haccepted
        obtain ⟨t', hruns, hc, ha⟩ := accepts haddr haddrlen hrest
        refine ⟨t', ?_, hc.trans hconnected, ha.trans hconnected⟩
        rw [List.length_cons, List.replicate_succ, runs_cons_ok hstep]
        exact hruns

lemma noneLost (h : Waiting srv t waiting) : NoneLost srv t where
  once := by
    have hnodup := h.distinct
    rw [h.split, List.nodup_append] at hnodup
    exact hnodup.1
  known := by
    rw [h.split]
    exact List.subset_append_left _ _
  distinct := h.distinct
  all addr addrlen haddr haddrlen := by
    obtain ⟨t', hruns, hconnected, haccepted⟩ := h.accepts haddr haddrlen
    refine ⟨_, t', hruns, hconnected, fun c hc => ?_⟩
    rw [haccepted]
    exact List.count_eq_one_of_mem h.distinct hc

/-- **One call.** -/
lemma step (h : Waiting srv t waiting) {call : BacklogCall}
    (hcondition : BacklogCondition srv t call) (hstep : backlogStep srv t call = .ok t') :
    BacklogContract srv t call t' ∧ ∃ waiting', Waiting srv t' waiting' := by
  have hpending := h.pending_eq
  cases call with
  | connect pid sockfd addr addrlen =>
      have hroom : (waiting.length : ℤ) < (t.server srv).queue.max := by
        rw [← hpending]
        exact hcondition
      obtain ⟨hfixed, haccepted, ⟨hconnected, hqueues⟩ | ⟨client, hconnected, hasks, hconnects⟩⟩ :=
        backlogStep_connect_inv h.serves hstep
      · have hkeep := h.keep hfixed hconnected haccepted hqueues
        exact ⟨⟨hkeep.noneLost, fun _ => hconnected⟩, _, hkeep⟩
      · have hwait := h.connect hroom hfixed haccepted hconnected hasks hconnects
        exact ⟨⟨hwait.noneLost, fun hfull => absurd hcondition (not_lt.2 hfull)⟩, _, hwait⟩
  | listen backlog =>
      obtain ⟨hlo, hhi⟩ := backlogSize_range backlog
      obtain ⟨hfixed, hconnected, haccepted, hqueue, hstates⟩ :=
        backlogStep_listen_inv h.serves hstep
      have hlisten := h.listen hlo hhi (hpending ▸ hcondition) hfixed hconnected haccepted hqueue
        hstates
      exact ⟨⟨hlisten.noneLost, trivial⟩, _, hlisten⟩
  | accept addr addrlen =>
      obtain ⟨hconnected, ⟨rfl, -⟩ | ⟨haddr, haddrlen, hstate, ret, hends, haccepted⟩⟩ :=
        backlogStep_accept_inv h.serves hstep
      · exact ⟨⟨h.noneLost, Or.inl rfl⟩, _, h⟩
      · have hnil : t.connected ≠ [] := by
          intro hnil
          rw [h.idle hnil] at hstate
          exact absurd hstate (by decide)
        have hne : waiting ≠ [] := by
          have hbase : CONTROLTHREAD_BASE ≠ 0 := by decide
          rcases hcondition with hnull | hnull | hnone | hwaits
          · omega
          · exact absurd hnull haddrlen
          · exact absurd hnone hnil
          · rwa [hpending] at hwaits
        obtain ⟨c, rest, rfl⟩ := List.exists_cons_of_ne_nil hne
        obtain ⟨haccept, hvalid, hrest⟩ := h.accept rfl hconnected hends haccepted
        refine ⟨⟨hrest.noneLost, Or.inr ⟨c, ?_, haccept, hvalid⟩⟩, _, hrest⟩
        rw [hpending]
        exact List.mem_cons_self ..

end Waiting

/-! ## The result -/

lemma waiting_start {s : SocketState} (h : Opened srv s) : Waiting srv (.start s) [] where
  serves := h.toServes
  bounded := by
    show (s.sockets srv.socket).queue.Bounded
    rw [h.fresh]
    exact ⟨by decide, by decide, le_rfl, le_rfl, fun _ hmem => absurd hmem List.not_mem_nil⟩
  split := rfl
  distinct := List.nodup_nil
  known c hc := absurd hc List.not_mem_nil
  idle _ := by
    show (s.sockets srv.socket).queue.state = SS_UNCONNECTED
    rw [h.fresh]
    rfl
  busy hne := absurd rfl hne
  slot k c hk := by cases hk
  tail := by
    show (s.sockets srv.socket).queue.tail = (s.sockets srv.socket).queue.head
    rw [h.fresh]
    rfl

instance (srv : Listener) (t : BacklogTrace) :
    ∀ call, Decidable (BacklogCondition srv t call)
  | .connect _ _ _ _ => inferInstanceAs (Decidable (_ < _))
  | .listen _ => inferInstanceAs (Decidable (∀ k ≤ _, _))
  | .accept _ _ => inferInstanceAs (Decidable (_ ∨ _))

/-- **The backlog.**  Every slot used lies in the array.  In every run in which a connect finds
room, an accept finds a client, and a listen keeps the clients that wait in their order, no client
is displaced and every client is returned by exactly one accept. -/
theorem backlog_run {s : SocketState} (hs : Opened srv s) (calls : List BacklogCall) :
    Along (backlogStep srv) (SlotsInArray srv) (.start s) calls ∧
      (Meets (backlogStep srv) (BacklogCondition srv) (.start s) calls →
        NoneLost srv (.start s) ∧
          AlongSteps (backlogStep srv) (BacklogContract srv) (.start s) calls) := by
  have hstart := waiting_start hs
  refine ⟨?_, fun hmeets => ⟨hstart.noneLost, ?_⟩⟩
  · have hrange : Along (backlogStep srv) (InRange srv) (.start s) calls :=
      along_keep (fun _ _ _ h hstep => h.step hstep) calls hstart.toInRange
    exact hrange.imp fun _ h => h.bounded.used
  · refine hmeets.alongSteps (J := fun t => ∃ waiting, Waiting srv t waiting) ?_ ⟨[], hstart⟩
    rintro t call t' ⟨waiting, hwaiting⟩ hcondition hstep
    exact hwaiting.step hcondition hstep

/-- The window server 1 with its socket at 200, and two processes with a socket each, at 201 and
202. -/
def twoClients : SocketState where
  processList pid :=
    if 1 ≤ pid ∧ pid ≤ 3 then
      some ⟨⟨TRUE, 1234, Function.update (fun _ => 0) 3 (99 + pid)⟩, 199 + pid⟩
    else none
  files q :=
    if 100 ≤ q ∧ q ≤ 102 then ⟨TRUE, 1234, .socket, TRUE, TRUE, 100 + q, 3⟩
    else ⟨0, 0, .file, 0, 0, 0, 0⟩
  sockets q := { createSocketObject with privateFile := q - 100 }
  gramadoPorts port := if port = GRAMADO_PORT_WS then 1 else 0
  newClientPortNumber := 11000

/-- The server of `twoClients`. -/
def windowServer : Listener := ⟨1, 3, 100, 200⟩

/-- The address of the window server: the family `AF_GRAMADO` and the name "ds". -/
def displayServer : SockAddr where
  address := CONTROLTHREAD_BASE
  bytes k := [64, 31, 100, 115].getD k 0

lemma twoClients_opened : Opened windowServer twoClients where
  pid_lt := by decide
  fd_lt := by decide
  file_ne := by decide
  socket_ne := by decide
  process := ⟨_, rfl, rfl, rfl, rfl, rfl⟩
  file := ⟨rfl, rfl, rfl, rfl⟩
  valid := ⟨rfl, rfl⟩
  oneServer port hport p hp := by
    by_cases hws : port = GRAMADO_PORT_WS
    · subst hws
      obtain rfl := Option.some.inj (show _ = some p from hp)
      exact Or.inl rfl
    · have hnone : twoClients.processList (twoClients.gramadoPorts port).toNat = none := by
        simp only [twoClients, if_neg hws]
        rfl
      rw [hnone] at hp
      cases hp
  clients q hq hsocket hne := by
    by_cases hfile : 100 ≤ q ∧ q ≤ 102
    · simp only [twoClients, if_pos hfile]
      exact ⟨⟨rfl, rfl⟩, by omega⟩
    · simp only [twoClients, if_neg hfile] at hne
      exact absurd rfl hne
  fresh := rfl

/-- Two clients connect and are accepted. -/
theorem backlog_run_twoClients :
    AlongSteps (backlogStep windowServer) (BacklogContract windowServer) (.start twoClients)
      [.listen 2, .connect 2 3 displayServer 16, .connect 3 3 displayServer 16,
        .accept CONTROLTHREAD_BASE 1, .accept CONTROLTHREAD_BASE 1] :=
  ((backlog_run twoClients_opened _).2 (by decide +kernel)).2

/-- The client of a backlog of size one is returned by every further accept; and a second client
that connects takes the place of the first. -/
theorem backlog_run_fails :
    Opened windowServer twoClients ∧
      ¬AlongSteps (backlogStep windowServer) (BacklogContract windowServer) (.start twoClients)
        [.listen 1, .connect 2 3 displayServer 16, .accept CONTROLTHREAD_BASE 1,
          .accept CONTROLTHREAD_BASE 1] ∧
      ¬AlongSteps (backlogStep windowServer) (BacklogContract windowServer) (.start twoClients)
        [.listen 1, .connect 2 3 displayServer 16, .connect 3 3 displayServer 16] := by
  refine ⟨twoClients_opened, fun h => ?_, fun h => ?_⟩
  · obtain ⟨t', hruns, haccepted⟩ : ∃ t', runs (backlogStep windowServer) (.start twoClients)
        ([.listen 1, .connect 2 3 displayServer 16, .accept CONTROLTHREAD_BASE 1] ++
          [.accept CONTROLTHREAD_BASE 1]) = .ok t' ∧ t'.accepted = [201, 201] :=
      runs_observed (by decide +kernel)
    obtain ⟨t, hfirst, hlast⟩ := runs_append_inv hruns
    obtain ⟨t₁, hstep, hend⟩ := runs_cons_inv hlast
    obtain rfl : t₁ = t' := by simpa using hend
    have honce := (AlongSteps.last h hfirst hstep).1.once
    rw [haccepted] at honce
    exact absurd honce (by decide)
  · obtain ⟨t', hruns, hconnected⟩ : ∃ t', runs (backlogStep windowServer) (.start twoClients)
        ([.listen 1, .connect 2 3 displayServer 16] ++ [.connect 3 3 displayServer 16])
          = .ok t' ∧ t'.connected = [201, 202] :=
      runs_observed (by decide +kernel)
    obtain ⟨t, hfirst, hlast⟩ := runs_append_inv hruns
    obtain ⟨t₁, hstep, hend⟩ := runs_cons_inv hlast
    obtain rfl : t₁ = t' := by simpa using hend
    obtain ⟨t₂, hruns₂, hfull⟩ : ∃ t₂, runs (backlogStep windowServer) (.start twoClients)
        [.listen 1, .connect 2 3 displayServer 16] = .ok t₂ ∧
          (t₂.pending, (t₂.server windowServer).backlogMax, t₂.connected) = ([201], 1, [201]) :=
      runs_observed (by decide +kernel)
    obtain rfl : t = t₂ := Except.ok.inj (hfirst.symm.trans hruns₂)
    obtain ⟨hpending, hmax, hbefore⟩ : t.pending = [201] ∧
        (t.server windowServer).backlogMax = 1 ∧ t.connected = [201] := by
      simpa only [Prod.mk.injEq] using hfull
    have hsame := (AlongSteps.last h hfirst hstep).2 (by rw [hpending, hmax]; rfl)
    rw [hconnected, hbefore] at hsame
    exact absurd hsame (by decide)

end Gramado
