import Gramado.Net.Socket

/-!
# Creating a socket

`sys_socket` of `kres/net/socket.c`, with the `socket_gramado`, `socket_unix` and `socket_inet` of
`kres/net/sockint.c`.  A socket is an object, a buffer and a file, each from the kernel's heap, and a slot of the
calling process; any of the four may be missing.

* `sysSocket_exact` — what the call did, whatever it returns; a protocol other than 0 and an `AF_INET` socket
  that is not raw stop the system.
* `sysSocket_failure_priv` — the private socket of the process after a failure.
-/

namespace Gramado

def SOCK_STREAM : ℤ := 1
def SOCK_DGRAM : ℤ := 2
def SOCK_RAW : ℤ := 3

/-! ## The structures -/

/-- `struct kstdio_sync_d`, but for the two flags of a `SockFile`. -/
structure FileSync where
  senderPid : ℤ
  receiverPid : ℤ
  action : ℤ
  canRead : ℤ
  canWrite : ℤ
  canExecute : ℤ
  blockOnRead : ℤ
  blockOnReadEmpty : ℤ
  blockOnWrite : ℤ
  blockOnWriteFull : ℤ
  isBlocked : ℤ
  deriving DecidableEq

/-- `struct file_d`, with what a socket's file has besides. -/
structure SocketStream extends SockFile where
  pid : ℤ
  uid : ℤ
  gid : ℤ
  sync : FileSync
  flags : UInt16
  base : ℕ
  p : ℕ
  lbfsize : ℤ
  cnt : ℤ
  r : ℤ
  w : ℤ
  socketBufferFull : ℤ
  fdCounter : ℤ
  deriving DecidableEq

/-- `struct socket_d`, with what its creation sets besides. -/
structure SocketObject extends Socket where
  pid : ℤ
  uid : ℤ
  gid : ℤ
  family : ℤ
  type : ℤ
  protocol : ℤ
  connectionType : ℤ
  /-- `addr.sa_family`, and the first two bytes of `addr.sa_data`. -/
  saFamily : ℤ
  saData : UInt8 × UInt8
  /-- `addr_in`. -/
  sinFamily : ℤ
  sinAddr : ℕ
  sinPort : ℕ

/-- The processes, and the files and sockets by their address. -/
structure CreationState where
  processList : ℕ → Option SocketProcess
  files : ℕ → SocketStream
  sockets : ℕ → SocketObject

/-- The caller: `get_current_process()`, `current_user` and `current_group`. -/
structure SocketCaller where
  pid : ℤ
  uid : ℤ
  gid : ℤ

/-- What the three calls of `kmalloc` return: for the object, the buffer and the file.  0 is a failure. -/
structure Allocations where
  object : ℕ
  buffer : ℕ
  file : ℕ

/-- The process at `pid` is changed. -/
def CreationState.modifyProcess (s : CreationState) (pid : ℤ) (f : SocketProcess → SocketProcess) :
    CreationState :=
  { s with processList := Function.update s.processList pid.toNat ((s.processList pid.toNat).map f) }

/-- The socket at an address is another one. -/
def CreationState.setSocket (s : CreationState) (ptr : ℕ) (x : SocketObject) : CreationState :=
  { s with sockets := Function.update s.sockets ptr x }

/-- The file at an address is another one. -/
def CreationState.setFile (s : CreationState) (ptr : ℕ) (f : SocketStream) : CreationState :=
  { s with files := Function.update s.files ptr f }

/-! ## The three families -/

/-- The first free slot from 3 on; 31 is reserved. -/
def emptySlot (objects : ℕ → ℕ) : Option ℕ := (List.range' 3 28).find? fun i => objects i = 0

/-- The file of a socket; what is not mentioned is 0. -/
def newSocketFile (c : SocketCaller) (a : Allocations) (sock slot : ℕ) : SocketStream where
  used := TRUE
  magic := 1234
  object := .socket
  canAccept := TRUE
  canConnect := TRUE
  socket := sock
  file := slot
  pid := c.pid
  uid := c.uid
  gid := c.gid
  sync := {
    senderPid := -1
    receiverPid := -1
    -- ACTION_NULL
    action := 0
    canRead := TRUE
    canWrite := TRUE
    canExecute := FALSE
    blockOnRead := FALSE
    blockOnReadEmpty := TRUE
    blockOnWrite := TRUE
    blockOnWriteFull := TRUE
    isBlocked := FALSE }
  flags := SWR
  base := a.buffer
  p := a.buffer
  lbfsize := BUFSIZ
  cnt := BUFSIZ
  r := 0
  w := 0
  socketBufferFull := 0
  fdCounter := 0

/-- What the three families have in common: `own` is the family, and `address` fills in the socket's. -/
def socketOf (own : ℤ) (address : SocketObject → SocketObject) (c : SocketCaller) (a : Allocations) (sock : ℕ)
    (family : ℤ) (s : CreationState) : ℤ × CreationState :=
  if sock = 0 then (-1, s)
  else if (s.sockets sock).magic ≠ 1234 then (-1, s)
  else if family ≠ own then (-1, s)
  else
    let s := s.setSocket sock (address (s.sockets sock))
    if c.pid < 0 ∨ c.pid ≥ PROCESS_COUNT_MAX then (-1, s)
    else
      match s.processList c.pid.toNat with
      | none => (-1, s)
      | some process =>
          if process.used ≠ TRUE ∨ process.magic ≠ 1234 then (-1, s)
          else
            match emptySlot process.objects with
            | none => (-1, s)
            | some slot =>
                if a.buffer = 0 then (-1, s)
                else if a.file = 0 then (-1, s)
                else
                  let s := s.setFile a.file (newSocketFile c a sock slot)
                  let s := s.setSocket sock { s.sockets sock with privateFile := a.file }
                  (slot, s.modifyProcess c.pid fun p =>
                    { p with priv := sock, objects := Function.update p.objects slot a.file })

/-- The address of a local socket: two `x`. -/
def localAddress (family : ℤ) (x : SocketObject) : SocketObject :=
  { x with saFamily := family, saData := (120, 120) }

/-- The address of an `AF_INET` socket: 127.0.0.1, port 11369. -/
def inetAddress (x : SocketObject) : SocketObject :=
  { x with sinFamily := AF_INET, sinAddr := 0x7F000001, sinPort := 11369 }

/-- `socket_gramado`. -/
def socketGramado := socketOf AF_GRAMADO (localAddress AF_GRAMADO)

/-- `socket_unix`. -/
def socketUnix := socketOf AF_UNIX (localAddress AF_UNIX)

/-- `socket_inet`. -/
def socketInet := socketOf AF_INET inetAddress

/-! ## The call -/

/-- The socket object as `sys_socket` fills it in. -/
def newSocketObject (c : SocketCaller) (family type protocol connectionType : ℤ) : SocketObject :=
  { createSocketObject with
    pid := c.pid
    uid := c.uid
    gid := c.gid
    family := family
    type := type
    protocol := protocol
    connectionType := connectionType
    saFamily := 0
    saData := (0, 0)
    sinFamily := 0
    sinAddr := 0
    sinPort := 0 }

/-- `sys_socket`. -/
def sysSocket (c : SocketCaller) (a : Allocations) (family type protocol : ℤ) (s : CreationState) :
    Except Fault (ℤ × CreationState) :=
  if family < 0 then .ok (-EINVAL, s)
  else if type ≠ SOCK_STREAM ∧ type ≠ SOCK_DGRAM ∧ type ≠ SOCK_RAW then .ok (-EINVAL, s)
  else if protocol < 0 then .ok (-EINVAL, s)
  else if protocol ≠ 0 then .error (.panic "sys_socket: protocol not supported yet.\n")
  else if c.pid < 0 ∨ c.pid ≥ PROCESS_COUNT_MAX then .error (.panic "sys_socket: current_process fail\n")
  else
    match s.processList c.pid.toNat with
    | none => .error (.panic "sys_socket: p\n")
    | some p =>
        if p.magic ≠ 1234 then .error (.panic "sys_socket: p validation\n")
        else
          let socket := a.object
          if socket = 0 then .ok (-1, s)
          else
            let s := s.setSocket socket (newSocketObject c family type protocol 0)
            let s := s.modifyProcess c.pid fun p => { p with priv := socket }
            let connectionType (s : CreationState) (v : ℤ) : CreationState :=
              s.setSocket socket { s.sockets socket with connectionType := v }
            if family = AF_GRAMADO then .ok (socketGramado c a socket AF_GRAMADO (connectionType s 1))
            else if family = AF_UNIX then .ok (socketUnix c a socket AF_UNIX (connectionType s 1))
            else if family = AF_INET then
              let s := connectionType s 0
              if type ≠ SOCK_RAW then .error (.panic "sys_socket: Only SOCK_RAW in AF_INET for now\n")
              else .ok (socketInet c a socket AF_INET s)
            else .ok (-1, s)

/-! ## What a call did -/

variable {c : SocketCaller} {a : Allocations} {family type protocol : ℤ} {s s' : CreationState} {p : SocketProcess}

/-- A process that may call. -/
structure CreationState.Runs (s : CreationState) (c : SocketCaller) (p : SocketProcess) : Prop where
  pid : 0 ≤ c.pid ∧ c.pid < PROCESS_COUNT_MAX
  process : s.processList c.pid.toNat = some p
  used : p.used = TRUE
  magic : p.magic = 1234

/-- `type` is one of the three. -/
def TypeSupported (type : ℤ) : Prop := type = SOCK_STREAM ∨ type = SOCK_DGRAM ∨ type = SOCK_RAW

/-- What the system stops at: a protocol that is not there yet, and `AF_INET` for more than raw sockets. -/
structure Unsupported (a : Allocations) (family type protocol : ℤ) : Prop where
  accepted : 0 ≤ family ∧ TypeSupported type
  what : 0 < protocol ∨ protocol = 0 ∧ a.object ≠ 0 ∧ family = AF_INET ∧ type ≠ SOCK_RAW

/-- **A socket was created**: the slot was free and is the only one that changed, it holds a file that is valid
and empty, the file and the object are linked, and the object is the process's private socket. -/
structure SocketCreated (c : SocketCaller) (a : Allocations) (p : SocketProcess) (slot : ℕ)
    (s s' : CreationState) : Prop where
  range : 3 ≤ slot ∧ slot ≤ 30
  free : p.objects slot = 0
  process : s'.processList c.pid.toNat
    = some { p with priv := a.object, objects := Function.update p.objects slot a.file }
  allocated : a.file ≠ 0 ∧ a.object ≠ 0
  valid : (s'.files a.file).used = TRUE ∧ (s'.files a.file).magic = 1234 ∧
    (s'.files a.file).object = .socket ∧ (s'.files a.file).file = slot
  empty : (s'.files a.file).r = 0 ∧ (s'.files a.file).w = 0 ∧
    (s'.files a.file).cnt = (s'.files a.file).lbfsize ∧ (s'.files a.file).socketBufferFull = 0
  object : (s'.sockets a.object).used = TRUE ∧ (s'.sockets a.object).magic = 1234 ∧
    (s'.sockets a.object).state = SS_UNCONNECTED
  links : (s'.files a.file).socket = a.object ∧ (s'.sockets a.object).privateFile = a.file
  others : ∀ pid, pid ≠ c.pid.toNat → s'.processList pid = s.processList pid
  otherFiles : ∀ q, q ≠ a.file → s'.files q = s.files q
  otherSockets : ∀ q, q ≠ a.object → s'.sockets q = s.sockets q

/-- The call stopped before there was an object. -/
def StopsEarly (a : Allocations) (family type protocol : ℤ) : Prop :=
  family < 0 ∨ ¬TypeSupported type ∨ protocol < 0 ∨ a.object = 0

/-- Why no socket is created. -/
def NoSocket (a : Allocations) (p : SocketProcess) (family type protocol : ℤ) : Prop :=
  StopsEarly a family type protocol ∨ (family ≠ AF_GRAMADO ∧ family ≠ AF_UNIX ∧ family ≠ AF_INET) ∨
    emptySlot p.objects = none ∨ a.buffer = 0 ∨ a.file = 0

/-- **No socket was created**: no descriptor and no file changed, nor did the private socket if there was no
object. -/
structure SocketRefused (c : SocketCaller) (a : Allocations) (p : SocketProcess) (family type protocol : ℤ)
    (s s' : CreationState) : Prop where
  why : NoSocket a p family type protocol
  process : ∃ priv, s'.processList c.pid.toNat = some { p with priv := priv }
  early : StopsEarly a family type protocol → s' = s
  others : ∀ pid, pid ≠ c.pid.toNat → s'.processList pid = s.processList pid
  files : s'.files = s.files

/-! ## The proof -/

lemma emptySlot_some {objects : ℕ → ℕ} {slot : ℕ} (h : emptySlot objects = some slot) :
    (3 ≤ slot ∧ slot ≤ 30) ∧ objects slot = 0 := by
  have hmem := List.mem_of_find?_eq_some h
  rw [List.mem_range'_1] at hmem
  have hzero := List.find?_some h
  exact ⟨by omega, of_decide_eq_true hzero⟩

/-- A family's routine, on an object that is valid. -/
lemma socketOf_does (own : ℤ) (address : SocketObject → SocketObject) {sock : ℕ} (h : s.Runs c p)
    (hsock : sock ≠ 0) (hmagic : (s.sockets sock).magic = 1234) :
    socketOf own address c a sock own s =
      match emptySlot p.objects with
      | none => (-1, s.setSocket sock (address (s.sockets sock)))
      | some slot =>
          if a.buffer = 0 ∨ a.file = 0 then (-1, s.setSocket sock (address (s.sockets sock)))
          else
            (slot, {
              processList := Function.update s.processList c.pid.toNat
                (some { p with priv := sock, objects := Function.update p.objects slot a.file })
              files := Function.update s.files a.file (newSocketFile c a sock slot)
              sockets := Function.update s.sockets sock
                { address (s.sockets sock) with privateFile := a.file } }) := by
  unfold socketOf
  rw [if_neg hsock, if_neg (not_not.2 hmagic), if_neg (not_not.2 rfl)]
  dsimp only
  rw [if_neg (by have := h.pid; omega)]
  have hprocess : (s.setSocket sock (address (s.sockets sock))).processList c.pid.toNat = some p := h.process
  rw [hprocess]
  dsimp only
  rw [if_neg (by rw [h.used, h.magic]; exact fun hor => hor.elim (· rfl) (· rfl))]
  cases emptySlot p.objects with
  | none => rfl
  | some slot =>
      dsimp only
      by_cases hbuffer : a.buffer = 0
      · rw [if_pos hbuffer, if_pos (Or.inl hbuffer)]
      · by_cases hfile : a.file = 0
        · rw [if_neg hbuffer, if_pos hfile, if_pos (Or.inr hfile)]
        · rw [if_neg hbuffer, if_neg hfile, if_neg (fun hor => hor.elim hbuffer hfile)]
          simp only [CreationState.setFile, CreationState.setSocket, CreationState.modifyProcess,
            Function.update_self, Function.update_idem, h.process, Option.map_some]

/-- The object is the process's private socket, and the routine of its family runs. -/
lemma socketOf_outcome (own : ℤ) (address : SocketObject → SocketObject) (x : SocketObject) (h : s.Runs c p)
    (hobject : a.object ≠ 0) (hx : x.used = TRUE ∧ x.magic = 1234 ∧ x.state = SS_UNCONNECTED)
    (haddress : ∀ x, (address x).toSocket = x.toSocket) (v : ℤ)
    (hcall : socketOf own address c a a.object own
      { s with
        processList := Function.update s.processList c.pid.toNat (some { p with priv := a.object })
        sockets := Function.update s.sockets a.object x } = (v, s')) :
    (∃ slot : ℕ, v = slot ∧ SocketCreated c a p slot s s') ∨
      v < 0 ∧ (emptySlot p.objects = none ∨ a.buffer = 0 ∨ a.file = 0) ∧
        s'.processList = Function.update s.processList c.pid.toNat (some { p with priv := a.object }) ∧
        s'.files = s.files := by
  have hruns : CreationState.Runs { s with
      processList := Function.update s.processList c.pid.toNat (some { p with priv := a.object })
      sockets := Function.update s.sockets a.object x } c { p with priv := a.object } :=
    ⟨h.pid, Function.update_self .., h.used, h.magic⟩
  have hmagic : (Function.update s.sockets a.object x a.object).magic = 1234 := by
    rw [Function.update_self]
    exact hx.2.1
  rw [socketOf_does own address hruns hobject hmagic] at hcall
  cases hslot : emptySlot p.objects with
  | none =>
      simp only [hslot] at hcall
      obtain ⟨rfl, rfl⟩ := Prod.mk.inj hcall
      exact Or.inr ⟨by norm_num, Or.inl rfl, rfl, rfl⟩
  | some slot =>
      simp only [hslot] at hcall
      by_cases hfails : a.buffer = 0 ∨ a.file = 0
      · rw [if_pos hfails] at hcall
        obtain ⟨rfl, rfl⟩ := Prod.mk.inj hcall
        exact Or.inr ⟨by norm_num, Or.inr hfails, rfl, rfl⟩
      · rw [if_neg hfails] at hcall
        obtain ⟨rfl, rfl⟩ := Prod.mk.inj hcall
        obtain ⟨hrange, hfree⟩ := emptySlot_some hslot
        refine Or.inl ⟨slot, rfl, ?_⟩
        exact {
          range := hrange
          free := hfree
          process := Function.update_self ..
          allocated := ⟨fun hfile => hfails (Or.inr hfile), hobject⟩
          valid := by
            simp only [Function.update_self]
            exact ⟨rfl, rfl, rfl, rfl⟩
          empty := by
            simp only [Function.update_self]
            exact ⟨rfl, rfl, rfl, rfl⟩
          object := by
            simp only [Function.update_self, haddress]
            exact hx
          links := by
            simp only [Function.update_self, newSocketFile, and_self]
          others := fun pid hne => by
            simp only [Function.update_of_ne hne]
          otherFiles := fun q hne => Function.update_of_ne hne ..
          otherSockets := fun q hne => by
            simp only [Function.update_of_ne hne] }

/-- With an object, `sys_socket` calls the routine of the family. -/
lemma sysSocket_object (h : s.Runs c p) (hfamily : 0 ≤ family) (htype : TypeSupported type)
    (hobject : a.object ≠ 0) :
    sysSocket c a family type 0 s =
      let created (v : ℤ) : CreationState := { s with
        processList := Function.update s.processList c.pid.toNat (some { p with priv := a.object })
        sockets := Function.update s.sockets a.object (newSocketObject c family type 0 v) }
      if family = AF_GRAMADO then .ok (socketGramado c a a.object AF_GRAMADO (created 1))
      else if family = AF_UNIX then .ok (socketUnix c a a.object AF_UNIX (created 1))
      else if family = AF_INET then
        if type ≠ SOCK_RAW then .error (.panic "sys_socket: Only SOCK_RAW in AF_INET for now\n")
        else .ok (socketInet c a a.object AF_INET (created 0))
      else .ok (-1, created 0) := by
  have htypes : ¬(type ≠ SOCK_STREAM ∧ type ≠ SOCK_DGRAM ∧ type ≠ SOCK_RAW) := by
    rintro ⟨hstream, hdgram, hraw⟩
    exact htype.elim hstream fun hor => hor.elim hdgram hraw
  unfold sysSocket
  rw [if_neg (by omega), if_neg htypes, if_neg (by omega), if_neg (by omega),
    if_neg (by have := h.pid; omega), h.process]
  dsimp only
  rw [if_neg (not_not.2 h.magic), if_neg hobject]
  simp only [CreationState.setSocket, CreationState.modifyProcess, Function.update_self, Function.update_idem,
    h.process, Option.map_some, newSocketObject]

/-- Without one, it changes nothing. -/
lemma sysSocket_early (h : s.Runs c p) (hearly : StopsEarly a family type protocol) :
    (∃ v < 0, sysSocket c a family type protocol s = .ok (v, s)) ∨
      0 ≤ family ∧ TypeSupported type ∧ 0 < protocol ∧
        sysSocket c a family type protocol s = .error (.panic "sys_socket: protocol not supported yet.\n") := by
  have heinval : -EINVAL < 0 := by decide
  unfold sysSocket
  by_cases hfamily : family < 0
  · exact Or.inl ⟨-EINVAL, heinval, if_pos hfamily⟩
  rw [if_neg hfamily]
  by_cases htype : type ≠ SOCK_STREAM ∧ type ≠ SOCK_DGRAM ∧ type ≠ SOCK_RAW
  · exact Or.inl ⟨-EINVAL, heinval, if_pos htype⟩
  rw [if_neg htype]
  have hsupported : TypeSupported type := by
    unfold TypeSupported
    omega
  by_cases hprotocol : protocol < 0
  · exact Or.inl ⟨-EINVAL, heinval, if_pos hprotocol⟩
  rw [if_neg hprotocol]
  by_cases hzero : protocol = 0
  · have hobject : a.object = 0 := by
      rcases hearly with hneg | hbad | hneg | hnone
      · exact absurd hneg hfamily
      · exact absurd hsupported hbad
      · exact absurd hneg hprotocol
      · exact hnone
    rw [if_neg (not_not.2 hzero), if_neg (by have := h.pid; omega), h.process]
    dsimp only
    rw [if_neg (not_not.2 h.magic), if_pos hobject]
    exact Or.inl ⟨-1, by norm_num, rfl⟩
  · rw [if_pos hzero]
    exact Or.inr ⟨by omega, hsupported, by omega, rfl⟩

/-- With one, the routine of the family decides; the private socket is the object in any case. -/
lemma sysSocket_late (h : s.Runs c p) (hlate : ¬StopsEarly a family type protocol) :
    (0 < protocol ∨ protocol = 0 ∧ family = AF_INET ∧ type ≠ SOCK_RAW) ∧
        (∃ f, sysSocket c a family type protocol s = .error f) ∨
      protocol = 0 ∧ ¬(family = AF_INET ∧ type ≠ SOCK_RAW) ∧
        ∃ v s', sysSocket c a family type protocol s = .ok (v, s') ∧
          ((∃ slot : ℕ, v = slot ∧ SocketCreated c a p slot s s') ∨
            v < 0 ∧ NoSocket a p family type protocol ∧
              s'.processList
                = Function.update s.processList c.pid.toNat (some { p with priv := a.object }) ∧
              s'.files = s.files) := by
  obtain ⟨hfamily, hlate⟩ := not_or.1 hlate
  obtain ⟨htype, hlate⟩ := not_or.1 hlate
  obtain ⟨hprotocol, hobject⟩ := not_or.1 hlate
  have hsupported := not_not.1 htype
  have hcreated : ∀ v, (newSocketObject c family type 0 v).used = TRUE ∧
      (newSocketObject c family type 0 v).magic = 1234 ∧
      (newSocketObject c family type 0 v).state = SS_UNCONNECTED := fun v => ⟨rfl, rfl, rfl⟩
  by_cases hzero : protocol = 0
  · subst hzero
    rw [sysSocket_object h (by omega) hsupported hobject]
    dsimp only
    have hroutine : ∀ (own v : ℤ) (address : SocketObject → SocketObject),
        (∀ x, (address x).toSocket = x.toSocket) →
        ∃ v' s', (Except.ok (socketOf own address c a a.object own
            { s with
              processList := Function.update s.processList c.pid.toNat (some { p with priv := a.object })
              sockets := Function.update s.sockets a.object (newSocketObject c family type 0 v) })
          : Except Fault (ℤ × CreationState)) = .ok (v', s') ∧
          ((∃ slot : ℕ, v' = slot ∧ SocketCreated c a p slot s s') ∨
            v' < 0 ∧ NoSocket a p family type 0 ∧
              s'.processList
                = Function.update s.processList c.pid.toNat (some { p with priv := a.object }) ∧
              s'.files = s.files) := by
      intro own v address haddress
      obtain ⟨v', s', hcall⟩ : ∃ v' s', socketOf own address c a a.object own
          { s with
            processList := Function.update s.processList c.pid.toNat (some { p with priv := a.object })
            sockets := Function.update s.sockets a.object (newSocketObject c family type 0 v) } = (v', s') :=
        ⟨_, _, rfl⟩
      refine ⟨v', s', by rw [hcall], ?_⟩
      refine (socketOf_outcome own address _ h hobject (hcreated v) haddress v' hcall).imp id ?_
      exact fun ⟨hv, hwhy, hrest⟩ => ⟨hv, Or.inr (Or.inr hwhy), hrest⟩
    by_cases hgramado : family = AF_GRAMADO
    · rw [if_pos hgramado]
      refine Or.inr ⟨rfl, fun hand => ?_, hroutine AF_GRAMADO 1 (localAddress AF_GRAMADO) fun _ => rfl⟩
      rw [hgramado] at hand
      exact absurd hand.1 (by decide)
    rw [if_neg hgramado]
    by_cases hunix : family = AF_UNIX
    · rw [if_pos hunix]
      refine Or.inr ⟨rfl, fun hand => ?_, hroutine AF_UNIX 1 (localAddress AF_UNIX) fun _ => rfl⟩
      rw [hunix] at hand
      exact absurd hand.1 (by decide)
    rw [if_neg hunix]
    by_cases hinet : family = AF_INET
    · rw [if_pos hinet]
      by_cases hraw : type ≠ SOCK_RAW
      · rw [if_pos hraw]
        exact Or.inl ⟨Or.inr ⟨rfl, hinet, hraw⟩, _, rfl⟩
      · rw [if_neg hraw]
        exact Or.inr ⟨rfl, fun hand => hraw hand.2, hroutine AF_INET 0 inetAddress fun _ => rfl⟩
    · rw [if_neg hinet]
      exact Or.inr ⟨rfl, fun hand => hinet hand.1, _, _, rfl,
        Or.inr ⟨by norm_num, Or.inr (Or.inl ⟨hgramado, hunix, hinet⟩), rfl, rfl⟩⟩
  · refine Or.inl ⟨Or.inl (by omega), .panic "sys_socket: protocol not supported yet.\n", ?_⟩
    have htypes : ¬(type ≠ SOCK_STREAM ∧ type ≠ SOCK_DGRAM ∧ type ≠ SOCK_RAW) := by
      unfold TypeSupported at hsupported
      omega
    unfold sysSocket
    rw [if_neg hfamily, if_neg htypes, if_neg hprotocol, if_pos hzero]

/-- The private socket after a failure: the one before, or the new object, which no descriptor refers to. -/
lemma sysSocket_failure_priv (h : s.Runs c p) {v : ℤ}
    (hcall : sysSocket c a family type protocol s = .ok (v, s')) (hv : v < 0) :
    (StopsEarly a family type protocol → s' = s) ∧
      (¬StopsEarly a family type protocol →
        s'.processList = Function.update s.processList c.pid.toNat (some { p with priv := a.object })) := by
  constructor
  · intro hearly
    rcases sysSocket_early h hearly with ⟨v', -, hok⟩ | ⟨-, -, -, herror⟩
    · exact (Prod.mk.inj (Except.ok.inj (hcall.symm.trans hok))).2
    · rw [hcall] at herror
      cases herror
  · intro hlate
    rcases sysSocket_late h hlate with ⟨-, f, herror⟩ | ⟨-, -, v', t, hok, hcreated | ⟨-, -, hlist, -⟩⟩
    · rw [hcall] at herror
      cases herror
    · obtain ⟨rfl, rfl⟩ := Prod.mk.inj (Except.ok.inj (hcall.symm.trans hok))
      obtain ⟨slot, hslot, -⟩ := hcreated
      omega
    · obtain ⟨rfl, rfl⟩ := Prod.mk.inj (Except.ok.inj (hcall.symm.trans hok))
      exact hlist

/-- When the system stops. -/
lemma sysSocket_panics (h : s.Runs c p) :
    (∃ f, sysSocket c a family type protocol s = .error f) ↔ Unsupported a family type protocol := by
  by_cases hstops : StopsEarly a family type protocol
  · rcases sysSocket_early h hstops with ⟨v, -, hok⟩ | ⟨hfamily, htype, hprotocol, herror⟩
    · rw [hok]
      refine ⟨fun ⟨_, hf⟩ => (nomatch hf), fun hun => ?_⟩
      rcases hstops with hneg | hbad | hneg | hnone
      · exact absurd hun.accepted.1 (by omega)
      · exact absurd hun.accepted.2 hbad
      · rcases hun.what with hpos | ⟨hzero, -⟩ <;> omega
      · rcases hun.what with hpos | ⟨-, hobject, -⟩
        · -- the protocol is looked at before there is an object
          obtain ⟨hfamily, htype⟩ := hun.accepted
          have htypes : ¬(type ≠ SOCK_STREAM ∧ type ≠ SOCK_DGRAM ∧ type ≠ SOCK_RAW) := by
            unfold TypeSupported at htype
            omega
          unfold sysSocket at hok
          rw [if_neg (by omega), if_neg htypes, if_neg (by omega), if_pos (by omega)] at hok
          cases hok
        · exact absurd hnone hobject
    · exact ⟨fun _ => ⟨⟨hfamily, htype⟩, Or.inl hprotocol⟩, fun _ => ⟨_, herror⟩⟩
  · have hlate := sysSocket_late h hstops
    obtain ⟨hfamily, hrest⟩ := not_or.1 hstops
    obtain ⟨htype, hrest⟩ := not_or.1 hrest
    obtain ⟨hprotocol, hobject⟩ := not_or.1 hrest
    rcases hlate with ⟨hwhat, herror⟩ | ⟨hzero, hraw, v, t, hok, -⟩
    · refine ⟨fun _ => ⟨⟨by omega, not_not.1 htype⟩, hwhat.imp id ?_⟩, fun _ => herror⟩
      exact fun ⟨hzero, hinet, hraw⟩ => ⟨hzero, hobject, hinet, hraw⟩
    · rw [hok]
      refine ⟨fun ⟨_, hf⟩ => (nomatch hf), fun hun => ?_⟩
      rcases hun.what with hpos | ⟨-, -, hinet, hraw'⟩
      · omega
      · exact absurd ⟨hinet, hraw'⟩ hraw

/-- **Creating a socket** stops the system for what is not supported, creates a socket, or leaves every
descriptor as it was. -/
theorem sysSocket_exact (c : SocketCaller) (a : Allocations) (family type protocol : ℤ) (s : CreationState)
    (p : SocketProcess) (h : s.Runs c p) :
    ((∃ f, sysSocket c a family type protocol s = .error f) ↔ Unsupported a family type protocol) ∧
      ∀ v s', sysSocket c a family type protocol s = .ok (v, s') →
        (∃ slot : ℕ, v = slot ∧ SocketCreated c a p slot s s') ∨
          v < 0 ∧ SocketRefused c a p family type protocol s s' := by
  refine ⟨sysSocket_panics h, fun v s' hcall => ?_⟩
  by_cases hstops : StopsEarly a family type protocol
  · rcases sysSocket_early h hstops with ⟨v', hv', hok⟩ | ⟨-, -, -, herror⟩
    · obtain ⟨rfl, rfl⟩ := Prod.mk.inj (Except.ok.inj (hcall.symm.trans hok))
      exact Or.inr ⟨hv', {
        why := Or.inl hstops
        process := ⟨p.priv, h.process⟩
        early := fun _ => rfl
        others := fun _ _ => rfl
        files := rfl }⟩
    · rw [hcall] at herror
      cases herror
  · rcases sysSocket_late h hstops with ⟨-, f, herror⟩ | ⟨-, -, v', t, hok, hcreated | ⟨hv, hwhy, hlist, hfiles⟩⟩
    · rw [hcall] at herror
      cases herror
    · obtain ⟨rfl, rfl⟩ := Prod.mk.inj (Except.ok.inj (hcall.symm.trans hok))
      exact Or.inl hcreated
    · obtain ⟨rfl, rfl⟩ := Prod.mk.inj (Except.ok.inj (hcall.symm.trans hok))
      refine Or.inr ⟨hv, {
        why := hwhy
        process := ⟨a.object, by rw [hlist, Function.update_self]⟩
        early := fun hearly => absurd hearly hstops
        others := fun pid hne => by rw [hlist, Function.update_of_ne hne]
        files := hfiles }⟩

/-- A process without files, alone in the list. -/
def loneProcess : SocketProcess := ⟨⟨TRUE, 1234, fun _ => 0⟩, 0⟩

/-- Its state: all structures are blank. -/
def loneState : CreationState where
  processList := fun pid => if pid = 0 then some loneProcess else none
  files := fun _ => { newSocketFile ⟨0, 0, 0⟩ ⟨0, 0, 0⟩ 0 0 with used := 0, magic := 0 }
  sockets := fun _ => { newSocketObject ⟨0, 0, 0⟩ 0 0 0 0 with used := 0, magic := 0 }

lemma loneState_runs : loneState.Runs ⟨0, 0, 0⟩ loneProcess := ⟨by decide, rfl, rfl, rfl⟩

theorem sysSocket_exact_unix :
    loneState.Runs ⟨0, 0, 0⟩ loneProcess ∧
      ((∃ f, sysSocket ⟨0, 0, 0⟩ ⟨4096, 8192, 12288⟩ AF_UNIX SOCK_STREAM 0 loneState = .error f) ↔
        Unsupported ⟨4096, 8192, 12288⟩ AF_UNIX SOCK_STREAM 0) ∧
      ∀ v s', sysSocket ⟨0, 0, 0⟩ ⟨4096, 8192, 12288⟩ AF_UNIX SOCK_STREAM 0 loneState = .ok (v, s') →
        (∃ slot : ℕ, v = slot ∧
          SocketCreated ⟨0, 0, 0⟩ ⟨4096, 8192, 12288⟩ loneProcess slot loneState s') ∨
          v < 0 ∧ SocketRefused ⟨0, 0, 0⟩ ⟨4096, 8192, 12288⟩ loneProcess AF_UNIX SOCK_STREAM 0 loneState s' :=
  ⟨loneState_runs, sysSocket_exact _ _ _ _ _ _ _ loneState_runs⟩

/-- A protocol other than 0 stops the system. -/
theorem sysSocket_fails : ¬∀ (c : SocketCaller) (a : Allocations) (family type protocol : ℤ) (s : CreationState)
    (p : SocketProcess), s.Runs c p →
      ∃ v s', sysSocket c a family type protocol s = .ok (v, s') ∧
        ((∃ slot : ℕ, v = slot ∧ SocketCreated c a p slot s s' ∧ (s'.files a.file).fdCounter = 1) ∨
          v < 0 ∧ s'.processList = s.processList) := by
  intro h
  obtain ⟨v, s', hok, -⟩ :=
    h ⟨0, 0, 0⟩ ⟨4096, 8192, 12288⟩ AF_UNIX SOCK_STREAM 1 loneState loneProcess loneState_runs
  have herror : sysSocket ⟨0, 0, 0⟩ ⟨4096, 8192, 12288⟩ AF_UNIX SOCK_STREAM 1 loneState
      = .error (.panic "sys_socket: protocol not supported yet.\n") := rfl
  rw [hok] at herror
  cases herror

end Gramado
