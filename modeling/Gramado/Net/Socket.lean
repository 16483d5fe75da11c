import Gramado.Fs.ReadWrite

/-!
# Sockets and the list of pending connections

The system calls `connect`, `listen` and `accept` of `kres/net/socket.c`.  A client that connects
does not meet the server: `connect` puts the client's socket into the `pending_connections` of the
server's socket and moves the cursor `backlog_tail` on; `accept` moves a cursor of its own,
`backlog_head`, and takes the client that it finds there.  Both cursors run round the first
`backlog_max` slots, a size that `listen` sets.

The slots are a `Memory`, so that every index used is on record.  An address is given by where it is
in the caller's memory and by its bytes; sockets and files are looked up by their addresses, and 0
is the null pointer.
-/

namespace Gramado

/-- `SS_UNCONNECTED`. -/
def SS_UNCONNECTED : ℤ := 1

/-- `SS_CONNECTING`. -/
def SS_CONNECTING : ℤ := 2

/-- `SS_CONNECTED`. -/
def SS_CONNECTED : ℤ := 3

/-- `AF_UNIX`. -/
def AF_UNIX : ℕ := 1

/-- `AF_INET`. -/
def AF_INET : ℕ := 2

/-- `AF_GRAMADO`. -/
def AF_GRAMADO : ℕ := 8000

/-- `GRAMADO_PORT_WS`: the window server. -/
def GRAMADO_PORT_WS : ℕ := 11

/-- `GRAMADO_PORT_NS`: the network server. -/
def GRAMADO_PORT_NS : ℕ := 14

/-- `GRAMADO_PORT_FS`: the file system. -/
def GRAMADO_PORT_FS : ℕ := 16

/-- `__PORTS_DISPLAY_SERVER`. -/
def PORTS_DISPLAY_SERVER : ℕ := 4040

/-- `__PORTS_NETWORK_SERVER`. -/
def PORTS_NETWORK_SERVER : ℕ := 4041

/-- `SOCKET_MAX_PENDING_CONNECTIONS`: the length of `pending_connections`. -/
def SOCKET_MAX_PENDING_CONNECTIONS : ℤ := 32

/-- The descriptor under which a server finds the client it serves. -/
def CLIENT_FD : ℕ := 31

/-- `struct process_d`: the open files and the private socket. -/
structure SocketProcess extends Process where
  priv : ℕ

/-- `struct file_d`, as far as it belongs to a socket. -/
structure SockFile where
  used : ℤ
  magic : ℤ
  object : ObjectType
  canAccept : ℤ
  canConnect : ℤ
  socket : ℕ
  file : ℤ
  deriving DecidableEq, Repr

/-- `struct socket_d`. -/
structure Socket where
  used : ℤ
  magic : ℤ
  port : UInt16
  backlogMax : ℤ
  backlogHead : ℤ
  backlogTail : ℤ
  pendingConnections : Memory ℕ
  clientBacklogPos : ℤ
  isAcceptingConnections : ℤ
  link : ℕ
  state : ℤ
  clientfdOnServer : ℤ
  privateFile : ℕ
  magicString : ℕ → UInt8

/-- The process list, the file and socket structures by address, the process at every port, and the
last port number that was given to a client. -/
structure SocketState where
  processList : ℕ → Option SocketProcess
  files : ℕ → SockFile
  sockets : ℕ → Socket
  gramadoPorts : ℕ → ℤ
  newClientPortNumber : UInt16

/-- A `struct sockaddr` of the caller: its address, and its bytes. -/
structure SockAddr where
  address : ℕ
  bytes : ℕ → UInt8

/-- A 16-bit field, low byte first. -/
def ushortAt (bytes : ℕ → UInt8) (k : ℕ) : ℕ := (bytes k).toNat + 256 * (bytes (k + 1)).toNat

/-- `addr->sa_family`. -/
def SockAddr.saFamily (a : SockAddr) : ℕ := ushortAt a.bytes 0

/-- `addr->sa_data[k]`. -/
def SockAddr.saData (a : SockAddr) (k : ℕ) : UInt8 := a.bytes (2 + k)

/-- `addr_in->sin_family`: the byte behind `sin_len`. -/
def SockAddr.sinFamily (a : SockAddr) : ℕ := (a.bytes 1).toNat

/-- `addr_in->sin_port`. -/
def SockAddr.sinPort (a : SockAddr) : ℕ := ushortAt a.bytes 2

/-- `create_socket_object`. -/
def createSocketObject : Socket where
  used := TRUE
  magic := 1234
  port := 0
  backlogMax := 4
  backlogHead := 0
  backlogTail := 0
  pendingConnections := ⟨fun _ => 0, []⟩
  clientBacklogPos := 0
  isAcceptingConnections := FALSE
  link := 0
  state := SS_UNCONNECTED
  clientfdOnServer := -1
  privateFile := 0
  magicString := fun _ => 0

/-! ## Changing a structure -/

/-- The socket at an address is changed. -/
def SocketState.modify (s : SocketState) (ptr : ℕ) (f : Socket → Socket) : SocketState :=
  { s with sockets := Function.update s.sockets ptr (f (s.sockets ptr)) }

/-- `processList[pid]->Objects[fd] = ptr`. -/
def SocketState.setObject (s : SocketState) (pid fd ptr : ℕ) : SocketState :=
  { s with
    processList := Function.update s.processList pid
      ((s.processList pid).map fun p => { p with objects := Function.update p.objects fd ptr }) }

/-- The file at an address is changed. -/
def SocketState.setFile (s : SocketState) (ptr : ℕ) (f : SockFile) : SocketState :=
  { s with files := Function.update s.files ptr f }

@[simp] lemma SocketState.modify_same (s : SocketState) (ptr : ℕ) (f : Socket → Socket) :
    (s.modify ptr f).sockets ptr = f (s.sockets ptr) :=
  Function.update_self ..

lemma SocketState.modify_of_ne (s : SocketState) {ptr q : ℕ} (f : Socket → Socket) (h : q ≠ ptr) :
    (s.modify ptr f).sockets q = s.sockets q :=
  Function.update_of_ne h ..

/-- What the change keeps is the same everywhere. -/
lemma SocketState.modify_field {β : Type*} (g : Socket → β) {f : Socket → Socket}
    (hf : ∀ x, g (f x) = g x) (s : SocketState) (ptr q : ℕ) :
    g ((s.modify ptr f).sockets q) = g (s.sockets q) := by
  by_cases h : q = ptr
  · rw [h, s.modify_same, hf]
  · rw [s.modify_of_ne f h]

@[simp] lemma SocketState.modify_files (s : SocketState) (ptr : ℕ) (f : Socket → Socket) :
    (s.modify ptr f).files = s.files := rfl

@[simp] lemma SocketState.modify_processList (s : SocketState) (ptr : ℕ) (f : Socket → Socket) :
    (s.modify ptr f).processList = s.processList := rfl

@[simp] lemma SocketState.modify_gramadoPorts (s : SocketState) (ptr : ℕ) (f : Socket → Socket) :
    (s.modify ptr f).gramadoPorts = s.gramadoPorts := rfl

@[simp] lemma SocketState.setObject_sockets (s : SocketState) (pid fd ptr : ℕ) :
    (s.setObject pid fd ptr).sockets = s.sockets := rfl

@[simp] lemma SocketState.setObject_files (s : SocketState) (pid fd ptr : ℕ) :
    (s.setObject pid fd ptr).files = s.files := rfl

@[simp] lemma SocketState.setObject_gramadoPorts (s : SocketState) (pid fd ptr : ℕ) :
    (s.setObject pid fd ptr).gramadoPorts = s.gramadoPorts := rfl

/-! ## connect -/

/-- `is_socket`. -/
def isSocket (f : SockFile) : ℤ :=
  if f.magic ≠ 1234 then FALSE else if f.object = .socket then TRUE else FALSE

/-- The free slot of a server's table that `connect` looks for. -/
def serverSlot (objects : ℕ → ℕ) : Option ℕ :=
  (List.range' 3 28).find? fun i => objects i = 0

/-- The cursors of the backlog: one on, and back to the first slot at the end. -/
def backlogNext (backlogMax cursor : ℤ) : ℤ := if cursor + 1 ≥ backlogMax then 0 else cursor + 1

/-- The client gets a port number. -/
def assignPort (client : ℕ) (s : SocketState) : SocketState :=
  let number := s.newClientPortNumber + 1
  ({ s with newClientPortNumber := number }).modify client fun x => { x with port := number }

/-- The two sockets are linked; the server finds the client's file `f` at descriptor 31. -/
def linkSockets (targetPid slot f client server : ℕ) (s : SocketState) : SocketState :=
  let s := s.modify server fun x => { x with clientfdOnServer := slot }
  let s := s.modify client fun x => { x with clientfdOnServer := slot }
  let s := s.setObject targetPid CLIENT_FD f
  let s := s.modify client fun x => { x with link := server }
  let s := s.modify server fun x => { x with link := client }
  let s := s.modify client fun x => { x with state := SS_CONNECTING }
  let s := s.modify server fun x => { x with state := SS_CONNECTING }
  -- 'C'
  s.modify client fun x =>
    { x with magicString := Function.update (Function.update x.magicString 0 67) 1 0 }

/-- The client goes into the slot behind `backlog_tail`. -/
def enqueueClient (client server : ℕ) (s : SocketState) : SocketState :=
  let s := s.modify server fun x => { x with backlogTail := backlogNext x.backlogMax x.backlogTail }
  let tail := (s.sockets server).backlogTail
  let s := s.modify server fun x =>
    { x with pendingConnections := x.pendingConnections.store tail [client] }
  s.modify client fun x => { x with clientBacklogPos := tail }

/-- What `__connect_inet` and `__connect_local` do when they know the process of the server. -/
def connectTo (name : String) (pid sockfd targetPid : ℤ) (s : SocketState) :
    Except Fault (ℤ × SocketState) :=
  if pid < 0 ∨ pid ≥ PROCESS_COUNT_MAX then .ok (-1, s)
  else
    match s.processList pid.toNat with
    | none => .ok (-1, s)
    | some cProcess =>
        let f := cProcess.objects sockfd.toNat
        if f = 0 then .ok (-1, s)
        else if isSocket (s.files f) ≠ TRUE then .ok (-1, s)
        else if (s.files f).canConnect ≠ TRUE then .ok (-1, s)
        else
          let client := (s.files f).socket
          if client = 0 then .ok (-1, s)
          else if (s.sockets client).state ≠ SS_UNCONNECTED then .ok (-1, s)
          else
            let s := assignPort client s
            if targetPid < 0 ∨ targetPid ≥ PROCESS_COUNT_MAX then .ok (-1, s)
            else
              match s.processList targetPid.toNat with
              | none => .ok (-1, s)
              | some sProcess =>
                  match serverSlot sProcess.objects with
                  | none => .error (.panic (name ++ ": [FIXME] We need a slot in the server\n"))
                  | some slot =>
                      let server := sProcess.priv
                      if server = 0 then .ok (-1, s)
                      else
                        let s := linkSockets targetPid.toNat slot f client server s
                        .ok (0, enqueueClient client server s)

/-- `__connect_local`. -/
def connectLocal (pid sockfd : ℤ) (addr : SockAddr) (s : SocketState) :
    Except Fault (ℤ × SocketState) :=
  if sockfd < 0 ∨ sockfd ≥ OPEN_MAX then .ok (-EINVAL, s)
  else if addr.address = 0 then .ok (-EINVAL, s)
  else if addr.saFamily = AF_GRAMADO then
    -- "ds", "ns" and "fs"
    let targetPid :=
      if addr.saData 0 = 100 ∧ addr.saData 1 = 115 then s.gramadoPorts GRAMADO_PORT_WS
      else if addr.saData 0 = 110 ∧ addr.saData 1 = 115 then s.gramadoPorts GRAMADO_PORT_NS
      else if addr.saData 0 = 102 ∧ addr.saData 1 = 115 then s.gramadoPorts GRAMADO_PORT_FS
      else -1
    if targetPid < 0 ∨ targetPid ≥ PROCESS_COUNT_MAX then .ok (-1, s)
    else connectTo "__connect_local" pid sockfd targetPid s
  else .ok (-1, s)

/-- The address is 127.0.0.1, its bytes in the order of the host. -/
def SockAddr.isLocalhost (a : SockAddr) : Prop :=
  a.bytes 7 = 127 ∧ a.bytes 6 = 0 ∧ a.bytes 5 = 0 ∧ a.bytes 4 = 1

instance (a : SockAddr) : Decidable a.isLocalhost := by
  unfold SockAddr.isLocalhost
  infer_instance

/-- `__connect_inet`. -/
def connectInet (pid sockfd : ℤ) (addr : SockAddr) (s : SocketState) :
    Except Fault (ℤ × SocketState) :=
  if sockfd < 0 ∨ sockfd ≥ OPEN_MAX then .ok (-EINVAL, s)
  else if addr.address = 0 then .ok (-EINVAL, s)
  else if addr.saFamily = AF_UNIX ∨ addr.saFamily = AF_GRAMADO then .ok (-1, s)
  else if addr.sinFamily ≠ AF_INET then .ok (-1, s)
  else if addr.sinPort ≠ PORTS_DISPLAY_SERVER ∧ addr.sinPort ≠ PORTS_NETWORK_SERVER then .ok (-1, s)
  else
    let targetPid :=
      if addr.sinPort = PORTS_DISPLAY_SERVER then s.gramadoPorts GRAMADO_PORT_WS
      else s.gramadoPorts GRAMADO_PORT_NS
    if ¬addr.isLocalhost then .ok (-1, s)
    else connectTo "__connect_inet" pid sockfd targetPid s

/-- `sys_connect`, called by the process `pid`. -/
def sysConnect (pid sockfd : ℤ) (addr : SockAddr) (addrlen : ℕ) (s : SocketState) :
    Except Fault (ℤ × SocketState) :=
  if addr.address = 0 then .ok (-EINVAL, s)
  else if addr.address < CONTROLTHREAD_BASE then
    .error (.panic "sys_connect: addr is not ring3\n")
  else if addrlen = 0 then .ok (-EINVAL, s)
  else if addr.saFamily = AF_UNIX ∨ addr.saFamily = AF_GRAMADO then connectLocal pid sockfd addr s
  else connectInet pid sockfd addr s

/-! ## listen -/

/-- The size of the backlog that a server gets. -/
def backlogSize (backlog : ℤ) : ℤ := if backlog ≤ 0 then 1 else if backlog ≥ 32 then 31 else backlog

/-- `sys_listen`, called by the process `pid`. -/
def sysListen (pid sockfd backlog : ℤ) (s : SocketState) : Except Fault (ℤ × SocketState) :=
  if sockfd < 0 ∨ sockfd ≥ OPEN_MAX then .ok (-EINVAL, s)
  else if pid < 0 ∨ pid ≥ PROCESS_COUNT_MAX then .ok (-1, s)
  else
    match s.processList pid.toNat with
    | none => .ok (-1, s)
    | some p =>
        let f := p.objects sockfd.toNat
        if f = 0 then .ok (-1, s)
        else if isSocket (s.files f) ≠ TRUE then .ok (-1, s)
        else
          let socket := (s.files f).socket
          if socket = 0 then .ok (-1, s)
          else if socket ≠ p.priv then
            .error (.panic "sys_listen: [TEST] f->socket != p->priv\n")
          else
            .ok (0, s.modify socket fun x =>
              { x with backlogMax := backlogSize backlog, isAcceptingConnections := TRUE })

/-! ## accept -/

/-- The loop of `sys_accept` from slot `i` on, with `n` slots left: the first entry that is not
null, or null. -/
def probe : ℕ → ℤ → Memory ℕ → ℕ × Memory ℕ
  | 0, _, pending => (0, pending)
  | n + 1, i, pending =>
      let pending := (pending.load i 1).2
      if pending.cell i ≠ 0 then (pending.cell i, pending) else probe n (i + 1) pending

/-- The state of the server's socket. -/
def setState (server : ℕ) (state : ℤ) (s : SocketState) : SocketState :=
  s.modify server fun x => { x with state := state }

/-- `sys_accept` on a server's socket that is connecting or connected: the cursor moves on, and the
client that the loop finds gets descriptor 31. -/
def acceptPending (pid server : ℕ) (s : SocketState) : Except Fault (ℤ × SocketState) :=
  let s := setState server SS_CONNECTED s
  let s := s.modify server fun x => { x with backlogHead := backlogNext x.backlogMax x.backlogHead }
  let i := (s.sockets server).backlogHead
  let size := (s.sockets server).backlogMax
  if i < 0 ∨ i ≥ size then .error (.panic "sys_accept: Backlog limits\n")
  else
    -- the loop runs up to and with slot `backlog_max`
    let found := probe (size + 1 - i).toNat i (s.sockets server).pendingConnections
    let client := found.1
    let s := s.modify server fun x => { x with pendingConnections := found.2 }
    if client = 0 then .ok (-1, setState server SS_CONNECTING s)
    else if (s.sockets client).used ≠ TRUE ∨ (s.sockets client).magic ≠ 1234 then
      .ok (-1, setState server SS_CONNECTING s)
    else
      let s := setState client SS_CONNECTED s
      let file := (s.sockets client).privateFile
      let s := s.setObject pid CLIENT_FD file
      if file = 0 then .error .badPointer
      else .ok (CLIENT_FD, s.setFile file { s.files file with file := CLIENT_FD })

/-- `sys_accept`, called by the process `pid`. -/
def sysAccept (pid sockfd : ℤ) (addr addrlen : ℕ) (s : SocketState) :
    Except Fault (ℤ × SocketState) :=
  if sockfd < 0 ∨ sockfd ≥ OPEN_MAX then .ok (-EINVAL, s)
  else if addr = 0 then .ok (-EINVAL, s)
  else if addr < CONTROLTHREAD_BASE then .error (.panic "sys_accept: addr is not ring3\n")
  else if addrlen = 0 then .ok (-EINVAL, s)
  else if pid < 0 ∨ pid ≥ PROCESS_COUNT_MAX then .ok (-1, s)
  else
    match s.processList pid.toNat with
    | none => .ok (-1, s)
    | some p =>
        let f := p.objects sockfd.toNat
        let server := (s.files f).socket
        if p.used ≠ TRUE ∨ p.magic ≠ 1234 then .ok (-1, s)
        else if f = 0 then .ok (-1, s)
        else if (s.files f).used ≠ TRUE ∨ (s.files f).magic ≠ 1234 then .ok (-1, s)
        else if isSocket (s.files f) ≠ TRUE then .ok (-1, s)
        else if (s.files f).canAccept ≠ TRUE then .ok (-1, s)
        else if server = 0 then .ok (-1, s)
        else if (s.sockets server).used ≠ TRUE ∨ (s.sockets server).magic ≠ 1234 then .ok (-1, s)
        else if (s.sockets server).state = SS_CONNECTING ∨
            (s.sockets server).state = SS_CONNECTED then acceptPending pid.toNat server s
        else .ok (-1, s)

end Gramado
