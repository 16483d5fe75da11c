import Gramado.Lib.Simulation
import Gramado.Fs.ActionWord
import Gramado.Gws.RequestPacket

/-!
# The hand-shake of a display request

A client of the display server and the server itself share one file structure: the client has it under its
own descriptor, the server, once it has accepted the connection, as descriptor 31.  A request and its
answer go through the buffer of that structure, one after the other, and its action word tells who is next.

* The client is in one of the functions of `libgws/gws.c`: it sends the request, sets `ACTION_REQUEST`,
  polls the action word until its loop is over, receives the answer, if it waits for one, and sets
  `ACTION_NULL`.
* The server (`demo00/main.c`) accepts one connection after the other and runs `dispacher` on it:
  it looks at the action word, reads the request, has it processed by `gwsProcedure`, and either sets
  `ACTION_NULL` or writes an answer and sets `ACTION_REPLY`.

One turn of a party is one system call and what the party does up to the next one.  Between the turns of one
party, the other ones take theirs.  What the services do to the windows is a parameter.
-/

namespace Gramado.Gws

open Simulation
open Pipe (ACTION_NULL)

/-! ## The functions of the client library -/

/-- The functions of `libgws` that make a request. -/
inductive GwsFunction where
  | drawChar
  | drawText
  | setText
  | getText
  | cloneAndExecute2
  | changeWindowPosition
  | resizeWindow
  | redrawWindow
  | getNextEvent
  | getWindowInfo
  | refreshWindow
  | refreshRetangle
  | createWindow
  | asyncCommand
  deriving DecidableEq, Repr

/-- `GWS_GetNextEvent`. -/
def GWS_GetNextEvent : ℕ := 2031

/-- The message code that the function puts into its request. -/
def GwsFunction.code : GwsFunction → ℕ
  | .drawChar => GWS_DrawChar
  | .drawText => GWS_DrawText
  | .setText => 2240
  | .getText => 2241
  | .cloneAndExecute2 => 9099
  | .changeWindowPosition => 1009
  | .resizeWindow => 1008
  | .redrawWindow => 1007
  | .getNextEvent => GWS_GetNextEvent
  | .getWindowInfo => 9093
  | .refreshWindow => 1006
  | .refreshRetangle => 2021
  | .createWindow => GWS_CreateWindow
  | .asyncCommand => 2222

/-- How often the function tries to send its request. -/
def GwsFunction.tries : GwsFunction → ℕ
  | .drawText => 8
  | _ => 1

/-- Where the polling loop leads. -/
inductive LoopExit where
  /-- The answer is received. -/
  | respond
  /-- The function is done. -/
  | done
  /-- The function reports a failure. -/
  | fail
  deriving DecidableEq, Repr

/-- The polling loop of the function: where it leads on a value of the action word, if it ends there. -/
def GwsFunction.poll (value : ℤ) : GwsFunction → Option LoopExit
  | .drawChar | .drawText | .setText | .redrawWindow | .refreshWindow | .asyncCommand =>
      if value = ACTION_ERROR then some .done
      else if value = ACTION_NULL then some .done
      else none
  | .getText | .cloneAndExecute2 | .refreshRetangle =>
      if value = ACTION_REPLY then some .respond
      else if value = ACTION_ERROR then some .fail
      else if value = ACTION_NULL then some .fail
      else none
  | .changeWindowPosition | .resizeWindow | .getNextEvent | .getWindowInfo | .createWindow =>
      if value = ACTION_REPLY then some .respond
      else if value = ACTION_ERROR then some .fail
      else none

/-- What the function does when no answer can be received. -/
inductive NoAnswer where
  | again
  | giveUp
  | exit
  deriving DecidableEq, Repr

/-- The return value of `recv` was `n`, and `n ≤ 0`. -/
def GwsFunction.noAnswer (n : ℤ) : GwsFunction → NoAnswer
  | .changeWindowPosition | .resizeWindow => if n = 0 then .again else .exit
  | .getText | .cloneAndExecute2 => if n = 0 then .again else .giveUp
  | _ => .giveUp

/-- The 512 bytes of a message. -/
def Message.packet (b : Message) : List UInt8 := firstBytes b 512

/-- **A call**: a function of the library, and the request that it has made of its arguments. -/
structure GwsCall where
  function : GwsFunction
  message : Message
  code : getLong message 1 = function.code

/-- How a call ended that had sent its request. -/
inductive CallResult where
  | done
  | failed
  | answered (packet : List UInt8)
  deriving DecidableEq, Repr

/-- Where a client is. -/
inductive ClientPc where
  /-- Not in the library. -/
  | idle
  /-- Before the call of `send`, with as many tries left. -/
  | send (c : GwsCall) (tries : ℕ)
  /-- Before it sets `ACTION_REQUEST`. -/
  | setRequest (c : GwsCall)
  /-- In the polling loop. -/
  | poll (c : GwsCall)
  /-- Before the call of `recv`. -/
  | receive (c : GwsCall)
  /-- Before it sets `ACTION_NULL`. -/
  | setNull
  /-- It has left the program. -/
  | exited

/-! ## The server -/

/-- What the server keeps from one dispatch to the next: what the services work on, `__buffer`,
`next_response` and `NoReply`. -/
structure ServerData (σ : Type) where
  world : σ
  buffer : Message
  nextResponse : ℕ → ℕ
  noReply : ℤ

/-- The codes after which `gwsProcedure` sets `NoReply` to `FALSE`. -/
def replyCodes : List ℤ :=
  [1000, 1001, 1002, 1003, 1008, 1009, 2000, 2021, 2031, 2040, 2041, 2042, 2224, 9093]

/-- The codes after which it sets `NoReply` to `TRUE`. -/
def noReplyCodes : List ℤ := [1004, 1005, 1006, 1007, 2222, 2223, 9099]

/-- The codes after which it leaves `NoReply` as it is: `GWS_Quit`, `GWS_Disconnect`, `GWS_RefreshScreen`,
2030 and `GWS_DrainInput`. -/
def otherCodes : List ℤ := [4080, 2010, 2020, 2030, 8080]

section Server

variable {σ : Type} (service : ℤ → ServerData σ → ServerData σ)

/-- `gwsProcedure`: the return value, and what the service has left.  No service touches `NoReply`. -/
def gwsProcedure (msg : ℤ) (d : ServerData σ) : ℤ × ServerData σ :=
  if msg ∈ replyCodes then (0, { service msg d with noReply := FALSE })
  else if msg ∈ noReplyCodes then (0, { service msg d with noReply := TRUE })
  else if msg ∈ otherCodes then (0, { service msg d with noReply := d.noReply })
  else (-1, d)

/-- The type of a packet that `__send_response` sends. -/
def packetType (type : ℕ) : ℕ :=
  if type = 1 then 1001 else if type = 2 then 1002 else 1003

/-- The fields of an answer. -/
def responseLongs (type : ℕ) (next : ℕ → ℕ) : List ℕ :=
  next 0 :: packetType type :: (List.range 18).map fun k => next (k + 2)

/-- The answer is made in the buffer of the request. -/
def responseMessage (type : ℕ) (d : ServerData σ) : Message :=
  copyFront d.buffer ((responseLongs type d.nextResponse).flatMap longBytes)

/-- The first six fields of the buffer are cleared. -/
def clearHead (b : Message) : Message := copyFront b (List.replicate 48 0)

/-- Where `dispacher` is, and the message that it is about to write. -/
inductive DispatchPc where
  | getAction
  | read
  | process
  | setNull
  | send (message : Message)
  | setReply

/-- What `dispacher` does with a request that it has read: where it goes on, what the server keeps, and
the answer. -/
def processRequest (d : ServerData σ) : DispatchPc × ServerData σ × Option Message :=
  let msg := getLong d.buffer 1
  let r := gwsProcedure service (toInt32 msg) d
  if r.2.noReply = TRUE then (.setNull, r.2, none)
  else
    let type := if r.1 < 0 then 3 else if msg = GWS_GetNextEvent then 2 else 1
    (.send (responseMessage type r.2), r.2, some (responseMessage type r.2))

end Server

/-! ## The parties -/

/-- The clients and the server: which thread of which process they are, the descriptors and the file
structures of the connections, and the addresses of the message buffers. -/
structure Parties (ι : Type) where
  server : Caller
  serverBuffer : ℕ
  client : ι → Caller
  clientBuffer : ι → ℕ
  fd : ι → ℤ
  file : ι → ℕ
  server_pid : 0 ≤ server.pid ∧ server.pid < PROCESS_COUNT_MAX
  client_pid : ∀ i, 0 ≤ (client i).pid ∧ (client i).pid < PROCESS_COUNT_MAX
  client_ne_server : ∀ i, (client i).pid ≠ server.pid
  fd_range : ∀ i, 0 ≤ fd i ∧ fd i < OPEN_MAX
  file_ne_null : ∀ i, file i ≠ 0
  file_injective : Function.Injective file
  serverBuffer_ne_null : serverBuffer ≠ 0
  clientBuffer_ne_null : ∀ i, clientBuffer i ≠ 0

/-- **The state of the whole**: the files, the server and what it is at, the clients.  The last three fields
are the history of each connection: the requests that were sent, the ones that were processed, with
their answers, and the results of the calls. -/
structure HandShake (ι σ : Type) where
  io : IoState
  data : ServerData σ
  current : Option (ι × DispatchPc)
  client : ι → ClientPc
  asked : ι → List (List UInt8)
  served : ι → List (List UInt8 × Option (List UInt8))
  returned : ι → List (GwsCall × CallResult)

/-- What `sys_accept` does to the server's table and to the file structure of the connection it takes up. -/
def acceptFile (server : Caller) (ptr : ℕ) (s : IoState) : IoState :=
  { processList := Function.update s.processList server.pid.toNat ((s.processList server.pid.toNat).map
      fun p => { p with objects := Function.update p.objects 31 ptr })
    files := Function.update s.files ptr { s.files ptr with file := { (s.files ptr).file with file := 31 } } }

section Turns

variable {ι σ : Type} [DecidableEq ι] (consoleWrite : UserBytes → ℤ → Except Fault ℤ)
  (service : ℤ → ServerData σ → ServerData σ) (P : Parties ι)

/-- The client goes on elsewhere. -/
def HandShake.setClient (i : ι) (pc : ClientPc) (s : HandShake ι σ) : HandShake ι σ :=
  { s with client := Function.update s.client i pc }

/-- The result of a call is recorded. -/
def HandShake.record (i : ι) (c : GwsCall) (r : CallResult) (s : HandShake ι σ) : HandShake ι σ :=
  { s with returned := Function.update s.returned i (s.returned i ++ [(c, r)]) }

/-- **The next system call of a client**, and what the function does behind it. -/
def clientTurn (i : ι) (s : HandShake ι σ) : Except Fault (HandShake ι σ) :=
  match s.client i with
  | .idle => .ok s
  | .send c tries =>
      match writeImp consoleWrite (P.client i) (P.fd i) (some c.message) 512 s.io with
      | .error f => .error f
      | .ok (n, io) =>
          if n > 0 then
            .ok { (s.setClient i (.setRequest c)) with
              io := io
              asked := Function.update s.asked i (s.asked i ++ [c.message.packet]) }
          else if tries > 1 then .ok { (s.setClient i (.send c (tries - 1))) with io := io }
          else .ok { (s.setClient i .setNull) with io := io }
  | .setRequest c =>
      .ok { (s.setClient i (.poll c)) with
        io := sysSetFileSync (P.client i) (P.fd i) SYNC_REQUEST_SET_ACTION ACTION_REQUEST s.io }
  | .poll c =>
      match c.function.poll (sysGetFileSync (P.client i) (P.fd i) SYNC_REQUEST_GET_ACTION s.io) with
      | none => .ok s
      | some .respond => .ok (s.setClient i (.receive c))
      | some .done => .ok ((s.record i c .done).setClient i .setNull)
      | some .fail => .ok ((s.record i c .failed).setClient i .setNull)
  | .receive c =>
      match readImp (P.client i) (P.fd i) (P.clientBuffer i) 512 s.io with
      | .error f => .error f
      | .ok (n, bytes, io) =>
          if n > 0 then .ok { ((s.record i c (.answered bytes)).setClient i .setNull) with io := io }
          else
            match c.function.noAnswer n with
            | .again => .ok { s with io := io }
            | .giveUp => .ok { ((s.record i c .failed).setClient i .setNull) with io := io }
            | .exit => .ok { (s.setClient i .exited) with io := io }
  | .setNull =>
      .ok { (s.setClient i .idle) with
        io := sysSetFileSync (P.client i) (P.fd i) SYNC_REQUEST_SET_ACTION ACTION_NULL s.io }
  | .exited => .ok s

/-- **The next system call of `dispacher`** for the connection `i`, and what it does behind it. -/
def dispatchTurn (i : ι) (pc : DispatchPc) (s : HandShake ι σ) : Except Fault (HandShake ι σ) :=
  match pc with
  | .getAction =>
      if sysGetFileSync P.server 31 SYNC_REQUEST_GET_ACTION s.io ≠ ACTION_REQUEST then
        .ok { s with current := none, data := { s.data with buffer := clearHead s.data.buffer } }
      else .ok { s with current := some (i, .read) }
  | .read =>
      match readImp P.server 31 P.serverBuffer 512 s.io with
      | .error f => .error f
      | .ok (n, bytes, io) =>
          let buffer := copyFront s.data.buffer bytes
          if n ≤ 0 ∨ getLong buffer 1 = 0 then
            .ok { s with io := io, current := none, data := { s.data with buffer := clearHead buffer } }
          else .ok { s with io := io, current := some (i, .process), data := { s.data with buffer := buffer } }
  | .process =>
      let r := processRequest service s.data
      .ok { s with
        current := some (i, r.1)
        data := r.2.1
        served := Function.update s.served i
          (s.served i ++ [(s.data.buffer.packet, r.2.2.map Message.packet)]) }
  | .setNull =>
      .ok { s with
        current := none
        io := sysSetFileSync P.server 31 SYNC_REQUEST_SET_ACTION ACTION_NULL s.io }
  | .send message =>
      match writeImp consoleWrite P.server 31 (some message) 512 s.io with
      | .error f => .error f
      | .ok (_, io) =>
          .ok { s with
            io := io
            current := some (i, .setReply)
            data := { s.data with buffer := clearMessage, nextResponse := fun _ => 0 } }
  | .setReply =>
      .ok { s with
        current := none
        io := sysSetFileSync P.server 31 SYNC_REQUEST_SET_ACTION ACTION_REPLY s.io }

/-- The events of a run. -/
inductive HandEvent (ι : Type) where
  /-- A client calls a function of the library. -/
  | call (i : ι) (c : GwsCall)
  /-- A client calls one with arguments that the function refuses. -/
  | refuse (i : ι)
  /-- A client takes its turn. -/
  | client (i : ι)
  /-- The server takes up a connection. -/
  | accept (i : ι)
  /-- The server takes its turn. -/
  | server

/-- **A step of the whole**: some party takes its turn. -/
inductive HandStep : HandShake ι σ → HandEvent ι → HandShake ι σ → Prop
  | call {s : HandShake ι σ} {i : ι} (c : GwsCall) (h : s.client i = .idle) :
      HandStep s (.call i c) (s.setClient i (.send c c.function.tries))
  | refuse {s : HandShake ι σ} {i : ι} (h : s.client i = .idle) :
      HandStep s (.refuse i) (s.setClient i .setNull)
  | client {s s' : HandShake ι σ} {i : ι} (h : clientTurn consoleWrite P i s = .ok s') :
      HandStep s (.client i) s'
  | accept {s : HandShake ι σ} (i : ι) (h : s.current = none) :
      HandStep s (.accept i) { s with
        io := acceptFile P.server (P.file i) s.io
        current := some (i, .getAction) }
  | server {s s' : HandShake ι σ} {i : ι} {pc : DispatchPc} (hpc : s.current = some (i, pc))
      (h : dispatchTurn consoleWrite service P i pc s = .ok s') : HandStep s .server s'

end Turns

end Gramado.Gws
