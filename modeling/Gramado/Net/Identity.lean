import Gramado.Lib.Run
import Gramado.Net.Socket
import Gramado.Ke.Scheduler
import Gramado.Ke.Process
import Gramado.Ke.Gate

/-!
# Who is the display server

The system calls 512, 513, 518, 521 and 7006 in `sci.c`, with the registration in
`kres/net/network.c` and the ports in `sockint.c`.  The process that is the display server is named in
the control group, in `gramado_ports` and in `DisplayServerInfo`; the registration also makes it the
owner of the display device.

The registration writes before it checks, and a port can be set by anybody.

* `Sound` — what should hold of a call.
* `CallOk` — when it does; `identity_run` is about whole runs.
-/

namespace Gramado

open StepRun

/-! ## The state -/

/-- The control thread of a process. -/
structure IdentityThread where
  magic : ℤ
  tid : ℤ
  type : ℕ
  basePriority : ℕ
  priority : ℕ
  quantum : ℕ
  peMode : ℤ

/-- What the calls look at in a process. -/
structure IdentityProcess where
  used : ℤ
  magic : ℤ
  personality : ℤ
  layer : ℤ
  type : ℕ
  basePriority : ℕ
  priority : ℕ
  control : Option IdentityThread

/-- `struct cgroup_d`: the system's. -/
structure Cgroup where
  used : ℤ
  magic : ℤ
  displayServerPid : ℤ
  networkServerPid : ℤ
  browserPid : ℤ

/-- `DisplayServerInfo`. -/
structure DsInfo where
  initialized : ℤ
  pid : ℤ
  pidPersonality : ℤ
  tid : ℤ

/-- `bl_display_device`. -/
structure DisplayDevice where
  magic : ℤ
  ownerPid : ℤ

/-- The globals that the calls share. -/
structure IdentityState where
  cgroup : Cgroup
  gramadoPorts : ℕ → ℤ
  dsInfo : DsInfo
  displayDevice : Option DisplayDevice
  fgConsole : ℤ
  processList : ℤ → Option IdentityProcess

/-- `GRAMADO_PORT_BR`. -/
def GRAMADO_PORT_BR : ℕ := 20

/-- `LAYER_DISPLAY_SERVER`. -/
def LAYER_DISPLAY_SERVER : ℤ := 2000

/-- `PE_MODE_PERFORMANCE`. -/
def PE_MODE_PERFORMANCE : ℤ := 1000

/-- `CONSOLE1`. -/
def CONSOLE1 : ℤ := 1

/-- `PROCESS_TYPE_SYSTEM`. -/
def PROCESS_TYPE_SYSTEM : ℕ := 1

variable (s : IdentityState)

/-- A process is written. -/
def IdentityState.setProcess (pid : ℤ) (p : IdentityProcess) : IdentityState :=
  { s with processList := Function.update s.processList pid (some p) }

/-- `gramado_ports[port] = pid`. -/
def IdentityState.setPort (port : ℕ) (pid : ℤ) : IdentityState :=
  { s with gramadoPorts := Function.update s.gramadoPorts port pid }

/-- The display device gets an owner. -/
def IdentityState.own (pid : ℤ) : IdentityState :=
  { s with
    displayDevice := s.displayDevice.map fun d =>
      if d.magic = 1234 then { d with ownerPid := pid } else d }

/-! ## The code -/

/-- `socket_set_gramado_port`. -/
def socketSetGramadoPort (port pid : ℤ) : ℤ × IdentityState :=
  if port < 0 ∨ port > 31 then (-1, s)
  else if pid < 0 ∨ pid ≥ PROCESS_COUNT_MAX then (-1, s)
  else (0, s.setPort port.toNat pid)

/-- `__initialize_ws_info`, for the current process. -/
def initializeWsInfo (pid currentProcess : ℤ) : Except Fault IdentityState :=
  if s.dsInfo.initialized = TRUE then
    .error (.panic "__initialize_ws_info: Another display server is on\n")
  else
    let s := { s with dsInfo := { s.dsInfo with initialized := FALSE } }
    if pid < 0 ∨ pid ≥ PROCESS_COUNT_MAX then .ok s
    else if pid ≠ currentProcess then
      .error (.panic "__initialize_ws_info: pid != current_process\n")
    else
      match s.processList pid with
      | none => .ok s
      | some p =>
          if p.magic ≠ 1234 then .ok s
          else
            let s := { s with dsInfo := { s.dsInfo with pid := pid } }
            match p.control with
            | none => .ok s
            | some t =>
                if t.magic ≠ 1234 then .ok s
                else
                  let s := s.setProcess pid { p with personality := PERSONALITY_GRAMADO }
                  .ok { s with
                    dsInfo :=
                      { s.dsInfo with
                        tid := t.tid
                        pidPersonality := PERSONALITY_GRAMADO
                        initialized := TRUE } }

/-- The thread after `__maximize_ws_priority`. -/
def IdentityThread.maximize (t : IdentityThread) : IdentityThread :=
  { t with
    type := PROCESS_TYPE_SYSTEM
    basePriority := PRIORITY_SYSTEM_THRESHOLD
    priority := PRIORITY_MAX
    quantum := QUANTUM_MAX }

/-- The process after `__maximize_ws_priority`. -/
def IdentityProcess.maximize (p : IdentityProcess) : IdentityProcess :=
  { p with
    type := PROCESS_TYPE_SYSTEM
    basePriority := PRIORITY_SYSTEM_THRESHOLD
    priority := PRIORITY_MAX
    control := p.control.map fun t => if t.magic ≠ 1234 then t else t.maximize }

/-- `__maximize_ws_priority`, for the current process. -/
def maximizeWsPriority (pid currentProcess : ℤ) : Except Fault IdentityState :=
  if pid ≤ 0 ∨ pid ≥ PROCESS_COUNT_MAX then .ok s
  else if pid ≠ currentProcess then
    .error (.panic "__maximize_ws_priority: pid != current_process\n")
  else
    match s.processList pid with
    | none => .ok s
    | some p => if p.used ≠ TRUE ∨ p.magic ≠ 1234 then .ok s else .ok (s.setProcess pid p.maximize)

/-- `console_set_current_virtual_console(CONSOLE1)`. -/
def IdentityState.setConsole1 : IdentityState := { s with fgConsole := CONSOLE1 }

/-- The layer of the process is set, and if its control thread is valid the mode of the thread: the
end of both registrations. -/
def finishRegistration (pid : ℤ) (p : IdentityProcess) : ℤ × IdentityState :=
  let p := { p with layer := LAYER_DISPLAY_SERVER }
  match p.control with
  | none => (-1, s.setProcess pid p)
  | some t =>
      if t.magic ≠ 1234 then (-1, s.setProcess pid p)
      else
        (TRUE, s.setProcess pid { p with control := some { t with peMode := PE_MODE_PERFORMANCE } })

/-- The checks at the start of both registrations: the current process. -/
def registeringProcess (callerPid currentProcess : ℤ) : Except Fault IdentityProcess :=
  if currentProcess < 0 ∨ currentProcess ≥ PROCESS_COUNT_MAX then
    .error (.panic "network_register_ring3_display_server: current_process\n")
  else
    match s.processList currentProcess with
    | none => .error (.panic "network_register_ring3_display_server: p\n")
    | some p =>
        if p.magic ≠ 1234 then .error (.panic "network_register_ring3_display_server: p magic\n")
        else if callerPid ≠ currentProcess then
          .error (.panic "network_register_ring3_display_server: caller_pid\n")
        else .ok p

/-- `network_register_ring3_display_server` for the system's control group. -/
def registerDisplayServer (callerPid currentProcess : ℤ) : Except Fault (ℤ × IdentityState) :=
  if s.cgroup.magic ≠ 1234 then .ok (-1, s)
  else do
    let _ ← registeringProcess s callerPid currentProcess
    let s := s.own currentProcess
    let s := { s with cgroup := { s.cgroup with displayServerPid := currentProcess } }
    let (_, s) := socketSetGramadoPort s GRAMADO_PORT_WS currentProcess
    let s ← initializeWsInfo s currentProcess currentProcess
    let s ← maximizeWsPriority s currentProcess currentProcess
    let s := s.setConsole1
    -- the pointer to the process is the one from the beginning
    match s.processList currentProcess with
    | none => .error .badPointer
    | some p => .ok (finishRegistration s currentProcess p)

/-- `network_register_ring3_browser` for the system's control group. -/
def registerBrowser (callerPid currentProcess : ℤ) : Except Fault (ℤ × IdentityState) :=
  if s.cgroup.magic ≠ 1234 then .ok (-1, s)
  else do
    let p ← registeringProcess s callerPid currentProcess
    let s := { s with cgroup := { s.cgroup with browserPid := currentProcess } }
    let (_, s) := socketSetGramadoPort s GRAMADO_PORT_BR currentProcess
    .ok (finishRegistration s currentProcess p)

/-- The identity calls, with the arguments in the registers. -/
inductive IdentityCall where
  /-- 512. -/
  | getDisplayServer
  /-- 513. -/
  | setDisplayServer (arg3 : ℕ)
  /-- 518. -/
  | setBrowser (arg3 : ℕ)
  /-- 521. -/
  | setNetworkServer (arg3 : ℕ)
  /-- 7006. -/
  | setPort (arg2 arg3 : ℕ)

/-- A call by a process. -/
structure IdentityEvent where
  caller : ℤ
  call : IdentityCall

/-- A register converted to `int`. -/
def toPid (arg : ℕ) : ℤ := toInt32 arg

/-- The value that `sci0` returns for a registration. -/
def registered (r : ℤ) : ℤ := if r = TRUE then TRUE else 0

/-- The calls, after the checks of `sci0`. -/
def identityService (currentProcess : ℤ) : IdentityCall → Except Fault (ℤ × IdentityState)
  | .getDisplayServer =>
      if s.cgroup.used = TRUE ∧ s.cgroup.magic = 1234 then .ok (s.cgroup.displayServerPid, s)
      else .ok (0, s)
  | .setDisplayServer arg3 =>
      (registerDisplayServer s (toPid arg3) currentProcess).map fun (r, s) => (registered r, s)
  | .setBrowser arg3 =>
      (registerBrowser s (toPid arg3) currentProcess).map fun (r, s) => (registered r, s)
  | .setNetworkServer arg3 =>
      if s.cgroup.used = TRUE ∧ s.cgroup.magic = 1234 then
        let s := { s with cgroup := { s.cgroup with networkServerPid := toPid arg3 } }
        .ok (TRUE, (socketSetGramadoPort s GRAMADO_PORT_NS currentProcess).2)
      else .ok (0, s)
  | .setPort arg2 arg3 => .ok (socketSetGramadoPort s (toPid arg2) (toPid arg3))

/-- `sci0` for these calls. -/
def identitySci0 (e : IdentityEvent) : Except Fault (ℤ × IdentityState) :=
  if e.caller < 0 ∨ e.caller ≥ PROCESS_COUNT_MAX then .error (.panic "sci0: current_process\n")
  else
    match s.processList e.caller with
    | none => .error (.panic "sci0: p\n")
    | some p =>
        if p.used ≠ TRUE ∨ p.magic ≠ 1234 then .error (.panic "sci0: p validation\n")
        else if p.personality ≠ PERSONALITY_GRAMADO then .error (.panic "sci0: Personality\n")
        else identityService s e.caller e.call

/-! ## What should hold -/

/-- The globals, and what the last call did. -/
structure IdentityTrace where
  kernel : IdentityState
  result : Except Fault ℤ

/-- One call.  After a panic there is none. -/
def identityStep (t : IdentityTrace) (e : IdentityEvent) : Except Fault IdentityTrace :=
  match t.result with
  | .error f => .error f
  | .ok _ =>
      match identitySci0 t.kernel e with
      | .ok (r, s) => .ok ⟨s, .ok r⟩
      | .error f => .ok ⟨t.kernel, .error f⟩

/-- Nobody is registered: the values from the start of the system. -/
structure IdentityState.Unregistered : Prop where
  cgroup : s.cgroup.displayServerPid = -1
  port : s.gramadoPorts GRAMADO_PORT_WS = 0
  dsInfo : s.dsInfo.initialized ≠ TRUE

/-- The process is registered. -/
structure IdentityState.RegisteredBy (q : ℤ) : Prop where
  cgroup : s.cgroup.displayServerPid = q
  port : s.gramadoPorts GRAMADO_PORT_WS = q
  dsInfo : s.dsInfo.initialized = TRUE → s.dsInfo.pid = q

/-- The three places name the same process. -/
def IdentityState.Agree : Prop := s.Unregistered ∨ ∃ q, s.RegisteredBy q

/-- The three places. -/
def IdentityState.places : ℤ × ℤ × ℤ :=
  (s.cgroup.displayServerPid, s.gramadoPorts GRAMADO_PORT_WS, s.dsInfo.pid)

/-- The owner of the display device. -/
def IdentityState.owner : Option ℤ := s.displayDevice.map DisplayDevice.ownerPid

/-- The priority and the layer of a process. -/
def IdentityState.rank (pid : ℤ) : Option (ℕ × ℕ × ℤ) :=
  (s.processList pid).map fun p => (p.basePriority, p.priority, p.layer)

/-- The call reports a failure. -/
def IdentityCall.Fails : IdentityCall → ℤ → Prop
  | .getDisplayServer, _ => False
  | .setDisplayServer _, r | .setBrowser _, r | .setNetworkServer _, r => r ≠ TRUE
  | .setPort _ _, r => r < 0

/-- **What should hold of a call.** -/
structure Sound (t : IdentityTrace) (e : IdentityEvent) (t' : IdentityTrace) : Prop where
  returns : ∃ r, t'.result = .ok r
  agree : t'.kernel.Agree
  exclusive : ∀ q, q ≠ -1 → t.kernel.RegisteredBy q → e.caller ≠ q →
    t'.kernel.places = t.kernel.places
  failure : ∀ r, t'.result = .ok r → e.call.Fails r →
    t'.kernel.places = t.kernel.places ∧ t'.kernel.owner = t.kernel.owner ∧
      t'.kernel.rank e.caller = t.kernel.rank e.caller

/-- The process that calls is one that `sci0` serves. -/
def IdentityState.Serves (pid : ℤ) (p : IdentityProcess) : Prop :=
  (0 ≤ pid ∧ pid < PROCESS_COUNT_MAX) ∧ s.processList pid = some p ∧
    p.used = TRUE ∧ p.magic = 1234 ∧ p.personality = PERSONALITY_GRAMADO

/-- The control thread is valid. -/
def IdentityProcess.HasControl (p : IdentityProcess) : Prop := ∃ t ∈ p.control, t.magic = 1234

/-- A call of a process is sound: it registers itself, no display server is registered yet, and its
control thread is valid; the port of the display server is set to what it is. -/
def ServiceOk (pid : ℤ) (p : IdentityProcess) : IdentityCall → Prop
  | .getDisplayServer | .setNetworkServer _ => True
  | .setDisplayServer arg3 => toPid arg3 = pid ∧ s.dsInfo.initialized ≠ TRUE ∧ p.HasControl
  | .setBrowser arg3 => toPid arg3 = pid ∧ (p.HasControl ∨ p.layer = LAYER_DISPLAY_SERVER)
  | .setPort arg2 arg3 =>
      toPid arg2 = GRAMADO_PORT_WS → 0 ≤ toPid arg3 → toPid arg3 < PROCESS_COUNT_MAX →
        toPid arg3 = s.gramadoPorts GRAMADO_PORT_WS

/-- **The condition**: the caller is served, and its call is sound. -/
def CallOk (t : IdentityTrace) (e : IdentityEvent) : Prop :=
  ∃ p, t.kernel.Serves e.caller p ∧ ServiceOk t.kernel e.caller p e.call

/-- The start: the control group is the system's, and nobody is registered. -/
structure IdentityTrace.Fresh (t : IdentityTrace) : Prop where
  result : t.result = .ok 0
  used : t.kernel.cgroup.used = TRUE
  magic : t.kernel.cgroup.magic = 1234
  unregistered : t.kernel.Unregistered

section

variable {s} {s' : IdentityState} {p : IdentityProcess} {pid : ℤ}

lemma setPort_self (s : IdentityState) (port : ℕ) (pid : ℤ) :
    (s.setPort port pid).gramadoPorts port = pid :=
  Function.update_self ..

lemma setPort_dsInfo (s : IdentityState) (port : ℕ) (pid : ℤ) :
    (s.setPort port pid).dsInfo = s.dsInfo :=
  rfl

lemma setPort_of_ne {port port' : ℕ} (s : IdentityState) (pid : ℤ) (h : port' ≠ port) :
    (s.setPort port pid).gramadoPorts port' = s.gramadoPorts port' :=
  Function.update_of_ne h ..

/-! ## The steps of a registration -/

/-- The control thread counts by its magic number alone. -/
lemma hasControl_congr {p' : IdentityProcess}
    (h : p'.control.map IdentityThread.magic = p.control.map IdentityThread.magic) :
    p'.HasControl ↔ p.HasControl := by
  have hmagic (q : IdentityProcess) :
      q.HasControl ↔ q.control.map IdentityThread.magic = some 1234 := by
    rw [IdentityProcess.HasControl, Option.map_eq_some_iff]
    rfl
  rw [hmagic, hmagic, h]

/-- What the parts of a registration leave alone: the group and the ports, and which process it is. -/
structure Keeping (s s' : IdentityState) (pid : ℤ) (p : IdentityProcess) : Prop where
  cgroup : s'.cgroup = s.cgroup
  ports : s'.gramadoPorts = s.gramadoPorts
  process : ∃ p', s'.processList pid = some p' ∧ p'.used = p.used ∧ p'.magic = p.magic ∧
    (p'.HasControl ↔ p.HasControl)

/-- `__initialize_ws_info` gets as far as the control thread. -/
lemma initializeWsInfo_keeping (hlist : s.processList pid = some p) (hmagic : p.magic = 1234)
    (hrange : 0 ≤ pid ∧ pid < PROCESS_COUNT_MAX) (hfirst : s.dsInfo.initialized ≠ TRUE) :
    ∃ s', initializeWsInfo s pid pid = .ok s' ∧ Keeping s s' pid p ∧
      (p.HasControl → s'.dsInfo.initialized = TRUE ∧ s'.dsInfo.pid = pid) := by
  have hpid : ¬(pid < 0 ∨ pid ≥ PROCESS_COUNT_MAX) := by
    rw [not_or, not_lt, ge_iff_le, not_le]
    exact hrange
  have hmagic' : ¬p.magic ≠ 1234 := not_not.2 hmagic
  simp only [initializeWsInfo, if_neg hfirst, if_neg hpid, hlist, ne_eq, not_true_eq_false,
    if_false, hmagic]
  have hsame : ∃ p', s.processList pid = some p' ∧ p'.used = p.used ∧ p'.magic = p.magic ∧
      (p'.HasControl ↔ p.HasControl) := ⟨p, hlist, rfl, rfl, Iff.rfl⟩
  cases hcontrol : p.control with
  | none =>
      refine ⟨_, rfl, ⟨rfl, rfl, hsame⟩, fun ⟨t, ht, _⟩ => ?_⟩
      rw [hcontrol] at ht
      cases ht
  | some t =>
      by_cases ht : t.magic = 1234
      · simp only [ht, not_true_eq_false, if_false]
        refine ⟨_, rfl, ⟨rfl, rfl, _, Function.update_self .., rfl, hmagic.symm, ?_⟩,
          fun _ => ⟨rfl, rfl⟩⟩
        exact hasControl_congr (p := p) (by rw [hcontrol])
      · simp only [ht, not_false_eq_true, if_true]
        refine ⟨_, rfl, ⟨rfl, rfl, hsame⟩, fun ⟨t', ht', hvalid⟩ => ?_⟩
        rw [hcontrol] at ht'
        cases ht'
        exact absurd hvalid ht

/-- `__maximize_ws_priority` does not touch the three places. -/
lemma maximizeWsPriority_keeping (hlist : s.processList pid = some p) :
    ∃ s', maximizeWsPriority s pid pid = .ok s' ∧ Keeping s s' pid p ∧ s'.dsInfo = s.dsInfo := by
  have hsame : ∃ p', s.processList pid = some p' ∧ p'.used = p.used ∧ p'.magic = p.magic ∧
      (p'.HasControl ↔ p.HasControl) := ⟨p, hlist, rfl, rfl, Iff.rfl⟩
  rw [maximizeWsPriority]
  by_cases hrange : pid ≤ 0 ∨ pid ≥ PROCESS_COUNT_MAX
  · rw [if_pos hrange]
    exact ⟨s, rfl, ⟨rfl, rfl, hsame⟩, rfl⟩
  rw [if_neg hrange, if_neg (not_not.2 rfl), hlist]
  dsimp only
  by_cases hvalid : p.used ≠ TRUE ∨ p.magic ≠ 1234
  · rw [if_pos hvalid]
    exact ⟨s, rfl, ⟨rfl, rfl, hsame⟩, rfl⟩
  rw [if_neg hvalid]
  refine ⟨_, rfl, ⟨rfl, rfl, _, Function.update_self .., rfl, rfl, ?_⟩, rfl⟩
  refine hasControl_congr ?_
  rw [IdentityProcess.maximize, Option.map_map]
  congr 1
  funext t
  simp only [Function.comp]
  split_ifs <;> rfl

/-- The end of a registration: it succeeds with a valid control thread. -/
lemma finishRegistration_spec (s : IdentityState) (pid : ℤ) (p : IdentityProcess) :
    (finishRegistration s pid p).2.cgroup = s.cgroup ∧
      (finishRegistration s pid p).2.gramadoPorts = s.gramadoPorts ∧
        (finishRegistration s pid p).2.dsInfo = s.dsInfo ∧
          (finishRegistration s pid p).2.displayDevice = s.displayDevice ∧
            ((finishRegistration s pid p).1 = TRUE ↔ p.HasControl) := by
  simp only [finishRegistration, IdentityProcess.HasControl]
  cases hcontrol : p.control with
  | none => simp [IdentityState.setProcess]
  | some t =>
      by_cases ht : t.magic = 1234
      · simp [IdentityState.setProcess, ht]
      · simp [IdentityState.setProcess, ht]

/-- The checks at the start of a registration let a process through that names itself. -/
lemma registeringProcess_eq {callerPid : ℤ} (hserves : s.Serves pid p) :
    registeringProcess s callerPid pid =
      if callerPid = pid then .ok p
      else .error (.panic "network_register_ring3_display_server: caller_pid\n") := by
  obtain ⟨hrange, hlist, -, hmagic, -⟩ := hserves
  have hpid : ¬(pid < 0 ∨ pid ≥ PROCESS_COUNT_MAX) := by
    rw [not_or, not_lt, ge_iff_le, not_le]
    exact hrange
  rw [registeringProcess, if_neg hpid, hlist]
  dsimp only
  rw [if_neg (not_not.2 hmagic)]
  by_cases hself : callerPid = pid
  · rw [if_pos hself, if_neg (not_not.2 hself)]
  · rw [if_neg hself, if_pos hself]

lemma socketSetGramadoPort_eq {port : ℕ} (hport : port ≤ 31)
    (hrange : 0 ≤ pid ∧ pid < PROCESS_COUNT_MAX) :
    socketSetGramadoPort s port pid = (0, s.setPort port pid) := by
  have hpid : ¬(pid < 0 ∨ pid ≥ PROCESS_COUNT_MAX) := by
    rw [not_or, not_lt, ge_iff_le, not_le]
    exact hrange
  have hport' : ¬((port : ℤ) < 0 ∨ (port : ℤ) > 31) := by omega
  rw [socketSetGramadoPort, if_neg hport', if_neg hpid, Int.toNat_natCast]

/-- **A registration as the display server**: it ends in a panic, or it is written in the group and
in the ports; it succeeds with a valid control thread. -/
lemma registerDisplayServer_spec (callerPid : ℤ) (hcg : s.cgroup.magic = 1234)
    (hserves : s.Serves pid p) :
    (callerPid ≠ pid ∨ s.dsInfo.initialized = TRUE →
      ∃ f, registerDisplayServer s callerPid pid = .error f) ∧
      (callerPid = pid → s.dsInfo.initialized ≠ TRUE →
        ∃ r s', registerDisplayServer s callerPid pid = .ok (r, s') ∧
          s'.cgroup = { s.cgroup with displayServerPid := pid } ∧
            s'.gramadoPorts GRAMADO_PORT_WS = pid ∧ (r = TRUE ↔ p.HasControl) ∧
              (p.HasControl → s'.dsInfo.initialized = TRUE ∧ s'.dsInfo.pid = pid)) := by
  obtain ⟨hrange, hlist, -, hmagic, -⟩ := id hserves
  have hws : GRAMADO_PORT_WS ≤ 31 := by decide
  rw [registerDisplayServer, if_neg (not_not.2 hcg), registeringProcess_eq hserves]
  constructor
  · intro hbad
    by_cases hself : callerPid = pid
    · have hsecond := hbad.resolve_left (not_not.2 hself)
      rw [if_pos hself, ok_bind]
      simp only [socketSetGramadoPort_eq hws hrange]
      have hpanic : initializeWsInfo (({ s.own pid with
          cgroup := { (s.own pid).cgroup with displayServerPid := pid } } :
            IdentityState).setPort GRAMADO_PORT_WS pid) pid pid =
          .error (.panic "__initialize_ws_info: Another display server is on\n") := if_pos hsecond
      rw [hpanic]
      exact ⟨_, rfl⟩
    · rw [if_neg hself]
      exact ⟨_, rfl⟩
  · intro hself hfirst
    rw [if_pos hself, ok_bind]
    simp only [socketSetGramadoPort_eq hws hrange]
    generalize hs₁ : ({ s.own pid with
      cgroup := { (s.own pid).cgroup with displayServerPid := pid } } :
        IdentityState).setPort GRAMADO_PORT_WS pid = s₁
    have hlist₁ : s₁.processList pid = some p := by
      rw [← hs₁]
      exact hlist
    have hfirst₁ : s₁.dsInfo.initialized ≠ TRUE := by
      rw [← hs₁]
      exact hfirst
    obtain ⟨s₂, h₂, hkeep₂, hds₂⟩ := initializeWsInfo_keeping hlist₁ hmagic hrange hfirst₁
    obtain ⟨p₂, hlist₂, -, -, hcontrol₂⟩ := hkeep₂.process
    obtain ⟨s₃, h₃, hkeep₃, hds₃⟩ := maximizeWsPriority_keeping hlist₂
    obtain ⟨p₃, hlist₃, -, -, hcontrol₃⟩ := hkeep₃.process
    rw [h₂, ok_bind, h₃, ok_bind]
    have hlist₄ : s₃.setConsole1.processList pid = some p₃ := hlist₃
    rw [hlist₄]
    obtain ⟨hcg', hports', hds', -, hr⟩ := finishRegistration_spec s₃.setConsole1 pid p₃
    have hds : s₃.setConsole1.dsInfo = s₂.dsInfo := hds₃
    refine ⟨(finishRegistration s₃.setConsole1 pid p₃).1,
      (finishRegistration s₃.setConsole1 pid p₃).2, rfl, ?_, ?_, ?_, ?_⟩
    · rw [hcg']
      have hsame : s₃.setConsole1.cgroup = s₁.cgroup := hkeep₃.cgroup.trans hkeep₂.cgroup
      rw [hsame, ← hs₁]
      rfl
    · rw [hports']
      have hsame : s₃.setConsole1.gramadoPorts = s₁.gramadoPorts := hkeep₃.ports.trans hkeep₂.ports
      rw [hsame, ← hs₁]
      exact setPort_self _ GRAMADO_PORT_WS pid
    · exact hr.trans (hcontrol₃.trans hcontrol₂)
    · rw [hds', hds]
      exact hds₂

/-- **A registration as the browser** does not touch the three places. -/
lemma registerBrowser_spec (callerPid : ℤ) (hcg : s.cgroup.magic = 1234) (hserves : s.Serves pid p) :
    (callerPid ≠ pid → ∃ f, registerBrowser s callerPid pid = .error f) ∧
      (callerPid = pid → ∃ r s', registerBrowser s callerPid pid = .ok (r, s') ∧
        s'.cgroup = { s.cgroup with browserPid := pid } ∧
          s'.places = s.places ∧ s'.dsInfo = s.dsInfo ∧ s'.owner = s.owner ∧
            (r = TRUE ↔ p.HasControl) ∧
              (¬p.HasControl → (s'.rank pid = s.rank pid ↔ p.layer = LAYER_DISPLAY_SERVER))) := by
  obtain ⟨hrange, hlist, -, hmagic, -⟩ := id hserves
  rw [registerBrowser, if_neg (not_not.2 hcg), registeringProcess_eq hserves]
  constructor
  · intro hself
    rw [if_neg hself]
    exact ⟨_, rfl⟩
  · intro hself
    have hbr : GRAMADO_PORT_BR ≤ 31 := by decide
    rw [if_pos hself, ok_bind]
    simp only [socketSetGramadoPort_eq hbr hrange]
    generalize hs₁ : ({ s with cgroup := { s.cgroup with browserPid := pid } } :
      IdentityState).setPort GRAMADO_PORT_BR pid = s₁
    obtain ⟨hcg', hports', hds', hdevice', hr⟩ := finishRegistration_spec s₁ pid p
    have hport : s₁.gramadoPorts GRAMADO_PORT_WS = s.gramadoPorts GRAMADO_PORT_WS := by
      have hne : GRAMADO_PORT_WS ≠ GRAMADO_PORT_BR := by decide
      rw [← hs₁]
      exact setPort_of_ne _ pid hne
    have hgroup : s₁.cgroup = { s.cgroup with browserPid := pid } := by
      rw [← hs₁]
      rfl
    have hds : s₁.dsInfo = s.dsInfo := by
      rw [← hs₁]
      rfl
    have hdevice : s₁.displayDevice = s.displayDevice := by
      rw [← hs₁]
      rfl
    refine ⟨(finishRegistration s₁ pid p).1, (finishRegistration s₁ pid p).2, rfl,
      hcg'.trans hgroup, ?_, hds'.trans hds, ?_, hr, fun hnone => ?_⟩
    · rw [IdentityState.places, IdentityState.places, hcg', hports', hds', hgroup, hport, hds]
    · rw [IdentityState.owner, IdentityState.owner, hdevice', hdevice]
    · -- the layer is written before the control thread is looked at
      have hwritten : (finishRegistration s₁ pid p).2.processList pid =
          some { p with layer := LAYER_DISPLAY_SERVER } := by
        rw [finishRegistration]
        cases hcontrol : p.control with
        | none =>
            exact Function.update_self ..
        | some t =>
            have ht : t.magic ≠ 1234 := fun ht => hnone ⟨t, hcontrol, ht⟩
            simp only [if_pos ht]
            exact Function.update_self ..
      rw [IdentityState.rank, IdentityState.rank, hwritten, hlist, Option.map_some, Option.map_some]
      simp only [Option.some.injEq, Prod.mk.injEq, true_and]
      exact eq_comm

/-! ## One call -/

/-- The group is the system's, and the process that is registered, if there is one, has its name in
all the three places. -/
structure IdentityState.Settled (s : IdentityState) : Prop where
  used : s.cgroup.used = TRUE
  magic : s.cgroup.magic = 1234
  agree : s.Unregistered ∨ ∃ q, 0 ≤ q ∧ s.RegisteredBy q ∧ s.dsInfo.initialized = TRUE

/-- The process that calls is served. -/
lemma identitySci0_eq {e : IdentityEvent} (hserves : s.Serves e.caller p) :
    identitySci0 s e = identityService s e.caller e.call := by
  obtain ⟨hrange, hlist, hused, hmagic, hpersonality⟩ := hserves
  have hpid : ¬(e.caller < 0 ∨ e.caller ≥ PROCESS_COUNT_MAX) := by
    rw [not_or, not_lt, ge_iff_le, not_le]
    exact hrange
  have hvalid : ¬(p.used ≠ TRUE ∨ p.magic ≠ 1234) := by simp [hused, hmagic]
  rw [identitySci0, if_neg hpid, hlist]
  dsimp only
  rw [if_neg hvalid, if_neg (not_not.2 hpersonality)]

/-- A process that is not served makes `sci0` panic. -/
lemma identitySci0_unserved {e : IdentityEvent} (h : ∀ p, ¬s.Serves e.caller p) :
    ∃ f, identitySci0 s e = .error f := by
  rw [identitySci0]
  by_cases hpid : e.caller < 0 ∨ e.caller ≥ PROCESS_COUNT_MAX
  · rw [if_pos hpid]
    exact ⟨_, rfl⟩
  rw [if_neg hpid]
  cases hlist : s.processList e.caller with
  | none => exact ⟨_, rfl⟩
  | some p =>
      dsimp only
      by_cases hvalid : p.used ≠ TRUE ∨ p.magic ≠ 1234
      · rw [if_pos hvalid]
        exact ⟨_, rfl⟩
      rw [if_neg hvalid]
      by_cases hpersonality : p.personality ≠ PERSONALITY_GRAMADO
      · rw [if_pos hpersonality]
        exact ⟨_, rfl⟩
      · rw [not_or, not_lt, ge_iff_le, not_le] at hpid
        rw [not_or, not_not, not_not] at hvalid
        exact absurd ⟨hpid, hlist, hvalid.1, hvalid.2, not_not.1 hpersonality⟩ (h p)

lemma IdentityState.Settled.toAgree (h : s.Settled) : s.Agree :=
  h.agree.imp_right fun ⟨q, _, hq, _⟩ => ⟨q, hq⟩

/-- What should hold of a call that returns. -/
structure CallSound (s : IdentityState) (pid : ℤ) (c : IdentityCall) (r : ℤ) (s' : IdentityState) :
    Prop where
  agree : s'.Agree
  exclusive : ∀ q, q ≠ -1 → s.RegisteredBy q → pid ≠ q → s'.places = s.places
  failure : c.Fails r → s'.places = s.places ∧ s'.owner = s.owner ∧ s'.rank pid = s.rank pid

/-- **A call that leaves the three places alone** keeps them in agreement. -/
lemma settled_of_places (h : s.Settled) (hplaces : s'.places = s.places)
    (hds : s'.dsInfo = s.dsInfo)
    (hcg : s'.cgroup.used = s.cgroup.used ∧ s'.cgroup.magic = s.cgroup.magic) : s'.Settled := by
  obtain ⟨hgroup, hport, hpid⟩ : s'.cgroup.displayServerPid = s.cgroup.displayServerPid ∧
      s'.gramadoPorts GRAMADO_PORT_WS = s.gramadoPorts GRAMADO_PORT_WS ∧
        s'.dsInfo.pid = s.dsInfo.pid := by
    simpa only [IdentityState.places, Prod.mk.injEq] using hplaces
  refine ⟨hcg.1.trans h.used, hcg.2.trans h.magic, ?_⟩
  rw [hds]
  refine h.agree.imp (fun hnone => ?_) fun ⟨q, hq, hby, hinit⟩ => ⟨q, hq, ?_, hinit⟩
  · refine ⟨hgroup.trans hnone.cgroup, hport.trans hnone.port, ?_⟩
    rw [hds]
    exact hnone.dsInfo
  · refine ⟨hgroup.trans hby.cgroup, hport.trans hby.port, fun _ => ?_⟩
    exact hpid.trans (hby.dsInfo hinit)

lemma callSound_of_places {c : IdentityCall} {r : ℤ} (h : s.Settled)
    (hplaces : s'.places = s.places) (hds : s'.dsInfo = s.dsInfo)
    (hcg : s'.cgroup.used = s.cgroup.used ∧ s'.cgroup.magic = s.cgroup.magic)
    (hfails : c.Fails r → s'.owner = s.owner ∧ s'.rank pid = s.rank pid) :
    CallSound s pid c r s' :=
  ⟨(settled_of_places h hplaces hds hcg).toAgree, fun _ _ _ _ => hplaces,
    fun hf => ⟨hplaces, hfails hf⟩⟩

/-- **Setting a port**: only the port of the display server matters. -/
lemma setPort_sound {arg2 arg3 : ℕ} (h : s.Settled) {r : ℤ}
    (hcall : socketSetGramadoPort s (toPid arg2) (toPid arg3) = (r, s')) :
    (CallSound s pid (.setPort arg2 arg3) r s' ↔ ServiceOk s pid p (.setPort arg2 arg3)) ∧
      (ServiceOk s pid p (.setPort arg2 arg3) → s'.Settled) := by
  rw [socketSetGramadoPort] at hcall
  by_cases hport : toPid arg2 < 0 ∨ toPid arg2 > 31
  · rw [if_pos hport] at hcall
    cases hcall
    have hok : ServiceOk s pid p (.setPort arg2 arg3) := fun hws => by
      rw [hws] at hport
      exact absurd hport (by decide)
    exact ⟨iff_of_true (callSound_of_places h rfl rfl ⟨rfl, rfl⟩ fun _ => ⟨rfl, rfl⟩) hok,
      fun _ => h⟩
  by_cases hpid : toPid arg3 < 0 ∨ toPid arg3 ≥ PROCESS_COUNT_MAX
  · rw [if_neg hport, if_pos hpid] at hcall
    cases hcall
    have hok : ServiceOk s pid p (.setPort arg2 arg3) := fun _ hlo hhi =>
      absurd hpid (by rw [not_or, not_lt, ge_iff_le, not_le]; exact ⟨hlo, hhi⟩)
    exact ⟨iff_of_true (callSound_of_places h rfl rfl ⟨rfl, rfl⟩ fun _ => ⟨rfl, rfl⟩) hok,
      fun _ => h⟩
  rw [if_neg hport, if_neg hpid] at hcall
  cases hcall
  rw [not_or, not_lt, ge_iff_le, not_le] at hpid
  have hnever : ¬IdentityCall.Fails (.setPort arg2 arg3) 0 := by
    show ¬(0 : ℤ) < 0
    decide
  by_cases hsame : ServiceOk s pid p (.setPort arg2 arg3)
  · have hws : (s.setPort (toPid arg2).toNat (toPid arg3)).gramadoPorts GRAMADO_PORT_WS =
        s.gramadoPorts GRAMADO_PORT_WS := by
      by_cases hws : toPid arg2 = GRAMADO_PORT_WS
      · rw [hws, Int.toNat_natCast, setPort_self]
        exact hsame hws hpid.1 hpid.2
      · refine setPort_of_ne s _ fun heq => hws ?_
        omega
    have hplaces : (s.setPort (toPid arg2).toNat (toPid arg3)).places = s.places := by
      rw [IdentityState.places, IdentityState.places, hws]
      rfl
    exact ⟨iff_of_true (callSound_of_places h hplaces rfl ⟨rfl, rfl⟩ fun hf => absurd hf hnever)
      hsame, fun _ => settled_of_places h hplaces rfl ⟨rfl, rfl⟩⟩
  · refine ⟨iff_of_false (fun hsound => hsame fun hws hlo hhi => ?_) hsame,
      fun hok => absurd hok hsame⟩
    -- the port has a new value, but the group does not
    have hagree := hsound.agree
    rw [hws, Int.toNat_natCast] at hagree
    have hnew : (s.setPort GRAMADO_PORT_WS (toPid arg3)).gramadoPorts GRAMADO_PORT_WS = toPid arg3 :=
      setPort_self ..
    obtain hnone | ⟨q, hby⟩ := hagree
    · obtain hnone' | ⟨q, hq, hby, -⟩ := h.agree
      · rw [hnone'.port, ← hnone.port, hnew]
      · have hcg : s.cgroup.displayServerPid = -1 := hnone.cgroup
        have hq' := hby.cgroup
        omega
    · obtain hnone' | ⟨q', hq', hby', -⟩ := h.agree
      · have hcg : s.cgroup.displayServerPid = q := hby.cgroup
        have hport' := hnew.symm.trans hby.port
        have hminus := hnone'.cgroup
        omega
      · have hcg : s.cgroup.displayServerPid = q := hby.cgroup
        rw [hby'.port, ← hby'.cgroup, hcg, ← hby.port, hnew]

/-- What a call should do, whether it returns or not. -/
def Served (s : IdentityState) (pid : ℤ) (p : IdentityProcess) (c : IdentityCall) : Prop :=
  match identityService s pid c with
  | .error _ => ¬ServiceOk s pid p c
  | .ok (r, s') =>
      (CallSound s pid c r s' ↔ ServiceOk s pid p c) ∧ (ServiceOk s pid p c → s'.Settled)

lemma setDisplayServer_served {arg3 : ℕ} (h : s.Settled) (hserves : s.Serves pid p) :
    Served s pid p (.setDisplayServer arg3) := by
  obtain ⟨hpanic, hwritten⟩ := registerDisplayServer_spec (toPid arg3) h.magic hserves
  rw [Served, identityService]
  by_cases hbad : toPid arg3 ≠ pid ∨ s.dsInfo.initialized = TRUE
  · obtain ⟨f, hf⟩ := hpanic hbad
    rw [hf]
    exact fun hok => hbad.elim (fun hne => hne hok.1) hok.2.1
  rw [not_or, not_not] at hbad
  obtain ⟨r, s', hr, hcg, hport, hsuccess, hds⟩ := hwritten hbad.1 hbad.2
  rw [hr]
  show (CallSound s pid _ (registered r) s' ↔ _) ∧ _
  have hgroup : s'.cgroup.displayServerPid = pid := by rw [hcg]
  have hrange : 0 ≤ pid := hserves.1.1
  have hnone : s.Unregistered := h.agree.resolve_right fun ⟨q, _, _, hinit⟩ => hbad.2 hinit
  by_cases hcontrol : p.HasControl
  · obtain ⟨hinit, hpid⟩ := hds hcontrol
    have hby : s'.RegisteredBy pid := ⟨hgroup, hport, fun _ => hpid⟩
    have hok : ServiceOk s pid p (.setDisplayServer arg3) := ⟨hbad.1, hbad.2, hcontrol⟩
    have hsettled : s'.Settled := by
      refine ⟨?_, ?_, .inr ⟨pid, hrange, hby, hinit⟩⟩
      · rw [hcg]
        exact h.used
      · rw [hcg]
        exact h.magic
    refine ⟨iff_of_true ⟨hsettled.toAgree, fun q hq hreg _ => ?_, fun hf => ?_⟩ hok,
      fun _ => hsettled⟩
    · exact absurd (hreg.cgroup.symm.trans hnone.cgroup) hq
    · have hdone : registered r = TRUE := by rw [registered, if_pos (hsuccess.2 hcontrol)]
      exact absurd hdone hf
  · refine ⟨iff_of_false (fun hsound => ?_) fun hok => hcontrol hok.2.2,
      fun hok => absurd hok.2.2 hcontrol⟩
    have hfail : registered r ≠ TRUE := by
      rw [registered, if_neg fun hr => hcontrol (hsuccess.1 hr)]
      decide
    -- it fails, but the group was written
    have hplaces := (hsound.failure hfail).1
    have hwrote := (Prod.mk.inj hplaces).1
    rw [hgroup, hnone.cgroup] at hwrote
    omega

lemma setBrowser_served {arg3 : ℕ} (h : s.Settled) (hserves : s.Serves pid p) :
    Served s pid p (.setBrowser arg3) := by
  obtain ⟨hpanic, hwritten⟩ := registerBrowser_spec (toPid arg3) h.magic hserves
  rw [Served, identityService]
  by_cases hself : toPid arg3 = pid
  · obtain ⟨r, s', hr, hcg, hplaces, hds, howner, hsuccess, hrank⟩ := hwritten hself
    rw [hr]
    show (CallSound s pid _ (registered r) s' ↔ _) ∧ _
    have hcg' : s'.cgroup.used = s.cgroup.used ∧ s'.cgroup.magic = s.cgroup.magic := by
      rw [hcg]
      exact ⟨rfl, rfl⟩
    have hsettled := settled_of_places h hplaces hds hcg'
    by_cases hcontrol : p.HasControl
    · have hdone : registered r = TRUE := by rw [registered, if_pos (hsuccess.2 hcontrol)]
      have hok : ServiceOk s pid p (.setBrowser arg3) := ⟨hself, .inl hcontrol⟩
      exact ⟨iff_of_true (callSound_of_places h hplaces hds hcg' fun hf => absurd hdone hf) hok,
        fun _ => hsettled⟩
    · have hfail : registered r ≠ TRUE := by
        rw [registered, if_neg fun hr => hcontrol (hsuccess.1 hr)]
        decide
      refine ⟨⟨fun hsound => ⟨hself, .inr ?_⟩, fun hok => ?_⟩, fun _ => hsettled⟩
      · exact (hrank hcontrol).1 (hsound.failure hfail).2.2
      · refine callSound_of_places h hplaces hds hcg' fun _ => ⟨howner, ?_⟩
        exact (hrank hcontrol).2 (hok.2.resolve_left hcontrol)
  · obtain ⟨f, hf⟩ := hpanic hself
    rw [hf]
    exact fun hok => hself hok.1

/-- **Every call** is sound exactly if `ServiceOk` holds. -/
lemma identityService_served (h : s.Settled) (hserves : s.Serves pid p) (c : IdentityCall) :
    Served s pid p c := by
  have hvalid : s.cgroup.used = TRUE ∧ s.cgroup.magic = 1234 := ⟨h.used, h.magic⟩
  cases c with
  | getDisplayServer =>
      have hok : ServiceOk s pid p .getDisplayServer := trivial
      rw [Served, identityService, if_pos hvalid]
      exact ⟨iff_of_true (callSound_of_places h rfl rfl ⟨rfl, rfl⟩ fun _ => ⟨rfl, rfl⟩) hok,
        fun _ => h⟩
  | setDisplayServer arg3 => exact setDisplayServer_served h hserves
  | setBrowser arg3 => exact setBrowser_served h hserves
  | setNetworkServer arg3 =>
      have hns : GRAMADO_PORT_NS ≤ 31 := by decide
      have hne : GRAMADO_PORT_WS ≠ GRAMADO_PORT_NS := by decide
      rw [Served, identityService, if_pos hvalid]
      simp only [socketSetGramadoPort_eq hns hserves.1]
      generalize hs₁ : ({ s with cgroup := { s.cgroup with networkServerPid := toPid arg3 } } :
        IdentityState).setPort GRAMADO_PORT_NS pid = s₁
      have hcg : s₁.cgroup = { s.cgroup with networkServerPid := toPid arg3 } := by
        rw [← hs₁]
        rfl
      have hds : s₁.dsInfo = s.dsInfo := by rw [← hs₁, setPort_dsInfo]
      have hport : s₁.gramadoPorts GRAMADO_PORT_WS = s.gramadoPorts GRAMADO_PORT_WS := by
        rw [← hs₁]
        exact setPort_of_ne _ pid hne
      have hplaces : s₁.places = s.places := by
        rw [IdentityState.places, IdentityState.places, hcg, hport, hds]
      have hcg' : s₁.cgroup.used = s.cgroup.used ∧ s₁.cgroup.magic = s.cgroup.magic := by
        rw [hcg]
        exact ⟨rfl, rfl⟩
      have hok : ServiceOk s pid p (.setNetworkServer arg3) := trivial
      exact ⟨iff_of_true (callSound_of_places h hplaces hds hcg' fun hf => absurd rfl hf) hok,
        fun _ => settled_of_places h hplaces hds hcg'⟩
  | setPort arg2 arg3 =>
      rw [Served, identityService]
      cases hcall : socketSetGramadoPort s (toPid arg2) (toPid arg3) with
      | mk r s' => exact setPort_sound h hcall

/-- **One call** is sound exactly if the condition holds, and then the places agree again. -/
lemma identityStep_sound {t t' : IdentityTrace} {e : IdentityEvent} (h : t.kernel.Settled)
    (hstep : identityStep t e = .ok t') :
    (Sound t e t' ↔ CallOk t e) ∧ (CallOk t e → t'.kernel.Settled) := by
  rw [identityStep] at hstep
  cases hres : t.result with
  | error f =>
      rw [hres] at hstep
      cases hstep
  | ok r₀ =>
      rw [hres] at hstep
      dsimp only at hstep
      by_cases hserves : ∃ p, t.kernel.Serves e.caller p
      · obtain ⟨p, hserves⟩ := hserves
        have hcond : CallOk t e ↔ ServiceOk t.kernel e.caller p e.call := by
          refine ⟨fun ⟨q, hq, hok⟩ => ?_, fun hok => ⟨p, hserves, hok⟩⟩
          obtain rfl : p = q := Option.some.inj (hserves.2.1.symm.trans hq.2.1)
          exact hok
        have hserved := identityService_served h hserves e.call
        rw [identitySci0_eq hserves] at hstep
        rw [hcond]
        rw [Served] at hserved
        cases hcall : identityService t.kernel e.caller e.call with
        | error f =>
            rw [hcall] at hstep hserved
            cases hstep
            refine ⟨iff_of_false (fun hsound => ?_) hserved, fun hok => absurd hok hserved⟩
            obtain ⟨r, hr⟩ := hsound.returns
            cases hr
        | ok result =>
            obtain ⟨r, s'⟩ := result
            rw [hcall] at hstep hserved
            cases hstep
            refine ⟨Iff.trans ⟨fun hsound => ?_, fun hsound => ?_⟩ hserved.1, hserved.2⟩
            · exact ⟨hsound.agree, hsound.exclusive, hsound.failure r rfl⟩
            · refine ⟨⟨r, rfl⟩, hsound.agree, hsound.exclusive, fun r' hr' hf => ?_⟩
              cases hr'
              exact hsound.failure hf
      · obtain ⟨f, hf⟩ := identitySci0_unserved fun p hp => hserves ⟨p, hp⟩
        rw [hf] at hstep
        cases hstep
        have hno : ¬CallOk t e := fun ⟨p, hp, _⟩ => hserves ⟨p, hp⟩
        refine ⟨iff_of_false (fun hsound => ?_) hno, fun hok => absurd hok hno⟩
        obtain ⟨r, hr⟩ := hsound.returns
        cases hr

/-- **Who is the display server.**  Along every run of identity calls from the start of the system,
all the calls are sound exactly if they all meet the condition. -/
theorem identity_run (t : IdentityTrace) (es : List IdentityEvent) (h : t.Fresh) :
    AlongSteps identityStep Sound t es ↔ Meets identityStep CallOk t es :=
  alongSteps_iff_meets (fun t => t.kernel.Settled)
    (fun _ _ _ ht hstep => (identityStep_sound ht hstep).1)
    (fun _ _ _ ht hok hstep => (identityStep_sound ht hstep).2 hok) es t
    ⟨h.used, h.magic, .inl h.unregistered⟩

end

/-! ## A server and a client -/

/-- A process with a valid control thread. -/
def plainProcess : IdentityProcess where
  used := TRUE
  magic := 1234
  personality := PERSONALITY_GRAMADO
  layer := 0
  type := 0
  basePriority := 1
  priority := 1
  control := some ⟨1234, 100, 0, 1, 1, 1, 0⟩

/-- Nobody is registered, and every process is valid. -/
def plainSystem : IdentityTrace where
  kernel :=
    { cgroup := ⟨TRUE, 1234, -1, -1, 0⟩
      gramadoPorts := fun _ => 0
      dsInfo := ⟨FALSE, 0, 0, 0⟩
      displayDevice := some ⟨1234, 0⟩
      fgConsole := 0
      processList := fun _ => some plainProcess }
  result := .ok 0

lemma plainSystem_fresh : plainSystem.Fresh :=
  ⟨rfl, rfl, rfl, rfl, rfl, by decide⟩

/-- A process that names another one makes the kernel panic. -/
theorem identity_run_fails :
    ¬∀ (t : IdentityTrace) (es : List IdentityEvent), t.Fresh →
      AlongSteps identityStep Sound t es := by
  intro h
  have hstep : identityStep plainSystem ⟨8, .setDisplayServer 7⟩ = .ok ⟨plainSystem.kernel,
      .error (.panic "network_register_ring3_display_server: caller_pid\n")⟩ := rfl
  obtain ⟨r, hr⟩ := (h plainSystem [⟨8, .setDisplayServer 7⟩] plainSystem_fresh _ hstep).1.returns
  cases hr

/-- A process registers itself. -/
theorem identity_run_plain :
    AlongSteps identityStep Sound plainSystem [⟨7, .setDisplayServer 7⟩] := by
  refine (identity_run plainSystem _ plainSystem_fresh).2 fun t _ => ⟨?_, trivial⟩
  exact ⟨plainProcess, ⟨by decide, rfl, rfl, rfl, rfl⟩, by decide, by decide, _, rfl, rfl⟩

end Gramado
