import Mathlib.Data.List.Basic

/-!
`XrayBridge`: the calls of `ensure` and `stop`, which give up control at their awaits, over the
process that the bridge tracks, the links that it runs for, and the file from which a process
reads its configuration.
-/

namespace MolidoVpn.Windows.XrayBridge

/-- The inbounds `in0`, `in1` and so on by their ports, each with the link of its outbound. -/
abbrev Config (Link : Type) : Type := List (Nat × Link)

/-- Where a connection to the port leaves. -/
def Config.leaving {Link : Type} (config : Config Link) (port : Nat) : Option Link :=
  (config.find? fun inbound => inbound.1 = port).map Prod.snd

/-- An Xray process, and the configuration that has been written for it. What it has found in the
file is there once it has read it. -/
structure Process (Link : Type) where
  written : Config Link
  found : Option (Option (Config Link))
  exited : Bool
  killed : Bool

namespace Process

variable {Link : Type} (process : Process Link)

def Alive : Prop := process.exited = false ∧ process.killed = false

instance decidableAlive : Decidable process.Alive :=
  inferInstanceAs (Decidable (_ ∧ process.killed = false))

/-- What the process runs on, or will. -/
def config : Option (Config Link) := process.found.getD (some process.written)

end Process

/-- The await at which a call of `ensure` stands. -/
inductive Phase where
  | stopping
  | writing
  | starting (process : Nat)
  | storing (process : Nat)
  | connecting
  | returned
  | thrown
  deriving DecidableEq

/-- Between the stop of the old process and the start of the new one. -/
def Phase.Busy : Phase → Bool
  | stopping => true
  | writing => true
  | starting _ => true
  | _ => false

/-- A call of `ensure`: the links of it that have a port, those that are to be served after it, and
how many stops there had been when it had its process, once it has. -/
structure Call (Link : Type) where
  links : List Link
  wanted : List Link
  config : Config Link
  phase : Phase
  since : Option Nat

structure Bridge (Link : Type) where
  ports : List (Link × Nat)
  nextPort : Nat
  running : List Link
  proc : Option Nat
  /-- Nothing where the file is not there, or is being written. -/
  file : Option (Config Link)
  processes : List (Process Link)
  calls : List (Call Link)
  stops : Nat
  /-- The calls that have returned at once, of which the process had exited by then. -/
  deserted : List (List Link)

section Sets

variable {Link : Type} [DecidableEq Link]

/-- A set of Dart keeps the order of insertion. -/
def addAll (set : List Link) : List Link → List Link
  | [] => set
  | link :: rest => addAll (if link ∈ set then set else set ++ [link]) rest

end Sets

inductive Event (Link : Type) where
  /-- `socksOutbound` of an XHTTP link. -/
  | reserved (link : Link)
  | ensure (links : List Link)
  /-- The `stop` that a call awaits has ended. -/
  | stopped (call : Nat)
  /-- The file is not whole yet. -/
  | cut (call : Nat)
  | written (call : Nat)
  | writeFailed (call : Nat)
  | started (call : Nat)
  | startFailed (call : Nat)
  | stored (call : Nat)
  | storeFailed (call : Nat)
  /-- The first inbound accepts connections, or has not for too long. -/
  | connected (call : Nat)
  | boots (process : Nat)
  | exits (process : Nat)
  | stop
  deriving DecidableEq

namespace Bridge

variable {Link : Type} [DecidableEq Link] (bridge : Bridge Link)

def initial (nextPort : Nat) : Bridge Link :=
  { ports := []
    nextPort := nextPort
    running := []
    proc := none
    file := none
    processes := []
    calls := []
    stops := 0
    deserted := [] }

def reserve (link : Link) : Bridge Link :=
  if (bridge.ports.lookup link).isSome then bridge
  else
    { bridge with
      ports := (link, bridge.nextPort) :: bridge.ports
      nextPort := bridge.nextPort + 1 }

/-- Those of the links that have a port. -/
def known (links : List Link) : List Link :=
  links.filter fun link => (bridge.ports.lookup link).isSome

def wanted (links : List Link) : List Link := addAll bridge.running (bridge.known links)

/-- `ensure` returns at once. -/
def Skips (links : List Link) : Prop :=
  bridge.wanted links = [] ∨
    bridge.proc.isSome = true ∧ (bridge.wanted links).length = bridge.running.length

instance decidableSkips (links : List Link) : Decidable (bridge.Skips links) :=
  inferInstanceAs (Decidable (_ ∨ _ ∧ _))

def configFor (links : List Link) : Config Link :=
  links.filterMap fun link => (bridge.ports.lookup link).map fun port => (port, link)

/-- What `stop` does before its first await. -/
def halt : Bridge Link :=
  { bridge with
    proc := none
    running := []
    stops := bridge.stops + 1
    processes :=
      match bridge.proc with
      | none => bridge.processes
      | some p => bridge.processes.modify p fun process => { process with killed := true } }

def setCall (c : Nat) (call : Call Link) : Bridge Link :=
  { bridge with calls := bridge.calls.set c call }

def setPhase (c : Nat) (call : Call Link) (phase : Phase) : Bridge Link :=
  bridge.setCall c { call with phase := phase }

/-- The tracked process has exited by itself. -/
def Deserted : Prop := bridge.proc.any fun p => bridge.processes[p]?.any Process.exited

instance decidableDeserted : Decidable bridge.Deserted :=
  inferInstanceAs (Decidable (_ = true))

/-- A call of `ensure`, to its first await. -/
def ensure (links : List Link) : Bridge Link :=
  let known := bridge.known links
  let wanted := bridge.wanted links
  if bridge.Skips links then
    { bridge with
      calls := bridge.calls ++ [{
        links := known
        wanted := wanted
        config := []
        phase := .returned
        since := if wanted = [] then none else some bridge.stops }]
      deserted :=
        if wanted ≠ [] ∧ bridge.Deserted then bridge.deserted ++ [known] else bridge.deserted }
  else
    { bridge.halt with
      calls := bridge.calls ++ [{
        links := known
        wanted := wanted
        config := bridge.configFor wanted
        phase := .stopping
        since := none }] }

/-- The rest of a call of `ensure`, from one await to the next. -/
def resume (c : Nat) (call : Call Link) : Event Link → Option (Bridge Link)
  | .stopped _ => if call.phase = .stopping then some (bridge.setPhase c call .writing) else none
  | .cut _ => if call.phase = .writing then some { bridge with file := none } else none
  | .written _ =>
      if call.phase = .writing then
        let process : Process Link :=
          { written := call.config
            found := none
            exited := false
            killed := false }
        some { bridge.setPhase c call (.starting bridge.processes.length) with
          file := some call.config
          processes := bridge.processes ++ [process] }
      else none
  | .writeFailed _ => if call.phase = .writing then some (bridge.setPhase c call .thrown) else none
  | .started _ =>
      match call.phase with
      | .starting p =>
          some { bridge.setCall c { call with phase := .storing p, since := some bridge.stops } with
            proc := some p
            running := call.wanted }
      | _ => none
  | .startFailed _ =>
      match call.phase with
      | .starting p =>
          some { bridge.setPhase c call .thrown with
            proc := none
            running := []
            processes := bridge.processes.modify p fun process => { process with exited := true } }
      | _ => none
  | .stored _ =>
      match call.phase with
      | .storing _ => some (bridge.setPhase c call .connecting)
      | _ => none
  | .storeFailed _ =>
      match call.phase with
      | .storing _ => some { bridge.setPhase c call .thrown with proc := none, running := [] }
      | _ => none
  | .connected _ =>
      if call.phase = .connecting then some (bridge.setPhase c call .returned) else none
  | _ => none

end Bridge

def Event.call? {Link : Type} : Event Link → Option Nat
  | stopped c => some c
  | cut c => some c
  | written c => some c
  | writeFailed c => some c
  | started c => some c
  | startFailed c => some c
  | stored c => some c
  | storeFailed c => some c
  | connected c => some c
  | _ => none

section Steps

variable {Link : Type} [DecidableEq Link]

def next (bridge : Bridge Link) : Event Link → Option (Bridge Link)
  | .reserved link => some (bridge.reserve link)
  | .ensure links => some (bridge.ensure links)
  | .boots p =>
      bridge.processes[p]?.bind fun process =>
        if process.Alive ∧ process.found = none then
          some { bridge with
            processes := bridge.processes.set p { process with found := some bridge.file } }
        else none
  | .exits p =>
      bridge.processes[p]?.bind fun process =>
        if process.Alive then
          some { bridge with processes := bridge.processes.set p { process with exited := true } }
        else none
  | .stop => some bridge.halt
  | event =>
      event.call?.bind fun c => bridge.calls[c]?.bind fun call => bridge.resume c call event

end Steps

end MolidoVpn.Windows.XrayBridge
