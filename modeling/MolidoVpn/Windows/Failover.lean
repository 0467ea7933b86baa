import MolidoVpn.Desktop.Controller

/-!
The anti-freeze of the Windows engine: `failover` asks the running core to move its selector to the
next backup server, and `connect` and `disconnect` change the session that it does so in. All three
give up control at their awaits.
-/

namespace MolidoVpn.Windows.Failover

open Desktop (Server)

/-- A core process: the port of its API, and the backups that its configuration has as `proxy-1`,
`proxy-2` and so on, behind the main server, `proxy-0`. -/
structure Core where
  api : Nat
  backups : List Server
  /-- "proxy" is a selector, and not a `urltest` or the main server itself. -/
  selector : Bool
  selected : Nat
  running : Bool

/-- The await at which a call of `connect` or `disconnect` stands; one that touches none of the
fields of `Engine` is not told apart from the next. -/
inductive Phase where
  /-- `disconnect`, and whether `connect` goes on after it. -/
  | disconnecting (goesOn : Bool)
  | preparing
  | starting (api : Nat) (backups : List Server) (multiPath : Bool)
  | booting (api : Nat)
  | verifying
  | done

def Phase.Starting : Phase → Bool
  | starting _ _ _ => true
  | _ => false

structure Call where
  /-- The server of a `connect`, and whether the options ask for a multi-path group. -/
  target : Option (Server × Bool)
  phase : Phase

/-- A call of `failover` that waits for the core: the session that it has been called in is a
number that nobody reads. -/
structure Request where
  api : Nat
  next : Nat
  session : Nat
  answer : Option Bool
  done : Bool

/-- What a call of `failover` finds when the core has moved: the fields that it reads and the
current core; and the sessions, then and when it has been called. -/
structure Outcome where
  next : Nat
  standby : List Server
  core : Option Core
  session : Nat
  asked : Nat

structure Engine where
  api : Option Nat
  activeStandby : List Server
  activeIndex : Nat
  multiPath : Bool
  /-- `_core.process`. -/
  process : Option Nat
  standby : List Server
  cores : List Core
  calls : List Call
  requests : List Request
  session : Nat
  outcomes : List Outcome

inductive Event where
  | setStandby (standby : List Server)
  | connect (server : Server) (multiPath : Bool)
  | disconnect
  /-- `disconnect` comes to its `_core.stop()`. -/
  | coreStops (call : Nat)
  /-- `connect` ends before it has chosen its backups. -/
  | abandoned (call : Nat)
  | begins (call api : Nat)
  | spawned (call : Nat)
  | spawnFailed (call : Nat)
  | apiAnswered (call : Nat) (up : Bool)
  | verified (call : Nat) (passes : Bool)
  | exits (core : Nat)
  /-- The exit handler of the core runs. -/
  | noticed (core : Nat)
  | failover
  /-- The request comes to a core that listens at its port. -/
  | handled (request core : Nat)
  /-- There is no answer: an error, or it has taken too long. -/
  | lost (request : Nat)
  | resumes (request : Nat)

namespace Engine

def initial : Engine :=
  { api := none
    activeStandby := []
    activeIndex := 0
    multiPath := false
    process := none
    standby := []
    cores := []
    calls := []
    requests := []
    session := 0
    outcomes := [] }

variable (engine : Engine)

/-- The first stretch of `disconnect`. -/
def clear : Engine :=
  { engine with
    api := none
    activeStandby := []
    activeIndex := 0
    multiPath := false
    session := engine.session + 1 }

/-- `SingboxCore.stop`: the process is forgotten and killed. -/
def stopCore : Engine :=
  { engine with
    process := none
    cores :=
      match engine.process with
      | none => engine.cores
      | some n => engine.cores.modify n fun core => { core with running := false } }

def setPhase (c : Nat) (call : Call) (phase : Phase) : Engine :=
  { engine with calls := engine.calls.set c { call with phase := phase } }

/-- The backups of a connection: those of the standby servers that the core can dial by itself. -/
def backupsFor (hasOutbound : Server → Bool) (server : Server) : List Server :=
  if server.isFree || server.isChain then []
  else
    engine.standby.filter fun other =>
      !(other.uri == server.uri || other.isFree || "warp://".toList.isPrefixOf other.uri) &&
        hasOutbound other

/-- The stretch of `connect` that sets what `failover` reads, up to the wait in `_core.start`. -/
def beginSession (c : Nat) (call : Call) (api : Nat) (backups : List Server) (multiPath : Bool) :
    Engine :=
  { engine.stopCore.setPhase c call (.starting api backups multiPath) with
    activeStandby := backups
    activeIndex := 0
    multiPath := multiPath
    session := engine.session + 1 }

def spawn (c : Nat) (call : Call) (api : Nat) (backups : List Server) (multiPath : Bool) : Engine :=
  let core : Core :=
    { api := api
      backups := backups
      selector := !multiPath && !backups.isEmpty
      selected := 0
      running := true }
  { engine.setPhase c call (.booting api) with
    process := some engine.cores.length
    cores := engine.cores ++ [core] }

/-- `connect`, from one await to the next. -/
def resume (hasOutbound : Server → Bool) (c : Nat) (call : Call) : Event → Option Engine
  | .coreStops _ =>
      match call.phase with
      | .disconnecting goesOn =>
          some (engine.stopCore.setPhase c call (if goesOn then .preparing else .done))
      | _ => none
  | .abandoned _ =>
      match call.phase with
      | .preparing => some (engine.setPhase c call .done)
      | _ => none
  | .begins _ api =>
      match call.phase, call.target with
      | .preparing, some (server, multiPath) =>
          let backups := engine.backupsFor hasOutbound server
          let multiPath := multiPath && !server.isFree && !server.isChain
          some (engine.beginSession c call api backups multiPath)
      | _, _ => none
  | .spawned _ =>
      match call.phase with
      | .starting api backups multiPath => some (engine.spawn c call api backups multiPath)
      | _ => none
  | .spawnFailed _ =>
      match call.phase with
      | .starting _ _ _ => some (engine.setPhase c call .done)
      | _ => none
  | .apiAnswered _ up =>
      match call.phase with
      | .booting api =>
          if up then some { engine.setPhase c call .verifying with api := some api }
          else some (engine.clear.setPhase c call (.disconnecting false))
      | _ => none
  | .verified _ passes =>
      match call.phase with
      | .verifying =>
          if passes then some (engine.setPhase c call .done)
          else some (engine.clear.setPhase c call (.disconnecting false))
      | _ => none
  | _ => none

/-- `failover`, to its await or to its end. -/
def failover : Engine :=
  match engine.api with
  | none => engine
  | some api =>
      if engine.multiPath = true ∨ engine.process = none ∨
          engine.activeStandby.length ≤ engine.activeIndex then engine
      else
        { engine with
          requests := engine.requests ++ [{
            api := api
            next := engine.activeIndex + 1
            session := engine.session
            answer := none
            done := false }] }

def setRequest (f : Nat) (request : Request) : Engine :=
  { engine with requests := engine.requests.set f request }

/-- A core that gets the request moves its selector if it has the member. -/
def handle (f : Nat) (request : Request) (n : Nat) (core : Core) : Engine :=
  let able := core.selector && request.next ≤ core.backups.length
  { engine.setRequest f { request with answer := some able } with
    cores :=
      if able then engine.cores.set n { core with selected := request.next } else engine.cores }

/-- `failover` after its await. -/
def complete (f : Nat) (request : Request) (moved : Bool) : Engine :=
  let engine := engine.setRequest f { request with done := true }
  if moved then
    { engine with
      activeIndex := request.next
      outcomes := engine.outcomes ++ [{
        next := request.next
        standby := engine.activeStandby
        core := engine.process.bind fun n => engine.cores[n]?
        session := engine.session
        asked := request.session }] }
  else engine

end Engine

def Event.call? : Event → Option Nat
  | coreStops c => some c
  | abandoned c => some c
  | begins c _ => some c
  | spawned c => some c
  | spawnFailed c => some c
  | apiAnswered c _ => some c
  | verified c _ => some c
  | _ => none

def next (hasOutbound : Server → Bool) (engine : Engine) : Event → Option Engine
  | .setStandby standby => some { engine with standby := standby }
  | .connect server multiPath =>
      some { engine.clear with calls := engine.calls ++ [{
        target := some (server, multiPath)
        phase := .disconnecting true }] }
  | .disconnect =>
      some { engine.clear with calls := engine.calls ++ [{
        target := none
        phase := .disconnecting false }] }
  | .exits n =>
      engine.cores[n]?.map fun core =>
        { engine with cores := engine.cores.set n { core with running := false } }
  | .noticed n =>
      engine.cores[n]?.bind fun core =>
        if core.running then none
        else some (if engine.process = some n then { engine with process := none } else engine)
  | .failover => some engine.failover
  | .handled f n =>
      engine.requests[f]?.bind fun request => engine.cores[n]?.bind fun core =>
        if request.done = false ∧ request.answer = none ∧ core.running = true ∧
            core.api = request.api then some (engine.handle f request n core)
        else none
  | .lost f =>
      engine.requests[f]?.bind fun request =>
        if request.done then none
        else some (engine.setRequest f { request with answer := some false })
  | .resumes f =>
      engine.requests[f]?.bind fun request =>
        if request.done then none else request.answer.map (engine.complete f request)
  | event =>
      event.call?.bind fun c =>
        engine.calls[c]?.bind fun call => engine.resume hasOutbound c call event

end MolidoVpn.Windows.Failover
