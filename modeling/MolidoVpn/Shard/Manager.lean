import MolidoVpn.Lib.Transition

/-!
The threads that share the fields of `ShardManager`: a call of `start` or `rotate` that
holds the lock, the calls of `stop` and the clean-up threads they leave, and the thread of
`refreshStandbyInBackground` with its detached race. A step is one access to a shared
field, and a node is its `key`.
-/

namespace MolidoVpn.Shard

open Transition (Run ofNext)

universe u

/-- The pools that a session races: `ShardSubscription`, `V2raySubscription`, `MyConfigs`. -/
inductive Kind where
  | shard
  | v2ray
  | mine
  deriving DecidableEq

def Kind.isV2ray : Kind → Bool
  | .shard => false
  | .v2ray | .mine => true

def Kind.isMine : Kind → Bool
  | .shard | .v2ray => false
  | .mine => true

/-- The pool that the background thread takes by the two flags of the session. -/
def sourceKind (sessionV2ray sessionMine : Bool) : Kind :=
  if sessionV2ray then if sessionMine then .mine else .v2ray else .shard

/-- A connect of the user is named by its place among the connects. -/
inductive Call where
  | start (session : Nat) (kind : Kind)
  | rotate
  deriving DecidableEq

/-- Who launches the tunnel. -/
inductive Launcher where
  | start
  | switchToStandby
  deriving DecidableEq

/-- The three writes of `killProcess`. -/
inductive KillStage where
  | running
  | activeNode
  | process
  deriving DecidableEq

/-- How far the call is that holds the lock. -/
inductive Pc (Node : Type u) where
  | idle
  /-- `sessionV2ray` is written -/
  | entered (kind : Kind)
  /-- about to clear the flag, in `start` or to launch this standby -/
  | unlatch (standby : Option Node)
  | slices
  | probing
  | kill (stage : KillStage) (resume : Pc Node)
  /-- before a checkpoint, with a winner -/
  | ready (target : Node)
  | committed (launcher : Launcher) (target : Node)
  | spawned (launcher : Launcher) (target : Node) (process : Nat)
  | awaiting (launcher : Launcher) (target : Node) (process : Nat)
  | listening (launcher : Launcher) (target : Node)
  | marked (launcher : Launcher) (target : Node)
  | refresh
  | rotating (previous : Option Node)
  | switching (previous : Option Node) (standby : Node)
  deriving DecidableEq

/-- After a race of `start`: its winner, or the next slice. -/
def Pc.raced {Node : Type u} : Option Node → Pc Node
  | none => .slices
  | some winner => .ready winner

/-- After a tunnel is up. -/
def Pc.brought {Node : Type u} : Launcher → Pc Node
  | .start => .idle
  | .switchToStandby => .refresh

inductive CleanupStage where
  | compare
  | drop
  | running
  | activeNode
  | done
  deriving DecidableEq

/-- The thread that a `stop` leaves: how many connects there had been, and the process it killed. -/
structure Cleanup where
  aim : Nat
  process : Option Nat
  stage : CleanupStage
  deriving DecidableEq

/-- A detached race: the active node when its thread began, and the session and the pool when
its candidates were chosen. -/
structure Detached (Node : Type u) where
  active : Node
  kind : Kind
  session : Nat
  deriving DecidableEq

inductive StandbyRace (Node : Type u) where
  | idle
  | started
  | looked (active : Node)
  | pooled (race : Detached Node)
  | racing (race : Detached Node)
  | found (race : Detached Node) (winner : Node)
  | keeping (race : Detached Node) (winner : Node)
  deriving DecidableEq

def StandbyRace.raced {Node : Type u} (race : Detached Node) : Option Node → StandbyRace Node
  | none => .idle
  | some winner => .found race winner

inductive Event where
  | connect
  /-- a `stop` has returned, and its thread is left -/
  | stop
  /-- a tunnel process is launched -/
  | launched
  /-- `running` is set -/
  | up
  /-- a clean-up of a `stop` with this aim clears what this session has set -/
  | cleared (aim session : Nat)
  deriving DecidableEq

/-- The flag and the node that are up stand with the session that has set them. -/
structure Manager (Node : Type u) where
  stopRequestedDuringStart : Bool
  running : Option Nat
  activeNode : Option (Nat × Node)
  process : Option Nat
  standbyNode : Option Node
  sessionV2ray : Bool
  sessionMine : Bool
  pc : Pc Node
  /-- calls that wait for the lock -/
  waiting : List Call
  /-- calls of `stop` that have set the flag and not yet read `process` -/
  stopping : Nat
  cleanups : List Cleanup
  standbyRace : StandbyRace Node
  /-- processes launched, and those of them that have been killed -/
  processes : Nat
  killed : List Nat
  /-- connects of the user, and the one whose `start` was the last to get the lock -/
  connects : Nat
  session : Nat
  kind : Kind
  /-- the nodes that have answered a probe -/
  answered : List Node
  /-- the session of the detached race that has written `standbyNode`, if one has -/
  standbyBy : Option Nat
  history : List Event
  deriving DecidableEq

def Manager.initial (Node : Type u) : Manager Node :=
  { stopRequestedDuringStart := false
    running := none
    activeNode := none
    process := none
    standbyNode := none
    sessionV2ray := false
    sessionMine := false
    pc := .idle
    waiting := []
    stopping := 0
    cleanups := []
    standbyRace := .idle
    processes := 0
    killed := []
    connects := 0
    session := 0
    kind := .shard
    answered := []
    standbyBy := none
    history := [] }

inductive Label (Node : Type u) where
  | connect (kind : Kind)
  /-- the watchdog calls `rotate` -/
  | rotate
  /-- a waiting call gets the lock -/
  | enter (index : Nat)
  /-- the next step of the call that holds the lock, where there is one -/
  | proceed
  /-- the nodes that answered, in their order -/
  | raceEnds (answers : List Node)
  | raceAborts
  | noMoreSlices
  /-- a tunnel cannot be launched, or does not carry; whether `start` has another to try -/
  | attemptFails (again : Bool)
  | stopLatches
  | stopCaptures
  | cleanup (index : Nat)
  | standbyProceeds
  | standbyRaceEnds (answers : List Node)
  | standbyRaceAborts
  deriving DecidableEq

variable {Node : Type u}

namespace Manager

def goTo (state : Manager Node) (pc : Pc Node) : Manager Node := { state with pc := pc }

def record (state : Manager Node) (event : Event) : Manager Node :=
  { state with history := state.history ++ [event] }

def isAlive (state : Manager Node) (process : Nat) : Bool := !state.killed.contains process

def isRunning (state : Manager Node) : Bool :=
  state.running.isSome && state.process.any state.isAlive

/-- `destroy` of a captured process. -/
def destroy (state : Manager Node) (process : Option Nat) : Manager Node :=
  { state with killed := process.toList ++ state.killed }

/-- The rest of `stop` after its flag: the process is read and killed, and a thread is left. -/
def capture (state : Manager Node) (aim : Nat) : Manager Node :=
  { state.destroy state.process with
    cleanups := state.cleanups ++ [⟨aim, state.process, .compare⟩] }

/-- What `race` leaves in `standbyNode`. -/
def storeRunnerUp (state : Manager Node) (answers : List Node) (standbyBy : Option Nat) :
    Manager Node :=
  { state with
    standbyNode := answers[1]?
    standbyBy := standbyBy
    answered := answers ++ state.answered }

/-- A call that gets the lock. -/
def enter (state : Manager Node) : Call → Manager Node
  | .start session kind =>
      { state with
        session := session
        kind := kind
        sessionV2ray := kind.isV2ray
        pc := .entered kind }
  | .rotate => state.goTo (.rotating (state.activeNode.map Prod.snd))

/-- The next step of the call that holds the lock, where only one thing can come next. -/
def proceed [DecidableEq Node] (state : Manager Node) : Option (Manager Node) :=
  match state.pc with
  | .entered kind => some { state with sessionMine := kind.isMine, pc := .unlatch none }
  | .unlatch none => some { state with stopRequestedDuringStart := false, pc := .slices }
  | .unlatch (some standby) =>
      some { state with
        stopRequestedDuringStart := false
        pc := .committed .switchToStandby standby }
  | .slices =>
      if state.stopRequestedDuringStart then some (state.goTo .idle)
      else
        some { state with
          process := some state.processes
          processes := state.processes + 1
          pc := .probing }
  | .kill .running resume => some { state with running := none, pc := .kill .activeNode resume }
  | .kill .activeNode resume => some { state with activeNode := none, pc := .kill .process resume }
  | .kill .process resume => some { state.destroy state.process with process := none, pc := resume }
  | .ready target =>
      if state.stopRequestedDuringStart then some (state.goTo .idle)
      else some (state.goTo (.committed .start target))
  | .committed launcher target =>
      some { state.record .launched with
        processes := state.processes + 1
        pc := .spawned launcher target state.processes }
  | .spawned launcher target process =>
      some { state with process := some process, pc := .awaiting launcher target process }
  | .awaiting launcher target process =>
      if state.isAlive process then some (state.goTo (.listening launcher target)) else none
  | .listening launcher target =>
      some { state.record .up with running := some state.session, pc := .marked launcher target }
  | .marked launcher target =>
      some { state with
        activeNode := some (state.session, target)
        pc := .brought launcher }
  | .refresh =>
      some { state with
        standbyRace := if state.standbyRace = .idle then .started else state.standbyRace
        pc := .idle }
  | .rotating previous =>
      match state.standbyNode with
      | none => some (state.goTo (.unlatch none))
      | some standby => some (state.goTo (.switching previous standby))
  | .switching previous standby =>
      if previous = some standby then some { state with standbyNode := none, pc := .unlatch none }
      else some { state with standbyNode := none, pc := .kill .running (.unlatch (some standby)) }
  | .idle | .probing => none

/-- An attempt to launch a tunnel fails: `start` calls `stop` on what it has launched, and
`switchToStandby` calls `killProcess` and leaves the rest to `start`. -/
def attemptFails (state : Manager Node) (again : Bool) : Option (Manager Node) :=
  let after (target : Node) : Pc Node := if again then .ready target else .idle
  match state.pc with
  | .committed .start target => some (state.goTo (after target))
  | .committed .switchToStandby _ => some (state.goTo (.unlatch none))
  | .awaiting .start target _ | .listening .start target =>
      some { state.capture state.session with
        stopRequestedDuringStart := true
        pc := after target }
  | .awaiting .switchToStandby _ _ | .listening .switchToStandby _ =>
      some (state.goTo (.kill .running (.unlatch none)))
  | _ => none

def setCleanup (state : Manager Node) (index : Nat) (cleanup : Cleanup) (stage : CleanupStage) :
    Manager Node :=
  { state with cleanups := state.cleanups.set index { cleanup with stage := stage } }

/-- What a clean-up with this aim clears, if it was set. -/
def recordCleared (state : Manager Node) (aim : Nat) : Option Nat → Manager Node
  | none => state
  | some session => state.record (.cleared aim session)

/-- One step of the thread that a `stop` has left. -/
def cleanUp (state : Manager Node) (index : Nat) : Option (Manager Node) :=
  match state.cleanups[index]? with
  | none => none
  | some cleanup =>
      match cleanup.stage with
      | .compare =>
          some (state.setCleanup index cleanup
            (if state.process = cleanup.process then .drop else .running))
      | .drop => some { state.setCleanup index cleanup .running with process := none }
      | .running =>
          some { (state.setCleanup index cleanup .activeNode).recordCleared cleanup.aim
            state.running with running := none }
      | .activeNode =>
          some { (state.setCleanup index cleanup .done).recordCleared cleanup.aim
            (state.activeNode.map Prod.fst) with activeNode := none }
      | .done => none

/-- The next step of the background thread outside its race. -/
def standbyProceeds [DecidableEq Node] (state : Manager Node) : Option (Manager Node) :=
  match state.standbyRace with
  | .started =>
      some { state with
        standbyRace :=
          match state.activeNode with
          | none => .idle
          | some (_, active) => .looked active }
  | .looked active =>
      some { state with
        standbyRace :=
          .pooled ⟨active, sourceKind state.sessionV2ray state.sessionMine, state.session⟩ }
  | .pooled race =>
      some { state with standbyRace := if state.isRunning then .racing race else .idle }
  | .found race winner =>
      some { state with
        standbyRace :=
          if state.isRunning && state.activeNode.map Prod.snd = some race.active then
            .keeping race winner
          else .idle }
  | .keeping race winner =>
      some { state with
        standbyNode := some winner
        standbyBy := some race.session
        standbyRace := .idle }
  | .idle | .racing _ => none

end Manager

variable [DecidableEq Node] (pool : Kind → Node → Bool)

/-- A race over candidates of this pool can end with these answers. -/
def canAnswer (kind : Kind) (answers : List Node) : Bool := answers.all (pool kind)

def next (state : Manager Node) : Label Node → Option (Manager Node)
  | .connect kind =>
      some { state.record .connect with
        connects := state.connects + 1
        waiting := state.waiting ++ [.start (state.connects + 1) kind] }
  | .rotate => some { state with waiting := state.waiting ++ [.rotate] }
  | .enter index =>
      if state.pc = .idle then
        state.waiting[index]?.map fun call =>
          { state with waiting := state.waiting.eraseIdx index }.enter call
      else none
  | .proceed => state.proceed
  | .raceEnds answers =>
      if state.pc = .probing && canAnswer pool state.kind answers then
        some ((state.storeRunnerUp answers none).goTo (.kill .running (.raced answers.head?)))
      else none
  | .raceAborts =>
      if state.pc = .probing then some (state.goTo (.kill .running .slices)) else none
  | .noMoreSlices => if state.pc = .slices then some (state.goTo .idle) else none
  | .attemptFails again => state.attemptFails again
  | .stopLatches =>
      some { state with stopRequestedDuringStart := true, stopping := state.stopping + 1 }
  | .stopCaptures =>
      if 0 < state.stopping then
        some { (state.capture state.connects).record .stop with stopping := state.stopping - 1 }
      else none
  | .cleanup index => state.cleanUp index
  | .standbyProceeds => state.standbyProceeds
  | .standbyRaceEnds answers =>
      match state.standbyRace with
      | .racing race =>
          if canAnswer pool race.kind answers && !answers.contains race.active then
            some { state.storeRunnerUp answers (some race.session) with
              standbyRace := .raced race answers.head? }
          else none
      | _ => none
  | .standbyRaceAborts =>
      match state.standbyRace with
      | .racing _ => some { state with standbyRace := .idle }
      | _ => none

end MolidoVpn.Shard
