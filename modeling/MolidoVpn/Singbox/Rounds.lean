import Mathlib.Data.List.Nodup
import Mathlib.Logic.Function.Basic

/-!
`SingboxCore`: rounds of measurements. Each round lets a throwaway process read a configuration
from a file, and the files of all rounds are in one directory, under names that return.
-/

namespace MolidoVpn.Singbox

inductive FileName where
  | check (slot : Nat)
  | ping (slot : Nat)
  | probe
  deriving DecidableEq

/-- Read by `sing-box check`, which accepts no connections. -/
def FileName.isCheck : FileName → Bool
  | check _ => true
  | _ => false

def checkSlots : Nat := 8

def pingSlots : Nat := 4

/-- What a process reads: the ports of the inbounds `in0`, `in1`, and so on; the outbounds, by
the numbers in their tags, `p0` and so on; the outbound that the rule of each inbound names, by its
number; and the port of the Clash API. -/
structure Config (Outbound : Type) where
  inbounds : List Nat
  outbounds : List (Nat × Outbound)
  rules : List Nat
  api : Option Nat
  deriving DecidableEq

inductive Path (Outbound : Type) where
  | direct
  | through (outbound : Outbound)
  /-- It does not come to a process of these rounds. -/
  | elsewhere
  deriving DecidableEq

namespace Config

variable {Outbound : Type} (config : Config Outbound)

def ports : List Nat := config.api.toList ++ config.inbounds

/-- Where a connection to the port of an inbound leaves. -/
def leaving (port : Nat) : Option (Path Outbound) :=
  (config.inbounds.idxOf? port).bind fun k =>
    match config.rules[k]? with
    | none => some .direct
    | some i => (config.outbounds.lookup i).map .through

end Config

inductive Kind where
  | ping
  | probe
  deriving DecidableEq

/-- How far a round has come: the await at which it stands, with what it has to go on with. -/
inductive Phase where
  /-- `_validSubset`: the configuration of the part is being written. -/
  | checkWriting (slot : Nat) (part : List Nat) (todo : List (List Nat)) (valid : List Nat)
  | checking (process : Nat) (part : List Nat) (todo : List (List Nat)) (valid : List Nat)
  | allotting (valid ports : List Nat)
  | writing (file : FileName) (valid ports : List Nat)
  | waitingApi (process : Nat) (valid ports : List Nat)
  /-- `runPool`: so many have been begun, and these are on their way. -/
  | testing (process : Nat) (valid ports : List Nat) (begun : Nat) (inFlight : List Nat)
  | done
  deriving DecidableEq

/-- A result, and how the request for it has gone, if it has been sent at all. -/
structure Reply (Outbound : Type) where
  delay : Int
  path : Option (Path Outbound)
  deriving DecidableEq

structure Round (Server Outbound : Type) where
  kind : Kind
  servers : List Server
  concurrency : Nat
  phase : Phase
  /-- How the requests have gone, by their numbers among the valid ones. -/
  carried : List (Nat × Path Outbound)
  results : List (Option (Reply Outbound))

/-- A throwaway process, of a round and with the configuration that the round has written for it.
What it has found in the file is there once it has read it. -/
structure Process (Outbound : Type) where
  round : Nat
  file : FileName
  written : Config Outbound
  found : Option (Option (Config Outbound))
  alive : Bool
  serving : Bool

namespace Process

variable {Outbound : Type} (process : Process Outbound)

def Unread : Prop := process.alive = true ∧ process.found = none

instance decidableUnread : Decidable process.Unread :=
  inferInstanceAs (Decidable (_ ∧ process.found = none))

def ended : Process Outbound := { process with alive := false, serving := false }

/-- The configuration by which the process accepts connections. -/
def serves : Option (Config Outbound) := if process.serving then process.found.join else none

end Process

structure World (Server Outbound : Type) where
  checkSeq : Nat
  pingSeq : Nat
  /-- Nothing where the file is not there, or is being written. -/
  files : FileName → Option (Config Outbound)
  rounds : List (Round Server Outbound)
  processes : List (Process Outbound)
  /-- The ports of other programs, and of the core of the connection. -/
  occupied : List Nat

namespace World

variable {Server Outbound : Type} (world : World Server Outbound)

def initial : World Server Outbound :=
  { checkSeq := 0
    pingSeq := 0
    files := fun _ => none
    rounds := []
    processes := []
    occupied := [] }

def served : List (Config Outbound) := world.processes.filterMap Process.serves

def servedPorts : List Nat := world.served.flatMap Config.ports

def setRound (r : Nat) (round : Round Server Outbound) : World Server Outbound :=
  { world with rounds := world.rounds.set r round }

def setPhase (r : Nat) (round : Round Server Outbound) (phase : Phase) : World Server Outbound :=
  world.setRound r { round with phase := phase }

/-- The process ends, by itself or because it is killed. -/
def ends (p : Nat) : World Server Outbound :=
  { world with processes := world.processes.modify p Process.ended }

/-- What is in the file becomes known; nothing while it is being written. -/
def store (file : FileName) (content : Option (Config Outbound)) : World Server Outbound :=
  { world with files := Function.update world.files file content }

end World

inductive Event (Server : Type) where
  /-- `pingAll` or `probeAll` is called. -/
  | started (kind : Kind) (servers : List Server) (concurrency : Nat)
  /-- The file that the round writes is not whole yet. -/
  | cut (round : Nat)
  /-- The file has been written, and the process is started. -/
  | written (round : Nat)
  | boots (process : Nat)
  | exits (process : Nat)
  | checked (round : Nat) (valid : Bool)
  | allotted (round port : Nat)
  | apiAnswered (round : Nat) (up : Bool)
  /-- A worker of the pool goes on. -/
  | begins (round : Nat)
  /-- The request comes to where it is answered. -/
  | connected (round k : Nat)
  | answered (round k : Nat) (delay : Int)
  | finished (round : Nat)
  /-- An error before the process is started. -/
  | failed (round : Nat)
  /-- Another program binds the port, or lets it go. -/
  | occupied (port : Nat)
  | vacated (port : Nat)
  deriving DecidableEq

section Steps

variable {Server Outbound : Type} (outbound : Server → Option Outbound)

def outboundAt (servers : List Server) (i : Nat) : Option Outbound :=
  servers[i]?.bind outbound

def usable (servers : List Server) : List Nat :=
  (List.range servers.length).filter fun i => (outboundAt outbound servers i).isSome

def tagged (servers : List Server) (indices : List Nat) : List (Nat × Outbound) :=
  indices.filterMap fun i => (outboundAt outbound servers i).map fun outbound => (i, outbound)

def checkConfig (servers : List Server) (part : List Nat) : Config Outbound :=
  { inbounds := []
    outbounds := tagged outbound servers part
    rules := []
    api := none }

def roundConfig (kind : Kind) (servers : List Server) (valid ports : List Nat) :
    Config Outbound :=
  { inbounds := if kind = .probe then ports.tail else []
    outbounds := tagged outbound servers valid
    rules := if kind = .probe then valid else []
    api := ports.head? }

/-- A port for the API, and for a probe one for each server. -/
def portsNeeded (kind : Kind) (valid : List Nat) : Nat :=
  match kind with
  | .ping => 1
  | .probe => 1 + valid.length

def nextPart : List (List Nat) → Option (List Nat × List (List Nat))
  | [] => none
  | [] :: rest => nextPart rest
  | part :: rest => some (part, rest)

/-- `_validSubset`, up to the next check or to its end, and the number of checks then. -/
def validates (checkSeq : Nat) (todo : List (List Nat)) (valid : List Nat) : Phase × Nat :=
  match nextPart todo with
  | some (part, rest) =>
      (.checkWriting (checkSeq % checkSlots) part rest valid, checkSeq + 1)
  | none => (if valid = [] then .done else .allotting valid [], checkSeq)

/-- What is left to check after a check, and what is valid: a part that is not is halved. -/
def bisect (ok : Bool) (part : List Nat) (todo : List (List Nat)) (valid : List Nat) :
    List (List Nat) × List Nat :=
  if ok then (todo, valid ++ part)
  else if part.length = 1 then (todo, valid)
  else (part.take (part.length / 2) :: part.drop (part.length / 2) :: todo, valid)

def Phase.file? : Phase → Option FileName
  | checkWriting slot _ _ _ => some (.check slot)
  | writing file _ _ => some file
  | _ => none

variable (world : World Server Outbound)

/-- The file is written, and the process that will read it is started. -/
def launch (r : Nat) (round : Round Server Outbound) (file : FileName) (config : Config Outbound)
    (phase : Phase) : World Server Outbound :=
  let process : Process Outbound :=
    { round := r
      file := file
      written := config
      found := none
      alive := true
      serving := false }
  { (world.store file (some config)).setPhase r round phase with
    processes := world.processes ++ [process] }

/-- A process that is to serve binds every port of its configuration, or it ends. -/
def boot (process : Process Outbound) : Process Outbound :=
  let content := world.files process.file
  let process := { process with found := some content }
  if process.file.isCheck then process
  else
    match content with
    | none => process.ended
    | some config =>
        if config.ports.Nodup ∧ ∀ port ∈ config.ports,
            port ∉ world.occupied ∧ port ∉ world.servedPorts then
          { process with serving := true }
        else process.ended

/-- How a request for the server of this number among the valid ones goes: a ping asks the API at
the port for a test of the outbound, a probe is sent through the inbound at the port. -/
def carries (kind : Kind) (valid ports : List Nat) (k : Nat) : Option (Path Outbound) :=
  match kind with
  | .ping =>
      ports[0]?.bind fun port =>
        if port ∈ world.occupied then some .elsewhere
        else
          (world.served.find? fun config => config.api = some port).bind fun config =>
            valid[k]?.bind fun i => (config.outbounds.lookup i).map .through
  | .probe =>
      ports[k + 1]?.bind fun port =>
        if port ∈ world.occupied then some .elsewhere
        else
          (world.served.find? fun config => port ∈ config.inbounds).bind fun config =>
            config.leaving port

/-- A port for the round; with the last one it begins to write its configuration. -/
def allot (r : Nat) (round : Round Server Outbound) (valid ports : List Nat) :
    World Server Outbound :=
  if ports.length < portsNeeded round.kind valid then
    world.setPhase r round (.allotting valid ports)
  else
    match round.kind with
    | .probe => world.setPhase r round (.writing .probe valid ports)
    | .ping =>
        { world.setPhase r round (.writing (.ping (world.pingSeq % pingSlots)) valid ports) with
          pingSeq := world.pingSeq + 1 }

def advance (r : Nat) (round : Round Server Outbound) :
    Event Server → Option (World Server Outbound)
  | .cut _ => round.phase.file?.map fun file => world.store file none
  | .written _ =>
      match round.phase with
      | .checkWriting slot part todo valid =>
          some (launch world r round (.check slot) (checkConfig outbound round.servers part)
            (.checking world.processes.length part todo valid))
      | .writing file valid ports =>
          some (launch world r round file
            (roundConfig outbound round.kind round.servers valid ports)
            (.waitingApi world.processes.length valid ports))
      | _ => none
  | .checked _ ok =>
      match round.phase with
      | .checking p part todo valid =>
          if ∃ process, world.processes[p]? = some process ∧ process.Unread then none
          else
            let (todo, valid) := bisect ok part todo valid
            let (phase, checkSeq) := validates world.checkSeq todo valid
            some { (world.ends p).setPhase r round phase with checkSeq := checkSeq }
      | _ => none
  | .allotted _ port =>
      match round.phase with
      | .allotting valid ports =>
          if port ∈ world.occupied ∨ port ∈ world.servedPorts then none
          else some (allot world r round valid (ports ++ [port]))
      | _ => none
  | .apiAnswered _ up =>
      match round.phase with
      | .waitingApi p valid ports =>
          if up then some (world.setPhase r round (.testing p valid ports 0 []))
          else some ((world.ends p).setPhase r round .done)
      | _ => none
  | .begins _ =>
      match round.phase with
      | .testing p valid ports begun inFlight =>
          if begun < valid.length ∧ inFlight.length < round.concurrency then
            some (world.setPhase r round
              (.testing p valid ports (begun + 1) (inFlight ++ [begun])))
          else none
      | _ => none
  | .connected _ k =>
      match round.phase with
      | .testing _ valid ports _ inFlight =>
          if k ∈ inFlight ∧ round.carried.lookup k = none then
            (carries world round.kind valid ports k).map fun path =>
              world.setRound r { round with carried := (k, path) :: round.carried }
          else none
      | _ => none
  | .answered _ k delay =>
      match round.phase with
      | .testing p valid ports begun inFlight =>
          let path := round.carried.lookup k
          if k ∈ inFlight ∧ (path = none → delay ≤ 0) then
            valid[k]?.map fun i =>
              world.setRound r { round with
                phase := .testing p valid ports begun (inFlight.erase k)
                results := round.results.set i (some { delay := delay, path := path }) }
          else none
      | _ => none
  | .finished _ =>
      match round.phase with
      | .testing p valid _ begun inFlight =>
          if begun = valid.length ∧ inFlight = [] then
            some ((world.ends p).setPhase r round .done)
          else none
      | _ => none
  | .failed _ =>
      match round.phase with
      | .waitingApi _ _ _ => none
      | .testing _ _ _ _ _ => none
      | _ => some (world.setPhase r round .done)
  | _ => none

def Event.round? : Event Server → Option Nat
  | .cut r => some r
  | .written r => some r
  | .checked r _ => some r
  | .allotted r _ => some r
  | .apiAnswered r _ => some r
  | .begins r => some r
  | .connected r _ => some r
  | .answered r _ _ => some r
  | .finished r => some r
  | .failed r => some r
  | _ => none

def next : Event Server → Option (World Server Outbound)
  | .started kind servers concurrency =>
      let (phase, checkSeq) := validates world.checkSeq [usable outbound servers] []
      let round : Round Server Outbound :=
        { kind := kind
          servers := servers
          concurrency := concurrency
          phase := phase
          carried := []
          results := List.replicate servers.length none }
      some { world with checkSeq := checkSeq, rounds := world.rounds ++ [round] }
  | .boots p =>
      world.processes[p]?.bind fun process =>
        if process.Unread then
          some { world with processes := world.processes.set p (boot world process) }
        else none
  | .exits p => some (world.ends p)
  | .occupied port =>
      if port ∈ world.servedPorts then none
      else some { world with occupied := port :: world.occupied }
  | .vacated port => some { world with occupied := world.occupied.erase port }
  | event =>
      event.round?.bind fun r =>
        world.rounds[r]?.bind fun round => advance outbound world r round event

end Steps

section Reading

variable {Outbound : Type} {config : Config Outbound} {port : Nat} {path : Path Outbound}

theorem Config.leaving_eq_some {k i : Nat} (left : config.leaving port = some path)
    (distinct : config.inbounds.Nodup) (here : config.inbounds[k]? = some port)
    (rule : config.rules[k]? = some i) :
    ∃ outbound, config.outbounds.lookup i = some outbound ∧ path = .through outbound := by
  obtain ⟨inside, same⟩ := List.getElem?_eq_some_iff.mp here
  have index : config.inbounds.idxOf? port = some k := by
    rw [← same, List.idxOf?_eq_some_iff]
    refine ⟨inside, rfl, fun j before same => ?_⟩
    have equal := (List.Nodup.getElem_inj_iff distinct).mp same
    omega
  rw [Config.leaving, index, Option.bind_some, rule] at left
  obtain ⟨outbound, found, same⟩ := Option.map_eq_some_iff.mp left
  exact ⟨outbound, found, same.symm⟩

end Reading

section Tags

variable {Server Outbound : Type} {outbound : Server → Option Outbound} {servers : List Server}

/-- Under a tag stands the outbound of the server of that number. -/
theorem outboundAt_of_lookup {indices : List Nat} {i : Nat} {found : Outbound}
    (known : (tagged outbound servers indices).lookup i = some found) :
    outboundAt outbound servers i = some found := by
  unfold tagged at known
  induction indices with
  | nil => cases known
  | cons j rest ih =>
      rw [List.filterMap_cons] at known
      cases there : outboundAt outbound servers j with
      | none =>
          rw [there] at known
          exact ih known
      | some other =>
          rw [there] at known
          change List.lookup i ((j, other) :: _) = some found at known
          rw [List.lookup_cons] at known
          by_cases same : i = j
          · rw [same, beq_self_eq_true] at known
            rw [same, there]
            exact known
          · rw [beq_false_of_ne same] at known
            exact ih known

end Tags

end MolidoVpn.Singbox
