import MolidoVpn.Lib.Numbered
import MolidoVpn.Lib.Transition
import MolidoVpn.Singbox.Rounds

/-!
What a throwaway process reads, and what a round measures through it. A name returns while the
process of an earlier round may still be to read the file, and a probe has one name only.
-/

namespace MolidoVpn.Singbox

open Numbered
open Transition (Run Restrict ofNext execute run_of_execute executeChecked run_of_executeChecked)

section Invariant

variable {Server Outbound : Type} {outbound : Server → Option Outbound}

/-- The process that a round has started, with the valid servers and the ports it is for. -/
def Phase.runs : Phase → Option (Nat × List Nat × List Nat)
  | waitingApi p valid ports => some (p, valid, ports)
  | testing p valid ports _ _ => some (p, valid, ports)
  | _ => none

/-- The ports that a round in progress has been given. -/
def Phase.ports : Phase → List Nat
  | allotting _ ports => ports
  | writing _ _ ports => ports
  | waitingApi _ _ ports => ports
  | testing _ _ ports _ _ => ports
  | _ => []

/-- A path through the outbound of the server of this number. -/
def Own (outbound : Server → Option Outbound) (servers : List Server) (i : Nat)
    (path : Path Outbound) : Prop :=
  ∃ found, outboundAt outbound servers i = some found ∧ path = .through found

/-- The requests of a round go through the outbounds of the servers that they are for, and its
results say so. -/
structure Measures (outbound : Server → Option Outbound) (round : Round Server Outbound) :
    Prop where
  fresh : round.phase.runs = none → round.carried = [] ∨ round.phase = .done
  carried : ∀ p valid ports, round.phase.runs = some (p, valid, ports) → ∀ (k path i),
    round.carried.lookup k = some path → valid[k]? = some i → Own outbound round.servers i path
  results : ∀ (i : Nat) (reply : Reply Outbound), round.results[i]? = some (some reply) →
    (reply.path = none ∧ reply.delay ≤ 0) ∨
      ∃ path, reply.path = some path ∧ Own outbound round.servers i path

/-- The process serves a round, or will. -/
def Process.Active (process : Process Outbound) : Prop :=
  process.serving = true ∨ process.Unread ∧ process.file.isCheck = false

/-- The round that has started the process for its valid servers and its ports. -/
def Engaged (outbound : Server → Option Outbound) (rounds : List (Round Server Outbound)) (p : Nat)
    (process : Process Outbound) : Prop :=
  ∃ round valid ports, rounds[process.round]? = some round ∧
    round.phase.runs = some (p, valid, ports) ∧
    process.written = roundConfig outbound round.kind round.servers valid ports

/-- The processes are as the rounds have meant them, and no two rounds have a port in common. -/
structure Kept (outbound : Server → Option Outbound) (world : World Server Outbound) : Prop where
  unread : ∀ process ∈ world.processes, process.Unread →
    world.files process.file = some process.written
  reads : ∀ process ∈ world.processes, ∀ content, process.found = some content →
    content = some process.written
  serving : ∀ process ∈ world.processes, process.serving = true →
    process.found.isSome = true ∧ process.written.ports.Nodup
  active : ∀ (p : Nat) (process : Process Outbound), world.processes[p]? = some process →
    process.Active → Engaged outbound world.rounds p process
  apart : ∀ (a b : Nat) (round other : Round Server Outbound), world.rounds[a]? = some round →
    world.rounds[b]? = some other → a ≠ b → ∀ port ∈ round.phase.ports, port ∉ other.phase.ports
  vacant : ∀ round ∈ world.rounds, ∀ port ∈ round.phase.ports, port ∉ world.occupied
  measures : ∀ round ∈ world.rounds, Measures outbound round

theorem kept_initial (outbound : Server → Option Outbound) : Kept outbound .initial :=
  { unread := fun _ member => absurd member List.not_mem_nil
    reads := fun _ member => absurd member List.not_mem_nil
    serving := fun _ member => absurd member List.not_mem_nil
    active := fun _ _ here => by cases here
    apart := fun _ _ _ _ here => by cases here
    vacant := fun _ member => absurd member List.not_mem_nil
    measures := fun _ member => absurd member List.not_mem_nil }

variable {world later : World Server Outbound} {round moved : Round Server Outbound} {r p : Nat}

/-- No other program and no other round has the port. -/
def Spare (world : World Server Outbound) (r port : Nat) : Prop :=
  port ∉ world.occupied ∧ ∀ (a : Nat) (other : Round Server Outbound), a ≠ r →
    world.rounds[a]? = some other → port ∉ other.phase.ports

/-- The round still has the process that serves it. -/
structure Continues (round moved : Round Server Outbound) : Prop where
  runs : moved.phase.runs = round.phase.runs
  kind : moved.kind = round.kind
  servers : moved.servers = round.servers

theorem Kept.progress (kept : Kept outbound world) (here : world.rounds[r]? = some round)
    (serves : ∀ (p : Nat) (process : Process Outbound), world.processes[p]? = some process →
      process.Active → process.round = r → Continues round moved)
    (ports : ∀ port ∈ moved.phase.ports, port ∈ round.phase.ports ∨ Spare world r port)
    (measures : Measures outbound moved) : Kept outbound (world.setRound r moved) := by
  constructor
  · exact kept.unread
  · exact kept.reads
  · exact kept.serving
  · intro p process there active
    obtain ⟨old, valid, allotted, found, runs, written⟩ := kept.active p process there active
    by_cases own : process.round = r
    · obtain rfl : round = old := Option.some.inj (here.symm.trans (own ▸ found))
      have continues := serves p process there active own
      refine ⟨moved, valid, allotted, ?_, continues.runs.trans runs, ?_⟩
      · rw [own]
        exact List.getElem?_set_self (List.getElem?_eq_some_iff.mp here).1
      · rw [continues.kind, continues.servers]
        exact written
    · refine ⟨old, valid, allotted, ?_, runs, written⟩
      exact (List.getElem?_set_ne fun same => own same.symm).trans found
  · intro a b one other first second different port member
    rcases getElem?_set_cases first with ⟨rfl, rfl⟩ | ⟨apart, one_⟩
    · rcases getElem?_set_cases second with ⟨rfl, rfl⟩ | ⟨_, other_⟩
      · exact absurd rfl different
      · rcases ports port member with old | ⟨_, fresh⟩
        · exact kept.apart _ b round other here other_ different port old
        · exact fresh b other (fun same => different same.symm) other_
    · rcases getElem?_set_cases second with ⟨rfl, rfl⟩ | ⟨_, other_⟩
      · intro inside
        rcases ports port inside with old | ⟨_, fresh⟩
        · exact kept.apart a _ one round one_ here different port member old
        · exact fresh a one apart one_ member
      · exact kept.apart a b one other one_ other_ different port member
  · intro one member port inside
    rcases List.mem_or_eq_of_mem_set member with old | rfl
    · exact kept.vacant one old port inside
    · rcases ports port inside with old | ⟨fresh, _⟩
      · exact kept.vacant round (List.mem_of_getElem? here) port old
      · exact fresh
  · intro one member
    rcases List.mem_or_eq_of_mem_set member with old | rfl
    · exact kept.measures one old
    · exact measures

theorem Kept.counted (kept : Kept outbound world) (checkSeq pingSeq : Nat) :
    Kept outbound { world with checkSeq := checkSeq, pingSeq := pingSeq } :=
  ⟨kept.unread, kept.reads, kept.serving, kept.active, kept.apart, kept.vacant, kept.measures⟩

/-- A process that is there after one has ended was there before, and has not changed unless it is
that one. -/
theorem ends_cases {n : Nat} {process : Process Outbound}
    (there : (world.ends p).processes[n]? = some process) : ∃ old,
      world.processes[n]? = some old ∧ (process = old ∧ n ≠ p ∨ process = old.ended ∧ n = p) := by
  obtain ⟨old, found, ⟨at_, same⟩ | ⟨apart, same⟩⟩ := getElem?_modify_cases there
  · exact ⟨old, found, .inr ⟨same, at_⟩⟩
  · exact ⟨old, found, .inl ⟨same, apart⟩⟩

theorem Process.not_active_ended (process : Process Outbound) : ¬process.ended.Active := by
  rintro (serving | ⟨unread, _⟩)
  · exact Bool.false_ne_true serving
  · exact Bool.false_ne_true unread.1

theorem Kept.ends (kept : Kept outbound world) (p : Nat) : Kept outbound (world.ends p) := by
  constructor
  · intro process member unread
    obtain ⟨n, there⟩ := List.mem_iff_getElem?.mp member
    obtain ⟨old, found, ⟨rfl, _⟩ | ⟨rfl, _⟩⟩ := ends_cases there
    · exact kept.unread process (List.mem_of_getElem? found) unread
    · exact absurd unread.1 Bool.false_ne_true
  · intro process member content read
    obtain ⟨n, there⟩ := List.mem_iff_getElem?.mp member
    obtain ⟨old, found, ⟨rfl, _⟩ | ⟨rfl, _⟩⟩ := ends_cases there
    · exact kept.reads process (List.mem_of_getElem? found) content read
    · exact kept.reads old (List.mem_of_getElem? found) content read
  · intro process member serving
    obtain ⟨n, there⟩ := List.mem_iff_getElem?.mp member
    obtain ⟨old, found, ⟨rfl, _⟩ | ⟨rfl, _⟩⟩ := ends_cases there
    · exact kept.serving process (List.mem_of_getElem? found) serving
    · exact absurd serving Bool.false_ne_true
  · intro n process there active
    obtain ⟨old, found, ⟨rfl, _⟩ | ⟨rfl, _⟩⟩ := ends_cases there
    · exact kept.active n process found active
    · exact absurd active old.not_active_ended
  · exact kept.apart
  · exact kept.vacant
  · exact kept.measures

/-- The process that is active for a round is the one that the round has started. -/
theorem Kept.active_eq (kept : Kept outbound world) (here : world.rounds[r]? = some round)
    {n : Nat} {valid ports : List Nat} {process : Process Outbound}
    (runs : round.phase.runs = some (p, valid, ports)) (there : world.processes[n]? = some process)
    (active : process.Active) (own : process.round = r) : n = p := by
  obtain ⟨old, _, _, found, oldRuns, _⟩ := kept.active n process there active
  rw [own, here] at found
  cases found
  rw [runs] at oldRuns
  exact (congrArg Prod.fst (Option.some.inj oldRuns)).symm

theorem Kept.idle (kept : Kept outbound world) (here : world.rounds[r]? = some round)
    (runs : round.phase.runs = none) {n : Nat} {process : Process Outbound}
    (there : world.processes[n]? = some process) (active : process.Active) :
    process.round ≠ r := by
  intro own
  obtain ⟨old, _, _, found, oldRuns, _⟩ := kept.active n process there active
  rw [own, here] at found
  cases found
  rw [runs] at oldRuns
  cases oldRuns

theorem Kept.measured (kept : Kept outbound world) (here : world.rounds[r]? = some round) :
    Measures outbound round :=
  kept.measures round (List.mem_of_getElem? here)

/-- A round that has no process and gets none. -/
theorem Measures.move (measures : Measures outbound round) {phase : Phase}
    (still : round.phase.runs = none) (runs : phase.runs = none)
    (going : round.phase = .done → phase = .done) :
    Measures outbound { round with phase := phase } := by
  constructor
  · intro _
    rcases measures.fresh still with none_ | done
    · exact .inl none_
    · exact .inr (going done)
  · intro p valid ports some_
    rw [runs] at some_
    cases some_
  · exact measures.results

theorem Measures.finish (measures : Measures outbound round) :
    Measures outbound { round with phase := .done } :=
  { fresh := fun _ => .inr rfl
    carried := fun _ _ _ some_ => by cases some_
    results := measures.results }

end Invariant

section Steps

variable {Server Outbound : Type} {outbound : Server → Option Outbound}
  {world later : World Server Outbound} {round moved : Round Server Outbound} {r p : Nat}
  {file : FileName} {process new : Process Outbound}

/-- Nobody is still to read the file. -/
def Unawaited (world : World Server Outbound) (file : FileName) : Prop :=
  ∀ process ∈ world.processes, process.file = file → ¬process.Unread

theorem Kept.store (kept : Kept outbound world) (nobody : Unawaited world file)
    (content : Option (Config Outbound)) : Kept outbound (world.store file content) := by
  refine ⟨fun process member unread => ?_, kept.reads, kept.serving, kept.active, kept.apart,
    kept.vacant, kept.measures⟩
  have other : process.file ≠ file := fun same => nobody process member same unread
  change Function.update world.files file content process.file = some process.written
  rw [Function.update_of_ne other]
  exact kept.unread process member unread

theorem Kept.spawn (kept : Kept outbound world) (found : process.found = none)
    (serving : process.serving = false) (content : world.files process.file = some process.written)
    (engaged : process.Active → Engaged outbound world.rounds world.processes.length process) :
    Kept outbound { world with processes := world.processes ++ [process] } := by
  constructor
  · intro other member unread
    rcases List.mem_append.mp member with old | last
    · exact kept.unread other old unread
    · obtain rfl := List.mem_singleton.mp last
      exact content
  · intro other member read known
    rcases List.mem_append.mp member with old | last
    · exact kept.reads other old read known
    · obtain rfl := List.mem_singleton.mp last
      rw [found] at known
      cases known
  · intro other member serves
    rcases List.mem_append.mp member with old | last
    · exact kept.serving other old serves
    · obtain rfl := List.mem_singleton.mp last
      rw [serving] at serves
      cases serves
  · intro n other there active
    rcases getElem?_append_singleton_cases there with old | ⟨rfl, rfl⟩
    · exact kept.active n other old active
    · exact engaged active
  · exact kept.apart
  · exact kept.vacant
  · exact kept.measures

theorem Kept.launched (kept : Kept outbound world) (here : world.rounds[r]? = some round)
    (nobody : Unawaited world file) (still : round.phase.runs = none) {config : Config Outbound}
    {phase : Phase} (ports : phase.ports = round.phase.ports)
    (measures : Measures outbound { round with phase := phase })
    (engaged : file.isCheck = false → ∃ valid allotted,
      phase.runs = some (world.processes.length, valid, allotted) ∧
        config = roundConfig outbound round.kind round.servers valid allotted) :
    Kept outbound (launch world r round file config phase) := by
  have stored := kept.store nobody (some config)
  have moved : Kept outbound ((world.store file (some config)).setPhase r round phase) := by
    apply stored.progress here _ _ measures
    · intro n process there active own
      exact absurd own (stored.idle here still there active)
    · intro port member
      exact .inl (ports ▸ member)
  apply moved.spawn rfl rfl
  · exact Function.update_self file (some config) world.files
  · rintro (serving | ⟨_, run⟩)
    · exact absurd serving Bool.false_ne_true
    · obtain ⟨valid, allotted, runs, same⟩ := engaged run
      refine ⟨{ round with phase := phase }, valid, allotted, ?_, runs, same⟩
      exact List.getElem?_set_self (List.getElem?_eq_some_iff.mp here).1

/-- A process has read what has been written for it. -/
theorem Kept.replace (kept : Kept outbound world) (there : world.processes[p]? = some process)
    (written : new.written = process.written) (round : new.round = process.round)
    (found : new.found = some (some process.written))
    (serves : new.serving = true → process.Active ∧ process.written.ports.Nodup) :
    Kept outbound { world with processes := world.processes.set p new } := by
  constructor
  · intro other member unread
    rcases List.mem_or_eq_of_mem_set member with old | rfl
    · exact kept.unread other old unread
    · rw [Process.Unread, found] at unread
      cases unread.2
  · intro other member read known
    rcases List.mem_or_eq_of_mem_set member with old | rfl
    · exact kept.reads other old read known
    · rw [found] at known
      rw [written]
      exact (Option.some.inj known).symm
  · intro other member serving
    rcases List.mem_or_eq_of_mem_set member with old | rfl
    · exact kept.serving other old serving
    · rw [found, written]
      exact ⟨rfl, (serves serving).2⟩
  · intro n other here active
    rcases getElem?_set_cases here with ⟨rfl, rfl⟩ | ⟨_, here⟩
    · have before : process.Active := by
        rcases active with serving | ⟨unread, _⟩
        · exact (serves serving).1
        · rw [Process.Unread, found] at unread
          cases unread.2
      obtain ⟨one, valid, ports, same, runs, config⟩ := kept.active _ process there before
      exact ⟨one, valid, ports, round ▸ same, runs, written.trans config⟩
    · exact kept.active n other here active
  · exact kept.apart
  · exact kept.vacant
  · exact kept.measures

theorem Kept.booted (kept : Kept outbound world) (there : world.processes[p]? = some process)
    (unread : process.Unread) :
    Kept outbound { world with processes := world.processes.set p (boot world process) } := by
  have member := List.mem_of_getElem? there
  have content := kept.unread process member unread
  have idle : process.serving = false := by
    cases serving : process.serving with
    | false => rfl
    | true =>
        have read := (kept.serving process member serving).1
        rw [unread.2] at read
        cases read
  unfold boot
  rw [content]
  dsimp only
  split
  · refine kept.replace there rfl rfl rfl fun serving => ?_
    rw [idle] at serving
    cases serving
  · rename_i run
    split
    · rename_i free
      exact kept.replace there rfl rfl rfl fun _ =>
        ⟨.inr ⟨unread, Bool.not_eq_true _ ▸ run⟩, free.1⟩
    · exact kept.replace there rfl rfl rfl fun serving => absurd serving Bool.false_ne_true

theorem mem_ports_roundConfig {kind : Kind} {servers : List Server} {valid ports : List Nat}
    {port : Nat} (bound : port ∈ (roundConfig outbound kind servers valid ports).ports) :
    port ∈ ports := by
  rcases List.mem_append.mp bound with api | inbound
  · exact List.mem_of_mem_head? (Option.mem_toList.mp api)
  · cases kind with
    | ping => cases inbound
    | probe => exact List.mem_of_mem_tail inbound

theorem Phase.ports_of_runs {phase : Phase} {valid ports : List Nat}
    (runs : phase.runs = some (p, valid, ports)) : phase.ports = ports := by
  cases phase with
  | waitingApi _ _ _ | testing _ _ _ _ _ =>
      cases runs
      rfl
  | _ => cases runs

/-- Who answers at a port of the round has the configuration of the round. -/
theorem Kept.served_own (kept : Kept outbound world) (here : world.rounds[r]? = some round)
    {valid ports : List Nat} (runs : round.phase.runs = some (p, valid, ports))
    {config : Config Outbound} {port : Nat} (served : config ∈ world.served)
    (bound : port ∈ config.ports) (given : port ∈ ports) :
    config = roundConfig outbound round.kind round.servers valid ports ∧ config.ports.Nodup := by
  obtain ⟨process, member, serves⟩ := List.mem_filterMap.mp served
  unfold Process.serves at serves
  split at serves
  · rename_i serving
    have found := Option.join_eq_some_iff.mp serves
    obtain rfl : config = process.written := Option.some.inj (kept.reads process member _ found)
    refine ⟨?_, (kept.serving process member serving).2⟩
    obtain ⟨n, there⟩ := List.mem_iff_getElem?.mp member
    obtain ⟨other, others, allotted, started, otherRuns, written⟩ :=
      kept.active n process there (.inl serving)
    have theirs : port ∈ other.phase.ports := by
      rw [Phase.ports_of_runs otherRuns]
      exact mem_ports_roundConfig (written ▸ bound)
    have same : process.round = r := by
      by_contra different
      refine kept.apart process.round r other round started here different port theirs ?_
      rw [Phase.ports_of_runs runs]
      exact given
    rw [same, here] at started
    cases started
    rw [runs] at otherRuns
    cases otherRuns
    exact written
  · cases serves

/-- A request for a server goes through the outbound of that server. -/
theorem Kept.carries_own (kept : Kept outbound world) (here : world.rounds[r]? = some round)
    {valid ports : List Nat} {k i : Nat} {path : Path Outbound}
    (runs : round.phase.runs = some (p, valid, ports)) (server : valid[k]? = some i)
    (carried : carries world round.kind valid ports k = some path) :
    Own outbound round.servers i path := by
  have vacant : ∀ port ∈ ports, port ∉ world.occupied := by
    intro port given
    apply kept.vacant round (List.mem_of_getElem? here)
    rw [Phase.ports_of_runs runs]
    exact given
  unfold carries at carried
  cases kind : round.kind with
  | ping =>
      rw [kind] at carried
      obtain ⟨port, first, carried⟩ := Option.bind_eq_some_iff.mp carried
      have given := List.mem_of_getElem? first
      rw [if_neg (vacant port given)] at carried
      obtain ⟨config, found, carried⟩ := Option.bind_eq_some_iff.mp carried
      have api := List.find?_some found
      rw [decide_eq_true_iff] at api
      have bound : port ∈ config.ports :=
        List.mem_append_left _ (Option.mem_toList.mpr (Option.mem_def.mpr api))
      obtain ⟨rfl, _⟩ := kept.served_own here runs (List.mem_of_find?_eq_some found) bound given
      rw [server, Option.bind_some, Option.map_eq_some_iff] at carried
      obtain ⟨known, listed, same⟩ := carried
      exact ⟨known, outboundAt_of_lookup listed, same.symm⟩
  | probe =>
      rw [kind] at carried
      obtain ⟨port, there, carried⟩ := Option.bind_eq_some_iff.mp carried
      have given := List.mem_of_getElem? there
      rw [if_neg (vacant port given)] at carried
      obtain ⟨config, found, left⟩ := Option.bind_eq_some_iff.mp carried
      have inbound := List.find?_some found
      rw [decide_eq_true_iff] at inbound
      have bound : port ∈ config.ports := List.mem_append_right _ inbound
      obtain ⟨rfl, distinct⟩ :=
        kept.served_own here runs (List.mem_of_find?_eq_some found) bound given
      have inbounds := (List.nodup_append.mp distinct).2.1
      rw [kind] at left inbounds
      obtain ⟨known, listed, same⟩ := Config.leaving_eq_some left inbounds
        ((List.getElem?_tail).trans there) server
      exact ⟨known, outboundAt_of_lookup listed, same⟩

end Steps

section Runs

variable {Server Outbound : Type} {outbound : Server → Option Outbound}
  {world later : World Server Outbound} {round : Round Server Outbound} {r p : Nat}
  {event : Event Server} {valid ports : List Nat}

/-- A file is touched only when no process is still to read it, and a port is given to a round, or
to another program, only when no other round in progress has it. -/
def Careful (world : World Server Outbound) : Event Server → Prop
  | .cut r => ∀ round file, world.rounds[r]? = some round → round.phase.file? = some file →
      Unawaited world file
  | .written r => ∀ round file, world.rounds[r]? = some round → round.phase.file? = some file →
      Unawaited world file
  | .allotted r port => ∀ (other : Nat) (round : Round Server Outbound), other ≠ r →
      world.rounds[other]? = some round → port ∉ round.phase.ports
  | .occupied port => ∀ round ∈ world.rounds, port ∉ round.phase.ports
  | _ => True

theorem runs_validates (checkSeq : Nat) (todo : List (List Nat)) (valid : List Nat) :
    (validates checkSeq todo valid).1.runs = none ∧
      (validates checkSeq todo valid).1.ports = [] := by
  unfold validates
  cases nextPart todo with
  | some parts => exact ⟨rfl, rfl⟩
  | none =>
      dsimp only
      split
      · exact ⟨rfl, rfl⟩
      · exact ⟨rfl, rfl⟩

/-- A round whose process goes on, or is about to be started. -/
theorem Measures.goOn (measures : Measures outbound round) {phase : Phase} {p q : Nat}
    (before : round.phase.runs = some (p, valid, ports))
    (runs : phase.runs = some (q, valid, ports)) :
    Measures outbound { round with phase := phase } := by
  constructor
  · intro none_
    rw [runs] at none_
    cases none_
  · intro p' valid' ports' same
    rw [runs] at same
    cases same
    exact measures.carried p valid ports before
  · exact measures.results

theorem Measures.launched (measures : Measures outbound round) {phase : Phase}
    (still : round.phase.runs = none) (going : round.phase ≠ .done) {process : Nat}
    (runs : phase.runs = some (process, valid, ports)) :
    Measures outbound { round with phase := phase } := by
  constructor
  · intro none_
    rw [runs] at none_
    cases none_
  · intro _ _ _ _ k path i carried
    rcases measures.fresh still with none_ | done
    · rw [none_] at carried
      cases carried
    · exact absurd done going
  · exact measures.results

/-- The process of a round is killed when the round ends. -/
theorem Kept.stopped (kept : Kept outbound world) (here : world.rounds[r]? = some round)
    (runs : round.phase.runs = some (p, valid, ports)) :
    Kept outbound ((world.ends p).setPhase r round .done) := by
  apply (kept.ends p).progress here _ _ (kept.measured here).finish
  · intro n process there active own
    have same := (kept.ends p).active_eq here runs there active own
    obtain ⟨old, _, ⟨_, other⟩ | ⟨rfl, _⟩⟩ := ends_cases there
    · exact absurd same other
    · exact absurd active old.not_active_ended
  · intro port member
    cases member

theorem Kept.moved (kept : Kept outbound world) (here : world.rounds[r]? = some round)
    (phase : Phase) (still : round.phase.runs = none) (runs : phase.runs = none)
    (going : round.phase = .done → phase = .done)
    (ports : ∀ port ∈ phase.ports, port ∈ round.phase.ports ∨ Spare world r port) :
    Kept outbound (world.setPhase r round phase) := by
  apply kept.progress here _ ports
  · exact (kept.measured here).move still runs going
  · intro n process there active own
    exact absurd own (kept.idle here still there active)

theorem Kept.allot (kept : Kept outbound world) (here : world.rounds[r]? = some round)
    {port : Nat} (phase : round.phase = .allotting valid ports) (spare : Spare world r port) :
    Kept outbound (allot world r round valid (ports ++ [port])) := by
  have still : round.phase.runs = none := by
    rw [phase]
    rfl
  have going {next : Phase} : round.phase = .done → next = .done := by
    rw [phase]
    intro done
    cases done
  have given : ∀ other ∈ ports ++ [port], other ∈ round.phase.ports ∨ Spare world r other := by
    intro other member
    rw [phase]
    rcases List.mem_append.mp member with old | last
    · exact .inl old
    · rw [List.mem_singleton.mp last]
      exact .inr spare
  unfold Singbox.allot
  split
  · exact kept.moved here (.allotting valid (ports ++ [port])) still rfl going given
  · cases round.kind with
    | probe => exact kept.moved here (.writing .probe valid (ports ++ [port])) still rfl going given
    | ping =>
        let file := FileName.ping (world.pingSeq % pingSlots)
        have moved := kept.moved here (.writing file valid (ports ++ [port])) still rfl going given
        exact moved.counted world.checkSeq (world.pingSeq + 1)

end Runs

section Law

variable {Server Outbound : Type} {outbound : Server → Option Outbound}
  {world later : World Server Outbound} {round : Round Server Outbound} {r p : Nat}
  {event : Event Server}

theorem Kept.launches (kept : Kept outbound world) (here : world.rounds[r]? = some round)
    (nobody : ∀ file, round.phase.file? = some file → Unawaited world file)
    (taken : advance outbound world r round (.written r) = some later) : Kept outbound later := by
  unfold advance at taken
  cases phase : round.phase with
  | checkWriting slot part todo valid =>
      rw [phase] at taken nobody
      cases taken
      have still : round.phase.runs = none := by rw [phase]; rfl
      apply kept.launched here (nobody (.check slot) rfl) still
      · rw [phase]
        rfl
      · apply (kept.measured here).move still rfl
        rw [phase]
        intro done
        cases done
      · intro run
        cases run
  | writing file valid ports =>
      rw [phase] at taken nobody
      cases taken
      have still : round.phase.runs = none := by rw [phase]; rfl
      apply kept.launched here (nobody file rfl) still
      · rw [phase]
        rfl
      · have going : round.phase ≠ .done := by
          rw [phase]
          exact Phase.noConfusion
        exact (kept.measured here).launched still going rfl
      · intro _
        exact ⟨valid, ports, rfl, rfl⟩
  | _ =>
      rw [phase] at taken
      cases taken

theorem Kept.checks (kept : Kept outbound world) (here : world.rounds[r]? = some round)
    {ok : Bool} (taken : advance outbound world r round (.checked r ok) = some later) :
    Kept outbound later := by
  unfold advance at taken
  cases phase : round.phase with
  | checking p part todo valid =>
      rw [phase] at taken
      dsimp only at taken
      split at taken
      · cases taken
      · cases taken
        obtain ⟨runs, ports⟩ := runs_validates world.checkSeq (bisect ok part todo valid).1
          (bisect ok part todo valid).2
        have moved := (kept.ends p).moved here _ (by rw [phase]; rfl) runs
          (fun done => by rw [phase] at done; cases done)
          (fun port member => by rw [ports] at member; cases member)
        exact moved.counted _ world.pingSeq
  | _ =>
      rw [phase] at taken
      cases taken

/-- A step of a round whose process has been started. -/
theorem Kept.serves (kept : Kept outbound world) (here : world.rounds[r]? = some round)
    {phase : Phase} {valid ports : List Nat} (before : round.phase.runs = some (p, valid, ports))
    (runs : phase.runs = some (p, valid, ports)) :
    Kept outbound (world.setPhase r round phase) := by
  apply kept.progress here _ _ ((kept.measured here).goOn before runs)
  · intro _ _ _ _ _
    exact ⟨runs.trans before.symm, rfl, rfl⟩
  · intro port member
    left
    rw [Phase.ports_of_runs before]
    rw [Phase.ports_of_runs runs] at member
    exact member

theorem Kept.connects (kept : Kept outbound world) (here : world.rounds[r]? = some round)
    {k : Nat} (taken : advance outbound world r round (.connected r k) = some later) :
    Kept outbound later := by
  unfold advance at taken
  cases phase : round.phase with
  | testing p valid ports begun inFlight =>
      rw [phase] at taken
      dsimp only at taken
      split at taken
      · obtain ⟨path, carried, rfl⟩ := Option.map_eq_some_iff.mp taken
        have runs : round.phase.runs = some (p, valid, ports) := by rw [phase]; rfl
        apply kept.progress here
        · intro _ _ _ _ _
          exact ⟨runs.symm, rfl, rfl⟩
        · intro port member
          left
          rw [phase]
          exact member
        · have measures := kept.measured here
          constructor
          · intro none_
            cases none_
          · intro p' valid' ports' same k' path' i known server
            cases same
            change List.lookup k' ((k, path) :: round.carried) = some path' at known
            rw [List.lookup_cons] at known
            by_cases own : k' = k
            · subst own
              rw [beq_self_eq_true] at known
              cases known
              exact kept.carries_own here runs server carried
            · rw [beq_false_of_ne own] at known
              exact measures.carried p valid ports runs k' path' i known server
          · exact measures.results
      · cases taken
  | _ =>
      rw [phase] at taken
      cases taken

theorem Kept.answers (kept : Kept outbound world) (here : world.rounds[r]? = some round)
    {k : Nat} {delay : Int}
    (taken : advance outbound world r round (.answered r k delay) = some later) :
    Kept outbound later := by
  unfold advance at taken
  cases phase : round.phase with
  | testing p valid ports begun inFlight =>
      rw [phase] at taken
      dsimp only at taken
      split at taken
      · rename_i accepted
        obtain ⟨i, server, rfl⟩ := Option.map_eq_some_iff.mp taken
        have runs : round.phase.runs = some (p, valid, ports) := by rw [phase]; rfl
        apply kept.progress here
        · intro _ _ _ _ _
          exact ⟨runs.symm, rfl, rfl⟩
        · intro port member
          left
          rw [phase]
          exact member
        · have measures := kept.measured here
          constructor
          · intro none_
            cases none_
          · intro p' valid' ports' same
            cases same
            exact measures.carried p valid ports runs
          · intro j reply stored
            rcases getElem?_set_cases stored with ⟨rfl, same⟩ | ⟨_, old⟩
            · cases same
              cases known : round.carried.lookup k with
              | none => exact .inl ⟨rfl, accepted.2 known⟩
              | some path =>
                  exact .inr ⟨path, rfl, measures.carried p valid ports runs k path j known server⟩
            · exact measures.results j reply old
      · cases taken
  | _ =>
      rw [phase] at taken
      cases taken

theorem Kept.fails (kept : Kept outbound world) (here : world.rounds[r]? = some round)
    (taken : advance outbound world r round (.failed r) = some later) : Kept outbound later := by
  unfold advance at taken
  have idle (still : round.phase.runs = none) : Kept outbound (world.setPhase r round .done) :=
    kept.moved here .done still rfl (fun _ => rfl) fun _ member => by cases member
  cases phase : round.phase with
  | waitingApi _ _ _ | testing _ _ _ _ _ =>
      rw [phase] at taken
      cases taken
  | _ =>
      rw [phase] at taken
      cases taken
      apply idle
      rw [phase]
      rfl

theorem Kept.advance (kept : Kept outbound world) (here : world.rounds[r]? = some round)
    (about : event.round? = some r) (careful : Careful world event)
    (taken : Singbox.advance outbound world r round event = some later) : Kept outbound later := by
  cases event with
  | started _ _ _ | boots _ | exits _ | occupied _ | vacated _ => cases about
  | cut r' =>
      cases about
      obtain ⟨file, writes, rfl⟩ := Option.map_eq_some_iff.mp taken
      exact kept.store (careful round file here writes) none
  | written r' =>
      cases about
      exact kept.launches here (fun file writes => careful round file here writes) taken
  | checked r' ok =>
      cases about
      exact kept.checks here taken
  | allotted r' port =>
      cases about
      unfold Singbox.advance at taken
      cases phase : round.phase with
      | allotting valid ports =>
          rw [phase] at taken
          dsimp only at taken
          split at taken
          · cases taken
          · rename_i bound
            cases taken
            exact kept.allot here phase ⟨fun occupied => bound (.inl occupied), careful⟩
      | _ =>
          rw [phase] at taken
          cases taken
  | apiAnswered r' up =>
      cases about
      unfold Singbox.advance at taken
      cases phase : round.phase with
      | waitingApi p valid ports =>
          rw [phase] at taken
          have runs : round.phase.runs = some (p, valid, ports) := by rw [phase]; rfl
          cases up with
          | true =>
              cases taken
              exact kept.serves here runs rfl
          | false =>
              cases taken
              exact kept.stopped here runs
      | _ =>
          rw [phase] at taken
          cases taken
  | begins r' =>
      cases about
      unfold Singbox.advance at taken
      cases phase : round.phase with
      | testing p valid ports begun inFlight =>
          rw [phase] at taken
          have runs : round.phase.runs = some (p, valid, ports) := by rw [phase]; rfl
          dsimp only at taken
          split at taken
          · cases taken
            exact kept.serves here runs rfl
          · cases taken
      | _ =>
          rw [phase] at taken
          cases taken
  | connected r' k =>
      cases about
      exact kept.connects here taken
  | answered r' k delay =>
      cases about
      exact kept.answers here taken
  | finished r' =>
      cases about
      unfold Singbox.advance at taken
      cases phase : round.phase with
      | testing p valid ports begun inFlight =>
          rw [phase] at taken
          have runs : round.phase.runs = some (p, valid, ports) := by rw [phase]; rfl
          dsimp only at taken
          split at taken
          · cases taken
            exact kept.stopped here runs
          · cases taken
      | _ =>
          rw [phase] at taken
          cases taken
  | failed r' =>
      cases about
      exact kept.fails here taken

end Law

section Runs

variable {Server Outbound : Type} {outbound : Server → Option Outbound}
  {world later : World Server Outbound} {event : Event Server}

theorem measures_started {kind : Kind} {servers : List Server} {concurrency : Nat} {phase : Phase}
    (runs : phase.runs = none) : Measures outbound
      { kind := kind
        servers := servers
        concurrency := concurrency
        phase := phase
        carried := []
        results := List.replicate servers.length none } := by
  constructor
  · intro _
    exact .inl rfl
  · intro _ _ _ some_
    rw [runs] at some_
    cases some_
  · intro i reply stored
    have none_ := List.eq_of_mem_replicate (List.mem_of_getElem? stored)
    cases none_

theorem Kept.started (kept : Kept outbound world) {round : Round Server Outbound} (checkSeq : Nat)
    (ports : round.phase.ports = []) (measures : Measures outbound round) :
    Kept outbound { world with checkSeq := checkSeq, rounds := world.rounds ++ [round] } := by
  have old {n : Nat} {one : Round Server Outbound} {port : Nat}
      (there : (world.rounds ++ [round])[n]? = some one) (given : port ∈ one.phase.ports) :
      world.rounds[n]? = some one := by
    rcases getElem?_append_singleton_cases there with before | ⟨_, rfl⟩
    · exact before
    · rw [ports] at given
      cases given
  constructor
  · exact kept.unread
  · exact kept.reads
  · exact kept.serving
  · intro p process there active
    obtain ⟨one, valid, allotted, found, runs, written⟩ := kept.active p process there active
    refine ⟨one, valid, allotted, ?_, runs, written⟩
    exact getElem?_append_of_some found _
  · intro a b one other first second different port given taken
    exact kept.apart a b one other (old first given) (old second taken) different port given taken
  · intro one member port given
    obtain ⟨n, there⟩ := List.mem_iff_getElem?.mp member
    exact kept.vacant one (List.mem_of_getElem? (old there given)) port given
  · intro one member
    rcases List.mem_append.mp member with before | last
    · exact kept.measures one before
    · rw [List.mem_singleton.mp last]
      exact measures

theorem Kept.next (kept : Kept outbound world) (careful : Careful world event)
    (taken : Singbox.next outbound world event = some later) : Kept outbound later := by
  have moves {r : Nat} (about : event.round? = some r)
      (step : (world.rounds[r]?.bind fun round => Singbox.advance outbound world r round event) =
        some later) : Kept outbound later := by
    obtain ⟨round, here, step⟩ := Option.bind_eq_some_iff.mp step
    exact kept.advance here about careful step
  cases event with
  | started kind servers concurrency =>
      cases taken
      obtain ⟨runs, ports⟩ := runs_validates world.checkSeq [usable outbound servers] []
      exact kept.started _ ports (measures_started runs)
  | boots p =>
      obtain ⟨process, there, step⟩ := Option.bind_eq_some_iff.mp taken
      split at step
      · rename_i unread
        cases step
        exact kept.booted there unread
      · cases step
  | exits p =>
      cases taken
      exact kept.ends p
  | occupied port =>
      unfold Singbox.next at taken
      dsimp only at taken
      split at taken
      · cases taken
      · cases taken
        refine ⟨kept.unread, kept.reads, kept.serving, kept.active, kept.apart, ?_, kept.measures⟩
        intro round member other given inside
        rcases List.mem_cons.mp inside with rfl | before
        · exact careful round member given
        · exact kept.vacant round member other given before
  | vacated port =>
      cases taken
      refine ⟨kept.unread, kept.reads, kept.serving, kept.active, kept.apart, ?_, kept.measures⟩
      intro round member other given inside
      exact kept.vacant round member other given (List.mem_of_mem_erase inside)
  | cut r => exact moves rfl taken
  | written r => exact moves rfl taken
  | checked r ok => exact moves rfl taken
  | allotted r port => exact moves rfl taken
  | apiAnswered r up => exact moves rfl taken
  | begins r => exact moves rfl taken
  | connected r k => exact moves rfl taken
  | answered r k delay => exact moves rfl taken
  | finished r => exact moves rfl taken
  | failed r => exact moves rfl taken

/-- Every process reads what has been written for it, and what is stored as the delay of a server
has been measured through the outbound of that server. -/
structure Lawful (outbound : Server → Option Outbound) (world : World Server Outbound) : Prop where
  reads : ∀ process ∈ world.processes, ∀ content, process.found = some content →
    content = some process.written
  measured : ∀ round ∈ world.rounds, ∀ (i : Nat) (reply : Reply Outbound),
    round.results[i]? = some (some reply) → 0 < reply.delay → ∃ server found,
      round.servers[i]? = some server ∧ outbound server = some found ∧
        reply.path = some (.through found)

theorem Kept.lawful (kept : Kept outbound world) : Lawful outbound world := by
  refine ⟨kept.reads, fun round member i reply stored positive => ?_⟩
  rcases (kept.measures round member).results i reply stored with ⟨_, none_⟩ | ⟨path, sent, own⟩
  · omega
  · obtain ⟨found, known, rfl⟩ := own
    obtain ⟨server, there, outbound_⟩ := Option.bind_eq_some_iff.mp known
    exact ⟨server, found, there, outbound_, sent⟩

/-- In a run whose steps are all careful, every process reads the configuration of its own round
and every delay is measured through the server that it is stored for. -/
theorem lawful_of_careful {events : List (Event Server)}
    (run : Run (Restrict (ofNext (next outbound)) Careful) .initial events world) :
    Lawful outbound world :=
  (run.invariant (Kept outbound)
    (fun _ _ _ step kept => kept.next step.2 step.1) (kept_initial outbound)).lawful

end Runs

section Claim

/-- A server is its own outbound. -/
abbrev PlainWorld : Type := World Nat Nat

def plainNext : PlainWorld → Event Nat → Option PlainWorld := next some

/-- A round from its start to the end of the check of its only server. -/
def validated (kind : Kind) (r server process : Nat) : List (Event Nat) :=
  [.started kind [server] 16, .written r, .boots process, .checked r true]

/-- A round from the answer of the API to its end. -/
def measured (r process : Nat) : List (Event Nat) :=
  [.boots process, .apiAnswered r true, .begins r, .connected r 0, .answered r 0 80, .finished r]

def twoProbes : List (Event Nat) :=
  validated .probe 0 7 0 ++ validated .probe 1 8 1 ++
    [.allotted 0 1000, .allotted 0 1001, .allotted 1 1002, .allotted 1 1003]

/-- The second probe writes its configuration before the process of the first one reads. -/
def overwritten : List (Event Nat) := twoProbes ++ [.written 0, .written 1, .boots 2]

/-- A ping is overtaken by four others, of which three have ended. -/
def overtaken : List (Event Nat) :=
  validated .ping 0 7 0 ++ [.allotted 0 1000, .written 0] ++
    validated .ping 1 8 2 ++ [.allotted 1 1001, .written 1] ++ measured 1 3 ++
    validated .ping 2 8 4 ++ [.allotted 2 1002, .written 2] ++ measured 2 5 ++
    validated .ping 3 8 6 ++ [.allotted 3 1003, .written 3] ++ measured 3 7 ++
    validated .ping 4 9 8 ++ [.allotted 4 1004, .written 4, .boots 1]

/-- The process reads what is not meant for it. -/
def misreads (p : Nat) (world : PlainWorld) : Bool :=
  world.processes[p]?.any fun process =>
    process.found.any fun content => content ≠ some process.written

theorem misreads_overwritten :
    (execute plainNext .initial overwritten).any (misreads 2) = true := by
  decide +kernel

theorem misreads_overtaken :
    (execute plainNext .initial overtaken).any (misreads 1) = true := by
  decide +kernel

theorem not_lawful_of_misreads {p : Nat} {events : List (Event Nat)}
    (misread : (execute plainNext .initial events).any (misreads p) = true) :
    ¬∀ world, Run (ofNext plainNext) .initial events world → Lawful some world := by
  intro claimed
  obtain ⟨world, executed, other⟩ := (Option.any_eq_true _ _).mp misread
  obtain ⟨process, there, found⟩ := (Option.any_eq_true _ _).mp other
  obtain ⟨content, read, different⟩ := (Option.any_eq_true _ _).mp found
  have lawful := claimed world (run_of_execute executed)
  exact of_decide_eq_true different
    (lawful.reads process (List.mem_of_getElem? there) content read)

/-- A process reads the configuration of another round, of two probes and of two pings. -/
theorem mixed_up :
    (¬∀ world, Run (ofNext plainNext) .initial overwritten world → Lawful some world) ∧
      ¬∀ world, Run (ofNext plainNext) .initial overtaken world → Lawful some world :=
  ⟨not_lawful_of_misreads misreads_overwritten, not_lawful_of_misreads misreads_overtaken⟩

/-- The two probes one after the other between the writing and the reading. -/
def inTurn : List (Event Nat) :=
  twoProbes ++ [.written 0] ++ measured 0 2 ++ [.written 1] ++ measured 1 3

/-- No process at all is still to read, and no port is given twice. -/
def quiet (world : PlainWorld) : Event Nat → Bool
  | .cut _ => world.processes.all fun process => !decide process.Unread
  | .written _ => world.processes.all fun process => !decide process.Unread
  | .allotted _ port => world.rounds.all fun round => port ∉ round.phase.ports
  | .occupied _ => false
  | _ => true

theorem careful_of_quiet {world : PlainWorld} {event : Event Nat}
    (calm : quiet world event = true) : Careful world event := by
  have unawaited (all : (world.processes.all fun process => !decide process.Unread) = true)
      (file : FileName) : Unawaited world file := by
    intro process member _ unread
    have read := List.all_eq_true.mp all process member
    rw [decide_eq_true unread] at read
    cases read
  cases event with
  | cut r => exact fun _ file _ _ => unawaited calm file
  | written r => exact fun _ file _ _ => unawaited calm file
  | allotted r port =>
      intro other round _ here
      exact of_decide_eq_true (List.all_eq_true.mp calm round (List.mem_of_getElem? here))
  | occupied port => cases calm
  | _ => trivial

theorem executed_inTurn :
    (executeChecked plainNext quiet .initial inTurn).isSome = true := by
  decide +kernel

theorem lawful_of_careful_inTurn :
    ∃ world, Run (ofNext plainNext) .initial inTurn world ∧ Lawful some world := by
  obtain ⟨world, executed⟩ := Option.isSome_iff_exists.mp executed_inTurn
  have run := run_of_executeChecked executed
  exact ⟨world, run.of_restrict, lawful_of_careful (run.mono fun _ _ _ step =>
    ⟨step.1, careful_of_quiet step.2⟩)⟩

end Claim

end MolidoVpn.Singbox
