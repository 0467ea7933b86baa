import MolidoVpn.Shard.Manager

/-!
What one label can do to the manager, said once. Later modules prove what they need by cases on
`Turn`.
-/

namespace MolidoVpn.Shard

open Transition (ofNext)

universe u

variable {Node : Type u}

/-- A step of the call that holds the lock. -/
inductive Proceeds (state : Manager Node) : Manager Node → Prop where
  | enters {kind : Kind} (at_ : state.pc = .entered kind) :
      Proceeds state { state with sessionMine := kind.isMine, pc := .unlatch none }
  | unlatches (at_ : state.pc = .unlatch none) :
      Proceeds state { state with stopRequestedDuringStart := false, pc := .slices }
  | unlatchesFor {standby : Node} (at_ : state.pc = .unlatch (some standby)) :
      Proceeds state
        { state with
          stopRequestedDuringStart := false
          pc := .committed .switchToStandby standby }
  | endsSlices (at_ : state.pc = .slices) (latched : state.stopRequestedDuringStart = true) :
      Proceeds state (state.goTo .idle)
  | probes (at_ : state.pc = .slices) (unlatched : ¬state.stopRequestedDuringStart = true) :
      Proceeds state
        { state with
          process := some state.processes
          processes := state.processes + 1
          pc := .probing }
  | killsRunning {resume : Pc Node} (at_ : state.pc = .kill .running resume) :
      Proceeds state { state with running := none, pc := .kill .activeNode resume }
  | killsActiveNode {resume : Pc Node} (at_ : state.pc = .kill .activeNode resume) :
      Proceeds state { state with activeNode := none, pc := .kill .process resume }
  | killsProcess {resume : Pc Node} (at_ : state.pc = .kill .process resume) :
      Proceeds state { state.destroy state.process with process := none, pc := resume }
  | endsReady {target : Node} (at_ : state.pc = .ready target)
      (latched : state.stopRequestedDuringStart = true) : Proceeds state (state.goTo .idle)
  | commits {target : Node} (at_ : state.pc = .ready target)
      (unlatched : ¬state.stopRequestedDuringStart = true) :
      Proceeds state (state.goTo (.committed .start target))
  | launches {launcher : Launcher} {target : Node} (at_ : state.pc = .committed launcher target) :
      Proceeds state
        { state.record .launched with
          processes := state.processes + 1
          pc := .spawned launcher target state.processes }
  | spawns {launcher : Launcher} {target : Node} {process : Nat}
      (at_ : state.pc = .spawned launcher target process) :
      Proceeds state
        { state with process := some process, pc := .awaiting launcher target process }
  | listens {launcher : Launcher} {target : Node} {process : Nat}
      (at_ : state.pc = .awaiting launcher target process)
      (alive : state.isAlive process = true) :
      Proceeds state (state.goTo (.listening launcher target))
  | comesUp {launcher : Launcher} {target : Node} (at_ : state.pc = .listening launcher target) :
      Proceeds state
        { state.record .up with
          running := some state.session
          pc := .marked launcher target }
  | marks {launcher : Launcher} {target : Node} (at_ : state.pc = .marked launcher target) :
      Proceeds state
        { state with
          activeNode := some (state.session, target)
          pc := .brought launcher }
  | refreshes {race : StandbyRace Node} (at_ : state.pc = .refresh)
      (next : race = .started ∨ race = state.standbyRace) :
      Proceeds state { state with standbyRace := race, pc := .idle }
  | findsNoStandby {previous : Option Node} (at_ : state.pc = .rotating previous)
      (none_ : state.standbyNode = none) : Proceeds state (state.goTo (.unlatch none))
  | findsStandby {previous : Option Node} {standby : Node} (at_ : state.pc = .rotating previous)
      (stored : state.standbyNode = some standby) :
      Proceeds state (state.goTo (.switching previous standby))
  | staysOn {standby : Node} (at_ : state.pc = .switching (some standby) standby) :
      Proceeds state { state with standbyNode := none, pc := .unlatch none }
  | switches {previous : Option Node} {standby : Node}
      (at_ : state.pc = .switching previous standby) (other : previous ≠ some standby) :
      Proceeds state
        { state with standbyNode := none, pc := .kill .running (.unlatch (some standby)) }

/-- An attempt that fails before its process is there, and after. -/
inductive Fails (state : Manager Node) (again : Bool) : Manager Node → Prop where
  | start {target : Node} (at_ : state.pc = .committed .start target) :
      Fails state again (state.goTo (if again then .ready target else .idle))
  | switch {target : Node} (at_ : state.pc = .committed .switchToStandby target) :
      Fails state again (state.goTo (.unlatch none))
  | startLaunched {target : Node} (at_ : (∃ process, state.pc = .awaiting .start target process) ∨
      state.pc = .listening .start target) :
      Fails state again
        { state.capture state.session with
          stopRequestedDuringStart := true
          pc := if again then .ready target else .idle }
  | switchLaunched : Fails state again (state.goTo (.kill .running (.unlatch none)))

inductive CleansUp (state : Manager Node) (index : Nat) : Manager Node → Prop where
  | compares {cleanup : Cleanup} {stage : CleanupStage}
      (found : state.cleanups[index]? = some cleanup) (at_ : cleanup.stage = .compare)
      (next : stage = .drop ∨ stage = .running) :
      CleansUp state index (state.setCleanup index cleanup stage)
  | drops {cleanup : Cleanup} (found : state.cleanups[index]? = some cleanup)
      (at_ : cleanup.stage = .drop) :
      CleansUp state index { state.setCleanup index cleanup .running with process := none }
  | lowersRunning {cleanup : Cleanup} (found : state.cleanups[index]? = some cleanup)
      (at_ : cleanup.stage = .running) :
      CleansUp state index
        { (state.setCleanup index cleanup .activeNode).recordCleared cleanup.aim state.running with
          running := none }
  | lowersActiveNode {cleanup : Cleanup} (found : state.cleanups[index]? = some cleanup)
      (at_ : cleanup.stage = .activeNode) :
      CleansUp state index
        { (state.setCleanup index cleanup .done).recordCleared cleanup.aim
            (state.activeNode.map Prod.fst) with
          activeNode := none }

/-- A step of the detached race, which gives up wherever the session has gone. -/
inductive StandbyProceeds (state : Manager Node) : Manager Node → Prop where
  | looks {race : StandbyRace Node} (at_ : state.standbyRace = .started)
      (next : race = .idle ∨ ∃ active, race = .looked active) :
      StandbyProceeds state { state with standbyRace := race }
  | pools {active : Node} (at_ : state.standbyRace = .looked active) :
      StandbyProceeds state
        { state with
          standbyRace :=
            .pooled ⟨active, sourceKind state.sessionV2ray state.sessionMine, state.session⟩ }
  | races {race : Detached Node} {next : StandbyRace Node} (at_ : state.standbyRace = .pooled race)
      (next_ : next = .racing race ∨ next = .idle) :
      StandbyProceeds state { state with standbyRace := next }
  | checks {race : Detached Node} {winner : Node} {next : StandbyRace Node}
      (at_ : state.standbyRace = .found race winner)
      (next_ : next = .keeping race winner ∨ next = .idle) :
      StandbyProceeds state { state with standbyRace := next }
  | keeps {race : Detached Node} {winner : Node} (at_ : state.standbyRace = .keeping race winner) :
      StandbyProceeds state
        { state with
          standbyNode := some winner
          standbyBy := some race.session
          standbyRace := .idle }

inductive Turn [DecidableEq Node] (pool : Kind → Node → Bool) (state : Manager Node) :
    Label Node → Manager Node → Prop where
  | connect (kind : Kind) :
      Turn pool state (.connect kind)
        { state.record .connect with
          connects := state.connects + 1
          waiting := state.waiting ++ [.start (state.connects + 1) kind] }
  | rotate : Turn pool state .rotate { state with waiting := state.waiting ++ [.rotate] }
  | enter {index : Nat} {call : Call} (at_ : state.pc = .idle)
      (found : state.waiting[index]? = some call) :
      Turn pool state (.enter index)
        ({ state with waiting := state.waiting.eraseIdx index }.enter call)
  | proceed {after : Manager Node} (moved : Proceeds state after) : Turn pool state .proceed after
  | raceEnds {answers : List Node} (at_ : state.pc = .probing)
      (answered : canAnswer pool state.kind answers = true) :
      Turn pool state (.raceEnds answers)
        ((state.storeRunnerUp answers none).goTo (.kill .running (.raced answers.head?)))
  | raceAborts (at_ : state.pc = .probing) :
      Turn pool state .raceAborts (state.goTo (.kill .running .slices))
  | noMoreSlices (at_ : state.pc = .slices) : Turn pool state .noMoreSlices (state.goTo .idle)
  | attemptFails {again : Bool} {after : Manager Node} (failed : Fails state again after) :
      Turn pool state (.attemptFails again) after
  | stopLatches :
      Turn pool state .stopLatches
        { state with stopRequestedDuringStart := true, stopping := state.stopping + 1 }
  | stopCaptures (calls : 0 < state.stopping) :
      Turn pool state .stopCaptures
        { (state.capture state.connects).record .stop with stopping := state.stopping - 1 }
  | cleanup {index : Nat} {after : Manager Node} (cleans : CleansUp state index after) :
      Turn pool state (.cleanup index) after
  | standbyProceeds {after : Manager Node} (moved : StandbyProceeds state after) :
      Turn pool state .standbyProceeds after
  | standbyRaceEnds {answers : List Node} {race : Detached Node}
      (at_ : state.standbyRace = .racing race)
      (answered : canAnswer pool race.kind answers = true) (others : race.active ∉ answers) :
      Turn pool state (.standbyRaceEnds answers)
        { state.storeRunnerUp answers (some race.session) with
          standbyRace := .raced race answers.head? }
  | standbyRaceAborts {race : Detached Node} (at_ : state.standbyRace = .racing race) :
      Turn pool state .standbyRaceAborts { state with standbyRace := .idle }

section Inversion

variable {state after : Manager Node}

theorem fails_of_attemptFails {again : Bool} (taken : state.attemptFails again = some after) :
    Fails state again after := by
  unfold Manager.attemptFails at taken
  dsimp only at taken
  cases pc : state.pc with
  | committed launcher target =>
      rw [pc] at taken
      cases launcher with
      | start =>
          obtain rfl := Option.some.inj taken
          exact .start pc
      | switchToStandby =>
          obtain rfl := Option.some.inj taken
          exact .switch pc
  | awaiting launcher target process =>
      rw [pc] at taken
      cases launcher with
      | start =>
          obtain rfl := Option.some.inj taken
          exact .startLaunched (Or.inl ⟨process, pc⟩)
      | switchToStandby =>
          obtain rfl := Option.some.inj taken
          exact .switchLaunched
  | listening launcher target =>
      rw [pc] at taken
      cases launcher with
      | start =>
          obtain rfl := Option.some.inj taken
          exact .startLaunched (Or.inr pc)
      | switchToStandby =>
          obtain rfl := Option.some.inj taken
          exact .switchLaunched
  | _ => rw [pc] at taken; cases taken

theorem cleansUp_of_cleanUp {index : Nat} (taken : state.cleanUp index = some after) :
    CleansUp state index after := by
  unfold Manager.cleanUp at taken
  split at taken
  · cases taken
  · rename_i cleanup found
    cases stage : cleanup.stage with
    | compare =>
        rw [stage] at taken
        obtain rfl := Option.some.inj taken
        refine .compares found stage ?_
        split
        · exact Or.inl rfl
        · exact Or.inr rfl
    | drop =>
        rw [stage] at taken
        obtain rfl := Option.some.inj taken
        exact .drops found stage
    | running =>
        rw [stage] at taken
        obtain rfl := Option.some.inj taken
        exact .lowersRunning found stage
    | activeNode =>
        rw [stage] at taken
        obtain rfl := Option.some.inj taken
        exact .lowersActiveNode found stage
    | done => rw [stage] at taken; cases taken

variable [DecidableEq Node]

theorem proceeds_of_proceed (taken : state.proceed = some after) : Proceeds state after := by
  unfold Manager.proceed at taken
  cases pc : state.pc with
  | idle | probing => rw [pc] at taken; cases taken
  | entered kind =>
      rw [pc] at taken
      obtain rfl := Option.some.inj taken
      exact .enters pc
  | unlatch standby =>
      rw [pc] at taken
      cases standby with
      | none =>
          obtain rfl := Option.some.inj taken
          exact .unlatches pc
      | some standby =>
          obtain rfl := Option.some.inj taken
          exact .unlatchesFor pc
  | slices =>
      rw [pc] at taken
      dsimp only at taken
      split at taken
      · rename_i latched
        obtain rfl := Option.some.inj taken
        exact .endsSlices pc latched
      · rename_i unlatched
        obtain rfl := Option.some.inj taken
        exact .probes pc unlatched
  | kill stage resume =>
      rw [pc] at taken
      cases stage with
      | running =>
          obtain rfl := Option.some.inj taken
          exact .killsRunning pc
      | activeNode =>
          obtain rfl := Option.some.inj taken
          exact .killsActiveNode pc
      | process =>
          obtain rfl := Option.some.inj taken
          exact .killsProcess pc
  | ready target =>
      rw [pc] at taken
      dsimp only at taken
      split at taken
      · rename_i latched
        obtain rfl := Option.some.inj taken
        exact .endsReady pc latched
      · rename_i unlatched
        obtain rfl := Option.some.inj taken
        exact .commits pc unlatched
  | committed launcher target =>
      rw [pc] at taken
      obtain rfl := Option.some.inj taken
      exact .launches pc
  | spawned launcher target process =>
      rw [pc] at taken
      obtain rfl := Option.some.inj taken
      exact .spawns pc
  | awaiting launcher target process =>
      rw [pc] at taken
      dsimp only at taken
      split at taken
      · rename_i alive
        obtain rfl := Option.some.inj taken
        exact .listens pc alive
      · cases taken
  | listening launcher target =>
      rw [pc] at taken
      obtain rfl := Option.some.inj taken
      exact .comesUp pc
  | marked launcher target =>
      rw [pc] at taken
      obtain rfl := Option.some.inj taken
      exact .marks pc
  | refresh =>
      rw [pc] at taken
      obtain rfl := Option.some.inj taken
      refine .refreshes pc ?_
      split
      · exact Or.inl rfl
      · exact Or.inr rfl
  | rotating previous =>
      rw [pc] at taken
      dsimp only at taken
      split at taken
      · rename_i none_
        obtain rfl := Option.some.inj taken
        exact .findsNoStandby pc none_
      · rename_i standby stored
        obtain rfl := Option.some.inj taken
        exact .findsStandby pc stored
  | switching previous standby =>
      rw [pc] at taken
      dsimp only at taken
      split at taken
      · rename_i same
        obtain rfl := Option.some.inj taken
        rw [same] at pc
        exact .staysOn pc
      · rename_i other
        obtain rfl := Option.some.inj taken
        exact .switches pc other

theorem standbyProceeds_of_taken (taken : state.standbyProceeds = some after) :
    StandbyProceeds state after := by
  unfold Manager.standbyProceeds at taken
  cases background : state.standbyRace with
  | idle | racing race => rw [background] at taken; cases taken
  | started =>
      rw [background] at taken
      obtain rfl := Option.some.inj taken
      refine .looks background ?_
      cases state.activeNode with
      | none => exact Or.inl rfl
      | some active => exact Or.inr ⟨active.2, rfl⟩
  | looked active =>
      rw [background] at taken
      obtain rfl := Option.some.inj taken
      exact .pools background
  | pooled race =>
      rw [background] at taken
      obtain rfl := Option.some.inj taken
      refine .races background ?_
      cases state.isRunning with
      | true => exact Or.inl rfl
      | false => exact Or.inr rfl
  | found race winner =>
      rw [background] at taken
      obtain rfl := Option.some.inj taken
      refine .checks background ?_
      split
      · exact Or.inl rfl
      · exact Or.inr rfl
  | keeping race winner =>
      rw [background] at taken
      obtain rfl := Option.some.inj taken
      exact .keeps background

variable {pool : Kind → Node → Bool} {label : Label Node}

theorem turn_of_next (taken : ofNext (next pool) state label after) :
    Turn pool state label after := by
  unfold ofNext at taken
  cases label with
  | connect kind =>
      obtain rfl := Option.some.inj taken
      exact .connect kind
  | rotate =>
      obtain rfl := Option.some.inj taken
      exact .rotate
  | enter index =>
      simp only [next, Option.ite_none_right_eq_some] at taken
      obtain ⟨call, found, rfl⟩ := Option.map_eq_some_iff.mp taken.2
      exact .enter taken.1 found
  | proceed => exact .proceed (proceeds_of_proceed taken)
  | raceEnds answers =>
      simp only [next, Option.ite_none_right_eq_some, Option.some.injEq, Bool.and_eq_true,
        decide_eq_true_eq] at taken
      obtain ⟨⟨at_, answered⟩, rfl⟩ := taken
      exact .raceEnds at_ answered
  | raceAborts =>
      simp only [next, Option.ite_none_right_eq_some, Option.some.injEq] at taken
      obtain ⟨at_, rfl⟩ := taken
      exact .raceAborts at_
  | noMoreSlices =>
      simp only [next, Option.ite_none_right_eq_some, Option.some.injEq] at taken
      obtain ⟨at_, rfl⟩ := taken
      exact .noMoreSlices at_
  | attemptFails again => exact .attemptFails (fails_of_attemptFails taken)
  | stopLatches =>
      obtain rfl := Option.some.inj taken
      exact .stopLatches
  | stopCaptures =>
      simp only [next, Option.ite_none_right_eq_some, Option.some.injEq] at taken
      obtain ⟨calls, rfl⟩ := taken
      exact .stopCaptures calls
  | cleanup index => exact .cleanup (cleansUp_of_cleanUp taken)
  | standbyProceeds => exact .standbyProceeds (standbyProceeds_of_taken taken)
  | standbyRaceEnds answers =>
      simp only [next] at taken
      split at taken
      · rename_i race racing
        simp only [Option.ite_none_right_eq_some, Option.some.injEq, Bool.and_eq_true,
          Bool.not_eq_true', List.contains_eq_mem, decide_eq_false_iff_not] at taken
        obtain ⟨⟨answered, others⟩, rfl⟩ := taken
        exact .standbyRaceEnds racing answered others
      · cases taken
  | standbyRaceAborts =>
      simp only [next] at taken
      split at taken
      · rename_i race racing
        obtain rfl := Option.some.inj taken
        exact .standbyRaceAborts racing
      · cases taken

end Inversion

end MolidoVpn.Shard
