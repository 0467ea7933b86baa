import MolidoVpn.Shard.Latch

/-!
Which session a clean-up of `stop` is for, and that a tunnel that is up belongs to no later one.
-/

namespace MolidoVpn.Shard

open Transition (ofNext Restrict)

universe u

variable {Node : Type u}

/-- No clean-up that is under way is for a `stop` before this session. -/
def Unharmed (state : Manager Node) (session : Nat) : Prop :=
  session ≤ state.connects ∧
    ∀ cleanup ∈ state.cleanups, cleanup.stage ≠ .done → session ≤ cleanup.aim

/-- From where on `killProcess` has lowered `running`. -/
def Pc.runningDown : Pc Node → Bool
  | .kill .activeNode _ | .kill .process _ | .ready _ | .committed .start _
  | .spawned .start _ _ | .awaiting .start _ _ | .listening .start _ => true
  | _ => false

def Pc.activeDown : Pc Node → Bool
  | .kill .process _ | .ready _ | .committed .start _
  | .spawned .start _ _ | .awaiting .start _ _ | .listening .start _ => true
  | _ => false

/-- The call has set `running` and goes on to set `activeNode`. -/
def Pc.marks : Pc Node → Bool
  | .marked _ _ => true
  | .kill _ resume => resume.marks
  | _ => false

def Event.clears : Event → Bool
  | .cleared _ _ => true
  | _ => false

/-- What is up belongs to no session that a clean-up under way is too old for. -/
structure Aims (state : Manager Node) : Prop where
  session : state.session ≤ state.connects
  waiting : ∀ session kind, .start session kind ∈ state.waiting → session ≤ state.connects
  running : ∀ session, state.running = some session → Unharmed state session
  activeNode : ∀ session node, state.activeNode = some (session, node) → Unharmed state session
  marks : state.pc.marks = true → Unharmed state state.session
  runningDown : state.pc.runningDown = true → state.running = none
  activeDown : state.pc.activeDown = true → state.activeNode = none
  aimed : ∀ event ∈ state.history, Aimed event

/-- What holds where a flag is up holds where it is down. -/
theorem lowered {p : Prop} (up : false = true) : p :=
  absurd up Bool.false_ne_true

/-- A call goes on to where nothing new is known of what is up. -/
theorem Aims.goTo {state : Manager Node} (aims : Aims state) {pc : Pc Node}
    (running : pc.runningDown = true → state.running = none)
    (active : pc.activeDown = true → state.activeNode = none)
    (marks : pc.marks = true → Unharmed state state.session) : Aims (state.goTo pc) :=
  { aims with
    marks := marks
    runningDown := running
    activeDown := active }

theorem Aims.record {state : Manager Node} (aims : Aims state) (event : Event)
    (aimed : Aimed event) : Aims (state.record event) :=
  { aims with
    aimed := by
      intro other member
      rcases List.mem_append.mp member with old | new
      · exact aims.aimed other old
      · obtain rfl := List.mem_singleton.mp new
        exact aimed }

/-- An event that clears nothing. -/
theorem Aims.recordOther {state : Manager Node} (aims : Aims state) (event : Event)
    (other : event.clears = false) : Aims (state.record event) := by
  apply aims.record event
  intro aim session cleared
  subst cleared
  exact lowered other.symm

/-- The `stop` that `start` calls itself: what has been up before its race is down. -/
theorem Aims.capture {state : Manager Node} (aims : Aims state)
    (running : state.running = none) (active : state.activeNode = none) {pc : Pc Node}
    (unmarked : pc.marks = false) (aim : Nat) :
    Aims { state.capture aim with stopRequestedDuringStart := true, pc := pc } where
  session := aims.session
  waiting := aims.waiting
  running := by
    intro session up
    cases running.symm.trans up
  activeNode := by
    intro session node up
    cases active.symm.trans up
  marks := fun marked => absurd (unmarked.symm.trans marked) Bool.false_ne_true
  runningDown := fun _ => running
  activeDown := fun _ => active
  aimed := aims.aimed

theorem fails_aims {state after : Manager Node} {again : Bool}
    (failed : Fails state again after) (aims : Aims state) : Aims after := by
  have runningDown := aims.runningDown
  have activeDown := aims.activeDown
  cases failed with
  | start at_ =>
      rw [at_] at runningDown activeDown
      cases again with
      | true => exact aims.goTo (fun _ => runningDown rfl) (fun _ => activeDown rfl) lowered
      | false => exact aims.goTo lowered lowered lowered
  | switch | switchLaunched => exact aims.goTo lowered lowered lowered
  | startLaunched at_ =>
      have down : state.pc.runningDown = true ∧ state.pc.activeDown = true := by
        rcases at_ with ⟨process, at_⟩ | at_
        · rw [at_]
          exact ⟨rfl, rfl⟩
        · rw [at_]
          exact ⟨rfl, rfl⟩
      apply aims.capture (runningDown down.1) (activeDown down.2)
      cases again <;> rfl

theorem Unharmed.setCleanup {state : Manager Node} {session : Nat}
    (unharmed : Unharmed state session) {index : Nat} {cleanup : Cleanup}
    (found : state.cleanups[index]? = some cleanup) (pending : cleanup.stage ≠ .done)
    (stage : CleanupStage) : Unharmed (state.setCleanup index cleanup stage) session := by
  refine ⟨unharmed.1, ?_⟩
  intro other member otherPending
  rcases List.mem_or_eq_of_mem_set member with old | rfl
  · exact unharmed.2 other old otherPending
  · exact unharmed.2 cleanup (List.mem_of_getElem? found) pending

theorem Aims.setCleanup {state : Manager Node} (aims : Aims state) {index : Nat}
    {cleanup : Cleanup} (found : state.cleanups[index]? = some cleanup)
    (pending : cleanup.stage ≠ .done) (stage : CleanupStage) :
    Aims (state.setCleanup index cleanup stage) :=
  { aims with
    running := fun session up => (aims.running session up).setCleanup found pending stage
    activeNode := fun session node up =>
      (aims.activeNode session node up).setCleanup found pending stage
    marks := fun marked => (aims.marks marked).setCleanup found pending stage }

/-- What a clean-up clears is not of a session after its `stop`. -/
theorem Aims.recordCleared {state : Manager Node} (aims : Aims state) (aim : Nat)
    (session : Option Nat) (aimed : ∀ other, session = some other → other ≤ aim) :
    Aims (state.recordCleared aim session) := by
  cases session with
  | none => exact aims
  | some session =>
      apply aims.record (.cleared aim session)
      intro _ _ same
      cases same
      exact aimed session rfl

theorem cleansUp_aims {state after : Manager Node} {index : Nat}
    (cleans : CleansUp state index after) (aims : Aims state) : Aims after := by
  cases cleans with
  | compares found at_ => exact aims.setCleanup found (by rw [at_]; decide) _
  | drops found at_ => exact { aims.setCleanup found (by rw [at_]; decide) .running with }
  | lowersRunning found at_ =>
      rename_i cleanup
      have pending : cleanup.stage ≠ .done := by rw [at_]; decide
      have recorded := (aims.setCleanup found pending .activeNode).recordCleared
        cleanup.aim state.running
        fun session up => (aims.running session up).2 cleanup (List.mem_of_getElem? found) pending
      exact { recorded with
        running := by
          intro session up
          cases up
        runningDown := fun _ => rfl }
  | lowersActiveNode found at_ =>
      rename_i cleanup
      have pending : cleanup.stage ≠ .done := by rw [at_]; decide
      have recorded := (aims.setCleanup found pending .done).recordCleared
        cleanup.aim (state.activeNode.map Prod.fst) (by
          intro session up
          obtain ⟨⟨_, node⟩, active, rfl⟩ := Option.map_eq_some_iff.mp up
          exact (aims.activeNode _ node active).2 cleanup (List.mem_of_getElem? found) pending)
      exact { recorded with
        activeNode := by
          intro session node up
          cases up
        activeDown := fun _ => rfl }

/-- The user connects once more: all that there is gets older. -/
theorem Aims.connect {state : Manager Node} (aims : Aims state) (kind : Kind) :
    Aims { state.record .connect with
      connects := state.connects + 1
      waiting := state.waiting ++ [.start (state.connects + 1) kind] } := by
  have older {session : Nat} (unharmed : Unharmed state session) :
      session ≤ state.connects + 1 ∧
        ∀ cleanup ∈ state.cleanups, cleanup.stage ≠ .done → session ≤ cleanup.aim :=
    ⟨Nat.le_succ_of_le unharmed.1, unharmed.2⟩
  exact { aims.recordOther .connect rfl with
    session := Nat.le_succ_of_le aims.session
    waiting := by
      intro session other member
      rcases List.mem_append.mp member with old | new
      · exact Nat.le_succ_of_le (aims.waiting session other old)
      · cases List.mem_singleton.mp new
        exact Nat.le_refl _
    running := fun session up => older (aims.running session up)
    activeNode := fun session node up => older (aims.activeNode session node up)
    marks := fun marked => older (aims.marks marked) }

/-- A `stop` of the user is for every connect so far. -/
theorem Aims.stop {state : Manager Node} (aims : Aims state) (calls : Nat) :
    Aims { (state.capture state.connects).record .stop with stopping := calls } := by
  have spared {session : Nat} (unharmed : Unharmed state session) :
      session ≤ state.connects ∧
        ∀ cleanup ∈ state.cleanups ++ [⟨state.connects, state.process, .compare⟩],
          cleanup.stage ≠ .done → session ≤ cleanup.aim := by
    refine ⟨unharmed.1, ?_⟩
    intro cleanup member pending
    rcases List.mem_append.mp member with old | new
    · exact unharmed.2 cleanup old pending
    · obtain rfl := List.mem_singleton.mp new
      exact unharmed.1
  exact { aims.recordOther .stop rfl with
    running := fun session up => spared (aims.running session up)
    activeNode := fun session node up => spared (aims.activeNode session node up)
    marks := fun marked => spared (aims.marks marked) }

section Steps

theorem proceeds_aims {state after : Manager Node} (moved : Proceeds state after)
    (timely : inTime state .proceed = true) (aims : Aims state) : Aims after := by
  have runningDown := aims.runningDown
  have activeDown := aims.activeDown
  have marks := aims.marks
  cases moved with
  | enters | unlatches | unlatchesFor | probes | refreshes | staysOn | switches =>
      exact { aims with marks := lowered, runningDown := lowered, activeDown := lowered }
  | endsSlices | endsReady | findsNoStandby | findsStandby =>
      exact aims.goTo lowered lowered lowered
  | killsRunning at_ =>
      rw [at_] at marks
      exact { aims with
        running := by
          intro session up
          cases up
        marks := marks
        runningDown := fun _ => rfl
        activeDown := lowered }
  | killsActiveNode at_ =>
      rw [at_] at runningDown marks
      exact { aims with
        activeNode := by
          intro session node up
          cases up
        marks := marks
        runningDown := fun _ => runningDown rfl
        activeDown := fun _ => rfl }
  | killsProcess at_ =>
      rw [at_] at runningDown activeDown marks
      exact { aims with
        marks := marks
        runningDown := fun _ => runningDown rfl
        activeDown := fun _ => activeDown rfl }
  | commits at_ =>
      rw [at_] at runningDown activeDown
      exact aims.goTo (fun _ => runningDown rfl) (fun _ => activeDown rfl) lowered
  | launches at_ =>
      rename_i launcher target
      rw [at_] at runningDown activeDown
      have recorded := aims.recordOther .launched rfl
      cases launcher with
      | start =>
          exact { recorded with
            marks := lowered
            runningDown := fun _ => runningDown rfl
            activeDown := fun _ => activeDown rfl }
      | switchToStandby =>
          exact { recorded with marks := lowered, runningDown := lowered, activeDown := lowered }
  | spawns at_ =>
      rename_i launcher target process
      rw [at_] at runningDown activeDown
      cases launcher with
      | start =>
          exact { aims with
            marks := lowered
            runningDown := fun _ => runningDown rfl
            activeDown := fun _ => activeDown rfl }
      | switchToStandby =>
          exact { aims with marks := lowered, runningDown := lowered, activeDown := lowered }
  | listens at_ =>
      rename_i launcher target process _
      rw [at_] at runningDown activeDown
      cases launcher with
      | start => exact aims.goTo (fun _ => runningDown rfl) (fun _ => activeDown rfl) lowered
      | switchToStandby => exact aims.goTo lowered lowered lowered
  | comesUp at_ =>
      rw [inTime, at_] at timely
      have unharmed : Unharmed state state.session := by
        refine ⟨aims.session, ?_⟩
        intro cleanup member pending
        have early := List.all_eq_true.mp timely cleanup member
        rw [Bool.or_eq_true, beq_iff_eq, decide_eq_true_iff] at early
        exact early.resolve_left pending
      have recorded := aims.recordOther .up rfl
      exact { recorded with
        running := by
          intro session up
          obtain rfl := Option.some.inj up
          exact unharmed
        marks := fun _ => unharmed
        runningDown := lowered
        activeDown := lowered }
  | marks at_ =>
      rename_i launcher target
      rw [at_] at marks
      have unharmed := marks rfl
      cases launcher with
      | start | switchToStandby =>
          exact { aims with
            activeNode := by
              intro session node up
              obtain ⟨rfl, _⟩ := Prod.mk.inj (Option.some.inj up)
              exact unharmed
            marks := lowered
            runningDown := lowered
            activeDown := lowered }

variable [DecidableEq Node] {pool : Kind → Node → Bool}

theorem next_aims (source : Manager Node) (label : Label Node) (target : Manager Node)
    (taken : Restrict (ofNext (next pool)) (fun state label => inTime state label) source label
      target)
    (aims : Aims source) : Aims target := by
  obtain ⟨taken, timely⟩ := taken
  cases turn_of_next taken with
  | connect kind => exact aims.connect kind
  | rotate =>
      refine { aims with waiting := ?_ }
      intro session kind member
      rcases List.mem_append.mp member with old | new
      · exact aims.waiting session kind old
      · cases List.mem_singleton.mp new
  | enter at_ found =>
      rename_i index call
      have rest : ∀ session kind, Call.start session kind ∈ source.waiting.eraseIdx index →
          session ≤ source.connects := fun session kind member =>
        aims.waiting session kind (List.mem_of_mem_eraseIdx member)
      cases call with
      | start session kind =>
          exact { aims with
            session := aims.waiting session kind (List.mem_of_getElem? found)
            waiting := rest
            marks := lowered
            runningDown := lowered
            activeDown := lowered }
      | rotate =>
          exact { aims with
            waiting := rest
            marks := lowered
            runningDown := lowered
            activeDown := lowered }
  | proceed moved => exact proceeds_aims moved timely aims
  | raceEnds =>
      rename_i answers _ _
      refine { aims with marks := ?_, runningDown := lowered, activeDown := lowered }
      intro marked
      change (Pc.raced answers.head?).marks = true at marked
      cases raced : answers.head? <;> rw [raced] at marked <;> cases marked
  | raceAborts | noMoreSlices => exact aims.goTo lowered lowered lowered
  | attemptFails failed => exact fails_aims failed aims
  | stopLatches => exact { aims with }
  | stopCaptures => exact aims.stop _
  | cleanup cleans => exact cleansUp_aims cleans aims
  | standbyProceeds moved => cases moved <;> exact { aims with }
  | standbyRaceEnds | standbyRaceAborts => exact { aims with }

end Steps

end MolidoVpn.Shard
