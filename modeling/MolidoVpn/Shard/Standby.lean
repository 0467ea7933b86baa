import MolidoVpn.Shard.Turns

/-!
The node that `rotate` would switch to, over connects to all pools, the races of `start`
and the detached races. `race` stores its runner-up whoever has called it, and a `start`
leaves the standby of the session before it in place.
-/

namespace MolidoVpn.Shard

open Transition (Run ofNext Restrict execute run_of_execute executeChecked run_of_executeChecked)

universe u

variable {Node : Type u}

/-- What a standby has to be: of the session's own pool, alive when it was raced, not the node in
use, and not left by a detached race of an earlier session. -/
structure Suits (pool : Kind → Node → Bool) (state : Manager Node) (node : Node) : Prop where
  own : pool state.kind node = true
  answered : node ∈ state.answered
  notActive : ∀ session, state.activeNode ≠ some (session, node)
  current : ∀ session, state.standbyBy = some session → session = state.session

/-- The node that the call is bringing up. -/
def Pc.target : Pc Node → Option Node
  | .unlatch standby => standby
  | .kill _ resume => resume.target
  | .ready target | .committed _ target | .spawned _ target _ | .awaiting _ target _
  | .listening _ target | .marked _ target => some target
  | .idle | .entered _ | .slices | .probing | .refresh | .rotating _ | .switching _ _ => none

/-- What a detached race has found and not yet stored. -/
def StandbyRace.winner : StandbyRace Node → Option Node
  | .found _ winner | .keeping _ winner => some winner
  | .idle | .started | .looked _ | .pooled _ | .racing _ => none

/-- The standby suits, also when the node that is on its way is up; and what a detached race has
found has answered it. -/
structure Suited (pool : Kind → Node → Bool) (state : Manager Node) : Prop where
  standby : ∀ node, state.standbyNode = some node →
    Suits pool state node ∧ state.pc.target ≠ some node
  found : ∀ winner, state.standbyRace.winner = some winner → winner ∈ state.answered

variable {pool : Kind → Node → Bool}

/-- A step that stores no standby and brings no other node up. -/
theorem Suited.keeps {state after : Manager Node} (held : Suited pool state)
    (kind : after.kind = state.kind) (session : after.session = state.session)
    (answered : after.answered = state.answered) (standbyBy : after.standbyBy = state.standbyBy)
    (race : after.standbyRace.winner = state.standbyRace.winner ∨ after.standbyRace.winner = none)
    (standby : after.standbyNode = state.standbyNode)
    (active : after.activeNode = state.activeNode ∨ after.activeNode = none)
    (target : after.pc.target = state.pc.target ∨ after.pc.target = none) :
    Suited pool after := by
  constructor
  · intro node stored
    rw [standby] at stored
    obtain ⟨suits, notComing⟩ := held.standby node stored
    refine ⟨⟨?_, ?_, ?_, ?_⟩, ?_⟩
    · rw [kind]
      exact suits.own
    · rw [answered]
      exact suits.answered
    · intro other
      rcases active with same | none_
      · rw [same]
        exact suits.notActive other
      · rw [none_]
        exact nofun
    · rw [standbyBy, session]
      exact suits.current
    · rcases target with same | none_
      · rw [same]
        exact notComing
      · rw [none_]
        exact nofun
  · intro winner found
    rw [answered]
    rcases race with same | none_
    · rw [same] at found
      exact held.found winner found
    · cases none_.symm.trans found

theorem raced_target (winner : Option Node) : (Pc.raced winner).target = winner := by
  cases winner <;> rfl

theorem raced_winner (race : Detached Node) (winner : Option Node) :
    (StandbyRace.raced race winner).winner = winner := by
  cases winner <;> rfl

private theorem notActive_of_all {active : Option (Nat × Node)} (test : Node → Bool)
    {node : Node} (all : active.all (fun active => test active.2) = true) (fails : test node = false) :
    ∀ session, active ≠ some (session, node) := by
  rintro session rfl
  rw [Option.all_some, fails] at all
  cases all

/-- A standby that a race stores. -/
theorem Suited.stores {state : Manager Node} (held : Suited pool state) {answers : List Node}
    {standbyBy : Option Nat} (pc : Pc Node) {race : StandbyRace Node}
    (standby : ∀ node, answers[1]? = some node →
      pool state.kind node = true ∧ (∀ session, state.activeNode ≠ some (session, node)) ∧
        (∀ session, standbyBy = some session → session = state.session) ∧ pc.target ≠ some node)
    (found : ∀ winner, race.winner = some winner → winner ∈ answers ∨
      state.standbyRace.winner = some winner) :
    Suited pool { state.storeRunnerUp answers standbyBy with pc := pc, standbyRace := race } where
  standby := by
    intro node stored
    obtain ⟨own, notActive, current, notComing⟩ := standby node stored
    exact ⟨⟨own, List.mem_append_left _ (List.mem_of_getElem? stored), notActive, current⟩,
      notComing⟩
  found := by
    intro winner stored
    rcases found winner stored with new | old
    · exact List.mem_append_left _ new
    · exact List.mem_append_right _ (held.found winner old)

theorem fails_suited {state after : Manager Node} {again : Bool}
    (failed : Fails state again after) (held : Suited pool state) : Suited pool after := by
  have mayRetry {target : Node} (at_ : state.pc.target = some target) :
      (if again then Pc.ready target else .idle).target = state.pc.target ∨
        (if again then Pc.ready target else .idle).target = none := by
    cases again with
    | true => exact Or.inl at_.symm
    | false => exact Or.inr rfl
  cases failed with
  | start at_ =>
      exact held.keeps rfl rfl rfl rfl (Or.inl rfl) rfl (Or.inl rfl)
        (mayRetry (congrArg Pc.target at_))
  | startLaunched at_ =>
      refine held.keeps rfl rfl rfl rfl (Or.inl rfl) rfl (Or.inl rfl) (mayRetry ?_)
      rcases at_ with ⟨process, at_⟩ | at_
      · exact congrArg Pc.target at_
      · exact congrArg Pc.target at_
  | switch | switchLaunched =>
      exact held.keeps rfl rfl rfl rfl (Or.inl rfl) rfl (Or.inl rfl) (Or.inr rfl)

theorem recordCleared_suited {state : Manager Node} (held : Suited pool state) (aim : Nat)
    (session : Option Nat) : Suited pool (state.recordCleared aim session) := by
  cases session with
  | none => exact held
  | some session =>
      exact held.keeps rfl rfl rfl rfl (Or.inl rfl) rfl (Or.inl rfl) (Or.inl rfl)

theorem cleansUp_suited {state after : Manager Node} {index : Nat}
    (cleans : CleansUp state index after) (held : Suited pool state) : Suited pool after := by
  have set_ (cleanup : Cleanup) (stage : CleanupStage) :
      Suited pool (state.setCleanup index cleanup stage) :=
    held.keeps rfl rfl rfl rfl (Or.inl rfl) rfl (Or.inl rfl) (Or.inl rfl)
  cases cleans with
  | compares => exact set_ _ _
  | drops =>
      rename_i cleanup _ _
      exact (set_ cleanup .running).keeps rfl rfl rfl rfl (Or.inl rfl) rfl (Or.inl rfl)
        (Or.inl rfl)
  | lowersRunning =>
      rename_i cleanup _ _
      exact (recordCleared_suited (set_ cleanup .activeNode) cleanup.aim state.running).keeps
        rfl rfl rfl rfl (Or.inl rfl) rfl (Or.inl rfl) (Or.inl rfl)
  | lowersActiveNode =>
      rename_i cleanup _ _
      exact (recordCleared_suited (set_ cleanup .done) cleanup.aim
        (state.activeNode.map Prod.fst)).keeps
        rfl rfl rfl rfl (Or.inl rfl) rfl (Or.inr rfl) (Or.inl rfl)

theorem proceeds_suited {state after : Manager Node} (moved : Proceeds state after)
    (held : Suited pool state) : Suited pool after := by
  have target {pc : Pc Node} (at_ : state.pc = pc) : state.pc.target = pc.target :=
    congrArg Pc.target at_
  cases moved with
  | enters | endsSlices | probes | endsReady | findsNoStandby | findsStandby =>
      exact held.keeps rfl rfl rfl rfl (Or.inl rfl) rfl (Or.inl rfl) (Or.inr rfl)
  | unlatches at_ | unlatchesFor at_ | killsRunning at_ | killsProcess at_ | commits at_
  | launches at_ | spawns at_ | listens at_ | comesUp at_ =>
      exact held.keeps rfl rfl rfl rfl (Or.inl rfl) rfl (Or.inl rfl) (Or.inl (target at_).symm)
  | killsActiveNode at_ =>
      exact held.keeps rfl rfl rfl rfl (Or.inl rfl) rfl (Or.inr rfl) (Or.inl (target at_).symm)
  | marks at_ =>
      rename_i launcher node
      refine ⟨fun standby stored => ?_, held.found⟩
      obtain ⟨suits, notComing⟩ := held.standby standby stored
      rw [at_] at notComing
      refine ⟨⟨suits.own, suits.answered, ?_, suits.current⟩, ?_⟩
      · rintro session same
        apply notComing
        exact congrArg some (congrArg Prod.snd (Option.some.inj same))
      · cases launcher <;> exact nofun
  | refreshes at_ next =>
      refine held.keeps rfl rfl rfl rfl ?_ rfl (Or.inl rfl) (Or.inr rfl)
      rcases next with rfl | rfl
      · exact Or.inr rfl
      · exact Or.inl rfl
  | staysOn | switches => exact ⟨nofun, held.found⟩

variable [DecidableEq Node]

/-- The session is still the one that the race was for, and the node is of its pool and neither in
use nor about to be. -/
def Manager.takes (pool : Kind → Node → Bool) (state : Manager Node) (race : Detached Node)
    (node : Node) : Bool :=
  race.session == state.session && pool state.kind node &&
    state.activeNode.all (fun active => active.2 != node) && state.pc.target != some node

/-- A connect finds no standby, or one of its pool that a race of `start` has left; the runner-up of
a race of `start` is neither its winner nor the node in use; and a detached race stores what the
session can take at that moment. -/
def standbyInTime (pool : Kind → Node → Bool) (state : Manager Node) : Label Node → Bool
  | .enter index =>
      match state.waiting[index]? with
      | some (.start _ kind) =>
          state.standbyNode.all fun node => pool kind node && state.standbyBy == none
      | _ => true
  | .raceEnds answers =>
      answers[1]?.all fun runnerUp =>
        answers.head? != some runnerUp && state.activeNode.all fun active => active.2 != runnerUp
  | .standbyRaceEnds answers =>
      match state.standbyRace with
      | .racing race => answers[1]?.all (state.takes pool race)
      | _ => true
  | .standbyProceeds =>
      match state.standbyRace with
      | .keeping race winner => state.takes pool race winner
      | _ => true
  | _ => true

private theorem of_takes {state : Manager Node} {race : Detached Node} {node : Node}
    (takes : state.takes pool race node = true) :
    pool state.kind node = true ∧ (∀ session, state.activeNode ≠ some (session, node)) ∧
      (∀ session, some race.session = some session → session = state.session) ∧
        state.pc.target ≠ some node := by
  unfold Manager.takes at takes
  rw [Bool.and_eq_true, Bool.and_eq_true, Bool.and_eq_true] at takes
  obtain ⟨⟨⟨same, own⟩, notActive⟩, notComing⟩ := takes
  refine ⟨own, ?_, ?_, bne_iff_ne.mp notComing⟩
  · exact notActive_of_all (fun other => other != node) notActive (bne_self_eq_false node)
  · intro session current
    cases current
    exact eq_of_beq same

theorem standbyProceeds_suited {state after : Manager Node} (moved : StandbyProceeds state after)
    (timely : standbyInTime pool state .standbyProceeds = true) (held : Suited pool state) :
    Suited pool after := by
  have goesOn (race : StandbyRace Node)
      (winner : race.winner = state.standbyRace.winner ∨ race.winner = none) :
      Suited pool { state with standbyRace := race } :=
    held.keeps rfl rfl rfl rfl winner rfl (Or.inl rfl) (Or.inl rfl)
  cases moved with
  | looks at_ next =>
      apply goesOn
      rcases next with rfl | ⟨active, rfl⟩ <;> exact Or.inr rfl
  | pools => exact goesOn _ (Or.inr rfl)
  | races at_ next_ =>
      apply goesOn
      rcases next_ with rfl | rfl <;> exact Or.inr rfl
  | checks at_ next_ =>
      apply goesOn
      rcases next_ with rfl | rfl
      · exact Or.inl (congrArg StandbyRace.winner at_).symm
      · exact Or.inr rfl
  | keeps at_ =>
      rename_i race winner
      rw [standbyInTime, at_] at timely
      obtain ⟨own, notActive, current, notComing⟩ := of_takes timely
      refine ⟨?_, nofun⟩
      intro node stored
      obtain rfl := Option.some.inj stored
      have answered := held.found winner (congrArg StandbyRace.winner at_)
      exact ⟨⟨own, answered, notActive, current⟩, notComing⟩

theorem next_suited (source : Manager Node) (label : Label Node) (target : Manager Node)
    (taken : Restrict (ofNext (next pool)) (fun state label => standbyInTime pool state label) source
      label target)
    (held : Suited pool source) : Suited pool target := by
  obtain ⟨taken, timely⟩ := taken
  cases turn_of_next taken with
  | connect | rotate | stopLatches | stopCaptures =>
      exact held.keeps rfl rfl rfl rfl (Or.inl rfl) rfl (Or.inl rfl) (Or.inl rfl)
  | enter at_ found =>
      rename_i index call
      cases call with
      | start session kind =>
          rw [standbyInTime, found] at timely
          refine ⟨?_, held.found⟩
          intro node stored
          change source.standbyNode = some node at stored
          have suits := (held.standby node stored).1
          rw [stored] at timely
          obtain ⟨own, byStart⟩ := Bool.and_eq_true_iff.mp timely
          refine ⟨⟨own, suits.answered, suits.notActive, ?_⟩, nofun⟩
          intro session by_
          cases (eq_of_beq byStart).symm.trans by_
      | rotate => exact held.keeps rfl rfl rfl rfl (Or.inl rfl) rfl (Or.inl rfl) (Or.inr rfl)
  | proceed moved => exact proceeds_suited moved held
  | raceEnds at_ ended =>
      have answered := List.all_eq_true.mp ended
      refine held.stores _ ?_ fun _ found => Or.inr found
      intro node second
      rw [standbyInTime, second, Option.all_some, Bool.and_eq_true] at timely
      refine ⟨answered node (List.mem_of_getElem? second), ?_, nofun, ?_⟩
      · exact notActive_of_all (fun other => other != node) timely.2
          (bne_self_eq_false node)
      · rw [Pc.target, raced_target]
        exact bne_iff_ne.mp timely.1
  | raceAborts | noMoreSlices =>
      exact held.keeps rfl rfl rfl rfl (Or.inl rfl) rfl (Or.inl rfl) (Or.inr rfl)
  | attemptFails failed => exact fails_suited failed held
  | cleanup cleans => exact cleansUp_suited cleans held
  | standbyProceeds moved => exact standbyProceeds_suited moved timely held
  | standbyRaceEnds at_ =>
      rename_i answers race _ _
      rw [standbyInTime, at_] at timely
      refine held.stores source.pc ?_ ?_
      · intro node second
        apply of_takes
        rw [second] at timely
        exact timely
      · intro winner found
        left
        apply List.mem_of_mem_head?
        rw [← raced_winner race answers.head?, found]
        rfl
  | standbyRaceAborts =>
      exact held.keeps rfl rfl rfl rfl (Or.inr rfl) rfl (Or.inl rfl) (Or.inl rfl)

end MolidoVpn.Shard
