import MolidoVpn.Lib.Numbered
import MolidoVpn.Shard.Aims

/-!
What is up when a `stop` returns is lowered by its clean-up; with this, a `stop` of the user
keeps what it promises over every run in which it comes in time.
-/

namespace MolidoVpn.Shard

open History (every_nil)
open Numbered (mem_set_of_ne)
open Transition (Run ofNext Restrict execute run_of_execute executeChecked run_of_executeChecked)

universe u

variable {Node : Type u}

/-- Before its write to `running`. -/
def CleanupStage.early : CleanupStage → Bool
  | .compare | .drop | .running => true
  | .activeNode | .done => false

/-- What a `stop` has found up is still to be lowered by a clean-up. -/
def Pending (state : Manager Node) : Prop :=
  stoppedBy state.history = true → state.running ≠ none →
    ∃ cleanup ∈ state.cleanups, cleanup.stage.early = true

/-- A step that raises nothing and leaves the clean-ups and the user's word alone. -/
theorem Pending.of_unchanged {state after : Manager Node} (held : Pending state)
    (stopped : stoppedBy after.history = stoppedBy state.history)
    (cleanups : after.cleanups = state.cleanups)
    (running : after.running = state.running ∨ after.running = none) : Pending after := by
  intro stoppedAfter up
  rw [cleanups]
  apply held (stopped.symm.trans stoppedAfter)
  rcases running with same | down
  · rw [← same]
    exact up
  · exact absurd down up

/-- What the call that holds the lock can do to what a `stop` reads and waits for. -/
theorem proceeds_cases {state after : Manager Node} (moved : Proceeds state after) :
    after.cleanups = state.cleanups ∧ stoppedBy after.history = stoppedBy state.history ∧
      (after.running = state.running ∨ after.running = none ∨
        ∃ launcher target, state.pc = .listening launcher target) := by
  cases moved with
  | comesUp at_ => exact ⟨rfl, stoppedBy_snoc _ _, Or.inr (Or.inr ⟨_, _, at_⟩)⟩
  | launches => exact ⟨rfl, stoppedBy_snoc _ _, Or.inl rfl⟩
  | killsRunning => exact ⟨rfl, rfl, Or.inr (Or.inl rfl)⟩
  | _ => exact ⟨rfl, rfl, Or.inl rfl⟩

/-- A clean-up goes on and still has `running` before it. -/
theorem Pending.setCleanup {state : Manager Node} (held : Pending state) {index : Nat}
    {cleanup : Cleanup} (found : state.cleanups[index]? = some cleanup) (stage : CleanupStage)
    (early : cleanup.stage.early = true → stage.early = true) :
    Pending (state.setCleanup index cleanup stage) := by
  intro stopped up
  obtain ⟨other, member, otherEarly⟩ := held stopped up
  by_cases same : other = cleanup
  · subst same
    obtain ⟨within, _⟩ := List.getElem?_eq_some_iff.mp found
    exact ⟨_, List.mem_set within _, early otherEarly⟩
  · exact ⟨other, mem_set_of_ne found member same, otherEarly⟩

theorem recordCleared_stopped (state : Manager Node) (aim : Nat) (session : Option Nat) :
    stoppedBy (state.recordCleared aim session).history = stoppedBy state.history := by
  cases session with
  | none => rfl
  | some session => exact stoppedBy_snoc _ _

theorem cleansUp_pending {state after : Manager Node} {index : Nat}
    (cleans : CleansUp state index after) (held : Pending state) : Pending after := by
  cases cleans with
  | compares found at_ next =>
      apply held.setCleanup found
      intro _
      rcases next with rfl | rfl <;> rfl
  | drops found => exact held.setCleanup found .running fun _ => rfl
  | lowersRunning =>
      intro _ up
      exact absurd rfl up
  | lowersActiveNode found at_ =>
      have set_ := held.setCleanup found .done (by rw [at_]; exact id)
      apply set_.of_unchanged
      · exact recordCleared_stopped _ _ _
      · cases state.activeNode <;> rfl
      · cases state.activeNode <;> exact Or.inl rfl

theorem fails_pending {state after : Manager Node} {again : Bool}
    (failed : Fails state again after) (held : Pending state) : Pending after := by
  cases failed with
  | startLaunched =>
      intro stopped up
      obtain ⟨cleanup, member, early⟩ := held stopped up
      exact ⟨cleanup, List.mem_append_left _ member, early⟩
  | start | switch | switchLaunched => exact held

section Runs

variable [DecidableEq Node] {pool : Kind → Node → Bool}

theorem next_pending (source : Manager Node) (label : Label Node) (target : Manager Node)
    (taken : ofNext (next pool) source label target) (latched : Latched source)
    (held : Pending source) : Pending target := by
  cases turn_of_next taken with
  | connect =>
      intro stopped
      cases (stoppedBy_snoc source.history .connect).symm.trans stopped
  | rotate | stopLatches => exact held
  | enter =>
      rename_i call _ _
      cases call <;> exact held
  | proceed moved =>
      obtain ⟨cleanups, stopped, running⟩ := proceeds_cases moved
      rcases running with same | down | ⟨launcher, tunnel, pc⟩
      · exact held.of_unchanged stopped cleanups (Or.inl same)
      · exact held.of_unchanged stopped cleanups (Or.inr down)
      · intro stoppedAfter
        have harmless := latched.harmless (stopped.symm.trans stoppedAfter)
        rw [pc] at harmless
        cases harmless
  | raceEnds | raceAborts | noMoreSlices => exact held
  | attemptFails failed => exact fails_pending failed held
  | stopCaptures =>
      intro _ _
      exact ⟨_, List.mem_append_right _ (List.mem_singleton_self _), rfl⟩
  | cleanup cleans => exact cleansUp_pending cleans held
  | standbyProceeds moved => cases moved <;> exact held
  | standbyRaceEnds | standbyRaceAborts => exact held

/-- As long as no flag is cleared against a `stop`, no `stop` comes behind the last look at it and
no session comes up under an older clean-up, a `stop` lets no tunnel come up and takes none
of a later session down. -/
theorem stops_of_inTime {labels : List (Label Node)} {state : Manager Node}
    (run : Run (Restrict (ofNext (next pool)) (fun state label => inTime state label))
      (Manager.initial Node) labels state) : Stops state := by
  have held : (Latched state ∧ Aims state) ∧ Pending state := by
    apply run.invariant fun state => (Latched state ∧ Aims state) ∧ Pending state
    · intro source label target taken held
      exact ⟨⟨next_latched source label target taken held.1.1,
        next_aims source label target taken held.1.2⟩,
        next_pending source label target taken.1 held.1.1 held.2⟩
    · refine ⟨⟨⟨?_, nofun, every_nil⟩, ?_⟩, nofun⟩
      · rintro (impossible | impossible) <;> cases impossible
      · exact
          { session := Nat.le_refl _
            waiting := nofun
            running := nofun
            activeNode := nofun
            marks := nofun
            runningDown := nofun
            activeDown := nofun
            aimed := nofun }
  obtain ⟨⟨latched, aims⟩, pending⟩ := held
  refine ⟨latched.askedFor, ?_, aims.aimed⟩
  intro stopped finished
  by_contra up
  obtain ⟨cleanup, member, early⟩ := pending stopped up
  rw [finished cleanup member] at early
  cases early

end Runs

/-- A connect that comes up, and a `stop` whose clean-up is over. -/
theorem stops_of_inTime_after_stop :
    ∃ state : Manager Nat, stoppedBy state.history = true ∧ Stops state :=
  ⟨_, rfl, @stops_of_inTime Nat _ (fun _ _ => true)
    (List.flatten [[.connect .shard, .enter 0], List.replicate 3 .proceed, [.raceEnds [1, 2]],
      List.replicate 9 .proceed, [.stopLatches, .stopCaptures], List.replicate 4 (.cleanup 0)])
    _ (run_of_executeChecked rfl)⟩

/-- `rotate` has the lock when the user stops: `start` clears the flag and the session is back. -/
theorem stop_lost :
    ¬ ∀ (labels : List (Label Nat)) (state : Manager Nat),
      Run (ofNext (next fun _ _ => true)) (Manager.initial Nat) labels state → Stops state := by
  intro always
  have reached : (execute (next fun _ _ => true) (Manager.initial Nat) (List.flatten
      [[.connect .shard, .enter 0], List.replicate 3 .proceed, [.raceEnds [1]],
        List.replicate 9 .proceed, [.rotate, .enter 0, .stopLatches, .stopCaptures],
        List.replicate 4 (.cleanup 0), List.replicate 3 .proceed, [.raceEnds [2]],
        List.replicate 9 .proceed])).map (fun state => (stoppedBy state.history,
          state.cleanups.all fun cleanup => cleanup.stage == .done, state.running)) =
      some (true, true, some 1) := by decide +kernel
  obtain ⟨state, executed, observed⟩ := Option.map_eq_some_iff.mp reached
  rw [Prod.mk.injEq, Prod.mk.injEq] at observed
  obtain ⟨stopped, finished, up⟩ := observed
  have down := (always _ state (run_of_execute executed)).down stopped
    fun cleanup member => eq_of_beq (List.all_eq_true.mp finished cleanup member)
  cases down.symm.trans up

end MolidoVpn.Shard
