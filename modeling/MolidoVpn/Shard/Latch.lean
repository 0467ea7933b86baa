import MolidoVpn.Lib.History
import MolidoVpn.Shard.Turns

/-!
What a `stop` of the user promises, when it comes in time for that, and its flag: as long as
no connect follows, the flag stays and no call is past its last look at it.
-/

namespace MolidoVpn.Shard

open History (Every)
open Transition (ofNext Restrict)

universe u

variable {Node : Type u}

/-- Whether a `stop` is the last word of the user after this event. -/
def Event.stopped (before : Bool) : Event → Bool
  | .connect => false
  | .stop => true
  | .launched | .up | .cleared _ _ => before

/-- A `stop` has returned and the user has not connected since. -/
def stoppedBy (history : List Event) : Bool := history.foldl Event.stopped false

/-- No tunnel is launched and none is up that a `stop` has ended. -/
def AskedFor (before : List Event) (event : Event) : Prop :=
  event = .launched ∨ event = .up → stoppedBy before = false

/-- A clean-up clears nothing of a session that came after its `stop`. -/
def Aimed (event : Event) : Prop :=
  ∀ aim session, event = .cleared aim session → session ≤ aim

/-- What a `stop` promises; what it has found up is down as soon as its clean-up is over. -/
structure Stops (state : Manager Node) : Prop where
  askedFor : Every AskedFor state.history
  down : stoppedBy state.history = true →
    (∀ cleanup ∈ state.cleanups, cleanup.stage = .done) → state.running = none
  aimed : ∀ event ∈ state.history, Aimed event

/-- Where a call does not bring a tunnel up without another look at the flag. -/
def Pc.harmless (killed : List Nat) : Pc Node → Bool
  | .committed _ _ | .spawned _ _ _ | .listening _ _ => false
  | .awaiting _ _ process => killed.contains process
  | .kill _ resume => resume.harmless killed
  | _ => true

/-- Where the process that a call waits for is the one that `stop` would find. -/
def Pc.findable (found : Option Nat) : Pc Node → Bool
  | .committed _ _ | .spawned _ _ _ | .listening _ _ => false
  | .awaiting _ _ process => found == some process
  | .kill _ resume => resume.findable found
  | _ => true

/-- The flag of a `stop` is cleared only for a later connect, `stop` does not come between the last
look at the flag and the moment it has effect, and no session comes up while the clean-up
of an earlier one is under way. -/
def inTime (state : Manager Node) : Label Node → Bool
  | .stopCaptures => state.pc.findable state.process
  | .proceed =>
      match state.pc with
      | .unlatch _ => state.stopping == 0 && !stoppedBy state.history
      | .listening _ _ =>
          state.cleanups.all fun cleanup => cleanup.stage == .done || state.session ≤ cleanup.aim
      | _ => true
  | _ => true

theorem stoppedBy_snoc (history : List Event) (event : Event) :
    stoppedBy (history ++ [event]) = event.stopped (stoppedBy history) := by
  rw [stoppedBy, List.foldl_append]
  rfl

theorem harmless_append {killed : List Nat} (more : List Nat) {pc : Pc Node}
    (harmless : pc.harmless killed = true) : pc.harmless (more ++ killed) = true := by
  induction pc with
  | committed launcher target | spawned launcher target process | listening launcher target =>
      cases harmless
  | awaiting launcher target process =>
      apply List.contains_iff_mem.mpr
      exact List.mem_append_right more (List.contains_iff_mem.mp harmless)
  | kill stage resume ih => exact ih harmless
  | _ => rfl

/-- A process that `stop` finds is killed, and the call that waits for it with it. -/
theorem harmless_of_findable {found : Option Nat} {pc : Pc Node} (killed : List Nat)
    (findable : pc.findable found = true) :
    pc.harmless (found.toList ++ killed) = true := by
  induction pc with
  | committed launcher target | spawned launcher target process | listening launcher target =>
      cases findable
  | awaiting launcher target process =>
      obtain rfl := eq_of_beq findable
      exact List.contains_iff_mem.mpr List.mem_cons_self
  | kill stage resume ih => exact ih findable
  | _ => rfl

/-- As long as no connect follows a `stop`, its flag stays and no call is past it. -/
structure Latched (state : Manager Node) : Prop where
  latched : 0 < state.stopping ∨ stoppedBy state.history = true →
    state.stopRequestedDuringStart = true
  harmless : stoppedBy state.history = true → state.pc.harmless state.killed = true
  askedFor : Every AskedFor state.history

theorem Latched.goTo {state : Manager Node} (held : Latched state) {pc : Pc Node}
    (harmless : stoppedBy state.history = true → pc.harmless state.killed = true) :
    Latched (state.goTo pc) :=
  ⟨held.latched, harmless, held.askedFor⟩

/-- An event that neither connects nor stops. -/
theorem Latched.record {state : Manager Node} (held : Latched state) (event : Event)
    (same : stoppedBy (state.history ++ [event]) = stoppedBy state.history)
    (askedFor : AskedFor state.history event) : Latched (state.record event) where
  latched := by
    change 0 < state.stopping ∨ stoppedBy (state.history ++ [event]) = true → _
    rw [same]
    exact held.latched
  harmless := by
    change stoppedBy (state.history ++ [event]) = true → _
    rw [same]
    exact held.harmless
  askedFor := held.askedFor.snoc askedFor

theorem fails_latched {state after : Manager Node} {again : Bool}
    (failed : Fails state again after) (held : Latched state) : Latched after := by
  have quiet (target : Node) (killed : List Nat) :
      Pc.harmless killed (if again then Pc.ready target else .idle) = true := by
    cases again <;> rfl
  cases failed with
  | start => exact held.goTo fun _ => quiet _ _
  | switch => exact held.goTo fun _ => rfl
  | startLaunched => exact ⟨fun _ => rfl, fun _ => quiet _ _, held.askedFor⟩
  | switchLaunched => exact held.goTo fun _ => rfl

private theorem recordCleared_latched {state : Manager Node} (held : Latched state) (aim : Nat)
    (session : Option Nat) : Latched (state.recordCleared aim session) := by
  cases session with
  | none => exact held
  | some session =>
      apply held.record _ (stoppedBy_snoc _ _)
      rintro (impossible | impossible) <;> cases impossible

theorem cleansUp_latched {state after : Manager Node} {index : Nat}
    (cleans : CleansUp state index after) (held : Latched state) : Latched after := by
  have set_ (cleanup : Cleanup) (stage : CleanupStage) :
      Latched (state.setCleanup index cleanup stage) :=
    ⟨held.latched, held.harmless, held.askedFor⟩
  cases cleans with
  | compares => exact set_ _ _
  | drops => exact ⟨held.latched, held.harmless, held.askedFor⟩
  | lowersRunning =>
      rename_i cleanup _ _
      have recorded := recordCleared_latched (set_ cleanup .activeNode) cleanup.aim state.running
      exact ⟨recorded.latched, recorded.harmless, recorded.askedFor⟩
  | lowersActiveNode =>
      rename_i cleanup _ _
      have recorded := recordCleared_latched (set_ cleanup .done) cleanup.aim
        (state.activeNode.map Prod.fst)
      exact ⟨recorded.latched, recorded.harmless, recorded.askedFor⟩

theorem proceeds_latched {state after : Manager Node} (moved : Proceeds state after)
    (timely : inTime state .proceed = true) (held : Latched state) : Latched after := by
  have quiet := held.harmless
  have asked : state.pc.harmless state.killed = false → stoppedBy state.history = false := by
    intro harmful
    apply Bool.eq_false_iff.mpr
    intro stopped
    rw [quiet stopped] at harmful
    cases harmful
  have free {standby : Option Node} (at_ : state.pc = .unlatch standby) :
      ¬ (0 < state.stopping ∨ stoppedBy state.history = true) := by
    rw [inTime, at_, Bool.and_eq_true, beq_iff_eq, Bool.not_eq_true'] at timely
    rintro (calls | stopped)
    · omega
    · rw [timely.2] at stopped
      cases stopped
  cases moved with
  | enters | probes | refreshes | staysOn | switches =>
      exact ⟨held.latched, fun _ => rfl, held.askedFor⟩
  | unlatches at_ => exact ⟨fun either => absurd either (free at_), fun _ => rfl, held.askedFor⟩
  | unlatchesFor at_ =>
      exact ⟨fun either => absurd either (free at_),
        fun stopped => absurd (Or.inr stopped) (free at_), held.askedFor⟩
  | endsSlices | endsReady | findsNoStandby | findsStandby => exact held.goTo fun _ => rfl
  | killsRunning at_ | killsActiveNode at_ =>
      rw [at_] at quiet
      exact ⟨held.latched, quiet, held.askedFor⟩
  | killsProcess at_ =>
      rw [at_] at quiet
      exact ⟨held.latched, fun stopped => harmless_append _ (quiet stopped), held.askedFor⟩
  | commits at_ unlatched =>
      exact held.goTo fun stopped => absurd (held.latched (Or.inr stopped)) unlatched
  | launches at_ =>
      rw [at_] at asked
      have recorded := held.record .launched (stoppedBy_snoc _ _) fun _ => asked rfl
      refine ⟨recorded.latched, fun stopped => ?_, recorded.askedFor⟩
      rw [Manager.record, stoppedBy_snoc, asked rfl] at stopped
      cases stopped
  | spawns at_ =>
      rw [at_] at asked
      refine ⟨held.latched, fun stopped => ?_, held.askedFor⟩
      rw [asked rfl] at stopped
      cases stopped
  | listens at_ alive =>
      rename_i launcher target process
      rw [at_] at quiet
      apply held.goTo
      intro stopped
      have dead : state.killed.contains process = true := quiet stopped
      rw [Manager.isAlive, dead] at alive
      cases alive
  | comesUp at_ =>
      rw [at_] at asked
      have recorded := held.record .up (stoppedBy_snoc _ _) fun _ => asked rfl
      exact ⟨recorded.latched, fun _ => rfl, recorded.askedFor⟩
  | marks at_ =>
      rename_i launcher target
      refine ⟨held.latched, fun _ => ?_, held.askedFor⟩
      cases launcher <;> rfl

variable [DecidableEq Node] {pool : Kind → Node → Bool}

theorem next_latched (source : Manager Node) (label : Label Node) (target : Manager Node)
    (taken : Restrict (ofNext (next pool)) (fun state label => inTime state label) source label
      target)
    (held : Latched source) : Latched target := by
  obtain ⟨taken, timely⟩ := taken
  cases turn_of_next taken with
  | connect kind =>
      have none_ := stoppedBy_snoc source.history .connect
      refine ⟨?_, ?_, held.askedFor.snoc ?_⟩
      · rintro (calls | stopped)
        · exact held.latched (Or.inl calls)
        · cases none_.symm.trans stopped
      · intro stopped
        cases none_.symm.trans stopped
      · rintro (impossible | impossible) <;> cases impossible
  | rotate => exact ⟨held.latched, held.harmless, held.askedFor⟩
  | enter =>
      rename_i call _ _
      cases call <;> exact ⟨held.latched, fun _ => rfl, held.askedFor⟩
  | proceed moved => exact proceeds_latched moved timely held
  | raceEnds =>
      rename_i answers _ _
      refine ⟨held.latched, fun _ => ?_, held.askedFor⟩
      change Pc.harmless _ (Pc.raced answers.head?) = true
      cases answers.head? <;> rfl
  | raceAborts | noMoreSlices => exact held.goTo fun _ => rfl
  | attemptFails failed => exact fails_latched failed held
  | stopLatches => exact ⟨fun _ => rfl, held.harmless, held.askedFor⟩
  | stopCaptures calls =>
      refine ⟨fun _ => held.latched (Or.inl calls), fun _ => ?_, held.askedFor.snoc ?_⟩
      · exact harmless_of_findable source.killed timely
      · rintro (impossible | impossible) <;> cases impossible
  | cleanup cleans => exact cleansUp_latched cleans held
  | standbyProceeds moved => cases moved <;> exact ⟨held.latched, held.harmless, held.askedFor⟩
  | standbyRaceEnds | standbyRaceAborts => exact ⟨held.latched, held.harmless, held.askedFor⟩

end MolidoVpn.Shard
