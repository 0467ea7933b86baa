import Mathlib.Logic.Function.Basic
import MolidoVpn.Desktop.Callers

/-!
Runs of `_connect` in the desktop controller. `connect` looks at the state before it awaits the
remote configuration, and says that it runs only after it; two callers that are in between at
once both start a run.
-/

namespace MolidoVpn.Desktop

open Cooperative
open Transition (Run ofNext Restrict execute run_of_execute executeChecked run_of_executeChecked)

/-- At most one run is in progress, and each one was started from the state disconnected with
none in progress. -/
structure OneRun (c : Controller) : Prop where
  running : c.running.length ≤ 1
  starts : ∀ started ∈ c.starts, started.state = .disconnected ∧ started.running = []

/-- The step makes a caller of `connect` look at the state: one that finds no earlier run, or one
that has waited for it. -/
def LooksAtState (c : Controller) (origin : Origin controllerSignature) : Prop :=
  CallsConnect c origin ∧ c.connectRun = none ∨
    ∃ previous, origin = .site (.previousRun previous)

/-- A caller of `connect` looks at the state only while no other one is between its own look and
its run, and only once no later run than the one it has waited for is in progress. -/
def Undisturbed (outline : Outline controllerSignature)
    (origin : Origin controllerSignature) : Prop :=
  LooksAtState outline.state origin →
    some .remoteConfig ∉ outline.places ∧
      ((∃ previous, origin = .site (.previousRun previous)) → outline.state.running = [])

/-- How far the program of this number has come in `connect`. -/
def stageAt (places : List (Option Site)) (task : Nat) : Stage :=
  match places[task]? with
  | some place => stageOfPlace place
  | none => .outside

theorem stageAt_append (places : List (Option Site)) (place : Option Site) :
    stageAt (places ++ [place]) =
      Function.update (stageAt places) places.length (stageOfPlace place) := by
  funext task
  rcases lt_trichotomy task places.length with less | rfl | more
  · rw [Function.update_of_ne (Nat.ne_of_lt less), stageAt, stageAt,
      List.getElem?_append_left less]
  · rw [Function.update_self, stageAt, List.getElem?_concat_length]
  · rw [Function.update_of_ne (Nat.ne_of_gt more), stageAt, stageAt,
      List.getElem?_eq_none (Nat.le_of_lt more), List.getElem?_eq_none]
    rw [List.length_append, List.length_singleton]
    exact more

theorem stageAt_set {places : List (Option Site)} {task : Nat} (place : Option Site)
    (here : task < places.length) :
    stageAt (places.set task place) =
      Function.update (stageAt places) task (stageOfPlace place) := by
  funext other
  by_cases same : other = task
  · subst same
    rw [Function.update_self, stageAt, List.getElem?_set_self here]
  · rw [Function.update_of_ne same, stageAt, stageAt,
      List.getElem?_set_ne (fun equal => same equal.symm)]

theorem not_checked {places : List (Option Site)} (none_ : some .remoteConfig ∉ places)
    (task : Nat) : stageAt places task ≠ .checked := by
  intro checked
  rw [stageAt] at checked
  cases found : places[task]? with
  | none =>
      rw [found] at checked
      cases checked
  | some place =>
      rw [found] at checked
      cases place with
      | none => cases checked
      | some site =>
          cases site with
          | remoteConfig => exact none_ (List.mem_of_getElem? found)
          | _ => cases checked

/-- The runs, the state and the stages of all programs fit together. -/
structure Orderly (c : Controller) (stages : Nat → Stage) : Prop where
  fresh : ∀ run, c.connectRun = some run → run < c.nextRun
  one : c.running = [] ∨ ∃ run, c.running = [run] ∧ c.connectRun = some run
  attempts : ∀ task run, stages task = .running run → c.running = [run]
  alone : ∀ task other run run', stages task = .running run → stages other = .running run' →
    task = other
  checked : ∀ task, stages task = .checked → c.running = [] ∧ c.state = .disconnected
  window : ∀ task other, stages task = .checked → stages other = .checked → task = other
  ended : ∀ task run, stages task = .ended run → run < c.nextRun ∧ c.running ≠ [run]
  starts : ∀ started ∈ c.starts, started.state = .disconnected ∧ started.running = []

theorem Orderly.oneRun {c : Controller} {stages : Nat → Stage} (orderly : Orderly c stages) :
    OneRun c := by
  refine ⟨?_, orderly.starts⟩
  rcases orderly.one with none_ | ⟨run, one, _⟩
  · rw [none_]
    exact Nat.zero_le _
  · rw [one]
    exact Nat.le_refl _

section Moves

variable {before after : Controller} {stages : Nat → Stage} {task : Nat}

/-- A stage of a caller that neither is between its look and its run nor has a run. -/
def Stage.Plain : Stage → Prop
  | outside => True
  | waiting _ => True
  | _ => False

/-- After a step a program is at the stage that it has just come to, or where it was. -/
theorem of_update {stage target : Stage} {other : Nat}
    (at_ : Function.update stages task stage other = target) :
    other = task ∧ stage = target ∨ other ≠ task ∧ stages other = target := by
  by_cases same : other = task
  · subst same
    rw [Function.update_self] at at_
    exact Or.inl ⟨rfl, at_⟩
  · rw [Function.update_of_ne same] at at_
    exact Or.inr ⟨same, at_⟩

theorem of_update_plain {stage target : Stage} {other : Nat} (plain : stage.Plain)
    (at_ : Function.update stages task stage other = target) (busy : ¬target.Plain) :
    stages other = target := by
  rcases of_update at_ with ⟨_, same⟩ | ⟨_, old⟩
  · exact absurd (same ▸ plain) busy
  · exact old

theorem Orderly.plain {stage : Stage} (orderly : Orderly before stages) (plain : stage.Plain)
    (running : after.running = before.running) (starts : after.starts = before.starts)
    (number : after.nextRun = before.nextRun)
    (known : ∀ run, after.connectRun = some run → before.connectRun = some run)
    (kept : ∀ run, before.running = [run] → before.connectRun = some run →
      after.connectRun = some run)
    (stays : before.state = .disconnected → after.state = .disconnected) :
    Orderly after (Function.update stages task stage) := by
  constructor
  · intro run some_
    rw [number]
    exact orderly.fresh run (known run some_)
  · rw [running]
    rcases orderly.one with none_ | ⟨run, one, some_⟩
    · exact Or.inl none_
    · exact Or.inr ⟨run, one, kept run one some_⟩
  · intro other run at_
    rw [running]
    exact orderly.attempts other run (of_update_plain plain at_ id)
  · intro other third run run' first second
    exact orderly.alone other third run run' (of_update_plain plain first id)
      (of_update_plain plain second id)
  · intro other at_
    have old := orderly.checked other (of_update_plain plain at_ id)
    rw [running]
    exact ⟨old.1, stays old.2⟩
  · intro other third first second
    exact orderly.window other third (of_update_plain plain first id)
      (of_update_plain plain second id)
  · intro other run at_
    rw [running, number]
    exact orderly.ended other run (of_update_plain plain at_ id)
  · rw [starts]
    exact orderly.starts

theorem Orderly.same {stage : Stage} (orderly : Orderly before stages) (plain : stage.Plain)
    (same : after.runs = before.runs)
    (stays : before.state = .disconnected → after.state = .disconnected) :
    Orderly after (Function.update stages task stage) := by
  have connectRun : after.connectRun = before.connectRun := congrArg Runs.connectRun same
  exact orderly.plain plain (congrArg Runs.running same) (congrArg Runs.starts same)
    (congrArg Runs.nextRun same) (fun run some_ => connectRun ▸ some_)
    (fun run _ some_ => connectRun ▸ some_) stays

theorem Orderly.forgets {run : Nat} (orderly : Orderly before stages)
    (here : stages task = .ended run) (forgot : after.runs = before.runs.forget run)
    (stays : before.state = .disconnected → after.state = .disconnected) :
    Orderly after (Function.update stages task .outside) := by
  have connectRun : after.connectRun =
      if before.connectRun = some run then none else before.connectRun :=
    congrArg Runs.connectRun forgot
  have outside : Stage.outside.Plain := trivial
  apply orderly.plain outside (congrArg Runs.running forgot) (congrArg Runs.starts forgot)
    (congrArg Runs.nextRun forgot) _ _ stays
  · intro other some_
    rw [connectRun] at some_
    split at some_
    · cases some_
    · exact some_
  · intro other one some_
    rw [connectRun, if_neg]
    · exact some_
    · intro same
      rw [some_, Option.some.injEq] at same
      subst same
      exact (orderly.ended task _ here).2 one

theorem Orderly.checks (orderly : Orderly before stages) (same : after.runs = before.runs)
    (none_ : before.running = []) (disconnected : after.state = .disconnected)
    (nobody : ∀ other, stages other ≠ .checked) :
    Orderly after (Function.update stages task .checked) := by
  have running : after.running = [] := (congrArg Runs.running same).trans none_
  have busy {other run : Nat} (at_ : Function.update stages task .checked other = .running run) :
      False := by
    rcases of_update at_ with ⟨rfl, now⟩ | ⟨same, earlier⟩
    · cases now
    · have one := orderly.attempts other run earlier
      rw [none_] at one
      cases one
  have only {other : Nat} (at_ : Function.update stages task .checked other = .checked) :
      other = task := by
    by_contra different
    rw [Function.update_of_ne different] at at_
    exact nobody other at_
  constructor
  · intro run some_
    have number : after.nextRun = before.nextRun := congrArg Runs.nextRun same
    rw [number]
    exact orderly.fresh run ((congrArg Runs.connectRun same).symm.trans some_)
  · exact Or.inl running
  · exact fun other run at_ => (busy at_).elim
  · exact fun other third run run' first second => (busy first).elim
  · exact fun other _ => ⟨running, disconnected⟩
  · exact fun other third first second => (only first).trans (only second).symm
  · intro other run at_
    rcases of_update at_ with ⟨rfl, now⟩ | ⟨here, earlier⟩
    · cases now
    · have old := orderly.ended other run earlier
      have number : after.nextRun = before.nextRun := congrArg Runs.nextRun same
      rw [number, running]
      exact ⟨old.1, (List.cons_ne_nil _ _).symm⟩
  · have starts : after.starts = before.starts := congrArg Runs.starts same
    rw [starts]
    exact orderly.starts

theorem Orderly.continues {run : Nat} (orderly : Orderly before stages)
    (here : stages task = .running run) (same : after.runs = before.runs) :
    Orderly after (Function.update stages task (.running run)) := by
  have one := orderly.attempts task run here
  rw [← here, Function.update_eq_self]
  have running : after.running = before.running := congrArg Runs.running same
  have connectRun : after.connectRun = before.connectRun := congrArg Runs.connectRun same
  have number : after.nextRun = before.nextRun := congrArg Runs.nextRun same
  have starts : after.starts = before.starts := congrArg Runs.starts same
  constructor
  · rw [connectRun, number]
    exact orderly.fresh
  · rw [running, connectRun]
    exact orderly.one
  · rw [running]
    exact orderly.attempts
  · exact orderly.alone
  · intro other at_
    have none_ := (orderly.checked other at_).1
    rw [one] at none_
    cases none_
  · exact orderly.window
  · rw [running, number]
    exact orderly.ended
  · rw [starts]
    exact orderly.starts

theorem Orderly.begins (orderly : Orderly before stages) (none_ : before.running = [])
    (begun : after.runs = before.runs.begin .disconnected)
    (nobody : ∀ other, other ≠ task → stages other ≠ .checked) :
    Orderly after (Function.update stages task (.running before.nextRun)) := by
  have running : after.running = [before.nextRun] := by
    have new : after.running = before.running ++ [before.nextRun] := congrArg Runs.running begun
    rw [new, none_]
    rfl
  have number : after.nextRun = before.nextRun + 1 := congrArg Runs.nextRun begun
  have connectRun : after.connectRun = some before.nextRun := congrArg Runs.connectRun begun
  have only {other run : Nat}
      (at_ : Function.update stages task (.running before.nextRun) other = .running run) :
      other = task ∧ run = before.nextRun := by
    rcases of_update at_ with ⟨rfl, now⟩ | ⟨same, earlier⟩
    · cases now
      exact ⟨rfl, rfl⟩
    · have one := orderly.attempts other run earlier
      rw [none_] at one
      cases one
  have free {other : Nat}
      (at_ : Function.update stages task (.running before.nextRun) other = .checked) : False := by
    rcases of_update at_ with ⟨rfl, now⟩ | ⟨same, earlier⟩
    · cases now
    · exact nobody other same earlier
  constructor
  · intro run some_
    rw [connectRun] at some_
    cases some_
    omega
  · exact Or.inr ⟨before.nextRun, running, connectRun⟩
  · intro other run at_
    rw [running, (only at_).2]
  · exact fun other third run run' first second => (only first).1.trans (only second).1.symm
  · exact fun other at_ => (free at_).elim
  · exact fun other third first second => (free first).elim
  · intro other run at_
    rcases of_update at_ with ⟨rfl, now⟩ | ⟨same, earlier⟩
    · cases now
    · have old := orderly.ended other run earlier
      rw [running]
      refine ⟨by omega, ?_⟩
      intro equal
      rw [List.cons.injEq] at equal
      omega
  · intro started member
    have starts : after.starts = before.starts ++ [⟨.disconnected, before.running⟩] :=
      congrArg Runs.starts begun
    rw [starts] at member
    rcases List.mem_append.mp member with old | new
    · exact orderly.starts started old
    · rw [List.mem_singleton.mp new]
      exact ⟨rfl, none_⟩

theorem Orderly.completes {run : Nat} (orderly : Orderly before stages)
    (here : stages task = .running run) (done : after.runs = before.runs.complete run) :
    Orderly after (Function.update stages task (.ended run)) := by
  have one := orderly.attempts task run here
  have running : after.running = [] := by
    have rest : after.running = before.running.erase run := congrArg Runs.running done
    rw [rest, one, List.erase_cons_head]
  have connectRun : after.connectRun = before.connectRun := congrArg Runs.connectRun done
  have number : after.nextRun = before.nextRun := congrArg Runs.nextRun done
  have known : run < before.nextRun := by
    rcases orderly.one with none_ | ⟨other, same, some_⟩
    · rw [one] at none_
      cases none_
    · rw [one, List.cons.injEq] at same
      rw [same.1]
      exact orderly.fresh other some_
  have busy {other run' : Nat}
      (at_ : Function.update stages task (.ended run) other = .running run') : False := by
    rcases of_update at_ with ⟨rfl, now⟩ | ⟨same, earlier⟩
    · cases now
    · exact same (orderly.alone other task run' run earlier here)
  have free {other : Nat} (at_ : Function.update stages task (.ended run) other = .checked) :
      False := by
    rcases of_update at_ with ⟨rfl, now⟩ | ⟨same, earlier⟩
    · cases now
    · have none_ := (orderly.checked other earlier).1
      rw [one] at none_
      cases none_
  constructor
  · rw [connectRun, number]
    exact orderly.fresh
  · exact Or.inl running
  · exact fun other run' at_ => (busy at_).elim
  · exact fun other third run run' first second => (busy first).elim
  · exact fun other at_ => (free at_).elim
  · exact fun other third first second => (free first).elim
  · intro other run' at_
    rw [running, number]
    refine ⟨?_, (List.cons_ne_nil _ _).symm⟩
    rcases of_update at_ with ⟨rfl, now⟩ | ⟨same, earlier⟩
    · cases now
      exact known
    · exact (orderly.ended other run' earlier).1
  · have starts : after.starts = before.starts := congrArg Runs.starts done
    rw [starts]
    exact orderly.starts

end Moves

theorem Begins.disconnected {origin : Origin controllerSignature} {before : Controller}
    {state : VpnState} {stages : Nat → Stage} {task : Nat} (orderly : Orderly before stages)
    (here : stages task = stageOf origin) (begins : Begins origin before state) :
    state = .disconnected := by
  unfold Begins at begins
  cases stage : stageOf origin with
  | outside =>
      rw [stage] at begins
      exact begins.2.2
  | waiting previous =>
      rw [stage] at begins
      exact begins
  | checked =>
      rw [stage] at begins here
      exact begins.trans (orderly.checked task here).2
  | running run =>
      rw [stage] at begins
      exact begins.elim
  | ended run =>
      rw [stage] at begins
      exact begins.elim

/-- A caller of `connect` that begins a run finds none in progress, and nobody else between a
look at the state and a run. -/
theorem Begins.alone {origin : Origin controllerSignature} {before : Controller}
    {state : VpnState} {stages : Nat → Stage} {task : Nat} (orderly : Orderly before stages)
    (here : stages task = stageOf origin) (begins : Begins origin before state)
    (undisturbed : LooksAtState before origin → (∀ other, stages other ≠ .checked) ∧
      ((∃ previous, origin = .site (.previousRun previous)) → before.running = [])) :
    before.running = [] ∧ ∀ other, other ≠ task → stages other ≠ .checked := by
  unfold Begins at begins
  cases stage : stageOf origin with
  | outside =>
      rw [stage] at begins
      have nobody := (undisturbed (Or.inl ⟨begins.1, begins.2.1⟩)).1
      rcases orderly.one with none_ | ⟨run, _, some_⟩
      · exact ⟨none_, fun other _ => nobody other⟩
      · rw [begins.2.1] at some_
        cases some_
  | waiting previous =>
      have waited : origin = .site (.previousRun previous) := by
        cases origin with
        | entry entry => cases stage
        | site site =>
            cases site with
            | previousRun run =>
                cases stage
                rfl
            | _ => cases stage
      have free := undisturbed (Or.inr ⟨previous, waited⟩)
      exact ⟨free.2 ⟨previous, waited⟩, fun other _ => free.1 other⟩
  | checked =>
      rw [stage] at here
      refine ⟨(orderly.checked task here).1, ?_⟩
      exact fun other different at_ => different (orderly.window other task at_ here)
  | running run =>
      rw [stage] at begins
      exact begins.elim
  | ended run =>
      rw [stage] at begins
      exact begins.elim

/-- One step of one of the programs. -/
theorem Orderly.moved {origin : Origin controllerSignature} {before after : Controller}
    {stage : Stage} {stages : Nat → Stage} {task : Nat} (orderly : Orderly before stages)
    (here : stages task = stageOf origin)
    (undisturbed : LooksAtState before origin → (∀ other, stages other ≠ .checked) ∧
      ((∃ previous, origin = .site (.previousRun previous)) → before.running = []))
    (moved : MovesRuns origin before stage after) :
    Orderly after (Function.update stages task stage) := by
  cases stage with
  | outside =>
      obtain ⟨stays, runs⟩ := moved
      cases at_ : stageOf origin with
      | ended run =>
          rw [at_] at runs here
          exact orderly.forgets here runs stays
      | running run =>
          rw [at_] at runs
          exact runs.elim
      | outside =>
          rw [at_] at runs
          exact orderly.same trivial runs stays
      | waiting previous =>
          rw [at_] at runs
          exact orderly.same trivial runs stays
      | checked =>
          rw [at_] at runs
          exact orderly.same trivial runs stays
  | waiting previous => exact orderly.same trivial moved.2.2.1 moved.2.2.2
  | checked =>
      obtain ⟨same, disconnected, from_⟩ := moved
      have begins : Begins origin before .disconnected ∧ stageOf origin ≠ .checked := by
        unfold Begins
        cases at_ : stageOf origin with
        | outside =>
            rw [at_] at from_
            exact ⟨⟨from_.1, from_.2, rfl⟩, by decide⟩
        | waiting previous => exact ⟨rfl, by intro wrong; cases wrong⟩
        | checked =>
            rw [at_] at from_
            exact from_.elim
        | running run =>
            rw [at_] at from_
            exact from_.elim
        | ended run =>
            rw [at_] at from_
            exact from_.elim
      have alone := begins.1.alone orderly here undisturbed
      apply orderly.checks same alone.1 disconnected
      intro other at_
      by_cases self : other = task
      · subst self
        exact begins.2 (here.symm.trans at_)
      · exact alone.2 other self at_
  | running run =>
      rcases moved with ⟨at_, same⟩ | ⟨state, begins, rfl, begun⟩
      · exact orderly.continues (here.trans at_) same
      · rw [begins.disconnected orderly here] at begun
        have alone := begins.alone orderly here undisturbed
        exact orderly.begins alone.1 begun alone.2
  | ended run =>
      rcases moved with ⟨at_, same⟩ | ⟨state, begins, rfl, begun⟩
      · exact orderly.completes (here.trans at_) same
      · rw [begins.disconnected orderly here] at begun
        have alone := begins.alone orderly here undisturbed
        -- The run has come to its end before it awaited anything.
        have started : Orderly ({ before with state := .disconnected } : Controller).beginRun
            (Function.update stages task (.running before.nextRun)) :=
          orderly.begins alone.1 rfl alone.2
        have finished := started.completes (Function.update_self task _ stages) begun
        rw [Function.update_idem] at finished
        exact finished

theorem Orderly.step {outline later : Outline controllerSignature}
    {origin : Origin controllerSignature}
    (orderly : Orderly outline.state (stageAt outline.places))
    (undisturbed : Undisturbed outline origin)
    (step : Outline.Step Moves ready outline origin later) :
    Orderly later.state (stageAt later.places) := by
  have quiet (looks : LooksAtState outline.state origin) :
      (∀ other, stageAt outline.places other ≠ .checked) ∧
        ((∃ previous, origin = .site (.previousRun previous)) → outline.state.running = []) :=
    ⟨not_checked (undisturbed looks).1, (undisturbed looks).2⟩
  cases step with
  | @start state later places entry place moved =>
      rw [stageAt_append]
      have here : stageAt places places.length = stageOf (.entry entry) := by
        rw [stageAt, List.getElem?_eq_none (Nat.le_refl _)]
        rfl
      exact orderly.moved here quiet moved.1
  | @resume state later places task site place found may moved =>
      obtain ⟨inside, _⟩ := List.getElem?_eq_some_iff.mp found
      rw [stageAt_set place inside]
      have here : stageAt places task = stageOf (.site site) := by
        rw [stageAt, found]
        rfl
      exact orderly.moved here quiet moved.1

theorem orderly_initial :
    Orderly initialSystem.outline.state (stageAt initialSystem.outline.places) := by
  have outside (task : Nat) : stageAt initialSystem.outline.places task = .outside := by
    cases task with
    | zero => rfl
    | succ task => rfl
  constructor
  · intro run some_
    cases some_
  · exact Or.inl rfl
  · intro task run at_
    rw [outside] at at_
    cases at_
  · intro task other run run' at_
    rw [outside] at at_
    cases at_
  · intro task at_
    rw [outside] at at_
    cases at_
  · intro task other at_
    rw [outside] at at_
    cases at_
  · intro task run at_
    rw [outside] at at_
    cases at_
  · intro started member
    cases member

/-- In every run in which no caller of `connect` looks at the state while another is between its
look and its run, there is one run of `_connect` at a time. -/
theorem oneRun_of_undisturbed {labels : List (Label controllerSignature)}
    {finish : System controllerSignature}
    (run : Run (Restrict (ofNext next) fun system label =>
      Undisturbed system.outline label.whence) initialSystem labels finish) :
    OneRun finish.state := by
  have outlined := (obedient_initialSystem.run Undisturbed obeys_program run).2
  have orderly := outlined.invariant
    (fun outline => Orderly outline.state (stageAt outline.places))
    (fun _ _ _ taken orderly => orderly.step taken.2 taken.1) orderly_initial
  exact orderly.oneRun

/-- One tap in automatic mode: the remote configuration is asked for, and the run starts. -/
theorem oneRun_of_undisturbed_tap :
    ∃ finish, execute next initialSystem
        [.start .toggle (eyesOf "auto".toList), resumes 1 .remoteConfig ()] = some finish ∧
      finish.state.running = [0] ∧ OneRun finish.state := by
  have executed : ∃ middle finish,
      next initialSystem (.start .toggle (eyesOf "auto".toList)) = some middle ∧
      next middle (resumes 1 .remoteConfig ()) = some finish ∧
      execute next initialSystem
        [.start .toggle (eyesOf "auto".toList), resumes 1 .remoteConfig ()] = some finish ∧
      finish.state.running = [0] :=
    ⟨_, _, rfl, rfl, rfl, rfl⟩
  obtain ⟨middle, finish, first, second, both, running⟩ := executed
  refine ⟨finish, both, running, ?_⟩
  have tapped : Undisturbed initialSystem.outline (.entry .toggle) := by
    intro _
    refine ⟨by decide, ?_⟩
    rintro ⟨previous, wrong⟩
    cases wrong
  have started : Undisturbed middle.outline (.site .remoteConfig) := by
    rintro (⟨calls, _⟩ | ⟨previous, wrong⟩)
    · exact calls.elim
    · cases wrong
  exact oneRun_of_undisturbed (Run.snoc (Run.single ⟨first, tapped⟩) ⟨second, started⟩)

/-- Two taps while the remote configuration is being asked for start two runs. -/
theorem two_taps_two_runs :
    ¬ ∀ (labels : List (Label controllerSignature)) (finish : System controllerSignature),
      Run (ofNext next) initialSystem labels finish → OneRun finish.state := by
  intro always
  have executed : ∃ finish, execute next initialSystem
      [.start .toggle (eyesOf "auto".toList), .start .toggle (eyesOf "auto".toList),
        resumes 1 .remoteConfig (), resumes 2 .remoteConfig ()] = some finish ∧
      finish.state.running = [0, 1] :=
    ⟨_, rfl, rfl⟩
  obtain ⟨finish, taken, running⟩ := executed
  have one := (always _ finish (run_of_execute taken)).running
  rw [running] at one
  exact absurd one (by decide)

end MolidoVpn.Desktop
