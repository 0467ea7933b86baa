import Mathlib.Logic.Basic
import Mathlib.Data.List.Basic

/-!
Runs of a labelled step relation, and the induction that every safety argument
over runs uses. A machine given by a partial step function is the special case
`ofNext`; a run of a restricted machine is a run all of whose steps meet a
condition on the state before the step and its label.
-/

namespace MolidoVpn.Transition

universe u v

variable {State : Type u} {Label : Type v}

/-- Finite runs, with the labels oldest first. -/
inductive Run (step : State → Label → State → Prop) (start : State) :
    List Label → State → Prop where
  | nil : Run step start [] start
  | snoc {middle finish : State} {labels : List Label} {label : Label}
      (before : Run step start labels middle) (last : step middle label finish) :
      Run step start (labels ++ [label]) finish

/-- The step relation of a machine whose disabled steps give `none`. -/
def ofNext (next : State → Label → Option State) (source : State) (label : Label)
    (target : State) : Prop :=
  next source label = some target

/-- Only the steps that meet `condition` before they are taken. -/
def Restrict (step : State → Label → State → Prop) (condition : State → Label → Prop)
    (source : State) (label : Label) (target : State) : Prop :=
  step source label target ∧ condition source label

/-- Follow a list of labels; a disabled step ends the execution without a result. -/
def execute (next : State → Label → Option State) : State → List Label → Option State
  | state, [] => some state
  | state, label :: rest =>
      match next state label with
      | none => none
      | some later => execute next later rest

variable {step : State → Label → State → Prop}

theorem Run.single {source target : State} {label : Label} (taken : step source label target) :
    Run step source [label] target :=
  Run.snoc Run.nil taken

theorem Run.trans {start middle finish : State} {first second : List Label}
    (before : Run step start first middle) (after : Run step middle second finish) :
    Run step start (first ++ second) finish := by
  induction after with
  | nil =>
      rw [List.append_nil]
      exact before
  | snoc _ last ih =>
      rw [← List.append_assoc]
      exact Run.snoc ih last

theorem Run.cons {start middle finish : State} {label : Label} {rest : List Label}
    (first : step start label middle) (after : Run step middle rest finish) :
    Run step start (label :: rest) finish :=
  Run.trans (Run.single first) after

/-- What one step preserves, a run preserves. -/
theorem Run.invariant (holds : State → Prop)
    (preserved : ∀ source label target, step source label target → holds source → holds target)
    {start finish : State} {labels : List Label} (run : Run step start labels finish)
    (initially : holds start) : holds finish := by
  induction run with
  | nil => exact initially
  | snoc _ last ih => exact preserved _ _ _ last ih

theorem Run.mono {stronger : State → Label → State → Prop}
    (implied : ∀ source label target, stronger source label target → step source label target)
    {start finish : State} {labels : List Label} (run : Run stronger start labels finish) :
    Run step start labels finish := by
  induction run with
  | nil => exact Run.nil
  | snoc _ last ih => exact Run.snoc ih (implied _ _ _ last)

theorem Run.of_restrict {condition : State → Label → Prop} {start finish : State}
    {labels : List Label} (run : Run (Restrict step condition) start labels finish) :
    Run step start labels finish :=
  run.mono (fun _ _ _ taken => taken.1)

/-- An execution of the partial step function is a run of its relation. -/
theorem run_of_execute {next : State → Label → Option State} {start finish : State}
    {labels : List Label} (executed : execute next start labels = some finish) :
    Run (ofNext next) start labels finish := by
  induction labels generalizing start with
  | nil =>
      cases executed
      exact Run.nil
  | cons label rest ih =>
      unfold execute at executed
      split at executed
      · cases executed
      · rename_i later taken
        exact Run.cons taken (ih executed)

theorem Run.of_snoc {start finish : State} {labels : List Label} {label : Label}
    (run : Run step start (labels ++ [label]) finish) :
    ∃ middle, Run step start labels middle ∧ step middle label finish := by
  generalize whole : labels ++ [label] = all at run
  cases run with
  | nil => exact absurd whole (List.append_ne_nil_of_right_ne_nil labels (List.cons_ne_nil _ _))
  | snoc before last =>
      obtain ⟨rfl, same⟩ := List.append_inj' whole rfl
      cases same
      exact ⟨_, before, last⟩

/-- The labels decide where a run of a partial step function ends. -/
theorem Run.deterministic {next : State → Label → Option State} {start finish other : State}
    {labels : List Label} (run : Run (ofNext next) start labels finish)
    (again : Run (ofNext next) start labels other) : finish = other := by
  induction run generalizing other with
  | nil =>
      generalize none_ : ([] : List Label) = labels at again
      cases again with
      | nil => rfl
      | snoc _ _ =>
          exact absurd none_.symm (List.append_ne_nil_of_right_ne_nil _ (List.cons_ne_nil _ _))
  | snoc _ last ih =>
      obtain ⟨middle, before, taken⟩ := again.of_snoc
      obtain rfl := ih before
      exact Option.some.inj (last.symm.trans taken)

/-- A property that a step breaks exactly where it violates a condition holds at the end of a run
exactly when all its steps meet the condition. `holds` is an invariant of the machine. -/
theorem Run.iff_restrict {next : State → Label → Option State}
    {condition : State → Label → Prop} (property holds : State → Prop)
    (preserved : ∀ source label target, ofNext next source label target → holds source →
      holds target)
    (exact_ : ∀ source label target, ofNext next source label target → holds source →
      (property target ↔ property source ∧ condition source label))
    {start finish : State} {labels : List Label} (run : Run (ofNext next) start labels finish)
    (initially : property start) (holdsFirst : holds start) :
    property finish ↔ Run (Restrict (ofNext next) condition) start labels finish := by
  induction run with
  | nil => exact ⟨fun _ => Run.nil, fun _ => initially⟩
  | snoc before last ih =>
      rw [exact_ _ _ _ last (before.invariant holds preserved holdsFirst), ih]
      constructor
      · rintro ⟨met, now⟩
        exact Run.snoc met ⟨last, now⟩
      · intro met
        obtain ⟨middle, metBefore, taken⟩ := met.of_snoc
        obtain rfl := before.deterministic metBefore.of_restrict
        exact ⟨metBefore, taken.2⟩

/-- Follow a list of labels as long as every step passes the check. -/
def executeChecked (next : State → Label → Option State) (check : State → Label → Bool) :
    State → List Label → Option State :=
  execute (fun state label => if check state label then next state label else none)

/-- An execution whose steps all pass a check is a run of the machine restricted by it. -/
theorem run_of_executeChecked {next : State → Label → Option State}
    {check : State → Label → Bool} {start finish : State} {labels : List Label}
    (executed : executeChecked next check start labels = some finish) :
    Run (Restrict (ofNext next) (fun state label => check state label)) start labels finish := by
  apply (run_of_execute executed).mono
  intro source label target taken
  change (if check source label = true then next source label else none) = some target at taken
  by_cases passed : check source label = true
  · rw [if_pos passed] at taken
    exact ⟨taken, passed⟩
  · rw [if_neg passed] at taken
    cases taken

/-- A run seen through a projection: every step that the projection does not hide is a step of
the small machine. `holds` is an invariant of the big one, used step by step. -/
theorem Run.projects {Small : Type u} {SmallLabel : Type v}
    {smallStep : Small → SmallLabel → Small → Prop} (project : State → Small)
    (holds : State → Prop)
    (preserved : ∀ source label target, step source label target → holds source → holds target)
    (matched : ∀ source label target, step source label target → holds source →
      project target = project source ∨
        ∃ small, smallStep (project source) small (project target))
    {start finish : State} {labels : List Label} (run : Run step start labels finish)
    (initially : holds start) :
    ∃ small, Run smallStep (project start) small (project finish) := by
  induction run with
  | nil => exact ⟨[], Run.nil⟩
  | snoc before last ih =>
      obtain ⟨small, projected⟩ := ih
      rcases matched _ _ _ last (before.invariant holds preserved initially) with
        hidden | ⟨label, taken⟩
      · exact ⟨small, by rw [hidden]; exact projected⟩
      · exact ⟨small ++ [label], Run.snoc projected taken⟩

end MolidoVpn.Transition
