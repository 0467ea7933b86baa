import MolidoVpn.Lib.Numbered
import MolidoVpn.Lib.Transition

/-!
Start and stop of the native tunnel: the two flags that `aether_start_json`,
`aether_stop` and the end of a run share, one atomic access a step. A start claims
`RUNNING` and clears `STOP_REQUESTED` in two steps, and a stop fits in between.
-/

namespace MolidoVpn.Ffi

open Numbered (getElem?_append_singleton_cases getElem?_set_cases)
open Transition (Run ofNext Restrict execute run_of_execute executeChecked run_of_executeChecked)

/-- How far a call of `aether_start_json_inner` is that has won `RUNNING`. -/
inductive StartPc where
  | claimed
  | cleared
  | working
  | leaving
  | lowered
  | returned
  deriving DecidableEq

/-- The call has claimed `RUNNING` and its guard has not been dropped. -/
def StartPc.marked : StartPc → Bool
  | .claimed | .cleared | .working | .leaving => true
  | .lowered | .returned => false

inductive StopPc where
  | loaded
  | stored
  | returned
  deriving DecidableEq

/-- A call of `aether_stop` that saw `RUNNING` set: by which run, and which run it was that its
request met. -/
structure StopCall where
  pc : StopPc
  seen : Nat
  met : Option Nat
  deriving DecidableEq

/-- A run is named by its place among the starts. -/
structure State where
  running : Bool
  stopRequested : Bool
  ready : Bool
  starts : List StartPc
  stops : List StopCall
  deriving DecidableEq

def initial : State :=
  { running := false
    stopRequested := false
    ready := false
    starts := []
    stops := [] }

/-- The run that holds `RUNNING`. -/
def State.current (state : State) : Option Nat :=
  if state.running then some (state.starts.length - 1) else none

inductive Label where
  /-- `compare_exchange` of `RUNNING`, won or lost -/
  | claim
  | alreadyRunning
  /-- `STOP_REQUESTED.store(false)` -/
  | clearStop (run : Nat)
  /-- `READY.store(false)` -/
  | clearReady (run : Nat)
  | markReady (run : Nat)
  /-- the tunnel ends by itself, fails or panics -/
  | finish (run : Nat)
  /-- `wait_for_stop` returns -/
  | stopSeen (run : Nat)
  /-- the two stores of the guard -/
  | lowerRunning (run : Nat)
  | lowerReady (run : Nat)
  /-- `RUNNING.load` in `aether_stop`, with nothing running and with something running -/
  | stopRefused
  | stopLoad
  /-- `STOP_REQUESTED.store(true)` -/
  | stopStore (call : Nat)
  /-- waiters are notified and 1 is returned -/
  | stopReturn (call : Nat)
  deriving DecidableEq

/-- The start goes on if it stands at `source`. -/
def State.advance (state : State) (run : Nat) (source target : StartPc) : Option State :=
  if state.starts[run]? = some source then
    some { state with starts := state.starts.set run target }
  else none

def next (state : State) : Label → Option State
  | .claim =>
      if state.running then none
      else some { state with running := true, starts := state.starts ++ [.claimed] }
  | .alreadyRunning => if state.running then some state else none
  | .clearStop run =>
      (state.advance run .claimed .cleared).map fun after => { after with stopRequested := false }
  | .clearReady run =>
      (state.advance run .cleared .working).map fun after => { after with ready := false }
  | .markReady run =>
      (state.advance run .working .working).map fun after => { after with ready := true }
  | .finish run => state.advance run .working .leaving
  | .stopSeen run => if state.stopRequested then state.advance run .working .leaving else none
  | .lowerRunning run =>
      (state.advance run .leaving .lowered).map fun after => { after with running := false }
  | .lowerReady run =>
      (state.advance run .lowered .returned).map fun after => { after with ready := false }
  | .stopRefused => if state.running then none else some state
  | .stopLoad =>
      match state.current with
      | some run => some { state with stops := state.stops ++ [⟨.loaded, run, none⟩] }
      | none => none
  | .stopStore call =>
      match state.stops[call]? with
      | some ⟨.loaded, seen, _⟩ =>
          some { state with
            stopRequested := true
            stops := state.stops.set call ⟨.stored, seen, state.current⟩ }
      | _ => none
  | .stopReturn call =>
      match state.stops[call]? with
      | some ⟨.stored, seen, met⟩ =>
          some { state with stops := state.stops.set call ⟨.returned, seen, met⟩ }
      | _ => none

/-- The run that a stop request was for. -/
def StopCall.about (call : StopCall) (run : Nat) : Bool :=
  call.seen == run || call.met == some run

/-- A run clears `STOP_REQUESTED` before any request for it is stored. -/
def clearsInTime (state : State) : Label → Bool
  | .clearStop run => state.stops.all fun call => call.pc == .loaded || !call.about run
  | _ => true

/-- Only the last start can stand where `RUNNING` is its own, and a call of stop knows old runs. -/
structure Guarded (state : State) : Prop where
  owner : ∀ run pc, state.starts[run]? = some pc → pc.marked = true →
    run + 1 = state.starts.length ∧ state.running = true
  begun : state.running = true → 0 < state.starts.length
  known : ∀ call ∈ state.stops, ∀ run, call.about run = true → run < state.starts.length

/-- A request that was stored for the run that is marked running is still there. -/
def Kept (state : State) : Prop :=
  ∀ call ∈ state.stops, call.pc ≠ .loaded → ∀ run, call.about run = true →
    state.current = some run → state.stopRequested = true

theorem current_eq_some {state : State} {run : Nat} (current : state.current = some run) :
    state.running = true ∧ run = state.starts.length - 1 := by
  unfold State.current at current
  split at current
  · exact ⟨by assumption, (Option.some.inj current).symm⟩
  · cases current

theorem advance_eq_some {state after : State} {run : Nat} {source target : StartPc}
    (advanced : state.advance run source target = some after) :
    state.starts[run]? = some source ∧
      after = { state with starts := state.starts.set run target } := by
  unfold State.advance at advanced
  split at advanced
  · exact ⟨by assumption, (Option.some.inj advanced).symm⟩
  · cases advanced

/-- A start that moves on marks nothing that was not marked. -/
private theorem owner_set {state : State} (guarded : Guarded state) {run : Nat}
    {source target : StartPc} (stands : state.starts[run]? = some source)
    (noMore : target.marked = true → source.marked = true) {other : Nat} {pc : StartPc}
    (found : (state.starts.set run target)[other]? = some pc) (marked : pc.marked = true) :
    other + 1 = state.starts.length ∧ state.running = true := by
  rcases getElem?_set_cases found with ⟨rfl, rfl⟩ | ⟨_, before⟩
  · exact guarded.owner other source stands (noMore marked)
  · exact guarded.owner other pc before marked

theorem Guarded.advance {state after : State} (guarded : Guarded state) {run : Nat}
    {source target : StartPc} (advanced : state.advance run source target = some after)
    (noMore : target.marked = true → source.marked = true) : Guarded after := by
  obtain ⟨stands, rfl⟩ := advance_eq_some advanced
  constructor
  · intro other pc found marked
    rw [List.length_set]
    exact owner_set guarded stands noMore found marked
  · intro running
    rw [List.length_set]
    exact guarded.begun running
  · intro call member other about
    rw [List.length_set]
    exact guarded.known call member other about

theorem Guarded.current_lt {state : State} (guarded : Guarded state) {run : Nat}
    (current : state.current = some run) : run < state.starts.length := by
  obtain ⟨running, rfl⟩ := current_eq_some current
  have begun := guarded.begun running
  omega

/-- A call of stop moves on; it may be about the current run now. -/
theorem Guarded.setStop {state : State} (guarded : Guarded state) {index : Nat}
    {before after : StopCall} (stands : state.stops[index]? = some before)
    (about : ∀ run, after.about run = true →
      before.about run = true ∨ state.current = some run) (stopRequested : Bool) :
    Guarded { state with
      stopRequested := stopRequested
      stops := state.stops.set index after } where
  owner := guarded.owner
  begun := guarded.begun
  known := by
    intro call member run for_
    rcases List.mem_or_eq_of_mem_set member with old | rfl
    · exact guarded.known call old run for_
    · rcases about run for_ with old | current
      · exact guarded.known before (List.mem_of_getElem? stands) run old
      · exact guarded.current_lt current

theorem about_iff {call : StopCall} {run : Nat} :
    call.about run = true ↔ call.seen = run ∨ call.met = some run := by
  simp only [StopCall.about, Bool.or_eq_true, beq_iff_eq]

/-- A start wins `RUNNING` only when no earlier one has it any more. -/
private theorem guarded_claim {state : State} (guarded : Guarded state)
    (free : state.running = false) :
    Guarded { state with running := true, starts := state.starts ++ [.claimed] } where
  owner := by
    intro run pc found marked
    rw [List.length_append, List.length_singleton]
    rcases getElem?_append_singleton_cases found with before | ⟨rfl, _⟩
    · have impossible := (guarded.owner run pc before marked).2
      rw [free] at impossible
      cases impossible
    · exact ⟨rfl, rfl⟩
  begun := by
    intro _
    rw [List.length_append, List.length_singleton]
    omega
  known := by
    intro call member run about
    have old := guarded.known call member run about
    rw [List.length_append]
    omega

/-- The guard that is dropped is the last start's, so nobody is left with `RUNNING`. -/
private theorem guarded_lower {state after : State} (guarded : Guarded state) {run : Nat}
    (advanced : state.advance run .leaving .lowered = some after) :
    Guarded { after with running := false } := by
  obtain ⟨stands, rfl⟩ := advance_eq_some advanced
  have last := (guarded.owner run .leaving stands rfl).1
  constructor
  · intro other pc found marked
    rcases getElem?_set_cases found with ⟨_, rfl⟩ | ⟨different, before⟩
    · cases marked
    · have alsoLast := (guarded.owner other pc before marked).1
      omega
  · intro impossible
    cases impossible
  · intro call member other about
    change other < (state.starts.set run .lowered).length
    rw [List.length_set]
    exact guarded.known call member other about

theorem next_guarded (source : State) (label : Label) (target : State)
    (taken : ofNext next source label target) (guarded : Guarded source) : Guarded target := by
  unfold ofNext at taken
  cases label with
  | claim =>
      simp only [next] at taken
      split at taken
      · cases taken
      · rename_i free
        obtain rfl := Option.some.inj taken
        exact guarded_claim guarded (Bool.eq_false_iff.mpr free)
  | alreadyRunning =>
      simp only [next] at taken
      split at taken
      · obtain rfl := Option.some.inj taken
        exact guarded
      · cases taken
  | clearStop run | clearReady run | markReady run | lowerReady run =>
      obtain ⟨after, advanced, rfl⟩ := Option.map_eq_some_iff.mp taken
      have kept := guarded.advance advanced (by decide)
      exact ⟨kept.owner, kept.begun, kept.known⟩
  | finish run => exact guarded.advance taken (by decide)
  | stopSeen run =>
      simp only [next] at taken
      split at taken
      · exact guarded.advance taken (by decide)
      · cases taken
  | lowerRunning run =>
      obtain ⟨after, advanced, rfl⟩ := Option.map_eq_some_iff.mp taken
      exact guarded_lower guarded advanced
  | stopRefused =>
      simp only [next] at taken
      split at taken
      · cases taken
      · obtain rfl := Option.some.inj taken
        exact guarded
  | stopLoad =>
      simp only [next] at taken
      split at taken
      · rename_i run current
        obtain rfl := Option.some.inj taken
        refine ⟨guarded.owner, guarded.begun, ?_⟩
        intro call member other about
        rcases List.mem_append.mp member with old | new
        · exact guarded.known call old other about
        · obtain rfl := List.mem_singleton.mp new
          rcases about_iff.mp about with rfl | impossible
          · exact guarded.current_lt current
          · cases impossible
      · cases taken
  | stopStore index =>
      simp only [next] at taken
      split at taken
      · rename_i seen met stands
        obtain rfl := Option.some.inj taken
        apply guarded.setStop stands
        intro run about
        rcases about_iff.mp about with saw | met
        · exact Or.inl (about_iff.mpr (Or.inl saw))
        · exact Or.inr met
      · cases taken
  | stopReturn index =>
      simp only [next] at taken
      split at taken
      · rename_i seen met stands
        obtain rfl := Option.some.inj taken
        apply guarded.setStop stands
        intro run about
        exact Or.inl about
      · cases taken

theorem advance_current {state after : State} {run : Nat} {source target : StartPc}
    (advanced : state.advance run source target = some after) :
    after.current = state.current := by
  obtain ⟨_, rfl⟩ := advance_eq_some advanced
  simp only [State.current, List.length_set]

/-- A step that neither calls stop nor clears its request. -/
private theorem Kept.advance {state after : State} (kept : Kept state) {run : Nat}
    {source target : StartPc} (advanced : state.advance run source target = some after) :
    Kept after := by
  have current := advance_current advanced
  obtain ⟨_, rfl⟩ := advance_eq_some advanced
  intro call member stored other about now
  rw [current] at now
  exact kept call member stored other about now

private theorem kept_clearStop {state after : State} (guarded : Guarded state) {run : Nat}
    (inTime : clearsInTime state (.clearStop run) = true)
    (advanced : state.advance run .claimed .cleared = some after) :
    Kept { after with stopRequested := false } := by
  have current := advance_current advanced
  obtain ⟨stands, rfl⟩ := advance_eq_some advanced
  intro call member stored other about now
  have same : other = run := by
    have last := (guarded.owner run .claimed stands rfl).1
    have here := (current_eq_some (current.symm.trans now)).2
    omega
  subst same
  have early := List.all_eq_true.mp inTime call member
  rw [about, Bool.not_true, Bool.or_false, beq_iff_eq] at early
  exact absurd early stored

theorem next_kept (source : State) (label : Label) (target : State)
    (taken : Restrict (ofNext next) (fun state label => clearsInTime state label) source label
      target)
    (guarded : Guarded source) (kept : Kept source) : Kept target := by
  obtain ⟨taken, inTime⟩ := taken
  unfold ofNext at taken
  cases label with
  | claim =>
      simp only [next] at taken
      split at taken
      · cases taken
      · obtain rfl := Option.some.inj taken
        intro call member stored run about now
        have old := guarded.known call member run about
        have newest := (current_eq_some now).2
        simp only [List.length_append, List.length_singleton] at newest
        omega
  | alreadyRunning =>
      simp only [next] at taken
      split at taken
      · obtain rfl := Option.some.inj taken
        exact kept
      · cases taken
  | clearStop run =>
      obtain ⟨after, advanced, rfl⟩ := Option.map_eq_some_iff.mp taken
      exact kept_clearStop guarded inTime advanced
  | clearReady run | markReady run | lowerReady run =>
      obtain ⟨after, advanced, rfl⟩ := Option.map_eq_some_iff.mp taken
      have still := kept.advance advanced
      exact still
  | finish run => exact kept.advance taken
  | stopSeen run =>
      simp only [next] at taken
      split at taken
      · exact kept.advance taken
      · cases taken
  | lowerRunning run =>
      obtain ⟨after, advanced, rfl⟩ := Option.map_eq_some_iff.mp taken
      intro call member stored other about now
      cases (current_eq_some now).1
  | stopRefused =>
      simp only [next] at taken
      split at taken
      · cases taken
      · obtain rfl := Option.some.inj taken
        exact kept
  | stopLoad =>
      simp only [next] at taken
      split at taken
      · obtain rfl := Option.some.inj taken
        intro call member stored other about now
        rcases List.mem_append.mp member with old | new
        · exact kept call old stored other about now
        · obtain rfl := List.mem_singleton.mp new
          exact absurd rfl stored
      · cases taken
  | stopStore index =>
      simp only [next] at taken
      split at taken
      · obtain rfl := Option.some.inj taken
        intro call member stored other about now
        rfl
      · cases taken
  | stopReturn index =>
      simp only [next] at taken
      split at taken
      · rename_i seen met stands
        obtain rfl := Option.some.inj taken
        intro call member stored other about now
        rcases List.mem_or_eq_of_mem_set member with old | rfl
        · exact kept call old stored other about now
        · exact kept _ (List.mem_of_getElem? stands) StopPc.noConfusion other about now
      · cases taken

/-- When every start clears the flag before a request for it is stored, no state is reached in
which a run goes on although a stop for it has returned 1. -/
theorem accepted_stop_survives {labels : List Label} {state : State}
    (run : Run (Restrict (ofNext next) (fun state label => clearsInTime state label)) initial
      labels state) :
    ∀ call ∈ state.stops, call.pc = .returned → ∀ which, call.about which = true →
      ¬ (state.current = some which ∧ state.stopRequested = false) := by
  have both : Guarded state ∧ Kept state := by
    apply run.invariant (fun state => Guarded state ∧ Kept state)
    · intro source label target taken held
      exact ⟨next_guarded source label target taken.1 held.1,
        next_kept source label target taken held.1 held.2⟩
    · refine ⟨⟨?_, ?_, ?_⟩, ?_⟩
      · intro which pc impossible
        cases impossible
      · intro impossible
        cases impossible
      · intro call impossible
        cases impossible
      · intro call impossible
        cases impossible
  rintro call member returned which about ⟨current, lost⟩
  have stored : call.pc ≠ .loaded := by
    rw [returned]
    decide
  rw [both.2 call member stored which about current] at lost
  cases lost

/-- A start that has cleared the flag in time, and a stop of its run. -/
theorem accepted_stop_survives_in_time :
    ∃ state : State, state.stops = [⟨.returned, 0, some 0⟩] ∧
      ¬ (state.current = some 0 ∧ state.stopRequested = false) :=
  ⟨⟨true, true, false, [.working], [⟨.returned, 0, some 0⟩]⟩, rfl,
    @accepted_stop_survives
      [.claim, .clearStop 0, .clearReady 0, .stopLoad, .stopStore 0, .stopReturn 0] _
      (run_of_executeChecked rfl) _ (List.mem_singleton_self _) rfl 0 rfl⟩

/-- The request comes between the claim and the clear. -/
theorem accepted_stop_lost :
    ¬ ∀ (labels : List Label) (state : State), Run (ofNext next) initial labels state →
      ∀ call ∈ state.stops, call.pc = .returned → ∀ which, call.about which = true →
        ¬ (state.current = some which ∧ state.stopRequested = false) := by
  intro always
  have reached : execute next initial
      [.claim, .stopLoad, .stopStore 0, .stopReturn 0, .clearStop 0, .clearReady 0] =
        some ⟨true, false, false, [.working], [⟨.returned, 0, some 0⟩]⟩ := by
    rfl
  exact always _ _ (run_of_execute reached) ⟨.returned, 0, some 0⟩ (by decide) rfl 0 rfl
    ⟨rfl, rfl⟩

end MolidoVpn.Ffi
