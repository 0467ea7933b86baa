import MolidoVpn.Lib.Numbered
import MolidoVpn.Lib.Transition
import MolidoVpn.Windows.Failover

/-!
What `failover` returns, and which server the core is on by then. It reads the list of backups
after its await, and the list is replaced when the session changes.
-/

namespace MolidoVpn.Windows.Failover

open Desktop (Server)
open Numbered
open Transition (Run Restrict ofNext execute run_of_execute executeChecked run_of_executeChecked)

section Invariant

variable {hasOutbound : Server → Bool} {engine later : Engine} {call : Call} {request : Request}
  {core : Core} {c n f : Nat} {event : Event}

/-- The core of the session is on the server that a call of `failover` is about to return, and the
session is the one that it has been called in. -/
structure Sound (outcome : Outcome) : Prop where
  served : ∃ server core, outcome.standby[outcome.next - 1]? = some server ∧
    outcome.core = some core ∧ core.selector = true ∧ core.selected = outcome.next ∧
    core.backups[outcome.next - 1]? = some server
  same : outcome.asked = outcome.session

/-- A call of `failover` that waits is about the next backup of the session, and if the core has
moved it is the current one. -/
structure Waiting (engine : Engine) (request : Request) : Prop where
  session : request.session = engine.session
  next : request.next = engine.activeIndex + 1
  inside : request.next ≤ engine.activeStandby.length
  moved : request.answer = some true → ∃ n core, engine.process = some n ∧
    engine.cores[n]? = some core ∧ core.running = true ∧ core.selector = true ∧
      core.selected = request.next

/-- The only core that runs is the current one, with the active backups unless they have been
cleared; one core at most is being started, and while it is there is no current one. -/
structure Kept (engine : Engine) : Prop where
  running : ∀ (n : Nat) (core : Core), engine.cores[n]? = some core → core.running = true →
    engine.process = some n
  current : ∀ n, engine.process = some n → ∃ core, engine.cores[n]? = some core ∧
    (engine.activeStandby = [] ∨ core.backups = engine.activeStandby)
  starting : ∀ call ∈ engine.calls, ∀ api backups multiPath,
    call.phase = .starting api backups multiPath → engine.process = none ∧
      (engine.activeStandby = [] ∨ backups = engine.activeStandby)
  alone : ∀ (a b : Nat) (call other : Call), engine.calls[a]? = some call →
    engine.calls[b]? = some other → call.phase.Starting = true → other.phase.Starting = true → a = b
  single : ∀ (a b : Nat) (request other : Request), engine.requests[a]? = some request →
    engine.requests[b]? = some other → request.done = false → other.done = false → a = b
  waiting : ∀ request ∈ engine.requests, request.done = false → Waiting engine request
  outcomes : ∀ outcome ∈ engine.outcomes, Sound outcome

theorem kept_initial : Kept .initial :=
  { running := fun _ _ here => by cases here
    current := fun _ some_ => by cases some_
    starting := fun _ member => absurd member List.not_mem_nil
    alone := fun _ _ _ _ here => by cases here
    single := fun _ _ _ _ here => by cases here
    waiting := fun _ member => absurd member List.not_mem_nil
    outcomes := fun _ member => absurd member List.not_mem_nil }

/-- No call of `failover` waits. -/
def Quiet (engine : Engine) : Prop := ∀ request ∈ engine.requests, request.done = true

/-- While a call of `failover` waits, none is made, the session is not changed and no core exits;
and a connection is not begun while another one waits for its core to start. -/
def Careful (engine : Engine) : Event → Prop
  | .connect _ _ => Quiet engine
  | .disconnect => Quiet engine
  | .coreStops _ => Quiet engine
  | .begins _ _ => Quiet engine ∧ ∀ call ∈ engine.calls, call.phase.Starting = false
  | .spawned _ => Quiet engine
  | .apiAnswered _ up => up = true ∨ Quiet engine
  | .verified _ passes => passes = true ∨ Quiet engine
  | .exits _ => Quiet engine
  | .failover => Quiet engine
  | _ => True

theorem Quiet.waiting (quiet : Quiet engine) (same : later.requests = engine.requests) :
    ∀ request ∈ later.requests, request.done = false → Waiting later request := by
  intro request member waits
  rw [same] at member
  rw [quiet request member] at waits
  cases waits

theorem Waiting.same (waiting : Waiting engine request) (session : later.session = engine.session)
    (index : later.activeIndex = engine.activeIndex)
    (standby : later.activeStandby = engine.activeStandby)
    (process : later.process = engine.process) (cores : later.cores = engine.cores) :
    Waiting later request := by
  refine ⟨waiting.session.trans session.symm, ?_, ?_, ?_⟩
  · rw [index]
    exact waiting.next
  · rw [standby]
    exact waiting.inside
  · rw [process, cores]
    exact waiting.moved

theorem Kept.cleared (kept : Kept engine) (quiet : Quiet engine) : Kept engine.clear := by
  refine ⟨kept.running, ?_, ?_, kept.alone, kept.single, quiet.waiting rfl, kept.outcomes⟩
  · intro n tracked
    obtain ⟨core, there, _⟩ := kept.current n tracked
    exact ⟨core, there, .inl rfl⟩
  · intro call member api backups multiPath phase
    exact ⟨(kept.starting call member api backups multiPath phase).1, .inl rfl⟩

theorem Kept.stopped (kept : Kept engine) (quiet : Quiet engine) : Kept engine.stopCore := by
  refine ⟨?_, ?_, ?_, kept.alone, kept.single, quiet.waiting rfl, kept.outcomes⟩
  · intro n core there running
    unfold Engine.stopCore at there
    cases tracked : engine.process with
    | none =>
        rw [tracked] at there
        have known := kept.running n core there running
        rw [tracked] at known
        cases known
    | some m =>
        rw [tracked] at there
        obtain ⟨old, known, ⟨_, rfl⟩ | ⟨different, rfl⟩⟩ := getElem?_modify_cases there
        · cases running
        · have same := kept.running n core known running
          rw [tracked] at same
          exact absurd (Option.some.inj same).symm different
  · intro n tracked
    cases tracked
  · intro call member api backups multiPath phase
    exact ⟨rfl, (kept.starting call member api backups multiPath phase).2⟩

theorem Kept.called (kept : Kept engine) (call : Call) (idle : call.phase.Starting = false) :
    Kept { engine with calls := engine.calls ++ [call] } := by
  refine ⟨kept.running, kept.current, ?_, ?_, kept.single, ?_, kept.outcomes⟩
  · intro other member api backups multiPath phase
    rcases List.mem_append.mp member with old | last
    · exact kept.starting other old api backups multiPath phase
    · obtain rfl := List.mem_singleton.mp last
      rw [phase] at idle
      cases idle
  · intro a b one other first second startsOne startsOther
    rcases getElem?_append_singleton_cases first with old | ⟨_, rfl⟩
    · rcases getElem?_append_singleton_cases second with other_ | ⟨_, rfl⟩
      · exact kept.alone a b one other old other_ startsOne startsOther
      · rw [idle] at startsOther
        cases startsOther
    · rw [idle] at startsOne
      cases startsOne
  · exact fun request member waits => (kept.waiting request member waits).same rfl rfl rfl rfl rfl

/-- A call moves and does not wait for a core to start. -/
theorem Kept.phased (kept : Kept engine) (c : Nat) (call : Call) (phase : Phase)
    (idle : phase.Starting = false) : Kept (engine.setPhase c call phase) := by
  refine ⟨kept.running, kept.current, ?_, ?_, kept.single, ?_, kept.outcomes⟩
  · intro other member api backups multiPath same
    rcases List.mem_or_eq_of_mem_set member with old | rfl
    · exact kept.starting other old api backups multiPath same
    · dsimp only at same
      rw [same] at idle
      cases idle
  · intro a b one other first second startsOne startsOther
    rcases getElem?_set_cases first with ⟨_, rfl⟩ | ⟨_, one_⟩
    · rw [idle] at startsOne
      cases startsOne
    · rcases getElem?_set_cases second with ⟨_, rfl⟩ | ⟨_, other_⟩
      · rw [idle] at startsOther
        cases startsOther
      · exact kept.alone a b one other one_ other_ startsOne startsOther
  · exact fun request member waits => (kept.waiting request member waits).same rfl rfl rfl rfl rfl

theorem Kept.begun (kept : Kept engine) (c : Nat) (call : Call)
    (quiet : Quiet engine) (others : ∀ call ∈ engine.calls, call.phase.Starting = false)
    (api : Nat) (backups : List Server) (multiPath : Bool) :
    Kept (engine.beginSession c call api backups multiPath) := by
  have stopped := kept.stopped quiet
  have only {a : Nat} {one : Call}
      (first : (engine.calls.set c { call with phase := .starting api backups multiPath })[a]? =
        some one) (starts : one.phase.Starting = true) : a = c := by
    rcases getElem?_set_cases first with ⟨same, _⟩ | ⟨_, old⟩
    · exact same
    · rw [others one (List.mem_of_getElem? old)] at starts
      cases starts
  refine ⟨stopped.running, ?_, ?_, ?_, kept.single, quiet.waiting rfl, kept.outcomes⟩
  · intro n tracked
    cases tracked
  · intro other member api' backups' multiPath' phase
    rcases List.mem_or_eq_of_mem_set member with old | rfl
    · have idle := others other old
      rw [phase] at idle
      cases idle
    · cases phase
      exact ⟨rfl, .inr rfl⟩
  · intro a b one other first second startsOne startsOther
    exact (only first startsOne).trans (only second startsOther).symm

theorem Kept.spawns (kept : Kept engine) (here : engine.calls[c]? = some call)
    (quiet : Quiet engine) {api : Nat} {backups : List Server} {multiPath : Bool}
    (phase : call.phase = .starting api backups multiPath) :
    Kept (engine.spawn c call api backups multiPath) := by
  obtain ⟨untracked, active⟩ :=
    kept.starting call (List.mem_of_getElem? here) api backups multiPath phase
  have starts : call.phase.Starting = true := by
    rw [phase]
    rfl
  have idle {a : Nat} {one : Call} (there : (engine.calls.set c
      { call with phase := .booting api })[a]? = some one) : one.phase.Starting = false := by
    rcases getElem?_set_cases there with ⟨_, rfl⟩ | ⟨different, old⟩
    · rfl
    · cases known : one.phase.Starting with
      | false => rfl
      | true => exact absurd (kept.alone a c one call old here known starts) different
  refine ⟨?_, ?_, ?_, ?_, kept.single, quiet.waiting rfl, kept.outcomes⟩
  · intro n core there running
    rcases getElem?_append_singleton_cases there with old | ⟨rfl, _⟩
    · have tracked := kept.running n core old running
      rw [untracked] at tracked
      cases tracked
    · rfl
  · intro n tracked
    cases tracked
    exact ⟨_, List.getElem?_concat_length, active⟩
  · intro other member api' backups' multiPath' same
    obtain ⟨a, there⟩ := List.mem_iff_getElem?.mp member
    have calm := idle there
    rw [same] at calm
    cases calm
  · intro a b one other first _ startsOne _
    rw [idle first] at startsOne
    cases startsOne

/-- A core exits while no call of `failover` waits. -/
theorem Kept.exited (kept : Kept engine) (quiet : Quiet engine)
    (there : engine.cores[n]? = some core) :
    Kept { engine with cores := engine.cores.set n { core with running := false } } := by
  refine ⟨?_, ?_, kept.starting, kept.alone, kept.single, quiet.waiting rfl, kept.outcomes⟩
  · intro m one here running
    rcases getElem?_set_cases here with ⟨_, rfl⟩ | ⟨_, old⟩
    · cases running
    · exact kept.running m one old running
  · intro m tracked
    obtain ⟨one, known, active⟩ := kept.current m tracked
    by_cases same : n = m
    · subst same
      rw [there] at known
      cases known
      exact ⟨_, List.getElem?_set_self (List.getElem?_eq_some_iff.mp there).1, active⟩
    · exact ⟨one, (List.getElem?_set_ne same).trans known, active⟩

end Invariant

section Requests

variable {hasOutbound : Server → Bool} {engine later : Engine} {call : Call} {request : Request}
  {core : Core} {c n f : Nat} {event : Event}

theorem Kept.forgotten (kept : Kept engine) (there : engine.cores[n]? = some core)
    (exited : core.running = false) (tracked : engine.process = some n) :
    Kept { engine with process := none } := by
  have dead {m : Nat} {one : Core} (known : engine.cores[m]? = some one) : one.running = false := by
    cases running : one.running with
    | false => rfl
    | true =>
        have same := kept.running m one known running
        rw [tracked] at same
        cases same
        rw [there] at known
        cases known
        rw [exited] at running
        cases running
  refine ⟨?_, ?_, ?_, kept.alone, kept.single, ?_, kept.outcomes⟩
  · intro m one known running
    rw [dead known] at running
    cases running
  · intro m some_
    cases some_
  · intro call member api backups multiPath phase
    exact ⟨rfl, (kept.starting call member api backups multiPath phase).2⟩
  · intro request member waits
    have before := kept.waiting request member waits
    refine ⟨before.session, before.next, before.inside, fun answered => ?_⟩
    obtain ⟨m, one, _, known, running, _⟩ := before.moved answered
    rw [dead known] at running
    cases running

theorem Kept.asked (kept : Kept engine) (quiet : Quiet engine) : Kept engine.failover := by
  unfold Engine.failover
  split
  · exact kept
  · split
    · exact kept
    · rename_i api _ able
      rw [not_or, not_or] at able
      have inside : engine.activeIndex + 1 ≤ engine.activeStandby.length := by omega
      refine ⟨kept.running, kept.current, kept.starting, kept.alone, ?_, ?_, kept.outcomes⟩
      · intro a b one other first second waitsOne waitsOther
        rcases getElem?_append_singleton_cases first with old | ⟨rfl, _⟩
        · rw [quiet one (List.mem_of_getElem? old)] at waitsOne
          cases waitsOne
        · rcases getElem?_append_singleton_cases second with old | ⟨rfl, _⟩
          · rw [quiet other (List.mem_of_getElem? old)] at waitsOther
            cases waitsOther
          · rfl
      · intro request member waits
        rcases List.mem_append.mp member with old | last
        · rw [quiet request old] at waits
          cases waits
        · obtain rfl := List.mem_singleton.mp last
          refine ⟨rfl, rfl, inside, fun answered => ?_⟩
          cases answered

/-- While a request waits, it is the only one that does. -/
theorem Kept.eq_of_waits (kept : Kept engine) (here : engine.requests[f]? = some request)
    (waits : request.done = false) {new other : Request} {a : Nat}
    (there : (engine.requests.set f new)[a]? = some other) (waits_ : other.done = false) :
    a = f ∧ other = new := by
  rcases getElem?_set_cases there with both | ⟨different, old⟩
  · exact both
  · exact absurd (kept.single a f other request old here waits_ waits) different

theorem Kept.single_set (kept : Kept engine) (here : engine.requests[f]? = some request)
    (waits : request.done = false) (new : Request) : ∀ (a b : Nat) (one other : Request),
      (engine.requests.set f new)[a]? = some one → (engine.requests.set f new)[b]? = some other →
      one.done = false → other.done = false → a = b := by
  intro a b one other first second waitsOne waitsOther
  exact (kept.eq_of_waits here waits first waitsOne).1.trans
    (kept.eq_of_waits here waits second waitsOther).1.symm

theorem Kept.answered (kept : Kept engine) (here : engine.requests[f]? = some request)
    (waits : request.done = false) (there : engine.cores[n]? = some core)
    (running : core.running = true) : Kept (engine.handle f request n core) := by
  have tracked := kept.running n core there running
  have before := kept.waiting request (List.mem_of_getElem? here) waits
  have inside := (List.getElem?_eq_some_iff.mp there).1
  unfold Engine.handle
  dsimp only
  by_cases able : (core.selector && decide (request.next ≤ core.backups.length)) = true
  · rw [if_pos able]
    refine ⟨?_, ?_, kept.starting, kept.alone, kept.single_set here waits _, ?_, kept.outcomes⟩
    · intro m one known runs
      rcases getElem?_set_cases known with ⟨rfl, _⟩ | ⟨_, old⟩
      · exact tracked
      · exact kept.running m one old runs
    · intro m current
      obtain ⟨one, known, active⟩ := kept.current m current
      by_cases same : n = m
      · subst same
        rw [there] at known
        cases known
        exact ⟨_, List.getElem?_set_self inside, active⟩
      · exact ⟨one, (List.getElem?_set_ne same).trans known, active⟩
    · intro other member waits_
      obtain ⟨a, found⟩ := List.mem_iff_getElem?.mp member
      obtain ⟨_, rfl⟩ := kept.eq_of_waits here waits found waits_
      refine ⟨before.session, before.next, before.inside, fun _ => ?_⟩
      exact ⟨n, _, tracked, List.getElem?_set_self inside, running,
        (Bool.and_eq_true_iff.mp able).1, rfl⟩
  · rw [if_neg able]
    refine ⟨kept.running, kept.current, kept.starting, kept.alone, kept.single_set here waits _, ?_,
      kept.outcomes⟩
    intro other member waits_
    obtain ⟨a, found⟩ := List.mem_iff_getElem?.mp member
    obtain ⟨_, rfl⟩ := kept.eq_of_waits here waits found waits_
    exact ⟨before.session, before.next, before.inside, fun moved =>
      absurd (Option.some.inj moved) able⟩

theorem Kept.lost (kept : Kept engine) (here : engine.requests[f]? = some request)
    (waits : request.done = false) :
    Kept (engine.setRequest f { request with answer := some false }) := by
  have before := kept.waiting request (List.mem_of_getElem? here) waits
  refine ⟨kept.running, kept.current, kept.starting, kept.alone, kept.single_set here waits _, ?_,
    kept.outcomes⟩
  intro other member waits_
  obtain ⟨a, found⟩ := List.mem_iff_getElem?.mp member
  obtain ⟨_, rfl⟩ := kept.eq_of_waits here waits found waits_
  refine ⟨before.session, before.next, before.inside, fun moved => ?_⟩
  cases moved

/-- The core has moved: the call returns the server that it is on. -/
theorem Kept.sound (kept : Kept engine) (here : engine.requests[f]? = some request)
    (waits : request.done = false) (moved : request.answer = some true) : Sound
      { next := request.next
        standby := engine.activeStandby
        core := engine.process.bind fun n => engine.cores[n]?
        session := engine.session
        asked := request.session } := by
  have before := kept.waiting request (List.mem_of_getElem? here) waits
  obtain ⟨n, core, tracked, there, _, selector, selected⟩ := before.moved moved
  obtain ⟨same, known, active⟩ := kept.current n tracked
  rw [there] at known
  cases known
  have inside := before.inside
  have next := before.next
  have backups : core.backups = engine.activeStandby := by
    refine active.resolve_left fun empty => ?_
    rw [empty, List.length_nil] at inside
    omega
  refine ⟨?_, before.session⟩
  dsimp only
  have index : request.next - 1 < engine.activeStandby.length := by omega
  rw [tracked, Option.bind_some]
  refine ⟨engine.activeStandby[request.next - 1], core, List.getElem?_eq_getElem index, there,
    selector, selected, ?_⟩
  rw [backups]
  exact List.getElem?_eq_getElem index

theorem Kept.completed (kept : Kept engine) (here : engine.requests[f]? = some request)
    (waits : request.done = false) {moved : Bool} (answer : request.answer = some moved) :
    Kept (engine.complete f request moved) := by
  have quiet : ∀ other ∈ engine.requests.set f { request with done := true },
      other.done = true := by
    intro other member
    obtain ⟨a, found⟩ := List.mem_iff_getElem?.mp member
    cases known : other.done with
    | true => rfl
    | false =>
        obtain ⟨_, rfl⟩ := kept.eq_of_waits here waits found known
        exact known.symm
  unfold Engine.complete
  cases moved with
  | false =>
      refine ⟨kept.running, kept.current, kept.starting, kept.alone,
        kept.single_set here waits _, fun other member waits_ => ?_, kept.outcomes⟩
      rw [quiet other member] at waits_
      cases waits_
  | true =>
      refine ⟨kept.running, kept.current, kept.starting, kept.alone,
        kept.single_set here waits _, fun other member waits_ => ?_, fun outcome member => ?_⟩
      · rw [quiet other member] at waits_
        cases waits_
      · rcases List.mem_append.mp member with old | last
        · exact kept.outcomes outcome old
        · rw [List.mem_singleton.mp last]
          exact kept.sound here waits answer

end Requests

section Runs

variable {hasOutbound : Server → Bool} {engine later : Engine} {call : Call} {c : Nat}
  {event : Event}

theorem Kept.resumed (kept : Kept engine) (here : engine.calls[c]? = some call)
    (careful : Careful engine event)
    (taken : engine.resume hasOutbound c call event = some later) : Kept later := by
  cases event with
  | setStandby _ | connect _ _ | disconnect | exits _ | noticed _ | failover | handled _ _ | lost _
  | resumes _ => cases taken
  | coreStops c' =>
      unfold Engine.resume at taken
      dsimp only at taken
      split at taken
      · rename_i goesOn _
        cases taken
        cases goesOn with
        | true => exact (kept.stopped careful).phased c call .preparing rfl
        | false => exact (kept.stopped careful).phased c call .done rfl
      · cases taken
  | abandoned c' =>
      unfold Engine.resume at taken
      dsimp only at taken
      split at taken
      · cases taken
        exact kept.phased c call .done rfl
      · cases taken
  | begins c' api =>
      unfold Engine.resume at taken
      dsimp only at taken
      split at taken
      · cases taken
        exact kept.begun c call careful.1 careful.2 api _ _
      · cases taken
  | spawned c' =>
      unfold Engine.resume at taken
      dsimp only at taken
      split at taken
      · rename_i phase
        cases taken
        exact kept.spawns here careful phase
      · cases taken
  | spawnFailed c' =>
      unfold Engine.resume at taken
      dsimp only at taken
      split at taken
      · cases taken
        exact kept.phased c call .done rfl
      · cases taken
  | apiAnswered c' up =>
      unfold Engine.resume at taken
      dsimp only at taken
      split at taken
      · cases up with
        | true =>
            cases taken
            have moved := kept.phased c call .verifying rfl
            refine ⟨moved.running, moved.current, moved.starting, moved.alone, moved.single, ?_,
              moved.outcomes⟩
            exact fun request member waits =>
              (kept.waiting request member waits).same rfl rfl rfl rfl rfl
        | false =>
            cases taken
            have quiet := careful.resolve_left Bool.false_ne_true
            exact (kept.cleared quiet).phased c call (.disconnecting false) rfl
      · cases taken
  | verified c' passes =>
      unfold Engine.resume at taken
      dsimp only at taken
      split at taken
      · cases passes with
        | true =>
            cases taken
            exact kept.phased c call .done rfl
        | false =>
            cases taken
            have quiet := careful.resolve_left Bool.false_ne_true
            exact (kept.cleared quiet).phased c call (.disconnecting false) rfl
      · cases taken

theorem Kept.next (kept : Kept engine) (careful : Careful engine event)
    (taken : Failover.next hasOutbound engine event = some later) : Kept later := by
  have resumes (step : (event.call?.bind fun c => engine.calls[c]?.bind fun call =>
      engine.resume hasOutbound c call event) = some later) : Kept later := by
    obtain ⟨c, _, step⟩ := Option.bind_eq_some_iff.mp step
    obtain ⟨call, here, step⟩ := Option.bind_eq_some_iff.mp step
    exact kept.resumed here careful step
  cases event with
  | setStandby standby =>
      cases taken
      refine ⟨kept.running, kept.current, kept.starting, kept.alone, kept.single, ?_, kept.outcomes⟩
      exact fun request member waits => (kept.waiting request member waits).same rfl rfl rfl rfl rfl
  | connect server multiPath =>
      cases taken
      exact (kept.cleared careful).called _ rfl
  | disconnect =>
      cases taken
      exact (kept.cleared careful).called _ rfl
  | exits n =>
      obtain ⟨core, there, rfl⟩ := Option.map_eq_some_iff.mp taken
      exact kept.exited careful there
  | noticed n =>
      obtain ⟨core, there, step⟩ := Option.bind_eq_some_iff.mp taken
      split at step
      · cases step
      · rename_i exited
        cases step
        split
        · rename_i tracked
          exact kept.forgotten there (eq_false_of_ne_true exited) tracked
        · exact kept
  | failover =>
      cases taken
      exact kept.asked careful
  | handled f n =>
      obtain ⟨request, here, step⟩ := Option.bind_eq_some_iff.mp taken
      obtain ⟨core, there, step⟩ := Option.bind_eq_some_iff.mp step
      split at step
      · rename_i able
        cases step
        exact kept.answered here able.1 there able.2.2.1
      · cases step
  | lost f =>
      obtain ⟨request, here, step⟩ := Option.bind_eq_some_iff.mp taken
      split at step
      · cases step
      · rename_i waits
        cases step
        exact kept.lost here (eq_false_of_ne_true waits)
  | resumes f =>
      obtain ⟨request, here, step⟩ := Option.bind_eq_some_iff.mp taken
      split at step
      · cases step
      · rename_i waits
        obtain ⟨moved, answer, rfl⟩ := Option.map_eq_some_iff.mp step
        exact kept.completed here (eq_false_of_ne_true waits) answer
  | coreStops c => exact resumes taken
  | abandoned c => exact resumes taken
  | begins c api => exact resumes taken
  | spawned c => exact resumes taken
  | spawnFailed c => exact resumes taken
  | apiAnswered c up => exact resumes taken
  | verified c passes => exact resumes taken

/-- In a run whose steps are all careful, a call of `failover` that the core has answered returns
the server that the current core is on, at the index of the session that it was called in. -/
theorem sound_of_careful {events : List Event}
    (run : Run (Restrict (ofNext (Failover.next hasOutbound)) Careful) .initial events engine) :
    ∀ outcome ∈ engine.outcomes, Sound outcome :=
  (run.invariant Kept (fun _ _ _ step kept => kept.next step.2 step.1) kept_initial).outcomes

end Runs

section Claim

def plainServer (uri : String) : Server :=
  { uri := uri.toList
    countryCode := []
    protocol := .vless }

def plainNext : Engine → Event → Option Engine := next fun _ => true

/-- A connection to the main server, with one backup. -/
def connected (c api : Nat) : List Event :=
  [.setStandby [plainServer "vless://b"], .connect (plainServer "vless://a") false, .coreStops c,
    .begins c api, .spawned c, .apiAnswered c true, .verified c true]

/-- The user disconnects while the core answers. -/
def disconnected : List Event :=
  connected 0 9000 ++ [.failover, .handled 0 0, .disconnect, .resumes 0]

/-- The user disconnects and connects again while the core answers. -/
def reconnected : List Event :=
  connected 0 9000 ++ [.failover, .handled 0 0, .disconnect, .coreStops 1] ++ connected 2 9001 ++
    [.resumes 0]

/-- The last call of `failover` that goes on: the member that it asks for, the server that it
returns, if it is in the list, and the member that the current core is on. -/
def lastOutcome (events : List Event) : Option (Nat × Option Server × Option Nat) :=
  (execute plainNext .initial events).bind fun engine => engine.outcomes.getLast?.map fun outcome =>
    (outcome.next, outcome.standby[outcome.next - 1]?, outcome.core.map Core.selected)

theorem lastOutcome_disconnected : lastOutcome disconnected = some (1, none, some 1) := by
  decide +kernel

theorem lastOutcome_reconnected :
    lastOutcome reconnected = some (1, some (plainServer "vless://b"), some 0) := by
  decide +kernel

theorem Sound.outcome {outcome : Outcome} (sound : Sound outcome) :
    outcome.standby[outcome.next - 1]? ≠ none ∧
      outcome.core.map Core.selected = some outcome.next := by
  obtain ⟨server, core, listed, current, _, selected, _⟩ := sound.served
  rw [listed, current, Option.map_some, selected]
  exact ⟨Option.some_ne_none server, rfl⟩

theorem not_sound_of_lastOutcome {events : List Event} {next : Nat} {server : Option Server}
    {selected : Option Nat} (last : lastOutcome events = some (next, server, selected))
    (strays : server = none ∨ selected ≠ some next) :
    ¬∀ engine, Run (ofNext plainNext) .initial events engine →
      ∀ outcome ∈ engine.outcomes, Sound outcome := by
  intro claimed
  obtain ⟨engine, executed, seen⟩ := Option.bind_eq_some_iff.mp last
  obtain ⟨outcome, member, same⟩ := Option.map_eq_some_iff.mp seen
  obtain ⟨listed, current⟩ :=
    (claimed engine (run_of_execute executed) outcome (List.mem_of_getLast? member)).outcome
  cases same
  rcases strays with missing | elsewhere
  · exact listed missing
  · exact elsewhere current

/-- After a disconnect `failover` reads outside of the list, and after a further connect it returns
a server that the new core is not on. -/
theorem strayed :
    (¬∀ engine, Run (ofNext plainNext) .initial disconnected engine →
      ∀ outcome ∈ engine.outcomes, Sound outcome) ∧
    ¬∀ engine, Run (ofNext plainNext) .initial reconnected engine →
      ∀ outcome ∈ engine.outcomes, Sound outcome :=
  ⟨not_sound_of_lastOutcome lastOutcome_disconnected (.inl rfl),
    not_sound_of_lastOutcome lastOutcome_reconnected (.inr (by decide))⟩

instance decidableQuiet (engine : Engine) : Decidable (Quiet engine) :=
  inferInstanceAs (Decidable (∀ request ∈ engine.requests, request.done = true))

/-- A step that is careful, as long as the cores do not exit. -/
def isCareful (engine : Engine) : Event → Bool
  | .connect _ _ => Quiet engine
  | .disconnect => Quiet engine
  | .coreStops _ => Quiet engine
  | .begins _ _ => decide (Quiet engine) && engine.calls.all fun call => !call.phase.Starting
  | .spawned _ => Quiet engine
  | .apiAnswered _ up => up
  | .verified _ passes => passes
  | .exits _ => false
  | .failover => Quiet engine
  | _ => true

theorem careful_of_isCareful {engine : Engine} {event : Event}
    (checked : isCareful engine event = true) : Careful engine event := by
  have quiet (holds : decide (Quiet engine) = true) : Quiet engine := of_decide_eq_true holds
  cases event with
  | connect _ _ | disconnect | coreStops _ | spawned _ | failover => exact quiet checked
  | begins c api =>
      rw [isCareful, Bool.and_eq_true, decide_eq_true_iff, List.all_eq_true] at checked
      refine ⟨checked.1, fun call member => ?_⟩
      rw [← Bool.not_eq_true']
      exact checked.2 call member
  | apiAnswered c up => exact .inl checked
  | verified c passes => exact .inl checked
  | exits n => cases checked
  | _ => trivial

/-- A call of `failover`, and the user disconnects after it. -/
def inTurn : List Event :=
  connected 0 9000 ++ [.failover, .handled 0 0, .resumes 0, .disconnect, .coreStops 1]

theorem executed_inTurn : (executeChecked plainNext isCareful .initial inTurn).isSome = true := by
  decide +kernel

theorem sound_of_careful_inTurn : ∃ engine, Run (ofNext plainNext) .initial inTurn engine ∧
    ∀ outcome ∈ engine.outcomes, Sound outcome := by
  obtain ⟨engine, executed⟩ := Option.isSome_iff_exists.mp executed_inTurn
  have run := run_of_executeChecked executed
  exact ⟨engine, run.of_restrict, sound_of_careful (run.mono fun _ _ _ step =>
    ⟨step.1, careful_of_isCareful step.2⟩)⟩

end Claim

end MolidoVpn.Windows.Failover
