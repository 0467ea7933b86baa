import MolidoVpn.Desktop.Requests

/-!
What one stretch of a program of the controller can do: to the runs of `_connect`, by the stages
of `connect` that it comes from and goes to, and to the state once a connection has been cancelled
or taken down. What `_connect` does in a stretch is derived here, path by path.
-/

namespace MolidoVpn.Desktop

open Cooperative

/-- How far a caller of `connect` has come. -/
inductive Stage where
  | outside
  | waiting (previous : Nat)
  | checked
  | running (run : Nat)
  | ended (run : Nat)
  deriving DecidableEq

def Site.stage : Site → Stage
  | previousRun previous => .waiting previous
  | remoteConfig => .checked
  | attempt run _ => .running run
  | ownRun run => .ended run
  | _ => .outside

/-- Whether the code goes on to connect when a cancel or a disconnect comes at an await: never, as
long as nobody has set `_cancel`, or even then. -/
inductive Exposure where
  | never
  | uncancelled
  | always
  deriving DecidableEq

def Via.exposure : Via → Exposure
  | only => .never
  | ranked => .always
  | smart => .always
  | _ => .uncancelled

def Place.exposure : Place → Exposure
  | rememberWinner => .never
  | cancelledDisconnect => .never
  | unexpectedDisconnect => .never
  | amneziaReturns _ true => .never
  | amneziaAutoReturns _ true => .never
  | fallbackReturns true => .never
  | wireGuardReturns true => .never
  | smartReturns true => .never
  | exitTrace via => via.exposure
  | exitPrefs via => via.exposure
  | exitStored via => via.exposure
  | exitIsIranReturns via => via.exposure
  | exitOkReturns via true => via.exposure
  | amneziaUpdate _ => .always
  | measureHealth => .always
  | measureReturns => .always
  | _ => .uncancelled

def Caller.exposure : Caller → Exposure
  | user => .never
  | _ => .always

def Site.exposure : Site → Exposure
  | init _ => .always
  | previousRun _ => .always
  | remoteConfig => .always
  | attempt _ place => place.exposure
  | engineDisconnect caller => caller.exposure
  | disconnectReturns caller => caller.exposure
  | failover => .always
  | trySettings => .always
  | _ => .never

def Exposure.rank : Exposure → Nat
  | never => 0
  | uncancelled => 1
  | always => 2

def Exposure.Quiet (cancel : Bool) : Exposure → Prop
  | never => True
  | uncancelled => cancel = true
  | always => False

/-- A program that waits here does not connect any more. -/
def Site.Quiet (site : Site) (c : Controller) : Prop :=
  site.exposure.Quiet c.cancel

/-- Neither connecting nor connected. -/
def Controller.Down (c : Controller) : Prop :=
  c.state = .disconnected ∨ c.state = .disconnecting

/-- The user, or the schedule, asks for a connection. -/
def Entry.Requests (c : Controller) : Entry → Prop
  | toggle => c.state = .disconnected
  | connectTo _ => True
  | tryAgain => True
  | scheduleTick enabled inside =>
      enabled = true ∧ inside = true ∧ c.scheduleInside = some false ∧ c.state = .disconnected
  | _ => False

/-- A stretch that begins here, in this state, must not connect. -/
def Calm (c : Controller) : Origin controllerSignature → Prop
  | .entry entry => c.Down ∧ ¬entry.Requests c
  | .site site => c.Down ∧ site.Quiet c

/-- The stretch may call `connect`. -/
def CallsConnect (c : Controller) : Origin controllerSignature → Prop
  | .entry .toggle => c.state = .disconnected
  | .entry (.connectTo _) => True
  | .entry .tryAgain => True
  | .entry (.scheduleTick _ _) => c.state = .disconnected
  | .entry (.engineState _) => c.state = .connected
  | .entry _ => False
  | .site (.disconnectReturns caller) => caller ≠ .user
  | .site .failover => True
  | .site .trySettings => True
  | .site (.init _) => True
  | .site _ => False

/-- The fields that only `connect` writes. -/
structure Runs where
  connectRun : Option Nat
  running : List Nat
  starts : List RunStart
  nextRun : Nat

def Controller.runs (c : Controller) : Runs :=
  { connectRun := c.connectRun
    running := c.running
    starts := c.starts
    nextRun := c.nextRun }

namespace Runs

def begin (state : VpnState) (r : Runs) : Runs :=
  { connectRun := some r.nextRun
    running := r.running ++ [r.nextRun]
    starts := r.starts ++ [⟨state, r.running⟩]
    nextRun := r.nextRun + 1 }

def complete (run : Nat) (r : Runs) : Runs :=
  { r with running := r.running.erase run }

def forget (run : Nat) (r : Runs) : Runs :=
  { r with connectRun := if r.connectRun = some run then none else r.connectRun }

end Runs

def stageOf : Origin controllerSignature → Stage
  | .entry _ => .outside
  | .site site => site.stage

/-- A stretch that begins a run: which state the run starts from. -/
def Begins (origin : Origin controllerSignature) (before : Controller) (state : VpnState) : Prop :=
  match stageOf origin with
  | .outside => CallsConnect before origin ∧ before.connectRun = none ∧ state = .disconnected
  | .waiting _ => state = .disconnected
  | .checked => state = before.state
  | _ => False

/-- What a stretch does to the runs on its way to a stage. -/
def MovesRuns (origin : Origin controllerSignature) (before : Controller) (stage : Stage)
    (after : Controller) : Prop :=
  match stage with
  | .outside =>
      (before.state = .disconnected → after.state = .disconnected) ∧
        match stageOf origin with
        | .ended run => after.runs = before.runs.forget run
        | .running _ => False
        | _ => after.runs = before.runs
  | .waiting previous =>
      stageOf origin = .outside ∧ before.connectRun = some previous ∧
        after.runs = before.runs ∧ (before.state = .disconnected → after.state = .disconnected)
  | .checked =>
      after.runs = before.runs ∧ after.state = .disconnected ∧
        match stageOf origin with
        | .outside => CallsConnect before origin ∧ before.connectRun = none
        | .waiting _ => True
        | _ => False
  | .running run =>
      (stageOf origin = .running run ∧ after.runs = before.runs) ∨
        ∃ state, Begins origin before state ∧ run = before.nextRun ∧
          after.runs = before.runs.begin state
  | .ended run =>
      (stageOf origin = .running run ∧ after.runs = before.runs.complete run) ∨
        ∃ state, Begins origin before state ∧ run = before.nextRun ∧
          after.runs = (before.runs.begin state).complete run

def stageOfPlace : Option Site → Stage
  | none => .outside
  | some site => site.stage

def QuietPlace (c : Controller) : Option Site → Prop
  | none => True
  | some site => site.Quiet c

/-- What a stretch of the controller does. -/
def Moves (origin : Origin controllerSignature) (before : Controller) (place : Option Site)
    (after : Controller) : Prop :=
  MovesRuns origin before (stageOfPlace place) after ∧
    (Calm before origin →
      after.Down ∧ (before.cancel = true → after.cancel = true) ∧ QuietPlace after place)

/-- A stretch that has come to a place inside a run, or begins there, as far as the exposure of
the place allows. -/
structure Inside (run : Nat) (exposure : Exposure) (origin : Origin controllerSignature)
    (before now : Controller) : Prop where
  runs : MovesRuns origin before (.running run) now
  calm : Calm before origin →
    now.Down ∧ (before.cancel = true → now.cancel = true) ∧ exposure.Quiet now.cancel

section Inside

variable {run : Nat} {exposure : Exposure} {origin : Origin controllerSignature}
  {before now : Controller}

theorem Inside.moves (inside : Inside run exposure origin before now) {place : Place}
    (same : place.exposure = exposure) :
    Moves origin before (some (.attempt run place)) now := by
  subst same
  exact ⟨inside.runs, inside.calm⟩

theorem inside_resumed (run : Nat) (place : Place) (now : Controller) :
    Inside run place.exposure (.site (.attempt run place)) now now := by
  constructor
  · exact Or.inl ⟨rfl, rfl⟩
  · intro calm
    exact ⟨calm.1, id, calm.2⟩

/-- Nothing is asked of a stretch that nobody has cancelled. -/
theorem Inside.of_not_calm (inside : Inside run exposure origin before now)
    (free : ¬Calm before origin) (other : Exposure) : Inside run other origin before now :=
  ⟨inside.runs, fun calm => absurd calm free⟩

theorem Inside.not_calm (inside : Inside run .always origin before now) :
    ¬Calm before origin :=
  fun calm => (inside.calm calm).2.2

/-- What is known at a more exposed place is known at a less exposed one. -/
theorem Inside.weaken {less : Exposure} (inside : Inside run exposure origin before now)
    (below : less.rank ≤ exposure.rank) : Inside run less origin before now := by
  refine ⟨inside.runs, ?_⟩
  intro calm
  have kept := inside.calm calm
  refine ⟨kept.1, kept.2.1, ?_⟩
  cases exposure with
  | always => exact kept.2.2.elim
  | uncancelled =>
      cases less with
      | always => exact absurd below (by decide)
      | uncancelled => exact kept.2.2
      | never => trivial
  | never =>
      cases less with
      | always => exact absurd below (by decide)
      | uncancelled => exact absurd below (by decide)
      | never => trivial

/-- A stretch that finds `_cancel` unset has not been cancelled. -/
theorem Inside.uncancelled (inside : Inside run .uncancelled origin before now)
    (unset : now.cancel ≠ true) : Inside run .always origin before now :=
  inside.of_not_calm (fun calm => unset (inside.calm calm).2.2) _

theorem MovesRuns.congr {after : Controller}
    (moved : MovesRuns origin before (.running run) now) (same : after.runs = now.runs) :
    MovesRuns origin before (.running run) after := by
  rcases moved with ⟨stage, old⟩ | ⟨state, begins, number, new⟩
  · exact Or.inl ⟨stage, same.trans old⟩
  · exact Or.inr ⟨state, begins, number, same.trans new⟩

/-- A stretch that nobody has cancelled may set the state. -/
theorem Inside.change {after : Controller} (inside : Inside run .always origin before now)
    (same : after.runs = now.runs) : Inside run .always origin before after :=
  ⟨inside.runs.congr same, fun calm => absurd calm inside.not_calm⟩

theorem Inside.keep {after : Controller} (inside : Inside run exposure origin before now)
    (same : after.runs = now.runs) (down : now.Down → after.Down)
    (cancel : after.cancel = now.cancel) : Inside run exposure origin before after := by
  refine ⟨inside.runs.congr same, ?_⟩
  intro calm
  have kept := inside.calm calm
  rw [cancel]
  exact ⟨down kept.1, kept.2.1, kept.2.2⟩

end Inside

/-- How a function that `_connect` calls ends: what is known of the last stretch if it returns,
and if it throws. -/
def Ends {α : Type} (run : Nat) (result : α → Exposure) (thrown : Exposure)
    (origin : Origin controllerSignature) (before : Controller) (outcome : Except Thrown α)
    (now : Controller) : Prop :=
  match outcome with
  | .ok value => Inside run (result value) origin before now
  | .error _ => Inside run thrown origin before now

/-- A function that `_connect` calls with this known of the stretch it is called in. -/
def Spec {α : Type} (run : Nat) (call : Exposure) (code : Code α) (result : α → Exposure)
    (thrown : Exposure) : Prop :=
  ∀ origin before now, Inside run call origin before now →
    Obeys Moves (Ends run result thrown) origin before code now

section Rules

variable {α β : Type} {run : Nat} {call thrown middleThrown : Exposure} {code : Code α}
  {result : α → Exposure} {next : α → Code β} {results : β → Exposure}

theorem Spec.weaken {stronger strongerThrown : Exposure} {strongerResult : α → Exposure}
    (spec : Spec run call code strongerResult strongerThrown)
    (known : call.rank ≤ stronger.rank)
    (returns : ∀ value, (result value).rank ≤ (strongerResult value).rank)
    (throws : thrown.rank ≤ strongerThrown.rank) : Spec run stronger code result thrown := by
  intro origin before now inside
  apply (spec origin before now (inside.weaken known)).mono
  intro origin before outcome now ended
  cases outcome with
  | ok value => exact Inside.weaken ended (returns value)
  | error error => exact Inside.weaken ended throws

/-- A stretch that nobody has cancelled may call whatever may be called in a cancelled one. -/
theorem Spec.free (spec : Spec run .uncancelled code result thrown) :
    Spec run .always code result thrown :=
  spec.weaken (Nat.le_succ 1) (fun _ => Nat.le_refl _) (Nat.le_refl _)

theorem Spec.bind (first : Spec run call code result middleThrown)
    (second : ∀ value, Spec run (result value) (next value) results thrown)
    (throws : thrown.rank ≤ middleThrown.rank) :
    Spec run call (code >>= next) results thrown := by
  intro origin before now inside
  apply (first origin before now inside).bind
  · intro origin before value now ended
    exact second value origin before now ended
  · intro origin before error now ended
    exact Inside.weaken ended throws

theorem spec_pure {value : α} (known : (result value).rank ≤ call.rank) :
    Spec run call (pure value) result thrown := by
  intro origin before now inside
  exact inside.weaken known

theorem spec_throw {error : Thrown} (known : thrown.rank ≤ call.rank) :
    Spec run call (throw error : Code α) result thrown := by
  intro origin before now inside
  exact inside.weaken known

theorem spec_look {query : Query} {rest : query.Value → Code β}
    (second : ∀ value, Spec run call (rest value) results thrown) :
    Spec run call (look query >>= rest) results thrown := by
  intro origin before now inside value
  exact second value origin before now inside

theorem spec_read {rest : Controller → Code β}
    (second : ∀ c, Spec run call (rest c) results thrown) :
    Spec run call (read >>= rest) results thrown := by
  intro origin before now inside
  exact second now origin before now inside

/-- What comes after the first look at `_cancel`. -/
theorem spec_cancel {rest : Controller → Code β}
    (set : ∀ c, c.cancel = true → Spec run .uncancelled (rest c) results thrown)
    (unset : ∀ c, c.cancel ≠ true → Spec run .always (rest c) results thrown) :
    Spec run .uncancelled (read >>= rest) results thrown := by
  intro origin before now inside
  by_cases cancelled : now.cancel = true
  · exact set now cancelled origin before now inside
  · exact unset now cancelled origin before now (inside.uncancelled cancelled)

theorem spec_update {change : Controller → Controller} (same : ∀ c, (change c).runs = c.runs) :
    Spec run .always (update change) (fun _ => .always) thrown := by
  intro origin before now inside
  exact inside.change (same now)

theorem spec_keep {change : Controller → Controller} (same : ∀ c, (change c).runs = c.runs)
    (down : ∀ c, c.Down → (change c).Down) (cancel : ∀ c, (change c).cancel = c.cancel) :
    Spec run call (update change) (fun _ => call) thrown := by
  intro origin before now inside
  exact inside.keep (same now) (down now) (cancel now)

theorem spec_update_then {change : Controller → Controller} {rest : Unit → Code β}
    (same : ∀ c, (change c).runs = c.runs) (after : Spec run .always (rest ()) results thrown) :
    Spec run .always (update change >>= rest) results thrown := by
  intro origin before now inside
  exact after origin before (change now) (inside.change (same now))

/-- An update that leaves the runs, the state and `_cancel` alone, or takes the state down. -/
theorem spec_keep_then {change : Controller → Controller} {rest : Unit → Code β}
    (same : ∀ c, (change c).runs = c.runs) (down : ∀ c, c.Down → (change c).Down)
    (cancel : ∀ c, (change c).cancel = c.cancel)
    (after : Spec run call (rest ()) results thrown) :
    Spec run call (update change >>= rest) results thrown := by
  intro origin before now inside
  exact after origin before (change now) (inside.keep (same now) (down now) (cancel now))

theorem spec_ite {condition : Prop} [Decidable condition] {other : Code α}
    (holds : condition → Spec run call code result thrown)
    (fails : ¬condition → Spec run call other result thrown) :
    Spec run call (if condition then code else other) result thrown := by
  split
  · exact holds ‹_›
  · exact fails ‹_›

/-- Something that is done or left out. -/
theorem Spec.orPure {condition : Prop} [Decidable condition] {value : α}
    (spec : Spec run call code (fun _ => call) call) :
    Spec run call (if condition then code else pure value) (fun _ => call) call :=
  spec_ite (fun _ => spec) fun _ => spec_pure (Nat.le_refl _)

theorem Spec.pureOr {condition : Prop} [Decidable condition] {value : α}
    (spec : Spec run call code (fun _ => call) call) :
    Spec run call (if condition then pure value else code) (fun _ => call) call :=
  spec_ite (fun _ => spec_pure (Nat.le_refl _)) fun _ => spec

theorem Spec.tryCatch {handler : Thrown → Code α}
    (first : Spec run call code result middleThrown)
    (second : ∀ error, Spec run middleThrown (handler error) result thrown) :
    Spec run call (Program.tryCatch code handler) result thrown := by
  intro origin before now inside
  apply (first origin before now inside).andThen
  intro origin before outcome now ended
  cases outcome with
  | ok value => exact ended
  | error error => exact second error origin before now ended

namespace Attempt

theorem spec_at (a : Attempt) (place : Place) :
    Spec a.run place.exposure (a.at_ place) (fun _ => place.exposure) place.exposure := by
  intro origin before now inside
  refine ⟨inside.moves rfl, ?_⟩
  intro answer later
  have resumed := inside_resumed a.run place later
  cases answer with
  | ok value => exact resumed
  | error error => exact resumed

theorem spec_calls (a : Attempt) {place : Except Thrown α → Place}
    (first : Spec a.run call code result middleThrown)
    (returns : ∀ value, (place (.ok value)).exposure.rank ≤ (result value).rank)
    (throws : ∀ error, (place (.error error)).exposure.rank ≤ middleThrown.rank)
    (thrownAfter : ∀ error, thrown.rank ≤ (place (.error error)).exposure.rank) :
    Spec a.run call (a.calls place code) (fun value => (place (.ok value)).exposure) thrown := by
  intro origin before now inside
  apply (first origin before now inside).call
  intro origin before outcome now ended
  cases outcome with
  | ok value =>
      exact ⟨(Inside.weaken ended (returns value)).moves rfl,
        fun later => inside_resumed a.run _ later⟩
  | error error =>
      exact ⟨(Inside.weaken ended (throws error)).moves rfl,
        fun later => (inside_resumed a.run _ later).weaken (thrownAfter error)⟩

end Attempt

end Rules

end MolidoVpn.Desktop
