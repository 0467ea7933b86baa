import MolidoVpn.Desktop.Callers

/-!
Cancelling and disconnecting in the desktop controller. `_cancel` is looked at by hand after some
of the awaits, and `disconnect` does not set it; whether the controller stays down depends on
where its programs wait just then.
-/

namespace MolidoVpn.Desktop

open Cooperative
open Transition (Run ofNext Restrict execute run_of_execute executeChecked run_of_executeChecked)

/-- The user cancels a connection that is being made, or takes down one that is there. -/
def Entry.Stops (c : Controller) : Entry → Prop
  | toggle => c.state = .connecting ∨ c.state = .connected
  | disconnect => c.state ≠ .disconnected
  | _ => False

/-- `_cancel` just after the user has stopped. -/
def Entry.cancelAfter (c : Controller) (entry : Entry) : Bool :=
  c.cancel || (entry = .toggle && c.state = .connecting)

/-- No program waits at a place from which it goes on to connect when this happens: where
`_cancel` is not looked at any more, or, as long as it is not set, anywhere in an attempt that has
not connected yet. -/
def Settled (entry : Entry) (outline : Outline controllerSignature) : Prop :=
  ∀ site, some site ∈ outline.places → site.exposure.Quiet (entry.cancelAfter outline.state)

def Asks (c : Controller) : Origin controllerSignature → Prop
  | .entry entry => entry.Requests c
  | .site _ => False

/-- The controller is down, and none of its programs connects any more. -/
structure Hushed (outline : Outline controllerSignature) : Prop where
  down : outline.state.Down
  quiet : ∀ site, some site ∈ outline.places → site.Quiet outline.state

theorem Exposure.Quiet.mono {cancel later : Bool} {exposure : Exposure}
    (quiet : exposure.Quiet cancel) (kept : cancel = true → later = true) :
    exposure.Quiet later := by
  cases exposure with
  | never => trivial
  | uncancelled => exact kept quiet
  | always => exact quiet

/-- One step that is not a request. -/
theorem Hushed.step {outline later : Outline controllerSignature}
    {origin : Origin controllerSignature} (hushed : Hushed outline)
    (step : Outline.Step Moves ready outline origin later) (silent : ¬Asks outline.state origin) :
    Hushed later := by
  cases step with
  | start moved =>
      have kept := moved.2 ⟨hushed.down, silent⟩
      constructor
      · exact kept.1
      · intro site member
        rcases List.mem_append.mp member with old | new
        · exact (hushed.quiet site old).mono kept.2.1
        · cases List.mem_singleton.mp new
          exact kept.2.2
  | resume here may moved =>
      have kept := moved.2 ⟨hushed.down, hushed.quiet _ (List.mem_of_getElem? here)⟩
      constructor
      · exact kept.1
      · intro site member
        rcases List.mem_or_eq_of_mem_set member with old | new
        · exact (hushed.quiet site old).mono kept.2.1
        · cases new
          exact kept.2.2

theorem Hushed.run {start finish : Outline controllerSignature}
    {origins : List (Origin controllerSignature)} (hushed : Hushed start)
    (run : Run (Restrict (Outline.Step Moves ready) fun outline origin =>
      ¬Asks outline.state origin) start origins finish) : Hushed finish :=
  run.invariant Hushed (fun _ _ _ taken hushed => hushed.step taken.1 taken.2) hushed

theorem stretch_toggle_connecting {c : Controller} (connecting : c.state = .connecting)
    (eyes : ∀ query : Query, query.Value) :
    toggle.stretch (S := controllerSignature) eyes c =
      (.done (.ok ()), ({ c with cancel := true } : Controller).markDisconnected) := by
  obtain ⟨state, _⟩ := c
  cases connecting
  rfl

theorem stretch_userDisconnect {c : Controller} (up : c.state ≠ .disconnected)
    (eyes : ∀ query : Query, query.Value) :
    let left := (awaitDisconnect .user).stretch (S := controllerSignature) eyes c
    left.1.site? = some (.engineDisconnect .user) ∧
      left.2 = { c with state := .disconnecting, userStopping := true } := by
  obtain ⟨state, _⟩ := c
  cases state with
  | disconnected => exact absurd rfl up
  | connecting => exact ⟨rfl, rfl⟩
  | connected => exact ⟨rfl, rfl⟩
  | disconnecting => exact ⟨rfl, rfl⟩

theorem outline_start (system : System controllerSignature) (entry : Entry)
    (eyes : ∀ query : Query, query.Value) :
    (system.start program entry eyes).outline =
      { state := ((program entry).stretch (S := controllerSignature) eyes system.state).2
        places := system.outline.places ++
          [((program entry).stretch (S := controllerSignature) eyes system.state).1.site?] } := by
  rw [System.outline, System.start, List.map_append]
  rfl

theorem stretch_toggle_connected {c : Controller} (connected : c.state = .connected)
    (eyes : ∀ query : Query, query.Value) :
    toggle.stretch (S := controllerSignature) eyes c =
      (awaitDisconnect .user).stretch (S := controllerSignature) eyes c := by
  obtain ⟨state, _⟩ := c
  cases connected
  rfl

/-- The stop itself, of a settled controller. -/
theorem hushed_start {before : System controllerSignature} {entry : Entry}
    {eyes : ∀ query : Query, query.Value} (stops : entry.Stops before.state)
    (settled : Settled entry before.outline) :
    Hushed (before.start program entry eyes).outline := by
  have left (up : before.state.state ≠ .disconnected) (unset : entry.cancelAfter before.state =
      before.state.cancel)
      (same : (program entry).stretch (S := controllerSignature) eyes before.state =
        (awaitDisconnect .user).stretch (S := controllerSignature) eyes before.state) :
      Hushed (before.start program entry eyes).outline := by
    have stretch := stretch_userDisconnect up eyes
    rw [outline_start, same]
    constructor
    · rw [stretch.2]
      exact Or.inr rfl
    · intro site member
      rw [stretch.2]
      rcases List.mem_append.mp member with old | new
      · have quiet := settled site old
        rw [show before.outline.state = before.state from rfl, unset] at quiet
        exact quiet
      · rw [stretch.1] at new
        cases List.mem_singleton.mp new
        trivial
  cases entry with
  | toggle =>
      rcases stops with connecting | connected
      · rw [outline_start, show program .toggle = toggle from rfl,
          stretch_toggle_connecting connecting]
        constructor
        · exact Or.inl rfl
        · intro site member
          rcases List.mem_append.mp member with old | new
          · exact (settled site old).mono fun _ => rfl
          · cases List.mem_singleton.mp new
      · apply left
        · rw [connected]
          decide
        · simp [Entry.cancelAfter, connected]
        · exact stretch_toggle_connected connected eyes
  | disconnect =>
      apply left stops _ rfl
      simp [Entry.cancelAfter]
  | _ => exact stops.elim

/-- Whatever the controller is doing: once the user has cancelled or disconnected it, while no
program waits at an exposed place, it stays down until somebody asks for a connection. -/
theorem down_after_stop {labels more : List (Label controllerSignature)}
    {before finish : System controllerSignature} {entry : Entry}
    {eyes : ∀ query : Query, query.Value}
    (run : Run (ofNext next) initialSystem labels before) (stops : entry.Stops before.state)
    (settled : Settled entry before.outline)
    (later : Run (Restrict (ofNext next) fun system label => ¬Asks system.state label.whence)
      (before.start program entry eyes) more finish) :
    finish.state.Down := by
  have free : Run (Restrict (ofNext next) fun _ _ => True) initialSystem labels before :=
    run.mono fun _ _ _ taken => ⟨taken, trivial⟩
  have obedient : before.Obedient Moves :=
    (System.Obedient.run (fun _ _ => True) obedient_initialSystem obeys_program free).1
  have taken : next before (.start entry eyes) = some (before.start program entry eyes) := rfl
  have started : (before.start program entry eyes).Obedient Moves :=
    (obedient.next obeys_program taken).1
  have outlined := (started.run (fun outline origin => ¬Asks outline.state origin)
    obeys_program later).2
  exact ((hushed_start stops settled).run outlined).down

def isResume : Label controllerSignature → Bool
  | .resume _ _ _ _ => true
  | .start _ _ => false

/-- A run of `_connect` in which the engine has connected, and its exit country is being asked. -/
def exitAsked : List (Label controllerSignature) :=
  launched ++
    [starts .toggle, resumes 1 (.attempt 0 .candidates) [plainServer],
      resumes 1 (.attempt 0 .networkKey) (), resumes 1 (.attempt 0 .smartPrefs) (),
      resumes 1 (.attempt 0 .probeAll) (), resumes 1 (.attempt 0 .probeReturns) (),
      resumes 1 (.attempt 0 (.engineConnect .smart)) (some true),
      resumes 1 (.attempt 0 (.directConnectReturns .smart)) ()]

def exitAnswered : List (Label controllerSignature) :=
  [resumes 1 (.attempt 0 (.exitTrace .smart)) (some "DE".toList),
    resumes 1 (.attempt 0 (.exitIsIranReturns .smart)) (),
    resumes 1 (.attempt 0 (.exitOkReturns .smart true)) ()]

theorem silent_of_executed {start finish : System controllerSignature}
    {labels : List (Label controllerSignature)}
    (executed : executeChecked next (fun _ => isResume) start labels = some finish) :
    Run (Restrict (ofNext next) fun system label => ¬Asks system.state label.whence) start labels
      finish := by
  apply (run_of_executeChecked executed).mono
  intro source label target taken
  refine ⟨taken.1, ?_⟩
  cases label with
  | start entry eyes => exact absurd taken.2 Bool.false_ne_true
  | resume task site answer eyes => exact id

/-- An attempt that is cancelled while the servers are being chosen unwinds. -/
theorem down_after_stop_cancelled :
    ∃ before finish, execute next initialSystem (launched ++ [starts .toggle]) = some before ∧
      executeChecked next (fun _ => isResume)
        (before.start program .toggle (plainEyes))
        [resumes 1 (.attempt 0 .candidates) [plainServer],
          resumes 1 (.attempt 0 .networkKey) (), resumes 1 (.attempt 0 .smartPrefs) (),
          resumes 1 (.attempt 0 .probeAll) (), resumes 1 (.attempt 0 .probeReturns) (),
          resumes 1 (.attempt 0 (.smartReturns true)) (),
          resumes 1 (.attempt 0 .cancelledDisconnect) ()] = some finish ∧
      finish.state.Down := by
  have executed : ∃ before finish,
      execute next initialSystem (launched ++ [starts .toggle]) = some before ∧
      executeChecked next (fun _ => isResume)
        (before.start program .toggle (plainEyes))
        [resumes 1 (.attempt 0 .candidates) [plainServer],
          resumes 1 (.attempt 0 .networkKey) (), resumes 1 (.attempt 0 .smartPrefs) (),
          resumes 1 (.attempt 0 .probeAll) (), resumes 1 (.attempt 0 .probeReturns) (),
          resumes 1 (.attempt 0 (.smartReturns true)) (),
          resumes 1 (.attempt 0 .cancelledDisconnect) ()] = some finish ∧
      before.state.state = .connecting ∧
      before.outline.places = [none, some (.attempt 0 .candidates)] :=
    ⟨_, _, rfl, rfl, rfl, rfl⟩
  obtain ⟨before, finish, first, second, connecting, places⟩ := executed
  refine ⟨before, finish, first, second, ?_⟩
  have stops : Entry.toggle.Stops before.state := Or.inl connecting
  apply down_after_stop (run_of_execute first) stops _ (silent_of_executed second)
  intro site member
  rw [places] at member
  rcases List.mem_cons.mp member with none_ | member
  · cases none_
  · cases List.mem_singleton.mp member
    simp [Site.exposure, Place.exposure, Exposure.Quiet, Entry.cancelAfter, System.outline,
      connecting]

/-- An attempt that is cancelled while its exit country is being asked connects. -/
theorem exit_check_connects :
    ¬ ∀ (labels more : List (Label controllerSignature))
        (before finish : System controllerSignature) (entry : Entry)
        (eyes : ∀ query : Query, query.Value),
      Run (ofNext next) initialSystem labels before → entry.Stops before.state →
      Run (Restrict (ofNext next) fun system label => ¬Asks system.state label.whence)
        (before.start program entry eyes) more finish → finish.state.Down := by
  intro always
  have executed : ∃ before finish, execute next initialSystem exitAsked = some before ∧
      executeChecked next (fun _ => isResume)
        (before.start program .toggle (plainEyes)) exitAnswered = some finish ∧
      before.state.state = .connecting ∧ finish.state.state = .connected :=
    ⟨_, _, rfl, rfl, rfl, rfl⟩
  obtain ⟨before, finish, first, second, connecting, connected⟩ := executed
  have down := always _ _ before finish .toggle _ (run_of_execute first) (Or.inl connecting)
    (silent_of_executed second)
  rcases down with state | state <;> rw [connected] at state <;> cases state

end MolidoVpn.Desktop
