import MolidoVpn.Desktop.Paths

/-!
The callers of `connect` and `disconnect`: every stretch of every program that the controller
starts is one of `Moves`.
-/

namespace MolidoVpn.Desktop

open Cooperative

variable {origin : Origin controllerSignature} {before now : Controller}

/-- A stretch has come to where its program may end, and may stop at places of this exposure. -/
def Comes {α : Type} (exposure : Exposure) (origin : Origin controllerSignature)
    (before : Controller) (_ : Except Thrown α) (now : Controller) : Prop :=
  Moves origin before none now ∧ (Calm before origin → exposure = .never)

/-- The program obeys when it is run on from a stretch that has come so far. -/
abbrev Outer {α : Type} (exposure : Exposure) (origin : Origin controllerSignature)
    (before : Controller) (code : Code α) (now : Controller) : Prop :=
  Obeys Moves (Comes exposure) origin before code now

/-- A program may end where it is resumed, if it is not in `connect`. -/
theorem moves_resumed {site : Site} (outside : site.stage = .outside) (now : Controller) :
    Moves (.site site) now none now := by
  constructor
  · refine ⟨id, ?_⟩
    simp only [stageOf, outside]
  · exact fun calm => ⟨calm.1, id, trivial⟩

/-- Where a stretch may end, it may stop at a place that is not in `connect`. -/
theorem Moves.stop (moved : Moves origin before none now) {site : Site}
    (outside : site.stage = .outside) (quiet : Calm before origin → site.exposure = .never) :
    Moves origin before (some site) now := by
  constructor
  · simp only [stageOfPlace, outside]
    exact moved.1
  · intro calm
    have kept := moved.2 calm
    refine ⟨kept.1, kept.2.1, ?_⟩
    rw [QuietPlace, Site.Quiet, quiet calm]
    trivial

/-- An update that leaves `connect` and `_cancel` alone, and the controller down if it is. -/
theorem Moves.keep {after : Controller} (moved : Moves origin before none now)
    (same : after.runs = now.runs) (cancel : after.cancel = now.cancel)
    (disconnected : now.state = .disconnected → after.state = .disconnected)
    (down : now.Down → after.Down) : Moves origin before none after := by
  constructor
  · refine ⟨fun was => disconnected (moved.1.1 was), ?_⟩
    rw [same]
    exact moved.1.2
  · intro calm
    have kept := moved.2 calm
    rw [cancel]
    exact ⟨down kept.1, kept.2.1, trivial⟩

theorem exposure_of_outside {site : Site} (outside : site.stage = .outside) :
    site.exposure = .never ∨ site.exposure = .always := by
  cases site with
  | previousRun previous => cases outside
  | remoteConfig => cases outside
  | attempt run place => cases outside
  | ownRun run => cases outside
  | engineDisconnect caller => cases caller <;> first | exact Or.inl rfl | exact Or.inr rfl
  | disconnectReturns caller => cases caller <;> first | exact Or.inl rfl | exact Or.inr rfl
  | _ => first | exact Or.inl rfl | exact Or.inr rfl

theorem comes_resumed {α : Type} {site : Site} (outside : site.stage = .outside)
    (outcome : Except Thrown α) (now : Controller) :
    Comes site.exposure (.site site) now outcome now := by
  refine ⟨moves_resumed outside now, ?_⟩
  intro calm
  rcases exposure_of_outside outside with never | always
  · exact never
  · have quiet : site.exposure.Quiet now.cancel := calm.2
    rw [always] at quiet
    exact quiet.elim

theorem comes_never {α : Type} (moved : Moves origin before none now)
    (outcome : Except Thrown α) : Comes .never origin before outcome now :=
  ⟨moved, fun _ => rfl⟩

theorem outer_wait {site : Site} {rest : site.Answer → Code Unit}
    (moved : Moves origin before none now) (outside : site.stage = .outside)
    (quiet : Calm before origin → site.exposure = .never)
    (after : ∀ answer later, Outer .never (.site site) later (rest answer) later) :
    Outer .never origin before (wait site >>= rest) now := by
  apply obeys_wait (S := controllerSignature)
  · exact moved.stop outside quiet
  · exact after
  · exact fun _ later => comes_never (moves_resumed outside later) _

/-- Await an async function outside `connect`, and go on. -/
theorem outer_awaited {site : Site} {code : Code Unit} {rest : Unit → Code Unit}
    (called : Outer site.exposure origin before code now) (outside : site.stage = .outside)
    (after : ∀ later, Outer .never (.site site) later (rest ()) later) :
    Outer .never origin before
      (Program.call (S := controllerSignature) (fun _ => site) code >>= rest) now := by
  have resumed : Obeys Moves
      (fun (origin : Origin controllerSignature) (before : Controller)
        (_ : Except Thrown Unit) (now : Controller) => origin = .site site ∧ before = now)
      origin before (Program.call (S := controllerSignature) (fun _ => site) code) now := by
    apply called.call
    intro origin before outcome now comes
    exact ⟨comes.1.stop outside comes.2, fun later => ⟨rfl, rfl⟩⟩
  apply resumed.bind
  · rintro origin before value now ⟨rfl, rfl⟩
    exact after before
  · rintro origin before error now ⟨rfl, rfl⟩
    exact comes_never (moves_resumed outside before) _

theorem outer_disconnect {caller : Caller}
    (comes : Comes caller.exposure origin before (.ok () : Except Thrown Unit) now) :
    Outer caller.exposure origin before (disconnect caller) now := by
  apply obeys_read
  apply obeys_ite
  · exact fun _ => comes
  · intro disconnected
    apply obeys_update
    have stopping : Moves origin before none
        { now with state := .disconnecting, userStopping := true } :=
      comes.1.keep rfl rfl (fun was => absurd was disconnected) fun _ => Or.inr rfl
    have waiting : Outer caller.exposure origin before (wait (.engineDisconnect caller))
        { now with state := .disconnecting, userStopping := true } :=
      ⟨stopping.stop rfl comes.2, fun _ later => comes_resumed rfl _ later⟩
    apply waiting.finally_update
    intro origin before outcome now comes
    exact ⟨comes.1.keep rfl rfl (fun _ => rfl) fun _ => Or.inl rfl, comes.2⟩

theorem outer_awaitDisconnect {caller : Caller} {rest : Unit → Code Unit}
    (comes : Comes caller.exposure origin before (.ok () : Except Thrown Unit) now)
    (after : ∀ later, Outer .never (.site (.disconnectReturns caller)) later (rest ()) later) :
    Outer .never origin before (awaitDisconnect caller >>= rest) now :=
  outer_awaited (outer_disconnect comes) rfl after

/-- A stretch of `connect` that has come to the check of the state. -/
structure Checks (origin : Origin controllerSignature) (before now : Controller) : Prop where
  runs : now.runs = before.runs
  free : ¬Calm before origin
  stays : before.state = .disconnected → now.state = .disconnected
  from_ : match stageOf origin with
    | .outside => CallsConnect before origin ∧ before.connectRun = none
    | .waiting _ => True
    | _ => False

theorem Checks.leaves (checks : Checks origin before now) : Moves origin before none now := by
  refine ⟨⟨checks.stays, ?_⟩, fun calm => absurd calm checks.free⟩
  have from_ := checks.from_
  cases stage : stageOf origin with
  | outside => exact checks.runs
  | waiting previous => exact checks.runs
  | checked =>
      rw [stage] at from_
      exact from_.elim
  | running run =>
      rw [stage] at from_
      exact from_.elim
  | ended run =>
      rw [stage] at from_
      exact from_.elim

/-- A stretch of `connect` that begins a run. -/
structure Starts (origin : Origin controllerSignature) (before now : Controller) : Prop where
  runs : now.runs = before.runs
  free : ¬Calm before origin
  begins : Begins origin before now.state

theorem Checks.starts (checks : Checks origin before now)
    (disconnected : now.state = .disconnected) : Starts origin before now := by
  refine ⟨checks.runs, checks.free, ?_⟩
  have from_ := checks.from_
  rw [Begins]
  cases stage : stageOf origin with
  | outside =>
      rw [stage] at from_
      exact ⟨from_.1, from_.2, disconnected⟩
  | waiting previous => exact disconnected
  | checked =>
      rw [stage] at from_
      exact from_.elim
  | running run =>
      rw [stage] at from_
      exact from_.elim
  | ended run =>
      rw [stage] at from_
      exact from_.elim

theorem Starts.inside (starts : Starts origin before now) :
    Inside now.nextRun .always origin before now.beginRun := by
  refine ⟨Or.inr ⟨now.state, starts.begins, ?_, ?_⟩, fun calm => absurd calm starts.free⟩
  · exact congrArg Runs.nextRun starts.runs
  · rw [← starts.runs]
    rfl

/-- A stretch at the end of a run. -/
structure Completed (run : Nat) (origin : Origin controllerSignature)
    (before now : Controller) : Prop where
  runs : MovesRuns origin before (.ended run) now
  calm : Calm before origin → now.Down ∧ (before.cancel = true → now.cancel = true)

theorem Inside.completes {run : Nat} (inside : Inside run .never origin before now) :
    Completed run origin before (now.completeRun run) := by
  constructor
  · rcases inside.runs with ⟨stage, same⟩ | ⟨state, begins, number, begun⟩
    · exact Or.inl ⟨stage, by rw [← same]; rfl⟩
    · exact Or.inr ⟨state, begins, number, by rw [← begun]; rfl⟩
  · intro calm
    have kept := inside.calm calm
    exact ⟨kept.1, kept.2.1⟩

theorem forgetRun_leaves (run : Nat) (now : Controller) :
    Moves (.site (.ownRun run)) now none (now.forgetRun run) :=
  ⟨⟨id, rfl⟩, fun calm => ⟨calm.1, id, trivial⟩⟩

theorem outer_startRun {only : Option Server} (starts : Starts origin before now) :
    Outer .never origin before (startRun only) now := by
  apply obeys_read
  apply obeys_update
  have run : Obeys Moves
      (fun origin before (_ : Except Thrown Unit) after =>
        Completed now.nextRun origin before after)
      origin before (runToEnd now.nextRun only) now.beginRun := by
    apply (spec_connectRun now.nextRun only origin before _ starts.inside).finally_update
    intro origin before outcome now ended
    cases outcome with
    | ok value => exact Inside.completes ended
    | error error => exact Inside.completes ended
  have called : Obeys Moves
      (fun origin before (_ : Except Thrown Unit) after =>
        origin = .site (.ownRun now.nextRun) ∧ before = after)
      origin before
      (Program.call (S := controllerSignature) (fun _ => .ownRun now.nextRun)
        (runToEnd now.nextRun only)) now.beginRun := by
    apply run.call
    intro origin before outcome after completed
    refine ⟨⟨completed.runs, ?_⟩, fun later => ⟨rfl, rfl⟩⟩
    intro calm
    have kept := completed.calm calm
    exact ⟨kept.1, kept.2, trivial⟩
  apply called.finally_update
  rintro origin before outcome after ⟨rfl, rfl⟩
  exact comes_never (forgetRun_leaves now.nextRun before) _

theorem outer_checkAndStart {only : Option Server} (checks : Checks origin before now) :
    Outer .never origin before (checkAndStart only) now := by
  apply obeys_read
  apply obeys_ite
  · exact fun _ => comes_never checks.leaves _
  · intro disconnected
    have disconnected : now.state = .disconnected := not_not.mp disconnected
    apply obeys_look
    intro transport
    apply obeys_ite_bind
    · intro _
      apply obeys_wait
      · exact ⟨⟨checks.runs, disconnected, checks.from_⟩, fun calm => absurd calm checks.free⟩
      · intro answer later
        have starts : Starts (.site .remoteConfig) later later :=
          ⟨rfl, fun calm => calm.2, rfl⟩
        exact outer_startRun starts
      · intro error later
        have resumed : Moves (.site .remoteConfig) later none later :=
          ⟨⟨id, rfl⟩, fun calm => absurd calm.2 id⟩
        exact comes_never resumed _
    · exact fun _ => outer_startRun (checks.starts disconnected)

/-- Call `connect`, in a stretch that must not be calm. -/
theorem outer_connect {only : Option Server} (outside : stageOf origin = .outside)
    (calls : CallsConnect before origin) (free : ¬Calm before origin)
    (moved : Moves origin before none now) :
    Outer .never origin before (connect only) now := by
  have same : now.runs = before.runs := by
    have runs := moved.1.2
    rw [outside] at runs
    exact runs
  have found : now.connectRun = before.connectRun := congrArg Runs.connectRun same
  have checking : Obeys Moves
      (fun origin before (outcome : Except Thrown Unit) after =>
        Moves origin before none after ∧ (outcome = .ok () → Checks origin before after))
      origin before awaitPrevious now := by
    apply obeys_read
    cases previous : now.connectRun with
    | none =>
        refine ⟨moved, fun _ => ⟨same, free, moved.1.1, ?_⟩⟩
        rw [outside]
        exact ⟨calls, by rw [← found, previous]⟩
    | some run =>
        refine ⟨⟨⟨outside, ?_, same, moved.1.1⟩, fun calm => absurd calm free⟩, ?_⟩
        · rw [← found, previous]
        · intro answer later
          have resumed : Moves (.site (.previousRun run)) later none later :=
            ⟨⟨id, rfl⟩, fun calm => absurd calm.2 id⟩
          refine ⟨resumed, fun _ => ⟨rfl, fun calm => calm.2, id, trivial⟩⟩
  apply checking.bind
  · intro origin before value after both
    exact outer_checkAndStart (both.2 rfl)
  · intro origin before error after both
    exact comes_never both.1 _

theorem outer_awaitConnect {only : Option Server} (outside : stageOf origin = .outside)
    (calls : CallsConnect before origin) (free : ¬Calm before origin)
    (moved : Moves origin before none now) :
    Outer .never origin before (awaitConnect only) now := by
  have connecting : Outer .never origin before (connect only) now :=
    outer_connect outside calls free moved
  apply connecting.call
  intro origin before outcome after comes
  refine ⟨comes.1.stop rfl comes.2, ?_⟩
  exact fun later => comes_resumed rfl _ later

theorem outer_update {change : Controller → Controller}
    (moved : Moves origin before none (change now)) :
    Outer .never origin before (update change) now :=
  ⟨moved, fun _ => rfl⟩

theorem outer_userDisconnect (moved : Moves origin before none now) :
    Outer .never origin before (disconnect .user) now := by
  have comes : Comes Caller.user.exposure origin before (.ok () : Except Thrown Unit) now :=
    comes_never moved _
  exact outer_disconnect comes

theorem outer_awaitUserDisconnect (moved : Moves origin before none now) :
    Outer .never origin before (awaitDisconnect .user) now := by
  apply (outer_userDisconnect moved).call
  intro origin before outcome after comes
  exact ⟨comes.1.stop rfl comes.2, fun later => comes_resumed rfl _ later⟩

theorem moves_entry (entry : Entry) (now : Controller) : Moves (.entry entry) now none now :=
  ⟨⟨id, rfl⟩, fun calm => ⟨calm.1, id, trivial⟩⟩

theorem not_calm_of_requests {entry : Entry} (requests : entry.Requests now) :
    ¬Calm now (.entry entry) :=
  fun calm => calm.2 requests

theorem not_calm_of_up {entry : Entry} (disconnected : now.state ≠ .disconnected)
    (disconnecting : now.state ≠ .disconnecting) : ¬Calm now (.entry entry) :=
  fun calm => calm.1.elim disconnected disconnecting

theorem outer_toggle (now : Controller) : Outer .never (.entry .toggle) now toggle now := by
  have moved := moves_entry .toggle now
  apply obeys_read
  cases state : now.state with
  | connected => exact outer_awaitUserDisconnect moved
  | connecting =>
      have free : ¬Calm now (.entry .toggle) :=
        not_calm_of_up (by rw [state]; decide) (by rw [state]; decide)
      exact outer_update ⟨⟨fun _ => rfl, rfl⟩, fun calm => absurd calm free⟩
  | disconnected => exact outer_awaitConnect rfl state (not_calm_of_requests state) moved
  | disconnecting => exact comes_never moved _

theorem outer_connectTo (server : Server) (now : Controller) :
    Outer .never (.entry (.connectTo server)) now (connectTo server) now := by
  have moved := moves_entry (.connectTo server) now
  have free : ¬Calm now (.entry (.connectTo server)) := not_calm_of_requests trivial
  apply obeys_read
  apply obeys_ite_bind
  · intro _
    apply outer_awaitDisconnect ⟨moved, fun calm => absurd calm free⟩
    intro later
    exact outer_awaitConnect rfl (by intro same; cases same) (fun calm => calm.2)
      (moves_resumed rfl later)
  · exact fun _ => outer_awaitConnect rfl trivial free moved

theorem outer_tryAgain (now : Controller) : Outer .never (.entry .tryAgain) now tryAgain now := by
  have moved := moves_entry .tryAgain now
  have free : ¬Calm now (.entry .tryAgain) := not_calm_of_requests trivial
  apply obeys_look
  intro transport
  apply obeys_ite_bind
  · intro _
    apply outer_wait moved rfl (fun calm => absurd calm free)
    intro _ later
    exact outer_awaitConnect rfl trivial (fun calm => calm.2) (moves_resumed rfl later)
  · exact fun _ => outer_awaitConnect rfl trivial free moved

theorem not_calm_of_connected (connected : before.state = .connected) :
    ¬Calm before origin := by
  intro calm
  have down : before.Down := by
    cases origin with
    | entry entry => exact calm.1
    | site site => exact calm.1
  rcases down with state | state <;> rw [connected] at state <;> cases state

theorem outer_reconnect (now : Controller) :
    Outer .never (.site .countryStored) now reconnect now := by
  have moved : Moves (.site .countryStored) now none now := moves_resumed rfl now
  apply obeys_read
  apply obeys_ite
  · intro connected
    apply outer_awaitDisconnect ⟨moved, fun calm => absurd calm (not_calm_of_connected connected)⟩
    intro later
    exact outer_awaitConnect rfl (by intro same; cases same) (fun calm => calm.2)
      (moves_resumed rfl later)
  · exact fun _ => comes_never moved _

theorem outer_selectCountry (code : Option (List Char)) (now : Controller) :
    Outer .never (.entry (.selectCountry code)) now (selectCountry code) now := by
  have moved := moves_entry (.selectCountry code) now
  apply obeys_read
  apply obeys_ite
  · exact fun _ => comes_never moved _
  · intro _
    apply obeys_update
    have selected : Moves (.entry (.selectCountry code)) now none
        { now with selectedCountry := code } := moved.keep rfl rfl id id
    apply obeys_look
    intro transport
    apply obeys_ite_bind
    · intro _
      apply outer_wait selected rfl (fun _ => rfl)
      intro _ later
      apply outer_wait (moves_resumed rfl later) rfl (fun _ => rfl)
      intro _ later
      exact outer_wait (moves_resumed rfl later) rfl (fun _ => rfl) fun _ => outer_reconnect
    · intro _
      apply outer_wait selected rfl (fun _ => rfl)
      intro _ later
      exact outer_wait (moves_resumed rfl later) rfl (fun _ => rfl) fun _ => outer_reconnect

theorem outer_scheduleTick (enabled inside : Bool) (now : Controller) :
    Outer .never (.entry (.scheduleTick enabled inside)) now (scheduleTick enabled inside)
      now := by
  have moved := moves_entry (.scheduleTick enabled inside) now
  apply obeys_ite
  · exact fun _ => outer_update (moved.keep rfl rfl id id)
  · intro on
    have ticked : Moves (.entry (.scheduleTick enabled inside)) now none
        { now with scheduleInside := some inside } := moved.keep rfl rfl id id
    apply obeys_read
    apply obeys_update
    apply obeys_ite
    · exact fun _ => comes_never ticked _
    · intro changed
      apply obeys_read
      apply obeys_ite
      · rintro ⟨inTime, disconnected⟩
        have requests : (Entry.scheduleTick enabled inside).Requests now := by
          refine ⟨?_, inTime, ?_, disconnected⟩
          · simpa using on
          · subst inTime
            cases was : now.scheduleInside with
            | none => exact absurd (Or.inl was) changed
            | some old =>
                cases old with
                | true => exact absurd (Or.inr was) changed
                | false => rfl
        exact outer_connect rfl disconnected (not_calm_of_requests requests) ticked
      · intro _
        apply obeys_read
        apply obeys_ite
        · exact fun _ => outer_userDisconnect ticked
        · exact fun _ => comes_never ticked _

theorem outer_recover {alreadyDisconnected : Bool} (outside : stageOf origin = .outside)
    (calls : CallsConnect before origin) (free : ¬Calm before origin)
    (moved : Moves origin before none now) :
    Outer .never origin before (recover alreadyDisconnected) now := by
  have reset : Moves origin before none { now with healthFailures := 0 } :=
    moved.keep rfl rfl id id
  apply obeys_update
  apply obeys_read
  apply obeys_ite_bind
  · intro _
    apply outer_awaitDisconnect ⟨reset, fun calm => absurd calm free⟩
    intro later
    apply obeys_read
    apply obeys_ite
    · exact fun _ => comes_never (moves_resumed rfl later) _
    · exact fun _ => outer_awaitConnect rfl (by intro same; cases same) (fun calm => calm.2)
        (moves_resumed rfl later)
  · intro _
    apply obeys_read
    apply obeys_ite
    · exact fun _ => comes_never reset _
    · exact fun _ => outer_awaitConnect outside calls free reset

/-- `_switchAway`, from the listener or the watchdog. -/
theorem outer_switchAway {alreadyDisconnected : Bool} (outside : stageOf origin = .outside)
    (calls : CallsConnect before origin) (free : ¬Calm before origin)
    (moved : Moves origin before none now) :
    Outer .never origin before (switchAway alreadyDisconnected) now := by
  apply obeys_read
  apply obeys_look
  intro autoReconnect
  apply obeys_ite
  · exact fun _ => comes_never moved _
  · intro _
    apply obeys_update
    have switching : Moves origin before none { now with switchingAway := true } :=
      moved.keep rfl rfl id id
    apply (outer_recover outside calls free switching).finally_update
    intro origin before outcome now comes
    exact ⟨comes.1.keep rfl rfl id id, fun _ => rfl⟩

theorem outer_awaitSwitchAway (outside : stageOf origin = .outside)
    (calls : CallsConnect before origin) (free : ¬Calm before origin)
    (moved : Moves origin before none now) :
    Outer .never origin before awaitSwitchAway now := by
  apply (outer_switchAway outside calls free moved).call
  intro origin before outcome after comes
  exact ⟨comes.1.stop rfl comes.2, fun later => comes_resumed rfl _ later⟩

theorem outer_watch (moved : Moves origin before none now) :
    Outer .never origin before watch now := by
  apply outer_wait moved rfl (fun _ => rfl)
  intro ok later
  have resumed : Moves (.site .healthCheck) later none later := moves_resumed rfl later
  apply obeys_read
  apply obeys_ite
  · exact fun _ => comes_never resumed _
  · intro up
    have free : ¬Calm later (.site .healthCheck) := not_calm_of_connected (not_not.mp up)
    apply obeys_update
    have counted : Moves (.site .healthCheck) later none
        { later with healthFailures := if ok then 0 else later.healthFailures + 1 } :=
      resumed.keep rfl rfl id id
    apply obeys_read
    apply obeys_ite_bind
    · intro _
      apply outer_wait counted rfl (fun calm => absurd calm free)
      intro backup later
      have resumed : Moves (.site .failover) later none later := moves_resumed rfl later
      apply obeys_read
      apply obeys_ite
      · exact fun _ => outer_update (resumed.keep rfl rfl id id)
      · intro _
        apply obeys_look
        intro fresh
        apply obeys_read
        apply obeys_ite
        · exact fun _ => outer_awaitSwitchAway rfl trivial (fun calm => calm.2) resumed
        · exact fun _ => comes_never resumed _
    · intro few
      apply obeys_read
      apply obeys_ite
      · exact fun both => absurd both.1 Bool.false_ne_true
      · intro _
        apply obeys_look
        intro fresh
        apply obeys_read
        apply obeys_ite
        · intro many
          refine absurd (Nat.le_trans ?_ many) few
          cases fresh <;> decide
        · exact fun _ => comes_never counted _

theorem outer_watchdog (now : Controller) :
    Outer .never (.entry .watchdog) now watchdog now := by
  have moved := moves_entry .watchdog now
  apply obeys_read
  apply obeys_look
  intro autoReconnect
  apply obeys_ite
  · exact fun _ => outer_update (moved.keep rfl rfl id id)
  · intro _
    apply obeys_update
    have watching : Moves (.entry .watchdog) now none { now with watching := true } :=
      moved.keep rfl rfl id id
    apply (outer_watch watching).finally_update
    intro origin before outcome after comes
    exact ⟨comes.1.keep rfl rfl id id, fun _ => rfl⟩

theorem outer_engineState (state : VpnState) (now : Controller) :
    Outer .never (.entry (.engineState state)) now (engineState state) now := by
  have moved := moves_entry (.engineState state) now
  apply obeys_read
  apply obeys_ite
  · exact fun _ => comes_never moved _
  · intro all
    simp only [not_or, not_not] at all
    apply obeys_update
    have marked : Moves (.entry (.engineState state)) now none now.markDisconnected :=
      moved.keep rfl rfl (fun _ => rfl) fun _ => Or.inl rfl
    apply obeys_look
    intro autoReconnect
    apply obeys_ite
    · exact fun _ => outer_switchAway rfl all.2.1 (not_calm_of_connected all.2.1) marked
    · exact fun _ => comes_never marked _

theorem outer_accountOff (now : Controller) :
    Outer .never (.entry .accountOff) now accountOff now := by
  have moved := moves_entry .accountOff now
  apply obeys_read
  apply obeys_ite
  · exact fun _ => outer_awaitUserDisconnect moved
  · exact fun _ => comes_never moved _

/-- A stretch of `init`. -/
structure Launching (origin : Origin controllerSignature) (before now : Controller) : Prop where
  moved : Moves origin before none now
  free : ¬Calm before origin
  outside : stageOf origin = .outside
  calls : CallsConnect before origin

theorem launching_resumed (place : InitPlace) (now : Controller) :
    Launching (.site (.init place)) now now :=
  ⟨moves_resumed rfl now, fun calm => calm.2, rfl, trivial⟩

theorem Launching.wait {place : InitPlace} {rest : Unit → Code Unit}
    (launching : Launching origin before now)
    (after : ∀ later, Outer .never (.site (.init place)) later (rest ()) later) :
    Outer .never origin before (wait (.init place) >>= rest) now :=
  outer_wait launching.moved rfl (fun calm => absurd calm launching.free) fun _ => after

theorem launching_launchRefresh (retries : Nat) (launching : Launching origin before now) :
    Obeys Moves (fun origin before (_ : Except Thrown Unit) now => Launching origin before now)
      origin before (launchRefresh retries) now := by
  induction retries generalizing origin before now with
  | zero => exact launching
  | succ retries ih =>
      apply obeys_wait (S := controllerSignature)
      · exact launching.moved.stop rfl fun calm => absurd calm launching.free
      · intro _ later
        apply obeys_wait (S := controllerSignature)
        · exact (moves_resumed rfl later).stop rfl fun calm => absurd calm.2 id
        · exact fun _ later => ih (launching_resumed .refreshAgain later)
        · exact fun _ later => launching_resumed .refreshAgain later
      · exact fun _ later => launching_resumed .delayed later

theorem outer_launchConnect (launching : Launching origin before now) :
    Outer .never origin before launchConnect now := by
  apply obeys_look
  intro onLaunch
  apply obeys_look
  intro empty
  apply obeys_read
  apply obeys_ite
  · exact fun _ => outer_connect launching.outside launching.calls launching.free launching.moved
  · exact fun _ => comes_never launching.moved _

theorem launching_engineInit (launching : Launching origin before now) :
    Obeys Moves (fun origin before (_ : Except Thrown Unit) now => Launching origin before now)
      origin before (Program.tryCatch (wait (.init .engineInit)) fun _ => pure ()) now := by
  refine ⟨launching.moved.stop rfl fun calm => absurd calm launching.free, ?_⟩
  intro answer later
  cases answer with
  | ok value => exact launching_resumed .engineInit later
  | error error => exact launching_resumed .engineInit later

theorem outer_launchEngine (launching : Launching origin before now) :
    Outer .never origin before launchEngine now := by
  apply launching.wait
  intro later
  apply (launching_engineInit (launching_resumed .detectIpv6 later)).bind
  · intro origin before value now launching
    apply launching.wait
    intro later
    apply (launching_resumed .userSubscriptions later).wait
    intro later
    apply (launching_resumed .publicSources later).wait
    intro later
    apply (launching_resumed .cached later).wait
    intro later
    apply obeys_look
    intro retries
    apply (launching_launchRefresh (min 3 retries) (launching_resumed .refresh later)).bind
    · exact fun origin before value now launching => outer_launchConnect launching
    · exact fun origin before error now launching => comes_never launching.moved _
  · exact fun origin before error now launching => comes_never launching.moved _

theorem outer_launch (launching : Launching origin before now) :
    Outer .never origin before launch now := by
  apply launching.wait
  intro later
  apply (launching_resumed .load later).wait
  intro later
  apply obeys_look
  intro stored
  apply obeys_update
  have selected : Launching (.site (.init .prefs)) later
      { later with selectedCountry := if stored = some "GAME".toList then none else stored } :=
    ⟨(moves_resumed rfl later).keep rfl rfl id id, fun calm => calm.2, rfl, trivial⟩
  apply obeys_ite_bind
  · intro _
    apply selected.wait
    exact fun later => outer_launchEngine (launching_resumed .countryRemoved later)
  · exact fun _ => outer_launchEngine selected

/-- Every stretch of a program that is started obeys. -/
theorem obeys_program (entry : Entry) (now : Controller) :
    Obeys Moves (finishes Moves) (.entry entry) now (program entry) now := by
  have outer : Outer .never (.entry entry) now (program entry) now := by
    cases entry with
    | toggle => exact outer_toggle now
    | connectTo server => exact outer_connectTo server now
    | tryAgain => exact outer_tryAgain now
    | selectCountry code => exact outer_selectCountry code now
    | disconnect => exact outer_awaitUserDisconnect (moves_entry .disconnect now)
    | scheduleTick enabled inside => exact outer_scheduleTick enabled inside now
    | watchdog => exact outer_watchdog now
    | engineState state => exact outer_engineState state now
    | accountOff => exact outer_accountOff now
  exact outer.mono fun origin before outcome now comes => comes.1

theorem obedient_initialSystem : initialSystem.Obedient Moves := by
  intro task member
  rw [List.mem_singleton.mp member]
  have outer := outer_launch (launching_resumed .load Controller.initial)
  intro answer later
  exact (outer.2 answer later).mono fun origin before outcome now comes => comes.1

end MolidoVpn.Desktop
