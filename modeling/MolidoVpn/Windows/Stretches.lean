import MolidoVpn.Windows.Engine

/-!
What the stretches of the Windows engine do to the proxy settings. Every call of the engine begins
with `_releaseProxy`: before it the settings are left alone, and nothing is said of what a call
does after it.
-/

namespace MolidoVpn.Windows

open Cooperative
open Desktop (Server)

/-- How far a call of the engine has come: before it looks whether the proxy settings are ours, at
that, or past it. -/
inductive Stage where
  | early
  | release
  | late
  deriving DecidableEq

def AwgUse.stage : AwgUse → Stage
  | trying => .late
  | _ => .early

def Place.stage : Place → Stage
  | supportDirectory => .early
  | xrayCleanup => .early
  | freeCleanup => .early
  | stalePrefs => .early
  | awgUninstall use => use.stage
  | awgPrefs use => use.stage
  | awgRemoved use => use.stage
  | awgReturns use => use.stage
  | releasePrefs => .release
  | _ => .late

def Site.Late : Site → Prop
  | call _ place => place.stage = .late
  | _ => False

/-- A stretch that ends here has not come past the release. -/
def Unspent (place : Option Site) : Prop :=
  ∀ site, place = some site → ¬site.Late

structure SameProxy (before after : Engine) : Prop where
  settings : after.settings = before.settings
  proxyOwned : after.proxyOwned = before.proxyOwned
  process : after.process = before.process

theorem SameProxy.refl (e : Engine) : SameProxy e e :=
  ⟨rfl, rfl, rfl⟩

theorem SameProxy.trans {before middle after : Engine} (first : SameProxy before middle)
    (second : SameProxy middle after) : SameProxy before after :=
  ⟨second.settings.trans first.settings, second.proxyOwned.trans first.proxyOwned,
    second.process.trans first.process⟩

/-- The stretches of a call, by how far it has come. -/
def Stage.Moves (stage : Stage) (before : Engine) (place : Option Site) (after : Engine) : Prop :=
  match stage with
  | early => SameProxy before after ∧ Unspent place
  | release => before.proxyOwned = true → after.settings.proxyEnable = 0
  | late => True

/-- What the stretches of the engine do to the proxy settings; nothing is said of those that come
after a release. -/
def Moves (origin : Origin engineSignature) (before : Engine) (place : Option Site)
    (after : Engine) : Prop :=
  match origin with
  | .entry (.exit process) =>
      SameProxy before after ∧ Unspent place ∧
        (process ∈ before.running → place = some (.drained process))
  | .entry _ => SameProxy before after ∧ Unspent place
  | .site (.drained process) =>
      after.settings = before.settings ∧ after.proxyOwned = before.proxyOwned ∧ Unspent place ∧
        (before.process ≠ some process → after.process = before.process) ∧
        (before.process = some process → process.dnsOnly = false →
          place = some (.exitFreeStopped process))
  | .site (.exitFreeStopped process) =>
      SameProxy before after ∧ place = some (.exitHelperStopped process)
  | .site (.exitHelperStopped process) =>
      after.proxyOwned = before.proxyOwned ∧ after.process = before.process ∧ Unspent place ∧
        after.settings =
          if process.options.shields then before.settings.enable deadProxy else before.settings
  | .site (.call _ place') => place'.stage.Moves before place after

/-- Nothing is said of the stretch. -/
def Free (origin : Origin engineSignature) (before _ : Engine) : Prop :=
  ∀ place after, Moves origin before place after

/-- The stretch has left the proxy settings alone. -/
def Clean (origin : Origin engineSignature) (before now : Engine) : Prop :=
  ∀ place after, SameProxy now after → Unspent place → Moves origin before place after

section Knowledge

variable {α : Type} {origin : Origin engineSignature} {before now : Engine} {asker : Asker}

theorem Free.clean (free : Free origin before now) : Clean origin before now :=
  fun place after _ _ => free place after

theorem Clean.same {after : Engine} (clean : Clean origin before now)
    (same : SameProxy now after) : Clean origin before after :=
  fun place later kept unspent => clean place later (same.trans kept) unspent

theorem Clean.moves {place : Option Site} (clean : Clean origin before now)
    (unspent : Unspent place) : Moves origin before place now :=
  clean place now (SameProxy.refl now) unspent

theorem unspent_none : Unspent none := by
  intro site none_
  cases none_

theorem unspent_some {site : Site} (early : ¬site.Late) : Unspent (some site) := by
  intro other same
  cases same
  exact early

theorem unspent_call {place : Place} {stage : Stage} (stage_ : place.stage = stage)
    (early : stage ≠ .late) : Unspent (some (.call asker place)) := by
  apply unspent_some
  intro late
  rw [Site.Late, stage_] at late
  exact early late

theorem stops_late {place : Place} (late : place.stage = .late) :
    Stops Moves Free (.call asker place) := by
  constructor
  · intro origin before now free
    exact free (some (.call asker place)) now
  · intro now other after
    rw [Moves, late]
    trivial

theorem stops_early {place : Place} (early : place.stage = .early) :
    Stops Moves Clean (.call asker place) := by
  constructor
  · intro origin before now clean
    apply clean.moves
    exact unspent_call early (by decide)
  · intro now other after same unspent
    rw [Moves, early]
    exact ⟨same, unspent⟩

theorem free_update (change : Engine → Engine) : Keeps Moves Free (update change) :=
  keeps_update fun _ _ _ free => free

theorem clean_update {change : Engine → Engine} (same : ∀ e, SameProxy e (change e)) :
    Keeps Moves Clean (update change) :=
  keeps_update fun _ _ now clean => clean.same (same now)

theorem free_at {place : Place} (late : place.stage = .late) :
    Keeps Moves Free (at_ asker place) :=
  (stops_late late).wait

theorem free_waitFor {place : Place} (late : place.stage = .late) :
    Keeps Moves Free (waitFor (.call asker place)) :=
  (stops_late late).await fun _ => keeps_pure ()

theorem free_calls {code : Code α} {place : Except Thrown α → Place}
    (keeps : Keeps Moves Free code) (late : ∀ outcome, (place outcome).stage = .late) :
    Keeps Moves Free (calls asker place code) :=
  keeps.call fun outcome => stops_late (late outcome)

/-- `_awgUninstall` where the awaits of it are of one stage. -/
theorem keeps_awgUninstall {known : Origin engineSignature → Engine → Engine → Prop}
    {use : AwgUse} {stage : Stage} (stage_ : use.stage = stage)
    (stops : ∀ place : Place, place.stage = stage → Stops Moves known (.call asker place))
    (updates : ∀ change : Engine → Engine, (∀ e, SameProxy e (change e)) →
      Keeps Moves known (update change)) :
    Keeps Moves known (awgUninstall asker use) := by
  apply Keeps.bind (keeps_look _)
  intro exists_
  apply Keeps.bind
  · apply keeps_ite
    · exact (stops (.awgUninstall use) stage_).await fun _ => keeps_pure ()
    · exact keeps_pure ()
  intro _
  apply (updates (fun e => { e with awgActive := false }) fun _ => ⟨rfl, rfl, rfl⟩).bind
  intro _
  apply Keeps.bind ((stops (.awgPrefs use) stage_).await fun _ => keeps_pure ())
  intro _
  exact (stops (.awgRemoved use) stage_).await fun _ => keeps_pure ()

/-- `_releaseProxy` disables the proxy if the settings are ours. -/
theorem obeys_releaseProxy (clean : Clean origin before now) :
    Obeys Moves (fun origin before _ now => Free origin before now) origin before
      (releaseProxy asker) now := by
  have stage : Place.releasePrefs.stage = .release := rfl
  refine ⟨clean.moves (unspent_call stage (by decide)), ?_⟩
  intro _ later
  apply obeys_read
  apply obeys_ite
  · intro owned
    apply obeys_update
    refine ⟨fun _ => rfl, ?_⟩
    intro _ later
    exact (stops_late rfl).resume later
  · intro foreign place after owned
    exact absurd owned foreign

theorem obeys_awaitRelease (clean : Clean origin before now) :
    Obeys Moves (fun origin before _ now => Free origin before now) origin before
      (settles asker .releaseReturns (releaseProxy asker)) now := by
  apply (obeys_releaseProxy clean).andThen
  intro origin before outcome now free
  have stops : Stops Moves Free (.call asker .releaseReturns) := stops_late rfl
  exact ⟨stops.stop origin before now free, fun _ later => stops.resume later⟩

/-- The first part of `disconnect`: an AmneziaWG service is removed. -/
theorem obeys_awgRemoved (active : Bool) (clean : Clean origin before now) :
    Obeys Moves (fun origin before outcome now => outcome = .ok () ∧ Clean origin before now)
      origin before
      (if active then settles asker (.awgReturns .disconnecting) (awgUninstall asker .disconnecting)
      else pure ()) now := by
  apply obeys_ite
  · intro _
    have removed : Keeps Moves Clean (awgUninstall asker .disconnecting) :=
      keeps_awgUninstall rfl (fun _ early => stops_early early) fun _ same => clean_update same
    apply (removed origin before now clean).andThen
    intro origin before outcome now clean
    have stops : Stops Moves Clean (.call asker (.awgReturns .disconnecting)) := stops_early rfl
    exact ⟨stops.stop origin before now clean, fun _ later => ⟨rfl, stops.resume later⟩⟩
  · intro _
    exact ⟨rfl, clean⟩

theorem obeys_disconnect (clean : Clean origin before now) :
    Obeys Moves (fun origin before _ now => Free origin before now) origin before
      (disconnect asker) now := by
  apply obeys_update
  apply obeys_read
  have same : SameProxy now { now with proxyPort := none } := ⟨rfl, rfl, rfl⟩
  apply (obeys_awgRemoved _ (clean.same same)).bind
  · rintro origin before _ now ⟨_, clean⟩
    apply (obeys_awaitRelease clean).bind
    · intro origin before _ now free
      have stopped : Keeps Moves Free ((do
          update fun e => { e with process := none }
          waitFor (.call asker .coreStopped)
          waitFor (.call asker .freeStopped)
          waitFor (.call asker .helperStopped)) : Code Unit) := by
        apply (free_update _).bind
        intro _
        apply (free_waitFor rfl).bind
        intro _
        apply (free_waitFor rfl).bind
        intro _
        exact free_waitFor rfl
      exact stopped origin before now free
    · intro origin before error now free
      exact free
  · rintro origin before error now ⟨thrown, _⟩
    cases thrown

theorem obeys_awaitDisconnect (clean : Clean origin before now) :
    Obeys Moves (fun origin before _ now => Free origin before now) origin before
      awaitDisconnect now := by
  apply (obeys_disconnect clean).call
  intro origin before outcome now free
  have stops : Stops Moves Free (.call .program .disconnectReturns) := stops_late rfl
  exact ⟨stops.stop origin before now free, stops.resume⟩

theorem free_awaitDisconnect : Keeps Moves Free awaitDisconnect :=
  fun _ _ _ free => obeys_awaitDisconnect free.clean

end Knowledge

section AfterRelease

variable {server : Server} {options : EngineOptions} {again : Code Bool}

theorem free_awaitStart (port : Nat) (dnsOnly : Bool) :
    Keeps Moves Free (awaitStart options port dnsOnly) := by
  apply free_calls
  · apply (free_update _).bind
    intro _
    apply (free_waitFor rfl).bind
    intro _
    apply (free_at rfl).bind
    intro _
    apply (free_at rfl).bind
    intro _
    exact free_update _
  · intro outcome
    rfl

theorem free_stopFree : Keeps Moves Free ((do
    waitFor (.call .program .freeStopped)
    waitFor (.call .program .helperStopped)
    pure none) : Code (Option Bool)) := by
  apply (free_waitFor rfl).bind
  intro _
  apply (free_waitFor rfl).bind
  intro _
  exact keeps_pure none

theorem free_outboundOf (server : Server) : Keeps Moves Free (outboundOf server) := by
  apply keeps_ite
  · apply Keeps.bind
    · apply keeps_ite
      · apply (free_at rfl).bind
        intro helper
        exact keeps_pure _
      · exact keeps_pure true
    intro upstream
    apply keeps_ite
    · exact keeps_pure none
    · apply (free_at rfl).bind
      intro socks
      cases socks with
      | some _ => exact keeps_pure _
      | none => exact free_stopFree
  · apply keeps_ite
    · apply Keeps.bind (keeps_look _)
      intro inner
      cases inner with
      | none => exact keeps_pure none
      | some reality =>
          apply (free_at rfl).bind
          intro socks
          cases socks with
          | some _ => exact keeps_pure _
          | none =>
              apply (free_waitFor rfl).bind
              intro _
              exact keeps_pure none
    · apply keeps_ite
      · apply Keeps.bind (keeps_look _)
        intro inner
        apply Keeps.bind (keeps_look _)
        intro warp
        exact keeps_ite (keeps_pure inner) (keeps_pure none)
      · exact keeps_look _

theorem free_backupsOf (server : Server) (standby : List Server) :
    Keeps Moves Free (backupsOf server standby) := by
  induction standby with
  | nil => exact keeps_pure []
  | cons other rest ih =>
      apply keeps_ite
      · exact ih
      · apply Keeps.bind (keeps_look _)
        intro outbound
        apply ih.bind
        intro backups
        exact keeps_pure _

namespace Attempt

theorem free_retryPlain (a : Attempt) (keeps : Keeps Moves Free again) :
    Keeps Moves Free (a.retryPlain again) := by
  apply Keeps.bind
  · apply Keeps.bind (keeps_look _)
    intro cancelled
    apply Keeps.bind (keeps_look _)
    intro past
    exact keeps_pure _
  intro stopped
  apply keeps_ite
  · apply Keeps.bind keeps_read
    intro e
    apply (free_update _).bind
    intro _
    apply Keeps.finally_
    · exact free_calls keeps fun _ => rfl
    · exact free_update _
  · exact keeps_pure false

theorem free_retrySnis (keeps : Keeps Moves Free again) (candidates : List (List Char)) :
    Keeps Moves Free (retrySnis again candidates) := by
  induction candidates with
  | nil => exact keeps_pure false
  | cons sni rest ih =>
      apply Keeps.bind (keeps_look _)
      intro cancelled
      apply keeps_ite
      · exact keeps_pure false
      apply (free_update _).bind
      intro _
      apply Keeps.bind
      · apply Keeps.finally_
        · apply (free_calls keeps fun _ => rfl).bind
          intro connected
          apply Keeps.bind (keeps_ite (free_at rfl) (keeps_pure ()))
          intro _
          exact keeps_pure connected
        · exact free_update _
      intro connected
      exact keeps_ite (keeps_pure true) ih

theorem free_failed (a : Attempt) (keeps : Keeps Moves Free again) :
    Keeps Moves Free (a.failed again) := by
  apply Keeps.bind keeps_read
  intro e
  apply keeps_ite
  · exact keeps_pure false
  apply Keeps.bind (keeps_ite (free_update _) (keeps_pure ()))
  intro _
  apply keeps_ite
  · apply Keeps.bind (keeps_ite (free_at rfl) (keeps_pure ()))
    intro _
    apply Keeps.bind (keeps_look _)
    intro cancelled
    apply Keeps.bind keeps_read
    intro e
    apply keeps_ite
    · apply (free_update _).bind
      intro _
      apply free_calls
      · apply (free_at rfl).bind
        intro candidates
        exact free_retrySnis keeps candidates
      · intro outcome
        rfl
    · exact keeps_pure false
  · exact keeps_pure false

theorem free_succeed (a : Attempt) : Keeps Moves Free a.succeed := by
  apply (free_update _).bind
  intro _
  apply Keeps.bind
  · apply keeps_ite
    · apply (free_update _).bind
      intro _
      apply (free_waitFor rfl).bind
      intro _
      apply (free_update _).bind
      intro _
      exact free_waitFor rfl
    · exact keeps_pure ()
  intro _
  exact keeps_pure true

theorem free_run (a : Attempt) (keeps : Keeps Moves Free again) :
    Keeps Moves Free (a.run again) := by
  apply (free_awaitStart a.port false).bind
  intro _
  apply (free_at rfl).bind
  intro up
  apply keeps_ite
  · apply free_awaitDisconnect.bind
    intro _
    exact a.free_retryPlain keeps
  apply (free_calls (free_at rfl) fun _ => rfl).bind
  intro passed
  apply keeps_ite
  · apply free_awaitDisconnect.bind
    intro _
    exact a.free_failed keeps
  · exact a.free_succeed

end Attempt

theorem free_connectThrough (keeps : Keeps Moves Free again) (budgeted reality : Bool) :
    Keeps Moves Free (connectThrough again server options budgeted reality) := by
  apply (free_at rfl).bind
  intro _
  apply Keeps.bind
  · apply keeps_ite
    · exact keeps_pure none
    · apply Keeps.bind keeps_read
      intro e
      split
      · exact keeps_pure _
      · exact keeps_look _
  intro sniUsed
  apply Keeps.bind keeps_read
  intro e
  apply Keeps.bind (keeps_ite (keeps_pure _) (free_at rfl))
  intro port
  apply (free_at rfl).bind
  intro _
  apply Keeps.bind (keeps_ite (free_at rfl) (keeps_pure ()))
  intro _
  apply Keeps.bind keeps_read
  intro e
  apply Keeps.bind (keeps_ite (free_backupsOf server _) (keeps_pure []))
  intro backups
  apply Keeps.bind (keeps_look _)
  intro member
  apply Keeps.bind keeps_read
  intro e
  exact Attempt.free_run _ keeps

/-- `connect` from its `disconnect()`. -/
theorem free_afterDisconnect (keeps : Keeps Moves Free again) :
    Keeps Moves Free ((do
      let deadline ← look .deadline
      match ← outboundOf server with
      | none => pure false
      | some reality =>
          connectThrough again server options (!server.isFree && !server.isChain && deadline)
            (reality && !server.isFree)) : Code Bool) := by
  apply Keeps.bind (keeps_look _)
  intro deadline
  apply (free_outboundOf server).bind
  intro outbound
  cases outbound with
  | none => exact keeps_pure false
  | some reality => exact free_connectThrough keeps _ _

theorem free_connect (depth : Nat) (server : Server) (options : EngineOptions) :
    Keeps Moves Free (connect depth server options) := by
  induction depth with
  | zero => exact free_at rfl
  | succ depth ih =>
      apply Keeps.bind (keeps_look _)
      intro admin
      apply keeps_ite
      · exact keeps_done _
      · apply free_awaitDisconnect.bind
        intro _
        exact free_afterDisconnect ih

theorem free_amneziaLoop (endpoints : List (List Char)) :
    Keeps Moves Free (amneziaLoop endpoints) := by
  induction endpoints with
  | nil => exact keeps_pure false
  | cons endpoint rest ih =>
      apply Keeps.bind (keeps_look _)
      intro cancelled
      apply keeps_ite
      · exact keeps_pure false
      apply (free_at rfl).bind
      intro _
      apply (free_update _).bind
      intro _
      apply (free_waitFor rfl).bind
      intro _
      apply (free_waitFor rfl).bind
      intro _
      apply ((free_at rfl).tryCatch fun _ => keeps_pure false).bind
      intro installed
      apply Keeps.bind (keeps_ite (free_at rfl) (keeps_pure false))
      intro connected
      apply keeps_ite
      · exact keeps_pure true
      apply Keeps.bind
      · have removed : Keeps Moves Free (awgUninstall .program .trying) :=
          keeps_awgUninstall rfl (fun _ late => stops_late late) fun change _ =>
            free_update change
        exact removed.andThen fun _ => free_waitFor rfl
      intro _
      exact ih

end AfterRelease

section Programs

variable {α : Type} {origin : Origin engineSignature} {before now : Engine}

/-- Something asks the engine, rather than that a process exits. -/
def Entry.isCall : Entry → Bool
  | exit _ => false
  | _ => true

theorem clean_entry {entry : Entry} (call : entry.isCall = true) (e : Engine) :
    Clean (.entry entry) e e := by
  intro place after same unspent
  cases entry with
  | exit process => cases call
  | _ => exact ⟨same, unspent⟩

/-- A call of the engine that begins with its `disconnect()`. -/
theorem obeys_disconnectThen {rest : Unit → Code α} (clean : Clean origin before now)
    (keeps : Keeps Moves Free (rest ())) :
    Obeys Moves (fun origin before _ now => Clean origin before now) origin before
      (awaitDisconnect >>= rest) now := by
  apply (obeys_awaitDisconnect clean).bind
  · intro origin before _ now free
    exact (keeps origin before now free).mono fun _ _ _ _ free => free.clean
  · intro origin before error now free
    exact free.clean

/-- As above, where some things must hold for the call to go ahead. -/
theorem obeys_adminThen {condition : Bool → Prop} [∀ admin, Decidable (condition admin)]
    {rest : Unit → Code α} (clean : Clean origin before now)
    (keeps : Keeps Moves Free (rest ())) :
    Obeys Moves (fun origin before _ now => Clean origin before now) origin before
      ((do
        let admin ← look .isAdmin
        if condition admin then Program.throw .adminRequired
        else awaitDisconnect >>= rest) : Code α) now := by
  apply obeys_look
  intro admin
  apply obeys_ite
  · intro refused
    exact clean
  · intro goes
    exact obeys_disconnectThen clean keeps

theorem obeys_run {code : Code α}
    (obeys : Obeys Moves (fun origin before _ now => Clean origin before now) origin before code
      now) :
    Obeys Moves (finishes Moves) origin before (run code) now := by
  apply obeys.andThen
  intro origin before outcome now clean
  cases outcome with
  | ok _ => exact clean.moves unspent_none
  | error _ => exact clean.moves unspent_none

theorem obeys_connect (depth : Nat) (server : Server) (options : EngineOptions)
    (clean : Clean origin before now) :
    Obeys Moves (fun origin before _ now => Clean origin before now) origin before
      (connect (depth + 1) server options) now :=
  obeys_adminThen clean (free_afterDisconnect (free_connect depth server options))

theorem obeys_connectDnsOnly (options : EngineOptions) (clean : Clean origin before now) :
    Obeys Moves (fun origin before _ now => Clean origin before now) origin before
      (connectDnsOnly options) now := by
  apply obeys_adminThen clean
  apply (free_at rfl).bind
  intro _
  apply (free_at rfl).bind
  intro _
  apply (free_awaitStart 0 true).bind
  intro _
  apply (free_at rfl).bind
  intro up
  apply keeps_ite
  · apply free_awaitDisconnect.bind
    intro _
    exact keeps_pure false
  apply (free_at rfl).bind
  intro resolves
  apply Keeps.bind (keeps_ite free_awaitDisconnect (keeps_pure ()))
  intro _
  exact keeps_pure resolves

theorem obeys_connectAmnezia (endpoints : List (List Char)) (preferred : Option (List Char))
    (clean : Clean origin before now) :
    Obeys Moves (fun origin before _ now => Clean origin before now) origin before
      (connectAmnezia endpoints preferred) now := by
  apply obeys_adminThen clean
  apply Keeps.bind (keeps_look _)
  intro exists_
  apply keeps_ite
  · exact keeps_pure false
  · exact free_amneziaLoop _

theorem obeys_waitFor {ends : Origin engineSignature → Engine → Except Thrown α → Engine → Prop}
    {site : Site} {rest : Unit → Code α} (stop : Moves origin before (some site) now)
    (after : ∀ later, Obeys Moves ends (.site site) later (rest ()) later) :
    Obeys Moves ends origin before (waitFor site >>= rest) now :=
  ⟨stop, fun _ later => after later⟩

theorem obeys_init (awgActive : Bool) (clean : Clean origin before now) :
    Obeys Moves (finishes Moves) origin before (init awgActive) now := by
  have early {place : Place} (stage : place.stage = .early) :
      Stops Moves Clean (.call .program place) := stops_early stage
  apply obeys_wait ((early rfl).stop origin before now clean)
  · intro _ later
    apply obeys_waitFor ((early rfl).stop _ _ later ((early rfl).resume later))
    intro later
    apply obeys_waitFor ((early rfl).stop _ _ later ((early rfl).resume later))
    intro later
    apply obeys_waitFor ((early rfl).stop _ _ later ((early rfl).resume later))
    intro later
    have removed : Keeps Moves Clean
        (if awgActive then settles .program (.awgReturns .stale) (awgUninstall .program .stale)
        else pure ()) := by
      apply keeps_ite
      · have uninstalled : Keeps Moves Clean (awgUninstall .program .stale) :=
          keeps_awgUninstall rfl (fun _ stage => stops_early stage) fun _ same =>
            clean_update same
        exact uninstalled.andThen fun _ => (early rfl).await fun _ => keeps_pure ()
      · exact keeps_pure ()
    apply (removed _ _ later ((early rfl).resume later)).bind
    · intro origin before _ now clean
      apply (obeys_awaitRelease clean).mono
      intro origin before outcome now free
      exact free none now
    · intro origin before error now clean
      exact clean.moves unspent_none
  · intro error later
    exact ((early rfl).resume later).moves unspent_none

/-- The settings are released by the exit handler itself, without the kill switch. -/
theorem clean_unshielded {process : Process} (plain : process.options.shields ≠ true)
    (e : Engine) : Clean (.site (.exitHelperStopped process)) e e := by
  intro place after same unspent
  refine ⟨same.proxyOwned, same.process, unspent, ?_⟩
  rw [if_neg plain]
  exact same.settings

theorem obeys_exitHandler (process : Process) (now : Engine) :
    Obeys Moves (finishes Moves) (.site (.drained process)) now (exitHandler process) now := by
  apply obeys_read
  apply obeys_ite
  · intro other
    exact ⟨rfl, rfl, unspent_none, fun _ => rfl, fun same => absurd same other⟩
  intro same
  have same : now.process = some process := not_not.mp same
  apply obeys_ite
  · intro dnsOnly
    refine ⟨rfl, rfl, unspent_none, fun other => absurd same other, ?_⟩
    intro _ proxied
    rw [dnsOnly] at proxied
    cases proxied
  intro proxied
  apply obeys_update
  apply obeys_waitFor
  · exact ⟨rfl, rfl, unspent_some id, fun other => absurd same other, fun _ _ => rfl⟩
  intro later
  apply obeys_waitFor
  · exact ⟨SameProxy.refl later, rfl⟩
  intro later
  apply obeys_ite_bind
  · intro shields
    refine ⟨rfl, rfl, unspent_none, ?_⟩
    rw [if_pos shields]
  · intro plain
    apply (obeys_awaitRelease (clean_unshielded plain later)).bind
    · intro origin before _ now free
      exact free none _
    · intro origin before error now free
      exact free none now

theorem obeys_exit (process : Process) (now : Engine) :
    Obeys Moves (finishes Moves) (.entry (.exit process)) now (exit process) now := by
  apply obeys_read
  apply obeys_ite
  · intro running
    apply obeys_update
    apply obeys_waitFor
    · exact ⟨⟨rfl, rfl, rfl⟩, unspent_some id, fun _ => rfl⟩
    · exact obeys_exitHandler process
  · intro gone
    refine ⟨SameProxy.refl now, unspent_none, ?_⟩
    intro running
    exact absurd (List.contains_iff_mem.mpr running) gone

theorem obeys_program (entry : Entry) (e : Engine) :
    Obeys Moves (finishes Moves) (.entry entry) e (program entry) e := by
  have clean (call : entry.isCall = true) : Clean (.entry entry) e e := clean_entry call e
  cases entry with
  | init awgActive => exact obeys_init awgActive (clean rfl)
  | connect depth server options =>
      exact obeys_run (obeys_connect depth server options (clean rfl))
  | connectDnsOnly options => exact obeys_run (obeys_connectDnsOnly options (clean rfl))
  | connectAmnezia endpoints preferred =>
      exact obeys_run (obeys_connectAmnezia endpoints preferred (clean rfl))
  | disconnect byUser =>
      apply (obeys_disconnect (clean rfl)).mono
      intro origin before outcome now free
      exact free none now
  | setStandby standby =>
      have same : SameProxy e { e with standby := standby } := ⟨rfl, rfl, rfl⟩
      exact clean rfl none _ same unspent_none
  | exit process => exact obeys_exit process e

end Programs

end MolidoVpn.Windows
