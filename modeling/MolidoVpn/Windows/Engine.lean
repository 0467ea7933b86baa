import Mathlib.Logic.Function.Basic
import MolidoVpn.Desktop.Controller

/-!
The Windows engine: connecting, disconnecting and the exit handler of the core, as programs that
give up control at their awaits, over the proxy settings of Windows and the flag in the
preferences that says that the app has set them. The configuration of the core is left out.
-/

namespace MolidoVpn.Windows

open Cooperative (Signature Program)
open Cooperative.Program (finally_ tryCatch)
open Desktop (Server VpnState)

/-- The values that `WinSystemProxy` writes. -/
structure ProxySettings where
  proxyServer : List Char
  proxyOverride : List Char
  proxyEnable : Nat
  deriving DecidableEq

namespace ProxySettings

def enable (hostPort : List Char) (_ : ProxySettings) : ProxySettings :=
  { proxyServer := hostPort
    proxyOverride := "localhost;127.*;10.*;172.16.*;192.168.*;<local>".toList
    proxyEnable := 1 }

def disable (s : ProxySettings) : ProxySettings :=
  { s with proxyEnable := 0 }

end ProxySettings

def localhost (port : Nat) : List Char :=
  "127.0.0.1:".toList ++ Nat.toDigits 10 port

/-- Where the kill switch points browsers at. -/
def deadProxy : List Char :=
  "127.0.0.1:9".toList

/-- The options that the engine itself looks at. -/
structure EngineOptions where
  tunMode : Bool
  killSwitch : Bool
  systemProxy : Bool
  /-- 0 when no port is chosen. -/
  localPort : Nat
  multiPath : Bool
  deriving DecidableEq

/-- Whether the exit handler points browsers at the dead proxy. -/
def EngineOptions.shields (o : EngineOptions) : Bool :=
  o.killSwitch && !o.tunMode && o.systemProxy

/-- A core process, with what its exit handler has captured. -/
structure Process where
  number : Nat
  options : EngineOptions
  port : Nat
  dnsOnly : Bool
  deriving DecidableEq

structure Engine where
  /-- The proxy settings of Windows. -/
  settings : ProxySettings
  /-- `win_proxy_owned` in the preferences. -/
  proxyOwned : Bool
  /-- `_core.process`. -/
  process : Option Process
  /-- The core processes that have not exited. -/
  running : List Process
  nextProcess : Nat
  proxyPort : Option Nat
  standby : List Server
  plainRetry : Bool
  awgActive : Bool
  failures : List Char → Nat
  sniOverride : Option (List Char)
  sniRetried : List (List Char)
  /-- What has been sent on `states`. -/
  reported : List VpnState

def Engine.initial (settings : ProxySettings) (proxyOwned : Bool) : Engine :=
  { settings := settings
    proxyOwned := proxyOwned
    process := none
    running := []
    nextProcess := 0
    proxyPort := none
    standby := []
    plainRetry := false
    awgActive := false
    failures := fun _ => 0
    sniOverride := none
    sniRetried := []
    reported := [] }

/-- Why the AmneziaWG service is removed: it is left over, the engine disconnects, or an endpoint
has not worked. -/
inductive AwgUse where
  | stale
  | disconnecting
  | trying
  deriving DecidableEq

/-- Whose call of the engine it is. -/
inductive Asker where
  | user
  | program
  | exitOf (process : Process)
  deriving DecidableEq

/-- The awaits of the engine and of the functions it awaits. -/
inductive Place where
  | supportDirectory
  | xrayCleanup
  | freeCleanup
  | stalePrefs
  | awgUninstall (use : AwgUse)
  | awgPrefs (use : AwgUse)
  | awgRemoved (use : AwgUse)
  | awgReturns (use : AwgUse)
  | releasePrefs
  | releaseRemoved
  | releaseReturns
  | coreStopped
  | freeStopped
  | helperStopped
  | disconnectReturns
  | helperStart
  | freeStart
  | xrayFor
  | freePort
  | apiPort
  | tunMtu
  | configWritten
  | spawned
  | startReturns
  | waitApi
  | verify
  | verifyReturns (passes : Bool)
  | connectReturns
  | sniForgotten
  | sniCandidates
  | sniRemembered
  | retryReturns
  | ownPrefs
  | ownStored
  | systemLookup
  | confWritten
  | awgActivePrefs
  | awgActiveStored
  | awgInstall
  | awgTrace
  /-- Only a connect whose retries are nested deeper than in the run gets here. -/
  | deeper
  deriving DecidableEq

@[reducible]
def Place.Answer : Place → Type
  | helperStart => Option Nat
  | freeStart => Option Nat
  | freePort => Nat
  | waitApi => Bool
  | verify => Bool
  | sniCandidates => List (List Char)
  | systemLookup => Bool
  | awgInstall => Bool
  | awgTrace => Bool
  | deeper => Bool
  | _ => Unit

inductive Site where
  | call (asker : Asker) (place : Place)
  /-- The exit handler waits: for the end of the output, for Psiphon or Tor, for the helper. -/
  | drained (process : Process)
  | exitFreeStopped (process : Process)
  | exitHelperStopped (process : Process)
  deriving DecidableEq

@[reducible]
def Site.Answer : Site → Type
  | call _ place => place.Answer
  | _ => Unit

inductive Thrown where
  | adminRequired
  | failed
  deriving DecidableEq

/-- What the code reads that is none of the fields of `Engine`. -/
inductive Query where
  | isAdmin
  | isCancelled
  /-- Whether direct attempts have a deadline, and whether it is over. -/
  | deadline
  | pastDeadline
  /-- `_core.outbound`: none, or whether it is a Reality one. -/
  | outbound (server : Server)
  /-- Whether there is an outbound for `_warpEndpoint`. -/
  | warpOutbound
  | rememberedSni (server : Server)
  | warpMember
  | awgExe

@[reducible]
def Query.Value : Query → Type
  | outbound _ => Option Bool
  | rememberedSni _ => Option (List Char)
  | _ => Bool

/-- What happens to the engine: what the controller asks of it, and the exit of a core process. -/
inductive Entry where
  /-- Whether a previous run has left the AmneziaWG service behind. -/
  | init (awgActive : Bool)
  /-- The retries of a connect call it again; here, at most `depth` deep. -/
  | connect (depth : Nat) (server : Server) (options : EngineOptions)
  | connectDnsOnly (options : EngineOptions)
  | connectAmnezia (endpoints : List (List Char)) (preferred : Option (List Char))
  | disconnect (byUser : Bool)
  | setStandby (standby : List Server)
  | exit (process : Process)
  deriving DecidableEq

@[reducible]
def engineSignature : Signature :=
  { State := Engine
    Site := Site
    Answer := Site.Answer
    Query := Query
    Value := Query.Value
    Error := Thrown
    Entry := Entry }

abbrev Code := Program engineSignature

abbrev read : Code Engine :=
  Program.read

abbrev update (change : Engine → Engine) : Code Unit :=
  Program.update (S := engineSignature) change

abbrev look (query : Query) : Code query.Value :=
  Program.look (S := engineSignature) query

abbrev wait (site : Site) : Code site.Answer :=
  Program.wait (S := engineSignature) site

/-- An await of something that does not throw. -/
def waitFor (site : Site) : Code Unit :=
  Program.await (S := engineSignature) site fun _ => .done (.ok ())

section Calls

variable (asker : Asker)

def at_ (place : Place) : Code place.Answer :=
  wait (.call asker place)

def calls {α : Type} (place : Except Thrown α → Place) (body : Code α) : Code α :=
  Program.call (S := engineSignature) (fun outcome => .call asker (place outcome)) body

/-- An await of an async function that does not throw. -/
def settles (place : Place) (body : Code Unit) : Code Unit :=
  body.andThen fun _ => waitFor (.call asker place)

/-- `_awgUninstall`. The preferences are in memory, and neither reading nor writing them throws. -/
def awgUninstall (use : AwgUse) : Code Unit := do
  (if ← look .awgExe then waitFor (.call asker (.awgUninstall use)) else pure () : Code Unit)
  update fun e => { e with awgActive := false }
  waitFor (.call asker (.awgPrefs use))
  waitFor (.call asker (.awgRemoved use))

/-- `_releaseProxy`. What is written to the preferences is read at once. -/
def releaseProxy : Code Unit := do
  waitFor (.call asker .releasePrefs)
  if (← read).proxyOwned then
    update fun e => { e with settings := e.settings.disable, proxyOwned := false }
    waitFor (.call asker .releaseRemoved)
  else pure ()

def disconnect : Code Unit := do
  update fun e => { e with proxyPort := none }
  (if (← read).awgActive then
    settles asker (.awgReturns .disconnecting) (awgUninstall asker .disconnecting)
  else pure () : Code Unit)
  settles asker .releaseReturns (releaseProxy asker)
  -- `_core.stop` forgets the process before it kills it.
  update fun e => { e with process := none }
  waitFor (.call asker .coreStopped)
  waitFor (.call asker .freeStopped)
  waitFor (.call asker .helperStopped)

end Calls

def awaitDisconnect : Code Unit :=
  calls .program (fun _ => .disconnectReturns) (disconnect .program)

/-- `SingboxCore.start`. -/
def startCore (options : EngineOptions) (port : Nat) (dnsOnly : Bool) : Code Unit := do
  update fun e => { e with process := none }
  waitFor (.call .program .coreStopped)
  at_ .program .configWritten
  at_ .program .spawned
  update fun e =>
    let process : Process :=
      { number := e.nextProcess, options := options, port := port, dnsOnly := dnsOnly }
    { e with
      process := some process
      running := e.running ++ [process]
      nextProcess := e.nextProcess + 1 }

def awaitStart (options : EngineOptions) (port : Nat) (dnsOnly : Bool) : Code Unit :=
  calls .program (fun _ => .startReturns) (startCore options port dnsOnly)

/-- `WinFreeRoutes.innerOf`. -/
def innerOf (server : Server) : Server :=
  { server with
    uri := server.uri.drop
      (if server.isPsiphonChain then "viapsiphon:".length else "viawarp:".length) }

/-- What the core dials, once Psiphon or Tor is there when the server needs it: nothing, or whether
it is a Reality outbound. -/
def outboundOf (server : Server) : Code (Option Bool) := do
  if server.isFree then
    let upstream ← (if server.uri = "psiphon://warp".toList then do
        pure (← at_ .program .helperStart).isSome
      else pure true : Code Bool)
    if !upstream then pure none
    else
      match ← at_ .program .freeStart with
      | some _ => pure (some false)
      | none =>
          waitFor (.call .program .freeStopped)
          waitFor (.call .program .helperStopped)
          pure none
  else if server.isPsiphonChain then
    match ← look (.outbound (innerOf server)) with
    | none => pure none
    | some reality =>
        match ← at_ .program .freeStart with
        | some _ => pure (some reality)
        | none =>
            waitFor (.call .program .freeStopped)
            pure none
  else if server.isChain then
    let inner ← look (.outbound (innerOf server))
    if ← look .warpOutbound then pure inner else pure none
  else look (.outbound server)

/-- The servers that the core can move to by itself. -/
def backupsOf (server : Server) : List Server → Code (List Server)
  | [] => pure []
  | other :: rest => do
      if other.uri = server.uri ∨ other.isFree ∨ "warp://".toList.isPrefixOf other.uri then
        backupsOf server rest
      else
        let outbound ← look (.outbound other)
        let backups ← backupsOf server rest
        pure (if outbound.isSome then other :: backups else backups)

/-- What an attempt has fixed when it starts the core. -/
structure Attempt where
  server : Server
  options : EngineOptions
  port : Nat
  /-- There is a deadline, and it holds for this server. -/
  budgeted : Bool
  reality : Bool
  sniUsed : Option (List Char)
  failures : Nat
  backups : List Server
  warpMember : Bool

namespace Attempt

variable (a : Attempt)

def stopped : Code Bool := do
  let cancelled ← look .isCancelled
  let past ← look .pastDeadline
  pure (cancelled || (a.budgeted && past))

/-- The core has not come up: once more with the main server alone. -/
def retryPlain (again : Code Bool) : Code Bool := do
  let stopped ← a.stopped
  if !stopped && (!a.backups.isEmpty || a.warpMember) then
    let saved := (← read).standby
    update fun e => { e with standby := [], plainRetry := true }
    finally_ (calls .program (fun _ => .connectReturns) again)
      (update fun e => { e with standby := saved, plainRetry := false })
  else pure false

/-- The loop of `_retryRealitySni`. -/
def retrySnis (again : Code Bool) : List (List Char) → Code Bool
  | [] => pure false
  | sni :: rest => do
      if ← look .isCancelled then pure false
      else
        update fun e => { e with sniOverride := some sni }
        let connected ← finally_
          (do
            let connected ← calls .program (fun _ => .connectReturns) again
            (if connected then at_ .program .sniRemembered else pure () : Code Unit)
            pure connected)
          (update fun e => { e with sniOverride := none })
        if connected then pure true else retrySnis again rest

def retryRealitySni (again : Code Bool) : Code Bool := do
  let candidates ← at_ .program .sniCandidates
  retrySnis again candidates

/-- The tunnel does not pass traffic. -/
def failed (again : Code Bool) : Code Bool := do
  if (← read).sniOverride.isSome then pure false
  else
    (if !a.server.isFree then
      update fun e =>
        { e with failures := Function.update e.failures a.server.uri (a.failures + 1) }
    else pure () : Code Unit)
    if a.reality then
      (if a.sniUsed.isSome then at_ .program .sniForgotten else pure () : Code Unit)
      let cancelled ← look .isCancelled
      let retried := (← read).sniRetried
      if !a.budgeted && !cancelled && 1 ≤ a.failures && !retried.contains a.server.uri then
        update fun e => { e with sniRetried := a.server.uri :: e.sniRetried }
        calls .program (fun _ => .retryReturns) (retryRealitySni again)
      else pure false
    else pure false

/-- The tunnel passes traffic: browsers are pointed at it, and the settings are ours. -/
def succeed : Code Bool := do
  update fun e =>
    { e with
      failures := Function.update e.failures a.server.uri 0
      proxyPort := some a.port }
  (if a.options.systemProxy && !a.options.tunMode then do
    update fun e => { e with settings := e.settings.enable (localhost a.port) }
    waitFor (.call .program .ownPrefs)
    update fun e => { e with proxyOwned := true }
    waitFor (.call .program .ownStored)
  else pure () : Code Unit)
  pure true

def passes : Except Thrown Bool → Bool
  | .ok result => result
  | .error _ => false

/-- `connect` from `_core.start`. -/
def run (again : Code Bool) : Code Bool := do
  awaitStart a.options a.port false
  let up ← at_ .program .waitApi
  if !up then
    awaitDisconnect
    a.retryPlain again
  else
    let passed ← calls .program (fun outcome => .verifyReturns (passes outcome))
      (at_ .program .verify)
    if !passed then
      awaitDisconnect
      a.failed again
    else a.succeed

end Attempt

/-- `connect` once it knows what to dial. -/
def connectThrough (again : Code Bool) (server : Server) (options : EngineOptions)
    (budgeted reality : Bool) : Code Bool := do
  at_ .program .xrayFor
  let sniUsed ← (if !reality then pure none else do
      match (← read).sniOverride with
      | some sni => pure (some sni)
      | none => look (.rememberedSni server) : Code (Option (List Char)))
  let failures := (← read).failures server.uri
  let port ← (if 0 < options.localPort then pure options.localPort else at_ .program .freePort :
    Code Nat)
  at_ .program .apiPort
  (if options.tunMode then at_ .program .tunMtu else pure () : Code Unit)
  let standby := (← read).standby
  let backups ← (if !server.isFree && !server.isChain then backupsOf server standby
    else pure [] : Code (List Server))
  let member ← look .warpMember
  let plainRetry := (← read).plainRetry
  let a : Attempt :=
    { server := server
      options := options
      port := port
      budgeted := budgeted
      reality := reality
      sniUsed := sniUsed
      failures := if server.isFree then 0 else failures
      backups := backups
      warpMember :=
        options.multiPath && !server.isFree && !server.isChain && !plainRetry && member }
  a.run again

def connectOnce (again : Code Bool) (server : Server) (options : EngineOptions) : Code Bool := do
  let admin ← look .isAdmin
  if options.tunMode && !admin then Program.throw .adminRequired
  else
    awaitDisconnect
    let deadline ← look .deadline
    match ← outboundOf server with
    | none => pure false
    | some reality =>
        connectThrough again server options (!server.isFree && !server.isChain && deadline)
          (reality && !server.isFree)

def connect : Nat → Server → EngineOptions → Code Bool
  | 0, _, _ => at_ .program .deeper
  | depth + 1, server, options => connectOnce (connect depth server options) server options

def connectDnsOnly (options : EngineOptions) : Code Bool := do
  let admin ← look .isAdmin
  if !admin then Program.throw .adminRequired
  else
    awaitDisconnect
    at_ .program .apiPort
    at_ .program .tunMtu
    awaitStart options 0 true
    let up ← at_ .program .waitApi
    if !up then
      awaitDisconnect
      pure false
    else
      let resolves ← at_ .program .systemLookup
      (if !resolves then awaitDisconnect else pure () : Code Unit)
      pure resolves

/-- The loop of `connectAmnezia`. -/
def amneziaLoop : List (List Char) → Code Bool
  | [] => pure false
  | _ :: rest => do
      if ← look .isCancelled then pure false
      else
        at_ .program .confWritten
        update fun e => { e with awgActive := true }
        waitFor (.call .program .awgActivePrefs)
        waitFor (.call .program .awgActiveStored)
        let installed ← tryCatch (at_ .program .awgInstall) fun _ => pure false
        let connected ← (if installed then at_ .program .awgTrace else pure false : Code Bool)
        if connected then pure true
        else
          settles .program (.awgReturns .trying) (awgUninstall .program .trying)
          amneziaLoop rest

def connectAmnezia (endpoints : List (List Char)) (preferred : Option (List Char)) :
    Code Bool := do
  let admin ← look .isAdmin
  if !admin then Program.throw .adminRequired
  else
    awaitDisconnect
    if !(← look .awgExe) then pure false
    else
      amneziaLoop (preferred.toList.filter (endpoints.contains ·) ++
        endpoints.filter (some · ≠ preferred))

/-- What `connect` and `connectDnsOnly` run once the output of the core has ended. -/
def exitHandler (process : Process) : Code Unit := do
  if (← read).process ≠ some process then pure ()
  else if process.dnsOnly then
    update fun e =>
      { e with
        process := none
        reported := e.reported ++ [.disconnected] }
  else
    update fun e =>
      { e with
        process := none
        proxyPort := none }
    waitFor (.exitFreeStopped process)
    waitFor (.exitHelperStopped process)
    (if process.options.shields then
      update fun e => { e with settings := e.settings.enable deadProxy }
    else
      settles (.exitOf process) .releaseReturns (releaseProxy (.exitOf process)) : Code Unit)
    update fun e => { e with reported := e.reported ++ [.disconnected] }

/-- A core process exits, by itself or because it has been killed. -/
def exit (process : Process) : Code Unit := do
  if (← read).running.contains process then
    update fun e => { e with running := e.running.erase process }
    waitFor (.drained process)
    exitHandler process
  else pure ()

def init (awgActive : Bool) : Code Unit := do
  at_ .program .supportDirectory
  waitFor (.call .program .xrayCleanup)
  waitFor (.call .program .freeCleanup)
  waitFor (.call .program .stalePrefs)
  (if awgActive then
    settles .program (.awgReturns .stale) (awgUninstall .program .stale)
  else pure () : Code Unit)
  settles .program .releaseReturns (releaseProxy .program)

/-- Run a program for its effects. -/
def run {α : Type} (code : Code α) : Code Unit := do
  let _ ← code
  pure ()

def program : Entry → Code Unit
  | .init awgActive => init awgActive
  | .connect depth server options => run (connect (depth + 1) server options)
  | .connectDnsOnly options => run (connectDnsOnly options)
  | .connectAmnezia endpoints preferred => run (connectAmnezia endpoints preferred)
  | .disconnect byUser => disconnect (if byUser then .user else .program)
  | .setStandby standby => update fun e => { e with standby := standby }
  | .exit process => exit process

/-- A connect that is nested too deep goes on for ever. -/
def ready (site : Site) (_ : Engine) : Bool :=
  site ≠ .call .program .deeper

end MolidoVpn.Windows
