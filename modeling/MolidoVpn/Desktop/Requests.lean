import MolidoVpn.Desktop.Attempt

/-!
Who connects and disconnects in the desktop controller: `connect` and `disconnect`, the taps of
the user, the schedule, the watchdog and the states that the engine reports; and the controller as
a system of these programs.
-/

namespace MolidoVpn.Desktop

open Cooperative
open Cooperative.Program (finally_)
open Controller (markDisconnected)

namespace Controller

/-- `final run = _connect(only); _connectRun = run;`, and the run is in progress. -/
def beginRun (c : Controller) : Controller :=
  { c with
    connectRun := some c.nextRun
    running := c.running ++ [c.nextRun]
    starts := c.starts ++ [⟨c.state, c.running⟩]
    nextRun := c.nextRun + 1 }

def completeRun (run : Nat) (c : Controller) : Controller :=
  { c with running := c.running.erase run }

/-- `if (identical(_connectRun, run)) _connectRun = null;`. -/
def forgetRun (run : Nat) (c : Controller) : Controller :=
  { c with connectRun := if c.connectRun = some run then none else c.connectRun }

end Controller

open Controller (beginRun completeRun forgetRun)

/-- A run of `_connect`, as the future that `connect` keeps. -/
def runToEnd (run : Nat) (only : Option Server) : Code Unit :=
  finally_ (connectRun run only) (update (completeRun run))

/-- The first two lines of `connect`: a cancelled attempt may still be unwinding. -/
def awaitPrevious : Code Unit := do
  match (← read).connectRun with
  | some previous => wait (.previousRun previous)
  | none => pure ()

/-- `connect` from `final run = _connect(only);`. -/
def startRun (only : Option Server) : Code Unit := do
  let run := (← read).nextRun
  update beginRun
  finally_ (Program.call (S := controllerSignature) (fun _ => .ownRun run) (runToEnd run only))
    (update (forgetRun run))

/-- `connect` from its look at the state. -/
def checkAndStart (only : Option Server) : Code Unit := do
  if (← read).state ≠ .disconnected then pure ()
  else
    let transport ← look .transport
    (if only = none ∧ transport = "auto".toList then wait .remoteConfig else pure () : Code Unit)
    startRun only

def connect (only : Option Server) : Code Unit := do
  awaitPrevious
  checkAndStart only

def awaitConnect (only : Option Server) : Code Unit :=
  Program.call (S := controllerSignature) (fun _ => .connectReturns) (connect only)

def disconnect (caller : Caller) : Code Unit := do
  if (← read).state = .disconnected then pure ()
  else
    update fun c => { c with state := .disconnecting, userStopping := true }
    finally_ (wait (.engineDisconnect caller))
      (update fun c => ({ c with userStopping := false } : Controller).markDisconnected)

def awaitDisconnect (caller : Caller) : Code Unit :=
  Program.call (S := controllerSignature) (fun _ => .disconnectReturns caller)
    (disconnect caller)

def toggle : Code Unit := do
  match (← read).state with
  | .connected => awaitDisconnect .user
  | .connecting => update fun c => ({ c with cancel := true } : Controller).markDisconnected
  | .disconnected => awaitConnect none
  | .disconnecting => pure ()

def connectTo (server : Server) : Code Unit := do
  let c ← read
  (if c.state = .connected then awaitDisconnect .connectTo else pure () : Code Unit)
  awaitConnect (some server)

/-- The button of the home screen after a failure. -/
def tryAgain : Code Unit := do
  let transport ← look .transport
  (if transport ≠ "auto".toList then wait .trySettings else pure () : Code Unit)
  awaitConnect none

/-- The end of `selectCountry`. -/
def reconnect : Code Unit := do
  if (← read).state = .connected then
    awaitDisconnect .selectCountry
    awaitConnect none
  else pure ()

def selectCountry (code : Option (List Char)) : Code Unit := do
  if code = (← read).selectedCountry then pure ()
  else
    update fun c => { c with selectedCountry := code }
    let transport ← look .transport
    (if code ≠ none ∧ code ≠ some favoritesMode ∧ transport ≠ "auto".toList ∧
        transport ≠ "v2ray".toList then
      wait .countrySettings
    else pure () : Code Unit)
    wait .countryPrefs
    wait .countryStored
    reconnect

/-- `_scheduleTick`. -/
def scheduleTick (enabled inside : Bool) : Code Unit := do
  if !enabled then update fun c => { c with scheduleInside := none }
  else
    let previous := (← read).scheduleInside
    update fun c => { c with scheduleInside := some inside }
    if previous = none ∨ previous = some inside then pure ()
    else if inside ∧ (← read).state = .disconnected then connect none
    else if ¬inside ∧ (← read).state = .connected then disconnect .user
    else pure ()

/-- The `try` block of `_switchAway`. -/
def recover (alreadyDisconnected : Bool) : Code Unit := do
  update fun c => { c with healthFailures := 0 }
  let c ← read
  (if !alreadyDisconnected ∧ c.state ≠ .disconnected then awaitDisconnect .switchAway
    else pure () : Code Unit)
  if (← read).state ≠ .disconnected then pure () else awaitConnect none

/-- `_switchAway`. -/
def switchAway (alreadyDisconnected : Bool) : Code Unit := do
  if (← read).switchingAway || !(← look .autoReconnect) then pure ()
  else
    update fun c => { c with switchingAway := true }
    finally_ (recover alreadyDisconnected) (update fun c => { c with switchingAway := false })

def awaitSwitchAway : Code Unit :=
  Program.call (S := controllerSignature) (fun _ => .switchAwayReturns) (switchAway false)

/-- The part of `_watchdog` between `_watching = true` and `_watching = false`. -/
def watch : Code Unit := do
  let ok ← wait .healthCheck
  if (← read).state ≠ .connected then pure ()
  else
    update fun c => { c with healthFailures := if ok then 0 else c.healthFailures + 1 }
    let c ← read
    let backup ← (if 2 ≤ c.healthFailures then wait .failover else pure none
      : Code (Option Server))
    if backup.isSome ∧ (← read).state = .connected then
      update fun c => { c with healthFailures := 0, current := backup }
    else
      let fresh ← look .fresh
      if (if fresh then 2 else 3) ≤ (← read).healthFailures then awaitSwitchAway else pure ()

/-- `_watchdog`. -/
def watchdog : Code Unit := do
  let c ← read
  if c.watching ∨ c.state ≠ .connected ∨ !(← look .autoReconnect) then
    update fun c =>
      { c with healthFailures := if c.state ≠ .connected then 0 else c.healthFailures }
  else
    update fun c => { c with watching := true }
    finally_ watch (update fun c => { c with watching := false })

/-- The listener to the states of the engine. -/
def engineState (state : VpnState) : Code Unit := do
  let c ← read
  if state ≠ .disconnected ∨ c.state ≠ .connected ∨ c.userStopping then pure ()
  else
    update markDisconnected
    if ← look .autoReconnect then switchAway true else pure ()

/-- What follows in `_reportUsage` once the panel has answered that the account is off. -/
def accountOff : Code Unit := do
  if (← read).state = .connected then awaitDisconnect .user else pure ()

def launchRefresh : Nat → Code Unit
  | 0 => pure ()
  | retries + 1 => do
      wait (.init .delayed)
      wait (.init .refreshAgain)
      launchRefresh retries

/-- The automatic connect of `init`. -/
def launchConnect : Code Unit := do
  if (← look .connectOnLaunch) ∧ !(← look .serversEmpty) ∧ (← read).state = .disconnected then
    connect none
  else pure ()

/-- `init` once the settings are there. -/
def launchEngine : Code Unit := do
  wait (.init .detectIpv6)
  Program.tryCatch (wait (.init .engineInit)) fun _ => pure ()
  wait (.init .userSubscriptions)
  wait (.init .publicSources)
  wait (.init .cached)
  wait (.init .refresh)
  let retries ← look .launchRetries
  launchRefresh (min 3 retries)
  launchConnect

/-- `init`, as far as the automatic connect. -/
def launch : Code Unit := do
  wait (.init .load)
  wait (.init .prefs)
  let stored ← look .countryStored
  update fun c =>
    { c with selectedCountry := if stored = some "GAME".toList then none else stored }
  (if stored = some "GAME".toList then wait (.init .countryRemoved) else pure () : Code Unit)
  launchEngine

def program : Entry → Code Unit
  | .toggle => toggle
  | .connectTo server => connectTo server
  | .tryAgain => tryAgain
  | .selectCountry code => selectCountry code
  | .disconnect => awaitDisconnect .user
  | .scheduleTick enabled inside => scheduleTick enabled inside
  | .watchdog => watchdog
  | .engineState state => engineState state
  | .accountOff => accountOff

/-- A future that is awaited has to be complete first. -/
def ready : Site → Controller → Bool
  | .previousRun run, c => run ∉ c.running
  | .ownRun run, c => run ∉ c.running
  | _, _ => true

/-- The app has been started, and `init` waits for the settings. -/
def initialSystem : System controllerSignature :=
  { state := .initial
    tasks := [launch] }

abbrev next (system : System controllerSignature) (label : Label controllerSignature) :
    Option (System controllerSignature) :=
  system.next program ready label

def plainServer : Server :=
  { uri := "vless://a".toList
    countryCode := "DE".toList
    protocol := .vless }

/-- Plain settings, with this route: no account, and one server in the smart race. -/
def eyesOf (transport : List Char) : ∀ query : Query, query.Value
  | .options => { proxyOnly := true, warp := false, fragment := false }
  | .transport => transport
  | .byTransport pool => pool
  | .amneziaEndpoint => []
  | .amneziaExitCountry => none
  | .warpServers => []
  | .rankedByDelay pool _ => pool
  | .stabilityRounds => 0
  | .smartRanking =>
      [{ server := plainServer, cheap := true, responded := true, fragment := false }]
  | .countryStored => none
  | .launchRetries => 0
  | .smartEnabled => true
  | .httpProxy => true
  | .checkExit => true
  | .accountConfigured => false
  | .serversEmpty => false
  | .warpSetting => false
  | .warpAccountMissing => false
  | .udpBlocked => false
  | .amneziaConfig => false
  | .warpAccount => false
  | .isAdmin => false
  | .cheapEmpty => false
  | .fragmentTargets => false
  | .plainLeadersEmpty => false
  | .fragmentLeadersEmpty => true
  | .fresh => false
  | .autoReconnect => true
  | .connectOnLaunch => false

def plainEyes : ∀ query : Query, query.Value :=
  eyesOf "v2ray".toList

def resumes (task : Nat) (site : Site) (answer : site.Answer) : Label controllerSignature :=
  .resume task site (.ok answer) plainEyes

def starts (entry : Entry) : Label controllerSignature :=
  .start entry plainEyes

/-- `init` comes to its end. -/
def launched : List (Label controllerSignature) :=
  [resumes 0 (.init .load) (), resumes 0 (.init .prefs) (), resumes 0 (.init .detectIpv6) (),
    resumes 0 (.init .engineInit) (), resumes 0 (.init .userSubscriptions) (),
    resumes 0 (.init .publicSources) (), resumes 0 (.init .cached) (),
    resumes 0 (.init .refresh) ()]

end MolidoVpn.Desktop
