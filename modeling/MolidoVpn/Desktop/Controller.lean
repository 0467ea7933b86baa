import MolidoVpn.Lib.Cooperative

/-!
Connecting and disconnecting in the desktop controller, `VpnController` over the Windows engine:
its async functions as programs that give up control at their awaits. What the engine, the network
and the settings answer is left to the run; a function that is awaited and touches none of the
fields below is a single wait.
-/

namespace MolidoVpn.Desktop

open Cooperative (Signature Program)

inductive VpnState where
  | disconnected
  | connecting
  | connected
  | disconnecting
  deriving DecidableEq

inductive Protocol where
  | vless
  | vmess
  | trojan
  | shadowsocks
  | hysteria2
  | tuic
  | anytls
  | wireguard
  | socks
  | http
  deriving DecidableEq

structure Server where
  uri : List Char
  countryCode : List Char
  protocol : Protocol
  deriving DecidableEq

namespace Server

def isFree (s : Server) : Bool :=
  "psiphon://".toList.isPrefixOf s.uri || "tor://".toList.isPrefixOf s.uri

def isPsiphonChain (s : Server) : Bool :=
  "viapsiphon:".toList.isPrefixOf s.uri

def isChain (s : Server) : Bool :=
  "viawarp:".toList.isPrefixOf s.uri || s.isPsiphonChain

def isWarp (s : Server) : Bool :=
  s.countryCode == "WARP".toList

/-- `WinFreeRoutes.needsWarp`. -/
def chainNeedsWarp (s : Server) : Bool :=
  "viawarp:".toList.isPrefixOf s.uri || s.uri == "psiphon://warp".toList

def needsWarp (s : Server) : Bool :=
  s.isWarp || s.chainNeedsWarp

def udpOnly (s : Server) : Bool :=
  s.protocol == .hysteria2 || s.protocol == .tuic || s.protocol == .wireguard

end Server

/-- Who tries AmneziaWG. -/
inductive AmneziaUse where
  | chosen
  | auto
  | lastResort
  deriving DecidableEq

/-- Why a run of `_connect` connects to a server. -/
inductive Via where
  | fast
  | only
  | direct
  | ranked
  | smart
  | fallback
  | wireGuard
  deriving DecidableEq

/-- The awaits of `_connect` and of the functions it awaits. Where one of those returns, its result
is part of the place. -/
inductive Place where
  | refreshStatus
  | requestPermission
  | connectDnsOnly
  | ensureWarp
  | connectAmnezia (use : AmneziaUse)
  | amneziaDisconnect (use : AmneziaUse)
  | amneziaUpdate (use : AmneziaUse)
  | amneziaReturns (use : AmneziaUse) (connected : Bool)
  | amneziaAutoReturns (use : AmneziaUse) (connected : Bool)
  | refresh
  | candidates
  | lastWinner
  | engineConnect (via : Via)
  | budgetDisconnect (via : Via)
  | directConnectReturns (via : Via)
  | exitTrace (via : Via)
  | exitPrefs (via : Via)
  | exitStored (via : Via)
  | exitIsIranReturns (via : Via)
  | exitDisconnect (via : Via)
  | exitOkReturns (via : Via) (ok : Bool)
  | quickProbe
  | quickProbeReturns
  | pingAll
  | cancelDisconnect (via : Via)
  | fallbackReturns (connected : Bool)
  | wireGuardReturns (connected : Bool)
  | networkKey
  | smartPrefs
  | probeAll
  | probeReturns
  | measureHealth
  | measureReturns
  /-- Whether `_connect` is over then: connected, or thrown out of. -/
  | smartReturns (over_ : Bool)
  | rememberWinner
  | cancelledDisconnect
  | unexpectedDisconnect
  deriving DecidableEq

@[reducible]
def Place.Answer : Place → Type
  | refreshStatus => Bool
  | requestPermission => Bool
  | connectDnsOnly => Bool
  | ensureWarp => Bool
  | connectAmnezia _ => Option (List Char)
  | candidates => List Server
  | lastWinner => Option (List Char)
  /- No answer at all when the budget of a direct attempt is over. -/
  | engineConnect _ => Option Bool
  | exitTrace _ => Option (List Char)
  | quickProbe => List (Server × Int)
  | pingAll => List Int
  | measureHealth => Bool
  | _ => Unit

/-- Who calls `disconnect`. -/
inductive Caller where
  | user
  | switchAway
  | connectTo
  | selectCountry
  deriving DecidableEq

/-- The awaits of `init` up to the automatic connect. -/
inductive InitPlace where
  | load
  | prefs
  | countryRemoved
  | detectIpv6
  | engineInit
  | userSubscriptions
  | publicSources
  | cached
  | refresh
  | delayed
  | refreshAgain
  deriving DecidableEq

inductive Site where
  | init (place : InitPlace)
  /-- `connect` waits for the run that it finds. -/
  | previousRun (run : Nat)
  | remoteConfig
  | attempt (run : Nat) (place : Place)
  /-- `connect` waits for its own run. -/
  | ownRun (run : Nat)
  | connectReturns
  | engineDisconnect (caller : Caller)
  | disconnectReturns (caller : Caller)
  | healthCheck
  | failover
  | switchAwayReturns
  | trySettings
  | countrySettings
  | countryPrefs
  | countryStored
  deriving DecidableEq

@[reducible]
def Site.Answer : Site → Type
  | attempt _ place => place.Answer
  | healthCheck => Bool
  | failover => Option Server
  | _ => Unit

/-- A run of `_connect` has begun: the state of the controller and the runs in progress just
before it. -/
structure RunStart where
  state : VpnState
  running : List Nat
  deriving DecidableEq

structure Controller where
  state : VpnState
  cancel : Bool
  userStopping : Bool
  watching : Bool
  switchingAway : Bool
  healthFailures : Nat
  current : Option Server
  exitInIran : Bool
  selectedCountry : Option (List Char)
  scheduleInside : Option Bool
  /-- `_connectRun`, by the number of the run. -/
  connectRun : Option Nat
  /-- The runs of `_connect` that have not completed. -/
  running : List Nat
  /-- The runs that have been started, with the number of the next one. -/
  starts : List RunStart
  nextRun : Nat

def Controller.initial : Controller :=
  { state := .disconnected
    cancel := false
    userStopping := false
    watching := false
    switchingAway := false
    healthFailures := 0
    current := none
    exitInIran := false
    selectedCountry := none
    scheduleInside := none
    connectRun := none
    running := []
    starts := []
    nextRun := 0 }

/-- The exceptions that the code tells apart. -/
inductive Thrown where
  | cancelled
  | adminRequired
  | permissionDenied
  | userError
  | unexpected
  deriving DecidableEq

structure EngineOptions where
  proxyOnly : Bool
  /-- Whether there is a WARP identity in the options. -/
  warp : Bool
  fragment : Bool
  deriving DecidableEq

structure SmartCandidate where
  server : Server
  cheap : Bool
  responded : Bool
  fragment : Bool
  deriving DecidableEq

/-- What the code reads that is none of the fields of `Controller`. -/
inductive Query where
  | accountConfigured
  | options
  | transport
  | serversEmpty
  | warpSetting
  | warpAccountMissing
  | byTransport (pool : List Server)
  | udpBlocked
  | smartEnabled
  | httpProxy
  | checkExit
  | amneziaConfig
  | warpAccount
  | amneziaEndpoint
  | amneziaExitCountry
  | isAdmin
  | warpServers
  | rankedByDelay (pool : List Server) (measured : List Int)
  | cheapEmpty
  | fragmentTargets
  | stabilityRounds
  | plainLeadersEmpty
  | fragmentLeadersEmpty
  | smartRanking
  | fresh
  | autoReconnect
  | countryStored
  | launchRetries
  | connectOnLaunch

@[reducible]
def Query.Value : Query → Type
  | options => EngineOptions
  | transport => List Char
  | byTransport _ => List Server
  | amneziaEndpoint => List Char
  | amneziaExitCountry => Option (List Char)
  | warpServers => List Server
  | rankedByDelay _ _ => List Server
  | stabilityRounds => Nat
  | smartRanking => List SmartCandidate
  | countryStored => Option (List Char)
  | launchRetries => Nat
  | _ => Bool

/-- What the rest of the program does to the controller: taps of the user, the timers, the states
that the engine reports. -/
inductive Entry where
  | toggle
  | connectTo (server : Server)
  | tryAgain
  | selectCountry (code : Option (List Char))
  | disconnect
  /-- What the settings say of the schedule, and whether the time is inside its range. -/
  | scheduleTick (enabled inside : Bool)
  | watchdog
  | engineState (state : VpnState)
  | accountOff
  deriving DecidableEq

@[reducible]
def controllerSignature : Signature :=
  { State := Controller
    Site := Site
    Answer := Site.Answer
    Query := Query
    Value := Query.Value
    Error := Thrown
    Entry := Entry }

abbrev Code := Program controllerSignature

abbrev read : Code Controller :=
  Program.read

abbrev update (change : Controller → Controller) : Code Unit :=
  Program.update (S := controllerSignature) change

abbrev look (query : Query) : Code query.Value :=
  Program.look (S := controllerSignature) query

abbrev wait (site : Site) : Code site.Answer :=
  Program.wait (S := controllerSignature) site

abbrev throw {α : Type} (error : Thrown) : Code α :=
  Program.throw (S := controllerSignature) error

end MolidoVpn.Desktop
