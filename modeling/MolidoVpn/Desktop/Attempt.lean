import MolidoVpn.Lib.Ranking
import MolidoVpn.Desktop.Controller

/-!
One attempt of the desktop controller to connect: `_connect`, with the paths that it tries one
after the other.
-/

namespace MolidoVpn.Desktop

open Cooperative
open Cooperative.Program (tryCatch)

namespace Controller

/-- `_markDisconnected`. -/
def markDisconnected (c : Controller) : Controller :=
  { c with
    state := .disconnected
    current := none
    exitInIran := false }

/-- What the paths of `_connect` do once they have a working connection. -/
def markConnected (server : Option Server) (c : Controller) : Controller :=
  { c with
    state := .connected
    current := server }

/-- The first lines of `_connect`. -/
def beginAttempt (c : Controller) : Controller :=
  { c with
    cancel := false
    state := .connecting
    exitInIran := false }

end Controller

open Controller (markDisconnected markConnected beginAttempt)

/-- What a run of `_connect` has fixed before it awaits anything. -/
structure Attempt where
  run : Nat
  only : Option Server
  country : Option (List Char)
  countryMode : Bool
  autoExit : Bool

namespace Attempt

variable (a : Attempt)

def at_ (place : Place) : Code place.Answer :=
  wait (.attempt a.run place)

/-- An await of an async function of the controller. -/
def calls {α : Type} (place : Except Thrown α → Place) (body : Code α) : Code α :=
  Program.call (S := controllerSignature) (fun outcome => .attempt a.run (place outcome)) body

def checkCancel : Code Unit := do
  if (← read).cancel then throw .cancelled else pure ()

def returned : Except Thrown Bool → Bool
  | .ok result => result
  | .error _ => false

/-- `_exitIsIran`. -/
def exitIsIran (via : Via) (server : Server) : Code Bool := do
  if (← look .httpProxy) && (← look .checkExit) then
    let loc ← a.at_ (.exitTrace via)
    if loc ≠ some "IR".toList then pure false
    else if server.isWarp then
      a.at_ (.exitPrefs via)
      a.at_ (.exitStored via)
      pure true
    else pure true
  else pure false

/-- `exitOk`, with the server that is kept in case every route exits in Iran. -/
def exitOk (via : Via) (server : Server) (irFallback : Option Server) :
    Code (Bool × Option Server) := do
  if a.countryMode then
    let proxy ← look .httpProxy
    let loc ← (if proxy then a.at_ (.exitTrace via) else pure none : Code (Option (List Char)))
    if loc = none ∨ loc = a.country then pure (true, irFallback)
    else
      a.at_ (.exitDisconnect via)
      pure (false, irFallback)
  else if !(← a.calls (fun _ => .exitIsIranReturns via) (a.exitIsIran via server)) then
    pure (true, irFallback)
  else if !a.autoExit then
    update fun c => { c with exitInIran := true }
    pure (true, irFallback)
  else
    a.at_ (.exitDisconnect via)
    pure (false, irFallback.or (some server))

def awaitExitOk (via : Via) (server : Server) (irFallback : Option Server) :
    Code (Bool × Option Server) :=
  a.calls (fun outcome => .exitOkReturns via (returned (outcome.map Prod.fst)))
    (a.exitOk via server irFallback)

/-- `connected && await exitOk(server)`. -/
def andExitOk (connected : Bool) (via : Via) (server : Server) (irFallback : Option Server) :
    Code (Bool × Option Server) :=
  if connected then a.awaitExitOk via server irFallback else pure (false, irFallback)

/-- `_engineConnect`; it is given up only where a budget is put on it. -/
def engineConnect (via : Via) : Code Bool := do
  let answer ← a.at_ (.engineConnect via)
  pure (answer.getD false)

/-- `_directConnect`. -/
def directConnect (via : Via) (server : Server) : Code Bool := do
  if server.isFree || server.isChain then a.engineConnect via
  else
    match ← a.at_ (.engineConnect via) with
    | some ok => pure ok
    | none =>
        a.at_ (.budgetDisconnect via)
        pure false

def awaitDirectConnect (via : Via) (server : Server) : Code Bool :=
  a.calls (fun _ => .directConnectReturns via) (a.directConnect via server)

/-- `useIrFallback`. -/
def useIrFallback (irFallback : Option Server) : Code Bool :=
  match irFallback with
  | none => pure false
  | some server => do
      checkCancel
      if ← a.engineConnect .fallback then
        checkCancel
        update (markConnected (some server))
        update fun c => { c with exitInIran := true }
        pure true
      else pure false

/-- The part of `_amnezia` before there is a configuration to connect with. -/
def amneziaConfig : Code Bool := do
  if ← look .amneziaConfig then pure true
  else
    let account ← look .warpAccount
    let registered ← (if account then pure true else a.at_ .ensureWarp : Code Bool)
    if !registered then pure false
    else look .warpAccount

/-- `_amnezia`. -/
def amnezia (use : AmneziaUse) (auto allowIranExit : Bool) : Code Bool := do
  if !(← a.amneziaConfig) then pure false
  else
    let working ← a.at_ (.connectAmnezia use)
    if working = none ∨ (← read).cancel then pure false
    else
      let ir := (← look .checkExit) && (← look .amneziaExitCountry) = some "IR".toList
      if auto && ir && !allowIranExit then
        a.at_ (.amneziaDisconnect use)
        pure false
      else
        let endpoint ← look .amneziaEndpoint
        (if working ≠ some endpoint then a.at_ (.amneziaUpdate use) else pure () : Code Unit)
        update (markConnected none)
        update fun c => { c with exitInIran := ir }
        pure true

def awaitAmnezia (use : AmneziaUse) (auto allowIranExit : Bool) : Code Bool :=
  a.calls (fun outcome => .amneziaReturns use (returned outcome))
    (a.amnezia use auto allowIranExit)

/-- `_amneziaAuto`. -/
def amneziaAuto (options : EngineOptions) (use : AmneziaUse) (allowIranExit : Bool) :
    Code Bool := do
  if (← look .transport) ≠ "auto".toList ∨ (← read).cancel then pure false
  else if !(← look .isAdmin) || options.proxyOnly || (← look .udpBlocked) then pure false
  else tryCatch (a.awaitAmnezia use true allowIranExit) fun _ => pure false

def awaitAmneziaAuto (options : EngineOptions) (use : AmneziaUse) (allowIranExit : Bool) :
    Code Bool :=
  a.calls (fun outcome => .amneziaAutoReturns use (returned outcome))
    (a.amneziaAuto options use allowIranExit)

def wireGuardLoop : List Server → Code Bool
  | [] => pure false
  | server :: rest => do
      checkCancel
      if ← a.engineConnect .wireGuard then
        checkCancel
        update (markConnected (some server))
        update fun c => { c with exitInIran := true }
        pure true
      else wireGuardLoop rest

/-- The `try` block of `_warpDirectAuto`. -/
def registeredWireGuard : Code Bool := do
  let missing ← look .warpAccountMissing
  let identity ← (if missing then a.at_ .ensureWarp else pure true : Code Bool)
  if !identity then pure false
  else a.wireGuardLoop (← look .warpServers)

/-- `_warpDirectAuto`. -/
def warpDirectAuto : Code Bool := do
  if (← look .transport) ≠ "auto".toList ∨ (← read).cancel then pure false
  else tryCatch a.registeredWireGuard fun _ => pure false

/-- What is tried when no route has connected. -/
def lastResorts (options : EngineOptions) (irFallback : Option Server) : Code Unit := do
  if a.countryMode then throw .userError
  else if ← a.awaitAmneziaAuto options .auto false then pure ()
  else
    checkCancel
    if ← a.calls (fun outcome => .fallbackReturns (returned outcome))
        (a.useIrFallback irFallback) then pure ()
    else if ← a.awaitAmneziaAuto options .lastResort true then pure ()
    else
      checkCancel
      if ← a.calls (fun outcome => .wireGuardReturns (returned outcome)) a.warpDirectAuto then
        pure ()
      else throw .userError

def rememberWinner : Code Unit :=
  a.at_ .rememberWinner

/-- `on AdminRequiredError { throw const _UserError(…); }`. -/
def adminAsUserError (error : Thrown) : Code Bool :=
  throw (if error = .adminRequired then .userError else error)

def dnsOnly : Code Unit := do
  let up ← tryCatch (a.at_ .connectDnsOnly) adminAsUserError
  if !up then
    checkCancel
    throw .userError
  else
    checkCancel
    update (markConnected none)

def chosenAmnezia : Code Unit := do
  let up ← tryCatch (a.awaitAmnezia .chosen false false) adminAsUserError
  if up then pure ()
  else
    checkCancel
    throw .userError

def connectOnly (server : Server) : Code Unit := do
  if ← a.engineConnect .only then
    checkCancel
    update (markConnected (some server))
    let iran ← a.calls (fun _ => .exitIsIranReturns .only) (a.exitIsIran .only server)
    update fun c => { c with exitInIran := c.exitInIran || iran && c.state = .connected }
    a.rememberWinner
  else throw .userError

/-- The options, with the identity of WARP if it is asked for and can be had. -/
def warpOptions (options : EngineOptions) : Code EngineOptions := do
  if (← look .warpSetting) && !options.warp then
    if ← a.at_ .ensureWarp then look .options else pure options
  else pure options

def serverPool : Code (List Server) :=
  match a.only with
  | some server => pure [server]
  | none => do
      let candidates ← a.at_ .candidates
      if a.countryMode then
        pure (candidates.filter fun s => !s.needsWarp && !s.isFree && !s.isChain)
      else look (.byTransport candidates)

/-- The servers that can be tried without the identity of WARP, if there is none. -/
def registeredPool (pool : List Server) : Code (List Server) := do
  if pool.any Server.needsWarp && (← look .warpAccountMissing) then
    if ← a.at_ .ensureWarp then pure pool
    else pure (pool.filter fun s => !s.needsWarp)
  else pure pool

/-- The options, and the servers to try. -/
def gatherPool (options : EngineOptions) : Code (EngineOptions × List Server) := do
  let empty ← look .serversEmpty
  (if empty && a.only = none then a.at_ .refresh else pure () : Code Unit)
  let options ← a.warpOptions options
  let pool ← a.serverPool
  if a.countryMode && pool.isEmpty then throw .userError
  else
    let pool ← a.registeredPool pool
    if pool.isEmpty then throw .userError
    else
      let transport ← look .transport
      if a.only = none ∧ (transport = "auto".toList ∨ transport = "v2ray".toList) ∧
          (← look .udpBlocked) ∧ pool.any (fun s => !s.udpOnly) then
        pure (options, pool.filter fun s => !(s.udpOnly || s.chainNeedsWarp))
      else pure (options, pool)

/-- `quickProbeOrder`. -/
def quickProbeOrder (items : List Server) (times : List (Server × Int)) : List Server :=
  let time := fun s => (times.lookup s).getD 0
  Ranking.rank time (items.filter fun s => 0 < time s) ++
    items.filter (fun s => time s = 0) ++ items.filter fun s => time s < 0

/-- `_quickProbe`. -/
def quickProbe (tried : List Server) : Code (List Server) := do
  let probe := (tried.filter fun s => !s.isFree && !s.isChain && !s.needsWarp).take 4
  if probe.length < 2 then pure tried
  else
    tryCatch
      (do
        let times ← a.at_ .quickProbe
        pure (quickProbeOrder tried times))
      fun _ => pure tried

/-- The direct attempts: whether one of them has connected. -/
def directLoop : List Server → Option Server → Code (Bool × Option Server)
  | [], irFallback => pure (false, irFallback)
  | server :: rest, irFallback => do
      checkCancel
      let directOk ← a.awaitDirectConnect .direct server
      let (good, irFallback) ← a.andExitOk directOk .direct server irFallback
      if good then
        checkCancel
        update (markConnected (some server))
        a.rememberWinner
        pure (true, irFallback)
      else directLoop rest irFallback

/-- The attempts after the ping round. -/
def rankedLoop : List Server → Option Server → Code (Bool × Option Server)
  | [], irFallback => pure (false, irFallback)
  | server :: rest, irFallback => do
      checkCancel
      if !(← a.engineConnect .ranked) then rankedLoop rest irFallback
      else if (← read).cancel then
        a.at_ (.cancelDisconnect .ranked)
        throw .cancelled
      else
        let (good, irFallback) ← a.awaitExitOk .ranked server irFallback
        if !good then rankedLoop rest irFallback
        else
          update (markConnected (some server))
          a.rememberWinner
          pure (true, irFallback)

/-- The direct attempts, and the ping round over the other servers. -/
def serversInOrder (options : EngineOptions) (pool : List Server) (irFallback : Option Server) :
    Code Unit := do
  let tried ← a.calls (fun _ => .quickProbeReturns) (a.quickProbe (pool.take 6))
  let (connected, irFallback) ← a.directLoop tried irFallback
  if connected then pure ()
  else
    let pool := pool.filter fun s => s ∉ tried
    if pool.isEmpty then a.lastResorts options irFallback
    else
      let measured ← a.at_ .pingAll
      checkCancel
      let responded ← look (.rankedByDelay pool measured)
      let ranked := if responded.isEmpty then pool.take 4 else responded
      let (connected, irFallback) ← a.rankedLoop (ranked.take 4) irFallback
      if connected then pure () else a.lastResorts options irFallback

/-- The fast path to the last working server: whether it has connected, and what is left of the
pool. -/
def fastPath (pool : List Server) : Code (Bool × List Server × Option Server) := do
  let last ← a.at_ .lastWinner
  match pool with
  | [] => pure (false, pool, none)
  | server :: rest =>
      if a.only = none ∧ some server.uri = last then
        let fastOk ← a.awaitDirectConnect .fast server
        let (good, irFallback) ← a.andExitOk fastOk .fast server none
        if good then
          checkCancel
          update (markConnected (some server))
          pure (true, pool, irFallback)
        else
          checkCancel
          pure (false, rest, irFallback)
      else pure (false, pool, none)

/-- `probe`, in `_smartConnect`; what cuts it short is caught. -/
def probe (empty : Bool) : Code Unit :=
  a.calls (fun _ => .probeReturns)
    (if empty then pure () else tryCatch (a.at_ .probeAll) fun _ => pure ())

/-- The rounds that probe the leaders of the race again. -/
def stabilityRounds (plainEmpty fragmentEmpty : Bool) : Nat → Code Unit
  | 0 => pure ()
  | rounds + 1 => do
      a.probe plainEmpty
      a.probe fragmentEmpty
      checkCancel
      stabilityRounds plainEmpty fragmentEmpty rounds

/-- `measureConnection`. -/
def measureConnection : Code Unit :=
  a.calls (fun _ => .measureReturns) do
    if (← read).state ≠ .connected then pure ()
    else
      let _ ← a.at_ .measureHealth
      pure ()

/-- Whether a candidate is passed over, and the counts of those tried. -/
def passedOver (c : SmartCandidate) (anyResponded : Bool) (cheapTried failedTried : Nat) :
    Bool × Nat × Nat :=
  if !c.cheap then (false, cheapTried, failedTried)
  else if c.responded then (decide (cheapTried + 1 > 4), cheapTried + 1, failedTried)
  else if anyResponded then (true, cheapTried, failedTried)
  else (decide (failedTried + 1 > 4), cheapTried, failedTried + 1)

/-- Stage 3 of `_smartConnect`: connect in score order. -/
def smartLoop (anyResponded : Bool) :
    List SmartCandidate → Nat → Nat → Option Server → Code (Bool × Option Server)
  | [], _, _, irFallback => pure (false, irFallback)
  | c :: rest, cheapTried, failedTried, irFallback => do
      checkCancel
      let (passed, cheapTried, failedTried) := passedOver c anyResponded cheapTried failedTried
      if passed then smartLoop anyResponded rest cheapTried failedTried irFallback
      else
        let ok ←
          (if c.cheap then a.awaitDirectConnect .smart c.server else a.engineConnect .smart
            : Code Bool)
        if !ok then smartLoop anyResponded rest cheapTried failedTried irFallback
        else if (← read).cancel then
          a.at_ (.cancelDisconnect .smart)
          throw .cancelled
        else
          let (good, irFallback) ← a.awaitExitOk .smart c.server irFallback
          if !good then smartLoop anyResponded rest cheapTried failedTried irFallback
          else
            (if !c.cheap then a.measureConnection else pure () : Code Unit)
            update (markConnected (some c.server))
            a.rememberWinner
            pure (true, irFallback)

/-- Stage 2a of `_smartConnect`. -/
def fragmentRace : Code Unit := do
  if ← look .fragmentTargets then
    a.probe false
    checkCancel
  else pure ()

/-- `_smartConnect`. -/
def smartConnect : Code (Bool × Option Server) := do
  a.at_ .networkKey
  a.at_ .smartPrefs
  a.probe (← look .cheapEmpty)
  checkCancel
  a.fragmentRace
  let plainEmpty ← look .plainLeadersEmpty
  let fragmentEmpty ← look .fragmentLeadersEmpty
  let rounds ← look .stabilityRounds
  a.stabilityRounds plainEmpty fragmentEmpty
    (if plainEmpty && fragmentEmpty then 0 else rounds)
  let ranked ← look .smartRanking
  a.smartLoop (ranked.any fun c => c.cheap && c.responded) ranked 0 0 none

def isOver : Except Thrown (Bool × Option Server) → Bool
  | .ok (connected, _) => connected
  | .error _ => true

/-- The `try` block of `_connect`, after the permission. -/
def routes (options : EngineOptions) : Code Unit := do
  if (← look .transport) = "dns".toList ∧ a.only = none then a.dnsOnly
  else if (← look .transport) = "amnezia".toList ∧ a.only = none then a.chosenAmnezia
  else
    let (options, pool) ← a.gatherPool options
    let transport ← look .transport
    let smartOn := a.only = none ∧ (← look .smartEnabled) ∧
      (transport = "auto".toList ∨ transport = "v2ray".toList)
    let (connected, pool, irFallback) ←
      (if smartOn then pure (false, pool, none) else a.fastPath pool
        : Code (Bool × List Server × Option Server))
    if connected then pure ()
    else
      match a.only with
      | some server => a.connectOnly server
      | none =>
          if smartOn then
            let (connected, irFallback) ←
              a.calls (fun outcome => .smartReturns (isOver outcome)) a.smartConnect
            if connected then pure ()
            else
              checkCancel
              a.lastResorts options irFallback
          else a.serversInOrder options pool irFallback

/-- The `try` block of `_connect`. -/
def body (options : EngineOptions) : Code Unit := do
  let configured ← look .accountConfigured
  let allowed ← (if configured then a.at_ .refreshStatus else pure true : Code Bool)
  if !allowed then throw .userError
  else
    let granted ← (if !options.proxyOnly then a.at_ .requestPermission else pure true : Code Bool)
    if !granted then throw .permissionDenied
    else a.routes options

/-- The `catch` clauses of `_connect`. -/
def caught : Thrown → Code Unit
  | .cancelled => do
      a.at_ .cancelledDisconnect
      update markDisconnected
  | .unexpected => do
      a.at_ .unexpectedDisconnect
      update markDisconnected
  | _ => update markDisconnected

end Attempt

def favoritesMode : List Char := "FAV".toList

/-- What is fixed in the first lines of `_connect`. -/
def Attempt.fixed (run : Nat) (only : Option Server) (country : Option (List Char))
    (transport : List Char) : Attempt :=
  { run
    only
    country
    countryMode := decide (only = none ∧ country ≠ none ∧ country ≠ some favoritesMode ∧
      (transport = "auto".toList ∨ transport = "v2ray".toList))
    autoExit := decide (only = none ∧ transport = "auto".toList) }

/-- `_connect`. -/
def connectRun (run : Nat) (only : Option Server) : Code Unit := do
  update beginAttempt
  let options ← look .options
  let country := (← read).selectedCountry
  let transport ← look .transport
  let a := Attempt.fixed run only country transport
  tryCatch (a.body options) a.caught

end MolidoVpn.Desktop
