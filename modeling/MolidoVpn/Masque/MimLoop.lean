import MolidoVpn.Address
import MolidoVpn.Lib.History
import MolidoVpn.Lib.Transition

/-!
The connect loop of MASQUE in MASQUE, `run_mim`: which outer edge it takes, the order of the inner
ones, and what it remembers of a session that has ended. What the network does is in the labels.
-/

namespace MolidoVpn.Masque

open History (Every every_nil)
open Transition (Run ofNext Restrict execute run_of_execute executeChecked run_of_executeChecked)

namespace Mim

def maxOuterFails : Nat := 2

/-- How a task of the session has ended. -/
inductive TaskEnd where
  | returned
  | failed (error : List Char)
  | cancelled
  | panicked (error : List Char)
  deriving DecidableEq

def joinOutcome (what : List Char) : TaskEnd → Except (List Char) Unit
  | .returned => .error (what ++ " stopped".toList)
  | .failed error => .error error
  | .cancelled => .error (what ++ " was cancelled".toList)
  | .panicked error => .error (what ++ " panicked: ".toList ++ error)

/-- The task that ends first. -/
inductive Winner where
  | outer
  | inner
  | local_
  deriving DecidableEq

def Winner.what : Winner → List Char
  | .outer => "outer masque tunnel".toList
  | .inner => "inner masque tunnel".toList
  | .local_ => "socks5 server".toList

inductive HopFailure where
  | outer (error : List Char)
  | inner (error : List Char)
  deriving DecidableEq

/-- What the network does to a session: why the outer hop does not come up, if it does not, the
inner edges that serve from inside the tunnel, and how the session ends once both hops are up. -/
structure Session where
  outerError : Option (List Char)
  serves : SocketAddr → Bool
  winner : Winner
  taskEnd : TaskEnd

/-- The inner edge with which both hops are validated. -/
def Session.innerEdge (session : Session) (peer : SocketAddr) (candidates : List SocketAddr) :
    Option SocketAddr :=
  if session.outerError.isSome then none
  else (candidates.filter fun candidate => candidate.ip != peer.ip).find? session.serves

def runMasqueInMasque (peer : SocketAddr) (candidates : List SocketAddr) (session : Session) :
    Except HopFailure SocketAddr :=
  match session.outerError with
  | some error => .error (.outer error)
  | none =>
      match session.innerEdge peer candidates with
      | none =>
          .error (.inner "no verified inner edge answered through the outer tunnel".toList)
      | some innerPeer =>
          match joinOutcome session.winner.what session.taskEnd with
          | .ok () => .ok innerPeer
          | .error error =>
              .error (if session.winner = .outer then .outer error else .inner error)

inductive Event where
  | rescan
  /-- An attempt with these inner candidates, and the inner edge if both hops were validated. -/
  | attempt (candidates : List SocketAddr) (worked : Option SocketAddr) (outerFailed : Bool)

structure Loop where
  running : Bool
  lastPeer : Option SocketAddr
  lastInner : Option SocketAddr
  outerFails : Nat
  cachedPeer : Option SocketAddr
  history : List Event

inductive Label where
  /-- `select_peer` finds no gateway. -/
  | scanFails
  /-- A round of the loop: what `select_peer` finds, if it is asked, what
  `inner_masque_candidates` has, and the session. -/
  | round (scanned : Option SocketAddr) (pool : List SocketAddr) (session : Session)

def initial (cachedPeer : Option SocketAddr) : Loop :=
  { running := true
    lastPeer := none
    lastInner := none
    outerFails := 0
    cachedPeer
    history := [] }

namespace Loop

/-- The outer edge that is used again without a scan. -/
def knownPeer (state : Loop) : Option SocketAddr :=
  if state.outerFails < maxOuterFails then state.lastPeer.or state.cachedPeer else none

/-- Another scan once there has been a peer is a rescan. -/
def scan (state : Loop) : Loop :=
  { state with
    cachedPeer := if state.outerFails < maxOuterFails then state.cachedPeer else none
    history := if state.lastPeer.isSome then state.history ++ [.rescan] else state.history }

def candidates (state : Loop) (pool : List SocketAddr) : List SocketAddr :=
  match state.lastInner with
  | some preferred => if preferred ∈ pool then pool else preferred :: pool
  | none => pool

/-- What is kept of the result of a session. -/
def after (state : Loop) : Except HopFailure SocketAddr → Loop
  | .ok innerEdge => { state with lastInner := some innerEdge, outerFails := 0 }
  | .error (.outer _) => { state with outerFails := state.outerFails + 1 }
  | .error (.inner _) => { state with lastInner := none }

def connect (state : Loop) (peer : SocketAddr) (pool : List SocketAddr) (session : Session) :
    Loop :=
  let candidates := state.candidates pool
  let dialling := { state with lastPeer := some peer }
  if candidates = [] then { dialling with running := false }
  else
    let outcome := runMasqueInMasque peer candidates session
    let worked := session.innerEdge peer candidates
    { dialling.after outcome with
      history := state.history ++ [.attempt candidates worked session.outerError.isSome] }

def next (state : Loop) : Label → Option Loop
  | .scanFails =>
      if state.running = true ∧ state.knownPeer = none then some state.scan else none
  | .round scanned pool session =>
      if state.running then
        match state.knownPeer, scanned with
        | some peer, none => some (state.connect peer pool session)
        | none, some peer => some ({ state.scan with outerFails := 0 }.connect peer pool session)
        | _, _ => none
      else none

end Loop

section Remembers

/-- The failures of the outer hop to come up since the last session that worked. -/
def failuresSince (history : List Event) : Nat :=
  history.foldl (fun failures event =>
    match event with
    | .rescan => failures
    | .attempt _ (some _) _ => 0
    | .attempt _ none outerFailed => if outerFailed then failures + 1 else failures) 0

/-- The inner edge of the last attempt, if that has worked. -/
def lastWorked (history : List Event) : Option SocketAddr :=
  history.foldl (fun last event =>
    match event with
    | .rescan => last
    | .attempt _ worked _ => worked) none

/-- What the loop owes to a session that worked: it counts no failure then, and the next attempt
begins with the same inner edge; and what it owes to an outer edge before it looks for another. -/
structure Remembers (state : Loop) : Prop where
  reset : (lastWorked state.history).isSome = true → state.outerFails = 0
  first : Every (fun before event => ∀ candidates worked outerFailed,
    event = .attempt candidates worked outerFailed →
      ∀ inner, lastWorked before = some inner → candidates.head? = some inner) state.history
  rescans : Every (fun before event => event = .rescan → maxOuterFails ≤ failuresSince before)
    state.history

theorem joinOutcome_error (what : List Char) (taskEnd : TaskEnd) :
    ∃ error, joinOutcome what taskEnd = .error error := by
  cases taskEnd <;> exact ⟨_, rfl⟩

/-- No session returns `Ok`: the outer hop is blamed, or the inner one. -/
theorem runMasqueInMasque_cases (peer : SocketAddr) (candidates : List SocketAddr)
    (session : Session) :
    (∃ error, runMasqueInMasque peer candidates session = .error (.outer error) ∧
      (session.outerError.isSome = true ∧ session.innerEdge peer candidates = none ∨
        session.outerError = none ∧ (session.innerEdge peer candidates).isSome = true ∧
          session.winner = .outer)) ∨
      ∃ error, runMasqueInMasque peer candidates session = .error (.inner error) ∧
        session.outerError = none ∧
          ((session.innerEdge peer candidates).isSome = true → session.winner ≠ .outer) := by
  unfold runMasqueInMasque
  cases outer : session.outerError with
  | some error =>
      left
      refine ⟨error, rfl, Or.inl ⟨rfl, ?_⟩⟩
      rw [Session.innerEdge, outer]
      rfl
  | none =>
      cases edge : session.innerEdge peer candidates with
      | none => exact Or.inr ⟨_, rfl, rfl, fun some_ => absurd some_ Bool.false_ne_true⟩
      | some inner =>
          obtain ⟨error, failed⟩ := joinOutcome_error session.winner.what session.taskEnd
          dsimp only
          rw [failed]
          by_cases blamed : session.winner = .outer
          · left
            exact ⟨error, by simp only [if_pos blamed], Or.inr ⟨rfl, rfl, blamed⟩⟩
          · right
            exact ⟨error, by simp only [if_neg blamed], rfl, fun _ => blamed⟩

theorem failuresSince_concat (history : List Event) (event : Event) :
    failuresSince (history ++ [event]) =
      match event with
      | .rescan => failuresSince history
      | .attempt _ (some _) _ => 0
      | .attempt _ none outerFailed =>
          if outerFailed then failuresSince history + 1 else failuresSince history := by
  rw [failuresSince, List.foldl_append]
  rfl

theorem lastWorked_concat (history : List Event) (event : Event) :
    lastWorked (history ++ [event]) =
      match event with
      | .rescan => lastWorked history
      | .attempt _ worked _ => worked := by
  rw [lastWorked, List.foldl_append]
  rfl

/-- After a session that worked, the inner candidates of the next attempt begin with its inner
edge; and a session that works comes while no failure is counted and is not ended by its outer
hop. -/
def remembered (state : Loop) : Label → Bool
  | .scanFails => true
  | .round scanned pool session =>
      let peers := (state.knownPeer.or scanned).toList
      (pool == [] || (lastWorked state.history).all fun inner => pool.head? == some inner) &&
        peers.all fun peer =>
          (session.innerEdge peer (state.candidates pool)).isNone ||
            ((state.outerFails == 0 || scanned.isSome) && session.winner != .outer)

theorem remembered_works {state : Loop} {scanned : Option SocketAddr} {pool : List SocketAddr}
    {session : Session} (remembered_ : remembered state (.round scanned pool session) = true)
    {peer : SocketAddr} (chosen : state.knownPeer.or scanned = some peer)
    (validated : (session.innerEdge peer (state.candidates pool)).isSome = true) :
    (state.outerFails = 0 ∨ scanned.isSome = true) ∧ session.winner ≠ .outer := by
  rw [remembered, chosen, Bool.and_eq_true] at remembered_
  have works := List.all_eq_true.mp remembered_.2 peer List.mem_cons_self
  rw [Option.isNone_eq_false_iff.mpr validated, Bool.false_or, Bool.and_eq_true, Bool.or_eq_true,
    beq_iff_eq, bne_iff_ne] at works
  exact works

theorem remembered_begins {state : Loop} {scanned : Option SocketAddr} {pool : List SocketAddr}
    {session : Session} (remembered_ : remembered state (.round scanned pool session) = true)
    (some_ : pool ≠ []) {inner : SocketAddr} (last : lastWorked state.history = some inner) :
    pool.head? = some inner := by
  rw [remembered, last, Bool.and_eq_true, Bool.or_eq_true, beq_iff_eq] at remembered_
  exact beq_iff_eq.mp (remembered_.1.resolve_left some_)

theorem lastWorked_scan (state : Loop) :
    lastWorked state.scan.history = lastWorked state.history := by
  unfold Loop.scan
  dsimp only
  split
  · exact lastWorked_concat state.history .rescan
  · rfl

/-- The loop never remembers an inner edge, and it counts no failure that was not one. -/
structure Counted (state : Loop) : Prop where
  forgets : state.lastInner = none
  counts : state.outerFails ≤ failuresSince state.history
  remembers : Remembers state

theorem Counted.candidates {state : Loop} (counted : Counted state) (pool : List SocketAddr) :
    state.candidates pool = pool := by
  rw [Loop.candidates, counted.forgets]

theorem Counted.rescan {state : Loop} (counted : Counted state)
    (failed : maxOuterFails ≤ state.outerFails) :
    Counted { state with history := state.history ++ [.rescan] } where
  forgets := counted.forgets
  counts := by
    rw [failuresSince_concat]
    exact counted.counts
  remembers :=
    { reset := by
        rw [lastWorked_concat]
        exact counted.remembers.reset
      first := by
        apply counted.remembers.first.snoc
        intro _ _ _ impossible
        cases impossible
      rescans := counted.remembers.rescans.snoc fun _ => Nat.le_trans failed counted.counts }

/-- A scan comes where no peer is known, or the known one has failed often enough. -/
theorem Counted.scan {state : Loop} (counted : Counted state) (unknown : state.knownPeer = none) :
    Counted state.scan := by
  have cached {state : Loop} (counted : Counted state) (cachedPeer : Option SocketAddr) :
      Counted { state with cachedPeer } :=
    ⟨counted.forgets, counted.counts, counted.remembers.reset, counted.remembers.first,
      counted.remembers.rescans⟩
  cases known : state.lastPeer.isSome with
  | false =>
      rw [Loop.scan, known]
      exact cached counted _
  | true =>
      have failed : maxOuterFails ≤ state.outerFails := by
        by_contra few
        rw [Loop.knownPeer, if_pos (Nat.lt_of_not_le few), Option.or_eq_none_iff] at unknown
        rw [unknown.1] at known
        cases known
      rw [Loop.scan, known]
      exact cached (counted.rescan failed) _

theorem Counted.connect {state : Loop} (counted : Counted state) {peer : SocketAddr}
    {pool : List SocketAddr} {session : Session}
    (begins : pool ≠ [] → ∀ inner, lastWorked state.history = some inner →
      pool.head? = some inner)
    (works : (session.innerEdge peer pool).isSome = true →
      state.outerFails = 0 ∧ session.winner ≠ .outer) :
    Counted (state.connect peer pool session) := by
  unfold Loop.connect
  dsimp only
  rw [counted.candidates]
  split
  · exact ⟨counted.forgets, counted.counts, counted.remembers.reset, counted.remembers.first,
      counted.remembers.rescans⟩
  · rename_i some_
    have first : ∀ candidates worked outerFailed,
        Event.attempt pool (session.innerEdge peer pool) session.outerError.isSome =
          .attempt candidates worked outerFailed →
        ∀ inner, lastWorked state.history = some inner → candidates.head? = some inner := by
      intro candidates worked outerFailed same inner last
      cases same
      exact begins some_ inner last
    have counts := counted.counts
    rcases runMasqueInMasque_cases peer pool session with
      ⟨error, outcome, refused | ⟨up, validated, blamed⟩⟩ | ⟨error, outcome, up, blamed⟩
    · rw [outcome]
      refine ⟨counted.forgets, ?_, ?_, counted.remembers.first.snoc first,
        counted.remembers.rescans.snoc Event.noConfusion⟩
      · rw [failuresSince_concat, refused.1, refused.2]
        exact Nat.succ_le_succ counts
      · rw [lastWorked_concat, refused.2]
        exact fun impossible => absurd impossible Bool.false_ne_true
    · exact absurd blamed (works validated).2
    · rw [outcome]
      refine ⟨rfl, ?_, ?_, counted.remembers.first.snoc first,
        counted.remembers.rescans.snoc Event.noConfusion⟩
      · rw [failuresSince_concat, up]
        cases edge : session.innerEdge peer pool with
        | none => exact counts
        | some inner => exact Nat.le_of_eq (works (by rw [edge]; rfl)).1
      · rw [lastWorked_concat]
        exact fun validated => (works validated).1

theorem next_counted (source : Loop) (label : Label) (target : Loop)
    (taken : Restrict (ofNext Loop.next) (fun state label => remembered state label) source label
      target) (counted : Counted source) : Counted target := by
  obtain ⟨taken, remembered_⟩ := taken
  unfold ofNext at taken
  cases label with
  | scanFails =>
      simp only [Loop.next] at taken
      split at taken
      · rename_i unknown
        obtain rfl := Option.some.inj taken
        exact counted.scan unknown.2
      · cases taken
  | round scanned pool session =>
      simp only [Loop.next] at taken
      split at taken
      · split at taken
        · rename_i peer known
          obtain rfl := Option.some.inj taken
          apply counted.connect fun some_ inner => remembered_begins remembered_ some_
          intro validated
          obtain ⟨unfailed, unblamed⟩ := remembered_works remembered_
            (by rw [known]; rfl) (by rw [counted.candidates]; exact validated)
          exact ⟨unfailed.resolve_right Bool.false_ne_true, unblamed⟩
        · rename_i peer unknown
          obtain rfl := Option.some.inj taken
          have scanned := counted.scan unknown
          have begun : Counted { source.scan with outerFails := 0 } :=
            ⟨scanned.forgets, Nat.zero_le _, fun _ => rfl, scanned.remembers.first,
              scanned.remembers.rescans⟩
          apply begun.connect
          · intro some_ inner last
            exact remembered_begins remembered_ some_ ((lastWorked_scan source).symm.trans last)
          · intro validated
            refine ⟨rfl, (remembered_works remembered_ (by rw [unknown]; rfl) ?_).2⟩
            rw [counted.candidates]
            exact validated
        · cases taken
      · cases taken

/-- As long as every session that works does so while no failure is counted, is not ended by its
outer hop, and its inner edge leads the pool again: the loop remembers it, and looks for another
outer edge only after two failures of the one it has. -/
theorem remembers_of_remembered {cachedPeer : Option SocketAddr} {labels : List Label}
    {state : Loop}
    (run : Run (Restrict (ofNext Loop.next) (fun state label => remembered state label))
      (initial cachedPeer) labels state) : Remembers state := by
  refine (run.invariant Counted next_counted ?_).remembers
  exact
    { forgets := rfl
      counts := Nat.le_refl _
      remembers :=
        { reset := fun _ => rfl
          first := every_nil
          rescans := every_nil } }

def edge (last : UInt8) : SocketAddr := ⟨.v4 ⟨162, 159, 198, last⟩, 443⟩

/-- Both hops come up with any inner edge, and this task ends the session. -/
def endedBy (winner : Winner) : Session :=
  { outerError := none
    serves := fun _ => true
    winner
    taskEnd := .returned }

theorem remembers_of_remembered_twice :
    ∃ state : Loop, lastWorked state.history = some (edge 2) ∧ Remembers state :=
  ⟨_, rfl, @remembers_of_remembered none
    [.round (some (edge 1)) [edge 2, edge 3] (endedBy .inner),
      .round none [edge 2, edge 3] (endedBy .local_)]
    _ (run_of_executeChecked rfl)⟩

/-- Two sessions through both hops, ended by the outer one, make the loop scan again. -/
theorem working_sessions_rescanned :
    ¬ ∀ (labels : List Label) (state : Loop),
      Run (ofNext Loop.next) (initial none) labels state → Remembers state := by
  intro always
  have reached : ∃ state, execute Loop.next (initial none)
      [.round (some (edge 1)) [edge 2] (endedBy .outer), .round none [edge 2] (endedBy .outer),
        .scanFails] = some state ∧
      state.history = [.attempt [edge 2] (some (edge 2)) false,
        .attempt [edge 2] (some (edge 2)) false, .rescan] :=
    ⟨_, rfl, rfl⟩
  obtain ⟨state, executed, history⟩ := reached
  have rescans := (always _ state (run_of_execute executed)).rescans
  rw [history] at rescans
  exact absurd (rescans [_, _] .rescan [] rfl rfl) (by decide)

end Remembers

end Mim

end MolidoVpn.Masque
