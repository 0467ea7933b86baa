import Mathlib.Data.List.Dedup
import MolidoVpn.Address
import MolidoVpn.Lib.History
import MolidoVpn.Lib.Transition

/-!
The search of `run_masque` for a gateway: the passes over the known gateways with HTTP/3
and HTTP/2, then the loop that reconnects and scans. What the network answers is in the
labels. The first law is about the refusals that make it replace the certificate.
-/

namespace MolidoVpn.Masque

open History (Every every_nil)
open Transition (Run ofNext Restrict execute run_of_execute)

def identityRejectedLimit : Nat := 2

def masqueH3ProbeLimit : Nat := 12

def masqueH2ProbeLimit : Nat := 4

def quicPort : UInt16 := 443

/-- Add the peers that have not been seen. -/
def pushNew (known : List SocketAddr) (peers : List SocketAddr) : List SocketAddr :=
  peers.foldl (fun known peer => if peer ∈ known then known else known ++ [peer]) known

/-- What `run_masque` starts from: whether the user asks for HTTP/2, by the settings or the
environment, the address HTTP/2 then goes to whatever the peer, and the peers it knows of. -/
structure Setup where
  asked : Bool
  h2Override : Option SocketAddr
  forced : Option SocketAddr
  organization : Option SocketAddr
  lastWorking : Option SocketAddr
  account : Option SocketAddr
  cached : List SocketAddr
  gatewayPeers : List SocketAddr
  deriving DecidableEq

namespace Setup

def known (setup : Setup) : List SocketAddr :=
  pushNew [] (setup.organization.toList ++ setup.lastWorking.toList ++ setup.account.toList ++
    setup.cached)

def h3Candidates (setup : Setup) : List SocketAddr :=
  pushNew setup.known (setup.gatewayPeers.take masqueH3ProbeLimit)

/-- `masque_h2_gateway_peers` -/
def h2GatewayPeers (setup : Setup) : List SocketAddr :=
  setup.gatewayPeers.filter fun peer => peer.port == quicPort

def h2Candidates (setup : Setup) : List SocketAddr :=
  pushNew setup.known (setup.h2GatewayPeers.take masqueH2ProbeLimit)

/-- `masque_h2::h2_peer` -/
def h2Peer (setup : Setup) (quicPeer : SocketAddr) : SocketAddr := setup.h2Override.getD quicPeer

end Setup

namespace Hunt

inductive PeerOutcome where
  | accepted
  | identityRejected
  | unreachable
  deriving DecidableEq

inductive PassOutcome where
  | connected (peer : SocketAddr)
  | identityRejected (count : Nat)
  | exhausted
  deriving DecidableEq

/-- The passes over the known gateways; either is made again with a fresh certificate. -/
inductive Pass where
  | h3
  | h3Again
  | h2
  | h2Again
  deriving DecidableEq

inductive Phase where
  | dial (pass : Pass) (candidates : List SocketAddr) (rejections : Nat)
  | passed (pass : Pass) (outcome : PassOutcome)
  | refresh (again : Pass) (count : Nat)
  | choose
  | retry (peer : SocketAddr)
  | scan
  | scanH2
  | tunnel (peer : SocketAddr)
  | failed (count : Nat)
  deriving DecidableEq

/-- Identities are numbered by the certificates they got, and a gateway is the address that was
dialled. -/
inductive Record where
  | huntStarted (h2 : Bool)
  | dialled (identity : Nat) (h2 : Bool) (gateway : SocketAddr) (outcome : PeerOutcome)
  | refreshed (identity : Nat)
  | connected (peer : SocketAddr) (fallback : Bool)
  deriving DecidableEq

structure State where
  phase : Phase
  identity : Nat
  fallback : Bool
  lastGood : Option SocketAddr
  records : List Record
  deriving DecidableEq

/-- `masque_h2::enabled` -/
def State.enabled (state : State) (setup : Setup) : Bool := setup.asked || state.fallback

/-- The address that `quick_verify_masque_peer` dials for a peer. -/
def State.gateway (state : State) (setup : Setup) (peer : SocketAddr) : SocketAddr :=
  if state.enabled setup then setup.h2Peer peer else peer

def State.record (state : State) (added : List Record) : State :=
  { state with records := state.records ++ added }

def State.goTo (state : State) (phase : Phase) : State := { state with phase := phase }

/-- `set_preferred`, then `run_masque` up to its first pass or, with a forced peer, its loop. -/
def initial (setup : Setup) : State :=
  { phase := if setup.forced.isSome then .choose else .dial .h3 setup.h3Candidates 0
    identity := 0
    fallback := false
    lastGood := none
    records := [.huntStarted setup.asked] }

def State.connect (state : State) (peer : SocketAddr) : State :=
  (state.record [.connected peer state.fallback]).goTo (.tunnel peer)

inductive Label where
  | dialled (outcome : PeerOutcome)
  | passEnds
  | passDecided
  | refreshed (fresh : Bool)
  | chosen
  | retried (accepted : Bool)
  | scanned (found : Option SocketAddr)
  | scannedH2 (found : Option SocketAddr)
  | tunnelEnded
  deriving DecidableEq

section Steps

variable (setup : Setup)

/-- Pass 2, unless HTTP/2 is what pass 1 has used. -/
def State.second (state : State) (rejections : Nat) : State :=
  if state.enabled setup then state.goTo .choose
  else { state with fallback := true }.goTo (.dial .h2 setup.h2Candidates rejections)

/-- What `run_masque` does with the outcome of a pass. -/
def State.decide (state : State) : Pass → PassOutcome → State
  | _, .connected peer => state.connect peer
  | .h3, .identityRejected count =>
      if count ≥ identityRejectedLimit then state.goTo (.refresh .h3Again count)
      else state.second setup count
  | .h3, .exhausted | .h3Again, .exhausted => state.second setup 0
  | .h3Again, .identityRejected count | .h2Again, .identityRejected count =>
      state.goTo (.failed count)
  | .h2, .identityRejected count => state.goTo (.refresh .h2Again count)
  | .h2, .exhausted | .h2Again, .exhausted => { state with fallback := false }.goTo .choose

/-- The candidates that a pass with a fresh certificate dials. -/
def candidatesAgain : Pass → List SocketAddr
  | .h3 | .h3Again => setup.h3Candidates
  | .h2 | .h2Again => setup.h2Candidates

/-- A forced peer is used as it is, otherwise `hunt_masque_peer` is called. -/
def State.look (state : State) : State :=
  match setup.forced with
  | some peer => state.connect peer
  | none => (state.record [.huntStarted (state.enabled setup)]).goTo .scan

def next (state : State) (label : Label) : Option State :=
  match state.phase, label with
  | .dial pass (peer :: rest) rejections, .dialled outcome =>
      let dialled := state.record
        [.dialled state.identity (state.enabled setup) (state.gateway setup peer) outcome]
      match outcome with
      | .accepted => some (dialled.goTo (.passed pass (.connected peer)))
      | .unreachable => some (dialled.goTo (.dial pass rest rejections))
      | .identityRejected =>
          if rejections + 1 ≥ identityRejectedLimit then
            some (dialled.goTo (.passed pass (.identityRejected (rejections + 1))))
          else some (dialled.goTo (.dial pass rest (rejections + 1)))
  | .dial pass [] rejections, .passEnds =>
      some (state.goTo (.passed pass
        (if rejections > 0 then .identityRejected rejections else .exhausted)))
  | .passed pass outcome, .passDecided => some (state.decide setup pass outcome)
  | .refresh again count, .refreshed fresh =>
      let asked := state.record [.refreshed state.identity]
      if fresh then
        some ({ asked with identity := state.identity + 1 }.goTo
          (.dial again (candidatesAgain setup again) 0))
      else some (asked.goTo (.failed count))
  | .choose, .chosen =>
      match state.lastGood with
      | some peer => some (state.goTo (.retry peer))
      | none => some (state.look setup)
  | .retry peer, .retried accepted =>
      some (if accepted then state.connect peer else state.look setup)
  | .scan, .scanned found =>
      match found with
      | some peer => some (state.connect peer)
      | none =>
          if state.enabled setup then some (state.goTo .choose)
          else some ({ state with fallback := true }.goTo .scanH2)
  | .scanH2, .scannedH2 found =>
      match found with
      | some peer => some (state.connect peer)
      | none => some ({ state with fallback := false }.goTo .choose)
  | .tunnel peer, .tunnelEnded => some { state with phase := .choose, lastGood := some peer }
  | _, _ => none

end Steps

/-- The step calls `hunt_masque_peer`. -/
def startsHunt (setup : Setup) (state : State) (label : Label) : Bool :=
  match state.phase, label with
  | .choose, .chosen => state.lastGood.isNone && setup.forced.isNone
  | .retry _, .retried accepted => !accepted && setup.forced.isNone
  | _, _ => false

/-- The records that a step can add. -/
def Added (setup : Setup) (source : State) (label : Label) : Record → Prop
  | .huntStarted h2 => startsHunt setup source label = true ∧ h2 = source.enabled setup
  | .refreshed _ => ∃ again count, source.phase = .refresh again count
  | .dialled _ _ _ _ | .connected _ _ => True

/-- The gateways that have rejected an identity, once for each time. -/
def rejecting (identity : Nat) (records : List Record) : List SocketAddr :=
  records.filterMap fun record =>
    match record with
    | .dialled at_ _ gateway .identityRejected => if at_ = identity then some gateway else none
    | _ => none

/-- Enough distinct gateways have rejected the identity. -/
def Refused (identity : Nat) (records : List Record) : Prop :=
  identityRejectedLimit ≤ (rejecting identity records).dedup.length

/-- The certificate is replaced only after enough distinct gateways have rejected it. -/
def Warranted (before : List Record) : Record → Prop
  | .refreshed identity => Refused identity before
  | _ => True

/-- `refresh_refused_masque_identity` is running, or called next whatever happens. -/
def Phase.replaces : Phase → Bool
  | .passed .h3 (.identityRejected count) => decide (identityRejectedLimit ≤ count)
  | .passed .h2 (.identityRejected _) | .refresh _ _ => true
  | _ => false

/-- The certificates replaced so far, and the one that is being replaced, were all rejected by
enough distinct gateways. -/
def State.Justified (state : State) : Prop :=
  Every Warranted state.records ∧
    (state.phase.replaces = true → Refused state.identity state.records)

/-- The passes after which the certificate can be replaced. -/
def Pass.mayReplace : Pass → Bool
  | .h3 | .h2 => true
  | .h3Again | .h2Again => false

/-- No gateway rejects the identity again while the rejections are counted, and pass 2 does not
run out of candidates with a rejection counted. -/
def countsApart (setup : Setup) (state : State) (label : Label) : Bool :=
  match state.phase, label with
  | .dial pass (peer :: _) _, .dialled .identityRejected =>
      !pass.mayReplace ||
        decide (state.gateway setup peer ∉ rejecting state.identity state.records)
  | .dial .h2 [] rejections, .passEnds => decide (rejections = 0)
  | _, _ => true

theorem rejecting_append (identity : Nat) (records added : List Record) :
    rejecting identity (records ++ added) =
      rejecting identity records ++ rejecting identity added :=
  List.filterMap_append

private theorem rejecting_rejected (identity : Nat) (records : List Record) (h2 : Bool)
    (gateway : SocketAddr) :
    rejecting identity (records ++ [.dialled identity h2 gateway .identityRejected]) =
      rejecting identity records ++ [gateway] := by
  rw [rejecting_append]
  simp only [rejecting, List.filterMap_cons, if_true, List.filterMap_nil]

/-- What the phase says about the rejections of the identity in use. -/
def Counted (rejected : List SocketAddr) : Phase → Prop
  | .dial _ _ count => rejected.length = count ∧ count < identityRejectedLimit
  | .passed _ (.identityRejected count) => rejected.length = count
  | .passed _ .exhausted => rejected = []
  | _ => True

structure Counting (state : State) : Prop where
  older : ∀ identity h2 peer outcome,
    Record.dialled identity h2 peer outcome ∈ state.records → identity ≤ state.identity
  counted : Counted (rejecting state.identity state.records) state.phase

/-- A step that dials nobody. -/
private theorem Counting.move {state after : State} (counting : Counting state)
    (identity : after.identity = state.identity) {added : List Record}
    (records : after.records = state.records ++ added)
    (undialled : ∀ identity h2 peer outcome, Record.dialled identity h2 peer outcome ∉ added)
    (counted : Counted (rejecting state.identity state.records) after.phase) : Counting after where
  older := by
    intro at_ h2 peer outcome member
    rw [records] at member
    rw [identity]
    rcases List.mem_append.mp member with old | new
    · exact counting.older at_ h2 peer outcome old
    · exact absurd new (undialled at_ h2 peer outcome)
  counted := by
    have none_ : rejecting state.identity added = [] := by
      rw [rejecting, List.filterMap_eq_nil_iff]
      intro record member
      split
      · exact absurd member (undialled _ _ _ _)
      · rfl
    rw [identity, records, rejecting_append, none_, List.append_nil]
    exact counted

private theorem Counting.goTo {state : State} (counting : Counting state) {phase : Phase}
    (counted : Counted (rejecting state.identity state.records) phase) :
    Counting (state.goTo phase) :=
  ⟨counting.older, counted⟩

private theorem counting_connect {state : State} (counting : Counting state) (peer : SocketAddr) :
    Counting (state.connect peer) := by
  apply counting.move
  · rfl
  · rfl
  · intro identity h2 other outcome impossible
    cases List.mem_singleton.mp impossible
  · trivial

private theorem counting_look {state : State} (counting : Counting state) (setup : Setup) :
    Counting (state.look setup) := by
  unfold State.look
  split
  · exact counting_connect counting _
  · apply counting.move
    · rfl
    · rfl
    · intro identity h2 other outcome impossible
      cases List.mem_singleton.mp impossible
    · trivial

private theorem counting_second {state : State} (counting : Counting state) (setup : Setup)
    {count : Nat} (length : (rejecting state.identity state.records).length = count)
    (few : count < identityRejectedLimit) : Counting (state.second setup count) := by
  unfold State.second
  split
  · exact counting.goTo trivial
  · exact ⟨counting.older, length, few⟩

private theorem counting_decide {state : State} (setup : Setup) {pass : Pass}
    {outcome : PassOutcome} (counting : Counting state)
    (counted : Counted (rejecting state.identity state.records) (.passed pass outcome)) :
    Counting (state.decide setup pass outcome) := by
  cases outcome with
  | connected peer => exact counting_connect counting peer
  | exhausted =>
      have none_ : (rejecting state.identity state.records).length = 0 :=
        congrArg List.length counted
      cases pass with
      | h3 | h3Again => exact counting_second counting setup none_ (by decide)
      | h2 | h2Again => exact ⟨counting.older, trivial⟩
  | identityRejected count =>
      cases pass with
      | h3 =>
          simp only [State.decide]
          split
          · exact counting.goTo trivial
          · rename_i few
            exact counting_second counting setup counted (Nat.lt_of_not_le few)
      | h3Again | h2 | h2Again => exact counting.goTo trivial

/-- Dialling the next candidate. -/
private theorem counting_dial {state : State} (setup : Setup) {pass : Pass} {peer : SocketAddr}
    {rest : List SocketAddr} {count : Nat} {outcome : PeerOutcome} {after : State}
    (counting : Counting state) (phase : state.phase = .dial pass (peer :: rest) count)
    (taken : next setup state (.dialled outcome) = some after) : Counting after := by
  have counted := counting.counted
  rw [phase] at counted
  obtain ⟨length, few⟩ := counted
  simp only [next, phase] at taken
  have older {h2 : Bool} {gateway : SocketAddr} : ∀ identity h2' other result,
      Record.dialled identity h2' other result ∈
        state.records ++ [.dialled state.identity h2 gateway outcome] →
      identity ≤ state.identity := by
    intro identity h2' other result member
    rcases List.mem_append.mp member with old | new
    · exact counting.older identity h2' other result old
    · cases List.mem_singleton.mp new
      exact Nat.le_refl _
  cases outcome with
  | accepted =>
      cases taken
      exact ⟨older, trivial⟩
  | unreachable =>
      cases taken
      refine ⟨older, ?_⟩
      change Counted (rejecting state.identity (state.records ++ _)) _
      rw [rejecting_append]
      have none_ : rejecting state.identity [.dialled state.identity (state.enabled setup)
          (state.gateway setup peer) .unreachable] = [] := rfl
      rw [none_, List.append_nil]
      exact ⟨length, few⟩
  | identityRejected =>
      have longer : (rejecting state.identity (state.records ++ [.dialled state.identity
          (state.enabled setup) (state.gateway setup peer) .identityRejected])).length =
            count + 1 := by
        rw [rejecting_rejected, List.length_append, length, List.length_singleton]
      simp only at taken
      split at taken
      · cases taken
        exact ⟨older, longer⟩
      · rename_i room
        cases taken
        exact ⟨older, longer, Nat.lt_of_not_le room⟩

private theorem counting_refresh {state : State} {setup : Setup} {again : Pass} {count : Nat}
    {fresh : Bool} {after : State} (counting : Counting state)
    (phase : state.phase = .refresh again count)
    (taken : next setup state (.refreshed fresh) = some after) : Counting after := by
  simp only [next, phase] at taken
  cases fresh with
  | false =>
      cases taken
      apply counting.move
      · rfl
      · rfl
      · intro identity h2 other outcome impossible
        cases List.mem_singleton.mp impossible
      · trivial
  | true =>
      cases taken
      have older : ∀ identity h2 peer outcome,
          Record.dialled identity h2 peer outcome ∈
            state.records ++ [.refreshed state.identity] → identity ≤ state.identity := by
        intro identity h2 peer outcome member
        rcases List.mem_append.mp member with old | new
        · exact counting.older identity h2 peer outcome old
        · cases List.mem_singleton.mp new
      have none_ : rejecting (state.identity + 1)
          (state.records ++ [.refreshed state.identity]) = [] := by
        rw [rejecting, List.filterMap_eq_nil_iff]
        intro record member
        split
        · rename_i identity h2 peer
          have bound := older identity h2 peer .identityRejected member
          exact if_neg (by omega)
        · rfl
      constructor
      · intro identity h2 peer outcome member
        exact Nat.le_succ_of_le (older identity h2 peer outcome member)
      · change Counted (rejecting (state.identity + 1)
          (state.records ++ [.refreshed state.identity])) _
        rw [none_]
        exact ⟨rfl, by decide⟩

/-- What one step preserves. -/
theorem next_counting (setup : Setup) (source : State) (label : Label) (target : State)
    (taken : ofNext (next setup) source label target) (counting : Counting source) :
    Counting target := by
  have whole := taken
  unfold ofNext next at taken
  split at taken
  · rename_i phase
    exact counting_dial setup counting phase whole
  · rename_i phase
    have counted := counting.counted
    rw [phase] at counted
    obtain ⟨length, few⟩ := counted
    cases taken
    apply counting.goTo
    split
    · exact length
    · exact List.eq_nil_of_length_eq_zero (by omega)
  · rename_i phase
    cases taken
    apply counting_decide setup counting
    rw [← phase]
    exact counting.counted
  · rename_i phase
    exact counting_refresh counting phase whole
  · split at taken
    · cases taken
      exact counting.goTo trivial
    · cases taken
      exact counting_look counting setup
  · cases taken
    split
    · exact counting_connect counting _
    · exact counting_look counting setup
  · split at taken
    · cases taken
      exact counting_connect counting _
    · split at taken
      · cases taken
        exact counting.goTo trivial
      · cases taken
        exact ⟨counting.older, trivial⟩
  · split at taken
    · cases taken
      exact counting_connect counting _
    · cases taken
      exact ⟨counting.older, trivial⟩
  · cases taken
    exact ⟨counting.older, trivial⟩
  · cases taken

theorem initial_counting (setup : Setup) : Counting (initial setup) where
  older := by
    intro identity h2 peer outcome impossible
    cases List.mem_singleton.mp impossible
  counted := by
    unfold initial
    simp only
    split
    · trivial
    · exact ⟨rfl, by decide⟩

private theorem look_added (state : State) (setup : Setup) :
    ∃ record, (state.look setup).records = state.records ++ [record] ∧
      ((setup.forced ≠ none ∧ ∃ peer, record = .connected peer state.fallback) ∨
        setup.forced = none ∧ record = .huntStarted (state.enabled setup)) := by
  unfold State.look
  cases setup.forced with
  | some peer => exact ⟨_, rfl, Or.inl ⟨Option.some_ne_none peer, peer, rfl⟩⟩
  | none => exact ⟨_, rfl, Or.inr ⟨rfl, rfl⟩⟩

/-- What a step adds to the records, over all its cases. -/
theorem next_added {setup : Setup} {source target : State} {label : Label}
    (taken : ofNext (next setup) source label target) :
    ∃ added, target.records = source.records ++ added ∧
      ∀ record ∈ added, Added setup source label record := by
  have none_ : source.records = source.records ++ [] ∧
      ∀ record ∈ ([] : List Record), Added setup source label record :=
    ⟨(List.append_nil _).symm, fun _ impossible => by cases impossible⟩
  have one {record : Record} (allowed : Added setup source label record) :
      ∀ new ∈ [record], Added setup source label new := by
    intro new member
    obtain rfl := List.mem_singleton.mp member
    exact allowed
  have look (starts : setup.forced = none → startsHunt setup source label = true) :
      ∃ added, (source.look setup).records = source.records ++ added ∧
        ∀ record ∈ added, Added setup source label record := by
    obtain ⟨record, records, kind⟩ := look_added source setup
    refine ⟨[record], records, one ?_⟩
    rcases kind with ⟨_, peer, rfl⟩ | ⟨free, rfl⟩
    · trivial
    · exact ⟨starts free, rfl⟩
  unfold ofNext next at taken
  split at taken
  · split at taken
    · cases taken
      exact ⟨_, rfl, one trivial⟩
    · cases taken
      exact ⟨_, rfl, one trivial⟩
    · split at taken
      · cases taken
        exact ⟨_, rfl, one trivial⟩
      · cases taken
        exact ⟨_, rfl, one trivial⟩
  · cases taken
    exact ⟨[], none_⟩
  · rename_i pass outcome phase
    cases taken
    have second (count : Nat) : (source.second setup count).records = source.records := by
      unfold State.second
      split <;> rfl
    cases outcome with
    | connected peer => exact ⟨_, rfl, one trivial⟩
    | exhausted =>
        cases pass with
        | h3 | h3Again => exact ⟨[], (second 0).trans none_.1, none_.2⟩
        | h2 | h2Again => exact ⟨[], none_⟩
    | identityRejected count =>
        cases pass with
        | h3 =>
            simp only [State.decide]
            split
            · exact ⟨[], none_⟩
            · exact ⟨[], (second count).trans none_.1, none_.2⟩
        | h3Again | h2 | h2Again => exact ⟨[], none_⟩
  · rename_i again count fresh phase
    cases fresh with
    | false =>
        cases taken
        exact ⟨_, rfl, one ⟨again, count, phase⟩⟩
    | true =>
        cases taken
        exact ⟨_, rfl, one ⟨again, count, phase⟩⟩
  · rename_i phase
    split at taken
    · cases taken
      exact ⟨[], none_⟩
    · rename_i unknown
      cases taken
      apply look
      intro free
      simp only [startsHunt, phase, unknown, free, Option.isNone_none, Bool.and_self]
  · rename_i peer accepted phase
    cases taken
    cases accepted with
    | true => exact ⟨_, rfl, one trivial⟩
    | false =>
        apply look
        intro free
        simp only [startsHunt, phase, free, Option.isNone_none, Bool.not_false, Bool.and_self]
  · split at taken
    · cases taken
      exact ⟨_, rfl, one trivial⟩
    · split at taken
      · cases taken
        exact ⟨[], none_⟩
      · cases taken
        exact ⟨[], none_⟩
  · split at taken
    · cases taken
      exact ⟨_, rfl, one trivial⟩
    · cases taken
      exact ⟨[], none_⟩
  · cases taken
    exact ⟨[], none_⟩
  · cases taken

/-- A call of `hunt_masque_peer` is recorded with the transport it starts on. -/
theorem next_starts {setup : Setup} {source target : State} {label : Label}
    (taken : ofNext (next setup) source label target)
    (starts : startsHunt setup source label = true) :
    target.records = source.records ++ [.huntStarted (source.enabled setup)] := by
  have look (free : setup.forced = none) :
      (source.look setup).records = source.records ++ [.huntStarted (source.enabled setup)] := by
    obtain ⟨record, records, kind⟩ := look_added source setup
    rcases kind with ⟨forced, _⟩ | ⟨_, rfl⟩
    · exact absurd free forced
    · exact records
  unfold startsHunt at starts
  unfold ofNext next at taken
  split at starts
  · rename_i phase
    simp only [Bool.and_eq_true, Option.isNone_iff_eq_none] at starts
    rw [phase, starts.1] at taken
    cases taken
    exact look starts.2
  · rename_i peer accepted phase
    simp only [Bool.and_eq_true, Option.isNone_iff_eq_none, Bool.not_eq_true'] at starts
    rw [phase, starts.1] at taken
    cases taken
    exact look starts.2
  · cases starts

/-- One more gateway makes the rejections enough exactly when it is another one. -/
private theorem refused_rejected_iff {identity : Nat} {records : List Record} {count : Nat}
    (h2 : Bool) (gateway : SocketAddr) (length : (rejecting identity records).length = count)
    (few : count < identityRejectedLimit) (enough : identityRejectedLimit ≤ count + 1) :
    Refused identity (records ++ [.dialled identity h2 gateway .identityRejected]) ↔
      gateway ∉ rejecting identity records := by
  -- A single earlier rejection cannot repeat itself.
  have limit : identityRejectedLimit = 2 := rfl
  obtain ⟨earlier, single⟩ := List.length_eq_one_iff.mp (length.trans (by omega : count = 1))
  rw [Refused, rejecting_rejected, single, limit]
  by_cases same : gateway = earlier
  · subst same
    refine iff_of_false ?_ (fun fresh => fresh List.mem_cons_self)
    rw [List.singleton_append, List.dedup_cons_of_mem List.mem_cons_self,
      (List.nodup_singleton gateway).dedup, List.length_singleton]
    decide
  · have fresh : gateway ∉ [earlier] := fun member => same (List.mem_singleton.mp member)
    refine iff_of_true ?_ fresh
    have distinct : ([earlier] ++ [gateway]).Nodup := by
      rw [← List.concat_eq_append]
      exact (List.nodup_singleton earlier).concat fresh
    rw [distinct.dedup]
    exact Nat.le_refl 2

section Exact

variable {setup : Setup} {source target : State} {label : Label}

/-- The certificate is replaced neither before the step nor after it. -/
private theorem refused_idle (before : source.phase.replaces = false)
    (after : target.phase.replaces = false) (apart : countsApart setup source label = true) :
    (target.phase.replaces = true → Refused target.identity target.records) ↔
      (source.phase.replaces = true → Refused source.identity source.records) ∧
        countsApart setup source label = true := by
  refine iff_of_true ?_ ⟨?_, apart⟩
  · rw [after]
    exact fun impossible => by cases impossible
  · rw [before]
    exact fun impossible => by cases impossible

private theorem refused_dial {pass : Pass} {peer : SocketAddr} {rest : List SocketAddr}
    {count : Nat} {outcome : PeerOutcome} (counting : Counting source)
    (phase : source.phase = .dial pass (peer :: rest) count)
    (taken : next setup source (.dialled outcome) = some target) :
    (target.phase.replaces = true → Refused target.identity target.records) ↔
      (source.phase.replaces = true → Refused source.identity source.records) ∧
        countsApart setup source (.dialled outcome) = true := by
  have counted := counting.counted
  rw [phase] at counted
  obtain ⟨length, few⟩ := counted
  have before : source.phase.replaces = false := by
    rw [phase]
    rfl
  simp only [next, phase] at taken
  cases outcome with
  | accepted =>
      cases taken
      apply refused_idle before
      · cases pass <;> rfl
      · simp only [countsApart, phase]
  | unreachable =>
      cases taken
      apply refused_idle before rfl
      simp only [countsApart, phase]
  | identityRejected =>
      simp only at taken
      split at taken
      · rename_i enough
        cases taken
        cases may : pass.mayReplace with
        | false =>
            apply refused_idle before
            · cases pass with
              | h3 | h2 => cases may
              | h3Again | h2Again => rfl
            · simp only [countsApart, phase, may, Bool.not_false, Bool.true_or]
        | true =>
            have after : (Phase.passed pass (.identityRejected (count + 1))).replaces = true := by
              cases pass with
              | h3 => exact decide_eq_true enough
              | h2 => rfl
              | h3Again | h2Again => cases may
            have last := refused_rejected_iff (source.enabled setup) (source.gateway setup peer)
              length few enough
            simp only [countsApart, phase, may, Bool.not_true, Bool.false_or, decide_eq_true_eq]
            rw [← last]
            constructor
            · intro refused
              refine ⟨fun impossible => ?_, refused after⟩
              cases impossible
            · exact fun both _ => both.2
      · rename_i room
        cases taken
        apply refused_idle before rfl
        have none_ : rejecting source.identity source.records = [] :=
          List.eq_nil_of_length_eq_zero (by
            have limit : identityRejectedLimit = 2 := rfl
            omega)
        simp only [countsApart, phase, none_, List.not_mem_nil, not_false_eq_true, decide_true,
          Bool.or_true]

private theorem refused_passEnds {pass : Pass} {count : Nat} (counting : Counting source)
    (phase : source.phase = .dial pass [] count)
    (taken : next setup source .passEnds = some target) :
    (target.phase.replaces = true → Refused target.identity target.records) ↔
      (source.phase.replaces = true → Refused source.identity source.records) ∧
        countsApart setup source .passEnds = true := by
  have counted := counting.counted
  rw [phase] at counted
  obtain ⟨length, few⟩ := counted
  have before : source.phase.replaces = false := by
    rw [phase]
    rfl
  simp only [next, phase] at taken
  cases taken
  by_cases second : pass = .h2 ∧ 0 < count
  · obtain ⟨rfl, some_⟩ := second
    -- The count is below the limit here, and pass 2 does not ask.
    apply iff_of_false
    · intro refused
      have enough := refused (by rw [if_pos some_]; rfl)
      have shorter := (List.dedup_sublist (rejecting source.identity source.records)).length_le
      change identityRejectedLimit ≤ (rejecting source.identity source.records).dedup.length
        at enough
      omega
    · rintro ⟨_, apart⟩
      simp only [countsApart, phase, decide_eq_true_eq] at apart
      omega
  · apply refused_idle before
    · change (Phase.passed pass
        (if count > 0 then .identityRejected count else .exhausted)).replaces = false
      split
      · rename_i some_
        cases pass with
        | h3 => exact decide_eq_false (Nat.not_le_of_lt few)
        | h2 => exact absurd ⟨rfl, some_⟩ second
        | h3Again | h2Again => rfl
      · cases pass <;> rfl
    · unfold countsApart
      rw [phase]
      cases pass with
      | h2 => exact decide_eq_true (Nat.eq_zero_of_not_pos fun some_ => second ⟨rfl, some_⟩)
      | h3 | h3Again | h2Again => rfl

private theorem refused_decided {pass : Pass} {outcome : PassOutcome}
    (phase : source.phase = .passed pass outcome)
    (taken : next setup source .passDecided = some target) :
    (target.phase.replaces = true → Refused target.identity target.records) ↔
      (source.phase.replaces = true → Refused source.identity source.records) ∧
        countsApart setup source .passDecided = true := by
  have apart : countsApart setup source .passDecided = true := by
    unfold countsApart
    rw [phase]
  simp only [next, phase] at taken
  cases taken
  have idle (before : (Phase.passed pass outcome).replaces = false)
      (after : (source.decide setup pass outcome).phase.replaces = false) :=
    refused_idle (phase ▸ before) after apart
  have second (count : Nat) : (source.second setup count).phase.replaces = false := by
    unfold State.second
    split <;> rfl
  -- The call follows, with what has been rejected unchanged.
  have called {again : Pass} {count : Nat}
      (due : (Phase.passed pass outcome).replaces = true)
      (after : source.decide setup pass outcome = source.goTo (.refresh again count)) :
      ((source.decide setup pass outcome).phase.replaces = true →
          Refused (source.decide setup pass outcome).identity
            (source.decide setup pass outcome).records) ↔
        (source.phase.replaces = true → Refused source.identity source.records) ∧
          countsApart setup source .passDecided = true := by
    rw [after, phase, and_iff_left apart]
    constructor
    · exact fun refused _ => refused rfl
    · exact fun refused _ => refused due
  cases outcome with
  | connected peer =>
      apply idle
      · cases pass <;> rfl
      · cases pass <;> rfl
  | exhausted =>
      cases pass with
      | h3 | h3Again => exact idle rfl (second 0)
      | h2 | h2Again => exact idle rfl rfl
  | identityRejected count =>
      cases pass with
      | h3 =>
          by_cases many : identityRejectedLimit ≤ count
          · exact called (decide_eq_true many) (if_pos many)
          · apply idle (decide_eq_false many)
            simp only [State.decide, ge_iff_le, if_neg many]
            exact second count
      | h2 => exact called rfl rfl
      | h3Again | h2Again => exact idle rfl rfl

/-- A step of the loop, where no rejections are counted. -/
private theorem refused_loop {phase : Phase} (same : source.phase = phase)
    (undialled : ∀ pass candidates count, phase ≠ .dial pass candidates count)
    (before : phase.replaces = false) (after : target.phase.replaces = false) :
    (target.phase.replaces = true → Refused target.identity target.records) ↔
      (source.phase.replaces = true → Refused source.identity source.records) ∧
        countsApart setup source label = true := by
  subst same
  apply refused_idle before after
  unfold countsApart
  split
  · rename_i dialling
    exact absurd dialling (undialled _ _ _)
  · rename_i dialling
    exact absurd dialling (undialled _ _ _)
  · rfl

/-- A step without `refresh_refused_masque_identity` in progress. -/
private theorem next_refused_iff (taken : ofNext (next setup) source label target)
    (counting : Counting source) (other : ∀ again count, source.phase ≠ .refresh again count) :
    (target.phase.replaces = true → Refused target.identity target.records) ↔
      (source.phase.replaces = true → Refused source.identity source.records) ∧
        countsApart setup source label = true := by
  have whole := taken
  have look : (source.look setup).phase.replaces = false := by
    unfold State.look
    split <;> rfl
  unfold ofNext next at taken
  split at taken
  · rename_i phase
    exact refused_dial counting phase whole
  · rename_i phase
    exact refused_passEnds counting phase whole
  · rename_i phase
    exact refused_decided phase whole
  · rename_i phase
    exact absurd phase (other _ _)
  · rename_i phase
    apply refused_loop phase (fun _ _ _ impossible => by cases impossible) rfl
    split at taken
    · cases taken
      rfl
    · cases taken
      exact look
  · rename_i accepted phase
    apply refused_loop phase (fun _ _ _ impossible => by cases impossible) rfl
    cases taken
    cases accepted with
    | true => rfl
    | false => exact look
  · rename_i phase
    apply refused_loop phase (fun _ _ _ impossible => by cases impossible) rfl
    split at taken
    · cases taken
      rfl
    · split at taken <;> cases taken <;> rfl
  · rename_i phase
    apply refused_loop phase (fun _ _ _ impossible => by cases impossible) rfl
    split at taken <;> cases taken <;> rfl
  · rename_i phase
    apply refused_loop phase (fun _ _ _ impossible => by cases impossible) rfl
    cases taken
    rfl
  · cases taken

end Exact

theorem next_justified_iff (setup : Setup) (source : State) (label : Label) (target : State)
    (taken : ofNext (next setup) source label target) (counting : Counting source) :
    target.Justified ↔ source.Justified ∧ countsApart setup source label = true := by
  by_cases replaces : ∃ again count, source.phase = .refresh again count
  · obtain ⟨again, count, phase⟩ := replaces
    cases label with
    | refreshed fresh =>
        have after : target.records = source.records ++ [.refreshed source.identity] ∧
            target.phase.replaces = false := by
          unfold ofNext at taken
          simp only [next, phase] at taken
          cases fresh <;> cases taken <;> exact ⟨rfl, rfl⟩
        have apart : countsApart setup source (.refreshed fresh) = true := by
          unfold countsApart
          rw [phase]
        rw [and_iff_left apart, State.Justified, State.Justified, after.1, after.2,
          History.every_snoc_iff, phase]
        constructor
        · rintro ⟨⟨earlier, refused⟩, _⟩
          exact ⟨earlier, fun _ => refused⟩
        · rintro ⟨earlier, refused⟩
          exact ⟨⟨earlier, refused rfl⟩, fun impossible => by cases impossible⟩
    | _ =>
        unfold ofNext at taken
        simp only [next, phase] at taken
        cases taken
  · have other : ∀ again count, source.phase ≠ .refresh again count :=
      fun again count phase => replaces ⟨again, count, phase⟩
    obtain ⟨added, records, allowed⟩ := next_added taken
    have silent : ∀ record ∈ added, ∀ before, Warranted before record := by
      intro record member before
      cases record with
      | refreshed identity => exact absurd (allowed _ member) replaces
      | _ => trivial
    have earlier : Every Warranted target.records ↔ Every Warranted source.records := by
      rw [records]
      exact History.every_append_silent_iff silent
    rw [State.Justified, State.Justified, earlier, next_refused_iff taken counting other, and_assoc]

/-- Every certificate that is given up was rejected by enough distinct gateways, exactly when no
gateway's rejection is counted twice and pass 2 never runs out with a single one. -/
theorem refresh_warranted_iff (setup : Setup) {labels : List Label} {state : State}
    (run : Run (ofNext (next setup)) (initial setup) labels state) :
    state.Justified ↔
      Run (Restrict (ofNext (next setup)) (fun state label => countsApart setup state label))
        (initial setup) labels state := by
  apply run.iff_restrict State.Justified Counting (next_counting setup) (next_justified_iff setup)
  · refine ⟨every_nil.snoc trivial, fun due => ?_⟩
    unfold initial at due
    simp only at due
    split at due <;> cases due
  · exact initial_counting setup

def gatewayOne : SocketAddr := ⟨.v4 ⟨162, 159, 198, 1⟩, 443⟩

def gatewayTwo : SocketAddr := ⟨.v4 ⟨162, 159, 198, 2⟩, 443⟩

/-- A first start, with these gateways to try. -/
def firstStart (gateways : List SocketAddr) : Setup :=
  { asked := false
    h2Override := none
    forced := none
    organization := none
    lastWorking := none
    account := none
    cached := []
    gatewayPeers := gateways }

/-- The first gateway refuses over HTTP/3, the second one is reached over HTTP/2 only. -/
theorem refresh_warranted_by_two :
    ∃ state, rejecting 0 state.records = [gatewayOne, gatewayTwo] ∧
      state.phase.replaces = true ∧
      (state.Justified ↔
        Run (Restrict (ofNext (next (firstStart [gatewayOne, gatewayTwo])))
            (fun state label => countsApart (firstStart [gatewayOne, gatewayTwo]) state label))
          (initial (firstStart [gatewayOne, gatewayTwo]))
          [.dialled .identityRejected, .dialled .unreachable, .passEnds, .passDecided,
            .dialled .unreachable, .dialled .identityRejected, .passDecided] state) := by
  have executed : (execute (next (firstStart [gatewayOne, gatewayTwo]))
      (initial (firstStart [gatewayOne, gatewayTwo]))
      [.dialled .identityRejected, .dialled .unreachable, .passEnds, .passDecided,
        .dialled .unreachable, .dialled .identityRejected, .passDecided]).map
        (fun state => (rejecting 0 state.records, state.phase.replaces)) =
      some ([gatewayOne, gatewayTwo], true) := by
    rfl
  obtain ⟨state, reached, same⟩ := Option.map_eq_some_iff.mp executed
  obtain ⟨rejected, replaces⟩ := Prod.mk.inj same
  exact ⟨state, rejected, replaces, refresh_warranted_iff _ (run_of_execute reached)⟩

/-- The only gateway there is refuses over HTTP/3 and over HTTP/2. -/
theorem refresh_after_one_gateway :
    ¬ ∀ (setup : Setup) (labels : List Label) (state : State),
      Run (ofNext (next setup)) (initial setup) labels state → Every Warranted state.records := by
  intro always
  have executed : (execute (next (firstStart [gatewayOne])) (initial (firstStart [gatewayOne]))
      [.dialled .identityRejected, .passEnds, .passDecided, .dialled .identityRejected,
        .passDecided, .refreshed true]).map State.records =
      some [.huntStarted false, .dialled 0 false gatewayOne .identityRejected,
        .dialled 0 true gatewayOne .identityRejected, .refreshed 0] := by
    rfl
  obtain ⟨state, reached, records⟩ := Option.map_eq_some_iff.mp executed
  have warranted := always _ _ state (run_of_execute reached)
  have enough := warranted [.huntStarted false, .dialled 0 false gatewayOne .identityRejected,
    .dialled 0 true gatewayOne .identityRejected] (.refreshed 0) [] records
  change identityRejectedLimit ≤ [gatewayOne, gatewayOne].dedup.length at enough
  exact absurd enough (by decide)

end Hunt

end MolidoVpn.Masque
