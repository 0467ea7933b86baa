import MolidoVpn.Lib.Transition
import MolidoVpn.Socks.Target

/-!
A SOCKS5 UDP association: `handle_udp_associate` as a machine that takes what its
loop selects, one event at a time. Only the socket of the client may use the relay,
and it is not known before its first datagram.
-/

namespace MolidoVpn.Socks

open IpText (toIpv4Mapped)
open Routing (Action RuleSet)
open Transition (Run ofNext execute run_of_execute)

def normalizeIp : IpAddr → IpAddr
  | .v6 v6 =>
      match toIpv4Mapped v6 with
      | some v4 => .v4 v4
      | none => .v6 v6
  | .v4 v4 => .v4 v4

/-- `IpAddr::is_unspecified` -/
def isUnspecified : IpAddr → Bool
  | .v4 ip => ip == ⟨0, 0, 0, 0⟩
  | .v6 ip => ip.octets == List.replicate 16 0

/-- The source of a datagram, with what `SocketAddrV6` compares besides address and port. -/
structure UdpPeer where
  address : SocketAddr
  flowinfo : UInt32
  scopeId : UInt32
  deriving DecidableEq

def expectedUdpSource (controlPeer : SocketAddr) : Target → IpAddr
  | .ip ip => if isUnspecified ip then normalizeIp controlPeer.ip else normalizeIp ip
  | .domain _ => normalizeIp controlPeer.ip

def udpSourceAllowed (expectedIp : IpAddr) (latched : Option UdpPeer) (source : UdpPeer) : Bool :=
  match latched with
  | some known => known == source
  | none => normalizeIp source.address.ip == normalizeIp expectedIp

def buildUdpReply (src : SocketAddr) (data : List UInt8) : List UInt8 :=
  [0x00, 0x00, 0x00, (ipBytes src.ip).1] ++ (ipBytes src.ip).2 ++ portBytes src.port ++ data

namespace Association

/-- What the association hands to a socket, with the client it does so for. -/
inductive Record where
  | tunneled (client : UdpPeer) (dst : SocketAddr) (payload : List UInt8)
  | direct (client : UdpPeer) (dst : SocketAddr) (payload : List UInt8)
  | reply (client : UdpPeer) (packet : List UInt8)
  deriving DecidableEq

/-- Where a datagram was relayed from, or a reply sent to. -/
def Record.client : Record → UdpPeer
  | .tunneled client _ _ => client
  | .direct client _ _ => client
  | .reply client _ => client

/-- One turn of the loop. A datagram comes with the routes of that moment, what the system's
resolver finds first for its name and what the resolver in the tunnel answers. -/
inductive Event where
  | datagram (source : UdpPeer) (bytes : List UInt8) (rules : RuleSet)
      (found : Option SocketAddr) (answered : Option IpAddr)
  | relayError
  | fromStack (src : SocketAddr) (data : List UInt8)
  | stackClosed
  | fromDirect (src : SocketAddr) (data : List UInt8)
  | directError
  | control
  | controlClosed

structure State where
  expectedIp : IpAddr
  client : Option UdpPeer
  records : List Record
  running : Bool
  deriving DecidableEq

def initial (controlPeer : SocketAddr) (requested : Target) : State :=
  { expectedIp := expectedUdpSource controlPeer requested
    client := none
    records := []
    running := true }

def State.record (state : State) (added : List Record) : State :=
  { state with records := state.records ++ added }

/-- The first source that is let in becomes the client. -/
def State.latch (state : State) (source : UdpPeer) : State :=
  match state.client with
  | none => { state with client := some source }
  | some _ => state

def State.answer (state : State) (src : SocketAddr) (data : List UInt8) : State :=
  match state.client with
  | some client => state.record [.reply client (buildUdpReply src data)]
  | none => state

section Steps

variable (toLowercase : List Char → List Char)

def relayed (source : UdpPeer) (rules : RuleSet) (found : Option SocketAddr)
    (answered : Option IpAddr) (dst : Target) (port : UInt16) (payload : List UInt8) :
    List Record :=
  match rules.decide toLowercase (hostOf dst) port with
  | .block => []
  | .direct =>
      let outside := match dst with
        | .ip ip => some ⟨ip, port⟩
        | .domain _ => found
      match outside with
      | some addr => [.direct source addr payload]
      | none => []
  | .proxy =>
      match dst with
      | .ip ip => [.tunneled source ⟨ip, port⟩ payload]
      | .domain _ =>
          match answered with
          | some ip => [.tunneled source ⟨ip, port⟩ payload]
          | none => []

def State.receive (state : State) (source : UdpPeer) (bytes : List UInt8) (rules : RuleSet)
    (found : Option SocketAddr) (answered : Option IpAddr) : State :=
  if udpSourceAllowed state.expectedIp state.client source then
    match parseUdpRequest bytes with
    | none => state.latch source
    | some (dst, port, payload) =>
        (state.latch source).record
          (relayed toLowercase source rules found answered dst port payload)
  else state

def next (state : State) (event : Event) : Option State :=
  if state.running then
    match event with
    | .datagram source bytes rules found answered =>
        some (state.receive toLowercase source bytes rules found answered)
    | .fromStack src data => some (state.answer src data)
    | .fromDirect src data => some (state.answer src data)
    | .directError | .control => some state
    | .relayError | .stackClosed | .controlClosed => some { state with running := false }
  else none

end Steps

/-- Nobody but one client is served, and it has the address that is expected. -/
structure ServesOne (expected : IpAddr) (state : State) : Prop where
  expects : state.expectedIp = expected
  address : ∀ client, state.client = some client →
    normalizeIp client.address.ip = normalizeIp expected
  served : ∀ record ∈ state.records, state.client = some record.client

theorem normalizeIp_idem (ip : IpAddr) : normalizeIp (normalizeIp ip) = normalizeIp ip := by
  cases ip with
  | v4 v4 => rfl
  | v6 v6 =>
      cases mapped : toIpv4Mapped v6 with
      | some v4 => simp only [normalizeIp, mapped]
      | none => simp only [normalizeIp, mapped]

theorem normalizeIp_expectedUdpSource (controlPeer : SocketAddr) (requested : Target) :
    normalizeIp (expectedUdpSource controlPeer requested) =
      expectedUdpSource controlPeer requested := by
  cases requested with
  | ip ip =>
      cases unspecified : isUnspecified ip with
      | true => simp only [expectedUdpSource, unspecified, if_true, normalizeIp_idem]
      | false =>
          simp only [expectedUdpSource, unspecified, Bool.false_eq_true, if_false,
            normalizeIp_idem]
  | domain name => exact normalizeIp_idem _

private theorem relayed_client {toLowercase : List Char → List Char} {source : UdpPeer}
    {rules : RuleSet} {found : Option SocketAddr} {answered : Option IpAddr} {dst : Target}
    {port : UInt16} {payload : List UInt8} {record : Record}
    (member : record ∈ relayed toLowercase source rules found answered dst port payload) :
    record.client = source := by
  unfold relayed at member
  generalize rules.decide toLowercase (hostOf dst) port = action at member
  cases action with
  | block => cases member
  | direct =>
      cases dst with
      | ip ip =>
          obtain rfl := List.mem_singleton.mp member
          rfl
      | domain name =>
          cases found with
          | none => cases member
          | some addr =>
              obtain rfl := List.mem_singleton.mp member
              rfl
  | proxy =>
      cases dst with
      | ip ip =>
          obtain rfl := List.mem_singleton.mp member
          rfl
      | domain name =>
          cases answered with
          | none => cases member
          | some ip =>
              obtain rfl := List.mem_singleton.mp member
              rfl

theorem ServesOne.record {expected : IpAddr} {state : State} (serves : ServesOne expected state)
    {added : List Record} (own : ∀ record ∈ added, state.client = some record.client) :
    ServesOne expected (state.record added) where
  expects := serves.expects
  address := serves.address
  served := by
    intro record member
    rcases List.mem_append.mp member with old | new
    · exact serves.served record old
    · exact own record new

/-- A source that is let in is the client from then on. -/
theorem latch_allowed {expected : IpAddr} {state : State} (serves : ServesOne expected state)
    {source : UdpPeer}
    (allowed : udpSourceAllowed state.expectedIp state.client source = true) :
    (state.latch source).client = some source ∧ ServesOne expected (state.latch source) := by
  unfold State.latch udpSourceAllowed at *
  cases latched : state.client with
  | none =>
      rw [latched] at allowed
      refine ⟨rfl, serves.expects, ?_, ?_⟩
      · intro client same
        cases same
        rw [← serves.expects]
        exact eq_of_beq allowed
      · intro record member
        have impossible := serves.served record member
        rw [latched] at impossible
        cases impossible
  | some known =>
      rw [latched] at allowed
      have same : known = source := eq_of_beq allowed
      subst same
      exact ⟨latched, serves⟩

/-- What one turn of the loop preserves. -/
theorem next_serves {toLowercase : List Char → List Char} {expected : IpAddr}
    {source target : State} {event : Event}
    (taken : ofNext (next toLowercase) source event target)
    (serves : ServesOne expected source) :
    ServesOne expected target ∧ ∀ client, source.client = some client →
      target.client = some client := by
  unfold ofNext next at taken
  split at taken
  case isFalse => cases taken
  case isTrue running =>
    have answers (src : SocketAddr) (data : List UInt8) :
        ServesOne expected (source.answer src data) ∧ ∀ client, source.client = some client →
          (source.answer src data).client = some client := by
      unfold State.answer
      cases latched : source.client with
      | none =>
          refine ⟨serves, ?_⟩
          intro client impossible
          cases impossible
      | some client =>
          refine ⟨serves.record ?_, fun _ same => latched.trans same⟩
          intro record member
          obtain rfl := List.mem_singleton.mp member
          exact latched
    cases event with
    | datagram sender bytes rules found answered =>
        obtain rfl := Option.some.inj taken
        unfold State.receive
        by_cases allowed : udpSourceAllowed source.expectedIp source.client sender = true
        · obtain ⟨client, latched⟩ := latch_allowed serves allowed
          have kept : ∀ known, source.client = some known →
              (source.latch sender).client = some known := by
            intro known same
            rw [State.latch, same]
            exact same
          rw [if_pos allowed]
          cases parseUdpRequest bytes with
          | none => exact ⟨latched, kept⟩
          | some request =>
              refine ⟨latched.record ?_, kept⟩
              intro record member
              rw [client, relayed_client member]
        · rw [if_neg allowed]
          exact ⟨serves, fun _ same => same⟩
    | fromStack src data =>
        obtain rfl := Option.some.inj taken
        exact answers src data
    | fromDirect src data =>
        obtain rfl := Option.some.inj taken
        exact answers src data
    | directError | control =>
        obtain rfl := Option.some.inj taken
        exact ⟨serves, fun _ same => same⟩
    | relayError | stackClosed | controlClosed =>
        obtain rfl := Option.some.inj taken
        exact ⟨⟨serves.expects, serves.address, serves.served⟩, fun _ same => same⟩

theorem initial_serves (controlPeer : SocketAddr) (requested : Target) :
    ServesOne (expectedUdpSource controlPeer requested) (initial controlPeer requested) where
  expects := rfl
  address := by
    intro client impossible
    cases impossible
  served := by
    intro record impossible
    cases impossible

theorem run_serves {toLowercase : List Char → List Char} {expected : IpAddr}
    {start finish : State} {events : List Event}
    (run : Run (ofNext (next toLowercase)) start events finish)
    (serves : ServesOne expected start) :
    ServesOne expected finish ∧ ∀ client, start.client = some client →
      finish.client = some client := by
  induction run with
  | nil => exact ⟨serves, fun _ same => same⟩
  | snoc _ last ih =>
      have now := next_serves last ih.1
      exact ⟨now.1, fun client same => now.2 client (ih.2 client same)⟩

/-- In whatever order datagrams, replies and the end of the control connection come: one socket
is served, its address is the expected one, and once known it stays. -/
theorem association_serves_one_client (toLowercase : List Char → List Char)
    (controlPeer : SocketAddr) (requested : Target) {events later : List Event}
    {state after : State}
    (run : Run (ofNext (next toLowercase)) (initial controlPeer requested) events state)
    (rest : Run (ofNext (next toLowercase)) state later after) :
    (∀ client, state.client = some client →
        normalizeIp client.address.ip = expectedUdpSource controlPeer requested ∧
          after.client = some client) ∧
      ∀ record ∈ state.records, state.client = some record.client := by
  have serves := (run_serves run (initial_serves controlPeer requested)).1
  refine ⟨?_, serves.served⟩
  intro client latched
  refine ⟨?_, (run_serves rest serves).2 client latched⟩
  rw [serves.address client latched, normalizeIp_expectedUdpSource]

def dualStackClient : UdpPeer :=
  { address :=
      { ip := .v6 ⟨List.replicate 10 0 ++ [0xff, 0xff, 10, 0, 0, 2], rfl⟩
        port := 40000 }
    flowinfo := 0
    scopeId := 0 }

def dnsQuery : List UInt8 := [0, 0, 0, atypV4, 1, 1, 1, 1, 0, 53, 7]

def datagramFrom (ip : Ipv4Addr) : Event :=
  .datagram ⟨⟨.v4 ip, 40001⟩, 0, 0⟩ dnsQuery ⟨[], []⟩ none none

def servedState : State :=
  { initial ⟨.v4 ⟨10, 0, 0, 2⟩, 50000⟩ (.ip (.v4 ⟨0, 0, 0, 0⟩)) with
    client := some dualStackClient
    records :=
      [.tunneled dualStackClient ⟨.v4 ⟨1, 1, 1, 1⟩, 53⟩ [7],
        .reply dualStackClient [0, 0, 0, atypV4, 1, 1, 1, 1, 0, 53, 8]] }

/-- A stranger comes first and is dropped, and so is the client's other socket later on. -/
theorem association_serves_dual_stack_client :
    (∀ client, servedState.client = some client →
        normalizeIp client.address.ip =
            expectedUdpSource ⟨.v4 ⟨10, 0, 0, 2⟩, 50000⟩ (.ip (.v4 ⟨0, 0, 0, 0⟩)) ∧
          servedState.client = some client) ∧
      ∀ record ∈ servedState.records, servedState.client = some record.client :=
  @association_serves_one_client id ⟨.v4 ⟨10, 0, 0, 2⟩, 50000⟩ (.ip (.v4 ⟨0, 0, 0, 0⟩))
    [datagramFrom ⟨10, 0, 0, 9⟩, .datagram dualStackClient dnsQuery ⟨[], []⟩ none none,
      .fromStack ⟨.v4 ⟨1, 1, 1, 1⟩, 53⟩ [8]]
    [datagramFrom ⟨10, 0, 0, 2⟩] servedState servedState
    (run_of_execute (by rfl)) (run_of_execute (by rfl))

end Association

end MolidoVpn.Socks
