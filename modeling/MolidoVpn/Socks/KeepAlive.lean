import Mathlib.Data.List.Flatten
import Mathlib.Data.List.TakeWhile
import MolidoVpn.Socks.HttpClient

/-!
A client that keeps its connection to the HTTP front end and sends one request
after the other over it. Only the first one is routed; the theorem says for which
sessions that is enough.
-/

namespace MolidoVpn.Socks

open Routing (Action RuleSet eqIgnoreAsciiCase)
open Text (firstLine)
open Utf8 (encode fromUtf8Lossy)

/-- A plain request: a head that ends at its first blank line, and a body. -/
structure PlainRequest where
  head : List UInt8
  body : List UInt8
  line : HttpRequestLine
  rewritten : List Char
  whole : findHeadEnd head = some head.length
  parsed : parseRequestLine (firstLine (fromUtf8Lossy head)) = some line
  plain : line.rewritten = some rewritten

def PlainRequest.bytes (request : PlainRequest) : List UInt8 := request.head ++ request.body

/-- The requests of a connection, and the reads that they arrive in. -/
structure Session where
  requests : List PlainRequest
  reads : List (List UInt8)
  nonempty : ∀ chunk ∈ reads, chunk ≠ []
  joined : reads.flatten = requests.flatMap PlainRequest.bytes

/-- One host; the case of a name does not matter. -/
def sameHost : Target → Target → Bool
  | .ip ip, .ip other => ip == other
  | .domain name, .domain other => eqIgnoreAsciiCase name other
  | _, _ => false

theorem sameHost_self (target : Target) : sameHost target target = true := by
  cases target <;> exact beq_self_eq_true _

/-- What a connection is given for its requests: the first is rewritten for the origin. -/
def carried : List PlainRequest → List UInt8
  | [] => []
  | first :: rest => preamble first.line first.head ++ first.body ++ rest.flatMap PlainRequest.bytes

/-- The network lets a connection of this kind come about. -/
def Connectable (network : Network) (gateway : Gateway) (target : Target) (port : UInt16) :
    Action → Prop
  | .block => False
  | .direct => network.connects target port = true
  | .proxy =>
      (∃ proxy, viaGateway gateway port = some proxy ∧
        Accepts (network.answer proxy (buildProxyConnect (authorityOf target) port))) ∨
      ∃ ip, resolve network target = some ip ∧ network.opens ⟨ip, port⟩ = true

section Sessions

variable (toLowercase : List Char → List Char) (rules : RuleSet) (network : Network)
  (gateway : Gateway)

/-- The decision for the destination of the request itself. -/
def PlainRequest.route (request : PlainRequest) : Action :=
  rules.decide toLowercase (hostOf (httpTarget request.line)) request.line.port

/-- The connection was opened the way the request is routed, to its host and port. -/
def PlainRequest.reaches (request : PlainRequest) (upstream : Upstream) : Bool :=
  upstream.way == request.route toLowercase rules &&
    sameHost upstream.target (httpTarget request.line) && upstream.port == request.line.port

/-- Every request that is not blocked has its connection, and a connection is given the requests
that belong there and nothing else. -/
def Session.Routed (session : Session) (upstreams : List Upstream) : Prop :=
  (∀ request ∈ session.requests, request.route toLowercase rules ≠ .block →
      ∃ upstream ∈ upstreams, request.reaches toLowercase rules upstream = true) ∧
    ∀ upstream ∈ upstreams, upstream.sent =
      carried (session.requests.filter fun request => request.reaches toLowercase rules upstream)

/-- The first head fits, its connection comes about, and the other requests have the decision,
the host and the port of the first. -/
def Session.OneDestination (session : Session) : Prop :=
  ∃ first rest, session.requests = first :: rest ∧ HeadFits [] session.reads ∧
    Connectable network gateway (httpTarget first.line) first.line.port
      (first.route toLowercase rules) ∧
    ∀ request ∈ rest, request.route toLowercase rules = first.route toLowercase rules ∧
      sameHost (httpTarget first.line) (httpTarget request.line) = true ∧
      request.line.port = first.line.port

end Sessions

section Opened

variable {network : Network} {gateway : Gateway} {target : Target} {port : UInt16}

private theorem openStraight_isSome (network : Network) (target : Target) (port : UInt16) :
    (openStraight network target port).2.isSome = true ↔
      ∃ ip, resolve network target = some ip ∧ network.opens ⟨ip, port⟩ = true := by
  unfold openStraight
  cases resolve network target with
  | none =>
      refine iff_of_false Bool.false_ne_true ?_
      rintro ⟨ip, same, _⟩
      cases same
  | some ip =>
      constructor
      · intro opened
        refine ⟨ip, rfl, ?_⟩
        by_contra refused
        simp only [if_neg refused] at opened
        cases opened
      · rintro ⟨other, same, opens⟩
        cases same
        simp only [if_pos opens, Option.isSome_some]

private theorem openTunneled_isSome (network : Network) (gateway : Gateway) (target : Target)
    (port : UInt16) :
    (openTunneled network gateway target port).channel.isSome = true ↔
      Connectable network gateway target port .proxy := by
  rw [Connectable, ← openStraight_isSome]
  simp only [openTunneled]
  cases via : viaGateway gateway port with
  | none => simp only [reduceCtorEq, false_and, exists_false, false_or]
  | some proxy =>
      simp only [Option.some.injEq, exists_eq_left', ← openThroughGateway_ok_iff]
      cases openThroughGateway
        (network.answer proxy (buildProxyConnect (authorityOf target) port)) with
      | ok result => exact iff_of_true rfl (Or.inl ⟨result, rfl⟩)
      | error failure => simp only [reduceCtorEq, exists_false, false_or]

end Opened

section Reading

variable {session : Session} {first : PlainRequest} {rest : List PlainRequest}

private theorem first_complete (whole : session.requests = first :: rest) :
    findHeadEnd session.reads.flatten = some first.head.length := by
  rw [session.joined, whole, List.flatMap_cons, PlainRequest.bytes, List.append_assoc]
  exact findHeadEnd_append first.whole _

/-- The head that is read is the head of the first request, and the rest stands behind it. -/
private theorem readHead_session (whole : session.requests = first :: rest)
    {head pipelined : List UInt8} {later : List (List UInt8)}
    (read : readHead session.reads = .ok (head, pipelined, later)) :
    head = first.head ∧
      pipelined ++ copied later = first.body ++ rest.flatMap PlainRequest.bytes := by
  obtain ⟨used, parts, bytes, ends⟩ := @readHeadFrom_ok [] _ _ _ _ rfl read
  rw [List.nil_append] at bytes ends
  have joined : used.flatten ++ later.flatten =
      first.head ++ (first.body ++ rest.flatMap PlainRequest.bytes) := by
    rw [← List.flatten_append, ← parts, session.joined, whole, List.flatMap_cons,
      PlainRequest.bytes, List.append_assoc]
  have length : head.length = first.head.length := by
    have complete := first_complete whole
    rw [parts, List.flatten_append, findHeadEnd_append ends] at complete
    exact Option.some.inj complete
  rw [← bytes, List.append_assoc] at joined
  obtain ⟨same, behind⟩ := List.append_inj joined length
  have all : copied later = later.flatten := by
    rw [copied, List.takeWhile_eq_self_iff.mpr]
    intro chunk member
    apply decide_eq_true
    apply session.nonempty chunk
    rw [parts]
    exact List.mem_append_right used member
  rw [all]
  exact ⟨same, behind⟩

private theorem readHead_isOk (whole : session.requests = first :: rest) :
    (∃ result, readHead session.reads = .ok result) ↔ HeadFits [] session.reads := by
  apply readHeadFrom_ok_iff rfl (Nat.zero_le _) session.nonempty
  rw [List.nil_append, first_complete whole]
  exact Option.some_ne_none _

end Reading

section Serving

variable {toLowercase : List Char → List Char} {rules : RuleSet} {network : Network}
  {gateway : Gateway} {session : Session} {first : PlainRequest} {rest : List PlainRequest}

private theorem served_opened (whole : session.requests = first :: rest)
    (fits : HeadFits [] session.reads)
    (connectable : Connectable network gateway (httpTarget first.line) first.line.port
      (first.route toLowercase rules)) :
    ∃ dial, (handleHttpClient toLowercase rules network gateway session.reads).upstream = some
      { way := first.route toLowercase rules
        target := httpTarget first.line
        port := first.line.port
        dial := dial
        sent := carried session.requests } := by
  obtain ⟨⟨head, pipelined, later⟩, read⟩ := (readHead_isOk whole).mpr fits
  obtain ⟨same, behind⟩ := readHead_session whole read
  have sent : preamble first.line first.head ++ pipelined ++ copied later =
      carried session.requests := by
    rw [whole, carried, List.append_assoc, behind, List.append_assoc]
  unfold PlainRequest.route at connectable ⊢
  simp only [handleHttpClient, read, same, first.parsed]
  cases decision : rules.decide toLowercase (hostOf (httpTarget first.line)) first.line.port with
  | block =>
      rw [decision] at connectable
      exact connectable.elim
  | direct =>
      have connects : network.connects (httpTarget first.line) first.line.port = true := by
        rw [decision] at connectable
        exact connectable
      refine ⟨.direct (httpTarget first.line) first.line.port, ?_⟩
      simp only [relayHttpDirect]
      rw [if_pos connects, sent]
  | proxy =>
      rw [decision] at connectable
      obtain ⟨channel, opened⟩ :=
        Option.isSome_iff_exists.mp ((openTunneled_isSome _ _ _ _).mpr connectable)
      refine ⟨channel.dial, ?_⟩
      simp only [opened, sent]

private theorem served_none (whole : session.requests = first :: rest)
    (impossible : ¬(HeadFits [] session.reads ∧
      Connectable network gateway (httpTarget first.line) first.line.port
        (first.route toLowercase rules))) :
    (handleHttpClient toLowercase rules network gateway session.reads).upstream = none := by
  unfold PlainRequest.route at impossible
  unfold handleHttpClient
  cases read : readHead session.reads with
  | error failure => rfl
  | ok result =>
      obtain ⟨head, pipelined, later⟩ := result
      have fits := (readHead_isOk whole).mp ⟨_, read⟩
      obtain ⟨same, _⟩ := readHead_session whole read
      simp only [same, first.parsed]
      cases decision : rules.decide toLowercase (hostOf (httpTarget first.line)) first.line.port with
      | block => rfl
      | direct =>
          have unconnected : ¬network.connects (httpTarget first.line) first.line.port = true := by
            intro connects
            apply impossible
            rw [decision]
            exact ⟨fits, connects⟩
          simp only [relayHttpDirect]
          rw [if_neg unconnected]
      | proxy =>
          rw [decision, ← openTunneled_isSome] at impossible
          have unopened : (openTunneled network gateway (httpTarget first.line)
              first.line.port).channel = none := by
            rw [← Option.not_isSome_iff_eq_none]
            exact fun opened => impossible ⟨fits, opened⟩
          simp only [unopened]

end Serving

section Sharing

variable {keep : PlainRequest → Bool} {requests : List PlainRequest}

private theorem bytes_length_pos (request : PlainRequest) : 0 < request.bytes.length := by
  have whole := request.whole
  rw [findHeadEnd, Option.map_eq_some_iff] at whole
  obtain ⟨⟨before, after⟩, _, length⟩ := whole
  have marked : before.length + 4 = request.head.length := length
  rw [PlainRequest.bytes, List.length_append]
  omega

/-- Requests that make up all the bytes are all the requests. -/
private theorem all_of_length_eq
    (same : ((requests.filter keep).flatMap PlainRequest.bytes).length =
      (requests.flatMap PlainRequest.bytes).length) :
    ∀ request ∈ requests, keep request = true := by
  induction requests with
  | nil => exact fun request member => absurd member List.not_mem_nil
  | cons request requests ih =>
      rw [List.flatMap_cons, List.length_append, List.filter_cons] at same
      cases kept : keep request with
      | true =>
          rw [if_pos kept, List.flatMap_cons, List.length_append] at same
          intro other member
          rcases List.mem_cons.mp member with rfl | later
          · exact kept
          · exact ih (by omega) other later
      | false =>
          rw [if_neg (by rw [kept]; exact Bool.false_ne_true)] at same
          have fewer : (requests.filter keep).Sublist requests := List.filter_sublist
          have shorter := (fewer.flatMap PlainRequest.bytes).length_le
          have positive := bytes_length_pos request
          omega

end Sharing

section Routing

variable {toLowercase : List Char → List Char} {rules : RuleSet} {network : Network}
  {gateway : Gateway} {session : Session} {first : PlainRequest} {rest : List PlainRequest}
  {upstream : Upstream}

private theorem reaches_iff (request : PlainRequest) (upstream : Upstream) :
    request.reaches toLowercase rules upstream = true ↔
      upstream.way = request.route toLowercase rules ∧
        sameHost upstream.target (httpTarget request.line) = true ∧
        upstream.port = request.line.port := by
  rw [PlainRequest.reaches, Bool.and_eq_true, Bool.and_eq_true, beq_iff_eq, beq_iff_eq, and_assoc]

/-- Without a connection only blocked requests are served. -/
private theorem routed_none :
    session.Routed toLowercase rules [] ↔
      ∀ request ∈ session.requests, request.route toLowercase rules = .block := by
  constructor
  · rintro ⟨served, _⟩ request member
    by_contra other
    obtain ⟨upstream, none_, _⟩ := served request member other
    exact absurd none_ List.not_mem_nil
  · intro blocked
    refine ⟨fun request member other => absurd (blocked request member) other, ?_⟩
    exact fun upstream none_ => absurd none_ List.not_mem_nil

/-- A connection that was given all the requests is right when they all belong there. -/
private theorem routed_single (whole : session.requests = first :: rest)
    (belongs : first.reaches toLowercase rules upstream = true)
    (opened : first.route toLowercase rules ≠ .block)
    (sent : upstream.sent = carried session.requests) :
    session.Routed toLowercase rules [upstream] ↔
      ∀ request ∈ rest, request.reaches toLowercase rules upstream = true := by
  constructor
  · rintro ⟨_, given⟩
    have same := given upstream List.mem_cons_self
    rw [sent, whole, List.filter_cons, if_pos belongs, carried, carried] at same
    have lengths := congrArg List.length (List.append_cancel_left same)
    exact all_of_length_eq lengths.symm
  · intro others
    have all : ∀ request ∈ session.requests,
        request.reaches toLowercase rules upstream = true := by
      intro request member
      rw [whole] at member
      rcases List.mem_cons.mp member with rfl | later
      · exact belongs
      · exact others request later
    constructor
    · intro request member _
      exact ⟨upstream, List.mem_cons_self, all request member⟩
    · intro other member
      cases List.mem_singleton.mp member
      rw [sent, List.filter_eq_self.mpr all]

private theorem reads_of_no_requests (whole : session.requests = []) : session.reads = [] := by
  have joined := session.joined
  rw [whole, List.flatMap_nil, List.flatten_eq_nil_iff] at joined
  rw [List.eq_nil_iff_forall_not_mem]
  exact fun chunk member => session.nonempty chunk member (joined chunk member)

/-- A session is routed request by request exactly when its requests are all blocked, or the
first one gets its connection and the others have its destination. -/
theorem session_routed_iff (toLowercase : List Char → List Char) (rules : RuleSet)
    (network : Network) (gateway : Gateway) (session : Session) :
    session.Routed toLowercase rules
        (handleHttpClient toLowercase rules network gateway session.reads).upstream.toList ↔
      (∀ request ∈ session.requests, request.route toLowercase rules = .block) ∨
        session.OneDestination toLowercase rules network gateway := by
  cases whole : session.requests with
  | nil =>
      rw [reads_of_no_requests whole]
      refine iff_of_true ?_ (Or.inl fun request none_ => absurd none_ List.not_mem_nil)
      apply routed_none.mpr
      rw [whole]
      exact fun request none_ => absurd none_ List.not_mem_nil
  | cons first rest =>
      rw [← whole]
      by_cases possible : HeadFits [] session.reads ∧
          Connectable network gateway (httpTarget first.line) first.line.port
            (first.route toLowercase rules)
      · obtain ⟨fits, connectable⟩ := possible
        have opened : first.route toLowercase rules ≠ .block := by
          intro blocked
          rw [blocked] at connectable
          exact connectable
        have belongs (dial : Dial) : first.reaches toLowercase rules
            ⟨first.route toLowercase rules, httpTarget first.line, first.line.port, dial,
              carried session.requests⟩ = true :=
          (reaches_iff _ _).mpr ⟨rfl, sameHost_self _, rfl⟩
        obtain ⟨dial, served⟩ := served_opened whole fits connectable
        rw [served, Option.toList_some, routed_single whole (belongs dial) opened rfl]
        constructor
        · intro others
          refine Or.inr ⟨first, rest, whole, fits, connectable, fun request member => ?_⟩
          obtain ⟨way, host, port⟩ := (reaches_iff _ _).mp (others request member)
          exact ⟨way.symm, host, port.symm⟩
        · rintro (blocked | ⟨other, others, same, _, _, alike⟩) request member
          · refine absurd (blocked first ?_) opened
            rw [whole]
            exact List.mem_cons_self
          · rw [whole] at same
            cases same
            obtain ⟨way, host, port⟩ := alike request member
            exact (reaches_iff _ _).mpr ⟨way.symm, host, port.symm⟩
      · rw [served_none whole possible, Option.toList_none, routed_none]
        refine (or_iff_left ?_).symm
        rintro ⟨other, others, same, fits, connectable, _⟩
        rw [whole] at same
        cases same
        exact possible ⟨fits, connectable⟩

def getHead (host : List Char) : List UInt8 :=
  encode ("GET http://".toList ++ host ++ "/ HTTP/1.1".toList ++ crlf ++ crlf)

def getLine (host : List Char) : HttpRequestLine where
  method := "GET".toList
  authority := host
  port := 80
  rewritten := some ("GET / HTTP/1.1".toList ++ crlf)

def getA : PlainRequest where
  head := getHead ['a']
  body := []
  line := getLine ['a']
  rewritten := "GET / HTTP/1.1".toList ++ crlf
  whole := by rfl
  parsed := by rfl
  plain := rfl

def getB : PlainRequest where
  head := getHead ['b']
  body := []
  line := getLine ['b']
  rewritten := "GET / HTTP/1.1".toList ++ crlf
  whole := by rfl
  parsed := by rfl
  plain := rfl

/-- Both requests in one read. -/
def getBoth : Session where
  requests := [getA, getB]
  reads := [getHead ['a'] ++ getHead ['b']]
  nonempty := by decide
  joined := by rfl

/-- Every name and every connection is there, and no gateway is set. -/
def openNetwork : Network where
  answer _ _ := ⟨true, true, [], .closed⟩
  dns _ := some (.v4 ⟨10, 0, 0, 7⟩)
  opens _ := true
  connects _ _ := true

/-- The request for a blocked host goes out on the connection to the host before it. -/
theorem blocked_request_relayed :
    ¬∀ (toLowercase : List Char → List Char) (rules : RuleSet) (network : Network)
      (gateway : Gateway) (session : Session),
      session.Routed toLowercase rules
        (handleHttpClient toLowercase rules network gateway session.reads).upstream.toList := by
  intro claim
  have routed := claim (List.map Char.toLower) ⟨[.domainFull ['b']], []⟩ openNetwork ⟨none, true⟩
    getBoth
  have served : (handleHttpClient (List.map Char.toLower) ⟨[.domainFull ['b']], []⟩ openNetwork
      ⟨none, true⟩ getBoth.reads).upstream = some
        { way := .proxy
          target := .domain ['a']
          port := 80
          dial := .straight ⟨.v4 ⟨10, 0, 0, 7⟩, 80⟩
          sent := encode ("GET / HTTP/1.1".toList ++ crlf ++ crlf) ++ getHead ['b'] } := by
    rfl
  rw [served] at routed
  have sent := routed.2 _ (List.mem_singleton.mpr rfl)
  exact absurd sent (by decide)

end Routing

end MolidoVpn.Socks
