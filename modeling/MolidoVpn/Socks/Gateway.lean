import MolidoVpn.Socks.ProxyConnect

/-!
The gateway upstream: opening a connection through it, reading its answer, and
what the two callers do when that fails. The network is what each connection
attempt meets.
-/

namespace MolidoVpn.Socks

open IpText (parseIpAddr)
open Routing (Action)
open Text (splitAround words trim parseU16 firstLine)
open Utf8 (fromUtf8Lossy)

/-- `GATEWAY_PROXY` and `GATEWAY_HEALTHY` -/
structure Gateway where
  proxy : Option SocketAddr
  healthy : Bool
  deriving DecidableEq

def gatewayProxy (gateway : Gateway) : Option SocketAddr :=
  if gateway.healthy then gateway.proxy else none

def retireGateway (gateway : Gateway) : Gateway := { gateway with healthy := false }

def shouldUseGateway (port : UInt16) : Bool := port == 80 || port == 443

def viaGateway (gateway : Gateway) (port : UInt16) : Option SocketAddr :=
  (gatewayProxy gateway).filter fun _ => shouldUseGateway port

/-- What follows the last chunk. -/
inductive GatewayEnding where
  | silent
  | closed
  deriving DecidableEq

/-- A connection to the gateway: whether it opens in time, whether it takes the request, and the
chunks that come back, each in time. -/
structure GatewayAnswer where
  opens : Bool
  takes : Bool
  chunks : List (List UInt8)
  ending : GatewayEnding

inductive GatewayError where
  | notOpened
  | notSent
  | noAnswer
  | closed
  | malformed
  | refused (status : List Char)
  | oversized
  deriving DecidableEq

def proxyConnectSucceeded (head : List UInt8) : Option Bool :=
  match splitAround crlf (fromUtf8Lossy head) with
  | none => none
  | some (line, _) =>
      match (words line)[1]? with
      | none => none
      | some word => (parseU16 word).map fun status => 200 ≤ status && status < 300

def gatewayHeadLimit : Nat := 8192

/-- The loop of `open_through_gateway`: the bytes behind the head, and the chunks not read yet. -/
def awaitAnswer (ending : GatewayEnding) (head : List UInt8) :
    List (List UInt8) → Except GatewayError (List UInt8 × List (List UInt8))
  | [] =>
      match ending with
      | .silent => .error .noAnswer
      | .closed => .error .closed
  | chunk :: chunks =>
      let head := head ++ chunk
      match findHeadEnd head with
      | some mark =>
          match proxyConnectSucceeded head with
          | none => .error .malformed
          | some false => .error (.refused (trim (firstLine (fromUtf8Lossy (head.take mark)))))
          | some true => .ok (head.drop mark, chunks)
      | none =>
          if gatewayHeadLimit < head.length then .error .oversized
          else awaitAnswer ending head chunks

def openThroughGateway (answer : GatewayAnswer) :
    Except GatewayError (List UInt8 × List (List UInt8)) :=
  if answer.opens then
    if answer.takes then awaitAnswer answer.ending [] answer.chunks else .error .notSent
  else .error .notOpened

/-- A connection attempt: to the gateway with the CONNECT for it, to the target inside the tunnel,
and to the target outside of it. -/
inductive Dial where
  | gateway (proxy : SocketAddr) (request : List UInt8)
  | straight (dst : SocketAddr)
  | direct (target : Target) (port : UInt16)
  deriving DecidableEq

structure Network where
  answer : SocketAddr → List UInt8 → GatewayAnswer
  dns : List Char → Option IpAddr
  opens : SocketAddr → Bool
  connects : Target → UInt16 → Bool

structure Channel where
  dial : Dial
  leftover : List UInt8
  deriving DecidableEq

/-- The attempts that were made, whether the gateway is retired, and the channel. -/
structure Opening where
  dials : List Dial
  retires : Bool
  channel : Option Channel
  deriving DecidableEq

section Opening

variable (network : Network)

def resolve : Target → Option IpAddr
  | .ip ip => some ip
  | .domain name =>
      match parseIpAddr name with
      | some ip => some ip
      | none => network.dns name

def openStraight (target : Target) (port : UInt16) : List Dial × Option Channel :=
  match resolve network target with
  | none => ([], none)
  | some ip =>
      let dst : SocketAddr := ⟨ip, port⟩
      ([.straight dst], if network.opens dst then some ⟨.straight dst, []⟩ else none)

/-- `open_tunneled`, and the same arms of `handle_connect`. -/
def openTunneled (gateway : Gateway) (target : Target) (port : UInt16) : Opening :=
  let (dials, channel) := openStraight network target port
  match viaGateway gateway port with
  | some proxy =>
      let request := buildProxyConnect (authorityOf target) port
      match openThroughGateway (network.answer proxy request) with
      | .ok (leftover, _) =>
          { dials := [.gateway proxy request]
            retires := false
            channel := some ⟨.gateway proxy request, leftover⟩ }
      | .error _ =>
          { dials := .gateway proxy request :: dials, retires := true, channel := channel }
  | none => { dials := dials, retires := false, channel := channel }

/-- A SOCKS5 reply without an address. -/
def replyBytes (code : UInt8) : List UInt8 := [0x05, code, 0x00, atypV4, 0, 0, 0, 0, 0, 0]

def repOk : UInt8 := 0x00

def repGeneral : UInt8 := 0x01

def repNotAllowed : UInt8 := 0x02

/-- `handle_connect` up to the relaying: the opening, and what the client has been sent. -/
def handleConnect (gateway : Gateway) (action : Action) (target : Target) (port : UInt16) :
    Opening × List UInt8 :=
  match action with
  | .block => ({ dials := [], retires := false, channel := none }, replyBytes repNotAllowed)
  | .direct =>
      if network.connects target port then
        ({ dials := [.direct target port]
           retires := false
           channel := some ⟨.direct target port, []⟩ }, replyBytes repOk)
      else
        ({ dials := [.direct target port], retires := false, channel := none },
          replyBytes repGeneral)
  | .proxy =>
      let opening := openTunneled network gateway target port
      match opening.channel with
      | none => (opening, replyBytes repGeneral)
      | some channel => (opening, replyBytes repOk ++ channel.leftover)

end Opening

/-- The shared state once the opening is over. -/
def Opening.settle (opening : Opening) (gateway : Gateway) : Gateway :=
  if opening.retires then retireGateway gateway else gateway

/-- No attempt went around the gateway, and the remaining connections find it as it was, in
whatever state the others have left it by now. -/
def Opening.Kept (opening : Opening) : Prop :=
  (∀ dst, Dial.straight dst ∉ opening.dials) ∧
    ∀ now, gatewayProxy (opening.settle now) = gatewayProxy now

/-- A CONNECT that the rules have decided on, and a proxied HTTP request. -/
inductive Caller where
  | socks (action : Action)
  | http

def Caller.opening (network : Network) (gateway : Gateway) (target : Target) (port : UInt16) :
    Caller → Opening
  | .socks action => (handleConnect network gateway action target port).1
  | .http => openTunneled network gateway target port

/-- The gateway that the caller goes through. -/
def Caller.gateway (gateway : Gateway) (port : UInt16) : Caller → Option SocketAddr
  | .socks .proxy => viaGateway gateway port
  | .socks .direct => none
  | .socks .block => none
  | .http => viaGateway gateway port

/-- A whole head comes back, or more than a head may have. -/
def Answered (received : List UInt8) : Prop :=
  (findHeadEnd received).isSome = true ∨ gatewayHeadLimit < received.length

def Reachable (answer : GatewayAnswer) : Prop :=
  answer.opens = true ∧ answer.takes = true ∧ Answered answer.chunks.flatten

/-- Behind the bytes read so far, the first chunks that answer bring a head with a status from 200
to 299. -/
def AcceptsAfter (head : List UInt8) (chunks : List (List UInt8)) : Prop :=
  ∃ n, (findHeadEnd (head ++ (chunks.take n).flatten)).isSome = true ∧
    proxyConnectSucceeded (head ++ (chunks.take n).flatten) = some true ∧
    ∀ m < n, ¬Answered (head ++ (chunks.take m).flatten)

def Accepts (answer : GatewayAnswer) : Prop :=
  answer.opens = true ∧ answer.takes = true ∧ AcceptsAfter [] answer.chunks

section Answer

variable {ending : GatewayEnding} {head chunk : List UInt8} {chunks : List (List UInt8)}

private theorem not_answered (missing : findHeadEnd head = none)
    (short : ¬gatewayHeadLimit < head.length) : ¬Answered head := by
  rintro (complete | long)
  · rw [missing] at complete
    cases complete
  · exact short long

private theorem nothing_answered : ¬Answered [] := not_answered rfl (Nat.not_lt_zero _)

theorem take_zero_flatten (head : List UInt8) (chunks : List (List UInt8)) :
    head ++ (chunks.take 0).flatten = head := by
  rw [List.take_zero, List.flatten_nil, List.append_nil]

theorem take_succ_flatten (head chunk : List UInt8) (chunks : List (List UInt8)) (n : Nat) :
    head ++ ((chunk :: chunks).take (n + 1)).flatten =
      (head ++ chunk) ++ (chunks.take n).flatten := by
  rw [List.take_succ_cons, List.flatten_cons, List.append_assoc]

private theorem acceptsAfter_nil (waiting : ¬Answered head) : ¬AcceptsAfter head [] := by
  rintro ⟨n, found, _⟩
  rw [List.take_nil, List.flatten_nil, List.append_nil] at found
  exact waiting (Or.inl found)

private theorem acceptsAfter_cons (waiting : ¬Answered head) :
    AcceptsAfter head (chunk :: chunks) ↔ AcceptsAfter (head ++ chunk) chunks := by
  constructor
  · rintro ⟨n, found, succeeded, first⟩
    cases n with
    | zero =>
        rw [take_zero_flatten] at found
        exact absurd (Or.inl found) waiting
    | succ n =>
        rw [take_succ_flatten] at found succeeded
        refine ⟨n, found, succeeded, fun m before => ?_⟩
        rw [← take_succ_flatten]
        exact first (m + 1) (by omega)
  · rintro ⟨n, found, succeeded, first⟩
    rw [← take_succ_flatten] at found succeeded
    refine ⟨n + 1, found, succeeded, fun m before => ?_⟩
    cases m with
    | zero =>
        rw [take_zero_flatten]
        exact waiting
    | succ m =>
        rw [take_succ_flatten]
        exact first m (by omega)

private theorem acceptsAfter_answered (answered : Answered head) :
    AcceptsAfter head chunks ↔
      (findHeadEnd head).isSome = true ∧ proxyConnectSucceeded head = some true := by
  constructor
  · rintro ⟨n, found, succeeded, first⟩
    cases n with
    | zero =>
        rw [take_zero_flatten] at found succeeded
        exact ⟨found, succeeded⟩
    | succ n =>
        have waits := first 0 (Nat.succ_pos n)
        rw [take_zero_flatten] at waits
        exact absurd answered waits
  · rintro ⟨found, succeeded⟩
    refine ⟨0, ?_, ?_, fun m before => absurd before (Nat.not_lt_zero m)⟩
    · rw [take_zero_flatten]
      exact found
    · rw [take_zero_flatten]
      exact succeeded

/-- The loop ends well exactly when the first chunks that answer say yes. -/
private theorem awaitAnswer_ok_iff (waiting : ¬Answered head) :
    (∃ result, awaitAnswer ending head chunks = .ok result) ↔ AcceptsAfter head chunks := by
  induction chunks generalizing head with
  | nil =>
      refine iff_of_false ?_ (acceptsAfter_nil waiting)
      rintro ⟨result, same⟩
      cases ending <;> cases same
  | cons chunk chunks ih =>
      rw [acceptsAfter_cons waiting]
      cases found : findHeadEnd (head ++ chunk) with
      | some mark =>
          have complete : (findHeadEnd (head ++ chunk)).isSome = true := by
            rw [found]
            rfl
          rw [acceptsAfter_answered (Or.inl complete)]
          simp only [awaitAnswer, found]
          cases status : proxyConnectSucceeded (head ++ chunk) with
          | none => simp only [reduceCtorEq, exists_false, and_false]
          | some accepted =>
              cases accepted with
              | false => simp only [reduceCtorEq, exists_false, Option.some.injEq, and_false]
              | true => simp only [Except.ok.injEq, exists_eq', Option.isSome_some, and_self]
      | none =>
          simp only [awaitAnswer, found]
          by_cases long : gatewayHeadLimit < (head ++ chunk).length
          · rw [if_pos long, acceptsAfter_answered (Or.inr long), found]
            simp only [reduceCtorEq, exists_false, Option.isSome_none, Bool.false_eq_true, false_and]
          · rw [if_neg long]
            exact ih (not_answered found long)

theorem openThroughGateway_ok_iff (answer : GatewayAnswer) :
    (∃ result, openThroughGateway answer = .ok result) ↔ Accepts answer := by
  rw [openThroughGateway, Accepts]
  cases answer.opens with
  | false => simp only [Bool.false_eq_true, if_false, reduceCtorEq, exists_false, false_and]
  | true =>
      cases answer.takes with
      | false =>
          simp only [Bool.false_eq_true, if_true, if_false, reduceCtorEq, exists_false, false_and,
            and_false]
      | true =>
          simp only [if_true, true_and]
          exact awaitAnswer_ok_iff nothing_answered

end Answer

section Unreachable

variable {ending : GatewayEnding} {head : List UInt8} {chunks : List (List UInt8)}
  {error : GatewayError}

/-- The errors of a gateway that has answered. -/
def GatewayError.FromAnswer : GatewayError → Prop
  | .malformed | .refused _ | .oversized => True
  | _ => False

private theorem answered_append {bytes : List UInt8} (answered : Answered bytes)
    (more : List UInt8) : Answered (bytes ++ more) := by
  rcases answered with found | long
  · left
    rw [findHeadEnd, Option.isSome_map, Option.isSome_iff_exists] at found ⊢
    obtain ⟨⟨before, after⟩, split⟩ := found
    exact ⟨_, Text.splitAround_append_right split more⟩
  · right
    rw [List.length_append]
    omega

private theorem awaitAnswer_error (waiting : ¬Answered head)
    (failed : awaitAnswer ending head chunks = .error error) :
    Answered (head ++ chunks.flatten) ↔ error.FromAnswer := by
  induction chunks generalizing head with
  | nil =>
      rw [List.flatten_nil, List.append_nil]
      refine iff_of_false waiting ?_
      cases ending <;> cases failed <;> exact id
  | cons chunk chunks ih =>
      rw [List.flatten_cons, ← List.append_assoc]
      cases found : findHeadEnd (head ++ chunk) with
      | some mark =>
          have complete : Answered (head ++ chunk) := by
            left
            rw [found]
            rfl
          refine iff_of_true (answered_append complete _) ?_
          simp only [awaitAnswer, found] at failed
          split at failed <;> cases failed <;> trivial
      | none =>
          simp only [awaitAnswer, found] at failed
          by_cases long : gatewayHeadLimit < (head ++ chunk).length
          · rw [if_pos long] at failed
            cases failed
            exact iff_of_true (answered_append (Or.inr long) _) trivial
          · rw [if_neg long] at failed
            exact ih (not_answered found long) failed

/-- A failure comes from the answer of the gateway exactly when it is reachable. -/
theorem openThroughGateway_error {answer : GatewayAnswer}
    (failed : openThroughGateway answer = .error error) : Reachable answer ↔ error.FromAnswer := by
  rw [openThroughGateway] at failed
  rw [Reachable]
  split at failed
  · rename_i opens
    split at failed
    · rename_i takes
      have loop := awaitAnswer_error nothing_answered failed
      rw [List.nil_append] at loop
      rw [opens, takes, ← loop]
      simp only [true_and]
    · rename_i notTaken
      cases failed
      exact iff_of_false (fun reachable => notTaken reachable.2.1) id
  · rename_i notOpened
    cases failed
    exact iff_of_false (fun reachable => notOpened reachable.1) id

/-- An empty head. -/
theorem openThroughGateway_error_blank :
    Reachable ⟨true, true, [[13, 10, 13, 10]], .closed⟩ ↔ GatewayError.malformed.FromAnswer :=
  openThroughGateway_error (by decide)

end Unreachable

section Refusal

variable {network : Network} {gateway : Gateway} {target : Target} {port : UInt16}
  {proxy : SocketAddr}

private theorem openTunneled_kept_iff (via : viaGateway gateway port = some proxy) :
    (openTunneled network gateway target port).Kept ↔
      Accepts (network.answer proxy (buildProxyConnect (authorityOf target) port)) := by
  have configured : gatewayProxy gateway = some proxy := (Option.filter_eq_some_iff.mp via).1
  have retired : gatewayProxy (retireGateway gateway) = none := rfl
  rw [← openThroughGateway_ok_iff]
  unfold openTunneled
  simp only [via]
  cases openThroughGateway
    (network.answer proxy (buildProxyConnect (authorityOf target) port)) with
  | ok result =>
      refine iff_of_true ⟨?_, fun now => rfl⟩ ⟨result, rfl⟩
      intro dst member
      cases List.mem_singleton.mp member
  | error failure =>
      refine iff_of_false ?_ ?_
      · rintro ⟨_, same⟩
        have unchanged := same gateway
        rw [Opening.settle, if_pos rfl, retired, configured] at unchanged
        cases unchanged
      · rintro ⟨result, same⟩
        cases same

private theorem handleConnect_proxy (network : Network) (gateway : Gateway) (target : Target)
    (port : UInt16) :
    (handleConnect network gateway .proxy target port).1 =
      openTunneled network gateway target port := by
  simp only [handleConnect]
  split <;> rfl

/-- A reachable gateway is neither passed by nor given up exactly when it accepts. -/
theorem gateway_kept_iff (network : Network) (gateway : Gateway) (caller : Caller)
    (target : Target) (port : UInt16) :
    (∀ proxy, caller.gateway gateway port = some proxy →
        Reachable (network.answer proxy (buildProxyConnect (authorityOf target) port)) →
        (caller.opening network gateway target port).Kept) ↔
      ∀ proxy, caller.gateway gateway port = some proxy →
        Reachable (network.answer proxy (buildProxyConnect (authorityOf target) port)) →
        Accepts (network.answer proxy (buildProxyConnect (authorityOf target) port)) := by
  have each {proxy : SocketAddr} (through : caller.gateway gateway port = some proxy) :
      (caller.opening network gateway target port).Kept ↔
        Accepts (network.answer proxy (buildProxyConnect (authorityOf target) port)) := by
    cases caller with
    | socks action =>
        cases action with
        | proxy =>
            rw [Caller.opening, handleConnect_proxy]
            exact openTunneled_kept_iff through
        | direct => cases through
        | block => cases through
    | http => exact openTunneled_kept_iff through
  constructor
  · intro kept proxy through reachable
    exact (each through).mp (kept proxy through reachable)
  · intro accepted proxy through reachable
    exact (each through).mpr (accepted proxy through reachable)

/-- `HTTP/1.1 403 Forbidden` -/
def forbidden : List UInt8 :=
  [72, 84, 84, 80, 47, 49, 46, 49, 32, 52, 48, 51, 32, 70, 111, 114, 98, 105, 100, 100, 101, 110,
    13, 10, 13, 10]

def forbidding : Network where
  answer _ _ := { opens := true, takes := true, chunks := [forbidden], ending := .silent }
  dns _ := none
  opens _ := true
  connects _ _ := true

/-- A target that the gateway forbids is dialed straight, and the gateway is given up. -/
theorem forbidden_dialed_straight :
    ¬∀ (network : Network) (gateway : Gateway) (caller : Caller) (target : Target) (port : UInt16)
      (proxy : SocketAddr), caller.gateway gateway port = some proxy →
      Reachable (network.answer proxy (buildProxyConnect (authorityOf target) port)) →
      (caller.opening network gateway target port).Kept := by
  intro claim
  have reachable : Reachable ⟨true, true, [forbidden], .silent⟩ := ⟨rfl, rfl, Or.inl (by decide)⟩
  have kept := claim forbidding ⟨some ⟨.v4 ⟨10, 0, 0, 1⟩, 8080⟩, true⟩ (.socks .proxy)
    (.ip (.v4 ⟨1, 2, 3, 4⟩)) 443 _ rfl reachable
  have straight : Dial.straight ⟨.v4 ⟨1, 2, 3, 4⟩, 443⟩ ∈
      ((Caller.socks .proxy).opening forbidding ⟨some ⟨.v4 ⟨10, 0, 0, 1⟩, 8080⟩, true⟩
        (.ip (.v4 ⟨1, 2, 3, 4⟩)) 443).dials := by
    decide
  exact kept.1 _ straight

end Refusal

end MolidoVpn.Socks
