import MolidoVpn.Socks.Http

/-!
One destination, an address and a port, under the names that the entry points
of the proxy take it by. An address inside a domain name stays a name for the
rules; everywhere else it is an address.
-/

namespace MolidoVpn.Socks

open IpText (parseIpAddr)
open Routing (Action Host Matcher RuleSet eqIgnoreAsciiCase)
open Text (decimal firstLine Solid)
open Utf8 (encode fromUtf8Lossy)

/-- What reaches an entry point: the bytes behind the type of a CONNECT, a datagram of an
association, the head of an HTTP request. -/
inductive ClientRequest where
  | connect (atyp : UInt8) (bytes : List UInt8)
  | datagram (bytes : List UInt8)
  | http (head : List UInt8)

/-- Destination and port, as the entry point reads them. -/
def ClientRequest.destination : ClientRequest → Option (Target × UInt16)
  | .connect atyp bytes => (readTarget atyp bytes).map Prod.fst
  | .datagram bytes => (parseUdpRequest bytes).map fun (target, port, _) => (target, port)
  | .http head =>
      (parseRequestLine (firstLine (fromUtf8Lossy head))).map fun request =>
        (httpTarget request, request.port)

/-- `route_action(host_of(&target), port)`, where the request can be read. -/
def ClientRequest.route (toLowercase : List Char → List Char) (rules : RuleSet)
    (request : ClientRequest) : Option Action :=
  request.destination.map fun (target, port) => rules.decide toLowercase (hostOf target) port

/-- An IPv6 literal stands in brackets. -/
def bracket (text : List Char) : IpAddr → List Char
  | .v4 _ => text
  | .v6 _ => '[' :: text ++ [']']

inductive AuthorityOf (ip : IpAddr) (text : List Char) (port defaultPort : UInt16) :
    List Char → Prop where
  | withPort : AuthorityOf ip text port defaultPort (bracket text ip ++ ':' :: decimal port.toNat)
  | noPort (same : port = defaultPort) : AuthorityOf ip text port defaultPort (bracket text ip)
  | unbracketed (same : port = defaultPort) : AuthorityOf ip text port defaultPort text

/-- The requests that name an address by its bytes or by a literal. -/
inductive Names (ip : IpAddr) (text : List Char) (port : UInt16) : ClientRequest → Prop where
  | connectIp (rest : List UInt8) :
      Names ip text port
        (.connect (ipBytes ip).1 ((ipBytes ip).2 ++ (portBytes port ++ rest)))
  | connectDomain (rest : List UInt8) :
      Names ip text port
        (.connect atypDomain
          (UInt8.ofNat (encode text).length :: (encode text ++ (portBytes port ++ rest))))
  | datagramIp (first second : UInt8) (payload : List UInt8) :
      Names ip text port
        (.datagram (first :: second :: 0 :: (ipBytes ip).1 ::
          ((ipBytes ip).2 ++ (portBytes port ++ payload))))
  | datagramDomain (first second : UInt8) (payload : List UInt8) :
      Names ip text port
        (.datagram (first :: second :: 0 :: atypDomain :: UInt8.ofNat (encode text).length ::
          (encode text ++ (portBytes port ++ payload))))
  | httpConnect {authority : List Char} (spelled : AuthorityOf ip text port 443 authority)
      (rest : List Char) :
      Names ip text port
        (.http (encode ("CONNECT ".toList ++ authority ++ " HTTP/1.1".toList ++ crlf ++ rest)))
  | httpAbsolute {method authority path version : List Char} (solidMethod : Solid method)
      (nonempty : method ≠ []) (other : eqIgnoreAsciiCase method "CONNECT".toList = false)
      (spelled : AuthorityOf ip text port 80 authority) (solidPath : Solid path)
      (solidVersion : Solid version) (versioned : version ≠ []) (rest : List Char) :
      Names ip text port
        (.http (encode (method ++ ' ' :: ("http://".toList ++ authority ++ '/' :: path) ++
          ' ' :: version ++ crlf ++ rest)))

section Literal

variable {ip : IpAddr} {text : List Char} {port defaultPort : UInt16}

private theorem literal_clear (literal : parseIpAddr text = some ip) {c : Char}
    (other : ¬IpText.IpChar c) : c ∉ text :=
  fun member => other ((IpText.parseIpAddr_chars literal).ipChar c member)

private theorem literal_solid (literal : parseIpAddr text = some ip) : Solid text :=
  IpText.solid_of_ipChar (IpText.parseIpAddr_chars literal).ipChar

private theorem literal_unbracketed (literal : parseIpAddr text = some ip) :
    text.head? ≠ some '[' :=
  fun bracketed => literal_clear literal (by decide) (List.mem_of_head? bracketed)

/-- However an authority spells a literal, it is read as the literal and the port. -/
theorem parseAuthority_literal (literal : parseIpAddr text = some ip) {authority : List Char}
    (spelled : AuthorityOf ip text port defaultPort authority) :
    parseAuthority authority defaultPort = some (text, port) := by
  have solid := literal_solid literal
  have nonempty := IpText.parseIpAddr_ne_nil literal
  have closing : ']' ∉ text := literal_clear literal (by decide)
  have first := literal_unbracketed literal
  have chars := IpText.parseIpAddr_chars literal
  have bare : parseAuthority text defaultPort = some (text, defaultPort) := by
    apply parseAuthority_bare solid nonempty _ first
    cases ip with
    | v4 addr =>
        left
        intro member
        exact absurd (chars ':' member) (by decide)
    | v6 addr => exact Or.inr chars.2
  cases spelled with
  | withPort =>
      cases ip with
      | v4 addr =>
          have colon : ':' ∉ text := fun member => absurd (chars ':' member) (by decide)
          exact parseAuthority_plain solid nonempty colon first port defaultPort
      | v6 addr => exact parseAuthority_bracketed solid nonempty closing port defaultPort
  | noPort same =>
      rw [same]
      cases ip with
      | v4 addr => exact bare
      | v6 addr => exact parseAuthority_bracketed_bare solid nonempty closing defaultPort
  | unbracketed same =>
      rw [same]
      exact bare

private theorem authority_chars (literal : parseIpAddr text = some ip) {authority : List Char}
    (spelled : AuthorityOf ip text port defaultPort authority) :
    Solid authority ∧ authority ≠ [] ∧ '/' ∉ authority := by
  have solid := literal_solid literal
  have nonempty := IpText.parseIpAddr_ne_nil literal
  have slash : '/' ∉ text := literal_clear literal (by decide)
  have bracketed : Solid (bracket text ip) ∧ bracket text ip ≠ [] ∧ '/' ∉ bracket text ip := by
    cases ip with
    | v4 addr => exact ⟨solid, nonempty, slash⟩
    | v6 addr =>
        refine ⟨bracketed_solid solid, List.cons_ne_nil _ _, ?_⟩
        simp only [bracket, List.cons_append, List.mem_cons, List.mem_append, List.not_mem_nil,
          or_false]
        rintro (impossible | member | impossible)
        · exact absurd impossible (by decide)
        · exact slash member
        · exact absurd impossible (by decide)
  cases spelled with
  | withPort =>
      refine ⟨withPort_solid bracketed.1 port,
        List.append_ne_nil_of_left_ne_nil bracketed.2.1 _, ?_⟩
      intro member
      rcases List.mem_append.mp member with early | late
      · exact bracketed.2.2 early
      · rcases List.mem_cons.mp late with impossible | digit
        · exact absurd impossible (by decide)
        · exact Text.not_mem_decimal (by decide) _ digit
  | noPort same => exact bracketed
  | unbracketed same => exact ⟨solid, nonempty, slash⟩

private theorem encoded_fits (literal : parseIpAddr text = some ip) :
    (encode text).length < 256 := by
  have ascii : ∀ c ∈ text, c.toNat < 128 := fun c member =>
    IpText.ascii_of_ipChar ((IpText.parseIpAddr_chars literal).ipChar c member)
  rw [Utf8.encode_ascii ascii, List.length_map]
  exact IpText.parseIpAddr_length literal

private theorem http_destination {line rest : List Char} (clear : '\n' ∉ line)
    {request : HttpRequestLine} (parsed : parseRequestLine line = some request) :
    (ClientRequest.http (encode (line ++ crlf ++ rest))).destination =
      some (httpTarget request, request.port) := by
  have whole : line ++ crlf ++ rest = line ++ '\r' :: '\n' :: rest := by
    rw [List.append_assoc]
    rfl
  rw [ClientRequest.destination, Utf8.fromUtf8Lossy_encode, whole, Text.firstLine_crlf clear, parsed,
    Option.map_some]

private theorem connectDomain_destination (literal : parseIpAddr text = some ip)
    (rest : List UInt8) :
    readTarget atypDomain
        (UInt8.ofNat (encode text).length :: (encode text ++ (portBytes port ++ rest))) =
      some ((.domain text, port), rest) := by
  rw [readTarget_domain (encoded_fits literal), Utf8.fromUtf8Lossy_encode]

/-- The rules see the address, or its text as a name. -/
private theorem names_destination (literal : parseIpAddr text = some ip) {request : ClientRequest}
    (named : Names ip text port request) :
    request.destination = some (.ip ip, port) ∨ request.destination = some (.domain text, port) := by
  have target {method : List Char} {rewritten : Option (List Char)} :
      httpTarget ⟨method, text, port, rewritten⟩ = .ip ip := by
    rw [httpTarget, literal]
  cases named with
  | connectIp rest =>
      left
      rw [ClientRequest.destination, readTarget_ip]
      rfl
  | connectDomain rest =>
      right
      rw [ClientRequest.destination, connectDomain_destination literal]
      rfl
  | datagramIp first second payload =>
      left
      rw [ClientRequest.destination, parseUdpRequest, if_neg (not_not.mpr rfl), readTarget_ip]
      rfl
  | datagramDomain first second payload =>
      right
      rw [ClientRequest.destination, parseUdpRequest, if_neg (not_not.mpr rfl),
        connectDomain_destination literal]
      rfl
  | httpConnect spelled rest =>
      left
      obtain ⟨solid, nonempty, _⟩ := authority_chars literal spelled
      have clear {authority : List Char} (solid : Solid authority) :
          '\n' ∉ "CONNECT ".toList ++ authority ++ " HTTP/1.1".toList := by
        intro member
        simp only [List.mem_append] at member
        rcases member with (early | inside) | late
        · exact absurd early (by decide)
        · exact solid.not_mem rfl inside
        · exact absurd late (by decide)
      have parsed := parseRequestLine_connect solid nonempty
      rw [parseAuthority_literal literal spelled, Option.map_some] at parsed
      rw [http_destination (clear solid) parsed, target]
  | httpAbsolute solidMethod nonempty other spelled solidPath solidVersion versioned rest =>
      left
      obtain ⟨solid, _, slash⟩ := authority_chars literal spelled
      have parsed := parseRequestLine_absolute solidMethod nonempty other solid slash solidPath
        solidVersion versioned
      rw [parseAuthority_literal literal spelled, Option.map_some] at parsed
      rw [http_destination ?_ parsed, target]
      intro member
      simp only [List.mem_append, List.mem_cons] at member
      rcases member with (early | impossible | (scheme | inside) | impossible | inPath) |
        impossible | late
      · exact solidMethod.not_mem rfl early
      · exact absurd impossible (by decide)
      · exact absurd scheme (by decide)
      · exact solid.not_mem rfl inside
      · exact absurd impossible (by decide)
      · exact solidPath.not_mem rfl inPath
      · exact absurd impossible (by decide)
      · exact solidVersion.not_mem rfl late

end Literal

section Agreement

/-- The kinds of matchers: by the port, by the address, by the name. -/
def byPort (port : UInt16) : Matcher → Bool
  | .ports lo hi => lo ≤ port && port ≤ hi
  | _ => false

def byAddress (ip : IpAddr) : Matcher → Bool
  | .isPrivate => Routing.isPrivate ip
  | .net network => network.contains ip
  | _ => false

def byName (toLowercase : List Char → List Char) (name : List Char) : Matcher → Bool
  | .ports _ _ => false
  | .isPrivate => false
  | rule => rule.matches toLowercase (.domain name) 0

variable {toLowercase : List Char → List Char} {rules : RuleSet} {ip : IpAddr} {text : List Char}
  {port : UInt16}

/-- A port rule covers the port, or the address and the text of the literal meet rules alike. -/
def AgreeOn (toLowercase : List Char → List Char) (ip : IpAddr) (text : List Char) (port : UInt16)
    (list : List Matcher) : Prop :=
  list.any (byPort port) = true ∨ list.any (byAddress ip) = list.any (byName toLowercase text)

/-- The direct list counts when the block list does not match. -/
def Agree (toLowercase : List Char → List Char) (rules : RuleSet) (ip : IpAddr) (text : List Char)
    (port : UInt16) : Prop :=
  AgreeOn toLowercase ip text port rules.block ∧
    (rules.block.any (byPort port) = false → rules.block.any (byAddress ip) = false →
      AgreeOn toLowercase ip text port rules.direct)

/-- No character of a literal is an `l`. -/
private theorem not_localhost (literal : parseIpAddr text = some ip) :
    eqIgnoreAsciiCase text "localhost".toList = false := by
  cases text with
  | nil => rfl
  | cons c text =>
      have lower : ∀ code < 128, IpText.IpChar (Char.ofNat code) →
          (Char.ofNat code).toLower ≠ 'l' := by decide
      have char := (IpText.parseIpAddr_chars literal).ipChar c List.mem_cons_self
      have small := IpText.ascii_of_ipChar char
      have first : c.toLower ≠ 'l' := by
        have checked := lower c.toNat small
        rw [Char.ofNat_toNat] at checked
        exact checked char
      rw [eqIgnoreAsciiCase, beq_eq_false_iff_ne]
      intro same
      exact first (List.cons.inj same).1

private theorem matches_ip (rule : Matcher) :
    rule.matches toLowercase (.ip ip) port = (byPort port rule || byAddress ip rule) := by
  cases rule with
  | ports lo hi => exact (Bool.or_false _).symm
  | _ => rfl

private theorem matches_domain (literal : parseIpAddr text = some ip) (rule : Matcher) :
    rule.matches toLowercase (.domain text) port =
      (byPort port rule || byName toLowercase text rule) := by
  cases rule with
  | ports lo hi => exact (Bool.or_false _).symm
  | isPrivate =>
      exact not_localhost literal
  | _ => rfl

private theorem any_or {Element : Type} (list : List Element) (first second : Element → Bool) :
    (list.any fun element => first element || second element) =
      (list.any first || list.any second) := by
  induction list with
  | nil => rfl
  | cons head tail ih =>
      simp only [List.any_cons, ih]
      cases first head <;> cases second head <;> cases tail.any first <;> rfl

private theorem any_ip (list : List Matcher) :
    list.any (Matcher.matches toLowercase (.ip ip) port) =
      (list.any (byPort port) || list.any (byAddress ip)) := by
  rw [← any_or]
  exact congrArg list.any (funext fun rule => matches_ip rule)

private theorem any_domain (literal : parseIpAddr text = some ip) (list : List Matcher) :
    list.any (Matcher.matches toLowercase (.domain text) port) =
      (list.any (byPort port) || list.any (byName toLowercase text)) := by
  rw [← any_or]
  exact congrArg list.any (funext fun rule => matches_domain literal rule)

/-- Address and text are decided alike exactly when the lists agree. -/
theorem decide_literal_iff (literal : parseIpAddr text = some ip) :
    rules.decide toLowercase (.ip ip) port = rules.decide toLowercase (.domain text) port ↔
      Agree toLowercase rules ip text port := by
  unfold RuleSet.decide Agree AgreeOn
  rw [any_ip, any_ip, any_domain literal, any_domain literal]
  generalize rules.block.any (byPort port) = blockPort
  generalize rules.block.any (byAddress ip) = blockAddress
  generalize rules.block.any (byName toLowercase text) = blockName
  generalize rules.direct.any (byPort port) = directPort
  generalize rules.direct.any (byAddress ip) = directAddress
  generalize rules.direct.any (byName toLowercase text) = directName
  revert blockPort blockAddress blockName directPort directAddress directName
  decide

/-- Every way to name an address gets the same decision exactly when the rules that see the
address and those that see the text of its literal agree. -/
theorem literal_routed_alike (toLowercase : List Char → List Char) (rules : RuleSet)
    (literal : parseIpAddr text = some ip) (port : UInt16) :
    (∀ request other, Names ip text port request → Names ip text port other →
        request.route toLowercase rules = other.route toLowercase rules) ↔
      Agree toLowercase rules ip text port := by
  rw [← decide_literal_iff literal]
  constructor
  · intro alike
    have same := alike _ _ (Names.connectIp []) (Names.connectDomain [])
    rw [ClientRequest.route, ClientRequest.route, ClientRequest.destination,
      ClientRequest.destination, readTarget_ip, connectDomain_destination literal] at same
    exact Option.some.inj same
  · intro same request other named namedOther
    have routed {request : ClientRequest} (named : Names ip text port request) :
        request.route toLowercase rules =
          some (rules.decide toLowercase (.domain text) port) := by
      rw [ClientRequest.route]
      rcases names_destination literal named with address | name
      · rw [address, ← same]
        rfl
      · rw [name]
        rfl
    rw [routed named, routed namedOther]

def loopbackLiteral : List Char := "127.0.0.1".toList

/-- A private rule and a name rule for the loopback address block it under both names. -/
theorem loopback_routed_alike :
    (ClientRequest.connect 1 [127, 0, 0, 1, 1, 187]).route (List.map Char.toLower)
        ⟨[.isPrivate, .domainFull loopbackLiteral], []⟩ =
      (ClientRequest.connect 3 [9, 49, 50, 55, 46, 48, 46, 48, 46, 49, 1, 187]).route
        (List.map Char.toLower) ⟨[.isPrivate, .domainFull loopbackLiteral], []⟩ := by
  have literal : parseIpAddr loopbackLiteral = some (.v4 ⟨127, 0, 0, 1⟩) := by decide
  have agree : Agree (List.map Char.toLower) ⟨[.isPrivate, .domainFull loopbackLiteral], []⟩
      (.v4 ⟨127, 0, 0, 1⟩) loopbackLiteral 443 :=
    ⟨Or.inr (by decide), fun _ _ => Or.inr rfl⟩
  have alike := (literal_routed_alike (List.map Char.toLower)
    ⟨[.isPrivate, .domainFull loopbackLiteral], []⟩ literal 443).mpr agree
  exact alike _ _ (.connectIp []) (.connectDomain [])

/-- A blocked network is reached by sending the address as a domain. -/
theorem blocked_network_by_name :
    ¬∀ (toLowercase : List Char → List Char) (rules : RuleSet) (ip : IpAddr) (text : List Char)
      (port : UInt16) (request other : ClientRequest), parseIpAddr text = some ip →
      Names ip text port request → Names ip text port other →
      request.route toLowercase rules = other.route toLowercase rules := by
  intro claim
  have literal : parseIpAddr "10.1.2.3".toList = some (.v4 ⟨10, 1, 2, 3⟩) := by decide
  have same := claim (List.map Char.toLower) ⟨[.net ⟨.v4 ⟨10, 0, 0, 0⟩, 8⟩], []⟩ _ _ 443 _ _ literal
    (.connectIp []) (.connectDomain [])
  exact absurd same (by decide)

end Agreement

end MolidoVpn.Socks
