import MolidoVpn.Socks.Http

/-!
The CONNECT that is sent to the gateway for a SOCKS5 target. The name in it is
whatever the client sent, so the head is the right one only for some names.
-/

namespace MolidoVpn.Socks

open IpText (display)
open Routing (eqIgnoreAsciiCase)
open Text (splitAround decimal firstLine Solid)
open Utf8 (encode fromUtf8Lossy)

def uaRegister : List Char := "WARP for Android".toList

/-- The authority of the CONNECT. -/
def connectAuthority (target : List Char) (port : UInt16) : List Char :=
  if ':' ∈ target ∧ target.head? ≠ some '[' then
    ('[' :: target ++ [']']) ++ ':' :: decimal port.toNat
  else target ++ ':' :: decimal port.toNat

def connectLine (authority : List Char) : List Char :=
  "CONNECT ".toList ++ authority ++ " HTTP/1.1".toList

def hostLine (authority : List Char) : List Char := "Host: ".toList ++ authority

def agentLine : List Char := "User-Agent: ".toList ++ uaRegister

def buildProxyConnect (target : List Char) (port : UInt16) : List UInt8 :=
  let authority := connectAuthority target port
  encode (connectLine authority ++ crlf ++ (hostLine authority ++ crlf ++
    (agentLine ++ crlf ++ crlf)))

/-- The text of a target, as `handle_connect` and `open_tunneled` give it to the gateway. -/
def authorityOf : Target → List Char
  | .domain name => name
  | .ip ip => display ip

/-- The host that the client asked for: the bytes of a domain as they were sent. -/
def requestedHost (sent : List UInt8) : Target → List UInt8
  | .ip ip => encode (display ip)
  | .domain _ => (sent.drop 1).take (sent.headD 0).toNat

/-- One head of a request line and two header lines, and the line asks for this host and port. -/
structure OneHead (bytes host : List UInt8) (port : UInt16) : Prop where
  whole : findHeadEnd bytes = some bytes.length
  lines : bytes.count 13 = 4 ∧ bytes.count 10 = 4
  request : ∃ request, parseRequestLine (firstLine (fromUtf8Lossy bytes)) = some request ∧
    eqIgnoreAsciiCase request.method "CONNECT".toList = true ∧
    encode request.authority = host ∧ request.port = port

/-- A name that can stand in the authority of a request line. -/
structure PlainName (name : List Char) : Prop where
  nonempty : name ≠ []
  solid : Solid name
  unbracketed : name.head? ≠ some '['
  closed : ':' ∈ name → ']' ∉ name

/-- The bytes encode such a name. -/
def PlainHost (host : List UInt8) : Prop := ∃ name, encode name = host ∧ PlainName name

section Parsing

variable {raw rest host : List Char} {port defaultPort : UInt16}

private theorem parseAuthority_ne_nil (parsed : parseAuthority raw defaultPort = some (host, port)) :
    host ≠ [] := by
  unfold parseAuthority at parsed
  simp only at parsed
  split at parsed
  · cases parsed
  · rename_i nonempty
    split at parsed
    · split at parsed
      · cases parsed
      · split at parsed
        · cases parsed
        · rename_i present
          split at parsed
          · rw [Option.map_eq_some_iff] at parsed
            obtain ⟨_, _, same⟩ := parsed
            cases same
            exact present
          · cases parsed
            exact present
    · split at parsed
      · split at parsed
        · cases parsed
          exact nonempty
        · split at parsed
          · cases parsed
          · rename_i present
            rw [Option.map_eq_some_iff] at parsed
            obtain ⟨_, _, same⟩ := parsed
            cases same
            exact present
      · cases parsed
        exact nonempty

/-- Behind an opening bracket the host ends at the first closing one. -/
private theorem parseAuthority_opening (solid : Solid ('[' :: rest))
    (parsed : parseAuthority ('[' :: rest) defaultPort = some (host, port)) :
    ']' ∉ host ∧ ∃ tail, rest = host ++ ']' :: tail := by
  have opening : Text.stripPrefix ['['] ('[' :: rest) = some rest :=
    Text.stripPrefix_append ['['] rest
  rw [parseAuthority, Text.trim_of_solid solid, if_neg (List.cons_ne_nil _ _), opening] at parsed
  simp only at parsed
  cases split : splitAround [']'] rest with
  | none =>
      rw [split] at parsed
      cases parsed
  | some parts =>
      obtain ⟨before, tail⟩ := parts
      have same : before = host := by
        rw [split] at parsed
        simp only at parsed
        split at parsed
        · cases parsed
        · split at parsed
          · rw [Option.map_eq_some_iff] at parsed
            obtain ⟨_, _, same⟩ := parsed
            exact congrArg Prod.fst same
          · exact congrArg Prod.fst (Option.some.inj parsed)
      rw [← same]
      exact ⟨Text.splitAround_clear split, tail, Text.splitAround_eq_append split⟩

private theorem parseAuthority_solid (solid : Solid raw)
    (parsed : parseAuthority raw defaultPort = some (host, port)) : Solid host := by
  have part {before after : List Char} (whole : raw = before ++ after) : Solid before := by
    intro c member
    apply solid c
    rw [whole]
    exact List.mem_append_left after member
  cases raw with
  | nil => cases parsed
  | cons c raw =>
      by_cases bracketed : c = '['
      · subst bracketed
        obtain ⟨_, tail, whole⟩ := parseAuthority_opening solid parsed
        intro d member
        apply solid d
        rw [whole]
        exact List.mem_cons_of_mem _ (List.mem_append_left _ member)
      · have first : (c :: raw).head? ≠ some '[' := fun same => bracketed (Option.some.inj same)
        rw [parseAuthority, Text.trim_of_solid solid, if_neg (List.cons_ne_nil _ _),
          Text.stripPrefix_eq_none first] at parsed
        simp only at parsed
        cases split : Text.rsplitOnce ':' (c :: raw) with
        | none =>
            rw [split] at parsed
            cases parsed
            exact solid
        | some parts =>
            obtain ⟨before, after⟩ := parts
            have whole := Text.rsplitOnce_eq_append split
            rw [split] at parsed
            simp only at parsed
            split at parsed
            · cases parsed
              exact solid
            · split at parsed
              · cases parsed
              · rw [Option.map_eq_some_iff] at parsed
                obtain ⟨_, _, same⟩ := parsed
                cases same
                exact part whole

/-- No request line has white space in its authority. -/
theorem parseRequestLine_solid {line : List Char} {request : HttpRequestLine}
    (parsed : parseRequestLine line = some request) : Solid request.authority := by
  unfold parseRequestLine at parsed
  split at parsed
  case h_2 => cases parsed
  case h_1 method target parts tokens =>
      have solid : Solid target := by
        apply Text.solid_of_mem_words
        rw [tokens]
        exact List.mem_cons_of_mem _ List.mem_cons_self
      split at parsed
      · rw [Option.map_eq_some_iff] at parsed
        obtain ⟨⟨authority, port⟩, found, same⟩ := parsed
        cases same
        exact parseAuthority_solid solid found
      · cases stripped : stripScheme target with
        | none =>
            rw [stripped] at parsed
            cases parsed
        | some withoutScheme =>
            rw [stripped] at parsed
            simp only [Option.map_eq_some_iff] at parsed
            obtain ⟨⟨authority, port⟩, found, same⟩ := parsed
            cases same
            have behind : ∃ scheme, target = scheme ++ withoutScheme := by
              rw [stripScheme, Option.or_eq_some_iff] at stripped
              rcases stripped with lower | ⟨_, upper⟩
              · exact ⟨_, Text.stripPrefix_eq_append lower⟩
              · exact ⟨_, Text.stripPrefix_eq_append upper⟩
            obtain ⟨scheme, whole⟩ := behind
            have inside : ∀ c ∈ (splitPath withoutScheme).1, c ∈ withoutScheme := by
              intro c member
              rw [splitPath] at member
              split at member
              · rename_i split
                rw [Text.splitAround_eq_append split]
                exact List.mem_append_left _ member
              · exact member
            apply parseAuthority_solid _ found
            intro c member
            apply solid c
            rw [whole]
            exact List.mem_append_right scheme (inside c member)

end Parsing

section Head

variable {name : List Char} {port : UInt16}

private theorem connectAuthority_solid (solid : Solid name) (port : UInt16) :
    Solid (connectAuthority name port) := by
  rw [connectAuthority]
  split
  · exact withPort_solid (bracketed_solid solid) port
  · exact withPort_solid solid port

private theorem connectAuthority_ne_nil (name : List Char) (port : UInt16) :
    connectAuthority name port ≠ [] := by
  rw [connectAuthority]
  split
  · exact List.append_ne_nil_of_left_ne_nil (List.cons_ne_nil _ _) _
  · exact List.append_ne_nil_of_right_ne_nil _ (List.cons_ne_nil _ _)

private theorem line_clear {line : List Char} (clear : '\r' ∉ line ∧ '\n' ∉ line) :
    13 ∉ encode line ∧ 10 ∉ encode line := by
  constructor
  · intro member
    exact clear.1 (Utf8.mem_of_ascii member (by decide))
  · intro member
    exact clear.2 (Utf8.mem_of_ascii member (by decide))

private theorem solid_clear {text : List Char} (solid : Solid text) :
    '\r' ∉ text ∧ '\n' ∉ text :=
  ⟨solid.not_mem rfl, solid.not_mem rfl⟩

private theorem clear_append {text more : List Char} (clear : '\r' ∉ text ∧ '\n' ∉ text)
    (others : '\r' ∉ more ∧ '\n' ∉ more) : '\r' ∉ text ++ more ∧ '\n' ∉ text ++ more := by
  constructor
  · intro member
    exact (List.mem_append.mp member).elim clear.1 others.1
  · intro member
    exact (List.mem_append.mp member).elim clear.2 others.2

private theorem connectLine_clear {authority : List Char} (solid : Solid authority) :
    '\r' ∉ connectLine authority ∧ '\n' ∉ connectLine authority :=
  clear_append (clear_append (by decide) (solid_clear solid)) (by decide)

private theorem hostLine_clear {authority : List Char} (solid : Solid authority) :
    '\r' ∉ hostLine authority ∧ '\n' ∉ hostLine authority :=
  clear_append (by decide) (solid_clear solid)

private theorem agentLine_clear : '\r' ∉ agentLine ∧ '\n' ∉ agentLine := by decide

/-- A line that is followed by another one is not where the head ends. -/
private theorem headMark_after_line {line rest : List UInt8} {first : UInt8} (clear : 13 ∉ line)
    (other : first ≠ 13) :
    splitAround headMark (line ++ ([13, 10] ++ first :: rest)) =
      (splitAround headMark (first :: rest)).map fun (before, after) =>
        (line ++ ([13, 10] ++ before), after) := by
  have elsewhere : ¬headMark <+: 13 :: ([10] ++ first :: rest) := by
    rintro ⟨behind, same⟩
    simp only [headMark, List.cons_append, List.nil_append, List.cons.injEq] at same
    exact other same.2.2.1.symm
  have skipped : splitAround headMark ([10] ++ first :: rest) =
      (splitAround headMark (first :: rest)).map fun (before, after) => ([10] ++ before, after) :=
    Text.splitAround_append (by decide)
  have atLine : splitAround headMark (line ++ (13 :: ([10] ++ first :: rest))) =
      (splitAround headMark (13 :: ([10] ++ first :: rest))).map fun (before, after) =>
        (line ++ before, after) :=
    Text.splitAround_append clear
  change splitAround headMark (line ++ (13 :: ([10] ++ first :: rest))) = _
  rw [atLine, Text.splitAround_cons elsewhere, skipped, Option.map_map, Option.map_map]
  rfl

private theorem headMark_last {line : List UInt8} (clear : 13 ∉ line) :
    splitAround headMark (line ++ ([13, 10] ++ [13, 10])) = some (line, []) :=
  Text.splitAround_first clear []

private theorem buildProxyConnect_lines (name : List Char) (port : UInt16) :
    ∃ hostTail agentTail, encode (hostLine (connectAuthority name port)) = 72 :: hostTail ∧
      encode agentLine = 85 :: agentTail ∧
      buildProxyConnect name port =
        encode (connectLine (connectAuthority name port)) ++
          ([13, 10] ++ 72 :: (hostTail ++ ([13, 10] ++ 85 :: (agentTail ++
            ([13, 10] ++ [13, 10]))))) := by
  have hostFirst : encode (hostLine (connectAuthority name port)) =
      72 :: encode ("ost: ".toList ++ connectAuthority name port) := rfl
  have agentFirst : encode agentLine = 85 :: encode ("ser-Agent: ".toList ++ uaRegister) := rfl
  have mark : encode crlf = [13, 10] := rfl
  refine ⟨_, _, hostFirst, agentFirst, ?_⟩
  simp only [buildProxyConnect, Utf8.encode_append, mark, hostFirst, agentFirst,
    List.append_assoc, List.cons_append]

private theorem buildProxyConnect_whole (solid : Solid name) (port : UInt16) :
    findHeadEnd (buildProxyConnect name port) = some (buildProxyConnect name port).length := by
  have authority := connectAuthority_solid solid port
  have connectBytes := (line_clear (connectLine_clear authority)).1
  have hostBytes := (line_clear (hostLine_clear authority)).1
  have agentBytes := (line_clear agentLine_clear).1
  obtain ⟨hostTail, agentTail, hostFirst, agentFirst, bytes⟩ := buildProxyConnect_lines name port
  rw [hostFirst] at hostBytes
  rw [agentFirst] at agentBytes
  have atAgent : splitAround headMark (85 :: (agentTail ++ ([13, 10] ++ [13, 10]))) =
      some (85 :: agentTail, []) :=
    headMark_last agentBytes
  have atHost : splitAround headMark
      (72 :: (hostTail ++ ([13, 10] ++ 85 :: (agentTail ++ ([13, 10] ++ [13, 10]))))) =
      some (72 :: hostTail ++ ([13, 10] ++ 85 :: agentTail), []) := by
    have other : (85 : UInt8) ≠ 13 := by decide
    have later := @headMark_after_line _ (agentTail ++ ([13, 10] ++ [13, 10])) _ hostBytes other
    rw [atAgent] at later
    exact later
  rw [findHeadEnd, bytes, headMark_after_line connectBytes (by decide), atHost]
  simp only [Option.map_some, List.length_append, List.length_cons, List.length_nil,
    Option.some.injEq]
  omega

private theorem buildProxyConnect_count (solid : Solid name) (port : UInt16) :
    (buildProxyConnect name port).count 13 = 4 ∧ (buildProxyConnect name port).count 10 = 4 := by
  have authority := connectAuthority_solid solid port
  have connectBytes := line_clear (connectLine_clear authority)
  have hostBytes := line_clear (hostLine_clear authority)
  have agentBytes := line_clear agentLine_clear
  have mark : encode crlf = [13, 10] := rfl
  simp only [buildProxyConnect, Utf8.encode_append, mark, List.count_append,
    List.count_eq_zero.mpr connectBytes.1, List.count_eq_zero.mpr connectBytes.2,
    List.count_eq_zero.mpr hostBytes.1, List.count_eq_zero.mpr hostBytes.2,
    List.count_eq_zero.mpr agentBytes.1, List.count_eq_zero.mpr agentBytes.2]
  decide

/-- What the request line of the head is read as. -/
private theorem buildProxyConnect_request (solid : Solid name) (port : UInt16) :
    parseRequestLine (firstLine (fromUtf8Lossy (buildProxyConnect name port))) =
      (parseAuthority (connectAuthority name port) 443).map fun (authority, port) =>
        { method := "CONNECT".toList, authority := authority, port := port, rewritten := none } := by
  have authority := connectAuthority_solid solid port
  have line : connectLine (connectAuthority name port) ++ crlf ++
      (hostLine (connectAuthority name port) ++ crlf ++ (agentLine ++ crlf ++ crlf)) =
      connectLine (connectAuthority name port) ++ '\r' :: '\n' ::
        (hostLine (connectAuthority name port) ++ crlf ++ (agentLine ++ crlf ++ crlf)) := by
    rw [List.append_assoc (connectLine _)]
    rfl
  rw [buildProxyConnect, Utf8.fromUtf8Lossy_encode, line,
    Text.firstLine_crlf (connectLine_clear authority).2]
  exact parseRequestLine_connect authority (connectAuthority_ne_nil name port)

private theorem parse_connectAuthority (plain : PlainName name) (port : UInt16) :
    parseAuthority (connectAuthority name port) 443 = some (name, port) := by
  rw [connectAuthority]
  by_cases colon : ':' ∈ name
  · rw [if_pos ⟨colon, plain.unbracketed⟩]
    exact parseAuthority_bracketed plain.solid plain.nonempty (plain.closed colon) port 443
  · rw [if_neg (fun both => colon both.1)]
    exact parseAuthority_plain plain.solid plain.nonempty colon plain.unbracketed port 443

private theorem oneHead_of_plain (plain : PlainName name) (port : UInt16) :
    OneHead (buildProxyConnect name port) (encode name) port where
  whole := buildProxyConnect_whole plain.solid port
  lines := buildProxyConnect_count plain.solid port
  request := by
    rw [buildProxyConnect_request plain.solid port, parse_connectAuthority plain port]
    have method : eqIgnoreAsciiCase "CONNECT".toList "CONNECT".toList = true := by decide
    exact ⟨_, rfl, method, rfl, rfl⟩

private theorem connectAuthority_opening (bracketed : name.head? = some '[') (port : UInt16) :
    ∃ rest, name = '[' :: rest ∧
      connectAuthority name port = '[' :: (rest ++ ':' :: decimal port.toNat) := by
  obtain ⟨rest, same⟩ := List.head?_eq_some_iff.mp bracketed
  refine ⟨rest, same, ?_⟩
  rw [connectAuthority, if_neg (fun both => both.2 bracketed), same, List.cons_append]

/-- A name that comes back from its own authority can stand there. -/
private theorem plain_of_parse (solid : Solid name)
    (parsed : parseAuthority (connectAuthority name port) 443 = some (name, port)) :
    PlainName name := by
  have authority := connectAuthority_solid solid port
  have unbracketed : name.head? ≠ some '[' := by
    intro bracketed
    obtain ⟨rest, same, opened⟩ := connectAuthority_opening bracketed port
    rw [opened] at authority parsed
    obtain ⟨_, tail, whole⟩ := parseAuthority_opening authority parsed
    rw [same] at whole
    -- the closing bracket would have to stand among the digits of the port
    have behind := congrArg (List.drop (rest.length + 1)) whole
    have left : List.drop (rest.length + 1) (rest ++ ':' :: decimal port.toNat) =
        decimal port.toNat := by
      rw [← List.drop_drop, List.drop_left]
      rfl
    have right : List.drop (rest.length + 1) ('[' :: rest ++ ']' :: tail) = ']' :: tail := by
      rw [← @List.length_cons _ '[' rest, List.drop_left]
    rw [left, right] at behind
    have digit : ']' ∈ decimal port.toNat := by
      rw [behind]
      exact List.mem_cons_self
    exact Text.not_mem_decimal (by decide) _ digit
  refine ⟨parseAuthority_ne_nil parsed, solid, unbracketed, fun colon => ?_⟩
  have opened : connectAuthority name port =
      '[' :: (name ++ ([']'] ++ ':' :: decimal port.toNat)) := by
    rw [connectAuthority, if_pos ⟨colon, unbracketed⟩]
    simp only [List.cons_append, List.append_assoc]
  rw [opened] at authority parsed
  exact (parseAuthority_opening authority parsed).1

/-- The head is right for the lossily decoded host exactly when the host is a plain one. -/
private theorem oneHead_iff (host : List UInt8) (port : UInt16) :
    OneHead (buildProxyConnect (fromUtf8Lossy host) port) host port ↔ PlainHost host := by
  constructor
  · intro head
    obtain ⟨request, parsed, _, same, portSame⟩ := head.request
    have decoded : fromUtf8Lossy host = request.authority := by
      rw [← same, Utf8.fromUtf8Lossy_encode]
    have solid : Solid (fromUtf8Lossy host) := by
      rw [decoded]
      exact parseRequestLine_solid parsed
    rw [buildProxyConnect_request solid port, Option.map_eq_some_iff] at parsed
    obtain ⟨⟨authority, parsedPort⟩, found, built⟩ := parsed
    have authoritySame : authority = fromUtf8Lossy host := by
      rw [decoded, ← built]
    have parsedPortSame : parsedPort = port := by
      rw [← portSame, ← built]
    rw [authoritySame, parsedPortSame] at found
    refine ⟨fromUtf8Lossy host, ?_, plain_of_parse solid found⟩
    rw [decoded, same]
  · rintro ⟨name, rfl, plain⟩
    rw [Utf8.fromUtf8Lossy_encode]
    exact oneHead_of_plain plain port

end Head

section Targets

variable {atyp : UInt8} {sent : List UInt8} {target : Target} {port : UInt16} {rest : List UInt8}

private theorem getTarget_domain {name : List Char}
    (found : getTarget atyp sent = some (.domain name, rest)) :
    name = fromUtf8Lossy ((sent.drop 1).take (sent.headD 0).toNat) := by
  unfold getTarget at found
  split at found
  · split at found <;> cases found
  · split at found
    · split at found <;> cases found
    · split at found
      · cases sent with
        | nil => cases found
        | cons len behind =>
            simp only [Varint.getU8, Varint.getBytes] at found
            rw [Option.map_eq_some_iff] at found
            obtain ⟨⟨bytes, remaining⟩, taken, same⟩ := found
            split at taken
            · cases taken
            · cases taken
              cases same
              rfl
      · cases found

/-- The text that goes to the gateway is the lossy decoding of the requested host. -/
private theorem authorityOf_readTarget (read : readTarget atyp sent = some ((target, port), rest)) :
    authorityOf target = fromUtf8Lossy (requestedHost sent target) := by
  cases target with
  | ip ip => exact (Utf8.fromUtf8Lossy_encode (display ip)).symm
  | domain name =>
      unfold readTarget at read
      split at read
      · cases read
      · rename_i found
        rw [Option.map_eq_some_iff] at read
        obtain ⟨_, _, same⟩ := read
        cases same
        exact getTarget_domain found

/-- The gateway gets one head that asks for the host of the request exactly when that host is an
address or a plain name. -/
theorem proxy_connect_head (read : readTarget atyp sent = some ((target, port), rest)) :
    OneHead (buildProxyConnect (authorityOf target) port) (requestedHost sent target) port ↔
      PlainHost (requestedHost sent target) := by
  rw [authorityOf_readTarget read]
  exact oneHead_iff _ port

/-- `7.7.7.7` -/
def sevens : List UInt8 := [55, 46, 55, 46, 55, 46, 55]

theorem proxy_connect_head_sevens :
    OneHead (buildProxyConnect (fromUtf8Lossy sevens) 443) sevens 443 := by
  have read : readTarget atypDomain (7 :: (sevens ++ [1, 187])) =
      some ((.domain (fromUtf8Lossy sevens), 443), []) := by decide
  have plain : PlainName "7.7.7.7".toList := ⟨by decide, by decide, by decide, by decide⟩
  exact (proxy_connect_head read).mpr ⟨_, by decide, plain⟩

/-- `a\r\nX:b` brings a header line of its own. -/
def crlfName : List UInt8 := [97, 13, 10, 88, 58, 98]

theorem crlf_name_injects :
    ¬∀ (atyp : UInt8) (sent : List UInt8) (target : Target) (port : UInt16) (rest : List UInt8),
      readTarget atyp sent = some ((target, port), rest) →
      OneHead (buildProxyConnect (authorityOf target) port) (requestedHost sent target) port := by
  intro claim
  have read : readTarget atypDomain (6 :: (crlfName ++ [1, 187])) =
      some ((.domain (fromUtf8Lossy crlfName), 443), []) := by decide
  have lines := (claim _ _ _ _ _ read).lines.1
  exact absurd lines (by decide)

end Targets

end MolidoVpn.Socks
