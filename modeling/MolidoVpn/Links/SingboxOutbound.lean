import MolidoVpn.Links.Platform

/-!
`parseOutbound` of `singbox_outbound.dart`, for the links that `parsers.py` knows too.
-/

namespace MolidoVpn.Links.SingboxOutbound

open Json (obj str)
open JavaScript (strictUtf8)
open UrlEncoded (allPairs items strict values wellFormed)

variable (platform : Platform)

/-- `utf8.decode`; a byte order mark at the front is dropped. -/
def utf8Decode (bytes : List UInt8) : Option (List Char) :=
  (strictUtf8 bytes).map fun text => if text.head? = some '\uFEFF' then text.tail else text

def decodeBase64Loose (text : List Char) : Option (List Char) :=
  let t := (text.filter fun c => !Text.isJsSpace c).map standardLetter
  let length := JavaScript.utf16Length t
  (platform.base64Decode (t ++ List.replicate ((4 - length % 4) % 4) '=')).bind utf8Decode

/-- `Uri.decodeComponent` of a text that is no part of a `Uri` yet. -/
def decodeComponent (text : List Char) : Option (List Char) :=
  if wellFormed text then strict text else none

/-- `q[key]` -/
def parameter? (query : List (List Char × List Char)) (key : String) : Option (List Char) :=
  (values query key.toList).getLast?

/-- `q[key] ?? default` -/
def parameter (query : List (List Char × List Char)) (key : String) (default : List Char) :
    List Char :=
  (parameter? query key).getD default

/-- `_tls`; nothing where it throws. -/
def tls (security sni host alpn fp : List Char) (insecure : Bool) (pbk sid : List Char) :
    Option (Option Json) :=
  if security != "tls".toList && security != "reality".toList then some none
  else
    let reality := security == "reality".toList
    if reality && pbk == [] then none
    else
      some (some (obj ([("enabled", .bool true),
          ("server_name", .string (if sni == [] then host else sni)),
          ("insecure", .bool insecure)] ++
        (if alpn == [] then [] else [("alpn", commaSeparatedGiven alpn)]) ++
        (if fp != [] || reality then
          [("utls", obj [("enabled", .bool true),
            ("fingerprint", if utlsFingerprints.contains fp then .string fp else str "chrome")])]
        else []) ++
        (if reality then
          [("reality", obj [("enabled", .bool true), ("public_key", .string pbk),
            ("short_id", .string sid)])]
        else []))))

/-- The path with its early data. -/
def wsPath (path : List Char) : List (String × Json) :=
  match Text.splitAround "?ed=".toList path with
  | some (before, ed) => ("path", .string before) ::
      match platform.tryParse ed with
      | some early =>
          [("max_early_data", .int early), ("early_data_header_name", str "Sec-WebSocket-Protocol")]
      | none => []
  | none => [("path", .string path)]

/-- `_transport`; nothing where it throws. -/
def transport (net path host serviceName : List Char) : Option (Option Json) :=
  let net := if net == [] then "tcp".toList else platform.lower net
  let path? := if path == [] then "/".toList else path
  if net == "tcp".toList || net == "raw".toList then some none
  else if net == "ws".toList then
    some (some (obj ([("type", str "ws")] ++ wsPath platform path? ++
      (if host == [] then [] else [("headers", obj [("Host", .string host)])]))))
  else if net == "grpc".toList then
    some (some (obj [("type", str "grpc"),
      ("service_name", .string (if serviceName == [] then path else serviceName))]))
  else if net == "h2".toList || net == "http".toList then
    some (some (obj ([("type", str "http"), ("path", .string path?)] ++
      (if host == [] then [] else [("host", commaSeparated host)]))))
  else if net == "httpupgrade".toList then
    some (some (obj [("type", str "httpupgrade"), ("path", .string path?),
      ("host", .string host)]))
  else none

/-- `'${d[key] ?? ''}'.trim()` -/
def field (d : Json) (key : String) : List Char :=
  platform.trim <|
    match d.opt key with
    | none | some .null => []
    | some (.string value) => value
    | some other => platform.interpolated other

def vmess (uri : List Char) : Option Json :=
  (decodeBase64Loose platform (uri.drop "vmess://".length)).bind fun text =>
    (platform.json text).bind fun d =>
      match d with
      | .object _ =>
          let s := field platform d
          let host := s "add"
          (platform.tryParse (s "port")).bind fun port =>
            if !validEndpoint host (some port) || s "id" == [] then none
            else
              let net := if s "net" == [] then "tcp".toList else s "net"
              let type := platform.lower (s "type")
              if hasHeader type && net == "tcp".toList then none
              else
                let out := [("type", str "vmess"), ("server", .string host),
                  ("server_port", .int port), ("uuid", .string (s "id")),
                  ("security", if s "scy" == [] then str "auto" else .string (s "scy")),
                  ("alter_id", .int ((platform.tryParse (s "aid")).getD 0))]
                (tls (platform.lower (s "tls")) (s "sni")
                    (if s "host" == [] then host else s "host") (s "alpn") (s "fp") false [] []).bind
                  fun tls =>
                  (transport platform net (s "path") (s "host") (s "path")).map fun transport =>
                    finish out tls transport
      | _ => none

/-- A link with its endpoint and its user, as all URLs are read. -/
structure Endpoint where
  url : Url
  port : Nat
  user : List Char

/-- `_endpoint` -/
def endpoint (uri : List Char) (needUser : Bool) : Option Endpoint :=
  (platform.split uri).bind fun url =>
    (strict url.userInfo).bind fun user =>
      url.port.bind fun port =>
        if !validEndpoint url.host (some (port : Int)) || (needUser && user == []) then none
        else some ⟨url, port, user⟩

def queryParameters (url : Url) : Option (List (List Char × List Char)) :=
  allPairs (items url.query)

def vlessTrojanOf (e : Endpoint) (query : List (List Char × List Char)) : Option Json :=
  let g := parameter query
  let isVless := e.url.scheme == "vless".toList
  let flow := g "flow" []
  let out := [("type", .string e.url.scheme), ("server", .string e.url.host),
    ("server_port", .int e.port)] ++
    if isVless then
      [("uuid", .string e.user)] ++ (if flow == [] then [] else [("flow", .string flow)]) ++
        [("packet_encoding", str "xudp")]
    else [("password", .string e.user)]
  let security := g "security" (if isVless then "none".toList else "tls".toList)
  if isVless && flow != [] && flow != "xtls-rprx-vision".toList then none
  else if g "headerType" [] == "http".toList then none
  else
    let insecure := isTrue (g "allowInsecure" []) || isTrue (g "insecure" [])
    (tls security (g "sni" []) (if g "host" [] == [] then e.url.host else g "host" [])
        (g "alpn" []) (g "fp" []) insecure (g "pbk" []) (g "sid" [])).bind fun tls =>
      (transport platform (g "type" "tcp".toList) (g "path" []) (g "host" [])
          (g "serviceName" [])).map fun transport =>
        finish out tls transport

def vlessTrojan (uri : List Char) : Option Json :=
  (endpoint platform uri true).bind fun e =>
    (queryParameters e.url).bind (vlessTrojanOf platform e)

def ssParts (body : List Char) : Option (List Char × List Char) :=
  match Text.rsplitOnce '@' body with
  | some (userinfo, hostport) =>
      (decodeComponent userinfo).bind fun userinfo =>
        (if userinfo.contains ':' then some userinfo
          else decodeBase64Loose platform userinfo).map (·, hostport)
  | none =>
      (decodeBase64Loose platform body).map fun text => (Text.rsplitOnce '@' text).getD ([], text)

def ss (uri : List Char) : Option Json :=
  (ssBody uri).bind fun body => (ssParts platform body).bind fun (userinfo, hostport) =>
    let (method, password) := (Text.splitAround [':'] userinfo).getD ([], [])
    (platform.split ("ss://x@".toList ++ hostport)).bind fun p =>
      p.port.bind fun port =>
        if method == [] || password == [] || !validEndpoint p.host (some (port : Int)) then none
        else
          some (obj [("type", str "shadowsocks"), ("server", .string p.host),
            ("server_port", .int port), ("method", .string method),
            ("password", .string password)])

def portNumber (text : List Char) : Option Nat :=
  if text != [] && text.length ≤ 5 && text.all Char.isDigit then
    some (Nat.ofDigitChars 10 text 0)
  else none

def portRange (part : List Char) : Option (Nat × Nat) :=
  let ends := match part.span fun c => c != '-' && c != ':' with
    | (first, []) => (first, first)
    | (first, _ :: last) => (first, last)
  (portNumber ends.1).bind fun a => (portNumber ends.2).bind fun b =>
    if a < 1 || b > 65535 || a > b then none else some (a, b)

def hy2PortRanges (spec : List Char) : Option (List (Nat × Nat)) :=
  let parts := ((spec.splitOn ',').map platform.trim).filter (· != [])
  (parts.mapM portRange).bind fun ranges =>
    if ranges = [] then none
    else some (ranges.foldl (fun out range => if range ∈ out then out else out ++ [range]) [])

/-- The first text of a link with several ports, and the ports. -/
def withoutPorts (link : List Char) : Option (List Char × List (Nat × Nat)) :=
  match platform.portList link with
  | some (before, ports, after) =>
      if ports.any fun c => c == ',' || c == '-' then
        (hy2PortRanges platform ports).map fun ranges =>
          (before ++ [':'] ++ Text.decimal ((ranges.head?.map Prod.fst).getD 0) ++ after, ranges)
      else some (link, [])
  | none => some (link, [])

/-- The ranges of a parameter that are not there yet. -/
def hopRanges (query : List (List Char × List Char)) (ranges : List (Nat × Nat)) (key : String) :
    List (Nat × Nat) :=
  match parameter? query key with
  | some spec =>
      if platform.trim spec == [] then ranges
      else
        match hy2PortRanges platform spec with
        | some more => ranges ++ more.filter fun range => !ranges.contains range
        | none => ranges
  | none => ranges

def hopInterval (query : List (List Char × List Char)) : Json :=
  let hop := (parameter? query "hop_interval").orElse fun _ => parameter? query "hopInterval"
  let seconds := hop.bind fun hop =>
    platform.tryParse (if hop.getLast? = some 's' then hop.dropLast else hop)
  match seconds with
  | some seconds =>
      if 5 ≤ seconds ∧ seconds ≤ 600 then .string ((toString seconds).toList ++ ['s'])
      else str "30s"
  | none => str "30s"

/-- The port of the link keeps working when no range covers it. -/
def withOwnPort (port : Nat) (ranges : List (Nat × Nat)) : List (Nat × Nat) :=
  if ranges != [] && !(ranges.any fun range => range.1 ≤ port && port ≤ range.2) then
    (port, port) :: ranges
  else ranges

def hysteria2Of (ranges : List (Nat × Nat)) (e : Endpoint)
    (query : List (List Char × List Char)) : Option Json :=
  let q := parameter query
  let ranges := withOwnPort e.port
    (["mport", "server_ports"].foldl (hopRanges platform query) ranges)
  some (obj ([("type", str "hysteria2"), ("server", .string e.url.host)] ++
    (if ranges == [] then [("server_port", .int e.port)]
      else
        [("server_ports", .array (ranges.map fun range =>
          .string (Text.decimal range.1 ++ [':'] ++ Text.decimal range.2))),
          ("hop_interval", hopInterval platform query)]) ++
    [("password", .string e.user),
      ("tls", obj [("enabled", .bool true), ("server_name", .string (q "sni" e.url.host)),
        ("insecure", .bool (isTrue (q "insecure" [])))])] ++
    if q "obfs" [] == "salamander".toList then
      [("obfs", obj [("type", str "salamander"),
        ("password", .string (q "obfs-password" []))])]
    else []))

def hysteria2 (uri : List Char) : Option Json :=
  (withoutPorts platform (replaceFirst "hy2://" "hysteria2://" uri)).bind fun (link, ranges) =>
    (endpoint platform link true).bind fun e =>
      (queryParameters e.url).bind (hysteria2Of platform ranges e)

def anytlsOf (e : Endpoint) (query : List (List Char × List Char)) : Option Json :=
  let q := parameter query
  some (obj [("type", str "anytls"), ("server", .string e.url.host),
    ("server_port", .int e.port), ("password", .string e.user),
    ("tls", obj [("enabled", .bool true), ("server_name", .string (q "sni" e.url.host)),
      ("insecure", .bool (isTrue (q "insecure" []) || isTrue (q "allowInsecure" [])))])])

def anytls (uri : List Char) : Option Json :=
  (endpoint platform uri true).bind fun e => (queryParameters e.url).bind (anytlsOf e)

def withPrefix (address : List Char) : List Char :=
  if address.contains '/' then address
  else if address.contains ':' then address ++ "/128".toList
  else address ++ "/32".toList

def wireguardOf (e : Endpoint) (query : List (List Char × List Char)) : Option Json :=
  let q := parameter query
  let peer := q "publickey" (q "public_key" (q "peer_public_key" []))
  let addresses := ((((q "address" (q "ip" [])).splitOn ',').map platform.trim).filter
    (· != [])).map withPrefix
  if peer == [] || addresses == [] then none
  else
    let reserved := q "reserved" []
    (if reserved == [] then some []
      else ((reserved.splitOn ',').mapM platform.tryParse).map fun parts =>
        [("reserved", .array (parts.map .int))]).map fun reserved =>
      obj ([("type", str "wireguard"), ("server", .string e.url.host),
        ("server_port", .int e.port), ("private_key", .string e.user),
        ("peer_public_key", .string peer), ("local_address", .array (addresses.map .string)),
        ("mtu", .int ((platform.tryParse (q "mtu" [])).getD 1280))] ++
        (if q "presharedkey" [] == [] then []
          else [("pre_shared_key", .string (q "presharedkey" []))]) ++ reserved)

def wireguard (uri : List Char) : Option Json :=
  (endpoint platform (replaceFirst "wg://" "wireguard://" uri) true).bind fun e =>
    (queryParameters e.url).bind (wireguardOf platform e)

def socksOf (e : Endpoint) : Option Json :=
  (if e.user == [] || e.user.contains ':' then some e.user
    else decodeBase64Loose platform e.user).map fun user =>
      obj ([("type", str "socks"), ("server", .string e.url.host), ("server_port", .int e.port),
        ("version", str "5")] ++
        match Text.splitAround [':'] user with
        | some (username, password) =>
            if username == [] then []
            else [("username", .string username), ("password", .string password)]
        | none => [])

def socks (uri : List Char) : Option Json :=
  (endpoint platform (replaceFirst "socks5://" "socks://" uri) false).bind (socksOf platform)

def tuicOf (e : Endpoint) (query : List (List Char × List Char)) : Option Json :=
  match Text.splitAround [':'] e.user with
  | none => none
  | some (uuid, password) =>
      if uuid == [] || password == [] then none
      else
        let q := parameter query
        some (obj [("type", str "tuic"), ("server", .string e.url.host),
          ("server_port", .int e.port), ("uuid", .string uuid),
          ("password", .string password),
          ("congestion_control", .string (q "congestion_control" "bbr".toList)),
          ("udp_relay_mode", .string (q "udp_relay_mode" "native".toList)),
          ("tls", obj [("enabled", .bool true), ("server_name", .string (q "sni" e.url.host)),
            ("insecure", .bool (isTrue (q "allow_insecure" []) || isTrue (q "insecure" []))),
            ("alpn", commaSeparatedGiven (q "alpn" "h3".toList))])])

def tuic (uri : List Char) : Option Json :=
  (endpoint platform uri false).bind fun e => (queryParameters e.url).bind (tuicOf e)

/-- For `warp` and `http` links there is nothing to compare with. -/
def parseOutbound (uri : List Char) : Option Json :=
  if startsWith "vmess://" uri then vmess platform uri
  else if startsWith "vless://" uri || startsWith "trojan://" uri then vlessTrojan platform uri
  else if startsWith "ss://" uri then ss platform uri
  else if startsWith "hysteria2://" uri || startsWith "hy2://" uri then hysteria2 platform uri
  else if startsWith "tuic://" uri then tuic platform uri
  else if startsWith "anytls://" uri then anytls platform uri
  else if startsWith "wireguard://" uri || startsWith "wg://" uri then wireguard platform uri
  else if startsWith "socks://" uri || startsWith "socks5://" uri then socks platform uri
  else none

end MolidoVpn.Links.SingboxOutbound
