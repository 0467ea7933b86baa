import MolidoVpn.Links.Platform

/-!
`parse_uri` of `parsers.py`. What `json.loads` gives is used as it is, whatever its type, until an
operation does not take it.
-/

namespace MolidoVpn.Links.Parsers

open Json (obj str)
open JavaScript (strictUtf8)
open UrlEncoded (givenPairs items lenient values)

variable (platform : Platform)

def b64decode (text : List Char) : Option (List Char) :=
  let text := (platform.strip text).map standardLetter
  (platform.b64decode (text ++ List.replicate ((4 - text.length % 4) % 4) '=')).bind strictUtf8

/-- `_q`, or nothing for its default. -/
def given? (query : List (List Char × List Char)) (key : String) : Option (List Char) :=
  (values query key.toList).head?

/-- `_q` -/
def given (query : List (List Char × List Char)) (key : String) (default : List Char) :
    List Char :=
  (given? query key).getD default

def truthy : Json → Bool
  | .null => false
  | .bool value => value
  | .number value => platform.nonzero value
  | .string value => value != []
  | .array items => !items.isEmpty
  | .object members => !members.isEmpty

/-- `or` -/
def orElse (first second : Json) : Json := if truthy platform first then first else second

def strOf : Json → List Char
  | .string value => value
  | other => platform.str other

def texts : Json → Option (List Char)
  | .string value => some value
  | _ => none

def alpnMembers (alpn : Json) : Option (List (String × Json)) :=
  if truthy platform alpn then
    (texts alpn).map fun alpn => [("alpn", commaSeparatedGiven alpn)]
  else some []

/-- A list is in no set, and asking fails. -/
def fingerprint : Json → Option Json
  | .string value => some (if utlsFingerprints.contains value then .string value else str "chrome")
  | .array _ | .object _ => none
  | _ => some (str "chrome")

def utlsMembers (security : List Char) (fp : Json) : Option (List (String × Json)) :=
  if truthy platform fp || security == "reality".toList then
    (fingerprint fp).map fun fp =>
      [("utls", obj [("enabled", .bool true), ("fingerprint", fp)])]
  else some []

def realityMembers (security pbk sid : List Char) : Option (List (String × Json)) :=
  if security == "reality".toList then
    if pbk == [] then none
    else
      some [("reality", obj [("enabled", .bool true), ("public_key", .string pbk),
        ("short_id", .string sid)])]
  else some []

/-- `_tls`; nothing where it raises. -/
def tls (security : List Char) (sni host alpn fp : Json) (insecure : Bool)
    (pbk sid : List Char) : Option (Option Json) :=
  if security != "tls".toList && security != "reality".toList then some none
  else
    (alpnMembers platform alpn).bind fun alpn =>
      (utlsMembers platform security fp).bind fun utls =>
        (realityMembers security pbk sid).map fun reality =>
          some (obj ([("enabled", .bool true), ("server_name", orElse platform sni host),
            ("insecure", .bool insecure)] ++ alpn ++ utls ++ reality))

/-- The number that `isdigit` lets through; nothing where `int` refuses it. -/
def early (ed : List Char) : Option (List (String × Json)) :=
  if platform.isDigit ed then
    (platform.int (.string ed)).map fun ed =>
      [("max_early_data", .int ed), ("early_data_header_name", str "Sec-WebSocket-Protocol")]
  else some []

/-- The path with its early data; what has no text to look in is refused. -/
def wsPath : Json → Option (List (String × Json))
  | .string path =>
      match Text.splitAround "?ed=".toList path with
      | some (before, ed) => (early platform ed).map fun early => ("path", .string before) :: early
      | none => some [("path", .string path)]
  | .array items =>
      if items.any fun item => texts item == some "?ed=".toList then none
      else some [("path", .array items)]
  | .object members =>
      if members.any fun member => member.1 == "?ed=".toList then none
      else some [("path", .object members)]
  | _ => none

/-- `_transport`; nothing where it raises. -/
def transport (net path host serviceName : Json) : Option (Option Json) :=
  (texts (orElse platform net (str "tcp"))).bind fun net =>
    let net := platform.lower net
    let path? := orElse platform path (str "/")
    if net == "tcp".toList || net == "raw".toList || net == [] then some none
    else if net == "ws".toList then
      (wsPath platform path?).map fun path =>
        some (obj ([("type", str "ws")] ++ path ++
          (if truthy platform host then [("headers", obj [("Host", host)])] else [])))
    else if net == "grpc".toList then
      some (some (obj [("type", str "grpc"),
        ("service_name", orElse platform serviceName path)]))
    else if net == "h2".toList || net == "http".toList then
      if truthy platform host then
        (texts host).map fun host =>
          some (obj [("type", str "http"), ("path", path?), ("host", commaSeparated host)])
      else some (some (obj [("type", str "http"), ("path", path?)]))
    else if net == "httpupgrade".toList then
      some (some (obj [("type", str "httpupgrade"), ("path", path?), ("host", host)]))
    else none

/-- `d.get(key, default)` -/
def get (d : Json) (key : String) (default : Json) : Json := (d.opt key).getD default

def parseVmess (uri : List Char) : Option Json :=
  (b64decode platform (uri.drop "vmess://".length)).bind fun text =>
    (platform.json text).bind fun d =>
      match d with
      | .object _ =>
          let host := platform.strip (strOf platform (get d "add" (str "")))
          let port := platform.int (get d "port" .null)
          let id := get d "id" .null
          let type := platform.lower (strOf platform (get d "type" (str "none")))
          if !validEndpoint host port || !truthy platform id then none
          else if hasHeader type && texts (get d "net" (str "tcp")) == some "tcp".toList then none
          else
            port.bind fun port =>
              (platform.int (orElse platform (get d "aid" .null) (.int 0))).bind fun aid =>
                let out := [("type", str "vmess"), ("server", .string host),
                  ("server_port", .int port), ("uuid", id),
                  ("security", orElse platform (get d "scy" .null) (str "auto")),
                  ("alter_id", .int aid)]
                (tls platform (platform.lower (strOf platform (get d "tls" (str ""))))
                    (get d "sni" (str "")) (orElse platform (get d "host" (str "")) (.string host))
                    (get d "alpn" (str "")) (get d "fp" (str "")) false [] []).bind fun tls =>
                  (transport platform (get d "net" (str "tcp")) (get d "path" (str ""))
                      (get d "host" (str "")) (get d "path" (str ""))).map fun transport =>
                    finish out tls transport
      | _ => none

/-- What all URLs have: the host, the port, and the user. -/
structure Common where
  scheme : List Char
  host : List Char
  port : Nat
  user : List Char
  query : List (List Char × List Char)

def commonUrl (uri : List Char) : Option Common :=
  (platform.split uri).bind fun url =>
    url.port.bind fun port =>
      if validEndpoint url.host (some (port : Int)) then
        some ⟨url.scheme, url.host, port, lenient url.userInfo, givenPairs (items url.query)⟩
      else none

def vlessTrojanOf (p : Common) : Option Json :=
  if p.user == [] then none
  else
    let q := given p.query
    let isVless := p.scheme == "vless".toList
    let flow := q "flow" []
    let out := [("type", .string p.scheme), ("server", .string p.host),
      ("server_port", .int p.port)] ++
      if isVless then
        [("uuid", .string p.user)] ++ (if flow == [] then [] else [("flow", .string flow)]) ++
          [("packet_encoding", str "xudp")]
      else [("password", .string p.user)]
    let security := q "security" (if isVless then "none".toList else "tls".toList)
    if isVless && flow != [] && flow != "xtls-rprx-vision".toList then none
    else if q "headerType" [] == "http".toList then none
    else
      let insecure := isTrue (q "allowInsecure" []) || isTrue (q "insecure" [])
      (tls platform security (.string (q "sni" []))
          (orElse platform (.string (q "host" [])) (.string p.host)) (.string (q "alpn" []))
          (.string (q "fp" [])) insecure (q "pbk" []) (q "sid" [])).bind fun tls =>
        (transport platform (.string (q "type" "tcp".toList)) (.string (q "path" []))
            (.string (q "host" [])) (.string (q "serviceName" []))).map fun transport =>
          finish out tls transport

def parseVlessTrojan (uri : List Char) : Option Json :=
  (commonUrl platform uri).bind (vlessTrojanOf platform)

def ssParts (body : List Char) : Option (List Char × List Char) :=
  match Text.rsplitOnce '@' body with
  | some (userinfo, hostport) =>
      let userinfo := lenient userinfo
      (if userinfo.contains ':' then some userinfo else b64decode platform userinfo).map
        (·, hostport)
  | none => (b64decode platform body).map fun text => (Text.rsplitOnce '@' text).getD ([], text)

def parseSs (uri : List Char) : Option Json :=
  (ssBody uri).bind fun body => (ssParts platform body).bind fun (userinfo, hostport) =>
    let (method, password) := aroundColon userinfo
    (platform.split ("ss://x@".toList ++ hostport)).bind fun p =>
      p.port.bind fun port =>
        if method == [] || password == [] || !validEndpoint p.host (some (port : Int)) then none
        else
          some (obj [("type", str "shadowsocks"), ("server", .string p.host),
            ("server_port", .int port), ("method", .string method),
            ("password", .string password)])

/-- `_q(q, key) or default` -/
def givenOr (query : List (List Char × List Char)) (key : String) (default : List Char) :
    List Char :=
  if given query key [] == [] then default else given query key []

def hysteria2Of (p : Common) : Option Json :=
  if p.user == [] then none
  else
    let q := given p.query
    some (obj ([("type", str "hysteria2"), ("server", .string p.host), ("server_port", .int p.port),
      ("password", .string p.user),
      ("tls", obj [("enabled", .bool true),
        ("server_name", .string (givenOr p.query "sni" p.host)),
        ("insecure", .bool (isTrue (q "insecure" [])))])] ++
      if q "obfs" [] == "salamander".toList then
        [("obfs", obj [("type", str "salamander"), ("password", .string (q "obfs-password" []))])]
      else []))

def parseHysteria2 (uri : List Char) : Option Json :=
  (commonUrl platform (replaceFirst "hy2://" "hysteria2://" uri)).bind hysteria2Of

def tuicOf (p : Common) : Option Json :=
  let (uuid, password) := aroundColon p.user
  if uuid == [] || password == [] then none
  else
    let q := given p.query
    some (obj [("type", str "tuic"), ("server", .string p.host), ("server_port", .int p.port),
      ("uuid", .string uuid), ("password", .string password),
      ("congestion_control", .string (q "congestion_control" "bbr".toList)),
      ("udp_relay_mode", .string (q "udp_relay_mode" "native".toList)),
      ("tls", obj [("enabled", .bool true),
        ("server_name", .string (givenOr p.query "sni" p.host)),
        ("insecure", .bool (isTrue (q "allow_insecure" []) || isTrue (q "insecure" []))),
        ("alpn", commaSeparatedGiven (givenOr p.query "alpn" "h3".toList))])])

def parseTuic (uri : List Char) : Option Json :=
  (commonUrl platform uri).bind tuicOf

def anytlsOf (p : Common) : Option Json :=
  if p.user == [] then none
  else
    let q := given p.query
    some (obj [("type", str "anytls"), ("server", .string p.host), ("server_port", .int p.port),
      ("password", .string p.user),
      ("tls", obj [("enabled", .bool true),
        ("server_name", .string (givenOr p.query "sni" p.host)),
        ("insecure", .bool (isTrue (q "insecure" []) || isTrue (q "allowInsecure" [])))])])

def parseAnytls (uri : List Char) : Option Json :=
  (commonUrl platform uri).bind anytlsOf

def withPrefix (address : List Char) : List Char :=
  if address.contains '/' then address
  else address ++ (if address.contains ':' then "/128" else "/32").toList

def wireguardOf (p : Common) : Option Json :=
  let q := givenOr p.query
  let peer := q "publickey" (q "public_key" (q "peer_public_key" []))
  let addresses := (((q "address" (q "ip" [])).splitOn ',').map platform.strip).filter (· != [])
  if p.user == [] || peer == [] || addresses == [] then none
  else
    (platform.int (.string (q "mtu" "1280".toList))).bind fun mtu =>
      let reserved := q "reserved" []
      (if reserved == [] then some []
        else ((reserved.splitOn ',').mapM fun part => platform.int (.string part)).map fun parts =>
          [("reserved", .array (parts.map .int))]).map fun reserved =>
        obj ([("type", str "wireguard"), ("server", .string p.host), ("server_port", .int p.port),
          ("private_key", .string p.user), ("peer_public_key", .string peer),
          ("local_address", .array ((addresses.map withPrefix).map .string)),
          ("mtu", .int mtu)] ++
          (if q "presharedkey" [] == [] then []
            else [("pre_shared_key", .string (q "presharedkey" []))]) ++ reserved)

def parseWireguard (uri : List Char) : Option Json :=
  (commonUrl platform (replaceFirst "wg://" "wireguard://" uri)).bind (wireguardOf platform)

def socksOf (p : Common) : Option Json :=
  let out := [("type", str "socks"), ("server", .string p.host), ("server_port", .int p.port),
    ("version", str "5")]
  if p.user == [] then some (obj out)
  else
    (if p.user.contains ':' then some p.user else b64decode platform p.user).map fun user =>
      let (username, password) := aroundColon user
      obj (out ++ [("username", .string username), ("password", .string password)])

def parseSocks (uri : List Char) : Option Json :=
  (commonUrl platform (replaceFirst "socks5://" "socks://" uri)).bind (socksOf platform)

def parseUri (uri : List Char) : Option Json :=
  if startsWith "anytls://" uri then parseAnytls platform uri
  else if startsWith "wireguard://" uri || startsWith "wg://" uri then parseWireguard platform uri
  else if startsWith "socks://" uri || startsWith "socks5://" uri then parseSocks platform uri
  else if startsWith "vmess://" uri then parseVmess platform uri
  else if startsWith "vless://" uri || startsWith "trojan://" uri then
    parseVlessTrojan platform uri
  else if startsWith "ss://" uri then parseSs platform uri
  else if startsWith "hysteria2://" uri || startsWith "hy2://" uri then
    parseHysteria2 platform uri
  else if startsWith "tuic://" uri then parseTuic platform uri
  else none

end MolidoVpn.Links.Parsers
