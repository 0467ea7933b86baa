import MolidoVpn.Shard.Configs

/-!
`V2rayNodes`: a share line as a node.
-/

namespace MolidoVpn.V2ray

open Kotlin (Unicode trim isBlank substringBefore substringBeforeOr substringAfter
  substringAfterOr substringBeforeLast substringAfterLast substringBeforeLastOr
  substringAfterLastOr toIntOrNull)
open Shard (OrgJson ifEmpty param queryPairs)

structure V2rayNode where
  uri : List Char
  protocol : List Char
  address : List Char
  port : Int
  credential : List Char
  method : List Char := []
  flow : List Char := []
  network : List Char := "tcp".toList
  security : List Char := "none".toList
  sni : List Char := []
  fingerprint : List Char := []
  alpn : List Char := []
  publicKey : List Char := []
  shortId : List Char := []
  spiderX : List Char := []
  host : List Char := []
  path : List Char := []
  serviceName : List Char := []
  grpcMulti : Bool := false
  xhttpMode : List Char := "auto".toList
  xhttpExtra : List Char := []
  obfsPassword : List Char := []
  insecure : Bool := false
  congestion : List Char := []
  udpRelayMode : List Char := []
  name : List Char := []

/-- What the platform reads for the app: `JSONObject`, and `Base64.decode`, which throws on a
text that is not base64. -/
structure Platform extends OrgJson where
  unicode : Unicode
  base64 : List Char → Option (List UInt8)

def texts (names : List String) : List (List Char) := names.map String.toList

def networks : List (List Char) := texts ["tcp", "ws", "grpc", "httpupgrade", "xhttp"]

def xhttpModes : List (List Char) := texts ["auto", "packet-up", "stream-up", "stream-one"]

def fingerprints : List (List Char) :=
  texts ["chrome", "firefox", "safari", "ios", "android", "edge", "360", "qq", "random",
    "randomized"]

def ssMethods : List (List Char) :=
  texts ["aes-128-gcm", "aes-256-gcm", "chacha20-poly1305", "chacha20-ietf-poly1305",
    "xchacha20-poly1305", "xchacha20-ietf-poly1305", "none", "plain", "2022-blake3-aes-128-gcm",
    "2022-blake3-aes-256-gcm", "2022-blake3-chacha20-poly1305"]

def vmessSecurity : List (List Char) :=
  texts ["auto", "aes-128-gcm", "chacha20-poly1305", "none", "zero"]

def flows : List (List Char) := texts ["", "xtls-rprx-vision", "xtls-rprx-vision-udp443"]

def securities : List (List Char) := texts ["none", "tls", "reality"]

section Parse

variable (platform : Platform)

def lower (text : List Char) : List Char := platform.unicode.lowercase text

def normalizeNetwork (raw : List Char) : List Char :=
  let network := lower platform raw
  if network = "splithttp".toList then "xhttp".toList else network

def xhttpMode (raw : List Char) : List Char :=
  let mode := lower platform raw
  if xhttpModes.contains mode then mode else "auto".toList

/-- Kept only where it is a JSON object. -/
def xhttpExtra (raw : List Char) : List Char :=
  let extra := trim raw
  if extra.head? = some '{' then ((platform.parseObject extra).bind Json.print).getD [] else []

/-- A plus sign stays one. -/
def decode (value : List Char) : List Char :=
  (Kotlin.urlDecode (value.flatMap fun c => if c = '+' then "%2B".toList else [c])).getD value

def parseQuery (query : List Char) : List (List Char × List Char) :=
  queryPairs platform.unicode decode query

def padBase64 (text : List Char) : List Char :=
  text ++ List.replicate ((4 - text.length % 4) % 4) '='

/-- Standard or URL-safe, with or without padding. -/
def base64Text (value : List Char) : Option (List Char) :=
  let standard := (value.filter fun c => !Kotlin.isWhitespace c).map fun c =>
    if c = '-' then '+' else if c = '_' then '/' else c
  (platform.base64 (padBase64 standard)).map Utf8.fromUtf8Lossy

def hostPort (value : List Char) : Option (List Char × Int) :=
  let v := trim value
  let bracketed := v.head? = some '['
  let address :=
    if bracketed then substringBefore [']'] (substringAfter ['['] v)
    else substringBeforeLastOr ':' [] v
  let portText :=
    if bracketed then substringAfterOr "]:".toList [] v else substringAfterLastOr ':' [] v
  (toIntOrNull platform.unicode portText).bind fun port =>
    if address.isEmpty || port < 1 || 65535 < port then none else some (address, port)

/-- Fields that must be present for the rendered outbound to be valid. -/
def complete (node : V2rayNode) : Bool :=
  if isBlank node.address || node.port < 1 || 65535 < node.port || isBlank node.credential then
    false
  else if node.security = "reality".toList ∧ isBlank node.publicKey = true then false
  else if node.security = "reality".toList ∧ isBlank node.sni = true ∧ isBlank node.host = true then
    false
  else if node.security = "reality".toList ∧
      !(texts ["tcp", "grpc", "xhttp"]).contains node.network then false
  else if node.network = "grpc".toList ∧ isBlank node.serviceName = true then false
  else true

def get (q : List (List Char × List Char)) (name : String) : List Char := (param q name).getD []

def parseVlessOrTrojan (line : List Char) (scheme : String) : Option V2rayNode :=
  let uri := trim (substringBefore ['#'] line)
  let rest := substringAfter "://".toList uri
  let credential := decode (substringBeforeOr ['@'] [] rest)
  if credential.isEmpty then none
  else
    let hostPortQuery := substringAfter ['@'] rest
    (hostPort platform (substringBefore ['/'] (substringBefore ['?'] hostPortQuery))).bind fun place =>
      let q := parseQuery platform (substringAfterOr ['?'] [] hostPortQuery)
      let network := ifEmpty (normalizeNetwork platform (get q "type")) "tcp".toList
      let headerType := lower platform (get q "headertype")
      let defaultSecurity := if scheme = "trojan" then "tls" else "none"
      let security := ifEmpty (lower platform (get q "security")) defaultSecurity.toList
      let encryption := lower platform (get q "encryption")
      let flow := lower platform (get q "flow")
      if !networks.contains network then none
      else if network = "tcp".toList ∧ headerType ≠ [] ∧ headerType ≠ "none".toList then none
      else if !securities.contains security then none
      else if scheme = "vless" ∧ encryption ≠ [] ∧ encryption ≠ "none".toList then none
      else if !flows.contains flow then none
      else if flow ≠ [] ∧
          (scheme ≠ "vless" ∨ network ≠ "tcp".toList ∨ security = "none".toList) then none
      else
        let node : V2rayNode := {
          uri := uri
          protocol := scheme.toList
          address := place.1
          port := place.2
          credential := credential
          flow := flow
          network := network
          security := security
          sni := ifEmpty (get q "sni") (get q "peer")
          fingerprint := lower platform (get q "fp")
          alpn := get q "alpn"
          publicKey := get q "pbk"
          shortId := get q "sid"
          spiderX := get q "spx"
          host := get q "host"
          path := get q "path"
          serviceName :=
            ifEmpty (get q "servicename") (if network = "grpc".toList then get q "path" else [])
          grpcMulti := lower platform (get q "mode") == "multi".toList
          xhttpMode :=
            if network = "xhttp".toList then xhttpMode platform (get q "mode") else "auto".toList
          xhttpExtra :=
            if network = "xhttp".toList then xhttpExtra platform (get q "extra") else [] }
        if complete node then some node else none

def parseVmess (line : List Char) : Option V2rayNode :=
  let payload := trim (substringBefore ['#'] (substringAfter "://".toList line))
  ((base64Text platform payload).bind platform.parseObject).bind fun json =>
    let number (name : String) : Option Int :=
      ((json.opt name).bind Json.text).bind fun text => toIntOrNull platform.unicode (trim text)
    let address := Kotlin.removeSuffix [']'] (Kotlin.removePrefix ['['] (trim (json.optString "add")))
    (number "port").bind fun port =>
      let id := trim (json.optString "id")
      let network := ifEmpty (normalizeNetwork platform (json.optString "net")) "tcp".toList
      let headerType := lower platform (json.optString "type")
      let tls := lower platform (json.optString "tls")
      let scy := ifEmpty (lower platform (json.optString "scy")) "auto".toList
      if address.isEmpty || port < 1 || 65535 < port || id.isEmpty then none
      else if (number "aid").getD 0 ≠ 0 then none
      else if !networks.contains network then none
      else if network = "tcp".toList ∧ headerType ≠ [] ∧ headerType ≠ "none".toList then none
      else if tls ≠ [] ∧ tls ≠ "none".toList ∧ tls ≠ "tls".toList then none
      else if !vmessSecurity.contains scy then none
      else
        let path := json.optString "path"
        let node : V2rayNode := {
          uri := "vmess://".toList ++ payload
          protocol := "vmess".toList
          address := address
          port := port
          credential := id
          method := scy
          network := network
          security := if tls = "tls".toList then "tls".toList else "none".toList
          sni := json.optString "sni"
          fingerprint := lower platform (json.optString "fp")
          alpn := json.optString "alpn"
          host := json.optString "host"
          path := path
          serviceName := if network = "grpc".toList then path else []
          xhttpMode :=
            if network = "xhttp".toList then xhttpMode platform (json.optString "mode")
            else "auto".toList }
        if complete node then some node else none

def dropSlashes (text : List Char) : List Char := (text.reverse.dropWhile (· == '/')).reverse

/-- The two parts around the last at sign, which the legacy form keeps inside base64. -/
def shadowsocksParts (rest : List Char) : Option (List Char × List Char) :=
  if rest.contains '@' then some (substringBeforeLast '@' rest, substringAfterLast '@' rest)
  else
    (base64Text platform rest).bind fun decoded =>
      if decoded.contains '@' then
        some (substringBeforeLast '@' decoded, substringAfterLast '@' decoded)
      else none

def parseShadowsocks (line : List Char) : Option V2rayNode :=
  let uri := trim (substringBefore ['#'] line)
  let whole := substringAfter "://".toList uri
  let query := substringAfterOr ['?'] [] whole
  if (param (parseQuery platform query) "plugin").isSome then none
  else
    (shadowsocksParts platform (dropSlashes (substringBefore ['?'] whole))).bind fun parts =>
      (hostPort platform (substringBefore ['/'] parts.2)).bind fun place =>
        let plain := decode parts.1
        (if plain.contains ':' then some plain else base64Text platform parts.1).bind
          fun methodPass =>
            let method := trim (lower platform (substringBeforeOr [':'] [] methodPass))
            let password := substringAfterOr [':'] [] methodPass
            if !ssMethods.contains method || password.isEmpty then none
            else
              some {
                uri := uri
                protocol := "shadowsocks".toList
                address := place.1
                port := place.2
                credential := password
                method := method }

def flag (value : Option (List Char)) : Bool :=
  value == some ['1'] || (value.map fun text => text.map Char.toLower) == some "true".toList

def parseHysteria2 (line : List Char) : Option V2rayNode :=
  let rest := substringAfter "://".toList (trim (substringBefore ['#'] line))
  let auth := decode (substringBeforeOr ['@'] [] rest)
  if auth.isEmpty then none
  else
    let hostPortQuery := substringAfter ['@'] rest
    let hostPortText :=
      substringBefore [','] (substringBefore ['/'] (substringBefore ['?'] hostPortQuery))
    (hostPort platform hostPortText).bind fun place =>
      let q := parseQuery platform (substringAfterOr ['?'] [] hostPortQuery)
      let obfs := lower platform (get q "obfs")
      let obfsPassword := if obfs = "salamander".toList then get q "obfs-password" else []
      if obfs ≠ [] ∧ obfs ≠ "none".toList ∧ obfs ≠ "salamander".toList then none
      else if obfs = "salamander".toList ∧ obfsPassword = [] then none
      else
        let node : V2rayNode := {
          uri := "hysteria2://".toList ++ rest
          protocol := "hysteria2".toList
          address := place.1
          port := place.2
          credential := auth
          security := "tls".toList
          sni := ifEmpty (get q "sni") (get q "peer")
          alpn := get q "alpn"
          obfsPassword := obfsPassword
          insecure := flag (param q "insecure") || flag (param q "allowinsecure") ||
            flag (param q "allow_insecure") }
        if complete node then some node else none

def parseTuic (line : List Char) : Option V2rayNode :=
  let uri := trim (substringBefore ['#'] line)
  let rest := substringAfter "://".toList uri
  let userInfo := decode (substringBeforeOr ['@'] [] rest)
  let uuid := substringBefore [':'] userInfo
  let password := substringAfterOr [':'] [] userInfo
  if uuid.isEmpty || password.isEmpty then none
  else
    let hostPortQuery := substringAfter ['@'] rest
    (hostPort platform (substringBefore ['/'] (substringBefore ['?'] hostPortQuery))).bind fun place =>
      let q := parseQuery platform (substringAfterOr ['?'] [] hostPortQuery)
      let congestion := lower platform (get q "congestion_control")
      let relay := lower platform (get q "udp_relay_mode")
      let node : V2rayNode := {
        uri := uri
        protocol := "tuic".toList
        address := place.1
        port := place.2
        credential := uuid
        method := password
        security := "tls".toList
        sni := get q "sni"
        alpn := get q "alpn"
        insecure := flag (param q "allow_insecure") || flag (param q "insecure") ||
          flag (param q "allowinsecure")
        congestion :=
          if (texts ["cubic", "new_reno", "bbr"]).contains congestion then congestion
          else "bbr".toList
        udpRelayMode :=
          if (texts ["native", "quic"]).contains relay then relay else "native".toList }
      if complete node then some node else none

def parseAnyTls (line : List Char) : Option V2rayNode :=
  let uri := trim (substringBefore ['#'] line)
  let rest := substringAfter "://".toList uri
  let password := decode (substringBeforeOr ['@'] [] rest)
  if password.isEmpty then none
  else
    let hostPortQuery := substringAfter ['@'] rest
    (hostPort platform (substringBefore ['/'] (substringBefore ['?'] hostPortQuery))).bind fun place =>
      let q := parseQuery platform (substringAfterOr ['?'] [] hostPortQuery)
      let node : V2rayNode := {
        uri := uri
        protocol := "anytls".toList
        address := place.1
        port := place.2
        credential := password
        security := "tls".toList
        sni := get q "sni"
        alpn := get q "alpn"
        insecure := flag (param q "insecure") || flag (param q "allowinsecure") ||
          flag (param q "allow_insecure") }
      if complete node then some node else none

def nameOf (line : List Char) (node : V2rayNode) : List Char :=
  let fragment := substringAfterOr ['#'] [] line
  if fragment ≠ [] then trim (decode fragment)
  else if node.protocol ≠ "vmess".toList then []
  else
    let payload := trim (substringBefore ['#'] (substringAfter "://".toList line))
    ((platform.parseObject ((base64Text platform payload).getD "{}".toList)).map fun json =>
      trim (json.optString "ps")).getD []

/-- The scheme decides which parser reads the line. -/
def parseScheme (scheme line : List Char) : Option V2rayNode :=
  if scheme = "vless".toList then parseVlessOrTrojan platform line "vless"
  else if scheme = "trojan".toList then parseVlessOrTrojan platform line "trojan"
  else if scheme = "vmess".toList then parseVmess platform line
  else if scheme = "ss".toList then parseShadowsocks platform line
  else if scheme = "hysteria2".toList ∨ scheme = "hy2".toList then parseHysteria2 platform line
  else if scheme = "tuic".toList then parseTuic platform line
  else if scheme = "anytls".toList then parseAnyTls platform line
  else none

def parseOne (raw : List Char) : Option V2rayNode :=
  let line := trim raw
  let scheme := lower platform (substringBeforeOr "://".toList [] line)
  (parseScheme platform scheme line).map fun node => { node with name := nameOf platform line node }

end Parse

end MolidoVpn.V2ray
