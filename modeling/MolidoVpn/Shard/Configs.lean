import MolidoVpn.Lib.Json
import MolidoVpn.Lib.Kotlin

/-!
`ShardConfigs`: the subscription body as nodes, and the config of the one process that probes
all candidates of a race. A node is read line by line, but rendered together with the others.
-/

namespace MolidoVpn.Shard

open Kotlin (Unicode substringBefore substringBeforeOr substringAfter substringAfterOr)

/-- A node of the subscription, with its parameters as they stand there. -/
structure ShardNode where
  protocol : List Char
  credential : List Char
  address : List Char
  port : Int
  network : List Char
  security : List Char
  path : List Char
  host : List Char
  serverName : List Char
  fingerprint : List Char
  cipherSuites : List Char
  finalMask : List Char
  alpn : List Char
  label : List Char
  deriving DecidableEq

/-- The identity of a node, without its label. -/
def ShardNode.key (node : ShardNode) : List Char :=
  List.intercalate ['|'] [node.protocol, node.credential, node.address,
    (toString node.port).toList, node.network, node.security, node.path, node.host]

section Parse

variable (unicode : Unicode)

def decode (value : List Char) : List Char := (Kotlin.urlDecode value).getD value

/-- The pairs that have a name, in order; of two pairs with one name the later counts. -/
def queryPairs (decode : List Char → List Char) (query : List Char) :
    List (List Char × List Char) :=
  (query.splitOn '&').filterMap fun pair =>
    let name := substringBeforeOr ['='] [] pair
    if name.isEmpty then none
    else some (unicode.lowercase name, decode (substringAfterOr ['='] [] pair))

def param (pairs : List (List Char × List Char)) (name : String) : Option (List Char) :=
  (pairs.reverse.find? fun pair => pair.1 == name.toList).map Prod.snd

def parseQuery (query : List Char) : List (List Char × List Char) :=
  queryPairs unicode decode query

def supported : List (List Char) := ["vless".toList, "trojan".toList]

def ifEmpty (text other : List Char) : List Char := if text.isEmpty then other else text

def parseOne (line : List Char) : Option ShardNode :=
  let scheme := unicode.lowercase (substringBeforeOr "://".toList [] line)
  if !supported.contains scheme then none
  else
    let rest := substringAfter "://".toList line
    let label := decode (substringAfterOr ['#'] [] rest)
    let withoutLabel := substringBefore ['#'] rest
    let credential := decode (substringBeforeOr ['@'] [] withoutLabel)
    if credential.isEmpty then none
    else
      let hostPortAndQuery := substringAfter ['@'] withoutLabel
      let hostPort := substringBefore ['?'] hostPortAndQuery
      let query := substringAfterOr ['?'] [] hostPortAndQuery
      let address := Kotlin.removeSuffix [']']
        (Kotlin.removePrefix ['['] (Kotlin.substringBeforeLastOr ':' [] hostPort))
      match Kotlin.toIntOrNull unicode (Kotlin.substringAfterLastOr ':' [] hostPort) with
      | none => none
      | some port =>
          if address.isEmpty || port < 1 || 65535 < port then none
          else
            let params := parseQuery unicode query
            let host := (param params "host").getD []
            let sni := (param params "sni").getD []
            let security :=
              ifEmpty (((param params "security").map unicode.lowercase).getD []) "none".toList
            let network :=
              ifEmpty (((param params "type").map unicode.lowercase).getD []) "tcp".toList
            if network ≠ "ws".toList then none
            else
              some {
                protocol := scheme
                credential := credential
                address := address
                port := port
                network := network
                security := security
                path := ifEmpty ((param params "path").getD []) ['/']
                host := host
                serverName := ifEmpty sni host
                fingerprint := (param params "fp").getD []
                cipherSuites := (param params "cs").getD []
                finalMask := (param params "fm").getD []
                alpn := (param params "alpn").getD []
                label := label }

/-- One line of the body: what is seen again, blank, a comment or malformed is left out. -/
def addLine (nodes : List ShardNode) (rawLine : List Char) : List ShardNode :=
  let line := Kotlin.trim rawLine
  if line.isEmpty || line.head? == some '#' then nodes
  else
    match parseOne unicode line with
    | none => nodes
    | some node =>
        if nodes.any fun seen => seen.key == node.key then nodes else nodes ++ [node]

def parse (body : List Char) : List ShardNode :=
  (Kotlin.lineSequence body).foldl (addLine unicode) []

end Parse

section Render

open Json (str obj)

/-- What the rendering reads beside the node. -/
structure RenderContext where
  customIp : List Char
  retryFp : ShardNode → Option (List Char)
  upstreamSocksPort : Nat

/-- `JSONObject(text)`, which throws on a text that is no object. -/
structure OrgJson where
  parseObject : List Char → Option Json

variable (orgJson : OrgJson) (context : RenderContext)

def upstreamTag : String := "psiphon-up"

def blackholeOutbound : Json :=
  obj [("tag", str "blackhole"), ("protocol", str "blackhole")]

def upstreamOutbound (port : Nat) : Option Json :=
  if port = 0 then none
  else
    some (obj [
      ("tag", str upstreamTag),
      ("protocol", str "socks"),
      ("settings", obj [("servers", .array [
        obj [("address", str "127.0.0.1"), ("port", .int port)]])])])

def muxConcurrency : Int := 8

def xudpConcurrency : Int := 16

def muxFor (node : ShardNode) : Option Json :=
  if node.protocol ≠ "vless".toList then none
  else
    some (obj [
      ("enabled", .bool true),
      ("concurrency", .int muxConcurrency),
      ("xudpConcurrency", .int xudpConcurrency),
      ("xudpProxyUDP443", str "skip")])

def outboundSettings (node : ShardNode) (effectiveAddress : List Char) : Json :=
  if node.protocol = "vless".toList then
    obj [("vnext", .array [obj [
      ("address", .string effectiveAddress),
      ("port", .int node.port),
      ("users", .array [obj [("id", .string node.credential), ("encryption", str "none")]])]])]
  else if node.protocol = "trojan".toList then
    obj [("servers", .array [obj [
      ("address", .string effectiveAddress),
      ("port", .int node.port),
      ("password", .string node.credential)]])]
  else obj []

def tlsSettings (node : ShardNode) : Json :=
  let fp := (context.retryFp node).getD node.fingerprint
  obj ([("serverName", Json.string node.serverName)] ++
    (if fp.isEmpty then [] else [("fingerprint", .string fp)]) ++
    (if node.cipherSuites.isEmpty then [] else [("cipherSuites", .string node.cipherSuites)]) ++
    (if node.alpn.isEmpty then []
      else [("alpn", .array ((node.alpn.splitOn ',').map fun alpn => .string (Kotlin.trim alpn)))]) ++
    [("allowInsecure", .bool false)])

/-- The member of a node's `fm`, where it has one. -/
def finalMaskMember (node : ShardNode) : Option (List (String × Json)) :=
  if node.finalMask.isEmpty then some []
  else (orgJson.parseObject node.finalMask).map fun mask => [("finalmask", mask)]

def streamSettings (node : ShardNode) (finalMask : List (String × Json)) : Json :=
  obj ([("network", Json.string node.network), ("security", .string node.security)] ++
    finalMask ++
    (if node.security = "tls".toList then [("tlsSettings", tlsSettings context node)] else []) ++
    [("wsSettings", obj [("path", .string node.path), ("host", .string node.host)])])

/-- Nothing where the rendering throws. -/
def outbound (node : ShardNode) (tag : List Char) (mux : Bool) : Option Json :=
  let effectiveAddress := if context.customIp.isEmpty then node.address else context.customIp
  (finalMaskMember orgJson node).map fun finalMask =>
    obj ([("tag", Json.string tag), ("protocol", .string node.protocol),
      ("settings", outboundSettings node effectiveAddress),
      ("streamSettings", streamSettings context node finalMask)] ++
      (if mux then ((muxFor node).map fun settings => ("mux", settings)).toList else []))

structure ProbeConfig where
  inbounds : List Json
  outbounds : List Json
  rules : List Json

def ProbeConfig.toJson (config : ProbeConfig) : Json :=
  obj [
    ("log", obj [("loglevel", str "none"), ("access", str "none")]),
    ("inbounds", .array config.inbounds),
    ("outbounds", .array config.outbounds),
    ("routing", obj [("rules", .array config.rules)])]

def inTag (index : Nat) : List Char := "in-".toList ++ (toString index).toList

def outTag (index : Nat) : List Char := "out-".toList ++ (toString index).toList

def probeInbound (basePort index : Nat) : Json :=
  obj [
    ("tag", .string (inTag index)),
    ("listen", str "127.0.0.1"),
    ("port", .int (basePort + index)),
    ("protocol", str "socks"),
    ("settings", obj [("auth", str "noauth"), ("udp", .bool false)])]

def probeRule (index : Nat) : Json :=
  obj [
    ("type", str "field"),
    ("inboundTag", .array [.string (inTag index)]),
    ("outboundTag", .string (outTag index))]

/-- The outbounds of the nodes from this index on; the first that throws ends it all. -/
def probeOutbounds : List ShardNode → Nat → Option (List Json)
  | [], _ => some []
  | node :: rest, index =>
      (outbound orgJson context node (outTag index) false).bind fun rendered =>
        (probeOutbounds rest (index + 1)).map fun others => rendered :: others

/-- One inbound and one rule for each node, beside what is rendered for them. -/
def wiredConfig (count basePort : Nat) (rendered : List Json) : ProbeConfig where
  inbounds := (List.range count).map (probeInbound basePort)
  outbounds :=
    blackholeOutbound :: ((upstreamOutbound context.upstreamSocksPort).toList ++ rendered)
  rules := (List.range count).map probeRule

def probeParts (nodes : List ShardNode) (basePort : Nat) : Option ProbeConfig :=
  (probeOutbounds orgJson context nodes 0).map (wiredConfig context nodes.length basePort)

/-- The text that is written out; a number that is not finite leaves none. -/
def probeConfig (nodes : List ShardNode) (basePort : Nat) : Option (List Char) :=
  (probeParts orgJson context nodes basePort).bind fun config => config.toJson.print

end Render

end MolidoVpn.Shard
