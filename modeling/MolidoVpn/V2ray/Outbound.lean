import MolidoVpn.Lib.Base64
import MolidoVpn.V2ray.Nodes

/-!
The outbound that a node of a share line is rendered as, and when the core accepts it: a
single one that it does not accept stops the process that all candidates share.
-/

namespace MolidoVpn.V2ray

open Json (obj str)
open Shard (ifEmpty)

section Render

variable (platform : Platform)

def singBoxProtocols : List (List Char) := texts ["hysteria2", "tuic", "anytls"]

/-- A socks hop to the port that the other core has for the node. -/
def singBoxOutbound (port : Int) (tag : List Char) : Json :=
  obj [
    ("tag", .string tag),
    ("protocol", str "socks"),
    ("settings", obj [("servers", .array [
      obj [("address", str "127.0.0.1"), ("port", .int port)]])])]

def outboundSettings (node : V2rayNode) (address : List Char) (port : Int) : Json :=
  if node.protocol = "vless".toList then
    obj [("vnext", .array [obj [
      ("address", .string address),
      ("port", .int port),
      ("users", .array [obj ([("id", Json.string node.credential), ("encryption", str "none")] ++
        (if node.flow = [] then [] else [("flow", .string node.flow)]))])]])]
  else if node.protocol = "vmess".toList then
    obj [("vnext", .array [obj [
      ("address", .string address),
      ("port", .int port),
      ("users", .array [obj [("id", .string node.credential), ("alterId", .int 0),
        ("security", .string (ifEmpty node.method "auto".toList))]])]])]
  else if node.protocol = "trojan".toList then
    obj [("servers", .array [obj [
      ("address", .string address),
      ("port", .int port),
      ("password", .string node.credential)]])]
  else if node.protocol = "shadowsocks".toList then
    obj [("servers", .array [obj [
      ("address", .string address),
      ("port", .int port),
      ("method", .string node.method),
      ("password", .string node.credential)]])]
  else obj []

def serverName (node : V2rayNode) : List Char := ifEmpty (ifEmpty node.sni node.host) node.address

/-- The names of `fp` that the core knows. -/
def knownFingerprint (node : V2rayNode) : Option (List Char) :=
  if fingerprints.contains node.fingerprint then some node.fingerprint else none

def alpnNames (node : V2rayNode) : List (List Char) :=
  ((node.alpn.splitOn ',').map Kotlin.trim).filter fun name => !name.isEmpty

def securitySettings (node : V2rayNode) : List (String × Json) :=
  if node.security = "tls".toList then
    [("tlsSettings", obj ([("serverName", Json.string (serverName node))] ++
      ((knownFingerprint node).map fun fp => ("fingerprint", Json.string fp)).toList ++
      (if Kotlin.isBlank node.alpn then []
        else [("alpn", .array ((alpnNames node).map Json.string))]) ++
      [("allowInsecure", .bool false)]))]
  else if node.security = "reality".toList then
    [("realitySettings", obj ([("serverName", Json.string (serverName node)),
      ("fingerprint", .string ((knownFingerprint node).getD "chrome".toList)),
      ("publicKey", .string node.publicKey),
      ("shortId", .string node.shortId)] ++
      (if node.spiderX = [] then [] else [("spiderX", .string node.spiderX)])))]
  else []

def hostMember (node : V2rayNode) : List (String × Json) :=
  if node.host = [] then [] else [("host", .string node.host)]

def networkSettings (node : V2rayNode) : List (String × Json) :=
  let path : Json := .string (ifEmpty node.path ['/'])
  if node.network = "ws".toList then [("wsSettings", obj (("path", path) :: hostMember node))]
  else if node.network = "httpupgrade".toList then
    [("httpupgradeSettings", obj (("path", path) :: hostMember node))]
  else if node.network = "grpc".toList then
    [("grpcSettings", obj [("serviceName", .string node.serviceName),
      ("multiMode", .bool node.grpcMulti)])]
  else if node.network = "xhttp".toList then
    [("xhttpSettings", obj (("path", path) :: hostMember node ++
      [("mode", .string (ifEmpty node.xhttpMode "auto".toList))] ++
      (if node.xhttpExtra = [] then []
        else ((platform.parseObject node.xhttpExtra).map fun extra => ("extra", extra)).toList)))]
  else []

def streamSettings (node : V2rayNode) : Json :=
  obj ([("network", Json.string node.network), ("security", .string node.security)] ++
    securitySettings node ++ networkSettings platform node)

/-- `singBoxPort` is the port of the node in the other core. -/
def outbound (singBoxPort : Int) (node : V2rayNode) (address : List Char) (port : Int)
    (tag : List Char) : Json :=
  if singBoxProtocols.contains node.protocol then singBoxOutbound singBoxPort tag
  else
    obj ([("tag", Json.string tag), ("protocol", .string node.protocol),
      ("settings", outboundSettings node address port)] ++
      (if node.protocol ≠ "shadowsocks".toList ∨ node.network ≠ "tcp".toList then
        [("streamSettings", streamSettings platform node)]
      else []))

end Render

section Core

/-- A text member of the value, empty where there is none. -/
def textOf (json : Json) (name : String) : List Char := json.optString name

/-- The only entry of a list member. -/
def entryOf (json : Json) (name : String) : Json :=
  match json.opt name with
  | some (.array (entry :: _)) => entry
  | _ => .null

def memberOf (json : Json) (name : String) : Json := (json.opt name).getD .null

/-- A public key of Reality: 32 bytes in URL-safe base64. -/
def isPublicKey (text : List Char) : Bool :=
  ((Base64.decodeRaw true text).map List.length) == some 32

/-- A short id of Reality: hexadecimal, whole bytes, and at most eight of them. -/
def isShortId (text : List Char) : Bool :=
  text.length % 2 == 0 && text.length ≤ 16 && text.all fun c => (Kotlin.hexDigit c).isSome

/-- The key length of the ciphers whose password is the key itself. -/
def keyLength (method : List Char) : Option Nat :=
  if method = "2022-blake3-aes-128-gcm".toList then some 16
  else if method = "2022-blake3-aes-256-gcm".toList ∨
      method = "2022-blake3-chacha20-poly1305".toList then some 32
  else none

def isPassword (method password : List Char) : Bool :=
  match keyLength method with
  | none => !password.isEmpty
  | some length => ((Base64.decodePadded false password).map List.length) == some length

def acceptsUser (protocol : List Char) (settings : Json) : Bool :=
  if protocol = "vless".toList then
    let user := entryOf (entryOf settings "vnext") "users"
    textOf user "encryption" == "none".toList && flows.contains (textOf user "flow")
  else if protocol = "vmess".toList then
    let user := entryOf (entryOf settings "vnext") "users"
    textOf user "alterId" == ['0'] && vmessSecurity.contains (textOf user "security")
  else if protocol = "trojan".toList then true
  else if protocol = "shadowsocks".toList then
    let server := entryOf settings "servers"
    ssMethods.contains (textOf server "method") &&
      isPassword (textOf server "method") (textOf server "password")
  else protocol == "socks".toList

def acceptsSecurity (stream : Json) : Bool :=
  if textOf stream "security" = "reality".toList then
    let reality := memberOf stream "realitySettings"
    fingerprints.contains (textOf reality "fingerprint") &&
      isPublicKey (textOf reality "publicKey") && isShortId (textOf reality "shortId") &&
      !(texts ["ws", "httpupgrade"]).contains (textOf stream "network")
  else if textOf stream "security" = "tls".toList then
    let fp := textOf (memberOf stream "tlsSettings") "fingerprint"
    fp.isEmpty || fingerprints.contains fp
  else textOf stream "security" == "none".toList

def acceptsNetwork (stream : Json) : Bool :=
  networks.contains (textOf stream "network") &&
    (textOf stream "network" != "xhttp".toList ||
      xhttpModes.contains (textOf (memberOf stream "xhttpSettings") "mode"))

/-- What the core is known to want of an outbound. -/
def accepts (outbound : Json) : Bool :=
  acceptsUser (textOf outbound "protocol") (memberOf outbound "settings") &&
    match outbound.opt "streamSettings" with
    | none => true
    | some stream => acceptsSecurity stream && acceptsNetwork stream

end Core

end MolidoVpn.V2ray
