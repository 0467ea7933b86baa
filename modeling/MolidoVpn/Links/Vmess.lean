import MolidoVpn.Lib.PythonJson
import MolidoVpn.Links.Extract

/-!
`parse_vmess` of `parsers.py` on what `json.loads` gives, whose strings may hold surrogates that are
alone.
-/

namespace MolidoVpn.Links.Vmess

open Extract (b64decode)
open Python (CodePoint Floats Value getItem? isSpace loads)

/-- What the parser takes from the types of Python; nothing where it raises. -/
structure Builtins (floats : Floats) where
  lower : Python.Str → Python.Str
  isDigit : Python.Str → Bool
  int : Value floats → Option Int
  /-- `str` of what is no text. -/
  str : Value floats → Python.Str
  nonzero : floats.Finite → Bool

section Values

variable {floats : Floats} (builtins : Builtins floats)

def word (text : String) : Python.Str := Python.str text.toList

def text (content : String) : Value floats := .str (word content)

def dictOf (members : List (String × Value floats)) : Value floats :=
  .dict (members.map fun member => (word member.1, member.2))

def strip (text : Python.Str) : Python.Str :=
  Text.strip (fun c => match c with | .char c => isSpace c | .surrogate _ => false) text

def truthy : Value floats → Bool
  | .none => false
  | .bool value => value
  | .int value => value != 0
  | .float value => builtins.nonzero value
  | .nan | .infinity _ => true
  | .str text => text != []
  | .list items => !items.isEmpty
  | .dict members => !members.isEmpty

/-- `or` -/
def orElse (first second : Value floats) : Value floats :=
  if truthy builtins first then first else second

def strOf : Value floats → Python.Str
  | .str text => text
  | other => builtins.str other

/-- The methods of a text are those of nothing else. -/
def asText : Value floats → Option Python.Str
  | .str text => some text
  | _ => none

def commaSeparated (text : Python.Str) : List Python.Str := text.splitOn (.char ',')

end Values

section Parse

variable {floats : Floats} (builtins : Builtins floats)

def validEndpoint (host : Python.Str) (port : Option Int) : Bool :=
  host != [] && port.any fun port => 0 < port && port < 65536

def alpnMembers (alpn : Value floats) : Option (List (String × Value floats)) :=
  if truthy builtins alpn then
    (asText alpn).map fun alpn =>
      [("alpn", .list (((commaSeparated alpn).filter fun part => part != []).map .str))]
  else some []

/-- A list is in no set, and asking fails. -/
def fingerprint : Value floats → Option (Value floats)
  | .str value =>
      some (if (utlsFingerprints.map Python.str).contains value then .str value else text "chrome")
  | .list _ | .dict _ => none
  | _ => some (text "chrome")

def utlsMembers (security : Python.Str) (fp : Value floats) :
    Option (List (String × Value floats)) :=
  if truthy builtins fp || security == word "reality" then
    (fingerprint fp).map fun fp => [("utls", dictOf [("enabled", .bool true), ("fingerprint", fp)])]
  else some []

def realityMembers (security pbk sid : Python.Str) : Option (List (String × Value floats)) :=
  if security == word "reality" then
    if pbk == [] then none
    else
      some [("reality", dictOf [("enabled", .bool true), ("public_key", .str pbk),
        ("short_id", .str sid)])]
  else some []

/-- `_tls`; nothing where it raises. -/
def tls (security : Python.Str) (sni host alpn fp : Value floats) (insecure : Bool)
    (pbk sid : Python.Str) : Option (Option (Value floats)) :=
  if security != word "tls" && security != word "reality" then some none
  else
    (alpnMembers builtins alpn).bind fun alpn =>
      (utlsMembers builtins security fp).bind fun utls =>
        (realityMembers security pbk sid).map fun reality =>
          some (dictOf ([("enabled", .bool true), ("server_name", orElse builtins sni host),
            ("insecure", .bool insecure)] ++ alpn ++ utls ++ reality))

/-- The number that `isdigit` lets through; nothing where `int` refuses it. -/
def early (ed : Python.Str) : Option (List (String × Value floats)) :=
  if builtins.isDigit ed then
    (builtins.int (.str ed)).map fun ed =>
      [("max_early_data", .int ed), ("early_data_header_name", text "Sec-WebSocket-Protocol")]
  else some []

/-- The path with its early data; what has no text to look in is refused. -/
def wsPath : Value floats → Option (List (String × Value floats))
  | .str path =>
      match Text.splitAround (word "?ed=") path with
      | some (before, ed) => (early builtins ed).map fun early => ("path", .str before) :: early
      | none => some [("path", .str path)]
  | .list items =>
      if items.any fun item => asText item == some (word "?ed=") then none
      else some [("path", .list items)]
  | .dict members =>
      if members.any fun member => member.1 == word "?ed=" then none
      else some [("path", .dict members)]
  | _ => none

/-- `_transport`; nothing where it raises. -/
def transport (net path host serviceName : Value floats) : Option (Option (Value floats)) :=
  (asText (orElse builtins net (text "tcp"))).bind fun net =>
    let net := builtins.lower net
    let path? := orElse builtins path (text "/")
    if net == word "tcp" || net == word "raw" || net == [] then some none
    else if net == word "ws" then
      (wsPath builtins path?).map fun path =>
        some (dictOf ([("type", text "ws")] ++ path ++
          (if truthy builtins host then [("headers", dictOf [("Host", host)])] else [])))
    else if net == word "grpc" then
      some (some (dictOf [("type", text "grpc"),
        ("service_name", orElse builtins serviceName path)]))
    else if net == word "h2" || net == word "http" then
      if truthy builtins host then
        (asText host).map fun host =>
          some (dictOf [("type", text "http"), ("path", path?),
            ("host", .list ((commaSeparated host).map .str))])
      else some (some (dictOf [("type", text "http"), ("path", path?)]))
    else if net == word "httpupgrade" then
      some (some (dictOf [("type", text "httpupgrade"), ("path", path?), ("host", host)]))
    else none

/-- `d.get(key, default)` -/
def get (d : List (Python.Str × Value floats)) (key : String) (default : Value floats) :
    Value floats :=
  (getItem? d (word key)).getD default

/-- `_finish` -/
def finish (out : List (String × Value floats)) (tls transport : Option (Value floats)) :
    Value floats :=
  dictOf (out ++ (tls.map ("tls", ·)).toList ++ (transport.map ("transport", ·)).toList)

/-- The outbound of the object in a link. -/
def outboundOf (d : List (Python.Str × Value floats)) : Option (Value floats) :=
  let host := strip (strOf builtins (get d "add" (text "")))
  let port := builtins.int (get d "port" .none)
  let id := get d "id" .none
  let type := builtins.lower (strOf builtins (get d "type" (text "none")))
  if !validEndpoint host port || !truthy builtins id then none
  else if type != [] && type != word "none" &&
      asText (get d "net" (text "tcp")) == some (word "tcp") then none
  else
    port.bind fun port =>
      (builtins.int (orElse builtins (get d "aid" .none) (.int 0))).bind fun aid =>
        let out := [("type", text "vmess"), ("server", .str host), ("server_port", .int port),
          ("uuid", id), ("security", orElse builtins (get d "scy" .none) (text "auto")),
          ("alter_id", .int aid)]
        (tls builtins (builtins.lower (strOf builtins (get d "tls" (text ""))))
            (get d "sni" (text "")) (orElse builtins (get d "host" (text "")) (.str host))
            (get d "alpn" (text "")) (get d "fp" (text "")) false [] []).bind fun tls =>
          (transport builtins (get d "net" (text "tcp")) (get d "path" (text ""))
              (get d "host" (text "")) (get d "path" (text ""))).map fun transport =>
            finish out tls transport

/-- What `json.loads` makes of a link. -/
def contents (uri : List Char) : Option (Value floats) :=
  (b64decode (uri.drop "vmess://".length)).bind loads

def parseVmess (uri : List Char) : Option (Value floats) :=
  (contents uri).bind fun d =>
    match d with
    | .dict members => outboundOf builtins members
    | _ => none

end Parse

section Names

variable {floats : Floats} {builtins : Builtins floats}

/-- The name is not looked at. -/
theorem outboundOf_setName (d : List (Python.Str × Value floats)) (name : Value floats) :
    outboundOf builtins (Python.setItem d (word "ps") name) = outboundOf builtins d := by
  have kept {key : String} (other : word key ≠ word "ps") (default : Value floats) :
      get (Python.setItem d (word "ps") name) key default = get d key default := by
    rw [get, Python.getItem?_setItem_of_ne d other, get]
  unfold outboundOf
  rw [kept (by decide), kept (by decide), kept (by decide), kept (by decide), kept (by decide),
    kept (by decide), kept (by decide), kept (by decide), kept (by decide), kept (by decide),
    kept (by decide), kept (by decide), kept (by decide)]

end Names

end MolidoVpn.Links.Vmess
