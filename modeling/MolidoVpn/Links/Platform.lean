import MolidoVpn.Lib.Json
import MolidoVpn.Lib.UrlEncoded

/-!
Share links, and what the two parsers of them take from the libraries of Python and of Dart.
-/

namespace MolidoVpn.Links

/-- A link as it is split; user information and query still have their escapes. The host has no
brackets, and is empty where there is none. -/
structure Url where
  scheme : List Char
  userInfo : List Char
  host : List Char
  port : Option Nat
  query : List Char

/-- Splitting, case and JSON are one for both; a number or a text that is refused is none. -/
structure Platform where
  split : List Char → Option Url
  lower : List Char → List Char
  lower_small : ∀ text, text.all Char.isLower = true → lower text = text
  eq_nil_of_lower : ∀ text, lower text = [] → text = []
  json : List Char → Option Json
  -- Python
  strip : List Char → List Char
  b64decode : List Char → Option (List UInt8)
  int : Json → Option Int
  isDigit : List Char → Bool
  /-- `str` of what is no text. -/
  str : Json → List Char
  nonzero : JsonNumber → Bool
  -- Dart
  trim : List Char → List Char
  base64Decode : List Char → Option (List UInt8)
  tryParse : List Char → Option Int
  /-- What stands in a string for a value that is no text. -/
  interpolated : Json → List Char
  /-- What comes before a list of ports, the list, and what comes behind it. -/
  portList : List Char → Option (List Char × List Char × List Char)

def startsWith (start : String) (text : List Char) : Bool := start.toList.isPrefixOf text

def replaceFirst (old new : String) (text : List Char) : List Char :=
  match Text.splitAround old.toList text with
  | some (before, after) => before ++ new.toList ++ after
  | none => text

/-- A letter of the other alphabet of Base64. -/
def standardLetter (c : Char) : Char := if c = '-' then '+' else if c = '_' then '/' else c

def validEndpoint (host : List Char) (port : Option Int) : Bool :=
  host != [] && port.any fun port => 0 < port && port < 65536

def utlsFingerprints : List (List Char) :=
  ["chrome", "firefox", "edge", "safari", "360", "qq", "ios", "android", "random",
    "randomized"].map String.toList

/-- The type of a header of TCP that is there. -/
def hasHeader (type : List Char) : Bool := type != [] && type != "none".toList

def isTrue (value : List Char) : Bool := value == "1".toList || value == "true".toList

def commaSeparated (text : List Char) : Json := .array ((text.splitOn ',').map .string)

def commaSeparatedGiven (text : List Char) : Json :=
  .array (((text.splitOn ',').filter fun part => part != []).map .string)

/-- A text around its first colon; all of it comes before where there is none. -/
def aroundColon (text : List Char) : List Char × List Char :=
  (Text.splitAround [':'] text).getD (text, [])

/-- The body of an `ss` link without its fragment, its query and the slashes at its end; nothing
where it asks for a plugin. -/
def ssBody (uri : List Char) : Option (List Char) :=
  let body := uri.drop "ss://".length
  let body := ((Text.splitAround ['#'] body).map Prod.fst).getD body
  let (body, query) := (Text.splitAround ['?'] body).getD (body, [])
  if (Text.splitAround "plugin=".toList query).isSome then none
  else some (body.rdropWhile (· == '/'))

/-- `_finish` -/
def finish (out : List (String × Json)) (tls transport : Option Json) : Json :=
  .obj (out ++ (tls.map ("tls", ·)).toList ++ (transport.map ("transport", ·)).toList)

end MolidoVpn.Links
