import MolidoVpn.Lib.Utf8
import MolidoVpn.Socks.Target

/-!
The HTTP side of the proxy: the request line and its authority, the end of a
head, and the target that the front end makes of them.
-/

namespace MolidoVpn.Socks

open Routing (eqIgnoreAsciiCase)
open Text (splitAround rsplitOnce stripPrefix trim words parseU16 decimal Solid)

structure HttpRequestLine where
  method : List Char
  authority : List Char
  port : UInt16
  rewritten : Option (List Char)
  deriving DecidableEq

def parseAuthority (raw : List Char) (defaultPort : UInt16) : Option (List Char × UInt16) :=
  let raw := trim raw
  if raw = [] then none
  else
    match stripPrefix ['['] raw with
    | some rest =>
        match splitAround [']'] rest with
        | none => none
        | some (host, tail) =>
            if host = [] then none
            else
              match stripPrefix [':'] tail with
              | some value => (parseU16 value).map fun port => (host, port)
              | none => some (host, defaultPort)
    | none =>
        match rsplitOnce ':' raw with
        | some (host, port) =>
            if ':' ∈ host then some (raw, defaultPort)
            else if host = [] then none
            else (parseU16 port).map fun port => (host, port)
        | none => some (raw, defaultPort)

/-- Authority and path of what follows `http://`. -/
def splitPath (withoutScheme : List Char) : List Char × List Char :=
  match splitAround ['/'] withoutScheme with
  | some (authority, path) => (authority, '/' :: path)
  | none => (withoutScheme, ['/'])

def stripScheme (target : List Char) : Option (List Char) :=
  (stripPrefix "http://".toList target).or (stripPrefix "HTTP://".toList target)

def crlf : List Char := ['\r', '\n']

def parseRequestLine (line : List Char) : Option HttpRequestLine :=
  match words line with
  | method :: target :: parts =>
      if eqIgnoreAsciiCase method "CONNECT".toList then
        (parseAuthority target 443).map fun (authority, port) =>
          { method := method, authority := authority, port := port, rewritten := none }
      else
        match stripScheme target with
        | none => none
        | some withoutScheme =>
            let version := parts.headD "HTTP/1.1".toList
            let path := (splitPath withoutScheme).2
            (parseAuthority (splitPath withoutScheme).1 80).map fun (authority, port) =>
              { method := method
                authority := authority
                port := port
                rewritten := some (method ++ ' ' :: path ++ ' ' :: version ++ crlf) }
  | _ => none

/-- The target of `handle_http_client`. -/
def httpTarget (request : HttpRequestLine) : Target :=
  match IpText.parseIpAddr request.authority with
  | some ip => .ip ip
  | none => .domain request.authority

/-- `\r\n\r\n` -/
def headMark : List UInt8 := [13, 10, 13, 10]

def findHeadEnd (buffer : List UInt8) : Option Nat :=
  (splitAround headMark buffer).map fun (before, _) => before.length + 4

section Authority

variable {host : List Char} {port defaultPort : UInt16}

theorem bracketed_solid (solid : Solid host) : Solid ('[' :: host ++ [']']) := by
  have opening : Solid ['['] := by decide
  have closing : Solid [']'] := by decide
  exact (opening.append solid).append closing

theorem withPort_solid {host : List Char} (solid : Solid host) (port : UInt16) :
    Solid (host ++ ':' :: decimal port.toNat) := by
  have colon : Solid [':'] := by decide
  exact solid.append (colon.append (Text.decimal_solid port.toNat))

/-- `[host]:port` -/
theorem parseAuthority_bracketed (solid : Solid host) (nonempty : host ≠ []) (clear : ']' ∉ host)
    (port defaultPort : UInt16) :
    parseAuthority (('[' :: host ++ [']']) ++ ':' :: decimal port.toNat) defaultPort =
      some (host, port) := by
  have whole : ('[' :: host ++ [']']) ++ ':' :: decimal port.toNat =
      ['['] ++ (host ++ ([']'] ++ ([':'] ++ decimal port.toNat))) := by
    simp only [List.cons_append, List.nil_append, List.append_assoc]
  rw [parseAuthority, Text.trim_of_solid (withPort_solid (bracketed_solid solid) port)]
  rw [whole, if_neg (List.append_ne_nil_of_left_ne_nil (List.cons_ne_nil _ _) _),
    Text.stripPrefix_append]
  simp only [Text.splitAround_first clear, if_neg nonempty, Text.stripPrefix_append,
    Text.parseU16_decimal, Option.map_some]

/-- `[host]` -/
theorem parseAuthority_bracketed_bare (solid : Solid host) (nonempty : host ≠ [])
    (clear : ']' ∉ host) (defaultPort : UInt16) :
    parseAuthority ('[' :: host ++ [']']) defaultPort = some (host, defaultPort) := by
  have whole : '[' :: host ++ [']'] = ['['] ++ (host ++ ([']'] ++ [])) := rfl
  have noPort : stripPrefix [':'] ([] : List Char) = none := rfl
  rw [parseAuthority, Text.trim_of_solid (bracketed_solid solid)]
  rw [whole, if_neg (List.append_ne_nil_of_left_ne_nil (List.cons_ne_nil _ _) _),
    Text.stripPrefix_append]
  simp only [Text.splitAround_first clear, if_neg nonempty, noPort]

/-- `host:port` -/
theorem parseAuthority_plain (solid : Solid host) (nonempty : host ≠ []) (clear : ':' ∉ host)
    (unbracketed : host.head? ≠ some '[') (port defaultPort : UInt16) :
    parseAuthority (host ++ ':' :: decimal port.toNat) defaultPort = some (host, port) := by
  have first : (host ++ ':' :: decimal port.toNat).head? ≠ some '[' := by
    cases host with
    | nil => exact absurd rfl nonempty
    | cons c host => exact unbracketed
  have numeric : ':' ∉ decimal port.toNat := Text.not_mem_decimal (by decide) _
  rw [parseAuthority, Text.trim_of_solid (withPort_solid solid port)]
  rw [if_neg (List.append_ne_nil_of_left_ne_nil nonempty _), Text.stripPrefix_eq_none first]
  simp only [Text.rsplitOnce_last host numeric, if_neg clear, if_neg nonempty,
    Text.parseU16_decimal, Option.map_some]

/-- A host without a port, with no colon in it or with two. -/
theorem parseAuthority_bare (solid : Solid host) (nonempty : host ≠ [])
    (colons : ':' ∉ host ∨ 2 ≤ host.count ':') (unbracketed : host.head? ≠ some '[')
    (defaultPort : UInt16) : parseAuthority host defaultPort = some (host, defaultPort) := by
  rw [parseAuthority, Text.trim_of_solid solid]
  rw [if_neg nonempty, Text.stripPrefix_eq_none unbracketed]
  simp only
  cases split : rsplitOnce ':' host with
  | none => rfl
  | some parts =>
      obtain ⟨before, after⟩ := parts
      have whole := Text.rsplitOnce_eq_append split
      have clear := Text.rsplitOnce_clear split
      have two : 2 ≤ host.count ':' := by
        rcases colons with none_ | two
        · rw [whole] at none_
          exact absurd (List.mem_append_right before List.mem_cons_self) none_
        · exact two
      rw [whole, List.count_append, List.count_cons_self, List.count_eq_zero.mpr clear] at two
      have another : ':' ∈ before := List.count_pos_iff.mp (by omega)
      simp only [if_pos another]

end Authority

section RequestLine

theorem parseRequestLine_connect {target : List Char} (solid : Solid target)
    (nonempty : target ≠ []) :
    parseRequestLine ("CONNECT ".toList ++ target ++ " HTTP/1.1".toList) =
      (parseAuthority target 443).map fun (authority, port) =>
        { method := "CONNECT".toList, authority := authority, port := port, rewritten := none } := by
  have parts : words ("CONNECT ".toList ++ target ++ " HTTP/1.1".toList) =
      ["CONNECT".toList, target, "HTTP/1.1".toList] := by
    have whole : "CONNECT ".toList ++ target ++ " HTTP/1.1".toList =
        "CONNECT".toList ++ ' ' :: (target ++ ' ' :: "HTTP/1.1".toList) := by
      rw [List.append_assoc]
      rfl
    rw [whole, Text.words_append (by decide) (by decide) rfl, Text.words_append solid nonempty rfl,
      Text.words_single (by decide) (by decide)]
  rw [parseRequestLine, parts]
  rfl

theorem parseRequestLine_absolute {method authority path version : List Char}
    (solidMethod : Solid method) (nonempty : method ≠ [])
    (other : eqIgnoreAsciiCase method "CONNECT".toList = false) (solid : Solid authority)
    (clear : '/' ∉ authority) (solidPath : Solid path) (solidVersion : Solid version)
    (versioned : version ≠ []) :
    parseRequestLine (method ++ ' ' :: ("http://".toList ++ authority ++ '/' :: path) ++
        ' ' :: version) =
      (parseAuthority authority 80).map fun (authority, port) =>
        { method := method
          authority := authority
          port := port
          rewritten := some (method ++ ' ' :: ('/' :: path) ++ ' ' :: version ++ crlf) } := by
  have solidTarget : Solid ("http://".toList ++ authority ++ '/' :: path) := by
    have slash : Solid ['/'] := by decide
    have scheme : Solid "http://".toList := by decide
    exact (scheme.append solid).append (slash.append solidPath)
  have parts : words (method ++ ' ' :: ("http://".toList ++ authority ++ '/' :: path) ++
      ' ' :: version) = [method, "http://".toList ++ authority ++ '/' :: path, version] := by
    have whole : method ++ ' ' :: ("http://".toList ++ authority ++ '/' :: path) ++ ' ' :: version =
        method ++ ' ' :: (("http://".toList ++ authority ++ '/' :: path) ++ ' ' :: version) := by
      rw [List.append_assoc, List.cons_append]
    rw [whole, Text.words_append solidMethod nonempty rfl,
      Text.words_append solidTarget (by
        rw [List.append_assoc]
        exact List.append_ne_nil_of_left_ne_nil (by decide) _) rfl,
      Text.words_single solidVersion versioned]
  have stripped : stripScheme ("http://".toList ++ authority ++ '/' :: path) =
      some (authority ++ '/' :: path) := by
    rw [stripScheme, List.append_assoc, Text.stripPrefix_append]
    rfl
  have split : splitPath (authority ++ '/' :: path) = (authority, '/' :: path) := by
    have found : splitAround ['/'] (authority ++ '/' :: path) = some (authority, path) :=
      Text.splitAround_first clear path
    rw [splitPath, found]
  rw [parseRequestLine, parts]
  simp only [other, Bool.false_eq_true, if_false, stripped, split, List.headD_cons]

end RequestLine

end MolidoVpn.Socks
