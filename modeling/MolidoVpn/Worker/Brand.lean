import MolidoVpn.Lib.Eviction
import MolidoVpn.Lib.JavaScript
import MolidoVpn.Lib.Table

/-!
The share lines of a list: the owner's lines merged into the others, the name that every line
is served under, and the fingerprint that stands for a line whatever its name.
-/

namespace MolidoVpn.Worker

open JavaScript
open Text (splitAround jsTrim)

section Lines

/-- `line.split('#')[0]`, which is `slice` up to the first number sign as well. -/
def coreOf (line : List Char) : List Char := ((splitAround ['#'] line).map Prod.fst).getD line

theorem coreOf_append {core : List Char} (clear : '#' ∉ core) (fragment : List Char) :
    coreOf (core ++ '#' :: fragment) = core :=
  Kotlin.substringBefore_append clear fragment

theorem notMem_coreOf (line : List Char) : '#' ∉ coreOf line :=
  Kotlin.notMem_substringBefore '#' line

def lineCore (line : List Char) : List Char := jsTrim (coreOf line)

def includes (part text : List Char) : Bool := (splitAround part text).isSome

/-- The owner's lines; the weak ones by their cores. -/
structure OwnerLines where
  lines : List (List Char)
  weak : List (List Char)

/-- A list with what `mergeOwner` leaves on it for `brand`. -/
structure Listed where
  lines : List (List Char)
  vip : Option (List (List Char))

/-- The owner's lines first and the weak ones last, the others without duplicates of them. -/
def mergeOwner (owner : OwnerLines) (lines : List (List Char)) : Listed :=
  if owner.lines = [] then ⟨lines, none⟩
  else
    let seen := owner.lines.map lineCore
    ⟨owner.lines.filter (fun line => !owner.weak.contains (lineCore line)) ++
        (lines.filter (fun line => !seen.contains (lineCore line)) ++
          owner.lines.filter (fun line => owner.weak.contains (lineCore line))),
      some seen⟩

end Lines

section Names

def edgeName : List Char := "\u2601\ufe0f MolidoVPN Cloudflare".toList

/-- The flag of an unknown place. -/
def globe : List Char := [Char.ofNat 0x1F310]

def isRegionalIndicator (c : Char) : Bool := 0x1F1E6 ≤ c.toNat && c.toNat ≤ 0x1F1FF

/-- The first two regional indicators side by side. -/
def flagOf : List Char → Option (List Char)
  | a :: b :: rest =>
      if isRegionalIndicator a && isRegionalIndicator b then some [a, b] else flagOf (b :: rest)
  | _ => none

def nameOf (line : List Char) : List Char :=
  match splitAround ['#'] line with
  | none => []
  | some (_, fragment) => (decodeURIComponent fragment).getD fragment

/-- How many lines there are under a flag and tier so far. -/
abbrev Counters := AList fun _ : List Char => Nat

variable (json : JsonText)

/-- `JSON.parse(atob(core.slice(8)))` -/
def payloadJson (core : List Char) : Option Json := (atob (core.drop 8)).bind json.parse

/-- The flag in `ps`; a value of another type has no `match`, or is replaced by the empty text. -/
def payloadFlag (core : List Char) : Option (List Char) :=
  match (payloadJson json core).bind fun value => value.opt "ps" with
  | some (.string name) => flagOf name
  | _ => none

/-- `j.ps = label`: an array keeps it out of its text, and anything that is no object throws. -/
def assignPs (label : List Char) : Json → Option Json
  | .object members =>
      if members.any fun member => member.1 == "ps".toList then
        some (.object (members.map fun member =>
          if member.1 = "ps".toList then (member.1, .string label) else member))
      else some (.object (members ++ [("ps".toList, .string label)]))
  | .array items => some (.array items)
  | _ => none

/-- What stands behind the scheme of a vmess line once it carries the label. -/
def labelledPayload (label core : List Char) : Option (List Char) :=
  if "vmess://".toList.isPrefixOf core then
    ((payloadJson json core).bind (assignPs label)).map fun value =>
      btoa (Utf8.encode (json.stringify value))
  else none

/-- The label at the next line with the counters behind it; nothing for a line that is left as it
is. -/
def labelOf (vip : Option (List (List Char))) (counters : Counters) (line : List Char) :
    Option (List Char × Counters) :=
  let core := coreOf line
  if includes "://".toList core = false ∨ "warp://".toList.isPrefixOf core = true then none
  else
    let name := nameOf line
    let inPayload :=
      if "vmess://".toList.isPrefixOf core then payloadFlag json core else none
    let flag := ((flagOf name).or inPayload).getD globe
    if edgeName.isPrefixOf name then none
    else
      let tier := if vip.any fun seen => seen.contains (lineCore line) then " VIP".toList else []
      let n := (counters.lookup (flag ++ tier)).getD 0 + 1
      some (flag ++ " MolidoVPN ".toList ++ padStart 2 '0' (Text.decimal n) ++ tier,
        counters.insert (flag ++ tier) n)

def brandLine (vip : Option (List (List Char))) (counters : Counters) (line : List Char) :
    List Char × Counters :=
  match labelOf json vip counters line with
  | none => (line, counters)
  | some (label, counters) =>
      let core := coreOf line
      match labelledPayload json label core with
      | some payload => ("vmess://".toList ++ payload, counters)
      | none => (core ++ '#' :: encodeURIComponent label, counters)

def brandFrom (vip : Option (List (List Char))) : Counters → List (List Char) → List (List Char)
  | _, [] => []
  | counters, line :: rest =>
      let (branded, counters) := brandLine json vip counters line
      branded :: brandFrom vip counters rest

def brand (listed : Listed) : List (List Char) := brandFrom json listed.vip ∅ listed.lines

/-- The counters that a line finds. -/
def countersBefore (listed : Listed) (place : Nat) : Counters :=
  (listed.lines.take place).foldl (fun counters line => (brandLine json listed.vip counters line).2) ∅

private theorem brandFrom_getElem (vip : Option (List (List Char))) (counters : Counters)
    (lines : List (List Char)) (place : Nat) :
    (brandFrom json vip counters lines)[place]? =
      lines[place]?.map fun line =>
        (brandLine json vip ((lines.take place).foldl
          (fun counters line => (brandLine json vip counters line).2) counters) line).1 := by
  induction lines generalizing counters place with
  | nil => rfl
  | cons line rest ih =>
      rw [brandFrom]
      cases place with
      | zero => rfl
      | succ place =>
          rw [List.getElem?_cons_succ, List.getElem?_cons_succ, ih]
          rfl

/-- Every line is served at its own place. -/
theorem brand_getElem (listed : Listed) (place : Nat) :
    (brand json listed)[place]? =
      listed.lines[place]?.map fun line =>
        (brandLine json listed.vip (countersBefore json listed place) line).1 :=
  brandFrom_getElem json listed.vip ∅ listed.lines place

end Names

end MolidoVpn.Worker
