import Mathlib.Algebra.Order.Field.Rat
import Mathlib.Data.Prod.Lex
import MolidoVpn.Lib.Dealing
import MolidoVpn.Lib.Ranking
import MolidoVpn.Worker.OwnerTests

/-!
The five links `/sub/1` to `/sub/5`: one list of servers for each, from the CDN list that they
share and the tested list that is dealt out among them, ranked by the reports from Iran, with the
owner's configs merged in. Rates are compared as exact fractions.
-/

namespace MolidoVpn.Worker

open Dealing (filterIdx deal topUp)
open JavaScript (atob encodeURIComponent)
open Ranking (rank)
open Text (splitAround jsTrim)

def subLinks : Nat := 5

def subMin : Nat := 50

def subMax : Nat := 100

/-- A list as it is, or out of base64. -/
def decodeList (body : List Char) : List Char :=
  let t := jsTrim body
  if includes "://".toList t then t else (atob (t.filter fun c => !Text.isJsSpace c)).getD []

section Transport

/-- The bytes that a part of a query stands for. -/
def formBytes : List Char → List UInt8
  | [] => []
  | '%' :: high :: low :: rest =>
      match Kotlin.hexDigit high, Kotlin.hexDigit low with
      | some high, some low => (high * 16 + low) :: formBytes rest
      | _, _ => Utf8.encode ['%'] ++ formBytes (high :: low :: rest)
  | c :: rest => Utf8.encode [if c = '+' then ' ' else c] ++ formBytes rest

/-- `new URLSearchParams(query).get(name)` -/
def queryGet (name query : List Char) : Option (List Char) :=
  ((query.splitOn '&').filter (· ≠ [])).findSome? fun pair =>
    let (key, value) := (splitAround ['='] pair).getD (pair, [])
    if Utf8.fromUtf8Lossy (formBytes key) = name then
      some (Utf8.fromUtf8Lossy (formBytes value))
    else none

/-- `line.slice(0, line.indexOf('://'))`, which is all but the last code unit where there is no
`://`. -/
def beforeScheme (line : List Char) : List Char :=
  match splitAround "://".toList line with
  | some (scheme, _) => scheme
  | none => if line.getLast?.any fun c => 0x10000 ≤ c.toNat then line else line.dropLast

/-- Only letters of ASCII have a lower case that occurs in the words below. -/
def lower (text : List Char) : List Char := text.map Char.toLower

def iosFriendly (line : List Char) : Bool :=
  let scheme := lower (beforeScheme line)
  if scheme = "hysteria2".toList ∨ scheme = "hy2".toList ∨ scheme = "tuic".toList then true
  else if scheme ≠ "vless".toList ∧ scheme ≠ "trojan".toList then false
  else
    let behind := ((splitAround ['?'] (coreOf line)).map Prod.snd).getD []
    let query := ((splitAround ['?'] behind).map Prod.fst).getD behind
    let security := (queryGet "security".toList query).getD []
    let sec := lower (if security ≠ [] then security
      else if scheme = "trojan".toList then "tls".toList else [])
    sec = "tls".toList || sec = "reality".toList

def strongTransport (line : List Char) : Bool := iosFriendly (coreOf line)

end Transport

section Pool

/-- The servers in order of quality: behind the CDN ones those with a strong transport, then
everything else. -/
structure Pool where
  cdn : List (List Char)
  strong : List (List Char)
  rest : List (List Char)

def cdnName (core : List Char) (number : Nat) : List Char :=
  core ++ '#' :: encodeURIComponent ("MolidoVPN CDN ".toList ++ Text.decimal number)

/-- The loop over the CDN list, with the cores that it has seen and how many lines it has listed;
it leaves the cores for the other list. -/
def addCdn : List (List Char) → Nat → List (List Char) → List (List Char) × List (List Char)
  | seen, _, [] => ([], seen)
  | seen, c, l :: rest =>
      let line := jsTrim l
      if includes "://".toList line = false ∨ line.head? = some '#' then addCdn seen c rest
      else
        let core := coreOf line
        if core ∈ seen then addCdn seen c rest
        else
          let added := addCdn (core :: seen) (c + 1) rest
          (cdnName core (c + 1) :: added.1, added.2)

/-- The loop over the tested list. -/
def addTested : List (List Char) → List (List Char) → List (List Char)
  | _, [] => []
  | seen, l :: rest =>
      let line := jsTrim l
      if includes "://".toList line = false then addTested seen rest
      else
        let core := coreOf line
        if core ∈ seen then addTested seen rest
        else line :: addTested (core :: seen) rest

def poolOf (shard full : List Char) : Pool :=
  let (cdn, seen) := addCdn [] 0 (shard.splitOn '\n')
  let tested := addTested seen ((decodeList full).splitOn '\n')
  { cdn := cdn
    strong := tested.filter strongTransport
    rest := tested.filter fun line => !strongTransport line }

end Pool

section Reports

/-- What the users in Iran have reported of a server in a week. -/
structure Score where
  ok : Nat
  fail : Nat

abbrev Scores := AList fun _ : List Char => Score

variable (scores : Scores)

/-- `scores.get(await nodeFingerprint(line))` -/
def scoreOf (line : List Char) : Option Score := scores.lookup (fingerprintOf (lineCore line))

/-- 0 = worked in Iran, 1 = no data, 2 = only failures in Iran; within the first the rate. -/
def tierOf (line : List Char) : ℕ ×ₗ ℚ :=
  match scoreOf scores line with
  | none => toLex (1, 0)
  | some s => if 0 < s.ok then toLex (0, -((s.ok : ℚ) + 1) / (s.ok + s.fail + 2)) else toLex (2, 0)

def rankByReports (lines : List (List Char)) : List (List Char) :=
  if scores.entries = [] then lines else rank (tierOf scores) lines

def onlyFailed (line : List Char) : Bool :=
  match scoreOf scores line with
  | none => false
  | some s => s.ok == 0 && decide (0 < s.fail)

def dropIranFailed (lines : List (List Char)) (min : Nat) : List (List Char) :=
  if scores.entries = [] then lines
  else
    let kept := lines.filter fun line => !onlyFailed scores line
    if min ≤ kept.length then kept else lines

end Reports

section Owner

/-- The owner's configs in the snapshot. `ownerEntries` takes a core only once. -/
structure OwnerSnapshot where
  entries : List OwnerEntry
  status : OwnerStatus
  distinct : (entries.map fun entry => lineCore entry.line).Nodup

def ownerUserHideFails : Nat := 3

def ownerUserWeakN : Nat := 4

def ownerUserWeakScore : ℚ := 35 / 100

def ownerUserScore : Option UserSums → ℚ
  | some u => ((u.ok : ℚ) + 1) / (u.ok + u.fail + 2)
  | none => 1 / 2

/-- Where `ownerOrder` puts a config, if it shows it: whether among the weak ones, and the score
that it is ordered by there. -/
def ownerPlace (st : OwnerStatus) (e : OwnerEntry) : Option (Bool × ℚ) :=
  if ownerHidden e st then none
  else
    let u := st.users e.fp
    let s := ownerUserScore u
    let top := some (false, if e.alwaysShow then 2 else s)
    if e.alwaysShow then top
    else
      match u with
      | none => top
      | some u =>
          if u.ok = 0 ∧ ownerUserHideFails ≤ u.fail then none
          else if ownerUserWeakN ≤ u.ok + u.fail ∧ s < ownerUserWeakScore then some (true, s)
          else top

/-- The lines of the configs that are shown at one of the two places, best first. -/
def ownerAt (weak : Bool) (st : OwnerStatus) (entries : List OwnerEntry) : List (List Char) :=
  (rank (fun placed : OwnerEntry × ℚ => -placed.2)
    (entries.filterMap fun e =>
      (ownerPlace st e).bind fun place => if place.1 = weak then some (e, place.2) else none)).map
    fun placed => placed.1.line

/-- `ownerLines` -/
def OwnerSnapshot.lines (snap : OwnerSnapshot) : OwnerLines :=
  let top := ownerAt false snap.status snap.entries
  let weak := ownerAt true snap.status snap.entries
  { lines := top ++ weak
    weak := weak.map lineCore }

end Owner

section Links

variable (pool : Pool) (scores : Scores) (snap : OwnerSnapshot)

/-- The CDN servers, ranked. -/
def cdnRanked : List (List Char) := rankByReports scores pool.cdn

/-- The other servers, ranked and dealt out. -/
def buckets : List (List (List Char)) :=
  deal subLinks (subMax - 20) 0 (List.replicate subLinks [])
    (rankByReports scores (pool.strong ++ pool.rest))

/-- `buckets[n - 1]`, for the link with the number `n`. -/
def ownShare (n : Nat) : List (List Char) := ((buckets pool scores)[n - 1]?).getD []

/-- The servers of a link before they are ranked: its part of the CDN servers, its own share, and
CDN servers of the other links as long as there are too few. -/
def candidates (n : Nat) : List (List Char) :=
  let cdnShare := filterIdx (fun i => i % subLinks == n - 1) 0 (cdnRanked pool scores)
  let cdnOthers := filterIdx (fun i => !(i % subLinks == n - 1)) 0 (cdnRanked pool scores)
  topUp subMin (cdnShare ++ ownShare pool scores n) cdnOthers

/-- The servers of a link before the owner's are merged in. -/
def clean (n : Nat) : List (List Char) :=
  (dropIranFailed scores (rankByReports scores (candidates pool scores n)) subMin).take subMax

/-- The list of a link; there is none where there is no server. -/
def subList (n : Nat) : Option Listed :=
  if candidates pool scores n = [] then none
  else some (mergeOwner snap.lines (clean pool scores n))

/-- What a link answers with a list of lines. -/
def subRoute (json : JavaScript.JsonText) (shard full : List Char) (n : Nat) :
    Option (List (List Char)) :=
  if n < 1 ∨ subLinks < n then none
  else (subList (poolOf shard full) scores snap n).map (brand json)

end Links

end MolidoVpn.Worker
