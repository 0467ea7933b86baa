import Mathlib.Data.List.AList
import MolidoVpn.Lib.Eviction
import MolidoVpn.Lib.Text

/-!
`cachedCatalog` of one isolate: a copy in memory, a copy in the edge cache, one build at a
time for a key that all its requests share, and the last good copy when a build fails.
What stands between two awaits is one step; a build that is over answers all that wait.
-/

namespace MolidoVpn.Worker

open Eviction (evict share)
open Text (jsTrim stripPrefix)

def catalogTtlMs : Nat := 5 * 60000

def catalogStaleIfErrorMs : Nat := 30 * 60000

/-- `max-age` of what is put in the edge cache. -/
def edgeTtlMs : Nat := 300 * 1000

/-- A JavaScript string, which counts in UTF-16 units. -/
abbrev Body := List UInt16

abbrev Key := List Char

/-- With the build that it came from, which is what makes two entries the same object. -/
structure Entry where
  build : Nat
  status : Nat
  body : Body
  etag : List Char
  at_ : Nat
  deriving DecidableEq

/-- How a build is over for those that wait for it: with an entry, with the answer of a source that
is not 200, or by an exception. -/
inductive BuildResult where
  | entry (entry : Entry)
  | refused (status : Nat) (body : Body) (retryAfter : Option (List Char))
  | thrown
  deriving DecidableEq

inductive BuildPc where
  | building
  | responded (status : Nat) (body : Body) (retryAfter : Option (List Char))
  | settled
  deriving DecidableEq

/-- A build belongs to the request that has started it: when that came, what was in memory then, and
what it keeps of that for the case of an error. -/
structure Build where
  key : Key
  arrived : Nat
  old : Option Entry
  stale : Option Entry
  pc : BuildPc
  deriving DecidableEq

inductive Method where
  | get
  | head
  | other
  deriving DecidableEq

structure Request where
  method : Method
  origin : List Char
  path : List Char
  format : Option (List Char)
  ifNoneMatch : Option (List Char)
  deriving DecidableEq

/-- What an answer was made from. -/
inductive Source where
  | refused
  | memory (entry : Entry)
  | edge (entry : Entry) (put : Nat)
  | built (entry : Entry)
  | staleIfError (entry : Entry) (arrived : Nat)
  | failure (arrived : Nat) (old : Option Entry)
  deriving DecidableEq

/-- `status` is absent where the request ends with an exception; `stale` is the header that names a
copy stale. -/
structure Reply where
  status : Option Nat
  body : Option Body
  etag : Option (List Char)
  retryAfter : Option (List Char)
  stale : Bool
  deriving DecidableEq

structure Answer where
  key : Option Key
  at_ : Nat
  source : Source
  reply : Reply
  deriving DecidableEq

inductive CallPc where
  | matching
  | waiting (build : Nat)
  | answered
  deriving DecidableEq

/-- A request that went past the copy in memory: what it has seen there and keeps of it. -/
structure Call where
  request : Request
  key : Key
  arrived : Nat
  old : Option Entry
  stale : Option Entry
  pc : CallPc
  deriving DecidableEq

structure Catalog where
  clock : Nat
  /-- `catalogMemo`, oldest first -/
  memo : List (Key × Entry)
  catalogChars : Int
  inflight : AList (fun _ : Key => Nat)
  builds : List Build
  calls : List Call
  /-- what is on its way to the edge cache, and what was put there with the time of that -/
  puts : List (Key × Entry)
  edge : List (Key × Entry × Nat)
  /-- the entries of the builds that were a success -/
  successes : List (Key × Entry)
  answers : List Answer
  deriving DecidableEq

def Catalog.initial : Catalog :=
  { clock := 0
    memo := []
    catalogChars := 0
    inflight := ∅
    builds := []
    calls := []
    puts := []
    edge := []
    successes := []
    answers := [] }

inductive CatalogLabel where
  | tick (ms : Nat)
  | request (request : Request)
  /-- the edge cache has this copy, or none that it gives -/
  | edgeHit (call : Nat) (copy : Nat)
  | edgeMiss (call : Nat)
  | edgePut (put : Nat)
  | buildThrows (build : Nat)
  | buildResponds (build : Nat) (status : Nat) (body : Body) (retryAfter : Option (List Char))
  | buildEnds (build : Nat)
  deriving DecidableEq

/-- What `catalogKey` makes of a path and the `format` of the query. -/
def catalogKey (path : List Char) (format : Option (List Char)) : Option (List Char) :=
  if path ∈ ["/sub/1", "/sub/2", "/sub/3", "/sub/4", "/sub/5"].map String.toList then some path
  else if path ∈ ["/ios", "/lite", "/hiddify"].map String.toList then
    some (path ++ if format = some "singbox".toList then "/singbox".toList else [])
  else if path ∈ ["/ios/singbox", "/lite/singbox", "/hiddify/singbox"].map String.toList then
    some path
  else if path = ['/'] then some path
  else none

def Request.key (request : Request) : Option Key :=
  (catalogKey request.path request.format).map fun path =>
    request.origin ++ "/__catalog/v2".toList ++ path

/-- `if-none-match` names the tag of the entry, or any. -/
def validates (validator etag : List Char) : Bool :=
  (validator.splitOn ',').any fun value =>
    let value := jsTrim value
    value == ['*'] || (stripPrefix ['W', '/'] value).getD value == etag

/-- `catalogResponse` -/
def catalogResponse (entry : Entry) (request : Request) : Reply :=
  if request.ifNoneMatch.any fun validator => validator ≠ [] && validates validator entry.etag then
    ⟨some 304, none, some entry.etag, none, false⟩
  else
    ⟨some 200, if request.method = .head then none else some entry.body, some entry.etag, none,
      false⟩

def staleResponse (entry : Entry) (request : Request) : Reply :=
  ⟨some 200, if request.method = .head then none else some entry.body, some entry.etag, none, true⟩

/-- The answer of a call that has waited, when its build is over. -/
def Call.reply (call : Call) : BuildResult → Reply
  | .entry entry =>
      if call.stale.any fun stale => stale.build == entry.build then
        staleResponse entry call.request
      else catalogResponse entry call.request
  | .refused status body retryAfter =>
      ⟨some status, if call.request.method = .head then none else some body, none, retryAfter, false⟩
  | .thrown => ⟨none, none, none, none, false⟩

namespace Catalog

def respond (state : Catalog) (key : Option Key) (source : Source) (reply : Reply) : Catalog :=
  { state with answers := state.answers ++ [⟨key, state.clock, source, reply⟩] }

def setCall (state : Catalog) (index : Nat) (call : Call) (pc : CallPc) : Catalog :=
  { state with calls := state.calls.set index { call with pc := pc } }

/-- The copy is good enough for the case that a build fails. -/
def isStaleIfError (clock : Nat) (entry : Entry) : Bool :=
  entry.status == 200 && clock - entry.at_ ≤ catalogStaleIfErrorMs

/-- A request up to its first await. -/
def arrive (state : Catalog) (request : Request) : Catalog :=
  if request.method = .other then state.respond none .refused ⟨some 405, none, none, none, false⟩
  else
    match request.key with
    | none => state.respond none .refused ⟨some 404, none, none, none, false⟩
    | some key =>
        let old := state.memo.lookup key
        match old.filter fun entry =>
            entry.status == 200 && state.clock - entry.at_ < catalogTtlMs with
        | some entry => state.respond key (.memory entry) (catalogResponse entry request)
        | none =>
            { state with
              calls := state.calls ++
                [⟨request, key, state.clock, old, old.filter (isStaleIfError state.clock),
                  .matching⟩] }

/-- A call that has no copy from the edge cache shares the build of its key, or starts one. -/
def join (state : Catalog) (index : Nat) (call : Call) : Catalog :=
  match state.inflight.lookup call.key with
  | some build => state.setCall index call (.waiting build)
  | none =>
      { state.setCall index call (.waiting state.builds.length) with
        inflight := state.inflight.insert call.key state.builds.length
        builds := state.builds ++ [⟨call.key, call.arrived, call.old, call.stale, .building⟩] }

def charsOf (kept : Key × Entry) : Nat := kept.2.body.length

/-- A good entry is kept in memory and sent to the edge cache, unless it is too long. -/
def store (state : Catalog) (key : Key) (entry : Entry) : Catalog :=
  if entry.body.length ≤ 1000000 then
    let evicted := evict charsOf 12 2000000
      (state.memo.filter (fun kept => kept.1 != key) ++ [(key, entry)])
      (state.catalogChars - share charsOf state.memo key + entry.body.length)
    { state with
      memo := evicted.1
      catalogChars := evicted.2
      puts := state.puts ++ [(key, entry)] }
  else state

/-- The answers of the calls that wait for this build. -/
def answersOf (state : Catalog) (index : Nat) (source : Source) (result : BuildResult) :
    List Answer :=
  (state.calls.filter fun call => call.pc == .waiting index).map fun call =>
    ⟨call.key, state.clock, source, call.reply result⟩

/-- A build is over: its key is free, and all that wait for it are answered. -/
def settle (state : Catalog) (index : Nat) (build : Build) (source : Source)
    (result : BuildResult) : Catalog :=
  { state with
    builds := state.builds.set index { build with pc := .settled }
    inflight := state.inflight.erase build.key
    calls := state.calls.map fun call =>
      if call.pc == .waiting index then { call with pc := .answered } else call
    answers := state.answers ++ state.answersOf index source result }

/-- A build has failed: its own stale copy stands in, if it has one. -/
def fail (state : Catalog) (index : Nat) (build : Build) (result : BuildResult) : Catalog :=
  match build.stale with
  | some stale => state.settle index build (.staleIfError stale build.arrived) (.entry stale)
  | none => state.settle index build (.failure build.arrived build.old) result

/-- A build was a success. -/
def succeed (state : Catalog) (index : Nat) (build : Build) (entry : Entry) : Catalog :=
  ({ state with successes := state.successes ++ [(build.key, entry)] }.store build.key
    entry).settle index build (.built entry) (.entry entry)

def next (digest : Body → List Char) (state : Catalog) : CatalogLabel → Option Catalog
  | .tick ms => some { state with clock := state.clock + ms }
  | .request request => some (state.arrive request)
  | .edgeHit index copy =>
      match state.calls[index]?, state.edge[copy]? with
      | some call, some (key, entry, put) =>
          if call.pc = .matching ∧ key = call.key ∧ state.clock ≤ put + edgeTtlMs then
            some ((state.setCall index call .answered).respond call.key (.edge entry put)
              (catalogResponse entry call.request))
          else none
      | _, _ => none
  | .edgeMiss index =>
      match state.calls[index]? with
      | some call => if call.pc = .matching then some (state.join index call) else none
      | none => none
  | .edgePut index =>
      state.puts[index]?.map fun (key, entry) =>
        { state with
          puts := state.puts.eraseIdx index
          edge := state.edge ++ [(key, entry, state.clock)] }
  | .buildThrows index =>
      match state.builds[index]? with
      | some build => if build.pc = .building then some (state.fail index build .thrown) else none
      | none => none
  | .buildResponds index status body retryAfter =>
      match state.builds[index]? with
      | some build =>
          if build.pc = .building then
            some { state with
              builds := state.builds.set index { build with pc := .responded status body retryAfter } }
          else none
      | none => none
  | .buildEnds index =>
      match state.builds[index]? with
      | some build =>
          match build.pc with
          | .responded status body retryAfter =>
              if status ≠ 200 then
                some (state.fail index build (.refused status body
                  (if status = 429 then retryAfter.or (some ['3', '0']) else retryAfter)))
              else
                some (state.succeed index build
                  ⟨index, status, body, '"' :: digest body ++ ['"'], state.clock⟩)
          | _ => none
      | none => none

end Catalog

end MolidoVpn.Worker
