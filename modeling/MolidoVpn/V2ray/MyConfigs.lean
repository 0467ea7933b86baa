import MolidoVpn.Lib.Base64
import MolidoVpn.V2ray.ShareLine

/-!
`MyConfigs`: the user's own configs and subscriptions. Every operation reads the whole store and
writes it back while it holds the lock; a read that fails gives an empty store.
-/

namespace MolidoVpn.V2ray.MyConfigs

open Kotlin (trim substringBefore substringBeforeOr substringAfter substringAfterOr)
open Shard (ifEmpty param)

abbrev Id := List Char

inductive Kind where
  | proxy
  | wireguard
  deriving DecidableEq

structure Entry where
  id : Id
  name : List Char
  line : List Char
  kind : Kind
  subId : Id := []
  latencyMs : Int := -1
  deriving DecidableEq

structure Sub where
  id : Id
  url : List Char
  name : List Char
  lastFetch : Int
  deriving DecidableEq

structure Store where
  entries : List Entry
  subs : List Sub
  deriving DecidableEq

def maxEntries : Nat := 500

/-- The platform as these operations see it. No two ids that `randomUUID` gives are the same. -/
structure Device extends Platform where
  keepsHash : KeepsHash toPlatform
  newId : Nat → Id
  newId_injective : newId.Injective
  newId_ne_nil : ∀ count, newId count ≠ []
  /-- Whether two letters are the same but for their case. -/
  sameLetter : Char → Char → Bool
  /-- `URL(text).host`; nothing where it throws. -/
  urlHost : List Char → Option (List Char)
  /-- Whether `AmneziaConfig.parse` takes the text. -/
  validConf : List Char → Bool
  /-- `optInt(name, 0)` -/
  optInt : Json → String → Int

section Texts

variable (device : Device)

def startsWithIgnoreCase (start text : List Char) : Bool :=
  start.length ≤ text.length && (start.zipWith device.sameLetter text).all id

def containsIgnoreCase (part text : List Char) : Bool :=
  text.tails.any (startsWithIgnoreCase device part)

/-- Outline serves keys over HTTPS. -/
def httpsUrl (url : List Char) : List Char :=
  if startsWithIgnoreCase device "ssconf://".toList url then
    "https://".toList ++ url.drop "ssconf://".length
  else url

/-- URL-safe and without padding. -/
def encodeUserInfo (text : List Char) : List Char :=
  ((Base64.encode (Utf8.encode text)).filter (· ≠ '=')).map fun c =>
    if c = '+' then '-' else if c = '/' then '_' else c

/-- The answer for an Outline key as a share line; any other body as it is. -/
def outlineBody (body url : List Char) : List Char :=
  let text := trim body
  if text.head? ≠ some '{' then text
  else
    match device.parseObject text with
    | none => text
    | some o =>
        let server := trim (o.optString "server")
        let port := device.optInt o "server_port"
        let password := o.optString "password"
        let method := trim (o.optString "method")
        if server = [] ∨ port < 1 ∨ 65535 < port ∨ password = [] ∨ method = [] then text
        else
          let userInfo := encodeUserInfo (method ++ ':' :: password)
          let host :=
            if server.contains ':' ∧ server.head? ≠ some '[' then '[' :: server ++ [']'] else server
          let name := ifEmpty (substringAfterOr ['#'] [] url) "Outline".toList
          "ss://".toList ++ userInfo ++ '@' :: host ++ ':' :: (toString port).toList ++ '#' :: name

def wireGuardUriToConf (line : List Char) : Option (List Char) :=
  let body := substringAfter "://".toList (substringBefore ['#'] line)
  let privateKey := decode (substringBeforeOr ['@'] [] body)
  let hostPortQuery := substringAfter ['@'] body
  let endpoint := dropSlashes (substringBefore ['?'] hostPortQuery)
  let q := parseQuery device.toPlatform (substringAfterOr ['?'] [] hostPortQuery)
  let publicKey :=
    ifEmpty (ifEmpty (get q "publickey") (get q "public_key")) (get q "peer_public_key")
  let address := ifEmpty (get q "address") (get q "ip")
  if privateKey = [] ∨ publicKey = [] ∨ address = [] ∨ endpoint = [] then none
  else
    let mtu := get q "mtu"
    some ("[Interface]\nPrivateKey = ".toList ++ privateKey ++ "\nAddress = ".toList ++ address ++
      "\n".toList ++ (if mtu = [] then [] else "MTU = ".toList ++ mtu ++ "\n".toList) ++
      "[Peer]\nPublicKey = ".toList ++ publicKey ++ "\nEndpoint = ".toList ++ endpoint ++
      "\nAllowedIPs = 0.0.0.0/0, ::/0\n".toList)

end Texts

/-- An entry that has not been stored yet. -/
structure Draft where
  name : List Char
  line : List Char
  deriving DecidableEq

def Draft.ofNode (node : V2rayNode) : Draft :=
  { name := ifEmpty node.name node.address
    line := shareLine node }

/-- What an operation does while it holds the lock. -/
inductive Action where
  | rename (id : Id) (name : List Char)
  | delete (id : Id)
  | deleteSub (subId : Id)
  | setLatency (results : Id → Option Int)
  | appendProxies (fresh : List Draft)
  | addWireGuardConf (conf name : List Char)
  | storeSub (url host : List Char)
  | storeNodes (subId : Id) (lines : List (List Char))

/-- What a thread does next: an action, or the request for a subscription. -/
inductive Task where
  | locked (action : Action)
  | fetch (sub : Sub)

/-- What an action leaves: the store that it writes, if it writes one, the number of ids that have
been drawn, the entries that it has removed by their ids, and what its thread does before all
else. -/
structure Outcome where
  write : Option Store
  drawn : Nat
  removed : Option (List Id) := none
  tasks : List Task := []

section Actions

variable (device : Device)

/-- The identity of an entry. -/
def canonical (entry : Entry) : Option (List Char) :=
  if entry.kind = .proxy then (parseOne device.toPlatform entry.line).map V2rayNode.uri else none

/-- The loop over the drafts, with the identities that it has seen. -/
def unknown (known : List (List Char)) : List Draft → List Draft
  | [] => []
  | draft :: rest =>
      match (parseOne device.toPlatform draft.line).map V2rayNode.uri with
      | none => unknown known rest
      | some uri =>
          if uri ∈ known then unknown known rest else draft :: unknown (uri :: known) rest

/-- The entries for the drafts, with the next ids. -/
def entriesOf (drawn : Nat) (subId : Id) (drafts : List Draft) : List Entry :=
  drafts.mapIdx fun index draft =>
    { id := device.newId (drawn + index)
      name := draft.name
      line := draft.line
      kind := .proxy
      subId := subId }

def appendProxies (fresh : List Draft) (store : Store) (drawn : Nat) : Outcome :=
  let known := store.entries.filterMap (canonical device)
  let toAdd := (unknown device known fresh).take (maxEntries - store.entries.length)
  if toAdd = [] then { write := none, drawn := drawn }
  else
    { write := some { store with entries := store.entries ++ entriesOf device drawn [] toAdd }
      drawn := drawn + toAdd.length }

def addWireGuardConf (conf name : List Char) (store : Store) (drawn : Nat) : Outcome :=
  if !device.validConf conf then { write := none, drawn := drawn }
  else if store.entries.any fun entry => entry.kind = .wireguard && entry.line = conf then
    { write := none, drawn := drawn }
  else if maxEntries ≤ store.entries.length then { write := none, drawn := drawn }
  else
    { write := some { store with
        entries := store.entries ++
          [{ id := device.newId drawn
             name := ifEmpty name "WireGuard".toList
             line := conf
             kind := .wireguard }] }
      drawn := drawn + 1 }

def storeSub (url host : List Char) (store : Store) (drawn : Nat) : Outcome :=
  match store.subs.find? fun sub => sub.url = url with
  | some sub => { write := none, drawn := drawn, tasks := [.fetch sub] }
  | none =>
      let sub : Sub := { id := device.newId drawn, url := url, name := host, lastFetch := 0 }
      { write := some { store with subs := store.subs ++ [sub] }
        drawn := drawn + 1
        tasks := [.fetch sub] }

/-- `parseOne(line)?.uri.orEmpty()` -/
def keyOf (entry : Entry) : List Char :=
  ((parseOne device.toPlatform entry.line).map V2rayNode.uri).getD []

/-- The entry for a node of a subscription: the one that it had before, if it had one. -/
def entryOf (subId : Id) (previous : List Entry) (drawn index : Nat) (node : V2rayNode) : Entry :=
  match previous.reverse.find? fun entry => keyOf device entry = node.uri with
  | some entry => { entry with line := shareLine node }
  | none =>
      { id := device.newId (drawn + index)
        name := ifEmpty node.name node.address
        line := shareLine node
        kind := .proxy
        subId := subId }

/-- The nodes of a subscription that there is room for. -/
def nodesFor (subId : Id) (lines : List (List Char)) (store : Store) : List V2rayNode :=
  (parse device.toPlatform lines).take
    (maxEntries - (store.entries.filter fun entry => entry.subId ≠ subId).length)

/-- The entries of a subscription after it has been fetched. -/
def freshEntries (subId : Id) (lines : List (List Char)) (store : Store) (drawn : Nat) :
    List Entry :=
  let previous := store.entries.filter fun entry => entry.subId = subId
  (nodesFor device subId lines store).mapIdx (entryOf device subId previous drawn)

/-- An empty answer is more likely a block than a wipe. -/
def storeNodes (subId : Id) (lines : List (List Char)) (now : Int) (store : Store) (drawn : Nat) :
    Outcome :=
  if !store.subs.any fun sub => sub.id = subId then { write := none, drawn := drawn }
  else
    let subs := store.subs.map fun sub =>
      if sub.id = subId then { sub with lastFetch := now } else sub
    if parse device.toPlatform lines = [] then
      { write := some { store with subs := subs }, drawn := drawn }
    else
      let others := store.entries.filter fun entry => entry.subId ≠ subId
      let fresh := freshEntries device subId lines store drawn
      { write := some { entries := others ++ fresh, subs := subs }
        drawn := drawn + fresh.length }

/-- An action on the store as it has been read. -/
def Action.run (action : Action) (now : Int) (store : Store) (drawn : Nat) : Outcome :=
  match action with
  | rename id name =>
      { write := some { store with
          entries := store.entries.map fun entry =>
            if entry.id = id then { entry with name := ifEmpty (trim name) entry.name } else entry }
        drawn := drawn }
  | delete id =>
      { write := some { store with entries := store.entries.filter fun entry => entry.id ≠ id }
        drawn := drawn
        removed := some [id] }
  | deleteSub subId =>
      { write := some
          { entries := store.entries.filter fun entry => entry.subId ≠ subId
            subs := store.subs.filter fun sub => sub.id ≠ subId }
        drawn := drawn
        removed := some ((store.entries.filter fun entry => entry.subId = subId).map Entry.id) }
  | setLatency results =>
      { write := some { store with
          entries := store.entries.map fun entry =>
            match results entry.id with
            | some latency => { entry with latencyMs := latency }
            | none => entry }
        drawn := drawn }
  | appendProxies fresh => MyConfigs.appendProxies device fresh store drawn
  | addWireGuardConf conf name => MyConfigs.addWireGuardConf device conf name store drawn
  | storeSub url host => MyConfigs.storeSub device url host store drawn
  | storeNodes subId lines => MyConfigs.storeNodes device subId lines now store drawn

end Actions

/-- An operation, as it is called. -/
inductive Call where
  | addText (text : List Char)
  | addSubscription (url : List Char)
  | refreshSub (sub : Sub)
  | delete (id : Id)
  | deleteSub (subId : Id)
  | rename (id : Id) (name : List Char)
  | setLatency (results : Id → Option Int)

section Calls

variable (device : Device)

def addSubscription (url : List Char) : List Task :=
  let u := trim url
  match device.urlHost (httpsUrl device u) with
  | none => []
  | some host => if host = [] then [] else [.locked (.storeSub u host)]

def schemeOf (line : List Char) : List Char :=
  lower device.toPlatform (substringBeforeOr "://".toList [] line)

/-- What is no proxy is added at once. -/
def tasksOf (line : List Char) : List Task :=
  if (texts ["http", "https", "ssconf"]).contains (schemeOf device line) then
    addSubscription device line
  else if (texts ["wireguard", "wg"]).contains (schemeOf device line) then
    match wireGuardUriToConf device line with
    | none => []
    | some conf =>
        [.locked (.addWireGuardConf conf (decode (substringAfterOr ['#'] [] line)))]
  else []

def draftOf (line : List Char) : Option Draft :=
  if (texts ["http", "https", "ssconf", "wireguard", "wg"]).contains (schemeOf device line) then
    none
  else (parseOne device.toPlatform line).map Draft.ofNode

def addText (text : List Char) : List Task :=
  let trimmed := trim text
  if trimmed = [] then []
  else if containsIgnoreCase device "[Interface]".toList trimmed then
    [.locked (.addWireGuardConf trimmed [])]
  else
    let lines :=
      if (Text.splitAround "://".toList trimmed).isSome then linesOf trimmed
      else decodeBody device.toPlatform trimmed
    let proxies := lines.filterMap (draftOf device)
    lines.flatMap (tasksOf device) ++
      if proxies = [] then [] else [.locked (.appendProxies proxies)]

def Call.tasks : Call → List Task
  | addText text => MyConfigs.addText device text
  | addSubscription url => MyConfigs.addSubscription device url
  | refreshSub sub => [.fetch sub]
  | delete id => [.locked (.delete id)]
  | deleteSub subId => [.locked (.deleteSub subId)]
  | rename id name => [.locked (.rename id name)]
  | setLatency results => [.locked (.setLatency results)]

/-- What follows the answer for a subscription. -/
def answered (sub : Sub) : Option (List Char) → List Task
  | none => []
  | some body =>
      [.locked (.storeNodes sub.id
        (decodeBody device.toPlatform (outlineBody device body sub.url)))]

end Calls

/-- The lock, held after the write by an operation that has removed entries: it looks at the pin,
and then it clears it. -/
inductive Lock where
  | free
  | unpinning (removed : List Id)
  | clearing
  deriving DecidableEq

/-- An action that has been done, with the entries before and after it. -/
structure Change where
  before : List Entry
  action : Action
  after : List Entry

structure State where
  store : Store
  pinned : Id
  drawn : Nat
  threads : List (List Task)
  lock : Lock
  changes : List Change

def State.initial : State :=
  { store := { entries := [], subs := [] }
    pinned := []
    drawn := 0
    threads := []
    lock := .free
    changes := [] }

inductive Label where
  | call (call : Call)
  /-- What the request of a thread gives. -/
  | answer (thread : Nat) (body : Option (List Char))
  /-- The next action of a thread, and whether its read of the store fails. -/
  | act (thread : Nat) (fails : Bool) (now : Int)
  /-- The operation that holds the lock goes on. -/
  | unpin
  /-- The user pins an entry, or none. -/
  | pin (id : Id)

def readStore (fails : Bool) (store : Store) : Store :=
  if fails then { entries := [], subs := [] } else store

section Steps

variable (device : Device)

/-- A thread takes the lock for its action. -/
def State.act (s : State) (thread : Nat) (action : Action) (rest : List Task) (fails : Bool)
    (now : Int) : State :=
  let outcome := action.run device now (readStore fails s.store) s.drawn
  let store := outcome.write.getD s.store
  { s with
    store := store
    drawn := outcome.drawn
    threads := s.threads.set thread (outcome.tasks ++ rest)
    lock := (outcome.removed.map Lock.unpinning).getD .free
    changes := s.changes ++ [⟨s.store.entries, action, store.entries⟩] }

def next (s : State) : Label → Option State
  | .call call => some { s with threads := s.threads ++ [call.tasks device] }
  | .answer thread body =>
      match s.threads[thread]? with
      | some (.fetch sub :: rest) =>
          some { s with threads := s.threads.set thread (answered device sub body ++ rest) }
      | _ => none
  | .act thread fails now =>
      match s.lock, s.threads[thread]? with
      | .free, some (.locked action :: rest) => some (s.act device thread action rest fails now)
      | _, _ => none
  | .unpin =>
      match s.lock with
      | .free => none
      | .unpinning removed =>
          some { s with lock := if s.pinned ∈ removed then .clearing else .free }
      | .clearing => some { s with pinned := [], lock := .free }
  | .pin id =>
      if id = [] ∨ id ∈ s.store.entries.map Entry.id then some { s with pinned := id } else none

end Steps

end MolidoVpn.V2ray.MyConfigs
