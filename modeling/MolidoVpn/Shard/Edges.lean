import Mathlib.Data.List.Rotate
import Mathlib.Data.List.Nodup
import MolidoVpn.Lib.FirstSeen
import MolidoVpn.Shard.Pool
import MolidoVpn.Shard.RemotePolicy

/-!
`ShardEdges.expand`: every node that stands behind the CDN, at its own address and at every edge,
and `pathsPerNode`, which is to count what that gives.
-/

namespace MolidoVpn.Shard.Edges

open FirstSeen (addNew firsts nodup_eraseDups)
open RemotePolicy (Device isCloudflareAddress)

/-- What the expansion asks the app for: the address that the user has set, the addresses that a
scan has found, and the edges of the policy. -/
structure Context where
  device : Device
  customCfIp : List Char
  cleanIps : List (List Char)
  policyEdges : List (List Char)

def Context.hasCustomIp (context : Context) : Bool := !context.customCfIp.isEmpty

/-- The edges that the nodes are taken to, those of the scan first. -/
def Context.edges (context : Context) : List (List Char) :=
  (context.cleanIps ++ context.policyEdges).eraseDups

def cdnPorts : List Int :=
  [80, 8080, 8880, 2052, 2082, 2086, 2095, 443, 2053, 2083, 2087, 2096, 8443]

def edgeExpandable (node : V2ray.V2rayNode) : Bool :=
  node.network = "ws".toList && node.security = "tls".toList && !Kotlin.isBlank node.host

def isExpandable (context : Context) (node : PoolNode) : Bool :=
  !Kotlin.isBlank node.host && node.v2ray.all edgeExpandable && cdnPorts.contains node.port &&
    isCloudflareAddress context.device node.address

section Expand

variable (context : Context)

/-- The address of the node, and the edges. -/
def addresses (node : PoolNode) : List (List Char) :=
  node.address :: context.edges.filter fun edge => edge ≠ node.address

def variant (node : PoolNode) (address : List Char) : PoolNode :=
  if address = node.address then node else { node with address := address }

/-- The node at all its addresses, beginning with the one that its place in the list gives it. -/
def variants (node : PoolNode) (index : Nat) : List PoolNode :=
  let addresses := addresses context node
  let offset := index % addresses.length
  (List.range addresses.length).filterMap fun step =>
    addresses[(offset + step) % addresses.length]?.map (variant node)

def expandFrom : List PoolNode → Nat → List PoolNode → List PoolNode
  | [], _, out => out
  | node :: rest, index, out =>
      let emitted := if isExpandable context node then variants context node index else [node]
      expandFrom rest (index + 1) (emitted.foldl (addNew PoolNode.key) out)

/-- With an address of the user's own there is one entry for every node. -/
def expand (nodes : List PoolNode) : List PoolNode :=
  if context.hasCustomIp then firsts PoolNode.key nodes else expandFrom context nodes 0 []

def pathsPerNode : Nat := if context.hasCustomIp then 1 else context.edges.length + 1

/-- `ShardSubscription.cachedPathCount`, of so many nodes. -/
def cachedPathCount (nodes : Nat) : Nat :=
  if nodes ≤ 0 then 0
  else
    let perNode := pathsPerNode context
    if perNode ≤ 0 then nodes else nodes * perNode

end Expand

section Emitted

variable {context : Context}

/-- What a node gives, wherever its addresses begin. -/
def paths (context : Context) (node : PoolNode) : List PoolNode :=
  if isExpandable context node then (addresses context node).map (variant node) else [node]

/-- What the node at a place in the list gives: its addresses begin at that place modulo their
number. -/
def emitted (context : Context) (node : PoolNode) (index : Nat) : List PoolNode :=
  if isExpandable context node then
    ((addresses context node).rotate (index % (addresses context node).length)).map (variant node)
  else [node]

def emittedFrom (context : Context) (nodes : List PoolNode) (index : Nat) : List PoolNode :=
  (nodes.zipIdx index).flatMap fun entry => emitted context entry.1 entry.2

theorem filterMap_getElem? {Element : Type*} (elements : List Element) :
    (List.range elements.length).filterMap (fun step => elements[step]?) = elements := by
  induction elements with
  | nil => rfl
  | cons first rest ih =>
      rw [List.length_cons, List.range_succ_eq_map, List.filterMap_cons, List.filterMap_map]
      exact congrArg (first :: ·) ih

/-- Steps that go round the list from an offset rotate it. -/
theorem filterMap_rotate {Element : Type*} (elements : List Element) (offset : Nat) :
    (List.range elements.length).filterMap
        (fun step => elements[(offset + step) % elements.length]?) =
      elements.rotate offset := by
  have turned := filterMap_getElem? (elements.rotate offset)
  rw [List.length_rotate] at turned
  rw [← turned]
  apply List.filterMap_congr
  intro step inside
  rw [List.getElem?_rotate (List.mem_range.mp inside), Nat.add_comm]

theorem variants_eq (node : PoolNode) (index : Nat) :
    variants context node index =
      ((addresses context node).rotate (index % (addresses context node).length)).map
        (variant node) := by
  rw [← filterMap_rotate, List.map_filterMap]
  rfl

theorem expandFrom_eq (nodes : List PoolNode) (index : Nat) (out : List PoolNode) :
    expandFrom context nodes index out =
      (emittedFrom context nodes index).foldl (addNew PoolNode.key) out := by
  induction nodes generalizing index out with
  | nil => rfl
  | cons node rest ih =>
      unfold emittedFrom at ih ⊢
      rw [expandFrom, ih, List.zipIdx_cons, List.flatMap_cons, List.foldl_append, variants_eq]
      rfl

theorem paths_perm (node : PoolNode) (index : Nat) :
    (emitted context node index).Perm (paths context node) := by
  unfold emitted paths
  split
  · exact (List.rotate_perm _ _).map _
  · exact List.Perm.refl _

theorem emittedFrom_perm (nodes : List PoolNode) (index : Nat) :
    (emittedFrom context nodes index).Perm (nodes.flatMap (paths context)) := by
  induction nodes generalizing index with
  | nil => exact List.Perm.refl _
  | cons node rest ih =>
      unfold emittedFrom at ih ⊢
      rw [List.zipIdx_cons, List.flatMap_cons, List.flatMap_cons]
      exact (paths_perm node index).append (ih _)

/-- All that is emitted, in order. -/
def emittedAll (context : Context) (nodes : List PoolNode) : List PoolNode :=
  if context.hasCustomIp then nodes else emittedFrom context nodes 0

theorem expand_eq (context : Context) (nodes : List PoolNode) :
    expand context nodes = firsts PoolNode.key (emittedAll context nodes) := by
  unfold expand emittedAll
  split
  · rfl
  · exact expandFrom_eq nodes 0 []

end Emitted

section Keys

variable {context : Context}

theorem variant_eq (node : PoolNode) (address : List Char) :
    variant node address = { node with address := address } := by
  unfold variant
  split
  · rename_i own
    rw [own]
  · rfl

/-- The address stands in the key between two texts that do not depend on it. -/
theorem key_variant (node : PoolNode) :
    ∃ front back, ∀ address, (variant node address).key = front ++ address ++ back := by
  cases server : node.v2ray with
  | some read =>
      refine ⟨"v2|".toList ++ V2ray.fingerprint read.uri ++ ['|'], '|' :: portText node, ?_⟩
      intro address
      rw [variant_eq]
      simp [PoolNode.key, server, List.intercalate, List.intersperse, portText]
  | none =>
      refine ⟨node.protocol ++ ['|'] ++ node.credential ++ ['|'],
        '|' :: List.intercalate ['|'] [portText node, node.network, node.security, node.path,
          node.host], ?_⟩
      intro address
      rw [variant_eq]
      simp [PoolNode.key, server, ShardNode.key, List.intercalate, List.intersperse, portText]

theorem key_variant_injective (node : PoolNode) :
    Function.Injective fun address => (variant node address).key := by
  obtain ⟨front, back, keyed⟩ := key_variant node
  intro first second same
  simp only [keyed] at same
  exact List.append_cancel_left (List.append_cancel_right same)

theorem nodup_edges (context : Context) : context.edges.Nodup := nodup_eraseDups _

theorem nodup_addresses (context : Context) (node : PoolNode) :
    (addresses context node).Nodup := by
  unfold addresses
  rw [List.nodup_cons]
  constructor
  · intro member
    exact of_decide_eq_true (List.mem_filter.mp member).2 rfl
  · exact (nodup_edges context).filter _

theorem nodup_keys_paths (node : PoolNode) : ((paths context node).map PoolNode.key).Nodup := by
  unfold paths
  split
  · rw [List.map_map]
    exact (nodup_addresses context node).map (key_variant_injective node)
  · exact List.nodup_cons.mpr ⟨List.not_mem_nil, List.nodup_nil⟩

theorem mem_addresses (node : PoolNode) (address : List Char) :
    address ∈ addresses context node ↔ address = node.address ∨ address ∈ context.edges := by
  unfold addresses
  rw [List.mem_cons, List.mem_filter]
  by_cases own : address = node.address
  · exact ⟨fun _ => Or.inl own, fun _ => Or.inl own⟩
  · rw [decide_eq_true own, and_iff_left rfl]

end Keys

section Expanded

variable {context : Context} {nodes : List PoolNode} {node path : PoolNode}

theorem mem_paths (address : List Char) (expandable : isExpandable context node = true)
    (known : address = node.address ∨ address ∈ context.edges) :
    variant node address ∈ paths context node := by
  rw [paths, if_pos expandable]
  exact List.mem_map_of_mem ((mem_addresses node address).mpr known)

theorem self_mem_paths (context : Context) (node : PoolNode) : node ∈ paths context node := by
  by_cases expandable : isExpandable context node = true
  · have own := mem_paths node.address expandable (Or.inl rfl)
    rwa [variant_eq] at own
  · rw [paths, if_neg expandable]
    exact List.mem_singleton_self node

theorem of_mem_paths (member : path ∈ paths context node) :
    path = node ∨ isExpandable context node = true ∧
      ∃ address ∈ context.edges, path = { node with address := address } := by
  unfold paths at member
  split at member
  · rename_i expandable
    obtain ⟨address, known, rfl⟩ := List.mem_map.mp member
    rw [variant_eq]
    rcases (mem_addresses node address).mp known with rfl | edge
    · exact Or.inl rfl
    · exact Or.inr ⟨expandable, address, edge, rfl⟩
  · exact Or.inl (List.mem_singleton.mp member)

theorem mem_emittedAll (custom : context.hasCustomIp = false) :
    path ∈ emittedAll context nodes ↔ ∃ node ∈ nodes, path ∈ paths context node := by
  rw [emittedAll, if_neg (ne_true_of_eq_false custom), (emittedFrom_perm nodes 0).mem_iff,
    List.mem_flatMap]

theorem self_mem_emittedAll (member : node ∈ nodes) : node ∈ emittedAll context nodes := by
  cases custom : context.hasCustomIp with
  | true => rwa [emittedAll, if_pos custom]
  | false => exact (mem_emittedAll custom).mpr ⟨node, member, self_mem_paths context node⟩

/-- What is emitted has its key among what is kept, once. -/
theorem kept_of_emitted (emitted : path ∈ emittedAll context nodes) :
    ∃! kept, kept ∈ expand context nodes ∧ kept.key = path.key := by
  have distinct := FirstSeen.nodup_firsts PoolNode.key (emittedAll context nodes)
  rw [← expand_eq] at distinct
  have there : path.key ∈ (expand context nodes).map PoolNode.key := by
    rw [expand_eq, FirstSeen.keys_firsts]
    exact List.mem_map_of_mem emitted
  obtain ⟨kept, member, same⟩ := List.mem_map.mp there
  refine ⟨kept, ⟨member, same⟩, fun other both => ?_⟩
  exact List.inj_on_of_nodup_map distinct both.1 member (both.2.trans same.symm)

/-- An expansion of the nodes. What counts is the key, which leaves out some fields: of what is
emitted under one key the first is kept, whichever node it is of. -/
structure Expanded (context : Context) (nodes out : List PoolNode) : Prop where
  distinct : (out.map PoolNode.key).Nodup
  order : out.Sublist (emittedAll context nodes)
  first : ∀ path, path ∈ out ↔ ∃ before after,
    emittedAll context nodes = before ++ path :: after ∧ path.key ∉ before.map PoolNode.key
  own : ∀ node ∈ nodes, ∃! kept, kept ∈ out ∧ kept.key = node.key
  spread : context.hasCustomIp = false → ∀ node ∈ nodes, isExpandable context node = true →
    ∀ address, address = node.address ∨ address ∈ context.edges →
      ∃! kept, kept ∈ out ∧ kept.key = (variant node address).key
  untouched : ∀ path ∈ out, path ∈ nodes ∨ context.hasCustomIp = false ∧
    ∃ node ∈ nodes, isExpandable context node = true ∧
      ∃ address ∈ context.edges, path = { node with address := address }

theorem expanded_expand (context : Context) (nodes : List PoolNode) :
    Expanded context nodes (expand context nodes) := by
  have kept := expand_eq context nodes
  constructor
  · rw [kept]
    exact FirstSeen.nodup_firsts _ _
  · rw [kept]
    exact FirstSeen.firsts_sublist _
  · intro path
    rw [kept]
    exact FirstSeen.mem_firsts_iff
  · intro node member
    exact kept_of_emitted (self_mem_emittedAll member)
  · intro custom node member expandable address known
    exact kept_of_emitted
      ((mem_emittedAll custom).mpr ⟨node, member, mem_paths address expandable known⟩)
  · intro path member
    rw [kept] at member
    have emitted := (FirstSeen.firsts_sublist _).subset member
    cases custom : context.hasCustomIp with
    | true =>
        rw [emittedAll, if_pos custom] at emitted
        exact Or.inl emitted
    | false =>
        obtain ⟨node, there, given⟩ := (mem_emittedAll custom).mp emitted
        rcases of_mem_paths given with rfl | ⟨expandable, moved⟩
        · exact Or.inl there
        · exact Or.inr ⟨rfl, node, there, expandable, moved⟩

private def fronted (address serverName : String) : PoolNode where
  protocol := "vless".toList
  credential := "6d2f0f0e-6a52-4c1b-9f0d-3a1b7c5e9d10".toList
  address := address.toList
  port := 443
  network := "ws".toList
  security := "tls".toList
  path := "/ws".toList
  host := "cdn.example".toList
  serverName := serverName.toList
  fingerprint := []
  cipherSuites := []
  finalMask := []
  alpn := []
  label := []

private def oneEdge (customCfIp : String) : Context where
  device := {
    parseObject := fun _ => none
    unicode := Kotlin.Unicode.ascii
    cloudflareIpv6 := fun _ => false }
  customCfIp := customCfIp.toList
  cleanIps := []
  policyEdges := ["104.16.0.2".toList]

/-- The second node stands at the edge that the first is taken to, with another server name: the
first stands there instead. With an address of the user's own no node is taken to the edge. -/
theorem not_expanded_in_full :
    ((fronted "104.16.0.1" "one.example").key ≠ (fronted "104.16.0.2" "two.example").key ∧
      fronted "104.16.0.2" "two.example" ∉ expand (oneEdge "")
        [fronted "104.16.0.1" "one.example", fronted "104.16.0.2" "two.example"]) ∧
      isExpandable (oneEdge "104.16.9.9") (fronted "104.16.0.1" "one.example") = true ∧
        ∀ kept ∈ expand (oneEdge "104.16.9.9") [fronted "104.16.0.1" "one.example"],
          kept.key ≠ (variant (fronted "104.16.0.1" "one.example") "104.16.0.2".toList).key := by
  have names : ∀ kept ∈ expand (oneEdge "")
      [fronted "104.16.0.1" "one.example", fronted "104.16.0.2" "two.example"],
      kept.serverName = "one.example".toList := by decide +kernel
  refine ⟨⟨by decide +kernel, fun member => absurd (names _ member) (by decide)⟩, ?_, ?_⟩
  · decide +kernel
  · decide +kernel

end Expanded

section Count

variable {context : Context} {nodes : List PoolNode}

/-- Every node has as many paths as are counted for it, and no path of one node is one of another:
with an address of the user's own every node has one path, its own. -/
def Uniform (context : Context) (nodes : List PoolNode) : Prop :=
  if context.hasCustomIp then (nodes.map PoolNode.key).Nodup
  else
    (context.edges = [] ∨
        ∀ node ∈ nodes, isExpandable context node = true ∧ node.address ∉ context.edges) ∧
      nodes.Pairwise fun first second =>
        ∀ address ∈ addresses context first, ∀ other ∈ addresses context second,
          (variant first address).key ≠ (variant second other).key

theorem length_addresses_le (context : Context) (node : PoolNode) :
    (addresses context node).length ≤ context.edges.length + 1 :=
  Nat.succ_le_succ (List.length_filter_le _ _)

theorem length_addresses_iff (context : Context) (node : PoolNode) :
    (addresses context node).length = context.edges.length + 1 ↔
      node.address ∉ context.edges := by
  rw [addresses, List.length_cons, Nat.add_right_cancel_iff, List.length_filter_eq_length_iff]
  constructor
  · intro every own
    exact of_decide_eq_true (every _ own) rfl
  · intro apart edge there
    exact decide_eq_true fun own => apart (own ▸ there)

theorem length_paths_le (context : Context) (node : PoolNode) :
    (paths context node).length ≤ context.edges.length + 1 := by
  unfold paths
  split
  · rw [List.length_map]
    exact length_addresses_le context node
  · rw [List.length_singleton]
    omega

theorem length_paths_iff (context : Context) (node : PoolNode) :
    (paths context node).length = context.edges.length + 1 ↔
      context.edges = [] ∨ isExpandable context node = true ∧ node.address ∉ context.edges := by
  unfold paths
  split
  · rename_i expandable
    rw [List.length_map, length_addresses_iff, and_iff_right expandable]
    constructor
    · exact Or.inr
    · rintro (none | apart)
      · rw [none]
        exact List.not_mem_nil
      · exact apart
  · rename_i alone
    rw [List.length_singleton, ← List.length_eq_zero_iff]
    constructor
    · intro one
      exact Or.inl (by omega)
    · rintro (none | ⟨expandable, _⟩)
      · omega
      · exact absurd expandable alone

theorem length_flatMap_le {Element Part : Type*} {parts : Element → List Part} {size : Nat}
    (few : ∀ element, (parts element).length ≤ size) (elements : List Element) :
    (elements.flatMap parts).length ≤ elements.length * size := by
  induction elements with
  | nil => exact Nat.zero_le _
  | cons first rest ih =>
      rw [List.flatMap_cons, List.length_append, List.length_cons, Nat.succ_mul]
      have one := few first
      omega

theorem length_flatMap_iff {Element Part : Type*} {parts : Element → List Part} {size : Nat}
    (few : ∀ element, (parts element).length ≤ size) (elements : List Element) :
    (elements.flatMap parts).length = elements.length * size ↔
      ∀ element ∈ elements, (parts element).length = size := by
  induction elements with
  | nil => simp
  | cons first rest ih =>
      have one := few first
      have others := length_flatMap_le few rest
      rw [List.forall_mem_cons, ← ih, List.flatMap_cons, List.length_append, List.length_cons,
        Nat.succ_mul]
      omega

theorem cachedPathCount_eq (context : Context) (nodes : Nat) :
    cachedPathCount context nodes = nodes * pathsPerNode context := by
  unfold cachedPathCount
  split
  · rename_i none
    rw [Nat.le_zero.mp none, Nat.zero_mul]
  · have some : ¬ pathsPerNode context ≤ 0 := by
      unfold pathsPerNode
      split <;> omega
    exact if_neg some

/-- Where every node has all its paths, they are the node at all its addresses. -/
theorem paths_eq {node : PoolNode}
    (full : context.edges = [] ∨
      isExpandable context node = true ∧ node.address ∉ context.edges) :
    paths context node = (addresses context node).map (variant node) := by
  unfold paths
  split
  · rfl
  · rename_i alone
    rcases full with none | ⟨expandable, _⟩
    · rw [addresses, none, List.filter_nil, List.map_singleton, variant_eq]
    · exact absurd expandable alone

/-- No path is left out just when no two nodes have a path of one key. -/
theorem nodup_keys_iff (nodes : List PoolNode) (index : Nat) :
    ((emittedFrom context nodes index).map PoolNode.key).Nodup ↔
      nodes.Pairwise fun first second => ∀ path ∈ paths context first,
        ∀ other ∈ paths context second, path.key ≠ other.key := by
  rw [((emittedFrom_perm nodes index).map PoolNode.key).nodup_iff, List.map_flatMap,
    List.nodup_flatMap, and_iff_right fun node _ => nodup_keys_paths node]
  constructor
  · intro apart
    refine apart.imp fun {first second} disjoint path there other here same => ?_
    exact disjoint (List.mem_map_of_mem there) (same ▸ List.mem_map_of_mem here)
  · intro apart
    refine apart.imp fun {first second} differ key there here => ?_
    obtain ⟨path, mine, rfl⟩ := List.mem_map.mp there
    obtain ⟨other, yours, same⟩ := List.mem_map.mp here
    exact differ path mine other yours same.symm

theorem length_expand_iff (custom : context.hasCustomIp = false) (nodes : List PoolNode) :
    (expand context nodes).length = nodes.length * (context.edges.length + 1) ↔
      (∀ node ∈ nodes, context.edges = [] ∨
        isExpandable context node = true ∧ node.address ∉ context.edges) ∧
      nodes.Pairwise fun first second => ∀ path ∈ paths context first,
        ∀ other ∈ paths context second, path.key ≠ other.key := by
  have all : emittedAll context nodes = emittedFrom context nodes 0 :=
    if_neg (ne_true_of_eq_false custom)
  have kept := FirstSeen.length_firsts_le PoolNode.key (emittedFrom context nodes 0)
  have keptAll := FirstSeen.length_firsts_iff PoolNode.key (emittedFrom context nodes 0)
  have given := length_flatMap_le (length_paths_le context) nodes
  have givenAll := length_flatMap_iff (length_paths_le context) nodes
  rw [← (emittedFrom_perm nodes 0).length_eq] at given givenAll
  rw [nodup_keys_iff] at keptAll
  rw [expand_eq, all, ← keptAll]
  simp only [length_paths_iff] at givenAll
  rw [← givenAll]
  omega

/-- The count that is shown is that of the expansion for a uniform pool, and for no other. -/
theorem cachedPathCount_eq_iff (context : Context) (nodes : List PoolNode) :
    cachedPathCount context nodes.length = (expand context nodes).length ↔
      Uniform context nodes := by
  rw [cachedPathCount_eq, eq_comm, pathsPerNode, Uniform]
  cases custom : context.hasCustomIp with
  | true =>
      rw [if_pos rfl, if_pos rfl, Nat.mul_one, expand_eq, emittedAll, if_pos custom]
      exact FirstSeen.length_firsts_iff PoolNode.key nodes
  | false =>
      rw [if_neg Bool.false_ne_true, if_neg Bool.false_ne_true, length_expand_iff custom]
      have every : (∀ node ∈ nodes, context.edges = [] ∨
          isExpandable context node = true ∧ node.address ∉ context.edges) ↔
          context.edges = [] ∨
            ∀ node ∈ nodes, isExpandable context node = true ∧ node.address ∉ context.edges := by
        by_cases none : context.edges = []
        · exact ⟨fun _ => Or.inl none, fun _ _ _ => Or.inl none⟩
        · simp only [none, false_or]
      rw [← every]
      apply and_congr_right
      intro full
      apply List.Pairwise.iff_of_mem
      intro first second here there
      rw [paths_eq (full first here), paths_eq (full second there)]
      simp only [List.forall_mem_map]

/-- A node whose own address is the edge: two paths are counted, and there is one. -/
theorem cachedPathCount_ne :
    cachedPathCount (oneEdge "") [fronted "104.16.0.2" "one.example"].length = 2 ∧
      (expand (oneEdge "") [fronted "104.16.0.2" "one.example"]).length = 1 := by
  decide +kernel

end Count

end MolidoVpn.Shard.Edges
