import MolidoVpn.Lib.RoundRobin
import MolidoVpn.V2ray.ConnectionReports

/-!
The nodes that a connection chooses from, and `ShardManager.diversify`: the endpoints of a ranked
pool in turns. Endpoints are told apart by a joined text, which does not tell where its parts end.
-/

namespace MolidoVpn.Shard

open RoundRobin (groupBy deal Spread spread_inTurns)

/-- A node of the subscription, or a server that stands in the pool as one. -/
structure PoolNode extends ShardNode where
  v2ray : Option V2ray.V2rayNode := none

def portText (node : PoolNode) : List Char := (toString node.port).toList

def PoolNode.key (node : PoolNode) : List Char :=
  match node.v2ray with
  | some server =>
      List.intercalate ['|']
        ["v2".toList, V2ray.fingerprint server.uri, node.address, portText node]
  | none => node.toShardNode.key

section Diversify

/-- What an endpoint goes by, without the address. -/
def identity (node : PoolNode) : List Char :=
  List.intercalate ['|'] [node.protocol, node.credential, node.host, node.path, portText node]

/-- Take turns until all nodes are out, or a round has added none. -/
def diversify (ranked : List PoolNode) : List PoolNode :=
  let groups := groupBy identity ranked
  deal (groups.map Prod.snd) ranked.length 0 []

structure Endpoint where
  protocol : List Char
  credential : List Char
  host : List Char
  path : List Char
  port : Int
  deriving DecidableEq

def endpoint (node : PoolNode) : Endpoint where
  protocol := node.protocol
  credential := node.credential
  host := node.host
  path := node.path
  port := node.port

theorem identity_of_endpoint {first second : PoolNode} (same : endpoint first = endpoint second) :
    identity first = identity second := by
  obtain ⟨protocol, credential, host, path, port⟩ := Endpoint.mk.inj same
  unfold identity portText
  rw [protocol, credential, host, path, port]

theorem spread_diversify (ranked : List PoolNode) : Spread identity ranked (diversify ranked) :=
  spread_inTurns ranked

/-- Two endpoints with one text: what stands second of the one has its turn before the other. -/
theorem not_spread_of_collision {first second : PoolNode}
    (collide : identity first = identity second) (differ : endpoint first ≠ endpoint second) :
    ¬ Spread endpoint [first, first, second] (diversify [first, first, second]) := by
  have one : ∀ node ∈ [first, first, second], identity node = identity first := by
    intro node member
    simp only [List.mem_cons, List.not_mem_nil, or_false] at member
    rcases member with rfl | rfl | rfl
    · rfl
    · rfl
    · exact collide.symm
  rw [(spread_diversify _).eq_of_one one]
  intro spread
  -- The second of the first endpoint stands behind one of its own, and the other has none yet.
  have late := spread.fair [first] first [second] rfl 1 (endpoint second)
  rw [List.countP_singleton, List.countP_singleton, decide_eq_false differ] at late
  have own : (1 : Nat) ≤ if decide (endpoint first = endpoint first) then 1 else 0 := by
    rw [if_pos (decide_eq_true rfl)]
  have other : 1 ≤ [first, first, second].countP fun node => endpoint node = endpoint second :=
    List.countP_pos_iff.mpr ⟨second, by simp, decide_eq_true rfl⟩
  exact absurd (late own other) (by decide)

/-- Of the nodes of a pool every ranking is spread over the endpoints just when no two endpoints of
the pool go by one text. -/
theorem diversify_spread_iff (nodes : List PoolNode) :
    (∀ ranked, ranked ⊆ nodes → Spread endpoint ranked (diversify ranked)) ↔
      ∀ first ∈ nodes, ∀ second ∈ nodes,
        identity first = identity second → endpoint first = endpoint second := by
  constructor
  · intro every first here second there collide
    by_contra differ
    refine not_spread_of_collision collide differ (every _ fun node member => ?_)
    simp only [List.mem_cons, List.not_mem_nil, or_false] at member
    rcases member with rfl | rfl | rfl <;> assumption
  · intro told ranked among
    apply (spread_diversify ranked).of_same
    intro first here second there
    constructor
    · exact told first (among here) second (among there)
    · exact identity_of_endpoint

private def behind (address host path : String) : PoolNode where
  protocol := "vless".toList
  credential := "6d2f0f0e-6a52-4c1b-9f0d-3a1b7c5e9d10".toList
  address := address.toList
  port := 443
  network := "ws".toList
  security := "tls".toList
  path := path.toList
  host := host.toList
  serverName := host.toList
  fingerprint := []
  cipherSuites := []
  finalMask := []
  alpn := []
  label := []

/-- `path=%2Fa%7C%2Fb` at two addresses, and a host that goes on where that path begins. -/
private def crossed : List PoolNode :=
  [behind "104.16.0.1" "cdn.example" "/a|/b", behind "104.16.0.2" "cdn.example" "/a|/b",
    behind "104.16.0.3" "cdn.example|/a" "/b"]

theorem not_spread_diversify : ¬ Spread endpoint crossed (diversify crossed) := by
  have one : ∀ node ∈ crossed, identity node = identity (behind "" "cdn.example" "/a|/b") := by
    decide
  rw [(spread_diversify crossed).eq_of_one one]
  intro spread
  exact absurd (spread.fair [behind "104.16.0.1" "cdn.example" "/a|/b"] _ [_] rfl 1
    (endpoint (behind "104.16.0.3" "cdn.example|/a" "/b"))) (by decide)

end Diversify

end MolidoVpn.Shard
