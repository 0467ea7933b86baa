import MolidoVpn.Shard.Configs

/-!
Whether one candidate that cannot be used keeps the others of its race from being probed.
-/

namespace MolidoVpn.Shard

open Kotlin (Unicode)

/-- The core that runs the config: it starts when it accepts every outbound, and it accepts the
two that are not of a node. -/
structure Xray where
  accepts : Json → Bool
  blackhole : accepts blackholeOutbound = true
  upstream : ∀ port outbound, upstreamOutbound port = some outbound → accepts outbound = true

section Isolation

variable (orgJson : OrgJson) (xray : Xray) (context : RenderContext)

/-- The process is up with this config, and what is sent to the port of this candidate leaves
through it. -/
structure Serves (candidates : List ShardNode) (basePort index : Nat) (config : ProbeConfig) :
    Prop where
  written : (probeConfig orgJson context candidates basePort).isSome = true
  started : ∀ outbound ∈ config.outbounds, xray.accepts outbound = true
  listens : probeInbound basePort index ∈ config.inbounds
  wired : probeRule index ∈ config.rules
  leaves : ∃ node own, candidates[index]? = some node ∧
    outbound orgJson context node (outTag index) false = some own ∧ own ∈ config.outbounds

def Probed (candidates : List ShardNode) (basePort index : Nat) : Prop :=
  ∃ config, probeParts orgJson context candidates basePort = some config ∧
    Serves orgJson xray context candidates basePort index config

/-- The text of `fm` is empty, or an object that can be written out again. -/
def MaskReads (node : ShardNode) : Prop :=
  node.finalMask = [] ∨ ∃ mask, orgJson.parseObject node.finalMask = some mask ∧ mask.Prints

/-- The candidate does no harm: its mask reads, and the core accepts its outbound. -/
def Usable (node : ShardNode) (index : Nat) : Prop :=
  MaskReads orgJson node ∧
    ∀ own, outbound orgJson context node (outTag index) false = some own →
      xray.accepts own = true

end Isolation

section Rendering

variable {orgJson : OrgJson} {xray : Xray} {context : RenderContext}

theorem outboundSettings_prints (node : ShardNode) (address : List Char) :
    (outboundSettings node address).Prints := by
  unfold outboundSettings
  split
  · simp
  · split <;> simp

theorem tlsSettings_prints (node : ShardNode) : (tlsSettings context node).Prints := by
  unfold tlsSettings
  simp only [Json.prints_obj, List.forall_mem_append, List.forall_mem_singleton]
  refine ⟨⟨⟨⟨Json.prints_string _, ?_⟩, ?_⟩, ?_⟩, Json.prints_bool _⟩
  · split <;> simp
  · split <;> simp
  · split <;> simp

/-- What throws at `fm`, or cannot be written, is a mask that does not read. -/
theorem maskReads_iff {node : ShardNode} :
    MaskReads orgJson node ↔
      ∃ members, finalMaskMember orgJson node = some members ∧
        ∀ member ∈ members, member.2.Prints := by
  unfold MaskReads finalMaskMember
  by_cases plain : node.finalMask = []
  · rw [plain]
    simp
  · have masked : node.finalMask.isEmpty = false := by simpa using plain
    rw [masked]
    simp only [plain, false_or, Bool.false_eq_true, if_false, Option.map_eq_some_iff]
    constructor
    · rintro ⟨mask, reads, prints⟩
      exact ⟨_, ⟨mask, reads, rfl⟩, List.forall_mem_singleton.mpr prints⟩
    · rintro ⟨members, ⟨mask, reads, rfl⟩, prints⟩
      exact ⟨mask, reads, prints _ List.mem_cons_self⟩

theorem outbound_prints_iff {node : ShardNode} {tag : List Char} :
    MaskReads orgJson node ↔
      ∃ own, outbound orgJson context node tag false = some own ∧ own.Prints := by
  rw [maskReads_iff]
  unfold outbound
  simp only [Option.map_eq_some_iff]
  have whole (members : List (String × Json)) :
      (Json.obj ([("tag", Json.string tag), ("protocol", .string node.protocol),
        ("settings", outboundSettings node
          (if context.customIp.isEmpty then node.address else context.customIp)),
        ("streamSettings", streamSettings context node members)] ++
        (if false = true then ((muxFor node).map fun settings => ("mux", settings)).toList
          else []))).Prints ↔ ∀ member ∈ members, member.2.Prints := by
    unfold streamSettings
    by_cases tls : node.security = "tls".toList
    all_goals
      simp [tls, outboundSettings_prints, tlsSettings_prints, or_imp, forall_and]
  constructor
  · rintro ⟨members, found, prints⟩
    exact ⟨_, ⟨members, found, rfl⟩, (whole members).mpr prints⟩
  · rintro ⟨own, ⟨members, found, rfl⟩, prints⟩
    exact ⟨members, found, (whole members).mp prints⟩

/-- Every node has its outbound in what is rendered. -/
theorem probeOutbounds_has {nodes : List ShardNode} {index : Nat} {rendered : List Json}
    (built : probeOutbounds orgJson context nodes index = some rendered) :
    ∀ entry ∈ nodes.zipIdx index, ∃ own ∈ rendered,
      outbound orgJson context entry.1 (outTag entry.2) false = some own := by
  induction nodes generalizing index rendered with
  | nil =>
      intro entry member
      cases member
  | cons node rest ih =>
      obtain ⟨first, first_eq, others_eq⟩ := Option.bind_eq_some_iff.mp built
      obtain ⟨others, later, rfl⟩ := Option.map_eq_some_iff.mp others_eq
      rw [List.zipIdx_cons, List.forall_mem_cons]
      refine ⟨⟨first, List.mem_cons_self, first_eq⟩, ?_⟩
      intro entry member
      obtain ⟨own, ownMember, own_eq⟩ := ih later entry member
      exact ⟨own, List.mem_cons_of_mem _ ownMember, own_eq⟩

/-- Where every node can be rendered, all of them are, and nothing else is. -/
theorem probeOutbounds_exists {nodes : List ShardNode} {index : Nat} {Good : Json → Prop}
    (all : ∀ entry ∈ nodes.zipIdx index,
      ∃ own, outbound orgJson context entry.1 (outTag entry.2) false = some own ∧ Good own) :
    ∃ rendered, probeOutbounds orgJson context nodes index = some rendered ∧
      ∀ own ∈ rendered, Good own := by
  induction nodes generalizing index with
  | nil => exact ⟨[], rfl, List.forall_mem_nil _⟩
  | cons node rest ih =>
      rw [List.zipIdx_cons, List.forall_mem_cons] at all
      obtain ⟨⟨own, first, good⟩, later⟩ := all
      obtain ⟨others, rendered, allGood⟩ := ih later
      refine ⟨own :: others, ?_, List.forall_mem_cons.mpr ⟨good, allGood⟩⟩
      rw [probeOutbounds, first, Option.bind_some, rendered]
      rfl

theorem probeInbound_prints (basePort index : Nat) : (probeInbound basePort index).Prints := by
  simp [probeInbound]

theorem probeRule_prints (index : Nat) : (probeRule index).Prints := by
  simp [probeRule]

theorem upstreamOutbound_prints {port : Nat} {outbound : Json}
    (built : upstreamOutbound port = some outbound) : outbound.Prints := by
  unfold upstreamOutbound at built
  split at built
  · cases built
  · obtain rfl := Option.some.inj built
    simp

theorem wiredConfig_prints_iff {count basePort : Nat} {rendered : List Json} :
    (wiredConfig context count basePort rendered).toJson.Prints ↔
      ∀ own ∈ rendered, own.Prints := by
  have fixed : blackholeOutbound.Prints := by simp [blackholeOutbound]
  have upstream : ∀ outbound ∈ (upstreamOutbound context.upstreamSocksPort).toList,
      outbound.Prints := fun outbound member =>
    upstreamOutbound_prints (Option.mem_toList.mp member)
  have outbounds : (Json.array (wiredConfig context count basePort rendered).outbounds).Prints ↔
      ∀ own ∈ rendered, own.Prints := by
    rw [Json.prints_array, wiredConfig, List.forall_mem_cons, List.forall_mem_append]
    exact (and_iff_right fixed).trans (and_iff_right upstream)
  have inbounds : (Json.array (wiredConfig context count basePort rendered).inbounds).Prints :=
    (Json.prints_array _).mpr (List.forall_mem_map.mpr fun index _ =>
      probeInbound_prints basePort index)
  have rules : (Json.array (wiredConfig context count basePort rendered).rules).Prints :=
    (Json.prints_array _).mpr (List.forall_mem_map.mpr fun index _ => probeRule_prints index)
  simp [ProbeConfig.toJson, outbounds, inbounds, rules, -Json.prints_array]

/-- A race probes all of its candidates when every one of them is usable, and none otherwise. -/
theorem probed_iff {candidates : List ShardNode} {basePort index : Nat} :
    Probed orgJson xray context candidates basePort index ↔
      index < candidates.length ∧ ∀ other node, candidates[other]? = some node →
        Usable orgJson xray context node other := by
  constructor
  · rintro ⟨config, parts, serves⟩
    obtain ⟨rendered, built, rfl⟩ := Option.map_eq_some_iff.mp parts
    have printed : ∀ own ∈ rendered, own.Prints := by
      have written := serves.written
      rw [probeConfig, parts, Option.bind_some] at written
      exact wiredConfig_prints_iff.mp written
    obtain ⟨node, _, found, _⟩ := serves.leaves
    refine ⟨(List.getElem?_eq_some_iff.mp found).1, ?_⟩
    intro other node here
    have member : (node, other) ∈ candidates.zipIdx :=
      List.mem_zipIdx_iff_getElem?.mpr here
    obtain ⟨own, ownMember, own_eq⟩ := probeOutbounds_has built _ member
    refine ⟨outbound_prints_iff.mpr ⟨own, own_eq, printed own ownMember⟩, ?_⟩
    intro again again_eq
    obtain rfl := Option.some.inj (own_eq.symm.trans again_eq)
    exact serves.started own (List.mem_cons_of_mem _ (List.mem_append_right _ ownMember))
  · rintro ⟨inside, usable⟩
    have each : ∀ entry ∈ candidates.zipIdx, ∃ own,
        outbound orgJson context entry.1 (outTag entry.2) false = some own ∧
          (own.Prints ∧ xray.accepts own = true) := by
      intro entry member
      have use := usable entry.2 entry.1 (List.mem_zipIdx_iff_getElem?.mp member)
      obtain ⟨own, own_eq, prints⟩ := outbound_prints_iff.mp use.1
      exact ⟨own, own_eq, prints, use.2 own own_eq⟩
    obtain ⟨rendered, built, good⟩ := probeOutbounds_exists each
    have parts : probeParts orgJson context candidates basePort =
        some (wiredConfig context candidates.length basePort rendered) := by
      rw [probeParts, built]
      rfl
    have node_eq : candidates[index]? = some candidates[index] := List.getElem?_eq_getElem inside
    refine ⟨_, parts, ?_, ?_, ?_, ?_, ?_⟩
    · rw [probeConfig, parts]
      exact wiredConfig_prints_iff.mpr fun own member => (good own member).1
    · rw [wiredConfig, List.forall_mem_cons, List.forall_mem_append]
      refine ⟨xray.blackhole, ?_, fun own member => (good own member).2⟩
      exact fun outbound member => xray.upstream _ outbound (Option.mem_toList.mp member)
    · exact List.mem_map_of_mem (List.mem_range.mpr inside)
    · exact List.mem_map_of_mem (List.mem_range.mpr inside)
    · obtain ⟨own, ownMember, own_eq⟩ := probeOutbounds_has built (candidates[index], index)
        (List.mem_zipIdx_iff_getElem?.mpr node_eq)
      exact ⟨_, own, node_eq, own_eq,
        List.mem_cons_of_mem _ (List.mem_append_right _ ownMember)⟩

/-- The candidates that are usable are probed whatever the others are, exactly where all of them
are usable or none is. -/
theorem usable_probed_iff (orgJson : OrgJson) (xray : Xray) (context : RenderContext)
    (candidates : List ShardNode) (basePort : Nat) :
    (∀ index node, candidates[index]? = some node → Usable orgJson xray context node index →
      Probed orgJson xray context candidates basePort index) ↔
      (∀ index node, candidates[index]? = some node → Usable orgJson xray context node index) ∨
        ∀ index node, candidates[index]? = some node →
          ¬Usable orgJson xray context node index := by
  constructor
  · intro isolated
    by_cases some_ : ∃ index node, candidates[index]? = some node ∧
        Usable orgJson xray context node index
    · obtain ⟨index, node, found, usable⟩ := some_
      exact Or.inl (probed_iff.mp (isolated index node found usable)).2
    · right
      intro index node found usable
      exact some_ ⟨index, node, found, usable⟩
  · rintro (all | none_) index node found usable
    · exact probed_iff.mpr ⟨(List.getElem?_eq_some_iff.mp found).1, all⟩
    · exact absurd usable (none_ index node found)

end Rendering

section Failure

/-- Two lines: the mask of the first is no JSON object, and the second has none. -/
def badMaskBody : List Char :=
  "vless://a@one.example:443?type=ws&fm=mask\nvless://b@two.example:443?type=ws".toList

/-- A text that does not begin with a brace is no object. -/
def bracesOnly : OrgJson where
  parseObject := fun text => if text.head? = some '{' then some (Json.obj []) else none

def acceptsAll : Xray where
  accepts := fun _ => true
  blackhole := rfl
  upstream := fun _ _ _ => rfl

def plainContext : RenderContext where
  customIp := []
  retryFp := fun _ => none
  upstreamSocksPort := 0

/-- Both lines are accepted, and the second is not probed because of the first. -/
theorem bad_mask_ends_race :
    (parse Unicode.ascii badMaskBody).map (fun node => (node.address, node.finalMask)) =
        [("one.example".toList, "mask".toList), ("two.example".toList, [])] ∧
      (∀ node, (parse Unicode.ascii badMaskBody)[1]? = some node →
        Usable bracesOnly acceptsAll plainContext node 1) ∧
      ∀ index, ¬Probed bracesOnly acceptsAll plainContext (parse Unicode.ascii badMaskBody) 20000
        index := by
  have read : (parse Unicode.ascii badMaskBody).map
      (fun node => (node.address, node.finalMask)) =
      [("one.example".toList, "mask".toList), ("two.example".toList, [])] := by decide
  refine ⟨read, ?_, ?_⟩
  · intro node found
    have mask := congrArg (fun nodes => nodes[1]?) read
    rw [List.getElem?_map, found] at mask
    have plain : node.finalMask = [] := (Prod.mk.inj (Option.some.inj mask)).2
    exact ⟨Or.inl plain, fun _ _ => rfl⟩
  · intro index probed
    have mask := congrArg (fun nodes => nodes[0]?) read
    obtain ⟨node, found, masked⟩ := Option.map_eq_some_iff.mp ((List.getElem?_map ..).symm.trans mask)
    have usable := (probed_iff.mp probed).2 0 node found
    have text : node.finalMask = "mask".toList := (Prod.mk.inj masked).2
    rcases usable.1 with empty | ⟨mask, reads, _⟩
    · rw [text] at empty
      cases empty
    · rw [text] at reads
      cases reads

end Failure

end MolidoVpn.Shard
