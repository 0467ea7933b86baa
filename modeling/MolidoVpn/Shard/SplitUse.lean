import MolidoVpn.Shard.SmartSplit
import Mathlib.Tactic.IntervalCases

/-!
Which rules of Smart Split are the first match of some flow.
-/

namespace MolidoVpn.Shard

open RuleTable (Used)

section Use

variable {geo : GeoData} {policy : Policy}

/-- What each rule of the table says about a flow. -/
def verdicts (geo : GeoData) (policy : Policy) (flow : Flow) : List Bool :=
  [flow.inboundTag == .doh,
    flow.inboundTag == .shardDns,
    flow.port == 53,
    named geo (ruleHosts.map .full) flow && flow.network == .tcp && rulePorts.contains flow.port,
    named geo (sanctionedRuleDomains policy) flow,
    named geo googleSessionHosts flow && flow.network == .tcp && flow.port == 443,
    named geo (geoBlockedRuleHosts policy) flow && flow.network == .tcp && flow.port == 443,
    named geo metaDomains flow && flow.network == .udp && flow.port == 443,
    named geo metaDomains flow,
    addressed geo transportIps flow,
    named geo iranDomains flow,
    addressed geo localIps flow,
    addressed geo blockPageIps flow,
    flow.network == .udp && flow.port == 443,
    flow.network == .tcp && recognised ["tls"] flow,
    flow.network == .tcp && flow.port == 443,
    flow.network == .tcp,
    flow.network == .udp]

theorem verdicts_eq (flow : Flow) :
    (smartSplitRules policy).map (fun rule => rule.applies geo flow) =
      verdicts geo policy flow := by
  have sanctioned : (sanctionedRuleDomains policy).isEmpty = false := rfl
  have geoBlocked : (geoBlockedRuleHosts policy).isEmpty = false := by
    rw [List.isEmpty_eq_false_iff]
    exact fun none_ => policy.geoBlocked_ne_nil (List.map_eq_nil_iff.mp none_)
  have hosts : (ruleHosts.map DomainPattern.full).isEmpty = false := rfl
  have sessions : googleSessionHosts.isEmpty = false := rfl
  have metas : metaDomains.isEmpty = false := rfl
  have irans : iranDomains.isEmpty = false := rfl
  have transports : transportIps.isEmpty = false := rfl
  have locals : localIps.isEmpty = false := rfl
  have blockPages : blockPageIps.isEmpty = false := rfl
  have ports : rulePorts.isEmpty = false := by decide
  simp only [smartSplitRules, List.map_cons, List.map_nil, Rule.applies, verdicts, sanctioned,
    geoBlocked, hosts, sessions, metas, irans, transports, locals, blockPages, ports,
    List.isEmpty_nil, List.isEmpty_cons, Bool.true_or, Bool.false_or, Bool.true_and,
    Bool.and_true, Option.isNone_none, Option.isNone_some, List.contains_cons, List.contains_nil,
    Bool.or_false]
  cases flow.network <;> cases flow.inboundTag <;> rfl

theorem used_iff {place : Nat} :
    Used (Rule.applies geo) (smartSplitRules policy) place ↔ ∃ flow,
      (verdicts geo policy flow)[place]? = some true ∧
        ∀ earlier ∈ (verdicts geo policy flow).take place, earlier = false := by
  rw [RuleTable.used_iff]
  simp only [verdicts_eq]

/-- The rules above leave a name or an address to this one; to the block-page rule they leave
nothing. -/
def Left (geo : GeoData) (policy : Policy) : Nat → Prop
  | 5 => ∃ name, listed geo googleSessionHosts name = true ∧
      listed geo (sanctionedRuleDomains policy) name = false
  | 6 => ∃ name, listed geo (geoBlockedRuleHosts policy) name = true ∧
      listed geo (sanctionedRuleDomains policy) name = false ∧
      listed geo googleSessionHosts name = false
  | 7 | 8 => ∃ name, listed geo metaDomains name = true ∧
      listed geo (sanctionedRuleDomains policy) name = false
  | 10 => (∃ name, listed geo iranDomains name = true ∧
      listed geo (sanctionedRuleDomains policy) name = false ∧
      listed geo metaDomains name = false) ∧ ∃ address, within geo transportIps address = false
  | 11 => ∃ address, within geo localIps address = true ∧ within geo transportIps address = false
  | 12 => False
  | 13 | 14 | 15 | 16 | 17 => ∃ address, within geo transportIps address = false ∧
      within geo localIps address = false
  | _ => True

/-- A flow of the user with nothing told but this. -/
def userFlow (network : Network) (port : Nat) (domain : Option (List Char)) (address : IpAddr) :
    Flow :=
  { inboundTag := .user
    network := network
    port := port
    domain := domain
    address := address
    protocol := none }

section Forward

variable {flow : Flow}

theorem named_iff {patterns : List DomainPattern} :
    named geo patterns flow = true ↔
      ∃ name, flow.domain = some name ∧ listed geo patterns name = true :=
  Option.any_eq_true _ _

theorem unlisted {patterns : List DomainPattern} {name : List Char}
    (domain : flow.domain = some name) (unnamed : named geo patterns flow = false) :
    listed geo patterns name = false := by
  rw [named, domain] at unnamed
  exact unnamed

/-- `geoip:private` holds the block-page network, and its rule comes first. -/
theorem blockPage_not_used : ¬Used (Rule.applies geo) (smartSplitRules policy) 12 := by
  have here : (smartSplitRules policy)[12]? =
      some { ip := blockPageIps, outboundTag := .blackhole } := rfl
  have earlier : { ip := localIps, outboundTag := .directPlain } ∈
      (smartSplitRules policy).take 12 :=
    List.mem_of_getElem? (i := 11) rfl
  apply RuleTable.not_used_of_covered here earlier
  intro flow applied
  have inside : addressed geo blockPageIps flow = true := by
    simpa [Rule.applies, blockPageIps] using applied
  rw [Rule.applies, addressed_local_of_blockPage inside]
  rfl

/-- The flow of which a rule is the first match shows what is left to the rule. -/
theorem left_of_used {place : Nat}
    (used : Used (Rule.applies geo) (smartSplitRules policy) place) : Left geo policy place := by
  obtain ⟨flow, here, silent⟩ := used_iff.mp used
  unfold Left
  split
  all_goals
    simp only [verdicts, List.take_succ_cons, List.take_zero, List.forall_mem_cons] at silent
  case h_1 =>
    obtain ⟨_, _, _, _, unsanctioned, _⟩ := silent
    have applied := Option.some.inj here
    rw [Bool.and_eq_true, Bool.and_eq_true] at applied
    obtain ⟨name, domain, found⟩ := named_iff.mp applied.1.1
    exact ⟨name, found, unlisted domain unsanctioned⟩
  case h_2 =>
    obtain ⟨_, _, _, _, unsanctioned, session, _⟩ := silent
    have applied := Option.some.inj here
    rw [Bool.and_eq_true, Bool.and_eq_true] at applied
    rw [applied.1.2, applied.2, Bool.and_true, Bool.and_true] at session
    obtain ⟨name, domain, found⟩ := named_iff.mp applied.1.1
    exact ⟨name, found, unlisted domain unsanctioned, unlisted domain session⟩
  case h_3 =>
    obtain ⟨_, _, _, _, unsanctioned, _⟩ := silent
    have applied := Option.some.inj here
    rw [Bool.and_eq_true, Bool.and_eq_true] at applied
    obtain ⟨name, domain, found⟩ := named_iff.mp applied.1.1
    exact ⟨name, found, unlisted domain unsanctioned⟩
  case h_4 =>
    obtain ⟨_, _, _, _, unsanctioned, _⟩ := silent
    obtain ⟨name, domain, found⟩ := named_iff.mp (Option.some.inj here)
    exact ⟨name, found, unlisted domain unsanctioned⟩
  case h_5 =>
    obtain ⟨_, _, _, _, unsanctioned, _, _, _, unnamed, away, _⟩ := silent
    obtain ⟨name, domain, found⟩ := named_iff.mp (Option.some.inj here)
    exact ⟨⟨name, found, unlisted domain unsanctioned, unlisted domain unnamed⟩, _, away⟩
  case h_6 =>
    obtain ⟨_, _, _, _, _, _, _, _, _, away, _⟩ := silent
    exact ⟨flow.address, Option.some.inj here, away⟩
  case h_7 => exact blockPage_not_used used
  all_goals
    first
    | trivial
    | obtain ⟨_, _, _, _, _, _, _, _, _, away, _, foreign, _⟩ := silent
      exact ⟨flow.address, away, foreign⟩

end Forward

section Backward

theorem listed_of_mem {patterns : List DomainPattern} {name : List Char} {pattern : DomainPattern}
    (member : pattern ∈ patterns) (found : pattern.matches geo name = true) :
    listed geo patterns name = true :=
  List.any_eq_true.mpr ⟨pattern, member, found⟩

theorem within_of_mem {patterns : List IpPattern} {address : IpAddr} {pattern : IpPattern}
    (member : pattern ∈ patterns) (found : pattern.matches geo address = true) :
    within geo patterns address = true :=
  List.any_eq_true.mpr ⟨pattern, member, found⟩

theorem away_of_foreign {address : IpAddr} (foreign : within geo localIps address = false) :
    within geo blockPageIps address = false := by
  rw [Bool.eq_false_iff]
  intro inside
  have near : addressed geo localIps (userFlow .udp 80 none address) = true :=
    addressed_local_of_blockPage inside
  exact Bool.false_ne_true (foreign.symm.trans near)

/-- A flow without a name, which the name rules leave alone. -/
theorem verdicts_unnamed (network : Network) (port : Nat) (address : IpAddr) :
    verdicts geo policy (userFlow network port none address) =
      [false, false, port == 53, false, false, false, false, false, false,
        within geo transportIps address, false, within geo localIps address,
        within geo blockPageIps address, network == .udp && port == 443, false,
        network == .tcp && port == 443, network == .tcp, network == .udp] := by
  cases network <;> rfl

theorem verdicts_named (network : Network) (port : Nat) (name : List Char) (address : IpAddr) :
    verdicts geo policy (userFlow network port (some name) address) =
      [false, false, port == 53,
        listed geo (ruleHosts.map .full) name && network == .tcp && rulePorts.contains port,
        listed geo (sanctionedRuleDomains policy) name,
        listed geo googleSessionHosts name && network == .tcp && port == 443,
        listed geo (geoBlockedRuleHosts policy) name && network == .tcp && port == 443,
        listed geo metaDomains name && network == .udp && port == 443,
        listed geo metaDomains name, within geo transportIps address,
        listed geo iranDomains name, within geo localIps address,
        within geo blockPageIps address, network == .udp && port == 443, false,
        network == .tcp && port == 443, network == .tcp, network == .udp] := by
  cases network <;> rfl

theorem rulePorts_eq : rulePorts = [80] := by decide

/-- The rules above leave something to this one, so some flow comes to it. -/
theorem used_of_left {place : Nat} (inside : place < (smartSplitRules policy).length)
    (left : Left geo policy place) : Used (Rule.applies geo) (smartSplitRules policy) place := by
  let anywhere : IpAddr := .v4 ⟨0, 0, 0, 0⟩
  change place < 18 at inside
  rw [used_iff]
  interval_cases place
  -- 1-3: the tag of the inbound, or the port
  · exact ⟨{ userFlow .tcp 443 none anywhere with inboundTag := .doh }, rfl,
      List.forall_mem_nil _⟩
  · exact ⟨{ userFlow .tcp 443 none anywhere with inboundTag := .shardDns }, rfl,
      List.forall_mem_singleton.mpr rfl⟩
  · refine ⟨userFlow .udp 53 none anywhere, rfl, ?_⟩
    simp [verdicts_unnamed]
  -- 3b-5: a name that no rule above lists
  · obtain ⟨name, probed⟩ : ∃ name, listed geo (ruleHosts.map .full) name = true :=
      ⟨"cp.cloudflare.com".toList, listed_of_mem List.mem_cons_self (beq_self_eq_true _)⟩
    refine ⟨userFlow .tcp 80 (some name) anywhere, ?_⟩
    simp [verdicts_named, rulePorts_eq, probed]
  · have member : .full "content.googleapis.com".toList ∈ sanctionedRuleDomains policy :=
      List.mem_append_left _ (by decide)
    obtain ⟨name, sanctioned⟩ : ∃ name, listed geo (sanctionedRuleDomains policy) name = true :=
      ⟨"content.googleapis.com".toList, listed_of_mem member (beq_self_eq_true _)⟩
    refine ⟨userFlow .udp 80 (some name) anywhere, ?_⟩
    simp [verdicts_named, sanctioned]
  · obtain ⟨name, session, unsanctioned⟩ := left
    refine ⟨userFlow .tcp 443 (some name) anywhere, ?_⟩
    simp [verdicts_named, rulePorts_eq, session, unsanctioned]
  · obtain ⟨name, blocked, unsanctioned, session⟩ := left
    refine ⟨userFlow .tcp 443 (some name) anywhere, ?_⟩
    simp [verdicts_named, rulePorts_eq, blocked, session, unsanctioned]
  · obtain ⟨name, byMeta, unsanctioned⟩ := left
    refine ⟨userFlow .udp 443 (some name) anywhere, ?_⟩
    simp [verdicts_named, byMeta, unsanctioned]
  · obtain ⟨name, byMeta, unsanctioned⟩ := left
    refine ⟨userFlow .udp 80 (some name) anywhere, ?_⟩
    simp [verdicts_named, byMeta, unsanctioned]
  -- 6-8: an address or a name
  · refine ⟨userFlow .udp 80 none (.v4 ⟨15, 197, 128, 0⟩), ?_⟩
    have member : .cidr ⟨15, 197, 128, 0⟩ 17 ∈ transportIps := by decide
    have transport : within geo transportIps (.v4 ⟨15, 197, 128, 0⟩) = true :=
      within_of_mem member (beq_self_eq_true _)
    simp [verdicts_unnamed, transport]
  · obtain ⟨⟨name, iran, unsanctioned, unnamed⟩, address, away⟩ := left
    refine ⟨userFlow .udp 80 (some name) address, ?_⟩
    simp [verdicts_named, iran, unsanctioned, unnamed, away]
  · obtain ⟨address, near, away⟩ := left
    refine ⟨userFlow .udp 80 none address, ?_⟩
    simp [verdicts_unnamed, near, away]
  · exact left.elim
  -- 10-14: a foreign address
  · obtain ⟨address, away, foreign⟩ := left
    refine ⟨userFlow .udp 443 none address, ?_⟩
    simp [verdicts_unnamed, away, foreign, away_of_foreign foreign]
  · obtain ⟨address, away, foreign⟩ := left
    refine ⟨{ userFlow .tcp 80 none address with protocol := some "tls" }, ?_⟩
    change _ ∧ ∀ earlier ∈ [false, false, false, false, false, false, false, false, false,
      within geo transportIps address, false, within geo localIps address,
      within geo blockPageIps address, false], earlier = false
    refine ⟨rfl, ?_⟩
    simp [away, foreign, away_of_foreign foreign]
  · obtain ⟨address, away, foreign⟩ := left
    refine ⟨userFlow .tcp 443 none address, ?_⟩
    simp [verdicts_unnamed, away, foreign, away_of_foreign foreign]
  · obtain ⟨address, away, foreign⟩ := left
    refine ⟨userFlow .tcp 80 none address, ?_⟩
    simp [verdicts_unnamed, away, foreign, away_of_foreign foreign]
  · obtain ⟨address, away, foreign⟩ := left
    refine ⟨userFlow .udp 80 none address, ?_⟩
    simp [verdicts_unnamed, away, foreign, away_of_foreign foreign]

end Backward

end Use

/-- The table keeps what it promises to every flow but one to the block page that nothing claims
before the rule for private addresses, and every rule that the lists leave something to is the
first match of a flow; the rule for the block page is of none. -/
theorem smart_split_iff (geo : GeoData) (policy : Policy) :
    (∀ flow : Flow, flow.inboundTag = .user →
      (Served geo policy flow ↔
        ¬(addressed geo blockPageIps flow = true ∧ flow.port ≠ 53 ∧ ¬NodeBound geo policy flow ∧
          ¬(named geo metaDomains flow = true ∧ flow.isQuic = true)))) ∧
      ∀ place < (smartSplitRules policy).length,
        (Used (Rule.applies geo) (smartSplitRules policy) place ↔ Left geo policy place) :=
  ⟨fun _ user => served_iff user, fun _ inside => ⟨left_of_used, used_of_left inside⟩⟩

/-- The lists that the app is built with. -/
def builtinPolicy : Policy where
  geoBlocked := ["www.nvidia.com".toList, "nvidia.com".toList, "images.nvidia.com".toList,
    "www.avast.com".toList, "avast.com".toList, "www.android.com".toList, "android.com".toList]
  geoBlocked_ne_nil := by decide
  sanctioned := []

/-- `geoip:private` alone. -/
def privateGeo : GeoData where
  site := fun _ _ => false
  ip := fun category address => category == "private" && inCidr ⟨10, 0, 0, 0⟩ 8 address
  privateTen := fun _ inside => inside

/-- The block page is answered: its flow leaves directly, and its rule is never reached. -/
theorem block_page_answered :
    let flow := userFlow .tcp 80 none (.v4 ⟨10, 10, 34, 36⟩)
    addressed privateGeo blockPageIps flow = true ∧
      ¬NodeBound privateGeo builtinPolicy flow ∧
      route privateGeo builtinPolicy flow = .directPlain ∧
      (smartSplitRules builtinPolicy)[12]? = some { ip := blockPageIps, outboundTag := .blackhole } ∧
      ¬Used (Rule.applies privateGeo) (smartSplitRules builtinPolicy) 12 := by
  refine ⟨by decide, ?_, by decide, rfl, left_of_used⟩
  rw [nodeBound_iff]
  decide

end MolidoVpn.Shard
