import MolidoVpn.Address
import MolidoVpn.Lib.RuleTable
import MolidoVpn.Lib.Text
import Mathlib.Tactic.FinCases

/-!
The rule table of Smart Split: which outbound takes a flow, and which rules ever decide.
-/

namespace MolidoVpn.Shard

open RuleTable (decides Used)

inductive Network where
  | tcp
  | udp
  deriving DecidableEq

inductive InboundTag where
  | user
  | doh
  | shardDns
  deriving DecidableEq

inductive OutboundTag where
  | proxy
  | directFrag
  | directPlain
  | dnsOut
  | blackhole
  deriving DecidableEq

/-- What stands in the `domain` list of a rule: `full:`, `domain:` or `geosite:` and a name. -/
inductive DomainPattern where
  | full (name : List Char)
  | domain (name : List Char)
  | geosite (category : String)
  deriving DecidableEq

/-- What stands in the `ip` list of a rule. -/
inductive IpPattern where
  | geoip (category : String)
  | cidr (network : Ipv4Addr) (bits : Nat)
  deriving DecidableEq

/-- A field that is not set, here an empty list or `none`, restricts nothing. -/
structure Rule where
  inboundTag : List InboundTag := []
  domain : List DomainPattern := []
  network : Option Network := none
  port : List Nat := []
  ip : List IpPattern := []
  protocol : List String := []
  outboundTag : OutboundTag
  deriving DecidableEq

/-- `domain` is the sniffed name in lower case, `protocol` what the sniffer has recognised. -/
structure Flow where
  inboundTag : InboundTag
  network : Network
  port : Nat
  domain : Option (List Char)
  address : IpAddr
  protocol : Option String
  deriving DecidableEq

def Ipv4Addr.bits (ip : Ipv4Addr) : Nat :=
  ((ip.a.toNat * 256 + ip.b.toNat) * 256 + ip.c.toNat) * 256 + ip.d.toNat

def inCidr (network : Ipv4Addr) (bits : Nat) : IpAddr → Bool
  | .v4 ip => Ipv4Addr.bits ip / 2 ^ (32 - bits) == Ipv4Addr.bits network / 2 ^ (32 - bits)
  | .v6 _ => false

/-- The shipped `geosite.dat` and `geoip.dat`. -/
structure GeoData where
  site : String → List Char → Bool
  ip : String → IpAddr → Bool
  privateTen : ∀ address, inCidr ⟨10, 0, 0, 0⟩ 8 address = true → ip "private" address = true

def DomainPattern.matches (geo : GeoData) (name : List Char) : DomainPattern → Bool
  | .full whole => name == whole
  | .domain parent => name == parent || ('.' :: parent).isSuffixOf name
  | .geosite category => geo.site category name

def IpPattern.matches (geo : GeoData) (address : IpAddr) : IpPattern → Bool
  | .geoip category => geo.ip category address
  | .cidr network bits => inCidr network bits address

def listed (geo : GeoData) (patterns : List DomainPattern) (name : List Char) : Bool :=
  patterns.any fun pattern => pattern.matches geo name

def within (geo : GeoData) (patterns : List IpPattern) (address : IpAddr) : Bool :=
  patterns.any fun pattern => pattern.matches geo address

def named (geo : GeoData) (patterns : List DomainPattern) (flow : Flow) : Bool :=
  flow.domain.any (listed geo patterns)

def addressed (geo : GeoData) (patterns : List IpPattern) (flow : Flow) : Bool :=
  within geo patterns flow.address

def recognised (protocols : List String) (flow : Flow) : Bool :=
  flow.protocol.any fun protocol =>
    protocols.any fun wanted => wanted.toList.isPrefixOf protocol.toList

def Rule.applies (geo : GeoData) (rule : Rule) (flow : Flow) : Bool :=
  (rule.inboundTag.isEmpty || rule.inboundTag.contains flow.inboundTag) &&
  (rule.domain.isEmpty || named geo rule.domain flow) &&
  (rule.network.isNone || rule.network == some flow.network) &&
  (rule.port.isEmpty || rule.port.contains flow.port) &&
  (rule.ip.isEmpty || addressed geo rule.ip flow) &&
  (rule.protocol.isEmpty || recognised rule.protocol flow)

/-- What `RemotePolicy` hands over; a list that validates to nothing is never in force. -/
structure Policy where
  geoBlocked : List (List Char)
  geoBlocked_ne_nil : geoBlocked ≠ []
  sanctioned : List (List Char)

/-- `ShardProbe.TARGETS`: host, path and port. -/
def probeTargets : List (List Char × List Char × Nat) :=
  [("cp.cloudflare.com".toList, "/generate_204".toList, 80),
    ("www.gstatic.com".toList, "/generate_204".toList, 80),
    ("captive.apple.com".toList, "/hotspot-detect.html".toList, 80)]

def ruleHosts : List (List Char) := probeTargets.map fun target => target.1

def rulePorts : List Nat :=
  (probeTargets.map fun target => target.2.2).dedup.insertionSort (· ≤ ·)

def sanctionedDomains : List DomainPattern :=
  [.geosite "openai", .geosite "anthropic", .geosite "xai", .geosite "google-deepmind",
    .domain "clients6.google.com".toList, .full "content.googleapis.com".toList,
    .geosite "telegram", .geosite "whatsapp"]

def googleSessionHosts : List DomainPattern :=
  [.full "accounts.google.com".toList, .full "www.google.com".toList,
    .full "ogs.google.com".toList]

def geoBlockedRuleHosts (policy : Policy) : List DomainPattern :=
  policy.geoBlocked.map .full

def sanctionedRuleDomains (policy : Policy) : List DomainPattern :=
  sanctionedDomains ++ policy.sanctioned.map fun host =>
    ((Text.stripPrefix "*.".toList host).map .domain).getD (.full host)

def whatsappTransportIps : List IpPattern :=
  [.geoip "facebook", .cidr ⟨15, 197, 128, 0⟩ 17, .cidr ⟨3, 33, 128, 0⟩ 17]

def transportIps : List IpPattern := .geoip "telegram" :: whatsappTransportIps

/-- Instagram and Facebook, by name. -/
def metaDomains : List DomainPattern := [.geosite "instagram", .geosite "facebook"]

def iranDomains : List DomainPattern := [.domain "ir".toList, .geosite "category-ir"]

def localIps : List IpPattern := [.geoip "ir", .geoip "private"]

def blockPageIps : List IpPattern := [.cidr ⟨10, 10, 34, 0⟩ 24]

def smartSplitRules (policy : Policy) : List Rule :=
  [ -- 1. The DoH resolver's own TLS
    { inboundTag := [.doh], outboundTag := .directFrag },
    -- 2. Sanctioned names' DoH lookups
    { inboundTag := [.shardDns], outboundTag := .proxy },
    -- 3. Everything else on port 53
    { port := [53], outboundTag := .dnsOut },
    -- 3b. The health probe's own endpoints
    { domain := ruleHosts.map .full, network := some .tcp, port := rulePorts,
      outboundTag := .proxy },
    -- 4. Sanctioned, Telegram and WhatsApp, by name
    { domain := sanctionedRuleDomains policy, outboundTag := .proxy },
    -- 4b. The signed-in Google session
    { domain := googleSessionHosts, network := some .tcp, port := [443], outboundTag := .proxy },
    -- 4c. Sites that refuse Iranian source addresses
    { domain := geoBlockedRuleHosts policy, network := some .tcp, port := [443],
      outboundTag := .proxy },
    -- 4d. Meta's QUIC
    { domain := metaDomains, network := some .udp, port := [443], outboundTag := .blackhole },
    -- 5. Meta by name, before its addresses
    { domain := metaDomains, outboundTag := .directFrag },
    -- 6. Telegram and WhatsApp, by address
    { ip := transportIps, outboundTag := .proxy },
    -- 7-8. Iranian and private
    { domain := iranDomains, outboundTag := .directPlain },
    { ip := localIps, outboundTag := .directPlain },
    -- 9. The censor's own block-page host
    { ip := blockPageIps, outboundTag := .blackhole },
    -- 10. Foreign QUIC
    { network := some .udp, port := [443], outboundTag := .blackhole },
    -- 11-12. Foreign TLS
    { network := some .tcp, protocol := ["tls"], outboundTag := .directFrag },
    { network := some .tcp, port := [443], outboundTag := .directFrag },
    -- 13-14. Anything else
    { network := some .tcp, outboundTag := .directPlain },
    { network := some .udp, outboundTag := .directPlain } ]

/-- Where no rule applies, the first outbound takes the flow. -/
def route (geo : GeoData) (policy : Policy) (flow : Flow) : OutboundTag :=
  ((decides (Rule.applies geo) (smartSplitRules policy) flow).map Rule.outboundTag).getD .proxy

section Flows

variable {geo : GeoData} {policy : Policy} {flow : Flow}

/-- The rules that keep the resolver's own traffic and every lookup from the rest. -/
def lookupRules : List Rule :=
  [{ inboundTag := [.doh], outboundTag := .directFrag },
    { inboundTag := [.shardDns], outboundTag := .proxy },
    { port := [53], outboundTag := .dnsOut }]

/-- The rules that bind a name to the node. -/
def nodeRules (policy : Policy) : List Rule :=
  [{ domain := ruleHosts.map .full, network := some .tcp, port := rulePorts,
      outboundTag := .proxy },
    { domain := sanctionedRuleDomains policy, outboundTag := .proxy },
    { domain := googleSessionHosts, network := some .tcp, port := [443], outboundTag := .proxy },
    { domain := geoBlockedRuleHosts policy, network := some .tcp, port := [443],
      outboundTag := .proxy }]

/-- The rules after those. -/
def otherRules : List Rule :=
  [{ domain := metaDomains, network := some .udp, port := [443], outboundTag := .blackhole },
    { domain := metaDomains, outboundTag := .directFrag },
    { ip := transportIps, outboundTag := .proxy },
    { domain := iranDomains, outboundTag := .directPlain },
    { ip := localIps, outboundTag := .directPlain },
    { ip := blockPageIps, outboundTag := .blackhole },
    { network := some .udp, port := [443], outboundTag := .blackhole },
    { network := some .tcp, protocol := ["tls"], outboundTag := .directFrag },
    { network := some .tcp, port := [443], outboundTag := .directFrag },
    { network := some .tcp, outboundTag := .directPlain },
    { network := some .udp, outboundTag := .directPlain }]

theorem smartSplitRules_eq (policy : Policy) :
    smartSplitRules policy = lookupRules ++ (nodeRules policy ++ otherRules) := rfl

def Flow.isQuic (flow : Flow) : Bool := flow.network == .udp && flow.port == 443

/-- What the rules come to for a flow that no name binds to the node. -/
def onward (geo : GeoData) (flow : Flow) : OutboundTag :=
  if named geo metaDomains flow then
    if flow.isQuic then .blackhole else .directFrag
  else if addressed geo transportIps flow then .proxy
  else if named geo iranDomains flow || addressed geo localIps flow then .directPlain
  else if addressed geo blockPageIps flow || flow.isQuic then .blackhole
  else if flow.network == .tcp && (recognised ["tls"] flow || flow.port == 443) then .directFrag
  else .directPlain

theorem decides_otherRules (geo : GeoData) (flow : Flow) :
    (decides (Rule.applies geo) otherRules flow).map Rule.outboundTag = some (onward geo flow) := by
  have metas : metaDomains.isEmpty = false := rfl
  have irans : iranDomains.isEmpty = false := rfl
  have transports : transportIps.isEmpty = false := rfl
  have locals : localIps.isEmpty = false := rfl
  have blockPages : blockPageIps.isEmpty = false := rfl
  simp only [otherRules, RuleTable.decides_cons, RuleTable.decides_nil, Rule.applies, onward,
    List.isEmpty_nil, List.isEmpty_cons, metas, irans, transports, locals, blockPages,
    Bool.true_or, Bool.false_or, Bool.true_and, Bool.and_true, Option.isNone_none,
    Option.isNone_some, List.contains_cons, List.contains_nil, Bool.or_false, ← Bool.cond_eq_ite]
  unfold Flow.isQuic
  generalize named geo metaDomains flow = byMeta, addressed geo transportIps flow = transport
  generalize named geo iranDomains flow = iran, addressed geo localIps flow = near
  generalize addressed geo blockPageIps flow = blockPage, recognised ["tls"] flow = tls
  generalize (flow.port == 443) = https
  -- in the order of the rules: what decides is left as soon as it is found
  cases byMeta with
  | true => cases flow.network <;> cases https <;> rfl
  | false =>
      cases transport with
      | true => rfl
      | false =>
          cases iran with
          | true => rfl
          | false =>
              cases near with
              | true => rfl
              | false =>
                  cases blockPage with
                  | true => rfl
                  | false => cases flow.network <;> cases https <;> cases tls <;> rfl

theorem lookup_silent (user : flow.inboundTag = .user) (port : flow.port ≠ 53) :
    ∀ rule ∈ lookupRules, rule.applies geo flow = false := by
  intro rule member
  have closed : (flow.port == 53) = false := beq_eq_false_iff_ne.mpr port
  fin_cases member
  · rw [Rule.applies, user]
    rfl
  · rw [Rule.applies, user]
    rfl
  · rw [Rule.applies, List.contains_cons, closed]
    rfl

/-- A rule that binds a name to the node takes the flow. -/
def NodeBound (geo : GeoData) (policy : Policy) (flow : Flow) : Prop :=
  ∃ rule ∈ smartSplitRules policy,
    rule.domain ≠ [] ∧ rule.outboundTag = .proxy ∧ rule.applies geo flow = true

theorem nodeRules_domain_ne_nil {rule : Rule} (member : rule ∈ nodeRules policy) :
    rule.domain ≠ [] ∧ rule.outboundTag = .proxy := by
  fin_cases member
  · exact ⟨by decide, rfl⟩
  · exact ⟨List.append_ne_nil_of_left_ne_nil (by decide) _, rfl⟩
  · exact ⟨by decide, rfl⟩
  · exact ⟨fun none_ => policy.geoBlocked_ne_nil (List.map_eq_nil_iff.mp none_), rfl⟩

theorem nodeBound_iff :
    NodeBound geo policy flow ↔ ∃ rule ∈ nodeRules policy, rule.applies geo flow = true := by
  constructor
  · rintro ⟨rule, member, byName, bound, applied⟩
    rw [smartSplitRules_eq] at member
    rcases List.mem_append.mp member with lookup | member
    · have unnamed : ∀ rule ∈ lookupRules, rule.domain = [] := by decide
      exact absurd (unnamed rule lookup) byName
    rcases List.mem_append.mp member with node | other
    · exact ⟨rule, node, applied⟩
    · have elsewhere : ∀ rule ∈ otherRules, rule.domain = [] ∨ rule.outboundTag ≠ .proxy := by
        decide
      exact absurd bound ((elsewhere rule other).resolve_left byName)
  · rintro ⟨rule, member, applied⟩
    obtain ⟨byName, bound⟩ := nodeRules_domain_ne_nil member
    refine ⟨rule, ?_, byName, bound, applied⟩
    rw [smartSplitRules_eq]
    exact List.mem_append_right _ (List.mem_append_left _ member)

theorem route_of_nodeBound (user : flow.inboundTag = .user) (port : flow.port ≠ 53)
    (bound : NodeBound geo policy flow) : route geo policy flow = .proxy := by
  obtain ⟨rule, member, applied⟩ := nodeBound_iff.mp bound
  obtain ⟨first, firstMember, _, first_eq⟩ :=
    RuleTable.decides_of_applies member applied otherRules
  rw [route, smartSplitRules_eq, RuleTable.decides_append (lookup_silent user port), first_eq]
  exact (nodeRules_domain_ne_nil firstMember).2

theorem route_of_unbound (user : flow.inboundTag = .user) (port : flow.port ≠ 53)
    (unbound : ¬NodeBound geo policy flow) : route geo policy flow = onward geo flow := by
  have silent : ∀ rule ∈ nodeRules policy, rule.applies geo flow = false := by
    intro rule member
    rw [Bool.eq_false_iff]
    exact fun applied => unbound (nodeBound_iff.mpr ⟨rule, member, applied⟩)
  rw [route, smartSplitRules_eq, RuleTable.decides_append (lookup_silent user port),
    RuleTable.decides_append silent, decides_otherRules]
  rfl

/-- What the table promises about a flow of the user. -/
structure Served (geo : GeoData) (policy : Policy) (flow : Flow) : Prop where
  blockPage : addressed geo blockPageIps flow = true → flow.port ≠ 53 →
    ¬NodeBound geo policy flow → route geo policy flow = .blackhole
  node : named geo (sanctionedRuleDomains policy) flow = true ∨
      (addressed geo transportIps flow = true ∧ named geo metaDomains flow = false) →
    flow.port ≠ 53 → route geo policy flow = .proxy
  quic : flow.isQuic = true → named geo iranDomains flow = false →
    addressed geo localIps flow = false →
    route geo policy flow ≠ .directFrag ∧ route geo policy flow ≠ .directPlain

theorem inCidr_ten {address : IpAddr} (inside : inCidr ⟨10, 10, 34, 0⟩ 24 address = true) :
    inCidr ⟨10, 0, 0, 0⟩ 8 address = true := by
  cases address with
  | v6 ip => cases inside
  | v4 ip =>
      have exact_ := eq_of_beq inside
      apply beq_iff_eq.mpr
      change Ipv4Addr.bits ip / 256 = 657954 at exact_
      change Ipv4Addr.bits ip / 16777216 = 10
      omega

/-- `geoip:private` holds the block-page network. -/
theorem addressed_local_of_blockPage (inside : addressed geo blockPageIps flow = true) :
    addressed geo localIps flow = true := by
  obtain ⟨pattern, member, inside⟩ := List.any_eq_true.mp inside
  obtain rfl := List.mem_singleton.mp member
  refine List.any_eq_true.mpr ⟨.geoip "private", by decide, ?_⟩
  exact geo.privateTen flow.address (inCidr_ten inside)

theorem sanctioned_nodeBound (sanctioned : named geo (sanctionedRuleDomains policy) flow = true) :
    NodeBound geo policy flow := by
  refine nodeBound_iff.mpr ⟨{ domain := sanctionedRuleDomains policy, outboundTag := .proxy },
    List.mem_cons_of_mem _ List.mem_cons_self, ?_⟩
  rw [Rule.applies, sanctioned, Bool.or_true]
  rfl

theorem onward_transport (transport : addressed geo transportIps flow = true)
    (unnamed : named geo metaDomains flow = false) : onward geo flow = .proxy := by
  rw [onward, unnamed, transport]
  rfl

theorem onward_quic (quic : flow.isQuic = true) (foreign : named geo iranDomains flow = false)
    (away : addressed geo localIps flow = false) :
    onward geo flow = .blackhole ∨ onward geo flow = .proxy := by
  rw [onward, quic, foreign, away, Bool.or_true]
  cases named geo metaDomains flow with
  | true => exact Or.inl rfl
  | false =>
      cases addressed geo transportIps flow with
      | true => exact Or.inr rfl
      | false => exact Or.inl rfl

/-- The rule for private addresses comes before the one for the block page. -/
theorem onward_blockPage_iff (inside : addressed geo blockPageIps flow = true) :
    onward geo flow = .blackhole ↔ named geo metaDomains flow = true ∧ flow.isQuic = true := by
  rw [onward, addressed_local_of_blockPage inside, Bool.or_true]
  cases named geo metaDomains flow with
  | true => cases flow.isQuic <;> simp
  | false => cases addressed geo transportIps flow <;> simp

theorem served_iff (user : flow.inboundTag = .user) :
    Served geo policy flow ↔
      ¬(addressed geo blockPageIps flow = true ∧ flow.port ≠ 53 ∧ ¬NodeBound geo policy flow ∧
        ¬(named geo metaDomains flow = true ∧ flow.isQuic = true)) := by
  constructor
  · rintro served ⟨inside, port, unbound, other⟩
    have blackholed := served.blockPage inside port unbound
    rw [route_of_unbound user port unbound, onward_blockPage_iff inside] at blackholed
    exact other blackholed
  · intro apart
    refine ⟨?_, ?_, ?_⟩
    · intro inside port unbound
      rw [route_of_unbound user port unbound, onward_blockPage_iff inside]
      by_contra other
      exact apart ⟨inside, port, unbound, other⟩
    · rintro (sanctioned | ⟨transport, unnamed⟩) port
      · exact route_of_nodeBound user port (sanctioned_nodeBound sanctioned)
      · by_cases bound : NodeBound geo policy flow
        · exact route_of_nodeBound user port bound
        · rw [route_of_unbound user port bound]
          exact onward_transport transport unnamed
    · intro quic foreign away
      have https : flow.port = 443 := by
        rw [Flow.isQuic, Bool.and_eq_true] at quic
        exact eq_of_beq quic.2
      have port : flow.port ≠ 53 := by rw [https]; decide
      by_cases bound : NodeBound geo policy flow
      · rw [route_of_nodeBound user port bound]
        decide
      · rw [route_of_unbound user port bound]
        rcases onward_quic quic foreign away with taken | taken
        all_goals
          rw [taken]
          decide

end Flows

end MolidoVpn.Shard
