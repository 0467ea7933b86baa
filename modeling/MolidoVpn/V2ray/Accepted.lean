import MolidoVpn.V2ray.Outbound

/-!
Which of the nodes that `parseOne` reads the core accepts when they are rendered.
-/

namespace MolidoVpn.V2ray

open Json (obj str)
open Kotlin (Unicode)
open Shard (ifEmpty)

section Reading

@[simp]
theorem textOf_obj_nil (name : String) : textOf (obj []) name = [] := rfl

@[simp]
theorem textOf_obj_cons (first : String × Json) (rest : List (String × Json)) (name : String) :
    textOf (obj (first :: rest)) name =
      if first.1 = name then first.2.text.getD [] else textOf (obj rest) name := by
  rw [textOf, Json.optString, Json.opt_obj_cons]
  split <;> rfl

@[simp]
theorem memberOf_obj_cons (first : String × Json) (rest : List (String × Json)) (name : String) :
    memberOf (obj (first :: rest)) name =
      if first.1 = name then first.2 else memberOf (obj rest) name := by
  rw [memberOf, Json.opt_obj_cons]
  split <;> rfl

@[simp]
theorem entryOf_obj_singleton (name : String) (entry : Json) :
    entryOf (obj [(name, .array [entry])]) name = entry := by
  rw [entryOf, Json.opt_obj_cons, if_pos rfl]

end Reading

def protocols : List (List Char) :=
  texts ["vless", "trojan", "vmess", "shadowsocks", "hysteria2", "tuic", "anytls"]

/-- What every node that is read satisfies, whatever its scheme. -/
structure Sound (node : V2rayNode) : Prop where
  protocol : node.protocol ∈ protocols
  network : networks.contains node.network = true
  security : securities.contains node.security = true
  flow : flows.contains node.flow = true
  reality : node.security = "reality".toList →
    (texts ["ws", "httpupgrade"]).contains node.network = false
  xhttpMode : xhttpModes.contains node.xhttpMode = true
  vmess : node.protocol = "vmess".toList → vmessSecurity.contains node.method = true
  singBox : node.protocol ∈ singBoxProtocols → node.security = "tls".toList
  shadowsocks : node.protocol = "shadowsocks".toList →
    ssMethods.contains node.method = true ∧ node.network = "tcp".toList ∧
      node.security = "none".toList

section Parse

variable {platform : Platform} {line : List Char} {node : V2rayNode}

theorem complete_reality (whole : complete node = true)
    (reality : node.security = "reality".toList) :
    (texts ["ws", "httpupgrade"]).contains node.network = false := by
  have apart : ∀ network ∈ texts ["tcp", "grpc", "xhttp"],
      (texts ["ws", "httpupgrade"]).contains network = false := by decide
  simp only [complete, reality, true_and, Bool.if_false_left, Bool.and_eq_true,
    Bool.not_eq_true', decide_eq_false_iff_not, Bool.not_eq_true, Bool.not_eq_false] at whole
  obtain ⟨_, _, _, known, _⟩ := whole
  exact apart node.network (List.contains_iff_mem.mp known)

/-- What the other core carries is plain TLS to this one. -/
theorem Sound.ofSingBox (protocol : node.protocol ∈ singBoxProtocols)
    (network : node.network = "tcp".toList) (security : node.security = "tls".toList)
    (flow : node.flow = []) (mode : node.xhttpMode = "auto".toList) : Sound node where
  protocol := by
    have known : ∀ protocol ∈ singBoxProtocols, protocol ∈ protocols := by decide
    exact known node.protocol protocol
  network := by rw [network]; decide
  security := by rw [security]; decide
  flow := by rw [flow]; decide
  reality := by
    intro reality
    rw [security] at reality
    exact absurd reality (by decide)
  xhttpMode := by rw [mode]; decide
  vmess := by
    intro vmess
    rw [vmess] at protocol
    exact absurd protocol (by decide)
  singBox := fun _ => security
  shadowsocks := by
    intro shadowsocks
    rw [shadowsocks] at protocol
    exact absurd protocol (by decide)

theorem parseAnyTls_sound (read : parseAnyTls platform line = some node) : Sound node := by
  unfold parseAnyTls at read
  simp only [Option.ite_none_left_eq_some, Option.ite_none_right_eq_some,
    Option.bind_eq_some_iff] at read
  obtain ⟨_, place, _, _, same⟩ := read
  obtain rfl := Option.some.inj same
  have carried : "anytls".toList ∈ singBoxProtocols := by decide
  exact .ofSingBox carried rfl rfl rfl rfl

theorem parseTuic_sound (read : parseTuic platform line = some node) : Sound node := by
  unfold parseTuic at read
  simp only [Option.ite_none_left_eq_some, Option.ite_none_right_eq_some,
    Option.bind_eq_some_iff] at read
  obtain ⟨_, place, _, _, same⟩ := read
  obtain rfl := Option.some.inj same
  have carried : "tuic".toList ∈ singBoxProtocols := by decide
  exact .ofSingBox carried rfl rfl rfl rfl

theorem parseHysteria2_sound (read : parseHysteria2 platform line = some node) : Sound node := by
  unfold parseHysteria2 at read
  simp only [Option.ite_none_left_eq_some, Option.ite_none_right_eq_some,
    Option.bind_eq_some_iff] at read
  obtain ⟨_, place, _, _, _, _, same⟩ := read
  obtain rfl := Option.some.inj same
  have carried : "hysteria2".toList ∈ singBoxProtocols := by decide
  exact .ofSingBox carried rfl rfl rfl rfl

theorem parseShadowsocks_sound (read : parseShadowsocks platform line = some node) :
    Sound node := by
  unfold parseShadowsocks at read
  simp only [Option.ite_none_left_eq_some, Option.bind_eq_some_iff, Bool.or_eq_true, not_or,
    Bool.not_eq_true', Bool.not_eq_false] at read
  obtain ⟨_, parts, _, place, _, methodPass, _, ⟨known, _⟩, same⟩ := read
  obtain rfl := Option.some.inj same
  exact {
    protocol := (by decide : "shadowsocks".toList ∈ protocols)
    network := (by decide : networks.contains "tcp".toList = true)
    security := (by decide : securities.contains "none".toList = true)
    flow := (by decide : flows.contains [] = true)
    reality := fun reality => absurd reality (by decide : "none".toList ≠ "reality".toList)
    xhttpMode := (by decide : xhttpModes.contains "auto".toList = true)
    vmess := fun vmess => absurd vmess (by decide : "shadowsocks".toList ≠ "vmess".toList)
    singBox := fun carried =>
      absurd carried (by decide : "shadowsocks".toList ∉ singBoxProtocols)
    shadowsocks := fun _ => ⟨known, rfl, rfl⟩ }

theorem xhttpMode_known (raw : List Char) : xhttpModes.contains (xhttpMode platform raw) = true := by
  unfold xhttpMode
  dsimp only
  split
  · assumption
  · decide

theorem ite_xhttpMode_known (p : Prop) [Decidable p] (raw : List Char) :
    xhttpModes.contains (if p then xhttpMode platform raw else "auto".toList) = true := by
  split
  · exact xhttpMode_known raw
  · decide

theorem parseVmess_sound (read : parseVmess platform line = some node) : Sound node := by
  unfold parseVmess at read
  simp only [Option.ite_none_left_eq_some, Option.ite_none_right_eq_some,
    Option.bind_eq_some_iff, Bool.not_eq_true', Bool.not_eq_false] at read
  obtain ⟨json, _, port, _, _, _, network, _, _, scy, whole, same⟩ := read
  have reality := complete_reality whole
  obtain rfl := Option.some.inj same
  refine {
    protocol := (by decide : "vmess".toList ∈ protocols)
    network := network
    security := ?_
    flow := (by decide : flows.contains [] = true)
    reality := reality
    xhttpMode := ite_xhttpMode_known _ _
    vmess := fun _ => scy
    singBox := fun carried => absurd carried (by decide : "vmess".toList ∉ singBoxProtocols)
    shadowsocks := fun other => absurd other (by decide : "vmess".toList ≠ "shadowsocks".toList) }
  dsimp only
  split <;> decide

theorem parseVlessOrTrojan_sound {scheme : String} (known : scheme = "vless" ∨ scheme = "trojan")
    (read : parseVlessOrTrojan platform line scheme = some node) : Sound node := by
  unfold parseVlessOrTrojan at read
  simp only [Option.ite_none_left_eq_some, Option.ite_none_right_eq_some,
    Option.bind_eq_some_iff, Bool.not_eq_true', Bool.not_eq_false] at read
  obtain ⟨_, place, _, network, _, security, _, flow, _, whole, same⟩ := read
  have reality := complete_reality whole
  have own : scheme.toList ∈ protocols ∧ scheme.toList ≠ "vmess".toList ∧
      scheme.toList ∉ singBoxProtocols ∧ scheme.toList ≠ "shadowsocks".toList := by
    rcases known with rfl | rfl <;> decide
  obtain rfl := Option.some.inj same
  exact {
    protocol := own.1
    network := network
    security := security
    flow := flow
    reality := reality
    xhttpMode := ite_xhttpMode_known _ _
    vmess := fun other => absurd other own.2.1
    singBox := fun carried => absurd carried own.2.2.1
    shadowsocks := fun other => absurd other own.2.2.2 }

/-- Whatever scheme the line has, the node is sound. -/
theorem parseOne_sound (read : parseOne platform line = some node) : Sound node := by
  obtain ⟨plain, parsed, rfl⟩ := Option.map_eq_some_iff.mp read
  have sound : Sound plain := by
    unfold parseScheme at parsed
    split at parsed
    · exact parseVlessOrTrojan_sound (Or.inl rfl) parsed
    split at parsed
    · exact parseVlessOrTrojan_sound (Or.inr rfl) parsed
    split at parsed
    · exact parseVmess_sound parsed
    split at parsed
    · exact parseShadowsocks_sound parsed
    split at parsed
    · exact parseHysteria2_sound parsed
    split at parsed
    · exact parseTuic_sound parsed
    split at parsed
    · exact parseAnyTls_sound parsed
    · cases parsed
  exact { sound with }

end Parse

/-- The keys that the core reads have the length it wants. -/
structure KeysFit (node : V2rayNode) : Prop where
  reality : node.security = "reality".toList →
    isPublicKey node.publicKey = true ∧ isShortId node.shortId = true
  shadowsocks : node.protocol = "shadowsocks".toList →
    isPassword node.method node.credential = true

section Render

variable {platform : Platform} {node : V2rayNode}

theorem acceptsUser_iff (sound : Sound node) (carried : node.protocol ∉ singBoxProtocols)
    (address : List Char) (port : Int) :
    acceptsUser node.protocol (outboundSettings node address port) = true ↔
      (node.protocol = "shadowsocks".toList → isPassword node.method node.credential = true) := by
  have protocol := sound.protocol
  simp only [protocols, texts, List.map_cons, List.map_nil, List.mem_cons, List.not_mem_nil,
    or_false] at protocol
  rcases protocol with vless | trojan | vmess | shadowsocks | sidecar
  · have flow := List.contains_iff_mem.mp sound.flow
    by_cases plain : node.flow = []
    · rw [plain] at flow
      simp [acceptsUser, outboundSettings, vless, entryOf, plain, flow]
    · simp [acceptsUser, outboundSettings, vless, entryOf, plain, flow]
  · simp [acceptsUser, trojan]
  · have method := List.contains_iff_mem.mp (sound.vmess vmess)
    have named : node.method.isEmpty = false := by
      cases empty : node.method with
      | nil =>
          rw [empty] at method
          exact absurd method (by decide)
      | cons => rfl
    simp [acceptsUser, outboundSettings, vmess, entryOf, ifEmpty, named, method]
    decide
  · have method := List.contains_iff_mem.mp (sound.shadowsocks shadowsocks).1
    simp [acceptsUser, outboundSettings, shadowsocks, entryOf, method]
  · rcases sidecar with hysteria2 | tuic | anytls
    · exact absurd (by rw [hysteria2]; decide) carried
    · exact absurd (by rw [tuic]; decide) carried
    · exact absurd (by rw [anytls]; decide) carried

theorem knownFingerprint_mem {fp : List Char} (known : knownFingerprint node = some fp) :
    fp ∈ fingerprints := by
  unfold knownFingerprint at known
  split at known
  · rename_i member
    obtain rfl := Option.some.inj known
    exact List.contains_iff_mem.mp member
  · cases known

theorem acceptsSecurity_iff (sound : Sound node) :
    acceptsSecurity (streamSettings platform node) = true ↔
      (node.security = "reality".toList →
        isPublicKey node.publicKey = true ∧ isShortId node.shortId = true) := by
  have security := sound.security
  simp only [List.contains_iff_mem, securities, texts, List.map_cons, List.map_nil,
    List.mem_cons, List.not_mem_nil, or_false] at security
  rcases security with plain | tls | reality
  · simp [acceptsSecurity, streamSettings, plain]
  · cases known : knownFingerprint node with
    | none =>
        by_cases blank : Kotlin.isBlank node.alpn = true
        all_goals
          simp [acceptsSecurity, streamSettings, securitySettings, tls, known, blank]
    | some fp =>
        have member := knownFingerprint_mem known
        simp [acceptsSecurity, streamSettings, securitySettings, tls, known, member]
  · have fp : (knownFingerprint node).getD "chrome".toList ∈ fingerprints := by
      cases known : knownFingerprint node with
      | none => decide
      | some fp => exact knownFingerprint_mem known
    have away : node.network ∉ texts ["ws", "httpupgrade"] := by
      rw [← List.contains_iff_mem, sound.reality reality]
      exact Bool.false_ne_true
    simp only [acceptsSecurity, streamSettings, securitySettings, reality, List.cons_append,
      List.nil_append, textOf_obj_cons, memberOf_obj_cons]
    simp [away]
    exact fun _ _ => fp

/-- The security settings hold no member of a network. -/
theorem memberOf_networkSettings (name : String) (foreign : name ≠ "tlsSettings" ∧ name ≠ "realitySettings") :
    memberOf (obj (securitySettings node ++ networkSettings platform node)) name =
      memberOf (obj (networkSettings platform node)) name := by
  unfold securitySettings
  split
  · simp [foreign.1.symm]
  · split
    · simp [foreign.2.symm]
    · rfl

theorem acceptsNetwork_streamSettings (sound : Sound node) :
    acceptsNetwork (streamSettings platform node) = true := by
  have network := List.contains_iff_mem.mp sound.network
  by_cases xhttp : node.network = "xhttp".toList
  · have mode := List.contains_iff_mem.mp sound.xhttpMode
    have named : node.xhttpMode.isEmpty = false := by
      cases empty : node.xhttpMode with
      | nil =>
          rw [empty] at mode
          exact absurd mode (by decide)
      | cons => rfl
    rw [xhttp] at network
    simp [acceptsNetwork, streamSettings, xhttp]
    rw [memberOf_networkSettings "xhttpSettings" (by decide)]
    refine ⟨network, ?_⟩
    by_cases plain : node.host = []
    all_goals
      simp [networkSettings, xhttp, hostMember, plain, ifEmpty, named, mode]
  · simp [acceptsNetwork, streamSettings, network]
    exact Or.inl xhttp

theorem KeysFit.ofSingBox (sound : Sound node) (carried : node.protocol ∈ singBoxProtocols) :
    KeysFit node where
  reality := by
    intro reality
    rw [sound.singBox carried] at reality
    exact absurd reality (by decide)
  shadowsocks := by
    intro shadowsocks
    rw [shadowsocks] at carried
    exact absurd carried (by decide)

theorem accepts_singBoxOutbound (port : Int) (tag : List Char) :
    accepts (singBoxOutbound port tag) = true := by
  simp [accepts, singBoxOutbound, acceptsUser, Json.opt_obj_nil]

theorem accepts_outbound_iff (sound : Sound node) (singBoxPort : Int) (address : List Char)
    (port : Int) (tag : List Char) :
    accepts (outbound platform singBoxPort node address port tag) = true ↔ KeysFit node := by
  by_cases carried : node.protocol ∈ singBoxProtocols
  · rw [outbound, if_pos (List.contains_iff_mem.mpr carried)]
    exact iff_of_true (accepts_singBoxOutbound _ _) (.ofSingBox sound carried)
  · rw [outbound, if_neg (fun member => carried (List.contains_iff_mem.mp member))]
    have user := acceptsUser_iff sound carried address port
    by_cases streamed : node.protocol ≠ "shadowsocks".toList ∨ node.network ≠ "tcp".toList
    · have security : acceptsSecurity (streamSettings platform node) = true ↔ _ :=
        acceptsSecurity_iff sound
      have network : acceptsNetwork (streamSettings platform node) = true :=
        acceptsNetwork_streamSettings sound
      have whole : accepts (obj ([("tag", Json.string tag), ("protocol", .string node.protocol),
          ("settings", outboundSettings node address port)] ++
          [("streamSettings", streamSettings platform node)])) =
          (acceptsUser node.protocol (outboundSettings node address port) &&
            acceptsSecurity (streamSettings platform node)) := by
        simp [accepts, network]
      rw [if_pos streamed, whole, Bool.and_eq_true, user, security]
      constructor
      · rintro ⟨password, keys⟩
        exact ⟨keys, password⟩
      · intro fit
        exact ⟨fit.shadowsocks, fit.reality⟩
    · rw [not_or, not_ne_iff, not_ne_iff] at streamed
      have plain := (sound.shadowsocks streamed.1).2.2
      have whole : accepts (obj ([("tag", Json.string tag), ("protocol", .string node.protocol),
          ("settings", outboundSettings node address port)] ++ [])) =
          acceptsUser node.protocol (outboundSettings node address port) := by
        simp [accepts, Json.opt_obj_nil]
      rw [if_neg (by rw [streamed.1, streamed.2]; decide), whole, user]
      constructor
      · intro password
        refine ⟨?_, password⟩
        intro reality
        rw [plain] at reality
        exact absurd reality (by decide)
      · exact KeysFit.shadowsocks

/-- A node that is read is rendered as an outbound the core accepts, on whatever retry, exactly
where its keys have the length that the core wants. -/
theorem parseOne_accepted_iff {line : List Char} (read : parseOne platform line = some node)
    (singBoxPort : Int) (retryFp retryPath address : List Char) (port : Int) (tag : List Char) :
    accepts (outbound platform singBoxPort
      { node with fingerprint := retryFp, path := retryPath } address port tag) = true ↔
      KeysFit node := by
  have sound := parseOne_sound read
  have retried : Sound { node with fingerprint := retryFp, path := retryPath } := { sound with }
  rw [accepts_outbound_iff retried]
  constructor
  · intro fit
    exact ⟨fit.reality, fit.shadowsocks⟩
  · intro fit
    exact ⟨fit.reality, fit.shadowsocks⟩

end Render

section Lines

/-- Nothing is read from base64 or as JSON: the lines below hold neither. -/
def plainPlatform : Platform where
  parseObject := fun _ => none
  unicode := Unicode.ascii
  base64 := fun _ => none

def realityLine (publicKey shortId : String) : List Char :=
  "vless://id@host:443?security=reality&sni=name&pbk=".toList ++
    publicKey.toList ++ "&sid=".toList ++ shortId.toList

def zeroKey : String := "AAAAAAAAAAAAAAAAAAAAAAAAAAAAAAAAAAAAAAAAAAA"

set_option maxRecDepth 8000 in
theorem parseOne_accepted_iff_reality :
    ∃ node, parseOne plainPlatform (realityLine zeroKey "abcd") = some node ∧ KeysFit node ∧
      accepts (outbound plainPlatform 0 { node with fingerprint := [], path := [] }
        "host".toList 443 "out-0".toList) = true := by
  obtain ⟨node, read⟩ : ∃ node, parseOne plainPlatform (realityLine zeroKey "abcd") = some node :=
    Option.isSome_iff_exists.mp (by decide)
  have accepted : ((parseOne plainPlatform (realityLine zeroKey "abcd")).map fun node =>
      accepts (outbound plainPlatform 0 { node with fingerprint := [], path := [] }
        "host".toList 443 "out-0".toList)) = some true := by decide
  rw [read] at accepted
  have taken := Option.some.inj accepted
  exact ⟨node, read, (parseOne_accepted_iff read 0 [] [] _ 443 _).mp taken, taken⟩

/-- What the core says to the line as it is first rendered; nothing where it is not read. -/
def acceptedLine (line : List Char) : Option Bool :=
  (parseOne plainPlatform line).map fun node =>
    accepts (outbound plainPlatform 0 node node.address node.port "out-0".toList)

set_option maxRecDepth 8000 in
/-- Each line is read, and for each the core does not start: a key that is not 32 bytes long,
a short id of an odd length, and a password that is not the key of its cipher. -/
theorem short_keys_rejected :
    acceptedLine (realityLine "key" "ab") = some false ∧
      acceptedLine (realityLine zeroKey "abc") = some false ∧
      acceptedLine "ss://2022-blake3-aes-128-gcm:secret@host:443".toList =
        some false :=
  ⟨by decide, by decide, by decide⟩

end Lines

end MolidoVpn.V2ray
