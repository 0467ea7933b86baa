import MolidoVpn.Lib.Base64
import MolidoVpn.V2ray.ShareLine

/-!
A share line that is read again: which nodes come back as they were. The name is written behind the
identity, where it is read, but of a vmess line the name inside its payload is read instead.
-/

namespace MolidoVpn.V2ray

open Kotlin (trim substringBefore substringBeforeOr substringAfter substringAfterOr urlDecodeFrom
  isWhitespace)

section Escapes

/-- A byte as the share line has it: `%20` where the encoder writes a plus sign. -/
def sharedByte (byte : Nat) : List Char :=
  (encodeByte byte).flatMap fun c => if c = '+' then "%20".toList else [c]

def sharedName (name : List Char) : List Char :=
  (urlEncode name).flatMap fun c => if c = '+' then "%20".toList else [c]

def escape (byte : Nat) : List Char := ['%', hexUpper (byte / 16), hexUpper (byte % 16)]

def unreserved (c : Char) : Bool := c.isAlphanum || c = '.' || c = '-' || c = '*' || c = '_'

theorem sharedName_eq (name : List Char) :
    sharedName name = name.flatMap fun c =>
      (String.utf8EncodeChar c).flatMap fun byte => sharedByte byte.toNat := by
  unfold sharedName urlEncode Utf8.encode sharedByte
  rw [List.flatMap_assoc, List.flatMap_assoc]

theorem sharedByte_eq {byte : Nat} (small : byte < 256) :
    sharedByte byte = if unreserved (Char.ofNat byte) then [Char.ofNat byte] else escape byte := by
  have all : (List.range 256).all (fun byte => sharedByte byte =
      if unreserved (Char.ofNat byte) then [Char.ofNat byte] else escape byte) = true := by
    decide +kernel
  exact of_decide_eq_true (List.all_eq_true.mp all byte (List.mem_range.mpr small))

theorem plus_not_mem_sharedByte {byte : Nat} (small : byte < 256) : '+' ∉ sharedByte byte := by
  have digit : ∀ value < 16, '+' ≠ hexUpper value := by decide
  rw [sharedByte_eq small]
  split
  · rename_i plain
    intro member
    rw [← List.mem_singleton.mp member] at plain
    exact absurd plain (by decide)
  · simp only [escape, List.mem_cons, List.not_mem_nil, or_false, not_or]
    exact ⟨by decide, digit _ (by omega), digit _ (by omega)⟩

theorem hexDigit_escape {byte : Nat} (small : byte < 256) :
    ∃ high low, Kotlin.hexDigit (hexUpper (byte / 16)) = some high ∧
      Kotlin.hexDigit (hexUpper (byte % 16)) = some low ∧ high * 16 + low = UInt8.ofNat byte := by
  have digit : ∀ value < 16, Kotlin.hexDigit (hexUpper value) = some (UInt8.ofNat value) := by
    decide
  refine ⟨_, _, digit _ (by omega), digit _ (by omega), ?_⟩
  rw [show (16 : UInt8) = UInt8.ofNat 16 from rfl, ← UInt8.ofNat_mul, ← UInt8.ofNat_add,
    Nat.div_add_mod']

theorem urlDecodeFrom_escape (pending : List UInt8) (byte : UInt8) (rest : List Char) :
    urlDecodeFrom pending (escape byte.toNat ++ rest) = urlDecodeFrom (pending ++ [byte]) rest := by
  obtain ⟨high, low, first, second, value⟩ := hexDigit_escape byte.toNat_lt
  change urlDecodeFrom pending ('%' :: hexUpper (byte.toNat / 16) ::
    hexUpper (byte.toNat % 16) :: rest) = _
  rw [urlDecodeFrom, first, second, Option.bind_some, Option.bind_some, value,
    UInt8.ofNat_toNat]

theorem urlDecodeFrom_escapes (pending bytes : List UInt8) (rest : List Char) :
    urlDecodeFrom pending ((bytes.flatMap fun byte => escape byte.toNat) ++ rest) =
      urlDecodeFrom (pending ++ bytes) rest := by
  induction bytes generalizing pending with
  | nil => rw [List.append_nil]; rfl
  | cons byte bytes ih =>
      rw [List.flatMap_cons, List.append_assoc, urlDecodeFrom_escape, ih, List.append_assoc]
      rfl

theorem urlDecodeFrom_plain {c : Char} (plain : c ≠ '%' ∧ c ≠ '+') (pending : List UInt8)
    (rest : List Char) :
    urlDecodeFrom pending (c :: rest) =
      (urlDecodeFrom [] rest).map fun decoded => Utf8.fromUtf8Lossy pending ++ c :: decoded := by
  rw [urlDecodeFrom]
  · rw [if_neg plain.1, if_neg plain.2]
  · intro high low tail percent _
    exact plain.1 percent

theorem sharedByte_high {byte : Nat} (small : byte < 256) (high : 128 ≤ byte) :
    sharedByte byte = escape byte := by
  have all : (List.range 256).all (fun byte =>
      byte < 128 || !unreserved (Char.ofNat byte)) = true := by decide +kernel
  have other := List.all_eq_true.mp all byte (List.mem_range.mpr small)
  rw [decide_eq_false (not_lt.mpr high), Bool.false_or, Bool.not_eq_true'] at other
  rw [sharedByte_eq small, other, if_neg Bool.false_ne_true]

/-- A character is written as it is, where it is unreserved, and byte by byte otherwise. -/
theorem sharedChar_eq (c : Char) :
    ((String.utf8EncodeChar c).flatMap fun byte => sharedByte byte.toNat) =
      if unreserved c ∧ c.toNat < 128 then [c]
      else (String.utf8EncodeChar c).flatMap fun byte => escape byte.toNat := by
  by_cases ascii : c.toNat < 128
  · have value : c.toNat.toUInt8.toNat = c.toNat := Nat.mod_eq_of_lt (by omega)
    rw [Utf8.encodeChar_ascii ascii, List.flatMap_singleton, List.flatMap_singleton, value,
      sharedByte_eq (by omega), Char.ofNat_toNat]
    by_cases plain : unreserved c = true
    · rw [if_pos plain, if_pos ⟨plain, ascii⟩]
    · rw [if_neg plain, if_neg fun both => plain both.1]
  · rw [if_neg fun both => ascii both.2]
    apply List.flatMap_congr
    intro byte member
    apply sharedByte_high byte.toNat_lt
    by_contra low
    have within : byte ∈ Utf8.encode [c] :=
      List.mem_flatMap.mpr ⟨c, List.mem_singleton_self c, member⟩
    have own := List.mem_singleton.mp (Utf8.mem_of_ascii within (not_le.mp low))
    rw [← own, Utf8.toNat_ofNat_byte (not_le.mp low)] at ascii
    exact ascii (not_le.mp low)

theorem urlDecodeFrom_shared (pending name : List Char) :
    urlDecodeFrom (Utf8.encode pending) (sharedName name) = some (pending ++ name) := by
  rw [sharedName_eq]
  induction name generalizing pending with
  | nil =>
      rw [List.flatMap_nil, urlDecodeFrom, Utf8.fromUtf8Lossy_encode, List.append_nil]
  | cons c rest ih =>
      rw [List.flatMap_cons, sharedChar_eq]
      split
      · rename_i plain
        have others : c ≠ '%' ∧ c ≠ '+' := by
          constructor <;> rintro rfl <;> exact absurd plain.1 (by decide)
        have read := ih []
        rw [Utf8.encode_nil] at read
        rw [List.singleton_append, urlDecodeFrom_plain others, read, Utf8.fromUtf8Lossy_encode]
        rfl
      · have grown := ih (pending ++ [c])
        rw [Utf8.encode_append, List.append_assoc] at grown
        rw [urlDecodeFrom_escapes]
        have one : Utf8.encode [c] = String.utf8EncodeChar c := List.flatMap_singleton _ _
        rw [← one]
        exact grown

theorem plus_not_mem_sharedName (name : List Char) : '+' ∉ sharedName name := by
  rw [sharedName_eq]
  intro member
  obtain ⟨c, _, inside⟩ := List.mem_flatMap.mp member
  obtain ⟨byte, _, here⟩ := List.mem_flatMap.mp inside
  exact plus_not_mem_sharedByte byte.toNat_lt here

/-- The name is read as it was written. -/
theorem decode_sharedName (name : List Char) : decode (sharedName name) = name := by
  have clear : ((sharedName name).flatMap fun c => if c = '+' then "%2B".toList else [c]) =
      sharedName name := by
    have each : ∀ c ∈ sharedName name, (if c = '+' then "%2B".toList else [c]) = [c] :=
      fun c member => if_neg fun plus : c = '+' => plus_not_mem_sharedName name (plus ▸ member)
    rw [List.flatMap_congr each]
    exact List.flatMap_singleton' _
  have read := urlDecodeFrom_shared [] name
  rw [decode, clear, Kotlin.urlDecode]
  rw [Utf8.encode_nil] at read
  rw [read]
  rfl

theorem sharedName_ne_nil {name : List Char} (nonempty : name ≠ []) : sharedName name ≠ [] := by
  intro none
  have read := decode_sharedName name
  rw [none] at read
  exact nonempty read.symm

end Escapes

section Names

variable {platform : Platform} {raw line : List Char} {node : V2rayNode}

/-- The name inside the payload of a vmess line. -/
def psName (platform : Platform) (payload : List Char) : List Char :=
  ((platform.parseObject ((base64Text platform payload).getD "{}".toList)).map fun json =>
    trim (json.optString "ps")).getD []

def payload (line : List Char) : List Char :=
  trim (substringBefore ['#'] (substringAfter "://".toList line))

def fragment (line : List Char) : List Char := substringAfterOr ['#'] [] line

theorem nameOf_eq (line : List Char) (node : V2rayNode) :
    nameOf platform line node =
      if fragment line ≠ [] then trim (decode (fragment line))
      else if node.protocol ≠ "vmess".toList then []
      else psName platform (payload line) := rfl

/-- A vmess line has no name but the one in its payload, or the same one behind it. -/
def NameInside (platform : Platform) (raw : List Char) : Prop :=
  lower platform (substringBeforeOr "://".toList [] (trim raw)) = "vmess".toList →
    fragment (trim raw) = [] ∨
      trim (decode (fragment (trim raw))) = psName platform (payload (trim raw))

theorem trim_psName (payload : List Char) :
    trim (psName platform payload) = psName platform payload := by
  unfold psName
  cases platform.parseObject ((base64Text platform payload).getD "{}".toList) with
  | none => rfl
  | some json => exact Kotlin.trim_trim _

theorem trim_nameOf (line : List Char) (node : V2rayNode) :
    trim (nameOf platform line node) = nameOf platform line node := by
  rw [nameOf_eq]
  split
  · exact Kotlin.trim_trim _
  · split
    · rfl
    · exact trim_psName _

theorem fragment_clear (clear : '#' ∉ line) : fragment line = [] := by
  unfold fragment substringAfterOr
  rw [Kotlin.splitAround_eq_none clear]
  rfl

theorem fragment_append (clear : '#' ∉ line) (name : List Char) :
    fragment (line ++ '#' :: name) = name := by
  have found : Text.splitAround ['#'] (line ++ (['#'] ++ name)) = some (line, name) :=
    Text.splitAround_first clear name
  change ((Text.splitAround ['#'] (line ++ (['#'] ++ name))).map Prod.snd).getD [] = name
  rw [found]
  rfl

theorem clear_of_core : '#' ∉ trim (substringBefore ['#'] line) := fun member =>
  Kotlin.notMem_substringBefore '#' line (Kotlin.trim_subset _ member)

theorem clear_payload (line : List Char) : '#' ∉ payload line := fun member =>
  Kotlin.notMem_substringBefore '#' _ (Kotlin.trim_subset _ member)

/-- Lines of the other schemes have no name in their identity. -/
theorem apart_of {scheme protocol : List Char} (other : scheme ≠ "vmess".toList)
    (differs : protocol ≠ "vmess".toList) (clear : '#' ∉ node.uri)
    (named : node.protocol = protocol) :
    '#' ∉ node.uri ∧ (node.protocol = "vmess".toList ↔ scheme = "vmess".toList) ∧
      (scheme = "vmess".toList → node.uri = "vmess://".toList ++ payload line) :=
  ⟨clear, iff_of_false (named ▸ differs) other, fun vmess => absurd vmess other⟩

/-- What a line is read as: the identity has no name in it, and the protocol is vmess for a line
of that scheme only. -/
theorem parseScheme_facts {scheme : List Char}
    (parsed : parseScheme platform scheme line = some node) :
    '#' ∉ node.uri ∧ (node.protocol = "vmess".toList ↔ scheme = "vmess".toList) ∧
      (scheme = "vmess".toList → node.uri = "vmess://".toList ++ payload line) := by
  unfold parseScheme at parsed
  split at parsed
  · rename_i vless
    obtain ⟨uri, protocol⟩ := parseVlessOrTrojan_uri parsed
    exact apart_of (by rw [vless]; decide) (by decide) (uri ▸ clear_of_core) protocol
  split at parsed
  · rename_i trojan
    obtain ⟨uri, protocol⟩ := parseVlessOrTrojan_uri parsed
    exact apart_of (by rw [trojan]; decide) (by decide) (uri ▸ clear_of_core) protocol
  split at parsed
  · rename_i vmess
    obtain ⟨uri, protocol⟩ := parseVmess_uri parsed
    refine ⟨?_, iff_of_true protocol vmess, fun _ => uri⟩
    rw [uri, List.mem_append, not_or]
    exact ⟨by decide, clear_payload line⟩
  split at parsed
  · rename_i ss
    obtain ⟨uri, protocol⟩ := parseShadowsocks_uri parsed
    exact apart_of (by rw [ss]; decide) (by decide) (uri ▸ clear_of_core) protocol
  split at parsed
  · rename_i hysteria2
    obtain ⟨uri, protocol⟩ := parseHysteria2_uri parsed
    have clear : '#' ∉ node.uri := by
      rw [uri, List.mem_append, not_or]
      exact ⟨by decide, fun member => clear_of_core (Kotlin.substringAfter_subset _ _ member)⟩
    have other : scheme ≠ "vmess".toList := by
      rcases hysteria2 with rfl | rfl <;> decide
    exact apart_of other (by decide) clear protocol
  split at parsed
  · rename_i tuic
    obtain ⟨uri, protocol⟩ := parseTuic_uri parsed
    exact apart_of (by rw [tuic]; decide) (by decide) (uri ▸ clear_of_core) protocol
  split at parsed
  · rename_i anytls
    obtain ⟨uri, protocol⟩ := parseAnyTls_uri parsed
    exact apart_of (by rw [anytls]; decide) (by decide) (uri ▸ clear_of_core) protocol
  · cases parsed

/-- The name of the line that a node is written as. -/
theorem nameOf_shareLine (clear : '#' ∉ node.uri) (trimmed : trim node.name = node.name) :
    nameOf platform (shareLine node) node =
      if node.protocol = "vmess".toList then psName platform (payload node.uri)
      else node.name := by
  rw [nameOf_eq, shareLine]
  by_cases vmess : node.protocol = "vmess".toList
  · rw [if_pos (Or.inr vmess), fragment_clear clear, if_neg (not_not.mpr rfl),
      if_neg (not_not.mpr vmess), if_pos vmess]
  · rw [if_neg vmess]
    by_cases unnamed : node.name = []
    · rw [if_pos (Or.inl unnamed), fragment_clear clear, if_neg (not_not.mpr rfl), if_pos vmess,
        unnamed]
    · have named : ¬ (node.name = [] ∨ node.protocol = "vmess".toList) :=
        not_or.mpr ⟨unnamed, vmess⟩
      rw [if_neg named, fragment_append clear]
      change (if sharedName node.name ≠ [] then trim (decode (sharedName node.name)) else _) = _
      rw [if_pos (sharedName_ne_nil unnamed), decode_sharedName, trimmed]

theorem payload_vmess (line : List Char) :
    payload ("vmess://".toList ++ payload line) = payload line := by
  have split := front_vmess.split (payload line)
  have behind : substringAfter "://".toList ("vmess://".toList ++ payload line) = payload line := by
    unfold substringAfter substringAfterOr
    change ((Text.splitAround "://".toList ("vmess".toList ++ ("://".toList ++ payload line))).map
      Prod.snd).getD ("vmess://".toList ++ payload line) = _
    rw [split]
    rfl
  rw [payload, behind, Kotlin.substringBefore_of_notMem (clear_payload line), payload,
    Kotlin.trim_trim]

/-- What is known of a node that has been read. -/
structure ReadFrom (platform : Platform) (raw : List Char) (node : V2rayNode) : Prop where
  clear : '#' ∉ node.uri
  vmess : node.protocol = "vmess".toList ↔
    lower platform (substringBeforeOr "://".toList [] (trim raw)) = "vmess".toList
  uri : node.protocol = "vmess".toList → node.uri = "vmess://".toList ++ payload (trim raw)
  name : node.name = nameOf platform (trim raw) node

theorem readFrom (read : parseOne platform raw = some node) : ReadFrom platform raw node := by
  obtain ⟨plain, parsed, rfl⟩ := Option.map_eq_some_iff.mp read
  obtain ⟨clear, vmess, uri⟩ := parseScheme_facts parsed
  exact ⟨clear, vmess, fun own => uri (vmess.mp own), rfl⟩

theorem with_name_iff {name : List Char} :
    { node with name := name } = node ↔ name = node.name := by
  constructor
  · exact congrArg V2rayNode.name
  · rintro rfl
    rfl

/-- A node is read back from its share line just when its name is where it is looked for. -/
theorem parseOne_shareLine_iff (keeps : KeepsHash platform)
    (read : parseOne platform raw = some node) :
    parseOne platform (shareLine node) = some node ↔ NameInside platform raw := by
  have known := readFrom read
  have trimmed : trim node.name = node.name := by
    rw [known.name]
    exact trim_nameOf _ _
  rw [parseOne_again keeps read, Option.some.injEq, with_name_iff,
    nameOf_shareLine known.clear trimmed, NameInside, ← known.vmess]
  by_cases vmess : node.protocol = "vmess".toList
  · rw [if_pos vmess, forall_prop_of_true vmess, known.uri vmess, payload_vmess, known.name,
      nameOf_eq]
    by_cases unnamed : fragment (trim raw) = []
    · rw [if_neg (not_not.mpr unnamed), if_neg (not_not.mpr vmess)]
      exact iff_of_true rfl (Or.inl unnamed)
    · rw [if_pos unnamed, or_iff_right unnamed]
      exact eq_comm
  · rw [if_neg vmess]
    exact iff_of_true rfl fun own => absurd own vmess

private def psText : List Char :=
  ("\x7b\"add\":\"a.example\",\"port\":\"443\",\"id\":\"b831381d\"," ++
    "\"ps\":\"Paris\"\x7d").toList

/-- One JSON text is known, and base64 is read. -/
private def parisPlatform : Platform where
  parseObject := fun text =>
    if text = psText then
      some (Json.obj [("add", Json.str "a.example"), ("port", Json.str "443"),
        ("id", Json.str "b831381d"), ("ps", Json.str "Paris")])
    else none
  unicode := Kotlin.Unicode.ascii
  base64 := Base64.decodePadded false

private theorem keepsHash_paris : KeepsHash parisPlatform :=
  fun _ member => List.mem_map.mpr ⟨'#', member, by decide⟩

theorem parseOne_shareLine_iff_trojan :
    ∃ node, parseOne parisPlatform "trojan://pw@a.example:443#Z%C3%BCrich%20+1".toList =
        some node ∧
      (parseOne parisPlatform (shareLine node) = some node ↔
        NameInside parisPlatform "trojan://pw@a.example:443#Z%C3%BCrich%20+1".toList) := by
  obtain ⟨node, read⟩ : ∃ node,
      parseOne parisPlatform "trojan://pw@a.example:443#Z%C3%BCrich%20+1".toList = some node :=
    Option.isSome_iff_exists.mp (by decide +kernel)
  exact ⟨node, read, parseOne_shareLine_iff keepsHash_paris read⟩

/-- A vmess line with a name behind it that is not the one in its payload. -/
private def berlinLine : List Char :=
  "vmess://".toList ++ Base64.encode (Utf8.encode psText) ++ "#Berlin".toList

theorem parseOne_shareLine_vmess :
    (parseOne parisPlatform berlinLine).map V2rayNode.name = some "Berlin".toList ∧
      ((parseOne parisPlatform berlinLine).bind fun node =>
        (parseOne parisPlatform (shareLine node)).map V2rayNode.name) = some "Paris".toList := by
  decide +kernel

end Names

end MolidoVpn.V2ray
