import MolidoVpn.Socks.RuleText

/-!
Rules for addresses and networks, bare and behind `ip:`. The kind of a rule ends at its first
colon, and so does the first group of an IPv6 text.
-/

namespace MolidoVpn.Routing

open IpText (isDigitOf IpChar ColonText)
open Lowercase (toLowercase_ascii)
open Text (splitAround isWhitespace strip trim Solid)

/-- What an entry on its own says about a destination. -/
def ruleMatches (crates : Crates) (entry : List Char) (host : Host) (port : UInt16) : Bool :=
  (Matcher.parse crates entry).any (Matcher.matches crates.lower host port)

def Inside (net : IpNet) (host : Host) : Prop := ∃ ip, host = .ip ip ∧ net.contains ip = true

section Characters

def NetChar (c : Char) : Prop := IpChar c ∨ c = '/'

instance (c : Char) : Decidable (NetChar c) := inferInstanceAs (Decidable (_ ∨ _))

private theorem toLower_hex {c : Char} (digit : isDigitOf 16 c = true) :
    isDigitOf 16 c.toLower = true := by
  have checked : ∀ n < 128, isDigitOf 16 (Char.ofNat n) = true →
      isDigitOf 16 (Char.ofNat n).toLower = true := by decide +kernel
  have small : c.toNat < 128 := IpText.ascii_of_ipChar (Or.inl digit)
  have result := checked c.toNat small
  rw [Char.ofNat_toNat] at result
  exact result digit

theorem netChar_toLower {c : Char} (char : NetChar c) : NetChar c.toLower := by
  rcases char with (digit | rfl | rfl) | rfl
  · exact Or.inl (Or.inl (toLower_hex digit))
  · decide
  · decide
  · decide

theorem solid_of_netChar {text : List Char} (chars : ∀ c ∈ text, NetChar c) : Solid text := by
  intro c member
  rcases chars c member with char | rfl
  · exact IpText.solid_of_ipChar (List.forall_mem_singleton.mpr char) c List.mem_cons_self
  · rfl

variable {text other : List Char}

/-- A text with another character in it is a different one. -/
theorem ne_of_netChar (chars : ∀ c ∈ text, NetChar c)
    (foreign : ∃ c ∈ other, ¬NetChar c) : text ≠ other := by
  rintro rfl
  obtain ⟨c, member, not⟩ := foreign
  exact not (chars c member)

theorem not_private (chars : ∀ c ∈ text, NetChar c) :
    eqIgnoreAsciiCase text "private".toList = false := by
  rw [eqIgnoreAsciiCase, beq_eq_false_iff_ne]
  refine ne_of_netChar ?_ ⟨'p', by decide, by decide⟩
  intro c member
  obtain ⟨d, there, rfl⟩ := List.mem_map.mp member
  exact netChar_toLower (chars d there)

end Characters

section Parsing

variable {crates : Crates} {value text kind : List Char} {net : IpNet}

theorem parseNet_trim (crates : Crates) (value : List Char) :
    parseNet crates (trim value) = parseNet crates value := by
  have twice : trim (trim value) = trim value := Text.strip_strip value
  rw [parseNet, parseNet, twice]

/-- A network has the characters of one, and a colon only as IPv6 has it. -/
theorem parseNet_text (parsed : parseNet crates value = some net) :
    (∀ c ∈ trim value, NetChar c) ∧ trim value ≠ [] ∧
      (':' ∈ trim value → ColonText (trim value)) := by
  unfold parseNet at parsed
  cases cidr : crates.ipNet (trim value) with
  | some found =>
      have known := crates.ipNet_text _ _ cidr
      refine ⟨known.chars, List.ne_nil_of_mem known.slash, fun colon => ?_⟩
      cases addr : found.addr with
      | v4 ip => exact absurd colon (known.v4 ip addr)
      | v6 ip => exact known.v6 ip addr
  | none =>
      simp only [cidr] at parsed
      obtain ⟨ip, read, _⟩ := Option.map_eq_some_iff.mp parsed
      have literal := IpText.parseIpAddr_chars read
      refine ⟨fun c member => Or.inl (literal.ipChar c member), IpText.parseIpAddr_ne_nil read,
        fun colon => ?_⟩
      cases ip with
      | v4 addr => exact absurd (literal ':' colon) (by decide)
      | v6 addr => exact IpText.parseIpAddr_colonText read

/-- Kinds have letters that are no digits. -/
theorem ofKind_hex (digits : ∀ c ∈ kind, isDigitOf 16 c = true) (nonempty : kind ≠ [])
    (value : List Char) : Matcher.ofKind crates kind value = none := by
  have chars : ∀ c ∈ kind, NetChar c := fun c member => Or.inl (Or.inl (digits c member))
  have foreign {name : List Char} (one : ∃ c ∈ name, ¬NetChar c) : ¬kind = name :=
    ne_of_netChar chars one
  have other {name synonym : List Char} (one : ∃ c ∈ name, ¬NetChar c)
      (two : ∃ c ∈ synonym, ¬NetChar c) : ¬(kind = name ∨ kind = synonym) :=
    not_or.mpr ⟨foreign one, foreign two⟩
  rw [Matcher.ofKind,
    if_neg (other ⟨'o', by decide, by decide⟩ ⟨'s', by decide, by decide⟩),
    if_neg (other ⟨'u', by decide, by decide⟩ ⟨'x', by decide, by decide⟩),
    if_neg (foreign ⟨'k', by decide, by decide⟩),
    if_neg (other ⟨'r', by decide, by decide⟩ ⟨'r', by decide, by decide⟩),
    if_neg (other ⟨'i', by decide, by decide⟩ ⟨'i', by decide, by decide⟩),
    if_neg (foreign ⟨'p', by decide, by decide⟩),
    if_neg (other ⟨'g', by decide, by decide⟩ ⟨'g', by decide, by decide⟩), if_neg nonempty]

/-- Without a kind, `value` is a network as such, or else a domain. -/
theorem ofKind_nil (chars : ∀ c ∈ text, NetChar c) :
    Matcher.ofKind crates [] text =
      match parseNet crates text with
      | some network => some (.net network)
      | none => (normalizeDomain crates text).map .domainSuffix := by
  have named : ¬eqIgnoreAsciiCase text "private".toList = true := by
    rw [not_private chars]
    exact Bool.false_ne_true
  rw [Matcher.ofKind, if_neg (by decide), if_neg (by decide), if_neg (by decide),
    if_neg (by decide), if_neg (by decide), if_neg (by decide), if_neg (by decide), if_pos rfl]
  exact if_neg named

theorem ofKind_ip (value : List Char) :
    Matcher.ofKind crates "ip".toList value = (parseNet crates value).map .net := by
  rw [Matcher.ofKind, if_neg (by decide), if_neg (by decide), if_neg (by decide),
    if_neg (by decide), if_pos (by decide)]

theorem parse_eq (nonempty : trim value ≠ []) (rule : (trim value).head? ≠ some '#') :
    Matcher.parse crates value =
      Matcher.ofKind crates (kindAndValue crates (trim value)).1
        (kindAndValue crates (trim value)).2 :=
  if_neg (not_or.mpr ⟨nonempty, rule⟩)

theorem parse_of_netChar (chars : ∀ c ∈ trim value, NetChar c) (nonempty : trim value ≠ []) :
    Matcher.parse crates value =
      Matcher.ofKind crates (kindAndValue crates (trim value)).1
        (kindAndValue crates (trim value)).2 :=
  parse_eq nonempty fun comment =>
    absurd (chars '#' (List.mem_of_mem_head? comment)) (by decide)

/-- An IPv4 address or network may stand bare. -/
theorem parse_bare (parsed : parseNet crates value = some net) (clear : ':' ∉ trim value) :
    Matcher.parse crates value = some (.net net) := by
  obtain ⟨chars, nonempty, _⟩ := parseNet_text parsed
  have whole : splitAround [':'] (trim value) = none := by
    rw [← Option.not_isSome_iff_eq_none, Text.splitAround_isSome_iff]
    exact fun part => clear (part.subset List.mem_cons_self)
  have kind : kindAndValue crates (trim value) = ([], trim value) := by
    rw [kindAndValue, whole]
  rw [parse_of_netChar chars nonempty, kind, ofKind_nil chars, parseNet_trim, parsed]

theorem parse_prefixed (parsed : parseNet crates value = some net) :
    Matcher.parse crates ("ip:".toList ++ value) = some (.net net) := by
  have trimmed : trim ("ip:".toList ++ value) =
      "ip".toList ++ ':' :: value.rdropWhile isWhitespace :=
    Text.strip_append_cons (p := isWhitespace) (x := ':') rfl "ip".toList value
  have kind : kindAndValue crates ("ip".toList ++ ':' :: value.rdropWhile isWhitespace) =
      ("ip".toList, trim value) := by
    have split : splitAround [':'] ("ip".toList ++ ':' :: value.rdropWhile isWhitespace) =
        some ("ip".toList, value.rdropWhile isWhitespace) :=
      Text.splitAround_first (by decide) _
    have lower : crates.lower "ip".toList = "ip".toList :=
      toLowercase_ascii (List.forall_mem_cons.mpr
        ⟨by decide, List.forall_mem_singleton.mpr (by decide)⟩)
    have bare : trim "ip".toList = "ip".toList := rfl
    have rest : trim (value.rdropWhile isWhitespace) = trim value := Text.strip_rdropWhile value
    rw [kindAndValue, split]
    simp only
    rw [if_pos (by decide), bare, lower, rest]
  rw [← trimmed] at kind
  have nonempty : trim ("ip:".toList ++ value) ≠ [] := by
    rw [trimmed]
    exact List.cons_ne_nil 'i' _
  have rule : (trim ("ip:".toList ++ value)).head? ≠ some '#' := by
    rw [trimmed]
    exact fun same => absurd (Option.some.inj same) (by decide)
  rw [parse_eq nonempty rule, kind, ofKind_ip, parseNet_trim, parsed]
  rfl

/-- Behind one colon there is no network. -/
theorem parseNet_colon {rest : List Char} (second : rest.head? ≠ some ':')
    (chars : ∀ c ∈ rest, NetChar c) : parseNet crates (':' :: rest) = none := by
  rw [Option.eq_none_iff_forall_not_mem]
  intro found parsed
  have solid : Solid (':' :: rest) :=
    solid_of_netChar (List.forall_mem_cons.mpr ⟨by decide, chars⟩)
  obtain ⟨_, _, shape⟩ := parseNet_text parsed
  rw [Text.trim_of_solid solid] at shape
  obtain ⟨first, behind, whole, digits, short⟩ := shape List.mem_cons_self
  cases first with
  | nil =>
      obtain ⟨more, rfl, _⟩ := short rfl
      rw [List.nil_append, List.cons.injEq] at whole
      rw [whole.2] at second
      exact second rfl
  | cons c first =>
      rw [List.cons_append, List.cons.injEq] at whole
      have digit := digits c List.mem_cons_self
      rw [← whole.1] at digit
      exact absurd digit (by decide)

/-- Bare, an IPv6 text is no network: its first group stands where the kind does. -/
theorem parse_colonText (parsed : parseNet crates value = some net) (colon : ':' ∈ trim value)
    {rule : Matcher} (read : Matcher.parse crates value = some rule) :
    ∃ suffix, rule = .domainSuffix suffix := by
  obtain ⟨chars, nonempty, shape⟩ := parseNet_text parsed
  obtain ⟨first, rest, whole, digits, short⟩ := shape colon
  have digitChars : ∀ c ∈ first, NetChar c := fun c member => Or.inl (Or.inl (digits c member))
  have restChars : ∀ c ∈ rest, NetChar c := by
    intro c member
    apply chars c
    rw [whole]
    exact List.mem_append_right _ (List.mem_cons_of_mem _ member)
  have absent {c : Char} (other : isDigitOf 16 c = false) : c ∉ first := by
    intro member
    have digit := digits c member
    rw [other] at digit
    cases digit
  have split : splitAround [':'] (trim value) = some (first, rest) := by
    rw [whole]
    exact Text.splitAround_first (absent rfl) rest
  have unmarked : (!first.contains '.' && !first.contains '/') = true := by
    rw [Bool.and_eq_true, Bool.not_eq_true', Bool.not_eq_true', ← Bool.not_eq_true,
      ← Bool.not_eq_true, List.contains_iff_mem, List.contains_iff_mem]
    exact ⟨absent rfl, absent rfl⟩
  have kind : kindAndValue crates (trim value) = (first.map Char.toLower, rest) := by
    rw [kindAndValue, split]
    simp only
    rw [if_pos unmarked, Text.trim_of_solid (solid_of_netChar digitChars),
      Text.trim_of_solid (solid_of_netChar restChars)]
    exact congrArg (·, rest) (toLowercase_ascii fun c member =>
      IpText.ascii_of_ipChar (Or.inl (digits c member)))
  rw [parse_of_netChar chars nonempty, kind] at read
  cases first with
  | nil =>
      obtain ⟨more, rfl, third⟩ := short rfl
      have moreChars : ∀ c ∈ more, NetChar c := fun c member =>
        restChars c (List.mem_cons_of_mem _ member)
      simp only [List.map_nil] at read
      rw [ofKind_nil restChars, parseNet_colon third moreChars] at read
      obtain ⟨suffix, _, same⟩ := Option.map_eq_some_iff.mp read
      exact ⟨suffix, same.symm⟩
  | cons c first =>
      rw [ofKind_hex ?_ (by rw [List.map_cons]; exact List.cons_ne_nil _ _)] at read
      · cases read
      · intro c member
        obtain ⟨d, there, rfl⟩ := List.mem_map.mp member
        exact toLower_hex (digits d there)

end Parsing

/-- A bare address or network is the rule that it is behind `ip:`, for the destinations inside of
it, exactly when there is no colon in it. -/
theorem bare_network_iff (crates : Crates) (value : List Char) (net : IpNet)
    (parsed : parseNet crates value = some net) :
    (∀ host port,
        ruleMatches crates value host port =
          ruleMatches crates ("ip:".toList ++ value) host port ∧
        (ruleMatches crates value host port = true ↔ Inside net host)) ↔
      ':' ∉ value := by
  have prefixed (host : Host) (port : UInt16) :
      ruleMatches crates ("ip:".toList ++ value) host port = true ↔ Inside net host := by
    rw [ruleMatches, parse_prefixed parsed]
    cases host with
    | domain name =>
        refine iff_of_false Bool.false_ne_true ?_
        rintro ⟨ip, same, _⟩
        cases same
    | ip ip =>
        constructor
        · exact fun inside => ⟨ip, rfl, inside⟩
        · rintro ⟨_, ⟨⟩, inside⟩
          exact inside
  have trimmed : ':' ∈ trim value ↔ ':' ∈ value := Text.mem_strip rfl
  rw [← trimmed]
  constructor
  · intro agree colon
    have own : Inside net (.ip net.addr) := by
      refine ⟨_, rfl, ?_⟩
      unfold IpNet.contains
      cases net.addr <;> exact beq_self_eq_true _
    have bare := (agree (.ip net.addr) 0).2.mpr own
    obtain ⟨rule, read, holds⟩ := (Option.any_eq_true _ _).mp bare
    obtain ⟨suffix, rfl⟩ := parse_colonText parsed colon read
    cases holds
  · intro clear host port
    have same : ruleMatches crates value host port =
        ruleMatches crates ("ip:".toList ++ value) host port := by
      rw [ruleMatches, ruleMatches, parse_bare parsed clear, parse_prefixed parsed]
    refine ⟨same, ?_⟩
    rw [same]
    exact prefixed host port

theorem bare_network_ten :
    ruleMatches literalCrates "10.0.0.0/8".toList (.ip (.v4 ⟨10, 1, 2, 3⟩)) 22 = true :=
  (((bare_network_iff literalCrates "10.0.0.0/8".toList ⟨.v4 ⟨10, 0, 0, 0⟩, 8⟩ rfl).mpr
    (by decide) (.ip (.v4 ⟨10, 1, 2, 3⟩)) 22).2).mpr ⟨_, rfl, by decide⟩

/-- The first group of the address is taken for the kind of the rule, which is then dropped. -/
theorem bare_ipv6_dropped :
    ¬∀ (crates : Crates) (value : List Char) (net : IpNet), parseNet crates value = some net →
      ∀ host port,
        ruleMatches crates value host port =
          ruleMatches crates ("ip:".toList ++ value) host port ∧
        (ruleMatches crates value host port = true ↔ Inside net host) := by
  intro claim
  have agree := (claim literalCrates "2606:4700::/32".toList _ rfl
    (.ip (.v6 (IpText.ofGroups [0x2606, 0x4700, 0, 0, 0, 0, 0, 0x1111]))) 443).1
  revert agree
  decide +kernel

end MolidoVpn.Routing
