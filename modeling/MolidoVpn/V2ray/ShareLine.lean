import MolidoVpn.V2ray.Nodes

/-!
The share line of a node, and the nodes of a body: a node that is stored as its share line is
read back with the identity that it had.
-/

namespace MolidoVpn.V2ray

open Kotlin (trim isWhitespace substringBefore substringBeforeOr substringAfter substringAfterOr
  lineSequence)

def hexUpper (value : Nat) : Char := "0123456789ABCDEF".toList.getD value '0'

/-- How a byte below 256 is written. -/
def encodeByte (byte : Nat) : List Char :=
  let c := Char.ofNat byte
  if c.isAlphanum || c = '.' || c = '-' || c = '*' || c = '_' then [c]
  else if c = ' ' then ['+']
  else ['%', hexUpper (byte / 16), hexUpper (byte % 16)]

/-- `URLEncoder.encode(text, "UTF-8")` -/
def urlEncode (text : List Char) : List Char :=
  (Utf8.encode text).flatMap fun byte => encodeByte byte.toNat

/-- The identity and the name, if there is one. -/
def shareLine (node : V2rayNode) : List Char :=
  if node.name = [] ∨ node.protocol = "vmess".toList then node.uri
  else
    node.uri ++ '#' ::
      (urlEncode node.name).flatMap fun c => if c = '+' then "%20".toList else [c]

section Bodies

variable (platform : Platform)

/-- What is neither blank nor a comment. -/
def linesOf (text : List Char) : List (List Char) :=
  ((lineSequence text).map trim).filter fun line => line ≠ [] && line.head? ≠ some '#'

/-- Plain or base64 body to share lines. -/
def decodeBody (body : List Char) : List (List Char) :=
  let trimmed := trim body
  if trimmed = [] then []
  else if (Text.splitAround "://".toList trimmed).isSome then linesOf trimmed
  else ((base64Text platform trimmed).map linesOf).getD []

/-- Nodes by their identity, in order. -/
def addNode (out : List V2rayNode) (line : List Char) : List V2rayNode :=
  match parseOne platform line with
  | none => out
  | some node => if node.uri ∈ out.map V2rayNode.uri then out else out ++ [node]

def parse (lines : List (List Char)) : List V2rayNode := lines.foldl (addNode platform) []

variable {platform} {out : List V2rayNode}

theorem addNode_nodup (nodup : (out.map V2rayNode.uri).Nodup) (line : List Char) :
    ((addNode platform out line).map V2rayNode.uri).Nodup := by
  unfold addNode
  split
  · exact nodup
  · split
    · exact nodup
    · rename_i fresh
      rw [List.map_append]
      exact List.nodup_append.mpr ⟨nodup, List.nodup_singleton _, by
        intro uri member other last same
        rw [same, List.mem_singleton.mp last] at member
        exact fresh member⟩

theorem addNode_read (read : ∀ node ∈ out, ∃ raw, parseOne platform raw = some node)
    (line : List Char) :
    ∀ node ∈ addNode platform out line, ∃ raw, parseOne platform raw = some node := by
  unfold addNode
  split
  · exact read
  · rename_i node parsed
    split
    · exact read
    · intro other member
      rcases List.mem_append.mp member with old | new
      · exact read other old
      · rw [List.mem_singleton.mp new]
        exact ⟨line, parsed⟩

/-- The nodes of a body have been read, and no two have the same identity. -/
theorem parse_spec (lines : List (List Char)) :
    ((parse platform lines).map V2rayNode.uri).Nodup ∧
      ∀ node ∈ parse platform lines, ∃ raw, parseOne platform raw = some node := by
  have step : ∀ (lines : List (List Char)) (out : List V2rayNode), (out.map V2rayNode.uri).Nodup →
      (∀ node ∈ out, ∃ raw, parseOne platform raw = some node) →
      ((lines.foldl (addNode platform) out).map V2rayNode.uri).Nodup ∧
        ∀ node ∈ lines.foldl (addNode platform) out,
          ∃ raw, parseOne platform raw = some node := by
    intro lines
    induction lines with
    | nil => exact fun _ nodup read => ⟨nodup, read⟩
    | cons line rest ih =>
        intro out nodup read
        exact ih _ (addNode_nodup nodup line) (addNode_read read line)
  exact step lines [] List.nodup_nil fun _ member => absurd member List.not_mem_nil

end Bodies

section Identity

variable {platform : Platform} {line : List Char} {node : V2rayNode}

theorem parseVlessOrTrojan_congr {other : List Char} (scheme : String)
    (same : trim (substringBefore ['#'] other) = trim (substringBefore ['#'] line)) :
    parseVlessOrTrojan platform other scheme = parseVlessOrTrojan platform line scheme := by
  unfold parseVlessOrTrojan
  rw [same]

theorem parseVlessOrTrojan_uri {scheme : String}
    (read : parseVlessOrTrojan platform line scheme = some node) :
    node.uri = trim (substringBefore ['#'] line) ∧ node.protocol = scheme.toList := by
  unfold parseVlessOrTrojan at read
  simp only [Option.ite_none_left_eq_some, Option.ite_none_right_eq_some,
    Option.bind_eq_some_iff] at read
  obtain ⟨_, place, _, _, _, _, _, _, _, _, same⟩ := read
  rw [← Option.some.inj same]
  exact ⟨rfl, rfl⟩

theorem parseShadowsocks_uri (read : parseShadowsocks platform line = some node) :
    node.uri = trim (substringBefore ['#'] line) ∧ node.protocol = "shadowsocks".toList := by
  unfold parseShadowsocks at read
  simp only [Option.ite_none_left_eq_some, Option.bind_eq_some_iff] at read
  obtain ⟨_, parts, _, place, _, methodPass, _, _, same⟩ := read
  rw [← Option.some.inj same]
  exact ⟨rfl, rfl⟩

theorem parseTuic_uri (read : parseTuic platform line = some node) :
    node.uri = trim (substringBefore ['#'] line) ∧ node.protocol = "tuic".toList := by
  unfold parseTuic at read
  simp only [Option.ite_none_left_eq_some, Option.ite_none_right_eq_some,
    Option.bind_eq_some_iff] at read
  obtain ⟨_, place, _, _, same⟩ := read
  rw [← Option.some.inj same]
  exact ⟨rfl, rfl⟩

theorem parseAnyTls_uri (read : parseAnyTls platform line = some node) :
    node.uri = trim (substringBefore ['#'] line) ∧ node.protocol = "anytls".toList := by
  unfold parseAnyTls at read
  simp only [Option.ite_none_left_eq_some, Option.ite_none_right_eq_some,
    Option.bind_eq_some_iff] at read
  obtain ⟨_, place, _, _, same⟩ := read
  rw [← Option.some.inj same]
  exact ⟨rfl, rfl⟩

theorem parseHysteria2_uri (read : parseHysteria2 platform line = some node) :
    node.uri = "hysteria2://".toList ++
        substringAfter "://".toList (trim (substringBefore ['#'] line)) ∧
      node.protocol = "hysteria2".toList := by
  unfold parseHysteria2 at read
  simp only [Option.ite_none_left_eq_some, Option.ite_none_right_eq_some,
    Option.bind_eq_some_iff] at read
  obtain ⟨_, place, _, _, _, _, same⟩ := read
  rw [← Option.some.inj same]
  exact ⟨rfl, rfl⟩

theorem parseVmess_uri (read : parseVmess platform line = some node) :
    node.uri = "vmess://".toList ++
        trim (substringBefore ['#'] (substringAfter "://".toList line)) ∧
      node.protocol = "vmess".toList := by
  unfold parseVmess at read
  simp only [Option.ite_none_left_eq_some, Option.ite_none_right_eq_some,
    Option.bind_eq_some_iff] at read
  obtain ⟨json, _, port, _, _, _, _, _, _, _, _, same⟩ := read
  rw [← Option.some.inj same]
  exact ⟨rfl, rfl⟩

end Identity

section Again

variable {platform : Platform} {line scheme rest tail : List Char} {node : V2rayNode}

/-- A scheme as it stands at the front of a line. -/
structure Front (scheme : List Char) : Prop where
  solid : (scheme ++ [':', '/']).dropWhile isWhitespace = scheme ++ [':', '/']
  clear : '#' ∉ scheme
  split : ∀ rest, Text.splitAround "://".toList (scheme ++ ("://".toList ++ rest)) =
    some (scheme, rest)

theorem Front.of_clear (solid : (scheme ++ [':', '/']).dropWhile isWhitespace =
    scheme ++ [':', '/']) (clear : '#' ∉ scheme) (colon : ':' ∉ scheme) : Front scheme :=
  ⟨solid, clear, fun rest => Text.splitAround_first colon rest⟩

theorem front_vmess : Front "vmess".toList := .of_clear (by decide) (by decide) (by decide)

theorem front_hysteria2 : Front "hysteria2".toList :=
  .of_clear (by decide) (by decide) (by decide)

/-- The name behind an identity. -/
def Tail (tail : List Char) : Prop :=
  tail = [] ∨ ∃ name, tail = '#' :: name ∧ ∀ c ∈ name, isWhitespace c = false

theorem Tail.solid (named : Tail tail) : ∀ c ∈ tail, isWhitespace c = false := by
  intro c member
  rcases named with rfl | ⟨name, rfl, solid⟩
  · cases member
  · rcases List.mem_cons.mp member with rfl | inside
    · decide
    · exact solid c inside

theorem rdropWhile_append_solid (trimmed : rest.rdropWhile isWhitespace = rest)
    (solid : ∀ c ∈ tail, isWhitespace c = false) :
    (rest ++ tail).rdropWhile isWhitespace = rest ++ tail := by
  rw [List.rdropWhile_eq_self_iff] at trimmed ⊢
  intro nonempty
  by_cases end_ : tail = []
  · subst end_
    simp only [List.append_nil] at nonempty ⊢
    exact trimmed nonempty
  · rw [List.getLast_append_of_ne_nil nonempty end_, solid _ (List.getLast_mem end_)]
    exact Bool.false_ne_true

theorem substringBefore_append_clear {c : Char} {before : List Char} (clear : c ∉ before)
    (after : List Char) :
    substringBefore [c] (before ++ after) = before ++ substringBefore [c] after := by
  by_cases member : c ∈ after
  · obtain ⟨early, late, rfl, without⟩ := List.eq_append_cons_of_mem member
    rw [Kotlin.substringBefore_append without, ← List.append_assoc,
      Kotlin.substringBefore_append (by
        rw [List.mem_append, not_or]
        exact ⟨clear, without⟩)]
  · rw [Kotlin.substringBefore_of_notMem member, Kotlin.substringBefore_of_notMem (by
      rw [List.mem_append, not_or]
      exact ⟨clear, member⟩)]

theorem Front.trim_append (front : Front scheme) (rest : List Char) :
    trim (scheme ++ ("://".toList ++ rest)) =
      scheme ++ ("://".toList ++ rest.rdropWhile isWhitespace) := by
  have solid := Kotlin.trim_append_cons (by decide : isWhitespace '/' = false)
    (scheme ++ [':', '/']) rest
  rw [front.solid, List.append_assoc, List.append_assoc] at solid
  exact solid

/-- How an identity with a name behind it is read. -/
structure Reread (scheme rest tail : List Char) : Prop where
  trimmed : trim (scheme ++ ("://".toList ++ rest) ++ tail) =
    scheme ++ ("://".toList ++ rest) ++ tail
  front : substringBeforeOr "://".toList [] (scheme ++ ("://".toList ++ rest) ++ tail) = scheme
  identity : trim (substringBefore ['#'] (scheme ++ ("://".toList ++ rest) ++ tail)) =
    scheme ++ ("://".toList ++ rest)
  behind : substringAfter "://".toList (scheme ++ ("://".toList ++ rest)) = rest

theorem Front.reread (front : Front scheme) (trimmed : rest.rdropWhile isWhitespace = rest)
    (clear : '#' ∉ rest) (named : Tail tail) : Reread scheme rest tail := by
  have apart : '#' ∉ scheme ++ ("://".toList ++ rest) := by
    rw [List.mem_append, List.mem_append, not_or, not_or]
    exact ⟨front.clear, by decide, clear⟩
  constructor
  · rw [List.append_assoc, List.append_assoc, front.trim_append,
      rdropWhile_append_solid trimmed named.solid]
  · rw [List.append_assoc, List.append_assoc, substringBeforeOr, front.split]
    rfl
  · have cut : substringBefore ['#'] (scheme ++ ("://".toList ++ rest) ++ tail) =
        scheme ++ ("://".toList ++ rest) := by
      rcases named with rfl | ⟨name, rfl, _⟩
      · rw [List.append_nil, Kotlin.substringBefore_of_notMem apart]
      · exact Kotlin.substringBefore_append apart name
    rw [cut, front.trim_append, trimmed]
  · rw [substringAfter, substringAfterOr, front.split]
    rfl

end Again

section Shared

variable {platform : Platform} {line : List Char} {node : V2rayNode}

theorem encodeByte_solid {byte : Nat} (small : byte < 256) {c : Char}
    (member : c ∈ encodeByte byte) : isWhitespace c = false := by
  have all : ((List.range 256).all fun byte => (encodeByte byte).all fun c => !isWhitespace c) =
      true := by decide +kernel
  have solid := List.all_eq_true.mp (List.all_eq_true.mp all byte (List.mem_range.mpr small)) c member
  rwa [Bool.not_eq_true'] at solid

theorem urlEncode_solid {name : List Char} {c : Char} (member : c ∈ urlEncode name) :
    isWhitespace c = false := by
  obtain ⟨byte, _, inside⟩ := List.mem_flatMap.mp member
  exact encodeByte_solid byte.toNat_lt inside

theorem tail_name (name : List Char) :
    Tail ('#' :: (urlEncode name).flatMap fun c => if c = '+' then "%20".toList else [c]) := by
  refine .inr ⟨_, rfl, ?_⟩
  intro c member
  obtain ⟨encoded, inside, from_⟩ := List.mem_flatMap.mp member
  split at from_
  · have escape : "%20".toList.all (fun c => !isWhitespace c) = true := by decide
    have solid := List.all_eq_true.mp escape c from_
    rwa [Bool.not_eq_true'] at solid
  · rw [List.mem_singleton.mp from_]
    exact urlEncode_solid inside

/-- The share line is the identity, with a tail that may be empty. -/
theorem shareLine_eq (node : V2rayNode) : ∃ tail, shareLine node = node.uri ++ tail ∧ Tail tail ∧
    (node.protocol = "vmess".toList → tail = []) := by
  unfold shareLine
  split
  · exact ⟨[], (List.append_nil _).symm, .inl rfl, fun _ => rfl⟩
  · rename_i named
    rw [not_or] at named
    exact ⟨_, rfl, tail_name node.name, fun vmess => absurd vmess named.2⟩

/-- A case of letters leaves the number sign alone. -/
def KeepsHash (platform : Platform) : Prop :=
  ∀ text, '#' ∈ text → '#' ∈ platform.unicode.lowercase text

theorem lower_plain (platform : Platform) {text : List Char}
    (narrow : (text.all fun c => decide (c.toNat < 128) && c.toLower == c) = true) :
    lower platform text = text := by
  have each := List.all_eq_true.mp narrow
  rw [lower, platform.unicode.lowercase_ascii text fun c member =>
    of_decide_eq_true (Bool.and_eq_true_iff.mp (each c member)).1]
  refine (List.map_congr_left fun c member => ?_).trans (List.map_id text)
  exact eq_of_beq (Bool.and_eq_true_iff.mp (each c member)).2

theorem lowercase_nil (platform : Platform) : lower platform [] = [] :=
  platform.unicode.lowercase_ascii [] fun _ member => absurd member List.not_mem_nil

/-- The front of a line that has been read. -/
theorem front_of_line (keeps : KeepsHash platform) {scheme : List Char}
    (trimmed : trim line = line) (nonempty : scheme ≠ []) (clear : '#' ∉ scheme)
    (known : lower platform (substringBeforeOr "://".toList [] line) = scheme) :
    ∃ front rest, Front front ∧ line = front ++ ("://".toList ++ rest) ∧
      lower platform front = scheme := by
  rw [substringBeforeOr] at known
  cases split : Text.splitAround "://".toList line with
  | none =>
      rw [split] at known
      exact absurd (known.symm.trans (lowercase_nil platform)) nonempty
  | some parts =>
      obtain ⟨front, rest⟩ := parts
      rw [split] at known
      have whole := Text.splitAround_eq_append split
      refine ⟨front, rest, ⟨?_, ?_, Text.splitAround_replace split⟩, whole, known⟩
      · have ends := Kotlin.trim_append_cons (by decide : isWhitespace '/' = false)
          (front ++ [':', '/']) rest
        have same : trim (front ++ [':', '/'] ++ '/' :: rest) =
            front ++ [':', '/'] ++ '/' :: rest := by
          have line_ : line = front ++ [':', '/'] ++ '/' :: rest := by
            rw [whole, List.append_assoc]
            rfl
          rw [← line_]
          exact trimmed
        rw [same] at ends
        have shorter := (List.dropWhile_suffix (l := front ++ [':', '/']) isWhitespace).length_le
        have shorterRest := (List.rdropWhile_prefix isWhitespace (l := rest)).length_le
        have lengths := congrArg List.length ends
        simp only [List.length_append, List.length_cons] at lengths shorter
        apply (List.dropWhile_suffix isWhitespace).eq_of_length
        simp only [List.length_append, List.length_cons] at lengths shorter ⊢
        omega
      · intro member
        apply clear
        rw [← known]
        exact keeps front member

end Shared

section Roundtrip

variable {platform : Platform} {line front rest tail : List Char} {node : V2rayNode}

/-- Of a line that begins so, everything before its name is the identity. -/
theorem identity_of_line (fronted : Front front) :
    trim (substringBefore ['#'] (front ++ ("://".toList ++ rest))) =
      front ++ ("://".toList ++ (substringBefore ['#'] rest).rdropWhile isWhitespace) := by
  rw [substringBefore_append_clear fronted.clear,
    substringBefore_append_clear (by decide : '#' ∉ "://".toList), fronted.trim_append]

theorem notMem_rdropWhile_substringBefore (rest : List Char) :
    '#' ∉ (substringBefore ['#'] rest).rdropWhile isWhitespace :=
  fun member => Kotlin.notMem_substringBefore '#' rest
    ((List.rdropWhile_prefix isWhitespace _).subset member)

/-- What is read from the share line, where the scheme reads the identity only. -/
theorem parseScheme_again {scheme : List Char}
    (again : ∀ other, trim (substringBefore ['#'] other) = front ++ ("://".toList ++ rest) →
      parseScheme platform scheme other = some node)
    (reread : Reread front rest tail) (known : lower platform front = scheme) :
    parseOne platform (front ++ ("://".toList ++ rest) ++ tail) = some
      { node with name := nameOf platform (front ++ ("://".toList ++ rest) ++ tail) node } := by
  unfold parseOne
  dsimp only
  rw [reread.trimmed, reread.front, known, again _ reread.identity]
  rfl

/-- All schemes but one read the identity only. -/
theorem parseScheme_congr {scheme other : List Char} (apart : scheme ≠ "vmess".toList)
    (same : trim (substringBefore ['#'] other) = trim (substringBefore ['#'] line)) :
    parseScheme platform scheme other = parseScheme platform scheme line := by
  unfold parseScheme
  rw [if_neg apart, if_neg apart, parseVlessOrTrojan_congr _ same, parseVlessOrTrojan_congr _ same]
  unfold parseShadowsocks parseHysteria2 parseTuic parseAnyTls
  rw [same]

/-- A share line is read back with the identity, which is not empty. -/
def ReadBack (platform : Platform) (node : V2rayNode) (tail : List Char) : Prop :=
  node.uri ≠ [] ∧
    ∃ again, parseOne platform (node.uri ++ tail) = some again ∧ again.uri = node.uri

/-- A share line is read back as the node, but for the name. -/
def ReadAgain (platform : Platform) (node : V2rayNode) (tail : List Char) : Prop :=
  node.uri ≠ [] ∧ parseOne platform (node.uri ++ tail) =
    some { node with name := nameOf platform (node.uri ++ tail) node }

theorem ReadAgain.readBack (again : ReadAgain platform node tail) :
    ReadBack platform node tail :=
  ⟨again.1, _, again.2, rfl⟩

/-- The schemes that take the identity as it stands. -/
theorem reread_identity (keeps : KeepsHash platform) {scheme : List Char}
    (nonempty : scheme ≠ []) (clear : '#' ∉ scheme) (apart : scheme ≠ "vmess".toList)
    (trimmed : trim line = line)
    (known : lower platform (substringBeforeOr "://".toList [] line) = scheme)
    (parsed : parseScheme platform scheme line = some node)
    (uri : node.uri = trim (substringBefore ['#'] line)) (named : Tail tail) :
    ReadAgain platform node tail := by
  obtain ⟨front, rest, fronted, rfl, lowered⟩ :=
    front_of_line keeps trimmed nonempty clear known
  have identity := @identity_of_line front rest fronted
  have reread := fronted.reread (List.rdropWhile_idempotent _ _)
    (notMem_rdropWhile_substringBefore rest) named
  have read := parseScheme_again (fun other same => by
    rw [parseScheme_congr apart (same.trans identity.symm), parsed]) reread lowered
  rw [identity] at uri
  rw [← uri] at read
  refine ⟨?_, read⟩
  rw [uri]
  exact List.append_ne_nil_of_right_ne_nil _ (List.cons_ne_nil _ _)

/-- The other name of the scheme is not kept. -/
theorem reread_hysteria2 {scheme : List Char}
    (either : scheme = "hysteria2".toList ∨ scheme = "hy2".toList) (keeps : KeepsHash platform)
    (trimmed : trim line = line)
    (known : lower platform (substringBeforeOr "://".toList [] line) = scheme)
    (parsed : parseHysteria2 platform line = some node) (named : Tail tail) :
    ReadAgain platform node tail := by
  have plain : scheme ≠ [] ∧ '#' ∉ scheme := by
    rcases either with rfl | rfl <;> exact ⟨by decide, by decide⟩
  obtain ⟨front, rest, fronted, rfl, lowered⟩ :=
    front_of_line keeps trimmed plain.1 plain.2 known
  have uri := (parseHysteria2_uri parsed).1
  have reread := front_hysteria2.reread (List.rdropWhile_idempotent _ _)
    (notMem_rdropWhile_substringBefore rest) named
  rw [identity_of_line fronted] at uri
  have behind := (fronted.reread (List.rdropWhile_idempotent _ _)
    (notMem_rdropWhile_substringBefore rest) named).behind
  rw [behind] at uri
  have lowered2 := lower_plain platform (by decide : ("hysteria2".toList.all fun c =>
    decide (c.toNat < 128) && c.toLower == c) = true)
  have read := parseScheme_again (fun other same => by
    have whole : parseHysteria2 platform other = some node := by
      rw [← parsed]
      unfold parseHysteria2
      rw [same, identity_of_line fronted, behind, reread.behind]
    exact whole) reread lowered2
  have spelled : "hysteria2://".toList = "hysteria2".toList ++ "://".toList := by decide
  rw [spelled, List.append_assoc] at uri
  rw [← uri] at read
  refine ⟨?_, read⟩
  rw [uri]
  exact List.cons_ne_nil _ _

theorem reread_vmess (parsed : parseVmess platform line = some node) :
    ReadAgain platform node [] := by
  obtain ⟨uri, _⟩ := parseVmess_uri parsed
  have clear : '#' ∉ trim (substringBefore ['#'] (substringAfter "://".toList line)) :=
    fun member => Kotlin.notMem_substringBefore '#' _ (Kotlin.trim_subset _ member)
  have trimmed : (trim (substringBefore ['#'] (substringAfter "://".toList line))).rdropWhile
      isWhitespace = trim (substringBefore ['#'] (substringAfter "://".toList line)) :=
    Text.rdropWhile_strip _
  have reread := front_vmess.reread trimmed clear (.inl rfl)
  have lowered := lower_plain platform (by decide : ("vmess".toList.all fun c =>
    decide (c.toNat < 128) && c.toLower == c) = true)
  have same : parseVmess platform ("vmess".toList ++ ("://".toList ++
      trim (substringBefore ['#'] (substringAfter "://".toList line)))) = some node := by
    rw [← parsed]
    unfold parseVmess
    rw [reread.behind, Kotlin.substringBefore_of_notMem clear, Kotlin.trim_trim]
  have whole := reread.trimmed
  have front := reread.front
  rw [List.append_nil] at whole front
  have spelled : "vmess://".toList = "vmess".toList ++ "://".toList := by decide
  rw [spelled, List.append_assoc] at uri
  have read : parseOne platform ("vmess".toList ++ ("://".toList ++
      trim (substringBefore ['#'] (substringAfter "://".toList line)))) =
      some { node with name := nameOf platform ("vmess".toList ++ ("://".toList ++
        trim (substringBefore ['#'] (substringAfter "://".toList line)))) node } := by
    unfold parseOne
    dsimp only
    rw [whole, front, lowered]
    change (parseVmess platform _).map _ = _
    rw [same]
    rfl
  rw [← uri] at read
  rw [ReadAgain, List.append_nil]
  refine ⟨?_, read⟩
  rw [uri]
  exact List.cons_ne_nil _ _

theorem readAgain_of_parseOne (keeps : KeepsHash platform) {raw : List Char}
    (read : parseOne platform raw = some node) (named : Tail tail)
    (vmess : node.protocol = "vmess".toList → tail = []) : ReadAgain platform node tail := by
  obtain ⟨plain, parsed, rfl⟩ := Option.map_eq_some_iff.mp read
  dsimp only at vmess
  change ReadAgain platform plain tail
  have trimmed := Kotlin.trim_trim raw
  generalize trim raw = line at parsed trimmed
  generalize known : lower platform (substringBeforeOr "://".toList [] line) = scheme at parsed
  have whole := parsed
  unfold parseScheme at parsed
  split at parsed
  · rename_i vless
    exact reread_identity keeps (by rw [vless]; decide) (by rw [vless]; decide)
      (by rw [vless]; decide) trimmed known whole (parseVlessOrTrojan_uri parsed).1 named
  split at parsed
  · rename_i trojan
    exact reread_identity keeps (by rw [trojan]; decide) (by rw [trojan]; decide)
      (by rw [trojan]; decide) trimmed known whole (parseVlessOrTrojan_uri parsed).1 named
  split at parsed
  · rw [vmess (parseVmess_uri parsed).2]
    exact reread_vmess parsed
  split at parsed
  · rename_i ss
    exact reread_identity keeps (by rw [ss]; decide) (by rw [ss]; decide)
      (by rw [ss]; decide) trimmed known whole (parseShadowsocks_uri parsed).1 named
  split at parsed
  · rename_i hysteria2
    exact reread_hysteria2 hysteria2 keeps trimmed known parsed named
  split at parsed
  · rename_i tuic
    exact reread_identity keeps (by rw [tuic]; decide) (by rw [tuic]; decide)
      (by rw [tuic]; decide) trimmed known whole (parseTuic_uri parsed).1 named
  split at parsed
  · rename_i anytls
    exact reread_identity keeps (by rw [anytls]; decide) (by rw [anytls]; decide)
      (by rw [anytls]; decide) trimmed known whole (parseAnyTls_uri parsed).1 named
  · cases parsed

theorem parseOne_shareLine (keeps : KeepsHash platform) {raw : List Char}
    (read : parseOne platform raw = some node) :
    node.uri ≠ [] ∧
      ∃ again, parseOne platform (shareLine node) = some again ∧ again.uri = node.uri := by
  obtain ⟨tail, shared, named, vmess⟩ := shareLine_eq node
  rw [shared]
  exact (readAgain_of_parseOne keeps read named vmess).readBack

/-- A share line is read back as the node, with the name that the line has. -/
theorem parseOne_again (keeps : KeepsHash platform) {raw : List Char}
    (read : parseOne platform raw = some node) :
    parseOne platform (shareLine node) =
      some { node with name := nameOf platform (shareLine node) node } := by
  obtain ⟨tail, shared, named, vmess⟩ := shareLine_eq node
  rw [shared]
  exact (readAgain_of_parseOne keeps read named vmess).2

end Roundtrip

end MolidoVpn.V2ray
