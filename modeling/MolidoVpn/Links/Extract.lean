import MolidoVpn.Lib.JavaScript
import MolidoVpn.Lib.Python
import MolidoVpn.Links.Platform

/-!
`extract_configs` of `parsers.py`: the share links of a source, whether it lists them as they are,
is base64 as a whole, or has lines of base64.
-/

namespace MolidoVpn.Links.Extract

open Base64 (encode spellings urlLetter)
open JavaScript (strictUtf8)
open Python (a2bBase64 isLineBreak isSpace joinSplit splitlines strip)

section Source

def supportedPrefixes : List (List Char) :=
  ["vless://", "vmess://", "trojan://", "ss://", "hysteria2://", "hy2://", "tuic://", "anytls://",
    "wireguard://", "wg://", "socks://", "socks5://"].map String.toList

/-- Nothing where it raises. -/
def b64decode (text : List Char) : Option (List Char) :=
  let text := (strip text).map standardLetter
  (a2bBase64 (text ++ List.replicate ((4 - text.length % 4) % 4) '=')).bind strictUtf8

def isSupported (line : List Char) : Bool := supportedPrefixes.any fun p => p.isPrefixOf line

def contains (part text : List Char) : Bool := (Text.splitAround part text).isSome

/-- The loop over the lines of a candidate. -/
def fromLine (raw : List Char) : List (List Char) :=
  let line := strip raw
  if isSupported line then [line]
  else if line ≠ [] ∧ 16 < line.length ∧ contains "://".toList line = false then
    match b64decode line with
    | none => []
    | some decoded => ((splitlines decoded).map strip).filter isSupported
  else []

/-- The text whose lines are looked at. -/
def candidate (blob : List Char) : List Char :=
  if supportedPrefixes.any fun p => contains p blob then blob
  else (b64decode (joinSplit blob)).getD blob

def extractConfigs (blob : List Char) : List (List Char) :=
  (splitlines (candidate blob)).flatMap fromLine

end Source

section Links

/-- A share link of a supported kind on a line of its own, without blanks around it. -/
structure IsLink (link : List Char) : Prop where
  supported : isSupported link = true
  oneLine : ∀ c ∈ link, isLineBreak c = false
  bare : strip link = link
  long : 12 < link.length

variable {link text blob : List Char} {links : List (List Char)}

theorem prefix_colon {p : List Char} (listed : p ∈ supportedPrefixes) : ':' ∈ p ∧ "://".toList <:+: p := by
  have all : supportedPrefixes.all (fun p => p.contains ':' && contains "://".toList p) = true := by
    decide
  have both := List.all_eq_true.mp all p listed
  rw [Bool.and_eq_true, List.contains_iff_mem, contains, Text.splitAround_isSome_iff] at both
  exact both

theorem IsLink.exists_front (is : IsLink link) : ∃ p ∈ supportedPrefixes, p <+: link := by
  obtain ⟨p, listed, front⟩ := List.any_eq_true.mp is.supported
  exact ⟨p, listed, List.isPrefixOf_iff_prefix.mp front⟩

theorem IsLink.ne_nil (is : IsLink link) : link ≠ [] := by
  rintro rfl
  exact absurd is.long (by decide)

theorem IsLink.fromLine (is : IsLink link) : fromLine link = [link] := by
  unfold Extract.fromLine
  dsimp only
  rw [is.bare, if_pos is.supported]

/-- Links on lines of their own. -/
theorem flatMap_fromLine (are : ∀ link ∈ links, IsLink link) : links.flatMap fromLine = links := by
  induction links with
  | nil => rfl
  | cons link rest ih =>
      rw [List.flatMap_cons, (are link List.mem_cons_self).fromLine,
        ih fun other there => are other (List.mem_cons_of_mem _ there)]
      rfl

/-- A text without a colon holds no prefix. -/
theorem candidate_of_no_colon (clear : ':' ∉ blob) :
    candidate blob = (b64decode (joinSplit blob)).getD blob := by
  unfold candidate
  rw [if_neg]
  intro found
  obtain ⟨p, listed, inside⟩ := List.any_eq_true.mp found
  rw [contains, Text.splitAround_isSome_iff] at inside
  exact clear (inside.subset (prefix_colon listed).1)

end Links

section Encoded

variable {bytes : List UInt8} {spelled blob text : List Char} {link : List Char}
  {links : List (List Char)}

private theorem solid_of_spelling {c : Char} (spelling : spelled ∈ spellings bytes)
    (member : c ∈ spelled) : isSpace c = false ∧ c ≠ ':' := by
  have solid {c : Char} (low : 0x21 ≤ c.toNat) (high : c.toNat < 0x7F) : isSpace c = false := by
    simp only [isSpace, Text.isWhitespace, Bool.or_eq_false_iff, Bool.and_eq_false_iff,
      decide_eq_false_iff_not, beq_eq_false_iff_ne]
    omega
  rcases Base64.isLetter_of_spelling spelling member with rfl | rfl | letter
  · decide
  · decide
  · have visible := JavaScript.isVisible_of_isLetter letter
    simp only [JavaScript.isVisible, Bool.and_eq_true, decide_eq_true_eq] at visible
    constructor
    · exact solid (by omega) (by omega)
    · rintro rfl
      exact absurd letter (by decide)

private theorem map_standardLetter {letters : List Char}
    (are : ∀ c ∈ letters, Base64.isLetter c = true) :
    letters.map standardLetter = letters ∧ (letters.map urlLetter).map standardLetter = letters := by
  have back {f : Char → Char} (same : ∀ c, Base64.isLetter c = true → f c = c) :
      letters.map f = letters := by
    conv_rhs => rw [← List.map_id letters]
    exact List.map_congr_left fun c member => same c (are c member)
  have other {c : Char} (letter : Base64.isLetter c = true) : c ≠ '-' ∧ c ≠ '_' := by
    constructor
    · rintro rfl
      exact absurd letter (by decide)
    · rintro rfl
      exact absurd letter (by decide)
  constructor
  · apply back
    intro c letter
    rw [standardLetter, if_neg (other letter).1, if_neg (other letter).2]
  · rw [List.map_map]
    apply back
    intro c letter
    rw [Function.comp_apply, urlLetter]
    split
    · rename_i plus
      rw [plus]
      rfl
    · split
      · rename_i slash
        rw [slash]
        rfl
      · rw [standardLetter, if_neg (other letter).1, if_neg (other letter).2]

/-- The letters are those of the standard alphabet and the padding fills the last four. -/
private theorem refilled (spelling : spelled ∈ spellings bytes) :
    spelled.map standardLetter ++ List.replicate ((4 - spelled.length % 4) % 4) '=' =
      encode bytes := by
  obtain ⟨values, pad, written, small, read, few, whole⟩ := Base64.encode_eq bytes
  have letters : ∀ c ∈ encode bytes, Base64.isLetter c = true :=
    fun c member => Base64.isLetter_of_mem_encode member
  have kept : ∀ c ∈ values.map Base64.letter, (c != '=') = true := by
    intro c member
    obtain ⟨value, inside, rfl⟩ := List.mem_map.mp member
    exact bne_iff_ne.mpr (Base64.letter_ne value (small value inside))
  have bare : (encode bytes).filter (· != '=') = values.map Base64.letter := by
    rw [written, List.filter_append, List.filter_eq_self.mpr kept,
      List.filter_replicate_of_neg (by decide), List.append_nil]
  have unpadded : ∀ c ∈ values.map Base64.letter, Base64.isLetter c = true :=
    fun c member => letters c (written ▸ List.mem_append_left _ member)
  have length : (encode bytes).length = values.length + pad := by
    rw [written, List.length_append, List.length_map, List.length_replicate]
  have none_ : (4 - (values.length + pad) % 4) % 4 = 0 := by omega
  have missing : (4 - values.length % 4) % 4 = pad := by omega
  simp only [spellings, List.mem_cons, List.not_mem_nil, or_false] at spelling
  rcases spelling with rfl | rfl | rfl | rfl
  · rw [(map_standardLetter letters).1, length, none_]
    exact List.append_nil _
  · rw [bare, (map_standardLetter unpadded).1, List.length_map, missing, written]
  · rw [(map_standardLetter letters).2, List.length_map, length, none_]
    exact List.append_nil _
  · rw [bare, (map_standardLetter unpadded).2, List.length_map, List.length_map, missing, written]

theorem b64decode_spelling (spelling : spelled ∈ spellings bytes) :
    b64decode spelled = strictUtf8 bytes := by
  have bare : strip spelled = spelled :=
    Text.strip_of_solid fun c member => (solid_of_spelling spelling member).1
  rw [b64decode, bare, List.length_map, refilled spelling, Python.a2bBase64_encode]
  rfl

theorem joinSplit_eq_self (solid : ∀ c ∈ text, isSpace c = false) : joinSplit text = text := by
  rw [joinSplit, List.filter_eq_self]
  intro c member
  rw [solid c member]
  rfl

/-- The text behind the base64 of a whole source. -/
theorem candidate_of_base64 (spelled : joinSplit blob ∈ spellings (Utf8.encode text)) :
    candidate blob = text := by
  have clear : ':' ∉ blob := by
    intro there
    have kept : ':' ∈ joinSplit blob := List.mem_filter.mpr ⟨there, rfl⟩
    exact (solid_of_spelling spelled kept).2 rfl
  rw [candidate_of_no_colon clear, b64decode_spelling spelled, JavaScript.strictUtf8_encode]
  rfl

end Encoded

section Formats

variable {link blob text : List Char} {links : List (List Char)}

theorem candidate_of_prefix {p : List Char} (listed : p ∈ supportedPrefixes) (inside : p <:+: text) :
    candidate text = text := by
  rw [candidate, if_pos]
  rw [List.any_eq_true]
  use p, listed
  rw [contains, Text.splitAround_isSome_iff]
  exact inside

/-- A link on each line. -/
theorem extractConfigs_plain (are : ∀ link ∈ links, IsLink link) (some_ : links ≠ [])
    (lines : splitlines text = links) : extractConfigs text = links := by
  obtain ⟨link, member⟩ := List.exists_mem_of_ne_nil links some_
  obtain ⟨p, listed, front⟩ := (are link member).exists_front
  have inside : p <:+: text :=
    front.isInfix.trans (Python.infix_of_mem_splitlines (lines ▸ member))
  rw [extractConfigs, candidate_of_prefix listed inside, lines, flatMap_fromLine are]

/-- The base64 of such a text. -/
theorem extractConfigs_base64 (are : ∀ link ∈ links, IsLink link) (lines : splitlines text = links)
    (spelled : joinSplit blob ∈ spellings (Utf8.encode text)) : extractConfigs blob = links := by
  rw [extractConfigs, candidate_of_base64 spelled, lines, flatMap_fromLine are]

/-- The base64 of bytes with its padding, in either alphabet. -/
def padded (bytes : List UInt8) : List (List Char) := [encode bytes, (encode bytes).map urlLetter]

/-- Each line is the base64 of a link. -/
def EncodedLines (links lines : List (List Char)) : Prop :=
  List.Forall₂ (fun link line => line ∈ padded (Utf8.encode link)) links lines

theorem spelling_of_padded {bytes : List UInt8} {line : List Char} (written : line ∈ padded bytes) :
    line ∈ spellings bytes := by
  simp only [padded, List.mem_cons, List.not_mem_nil, or_false] at written
  rcases written with rfl | rfl
  · exact List.mem_cons_self
  · exact List.mem_cons_of_mem _ (List.mem_cons_of_mem _ List.mem_cons_self)

private theorem length_encode (bytes : List UInt8) : (encode bytes).length % 4 = 0 := by
  obtain ⟨values, pad, written, -, -, -, whole⟩ := Base64.encode_eq bytes
  rw [written, List.length_append, List.length_map, List.length_replicate]
  exact whole

theorem EncodedLines.flatten {lines : List (List Char)} (written : EncodedLines links lines) :
    (∀ c ∈ lines.flatten, isSpace c = false ∧ c ≠ ':') ∧
    lines.flatten.map standardLetter = (links.map Utf8.encode).flatMap encode ∧
    lines.flatten.length % 4 = 0 := by
  induction written with
  | nil => exact ⟨fun c member => absurd member List.not_mem_nil, rfl, rfl⟩
  | @cons link line links lines here rest ih =>
      obtain ⟨solid, standard, whole⟩ := ih
      have letters : ∀ c ∈ encode (Utf8.encode link), Base64.isLetter c = true :=
        fun c member => Base64.isLetter_of_mem_encode member
      have four := length_encode (Utf8.encode link)
      have first : line.map standardLetter = encode (Utf8.encode link) ∧ line.length % 4 = 0 := by
        simp only [padded, List.mem_cons, List.not_mem_nil, or_false] at here
        rcases here with rfl | rfl
        · exact ⟨(map_standardLetter letters).1, four⟩
        · rw [List.length_map]
          exact ⟨(map_standardLetter letters).2, four⟩
      constructor
      · intro c member
        rw [List.flatten_cons, List.mem_append] at member
        rcases member with inside | later
        · exact solid_of_spelling (spelling_of_padded here) inside
        · exact solid c later
      · rw [List.flatten_cons, List.map_append, first.1, standard, List.map_cons,
          List.flatMap_cons, List.length_append]
        exact ⟨rfl, by omega⟩

/-- The lines are taken for one encoding and the links come out behind one another, without an end
of line between them. -/
theorem candidate_of_encodedLines (written : EncodedLines (link :: links) (splitlines blob)) :
    ∃ count, candidate blob = link ++ (links.take count).flatten := by
  obtain ⟨solid, standard, whole⟩ := written.flatten
  have joined : joinSplit blob = (splitlines blob).flatten := by
    rw [← Python.joinSplit_splitlines]
    exact joinSplit_eq_self fun c member => (solid c member).1
  have clear : ':' ∉ blob := by
    intro there
    have kept : ':' ∈ joinSplit blob := List.mem_filter.mpr ⟨there, rfl⟩
    exact (solid ':' (joined ▸ kept)).2 rfl
  have bare : strip (splitlines blob).flatten = (splitlines blob).flatten :=
    Text.strip_of_solid fun c member => (solid c member).1
  have none_ : (4 - (splitlines blob).flatten.length % 4) % 4 = 0 := by omega
  have encoded (texts : List (List Char)) :
      (texts.map Utf8.encode).flatten = Utf8.encode texts.flatten := by
    induction texts with
    | nil => rfl
    | cons text rest ih =>
        rw [List.map_cons, List.flatten_cons, List.flatten_cons, ih, Utf8.encode_append]
  obtain ⟨count, read⟩ :=
    Python.a2bBase64_flatMap (Utf8.encode link) (links.map Utf8.encode)
  use count
  rw [candidate_of_no_colon clear, joined, b64decode, bare, List.length_map, none_, standard,
    List.replicate_zero, List.append_nil, List.map_cons, read, ← List.map_take, encoded,
    ← Utf8.encode_append, Option.bind_some, JavaScript.strictUtf8_encode]
  rfl

/-- Encoded lines give one line. -/
theorem extractConfigs_encodedLines (are : ∀ other ∈ link :: links, IsLink other)
    (written : EncodedLines (link :: links) (splitlines blob)) :
    ∃ count, extractConfigs blob = [link ++ (links.take count).flatten] := by
  obtain ⟨count, read⟩ := candidate_of_encodedLines written
  have first := are link List.mem_cons_self
  obtain ⟨p, listed, front⟩ := first.exists_front
  have parts : ∀ other ∈ link :: links.take count, IsLink other := by
    intro other member
    rcases List.mem_cons.mp member with rfl | later
    · exact first
    · exact are other (List.mem_cons_of_mem _ (List.mem_of_mem_take later))
  have one : ∀ c ∈ (link :: links.take count).flatten, isLineBreak c = false := by
    intro c member
    obtain ⟨other, there, inside⟩ := List.mem_flatten.mp member
    exact (parts other there).oneLine c inside
  have bare : strip (link :: links.take count).flatten = (link :: links.take count).flatten :=
    Text.strip_flatten fun other there => (parts other there).bare
  have known : isSupported (link :: links.take count).flatten = true :=
    List.any_eq_true.mpr ⟨p, listed, List.isPrefixOf_iff_prefix.mpr
      (front.trans (List.prefix_append _ _))⟩
  use count
  rw [extractConfigs, read, ← List.flatten_cons, Python.splitlines_single one]
  · change fromLine (link :: links.take count).flatten ++ [] = _
    unfold fromLine
    dsimp only
    rw [bare, if_pos known]
    rfl
  · exact List.append_ne_nil_of_left_ne_nil first.ne_nil _

private theorem extractConfigs_encodedLines_iff (are : ∀ link ∈ links, IsLink link)
    (some_ : links ≠ []) (written : EncodedLines links (splitlines blob)) :
    extractConfigs blob = links ↔ links.length = 1 := by
  cases links with
  | nil => exact absurd rfl some_
  | cons link rest =>
      obtain ⟨count, found⟩ := extractConfigs_encodedLines are written
      constructor
      · intro same
        rw [← same, found]
        rfl
      · intro one
        have alone : rest = [] := List.length_eq_zero_iff.mp (Nat.succ.inj one)
        rw [found, alone, List.take_nil, List.flatten_nil, List.append_nil]

/-- The links come out of their list and of its base64. Out of lines of base64 they come when there
is only one. -/
theorem extractConfigs_iff (links : List (List Char)) (are : ∀ link ∈ links, IsLink link)
    (some_ : links ≠ []) :
    (∀ text, splitlines text = links → extractConfigs text = links) ∧
    (∀ text blob, splitlines text = links → joinSplit blob ∈ spellings (Utf8.encode text) →
      extractConfigs blob = links) ∧
    ∀ blob, EncodedLines links (splitlines blob) →
      (extractConfigs blob = links ↔ links.length = 1) := by
  constructor
  · intro text lines
    exact extractConfigs_plain are some_ lines
  · constructor
    · intro text blob lines spelled
      exact extractConfigs_base64 are lines spelled
    · intro blob written
      exact extractConfigs_encodedLines_iff are some_ written

def ssLink : List Char := "ss://YTpiQGg6MQ".toList

def trojanLink : List Char := "trojan://p@h:443".toList

private theorem isLink_of_bool {link : List Char}
    (all : (isSupported link && link.all (fun c => !isLineBreak c) && (strip link == link) &&
      decide (12 < link.length)) = true) : IsLink link := by
  simp only [Bool.and_eq_true, List.all_eq_true, Bool.not_eq_true', beq_iff_eq,
    decide_eq_true_eq] at all
  obtain ⟨⟨⟨supported, oneLine⟩, bare⟩, long⟩ := all
  exact ⟨supported, oneLine, bare, long⟩

private theorem isLink_two : ∀ link ∈ [ssLink, trojanLink], IsLink link := by
  intro link member
  simp only [List.mem_cons, List.not_mem_nil, or_false] at member
  rcases member with rfl | rfl
  · exact isLink_of_bool (by decide)
  · exact isLink_of_bool (by decide)

/-- Both links in base64, folded. -/
def foldedLinks : List Char :=
  "c3M6Ly9ZVHBpUUdnNk1RCnRyb2ph\nbjovL3BAaDo0NDMK\n".toList

/-- Each link in base64. -/
def encodedLinks : List Char := "c3M6Ly9ZVHBpUUdnNk1R\ndHJvamFuOi8vcEBoOjQ0Mw==\n".toList

theorem extractConfigs_iff_two :
    extractConfigs "ss://YTpiQGg6MQ\ntrojan://p@h:443\n".toList = [ssLink, trojanLink] ∧
    extractConfigs foldedLinks = [ssLink, trojanLink] ∧
    (extractConfigs encodedLinks = [ssLink, trojanLink] ↔ [ssLink, trojanLink].length = 1) := by
  have formats := extractConfigs_iff [ssLink, trojanLink] isLink_two (List.cons_ne_nil _ _)
  have lines : splitlines "ss://YTpiQGg6MQ\ntrojan://p@h:443\n".toList = [ssLink, trojanLink] := by
    decide
  constructor
  · exact formats.1 _ lines
  · constructor
    · exact formats.2.1 _ foldedLinks lines (by decide)
    · exact formats.2.2 encodedLinks (by unfold EncodedLines; decide)

/-- The two links come out as one. -/
theorem not_extractConfigs_encodedLines :
    (∀ link ∈ [ssLink, trojanLink], IsLink link) ∧
    EncodedLines [ssLink, trojanLink] (splitlines encodedLinks) ∧
    extractConfigs encodedLinks = ["ss://YTpiQGg6MQtrojan://p@h:443".toList] ∧
    extractConfigs encodedLinks ≠ [ssLink, trojanLink] := by
  have written : EncodedLines [ssLink, trojanLink] (splitlines encodedLinks) := by
    unfold EncodedLines
    decide
  have found : extractConfigs encodedLinks = ["ss://YTpiQGg6MQtrojan://p@h:443".toList] := by decide
  refine ⟨isLink_two, written, found, ?_⟩
  rw [found]
  decide

end Formats

end MolidoVpn.Links.Extract
