import MolidoVpn.Worker.SubLinks

/-!
The body that `listResponse` serves and what `decodeList` makes of a list. The one writes the list
as UTF-8, the other has one character for each byte.
-/

namespace MolidoVpn.Worker

open JavaScript (atob btoa dropPadding forgivingDecode isAsciiSpace isVisible)
open Text (jsTrim isJsSpace)

section Response

/-- The text with one character for each byte. -/
def byteText (bytes : List UInt8) : List Char := bytes.map fun byte => Char.ofNat byte.toNat

/-- `btoa` of a text; nothing where it throws. -/
def btoaText (text : List Char) : Option (List Char) :=
  if text.all fun c => c.toNat < 256 then
    some (btoa (text.map fun c => UInt8.ofNat c.toNat))
  else none

structure ListResponse where
  body : List Char
  headers : List (List Char × List Char)

def joined (lines : List (List Char)) : List Char := List.intercalate ['\n'] lines

def listResponse (lines : List (List Char)) (title : List Char) : Option ListResponse :=
  (btoaText (byteText (Utf8.encode (joined lines)))).bind fun body =>
    (btoaText title).map fun shown =>
      { body := body
        headers := [
          ("content-type".toList, "text/plain; charset=utf-8".toList),
          ("profile-title".toList, "base64:".toList ++ shown),
          ("profile-update-interval".toList, "12".toList),
          ("profile-web-page-url".toList, "https://hidooch980.github.io/molidovpn/".toList),
          ("cache-control".toList, "public, max-age=300".toList),
          ("access-control-allow-origin".toList, "*".toList)] }

private theorem toNat_byteChar (byte : UInt8) : (Char.ofNat byte.toNat).toNat = byte.toNat := by
  have bound := byte.toNat_lt
  have small : byte.toNat.isValidChar := Or.inl (by omega)
  have named : Char.ofNat byte.toNat = Char.ofNatAux byte.toNat small := dif_pos small
  rw [named]
  rfl

theorem btoaText_byteText (bytes : List UInt8) : btoaText (byteText bytes) = some (btoa bytes) := by
  have small : (byteText bytes).all (fun c => c.toNat < 256) = true := by
    rw [List.all_eq_true]
    intro c member
    obtain ⟨byte, -, rfl⟩ := List.mem_map.mp member
    rw [toNat_byteChar]
    exact decide_eq_true byte.toNat_lt
  have back : (byteText bytes).map (fun c => UInt8.ofNat c.toNat) = bytes := by
    rw [byteText, List.map_map, List.map_congr_left, List.map_id]
    intro byte _member
    change UInt8.ofNat (Char.ofNat byte.toNat).toNat = byte
    rw [toNat_byteChar, UInt8.ofNat_toNat]
  rw [btoaText, if_pos small, back]

theorem listResponse_body {lines : List (List Char)} {title : List Char} {response : ListResponse}
    (served : listResponse lines title = some response) :
    response.body = btoa (Utf8.encode (joined lines)) := by
  rw [listResponse, btoaText_byteText, Option.bind_some, Option.map_eq_some_iff] at served
  obtain ⟨shown, -, rfl⟩ := served
  rfl

end Response

section Bytes

theorem length_le_encode (text : List Char) : text.length ≤ (Utf8.encode text).length := by
  induction text with
  | nil => exact Nat.zero_le _
  | cons c text ih =>
      have sized := c.utf8Size_pos
      rw [Utf8.encode_cons, List.length_append, String.length_utf8EncodeChar, List.length_cons]
      omega

/-- As many bytes as characters. -/
theorem ascii_of_length {text : List Char} (short : (Utf8.encode text).length ≤ text.length) :
    ∀ c ∈ text, c.toNat < 128 := by
  induction text with
  | nil => exact fun c member => absurd member List.not_mem_nil
  | cons c text ih =>
      have sized := c.utf8Size_pos
      have least := length_le_encode text
      rw [Utf8.encode_cons, List.length_append, String.length_utf8EncodeChar,
        List.length_cons] at short
      intro other member
      rcases List.mem_cons.mp member with rfl | later
      · have small : other.val ≤ 127 := Char.utf8Size_eq_one_iff.mp (by omega)
        rw [UInt32.le_iff_toNat_le] at small
        exact Nat.lt_succ_of_le small
      · exact ih (by omega) other later

theorem byteText_ascii {text : List Char} (ascii : ∀ c ∈ text, c.toNat < 128) :
    byteText (Utf8.encode text) = text := by
  rw [Utf8.encode_ascii ascii, byteText, List.map_map]
  conv_rhs => rw [← List.map_id text]
  apply List.map_congr_left
  intro c member
  have small := ascii c member
  change Char.ofNat (UInt8.ofNat c.toNat).toNat = c
  rw [UInt8.toNat_ofNat', Nat.mod_eq_of_lt (by omega), Char.ofNat_toNat]

theorem byteText_encode_iff {text : List Char} :
    byteText (Utf8.encode text) = text ↔ ∀ c ∈ text, c.toNat < 128 := by
  constructor
  · intro same
    have length := congrArg List.length same
    rw [byteText, List.length_map] at length
    exact ascii_of_length length.le
  · exact byteText_ascii

end Bytes

section Trim

private theorem filter_dropWhile (text : List Char) :
    (text.dropWhile isJsSpace).filter (fun c => !isJsSpace c) =
      text.filter fun c => !isJsSpace c := by
  induction text with
  | nil => rfl
  | cons c text ih =>
      by_cases space : isJsSpace c = true
      · rw [List.dropWhile_cons_of_pos space, ih, List.filter_cons_of_neg]
        rw [space]
        exact Bool.false_ne_true
      · rw [List.dropWhile_cons_of_neg space]

private theorem filter_jsTrim (text : List Char) :
    (jsTrim text).filter (fun c => !isJsSpace c) = text.filter fun c => !isJsSpace c := by
  rw [jsTrim, List.filter_reverse, filter_dropWhile, List.filter_reverse, List.reverse_reverse,
    filter_dropWhile]

/-- A part that does not begin with white space lies behind it. -/
private theorem infix_dropWhile {first : Char} {part text : List Char}
    (solid : isJsSpace first = false) (inside : first :: part <:+: text) :
    first :: part <:+: text.dropWhile isJsSpace := by
  induction text with
  | nil => exact inside
  | cons c text ih =>
      by_cases space : isJsSpace c = true
      · rw [List.dropWhile_cons_of_pos space]
        rcases List.infix_cons_iff.mp inside with here | later
        · obtain ⟨rest, same⟩ := here
          rw [List.cons_append, List.cons.injEq] at same
          rw [← same.1, solid] at space
          cases space
        · exact ih later
      · rw [List.dropWhile_cons_of_neg space]
        exact inside

private theorem includes_jsTrim {text : List Char} (listed : includes "://".toList text = true) :
    includes "://".toList (jsTrim text) = true := by
  have solid : isJsSpace ':' = false ∧ isJsSpace '/' = false := by decide
  rw [includes, Text.splitAround_isSome_iff] at listed ⊢
  have front := infix_dropWhile solid.1 listed
  rw [← List.reverse_infix] at front
  have behind := infix_dropWhile solid.2 front
  rw [jsTrim, ← List.reverse_infix, List.reverse_reverse]
  exact behind

private theorem length_jsTrim_le (text : List Char) : (jsTrim text).length ≤ text.length := by
  rw [jsTrim, List.length_reverse]
  have inner := (List.dropWhile_suffix (l := text) isJsSpace).length_le
  have outer := (List.dropWhile_suffix (l := (text.dropWhile isJsSpace).reverse)
    isJsSpace).length_le
  rw [List.length_reverse] at outer
  omega

end Trim

section Spelling

/-- White space can stand anywhere in it. -/
def Base64Of (bytes : List UInt8) (body : List Char) : Prop :=
  body.filter (fun c => !isJsSpace c) ∈ Base64.spellings bytes

theorem forgivingDecode_bare (bytes : List UInt8) :
    forgivingDecode ((btoa bytes).filter (· != '=')) = some bytes := by
  obtain ⟨values, pad, written, small, read, few, whole⟩ := Base64.encode_eq bytes
  have clear : '=' ∉ values.map Base64.letter := by
    intro member
    obtain ⟨value, inside, same⟩ := List.mem_map.mp member
    exact Base64.letter_ne value (small value inside) same
  have bare : (btoa bytes).filter (· != '=') = values.map Base64.letter := by
    rw [btoa, written, List.filter_append, List.filter_replicate_of_neg, List.append_nil,
      List.filter_eq_self]
    · intro c member
      exact bne_iff_ne.mpr fun sign => clear (sign ▸ member)
    · decide
  have solid : (values.map Base64.letter).filter (fun c => !isAsciiSpace c) =
      values.map Base64.letter := by
    rw [← bare, List.filter_eq_self]
    intro c member
    exact JavaScript.isAsciiSpace_of_isLetter
      (Base64.isLetter_of_mem_encode (List.mem_filter.mp member).1)
  rw [bare, forgivingDecode, solid, JavaScript.dropPadding_of_not_mem clear,
    Base64.decodeLetters_letters small (by omega), read]

end Spelling

section Decode

variable {bytes : List UInt8} {body : List Char}

private theorem solid_of_isLetter {c : Char}
    (letter : c = '-' ∨ c = '_' ∨ Base64.isLetter c = true) : isVisible c = true ∧ c ≠ ':' := by
  rcases letter with rfl | rfl | letter
  · decide
  · decide
  · constructor
    · exact JavaScript.isVisible_of_isLetter letter
    · rintro rfl
      exact absurd letter (by decide)

theorem decodeList_eq (spelled : Base64Of bytes body) :
    decodeList body = (atob (body.filter fun c => !isJsSpace c)).getD [] := by
  have colon : includes "://".toList (jsTrim body) = false := by
    rw [includes, ← Bool.not_eq_true, Text.splitAround_isSome_iff]
    intro inside
    have there : ':' ∈ (jsTrim body).filter fun c => !isJsSpace c :=
      List.mem_filter.mpr ⟨inside.subset List.mem_cons_self, by decide⟩
    rw [filter_jsTrim] at there
    exact (solid_of_isLetter (Base64.isLetter_of_spelling spelled there)).2 rfl
  unfold decodeList
  dsimp only
  rw [colon, if_neg Bool.false_ne_true, filter_jsTrim]

private theorem mem_solid {c : Char} (solid : isJsSpace c = false) :
    c ∈ body.filter (fun c => !isJsSpace c) ↔ c ∈ body := by
  rw [List.mem_filter, solid]
  exact and_iff_left rfl

/-- The standard alphabet comes back as the bytes. -/
theorem decodeList_standard (spelled : Base64Of bytes body) (dash : '-' ∉ body)
    (line : '_' ∉ body) : decodeList body = byteText bytes := by
  have standard : body.filter (fun c => !isJsSpace c) = btoa bytes ∨
      body.filter (fun c => !isJsSpace c) = (btoa bytes).filter (· != '=') :=
    Base64.standard_of_spelling spelled (fun there => dash ((mem_solid rfl).mp there))
      (fun there => line ((mem_solid rfl).mp there))
  rw [decodeList_eq spelled, JavaScript.atob_eq]
  rcases standard with padded | bare
  · rw [padded, JavaScript.forgivingDecode_btoa]
    rfl
  · rw [bare, forgivingDecode_bare]
    rfl

/-- The other alphabet is refused. -/
theorem decodeList_url (spelled : Base64Of bytes body) (other : '-' ∈ body ∨ '_' ∈ body) :
    decodeList body = [] := by
  have refused {c : Char} {text : List Char} (member : c ∈ text) (sign : c ≠ '=')
      (space : isAsciiSpace c = false) (unread : Base64.sextet false c = none) :
      atob text = none := by
    have kept : c ∈ dropPadding (text.filter fun c => !isAsciiSpace c) :=
      JavaScript.mem_dropPadding (List.mem_filter.mpr ⟨member, by rw [space]; rfl⟩) sign
    rw [JavaScript.atob_eq, forgivingDecode, Base64.decodeLetters_none kept unread]
    rfl
  rw [decodeList_eq spelled]
  rcases other with dash | line
  · rw [refused ((mem_solid rfl).mpr dash) (by decide) rfl rfl]
    rfl
  · rw [refused ((mem_solid rfl).mpr line) (by decide) rfl rfl]
    rfl

theorem decodeList_plain {text : List Char} (listed : includes "://".toList text = true) :
    decodeList text = jsTrim text := by
  unfold decodeList
  dsimp only
  rw [includes_jsTrim listed, if_pos rfl]

private theorem base64Of_btoa (bytes : List UInt8) : Base64Of bytes (btoa bytes) := by
  have solid : (btoa bytes).filter (fun c => !isJsSpace c) = btoa bytes := by
    rw [List.filter_eq_self]
    intro c member
    rw [JavaScript.isJsSpace_of_isVisible (JavaScript.isVisible_of_mem_btoa member)]
    rfl
  rw [Base64Of, solid]
  exact List.mem_cons_self

theorem decodeList_btoa (bytes : List UInt8) : decodeList (btoa bytes) = byteText bytes := by
  apply decodeList_standard (base64Of_btoa bytes)
  · intro there
    exact absurd (Base64.isLetter_of_mem_encode there) (by decide)
  · intro there
    exact absurd (Base64.isLetter_of_mem_encode there) (by decide)

private theorem decodeList_base64_iff {text : List Char}
    (listed : includes "://".toList text = true) (spelled : Base64Of (Utf8.encode text) body) :
    decodeList body = decodeList text ↔
      (∀ c ∈ text, c.toNat < 128) ∧ jsTrim text = text ∧ '-' ∉ body ∧ '_' ∉ body := by
  have shown := includes_jsTrim listed
  rw [decodeList_plain listed]
  constructor
  · intro same
    have standard : '-' ∉ body ∧ '_' ∉ body := by
      rw [← not_or]
      intro other
      rw [← same, decodeList_url spelled other] at shown
      cases shown
    rw [decodeList_standard spelled standard.1 standard.2] at same
    have length := congrArg List.length same
    rw [byteText, List.length_map] at length
    have ascii := ascii_of_length (length.le.trans (length_jsTrim_le text))
    exact ⟨ascii, same.symm.trans (byteText_ascii ascii), standard⟩
  · rintro ⟨ascii, trimmed, dash, line⟩
    rw [decodeList_standard spelled dash line, byteText_ascii ascii, trimmed]

/-- A served list comes back when it is ASCII. So does a list in base64, if it has no white space
at its ends either and is written in the standard alphabet. -/
theorem decodeList_iff (lines : List (List Char)) (title text body : List Char) :
    (∀ response, listResponse lines title = some response →
      (decodeList response.body = joined lines ↔ ∀ c ∈ joined lines, c.toNat < 128)) ∧
    (includes "://".toList text = true → Base64Of (Utf8.encode text) body →
      (decodeList body = decodeList text ↔
        (∀ c ∈ text, c.toNat < 128) ∧ jsTrim text = text ∧ '-' ∉ body ∧ '_' ∉ body)) := by
  constructor
  · intro response served
    rw [listResponse_body served, decodeList_btoa]
    exact byteText_encode_iff
  · intro listed spelled
    exact decodeList_base64_iff listed spelled

def plainLine : List Char := "ss://a".toList

/-- `ss://a` on two lines. -/
def foldedBody : List Char := "c3M6\nLy9h".toList

theorem decodeList_iff_plain :
    (∃ response, listResponse [plainLine] "MolidoVPN 1".toList = some response ∧
      response.body = "c3M6Ly9h".toList ∧
      (decodeList response.body = joined [plainLine] ↔ ∀ c ∈ joined [plainLine], c.toNat < 128)) ∧
    (decodeList foldedBody = decodeList plainLine ↔
      (∀ c ∈ plainLine, c.toNat < 128) ∧ jsTrim plainLine = plainLine ∧
        '-' ∉ foldedBody ∧ '_' ∉ foldedBody) := by
  have served : ∃ response, listResponse [plainLine] "MolidoVPN 1".toList = some response ∧
      response.body = "c3M6Ly9h".toList := ⟨_, rfl, rfl⟩
  obtain ⟨response, served, shown⟩ := served
  have both := decodeList_iff [plainLine] "MolidoVPN 1".toList plainLine foldedBody
  constructor
  · exact ⟨response, served, shown, both.1 response served⟩
  · exact both.2 rfl (by unfold Base64Of; decide)

def zurichLine : List Char := "ss://a#Zürich".toList

/-- The name of the served line comes back as its bytes. -/
theorem not_decodeList_zurich :
    (∃ response, listResponse [zurichLine] "MolidoVPN 1".toList = some response ∧
      decodeList response.body = "ss://a#ZÃ¼rich".toList ∧
      decodeList response.body ≠ joined [zurichLine]) ∧
    includes "://".toList zurichLine = true ∧
    decodeList (btoa (Utf8.encode zurichLine)) ≠ decodeList zurichLine := by
  have served : ∃ response, listResponse [zurichLine] "MolidoVPN 1".toList = some response :=
    ⟨_, rfl⟩
  obtain ⟨response, served⟩ := served
  have other : "ss://a#ZÃ¼rich".toList ≠ zurichLine := by decide
  have back : decodeList (btoa (Utf8.encode zurichLine)) = "ss://a#ZÃ¼rich".toList := by
    rw [decodeList_btoa]
    decide
  have plain : decodeList zurichLine = zurichLine := by decide
  refine ⟨⟨response, served, ?_, ?_⟩, rfl, ?_⟩
  · rw [listResponse_body served]
    exact back
  · rw [listResponse_body served]
    exact fun same => other (back.symm.trans same)
  · rw [back, plain]
    exact other

end Decode

end MolidoVpn.Worker
