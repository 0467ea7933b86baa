import MolidoVpn.Lib.Radix
import MolidoVpn.Lib.UrlEncoded

/-!
What is read in the login of a team (`zerotrust.rs`): a value of a query, with its escapes decoded,
and the token among the parts of a cookie. Decoding the first segment of a token is left to the
base64 library.
-/

namespace MolidoVpn.Account

open JavaScript (strictUtf8)
open Radix (fromStrRadix16 hexDigit)
open Text (splitAround stripPrefix trim)
open UrlEncoded (lenient unplus)
open Utf8 (encode fromUtf8Lossy)

/-- The number that the two bytes behind a percent sign spell. -/
def escapedByte (high low : UInt8) : Option Nat :=
  fromStrRadix16 8 ((strictUtf8 [high, low]).getD [])

/-- The loop of `percent_decode`. -/
def percentDecodeBytes : List UInt8 → List UInt8
  | 37 :: high :: low :: rest =>
      match escapedByte high low with
      | some byte => UInt8.ofNat byte :: percentDecodeBytes rest
      | none => 37 :: percentDecodeBytes (high :: low :: rest)
  | byte :: rest => (if byte = 43 then 32 else byte) :: percentDecodeBytes rest
  | [] => []

def percentDecode (raw : List Char) : List Char := fromUtf8Lossy (percentDecodeBytes (encode raw))

/-- The loop of `query_value`; a pair without an equals sign ends it. -/
def firstValue (key : List Char) : List (List Char) → Option (List Char)
  | [] => none
  | pair :: rest =>
      match splitAround ['='] pair with
      | none => none
      | some (name, value) =>
          if name = key then some (percentDecode value) else firstValue key rest

def queryValue (url key : List Char) : Option (List Char) :=
  (splitAround ['?'] url).bind fun (_, query) => firstValue key (query.splitOn '&')

section Cookie

variable (decodesSegment : List Char → Bool)

def looksLikeJwt (token : List Char) : Bool :=
  let token := trim token
  let segments := token.splitOn '.'
  32 ≤ (encode token).length && segments.length == 3 && !segments.any List.isEmpty &&
    token.all (fun c => c.isAlphanum || c == '.' || c == '-' || c == '_') &&
    decodesSegment (segments.headD [])

def cookieValue (part : List Char) : Option (List Char) :=
  let entry := trim part
  (stripPrefix "CF_Authorization=".toList entry).orElse fun _ =>
    stripPrefix "cf_authorization=".toList entry

/-- The loop of `extract_jwt_from_cookie`; a part that is no token cookie ends it. -/
def firstToken : List (List Char) → Option (List Char)
  | [] => none
  | part :: rest =>
      match cookieValue part with
      | none => none
      | some value => if looksLikeJwt decodesSegment value then some value else firstToken rest

def extractJwtFromCookie (header : List Char) : Option (List Char) :=
  firstToken decodesSegment (header.splitOn ';')

end Cookie

section Decode

variable {text raw : List Char} {rest : List UInt8} {c : Char} {byte : UInt8}

private theorem percentDecodeBytes_cons (other : byte ≠ 37) (rest : List UInt8) :
    percentDecodeBytes (byte :: rest) =
      (if byte = 43 then 32 else byte) :: percentDecodeBytes rest := by
  rw [percentDecodeBytes]
  intro high low tail same
  exact absurd same other

private theorem percentDecodeBytes_append {front : List UInt8}
    (plain : ∀ byte ∈ front, byte ≠ 37 ∧ byte ≠ 43) (rest : List UInt8) :
    percentDecodeBytes (front ++ rest) = front ++ percentDecodeBytes rest := by
  induction front with
  | nil => rfl
  | cons byte front ih =>
      obtain ⟨percent, plus⟩ := plain byte List.mem_cons_self
      rw [List.cons_append, percentDecodeBytes_cons percent, if_neg plus,
        ih fun other member => plain other (List.mem_cons_of_mem _ member)]
      rfl

/-- A plus sign is a space, and any other character but the percent sign stands for itself. -/
private theorem percentDecodeBytes_char (other : c ≠ '%') (rest : List UInt8) :
    percentDecodeBytes (String.utf8EncodeChar c ++ rest) =
      String.utf8EncodeChar (if c = '+' then ' ' else c) ++ percentDecodeBytes rest := by
  by_cases plus : c = '+'
  · rw [plus]
    exact percentDecodeBytes_cons (by decide) rest
  · rw [if_neg plus]
    apply percentDecodeBytes_append
    intro byte member
    have part : byte ∈ encode [c] := by
      rw [Utf8.encode_cons, Utf8.encode_nil, List.append_nil]
      exact member
    constructor
    · rintro rfl
      exact other (List.mem_singleton.mp (Utf8.mem_of_ascii part (by decide))).symm
    · rintro rfl
      exact plus (List.mem_singleton.mp (Utf8.mem_of_ascii part (by decide))).symm

private theorem percentDecodeBytes_escape {high low : Char} {value : Nat}
    (read : fromStrRadix16 8 [high, low] = some value) (rest : List Char) :
    percentDecodeBytes (37 :: encode (high :: low :: rest)) =
      UInt8.ofNat value :: percentDecodeBytes (encode rest) := by
  have ascii := Radix.ascii_of_fromStrRadix16 read
  have first := Utf8.encodeChar_ascii (ascii high List.mem_cons_self)
  have second := Utf8.encodeChar_ascii (ascii low (List.mem_cons_of_mem _ List.mem_cons_self))
  have pair : encode [high, low] = [UInt8.ofNat high.toNat, UInt8.ofNat low.toNat] := by
    rw [Utf8.encode_cons, Utf8.encode_cons, first, second]
    rfl
  have escaped : escapedByte (UInt8.ofNat high.toNat) (UInt8.ofNat low.toNat) = some value := by
    rw [escapedByte, ← pair, strictUtf8, Utf8.fromUtf8Lossy_encode, if_pos rfl]
    exact read
  rw [Utf8.encode_cons, Utf8.encode_cons, first, second, List.singleton_append,
    List.singleton_append, percentDecodeBytes, escaped]

/-- Two bytes of ASCII text are two characters. -/
private theorem chars_of_bytes {first second : UInt8} (bytes : encode text = [first, second])
    (ascii : ∀ c ∈ text, c.toNat < 128) :
    ∃ high low, text = [high, low] ∧
      (String.utf8EncodeChar high = [first] ∧ first.toNat < 128) ∧
      (String.utf8EncodeChar low = [second] ∧ second.toNat < 128) := by
  rw [Utf8.encode_ascii ascii, List.map_eq_cons_iff] at bytes
  obtain ⟨high, more, rfl, rfl, behind⟩ := bytes
  obtain ⟨low, rfl, rfl⟩ := List.map_eq_singleton_iff.mp behind
  have one := ascii high List.mem_cons_self
  have two := ascii low (List.mem_cons_of_mem _ List.mem_cons_self)
  have small {c : Char} (below : c.toNat < 128) : (UInt8.ofNat c.toNat).toNat < 128 := by
    rw [UInt8.toNat_ofNat']
    omega
  exact ⟨high, low, rfl, ⟨Utf8.encodeChar_ascii one, small one⟩,
    ⟨Utf8.encodeChar_ascii two, small two⟩⟩

/-- A percent sign that begins no escape stands for itself. -/
private theorem percentDecodeBytes_stray
    (stray : ∀ high low rest, text = high :: low :: rest → fromStrRadix16 8 [high, low] = none) :
    percentDecodeBytes (37 :: encode text) = 37 :: percentDecodeBytes (encode text) := by
  rcases bytes : encode text with _ | ⟨first, _ | ⟨second, rest⟩⟩
  · rfl
  · rfl
  · rw [percentDecodeBytes]
    have none_ : escapedByte first second = none := by
      cases read : escapedByte first second with
      | none => rfl
      | some value =>
          unfold escapedByte strictUtf8 at read
          dsimp only at read
          split at read
          · rename_i valid
            have ascii := Radix.ascii_of_fromStrRadix16 read
            rw [Option.getD_some] at read ascii
            obtain ⟨high, low, pair, one, two⟩ := chars_of_bytes valid ascii
            obtain ⟨c, more, rfl, front, behind⟩ := Utf8.exists_of_encode_cons bytes one.2
            obtain ⟨d, rest, rfl, second, _⟩ := Utf8.exists_of_encode_cons behind two.2
            rw [pair] at read
            rw [← Utf8.encodeChar_inj (one.1.trans front.symm),
              ← Utf8.encodeChar_inj (two.1.trans second.symm)] at stray
            rw [stray high low rest rfl] at read
            cases read
          · cases read
    rw [none_]

/-- The digits are read as those of any other URL are. -/
private theorem hexDigit_agrees (c : Char) :
    Kotlin.hexDigit c = (hexDigit c).map UInt8.ofNat := by
  have decimal : '0' ≤ c ∧ c ≤ '9' ↔ 48 ≤ c.toNat ∧ c.toNat ≤ 57 := Iff.rfl
  have lower : 'a' ≤ c ∧ c ≤ 'f' ↔ 97 ≤ c.toNat ∧ c.toNat ≤ 102 := Iff.rfl
  have upper : 'A' ≤ c ∧ c ≤ 'F' ↔ 65 ≤ c.toNat ∧ c.toNat ≤ 70 := Iff.rfl
  unfold Kotlin.hexDigit hexDigit
  rw [if_congr decimal rfl (if_congr lower rfl (if_congr upper rfl rfl))]
  simp only [apply_ite (Option.map UInt8.ofNat), Option.map_some, Option.map_none]

private theorem hexDigit_unplus (c : Char) :
    Kotlin.hexDigit (if c = '+' then ' ' else c) = Kotlin.hexDigit c := by
  split
  · rename_i plus
    rw [plus]
    rfl
  · rfl

private theorem of_hexDigit {digit : UInt8} (read : Kotlin.hexDigit c = some digit) :
    c ≠ '+' ∧ ∃ value, hexDigit c = some value ∧ UInt8.ofNat value = digit := by
  constructor
  · rintro rfl
    cases read
  · rw [hexDigit_agrees, Option.map_eq_some_iff] at read
    exact read

private theorem no_escape {high low : Char}
    (digits : ∀ first second, Kotlin.hexDigit high = some first →
      Kotlin.hexDigit low = some second → False)
    (unsigned : high = '+' → hexDigit low = none) : fromStrRadix16 8 [high, low] = none := by
  rw [Option.eq_none_iff_forall_not_mem]
  intro value read
  rcases Radix.fromStrRadix16_pair.mp read with ⟨first, second, one, two, _⟩ | ⟨sign, digit⟩
  · apply digits (UInt8.ofNat first) (UInt8.ofNat second)
    · rw [hexDigit_agrees, one]
      rfl
    · rw [hexDigit_agrees, two]
      rfl
  · rw [unsigned sign] at digit
    cases digit

/-- The escapes are those of any query where no sign is taken for a digit. -/
private theorem percentDecodeBytes_encode
    (unsigned : ∀ digit, ['%', '+', digit] <:+: raw → hexDigit digit = none) :
    percentDecodeBytes (encode raw) = UrlEncoded.bytes (unplus raw) := by
  induction raw using UrlEncoded.bytes.induct with
  | case1 high low rest first second readSecond readFirst ih =>
      obtain ⟨_, value, valueHigh, rfl⟩ := of_hexDigit readFirst
      obtain ⟨_, value', valueLow, rfl⟩ := of_hexDigit readSecond
      have read : fromStrRadix16 8 [high, low] = some (value * 16 + value') :=
        Radix.fromStrRadix16_pair.mpr (Or.inl ⟨value, value', valueHigh, valueLow, rfl⟩)
      have later := ih fun digit inside =>
        unsigned digit (inside.trans ⟨['%', high, low], [], List.append_nil _⟩)
      change percentDecodeBytes (37 :: encode (high :: low :: rest)) =
        UrlEncoded.bytes ('%' :: (if high = '+' then ' ' else high) ::
          (if low = '+' then ' ' else low) :: unplus rest)
      rw [UrlEncoded.bytes, hexDigit_unplus, hexDigit_unplus, readFirst, readSecond,
        percentDecodeBytes_escape read, later, UInt8.ofNat_add, UInt8.ofNat_mul]
      rfl
  | case2 high low rest none_ ih =>
      have later := ih fun digit inside =>
        unsigned digit (inside.trans ⟨['%'], [], List.append_nil _⟩)
      have stray : ∀ other other' rest', high :: low :: rest = other :: other' :: rest' →
          fromStrRadix16 8 [other, other'] = none := by
        intro _ _ _ same
        cases same
        apply no_escape none_
        rintro rfl
        exact unsigned low ⟨[], rest, rfl⟩
      change percentDecodeBytes (37 :: encode (high :: low :: rest)) =
        UrlEncoded.bytes ('%' :: (if high = '+' then ' ' else high) ::
          (if low = '+' then ' ' else low) :: unplus rest)
      rw [percentDecodeBytes_stray stray, later, UrlEncoded.bytes, hexDigit_unplus, hexDigit_unplus]
      split
      · rename_i first second one two
        exact (none_ first second one two).elim
      · rfl
  | case3 c rest notEscape ih =>
      have later := ih fun digit inside =>
        unsigned digit (inside.trans ⟨[c], [], List.append_nil _⟩)
      have alone : ∀ high low more, (if c = '+' then ' ' else c) = '%' →
          unplus rest ≠ high :: low :: more := by
        intro high low more percent same
        obtain ⟨first, behind, rfl, _, others⟩ := List.map_eq_cons_iff.mp same
        obtain ⟨second, more', rfl, _, _⟩ := List.map_eq_cons_iff.mp others
        split at percent
        · cases percent
        · exact notEscape first second more' percent rfl
      change _ = UrlEncoded.bytes ((if c = '+' then ' ' else c) :: unplus rest)
      rw [UrlEncoded.bytes_cons alone, ← later, Utf8.encode_cons, Utf8.encode_cons,
        Utf8.encode_nil, List.append_nil]
      by_cases percent : c = '%'
      · subst percent
        exact percentDecodeBytes_stray fun high low rest' same =>
          (notEscape high low rest' rfl same).elim
      · exact percentDecodeBytes_char percent _
  | case4 => rfl

end Decode

section Encoded

/-- What an encoded text is made of; a byte is spelled with digits of either case. -/
inductive Piece
  | plain (c : Char) (stands : c ≠ '%' ∧ c ≠ '+')
  | space
  | escape (high low : Char) (byte : UInt8)
      (spelled : Radix.hexValue [high, low] = some byte.toNat)

def Piece.text : Piece → List Char
  | .plain c _ => [c]
  | .space => ['+']
  | .escape high low _ _ => ['%', high, low]

def Piece.bytes : Piece → List UInt8
  | .plain c _ => encode [c]
  | .space => [32]
  | .escape _ _ byte _ => [byte]

private theorem percentDecodeBytes_piece (piece : Piece) (rest : List Char) :
    percentDecodeBytes (encode (piece.text ++ rest)) =
      piece.bytes ++ percentDecodeBytes (encode rest) := by
  cases piece with
  | plain c stands =>
      have kept := percentDecodeBytes_char stands.1 (encode rest)
      rw [if_neg stands.2] at kept
      change percentDecodeBytes (encode (c :: rest)) = encode [c] ++ _
      rw [Utf8.encode_cons, kept, Utf8.encode_cons, Utf8.encode_nil, List.append_nil]
  | space => exact percentDecodeBytes_char (by decide) (encode rest)
  | escape high low byte spelled =>
      have read : fromStrRadix16 8 [high, low] = some byte.toNat :=
        (Radix.fromStrRadix16_of_hexValue spelled (List.cons_ne_nil high [low])).mpr
          ⟨rfl, byte.toNat_lt⟩
      change percentDecodeBytes (37 :: encode (high :: low :: rest)) = _
      rw [percentDecodeBytes_escape read, UInt8.ofNat_toNat]
      rfl

private theorem percentDecodeBytes_pieces (pieces : List Piece) :
    percentDecodeBytes (encode (pieces.flatMap Piece.text)) = pieces.flatMap Piece.bytes := by
  induction pieces with
  | nil => rfl
  | cons piece pieces ih =>
      rw [List.flatMap_cons, percentDecodeBytes_piece, ih, List.flatMap_cons]

end Encoded

section Lookup

variable {key value : List Char} {part : List Char}

private theorem firstValue_append {early late : List (List Char)} {pair : List Char}
    (others : ∀ pair ∈ early, ∃ name value,
      splitAround ['='] pair = some (name, value) ∧ name ≠ key)
    (found : splitAround ['='] pair = some (key, value)) :
    firstValue key (early ++ pair :: late) = some (percentDecode value) := by
  induction early with
  | nil =>
      rw [List.nil_append, firstValue, found]
      exact if_pos rfl
  | cons other early ih =>
      obtain ⟨name, value', split, different⟩ := others other List.mem_cons_self
      have later := ih fun pair member => others pair (List.mem_cons_of_mem _ member)
      rw [List.cons_append, firstValue, split, later]
      exact if_neg different

private theorem firstValue_eq_none {pairs : List (List Char)}
    (others : ∀ pair ∈ pairs, ∀ value, splitAround ['='] pair ≠ some (key, value)) :
    firstValue key pairs = none := by
  induction pairs with
  | nil => rfl
  | cons pair pairs ih =>
      have later := ih fun other member => others other (List.mem_cons_of_mem _ member)
      rw [firstValue]
      split
      · rfl
      · rename_i name value split_
        rw [if_neg, later]
        rintro rfl
        exact others pair List.mem_cons_self value split_

variable (decodesSegment : List Char → Bool)

private theorem firstToken_append {early late : List (List Char)}
    (others : ∀ part ∈ early, ∃ value, cookieValue part = some value ∧
      looksLikeJwt decodesSegment value = false)
    (found : cookieValue part = some value) (token : looksLikeJwt decodesSegment value = true) :
    firstToken decodesSegment (early ++ part :: late) = some value := by
  induction early with
  | nil =>
      rw [List.nil_append, firstToken, found]
      exact if_pos token
  | cons other early ih =>
      obtain ⟨value', given, malformed⟩ := others other List.mem_cons_self
      have later := ih fun part member => others part (List.mem_cons_of_mem _ member)
      rw [List.cons_append, firstToken, given, later]
      exact if_neg (ne_true_of_eq_false malformed)

private theorem firstToken_eq_none {parts : List (List Char)}
    (others : ∀ part ∈ parts, ∀ value, cookieValue part = some value →
      looksLikeJwt decodesSegment value = false) :
    firstToken decodesSegment parts = none := by
  induction parts with
  | nil => rfl
  | cons part parts ih =>
      have later := ih fun other member => others other (List.mem_cons_of_mem _ member)
      rw [firstToken]
      split
      · rfl
      · rename_i value given
        rw [others part List.mem_cons_self value given, later]
        rfl

end Lookup

/--
A value is the decoded one of the first pair with the key where every pair before it has an equals
sign, an escape is read back to its bytes as far as a text has them and any other percent sign is
kept, and a token is found behind token cookies that hold none.
-/
theorem login_values_read (decodesSegment : List Char → Bool) :
    (∀ url key : List Char,
      (∀ front query early pair late value,
        splitAround ['?'] url = some (front, query) →
        query.splitOn '&' = early ++ pair :: late →
        (∀ other ∈ early, ∃ name value, splitAround ['='] other = some (name, value) ∧ name ≠ key) →
        splitAround ['='] pair = some (key, value) →
        queryValue url key = some (percentDecode value)) ∧
      ((∀ front query, splitAround ['?'] url = some (front, query) →
          ∀ pair ∈ query.splitOn '&', ∀ value, splitAround ['='] pair ≠ some (key, value)) →
        queryValue url key = none)) ∧
    (∀ pieces : List Piece,
      percentDecode (pieces.flatMap Piece.text) = fromUtf8Lossy (pieces.flatMap Piece.bytes) ∧
      ∀ text, pieces.flatMap Piece.bytes = encode text →
        percentDecode (pieces.flatMap Piece.text) = text) ∧
    (∀ raw : List Char, (∀ digit, ['%', '+', digit] <:+: raw → hexDigit digit = none) →
      percentDecode raw = lenient (unplus raw)) ∧
    ∀ header : List Char,
      (∀ early part late value, header.splitOn ';' = early ++ part :: late →
        (∀ other ∈ early, ∃ value, cookieValue other = some value ∧
          looksLikeJwt decodesSegment value = false) →
        cookieValue part = some value → looksLikeJwt decodesSegment value = true →
        extractJwtFromCookie decodesSegment header = some value) ∧
      ((∀ part ∈ header.splitOn ';', ∀ value, cookieValue part = some value →
          looksLikeJwt decodesSegment value = false) →
        extractJwtFromCookie decodesSegment header = none) := by
  refine ⟨fun url key => ⟨?_, ?_⟩, fun pieces => ⟨?_, ?_⟩, ?_, fun header => ⟨?_, ?_⟩⟩
  · intro front query early pair late value split pairs others found
    rw [queryValue, split, Option.bind_some]
    change firstValue key (query.splitOn '&') = _
    rw [pairs]
    exact firstValue_append others found
  · intro others
    rw [queryValue, Option.bind_eq_none_iff]
    rintro ⟨front, query⟩ split
    exact firstValue_eq_none (others front query split)
  · rw [percentDecode, percentDecodeBytes_pieces]
  · intro text valid
    rw [percentDecode, percentDecodeBytes_pieces, valid, Utf8.fromUtf8Lossy_encode]
  · intro raw unsigned
    rw [percentDecode, percentDecodeBytes_encode unsigned]
    rfl
  · intro early part late value parts others found token
    rw [extractJwtFromCookie, parts]
    exact firstToken_append decodesSegment others found token
  · intro others
    exact firstToken_eq_none decodesSegment others

/-- A byte that no text has is replaced, a sign is read as a digit, and a pair or a cookie of
another kind ends the search. -/
theorem login_values_misread :
    encode (percentDecode (Piece.escape 'F' 'F' 255 rfl).text) ≠
        (Piece.escape 'F' 'F' 255 rfl).bytes ∧
      percentDecode "%+5".toList = [Char.ofNat 5] ∧
      queryValue "login?sent&token=abc".toList "token".toList = none ∧
      looksLikeJwt (fun _ => true) "eyJhbGciOiJSUzI1NiJ9.eyJleHAiOjF9.c2ln".toList = true ∧
      extractJwtFromCookie (fun _ => true)
        "theme; CF_Authorization=eyJhbGciOiJSUzI1NiJ9.eyJleHAiOjF9.c2ln".toList = none := by
  decide +kernel

end MolidoVpn.Account
