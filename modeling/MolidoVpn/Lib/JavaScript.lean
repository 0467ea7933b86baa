import MolidoVpn.Lib.Base64
import MolidoVpn.Lib.Json
import MolidoVpn.Lib.Kotlin
import MolidoVpn.Lib.Sha256

/-!
The operations on strings of JavaScript and of the web platform, over lists of characters.
What the two encodings write is visible ASCII without a number sign, so it ends no fragment
and is trimmed by nobody.
-/

namespace MolidoVpn.JavaScript

section Strings

/-- `length`, which counts the units of UTF-16. -/
def utf16Length (text : List Char) : Nat :=
  (text.map fun c => if c.toNat < 0x10000 then 1 else 2).sum

def padStart (width : Nat) (fill : Char) (text : List Char) : List Char :=
  List.replicate (width - text.length) fill ++ text

/-- `JSON`; nothing where `parse` throws. -/
structure JsonText where
  parse : List Char → Option Json
  stringify : Json → List Char

end Strings

section Components

/-- What `encodeURIComponent` leaves as it is. -/
def unreserved (c : Char) : Bool := c.isAlphanum || "-_.!~*'()".toList.contains c

def escapeByte (byte : UInt8) : List Char := '%' :: (Sha256.hexByte byte).map Char.toUpper

def encodeURIComponent (text : List Char) : List Char :=
  text.flatMap fun c =>
    if unreserved c then [c] else (String.utf8EncodeChar c).flatMap escapeByte

def strictUtf8 (bytes : List UInt8) : Option (List Char) :=
  let text := Utf8.fromUtf8Lossy bytes
  if Utf8.encode text = bytes then some text else none

/-- The bytes of neighbouring escapes are decoded together. -/
def decodeComponentFrom : List UInt8 → List Char → Option (List Char)
  | pending, [] => strictUtf8 pending
  | pending, '%' :: high :: low :: rest =>
      (Kotlin.hexDigit high).bind fun high => (Kotlin.hexDigit low).bind fun low =>
        decodeComponentFrom (pending ++ [high * 16 + low]) rest
  | pending, c :: rest =>
      if c = '%' then none
      else
        (strictUtf8 pending).bind fun before =>
          (decodeComponentFrom [] rest).map fun after => before ++ c :: after

/-- Nothing where it throws. -/
def decodeURIComponent (text : List Char) : Option (List Char) := decodeComponentFrom [] text

theorem strictUtf8_encode (text : List Char) : strictUtf8 (Utf8.encode text) = some text := by
  rw [strictUtf8, Utf8.fromUtf8Lossy_encode, if_pos rfl]

theorem escapeByte_eq (byte : UInt8) :
    ∃ high low one two, escapeByte byte = ['%', high, low] ∧ Kotlin.hexDigit high = some one ∧
      Kotlin.hexDigit low = some two ∧ one * 16 + two = byte := by
  have all : (List.range 256).all (fun byte =>
      ((Kotlin.hexDigit (Nat.digitChar (byte / 16)).toUpper).bind fun one =>
        (Kotlin.hexDigit (Nat.digitChar (byte % 16)).toUpper).map fun two => one * 16 + two) =
          some (UInt8.ofNat byte)) = true := by
    decide +kernel
  have read := of_decide_eq_true (List.all_eq_true.mp all byte.toNat
    (List.mem_range.mpr byte.toNat_lt))
  obtain ⟨one, first, rest⟩ := Option.bind_eq_some_iff.mp read
  obtain ⟨two, second, value⟩ := Option.map_eq_some_iff.mp rest
  exact ⟨_, _, one, two, rfl, first, second, value.trans UInt8.ofNat_toNat⟩

private theorem decodeComponentFrom_escapes (pending bytes : List UInt8) (rest : List Char) :
    decodeComponentFrom pending (bytes.flatMap escapeByte ++ rest) =
      decodeComponentFrom (pending ++ bytes) rest := by
  induction bytes generalizing pending with
  | nil => rw [List.append_nil]; rfl
  | cons byte bytes ih =>
      obtain ⟨high, low, one, two, digits, first, second, value⟩ := escapeByte_eq byte
      rw [List.flatMap_cons, digits, List.append_assoc]
      change decodeComponentFrom pending ('%' :: high :: low ::
        (bytes.flatMap escapeByte ++ rest)) = _
      rw [decodeComponentFrom, first, second, Option.bind_some, Option.bind_some, value, ih,
        List.append_assoc]
      rfl

private theorem decodeComponentFrom_encode (front text : List Char) :
    decodeComponentFrom (Utf8.encode front) (encodeURIComponent text) = some (front ++ text) := by
  induction text generalizing front with
  | nil =>
      rw [List.append_nil]
      exact strictUtf8_encode front
  | cons c text ih =>
      rw [encodeURIComponent, List.flatMap_cons]
      change decodeComponentFrom _ (_ ++ encodeURIComponent text) = _
      by_cases plain : unreserved c = true
      · have escapes : c ≠ '%' := by
          rintro rfl
          exact absurd plain (by decide)
        rw [if_pos plain, List.singleton_append, decodeComponentFrom, if_neg escapes,
          strictUtf8_encode, Option.bind_some, ← Utf8.encode_nil, ih []]
        · rfl
        · exact fun _ _ _ same => absurd same escapes
      · have behind : Utf8.encode front ++ String.utf8EncodeChar c = Utf8.encode (front ++ [c]) := by
          rw [Utf8.encode_append, Utf8.encode_cons, Utf8.encode_nil, List.append_nil]
        rw [if_neg plain, decodeComponentFrom_escapes, behind, ih, List.append_assoc]
        rfl

theorem decodeURIComponent_encode (text : List Char) :
    decodeURIComponent (encodeURIComponent text) = some text :=
  decodeComponentFrom_encode [] text

private theorem eq_nil_of_strictUtf8 {bytes : List UInt8} (empty : strictUtf8 bytes = some []) :
    bytes = [] := by
  rw [strictUtf8] at empty
  split at empty
  · rename_i whole
    rw [Option.some.inj empty] at whole
    exact whole.symm
  · cases empty

private theorem eq_nil_of_decodeComponentFrom {pending : List UInt8} {text : List Char}
    (empty : decodeComponentFrom pending text = some []) : pending = [] ∧ text = [] := by
  induction pending, text using decodeComponentFrom.induct with
  | case1 pending => exact ⟨eq_nil_of_strictUtf8 empty, rfl⟩
  | case2 pending high low rest ih =>
      rw [decodeComponentFrom, Option.bind_eq_some_iff] at empty
      obtain ⟨high, -, empty⟩ := empty
      obtain ⟨low, -, empty⟩ := Option.bind_eq_some_iff.mp empty
      exact absurd (ih high low empty).1 (List.append_ne_nil_of_right_ne_nil _ (List.cons_ne_nil _ _))
  | case3 pending rest other =>
      rw [decodeComponentFrom, if_pos rfl] at empty
      · cases empty
      · exact other
  | case4 pending c rest other escapes ih =>
      rw [decodeComponentFrom, if_neg escapes, Option.bind_eq_some_iff] at empty
      · obtain ⟨before, -, empty⟩ := empty
        obtain ⟨after, -, joined⟩ := Option.map_eq_some_iff.mp empty
        exact absurd joined (List.append_ne_nil_of_right_ne_nil _ (List.cons_ne_nil _ _))
      · exact other

/-- Only the empty text decodes to it. -/
theorem eq_nil_of_decodeURIComponent {text : List Char}
    (empty : decodeURIComponent text = some []) : text = [] :=
  (eq_nil_of_decodeComponentFrom empty).2

end Components

section Binary

/-- White space of the web platform's own. -/
def isAsciiSpace (c : Char) : Bool :=
  c == '\t' || c == '\n' || c == '\x0c' || c == '\r' || c == ' '

/-- One or two signs at the end of a text that fills its groups of four. -/
def dropPadding (text : List Char) : List Char :=
  if text.length % 4 ≠ 0 then text
  else if ['=', '='].isSuffixOf text then text.dropLast.dropLast
  else if ['='].isSuffixOf text then text.dropLast
  else text

/-- One character for each byte; nothing where it throws. -/
def atob (text : List Char) : Option (List Char) :=
  (Base64.decodeLetters false (dropPadding (text.filter fun c => !isAsciiSpace c))).map
    (List.map fun byte => Char.ofNat byte.toNat)

/-- `btoa` of the characters of the bytes. -/
def btoa (bytes : List UInt8) : List Char := Base64.encode bytes

/-- The bytes that `atob` gives one character each. -/
def forgivingDecode (text : List Char) : Option (List UInt8) :=
  Base64.decodeLetters false (dropPadding (text.filter fun c => !isAsciiSpace c))

theorem atob_eq (text : List Char) :
    atob text = (forgivingDecode text).map (List.map fun byte => Char.ofNat byte.toNat) := rfl

/-- Up to two signs at the end of whole groups are dropped. -/
private theorem dropPadding_append {body : List Char} {pad : Nat} (clear : '=' ∉ body)
    (few : pad ≤ 2) (whole : (body.length + pad) % 4 = 0) :
    dropPadding (body ++ List.replicate pad '=') = body := by
  have length : (body ++ List.replicate pad '=').length % 4 = 0 := by
    rw [List.length_append, List.length_replicate]
    exact whole
  rw [dropPadding, if_neg (not_not_intro length)]
  have single {text : List Char} : ['='].isSuffixOf text = true → '=' ∈ text := fun ends =>
    (List.isSuffixOf_iff_suffix.mp ends).subset List.mem_cons_self
  have double {text : List Char} : ['=', '='].isSuffixOf text = true → '=' ∈ text := fun ends =>
    (List.isSuffixOf_iff_suffix.mp ends).subset List.mem_cons_self
  match pad, few with
  | 0, _ =>
      rw [List.replicate_zero, List.append_nil, if_neg fun ends => clear (double ends),
        if_neg fun ends => clear (single ends)]
  | 1, _ =>
      have two : ¬['=', '='].isSuffixOf (body ++ ['=']) = true := by
        intro ends
        obtain ⟨front, same⟩ := List.isSuffixOf_iff_suffix.mp ends
        have shorter : (front ++ ['=']) ++ ['='] = body ++ ['='] := by
          rw [← same, List.append_assoc]
          rfl
        apply clear
        rw [← List.append_cancel_right shorter]
        exact List.mem_append_right _ List.mem_cons_self
      have one : ['='].isSuffixOf (body ++ ['=']) = true :=
        List.isSuffixOf_iff_suffix.mpr (List.suffix_append body ['='])
      rw [List.replicate_one, if_neg two, if_pos one, List.dropLast_concat]
  | 2, _ =>
      have two : ['=', '='].isSuffixOf (body ++ ['=', '=']) = true :=
        List.isSuffixOf_iff_suffix.mpr (List.suffix_append body ['=', '='])
      have shape : body ++ ['=', '='] = (body ++ ['=']) ++ ['='] := by
        rw [List.append_assoc]
        rfl
      change (if ['=', '='].isSuffixOf (body ++ ['=', '=']) = true then
        (body ++ ['=', '=']).dropLast.dropLast else _) = _
      rw [if_pos two, shape, List.dropLast_concat, List.dropLast_concat]

theorem dropPadding_of_not_mem {text : List Char} (clear : '=' ∉ text) : dropPadding text = text := by
  have ends {signs : List Char} (sign : '=' ∈ signs) : ¬signs.isSuffixOf text = true := fun behind =>
    clear ((List.isSuffixOf_iff_suffix.mp behind).subset sign)
  unfold dropPadding
  split
  · rfl
  · rw [if_neg (ends List.mem_cons_self), if_neg (ends List.mem_cons_self)]

theorem mem_dropPadding {text : List Char} {c : Char} (member : c ∈ text) (sign : c ≠ '=') :
    c ∈ dropPadding text := by
  have last {text front : List Char} (member : c ∈ text) (ends : text = front ++ ['=']) :
      c ∈ text.dropLast := by
    rw [ends, List.mem_append, List.mem_singleton] at member
    rw [ends, List.dropLast_concat]
    exact member.resolve_right sign
  unfold dropPadding
  split
  · exact member
  · split
    · rename_i two
      obtain ⟨front, same⟩ := List.isSuffixOf_iff_suffix.mp two
      have outer : text = (front ++ ['=']) ++ ['='] := by
        rw [List.append_assoc]
        exact same.symm
      apply last (last member outer)
      rw [outer, List.dropLast_concat]
    · split
      · rename_i one
        obtain ⟨front, same⟩ := List.isSuffixOf_iff_suffix.mp one
        exact last member same.symm
      · exact member

theorem isAsciiSpace_of_isLetter {c : Char} (letter : Base64.isLetter c = true) :
    (!isAsciiSpace c) = true := by
  by_contra space
  rw [Bool.not_eq_true', Bool.not_eq_false] at space
  simp only [isAsciiSpace, Bool.or_eq_true, beq_iff_eq] at space
  obtain (((rfl | rfl) | rfl) | rfl) | rfl := space
  all_goals exact absurd letter (by decide)

theorem forgivingDecode_btoa (bytes : List UInt8) : forgivingDecode (btoa bytes) = some bytes := by
  obtain ⟨values, pad, written, small, read, few, whole⟩ := Base64.encode_eq bytes
  have solid : (btoa bytes).filter (fun c => !isAsciiSpace c) = btoa bytes := by
    rw [List.filter_eq_self]
    intro c member
    exact isAsciiSpace_of_isLetter (Base64.isLetter_of_mem_encode member)
  have clear : '=' ∉ values.map Base64.letter := by
    intro member
    obtain ⟨value, inside, same⟩ := List.mem_map.mp member
    exact Base64.letter_ne value (small value inside) same
  rw [forgivingDecode, solid, btoa, written, dropPadding_append clear few (by
    rw [List.length_map]
    exact whole), Base64.decodeLetters_letters small (by omega), read]

end Binary

section Visible

/-- ASCII without white space, controls and the number sign. -/
def isVisible (c : Char) : Bool := 33 ≤ c.toNat && c.toNat ≤ 126 && c != '#'

theorem isVisible_ne_hash {c : Char} (visible : isVisible c = true) : c ≠ '#' := by
  rw [isVisible, Bool.and_eq_true, bne_iff_ne] at visible
  exact visible.2

private theorem textSpace_of_isVisible {c : Char} (visible : isVisible c = true) :
    Text.isWhitespace c = false := by
  simp only [isVisible, Bool.and_eq_true, decide_eq_true_eq] at visible
  simp only [Text.isWhitespace, Bool.or_eq_false_iff, Bool.and_eq_false_iff,
    decide_eq_false_iff_not, beq_eq_false_iff_ne]
  omega

theorem isWhitespace_of_isVisible {c : Char} (visible : isVisible c = true) :
    Kotlin.isWhitespace c = false := by
  have plain := textSpace_of_isVisible visible
  simp only [isVisible, Bool.and_eq_true, decide_eq_true_eq] at visible
  rw [Kotlin.isWhitespace, plain, Bool.false_and, Bool.false_or, Bool.and_eq_false_iff,
    decide_eq_false_iff_not, decide_eq_false_iff_not]
  omega

theorem isJsSpace_of_isVisible {c : Char} (visible : isVisible c = true) :
    Text.isJsSpace c = false := by
  have marked : c ≠ '\ufeff' := by
    rintro rfl
    exact absurd visible (by decide)
  rw [Text.isJsSpace, textSpace_of_isVisible visible, Bool.false_and, Bool.or_false,
    beq_eq_false_iff_ne]
  exact marked

theorem isVisible_of_isAlphanum {c : Char} (letter : c.isAlphanum = true) : isVisible c = true := by
  have range := Base64.range_of_isAlphanum letter
  have other : c ≠ '#' := by
    rintro rfl
    exact absurd range.1 (by decide)
  rw [isVisible, decide_eq_true (by omega), decide_eq_true (by omega), bne_iff_ne.mpr other]
  rfl

theorem isVisible_of_isLetter {c : Char} (letter : Base64.isLetter c = true) :
    isVisible c = true := by
  simp only [Base64.isLetter, Bool.or_eq_true, beq_iff_eq] at letter
  obtain ((letter | rfl) | rfl) | rfl := letter
  · exact isVisible_of_isAlphanum letter
  · rfl
  · rfl
  · rfl

theorem isVisible_of_mem_btoa {bytes : List UInt8} {c : Char} (member : c ∈ btoa bytes) :
    isVisible c = true :=
  isVisible_of_isLetter (Base64.isLetter_of_mem_encode member)

end Visible

end MolidoVpn.JavaScript
