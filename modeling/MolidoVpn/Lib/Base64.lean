import Mathlib.Data.List.Basic
import Mathlib.Data.UInt

/-!
Reading base64 with the standard and the URL-safe alphabet, and writing it with the standard
one: the text that is written holds nothing but the letters and the padding, and is read back.
-/

namespace MolidoVpn.Base64

/-- The six bits of a letter; the last two differ between the alphabets. -/
def sextet (urlSafe : Bool) (c : Char) : Option Nat :=
  if 'A' ≤ c ∧ c ≤ 'Z' then some (c.toNat - 65)
  else if 'a' ≤ c ∧ c ≤ 'z' then some (c.toNat - 71)
  else if '0' ≤ c ∧ c ≤ '9' then some (c.toNat + 4)
  else if c = (if urlSafe then '-' else '+') then some 62
  else if c = (if urlSafe then '_' else '/') then some 63
  else none

/-- Three bytes for four letters; bits that fill no byte are dropped. -/
def bytes : List Nat → List UInt8
  | a :: b :: c :: d :: rest =>
      (a * 4 + b / 16).toUInt8 :: (b % 16 * 16 + c / 4).toUInt8 :: (c % 4 * 64 + d).toUInt8 ::
        bytes rest
  | [a, b, c] => [(a * 4 + b / 16).toUInt8, (b % 16 * 16 + c / 4).toUInt8]
  | [a, b] => [(a * 4 + b / 16).toUInt8]
  | _ => []

/-- Line ends are passed over. -/
def unfolded (text : List Char) : List Char := text.filter fun c => c != '\n' && c != '\r'

def decodeLetters (urlSafe : Bool) (letters : List Char) : Option (List UInt8) :=
  if letters.length % 4 = 1 then none else (letters.mapM (sextet urlSafe)).map bytes

/-- Without padding. -/
def decodeRaw (urlSafe : Bool) (text : List Char) : Option (List UInt8) :=
  decodeLetters urlSafe (unfolded text)

/-- With padding, so that the letters and the padding fill groups of four. -/
def decodePadded (urlSafe : Bool) (folded : List Char) : Option (List UInt8) :=
  let text := unfolded folded
  let body := text.takeWhile (· != '=')
  let padding := text.drop body.length
  if padding.all (· == '=') && padding.length ≤ 2 && text.length % 4 = 0 then
    decodeLetters urlSafe body
  else none

section Encode

/-- The letter of the standard alphabet. -/
def letter (value : Nat) : Char :=
  if value < 26 then Char.ofNat (value + 65)
  else if value < 52 then Char.ofNat (value + 71)
  else if value < 62 then Char.ofNat (value - 4)
  else if value = 62 then '+'
  else '/'

/-- Four letters for three bytes, with padding. -/
def encode : List UInt8 → List Char
  | a :: b :: c :: rest =>
      letter (a.toNat / 4) :: letter (a.toNat % 4 * 16 + b.toNat / 16) ::
        letter (b.toNat % 16 * 4 + c.toNat / 64) :: letter (c.toNat % 64) :: encode rest
  | [a, b] =>
      [letter (a.toNat / 4), letter (a.toNat % 4 * 16 + b.toNat / 16),
        letter (b.toNat % 16 * 4), '=']
  | [a] => [letter (a.toNat / 4), letter (a.toNat % 4 * 16), '=', '=']
  | [] => []

def isLetter (c : Char) : Bool := c.isAlphanum || c == '+' || c == '/' || c == '='

theorem range_of_isAlphanum {c : Char} (letter : c.isAlphanum = true) :
    48 ≤ c.toNat ∧ c.toNat ≤ 122 := by
  have capital : c.isUpper = true → 65 ≤ c.toNat ∧ c.toNat ≤ 90 := by
    intro upper
    obtain ⟨least, most⟩ := of_decide_eq_true upper
    exact ⟨UInt32.le_iff_toNat_le.mp least, UInt32.le_iff_toNat_le.mp most⟩
  have small : c.isLower = true → 97 ≤ c.toNat ∧ c.toNat ≤ 122 := by
    intro lower
    obtain ⟨least, most⟩ := Bool.and_eq_true_iff.mp lower
    exact ⟨UInt32.le_iff_toNat_le.mp (of_decide_eq_true least),
      UInt32.le_iff_toNat_le.mp (of_decide_eq_true most)⟩
  have number : c.isDigit = true → 48 ≤ c.toNat ∧ c.toNat ≤ 57 := by
    intro digit
    obtain ⟨least, most⟩ := Bool.and_eq_true_iff.mp digit
    exact ⟨UInt32.le_iff_toNat_le.mp (of_decide_eq_true least),
      UInt32.le_iff_toNat_le.mp (of_decide_eq_true most)⟩
  rcases Bool.or_eq_true_iff.mp letter with alpha | digit
  · rcases Bool.or_eq_true_iff.mp alpha with upper | lower
    · have := capital upper
      omega
    · have := small lower
      omega
  · have := number digit
    omega

private theorem isLetter_letter_small : ∀ value < 62, isLetter (letter value) = true := by decide

theorem isLetter_letter (value : Nat) : isLetter (letter value) = true := by
  by_cases small : value < 62
  · exact isLetter_letter_small value small
  · rw [letter, if_neg (by omega), if_neg (by omega), if_neg small]
    split <;> rfl

theorem isLetter_of_mem_encode {bytes : List UInt8} {c : Char} (member : c ∈ encode bytes) :
    isLetter c = true := by
  induction bytes using encode.induct with
  | case1 a b c rest ih =>
      simp only [encode, List.mem_cons] at member
      rcases member with rfl | rfl | rfl | rfl | later
      · exact isLetter_letter _
      · exact isLetter_letter _
      · exact isLetter_letter _
      · exact isLetter_letter _
      · exact ih later
  | case2 a b =>
      simp only [encode, List.mem_cons, List.not_mem_nil, or_false] at member
      rcases member with rfl | rfl | rfl | rfl
      · exact isLetter_letter _
      · exact isLetter_letter _
      · exact isLetter_letter _
      · rfl
  | case3 a =>
      simp only [encode, List.mem_cons, List.not_mem_nil, or_false] at member
      rcases member with rfl | rfl | rfl | rfl
      · exact isLetter_letter _
      · exact isLetter_letter _
      · rfl
      · rfl
  | case4 => exact absurd member List.not_mem_nil

end Encode

section RoundTrip

theorem sextet_letter : ∀ value < 64, sextet false (letter value) = some value := by decide

theorem letter_ne : ∀ value < 64, letter value ≠ '=' := by decide

private theorem toUInt8_eq {value : Nat} (byte : UInt8) (same : value = byte.toNat) :
    value.toUInt8 = byte := by
  rw [same]
  exact UInt8.ofNat_toNat

/-- What is written is the letters of sextets that hold the bytes, and what fills the last four. -/
theorem encode_eq (bs : List UInt8) :
    ∃ values pad, encode bs = values.map letter ++ List.replicate pad '=' ∧
      (∀ value ∈ values, value < 64) ∧ bytes values = bs ∧ pad ≤ 2 ∧
      (values.length + pad) % 4 = 0 := by
  induction bs using encode.induct with
  | case1 a b c rest ih =>
      obtain ⟨values, pad, written, small, read, few, whole⟩ := ih
      have one := a.toNat_lt
      have two := b.toNat_lt
      have three := c.toNat_lt
      refine ⟨a.toNat / 4 :: (a.toNat % 4 * 16 + b.toNat / 16) ::
        (b.toNat % 16 * 4 + c.toNat / 64) :: c.toNat % 64 :: values, pad, ?_, ?_, ?_, few, ?_⟩
      · rw [encode, written]
        rfl
      · intro value member
        simp only [List.mem_cons] at member
        rcases member with rfl | rfl | rfl | rfl | later
        · omega
        · omega
        · omega
        · omega
        · exact small value later
      · rw [bytes, read, toUInt8_eq a (by omega), toUInt8_eq b (by omega),
          toUInt8_eq c (by omega)]
      · simp only [List.length_cons]
        omega
  | case2 a b =>
      have one := a.toNat_lt
      have two := b.toNat_lt
      refine ⟨[a.toNat / 4, a.toNat % 4 * 16 + b.toNat / 16, b.toNat % 16 * 4], 1, rfl, ?_, ?_,
        by decide, Nat.mod_self 4⟩
      · intro value member
        simp only [List.mem_cons, List.not_mem_nil, or_false] at member
        omega
      · rw [bytes, toUInt8_eq a (by omega), toUInt8_eq b (by omega)]
  | case3 a =>
      have one := a.toNat_lt
      refine ⟨[a.toNat / 4, a.toNat % 4 * 16], 2, rfl, ?_, ?_, by decide,
        Nat.mod_self 4⟩
      · intro value member
        simp only [List.mem_cons, List.not_mem_nil, or_false] at member
        omega
      · rw [bytes, toUInt8_eq a (by omega)]
  | case4 => exact ⟨[], 0, rfl, fun _ member => absurd member List.not_mem_nil, rfl, by decide, rfl⟩

theorem unfolded_encode (bs : List UInt8) : unfolded (encode bs) = encode bs := by
  rw [unfolded, List.filter_eq_self]
  intro c member
  have letter := isLetter_of_mem_encode member
  rw [Bool.and_eq_true, bne_iff_ne, bne_iff_ne]
  constructor
  · rintro rfl
    cases letter
  · rintro rfl
    cases letter

theorem decodeLetters_letters {values : List Nat} (small : ∀ value ∈ values, value < 64)
    (whole : values.length % 4 ≠ 1) :
    decodeLetters false (values.map letter) = some (bytes values) := by
  have each : ∀ {values : List Nat}, (∀ value ∈ values, value < 64) →
      (values.map letter).mapM (sextet false) = some values := by
    intro values small
    induction values with
    | nil => rfl
    | cons value values ih =>
        rw [List.map_cons, List.mapM_cons, sextet_letter value (small value List.mem_cons_self),
          ih fun other member => small other (List.mem_cons_of_mem _ member)]
        rfl
  rw [decodeLetters, List.length_map, if_neg whole, each small]
  rfl

/-- Nothing is read with a sign of no alphabet in it. -/
theorem decodeLetters_none {urlSafe : Bool} {letters : List Char} {c : Char}
    (member : c ∈ letters) (unread : sextet urlSafe c = none) :
    decodeLetters urlSafe letters = none := by
  have failed : letters.mapM (sextet urlSafe) = none := by
    induction letters with
    | nil => cases member
    | cons head letters ih =>
        rw [List.mapM_cons]
        rcases List.mem_cons.mp member with rfl | later
        · rw [unread]
          rfl
        · rw [ih later]
          cases sextet urlSafe head with
          | none => rfl
          | some value => rfl
  rw [decodeLetters, failed, Option.map_none, ite_self]

theorem decodePadded_encode (bs : List UInt8) : decodePadded false (encode bs) = some bs := by
  obtain ⟨values, pad, written, small, read, few, whole⟩ := encode_eq bs
  have body : (encode bs).takeWhile (· != '=') = values.map letter := by
    rw [written, List.takeWhile_append_of_pos, List.takeWhile_replicate]
    · exact List.append_nil _
    · intro c member
      obtain ⟨value, inside, rfl⟩ := List.mem_map.mp member
      exact bne_iff_ne.mpr (letter_ne value (small value inside))
  have padding : (encode bs).drop (values.map letter).length = List.replicate pad '=' := by
    rw [written, List.drop_left]
  have length : (encode bs).length = values.length + pad := by
    rw [written, List.length_append, List.length_map, List.length_replicate]
  have filled : (List.replicate pad '=').all (· == '=') = true := by
    rw [List.all_eq_true]
    intro c member
    exact beq_iff_eq.mpr (List.eq_of_mem_replicate member)
  unfold decodePadded
  rw [unfolded_encode]
  dsimp only
  rw [body, padding, filled, List.length_replicate, length, decide_eq_true few,
    decide_eq_true whole, decodeLetters_letters small (by omega), read]
  rfl

/-- Nothing but what is written is read: no line ends, no other padding, no bits that fill no
byte. -/
def decodeStandard (text : List Char) : Option (List UInt8) :=
  (decodePadded false text).filter fun bytes => encode bytes = text

theorem decodeStandard_encode (bs : List UInt8) : decodeStandard (encode bs) = some bs := by
  rw [decodeStandard, decodePadded_encode, Option.filter_some, decide_eq_true rfl]
  rfl

end RoundTrip

section Spellings

/-- The letters of the alphabet of URLs. -/
def urlLetter (c : Char) : Char := if c = '+' then '-' else if c = '/' then '_' else c

/-- The base64 of bytes with its padding and without, in the standard alphabet and in the one of
URLs. -/
def spellings (bytes : List UInt8) : List (List Char) :=
  let padded := encode bytes
  let bare := padded.filter (· != '=')
  [padded, bare, padded.map urlLetter, bare.map urlLetter]

private theorem isLetter_of_urlLetter {c : Char} (letter : isLetter c = true) :
    urlLetter c = '-' ∨ urlLetter c = '_' ∨ isLetter (urlLetter c) = true := by
  unfold urlLetter
  split
  · exact Or.inl rfl
  · split
    · exact Or.inr (Or.inl rfl)
    · exact Or.inr (Or.inr letter)

private theorem urlLetter_eq {c : Char} (dash : urlLetter c ≠ '-') (line : urlLetter c ≠ '_') :
    urlLetter c = c := by
  unfold urlLetter at dash line ⊢
  split at dash
  · exact absurd rfl dash
  · rename_i plus
    rw [if_neg plus] at line ⊢
    split at line
    · exact absurd rfl line
    · rename_i slash
      exact if_neg slash

theorem isLetter_of_spelling {bytes : List UInt8} {spelled : List Char} {c : Char}
    (spelling : spelled ∈ spellings bytes) (member : c ∈ spelled) :
    c = '-' ∨ c = '_' ∨ isLetter c = true := by
  simp only [spellings, List.mem_cons, List.not_mem_nil, or_false] at spelling
  rcases spelling with rfl | rfl | rfl | rfl
  · exact Or.inr (Or.inr (isLetter_of_mem_encode member))
  · exact Or.inr (Or.inr (isLetter_of_mem_encode (List.mem_filter.mp member).1))
  · obtain ⟨letter, inside, rfl⟩ := List.mem_map.mp member
    exact isLetter_of_urlLetter (isLetter_of_mem_encode inside)
  · obtain ⟨letter, inside, rfl⟩ := List.mem_map.mp member
    exact isLetter_of_urlLetter (isLetter_of_mem_encode (List.mem_filter.mp inside).1)

/-- Only the standard alphabet is left where the other one's two letters are not there. -/
theorem standard_of_spelling {bytes : List UInt8} {spelled : List Char}
    (spelling : spelled ∈ spellings bytes) (dash : '-' ∉ spelled) (line : '_' ∉ spelled) :
    spelled = encode bytes ∨ spelled = (encode bytes).filter (· != '=') := by
  have same {letters : List Char} (mapped : spelled = letters.map urlLetter) :
      spelled = letters := by
    rw [mapped]
    conv_rhs => rw [← List.map_id letters]
    apply List.map_congr_left
    intro c member
    have inside : urlLetter c ∈ spelled := mapped ▸ List.mem_map_of_mem member
    exact urlLetter_eq (fun here => dash (here ▸ inside)) (fun here => line (here ▸ inside))
  simp only [spellings, List.mem_cons, List.not_mem_nil, or_false] at spelling
  rcases spelling with padded | bare | padded | bare
  · exact Or.inl padded
  · exact Or.inr bare
  · exact Or.inl (same padded)
  · exact Or.inr (same bare)

end Spellings

end MolidoVpn.Base64
