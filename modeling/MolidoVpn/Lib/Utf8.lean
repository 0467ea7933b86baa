import Mathlib.Data.List.Basic
import Mathlib.Data.UInt

/-!
UTF-8 over lists of bytes: the encoding of a text, and the lossy decoding that
puts the replacement character for each maximal ill-formed part. A text comes
back from its encoding.
-/

namespace MolidoVpn.Utf8

/-- `str::as_bytes` -/
def encode (text : List Char) : List UInt8 := text.flatMap String.utf8EncodeChar

/-- The character at the front, if the bytes begin with a well-formed one. -/
def decodeChar (bytes : List UInt8) : Option Char := bytes.toByteArray.utf8DecodeChar? 0

def isContinuation (byte : UInt8) : Bool := 0x80 ≤ byte && byte ≤ 0xBF

/-- Whether `second` can follow the first byte of a sequence of three or four. -/
def secondFits (first second : UInt8) : Bool :=
  if first = 0xE0 then 0xA0 ≤ second && second ≤ 0xBF
  else if first = 0xED then 0x80 ≤ second && second ≤ 0x9F
  else if 0xE1 ≤ first ∧ first ≤ 0xEF then isContinuation second
  else if first = 0xF0 then 0x90 ≤ second && second ≤ 0xBF
  else if 0xF1 ≤ first ∧ first ≤ 0xF3 then isContinuation second
  else if first = 0xF4 then 0x80 ≤ second && second ≤ 0x8F
  else false

/-- The length of the ill-formed part at the front; a byte that is missing fits nowhere. -/
def brokenLen (first : UInt8) (rest : List UInt8) : Nat :=
  if !secondFits first (rest.getD 0 0) then 1
  else if !isContinuation (rest.getD 1 0) then 2
  else 3

def replacement : Char := Char.ofNat 0xFFFD

/-- At most `turns` characters. -/
def lossyFor : Nat → List UInt8 → List Char
  | 0, _ => []
  | _ + 1, [] => []
  | turns + 1, first :: rest =>
      match decodeChar (first :: rest) with
      | some c => c :: lossyFor turns ((first :: rest).drop c.utf8Size)
      | none => replacement :: lossyFor turns ((first :: rest).drop (brokenLen first rest))

/-- `String::from_utf8_lossy`; every turn takes a byte. -/
def fromUtf8Lossy (bytes : List UInt8) : List Char := lossyFor bytes.length bytes

/-- The bytes are the encoding of a text. -/
def Valid (bytes : List UInt8) : Prop := ∃ text, encode text = bytes

@[simp]
theorem encode_nil : encode [] = [] := rfl

theorem encode_cons (c : Char) (text : List Char) :
    encode (c :: text) = String.utf8EncodeChar c ++ encode text := List.flatMap_cons

/-- The bytes of the text that is made of the bytes. -/
def repaired (bytes : List UInt8) : List UInt8 := encode (fromUtf8Lossy bytes)

theorem encode_append (text more : List Char) :
    encode (text ++ more) = encode text ++ encode more := List.flatMap_append

theorem decodeChar_encode (c : Char) (rest : List UInt8) :
    decodeChar (String.utf8EncodeChar c ++ rest) = some c := by
  rw [decodeChar, List.toByteArray_append]
  exact ByteArray.utf8DecodeChar?_utf8EncodeChar_append

theorem drop_encodeChar (c : Char) (rest : List UInt8) :
    (String.utf8EncodeChar c ++ rest).drop c.utf8Size = rest := by
  rw [← String.length_utf8EncodeChar c, List.drop_left]

private theorem lossyFor_encode {turns : Nat} {text : List Char}
    (enough : (encode text).length ≤ turns) : lossyFor turns (encode text) = text := by
  induction text generalizing turns with
  | nil => cases turns <;> rfl
  | cons c text ih =>
      have sized := c.utf8Size_pos
      rw [encode_cons, List.length_append, String.length_utf8EncodeChar] at enough
      cases turns with
      | zero => omega
      | succ turns =>
          have front := decodeChar_encode c (encode text)
          have behind := drop_encodeChar c (encode text)
          rw [encode_cons]
          cases bytes : String.utf8EncodeChar c ++ encode text with
          | nil =>
              have length := congrArg List.length bytes
              rw [List.length_append, String.length_utf8EncodeChar, List.length_nil] at length
              omega
          | cons first rest =>
              rw [bytes] at front behind
              rw [lossyFor]
              simp only [front, behind]
              rw [ih (by omega)]

/-- A text comes back from its encoding. -/
theorem fromUtf8Lossy_encode (text : List Char) : fromUtf8Lossy (encode text) = text :=
  lossyFor_encode (Nat.le_refl _)

/-- The lossy decoding loses nothing exactly on encodings. -/
theorem encode_fromUtf8Lossy_iff (bytes : List UInt8) :
    encode (fromUtf8Lossy bytes) = bytes ↔ Valid bytes := by
  constructor
  · exact fun same => ⟨_, same⟩
  · rintro ⟨text, rfl⟩
    rw [fromUtf8Lossy_encode]

theorem Valid.repaired {bytes : List UInt8} (valid : Valid bytes) : repaired bytes = bytes :=
  (encode_fromUtf8Lossy_iff bytes).mpr valid

theorem valid_repaired (bytes : List UInt8) : Valid (repaired bytes) := ⟨fromUtf8Lossy bytes, rfl⟩

private theorem high_of_or (byte : UInt8) {mark : UInt8} (high : 128 ≤ mark.toNat) :
    128 ≤ (byte ||| mark).toNat := by
  rw [UInt8.toNat_or]
  exact high.trans Nat.right_le_or

/-- The bytes of a character beyond ASCII are all 128 or more. -/
private theorem high_of_long {c : Char} {byte : UInt8} (long : c.utf8Size ≠ 1)
    (member : byte ∈ String.utf8EncodeChar c) : 128 ≤ byte.toNat := by
  rcases c.utf8Size_eq with one | two | three | four
  · exact absurd one long
  · rw [String.utf8EncodeChar_eq_cons_cons two] at member
    rcases List.mem_cons.mp member with rfl | last
    · exact high_of_or _ (by decide)
    · rw [List.mem_singleton.mp last]
      exact high_of_or _ (by decide)
  · rw [String.utf8EncodeChar_eq_cons_cons_cons three] at member
    simp only [List.mem_cons, List.not_mem_nil, or_false] at member
    rcases member with rfl | rfl | rfl <;> exact high_of_or _ (by decide)
  · rw [String.utf8EncodeChar_eq_cons_cons_cons_cons four] at member
    simp only [List.mem_cons, List.not_mem_nil, or_false] at member
    rcases member with rfl | rfl | rfl | rfl <;> exact high_of_or _ (by decide)

theorem encodeChar_ascii {c : Char} (ascii : c.toNat < 128) :
    String.utf8EncodeChar c = [UInt8.ofNat c.toNat] := by
  have small : c.val ≤ 127 := by
    rw [UInt32.le_iff_toNat_le]
    exact Nat.le_of_lt_succ ascii
  rw [String.utf8EncodeChar_eq_singleton (Char.utf8Size_eq_one_iff.mpr small)]
  rfl

theorem encode_ascii {text : List Char} (ascii : ∀ c ∈ text, c.toNat < 128) :
    encode text = text.map fun c => UInt8.ofNat c.toNat := by
  induction text with
  | nil => rfl
  | cons c text ih =>
      rw [encode_cons, encodeChar_ascii (ascii c List.mem_cons_self),
        ih fun other member => ascii other (List.mem_cons_of_mem c member)]
      rfl

/-- A byte below 128 is the encoding of a character of its own. -/
theorem mem_of_ascii {text : List Char} {byte : UInt8} (member : byte ∈ encode text)
    (ascii : byte.toNat < 128) : Char.ofNat byte.toNat ∈ text := by
  obtain ⟨c, there, part⟩ := List.mem_flatMap.mp member
  by_cases short : c.utf8Size = 1
  · have small : c.toNat < 128 := by
      have bound := Char.utf8Size_eq_one_iff.mp short
      rw [UInt32.le_iff_toNat_le] at bound
      exact Nat.lt_succ_of_le bound
    rw [encodeChar_ascii small] at part
    have same : byte.toNat = c.toNat := by
      rw [List.mem_singleton.mp part, UInt8.toNat_ofNat']
      omega
    rw [same, Char.ofNat_toNat]
    exact there
  · have high := high_of_long short part
    omega

/-- A text whose bytes begin with one below 128 begins with its character. -/
theorem exists_of_encode_cons {text : List Char} {byte : UInt8} {rest : List UInt8}
    (same : encode text = byte :: rest) (ascii : byte.toNat < 128) :
    ∃ c more, text = c :: more ∧ String.utf8EncodeChar c = [byte] ∧ encode more = rest := by
  cases text with
  | nil => cases same
  | cons c more =>
      refine ⟨c, more, rfl, ?_⟩
      rw [encode_cons] at same
      cases bytes : String.utf8EncodeChar c with
      | nil =>
          have length := congrArg List.length bytes
          have sized := c.utf8Size_pos
          rw [String.length_utf8EncodeChar, List.length_nil] at length
          omega
      | cons first others =>
          rw [bytes, List.cons_append, List.cons.injEq] at same
          obtain ⟨rfl, behind⟩ := same
          have short : c.utf8Size = 1 := by
            by_contra long
            have high : 128 ≤ first.toNat := high_of_long long (by rw [bytes]; exact List.mem_cons_self)
            omega
          have single : others = [] := by
            have length := congrArg List.length bytes
            rw [String.length_utf8EncodeChar, short, List.length_cons] at length
            exact List.eq_nil_of_length_eq_zero (by omega)
          rw [single] at behind ⊢
          exact ⟨rfl, behind⟩

theorem encodeChar_inj {c d : Char} (same : String.utf8EncodeChar c = String.utf8EncodeChar d) :
    c = d := by
  have one := decodeChar_encode c []
  rw [same, decodeChar_encode] at one
  exact (Option.some.inj one).symm

/-- A character that is read stands in front, in its encoding. -/
theorem decodeChar_some {bytes : List UInt8} {c : Char} (read : decodeChar bytes = some c) :
    ∃ rest, bytes = String.utf8EncodeChar c ++ rest := by
  obtain ⟨rest, whole⟩ := ByteArray.exists_of_utf8DecodeChar?_eq_some read
  refine ⟨rest.data.toList, ?_⟩
  have lists := congrArg (fun b : ByteArray => b.data.toList) whole
  simp only [ByteArray.data_append, List.data_toByteArray, Array.toList_append] at lists
  exact lists

section Ascii

variable {first byte : UInt8} {rest more : List UInt8}

theorem brokenLen_pos (first : UInt8) (rest : List UInt8) : 0 < brokenLen first rest := by
  unfold brokenLen
  split
  · exact Nat.one_pos
  · split <;> exact Nat.succ_pos _

private theorem lossyFor_enough {turns other : Nat} {bytes : List UInt8}
    (enough : bytes.length ≤ turns) (enough' : bytes.length ≤ other) :
    lossyFor turns bytes = lossyFor other bytes := by
  induction turns generalizing other bytes with
  | zero =>
      obtain rfl := List.eq_nil_of_length_eq_zero (Nat.le_zero.mp enough)
      cases other <;> rfl
  | succ turns ih =>
      cases bytes with
      | nil => cases other <;> rfl
      | cons first rest =>
          cases other with
          | zero => exact absurd enough' (Nat.not_succ_le_zero _)
          | succ other =>
              have shorter {taken : Nat} (some_ : 0 < taken) {most : Nat}
                  (fits : (first :: rest).length ≤ most + 1) :
                  ((first :: rest).drop taken).length ≤ most := by
                rw [List.length_drop]
                omega
              rw [lossyFor, lossyFor]
              cases decodeChar (first :: rest) with
              | some c =>
                  exact congrArg _ (ih (shorter c.utf8Size_pos enough)
                    (shorter c.utf8Size_pos enough'))
              | none =>
                  exact congrArg _ (ih (shorter (brokenLen_pos first rest) enough)
                    (shorter (brokenLen_pos first rest) enough'))

@[simp]
theorem fromUtf8Lossy_nil : fromUtf8Lossy [] = [] := rfl

theorem fromUtf8Lossy_cons (first : UInt8) (rest : List UInt8) :
    fromUtf8Lossy (first :: rest) =
      match decodeChar (first :: rest) with
      | some c => c :: fromUtf8Lossy ((first :: rest).drop c.utf8Size)
      | none => replacement :: fromUtf8Lossy ((first :: rest).drop (brokenLen first rest)) := by
  have shorter {taken : Nat} (some_ : 0 < taken) :
      ((first :: rest).drop taken).length ≤ rest.length := by
    rw [List.length_drop, List.length_cons]
    omega
  rw [fromUtf8Lossy, List.length_cons, lossyFor]
  cases decodeChar (first :: rest) with
  | some c => exact congrArg _ (lossyFor_enough (shorter c.utf8Size_pos) (Nat.le_refl _))
  | none =>
      exact congrArg _ (lossyFor_enough (shorter (brokenLen_pos first rest)) (Nat.le_refl _))

theorem fromUtf8Lossy_append_encode (c : Char) (bytes : List UInt8) :
    fromUtf8Lossy (String.utf8EncodeChar c ++ bytes) = c :: fromUtf8Lossy bytes := by
  cases whole : String.utf8EncodeChar c ++ bytes with
  | nil =>
      have length := congrArg List.length whole
      have sized := c.utf8Size_pos
      rw [List.length_append, String.length_utf8EncodeChar, List.length_nil] at length
      omega
  | cons first rest =>
      rw [fromUtf8Lossy_cons, ← whole, decodeChar_encode]
      simp only
      rw [drop_encodeChar]

theorem fromUtf8Lossy_encode_append (text : List Char) (bytes : List UInt8) :
    fromUtf8Lossy (encode text ++ bytes) = text ++ fromUtf8Lossy bytes := by
  induction text with
  | nil => rfl
  | cons c text ih =>
      rw [encode_cons, List.append_assoc, fromUtf8Lossy_append_encode, ih]
      rfl

/-- No sequence goes on with a byte below 128. -/
private theorem secondFits_ascii (first : UInt8) (ascii : byte.toNat < 128) :
    secondFits first byte = false := by
  have below {low high : UInt8} (large : 128 ≤ low.toNat) :
      (decide (low ≤ byte) && decide (byte ≤ high)) = false := by
    rw [Bool.and_eq_false_iff, decide_eq_false_iff_not, UInt8.le_iff_toNat_le]
    omega
  unfold secondFits isContinuation
  split
  · exact below (by decide)
  · split
    · exact below (by decide)
    · split
      · exact below (by decide)
      · split
        · exact below (by decide)
        · split
          · exact below (by decide)
          · split
            · exact below (by decide)
            · rfl

theorem isContinuation_ascii (ascii : byte.toNat < 128) : isContinuation byte = false := by
  rw [isContinuation, Bool.and_eq_false_iff, decide_eq_false_iff_not, UInt8.le_iff_toNat_le]
  have low : (0x80 : UInt8).toNat = 128 := rfl
  omega

/-- An ill-formed part ends before a byte below 128. -/
private theorem brokenLen_ascii (first : UInt8) (rest more : List UInt8)
    (ascii : byte.toNat < 128) :
    brokenLen first (rest ++ byte :: more) = brokenLen first rest ∧
      brokenLen first rest ≤ (first :: rest).length := by
  have none_ : secondFits first 0 = false := secondFits_ascii first (by decide)
  unfold brokenLen
  cases rest with
  | nil =>
      simp only [List.nil_append, List.getD_cons_zero, secondFits_ascii first ascii,
        List.getD_nil, none_, Bool.not_false, if_true, List.length_cons, List.length_nil]
      exact ⟨trivial, Nat.le_refl _⟩
  | cons second rest =>
      simp only [List.cons_append, List.getD_cons_zero, List.getD_cons_succ]
      cases secondFits first second with
      | false =>
          simp only [Bool.not_false, if_true, List.length_cons]
          exact ⟨trivial, by omega⟩
      | true =>
          cases rest with
          | nil =>
              have absent : isContinuation 0 = false := rfl
              simp only [List.nil_append, List.getD_cons_zero, isContinuation_ascii ascii,
                List.getD_nil, absent, Bool.not_true, Bool.not_false, if_true, Bool.false_eq_true,
                if_false, List.length_cons, List.length_nil]
              exact ⟨trivial, Nat.le_refl _⟩
          | cons third rest =>
              simp only [List.cons_append, List.getD_cons_zero, List.length_cons]
              refine ⟨trivial, ?_⟩
              split
              · omega
              · split <;> omega

/-- A character that is not there without the byte is not there with it. -/
private theorem decodeChar_none_append (more : List UInt8) (ascii : byte.toNat < 128)
    (none_ : decodeChar (first :: rest) = none) :
    decodeChar (first :: rest ++ byte :: more) = none := by
  cases read : decodeChar (first :: rest ++ byte :: more) with
  | none => rfl
  | some c =>
      obtain ⟨tail, whole⟩ := decodeChar_some read
      have front : String.utf8EncodeChar c <+: first :: rest ++ byte :: more := ⟨tail, whole.symm⟩
      by_cases fits : c.utf8Size ≤ (first :: rest).length
      · have inside : String.utf8EncodeChar c <+: first :: rest := by
          refine List.prefix_of_prefix_length_le front (List.prefix_append _ _) ?_
          rw [String.length_utf8EncodeChar]
          exact fits
        obtain ⟨behind, same⟩ := inside
        rw [← same, decodeChar_encode] at none_
        cases none_
      · have inside : first :: rest ++ [byte] <+: String.utf8EncodeChar c := by
          refine List.prefix_of_prefix_length_le ?_ front ?_
          · exact ⟨more, by rw [List.append_assoc, List.singleton_append]⟩
          · rw [String.length_utf8EncodeChar, List.length_append, List.length_singleton]
            omega
        have long : c.utf8Size ≠ 1 := by
          rw [List.length_cons] at fits
          omega
        have member : byte ∈ String.utf8EncodeChar c :=
          inside.subset (List.mem_append_right _ (List.mem_singleton_self byte))
        have high := high_of_long long member
        omega

theorem toNat_ofNat_byte (ascii : byte.toNat < 128) :
    (Char.ofNat byte.toNat).toNat = byte.toNat := by
  have small : byte.toNat.isValidChar := Or.inl (by omega)
  have named : Char.ofNat byte.toNat = Char.ofNatAux byte.toNat small := dif_pos small
  rw [named]
  rfl

theorem encodeChar_byte (ascii : byte.toNat < 128) :
    String.utf8EncodeChar (Char.ofNat byte.toNat) = [byte] := by
  rw [encodeChar_ascii (by rw [toNat_ofNat_byte ascii]; exact ascii), toNat_ofNat_byte ascii,
    UInt8.ofNat_toNat]

/-- A byte below 128 stands for itself, whatever is around it. -/
theorem fromUtf8Lossy_append_ascii (bytes more : List UInt8) (ascii : byte.toNat < 128) :
    fromUtf8Lossy (bytes ++ byte :: more) =
      fromUtf8Lossy bytes ++ Char.ofNat byte.toNat :: fromUtf8Lossy more := by
  induction length : bytes.length using Nat.strongRecOn generalizing bytes with
  | ind size ih =>
      cases bytes with
      | nil =>
          have whole := fromUtf8Lossy_append_encode (Char.ofNat byte.toNat) more
          rw [encodeChar_byte ascii] at whole
          exact whole
      | cons first rest =>
          cases read : decodeChar (first :: rest) with
          | some c =>
              obtain ⟨tail, whole⟩ := decodeChar_some read
              have shorter : tail.length < size := by
                rw [← length, whole, List.length_append, String.length_utf8EncodeChar]
                have := c.utf8Size_pos
                omega
              rw [whole, List.append_assoc, fromUtf8Lossy_append_encode,
                fromUtf8Lossy_append_encode, ih tail.length shorter tail rfl]
              rfl
          | none =>
              have still := decodeChar_none_append more ascii read
              obtain ⟨same, fits⟩ := brokenLen_ascii first rest more ascii
              rw [List.cons_append] at still
              rw [List.cons_append, fromUtf8Lossy_cons, fromUtf8Lossy_cons, still, read]
              simp only
              rw [same, ← List.cons_append, List.drop_append_of_le_length fits]
              have shorter : ((first :: rest).drop (brokenLen first rest)).length < size := by
                rw [List.length_drop, length]
                have := brokenLen_pos first rest
                rw [List.length_cons] at length
                omega
              rw [ih _ shorter _ rfl]
              rfl

theorem repaired_append_ascii (bytes more : List UInt8) (ascii : byte.toNat < 128) :
    repaired (bytes ++ byte :: more) = repaired bytes ++ byte :: repaired more := by
  rw [repaired, fromUtf8Lossy_append_ascii bytes more ascii, encode_append, encode_cons,
    encodeChar_byte ascii]
  rfl

/-- A character of ASCII in the text is a byte of the input. -/
theorem mem_of_fromUtf8Lossy {bytes : List UInt8} (ascii : byte.toNat < 128)
    (member : Char.ofNat byte.toNat ∈ fromUtf8Lossy bytes) : byte ∈ bytes := by
  induction length : bytes.length using Nat.strongRecOn generalizing bytes with
  | ind size ih =>
      cases bytes with
      | nil => cases member
      | cons first rest =>
          have later {taken : Nat} (some_ : 0 < taken)
              (there : Char.ofNat byte.toNat ∈ fromUtf8Lossy ((first :: rest).drop taken)) :
              byte ∈ first :: rest := by
            refine List.mem_of_mem_drop (ih _ ?_ there rfl)
            rw [← length, List.length_drop, List.length_cons]
            omega
          rw [fromUtf8Lossy_cons] at member
          cases read : decodeChar (first :: rest) with
          | some c =>
              rw [read] at member
              rcases List.mem_cons.mp member with same | there
              · obtain ⟨tail, whole⟩ := decodeChar_some read
                rw [whole, ← same, encodeChar_byte ascii]
                exact List.mem_cons_self
              · exact later c.utf8Size_pos there
          | none =>
              rw [read] at member
              rcases List.mem_cons.mp member with same | there
              · have codes := congrArg Char.toNat same
                rw [toNat_ofNat_byte ascii, show replacement.toNat = 0xFFFD from rfl] at codes
                omega
              · exact later (brokenLen_pos first rest) there

theorem mem_of_repaired {bytes : List UInt8} (ascii : byte.toNat < 128)
    (member : byte ∈ repaired bytes) : byte ∈ bytes :=
  mem_of_fromUtf8Lossy ascii (mem_of_ascii member ascii)

/-- The lossy decoding neither drops nor makes up characters of ASCII. -/
theorem count_fromUtf8Lossy (ascii : byte.toNat < 128) (bytes : List UInt8) :
    (fromUtf8Lossy bytes).count (Char.ofNat byte.toNat) = bytes.count byte := by
  induction length : bytes.length using Nat.strongRecOn generalizing bytes with
  | ind size ih =>
      by_cases member : byte ∈ bytes
      · obtain ⟨front, behind, rfl⟩ := List.append_of_mem member
        rw [List.length_append, List.length_cons] at length
        rw [fromUtf8Lossy_append_ascii front behind ascii, List.count_append, List.count_append,
          List.count_cons_self, List.count_cons_self, ih _ (by omega) front rfl,
          ih _ (by omega) behind rfl]
      · rw [List.count_eq_zero.mpr member, List.count_eq_zero]
        exact fun there => member (mem_of_fromUtf8Lossy ascii there)

theorem count_encode (ascii : byte.toNat < 128) (text : List Char) :
    (encode text).count byte = text.count (Char.ofNat byte.toNat) := by
  rw [← count_fromUtf8Lossy ascii, fromUtf8Lossy_encode]

theorem fromUtf8Lossy_ne_nil {bytes : List UInt8} (nonempty : bytes ≠ []) :
    fromUtf8Lossy bytes ≠ [] := by
  cases bytes with
  | nil => exact absurd rfl nonempty
  | cons first rest =>
      rw [fromUtf8Lossy_cons]
      cases decodeChar (first :: rest) with
      | some c => exact List.cons_ne_nil _ _
      | none => exact List.cons_ne_nil _ _

/-- A text ends with a character of ASCII only where its bytes end with it. -/
theorem ends_of_fromUtf8Lossy {bytes : List UInt8} {text : List Char} (ascii : byte.toNat < 128)
    (ends : fromUtf8Lossy bytes = text ++ [Char.ofNat byte.toNat]) :
    ∃ front, bytes = front ++ [byte] := by
  have member : byte ∈ bytes := by
    apply mem_of_fromUtf8Lossy ascii
    rw [ends]
    exact List.mem_append_right _ List.mem_cons_self
  obtain ⟨after, before, reversed, clear⟩ :=
    List.eq_append_cons_of_mem (List.mem_reverse.mpr member)
  have whole : bytes = before.reverse ++ byte :: after.reverse := by
    rw [← List.reverse_reverse bytes, reversed, List.reverse_append, List.reverse_cons,
      List.append_assoc]
    rfl
  refine ⟨before.reverse, ?_⟩
  have nothing : after.reverse = [] := by
    by_contra nonempty
    have more := fromUtf8Lossy_ne_nil nonempty
    rw [whole, fromUtf8Lossy_append_ascii _ _ ascii] at ends
    have last := congrArg List.getLast? ends
    rw [List.getLast?_concat, List.getLast?_append_cons, List.getLast?_cons,
      List.getLast?_eq_some_getLast more] at last
    apply clear
    apply List.mem_reverse.mp
    apply mem_of_fromUtf8Lossy ascii
    rw [← Option.some.inj last]
    exact List.getLast_mem more
  rw [whole, nothing]

end Ascii

section Boundaries

variable {bytes front behind : List UInt8} {byte : UInt8} {place : Nat}

/-- `str::is_char_boundary` -/
def isCharBoundary (bytes : List UInt8) (place : Nat) : Bool :=
  place == 0 ||
    match bytes[place]? with
    | some byte => !isContinuation byte
    | none => place == bytes.length

theorem Valid.append (first : Valid front) (second : Valid behind) : Valid (front ++ behind) := by
  obtain ⟨text, rfl⟩ := first
  obtain ⟨more, rfl⟩ := second
  exact ⟨text ++ more, encode_append text more⟩

private theorem isContinuation_low (byte : UInt8) :
    isContinuation (byte &&& 0x3F ||| 0x80) = true := by
  have every : ∀ low : Fin 64, isContinuation (UInt8.ofNat low.val ||| 0x80) = true := by decide
  have small : (byte &&& 0x3F).toNat < 64 := by
    rw [UInt8.toNat_and]
    exact Nat.lt_succ_of_le Nat.and_le_right
  have taken := every ⟨(byte &&& 0x3F).toNat, small⟩
  rw [UInt8.ofNat_toNat] at taken
  exact taken

private theorem not_isContinuation_mark (byte : UInt8) {mark : UInt8} (high : 0xC0 ≤ mark.toNat) :
    isContinuation (byte ||| mark) = false := by
  have large : mark.toNat ≤ (byte ||| mark).toNat := by
    rw [UInt8.toNat_or]
    exact Nat.right_le_or
  rw [isContinuation, Bool.and_eq_false_iff, decide_eq_false_iff_not, decide_eq_false_iff_not,
    UInt8.le_iff_toNat_le, UInt8.le_iff_toNat_le, show (0xBF : UInt8).toNat = 191 from rfl]
  omega

/-- Of the bytes of a character all but the first continue it. -/
theorem encodeChar_parts (c : Char) :
    ∃ first rest, String.utf8EncodeChar c = first :: rest ∧ isContinuation first = false ∧
      ∀ byte ∈ rest, isContinuation byte = true := by
  rcases c.utf8Size_eq with one | two | three | four
  · have small : c.toNat < 128 := by
      have bound := Char.utf8Size_eq_one_iff.mp one
      rw [UInt32.le_iff_toNat_le] at bound
      exact Nat.lt_succ_of_le bound
    refine ⟨_, [], encodeChar_ascii small, isContinuation_ascii ?_, fun _ impossible => ?_⟩
    · rw [UInt8.toNat_ofNat']
      omega
    · cases impossible
  · refine ⟨_, _, String.utf8EncodeChar_eq_cons_cons two, not_isContinuation_mark _ (by decide), ?_⟩
    intro byte member
    rw [List.mem_singleton.mp member]
    exact isContinuation_low _
  · refine ⟨_, _, String.utf8EncodeChar_eq_cons_cons_cons three,
      not_isContinuation_mark _ (by decide), ?_⟩
    intro byte member
    simp only [List.mem_cons, List.not_mem_nil, or_false] at member
    rcases member with rfl | rfl <;> exact isContinuation_low _
  · refine ⟨_, _, String.utf8EncodeChar_eq_cons_cons_cons_cons four,
      not_isContinuation_mark _ (by decide), ?_⟩
    intro byte member
    simp only [List.mem_cons, List.not_mem_nil, or_false] at member
    rcases member with rfl | rfl | rfl <;> exact isContinuation_low _

/-- The boundaries of a text are the ends of its beginnings. -/
theorem isCharBoundary_encode_iff {text : List Char} :
    isCharBoundary (encode text) place = true ↔
      ∃ early late, text = early ++ late ∧ (encode early).length = place := by
  constructor
  · intro boundary
    induction text generalizing place with
    | nil =>
        cases place with
        | zero => exact ⟨[], [], rfl, rfl⟩
        | succ place => cases boundary
    | cons c text ih =>
        by_cases zero : place = 0
        · exact ⟨[], c :: text, rfl, zero.symm⟩
        · obtain ⟨first, rest, bytes, _, continues⟩ := encodeChar_parts c
          rw [encode_cons] at boundary
          by_cases inside : place < (String.utf8EncodeChar c).length
          · -- inside the bytes of the character
            obtain ⟨before, rfl⟩ := Nat.exists_eq_succ_of_ne_zero zero
            rw [bytes, List.length_cons, Nat.succ_lt_succ_iff] at inside
            rw [isCharBoundary, bytes, List.cons_append, List.getElem?_cons_succ,
              List.getElem?_append_left inside, List.getElem?_eq_getElem inside] at boundary
            simp only [continues _ (List.getElem_mem inside)] at boundary
            cases boundary
          · obtain ⟨behind, rfl⟩ := Nat.exists_eq_add_of_le (Nat.le_of_not_lt inside)
            have later : isCharBoundary (encode text) behind = true := by
              rw [isCharBoundary, List.getElem?_append_right (Nat.le_add_right _ _),
                Nat.add_sub_cancel_left, List.length_append] at boundary
              rw [isCharBoundary]
              cases there : (encode text)[behind]? with
              | none =>
                  simp only [there, Bool.or_eq_true, beq_iff_eq] at boundary ⊢
                  omega
              | some byte =>
                  simp only [there, Bool.or_eq_true, beq_iff_eq] at boundary ⊢
                  rcases boundary with start | other
                  · exact absurd start zero
                  · exact Or.inr other
            obtain ⟨early, late, rfl, length⟩ := ih later
            refine ⟨c :: early, late, rfl, ?_⟩
            rw [encode_cons, List.length_append, length]
  · rintro ⟨early, late, rfl, rfl⟩
    rw [isCharBoundary, encode_append, List.getElem?_append_right (Nat.le_refl _), Nat.sub_self]
    cases late with
    | nil =>
        simp only [encode_nil, List.getElem?_nil, List.append_nil, beq_self_eq_true, Bool.or_true]
    | cons c late =>
        obtain ⟨first, rest, bytes, starts, _⟩ := encodeChar_parts c
        rw [encode_cons, bytes, List.cons_append, List.getElem?_cons_zero]
        simp only [starts, Bool.not_false, Bool.or_true]

/-- A boundary cuts a text into two. -/
theorem isCharBoundary_append (first : Valid front) (second : Valid behind) :
    isCharBoundary (front ++ behind) front.length = true := by
  obtain ⟨early, rfl⟩ := first
  obtain ⟨late, rfl⟩ := second
  rw [← encode_append]
  exact isCharBoundary_encode_iff.mpr ⟨early, late, rfl, rfl⟩

theorem Valid.cut (valid : Valid bytes) (boundary : isCharBoundary bytes place = true) :
    place ≤ bytes.length ∧ Valid (bytes.take place) ∧ Valid (bytes.drop place) := by
  obtain ⟨text, rfl⟩ := valid
  obtain ⟨early, late, rfl, rfl⟩ := isCharBoundary_encode_iff.mp boundary
  rw [encode_append, List.take_left, List.drop_left, List.length_append]
  exact ⟨Nat.le_add_right _ _, ⟨early, rfl⟩, ⟨late, rfl⟩⟩

theorem isCharBoundary_drop {start more : Nat}
    (boundary : isCharBoundary bytes (start + more) = true) :
    isCharBoundary (bytes.drop start) more = true := by
  rw [isCharBoundary, List.getElem?_drop, List.length_drop]
  cases more with
  | zero => rfl
  | succ more =>
      rw [isCharBoundary] at boundary
      cases there : bytes[start + (more + 1)]? with
      | none =>
          simp only [there, Bool.or_eq_true, beq_iff_eq] at boundary ⊢
          omega
      | some byte =>
          simp only [there, Bool.or_eq_true, beq_iff_eq] at boundary ⊢
          exact boundary.imp_left fun zero => by omega

theorem Valid.between {start stop : Nat} (valid : Valid bytes) (ordered : start ≤ stop)
    (first : isCharBoundary bytes start = true) (second : isCharBoundary bytes stop = true) :
    Valid ((bytes.take stop).drop start) := by
  obtain ⟨size, rfl⟩ := Nat.exists_eq_add_of_le ordered
  rw [List.drop_take, Nat.add_sub_cancel_left]
  exact ((valid.cut first).2.2.cut (isCharBoundary_drop second)).2.1

/-- A text is cut before and behind a character of ASCII. -/
theorem Valid.around_ascii (valid : Valid (front ++ byte :: behind)) (ascii : byte.toNat < 128) :
    Valid front ∧ Valid behind := by
  have boundary : isCharBoundary (front ++ byte :: behind) front.length = true := by
    rw [isCharBoundary, List.getElem?_append_right (Nat.le_refl _), Nat.sub_self,
      List.getElem?_cons_zero]
    simp only [isContinuation_ascii ascii, Bool.not_false, Bool.or_true]
  obtain ⟨_, before, from_⟩ := valid.cut boundary
  rw [List.take_left] at before
  rw [List.drop_left] at from_
  refine ⟨before, ⟨fromUtf8Lossy behind, ?_⟩⟩
  have same := (encode_fromUtf8Lossy_iff _).mpr from_
  have cut := fromUtf8Lossy_append_ascii [] behind ascii
  rw [List.nil_append] at cut
  rw [cut, fromUtf8Lossy_nil, List.nil_append, encode_cons, encodeChar_byte ascii,
    List.singleton_append] at same
  exact (List.cons.inj same).2

end Boundaries

end MolidoVpn.Utf8
