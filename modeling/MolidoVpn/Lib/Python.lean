import MolidoVpn.Lib.Base64
import MolidoVpn.Lib.Text

/-!
Strings of Python, and what its `binascii` makes of base64: characters of no alphabet are passed
over, and nothing is read behind the padding.
-/

namespace MolidoVpn.Python

open Base64 (letter sextet)

section Strings

/-- `str.isspace` of one character -/
def isSpace (c : Char) : Bool :=
  Text.isWhitespace c || (0x1C ≤ c.toNat && c.toNat ≤ 0x1F)

/-- What ends a line for `str.splitlines`. -/
def isLineBreak (c : Char) : Bool :=
  (0x0A ≤ c.toNat && c.toNat ≤ 0x0D) || (0x1C ≤ c.toNat && c.toNat ≤ 0x1E) || c.toNat == 0x85 ||
    c.toNat == 0x2028 || c.toNat == 0x2029

/-- `str.strip` -/
def strip (text : List Char) : List Char := Text.strip isSpace text

/-- `"".join(text.split())` -/
def joinSplit (text : List Char) : List Char := text.filter fun c => !isSpace c

/-- The lines behind what is on a line already. A carriage return and a line feed end one line. -/
def linesFrom : List Char → List Char → List (List Char)
  | [], [] => []
  | first :: line, [] => [first :: line]
  | line, '\r' :: '\n' :: rest => line :: linesFrom [] rest
  | line, c :: rest =>
      if isLineBreak c then line :: linesFrom [] rest else linesFrom (line ++ [c]) rest

def splitlines (text : List Char) : List (List Char) := linesFrom [] text

theorem isSpace_of_isLineBreak {c : Char} (ends : isLineBreak c = true) : isSpace c = true := by
  simp only [isLineBreak, isSpace, Text.isWhitespace, Bool.or_eq_true, Bool.and_eq_true,
    decide_eq_true_eq, beq_iff_eq] at ends ⊢
  omega

theorem linesFrom_append {text : List Char} (clear : ∀ c ∈ text, isLineBreak c = false)
    (line rest : List Char) : linesFrom line (text ++ rest) = linesFrom (line ++ text) rest := by
  induction text generalizing line with
  | nil => rw [List.nil_append, List.append_nil]
  | cons c text ih =>
      have solid := clear c List.mem_cons_self
      have other : c ≠ '\r' := by
        rintro rfl
        cases solid
      rw [List.cons_append, linesFrom, solid, if_neg Bool.false_ne_true,
        ih fun other there => clear other (List.mem_cons_of_mem _ there), List.append_assoc]
      · rfl
      · intro rest same _
        exact other same

/-- A text on one line. -/
theorem splitlines_single {text : List Char} (clear : ∀ c ∈ text, isLineBreak c = false)
    (some_ : text ≠ []) : splitlines text = [text] := by
  have all := linesFrom_append clear [] []
  rw [List.append_nil, List.nil_append] at all
  rw [splitlines, all]
  cases text with
  | nil => exact absurd rfl some_
  | cons first rest => rfl

theorem infix_of_mem_linesFrom {found : List Char} (line text : List Char)
    (member : found ∈ linesFrom line text) : found <:+: line ++ text := by
  have behind {c : Char} (start rest : List Char) : rest <:+: start ++ c :: rest :=
    (List.infix_cons List.infix_rfl).trans (List.suffix_append start _).isInfix
  induction line, text using linesFrom.induct with
  | case1 => exact absurd member List.not_mem_nil
  | case2 first line =>
      rw [linesFrom, List.mem_singleton] at member
      rw [member, List.append_nil]
  | case3 line rest ih =>
      rw [linesFrom, List.mem_cons] at member
      rcases member with rfl | later
      · exact (List.prefix_append _ _).isInfix
      · exact (ih later).trans ((List.infix_cons List.infix_rfl).trans (behind line _))
  | case4 line c rest other ends ih =>
      rw [linesFrom, if_pos ends, List.mem_cons] at member
      · rcases member with rfl | later
        · exact (List.prefix_append _ _).isInfix
        · exact (ih later).trans (behind line rest)
      · exact other
  | case5 line c rest other solid ih =>
      rw [linesFrom, if_neg solid] at member
      · have inside := ih member
        rw [List.append_assoc] at inside
        exact inside
      · exact other

theorem infix_of_mem_splitlines {found text : List Char} (member : found ∈ splitlines text) :
    found <:+: text :=
  infix_of_mem_linesFrom [] text member

/-- Nothing but white space is lost between the lines. -/
theorem joinSplit_linesFrom (line text : List Char) :
    joinSplit (linesFrom line text).flatten = joinSplit (line ++ text) := by
  have dropped {c : Char} (ends : isLineBreak c = true) (before after : List Char) :
      joinSplit (before ++ c :: after) = joinSplit (before ++ after) := by
    unfold joinSplit
    rw [List.filter_append, List.filter_cons_of_neg, List.filter_append]
    rw [isSpace_of_isLineBreak ends]
    exact Bool.false_ne_true
  have apart (first : List Char) (lines : List (List Char)) :
      joinSplit (first :: lines).flatten = joinSplit first ++ joinSplit lines.flatten := by
    unfold joinSplit
    rw [List.flatten_cons, List.filter_append]
  induction line, text using linesFrom.induct with
  | case1 => rfl
  | case2 first line => rw [linesFrom, List.flatten_singleton, List.append_nil]
  | case3 line rest ih =>
      rw [linesFrom, apart, ih, dropped rfl, dropped rfl]
      exact (List.filter_append line rest).symm
  | case4 line c rest other ends ih =>
      rw [linesFrom, if_pos ends, apart, ih, dropped ends]
      · exact (List.filter_append line rest).symm
      · exact other
  | case5 line c rest other solid ih =>
      rw [linesFrom, if_neg solid, ih, List.append_assoc]
      · rfl
      · exact other

theorem joinSplit_splitlines (text : List Char) :
    joinSplit (splitlines text).flatten = joinSplit text :=
  joinSplit_linesFrom [] text

end Strings

section Base64

/-- The loop of `a2b_base64`: the place in the group of four, the bits that are left over and the
padding that has come. -/
def a2bFrom : Nat → Nat → Nat → List Char → Option (List UInt8)
  | place, _, _, [] => if place = 0 then some [] else none
  | place, bits, pads, c :: rest =>
      if c = '=' then
        if 2 ≤ place then
          if 4 ≤ place + (pads + 1) then some [] else a2bFrom place bits (pads + 1) rest
        else a2bFrom place bits pads rest
      else
        match sextet false c with
        | none => a2bFrom place bits pads rest
        | some value =>
            match place with
            | 0 => a2bFrom 1 value 0 rest
            | 1 => (a2bFrom 2 (value % 16) 0 rest).map ((bits * 4 + value / 16).toUInt8 :: ·)
            | 2 => (a2bFrom 3 (value % 4) 0 rest).map ((bits * 16 + value / 4).toUInt8 :: ·)
            | _ => (a2bFrom 0 0 0 rest).map ((bits * 64 + value).toUInt8 :: ·)

/-- Nothing where it raises, also for a text that is not ASCII. -/
def a2bBase64 (text : List Char) : Option (List UInt8) :=
  if text.all fun c => c.toNat < 128 then a2bFrom 0 0 0 text else none

section Letters

variable {first second third fourth : Nat} (rest : List Char)

private theorem a2bFrom_letter {value : Nat} (small : value < 64) (place bits pads : Nat) :
    a2bFrom place bits pads (letter value :: rest) =
      match place with
      | 0 => a2bFrom 1 value 0 rest
      | 1 => (a2bFrom 2 (value % 16) 0 rest).map ((bits * 4 + value / 16).toUInt8 :: ·)
      | 2 => (a2bFrom 3 (value % 4) 0 rest).map ((bits * 16 + value / 4).toUInt8 :: ·)
      | _ => (a2bFrom 0 0 0 rest).map ((bits * 64 + value).toUInt8 :: ·) := by
  rw [a2bFrom, if_neg (Base64.letter_ne value small), Base64.sextet_letter value small]

theorem a2bFrom_two (one : first < 64) (two : second < 64) :
    a2bFrom 0 0 0 (letter first :: letter second :: rest) =
      (a2bFrom 2 (second % 16) 0 rest).map ((first * 4 + second / 16).toUInt8 :: ·) := by
  rw [a2bFrom_letter _ one]
  exact a2bFrom_letter _ two 1 first 0

theorem a2bFrom_three (one : first < 64) (two : second < 64) (three : third < 64) :
    a2bFrom 0 0 0 (letter first :: letter second :: letter third :: rest) =
      (a2bFrom 3 (third % 4) 0 rest).map fun more =>
        (first * 4 + second / 16).toUInt8 :: (second % 16 * 16 + third / 4).toUInt8 :: more := by
  have last : a2bFrom 2 (second % 16) 0 (letter third :: rest) =
      (a2bFrom 3 (third % 4) 0 rest).map ((second % 16 * 16 + third / 4).toUInt8 :: ·) :=
    a2bFrom_letter _ three 2 _ 0
  rw [a2bFrom_two _ one two, last, Option.map_map]
  rfl

theorem a2bFrom_four (one : first < 64) (two : second < 64) (three : third < 64)
    (four : fourth < 64) :
    a2bFrom 0 0 0 (letter first :: letter second :: letter third :: letter fourth :: rest) =
      (a2bFrom 0 0 0 rest).map fun more =>
        (first * 4 + second / 16).toUInt8 :: (second % 16 * 16 + third / 4).toUInt8 ::
          (third % 4 * 64 + fourth).toUInt8 :: more := by
  have last : a2bFrom 3 (third % 4) 0 (letter fourth :: rest) =
      (a2bFrom 0 0 0 rest).map ((third % 4 * 64 + fourth).toUInt8 :: ·) :=
    a2bFrom_letter _ four 3 _ 0
  rw [a2bFrom_three _ one two three, last, Option.map_map]
  rfl

end Letters

/-- What is behind an encoding is read on where it has no padding. -/
theorem a2bFrom_encode (bytes : List UInt8) (rest : List Char) :
    a2bFrom 0 0 0 (Base64.encode bytes ++ rest) =
      if bytes.length % 3 = 0 then (a2bFrom 0 0 0 rest).map (bytes ++ ·) else some bytes := by
  have byte {value : Nat} (byte : UInt8) (same : value = byte.toNat) : value.toUInt8 = byte := by
    rw [same]
    exact UInt8.ofNat_toNat
  induction bytes using Base64.encode.induct with
  | case1 a b c more ih =>
      have one := a.toNat_lt
      have two := b.toNat_lt
      have three := c.toNat_lt
      have length : (a :: b :: c :: more).length % 3 = more.length % 3 := by
        simp only [List.length_cons]
        omega
      have first : (a.toNat / 4 * 4 + (a.toNat % 4 * 16 + b.toNat / 16) / 16).toUInt8 = a :=
        byte a (by omega)
      have second : ((a.toNat % 4 * 16 + b.toNat / 16) % 16 * 16 +
          (b.toNat % 16 * 4 + c.toNat / 64) / 4).toUInt8 = b := byte b (by omega)
      have third : ((b.toNat % 16 * 4 + c.toNat / 64) % 4 * 64 + c.toNat % 64).toUInt8 = c :=
        byte c (by omega)
      change a2bFrom 0 0 0 (letter _ :: letter _ :: letter _ :: letter _ ::
        (Base64.encode more ++ rest)) = _
      rw [a2bFrom_four _ (by omega) (by omega) (by omega) (by omega), ih, length, first, second,
        third]
      split
      · rw [Option.map_map]
        rfl
      · rfl
  | case2 a b =>
      have one := a.toNat_lt
      have two := b.toNat_lt
      have first : (a.toNat / 4 * 4 + (a.toNat % 4 * 16 + b.toNat / 16) / 16).toUInt8 = a :=
        byte a (by omega)
      have second : ((a.toNat % 4 * 16 + b.toNat / 16) % 16 * 16 +
          b.toNat % 16 * 4 / 4).toUInt8 = b := byte b (by omega)
      change a2bFrom 0 0 0 (letter _ :: letter _ :: letter _ :: '=' :: rest) = _
      rw [a2bFrom_three _ (by omega) (by omega) (by omega), first, second]
      rfl
  | case3 a =>
      have one := a.toNat_lt
      have first : (a.toNat / 4 * 4 + a.toNat % 4 * 16 / 16).toUInt8 = a := byte a (by omega)
      change a2bFrom 0 0 0 (letter _ :: letter _ :: '=' :: '=' :: rest) = _
      rw [a2bFrom_two _ (by omega) (by omega), first]
      rfl
  | case4 =>
      change a2bFrom 0 0 0 rest = (a2bFrom 0 0 0 rest).map ([] ++ ·)
      exact Option.map_id'.symm

private theorem ascii_of_isLetter {c : Char} (letter : Base64.isLetter c = true) : c.toNat < 128 := by
  simp only [Base64.isLetter, Bool.or_eq_true, beq_iff_eq] at letter
  obtain ((alphanum | rfl) | rfl) | rfl := letter
  · exact (Base64.range_of_isAlphanum alphanum).2.trans_lt (by decide)
  · decide
  · decide
  · decide

theorem a2bBase64_letters {text : List Char} (letters : ∀ c ∈ text, Base64.isLetter c = true) :
    a2bBase64 text = a2bFrom 0 0 0 text := by
  rw [a2bBase64, if_pos]
  rw [List.all_eq_true]
  intro c member
  exact decide_eq_true (ascii_of_isLetter (letters c member))

theorem a2bBase64_encode (bytes : List UInt8) : a2bBase64 (Base64.encode bytes) = some bytes := by
  rw [a2bBase64_letters fun c member => Base64.isLetter_of_mem_encode member]
  have whole := a2bFrom_encode bytes []
  rw [List.append_nil] at whole
  rw [whole]
  split
  · change some (bytes ++ []) = some bytes
    rw [List.append_nil]
  · rfl

/-- Encodings behind one another are read up to the first padding. -/
theorem a2bBase64_flatMap (first : List UInt8) (rest : List (List UInt8)) :
    ∃ count, a2bBase64 ((first :: rest).flatMap Base64.encode) =
      some (first ++ (rest.take count).flatten) := by
  rw [a2bBase64_letters]
  · induction rest generalizing first with
    | nil =>
        use 0
        rw [List.flatMap_cons, a2bFrom_encode]
        split
        · rfl
        · rw [List.take_zero, List.flatten_nil, List.append_nil]
    | cons second rest ih =>
        obtain ⟨count, read⟩ := ih second
        rw [List.flatMap_cons, a2bFrom_encode]
        split
        · use count + 1
          rw [read]
          rfl
        · use 0
          rw [List.take_zero, List.flatten_nil, List.append_nil]
  · intro c member
    obtain ⟨bytes, -, inside⟩ := List.mem_flatMap.mp member
    exact Base64.isLetter_of_mem_encode inside

end Base64

end MolidoVpn.Python
