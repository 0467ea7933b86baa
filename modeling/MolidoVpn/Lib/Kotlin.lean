import MolidoVpn.Lib.Text
import MolidoVpn.Lib.Utf8

/-!
The operations on strings of Kotlin's and Java's standard libraries, over lists of characters.
-/

namespace MolidoVpn.Kotlin

/-- What the operations take from the character database of Unicode; ASCII is as in every
locale but the Turkish one. -/
structure Unicode where
  lowercase : List Char → List Char
  digit : Char → Option Nat
  lowercase_ascii : ∀ text, (∀ c ∈ text, c.toNat < 128) → lowercase text = text.map Char.toLower
  digit_ascii : ∀ c, c.toNat < 128 → digit c = if c.isDigit then some (c.toNat - 48) else none

/-- ASCII alone, with the one letter outside it whose lower case is in ASCII: the Kelvin sign. -/
def Unicode.ascii : Unicode where
  lowercase := List.map fun c => if c = '\u212a' then 'k' else c.toLower
  digit := fun c => if c.isDigit then some (c.toNat - 48) else none
  lowercase_ascii := by
    intro text narrow
    apply List.map_congr_left
    intro c member
    rw [if_neg]
    rintro rfl
    exact absurd (narrow _ member) (by decide)
  digit_ascii := fun _ _ => rfl

section Delimiters

/-- `substringBefore(delimiter, missing)` -/
def substringBeforeOr (delimiter missing text : List Char) : List Char :=
  ((Text.splitAround delimiter text).map Prod.fst).getD missing

/-- `substringAfter(delimiter, missing)` -/
def substringAfterOr (delimiter missing text : List Char) : List Char :=
  ((Text.splitAround delimiter text).map Prod.snd).getD missing

/-- Without the last argument, a text without the delimiter is taken whole. -/
def substringBefore (delimiter text : List Char) : List Char :=
  substringBeforeOr delimiter text text

def substringAfter (delimiter text : List Char) : List Char :=
  substringAfterOr delimiter text text

def substringBeforeLastOr (delimiter : Char) (missing text : List Char) : List Char :=
  ((Text.rsplitOnce delimiter text).map Prod.fst).getD missing

def substringAfterLastOr (delimiter : Char) (missing text : List Char) : List Char :=
  ((Text.rsplitOnce delimiter text).map Prod.snd).getD missing

def substringBeforeLast (delimiter : Char) (text : List Char) : List Char :=
  substringBeforeLastOr delimiter text text

def substringAfterLast (delimiter : Char) (text : List Char) : List Char :=
  substringAfterLastOr delimiter text text

def removePrefix (start text : List Char) : List Char :=
  (Text.stripPrefix start text).getD text

def removeSuffix (finish text : List Char) : List Char :=
  ((Text.stripPrefix finish.reverse text.reverse).map List.reverse).getD text

theorem substringAfter_subset (delimiter text : List Char) : substringAfter delimiter text ⊆ text := by
  rw [substringAfter, substringAfterOr]
  cases split : Text.splitAround delimiter text with
  | none => exact List.Subset.refl text
  | some parts =>
      rw [Text.splitAround_eq_append split]
      exact fun _ member => List.mem_append_right _ (List.mem_append_right _ member)

section Single

variable {c : Char} {text before : List Char}

theorem splitAround_eq_none (missing : c ∉ text) : Text.splitAround [c] text = none := by
  cases split : Text.splitAround [c] text with
  | none => rfl
  | some parts =>
      apply absurd _ missing
      rw [Text.splitAround_eq_append split]
      exact List.mem_append_right _ List.mem_cons_self

theorem substringBefore_of_notMem (missing : c ∉ text) : substringBefore [c] text = text := by
  rw [substringBefore, substringBeforeOr, splitAround_eq_none missing]
  rfl

theorem substringBefore_append (clear : c ∉ before) (after : List Char) :
    substringBefore [c] (before ++ c :: after) = before := by
  have split : Text.splitAround [c] (before ++ c :: after) = some (before, after) :=
    Text.splitAround_first clear after
  rw [substringBefore, substringBeforeOr, split]
  rfl

theorem substringBefore_append_left (clear : c ∉ before) (text : List Char) :
    substringBefore [c] (before ++ text) = before ++ substringBefore [c] text := by
  by_cases member : c ∈ text
  · obtain ⟨front, after, rfl, ahead⟩ := List.eq_append_cons_of_mem member
    have clear' : c ∉ before ++ front := fun there =>
      (List.mem_append.mp there).elim clear ahead
    rw [← List.append_assoc, substringBefore_append clear', substringBefore_append ahead]
  · have clear' : c ∉ before ++ text := fun there => (List.mem_append.mp there).elim clear member
    rw [substringBefore_of_notMem clear', substringBefore_of_notMem member]

theorem notMem_substringBefore (c : Char) (text : List Char) : c ∉ substringBefore [c] text := by
  by_cases member : c ∈ text
  · obtain ⟨before, after, rfl, clear⟩ := List.eq_append_cons_of_mem member
    rw [substringBefore_append clear]
    exact clear
  · rw [substringBefore_of_notMem member]
    exact member

end Single

/-- `lineSequence`, which knows the three ends of a line. -/
def lineSequence : List Char → List (List Char)
  | [] => [[]]
  | '\r' :: '\n' :: rest => [] :: lineSequence rest
  | c :: rest =>
      if c = '\n' ∨ c = '\r' then [] :: lineSequence rest
      else (lineSequence rest).modifyHead (c :: ·)

end Delimiters

section WhiteSpace

/-- `Char.isWhitespace`: unlike JavaScript it takes the four separators of ASCII, and no
byte order mark. -/
def isWhitespace (c : Char) : Bool :=
  (Text.isWhitespace c && c != '\u0085') || (28 ≤ c.toNat && c.toNat ≤ 31)

def trim (text : List Char) : List Char :=
  ((text.dropWhile isWhitespace).reverse.dropWhile isWhitespace).reverse

theorem trim_append_cons {c : Char} (solid : isWhitespace c = false) (before after : List Char) :
    trim (before ++ c :: after) =
      before.dropWhile isWhitespace ++ c :: after.rdropWhile isWhitespace :=
  Text.strip_append_cons solid before after

theorem trim_dropWhile (text : List Char) : trim (text.dropWhile isWhitespace) = trim text := by
  rw [trim, List.dropWhile_idempotent, trim]

theorem trim_rdropWhile (text : List Char) : trim (text.rdropWhile isWhitespace) = trim text :=
  Text.strip_rdropWhile text

theorem trim_trim (text : List Char) : trim (trim text) = trim text := Text.strip_strip text

theorem trim_subset (text : List Char) : trim text ⊆ text := by
  intro c member
  exact (List.dropWhile_suffix isWhitespace).subset
    ((List.rdropWhile_prefix isWhitespace _).subset member)

def isBlank (text : List Char) : Bool := text.all isWhitespace

end WhiteSpace

section Numbers

variable (unicode : Unicode)

def digits (text : List Char) : Option Nat :=
  text.foldlM (fun value c => (unicode.digit c).map fun digit => value * 10 + digit) 0

/-- `toIntOrNull`, of a sign and at least one digit, in 32 bits. -/
def toIntOrNull (text : List Char) : Option Int :=
  match text with
  | [] => none
  | first :: rest =>
      if first.toNat < 48 then
        if rest.isEmpty then none
        else if first = '-' then
          (digits unicode rest).bind fun value => if value ≤ 2 ^ 31 then some (-value) else none
        else if first = '+' then
          (digits unicode rest).bind fun value => if value < 2 ^ 31 then some value else none
        else none
      else
        (digits unicode text).bind fun value => if value < 2 ^ 31 then some value else none

end Numbers

section Escapes

def hexDigit (c : Char) : Option UInt8 :=
  if '0' ≤ c ∧ c ≤ '9' then some (c.toNat - 48).toUInt8
  else if 'a' ≤ c ∧ c ≤ 'f' then some (c.toNat - 87).toUInt8
  else if 'A' ≤ c ∧ c ≤ 'F' then some (c.toNat - 55).toUInt8
  else none

/-- The bytes of neighbouring escapes are decoded together. -/
def urlDecodeFrom : List UInt8 → List Char → Option (List Char)
  | pending, [] => some (Utf8.fromUtf8Lossy pending)
  | pending, '%' :: high :: low :: rest =>
      (hexDigit high).bind fun high => (hexDigit low).bind fun low =>
        urlDecodeFrom (pending ++ [high * 16 + low]) rest
  | pending, c :: rest =>
      if c = '%' then none
      else
        (urlDecodeFrom [] rest).map fun decoded =>
          Utf8.fromUtf8Lossy pending ++ (if c = '+' then ' ' else c) :: decoded

/-- `URLDecoder.decode(text, "UTF-8")`; nothing where it throws. -/
def urlDecode (text : List Char) : Option (List Char) := urlDecodeFrom [] text

end Escapes

end MolidoVpn.Kotlin
