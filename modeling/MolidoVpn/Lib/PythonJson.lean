import MolidoVpn.Lib.Radix

/-!
The `json` module of Python. An escape in a text may leave a surrogate alone in a string, and such a
string has no encoding.
-/

namespace MolidoVpn.Python

open Radix (hexValue)
open Text (decimal)

section Strings

/-- What a Python string is made of. The surrogates are numbered from the first one on. -/
inductive CodePoint where
  | char (c : Char)
  | surrogate (number : Fin 2048)
deriving DecidableEq

/-- `str` -/
abbrev Str := List CodePoint

def str (text : List Char) : Str := text.map .char

def CodePoint.char? : CodePoint → Option Char
  | .char c => some c
  | .surrogate _ => none

/-- No surrogate is alone in it. -/
def WellFormed (text : Str) : Prop := ∀ c ∈ text, c.char? ≠ none

theorem wellFormed_str (text : List Char) : WellFormed (str text) := by
  intro c member
  obtain ⟨char, -, rfl⟩ := List.mem_map.mp member
  exact Option.some_ne_none char

end Strings

section Values

/-- The digits of a number. -/
def IsWhole (text : List Char) : Prop :=
  text = ['0'] ∨ text ≠ [] ∧ text.head? ≠ some '0' ∧ ∀ c ∈ text, c.isDigit = true

def IsFraction (text : List Char) : Prop :=
  text = [] ∨ ∃ digits, text = '.' :: digits ∧ digits ≠ [] ∧ ∀ c ∈ digits, c.isDigit = true

def IsExponent (text : List Char) : Prop :=
  text = [] ∨ ∃ direction digits, text = 'e' :: direction :: digits ∧
    (direction = '+' ∨ direction = '-') ∧ digits ≠ [] ∧ ∀ c ∈ digits, c.isDigit = true

/-- What `repr` writes has a fraction, an exponent or both. -/
def IsFloat (text : List Char) : Prop :=
  ∃ (negative : Bool) (whole fraction exponent : List Char),
    text = (if negative then ['-'] else []) ++ (whole ++ (fraction ++ exponent)) ∧
    IsWhole whole ∧ IsFraction fraction ∧ IsExponent exponent ∧ fraction ++ exponent ≠ []

/-- The finite floats, as `float` reads them and `repr` writes them. What is too large is read as
an infinite one. -/
structure Floats where
  Finite : Type
  read : List Char → Option Finite
  repr : Finite → List Char
  isFloat_repr : ∀ value, IsFloat (repr value)
  read_repr : ∀ value, read (repr value) = some value

/-- What `loads` gives. -/
inductive Value (floats : Floats) where
  | none
  | bool (value : Bool)
  | int (value : Int)
  | float (value : floats.Finite)
  | nan
  | infinity (negative : Bool)
  | str (text : Str)
  | list (items : List (Value floats))
  | dict (members : List (Str × Value floats))

variable {floats : Floats}

/-- `d[key] = value` -/
def setItem (members : List (Str × Value floats)) (key : Str) (value : Value floats) :
    List (Str × Value floats) :=
  if members.any fun member => member.1 = key then
    members.map fun member => if member.1 = key then (key, value) else member
  else members ++ [(key, value)]

def getItem? (members : List (Str × Value floats)) (key : Str) : Option (Value floats) :=
  (members.find? fun member => member.1 = key).map Prod.snd

end Values

section Scan

variable {floats : Floats}

def isBlank (c : Char) : Bool := c = ' ' || c = '\t' || c = '\n' || c = '\r'

def skip (text : List Char) : List Char := text.dropWhile isBlank

def CodePoint.ofNat (code : Nat) : CodePoint :=
  if low : 0xD800 ≤ code ∧ code < 0xE000 then .surrogate ⟨code - 0xD800, by omega⟩
  else .char (Char.ofNat code)

/-- Two surrogates that belong together are one character. -/
def joinSurrogates : Str → Str
  | .surrogate high :: .surrogate low :: rest =>
      if high < 1024 ∧ 1024 ≤ low then
        .char (Char.ofNat (0x10000 + high * 1024 + (low - 1024))) :: joinSurrogates rest
      else .surrogate high :: joinSurrogates (.surrogate low :: rest)
  | c :: rest => c :: joinSurrogates rest
  | [] => []

def unescape : Char → Option Char
  | '"' => some '"'
  | '\\' => some '\\'
  | '/' => some '/'
  | 'b' => some '\x08'
  | 'f' => some '\x0c'
  | 'n' => some '\n'
  | 'r' => some '\r'
  | 't' => some '\t'
  | _ => .none

/-- What stands up to the next quotation mark, and what is behind it. -/
def scanChars : List Char → Option (Str × List Char)
  | '"' :: rest => some ([], rest)
  | '\\' :: 'u' :: one :: two :: three :: four :: rest =>
      (hexValue [one, two, three, four]).bind fun code =>
        (scanChars rest).map fun (more, rest) => (CodePoint.ofNat code :: more, rest)
  | '\\' :: c :: rest =>
      (unescape c).bind fun c => (scanChars rest).map fun (more, rest) => (.char c :: more, rest)
  | c :: rest =>
      if c.toNat < 0x20 ∨ c = '\\' then .none
      else (scanChars rest).map fun (more, rest) => (.char c :: more, rest)
  | [] => .none

def scanString (text : List Char) : Option (Str × List Char) :=
  (scanChars text).map fun (text, rest) => (joinSurrogates text, rest)

/-- No digit comes behind a zero at the front. -/
def scanWhole : List Char → Option (List Char × List Char)
  | '0' :: rest => some (['0'], rest)
  | c :: rest =>
      if c.isDigit then some (c :: rest.takeWhile Char.isDigit, rest.dropWhile Char.isDigit)
      else .none
  | [] => .none

def scanFraction : List Char → List Char × List Char
  | '.' :: rest =>
      if rest.takeWhile Char.isDigit = [] then ([], '.' :: rest)
      else ('.' :: rest.takeWhile Char.isDigit, rest.dropWhile Char.isDigit)
  | text => ([], text)

def scanDirection : List Char → List Char × List Char
  | '+' :: rest => (['+'], rest)
  | '-' :: rest => (['-'], rest)
  | text => ([], text)

def scanExponent : List Char → List Char × List Char
  | [] => ([], [])
  | c :: rest =>
      let (direction, digits) := scanDirection rest
      if (c = 'e' ∨ c = 'E') ∧ digits.takeWhile Char.isDigit ≠ [] then
        (c :: direction ++ digits.takeWhile Char.isDigit, digits.dropWhile Char.isDigit)
      else ([], c :: rest)

def scanNumber (text : List Char) : Option (Value floats × List Char) :=
  let negative : Bool := text.head? = some '-'
  (scanWhole (if negative then text.tail else text)).map fun (whole, rest) =>
    let (fraction, rest) := scanFraction rest
    let (exponent, rest) := scanExponent rest
    if fraction = [] ∧ exponent = [] then
      let value : Int := Nat.ofDigitChars 10 whole 0
      (.int (if negative then -value else value), rest)
    else
      match floats.read ((if negative then ['-'] else []) ++ (whole ++ (fraction ++ exponent))) with
      | some value => (.float value, rest)
      | Option.none => (.infinity negative, rest)

def constants : List (List Char × Value floats) :=
  [("null".toList, .none), ("true".toList, .bool true), ("false".toList, .bool false),
    ("NaN".toList, .nan), ("Infinity".toList, .infinity false),
    ("-Infinity".toList, .infinity true)]

def scanAtom (text : List Char) : Option (Value floats × List Char) :=
  match constants.find? fun (word, _) => word.isPrefixOf text with
  | some (word, value) => some (value, text.drop word.length)
  | Option.none => scanNumber text

mutual

/-- The number of steps bounds the depth and the lengths. -/
def scanOnce : Nat → List Char → Option (Value floats × List Char)
  | 0, _ => .none
  | _ + 1, '"' :: rest => (scanString rest).map fun (text, rest) => (.str text, rest)
  | steps + 1, '[' :: rest =>
      if (skip rest).head? = some ']' then some (.list [], (skip rest).tail)
      else (scanItems steps (skip rest)).map fun (items, rest) => (.list items, rest)
  | steps + 1, '{' :: rest =>
      if (skip rest).head? = some '}' then some (.dict [], (skip rest).tail)
      else (scanMembers steps [] (skip rest)).map fun (members, rest) => (.dict members, rest)
  | _ + 1, text => scanAtom text

def scanItems : Nat → List Char → Option (List (Value floats) × List Char)
  | 0, _ => .none
  | steps + 1, text =>
      (scanOnce steps text).bind fun (item, rest) =>
        (behindItem steps (skip rest)).map fun (items, rest) => (item :: items, rest)

def behindItem : Nat → List Char → Option (List (Value floats) × List Char)
  | steps + 1, ',' :: rest => scanItems steps (skip rest)
  | _ + 1, ']' :: rest => some ([], rest)
  | _, _ => .none

/-- A key that comes again is set anew. -/
def scanMembers : Nat → List (Str × Value floats) → List Char →
    Option (List (Str × Value floats) × List Char)
  | steps + 1, members, '"' :: rest =>
      (scanString rest).bind fun (key, rest) =>
        if (skip rest).head? = some ':' then
          (scanOnce steps (skip (skip rest).tail)).bind fun (value, rest) =>
            behindMember steps (setItem members key value) (skip rest)
        else .none
  | _, _, _ => .none

def behindMember : Nat → List (Str × Value floats) → List Char →
    Option (List (Str × Value floats) × List Char)
  | steps + 1, members, ',' :: rest => scanMembers steps members (skip rest)
  | _ + 1, members, '}' :: rest => some (members, rest)
  | _, _, _ => .none

end

/-- `json.loads`; nothing where it raises. Two steps for each character are enough. -/
def loads (text : List Char) : Option (Value floats) :=
  if text.head? = some '\uFEFF' then .none
  else
    (scanOnce (2 * text.length + 1) (skip text)).bind fun (value, rest) =>
      if skip rest = [] then some value else .none

end Scan

section Print

variable {floats : Floats}

def escapeChar (c : Char) : List Char :=
  if c = '"' then ['\\', '"']
  else if c = '\\' then ['\\', '\\']
  else if c = '\n' then ['\\', 'n']
  else if c = '\r' then ['\\', 'r']
  else if c = '\t' then ['\\', 't']
  else if c = '\x0c' then ['\\', 'f']
  else if c = '\x08' then ['\\', 'b']
  else if c.toNat < 0x20 then
    ['\\', 'u', '0', '0', Nat.digitChar (c.toNat / 16), Nat.digitChar (c.toNat % 16)]
  else [c]

def escape (c : CodePoint) : Option (List Char) := c.char?.map escapeChar

def quoted (text : Str) : Option (List Char) :=
  (text.mapM escape).map fun parts => '"' :: parts.flatten ++ ['"']

def intText (value : Int) : List Char :=
  if value < 0 then '-' :: decimal value.natAbs else decimal value.natAbs

mutual

/-- `json.dumps` without `ensure_ascii`; nothing where `encode` does not take the text. -/
def dumps : Value floats → Option (List Char)
  | .none => some "null".toList
  | .bool true => some "true".toList
  | .bool false => some "false".toList
  | .int value => some (intText value)
  | .float value => some (floats.repr value)
  | .nan => some "NaN".toList
  | .infinity false => some "Infinity".toList
  | .infinity true => some "-Infinity".toList
  | .str text => quoted text
  | .list [] => some "[]".toList
  | .list (first :: rest) =>
      (dumps first).bind fun text => (dumpsItems rest).map fun more => '[' :: text ++ more
  | .dict [] => some "{}".toList
  | .dict ((key, first) :: rest) =>
      (quoted key).bind fun key => (dumps first).bind fun text =>
        (dumpsMembers rest).map fun more => '{' :: key ++ ':' :: ' ' :: text ++ more

/-- The items behind the first one, and the bracket. -/
def dumpsItems : List (Value floats) → Option (List Char)
  | [] => some [']']
  | item :: rest =>
      (dumps item).bind fun text => (dumpsItems rest).map fun more => ',' :: ' ' :: text ++ more

def dumpsMembers : List (Str × Value floats) → Option (List Char)
  | [] => some ['}']
  | (key, value) :: rest =>
      (quoted key).bind fun key => (dumps value).bind fun text =>
        (dumpsMembers rest).map fun more => ',' :: ' ' :: key ++ ':' :: ' ' :: text ++ more

end

end Print

section ReadString

theorem hexValue_control : ∀ code < 0x20,
    hexValue ['0', '0', Nat.digitChar (code / 16), Nat.digitChar (code % 16)] = some code := by
  decide

/-- The marks with a short escape. -/
def marks : List Char := ['"', '\\', '\n', '\r', '\t', '\x0c', '\x08']

private theorem scanChars_mark {c : Char} (mark : c ∈ marks) (rest : List Char) :
    scanChars (escapeChar c ++ rest) =
      (scanChars rest).map fun (more, rest) => (.char c :: more, rest) := by
  simp only [marks, List.mem_cons, List.not_mem_nil, or_false] at mark
  rcases mark with rfl | rfl | rfl | rfl | rfl | rfl | rfl <;> rfl

theorem escapeChar_of_control {c : Char} (other : c ∉ marks) (control : c.toNat < 0x20) :
    escapeChar c =
      ['\\', 'u', '0', '0', Nat.digitChar (c.toNat / 16), Nat.digitChar (c.toNat % 16)] := by
  simp only [marks, List.mem_cons, List.not_mem_nil, or_false, not_or] at other
  simp only [escapeChar, other, if_false, if_pos control]

theorem escapeChar_of_solid {c : Char} (other : c ∉ marks) (solid : ¬c.toNat < 0x20) :
    escapeChar c = [c] := by
  simp only [marks, List.mem_cons, List.not_mem_nil, or_false, not_or] at other
  simp only [escapeChar, other, if_false, if_neg solid]

theorem scanChars_escapeChar (c : Char) (rest : List Char) :
    scanChars (escapeChar c ++ rest) =
      (scanChars rest).map fun (more, rest) => (.char c :: more, rest) := by
  by_cases mark : c ∈ marks
  · exact scanChars_mark mark rest
  · by_cases control : c.toNat < 0x20
    · have low : CodePoint.ofNat c.toNat = .char c := by
        rw [CodePoint.ofNat, dif_neg (by omega), Char.ofNat_toNat]
      rw [escapeChar_of_control mark control]
      change scanChars ('\\' :: 'u' :: '0' :: '0' :: Nat.digitChar (c.toNat / 16) ::
        Nat.digitChar (c.toNat % 16) :: rest) = _
      rw [scanChars, hexValue_control c.toNat control, Option.bind_some, low]
    · have backslash : c ≠ '\\' := fun same => mark (same ▸ by decide)
      have quotation : c ≠ '"' := fun same => mark (same ▸ by decide)
      rw [escapeChar_of_solid mark control, List.singleton_append, scanChars,
        if_neg (not_or.mpr ⟨control, backslash⟩)]
      · exact quotation
      · intro _ _ _ _ _ same
        exact absurd same backslash
      · intro _ _ same
        exact absurd same backslash

theorem joinSurrogates_str (text : List Char) : joinSurrogates (str text) = str text := by
  induction text with
  | nil => rfl
  | cons c rest ih =>
      change joinSurrogates (.char c :: str rest) = .char c :: str rest
      rw [joinSurrogates, ih]
      intro high low more same
      cases same

/-- A text that is written has no surrogate. -/
theorem eq_str_of_quoted {text : Str} {written : List Char} (writes : quoted text = some written) :
    ∃ chars, text = str chars ∧ written = '"' :: chars.flatMap escapeChar ++ ['"'] := by
  rw [quoted, Option.map_eq_some_iff] at writes
  obtain ⟨parts, escaped, rfl⟩ := writes
  suffices read : ∃ chars, text = str chars ∧ parts.flatten = chars.flatMap escapeChar by
    obtain ⟨chars, same, flat⟩ := read
    exact ⟨chars, same, by rw [flat]⟩
  induction text generalizing parts with
  | nil =>
      cases escaped
      exact ⟨[], rfl, rfl⟩
  | cons c rest ih =>
      rw [List.mapM_cons] at escaped
      cases c with
      | surrogate number => cases escaped
      | char c =>
          simp only [escape, CodePoint.char?, Option.map_some, Option.bind_eq_bind,
            Option.bind_some, Option.pure_def, Option.bind_eq_some_iff] at escaped
          obtain ⟨more, later, same⟩ := escaped
          cases same
          obtain ⟨chars, same, flat⟩ := ih more later
          refine ⟨c :: chars, ?_, ?_⟩
          · rw [same]
            rfl
          · rw [List.flatten_cons, flat]
            rfl

theorem quoted_str (chars : List Char) :
    quoted (str chars) = some ('"' :: chars.flatMap escapeChar ++ ['"']) := by
  have all : (str chars).mapM escape = some (chars.map escapeChar) := by
    induction chars with
    | nil => rfl
    | cons c rest ih =>
        change ((.char c : CodePoint) :: str rest).mapM escape = _
        rw [List.mapM_cons, ih]
        rfl
  rw [quoted, all]
  rfl

theorem scanString_quoted {text : Str} {written : List Char} (writes : quoted text = some written) :
    ∃ inner, written = '"' :: inner ∧ ∀ rest, scanString (inner ++ rest) = some (text, rest) := by
  obtain ⟨chars, rfl, rfl⟩ := eq_str_of_quoted writes
  use chars.flatMap escapeChar ++ ['"'], rfl
  intro rest
  suffices read : scanChars (chars.flatMap escapeChar ++ '"' :: rest) = some (str chars, rest) by
    rw [scanString, List.append_assoc, List.singleton_append, read]
    change some (joinSurrogates (str chars), rest) = some (str chars, rest)
    rw [joinSurrogates_str]
  induction chars with
  | nil => rfl
  | cons c chars ih =>
      rw [List.flatMap_cons, List.append_assoc, scanChars_escapeChar,
        ih (quoted_str chars)]
      rfl

end ReadString

section ReadNumber

variable {floats : Floats} {whole fraction exponent rest : List Char}

/-- What is behind a value: nothing, a comma or a bracket. -/
def Stops (rest : List Char) : Prop := ∀ c ∈ rest.head?, c = ',' ∨ c = ']' ∨ c = '}'

theorem takeWhile_digits {digits : List Char} (all : ∀ c ∈ digits, c.isDigit = true)
    (stop : ∀ c ∈ rest.head?, c.isDigit = false) :
    (digits ++ rest).takeWhile Char.isDigit = digits ∧
      (digits ++ rest).dropWhile Char.isDigit = rest := by
  have none_ : rest.takeWhile Char.isDigit = [] ∧ rest.dropWhile Char.isDigit = rest := by
    cases rest with
    | nil => exact ⟨rfl, rfl⟩
    | cons c rest =>
        have other : ¬c.isDigit = true := by
          rw [stop c rfl]
          exact Bool.false_ne_true
        exact ⟨List.takeWhile_cons_of_neg other, List.dropWhile_cons_of_neg other⟩
  rw [List.takeWhile_append_of_pos all, List.dropWhile_append_of_pos all, none_.1, none_.2,
    List.append_nil]
  exact ⟨rfl, rfl⟩

theorem scanWhole_append (is : IsWhole whole) (stop : ∀ c ∈ rest.head?, c.isDigit = false) :
    scanWhole (whole ++ rest) = some (whole, rest) := by
  rcases is with rfl | ⟨some_, zero, digits⟩
  · rfl
  · cases whole with
    | nil => exact absurd rfl some_
    | cons first more =>
        have parts := takeWhile_digits
          (fun c there => digits c (List.mem_cons_of_mem first there)) stop
        have other : first ≠ '0' := fun same => zero (congrArg some same)
        rw [List.cons_append, scanWhole, if_pos (digits first List.mem_cons_self), parts.1, parts.2]
        exact other

theorem scanFraction_append (is : IsFraction fraction)
    (stop : ∀ c ∈ rest.head?, c.isDigit = false ∧ c ≠ '.') :
    scanFraction (fraction ++ rest) = (fraction, rest) := by
  rcases is with rfl | ⟨digits, rfl, some_, all⟩
  · rw [List.nil_append]
    unfold scanFraction
    split
    · exact absurd rfl (stop '.' rfl).2
    · rfl
  · have parts := takeWhile_digits all fun c first => (stop c first).1
    rw [List.cons_append, scanFraction, parts.1, parts.2, if_neg some_]

theorem scanExponent_append (is : IsExponent exponent)
    (stop : ∀ c ∈ rest.head?, c.isDigit = false ∧ c ≠ 'e' ∧ c ≠ 'E') :
    scanExponent (exponent ++ rest) = (exponent, rest) := by
  rcases is with rfl | ⟨direction, digits, rfl, turns, some_, all⟩
  · cases rest with
    | nil => rfl
    | cons c rest =>
        have other := stop c rfl
        rw [List.nil_append, scanExponent]
        cases scanDirection rest with
        | mk direction digits =>
            apply if_neg
            rintro ⟨rfl | rfl, -⟩
            · exact other.2.1 rfl
            · exact other.2.2 rfl
  · have parts := takeWhile_digits all fun c first => (stop c first).1
    have turned : scanDirection (direction :: (digits ++ rest)) = ([direction], digits ++ rest) := by
      rcases turns with rfl | rfl <;> rfl
    rw [List.cons_append, List.cons_append, scanExponent, turned]
    dsimp only
    rw [parts.1, parts.2, if_pos ⟨Or.inl rfl, some_⟩]
    rfl

theorem Stops.clear (stops : Stops rest) :
    ∀ c ∈ rest.head?, c.isDigit = false ∧ c ≠ '.' ∧ c ≠ 'e' ∧ c ≠ 'E' := by
  intro c first
  rcases stops c first with rfl | rfl | rfl <;> decide

theorem head_exponent (is : IsExponent exponent) (stops : Stops rest) :
    ∀ c ∈ (exponent ++ rest).head?, c.isDigit = false ∧ c ≠ '.' := by
  rcases is with rfl | ⟨direction, digits, rfl, -⟩
  · exact fun c first => ⟨(stops.clear c first).1, (stops.clear c first).2.1⟩
  · intro c first
    cases first
    decide

theorem head_fraction (is : IsFraction fraction) (also : IsExponent exponent) (stops : Stops rest) :
    ∀ c ∈ (fraction ++ (exponent ++ rest)).head?, c.isDigit = false := by
  rcases is with rfl | ⟨digits, rfl, -⟩
  · exact fun c first => (head_exponent also stops c first).1
  · intro c first
    cases first
    decide

theorem isDigit_head (is : IsWhole whole) : ∃ first more, whole = first :: more ∧ first.isDigit = true := by
  rcases is with rfl | ⟨some_, -, digits⟩
  · exact ⟨'0', [], rfl, rfl⟩
  · cases whole with
    | nil => exact absurd rfl some_
    | cons first more => exact ⟨first, more, rfl, digits first List.mem_cons_self⟩

variable (negative : Bool) in
theorem scanNumber_append (is : IsWhole whole) (isFraction : IsFraction fraction)
    (isExponent : IsExponent exponent) (stops : Stops rest) :
    scanNumber ((if negative then ['-'] else []) ++ (whole ++ (fraction ++ exponent)) ++ rest) =
      some (if fraction = [] ∧ exponent = [] then
        (Value.int (if negative then -(Nat.ofDigitChars 10 whole 0 : Int)
          else Nat.ofDigitChars 10 whole 0), rest)
      else
        match floats.read ((if negative then ['-'] else []) ++ (whole ++ (fraction ++ exponent))) with
        | some value => (.float value, rest)
        | Option.none => (.infinity negative, rest)) := by
  have signed : (((if negative then ['-'] else []) ++ (whole ++ (fraction ++ exponent)) ++
      rest).head? = some '-') = (negative = true) := by
    cases negative with
    | true => exact eq_true rfl |>.trans (eq_true rfl).symm
    | false =>
        obtain ⟨first, more, rfl, digit⟩ := isDigit_head is
        apply propext
        constructor
        · intro same
          cases same
          cases digit
        · intro same
          cases same
  have tail : (if negative = true then ((if negative then ['-'] else []) ++
      (whole ++ (fraction ++ exponent)) ++ rest).tail else
        (if negative then ['-'] else []) ++ (whole ++ (fraction ++ exponent)) ++ rest) =
      whole ++ (fraction ++ (exponent ++ rest)) := by
    cases negative <;> simp
  have last := scanExponent_append isExponent fun c first =>
    ⟨(stops.clear c first).1, (stops.clear c first).2.2⟩
  unfold scanNumber
  simp only [signed, Bool.decide_eq_true, tail, scanWhole_append is (head_fraction isFraction isExponent stops),
    Option.map_some, scanFraction_append isFraction (head_exponent isExponent stops), last]

theorem isWhole_decimal (value : Nat) : IsWhole (decimal value) := by
  have leading : 0 < value → decimal value ≠ [] ∧ (decimal value).head? ≠ some '0' := by
    induction value using Nat.strongRecOn with
    | ind value ih =>
        intro positive
        by_cases small : value < 10
        · rw [decimal, Nat.toDigits_of_lt_base small]
          constructor
          · exact List.cons_ne_nil _ _
          · intro zero
            have digit : value.digitChar = '0' := Option.some.inj zero
            have all : ∀ value < 10, 0 < value → value.digitChar ≠ '0' := by decide
            exact all value small positive digit
        · have front := ih (value / 10) (by omega) (by omega)
          rw [decimal, Nat.toDigits_of_base_le (by decide) (by omega), ← decimal]
          rw [decimal] at front
          constructor
          · exact List.append_ne_nil_of_left_ne_nil front.1 _
          · rw [decimal, List.head?_append_of_ne_nil _ front.1]
            exact front.2
  by_cases zero : value = 0
  · rw [zero]
    exact Or.inl rfl
  · obtain ⟨some_, other⟩ := leading (by omega)
    exact Or.inr ⟨some_, other, fun c member => Text.decimal_isDigit member⟩

theorem intText_eq (value : Int) :
    intText value = (if decide (value < 0) then ['-'] else []) ++ decimal value.natAbs := by
  unfold intText
  by_cases negative : value < 0
  · rw [if_pos negative, if_pos (decide_eq_true negative)]
    rfl
  · rw [if_neg negative, if_neg (by rw [decide_eq_false negative]; exact Bool.false_ne_true)]
    rfl

theorem scanNumber_int (value : Int) (stops : Stops rest) :
    scanNumber (intText value ++ rest) = some ((.int value : Value floats), rest) := by
  have read : Nat.ofDigitChars 10 (decimal value.natAbs) 0 = value.natAbs :=
    Nat.ofDigitChars_ten_toDigits
  have bare : ([] : List Char) = [] ∧ ([] : List Char) = [] := ⟨rfl, rfl⟩
  have written : intText value = (if decide (value < 0) then ['-'] else []) ++
      (decimal value.natAbs ++ ([] ++ [])) := by
    rw [intText_eq, List.append_nil, List.append_nil]
  rw [written, scanNumber_append (decide (value < 0)) (isWhole_decimal value.natAbs) (Or.inl rfl)
    (Or.inl rfl) stops, if_pos bare, read]
  congr
  split
  · rename_i negative
    have below := of_decide_eq_true negative
    omega
  · rename_i other
    rw [decide_eq_true_eq] at other
    omega

theorem scanNumber_float (value : floats.Finite) (stops : Stops rest) :
    scanNumber (floats.repr value ++ rest) = some (Value.float value, rest) := by
  obtain ⟨negative, whole, fraction, exponent, written, isWhole, isFraction, isExponent, part⟩ :=
    floats.isFloat_repr value
  have given : ¬(fraction = [] ∧ exponent = []) := by
    rintro ⟨rfl, rfl⟩
    exact part rfl
  have read := floats.read_repr value
  rw [written] at read
  rw [written, scanNumber_append negative isWhole isFraction isExponent stops, if_neg given, read]

/-- It begins with a digit, maybe behind a sign. -/
def Signed (text : List Char) : Prop :=
  ∃ (negative : Bool) (first : Char) (more : List Char), first.isDigit = true ∧
    text = (if negative then ['-'] else []) ++ first :: more

theorem signed_intText (value : Int) : Signed (intText value) := by
  obtain ⟨first, more, written, digit⟩ := isDigit_head (isWhole_decimal value.natAbs)
  use decide (value < 0), first, more, digit
  rw [intText_eq, written]

theorem signed_repr (value : floats.Finite) : Signed (floats.repr value) := by
  obtain ⟨negative, whole, fraction, exponent, written, isWhole, -⟩ := floats.isFloat_repr value
  obtain ⟨first, more, rfl, digit⟩ := isDigit_head isWhole
  exact ⟨negative, first, more ++ (fraction ++ exponent), digit, written⟩

end ReadNumber

section RoundTrip

variable {floats : Floats}

mutual

/-- No dictionary has a key twice. -/
def Distinct : Value floats → Prop
  | .list items => DistinctItems items
  | .dict members => (members.map Prod.fst).Nodup ∧ DistinctMembers members
  | _ => True

def DistinctItems : List (Value floats) → Prop
  | [] => True
  | item :: rest => Distinct item ∧ DistinctItems rest

def DistinctMembers : List (Str × Value floats) → Prop
  | [] => True
  | (_, value) :: rest => Distinct value ∧ DistinctMembers rest

end

theorem skip_cons {c : Char} (solid : isBlank c = false) (rest : List Char) :
    skip (c :: rest) = c :: rest :=
  List.dropWhile_cons_of_neg (by rw [solid]; exact Bool.false_ne_true)

theorem scanOnce_atom {c : Char} (quotation : c ≠ '"') (list : c ≠ '[') (dict : c ≠ '{')
    (steps : Nat) (rest : List Char) :
    scanOnce (steps + 1) (c :: rest) = (scanAtom (c :: rest) : Option (Value floats × List Char)) := by
  rw [scanOnce]
  · intro _ same
    cases same
    exact quotation rfl
  · intro _ same
    cases same
    exact list rfl
  · intro _ same
    cases same
    exact dict rfl

theorem scanOnce_signed {text : List Char} (signed : Signed text) (steps : Nat) (rest : List Char) :
    scanOnce (steps + 1) (text ++ rest) =
      (scanNumber (text ++ rest) : Option (Value floats × List Char)) := by
  obtain ⟨negative, first, more, digit, rfl⟩ := signed
  have other {c : Char} (no : c.isDigit = false) : first ≠ c := by
    rintro rfl
    rw [digit] at no
    cases no
  have none_ {c : Char} (no : c.isDigit = false) (word rest : List Char) :
      (c :: word).isPrefixOf (first :: rest) = false := by
    rw [List.isPrefixOf, beq_eq_false_iff_ne.mpr (other no).symm]
    rfl
  have unknown : ((constants : List (List Char × Value floats)).find? fun (word, _) =>
      word.isPrefixOf ((if negative then ['-'] else []) ++ first :: more ++ rest)) = none := by
    rw [List.find?_eq_none]
    intro constant listed
    simp only [constants, List.mem_cons, List.not_mem_nil, or_false] at listed
    rw [Bool.not_eq_true]
    cases negative with
    | false => rcases listed with rfl | rfl | rfl | rfl | rfl | rfl <;> exact none_ rfl _ _
    | true =>
        rcases listed with rfl | rfl | rfl | rfl | rfl | rfl
        · rfl
        · rfl
        · rfl
        · rfl
        · rfl
        · exact none_ rfl _ _
  have atom : scanOnce (steps + 1) ((if negative then ['-'] else []) ++ first :: more ++ rest) =
      (scanAtom ((if negative then ['-'] else []) ++ first :: more ++ rest) :
        Option (Value floats × List Char)) := by
    cases negative with
    | false => exact scanOnce_atom (other rfl) (other rfl) (other rfl) steps (more ++ rest)
    | true =>
        exact scanOnce_atom (by decide) (by decide) (by decide) steps (first :: more ++ rest)
  rw [atom, scanAtom, unknown]

theorem any_key_iff {members : List (Str × Value floats)} {key : Str} :
    (members.any fun member => member.1 = key) = true ↔ key ∈ members.map Prod.fst := by
  rw [List.any_eq_true, List.mem_map]
  constructor
  · rintro ⟨member, there, same⟩
    exact ⟨member, there, of_decide_eq_true same⟩
  · rintro ⟨member, there, same⟩
    exact ⟨member, there, decide_eq_true same⟩

theorem setItem_new {members : List (Str × Value floats)} {key : Str}
    (new : key ∉ members.map Prod.fst) (value : Value floats) :
    setItem members key value = members ++ [(key, value)] := by
  rw [setItem, if_neg]
  rw [any_key_iff]
  exact new

theorem setItem_old {members : List (Str × Value floats)} {key : Str}
    (old : key ∈ members.map Prod.fst) (value : Value floats) :
    setItem members key value =
      members.map fun member => if member.1 = key then (key, value) else member :=
  if_pos (any_key_iff.mpr old)

theorem nodup_setItem {members : List (Str × Value floats)} {key : Str} {value : Value floats}
    (distinct : (members.map Prod.fst).Nodup) :
    ((setItem members key value).map Prod.fst).Nodup := by
  by_cases old : key ∈ members.map Prod.fst
  · have kept : (setItem members key value).map Prod.fst = members.map Prod.fst := by
      rw [setItem_old old, List.map_map]
      apply List.map_congr_left
      intro member _there
      rw [Function.comp_apply]
      split
      · rename_i same
        exact same.symm
      · rfl
    rw [kept]
    exact distinct
  · rw [setItem_new old, List.map_append, List.nodup_append]
    refine ⟨distinct, List.nodup_singleton key, ?_⟩
    intro other there last inside same
    rw [List.map_singleton, List.mem_singleton] at inside
    rw [same, inside] at there
    exact old there

theorem mem_setItem_iff {members : List (Str × Value floats)} {key : Str} {value : Value floats}
    {member : Str × Value floats} :
    member ∈ setItem members key value ↔
      member = (key, value) ∨ member ∈ members ∧ member.1 ≠ key := by
  by_cases old : key ∈ members.map Prod.fst
  · rw [setItem_old old, List.mem_map]
    constructor
    · rintro ⟨before, there, rfl⟩
      split
      · exact Or.inl rfl
      · rename_i other
        exact Or.inr ⟨there, other⟩
    · rintro (rfl | ⟨there, other⟩)
      · obtain ⟨before, there, same⟩ := List.mem_map.mp old
        exact ⟨before, there, if_pos same⟩
      · exact ⟨member, there, if_neg other⟩
  · rw [setItem_new old, List.mem_append, List.mem_singleton, or_comm]
    constructor
    · rintro (same | there)
      · exact Or.inl same
      · exact Or.inr ⟨there, fun same => old (List.mem_map.mpr ⟨member, there, same⟩)⟩
    · rintro (same | ⟨there, -⟩)
      · exact Or.inl same
      · exact Or.inr there

theorem distinctMembers_iff {members : List (Str × Value floats)} :
    DistinctMembers members ↔ ∀ member ∈ members, Distinct member.2 := by
  induction members with
  | nil => exact ⟨fun _ _ there => absurd there List.not_mem_nil, fun _ => trivial⟩
  | cons first rest ih => rw [DistinctMembers, ih, List.forall_mem_cons]

theorem distinct_setItem {members : List (Str × Value floats)} {key : Str} {value : Value floats}
    (distinct : Distinct (.dict members)) (also : Distinct value) :
    Distinct (.dict (setItem members key value)) := by
  refine ⟨nodup_setItem distinct.1, distinctMembers_iff.mpr fun member there => ?_⟩
  rcases mem_setItem_iff.mp there with rfl | ⟨before, -⟩
  · exact also
  · exact distinctMembers_iff.mp distinct.2 member before

theorem getItem?_cons (first : Str × Value floats) (rest : List (Str × Value floats)) (key : Str) :
    getItem? (first :: rest) key = if first.1 = key then some first.2 else getItem? rest key := by
  rw [getItem?, List.find?_cons]
  by_cases same : first.1 = key
  · rw [decide_eq_true same, if_pos same]
    rfl
  · rw [decide_eq_false same, if_neg same]
    rfl

theorem getItem?_setItem_self (members : List (Str × Value floats)) (key : Str)
    (value : Value floats) : getItem? (setItem members key value) key = some value := by
  by_cases old : key ∈ members.map Prod.fst
  · rw [setItem_old old]
    induction members with
    | nil => exact absurd old List.not_mem_nil
    | cons first rest ih =>
        rw [List.map_cons, getItem?_cons]
        by_cases same : first.1 = key
        · rw [if_pos same, if_pos rfl]
        · rw [if_neg same, if_neg same]
          exact ih ((List.mem_cons.mp old).resolve_left fun here => same here.symm)
  · rw [setItem_new old]
    induction members with
    | nil => rw [List.nil_append, getItem?_cons, if_pos rfl]
    | cons first rest ih =>
        rw [List.map_cons, List.mem_cons, not_or] at old
        rw [List.cons_append, getItem?_cons, if_neg fun same => old.1 same.symm, ih old.2]

theorem getItem?_setItem_of_ne (members : List (Str × Value floats)) {key other : Str}
    (apart : other ≠ key) (value : Value floats) :
    getItem? (setItem members key value) other = getItem? members other := by
  by_cases old : key ∈ members.map Prod.fst
  · rw [setItem_old old]
    clear old
    induction members with
    | nil => rfl
    | cons first rest ih =>
        rw [List.map_cons, getItem?_cons, getItem?_cons, ih]
        by_cases same : first.1 = key
        · rw [if_pos same, if_neg apart.symm, if_neg (same ▸ apart.symm)]
        · rw [if_neg same]
  · rw [setItem_new old]
    clear old
    induction members with
    | nil => rw [List.nil_append, getItem?_cons, if_neg apart.symm]
    | cons first rest ih => rw [List.cons_append, getItem?_cons, getItem?_cons, ih]

/-- A value begins with no blank, no closing bracket and no byte order mark. -/
theorem head_dumps {value : Value floats} {text : List Char} (writes : dumps value = some text) :
    ∃ c more, text = c :: more ∧ isBlank c = false ∧ c ≠ ']' ∧ c ≠ '\uFEFF' := by
  have number {text : List Char} (number : Signed text) :
      ∃ c more, text = c :: more ∧ isBlank c = false ∧ c ≠ ']' ∧ c ≠ '\uFEFF' := by
    obtain ⟨negative, first, more, digit, rfl⟩ := number
    cases negative with
    | true => exact ⟨'-', first :: more, rfl, by decide⟩
    | false =>
        have other {c : Char} (no : c.isDigit = false) : first ≠ c := by
          rintro rfl
          rw [digit] at no
          cases no
        have solid : isBlank first = false := by
          simp only [isBlank, Bool.or_eq_false_iff, decide_eq_false_iff_not]
          exact ⟨⟨⟨other rfl, other rfl⟩, other rfl⟩, other rfl⟩
        exact ⟨first, more, rfl, solid, other rfl, other rfl⟩
  cases value with
  | none =>
      cases writes
      exact ⟨_, _, rfl, by decide⟩
  | bool value =>
      cases value <;> cases writes <;> exact ⟨_, _, rfl, by decide⟩
  | int value =>
      cases writes
      exact number (signed_intText value)
  | float value =>
      cases writes
      exact number (signed_repr value)
  | nan =>
      cases writes
      exact ⟨_, _, rfl, by decide⟩
  | infinity negative =>
      cases negative <;> cases writes <;> exact ⟨_, _, rfl, by decide⟩
  | str text =>
      obtain ⟨inner, rfl, -⟩ := scanString_quoted writes
      exact ⟨_, _, rfl, by decide⟩
  | list items =>
      cases items with
      | nil =>
          cases writes
          exact ⟨_, _, rfl, by decide⟩
      | cons first rest =>
          simp only [dumps, Option.bind_eq_some_iff, Option.map_eq_some_iff] at writes
          obtain ⟨_, -, _, -, rfl⟩ := writes
          exact ⟨_, _, rfl, by decide⟩
  | dict members =>
      cases members with
      | nil =>
          cases writes
          exact ⟨_, _, rfl, by decide⟩
      | cons first rest =>
          obtain ⟨key, value⟩ := first
          simp only [dumps, Option.bind_eq_some_iff, Option.map_eq_some_iff] at writes
          obtain ⟨_, -, _, -, _, -, rfl⟩ := writes
          exact ⟨_, _, rfl, by decide⟩

theorem stops_dumpsItems {items : List (Value floats)} {text : List Char}
    (writes : dumpsItems items = some text) (rest : List Char) :
    ∃ c more, text = c :: more ∧ isBlank c = false ∧ Stops (text ++ rest) := by
  cases items with
  | nil =>
      cases writes
      refine ⟨_, _, rfl, rfl, fun c first => ?_⟩
      cases first
      exact Or.inr (Or.inl rfl)
  | cons first items =>
      simp only [dumpsItems, Option.bind_eq_some_iff, Option.map_eq_some_iff] at writes
      obtain ⟨_, -, _, -, rfl⟩ := writes
      refine ⟨_, _, rfl, rfl, fun c first => ?_⟩
      cases first
      exact Or.inl rfl

theorem stops_dumpsMembers {members : List (Str × Value floats)} {text : List Char}
    (writes : dumpsMembers members = some text) (rest : List Char) :
    ∃ c more, text = c :: more ∧ isBlank c = false ∧ Stops (text ++ rest) := by
  cases members with
  | nil =>
      cases writes
      refine ⟨_, _, rfl, rfl, fun c first => ?_⟩
      cases first
      exact Or.inr (Or.inr rfl)
  | cons first members =>
      obtain ⟨key, value⟩ := first
      simp only [dumpsMembers, Option.bind_eq_some_iff, Option.map_eq_some_iff] at writes
      obtain ⟨_, -, _, -, _, -, rfl⟩ := writes
      refine ⟨_, _, rfl, rfl, fun c first => ?_⟩
      cases first
      exact Or.inl rfl

theorem scanItems_of_parts {steps : Nat} {one two rest : List Char} {first : Value floats}
    {items : List (Value floats)}
    (read : scanOnce steps (one ++ (two ++ rest)) = some (first, two ++ rest))
    (writes : dumpsItems items = some two)
    (behind : behindItem steps (two ++ rest) = some (items, rest)) :
    scanItems (steps + 1) (one ++ (two ++ rest)) = some (first :: items, rest) := by
  obtain ⟨c, more, begins, solid, -⟩ := stops_dumpsItems writes rest
  have bare : skip (two ++ rest) = two ++ rest := by
    rw [begins]
    exact skip_cons solid _
  rw [scanItems, read, Option.bind_some]
  dsimp only
  rw [bare, behind]
  rfl

theorem scanMembers_of_parts {steps : Nat} {name one two rest : List Char} {key : Str}
    {value : Value floats} {before members whole : List (Str × Value floats)}
    (readKey : ∀ rest, scanString (name ++ rest) = some (key, rest))
    (writesValue : dumps value = some one)
    (read : scanOnce steps (one ++ (two ++ rest)) = some (value, two ++ rest))
    (writes : dumpsMembers members = some two)
    (behind : behindMember steps (setItem before key value) (two ++ rest) = some (whole, rest)) :
    scanMembers (steps + 1) before ('"' :: (name ++ ':' :: ' ' :: (one ++ (two ++ rest)))) =
      some (whole, rest) := by
  obtain ⟨c, more, begins, solid, -⟩ := stops_dumpsMembers writes rest
  obtain ⟨d, tail, beginsValue, solidValue, -⟩ := head_dumps writesValue
  have bare : skip (two ++ rest) = two ++ rest := by
    rw [begins]
    exact skip_cons solid _
  have inner : skip (' ' :: (one ++ (two ++ rest))) = one ++ (two ++ rest) := by
    rw [beginsValue]
    exact skip_cons solidValue _
  have colon : skip (':' :: ' ' :: (one ++ (two ++ rest))) = ':' :: ' ' :: (one ++ (two ++ rest)) :=
    skip_cons rfl _
  rw [scanMembers, readKey, Option.bind_some]
  dsimp only
  rw [colon, List.head?_cons, if_pos rfl, List.tail_cons, inner, read, Option.bind_some]
  dsimp only
  rw [bare, behind]

mutual

/-- What `dumps` writes is read back, whatever follows it. -/
theorem scanOnce_dumps (value : Value floats) (distinct : Distinct value) {text : List Char}
    (writes : dumps value = some text) {rest : List Char} (stops : Stops rest) {steps : Nat}
    (enough : 2 * text.length ≤ steps) : scanOnce steps (text ++ rest) = some (value, rest) := by
  have long : 1 ≤ text.length := by
    obtain ⟨c, more, rfl, -⟩ := head_dumps writes
    rw [List.length_cons]
    omega
  obtain ⟨steps, rfl⟩ : ∃ fewer, steps = fewer + 1 := ⟨steps - 1, by omega⟩
  cases value with
  | none =>
      cases writes
      rfl
  | bool value =>
      cases value <;> cases writes <;> rfl
  | int value =>
      cases writes
      rw [scanOnce_signed (signed_intText value), scanNumber_int value stops]
  | float value =>
      cases writes
      rw [scanOnce_signed (signed_repr value), scanNumber_float value stops]
  | nan =>
      cases writes
      rfl
  | infinity negative =>
      cases negative <;> cases writes <;> rfl
  | str text =>
      obtain ⟨inner, rfl, read⟩ := scanString_quoted writes
      rw [List.cons_append, scanOnce, read]
      rfl
  | list items =>
      cases items with
      | nil =>
          cases writes
          rfl
      | cons first items =>
          simp only [dumps, Option.bind_eq_some_iff, Option.map_eq_some_iff] at writes
          obtain ⟨one, writesFirst, two, writesRest, rfl⟩ := writes
          obtain ⟨-, -, -, -, stopsRest⟩ := stops_dumpsItems writesRest rest
          simp only [List.length_append, List.length_cons] at enough
          obtain ⟨steps, rfl⟩ : ∃ fewer, steps = fewer + 1 := ⟨steps - 1, by omega⟩
          have read := scanOnce_dumps first distinct.1 writesFirst stopsRest
            (show 2 * one.length ≤ steps by omega)
          have behind := behindItem_dumps items distinct.2 writesRest rest
            (show 2 * two.length ≤ steps by omega)
          have whole : '[' :: one ++ two ++ rest = '[' :: (one ++ (two ++ rest)) := by
            simp only [List.cons_append, List.append_assoc]
          have inner : skip (one ++ (two ++ rest)) = one ++ (two ++ rest) ∧
              (one ++ (two ++ rest)).head? ≠ some ']' := by
            obtain ⟨c, more, begins, solid, other, -⟩ := head_dumps writesFirst
            rw [begins]
            exact ⟨skip_cons solid _, fun same => other (Option.some.inj same)⟩
          rw [whole, scanOnce, inner.1, if_neg inner.2, scanItems_of_parts read writesRest behind]
          rfl
  | dict members =>
      cases members with
      | nil =>
          cases writes
          rfl
      | cons first members =>
          obtain ⟨key, value⟩ := first
          simp only [dumps, Option.bind_eq_some_iff, Option.map_eq_some_iff] at writes
          obtain ⟨name, writesKey, one, writesFirst, two, writesRest, rfl⟩ := writes
          obtain ⟨-, -, -, -, stopsRest⟩ := stops_dumpsMembers writesRest rest
          obtain ⟨inner, rfl, readKey⟩ := scanString_quoted writesKey
          simp only [List.length_append, List.length_cons] at enough
          obtain ⟨steps, rfl⟩ : ∃ fewer, steps = fewer + 1 := ⟨steps - 1, by omega⟩
          have read := scanOnce_dumps value distinct.2.1 writesFirst stopsRest
            (show 2 * one.length ≤ steps by omega)
          have behind : behindMember steps (setItem [] key value) (two ++ rest) =
              some ((key, value) :: members, rest) :=
            behindMember_dumps members distinct.2.2 [(key, value)] distinct.1 writesRest rest
              (show 2 * two.length ≤ steps by omega)
          have whole : '{' :: ('"' :: inner) ++ ':' :: ' ' :: one ++ two ++ rest =
              '{' :: '"' :: (inner ++ ':' :: ' ' :: (one ++ (two ++ rest))) := by
            simp only [List.cons_append, List.append_assoc]
          have open_ : ('"' :: (inner ++ ':' :: ' ' :: (one ++ (two ++ rest)))).head? ≠ some '}' :=
            fun same => absurd (Option.some.inj same) (by decide)
          rw [whole, scanOnce, skip_cons rfl, if_neg open_,
            scanMembers_of_parts readKey writesFirst read writesRest behind]
          rfl

theorem behindItem_dumps (items : List (Value floats)) (distinct : DistinctItems items)
    {text : List Char} (writes : dumpsItems items = some text) (rest : List Char) {steps : Nat}
    (enough : 2 * text.length ≤ steps) :
    behindItem steps (text ++ rest) = some (items, rest) := by
  cases items with
  | nil =>
      cases writes
      obtain ⟨steps, rfl⟩ : ∃ fewer, steps = fewer + 1 :=
        ⟨steps - 1, by rw [List.length_singleton] at enough; omega⟩
      rfl
  | cons first items =>
      simp only [dumpsItems, Option.bind_eq_some_iff, Option.map_eq_some_iff] at writes
      obtain ⟨one, writesFirst, two, writesRest, rfl⟩ := writes
      obtain ⟨-, -, -, -, stopsRest⟩ := stops_dumpsItems writesRest rest
      simp only [List.length_append, List.length_cons] at enough
      obtain ⟨steps, rfl⟩ : ∃ fewer, steps = fewer + 2 := ⟨steps - 2, by omega⟩
      have read := scanOnce_dumps first distinct.1 writesFirst stopsRest
        (show 2 * one.length ≤ steps by omega)
      have behind := behindItem_dumps items distinct.2 writesRest rest
        (show 2 * two.length ≤ steps by omega)
      have whole : ',' :: ' ' :: one ++ two ++ rest = ',' :: ' ' :: (one ++ (two ++ rest)) := by
        simp only [List.cons_append, List.append_assoc]
      have inner : skip (' ' :: (one ++ (two ++ rest))) = one ++ (two ++ rest) := by
        obtain ⟨c, more, begins, solid, -⟩ := head_dumps writesFirst
        rw [begins]
        exact skip_cons solid _
      rw [whole, behindItem, inner, scanItems_of_parts read writesRest behind]

theorem behindMember_dumps (members : List (Str × Value floats)) (distinct : DistinctMembers members)
    (before : List (Str × Value floats)) (keys : ((before ++ members).map Prod.fst).Nodup)
    {text : List Char} (writes : dumpsMembers members = some text) (rest : List Char) {steps : Nat}
    (enough : 2 * text.length ≤ steps) :
    behindMember steps before (text ++ rest) = some (before ++ members, rest) := by
  cases members with
  | nil =>
      cases writes
      obtain ⟨steps, rfl⟩ : ∃ fewer, steps = fewer + 1 :=
        ⟨steps - 1, by rw [List.length_singleton] at enough; omega⟩
      rw [List.append_nil]
      rfl
  | cons first members =>
      obtain ⟨key, value⟩ := first
      simp only [dumpsMembers, Option.bind_eq_some_iff, Option.map_eq_some_iff] at writes
      obtain ⟨name, writesKey, one, writesFirst, two, writesRest, rfl⟩ := writes
      obtain ⟨-, -, -, -, stopsRest⟩ := stops_dumpsMembers writesRest rest
      obtain ⟨inner, rfl, readKey⟩ := scanString_quoted writesKey
      simp only [List.length_append, List.length_cons] at enough
      obtain ⟨steps, rfl⟩ : ∃ fewer, steps = fewer + 2 := ⟨steps - 2, by omega⟩
      have new : key ∉ before.map Prod.fst := by
        rw [List.map_append, List.map_cons, List.nodup_append] at keys
        exact fun there => keys.2.2 key there key List.mem_cons_self rfl
      have split : before ++ (key, value) :: members = (before ++ [(key, value)]) ++ members := by
        rw [List.append_assoc]
        rfl
      have read := scanOnce_dumps value distinct.1 writesFirst stopsRest
        (show 2 * one.length ≤ steps by omega)
      have behind := behindMember_dumps members distinct.2 (before ++ [(key, value)])
        (split ▸ keys) writesRest rest (show 2 * two.length ≤ steps by omega)
      rw [← setItem_new new value] at behind
      have whole : ',' :: ' ' :: ('"' :: inner) ++ ':' :: ' ' :: one ++ two ++ rest =
          ',' :: ' ' :: '"' :: (inner ++ ':' :: ' ' :: (one ++ (two ++ rest))) := by
        simp only [List.cons_append, List.append_assoc]
      have bare : skip (' ' :: '"' :: (inner ++ ':' :: ' ' :: (one ++ (two ++ rest)))) =
          '"' :: (inner ++ ':' :: ' ' :: (one ++ (two ++ rest))) := rfl
      rw [whole, behindMember, bare,
        scanMembers_of_parts readKey writesFirst read writesRest behind, setItem_new new, split]

end

theorem distinct_scanAtom {text rest : List Char} {value : Value floats}
    (scanned : scanAtom text = some (value, rest)) : Distinct value := by
  unfold scanAtom at scanned
  split at scanned
  · rename_i word constant found
    cases scanned
    have listed := List.mem_of_find?_eq_some found
    simp only [constants, List.mem_cons, Prod.mk.injEq, List.not_mem_nil, or_false] at listed
    rcases listed with ⟨-, rfl⟩ | ⟨-, rfl⟩ | ⟨-, rfl⟩ | ⟨-, rfl⟩ | ⟨-, rfl⟩ | ⟨-, rfl⟩ <;>
      exact trivial
  · simp only [scanNumber, Option.map_eq_some_iff] at scanned
    obtain ⟨parts, -, same⟩ := scanned
    split at same
    · cases same
      exact trivial
    · split at same <;> cases same <;> exact trivial

/-- No step of the scan gives a key twice. -/
theorem distinct_scan (steps : Nat) :
    (∀ text value rest, scanOnce steps text = some (value, rest) →
      Distinct (value : Value floats)) ∧
    (∀ text items rest, scanItems steps text = some (items, rest) →
      DistinctItems (items : List (Value floats))) ∧
    (∀ text items rest, behindItem steps text = some (items, rest) →
      DistinctItems (items : List (Value floats))) ∧
    (∀ before text members rest, Distinct (.dict before : Value floats) →
      scanMembers steps before text = some (members, rest) →
      Distinct (.dict members : Value floats)) ∧
    ∀ before text members rest, Distinct (.dict before : Value floats) →
      behindMember steps before text = some (members, rest) →
      Distinct (.dict members : Value floats) := by
  induction steps with
  | zero => exact ⟨nofun, nofun, nofun, nofun, nofun⟩
  | succ steps ih =>
      obtain ⟨once, items, behind, members, behindMembers⟩ := ih
      refine ⟨?_, ?_, ?_, ?_, ?_⟩
      · intro text value rest scanned
        unfold scanOnce at scanned
        split at scanned
        · rename_i _ _ none_
          cases none_
        · rw [Option.map_eq_some_iff] at scanned
          obtain ⟨parts, -, same⟩ := scanned
          cases same
          exact trivial
        · rename_i _ _ fewer inner same
          cases same
          split at scanned
          · cases scanned
            exact trivial
          · simp only [Option.map_eq_some_iff, Prod.exists, Prod.mk.injEq] at scanned
            obtain ⟨all, rest, scanned, rfl, -⟩ := scanned
            exact items _ all rest scanned
        · rename_i _ _ fewer inner same
          cases same
          split at scanned
          · cases scanned
            exact ⟨List.nodup_nil, trivial⟩
          · simp only [Option.map_eq_some_iff, Prod.exists, Prod.mk.injEq] at scanned
            obtain ⟨all, rest, scanned, rfl, -⟩ := scanned
            exact members [] _ all rest ⟨List.nodup_nil, trivial⟩ scanned
        · exact distinct_scanAtom scanned
      · intro text all rest scanned
        simp only [scanItems, Option.bind_eq_some_iff, Option.map_eq_some_iff, Prod.exists,
          Prod.mk.injEq] at scanned
        obtain ⟨item, inner, first, more, last, later, rfl, rfl⟩ := scanned
        exact ⟨once _ _ _ first, behind _ _ _ later⟩
      · intro text all rest scanned
        unfold behindItem at scanned
        split at scanned
        · rename_i _ _ fewer inner same
          cases same
          exact items _ all rest scanned
        · cases scanned
          exact trivial
        · cases scanned
      · intro before text all rest distinct scanned
        unfold scanMembers at scanned
        split at scanned
        · rename_i _ _ fewer inner same
          cases same
          rw [Option.bind_eq_some_iff] at scanned
          obtain ⟨⟨key, behindKey⟩, -, scanned⟩ := scanned
          dsimp only at scanned
          split at scanned
          · rw [Option.bind_eq_some_iff] at scanned
            obtain ⟨⟨value, behindValue⟩, first, later⟩ := scanned
            exact behindMembers _ _ all rest (distinct_setItem distinct (once _ _ _ first)) later
          · cases scanned
        · cases scanned
      · intro before text all rest distinct scanned
        unfold behindMember at scanned
        split at scanned
        · rename_i _ _ fewer inner same
          cases same
          exact members _ _ all rest distinct scanned
        · cases scanned
          exact distinct
        · cases scanned

theorem loads_dumps {value : Value floats} (distinct : Distinct value) {text : List Char}
    (writes : dumps value = some text) : loads text = some value := by
  have read := scanOnce_dumps value distinct writes
    (show Stops [] from fun c first => nomatch first)
    (show 2 * text.length ≤ 2 * text.length + 1 by omega)
  rw [List.append_nil] at read
  obtain ⟨c, more, rfl, solid, -, other⟩ := head_dumps writes
  have bom : (c :: more).head? ≠ some '\uFEFF' := fun same => other (Option.some.inj same)
  rw [loads, if_neg bom, skip_cons solid, read]
  rfl

theorem distinct_loads {text : List Char} {value : Value floats} (read : loads text = some value) :
    Distinct value := by
  unfold loads at read
  split at read
  · cases read
  · rw [Option.bind_eq_some_iff] at read
    obtain ⟨⟨scanned, rest⟩, once, read⟩ := read
    dsimp only at read
    split at read
    · cases read
      exact (distinct_scan _).1 _ _ _ once
    · cases read

end RoundTrip

section Encoding

variable {floats : Floats}

mutual

/-- The strings in a value, keys among them. -/
def texts : Value floats → List Str
  | .str text => [text]
  | .list items => textsOfItems items
  | .dict members => textsOfMembers members
  | _ => []

def textsOfItems : List (Value floats) → List Str
  | [] => []
  | item :: rest => texts item ++ textsOfItems rest

def textsOfMembers : List (Str × Value floats) → List Str
  | [] => []
  | (key, value) :: rest => key :: texts value ++ textsOfMembers rest

end

theorem isSome_quoted_iff (text : Str) : (quoted text).isSome = true ↔ WellFormed text := by
  constructor
  · intro writes
    obtain ⟨written, writes⟩ := Option.isSome_iff_exists.mp writes
    obtain ⟨chars, rfl, -⟩ := eq_str_of_quoted writes
    exact wellFormed_str chars
  · intro whole
    suffices same : ∃ chars, text = str chars by
      obtain ⟨chars, rfl⟩ := same
      rw [quoted_str]
      rfl
    induction text with
    | nil => exact ⟨[], rfl⟩
    | cons c rest ih =>
        obtain ⟨chars, rfl⟩ := ih fun other there => whole other (List.mem_cons_of_mem c there)
        cases c with
        | char c => exact ⟨c :: chars, rfl⟩
        | surrogate number => exact absurd rfl (whole _ List.mem_cons_self)

private theorem isSome_bind_map {α β γ : Type} (first : Option α) (second : Option β)
    (join : α → β → γ) :
    (first.bind fun one => second.map (join one)).isSome = true ↔
      first.isSome = true ∧ second.isSome = true := by
  cases first with
  | none => simp
  | some one => simp

private theorem isSome_bind_bind_map {α β γ δ : Type} (first : Option α) (second : Option β)
    (third : Option γ) (join : α → β → γ → δ) :
    (first.bind fun one => second.bind fun two => third.map (join one two)).isSome = true ↔
      first.isSome = true ∧ second.isSome = true ∧ third.isSome = true := by
  cases first with
  | none => simp
  | some one => cases second <;> simp

mutual

/-- `encode` takes what has no surrogate alone in a string. -/
theorem isSome_dumps_iff (value : Value floats) :
    (dumps value).isSome = true ↔ ∀ text ∈ texts value, WellFormed text := by
  have plain {text : List Char} (writes : dumps value = some text) (none_ : texts value = []) :
      (dumps value).isSome = true ↔ ∀ text ∈ texts value, WellFormed text := by
    rw [writes, none_]
    exact ⟨fun _ _ there => absurd there List.not_mem_nil, fun _ => rfl⟩
  cases value with
  | none => exact plain rfl rfl
  | bool value => cases value <;> exact plain rfl rfl
  | int value => exact plain rfl rfl
  | float value => exact plain rfl rfl
  | nan => exact plain rfl rfl
  | infinity negative => cases negative <;> exact plain rfl rfl
  | str text =>
      rw [dumps, isSome_quoted_iff, texts, List.forall_mem_singleton]
  | list items =>
      cases items with
      | nil => exact plain rfl rfl
      | cons first rest =>
          rw [dumps, isSome_bind_map, isSome_dumps_iff first, isSome_dumpsItems_iff rest, texts,
            textsOfItems, List.forall_mem_append]
  | dict members =>
      cases members with
      | nil => exact plain rfl rfl
      | cons first rest =>
          obtain ⟨key, value⟩ := first
          rw [dumps, isSome_bind_bind_map, isSome_quoted_iff, isSome_dumps_iff value,
            isSome_dumpsMembers_iff rest, texts, textsOfMembers, List.cons_append,
            List.forall_mem_cons, List.forall_mem_append]

theorem isSome_dumpsItems_iff (items : List (Value floats)) :
    (dumpsItems items).isSome = true ↔ ∀ text ∈ textsOfItems items, WellFormed text := by
  cases items with
  | nil => exact ⟨fun _ _ there => absurd there List.not_mem_nil, fun _ => rfl⟩
  | cons first rest =>
      rw [dumpsItems, isSome_bind_map, isSome_dumps_iff first, isSome_dumpsItems_iff rest,
        textsOfItems, List.forall_mem_append]

theorem isSome_dumpsMembers_iff (members : List (Str × Value floats)) :
    (dumpsMembers members).isSome = true ↔ ∀ text ∈ textsOfMembers members, WellFormed text := by
  cases members with
  | nil => exact ⟨fun _ _ there => absurd there List.not_mem_nil, fun _ => rfl⟩
  | cons first rest =>
      obtain ⟨key, value⟩ := first
      rw [dumpsMembers, isSome_bind_bind_map, isSome_quoted_iff, isSome_dumps_iff value,
        isSome_dumpsMembers_iff rest, textsOfMembers, List.cons_append, List.forall_mem_cons,
        List.forall_mem_append]

end

theorem mem_textsOfMembers {members : List (Str × Value floats)} {text : Str} :
    text ∈ textsOfMembers members ↔ ∃ member ∈ members, text = member.1 ∨ text ∈ texts member.2 := by
  induction members with
  | nil => simp [textsOfMembers]
  | cons first rest ih =>
      obtain ⟨key, value⟩ := first
      rw [textsOfMembers, List.cons_append, List.mem_cons, List.mem_append, ih, List.exists_mem_cons_iff,
        or_assoc]

end Encoding

end MolidoVpn.Python
