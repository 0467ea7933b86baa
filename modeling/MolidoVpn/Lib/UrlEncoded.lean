import MolidoVpn.Lib.JavaScript

/-!
Escapes in URLs, and query strings: read leniently, where the first value of a name counts and
blank ones are left out, or strictly, where the last one counts.
-/

namespace MolidoVpn.UrlEncoded

open JavaScript (strictUtf8)
open Kotlin (hexDigit)

section Escapes

/-- The bytes a text stands for; a percent sign that begins no escape stands for itself. -/
def bytes : List Char → List UInt8
  | '%' :: high :: low :: rest =>
      match hexDigit high, hexDigit low with
      | some first, some second => (first * 16 + second) :: bytes rest
      | _, _ => 37 :: bytes (high :: low :: rest)
  | c :: rest => Utf8.encode [c] ++ bytes rest
  | [] => []

def lenient (text : List Char) : List Char := Utf8.fromUtf8Lossy (bytes text)

def strict (text : List Char) : Option (List Char) := strictUtf8 (bytes text)

/-- Every percent sign begins an escape, and everything else is ASCII. -/
def wellFormed : List Char → Bool
  | '%' :: high :: low :: rest =>
      (hexDigit high).isSome && (hexDigit low).isSome && wellFormed rest
  | c :: rest => c != '%' && c.toNat < 128 && wellFormed rest
  | [] => true

variable {text decoded : List Char}

theorem lenient_of_strict (decodes : strict text = some decoded) : lenient text = decoded := by
  unfold strict strictUtf8 at decodes
  dsimp only at decodes
  split at decodes
  · exact Option.some.inj decodes
  · cases decodes

theorem bytes_cons {c : Char} {rest : List Char}
    (notEscape : ∀ high low more, c = '%' → rest ≠ high :: low :: more) :
    bytes (c :: rest) = Utf8.encode [c] ++ bytes rest := by
  rw [bytes]
  intro high low more percent same
  exact notEscape high low more percent same

theorem bytes_ne_nil (given : text ≠ []) : bytes text ≠ [] := by
  unfold bytes
  split
  · split <;> exact List.cons_ne_nil _ _
  · rename_i c rest _
    rw [Utf8.encode_cons, Utf8.encode_nil, List.append_nil]
    intro empty
    have none_ := congrArg List.length (List.append_eq_nil_iff.mp empty).1
    rw [String.length_utf8EncodeChar, List.length_nil] at none_
    exact absurd none_ c.utf8Size_pos.ne'
  · exact absurd rfl given

theorem lenient_eq_nil_iff : lenient text = [] ↔ text = [] := by
  constructor
  · intro empty
    by_contra given
    unfold lenient Utf8.fromUtf8Lossy at empty
    cases stands : bytes text with
    | nil => exact bytes_ne_nil given stands
    | cons first rest =>
        rw [stands, List.length_cons, Utf8.lossyFor] at empty
        split at empty <;> cases empty
  · rintro rfl
    rfl

/-- `quote` -/
def quote (text : List Char) : List Char :=
  text.flatMap fun c =>
    if c.isAlphanum || "_.-~/".toList.contains c then [c]
    else (String.utf8EncodeChar c).flatMap JavaScript.escapeByte

private theorem bytes_escapes (escaped : List UInt8) (rest : List Char) :
    bytes (escaped.flatMap JavaScript.escapeByte ++ rest) = escaped ++ bytes rest := by
  induction escaped with
  | nil => rfl
  | cons byte more ih =>
      obtain ⟨high, low, one, two, digits, first, second, value⟩ := JavaScript.escapeByte_eq byte
      rw [List.flatMap_cons, digits, List.append_assoc]
      change bytes ('%' :: high :: low :: (more.flatMap JavaScript.escapeByte ++ rest)) = _
      rw [bytes, first, second, ih]
      dsimp only
      rw [value]
      rfl

theorem bytes_quote (text : List Char) : bytes (quote text) = Utf8.encode text := by
  induction text with
  | nil => rfl
  | cons c text ih =>
      rw [quote, List.flatMap_cons, Utf8.encode_cons]
      change bytes (_ ++ quote text) = _
      split
      · rename_i plain
        have escapes : c ≠ '%' := by
          rintro rfl
          exact absurd plain (by decide)
        rw [List.singleton_append, bytes_cons fun _ _ _ percent => absurd percent escapes, ih,
          Utf8.encode_cons, Utf8.encode_nil, List.append_nil]
      · rw [bytes_escapes, ih]

theorem lenient_quote (text : List Char) : lenient (quote text) = text := by
  rw [lenient, bytes_quote, Utf8.fromUtf8Lossy_encode]

end Escapes

section Query

/-- The names of a query, each with its value if there is one. -/
def items (query : List Char) : List (List Char × Option (List Char)) :=
  (query.splitOn '&').map fun item =>
    match Text.splitAround ['='] item with
    | some (name, value) => (name, some value)
    | none => (item, none)

def unplus (text : List Char) : List Char := text.map fun c => if c = '+' then ' ' else c

/-- `parse_qsl`; blank values are left out. -/
def givenPairs : List (List Char × Option (List Char)) → List (List Char × List Char)
  | [] => []
  | (name, value) :: rest =>
      if value.getD [] = [] then givenPairs rest
      else (lenient (unplus name), lenient (unplus (value.getD []))) :: givenPairs rest

/-- `splitQueryString`, as a list; a missing value is a blank one. -/
def allPairs : List (List Char × Option (List Char)) → Option (List (List Char × List Char))
  | [] => some []
  | (name, value) :: rest =>
      if name = [] then allPairs rest
      else
        (strict (unplus name)).bind fun name => (strict (unplus (value.getD []))).bind fun value =>
          (allPairs rest).map ((name, value) :: ·)

def values (pairs : List (List Char × List Char)) (name : List Char) : List (List Char) :=
  (pairs.filter fun pair => pair.1 == name).map Prod.snd

variable {name : List Char}

theorem unplus_eq_nil_iff {text : List Char} : unplus text = [] ↔ text = [] := List.map_eq_nil_iff

theorem values_cons (key value name : List Char) (rest : List (List Char × List Char)) :
    values ((key, value) :: rest) name =
      if key = name then value :: values rest name else values rest name := by
  rw [values, List.filter_cons]
  by_cases same : key = name
  · rw [if_pos same, if_pos (beq_iff_eq.mpr same)]
    rfl
  · rw [if_neg same, if_neg (fun equal => same (beq_iff_eq.mp equal))]
    rfl

/-- Of the values that the strict reading has, the lenient one has those that are not blank. -/
theorem values_givenPairs (named : name ≠ []) {items : List (List Char × Option (List Char))}
    {pairs : List (List Char × List Char)} (decodes : allPairs items = some pairs) :
    values (givenPairs items) name = (values pairs name).filter fun value => value != [] := by
  induction items generalizing pairs with
  | nil =>
      obtain rfl := Option.some.inj decodes
      rfl
  | cons item rest ih =>
      obtain ⟨key, value⟩ := item
      rw [allPairs] at decodes
      rw [givenPairs]
      by_cases nameless : key = []
      · rw [if_pos nameless] at decodes
        subst nameless
        rw [← ih decodes]
        split
        · rfl
        · exact (values_cons _ _ _ _).trans (if_neg named.symm)
      · rw [if_neg nameless] at decodes
        obtain ⟨own, keyReads, decodes⟩ := Option.bind_eq_some_iff.mp decodes
        obtain ⟨given, valueReads, decodes⟩ := Option.bind_eq_some_iff.mp decodes
        obtain ⟨others, restReads, rfl⟩ := Option.map_eq_some_iff.mp decodes
        have later := ih restReads
        rw [values_cons]
        split
        · rename_i blank
          rw [blank] at valueReads
          obtain rfl := Option.some.inj valueReads
          refine later.trans ?_
          split <;> rfl
        · rename_i blank
          have solid : (given != []) = true := by
            rw [bne_iff_ne, ← lenient_of_strict valueReads, ne_eq, lenient_eq_nil_iff]
            exact mt unplus_eq_nil_iff.mp blank
          rw [lenient_of_strict keyReads, values_cons, lenient_of_strict valueReads]
          split
          · rw [List.filter_cons, if_pos solid, later]
          · exact later

/-- The last value is the first that is not blank, or what is taken where all of them are. -/
def Settled (values : List (List Char)) (default : List Char) : Prop :=
  ∀ last, values.getLast? = some last →
    ((values.filter fun value => value != []).head?).getD default = last

theorem settled_iff (values : List (List Char)) (default : List Char) :
    ((values.filter fun value => value != []).head?).getD default = values.getLast?.getD default ↔
      Settled values default := by
  cases ends : values.getLast? with
  | none =>
      rw [List.getLast?_eq_none_iff] at ends
      subst ends
      exact iff_of_true rfl fun last there => absurd there (Option.some_ne_none last).symm
  | some last =>
      rw [Settled, ends]
      exact ⟨fun same other there => same.trans (Option.some.inj there),
        fun settled => settled last rfl⟩

theorem settled_singleton {value : List Char} (given : value ≠ []) (default : List Char) :
    Settled [value] default := by
  intro last there
  obtain rfl := Option.some.inj there
  rw [List.filter_cons, if_pos (bne_iff_ne.mpr given)]
  rfl

end Query

end MolidoVpn.UrlEncoded
