import Mathlib.Data.List.Basic

/-!
JSON values as `org.json` keeps them, and their text.
-/

namespace MolidoVpn

/-- A number with what `toString` of it gives, and how it stands in a JSON text: a number that
is not finite stands in none. -/
structure JsonNumber where
  text : List Char
  printed : Option (List Char)

inductive Json where
  | null
  | bool (value : Bool)
  | number (value : JsonNumber)
  | string (value : List Char)
  | array (items : List Json)
  | object (members : List (List Char × Json))

namespace Json

def int (value : Int) : Json :=
  let text := (toString value).toList
  .number ⟨text, some text⟩

def str (text : String) : Json := .string text.toList

/-- An object with constant names. -/
def obj (members : List (String × Json)) : Json :=
  .object (members.map fun member => (member.1.toList, member.2))

/-- `opt`; nothing where the value has no members. -/
def opt (json : Json) (name : String) : Option Json :=
  match json with
  | .object members => (members.find? fun member => member.1 == name.toList).map Prod.snd
  | _ => none

theorem opt_obj_nil (name : String) : (obj []).opt name = none := rfl

@[simp]
theorem opt_obj_cons (first : String × Json) (rest : List (String × Json)) (name : String) :
    (obj (first :: rest)).opt name =
      if first.1 = name then some first.2 else (obj rest).opt name := by
  rw [obj, opt, List.map_cons, List.find?_cons]
  by_cases same : first.1 = name
  · rw [same, if_pos rfl, beq_self_eq_true]
    rfl
  · have other : (first.1.toList == name.toList) = false :=
      beq_eq_false_iff_ne.mpr fun texts => same (String.toList_inj.mp texts)
    rw [if_neg same, other]
    rfl

section Print

def escaped (c : Char) : List Char :=
  if c = '"' ∨ c = '\\' ∨ c = '/' then ['\\', c]
  else if c = '\t' then ['\\', 't']
  else if c = '\x08' then ['\\', 'b']
  else if c = '\n' then ['\\', 'n']
  else if c = '\r' then ['\\', 'r']
  else if c = '\x0c' then ['\\', 'f']
  else if c.toNat < 32 then
    ['\\', 'u', '0', '0', Nat.digitChar (c.toNat / 16), Nat.digitChar (c.toNat % 16)]
  else [c]

def quoted (text : List Char) : List Char := '"' :: text.flatMap escaped ++ ['"']

mutual

/-- `JSONObject.toString`; nothing where a number is not finite. -/
def print : Json → Option (List Char)
  | .null => some "null".toList
  | .bool true => some "true".toList
  | .bool false => some "false".toList
  | .number value => value.printed
  | .string value => some (quoted value)
  | .array items => (printItems items).map fun texts =>
      '[' :: (List.intercalate [','] texts) ++ [']']
  | .object members => (printMembers members).map fun texts =>
      '{' :: (List.intercalate [','] texts) ++ ['}']

def printItems : List Json → Option (List (List Char))
  | [] => some []
  | item :: rest =>
      (print item).bind fun text => (printItems rest).map fun texts => text :: texts

def printMembers : List (List Char × Json) → Option (List (List Char))
  | [] => some []
  | (name, value) :: rest =>
      (print value).bind fun text =>
        (printMembers rest).map fun texts => (quoted name ++ ':' :: text) :: texts

end

/-- No number in it is not finite. -/
def Prints (json : Json) : Prop := json.print.isSome = true

@[simp]
theorem prints_string (value : List Char) : (Json.string value).Prints := by
  rw [Prints, print]
  rfl

@[simp]
theorem prints_str (text : String) : (str text).Prints := prints_string text.toList

@[simp]
theorem prints_bool (value : Bool) : (Json.bool value).Prints := by
  cases value <;> rw [Prints, print] <;> rfl

@[simp]
theorem prints_int (value : Int) : (int value).Prints := by
  rw [Prints, int, print]
  rfl

private theorem printItems_isSome_iff (items : List Json) :
    (printItems items).isSome = true ↔ ∀ item ∈ items, item.Prints := by
  induction items with
  | nil => simp [printItems]
  | cons item rest ih =>
      rw [printItems, List.forall_mem_cons, ← ih, Prints]
      cases item.print with
      | none => simp
      | some text => simp

private theorem printMembers_isSome_iff (members : List (List Char × Json)) :
    (printMembers members).isSome = true ↔ ∀ member ∈ members, member.2.Prints := by
  induction members with
  | nil => simp [printMembers]
  | cons member rest ih =>
      obtain ⟨name, value⟩ := member
      rw [printMembers, List.forall_mem_cons, ← ih, Prints]
      cases value.print with
      | none => simp
      | some text => simp

@[simp]
theorem prints_array (items : List Json) :
    (Json.array items).Prints ↔ ∀ item ∈ items, item.Prints := by
  rw [Prints, print, Option.isSome_map, printItems_isSome_iff]

@[simp]
theorem prints_obj (members : List (String × Json)) :
    (obj members).Prints ↔ ∀ member ∈ members, member.2.Prints := by
  rw [Prints, obj, print, Option.isSome_map, printMembers_isSome_iff, List.forall_mem_map]

/-- `String.valueOf` of the Java object. -/
def text : Json → Option (List Char)
  | .string value => some value
  | .number value => some value.text
  | other => other.print

@[simp]
theorem text_string (value : List Char) : (Json.string value).text = some value := rfl

@[simp]
theorem text_str (value : String) : (str value).text = some value.toList := rfl

@[simp]
theorem text_int (value : Int) : (int value).text = some (toString value).toList := rfl

/-- `optString`: empty where there is no such member or it has no text. -/
def optString (json : Json) (name : String) : List Char :=
  ((json.opt name).bind text).getD []

end Print

end Json

end MolidoVpn
