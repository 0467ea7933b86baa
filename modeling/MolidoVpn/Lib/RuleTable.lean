import Mathlib.Data.List.Basic

/-!
Tables of rules of which the first that applies decides, and which of the rules ever do.
-/

namespace MolidoVpn.RuleTable

universe u v

variable {Rule : Type u} {Input : Type v} (applies : Rule → Input → Bool)

/-- The rule that decides about this input. -/
def decides (rules : List Rule) (input : Input) : Option Rule :=
  rules.find? fun rule => applies rule input

/-- The rule at this place decides about some input. -/
def Used (rules : List Rule) (place : Nat) : Prop :=
  ∃ input, rules.findIdx? (fun rule => applies rule input) = some place

section Decides

variable {applies} {before : List Rule} {input : Input}

theorem decides_nil : decides applies [] input = none := rfl

theorem decides_cons (rule : Rule) (rules : List Rule) :
    decides applies (rule :: rules) input =
      if applies rule input then some rule else decides applies rules input := by
  rw [decides, List.find?_cons]
  cases applies rule input <;> rfl

/-- Rules that do not apply might as well not be there. -/
theorem decides_append (silent : ∀ rule ∈ before, applies rule input = false)
    (after : List Rule) :
    decides applies (before ++ after) input = decides applies after input := by
  have none_ : before.find? (fun rule => applies rule input) = none := by
    rw [List.find?_eq_none]
    intro rule member applied
    rw [silent rule member] at applied
    cases applied
  rw [decides, List.find?_append, none_, Option.none_or]
  rfl

/-- Where a rule applies, one that applies decides, and it comes no later. -/
theorem decides_of_applies {rule : Rule} (member : rule ∈ before)
    (applied : applies rule input = true) (after : List Rule) :
    ∃ first ∈ before, applies first input = true ∧
      decides applies (before ++ after) input = some first := by
  have found : (before.find? fun rule => applies rule input).isSome :=
    List.find?_isSome.mpr ⟨rule, member, applied⟩
  obtain ⟨first, first_eq⟩ := Option.isSome_iff_exists.mp found
  have applies_first : applies first input = true := by
    simpa using List.find?_some first_eq
  refine ⟨first, List.mem_of_find?_eq_some first_eq, applies_first, ?_⟩
  rw [decides, List.find?_append, first_eq]
  rfl

end Decides

section Used

variable {applies} {rules : List Rule}

/-- A rule is used on the input of which it is the first to say yes. -/
theorem used_iff {place : Nat} :
    Used applies rules place ↔ ∃ input,
      (rules.map fun rule => applies rule input)[place]? = some true ∧
        ∀ earlier ∈ (rules.map fun rule => applies rule input).take place, earlier = false := by
  have first (input : Input) : rules.findIdx? (fun rule => applies rule input) = some place ↔
      (rules.map fun rule => applies rule input)[place]? = some true ∧
        ∀ earlier ∈ (rules.map fun rule => applies rule input).take place, earlier = false := by
    rw [List.findIdx?_eq_some_iff_getElem, ← List.map_take, List.forall_mem_map,
      List.getElem?_map, Option.map_eq_some_iff]
    constructor
    · rintro ⟨inside, applied, earlier⟩
      refine ⟨⟨rules[place], List.getElem?_eq_getElem inside, applied⟩, ?_⟩
      intro rule member
      obtain ⟨index, bound, rfl⟩ := List.mem_take_iff_getElem.mp member
      exact Bool.eq_false_iff.mpr (earlier index (by omega))
    · rintro ⟨⟨rule, here, applied⟩, earlier⟩
      obtain ⟨inside, rfl⟩ := List.getElem?_eq_some_iff.mp here
      refine ⟨inside, applied, ?_⟩
      intro index before
      exact Bool.eq_false_iff.mp
        (earlier _ (List.mem_take_iff_getElem.mpr ⟨index, by omega, rfl⟩))
  exact exists_congr first

/-- A rule whose every input an earlier rule takes is never the one that decides. -/
theorem not_used_of_covered {place : Nat} {rule cover : Rule} (here : rules[place]? = some rule)
    (earlier : cover ∈ rules.take place)
    (covers : ∀ input, applies rule input = true → applies cover input = true) :
    ¬Used applies rules place := by
  rw [used_iff]
  rintro ⟨input, applied, silent⟩
  rw [List.getElem?_map, here] at applied
  have quiet := silent (applies cover input)
    (by rw [← List.map_take]; exact List.mem_map_of_mem earlier)
  rw [covers input (Option.some.inj applied)] at quiet
  cases quiet

end Used

end MolidoVpn.RuleTable
