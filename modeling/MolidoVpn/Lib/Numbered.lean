import Mathlib.Data.List.Basic

/-!
Lists whose entries are known by their numbers: what stands at a number after one entry has been
replaced, changed or added.
-/

namespace MolidoVpn.Numbered

universe u

variable {α : Type u} {list : List α} {index other : Nat} {new found : α} {change : α → α}

theorem getElem?_set_cases (here : (list.set index new)[other]? = some found) :
    (other = index ∧ found = new) ∨ (other ≠ index ∧ list[other]? = some found) := by
  rw [List.getElem?_set] at here
  by_cases same : index = other
  · rw [if_pos same] at here
    split at here
    · exact .inl ⟨same.symm, (Option.some.inj here).symm⟩
    · cases here
  · rw [if_neg same] at here
    exact .inr ⟨fun equal => same equal.symm, here⟩

theorem getElem?_modify_cases (here : (list.modify index change)[other]? = some found) :
    ∃ old, list[other]? = some old ∧
      (other = index ∧ found = change old ∨ other ≠ index ∧ found = old) := by
  rw [List.getElem?_modify, Option.map_eq_map, Option.map_eq_some_iff] at here
  obtain ⟨old, known, same⟩ := here
  refine ⟨old, known, ?_⟩
  by_cases equal : index = other
  · rw [if_pos equal] at same
    exact .inl ⟨equal.symm, same.symm⟩
  · rw [if_neg equal] at same
    exact .inr ⟨fun back => equal back.symm, same.symm⟩

theorem getElem?_append_singleton_cases (here : (list ++ [new])[other]? = some found) :
    list[other]? = some found ∨ other = list.length ∧ found = new := by
  by_cases inside : other < list.length
  · rw [List.getElem?_append_left inside] at here
    exact .inl here
  · rw [List.getElem?_append_right (Nat.le_of_not_lt inside), List.getElem?_singleton] at here
    split at here
    · exact .inr ⟨by omega, (Option.some.inj here).symm⟩
    · cases here

theorem getElem?_append_of_some (here : list[index]? = some found) (more : List α) :
    (list ++ more)[index]? = some found :=
  (List.getElem?_append_left (List.getElem?_eq_some_iff.mp here).1).trans here

theorem mem_set_of_getElem?_ne (here : list[other]? = some found) (different : other ≠ index) :
    found ∈ list.set index new := by
  apply List.mem_of_getElem? (i := other)
  exact (List.getElem?_set_ne fun same => different same.symm).trans here

/-- Replacing an entry loses no other value of the list. -/
theorem mem_set_of_ne {old : α} (here : list[index]? = some old) (member : found ∈ list)
    (different : found ≠ old) : found ∈ list.set index new := by
  obtain ⟨place, there⟩ := List.getElem?_of_mem member
  apply mem_set_of_getElem?_ne there
  rintro rfl
  exact different (Option.some.inj (there.symm.trans here))

end MolidoVpn.Numbered
