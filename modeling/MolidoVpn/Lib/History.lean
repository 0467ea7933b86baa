import Mathlib.Data.List.Basic

/-!
Histories, oldest record first, and properties of every record given what came
before it: how they grow with the history, and how they are read off a part of
the history.
-/

namespace MolidoVpn.History

universe u

variable {Record : Type u}

/-- Every record stands in this relation to the records before it. -/
def Every (holds : List Record → Record → Prop) (history : List Record) : Prop :=
  ∀ before record after, history = before ++ record :: after → holds before record

/-- A record of an extended history is an old one, or one of the new ones. -/
theorem append_eq_cons_cases {history added before after : List Record} {record : Record}
    (split : history ++ added = before ++ record :: after) :
    (∃ rest, history = before ++ record :: rest) ∨
      ∃ early, before = history ++ early ∧ added = early ++ record :: after := by
  rcases List.append_eq_append_iff.mp split with
    ⟨early, atBefore, atAdded⟩ | ⟨late, atHistory, atRest⟩
  · exact Or.inr ⟨early, atBefore, atAdded⟩
  · cases late with
    | nil =>
        refine Or.inr ⟨[], ?_, ?_⟩
        · rw [List.append_nil] at atHistory
          rw [atHistory, List.append_nil]
        · exact atRest.symm
    | cons head tail =>
        rw [List.cons_append, List.cons.injEq] at atRest
        obtain ⟨rfl, _⟩ := atRest
        exact Or.inl ⟨tail, atHistory⟩

variable {holds : List Record → Record → Prop} {history added : List Record}

theorem every_nil : Every holds [] := by
  intro before record after split
  cases before <;> cases split

theorem Every.append (earlier : Every holds history)
    (new : ∀ early record late, added = early ++ record :: late →
      holds (history ++ early) record) : Every holds (history ++ added) := by
  intro before record after split
  rcases append_eq_cons_cases split with ⟨rest, old⟩ | ⟨early, rfl, fresh⟩
  · exact earlier before record rest old
  · exact new early record after fresh

/-- New records that the property says nothing about. -/
theorem Every.append_silent (earlier : Every holds history)
    (silent : ∀ record ∈ added, ∀ before, holds before record) :
    Every holds (history ++ added) := by
  apply earlier.append
  intro early record late split
  exact silent record (by rw [split]; exact List.mem_append_right _ List.mem_cons_self) _

theorem Every.snoc {record : Record} (earlier : Every holds history)
    (last : holds history record) : Every holds (history ++ [record]) := by
  apply earlier.append
  intro early other late split
  cases early with
  | nil =>
      rw [List.nil_append, List.cons.injEq] at split
      rw [← split.1, List.append_nil]
      exact last
  | cons head tail =>
      rw [List.cons_append, List.cons.injEq] at split
      exact absurd split.2.symm (List.append_ne_nil_of_right_ne_nil tail (List.cons_ne_nil _ _))

theorem Every.of_append (whole : Every holds (history ++ added)) : Every holds history := by
  intro before record after split
  apply whole before record (after ++ added)
  rw [split, List.append_assoc, List.cons_append]

theorem every_snoc_iff {record : Record} :
    Every holds (history ++ [record]) ↔ Every holds history ∧ holds history record := by
  constructor
  · intro whole
    exact ⟨whole.of_append, whole history record [] rfl⟩
  · rintro ⟨earlier, last⟩
    exact earlier.snoc last

theorem every_append_silent_iff (silent : ∀ record ∈ added, ∀ before, holds before record) :
    Every holds (history ++ added) ↔ Every holds history :=
  ⟨Every.of_append, fun earlier => earlier.append_silent silent⟩

/-- A property of the records that one filter keeps, read off the kept part. -/
theorem Every.of_filter {keep : Record → Bool} {whole : List Record → Record → Prop}
    (part : Every holds (history.filter keep))
    (back : ∀ before record, keep record = true → holds (before.filter keep) record →
      whole before record) :
    Every (fun before record => keep record = true → whole before record) history := by
  rintro before record after rfl kept
  apply back before record kept
  apply part (before.filter keep) record (after.filter keep)
  rw [List.filter_append, List.filter_cons_of_pos kept]

end MolidoVpn.History
