import Mathlib.Data.List.AList

/-!
Tables with unique keys (`AList`), beyond what the library has: changing every
value, dropping entries, and reading off the part of a per-entry report that one key wrote.
-/

namespace MolidoVpn.Table

universe u v w

variable {Key : Type u} {Value : Type v} {Other : Type w}

/-- Change every value, with its key at hand. -/
def mapValues (change : Key → Value → Other) (table : AList (fun _ : Key => Value)) :
    AList (fun _ : Key => Other) :=
  { entries := table.entries.map fun entry => ⟨entry.1, change entry.1 entry.2⟩
    nodupKeys := by
      rw [List.NodupKeys, List.keys, List.map_map]
      exact table.nodupKeys }

@[simp]
theorem keys_mapValues (change : Key → Value → Other) (table : AList (fun _ : Key => Value)) :
    (mapValues change table).keys = table.keys := by
  simp only [mapValues, AList.keys, List.keys, List.map_map]
  rfl

variable [DecidableEq Key]

@[simp]
theorem lookup_mapValues (change : Key → Value → Other) (table : AList (fun _ : Key => Value))
    (key : Key) :
    (mapValues change table).lookup key = (table.lookup key).map (change key) :=
  List.dlookup_map₂ key

theorem lookup_insert (table : AList (fun _ : Key => Value)) (key at_ : Key) (value : Value) :
    (table.insert at_ value).lookup key = if key = at_ then some value else table.lookup key := by
  split
  · rename_i here
    subst here
    exact AList.lookup_insert table
  · rename_i elsewhere
    exact AList.lookup_insert_ne elsewhere

theorem lookup_erase (table : AList (fun _ : Key => Value)) (key at_ : Key) :
    (table.erase at_).lookup key = if key = at_ then none else table.lookup key := by
  split
  · rename_i here
    subst here
    exact AList.lookup_erase _ table
  · rename_i elsewhere
    exact AList.lookup_erase_ne elsewhere

theorem perm_erase {table : AList (fun _ : Key => Value)} {key : Key} {value : Value}
    (found : table.lookup key = some value) :
    table.entries.Perm (⟨key, value⟩ :: (table.erase key).entries) := by
  have member : key ∈ table.entries.keys := AList.lookup_isSome.mp (found ▸ rfl)
  obtain ⟨other, before, after, fresh, same, erased⟩ := List.exists_of_kerase member
  have there : (⟨key, other⟩ : Sigma fun _ : Key => Value) ∈ table.entries := by
    rw [same]
    exact List.mem_append_right _ List.mem_cons_self
  obtain rfl := Option.some.inj (found.symm.trans (AList.mem_lookup_iff.mpr there))
  have left : (table.erase key).entries = before ++ after := erased
  rw [left, same]
  exact List.perm_middle

/-- What the new value of a key has in common with the old one, no lookup can tell apart. -/
theorem map_lookup_insert {Seen : Type w} (table : AList (fun _ : Key => Value))
    (see : Value → Seen) {at_ : Key} {old : Value} (new : Value)
    (found : table.lookup at_ = some old) (same : see new = see old) (key : Key) :
    ((table.insert at_ new).lookup key).map see = (table.lookup key).map see := by
  rw [lookup_insert]
  by_cases here : key = at_
  · subst here
    rw [if_pos rfl, found, Option.map_some, Option.map_some, same]
  · rw [if_neg here]

private theorem filter_flatMap_entries {Record : Type w}
    (report : Key → Value → List Record) (about : Record → Bool) (key : Key)
    (own : ∀ value, ∀ record ∈ report key value, about record = true)
    (others : ∀ other value, other ≠ key → ∀ record ∈ report other value, about record = false)
    (entries : List (Sigma fun _ : Key => Value)) (nodup : entries.NodupKeys) :
    (entries.flatMap fun entry => report entry.1 entry.2).filter about =
      match entries.dlookup key with
      | some value => report key value
      | none => [] := by
  induction entries with
  | nil => rfl
  | cons entry rest ih =>
      obtain ⟨fresh, nodupRest⟩ := List.nodupKeys_cons.mp nodup
      rw [List.flatMap_cons, List.filter_append, ih nodupRest]
      by_cases here : key = entry.1
      · subst here
        rw [List.dlookup_cons_eq, List.dlookup_eq_none.mpr fresh, List.append_nil]
        exact List.filter_eq_self.mpr (own entry.2)
      · rw [List.dlookup_cons_ne _ _ here]
        have silent : (report entry.1 entry.2).filter about = [] := by
          rw [List.filter_eq_nil_iff]
          intro record member
          rw [others entry.1 entry.2 (Ne.symm here) record member]
          exact Bool.false_ne_true
        rw [silent, List.nil_append]

/-- What one key wrote into a report over all entries. -/
theorem filter_report {Record : Type w} (report : Key → Value → List Record)
    (about : Record → Bool) (key : Key)
    (own : ∀ value, ∀ record ∈ report key value, about record = true)
    (others : ∀ other value, other ≠ key → ∀ record ∈ report other value, about record = false)
    (table : AList (fun _ : Key => Value)) :
    (table.entries.flatMap fun entry => report entry.1 entry.2).filter about =
      match table.lookup key with
      | some value => report key value
      | none => [] :=
  filter_flatMap_entries report about key own others table.entries table.nodupKeys

section Keep

/-- Drop the entries that a test rejects. -/
def keep (test : Key → Value → Bool) (table : AList (fun _ : Key => Value)) :
    AList (fun _ : Key => Value) :=
  { entries := table.entries.filter fun entry => test entry.1 entry.2
    nodupKeys := table.nodupKeys.sublist List.filter_sublist }

theorem mem_entries_iff (table : AList (fun _ : Key => Value)) (key : Key) (value : Value) :
    (⟨key, value⟩ : Sigma fun _ : Key => Value) ∈ table.entries ↔ table.lookup key = some value :=
  AList.mem_lookup_iff.symm

theorem lookup_keep_eq_some_iff (test : Key → Value → Bool)
    (table : AList (fun _ : Key => Value)) (key : Key) (value : Value) :
    (keep test table).lookup key = some value ↔
      table.lookup key = some value ∧ test key value = true := by
  rw [← mem_entries_iff, ← mem_entries_iff, keep, List.mem_filter]

theorem lookup_keep (test : Key → Value → Bool) (table : AList (fun _ : Key => Value))
    (key : Key) : (keep test table).lookup key = (table.lookup key).filter (test key) := by
  ext value
  rw [lookup_keep_eq_some_iff, Option.filter_eq_some_iff]

end Keep

end MolidoVpn.Table
