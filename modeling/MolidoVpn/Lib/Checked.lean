import Mathlib.Data.List.Basic

/-!
Indexing and slicing that stop the program out of range, as in a language whose slices are
checked while it runs. A slice is never longer than what it is taken from.
-/

namespace MolidoVpn.Checked

universe u

inductive Panic where
  | index
  | slice
  | overflow
  deriving DecidableEq, Repr

variable {α : Type u}

/-- `items[index]` -/
def get (items : List α) (index : Nat) : Except Panic α :=
  match items[index]? with
  | some item => .ok item
  | none => .error .index

/-- `&items[start..stop]` -/
def slice (items : List α) (start stop : Nat) :
    Except Panic { part : List α // part.length ≤ items.length } :=
  if start ≤ stop ∧ stop ≤ items.length then
    .ok ⟨(items.take stop).drop start, by
      rw [List.length_drop, List.length_take]
      omega⟩
  else .error .slice

/-- `&items[start..]` -/
def sliceFrom (items : List α) (start : Nat) :
    Except Panic { part : List α // part.length ≤ items.length } :=
  slice items start items.length

/-- The program has not stopped here. -/
def Safe (result : Except Panic α) : Prop :=
  ∃ value, result = .ok value

theorem safe_ok (value : α) : Safe (.ok value) :=
  ⟨value, rfl⟩

theorem not_safe_error (panic : Panic) : ¬Safe (.error panic : Except Panic α) := by
  rintro ⟨value, same⟩
  cases same

@[simp]
theorem ok_bind {β : Type u} (value : α) (rest : α → Except Panic β) :
    (Except.ok value >>= rest) = rest value := rfl

@[simp]
theorem error_bind {β : Type u} (panic : Panic) (rest : α → Except Panic β) :
    (Except.error panic >>= rest) = .error panic := rfl

theorem safe_bind {β : Type u} {first : Except Panic α} {rest : α → Except Panic β} {value : α}
    (taken : first = .ok value) : Safe (first >>= rest) ↔ Safe (rest value) := by
  rw [taken]
  exact Iff.rfl

theorem not_safe_bind {β : Type u} {first : Except Panic α} {rest : α → Except Panic β}
    {panic : Panic} (stopped : first = .error panic) : ¬Safe (first >>= rest) := by
  rw [stopped]
  exact not_safe_error panic

theorem safe_map {β : Type u} {first : Except Panic α} (wrap : α → β) :
    Safe (first >>= fun value => pure (wrap value)) ↔ Safe first := by
  cases first with
  | ok value => exact ⟨fun _ => safe_ok value, fun _ => safe_ok (wrap value)⟩
  | error panic =>
      exact ⟨fun safe => absurd safe (not_safe_error panic),
        fun safe => absurd safe (not_safe_error panic)⟩

theorem get_of_lt {items : List α} {index : Nat} (default : α) (inside : index < items.length) :
    get items index = .ok (items.getD index default) := by
  unfold get
  rw [List.getD_eq_getElem?_getD, List.getElem?_eq_getElem inside]
  rfl

theorem slice_of_le (items : List α) (start stop : Nat) (ordered : start ≤ stop)
    (inside : stop ≤ items.length) :
    ∃ part, slice items start stop = .ok part ∧ part.1 = (items.take stop).drop start := by
  unfold slice
  rw [if_pos ⟨ordered, inside⟩]
  exact ⟨_, rfl, rfl⟩

theorem slice_error (items : List α) (start stop : Nat)
    (outside : stop < start ∨ items.length < stop) : slice items start stop = .error .slice := by
  unfold slice
  rw [if_neg (by omega)]

theorem sliceFrom_of_le (items : List α) (start : Nat) (inside : start ≤ items.length) :
    ∃ part, sliceFrom items start = .ok part ∧ part.1 = items.drop start := by
  obtain ⟨part, taken, same⟩ := slice_of_le items start items.length inside (Nat.le_refl _)
  rw [List.take_length] at same
  exact ⟨part, taken, same⟩

section Front

variable {items part rest : List α} {place : Nat}

theorem get_of_drop {item : α} (front : items.drop place = item :: rest) :
    get items place = .ok item := by
  have there : items[place]? = some item := by
    have first := congrArg (·[0]?) front
    simp only [List.getElem?_drop, Nat.add_zero, List.getElem?_cons_zero] at first
    exact first
  unfold get
  rw [there]

theorem drop_of_front (part : List α) (front : items.drop place = part ++ rest) :
    items.drop (place + part.length) = rest := by
  rw [← List.drop_drop, front, List.drop_left]

theorem length_of_front (front : items.drop place = part ++ rest) (inside : place ≤ items.length) :
    place + part.length + rest.length = items.length := by
  have lengths := congrArg List.length front
  rw [List.length_drop, List.length_append] at lengths
  omega

theorem slice_of_front (front : items.drop place = part ++ rest) (inside : place ≤ items.length) :
    ∃ taken, slice items place (place + part.length) = .ok taken ∧ taken.1 = part := by
  have lengths := length_of_front front inside
  obtain ⟨taken, sliced, same⟩ :=
    slice_of_le items place (place + part.length) (by omega) (by omega)
  refine ⟨taken, sliced, ?_⟩
  rw [same, List.drop_take, front, Nat.add_sub_cancel_left, List.take_left]

end Front

end MolidoVpn.Checked
