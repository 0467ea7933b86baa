import Mathlib.Data.List.Basic
import Mathlib.Data.List.Nodup

/-!
Lists dealt out: the elements at chosen places, a round over limited piles, and the first element
of every key.
-/

namespace MolidoVpn.Dealing

universe u v

variable {Element : Type u} {Key : Type v}

section Places

/-- The elements at the places that pass the test, the first place being `place`. -/
def filterIdx (test : Nat → Bool) : Nat → List Element → List Element
  | _, [] => []
  | place, element :: rest =>
      if test place then element :: filterIdx test (place + 1) rest
      else filterIdx test (place + 1) rest

theorem filterIdx_sublist (test : Nat → Bool) (place : Nat) (elements : List Element) :
    (filterIdx test place elements).Sublist elements := by
  induction elements generalizing place with
  | nil => exact List.Sublist.slnil
  | cons element rest ih =>
      rw [filterIdx]
      split
      · exact (ih (place + 1)).cons_cons element
      · exact (ih (place + 1)).cons element

theorem filterIdx_perm (test : Nat → Bool) (place : Nat) (elements : List Element) :
    (filterIdx test place elements ++
      filterIdx (fun other => !test other) place elements).Perm elements := by
  induction elements generalizing place with
  | nil => exact List.Perm.nil
  | cons element rest ih =>
      rw [filterIdx, filterIdx]
      cases test place with
      | true => exact (ih (place + 1)).cons element
      | false => exact List.perm_middle.trans ((ih (place + 1)).cons element)

/-- Elements at places of two kinds have different keys, if all elements have. -/
theorem key_ne_of_filterIdx {key : Element → Key} {test other : Nat → Bool}
    (apart : ∀ place, test place = true → other place = false) {place : Nat}
    {elements : List Element} (distinct : (elements.map key).Nodup) {first second : Element}
    (chosen : first ∈ filterIdx test place elements)
    (otherwise : second ∈ filterIdx other place elements) : key first ≠ key second := by
  induction elements generalizing place with
  | nil => cases chosen
  | cons element rest ih =>
      rw [List.map_cons, List.nodup_cons] at distinct
      have fresh {chosen : Element} (member : chosen ∈ rest) : key element ≠ key chosen := by
        intro same
        exact distinct.1 (same ▸ List.mem_map_of_mem member)
      rw [filterIdx] at chosen otherwise
      have later {test : Nat → Bool} {chosen : Element}
          (member : chosen ∈ filterIdx test (place + 1) rest) : chosen ∈ rest :=
        (filterIdx_sublist test (place + 1) rest).subset member
      split at chosen
      · rename_i here
        rw [apart place here] at otherwise
        rcases List.mem_cons.mp chosen with rfl | chosen
        · exact fresh (later otherwise)
        · exact ih distinct.2 chosen otherwise
      · split at otherwise
        · rcases List.mem_cons.mp otherwise with rfl | otherwise
          · exact (fresh (later chosen)).symm
          · exact ih distinct.2 chosen otherwise
        · exact ih distinct.2 chosen otherwise

end Places

section Piles

/-- Put the element on the pile if there is room. -/
def push (limit : Nat) (element : Element) (pile : List Element) : List Element :=
  if pile.length < limit then pile ++ [element] else pile

/-- Deal to the piles in turn, from the turn `place` on. -/
def deal (count limit : Nat) : Nat → List (List Element) → List Element → List (List Element)
  | _, piles, [] => piles
  | place, piles, element :: rest =>
      deal count limit (place + 1) (piles.modify (place % count) (push limit element)) rest

theorem push_append_take (limit : Nat) (element : Element) (pile rest : List Element) :
    push limit element pile ++ rest.take (limit - (push limit element pile).length) =
      pile ++ (element :: rest).take (limit - pile.length) := by
  unfold push
  split
  · rename_i room
    obtain ⟨left, same⟩ : ∃ left, limit - pile.length = left + 1 :=
      ⟨limit - pile.length - 1, by omega⟩
    have after : limit - (pile ++ [element]).length = left := by
      rw [List.length_append, List.length_singleton]
      omega
    rw [after, same, List.take_succ_cons, List.append_assoc, List.singleton_append]
  · rename_i full
    have none_ : limit - pile.length = 0 := by omega
    rw [none_, List.take_zero, List.take_zero]

/-- Each pile has what was dealt at its turns, as far as there was room. -/
theorem deal_getElem? (count limit place : Nat) (piles : List (List Element))
    (elements : List Element) (turn : Nat) :
    (deal count limit place piles elements)[turn]? = piles[turn]?.map fun pile =>
      pile ++ (filterIdx (fun other => other % count == turn) place elements).take
        (limit - pile.length) := by
  induction elements generalizing place piles with
  | nil =>
      simp only [deal, filterIdx, List.take_nil, List.append_nil]
      exact (Option.map_id' (x := piles[turn]?)).symm
  | cons element rest ih =>
      rw [deal, ih, List.getElem?_modify, filterIdx]
      cases piles[turn]? with
      | none => rfl
      | some pile =>
          simp only [Option.map_eq_map, Option.map_some, Option.some.injEq]
          by_cases here : place % count = turn
          · rw [if_pos here, if_pos (beq_iff_eq.mpr here)]
            exact push_append_take limit element pile _
          · rw [if_neg here, if_neg (by rwa [beq_iff_eq])]

/-- Move elements over as long as the pile is short. -/
def topUp (minimum : Nat) : List Element → List Element → List Element
  | pile, [] => pile
  | pile, element :: rest =>
      if pile.length < minimum then topUp minimum (pile ++ [element]) rest else pile

theorem topUp_eq (minimum : Nat) (pile others : List Element) :
    topUp minimum pile others = pile ++ others.take (minimum - pile.length) := by
  induction others generalizing pile with
  | nil => rw [topUp, List.take_nil, List.append_nil]
  | cons element rest ih =>
      rw [topUp, ← push_append_take, push]
      split
      · exact ih _
      · rename_i full
        have none_ : minimum - pile.length = 0 := by omega
        rw [none_, List.take_zero, List.append_nil]

end Piles

end MolidoVpn.Dealing
