import Mathlib.Data.List.Nodup
import Mathlib.Tactic.Linarith

/-!
Keyed stores of bounded count and bounded total size, oldest entry first: replacing the
entry of a key with the running total kept beside it, and dropping the oldest entries until
both bounds are met.
-/

namespace MolidoVpn.Eviction

universe u v

section Evict

variable {Element : Type u} (size : Element → Nat)

/-- The total size of a list of entries. -/
def total (entries : List Element) : Int := ((entries.map size).sum : Nat)

/-- Drop the oldest entries until count and running total are within their bounds. -/
def evict (maxCount : Nat) (maxTotal : Int) : List Element → Int → List Element × Int
  | [], running => ([], running)
  | first :: rest, running =>
      if maxCount < rest.length + 1 ∨ maxTotal < running then
        evict maxCount maxTotal rest (running - size first)
      else (first :: rest, running)

variable {size}

theorem total_cons (first : Element) (rest : List Element) :
    total size (first :: rest) = size first + total size rest := by
  rw [total, List.map_cons, List.sum_cons, Nat.cast_add]
  rfl

theorem total_append (entries more : List Element) :
    total size (entries ++ more) = total size entries + total size more := by
  rw [total, List.map_append, List.sum_append, Nat.cast_add]
  rfl

variable (maxCount : Nat) (maxTotal : Int)

/-- Only a suffix stays, so nothing is reordered or added. -/
theorem evict_suffix (entries : List Element) (running : Int) :
    (evict size maxCount maxTotal entries running).1 <:+ entries := by
  induction entries generalizing running with
  | nil => exact List.suffix_refl []
  | cons first rest ih =>
      unfold evict
      split
      · exact (ih _).trans (List.suffix_cons first rest)
      · exact List.suffix_refl _

/-- A running total that was right stays right. -/
theorem evict_total (entries : List Element) :
    (evict size maxCount maxTotal entries (total size entries)).2 =
      total size (evict size maxCount maxTotal entries (total size entries)).1 := by
  induction entries with
  | nil => rfl
  | cons first rest ih =>
      have remaining : total size (first :: rest) - size first = total size rest := by
        rw [total_cons]
        omega
      unfold evict
      rw [remaining]
      split
      · exact ih
      · rfl

theorem evict_fits (bound : 0 ≤ maxTotal) (entries : List Element) :
    (evict size maxCount maxTotal entries (total size entries)).1.length ≤ maxCount ∧
      (evict size maxCount maxTotal entries (total size entries)).2 ≤ maxTotal := by
  induction entries with
  | nil => exact ⟨Nat.zero_le _, bound⟩
  | cons first rest ih =>
      have remaining : total size (first :: rest) - size first = total size rest := by
        rw [total_cons]
        omega
      unfold evict
      rw [remaining]
      split
      · exact ih
      · rename_i within
        obtain ⟨few, small⟩ := not_or.mp within
        exact ⟨Nat.le_of_not_lt few, Int.le_of_not_gt small⟩

end Evict

section Keyed

variable {Key : Type u} {Value : Type v} [BEq Key] [LawfulBEq Key] (size : Key × Value → Nat)

/-- What a key adds to the total. -/
def share (entries : List (Key × Value)) (key : Key) : Int :=
  match entries.lookup key with
  | some value => size (key, value)
  | none => 0

variable {size}

private theorem filter_bne_of_notMem {entries : List (Key × Value)} {key : Key}
    (absent : key ∉ entries.map Prod.fst) :
    entries.filter (fun entry => entry.1 != key) = entries := by
  apply List.filter_eq_self.mpr
  intro entry member
  apply bne_iff_ne.mpr
  rintro rfl
  exact absent (List.mem_map_of_mem member)

/-- Without the entry of a key the total is less by what that adds. -/
theorem total_filter (entries : List (Key × Value)) (key : Key)
    (distinct : (entries.map Prod.fst).Nodup) :
    total size (entries.filter fun entry => entry.1 != key) =
      total size entries - share size entries key := by
  induction entries with
  | nil => rfl
  | cons first rest ih =>
      obtain ⟨name, value⟩ := first
      obtain ⟨absent, others⟩ := List.nodup_cons.mp distinct
      by_cases same : name = key
      · subst same
        have here : share size ((name, value) :: rest) name = size (name, value) := by
          rw [share, List.lookup_cons_self]
        rw [List.filter_cons_of_neg (by rw [bne_self_eq_false]; exact Bool.false_ne_true),
          filter_bne_of_notMem absent, total_cons, here]
        omega
      · have there : share size ((name, value) :: rest) key = share size rest key := by
          rw [share, List.lookup_cons, beq_false_of_ne (Ne.symm same)]
          rfl
        have kept : ((name, value).1 != key) = true := bne_iff_ne.mpr same
        rw [List.filter_cons, if_pos kept, total_cons, total_cons, ih others, there]
        omega

theorem replace_distinct {entries : List (Key × Value)} (key : Key) (value : Value)
    (distinct : (entries.map Prod.fst).Nodup) :
    ((entries.filter (fun entry => entry.1 != key) ++ [(key, value)]).map Prod.fst).Nodup := by
  rw [List.map_append, List.nodup_append]
  refine ⟨?_, List.nodup_singleton key, ?_⟩
  · exact distinct.sublist (List.filter_sublist.map Prod.fst)
  · rintro name member other last rfl
    obtain ⟨entry, kept, rfl⟩ := List.mem_map.mp member
    rw [List.map_singleton, List.mem_singleton] at last
    exact bne_iff_ne.mp (List.mem_filter.mp kept).2 last

end Keyed

end MolidoVpn.Eviction
