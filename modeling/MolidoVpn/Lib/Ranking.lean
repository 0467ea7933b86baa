import Mathlib.Data.List.Sort
import Mathlib.Data.Prod.Lex
import Mathlib.Order.OrderDual

/-!
Lists ranked by a key, elements with equal keys in the order in which they came, and who is
among the first of a ranking.
-/

namespace MolidoVpn.Ranking

universe u v

variable {Element : Type u} {Key : Type v} [LinearOrder Key] (key : Element → Key)

/-- A stable sort by the key. -/
def rank (elements : List Element) : List Element :=
  elements.insertionSort fun first second => key first ≤ key second

private instance total_key : Std.Total fun first second : Element => key first ≤ key second :=
  ⟨fun first second => le_total (key first) (key second)⟩

private instance trans_key : IsTrans Element fun first second => key first ≤ key second :=
  ⟨fun _ _ _ => le_trans⟩

theorem rank_perm (elements : List Element) : (rank key elements).Perm elements :=
  List.perm_insertionSort _ elements

@[simp]
theorem mem_rank {element : Element} {elements : List Element} :
    element ∈ rank key elements ↔ element ∈ elements :=
  (rank_perm key elements).mem_iff

@[simp]
theorem length_rank (elements : List Element) : (rank key elements).length = elements.length :=
  (rank_perm key elements).length_eq

theorem rank_sorted (elements : List Element) :
    (rank key elements).Pairwise fun first second => key first ≤ key second :=
  List.pairwise_insertionSort _ elements

/-- Elements that are in order already stay so, whatever stands between them. -/
theorem sublist_rank {ordered elements : List Element}
    (sorted : ordered.Pairwise fun first second => key first ≤ key second)
    (among : ordered.Sublist elements) : ordered.Sublist (rank key elements) :=
  List.sublist_insertionSort sorted among

/-- Elements with one key are ranked in the order in which they came. -/
theorem filter_rank (key : Element → Key) (at_ : Key) (elements : List Element) :
    (rank key elements).filter (fun element => key element = at_) =
      elements.filter fun element => key element = at_ := by
  have equal : (elements.filter fun element => key element = at_).Pairwise
      fun first second => key first ≤ key second := by
    apply List.pairwise_of_forall_mem_list
    intro first there second here
    rw [of_decide_eq_true (List.mem_filter.mp there).2,
      of_decide_eq_true (List.mem_filter.mp here).2]
  have among := (sublist_rank key equal List.filter_sublist).filter fun element => key element = at_
  rw [List.filter_filter] at among
  simp only [Bool.and_self] at among
  exact (among.eq_of_length ((rank_perm key elements).filter _).length_eq.symm).symm

/-- What counts of a key is how it orders the elements. -/
theorem rank_congr {Other : Type*} [LinearOrder Other] {key : Element → Key}
    {other : Element → Other}
    (same : ∀ first second, key first ≤ key second ↔ other first ≤ other second)
    (elements : List Element) : rank key elements = rank other elements := by
  have order : (fun first second => key first ≤ key second) =
      fun first second => other first ≤ other second :=
    funext₂ fun first second => propext (same first second)
  unfold rank
  congr!

variable {key}

/-- Who has at most so many elements that do not come behind it is among the first so many. -/
theorem mem_take_of_sorted {element : Element} {sorted : List Element} {limit : Nat}
    (order : sorted.Pairwise fun first second => key first ≤ key second)
    (member : element ∈ sorted)
    (few : sorted.countP (fun other => key other ≤ key element) ≤ limit) :
    element ∈ sorted.take limit := by
  obtain ⟨before, after, rfl⟩ := List.append_of_mem member
  have ahead : ∀ other ∈ before, key other ≤ key element := fun other there =>
    (List.pairwise_append.mp order).2.2 other there element List.mem_cons_self
  have counted : before.countP (fun other => key other ≤ key element) = before.length :=
    List.countP_eq_length.mpr fun other there => decide_eq_true (ahead other there)
  have itself : 0 < (element :: after).countP fun other => key other ≤ key element :=
    List.countP_pos_iff.mpr ⟨element, List.mem_cons_self, decide_eq_true (le_refl _)⟩
  rw [List.countP_append, counted] at few
  rw [List.take_append, List.mem_append]
  right
  have room : limit - before.length = limit - before.length - 1 + 1 := by omega
  rw [room, List.take_succ_cons]
  exact List.mem_cons_self

theorem mem_take_rank {element : Element} {elements : List Element} {limit : Nat}
    (member : element ∈ elements)
    (few : elements.countP (fun other => key other ≤ key element) ≤ limit) :
    element ∈ (rank key elements).take limit := by
  apply mem_take_of_sorted (rank_sorted key elements) ((mem_rank key).mpr member)
  rw [(rank_perm key elements).countP_eq]
  exact few

section Lexicographic

variable {First Second : Type*} [LinearOrder First] [LinearOrder Second]
  (first : Element → First) (second : Element → Second)

/-- By the first key, and of one first key the greater second ones in front. -/
def both (element : Element) : First ×ₗ Secondᵒᵈ :=
  toLex (first element, OrderDual.toDual (second element))

theorem both_le_both (element other : Element) :
    both first second element ≤ both first second other ↔
      first element < first other ∨
        first element = first other ∧ second other ≤ second element :=
  Prod.Lex.toLex_le_toLex

omit [LinearOrder First] [LinearOrder Second] in
theorem both_eq_both {element : Element} {at_ : First} {weight : Second} :
    both first second element = toLex (at_, OrderDual.toDual weight) ↔
      first element = at_ ∧ second element = weight := by
  rw [both, EmbeddingLike.apply_eq_iff_eq, Prod.mk.injEq, EmbeddingLike.apply_eq_iff_eq]

theorem first_sorted (elements : List Element) :
    (rank (both first second) elements).Pairwise fun earlier later =>
      first earlier ≤ first later := by
  apply (rank_sorted (both first second) elements).imp
  intro earlier later below
  rcases (both_le_both first second earlier later).mp below with less | ⟨same, _⟩
  · exact le_of_lt less
  · exact le_of_eq same

theorem second_sorted (elements : List Element) :
    (rank (both first second) elements).Pairwise fun earlier later =>
      first earlier = first later → second later ≤ second earlier := by
  apply (rank_sorted (both first second) elements).imp
  intro earlier later below same
  rcases (both_le_both first second earlier later).mp below with less | ⟨_, weights⟩
  · exact absurd same (ne_of_lt less)
  · exact weights

theorem filter_rank_both (at_ : First) (weight : Second) (elements : List Element) :
    (rank (both first second) elements).filter
        (fun element => first element = at_ ∧ second element = weight) =
      elements.filter fun element => first element = at_ ∧ second element = weight := by
  have stable := filter_rank (both first second) (toLex (at_, OrderDual.toDual weight)) elements
  simp only [both_eq_both] at stable
  exact stable

/-- A second key that is the same for all does not count. -/
theorem rank_both_const {weight : Second} (same : ∀ element, second element = weight)
    (elements : List Element) : rank (both first second) elements = rank first elements := by
  apply rank_congr
  intro element other
  rw [both_le_both, same, same, and_iff_left (le_refl weight), le_iff_lt_or_eq]

end Lexicographic

end MolidoVpn.Ranking
