import Mathlib.Data.List.Basic
import Mathlib.Data.List.Count
import Mathlib.Data.List.Perm.Subperm

/-!
Lists that are grouped by a key, and taken from in turns: the first of every group, then the second
of every group that has one, and so on.
-/

namespace MolidoVpn.RoundRobin

universe u v

variable {Element : Type u} {Key : Type v} [DecidableEq Key] {key : Element → Key}

section Groups

/-- Put the element with those of its key, behind them. -/
def addTo (key : Element → Key) (element : Element) :
    List (Key × List Element) → List (Key × List Element)
  | [] => [(key element, [element])]
  | (first, group) :: rest =>
      if first = key element then (first, group ++ [element]) :: rest
      else (first, group) :: addTo key element rest

/-- The keys stand in the order in which they came first. -/
def groupBy (key : Element → Key) (elements : List Element) : List (Key × List Element) :=
  elements.foldl (fun groups element => addTo key element groups) []

def groupOf (groups : List (Key × List Element)) (at_ : Key) : List Element :=
  (groups.lookup at_).getD []

/-- No key has two groups, and every group is of its key. -/
structure Grouped (key : Element → Key) (groups : List (Key × List Element)) : Prop where
  distinct : (groups.map Prod.fst).Nodup
  own : ∀ first group, (first, group) ∈ groups → ∀ element ∈ group, key element = first

theorem groupOf_cons (first at_ : Key) (group : List Element)
    (rest : List (Key × List Element)) :
    groupOf ((first, group) :: rest) at_ = if at_ = first then group else groupOf rest at_ := by
  unfold groupOf
  rw [List.lookup_cons]
  by_cases same : at_ = first
  · rw [if_pos same, beq_iff_eq.mpr same]
    rfl
  · rw [if_neg same, beq_eq_false_iff_ne.mpr same]

theorem groupOf_not_mem {groups : List (Key × List Element)} {at_ : Key}
    (fresh : at_ ∉ groups.map Prod.fst) : groupOf groups at_ = [] := by
  induction groups with
  | nil => rfl
  | cons first rest ih =>
      rw [List.map_cons, List.mem_cons, not_or] at fresh
      rw [groupOf_cons, if_neg fresh.1]
      exact ih fresh.2

theorem mem_keys_addTo (element : Element) (groups : List (Key × List Element)) (at_ : Key) :
    at_ ∈ (addTo key element groups).map Prod.fst ↔
      at_ ∈ groups.map Prod.fst ∨ at_ = key element := by
  induction groups with
  | nil =>
      rw [addTo, List.map_singleton, List.mem_singleton, List.map_nil]
      exact (or_iff_right List.not_mem_nil).symm
  | cons first rest ih =>
      rw [addTo]
      split
      · rename_i same
        rw [List.map_cons, List.map_cons, ← same]
        constructor
        · intro member
          exact Or.inl member
        · intro member
          rcases member with there | itself
          · exact there
          · exact itself ▸ List.mem_cons_self
      · rw [List.map_cons, List.map_cons, List.mem_cons, List.mem_cons, ih, or_assoc]

omit [DecidableEq Key] in
theorem Grouped.tail {first : Key × List Element} {rest : List (Key × List Element)}
    (grouped : Grouped key (first :: rest)) : Grouped key rest where
  distinct := (List.nodup_cons.mp grouped.distinct).2
  own := fun other group there => grouped.own other group (List.mem_cons_of_mem _ there)

theorem Grouped.addTo {groups : List (Key × List Element)} (grouped : Grouped key groups)
    (element : Element) : Grouped key (addTo key element groups) := by
  induction groups with
  | nil =>
      constructor
      · rw [RoundRobin.addTo, List.map_singleton]
        exact List.nodup_cons.mpr ⟨List.not_mem_nil, List.nodup_nil⟩
      · intro first group there other inside
        cases List.mem_singleton.mp there
        rw [List.mem_singleton.mp inside]
  | cons head rest ih =>
      obtain ⟨first, group⟩ := head
      have keys := List.nodup_cons.mp grouped.distinct
      have own := grouped.own first group List.mem_cons_self
      rw [RoundRobin.addTo]
      split
      · rename_i same
        constructor
        · exact grouped.distinct
        · intro key' group' there other inside
          rcases List.mem_cons.mp there with here | later
          · cases here
            rcases List.mem_append.mp inside with old | new
            · exact own other old
            · rw [List.mem_singleton.mp new, same]
          · exact grouped.own key' group' (List.mem_cons_of_mem _ later) other inside
      · rename_i differs
        have added := ih grouped.tail
        constructor
        · rw [List.map_cons, List.nodup_cons, mem_keys_addTo, not_or]
          exact ⟨⟨keys.1, differs⟩, added.distinct⟩
        · intro key' group' there other inside
          rcases List.mem_cons.mp there with here | later
          · cases here
            exact own other inside
          · exact added.own key' group' later other inside

theorem groupOf_addTo (element : Element) (groups : List (Key × List Element)) (at_ : Key) :
    groupOf (addTo key element groups) at_ =
      groupOf groups at_ ++ [element].filter fun other => key other = at_ := by
  induction groups with
  | nil =>
      rw [addTo, groupOf_cons, List.filter_singleton]
      by_cases same : at_ = key element
      · rw [if_pos same, decide_eq_true same.symm]
        rfl
      · rw [if_neg same, decide_eq_false (Ne.symm same)]
        rfl
  | cons head rest ih =>
      obtain ⟨first, group⟩ := head
      rw [addTo, groupOf_cons]
      split
      · rename_i same
        rw [groupOf_cons]
        by_cases here : at_ = first
        · rw [if_pos here, if_pos here, List.filter_singleton,
            decide_eq_true (same.symm.trans here.symm)]
          rfl
        · rw [if_neg here, if_neg here, List.filter_singleton,
            decide_eq_false fun other => here (other.symm.trans same.symm)]
          exact (List.append_nil _).symm
      · rename_i differs
        rw [groupOf_cons]
        by_cases here : at_ = first
        · rw [if_pos here, if_pos here, List.filter_singleton,
            decide_eq_false fun other => differs (here.symm.trans other.symm)]
          exact (List.append_nil _).symm
        · rw [if_neg here, if_neg here, ih]

theorem grouped_foldl (elements : List Element) {groups : List (Key × List Element)}
    (grouped : Grouped key groups) :
    Grouped key (elements.foldl (fun groups element => addTo key element groups) groups) := by
  induction elements generalizing groups with
  | nil => exact grouped
  | cons first rest ih => exact ih (grouped.addTo first)

theorem groupOf_foldl (elements : List Element) (groups : List (Key × List Element))
    (at_ : Key) :
    groupOf (elements.foldl (fun groups element => addTo key element groups) groups) at_ =
      groupOf groups at_ ++ elements.filter fun element => key element = at_ := by
  induction elements generalizing groups with
  | nil => exact (List.append_nil _).symm
  | cons first rest ih =>
      rw [List.foldl_cons, ih, groupOf_addTo, List.append_assoc, ← List.filter_append]
      rfl

theorem grouped_groupBy (key : Element → Key) (elements : List Element) :
    Grouped key (groupBy key elements) := by
  apply grouped_foldl
  constructor
  · exact List.nodup_nil
  · intro first group there
    cases there

/-- Every group holds the elements of its key in the order in which they came. -/
theorem groupOf_groupBy (elements : List Element) (at_ : Key) :
    groupOf (groupBy key elements) at_ = elements.filter fun element => key element = at_ :=
  groupOf_foldl elements [] at_

end Groups

section Turns

/-- What the piles have for this turn. -/
def column (piles : List (List Element)) (turn : Nat) : List Element :=
  piles.filterMap fun pile => pile[turn]?

/-- Turn after turn, until so many elements are out or a turn has brought none. -/
def deal (piles : List (List Element)) (size turn : Nat) (out : List Element) : List Element :=
  if out.length < size then
    match column piles turn with
    | [] => out
    | first :: rest => deal piles size (turn + 1) (out ++ first :: rest)
  else out
termination_by size - out.length
decreasing_by
  rw [List.length_append, List.length_cons]
  omega

/-- Who takes a further turn comes behind that many turns of every key that has them. -/
def Fair (key : Element → Key) (out : List Element) : Prop :=
  ∀ before next after, out = before ++ next :: after → ∀ (turn : Nat) (at_ : Key),
    turn ≤ before.countP (fun element => key element = key next) →
    turn ≤ out.countP (fun element => key element = at_) →
      turn ≤ before.countP fun element => key element = at_

/-- The first turns are out, of every key, and no element came before its turn. -/
structure Dealt (key : Element → Key) (groups : List (Key × List Element)) (turn : Nat)
    (out : List Element) : Prop where
  taken : ∀ at_, out.filter (fun element => key element = at_) = (groupOf groups at_).take turn
  fair : ∀ before next after, out = before ++ next :: after → ∀ at_,
    min (before.countP fun element => key element = key next) (groupOf groups at_).length ≤
      before.countP fun element => key element = at_

variable {groups : List (Key × List Element)} {turn : Nat} {out : List Element}

omit [DecidableEq Key] in
theorem column_cons (pile : List Element) (piles : List (List Element)) (turn : Nat) :
    column (pile :: piles) turn = pile[turn]?.toList ++ column piles turn := by
  unfold column
  rw [List.filterMap_cons]
  cases pile[turn]? <;> rfl

theorem filter_column (grouped : Grouped key groups) (turn : Nat) (at_ : Key) :
    (column (groups.map Prod.snd) turn).filter (fun element => key element = at_) =
      (groupOf groups at_)[turn]?.toList := by
  induction groups with
  | nil => rfl
  | cons head rest ih =>
      obtain ⟨first, group⟩ := head
      have own := grouped.own first group List.mem_cons_self
      have keys := List.nodup_cons.mp grouped.distinct
      have later := ih grouped.tail
      rw [groupOf_cons, List.map_cons, column_cons, List.filter_append]
      by_cases here : at_ = first
      · rw [groupOf_not_mem (here ▸ keys.1)] at later
        rw [if_pos here, later]
        cases drawn : group[turn]? with
        | none => rfl
        | some element =>
            have same := (own element (List.mem_of_getElem? drawn)).trans here.symm
            rw [Option.toList_some, List.filter_singleton, decide_eq_true same]
            rfl
      · rw [if_neg here, later]
        cases drawn : group[turn]? with
        | none => rfl
        | some element =>
            have other : key element ≠ at_ := fun same =>
              here (same.symm.trans (own element (List.mem_of_getElem? drawn)))
            rw [Option.toList_some, List.filter_singleton, decide_eq_false other]
            rfl

theorem Dealt.countP (dealt : Dealt key groups turn out) (at_ : Key) :
    out.countP (fun element => key element = at_) = min turn (groupOf groups at_).length := by
  rw [List.countP_eq_length_filter, dealt.taken, List.length_take]

theorem dealt_nil : Dealt key groups 0 [] where
  taken := fun _ => List.take_zero.symm
  fair := fun before next after split =>
    absurd (congrArg List.length split) (by rw [List.length_append, List.length_cons]; simp)

/-- In its column an element is the only one of its key. -/
theorem countP_column_before (grouped : Grouped key groups) {before after : List Element}
    {next : Element} (split : column (groups.map Prod.snd) turn = before ++ next :: after) :
    before.countP (fun element => key element = key next) = 0 := by
  have few := filter_column grouped turn (key next)
  rw [split, List.filter_append, List.filter_cons, if_pos (decide_eq_true rfl)] at few
  have short := congrArg List.length few
  rw [List.length_append, List.length_cons, Option.length_toList] at short
  rw [List.countP_eq_length_filter]
  split at short <;> omega

theorem Dealt.step (grouped : Grouped key groups) (dealt : Dealt key groups turn out) :
    Dealt key groups (turn + 1) (out ++ column (groups.map Prod.snd) turn) where
  taken := fun at_ => by
    rw [List.filter_append, dealt.taken, filter_column grouped, List.take_add_one]
  fair := fun before next after split at_ => by
    rcases List.append_eq_append_iff.mp split with ⟨more, ahead, new⟩ | ⟨more, old, rest⟩
    · rw [ahead, List.countP_append, countP_column_before grouped new, dealt.countP,
        List.countP_append, dealt.countP]
      omega
    · cases more with
      | nil =>
          rw [List.append_nil] at old
          rw [← old, dealt.countP, dealt.countP]
          omega
      | cons first more =>
          cases rest
          exact dealt.fair before next more old at_

theorem dealt_deal (grouped : Grouped key groups) (size : Nat)
    (dealt : Dealt key groups turn out) :
    ∃ last, Dealt key groups last (deal (groups.map Prod.snd) size turn out) ∧
      (size ≤ (deal (groups.map Prod.snd) size turn out).length ∨
        column (groups.map Prod.snd) last = []) := by
  induction turn, out using deal.induct (groups.map Prod.snd) size with
  | case1 turn out short none =>
      rw [deal, if_pos short, none]
      exact ⟨turn, dealt, Or.inr none⟩
  | case2 turn out short first rest added ih =>
      have further := dealt.step grouped
      rw [added] at further
      rw [deal, if_pos short, added]
      exact ih further
  | case3 turn out full =>
      rw [deal, if_neg full]
      exact ⟨turn, dealt, Or.inl (Nat.le_of_not_lt full)⟩

theorem count_filter_key [DecidableEq Element] (key : Element → Key) (element : Element)
    (elements : List Element) :
    (elements.filter fun other => key other = key element).count element =
      elements.count element :=
  List.count_filter (decide_eq_true rfl)

theorem perm_of_filter {out elements : List Element}
    (same : ∀ at_, out.filter (fun element => key element = at_) =
      elements.filter fun element => key element = at_) : out.Perm elements := by
  classical
  rw [List.perm_iff_count]
  intro element
  have counted := congrArg (List.count element) (same (key element))
  rwa [count_filter_key, count_filter_key] at counted

/-- Nothing is lost when as many are out as there were. -/
theorem Dealt.whole {elements : List Element} {last : Nat}
    (dealt : Dealt key (groupBy key elements) last out)
    (finished : elements.length ≤ out.length ∨
      column ((groupBy key elements).map Prod.snd) last = []) (at_ : Key) :
    out.filter (fun element => key element = at_) =
      elements.filter fun element => key element = at_ := by
  classical
  rw [dealt.taken, ← groupOf_groupBy]
  apply List.take_of_length_le
  rcases finished with full | dry
  · have among : out.Subperm elements := by
      rw [List.subperm_ext_iff]
      intro element _
      rw [← count_filter_key key element out, dealt.taken, groupOf_groupBy,
        ← count_filter_key key element elements]
      exact (List.take_sublist _ _).count_le element
    have every := among.perm_of_length_le full
    have counted := dealt.countP at_
    rw [every.countP_eq, List.countP_eq_length_filter, ← groupOf_groupBy] at counted
    omega
  · have none := filter_column (grouped_groupBy key elements) last at_
    rw [dry] at none
    exact List.getElem?_eq_none_iff.mp (Option.toList_eq_nil_iff.mp none.symm)

/-- Every element is out once, those of one key in their order, and each in its turn. -/
structure Spread (key : Element → Key) (elements out : List Element) : Prop where
  perm : out.Perm elements
  order : ∀ at_, out.filter (fun element => key element = at_) =
    elements.filter fun element => key element = at_
  fair : Fair key out

def inTurns (key : Element → Key) (elements : List Element) : List Element :=
  deal ((groupBy key elements).map Prod.snd) elements.length 0 []

theorem spread_inTurns (elements : List Element) : Spread key elements (inTurns key elements) := by
  obtain ⟨last, dealt, finished⟩ :=
    dealt_deal (grouped_groupBy key elements) elements.length dealt_nil
  have order := dealt.whole finished
  have fair : Fair key (inTurns key elements) := by
    intro before next after split turn at_ own some
    have short := dealt.fair before next after split at_
    have counted : turn ≤ (groupOf (groupBy key elements) at_).length := by
      rw [List.countP_eq_length_filter] at some
      rwa [groupOf_groupBy, ← order]
    omega
  exact ⟨perm_of_filter order, order, fair⟩

/-- Elements of one key stay as they are. -/
theorem Spread.eq_of_one {elements out : List Element} {at_ : Key}
    (spread : Spread key elements out) (one : ∀ element ∈ elements, key element = at_) :
    out = elements := by
  have order := spread.order at_
  rwa [List.filter_eq_self.mpr fun element there =>
      decide_eq_true (one element (spread.perm.mem_iff.mp there)),
    List.filter_eq_self.mpr fun element there => decide_eq_true (one element there)] at order

/-- Who is told apart by one key as by another is in turn by the one as by the other. -/
theorem Spread.of_same {Other : Type*} [DecidableEq Other] {other : Element → Other}
    {elements out : List Element}
    (same : ∀ first ∈ elements, ∀ second ∈ elements,
      key first = key second ↔ other first = other second)
    (spread : Spread key elements out) : Spread other elements out := by
  have member : ∀ element ∈ out, element ∈ elements := fun element => spread.perm.mem_iff.mp
  have told : ∀ first ∈ elements, ∀ second ∈ elements,
      decide (other second = other first) = decide (key second = key first) :=
    fun first here second there => decide_eq_decide.mpr (same second there first here).symm
  have count_told : ∀ {part : List Element} {first : Element},
      (∀ second ∈ part, second ∈ elements) → first ∈ elements →
        part.countP (fun second => other second = other first) =
          part.countP fun second => key second = key first := fun within here =>
    List.countP_congr fun second there => by rw [told _ here second (within second there)]
  constructor
  · exact spread.perm
  · intro at_
    by_cases some : ∃ element ∈ elements, other element = at_
    · obtain ⟨element, here, rfl⟩ := some
      rw [List.filter_congr fun second there => told element here second (member second there),
        spread.order, List.filter_congr fun second there => told element here second there]
    · have none : ∀ element ∈ elements, ¬ other element = at_ := fun element here same =>
        some ⟨element, here, same⟩
      rw [List.filter_eq_nil_iff.mpr fun element there =>
          mt of_decide_eq_true (none element (member element there)),
        List.filter_eq_nil_iff.mpr fun element there => mt of_decide_eq_true (none element there)]
  · intro before next after split turn at_ own some
    have ahead : ∀ element ∈ before, element ∈ elements := fun element there =>
      member element (split ▸ List.mem_append_left _ there)
    have here : next ∈ elements :=
      member next (split ▸ List.mem_append_right _ List.mem_cons_self)
    cases turn with
    | zero => exact Nat.zero_le _
    | succ turn =>
        obtain ⟨element, there, is⟩ :=
          List.countP_pos_iff.mp (Nat.lt_of_lt_of_le turn.succ_pos some)
        have known := member element there
        cases of_decide_eq_true is
        rw [count_told ahead here] at own
        rw [count_told member known] at some
        rw [count_told ahead known]
        exact spread.fair before next after split (turn + 1) (key element) own some

end Turns

section Rounds

/-- As many turns as the longest pile has elements. -/
def rounds (piles : List (List Element)) : List Element :=
  (List.range ((piles.map List.length).foldr max 0)).flatMap (column piles)

private theorem le_longest {pile : List Element} {piles : List (List Element)}
    (there : pile ∈ piles) : pile.length ≤ (piles.map List.length).foldr max 0 := by
  induction piles with
  | nil => cases there
  | cons first rest ih =>
      rw [List.map_cons, List.foldr_cons]
      rcases List.mem_cons.mp there with rfl | later
      · exact Nat.le_max_left _ _
      · exact Nat.le_trans (ih later) (Nat.le_max_right _ _)

private theorem flatMap_getElem? (pile : List Element) {turns : Nat}
    (enough : pile.length ≤ turns) :
    ((List.range turns).flatMap fun turn => pile[turn]?.toList) = pile := by
  induction pile generalizing turns with
  | nil =>
      rw [List.flatMap_eq_nil_iff]
      exact fun turn _ => rfl
  | cons first rest ih =>
      obtain ⟨more, rfl⟩ := Nat.exists_eq_add_of_lt (Nat.lt_of_lt_of_le rest.length.lt_succ_self
        enough)
      rw [List.length_cons] at enough
      rw [List.range_succ_eq_map, List.flatMap_cons, List.flatMap_map]
      exact congrArg (first :: ·) (ih (by omega))

theorem flatMap_column_perm {piles : List (List Element)} {turns : Nat}
    (enough : ∀ pile ∈ piles, pile.length ≤ turns) :
    ((List.range turns).flatMap (column piles)).Perm piles.flatten := by
  induction piles with
  | nil =>
      have dry : (List.range turns).flatMap (column ([] : List (List Element))) = [] := by
        rw [List.flatMap_eq_nil_iff]
        exact fun turn _ => rfl
      rw [dry]
      exact List.Perm.refl _
  | cons pile piles ih =>
      have split : column (pile :: piles) = fun turn => pile[turn]?.toList ++ column piles turn :=
        funext (column_cons pile piles)
      have apart := (List.flatMap_append_perm (List.range turns) (fun turn => pile[turn]?.toList)
        (column piles)).symm
      rw [flatMap_getElem? pile (enough pile List.mem_cons_self)] at apart
      rw [split, List.flatten_cons]
      exact apart.trans
        ((ih fun other there => enough other (List.mem_cons_of_mem _ there)).append_left pile)

/-- Nothing is lost and nothing comes twice. -/
theorem rounds_perm (piles : List (List Element)) : (rounds piles).Perm piles.flatten :=
  flatMap_column_perm fun _ there => le_longest there

theorem Grouped.filter_flatten {groups : List (Key × List Element)} (grouped : Grouped key groups)
    (at_ : Key) :
    (groups.map Prod.snd).flatten.filter (fun element => key element = at_) =
      groupOf groups at_ := by
  induction groups with
  | nil => rfl
  | cons head rest ih =>
      obtain ⟨first, group⟩ := head
      have own := grouped.own first group List.mem_cons_self
      have keys := List.nodup_cons.mp grouped.distinct
      rw [List.map_cons, List.flatten_cons, List.filter_append, ih grouped.tail, groupOf_cons]
      by_cases here : at_ = first
      · rw [if_pos here, groupOf_not_mem (here ▸ keys.1), List.append_nil, List.filter_eq_self]
        exact fun element there => decide_eq_true ((own element there).trans here.symm)
      · rw [if_neg here, List.filter_eq_nil_iff.mpr, List.nil_append]
        exact fun element there same =>
          here ((of_decide_eq_true same).symm.trans (own element there))

/-- Groups taken from in rounds hold what was grouped. -/
theorem rounds_groupBy_perm (key : Element → Key) (elements : List Element) :
    (rounds ((groupBy key elements).map Prod.snd)).Perm elements := by
  have same (at_ : Key) :
      ((groupBy key elements).map Prod.snd).flatten.filter (fun element => key element = at_) =
        elements.filter fun element => key element = at_ := by
    rw [(grouped_groupBy key elements).filter_flatten, groupOf_groupBy]
  exact (rounds_perm _).trans (perm_of_filter same)

private theorem groupOf_keys (keys : List Key) (elements : List Element) (at_ : Key) :
    groupOf (keys.map fun first => (first, elements.filter fun element => key element = first)) at_ =
      if at_ ∈ keys then elements.filter fun element => key element = at_ else [] := by
  induction keys with
  | nil => rfl
  | cons first rest ih =>
      rw [List.map_cons, groupOf_cons, ih]
      by_cases here : at_ = first
      · rw [if_pos here, if_pos (here ▸ List.mem_cons_self), here]
      · rw [if_neg here]
        exact if_congr (List.mem_cons.trans (or_iff_right here)).symm rfl rfl

/-- So do the groups of some keys hold the elements of these keys. -/
theorem rounds_keys_perm {keys : List Key} (distinct : keys.Nodup) (elements : List Element) :
    (rounds (keys.map fun at_ => elements.filter fun element => key element = at_)).Perm
      (elements.filter fun element => key element ∈ keys) := by
  let groups := keys.map fun first => (first, elements.filter fun element => key element = first)
  have piles : (keys.map fun at_ => elements.filter fun element => key element = at_) =
      groups.map Prod.snd := by
    change _ = (keys.map fun first => (first, _)).map Prod.snd
    rw [List.map_map]
    rfl
  have grouped : Grouped key groups := by
    constructor
    · have names : groups.map Prod.fst = keys := by
        change (keys.map fun first => (first, _)).map Prod.fst = keys
        rw [List.map_map]
        exact List.map_id keys
      rw [names]
      exact distinct
    · intro first group there element inside
      obtain ⟨at_, -, same⟩ := List.mem_map.mp there
      cases same
      exact of_decide_eq_true (List.mem_filter.mp inside).2
  have same (at_ : Key) :
      (groups.map Prod.snd).flatten.filter (fun element => key element = at_) =
        (elements.filter fun element => key element ∈ keys).filter
          fun element => key element = at_ := by
    rw [grouped.filter_flatten, groupOf_keys, List.filter_filter]
    split
    · rename_i listed
      apply List.filter_congr
      intro element _there
      by_cases same : key element = at_
      · rw [decide_eq_true same, decide_eq_true (same ▸ listed)]
        rfl
      · rw [decide_eq_false same, Bool.false_and]
    · rename_i unlisted
      symm
      rw [List.filter_eq_nil_iff]
      intro element _there both
      obtain ⟨same, listed⟩ := Bool.and_eq_true_iff.mp both
      exact unlisted (of_decide_eq_true same ▸ of_decide_eq_true listed)
  rw [piles]
  exact (rounds_perm _).trans (perm_of_filter same)

end Rounds

end MolidoVpn.RoundRobin
