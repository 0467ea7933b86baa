import Mathlib.Data.List.Basic
import Mathlib.Data.List.Nodup

/-!
A list that takes an element the first time it comes, unless it is to be skipped: as one list, and
cut by the rounds that the elements come in.
-/

namespace MolidoVpn.FirstSeen

universe u

section EraseDups

variable {Element : Type u} [BEq Element] [LawfulBEq Element]

theorem nodup_eraseDups (elements : List Element) : elements.eraseDups.Nodup := by
  induction length : elements.length using Nat.strongRecOn generalizing elements with
  | ind size ih =>
      cases elements with
      | nil => exact List.nodup_nil
      | cons first rest =>
          have shorter : (rest.filter fun other => !other == first).length < size := by
            rw [← length]
            exact Nat.lt_succ_of_le (List.length_filter_le _ rest)
          rw [List.eraseDups_cons, List.nodup_cons, List.mem_eraseDups, List.mem_filter]
          refine ⟨?_, ih _ shorter _ rfl⟩
          rintro ⟨_, other⟩
          rw [beq_self_eq_true] at other
          cases other

end EraseDups

section ByKey

universe v

variable {Element : Type u} {Key : Type v} [DecidableEq Key] (key : Element → Key)

/-- Take the element unless one with its key has been taken. -/
def addNew (out : List Element) (element : Element) : List Element :=
  if key element ∈ out.map key then out else out ++ [element]

/-- The first element of every key. -/
def firsts (elements : List Element) : List Element := elements.foldl (addNew key) []

variable {key} {out elements : List Element}

theorem keys_addNew (out : List Element) (element : Element) (at_ : Key) :
    at_ ∈ (addNew key out element).map key ↔ at_ ∈ out.map key ∨ at_ = key element := by
  unfold addNew
  split
  · rename_i taken
    constructor
    · exact Or.inl
    · rintro (there | rfl)
      · exact there
      · exact taken
  · rw [List.map_append, List.mem_append, List.map_singleton, List.mem_singleton]

theorem nodup_addNew (nodup : (out.map key).Nodup) (element : Element) :
    ((addNew key out element).map key).Nodup := by
  unfold addNew
  split
  · exact nodup
  · rename_i fresh
    rw [List.map_append, List.map_singleton]
    exact List.nodup_append.mpr ⟨nodup, List.nodup_cons.mpr ⟨List.not_mem_nil, List.nodup_nil⟩,
      fun old there new here same => fresh (List.mem_singleton.mp here ▸ same ▸ there)⟩

theorem nodup_foldl_addNew (elements : List Element) (nodup : (out.map key).Nodup) :
    ((elements.foldl (addNew key) out).map key).Nodup := by
  induction elements generalizing out with
  | nil => exact nodup
  | cons first rest ih => exact ih (nodup_addNew nodup first)

theorem keys_foldl_addNew (elements out : List Element) (at_ : Key) :
    at_ ∈ (elements.foldl (addNew key) out).map key ↔
      at_ ∈ out.map key ∨ at_ ∈ elements.map key := by
  induction elements generalizing out with
  | nil => exact (or_iff_left List.not_mem_nil).symm
  | cons first rest ih =>
      rw [List.foldl_cons, ih, keys_addNew, List.map_cons, List.mem_cons, or_assoc]

theorem foldl_addNew_eq (key : Element → Key) (elements out : List Element) :
    ∃ more, elements.foldl (addNew key) out = out ++ more ∧ more.Sublist elements := by
  induction elements generalizing out with
  | nil => exact ⟨[], (List.append_nil out).symm, List.Sublist.refl []⟩
  | cons first rest ih =>
      obtain ⟨more, whole, among⟩ := ih (addNew key out first)
      rw [List.foldl_cons, whole]
      by_cases taken : key first ∈ out.map key
      · rw [addNew, if_pos taken]
        exact ⟨more, rfl, among.cons first⟩
      · rw [addNew, if_neg taken, List.append_assoc]
        exact ⟨first :: more, rfl, among.cons_cons first⟩

theorem length_foldl_addNew_le (key : Element → Key) (elements out : List Element) :
    (elements.foldl (addNew key) out).length ≤ out.length + elements.length := by
  obtain ⟨more, whole, among⟩ := foldl_addNew_eq key elements out
  rw [whole, List.length_append]
  exact Nat.add_le_add_left among.length_le _

/-- Nothing is left out just when no key comes twice. -/
theorem length_foldl_addNew_iff (key : Element → Key) (elements out : List Element) :
    (elements.foldl (addNew key) out).length = out.length + elements.length ↔
      (elements.map key).Nodup ∧ ∀ element ∈ elements, key element ∉ out.map key := by
  induction elements generalizing out with
  | nil => simp
  | cons first rest ih =>
      rw [List.foldl_cons]
      by_cases taken : key first ∈ out.map key
      · have few := length_foldl_addNew_le key rest out
        rw [addNew, if_pos taken, List.length_cons]
        constructor
        · intro every
          omega
        · rintro ⟨_, fresh⟩
          exact absurd taken (fresh first List.mem_cons_self)
      · have more := ih (out ++ [first])
        rw [List.length_append, List.length_singleton] at more
        rw [addNew, if_neg taken, List.length_cons, ← Nat.add_assoc, Nat.add_right_comm, more,
          List.map_cons, List.nodup_cons, List.forall_mem_cons]
        simp only [List.map_append, List.map_singleton, List.mem_append, List.mem_singleton, not_or]
        constructor
        · rintro ⟨nodup, apart⟩
          refine ⟨⟨?_, nodup⟩, taken, fun element there => (apart element there).1⟩
          intro again
          obtain ⟨element, there, same⟩ := List.mem_map.mp again
          exact (apart element there).2 same
        · rintro ⟨⟨alone, nodup⟩, _, fresh⟩
          exact ⟨nodup, fun element there =>
            ⟨fresh element there, fun same => alone (same ▸ List.mem_map_of_mem there)⟩⟩

theorem nodup_firsts (key : Element → Key) (elements : List Element) :
    ((firsts key elements).map key).Nodup :=
  nodup_foldl_addNew elements List.nodup_nil

theorem keys_firsts (elements : List Element) (at_ : Key) :
    at_ ∈ (firsts key elements).map key ↔ at_ ∈ elements.map key := by
  rw [firsts, keys_foldl_addNew]
  exact or_iff_right List.not_mem_nil

theorem firsts_sublist (elements : List Element) : (firsts key elements).Sublist elements := by
  obtain ⟨more, whole, among⟩ := foldl_addNew_eq key elements []
  rw [firsts, whole]
  exact among

theorem length_firsts_le (key : Element → Key) (elements : List Element) :
    (firsts key elements).length ≤ elements.length :=
  (firsts_sublist elements).length_le

theorem length_firsts_iff (key : Element → Key) (elements : List Element) :
    (firsts key elements).length = elements.length ↔ (elements.map key).Nodup := by
  have every := length_foldl_addNew_iff key elements []
  rw [List.length_nil, Nat.zero_add] at every
  rw [firsts, every]
  exact and_iff_left fun element _ => List.not_mem_nil

theorem mem_foldl_addNew {element : Element}
    (member : element ∈ elements.foldl (addNew key) out) :
    element ∈ out ∨ key element ∉ out.map key ∧
      ∃ before after, elements = before ++ element :: after ∧ key element ∉ before.map key := by
  induction elements generalizing out with
  | nil => exact Or.inl member
  | cons first rest ih =>
      rcases ih member with there | ⟨apart, before, after, split, fresh⟩
      · by_cases taken : key first ∈ out.map key
        · rw [addNew, if_pos taken] at there
          exact Or.inl there
        · rw [addNew, if_neg taken, List.mem_append, List.mem_singleton] at there
          rcases there with old | rfl
          · exact Or.inl old
          · exact Or.inr ⟨taken, [], rest, rfl, List.not_mem_nil⟩
      · rw [keys_addNew, not_or] at apart
        refine Or.inr ⟨apart.1, first :: before, after, congrArg _ split, ?_⟩
        rw [List.map_cons, List.mem_cons, not_or]
        exact ⟨apart.2, fresh⟩

/-- What is taken of a key is what came first of it. -/
theorem mem_firsts_iff {element : Element} :
    element ∈ firsts key elements ↔
      ∃ before after, elements = before ++ element :: after ∧ key element ∉ before.map key := by
  constructor
  · intro member
    exact ((mem_foldl_addNew member).resolve_left List.not_mem_nil).2
  · rintro ⟨before, after, rfl, fresh⟩
    obtain ⟨more, whole, _⟩ := foldl_addNew_eq key after (addNew key (firsts key before) element)
    have split : firsts key (before ++ element :: after) =
        after.foldl (addNew key) (addNew key (firsts key before) element) := List.foldl_append
    rw [split, whole, addNew, if_neg (mt (keys_firsts before _).mp fresh)]
    exact List.mem_append_left _ (List.mem_append_right _ List.mem_cons_self)

end ByKey

variable {Element : Type u} [DecidableEq Element]

def push (skip : Element → Bool) (out : List Element) (element : Element) : List Element :=
  if !skip element && !out.contains element then out ++ [element] else out

def pushAll (skip : Element → Bool) (out elements : List Element) : List Element :=
  elements.foldl (push skip) out

/-- What is new of the elements, each at its first place. -/
def fresh (skip : Element → Bool) (out elements : List Element) : List Element :=
  (elements.filter fun element => !skip element && !out.contains element).eraseDups

variable {skip : Element → Bool} {out elements : List Element} {element : Element}

theorem mem_fresh :
    element ∈ fresh skip out elements ↔
      element ∈ elements ∧ skip element = false ∧ element ∉ out := by
  rw [fresh, List.mem_eraseDups, List.mem_filter, Bool.and_eq_true, Bool.not_eq_true',
    Bool.not_eq_true', List.contains_eq_mem, decide_eq_false_iff_not]

theorem nodup_fresh : (fresh skip out elements).Nodup := nodup_eraseDups _

theorem pushAll_eq (out elements : List Element) :
    pushAll skip out elements = out ++ fresh skip out elements := by
  induction elements generalizing out with
  | nil => exact (List.append_nil out).symm
  | cons first rest ih =>
      have step : pushAll skip out (first :: rest) = pushAll skip (push skip out first) rest := rfl
      rw [step, ih, push, fresh, fresh, List.filter_cons]
      by_cases taken : (!skip first && !out.contains first) = true
      · have later : ∀ element ∈ rest,
            (!skip element && !(out ++ [first]).contains element) =
              (!element == first && (!skip element && !out.contains element)) := by
          intro element _
          rw [List.contains_append, List.contains_cons, List.contains_nil, Bool.or_false,
            Bool.not_or, ← Bool.and_assoc, Bool.and_comm]
        rw [if_pos taken, if_pos taken, List.eraseDups_cons, List.filter_filter,
          List.filter_congr later, List.append_assoc, List.singleton_append]
      · rw [if_neg taken, if_neg taken]

theorem nodup_pushAll (nodup : out.Nodup) : (pushAll skip out elements).Nodup := by
  rw [pushAll_eq, List.nodup_append]
  refine ⟨nodup, nodup_fresh, ?_⟩
  rintro element before _ after rfl
  exact (mem_fresh.mp after).2.2 before

theorem mem_pushAll :
    element ∈ pushAll skip out elements ↔
      element ∈ out ∨ element ∈ elements ∧ skip element = false := by
  rw [pushAll_eq, List.mem_append, mem_fresh]
  constructor
  · rintro (before | ⟨there, kept, _⟩)
    · exact Or.inl before
    · exact Or.inr ⟨there, kept⟩
  · rintro (before | ⟨there, kept⟩)
    · exact Or.inl before
    · by_cases before : element ∈ out
      · exact Or.inl before
      · exact Or.inr ⟨there, kept, before⟩

section Rounds

variable {rounds : List (List Element)} {turn : Nat}

/-- What is new in each of the rounds. -/
def freshRounds (skip : Element → Bool) (out : List Element) :
    List (List Element) → List (List Element)
  | [] => []
  | elements :: rounds =>
      fresh skip out elements :: freshRounds skip (out ++ fresh skip out elements) rounds

@[simp]
theorem length_freshRounds (out : List Element) (rounds : List (List Element)) :
    (freshRounds skip out rounds).length = rounds.length := by
  induction rounds generalizing out with
  | nil => rfl
  | cons elements rounds ih => exact congrArg Nat.succ (ih _)

theorem take_freshRounds (turn : Nat) (out : List Element) (rounds : List (List Element)) :
    (freshRounds skip out rounds).take turn = freshRounds skip out (rounds.take turn) := by
  induction rounds generalizing turn out with
  | nil => rw [List.take_nil, freshRounds, List.take_nil]
  | cons elements rounds ih =>
      cases turn with
      | zero => rfl
      | succ turn => exact congrArg _ (ih turn _)

/-- Round after round is the same as all at once. -/
theorem append_freshRounds (out : List Element) (rounds : List (List Element)) :
    out ++ (freshRounds skip out rounds).flatten = pushAll skip out rounds.flatten := by
  induction rounds generalizing out with
  | nil => exact List.append_nil out
  | cons elements rounds ih =>
      have later : pushAll skip out (elements ++ rounds.flatten) =
          pushAll skip (pushAll skip out elements) rounds.flatten := List.foldl_append
      rw [freshRounds, List.flatten_cons, List.flatten_cons, later, pushAll_eq out elements, ← ih,
        List.append_assoc]

/-- A round gives what is new behind the rounds before it. -/
theorem getElem?_freshRounds (here : rounds[turn]? = some elements) :
    (freshRounds skip out rounds)[turn]? =
      some (fresh skip (out ++ ((freshRounds skip out rounds).take turn).flatten) elements) := by
  induction rounds generalizing turn out with
  | nil => cases here
  | cons first rounds ih =>
      cases turn with
      | zero =>
          cases here
          rw [freshRounds, List.getElem?_cons_zero, List.take_zero, List.flatten_nil,
            List.append_nil]
      | succ turn =>
          rw [freshRounds, List.getElem?_cons_succ, ih here, List.take_succ_cons,
            List.flatten_cons, List.append_assoc]

end Rounds

end MolidoVpn.FirstSeen
