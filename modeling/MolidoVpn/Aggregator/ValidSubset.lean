import Mathlib.Data.List.FinRange
import MolidoVpn.Lib.Text

/-!
Which configs of a batch the checker accepts. One bad config makes it reject the whole file:
the aggregator drops the config that the error names and halves the batch where it names none, the
desktop program always halves.
-/

namespace MolidoVpn.Aggregator

variable {Node State : Type}

section Source

-- The value of a decimal digit of any script.
variable (digit : Char → Option Nat)

/-- The digits in front, up to a bracket. -/
def bracketed (text : List Char) : Option Nat :=
  let digits := text.takeWhile fun c => (digit c).isSome
  if digits ≠ [] ∧ text[digits.length]? = some ']' then
    some (digits.foldl (fun value c => value * 10 + (digit c).getD 0) 0)
  else none

/-- `re.search(r"outbounds\[(\d+)\]", err)` -/
def reportedIndex : List Char → Option Nat
  | [] => none
  | c :: rest =>
      match (Text.stripPrefix "outbounds[".toList (c :: rest)).bind (bracketed digit) with
      | some index => some index
      | none => reportedIndex rest

variable (check : State → List Node → (Bool × List Char) × State)

/-- `_valid_subset`, with what the checker keeps from one check to the next. -/
def validSubset (batch : List Node) (state : State) : List Node × State :=
  if batch.length = 0 then (batch, state)
  else
    let ((ok, err), state) := check state batch
    if ok then (batch, state)
    else
      let named := (reportedIndex digit err).getD batch.length
      if named < batch.length then
        validSubset (batch.take named ++ batch.drop (named + 1)) state
      else if batch.length = 1 then ([], state)
      else
        let mid := batch.length / 2
        let (left, state) := validSubset (batch.take mid) state
        let (right, state) := validSubset (batch.drop mid) state
        (left ++ right, state)
termination_by batch.length
decreasing_by
  · rw [List.length_append, List.length_take, List.length_drop]
    omega
  · rw [List.length_take]
    omega
  · rw [List.length_drop]
    omega

variable (configValid : State → List Node → Bool × State) (outbounds : List Node)

/-- `_validSubset` of `singbox_core.dart` -/
def bisected (indices : List (Fin outbounds.length)) (state : State) :
    List (Fin outbounds.length) × State :=
  if indices.length = 0 then (indices, state)
  else
    let (valid, state) := configValid state (indices.map outbounds.get)
    if valid then (indices, state)
    else if indices.length = 1 then ([], state)
    else
      let mid := indices.length / 2
      let (left, state) := bisected (indices.take mid) state
      let (right, state) := bisected (indices.drop mid) state
      (left ++ right, state)
termination_by indices.length
decreasing_by
  · rw [List.length_take]
    omega
  · rw [List.length_drop]
    omega

end Source

section Filter

variable {digit : Char → Option Nat} {check : State → List Node → (Bool × List Char) × State}
  {configValid : State → List Node → Bool × State} {good : Node → Bool}

theorem filter_halves (batch : List Node) (mid : Nat) :
    (batch.take mid).filter good ++ (batch.drop mid).filter good = batch.filter good := by
  rw [← List.filter_append, List.take_append_drop]

/-- A bad config is not among those that are kept. -/
theorem filter_drop_bad {batch : List Node} {index : Nat} (inside : index < batch.length)
    (bad : good batch[index] = false) :
    (batch.take index ++ batch.drop (index + 1)).filter good = batch.filter good := by
  rw [← filter_halves batch index, List.filter_append, List.drop_eq_getElem_cons inside,
    List.filter_cons, bad]
  rfl

theorem filter_eq_nil_of_single {batch : List Node} (one : batch.length = 1)
    (refused : ¬∀ node ∈ batch, good node = true) : batch.filter good = [] := by
  obtain ⟨node, rfl⟩ := List.length_eq_one_iff.mp one
  rw [List.filter_eq_nil_iff]
  intro other member accepted
  rw [List.mem_singleton.mp member] at accepted
  exact refused fun third inside => by rw [List.mem_singleton.mp inside]; exact accepted

/-- Dropping what is named and halving the rest comes to the acceptable configs. -/
theorem validSubset_eq_filter
    (exact_ : ∀ state batch, (check state batch).1.1 = true ↔ ∀ node ∈ batch, good node = true)
    (names : ∀ state batch index, (check state batch).1.1 = false →
      reportedIndex digit (check state batch).1.2 = some index →
      ∀ inside : index < batch.length, good batch[index] = false)
    (batch : List Node) (state : State) :
    (validSubset digit check batch state).1 = batch.filter good := by
  induction size : batch.length using Nat.strong_induction_on generalizing batch state with
  | h size ih =>
      rw [validSubset]
      by_cases empty : batch.length = 0
      · rw [if_pos empty, List.length_eq_zero_iff.mp empty]
        rfl
      · rw [if_neg empty]
        have exact_ := exact_ state batch
        have names := names state batch
        generalize check state batch = answer at exact_ names ⊢
        obtain ⟨⟨ok, err⟩, after⟩ := answer
        cases ok with
        | true =>
            exact (List.filter_eq_self.mpr (exact_.mp rfl)).symm
        | false =>
            have refused : ¬∀ node ∈ batch, good node = true := fun all =>
              Bool.false_ne_true (exact_.mpr all)
            dsimp only
            rw [if_neg Bool.false_ne_true]
            split
            · rename_i inside
              cases reported : reportedIndex digit err with
              | none =>
                  rw [reported] at inside
                  exact absurd inside (Nat.lt_irrefl _)
              | some index =>
                  rw [reported, Option.getD_some] at inside
                  rw [Option.getD_some, ← filter_drop_bad inside (names index rfl reported inside)]
                  apply ih _ _ _ _ rfl
                  rw [List.length_append, List.length_take, List.length_drop]
                  omega
            · split
              · rename_i one
                exact (filter_eq_nil_of_single one refused).symm
              · rename_i several
                have left := ih _ (by rw [List.length_take]; omega)
                  (batch.take (batch.length / 2)) after rfl
                have right := ih _ (by rw [List.length_drop]; omega)
                  (batch.drop (batch.length / 2))
                  (validSubset digit check (batch.take (batch.length / 2)) after).2 rfl
                dsimp only
                rw [left, right, filter_halves]

theorem bisected_eq_filter {outbounds : List Node}
    (exact_ : ∀ state batch, (configValid state batch).1 = true ↔ ∀ node ∈ batch, good node = true)
    (indices : List (Fin outbounds.length)) (state : State) :
    (bisected configValid outbounds indices state).1 =
      indices.filter fun index => good (outbounds.get index) := by
  induction size : indices.length using Nat.strong_induction_on generalizing indices state with
  | h size ih =>
      rw [bisected]
      by_cases empty : indices.length = 0
      · rw [if_pos empty, List.length_eq_zero_iff.mp empty]
        rfl
      · rw [if_neg empty]
        have exact_ := exact_ state (indices.map outbounds.get)
        rw [List.forall_mem_map] at exact_
        generalize configValid state (indices.map outbounds.get) = answer at exact_ ⊢
        obtain ⟨valid, after⟩ := answer
        cases valid with
        | true =>
            exact (List.filter_eq_self.mpr (exact_.mp rfl)).symm
        | false =>
            have refused := fun all => Bool.false_ne_true (exact_.mpr all)
            dsimp only
            rw [if_neg Bool.false_ne_true]
            split
            · rename_i one
              exact (filter_eq_nil_of_single one refused).symm
            · rename_i several
              have left := ih _ (by rw [List.length_take]; omega)
                (indices.take (indices.length / 2)) after rfl
              have right := ih _ (by rw [List.length_drop]; omega)
                (indices.drop (indices.length / 2))
                (bisected configValid outbounds (indices.take (indices.length / 2)) after).2 rfl
              dsimp only
              rw [left, right, filter_halves]

end Filter

section Agreement

variable {digit : Char → Option Nat} {check : State → List Node → (Bool × List Char) × State}
  {configValid : State → List Node → Bool × State} {good : Node → Bool}

/-- Both programs keep exactly the acceptable configs of a batch, in its order. -/
theorem validSubset_eq_bisected
    (exact_ : ∀ state batch, (check state batch).1.1 = true ↔ ∀ node ∈ batch, good node = true)
    (names : ∀ state batch index, (check state batch).1.1 = false →
      reportedIndex digit (check state batch).1.2 = some index →
      ∀ inside : index < batch.length, good batch[index] = false)
    (plain : ∀ state batch, (configValid state batch).1 = true ↔ ∀ node ∈ batch, good node = true)
    (batch : List Node) (state other : State) :
    (validSubset digit check batch state).1 = batch.filter good ∧
      (bisected configValid batch (List.finRange batch.length) other).1.map batch.get =
        (validSubset digit check batch state).1 := by
  have kept := validSubset_eq_filter exact_ names batch state
  constructor
  · exact kept
  · rw [kept, bisected_eq_filter plain]
    conv_rhs => rw [← List.map_get_finRange batch]
    rw [List.filter_map]
    rfl

/-- Even numbers are accepted; of the others, the first of the batch is named. -/
def checkEven (_ : Unit) (batch : List Nat) : (Bool × List Char) × Unit :=
  if batch.all fun number => number % 2 = 0 then ((true, []), ())
  else if batch.head?.any fun number => number % 2 = 1 then
    ((false, "outbounds[0]: odd".toList), ())
  else ((false, "odd".toList), ())

def asciiDigit (c : Char) : Option Nat := if c.isDigit then some (c.toNat - 48) else none

theorem checkEven_exact (state : Unit) (batch : List Nat) :
    (checkEven state batch).1.1 = true ↔ ∀ number ∈ batch, decide (number % 2 = 0) = true := by
  unfold checkEven
  split
  · rename_i all
    exact ⟨fun _ => List.all_eq_true.mp all, fun _ => rfl⟩
  · rename_i some_
    rw [← List.all_eq_true]
    split
    · exact ⟨fun accepted => absurd accepted Bool.false_ne_true, fun all => absurd all some_⟩
    · exact ⟨fun accepted => absurd accepted Bool.false_ne_true, fun all => absurd all some_⟩

theorem checkEven_names (state : Unit) (batch : List Nat) (index : Nat)
    (refused : (checkEven state batch).1.1 = false)
    (reported : reportedIndex asciiDigit (checkEven state batch).1.2 = some index)
    (inside : index < batch.length) : decide (batch[index] % 2 = 0) = false := by
  unfold checkEven at refused reported
  split at refused
  · cases refused
  · rename_i some_
    rw [if_neg some_] at reported
    split at reported
    · rename_i odd
      have first : reportedIndex asciiDigit "outbounds[0]: odd".toList = some 0 := by decide
      cases first.symm.trans reported
      cases batch with
      | nil => cases odd
      | cons number rest =>
          rw [List.head?_cons, Option.any_some, decide_eq_true_eq] at odd
          rw [List.getElem_cons_zero, decide_eq_false_iff_not]
          omega
    · have none_ : reportedIndex asciiDigit "odd".toList = none := by decide
      cases none_.symm.trans reported

theorem validSubset_eq_bisected_even :
    (validSubset asciiDigit checkEven [3, 2, 5, 4, 6] ()).1 = [2, 4, 6] ∧
      (bisected (fun state batch => ((checkEven state batch).1.1, state)) [3, 2, 5, 4, 6]
        (List.finRange 5) ()).1.map [3, 2, 5, 4, 6].get =
          (validSubset asciiDigit checkEven [3, 2, 5, 4, 6] ()).1 :=
  validSubset_eq_bisected checkEven_exact checkEven_names checkEven_exact [3, 2, 5, 4, 6] () ()

end Agreement

end MolidoVpn.Aggregator
