import Mathlib.Data.List.Basic
import Mathlib.Data.List.DropRight
import Mathlib.Data.UInt

/-!
Texts as lists of characters, with the operations of `str` that the parsers
use: splitting around a pattern, at white space and at the end of the first
line, trimming, and numbers in decimal.
-/

namespace MolidoVpn.Text

universe u

/-- Stated once, so that the texts of a list are compared in one way in every module. -/
instance lawfulBEqText : LawfulBEq (List Char) := inferInstance

section Splitting

variable {Element : Type u} [DecidableEq Element]

/-- What stands before and behind the first occurrence: `split_once`, and `position` on bytes. -/
def splitAround (pattern : List Element) : List Element → Option (List Element × List Element)
  | [] => if pattern = [] then some ([], []) else none
  | head :: tail =>
      if pattern.isPrefixOf (head :: tail) then
        some ([], (head :: tail).drop pattern.length)
      else (splitAround pattern tail).map fun (before, after) => (head :: before, after)

variable {pattern before after text : List Element} {first : Element}

theorem splitAround_here (after : List Element) :
    splitAround (first :: pattern) ((first :: pattern) ++ after) = some ([], after) := by
  rw [List.cons_append, splitAround, if_pos]
  · simp only [List.length_cons, List.drop_succ_cons, List.drop_left]
  · rw [← List.cons_append, List.isPrefixOf_iff_prefix]
    exact List.prefix_append _ _

theorem splitAround_cons {head : Element} (elsewhere : ¬pattern <+: head :: text) :
    splitAround pattern (head :: text) =
      (splitAround pattern text).map fun (before, after) => (head :: before, after) := by
  rw [splitAround, if_neg]
  rw [List.isPrefixOf_iff_prefix]
  exact elsewhere

/-- Text without the first element of the pattern is skipped. -/
theorem splitAround_append (clear : first ∉ before) :
    splitAround (first :: pattern) (before ++ text) =
      (splitAround (first :: pattern) text).map fun (skipped, after) =>
        (before ++ skipped, after) := by
  induction before with
  | nil =>
      simp only [List.nil_append]
      exact Option.map_id'.symm
  | cons head tail ih =>
      have other : first ≠ head := fun same => clear (by rw [same]; exact List.mem_cons_self)
      have elsewhere : ¬first :: pattern <+: head :: (tail ++ text) := by
        rintro ⟨rest, same⟩
        rw [List.cons_append, List.cons.injEq] at same
        exact other same.1
      rw [List.cons_append, splitAround_cons elsewhere,
        ih (fun member => clear (List.mem_cons_of_mem head member)), Option.map_map]
      rfl

theorem splitAround_first (clear : first ∉ before) (after : List Element) :
    splitAround (first :: pattern) (before ++ ((first :: pattern) ++ after)) =
      some (before, after) := by
  rw [splitAround_append clear, splitAround_here, Option.map_some]
  simp only [List.append_nil]

/-- There is one way to cut at the first place of an element. -/
theorem append_cons_inj {before' after' : List Element} (clear : first ∉ before)
    (clear' : first ∉ before') (same : before ++ first :: after = before' ++ first :: after') :
    before = before' ∧ after = after' := by
  have one : splitAround [first] (before ++ ([first] ++ after)) = some (before, after) :=
    splitAround_first clear after
  have two : splitAround [first] (before' ++ ([first] ++ after')) = some (before', after') :=
    splitAround_first clear' after'
  rw [List.singleton_append, same] at one
  rw [List.singleton_append, one] at two
  exact Prod.mk.inj (Option.some.inj two)

theorem splitAround_eq_append (split : splitAround pattern text = some (before, after)) :
    text = before ++ (pattern ++ after) := by
  induction text generalizing before with
  | nil =>
      rw [splitAround] at split
      split at split
      · rename_i empty
        cases split
        rw [empty]
        rfl
      · cases split
  | cons head tail ih =>
      rw [splitAround] at split
      split at split
      · rename_i here
        cases split
        rw [List.isPrefixOf_iff_prefix] at here
        obtain ⟨rest, same⟩ := here
        rw [← same, List.drop_left]
        rfl
      · rw [Option.map_eq_some_iff] at split
        obtain ⟨⟨skipped, rest⟩, later, same⟩ := split
        cases same
        rw [ih later]
        rfl

/-- What stands before the first occurrence of a single element does not hold it. -/
theorem splitAround_clear (split : splitAround [first] text = some (before, after)) :
    first ∉ before := by
  induction text generalizing before with
  | nil =>
      rw [splitAround, if_neg (List.cons_ne_nil first [])] at split
      cases split
  | cons head tail ih =>
      rw [splitAround] at split
      split at split
      · cases split
        exact List.not_mem_nil
      · rename_i elsewhere
        rw [Option.map_eq_some_iff] at split
        obtain ⟨⟨skipped, rest⟩, later, same⟩ := split
        cases same
        intro member
        rcases List.mem_cons.mp member with here | there
        · apply elsewhere
          rw [here, List.isPrefixOf_iff_prefix]
          exact ⟨tail, rfl⟩
        · exact ih later there

/-- Text that follows changes nothing in front of the first occurrence. -/
theorem splitAround_append_right (split : splitAround pattern text = some (before, after))
    (more : List Element) : splitAround pattern (text ++ more) = some (before, after ++ more) := by
  induction text generalizing before with
  | nil =>
      rw [splitAround] at split
      split at split
      · rename_i empty
        cases split
        cases more with
        | nil => rw [List.append_nil, splitAround, if_pos empty]
        | cons head tail =>
            rw [empty, List.nil_append, splitAround, if_pos]
            · rfl
            · rfl
      · cases split
  | cons head tail ih =>
      rw [splitAround] at split
      rw [List.cons_append, splitAround]
      split at split
      · rename_i here
        cases split
        rw [List.isPrefixOf_iff_prefix] at here
        rw [if_pos]
        · rw [← List.cons_append, List.drop_append_of_le_length here.length_le]
        · rw [List.isPrefixOf_iff_prefix]
          exact here.trans (List.prefix_append (head :: tail) more)
      · rename_i elsewhere
        rw [Option.map_eq_some_iff] at split
        obtain ⟨⟨skipped, rest⟩, later, same⟩ := split
        cases same
        -- the pattern lies in the tail, so it is too short to reach behind it
        have whole := congrArg List.length (splitAround_eq_append later)
        rw [if_neg, ih later, Option.map_some]
        rw [List.isPrefixOf_iff_prefix]
        intro here
        apply elsewhere
        rw [List.isPrefixOf_iff_prefix]
        apply List.prefix_of_prefix_length_le here (List.prefix_append (head :: tail) more)
        simp only [List.length_append, List.length_cons] at whole ⊢
        omega

/-- A text without an occurrence has none at any place. -/
theorem not_prefix_of_splitAround (missing : splitAround pattern text = none) (place : Nat) :
    ¬pattern <+: text.drop place := by
  induction text generalizing place with
  | nil =>
      rw [splitAround] at missing
      split at missing
      · cases missing
      · rename_i nonempty
        rw [List.drop_nil, List.prefix_nil]
        exact nonempty
  | cons head tail ih =>
      rw [splitAround] at missing
      split at missing
      · cases missing
      · rename_i elsewhere
        rw [Option.map_eq_none_iff] at missing
        cases place with
        | zero =>
            rw [List.isPrefixOf_iff_prefix] at elsewhere
            exact elsewhere
        | succ place => exact ih missing place

/-- There is a first occurrence where there is one at all. -/
theorem splitAround_isSome_iff : (splitAround pattern text).isSome = true ↔ pattern <:+: text := by
  constructor
  · intro found
    obtain ⟨⟨before, after⟩, split⟩ := Option.isSome_iff_exists.mp found
    exact ⟨before, after, by rw [List.append_assoc]; exact (splitAround_eq_append split).symm⟩
  · rintro ⟨before, after, rfl⟩
    rw [Option.isSome_iff_ne_none]
    intro missing
    apply not_prefix_of_splitAround missing before.length
    rw [List.append_assoc, List.drop_left]
    exact List.prefix_append _ _

/-- What follows the first occurrence has no part in where it is. -/
theorem splitAround_replace (split : splitAround pattern text = some (before, after))
    (more : List Element) : splitAround pattern (before ++ (pattern ++ more)) = some (before, more) := by
  induction text generalizing before with
  | nil =>
      rw [splitAround] at split
      split at split
      · rename_i empty
        cases split
        cases more with
        | nil => rw [List.append_nil, empty, List.nil_append, splitAround, if_pos rfl]
        | cons head tail =>
            rw [empty, List.nil_append, List.nil_append, splitAround, if_pos]
            · rfl
            · rfl
      · cases split
  | cons head tail ih =>
      rw [splitAround] at split
      split at split
      · cases split
        cases pattern with
        | nil =>
            cases more with
            | nil => rfl
            | cons other rest => rfl
        | cons first pattern => exact splitAround_here more
      · rename_i elsewhere
        rw [Option.map_eq_some_iff] at split
        obtain ⟨⟨skipped, rest⟩, later, same⟩ := split
        cases same
        rw [List.cons_append, splitAround_cons, ih later, Option.map_some]
        intro here
        apply elsewhere
        rw [List.isPrefixOf_iff_prefix, splitAround_eq_append later]
        have start : pattern <+: head :: (skipped ++ pattern) := by
          apply List.prefix_of_prefix_length_le here
          · exact ⟨more, by simp only [List.cons_append, List.append_assoc]⟩
          · simp only [List.length_cons, List.length_append]
            omega
        exact start.trans ⟨after, by simp only [List.cons_append, List.append_assoc]⟩

/-- Places without an occurrence are skipped. -/
theorem splitAround_drop {places : Nat} (clear : ∀ place < places, ¬pattern <+: text.drop place) :
    splitAround pattern text =
      (splitAround pattern (text.drop places)).map fun (before, after) =>
        (text.take places ++ before, after) := by
  induction places generalizing text with
  | zero =>
      rw [List.drop_zero, List.take_zero]
      exact Option.map_id'.symm
  | succ places ih =>
      cases text with
      | nil =>
          rw [List.drop_nil, List.take_nil]
          exact Option.map_id'.symm
      | cons head tail =>
          have later := ih fun place before => clear (place + 1) (Nat.succ_lt_succ before)
          rw [splitAround_cons (clear 0 (Nat.succ_pos places)), later, Option.map_map]
          rfl

/-- `rsplit_once` at a single element. -/
def rsplitOnce (sep : Element) (text : List Element) : Option (List Element × List Element) :=
  (splitAround [sep] text.reverse).map fun (after, before) => (before.reverse, after.reverse)

theorem rsplitOnce_last {sep : Element} (before : List Element) (clear : sep ∉ after) :
    rsplitOnce sep (before ++ sep :: after) = some (before, after) := by
  have reversed : (before ++ sep :: after).reverse = after.reverse ++ ([sep] ++ before.reverse) := by
    rw [List.reverse_append, List.reverse_cons, List.append_assoc]
  rw [rsplitOnce, reversed, splitAround_first (fun member => clear (List.mem_reverse.mp member)),
    Option.map_some]
  simp only [List.reverse_reverse]

theorem rsplitOnce_eq_append {sep : Element} (split : rsplitOnce sep text = some (before, after)) :
    text = before ++ sep :: after := by
  rw [rsplitOnce, Option.map_eq_some_iff] at split
  obtain ⟨⟨late, early⟩, found, same⟩ := split
  cases same
  have whole := congrArg List.reverse (splitAround_eq_append found)
  rw [List.reverse_reverse] at whole
  rw [whole]
  simp only [List.reverse_append, List.reverse_cons, List.append_assoc, List.singleton_append]

/-- What stands behind the last occurrence does not hold it. -/
theorem rsplitOnce_clear {sep : Element} (split : rsplitOnce sep text = some (before, after)) :
    sep ∉ after := by
  rw [rsplitOnce, Option.map_eq_some_iff] at split
  obtain ⟨⟨late, early⟩, found, same⟩ := split
  cases same
  exact fun member => splitAround_clear found (List.mem_reverse.mp member)

omit [DecidableEq Element] in
/-- A prefix without the element ends before it. -/
theorem prefix_of_prefix_append_cons {x : Element} (clear : x ∉ pattern)
    (front : pattern <+: before ++ x :: after) : pattern <+: before := by
  rcases List.prefix_or_prefix_of_prefix front (List.prefix_append before (x :: after)) with
    short | ⟨more, rfl⟩
  · exact short
  · rw [List.prefix_append_right_inj] at front
    cases more with
    | nil => rw [List.append_nil]
    | cons first rest =>
        obtain ⟨behind, same⟩ := front
        rw [List.cons_append, List.cons.injEq] at same
        exact absurd (List.mem_append_right _ (same.1 ▸ List.mem_cons_self)) clear

/-- Where a pattern is found that does not lie in front of an element it does not have. -/
theorem splitAround_append_cons {x : Element} (missing : splitAround pattern before = none)
    (clear : x ∉ pattern) :
    splitAround pattern (before ++ x :: after) =
      (splitAround pattern after).map fun (skipped, rest) => (before ++ x :: skipped, rest) := by
  have elsewhere {before : List Element} (missing : splitAround pattern before = none) :
      ¬pattern <+: before ++ x :: after := by
    intro front
    have inside := splitAround_isSome_iff.mpr (prefix_of_prefix_append_cons clear front).isInfix
    rw [missing] at inside
    cases inside
  induction before with
  | nil => exact splitAround_cons (elsewhere missing)
  | cons head before ih =>
      have later : splitAround pattern before = none := by
        rw [splitAround] at missing
        split at missing
        · cases missing
        · exact Option.map_eq_none_iff.mp missing
      have apart : ¬pattern <+: head :: (before ++ x :: after) := elsewhere missing
      rw [List.cons_append, splitAround_cons apart, ih later, Option.map_map]
      rfl

/-- `strip_prefix` -/
def stripPrefix (pattern text : List Element) : Option (List Element) :=
  if pattern.isPrefixOf text then some (text.drop pattern.length) else none

theorem stripPrefix_append (pattern text : List Element) :
    stripPrefix pattern (pattern ++ text) = some text := by
  rw [stripPrefix, if_pos (List.isPrefixOf_iff_prefix.mpr (List.prefix_append _ _)),
    List.drop_left]

theorem stripPrefix_eq_none (other : text.head? ≠ some first) :
    stripPrefix (first :: pattern) text = none := by
  rw [stripPrefix, if_neg]
  rw [List.isPrefixOf_iff_prefix]
  rintro ⟨rest, rfl⟩
  exact other rfl

theorem stripPrefix_eq_append {rest : List Element} (stripped : stripPrefix pattern text = some rest) :
    text = pattern ++ rest := by
  rw [stripPrefix] at stripped
  split at stripped
  · rename_i here
    cases stripped
    obtain ⟨rest, same⟩ := List.isPrefixOf_iff_prefix.mp here
    rw [← same, List.drop_left]
  · cases stripped

/-- `split` at a pattern that is not empty. -/
def splitEvery (first : Element) (rest text : List Element) : List (List Element) :=
  match _split : splitAround (first :: rest) text with
  | none => [text]
  | some (before, after) => before :: splitEvery first rest after
termination_by text.length
decreasing_by
  have whole := congrArg List.length (splitAround_eq_append _split)
  simp only [List.length_append, List.length_cons] at whole
  omega

theorem splitEvery_none (missing : splitAround (first :: pattern) text = none) :
    splitEvery first pattern text = [text] := by
  rw [splitEvery]
  split
  · rfl
  · rename_i split
    rw [missing] at split
    cases split

theorem splitEvery_some (split : splitAround (first :: pattern) text = some (before, after)) :
    splitEvery first pattern text = before :: splitEvery first pattern after := by
  rw [splitEvery]
  split
  · rename_i missing
    rw [split] at missing
    cases missing
  · rename_i again
    rw [split] at again
    cases again
    rfl

theorem splitEvery_ne_nil (first : Element) (pattern text : List Element) :
    splitEvery first pattern text ≠ [] := by
  cases split : splitAround (first :: pattern) text with
  | none =>
      rw [splitEvery_none split]
      exact List.cons_ne_nil _ _
  | some parts =>
      rw [splitEvery_some split]
      exact List.cons_ne_nil _ _

section Joined

variable {second : Element} {line : List Element} {lines : List (List Element)}

/-- Lines with a separator of two elements between them. -/
def joined (first second : Element) (line : List Element) (lines : List (List Element)) :
    List Element :=
  line ++ lines.flatMap fun line => first :: second :: line

omit [DecidableEq Element] in
theorem joined_cons (first second : Element) (line next : List Element)
    (lines : List (List Element)) :
    joined first second line (next :: lines) =
      line ++ first :: second :: joined first second next lines := by
  simp only [joined, List.flatMap_cons, List.cons_append]

theorem splitEvery_joined (clear : ∀ line' ∈ line :: lines, first ∉ line') :
    splitEvery first [second] (joined first second line lines) = line :: lines := by
  induction lines generalizing line with
  | nil =>
      have missing : splitAround [first, second] line = none := by
        have skipped : splitAround [first, second] (line ++ []) =
            (splitAround [first, second] []).map fun (skipped, after) => (line ++ skipped, after) :=
          splitAround_append (clear line List.mem_cons_self)
        rw [List.append_nil] at skipped
        rw [skipped]
        rfl
      rw [joined, List.flatMap_nil, List.append_nil, splitEvery_none missing]
  | cons next lines ih =>
      have cut : splitAround [first, second] (joined first second line (next :: lines)) =
          some (line, joined first second next lines) := by
        rw [joined_cons]
        exact splitAround_first (clear line List.mem_cons_self) _
      rw [splitEvery_some cut, ih fun line' member => clear line' (List.mem_cons_of_mem _ member)]

/-- The first empty line is the one behind the last of the lines. -/
theorem splitAround_joined (other : second ≠ first)
    (clear : ∀ line' ∈ line :: lines, first ∉ line') (nonempty : ∀ line' ∈ lines, line' ≠ [])
    (after : List Element) :
    splitAround [first, second, first, second]
        (joined first second line lines ++ first :: second :: first :: second :: after) =
      some (joined first second line lines, after) := by
  induction lines generalizing line with
  | nil =>
      rw [joined, List.flatMap_nil, List.append_nil]
      exact splitAround_first (clear line List.mem_cons_self) after
  | cons next lines ih =>
      have later : splitAround [first, second, first, second]
          (joined first second next lines ++ first :: second :: first :: second :: after) =
            some (joined first second next lines, after) :=
        ih (fun line' member => clear line' (List.mem_cons_of_mem _ member))
          fun line' member => nonempty line' (List.mem_cons_of_mem _ member)
      have elsewhere : ∀ rest, ¬[first, second, first, second] <+:
          first :: second :: (joined first second next lines ++ rest) := by
        rintro rest ⟨tail, same⟩
        simp only [List.cons_append, List.nil_append, List.cons.injEq, true_and] at same
        obtain ⟨c, next', rfl⟩ := List.exists_cons_of_ne_nil (nonempty next List.mem_cons_self)
        rw [joined, List.cons_append, List.cons_append, List.cons.injEq] at same
        apply clear (c :: next') (List.mem_cons_of_mem _ List.mem_cons_self)
        rw [← same.1]
        exact List.mem_cons_self
      have behind : ∀ rest, ¬[first, second, first, second] <+: second :: rest := by
        rintro rest ⟨tail, same⟩
        rw [List.cons_append, List.cons.injEq] at same
        exact other same.1.symm
      rw [joined_cons, List.append_assoc, splitAround_append (clear line List.mem_cons_self),
        List.cons_append, List.cons_append, splitAround_cons (elsewhere _),
        splitAround_cons (behind _), later]
      rfl

end Joined

end Splitting

section Pieces

variable {Element : Type u} {p : Element → Bool}

/-- There are no separators left in the pieces. -/
theorem eq_false_of_mem_splitOnP (text : List Element) :
    ∀ piece ∈ text.splitOnP p, ∀ x ∈ piece, p x = false := by
  induction text with
  | nil =>
      intro piece member
      rw [List.splitOnP_nil, List.mem_singleton] at member
      rw [member]
      exact fun _ none_ => absurd none_ List.not_mem_nil
  | cons c text ih =>
      intro piece member
      rw [List.splitOnP_cons_eq_if_modifyHead] at member
      cases separates : p c with
      | true =>
          rw [if_pos separates] at member
          rcases List.mem_cons.mp member with rfl | later
          · exact fun _ none_ => absurd none_ List.not_mem_nil
          · exact ih piece later
      | false =>
          rw [if_neg (by rw [separates]; exact Bool.false_ne_true)] at member
          cases parts : text.splitOnP p with
          | nil => exact absurd parts (List.splitOnP_ne_nil _ _)
          | cons head tail =>
              rw [parts, List.modifyHead_cons] at member
              rw [parts] at ih
              rcases List.mem_cons.mp member with rfl | later
              · intro other there
                rcases List.mem_cons.mp there with rfl | inHead
                · exact separates
                · exact ih head List.mem_cons_self other inHead
              · exact ih piece (List.mem_cons_of_mem head later)

theorem cons_intercalate (sep : Element) {pieces : List (List Element)} (some_ : pieces ≠ []) :
    sep :: [sep].intercalate pieces = pieces.flatMap fun piece => sep :: piece := by
  induction pieces with
  | nil => exact absurd rfl some_
  | cons first rest ih =>
      cases rest with
      | nil => rw [List.intercalate_singleton, List.flatMap_singleton]
      | cons second rest =>
          rw [List.intercalate_cons_cons, List.append_assoc, List.singleton_append,
            ih (List.cons_ne_nil second rest)]
          rfl

theorem intercalate_append (sep : Element) {left right : List (List Element)} (some_ : left ≠ [])
    (others : right ≠ []) :
    [sep].intercalate (left ++ right) =
      [sep].intercalate left ++ sep :: [sep].intercalate right := by
  have whole := cons_intercalate sep (List.append_ne_nil_of_left_ne_nil some_ right)
  rw [List.flatMap_append, ← cons_intercalate sep some_, ← cons_intercalate sep others] at whole
  exact (List.cons.inj whole).2

variable [BEq Element] [LawfulBEq Element] {sep : Element} {text piece : List Element}

/-- With a separator in front of the text, every piece has one in front of it. -/
theorem cons_eq_flatMap_splitOn (sep : Element) (text : List Element) :
    sep :: text = (text.splitOn sep).flatMap fun piece => sep :: piece := by
  rw [← cons_intercalate sep (List.splitOn_ne_nil sep text), List.intercalate_splitOn]

theorem eq_append_of_mem_splitOn (member : piece ∈ text.splitOn sep) :
    ∃ before after, sep :: text = before ++ sep :: (piece ++ after) := by
  obtain ⟨left, right, pieces⟩ := List.append_of_mem member
  refine ⟨left.flatMap fun piece => sep :: piece, right.flatMap fun piece => sep :: piece, ?_⟩
  rw [cons_eq_flatMap_splitOn, pieces, List.flatMap_append, List.flatMap_cons]
  rfl

end Pieces

section Strip

variable {Element : Type u} (p : Element → Bool)

/-- Without what stands at both ends. -/
def strip (text : List Element) : List Element := (text.dropWhile p).rdropWhile p

variable {p}

theorem dropWhile_append_cons {x : Element} (solid : p x = false) (before after : List Element) :
    (before ++ x :: after).dropWhile p = before.dropWhile p ++ x :: after := by
  rw [List.dropWhile_append]
  split
  · rename_i empty
    rw [List.isEmpty_iff.mp empty,
      List.dropWhile_cons_of_neg (by rw [solid]; exact Bool.false_ne_true)]
    rfl
  · rfl

theorem rdropWhile_append_cons {x : Element} (solid : p x = false) (before after : List Element) :
    (before ++ x :: after).rdropWhile p = before ++ x :: after.rdropWhile p := by
  have kept : ¬p x = true := by rw [solid]; exact Bool.false_ne_true
  induction after using List.reverseRecOn with
  | nil => exact List.rdropWhile_concat_neg p before x kept
  | append_singleton after last ih =>
      have whole : before ++ x :: (after ++ [last]) = (before ++ x :: after) ++ [last] := by
        simp only [List.append_assoc, List.cons_append]
      rw [whole, List.rdropWhile_concat, List.rdropWhile_concat, ih]
      split
      · rfl
      · exact whole.symm

/-- An element that stays parts the two ends. -/
theorem strip_append_cons {x : Element} (solid : p x = false) (before after : List Element) :
    strip p (before ++ x :: after) = before.dropWhile p ++ x :: after.rdropWhile p := by
  rw [strip, dropWhile_append_cons solid, rdropWhile_append_cons solid]

@[simp]
theorem rdropWhile_strip (text : List Element) : (strip p text).rdropWhile p = strip p text :=
  List.rdropWhile_idempotent p _

/-- The far end may be taken off before. -/
theorem strip_rdropWhile (text : List Element) : strip p (text.rdropWhile p) = strip p text := by
  induction text using List.reverseRecOn with
  | nil => rfl
  | append_singleton text last ih =>
      rw [List.rdropWhile_concat]
      split
      · rename_i space
        rw [ih, strip, strip, List.dropWhile_append]
        split
        · rename_i empty
          rw [List.isEmpty_iff.mp empty, List.dropWhile_cons_of_pos space]
          rfl
        · rw [List.rdropWhile_concat_pos p _ last space]
      · rfl

/-- What is taken off the far end may also be put there. -/
theorem strip_append_blank {blank : List Element} (text : List Element)
    (blanks : ∀ x ∈ blank, p x = true) : strip p (text ++ blank) = strip p text := by
  have end_ : (text ++ blank).rdropWhile p = text.rdropWhile p := by
    induction blank using List.reverseRecOn with
    | nil => rw [List.append_nil]
    | append_singleton blank last ih =>
        rw [← List.append_assoc, List.rdropWhile_concat_pos p _ last
          (blanks last (List.mem_append_right _ List.mem_cons_self))]
        exact ih fun x member => blanks x (List.mem_append_left _ member)
  rw [← strip_rdropWhile (text ++ blank), end_, strip_rdropWhile]

theorem strip_of_solid {text : List Element} (solid : ∀ x ∈ text, p x = false) :
    strip p text = text := by
  cases text with
  | nil => rfl
  | cons first rest =>
      have tail : rest.rdropWhile p = rest := by
        rw [List.rdropWhile_eq_self_iff]
        intro nonempty
        rw [solid _ (List.mem_cons_of_mem _ (List.getLast_mem nonempty))]
        exact Bool.false_ne_true
      have whole := strip_append_cons (solid first List.mem_cons_self) [] rest
      rw [List.nil_append, tail] at whole
      exact whole

theorem strip_strip (text : List Element) : strip p (strip p text) = strip p text := by
  have front : (strip p text).dropWhile p = strip p text := by
    cases kept : text.dropWhile p with
    | nil => rw [strip, kept]; rfl
    | cons x rest =>
        have solid : p x = false := by
          have first := List.head_dropWhile_not p (by rw [kept]; exact List.cons_ne_nil x rest)
          simp only [kept, List.head_cons] at first
          exact first
        have whole := rdropWhile_append_cons solid [] rest
        rw [List.nil_append] at whole
        rw [strip, kept, whole, List.nil_append,
          List.dropWhile_cons_of_neg (by rw [solid]; exact Bool.false_ne_true)]
  rw [strip, front, rdropWhile_strip]

theorem dropWhile_of_strip {text : List Element} (bare : strip p text = text) :
    text.dropWhile p = text := by
  have long := (List.rdropWhile_prefix p (text.dropWhile p)).length_le
  rw [← strip, bare] at long
  exact (List.dropWhile_suffix p).eq_of_length_le long

theorem rdropWhile_of_strip {text : List Element} (bare : strip p text = text) :
    text.rdropWhile p = text := by
  rw [← bare]
  exact rdropWhile_strip text

theorem strip_append {before after : List Element} (front : strip p before = before)
    (behind : strip p after = after) : strip p (before ++ after) = before ++ after := by
  have kept {left right : List Element} (left_ : left.dropWhile p = left)
      (right_ : right.dropWhile p = right) : (left ++ right).dropWhile p = left ++ right := by
    rw [List.dropWhile_append, left_]
    split
    · rename_i empty
      rw [List.isEmpty_iff.mp empty, right_]
      rfl
    · rfl
  have ends {text : List Element} (bare : strip p text = text) :
      text.reverse.dropWhile p = text.reverse := by
    have rest := congrArg List.reverse (rdropWhile_of_strip bare)
    rw [List.rdropWhile, List.reverse_reverse] at rest
    exact rest
  rw [strip, kept (dropWhile_of_strip front) (dropWhile_of_strip behind), List.rdropWhile,
    List.reverse_append, kept (ends behind) (ends front), ← List.reverse_append,
    List.reverse_reverse]

theorem strip_flatten {texts : List (List Element)} (bare : ∀ text ∈ texts, strip p text = text) :
    strip p texts.flatten = texts.flatten := by
  induction texts with
  | nil => rfl
  | cons text rest ih =>
      rw [List.flatten_cons]
      exact strip_append (bare text List.mem_cons_self)
        (ih fun other there => bare other (List.mem_cons_of_mem _ there))

theorem mem_strip {x : Element} {text : List Element} (solid : p x = false) :
    x ∈ strip p text ↔ x ∈ text := by
  constructor
  · intro member
    exact (List.dropWhile_suffix p).subset ((List.rdropWhile_prefix p _).subset member)
  · intro member
    obtain ⟨before, after, rfl⟩ := List.append_of_mem member
    rw [strip_append_cons solid]
    exact List.mem_append_right _ List.mem_cons_self

end Strip

section WhiteSpace

/-- `char::is_whitespace` -/
def isWhitespace (c : Char) : Bool :=
  let code := c.toNat
  (9 ≤ code && code ≤ 13) || code == 0x20 || code == 0x85 || code == 0xA0 || code == 0x1680 ||
    (0x2000 ≤ code && code ≤ 0x200A) || code == 0x2028 || code == 0x2029 || code == 0x202F ||
    code == 0x205F || code == 0x3000

variable {text word : List Char} {sep : Char}

def trimStart (text : List Char) : List Char := text.dropWhile isWhitespace

def trimEnd (text : List Char) : List Char := (text.reverse.dropWhile isWhitespace).reverse

def trim (text : List Char) : List Char := trimEnd (trimStart text)

/-- What `String.prototype.trim` of JavaScript takes for white space. -/
def isJsSpace (c : Char) : Bool :=
  c == '\ufeff' || (isWhitespace c && c != '\u0085')

def jsTrim (text : List Char) : List Char :=
  ((text.dropWhile isJsSpace).reverse.dropWhile isJsSpace).reverse

/-- No character of the text is white space. -/
def Solid (text : List Char) : Prop := ∀ c ∈ text, isWhitespace c = false

instance (text : List Char) : Decidable (Solid text) :=
  List.decidableBAll (fun c => isWhitespace c = false) text

private theorem dropWhile_of_solid (solid : Solid text) : text.dropWhile isWhitespace = text := by
  cases text with
  | nil => rfl
  | cons c text =>
      have first : isWhitespace c = false := solid c List.mem_cons_self
      rw [List.dropWhile_cons_of_neg (by rw [first]; exact Bool.false_ne_true)]

theorem trim_of_solid (solid : Solid text) : trim text = text := by
  have reversed : Solid text.reverse := fun c member => solid c (List.mem_reverse.mp member)
  rw [trim, trimStart, dropWhile_of_solid solid, trimEnd, dropWhile_of_solid reversed,
    List.reverse_reverse]

theorem trim_append_blank {blank : List Char} (solid : Solid text)
    (blanks : ∀ c ∈ blank, isWhitespace c = true) : trim (text ++ blank) = text :=
  (strip_append_blank text blanks).trans (strip_of_solid solid)

theorem spaces_of_trim (empty : trim text = []) : ∀ c ∈ text, isWhitespace c = true := by
  intro c member
  by_contra solid
  rw [Bool.not_eq_true] at solid
  have kept : c ∈ trim text := (mem_strip solid).mpr member
  rw [empty] at kept
  cases kept

theorem Solid.append {more : List Char} (solid : Solid text) (others : Solid more) :
    Solid (text ++ more) := by
  intro c member
  rcases List.mem_append.mp member with early | late
  · exact solid c early
  · exact others c late

theorem Solid.not_mem {c : Char} (solid : Solid text) (space : isWhitespace c = true) :
    c ∉ text := by
  intro member
  rw [solid c member] at space
  cases space

/-- `split_whitespace` -/
def words (text : List Char) : List (List Char) :=
  (text.splitOnP isWhitespace).filter fun word => word ≠ []

theorem words_append (solid : Solid word) (nonempty : word ≠ []) (space : isWhitespace sep = true)
    (text : List Char) : words (word ++ sep :: text) = word :: words text := by
  rw [words, List.splitOnP_append_cons_of_forall_mem solid sep space, List.filter_cons_of_pos]
  · rfl
  · exact decide_eq_true nonempty

theorem words_single (solid : Solid word) (nonempty : word ≠ []) : words word = [word] := by
  rw [words, List.splitOnP_eq_singleton solid, List.filter_cons_of_pos]
  · rfl
  · exact decide_eq_true nonempty

theorem solid_of_mem_words (member : word ∈ words text) : Solid word :=
  eq_false_of_mem_splitOnP text word (List.mem_of_mem_filter member)

/-- `lines().next()`, and the empty text when there is no line. -/
def firstLine (text : List Char) : List Char :=
  match splitAround ['\n'] text with
  | none => text
  | some (line, _) => if line.getLast? = some '\r' then line.dropLast else line

theorem firstLine_crlf {line : List Char} (clear : '\n' ∉ line) (rest : List Char) :
    firstLine (line ++ '\r' :: '\n' :: rest) = line := by
  have whole : line ++ '\r' :: '\n' :: rest = (line ++ ['\r']) ++ (['\n'] ++ rest) := by
    simp only [List.append_assoc, List.singleton_append]
  have clear' : '\n' ∉ line ++ ['\r'] := by
    intro member
    rcases List.mem_append.mp member with early | late
    · exact clear early
    · exact absurd (List.mem_singleton.mp late) (by decide)
  rw [firstLine, whole, splitAround_first clear']
  simp only [List.getLast?_concat, if_true, List.dropLast_concat]

end WhiteSpace

section Numbers

/-- `to_string` of an unsigned number. -/
def decimal (value : Nat) : List Char := Nat.toDigits 10 value

/-- `u16::from_str`; a plus sign is allowed. -/
def parseU16 (text : List Char) : Option UInt16 :=
  let digits := if text.head? = some '+' then text.tail else text
  if digits = [] ∨ digits.all Char.isDigit = false then none
  else
    let value := Nat.ofDigitChars 10 digits 0
    if value < 2 ^ 16 then some (UInt16.ofNat value) else none

theorem decimal_isDigit {value : Nat} {c : Char} (member : c ∈ decimal value) :
    c.isDigit = true :=
  Nat.isDigit_of_mem_toDigits (by decide) (by decide) member

theorem decimal_ne_nil (value : Nat) : decimal value ≠ [] := Nat.toDigits_ne_nil

/-- A character that is no digit does not occur in a number. -/
theorem not_mem_decimal {c : Char} (other : c.isDigit = false) (value : Nat) : c ∉ decimal value := by
  intro member
  rw [decimal_isDigit member] at other
  cases other

theorem isWhitespace_of_isDigit {c : Char} (digit : c.isDigit = true) : isWhitespace c = false := by
  have bounds : 48 ≤ c.toNat ∧ c.toNat ≤ 57 := by
    rw [Char.isDigit, Bool.and_eq_true, decide_eq_true_eq, decide_eq_true_eq] at digit
    exact ⟨UInt32.le_iff_toNat_le.mp digit.1, UInt32.le_iff_toNat_le.mp digit.2⟩
  simp only [isWhitespace, Bool.or_eq_false_iff, Bool.and_eq_false_iff, decide_eq_false_iff_not,
    beq_eq_false_iff_ne]
  omega

theorem decimal_inj {one other : Nat} (same : decimal one = decimal other) : one = other := by
  have value := congrArg (fun digits => Nat.ofDigitChars 10 digits 0) same
  exact Nat.ofDigitChars_ten_toDigits.symm.trans (value.trans Nat.ofDigitChars_ten_toDigits)

theorem decimal_solid (value : Nat) : Solid (decimal value) :=
  fun _ member => isWhitespace_of_isDigit (decimal_isDigit member)

theorem parseU16_decimal (port : UInt16) : parseU16 (decimal port.toNat) = some port := by
  have unsigned : (decimal port.toNat).head? ≠ some '+' := by
    intro signed
    exact not_mem_decimal (by decide) port.toNat (List.mem_of_head? signed)
  have digits : (decimal port.toNat).all Char.isDigit = true :=
    List.all_eq_true.mpr fun c member => decimal_isDigit member
  have numeric : ¬(decimal port.toNat = [] ∨ (decimal port.toNat).all Char.isDigit = false) := by
    rintro (empty | other)
    · exact decimal_ne_nil _ empty
    · rw [digits] at other
      cases other
  have value : Nat.ofDigitChars 10 (decimal port.toNat) 0 = port.toNat :=
    Nat.ofDigitChars_toDigits (by decide) (by decide)
  rw [parseU16, if_neg unsigned]
  simp only [if_neg numeric, value]
  rw [if_pos port.toNat_lt, UInt16.ofNat_toNat]

end Numbers

end MolidoVpn.Text
