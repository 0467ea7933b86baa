import Mathlib.Data.List.Basic

/-!
Lower-casing as Unicode defines it for a whole text, over tables that are not spelled out: every
character has its own mapping, and the capital sigma has two, by what stands around it. Of the
tables only the ASCII part is known, and that they do not tell its two cases apart elsewhere.
-/

namespace MolidoVpn.Lowercase

/-- The lower-case mapping, and the two properties that the sigma rule looks at. -/
structure CaseTables where
  lower : Char → List Char
  cased : Char → Bool
  ignorable : Char → Bool
  lower_ascii : ∀ c, c.toNat < 128 → lower c = [c.toLower]
  cased_toLower : ∀ c, cased c.toLower = cased c
  ignorable_toLower : ∀ c, ignorable c.toLower = ignorable c

variable (tables : CaseTables)

/-- Behind characters that do not count, a letter. -/
def ignorableThenCased (text : List Char) : Bool :=
  match text.dropWhile tables.ignorable with
  | [] => false
  | c :: _ => tables.cased c

/-- What a character becomes between the text before it, read backwards, and the text after it. -/
def lowerAt (before : List Char) (c : Char) (after : List Char) : List Char :=
  if c = 'Σ' then
    if ignorableThenCased tables before && !ignorableThenCased tables after then ['ς'] else ['σ']
  else tables.lower c

def lowerFrom (before : List Char) : List Char → List Char
  | [] => []
  | c :: after => lowerAt tables before c after ++ lowerFrom (c :: before) after

/-- `str::to_lowercase` -/
def toLowercase (text : List Char) : List Char := lowerFrom tables [] text

def SameButCase (text other : List Char) : Prop := text.map Char.toLower = other.map Char.toLower

instance decidableSameButCase (text other : List Char) : Decidable (SameButCase text other) :=
  inferInstanceAs (Decidable (_ = _))

variable {tables} {text other : List Char}

theorem toLower_eq_or (c : Char) : c.toLower = c ∨ c.toNat < 128 ∧ c.toLower.toNat < 128 := by
  by_cases capital : c.val ≥ 'A'.val ∧ c.val ≤ 'Z'.val
  · have mapped : c.toLower.val = c.val + ('a'.val - 'A'.val) := congrArg Char.val (dif_pos capital)
    have upper : c.val.toNat ≤ 90 := capital.2
    refine Or.inr ⟨?_, ?_⟩
    · change c.val.toNat < 128
      omega
    · change c.toLower.val.toNat < 128
      rw [mapped, UInt32.toNat_add, show ('a'.val - 'A'.val).toNat = 32 from rfl]
      omega
  · exact Or.inl (dif_neg capital)

theorem toLower_toLower (c : Char) : c.toLower.toLower = c.toLower := by
  by_cases capital : c.val ≥ 'A'.val ∧ c.val ≤ 'Z'.val
  · have mapped : c.toLower.val = c.val + ('a'.val - 'A'.val) := congrArg Char.val (dif_pos capital)
    have upper : c.val.toNat ≤ 90 := capital.2
    have lower : 65 ≤ c.val.toNat := capital.1
    refine dif_neg ?_
    intro again
    have small : c.toLower.val.toNat ≤ 90 := again.2
    rw [mapped, UInt32.toNat_add, show ('a'.val - 'A'.val).toNat = 32 from rfl] at small
    omega
  · have own : c.toLower = c := dif_neg capital
    rw [own, own]

theorem ascii_of_toLower_eq {c d : Char} (same : c.toLower = d.toLower) :
    c = d ∨ c.toNat < 128 ∧ d.toNat < 128 := by
  rcases toLower_eq_or c with own | ⟨small, lowerSmall⟩
  · rcases toLower_eq_or d with own' | ⟨small', lowerSmall'⟩
    · rw [own, own'] at same
      exact Or.inl same
    · rw [own] at same
      rw [same]
      exact Or.inr ⟨lowerSmall', small'⟩
  · rcases toLower_eq_or d with own' | ⟨small', lowerSmall'⟩
    · rw [own'] at same
      rw [← same]
      exact Or.inr ⟨small, lowerSmall⟩
    · exact Or.inr ⟨small, small'⟩

theorem ignorableThenCased_congr (same : SameButCase text other) :
    ignorableThenCased tables text = ignorableThenCased tables other := by
  induction text generalizing other with
  | nil =>
      obtain rfl := List.map_eq_nil_iff.mp same.symm
      rfl
  | cons c text ih =>
      obtain ⟨d, rest, rfl, first, later⟩ := List.map_eq_cons_iff.mp same.symm
      have cased : tables.cased c = tables.cased d := by
        rw [← tables.cased_toLower c, ← first, tables.cased_toLower]
      have ignored : tables.ignorable c = tables.ignorable d := by
        rw [← tables.ignorable_toLower c, ← first, tables.ignorable_toLower]
      have rest_ := ih later.symm
      unfold ignorableThenCased at rest_ ⊢
      rw [List.dropWhile_cons, List.dropWhile_cons, ignored]
      by_cases skipped : tables.ignorable d = true
      · rw [if_pos skipped, if_pos skipped]
        exact rest_
      · rw [if_neg skipped, if_neg skipped]
        exact cased

theorem lowerAt_congr {before before' after after' : List Char} {c d : Char}
    (sameBefore : SameButCase before before') (same : c.toLower = d.toLower)
    (sameAfter : SameButCase after after') :
    lowerAt tables before c after = lowerAt tables before' d after' := by
  have sigma : c = 'Σ' ↔ d = 'Σ' := by
    rcases ascii_of_toLower_eq same with rfl | ⟨small, small'⟩
    · exact Iff.rfl
    · refine iff_of_false ?_ ?_
      · rintro rfl
        exact absurd small (by decide)
      · rintro rfl
        exact absurd small' (by decide)
  have mapped : tables.lower c = tables.lower d := by
    rcases ascii_of_toLower_eq same with rfl | ⟨small, small'⟩
    · rfl
    · rw [tables.lower_ascii c small, tables.lower_ascii d small', same]
  rw [lowerAt, lowerAt, ignorableThenCased_congr sameBefore, ignorableThenCased_congr sameAfter,
    mapped]
  simp only [sigma]

/-- Nothing of the case of ASCII letters is left. -/
theorem toLowercase_congr (same : SameButCase text other) :
    toLowercase tables text = toLowercase tables other := by
  have from_ : ∀ {before before' : List Char}, SameButCase before before' →
      lowerFrom tables before text = lowerFrom tables before' other := by
    induction text generalizing other with
    | nil =>
        obtain rfl := List.map_eq_nil_iff.mp same.symm
        intro _ _ _
        rfl
    | cons c text ih =>
        obtain ⟨d, rest, rfl, first, later⟩ := List.map_eq_cons_iff.mp same.symm
        intro before before' sameBefore
        rw [lowerFrom, lowerFrom, lowerAt_congr sameBefore first.symm later.symm]
        refine congrArg _ (ih later.symm ?_)
        rw [SameButCase, List.map_cons, List.map_cons, first, sameBefore]
  exact from_ rfl

theorem toLowercase_ascii (ascii : ∀ c ∈ text, c.toNat < 128) :
    toLowercase tables text = text.map Char.toLower := by
  have from_ : ∀ before, lowerFrom tables before text = text.map Char.toLower := by
    induction text with
    | nil => exact fun _ => rfl
    | cons c text ih =>
        intro before
        have small := ascii c List.mem_cons_self
        have plain : c ≠ 'Σ' := by
          rintro rfl
          exact absurd small (by decide)
        rw [lowerFrom, lowerAt, if_neg plain, tables.lower_ascii c small,
          ih fun c member => ascii c (List.mem_cons_of_mem _ member)]
        rfl
  exact from_ []

/-- The tables as far as ASCII goes. -/
def asciiTables : CaseTables where
  lower c := [c.toLower]
  cased c := c.toLower.isLower
  ignorable _ := false
  lower_ascii _ _ := rfl
  cased_toLower c := by rw [toLower_toLower]
  ignorable_toLower _ := rfl

end MolidoVpn.Lowercase
