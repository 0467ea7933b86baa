import MolidoVpn.Lib.Text

/-!
Unsigned numbers to the base 16, as `from_str_radix` reads them.
-/

namespace MolidoVpn.Radix

open Text (isWhitespace)

/-- `to_digit` to the base 16 -/
def hexDigit (c : Char) : Option Nat :=
  let code := c.toNat
  if 48 ≤ code ∧ code ≤ 57 then some (code - 48)
  else if 97 ≤ code ∧ code ≤ 102 then some (code - 87)
  else if 65 ≤ code ∧ code ≤ 70 then some (code - 55)
  else none

def hexFrom (value : Nat) : List Char → Option Nat
  | [] => some value
  | c :: digits => (hexDigit c).bind fun digit => hexFrom (value * 16 + digit) digits

/-- The value of the digits, without a bound. -/
def hexValue (digits : List Char) : Option Nat := hexFrom 0 digits

/-- `from_str_radix` to the base 16 of an unsigned type of so many bits; a plus sign is allowed. -/
def fromStrRadix16 (bits : Nat) (text : List Char) : Option Nat :=
  let digits := if text.head? = some '+' then text.tail else text
  if digits = [] then none else (hexValue digits).filter (· < 2 ^ bits)

variable {c : Char} {digits : List Char} {value : Nat}

theorem of_hexDigit {digit : Nat} (read : hexDigit c = some digit) :
    48 ≤ c.toNat ∧ c.toNat ≤ 57 ∨ 97 ≤ c.toNat ∧ c.toNat ≤ 102 ∨ 65 ≤ c.toNat ∧ c.toNat ≤ 70 := by
  unfold hexDigit at read
  simp only at read
  split at read
  · rename_i decimal
    exact Or.inl decimal
  · split at read
    · rename_i lower
      exact Or.inr (Or.inl lower)
    · split at read
      · rename_i upper
        exact Or.inr (Or.inr upper)
      · cases read

theorem hexDigit_lt {digit : Nat} (read : hexDigit c = some digit) : digit < 16 := by
  have range := of_hexDigit read
  unfold hexDigit at read
  simp only at read
  split at read
  · cases read
    omega
  · split at read
    · cases read
      omega
    · split at read
      · cases read
        omega
      · cases read

theorem mem_hexFrom {start : Nat} (read : hexFrom start digits = some value) (member : c ∈ digits) :
    ∃ digit, hexDigit c = some digit := by
  induction digits generalizing start with
  | nil => cases member
  | cons first digits ih =>
      rw [hexFrom, Option.bind_eq_some_iff] at read
      obtain ⟨digit, here, later⟩ := read
      rcases List.mem_cons.mp member with rfl | there
      · exact ⟨digit, here⟩
      · exact ih later there

theorem ascii_of_hexValue (read : hexValue digits = some value) (member : c ∈ digits) :
    c.toNat < 128 := by
  obtain ⟨digit, here⟩ := mem_hexFrom read member
  have range := of_hexDigit here
  omega

theorem lt_of_fromStrRadix16 {bits : Nat} {text : List Char}
    (read : fromStrRadix16 bits text = some value) : value < 2 ^ bits := by
  unfold fromStrRadix16 at read
  generalize (if text.head? = some '+' then text.tail else text) = digits at read
  simp only at read
  split at read
  · cases read
  · rw [Option.filter_eq_some_iff] at read
    exact of_decide_eq_true read.2

/-- Only digits and the sign are read. -/
theorem ascii_of_fromStrRadix16 {bits : Nat} {text : List Char}
    (read : fromStrRadix16 bits text = some value) : ∀ c ∈ text, c.toNat < 128 := by
  unfold fromStrRadix16 at read
  by_cases signed : text.head? = some '+'
  · rw [if_pos signed] at read
    simp only at read
    split at read
    · cases read
    · rw [Option.filter_eq_some_iff] at read
      obtain ⟨rest, rfl⟩ := List.head?_eq_some_iff.mp signed
      intro c member
      rcases List.mem_cons.mp member with rfl | later
      · decide
      · exact ascii_of_hexValue read.1 later
  · rw [if_neg signed] at read
    simp only at read
    split at read
    · cases read
    · rw [Option.filter_eq_some_iff] at read
      exact fun c member => ascii_of_hexValue read.1 member

/-- Two characters are two digits, or a sign and a digit. -/
theorem fromStrRadix16_pair {high low : Char} :
    fromStrRadix16 8 [high, low] = some value ↔
      (∃ first second, hexDigit high = some first ∧ hexDigit low = some second ∧
        value = first * 16 + second) ∨ high = '+' ∧ hexDigit low = some value := by
  unfold fromStrRadix16
  by_cases signed : high = '+'
  · have none_ : hexDigit '+' = none := rfl
    have sign : ['+', low].head? = some '+' := rfl
    rw [signed, if_pos sign]
    simp only [List.tail_cons, List.cons_ne_self, if_false, hexValue, hexFrom, none_,
      Nat.zero_mul, Nat.zero_add, Option.filter_eq_some_iff, Option.bind_eq_some_iff,
      Option.some.injEq, exists_eq_right, decide_eq_true_eq, reduceCtorEq, false_and, exists_false,
      false_or, true_and]
    refine and_iff_left_of_imp fun read => ?_
    have small := hexDigit_lt read
    omega
  · have unsigned : ¬ [high, low].head? = some '+' := fun same => signed (Option.some.inj same)
    rw [if_neg unsigned]
    simp only [if_neg (List.cons_ne_nil high [low]), hexValue, hexFrom, Nat.zero_mul, Nat.zero_add,
      Option.filter_eq_some_iff, Option.bind_eq_some_iff, Option.some.injEq, decide_eq_true_eq,
      signed, false_and, or_false]
    constructor
    · rintro ⟨⟨first, read, second, read', rfl⟩, _⟩
      exact ⟨first, second, read, read', rfl⟩
    · rintro ⟨first, second, read, read', rfl⟩
      refine ⟨⟨first, read, second, read', rfl⟩, ?_⟩
      have small := hexDigit_lt read
      have small' := hexDigit_lt read'
      omega

section Digits

variable (read : hexValue digits = some value)
include read

theorem not_mem_of_hexValue (other : hexDigit c = none) : c ∉ digits := by
  intro member
  obtain ⟨digit, here⟩ := mem_hexFrom read member
  rw [other] at here
  cases here

theorem solid_of_hexValue : Text.Solid digits := by
  intro c member
  obtain ⟨digit, here⟩ := mem_hexFrom read member
  have range := of_hexDigit here
  simp only [isWhitespace, Bool.or_eq_false_iff, Bool.and_eq_false_iff, decide_eq_false_iff_not,
    beq_eq_false_iff_ne]
  omega

theorem fromStrRadix16_of_hexValue {bits other : Nat} (some_ : digits ≠ []) :
    fromStrRadix16 bits digits = some other ↔ other = value ∧ value < 2 ^ bits := by
  have unsigned : digits.head? ≠ some '+' := fun signed =>
    not_mem_of_hexValue read rfl (List.mem_of_head? signed)
  unfold fromStrRadix16
  rw [if_neg unsigned]
  simp only [if_neg some_, read, Option.filter_eq_some_iff, Option.some.injEq,
    decide_eq_true_eq]
  constructor
  · rintro ⟨rfl, fits⟩
    exact ⟨rfl, fits⟩
  · rintro ⟨rfl, fits⟩
    exact ⟨rfl, fits⟩

end Digits

end MolidoVpn.Radix
