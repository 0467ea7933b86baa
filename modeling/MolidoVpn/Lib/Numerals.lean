import MolidoVpn.Lib.Kotlin

/-!
Signed numbers as Kotlin writes them into a string and reads them back, and arithmetic in 32 bits.
-/

namespace MolidoVpn.Kotlin

open Text (decimal)

/-- What the operations on `Int` keep of a number. -/
def int32 (value : Int) : Int := value.bmod (2 ^ 32)

theorem int32_eq {value : Int} (low : -2 ^ 31 ≤ value) (high : value < 2 ^ 31) :
    int32 value = value := by
  unfold int32
  rw [Int.bmod_eq_of_le] <;> omega

/-- A number in a string template. -/
def intText (value : Int) : List Char :=
  if value < 0 then '-' :: decimal value.natAbs else decimal value.natAbs

theorem intText_ne_colon (value : Int) : ':' ∉ intText value := by
  have clear := Text.not_mem_decimal (show Char.isDigit ':' = false by decide) value.natAbs
  unfold intText
  split
  · rw [List.mem_cons, not_or]
    exact ⟨by decide, clear⟩
  · exact clear

section Read

variable (unicode : Unicode)

/-- A sign and at least one digit, of less than so much. -/
def signedOrNull (limit : Nat) (text : List Char) : Option Int :=
  match text with
  | [] => none
  | first :: rest =>
      if first.toNat < 48 then
        if rest.isEmpty then none
        else if first = '-' then
          (digits unicode rest).bind fun value => if value ≤ limit then some (-value) else none
        else if first = '+' then
          (digits unicode rest).bind fun value => if value < limit then some value else none
        else none
      else
        (digits unicode text).bind fun value => if value < limit then some value else none

theorem toIntOrNull_eq (text : List Char) :
    toIntOrNull unicode text = signedOrNull unicode (2 ^ 31) text := rfl

def toLongOrNull (text : List Char) : Option Int := signedOrNull unicode (2 ^ 63) text

variable {unicode}

theorem digit_bounds {c : Char} (digit : c.isDigit = true) : 48 ≤ c.toNat ∧ c.toNat ≤ 57 :=
  Char.isDigit_iff_toNat.mp digit

theorem digit_of_isDigit {c : Char} (digit : c.isDigit = true) :
    unicode.digit c = some (c.toNat - 48) := by
  have bounds := digit_bounds digit
  rw [unicode.digit_ascii c (by omega), if_pos digit]

theorem digits_from {text : List Char} (all : ∀ c ∈ text, c.isDigit = true) (value : Nat) :
    text.foldlM (fun value c => (unicode.digit c).map fun digit => value * 10 + digit) value =
      some (Nat.ofDigitChars 10 text value) := by
  induction text generalizing value with
  | nil => rfl
  | cons first rest ih =>
      rw [List.foldlM_cons, digit_of_isDigit (all first List.mem_cons_self), Option.map_some,
        Nat.ofDigitChars_cons, Nat.mul_comm 10 value]
      exact ih (fun c there => all c (List.mem_cons_of_mem _ there)) _

theorem digits_decimal (unicode : Unicode) (value : Nat) : digits unicode (decimal value) = some value := by
  rw [digits, digits_from fun c there => Text.decimal_isDigit there]
  exact congrArg some (Nat.ofDigitChars_toDigits (by decide) (by decide))

theorem signedOrNull_intText {limit : Nat} {value : Int} (low : -limit ≤ value)
    (high : value < limit) : signedOrNull unicode limit (intText value) = some value := by
  unfold intText
  cases written : decimal value.natAbs with
  | nil => exact absurd written (Text.decimal_ne_nil _)
  | cons first rest =>
      have read := digits_decimal unicode value.natAbs
      rw [written] at read
      split
      · have within : value.natAbs ≤ limit := by omega
        rw [signedOrNull, if_pos (by decide), if_neg (by simp), if_pos rfl, read,
          Option.bind_some, if_pos within]
        exact congrArg some (by omega)
      · have digit : first.isDigit = true :=
          Text.decimal_isDigit (written ▸ List.mem_cons_self : first ∈ decimal value.natAbs)
        have bounds := digit_bounds digit
        have within : value.natAbs < limit := by omega
        rw [signedOrNull, if_neg (by omega), read, Option.bind_some, if_pos within]
        exact congrArg some (by omega)

end Read

end MolidoVpn.Kotlin
