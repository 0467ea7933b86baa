import Mathlib.Data.UInt
import Mathlib.Tactic.Common

/-!
Readers over a list of bytes, and the variable-length integers of RFC 9000: the
two top bits of the first byte say how many bytes follow, the rest is the value
in network byte order. A reader that has what it needs is not disturbed by more
bytes behind it.
-/

namespace MolidoVpn.Varint

universe u

/-- A value and the bytes behind it, or nothing when the bytes do not suffice. -/
abbrev Reader (Value : Type u) := List UInt8 → Option (Value × List UInt8)

/-- More bytes at the end change nothing but the rest. -/
def Reader.Stable {Value : Type u} (read : Reader Value) : Prop :=
  ∀ bytes value rest more, read bytes = some (value, rest) →
    read (bytes ++ more) = some (value, rest ++ more)

/-- What is left is what was there behind at least one byte. -/
def Reader.Advances {Value : Type u} (read : Reader Value) : Prop :=
  ∀ bytes value rest, read bytes = some (value, rest) → rest.length < bytes.length

def getU8 : Reader UInt8
  | [] => none
  | byte :: rest => some (byte, rest)

def getBytes (len : Nat) : Reader (List UInt8) := fun bytes =>
  if bytes.length < len then none else some (bytes.take len, bytes.drop len)

/-- Network byte order. -/
def bigEndian : List UInt8 → Nat
  | [] => 0
  | byte :: rest => byte.toNat * 256 ^ rest.length + bigEndian rest

def toBigEndian : Nat → Nat → List UInt8
  | 0, _ => []
  | width + 1, value => UInt8.ofNat (value / 256 ^ width) :: toBigEndian width value

def varintLen (value : Nat) : Nat :=
  if value ≤ 63 then 1
  else if value ≤ 16383 then 2
  else if value ≤ 1073741823 then 4
  else 8

def varintParseLen (first : UInt8) : Nat := 2 ^ (first.toNat / 64)

def getVarint : Reader Nat
  | [] => none
  | first :: rest =>
      let len := varintParseLen first
      if len > (first :: rest).length then none
      else
        some (bigEndian ((first :: rest).take len) % 2 ^ (8 * len - 2), (first :: rest).drop len)

private def mark (bits : UInt8) : List UInt8 → List UInt8
  | [] => []
  | first :: rest => (first ||| bits) :: rest

def putVarint (value : Nat) : List UInt8 :=
  match varintLen value with
  | 1 => toBigEndian 1 value
  | 2 => mark 0x40 (toBigEndian 2 value)
  | 4 => mark 0x80 (toBigEndian 4 value)
  | _ => mark 0xc0 (toBigEndian 8 value)

section Readers

theorem getBytes_append (taken rest : List UInt8) :
    getBytes taken.length (taken ++ rest) = some (taken, rest) := by
  have enough : ¬(taken ++ rest).length < taken.length := by
    rw [List.length_append]
    omega
  rw [getBytes, if_neg enough, List.take_left, List.drop_left]

theorem getBytes_stable (len : Nat) : Reader.Stable (getBytes len) := by
  intro bytes value rest more read
  unfold getBytes at read ⊢
  split at read
  · cases read
  · rename_i enough
    cases read
    have still : ¬(bytes ++ more).length < len := by
      rw [List.length_append]
      omega
    rw [if_neg still, List.take_append_of_le_length (by omega),
      List.drop_append_of_le_length (by omega)]

theorem getBytes_length {len : Nat} {bytes value rest : List UInt8}
    (read : getBytes len bytes = some (value, rest)) : rest.length ≤ bytes.length := by
  unfold getBytes at read
  split at read
  · cases read
  · cases read
    rw [List.length_drop]
    exact Nat.sub_le _ _

theorem getVarint_stable : Reader.Stable getVarint := by
  intro bytes value rest more read
  cases bytes with
  | nil => cases read
  | cons first tail =>
      simp only [getVarint, List.cons_append] at read ⊢
      split at read
      · cases read
      · rename_i enough
        cases read
        have still : ¬varintParseLen first > (first :: (tail ++ more)).length := by
          rw [← List.cons_append, List.length_append]
          omega
        rw [if_neg still, ← List.cons_append, List.take_append_of_le_length (by omega),
          List.drop_append_of_le_length (by omega)]

theorem getVarint_advances : Reader.Advances getVarint := by
  intro bytes value rest read
  cases bytes with
  | nil => cases read
  | cons first tail =>
      simp only [getVarint] at read
      split at read
      · cases read
      · cases read
        have positive : 0 < varintParseLen first := Nat.two_pow_pos _
        rw [List.length_drop, List.length_cons]
        omega

end Readers

section RoundTrip

@[simp]
theorem toBigEndian_length (width value : Nat) : (toBigEndian width value).length = width := by
  induction width with
  | zero => rfl
  | succ width ih => rw [toBigEndian, List.length_cons, ih]

theorem bigEndian_toBigEndian (width value : Nat) :
    bigEndian (toBigEndian width value) = value % 256 ^ width := by
  induction width with
  | zero => rw [toBigEndian, bigEndian, Nat.pow_zero, Nat.mod_one]
  | succ width ih =>
      have byte : (UInt8.ofNat (value / 256 ^ width)).toNat = value / 256 ^ width % 256 :=
        UInt8.toNat_ofNat'
      rw [toBigEndian, bigEndian, ih, toBigEndian_length, byte]
      have split : value % 256 ^ (width + 1) =
          value % 256 ^ width + 256 ^ width * (value / 256 ^ width % 256) := Nat.mod_pow_succ
      rw [split, Nat.mul_comm, Nat.add_comm]

/-- The mark of a length class sits above the six bits of the value. -/
private theorem or_mark (kind : Nat) (marked : kind ∈ [0, 1, 2, 3]) (first : UInt8)
    (low : first.toNat < 64) :
    (first ||| UInt8.ofNat (64 * kind)).toNat = first.toNat + 64 * kind := by
  have small : ∀ value < 64, ∀ kind ∈ [0, 1, 2, 3],
      (UInt8.ofNat value ||| UInt8.ofNat (64 * kind)).toNat = value + 64 * kind := by decide
  have same := small first.toNat low kind marked
  rwa [UInt8.ofNat_toNat] at same

private theorem getVarint_mark (kind : Nat) (marked : kind ∈ [0, 1, 2, 3]) (width value : Nat)
    (len : 2 ^ kind = width + 1) (fits : value < 64 * 256 ^ width) (rest : List UInt8) :
    getVarint (mark (UInt8.ofNat (64 * kind)) (toBigEndian (width + 1) value) ++ rest) =
      some (value, rest) := by
  have top : value / 256 ^ width < 64 := by
    rw [Nat.div_lt_iff_lt_mul (Nat.pow_pos (by decide))]
    exact fits
  have first : (UInt8.ofNat (value / 256 ^ width)).toNat = value / 256 ^ width :=
    UInt8.toNat_ofNat_of_lt (lt_trans top (by decide))
  have byte := or_mark kind marked (UInt8.ofNat (value / 256 ^ width)) (by rw [first]; exact top)
  rw [first] at byte
  have parsed : varintParseLen (UInt8.ofNat (value / 256 ^ width) ||| UInt8.ofNat (64 * kind)) =
      width + 1 := by
    rw [varintParseLen, byte, ← len]
    congr 1
    omega
  have bits : 2 ^ (8 * (width + 1) - 2) = 64 * 256 ^ width := by
    rw [show 8 * (width + 1) - 2 = 6 + 8 * width by omega, Nat.pow_add, Nat.pow_mul]
  have read : bigEndian ((UInt8.ofNat (value / 256 ^ width) ||| UInt8.ofNat (64 * kind)) ::
      toBigEndian width value) % (64 * 256 ^ width) = value := by
    have parts : (value / 256 ^ width + 64 * kind) * 256 ^ width + value % 256 ^ width =
        value + 64 * 256 ^ width * kind := by
      have whole := Nat.div_add_mod' value (256 ^ width)
      rw [Nat.add_mul, Nat.mul_right_comm 64 kind]
      omega
    rw [bigEndian, byte, toBigEndian_length, bigEndian_toBigEndian, parts, Nat.add_mul_mod_self_left,
      Nat.mod_eq_of_lt fits]
  have count (byte : UInt8) : (byte :: toBigEndian width value).length = width + 1 := by
    rw [List.length_cons, toBigEndian_length]
  have enough (byte : UInt8) : ¬width + 1 > (byte :: (toBigEndian width value ++ rest)).length := by
    rw [List.length_cons, List.length_append, toBigEndian_length]
    omega
  simp only [toBigEndian, mark, List.cons_append, getVarint, parsed, if_neg (enough _), bits]
  rw [← List.cons_append, List.take_left' (count _), List.drop_left' (count _), read]

/-- Every value that fits its class of 62 bits is read back. -/
theorem getVarint_putVarint {value : Nat} (fits : value < 2 ^ 62) (rest : List UInt8) :
    getVarint (putVarint value ++ rest) = some (value, rest) := by
  unfold putVarint varintLen
  by_cases one : value ≤ 63
  · rw [if_pos one]
    have unmarked : toBigEndian 1 value =
        mark (UInt8.ofNat (64 * 0)) (toBigEndian (0 + 1) value) :=
      congrArg (· :: []) UInt8.or_zero.symm
    change getVarint (toBigEndian 1 value ++ rest) = _
    rw [unmarked]
    exact getVarint_mark 0 (by decide) 0 value rfl (by omega) rest
  · rw [if_neg one]
    by_cases two : value ≤ 16383
    · rw [if_pos two]
      exact getVarint_mark 1 (by decide) 1 value rfl (by omega) rest
    · rw [if_neg two]
      by_cases four : value ≤ 1073741823
      · rw [if_pos four]
        exact getVarint_mark 2 (by decide) 3 value rfl (by omega) rest
      · rw [if_neg four]
        exact getVarint_mark 3 (by decide) 7 value rfl (by omega) rest

end RoundTrip

end MolidoVpn.Varint
