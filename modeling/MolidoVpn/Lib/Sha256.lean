import Mathlib.Data.List.Basic
import Mathlib.Data.UInt

/-!
SHA-256 over lists of bytes, and bytes written in hexadecimal: what a prefix of a
digest in hexadecimal says about the bytes.
-/

namespace MolidoVpn.Sha256

section Digest

/-- The eight working variables. -/
structure State where
  a : UInt32
  b : UInt32
  c : UInt32
  d : UInt32
  e : UInt32
  f : UInt32
  g : UInt32
  h : UInt32

/-- The fractional parts of the square roots of the first eight primes. -/
def initial : State :=
  ⟨0x6a09e667, 0xbb67ae85, 0x3c6ef372, 0xa54ff53a, 0x510e527f, 0x9b05688c, 0x1f83d9ab, 0x5be0cd19⟩

/-- The fractional parts of the cube roots of the first 64 primes. -/
def roundConstants : List UInt32 :=
  [0x428a2f98, 0x71374491, 0xb5c0fbcf, 0xe9b5dba5, 0x3956c25b, 0x59f111f1, 0x923f82a4, 0xab1c5ed5,
    0xd807aa98, 0x12835b01, 0x243185be, 0x550c7dc3, 0x72be5d74, 0x80deb1fe, 0x9bdc06a7, 0xc19bf174,
    0xe49b69c1, 0xefbe4786, 0x0fc19dc6, 0x240ca1cc, 0x2de92c6f, 0x4a7484aa, 0x5cb0a9dc, 0x76f988da,
    0x983e5152, 0xa831c66d, 0xb00327c8, 0xbf597fc7, 0xc6e00bf3, 0xd5a79147, 0x06ca6351, 0x14292967,
    0x27b70a85, 0x2e1b2138, 0x4d2c6dfc, 0x53380d13, 0x650a7354, 0x766a0abb, 0x81c2c92e, 0x92722c85,
    0xa2bfe8a1, 0xa81a664b, 0xc24b8b70, 0xc76c51a3, 0xd192e819, 0xd6990624, 0xf40e3585, 0x106aa070,
    0x19a4c116, 0x1e376c08, 0x2748774c, 0x34b0bcb5, 0x391c0cb3, 0x4ed8aa4a, 0x5b9cca4f, 0x682e6ff3,
    0x748f82ee, 0x78a5636f, 0x84c87814, 0x8cc70208, 0x90befffa, 0xa4506ceb, 0xbef9a3f7, 0xc67178f2]

def rotateRight (word count : UInt32) : UInt32 := (word >>> count) ||| (word <<< (32 - count))

/-- The word that follows the sixteen latest, which stand newest first. -/
def nextWord (latest : List UInt32) : UInt32 :=
  let early := latest.getD 14 0
  let late := latest.getD 1 0
  let sigma0 := rotateRight early 7 ^^^ rotateRight early 18 ^^^ (early >>> 3)
  let sigma1 := rotateRight late 17 ^^^ rotateRight late 19 ^^^ (late >>> 10)
  latest.getD 15 0 + sigma0 + latest.getD 6 0 + sigma1

def extendWords : Nat → List UInt32 → List UInt32
  | 0, latest => latest
  | more + 1, latest => extendWords more (nextWord latest :: latest)

def round (s : State) (constant word : UInt32) : State :=
  let sum1 := rotateRight s.e 6 ^^^ rotateRight s.e 11 ^^^ rotateRight s.e 25
  let choice := (s.e &&& s.f) ^^^ ((~~~s.e) &&& s.g)
  let temp1 := s.h + sum1 + choice + constant + word
  let sum0 := rotateRight s.a 2 ^^^ rotateRight s.a 13 ^^^ rotateRight s.a 22
  let majority := (s.a &&& s.b) ^^^ (s.a &&& s.c) ^^^ (s.b &&& s.c)
  ⟨temp1 + (sum0 + majority), s.a, s.b, s.c, s.d + temp1, s.e, s.f, s.g⟩

def add (s t : State) : State :=
  ⟨s.a + t.a, s.b + t.b, s.c + t.c, s.d + t.d, s.e + t.e, s.f + t.f, s.g + t.g, s.h + t.h⟩

/-- One block of sixteen words. -/
def compress (s : State) (block : List UInt32) : State :=
  let schedule := (extendWords 48 block.reverse).reverse
  add s ((roundConstants.zip schedule).foldl (fun t step => round t step.1 step.2) s)

def bigEndian (value : Nat) : Nat → List UInt8
  | 0 => []
  | count + 1 => (value / 256 ^ count).toUInt8 :: bigEndian value count

/-- A one bit, zeros up to eight bytes before a whole block, and the length in bits. -/
def pad (message : List UInt8) : List UInt8 :=
  message ++ 0x80 :: List.replicate ((119 - message.length % 64) % 64) 0 ++
    bigEndian (8 * message.length) 8

def words : List UInt8 → List UInt32
  | a :: b :: c :: d :: rest =>
      (a.toUInt32 <<< 24 ||| b.toUInt32 <<< 16 ||| c.toUInt32 <<< 8 ||| d.toUInt32) :: words rest
  | _ => []

def compressBlocks : Nat → State → List UInt32 → State
  | 0, s, _ => s
  | blocks + 1, s, rest => compressBlocks blocks (compress s (rest.take 16)) (rest.drop 16)

def digest (message : List UInt8) : List UInt8 :=
  let padded := pad message
  let s := compressBlocks (padded.length / 64) initial (words padded)
  [s.a, s.b, s.c, s.d, s.e, s.f, s.g, s.h].flatMap fun word => bigEndian word.toNat 4

end Digest

section Hexadecimal

/-- Two digits with lower-case letters. -/
def hexByte (byte : UInt8) : List Char :=
  [Nat.digitChar (byte.toNat / 16), Nat.digitChar (byte.toNat % 16)]

def hexText (bytes : List UInt8) : List Char := bytes.flatMap hexByte

theorem take_hexText (bytes : List UInt8) (count : Nat) :
    (hexText bytes).take (2 * count) = hexText (bytes.take count) := by
  induction bytes generalizing count with
  | nil => simp [hexText]
  | cons byte rest ih =>
      cases count with
      | zero => rfl
      | succ count =>
          have tail := ih count
          rw [hexText] at tail
          rw [hexText, List.flatMap_cons, hexByte, Nat.mul_succ, List.take_succ_cons, hexText,
            List.flatMap_cons, hexByte]
          simp only [List.cons_append, List.nil_append, List.take_succ_cons, tail]
          rfl

theorem mem_hexText {bytes : List UInt8} {c : Char} (member : c ∈ hexText bytes) :
    ∃ digit < 16, c = Nat.digitChar digit := by
  obtain ⟨byte, -, here⟩ := List.mem_flatMap.mp member
  have bound := byte.toNat_lt
  rcases List.mem_pair.mp here with high | low
  · exact ⟨byte.toNat / 16, by omega, high⟩
  · exact ⟨byte.toNat % 16, by omega, low⟩

private theorem digitChar_inj :
    ∀ m < 16, ∀ n < 16, Nat.digitChar m = Nat.digitChar n → m = n := by decide

theorem hexByte_inj {byte other : UInt8} (same : hexByte byte = hexByte other) : byte = other := by
  have bound := byte.toNat_lt
  have bound' := other.toNat_lt
  simp only [hexByte, List.cons.injEq, and_true] at same
  have high := digitChar_inj _ (by omega) _ (by omega) same.1
  have low := digitChar_inj _ (by omega) _ (by omega) same.2
  apply UInt8.toNat_inj.mp
  omega

theorem hexText_inj {bytes others : List UInt8} :
    hexText bytes = hexText others ↔ bytes = others := by
  constructor
  · intro same
    induction bytes generalizing others with
    | nil =>
        cases others with
        | nil => rfl
        | cons other rest => cases same
    | cons byte bytes ih =>
        cases others with
        | nil => cases same
        | cons other rest =>
            obtain ⟨first, later⟩ := List.append_inj same rfl
            rw [hexByte_inj first, ih later]
  · exact congrArg hexText

end Hexadecimal

end MolidoVpn.Sha256
