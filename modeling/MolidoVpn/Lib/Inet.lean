import Mathlib.Data.UInt

/-!
The Internet protocols as a receiver reads them: the checksum, and what makes a packet of
IPv4 with a TCP segment or a UDP datagram in it well formed. Addresses are byte strings.
-/

namespace MolidoVpn.Inet

section Checksum

/-- The sum of the 16-bit words. A byte that is left at the end is the high one of its word. -/
def wordSum : List UInt8 → Nat
  | high :: low :: rest => high.toNat * 256 + low.toNat + wordSum rest
  | [last] => last.toNat * 256
  | [] => 0

/-- What is left of a sum when every carry out of 16 bits is added back to it. -/
def endAround (sum : Nat) : Nat := if sum = 0 then 0 else (sum - 1) % 65535 + 1

/-- All ones, with the checksum among the words. -/
def Verifies (bytes : List UInt8) : Prop := endAround (wordSum bytes) = 65535

instance decidableVerifies (bytes : List UInt8) : Decidable (Verifies bytes) :=
  inferInstanceAs (Decidable (_ = _))

def word (value : Nat) : List UInt8 := [UInt8.ofNat (value / 256), UInt8.ofNat (value % 256)]

variable {sum : Nat} {first second : List UInt8}

theorem endAround_of_lt (small : sum < 65536) : endAround sum = sum := by
  rw [endAround]
  split <;> omega

theorem endAround_lt (sum : Nat) : endAround sum < 65536 := by
  rw [endAround]
  split <;> omega

/-- A carry can be added back. -/
theorem endAround_carry (sum : Nat) : endAround (sum % 65536 + sum / 65536) = endAround sum := by
  rw [endAround, endAround]
  by_cases none : sum = 0
  · rw [if_pos none, if_pos (by omega)]
  · rw [if_neg none, if_neg (by omega)]
    omega

theorem endAround_eq_ones_iff : endAround sum = 65535 ↔ 0 < sum ∧ sum % 65535 = 0 := by
  rw [endAround]
  split <;> omega

theorem endAround_add_complement (some_ : 0 < sum) :
    endAround (sum + (65535 - endAround sum)) = 65535 := by
  rw [endAround_eq_ones_iff]
  have shape : endAround sum = (sum - 1) % 65535 + 1 := if_neg (by omega)
  omega

theorem endAround_add_ones (some_ : 0 < sum) : endAround (sum + 65535) = endAround sum := by
  rw [endAround, endAround, if_neg (by omega), if_neg (by omega)]
  omega

theorem wordSum_append (even : first.length % 2 = 0) :
    wordSum (first ++ second) = wordSum first + wordSum second := by
  induction first using wordSum.induct with
  | case1 high low rest ih =>
      rw [List.length_cons, List.length_cons] at even
      rw [List.cons_append, List.cons_append, wordSum, wordSum, ih (by omega)]
      omega
  | case2 last => cases even
  | case3 => exact (Nat.zero_add _).symm

theorem wordSum_le (bytes : List UInt8) : wordSum bytes ≤ 65535 * ((bytes.length + 1) / 2) := by
  induction bytes using wordSum.induct with
  | case1 high low rest ih =>
      have := high.toNat_lt
      have := low.toNat_lt
      rw [wordSum, List.length_cons, List.length_cons]
      omega
  | case2 last =>
      have := last.toNat_lt
      rw [wordSum, List.length_singleton]
      omega
  | case3 => exact Nat.zero_le _

theorem wordSum_pos {bytes : List UInt8} {byte : UInt8} (member : byte ∈ bytes)
    (nonzero : byte.toNat ≠ 0) : 0 < wordSum bytes := by
  induction bytes using wordSum.induct with
  | case1 high low rest ih =>
      rw [wordSum]
      rcases List.mem_cons.mp member with rfl | member
      · omega
      · rcases List.mem_cons.mp member with rfl | member
        · omega
        · have := ih member
          omega
  | case2 last =>
      obtain rfl := List.mem_singleton.mp member
      rw [wordSum]
      omega
  | case3 => cases member

theorem word_bytes {value : Nat} (small : value < 65536) :
    (UInt8.ofNat (value / 256)).toNat * 256 + (UInt8.ofNat (value % 256)).toNat = value := by
  rw [UInt8.toNat_ofNat', UInt8.toNat_ofNat']
  omega

theorem long_bytes {value : Nat} (small : value < 65536 * 65536) :
    ((UInt8.ofNat (value / 65536 / 256)).toNat * 256 +
        (UInt8.ofNat (value / 65536 % 256)).toNat) * 65536 +
      ((UInt8.ofNat (value % 65536 / 256)).toNat * 256 +
        (UInt8.ofNat (value % 65536 % 256)).toNat) = value := by
  rw [word_bytes (Nat.div_lt_of_lt_mul small), word_bytes (Nat.mod_lt _ (by decide))]
  exact Nat.div_add_mod' value 65536

theorem wordSum_word {value : Nat} (small : value < 65536) : wordSum (word value) = value := by
  rw [word, wordSum, wordSum, Nat.add_zero, word_bytes small]

/-- A word in the middle of the bytes, at an even place. -/
theorem wordSum_around (even : first.length % 2 = 0) {value : Nat} (small : value < 65536) :
    wordSum (first ++ word value ++ second) = wordSum (first ++ word 0 ++ second) + value := by
  have pair : ∀ value, (first ++ word value).length % 2 = 0 := by
    intro value
    rw [List.length_append, word, List.length_cons, List.length_singleton]
    omega
  rw [wordSum_append (pair value), wordSum_append (pair 0), wordSum_append even,
    wordSum_append even, wordSum_word small, wordSum_word (by decide)]
  omega

/-- The complement of the sum of all the others, or all ones where it would be zero. -/
theorem verifies_of_complement (even : first.length % 2 = 0)
    (some_ : 0 < wordSum (first ++ word 0 ++ second)) {value : Nat}
    (complement : value = 65535 - endAround (wordSum (first ++ word 0 ++ second)) ∨
      value = 65535 ∧ endAround (wordSum (first ++ word 0 ++ second)) = 65535) :
    Verifies (first ++ word value ++ second) := by
  rcases complement with rfl | ⟨rfl, full⟩
  · rw [Verifies, wordSum_around even (by omega)]
    exact endAround_add_complement some_
  · rw [Verifies, wordSum_around even (by decide), endAround_add_ones some_, full]

end Checksum

section Packets

def byteAt (bytes : List UInt8) (index : Nat) : Nat := (bytes.getD index 0).toNat

def wordAt (bytes : List UInt8) (index : Nat) : Nat :=
  byteAt bytes index * 256 + byteAt bytes (index + 1)

def longAt (bytes : List UInt8) (index : Nat) : Nat :=
  wordAt bytes index * 65536 + wordAt bytes (index + 2)

theorem wordAt_front (first rest : List UInt8) {value : Nat} (small : value < 65536) :
    wordAt (first ++ (word value ++ rest)) first.length = value := by
  have high : byteAt (first ++ (word value ++ rest)) first.length =
      (UInt8.ofNat (value / 256)).toNat := by
    rw [byteAt, List.getD_eq_getElem?_getD, List.getElem?_append_right (Nat.le_refl _),
      Nat.sub_self]
    rfl
  have low : byteAt (first ++ (word value ++ rest)) (first.length + 1) =
      (UInt8.ofNat (value % 256)).toNat := by
    rw [byteAt, List.getD_eq_getElem?_getD, List.getElem?_append_right (Nat.le_add_right _ 1),
      Nat.add_sub_cancel_left]
    rfl
  rw [wordAt, high, low, word_bytes small]

structure Ipv4 where
  source : List UInt8
  destination : List UInt8
  protocol : Nat
  body : List UInt8
  deriving DecidableEq

/-- Version 4, whole and not a fragment, as long as it says, with a checksum that verifies. -/
def Ipv4.parse (packet : List UInt8) : Option Ipv4 :=
  let headerLength := byteAt packet 0 % 16 * 4
  if byteAt packet 0 / 16 = 4 ∧ 20 ≤ headerLength ∧ headerLength ≤ packet.length ∧
      wordAt packet 2 = packet.length ∧ wordAt packet 6 % 16384 = 0 ∧
      Verifies (packet.take headerLength) then
    some
      { source := (packet.drop 12).take 4
        destination := (packet.drop 16).take 4
        protocol := byteAt packet 9
        body := packet.drop headerLength }
  else none

/-- What the checksum of TCP and of UDP takes in before the segment. -/
def Ipv4.pseudoHeader (packet : Ipv4) : List UInt8 :=
  packet.source ++ packet.destination ++ word packet.protocol ++ word packet.body.length

structure Tcp where
  sourcePort : Nat
  destinationPort : Nat
  seq : Nat
  ack : Nat
  flags : Nat
  options : List UInt8
  payload : List UInt8
  deriving DecidableEq

def Tcp.parse (packet : Ipv4) : Option Tcp :=
  let segment := packet.body
  let headerLength := byteAt segment 12 / 16 * 4
  if packet.protocol = 6 ∧ 20 ≤ headerLength ∧ headerLength ≤ segment.length ∧
      Verifies (packet.pseudoHeader ++ segment) then
    some
      { sourcePort := wordAt segment 0
        destinationPort := wordAt segment 2
        seq := longAt segment 4
        ack := longAt segment 8
        flags := byteAt segment 13
        options := (segment.take headerLength).drop 20
        payload := segment.drop headerLength }
  else none

structure Udp where
  sourcePort : Nat
  destinationPort : Nat
  payload : List UInt8
  deriving DecidableEq

/-- A zero in the place of the checksum would say that there is none. -/
def Udp.parse (packet : Ipv4) : Option Udp :=
  let datagram := packet.body
  if packet.protocol = 17 ∧ 8 ≤ datagram.length ∧ wordAt datagram 4 = datagram.length ∧
      wordAt datagram 6 ≠ 0 ∧ Verifies (packet.pseudoHeader ++ datagram) then
    some
      { sourcePort := wordAt datagram 0
        destinationPort := wordAt datagram 2
        payload := datagram.drop 8 }
  else none

/-- The addresses of a packet and the segment in it. -/
def tcpOf (packet : List UInt8) : Option (List UInt8 × List UInt8 × Tcp) :=
  (Ipv4.parse packet).bind fun ip =>
    (Tcp.parse ip).map fun segment => (ip.source, ip.destination, segment)

def udpOf (packet : List UInt8) : Option (List UInt8 × List UInt8 × Udp) :=
  (Ipv4.parse packet).bind fun ip =>
    (Udp.parse ip).map fun datagram => (ip.source, ip.destination, datagram)

end Packets

end MolidoVpn.Inet
