import MolidoVpn.Lib.Checked
import MolidoVpn.Lib.Inet
import MolidoVpn.Tun.ExitIp

/-!
The words of a packet: read and written at an index that has to be inside, and summed. The sum
(`ones_complement_sum` and the folding of carries, which `tun.rs` and `exitip.rs` both have) is the
ones' complement sum of the words. The source sums in 32 bits, which no packet that an IP header can
describe fills.
-/

namespace MolidoVpn.Tun

open Checked (Panic get)
open Inet (endAround wordSum)

/-- `u16::from_be_bytes([buf[pos], buf[pos + 1]])` -/
def word (buf : List UInt8) (pos : Nat) : Except Panic UInt16 := do
  let hi ← get buf pos
  let lo ← get buf (pos + 1)
  return UInt16.ofNat (hi.toNat * 256 + lo.toNat)

/-- `buf[pos..pos + 2].copy_from_slice(&word.to_be_bytes())` -/
def copyWord (buf : List UInt8) (pos : Nat) (word : UInt16) : Except Panic (List UInt8) :=
  if pos + 2 ≤ buf.length then .ok (putWord buf pos word) else .error .slice

variable {bytes rest : List UInt8} {index pos start stop : Nat}

theorem word_of_lt (inside : pos + 1 < bytes.length) : word bytes pos = .ok (wordAt bytes pos) := by
  unfold word
  rw [Checked.get_of_lt 0 (by omega), Checked.get_of_lt 0 inside]
  rfl

theorem word_of_front {value : UInt16} (front : bytes.drop pos = wordBytes value ++ rest) :
    word bytes pos = .ok value := by
  have next : bytes.drop (pos + 1) = UInt8.ofNat (value.toNat % 256) :: rest :=
    Checked.drop_of_front [UInt8.ofNat (value.toNat / 256)] front
  have bound := value.toNat_lt
  unfold word
  rw [Checked.get_of_drop front, Checked.get_of_drop next]
  change Except.ok (UInt16.ofNat _) = _
  rw [UInt8.toNat_ofNat', UInt8.toNat_ofNat', Nat.mod_eq_of_lt (by omega),
    Nat.mod_eq_of_lt (by omega), Nat.div_add_mod', UInt16.ofNat_toNat]

theorem copyWord_of_le (word : UInt16) (inside : pos + 2 ≤ bytes.length) :
    copyWord bytes pos word = .ok (putWord bytes pos word) :=
  if_pos inside

theorem onesComplementSum_eq (bytes : List UInt8) (sum : Nat) :
    onesComplementSum bytes sum = sum + wordSum bytes := by
  induction bytes, sum using onesComplementSum.induct with
  | case1 sum hi lo rest ih =>
      rw [onesComplementSum, ih, wordSum, Nat.add_assoc]
  | case2 sum last => rfl
  | case3 sum => rfl

/-- The sum of a packet stays within the 32 bits that the code has for it. -/
theorem onesComplementSum_lt (short : bytes.length ≤ 65536) {sum : Nat} (small : sum < 2 ^ 31) :
    onesComplementSum bytes sum < 2 ^ 32 := by
  have bound := Inet.wordSum_le bytes
  rw [onesComplementSum_eq]
  omega

/-- There are turns enough for every carry. -/
theorem foldCarries_eq {turns : Nat} :
    ∀ sum, sum ≤ turns → foldCarries turns sum = endAround sum := by
  induction turns with
  | zero =>
      intro sum none
      rw [foldCarries, Nat.le_zero.mp none]
      rfl
  | succ turns ih =>
      intro sum enough
      rw [foldCarries]
      split
      · rw [Inet.endAround_of_lt (by omega)]
      · rw [ih _ (by omega), Inet.endAround_carry]

theorem toNat_fold (sum : Nat) : (fold sum).toNat = 65535 - endAround sum := by
  have small := Inet.endAround_lt sum
  rw [fold, foldCarries_eq sum (Nat.le_refl _), UInt16.toNat_not, UInt16.toNat_ofNat',
    Nat.mod_eq_of_lt small]
  rfl

theorem putWord_eq (word : UInt16) (inside : index + 2 ≤ bytes.length) :
    putWord bytes index word =
      bytes.take index ++ (Inet.word word.toNat ++ bytes.drop (index + 2)) := by
  have length : (bytes.take index).length = index := by
    rw [List.length_take]
    omega
  have first : bytes.set index (UInt8.ofNat (word.toNat / 256)) = bytes.take index ++
      UInt8.ofNat (word.toNat / 256) :: bytes.drop (index + 1) := by
    rw [List.set_eq_take_append_cons_drop, if_pos (by omega)]
  rw [putWord, first, List.set_append_right _ _ (by omega), length, Nat.add_sub_cancel_left,
    List.set_cons_succ, List.drop_eq_getElem_cons (by omega), List.set_cons_zero]
  rfl

theorem drop_putWord (word : UInt16) (ahead : start ≤ index) :
    (putWord bytes index word).drop start = putWord (bytes.drop start) (index - start) word := by
  rw [putWord, List.drop_set, if_neg (by omega), List.drop_set, if_neg (by omega), putWord,
    Nat.sub_add_comm ahead]

theorem slice_putWord (word : UInt16) (ahead : stop ≤ index) :
    slice (putWord bytes index word) start stop = slice bytes start stop := by
  rw [slice, putWord, List.take_set_of_le (by omega), List.take_set_of_le ahead, slice]

/-- The second word stays. -/
theorem putWord_putWord (word other : UInt16) :
    putWord (putWord bytes index word) index other = putWord bytes index other := by
  unfold putWord
  rw [List.set_comm _ _ (by omega), List.set_set, List.set_comm _ _ (by omega), List.set_set]

end MolidoVpn.Tun
