import Mathlib.Data.BitVec
import Mathlib.Data.UInt

/-!
Serial numbers: positions of an unbounded byte stream carried in 32 bits. The
signed wrapping distance of two serial numbers is the distance of the positions
they stand for, as long as the positions are less than half the space apart.
-/

namespace MolidoVpn.SerialNumber

/-- `left.wrapping_sub(right) as i32`. -/
def signedDistance (left right : UInt32) : Int :=
  (left - right).toBitVec.toInt

/-- The serial number of the stream position `position` when `base` is that of position zero. -/
def serial (base : UInt32) (position : Nat) : UInt32 :=
  base + UInt32.ofNat position

@[simp]
theorem serial_zero (base : UInt32) : serial base 0 = base := by
  simp [serial]

theorem serial_add (base : UInt32) (position count : Nat) :
    serial base (position + count) = serial base position + UInt32.ofNat count := by
  simp only [serial, UInt32.ofNat_add, UInt32.add_assoc]

theorem toNat_serial (base : UInt32) (position : Nat) :
    (serial base position).toNat = (base.toNat + position) % 2 ^ 32 := by
  simp [serial, UInt32.toNat_add]

/-- The wrapped difference of two serial numbers is the difference of their positions,
taken around the 32-bit space. -/
theorem toNat_serial_sub (base : UInt32) (high low : Nat) :
    ((serial base high - serial base low).toNat : Int) = ((high : Int) - low) % 2 ^ 32 := by
  rw [UInt32.toNat_sub, toNat_serial, toNat_serial]
  omega

theorem signedDistance_eq (left right : UInt32) :
    signedDistance left right =
      if 2 * (left - right).toNat < 2 ^ 32 then ((left - right).toNat : Int)
      else (left - right).toNat - 2 ^ 32 := by
  unfold signedDistance
  rw [BitVec.toInt_eq_toNat_cond]
  rfl

/-- Positions less than half the space apart keep their distance. -/
theorem signedDistance_serial (base : UInt32) (high low : Nat)
    (below : (high : Int) - low < 2 ^ 31) (above : -2 ^ 31 ≤ (high : Int) - low) :
    signedDistance (serial base high) (serial base low) = (high : Int) - low := by
  have wrapped := toNat_serial_sub base high low
  rw [signedDistance_eq]
  split <;> omega

/-- A non-negative signed distance is exact also at the far end of the window, where the wrapped
distance has no sign of its own. -/
theorem serial_sub_of_signedDistance {base : UInt32} {high low count : Nat}
    (near : ((high : Int) - low).natAbs ≤ 2 ^ 31)
    (distance : signedDistance (serial base high) (serial base low) = count) :
    high = low + count := by
  have wrapped := toNat_serial_sub base high low
  rw [signedDistance_eq] at distance
  split at distance <;> omega

/-- A non-negative signed distance is the number of steps from `right` up to `left`. -/
theorem toNat_sub_of_signedDistance {left right : UInt32} {count : Nat}
    (distance : signedDistance left right = count) : (left - right).toNat = count := by
  rw [signedDistance_eq] at distance
  have bound := (left - right).toNat_lt
  split at distance <;> omega

theorem eq_add_of_toNat_sub {left right : UInt32} {count : Nat}
    (steps : (left - right).toNat = count) : left = right + UInt32.ofNat count := by
  rw [← steps, UInt32.ofNat_toNat, UInt32.add_comm, UInt32.sub_add_cancel]

/-- A step of less than the whole space leads somewhere else. -/
theorem add_ofNat_ne (number : UInt32) {count : Nat} (positive : 0 < count)
    (small : count < 2 ^ 32) : number + UInt32.ofNat count ≠ number := by
  intro same
  have values := congrArg UInt32.toNat same
  have bound := number.toNat_lt
  rw [UInt32.toNat_add, UInt32.toNat_ofNat'] at values
  omega

end MolidoVpn.SerialNumber
