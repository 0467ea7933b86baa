import MolidoVpn.Tun.Clamp
import MolidoVpn.WireGuard.Ladder

/-!
The sizes of MASQUE in MASQUE: the datagram and the MTU that `mim_inner_budget` gives to the inner
hop, and the segments on which the connections agree whose SYNs pass the TUN bridge.
-/

namespace MolidoVpn.Masque.Mim

open Tun (byteAt byteAt_clampTcpMss clampTcpMss clampedMss ipTcpOverhead smallerMss synMss
  synMss_clampTcpMss)
open WireGuard (probeLadder)

def tunnelMtu : Nat := 1280

def maxDatagramSize : Nat := 1350

def minDatagramSize : Nat := 1200

def clamp (lowest highest value : Nat) : Nat := max lowest (min value highest)

/-- IP and UDP headers. -/
def headers : IpAddr → Nat
  | .v4 _ => 28
  | .v6 _ => 48

/-- What the capsule layer costs on top of the inner packet. -/
def capsuleOverhead : Nat := maxDatagramSize - tunnelMtu

/-- The datagram and the MTU; with HTTP/2 the datagram is not used. -/
def mimInnerBudget (outerMtu : Nat) (innerPeer : SocketAddr) (h2 : Bool) : Nat × Nat :=
  if h2 then (maxDatagramSize, clamp 576 1500 (outerMtu - 100))
  else
    let datagram := clamp minDatagramSize maxDatagramSize (outerMtu - headers innerPeer.ip)
    (datagram, clamp 576 1500 (datagram - capsuleOverhead))

section Segments

def isIpv4 (packet : List UInt8) : Bool := byteAt packet 0 >>> 4 == 4

/-- IP and TCP headers. -/
def tcpHeaders (packet : List UInt8) : Nat := if isIpv4 packet then 40 else 60

/-- What a host sends at most to one that has not said its MSS. -/
def defaultMss (packet : List UInt8) : Nat := if isIpv4 packet then 536 else 1220

/-- The packets of full size on which a connection agrees by this SYN. -/
def fullSegment (packet : List UInt8) : Option Nat :=
  (synMss packet).map fun mss =>
    tcpHeaders packet + (mss.map UInt16.toNat).getD (defaultMss packet)

theorem fullSegment_clampTcpMss (packet : List UInt8) (maxInner : Nat) :
    fullSegment (clampTcpMss packet maxInner).1 =
      (synMss packet).map fun mss =>
        tcpHeaders packet +
          (mss.map fun mss => (clampedMss maxInner mss).toNat).getD (defaultMss packet) := by
  have version : isIpv4 (clampTcpMss packet maxInner).1 = isIpv4 packet := by
    rw [isIpv4, byteAt_clampTcpMss (by decide)]
    rfl
  rw [fullSegment, synMss_clampTcpMss, Option.map_map, tcpHeaders, defaultMss, version]
  congr 1
  funext mss
  cases mss <;> rfl

/-- `INNER_MTU_HINT`: one of the sizes of the ladder, at first the largest. -/
def innerMtuHint (rung : Fin probeLadder.length) : Nat := probeLadder.get rung

theorem toNat_clampedMss (rung : Fin probeLadder.length) (mss : UInt16) :
    (clampedMss (innerMtuHint rung) mss).toNat =
      min mss.toNat (innerMtuHint rung - ipTcpOverhead) := by
  have bounds : ∀ rung : Fin probeLadder.length, 60 < innerMtuHint rung ∧
      innerMtuHint rung ≤ 1200 := by decide
  have least := bounds rung
  have inRange : ¬(innerMtuHint rung - ipTcpOverhead = 0 ∨
      innerMtuHint rung - ipTcpOverhead > 65535) := by
    unfold ipTcpOverhead
    omega
  have target : (UInt16.ofNat (innerMtuHint rung - ipTcpOverhead)).toNat =
      innerMtuHint rung - ipTcpOverhead := by
    rw [UInt16.toNat_ofNat', ipTcpOverhead]
    omega
  rw [clampedMss, if_neg inRange, smallerMss]
  split
  · rename_i small
    have le := UInt16.le_iff_toNat_le.mp small
    rw [target] at le
    exact (Nat.min_eq_left le).symm
  · rename_i large
    have le := Nat.le_of_not_le (mt UInt16.le_iff_toNat_le.mpr large)
    rw [target] at le ⊢
    exact (Nat.min_eq_right le).symm

end Segments

section Fits

/-- What a session needs of the pair and of the clamp: the datagrams of the inner hop, which QUIC
alone has, fit into the outer MTU and hold a packet of the inner MTU with what it costs; and the
segments of a connection whose SYN has passed the bridge fit the inner MTU. -/
structure Fits (outerMtu : Nat) (innerPeer : SocketAddr) (h2 : Bool)
    (rung : Fin probeLadder.length) (packet : List UInt8) : Prop where
  datagram : h2 = false →
    headers innerPeer.ip + (mimInnerBudget outerMtu innerPeer h2).1 ≤ outerMtu
  capsule : h2 = false →
    (mimInnerBudget outerMtu innerPeer h2).2 + capsuleOverhead ≤
      (mimInnerBudget outerMtu innerPeer h2).1
  segments : ∀ size, fullSegment (clampTcpMss packet (innerMtuHint rung)).1 = some size →
    size ≤ (mimInnerBudget outerMtu innerPeer h2).2

/-- The MTU of the inner hop where its datagrams fit. -/
def innerMtuOf (outerMtu : Nat) (innerPeer : SocketAddr) : Bool → Nat
  | true => max 576 (min (outerMtu - 100) 1500)
  | false => min (outerMtu - headers innerPeer.ip) 1350 - 70

theorem headers_cases (ip : IpAddr) : headers ip = 28 ∨ headers ip = 48 := by
  cases ip with
  | v4 _ => exact Or.inl rfl
  | v6 _ => exact Or.inr rfl

theorem mimInnerBudget_datagram_iff (outerMtu : Nat) (innerPeer : SocketAddr) :
    headers innerPeer.ip + (mimInnerBudget outerMtu innerPeer false).1 ≤ outerMtu ↔
      1200 + headers innerPeer.ip ≤ outerMtu := by
  have sizes := headers_cases innerPeer.ip
  simp only [mimInnerBudget, Bool.false_eq_true, if_false, clamp, minDatagramSize, maxDatagramSize]
  omega

theorem mimInnerBudget_capsule (outerMtu : Nat) (innerPeer : SocketAddr) :
    (mimInnerBudget outerMtu innerPeer false).2 + capsuleOverhead ≤
      (mimInnerBudget outerMtu innerPeer false).1 := by
  simp only [mimInnerBudget, Bool.false_eq_true, if_false, clamp, minDatagramSize,
    maxDatagramSize, capsuleOverhead, tunnelMtu]
  omega

theorem mimInnerBudget_mtu {outerMtu : Nat} {innerPeer : SocketAddr} {h2 : Bool}
    (carried : h2 = false → 1200 + headers innerPeer.ip ≤ outerMtu) :
    (mimInnerBudget outerMtu innerPeer h2).2 = innerMtuOf outerMtu innerPeer h2 := by
  cases h2 with
  | true => rfl
  | false =>
      have enough := carried rfl
      simp only [mimInnerBudget, Bool.false_eq_true, if_false, clamp, minDatagramSize,
        maxDatagramSize, capsuleOverhead, tunnelMtu, innerMtuOf]
      omega

/-- A session fits exactly where the outer MTU takes the smallest QUIC datagram, and the smaller
of the MSS of the SYN and of the hint less 60, or without an option the default of its family,
leaves room for the headers in the MTU of the inner hop. -/
theorem fits_iff (outerMtu : Nat) (innerPeer : SocketAddr) (h2 : Bool)
    (rung : Fin probeLadder.length) (packet : List UInt8) :
    Fits outerMtu innerPeer h2 rung packet ↔
      (h2 = false → 1200 + headers innerPeer.ip ≤ outerMtu) ∧
        ∀ mss, synMss packet = some mss →
          tcpHeaders packet +
              (mss.map fun mss => min mss.toNat (innerMtuHint rung - 60)).getD
                (defaultMss packet) ≤
            innerMtuOf outerMtu innerPeer h2 := by
  have clamped : fullSegment (clampTcpMss packet (innerMtuHint rung)).1 =
      (synMss packet).map fun mss =>
        tcpHeaders packet +
          (mss.map fun mss => min mss.toNat (innerMtuHint rung - 60)).getD (defaultMss packet) := by
    rw [fullSegment_clampTcpMss]
    simp only [toNat_clampedMss]
    rfl
  constructor
  · intro fits
    have carried : h2 = false → 1200 + headers innerPeer.ip ≤ outerMtu := by
      rintro rfl
      exact (mimInnerBudget_datagram_iff outerMtu innerPeer).mp (fits.datagram rfl)
    refine ⟨carried, ?_⟩
    intro mss syn
    rw [← mimInnerBudget_mtu carried]
    apply fits.segments
    rw [clamped, syn, Option.map_some]
  · rintro ⟨carried, room⟩
    constructor
    · rintro rfl
      exact (mimInnerBudget_datagram_iff outerMtu innerPeer).mpr (carried rfl)
    · rintro rfl
      exact mimInnerBudget_capsule outerMtu innerPeer
    · intro size agreed
      rw [clamped, Option.map_eq_some_iff] at agreed
      obtain ⟨mss, syn, rfl⟩ := agreed
      rw [mimInnerBudget_mtu carried]
      exact room mss syn

/-- The rung of the default. -/
def firstRung : Fin probeLadder.length := ⟨0, Nat.zero_lt_succ _⟩

/-- A SYN over IPv6 that offers 1440 bytes. -/
def ipv6Syn : List UInt8 :=
  [0x60, 0, 0, 0, 0, 24, 6, 64] ++ List.replicate 32 0 ++ List.replicate 12 0 ++
    [0x60, 0x02, 0, 0, 0, 0, 0, 0, 2, 4, 0x05, 0xa0]

/-- With the default hint the clamp lets through segments of 1200 bytes, and the inner hop through
an edge over IPv4 has an MTU of 1182; and an outer MTU of 1200 is too small for any datagram. -/
theorem ipv6_segments_too_large :
    ¬Fits tunnelMtu ⟨.v4 ⟨162, 159, 198, 2⟩, 443⟩ false firstRung ipv6Syn ∧
      ¬Fits 1200 ⟨.v4 ⟨162, 159, 198, 2⟩, 443⟩ false firstRung [] := by
  constructor
  · intro fits
    have size : fullSegment (clampTcpMss ipv6Syn (innerMtuHint firstRung)).1 = some 1200 := by decide
    exact absurd (fits.segments 1200 size) (by decide)
  · intro fits
    exact absurd (fits.datagram rfl) (by decide)

end Fits

end MolidoVpn.Masque.Mim
