import MolidoVpn.Masque.Drain

/-!
The IP packets of CONNECT-IP in HTTP datagrams, behind the quarter stream id and the context id,
and in DATAGRAM capsules, where the context id may be left out: no varint that begins like an IP
packet is the context id 0.
-/

namespace MolidoVpn.Masque

open Varint (bigEndian getVarint putVarint getVarint_putVarint varintParseLen)

def quarterStreamId (streamId : UInt64) : Nat := streamId.toNat / 4

/-- The varint writer aborts on a value of 2^62 or more; the buffer has the room that is needed. -/
def encodeIpDatagram (streamId : UInt64) (ipPacket : List UInt8) : Option (List UInt8) :=
  let qsid := quarterStreamId streamId
  let ctx := connectIpContextId
  if qsid < 2 ^ 62 ∧ ctx < 2 ^ 62 then some (putVarint qsid ++ putVarint ctx ++ ipPacket)
  else none

def decodeIpDatagram (datagram : List UInt8) (expectStreamId : UInt64) :
    Except CapsuleError (Option (List UInt8)) := do
  let (qsid, b) ← need (getVarint datagram)
  if qsid ≠ quarterStreamId expectStreamId then return none
  else do
    let (ctx, b) ← need (getVarint b)
    if ctx ≠ connectIpContextId then return none
    else return some b

/-- IPv4 with at least five words of header, or IPv6. -/
structure IpPacket where
  first : UInt8
  rest : List UInt8
  versioned : first >>> 4 = 4 ∧ 5 ≤ first &&& 0x0f ∨ first >>> 4 = 6
  long : 20 ≤ (first :: rest).length

def IpPacket.bytes (packet : IpPacket) : List UInt8 := packet.first :: packet.rest

namespace IpPacket

variable (packet : IpPacket)

theorem looksLike : looksLikeIpPacket packet.bytes = true := by
  rw [bytes, looksLikeIpPacket, Bool.and_eq_true, decide_eq_true_iff, Bool.or_eq_true, beq_iff_eq,
    beq_iff_eq]
  exact ⟨packet.versioned.imp_left And.left, packet.long⟩

theorem first_marks : packet.first.toNat / 64 = 1 ∧ packet.first.toNat % 64 ≠ 0 := by
  have all : ∀ value < 256, (UInt8.ofNat value >>> 4 = 4 ∧ 5 ≤ UInt8.ofNat value &&& 0x0f ∨
      UInt8.ofNat value >>> 4 = 6) → value / 64 = 1 ∧ value % 64 ≠ 0 := by decide +kernel
  refine all packet.first.toNat packet.first.toNat_lt ?_
  rw [UInt8.ofNat_toNat]
  exact packet.versioned

/-- As a varint the packet begins with two bytes, and the first leaves a value above 0. -/
theorem getVarint_ne_zero {ctx : Nat} {inner : List UInt8}
    (read : getVarint packet.bytes = some (ctx, inner)) : ctx ≠ connectIpContextId := by
  obtain ⟨two, high⟩ := packet.first_marks
  have long := packet.long
  obtain ⟨second, rest, same⟩ : ∃ second rest, packet.rest = second :: rest := by
    cases shape : packet.rest with
    | nil =>
        rw [shape] at long
        exact absurd long (by decide : ¬20 ≤ 1)
    | cons second rest => exact ⟨second, rest, rfl⟩
  rw [bytes, same] at read
  rw [getVarint, varintParseLen, two] at read
  obtain ⟨-, read⟩ := Option.ite_none_left_eq_some.mp read
  obtain ⟨rfl, -⟩ := Prod.mk.inj (Option.some.inj read)
  have small := second.toNat_lt
  have value : bigEndian [packet.first, second] = packet.first.toNat * 256 + second.toNat := by
    simp only [bigEndian, List.length_cons, List.length_nil]
    omega
  change bigEndian [packet.first, second] % 16384 ≠ 0
  rw [value]
  omega

theorem stripDatagramContext_bytes : stripDatagramContext packet.bytes = some packet.bytes := by
  have bare : (if looksLikeIpPacket packet.bytes then some packet.bytes else none) =
      some packet.bytes := if_pos packet.looksLike
  rw [stripDatagramContext, bare]
  refine (if_neg Bool.false_ne_true).trans ?_
  cases read : getVarint packet.bytes with
  | none => rfl
  | some result => exact if_neg fun zero => packet.getVarint_ne_zero read zero.1

/-- The context id 0 takes one byte. -/
theorem stripDatagramContext_prefixed :
    stripDatagramContext (0 :: packet.bytes) = some packet.bytes := by
  have read : getVarint (0 :: packet.bytes) = some (0, packet.bytes) :=
    getVarint_putVarint (by decide : 0 < 2 ^ 62) packet.bytes
  rw [stripDatagramContext, read]
  exact (if_neg Bool.false_ne_true).trans (if_pos ⟨rfl, packet.looksLike⟩)

theorem decode_encode (streamId : UInt64) :
    ∃ datagram, encodeIpDatagram streamId packet.bytes = some datagram ∧
      ∀ expected, decodeIpDatagram datagram expected =
        .ok (if quarterStreamId streamId = quarterStreamId expected then some packet.bytes
          else none) := by
  have small : quarterStreamId streamId < 2 ^ 62 := by
    have := streamId.toNat_lt
    rw [quarterStreamId]
    omega
  refine ⟨_, if_pos ⟨small, by decide⟩, ?_⟩
  intro expected
  have id_ := getVarint_putVarint small (putVarint connectIpContextId ++ packet.bytes)
  have context : getVarint (putVarint connectIpContextId ++ packet.bytes) =
      some (0, packet.bytes) :=
    getVarint_putVarint (by decide : 0 < 2 ^ 62) packet.bytes
  rw [decodeIpDatagram, List.append_assoc, id_]
  change (if quarterStreamId streamId ≠ quarterStreamId expected then Except.ok none
    else (need (getVarint (putVarint connectIpContextId ++ packet.bytes))).bind fun read =>
      if read.1 ≠ connectIpContextId then Except.ok none else Except.ok (some read.2)) = _
  rw [context]
  by_cases same : quarterStreamId streamId = quarterStreamId expected
  · rw [if_neg (not_not.mpr same), if_pos same]
    rfl
  · rw [if_pos same, if_neg same]

end IpPacket

/-- A packet comes out of the datagram of its own stream and of no other, and out of a capsule with
or without the context id. -/
theorem ip_packet_round_trip (streamId : UInt64) (packet : IpPacket) :
    (∃ datagram, encodeIpDatagram streamId packet.bytes = some datagram ∧
      ∀ expected, decodeIpDatagram datagram expected =
        .ok (if quarterStreamId streamId = quarterStreamId expected then some packet.bytes
          else none)) ∧
      stripDatagramContext packet.bytes = some packet.bytes ∧
      stripDatagramContext (0 :: packet.bytes) = some packet.bytes :=
  ⟨packet.decode_encode streamId, packet.stripDatagramContext_bytes,
    packet.stripDatagramContext_prefixed⟩

end MolidoVpn.Masque
