import MolidoVpn.Lib.Inet
import MolidoVpn.Relay.Packets

/-!
The packets that the relay writes to the TUN, byte for byte, and when a receiver reads from one
what the relay put in: its length has to fit the 16 bits of the field for it.
-/

namespace MolidoVpn.Relay

open Inet (endAround wordSum Verifies)

section Building

/-- The words of `ones_complement_sum`, and the odd byte behind them. -/
def sumWords (sum : UInt32) : List UInt8 → UInt32
  | high :: low :: rest => sumWords (sum + (word16 high low).toUInt32) rest
  | [last] => sum + last.toUInt32 <<< 8
  | [] => sum

theorem toNat_foldTurn (sum : UInt32) :
    ((sum &&& (0xFFFF : UInt32)) + (sum >>> 16)).toNat = sum.toNat % 65536 + sum.toNat / 65536 := by
  have small := sum.toNat_lt
  rw [UInt32.toNat_add, UInt32.toNat_and, UInt32.toNat_shiftRight]
  rw [show (0xFFFF : UInt32).toNat = 2 ^ 16 - 1 from rfl, Nat.and_two_pow_sub_one_eq_mod,
    show (16 : UInt32).toNat % 32 = 16 from rfl, Nat.shiftRight_eq_div_pow]
  omega

theorem shiftRight_eq_zero_iff (sum : UInt32) : sum >>> 16 = 0 ↔ sum.toNat < 65536 := by
  rw [← UInt32.toNat_inj, UInt32.toNat_shiftRight, show (16 : UInt32).toNat % 32 = 16 from rfl,
    Nat.shiftRight_eq_div_pow, UInt32.toNat_zero]
  omega

/-- Its second loop: the carries are added back. -/
def foldSum (sum : UInt32) : UInt32 :=
  if sum >>> 16 = 0 then sum else foldSum ((sum &&& (0xFFFF : UInt32)) + (sum >>> 16))
termination_by sum.toNat
decreasing_by
  rename_i carries
  rw [shiftRight_eq_zero_iff] at carries
  rw [toNat_foldTurn]
  omega

def onesComplementSum (data : List UInt8) : UInt16 := (~~~foldSum (sumWords 0 data)).toUInt16

def ipToBytes (ip : Ipv4Addr) : List UInt8 := [ip.a, ip.b, ip.c, ip.d]

/-- `u16::to_be_bytes` -/
def toBeBytes16 (value : UInt16) : List UInt8 := Inet.word value.toNat

/-- `u32::to_be_bytes` -/
def toBeBytes32 (value : UInt32) : List UInt8 :=
  Inet.word (value.toNat / 65536) ++ Inet.word (value.toNat % 65536)

/-- `copy_from_slice` of two bytes into a place of the packet. -/
def put16 (pkt : List UInt8) (index : Nat) (value : UInt16) : List UInt8 :=
  (pkt.set index (UInt8.ofNat (value.toNat / 256))).set (index + 1)
    (UInt8.ofNat (value.toNat % 256))

def ipChecksum (pkt : List UInt8) : UInt16 := onesComplementSum (pkt.take 20)

def pseudo (srcIp dstIp : Ipv4Addr) (protocol : UInt8) (segment : List UInt8) : List UInt8 :=
  ipToBytes srcIp ++ ipToBytes dstIp ++ [0, protocol] ++
    toBeBytes16 (UInt16.ofNat segment.length) ++ segment

def tcpChecksum (srcIp dstIp : Ipv4Addr) (tcpSegment : List UInt8) : UInt16 :=
  onesComplementSum (pseudo srcIp dstIp 6 tcpSegment)

def udpChecksum (srcIp dstIp : Ipv4Addr) (udpSegment : List UInt8) : UInt16 :=
  let cksum := onesComplementSum (pseudo srcIp dstIp 17 udpSegment)
  if cksum = 0 then 0xFFFF else cksum

/-- The header with a zero for its checksum, and then with the checksum in it. -/
def ipHeader (ipLen : Nat) (protocol : UInt8) (srcIp dstIp : Ipv4Addr) : List UInt8 :=
  let pkt := [0x45, 0x00] ++ toBeBytes16 (UInt16.ofNat ipLen) ++
    [0, 0, 0x40, 0x00, 64, protocol, 0, 0] ++ ipToBytes srcIp ++ ipToBytes dstIp
  put16 pkt 10 (ipChecksum pkt)

/-- What `send_tcp_ex` writes. -/
def TunSegment.packet (s : TunSegment) : List UInt8 :=
  let mssOptLen := if s.withMss then 4 else 0
  let tcpHdrLen := 20 + mssOptLen
  let tcpLen := tcpHdrLen + s.payload.length
  let ipLen := 20 + tcpLen
  let segment := toBeBytes16 s.srcPort ++ toBeBytes16 s.dstPort ++ toBeBytes32 s.seq ++
    toBeBytes32 s.ack ++ [UInt8.ofNat (tcpHdrLen / 4) <<< 4, s.flags] ++ toBeBytes16 65535 ++
    [0, 0, 0, 0] ++ (if s.withMss then [0x02, 0x04] ++ toBeBytes16 1240 else []) ++ s.payload
  ipHeader ipLen 6 s.srcIp s.dstIp ++ put16 segment 16 (tcpChecksum s.srcIp s.dstIp segment)

/-- The arguments of `send_udp`. -/
structure TunDatagram where
  srcIp : Ipv4Addr
  dstIp : Ipv4Addr
  srcPort : UInt16
  dstPort : UInt16
  payload : List UInt8
  deriving DecidableEq, Repr

/-- What `send_udp` writes. -/
def TunDatagram.packet (d : TunDatagram) : List UInt8 :=
  let udpLen := 8 + d.payload.length
  let ipLen := 20 + udpLen
  let segment := toBeBytes16 d.srcPort ++ toBeBytes16 d.dstPort ++
    toBeBytes16 (UInt16.ofNat udpLen) ++ [0, 0] ++ d.payload
  ipHeader ipLen 17 d.srcIp d.dstIp ++ put16 segment 6 (udpChecksum d.srcIp d.dstIp segment)

end Building

section Checksums

variable {data : List UInt8}

theorem toNat_word16 (high low : UInt8) :
    (word16 high low).toNat = high.toNat * 256 + low.toNat := by
  have := high.toNat_lt
  have := low.toNat_lt
  rw [word16, UInt16.toNat_ofNat']
  omega

/-- Nothing overflows as long as the sum fits. -/
theorem toNat_sumWords (sum : UInt32) (fits : sum.toNat + wordSum data < 2 ^ 32) :
    (sumWords sum data).toNat = sum.toNat + wordSum data := by
  induction sum, data using sumWords.induct with
  | case1 sum high low rest ih =>
      rw [wordSum] at fits
      have added : (sum + (word16 high low).toUInt32).toNat =
          sum.toNat + (high.toNat * 256 + low.toNat) := by
        rw [UInt32.toNat_add, UInt16.toNat_toUInt32, toNat_word16]
        omega
      rw [sumWords, ih (by rw [added]; omega), added, wordSum]
      omega
  | case2 sum last =>
      have := last.toNat_lt
      rw [wordSum] at fits
      rw [sumWords, wordSum, UInt32.toNat_add, UInt32.toNat_shiftLeft, UInt8.toNat_toUInt32,
        show (8 : UInt32).toNat % 32 = 8 from rfl, Nat.shiftLeft_eq]
      omega
  | case3 => rfl

theorem toNat_foldSum (sum : UInt32) : (foldSum sum).toNat = endAround sum.toNat := by
  induction sum using foldSum.induct with
  | case1 sum none =>
      rw [foldSum, if_pos none]
      exact (Inet.endAround_of_lt ((shiftRight_eq_zero_iff sum).mp none)).symm
  | case2 sum carries ih =>
      rw [foldSum, if_neg carries, ih, toNat_foldTurn, Inet.endAround_carry]

theorem toNat_onesComplementSum (short : data.length ≤ 131070) :
    (onesComplementSum data).toNat = 65535 - endAround (wordSum data) := by
  have bound := Inet.wordSum_le data
  have small := Inet.endAround_lt (wordSum data)
  have sum : (sumWords 0 data).toNat = wordSum data := by
    rw [toNat_sumWords 0 (by rw [UInt32.toNat_zero]; omega), UInt32.toNat_zero, Nat.zero_add]
  rw [onesComplementSum, UInt32.toNat_toUInt16, UInt32.toNat_not, toNat_foldSum, sum,
    show UInt32.size = 4294967296 from rfl]
  omega

theorem put16_append (first second : List UInt8) (value : UInt16) :
    put16 (first ++ [0, 0] ++ second) first.length value =
      first ++ Inet.word value.toNat ++ second := by
  rw [put16, List.append_assoc, List.set_append_right _ _ (Nat.le_refl _), Nat.sub_self,
    List.set_append_right _ _ (Nat.le_add_right _ _), Nat.add_sub_cancel_left]
  exact (List.append_assoc first (Inet.word value.toNat) second).symm

/-- A packet with the checksum of the source in the place of the two zeros. -/
theorem verifies_onesComplementSum {first second : List UInt8} (even : first.length % 2 = 0)
    (short : (first ++ [0, 0] ++ second).length ≤ 131070) {byte : UInt8} (member : byte ∈ first)
    (nonzero : byte.toNat ≠ 0) {value : UInt16}
    (stored : value = onesComplementSum (first ++ [0, 0] ++ second) ∨
      value = 0xFFFF ∧ onesComplementSum (first ++ [0, 0] ++ second) = 0) :
    Verifies (first ++ Inet.word value.toNat ++ second) := by
  have sum := toNat_onesComplementSum short
  have small := Inet.endAround_lt (wordSum (first ++ [0, 0] ++ second))
  refine Inet.verifies_of_complement even (Inet.wordSum_pos ?_ nonzero) ?_
  · exact List.mem_append_left _ (List.mem_append_left _ member)
  · rcases stored with rfl | ⟨rfl, zero⟩
    · exact Or.inl sum
    · rw [zero, UInt16.toNat_zero] at sum
      refine Or.inr ⟨rfl, ?_⟩
      change endAround (wordSum (first ++ [0, 0] ++ second)) = 65535
      omega

end Checksums

section Headers

variable {protocol : UInt8} {srcIp dstIp : Ipv4Addr}

theorem word_ofNat {size : Nat} (fits : size < 65536) :
    toBeBytes16 (UInt16.ofNat size) = Inet.word size := by
  rw [toBeBytes16, UInt16.toNat_ofNat', Nat.mod_eq_of_lt fits]

theorem ipHeader_verifies (ipLen : Nat) : Verifies (ipHeader ipLen protocol srcIp dstIp) := by
  let first : List UInt8 :=
    [0x45, 0x00] ++ toBeBytes16 (UInt16.ofNat ipLen) ++ [0, 0, 0x40, 0x00, 64, protocol]
  let second := ipToBytes srcIp ++ ipToBytes dstIp
  have stored : ipHeader ipLen protocol srcIp dstIp =
      first ++ Inet.word (onesComplementSum (first ++ [0, 0] ++ second)).toNat ++ second :=
    put16_append first second _
  rw [stored]
  have length : first.length = 10 := rfl
  have even : first.length % 2 = 0 := by rw [length]
  have short : (first ++ [0, 0] ++ second).length ≤ 131070 := (by decide : 20 ≤ 131070)
  exact verifies_onesComplementSum even short (List.mem_cons_self : 0x45 ∈ first) (by decide)
    (Or.inl rfl)

/-- The length of a packet is in its header, unless it does not fit. -/
theorem parse_ipHeader (body : List UInt8) :
    Inet.Ipv4.parse (ipHeader (20 + body.length) protocol srcIp dstIp ++ body) =
      if 20 + body.length < 65536 then
        some
          { source := ipToBytes srcIp
            destination := ipToBytes dstIp
            protocol := protocol.toNat
            body := body }
      else none := by
  have length (total : Nat) : (ipHeader total protocol srcIp dstIp).length = 20 := rfl
  have total : Inet.wordAt (ipHeader (20 + body.length) protocol srcIp dstIp ++ body) 2 =
      (20 + body.length) % 65536 :=
    (Inet.word_bytes (UInt16.toNat_lt _)).trans UInt16.toNat_ofNat'
  have size : (ipHeader (20 + body.length) protocol srcIp dstIp ++ body).length =
      20 + body.length := by
    rw [List.length_append, length]
  have first : Inet.byteAt (ipHeader (20 + body.length) protocol srcIp dstIp ++ body) 0 = 69 := rfl
  have unfragmented :
      Inet.wordAt (ipHeader (20 + body.length) protocol srcIp dstIp ++ body) 6 = 64 * 256 + 0 :=
    congrArg₂ (· * 256 + ·) (rfl : Inet.byteAt _ 6 = 64) (rfl : Inet.byteAt _ 7 = 0)
  have header : (ipHeader (20 + body.length) protocol srcIp dstIp ++ body).take 20 =
      ipHeader (20 + body.length) protocol srcIp dstIp := List.take_left' (length _)
  have rest : (ipHeader (20 + body.length) protocol srcIp dstIp ++ body).drop 20 = body :=
    List.drop_left' (length _)
  simp only [Inet.Ipv4.parse, first, total, size, unfragmented, Nat.reduceMod, Nat.reduceMul,
    Nat.reduceDiv, header, rest, ipHeader_verifies]
  by_cases fits : 20 + body.length < 65536
  · rw [if_pos fits]
    exact if_pos
      ⟨trivial, Nat.le_refl _, Nat.le_add_right _ _, Nat.mod_eq_of_lt fits, trivial, trivial⟩
  · rw [if_neg fits, if_neg]
    rintro ⟨-, -, -, same, -⟩
    have := Nat.mod_lt (20 + body.length) (by decide : 65536 > 0)
    omega

theorem word_protocol (protocol : UInt8) : Inet.word protocol.toNat = [0, protocol] := by
  have small := protocol.toNat_lt
  rw [Inet.word, Nat.div_eq_of_lt small, Nat.mod_eq_of_lt small, UInt8.ofNat_toNat]
  rfl

/-- A segment with its checksum behind `before`, in a packet of the two addresses. -/
theorem verifies_segment {before rest : List UInt8} (even : before.length % 2 = 0)
    (known : protocol.toNat ≠ 0) (fits : (before ++ [0, 0] ++ rest).length < 65536)
    {value : UInt16}
    (stored : value = onesComplementSum (pseudo srcIp dstIp protocol (before ++ [0, 0] ++ rest)) ∨
      value = 0xFFFF ∧
        onesComplementSum (pseudo srcIp dstIp protocol (before ++ [0, 0] ++ rest)) = 0) :
    Verifies (ipToBytes srcIp ++ ipToBytes dstIp ++ Inet.word protocol.toNat ++
      Inet.word (before ++ Inet.word value.toNat ++ rest).length ++
        (before ++ Inet.word value.toNat ++ rest)) := by
  let addresses := ipToBytes srcIp ++ ipToBytes dstIp ++ [0, protocol] ++
    Inet.word (before ++ [0, 0] ++ rest).length
  have twelve : addresses.length = 12 := rfl
  have same : (before ++ Inet.word value.toNat ++ rest).length =
      (before ++ [0, 0] ++ rest).length := by
    rw [List.length_append, List.length_append, List.length_append, List.length_append]
    rfl
  have split (word : List UInt8) :
      addresses ++ (before ++ word ++ rest) = addresses ++ before ++ word ++ rest := by
    simp only [List.append_assoc]
  rw [pseudo, word_ofNat fits] at stored
  rw [same, word_protocol]
  change Verifies (addresses ++ (before ++ Inet.word value.toNat ++ rest))
  change value = onesComplementSum (addresses ++ (before ++ [0, 0] ++ rest)) ∨
    value = 0xFFFF ∧ onesComplementSum (addresses ++ (before ++ [0, 0] ++ rest)) = 0 at stored
  rw [split] at stored ⊢
  refine verifies_onesComplementSum ?_ ?_ ?_ known stored
  · rw [List.length_append, twelve]
    omega
  · rw [← split, List.length_append, twelve]
    omega
  · exact List.mem_append_left _ (by simp [addresses])

end Headers

section Segments

variable {s : TunSegment}

/-- The segment with two zeros for its checksum, cut there. -/
def TunSegment.beforeChecksum (s : TunSegment) : List UInt8 :=
  toBeBytes16 s.srcPort ++ toBeBytes16 s.dstPort ++ toBeBytes32 s.seq ++ toBeBytes32 s.ack ++
    [UInt8.ofNat ((20 + if s.withMss then 4 else 0) / 4) <<< 4, s.flags] ++ toBeBytes16 65535

def TunSegment.options (s : TunSegment) : List UInt8 :=
  if s.withMss then [0x02, 0x04] ++ toBeBytes16 1240 else []

/-- The length of the packet. -/
def TunSegment.size (s : TunSegment) : Nat :=
  20 + (20 + (if s.withMss then 4 else 0) + s.payload.length)

def TunSegment.cksum (s : TunSegment) : UInt16 :=
  tcpChecksum s.srcIp s.dstIp (s.beforeChecksum ++ [0, 0] ++ ([0, 0] ++ (s.options ++ s.payload)))

def TunSegment.body (s : TunSegment) : List UInt8 :=
  s.beforeChecksum ++ Inet.word s.cksum.toNat ++ ([0, 0] ++ (s.options ++ s.payload))

/-- What the segment is to a receiver. -/
def TunSegment.read (s : TunSegment) : Inet.Tcp :=
  { sourcePort := s.srcPort.toNat
    destinationPort := s.dstPort.toNat
    seq := s.seq.toNat
    ack := s.ack.toNat
    flags := s.flags.toNat
    options := s.options
    payload := s.payload }

theorem TunSegment.packet_eq (s : TunSegment) :
    s.packet = ipHeader s.size 6 s.srcIp s.dstIp ++ s.body := by
  have segment : toBeBytes16 s.srcPort ++ toBeBytes16 s.dstPort ++ toBeBytes32 s.seq ++
      toBeBytes32 s.ack ++ [UInt8.ofNat ((20 + if s.withMss then 4 else 0) / 4) <<< 4, s.flags] ++
      toBeBytes16 65535 ++ [0, 0, 0, 0] ++
      (if s.withMss then [0x02, 0x04] ++ toBeBytes16 1240 else []) ++ s.payload =
      s.beforeChecksum ++ [0, 0] ++ ([0, 0] ++ (s.options ++ s.payload)) := by
    rw [List.append_assoc _ _ s.payload]
    rfl
  simp only [TunSegment.packet, TunSegment.body]
  rw [segment, ← put16_append]
  rfl

theorem TunSegment.options_length (s : TunSegment) :
    s.options.length = if s.withMss then 4 else 0 := by
  rw [TunSegment.options]
  split <;> rfl

theorem TunSegment.body_length (s : TunSegment) :
    s.body.length = 20 + s.options.length + s.payload.length := by
  have before : s.beforeChecksum.length = 16 := rfl
  have word (value : Nat) : (Inet.word value).length = 2 := rfl
  simp only [TunSegment.body, List.length_append, before, word, List.length_cons,
    List.length_nil]
  omega

/-- The header says how many bytes of options it has. -/
theorem TunSegment.dataOffset (s : TunSegment) :
    Inet.byteAt s.body 12 / 16 * 4 = 20 + s.options.length := by
  have byte : Inet.byteAt s.body 12 =
      (UInt8.ofNat ((20 + if s.withMss then 4 else 0) / 4) <<< 4).toNat := rfl
  rw [byte, s.options_length]
  split <;> rfl

theorem TunSegment.parse_body (fits : s.size < 65536) :
    Inet.Tcp.parse ⟨ipToBytes s.srcIp, ipToBytes s.dstIp, (6 : UInt8).toNat, s.body⟩ =
      some s.read := by
  let front := s.beforeChecksum ++ Inet.word s.cksum.toNat ++ [0, 0]
  have twenty : front.length = 20 := rfl
  have split : s.body = front ++ s.options ++ s.payload := by
    simp only [TunSegment.body, front, List.append_assoc]
  have header : (front ++ s.options).length = 20 + s.options.length := by
    rw [List.length_append, twenty]
  have sixteen : s.beforeChecksum.length = 16 := rfl
  have short : (s.beforeChecksum ++ [0, 0] ++ ([0, 0] ++ (s.options ++ s.payload))).length <
      65536 := by
    rw [TunSegment.size] at fits
    simp only [List.length_append, sixteen, s.options_length, List.length_cons, List.length_nil]
    omega
  have verifies : Verifies (Inet.Ipv4.pseudoHeader
      ⟨ipToBytes s.srcIp, ipToBytes s.dstIp, (6 : UInt8).toNat, s.body⟩ ++ s.body) :=
    verifies_segment (by rw [sixteen]) (by decide) short (Or.inl rfl)
  have ports : Inet.wordAt s.body 0 = s.srcPort.toNat ∧ Inet.wordAt s.body 2 = s.dstPort.toNat :=
    ⟨Inet.word_bytes s.srcPort.toNat_lt, Inet.word_bytes s.dstPort.toNat_lt⟩
  have numbers : Inet.longAt s.body 4 = s.seq.toNat ∧ Inet.longAt s.body 8 = s.ack.toNat :=
    ⟨Inet.long_bytes s.seq.toNat_lt, Inet.long_bytes s.ack.toNat_lt⟩
  have flags : Inet.byteAt s.body 13 = s.flags.toNat := rfl
  have whole : 20 + s.options.length ≤ s.body.length := by
    rw [s.body_length]
    exact Nat.le_add_right _ _
  rw [Inet.Tcp.parse]
  simp only [s.dataOffset, ports, numbers, flags]
  refine (if_pos ⟨rfl, Nat.le_add_right _ _, whole, verifies⟩).trans ?_
  rw [split, List.take_left' header, List.drop_left' header, List.drop_left' twenty]
  rfl

/-- A segment that fits is read as it was given, and any other is no packet. -/
theorem TunSegment.tcpOf_packet (s : TunSegment) :
    Inet.tcpOf s.packet =
      if s.size < 65536 then some (ipToBytes s.srcIp, ipToBytes s.dstIp, s.read) else none := by
  have size : s.size = 20 + s.body.length := by
    rw [s.body_length, s.options_length]
    rfl
  rw [Inet.tcpOf, s.packet_eq, size, parse_ipHeader, ← size]
  split
  · rename_i fits
    rw [Option.bind_some, TunSegment.parse_body fits]
    rfl
  · rfl

end Segments

section Datagrams

variable {d : TunDatagram}

def TunDatagram.size (d : TunDatagram) : Nat := 20 + (8 + d.payload.length)

/-- The ports and the length, before the checksum. -/
def TunDatagram.beforeChecksum (d : TunDatagram) : List UInt8 :=
  toBeBytes16 d.srcPort ++ toBeBytes16 d.dstPort ++
    toBeBytes16 (UInt16.ofNat (8 + d.payload.length))

def TunDatagram.cksum (d : TunDatagram) : UInt16 :=
  udpChecksum d.srcIp d.dstIp (d.beforeChecksum ++ [0, 0] ++ d.payload)

def TunDatagram.body (d : TunDatagram) : List UInt8 :=
  d.beforeChecksum ++ Inet.word d.cksum.toNat ++ d.payload

def TunDatagram.read (d : TunDatagram) : Inet.Udp :=
  { sourcePort := d.srcPort.toNat
    destinationPort := d.dstPort.toNat
    payload := d.payload }

theorem TunDatagram.packet_eq (d : TunDatagram) :
    d.packet = ipHeader d.size 17 d.srcIp d.dstIp ++ d.body := by
  rw [TunDatagram.body, ← put16_append]
  rfl

theorem TunDatagram.body_length (d : TunDatagram) : d.body.length = 8 + d.payload.length := by
  rw [TunDatagram.body, List.length_append]
  rfl

theorem udpChecksum_cases (srcIp dstIp : Ipv4Addr) (segment : List UInt8) :
    udpChecksum srcIp dstIp segment ≠ 0 ∧
      (udpChecksum srcIp dstIp segment = onesComplementSum (pseudo srcIp dstIp 17 segment) ∨
        udpChecksum srcIp dstIp segment = 0xFFFF ∧
          onesComplementSum (pseudo srcIp dstIp 17 segment) = 0) := by
  rw [udpChecksum]
  split
  · rename_i zero
    exact ⟨by decide, Or.inr ⟨rfl, zero⟩⟩
  · rename_i nonzero
    exact ⟨nonzero, Or.inl rfl⟩

theorem TunDatagram.parse_body (fits : d.size < 65536) :
    Inet.Udp.parse ⟨ipToBytes d.srcIp, ipToBytes d.dstIp, (17 : UInt8).toNat, d.body⟩ =
      some d.read := by
  have six : d.beforeChecksum.length = 6 := rfl
  obtain ⟨nonzero, stored⟩ :=
    udpChecksum_cases d.srcIp d.dstIp (d.beforeChecksum ++ [0, 0] ++ d.payload)
  rw [TunDatagram.size] at fits
  have short : (d.beforeChecksum ++ [0, 0] ++ d.payload).length < 65536 := by
    simp only [List.length_append, six, List.length_cons, List.length_nil]
    omega
  have verifies : Verifies (Inet.Ipv4.pseudoHeader
      ⟨ipToBytes d.srcIp, ipToBytes d.dstIp, (17 : UInt8).toNat, d.body⟩ ++ d.body) :=
    verifies_segment (by rw [six]) (by decide) short stored
  have ports : Inet.wordAt d.body 0 = d.srcPort.toNat ∧ Inet.wordAt d.body 2 = d.dstPort.toNat :=
    ⟨Inet.word_bytes d.srcPort.toNat_lt, Inet.word_bytes d.dstPort.toNat_lt⟩
  have length : Inet.wordAt d.body 4 = d.body.length := by
    refine (Inet.word_bytes (UInt16.toNat_lt _)).trans ?_
    rw [UInt16.toNat_ofNat', d.body_length]
    exact Nat.mod_eq_of_lt (by omega)
  have checked : Inet.wordAt d.body 6 ≠ 0 := by
    have same : Inet.wordAt d.body 6 = d.cksum.toNat := Inet.word_bytes d.cksum.toNat_lt
    rw [same]
    exact fun zero => nonzero (UInt16.toNat_inj.mp zero)
  have whole : 8 ≤ d.body.length := by
    rw [d.body_length]
    exact Nat.le_add_right _ _
  rw [Inet.Udp.parse]
  simp only [ports]
  exact if_pos ⟨rfl, whole, length, checked, verifies⟩

theorem TunDatagram.udpOf_packet (d : TunDatagram) :
    Inet.udpOf d.packet =
      if d.size < 65536 then some (ipToBytes d.srcIp, ipToBytes d.dstIp, d.read) else none := by
  have size : d.size = 20 + d.body.length := by
    rw [d.body_length]
    rfl
  rw [Inet.udpOf, d.packet_eq, size, parse_ipHeader, ← size]
  split
  · rename_i fits
    rw [Option.bind_some, TunDatagram.parse_body fits]
    rfl
  · rfl

end Datagrams

section Callers

/-- A read of `tun_response_reader` that brought something. -/
structure ResponseRead where
  buf : List UInt8
  n : Nat
  full : buf.length = 65535
  brought : 0 < n
  within : n ≤ 65535

/-- `&buf[..n]` -/
def ResponseRead.bytes (read : ResponseRead) : List UInt8 := read.buf.take read.n

/-- What `forward_dns_tcp` takes from the stream of the server: an answer behind its length. -/
def forwardDnsTcp : List UInt8 → Option (List UInt8)
  | high :: low :: rest =>
      let respLen := (word16 high low).toNat
      if respLen ≤ rest.length then some (rest.take respLen) else none
  | _ => none

/-- A cached answer, with the transaction id of the query that it answers now. -/
def restoreId : List UInt8 → List UInt8 → List UInt8
  | first :: second :: _, _ :: _ :: resp => first :: second :: resp
  | _, resp => resp

/-- The answers that `handle_udp_spawn` has for a query. -/
inductive DnsAnswer : List UInt8 → Prop where
  | forwarded {stream resp : List UInt8} (answered : forwardDnsTcp stream = some resp) :
      DnsAnswer resp
  | cached {resp : List UInt8} (stored : DnsAnswer resp) (payload : List UInt8) :
      DnsAnswer (restoreId payload resp)

/-- What the relay writes to the TUN: a segment without data, one with what was read, an answer. -/
inductive Sent where
  | bare (flow : Flow) (seq ack : UInt32) (flags : UInt8)
  | synAck (flow : Flow) (isn ack : UInt32)
  | response (flow : Flow) (seq ack : UInt32) (read : ResponseRead)
  | answer (dstIp srcIp : Ipv4Addr) (srcPort : UInt16) (resp : List UInt8) (found : DnsAnswer resp)

def TunSegment.Reparses (s : TunSegment) : Prop :=
  Inet.tcpOf s.packet = some (ipToBytes s.srcIp, ipToBytes s.dstIp, s.read)

def TunDatagram.Reparses (d : TunDatagram) : Prop :=
  Inet.udpOf d.packet = some (ipToBytes d.srcIp, ipToBytes d.dstIp, d.read)

def Sent.Reparses : Sent → Prop
  | bare flow seq ack flags => (reply flow seq ack flags []).Reparses
  | synAck flow isn ack => (Relay.synAck flow isn ack).Reparses
  | response flow seq ack read => (reply flow seq ack 0x18 read.bytes).Reparses
  | answer dstIp srcIp srcPort resp _ => (TunDatagram.mk dstIp srcIp 53 srcPort resp).Reparses

/-- With its headers the payload fits the length field of the packet. -/
def Sent.Fits : Sent → Prop
  | bare _ _ _ _ => True
  | synAck _ _ _ => True
  | response _ _ _ read => read.n ≤ 65495
  | answer _ _ _ resp _ => resp.length ≤ 65507

theorem TunSegment.reparses_iff (s : TunSegment) : s.Reparses ↔ s.size < 65536 := by
  rw [TunSegment.Reparses, s.tcpOf_packet, Option.ite_none_right_eq_some]
  exact and_iff_left rfl

theorem TunDatagram.reparses_iff (d : TunDatagram) : d.Reparses ↔ d.size < 65536 := by
  rw [TunDatagram.Reparses, d.udpOf_packet, Option.ite_none_right_eq_some]
  exact and_iff_left rfl

theorem response_reparses_iff (flow : Flow) (seq ack : UInt32) (read : ResponseRead) :
    (reply flow seq ack 0x18 read.bytes).Reparses ↔ read.n ≤ 65495 := by
  have length : read.bytes.length = read.n := by
    rw [ResponseRead.bytes, List.length_take, read.full]
    exact Nat.min_eq_left read.within
  have size : (reply flow seq ack 0x18 read.bytes).size = 40 + read.n := by
    change 20 + (20 + 0 + read.bytes.length) = _
    rw [length]
    omega
  rw [TunSegment.reparses_iff, size]
  omega

/-- Whatever the relay writes to the TUN is read as it was meant exactly if it fits. -/
theorem written_reparses_iff (sent : Sent) : sent.Reparses ↔ sent.Fits := by
  cases sent with
  | bare flow seq ack flags =>
      exact iff_of_true ((TunSegment.reparses_iff _).mpr (by decide : 40 < 65536)) trivial
  | synAck flow isn ack =>
      exact iff_of_true ((TunSegment.reparses_iff _).mpr (by decide : 44 < 65536)) trivial
  | response flow seq ack read => exact response_reparses_iff flow seq ack read
  | answer dstIp srcIp srcPort resp found =>
      rw [Sent.Reparses, TunDatagram.reparses_iff]
      change 20 + (8 + resp.length) < 65536 ↔ resp.length ≤ 65507
      omega

/-- The longest read that the buffer takes: the length in the header is 39. -/
theorem full_read_misread : ¬∀ sent : Sent, sent.Reparses := by
  intro always
  have reparses := always (.response ⟨⟨10, 0, 0, 2⟩, 40000, ⟨93, 184, 216, 34⟩, 443⟩ 1 1
    ⟨List.replicate 65535 0, 65535, List.length_replicate, by decide, Nat.le_refl _⟩)
  exact absurd ((response_reparses_iff _ _ _ _).mp reparses) (by decide : ¬65535 ≤ 65495)

end Callers

end MolidoVpn.Relay
