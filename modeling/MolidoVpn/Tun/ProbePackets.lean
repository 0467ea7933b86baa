import MolidoVpn.Socks.Question
import MolidoVpn.Tun.Words

/-!
The packets of the exit probe: what `build_udp_ipv4` builds is a datagram that every receiver
reads, `udp_payload` reads every datagram that has not been cut, and a reply is the probe's by the
resolver's address, the two ports and the identification. Where the reply goes to is not looked at.
-/

namespace MolidoVpn.Tun

open Dns (labelBytes)
open Inet (endAround wordSum)
open Utf8 (encode)

section Reading

/-- A UDP datagram in one IPv4 packet, with options, a checksum and bytes behind it that are not
looked at. -/
structure Datagram where
  tos : UInt8
  totalLength : UInt16
  identification : UInt16
  dontFragment : Bool
  ttl : UInt8
  headerChecksum : UInt16
  source : Ipv4Addr
  destination : Ipv4Addr
  options : List UInt8
  optionWords : ∃ words ≤ 10, options.length = words * 4
  sport : UInt16
  dport : UInt16
  checksum : UInt16
  payload : List UInt8
  fits : 8 + payload.length < 65536
  trailing : List UInt8

def Datagram.header (d : Datagram) : List UInt8 :=
  [UInt8.ofNat (0x45 + d.options.length / 4), d.tos] ++ wordBytes d.totalLength ++
    wordBytes d.identification ++ [if d.dontFragment then 0x40 else 0x00, 0x00, d.ttl, 17] ++
    wordBytes d.headerChecksum ++ octets d.source ++ octets d.destination ++ d.options

def Datagram.udp (d : Datagram) : List UInt8 :=
  wordBytes d.sport ++ wordBytes d.dport ++ wordBytes (UInt16.ofNat (8 + d.payload.length)) ++
    wordBytes d.checksum ++ d.payload

def Datagram.packet (d : Datagram) : List UInt8 := d.header ++ (d.udp ++ d.trailing)

theorem Datagram.length_header (d : Datagram) : d.header.length = 20 + d.options.length := by
  rw [Datagram.header, List.length_append]
  rfl

theorem Datagram.length_udp (d : Datagram) : d.udp.length = 8 + d.payload.length := by
  rw [Datagram.udp, List.length_append]
  rfl

/-- The first byte says that this is version 4, and how long the header is. -/
theorem Datagram.first (d : Datagram) :
    byteAt d.packet 0 >>> 4 = 4 ∧ (byteAt d.packet 0 &&& 0x0f).toNat * 4 = d.header.length := by
  obtain ⟨words, few, length⟩ := d.optionWords
  have byte : byteAt d.packet 0 = UInt8.ofNat (0x45 + words) := by
    rw [← Nat.mul_div_cancel words (by decide : 0 < 4), ← length]
    rfl
  have each : ∀ words ≤ 10, UInt8.ofNat (0x45 + words) >>> 4 = 4 ∧
      (UInt8.ofNat (0x45 + words) &&& 0x0f).toNat * 4 = 20 + words * 4 := by decide
  rw [byte, d.length_header, length]
  exact each words few

theorem wordAt_cons (word : UInt16) (rest : List UInt8) :
    wordAt (wordBytes word ++ rest) 0 = word :=
  Dns.wordAt_wordBytes [] word rest

theorem Datagram.whole (d : Datagram) : wordAt d.packet 6 &&& 0x1fff = 0 := by
  have flags : wordAt d.packet 6 = UInt16.ofNat
      ((if d.dontFragment then (0x40 : UInt8) else 0x00).toNat * 256 + 0) := rfl
  rw [flags]
  cases d.dontFragment <;> decide

/-- The two ports and the length of the UDP header. -/
theorem Datagram.words (d : Datagram) :
    wordAt (d.udp ++ d.trailing) 0 = d.sport ∧ wordAt (d.udp ++ d.trailing) 2 = d.dport ∧
      (wordAt (d.udp ++ d.trailing) 4).toNat = 8 + d.payload.length := by
  have size : wordAt (d.udp ++ d.trailing) 4 = UInt16.ofNat (8 + d.payload.length) :=
    Dns.wordAt_wordBytes (wordBytes d.sport ++ wordBytes d.dport) _ _
  refine ⟨wordAt_cons d.sport _, Dns.wordAt_wordBytes (wordBytes d.sport) d.dport _, ?_⟩
  rw [size, UInt16.toNat_ofNat', Nat.mod_eq_of_lt d.fits]

/-- Of a datagram that is whole the payload is read, if it comes from where it should and goes to
the port that it should. -/
theorem udpPayload_datagram (d : Datagram) (src : Ipv4Addr) (sport dport : UInt16) :
    udpPayload d.packet src sport dport =
      if d.source = src ∧ d.sport = sport ∧ d.dport = dport then some d.payload else none := by
  obtain ⟨version, ihl⟩ := d.first
  have header := d.length_header
  have udp := d.length_udp
  have length : d.packet.length = d.header.length + (d.udp.length + d.trailing.length) := by
    rw [Datagram.packet, List.length_append, List.length_append]
  have behind : d.packet.drop d.header.length = d.udp ++ d.trailing := List.drop_left
  have protocol : byteAt d.packet 9 = 17 := rfl
  have source : Ipv4Addr.mk (byteAt d.packet 12) (byteAt d.packet 13) (byteAt d.packet 14)
      (byteAt d.packet 15) = d.source := rfl
  obtain ⟨from_, towards, size⟩ := d.words
  have read : slice (d.udp ++ d.trailing) 8 (8 + d.payload.length) = d.payload := by
    rw [slice, List.take_left' udp]
    rfl
  have short : ¬(d.packet.length < 20 || byteAt d.packet 0 >>> 4 != 4) = true := by
    rw [version, Bool.or_eq_true, decide_eq_true_eq]
    rintro (less | other)
    · omega
    · cases other
  have cut : ¬(d.header.length < 20 || d.packet.length < d.header.length + 8 ||
      byteAt d.packet 9 != 17) = true := by
    rw [protocol, Bool.or_eq_true, Bool.or_eq_true, decide_eq_true_eq, decide_eq_true_eq]
    rintro ((less | less) | other)
    · omega
    · omega
    · cases other
  have fragment : ¬(wordAt d.packet 6 &&& 0x1fff != 0) = true := by
    rw [d.whole]
    decide
  have inside : ¬(8 + d.payload.length < 8 ||
      8 + d.payload.length > (d.udp ++ d.trailing).length) = true := by
    rw [Bool.or_eq_true, decide_eq_true_eq, decide_eq_true_eq, List.length_append]
    omega
  unfold udpPayload
  rw [if_neg short]
  dsimp only
  rw [ihl, if_neg cut, if_neg fragment, source, behind, from_, towards, size]
  by_cases src_ : d.source = src
  · have known : ¬(d.source != src) = true := by
      rw [src_, bne_self_eq_false]
      exact Bool.false_ne_true
    rw [if_neg known]
    by_cases ports : d.sport = sport ∧ d.dport = dport
    · have same : ¬(d.sport != sport || d.dport != dport) = true := by
        rw [ports.1, ports.2, bne_self_eq_false, bne_self_eq_false]
        exact Bool.false_ne_true
      rw [if_neg same, if_neg inside, if_pos ⟨src_, ports⟩, read]
    · have other : (d.sport != sport || d.dport != dport) = true := by
        rw [Bool.or_eq_true, bne_iff_ne, bne_iff_ne]
        exact not_and_or.mp ports
      have not : ¬(d.source = src ∧ d.sport = sport ∧ d.dport = dport) := fun all => ports all.2
      rw [if_pos other, if_neg not]
  · have unknown : (d.source != src) = true := bne_iff_ne.mpr src_
    have not : ¬(d.source = src ∧ d.sport = sport ∧ d.dport = dport) := fun all => src_ all.1
    rw [if_pos unknown, if_neg not]

end Reading

section Building

variable {src dst : Ipv4Addr} {sport dport identification : UInt16} {payload : List UInt8}

/-- The header before its checksum. -/
def headerFront (total identification : UInt16) : List UInt8 :=
  [0x45, 0x00] ++ wordBytes total ++ wordBytes identification ++ [0x00, 0x00, 64, 17]

def headerChecksum (src dst : Ipv4Addr) (total identification : UInt16) : UInt16 :=
  fold (wordSum (headerFront total identification ++ Inet.word 0 ++ (octets src ++ octets dst)))

def udpFront (sport dport : UInt16) (payload : List UInt8) : List UInt8 :=
  wordBytes sport ++ wordBytes dport ++ wordBytes (UInt16.ofNat (8 + payload.length))

def udpSum (src dst : Ipv4Addr) (sport dport : UInt16) (payload : List UInt8) : Nat :=
  wordSum (octets src ++ octets dst) + 17 + (8 + payload.length) +
    wordSum (udpFront sport dport payload ++ Inet.word 0 ++ payload)

/-- A zero would say that there is no checksum. -/
def storedChecksum (sum : Nat) : UInt16 := if fold sum = 0 then 0xffff else fold sum

/-- The packet that is built, as a datagram without options. -/
def builtDatagram (src dst : Ipv4Addr) (sport dport : UInt16) (payload : List UInt8)
    (fits : 8 + payload.length < 65536) (identification : UInt16) : Datagram :=
  { tos := 0x00
    totalLength := UInt16.ofNat (20 + (8 + payload.length))
    identification := identification
    dontFragment := false
    ttl := 64
    headerChecksum :=
      headerChecksum src dst (UInt16.ofNat (20 + (8 + payload.length))) identification
    source := src
    destination := dst
    options := []
    optionWords := ⟨0, by decide, rfl⟩
    sport := sport
    dport := dport
    checksum := storedChecksum (udpSum src dst sport dport payload)
    payload := payload
    fits := fits
    trailing := [] }

def builtHeader (src dst : Ipv4Addr) (total identification : UInt16) : List UInt8 :=
  headerFront total identification ++
    Inet.word (headerChecksum src dst total identification).toNat ++ (octets src ++ octets dst)

def udpBody (src dst : Ipv4Addr) (sport dport : UInt16) (payload : List UInt8) : List UInt8 :=
  udpFront sport dport payload ++
    Inet.word (storedChecksum (udpSum src dst sport dport payload)).toNat ++ payload

theorem length_udpBody (src dst : Ipv4Addr) (sport dport : UInt16) (payload : List UInt8) :
    (udpBody src dst sport dport payload).length = 8 + payload.length := by
  rw [udpBody, List.length_append]
  rfl

theorem buildUdpIpv4_eq :
    buildUdpIpv4 src dst sport dport payload identification =
      builtHeader src dst (UInt16.ofNat (20 + (8 + payload.length))) identification ++
        udpBody src dst sport dport payload := by
  have header : onesComplementSum (headerFront (UInt16.ofNat (20 + (8 + payload.length)))
      identification ++ Inet.word 0 ++ (octets src ++ octets dst)) 0 = wordSum
        (headerFront (UInt16.ofNat (20 + (8 + payload.length))) identification ++ Inet.word 0 ++
          (octets src ++ octets dst)) := by
    rw [onesComplementSum_eq, Nat.zero_add]
  have sum : onesComplementSum (udpFront sport dport payload ++ Inet.word 0 ++ payload)
      (onesComplementSum (octets src ++ octets dst) 0 + 17 + (8 + payload.length)) =
        udpSum src dst sport dport payload := by
    rw [onesComplementSum_eq, onesComplementSum_eq, Nat.zero_add, udpSum]
  have built : buildUdpIpv4 src dst sport dport payload identification =
      headerFront (UInt16.ofNat (20 + (8 + payload.length))) identification ++
        Inet.word (fold (onesComplementSum (headerFront (UInt16.ofNat (20 + (8 + payload.length)))
          identification ++ Inet.word 0 ++ (octets src ++ octets dst)) 0)).toNat ++
        (octets src ++ octets dst) ++ (udpFront sport dport payload ++
          Inet.word (storedChecksum (onesComplementSum
            (udpFront sport dport payload ++ Inet.word 0 ++ payload)
            (onesComplementSum (octets src ++ octets dst) 0 + 17 +
              (8 + payload.length)))).toNat ++ payload) := rfl
  rw [built, header, sum, builtHeader, headerChecksum, udpBody]

/-- What is built is a datagram. -/
theorem packet_builtDatagram (fits : 8 + payload.length < 65536) :
    (builtDatagram src dst sport dport payload fits identification).packet =
      buildUdpIpv4 src dst sport dport payload identification := by
  have front : (builtDatagram src dst sport dport payload fits identification).header =
      builtHeader src dst (UInt16.ofNat (20 + (8 + payload.length))) identification := by
    unfold Datagram.header builtDatagram builtHeader headerFront
    dsimp only
    generalize headerChecksum src dst _ _ = checksum
    generalize UInt16.ofNat (20 + (8 + payload.length)) = total
    rfl
  have udp : (builtDatagram src dst sport dport payload fits identification).udp ++ [] =
      udpBody src dst sport dport payload := List.append_nil _
  rw [buildUdpIpv4_eq, ← front, ← udp]
  rfl

theorem toNat_storedChecksum (sum : Nat) :
    storedChecksum sum ≠ 0 ∧ ((storedChecksum sum).toNat = 65535 - endAround sum ∨
      (storedChecksum sum).toNat = 65535 ∧ endAround sum = 65535) := by
  have small := Inet.endAround_lt sum
  unfold storedChecksum
  split
  · rename_i zero
    have none_ := toNat_fold sum
    rw [zero, UInt16.toNat_zero] at none_
    exact ⟨by decide, Or.inr ⟨rfl, by omega⟩⟩
  · rename_i some_
    exact ⟨some_, Or.inl (toNat_fold sum)⟩

theorem header_verifies (src dst : Ipv4Addr) (total identification : UInt16) :
    Inet.Verifies (builtHeader src dst total identification) := by
  have length : (headerFront total identification).length = 10 := rfl
  have version : 0x45 ∈ headerFront total identification := List.mem_cons_self
  apply Inet.verifies_of_complement
  · rw [length]
  · exact Inet.wordSum_pos (List.mem_append_left _ (List.mem_append_left _ version)) (by decide)
  · exact Or.inl (toNat_fold _)

theorem udp_verifies (fits : 8 + payload.length < 65536) :
    Inet.Verifies (octets src ++ octets dst ++ Inet.word 17 ++
      Inet.word (udpBody src dst sport dport payload).length ++
        udpBody src dst sport dport payload) := by
  have twelve : (octets src ++ octets dst ++ Inet.word 17 ++
      Inet.word (8 + payload.length)).length = 12 := rfl
  have six : (udpFront sport dport payload).length = 6 := rfl
  have ten : (octets src ++ octets dst ++ Inet.word 17).length = 10 := rfl
  have eight : (octets src ++ octets dst).length = 8 := rfl
  have even : (octets src ++ octets dst ++ Inet.word 17 ++ Inet.word (8 + payload.length) ++
      udpFront sport dport payload).length % 2 = 0 := by
    rw [List.length_append, twelve, six]
  have sum : Inet.wordSum (octets src ++ octets dst ++ Inet.word 17 ++
      Inet.word (8 + payload.length) ++ udpFront sport dport payload ++ Inet.word 0 ++ payload) =
        udpSum src dst sport dport payload := by
    rw [List.append_assoc _ (udpFront sport dport payload),
      List.append_assoc _ (udpFront sport dport payload ++ Inet.word 0),
      Inet.wordSum_append (by rw [twelve]), Inet.wordSum_append (by rw [ten]),
      Inet.wordSum_append (by rw [eight]), Inet.wordSum_word (by decide),
      Inet.wordSum_word fits, udpSum]
  rw [length_udpBody, udpBody, ← List.append_assoc, ← List.append_assoc]
  apply Inet.verifies_of_complement even
  · rw [sum, udpSum]
    omega
  · rw [sum]
    exact (toNat_storedChecksum _).2

theorem parse_builtHeader {body : List UInt8} (fits : 20 + body.length < 65536) :
    Inet.Ipv4.parse (builtHeader src dst (UInt16.ofNat (20 + body.length)) identification ++ body) =
      some ⟨octets src, octets dst, 17, body⟩ := by
  have verifies := header_verifies src dst (UInt16.ofNat (20 + body.length)) identification
  have length : (builtHeader src dst (UInt16.ofNat (20 + body.length)) identification).length =
      20 := rfl
  have total : Inet.wordAt
      (builtHeader src dst (UInt16.ofNat (20 + body.length)) identification ++ body) 2 =
        20 + body.length :=
    (Inet.word_bytes (UInt16.toNat_lt _)).trans (by
      rw [UInt16.toNat_ofNat', Nat.mod_eq_of_lt fits])
  have first : Inet.byteAt
      (builtHeader src dst (UInt16.ofNat (20 + body.length)) identification ++ body) 0 = 69 := rfl
  have unfragmented : Inet.wordAt
      (builtHeader src dst (UInt16.ofNat (20 + body.length)) identification ++ body) 6 = 0 :=
    congrArg₂ (· * 256 + ·) (rfl : Inet.byteAt _ 6 = 0) (rfl : Inet.byteAt _ 7 = 0)
  have header : (builtHeader src dst (UInt16.ofNat (20 + body.length)) identification ++
      body).take 20 = builtHeader src dst (UInt16.ofNat (20 + body.length)) identification :=
    List.take_left' length
  have rest : (builtHeader src dst (UInt16.ofNat (20 + body.length)) identification ++
      body).drop 20 = body := List.drop_left' length
  have size : (builtHeader src dst (UInt16.ofNat (20 + body.length)) identification ++
      body).length = 20 + body.length := by
    rw [List.length_append, length]
  simp only [Inet.Ipv4.parse, first, total, size, unfragmented, Nat.reduceMod, Nat.reduceMul,
    Nat.reduceDiv, header, rest, verifies]
  exact if_pos ⟨trivial, Nat.le_refl _, Nat.le_add_right _ _, trivial, trivial, trivial⟩

theorem parse_udpBody (fits : 8 + payload.length < 65536) :
    Inet.Udp.parse ⟨octets src, octets dst, 17, udpBody src dst sport dport payload⟩ =
      some ⟨sport.toNat, dport.toNat, payload⟩ := by
  have body := length_udpBody src dst sport dport payload
  have ports : Inet.wordAt (udpBody src dst sport dport payload) 0 = sport.toNat ∧
      Inet.wordAt (udpBody src dst sport dport payload) 2 = dport.toNat :=
    ⟨Inet.word_bytes sport.toNat_lt, Inet.word_bytes dport.toNat_lt⟩
  have length : Inet.wordAt (udpBody src dst sport dport payload) 4 =
      (udpBody src dst sport dport payload).length := by
    refine (Inet.word_bytes (UInt16.toNat_lt _)).trans ?_
    rw [UInt16.toNat_ofNat', body, Nat.mod_eq_of_lt fits]
  have checked : Inet.wordAt (udpBody src dst sport dport payload) 6 ≠ 0 := by
    have same : Inet.wordAt (udpBody src dst sport dport payload) 6 =
        (storedChecksum (udpSum src dst sport dport payload)).toNat :=
      Inet.word_bytes (UInt16.toNat_lt _)
    rw [same]
    exact fun zero => (toNat_storedChecksum _).1 (UInt16.toNat_inj.mp zero)
  rw [Inet.Udp.parse]
  simp only [ports]
  exact if_pos ⟨trivial, by omega, length, checked, udp_verifies fits⟩

/-- Every receiver that checks the lengths and both checksums reads back what was put in. -/
theorem udpOf_buildUdpIpv4 (fits : payload.length ≤ 65507) :
    Inet.udpOf (buildUdpIpv4 src dst sport dport payload identification) =
      some (octets src, octets dst, ⟨sport.toNat, dport.toNat, payload⟩) := by
  have body := length_udpBody src dst sport dport payload
  rw [buildUdpIpv4_eq, ← body, Inet.udpOf, parse_builtHeader (by omega), Option.bind_some,
    parse_udpBody (by omega)]
  rfl

/-- And so does the reader of the source, at the other end. -/
theorem udpPayload_buildUdpIpv4 (fits : payload.length ≤ 65507) :
    udpPayload (buildUdpIpv4 src dst sport dport payload identification) src sport dport =
      some payload := by
  have short : 8 + payload.length < 65536 := by omega
  rw [← packet_builtDatagram short, udpPayload_datagram]
  exact if_pos ⟨rfl, rfl, rfl⟩

end Building

section Replies

/-- A response to the question of the probe, the name in upper or lower case. -/
structure Answer where
  id : UInt16
  flags : UInt8
  response : flags &&& 0x80 ≠ 0
  later : UInt8
  counts : List UInt8
  six : counts.length = 6
  spelling : List (List UInt8)
  same : List.Forall₂ (fun spelled label => eqIgnoreAsciiCaseBytes spelled label = true) spelling
    (labels whoamiName)
  rest : List UInt8

/-- The header of the message, with one question in it. -/
def Answer.header (answer : Answer) : List UInt8 :=
  wordBytes answer.id ++ [answer.flags, answer.later] ++ wordBytes 1 ++ answer.counts

def Answer.name (answer : Answer) : List UInt8 := answer.spelling.flatMap labelBytes

def Answer.bytes (answer : Answer) : List UInt8 :=
  answer.header ++ (answer.name ++
    (0x00 :: (wordBytes qtypeTxt ++ (wordBytes qclassCh ++ answer.rest))))

/-- A datagram that carries such a response. -/
structure Reply where
  datagram : Datagram
  answer : Answer
  carried : datagram.payload = answer.bytes

theorem length_of_eqIgnoreCase {bytes other : List UInt8}
    (same : eqIgnoreAsciiCaseBytes bytes other = true) : bytes.length = other.length := by
  have lower := eq_of_beq same
  have lengths := congrArg List.length lower
  rw [List.length_map, List.length_map] at lengths
  exact lengths

theorem matchLabels_spelling {spelling names : List (List UInt8)}
    (same : List.Forall₂ (fun spelled label => eqIgnoreAsciiCaseBytes spelled label = true) spelling
      names)
    (small : ∀ label ∈ names, label.length < 256) (front rest : List UInt8) :
    matchLabels (front ++ (spelling.flatMap labelBytes ++ rest)) front.length names =
      some (front.length + (spelling.flatMap labelBytes).length) := by
  induction same generalizing front with
  | nil => rfl
  | @cons spelled label spelling names first later ih =>
      have length := length_of_eqIgnoreCase first
      have fits := small label List.mem_cons_self
      have len : (UInt8.ofNat spelled.length).toNat = spelled.length :=
        Dns.toNat_length (by omega)
      have moved := ih (fun other member => small other (List.mem_cons_of_mem label member))
        (front ++ labelBytes spelled)
      have behind : (front ++ labelBytes spelled).length = front.length + 1 + spelled.length := by
        rw [List.length_append, labelBytes, List.length_cons]
        omega
      have byte : (front ++ (labelBytes spelled ++ (spelling.flatMap labelBytes ++
          rest)))[front.length]? = some (UInt8.ofNat spelled.length) :=
        Dns.getElem?_front front _ _
      have inside : ¬front.length + 1 + spelled.length > (front ++ (labelBytes spelled ++
          (spelling.flatMap labelBytes ++ rest))).length := by
        rw [← List.append_assoc, List.length_append, behind]
        omega
      rw [List.append_assoc, behind] at moved
      rw [List.flatMap_cons, List.append_assoc, matchLabels, byte]
      dsimp only
      rw [len, if_neg (not_not.mpr length), if_neg inside, Dns.slice_label, if_pos first, moved,
        List.length_append, labelBytes, List.length_cons]
      congr 1
      omega

theorem whoami_labels_small : ∀ label ∈ labels whoamiName, label.length < 256 := by
  have all : (labels whoamiName).all (fun label => label.length < 256) = true := by
    decide +kernel
  exact fun label member => of_decide_eq_true (List.all_eq_true.mp all label member)

theorem Answer.length_header (answer : Answer) : answer.header.length = 12 := by
  rw [Answer.header, List.length_append, answer.six]
  rfl

/-- Behind the name are the end of the name, the type and the class. -/
theorem Answer.question (answer : Answer) :
    answer.bytes[12 + answer.name.length]? = some 0x00 ∧
      wordAt answer.bytes (12 + answer.name.length + 1) = qtypeTxt ∧
      wordAt answer.bytes (12 + answer.name.length + 3) = qclassCh := by
  have place : (answer.header ++ answer.name).length = 12 + answer.name.length := by
    rw [List.length_append, answer.length_header]
  have whole : answer.bytes = (answer.header ++ answer.name) ++
      (0x00 :: (wordBytes qtypeTxt ++ (wordBytes qclassCh ++ answer.rest))) := by
    rw [Answer.bytes, List.append_assoc]
  have qtype := Dns.wordAt_wordBytes ((answer.header ++ answer.name) ++ [0x00]) qtypeTxt
    (wordBytes qclassCh ++ answer.rest)
  have qclass := Dns.wordAt_wordBytes
    ((answer.header ++ answer.name) ++ (0x00 :: wordBytes qtypeTxt)) qclassCh answer.rest
  rw [List.length_append, place, List.append_assoc] at qtype qclass
  rw [whole]
  refine ⟨?_, qtype, qclass⟩
  rw [← place]
  exact Dns.getElem?_front _ _ _

theorem questionMatches_answer (answer : Answer) (id : UInt16) :
    questionMatches answer.bytes id whoamiName qtypeTxt qclassCh = decide (answer.id = id) := by
  have twelve := answer.length_header
  have long : answer.bytes.length = 12 + (answer.name.length + (5 + answer.rest.length)) := by
    rw [Answer.bytes, List.length_append, twelve, List.length_append, List.length_cons,
      List.length_append, List.length_append]
    change 12 + (answer.name.length + (2 + (2 + answer.rest.length) + 1)) = _
    omega
  have id_ : wordAt answer.bytes 0 = answer.id := Dns.wordAt_wordBytes [] answer.id _
  have flags : byteAt answer.bytes 2 = answer.flags := rfl
  have one : wordAt answer.bytes 4 = 1 :=
    Dns.wordAt_wordBytes (wordBytes answer.id ++ [answer.flags, answer.later]) 1 _
  have name : matchLabels answer.bytes 12 (labels whoamiName) =
      some (12 + answer.name.length) := by
    rw [← twelve]
    exact matchLabels_spelling answer.same whoami_labels_small answer.header _
  obtain ⟨root, qtype, qclass⟩ := answer.question
  have response : ¬(answer.flags &&& 0x80 == 0) = true := by
    rw [beq_iff_eq]
    exact answer.response
  unfold questionMatches
  rw [if_neg (by omega), id_]
  by_cases mine : answer.id = id
  · have known : ¬(answer.id != id) = true := by
      rw [mine, bne_self_eq_false]
      exact Bool.false_ne_true
    rw [if_neg known, flags, if_neg response, one, if_neg (by decide), name]
    dsimp only
    rw [root, if_neg (not_not.mpr rfl), if_neg (by omega), qtype, qclass, decide_eq_true mine]
    rfl
  · rw [if_pos (bne_iff_ne.mpr mine), decide_eq_false mine]

/-- Of the addresses only the source counts. -/
theorem matches_iff (src : Ipv4Addr) (draws : Draws) (reply : Reply) :
    (Probe.whoami src draws).matches reply.datagram.packet = true ↔
      reply.datagram.source = resolver ∧ reply.datagram.sport = dnsPort ∧
        reply.datagram.dport = (Probe.whoami src draws).sport ∧
          reply.answer.id = (Probe.whoami src draws).id := by
  unfold Probe.matches
  rw [udpPayload_datagram]
  by_cases path : reply.datagram.source = resolver ∧ reply.datagram.sport = dnsPort ∧
      reply.datagram.dport = (Probe.whoami src draws).sport
  · rw [if_pos path, reply.carried]
    change questionMatches _ _ whoamiName qtypeTxt qclassCh = true ↔ _
    rw [questionMatches_answer, decide_eq_true_eq]
    exact ⟨fun id => ⟨path.1, path.2.1, path.2.2, id⟩, fun all => all.2.2.2⟩
  · rw [if_neg path]
    exact ⟨fun never => absurd never Bool.false_ne_true,
      fun all => absurd ⟨all.1, all.2.1, all.2.2.1⟩ path⟩

/-- What fits into one datagram. -/
structure UdpPayload where
  bytes : List UInt8
  fits : bytes.length ≤ 65507

/-- What is built verifies, says how long it is, and is read back; a reply is the probe's by the
resolver's address and port, the port of the probe and its identification. -/
theorem probe_packets :
    (∀ (src dst : Ipv4Addr) (sport dport identification : UInt16) (payload : UdpPayload),
      Inet.udpOf (buildUdpIpv4 src dst sport dport payload.bytes identification) =
          some (octets src, octets dst, ⟨sport.toNat, dport.toNat, payload.bytes⟩) ∧
        udpPayload (buildUdpIpv4 src dst sport dport payload.bytes identification) src sport
          dport = some payload.bytes) ∧
    ∀ (src : Ipv4Addr) (draws : Draws) (reply : Reply),
      (Probe.whoami src draws).matches reply.datagram.packet = true ↔
        reply.datagram.source = resolver ∧ reply.datagram.sport = dnsPort ∧
          reply.datagram.dport = (Probe.whoami src draws).sport ∧
            reply.answer.id = (Probe.whoami src draws).id := by
  constructor
  · intro src dst sport dport identification payload
    exact ⟨udpOf_buildUdpIpv4 payload.fits, udpPayload_buildUdpIpv4 payload.fits⟩
  · exact matches_iff

def plainAnswer : Answer :=
  { id := 0
    flags := 0x80
    response := by decide
    later := 0
    counts := List.replicate 6 0
    six := rfl
    spelling := labels whoamiName
    same := List.forall₂_same.mpr fun label _ => beq_self_eq_true _
    rest := [] }

/-- A reply that is addressed to somebody else. -/
def strayReply : Reply :=
  { datagram :=
      { tos := 0
        totalLength := 0
        identification := 0
        dontFragment := false
        ttl := 64
        headerChecksum := 0
        source := resolver
        destination := ⟨192, 0, 2, 1⟩
        options := []
        optionWords := ⟨0, by decide, rfl⟩
        sport := dnsPort
        dport := 20000
        checksum := 0
        payload := plainAnswer.bytes
        fits := by decide +kernel
        trailing := [] }
    answer := plainAnswer
    carried := rfl }

theorem stray_reply_accepted :
    ¬∀ (src : Ipv4Addr) (draws : Draws) (reply : Reply),
      (Probe.whoami src draws).matches reply.datagram.packet = true ↔
        reply.datagram.source = resolver ∧ reply.datagram.destination = src ∧
          reply.datagram.sport = dnsPort ∧
            reply.datagram.dport = (Probe.whoami src draws).sport ∧
              reply.answer.id = (Probe.whoami src draws).id := by
  intro every
  have accepted := (matches_iff ⟨10, 0, 0, 2⟩ ⟨0, 0, 0⟩ strayReply).mpr ⟨rfl, rfl, rfl, rfl⟩
  exact absurd ((every ⟨10, 0, 0, 2⟩ ⟨0, 0, 0⟩ strayReply).mp accepted).2.1 (by decide)

end Replies

end MolidoVpn.Tun
