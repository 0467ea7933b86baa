import MolidoVpn.Lib.Utf8
import MolidoVpn.Socks.IpText

/-!
The DNS probe that reads the exit address from inside the tunnel (`exitip.rs`): how
its packet is built, how a reply is recognised, and what is read from it. A walk over
a message has its length as fuel, since every turn of it moves forward.
-/

namespace MolidoVpn.Tun

open IpText (readIpv4Addr)
open Text (trim)
open Utf8 (encode fromUtf8Lossy)

def byteAt (bytes : List UInt8) (index : Nat) : UInt8 := bytes.getD index 0

/-- `u16::from_be_bytes` of two bytes. -/
def wordAt (bytes : List UInt8) (index : Nat) : UInt16 :=
  UInt16.ofNat ((byteAt bytes index).toNat * 256 + (byteAt bytes (index + 1)).toNat)

/-- `to_be_bytes` -/
def wordBytes (word : UInt16) : List UInt8 :=
  [UInt8.ofNat (word.toNat / 256), UInt8.ofNat (word.toNat % 256)]

/-- `copy_from_slice` of two bytes. -/
def putWord (bytes : List UInt8) (index : Nat) (word : UInt16) : List UInt8 :=
  (bytes.set index (UInt8.ofNat (word.toNat / 256))).set (index + 1)
    (UInt8.ofNat (word.toNat % 256))

def slice (bytes : List UInt8) (start stop : Nat) : List UInt8 := (bytes.take stop).drop start

def dnsPort : UInt16 := 53

def resolver : Ipv4Addr := ⟨1, 1, 1, 1⟩

def qtypeTxt : UInt16 := 16

def qclassCh : UInt16 := 3

def whoamiName : List UInt8 := encode "whoami.cloudflare".toList

def octets (ip : Ipv4Addr) : List UInt8 := [ip.a, ip.b, ip.c, ip.d]

/-- `name.split('.')`, without the empty labels that both users skip. -/
def labels (name : List UInt8) : List (List UInt8) :=
  (name.splitOn 46).filter fun label => !label.isEmpty

def buildQuery (id : UInt16) (name : List UInt8) (qtype qclass : UInt16) : List UInt8 :=
  wordBytes id ++ [0x01, 0x00] ++ wordBytes 1 ++ List.replicate 6 0 ++
    (labels name).flatMap (fun label => UInt8.ofNat (min label.length 63) :: label.take 63) ++
    [0] ++ wordBytes qtype ++ wordBytes qclass

def onesComplementSum : List UInt8 → Nat → Nat
  | hi :: lo :: rest, sum => onesComplementSum rest (sum + (hi.toNat * 256 + lo.toNat))
  | [last], sum => sum + last.toNat * 256
  | [], sum => sum

/-- The loop of `fold`; every turn makes the sum smaller. -/
def foldCarries : Nat → Nat → Nat
  | 0, sum => sum
  | turns + 1, sum =>
      if sum / 65536 = 0 then sum else foldCarries turns (sum % 65536 + sum / 65536)

def fold (sum : Nat) : UInt16 := ~~~ UInt16.ofNat (foldCarries sum sum)

/-- The identification of the packet is drawn at random. -/
def buildUdpIpv4 (src dst : Ipv4Addr) (sport dport : UInt16) (payload : List UInt8)
    (identification : UInt16) : List UInt8 :=
  let udpLen := 8 + payload.length
  let header := [0x45, 0x00] ++ wordBytes (UInt16.ofNat (20 + udpLen)) ++
    wordBytes identification ++ [0x00, 0x00, 64, 17, 0x00, 0x00] ++ octets src ++ octets dst
  let header := putWord header 10 (fold (onesComplementSum (header.take 20) 0))
  let pkt := header ++ wordBytes sport ++ wordBytes dport ++ wordBytes (UInt16.ofNat udpLen) ++
    [0x00, 0x00] ++ payload
  let sum := onesComplementSum (slice pkt 12 20) 0 + 17 + udpLen
  let udpCsum := fold (onesComplementSum (pkt.drop 20) sum)
  putWord pkt 26 (if udpCsum = 0 then 0xffff else udpCsum)

def udpPayload (packet : List UInt8) (src : Ipv4Addr) (sport dport : UInt16) :
    Option (List UInt8) :=
  if packet.length < 20 || byteAt packet 0 >>> 4 != 4 then none
  else
    let ihl := (byteAt packet 0 &&& 0x0f).toNat * 4
    if ihl < 20 || packet.length < ihl + 8 || byteAt packet 9 != 17 then none
    else if wordAt packet 6 &&& 0x1fff != 0 then none
    else if Ipv4Addr.mk (byteAt packet 12) (byteAt packet 13) (byteAt packet 14)
        (byteAt packet 15) != src then none
    else
      let udp := packet.drop ihl
      if wordAt udp 0 != sport || wordAt udp 2 != dport then none
      else
        let len := (wordAt udp 4).toNat
        if len < 8 || len > udp.length then none else some (slice udp 8 len)

def eqIgnoreAsciiCaseBytes (bytes other : List UInt8) : Bool :=
  let lower := fun byte : UInt8 => if 65 ≤ byte && byte ≤ 90 then byte + 32 else byte
  bytes.map lower == other.map lower

/-- The walk over the labels of a question; where the name ends, if it is the one expected. -/
def matchLabels (msg : List UInt8) (pos : Nat) : List (List UInt8) → Option Nat
  | [] => some pos
  | label :: rest =>
      match msg[pos]? with
      | none => none
      | some len =>
          if len.toNat ≠ label.length then none
          else
            let stop := pos + 1 + len.toNat
            if stop > msg.length then none
            else if eqIgnoreAsciiCaseBytes (slice msg (pos + 1) stop) label then
              matchLabels msg stop rest
            else none

def questionMatches (msg : List UInt8) (id : UInt16) (name : List UInt8) (qtype qclass : UInt16) :
    Bool :=
  if msg.length < 12 then false
  else if wordAt msg 0 != id then false
  else if byteAt msg 2 &&& 0x80 == 0 then false
  else if wordAt msg 4 != 1 then false
  else
    match matchLabels msg 12 (labels name) with
    | none => false
    | some pos =>
        if msg[pos]? ≠ some 0 then false
        else if pos + 1 + 4 > msg.length then false
        else wordAt msg (pos + 1) == qtype && wordAt msg (pos + 3) == qclass

def skipNameFrom (buf : List UInt8) : Nat → Nat → Option Nat
  | 0, _ => none
  | turns + 1, pos =>
      match buf[pos]? with
      | none => none
      | some len =>
          if len &&& 0xc0 = 0xc0 then (some (pos + 2)).filter (· ≤ buf.length)
          else if len = 0 then (some (pos + 1)).filter (· ≤ buf.length)
          else
            let next := pos + 1 + len.toNat
            if next > buf.length then none else skipNameFrom buf turns next

def skipName (buf : List UInt8) (pos : Nat) : Option Nat := skipNameFrom buf (buf.length + 1) pos

def skipQuestions (msg : List UInt8) : Nat → Nat → Option Nat
  | 0, pos => some pos
  | count + 1, pos => (skipName msg pos).bind fun pos => skipQuestions msg count (pos + 4)

/-- The character strings of one TXT record, joined. -/
def txtStrings (msg : List UInt8) (stop : Nat) : Nat → Nat → Option (List Char)
  | 0, _ => some []
  | turns + 1, pos =>
      if pos < stop then
        let next := pos + 1 + (byteAt msg pos).toNat
        if next > stop then none
        else (txtStrings msg stop turns next).map
          (fromUtf8Lossy (slice msg (pos + 1) next) ++ ·)
      else some []

def firstTxtFrom (msg : List UInt8) : Nat → Nat → Option (List Char)
  | 0, _ => none
  | count + 1, pos =>
      match skipName msg pos with
      | none => none
      | some pos =>
          if pos + 10 > msg.length then none
          else
            let rtype := wordAt msg pos
            let start := pos + 10
            let stop := start + (wordAt msg (pos + 8)).toNat
            if stop > msg.length then none
            else if rtype = qtypeTxt then
              (txtStrings msg stop (msg.length + 1) start).filter fun out => !out.isEmpty
            else firstTxtFrom msg count stop

def firstTxtRecord (msg : List UInt8) : Option (List Char) :=
  if msg.length < 12 then none
  else
    (skipQuestions msg (wordAt msg 4).toNat 12).bind fun pos =>
      firstTxtFrom msg (wordAt msg 6).toNat pos

/-- `str::parse::<Ipv4Addr>`: nothing may be left, and a text that is too long is not read. -/
def parseIpv4Addr (text : List Char) : Option Ipv4Addr :=
  if (encode text).length > 15 then none
  else
    match readIpv4Addr text with
    | some (ip, []) => some ip
    | _ => none

structure Probe where
  packet : List UInt8
  sport : UInt16
  id : UInt16
  name : List UInt8
  deriving DecidableEq

/-- What `Probe::whoami` draws at random. -/
structure Draws where
  id : UInt16
  port : UInt16
  identification : UInt16
  deriving DecidableEq

def Probe.whoami (src : Ipv4Addr) (draws : Draws) : Probe :=
  let sport := 20000 + draws.port % 40000
  let query := buildQuery draws.id whoamiName qtypeTxt qclassCh
  { packet := buildUdpIpv4 src resolver sport dnsPort query draws.identification
    sport := sport
    id := draws.id
    name := whoamiName }

def Probe.matches (probe : Probe) (packet : List UInt8) : Bool :=
  match udpPayload packet resolver dnsPort probe.sport with
  | none => false
  | some payload => questionMatches payload probe.id probe.name qtypeTxt qclassCh

def Probe.read (probe : Probe) (packet : List UInt8) : Option Ipv4Addr :=
  (udpPayload packet resolver dnsPort probe.sport).bind fun payload =>
    (firstTxtRecord payload).bind fun text => parseIpv4Addr (trim text)

/-- A packet that is not IPv4 or not UDP is no reply. -/
theorem Probe.not_matches {probe : Probe} {packet : List UInt8}
    (other : byteAt packet 0 >>> 4 ≠ 4 ∨ byteAt packet 9 ≠ 17) : probe.matches packet = false := by
  have unread : udpPayload packet resolver dnsPort probe.sport = none := by
    unfold udpPayload
    rcases other with notV4 | notUdp
    · rw [bne_iff_ne.mpr notV4, Bool.or_true, if_pos rfl]
    · split
      · rfl
      · simp only [bne_iff_ne.mpr notUdp, Bool.or_true, if_true]
  rw [Probe.matches, unread]

end MolidoVpn.Tun
