import MolidoVpn.Lib.Checked
import MolidoVpn.Lib.Inet

/-!
DNS-only mode's data path. A query that arrives on the TUN is sent to the same server from a socket
of its own, and what that socket receives first is wrapped into a packet for the TUN.
-/

namespace MolidoVpn.DnsOnly

open Checked (Panic get slice)
open Inet (Verifies endAround wordSum)

section Arrays

def u16 (b : List UInt8) (i : Nat) : Except Panic Nat := do
  let high ← get b i
  let low ← get b (i + 1)
  return high.toNat * 256 + low.toNat

/-- `b[i] = v` -/
def put (b : List UInt8) (i : Nat) (v : UInt8) : Except Panic (List UInt8) :=
  match b[i]? with
  | some _ => .ok (b.set i v)
  | none => .error .index

def put16 (b : List UInt8) (i v : Nat) : Except Panic (List UInt8) := do
  let b ← put b i (UInt8.ofNat (v / 256))
  put b (i + 1) (UInt8.ofNat v)

/-- `System.arraycopy` -/
def arraycopy (src : List UInt8) (srcPos : Nat) (dst : List UInt8) (dstPos length : Nat) :
    Except Panic (List UInt8) :=
  if srcPos + length ≤ src.length ∧ dstPos + length ≤ dst.length then
    .ok (dst.take dstPos ++ (src.drop srcPos).take length ++ dst.drop (dstPos + length))
  else .error .slice

end Arrays

section Packets

def isUdpDnsQuery (p : List UInt8) : Except Panic Bool :=
  if p.length < 28 then return false
  else do
    let first ← get p 0
    -- A byte from 128 on is negative, and what `ushr` makes of it is no version.
    if first.toNat / 16 ≠ 4 then return false
    else do
      let protocol ← get p 9
      if protocol ≠ 17 then return false
      else
        let ihl := first.toNat % 16 * 4
        if ihl < 20 ∨ p.length < ihl + 8 then return false
        else do
          let port ← u16 p (ihl + 2)
          return port = 53

/-- The `while` loop of `ipChecksum`. -/
def foldCarries (sum : Nat) : Nat :=
  if sum / 65536 = 0 then sum else foldCarries (sum % 65536 + sum / 65536)
termination_by sum
decreasing_by omega

def ipChecksum (r : List UInt8) : Except Panic Nat := do
  let sum ← [0, 2, 4, 6, 8, 10, 12, 14, 16, 18].foldlM (fun sum i => return sum + (← u16 r i)) 0
  return 65535 - foldCarries sum

def buildReply (from_ to_ : List UInt8) (toPort : Nat) (data : List UInt8) (len : Nat) :
    Except Panic (List UInt8) := do
  let total := 20 + 8 + len
  let r := List.replicate total 0
  let r ← put r 0 0x45
  let r ← put16 r 2 total
  let r ← put r 8 64
  let r ← put r 9 17
  let r ← arraycopy from_ 0 r 12 4
  let r ← arraycopy to_ 0 r 16 4
  let r ← put16 r 10 (← ipChecksum r)
  let r ← put16 r 20 53
  let r ← put16 r 22 toPort
  let r ← put16 r 24 (8 + len)
  arraycopy data 0 r 28 len

end Packets

section Forward

structure Datagram where
  address : List UInt8
  port : Nat
  payload : List UInt8
  deriving DecidableEq

/-- What becomes of a query outside of the forwarder: whether its socket is protected and the query
leaves it, the datagrams that arrive on the socket in time, whether the forwarder still runs then
and whether the TUN takes a packet. -/
structure Outside where
  protects : Bool
  sends : Bool
  arrived : List Datagram
  running : Bool
  tunOpen : Bool

inductive Ending where
  | dropped
  | unprotected
  | timedOut
  | failed (cause : Option Panic)
  | answered
  deriving DecidableEq

structure Forwarded where
  ending : Ending
  sent : Option Datagram
  received : Option Datagram
  written : Option (List UInt8)

def replySize : Nat := 65535

/-- `reply` after a datagram has been received into it. -/
def replyBuffer (payload : List UInt8) : List UInt8 :=
  payload.take replySize ++ List.replicate (replySize - payload.length) 0

/-- The part with the socket. -/
def query (srcIp dstIp : List UInt8) (srcPort : Nat) (payload : List UInt8) (outside : Outside) :
    Forwarded :=
  let sent : Datagram := { address := dstIp, port := 53, payload := payload }
  if outside.protects = false then
    { ending := .unprotected, sent := none, received := none, written := none }
  else if outside.sends = false then
    { ending := .failed none, sent := none, received := none, written := none }
  else
    match outside.arrived with
    | [] => { ending := .timedOut, sent := some sent, received := none, written := none }
    | rp :: _ =>
        let length := min rp.payload.length replySize
        match buildReply dstIp srcIp srcPort (replyBuffer rp.payload) length with
        | .error panic =>
            { ending := .failed (some panic)
              sent := some sent
              received := some rp
              written := none }
        | .ok answer =>
            if outside.running = false then
              { ending := .answered, sent := some sent, received := some rp, written := none }
            else if outside.tunOpen = false then
              { ending := .failed none, sent := some sent, received := some rp, written := none }
            else
              { ending := .answered
                sent := some sent
                received := some rp
                written := some answer }

def forward (p : List UInt8) (outside : Outside) : Except Panic Forwarded := do
  let first ← get p 0
  let ihl := first.toNat % 16 * 4
  let srcIp ← slice p 12 16
  let dstIp ← slice p 16 20
  let srcPort ← u16 p ihl
  let udpLen := min (← u16 p (ihl + 4)) (p.length - ihl)
  if udpLen < 8 then
    return { ending := .dropped, sent := none, received := none, written := none }
  else do
    let payload ← slice p (ihl + 8) (ihl + udpLen)
    return query srcIp.1 dstIp.1 srcPort payload.1 outside

end Forward

section Reply

theorem foldCarries_eq (sum : Nat) : foldCarries sum = endAround sum := by
  induction sum using foldCarries.induct with
  | case1 sum none =>
      rw [foldCarries, if_pos none, Inet.endAround_of_lt (by omega)]
  | case2 sum carries ih =>
      rw [foldCarries, if_neg carries, ih, Inet.endAround_carry]

/-- The header of an answer, with `sum` in the place of its checksum. -/
def header (source destination : List UInt8) (total sum : Nat) : List UInt8 :=
  [0x45, 0, UInt8.ofNat (total / 256), UInt8.ofNat total, 0, 0, 0, 0, 64, 17] ++
    ([UInt8.ofNat (sum / 256), UInt8.ofNat sum] ++ (source ++ destination))

def checksum (source destination : List UInt8) (total : Nat) : Nat :=
  65535 - endAround (wordSum (header source destination total 0))

def udpHeader (toPort length : Nat) : List UInt8 :=
  [0, 53, UInt8.ofNat (toPort / 256), UInt8.ofNat toPort,
    UInt8.ofNat (length / 256), UInt8.ofNat length, 0, 0]

private theorem exists_of_length_four {address : List UInt8} (four : address.length = 4) :
    ∃ a b c d, address = [a, b, c, d] := by
  match address, four with
  | [a, b, c, d], _ => exact ⟨a, b, c, d, rfl⟩

section Writes

variable {front rest src : List UInt8} {i : Nat}

theorem put_append (v : UInt8) (inside : i < front.length) :
    put (front ++ rest) i v = .ok (front.set i v ++ rest) := by
  unfold put
  rw [List.getElem?_append_left inside, List.getElem?_eq_getElem inside,
    List.set_append_left _ _ inside]

theorem put16_append (v : Nat) (inside : i + 1 < front.length) :
    put16 (front ++ rest) i v =
      .ok ((front.set i (UInt8.ofNat (v / 256))).set (i + 1) (UInt8.ofNat v) ++ rest) := by
  unfold put16
  rw [put_append _ (by omega), Checked.ok_bind, put_append]
  rw [List.length_set]
  exact inside

theorem arraycopy_append {length : Nat} (all : src.length = length)
    (inside : i + length ≤ front.length) :
    arraycopy src 0 (front ++ rest) i length =
      .ok (front.take i ++ src ++ front.drop (i + length) ++ rest) := by
  unfold arraycopy
  rw [if_pos, List.drop_zero, ← all, List.take_length, List.take_append_of_le_length (by omega),
    List.drop_append_of_le_length (by omega), ← List.append_assoc]
  rw [List.length_append]
  omega

/-- What is left of the array is filled. -/
theorem arraycopy_last {place length : Nat} (width : front.length = place)
    (inside : length ≤ src.length) :
    arraycopy src 0 (front ++ List.replicate length 0) place length =
      .ok (front ++ src.take length) := by
  unfold arraycopy
  rw [← width, if_pos, List.drop_zero, List.take_left, List.drop_eq_nil_of_le, List.append_nil]
  · rw [List.length_append, List.length_replicate]
  · rw [List.length_append, List.length_replicate]
    omega

theorem u16_append (inside : i + 1 < front.length) :
    u16 (front ++ rest) i = .ok (Inet.wordAt front i) := by
  have get_append {i : Nat} (inside : i < front.length) :
      get (front ++ rest) i = .ok (front.getD i 0) := by
    rw [Checked.get_of_lt 0 (by rw [List.length_append]; omega), List.getD_eq_getElem?_getD,
      List.getElem?_append_left inside, ← List.getD_eq_getElem?_getD]
  unfold u16
  rw [get_append (by omega), get_append inside]
  rfl

/-- The sum of the words of the header. -/
theorem ipChecksum_append (length : front.length = 20) :
    ipChecksum (front ++ rest) = .ok (65535 - endAround (wordSum front)) := by
  have words : wordSum front =
      0 + Inet.wordAt front 0 + Inet.wordAt front 2 + Inet.wordAt front 4 + Inet.wordAt front 6 +
        Inet.wordAt front 8 + Inet.wordAt front 10 + Inet.wordAt front 12 + Inet.wordAt front 14 +
        Inet.wordAt front 16 + Inet.wordAt front 18 := by
    match front, length with
    | [a, b, c, d, e, f, g, h, i, j, k, l, m, n, o, p, q, r, s, t], _ =>
        simp only [wordSum, Inet.wordAt, Inet.byteAt, List.getD_cons_zero, List.getD_cons_succ]
        omega
  unfold ipChecksum
  simp only [List.foldlM_cons, List.foldlM_nil]
  rw [u16_append (by omega), u16_append (by omega), u16_append (by omega), u16_append (by omega),
    u16_append (by omega), u16_append (by omega), u16_append (by omega), u16_append (by omega),
    u16_append (by omega), u16_append (by omega)]
  change Except.ok (65535 - foldCarries (0 + _ + _ + _ + _ + _ + _ + _ + _ + _ + _)) = _
  rw [← words, foldCarries_eq]

end Writes

theorem buildReply_eq {source destination data : List UInt8} {toPort length : Nat}
    (four : source.length = 4) (four' : destination.length = 4) (inside : length ≤ data.length) :
    buildReply source destination toPort data length =
      .ok (header source destination (28 + length)
        (checksum source destination (28 + length)) ++
          (udpHeader toPort (8 + length) ++ data.take length)) := by
  obtain ⟨a, b, c, d, rfl⟩ := exists_of_length_four four
  obtain ⟨a', b', c', d', rfl⟩ := exists_of_length_four four'
  have zeros : List.replicate (20 + 8 + length) (0 : UInt8) =
      List.replicate 28 0 ++ List.replicate length 0 := List.replicate_add 28 length 0
  have within {least most : Nat} (inside : Nat.ble least most = true) : least ≤ most :=
    Nat.le_of_ble_eq_true inside
  unfold buildReply
  dsimp only
  rw [zeros, put_append _ (within rfl), Checked.ok_bind, put16_append _ (within rfl),
    Checked.ok_bind, put_append _ (within rfl), Checked.ok_bind, put_append _ (within rfl),
    Checked.ok_bind, arraycopy_append four (within rfl), Checked.ok_bind,
    arraycopy_append four' (within rfl), Checked.ok_bind]
  -- All of the header but its checksum is there.
  change (do
    let sum ← ipChecksum (header [a, b, c, d] [a', b', c', d'] (28 + length) 0 ++
      (List.replicate 8 0 ++ List.replicate length 0))
    let r ← put16 (header [a, b, c, d] [a', b', c', d'] (28 + length) 0 ++
      (List.replicate 8 0 ++ List.replicate length 0)) 10 sum
    let r ← put16 r 20 53
    let r ← put16 r 22 toPort
    let r ← put16 r 24 (8 + length)
    arraycopy data 0 r 28 length) = _
  rw [ipChecksum_append rfl, Checked.ok_bind, put16_append _ (within rfl), Checked.ok_bind]
  change (do
    let r ← put16 (header [a, b, c, d] [a', b', c', d'] (28 + length)
      (checksum [a, b, c, d] [a', b', c', d'] (28 + length)) ++ List.replicate 8 0 ++
        List.replicate length 0) 20 53
    let r ← put16 r 22 toPort
    let r ← put16 r 24 (8 + length)
    arraycopy data 0 r 28 length) = _
  rw [put16_append _ (within rfl), Checked.ok_bind, put16_append _ (within rfl), Checked.ok_bind,
    put16_append _ (within rfl), Checked.ok_bind]
  change arraycopy data 0 (header [a, b, c, d] [a', b', c', d'] (28 + length)
    (checksum [a, b, c, d] [a', b', c', d'] (28 + length)) ++ udpHeader toPort (8 + length) ++
      List.replicate length 0) 28 length = _
  have width : (header [a, b, c, d] [a', b', c', d'] (28 + length)
      (checksum [a, b, c, d] [a', b', c', d'] (28 + length)) ++
        udpHeader toPort (8 + length)).length = 28 := rfl
  rw [arraycopy_last width inside, List.append_assoc]

private theorem toNat_bytes {value : Nat} (small : value < 65536) :
    (UInt8.ofNat (value / 256)).toNat * 256 + (UInt8.ofNat value).toNat = value := by
  rw [UInt8.toNat_ofNat', UInt8.toNat_ofNat']
  omega

private theorem header_eq (source destination : List UInt8) (total : Nat) {sum : Nat} :
    header source destination total sum =
      [0x45, 0, UInt8.ofNat (total / 256), UInt8.ofNat total, 0, 0, 0, 0, 64, 17] ++
        Inet.word sum ++ (source ++ destination) := by
  have low : UInt8.ofNat (sum % 256) = UInt8.ofNat sum := by
    rw [← UInt8.toNat_inj, UInt8.toNat_ofNat', UInt8.toNat_ofNat']
    omega
  rw [Inet.word, low, List.append_assoc]
  rfl

theorem header_verifies (source destination : List UInt8) (total : Nat) :
    Verifies (header source destination total (checksum source destination total)) := by
  have zero := @header_eq source destination total 0
  rw [header_eq]
  have length : [(0x45 : UInt8), 0, UInt8.ofNat (total / 256), UInt8.ofNat total, 0, 0, 0, 0, 64,
      17].length = 10 := rfl
  apply Inet.verifies_of_complement (by rw [length])
  · exact Inet.wordSum_pos (List.mem_cons_self : (0x45 : UInt8) ∈ _) (by decide)
  · rw [← zero]
    exact Or.inl rfl

/-- The packet of an answer whose body fits behind the header. -/
theorem parse_header {source destination : List UInt8} (four : source.length = 4)
    (four' : destination.length = 4) (body : List UInt8) (fits : 20 + body.length < 65536) :
    Inet.Ipv4.parse (header source destination (20 + body.length)
        (checksum source destination (20 + body.length)) ++ body) =
      some
        { source := source
          destination := destination
          protocol := 17
          body := body } := by
  have verified := header_verifies source destination (20 + body.length)
  generalize sum : checksum source destination (20 + body.length) = value at verified ⊢
  obtain ⟨a, b, c, d, rfl⟩ := exists_of_length_four four
  obtain ⟨a', b', c', d', rfl⟩ := exists_of_length_four four'
  have total : Inet.wordAt (header [a, b, c, d] [a', b', c', d'] (20 + body.length) value ++ body)
      2 = 20 + body.length := toNat_bytes fits
  have size : (header [a, b, c, d] [a', b', c', d'] (20 + body.length) value ++ body).length =
      20 + body.length := by
    rw [List.length_append]
    rfl
  have front : (header [a, b, c, d] [a', b', c', d'] (20 + body.length) value ++ body).take 20 =
      header [a, b, c, d] [a', b', c', d'] (20 + body.length) value := List.take_left' rfl
  have first : Inet.byteAt (header [a, b, c, d] [a', b', c', d'] (20 + body.length) value ++ body)
      0 = 69 := rfl
  have protocol : Inet.byteAt
      (header [a, b, c, d] [a', b', c', d'] (20 + body.length) value ++ body) 9 = 17 := rfl
  have whole : Inet.wordAt (header [a, b, c, d] [a', b', c', d'] (20 + body.length) value ++ body)
      6 = 0 * 256 + 0 := congrArg₂ (· * 256 + ·) (rfl : Inet.byteAt _ 6 = 0)
        (rfl : Inet.byteAt _ 7 = 0)
  have behind : (header [a, b, c, d] [a', b', c', d'] (20 + body.length) value ++ body).drop 20 =
      body := List.drop_left' rfl
  simp only [Inet.Ipv4.parse, first, total, size, whole, protocol, behind, front, Nat.reduceMod,
    Nat.reduceMul, Nat.reduceDiv]
  rw [if_pos]
  · rfl
  · exact ⟨trivial, Nat.le_refl _, Nat.le_add_right _ _, trivial, trivial, verified⟩

end Reply

section Law

def headerLength (p : List UInt8) : Nat := Inet.byteAt p 0 % 16 * 4

def sourceOf (p : List UInt8) : List UInt8 := (p.drop 12).take 4

def destinationOf (p : List UInt8) : List UInt8 := (p.drop 16).take 4

def sourcePort (p : List UInt8) : Nat := Inet.wordAt p (headerLength p)

/-- The length that the query gives, or what there is of it. -/
def udpLength (p : List UInt8) : Nat :=
  min (Inet.wordAt p (headerLength p + 4)) (p.length - headerLength p)

def queryPayload (p : List UInt8) : List UInt8 :=
  (p.take (headerLength p + udpLength p)).drop (headerLength p + 8)

def FromServer (p : List UInt8) (d : Datagram) : Prop :=
  d.address = destinationOf p ∧ d.port = 53

/-- One packet of IPv4 and UDP from the queried server to where the query came from, with a
datagram of the server in it. -/
structure Delivered (p : List UInt8) (d : Datagram) (answer : List UInt8) : Prop where
  server : FromServer p d
  packet : ∃ body,
    Inet.Ipv4.parse answer =
      some
        { source := destinationOf p
          destination := sourceOf p
          protocol := 17
          body := body } ∧
    8 ≤ body.length ∧ Inet.wordAt body 0 = 53 ∧ Inet.wordAt body 2 = sourcePort p ∧
    Inet.wordAt body 4 = body.length ∧ body.drop 8 = d.payload

def Lawful (p : List UInt8) (result : Forwarded) : Prop :=
  ∀ answer, result.written = some answer → ∃ d, result.received = some d ∧ Delivered p d answer

def Outside.Writes (outside : Outside) : Prop :=
  outside.protects = true ∧ outside.sends = true ∧ outside.running = true ∧ outside.tunOpen = true

variable {p : List UInt8} {outside : Outside}

private theorem u16_of_lt {i : Nat} (inside : i + 1 < p.length) :
    u16 p i = .ok (Inet.wordAt p i) := by
  unfold u16
  rw [Checked.get_of_lt 0 (by omega), Checked.get_of_lt 0 inside]
  rfl

private theorem get_first (long : 28 ≤ p.length) : get p 0 = .ok (p.getD 0 0) :=
  Checked.get_of_lt 0 (by omega)

/-- Any packet is checked without a panic, and an accepted one has both headers. -/
theorem isUdpDnsQuery_spec (p : List UInt8) :
    ∃ accepted, isUdpDnsQuery p = .ok accepted ∧
      (accepted = true → 28 ≤ p.length ∧ 20 ≤ headerLength p ∧
        headerLength p + 8 ≤ p.length) := by
  unfold isUdpDnsQuery
  have refused : ∃ accepted, (Except.ok false : Except Panic Bool) = .ok accepted ∧
      (accepted = true → 28 ≤ p.length ∧ 20 ≤ headerLength p ∧ headerLength p + 8 ≤ p.length) :=
    ⟨false, rfl, fun impossible => absurd impossible Bool.false_ne_true⟩
  by_cases short : p.length < 28
  · rw [if_pos short]
    exact refused
  · rw [if_neg short, get_first (by omega), Checked.ok_bind]
    by_cases version : (p.getD 0 0).toNat / 16 ≠ 4
    · rw [if_pos version]
      exact refused
    · rw [if_neg version, Checked.get_of_lt 0 (by omega), Checked.ok_bind]
      by_cases other : p.getD 9 0 ≠ 17
      · rw [if_pos other]
        exact refused
      · rw [if_neg other]
        dsimp only
        by_cases cut : (p.getD 0 0).toNat % 16 * 4 < 20 ∨
            p.length < (p.getD 0 0).toNat % 16 * 4 + 8
        · rw [if_pos cut]
          exact refused
        · rw [if_neg cut, u16_of_lt (by omega), Checked.ok_bind]
          refine ⟨_, rfl, fun _ => ?_⟩
          change 28 ≤ p.length ∧ 20 ≤ (p.getD 0 0).toNat % 16 * 4 ∧
            (p.getD 0 0).toNat % 16 * 4 + 8 ≤ p.length
          omega

theorem length_sourceOf (long : 28 ≤ p.length) : (sourceOf p).length = 4 := by
  rw [sourceOf, List.length_take, List.length_drop]
  omega

theorem length_destinationOf (long : 28 ≤ p.length) : (destinationOf p).length = 4 := by
  rw [destinationOf, List.length_take, List.length_drop]
  omega

private theorem slice_four {place : Nat} (inside : place + 4 ≤ p.length) :
    ∃ part, slice p place (place + 4) = .ok part ∧ part.1 = (p.drop place).take 4 := by
  obtain ⟨part, taken, same⟩ := Checked.slice_of_le p place (place + 4) (by omega) inside
  refine ⟨part, taken, ?_⟩
  rw [same, List.drop_take, Nat.add_sub_cancel_left]

theorem forward_eq (accepted : isUdpDnsQuery p = .ok true) (outside : Outside) :
    forward p outside =
      .ok (if udpLength p < 8 then
        { ending := .dropped, sent := none, received := none, written := none }
      else query (sourceOf p) (destinationOf p) (sourcePort p) (queryPayload p) outside) := by
  obtain ⟨_, checked, shape⟩ := isUdpDnsQuery_spec p
  rw [accepted] at checked
  obtain ⟨long, least, room⟩ := shape (Except.ok.inj checked).symm
  obtain ⟨source, from_, sourced⟩ := slice_four (by omega : 12 + 4 ≤ p.length)
  obtain ⟨destination, to_, destined⟩ := slice_four (by omega : 16 + 4 ≤ p.length)
  unfold forward
  rw [get_first long, Checked.ok_bind]
  dsimp only
  change (do
    let srcIp ← slice p 12 16
    let dstIp ← slice p 16 20
    let srcPort ← u16 p (headerLength p)
    let length ← u16 p (headerLength p + 4)
    if min length (p.length - headerLength p) < 8 then
      return { ending := .dropped, sent := none, received := none, written := none }
    else do
      let payload ← slice p (headerLength p + 8)
        (headerLength p + min length (p.length - headerLength p))
      return query srcIp.1 dstIp.1 srcPort payload.1 outside : Except Panic Forwarded) = _
  rw [from_, Checked.ok_bind, to_, Checked.ok_bind, u16_of_lt (by omega), Checked.ok_bind,
    u16_of_lt (by omega), Checked.ok_bind, sourced, destined]
  change (if udpLength p < 8 then _ else _) = _
  by_cases short : udpLength p < 8
  · rw [if_pos short, if_pos short]
    rfl
  · have most : udpLength p ≤ p.length - headerLength p := Nat.min_le_right _ _
    obtain ⟨payload, taken, same⟩ := Checked.slice_of_le p (headerLength p + 8)
      (headerLength p + udpLength p) (by omega) (by omega)
    rw [if_neg short, if_neg short]
    change (slice p (headerLength p + 8) (headerLength p + udpLength p) >>= _) = _
    rw [taken, Checked.ok_bind, same]
    rfl

/-- What is built of a datagram. -/
def answerTo (p : List UInt8) (payload : List UInt8) : List UInt8 :=
  let length := min payload.length replySize
  header (destinationOf p) (sourceOf p) (28 + length)
      (checksum (destinationOf p) (sourceOf p) (28 + length)) ++
    (udpHeader (sourcePort p) (8 + length) ++ payload.take replySize)

theorem buildReply_received (long : 28 ≤ p.length) (payload : List UInt8) :
    buildReply (destinationOf p) (sourceOf p) (sourcePort p) (replyBuffer payload)
      (min payload.length replySize) = .ok (answerTo p payload) := by
  have front : (replyBuffer payload).take (min payload.length replySize) =
      payload.take replySize := by
    have length : (payload.take replySize).length = min payload.length replySize := by
      rw [List.length_take, Nat.min_comm]
    rw [replyBuffer, ← length, List.take_left]
  rw [buildReply_eq (length_destinationOf long) (length_sourceOf long), front]
  · rfl
  · rw [replyBuffer, List.length_append, List.length_take, List.length_replicate]
    omega

theorem length_answerTo (long : 28 ≤ p.length) (payload : List UInt8) :
    (answerTo p payload).length = 28 + min payload.length replySize := by
  have destination := length_destinationOf long
  have source := length_sourceOf long
  simp only [answerTo, header, udpHeader, List.length_append, List.length_take, List.length_cons,
    List.length_nil, destination, source]
  omega

theorem wordAt_lt (bytes : List UInt8) (index : Nat) : Inet.wordAt bytes index < 65536 := by
  have high : Inet.byteAt bytes index < 256 := UInt8.toNat_lt _
  have low : Inet.byteAt bytes (index + 1) < 256 := UInt8.toNat_lt _
  rw [Inet.wordAt]
  omega

/-- The 16 bits for its length take in 65507 bytes of a datagram. -/
theorem delivered_answerTo_iff (long : 28 ≤ p.length) (d : Datagram) :
    Delivered p d (answerTo p d.payload) ↔ FromServer p d ∧ d.payload.length ≤ 65507 := by
  constructor
  · intro delivered
    obtain ⟨body, parsed, -⟩ := delivered.packet
    refine ⟨delivered.server, ?_⟩
    unfold Inet.Ipv4.parse at parsed
    dsimp only at parsed
    split at parsed
    · rename_i whole
      have total := whole.2.2.2.1
      have bound := wordAt_lt (answerTo p d.payload) 2
      rw [total, length_answerTo long, replySize] at bound
      omega
    · cases parsed
  · rintro ⟨server, fits⟩
    have most : min d.payload.length replySize = d.payload.length := by
      rw [replySize]
      omega
    have all : d.payload.take replySize = d.payload :=
      List.take_of_length_le (by rw [replySize]; omega)
    have size : (udpHeader (sourcePort p) (8 + d.payload.length) ++ d.payload).length =
        8 + d.payload.length := by
      rw [List.length_append]
      rfl
    have port : Inet.wordAt (udpHeader (sourcePort p) (8 + d.payload.length) ++ d.payload) 0 =
        0 * 256 + 53 :=
      congrArg₂ (· * 256 + ·) (rfl : Inet.byteAt _ 0 = 0) (rfl : Inet.byteAt _ 1 = 53)
    refine ⟨server, udpHeader (sourcePort p) (8 + d.payload.length) ++ d.payload, ?_, ?_, port, ?_,
      ?_, rfl⟩
    · have parsed := parse_header (length_destinationOf long) (length_sourceOf long)
        (udpHeader (sourcePort p) (8 + d.payload.length) ++ d.payload) (by rw [size]; omega)
      rw [size, ← Nat.add_assoc] at parsed
      rw [answerTo, most, all]
      exact parsed
    · rw [size]
      exact Nat.le_add_right 8 _
    · exact toNat_bytes (wordAt_lt p (headerLength p))
    · rw [size]
      exact toNat_bytes (by omega)

/-- Every array is long enough for what is written into it. -/
theorem query_ending (long : 28 ≤ p.length) (payload : List UInt8) (outside : Outside)
    (panic : Panic) :
    (query (sourceOf p) (destinationOf p) (sourcePort p) payload outside).ending ≠
      .failed (some panic) := by
  unfold query
  split
  · exact Ending.noConfusion
  · split
    · exact fun same => nomatch Ending.failed.inj same
    · split
      · exact Ending.noConfusion
      · rename_i rp rest _arrived
        dsimp only
        rw [buildReply_received long]
        dsimp only
        split
        · exact Ending.noConfusion
        · split
          · exact fun same => nomatch Ending.failed.inj same
          · exact Ending.noConfusion

theorem query_written (long : 28 ≤ p.length) (payload : List UInt8) (writes : outside.Writes)
    {first : Datagram} (came : outside.arrived.head? = some first) :
    (query (sourceOf p) (destinationOf p) (sourcePort p) payload outside).received = some first ∧
      (query (sourceOf p) (destinationOf p) (sourcePort p) payload outside).written =
        some (answerTo p first.payload) := by
  obtain ⟨protects, sends, running, opened⟩ := writes
  obtain ⟨rest, arrived⟩ := List.head?_eq_some_iff.mp came
  unfold query
  rw [protects, sends, running, opened, arrived]
  dsimp only
  rw [buildReply_received long]
  exact ⟨rfl, rfl⟩

/-- Nothing else is written. -/
theorem writes_of_written (long : 28 ≤ p.length) {payload answer : List UInt8}
    (written : (query (sourceOf p) (destinationOf p) (sourcePort p) payload outside).written =
      some answer) : outside.Writes ∧ ∃ first, outside.arrived.head? = some first := by
  unfold query at written
  split at written
  · cases written
  · rename_i protects
    split at written
    · cases written
    · rename_i sends
      split at written
      · cases written
      · rename_i rp rest arrived
        dsimp only at written
        rw [buildReply_received long] at written
        dsimp only at written
        split at written
        · cases written
        · rename_i running
          split at written
          · cases written
          · rename_i opened
            rw [Bool.not_eq_false] at protects sends running opened
            exact ⟨⟨protects, sends, running, opened⟩, rp, by rw [arrived]; rfl⟩

/-- No access is out of range. What is written is lawful when the datagram that arrived first came
from the server and fits. -/
theorem forward_lawful_iff (accepted : isUdpDnsQuery p = .ok true) (outside : Outside) :
    ∃ result, forward p outside = .ok result ∧
      (∀ panic, result.ending ≠ .failed (some panic)) ∧
      (Lawful p result ↔
        (8 ≤ udpLength p → outside.Writes → ∀ first, outside.arrived.head? = some first →
          FromServer p first ∧ first.payload.length ≤ 65507)) := by
  obtain ⟨_, checked, shape⟩ := isUdpDnsQuery_spec p
  rw [accepted] at checked
  obtain ⟨long, -, -⟩ := shape (Except.ok.inj checked).symm
  refine ⟨_, forward_eq accepted outside, ?_⟩
  by_cases short : udpLength p < 8
  · rw [if_pos short]
    constructor
    · exact fun panic => Ending.noConfusion
    · constructor
      · intro _lawful enough
        omega
      · intro _first answer written
        cases written
  · rw [if_neg short]
    refine ⟨query_ending long _ outside, ?_⟩
    constructor
    · intro lawful _enough writes first came
      obtain ⟨received, written⟩ := query_written long (queryPayload p) writes came
      obtain ⟨d, taken, delivered⟩ := lawful _ written
      obtain rfl := Option.some.inj (received.symm.trans taken)
      exact (delivered_answerTo_iff long first).mp delivered
    · intro fits answer written
      obtain ⟨writes, first, came⟩ := writes_of_written long written
      obtain ⟨received, sent⟩ := query_written long (queryPayload p) writes came
      obtain rfl := Option.some.inj (sent.symm.trans written)
      exact ⟨first, received, (delivered_answerTo_iff long first).mpr
        (fits (by omega) writes first came)⟩

/-- A query of 10.0.0.2 from its port 4660 to the server 1.2.3.4, with one byte in it. -/
def gamingQuery : List UInt8 :=
  [0x45, 0, 0, 29, 0, 0, 0, 0, 64, 17, 0, 0, 10, 0, 0, 2, 1, 2, 3, 4, 0x12, 0x34, 0, 53, 0, 9, 0, 0,
    7]

def answering (arrived : List Datagram) : Outside :=
  { protects := true
    sends := true
    arrived := arrived
    running := true
    tunOpen := true }

theorem forward_lawful_iff_answered :
    isUdpDnsQuery gamingQuery = .ok true ∧
    ∃ result,
      forward gamingQuery (answering [⟨[1, 2, 3, 4], 53, [8]⟩]) = .ok result ∧
      (∀ panic, result.ending ≠ .failed (some panic)) ∧
      (Lawful gamingQuery result ↔
        (8 ≤ udpLength gamingQuery → (answering [⟨[1, 2, 3, 4], 53, [8]⟩]).Writes →
          ∀ first, (answering [⟨[1, 2, 3, 4], 53, [8]⟩]).arrived.head? = some first →
            FromServer gamingQuery first ∧ first.payload.length ≤ 65507)) := by
  have accepted : isUdpDnsQuery gamingQuery = .ok true := by decide +kernel
  exact ⟨accepted, forward_lawful_iff accepted _⟩

def stranger : Datagram :=
  { address := [9, 9, 9, 9]
    port := 5353
    payload := [8] }

/-- The datagram of a stranger is delivered as the server's. -/
theorem not_lawful_stranger :
    isUdpDnsQuery gamingQuery = .ok true ∧
    ∃ result answer, forward gamingQuery (answering [stranger]) = .ok result ∧
      result.received = some stranger ∧ ¬FromServer gamingQuery stranger ∧
      result.written = some answer ∧ ¬Lawful gamingQuery result := by
  have accepted : isUdpDnsQuery gamingQuery = .ok true := by decide +kernel
  have long : 28 ≤ gamingQuery.length := by decide
  have enough : ¬udpLength gamingQuery < 8 := by decide
  have other : ¬FromServer gamingQuery stranger := by
    unfold FromServer
    decide
  have writes : (answering [stranger]).Writes := ⟨rfl, rfl, rfl, rfl⟩
  have came : (answering [stranger]).arrived.head? = some stranger := rfl
  obtain ⟨received, written⟩ := query_written long (queryPayload gamingQuery) writes came
  refine ⟨accepted, _, answerTo gamingQuery stranger.payload, forward_eq accepted _, ?_⟩
  rw [if_neg enough]
  refine ⟨received, other, written, fun lawful => ?_⟩
  obtain ⟨d, taken, delivered⟩ := lawful _ written
  obtain rfl := Option.some.inj (received.symm.trans taken)
  exact other delivered.server

end Law

end MolidoVpn.DnsOnly
