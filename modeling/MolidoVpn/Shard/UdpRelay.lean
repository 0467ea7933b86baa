import Mathlib.Data.List.Forall2
import MolidoVpn.Lib.Checked
import MolidoVpn.Shard.DnsFront

/-!
The UDP associations of `ShardSocksFront`: payloads go out behind a SOCKS5 header, and what comes
back loses it. A reply is received into a buffer that holds so many bytes of it and no more.
-/

namespace MolidoVpn.Shard.UdpRelay

open Checked (Panic Safe get slice)

def udpBuffer : Nat := 4096

def atypIpv4 : UInt8 := 1

def atypDomain : UInt8 := 3

def atypIpv6 : UInt8 := 4

/-- An address as its bytes, four of them or sixteen. -/
structure InetAddress where
  address : List UInt8
  sized : address.length = 4 ∨ address.length = 16

def encapsulate (destination : InetAddress) (port : Nat) (payload : List UInt8) : List UInt8 :=
  [0, 0, 0, if destination.address.length = 16 then atypIpv6 else atypIpv4] ++
    destination.address ++ [UInt8.ofNat (port / 256), UInt8.ofNat port] ++ payload

/-- `copyOfRange` behind the header, where anything is there. -/
def behindHeader (buffer : List UInt8) (header length : Nat) :
    Except Panic (Option (List UInt8)) :=
  if length ≤ header then .ok none
  else do
    let payload ← slice buffer header length
    return some payload.1

def decapsulate (buffer : List UInt8) (length : Nat) : Except Panic (Option (List UInt8)) :=
  if length < 10 then .ok none
  else do
    let frag ← get buffer 2
    if frag ≠ 0 then .ok none
    else
      let atyp ← get buffer 3
      if atyp = atypIpv4 then behindHeader buffer 10 length
      else if atyp = atypIpv6 then behindHeader buffer 22 length
      else if atyp = atypDomain then do
        let nameLength ← get buffer 4
        behindHeader buffer (5 + nameLength.toNat + 2) length
      else .ok none

/-- The datagram in the buffer, as far as it fits, and how much that is. -/
def receive (buffer datagram : List UInt8) : List UInt8 × Nat :=
  (datagram.take buffer.length ++ buffer.drop datagram.length, min datagram.length buffer.length)

/-- Whom an association answers. -/
structure Client where
  conid : Nat
  isIpv6 : Bool
  clientAddress : List UInt8

/-- A frame as it goes down the stream, with its length in front. -/
def frame (client : Client) (payload : List UInt8) : List UInt8 :=
  let body := udpgwBody client.conid client.isIpv6 client.clientAddress payload
  UInt8.ofNat body.length :: UInt8.ofNat (body.length / 256) :: body

/-- What is written for each of the datagrams that come in; nothing for one that is dropped. -/
def pumpAssociation (client : Client) :
    List UInt8 → List (List UInt8) → Except Panic (List (Option (List UInt8)))
  | _, [] => .ok []
  | buffer, datagram :: rest => do
      let received := receive buffer datagram
      let payload ← decapsulate received.1 received.2
      let written ← pumpAssociation client received.1 rest
      return payload.map (frame client) :: written

section Header

/-- How long a header with this type is, of a datagram that has one. -/
def headerOf (datagram : List UInt8) : Option Nat :=
  let atyp := datagram.getD 3 0
  if atyp = atypIpv4 then some 10
  else if atyp = atypIpv6 then some 22
  else if atyp = atypDomain then some (5 + (datagram.getD 4 0).toNat + 2)
  else none

/-- The complete payload of a datagram that is whole: what stands behind its header. -/
def content (datagram : List UInt8) : Option (List UInt8) :=
  if datagram.length < 10 ∨ datagram.getD 2 0 ≠ 0 then none
  else (headerOf datagram).bind fun header =>
    if datagram.length ≤ header then none else some (datagram.drop header)

theorem getD_take {bytes : List UInt8} {index length : Nat} (inside : index < length) :
    (bytes.take length).getD index 0 = bytes.getD index 0 := by
  rw [List.getD_eq_getElem?_getD, List.getD_eq_getElem?_getD, List.getElem?_take_of_lt inside]

theorem behindHeader_eq {buffer : List UInt8} (header : Nat) {length : Nat}
    (inside : length ≤ buffer.length) :
    behindHeader buffer header length =
      .ok (if length ≤ header then none else some ((buffer.take length).drop header)) := by
  unfold behindHeader
  split
  · rfl
  · obtain ⟨part, taken, same⟩ := Checked.slice_of_le buffer header length (by omega) inside
    rw [taken, ← same]
    rfl

/-- Only the bytes that were received count, and no index is out of range. -/
theorem decapsulate_eq {buffer : List UInt8} {length : Nat} (inside : length ≤ buffer.length) :
    decapsulate buffer length = .ok (content (buffer.take length)) := by
  have size : (buffer.take length).length = length := List.length_take_of_le inside
  unfold decapsulate content headerOf
  rw [size]
  by_cases short : length < 10
  · rw [if_pos short, if_pos (Or.inl short)]
  · rw [if_neg short, Checked.get_of_lt 0 (by omega), Checked.get_of_lt 0 (by omega),
      Checked.get_of_lt 0 (by omega), getD_take (by omega), getD_take (by omega),
      getD_take (by omega)]
    simp only [Checked.ok_bind, behindHeader_eq _ inside]
    by_cases whole : buffer.getD 2 0 = 0
    · rw [if_neg (not_not.mpr whole), if_neg (not_or.mpr ⟨short, not_not.mpr whole⟩)]
      by_cases ipv4 : buffer.getD 3 0 = atypIpv4
      · rw [if_pos ipv4, if_pos ipv4]
        rfl
      · rw [if_neg ipv4, if_neg ipv4]
        by_cases ipv6 : buffer.getD 3 0 = atypIpv6
        · rw [if_pos ipv6, if_pos ipv6]
          rfl
        · rw [if_neg ipv6, if_neg ipv6]
          by_cases domain : buffer.getD 3 0 = atypDomain
          · rw [if_pos domain, if_pos domain]
            rfl
          · rw [if_neg domain, if_neg domain]
            rfl
    · rw [if_pos whole, if_pos (Or.inr whole)]

theorem length_header (destination : InetAddress) (port : Nat) (payload : List UInt8) :
    (encapsulate destination port payload).length =
      6 + destination.address.length + payload.length := by
  unfold encapsulate
  simp only [List.length_append, List.length_cons, List.length_nil]
  omega

/-- What has been put behind a header is what stands behind it. -/
theorem content_encapsulate (destination : InetAddress) (port : Nat) {payload : List UInt8}
    (nonempty : payload ≠ []) :
    content (encapsulate destination port payload) = some payload := by
  have size := length_header destination port payload
  have some_ := List.length_pos_of_ne_nil nonempty
  have header : headerOf (encapsulate destination port payload) =
      some (6 + destination.address.length) := by
    rcases destination.sized with four | sixteen
    · rw [four]
      simp [headerOf, encapsulate, four, atypIpv4]
    · rw [sixteen]
      simp [headerOf, encapsulate, sixteen, atypIpv4, atypIpv6]
  have front : (encapsulate destination port payload).drop (6 + destination.address.length) =
      payload := by
    unfold encapsulate
    apply List.drop_left'
    simp only [List.length_append, List.length_cons, List.length_nil]
    omega
  have frag : (encapsulate destination port payload).getD 2 0 = 0 := rfl
  have long : ¬ ((encapsulate destination port payload).length < 10 ∨
      (encapsulate destination port payload).getD 2 0 ≠ 0) := by
    rw [frag, size, not_or]
    refine ⟨?_, not_not.mpr rfl⟩
    rcases destination.sized with four | sixteen <;> omega
  rw [content, if_neg long, header, Option.bind_some, if_neg (by omega), front]

end Header

section Pump

/-- A datagram that fits into the buffer, or has no header that is read. -/
def Fits (datagram : List UInt8) : Prop :=
  datagram.length ≤ udpBuffer ∨ datagram.getD 2 0 ≠ 0 ∨
    datagram.getD 3 0 ∉ [atypIpv4, atypDomain, atypIpv6]

/-- Nothing is written for the datagram, or its complete payload. -/
def Intact (client : Client) (datagram : List UInt8) (written : Option (List UInt8)) : Prop :=
  written = none ∨
    ∃ payload, content datagram = some payload ∧ written = some (frame client payload)

theorem length_frame (client : Client) (payload : List UInt8) :
    (frame client payload).length = 5 + client.clientAddress.length + payload.length := by
  unfold frame udpgwBody
  simp only [List.length_cons, List.length_append]
  omega

theorem length_receive (buffer datagram : List UInt8) :
    (receive buffer datagram).1.length = buffer.length := by
  rw [receive, List.length_append, List.length_take, List.length_drop]
  omega

theorem take_receive (buffer datagram : List UInt8) :
    (receive buffer datagram).1.take (receive buffer datagram).2 =
      datagram.take buffer.length := by
  unfold receive
  apply List.take_left'
  rw [List.length_take, Nat.min_comm]

/-- What has come before does not matter: each datagram is cut to the buffer, and read. -/
theorem pumpAssociation_eq (client : Client) (datagrams : List (List UInt8))
    (buffer : List UInt8) :
    pumpAssociation client buffer datagrams = .ok (datagrams.map fun datagram =>
      (content (datagram.take buffer.length)).map (frame client)) := by
  induction datagrams generalizing buffer with
  | nil => rfl
  | cons datagram rest ih =>
      have inside : (receive buffer datagram).2 ≤ (receive buffer datagram).1.length := by
        rw [length_receive]
        exact Nat.min_le_right _ _
      have next := ih (receive buffer datagram).1
      rw [length_receive] at next
      rw [pumpAssociation, decapsulate_eq inside, take_receive, next]
      rfl

theorem headerOf_eq_none_iff (datagram : List UInt8) :
    headerOf datagram = none ↔ datagram.getD 3 0 ∉ [atypIpv4, atypDomain, atypIpv6] := by
  unfold headerOf
  simp only [List.mem_cons, List.not_mem_nil, or_false, not_or]
  split
  · rename_i ipv4
    exact iff_of_false (Option.some_ne_none _) fun others => others.1 ipv4
  split
  · rename_i ipv6
    exact iff_of_false (Option.some_ne_none _) fun others => others.2.2 ipv6
  split
  · rename_i domain
    exact iff_of_false (Option.some_ne_none _) fun others => others.2.1 domain
  · rename_i ipv4 ipv6 domain
    exact iff_of_true rfl ⟨ipv4, domain, ipv6⟩

theorem headerOf_le {datagram : List UInt8} {header : Nat}
    (read : headerOf datagram = some header) : header ≤ 262 := by
  unfold headerOf at read
  have small := (datagram.getD 4 0).toNat_lt
  dsimp only at read
  split at read
  · cases read
    decide
  split at read
  · cases read
    decide
  split at read
  · cases read
    omega
  · cases read

/-- No header is as long as this. -/
theorem content_long {bytes : List UInt8} (long : 262 < bytes.length) :
    content bytes =
      if bytes.getD 2 0 ≠ 0 then none
      else (headerOf bytes).map fun header => bytes.drop header := by
  unfold content
  by_cases whole : bytes.getD 2 0 ≠ 0
  · rw [if_pos whole, if_pos (Or.inr whole)]
  · rw [if_neg whole, if_neg (not_or.mpr ⟨by omega, whole⟩)]
    cases read : headerOf bytes with
    | none => rfl
    | some header =>
        have short := headerOf_le read
        rw [Option.bind_some, if_neg (by omega)]
        rfl

theorem headerOf_take (datagram : List UInt8) :
    headerOf (datagram.take udpBuffer) = headerOf datagram := by
  have third : (datagram.take udpBuffer).getD 3 0 = datagram.getD 3 0 := getD_take (by decide)
  have fourth : (datagram.take udpBuffer).getD 4 0 = datagram.getD 4 0 := getD_take (by decide)
  rw [headerOf, headerOf, third, fourth]

theorem intact_iff (client : Client) (datagram : List UInt8) :
    Intact client datagram ((content (datagram.take udpBuffer)).map (frame client)) ↔
      Fits datagram := by
  by_cases short : datagram.length ≤ udpBuffer
  · rw [List.take_of_length_le short]
    refine iff_of_true ?_ (Or.inl short)
    cases complete : content datagram with
    | none => exact Or.inl rfl
    | some payload => exact Or.inr ⟨payload, complete, rfl⟩
  · have size : (datagram.take udpBuffer).length = udpBuffer :=
      List.length_take_of_le (Nat.le_of_not_le short)
    have frag : (datagram.take udpBuffer).getD 2 0 = datagram.getD 2 0 := getD_take (by decide)
    unfold Fits
    rw [content_long (by rw [size]; decide), frag, headerOf_take, or_iff_right short,
      ← headerOf_eq_none_iff]
    by_cases whole : datagram.getD 2 0 ≠ 0
    · rw [if_pos whole]
      exact iff_of_true (Or.inl rfl) (Or.inl whole)
    · rw [if_neg whole, or_iff_right whole]
      cases read : headerOf datagram with
      | none => exact iff_of_true (Or.inl rfl) rfl
      | some header =>
          refine iff_of_false ?_ (Option.some_ne_none _)
          rintro (dropped | ⟨payload, complete, written⟩)
          · cases dropped
          · have small := headerOf_le read
            unfold udpBuffer at short size
            rw [content_long (by omega), if_neg whole, read] at complete
            have lengths := congrArg List.length (Option.some.inj written)
            rw [← Option.some.inj complete, length_frame, length_frame, List.length_drop,
              List.length_drop] at lengths
            unfold udpBuffer at lengths
            omega

theorem decapsulate_take {buffer : List UInt8} {length : Nat} (inside : length ≤ buffer.length) :
    decapsulate buffer length = decapsulate (buffer.take length) length ∧
      Safe (decapsulate (buffer.take length) length) := by
  have size : length ≤ (buffer.take length).length := le_of_eq (List.length_take_of_le inside).symm
  rw [decapsulate_eq inside, decapsulate_eq size, List.take_take, Nat.min_self]
  exact ⟨rfl, Checked.safe_ok _⟩

/-- A payload comes back from its header, no byte is read that was not received, and what is written
for the datagrams that come in is their complete payloads just when each of them fits. -/
theorem relayed_iff (client : Client) (datagrams : List (List UInt8)) :
    (∀ (destination : InetAddress) (port : Nat) (payload : List UInt8), payload ≠ [] →
      decapsulate (encapsulate destination port payload)
        (encapsulate destination port payload).length = .ok (some payload)) ∧
    (∀ (buffer : List UInt8) (length : Nat), length ≤ buffer.length →
      decapsulate buffer length = decapsulate (buffer.take length) length ∧
        Safe (decapsulate (buffer.take length) length)) ∧
    ∃ written, pumpAssociation client (List.replicate udpBuffer 0) datagrams = .ok written ∧
      (List.Forall₂ (Intact client) datagrams written ↔
        ∀ datagram ∈ datagrams, Fits datagram) := by
  refine ⟨?_, fun _ _ inside => decapsulate_take inside, ?_⟩
  · intro destination port payload nonempty
    rw [decapsulate_eq (Nat.le_refl _), List.take_length, content_encapsulate _ _ nonempty]
  · refine ⟨_, pumpAssociation_eq client datagrams _, ?_⟩
    rw [List.length_replicate, List.forall₂_map_right_iff, List.forall₂_same]
    exact forall₂_congr fun datagram _ => intact_iff client datagram

private def resolverClient : Client where
  conid := 1
  isIpv6 := false
  clientAddress := [1, 1, 1, 1, 0, 53]

/-- A reply from 1.1.1.1 with so many bytes behind its header. -/
private def reply (size : Nat) : List UInt8 :=
  [0, 0, 0, 1, 1, 1, 1, 1, 0, 53] ++ List.replicate size 7

private theorem content_reply {size : Nat} (long : 262 < size) :
    content (reply size) = some (List.replicate size 7) := by
  have far : 262 < (reply size).length := by
    rw [reply, List.length_append, List.length_replicate]
    omega
  have frag : (reply size).getD 2 0 = 0 := rfl
  have header : headerOf (reply size) = some 10 := rfl
  rw [content_long far, if_neg (not_not.mpr frag), header]
  rfl

/-- Of a reply of 4097 bytes the payload is written without its last byte. -/
theorem pumpAssociation_reply :
    content (reply 4087) = some (List.replicate 4087 7) ∧
      pumpAssociation resolverClient (List.replicate udpBuffer 0) [reply 4087] =
        .ok [some (frame resolverClient (List.replicate 4086 7))] := by
  have cut : (reply 4087).take udpBuffer = reply 4086 := by
    rw [reply, List.take_append, List.take_replicate]
    rfl
  refine ⟨content_reply (by decide), ?_⟩
  rw [pumpAssociation_eq, List.length_replicate, List.map_singleton, cut,
    content_reply (by decide)]
  rfl

end Pump

end MolidoVpn.Shard.UdpRelay
