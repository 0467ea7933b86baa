import MolidoVpn.Lib.Framing
import MolidoVpn.Lib.Varint

/-!
The capsules of the CONNECT-IP stream: their encoding, the payloads of
ADDRESS_ASSIGN and ROUTE_ADVERTISEMENT, and the parser that takes capsules off
a reassembly buffer.
-/

namespace MolidoVpn.Masque

open Framing (Splitter)
open Varint (Reader getU8 getBytes getVarint putVarint)

def capsuleDatagram : Nat := 0x00

def capsuleAddressAssign : Nat := 0x01

def capsuleAddressRequest : Nat := 0x02

def capsuleRouteAdvertisement : Nat := 0x03

structure AssignedAddress where
  requestId : Nat
  ipVersion : UInt8
  address : List UInt8
  prefixLen : UInt8
  deriving DecidableEq, Repr

structure RouteAdvertisement where
  ipVersion : UInt8
  start : List UInt8
  stop : List UInt8
  protocol : UInt8
  deriving DecidableEq, Repr

inductive Capsule where
  | addressAssign (entries : List AssignedAddress)
  | addressRequest
  | datagram (payload : List UInt8)
  | routeAdvertisement (routes : List RouteAdvertisement)
  | unknown (kind : Nat) (payload : List UInt8)
  deriving DecidableEq, Repr

/-- The errors of a payload, as `AetherError::Capsule` carries them. -/
inductive CapsuleError where
  | bufferTooShort
  | badIpVersion (version : UInt8)
  deriving DecidableEq, Repr

def CapsuleError.message : CapsuleError → String
  | .bufferTooShort => "BufferTooShortError"
  | .badIpVersion version => s!"bad ip version {version.toNat}"

/-- A capsule on the wire. The varint writer aborts on a value of 2^62 or more. -/
def encodeCapsule (kind : Nat) (value : List UInt8) : Option (List UInt8) :=
  if kind < 2 ^ 62 ∧ value.length < 2 ^ 62 then
    some (putVarint kind ++ putVarint value.length ++ value)
  else none

/-- `map_err(oct)?` -/
def need {Value : Type} : Option Value → Except CapsuleError Value
  | some value => .ok value
  | none => .error .bufferTooShort

def addrLen (version : UInt8) : Except CapsuleError Nat :=
  if version = 4 then .ok 4
  else if version = 6 then .ok 16
  else .error (.badIpVersion version)

/-- One turn of the loop of `parse_address_assign`. -/
def parseAssignedAddress (b : List UInt8) : Except CapsuleError (AssignedAddress × List UInt8) := do
  let (requestId, b) ← need (getVarint b)
  let (ipVersion, b) ← need (getU8 b)
  let len ← addrLen ipVersion
  let (address, b) ← need (getBytes len b)
  let (prefixLen, b) ← need (getU8 b)
  return ({ requestId, ipVersion, address, prefixLen }, b)

/-- One turn of the loop of `parse_route_advertisement`. -/
def parseRoute (b : List UInt8) : Except CapsuleError (RouteAdvertisement × List UInt8) := do
  let (ipVersion, b) ← need (getU8 b)
  let len ← addrLen ipVersion
  let (start, b) ← need (getBytes len b)
  let (stop, b) ← need (getBytes len b)
  let (protocol, b) ← need (getU8 b)
  return ({ ipVersion, start, stop, protocol }, b)

/-- The `while b.cap() > 0` loop; every turn takes a byte, so that many turns are enough. -/
def parseEntries {Entry : Type} (one : List UInt8 → Except CapsuleError (Entry × List UInt8)) :
    Nat → List UInt8 → Except CapsuleError (List Entry)
  | 0, _ => .ok []
  | turns + 1, b =>
      if b.isEmpty then .ok []
      else do
        let (entry, b) ← one b
        let entries ← parseEntries one turns b
        return entry :: entries

/-- The whole loop. -/
def parseAll {Entry : Type} (one : List UInt8 → Except CapsuleError (Entry × List UInt8))
    (value : List UInt8) : Except CapsuleError (List Entry) :=
  parseEntries one value.length value

def parseAddressAssign (value : List UInt8) : Except CapsuleError (List AssignedAddress) :=
  parseAll parseAssignedAddress value

def parseRouteAdvertisement (value : List UInt8) :
    Except CapsuleError (List RouteAdvertisement) :=
  parseAll parseRoute value

/-- What a complete capsule means. -/
def decodeCapsule (kind : Nat) (value : List UInt8) : Except CapsuleError Capsule :=
  if kind = capsuleAddressAssign then (parseAddressAssign value).map .addressAssign
  else if kind = capsuleAddressRequest then .ok .addressRequest
  else if kind = capsuleRouteAdvertisement then
    (parseRouteAdvertisement value).map .routeAdvertisement
  else if kind = capsuleDatagram then .ok (.datagram value)
  else .ok (.unknown kind value)

/-- Kind and value of the first capsule in a buffer, if all of it is there. -/
def nextFrame (buf : List UInt8) : Option ((Nat × List UInt8) × List UInt8) :=
  match getVarint buf with
  | none => none
  | some (kind, b) =>
      match getVarint b with
      | none => none
      | some (len, b) => (getBytes len b).map fun (value, b) => ((kind, value), b)

structure CapsuleParser where
  buf : List UInt8
  deriving DecidableEq, Repr

def maxCapsuleBuf : Nat := 256 * 1024

namespace CapsuleParser

def new : CapsuleParser := { buf := [] }

def push (parser : CapsuleParser) (data : List UInt8) : CapsuleParser :=
  if parser.buf.length + data.length > maxCapsuleBuf then { buf := [] }
  else { buf := parser.buf ++ data }

/-- `Ok(None)` until a capsule is complete; its bytes leave the buffer before its payload is
looked at. -/
def next (parser : CapsuleParser) : Except CapsuleError (Option Capsule) × CapsuleParser :=
  match nextFrame parser.buf with
  | none => (.ok none, parser)
  | some ((kind, value), rest) => ((decodeCapsule kind value).map some, { buf := rest })

end CapsuleParser

section Frames

theorem nextFrame_stable (bytes : List UInt8) (frame : Nat × List UInt8) (rest more : List UInt8)
    (complete : nextFrame bytes = some (frame, rest)) :
    nextFrame (bytes ++ more) = some (frame, rest ++ more) := by
  unfold nextFrame at complete ⊢
  cases kind : getVarint bytes with
  | none =>
      rw [kind] at complete
      cases complete
  | some afterKind =>
      rw [kind] at complete
      rw [Varint.getVarint_stable bytes _ _ more kind]
      simp only at complete ⊢
      cases len : getVarint afterKind.2 with
      | none =>
          rw [len] at complete
          cases complete
      | some afterLen =>
          rw [len] at complete
          rw [Varint.getVarint_stable afterKind.2 _ _ more len]
          simp only at complete ⊢
          obtain ⟨value, taken, same⟩ := Option.map_eq_some_iff.mp complete
          rw [Varint.getBytes_stable afterLen.1 afterLen.2 _ _ more taken]
          simp only [Prod.mk.injEq] at same
          obtain ⟨rfl, rfl⟩ := same
          rfl

theorem nextFrame_advances (bytes : List UInt8) (frame : Nat × List UInt8) (rest : List UInt8)
    (complete : nextFrame bytes = some (frame, rest)) : rest.length < bytes.length := by
  unfold nextFrame at complete
  cases kind : getVarint bytes with
  | none =>
      rw [kind] at complete
      cases complete
  | some afterKind =>
      have first := Varint.getVarint_advances bytes _ _ kind
      rw [kind] at complete
      simp only at complete
      cases len : getVarint afterKind.2 with
      | none =>
          rw [len] at complete
          cases complete
      | some afterLen =>
          have second := Varint.getVarint_advances afterKind.2 _ _ len
          rw [len] at complete
          obtain ⟨value, taken, same⟩ := Option.map_eq_some_iff.mp complete
          simp only [Prod.mk.injEq] at same
          have third := Varint.getBytes_length taken
          rw [← same.2]
          omega

/-- The capsules of a stream of bytes. -/
def frames : Splitter UInt8 (Nat × List UInt8) :=
  { next := nextFrame
    stable := nextFrame_stable
    advances := nextFrame_advances }

theorem nextFrame_header {kind len : Nat} (kindFits : kind < 2 ^ 62) (lenFits : len < 2 ^ 62)
    (rest : List UInt8) :
    nextFrame (putVarint kind ++ putVarint len ++ rest) =
      (getBytes len rest).map fun (value, b) => ((kind, value), b) := by
  unfold nextFrame
  rw [List.append_assoc, Varint.getVarint_putVarint kindFits]
  simp only
  rw [Varint.getVarint_putVarint lenFits]

/-- An encoded capsule is taken off the front of whatever follows it. -/
theorem nextFrame_encodeCapsule {kind : Nat} {value bytes : List UInt8}
    (encoded : encodeCapsule kind value = some bytes) (rest : List UInt8) :
    nextFrame (bytes ++ rest) = some ((kind, value), rest) := by
  unfold encodeCapsule at encoded
  split at encoded
  · rename_i fits
    cases encoded
    rw [List.append_assoc, nextFrame_header fits.1 fits.2, Varint.getBytes_append, Option.map_some]
  · cases encoded

end Frames

section Payloads

variable {Entry : Type} {one : List UInt8 → Except CapsuleError (Entry × List UInt8)}

/-- Entries that take at least one byte each never run out of turns. -/
private theorem parseEntries_enough
    (advances : ∀ b entry rest, one b = .ok (entry, rest) → rest.length < b.length)
    {turns : Nat} {b : List UInt8} (enough : b.length ≤ turns) :
    parseEntries one turns b = parseAll one b := by
  unfold parseAll
  induction turns using Nat.strongRecOn generalizing b with
  | ind turns ih =>
      cases turns with
      | zero => rw [Nat.le_zero.mp enough]
      | succ turns =>
          cases b with
          | nil => rfl
          | cons byte tail =>
              rw [List.length_cons] at enough ⊢
              rw [parseEntries, parseEntries]
              cases taken : one (byte :: tail) with
              | error error => rfl
              | ok result =>
                  have shorter := advances _ result.1 result.2 taken
                  rw [List.length_cons] at shorter
                  have first := ih turns (by omega) (by omega : result.2.length ≤ turns)
                  have second := ih tail.length (by omega) (by omega : result.2.length ≤ tail.length)
                  simp only [bind, Except.bind, first, second]

/-- The entries of a payload are read back when each of them is. -/
theorem parseAll_flatMap {encode : Entry → List UInt8}
    (advances : ∀ b entry rest, one b = .ok (entry, rest) → rest.length < b.length)
    {entries : List Entry} (read : ∀ entry ∈ entries, ∀ rest,
      one (encode entry ++ rest) = .ok (entry, rest)) :
    parseAll one (entries.flatMap encode) = .ok entries := by
  induction entries with
  | nil => rfl
  | cons entry rest ih =>
      have first := read entry List.mem_cons_self (rest.flatMap encode)
      have later := ih fun other member => read other (List.mem_cons_of_mem entry member)
      have shorter := advances _ entry _ first
      rw [List.flatMap_cons, parseAll]
      cases length : (encode entry ++ rest.flatMap encode).length with
      | zero => omega
      | succ turns =>
          have nonempty : (encode entry ++ rest.flatMap encode).isEmpty = false := by
            rw [List.isEmpty_eq_false_iff, ← List.length_pos_iff]
            omega
          rw [parseEntries, nonempty, first]
          simp only [bind, Except.bind, Bool.false_eq_true, if_false]
          rw [parseEntries_enough advances (by omega), later]
          rfl

private theorem need_ok {Value : Type} {read : Option Value} {value : Value}
    (result : need read = .ok value) : read = some value := by
  cases read with
  | none => cases result
  | some other =>
      cases result
      rfl

private theorem bind_ok {First Second : Type} {first : Except CapsuleError First}
    {then_ : First → Except CapsuleError Second} {value : Second}
    (result : (first >>= then_) = .ok value) :
    ∃ middle, first = .ok middle ∧ then_ middle = .ok value := by
  cases first with
  | error error => cases result
  | ok middle => exact ⟨middle, rfl, result⟩

private theorem getU8_advances {b rest : List UInt8} {byte : UInt8}
    (read : getU8 b = some (byte, rest)) : rest.length < b.length := by
  cases b with
  | nil => cases read
  | cons first tail =>
      cases read
      exact Nat.lt_succ_self _

theorem parseAssignedAddress_advances (b : List UInt8) (entry : AssignedAddress)
    (rest : List UInt8) (result : parseAssignedAddress b = .ok (entry, rest)) :
    rest.length < b.length := by
  obtain ⟨request, first, result⟩ := bind_ok result
  obtain ⟨version, second, result⟩ := bind_ok result
  obtain ⟨len, _, result⟩ := bind_ok result
  obtain ⟨address, third, result⟩ := bind_ok result
  obtain ⟨prefixLen, fourth, result⟩ := bind_ok result
  cases result
  have afterRequest := Varint.getVarint_advances _ _ _ (need_ok first)
  have afterVersion := getU8_advances (need_ok second)
  have afterAddress := Varint.getBytes_length (need_ok third)
  have afterPrefix := getU8_advances (need_ok fourth)
  omega

theorem parseRoute_advances (b : List UInt8) (route : RouteAdvertisement)
    (rest : List UInt8) (result : parseRoute b = .ok (route, rest)) :
    rest.length < b.length := by
  obtain ⟨version, first, result⟩ := bind_ok result
  obtain ⟨len, _, result⟩ := bind_ok result
  obtain ⟨start, second, result⟩ := bind_ok result
  obtain ⟨stop, third, result⟩ := bind_ok result
  obtain ⟨protocol, fourth, result⟩ := bind_ok result
  cases result
  have afterVersion := getU8_advances (need_ok first)
  have afterStart := Varint.getBytes_length (need_ok second)
  have afterStop := Varint.getBytes_length (need_ok third)
  have afterProtocol := getU8_advances (need_ok fourth)
  omega

/-- The length of an address fits its version. -/
def AddressFits (version : UInt8) (address : List UInt8) : Prop :=
  (version = 4 ∧ address.length = 4) ∨ (version = 6 ∧ address.length = 16)

theorem addrLen_of_fits {version : UInt8} {address : List UInt8}
    (fits : AddressFits version address) : addrLen version = .ok address.length := by
  rcases fits with ⟨rfl, length⟩ | ⟨rfl, length⟩ <;> rw [length] <;> rfl

/-- An entry of ADDRESS_ASSIGN on the wire. -/
def encodeAssignedAddress (entry : AssignedAddress) : List UInt8 :=
  putVarint entry.requestId ++ entry.ipVersion :: (entry.address ++ [entry.prefixLen])

/-- An entry of ROUTE_ADVERTISEMENT on the wire. -/
def encodeRoute (route : RouteAdvertisement) : List UInt8 :=
  route.ipVersion :: (route.start ++ (route.stop ++ [route.protocol]))

theorem parseAssignedAddress_encode {entry : AssignedAddress} (request : entry.requestId < 2 ^ 62)
    (fits : AddressFits entry.ipVersion entry.address) (rest : List UInt8) :
    parseAssignedAddress (encodeAssignedAddress entry ++ rest) = .ok (entry, rest) := by
  unfold parseAssignedAddress encodeAssignedAddress
  rw [List.append_assoc, Varint.getVarint_putVarint request]
  simp only [need, bind, Except.bind, List.cons_append, getU8, addrLen_of_fits fits,
    List.append_assoc, Varint.getBytes_append, List.nil_append]
  rfl

theorem parseRoute_encode {route : RouteAdvertisement}
    (startFits : AddressFits route.ipVersion route.start)
    (stopFits : AddressFits route.ipVersion route.stop) (rest : List UInt8) :
    parseRoute (encodeRoute route ++ rest) = .ok (route, rest) := by
  have same : route.start.length = route.stop.length := by
    have lengths := (addrLen_of_fits startFits).symm.trans (addrLen_of_fits stopFits)
    exact Except.ok.inj lengths
  have stop : getBytes route.start.length (route.stop ++ (route.protocol :: rest)) =
      some (route.stop, route.protocol :: rest) := by
    rw [same]
    exact Varint.getBytes_append _ _
  unfold parseRoute encodeRoute
  simp only [need, bind, Except.bind, List.cons_append, getU8, addrLen_of_fits startFits,
    List.append_assoc, Varint.getBytes_append, List.nil_append, stop]
  rfl

/-- What an ADDRESS_ASSIGN was built from. -/
theorem decodeCapsule_addressAssign {entries : List AssignedAddress}
    (wellFormed : ∀ entry ∈ entries,
      entry.requestId < 2 ^ 62 ∧ AddressFits entry.ipVersion entry.address) :
    decodeCapsule capsuleAddressAssign (entries.flatMap encodeAssignedAddress) =
      .ok (.addressAssign entries) := by
  have parsed : parseAddressAssign (entries.flatMap encodeAssignedAddress) = .ok entries :=
    parseAll_flatMap parseAssignedAddress_advances fun entry member =>
      parseAssignedAddress_encode (wellFormed entry member).1 (wellFormed entry member).2
  rw [decodeCapsule, if_pos rfl, parsed]
  rfl

/-- What a ROUTE_ADVERTISEMENT was built from. -/
theorem decodeCapsule_routeAdvertisement {routes : List RouteAdvertisement}
    (wellFormed : ∀ route ∈ routes,
      AddressFits route.ipVersion route.start ∧ AddressFits route.ipVersion route.stop) :
    decodeCapsule capsuleRouteAdvertisement (routes.flatMap encodeRoute) =
      .ok (.routeAdvertisement routes) := by
  have parsed : parseRouteAdvertisement (routes.flatMap encodeRoute) = .ok routes :=
    parseAll_flatMap parseRoute_advances fun route member =>
      parseRoute_encode (wellFormed route member).1 (wellFormed route member).2
  rw [decodeCapsule, if_neg (by decide), if_neg (by decide), if_pos rfl, parsed]
  rfl

end Payloads

end MolidoVpn.Masque
