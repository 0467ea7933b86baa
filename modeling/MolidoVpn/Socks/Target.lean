import MolidoVpn.Lib.Utf8
import MolidoVpn.Socks.Routing

/-!
What a SOCKS5 client names as its destination: the address of a request on the
control connection, and of a datagram of an association.
-/

namespace MolidoVpn.Socks

open Routing (Host)
open Utf8 (encode fromUtf8Lossy)
open Varint (Reader getU8 getBytes)

def atypV4 : UInt8 := 0x01

def atypDomain : UInt8 := 0x03

def atypV6 : UInt8 := 0x04

inductive Target where
  | ip (ip : IpAddr)
  | domain (name : List Char)
  deriving DecidableEq

def hostOf : Target → Host
  | .domain name => .domain name
  | .ip ip => .ip ip

/-- `u16::from_be_bytes` of the next two bytes. -/
def getPort : Reader UInt16
  | hi :: lo :: rest => some (UInt16.ofNat (hi.toNat * 256 + lo.toNat), rest)
  | _ => none

def portBytes (port : UInt16) : List UInt8 :=
  [UInt8.ofNat (port.toNat / 256), UInt8.ofNat (port.toNat % 256)]

/-- The address itself; both readers below take it the same way. -/
def getTarget (atyp : UInt8) : Reader Target := fun bytes =>
  if atyp = atypV4 then
    match bytes with
    | a :: b :: c :: d :: rest => some (.ip (.v4 ⟨a, b, c, d⟩), rest)
    | _ => none
  else if atyp = atypV6 then
    if length : (bytes.take 16).length = 16 then
      some (.ip (.v6 ⟨bytes.take 16, length⟩), bytes.drop 16)
    else none
  else if atyp = atypDomain then
    match getU8 bytes with
    | none => none
    | some (len, rest) =>
        (getBytes len.toNat rest).map fun (name, rest) => (.domain (fromUtf8Lossy name), rest)
  else none

/-- `read_target` on the bytes that follow the head of the request. -/
def readTarget (atyp : UInt8) : Reader (Target × UInt16) := fun bytes =>
  match getTarget atyp bytes with
  | none => none
  | some (target, rest) => (getPort rest).map fun (port, rest) => ((target, port), rest)

/-- `parse_udp_request`: target, port and payload. -/
def parseUdpRequest : List UInt8 → Option (Target × UInt16 × List UInt8)
  | _ :: _ :: frag :: atyp :: rest =>
      if frag ≠ 0 then none
      else (readTarget atyp rest).map fun ((target, port), payload) => (target, port, payload)
  | _ => none

theorem getPort_portBytes (port : UInt16) (rest : List UInt8) :
    getPort (portBytes port ++ rest) = some (port, rest) := by
  have bound := port.toNat_lt
  have hi : (UInt8.ofNat (port.toNat / 256)).toNat = port.toNat / 256 := by
    rw [UInt8.toNat_ofNat']
    omega
  have lo : (UInt8.ofNat (port.toNat % 256)).toNat = port.toNat % 256 := by
    rw [UInt8.toNat_ofNat']
    omega
  simp only [portBytes, List.cons_append, List.nil_append, getPort, hi, lo]
  rw [Nat.div_add_mod', UInt16.ofNat_toNat]

/-- The type and the bytes of an address. -/
def ipBytes : IpAddr → UInt8 × List UInt8
  | .v4 ip => (atypV4, [ip.a, ip.b, ip.c, ip.d])
  | .v6 ip => (atypV6, ip.octets)

theorem readTarget_ip (ip : IpAddr) (port : UInt16) (rest : List UInt8) :
    readTarget (ipBytes ip).1 ((ipBytes ip).2 ++ (portBytes port ++ rest)) =
      some ((.ip ip, port), rest) := by
  have target : getTarget (ipBytes ip).1 ((ipBytes ip).2 ++ (portBytes port ++ rest)) =
      some (.ip ip, portBytes port ++ rest) := by
    cases ip with
    | v4 ip => rfl
    | v6 ip =>
        have taken : (ip.octets ++ (portBytes port ++ rest)).take 16 = ip.octets := by
          rw [← ip.length_eq, List.take_left]
        have dropped : (ip.octets ++ (portBytes port ++ rest)).drop 16 =
            portBytes port ++ rest := by
          rw [← ip.length_eq, List.drop_left]
        have other : atypV6 ≠ atypV4 := by decide
        simp only [ipBytes, getTarget, if_neg other, if_true, taken, dropped, ip.length_eq, dite_true]
  rw [readTarget, target]
  simp only [getPort_portBytes, Option.map_some]

theorem readTarget_domain {name : List UInt8} (fits : name.length < 256) (port : UInt16)
    (rest : List UInt8) :
    readTarget atypDomain
        (UInt8.ofNat name.length :: (name ++ (portBytes port ++ rest))) =
      some ((.domain (fromUtf8Lossy name), port), rest) := by
  have length : (UInt8.ofNat name.length).toNat = name.length := by
    rw [UInt8.toNat_ofNat']
    omega
  have target : getTarget atypDomain
      (UInt8.ofNat name.length :: (name ++ (portBytes port ++ rest))) =
      some (.domain (fromUtf8Lossy name), portBytes port ++ rest) := by
    have notV4 : atypDomain ≠ atypV4 := by decide
    have notV6 : atypDomain ≠ atypV6 := by decide
    simp only [getTarget, if_neg notV4, if_neg notV6, if_true, getU8, length,
      Varint.getBytes_append, Option.map_some]
  rw [readTarget, target]
  simp only [getPort_portBytes, Option.map_some]

end MolidoVpn.Socks
