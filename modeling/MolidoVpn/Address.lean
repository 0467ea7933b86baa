import Mathlib.Data.UInt

/-!
Addresses of the standard library, shared by the relay and the user-space
stack. The conversions between these and the addresses of the TCP/IP library
change the type only.
-/

namespace MolidoVpn

structure Ipv4Addr where
  a : UInt8
  b : UInt8
  c : UInt8
  d : UInt8
  deriving DecidableEq, Repr

/-- `Ipv4Addr::is_private`: 10/8, 172.16/12 and 192.168/16. -/
def Ipv4Addr.isPrivate (ip : Ipv4Addr) : Bool :=
  ip.a == 10 || (ip.a == 172 && 16 ≤ ip.b && ip.b ≤ 31) || (ip.a == 192 && ip.b == 168)

structure Ipv6Addr where
  octets : List UInt8
  length_eq : octets.length = 16
  deriving DecidableEq

inductive IpAddr where
  | v4 (ip : Ipv4Addr)
  | v6 (ip : Ipv6Addr)
  deriving DecidableEq

structure SocketAddr where
  ip : IpAddr
  port : UInt16
  deriving DecidableEq

end MolidoVpn
