import MolidoVpn.Lib.Varint
import MolidoVpn.Socks.IpText

/-!
The routing rules of `routing.rs`: what a matcher says about a host and a port,
and the decision of a rule set. The lower-casing of `str` is a parameter: it
rests on the tables of Unicode.
-/

namespace MolidoVpn.Routing

open Text (splitAround)
open Varint (bigEndian)

inductive Action where
  | proxy
  | direct
  | block
  deriving DecidableEq, Repr

inductive Host where
  | domain (name : List Char)
  | ip (ip : IpAddr)
  deriving DecidableEq

/-- `IpNet` -/
structure IpNet where
  addr : IpAddr
  prefixLen : Nat

def ipv4Number (ip : Ipv4Addr) : Nat := bigEndian [ip.a, ip.b, ip.c, ip.d]

/-- Between the network and the broadcast address, which share the bits of the prefix. -/
def IpNet.contains (net : IpNet) (ip : IpAddr) : Bool :=
  match net.addr, ip with
  | .v4 net4, .v4 ip =>
      let host := 2 ^ (32 - net.prefixLen)
      ipv4Number net4 / host == ipv4Number ip / host
  | .v6 net6, .v6 ip =>
      let host := 2 ^ (128 - net.prefixLen)
      bigEndian net6.octets / host == bigEndian ip.octets / host
  | _, _ => false

def isPrivateV4 (ip : Ipv4Addr) : Bool :=
  ip.isPrivate || ip.a == 127 || (ip.a == 169 && ip.b == 254) ||
    (ip.a == 255 && ip.b == 255 && ip.c == 255 && ip.d == 255) ||
    ((ip.a == 192 && ip.b == 0 && ip.c == 2) || (ip.a == 198 && ip.b == 51 && ip.c == 100) ||
      (ip.a == 203 && ip.b == 0 && ip.c == 113)) ||
    (ip.a == 0 && ip.b == 0 && ip.c == 0 && ip.d == 0) ||
    (ip.a == 100 && (64 ≤ ip.b && ip.b < 128))

def isPrivateV6 (ip : Ipv6Addr) : Bool :=
  let first := (IpText.segments ip).getD 0 0
  ip.octets == List.replicate 15 0 ++ [1] || ip.octets == List.replicate 16 0 ||
    first &&& 0xfe00 == 0xfc00 || first &&& 0xffc0 == 0xfe80

/-- `is_private` -/
def isPrivate : IpAddr → Bool
  | .v4 ip => isPrivateV4 ip
  | .v6 ip => isPrivateV6 ip

/-- A regular expression is what it matches. -/
inductive Matcher where
  | domainSuffix (suffix : List Char)
  | domainFull (full : List Char)
  | domainKeyword (needle : List Char)
  | domainRegex (isMatch : List Char → Bool)
  | net (net : IpNet)
  | ports (lo hi : UInt16)
  | isPrivate

def eqIgnoreAsciiCase (text other : List Char) : Bool :=
  text.map Char.toLower == other.map Char.toLower

section Matching

variable (toLowercase : List Char → List Char)

def Matcher.matches (host : Host) (port : UInt16) : Matcher → Bool
  | .ports lo hi => lo ≤ port && port ≤ hi
  | .isPrivate =>
      match host with
      | .ip ip => Routing.isPrivate ip
      | .domain name => eqIgnoreAsciiCase name "localhost".toList
  | .net network =>
      match host with
      | .ip ip => network.contains ip
      | .domain _ => false
  | .domainSuffix suffix =>
      match host with
      | .domain name =>
          toLowercase name == suffix || ('.' :: suffix).isSuffixOf (toLowercase name)
      | .ip _ => false
  | .domainFull full =>
      match host with
      | .domain name => eqIgnoreAsciiCase name full
      | .ip _ => false
  | .domainKeyword needle =>
      match host with
      | .domain name => (splitAround needle (toLowercase name)).isSome
      | .ip _ => false
  | .domainRegex isMatch =>
      match host with
      | .domain name => isMatch name
      | .ip _ => false

structure RuleSet where
  block : List Matcher
  direct : List Matcher

def RuleSet.decide (rules : RuleSet) (host : Host) (port : UInt16) : Action :=
  if rules.block.any (Matcher.matches toLowercase host port) then .block
  else if rules.direct.any (Matcher.matches toLowercase host port) then .direct
  else .proxy

end Matching

end MolidoVpn.Routing
