import MolidoVpn.Lib.Checked
import MolidoVpn.Socks.Question

/-!
The messages of the domain name system as they are on the wire: names with and without a
compression pointer, and the records of the answer section with the data of the three types that
the client looks at.
-/

namespace MolidoVpn.Dns

open Tun (wordBytes octets)
open Utf8 (fromUtf8Lossy)

def typeA : UInt16 := 1

def typeTxt : UInt16 := 16

def typeHttps : UInt16 := 65

def keyEch : UInt16 := 5

/-- A name ends at the root or goes on at another place of the message. -/
inductive NameEnd where
  | root
  | pointer (place : Fin 16384)

def NameEnd.bytes : NameEnd → List UInt8
  | .root => [0x00]
  | .pointer place => [UInt8.ofNat (192 + place / 256), UInt8.ofNat (place % 256)]

structure Name where
  labels : List (List UInt8)
  fits : ∀ label ∈ labels, Fits label
  ending : NameEnd

def Name.bytes (name : Name) : List UInt8 := name.labels.flatMap labelBytes ++ name.ending.bytes

structure Param where
  key : UInt16
  value : List UInt8
  short : value.length < 65536

def Param.bytes (param : Param) : List UInt8 :=
  wordBytes param.key ++ wordBytes (UInt16.ofNat param.value.length) ++ param.value

/-- A character string of a TXT record. -/
structure CharString where
  bytes : List UInt8
  short : bytes.length < 256

inductive Data where
  | a (ip : Ipv4Addr)
  | txt (strings : List CharString)
  | https (priority : UInt16) (target : Name) (params : List Param)
  | other (rtype : UInt16) (unread : rtype ≠ typeA ∧ rtype ≠ typeTxt ∧ rtype ≠ typeHttps)
      (bytes : List UInt8)

def Data.rtype : Data → UInt16
  | .a _ => typeA
  | .txt _ => typeTxt
  | .https _ _ _ => typeHttps
  | .other rtype _ _ => rtype

def Data.bytes : Data → List UInt8
  | .a ip => octets ip
  | .txt strings => strings.flatMap fun string => labelBytes string.bytes
  | .https priority target params =>
      wordBytes priority ++ target.bytes ++ params.flatMap Param.bytes
  | .other _ _ bytes => bytes

structure Record where
  name : Name
  rclass : UInt16
  ttl : UInt16 × UInt16
  data : Data
  short : data.bytes.length < 65536

def Record.bytes (record : Record) : List UInt8 :=
  record.name.bytes ++ (wordBytes record.data.rtype ++ wordBytes record.rclass ++
    wordBytes record.ttl.1 ++ wordBytes record.ttl.2 ++
    wordBytes (UInt16.ofNat record.data.bytes.length) ++ record.data.bytes)

structure Asked where
  name : Name
  qtype : UInt16
  qclass : UInt16

def Asked.bytes (asked : Asked) : List UInt8 :=
  asked.name.bytes ++ (wordBytes asked.qtype ++ wordBytes asked.qclass)

/-- A response; nobody looks at what follows its answer section. -/
structure Response where
  id : UInt16
  flags : UInt16
  questions : List Asked
  questionsShort : questions.length < 65536
  answers : List Record
  answersShort : answers.length < 65536
  authorities : UInt16
  additionals : UInt16
  later : List UInt8

def Response.header (response : Response) : List UInt8 :=
  wordBytes response.id ++ wordBytes response.flags ++
    wordBytes (UInt16.ofNat response.questions.length) ++
    wordBytes (UInt16.ofNat response.answers.length) ++ wordBytes response.authorities ++
    wordBytes response.additionals

def Response.bytes (response : Response) : List UInt8 :=
  response.header ++ (response.questions.flatMap Asked.bytes ++
    (response.answers.flatMap Record.bytes ++ response.later))

def Data.address : Data → Option Ipv4Addr
  | .a ip => some ip
  | _ => none

def Data.ech : Data → Option (List UInt8)
  | .https _ _ params => (params.find? fun param => param.key = keyEch).map Param.value
  | _ => none

/-- The strings of a TXT record one behind the other, each of them read leniently. -/
def Data.text : Data → Option (List Char)
  | .txt strings => some (strings.flatMap fun string => fromUtf8Lossy string.bytes)
  | _ => none

/-- What the first record of the answer section gives that gives something. -/
def Response.first {β : Type} (response : Response) (read : Data → Option β) : Option β :=
  response.answers.findSome? fun record => read record.data

theorem length_wordBytes (value : UInt16) : (wordBytes value).length = 2 := rfl

end MolidoVpn.Dns
