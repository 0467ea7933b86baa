import Mathlib.Data.UInt
import Mathlib.Logic.Function.Basic
import MolidoVpn.Address
import MolidoVpn.Lib.Channel

/-!
The state of the tun2socks relay: the connection table that the packet handler
shares with the spawned tasks, the atomics and channels behind it, and where
every task stands between two of its atomic sections. Each SYN allocates one
pair of atomics; its number, the generation, names the pair and everything that
the SYN's connect task creates.
-/

namespace MolidoVpn.Relay

/-- The four addresses of a flow, seen from the app. -/
structure Flow where
  srcIp : Ipv4Addr
  sport : UInt16
  dstIp : Ipv4Addr
  dport : UInt16
  deriving DecidableEq, Repr

/-- What `handle_tcp` reads from one packet. The TUN read buffer bounds the payload. -/
structure Segment where
  flow : Flow
  seqNum : UInt32
  ackNum : UInt32
  isSyn : Bool
  isAck : Bool
  isFin : Bool
  isRst : Bool
  payload : List UInt8
  payload_le : payload.length ≤ 65535
  deriving DecidableEq

def Segment.syn (flow : Flow) (seqNum : UInt32) : Segment :=
  { flow := flow, seqNum := seqNum, ackNum := 0, isSyn := true, isAck := false, isFin := false,
    isRst := false, payload := [], payload_le := Nat.zero_le _ }

def Segment.rst (flow : Flow) (seqNum : UInt32) : Segment :=
  { flow := flow, seqNum := seqNum, ackNum := 0, isSyn := false, isAck := false, isFin := false,
    isRst := true, payload := [], payload_le := Nat.zero_le _ }

/-- An ACK-flagged segment with payload. -/
def Segment.bytes (flow : Flow) (seqNum : UInt32) (payload : List UInt8)
    (payload_le : payload.length ≤ 65535) : Segment :=
  { flow := flow, seqNum := seqNum, ackNum := 0, isSyn := false, isAck := true, isFin := false,
    isRst := false, payload := payload, payload_le := payload_le }

def Segment.byte (flow : Flow) (seqNum : UInt32) (value : UInt8) : Segment :=
  .bytes flow seqNum [value] (by simp)

/-- The arguments of `send_tcp_ex`: one segment towards the app. -/
structure TunSegment where
  srcIp : Ipv4Addr
  dstIp : Ipv4Addr
  srcPort : UInt16
  dstPort : UInt16
  seq : UInt32
  ack : UInt32
  flags : UInt8
  payload : List UInt8
  withMss : Bool
  deriving DecidableEq, Repr

/-- The arguments of `send_tcp` for a segment that answers `flow`. -/
def reply (flow : Flow) (seq ack : UInt32) (flags : UInt8) (payload : List UInt8) : TunSegment :=
  { srcIp := flow.dstIp
    dstIp := flow.srcIp
    srcPort := flow.dport
    dstPort := flow.sport
    seq := seq
    ack := ack
    flags := flags
    payload := payload
    withMss := false }

/-- A SYN-ACK: `send_tcp_ex` with the MSS option. -/
def synAck (flow : Flow) (isn ack : UInt32) : TunSegment :=
  { reply flow isn ack 0x12 [] with withMss := true }

/-- An entry of `conns`. `gen` stands for the two `Arc`s `ack_shared` and `seq_shared`,
`dataTx` for the channel of the connect task of that number. -/
structure TcpConn where
  dataTx : Option Nat
  gen : Nat
  isn : UInt32
  connecting : Bool
  deriving DecidableEq, Repr

/-- Where the main loop stands inside `handle_tcp`. -/
inductive MainPc where
  | idle
  | insertConnecting (seg : Segment)
  | forward (seg : Segment) (off : Nat) (tx : Option Nat)
  | readCounters (seg : Segment)
  | sendAck (seg : Segment) (gen : Nat) (seqAck ackVal : UInt32)

/-- Where a spawned connect task stands. The last two are the ends of the task: with and
without a connection installed. -/
inductive ConnectPc where
  | connecting
  | checkEntry
  | storeSeq
  | install
  | spawnTasks
  | sendSynAck (ackVal : UInt32)
  | sendRst
  | removeEntry
  | done
  | gaveUp
  deriving DecidableEq, Repr

/-- The task has stored its connection in the table. -/
def ConnectPc.installed : ConnectPc → Bool
  | .spawnTasks => true
  | .sendSynAck _ => true
  | .done => true
  | _ => false

/-- The task has gone past the place where it spawns the reader and the writer. -/
def ConnectPc.spawned : ConnectPc → Bool
  | .sendSynAck _ => true
  | .done => true
  | _ => false

/-- The task has stored the sequence number that follows the ISN. -/
def ConnectPc.seqStored : ConnectPc → Bool
  | .install => true
  | pc => pc.installed

/-- The task, or the reader it is about to spawn, may still write the table. -/
def ConnectPc.writesTable : ConnectPc → Bool
  | .sendSynAck _ => false
  | .done => false
  | .gaveUp => false
  | _ => true

/-- What the connect task of one SYN captured, and where it stands. -/
structure ConnectTask where
  flow : Flow
  seqNum : UInt32
  isn : UInt32
  pc : ConnectPc
  deriving DecidableEq, Repr

/-- How the reader ends the flow towards the app: FIN+ACK after the end of the response or the
idle timeout, RST after a read error. -/
inductive Ending where
  | fin
  | rst
  deriving DecidableEq, Repr

def Ending.flags : Ending → UInt8
  | .fin => 0x11
  | .rst => 0x04

/-- Where a response reader stands; the counters it loaded are in its hands. -/
inductive ReaderPc where
  | reading
  | sending (seq ack : UInt32) (data : List UInt8)
  | storing (seq : UInt32) (count : Nat)
  | closing (ending : Ending) (seq ack : UInt32)
  | removeEntry
  | done
  deriving DecidableEq, Repr

structure ReaderTask where
  flow : Flow
  pc : ReaderPc
  deriving DecidableEq, Repr

/-- The tasks that `handle_tcp` spawns and that write the connection table. -/
inductive Task where
  | connect (gen : Nat)
  | reader (gen : Nat)
  deriving DecidableEq, Repr

def Task.gen : Task → Nat
  | .connect gen => gen
  | .reader gen => gen

/-- What the relay did, for the history. Only segments that really reached the TUN are
recorded, with the generation whose counters they were stamped from. -/
inductive Output where
  | tun (gen : Option Nat) (pkt : TunSegment)
  | closed (seg : Segment) (entry : Option Nat)
  | syn (seg : Segment) (entry : Option Nat)
  | spawned (gen : Nat) (seg : Segment) (replaced : Option Nat)
  | stored (gen : Nat) (seg : Segment) (old new : UInt32)
  | queued (tx : Nat) (seg : Segment) (slice : List UInt8)
  | dropped (tx : Nat) (seg : Segment) (slice : List UInt8)
  | installed (task : Task) (replaced : Option Nat)
  | removed (task : Task) (entry : Option Nat)
  deriving DecidableEq

/-- The bound of `mpsc::channel::<Vec<u8>>(128)`. -/
def dataQueue : Nat := 128

structure State where
  conns : UInt16 → Option TcpConn
  ackShared : Nat → UInt32
  seqShared : Nat → UInt32
  channels : Nat → Channel (List UInt8)
  upstream : Nat → List UInt8
  connects : Nat → Option ConnectTask
  readers : Nat → Option ReaderTask
  nextGen : Nat
  main : MainPc
  txTotal : UInt64
  trace : List Output

/-- The state in which `serve` enters its loop. -/
def State.init : State :=
  { conns := fun _ => none
    ackShared := fun _ => 0
    seqShared := fun _ => 0
    channels := fun _ => Channel.empty _ dataQueue
    upstream := fun _ => []
    connects := fun _ => none
    readers := fun _ => none
    nextGen := 0
    main := .idle
    txTotal := 0
    trace := [] }

namespace State

def emit (s : State) (output : Output) : State :=
  { s with trace := s.trace ++ [output] }

/-- One TUN write; a failed write leaves nothing but its discarded result. -/
def writeTun (s : State) (gen : Option Nat) (pkt : TunSegment) (written : Bool) : State :=
  if written then s.emit (.tun gen pkt) else s

/-- `handle_tcp` returns its byte count to the loop, which adds it to the total. -/
def returned (s : State) (delta : Nat) : State :=
  { s with main := .idle, txTotal := s.txTotal + UInt64.ofNat delta }

/-- The generation of the entry stored under a source port. -/
def entryGen (s : State) (port : UInt16) : Option Nat :=
  (s.conns port).map TcpConn.gen

/-- The flow for which a generation was opened. -/
def flowOf (s : State) (gen : Nat) : Option Flow :=
  (s.connects gen).map ConnectTask.flow

end State

end MolidoVpn.Relay
