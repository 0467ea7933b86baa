import MolidoVpn.Lib.SerialNumber
import MolidoVpn.Lib.Transition
import MolidoVpn.Relay.State

/-!
The packet handler and the tasks it spawns, cut at every lock acquisition and
every await. One event is one atomic section; the scheduler is the list of
events, so a run is an interleaving of the main loop with every task.
-/

namespace MolidoVpn.Relay

open SerialNumber (signedDistance)

/-- `Action`, without the cloned sender that `Forward` carries along. -/
inductive Action where
  | forward (off : Nat)
  | ackOnly
  deriving DecidableEq, Repr

/-- The decision of the data branch: how far the segment starts before `expected`. -/
def classify (expected seqNum : UInt32) (payloadLen : Nat) : Action :=
  let behind := signedDistance expected seqNum
  if behind = 0 then .forward 0
  else if behind > 0 then
    if behind.toNat ≥ payloadLen then .ackOnly
    else .forward behind.toNat
  else .ackOnly

/-- The SYN branch up to its first await: refuse a private destination, answer or drop a SYN
whose source port has an entry, or go on to insert one. -/
def handleSyn (s : State) (seg : Segment) (written : Bool) : State :=
  if seg.flow.dstIp.isPrivate then
    (s.writeTun none (reply seg.flow 0 (seg.seqNum + 1) 0x14 []) written).returned 64
  else
    match s.conns seg.flow.sport with
    | some conn =>
        if conn.connecting then s.returned 64
        else
          (s.writeTun (some conn.gen)
            (synAck seg.flow conn.isn (s.ackShared conn.gen)) written).returned 64
    | none => { s with main := .insertConnecting seg }

/-- The data branch up to the release of its first lock. -/
def handleData (s : State) (seg : Segment) : State :=
  match s.conns seg.flow.sport with
  | none => s.returned 0
  | some conn =>
      if conn.connecting then s.returned 0
      else
        let expected := s.ackShared conn.gen
        match classify expected seg.seqNum seg.payload.length with
        | .forward off =>
            let reached := seg.seqNum + UInt32.ofNat seg.payload.length
            { s.emit (.stored conn.gen seg expected reached) with
              ackShared := Function.update s.ackShared conn.gen reached
              main := .forward seg off conn.dataTx }
        | .ackOnly => { s with main := .readCounters seg }

/-- `handle_tcp` from its entry to its first await. -/
def handleTcp (s : State) (seg : Segment) (written : Bool) : State :=
  if seg.isFin || seg.isRst then
    { s.emit (.closed seg (s.entryGen seg.flow.sport)) with
      conns := Function.update s.conns seg.flow.sport none }.returned 0
  else if seg.isSyn then
    handleSyn (s.emit (.syn seg (s.entryGen seg.flow.sport))) seg written
  else if seg.isAck && !seg.payload.isEmpty then handleData s seg
  else s.returned 0

/-- The second lock of the SYN branch: the `connecting` entry, and the spawned task. -/
def insertConnecting (s : State) (seg : Segment) (isn : UInt32) : State :=
  let gen := s.nextGen
  { (s.emit (.spawned gen seg (s.entryGen seg.flow.sport))).returned 64 with
    conns := Function.update s.conns seg.flow.sport
      (some { dataTx := none, gen := gen, isn := isn, connecting := true })
    ackShared := Function.update s.ackShared gen (seg.seqNum + 1)
    seqShared := Function.update s.seqShared gen isn
    connects := Function.update s.connects gen
      (some { flow := seg.flow, seqNum := seg.seqNum, isn := isn, pc := .connecting })
    nextGen := gen + 1 }

/-- `Action::Forward`: the failed `try_send` is only logged. -/
def trySend (s : State) (seg : Segment) (off : Nat) (tx : Option Nat) : State :=
  match tx with
  | none => { s with main := .readCounters seg }
  | some gen =>
      let slice := seg.payload.drop off
      match (s.channels gen).trySend slice with
      | some channel =>
          { s.emit (.queued gen seg slice) with
            channels := Function.update s.channels gen channel
            main := .readCounters seg }
      | none => { s.emit (.dropped gen seg slice) with main := .readCounters seg }

/-- The last lock of the data branch. -/
def readCounters (s : State) (seg : Segment) : State :=
  match s.conns seg.flow.sport with
  | none => s.returned seg.payload.length
  | some conn =>
      { s with
        main := .sendAck seg conn.gen (s.seqShared conn.gen) (s.ackShared conn.gen) }

def sendAck (s : State) (seg : Segment) (gen : Nat) (seqAck ackVal : UInt32) (written : Bool) :
    State :=
  (s.writeTun (some gen) (reply seg.flow seqAck ackVal 0x10 []) written).returned
    seg.payload.length

def setConnect (s : State) (gen : Nat) (task : ConnectTask) (pc : ConnectPc) : State :=
  { s with connects := Function.update s.connects gen (some { task with pc := pc }) }

/-- The next section of a connect task after `connect_through_socks` has returned. `success` is
the result of the TUN write of that section, or of the `dup` before the reader is spawned. -/
def connectStep (s : State) (gen : Nat) (task : ConnectTask) (success : Bool) : Option State :=
  match task.pc with
  | .connecting => none
  | .checkEntry =>
      match s.conns task.flow.sport with
      | some conn => some (setConnect s gen task (if conn.connecting then .storeSeq else .gaveUp))
      | none => some (setConnect s gen task .gaveUp)
  | .storeSeq =>
      some
        { setConnect s gen task .install with
          seqShared := Function.update s.seqShared gen (task.isn + 1)
          channels := Function.update s.channels gen (Channel.empty _ dataQueue) }
  | .install =>
      some
        { setConnect (s.emit (.installed (.connect gen) (s.entryGen task.flow.sport)))
            gen task .spawnTasks with
          conns := Function.update s.conns task.flow.sport
            (some { dataTx := some gen, gen := gen, isn := task.isn, connecting := false }) }
  | .spawnTasks =>
      some
        { setConnect s gen task (.sendSynAck (s.ackShared gen)) with
          readers := Function.update s.readers gen
            (if success then some { flow := task.flow, pc := .reading } else none) }
  | .sendSynAck ackVal =>
      some (setConnect (s.writeTun (some gen) (synAck task.flow task.isn ackVal) success)
        gen task .done)
  | .sendRst =>
      some (setConnect (s.writeTun none (reply task.flow 0 (task.seqNum + 1) 0x04 []) success)
        gen task .removeEntry)
  | .removeEntry =>
      some
        { setConnect (s.emit (.removed (.connect gen) (s.entryGen task.flow.sport)))
            gen task .gaveUp with
          conns := Function.update s.conns task.flow.sport none }
  | .done => none
  | .gaveUp => none

/-- What `read_half.read` gives the response reader, or that the idle timeout fired. -/
inductive ReadResult where
  | data (bytes : List UInt8)
  | eof
  | timeout
  | error
  deriving DecidableEq, Repr

def setReader (s : State) (gen : Nat) (task : ReaderTask) (pc : ReaderPc) : State :=
  { s with readers := Function.update s.readers gen (some { task with pc := pc }) }

/-- The reader has its read result and loads both counters. -/
def readerRead (s : State) (gen : Nat) (task : ReaderTask) (result : ReadResult) :
    Option State :=
  match task.pc with
  | .reading =>
      match result with
      | .data bytes =>
          if bytes ≠ [] ∧ bytes.length ≤ 65535 then
            some (setReader s gen task (.sending (s.seqShared gen) (s.ackShared gen) bytes))
          else none
      | .eof => some (setReader s gen task (.closing .fin (s.seqShared gen) (s.ackShared gen)))
      | .timeout => some (setReader s gen task (.closing .fin (s.seqShared gen) (s.ackShared gen)))
      | .error => some (setReader s gen task (.closing .rst (s.seqShared gen) (s.ackShared gen)))
  | _ => none

/-- The reader's sections after a read. The new sequence number is stored whether or not the
segment reached the TUN. -/
def readerStep (s : State) (gen : Nat) (task : ReaderTask) (written : Bool) : Option State :=
  match task.pc with
  | .reading => none
  | .sending seq ack data =>
      some (setReader (s.writeTun (some gen) (reply task.flow seq ack 0x18 data) written)
        gen task (.storing seq data.length))
  | .storing seq count =>
      some
        { setReader s gen task .reading with
          seqShared := Function.update s.seqShared gen (seq + UInt32.ofNat count) }
  | .closing ending seq ack =>
      some (setReader (s.writeTun (some gen) (reply task.flow seq ack ending.flags []) written)
        gen task .removeEntry)
  | .removeEntry =>
      some
        { setReader (s.emit (.removed (.reader gen) (s.entryGen task.flow.sport)))
            gen task .done with
          conns := Function.update s.conns task.flow.sport none }
  | .done => none

/-- `socks_writer_task`: one message to the server; a failed write ends the task and drops the
receiver with everything still queued. -/
def writerStep (s : State) (gen : Nat) (success : Bool) : Option State :=
  match (s.channels gen).receive with
  | none => none
  | some (message, channel) =>
      if success then
        some
          { s with
            channels := Function.update s.channels gen channel
            upstream := Function.update s.upstream gen (s.upstream gen ++ message) }
      else some { s with channels := Function.update s.channels gen channel.dropReceiver }

/-- One atomic section of the main loop or of a spawned task. -/
inductive Event where
  | packet (seg : Segment) (written : Bool)
  | insertConnecting (isn : UInt32)
  | trySend
  | readCounters
  | sendAck (written : Bool)
  | connectAbort (gen : Nat)
  | connectResult (gen : Nat) (success : Bool)
  | connectPanic (gen : Nat)
  | connect (gen : Nat) (success : Bool)
  | readerRead (gen : Nat) (result : ReadResult)
  | reader (gen : Nat) (written : Bool)
  | writer (gen : Nat) (success : Bool)
  deriving DecidableEq

def step (s : State) : Event → Option State
  | .packet seg written =>
      match s.main with
      | .idle => some (handleTcp s seg written)
      | _ => none
  | .insertConnecting isn =>
      match s.main with
      | .insertConnecting seg => some (insertConnecting s seg isn)
      | _ => none
  | .trySend =>
      match s.main with
      | .forward seg off tx => some (trySend s seg off tx)
      | _ => none
  | .readCounters =>
      match s.main with
      | .readCounters seg => some (readCounters s seg)
      | _ => none
  | .sendAck written =>
      match s.main with
      | .sendAck seg gen seqAck ackVal => some (sendAck s seg gen seqAck ackVal written)
      | _ => none
  -- `dup` or `AsyncFd::new` failed before the task connected: it ends at once.
  | .connectAbort gen =>
      match s.connects gen with
      | some task => if task.pc = .connecting then some (setConnect s gen task .gaveUp) else none
      | none => none
  | .connectResult gen success =>
      match s.connects gen with
      | some task =>
          if task.pc = .connecting then
            some (setConnect s gen task (if success then .checkEntry else .sendRst))
          else none
      | none => none
  -- `AsyncFd::new(..).unwrap()` before the reader is spawned: the writer is never spawned.
  | .connectPanic gen =>
      match s.connects gen with
      | some task =>
          if task.pc = .spawnTasks then
            some
              { setConnect s gen task .done with
                channels := Function.update s.channels gen (s.channels gen).dropReceiver }
          else none
      | none => none
  | .connect gen success =>
      match s.connects gen with
      | some task => connectStep s gen task success
      | none => none
  | .readerRead gen result =>
      match s.readers gen with
      | some task => readerRead s gen task result
      | none => none
  | .reader gen written =>
      match s.readers gen with
      | some task => readerStep s gen task written
      | none => none
  | .writer gen success =>
      match s.connects gen with
      | some task =>
          if task.pc.spawned && (s.channels gen).receiverAlive then writerStep s gen success
          else none
      | none => none

/-- An app at 10.0.0.2:5000 talking to a web server. -/
def webFlow : Flow :=
  { srcIp := ⟨10, 0, 0, 2⟩, sport := 5000, dstIp := ⟨93, 184, 216, 34⟩, dport := 443 }

/-- The events of an app SYN whose connect task runs to its end undisturbed. -/
def openEvents (seg : Segment) (gen : Nat) (isn : UInt32) : List Event :=
  [.packet seg true, .insertConnecting isn, .connectResult gen true, .connect gen true,
    .connect gen true, .connect gen true, .connect gen true, .connect gen true]

/-- The events of one data segment that is accepted. -/
def dataEvents (seg : Segment) : List Event :=
  [.packet seg true, .trySend, .readCounters, .sendAck true]

end MolidoVpn.Relay
