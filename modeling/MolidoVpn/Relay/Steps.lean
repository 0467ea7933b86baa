import MolidoVpn.Relay.HandleTcp

/-!
What one atomic section of the relay can do, said once. Every invariant of the
relay is proved by cases on `Shape`, without unfolding the packet handler or
the tasks again.
-/

namespace MolidoVpn.Relay

open SerialNumber (signedDistance)

/-- The segment takes the SYN branch of `handle_tcp`. -/
def Segment.opens (seg : Segment) : Prop :=
  seg.isFin = false ∧ seg.isRst = false ∧ seg.isSyn = true

/-- The segment takes the data branch of `handle_tcp`. -/
def Segment.carriesData (seg : Segment) : Prop :=
  seg.isFin = false ∧ seg.isRst = false ∧ seg.isSyn = false ∧ seg.isAck = true ∧ seg.payload ≠ []

inductive Shape (s : State) : Event → State → Prop where
  | closed {seg : Segment} {written : Bool} (idle : s.main = .idle)
      (closing : (seg.isFin || seg.isRst) = true) :
      Shape s (.packet seg written)
        ({ s.emit (.closed seg (s.entryGen seg.flow.sport)) with
            conns := Function.update s.conns seg.flow.sport none }.returned 0)
  | refused {seg : Segment} {written : Bool} (idle : s.main = .idle)
      (opens : seg.opens) (unroutable : seg.flow.dstIp.isPrivate = true) :
      Shape s (.packet seg written)
        (((s.emit (.syn seg (s.entryGen seg.flow.sport))).writeTun none
          (reply seg.flow 0 (seg.seqNum + 1) 0x14 []) written).returned 64)
  | synWhileConnecting {seg : Segment} {written : Bool} {conn : TcpConn} (idle : s.main = .idle)
      (opens : seg.opens) (routable : seg.flow.dstIp.isPrivate = false)
      (found : s.conns seg.flow.sport = some conn) (pending : conn.connecting = true) :
      Shape s (.packet seg written)
        ((s.emit (.syn seg (s.entryGen seg.flow.sport))).returned 64)
  | synAnswered {seg : Segment} {written : Bool} {conn : TcpConn} (idle : s.main = .idle)
      (opens : seg.opens) (routable : seg.flow.dstIp.isPrivate = false)
      (found : s.conns seg.flow.sport = some conn) (ready : conn.connecting = false) :
      Shape s (.packet seg written)
        (((s.emit (.syn seg (s.entryGen seg.flow.sport))).writeTun (some conn.gen)
          (synAck seg.flow conn.isn (s.ackShared conn.gen)) written).returned 64)
  | synFresh {seg : Segment} {written : Bool} (idle : s.main = .idle)
      (opens : seg.opens) (routable : seg.flow.dstIp.isPrivate = false)
      (missing : s.conns seg.flow.sport = none) :
      Shape s (.packet seg written)
        { s.emit (.syn seg (s.entryGen seg.flow.sport)) with main := .insertConnecting seg }
  | ignored {seg : Segment} {written : Bool} (idle : s.main = .idle)
      (notSyn : seg.isSyn = false) :
      Shape s (.packet seg written) (s.returned 0)
  | accepted {seg : Segment} {written : Bool} {conn : TcpConn} {off : Nat} (idle : s.main = .idle)
      (data : seg.carriesData) (found : s.conns seg.flow.sport = some conn)
      (ready : conn.connecting = false)
      (fresh : classify (s.ackShared conn.gen) seg.seqNum seg.payload.length = .forward off) :
      Shape s (.packet seg written)
        { s.emit (.stored conn.gen seg (s.ackShared conn.gen)
            (seg.seqNum + UInt32.ofNat seg.payload.length)) with
          ackShared := Function.update s.ackShared conn.gen
            (seg.seqNum + UInt32.ofNat seg.payload.length)
          main := .forward seg off conn.dataTx }
  | stale {seg : Segment} {written : Bool} {conn : TcpConn} (idle : s.main = .idle)
      (data : seg.carriesData) (found : s.conns seg.flow.sport = some conn)
      (ready : conn.connecting = false)
      (old : classify (s.ackShared conn.gen) seg.seqNum seg.payload.length = .ackOnly) :
      Shape s (.packet seg written) { s with main := .readCounters seg }
  | inserted {seg : Segment} {isn : UInt32} (at_ : s.main = .insertConnecting seg) :
      Shape s (.insertConnecting isn) (insertConnecting s seg isn)
  | noSender {seg : Segment} {off : Nat} (at_ : s.main = .forward seg off none) :
      Shape s .trySend { s with main := .readCounters seg }
  | queued {seg : Segment} {off gen : Nat} {channel : Channel (List UInt8)}
      (at_ : s.main = .forward seg off (some gen))
      (sent : (s.channels gen).trySend (seg.payload.drop off) = some channel) :
      Shape s .trySend
        { s.emit (.queued gen seg (seg.payload.drop off)) with
          channels := Function.update s.channels gen channel
          main := .readCounters seg }
  | dropped {seg : Segment} {off gen : Nat} (at_ : s.main = .forward seg off (some gen))
      (full : (s.channels gen).trySend (seg.payload.drop off) = none) :
      Shape s .trySend
        { s.emit (.dropped gen seg (seg.payload.drop off)) with main := .readCounters seg }
  | entryGone {seg : Segment} (at_ : s.main = .readCounters seg)
      (missing : s.conns seg.flow.sport = none) :
      Shape s .readCounters (s.returned seg.payload.length)
  | countersRead {seg : Segment} {conn : TcpConn} (at_ : s.main = .readCounters seg)
      (found : s.conns seg.flow.sport = some conn) :
      Shape s .readCounters
        { s with
          main := .sendAck seg conn.gen (s.seqShared conn.gen) (s.ackShared conn.gen) }
  | acked {seg : Segment} {gen : Nat} {seqAck ackVal : UInt32} {written : Bool}
      (at_ : s.main = .sendAck seg gen seqAck ackVal) :
      Shape s (.sendAck written) (sendAck s seg gen seqAck ackVal written)
  | connectAborted {gen : Nat} {task : ConnectTask} (found : s.connects gen = some task)
      (at_ : task.pc = .connecting) :
      Shape s (.connectAbort gen) (setConnect s gen task .gaveUp)
  | connectReturned {gen : Nat} {task : ConnectTask} {success : Bool}
      (found : s.connects gen = some task) (at_ : task.pc = .connecting) :
      Shape s (.connectResult gen success)
        (setConnect s gen task (if success then .checkEntry else .sendRst))
  | connectPanicked {gen : Nat} {task : ConnectTask} (found : s.connects gen = some task)
      (at_ : task.pc = .spawnTasks) :
      Shape s (.connectPanic gen)
        { setConnect s gen task .done with
          channels := Function.update s.channels gen (s.channels gen).dropReceiver }
  | entryStillConnecting {gen : Nat} {task : ConnectTask} {success : Bool} {conn : TcpConn}
      (found : s.connects gen = some task) (at_ : task.pc = .checkEntry)
      (entry : s.conns task.flow.sport = some conn) (pending : conn.connecting = true) :
      Shape s (.connect gen success) (setConnect s gen task .storeSeq)
  | entryNotConnecting {gen : Nat} {task : ConnectTask} {success : Bool}
      (found : s.connects gen = some task) (at_ : task.pc = .checkEntry) :
      Shape s (.connect gen success) (setConnect s gen task .gaveUp)
  | seqStored {gen : Nat} {task : ConnectTask} {success : Bool}
      (found : s.connects gen = some task) (at_ : task.pc = .storeSeq) :
      Shape s (.connect gen success)
        { setConnect s gen task .install with
          seqShared := Function.update s.seqShared gen (task.isn + 1)
          channels := Function.update s.channels gen (Channel.empty _ dataQueue) }
  | entryInstalled {gen : Nat} {task : ConnectTask} {success : Bool}
      (found : s.connects gen = some task) (at_ : task.pc = .install) :
      Shape s (.connect gen success)
        { setConnect (s.emit (.installed (.connect gen) (s.entryGen task.flow.sport)))
            gen task .spawnTasks with
          conns := Function.update s.conns task.flow.sport
            (some { dataTx := some gen, gen := gen, isn := task.isn, connecting := false }) }
  | tasksSpawned {gen : Nat} {task : ConnectTask} {success : Bool}
      (found : s.connects gen = some task) (at_ : task.pc = .spawnTasks) :
      Shape s (.connect gen success)
        { setConnect s gen task (.sendSynAck (s.ackShared gen)) with
          readers := Function.update s.readers gen
            (if success then some { flow := task.flow, pc := .reading } else none) }
  | synAckSent {gen : Nat} {task : ConnectTask} {success : Bool} {ackVal : UInt32}
      (found : s.connects gen = some task) (at_ : task.pc = .sendSynAck ackVal) :
      Shape s (.connect gen success)
        (setConnect (s.writeTun (some gen) (synAck task.flow task.isn ackVal) success)
          gen task .done)
  | rstSent {gen : Nat} {task : ConnectTask} {success : Bool}
      (found : s.connects gen = some task) (at_ : task.pc = .sendRst) :
      Shape s (.connect gen success)
        (setConnect (s.writeTun none (reply task.flow 0 (task.seqNum + 1) 0x04 []) success)
          gen task .removeEntry)
  | connectRemoved {gen : Nat} {task : ConnectTask} {success : Bool}
      (found : s.connects gen = some task) (at_ : task.pc = .removeEntry) :
      Shape s (.connect gen success)
        { setConnect (s.emit (.removed (.connect gen) (s.entryGen task.flow.sport)))
            gen task .gaveUp with
          conns := Function.update s.conns task.flow.sport none }
  | chunkRead {gen : Nat} {task : ReaderTask} {bytes : List UInt8}
      (found : s.readers gen = some task) (at_ : task.pc = .reading) (some_ : bytes ≠ [])
      (fits : bytes.length ≤ 65535) :
      Shape s (.readerRead gen (.data bytes))
        (setReader s gen task (.sending (s.seqShared gen) (s.ackShared gen) bytes))
  | responseEnded {gen : Nat} {task : ReaderTask} {result : ReadResult} (ending : Ending)
      (found : s.readers gen = some task) (at_ : task.pc = .reading) :
      Shape s (.readerRead gen result)
        (setReader s gen task (.closing ending (s.seqShared gen) (s.ackShared gen)))
  | chunkSent {gen : Nat} {task : ReaderTask} {written : Bool} {seq ack : UInt32}
      {data : List UInt8} (found : s.readers gen = some task)
      (at_ : task.pc = .sending seq ack data) :
      Shape s (.reader gen written)
        (setReader (s.writeTun (some gen) (reply task.flow seq ack 0x18 data) written)
          gen task (.storing seq data.length))
  | seqAdvanced {gen : Nat} {task : ReaderTask} {written : Bool} {seq : UInt32} {count : Nat}
      (found : s.readers gen = some task) (at_ : task.pc = .storing seq count) :
      Shape s (.reader gen written)
        { setReader s gen task .reading with
          seqShared := Function.update s.seqShared gen (seq + UInt32.ofNat count) }
  | closingSent {gen : Nat} {task : ReaderTask} {written : Bool} {ending : Ending}
      {seq ack : UInt32} (found : s.readers gen = some task)
      (at_ : task.pc = .closing ending seq ack) :
      Shape s (.reader gen written)
        (setReader (s.writeTun (some gen) (reply task.flow seq ack ending.flags []) written)
          gen task .removeEntry)
  | readerRemoved {gen : Nat} {task : ReaderTask} {written : Bool}
      (found : s.readers gen = some task) (at_ : task.pc = .removeEntry) :
      Shape s (.reader gen written)
        { setReader (s.emit (.removed (.reader gen) (s.entryGen task.flow.sport)))
            gen task .done with
          conns := Function.update s.conns task.flow.sport none }
  | messageWritten {gen : Nat} {task : ConnectTask} {message : List UInt8}
      {channel : Channel (List UInt8)} (found : s.connects gen = some task)
      (running : task.pc.spawned = true)
      (taken : (s.channels gen).receive = some (message, channel)) :
      Shape s (.writer gen true)
        { s with
          channels := Function.update s.channels gen channel
          upstream := Function.update s.upstream gen (s.upstream gen ++ message) }
  | writerEnded {gen : Nat} {task : ConnectTask} {message : List UInt8}
      {channel : Channel (List UInt8)} (found : s.connects gen = some task)
      (running : task.pc.spawned = true)
      (taken : (s.channels gen).receive = some (message, channel)) :
      Shape s (.writer gen false)
        { s with channels := Function.update s.channels gen channel.dropReceiver }

private theorem handleTcp_shape (s : State) (seg : Segment) (written : Bool)
    (idle : s.main = .idle) : Shape s (.packet seg written) (handleTcp s seg written) := by
  unfold handleTcp
  by_cases closing : (seg.isFin || seg.isRst) = true
  · rw [if_pos closing]
    exact .closed idle closing
  · rw [if_neg closing]
    simp only [Bool.or_eq_true, not_or, Bool.not_eq_true] at closing
    by_cases syn : seg.isSyn = true
    · rw [if_pos syn]
      have opens : seg.opens := ⟨closing.1, closing.2, syn⟩
      unfold handleSyn
      by_cases unroutable : seg.flow.dstIp.isPrivate = true
      · rw [if_pos unroutable]
        exact .refused idle opens unroutable
      · rw [if_neg unroutable]
        rw [Bool.not_eq_true] at unroutable
        have entries : (s.emit (.syn seg (s.entryGen seg.flow.sport))).conns = s.conns := rfl
        rw [entries]
        cases found : s.conns seg.flow.sport with
        | none => exact .synFresh idle opens unroutable found
        | some conn =>
            cases pending : conn.connecting with
            | true =>
                simp only [pending, if_true]
                exact .synWhileConnecting idle opens unroutable found pending
            | false =>
                simp only [pending, Bool.false_eq_true, if_false]
                exact .synAnswered idle opens unroutable found pending
    · rw [if_neg syn]
      have notSyn : seg.isSyn = false := Bool.eq_false_iff.mpr syn
      by_cases data : (seg.isAck && !seg.payload.isEmpty) = true
      · rw [if_pos data]
        unfold handleData
        have carries : seg.carriesData := by
          simp only [Bool.and_eq_true, Bool.not_eq_true', List.isEmpty_eq_false_iff] at data
          exact ⟨closing.1, closing.2, notSyn, data.1, data.2⟩
        cases found : s.conns seg.flow.sport with
        | none => exact .ignored idle notSyn
        | some conn =>
            cases pending : conn.connecting with
            | true =>
                simp only [pending, if_true]
                exact .ignored idle notSyn
            | false =>
                simp only [pending, Bool.false_eq_true, if_false]
                cases decided : classify (s.ackShared conn.gen) seg.seqNum seg.payload.length with
                | forward off => exact .accepted idle carries found pending decided
                | ackOnly => exact .stale idle carries found pending decided
      · rw [if_neg data]
        exact .ignored idle notSyn

private theorem trySend_shape (s : State) (seg : Segment) (off : Nat) (tx : Option Nat)
    (at_ : s.main = .forward seg off tx) : Shape s .trySend (trySend s seg off tx) := by
  cases tx with
  | none => exact .noSender at_
  | some gen =>
      unfold trySend
      cases sent : (s.channels gen).trySend (seg.payload.drop off) with
      | none =>
          simp only [sent]
          exact .dropped at_ sent
      | some channel =>
          simp only [sent]
          exact .queued at_ sent

private theorem connectStep_shape {s s' : State} {gen : Nat} {task : ConnectTask} {success : Bool}
    (found : s.connects gen = some task) (taken : connectStep s gen task success = some s') :
    Shape s (.connect gen success) s' := by
  unfold connectStep at taken
  cases at_ : task.pc with
  | checkEntry =>
      simp only [at_] at taken
      cases entry : s.conns task.flow.sport with
      | none =>
          simp only [entry, Option.some.injEq] at taken
          subst taken
          exact .entryNotConnecting found at_
      | some conn =>
          simp only [entry, Option.some.injEq] at taken
          subst taken
          cases pending : conn.connecting with
          | true =>
              simp only [if_true]
              exact .entryStillConnecting found at_ entry pending
          | false =>
              simp only [Bool.false_eq_true, if_false]
              exact .entryNotConnecting found at_
  | connecting => simp only [at_, reduceCtorEq] at taken
  | storeSeq =>
      simp only [at_, Option.some.injEq] at taken
      subst taken
      exact .seqStored found at_
  | install =>
      simp only [at_, Option.some.injEq] at taken
      subst taken
      exact .entryInstalled found at_
  | spawnTasks =>
      simp only [at_, Option.some.injEq] at taken
      subst taken
      exact .tasksSpawned found at_
  | sendSynAck ackVal =>
      simp only [at_, Option.some.injEq] at taken
      subst taken
      exact .synAckSent found at_
  | sendRst =>
      simp only [at_, Option.some.injEq] at taken
      subst taken
      exact .rstSent found at_
  | removeEntry =>
      simp only [at_, Option.some.injEq] at taken
      subst taken
      exact .connectRemoved found at_
  | done => simp only [at_, reduceCtorEq] at taken
  | gaveUp => simp only [at_, reduceCtorEq] at taken

private theorem readerRead_shape {s s' : State} {gen : Nat} {task : ReaderTask}
    {result : ReadResult} (found : s.readers gen = some task)
    (taken : readerRead s gen task result = some s') : Shape s (.readerRead gen result) s' := by
  unfold readerRead at taken
  cases at_ : task.pc with
  | reading =>
      simp only [at_] at taken
      cases result with
      | data bytes =>
          simp only [ne_eq, Option.ite_none_right_eq_some, Option.some.injEq] at taken
          obtain ⟨⟨some_, fits⟩, rfl⟩ := taken
          exact .chunkRead found at_ some_ fits
      | eof =>
          simp only [Option.some.injEq] at taken
          subst taken
          exact .responseEnded .fin found at_
      | timeout =>
          simp only [Option.some.injEq] at taken
          subst taken
          exact .responseEnded .fin found at_
      | error =>
          simp only [Option.some.injEq] at taken
          subst taken
          exact .responseEnded .rst found at_
  | _ => simp only [at_, reduceCtorEq] at taken

private theorem readerStep_shape {s s' : State} {gen : Nat} {task : ReaderTask} {written : Bool}
    (found : s.readers gen = some task) (taken : readerStep s gen task written = some s') :
    Shape s (.reader gen written) s' := by
  unfold readerStep at taken
  cases at_ : task.pc with
  | reading => simp only [at_, reduceCtorEq] at taken
  | sending seq ack data =>
      simp only [at_, Option.some.injEq] at taken
      subst taken
      exact .chunkSent found at_
  | storing seq count =>
      simp only [at_, Option.some.injEq] at taken
      subst taken
      exact .seqAdvanced found at_
  | closing ending seq ack =>
      simp only [at_, Option.some.injEq] at taken
      subst taken
      exact .closingSent found at_
  | removeEntry =>
      simp only [at_, Option.some.injEq] at taken
      subst taken
      exact .readerRemoved found at_
  | done => simp only [at_, reduceCtorEq] at taken

private theorem writerStep_shape {s s' : State} {gen : Nat} {task : ConnectTask} {success : Bool}
    (found : s.connects gen = some task) (running : task.pc.spawned = true)
    (taken : writerStep s gen success = some s') : Shape s (.writer gen success) s' := by
  unfold writerStep at taken
  cases received : (s.channels gen).receive with
  | none => simp only [received, reduceCtorEq] at taken
  | some pair =>
      obtain ⟨message, channel⟩ := pair
      cases success with
      | true =>
          simp only [received, if_true, Option.some.injEq] at taken
          subst taken
          exact .messageWritten found running received
      | false =>
          simp only [received, Bool.false_eq_true, if_false, Option.some.injEq] at taken
          subst taken
          exact .writerEnded found running received

/-- Every step has one of the shapes, with the guard that led to it. -/
theorem step_shape {s s' : State} {event : Event} (taken : step s event = some s') :
    Shape s event s' := by
  cases event with
  | packet seg written =>
      simp only [step] at taken
      split at taken
      · rename_i idle
        cases taken
        exact handleTcp_shape s seg written idle
      · cases taken
  | insertConnecting isn =>
      simp only [step] at taken
      split at taken
      · rename_i seg at_
        cases taken
        exact .inserted at_
      · cases taken
  | trySend =>
      simp only [step] at taken
      split at taken
      · rename_i seg off tx at_
        cases taken
        exact trySend_shape s seg off tx at_
      · cases taken
  | readCounters =>
      simp only [step] at taken
      split at taken
      · rename_i seg at_
        cases taken
        unfold readCounters
        cases found : s.conns seg.flow.sport with
        | none => exact .entryGone at_ found
        | some conn => exact .countersRead at_ found
      · cases taken
  | sendAck written =>
      simp only [step] at taken
      split at taken
      · rename_i seg gen seqAck ackVal at_
        cases taken
        exact .acked at_
      · cases taken
  | connectAbort gen =>
      simp only [step] at taken
      split at taken
      · rename_i task found
        split at taken
        · rename_i at_
          cases taken
          exact .connectAborted found at_
        · cases taken
      · cases taken
  | connectResult gen success =>
      simp only [step] at taken
      split at taken
      · rename_i task found
        split at taken
        · rename_i at_
          cases taken
          exact .connectReturned found at_
        · cases taken
      · cases taken
  | connectPanic gen =>
      simp only [step] at taken
      split at taken
      · rename_i task found
        split at taken
        · rename_i at_
          cases taken
          exact .connectPanicked found at_
        · cases taken
      · cases taken
  | connect gen success =>
      simp only [step] at taken
      split at taken
      · rename_i task found
        exact connectStep_shape found taken
      · cases taken
  | readerRead gen result =>
      simp only [step] at taken
      split at taken
      · rename_i task found
        exact readerRead_shape found taken
      · cases taken
  | reader gen written =>
      simp only [step] at taken
      split at taken
      · rename_i task found
        exact readerStep_shape found taken
      · cases taken
  | writer gen success =>
      simp only [step] at taken
      split at taken
      · rename_i task found
        split at taken
        · rename_i running
          rw [Bool.and_eq_true] at running
          exact writerStep_shape found running.1 taken
        · cases taken
      · cases taken

end MolidoVpn.Relay
