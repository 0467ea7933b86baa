import MolidoVpn.Relay.Written

/-!
What every record of the history says about the step that made it: which event
it was, and what the table held under the port it looked at.
-/

namespace MolidoVpn.Relay

inductive Recorded (s : State) (event : Event) (s' : State) : Output → Prop where
  | stamped {gen : Nat} {pkt : TunSegment} (source : Source s event gen pkt) :
      Recorded s event s' (.tun (some gen) pkt)
  | unstamped {pkt : TunSegment} : Recorded s event s' (.tun none pkt)
  | closed {seg : Segment} {written : Bool} (arrives : event = .packet seg written)
      (closing : (seg.isFin || seg.isRst) = true) :
      Recorded s event s' (.closed seg (s.entryGen seg.flow.sport))
  | synRefused {seg : Segment} {written : Bool} (arrives : event = .packet seg written)
      (unroutable : seg.flow.dstIp.isPrivate = true) :
      Recorded s event s' (.syn seg (s.entryGen seg.flow.sport))
  | synMatched {seg : Segment} {written : Bool} {conn : TcpConn}
      (arrives : event = .packet seg written) (opens : seg.opens)
      (routable : seg.flow.dstIp.isPrivate = false)
      (found : s.conns seg.flow.sport = some conn) :
      Recorded s event s' (.syn seg (s.entryGen seg.flow.sport))
  | synFresh {seg : Segment} {written : Bool} (arrives : event = .packet seg written)
      (opens : seg.opens) (routable : seg.flow.dstIp.isPrivate = false)
      (main : s'.main = .insertConnecting seg) :
      Recorded s event s' (.syn seg (s.entryGen seg.flow.sport))
  | spawned {seg : Segment} {isn : UInt32} (arrives : event = .insertConnecting isn)
      (at_ : s.main = .insertConnecting seg)
      (opened : s'.connects s.nextGen =
        some { flow := seg.flow, seqNum := seg.seqNum, isn := isn, pc := .connecting }) :
      Recorded s event s' (.spawned s.nextGen seg (s.entryGen seg.flow.sport))
  | stored {seg : Segment} {written : Bool} {conn : TcpConn} {old new : UInt32}
      (arrives : event = .packet seg written) (data : seg.carriesData)
      (found : s.conns seg.flow.sport = some conn) :
      Recorded s event s' (.stored conn.gen seg old new)
  | queued {seg : Segment} {off gen : Nat} (at_ : s.main = .forward seg off (some gen)) :
      Recorded s event s' (.queued gen seg (seg.payload.drop off))
  | dropped {seg : Segment} {off gen : Nat} (at_ : s.main = .forward seg off (some gen)) :
      Recorded s event s' (.dropped gen seg (seg.payload.drop off))
  | installed {gen : Nat} {task : ConnectTask} {success : Bool}
      (arrives : event = .connect gen success) (found : s.connects gen = some task)
      (at_ : task.pc = .install) :
      Recorded s event s' (.installed (.connect gen) (s.entryGen task.flow.sport))
  | connectRemoved {gen : Nat} {task : ConnectTask} {success : Bool}
      (arrives : event = .connect gen success) (found : s.connects gen = some task)
      (at_ : task.pc = .removeEntry) :
      Recorded s event s' (.removed (.connect gen) (s.entryGen task.flow.sport))
  | readerRemoved {gen : Nat} {task : ReaderTask} {written : Bool}
      (arrives : event = .reader gen written) (found : s.readers gen = some task)
      (at_ : task.pc = .removeEntry) :
      Recorded s event s' (.removed (.reader gen) (s.entryGen task.flow.sport))

/-- The records of one step, each with its origin. -/
def Records (s : State) (event : Event) (s' : State) : Prop :=
  ∃ outputs, s'.trace = s.trace ++ outputs ∧ ∀ output ∈ outputs, Recorded s event s' output

private theorem records_none {s s' : State} {event : Event} (trace : s'.trace = s.trace) :
    Records s event s' :=
  ⟨[], by rw [trace, List.append_nil], fun _ member => by cases member⟩

private theorem records_one {s s' : State} {event : Event} {output : Output}
    (trace : s'.trace = s.trace ++ [output]) (recorded : Recorded s event s' output) :
    Records s event s' := by
  refine ⟨[output], trace, ?_⟩
  intro other member
  rw [List.mem_singleton.mp member]
  exact recorded

private theorem records_written {s s' : State} {event : Event} {gen : Option Nat}
    {pkt : TunSegment} {written : Bool}
    (trace : s'.trace = (s.writeTun gen pkt written).trace)
    (recorded : Recorded s event s' (.tun gen pkt)) : Records s event s' := by
  cases written with
  | true => exact records_one trace recorded
  | false => exact records_none trace

private theorem records_syn_written {s s' : State} {event : Event} {gen : Option Nat}
    {pkt : TunSegment} {written : Bool} {syn : Output}
    (trace : s'.trace = ((s.emit syn).writeTun gen pkt written).trace)
    (first : Recorded s event s' syn) (second : Recorded s event s' (.tun gen pkt)) :
    Records s event s' := by
  cases written with
  | true =>
      refine ⟨[syn, .tun gen pkt], ?_, ?_⟩
      · rw [trace]
        exact List.append_assoc _ _ _
      · intro output member
        rcases List.mem_pair.mp member with rfl | rfl
        · exact first
        · exact second
  | false => exact records_one trace first

theorem Shape.records {s s' : State} {event : Event} (shape : Shape s event s') :
    Records s event s' := by
  cases shape with
  | closed idle closing => exact records_one rfl (.closed rfl closing)
  | refused idle opens unroutable =>
      exact records_syn_written rfl (.synRefused rfl unroutable) .unstamped
  | synWhileConnecting idle opens routable found pending =>
      exact records_one rfl (.synMatched rfl opens routable found)
  | synAnswered idle opens routable found ready =>
      exact records_syn_written rfl (.synMatched rfl opens routable found)
        (.stamped (.synAnswered rfl opens routable found ready rfl))
  | synFresh idle opens routable missing =>
      exact records_one rfl (.synFresh rfl opens routable rfl)
  | accepted idle data found ready fresh => exact records_one rfl (.stored rfl data found)
  | inserted at_ => exact records_one rfl (.spawned rfl at_ (Function.update_self _ _ _))
  | queued at_ sent => exact records_one rfl (.queued at_)
  | dropped at_ full => exact records_one rfl (.dropped at_)
  | acked at_ => exact records_written rfl (.stamped (.acked at_))
  | entryInstalled found at_ => exact records_one rfl (.installed rfl found at_)
  | synAckSent found at_ => exact records_written rfl (.stamped (.synAckSent found at_))
  | rstSent found at_ => exact records_written rfl .unstamped
  | connectRemoved found at_ => exact records_one rfl (.connectRemoved rfl found at_)
  | chunkSent found at_ => exact records_written rfl (.stamped (.chunk found at_))
  | closingSent found at_ => exact records_written rfl (.stamped (.ending found at_))
  | readerRemoved found at_ => exact records_one rfl (.readerRemoved rfl found at_)
  | _ => exact records_none rfl

end MolidoVpn.Relay
