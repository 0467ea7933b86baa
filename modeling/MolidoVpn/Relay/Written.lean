import MolidoVpn.Lib.History
import MolidoVpn.Relay.Bookkeeping

/-!
The segments that reach the TUN, by the section that writes them, and how a
property of every written segment is carried through a step.
-/

namespace MolidoVpn.Relay

open History (append_eq_cons_cases)

/-- Where a segment stamped with the counters of `gen` comes from. -/
inductive Source (s : State) (event : Event) (gen : Nat) : TunSegment → Prop where
  | synAnswered {seg : Segment} {written : Bool} {conn : TcpConn}
      (arrives : event = .packet seg written) (opens : seg.opens)
      (routable : seg.flow.dstIp.isPrivate = false) (found : s.conns seg.flow.sport = some conn) (ready : conn.connecting = false)
      (same : gen = conn.gen) :
      Source s event gen (synAck seg.flow conn.isn (s.ackShared conn.gen))
  | synAckSent {task : ConnectTask} {ackVal : UInt32} (found : s.connects gen = some task)
      (at_ : task.pc = .sendSynAck ackVal) : Source s event gen (synAck task.flow task.isn ackVal)
  | acked {seg : Segment} {seqAck ackVal : UInt32} (at_ : s.main = .sendAck seg gen seqAck ackVal) :
      Source s event gen (reply seg.flow seqAck ackVal 0x10 [])
  | chunk {task : ReaderTask} {seq ack : UInt32} {data : List UInt8}
      (found : s.readers gen = some task) (at_ : task.pc = .sending seq ack data) :
      Source s event gen (reply task.flow seq ack 0x18 data)
  | ending {task : ReaderTask} {ending : Ending} {seq ack : UInt32}
      (found : s.readers gen = some task) (at_ : task.pc = .closing ending seq ack) :
      Source s event gen (reply task.flow seq ack ending.flags [])

/-- Outputs that are not segments stamped from a generation's counters. -/
def Unstamped (outputs : List Output) : Prop :=
  ∀ gen pkt, Output.tun (some gen) pkt ∉ outputs

/-- A step writes no stamped segment, or exactly one, last, after at most the record of a SYN. -/
inductive Writes (s : State) (event : Event) (s' : State) : Prop where
  | none (outputs : List Output) (trace : s'.trace = s.trace ++ outputs)
      (unstamped : Unstamped outputs)
  | one (outputs : List Output) (gen : Nat) (pkt : TunSegment)
      (trace : s'.trace = s.trace ++ (outputs ++ [.tun (some gen) pkt]))
      (records : outputs = [] ∨ ∃ seg entry, outputs = [.syn seg entry])
      (source : Source s event gen pkt)

theorem unstamped_nil : Unstamped [] := by
  intro gen pkt member
  cases member

theorem unstamped_singleton {output : Output}
    (other : ∀ gen pkt, output ≠ .tun (some gen) pkt) : Unstamped [output] := by
  intro gen pkt member
  exact other gen pkt (List.mem_singleton.mp member).symm

private theorem writes_written {s s' : State} {event : Event} {gen : Nat} {pkt : TunSegment} {written : Bool}
    (trace : s'.trace = (s.writeTun (some gen) pkt written).trace)
    (source : Source s event gen pkt) :
    Writes s event s' := by
  cases written with
  | true => exact .one [] gen pkt trace (Or.inl rfl) source
  | false => exact .none [] (by rw [trace, List.append_nil]; rfl) unstamped_nil

theorem Shape.writes {s s' : State} {event : Event} (shape : Shape s event s') :
    Writes s event s' := by
  cases shape with
  | @refused seg written idle opens unroutable =>
      cases written with
      | true =>
          refine .none [.syn seg (s.entryGen seg.flow.sport), .tun none _]
            (List.append_assoc _ _ _) ?_
          intro gen pkt member
          simp at member
      | false => exact .none _ rfl (unstamped_singleton (by simp))
  | @synAnswered seg written conn idle opens routable found ready =>
      cases written with
      | true =>
          exact .one [.syn seg (s.entryGen seg.flow.sport)] conn.gen _ (List.append_assoc _ _ _)
            (Or.inr ⟨_, _, rfl⟩) (.synAnswered rfl opens routable found ready rfl)
      | false => exact .none _ rfl (unstamped_singleton (by simp))
  | acked at_ => exact writes_written rfl (.acked at_)
  | synAckSent found at_ => exact writes_written rfl (.synAckSent found at_)
  | @rstSent gen task success found at_ =>
      cases success with
      | true => exact .none [.tun none _] rfl (unstamped_singleton (by simp))
      | false => exact .none [] (List.append_nil _).symm unstamped_nil
  | chunkSent found at_ => exact writes_written rfl (.chunk found at_)
  | closingSent found at_ => exact writes_written rfl (.ending found at_)
  | _ =>
      first
        | exact .none [] (List.append_nil _).symm unstamped_nil
        | exact .none _ rfl (unstamped_singleton (by simp))

/-- A property of every stamped segment, given what the relay had done before it. -/
def EveryStamped (holds : List Output → Nat → TunSegment → Prop) (trace : List Output) : Prop :=
  ∀ before gen pkt after, trace = before ++ .tun (some gen) pkt :: after → holds before gen pkt

theorem EveryStamped.append {holds : List Output → Nat → TunSegment → Prop}
    {trace outputs : List Output} (earlier : EveryStamped holds trace)
    (unstamped : Unstamped outputs) : EveryStamped holds (trace ++ outputs) := by
  intro before gen pkt after split
  rcases append_eq_cons_cases split with ⟨rest, atTrace⟩ | ⟨early, _, atOutputs⟩
  · exact earlier before gen pkt rest atTrace
  · exact absurd (by rw [atOutputs]; simp) (unstamped gen pkt)

theorem EveryStamped.snoc {holds : List Output → Nat → TunSegment → Prop}
    {trace : List Output} {gen : Nat} {pkt : TunSegment} (earlier : EveryStamped holds trace)
    (last : holds trace gen pkt) : EveryStamped holds (trace ++ [.tun (some gen) pkt]) := by
  intro before other written after split
  rcases append_eq_cons_cases split with ⟨rest, atTrace⟩ | ⟨early, atBefore, atOutputs⟩
  · exact earlier before other written rest atTrace
  · cases early with
    | nil =>
        simp only [List.nil_append, List.cons.injEq, Output.tun.injEq,
          Option.some.injEq] at atOutputs
        obtain ⟨⟨rfl, rfl⟩, _⟩ := atOutputs
        rw [atBefore, List.append_nil]
        exact last
    | cons head tail => simp at atOutputs

theorem EveryStamped.mono {holds later : List Output → Nat → TunSegment → Prop}
    {trace : List Output} (earlier : EveryStamped holds trace)
    (implied : ∀ before gen pkt, holds before gen pkt → later before gen pkt) :
    EveryStamped later trace :=
  fun before gen pkt after split => implied before gen pkt (earlier before gen pkt after split)

/-- The step rule for properties of written segments: only the source of the new segment has to
be looked at. -/
theorem Writes.everyStamped {s s' : State} {event : Event}
    (holds : List Output → Nat → TunSegment → Prop)
    (writes : Writes s event s') (earlier : EveryStamped holds s.trace)
    (new : ∀ outputs gen pkt, Source s event gen pkt →
      (outputs = [] ∨ ∃ seg entry, outputs = [.syn seg entry]) →
      holds (s.trace ++ outputs) gen pkt) : EveryStamped holds s'.trace := by
  cases writes with
  | none outputs trace unstamped =>
      rw [trace]
      exact earlier.append unstamped
  | one outputs gen pkt trace records source =>
      rw [trace, ← List.append_assoc]
      have silent : Unstamped outputs := by
        rcases records with rfl | ⟨seg, entry, rfl⟩
        · exact unstamped_nil
        · exact unstamped_singleton (by simp)
      exact (earlier.append silent).snoc (new outputs gen pkt source records)

end MolidoVpn.Relay
