import MolidoVpn.Relay.Bookkeeping

/-!
App bytes on their way to the server: what the acknowledgement counter of a
generation has passed, what has been queued for its writer, and what the main
loop still has in its hands.
-/

namespace MolidoVpn.Relay

open SerialNumber
open Transition (Run Restrict ofNext)

/-- The payload bytes whose sequence numbers the counter passed on its way from `old` to
`new`. -/
def passedBytes (seg : Segment) (old new : UInt32) : List UInt8 :=
  (seg.payload.zipIdx.filter
    (fun byte => decide (seg.seqNum + UInt32.ofNat byte.2 - old < new - old))).map Prod.fst

def Output.acks (gen : Nat) : Output → List UInt8
  | .stored other seg old new => if other = gen then passedBytes seg old new else []
  | _ => []

def Output.queues (gen : Nat) : Output → List UInt8
  | .queued other _ slice => if other = gen then slice else []
  | _ => []

def Output.drops (gen : Nat) : Output → List UInt8
  | .dropped other _ slice => if other = gen then slice else []
  | _ => []

/-- The app bytes below the acknowledgement counter of a generation. -/
def ackedBytes (gen : Nat) (trace : List Output) : List UInt8 :=
  trace.flatMap (Output.acks gen)

/-- The app bytes put on the data channel of a generation. -/
def queuedBytes (gen : Nat) (trace : List Output) : List UInt8 :=
  trace.flatMap (Output.queues gen)

/-- The app bytes that a failed `try_send` threw away. -/
def droppedBytes (gen : Nat) (trace : List Output) : List UInt8 :=
  trace.flatMap (Output.drops gen)

/-- The slice that the main loop is about to send, once the counter has been stored. -/
def inHand (s : State) (gen : Nat) : List UInt8 :=
  match s.main with
  | .forward seg off (some tx) => if tx = gen then seg.payload.drop off else []
  | _ => []

private theorem filter_zipIdx_from (bytes : List UInt8) (start off : Nat) :
    ((bytes.zipIdx start).filter (fun byte => decide (off ≤ byte.2))).map Prod.fst =
      bytes.drop (off - start) := by
  induction bytes generalizing start with
  | nil => simp
  | cons head tail ih =>
      rw [List.zipIdx_cons, List.filter_cons]
      by_cases kept : off ≤ start
      · have none : off - start = 0 := by omega
        have noneLater : off - (start + 1) = 0 := by omega
        rw [if_pos (by simpa using kept), List.map_cons, ih, none, noneLater]
        rfl
      · have more : off - start = (off - (start + 1)) + 1 := by omega
        rw [if_neg (by simpa using kept), ih, more, List.drop_succ_cons]

theorem classify_forward {expected seqNum : UInt32} {len off : Nat} (nonempty : 0 < len)
    (decided : classify expected seqNum len = .forward off) :
    off < len ∧ signedDistance expected seqNum = off := by
  unfold classify at decided
  by_cases exact_ : signedDistance expected seqNum = 0
  · simp only [exact_, if_true, Action.forward.injEq] at decided
    subst decided
    exact ⟨nonempty, exact_⟩
  · simp only [if_neg exact_] at decided
    split at decided
    · rename_i ahead
      split at decided
      · cases decided
      · rename_i overlap
        cases decided
        constructor <;> omega
    · cases decided

/-- When the counter moves to the end of a segment it passes exactly the slice that is then
forwarded. -/
theorem passedBytes_of_forward {expected : UInt32} {seg : Segment} {off : Nat}
    (nonempty : seg.payload ≠ [])
    (decided : classify expected seg.seqNum seg.payload.length = .forward off) :
    passedBytes seg expected (seg.seqNum + UInt32.ofNat seg.payload.length) =
      seg.payload.drop off := by
  obtain ⟨inside, distance⟩ := classify_forward (List.length_pos_iff.mpr nonempty) decided
  have steps := toNat_sub_of_signedDistance distance
  have atOffset := eq_add_of_toNat_sub steps
  have short := seg.payload_le
  have sameFilter : ∀ byte ∈ seg.payload.zipIdx,
      decide (seg.seqNum + UInt32.ofNat byte.2 - expected <
        seg.seqNum + UInt32.ofNat seg.payload.length - expected) = decide (off ≤ byte.2) := by
    intro byte member
    have index := List.snd_lt_of_mem_zipIdx member
    rw [decide_eq_decide, UInt32.lt_iff_toNat_lt, atOffset]
    simp only [UInt32.toNat_sub, UInt32.toNat_add, UInt32.toNat_ofNat']
    omega
  unfold passedBytes
  rw [List.filter_congr sameFilter, filter_zipIdx_from, Nat.sub_zero]

@[simp]
theorem ackedBytes_snoc (gen : Nat) (trace : List Output) (output : Output) :
    ackedBytes gen (trace ++ [output]) = ackedBytes gen trace ++ output.acks gen := by
  simp [ackedBytes]

@[simp]
theorem queuedBytes_snoc (gen : Nat) (trace : List Output) (output : Output) :
    queuedBytes gen (trace ++ [output]) = queuedBytes gen trace ++ output.queues gen := by
  simp [queuedBytes]

@[simp]
theorem droppedBytes_snoc (gen : Nat) (trace : List Output) (output : Output) :
    droppedBytes gen (trace ++ [output]) = droppedBytes gen trace ++ output.drops gen := by
  simp [droppedBytes]

/-- The three histories of app bytes are the same in both states. -/
structure SameBytes (s s' : State) : Prop where
  acked : ∀ gen, ackedBytes gen s'.trace = ackedBytes gen s.trace
  queued : ∀ gen, queuedBytes gen s'.trace = queuedBytes gen s.trace
  dropped : ∀ gen, droppedBytes gen s'.trace = droppedBytes gen s.trace

theorem SameBytes.of_trace {s s' : State} (same : s'.trace = s.trace) : SameBytes s s' :=
  ⟨fun gen => by rw [same], fun gen => by rw [same], fun gen => by rw [same]⟩

theorem SameBytes.of_snoc {s s' : State} {output : Output}
    (trace : s'.trace = s.trace ++ [output])
    (silent : ∀ gen, output.acks gen = [] ∧ output.queues gen = [] ∧ output.drops gen = []) :
    SameBytes s s' :=
  ⟨fun gen => by rw [trace, ackedBytes_snoc, (silent gen).1, List.append_nil],
    fun gen => by rw [trace, queuedBytes_snoc, (silent gen).2.1, List.append_nil],
    fun gen => by rw [trace, droppedBytes_snoc, (silent gen).2.2, List.append_nil]⟩

theorem SameBytes.of_written {s t s' : State} {gen : Option Nat} {pkt : TunSegment}
    {written : Bool} (before : SameBytes s t)
    (trace : s'.trace = (t.writeTun gen pkt written).trace) : SameBytes s s' := by
  cases written with
  | true =>
      have last : SameBytes t s' := .of_snoc trace (fun _ => ⟨rfl, rfl, rfl⟩)
      exact
        ⟨fun gen => (last.acked gen).trans (before.acked gen),
          fun gen => (last.queued gen).trans (before.queued gen),
          fun gen => (last.dropped gen).trans (before.dropped gen)⟩
  | false =>
      have same : s'.trace = t.trace := trace
      exact
        ⟨fun gen => by rw [same, before.acked], fun gen => by rw [same, before.queued],
          fun gen => by rw [same, before.dropped]⟩

theorem inHand_of_main {s s' : State} (main : s'.main = s.main) (gen : Nat) :
    inHand s' gen = inHand s gen := by
  unfold inHand
  rw [main]

/-- How one step moves app bytes and the acknowledgement counters. -/
inductive DataChange (s : State) (event : Event) (s' : State) : Prop where
  | quiet (bytes : SameBytes s s') (hand : ∀ gen, inHand s' gen = inHand s gen)
      (counters : s'.ackShared = s.ackShared)
  | opened {seg : Segment} (at_ : s.main = .insertConnecting seg) (bytes : SameBytes s s')
      (hand : ∀ gen, inHand s' gen = [])
      (counters : s'.ackShared = Function.update s.ackShared s.nextGen (seg.seqNum + 1))
  | accepted {seg : Segment} {written : Bool} {conn : TcpConn} {off : Nat}
      (arrives : event = .packet seg written) (idle : s.main = .idle)
      (data : seg.carriesData) (found : s.conns seg.flow.sport = some conn)
      (ready : conn.connecting = false)
      (fresh : classify (s.ackShared conn.gen) seg.seqNum seg.payload.length = .forward off)
      (trace : s'.trace = s.trace ++ [.stored conn.gen seg (s.ackShared conn.gen)
        (seg.seqNum + UInt32.ofNat seg.payload.length)])
      (main : s'.main = .forward seg off conn.dataTx)
      (counters : s'.ackShared = Function.update s.ackShared conn.gen
        (seg.seqNum + UInt32.ofNat seg.payload.length))
  | queued {seg : Segment} {off gen : Nat} (at_ : s.main = .forward seg off (some gen))
      (sending : event = .trySend)
      (trace : s'.trace = s.trace ++ [.queued gen seg (seg.payload.drop off)])
      (main : s'.main = .readCounters seg) (counters : s'.ackShared = s.ackShared)
  | dropped {seg : Segment} {off gen : Nat} (at_ : s.main = .forward seg off (some gen))
      (sending : event = .trySend) (full : (s.channels gen).hasRoom = false)
      (trace : s'.trace = s.trace ++ [.dropped gen seg (seg.payload.drop off)])
      (main : s'.main = .readCounters seg) (counters : s'.ackShared = s.ackShared)

private theorem inHand_eq_nil {s : State}
    (elsewhere : ∀ seg off gen, s.main ≠ .forward seg off (some gen)) (gen : Nat) :
    inHand s gen = [] := by
  unfold inHand
  split
  · rename_i seg off tx at_
    exact absurd at_ (elsewhere seg off tx)
  · rfl

private theorem quiet_of_elsewhere {s s' : State} {event : Event} (bytes : SameBytes s s')
    (before : ∀ seg off gen, s.main ≠ .forward seg off (some gen))
    (after : ∀ seg off gen, s'.main ≠ .forward seg off (some gen))
    (counters : s'.ackShared = s.ackShared) : DataChange s event s' :=
  .quiet bytes (fun gen => by rw [inHand_eq_nil before, inHand_eq_nil after]) counters

theorem Shape.dataChange {s s' : State} {event : Event} (shape : Shape s event s') :
    DataChange s event s' := by
  cases shape with
  | closed idle =>
      refine quiet_of_elsewhere (.of_snoc rfl fun _ => ⟨rfl, rfl, rfl⟩) ?_ ?_ rfl
      · simp [idle]
      · simp [State.returned]
  | @refused seg _ idle =>
      have seen : SameBytes s (s.emit (.syn seg (s.entryGen seg.flow.sport))) :=
        .of_snoc rfl (fun _ => ⟨rfl, rfl, rfl⟩)
      refine quiet_of_elsewhere (seen.of_written rfl) ?_ ?_ (by simp [State.returned, State.emit])
      · simp [idle]
      · simp [State.returned]
  | synWhileConnecting idle =>
      refine quiet_of_elsewhere (.of_snoc rfl fun _ => ⟨rfl, rfl, rfl⟩) ?_ ?_ rfl
      · simp [idle]
      · simp [State.returned]
  | @synAnswered seg _ _ idle =>
      have seen : SameBytes s (s.emit (.syn seg (s.entryGen seg.flow.sport))) :=
        .of_snoc rfl (fun _ => ⟨rfl, rfl, rfl⟩)
      refine quiet_of_elsewhere (seen.of_written rfl) ?_ ?_ (by simp [State.returned, State.emit])
      · simp [idle]
      · simp [State.returned]
  | synFresh idle =>
      refine quiet_of_elsewhere (.of_snoc rfl fun _ => ⟨rfl, rfl, rfl⟩) ?_ ?_ rfl
      · simp [idle]
      · simp
  | ignored idle =>
      refine quiet_of_elsewhere (.of_trace rfl) ?_ ?_ rfl
      · simp [idle]
      · simp [State.returned]
  | accepted idle data found ready fresh =>
      exact .accepted rfl idle data found ready fresh rfl rfl rfl
  | stale idle =>
      refine quiet_of_elsewhere (.of_trace rfl) ?_ ?_ rfl
      · simp [idle]
      · simp
  | inserted at_ =>
      exact .opened at_ (.of_snoc rfl fun _ => ⟨rfl, rfl, rfl⟩) (fun _ => rfl) rfl
  | noSender at_ =>
      refine quiet_of_elsewhere (.of_trace rfl) ?_ ?_ rfl
      · simp [at_]
      · simp
  | queued at_ sent => exact .queued at_ rfl rfl rfl rfl
  | dropped at_ full =>
      exact .dropped at_ rfl ((Channel.trySend_eq_none_iff _ _).mp full) rfl rfl rfl
  | entryGone at_ =>
      refine quiet_of_elsewhere (.of_trace rfl) ?_ ?_ rfl
      · simp [at_]
      · simp [State.returned]
  | countersRead at_ =>
      refine quiet_of_elsewhere (.of_trace rfl) ?_ ?_ rfl
      · simp [at_]
      · simp
  | acked at_ =>
      refine quiet_of_elsewhere ((SameBytes.of_trace rfl).of_written rfl) ?_ ?_
        (by simp [sendAck, State.returned])
      · simp [at_]
      · simp [sendAck, State.returned]
  | entryInstalled =>
      exact .quiet (.of_snoc rfl fun _ => ⟨rfl, rfl, rfl⟩) (inHand_of_main rfl) rfl
  | connectRemoved =>
      exact .quiet (.of_snoc rfl fun _ => ⟨rfl, rfl, rfl⟩) (inHand_of_main rfl) rfl
  | readerRemoved =>
      exact .quiet (.of_snoc rfl fun _ => ⟨rfl, rfl, rfl⟩) (inHand_of_main rfl) rfl
  | synAckSent =>
      exact .quiet ((SameBytes.of_trace rfl).of_written rfl) (inHand_of_main (by simp [setConnect]))
        (by simp [setConnect])
  | rstSent =>
      exact .quiet ((SameBytes.of_trace rfl).of_written rfl) (inHand_of_main (by simp [setConnect]))
        (by simp [setConnect])
  | chunkSent =>
      exact .quiet ((SameBytes.of_trace rfl).of_written rfl) (inHand_of_main (by simp [setReader]))
        (by simp [setReader])
  | closingSent =>
      exact .quiet ((SameBytes.of_trace rfl).of_written rfl) (inHand_of_main (by simp [setReader]))
        (by simp [setReader])
  | _ => exact .quiet (.of_trace rfl) (inHand_of_main rfl) rfl

end MolidoVpn.Relay
