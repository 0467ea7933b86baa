import MolidoVpn.Relay.AppData
import MolidoVpn.Relay.Written

/-!
Acknowledged app bytes and queued app bytes. The counter is stored before
`try_send` is attempted, and a refused send is only logged: the two agree in
every run in which each send finds room, and never again after one that does
not.
-/

namespace MolidoVpn.Relay

open SerialNumber
open Transition (Run Restrict ofNext execute executeChecked run_of_execute run_of_executeChecked)

/-- Where the counter of every generation stands, and where the bytes below it went. -/
structure Accounting (s : State) : Prop where
  unopened : ∀ gen, s.connects gen = none → ackedBytes gen s.trace = []
  counter : ∀ gen task, s.connects gen = some task →
    s.ackShared gen = serial (task.seqNum + 1) (ackedBytes gen s.trace).length
  spent : ∀ gen, (ackedBytes gen s.trace).length =
    (queuedBytes gen s.trace).length + (droppedBytes gen s.trace).length + (inHand s gen).length
  inMain : ∀ seg gen seqAck ackVal, s.main = .sendAck seg gen seqAck ackVal →
    ackVal = s.ackShared gen
  offset : ∀ seg off tx, s.main = .forward seg off tx → off < seg.payload.length

theorem accounting_init : Accounting State.init :=
  { unopened := fun _ _ => rfl
    counter := fun gen task absent => by cases absent
    spent := fun _ => rfl
    inMain := fun seg gen seqAck ackVal at_ => by cases at_
    offset := fun seg off tx at_ => by cases at_ }

private theorem spent_step {s s' : State} {event : Event} (change : DataChange s event s') {gen : Nat}
    (spent : (ackedBytes gen s.trace).length =
      (queuedBytes gen s.trace).length + (droppedBytes gen s.trace).length +
        (inHand s gen).length)
    (wellFormed : WellFormed s) :
    (ackedBytes gen s'.trace).length =
      (queuedBytes gen s'.trace).length + (droppedBytes gen s'.trace).length +
        (inHand s' gen).length := by
  cases change with
  | quiet bytes hand _ =>
      rw [bytes.acked, bytes.queued, bytes.dropped, hand]
      exact spent
  | opened at_ bytes hand _ =>
      have empty : inHand s gen = [] := by
        unfold inHand
        rw [at_]
      rw [bytes.acked, bytes.queued, bytes.dropped, hand]
      rw [empty] at spent
      exact spent
  | @accepted seg _ conn off _ idle data found ready fresh trace main _ =>
      have empty : inHand s gen = [] := by
        unfold inHand
        rw [idle]
      obtain ⟨task, _, _, _, kind⟩ := wellFormed.entry _ _ found
      rcases kind with ⟨pending, _⟩ | ⟨_, sender, _⟩
      · rw [ready] at pending
        cases pending
      · rw [empty, List.length_nil] at spent
        rw [trace, ackedBytes_snoc, queuedBytes_snoc, droppedBytes_snoc]
        unfold inHand
        rw [main, sender]
        simp only [Output.acks, Output.queues, Output.drops, List.append_nil, List.length_append]
        split
        · rw [passedBytes_of_forward data.2.2.2.2 fresh]
          omega
        · simp only [List.length_nil]
          omega
  | @queued seg off other at_ _ trace main _ =>
      rw [trace, ackedBytes_snoc, queuedBytes_snoc, droppedBytes_snoc]
      unfold inHand at spent ⊢
      rw [at_] at spent
      rw [main]
      simp only [Output.acks, Output.queues, Output.drops, List.append_nil, List.length_append,
        List.length_nil] at spent ⊢
      omega
  | @dropped seg off other at_ _ full trace main _ =>
      rw [trace, ackedBytes_snoc, queuedBytes_snoc, droppedBytes_snoc]
      unfold inHand at spent ⊢
      rw [at_] at spent
      rw [main]
      simp only [Output.acks, Output.queues, Output.drops, List.append_nil, List.length_append,
        List.length_nil] at spent ⊢
      omega

/-- The counter moves exactly as far as bytes have passed below it. -/
private theorem counter_accepted {base expected : UInt32} {seg : Segment} {off count : Nat}
    (nonempty : seg.payload ≠ [])
    (decided : classify expected seg.seqNum seg.payload.length = .forward off)
    (stands : expected = serial base count) :
    seg.seqNum + UInt32.ofNat seg.payload.length =
      serial base (count + (seg.payload.drop off).length) := by
  obtain ⟨inside, distance⟩ := classify_forward (List.length_pos_iff.mpr nonempty) decided
  have atOffset := eq_add_of_toNat_sub (toNat_sub_of_signedDistance distance)
  have whole : seg.payload.length = off + (seg.payload.drop off).length := by
    rw [List.length_drop]
    omega
  calc
    seg.seqNum + UInt32.ofNat seg.payload.length =
        seg.seqNum + UInt32.ofNat off + UInt32.ofNat (seg.payload.drop off).length := by
      rw [whole, UInt32.ofNat_add, UInt32.add_assoc]
    _ = serial base (count + (seg.payload.drop off).length) := by
      rw [← atOffset, stands, serial_add]

private theorem counter_step {s s' : State} {event : Event} (shape : Shape s event s')
    (wellFormed : WellFormed s) (accounting : Accounting s) {gen : Nat} {later : ConnectTask}
    (found : s'.connects gen = some later) :
    s'.ackShared gen = serial (later.seqNum + 1) (ackedBytes gen s'.trace).length := by
  rcases shape.connects_origin found with
    ⟨task, before, continues⟩ | ⟨seg, isn, atEvent, at_, rfl, rfl⟩
  · have stands := accounting.counter gen task before
    rw [continues.seqNum]
    cases shape.dataChange with
    | quiet bytes _ counters => rw [counters, bytes.acked, stands]
    | opened _ bytes _ counters =>
        have older := wellFormed.fresh gen task before
        rw [counters, bytes.acked, Function.update_of_ne (Nat.ne_of_lt older), stands]
    | @accepted seg _ conn off _ _ data _ _ fresh trace _ counters =>
        rw [counters, trace, ackedBytes_snoc]
        simp only [Output.acks]
        by_cases here : gen = conn.gen
        · subst here
          rw [Function.update_self, if_pos rfl, passedBytes_of_forward data.2.2.2.2 fresh,
            List.length_append]
          exact counter_accepted data.2.2.2.2 fresh stands
        · rw [Function.update_of_ne here, if_neg (fun same => here same.symm), List.append_nil,
            stands]
    | queued _ _ trace _ counters =>
        rw [counters, trace, ackedBytes_snoc, stands]
        simp only [Output.acks, List.append_nil]
    | dropped _ _ _ trace _ counters =>
        rw [counters, trace, ackedBytes_snoc, stands]
        simp only [Output.acks, List.append_nil]
  · subst atEvent
    cases shape with
    | @inserted other _ atOther =>
        have same : other = seg := MainPc.insertConnecting.inj (atOther.symm.trans at_)
        subst same
        have unopened : s.connects s.nextGen = none := by
          cases present : s.connects s.nextGen with
          | none => rfl
          | some task => exact absurd (wellFormed.fresh _ _ present) (Nat.lt_irrefl _)
        have empty := accounting.unopened s.nextGen unopened
        simp only [insertConnecting, State.returned, State.emit, Function.update_self,
          ackedBytes_snoc, empty, Output.acks, List.append_nil, List.length_nil, serial_zero]

private theorem unopened_step {s s' : State} {event : Event} (shape : Shape s event s')
    (wellFormed : WellFormed s) (accounting : Accounting s) {gen : Nat}
    (missing : s'.connects gen = none) : ackedBytes gen s'.trace = [] := by
  have before : s.connects gen = none := by
    cases present : s.connects gen with
    | none => rfl
    | some task =>
        obtain ⟨later, found, _⟩ := shape.connects_continue wellFormed.fresh present
        rw [missing] at found
        cases found
  have empty := accounting.unopened gen before
  cases shape.dataChange with
  | quiet bytes _ _ => rw [bytes.acked, empty]
  | opened _ bytes _ _ => rw [bytes.acked, empty]
  | @accepted seg _ conn off _ _ _ entry _ _ trace _ _ =>
      obtain ⟨task, opened, _⟩ := wellFormed.entry _ _ entry
      have other : conn.gen ≠ gen := by
        intro same
        rw [same, before] at opened
        cases opened
      rw [trace, ackedBytes_snoc, empty]
      simp only [Output.acks, if_neg other, List.append_nil]
  | queued _ _ trace _ _ =>
      rw [trace, ackedBytes_snoc, empty]
      rfl
  | dropped _ _ _ trace _ _ =>
      rw [trace, ackedBytes_snoc, empty]
      rfl

private theorem inMain_step {s s' : State} {event : Event} (shape : Shape s event s')
    (accounting : Accounting s) {seg : Segment} {gen : Nat} {seqAck ackVal : UInt32}
    (at_ : s'.main = .sendAck seg gen seqAck ackVal) : ackVal = s'.ackShared gen := by
  have undisturbed (main : s'.main = s.main) (counters : s'.ackShared = s.ackShared) :
      ackVal = s'.ackShared gen := by
    rw [main] at at_
    rw [counters]
    exact accounting.inMain seg gen seqAck ackVal at_
  cases shape with
  | countersRead =>
      simp only [MainPc.sendAck.injEq] at at_
      obtain ⟨rfl, rfl, rfl, rfl⟩ := at_
      rfl
  | synAckSent => exact undisturbed (by simp [setConnect]) (by simp [setConnect])
  | rstSent => exact undisturbed (by simp [setConnect]) (by simp [setConnect])
  | chunkSent => exact undisturbed (by simp [setReader]) (by simp [setReader])
  | closingSent => exact undisturbed (by simp [setReader]) (by simp [setReader])
  | _ =>
      first
        | exact undisturbed rfl rfl
        | simp [State.returned, insertConnecting, sendAck] at at_

private theorem offset_step {s s' : State} {event : Event} (shape : Shape s event s')
    (accounting : Accounting s) {seg : Segment} {off : Nat} {tx : Option Nat}
    (at_ : s'.main = .forward seg off tx) : off < seg.payload.length := by
  have undisturbed (main : s'.main = s.main) : off < seg.payload.length :=
    accounting.offset seg off tx (main ▸ at_)
  cases shape with
  | @accepted other written conn from_ idle data found ready fresh =>
      simp only [MainPc.forward.injEq] at at_
      obtain ⟨rfl, rfl, rfl⟩ := at_
      exact (classify_forward (List.length_pos_iff.mpr data.2.2.2.2) fresh).1
  | synAckSent => exact undisturbed (by simp [setConnect])
  | rstSent => exact undisturbed (by simp [setConnect])
  | chunkSent => exact undisturbed (by simp [setReader])
  | closingSent => exact undisturbed (by simp [setReader])
  | _ =>
      first
        | exact undisturbed rfl
        | simp [State.returned, insertConnecting, sendAck] at at_

theorem Shape.accounting {s s' : State} {event : Event} (shape : Shape s event s')
    (wellFormed : WellFormed s) (before : Accounting s) : Accounting s' :=
  { unopened := fun _ missing => unopened_step shape wellFormed before missing
    counter := fun _ _ found => counter_step shape wellFormed before found
    spent := fun gen => spent_step shape.dataChange (before.spent gen) wellFormed
    inMain := fun _ _ _ _ at_ => inMain_step shape before at_
    offset := fun _ _ _ at_ => offset_step shape before at_ }

theorem accounting_of_runs {events : List Event} {s : State}
    (runs : Runs State.init events s) : WellFormed s ∧ Accounting s :=
  runs.invariant (fun s => WellFormed s ∧ Accounting s)
    (fun _ _ _ taken both =>
      ⟨(step_shape taken).wellFormed both.1, (step_shape taken).accounting both.1 both.2⟩)
    ⟨wellFormed_init, accounting_init⟩

/-- A send that is about to be tried finds room in its channel. -/
def roomToSend (s : State) (event : Event) : Bool :=
  match event, s.main with
  | .trySend, .forward _ _ (some gen) => (s.channels gen).hasRoom
  | _, _ => true

/-- An ACK of the data branch covers only app bytes that have been queued: its number stands at
the end of the bytes passed so far, and these are the bytes on the channel. -/
def AckCovered (s : State) (before : List Output) (gen : Nat) (pkt : TunSegment) : Prop :=
  pkt.flags = 0x10 → ∃ task, s.connects gen = some task ∧
    pkt.ack = serial (task.seqNum + 1) (ackedBytes gen before).length ∧
    ackedBytes gen before = queuedBytes gen before

private theorem allQueued_step {s s' : State} {event : Event} (shape : Shape s event s')
    (wellFormed : WellFormed s) (room : roomToSend s event = true) {gen : Nat}
    (queued : ackedBytes gen s.trace = queuedBytes gen s.trace ++ inHand s gen) :
    ackedBytes gen s'.trace = queuedBytes gen s'.trace ++ inHand s' gen := by
  have change := shape.dataChange
  cases change with
  | quiet bytes hand _ => rw [bytes.acked, bytes.queued, hand, queued]
  | opened at_ bytes hand _ =>
      have empty : inHand s gen = [] := by
        unfold inHand
        rw [at_]
      rw [bytes.acked, bytes.queued, hand, queued, empty]
  | @accepted seg _ conn off _ idle data found ready fresh trace main _ =>
      have empty : inHand s gen = [] := by
        unfold inHand
        rw [idle]
      obtain ⟨task, _, _, _, kind⟩ := wellFormed.entry _ _ found
      rcases kind with ⟨pending, _⟩ | ⟨_, sender, _⟩
      · rw [ready] at pending
        cases pending
      · rw [trace, ackedBytes_snoc, queuedBytes_snoc, queued, empty]
        unfold inHand
        rw [main, sender]
        simp only [Output.acks, Output.queues, List.append_nil,
          passedBytes_of_forward data.2.2.2.2 fresh]
  | @queued seg off other at_ _ trace main _ =>
      rw [trace, ackedBytes_snoc, queuedBytes_snoc, queued]
      unfold inHand
      rw [at_, main]
      simp only [Output.acks, Output.queues, List.append_nil]
  | @dropped seg off other at_ sending full trace main _ =>
      have room : (s.channels other).hasRoom = true := by
        simpa only [roomToSend, sending, at_] using room
      rw [full] at room
      cases room

theorem AckCovered.continues {s s' : State} {before : List Output} {gen : Nat} {pkt : TunSegment}
    (covered : AckCovered s before gen pkt)
    (later : ∀ gen task, s.connects gen = some task →
      ∃ later, s'.connects gen = some later ∧ task.Continues later) :
    AckCovered s' before gen pkt := by
  intro ack
  obtain ⟨task, found, number, bytes⟩ := covered ack
  obtain ⟨after, foundAfter, continues⟩ := later gen task found
  exact ⟨after, foundAfter, by rw [continues.seqNum, number], bytes⟩

/-- Where an ACK of the data branch comes from: the main loop, with nothing else in its hands,
and no app bytes between the state it was read in and its place in the history. -/
private theorem source_of_ack {s : State} {event : Event} {gen : Nat} {pkt : TunSegment} {outputs : List Output}
    (source : Source s event gen pkt)
    (records : outputs = [] ∨ ∃ seg entry, outputs = [.syn seg entry]) (ack : pkt.flags = 0x10) :
    (∃ seg seqAck, s.main = .sendAck seg gen seqAck pkt.ack) ∧ inHand s gen = [] ∧
      SameBytes s { s with trace := s.trace ++ outputs } := by
  have bytes : SameBytes s { s with trace := s.trace ++ outputs } := by
    rcases records with rfl | ⟨seg, entry, rfl⟩
    · exact .of_trace (List.append_nil _)
    · exact .of_snoc rfl (fun _ => ⟨rfl, rfl, rfl⟩)
  cases source with
  | synAnswered => simp [synAck, reply] at ack
  | synAckSent => simp [synAck, reply] at ack
  | chunk => simp [reply] at ack
  | @ending _ kind => cases kind <;> simp [reply, Ending.flags] at ack
  | @acked seg seqAck ackVal at_ =>
      refine ⟨⟨seg, seqAck, at_⟩, ?_, bytes⟩
      unfold inHand
      rw [at_]

private theorem ackCovered_source {s : State} {event : Event} {gen : Nat} {pkt : TunSegment}
    {outputs : List Output} (source : Source s event gen pkt)
    (records : outputs = [] ∨ ∃ seg entry, outputs = [.syn seg entry])
    (wellFormed : WellFormed s) (accounting : Accounting s)
    (queued : ∀ gen, ackedBytes gen s.trace = queuedBytes gen s.trace ++ inHand s gen) :
    AckCovered s (s.trace ++ outputs) gen pkt := by
  intro ack
  obtain ⟨⟨seg, seqAck, at_⟩, empty, bytes⟩ := source_of_ack source records ack
  have held := wellFormed.main
  rw [at_] at held
  obtain ⟨task, found, _⟩ := held
  have acked : ackedBytes gen (s.trace ++ outputs) = ackedBytes gen s.trace := bytes.acked gen
  have sent : queuedBytes gen (s.trace ++ outputs) = queuedBytes gen s.trace := bytes.queued gen
  refine ⟨task, found, ?_, ?_⟩
  · rw [acked]
    exact (accounting.inMain seg gen seqAck pkt.ack at_).trans (accounting.counter gen task found)
  · rw [acked, sent, queued gen, empty, List.append_nil]

/-- At every ACK the bytes passed by the counter are those queued and those thrown away. -/
def AckAccounted (before : List Output) (gen : Nat) (pkt : TunSegment) : Prop :=
  pkt.flags = 0x10 → (ackedBytes gen before).length =
    (queuedBytes gen before).length + (droppedBytes gen before).length

theorem ackAccounted_of_runs {events : List Event} {s : State}
    (runs : Runs State.init events s) : EveryStamped AckAccounted s.trace := by
  have both : (WellFormed s ∧ Accounting s) ∧ EveryStamped AckAccounted s.trace := by
    refine runs.invariant
      (fun s => (WellFormed s ∧ Accounting s) ∧ EveryStamped AckAccounted s.trace) ?_ ?_
    · intro source label target taken before
      have shape := step_shape taken
      refine ⟨⟨shape.wellFormed before.1.1, shape.accounting before.1.1 before.1.2⟩, ?_⟩
      apply shape.writes.everyStamped AckAccounted before.2
      intro outputs gen pkt written records ack
      obtain ⟨_, empty, bytes⟩ := source_of_ack written records ack
      have acked : ackedBytes gen (source.trace ++ outputs) = ackedBytes gen source.trace :=
        bytes.acked gen
      have sent : queuedBytes gen (source.trace ++ outputs) = queuedBytes gen source.trace :=
        bytes.queued gen
      have lost : droppedBytes gen (source.trace ++ outputs) = droppedBytes gen source.trace :=
        bytes.dropped gen
      have spent := before.1.2.spent gen
      rw [empty, List.length_nil, Nat.add_zero] at spent
      rw [acked, sent, lost, spent]
    · refine ⟨⟨wellFormed_init, accounting_init⟩, ?_⟩
      intro before gen pkt after split
      simp [State.init] at split
  exact both.2

/-- What holds while every send finds room. -/
structure Lossless (s : State) : Prop where
  wellFormed : WellFormed s
  accounting : Accounting s
  queued : ∀ gen, ackedBytes gen s.trace = queuedBytes gen s.trace ++ inHand s gen
  covered : EveryStamped (AckCovered s) s.trace

theorem lossless_init : Lossless State.init :=
  { wellFormed := wellFormed_init
    accounting := accounting_init
    queued := fun _ => rfl
    covered := fun before gen pkt after split => by simp [State.init] at split }

theorem Shape.lossless {s s' : State} {event : Event} (shape : Shape s event s')
    (room : roomToSend s event = true) (before : Lossless s) : Lossless s' :=
  { wellFormed := shape.wellFormed before.wellFormed
    accounting := shape.accounting before.wellFormed before.accounting
    queued := fun gen => allQueued_step shape before.wellFormed room (before.queued gen)
    covered := by
      have later (gen : Nat) (task : ConnectTask) (found : s.connects gen = some task) :=
        shape.connects_continue before.wellFormed.fresh found
      apply shape.writes.everyStamped (AckCovered s')
      · exact before.covered.mono (fun _ _ _ covered => covered.continues later)
      · intro outputs gen pkt source records
        exact (ackCovered_source source records before.wellFormed before.accounting
          before.queued).continues later }

theorem lossless_of_run {events : List Event} {s : State}
    (run : Run (Restrict (ofNext step) fun s event => roomToSend s event) State.init events s) : Lossless s :=
  run.invariant Lossless
    (fun _ _ _ taken before => (step_shape taken.1).lossless taken.2 before) lossless_init

/-- A refused send is never made good: its bytes stay below the counter, unqueued, at every
later ACK of the generation. -/
theorem not_ackCovered_of_refused {events later : List Event} {s t u : State} {seg : Segment}
    {off gen : Nat} (runs : Runs State.init events s) (at_ : s.main = .forward seg off (some gen))
    (full : (s.channels gen).hasRoom = false) (taken : step s .trySend = some t)
    (rest : Runs t later u) {outputs after : List Output} {pkt : TunSegment}
    (split : u.trace = (t.trace ++ outputs) ++ .tun (some gen) pkt :: after)
    (ack : pkt.flags = 0x10) : ¬AckCovered u (t.trace ++ outputs) gen pkt := by
  have offset := (accounting_of_runs runs).2.offset seg off (some gen) at_
  have refused : t.trace = s.trace ++ [.dropped gen seg (seg.payload.drop off)] := by
    have none := (Channel.trySend_eq_none_iff (s.channels gen) (seg.payload.drop off)).mpr full
    simp only [step, at_, trySend, none, Option.some.injEq] at taken
    rw [← taken]
    rfl
  have whole := ackAccounted_of_runs ((runs.snoc taken).trans rest) _ gen pkt after split ack
  have some_ : 0 < (droppedBytes gen (t.trace ++ outputs)).length := by
    rw [refused]
    simp only [droppedBytes, List.flatMap_append, List.flatMap_cons, List.flatMap_nil,
      Output.drops, if_pos, List.append_nil, List.length_append, List.length_drop]
    omega
  intro covered
  obtain ⟨_, _, _, bytes⟩ := covered ack
  rw [bytes] at whole
  omega

/-- In every run whose sends all find room, each ACK of the data branch covers exactly the app
bytes that have been queued; a send that finds no room breaks this for every later ACK. -/
theorem acks_cover_queued_bytes (events : List Event) (s : State) :
    (Run (Restrict (ofNext step) fun s event => roomToSend s event) State.init events s →
      EveryStamped (AckCovered s) s.trace) ∧
    ∀ later t u seg off gen, Runs State.init events s →
      s.main = .forward seg off (some gen) → (s.channels gen).hasRoom = false →
      step s .trySend = some t → Runs t later u →
      ∀ outputs pkt after, u.trace = (t.trace ++ outputs) ++ .tun (some gen) pkt :: after →
        pkt.flags = 0x10 → ¬AckCovered u (t.trace ++ outputs) gen pkt := by
  constructor
  · intro run
    exact (lossless_of_run run).covered
  · intro later t u seg off gen runs at_ full taken rest outputs pkt after split ack
    exact not_ackCovered_of_refused runs at_ full taken rest split ack

/-- One byte on a new flow: its ACK follows its place on the channel. -/
theorem acks_cover_queued_bytes_single :
    ∃ s, executeChecked step roomToSend State.init (openEvents (.syn webFlow 1000) 0 77 ++
        dataEvents (.byte webFlow 1001 7)) = some s ∧
      s.trace.getLast? = some (.tun (some 0) (reply webFlow 78 1002 0x10 [])) ∧
      EveryStamped (AckCovered s) s.trace := by
  have checked : (executeChecked step roomToSend State.init
      (openEvents (.syn webFlow 1000) 0 77 ++ dataEvents (.byte webFlow 1001 7))).map
        (fun s => s.trace.getLast?) =
      some (some (.tun (some 0) (reply webFlow 78 1002 0x10 []))) := by decide
  obtain ⟨s, executed, last⟩ := Option.map_eq_some_iff.mp checked
  exact ⟨s, executed, last, (acks_cover_queued_bytes _ s).1 (run_of_executeChecked executed)⟩

/-- The app sends one byte at a time while the server takes none: 128 bytes fill the channel,
and the next one is refused and acknowledged all the same. -/
def refusedByteRun : List Event :=
  openEvents (.syn webFlow 1000) 0 77 ++
    (List.range 129).flatMap (fun index =>
      dataEvents (.byte webFlow (1001 + UInt32.ofNat index) 7))

theorem acked_byte_refused :
    ¬∀ events s, Runs State.init events s → EveryStamped (AckCovered s) s.trace := by
  intro claim
  have checked : (execute step State.init refusedByteRun).map
      (fun s => (s.trace.getLast?, (droppedBytes 0 s.trace).length)) =
      some (some (.tun (some 0) (reply webFlow 78 1130 0x10 [])), 1) := by
    decide +kernel
  obtain ⟨s, executed, observed⟩ := Option.map_eq_some_iff.mp checked
  simp only [Prod.mk.injEq] at observed
  obtain ⟨last, lost⟩ := observed
  obtain ⟨before, split⟩ := List.getLast?_eq_some_iff.mp last
  have runs : Runs State.init refusedByteRun s := run_of_execute executed
  obtain ⟨_, _, _, bytes⟩ := claim _ _ runs before 0 _ [] split rfl
  have whole := ackAccounted_of_runs runs before 0 _ [] split rfl
  rw [split, droppedBytes_snoc] at lost
  simp only [Output.drops, List.append_nil] at lost
  rw [bytes] at whole
  omega

end MolidoVpn.Relay
