import MolidoVpn.Relay.AppData
import MolidoVpn.Relay.ResponseSeq

/-!
The app's FIN. The packet handler drops the entry of a session before it looks at the
sequence number or the payload; the reader of the session goes on by itself until a read
ends it.
-/

namespace MolidoVpn.Relay

open SerialNumber
open Transition (Run ofNext execute run_of_execute)

/-- The number that acknowledges a FIN and what comes before it. -/
def finEnd (seg : Segment) : UInt32 := seg.seqNum + UInt32.ofNat seg.payload.length + 1

/-- The bytes of a segment that the data branch would forward. -/
def newBytes (s : State) (gen : Nat) (seg : Segment) : List UInt8 :=
  match classify (s.ackShared gen) seg.seqNum seg.payload.length with
  | .forward off => seg.payload.drop off
  | .ackOnly => []

/-- Nothing is missing before the FIN. -/
def finInOrder (s : State) (gen : Nat) (seg : Segment) : Bool :=
  match classify (s.ackShared gen) seg.seqNum seg.payload.length with
  | .forward _ => true
  | .ackOnly => s.ackShared gen == seg.seqNum + UInt32.ofNat seg.payload.length

def ReadResult.chunk : ReadResult → List UInt8
  | .data bytes => bytes
  | .eof | .timeout | .error => []

def ReadResult.ends : ReadResult → Bool
  | .data _ => false
  | .eof | .timeout | .error => true

/-- The server has ended the response, or its connection is broken. -/
def ReadResult.serverCloses : ReadResult → Bool
  | .eof | .error => true
  | .data _ | .timeout => false

def Event.chunk (gen : Nat) : Event → List UInt8
  | .readerRead other result => if other = gen then result.chunk else []
  | _ => []

def Event.endsReader (gen : Nat) : Event → Bool
  | .readerRead other result => other == gen && result.ends
  | _ => false

/-- The bytes of the server that a reader has read. -/
def serverBytes (gen : Nat) (events : List Event) : List UInt8 := events.flatMap (Event.chunk gen)

/-- How often a read has ended the reader. -/
def endings (gen : Nat) (events : List Event) : Nat := events.countP (Event.endsReader gen)

/-- The chunk that a reader is about to write. -/
def ReaderPc.chunk : ReaderPc → List UInt8
  | .sending _ _ data => data
  | _ => []

def ReaderPc.ended : ReaderPc → Bool
  | .reading | .sending _ _ _ | .storing _ _ => false
  | .closing _ _ _ | .removeEntry | .done => true

def chunkInHand (s : State) (gen : Nat) : List UInt8 :=
  match s.readers gen with
  | some task => task.pc.chunk
  | none => []

def readerEnded (s : State) (gen : Nat) : Bool :=
  match s.readers gen with
  | some task => task.pc.ended
  | none => false

/-- What has become of a FIN of the session `gen` that met the state `s`, once the state is `t` and
`events` have happened since. Bytes that are read reach the TUN as long as it takes what is
written. -/
structure HalfCloseServed (s t : State) (gen : Nat) (seg : Segment) (events : List Event) :
    Prop where
  forwarded : queuedBytes gen s.trace ++ newBytes s gen seg <+: queuedBytes gen t.trace
  acknowledged : finInOrder s gen seg = true → t.ackShared gen = finEnd seg ∧
    ∃ pkt, Output.tun (some gen) pkt ∈ t.trace.drop s.trace.length ∧ pkt.ack = finEnd seg
  answered : Event.reader gen false ∉ events →
    responseBytes gen t.trace ++ chunkInHand t gen =
      responseBytes gen s.trace ++ chunkInHand s gen ++ serverBytes gen events
  open_ : readerEnded t gen = true → readerEnded s gen = true ∨
    ∃ result, result.serverCloses = true ∧ Event.readerRead gen result ∈ events

/-- Nothing can reach the session's queue or its counter any more. -/
structure Closed (s : State) (gen : Nat) : Prop where
  wellFormed : WellFormed s
  opened : ∃ task, s.connects gen = some task ∧ task.pc.installed = true
  entry : ∀ port conn, s.conns port = some conn → conn.gen ≠ gen
  hand : inHand s gen = []

theorem Shape.closed_entry {s s' : State} {event : Event} {gen : Nat} (shape : Shape s event s')
    (closed : Closed s gen) {port : UInt16} {conn : TcpConn}
    (found : s'.conns port = some conn) : conn.gen ≠ gen := by
  obtain ⟨opener, opened, installed⟩ := closed.opened
  cases shape.entryChange with
  | same conns => exact closed.entry port conn (by rw [← conns, found])
  | removed at_ conns =>
      rw [conns] at found
      by_cases here : port = at_
      · rw [here, Function.update_self] at found
        cases found
      · rw [Function.update_of_ne here] at found
        exact closed.entry port conn found
  | @inserted _ seg isn at_ result =>
      subst result
      simp only [insertConnecting] at found
      by_cases here : port = seg.flow.sport
      · rw [here, Function.update_self, Option.some.injEq] at found
        rw [← found]
        exact Nat.ne_of_gt (closed.wellFormed.fresh gen opener opened)
      · rw [Function.update_of_ne here] at found
        exact closed.entry port conn found
  | @installed _ other task success old at_ _ connects conns =>
      rw [conns] at found
      by_cases here : port = task.flow.sport
      · rw [here, Function.update_self, Option.some.injEq] at found
        rw [← found]
        rintro rfl
        rw [opened, Option.some.injEq] at old
        rw [old, at_] at installed
        cases installed
      · rw [Function.update_of_ne here] at found
        exact closed.entry port conn found

/-- What one step leaves alone. -/
theorem Shape.closed_step {s s' : State} {event : Event} {gen : Nat} (shape : Shape s event s')
    (closed : Closed s gen) :
    Closed s' gen ∧ s'.ackShared gen = s.ackShared gen ∧
      queuedBytes gen s'.trace = queuedBytes gen s.trace := by
  obtain ⟨opener, opened, installed⟩ := closed.opened
  have wellFormed := shape.wellFormed closed.wellFormed
  obtain ⟨later, openedLater, continues⟩ :=
    shape.connects_continue closed.wellFormed.fresh opened
  have whole (hand : inHand s' gen = []) : Closed s' gen :=
    ⟨wellFormed, ⟨later, openedLater, continues.installed installed⟩,
      fun _ _ found => shape.closed_entry closed found, hand⟩
  have held := closed.hand
  cases shape.dataChange with
  | quiet bytes hand counters =>
      exact ⟨whole ((hand gen).trans held), by rw [counters], bytes.queued gen⟩
  | opened at_ bytes hand counters =>
      refine ⟨whole (hand gen), ?_, bytes.queued gen⟩
      rw [counters]
      exact Function.update_of_ne (Nat.ne_of_lt (closed.wellFormed.fresh gen opener opened)) _ _
  | @accepted seg written conn off arrives idle data found ready fresh trace main counters =>
      have other := closed.entry _ conn found
      refine ⟨whole ?_, ?_, ?_⟩
      · obtain ⟨task, _, _, _, kind⟩ := closed.wellFormed.entry _ conn found
        rcases kind with ⟨pending, _⟩ | ⟨_, sender, _⟩
        · rw [ready] at pending
          cases pending
        · simp only [inHand, main, sender]
          exact if_neg other
      · rw [counters]
        exact Function.update_of_ne (Ne.symm other) _ _
      · rw [trace, queuedBytes_snoc]
        exact List.append_nil _
  | @queued seg off tx at_ sending trace main counters =>
      refine ⟨whole ?_, by rw [counters], ?_⟩
      · simp only [inHand, main]
      · simp only [inHand, at_] at held
        rw [trace, queuedBytes_snoc]
        simp only [Output.queues, held, List.append_nil]
  | @dropped seg off tx at_ sending full trace main counters =>
      refine ⟨whole ?_, by rw [counters], ?_⟩
      · simp only [inHand, main]
      · rw [trace, queuedBytes_snoc]
        exact List.append_nil _

theorem Closed.of_runs {s t : State} {gen : Nat} {events : List Event} (closed : Closed s gen)
    (runs : Runs s events t) :
    Closed t gen ∧ t.ackShared gen = s.ackShared gen ∧
      queuedBytes gen t.trace = queuedBytes gen s.trace := by
  induction runs with
  | nil => exact ⟨closed, rfl, rfl⟩
  | snoc _ last ih =>
      obtain ⟨middle, counter, queue⟩ := ih
      obtain ⟨after, counterLast, queueLast⟩ := (step_shape last).closed_step middle
      exact ⟨after, counterLast.trans counter, queueLast.trans queue⟩

/-- A FIN in one section: the entry goes, and that is all. -/
theorem step_fin {s m : State} {seg : Segment} {written : Bool} (fin : seg.isFin = true)
    (taken : step s (.packet seg written) = some m) :
    s.main = .idle ∧ m = { s.emit (.closed seg (s.entryGen seg.flow.sport)) with
      conns := Function.update s.conns seg.flow.sport none }.returned 0 := by
  simp only [step] at taken
  split at taken
  · rename_i idle
    refine ⟨idle, ?_⟩
    rw [← Option.some.inj taken, handleTcp, fin, Bool.true_or, if_pos rfl]
  · cases taken

theorem closed_of_fin {s m : State} {seg : Segment} {written : Bool} {gen : Nat}
    {task : ConnectTask} (wellFormed : WellFormed s) (fin : seg.isFin = true)
    (taken : step s (.packet seg written) = some m) (found : s.connects gen = some task)
    (installed : task.pc.installed = true) (port : seg.flow.sport = task.flow.sport) :
    Closed m gen where
  wellFormed := (step_shape taken).wellFormed wellFormed
  opened := by
    rw [(step_fin fin taken).2]
    exact ⟨task, found, installed⟩
  entry := by
    intro at_ conn entry same
    rw [(step_fin fin taken).2] at entry
    change Function.update s.conns seg.flow.sport none at_ = some conn at entry
    by_cases here : at_ = seg.flow.sport
    · rw [here, Function.update_self] at entry
      cases entry
    · rw [Function.update_of_ne here] at entry
      obtain ⟨opener, opened, portOf, _⟩ := wellFormed.entry at_ conn entry
      rw [same, found, Option.some.injEq] at opened
      rw [← portOf, ← opened] at here
      exact here port.symm
  hand := by
    rw [(step_fin fin taken).2]
    rfl

/-- No number of the session's counter acknowledges an in-order FIN. -/
theorem counter_ne_finEnd {s : State} {gen : Nat} {seg : Segment}
    (inOrder : finInOrder s gen seg = true) : s.ackShared gen ≠ finEnd seg := by
  intro same
  have beyond (off : Nat) (inside : off ≤ seg.payload.length)
      (counter : s.ackShared gen = seg.seqNum + UInt32.ofNat off) : False := by
    have short := seg.payload_le
    have values := congrArg UInt32.toNat (counter.symm.trans same)
    have one : (1 : UInt32).toNat = 1 := rfl
    rw [finEnd, UInt32.toNat_add, UInt32.toNat_add, UInt32.toNat_add, UInt32.toNat_ofNat',
      UInt32.toNat_ofNat', one] at values
    omega
  unfold finInOrder at inOrder
  split at inOrder
  · rename_i off decided
    cases bytes : seg.payload with
    | nil =>
        rw [bytes] at decided
        have distance : signedDistance (s.ackShared gen) seg.seqNum = 0 := by
          simp only [classify] at decided
          split at decided
          · assumption
          · split at decided
            · split at decided
              · cases decided
              · rename_i ahead behind
                exact absurd (Nat.zero_le _) behind
            · cases decided
        exact beyond 0 (Nat.zero_le _)
          (eq_add_of_toNat_sub (toNat_sub_of_signedDistance distance))
    | cons first rest =>
        have nonempty : 0 < seg.payload.length := by
          rw [bytes]
          exact Nat.succ_pos _
        obtain ⟨inside, distance⟩ := classify_forward nonempty decided
        exact beyond off (Nat.le_of_lt inside)
          (eq_add_of_toNat_sub (toNat_sub_of_signedDistance distance))
  · exact beyond _ (Nat.le_refl _) (eq_of_beq inOrder)

theorem newBytes_of_gap {s : State} {gen : Nat} {seg : Segment}
    (gap : finInOrder s gen seg = false) : newBytes s gen seg = [] := by
  unfold finInOrder at gap
  unfold newBytes
  split
  · rename_i off decided
    rw [decided] at gap
    cases gap
  · rfl

/-- How one step moves the reader of a session, and what it reads and writes. -/
structure ReaderLaw (s : State) (event : Event) (s' : State) (gen : Nat) : Prop where
  bytes : event ≠ .reader gen false →
    responseBytes gen s'.trace ++ chunkInHand s' gen =
      responseBytes gen s.trace ++ chunkInHand s gen ++ event.chunk gen
  ended : (readerEnded s' gen).toNat = (readerEnded s gen).toNat + (event.endsReader gen).toNat

/-- A step that leaves the reader and its bytes alone. -/
private theorem ReaderLaw.of_same {s s' : State} {event : Event} {gen : Nat}
    (silent : responseBytes gen s'.trace = responseBytes gen s.trace)
    (chunk : chunkInHand s' gen = chunkInHand s gen) (ended : readerEnded s' gen = readerEnded s gen)
    (noChunk : event.chunk gen = []) (noEnd : event.endsReader gen = false) :
    ReaderLaw s event s' gen where
  bytes := by
    intro _
    rw [silent, chunk, noChunk, List.append_nil]
  ended := by rw [ended, noEnd, Bool.toNat_false, Nat.add_zero]

/-- What a reader that moves does to its own session. -/
private theorem ReaderLaw.of_moved {s s' : State} {event : Event} {gen other : Nat}
    {task : ReaderTask} (pc : ReaderPc) (found : s.readers other = some task)
    (readers : s'.readers = Function.update s.readers other (some { task with pc := pc }))
    (elsewhere : other ≠ gen → responseBytes gen s'.trace = responseBytes gen s.trace ∧
      event.chunk gen = [] ∧ event.endsReader gen = false)
    (bytes : other = gen → event ≠ .reader gen false →
      responseBytes gen s'.trace ++ pc.chunk =
        responseBytes gen s.trace ++ task.pc.chunk ++ event.chunk gen)
    (ended : other = gen →
      pc.ended.toNat = task.pc.ended.toNat + (event.endsReader gen).toNat) :
    ReaderLaw s event s' gen := by
  by_cases here : other = gen
  · have before : s.readers gen = some task := by rw [← here, found]
    have after : s'.readers gen = some { task with pc := pc } := by
      rw [readers, here, Function.update_self]
    constructor
    · intro written
      simp only [chunkInHand, before, after]
      exact bytes here written
    · simp only [readerEnded, before, after]
      exact ended here
  · obtain ⟨silent, noChunk, noEnd⟩ := elsewhere here
    apply ReaderLaw.of_same silent _ _ noChunk noEnd
    · simp only [chunkInHand, readers, Function.update_of_ne (Ne.symm here)]
    · simp only [readerEnded, readers, Function.update_of_ne (Ne.symm here)]

private theorem readerRead_law {s s' : State} {other gen : Nat} {result : ReadResult}
    (taken : step s (.readerRead other result) = some s') :
    ReaderLaw s (.readerRead other result) s' gen := by
  simp only [step] at taken
  split at taken
  · rename_i task found
    unfold readerRead at taken
    split at taken
    · rename_i at_
      have elsewhere (trace : s'.trace = s.trace) : other ≠ gen →
          responseBytes gen s'.trace = responseBytes gen s.trace ∧
            (Event.readerRead other result).chunk gen = [] ∧
            (Event.readerRead other result).endsReader gen = false := by
        intro different
        refine ⟨by rw [trace], if_neg different, ?_⟩
        simp only [Event.endsReader, beq_eq_false_iff_ne.mpr different, Bool.false_and]
      cases result with
      | data bytes =>
          simp only at taken
          split at taken
          · cases taken
            apply ReaderLaw.of_moved _ found rfl (elsewhere rfl)
            · intro here _
              rw [at_]
              simp only [Event.chunk, ReadResult.chunk, ReaderPc.chunk, here, if_true,
                List.append_nil]
              rfl
            · intro here
              rw [at_]
              simp only [Event.endsReader, ReadResult.ends, Bool.and_false]
              rfl
          · cases taken
      | eof | timeout | error =>
          cases taken
          apply ReaderLaw.of_moved _ found rfl (elsewhere rfl)
          · intro here _
            rw [at_]
            simp only [Event.chunk, ReadResult.chunk, ReaderPc.chunk, here, if_true,
              List.append_nil]
            rfl
          · intro here
            rw [at_]
            simp only [Event.endsReader, ReadResult.ends, here, beq_self_eq_true, Bool.and_true]
            rfl
    · cases taken
  · cases taken

private theorem reader_law {s s' : State} {other gen : Nat} {written : Bool}
    (shape : Shape s (.reader other written) s') :
    ReaderLaw s (.reader other written) s' gen := by
  cases shape with
  | @chunkSent _ task _ seq ack data found at_ =>
      apply ReaderLaw.of_moved (.storing seq data.length) found
      · simp only [setReader, writeTun_readers]
      · intro different
        refine ⟨?_, rfl, rfl⟩
        change responseBytes gen (s.writeTun (some other) _ written).trace = _
        cases written with
        | true => exact responseBytes_of_snoc (if_neg different)
        | false => rfl
      · intro here whole
        subst here
        cases written with
        | true =>
            change responseBytes other (s.trace ++ [_]) ++ _ = _
            rw [responseBytes_snoc, at_]
            simp only [Output.response, if_true, ReaderPc.chunk, Event.chunk, List.append_nil]
            rfl
        | false => exact absurd rfl whole
      · intro _
        rw [at_]
        rfl
  | @seqAdvanced _ task _ seq count found at_ =>
      apply ReaderLaw.of_moved _ found rfl
      · exact fun _ => ⟨rfl, rfl, rfl⟩
      · intro _ _
        rw [at_]
        exact (List.append_nil _).symm
      · intro _
        rw [at_]
        rfl
  | @closingSent _ task _ ending seq ack found at_ =>
      have silent : responseBytes gen (s.writeTun (some other)
          (reply task.flow seq ack ending.flags []) written).trace = responseBytes gen s.trace :=
        responseBytes_writeTun rfl
      apply ReaderLaw.of_moved .removeEntry found
      · simp only [setReader, writeTun_readers]
      · exact fun _ => ⟨silent, rfl, rfl⟩
      · intro _ _
        rw [at_]
        change responseBytes gen (s.writeTun _ _ written).trace ++ _ = _
        rw [silent]
        exact (List.append_nil _).symm
      · intro _
        rw [at_]
        rfl
  | @readerRemoved _ task _ found at_ =>
      have silent : responseBytes gen (s.trace ++
          [.removed (.reader other) (s.entryGen task.flow.sport)]) = responseBytes gen s.trace :=
        responseBytes_of_snoc rfl
      apply ReaderLaw.of_moved .done found rfl
      · exact fun _ => ⟨silent, rfl, rfl⟩
      · intro _ _
        rw [at_]
        change responseBytes gen (s.trace ++ _) ++ _ = _
        rw [silent]
        exact (List.append_nil _).symm
      · intro _
        rw [at_]
        rfl

/-- A step that is not a reader's leaves the readers alone, or spawns one. -/
private theorem other_readers {s s' : State} {event : Event} (shape : Shape s event s')
    (wellFormed : WellFormed s) (notRead : ∀ gen result, event ≠ .readerRead gen result)
    (notReader : ∀ gen written, event ≠ .reader gen written) (gen : Nat) :
    chunkInHand s' gen = chunkInHand s gen ∧ readerEnded s' gen = readerEnded s gen := by
  have kept (same : s'.readers = s.readers) :
      chunkInHand s' gen = chunkInHand s gen ∧ readerEnded s' gen = readerEnded s gen := by
    unfold chunkInHand readerEnded
    rw [same]
    exact ⟨rfl, rfl⟩
  cases shape with
  | chunkRead => exact absurd rfl (notRead _ _)
  | responseEnded => exact absurd rfl (notRead _ _)
  | chunkSent => exact absurd rfl (notReader _ _)
  | seqAdvanced => exact absurd rfl (notReader _ _)
  | closingSent => exact absurd rfl (notReader _ _)
  | readerRemoved => exact absurd rfl (notReader _ _)
  | @tasksSpawned other task success found at_ =>
      by_cases here : gen = other
      · have absent := reader_absent wellFormed found (by rw [at_]; rfl)
        subst here
        simp only [chunkInHand, readerEnded, absent, Function.update_self]
        cases success with
        | true => exact ⟨rfl, rfl⟩
        | false => exact ⟨rfl, rfl⟩
      · simp only [chunkInHand, readerEnded, Function.update_of_ne here]
        exact ⟨trivial, trivial⟩
  | _ =>
      apply kept
      first
        | rfl
        | simp only [State.returned, State.emit, sendAck, setConnect, writeTun_readers]

theorem step_readerLaw {s s' : State} {event : Event} (wellFormed : WellFormed s)
    (taken : step s event = some s') (gen : Nat) : ReaderLaw s event s' gen := by
  have shape := step_shape taken
  cases event with
  | readerRead other result => exact readerRead_law taken
  | reader other written => exact reader_law shape
  | _ =>
      obtain ⟨chunk, ended⟩ := other_readers shape wellFormed (fun _ _ same => by cases same)
        (fun _ _ same => by cases same) gen
      apply ReaderLaw.of_same _ chunk ended rfl rfl
      cases shape.seqChange with
      | same silent | opened silent | stored silent | spawned silent | moved _ silent
      | advanced silent => exact silent gen
      | sent arrives => cases arrives

/-- Over a run: what is read is written or in the reader's hand, and one read ends a reader. -/
theorem reader_of_runs {s t : State} {events : List Event} (wellFormed : WellFormed s)
    (runs : Runs s events t) (gen : Nat) :
    (Event.reader gen false ∉ events →
      responseBytes gen t.trace ++ chunkInHand t gen =
        responseBytes gen s.trace ++ chunkInHand s gen ++ serverBytes gen events) ∧
      (readerEnded t gen).toNat = (readerEnded s gen).toNat + endings gen events := by
  induction runs with
  | nil =>
      constructor
      · intro _
        exact (List.append_nil _).symm
      · rfl
  | @snoc middle finish events event before last ih =>
      obtain ⟨bytes, ended⟩ := ih
      have middleFormed : WellFormed middle := before.invariant WellFormed
        (fun _ _ _ taken formed => (step_shape taken).wellFormed formed) wellFormed
      have law := step_readerLaw middleFormed last gen
      constructor
      · intro whole
        rw [List.mem_append, List.mem_singleton, not_or] at whole
        have grown : serverBytes gen (events ++ [event]) =
            serverBytes gen events ++ event.chunk gen := by
          rw [serverBytes, List.flatMap_append, List.flatMap_singleton]
          rfl
        rw [law.bytes (Ne.symm whole.2), bytes whole.1, grown, List.append_assoc]
      · have count : endings gen (events ++ [event]) =
            endings gen events + (event.endsReader gen).toNat := by
          rw [endings, List.countP_append, List.countP_singleton]
          cases event.endsReader gen <;> rfl
        have one := law.ended
        omega

private theorem one_ending {gen : Nat} {events : List Event} {first second : Event}
    (few : endings gen events ≤ 1) (firstIn : first ∈ events) (secondIn : second ∈ events)
    (firstEnds : first.endsReader gen = true) (secondEnds : second.endsReader gen = true) :
    first = second := by
  rw [endings, List.countP_eq_length_filter] at few
  have firstKept := List.mem_filter.mpr ⟨firstIn, firstEnds⟩
  have secondKept := List.mem_filter.mpr ⟨secondIn, secondEnds⟩
  generalize events.filter (Event.endsReader gen) = kept at few firstKept secondKept
  match kept, few with
  | [], _ => cases firstKept
  | [only], _ => rw [List.mem_singleton.mp firstKept, List.mem_singleton.mp secondKept]

/-- What ends a response is the server's close exactly when no idle timeout has ended it. -/
private theorem ended_open_iff {gen : Nat} {events : List Event} {early stopped : Bool}
    (ended : stopped.toNat = early.toNat + endings gen events) :
    (stopped = true → early = true ∨
        ∃ result, result.serverCloses = true ∧ Event.readerRead gen result ∈ events) ↔
      Event.readerRead gen .timeout ∉ events := by
  constructor
  · intro open_ timedOut
    have some_ : 0 < endings gen events := List.countP_pos_iff.mpr
      ⟨_, timedOut, by simp only [Event.endsReader, ReadResult.ends, beq_self_eq_true,
        Bool.and_self]⟩
    have most := Bool.toNat_le stopped
    have now : stopped = true := by
      cases stopped with
      | true => rfl
      | false =>
          rw [Bool.toNat_false] at ended
          omega
    rw [now, Bool.toNat_true] at ended
    rcases open_ now with already | ⟨result, serverCloses, member⟩
    · rw [already, Bool.toNat_true] at ended
      omega
    · have ends : result.ends = true := by
        cases result with
        | data bytes => cases serverCloses
        | eof | timeout | error => rfl
      have few : endings gen events ≤ 1 := by omega
      have same := one_ending few timedOut member
        (by simp only [Event.endsReader, ReadResult.ends, beq_self_eq_true, Bool.and_self])
        (by simp only [Event.endsReader, ends, beq_self_eq_true, Bool.and_self])
      cases same
      cases serverCloses
  · intro patient now
    rw [now, Bool.toNat_true] at ended
    cases early with
    | true => exact Or.inl rfl
    | false =>
        rw [Bool.toNat_false, Nat.zero_add] at ended
        obtain ⟨event, member, ends⟩ := List.countP_pos_iff.mp
          (show 0 < endings gen events by omega)
        right
        cases event with
        | readerRead other result =>
            simp only [Event.endsReader, Bool.and_eq_true, beq_iff_eq] at ends
            obtain ⟨rfl, ends⟩ := ends
            refine ⟨result, ?_, member⟩
            cases result with
            | data bytes => cases ends
            | eof | error => rfl
            | timeout => exact absurd member patient
        | _ => cases ends

/-- A FIN with one byte. -/
def Segment.lastByte (flow : Flow) (seqNum : UInt32) (value : UInt8) : Segment :=
  { Segment.byte flow seqNum value with isFin := true }

end MolidoVpn.Relay
