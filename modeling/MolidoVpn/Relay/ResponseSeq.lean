import MolidoVpn.Relay.Written

/-!
Sequence numbers towards the app. The reader and the packet handler stamp their
segments from one shared counter, which the reader moves only after its write;
the number stands for the bytes already written as long as no write of a chunk
fails and no counter is read or held across one.
-/

namespace MolidoVpn.Relay

open SerialNumber
open Transition (Run Restrict ofNext execute executeChecked run_of_execute run_of_executeChecked)

def Output.response (gen : Nat) : Output → List UInt8
  | .tun (some other) pkt => if other = gen then pkt.payload else []
  | _ => []

/-- The response bytes of a generation that reached the TUN. -/
def responseBytes (gen : Nat) (trace : List Output) : List UInt8 :=
  trace.flatMap (Output.response gen)

/-- The segment carries the number after the ISN and the response bytes written before it. -/
def InSequence (s : State) (before : List Output) (gen : Nat) (pkt : TunSegment) : Prop :=
  pkt.flags ≠ 0x12 → ∃ task, s.connects gen = some task ∧
    pkt.seq = task.isn + 1 + UInt32.ofNat (responseBytes gen before).length

/-- The sequence number that the main loop has read for an ACK and not yet sent. -/
def ackInHand (s : State) (gen : Nat) : Option UInt32 :=
  match s.main with
  | .sendAck _ other seqAck _ => if other = gen then some seqAck else none
  | _ => none

/-- The bytes that the reader has written and not yet added to the counter. -/
def ReaderPc.unstored : ReaderPc → Nat
  | .storing _ count => count
  | _ => 0

def unstored (s : State) (gen : Nat) : Nat :=
  match s.readers gen with
  | some task => task.pc.unstored
  | none => 0

/-- The chunk reaches the TUN while no ACK of its flow is in hand, and no counter is read
between a chunk's write and its addition. -/
def seqSafe (s : State) : Event → Bool
  | .reader gen written =>
      match s.readers gen with
      | some { pc := .sending _ _ _, .. } => written && (ackInHand s gen).isNone
      | _ => true
  | .readCounters =>
      match s.main with
      | .readCounters seg =>
          match s.conns seg.flow.sport with
          | some conn => unstored s conn.gen == 0
          | none => true
      | _ => true
  | _ => true

/-- The number that the next segment of the generation has to carry. -/
def nextSeq (s : State) (gen : Nat) : UInt32 :=
  s.seqShared gen + UInt32.ofNat (unstored s gen)

/-- What the reader holds agrees with the counter it was loaded from. -/
def HoldsSeq (shared : UInt32) : ReaderPc → Prop
  | .sending seq _ data => seq = shared ∧ 0 < data.length ∧ data.length ≤ 65535
  | .storing seq count => seq = shared ∧ 0 < count ∧ count ≤ 65535
  | .closing _ seq _ => seq = shared
  | _ => True

/-- Where the shared counter of every generation stands. -/
structure Tracked (s : State) : Prop where
  wellFormed : WellFormed s
  unread : ∀ gen, s.readers gen = none → responseBytes gen s.trace = []
  next : ∀ gen task, s.connects gen = some task → task.pc.seqStored = true →
    nextSeq s gen = serial (task.isn + 1) (responseBytes gen s.trace).length
  reader : ∀ gen task, s.readers gen = some task → HoldsSeq (s.seqShared gen) task.pc

theorem tracked_init : Tracked State.init :=
  { wellFormed := wellFormed_init
    unread := fun _ _ => rfl
    next := fun gen task absent => by cases absent
    reader := fun gen task absent => by cases absent }

@[simp]
theorem responseBytes_snoc (gen : Nat) (trace : List Output) (output : Output) :
    responseBytes gen (trace ++ [output]) = responseBytes gen trace ++ output.response gen := by
  simp [responseBytes]

theorem responseBytes_of_snoc {gen : Nat} {trace : List Output} {output : Output}
    (silent : output.response gen = []) :
    responseBytes gen (trace ++ [output]) = responseBytes gen trace := by
  rw [responseBytes_snoc, silent, List.append_nil]

theorem responseBytes_writeTun {s : State} {gen : Nat} {stamp : Option Nat} {pkt : TunSegment}
    {written : Bool} (empty : pkt.payload = []) :
    responseBytes gen (s.writeTun stamp pkt written).trace = responseBytes gen s.trace := by
  cases written with
  | true =>
      apply responseBytes_of_snoc
      cases stamp with
      | none => rfl
      | some other => simp only [Output.response, empty, ite_self]
  | false => rfl

/-- The response bytes of no generation change. -/
def Silent (s s' : State) : Prop :=
  ∀ gen, responseBytes gen s'.trace = responseBytes gen s.trace

private theorem silent_snoc {s s' : State} {output : Output}
    (trace : s'.trace = s.trace ++ [output]) (silent : ∀ gen, output.response gen = []) :
    Silent s s' :=
  fun gen => by rw [trace, responseBytes_of_snoc (silent gen)]

private theorem silent_written {s t s' : State} {stamp : Option Nat} {pkt : TunSegment}
    {written : Bool} (before : Silent s t)
    (trace : s'.trace = (t.writeTun stamp pkt written).trace) (empty : pkt.payload = []) :
    Silent s s' :=
  fun gen => by rw [trace, responseBytes_writeTun empty, before gen]

/-- How one step moves the shared counters, the readers that use them and the bytes written. -/
inductive SeqChange (s : State) (event : Event) (s' : State) : Prop where
  | same (silent : Silent s s') (shared : s'.seqShared = s.seqShared)
      (readers : s'.readers = s.readers)
  | opened {isn : UInt32} (silent : Silent s s')
      (shared : s'.seqShared = Function.update s.seqShared s.nextGen isn)
      (readers : s'.readers = s.readers)
  | stored {gen : Nat} {task : ConnectTask} (silent : Silent s s')
      (found : s.connects gen = some task) (at_ : task.pc = .storeSeq)
      (shared : s'.seqShared = Function.update s.seqShared gen (task.isn + 1))
      (readers : s'.readers = s.readers)
  | spawned {gen : Nat} {task : ConnectTask} {reader : Option ReaderTask} (silent : Silent s s')
      (found : s.connects gen = some task) (at_ : task.pc = .spawnTasks)
      (shared : s'.seqShared = s.seqShared)
      (readers : s'.readers = Function.update s.readers gen reader)
      (fresh : ∀ task, reader = some task → task.pc = .reading)
  | moved {gen : Nat} {task : ReaderTask} (pc : ReaderPc) (silent : Silent s s')
      (found : s.readers gen = some task) (shared : s'.seqShared = s.seqShared)
      (readers : s'.readers = Function.update s.readers gen (some { task with pc := pc }))
      (level : task.pc.unstored = 0 ∧ pc.unstored = 0) (holds : HoldsSeq (s.seqShared gen) pc)
  | sent {gen : Nat} {task : ReaderTask} {written : Bool} {seq ack : UInt32} {data : List UInt8}
      (arrives : event = .reader gen written) (found : s.readers gen = some task)
      (at_ : task.pc = .sending seq ack data)
      (trace : s'.trace = (s.writeTun (some gen) (reply task.flow seq ack 0x18 data)
        written).trace)
      (shared : s'.seqShared = s.seqShared)
      (readers : s'.readers = Function.update s.readers gen
        (some { task with pc := .storing seq data.length }))
  | advanced {gen : Nat} {task : ReaderTask} {seq : UInt32} {count : Nat} (silent : Silent s s')
      (found : s.readers gen = some task) (at_ : task.pc = .storing seq count)
      (shared : s'.seqShared = Function.update s.seqShared gen (seq + UInt32.ofNat count))
      (readers : s'.readers = Function.update s.readers gen (some { task with pc := .reading }))

theorem Shape.seqChange {s s' : State} {event : Event} (shape : Shape s event s') :
    SeqChange s event s' := by
  have unchanged : Silent s s := fun _ => rfl
  have seen (seg : Segment) : Silent s (s.emit (.syn seg (s.entryGen seg.flow.sport))) :=
    silent_snoc rfl (fun _ => rfl)
  cases shape with
  | closed => exact .same (silent_snoc rfl fun _ => rfl) rfl rfl
  | @refused seg =>
      exact .same (silent_written (seen seg) rfl rfl) (by simp [State.returned, State.emit])
        (by simp [State.returned, State.emit])
  | synWhileConnecting => exact .same (silent_snoc rfl fun _ => rfl) rfl rfl
  | @synAnswered seg =>
      exact .same (silent_written (seen seg) rfl rfl) (by simp [State.returned, State.emit])
        (by simp [State.returned, State.emit])
  | synFresh => exact .same (silent_snoc rfl fun _ => rfl) rfl rfl
  | accepted => exact .same (silent_snoc rfl fun _ => rfl) rfl rfl
  | inserted => exact .opened (silent_snoc rfl fun _ => rfl) rfl rfl
  | queued => exact .same (silent_snoc rfl fun _ => rfl) rfl rfl
  | dropped => exact .same (silent_snoc rfl fun _ => rfl) rfl rfl
  | acked =>
      exact .same (silent_written unchanged rfl rfl) (by simp [sendAck, State.returned])
        (by simp [sendAck, State.returned])
  | seqStored found at_ => exact .stored unchanged found at_ rfl rfl
  | entryInstalled => exact .same (silent_snoc rfl fun _ => rfl) rfl rfl
  | @tasksSpawned gen task success found at_ =>
      refine .spawned unchanged found at_ rfl rfl ?_
      intro reader spawned
      cases success with
      | true =>
          cases spawned
          rfl
      | false => cases spawned
  | synAckSent =>
      exact .same (silent_written unchanged rfl rfl) (by simp [setConnect]) (by simp [setConnect])
  | rstSent =>
      exact .same (silent_written unchanged rfl rfl) (by simp [setConnect]) (by simp [setConnect])
  | connectRemoved => exact .same (silent_snoc rfl fun _ => rfl) rfl rfl
  | chunkRead found at_ some_ fits =>
      refine .moved _ unchanged found rfl rfl ⟨by rw [at_]; rfl, rfl⟩ ⟨rfl, ?_, fits⟩
      exact List.length_pos_iff.mpr some_
  | responseEnded _ found at_ =>
      exact .moved _ unchanged found rfl rfl ⟨by rw [at_]; rfl, rfl⟩ rfl
  | chunkSent found at_ =>
      exact .sent rfl found at_ rfl (by simp [setReader]) (by simp [setReader])
  | seqAdvanced found at_ => exact .advanced unchanged found at_ rfl rfl
  | closingSent found at_ =>
      exact .moved .removeEntry (silent_written unchanged rfl rfl) found (by simp [setReader])
        (by simp [setReader]) ⟨by rw [at_]; rfl, rfl⟩ trivial
  | readerRemoved found at_ =>
      exact .moved _ (silent_snoc rfl fun _ => rfl) found rfl rfl ⟨by rw [at_]; rfl, rfl⟩ trivial
  | _ => exact .same unchanged rfl rfl

theorem reader_absent {s : State} (wellFormed : WellFormed s) {gen : Nat}
    {task : ConnectTask} (found : s.connects gen = some task)
    (early : task.pc.spawned = false) : s.readers gen = none := by
  cases present : s.readers gen with
  | none => rfl
  | some reader =>
      obtain ⟨opener, opened, _, spawned⟩ := wellFormed.reader gen reader present
      rw [found, Option.some.injEq] at opened
      rw [← opened, early] at spawned
      cases spawned

private theorem reader_unopened {s : State} (wellFormed : WellFormed s) :
    s.readers s.nextGen = none := by
  cases present : s.readers s.nextGen with
  | none => rfl
  | some reader =>
      obtain ⟨opener, opened, _⟩ := wellFormed.reader _ reader present
      exact absurd (wellFormed.fresh _ opener opened) (Nat.lt_irrefl _)

private theorem reader_step {s s' : State} {event : Event} (change : SeqChange s event s')
    (before : Tracked s) {gen : Nat} {task : ReaderTask} (found : s'.readers gen = some task) :
    HoldsSeq (s'.seqShared gen) task.pc := by
  cases change with
  | same _ shared readers =>
      rw [shared]
      exact before.reader gen task (readers ▸ found)
  | opened _ shared readers =>
      rw [readers] at found
      have older : gen ≠ s.nextGen := by
        rintro rfl
        rw [reader_unopened before.wellFormed] at found
        cases found
      rw [shared, Function.update_of_ne older]
      exact before.reader gen task found
  | @stored other opener _ opened at_ shared readers =>
      rw [readers] at found
      have elsewhere : gen ≠ other := by
        rintro rfl
        rw [reader_absent before.wellFormed opened (by rw [at_]; rfl)] at found
        cases found
      rw [shared, Function.update_of_ne elsewhere]
      exact before.reader gen task found
  | @spawned other _ reader _ _ _ shared readers fresh =>
      rw [readers] at found
      rw [shared]
      by_cases here : gen = other
      · subst here
        rw [Function.update_self] at found
        rw [fresh task found]
        trivial
      · rw [Function.update_of_ne here] at found
        exact before.reader gen task found
  | @moved other old pc _ atOther shared readers _ holds =>
      rw [readers] at found
      rw [shared]
      by_cases here : gen = other
      · subst here
        rw [Function.update_self, Option.some.injEq] at found
        subst found
        exact holds
      · rw [Function.update_of_ne here] at found
        exact before.reader gen task found
  | @sent other old written seq ack data _ atOther at_ _ shared readers =>
      rw [readers] at found
      rw [shared]
      by_cases here : gen = other
      · subst here
        rw [Function.update_self, Option.some.injEq] at found
        subst found
        have held := before.reader gen old atOther
        rw [at_] at held
        exact held
      · rw [Function.update_of_ne here] at found
        exact before.reader gen task found
  | @advanced other old seq count _ atOther _ shared readers =>
      rw [readers] at found
      by_cases here : gen = other
      · subst here
        rw [Function.update_self, Option.some.injEq] at found
        subst found
        trivial
      · rw [Function.update_of_ne here] at found
        rw [shared, Function.update_of_ne here]
        exact before.reader gen task found

private theorem responseBytes_chunk (s : State) (gen other : Nat) (pkt : TunSegment)
    (written : Bool) :
    responseBytes gen (s.writeTun (some other) pkt written).trace =
      responseBytes gen s.trace ++ if written = true ∧ other = gen then pkt.payload else [] := by
  cases written with
  | true =>
      change responseBytes gen (s.trace ++ [_]) = _
      simp [Output.response]
  | false => simp [State.writeTun]

private theorem unread_step {s s' : State} {event : Event} (change : SeqChange s event s')
    (before : Tracked s) {gen : Nat} (absent : s'.readers gen = none) :
    responseBytes gen s'.trace = [] := by
  have elsewhere {other : Nat} {reader : ReaderTask}
      (readers : s'.readers = Function.update s.readers other (some reader)) :
      gen ≠ other ∧ s.readers gen = none := by
    have different : gen ≠ other := by
      rintro rfl
      rw [readers, Function.update_self] at absent
      cases absent
    exact ⟨different, by rw [← absent, readers, Function.update_of_ne different]⟩
  cases change with
  | same silent _ readers => rw [silent gen, before.unread gen (readers ▸ absent)]
  | opened silent _ readers => rw [silent gen, before.unread gen (readers ▸ absent)]
  | stored silent _ _ _ readers => rw [silent gen, before.unread gen (readers ▸ absent)]
  | @spawned other opener reader silent opened at_ _ readers _ =>
      rw [silent gen]
      apply before.unread gen
      by_cases here : gen = other
      · subst here
        exact reader_absent before.wellFormed opened (by rw [at_]; rfl)
      · rw [← absent, readers, Function.update_of_ne here]
  | moved _ silent _ _ readers _ _ =>
      rw [silent gen, before.unread gen (elsewhere readers).2]
  | sent _ _ _ trace _ readers =>
      obtain ⟨different, wasAbsent⟩ := elsewhere readers
      rw [trace, responseBytes_chunk, before.unread gen wasAbsent, List.nil_append,
        if_neg (fun both => different both.2.symm)]
  | advanced silent _ _ _ readers => rw [silent gen, before.unread gen (elsewhere readers).2]

private theorem unstored_some {s : State} {gen : Nat} {task : ReaderTask}
    (found : s.readers gen = some task) : unstored s gen = task.pc.unstored := by
  rw [unstored, found]

private theorem nextSeq_of_unstored {s : State} {gen : Nat} (none : unstored s gen = 0) :
    nextSeq s gen = s.seqShared gen := by
  rw [nextSeq, none]
  exact UInt32.add_zero _

private theorem seqSafe_chunk {s : State} {gen : Nat} {task : ReaderTask} {written : Bool}
    {seq ack : UInt32} {data : List UInt8} (found : s.readers gen = some task)
    (at_ : task.pc = .sending seq ack data) :
    seqSafe s (.reader gen written) = (written && (ackInHand s gen).isNone) := by
  obtain ⟨flow, pc⟩ := task
  subst at_
  simp only [seqSafe, found]

/-- The next number moves with the response bytes written. -/
private theorem nextSeq_step {s s' : State} {event : Event} (change : SeqChange s event s')
    (safe : seqSafe s event = true) (before : Tracked s) {gen : Nat} {task : ConnectTask}
    (found : s.connects gen = some task) (stored : task.pc.seqStored = true) :
    ∃ count, nextSeq s' gen = nextSeq s gen + UInt32.ofNat count ∧
      (responseBytes gen s'.trace).length = (responseBytes gen s.trace).length + count ∧
      ((ackInHand s gen).isSome = true → count = 0) := by
  have still (same : nextSeq s' gen = nextSeq s gen)
      (bytes : responseBytes gen s'.trace = responseBytes gen s.trace) :
      ∃ count, nextSeq s' gen = nextSeq s gen + UInt32.ofNat count ∧
        (responseBytes gen s'.trace).length = (responseBytes gen s.trace).length + count ∧
        ((ackInHand s gen).isSome = true → count = 0) :=
    ⟨0, by rw [same]; exact (UInt32.add_zero _).symm, by rw [bytes, Nat.add_zero], fun _ => rfl⟩
  cases change with
  | same silent shared readers =>
      exact still (by rw [nextSeq, nextSeq, unstored, unstored, shared, readers]) (silent gen)
  | opened silent shared readers =>
      have older := Nat.ne_of_lt (before.wellFormed.fresh gen task found)
      refine still ?_ (silent gen)
      rw [nextSeq, nextSeq, unstored, unstored, shared, readers, Function.update_of_ne older]
  | @stored other opener silent opened at_ shared readers =>
      have different : gen ≠ other := by
        rintro rfl
        rw [found, Option.some.injEq] at opened
        rw [opened, at_] at stored
        cases stored
      refine still ?_ (silent gen)
      rw [nextSeq, nextSeq, unstored, unstored, shared, readers, Function.update_of_ne different]
  | @spawned other opener reader silent opened at_ shared readers fresh =>
      refine still ?_ (silent gen)
      by_cases here : gen = other
      · subst here
        have wasAbsent := reader_absent before.wellFormed opened (by rw [at_]; rfl)
        have level : unstored s' gen = 0 := by
          rw [unstored, readers, Function.update_self]
          cases spawned : reader with
          | none => rfl
          | some task =>
              simp only [fresh task spawned]
              rfl
        have levelBefore : unstored s gen = 0 := by rw [unstored, wasAbsent]
        rw [nextSeq_of_unstored level, nextSeq_of_unstored levelBefore, shared]
      · rw [nextSeq, nextSeq, unstored, unstored, shared, readers, Function.update_of_ne here]
  | @moved other old pc silent atOther shared readers level _ =>
      refine still ?_ (silent gen)
      by_cases here : gen = other
      · subst here
        have after : unstored s' gen = 0 := by
          rw [unstored, readers, Function.update_self]
          exact level.2
        have wasLevel : unstored s gen = 0 := by rw [unstored_some atOther, level.1]
        rw [nextSeq_of_unstored after, nextSeq_of_unstored wasLevel, shared]
      · rw [nextSeq, nextSeq, unstored, unstored, shared, readers, Function.update_of_ne here]
  | @sent other old written seq ack data arrives atOther at_ trace shared readers =>
      by_cases here : gen = other
      · subst here
        subst arrives
        rw [seqSafe_chunk atOther at_, Bool.and_eq_true] at safe
        have after : unstored s' gen = data.length := by
          rw [unstored, readers, Function.update_self]
          rfl
        have wasLevel : unstored s gen = 0 := by
          rw [unstored_some atOther, at_]
          rfl
        refine ⟨data.length, ?_, ?_, ?_⟩
        · rw [nextSeq_of_unstored wasLevel, nextSeq, after, shared]
        · rw [trace, responseBytes_chunk, if_pos ⟨safe.1, rfl⟩, List.length_append]
          rfl
        · intro held
          rw [Option.isNone_iff_eq_none] at safe
          rw [safe.2] at held
          cases held
      · refine still ?_ ?_
        · rw [nextSeq, nextSeq, unstored, unstored, shared, readers, Function.update_of_ne here]
        · rw [trace, responseBytes_chunk, if_neg (fun both => here both.2.symm), List.append_nil]
  | @advanced other old seq count silent atOther at_ shared readers =>
      refine still ?_ (silent gen)
      by_cases here : gen = other
      · subst here
        have after : unstored s' gen = 0 := by
          rw [unstored, readers, Function.update_self]
          rfl
        have held := before.reader gen old atOther
        rw [at_] at held
        have was : unstored s gen = count := by
          rw [unstored_some atOther, at_]
          rfl
        rw [nextSeq_of_unstored after, nextSeq, was, shared, Function.update_self, held.1]
      · rw [nextSeq, nextSeq, unstored, unstored, shared, readers, Function.update_of_ne here,
          Function.update_of_ne here]

/-- A connect task that leaves `storeSeq` has stored the number after the ISN. -/
private theorem stored_now {s s' : State} {event : Event} (shape : Shape s event s') {gen : Nat}
    {task later : ConnectTask} (opened : s.connects gen = some task)
    (storing : task.pc = .storeSeq) (found : s'.connects gen = some later)
    (stored : later.pc.seqStored = true) :
    s'.seqShared gen = task.isn + 1 ∧ later.pc.spawned = false := by
  have unmoved (same : s'.connects gen = s.connects gen) : False := by
    rw [same, opened, Option.some.injEq] at found
    rw [← found, storing] at stored
    cases stored
  cases shape.connectChange with
  | same connects _ => exact absurd (by rw [connects]) unmoved
  | @moved _ _ other old pc atOther advances connects _ stores =>
      by_cases here : gen = other
      · subst here
        rw [opened, Option.some.injEq] at atOther
        subst atOther
        rw [connects, Function.update_self, Option.some.injEq] at found
        refine ⟨stores storing, ?_⟩
        rw [storing] at advances
        cases advances
        rw [← found]
        rfl
      · exact absurd (by rw [connects, Function.update_of_ne here]) unmoved
  | @opened _ _ _ _ connects _ =>
      by_cases here : gen = s.nextGen
      · rw [connects, here, Function.update_self, Option.some.injEq] at found
        rw [← found] at stored
        cases stored
      · exact absurd (by rw [connects, Function.update_of_ne here]) unmoved

private theorem next_step {s s' : State} {event : Event} (shape : Shape s event s')
    (safe : seqSafe s event = true) (before : Tracked s) {gen : Nat} {later : ConnectTask}
    (found : s'.connects gen = some later) (stored : later.pc.seqStored = true) :
    nextSeq s' gen = serial (later.isn + 1) (responseBytes gen s'.trace).length := by
  rcases shape.connects_origin found with
    ⟨task, opened, continues⟩ | ⟨seg, isn, _, _, _, rfl⟩
  · rw [continues.isn]
    rcases continues.stored stored with already | storing
    · obtain ⟨count, next, bytes, _⟩ := nextSeq_step shape.seqChange safe before opened already
      rw [next, before.next gen task opened already, bytes, serial_add]
    · obtain ⟨shared, early⟩ := stored_now shape opened storing found stored
      have absent := reader_absent (shape.wellFormed before.wellFormed) found early
      have level : unstored s' gen = 0 := by rw [unstored, absent]
      rw [unread_step shape.seqChange before absent, nextSeq_of_unstored level, shared,
        List.length_nil, serial_zero]
  · cases stored

theorem Shape.tracked {s s' : State} {event : Event} (shape : Shape s event s')
    (safe : seqSafe s event = true) (before : Tracked s) : Tracked s' :=
  { wellFormed := shape.wellFormed before.wellFormed
    unread := fun _ absent => unread_step shape.seqChange before absent
    next := fun _ _ found stored => next_step shape safe before found stored
    reader := fun _ _ found => reader_step shape.seqChange before found }

/-- The number that the main loop holds for an ACK is the next one of its flow. -/
def HandCurrent (s : State) : Prop :=
  ∀ gen seqAck, ackInHand s gen = some seqAck → seqAck = nextSeq s gen

private theorem ackInHand_some {s : State} {gen : Nat} {seqAck : UInt32}
    (held : ackInHand s gen = some seqAck) :
    ∃ seg ackVal, s.main = .sendAck seg gen seqAck ackVal := by
  unfold ackInHand at held
  split at held
  · rename_i seg other seqHeld ackVal at_
    split at held
    · rename_i same
      cases held
      exact ⟨seg, ackVal, same ▸ at_⟩
    · cases held
  · cases held

private theorem installed_seqStored {pc : ConnectPc} (installed : pc.installed = true) :
    pc.seqStored = true := by
  cases pc <;> first | rfl | cases installed

private theorem opened_of_hand {s : State} (wellFormed : WellFormed s) {gen : Nat}
    {seqAck : UInt32} (held : ackInHand s gen = some seqAck) :
    ∃ task, s.connects gen = some task ∧ task.pc.seqStored = true := by
  obtain ⟨seg, ackVal, at_⟩ := ackInHand_some held
  have main := wellFormed.main
  rw [at_] at main
  obtain ⟨task, found, _, installed⟩ := main
  exact ⟨task, found, installed_seqStored installed⟩

private theorem ackInHand_of_main {s s' : State} (main : s'.main = s.main) (gen : Nat) :
    ackInHand s' gen = ackInHand s gen := by
  unfold ackInHand
  rw [main]

/-- A number in the main loop's hands was there before, or was just read from the counter. -/
private theorem ackInHand_origin {s s' : State} {event : Event} (shape : Shape s event s')
    {gen : Nat} {seqAck : UInt32} (held : ackInHand s' gen = some seqAck) :
    ackInHand s gen = some seqAck ∨
      ∃ seg conn, event = .readCounters ∧ s.main = .readCounters seg ∧
        s.conns seg.flow.sport = some conn ∧ conn.gen = gen ∧ seqAck = s.seqShared gen := by
  cases shape with
  | @countersRead seg conn at_ found =>
      right
      obtain ⟨_, _, main⟩ := ackInHand_some held
      simp only [MainPc.sendAck.injEq] at main
      obtain ⟨_, sameGen, sameSeq, _⟩ := main
      exact ⟨seg, conn, rfl, at_, found, sameGen, by rw [← sameSeq, sameGen]⟩
  | synAckSent => exact Or.inl ((ackInHand_of_main (by simp [setConnect]) gen).symm.trans held)
  | rstSent => exact Or.inl ((ackInHand_of_main (by simp [setConnect]) gen).symm.trans held)
  | chunkSent => exact Or.inl ((ackInHand_of_main (by simp [setReader]) gen).symm.trans held)
  | closingSent => exact Or.inl ((ackInHand_of_main (by simp [setReader]) gen).symm.trans held)
  | _ =>
      first
        | exact Or.inl ((ackInHand_of_main rfl gen).symm.trans held)
        | cases held

private theorem seqSafe_readCounters {s : State} {seg : Segment} {conn : TcpConn}
    (at_ : s.main = .readCounters seg) (found : s.conns seg.flow.sport = some conn) :
    seqSafe s .readCounters = (unstored s conn.gen == 0) := by
  simp only [seqSafe, at_, found]

private theorem handCurrent_step {s s' : State} {event : Event} (shape : Shape s event s')
    (safe : seqSafe s event = true) (before : Tracked s) (current : HandCurrent s) :
    HandCurrent s' := by
  intro gen seqAck held
  rcases ackInHand_origin shape held with was | ⟨seg, conn, rfl, at_, found, rfl, rfl⟩
  · obtain ⟨task, opened, stored⟩ := opened_of_hand before.wellFormed was
    obtain ⟨count, next, _, still⟩ := nextSeq_step shape.seqChange safe before opened stored
    rw [next, still (by rw [was]; rfl), ← current gen seqAck was]
    exact (UInt32.add_zero _).symm
  · rw [seqSafe_readCounters at_ found, beq_iff_eq] at safe
    obtain ⟨task, opened, stored⟩ := opened_of_hand (shape.wellFormed before.wellFormed) held
    have kept : s'.seqShared = s.seqShared ∧ s'.readers = s.readers := by
      cases shape with
      | entryGone => exact ⟨rfl, rfl⟩
      | countersRead => exact ⟨rfl, rfl⟩
    have level : unstored s' conn.gen = 0 := by rw [unstored, kept.2, ← unstored, safe]
    rw [nextSeq_of_unstored level, kept.1]

theorem InSequence.continues {s s' : State} {before : List Output} {gen : Nat}
    {pkt : TunSegment} (inSequence : InSequence s before gen pkt)
    (later : ∀ gen task, s.connects gen = some task →
      ∃ later, s'.connects gen = some later ∧ task.Continues later) :
    InSequence s' before gen pkt := by
  intro data
  obtain ⟨task, found, number⟩ := inSequence data
  obtain ⟨after, foundAfter, continues⟩ := later gen task found
  exact ⟨after, foundAfter, by rw [continues.isn, number]⟩

private theorem spawned_seqStored {pc : ConnectPc} (spawned : pc.spawned = true) :
    pc.seqStored = true := by
  cases pc <;> first | rfl | cases spawned

private theorem inSequence_source {s : State} {event : Event} {gen : Nat} {pkt : TunSegment}
    {outputs : List Output} (source : Source s event gen pkt)
    (records : outputs = [] ∨ ∃ seg entry, outputs = [.syn seg entry]) (tracked : Tracked s)
    (current : HandCurrent s) : InSequence s (s.trace ++ outputs) gen pkt := by
  intro data
  have bytes : responseBytes gen (s.trace ++ outputs) = responseBytes gen s.trace := by
    rcases records with rfl | ⟨seg, entry, rfl⟩
    · rw [List.append_nil]
    · exact responseBytes_of_snoc rfl
  have byReader {task : ReaderTask} (found : s.readers gen = some task)
      (level : task.pc.unstored = 0) :
      ∃ opener, s.connects gen = some opener ∧
        s.seqShared gen = opener.isn + 1 + UInt32.ofNat (responseBytes gen s.trace).length := by
    obtain ⟨opener, opened, _, spawned⟩ := tracked.wellFormed.reader gen task found
    have next := tracked.next gen opener opened (spawned_seqStored spawned)
    rw [nextSeq_of_unstored (by rw [unstored_some found, level])] at next
    exact ⟨opener, opened, next⟩
  rw [bytes]
  cases source with
  | synAnswered => exact absurd rfl data
  | synAckSent => exact absurd rfl data
  | @acked seg seqAck ackVal at_ =>
      have held : ackInHand s gen = some seqAck := by
        unfold ackInHand
        simp only [at_, if_true]
      obtain ⟨task, opened, stored⟩ := opened_of_hand tracked.wellFormed held
      exact ⟨task, opened,
        (current gen seqAck held).trans (tracked.next gen task opened stored)⟩
  | chunk found at_ =>
      have holds := tracked.reader gen _ found
      rw [at_] at holds
      obtain ⟨opener, opened, next⟩ := byReader found (by rw [at_]; rfl)
      exact ⟨opener, opened, holds.1.trans next⟩
  | ending found at_ =>
      have holds := tracked.reader gen _ found
      rw [at_] at holds
      obtain ⟨opener, opened, next⟩ := byReader found (by rw [at_]; rfl)
      exact ⟨opener, opened, Eq.trans holds next⟩

/-- What holds while every step is safe. -/
structure Sequenced (s : State) : Prop where
  tracked : Tracked s
  current : HandCurrent s
  stamped : EveryStamped (InSequence s) s.trace

theorem sequenced_init : Sequenced State.init :=
  { tracked := tracked_init
    current := fun gen seqAck held => by cases held
    stamped := fun before gen pkt after split => by simp [State.init] at split }

theorem Shape.sequenced {s s' : State} {event : Event} (shape : Shape s event s')
    (safe : seqSafe s event = true) (before : Sequenced s) : Sequenced s' :=
  { tracked := shape.tracked safe before.tracked
    current := handCurrent_step shape safe before.tracked before.current
    stamped := by
      have later (gen : Nat) (task : ConnectTask) (found : s.connects gen = some task) :=
        shape.connects_continue before.tracked.wellFormed.fresh found
      apply shape.writes.everyStamped (InSequence s')
      · exact before.stamped.mono (fun _ _ _ inSequence => inSequence.continues later)
      · intro outputs gen pkt source records
        exact (inSequence_source source records before.tracked before.current).continues later }

theorem sequenced_of_run {events : List Event} {s : State}
    (run : Run (Restrict (ofNext step) fun s event => seqSafe s event) State.init events s) :
    Sequenced s :=
  run.invariant Sequenced
    (fun _ _ _ taken before => (step_shape taken.1).sequenced taken.2 before) sequenced_init

/-- Some schedule writes a segment out of sequence. -/
def Misses (s : State) : Prop :=
  ∃ events s', Runs s events s' ∧ ¬EveryStamped (InSequence s') s'.trace

theorem Misses.of_step {s s' : State} {event : Event} (taken : step s event = some s')
    (later : Misses s') : Misses s := by
  obtain ⟨events, finish, runs, missed⟩ := later
  exact ⟨event :: events, finish, runs.cons taken, missed⟩

/-- The number is not the one that follows the bytes written so far. -/
def OffBy (s : State) (gen : Nat) (seq : UInt32) : Prop :=
  ∃ opener, s.connects gen = some opener ∧
    seq ≠ opener.isn + 1 + UInt32.ofNat (responseBytes gen s.trace).length

private theorem misses_of_last {s s' : State} {event : Event} {gen : Nat} {pkt : TunSegment}
    (taken : step s event = some s') (trace : s'.trace = s.trace ++ [.tun (some gen) pkt])
    (connects : s'.connects = s.connects) (data : pkt.flags ≠ 0x12)
    (off : OffBy s gen pkt.seq) : Misses s := by
  refine ⟨[event], s', .single taken, ?_⟩
  intro stamped
  obtain ⟨opener, opened, wrong⟩ := off
  obtain ⟨task, found, number⟩ := stamped s.trace gen pkt [] trace data
  rw [connects, opened, Option.some.injEq] at found
  rw [found] at wrong
  exact wrong number

private theorem misses_sendAck {s : State} {gen : Nat} {seg : Segment} {seqAck ackVal : UInt32}
    (at_ : s.main = .sendAck seg gen seqAck ackVal) (off : OffBy s gen seqAck) : Misses s := by
  have taken : step s (.sendAck true) = some (sendAck s seg gen seqAck ackVal true) := by
    simp only [step, at_]
  exact misses_of_last taken rfl rfl (by simp [reply]) off

private theorem misses_closing {s : State} {gen : Nat} {task : ReaderTask} {ending : Ending}
    {seq ack : UInt32} (found : s.readers gen = some task)
    (at_ : task.pc = .closing ending seq ack) (off : OffBy s gen seq) : Misses s := by
  have taken : step s (.reader gen true) =
      some (setReader (s.emit (.tun (some gen) (reply task.flow seq ack ending.flags [])))
        gen task .removeEntry) := by
    simp only [step, found, readerStep, at_]
    rfl
  exact misses_of_last taken rfl rfl (by cases ending <;> simp [reply, Ending.flags]) off

private theorem misses_reading {s : State} {gen : Nat} {task : ReaderTask}
    (found : s.readers gen = some task) (at_ : task.pc = .reading)
    (off : OffBy s gen (s.seqShared gen)) : Misses s := by
  have taken : step s (.readerRead gen .eof) =
      some (setReader s gen task (.closing .fin (s.seqShared gen) (s.ackShared gen))) := by
    simp only [step, found, readerRead, at_]
  exact .of_step taken (misses_closing (Function.update_self _ _ _) rfl off)

private theorem misses_storing {s : State} {gen : Nat} {task : ReaderTask} {seq : UInt32}
    {count : Nat} (found : s.readers gen = some task) (at_ : task.pc = .storing seq count)
    (off : OffBy s gen (seq + UInt32.ofNat count)) : Misses s := by
  have taken : step s (.reader gen true) =
      some
        { setReader s gen task .reading with
          seqShared := Function.update s.seqShared gen (seq + UInt32.ofNat count) } := by
    simp only [step, found, readerStep, at_]
  refine .of_step taken (misses_reading (Function.update_self _ _ _) rfl ?_)
  obtain ⟨opener, opened, wrong⟩ := off
  refine ⟨opener, opened, ?_⟩
  simp only [Function.update_self]
  exact wrong

private theorem misses_after_chunk {s s' : State} {gen : Nat} {task : ReaderTask}
    {written : Bool} {seq ack : UInt32} {data : List UInt8} (sequenced : Sequenced s)
    (found : s.readers gen = some task) (at_ : task.pc = .sending seq ack data)
    (taken : step s (.reader gen written) = some s')
    (hazard : (written && (ackInHand s gen).isNone) = false) : Misses s' := by
  simp only [step, found, readerStep, at_, Option.some.injEq] at taken
  subst taken
  obtain ⟨opener, opened, _, spawned⟩ := sequenced.tracked.wellFormed.reader gen task found
  have next := sequenced.tracked.next gen opener opened (spawned_seqStored spawned)
  have level : unstored s gen = 0 := by
    rw [unstored_some found, at_]
    rfl
  have holds := sequenced.tracked.reader gen task found
  rw [at_] at holds
  obtain ⟨loaded, positive, small⟩ := holds
  rw [nextSeq_of_unstored level, ← loaded] at next
  cases written with
  | false =>
      refine misses_storing (Function.update_self _ _ _) rfl ⟨opener, opened, ?_⟩
      change seq + UInt32.ofNat data.length ≠
        serial (opener.isn + 1) (responseBytes gen s.trace).length
      rw [← next]
      exact add_ofNat_ne seq positive (by omega)
  | true =>
      rw [Bool.true_and, Option.isNone_eq_false_iff] at hazard
      obtain ⟨seqAck, held⟩ := Option.isSome_iff_exists.mp hazard
      obtain ⟨seg, ackVal, main⟩ := ackInHand_some held
      have current := sequenced.current gen seqAck held
      rw [nextSeq_of_unstored level, ← loaded] at current
      refine misses_sendAck main ⟨opener, opened, ?_⟩
      change seqAck ≠ serial (opener.isn + 1) (responseBytes gen
        (s.writeTun (some gen) (reply task.flow seq ack 0x18 data) true).trace).length
      rw [responseBytes_chunk, if_pos ⟨rfl, rfl⟩, List.length_append, serial_add, ← next, current]
      exact (add_ofNat_ne seq positive (by omega)).symm

private theorem misses_after_read {s s' : State} {seg : Segment} {conn : TcpConn}
    (sequenced : Sequenced s) (at_ : s.main = .readCounters seg)
    (found : s.conns seg.flow.sport = some conn) (taken : step s .readCounters = some s')
    (hazard : (unstored s conn.gen == 0) = false) : Misses s' := by
  simp only [step, at_, readCounters, found, Option.some.injEq] at taken
  subst taken
  rw [beq_eq_false_iff_ne] at hazard
  cases present : s.readers conn.gen with
  | none =>
      rw [unstored, present] at hazard
      exact absurd rfl hazard
  | some task =>
      obtain ⟨opener, opened, _, spawned⟩ :=
        sequenced.tracked.wellFormed.reader conn.gen task present
      have next := sequenced.tracked.next conn.gen opener opened (spawned_seqStored spawned)
      have holds := sequenced.tracked.reader conn.gen task present
      rw [unstored_some present] at hazard
      refine misses_sendAck rfl ⟨opener, opened, ?_⟩
      change s.seqShared conn.gen ≠
        serial (opener.isn + 1) (responseBytes conn.gen s.trace).length
      rw [← next, nextSeq, unstored_some present]
      cases at_ : task.pc with
      | storing seq count =>
          rw [at_] at holds
          obtain ⟨_, positive, small⟩ := holds
          have short : count < 2 ^ 32 := by omega
          exact (add_ofNat_ne _ positive short).symm
      | _ =>
          rw [at_] at hazard
          exact absurd rfl hazard

/-- The first step that is not safe lets some schedule write a segment out of sequence. -/
theorem misses_of_hazard {s s' : State} {event : Event} (sequenced : Sequenced s)
    (taken : step s event = some s') (hazard : seqSafe s event = false) : Misses s' := by
  cases event with
  | reader gen written =>
      cases found : s.readers gen with
      | none => simp [seqSafe, found] at hazard
      | some task =>
          obtain ⟨flow, pc⟩ := task
          cases pc with
          | sending seq ack data =>
              rw [seqSafe_chunk found rfl] at hazard
              exact misses_after_chunk sequenced found rfl taken hazard
          | _ => simp [seqSafe, found] at hazard
  | readCounters =>
      cases at_ : s.main with
      | readCounters seg =>
          cases found : s.conns seg.flow.sport with
          | none => simp [seqSafe, at_, found] at hazard
          | some conn =>
              rw [seqSafe_readCounters at_ found] at hazard
              exact misses_after_read sequenced at_ found taken hazard
      | _ => simp [seqSafe, at_] at hazard
  | _ => cases hazard

/-- While every chunk reaches the TUN with no ACK of its flow in hand, and no counter is read
between a chunk's write and its addition, each segment after the SYN-ACK carries the number of
the response bytes written before it; the first step that differs lets some schedule break this. -/
theorem segments_in_sequence (events : List Event) (s : State) :
    (Run (Restrict (ofNext step) fun s event => seqSafe s event) State.init events s →
      EveryStamped (InSequence s) s.trace) ∧
    ∀ event s',
      Run (Restrict (ofNext step) fun s event => seqSafe s event) State.init events s →
      step s event = some s' → seqSafe s event = false → Misses s' := by
  constructor
  · intro run
    exact (sequenced_of_run run).stamped
  · intro event s' run taken hazard
    exact misses_of_hazard (sequenced_of_run run) taken hazard

/-- A chunk of the response that is read and handed to the TUN. -/
def chunkEvents (gen : Nat) (bytes : List UInt8) (written : Bool) : List Event :=
  [.readerRead gen (.data bytes), .reader gen written, .reader gen true]

theorem segments_in_sequence_two_chunks :
    (∃ s, executeChecked step seqSafe State.init (openEvents (.syn webFlow 1000) 0 77 ++
        chunkEvents 0 [1, 2] true ++ dataEvents (.byte webFlow 1001 7) ++
        chunkEvents 0 [3] true) = some s ∧
      s.trace.getLast? = some (.tun (some 0) (reply webFlow 80 1002 0x18 [3])) ∧
      EveryStamped (InSequence s) s.trace) ∧
    ∃ s s', executeChecked step seqSafe State.init (openEvents (.syn webFlow 1000) 0 77 ++
        [.readerRead 0 (.data [1, 2])]) = some s ∧
      step s (.reader 0 false) = some s' ∧ Misses s' := by
  constructor
  · have checked : (executeChecked step seqSafe State.init (openEvents (.syn webFlow 1000) 0 77 ++
        chunkEvents 0 [1, 2] true ++ dataEvents (.byte webFlow 1001 7) ++
        chunkEvents 0 [3] true)).map (fun s => s.trace.getLast?) =
        some (some (.tun (some 0) (reply webFlow 80 1002 0x18 [3]))) := by
      rfl
    obtain ⟨s, executed, last⟩ := Option.map_eq_some_iff.mp checked
    exact ⟨s, executed, last, (segments_in_sequence _ s).1 (run_of_executeChecked executed)⟩
  · have checked : ((executeChecked step seqSafe State.init
        (openEvents (.syn webFlow 1000) 0 77 ++ [.readerRead 0 (.data [1, 2])])).bind fun s =>
          (step s (.reader 0 false)).map (fun _ => seqSafe s (.reader 0 false))) =
        some false := by
      rfl
    obtain ⟨s, executed, next⟩ := Option.bind_eq_some_iff.mp checked
    obtain ⟨s', taken, hazard⟩ := Option.map_eq_some_iff.mp next
    exact ⟨s, s', executed, taken,
      (segments_in_sequence _ s).2 _ s' (run_of_executeChecked executed) taken hazard⟩

/-- A chunk is lost on its way to the TUN, and the next one carries on behind it. -/
theorem lost_chunk_skipped :
    ¬∀ events s, Runs State.init events s → EveryStamped (InSequence s) s.trace := by
  intro claim
  have checked : (execute step State.init (openEvents (.syn webFlow 1000) 0 77 ++
      chunkEvents 0 [1, 2] false ++ chunkEvents 0 [3] true)).map
      (fun s => (s.trace.drop 4, responseBytes 0 (s.trace.take 4),
        (s.connects 0).map ConnectTask.isn)) =
      some ([.tun (some 0) (reply webFlow 80 1001 0x18 [3])], [], some 77) := by
    rfl
  obtain ⟨s, executed, observed⟩ := Option.map_eq_some_iff.mp checked
  simp only [Prod.mk.injEq] at observed
  obtain ⟨history, nothing, isn⟩ := observed
  have split := (List.take_append_drop 4 s.trace).symm
  rw [history] at split
  obtain ⟨task, opened, number⟩ :=
    claim _ s (run_of_execute executed) _ 0 _ [] split (by decide)
  rw [opened, Option.map_some, Option.some.injEq] at isn
  rw [nothing, isn] at number
  revert number
  decide

end MolidoVpn.Relay
