import MolidoVpn.Relay.Acknowledgements

/-!
The byte stream of an app. Segments are slices of it at any position within
half the sequence space of the expected one; whatever their order and overlap,
what is queued is a prefix of the stream, and the counter stands at its end.
-/

namespace MolidoVpn.Relay

open SerialNumber
open Transition (Run Restrict ofNext execute executeChecked run_of_execute run_of_executeChecked)

/-- A data segment that meets an installed connection is a slice of the byte stream of that
connection's app, and starts within half the sequence space of the expected position. -/
def SliceOfStream (streams : Nat → List UInt8) (s : State) (event : Event) : Prop :=
  ∀ seg written conn task, event = .packet seg written → seg.carriesData →
    s.conns seg.flow.sport = some conn → conn.connecting = false →
    s.connects conn.gen = some task →
    ∃ position, seg.seqNum = serial (task.seqNum + 1) position ∧
      seg.payload <+: (streams conn.gen).drop position ∧
      (((ackedBytes conn.gen s.trace).length : Int) - position).natAbs ≤ 2 ^ 31

/-- Every segment is a slice of its app's stream, and every send finds room. -/
def StreamRun (streams : Nat → List UInt8) (s : State) (event : Event) : Prop :=
  roomToSend s event = true ∧ SliceOfStream streams s event

private theorem append_prefix {stream taken next : List UInt8} (first : taken <+: stream)
    (second : next <+: stream.drop taken.length) : taken ++ next <+: stream := by
  obtain ⟨rest, rfl⟩ := first
  rw [List.drop_left] at second
  exact (List.prefix_append_right_inj taken).mpr second

/-- A segment is put behind what has been accepted so far at its own place in the stream. -/
theorem Shape.ackedBytes_prefix {streams : Nat → List UInt8} {s s' : State} {event : Event}
    (shape : Shape s event s') (slices : SliceOfStream streams s event) (lossless : Lossless s)
    {gen : Nat} (before : ackedBytes gen s.trace <+: streams gen) :
    ackedBytes gen s'.trace <+: streams gen := by
  cases shape.dataChange with
  | quiet bytes _ _ =>
      rw [bytes.acked]
      exact before
  | opened _ bytes _ _ =>
      rw [bytes.acked]
      exact before
  | @accepted seg written conn off arrives _ data found ready fresh trace _ _ =>
      obtain ⟨task, opened, _⟩ := lossless.wellFormed.entry _ _ found
      obtain ⟨position, atSeq, slice, near⟩ :=
        slices seg written conn task arrives data found ready opened
      have stands := lossless.accounting.counter conn.gen task opened
      have distance := (classify_forward (List.length_pos_iff.mpr data.2.2.2.2) fresh).2
      rw [stands, atSeq] at distance
      have reached := serial_sub_of_signedDistance near distance
      rw [trace, ackedBytes_snoc]
      simp only [Output.acks]
      split
      · rename_i here
        subst here
        rw [passedBytes_of_forward data.2.2.2.2 fresh]
        apply append_prefix before
        rw [reached, ← List.drop_drop]
        exact slice.drop off
      · rw [List.append_nil]
        exact before
  | queued _ _ trace _ _ =>
      rw [trace, ackedBytes_snoc]
      simpa only [Output.acks, List.append_nil] using before
  | dropped _ _ _ trace _ _ =>
      rw [trace, ackedBytes_snoc]
      simpa only [Output.acks, List.append_nil] using before

/-- One step adds at most one segment to what is below the counter. -/
theorem Shape.ackedBytes_grows {s s' : State} {event : Event} (shape : Shape s event s')
    (gen : Nat) :
    ∃ count ≤ 65535, (ackedBytes gen s'.trace).length = (ackedBytes gen s.trace).length + count := by
  cases shape.dataChange with
  | quiet bytes _ _ => exact ⟨0, Nat.zero_le _, by rw [bytes.acked, Nat.add_zero]⟩
  | opened _ bytes _ _ => exact ⟨0, Nat.zero_le _, by rw [bytes.acked, Nat.add_zero]⟩
  | @accepted seg written conn off _ _ data _ _ fresh trace _ _ =>
      rw [trace, ackedBytes_snoc, List.length_append]
      refine ⟨_, ?_, rfl⟩
      simp only [Output.acks]
      split
      · have short := seg.payload_le
        rw [passedBytes_of_forward data.2.2.2.2 fresh, List.length_drop]
        omega
      · exact Nat.zero_le _
  | queued _ _ trace _ _ =>
      exact ⟨0, Nat.zero_le _, by rw [trace, ackedBytes_snoc]; simp [Output.acks]⟩
  | dropped _ _ _ trace _ _ =>
      exact ⟨0, Nat.zero_le _, by rw [trace, ackedBytes_snoc]; simp [Output.acks]⟩

/-- In the code's own comparison, no step moves an opened generation's counter backwards. -/
theorem Shape.counter_forward {s s' : State} {event : Event} (shape : Shape s event s')
    (wellFormed : WellFormed s) (accounting : Accounting s) {gen : Nat} {task : ConnectTask}
    (found : s.connects gen = some task) :
    0 ≤ signedDistance (s'.ackShared gen) (s.ackShared gen) := by
  obtain ⟨later, foundLater, continues⟩ := shape.connects_continue wellFormed.fresh found
  obtain ⟨count, small, length⟩ := shape.ackedBytes_grows gen
  rw [accounting.counter gen task found,
    (shape.accounting wellFormed accounting).counter gen later foundLater, continues.seqNum,
    length, signedDistance_serial _ _ _ (by omega) (by omega)]
  omega

/-- What holds while the segments are slices of their streams and every send finds room. -/
structure InStream (streams : Nat → List UInt8) (s : State) : Prop where
  lossless : Lossless s
  accepted : ∀ gen, ackedBytes gen s.trace <+: streams gen

theorem inStream_of_run {streams : Nat → List UInt8} {events : List Event} {s : State}
    (run : Run (Restrict (ofNext step) (StreamRun streams)) State.init events s) :
    InStream streams s := by
  refine run.invariant (InStream streams) ?_ ⟨lossless_init, fun _ => List.nil_prefix⟩
  intro source event target taken before
  have shape := step_shape taken.1
  exact ⟨shape.lossless taken.2.1 before.lossless,
    fun gen => shape.ackedBytes_prefix taken.2.2 before.lossless (before.accepted gen)⟩

/-- The bytes put on a connection's channel, with the slice in the main loop's hands, are the
prefix of the app's stream up to the counter, and no step moves the counter backwards. -/
theorem queued_bytes_prefix (streams : Nat → List UInt8) (events : List Event) (s : State)
    (run : Run (Restrict (ofNext step) (StreamRun streams)) State.init events s) (gen : Nat)
    (task : ConnectTask) (opened : s.connects gen = some task) :
    (∃ position ≤ (streams gen).length,
      queuedBytes gen s.trace ++ inHand s gen = (streams gen).take position ∧
      (s.ackShared gen - (task.seqNum + 1)).toNat = position % 2 ^ 32) ∧
    (s.main = .idle → inHand s gen = []) ∧
    ∀ event s', step s event = some s' →
      0 ≤ signedDistance (s'.ackShared gen) (s.ackShared gen) := by
  obtain ⟨lossless, accepted⟩ := inStream_of_run run
  refine ⟨⟨(ackedBytes gen s.trace).length, (accepted gen).length_le, ?_, ?_⟩, ?_, ?_⟩
  · rw [← lossless.queued gen]
    exact List.prefix_iff_eq_take.mp (accepted gen)
  · have stands := lossless.accounting.counter gen task opened
    have apart := toNat_serial_sub (task.seqNum + 1) (ackedBytes gen s.trace).length 0
    rw [serial_zero, ← stands] at apart
    omega
  · intro idle
    unfold inHand
    rw [idle]
  · intro event s' taken
    exact (step_shape taken).counter_forward lossless.wellFormed lossless.accounting opened

/-- `StreamRun` on streams that are shorter than half the sequence space. -/
def streamCheck (streams : Nat → List UInt8) (s : State) (event : Event) : Bool :=
  roomToSend s event &&
    match event with
    | .packet seg _ =>
        match s.conns seg.flow.sport with
        | none => true
        | some conn =>
            match s.connects conn.gen with
            | none => true
            | some task =>
                let position := (seg.seqNum - (task.seqNum + 1)).toNat
                seg.payload.isPrefixOf ((streams conn.gen).drop position) &&
                  decide ((((ackedBytes conn.gen s.trace).length : Int) - position).natAbs ≤ 2 ^ 31)
    | _ => true

private theorem streamRun_of_check {streams : Nat → List UInt8} {s : State} {event : Event}
    (checked : streamCheck streams s event = true) : StreamRun streams s event := by
  simp only [streamCheck, Bool.and_eq_true] at checked
  refine ⟨checked.1, ?_⟩
  intro seg written conn task arrives data found ready opened
  have slice := checked.2
  simp only [arrives, found, opened, Bool.and_eq_true, decide_eq_true_eq,
    List.isPrefixOf_iff_prefix] at slice
  refine ⟨(seg.seqNum - (task.seqNum + 1)).toNat, ?_, slice.1, slice.2⟩
  rw [serial, UInt32.ofNat_toNat, UInt32.add_comm, UInt32.sub_add_cancel]

/-- Six bytes across the wrap point of the sequence space: a gap, the first bytes, an overlap of
old and new ones, and a duplicate. -/
def overlappingRun : List Event :=
  openEvents (.syn webFlow 4294967292) 0 77 ++
    [.packet (.bytes webFlow 0 [4, 5, 6] (by decide)) true, .readCounters, .sendAck true] ++
    dataEvents (.bytes webFlow 4294967293 [1, 2] (by decide)) ++
    dataEvents (.bytes webFlow 4294967294 [2, 3, 4, 5, 6] (by decide)) ++
    [.packet (.bytes webFlow 4294967295 [3, 4] (by decide)) true, .readCounters, .sendAck true]

theorem queued_bytes_prefix_overlapping :
    ∃ s task, executeChecked step (streamCheck (fun _ => [1, 2, 3, 4, 5, 6])) State.init
        overlappingRun = some s ∧
      s.connects 0 = some task ∧ queuedBytes 0 s.trace = [1, 2, 3, 4, 5, 6] ∧
      (∃ position ≤ 6, queuedBytes 0 s.trace ++ inHand s 0 = [1, 2, 3, 4, 5, 6].take position ∧
        (s.ackShared 0 - (task.seqNum + 1)).toNat = position % 2 ^ 32) := by
  have checked : (executeChecked step (streamCheck (fun _ => [1, 2, 3, 4, 5, 6])) State.init
      overlappingRun).map (fun s => ((s.connects 0).map ConnectTask.seqNum,
        queuedBytes 0 s.trace)) = some (some 4294967292, [1, 2, 3, 4, 5, 6]) := by
    rfl
  obtain ⟨s, executed, observed⟩ := Option.map_eq_some_iff.mp checked
  simp only [Prod.mk.injEq] at observed
  obtain ⟨opened, queued⟩ := observed
  obtain ⟨task, opened, _⟩ := Option.map_eq_some_iff.mp opened
  have run : Run (Restrict (ofNext step) (StreamRun fun _ => [1, 2, 3, 4, 5, 6])) State.init
      overlappingRun s :=
    (run_of_executeChecked executed).mono
      (fun _ _ _ taken => ⟨taken.1, streamRun_of_check taken.2⟩)
  have streamed := queued_bytes_prefix _ _ s run 0 task opened
  exact ⟨s, task, executed, opened, queued, streamed.1⟩

end MolidoVpn.Relay
