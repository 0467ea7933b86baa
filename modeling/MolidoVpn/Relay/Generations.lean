import MolidoVpn.Relay.Records

/-!
Connection generations on one source port. The tasks of a generation write the
table under its port without asking whose entry is there; they meet an entry of
another generation exactly when a SYN was inserted on the port while one of them
was still running.
-/

namespace MolidoVpn.Relay

open Transition (Run Restrict ofNext execute executeChecked run_of_execute run_of_executeChecked)

/-- A task of the generation may still write the table under the port. -/
inductive Live (s : State) (gen : Nat) (port : UInt16) : Prop where
  | connect {task : ConnectTask} (found : s.connects gen = some task)
      (samePort : task.flow.sport = port) (writes : task.pc.writesTable = true)
  | reader {task : ReaderTask} (found : s.readers gen = some task)
      (samePort : task.flow.sport = port) (running : task.pc ≠ .done)

def live (s : State) (gen : Nat) (port : UInt16) : Bool :=
  (match s.connects gen with
    | some task => task.flow.sport == port && task.pc.writesTable
    | none => false) ||
  match s.readers gen with
    | some task => task.flow.sport == port && task.pc != .done
    | none => false

theorem live_iff {s : State} {gen : Nat} {port : UInt16} :
    live s gen port = true ↔ Live s gen port := by
  unfold live
  rw [Bool.or_eq_true]
  constructor
  · rintro (connects | reads)
    · split at connects
      · rename_i task found
        rw [Bool.and_eq_true, beq_iff_eq] at connects
        exact .connect found connects.1 connects.2
      · cases connects
    · split at reads
      · rename_i task found
        rw [Bool.and_eq_true, beq_iff_eq, bne_iff_ne] at reads
        exact .reader found reads.1 reads.2
      · cases reads
  · intro alive
    cases alive with
    | connect found samePort writes =>
        left
        simp only [found, samePort, writes, beq_self_eq_true, Bool.and_self]
    | reader found samePort running =>
        right
        simp [found, samePort, running]

/-- No task of an earlier generation is left on the port of a SYN that is being inserted. -/
def portFree (s : State) (event : Event) : Bool :=
  match event, s.main with
  | .insertConnecting _, .insertConnecting seg =>
      (List.range s.nextGen).all (fun gen => !live s gen seg.flow.sport)
  | _, _ => true

/-- A task that wrote the table found no entry there, or the one of its own generation. -/
def Output.OwnGeneration : Output → Prop
  | .installed task replaced => ∀ gen, replaced = some gen → gen = task.gen
  | .removed task entry => ∀ gen, entry = some gen → gen = task.gen
  | _ => True

theorem Live.opened {s : State} {gen : Nat} {port : UInt16} (alive : Live s gen port)
    (wellFormed : WellFormed s) : gen < s.nextGen := by
  cases alive with
  | connect found _ _ => exact wellFormed.fresh gen _ found
  | reader found _ _ =>
      obtain ⟨opener, opened, _⟩ := wellFormed.reader gen _ found
      exact wellFormed.fresh gen opener opened

theorem not_live_of_portFree {s : State} {seg : Segment} {isn : UInt32} {gen : Nat}
    (free : portFree s (.insertConnecting isn) = true) (at_ : s.main = .insertConnecting seg)
    (wellFormed : WellFormed s) : ¬Live s gen seg.flow.sport := by
  intro alive
  simp only [portFree, at_, List.all_eq_true, List.mem_range, Bool.not_eq_true'] at free
  have dead := free gen (alive.opened wellFormed)
  rw [live_iff.mpr alive] at dead
  cases dead

/-- A live task was live before the step, or belongs to the SYN that the step inserted. -/
theorem Shape.live_origin {s s' : State} {event : Event} (shape : Shape s event s') {gen : Nat}
    {port : UInt16} (alive : Live s' gen port) :
    Live s gen port ∨
      ∃ seg isn, event = .insertConnecting isn ∧ s.main = .insertConnecting seg ∧
        gen = s.nextGen ∧ port = seg.flow.sport := by
  cases alive with
  | connect found samePort writes =>
      rcases shape.connects_origin found with
        ⟨task, before, continues⟩ | ⟨seg, isn, arrives, at_, fresh, rfl⟩
      · exact Or.inl (.connect before (continues.flow ▸ samePort) (continues.writes writes))
      · exact Or.inr ⟨seg, isn, arrives, at_, fresh, samePort.symm⟩
  | @reader task found samePort running =>
      left
      cases shape.readerChange with
      | same readers => exact .reader (readers ▸ found) samePort running
      | @spawned other opener success opened at_ _ readers =>
          rw [readers] at found
          by_cases here : gen = other
          · subst here
            rw [Function.update_self] at found
            cases success with
            | true =>
                simp only [if_true, Option.some.injEq] at found
                subst found
                exact .connect opened samePort (by rw [at_]; rfl)
            | false => cases found
          · rw [Function.update_of_ne here] at found
            exact .reader found samePort running
      | @moved other old pc atOther wasRunning readers =>
          rw [readers] at found
          by_cases here : gen = other
          · subst here
            rw [Function.update_self, Option.some.injEq] at found
            subst found
            exact .reader atOther samePort wasRunning
          · rw [Function.update_of_ne here] at found
            exact .reader found samePort running

/-- On every port at most one generation is live, and the entry there is its own. -/
structure PortsOwned (s : State) : Prop where
  wellFormed : WellFormed s
  entry : ∀ gen port conn, Live s gen port → s.conns port = some conn → conn.gen = gen
  unique : ∀ gen other port, Live s gen port → Live s other port → gen = other

theorem portsOwned_init : PortsOwned State.init :=
  { wellFormed := wellFormed_init
    entry := fun gen port conn alive absent => by cases absent
    unique := fun gen other port alive => by
      cases alive with
      | connect absent => cases absent
      | reader absent => cases absent }

private theorem unique_step {s s' : State} {event : Event} (shape : Shape s event s')
    (free : portFree s event = true) (before : PortsOwned s) {gen other : Nat} {port : UInt16}
    (first : Live s' gen port) (second : Live s' other port) : gen = other := by
  rcases shape.live_origin first with
    alive | ⟨seg, isn, rfl, at_, rfl, rfl⟩
  · rcases shape.live_origin second with
      also | ⟨seg, isn, rfl, at_, rfl, rfl⟩
    · exact before.unique gen other port alive also
    · exact absurd alive (not_live_of_portFree free at_ before.wellFormed)
  · rcases shape.live_origin second with
      also | ⟨_, _, _, _, rfl, _⟩
    · exact absurd also (not_live_of_portFree free at_ before.wellFormed)
    · rfl

private theorem entry_step {s s' : State} {event : Event} (shape : Shape s event s')
    (free : portFree s event = true) (before : PortsOwned s) {gen : Nat} {port : UInt16}
    {conn : TcpConn} (alive : Live s' gen port) (found : s'.conns port = some conn) :
    conn.gen = gen := by
  rcases shape.live_origin alive with older | ⟨seg, isn, rfl, at_, rfl, rfl⟩
  · cases shape.entryChange with
    | same conns => exact before.entry gen port conn older (conns ▸ found)
    | removed at_ conns =>
        rw [conns] at found
        by_cases here : port = at_
        · subst here
          rw [Function.update_self] at found
          cases found
        · rw [Function.update_of_ne here] at found
          exact before.entry gen port conn older found
    | @inserted _ seg isn at_ result =>
        have elsewhere : port ≠ seg.flow.sport := by
          rintro rfl
          exact not_live_of_portFree free at_ before.wellFormed older
        rw [result, insertConnecting] at found
        simp only [Function.update_of_ne elsewhere] at found
        exact before.entry gen port conn older found
    | @installed _ other task success opened at_ _ _ conns =>
        rw [conns] at found
        by_cases here : port = task.flow.sport
        · subst here
          rw [Function.update_self, Option.some.injEq] at found
          subst found
          exact before.unique other gen _ (.connect opened rfl (by rw [at_]; rfl)) older
        · rw [Function.update_of_ne here] at found
          exact before.entry gen port conn older found
  · cases shape with
    | @inserted own _ atOwn =>
        have same : own = seg := MainPc.insertConnecting.inj (atOwn.symm.trans at_)
        subst same
        simp only [insertConnecting, Function.update_self, Option.some.injEq] at found
        rw [← found]

theorem Shape.portsOwned {s s' : State} {event : Event} (shape : Shape s event s')
    (free : portFree s event = true) (before : PortsOwned s) : PortsOwned s' :=
  { wellFormed := shape.wellFormed before.wellFormed
    entry := fun _ _ _ alive found => entry_step shape free before alive found
    unique := fun _ _ _ first second => unique_step shape free before first second }

private theorem entryGen_of_live {s : State} {gen : Nat} {port : UInt16} (owned : PortsOwned s)
    (alive : Live s gen port) (other : Nat) (found : s.entryGen port = some other) :
    other = gen := by
  obtain ⟨conn, entry, same⟩ := Option.map_eq_some_iff.mp found
  rw [← same]
  exact owned.entry gen port conn alive entry

private theorem recorded_ownGeneration {s s' : State} {event : Event} {output : Output}
    (recorded : Recorded s event s' output) (owned : PortsOwned s) : output.OwnGeneration := by
  cases recorded with
  | installed arrives found at_ =>
      exact entryGen_of_live owned (.connect found rfl (by rw [at_]; rfl))
  | connectRemoved arrives found at_ =>
      exact entryGen_of_live owned (.connect found rfl (by rw [at_]; rfl))
  | readerRemoved arrives found at_ =>
      exact entryGen_of_live owned (.reader found rfl (by rw [at_]; exact ReaderPc.noConfusion))
  | _ => trivial

/-- While no SYN is inserted on a port with a live task, every task writes over its own entry or
over none. -/
theorem ownGeneration_of_run {events : List Event} {s : State}
    (run : Run (Restrict (ofNext step) fun s event => portFree s event) State.init events s) :
    ∀ output ∈ s.trace, output.OwnGeneration := by
  have both : PortsOwned s ∧ ∀ output ∈ s.trace, output.OwnGeneration := by
    refine run.invariant (fun s => PortsOwned s ∧ ∀ output ∈ s.trace, output.OwnGeneration) ?_ ?_
    · intro source event target taken before
      have shape := step_shape taken.1
      refine ⟨shape.portsOwned taken.2 before.1, ?_⟩
      obtain ⟨outputs, trace, recorded⟩ := shape.records
      intro output member
      rw [trace, List.mem_append] at member
      rcases member with old | new
      · exact before.2 output old
      · exact recorded_ownGeneration (recorded output new) before.1
    · refine ⟨portsOwned_init, ?_⟩
      intro output member
      cases member
  exact both.2

/-- Some schedule lets a task write over the entry of another generation. -/
def Doomed (s : State) : Prop :=
  ∃ events s', Runs s events s' ∧ ∃ output ∈ s'.trace, ¬output.OwnGeneration

theorem Doomed.of_step {s s' : State} {event : Event} (taken : step s event = some s')
    (later : Doomed s') : Doomed s := by
  obtain ⟨events, finish, runs, bad⟩ := later
  exact ⟨event :: events, finish, runs.cons taken, bad⟩

/-- The entry under the port is a `connecting` one of another generation. -/
def Foreign (s : State) (port : UInt16) (gen : Nat) : Prop :=
  ∃ conn, s.conns port = some conn ∧ conn.connecting = true ∧ conn.gen ≠ gen

private theorem Foreign.not_own {s : State} {port : UInt16} {gen : Nat}
    (foreign : Foreign s port gen) : ¬∀ other, s.entryGen port = some other → other = gen := by
  obtain ⟨conn, found, _, different⟩ := foreign
  intro own
  exact different (own conn.gen (by rw [State.entryGen, found, Option.map_some]))

private theorem doomed_of_last {s s' : State} {event : Event} {output : Output}
    (taken : step s event = some s') (trace : s'.trace = s.trace ++ [output])
    (bad : ¬output.OwnGeneration) : Doomed s :=
  ⟨[event], s', .single taken, output,
    by rw [trace]; exact List.mem_append_right _ (List.mem_singleton_self _), bad⟩

section ReaderTasks

variable {s : State} {gen : Nat} {task : ReaderTask}

private theorem doomed_reader_removeEntry (found : s.readers gen = some task)
    (at_ : task.pc = .removeEntry) (foreign : Foreign s task.flow.sport gen) : Doomed s := by
  have taken : step s (.reader gen false) =
      some
        { setReader (s.emit (.removed (.reader gen) (s.entryGen task.flow.sport)))
            gen task .done with
          conns := Function.update s.conns task.flow.sport none } := by
    simp only [step, found, readerStep, at_]
  exact doomed_of_last taken rfl foreign.not_own

private theorem doomed_reader_closing {ending : Ending} {seq ack : UInt32}
    (found : s.readers gen = some task) (at_ : task.pc = .closing ending seq ack)
    (foreign : Foreign s task.flow.sport gen) : Doomed s := by
  have taken : step s (.reader gen false) = some (setReader s gen task .removeEntry) := by
    simp only [step, found, readerStep, at_]
    rfl
  exact .of_step taken (doomed_reader_removeEntry (Function.update_self _ _ _) rfl foreign)

private theorem doomed_reader_reading (found : s.readers gen = some task)
    (at_ : task.pc = .reading) (foreign : Foreign s task.flow.sport gen) : Doomed s := by
  have taken : step s (.readerRead gen .eof) =
      some (setReader s gen task (.closing .fin (s.seqShared gen) (s.ackShared gen))) := by
    simp only [step, found, readerRead, at_]
  exact .of_step taken (doomed_reader_closing (Function.update_self _ _ _) rfl foreign)

private theorem doomed_reader_storing {seq : UInt32} {count : Nat}
    (found : s.readers gen = some task) (at_ : task.pc = .storing seq count)
    (foreign : Foreign s task.flow.sport gen) : Doomed s := by
  have taken : step s (.reader gen false) =
      some
        { setReader s gen task .reading with
          seqShared := Function.update s.seqShared gen (seq + UInt32.ofNat count) } := by
    simp only [step, found, readerStep, at_]
  exact .of_step taken (doomed_reader_reading (Function.update_self _ _ _) rfl foreign)

private theorem doomed_reader_sending {seq ack : UInt32} {data : List UInt8}
    (found : s.readers gen = some task) (at_ : task.pc = .sending seq ack data)
    (foreign : Foreign s task.flow.sport gen) : Doomed s := by
  have taken : step s (.reader gen false) =
      some (setReader s gen task (.storing seq data.length)) := by
    simp only [step, found, readerStep, at_]
    rfl
  exact .of_step taken (doomed_reader_storing (Function.update_self _ _ _) rfl foreign)

private theorem doomed_reader (found : s.readers gen = some task) (running : task.pc ≠ .done)
    (foreign : Foreign s task.flow.sport gen) : Doomed s := by
  cases at_ : task.pc with
  | reading => exact doomed_reader_reading found at_ foreign
  | sending seq ack data => exact doomed_reader_sending found at_ foreign
  | storing seq count => exact doomed_reader_storing found at_ foreign
  | closing ending seq ack => exact doomed_reader_closing found at_ foreign
  | removeEntry => exact doomed_reader_removeEntry found at_ foreign
  | done => exact absurd at_ running

end ReaderTasks

section ConnectTasks

variable {s : State} {gen : Nat} {task : ConnectTask}

private theorem doomed_connect_removeEntry (found : s.connects gen = some task)
    (at_ : task.pc = .removeEntry) (foreign : Foreign s task.flow.sport gen) : Doomed s := by
  have taken : step s (.connect gen false) =
      some
        { setConnect (s.emit (.removed (.connect gen) (s.entryGen task.flow.sport)))
            gen task .gaveUp with
          conns := Function.update s.conns task.flow.sport none } := by
    simp only [step, found, connectStep, at_]
  exact doomed_of_last taken rfl foreign.not_own

private theorem doomed_connect_sendRst (found : s.connects gen = some task)
    (at_ : task.pc = .sendRst) (foreign : Foreign s task.flow.sport gen) : Doomed s := by
  have taken : step s (.connect gen false) = some (setConnect s gen task .removeEntry) := by
    simp only [step, found, connectStep, at_]
    rfl
  exact .of_step taken (doomed_connect_removeEntry (Function.update_self _ _ _) rfl foreign)

private theorem doomed_connect_install (found : s.connects gen = some task)
    (at_ : task.pc = .install) (foreign : Foreign s task.flow.sport gen) : Doomed s := by
  have taken : step s (.connect gen false) =
      some
        { setConnect (s.emit (.installed (.connect gen) (s.entryGen task.flow.sport)))
            gen task .spawnTasks with
          conns := Function.update s.conns task.flow.sport
            (some { dataTx := some gen, gen := gen, isn := task.isn, connecting := false }) } := by
    simp only [step, found, connectStep, at_]
  exact doomed_of_last taken rfl foreign.not_own

private theorem doomed_connect_storeSeq (found : s.connects gen = some task)
    (at_ : task.pc = .storeSeq) (foreign : Foreign s task.flow.sport gen) : Doomed s := by
  have taken : step s (.connect gen false) =
      some
        { setConnect s gen task .install with
          seqShared := Function.update s.seqShared gen (task.isn + 1)
          channels := Function.update s.channels gen (Channel.empty _ dataQueue) } := by
    simp only [step, found, connectStep, at_]
  exact .of_step taken (doomed_connect_install (Function.update_self _ _ _) rfl foreign)

private theorem doomed_connect_checkEntry (found : s.connects gen = some task)
    (at_ : task.pc = .checkEntry) (foreign : Foreign s task.flow.sport gen) : Doomed s := by
  have taken : step s (.connect gen false) = some (setConnect s gen task .storeSeq) := by
    obtain ⟨conn, entry, pending, _⟩ := foreign
    simp only [step, found, connectStep, at_, entry, pending, if_true]
  exact .of_step taken (doomed_connect_storeSeq (Function.update_self _ _ _) rfl foreign)

private theorem doomed_connect_connecting (found : s.connects gen = some task)
    (at_ : task.pc = .connecting) (foreign : Foreign s task.flow.sport gen) : Doomed s := by
  have taken : step s (.connectResult gen true) = some (setConnect s gen task .checkEntry) := by
    simp only [step, found, at_, if_true]
  exact .of_step taken (doomed_connect_checkEntry (Function.update_self _ _ _) rfl foreign)

private theorem doomed_connect_spawnTasks (found : s.connects gen = some task)
    (at_ : task.pc = .spawnTasks) (foreign : Foreign s task.flow.sport gen) : Doomed s := by
  have taken : step s (.connect gen true) =
      some
        { setConnect s gen task (.sendSynAck (s.ackShared gen)) with
          readers := Function.update s.readers gen
            (some { flow := task.flow, pc := .reading }) } := by
    simp only [step, found, connectStep, at_, if_true]
  exact .of_step taken (doomed_reader_reading (Function.update_self _ _ _) rfl foreign)

private theorem doomed_connect (found : s.connects gen = some task)
    (writes : task.pc.writesTable = true) (foreign : Foreign s task.flow.sport gen) :
    Doomed s := by
  cases at_ : task.pc with
  | connecting => exact doomed_connect_connecting found at_ foreign
  | checkEntry => exact doomed_connect_checkEntry found at_ foreign
  | storeSeq => exact doomed_connect_storeSeq found at_ foreign
  | install => exact doomed_connect_install found at_ foreign
  | spawnTasks => exact doomed_connect_spawnTasks found at_ foreign
  | sendRst => exact doomed_connect_sendRst found at_ foreign
  | removeEntry => exact doomed_connect_removeEntry found at_ foreign
  | sendSynAck ackVal =>
      rw [at_] at writes
      cases writes
  | done =>
      rw [at_] at writes
      cases writes
  | gaveUp =>
      rw [at_] at writes
      cases writes

end ConnectTasks

/-- A SYN inserted on a port with a live task puts its entry where that task will write. -/
theorem doomed_of_insert {s : State} {seg : Segment} {isn : UInt32} {gen : Nat}
    (wellFormed : WellFormed s) (alive : Live s gen seg.flow.sport) :
    Doomed (insertConnecting s seg isn) := by
  have older : gen ≠ s.nextGen := Nat.ne_of_lt (alive.opened wellFormed)
  have foreign : Foreign (insertConnecting s seg isn) seg.flow.sport gen :=
    ⟨_, Function.update_self _ _ _, rfl, Ne.symm older⟩
  cases alive with
  | connect found samePort writes =>
      refine doomed_connect ?_ writes (samePort ▸ foreign)
      rw [insertConnecting, ← found]
      exact Function.update_of_ne older _ _
  | reader found samePort running => exact doomed_reader found running (samePort ▸ foreign)

/-- While no SYN is inserted on a port with a live task, a task overwrites or removes only the
entry of its own generation; one that is lets some schedule break this. -/
theorem tasks_write_own_generation (events : List Event) (s : State) :
    (Run (Restrict (ofNext step) fun s event => portFree s event) State.init events s →
      ∀ output ∈ s.trace, output.OwnGeneration) ∧
    ∀ isn s', Runs State.init events s → step s (.insertConnecting isn) = some s' →
      portFree s (.insertConnecting isn) = false → Doomed s' := by
  constructor
  · intro run
    exact ownGeneration_of_run run
  · intro isn s' runs taken occupied
    cases at_ : s.main with
    | insertConnecting seg =>
        simp only [portFree, at_, List.all_eq_false, List.mem_range, Bool.not_eq_true',
          Bool.not_eq_false] at occupied
        obtain ⟨gen, _, alive⟩ := occupied
        simp only [step, at_, Option.some.injEq] at taken
        subst taken
        exact doomed_of_insert (wellFormed_of_runs runs) (live_iff.mp alive)
    | _ => simp [step, at_] at taken

/-- The events of a connect task whose SOCKS handshake fails. -/
def failEvents (gen : Nat) : List Event :=
  [.connectResult gen false, .connect gen true, .connect gen true]

/-- The app gives up on its SYN and sends another one from the same port. -/
def reuseEvents : List Event :=
  [.packet (.syn webFlow 1000) true, .insertConnecting 77, .packet (.rst webFlow 1001) true,
    .packet (.syn webFlow 5000) true]

theorem tasks_write_own_generation_reuse :
    (∃ s, executeChecked step portFree State.init
        ([.packet (.syn webFlow 1000) true, .insertConnecting 77] ++ failEvents 0 ++
          openEvents (.syn webFlow 5000) 1 88) = some s ∧
      .removed (.connect 0) (some 0) ∈ s.trace ∧ .installed (.connect 1) (some 1) ∈ s.trace ∧
      ∀ output ∈ s.trace, output.OwnGeneration) ∧
    ∃ s s', execute step State.init reuseEvents = some s ∧
      step s (.insertConnecting 88) = some s' ∧ Doomed s' := by
  constructor
  · have checked : (executeChecked step portFree State.init
        ([.packet (.syn webFlow 1000) true, .insertConnecting 77] ++ failEvents 0 ++
          openEvents (.syn webFlow 5000) 1 88)).map (fun s =>
        decide (.removed (.connect 0) (some 0) ∈ s.trace ∧
          .installed (.connect 1) (some 1) ∈ s.trace)) = some true := by
      rfl
    obtain ⟨s, executed, observed⟩ := Option.map_eq_some_iff.mp checked
    rw [decide_eq_true_eq] at observed
    exact ⟨s, executed, observed.1, observed.2,
      (tasks_write_own_generation _ s).1 (run_of_executeChecked executed)⟩
  · have checked : ((execute step State.init reuseEvents).bind fun s =>
        (step s (.insertConnecting 88)).map (fun _ => portFree s (.insertConnecting 88))) =
          some false := by
      rfl
    obtain ⟨s, executed, next⟩ := Option.bind_eq_some_iff.mp checked
    obtain ⟨s', taken, occupied⟩ := Option.map_eq_some_iff.mp next
    exact ⟨s, s', executed, taken,
      (tasks_write_own_generation _ s).2 88 s' (run_of_execute executed) taken occupied⟩

/-- The failed connect of the abandoned SYN removes the entry of the new one. -/
theorem failed_connect_removes_newer_entry :
    ¬∀ events s, Runs State.init events s → ∀ output ∈ s.trace, output.OwnGeneration := by
  intro claim
  have checked : (execute step State.init (reuseEvents ++ [.insertConnecting 88] ++
      failEvents 0)).map (fun s => decide (.removed (.connect 0) (some 1) ∈ s.trace)) =
      some true := by
    rfl
  obtain ⟨s, executed, observed⟩ := Option.map_eq_some_iff.mp checked
  rw [decide_eq_true_eq] at observed
  have own : 1 = 0 := claim _ s (run_of_execute executed) _ observed 1 rfl
  omega

end MolidoVpn.Relay
