import MolidoVpn.Relay.Steps

/-!
What always holds of the relay's tables: every entry, reader and segment in the
main loop's hands belongs to a generation that a SYN opened, and a connect task
never forgets what it captured.
-/

namespace MolidoVpn.Relay

open Transition (Run Restrict ofNext)

abbrev Runs (s : State) (events : List Event) (s' : State) : Prop :=
  Run (ofNext step) s events s'

@[simp]
theorem writeTun_main (s : State) (gen : Option Nat) (pkt : TunSegment) (written : Bool) :
    (s.writeTun gen pkt written).main = s.main := by
  cases written <;> rfl

@[simp]
theorem writeTun_conns (s : State) (gen : Option Nat) (pkt : TunSegment) (written : Bool) :
    (s.writeTun gen pkt written).conns = s.conns := by
  cases written <;> rfl

@[simp]
theorem writeTun_connects (s : State) (gen : Option Nat) (pkt : TunSegment) (written : Bool) :
    (s.writeTun gen pkt written).connects = s.connects := by
  cases written <;> rfl

@[simp]
theorem writeTun_readers (s : State) (gen : Option Nat) (pkt : TunSegment) (written : Bool) :
    (s.writeTun gen pkt written).readers = s.readers := by
  cases written <;> rfl

@[simp]
theorem writeTun_nextGen (s : State) (gen : Option Nat) (pkt : TunSegment) (written : Bool) :
    (s.writeTun gen pkt written).nextGen = s.nextGen := by
  cases written <;> rfl

@[simp]
theorem writeTun_ackShared (s : State) (gen : Option Nat) (pkt : TunSegment) (written : Bool) :
    (s.writeTun gen pkt written).ackShared = s.ackShared := by
  cases written <;> rfl

@[simp]
theorem writeTun_seqShared (s : State) (gen : Option Nat) (pkt : TunSegment) (written : Bool) :
    (s.writeTun gen pkt written).seqShared = s.seqShared := by
  cases written <;> rfl

@[simp]
theorem writeTun_channels (s : State) (gen : Option Nat) (pkt : TunSegment) (written : Bool) :
    (s.writeTun gen pkt written).channels = s.channels := by
  cases written <;> rfl

/-- What a connect task keeps for good. -/
structure ConnectTask.Continues (task later : ConnectTask) : Prop where
  flow : later.flow = task.flow
  seqNum : later.seqNum = task.seqNum
  isn : later.isn = task.isn
  installed : task.pc.installed = true → later.pc.installed = true
  spawned : task.pc.spawned = true → later.pc.spawned = true
  writes : later.pc.writesTable = true → task.pc.writesTable = true
  stored : later.pc.seqStored = true → task.pc.seqStored = true ∨ task.pc = .storeSeq

theorem ConnectTask.Continues.refl (task : ConnectTask) : task.Continues task :=
  ⟨rfl, rfl, rfl, id, id, id, Or.inl⟩

/-- The moves of a connect task. -/
inductive ConnectPc.Advances : ConnectPc → ConnectPc → Prop where
  | abort : Advances .connecting .gaveUp
  | connected : Advances .connecting .checkEntry
  | failed : Advances .connecting .sendRst
  | proceed : Advances .checkEntry .storeSeq
  | giveUp : Advances .checkEntry .gaveUp
  | store : Advances .storeSeq .install
  | install : Advances .install .spawnTasks
  | spawn (ackVal : UInt32) : Advances .spawnTasks (.sendSynAck ackVal)
  | panic : Advances .spawnTasks .done
  | finish (ackVal : UInt32) : Advances (.sendSynAck ackVal) .done
  | reset : Advances .sendRst .removeEntry
  | remove : Advances .removeEntry .gaveUp

theorem ConnectPc.Advances.continues {task : ConnectTask} {pc : ConnectPc}
    (advances : task.pc.Advances pc) : task.Continues { task with pc := pc } := by
  obtain ⟨flow, seqNum, isn, current⟩ := task
  refine ⟨rfl, rfl, rfl, ?_, ?_, ?_, ?_⟩
  · intro before
    cases advances <;> first | rfl | cases before
  · intro before
    cases advances <;> first | rfl | cases before
  · intro after
    cases advances <;> first | rfl | cases after
  · intro after
    cases advances <;> first | exact .inl rfl | exact .inr rfl | cases after

/-- One step leaves the connect tasks alone, moves one of them, or adds a new one. -/
inductive ConnectChange (s : State) : Event → State → Prop where
  | same {event : Event} {s' : State} (connects : s'.connects = s.connects)
      (nextGen : s'.nextGen = s.nextGen) : ConnectChange s event s'
  | moved {event : Event} {s' : State} {gen : Nat} {task : ConnectTask} (pc : ConnectPc)
      (found : s.connects gen = some task) (advances : task.pc.Advances pc)
      (connects : s'.connects =
        Function.update s.connects gen (some { task with pc := pc }))
      (nextGen : s'.nextGen = s.nextGen)
      (stores : task.pc = .storeSeq → s'.seqShared gen = task.isn + 1) : ConnectChange s event s'
  | opened {s' : State} {seg : Segment} {isn : UInt32} (at_ : s.main = .insertConnecting seg)
      (connects : s'.connects = Function.update s.connects s.nextGen
        (some { flow := seg.flow, seqNum := seg.seqNum, isn := isn, pc := .connecting }))
      (nextGen : s'.nextGen = s.nextGen + 1) :
      ConnectChange s (.insertConnecting isn) s'

theorem Shape.connectChange {s s' : State} {event : Event} (shape : Shape s event s') :
    ConnectChange s event s' := by
  cases shape with
  | inserted at_ => exact .opened at_ rfl rfl
  | connectAborted found at_ =>
      exact .moved _ found (at_ ▸ .abort) rfl rfl
        (fun storing => by simp [at_] at storing)
  | @connectReturned gen task success found at_ =>
      cases success with
      | true =>
          exact .moved .checkEntry found (at_ ▸ .connected) rfl rfl
            (fun storing => by simp [at_] at storing)
      | false =>
          exact .moved .sendRst found (at_ ▸ .failed) rfl rfl
            (fun storing => by simp [at_] at storing)
  | connectPanicked found at_ =>
      exact .moved _ found (at_ ▸ .panic) rfl rfl
        (fun storing => by simp [at_] at storing)
  | entryStillConnecting found at_ _ _ =>
      exact .moved _ found (at_ ▸ .proceed) rfl rfl
        (fun storing => by simp [at_] at storing)
  | entryNotConnecting found at_ =>
      exact .moved _ found (at_ ▸ .giveUp) rfl rfl
        (fun storing => by simp [at_] at storing)
  | seqStored found at_ =>
      exact .moved _ found (at_ ▸ .store) rfl rfl (fun _ => Function.update_self _ _ _)
  | entryInstalled found at_ =>
      exact .moved _ found (at_ ▸ .install) rfl rfl
        (fun storing => by simp [at_] at storing)
  | tasksSpawned found at_ =>
      exact .moved _ found (at_ ▸ .spawn _) rfl rfl
        (fun storing => by simp [at_] at storing)
  | synAckSent found at_ =>
      exact .moved .done found (at_ ▸ .finish _) (by simp [setConnect])
        (by simp [setConnect]) (fun storing => by simp [at_] at storing)
  | rstSent found at_ =>
      exact .moved .removeEntry found (at_ ▸ .reset) (by simp [setConnect])
        (by simp [setConnect]) (fun storing => by simp [at_] at storing)
  | connectRemoved found at_ =>
      exact .moved _ found (at_ ▸ .remove) rfl rfl
        (fun storing => by simp [at_] at storing)
  | _ =>
      first
        | exact .same rfl rfl
        | exact .same (by simp [State.returned, State.emit, sendAck, setReader])
            (by simp [State.returned, State.emit, sendAck, setReader])

/-- A generation, once opened, stays with what its SYN said. -/
theorem Shape.connects_continue {s s' : State} {event : Event} (shape : Shape s event s')
    (fresh : ∀ gen task, s.connects gen = some task → gen < s.nextGen) {gen : Nat}
    {task : ConnectTask} (found : s.connects gen = some task) :
    ∃ later, s'.connects gen = some later ∧ task.Continues later := by
  cases shape.connectChange with
  | same connects _ => exact ⟨task, by rw [connects, found], .refl task⟩
  | @moved _ _ other old pc atOther advances connects _ _ =>
      by_cases here : gen = other
      · subst here
        have equal : old = task := Option.some.inj (atOther.symm.trans found)
        subst equal
        exact ⟨_, by rw [connects, Function.update_self], advances.continues⟩
      · exact ⟨task, by rw [connects, Function.update_of_ne here, found], .refl task⟩
  | opened _ connects _ =>
      have older := fresh gen task found
      exact ⟨task, by rw [connects, Function.update_of_ne (Nat.ne_of_lt older), found], .refl task⟩

/-- A generation present after a step was there before it or is the one just opened. -/
theorem Shape.connects_origin {s s' : State} {event : Event} (shape : Shape s event s')
    {gen : Nat} {later : ConnectTask} (found : s'.connects gen = some later) :
    (∃ task, s.connects gen = some task ∧ task.Continues later) ∨
      ∃ seg isn, event = .insertConnecting isn ∧ s.main = .insertConnecting seg ∧
        gen = s.nextGen ∧
        later = { flow := seg.flow, seqNum := seg.seqNum, isn := isn, pc := .connecting } := by
  cases shape.connectChange with
  | same connects _ =>
      rw [connects] at found
      exact Or.inl ⟨later, found, .refl later⟩
  | @moved _ _ other old pc atOther advances connects _ _ =>
      rw [connects] at found
      by_cases here : gen = other
      · subst here
        rw [Function.update_self, Option.some.injEq] at found
        subst found
        exact Or.inl ⟨old, atOther, advances.continues⟩
      · rw [Function.update_of_ne here] at found
        exact Or.inl ⟨later, found, .refl later⟩
  | @opened _ seg isn at_ connects _ =>
      rw [connects] at found
      by_cases here : gen = s.nextGen
      · subst here
        rw [Function.update_self, Option.some.injEq] at found
        exact Or.inr ⟨seg, isn, rfl, at_, rfl, found.symm⟩
      · rw [Function.update_of_ne here] at found
        exact Or.inl ⟨later, found, .refl later⟩

/-- An entry is either the one its SYN inserted or the one its connect task installed. -/
def EntryOk (s : State) (port : UInt16) (conn : TcpConn) : Prop :=
  ∃ task, s.connects conn.gen = some task ∧ task.flow.sport = port ∧ task.isn = conn.isn ∧
    (conn.connecting = true ∧ conn.dataTx = none ∨
      conn.connecting = false ∧ conn.dataTx = some conn.gen ∧ task.pc.installed = true)

def NoPendingEntry (s : State) (port : UInt16) : Prop :=
  ∀ conn, s.conns port = some conn → conn.connecting = false

/-- A generation whose connection has been installed under the segment's source port. -/
def InstalledFor (s : State) (gen : Nat) (seg : Segment) : Prop :=
  ∃ task, s.connects gen = some task ∧ task.flow.sport = seg.flow.sport ∧
    task.pc.installed = true

/-- What the main loop relies on between its locks. -/
def MainOk (s : State) : MainPc → Prop
  | .idle => True
  | .insertConnecting _ => True
  | .forward seg _ tx =>
      (∃ gen, tx = some gen ∧ InstalledFor s gen seg) ∧ NoPendingEntry s seg.flow.sport
  | .readCounters seg => NoPendingEntry s seg.flow.sport
  | .sendAck seg gen _ _ => InstalledFor s gen seg

structure WellFormed (s : State) : Prop where
  fresh : ∀ gen task, s.connects gen = some task → gen < s.nextGen
  entry : ∀ port conn, s.conns port = some conn → EntryOk s port conn
  reader : ∀ gen task, s.readers gen = some task →
    ∃ opener, s.connects gen = some opener ∧ opener.flow = task.flow ∧
      opener.pc.spawned = true
  main : MainOk s s.main

theorem wellFormed_init : WellFormed State.init :=
  { fresh := fun gen task absent => by cases absent
    entry := fun port conn absent => by cases absent
    reader := fun gen task absent => by cases absent
    main := trivial }

/-- One step leaves the table alone, removes an entry, or stores one of the two kinds. -/
inductive EntryChange (s : State) : Event → State → Prop where
  | same {event : Event} {s' : State} (conns : s'.conns = s.conns) : EntryChange s event s'
  | removed {event : Event} {s' : State} (port : UInt16)
      (conns : s'.conns = Function.update s.conns port none) : EntryChange s event s'
  | inserted {s' : State} {seg : Segment} {isn : UInt32} (at_ : s.main = .insertConnecting seg)
      (result : s' = insertConnecting s seg isn) : EntryChange s (.insertConnecting isn) s'
  | installed {s' : State} {gen : Nat} {task : ConnectTask} {success : Bool}
      (found : s.connects gen = some task) (at_ : task.pc = .install)
      (main : s'.main = s.main)
      (connects : s'.connects gen = some { task with pc := .spawnTasks })
      (conns : s'.conns = Function.update s.conns task.flow.sport
        (some { dataTx := some gen, gen := gen, isn := task.isn, connecting := false })) :
      EntryChange s (.connect gen success) s'

theorem Shape.entryChange {s s' : State} {event : Event} (shape : Shape s event s') :
    EntryChange s event s' := by
  cases shape with
  | inserted at_ => exact .inserted at_ rfl
  | entryInstalled found at_ =>
      exact .installed found at_ rfl (Function.update_self _ _ _) rfl
  | closed => exact .removed _ rfl
  | connectRemoved => exact .removed _ rfl
  | readerRemoved => exact .removed _ rfl
  | _ =>
      first
        | exact .same rfl
        | exact .same (by simp [State.returned, State.emit, sendAck, setReader, setConnect])

/-- One step leaves the readers alone, spawns one, or moves one. -/
inductive ReaderChange (s : State) (s' : State) : Prop where
  | same (readers : s'.readers = s.readers)
  | spawned {gen : Nat} {task : ConnectTask} (success : Bool)
      (found : s.connects gen = some task) (at_ : task.pc = .spawnTasks)
      (connects : s'.connects gen = some { task with pc := .sendSynAck (s.ackShared gen) })
      (readers : s'.readers = Function.update s.readers gen
        (if success then some { flow := task.flow, pc := .reading } else none))
  | moved {gen : Nat} {task : ReaderTask} (pc : ReaderPc) (found : s.readers gen = some task)
      (running : task.pc ≠ .done)
      (readers : s'.readers = Function.update s.readers gen (some { task with pc := pc }))

theorem Shape.readerChange {s s' : State} {event : Event} (shape : Shape s event s') :
    ReaderChange s s' := by
  cases shape with
  | @tasksSpawned gen task success found at_ =>
      exact .spawned success found at_ (Function.update_self _ _ _) rfl
  | chunkRead found at_ => exact .moved _ found (by simp [at_]) rfl
  | responseEnded _ found at_ => exact .moved _ found (by simp [at_]) rfl
  | chunkSent found at_ =>
      exact .moved _ found (by simp [at_]) (by simp [setReader]; rfl)
  | seqAdvanced found at_ => exact .moved _ found (by simp [at_]) rfl
  | closingSent found at_ =>
      exact .moved _ found (by simp [at_]) (by simp [setReader]; rfl)
  | readerRemoved found at_ => exact .moved _ found (by simp [at_]) rfl
  | _ =>
      first
        | exact .same rfl
        | exact .same (by simp [State.returned, State.emit, sendAck, setConnect])

theorem EntryOk.continues {s s' : State} {port : UInt16} {conn : TcpConn}
    (ok : EntryOk s port conn)
    (later : ∀ gen task, s.connects gen = some task →
      ∃ later, s'.connects gen = some later ∧ task.Continues later) : EntryOk s' port conn := by
  obtain ⟨task, found, samePort, sameIsn, kind⟩ := ok
  obtain ⟨after, foundAfter, continues⟩ := later conn.gen task found
  refine ⟨after, foundAfter, by rw [continues.flow, samePort], by rw [continues.isn, sameIsn], ?_⟩
  rcases kind with pending | ⟨ready, sender, installed⟩
  · exact Or.inl pending
  · exact Or.inr ⟨ready, sender, continues.installed installed⟩

theorem InstalledFor.continues {s s' : State} {gen : Nat} {seg : Segment}
    (installed : InstalledFor s gen seg)
    (later : ∀ gen task, s.connects gen = some task →
      ∃ later, s'.connects gen = some later ∧ task.Continues later) : InstalledFor s' gen seg := by
  obtain ⟨task, found, samePort, done⟩ := installed
  obtain ⟨after, foundAfter, continues⟩ := later gen task found
  exact ⟨after, foundAfter, by rw [continues.flow, samePort], continues.installed done⟩

/-- Only the main loop stores `connecting` entries, so none appears behind its back. -/
theorem EntryChange.noPendingEntry {s s' : State} {event : Event} (change : EntryChange s event s')
    (other : ∀ isn, event ≠ .insertConnecting isn) {port : UInt16}
    (noPending : NoPendingEntry s port) : NoPendingEntry s' port := by
  intro conn found
  cases change with
  | same conns => exact noPending conn (by rw [← conns, found])
  | removed at_ conns =>
      rw [conns] at found
      by_cases here : port = at_
      · subst here
        rw [Function.update_self] at found
        cases found
      · rw [Function.update_of_ne here] at found
        exact noPending conn found
  | inserted => exact absurd rfl (other _)
  | @installed _ gen task success _ _ _ _ conns =>
      rw [conns] at found
      by_cases here : port = task.flow.sport
      · subst here
        rw [Function.update_self, Option.some.injEq] at found
        subst found
        rfl
      · rw [Function.update_of_ne here] at found
        exact noPending conn found

theorem Shape.entry_ok {s s' : State} {event : Event} (shape : Shape s event s')
    (wellFormed : WellFormed s) (port : UInt16) (conn : TcpConn)
    (found : s'.conns port = some conn) : EntryOk s' port conn := by
  have later (gen : Nat) (task : ConnectTask) (at_ : s.connects gen = some task) :=
    shape.connects_continue wellFormed.fresh at_
  cases shape.entryChange with
  | same conns => exact (wellFormed.entry port conn (by rw [← conns, found])).continues later
  | removed at_ conns =>
      rw [conns] at found
      by_cases here : port = at_
      · subst here
        rw [Function.update_self] at found
        cases found
      · rw [Function.update_of_ne here] at found
        exact (wellFormed.entry port conn found).continues later
  | @inserted _ seg isn at_ result =>
      subst result
      simp only [insertConnecting] at found
      by_cases here : port = seg.flow.sport
      · subst here
        rw [Function.update_self, Option.some.injEq] at found
        subst found
        exact ⟨_, Function.update_self _ _ _, rfl, rfl, Or.inl ⟨rfl, rfl⟩⟩
      · rw [Function.update_of_ne here] at found
        exact (wellFormed.entry port conn found).continues later
  | @installed _ gen task success old _ _ connects conns =>
      rw [conns] at found
      by_cases here : port = task.flow.sport
      · subst here
        rw [Function.update_self, Option.some.injEq] at found
        subst found
        exact ⟨_, connects, rfl, rfl, Or.inr ⟨rfl, rfl, rfl⟩⟩
      · rw [Function.update_of_ne here] at found
        exact (wellFormed.entry port conn found).continues later

theorem Shape.reader_ok {s s' : State} {event : Event} (shape : Shape s event s')
    (wellFormed : WellFormed s) (gen : Nat) (task : ReaderTask)
    (found : s'.readers gen = some task) :
    ∃ opener, s'.connects gen = some opener ∧ opener.flow = task.flow ∧
      opener.pc.spawned = true := by
  have kept (task : ReaderTask) (found : s.readers gen = some task) :
      ∃ opener, s'.connects gen = some opener ∧ opener.flow = task.flow ∧
        opener.pc.spawned = true := by
    obtain ⟨opener, opened, sameFlow, spawned⟩ := wellFormed.reader gen task found
    obtain ⟨after, foundAfter, continues⟩ := shape.connects_continue wellFormed.fresh opened
    exact ⟨after, foundAfter, by rw [continues.flow, sameFlow], continues.spawned spawned⟩
  cases shape.readerChange with
  | same readers => exact kept task (by rw [← readers, found])
  | @spawned other opener success _ _ connects readers =>
      rw [readers] at found
      by_cases here : gen = other
      · subst here
        rw [Function.update_self] at found
        cases success with
        | true =>
            simp only [if_true, Option.some.injEq] at found
            subst found
            exact ⟨_, connects, rfl, rfl⟩
        | false => cases found
      · rw [Function.update_of_ne here] at found
        exact kept task found
  | @moved other old pc atOther _ readers =>
      rw [readers] at found
      by_cases here : gen = other
      · subst here
        rw [Function.update_self, Option.some.injEq] at found
        subst found
        exact kept old atOther
      · rw [Function.update_of_ne here] at found
        exact kept task found

/-- A step of another task does not disturb what the main loop holds. -/
theorem MainOk.undisturbed {s s' : State} {event : Event} (shape : Shape s event s')
    (wellFormed : WellFormed s) (other : ∀ isn, event ≠ .insertConnecting isn)
    (main : s'.main = s.main) : MainOk s' s'.main := by
  have later (gen : Nat) (task : ConnectTask) (at_ : s.connects gen = some task) :=
    shape.connects_continue wellFormed.fresh at_
  have noPending (port : UInt16) (none : NoPendingEntry s port) :=
    shape.entryChange.noPendingEntry other none
  have held := wellFormed.main
  rw [main]
  cases at_ : s.main with
  | idle => trivial
  | insertConnecting seg => trivial
  | forward seg off tx =>
      rw [at_] at held
      obtain ⟨⟨gen, sender, installed⟩, entries⟩ := held
      exact ⟨⟨gen, sender, installed.continues later⟩, noPending _ entries⟩
  | readCounters seg =>
      rw [at_] at held
      exact noPending _ held
  | sendAck seg gen seqAck ackVal =>
      rw [at_] at held
      exact held.continues later

theorem Shape.main_ok {s s' : State} {event : Event} (shape : Shape s event s')
    (wellFormed : WellFormed s) : MainOk s' s'.main := by
  have whole := shape
  cases shape with
  | accepted idle data found ready fresh =>
      obtain ⟨task, opened, samePort, _, kind⟩ := wellFormed.entry _ _ found
      rcases kind with ⟨pending, _⟩ | ⟨_, sender, installed⟩
      · rw [ready] at pending
        cases pending
      · refine ⟨⟨_, sender, task, opened, samePort, installed⟩, ?_⟩
        intro conn at_
        have same : conn = _ := Option.some.inj (at_.symm.trans found)
        rw [same, ready]
  | stale idle data found ready old =>
      intro conn at_
      have same : conn = _ := Option.some.inj (at_.symm.trans found)
      rw [same, ready]
  | noSender at_ =>
      have held := wellFormed.main
      rw [at_] at held
      exact held.2
  | queued at_ sent =>
      have held := wellFormed.main
      rw [at_] at held
      exact held.2
  | dropped at_ full =>
      have held := wellFormed.main
      rw [at_] at held
      exact held.2
  | @countersRead seg conn at_ found =>
      have held := wellFormed.main
      rw [at_] at held
      have ready := held conn found
      obtain ⟨task, opened, samePort, _, kind⟩ := wellFormed.entry _ _ found
      rcases kind with ⟨pending, _⟩ | ⟨_, _, installed⟩
      · rw [ready] at pending
        cases pending
      · exact ⟨task, opened, samePort, installed⟩
  | inserted at_ => trivial
  | closed => trivial
  | refused => trivial
  | synWhileConnecting => trivial
  | synAnswered => trivial
  | synFresh => trivial
  | ignored => trivial
  | entryGone => trivial
  | acked => trivial
  | _ =>
      refine MainOk.undisturbed whole wellFormed (fun isn => by simp) ?_
      first
        | rfl
        | simp [setConnect, setReader]

theorem Shape.wellFormed {s s' : State} {event : Event} (shape : Shape s event s')
    (before : WellFormed s) : WellFormed s' :=
  { fresh := by
      intro gen task found
      cases shape.connectChange with
      | same connects nextGen =>
          rw [nextGen]
          exact before.fresh gen task (by rw [← connects, found])
      | @moved _ _ other old pc atOther _ connects nextGen _ =>
          rw [nextGen]
          rw [connects] at found
          by_cases here : gen = other
          · exact here ▸ before.fresh other old atOther
          · rw [Function.update_of_ne here] at found
            exact before.fresh gen task found
      | opened at_ connects nextGen =>
          rw [nextGen]
          rw [connects] at found
          by_cases here : gen = s.nextGen
          · omega
          · rw [Function.update_of_ne here] at found
            have older := before.fresh gen task found
            omega
    entry := shape.entry_ok before
    reader := shape.reader_ok before
    main := shape.main_ok before }

theorem wellFormed_of_runs {events : List Event} {s : State}
    (runs : Runs State.init events s) : WellFormed s :=
  runs.invariant WellFormed (fun _ _ _ taken before => (step_shape taken).wellFormed before)
    wellFormed_init

end MolidoVpn.Relay
