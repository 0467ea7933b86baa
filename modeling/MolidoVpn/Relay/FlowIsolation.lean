import MolidoVpn.Relay.AppData
import MolidoVpn.Relay.Records

/-!
Two flows and one table. The table is keyed by the source port alone, so a
flow is kept apart from the others exactly as long as every look at the table
finds nothing, or an entry that was opened for the flow that looks.
-/

namespace MolidoVpn.Relay

open History (append_eq_cons_cases)
open Transition (Run Restrict ofNext execute executeChecked run_of_execute run_of_executeChecked)

/-- The flow on whose behalf a step uses the table. -/
def accessFlow (s : State) : Event → Option Flow
  | .packet seg _ =>
      if seg.isFin || seg.isRst then some seg.flow
      else if seg.isSyn then (if seg.flow.dstIp.isPrivate then none else some seg.flow)
      else if seg.isAck && !seg.payload.isEmpty then some seg.flow
      else none
  | .insertConnecting _ =>
      match s.main with
      | .insertConnecting seg => some seg.flow
      | _ => none
  | .readCounters =>
      match s.main with
      | .readCounters seg => some seg.flow
      | _ => none
  | .connect gen _ =>
      match s.connects gen with
      | some task =>
          if task.pc = .install ∨ task.pc = .removeEntry then some task.flow else none
      | none => none
  | .reader gen _ =>
      match s.readers gen with
      | some task => if task.pc = .removeEntry then some task.flow else none
      | none => none
  | _ => none

section AccessFlow

variable {s : State}

private theorem accessFlow_packet {seg : Segment} {written : Bool} :
    accessFlow s (.packet seg written) =
      if seg.isFin || seg.isRst then some seg.flow
      else if seg.isSyn then (if seg.flow.dstIp.isPrivate then none else some seg.flow)
      else if seg.isAck && !seg.payload.isEmpty then some seg.flow
      else none := rfl

private theorem accessFlow_insertConnecting {isn : UInt32} {seg : Segment}
    (at_ : s.main = .insertConnecting seg) :
    accessFlow s (.insertConnecting isn) = some seg.flow := by
  unfold accessFlow
  rw [at_]

private theorem accessFlow_readCounters {seg : Segment} (at_ : s.main = .readCounters seg) :
    accessFlow s .readCounters = some seg.flow := by
  unfold accessFlow
  rw [at_]

private theorem accessFlow_connect {gen : Nat} {success : Bool} {task : ConnectTask}
    (found : s.connects gen = some task) (writes : task.pc = .install ∨ task.pc = .removeEntry) :
    accessFlow s (.connect gen success) = some task.flow := by
  change (match s.connects gen with
    | some task =>
        if task.pc = .install ∨ task.pc = .removeEntry then some task.flow else none
    | none => none) = some task.flow
  rw [found]
  exact if_pos writes

private theorem accessFlow_reader {gen : Nat} {written : Bool} {task : ReaderTask}
    (found : s.readers gen = some task) (removes : task.pc = .removeEntry) :
    accessFlow s (.reader gen written) = some task.flow := by
  change (match s.readers gen with
    | some task => if task.pc = .removeEntry then some task.flow else none
    | none => none) = some task.flow
  rw [found]
  exact if_pos removes

end AccessFlow

/-- The entry under the port, if there is one, was opened for the flow that uses it. -/
def ownEntry (s : State) (event : Event) : Bool :=
  match accessFlow s event with
  | none => true
  | some flow =>
      match s.entryGen flow.sport with
      | none => true
      | some gen => decide (s.flowOf gen = some flow)

/-- A generation read from the table, if any, belongs to the flow. -/
def NamesOwn (flowOf : Nat → Option Flow) (flow : Flow) (entry : Option Nat) : Prop :=
  ∀ gen, entry = some gen → flowOf gen = some flow

def AddressedTo (flow : Flow) (pkt : TunSegment) : Prop :=
  pkt.srcIp = flow.dstIp ∧ pkt.dstIp = flow.srcIp ∧ pkt.srcPort = flow.dport ∧
    pkt.dstPort = flow.sport

/-- The relay used no state but that of the flow it acted for. -/
def Output.Own (flowOf : Nat → Option Flow) : Output → Prop
  | .tun none _ => True
  | .tun (some gen) pkt => ∃ flow, flowOf gen = some flow ∧ AddressedTo flow pkt
  | .closed seg entry => NamesOwn flowOf seg.flow entry
  | .syn seg entry => seg.flow.dstIp.isPrivate = false → NamesOwn flowOf seg.flow entry
  | .spawned gen seg replaced => flowOf gen = some seg.flow ∧ NamesOwn flowOf seg.flow replaced
  | .stored gen seg _ _ => flowOf gen = some seg.flow
  | .queued tx seg _ => flowOf tx = some seg.flow
  | .dropped tx seg _ => flowOf tx = some seg.flow
  | .installed task replaced => ∃ flow, flowOf task.gen = some flow ∧ NamesOwn flowOf flow replaced
  | .removed task entry => ∃ flow, flowOf task.gen = some flow ∧ NamesOwn flowOf flow entry

/-- Every SYN to a routable destination that met no connection of its own flow has its own
upstream connection, or the main loop is about to open it. -/
def SynsServed (s : State) : Prop :=
  ∀ before seg entry after, s.trace = before ++ .syn seg entry :: after →
    seg.flow.dstIp.isPrivate = false →
    (∀ gen, entry = some gen → s.flowOf gen ≠ some seg.flow) →
    (∃ gen replaced, .spawned gen seg replaced ∈ after) ∨ s.main = .insertConnecting seg

structure FlowsIsolated (s : State) : Prop where
  own : ∀ output ∈ s.trace, output.Own s.flowOf
  served : SynsServed s

theorem NamesOwn.later {flowOf later : Nat → Option Flow} {flow : Flow} {entry : Option Nat}
    (names : NamesOwn flowOf flow entry)
    (kept : ∀ gen flow, flowOf gen = some flow → later gen = some flow) :
    NamesOwn later flow entry :=
  fun gen found => kept gen flow (names gen found)

theorem Output.Own.later {flowOf later : Nat → Option Flow} {output : Output}
    (own : output.Own flowOf)
    (kept : ∀ gen flow, flowOf gen = some flow → later gen = some flow) : output.Own later := by
  cases output with
  | tun gen pkt =>
      cases gen with
      | none => trivial
      | some gen =>
          obtain ⟨flow, opened, addressed⟩ := own
          exact ⟨flow, kept gen flow opened, addressed⟩
  | closed seg entry => exact NamesOwn.later own kept
  | syn seg entry => exact fun routable => (own routable).later kept
  | spawned gen seg replaced => exact ⟨kept _ _ own.1, own.2.later kept⟩
  | stored gen seg old new => exact kept _ _ own
  | queued tx seg slice => exact kept _ _ own
  | dropped tx seg slice => exact kept _ _ own
  | installed task replaced =>
      obtain ⟨flow, opened, names⟩ := own
      exact ⟨flow, kept _ flow opened, names.later kept⟩
  | removed task entry =>
      obtain ⟨flow, opened, names⟩ := own
      exact ⟨flow, kept _ flow opened, names.later kept⟩

theorem Shape.flowOf_kept {s s' : State} {event : Event} (shape : Shape s event s')
    (wellFormed : WellFormed s) (gen : Nat) (flow : Flow) (opened : s.flowOf gen = some flow) :
    s'.flowOf gen = some flow := by
  unfold State.flowOf at opened ⊢
  obtain ⟨task, found, same⟩ := Option.map_eq_some_iff.mp opened
  obtain ⟨later, foundLater, continues⟩ := shape.connects_continue wellFormed.fresh found
  rw [foundLater, Option.map_some, continues.flow, same]

theorem namesOwn_of_ownEntry {s : State} {event : Event} {flow : Flow}
    (checked : ownEntry s event = true) (access : accessFlow s event = some flow) :
    NamesOwn s.flowOf flow (s.entryGen flow.sport) := by
  intro gen found
  simpa only [ownEntry, access, found, decide_eq_true_eq] using checked

private theorem accessFlow_syn {s : State} {seg : Segment} {written : Bool} (opens : seg.opens)
    (routable : seg.flow.dstIp.isPrivate = false) :
    accessFlow s (.packet seg written) = some seg.flow := by
  obtain ⟨notFin, notRst, syn⟩ := opens
  simp [accessFlow_packet, notFin, notRst, syn, routable]

private theorem accessFlow_data {s : State} {seg : Segment} {written : Bool}
    (data : seg.carriesData) : accessFlow s (.packet seg written) = some seg.flow := by
  obtain ⟨notFin, notRst, notSyn, ack, payload⟩ := data
  simp [accessFlow_packet, notFin, notRst, notSyn, ack, payload]

/-- The generation of an entry that a checked step finds is one of the flow that looks. -/
private theorem flowOf_entry {s : State} {event : Event} {flow : Flow} {conn : TcpConn}
    (checked : ownEntry s event = true) (access : accessFlow s event = some flow)
    (found : s.conns flow.sport = some conn) : s.flowOf conn.gen = some flow := by
  apply namesOwn_of_ownEntry checked access
  rw [State.entryGen, found, Option.map_some]

/-- What the main loop holds belongs to the flow of its segment. -/
def MainOwn (flowOf : Nat → Option Flow) : MainPc → Prop
  | .forward seg _ (some tx) => flowOf tx = some seg.flow
  | .sendAck seg gen _ _ => flowOf gen = some seg.flow
  | _ => True

theorem MainOwn.later {flowOf later : Nat → Option Flow} {main : MainPc}
    (own : MainOwn flowOf main)
    (kept : ∀ gen flow, flowOf gen = some flow → later gen = some flow) :
    MainOwn later main := by
  cases main with
  | forward seg off tx =>
      cases tx with
      | none => trivial
      | some tx => exact kept _ _ own
  | sendAck seg gen seqAck ackVal => exact kept _ _ own
  | _ => trivial

private theorem mainOwn_step {s s' : State} {event : Event} (shape : Shape s event s')
    (checked : ownEntry s event = true) (wellFormed : WellFormed s)
    (before : MainOwn s.flowOf s.main) : MainOwn s'.flowOf s'.main := by
  have kept := shape.flowOf_kept wellFormed
  cases shape with
  | accepted idle data found ready fresh =>
      obtain ⟨task, opened, _, _, kind⟩ := wellFormed.entry _ _ found
      rcases kind with ⟨pending, _⟩ | ⟨_, sender, _⟩
      · rw [ready] at pending
        cases pending
      · simp only [sender]
        exact kept _ _ (flowOf_entry checked (accessFlow_data data) found)
  | @countersRead seg conn at_ found =>
      exact kept _ _ (flowOf_entry checked (accessFlow_readCounters at_) found)
  | synAckSent => simpa [setConnect] using before.later kept
  | rstSent => simpa [setConnect] using before.later kept
  | chunkSent => simpa [setReader] using before.later kept
  | closingSent => simpa [setReader] using before.later kept
  | _ =>
      first
        | exact before.later kept
        | trivial

private theorem addressed_reply (flow : Flow) (seq ack : UInt32) (flags : UInt8)
    (payload : List UInt8) : AddressedTo flow (reply flow seq ack flags payload) :=
  ⟨rfl, rfl, rfl, rfl⟩

private theorem stamped_own {s : State} {event : Event} {gen : Nat} {pkt : TunSegment}
    (source : Source s event gen pkt) (checked : ownEntry s event = true)
    (wellFormed : WellFormed s) (main : MainOwn s.flowOf s.main) :
    ∃ flow, s.flowOf gen = some flow ∧ AddressedTo flow pkt := by
  have readerFlow {task : ReaderTask} (found : s.readers gen = some task) :
      s.flowOf gen = some task.flow := by
    obtain ⟨opener, opened, sameFlow, _⟩ := wellFormed.reader gen task found
    rw [State.flowOf, opened, Option.map_some, sameFlow]
  cases source with
  | synAnswered arrives opens routable found ready same =>
      subst arrives
      subst same
      exact ⟨_, flowOf_entry checked (accessFlow_syn opens routable) found, rfl, rfl, rfl, rfl⟩
  | synAckSent found at_ =>
      exact ⟨_, by rw [State.flowOf, found, Option.map_some], rfl, rfl, rfl, rfl⟩
  | acked at_ =>
      rw [at_] at main
      exact ⟨_, main, addressed_reply _ _ _ _ _⟩
  | chunk found at_ => exact ⟨_, readerFlow found, addressed_reply _ _ _ _ _⟩
  | ending found at_ => exact ⟨_, readerFlow found, addressed_reply _ _ _ _ _⟩

private theorem recorded_own {s s' : State} {event : Event} {output : Output}
    (recorded : Recorded s event s' output) (checked : ownEntry s event = true)
    (wellFormed : WellFormed s) (main : MainOwn s.flowOf s.main)
    (kept : ∀ gen flow, s.flowOf gen = some flow → s'.flowOf gen = some flow) :
    output.Own s'.flowOf := by
  cases recorded with
  | stamped source =>
      obtain ⟨flow, opened, addressed⟩ := stamped_own source checked wellFormed main
      exact ⟨flow, kept _ flow opened, addressed⟩
  | unstamped => trivial
  | @closed seg written arrives closing =>
      subst arrives
      have access : accessFlow s (.packet seg written) = some seg.flow := by
        simp only [accessFlow_packet, closing, if_true]
      exact (namesOwn_of_ownEntry checked access).later kept
  | synRefused arrives unroutable =>
      intro routable
      rw [unroutable] at routable
      cases routable
  | synMatched arrives opens routable found =>
      subst arrives
      exact fun _ => (namesOwn_of_ownEntry checked (accessFlow_syn opens routable)).later kept
  | synFresh arrives opens routable =>
      subst arrives
      exact fun _ => (namesOwn_of_ownEntry checked (accessFlow_syn opens routable)).later kept
  | @spawned seg isn arrives at_ opened =>
      subst arrives
      have access : accessFlow s (.insertConnecting isn) = some seg.flow :=
        accessFlow_insertConnecting at_
      refine ⟨?_, (namesOwn_of_ownEntry checked access).later kept⟩
      rw [State.flowOf, opened, Option.map_some]
  | stored arrives data found =>
      subst arrives
      exact kept _ _ (flowOf_entry checked (accessFlow_data data) found)
  | queued at_ =>
      rw [at_] at main
      exact kept _ _ main
  | dropped at_ =>
      rw [at_] at main
      exact kept _ _ main
  | @installed gen task success arrives found at_ =>
      subst arrives
      have access : accessFlow s (.connect gen success) = some task.flow :=
        accessFlow_connect found (.inl at_)
      refine ⟨task.flow, kept _ _ ?_, (namesOwn_of_ownEntry checked access).later kept⟩
      rw [Task.gen, State.flowOf, found, Option.map_some]
  | @connectRemoved gen task success arrives found at_ =>
      subst arrives
      have access : accessFlow s (.connect gen success) = some task.flow :=
        accessFlow_connect found (.inr at_)
      refine ⟨task.flow, kept _ _ ?_, (namesOwn_of_ownEntry checked access).later kept⟩
      rw [Task.gen, State.flowOf, found, Option.map_some]
  | @readerRemoved gen task written arrives found at_ =>
      subst arrives
      have access : accessFlow s (.reader gen written) = some task.flow :=
        accessFlow_reader found at_
      obtain ⟨opener, opened, sameFlow, _⟩ := wellFormed.reader gen task found
      refine ⟨task.flow, kept _ _ ?_, (namesOwn_of_ownEntry checked access).later kept⟩
      rw [Task.gen, State.flowOf, opened, Option.map_some, sameFlow]

/-- A SYN that waits for its entry is served by the main loop's next step. -/
private theorem waiting_served {s s' : State} {event : Event} (shape : Shape s event s')
    {seg : Segment} (waiting : s.main = .insertConnecting seg) :
    s'.main = .insertConnecting seg ∨
      s'.trace = s.trace ++ [.spawned s.nextGen seg (s.entryGen seg.flow.sport)] := by
  cases shape with
  | @inserted other isn at_ =>
      have same : other = seg := MainPc.insertConnecting.inj (at_.symm.trans waiting)
      subst same
      exact Or.inr rfl
  | synAckSent => exact Or.inl (by simpa [setConnect] using waiting)
  | rstSent => exact Or.inl (by simpa [setConnect] using waiting)
  | chunkSent => exact Or.inl (by simpa [setReader] using waiting)
  | closingSent => exact Or.inl (by simpa [setReader] using waiting)
  | _ => first | exact Or.inl waiting | simp_all

private theorem served_step {s s' : State} {event : Event} (shape : Shape s event s')
    (checked : ownEntry s event = true) (wellFormed : WellFormed s) (before : SynsServed s) :
    SynsServed s' := by
  obtain ⟨outputs, trace, recorded⟩ := shape.records
  intro early seg entry after split routable foreign
  rw [trace] at split
  rcases append_eq_cons_cases split with ⟨rest, atTrace⟩ | ⟨middle, _, atOutputs⟩
  · have foreignBefore : ∀ gen, entry = some gen → s.flowOf gen ≠ some seg.flow := by
      intro gen found same
      exact foreign gen found (shape.flowOf_kept wellFormed gen _ same)
    have grows : after = rest ++ outputs := by
      rw [atTrace, List.append_assoc, List.cons_append, List.append_cancel_left_eq,
        List.cons.injEq] at split
      exact split.2.symm
    rcases before early seg entry rest atTrace routable foreignBefore with
      ⟨gen, replaced, opened⟩ | waiting
    · exact Or.inl ⟨gen, replaced, by rw [grows]; exact List.mem_append_left _ opened⟩
    · rcases waiting_served shape waiting with still | served
      · exact Or.inr still
      · refine Or.inl ⟨s.nextGen, s.entryGen seg.flow.sport, ?_⟩
        rw [trace, List.append_cancel_left_eq] at served
        rw [grows, served]
        exact List.mem_append_right _ (List.mem_singleton_self _)
  · have made := recorded (.syn seg entry) (by rw [atOutputs]; simp)
    cases made with
    | synRefused arrives unroutable =>
        rw [unroutable] at routable
        cases routable
    | synMatched arrives opens _ found =>
        subst arrives
        have same := flowOf_entry checked (accessFlow_syn opens routable) found
        have absent := foreign _ (by rw [State.entryGen, found, Option.map_some])
        exact absurd (shape.flowOf_kept wellFormed _ _ same) absent
    | synFresh arrives opens _ main => exact Or.inr main

/-- While every look at the table finds the flow's own entry or none, no flow uses the state of
another. -/
theorem flows_isolated (events : List Event) (s : State)
    (run : Run (Restrict (ofNext step) fun s event => ownEntry s event) State.init events s) :
    FlowsIsolated s := by
  have all : WellFormed s ∧ MainOwn s.flowOf s.main ∧ FlowsIsolated s := by
    refine run.invariant (fun s => WellFormed s ∧ MainOwn s.flowOf s.main ∧ FlowsIsolated s)
      ?_ ?_
    · intro source event target taken before
      obtain ⟨wellFormed, main, isolated⟩ := before
      have shape := step_shape taken.1
      have kept := shape.flowOf_kept wellFormed
      refine ⟨shape.wellFormed wellFormed, mainOwn_step shape taken.2 wellFormed main, ?_,
        served_step shape taken.2 wellFormed isolated.served⟩
      obtain ⟨outputs, trace, recorded⟩ := shape.records
      intro output member
      rw [trace, List.mem_append] at member
      rcases member with old | new
      · exact (isolated.own output old).later kept
      · exact recorded_own (recorded output new) taken.2 wellFormed main kept
    · refine ⟨wellFormed_init, trivial, ?_, ?_⟩
      · intro output member
        cases member
      · intro before seg entry after split
        simp [State.init] at split
  exact all.2.2

/-- The same app host and source port, towards a mail server. -/
def mailFlow : Flow :=
  { webFlow with dstIp := ⟨93, 184, 216, 35⟩, dport := 993 }

/-- Two apps on ports of their own, each with one byte for its server. -/
def separatePortsRun : List Event :=
  openEvents (.syn webFlow 1000) 0 77 ++
    openEvents (.syn { mailFlow with sport := 5001 } 2000) 1 88 ++
    dataEvents (.byte webFlow 1001 7) ++ dataEvents (.byte { mailFlow with sport := 5001 } 2001 9)

theorem flows_isolated_separate_ports :
    ∃ s, executeChecked step ownEntry State.init separatePortsRun = some s ∧
      queuedBytes 0 s.trace = [7] ∧ queuedBytes 1 s.trace = [9] ∧ FlowsIsolated s := by
  have checked : (executeChecked step ownEntry State.init separatePortsRun).map
      (fun s => (queuedBytes 0 s.trace, queuedBytes 1 s.trace)) = some ([7], [9]) := by
    rfl
  obtain ⟨s, executed, observed⟩ := Option.map_eq_some_iff.mp checked
  simp only [Prod.mk.injEq] at observed
  exact ⟨s, executed, observed.1, observed.2,
    flows_isolated _ s (run_of_executeChecked executed)⟩

def MainPc.isIdle : MainPc → Bool
  | .idle => true
  | _ => false

/-- The app's port carries a second SYN, to the mail server, and then a byte for it. -/
def sharedPortRun : List Event :=
  openEvents (.syn webFlow 1000) 0 77 ++ [.packet (.syn mailFlow 5000) true] ++
    dataEvents (.byte mailFlow 1001 7)

/-- A SYN to a second server on a port in use is answered with the first server's SYN-ACK and
never connected, and the second flow's byte goes to the first server. -/
theorem shared_port_mixes_flows :
    (¬∀ events s, Runs State.init events s → SynsServed s) ∧
      ¬∀ events s, Runs State.init events s → ∀ output ∈ s.trace, output.Own s.flowOf := by
  have checked : (execute step State.init sharedPortRun).map (fun s =>
        (s.trace.drop 4, s.flowOf 0, s.main.isIdle)) =
      some ([.syn (.syn mailFlow 5000) (some 0), .tun (some 0) (synAck mailFlow 77 1001),
        .stored 0 (.byte mailFlow 1001 7) 1001 1002, .queued 0 (.byte mailFlow 1001 7) [7],
        .tun (some 0) (reply mailFlow 78 1002 0x10 [])], some webFlow, true) := by
    rfl
  obtain ⟨s, executed, observed⟩ := Option.map_eq_some_iff.mp checked
  simp only [Prod.mk.injEq] at observed
  obtain ⟨history, opened, idle⟩ := observed
  have runs : Runs State.init sharedPortRun s := run_of_execute executed
  have split := (List.take_append_drop 4 s.trace).symm
  rw [history] at split
  constructor
  · intro claim
    have served := claim _ s runs _ _ _ _ split (by decide) (by
      intro gen entry same
      cases entry
      rw [opened] at same
      revert same
      decide)
    rcases served with ⟨gen, replaced, spawned⟩ | waiting
    · simp at spawned
    · rw [waiting] at idle
      cases idle
  · intro claim
    have own := claim _ s runs (.queued 0 (.byte mailFlow 1001 7) [7]) (by rw [split]; simp)
    change s.flowOf 0 = some mailFlow at own
    rw [opened] at own
    revert own
    decide

end MolidoVpn.Relay
