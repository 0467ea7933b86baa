import MolidoVpn.Netstack.Handles

/-!
One connection as a machine of its own: its entry and its socket while it lives,
and what the history says about it. Every step of the stack is hidden from a
connection or is a step of its machine, and a condition on the work of a pass
carries over from the runs of the stack to those of the machine.
-/

namespace MolidoVpn.Netstack

open Transition (Run Restrict ofNext)

/-- What a pass does with a connection. -/
inductive Work where
  | head (owner : Report → Bool)
  | receive
  | finish

structure Track (net : Smoltcp) where
  live : Option (Conn net × Stage)
  log : List Output

/-- The two ways in which a connection comes to be. -/
inductive Opening {net : Smoltcp} (id : Nat) : Conn net → Output → Prop where
  | connect {iface : Iface} {remote : SocketAddr} {port : UInt16} {socket : net.Tcp}
      (handle appQueue number : Nat)
      (made : net.connect iface net.newTcp remote port = some socket) :
      Opening id { st := TcpState.new handle appQueue true, socket := socket }
        (.connecting id remote port number)
  | listen {endpoint : SocketAddr} {socket : net.Tcp} (handle appQueue : Nat)
      (made : net.listen net.newTcp endpoint = some socket) :
      Opening id { st := TcpState.new handle appQueue false, socket := socket }
        (.listened id endpoint)

/-- The steps of one connection; the label says what work of a pass it was, if any. -/
inductive ConnStep {net : Smoltcp} (id : Nat) :
    Track net → Option Work → Track net → Prop where
  | opened {c : Conn net} {output : Output} (opening : Opening id c output) :
      ConnStep id ⟨none, []⟩ none ⟨some (c, .idle), [output]⟩
  | polled {c : Conn net} {log : List Output} (segments : net.Segments) :
      ConnStep id ⟨some (c, .idle), log⟩ none
        ⟨some ({ c with socket := net.pollTcp segments c.socket }, .idle),
          log ++ [.arrived id (NetStack.newBytes segments c.socket)]⟩
  | headRemoved {c : Conn net} {log outputs : List Output} {owner : Report → Bool}
      (result : c.head id owner = (none, outputs)) :
      ConnStep id ⟨some (c, .idle), log⟩ (some (.head owner)) ⟨none, log ++ outputs⟩
  | headKept {c c' : Conn net} {log outputs : List Output} {owner : Report → Bool}
      (result : c.head id owner = (some c', outputs)) :
      ConnStep id ⟨some (c, .idle), log⟩ (some (.head owner))
        ⟨some (c', .receiving 0), log ++ outputs⟩
  | delivered {c c' : Conn net} {log : List Output} {count : Nat} {bytes : List UInt8}
      (result : c.receive count = .chunk c' bytes) :
      ConnStep id ⟨some (c, .receiving count), log⟩ (some .receive)
        ⟨some (c', .receiving (count + 1)), log ++ [.delivered id bytes]⟩
  | stopped {c c' : Conn net} {log : List Output} {count : Nat} {appGone : Bool}
      (result : c.receive count = .stop c' appGone) :
      ConnStep id ⟨some (c, .receiving count), log⟩ (some .receive)
        ⟨some (c', .finishing appGone), log⟩
  | finishRemoved {c : Conn net} {log outputs : List Output} {appGone : Bool}
      (result : c.finish id appGone = (none, outputs)) :
      ConnStep id ⟨some (c, .finishing appGone), log⟩ (some .finish) ⟨none, log ++ outputs⟩
  | finishKept {c c' : Conn net} {log outputs : List Output} {appGone : Bool}
      (result : c.finish id appGone = (some c', outputs)) :
      ConnStep id ⟨some (c, .finishing appGone), log⟩ (some .finish)
        ⟨some (c', .idle), log ++ outputs⟩
  | accepted {c : Conn net} {log : List Output} (bytes : List UInt8) :
      ConnStep id ⟨some (c, .idle), log⟩ none
        ⟨some ({ c with st := { c.st with pending := c.st.pending ++ bytes } }, .idle),
          log ++ [.accepted id bytes (!c.st.halfClosed)]⟩
  | appClosed {c : Conn net} {log : List Output} :
      ConnStep id ⟨some (c, .idle), log⟩ none
        ⟨some ({ c with st := { c.st with halfClosed := true } }, .idle),
          log ++ [.appClosed id]⟩
  | appTook {c : Conn net} {stage : Stage} {log : List Output} {chunk : List UInt8}
      {toApp : Channel (List UInt8)} (took : c.st.toApp.receive = some (chunk, toApp)) :
      ConnStep id ⟨some (c, stage), log⟩ none
        ⟨some ({ c with st := { c.st with toApp := toApp } }, stage), log⟩
  | appDropped {c : Conn net} {stage : Stage} {log : List Output} :
      ConnStep id ⟨some (c, stage), log⟩ none
        ⟨some ({ c with st := { c.st with toApp := c.st.toApp.dropReceiver } }, stage),
          log ++ [.appDropped id]⟩

variable {net : Smoltcp}

/-- The records about one connection. -/
def own (id : Nat) (outputs : List Output) : List Output :=
  outputs.filter fun output => output.conn == some id

theorem own_append (id : Nat) (first second : List Output) :
    own id (first ++ second) = own id first ++ own id second :=
  List.filter_append first second

theorem own_about {id : Nat} {outputs : List Output} (about : About id outputs) :
    own id outputs = outputs := by
  apply List.filter_eq_self.mpr
  intro output member
  rw [about output member]
  exact beq_self_eq_true _

theorem own_other {id other : Nat} {outputs : List Output} (about : About other outputs)
    (different : id ≠ other) : own id outputs = [] := by
  apply List.filter_eq_nil_iff.mpr
  intro output member
  rw [about output member, beq_iff_eq, Option.some.injEq]
  exact different.symm

theorem own_none {id : Nat} {outputs : List Output}
    (silent : ∀ output ∈ outputs, output.conn = none) : own id outputs = [] := by
  apply List.filter_eq_nil_iff.mpr
  intro output member
  rw [silent output member]
  exact Bool.false_ne_true

/-- What records about one connection add up to, read off the records about it alone. -/
theorem flatMap_own {Item : Type} {id : Nat} {items : Output → List Item}
    (others : ∀ output, output.conn ≠ some id → items output = []) (outputs : List Output) :
    (own id outputs).flatMap items = outputs.flatMap items := by
  induction outputs with
  | nil => rfl
  | cons output rest ih =>
      by_cases about : output.conn = some id
      · have kept : own id (output :: rest) = output :: own id rest :=
          List.filter_cons_of_pos (beq_iff_eq.mpr about)
        rw [kept, List.flatMap_cons, List.flatMap_cons, ih]
      · have dropped : own id (output :: rest) = own id rest :=
          List.filter_cons_of_neg (mt beq_iff_eq.mp about)
        rw [dropped, ih, List.flatMap_cons, others output about, List.nil_append]

namespace NetStack

variable {s s' : NetStack net}

def track (s : NetStack net) (id : Nat) : Track net :=
  { live := (s.conn id).map fun c => (c, s.phase.stage id)
    log := own id s.trace }

theorem conn_congr {id : Nat} (entry : s'.tcpConns.lookup id = s.tcpConns.lookup id)
    (socket : ∀ st, s.tcpConns.lookup id = some st →
      s'.tcpSocket st.handle = s.tcpSocket st.handle) : s'.conn id = s.conn id := by
  unfold conn
  rw [entry]
  cases found : s.tcpConns.lookup id with
  | none => rfl
  | some st => rw [Option.bind_some, Option.bind_some, socket st found]

theorem track_congr {id : Nat} (conn : s'.conn id = s.conn id)
    (stage : s'.phase.stage id = s.phase.stage id) {outputs : List Output}
    (trace : s'.trace = s.trace ++ outputs) (silent : own id outputs = []) :
    s'.track id = s.track id := by
  simp only [track, conn, stage, trace, own_append, silent, List.append_nil]

end NetStack

namespace WellFormed

variable {s : NetStack net}

theorem handle_ne (wellFormed : WellFormed s) {id other : Nat} {st st' : TcpState}
    (found : s.tcpConns.lookup id = some st) (foundOther : s.tcpConns.lookup other = some st')
    (different : other ≠ id) : st'.handle ≠ st.handle := by
  intro same
  apply different
  refine wellFormed.owned.distinct other id .tcp .tcp st.handle ?_ (ownerOf_tcp found)
  rw [ownerOf_tcp foundOther, same]

theorem handle_ne_udp (wellFormed : WellFormed s) {id other : Nat} {st : UdpState}
    {st' : TcpState} (found : s.udpConns.lookup id = some st)
    (foundOther : s.tcpConns.lookup other = some st') : st'.handle ≠ st.handle := by
  intro same
  obtain ⟨socket, held⟩ := wellFormed.tcpSocket foundOther
  obtain ⟨udp, heldUdp⟩ := wellFormed.udpSocket found
  have slot := sockets_of_tcpSocket held
  rw [NetStack.udpSocket, ← same, slot] at heldUdp
  cases heldUdp

theorem handle_ne_unused (wellFormed : WellFormed s) {other handle : Nat} {st' : TcpState}
    (unused : s.sockets.lookup handle = none)
    (foundOther : s.tcpConns.lookup other = some st') : st'.handle ≠ handle := by
  rintro rfl
  obtain ⟨socket, held⟩ := wellFormed.tcpSocket foundOther
  rw [sockets_of_tcpSocket held] at unused
  cases unused

/-- The log of a connection that has not been opened yet is empty. -/
theorem own_next (wellFormed : WellFormed s) : own s.nextId s.trace = [] := by
  apply List.filter_eq_nil_iff.mpr
  intro output member about
  rw [beq_iff_eq] at about
  exact absurd (wellFormed.log output member s.nextId about) (lt_irrefl _)

theorem track_next (wellFormed : WellFormed s) : s.track s.nextId = ⟨none, []⟩ := by
  rw [NetStack.track, wellFormed.own_next, NetStack.conn, wellFormed.next_free.1]
  rfl

end WellFormed

section Effects

variable {s s' : NetStack net}

private theorem tcpSocket_insert_self {handle : Nat} {socket : net.Tcp}
    (sockets : s'.sockets = s.sockets.insert handle (.tcp socket)) :
    s'.tcpSocket handle = some socket := by
  simp only [NetStack.tcpSocket, sockets, AList.lookup_insert]

private theorem tcpSocket_insert_other {handle at_ : Nat} {slot : Slot net}
    (sockets : s'.sockets = s.sockets.insert handle slot) (different : at_ ≠ handle) :
    s'.tcpSocket at_ = s.tcpSocket at_ := by
  simp only [NetStack.tcpSocket, sockets, AList.lookup_insert_ne different]

private theorem tcpSocket_erase_other {handle at_ : Nat}
    (sockets : s'.sockets = s.sockets.erase handle) (different : at_ ≠ handle) :
    s'.tcpSocket at_ = s.tcpSocket at_ := by
  simp only [NetStack.tcpSocket, sockets, AList.lookup_erase_ne different]

private theorem track_of_conn {id : Nat} {c : Conn net} (conn : s.conn id = some c) :
    s.track id = ⟨some (c, s.phase.stage id), own id s.trace⟩ := by
  rw [NetStack.track, conn, Option.map_some]

/-- A connection whose entry and socket were stored. -/
private theorem track_stored {id : Nat} {c' : Conn net}
    (entry : s'.tcpConns = s.tcpConns.insert id c'.st)
    (socket : s'.tcpSocket c'.st.handle = some c'.socket)
    {outputs : List Output} (about : About id outputs) (trace : s'.trace = s.trace ++ outputs) :
    s'.track id = ⟨some (c', s'.phase.stage id), own id s.trace ++ outputs⟩ := by
  have conn : s'.conn id = some c' :=
    conn_eq_some.mpr ⟨by rw [entry, AList.lookup_insert], socket⟩
  rw [track_of_conn conn, trace, own_append, own_about about]

private theorem track_dropped {id : Nat} (entry : s'.tcpConns = s.tcpConns.erase id)
    {outputs : List Output} (about : About id outputs) (trace : s'.trace = s.trace ++ outputs) :
    s'.track id = ⟨none, own id s.trace ++ outputs⟩ := by
  rw [NetStack.track, NetStack.conn, entry, AList.lookup_erase, trace, own_append, own_about about]
  rfl

/-- A step that is about one connection is hidden from the others. -/
private theorem track_other {id other : Nat} (different : other ≠ id)
    (entry : s'.tcpConns.lookup other = s.tcpConns.lookup other)
    (socket : ∀ st, s.tcpConns.lookup other = some st →
      s'.tcpSocket st.handle = s.tcpSocket st.handle)
    (stage : s'.phase.stage other = s.phase.stage other) {outputs : List Output}
    (about : About id outputs) (trace : s'.trace = s.trace ++ outputs) :
    s'.track other = s.track other :=
  NetStack.track_congr (NetStack.conn_congr entry socket) stage trace (own_other about different)

/-- A served connection that stays, seen by the others. -/
private theorem track_other_put (wellFormed : WellFormed s) {id other : Nat} {c c' : Conn net}
    (different : other ≠ id) (found : s.conn id = some c) (handle : c'.st.handle = c.st.handle)
    (entry : s'.tcpConns = s.tcpConns.insert id c'.st)
    (sockets : s'.sockets = s.sockets.insert c'.st.handle (.tcp c'.socket))
    (stage : s'.phase.stage other = s.phase.stage other) {outputs : List Output}
    (about : About id outputs) (trace : s'.trace = s.trace ++ outputs) :
    s'.track other = s.track other := by
  refine track_other different (by rw [entry, AList.lookup_insert_ne different]) ?_ stage about trace
  intro st foundOther
  apply tcpSocket_insert_other sockets
  rw [handle]
  exact wellFormed.handle_ne (conn_eq_some.mp found).1 foundOther different

private theorem track_other_drop (wellFormed : WellFormed s) {id other : Nat} {c : Conn net}
    (different : other ≠ id) (found : s.conn id = some c)
    (entry : s'.tcpConns = s.tcpConns.erase id)
    (sockets : s'.sockets = s.sockets.erase c.st.handle)
    (stage : s'.phase.stage other = s.phase.stage other) {outputs : List Output}
    (about : About id outputs) (trace : s'.trace = s.trace ++ outputs) :
    s'.track other = s.track other := by
  refine track_other different (by rw [entry, AList.lookup_erase_ne different]) ?_ stage about trace
  intro st foundOther
  apply tcpSocket_erase_other sockets
  exact wellFormed.handle_ne (conn_eq_some.mp found).1 foundOther different

private theorem track_other_add (wellFormed : WellFormed s) {other handle : Nat}
    {slot : Slot net} {st : TcpState} (different : other ≠ s.nextId)
    (unused : s.sockets.lookup handle = none)
    (entry : s'.tcpConns = s.tcpConns.insert s.nextId st)
    (sockets : s'.sockets = s.sockets.insert handle slot)
    (stage : s'.phase.stage other = s.phase.stage other) {outputs : List Output}
    (silent : own other outputs = []) (trace : s'.trace = s.trace ++ outputs) :
    s'.track other = s.track other := by
  refine NetStack.track_congr (NetStack.conn_congr ?_ ?_) stage trace silent
  · rw [entry, AList.lookup_insert_ne different]
  · intro st foundOther
    exact tcpSocket_insert_other sockets (wellFormed.handle_ne_unused unused foundOther)

/-- An entry that changed while its socket did not. -/
private theorem track_other_entry {id other : Nat} {st : TcpState} (different : other ≠ id)
    (entry : s'.tcpConns = s.tcpConns.insert id st) (sockets : s'.tcpSocket = s.tcpSocket)
    (stage : s'.phase.stage other = s.phase.stage other) {outputs : List Output}
    (about : About id outputs) (trace : s'.trace = s.trace ++ outputs) :
    s'.track other = s.track other := by
  refine track_other different (by rw [entry, AList.lookup_insert_ne different]) ?_ stage about trace
  intro _ _
  rw [sockets]

private theorem tcpSocket_poll (input : NetStack.PollInput net) (emitted : List (List UInt8))
    (panicked : Bool) (ids : List Nat) (handle : Nat) :
    (s.poll input emitted panicked ids).tcpSocket handle =
      (s.tcpSocket handle).map (net.pollTcp (input.segments handle)) := by
  simp only [NetStack.tcpSocket, NetStack.poll, Table.lookup_mapValues]
  cases s.sockets.lookup handle with
  | none => rfl
  | some slot =>
      cases slot with
      | tcp socket => rfl
      | udp socket => rfl

private def arrivalOf (s : NetStack net) (input : NetStack.PollInput net) (key : Nat)
    (st : TcpState) : List Output :=
  match s.tcpSocket st.handle with
  | some socket => [.arrived key (NetStack.newBytes (input.segments st.handle) socket)]
  | none => []

/-- What a poll reports about one connection. -/
private theorem own_arrivals (wellFormed : WellFormed s) (input : NetStack.PollInput net)
    (id : Nat) :
    own id (s.arrivals input) =
      match s.conn id with
      | some c =>
          [.arrived id (NetStack.newBytes (input.segments c.st.handle) c.socket)]
      | none => [] := by
  have report := Table.filter_report (arrivalOf s input)
    (fun output => output.conn == some id) id
    (by
      intro st output member
      unfold arrivalOf at member
      split at member
      · rw [List.mem_singleton.mp member]
        exact beq_self_eq_true _
      · cases member)
    (by
      intro other st different output member
      unfold arrivalOf at member
      split at member
      · rw [List.mem_singleton.mp member]
        simp only [Output.conn, beq_eq_false_iff_ne, ne_eq, Option.some.injEq]
        exact different
      · cases member)
    s.tcpConns
  refine Eq.trans report ?_
  cases found : s.tcpConns.lookup id with
  | none => rw [NetStack.conn, found]; rfl
  | some st =>
      obtain ⟨socket, held⟩ := wellFormed.tcpSocket found
      have conn : s.conn id = some { st := st, socket := socket } :=
        conn_eq_some.mpr ⟨found, held⟩
      simp only [arrivalOf, conn, held]

end Effects

/-- The work of a pass that an event asks for, and the connection that it is about. -/
def NetStack.served (s : NetStack net) : Event net → Option (Nat × Work)
  | .serviceHead ownerWaits =>
      match s.phase with
      | .tcp (id :: _) => some (id, .head (s.owner ownerWaits))
      | _ => none
  | .receive =>
      match s.phase with
      | .receiving id _ _ => some (id, .receive)
      | _ => none
  | .finish =>
      match s.phase with
      | .finishing id _ _ => some (id, .finish)
      | _ => none
  | _ => none

/-- The stack's step is hidden from the connection or is a step of its machine. -/
def Matched (s : NetStack net) (event : Event net) (s' : NetStack net) (id : Nat) : Prop :=
  s'.track id = s.track id ∨
    ∃ work, ConnStep id (s.track id) work (s'.track id) ∧
      ∀ done, work = some done → s.served event = some (id, done)

namespace Shape

variable {s s' : NetStack net} {event : Event net}

private theorem stage_other {id other : Nat} (different : other ≠ id) (count : Nat)
    (rest : List Nat) : (Phase.receiving id count rest).stage other = .idle :=
  if_neg different.symm

private theorem stage_other_finishing {id other : Nat} (different : other ≠ id) (appGone : Bool)
    (rest : List Nat) : (Phase.finishing id appGone rest).stage other = .idle :=
  if_neg different.symm

private theorem polled_matched (before : WellFormed s) (input : NetStack.PollInput net)
    (emitted : List (List UInt8)) (panicked : Bool) (ids : List Nat) (at_ : s.phase = .poll)
    (event : Event net) (id : Nat) :
    Matched s event (s.poll input emitted panicked ids) id := by
  have log : own id (s.poll input emitted panicked ids).trace =
      own id s.trace ++ own id (s.arrivals input) := own_append _ _ _
  have stage : s.phase.stage id = .idle := by rw [at_]; rfl
  rw [own_arrivals before] at log
  cases found : s.conn id with
  | none =>
      left
      have gone : (s.poll input emitted panicked ids).conn id = none := by
        have missing : s.tcpConns.lookup id = none := by
          cases entry : s.tcpConns.lookup id with
          | none => rfl
          | some st =>
              obtain ⟨socket, conn⟩ := before.conn entry
              rw [found] at conn
              cases conn
        rw [NetStack.conn]
        exact Option.bind_eq_none_iff.mpr (fun st there => by
          rw [show (s.poll input emitted panicked ids).tcpConns = s.tcpConns from rfl, missing]
            at there
          cases there)
      rw [NetStack.track, NetStack.track, log, gone, found]
      simp only [List.append_nil, Option.map_none]
  | some c =>
      right
      obtain ⟨entry, held⟩ := conn_eq_some.mp found
      have conn : (s.poll input emitted panicked ids).conn id =
          some { c with socket := net.pollTcp (input.segments c.st.handle) c.socket } :=
        conn_eq_some.mpr ⟨entry, by rw [tcpSocket_poll, held, Option.map_some]⟩
      refine ⟨none, ?_, fun _ absent => by cases absent⟩
      rw [track_of_conn found, track_of_conn conn, log, found, stage]
      exact .polled (input.segments c.st.handle)

private theorem headRemoved_matched (before : WellFormed s) {id : Nat} {rest : List Nat}
    {ownerWaits : Bool} {c : Conn net} {outputs : List Output}
    (at_ : s.phase = .tcp (id :: rest)) (found : s.conn id = some c)
    (result : c.head id (s.owner ownerWaits) = (none, outputs)) (other : Nat) :
    Matched s (.serviceHead ownerWaits)
      { ({ s with acceptTx := s.acceptReported id c }.dropConn id c.st.handle).emit outputs with
        phase := .tcp rest } other := by
  have about := Conn.head_about result
  have stage (key : Nat) : s.phase.stage key = .idle := by rw [at_]; rfl
  by_cases here : other = id
  · subst here
    refine Or.inr ⟨some (.head (s.owner ownerWaits)), ?_, ?_⟩
    · rw [track_of_conn found, stage, track_dropped rfl about rfl]
      exact .headRemoved result
    · intro done same
      cases same
      rw [NetStack.served, at_]
  · exact Or.inl (track_other_drop before here found rfl rfl (stage other).symm about rfl)

private theorem headKept_matched (before : WellFormed s) {id : Nat} {rest : List Nat}
    {ownerWaits : Bool} {c c' : Conn net} {outputs : List Output}
    (at_ : s.phase = .tcp (id :: rest)) (found : s.conn id = some c)
    (result : c.head id (s.owner ownerWaits) = (some c', outputs)) (other : Nat) :
    Matched s (.serviceHead ownerWaits)
      { ({ s with acceptTx := s.acceptReported id c }.putConn id c').emit outputs with
        phase := .receiving id 0 rest } other := by
  have about := Conn.head_about result
  have stage (key : Nat) : s.phase.stage key = .idle := by rw [at_]; rfl
  by_cases here : other = id
  · subst here
    refine Or.inr ⟨some (.head (s.owner ownerWaits)), ?_, ?_⟩
    · rw [track_of_conn found, stage, track_stored rfl (tcpSocket_insert_self rfl) about rfl,
        Phase.stage, if_pos rfl]
      exact .headKept result
    · intro done same
      cases same
      rw [NetStack.served, at_]
  · refine Or.inl (track_other_put before here found (Conn.head_handle result) rfl rfl ?_ about rfl)
    rw [stage other]
    exact stage_other here 0 rest

private theorem delivered_matched (before : WellFormed s) {id count : Nat} {rest : List Nat}
    {c c' : Conn net} {bytes : List UInt8} (at_ : s.phase = .receiving id count rest)
    (found : s.conn id = some c) (result : c.receive count = .chunk c' bytes) (other : Nat) :
    Matched s .receive
      { (s.putConn id c').emit [.delivered id bytes] with
        phase := .receiving id (count + 1) rest } other := by
  have about : About id [.delivered id bytes] := about_singleton rfl
  by_cases here : other = id
  · subst here
    refine Or.inr ⟨some .receive, ?_, ?_⟩
    · rw [track_of_conn found, at_, track_stored rfl (tcpSocket_insert_self rfl) about rfl,
        Phase.stage, if_pos rfl, Phase.stage, if_pos rfl]
      exact .delivered result
    · intro done same
      cases same
      rw [NetStack.served, at_]
  · refine Or.inl (track_other_put before here found
      ((c.receive_handle count).1 c' bytes result) rfl rfl ?_ about rfl)
    rw [at_]
    exact (stage_other here _ rest).trans (stage_other here _ rest).symm

private theorem stopped_matched (before : WellFormed s) {id count : Nat} {rest : List Nat}
    {c c' : Conn net} {appGone : Bool} (at_ : s.phase = .receiving id count rest)
    (found : s.conn id = some c) (result : c.receive count = .stop c' appGone) (other : Nat) :
    Matched s .receive { s.putConn id c' with phase := .finishing id appGone rest } other := by
  have trace : s.trace = s.trace ++ [] := (List.append_nil _).symm
  by_cases here : other = id
  · subst here
    refine Or.inr ⟨some .receive, ?_, ?_⟩
    · have stored :
          ({ s.putConn other c' with phase := .finishing other appGone rest } :
              NetStack net).track other =
            ⟨some (c', Phase.stage other (.finishing other appGone rest)), own other s.trace⟩ :=
        track_of_conn (conn_eq_some.mpr ⟨AList.lookup_insert _, tcpSocket_insert_self rfl⟩)
      rw [track_of_conn found, at_, stored, Phase.stage, if_pos rfl, Phase.stage, if_pos rfl]
      exact .stopped result
    · intro done same
      cases same
      rw [NetStack.served, at_]
  · refine Or.inl (track_other_put before here found
      ((c.receive_handle count).2 c' appGone result) rfl rfl ?_ (about_nil id) trace)
    rw [at_, stage_other here]
    exact stage_other_finishing here appGone rest

private theorem finishRemoved_matched (before : WellFormed s) {id : Nat} {appGone : Bool}
    {rest : List Nat} {c : Conn net} {outputs : List Output}
    (at_ : s.phase = .finishing id appGone rest) (found : s.conn id = some c)
    (result : c.finish id appGone = (none, outputs)) (other : Nat) :
    Matched s .finish
      { (s.dropConn id c.st.handle).emit outputs with phase := .tcp rest } other := by
  have about := Conn.finish_about result
  by_cases here : other = id
  · subst here
    refine Or.inr ⟨some .finish, ?_, ?_⟩
    · rw [track_of_conn found, at_, track_dropped rfl about rfl, Phase.stage, if_pos rfl]
      exact .finishRemoved result
    · intro done same
      cases same
      rw [NetStack.served, at_]
  · refine Or.inl (track_other_drop before here found rfl rfl ?_ about rfl)
    rw [at_, stage_other_finishing here]
    rfl

private theorem finishKept_matched (before : WellFormed s) {id : Nat} {appGone : Bool}
    {rest : List Nat} {c c' : Conn net} {outputs : List Output}
    (at_ : s.phase = .finishing id appGone rest) (found : s.conn id = some c)
    (result : c.finish id appGone = (some c', outputs)) (other : Nat) :
    Matched s .finish { (s.putConn id c').emit outputs with phase := .tcp rest } other := by
  have about := Conn.finish_about result
  by_cases here : other = id
  · subst here
    refine Or.inr ⟨some .finish, ?_, ?_⟩
    · rw [track_of_conn found, at_, track_stored rfl (tcpSocket_insert_self rfl) about rfl,
        Phase.stage, if_pos rfl]
      exact .finishKept result
    · intro done same
      cases same
      rw [NetStack.served, at_]
  · refine Or.inl (track_other_put before here found (Conn.finish_handle result) rfl rfl ?_ about
      rfl)
    rw [at_, stage_other_finishing here]
    rfl

/-- A connection that is opened; `outputs` may hold records about none. -/
private theorem opened_matched (before : WellFormed s) {c : Conn net} {output : Output}
    (opening : Opening s.nextId c output) (unused : s.sockets.lookup c.st.handle = none)
    (entry : s'.tcpConns = s.tcpConns.insert s.nextId c.st)
    (sockets : s'.sockets = s.sockets.insert c.st.handle (.tcp c.socket))
    (stage : ∀ id, s.phase.stage id = .idle) (stage' : ∀ id, s'.phase.stage id = .idle)
    {outputs : List Output} (trace : s'.trace = s.trace ++ outputs)
    (first : own s.nextId outputs = [output])
    (silent : ∀ other, other ≠ s.nextId → own other outputs = []) (event : Event net)
    (other : Nat) : Matched s event s' other := by
  by_cases here : other = s.nextId
  · subst here
    refine Or.inr ⟨none, ?_, fun _ absent => by cases absent⟩
    have conn : s'.conn s.nextId = some c :=
      conn_eq_some.mpr ⟨by rw [entry, AList.lookup_insert], tcpSocket_insert_self sockets⟩
    rw [before.track_next, track_of_conn conn, stage', trace, own_append, before.own_next, first]
    exact .opened opening
  · refine Or.inl (track_other_add before here unused entry sockets ?_ (silent other here) trace)
    rw [stage, stage']

/-- An event that changes the entry of one connection outside the passes. -/
private theorem entry_matched {id : Nat} {c : Conn net} (st : TcpState)
    {outputs : List Output} (found : s.conn id = some c) (handle : st.handle = c.st.handle)
    (entry : s'.tcpConns = s.tcpConns.insert id st) (sockets : s'.tcpSocket = s.tcpSocket)
    (stage : ∀ other, s'.phase.stage other = s.phase.stage other)
    (about : About id outputs) (trace : s'.trace = s.trace ++ outputs)
    (steps : ∀ log, ConnStep id ⟨some (c, s.phase.stage id), log⟩ none
      ⟨some ({ c with st := st }, s.phase.stage id), log ++ outputs⟩)
    (event : Event net) (other : Nat) : Matched s event s' other := by
  by_cases here : other = id
  · subst here
    refine Or.inr ⟨none, ?_, fun _ absent => by cases absent⟩
    have held : s'.tcpSocket st.handle = some c.socket := by
      rw [sockets, handle]
      exact (conn_eq_some.mp found).2
    have stored : s'.track other =
        ⟨some ({ c with st := st }, s'.phase.stage other), own other s.trace ++ outputs⟩ :=
      track_stored entry held about trace
    rw [stored, stage, track_of_conn found]
    exact steps _
  · exact Or.inl (track_other_entry here entry sockets (stage other) about trace)

/-- The stack refines its connections: each step is hidden from a connection or is its own. -/
theorem matched (shape : Shape s event s') (before : WellFormed s) (id : Nat) :
    Matched s event s' id := by
  cases shape with
  | polled at_ order => exact polled_matched before _ _ _ _ at_ _ id
  | skipped at_ missing =>
      refine Or.inl (NetStack.track_congr rfl ?_ (List.append_nil _).symm rfl)
      rw [at_]
      rfl
  | headRemoved at_ found result => exact headRemoved_matched before at_ found result id
  | headKept at_ found result => exact headKept_matched before at_ found result id
  | delivered at_ found result => exact delivered_matched before at_ found result id
  | stoppedReceiving at_ found result => exact stopped_matched before at_ found result id
  | finishRemoved at_ found result => exact finishRemoved_matched before at_ found result id
  | finishKept at_ found result => exact finishKept_matched before at_ found result id
  | listened at_ unused accepting syn parsed made =>
      rename_i pkt handle socket dst src
      refine opened_matched before (Opening.listen handle s.appQueue made) unused rfl rfl
        (fun _ => by rw [at_]; rfl) (fun _ => rfl) (List.append_assoc _ _ _) ?_ ?_ _ id
      · rw [own_append, own_about (about_singleton rfl), own_none, List.append_nil]
        intro output member
        rw [List.mem_singleton.mp member]
        rfl
      · intro other different
        rw [own_append, own_other (about_singleton rfl) different, own_none, List.append_nil]
        intro output member
        rw [List.mem_singleton.mp member]
        rfl
  | inbound at_ plain =>
      refine Or.inl (NetStack.track_congr rfl (by rw [at_]; rfl) rfl (own_none ?_))
      intro output member
      rw [List.mem_singleton.mp member]
      rfl
  | drained at_ room =>
      refine Or.inl (NetStack.track_congr rfl (by rw [at_]; rfl) rfl (own_none ?_))
      intro output member
      rw [List.mem_singleton.mp member]
      rfl
  | connecting at_ unused made =>
      rename_i dst handle socket
      exact opened_matched before (Opening.connect handle s.appQueue s.opens made) unused rfl rfl
        (fun _ => by rw [at_]; rfl) (fun _ => rfl) rfl (own_about (about_singleton rfl))
        (fun other different => own_other (about_singleton rfl) different) _ id
  | openFailed at_ opening =>
      refine Or.inl (NetStack.track_congr rfl (by rw [at_]; rfl) rfl (own_none ?_))
      intro output member
      rw [List.mem_singleton.mp member]
      rfl
  | bound at_ unused made =>
      rename_i handle socket
      refine Or.inl (NetStack.track_congr (NetStack.conn_congr rfl ?_) (by rw [at_]; rfl) rfl
        (own_none ?_))
      · intro st found
        exact tcpSocket_insert_other rfl (before.handle_ne_unused unused found)
      · intro output member
        rw [List.mem_singleton.mp member]
        rfl
  | accepted arrives found at_ =>
      rename_i key bytes st
      obtain ⟨socket, conn⟩ := before.conn found
      have idle (other : Nat) : s.phase.stage other = .idle := by
        rcases at_ with at_ | at_ <;> rw [at_] <;> rfl
      apply entry_matched { st with pending := st.pending ++ bytes } conn
      · rfl
      · rfl
      · rfl
      · exact fun other => (idle other).symm
      · exact (about_singleton rfl : About key [.accepted key bytes (!st.halfClosed)])
      · rfl
      · intro log
        rw [idle]
        exact .accepted bytes
  | appClosed arrives found at_ =>
      rename_i key st
      obtain ⟨socket, conn⟩ := before.conn found
      have idle (other : Nat) : s.phase.stage other = .idle := by
        rcases at_ with at_ | at_ <;> rw [at_] <;> rfl
      apply entry_matched { st with halfClosed := true } conn
      · rfl
      · rfl
      · rfl
      · exact fun other => (idle other).symm
      · exact (about_singleton rfl : About key [.appClosed key])
      · rfl
      · intro log
        rw [idle]
        exact .appClosed
  | appTook found handedOver took =>
      rename_i key st chunk toApp
      obtain ⟨socket, conn⟩ := before.conn found
      apply entry_matched { st with toApp := toApp } conn
      · rfl
      · rfl
      · rfl
      · exact fun _ => rfl
      · exact about_nil key
      · exact (List.append_nil _).symm
      · intro log
        rw [List.append_nil]
        exact .appTook took
  | appDropped found handedOver alive =>
      rename_i key st
      obtain ⟨socket, conn⟩ := before.conn found
      apply entry_matched { st with toApp := st.toApp.dropReceiver } conn
      · rfl
      · rfl
      · rfl
      · exact fun _ => rfl
      · exact (about_singleton rfl : About key [.appDropped key])
      · rfl
      · exact fun _ => .appDropped
  | aside aside =>
      refine Or.inl (NetStack.track_congr (NetStack.conn_congr (by rw [aside.tcpConns]) ?_)
        (aside.stage id) (by rw [aside.trace, List.append_nil]) rfl)
      intro _ _
      rw [aside.tcpSocket]
  | udpClosed found at_ =>
      refine Or.inl (NetStack.track_congr (NetStack.conn_congr rfl ?_) ?_
        (List.append_nil _).symm rfl)
      · intro st foundTcp
        exact tcpSocket_erase_other rfl (before.handle_ne_udp found foundTcp)
      · rcases at_ with at_ | at_
        · rw [at_]
          rfl
        · rw [at_]

end Shape

/-- A condition on the work that passes do, with the connection that is served. -/
def OnServed (condition : Nat → Track net → Work → Prop) (s : NetStack net) (event : Event net) :
    Prop :=
  ∀ id work, s.served event = some (id, work) → condition id (s.track id) work

instance (condition : Nat → Track net → Work → Prop)
    [∀ id track work, Decidable (condition id track work)] (s : NetStack net)
    (event : Event net) : Decidable (OnServed condition s event) :=
  match found : s.served event with
  | none => isTrue (fun id work some_ => by rw [found] at some_; cases some_)
  | some (id, work) =>
      decidable_of_iff (condition id (s.track id) work)
        ⟨fun met other done same => by rw [found] at same; cases same; exact met,
          fun met => met id work found⟩

/-- The same condition on the steps of one connection. -/
def OnWork (condition : Nat → Track net → Work → Prop) (id : Nat) (track : Track net)
    (work : Option Work) : Prop :=
  ∀ done, work = some done → condition id track done

/-- A condition on the entry and the socket of a connection that lives. -/
def Track.Holding (track : Track net) (condition : Conn net → Stage → Prop) : Prop :=
  ∀ c stage, track.live = some (c, stage) → condition c stage

instance (track : Track net) (condition : Conn net → Stage → Prop)
    [∀ c stage, Decidable (condition c stage)] : Decidable (track.Holding condition) :=
  match found : track.live with
  | none => isTrue (fun c stage some_ => by rw [found] at some_; cases some_)
  | some (c, stage) =>
      decidable_of_iff (condition c stage)
        ⟨fun met other at_ same => by rw [found] at same; cases same; exact met,
          fun met => met c stage found⟩

/-- Every run of the stack, seen by one connection, is a run of the connection's machine. -/
theorem track_run {condition : Nat → Track net → Work → Prop} {appQueue : Nat}
    {v4 : Option (Ipv4Addr × UInt8)} {v6 : Option (Ipv6Addr × UInt8)} {events : List (Event net)}
    {s : NetStack net}
    (run : Run (Restrict (ofNext step) (OnServed condition)) (NetStack.spawn net appQueue v4 v6)
      events s) (id : Nat) :
    ∃ works, Run (Restrict (ConnStep id) (OnWork condition id)) ⟨none, []⟩ works (s.track id) := by
  refine run.projects (fun s => s.track id) WellFormed
    (fun _ _ _ taken => wellFormed_step taken.1) ?_ (wellFormed_spawn net appQueue v4 v6)
  intro source event target taken wellFormed
  rcases (step_shape wellFormed taken.1).matched wellFormed id with hidden | ⟨work, own, serves⟩
  · exact Or.inl hidden
  · exact Or.inr ⟨work, own, fun done same => taken.2 id done (serves done same)⟩

end MolidoVpn.Netstack
