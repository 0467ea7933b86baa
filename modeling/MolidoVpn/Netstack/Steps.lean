import MolidoVpn.Lib.Ownership
import MolidoVpn.Netstack.Stack

/-!
What one event can do to a stack whose entries all have their sockets, said
once. Later modules prove what they need by cases on `Shape`.
-/

namespace MolidoVpn.Netstack

open Ownership (Owned)

inductive Kind where
  | tcp
  | udp
  deriving DecidableEq

def Slot.kind {net : Smoltcp} : Slot net → Kind
  | .tcp _ => .tcp
  | .udp _ => .udp

namespace NetStack

variable {net : Smoltcp}

def slotKind (s : NetStack net) (handle : Nat) : Option Kind :=
  (s.sockets.lookup handle).map Slot.kind

/-- The handle that an entry of either map holds. -/
def ownerOf (s : NetStack net) (id : Nat) : Option (Kind × Nat) :=
  match s.tcpConns.lookup id with
  | some st => some (.tcp, st.handle)
  | none => (s.udpConns.lookup id).map fun st => (.udp, st.handle)

/-- The entry that the loop is working on is there. -/
def PassOk (s : NetStack net) : Phase → Prop
  | .receiving id _ _ => ∃ st, s.tcpConns.lookup id = some st
  | .finishing id _ _ => ∃ st, s.tcpConns.lookup id = some st
  | .udpReceiving id _ _ => ∃ st, s.udpConns.lookup id = some st
  | .panicked => False
  | _ => True

end NetStack

/-- The socket set and the two maps fit together, and every id in use lies below `nextId`. -/
structure WellFormed {net : Smoltcp} (s : NetStack net) : Prop where
  owned : Owned s.slotKind s.ownerOf
  exclusive : ∀ id st, s.tcpConns.lookup id = some st → s.udpConns.lookup id = none
  fresh : ∀ id, s.nextId ≤ id → s.ownerOf id = none
  log : ∀ output ∈ s.trace, ∀ id, output.conn = some id → id < s.nextId
  inPass : s.PassOk s.phase

namespace WellFormed

variable {net : Smoltcp} {s : NetStack net}

theorem tcpSocket (wellFormed : WellFormed s) {id : Nat} {st : TcpState}
    (found : s.tcpConns.lookup id = some st) : ∃ socket, s.tcpSocket st.handle = some socket := by
  have owns : s.ownerOf id = some (.tcp, st.handle) := by
    rw [NetStack.ownerOf, found]
  have kind := wellFormed.owned.held id .tcp st.handle owns
  obtain ⟨slot, held, isTcp⟩ := Option.map_eq_some_iff.mp kind
  cases slot with
  | tcp socket => exact ⟨socket, by rw [NetStack.tcpSocket, held]⟩
  | udp socket => cases isTcp

theorem udpSocket (wellFormed : WellFormed s) {id : Nat} {st : UdpState}
    (found : s.udpConns.lookup id = some st) : ∃ socket, s.udpSocket st.handle = some socket := by
  have noTcp : s.tcpConns.lookup id = none := by
    cases present : s.tcpConns.lookup id with
    | none => rfl
    | some st =>
        rw [wellFormed.exclusive id st present] at found
        cases found
  have owns : s.ownerOf id = some (.udp, st.handle) := by
    rw [NetStack.ownerOf, noTcp, found]
    rfl
  have kind := wellFormed.owned.held id .udp st.handle owns
  obtain ⟨slot, held, isUdp⟩ := Option.map_eq_some_iff.mp kind
  cases slot with
  | tcp socket => cases isUdp
  | udp socket => exact ⟨socket, by rw [NetStack.udpSocket, held]⟩

theorem conn (wellFormed : WellFormed s) {id : Nat} {st : TcpState}
    (found : s.tcpConns.lookup id = some st) :
    ∃ socket, s.conn id = some { st := st, socket := socket } := by
  obtain ⟨socket, held⟩ := wellFormed.tcpSocket found
  exact ⟨socket, by rw [NetStack.conn, found, Option.bind_some, held, Option.map_some]⟩

end WellFormed

variable {net : Smoltcp}

theorem conn_eq_some {s : NetStack net} {id : Nat} {c : Conn net} :
    s.conn id = some c ↔
      s.tcpConns.lookup id = some c.st ∧ s.tcpSocket c.st.handle = some c.socket := by
  obtain ⟨st, socket⟩ := c
  rw [NetStack.conn, Option.bind_eq_some_iff]
  constructor
  · rintro ⟨st', found, mapped⟩
    obtain ⟨socket', held, same⟩ := Option.map_eq_some_iff.mp mapped
    simp only [Conn.mk.injEq] at same
    obtain ⟨rfl, rfl⟩ := same
    exact ⟨found, held⟩
  · rintro ⟨found, held⟩
    exact ⟨st, found, by rw [held, Option.map_some]⟩

/-- The step changed neither a TCP connection nor the history, a handle, a port or an id. -/
structure Aside (s s' : NetStack net) : Prop where
  tcpConns : s'.tcpConns = s.tcpConns
  tcpSocket : s'.tcpSocket = s.tcpSocket
  trace : s'.trace = s.trace
  stage : ∀ id, s'.phase.stage id = s.phase.stage id
  slotKind : s'.slotKind = s.slotKind
  udpHandle : ∀ id, (s'.udpConns.lookup id).map UdpState.handle =
    (s.udpConns.lookup id).map UdpState.handle
  nextId : s'.nextId = s.nextId
  nextPort : s'.nextPort = s.nextPort
  opens : s'.opens = s.opens
  inPass : s.PassOk s.phase → s'.PassOk s'.phase

inductive Shape (s : NetStack net) : Event net → NetStack net → Prop where
  | polled {input : NetStack.PollInput net} {emitted : List (List UInt8)} {panicked : Bool}
      {ids : List Nat} (at_ : s.phase = .poll) (order : ids.Perm s.tcpConns.keys) :
      Shape s (.poll input emitted panicked ids) (s.poll input emitted panicked ids)
  | skipped {id : Nat} {rest : List Nat} {ownerWaits : Bool} (at_ : s.phase = .tcp (id :: rest))
      (missing : s.tcpConns.lookup id = none) :
      Shape s (.serviceHead ownerWaits) { s with phase := .tcp rest }
  | headRemoved {id : Nat} {rest : List Nat} {ownerWaits : Bool} {c : Conn net}
      {outputs : List Output} (at_ : s.phase = .tcp (id :: rest)) (found : s.conn id = some c)
      (result : c.head id (s.owner ownerWaits) = (none, outputs)) :
      Shape s (.serviceHead ownerWaits)
        { ({ s with acceptTx := s.acceptReported id c }.dropConn id c.st.handle).emit outputs with
          phase := .tcp rest }
  | headKept {id : Nat} {rest : List Nat} {ownerWaits : Bool} {c c' : Conn net}
      {outputs : List Output} (at_ : s.phase = .tcp (id :: rest)) (found : s.conn id = some c)
      (result : c.head id (s.owner ownerWaits) = (some c', outputs)) :
      Shape s (.serviceHead ownerWaits)
        { ({ s with acceptTx := s.acceptReported id c }.putConn id c').emit outputs with
          phase := .receiving id 0 rest }
  | delivered {id count : Nat} {rest : List Nat} {c c' : Conn net} {bytes : List UInt8}
      (at_ : s.phase = .receiving id count rest) (found : s.conn id = some c)
      (result : c.receive count = .chunk c' bytes) :
      Shape s .receive
        { (s.putConn id c').emit [.delivered id bytes] with
          phase := .receiving id (count + 1) rest }
  | stoppedReceiving {id count : Nat} {rest : List Nat} {c c' : Conn net} {appGone : Bool}
      (at_ : s.phase = .receiving id count rest) (found : s.conn id = some c)
      (result : c.receive count = .stop c' appGone) :
      Shape s .receive { s.putConn id c' with phase := .finishing id appGone rest }
  | finishRemoved {id : Nat} {appGone : Bool} {rest : List Nat} {c : Conn net}
      {outputs : List Output} (at_ : s.phase = .finishing id appGone rest)
      (found : s.conn id = some c) (result : c.finish id appGone = (none, outputs)) :
      Shape s .finish
        { (s.dropConn id c.st.handle).emit outputs with phase := .tcp rest }
  | finishKept {id : Nat} {appGone : Bool} {rest : List Nat} {c c' : Conn net}
      {outputs : List Output} (at_ : s.phase = .finishing id appGone rest)
      (found : s.conn id = some c) (result : c.finish id appGone = (some c', outputs)) :
      Shape s .finish { (s.putConn id c').emit outputs with phase := .tcp rest }
  | listened {pkt : List UInt8} {handle : Nat} {socket : net.Tcp} {dst src : SocketAddr}
      (at_ : s.phase = .select) (unused : s.sockets.lookup handle = none)
      (accepting : s.acceptTx.isSome = true) (syn : isTcpSyn pkt = true)
      (parsed : parseTcpSyn pkt = some (dst, src))
      (made : net.listen net.newTcp dst = some socket) :
      Shape s (.inbound pkt handle)
        { (s.addTcp handle socket false (fun id => .listened id dst)).ingest pkt with
          phase := .ingesting 0 }
  | inbound {pkt : List UInt8} {handle : Nat} (at_ : s.phase = .select)
      (plain : s.acceptTx.isSome = true → isTcpSyn pkt = true →
        ∀ dst src, parseTcpSyn pkt = some (dst, src) → net.listen net.newTcp dst = none) :
      Shape s (.inbound pkt handle) { s.ingest pkt with phase := .ingesting 0 }
  | drained {pkt : List UInt8} {count : Nat} (at_ : s.phase = .ingesting count)
      (room : count < maxIngestPerTick) :
      Shape s (.drained pkt) { s.ingest pkt with phase := .ingesting (count + 1) }
  | connecting {dst : SocketAddr} {handle : Nat} {socket : net.Tcp} (at_ : s.phase = .select)
      (unused : s.sockets.lookup handle = none)
      (made : net.connect s.iface net.newTcp dst (allocPort s.nextPort).1 = some socket) :
      Shape s (.cmd (.openTcp dst) handle)
        { ({ s with nextPort := (allocPort s.nextPort).2, opens := s.opens + 1 }.addTcp handle
            socket true (fun id => .connecting id dst (allocPort s.nextPort).1 s.opens)) with
          phase := .poll }
  | openFailed {cmd : Cmd} {handle : Nat} (at_ : s.phase = .select)
      (opening : cmd = .openUdp ∨ ∃ dst, cmd = .openTcp dst) :
      Shape s (.cmd cmd handle)
        { { s with nextPort := (allocPort s.nextPort).2, opens := s.opens + 1 }.emit
            [.openFailed s.opens] with
          phase := .poll }
  | bound {handle : Nat} {socket : net.Udp} (at_ : s.phase = .select)
      (unused : s.sockets.lookup handle = none)
      (made : net.bind net.newUdp (allocPort s.nextPort).1 = some socket) :
      Shape s (.cmd .openUdp handle)
        { { s with nextPort := (allocPort s.nextPort).2, opens := s.opens + 1 }.emit
            [.bound s.nextId (allocPort s.nextPort).1 s.opens] with
          sockets := s.sockets.insert handle (.udp socket)
          udpConns := s.udpConns.insert s.nextId
            { handle := handle, toApp := Channel.empty _ s.appQueue }
          nextId := s.nextId + 1
          phase := .poll }
  | accepted {id : Nat} {bytes : List UInt8} {event : Event net} {st : TcpState}
      (arrives : event = .data (.tcp id bytes) ∨ event = .moreData (.tcp id bytes))
      (found : s.tcpConns.lookup id = some st)
      (at_ : s.phase = .select ∨ s.phase = .draining) :
      Shape s event
        { s.emit [.accepted id bytes (!st.halfClosed)] with
          tcpConns := s.tcpConns.insert id { st with pending := st.pending ++ bytes }
          phase := .draining }
  | appClosed {id : Nat} {event : Event net} {st : TcpState}
      (arrives : event = .data (.tcpClose id) ∨ event = .moreData (.tcpClose id))
      (found : s.tcpConns.lookup id = some st)
      (at_ : s.phase = .select ∨ s.phase = .draining) :
      Shape s event
        { s.emit [.appClosed id] with
          tcpConns := s.tcpConns.insert id { st with halfClosed := true }
          phase := .draining }
  | appTook {id : Nat} {st : TcpState} {chunk : List UInt8} {toApp : Channel (List UInt8)}
      (found : s.tcpConns.lookup id = some st) (handedOver : st.fromStackRx = false)
      (took : st.toApp.receive = some (chunk, toApp)) :
      Shape s (.app id false)
        { s with tcpConns := s.tcpConns.insert id { st with toApp := toApp } }
  | appDropped {id : Nat} {st : TcpState} (found : s.tcpConns.lookup id = some st)
      (handedOver : st.fromStackRx = false) (alive : st.toApp.receiverAlive = true) :
      Shape s (.app id true)
        { s.emit [.appDropped id] with
          tcpConns := s.tcpConns.insert id { st with toApp := st.toApp.dropReceiver } }
  | aside {event : Event net} {s' : NetStack net} (aside : Aside s s') : Shape s event s'
  | udpClosed {id : Nat} {event : Event net} {st : UdpState}
      (found : s.udpConns.lookup id = some st)
      (at_ : s.phase = .select ∨ s.phase = .draining) :
      Shape s event
        { s with
          udpConns := s.udpConns.erase id
          sockets := s.sockets.erase st.handle
          phase := .draining }

private theorem serviceHead_shape {s : NetStack net} (wellFormed : WellFormed s) {id : Nat}
    {rest : List Nat} (at_ : s.phase = .tcp (id :: rest)) (ownerWaits : Bool) :
    Shape s (.serviceHead ownerWaits) (s.serviceHead id rest ownerWaits) := by
  unfold NetStack.serviceHead
  cases entry : s.tcpConns.lookup id with
  | none => exact .skipped at_ entry
  | some st =>
      obtain ⟨socket, held⟩ := wellFormed.tcpSocket entry
      have found : s.conn id = some { st := st, socket := socket } :=
        conn_eq_some.mpr ⟨entry, held⟩
      simp only [held]
      cases result : Conn.head { st := st, socket := socket } id (s.owner ownerWaits) with
      | mk kept outputs =>
          cases kept with
          | none => exact .headRemoved at_ found result
          | some c' => exact .headKept at_ found result

private theorem receive_shape {s : NetStack net} (wellFormed : WellFormed s) {id count : Nat}
    {rest : List Nat} (at_ : s.phase = .receiving id count rest) :
    Shape s .receive (s.receive id count rest) := by
  have inPass := wellFormed.inPass
  rw [at_] at inPass
  obtain ⟨st, entry⟩ := inPass
  obtain ⟨socket, found⟩ := wellFormed.conn entry
  unfold NetStack.receive
  simp only [found]
  cases result : Conn.receive { st := st, socket := socket } count with
  | chunk c' bytes => exact .delivered at_ found result
  | stop c' appGone => exact .stoppedReceiving at_ found result

private theorem finish_shape {s : NetStack net} (wellFormed : WellFormed s) {id : Nat}
    {appGone : Bool} {rest : List Nat} (at_ : s.phase = .finishing id appGone rest) :
    Shape s .finish (s.finish id appGone rest) := by
  have inPass := wellFormed.inPass
  rw [at_] at inPass
  obtain ⟨st, entry⟩ := inPass
  obtain ⟨socket, found⟩ := wellFormed.conn entry
  unfold NetStack.finish
  simp only [found]
  cases result : Conn.finish { st := st, socket := socket } id appGone with
  | mk kept outputs =>
      cases kept with
      | none => exact .finishRemoved at_ found result
      | some c' => exact .finishKept at_ found result

/-- A packet is intercepted with a new listening socket, or nothing happens to the stack. -/
theorem intercept_cases (s : NetStack net) (pkt : List UInt8) (handle : Nat) :
    (s.intercept pkt handle = s ∧
      (s.acceptTx.isSome = true → isTcpSyn pkt = true → ∀ dst src,
        parseTcpSyn pkt = some (dst, src) → net.listen net.newTcp dst = none)) ∨
    ∃ dst src socket, s.acceptTx.isSome = true ∧ isTcpSyn pkt = true ∧
      parseTcpSyn pkt = some (dst, src) ∧ net.listen net.newTcp dst = some socket ∧
      s.intercept pkt handle =
        s.addTcp handle socket false (fun id => .listened id dst) := by
  unfold NetStack.intercept
  by_cases caught : (s.acceptTx.isSome && isTcpSyn pkt) = true
  · rw [if_pos caught]
    rw [Bool.and_eq_true] at caught
    cases parsed : parseTcpSyn pkt with
    | none => exact Or.inl ⟨rfl, fun _ _ _ _ some_ => by cases some_⟩
    | some endpoints =>
        obtain ⟨dst, src⟩ := endpoints
        simp only
        cases made : net.listen net.newTcp dst with
        | none =>
            refine Or.inl ⟨rfl, fun _ _ _ _ same => ?_⟩
            rw [Option.some.injEq, Prod.mk.injEq] at same
            rw [← same.1, made]
        | some socket => exact Or.inr ⟨dst, src, socket, caught.1, caught.2, rfl, made, rfl⟩
  · rw [if_neg caught]
    refine Or.inl ⟨rfl, fun accepting syn => ?_⟩
    rw [accepting, syn] at caught
    exact absurd rfl caught

private theorem inbound_shape {s : NetStack net} (pkt : List UInt8) (handle : Nat)
    (at_ : s.phase = .select) (unused : s.sockets.lookup handle = none) :
    Shape s (.inbound pkt handle)
      { (s.intercept pkt handle).ingest pkt with phase := .ingesting 0 } := by
  rcases intercept_cases s pkt handle with
    ⟨same, plain⟩ | ⟨dst, src, socket, accepting, syn, parsed, made, added⟩
  · rw [same]
    exact .inbound at_ plain
  · rw [added]
    exact .listened at_ unused accepting syn parsed made

private theorem cmd_shape {s : NetStack net} (cmd : Cmd) (handle : Nat)
    (at_ : s.phase = .select) (unused : s.sockets.lookup handle = none) :
    Shape s (.cmd cmd handle) { s.handleCmd cmd handle with phase := .poll } := by
  cases cmd with
  | openTcp dst =>
      simp only [NetStack.handleCmd, NetStack.openTcp]
      cases made : net.connect s.iface net.newTcp dst (allocPort s.nextPort).1 with
      | none => exact .openFailed at_ (Or.inr ⟨dst, rfl⟩)
      | some socket => exact .connecting at_ unused made
  | openUdp =>
      simp only [NetStack.handleCmd, NetStack.openUdp]
      cases made : net.bind net.newUdp (allocPort s.nextPort).1 with
      | none => exact .openFailed at_ (Or.inl rfl)
      | some socket => exact .bound at_ unused made
  | setAddrs v4 v6 =>
      exact .aside ⟨rfl, rfl, rfl, fun _ => by rw [at_]; rfl, rfl, fun _ => rfl, rfl, rfl, rfl,
        fun _ => trivial⟩
  | enableAccept =>
      exact .aside ⟨rfl, rfl, rfl, fun _ => by rw [at_]; rfl, rfl, fun _ => rfl, rfl, rfl, rfl,
        fun _ => trivial⟩

theorem lookup_of_udpSocket {s : NetStack net} {handle : Nat} {socket : net.Udp}
    (held : s.udpSocket handle = some socket) : s.sockets.lookup handle = some (.udp socket) := by
  unfold NetStack.udpSocket at held
  split at held
  · rename_i found
    cases held
    exact found
  · cases held

/-- A UDP socket changed in place. -/
private theorem sockets_insert_udp {s : NetStack net} {handle : Nat} {old : net.Udp}
    (socket : net.Udp) (held : s.udpSocket handle = some old) :
    NetStack.tcpSocket { s with sockets := s.sockets.insert handle (.udp socket) } =
        s.tcpSocket ∧
      NetStack.slotKind { s with sockets := s.sockets.insert handle (.udp socket) } =
        s.slotKind := by
  have found := lookup_of_udpSocket held
  constructor
  · funext at_
    simp only [NetStack.tcpSocket, Table.lookup_insert]
    by_cases here : at_ = handle
    · subst here
      rw [if_pos rfl, found]
    · rw [if_neg here]
  · funext at_
    simp only [NetStack.slotKind, Table.lookup_insert]
    by_cases here : at_ = handle
    · subst here
      rw [if_pos rfl, found]
      rfl
    · rw [if_neg here]

private theorem aside_phase {s : NetStack net} (phase : Phase)
    (stage : ∀ id, phase.stage id = s.phase.stage id)
    (inPass : s.PassOk s.phase → s.PassOk phase) : Aside s { s with phase := phase } :=
  ⟨rfl, rfl, rfl, stage, rfl, fun _ => rfl, rfl, rfl, rfl, inPass⟩

private theorem udpHead_aside {s : NetStack net} {id : Nat} {rest : List Nat}
    (at_ : s.phase = .udp (id :: rest)) : Aside s (s.udpHead id rest) := by
  unfold NetStack.udpHead
  cases entry : s.udpConns.lookup id with
  | none => exact aside_phase _ (fun _ => by rw [at_]; rfl) (fun _ => trivial)
  | some st => exact aside_phase _ (fun _ => by rw [at_]; rfl) (fun _ => ⟨st, entry⟩)

private theorem udpReceive_aside {s : NetStack net} (wellFormed : WellFormed s) {id count : Nat}
    {rest : List Nat} (at_ : s.phase = .udpReceiving id count rest) :
    Aside s (s.udpReceive id count rest) := by
  have inPass := wellFormed.inPass
  rw [at_] at inPass
  obtain ⟨st, entry⟩ := inPass
  have stopped : Aside s { s with phase := .udp rest } :=
    aside_phase _ (fun _ => by rw [at_]; rfl) (fun _ => trivial)
  obtain ⟨socket, held⟩ := wellFormed.udpSocket entry
  simp only [NetStack.udpReceive, entry, held]
  split
  · split
    · rename_i room
      split
      · cases got : net.recvUdp socket with
        | none => exact stopped
        | some datagram =>
            obtain ⟨data, from_, later⟩ := datagram
            have sockets := sockets_insert_udp later held
            exact
              { tcpConns := rfl
                tcpSocket := sockets.1
                trace := rfl
                stage := fun _ => by rw [at_]; rfl
                slotKind := sockets.2
                udpHandle := Table.map_lookup_insert _ UdpState.handle
                  { st with toApp := st.toApp.push (from_, data) room } entry rfl
                nextId := rfl
                nextPort := rfl
                opens := rfl
                inPass := fun _ =>
                  ⟨{ st with toApp := st.toApp.push (from_, data) room },
                    AList.lookup_insert s.udpConns⟩ }
      · exact stopped
    · exact stopped
  · exact stopped

/-- One data command; `s` is in the middle of a batch. -/
private theorem handleData_shape {s : NetStack net} (wellFormed : WellFormed s)
    (event : Event net) {data : DataIn}
    (arrives : event = .data data ∨ event = .moreData data)
    (at_ : s.phase = .select ∨ s.phase = .draining) :
    Shape s event (({ s with phase := .draining } : NetStack net).handleData data) := by
  have stage (id : Nat) : Phase.draining.stage id = s.phase.stage id := by
    rcases at_ with at_ | at_
    · rw [at_]
      rfl
    · rw [at_]
  have idle : Aside s { s with phase := .draining } := aside_phase _ stage (fun _ => trivial)
  cases data with
  | tcp id bytes =>
      simp only [NetStack.handleData]
      cases found : s.tcpConns.lookup id with
      | none => exact .aside idle
      | some st => exact .accepted arrives found at_
  | tcpClose id =>
      simp only [NetStack.handleData]
      cases found : s.tcpConns.lookup id with
      | none => exact .aside idle
      | some st => exact .appClosed arrives found at_
  | udp id dst bytes =>
      simp only [NetStack.handleData]
      cases found : s.udpConns.lookup id with
      | none => exact .aside idle
      | some st =>
          obtain ⟨socket, held⟩ := wellFormed.udpSocket found
          have still : ({ s with phase := .draining } : NetStack net).udpSocket st.handle =
              some socket := held
          simp only [still]
          cases sent : net.sendDatagram socket bytes dst with
          | none => exact .aside idle
          | some later =>
              have sockets := sockets_insert_udp later held
              exact .aside ⟨rfl, sockets.1, rfl, stage, sockets.2, fun _ => rfl, rfl, rfl, rfl,
                fun _ => trivial⟩
  | udpClose id =>
      simp only [NetStack.handleData]
      cases found : s.udpConns.lookup id with
      | none => exact .aside idle
      | some st => exact .udpClosed found at_

private theorem appMoves_shape {s s' : NetStack net} {id : Nat} {drops : Bool}
    (taken : s.appMoves id drops = some s') : Shape s (.app id drops) s' := by
  unfold NetStack.appMoves at taken
  split at taken
  · cases taken
  · rename_i st found
    split at taken
    · cases taken
    · rename_i holding
      simp only [Bool.or_eq_true, Bool.not_eq_true', not_or, Bool.not_eq_true,
        Bool.not_eq_false] at holding
      cases drops with
      | true =>
          rw [if_pos rfl, Option.some.injEq] at taken
          subst taken
          exact .appDropped found holding.1 holding.2
      | false =>
          rw [if_neg Bool.false_ne_true, Option.map_eq_some_iff] at taken
          obtain ⟨⟨chunk, toApp⟩, took, rfl⟩ := taken
          exact .appTook found holding.1 took

/-- The loop still finds its entry when every entry keeps its handle. -/
theorem passOk_of_handles {s s' : NetStack net} {phase : Phase}
    (tcp : ∀ id, (s'.tcpConns.lookup id).map TcpState.handle =
      (s.tcpConns.lookup id).map TcpState.handle)
    (udp : ∀ id, (s'.udpConns.lookup id).map UdpState.handle =
      (s.udpConns.lookup id).map UdpState.handle)
    (inPass : s.PassOk phase) : s'.PassOk phase := by
  have tcpStays {id : Nat} (there : ∃ st, s.tcpConns.lookup id = some st) :
      ∃ st, s'.tcpConns.lookup id = some st := by
    obtain ⟨st, found⟩ := there
    have same := tcp id
    rw [found, Option.map_some] at same
    obtain ⟨st', found', _⟩ := Option.map_eq_some_iff.mp same
    exact ⟨st', found'⟩
  cases phase with
  | receiving id count rest => exact tcpStays inPass
  | finishing id appGone rest => exact tcpStays inPass
  | udpReceiving id count rest =>
      obtain ⟨st, found⟩ := inPass
      have same := udp id
      rw [found, Option.map_some] at same
      obtain ⟨st', found', _⟩ := Option.map_eq_some_iff.mp same
      exact ⟨st', found'⟩
  | panicked => exact inPass.elim
  | _ => trivial

private theorem udpAppMoves_aside {s s' : NetStack net} {id : Nat} {drops : Bool}
    (taken : s.udpAppMoves id drops = some s') : Aside s s' := by
  unfold NetStack.udpAppMoves at taken
  split at taken
  · cases taken
  · rename_i st found
    rw [Option.ite_none_right_eq_some] at taken
    obtain ⟨toApp, _, rfl⟩ := Option.map_eq_some_iff.mp taken.2
    have handles (other : Nat) :
        ((s.udpConns.insert id { st with toApp := toApp }).lookup other).map UdpState.handle =
          (s.udpConns.lookup other).map UdpState.handle :=
      Table.map_lookup_insert _ UdpState.handle { st with toApp := toApp } found rfl other
    exact ⟨rfl, rfl, rfl, fun _ => rfl, rfl, handles, rfl, rfl, rfl,
      passOk_of_handles (fun _ => rfl) handles⟩

private theorem acceptMoves_aside {s s' : NetStack net} {drops : Bool}
    (taken : s.acceptMoves drops = some s') : Aside s s' := by
  unfold NetStack.acceptMoves at taken
  split at taken
  · cases taken
  · rw [Option.ite_none_right_eq_some] at taken
    obtain ⟨channel, _, rfl⟩ := Option.map_eq_some_iff.mp taken.2
    exact ⟨rfl, rfl, rfl, fun _ => rfl, rfl, fun _ => rfl, rfl, rfl, rfl, id⟩

/-- A step that the loop can take, event by event. -/
inductive Turn (s : NetStack net) : Event net → NetStack net → Prop where
  | poll {input : NetStack.PollInput net} {emitted : List (List UInt8)} {panicked : Bool}
      {ids : List Nat} (at_ : s.phase = .poll) (order : ids.Perm s.tcpConns.keys) :
      Turn s (.poll input emitted panicked ids) (s.poll input emitted panicked ids)
  | serviceHead {id : Nat} {rest : List Nat} {ownerWaits : Bool}
      (at_ : s.phase = .tcp (id :: rest)) :
      Turn s (.serviceHead ownerWaits) (s.serviceHead id rest ownerWaits)
  | receive {id count : Nat} {rest : List Nat} (at_ : s.phase = .receiving id count rest) :
      Turn s .receive (s.receive id count rest)
  | finish {id : Nat} {appGone : Bool} {rest : List Nat}
      (at_ : s.phase = .finishing id appGone rest) : Turn s .finish (s.finish id appGone rest)
  | beginUdp {ids : List Nat} (at_ : s.phase = .tcp []) (order : ids.Perm s.udpConns.keys) :
      Turn s (.beginUdp ids) { s with phase := .udp ids }
  | udpHead {id : Nat} {rest : List Nat} (at_ : s.phase = .udp (id :: rest)) :
      Turn s .udpHead (s.udpHead id rest)
  | udpReceive {id count : Nat} {rest : List Nat} (at_ : s.phase = .udpReceiving id count rest) :
      Turn s .udpReceive (s.udpReceive id count rest)
  | flush {outboundClosed : Bool} (at_ : s.phase = .udp []) :
      Turn s (.flush outboundClosed)
        { s with
          deviceTx := if outboundClosed then s.deviceTx.tail else []
          phase := .select }
  | inbound {pkt : List UInt8} {handle : Nat} (at_ : s.phase = .select)
      (unused : s.sockets.lookup handle = none) :
      Turn s (.inbound pkt handle)
        { (s.intercept pkt handle).ingest pkt with phase := .ingesting 0 }
  | drained {pkt : List UInt8} {count : Nat} (at_ : s.phase = .ingesting count)
      (room : count < maxIngestPerTick) :
      Turn s (.drained pkt) { s.ingest pkt with phase := .ingesting (count + 1) }
  | cmd {cmd : Cmd} {handle : Nat} (at_ : s.phase = .select)
      (unused : s.sockets.lookup handle = none) :
      Turn s (.cmd cmd handle) { s.handleCmd cmd handle with phase := .poll }
  | data {data : DataIn} (at_ : s.phase = .select) :
      Turn s (.data data) ({ s with phase := .draining }.handleData data)
  | moreData {data : DataIn} (at_ : s.phase = .draining) :
      Turn s (.moreData data) ({ s with phase := .draining }.handleData data)
  | again (stage : ∀ id, s.phase.stage id = Phase.poll.stage id) :
      Turn s .again { s with phase := .poll }
  | stop (at_ : s.phase = .select) : Turn s .stop { s with phase := .stopped }
  | app {id : Nat} {drops : Bool} {s' : NetStack net} (moved : s.appMoves id drops = some s') :
      Turn s (.app id drops) s'
  | udpApp {id : Nat} {drops : Bool} {s' : NetStack net}
      (moved : s.udpAppMoves id drops = some s') : Turn s (.udpApp id drops) s'
  | acceptApp {drops : Bool} {s' : NetStack net} (moved : s.acceptMoves drops = some s') :
      Turn s (.acceptApp drops) s'

theorem turn_of_step {s s' : NetStack net} {event : Event net} (taken : step s event = some s') :
    Turn s event s' := by
  cases event with
  | poll input emitted panicked ids =>
      simp only [step, Option.ite_none_right_eq_some, Option.some.injEq] at taken
      obtain ⟨⟨at_, order⟩, rfl⟩ := taken
      exact .poll at_ order
  | serviceHead ownerWaits =>
      simp only [step] at taken
      split at taken
      · rename_i at_
        cases taken
        exact .serviceHead at_
      · cases taken
  | receive =>
      simp only [step] at taken
      split at taken
      · rename_i at_
        cases taken
        exact .receive at_
      · cases taken
  | finish =>
      simp only [step] at taken
      split at taken
      · rename_i at_
        cases taken
        exact .finish at_
      · cases taken
  | beginUdp ids =>
      simp only [step, Option.ite_none_right_eq_some, Option.some.injEq] at taken
      obtain ⟨⟨at_, order⟩, rfl⟩ := taken
      exact .beginUdp at_ order
  | udpHead =>
      simp only [step] at taken
      split at taken
      · rename_i at_
        cases taken
        exact .udpHead at_
      · cases taken
  | udpReceive =>
      simp only [step] at taken
      split at taken
      · rename_i at_
        cases taken
        exact .udpReceive at_
      · cases taken
  | flush outboundClosed =>
      simp only [step, Option.ite_none_right_eq_some, Option.some.injEq] at taken
      obtain ⟨at_, rfl⟩ := taken
      exact .flush at_
  | inbound pkt handle =>
      simp only [step, NetStack.handleFree, Option.isNone_iff_eq_none,
        Option.ite_none_right_eq_some, Option.some.injEq] at taken
      obtain ⟨⟨at_, unused⟩, rfl⟩ := taken
      exact .inbound at_ unused
  | drained pkt =>
      simp only [step] at taken
      split at taken
      · rename_i at_
        simp only [Option.ite_none_right_eq_some, Option.some.injEq] at taken
        obtain ⟨room, rfl⟩ := taken
        exact .drained at_ room
      · cases taken
  | cmd cmd handle =>
      simp only [step, NetStack.handleFree, Option.isNone_iff_eq_none,
        Option.ite_none_right_eq_some, Option.some.injEq] at taken
      obtain ⟨⟨at_, unused⟩, rfl⟩ := taken
      exact .cmd at_ unused
  | data data =>
      simp only [step, Option.ite_none_right_eq_some, Option.some.injEq] at taken
      obtain ⟨at_, rfl⟩ := taken
      exact .data at_
  | moreData data =>
      simp only [step, Option.ite_none_right_eq_some, Option.some.injEq] at taken
      obtain ⟨at_, rfl⟩ := taken
      have same : { s with phase := Phase.draining } = s := by rw [← at_]
      have turn : Turn s (.moreData data) ({ s with phase := .draining }.handleData data) :=
        .moreData at_
      rw [same] at turn
      exact turn
  | again =>
      simp only [step] at taken
      split at taken
      · rename_i at_
        cases taken
        exact .again fun _ => by rw [at_]; rfl
      · rename_i at_
        cases taken
        exact .again fun _ => by rw [at_]; rfl
      · rename_i at_
        cases taken
        exact .again fun _ => by rw [at_]; rfl
      · cases taken
  | stop =>
      simp only [step, Option.ite_none_right_eq_some, Option.some.injEq] at taken
      obtain ⟨at_, rfl⟩ := taken
      exact .stop at_
  | app id drops => exact .app taken
  | udpApp id drops => exact .udpApp taken
  | acceptApp drops => exact .acceptApp taken

theorem step_shape {s s' : NetStack net} {event : Event net} (wellFormed : WellFormed s)
    (taken : step s event = some s') : Shape s event s' := by
  cases turn_of_step taken with
  | poll at_ order => exact .polled at_ order
  | serviceHead at_ => exact serviceHead_shape wellFormed at_ _
  | receive at_ => exact receive_shape wellFormed at_
  | finish at_ => exact finish_shape wellFormed at_
  | beginUdp at_ order =>
      exact .aside (aside_phase _ (fun _ => by rw [at_]; rfl) (fun _ => trivial))
  | udpHead at_ => exact .aside (udpHead_aside at_)
  | udpReceive at_ => exact .aside (udpReceive_aside wellFormed at_)
  | flush at_ =>
      exact .aside ⟨rfl, rfl, rfl, fun _ => by rw [at_]; rfl, rfl, fun _ => rfl, rfl, rfl, rfl,
        fun _ => trivial⟩
  | inbound at_ unused => exact inbound_shape _ _ at_ unused
  | drained at_ room => exact .drained at_ room
  | cmd at_ unused => exact cmd_shape _ _ at_ unused
  | data at_ => exact handleData_shape wellFormed _ (Or.inl rfl) (Or.inl at_)
  | moreData at_ => exact handleData_shape wellFormed _ (Or.inr rfl) (Or.inr at_)
  | again stage => exact .aside (aside_phase _ (fun id => (stage id).symm) (fun _ => trivial))
  | stop at_ => exact .aside (aside_phase _ (fun _ => by rw [at_]; rfl) (fun _ => trivial))
  | app moved => exact appMoves_shape moved
  | udpApp moved => exact .aside (udpAppMoves_aside moved)
  | acceptApp moved => exact .aside (acceptMoves_aside moved)

end MolidoVpn.Netstack
