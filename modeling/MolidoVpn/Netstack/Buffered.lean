import MolidoVpn.Netstack.Stack

/-!
A socket library that meets what the stack relies on: a TCP socket with its
state, a contiguous receive buffer and the free space of its send buffer. The
stack is run over it wherever a concrete run is shown.
-/

namespace MolidoVpn.Netstack.Buffered

/-- What a segment, or a timer, does to a socket. -/
inductive Happening where
  | syn
  | synAck
  | ack
  | data (bytes : List UInt8)
  | fin
  | rst
  | expired
  | sent (count : Nat)

/-- `opened` keeps whether the handshake had completed where the state alone does not tell. -/
structure Tcp where
  state : SocketState
  opened : Bool
  received : List UInt8
  txFree : Nat
  finArrived : Bool
  aborted : Bool
  localEndpoint : Option SocketAddr
  remoteEndpoint : Option SocketAddr

namespace Tcp

def new (txCapacity : Nat) : Tcp :=
  { state := .closed
    opened := false
    received := []
    txFree := txCapacity
    finArrived := false
    aborted := false
    localEndpoint := none
    remoteEndpoint := none }

def handshakeDone (socket : Tcp) : Bool :=
  match socket.state with
  | .closed => socket.opened
  | .finWait1 => socket.opened
  | state => !state.opening

/-- Every change of state goes through here. -/
def enter (socket : Tcp) (state : SocketState) : Tcp :=
  { socket with state := state, opened := socket.handshakeDone }

def close (socket : Tcp) : Tcp := socket.enter socket.state.afterClose

def connect (socket : Tcp) (remote : SocketAddr) (port : UInt16) : Option Tcp :=
  if remote.port = 0 ∨ port = 0 then none
  else some { socket.enter .synSent with remoteEndpoint := some remote }

def listen (socket : Tcp) (endpoint : SocketAddr) : Option Tcp :=
  if endpoint.port = 0 then none
  else some { socket.enter .listen with localEndpoint := some endpoint }

def listening (socket : Tcp) : Option SocketAddr :=
  if socket.state = .listen then socket.localEndpoint else none

def canSend (socket : Tcp) : Bool :=
  (socket.state == .established || socket.state == .closeWait) && decide (0 < socket.txFree)

def sendSlice (socket : Tcp) (data : List UInt8) : Option (Nat × Tcp) :=
  if socket.state = .established ∨ socket.state = .closeWait then
    let count := min data.length socket.txFree
    some (count, { socket with txFree := socket.txFree - count })
  else none

def slices (socket : Tcp) : List (List UInt8) :=
  if socket.received.isEmpty then [] else [socket.received]

def recv (socket : Tcp) : Option (List UInt8 × Tcp) :=
  if socket.received.isEmpty then none
  else some (socket.received, { socket with received := [] })

def handle (socket : Tcp) : Happening → Tcp
  | .syn => if socket.state = .listen then socket.enter .synReceived else socket
  | .synAck => if socket.state = .synSent then socket.enter .established else socket
  | .ack =>
      match socket.state with
      | .synReceived => socket.enter .established
      | .finWait1 => socket.enter .finWait2
      | .closing => socket.enter .timeWait
      | .lastAck => socket.enter .closed
      | _ => socket
  | .data bytes =>
      match socket.state with
      | .established => { socket with received := socket.received ++ bytes }
      | .finWait1 => { socket with received := socket.received ++ bytes }
      | .finWait2 => { socket with received := socket.received ++ bytes }
      | _ => socket
  | .fin =>
      match socket.state with
      | .established => { socket.enter .closeWait with finArrived := true }
      | .finWait1 => { socket.enter .closing with finArrived := true }
      | .finWait2 => { socket.enter .timeWait with finArrived := true }
      | _ => socket
  | .rst =>
      match socket.state with
      | .closed => socket
      | .listen => socket
      | _ => { socket.enter .closed with aborted := true }
  | .expired => if socket.state = .timeWait then socket.enter .closed else socket
  | .sent count => { socket with txFree := socket.txFree + count }

def poll (happenings : List Happening) (socket : Tcp) : Tcp := happenings.foldl handle socket

theorem done_of_enter {socket : Tcp} {state : SocketState} (open_ : state.opening = false)
    (done : socket.handshakeDone = true) : (socket.enter state).handshakeDone = true := by
  cases state <;> first | exact done | rfl | cases open_

/-- What one happening keeps. -/
theorem handle_keeps (socket : Tcp) (happening : Happening) :
    socket.received <+: (socket.handle happening).received ∧
      (socket.handshakeDone = true → (socket.handle happening).handshakeDone = true) := by
  have moves (state : SocketState) (open_ : state.opening = false) :
      socket.received <+: (socket.enter state).received ∧
        (socket.handshakeDone = true → (socket.enter state).handshakeDone = true) :=
    ⟨List.prefix_rfl, done_of_enter open_⟩
  have same : socket.received <+: socket.received ∧
      (socket.handshakeDone = true → socket.handshakeDone = true) := ⟨List.prefix_rfl, id⟩
  cases happening with
  | syn =>
      simp only [handle]
      split
      · rename_i listens
        refine ⟨List.prefix_rfl, fun done => ?_⟩
        rw [handshakeDone, listens] at done
        cases done
      · exact same
  | synAck =>
      simp only [handle]
      split
      · exact moves .established rfl
      · exact same
  | ack =>
      simp only [handle]
      split
      · exact moves .established rfl
      · exact moves .finWait2 rfl
      · exact moves .timeWait rfl
      · exact moves .closed rfl
      · exact same
  | data bytes =>
      simp only [handle]
      split
      · exact ⟨List.prefix_append _ _, id⟩
      · exact ⟨List.prefix_append _ _, id⟩
      · exact ⟨List.prefix_append _ _, id⟩
      · exact same
  | fin =>
      simp only [handle]
      split
      · exact moves .closeWait rfl
      · exact moves .closing rfl
      · exact moves .timeWait rfl
      · exact same
  | rst =>
      simp only [handle]
      split
      · exact same
      · exact same
      · exact moves .closed rfl
  | expired =>
      simp only [handle]
      split
      · exact moves .closed rfl
      · exact same
  | sent count => exact same

theorem poll_keeps (happenings : List Happening) (socket : Tcp) :
    socket.received <+: (poll happenings socket).received ∧
      (socket.handshakeDone = true → (poll happenings socket).handshakeDone = true) := by
  induction happenings generalizing socket with
  | nil => exact ⟨List.prefix_rfl, id⟩
  | cons happening rest ih =>
      have first := handle_keeps socket happening
      have later := ih (socket.handle happening)
      exact ⟨first.1.trans later.1, fun done => later.2 (first.2 done)⟩

theorem connect_new {txCapacity : Nat} {remote : SocketAddr} {port : UInt16} {socket : Tcp}
    (made : (new txCapacity).connect remote port = some socket) :
    socket.slices = [] ∧ socket.handshakeDone = false := by
  unfold connect at made
  split at made
  · cases made
  · cases made
    exact ⟨rfl, rfl⟩

theorem listen_new {txCapacity : Nat} {endpoint : SocketAddr} {socket : Tcp}
    (made : (new txCapacity).listen endpoint = some socket) :
    socket.slices = [] ∧ socket.handshakeDone = false ∧ socket.listening = some endpoint := by
  unfold listen at made
  split at made
  · cases made
  · cases made
    exact ⟨rfl, rfl, rfl⟩

theorem sendSlice_keeps {socket later : Tcp} {data : List UInt8} {count : Nat}
    (sent : socket.sendSlice data = some (count, later)) :
    count ≤ data.length ∧ later.state = socket.state ∧ later.slices = socket.slices ∧
      later.handshakeDone = socket.handshakeDone := by
  unfold sendSlice at sent
  split at sent
  · cases sent
    exact ⟨Nat.min_le_left _ _, rfl, rfl, rfl⟩
  · cases sent

theorem slices_flatten (socket : Tcp) : socket.slices.flatten = socket.received := by
  unfold slices
  cases socket.received with
  | nil => rfl
  | cons byte rest => exact List.append_nil _

end Tcp

structure Udp where
  port : UInt16
  queue : List (List UInt8 × SocketAddr)

/-- The library, with the size of a socket's send buffer. -/
def sockets (txCapacity : Nat) : Smoltcp :=
  { Tcp := Tcp
    Segments := List Happening
    newTcp := Tcp.new txCapacity
    connect := fun _ socket remote port => socket.connect remote port
    listen := Tcp.listen
    close := Tcp.close
    state := Tcp.state
    canSend := Tcp.canSend
    sendSlice := Tcp.sendSlice
    canRecv := fun socket => !socket.received.isEmpty
    recv := Tcp.recv
    localEndpoint := Tcp.localEndpoint
    remoteEndpoint := Tcp.remoteEndpoint
    pollTcp := Tcp.poll
    slices := Tcp.slices
    handshakeDone := Tcp.handshakeDone
    finArrived := Tcp.finArrived
    aborted := Tcp.aborted
    listening := Tcp.listening
    Udp := Udp
    Datagrams := List (List UInt8 × SocketAddr)
    newUdp := { port := 0, queue := [] }
    bind := fun socket port => if port = 0 then none else some { socket with port := port }
    sendDatagram := fun socket _ remote => if remote.port = 0 then none else some socket
    canRecvUdp := fun socket => !socket.queue.isEmpty
    recvUdp := fun socket =>
      match socket.queue with
      | [] => none
      | (data, source) :: rest => some (data, source, { socket with queue := rest })
    pollUdp := fun datagrams socket => { socket with queue := socket.queue ++ datagrams } }

theorem lawful (txCapacity : Nat) : (sockets txCapacity).Lawful :=
  { connect_new := fun _ _ _ _ made => Tcp.connect_new made
    listen_new := fun _ _ made => Tcp.listen_new made
    close_state := fun _ => rfl
    close_slices := fun _ => rfl
    close_done := by
      intro socket
      change (socket.enter socket.state.afterClose).handshakeDone = socket.handshakeDone
      unfold Tcp.enter Tcp.handshakeDone
      cases socket.state <;> rfl
    send_len := fun _ _ _ _ sent => (Tcp.sendSlice_keeps sent).1
    send_state := fun _ _ _ _ sent => (Tcp.sendSlice_keeps sent).2
    canRecv_iff := by
      intro socket
      simp only [sockets, Tcp.slices]
      cases socket.received with
      | nil => exact ⟨fun impossible => (Bool.false_ne_true impossible).elim, (absurd rfl ·)⟩
      | cons byte rest => exact ⟨fun _ => List.cons_ne_nil _ _, fun _ => rfl⟩
    slice_nonempty := by
      intro socket
      simp only [sockets, Tcp.slices]
      cases socket.received with
      | nil => exact List.not_mem_nil
      | cons byte rest => exact fun member => by cases List.mem_singleton.mp member
    recv_slice := by
      intro socket chunk rest slices
      simp only [sockets, Tcp.slices] at slices
      split at slices
      · cases slices
      · rename_i holds
        rw [List.cons.injEq] at slices
        obtain ⟨rfl, rfl⟩ := slices
        exact ⟨{ socket with received := [] }, by simp only [sockets, Tcp.recv, if_neg holds],
          rfl, rfl, rfl⟩
    poll_received := by
      intro happenings socket
      have same := Tcp.slices_flatten socket
      have later := Tcp.slices_flatten (Tcp.poll happenings socket)
      simp only [Smoltcp.received, sockets, same, later]
      exact (Tcp.poll_keeps happenings socket).1
    poll_done := fun happenings socket => (Tcp.poll_keeps happenings socket).2
    established_done := by
      intro socket established
      change socket.handshakeDone = true
      unfold Tcp.handshakeDone
      rw [show socket.state = .established from established]
      rfl
    done_state := by
      intro socket done
      change socket.state.opening = false
      change socket.handshakeDone = true at done
      unfold Tcp.handshakeDone at done
      cases at_ : socket.state <;> rw [at_] at done <;> first | rfl | cases done }

section Turns

variable {txCapacity : Nat}

/-- A poll that brings the same to every socket. -/
def pollEvent (happenings : List Happening) (ids : List Nat) : Event (sockets txCapacity) :=
  .poll { segments := fun _ => happenings, datagrams := fun _ => [] } [] false ids

/-- The loop from its start to its first command, which opens a connection. -/
def connecting (remote : SocketAddr) : List (Event (sockets txCapacity)) :=
  [pollEvent [] [], .beginUdp [], .flush false, .cmd (.openTcp remote) 0]

/-- A turn of the loop with connection 1, whose receive loop delivers `chunks` chunks. -/
def turn (happenings : List Happening) (chunks : Nat) : List (Event (sockets txCapacity)) :=
  [pollEvent happenings [1], .serviceHead true] ++ List.replicate (chunks + 1) .receive ++
    [.finish, .beginUdp [], .flush false]

/-- The same, with the timer at its end. -/
def idleTurn (happenings : List Happening) (chunks : Nat) : List (Event (sockets txCapacity)) :=
  turn happenings chunks ++ [.again]

end Turns

end MolidoVpn.Netstack.Buffered
