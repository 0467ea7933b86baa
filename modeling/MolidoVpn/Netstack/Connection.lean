import MolidoVpn.Lib.Channel
import MolidoVpn.Netstack.Smoltcp

/-!
One TCP connection of the user-space stack: its entry of `tcp_conns` with the
socket behind its handle, and what one pass of `service_tcp` does to the two.
-/

namespace MolidoVpn.Netstack

/-- `toApp` stands for both ends of the app's channel; `fromStackRx` says that its receiver has
not been handed over yet, `connectResp` that the opener still waits for an answer. -/
structure TcpState where
  handle : Nat
  toApp : Channel (List UInt8)
  fromStackRx : Bool
  connectResp : Bool
  pending : List UInt8
  established : Bool
  halfClosed : Bool

/-- The entry that `handle_cmd` and the accept path insert. -/
def TcpState.new (handle appQueue : Nat) (connectResp : Bool) : TcpState :=
  { handle := handle
    toApp := Channel.empty _ appQueue
    fromStackRx := true
    connectResp := connectResp
    pending := []
    established := false
    halfClosed := false }

/-- What happened to the connections, for the history. `arrived` are bytes that a poll added to a
receive buffer; `serviced` notes whether the handshake had completed when a pass looked. -/
inductive Output where
  | listened (id : Nat) (endpoint : SocketAddr)
  | connecting (id : Nat) (remote : SocketAddr) (port : UInt16) (number : Nat)
  | bound (id : Nat) (port : UInt16) (number : Nat)
  | openFailed (number : Nat)
  | arrived (id : Nat) (bytes : List UInt8)
  | reported (id : Nat)
  | reportLost (id : Nat)
  | serviced (id : Nat) (handshakeDone : Bool)
  | refused (id : Nat)
  | accepted (id : Nat) (data : List UInt8) (early : Bool)
  | appClosed (id : Nat)
  | handed (id : Nat) (data : List UInt8)
  | closed (id : Nat)
  | delivered (id : Nat) (chunk : List UInt8)
  | removed (id : Nat) (finArrived aborted : Bool)
  | appDropped (id : Nat)
  | ingested (pkt : List UInt8) (accepting listening : Bool)
  deriving DecidableEq

/-- The TCP connection that a record is about. -/
def Output.conn : Output → Option Nat
  | .listened id _ => some id
  | .connecting id _ _ _ => some id
  | .bound _ _ _ => none
  | .openFailed _ => none
  | .arrived id _ => some id
  | .reported id => some id
  | .reportLost id => some id
  | .serviced id _ => some id
  | .refused id => some id
  | .accepted id _ _ => some id
  | .appClosed id => some id
  | .handed id _ => some id
  | .closed id => some id
  | .delivered id _ => some id
  | .removed id _ _ => some id
  | .appDropped id => some id
  | .ingested _ _ _ => none

/-- All records are about one connection. -/
def About (id : Nat) (outputs : List Output) : Prop :=
  ∀ output ∈ outputs, output.conn = some id

theorem about_nil (id : Nat) : About id [] := by
  intro output member
  cases member

theorem about_singleton {id : Nat} {output : Output} (own : output.conn = some id) :
    About id [output] := by
  intro other member
  rw [List.mem_singleton.mp member]
  exact own

theorem About.append {id : Nat} {first second : List Output} (left : About id first)
    (right : About id second) : About id (first ++ second) := by
  intro output member
  rcases List.mem_append.mp member with early | late
  · exact left output early
  · exact right output late

def maxRecvChunks : Nat := 128

/-- Where a new connection is reported to. -/
inductive Report where
  | quiet
  | respond
  | accept
  deriving DecidableEq, Repr

/-- The two `if let` of the report. The first one takes both options before it looks at them, so
an entry without `connect_resp` has lost its receiver when the second one asks for it. -/
def TcpState.report (st : TcpState) : Report × TcpState :=
  let taken := { st with established := true, connectResp := false, fromStackRx := false }
  if st.connectResp && st.fromStackRx then (.respond, taken)
  else if taken.fromStackRx then (.accept, { taken with fromStackRx := false })
  else
    (.quiet, if st.fromStackRx then { taken with toApp := taken.toApp.dropReceiver } else taken)

structure Conn (net : Smoltcp) where
  st : TcpState
  socket : net.Tcp

namespace Conn

variable {net : Smoltcp}

def close (c : Conn net) : Conn net :=
  { c with socket := net.close c.socket }

/-- The first look at an established connection. `owner` says who takes a report; a report that
nobody takes drops the receiver with it. -/
def establish (c : Conn net) (id : Nat) (owner : Report → Bool) : Conn net × List Output :=
  if !c.st.established && net.state c.socket == .established then
    match c.st.report with
    | (.quiet, st) => ({ c with st := st }, [])
    | (report, st) =>
        if owner report then ({ c with st := st }, [.reported id])
        else ({ c with st := { st with toApp := st.toApp.dropReceiver } }, [.reportLost id])
  else (c, [])

/-- `send_slice` of the pending bytes; an error counts as nothing sent. -/
def sendPending (c : Conn net) (id : Nat) : Conn net × List Output :=
  if net.canSend c.socket && !c.st.pending.isEmpty then
    match net.sendSlice c.socket c.st.pending with
    | some (sent, socket) =>
        ({ st := { c.st with pending := c.st.pending.drop sent }, socket := socket },
          [.handed id (c.st.pending.take sent)])
    | none => (c, [])
  else (c, [])

/-- The app's close, once its bytes have left. -/
def closeDrained (c : Conn net) (id : Nat) : Conn net × List Output :=
  if c.st.halfClosed && c.st.pending.isEmpty then (c.close, [.closed id]) else (c, [])

/-- The record of a removal. -/
def removal (c : Conn net) (id : Nat) : Output :=
  .removed id (net.finArrived c.socket) (net.aborted c.socket)

/-- A connection that never got established and is over. -/
def failed (c : Conn net) : Bool :=
  !c.st.established && (net.state c.socket == .closed || net.state c.socket == .timeWait)

/-- The pass over one connection up to its receive loop; without a result it was removed. -/
def head (c : Conn net) (id : Nat) (owner : Report → Bool) :
    Option (Conn net) × List Output :=
  let looked := c.establish id owner
  let seen := looked.2 ++ [.serviced id (net.handshakeDone c.socket)]
  if looked.1.failed then
    (none, seen ++ (if looked.1.st.connectResp then [.refused id] else []) ++ [c.removal id])
  else
    let sent := looked.1.sendPending id
    let shut := sent.1.closeDrained id
    (some shut.1, seen ++ sent.2 ++ shut.2)

/-- What one turn of the receive loop does. -/
inductive Received (net : Smoltcp) where
  | chunk (c : Conn net) (bytes : List UInt8)
  | stop (c : Conn net) (appGone : Bool)

/-- One turn of the receive loop: a place in the app's channel first, then a slice for it. -/
def receive (c : Conn net) (delivered : Nat) : Received net :=
  if delivered < maxRecvChunks then
    if room : c.st.toApp.hasRoom = true then
      if net.canRecv c.socket then
        match net.recv c.socket with
        | some (bytes, socket) =>
            if bytes.isEmpty then .stop { c with socket := socket } false
            else .chunk { st := { c.st with toApp := c.st.toApp.push bytes room }, socket := socket } bytes
        | none => .stop c false
      else .stop c false
    else .stop c (!c.st.toApp.receiverAlive)
  else .stop c false

/-- The close after the loop when the app's receiver is gone. -/
def closeGone (c : Conn net) (id : Nat) (appGone : Bool) : Conn net × List Output :=
  if appGone then (c.close, [.closed id]) else (c, [])

/-- The close of a socket found in `CloseWait`. -/
def closeHalf (c : Conn net) (id : Nat) : Conn net × List Output :=
  if net.state c.socket == .closeWait then (c.close, [.closed id]) else (c, [])

/-- The rest of the pass, after the receive loop. The state is read once, before the second
close. -/
def finish (c : Conn net) (id : Nat) (appGone : Bool) : Option (Conn net) × List Output :=
  let left := c.closeGone id appGone
  let half := left.1.closeHalf id
  if net.state left.1.socket == .closed && half.1.st.established then
    (none, left.2 ++ half.2 ++ [c.removal id])
  else (some half.1, left.2 ++ half.2)

theorem establish_keeps (c : Conn net) (id : Nat) (owner : Report → Bool) :
    (c.establish id owner).1.st.handle = c.st.handle ∧
      (c.establish id owner).1.st.pending = c.st.pending ∧
      (c.establish id owner).1.st.halfClosed = c.st.halfClosed ∧
      (c.establish id owner).1.socket = c.socket ∧ About id (c.establish id owner).2 := by
  unfold establish TcpState.report
  split
  · split
    · rename_i st quiet
      split at quiet
      · cases quiet
      · rename_i notResp
        simp only [Bool.false_eq_true, if_false, Prod.mk.injEq, true_and] at quiet
        subst quiet
        split <;> exact ⟨rfl, rfl, rfl, rfl, about_nil id⟩
    · rename_i report st notQuiet some_
      split at some_
      · simp only [Prod.mk.injEq] at some_
        obtain ⟨rfl, rfl⟩ := some_
        split <;> exact ⟨rfl, rfl, rfl, rfl, about_singleton rfl⟩
      · simp only [Bool.false_eq_true, if_false, Prod.mk.injEq] at some_
        exact absurd some_.1.symm notQuiet
  · exact ⟨rfl, rfl, rfl, rfl, about_nil id⟩

theorem sendPending_keeps (c : Conn net) (id : Nat) :
    (c.sendPending id).1.st.handle = c.st.handle ∧ About id (c.sendPending id).2 := by
  unfold sendPending
  split
  · split
    · exact ⟨rfl, about_singleton rfl⟩
    · exact ⟨rfl, about_nil id⟩
  · exact ⟨rfl, about_nil id⟩

theorem closeDrained_keeps (c : Conn net) (id : Nat) :
    (c.closeDrained id).1.st = c.st ∧ About id (c.closeDrained id).2 := by
  unfold closeDrained
  split
  · exact ⟨rfl, about_singleton rfl⟩
  · exact ⟨rfl, about_nil id⟩

theorem head_about {c : Conn net} {id : Nat} {owner : Report → Bool} {kept : Option (Conn net)}
    {outputs : List Output} (result : c.head id owner = (kept, outputs)) : About id outputs := by
  rw [show outputs = (c.head id owner).2 by rw [result]]
  have looked := (c.establish_keeps id owner).2.2.2.2
  have served : About id [.serviced id (net.handshakeDone c.socket)] := about_singleton rfl
  have removed : About id [c.removal id] := about_singleton rfl
  unfold head
  simp only
  split
  · refine ((looked.append served).append ?_).append removed
    split
    · exact about_singleton rfl
    · exact about_nil id
  · exact ((looked.append served).append (sendPending_keeps _ id).2).append
      (closeDrained_keeps _ id).2

theorem head_handle {c c' : Conn net} {id : Nat} {owner : Report → Bool} {outputs : List Output}
    (kept : c.head id owner = (some c', outputs)) : c'.st.handle = c.st.handle := by
  unfold head at kept
  simp only at kept
  split at kept
  · cases kept
  · simp only [Prod.mk.injEq, Option.some.injEq] at kept
    rw [← kept.1, (closeDrained_keeps _ id).1, (sendPending_keeps _ id).1,
      (c.establish_keeps id owner).1]

theorem receive_handle (c : Conn net) (count : Nat) :
    (∀ c' bytes, c.receive count = .chunk c' bytes → c'.st.handle = c.st.handle) ∧
      ∀ c' appGone, c.receive count = .stop c' appGone → c'.st.handle = c.st.handle := by
  unfold receive
  constructor
  · intro c' bytes got
    split at got
    · split at got
      · split at got
        · split at got
          · split at got <;> cases got
            rfl
          · cases got
        · cases got
      · cases got
    · cases got
  · intro c' appGone got
    split at got
    · split at got
      · split at got
        · split at got
          · split at got <;> cases got
            rfl
          · cases got
            rfl
        · cases got
          rfl
      · cases got
        rfl
    · cases got
      rfl

theorem closeGone_keeps (c : Conn net) (id : Nat) (appGone : Bool) :
    (c.closeGone id appGone).1.st = c.st ∧ About id (c.closeGone id appGone).2 := by
  unfold closeGone
  split
  · exact ⟨rfl, about_singleton rfl⟩
  · exact ⟨rfl, about_nil id⟩

theorem closeHalf_keeps (c : Conn net) (id : Nat) :
    (c.closeHalf id).1.st = c.st ∧ About id (c.closeHalf id).2 := by
  unfold closeHalf
  split
  · exact ⟨rfl, about_singleton rfl⟩
  · exact ⟨rfl, about_nil id⟩

theorem finish_about {c : Conn net} {id : Nat} {appGone : Bool} {kept : Option (Conn net)}
    {outputs : List Output} (result : c.finish id appGone = (kept, outputs)) :
    About id outputs := by
  rw [show outputs = (c.finish id appGone).2 by rw [result]]
  have removed : About id [c.removal id] := about_singleton rfl
  have closes := (c.closeGone_keeps id appGone).2.append
    ((c.closeGone id appGone).1.closeHalf_keeps id).2
  unfold finish
  simp only
  split
  · exact closes.append removed
  · exact closes

theorem finish_handle {c c' : Conn net} {id : Nat} {appGone : Bool} {outputs : List Output}
    (kept : c.finish id appGone = (some c', outputs)) : c'.st.handle = c.st.handle := by
  unfold finish at kept
  simp only at kept
  split at kept
  · cases kept
  · simp only [Prod.mk.injEq, Option.some.injEq] at kept
    rw [← kept.1, ((c.closeGone id appGone).1.closeHalf_keeps id).1,
      (c.closeGone_keeps id appGone).1]

end Conn

end MolidoVpn.Netstack
