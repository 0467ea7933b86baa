import Mathlib.Logic.Basic
import MolidoVpn.Address

/-!
The TCP/IP library under the user-space stack, as a parameter: its sockets, the
operations that the stack calls, and what the stack relies on about them. A
socket's `slices` are the contiguous pieces in which it will hand out its
receive buffer, oldest first.
-/

namespace MolidoVpn.Netstack

/-- `tcp::State`. -/
inductive SocketState where
  | closed
  | listen
  | synSent
  | synReceived
  | established
  | finWait1
  | finWait2
  | closeWait
  | closing
  | lastAck
  | timeWait
  deriving DecidableEq, Repr

/-- The state after `close()`. -/
def SocketState.afterClose : SocketState → SocketState
  | .listen => .closed
  | .synSent => .closed
  | .synReceived => .finWait1
  | .established => .finWait1
  | .closeWait => .lastAck
  | state => state

/-- The handshake is still to be completed in these states. -/
def SocketState.opening : SocketState → Bool
  | .listen => true
  | .synSent => true
  | .synReceived => true
  | _ => false

structure IpCidr where
  address : IpAddr
  prefixLen : UInt8
  deriving DecidableEq

/-- What the stack configures of an `Interface`. -/
structure Iface where
  addrs : List IpCidr
  defaultIpv4Route : Option Ipv4Addr
  defaultIpv6Route : Option Ipv6Addr
  deriving DecidableEq

/-- The socket operations that the stack uses. `Segments` and `Datagrams` are what one poll
brings to a socket. No code asks whether the handshake is done, the remote's FIN has arrived,
the connection was reset or timed out, or what a socket listens on: these are for the history. -/
structure Smoltcp where
  Tcp : Type
  Segments : Type
  newTcp : Tcp
  connect : Iface → Tcp → SocketAddr → UInt16 → Option Tcp
  listen : Tcp → SocketAddr → Option Tcp
  close : Tcp → Tcp
  state : Tcp → SocketState
  canSend : Tcp → Bool
  sendSlice : Tcp → List UInt8 → Option (Nat × Tcp)
  canRecv : Tcp → Bool
  recv : Tcp → Option (List UInt8 × Tcp)
  localEndpoint : Tcp → Option SocketAddr
  remoteEndpoint : Tcp → Option SocketAddr
  pollTcp : Segments → Tcp → Tcp
  slices : Tcp → List (List UInt8)
  handshakeDone : Tcp → Bool
  finArrived : Tcp → Bool
  aborted : Tcp → Bool
  listening : Tcp → Option SocketAddr
  Udp : Type
  Datagrams : Type
  newUdp : Udp
  bind : Udp → UInt16 → Option Udp
  sendDatagram : Udp → List UInt8 → SocketAddr → Option Udp
  canRecvUdp : Udp → Bool
  recvUdp : Udp → Option (List UInt8 × SocketAddr × Udp)
  pollUdp : Datagrams → Udp → Udp

namespace Smoltcp

/-- The bytes in the receive buffer. -/
def received (net : Smoltcp) (socket : net.Tcp) : List UInt8 :=
  (net.slices socket).flatten

/-- What the stack relies on: `close` and `send_slice` leave the receive buffer alone, `recv`
hands out its next slice, a poll only adds to it, and a completed handshake stays one. -/
structure Lawful (net : Smoltcp) : Prop where
  connect_new : ∀ iface remote port socket,
    net.connect iface net.newTcp remote port = some socket →
      net.slices socket = [] ∧ net.handshakeDone socket = false
  listen_new : ∀ endpoint socket, net.listen net.newTcp endpoint = some socket →
    net.slices socket = [] ∧ net.handshakeDone socket = false ∧
      net.listening socket = some endpoint
  close_state : ∀ socket, net.state (net.close socket) = (net.state socket).afterClose
  close_slices : ∀ socket, net.slices (net.close socket) = net.slices socket
  close_done : ∀ socket, net.handshakeDone (net.close socket) = net.handshakeDone socket
  send_len : ∀ socket data count later, net.sendSlice socket data = some (count, later) →
    count ≤ data.length
  send_state : ∀ socket data count later, net.sendSlice socket data = some (count, later) →
    net.state later = net.state socket ∧ net.slices later = net.slices socket ∧
      net.handshakeDone later = net.handshakeDone socket
  canRecv_iff : ∀ socket, net.canRecv socket = true ↔ net.slices socket ≠ []
  slice_nonempty : ∀ socket, [] ∉ net.slices socket
  recv_slice : ∀ socket chunk rest, net.slices socket = chunk :: rest →
    ∃ later, net.recv socket = some (chunk, later) ∧ net.slices later = rest ∧
      net.state later = net.state socket ∧ net.handshakeDone later = net.handshakeDone socket
  poll_received : ∀ segments socket,
    net.received socket <+: net.received (net.pollTcp segments socket)
  poll_done : ∀ segments socket, net.handshakeDone socket = true →
    net.handshakeDone (net.pollTcp segments socket) = true
  established_done : ∀ socket, net.state socket = .established →
    net.handshakeDone socket = true
  done_state : ∀ socket, net.handshakeDone socket = true → (net.state socket).opening = false

end Smoltcp

end MolidoVpn.Netstack
