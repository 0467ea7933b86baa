import Mathlib.Data.List.AList
import MolidoVpn.Lib.Table
import MolidoVpn.Lib.Transition
import MolidoVpn.Netstack.Connection

/-!
The user-space stack and its loop: poll, one pass over the TCP connections and
one over the UDP ones, flush, and then one of the channels. Every atomic piece
of the loop is an event; the apps at the other ends of the channels move at any
time.
-/

namespace MolidoVpn.Netstack

structure UdpState where
  handle : Nat
  toApp : Channel (SocketAddr × List UInt8)

/-- A place of the `SocketSet`. -/
inductive Slot (net : Smoltcp) where
  | tcp (socket : net.Tcp)
  | udp (socket : net.Udp)

structure AcceptedTcp where
  remote : SocketAddr
  endpoint : SocketAddr
  id : Nat
  deriving DecidableEq

/-- Where the loop stands; `receiving` and `finishing` are inside the pass over one connection. -/
inductive Phase where
  | poll
  | tcp (ids : List Nat)
  | receiving (id delivered : Nat) (rest : List Nat)
  | finishing (id : Nat) (appGone : Bool) (rest : List Nat)
  | udp (ids : List Nat)
  | udpReceiving (id delivered : Nat) (rest : List Nat)
  | select
  | ingesting (count : Nat)
  | draining
  | stopped
  | panicked
  deriving DecidableEq

/-- Where the pass stands for one connection. -/
inductive Stage where
  | idle
  | receiving (delivered : Nat)
  | finishing (appGone : Bool)
  deriving DecidableEq

/-- The chunks that the receive loop has delivered. -/
def Stage.delivered : Stage → Nat
  | .receiving delivered => delivered
  | _ => 0

/-- Whether the receive loop found the app gone. -/
def Stage.appGone : Stage → Bool
  | .finishing appGone => appGone
  | _ => false

def Phase.stage (id : Nat) : Phase → Stage
  | .receiving current delivered _ => if current = id then .receiving delivered else .idle
  | .finishing current appGone _ => if current = id then .finishing appGone else .idle
  | _ => .idle

/-- The stack; `opens` counts the ports allocated so far. -/
structure NetStack (net : Smoltcp) where
  iface : Iface
  deviceRx : List (List UInt8)
  deviceTx : List (List UInt8)
  sockets : AList (fun _ : Nat => Slot net)
  tcpConns : AList (fun _ : Nat => TcpState)
  udpConns : AList (fun _ : Nat => UdpState)
  nextId : Nat
  nextPort : UInt16
  acceptTx : Option (Channel AcceptedTcp)
  appQueue : Nat
  phase : Phase
  opens : Nat
  trace : List Output

inductive Cmd where
  | openTcp (dst : SocketAddr)
  | openUdp
  | setAddrs (v4 : Option (Ipv4Addr × UInt8)) (v6 : Option (Ipv6Addr × UInt8))
  | enableAccept
  deriving DecidableEq

inductive DataIn where
  | tcp (id : Nat) (data : List UInt8)
  | tcpClose (id : Nat)
  | udp (id : Nat) (dst : SocketAddr) (data : List UInt8)
  | udpClose (id : Nat)
  deriving DecidableEq

def maxIngestPerTick : Nat := 512

def routablePrefixV4 (p : UInt8) : UInt8 := if p ≥ 31 then 24 else p

def routablePrefixV6 (p : UInt8) : UInt8 := if p ≥ 127 then 64 else p

def gatewayV4 (ip : Ipv4Addr) : Ipv4Addr :=
  { ip with d := if ip.d = 1 then 2 else 1 }

def gatewayV6 (ip : Ipv6Addr) : Ipv6Addr :=
  { octets := ip.octets.set 15 (if ip.octets.getD 15 0 = 1 then 2 else 1)
    length_eq := by rw [List.length_set]; exact ip.length_eq }

def applyAddrs (iface : Iface) (v4 : Option (Ipv4Addr × UInt8))
    (v6 : Option (Ipv6Addr × UInt8)) : Iface :=
  { addrs :=
      (v4.map fun (ip, p) => { address := .v4 ip, prefixLen := routablePrefixV4 p }).toList ++
        (v6.map fun (ip, p) => { address := .v6 ip, prefixLen := routablePrefixV6 p }).toList
    defaultIpv4Route :=
      match v4 with
      | some (ip, _) => some (gatewayV4 ip)
      | none => iface.defaultIpv4Route
    defaultIpv6Route :=
      match v6 with
      | some (ip, _) => some (gatewayV6 ip)
      | none => iface.defaultIpv6Route }

def allocPort (p : UInt16) : UInt16 × UInt16 :=
  (p, if p ≥ 65000 then 49152 else p + 1)

private def byteAt (pkt : List UInt8) (index : Nat) : UInt8 := pkt.getD index 0

private def wordAt (pkt : List UInt8) (index : Nat) : UInt16 :=
  (byteAt pkt index).toUInt16 <<< 8 ||| (byteAt pkt (index + 1)).toUInt16

private def ipv4At (pkt : List UInt8) (index : Nat) : Ipv4Addr :=
  { a := byteAt pkt index
    b := byteAt pkt (index + 1)
    c := byteAt pkt (index + 2)
    d := byteAt pkt (index + 3) }

/-- The length of the IPv4 header. -/
def ihl (pkt : List UInt8) : Nat := (byteAt pkt 0 &&& 0x0f).toNat * 4

def isTcpSyn (pkt : List UInt8) : Bool :=
  if pkt.length < 40 then false
  else if byteAt pkt 0 >>> 4 ≠ 4 then false
  else if byteAt pkt 9 ≠ 6 then false
  else if pkt.length < ihl pkt + 20 then false
  else
    let flags := byteAt pkt (ihl pkt + 13)
    flags &&& 0x02 ≠ 0 && flags &&& 0x10 = 0

/-- Destination and source of a SYN. -/
def parseTcpSyn (pkt : List UInt8) : Option (SocketAddr × SocketAddr) :=
  if pkt.length < 40 then none
  else if byteAt pkt 0 >>> 4 ≠ 4 then none
  else if pkt.length < ihl pkt + 20 then none
  else
    some
      ({ ip := .v4 (ipv4At pkt 16), port := wordAt pkt (ihl pkt + 2) },
        { ip := .v4 (ipv4At pkt 12), port := wordAt pkt (ihl pkt) })

private def ipv6At (pkt : List UInt8) (index : Nat) : Ipv6Addr :=
  { octets := (List.range 16).map fun offset => byteAt pkt (index + offset)
    length_eq := by rw [List.length_map, List.length_range] }

/-- The endpoint that a TCP SYN asks for, over either version of IP; only the history uses it. -/
def synEndpoint (pkt : List UInt8) : Option SocketAddr :=
  if isTcpSyn pkt then (parseTcpSyn pkt).map Prod.fst
  else if pkt.length ≥ 60 && byteAt pkt 0 >>> 4 = 6 && byteAt pkt 6 = 6 &&
      byteAt pkt 53 &&& 0x02 ≠ 0 && byteAt pkt 53 &&& 0x10 = 0 then
    some { ip := .v6 (ipv6At pkt 24), port := wordAt pkt 42 }
  else none

namespace NetStack

variable {net : Smoltcp}

/-- The stack that `spawn` hands to its loop. -/
def spawn (net : Smoltcp) (appQueue : Nat) (v4 : Option (Ipv4Addr × UInt8))
    (v6 : Option (Ipv6Addr × UInt8)) : NetStack net :=
  { iface := applyAddrs { addrs := [], defaultIpv4Route := none, defaultIpv6Route := none } v4 v6
    deviceRx := []
    deviceTx := []
    sockets := ∅
    tcpConns := ∅
    udpConns := ∅
    nextId := 1
    nextPort := 49152
    acceptTx := none
    appQueue := appQueue
    phase := .poll
    opens := 0
    trace := [] }

def emit (s : NetStack net) (outputs : List Output) : NetStack net :=
  { s with trace := s.trace ++ outputs }

def tcpSocket (s : NetStack net) (handle : Nat) : Option net.Tcp :=
  match s.sockets.lookup handle with
  | some (.tcp socket) => some socket
  | _ => none

def udpSocket (s : NetStack net) (handle : Nat) : Option net.Udp :=
  match s.sockets.lookup handle with
  | some (.udp socket) => some socket
  | _ => none

/-- The entry of a connection with its socket. -/
def conn (s : NetStack net) (id : Nat) : Option (Conn net) :=
  (s.tcpConns.lookup id).bind fun st =>
    (s.tcpSocket st.handle).map fun socket => { st := st, socket := socket }

def putConn (s : NetStack net) (id : Nat) (c : Conn net) : NetStack net :=
  { s with
    tcpConns := s.tcpConns.insert id c.st
    sockets := s.sockets.insert c.st.handle (.tcp c.socket) }

def dropConn (s : NetStack net) (id handle : Nat) : NetStack net :=
  { s with tcpConns := s.tcpConns.erase id, sockets := s.sockets.erase handle }

/-- A socket listens on the endpoint. -/
def listensOn (s : NetStack net) (endpoint : SocketAddr) : Bool :=
  s.tcpConns.entries.any fun entry =>
    match s.tcpSocket entry.2.handle with
    | some socket => net.listening socket == some endpoint
    | none => false

/-- What one poll brings to the socket behind each handle. -/
structure PollInput (net : Smoltcp) where
  segments : Nat → net.Segments
  datagrams : Nat → net.Datagrams

def pollSlot (input : PollInput net) (handle : Nat) : Slot net → Slot net
  | .tcp socket => .tcp (net.pollTcp (input.segments handle) socket)
  | .udp socket => .udp (net.pollUdp (input.datagrams handle) socket)

/-- The bytes that a poll adds to a connection's receive buffer. -/
def newBytes (segments : net.Segments) (socket : net.Tcp) : List UInt8 :=
  (net.received (net.pollTcp segments socket)).drop (net.received socket).length

def arrivals (s : NetStack net) (input : PollInput net) : List Output :=
  s.tcpConns.entries.flatMap fun entry =>
    match s.tcpSocket entry.2.handle with
    | some socket => [.arrived entry.1 (newBytes (input.segments entry.2.handle) socket)]
    | none => []

/-- `iface.poll` and the snapshot of the connections that `service_tcp` begins with, in the
map's order. A poll that panicked loses the packets of the device. -/
def poll (s : NetStack net) (input : PollInput net) (emitted : List (List UInt8))
    (panicked : Bool) (ids : List Nat) : NetStack net :=
  { s.emit (s.arrivals input) with
    sockets := Table.mapValues (pollSlot input) s.sockets
    deviceRx := []
    deviceTx := if panicked then [] else s.deviceTx ++ emitted
    phase := .tcp ids }

/-- Who takes a report: the opener that still waits, or the accept channel. -/
def owner (s : NetStack net) (ownerWaits : Bool) : Report → Bool
  | .quiet => false
  | .respond => ownerWaits
  | .accept => s.acceptTx.any Channel.hasRoom

/-- The accept channel after a connection has been looked at. -/
def acceptReported (s : NetStack net) (id : Nat) (c : Conn net) : Option (Channel AcceptedTcp) :=
  if !c.st.established && net.state c.socket == .established && c.st.report.1 == .accept then
    s.acceptTx.map fun channel =>
      let unspecified : SocketAddr := { ip := .v4 ⟨0, 0, 0, 0⟩, port := 0 }
      (channel.trySend
        { remote := (net.remoteEndpoint c.socket).getD unspecified
          endpoint := (net.localEndpoint c.socket).getD unspecified
          id := id }).getD channel
  else s.acceptTx

def serviceHead (s : NetStack net) (id : Nat) (rest : List Nat) (ownerWaits : Bool) :
    NetStack net :=
  match s.tcpConns.lookup id with
  | none => { s with phase := .tcp rest }
  | some st =>
      match s.tcpSocket st.handle with
      | none => { s with phase := .panicked }
      | some socket =>
          let c : Conn net := { st := st, socket := socket }
          let reported := { s with acceptTx := s.acceptReported id c }
          match c.head id (s.owner ownerWaits) with
          | (none, outputs) =>
              { (reported.dropConn id st.handle).emit outputs with phase := .tcp rest }
          | (some c, outputs) =>
              { (reported.putConn id c).emit outputs with phase := .receiving id 0 rest }

def receive (s : NetStack net) (id delivered : Nat) (rest : List Nat) : NetStack net :=
  match s.conn id with
  | none => { s with phase := .panicked }
  | some c =>
      match c.receive delivered with
      | .chunk c bytes =>
          { (s.putConn id c).emit [.delivered id bytes] with
            phase := .receiving id (delivered + 1) rest }
      | .stop c appGone => { s.putConn id c with phase := .finishing id appGone rest }

def finish (s : NetStack net) (id : Nat) (appGone : Bool) (rest : List Nat) : NetStack net :=
  match s.conn id with
  | none => { s with phase := .panicked }
  | some c =>
      match c.finish id appGone with
      | (none, outputs) => { (s.dropConn id c.st.handle).emit outputs with phase := .tcp rest }
      | (some c, outputs) => { (s.putConn id c).emit outputs with phase := .tcp rest }

def udpHead (s : NetStack net) (id : Nat) (rest : List Nat) : NetStack net :=
  match s.udpConns.lookup id with
  | none => { s with phase := .udp rest }
  | some _ => { s with phase := .udpReceiving id 0 rest }

/-- One turn of the receive loop of `service_udp`. -/
def udpReceive (s : NetStack net) (id delivered : Nat) (rest : List Nat) : NetStack net :=
  match s.udpConns.lookup id with
  | none => { s with phase := .panicked }
  | some st =>
      let stopped := { s with phase := .udp rest }
      if delivered < maxRecvChunks then
        if room : st.toApp.hasRoom = true then
          match s.udpSocket st.handle with
          | none => { s with phase := .panicked }
          | some socket =>
              if net.canRecvUdp socket then
                match net.recvUdp socket with
                | some (data, from_, socket) =>
                    { s with
                      udpConns := s.udpConns.insert id
                        { st with toApp := st.toApp.push (from_, data) room }
                      sockets := s.sockets.insert st.handle (.udp socket)
                      phase := .udpReceiving id (delivered + 1) rest }
                | none => stopped
              else stopped
        else stopped
      else stopped

/-- The socket of the accept path or of a command goes into the set under an unused handle. -/
def addTcp (s : NetStack net) (handle : Nat) (socket : net.Tcp) (connectResp : Bool)
    (output : Nat → Output) : NetStack net :=
  { s.emit [output s.nextId] with
    sockets := s.sockets.insert handle (.tcp socket)
    tcpConns := s.tcpConns.insert s.nextId (TcpState.new handle s.appQueue connectResp)
    nextId := s.nextId + 1 }

/-- In accept mode, a listening socket for the destination of the SYN that was awaited. -/
def intercept (s : NetStack net) (pkt : List UInt8) (handle : Nat) : NetStack net :=
  if s.acceptTx.isSome && isTcpSyn pkt then
    match parseTcpSyn pkt with
    | some (dst, _) =>
        match net.listen net.newTcp dst with
        | some socket => s.addTcp handle socket false (fun id => .listened id dst)
        | none => s
    | none => s
  else s

/-- `device.rx.push_back`; the history notes whether a SYN finds a listening socket. -/
def ingest (s : NetStack net) (pkt : List UInt8) : NetStack net :=
  { s.emit [.ingested pkt s.acceptTx.isSome ((synEndpoint pkt).any s.listensOn)] with
    deviceRx := s.deviceRx ++ [pkt] }

def openTcp (s : NetStack net) (dst : SocketAddr) (handle : Nat) : NetStack net :=
  let (localPort, nextPort) := allocPort s.nextPort
  let allocated := { s with nextPort := nextPort, opens := s.opens + 1 }
  match net.connect s.iface net.newTcp dst localPort with
  | none => allocated.emit [.openFailed s.opens]
  | some socket =>
      allocated.addTcp handle socket true (fun id => .connecting id dst localPort s.opens)

def openUdp (s : NetStack net) (handle : Nat) : NetStack net :=
  let (localPort, nextPort) := allocPort s.nextPort
  let allocated := { s with nextPort := nextPort, opens := s.opens + 1 }
  match net.bind net.newUdp localPort with
  | none => allocated.emit [.openFailed s.opens]
  | some socket =>
      { allocated.emit [.bound s.nextId localPort s.opens] with
        sockets := s.sockets.insert handle (.udp socket)
        udpConns := s.udpConns.insert s.nextId
          { handle := handle, toApp := Channel.empty _ s.appQueue }
        nextId := s.nextId + 1 }

def handleCmd (s : NetStack net) (cmd : Cmd) (handle : Nat) : NetStack net :=
  match cmd with
  | .openTcp dst => s.openTcp dst handle
  | .openUdp => s.openUdp handle
  | .setAddrs v4 v6 => { s with iface := applyAddrs s.iface v4 v6 }
  | .enableAccept => { s with acceptTx := some (Channel.empty _ s.appQueue) }

def handleData (s : NetStack net) : DataIn → NetStack net
  | .tcp id data =>
      match s.tcpConns.lookup id with
      | some st =>
          { s.emit [.accepted id data (!st.halfClosed)] with
            tcpConns := s.tcpConns.insert id { st with pending := st.pending ++ data } }
      | none => s
  | .tcpClose id =>
      match s.tcpConns.lookup id with
      | some st =>
          { s.emit [.appClosed id] with
            tcpConns := s.tcpConns.insert id { st with halfClosed := true } }
      | none => s
  | .udp id dst data =>
      match s.udpConns.lookup id with
      | some st =>
          match s.udpSocket st.handle with
          | none => { s with phase := .panicked }
          | some socket =>
              match net.sendDatagram socket data dst with
              | some socket => { s with sockets := s.sockets.insert st.handle (.udp socket) }
              | none => s
      | none => s
  | .udpClose id =>
      match s.udpConns.lookup id with
      | some st =>
          { s with udpConns := s.udpConns.erase id, sockets := s.sockets.erase st.handle }
      | none => s

/-- An app that holds its receiver takes a chunk from the channel, or drops the receiver. -/
def appMoves (s : NetStack net) (id : Nat) (drops : Bool) : Option (NetStack net) :=
  match s.tcpConns.lookup id with
  | none => none
  | some st =>
      if st.fromStackRx || !st.toApp.receiverAlive then none
      else if drops then
        some
          { s.emit [.appDropped id] with
            tcpConns := s.tcpConns.insert id { st with toApp := st.toApp.dropReceiver } }
      else
        st.toApp.receive.map fun taken =>
          { s with tcpConns := s.tcpConns.insert id { st with toApp := taken.2 } }

/-- The same at the other end of a UDP association. -/
def udpAppMoves (s : NetStack net) (id : Nat) (drops : Bool) : Option (NetStack net) :=
  match s.udpConns.lookup id with
  | none => none
  | some st =>
      if st.toApp.receiverAlive then
        let channel : Option (Channel (SocketAddr × List UInt8)) :=
          if drops then some st.toApp.dropReceiver else st.toApp.receive.map Prod.snd
        channel.map fun toApp =>
          { s with udpConns := s.udpConns.insert id { st with toApp := toApp } }
      else none

/-- The owner of the accept channel takes a connection from it, or drops the receiver. -/
def acceptMoves (s : NetStack net) (drops : Bool) : Option (NetStack net) :=
  match s.acceptTx with
  | none => none
  | some channel =>
      if channel.receiverAlive then
        let moved := if drops then some channel.dropReceiver else channel.receive.map Prod.snd
        moved.map fun channel => { s with acceptTx := some channel }
      else none

/-- The handle is not in use. -/
def handleFree (s : NetStack net) (handle : Nat) : Bool :=
  (s.sockets.lookup handle).isNone

end NetStack

/-- One atomic piece of the loop, or a move of an app. `handle` is where the socket set puts a
new socket; the lists of ids are the order in which a map yields its keys. -/
inductive Event (net : Smoltcp) where
  | poll (input : NetStack.PollInput net) (emitted : List (List UInt8)) (panicked : Bool)
      (ids : List Nat)
  | serviceHead (ownerWaits : Bool)
  | receive
  | finish
  | beginUdp (ids : List Nat)
  | udpHead
  | udpReceive
  | flush (outboundClosed : Bool)
  | inbound (pkt : List UInt8) (handle : Nat)
  | drained (pkt : List UInt8)
  | cmd (cmd : Cmd) (handle : Nat)
  | data (data : DataIn)
  | moreData (data : DataIn)
  | again
  | stop
  | app (id : Nat) (drops : Bool)
  | udpApp (id : Nat) (drops : Bool)
  | acceptApp (drops : Bool)

/-- `again` ends a batch of packets or of data, or is the timer. -/
def step {net : Smoltcp} (s : NetStack net) : Event net → Option (NetStack net)
  | .poll input emitted panicked ids =>
      if s.phase = .poll ∧ ids.Perm s.tcpConns.keys then
        some (s.poll input emitted panicked ids)
      else none
  | .serviceHead ownerWaits =>
      match s.phase with
      | .tcp (id :: rest) => some (s.serviceHead id rest ownerWaits)
      | _ => none
  | .receive =>
      match s.phase with
      | .receiving id delivered rest => some (s.receive id delivered rest)
      | _ => none
  | .finish =>
      match s.phase with
      | .finishing id appGone rest => some (s.finish id appGone rest)
      | _ => none
  | .beginUdp ids =>
      if s.phase = .tcp [] ∧ ids.Perm s.udpConns.keys then some { s with phase := .udp ids }
      else none
  | .udpHead =>
      match s.phase with
      | .udp (id :: rest) => some (s.udpHead id rest)
      | _ => none
  | .udpReceive =>
      match s.phase with
      | .udpReceiving id delivered rest => some (s.udpReceive id delivered rest)
      | _ => none
  | .flush outboundClosed =>
      if s.phase = .udp [] then
        some
          { s with
            deviceTx := if outboundClosed then s.deviceTx.tail else []
            phase := .select }
      else none
  | .inbound pkt handle =>
      if s.phase = .select ∧ s.handleFree handle then
        some { (s.intercept pkt handle).ingest pkt with phase := .ingesting 0 }
      else none
  | .drained pkt =>
      match s.phase with
      | .ingesting count =>
          if count < maxIngestPerTick then
            some { s.ingest pkt with phase := .ingesting (count + 1) }
          else none
      | _ => none
  | .cmd cmd handle =>
      if s.phase = .select ∧ s.handleFree handle then
        some { s.handleCmd cmd handle with phase := .poll }
      else none
  | .data data =>
      if s.phase = .select then some ({ s with phase := .draining }.handleData data) else none
  | .moreData data =>
      if s.phase = .draining then some (s.handleData data) else none
  | .again =>
      match s.phase with
      | .select => some { s with phase := .poll }
      | .ingesting _ => some { s with phase := .poll }
      | .draining => some { s with phase := .poll }
      | _ => none
  | .stop => if s.phase = .select then some { s with phase := .stopped } else none
  | .app id drops => s.appMoves id drops
  | .udpApp id drops => s.udpAppMoves id drops
  | .acceptApp drops => s.acceptMoves drops

end MolidoVpn.Netstack
