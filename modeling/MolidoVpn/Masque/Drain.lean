import MolidoVpn.Address
import MolidoVpn.Masque.Chunking

/-!
`drain_capsules` over HTTP/2 and over HTTP/3: the loop that takes every complete
capsule off the parser, hands the packets of DATAGRAMs to the inbound queue and
the addresses of ADDRESS_ASSIGN to the address channel.
-/

namespace MolidoVpn.Masque

open Varint (getVarint)

/-- An address for the interface, as the address channel carries it. -/
structure AssignedAddr where
  ip : IpAddr
  prefixLen : UInt8
  deriving DecidableEq

def connectIpContextId : Nat := 0

def looksLikeIpPacket : List UInt8 → Bool
  | [] => false
  | first :: rest => (first >>> 4 == 4 || first >>> 4 == 6) && decide (20 ≤ (first :: rest).length)

/-- The packet of a DATAGRAM, with or without the context id in front of it. -/
def stripDatagramContext (payload : List UInt8) : Option (List UInt8) :=
  if payload.isEmpty then none
  else
    let bare := if looksLikeIpPacket payload then some payload else none
    match getVarint payload with
    | none => bare
    | some (ctx, inner) =>
        if ctx = connectIpContextId ∧ looksLikeIpPacket inner = true then some inner else bare

def bytesToIp (version : UInt8) (bytes : List UInt8) : Option IpAddr :=
  if version = 4 then
    match bytes with
    | [a, b, c, d] => some (.v4 ⟨a, b, c, d⟩)
    | _ => none
  else if version = 6 then
    if length : bytes.length = 16 then some (.v6 ⟨bytes, length⟩) else none
  else none

/-- The addresses of an ADDRESS_ASSIGN that are offered to the address channel. -/
def assignedAddrs (entries : List AssignedAddress) : List AssignedAddr :=
  entries.filterMap fun a =>
    (bytesToIp a.ipVersion a.address).map fun ip => { ip := ip, prefixLen := a.prefixLen }

/-- The answer of `try_send`. -/
inductive SendResult where
  | sent
  | full
  | closed
  deriving DecidableEq

/-- What one call leaves and did: packets and addresses are those offered to their channels. -/
structure Drained where
  parser : CapsuleParser
  delivered : Bool
  forwarded : List (List UInt8 × SendResult)
  addrs : List AssignedAddr

namespace Drained

def idle (parser : CapsuleParser) : Drained :=
  { parser := parser, delivered := false, forwarded := [], addrs := [] }

def forward (rest : Drained) (pkt : List UInt8) (result : SendResult) : Drained :=
  { rest with delivered := true, forwarded := (pkt, result) :: rest.forwarded }

def assign (rest : Drained) (entries : List AssignedAddress) : Drained :=
  { rest with addrs := assignedAddrs entries ++ rest.addrs }

end Drained

namespace H2

/-- `send` answers the calls of `try_send` on the inbound queue, in order. -/
def drainFor : Nat → (Nat → SendResult) → CapsuleParser → Drained
  | 0, _, parser => .idle parser
  | turns + 1, send, parser =>
      match parser.next with
      | (.ok (some (.datagram payload)), parser) =>
          match stripDatagramContext payload with
          | none => drainFor turns send parser
          | some pkt =>
              match send 0 with
              | .closed => (Drained.idle parser).forward pkt .closed
              | result => (drainFor turns (fun call => send (call + 1)) parser).forward pkt result
      | (.ok (some (.addressAssign entries)), parser) =>
          (drainFor turns send parser).assign entries
      | (.ok (some _), parser) => drainFor turns send parser
      | (.ok none, parser) => .idle parser
      | (.error _, parser) => .idle parser

/-- Every turn that goes on has taken a byte. -/
def drainCapsules (send : Nat → SendResult) (parser : CapsuleParser) : Drained :=
  drainFor parser.buf.length send parser

end H2

namespace H3

/-- Packets travel in QUIC datagrams here; a DATAGRAM capsule is passed over. -/
def drainFor : Nat → CapsuleParser → Drained
  | 0, parser => .idle parser
  | turns + 1, parser =>
      match parser.next with
      | (.ok (some (.addressAssign entries)), parser) => (drainFor turns parser).assign entries
      | (.ok (some _), parser) => drainFor turns parser
      | (.ok none, parser) => .idle parser
      | (.error _, parser) => .idle parser

def drainCapsules (parser : CapsuleParser) : Drained := drainFor parser.buf.length parser

end H3

/-- The packet of a capsule, if it is a DATAGRAM that holds one. -/
def packetOf (capsule : Nat × List UInt8) : Option (List UInt8) :=
  if capsule.1 = capsuleDatagram then stripDatagramContext capsule.2 else none

/-- The addresses of a capsule, if it is an ADDRESS_ASSIGN that parses. -/
def addrsOf (capsule : Nat × List UInt8) : List AssignedAddr :=
  match decodeCapsule capsule.1 capsule.2 with
  | .ok (.addressAssign entries) => assignedAddrs entries
  | _ => []

def Parses (capsule : Nat × List UInt8) : Prop :=
  ∃ meaning, decodeCapsule capsule.1 capsule.2 = .ok meaning

private theorem decodeCapsule_datagram_only {capsule : Nat × List UInt8} {payload : List UInt8}
    (decoded : decodeCapsule capsule.1 capsule.2 = .ok (.datagram payload)) :
    capsule = (capsuleDatagram, payload) := by
  unfold decodeCapsule at decoded
  split at decoded
  · cases parsed : parseAddressAssign capsule.2 <;> rw [parsed] at decoded <;> cases decoded
  · split at decoded
    · cases decoded
    · split at decoded
      · cases parsed : parseRouteAdvertisement capsule.2 <;> rw [parsed] at decoded <;> cases decoded
      · split at decoded
        case isTrue kind =>
            cases decoded
            rw [← kind]
        case isFalse => cases decoded

private theorem packetOf_other {capsule : Nat × List UInt8} {meaning : Capsule}
    (decoded : decodeCapsule capsule.1 capsule.2 = .ok meaning)
    (other : ∀ payload, meaning ≠ .datagram payload) : packetOf capsule = none := by
  rw [packetOf]
  split
  · rename_i kind
    rw [kind] at decoded
    exact absurd (Except.ok.inj decoded).symm (other capsule.2)
  · rfl

/-- What draining a buffer means when its capsules all parse: everything complete is taken, and
what is offered to the inbound queue and to the address channel is what the capsules hold. -/
structure TakesAll (packet : Nat × List UInt8 → Option (List UInt8)) (turns : Nat)
    (parser : CapsuleParser) (drained : Drained) : Prop where
  residue : drained.parser.buf = (frames.drainFor turns parser.buf).2
  packets : drained.forwarded.map Prod.fst =
    (frames.drainFor turns parser.buf).1.filterMap packet
  addrs : drained.addrs = (frames.drainFor turns parser.buf).1.flatMap addrsOf
  answers : ∀ offered ∈ drained.forwarded, offered.2 ≠ .closed

namespace TakesAll

variable {packet : Nat × List UInt8 → Option (List UInt8)} {turns : Nat} {parser : CapsuleParser}
  {frame : Nat × List UInt8} {rest : List UInt8} {drained : Drained}

private theorem stop (incomplete : frames.next parser.buf = none) :
    TakesAll packet (turns + 1) parser (.idle parser) := by
  constructor
  case answers => exact fun _ none_ => absurd none_ List.not_mem_nil
  all_goals
    simp only [Framing.Splitter.drainFor, incomplete]
    rfl

private theorem skip (complete : frames.next parser.buf = some (frame, rest))
    (noPacket : packet frame = none) (noAddrs : addrsOf frame = [])
    (later : TakesAll packet turns { buf := rest } drained) :
    TakesAll packet (turns + 1) parser drained := by
  constructor
  · simp only [Framing.Splitter.drainFor, complete, later.residue]
  · simp only [Framing.Splitter.drainFor, complete, later.packets, List.filterMap_cons, noPacket]
  · simp only [Framing.Splitter.drainFor, complete, later.addrs, List.flatMap_cons, noAddrs,
      List.nil_append]
  · exact later.answers

private theorem forward {pkt : List UInt8} (complete : frames.next parser.buf = some (frame, rest))
    (held : packet frame = some pkt) (noAddrs : addrsOf frame = []) {result : SendResult}
    (notClosed : result ≠ .closed) (later : TakesAll packet turns { buf := rest } drained) :
    TakesAll packet (turns + 1) parser (drained.forward pkt result) := by
  constructor
  · simp only [Framing.Splitter.drainFor, complete, Drained.forward, later.residue]
  · simp only [Framing.Splitter.drainFor, complete, Drained.forward, List.map_cons, later.packets,
      List.filterMap_cons, held]
  · simp only [Framing.Splitter.drainFor, complete, Drained.forward, later.addrs,
      List.flatMap_cons, noAddrs, List.nil_append]
  · intro offered member
    rcases List.mem_cons.mp member with rfl | old
    · exact notClosed
    · exact later.answers offered old

private theorem assign {entries : List AssignedAddress}
    (complete : frames.next parser.buf = some (frame, rest))
    (noPacket : packet frame = none) (held : addrsOf frame = assignedAddrs entries)
    (later : TakesAll packet turns { buf := rest } drained) :
    TakesAll packet (turns + 1) parser (drained.assign entries) := by
  constructor
  · simp only [Framing.Splitter.drainFor, complete, Drained.assign, later.residue]
  · simp only [Framing.Splitter.drainFor, complete, Drained.assign, later.packets,
      List.filterMap_cons, noPacket]
  · simp only [Framing.Splitter.drainFor, complete, Drained.assign, later.addrs,
      List.flatMap_cons, held]
  · exact later.answers

end TakesAll

theorem H2.drainFor_takesAll {turns : Nat} {send : Nat → SendResult} {parser : CapsuleParser}
    (parses : ∀ capsule ∈ (frames.drainFor turns parser.buf).1, Parses capsule)
    (opened : ∀ call, send call ≠ .closed) :
    TakesAll packetOf turns parser (H2.drainFor turns send parser) := by
  induction turns generalizing send parser with
  | zero => exact ⟨rfl, rfl, rfl, fun _ none_ => absurd none_ List.not_mem_nil⟩
  | succ turns ih =>
      cases next : frames.next parser.buf with
      | none =>
          rw [H2.drainFor, CapsuleParser.next_eq, next]
          exact .stop next
      | some front =>
          obtain ⟨frame, rest⟩ := front
          simp only [Framing.Splitter.drainFor, next, List.forall_mem_cons] at parses
          obtain ⟨⟨meaning, decoded⟩, others⟩ := parses
          have later {send : Nat → SendResult} (opened : ∀ call, send call ≠ .closed) :=
            @ih send { buf := rest } others opened
          rw [H2.drainFor, CapsuleParser.next_eq, next]
          simp only [decoded, Except.map]
          cases meaning with
          | datagram payload =>
              have kind := decodeCapsule_datagram_only decoded
              have noAddrs : addrsOf frame = [] := by rw [addrsOf, decoded]
              have held : packetOf frame = stripDatagramContext payload := by
                rw [kind, packetOf, if_pos rfl]
              cases stripped : stripDatagramContext payload with
              | none =>
                  simp only [stripped]
                  exact .skip next (held.trans stripped) noAddrs (later opened)
              | some pkt =>
                  have shifted : ∀ call, send (call + 1) ≠ .closed := fun call => opened _
                  cases answer : send 0 with
                  | closed => exact absurd answer (opened 0)
                  | sent =>
                      simp only [stripped]
                      exact .forward next (held.trans stripped) noAddrs
                        (fun same => by cases same) (later shifted)
                  | full =>
                      simp only [stripped]
                      exact .forward next (held.trans stripped) noAddrs
                        (fun same => by cases same) (later shifted)
          | addressAssign entries =>
              have noPacket : packetOf frame = none :=
                packetOf_other decoded fun _ same => by cases same
              exact .assign next noPacket (by rw [addrsOf, decoded]) (later opened)
          | addressRequest =>
              exact .skip next (packetOf_other decoded fun _ same => by cases same)
                (by rw [addrsOf, decoded]) (later opened)
          | routeAdvertisement routes =>
              exact .skip next (packetOf_other decoded fun _ same => by cases same)
                (by rw [addrsOf, decoded]) (later opened)
          | unknown kind payload =>
              exact .skip next (packetOf_other decoded fun _ same => by cases same)
                (by rw [addrsOf, decoded]) (later opened)

theorem H3.drainFor_takesAll {turns : Nat} {parser : CapsuleParser}
    (parses : ∀ capsule ∈ (frames.drainFor turns parser.buf).1, Parses capsule) :
    TakesAll (fun _ => none) turns parser (H3.drainFor turns parser) := by
  induction turns generalizing parser with
  | zero => exact ⟨rfl, rfl, rfl, fun _ none_ => absurd none_ List.not_mem_nil⟩
  | succ turns ih =>
      cases next : frames.next parser.buf with
      | none =>
          rw [H3.drainFor, CapsuleParser.next_eq, next]
          exact .stop next
      | some front =>
          obtain ⟨frame, rest⟩ := front
          simp only [Framing.Splitter.drainFor, next, List.forall_mem_cons] at parses
          obtain ⟨⟨meaning, decoded⟩, others⟩ := parses
          have later := @ih { buf := rest } others
          rw [H3.drainFor, CapsuleParser.next_eq, next]
          simp only [decoded, Except.map]
          have noAddrs (other : ∀ entries, meaning ≠ .addressAssign entries) :
              addrsOf frame = [] := by
            rw [addrsOf, decoded]
            cases meaning with
            | addressAssign entries => exact absurd rfl (other entries)
            | _ => rfl
          cases meaning with
          | addressAssign entries => exact .assign next rfl (by rw [addrsOf, decoded]) later
          | datagram payload => exact .skip next rfl (noAddrs fun _ same => by cases same) later
          | addressRequest => exact .skip next rfl (noAddrs fun _ same => by cases same) later
          | routeAdvertisement routes =>
              exact .skip next rfl (noAddrs fun _ same => by cases same) later
          | unknown kind payload =>
              exact .skip next rfl (noAddrs fun _ same => by cases same) later

/-- What is read before one call of `drain_capsules` (a chunk over HTTP/2, all that `recv_body`
gives over HTTP/3), and how the inbound queue answers during it. -/
structure StreamRead where
  chunks : List (List UInt8)
  send : Nat → SendResult

def CapsuleParser.pushAll (parser : CapsuleParser) (chunks : List (List UInt8)) : CapsuleParser :=
  chunks.foldl push parser

/-- `second` follows `first`. -/
def Drained.andThen (first second : Drained) : Drained :=
  { parser := second.parser
    delivered := first.delivered || second.delivered
    forwarded := first.forwarded ++ second.forwarded
    addrs := first.addrs ++ second.addrs }

section Receive

variable (drain : (Nat → SendResult) → CapsuleParser → Drained)

/-- All that is read is pushed and drained, read after read. -/
def receive (parser : CapsuleParser) : List StreamRead → Drained
  | [] => .idle parser
  | read :: reads =>
      let drained := drain read.send (parser.pushAll read.chunks)
      drained.andThen (receive drained.parser reads)

/-- No push overflows the buffer. -/
def NoOverflow (parser : CapsuleParser) : List StreamRead → Prop
  | [] => True
  | read :: reads =>
      parser.buf.length + read.chunks.flatten.length ≤ maxCapsuleBuf ∧
        NoOverflow (drain read.send (parser.pushAll read.chunks)).parser reads

instance : (parser : CapsuleParser) → (reads : List StreamRead) →
    Decidable (NoOverflow drain parser reads)
  | _, [] => isTrue trivial
  | parser, read :: reads =>
      have := instDecidableNoOverflow (drain read.send (parser.pushAll read.chunks)).parser reads
      inferInstanceAs (Decidable (_ ∧ _))

def received (reads : List StreamRead) : List UInt8 :=
  (reads.map fun read => read.chunks.flatten).flatten

def Opened (reads : List StreamRead) : Prop := ∀ read ∈ reads, ∀ call, read.send call ≠ .closed

theorem CapsuleParser.pushAll_of_room {parser : CapsuleParser} {chunks : List (List UInt8)}
    (room : parser.buf.length + chunks.flatten.length ≤ maxCapsuleBuf) :
    parser.pushAll chunks = { buf := parser.buf ++ chunks.flatten } := by
  induction chunks generalizing parser with
  | nil =>
      rw [List.flatten_nil, List.append_nil]
      rfl
  | cons chunk chunks ih =>
      rw [List.flatten_cons, List.length_append] at room
      have first : parser.push chunk = { buf := parser.buf ++ chunk } :=
        push_of_room (by omega)
      have others : (parser.buf ++ chunk).length + chunks.flatten.length ≤ maxCapsuleBuf := by
        rw [List.length_append]
        omega
      change (parser.push chunk).pushAll chunks = _
      rw [first, ih others, List.flatten_cons, List.append_assoc]

variable {drain} {packet : Nat × List UInt8 → Option (List UInt8)}

/-- What holds of one drain holds of all that is received, however it is cut. -/
theorem receive_takesAll
    (one : ∀ send parser, (∀ capsule ∈ (frames.drain parser.buf).1, Parses capsule) →
      (∀ call, send call ≠ .closed) →
      TakesAll packet parser.buf.length parser (drain send parser))
    {parser : CapsuleParser} {reads : List StreamRead} (start : frames.next parser.buf = none)
    (fits : NoOverflow drain parser reads) (opened : Opened reads)
    (parses : ∀ capsule ∈ (frames.drain (parser.buf ++ received reads)).1, Parses capsule) :
    let whole := parser.buf ++ received reads
    TakesAll packet whole.length { buf := whole } (receive drain parser reads) := by
  induction reads generalizing parser with
  | nil =>
      have empty : parser.buf ++ received [] = parser.buf := List.append_nil _
      have none_ := Framing.Splitter.drain_of_none start
      simp only [empty]
      rw [Framing.Splitter.drain] at none_
      constructor
      case answers => exact fun _ none_ => absurd none_ List.not_mem_nil
      all_goals simp only [none_, receive, Drained.idle]
      all_goals rfl
  | cons read reads ih =>
      obtain ⟨room, later⟩ := fits
      rw [CapsuleParser.pushAll_of_room room] at later
      have split : parser.buf ++ received (read :: reads) =
          (parser.buf ++ read.chunks.flatten) ++ received reads := by
        simp only [received, List.map_cons, List.flatten_cons, List.append_assoc]
      have joined := @Framing.Splitter.drain_append _ _ frames
        (parser.buf ++ read.chunks.flatten) (received reads)
      simp only [split]
      rw [split, joined] at parses
      simp only [List.mem_append] at parses
      have first := one read.send { buf := parser.buf ++ read.chunks.flatten }
        (fun capsule member => parses capsule (Or.inl member))
        (opened read List.mem_cons_self)
      have residue : (drain read.send { buf := parser.buf ++ read.chunks.flatten }).parser.buf =
          (frames.drain (parser.buf ++ read.chunks.flatten)).2 := first.residue
      have others := ih
        (by rw [residue]; exact Framing.Splitter.next_residue _) later
        (fun other member => opened other (List.mem_cons_of_mem read member))
        (by
          rw [residue]
          exact fun capsule member => parses capsule (Or.inr member))
      simp only [residue] at others
      have step : receive drain parser (read :: reads) =
          (drain read.send { buf := parser.buf ++ read.chunks.flatten }).andThen
            (receive drain
              (drain read.send { buf := parser.buf ++ read.chunks.flatten }).parser reads) := by
        simp only [receive, CapsuleParser.pushAll_of_room room]
      rw [step]
      change frames.drain _ = _ at joined
      simp only [Framing.Splitter.drain] at joined first others
      constructor
      · simp only [Drained.andThen, joined, others.residue]
      · simp only [Drained.andThen, joined, List.map_append, first.packets, others.packets,
          List.filterMap_append]
      · simp only [Drained.andThen, joined, first.addrs, others.addrs, List.flatMap_append]
      · intro offered member
        rcases List.mem_append.mp member with early | late
        · exact first.answers offered early
        · exact others.answers offered late

end Receive

/-- While the queue is open, nothing overflows and every capsule parses, each drain takes all that
is complete. Over HTTP/2 the packets are offered in order, and lost only to a full queue; over
HTTP/3 none is offered. -/
theorem capsules_drained (reads : List StreamRead) (opened : Opened reads)
    (parses : ∀ capsule ∈ (frames.drain (received reads)).1, Parses capsule) :
    (NoOverflow H2.drainCapsules CapsuleParser.new reads →
      nextFrame (receive H2.drainCapsules CapsuleParser.new reads).parser.buf = none ∧
      (receive H2.drainCapsules CapsuleParser.new reads).forwarded.map Prod.fst =
        (frames.drain (received reads)).1.filterMap packetOf ∧
      ∀ offered ∈ (receive H2.drainCapsules CapsuleParser.new reads).forwarded,
        offered.2 ≠ .closed) ∧
    (NoOverflow (fun _ => H3.drainCapsules) CapsuleParser.new reads →
      nextFrame (receive (fun _ => H3.drainCapsules) CapsuleParser.new reads).parser.buf = none ∧
      (receive (fun _ => H3.drainCapsules) CapsuleParser.new reads).forwarded = []) := by
  have start : frames.next CapsuleParser.new.buf = none := Framing.Splitter.next_nil
  constructor
  · intro fits
    have taken : TakesAll packetOf (received reads).length { buf := received reads }
        (receive H2.drainCapsules CapsuleParser.new reads) :=
      receive_takesAll (fun _ _ parses opened => H2.drainFor_takesAll parses opened) start fits
        opened parses
    refine ⟨?_, taken.packets, taken.answers⟩
    rw [taken.residue]
    exact @Framing.Splitter.next_residue _ _ frames (received reads)
  · intro fits
    have taken : TakesAll (fun _ => none) (received reads).length { buf := received reads }
        (receive (fun _ => H3.drainCapsules) CapsuleParser.new reads) :=
      receive_takesAll (fun _ _ parses _ => H3.drainFor_takesAll parses) start fits opened parses
    constructor
    · rw [taken.residue]
      exact @Framing.Splitter.next_residue _ _ frames (received reads)
    · have empty := taken.packets
      rw [List.filterMap_none] at empty
      exact List.map_eq_nil_iff.mp empty

/-- Two DATAGRAMs in three chunks, in the second of which the queue is full. -/
def twoReads : List StreamRead :=
  [{ chunks := [[0, 20, 69] ++ List.replicate 19 1, [0, 20, 69]], send := fun _ => .sent },
    { chunks := [List.replicate 19 2], send := fun _ => .full }]

theorem capsules_drained_two :
    (receive H2.drainCapsules CapsuleParser.new twoReads).forwarded.map Prod.fst =
      [69 :: List.replicate 19 1, 69 :: List.replicate 19 2] := by
  have opened : Opened twoReads := by
    intro read member call
    rcases List.mem_cons.mp member with rfl | last
    · exact fun same => by cases same
    · rw [List.mem_singleton.mp last]
      exact fun same => by cases same
  have datagrams : frames.drain (received twoReads) =
      ([(0, 69 :: List.replicate 19 1), (0, 69 :: List.replicate 19 2)], []) := by decide
  have parses : ∀ capsule ∈ (frames.drain (received twoReads)).1, Parses capsule := by
    rw [datagrams]
    intro capsule member
    rcases List.mem_cons.mp member with rfl | last
    · exact ⟨_, rfl⟩
    · rw [List.mem_singleton.mp last]
      exact ⟨_, rfl⟩
  have offered := ((capsules_drained twoReads opened parses).1 (by decide)).2.1
  rw [offered, datagrams]
  decide

/-- A packet is dropped when the queue is full; over HTTP/3 a DATAGRAM capsule is never offered. -/
theorem datagrams_not_forwarded :
    (¬∀ reads, Opened reads → NoOverflow H2.drainCapsules CapsuleParser.new reads →
      ((receive H2.drainCapsules CapsuleParser.new reads).forwarded.filter fun offered =>
        offered.2 = .sent).map Prod.fst = (frames.drain (received reads)).1.filterMap packetOf) ∧
    ¬∀ reads, Opened reads → NoOverflow (fun _ => H3.drainCapsules) CapsuleParser.new reads →
      ((receive (fun _ => H3.drainCapsules) CapsuleParser.new reads).forwarded.filter
        fun offered => offered.2 = .sent).map Prod.fst =
        (frames.drain (received reads)).1.filterMap packetOf := by
  constructor
  · intro claim
    have sent := claim [{ chunks := [[0, 20, 69] ++ List.replicate 19 0], send := fun _ => .full }]
      (fun read member call same => by
        rw [List.mem_singleton.mp member] at same
        cases same) (by decide)
    exact absurd sent (by decide)
  · intro claim
    have sent := claim [{ chunks := [[0, 20, 69] ++ List.replicate 19 0], send := fun _ => .sent }]
      (fun read member call same => by
        rw [List.mem_singleton.mp member] at same
        cases same) (by decide)
    exact absurd sent (by decide)

end MolidoVpn.Masque
