import MolidoVpn.Netstack.Buffered
import MolidoVpn.Netstack.Grants
import MolidoVpn.Netstack.Handles

/-!
The local ports of the sockets that commands open: the number of an allocation
fixes its port, and two allocations share a port when the allocator has come
round its range between them.
-/

namespace MolidoVpn.Netstack

open Buffered (sockets pollEvent connecting turn)
open Transition (Run ofNext execute run_of_execute)

variable {net : Smoltcp}

/-- The number of ports from 49152 to 65000. -/
def portRange : Nat := 15849

/-- The port of an allocation. -/
def portOf (number : Nat) : UInt16 := UInt16.ofNat (49152 + number % portRange)

private theorem portOf_toNat (number : Nat) :
    (portOf number).toNat = 49152 + number % portRange := by
  have below : number % portRange < 15849 := Nat.mod_lt _ (by decide)
  rw [portOf, UInt16.toNat_ofNat']
  omega

theorem portOf_eq_iff {number other : Nat} :
    portOf number = portOf other ↔ number % portRange = other % portRange := by
  rw [← UInt16.toNat_inj, portOf_toNat, portOf_toNat]
  omega

theorem allocPort_portOf (number : Nat) :
    allocPort (portOf number) = (portOf number, portOf (number + 1)) := by
  have below : number % portRange < 15849 := Nat.mod_lt _ (by decide)
  have here := portOf_toNat number
  have next := portOf_toNat (number + 1)
  have turn : (number + 1) % portRange =
      if number % portRange = 15848 then 0 else number % portRange + 1 := by
    unfold portRange
    split <;> omega
  have last : portOf number ≥ 65000 ↔ number % portRange = 15848 := by
    rw [ge_iff_le, UInt16.le_iff_toNat_le, here]
    change 65000 ≤ 49152 + number % portRange ↔ _
    omega
  unfold allocPort
  congr 1
  rw [← UInt16.toNat_inj, next, turn]
  by_cases wraps : number % portRange = 15848
  · rw [if_pos (last.mpr wraps), if_pos wraps]
    rfl
  · rw [if_neg (mt last.mp wraps), if_neg wraps, UInt16.toNat_add, here]
    change (49152 + number % portRange + 1) % 65536 = _
    omega

namespace NetStack

/-- A TCP socket that a command opened and that is still in the set. -/
structure LiveTcp (s : NetStack net) (id : Nat) (remote : SocketAddr) (port : UInt16)
    (number : Nat) : Prop where
  opened : .connecting id remote port number ∈ s.trace
  live : id ∈ s.tcpConns

/-- A UDP socket that is still in the set. -/
structure LiveUdp (s : NetStack net) (id : Nat) (port : UInt16) (number : Nat) : Prop where
  opened : .bound id port number ∈ s.trace
  live : id ∈ s.udpConns

/-- No two live sockets towards one remote endpoint, and no two live UDP sockets, have the same
local port. -/
structure PortsDistinct (s : NetStack net) : Prop where
  tcp : ∀ id other remote port number number', s.LiveTcp id remote port number →
    s.LiveTcp other remote port number' → id = other
  udp : ∀ id other port number number', s.LiveUdp id port number →
    s.LiveUdp other port number' → id = other

/-- No two such sockets were opened a multiple of `portRange` allocations apart. -/
structure WithinOneTurn (s : NetStack net) : Prop where
  tcp : ∀ id other remote port port' number number', s.LiveTcp id remote port number →
    s.LiveTcp other remote port' number' → number % portRange = number' % portRange → id = other
  udp : ∀ id other port port' number number', s.LiveUdp id port number →
    s.LiveUdp other port' number' → number % portRange = number' % portRange → id = other

/-- Every port given out is that of its number, and so is the next one. -/
structure PortsInOrder (s : NetStack net) : Prop where
  next : s.nextPort = portOf s.opens
  tcp : ∀ id remote port number, .connecting id remote port number ∈ s.trace →
    port = portOf number
  udp : ∀ id port number, .bound id port number ∈ s.trace → port = portOf number

end NetStack

private theorem not_connecting {output : Output} (routine : output.opening = false) (id : Nat)
    (remote : SocketAddr) (port : UInt16) (number : Nat) :
    output ≠ .connecting id remote port number := by
  rintro rfl
  cases routine

private theorem not_bound {output : Output} (routine : output.opening = false) (id : Nat)
    (port : UInt16) (number : Nat) : output ≠ .bound id port number := by
  rintro rfl
  cases routine

theorem Grants.portsInOrder {s s' : NetStack net} (grants : Grants s s')
    (before : s.PortsInOrder) : s'.PortsInOrder := by
  have alloc : allocPort s.nextPort = (portOf s.opens, portOf (s.opens + 1)) := by
    rw [before.next, allocPort_portOf]
  cases grants with
  | idle outputs routine trace nextId nextPort opens =>
      refine ⟨by rw [nextPort, opens]; exact before.next, ?_, ?_⟩
      · intro id remote port number member
        rw [trace] at member
        rcases List.mem_append.mp member with old | added
        · exact before.tcp id remote port number old
        · exact absurd rfl (not_connecting (routine _ added) id remote port number)
      · intro id port number member
        rw [trace] at member
        rcases List.mem_append.mp member with old | added
        · exact before.udp id port number old
        · exact absurd rfl (not_bound (routine _ added) id port number)
  | listened endpoint pkt accepting listening trace nextId nextPort opens =>
      refine ⟨by rw [nextPort, opens]; exact before.next, ?_, ?_⟩
      · intro id remote port number member
        simp only [trace, List.mem_append, List.mem_cons, List.not_mem_nil, or_false,
          reduceCtorEq] at member
        exact before.tcp id remote port number member
      · intro id port number member
        simp only [trace, List.mem_append, List.mem_cons, List.not_mem_nil, or_false,
          reduceCtorEq] at member
        exact before.udp id port number member
  | connecting remote trace nextId nextPort opens =>
      refine ⟨by rw [nextPort, opens, alloc], ?_, ?_⟩
      · intro id remote port number member
        rw [trace, alloc] at member
        rcases List.mem_append.mp member with old | added
        · exact before.tcp id remote port number old
        · rw [List.mem_singleton, Output.connecting.injEq] at added
          rw [added.2.2.1, added.2.2.2]
      · intro id port number member
        simp only [trace, List.mem_append, List.mem_singleton, or_false, reduceCtorEq] at member
        exact before.udp id port number member
  | bound trace nextId nextPort opens =>
      refine ⟨by rw [nextPort, opens, alloc], ?_, ?_⟩
      · intro id remote port number member
        simp only [trace, List.mem_append, List.mem_singleton, or_false, reduceCtorEq] at member
        exact before.tcp id remote port number member
      · intro id port number member
        rw [trace, alloc] at member
        rcases List.mem_append.mp member with old | added
        · exact before.udp id port number old
        · rw [List.mem_singleton, Output.bound.injEq] at added
          rw [added.2.1, added.2.2]
  | failed trace nextId nextPort opens =>
      refine ⟨by rw [nextPort, opens, alloc], ?_, ?_⟩
      · intro id remote port number member
        simp only [trace, List.mem_append, List.mem_singleton, or_false, reduceCtorEq] at member
        exact before.tcp id remote port number member
      · intro id port number member
        simp only [trace, List.mem_append, List.mem_singleton, or_false, reduceCtorEq] at member
        exact before.udp id port number member

theorem portsInOrder_of_runs {appQueue : Nat} {v4 : Option (Ipv4Addr × UInt8)}
    {v6 : Option (Ipv6Addr × UInt8)} {events : List (Event net)} {s : NetStack net}
    (run : Run (ofNext step) (NetStack.spawn net appQueue v4 v6) events s) : s.PortsInOrder := by
  have start : (NetStack.spawn net appQueue v4 v6).PortsInOrder :=
    ⟨rfl, fun _ _ _ _ member => (by cases member), fun _ _ _ member => (by cases member)⟩
  have both : WellFormed s ∧ s.PortsInOrder :=
    run.invariant (fun s => WellFormed s ∧ s.PortsInOrder)
      (fun _ _ _ taken before =>
        ⟨wellFormed_step taken before.1,
          (step_shape before.1 taken).grants.portsInOrder before.2⟩)
      ⟨wellFormed_spawn net appQueue v4 v6, start⟩
  exact both.2

/-- The allocator looks at no socket: live sockets have different ports exactly as long as it has
not come round between their allocations. -/
theorem ports_distinct {appQueue : Nat} {v4 : Option (Ipv4Addr × UInt8)}
    {v6 : Option (Ipv6Addr × UInt8)} {events : List (Event net)} {s : NetStack net}
    (run : Run (ofNext step) (NetStack.spawn net appQueue v4 v6) events s) :
    s.PortsDistinct ↔ s.WithinOneTurn := by
  have ports := portsInOrder_of_runs run
  constructor
  · intro distinct
    refine ⟨?_, ?_⟩
    · intro id other remote port port' number number' first second same
      have samePort : port = port' := by
        rw [ports.tcp id remote port number first.opened,
          ports.tcp other remote port' number' second.opened, portOf_eq_iff]
        exact same
      subst samePort
      exact distinct.tcp id other remote port number number' first second
    · intro id other port port' number number' first second same
      have samePort : port = port' := by
        rw [ports.udp id port number first.opened, ports.udp other port' number' second.opened,
          portOf_eq_iff]
        exact same
      subst samePort
      exact distinct.udp id other port number number' first second
  · intro within
    refine ⟨?_, ?_⟩
    · intro id other remote port number number' first second
      refine within.tcp id other remote port port number number' first second ?_
      rw [← portOf_eq_iff, ← ports.tcp id remote port number first.opened,
        ← ports.tcp other remote port number' second.opened]
    · intro id other port number number' first second
      refine within.udp id other port port number number' first second ?_
      rw [← portOf_eq_iff, ← ports.udp id port number first.opened,
        ← ports.udp other port number' second.opened]

/-- Two connections to one server. -/
theorem ports_distinct_two :
    ∃ s, execute step (NetStack.spawn (sockets 131072) 128 none none)
        (connecting { ip := .v4 ⟨93, 184, 216, 34⟩, port := 443 } ++ turn [.synAck] 0 ++
          [.cmd (.openTcp { ip := .v4 ⟨93, 184, 216, 34⟩, port := 443 }) 1]) = some s ∧
      s.trace.filter Output.opening =
        [.connecting 1 { ip := .v4 ⟨93, 184, 216, 34⟩, port := 443 } 49152 0,
          .connecting 2 { ip := .v4 ⟨93, 184, 216, 34⟩, port := 443 } 49153 1] ∧
      (s.PortsDistinct ↔ s.WithinOneTurn) := by
  have executed : (execute step (NetStack.spawn (sockets 131072) 128 none none)
        (connecting { ip := .v4 ⟨93, 184, 216, 34⟩, port := 443 } ++ turn [.synAck] 0 ++
          [.cmd (.openTcp { ip := .v4 ⟨93, 184, 216, 34⟩, port := 443 }) 1])).map
        (fun s => s.trace.filter Output.opening) =
      some [.connecting 1 { ip := .v4 ⟨93, 184, 216, 34⟩, port := 443 } 49152 0,
        .connecting 2 { ip := .v4 ⟨93, 184, 216, 34⟩, port := 443 } 49153 1] := by
    rfl
  obtain ⟨s, executed, observed⟩ := Option.map_eq_some_iff.mp executed
  exact ⟨s, executed, observed, ports_distinct (run_of_execute executed)⟩

section ComeRound

/-- A UDP association, then `count` connections that the library refuses. -/
def refusing (count : Nat) : NetStack (sockets 131072) :=
  { NetStack.spawn (sockets 131072) 128 none none with
    sockets := AList.insert 0 (.udp { port := 49152, queue := [] }) ∅
    udpConns := AList.insert 1 { handle := 0, toApp := Channel.empty _ 128 } ∅
    nextId := 2
    nextPort := portOf (count + 1)
    opens := count + 1
    trace := .bound 1 49152 0 :: (List.range count).map fun index => .openFailed (index + 1) }

/-- A turn of the loop with the association, up to a command. -/
def association : List (Event (sockets 131072)) :=
  [pollEvent [] [], .beginUdp [1], .udpHead, .udpReceive, .flush false]

theorem refusing_start :
    execute step (NetStack.spawn (sockets 131072) 128 none none)
      [pollEvent [] [], .beginUdp [], .flush false, .cmd .openUdp 0] = some (refusing 0) := rfl

theorem refusing_association (count : Nat) :
    execute step (refusing count) association = some { refusing count with phase := .select } := by
  have traced : (refusing count).trace ++ [] = (refusing count).trace := List.append_nil _
  have one : execute step (refusing count) association =
      some { refusing count with phase := .select, trace := (refusing count).trace ++ [] } := rfl
  rw [one, traced]

/-- Destination port 0 is refused, and the allocator has moved on. -/
theorem refusing_next (count : Nat) :
    step { refusing count with phase := .select }
      (.cmd (.openTcp { ip := .v4 ⟨1, 1, 1, 1⟩, port := 0 }) 1) = some (refusing (count + 1)) := by
  have one : step { refusing count with phase := .select }
      (.cmd (.openTcp { ip := .v4 ⟨1, 1, 1, 1⟩, port := 0 }) 1) =
      some { refusing count with
        nextPort := (allocPort (portOf (count + 1))).2
        opens := count + 2
        trace := (refusing count).trace ++ [.openFailed (count + 1)] } := rfl
  rw [one, allocPort_portOf]
  simp only [refusing, List.cons_append, List.range_succ, List.map_append, List.map_singleton]

theorem refusing_reached (count : Nat) :
    ∃ events, Run (ofNext step) (NetStack.spawn (sockets 131072) 128 none none) events
      (refusing count) := by
  induction count with
  | zero => exact ⟨_, run_of_execute refusing_start⟩
  | succ count ih =>
      obtain ⟨events, run⟩ := ih
      have turned := run.trans (run_of_execute (refusing_association count))
      exact ⟨_, turned.trans (.single (refusing_next count))⟩

/-- The second association gets the port of the first, which is still open. -/
theorem udp_port_reused :
    ¬∀ events s, Run (ofNext step) (NetStack.spawn (sockets 131072) 128 none none) events s →
      s.PortsDistinct := by
  intro claim
  obtain ⟨events, run⟩ := refusing_reached 15848
  have turned := run.trans (run_of_execute (refusing_association 15848))
  have last : step { refusing 15848 with phase := .select } (.cmd .openUdp 1) =
      some { refusing 15848 with
        sockets := (refusing 15848).sockets.insert 1 (.udp { port := portOf 15849, queue := [] })
        udpConns :=
          (refusing 15848).udpConns.insert 2 { handle := 1, toApp := Channel.empty _ 128 }
        nextId := 3
        nextPort := (allocPort (portOf 15849)).2
        opens := 15850
        trace := (refusing 15848).trace ++ [.bound 2 (portOf 15849) 15849] } := rfl
  have distinct := claim _ _ (turned.trans (.single last))
  have same := distinct.udp 1 2 49152 0 15849
    ⟨List.mem_append_left _ List.mem_cons_self, by decide⟩
    ⟨List.mem_append_right _ List.mem_cons_self, by decide⟩
  cases same

end ComeRound

end MolidoVpn.Netstack
