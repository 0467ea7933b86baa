import MolidoVpn.Netstack.Buffered
import MolidoVpn.Netstack.Track

/-!
Transparent accept: which TCP SYNs find a socket that listens for them when
they are handed to the interface.
-/

namespace MolidoVpn.Netstack

open Buffered (sockets pollEvent)
open Transition (Run Restrict ofNext execute executeChecked run_of_execute run_of_executeChecked)

/-- A SYN that is handed to the interface in accept mode finds a listening socket. -/
def ListeningFirst : Output → Prop
  | .ingested pkt true listening => (synEndpoint pkt).isSome = true → listening = true
  | _ => True

/-- In accept mode, the endpoint of a drained SYN is already listened on; that of an awaited one
may also be intercepted now. -/
def listensFirst {net : Smoltcp} (s : NetStack net) : Event net → Bool
  | .inbound pkt _ =>
      !s.acceptTx.isSome || (synEndpoint pkt).all fun endpoint =>
        s.listensOn endpoint || isTcpSyn pkt && (net.listen net.newTcp endpoint).isSome
  | .drained pkt => !s.acceptTx.isSome || (synEndpoint pkt).all s.listensOn
  | _ => true

theorem parseTcpSyn_of_isTcpSyn {pkt : List UInt8} (syn : isTcpSyn pkt = true) :
    ∃ dst src, parseTcpSyn pkt = some (dst, src) := by
  unfold isTcpSyn at syn
  unfold parseTcpSyn
  split at syn
  · cases syn
  · rename_i long
    split at syn
    · cases syn
    · rename_i version
      split at syn
      · cases syn
      · split at syn
        · cases syn
        · rename_i complete
          exact ⟨_, _, by rw [if_neg long, if_neg version, if_neg complete]⟩

theorem synEndpoint_of_isTcpSyn {pkt : List UInt8} (syn : isTcpSyn pkt = true)
    {dst src : SocketAddr} (parsed : parseTcpSyn pkt = some (dst, src)) :
    synEndpoint pkt = some dst := by
  rw [synEndpoint, if_pos syn, parsed]
  rfl

variable {net : Smoltcp} {s s' : NetStack net}

theorem listensOn_iff {endpoint : SocketAddr} :
    s.listensOn endpoint = true ↔
      ∃ id c, s.conn id = some c ∧ net.listening c.socket = some endpoint := by
  rw [NetStack.listensOn, List.any_eq_true]
  constructor
  · rintro ⟨⟨id, st⟩, member, listens⟩
    have entry : s.tcpConns.lookup id = some st := AList.mem_lookup_iff.mpr member
    simp only at listens
    cases held : s.tcpSocket st.handle with
    | none =>
        rw [held] at listens
        cases listens
    | some socket =>
        rw [held] at listens
        exact ⟨id, { st := st, socket := socket }, conn_eq_some.mpr ⟨entry, held⟩,
          beq_iff_eq.mp listens⟩
  · rintro ⟨id, c, found, listens⟩
    obtain ⟨entry, held⟩ := conn_eq_some.mp found
    refine ⟨⟨id, c.st⟩, AList.mem_lookup_iff.mp entry, ?_⟩
    simp only [held, listens, beq_self_eq_true]

/-- A new listening socket listens. -/
private theorem listensOn_addTcp (lawful : net.Lawful) (s : NetStack net) (handle : Nat)
    {socket : net.Tcp} {endpoint : SocketAddr} (output : Nat → Output)
    (made : net.listen net.newTcp endpoint = some socket) :
    (s.addTcp handle socket false output).listensOn endpoint = true := by
  rw [listensOn_iff]
  refine ⟨s.nextId, { st := TcpState.new handle s.appQueue false, socket := socket }, ?_,
    (lawful.listen_new endpoint socket made).2.2⟩
  refine conn_eq_some.mpr ⟨AList.lookup_insert _, ?_⟩
  simp only [NetStack.tcpSocket, NetStack.addTcp, TcpState.new, AList.lookup_insert]

private theorem ingested_iff (pkt : List UInt8) (accepting : Bool) (listens : SocketAddr → Bool) :
    ListeningFirst (.ingested pkt accepting ((synEndpoint pkt).any listens)) ↔
      (!accepting || (synEndpoint pkt).all listens) = true := by
  cases accepting with
  | false => exact ⟨fun _ => rfl, fun _ => trivial⟩
  | true =>
      cases endpoint : synEndpoint pkt with
      | none =>
          refine ⟨fun _ => rfl, fun _ some_ => ?_⟩
          rw [endpoint] at some_
          cases some_
      | some endpoint' =>
          constructor
          · intro found
            exact found (by rw [endpoint]; rfl)
          · intro listens _
            exact listens

/-- What an awaited packet records, and when that is a SYN without a listener. -/
private theorem inbound_accepts (lawful : net.Lawful) (pkt : List UInt8) (handle : Nat) :
    ∃ outputs, ((s.intercept pkt handle).ingest pkt).trace = s.trace ++ outputs ∧
      ((∀ output ∈ outputs, ListeningFirst output) ↔
        listensFirst s (.inbound pkt handle) = true) := by
  rcases intercept_cases s pkt handle with
    ⟨same, plain⟩ | ⟨dst, src, socket, accepting, syn, parsed, made, added⟩
  · refine ⟨[.ingested pkt s.acceptTx.isSome ((synEndpoint pkt).any s.listensOn)], ?_, ?_⟩
    · rw [same]
      rfl
    · simp only [List.mem_singleton, forall_eq]
      rw [ingested_iff, listensFirst]
      cases accepting : s.acceptTx.isSome with
      | false => exact Iff.rfl
      | true =>
          cases syn : isTcpSyn pkt with
          | false => simp only [Bool.false_and, Bool.or_false]
          | true =>
              obtain ⟨dst, src, parsed⟩ := parseTcpSyn_of_isTcpSyn syn
              have refused := plain accepting syn dst src parsed
              rw [synEndpoint_of_isTcpSyn syn parsed]
              simp only [Option.all_some, refused, Option.isSome_none, Bool.and_false,
                Bool.or_false]
  · have listens := listensOn_addTcp lawful s handle
      (fun id => .listened id dst) made
    have endpoint := synEndpoint_of_isTcpSyn syn parsed
    refine ⟨[.listened s.nextId dst, .ingested pkt true true], ?_, ?_⟩
    · have record : Output.ingested pkt s.acceptTx.isSome ((synEndpoint pkt).any
          (s.addTcp handle socket false (fun id => .listened id dst)).listensOn) =
            .ingested pkt true true := by
        rw [accepting, endpoint, Option.any_some, listens]
      rw [added, ← record]
      exact List.append_assoc _ _ _
    · have met : listensFirst s (.inbound pkt handle) = true := by
        rw [listensFirst, endpoint, Option.all_some, syn, made, Option.isSome_some,
          Bool.and_self, Bool.or_true, Bool.or_true]
      refine ⟨fun _ => met, fun _ output member => ?_⟩
      rcases List.mem_pair.mp member with rfl | rfl
      · trivial
      · exact fun _ => rfl

private theorem about_silent {id : Nat} {outputs : List Output} (about : About id outputs) :
    ∀ output ∈ outputs, ListeningFirst output := by
  intro output member
  have own := about output member
  cases output with
  | ingested pkt accepting listening => cases own
  | _ => trivial

private theorem arrivals_silent (input : NetStack.PollInput net) :
    ∀ output ∈ s.arrivals input, ListeningFirst output := by
  intro output member
  obtain ⟨entry, _, reported⟩ := List.mem_flatMap.mp member
  split at reported
  · rw [List.mem_singleton.mp reported]
    trivial
  · cases reported

/-- The steps that hand over no packet. -/
private theorem shape_silent {event : Event net} (shape : Shape s event s')
    (awaited : ∀ pkt handle, event ≠ .inbound pkt handle)
    (drained : ∀ pkt, event ≠ .drained pkt) :
    ∃ outputs, s'.trace = s.trace ++ outputs ∧ ∀ output ∈ outputs, ListeningFirst output := by
  cases shape with
  | polled at_ order => exact ⟨_, rfl, arrivals_silent _⟩
  | headRemoved at_ found result => exact ⟨_, rfl, about_silent (Conn.head_about result)⟩
  | headKept at_ found result => exact ⟨_, rfl, about_silent (Conn.head_about result)⟩
  | delivered at_ found result => exact ⟨_, rfl, about_silent (about_singleton rfl)⟩
  | finishRemoved at_ found result => exact ⟨_, rfl, about_silent (Conn.finish_about result)⟩
  | finishKept at_ found result => exact ⟨_, rfl, about_silent (Conn.finish_about result)⟩
  | listened at_ unused accepting syn parsed made => exact absurd rfl (awaited _ _)
  | inbound at_ plain => exact absurd rfl (awaited _ _)
  | drained at_ room => exact absurd rfl (drained _)
  | connecting at_ unused made => exact ⟨_, rfl, about_silent (about_singleton rfl)⟩
  | openFailed at_ opening =>
      refine ⟨_, rfl, fun output member => ?_⟩
      rw [List.mem_singleton.mp member]
      trivial
  | bound at_ unused made =>
      refine ⟨_, rfl, fun output member => ?_⟩
      rw [List.mem_singleton.mp member]
      trivial
  | accepted arrives found at_ => exact ⟨_, rfl, about_silent (about_singleton rfl)⟩
  | appClosed arrives found at_ => exact ⟨_, rfl, about_silent (about_singleton rfl)⟩
  | appDropped found handedOver alive => exact ⟨_, rfl, about_silent (about_singleton rfl)⟩
  | aside aside =>
      exact ⟨[], aside.trace.trans (List.append_nil _).symm, fun _ member => by cases member⟩
  | _ => exact ⟨[], (List.append_nil _).symm, fun _ member => by cases member⟩

/-- A step hands over a SYN without a listener exactly when the condition fails. -/
theorem step_accepts (lawful : net.Lawful) {event : Event net} (wellFormed : WellFormed s)
    (taken : step s event = some s') :
    ∃ outputs, s'.trace = s.trace ++ outputs ∧
      ((∀ output ∈ outputs, ListeningFirst output) ↔ listensFirst s event = true) := by
  have shape := step_shape wellFormed taken
  cases turn_of_step taken with
  | inbound at_ unused => exact inbound_accepts lawful _ _
  | drained at_ room =>
      rename_i pkt count
      refine ⟨[.ingested pkt s.acceptTx.isSome ((synEndpoint pkt).any s.listensOn)], rfl, ?_⟩
      simp only [List.mem_singleton, forall_eq]
      exact ingested_iff pkt _ _
  | _ =>
      obtain ⟨outputs, trace, silent⟩ :=
        shape_silent shape (fun _ _ same => by cases same) (fun _ same => by cases same)
      exact ⟨outputs, trace, fun _ => rfl, fun _ => silent⟩

/-- In a run, every TCP SYN that is handed to the interface in accept mode finds a listening socket
exactly when every awaited SYN can be intercepted, or is listened on, and every drained one is
already listened on. -/
theorem syns_find_listeners (lawful : net.Lawful) {appQueue : Nat}
    {v4 : Option (Ipv4Addr × UInt8)} {v6 : Option (Ipv6Addr × UInt8)} {events : List (Event net)}
    {s : NetStack net} (run : Run (ofNext step) (NetStack.spawn net appQueue v4 v6) events s) :
    (∀ output ∈ s.trace, ListeningFirst output) ↔
      Run (Restrict (ofNext step) fun s event => listensFirst s event)
        (NetStack.spawn net appQueue v4 v6) events s := by
  refine run.iff_restrict (fun s => ∀ output ∈ s.trace, ListeningFirst output) WellFormed
    (fun _ _ _ taken => wellFormed_step taken) ?_ (fun _ member => by cases member)
    (wellFormed_spawn net appQueue v4 v6)
  intro source event target taken wellFormed
  obtain ⟨outputs, trace, exact_⟩ := step_accepts lawful wellFormed taken
  rw [trace, List.forall_mem_append, exact_]

/-- An IPv4 TCP segment from 10.0.0.2:5000 to port 443 of the given address. -/
def segmentTo (flags a b c d : UInt8) : List UInt8 :=
  [0x45, 0, 0, 40, 0, 0, 0, 0, 64, 6, 0, 0, 10, 0, 0, 2, a, b, c, d,
    0x13, 0x88, 0x01, 0xbb, 0, 0, 0, 0, 0, 0, 0, 0, 0x50, flags, 0xff, 0xff, 0, 0, 0, 0]

/-- Accept mode is turned on; then a SYN is awaited and another segment found behind it. -/
def batchRun (behind : List UInt8) : List (Event (sockets 131072)) :=
  [pollEvent [] [], .beginUdp [], .flush false, .cmd .enableAccept 0,
    pollEvent [] [], .beginUdp [], .flush false, .inbound (segmentTo 0x02 93 184 216 34) 0,
    .drained behind]

theorem syns_find_listeners_ack :
    ∃ s, execute step (NetStack.spawn (sockets 131072) 128 none none)
        (batchRun (segmentTo 0x10 93 184 216 35)) = some s ∧
      .ingested (segmentTo 0x02 93 184 216 34) true true ∈ s.trace ∧
      ∀ output ∈ s.trace, ListeningFirst output := by
  have checked : (executeChecked step listensFirst
        (NetStack.spawn (sockets 131072) 128 none none)
        (batchRun (segmentTo 0x10 93 184 216 35))).isSome = true := by rfl
  have observed : (execute step (NetStack.spawn (sockets 131072) 128 none none)
        (batchRun (segmentTo 0x10 93 184 216 35))).map
        (fun s => decide (Output.ingested (segmentTo 0x02 93 184 216 34) true true ∈ s.trace)) =
      some true := by rfl
  obtain ⟨s, executed, ingested⟩ := Option.map_eq_some_iff.mp observed
  have run := run_of_execute executed
  refine ⟨s, executed, of_decide_eq_true ingested, ?_⟩
  apply (syns_find_listeners (Buffered.lawful 131072) run).mpr
  obtain ⟨s', checkedRun⟩ := Option.isSome_iff_exists.mp checked
  have restricted := run_of_executeChecked checkedRun
  obtain rfl := run.deterministic restricted.of_restrict
  exact restricted

/-- The SYN that `try_recv` finds behind the awaited one meets no listening socket. -/
theorem drained_syn_unheard :
    ¬∀ events s, Run (ofNext step) (NetStack.spawn (sockets 131072) 128 none none) events s →
      ∀ output ∈ s.trace, ListeningFirst output := by
  intro claim
  have observed : (execute step (NetStack.spawn (sockets 131072) 128 none none)
        (batchRun (segmentTo 0x02 93 184 216 35))).map
        (fun s => decide (Output.ingested (segmentTo 0x02 93 184 216 35) true false ∈ s.trace)) =
      some true := by rfl
  obtain ⟨s, executed, ingested⟩ := Option.map_eq_some_iff.mp observed
  have heard := claim _ s (run_of_execute executed) _ (of_decide_eq_true ingested)
  have syn : (synEndpoint (segmentTo 0x02 93 184 216 35)).isSome = true := by decide
  exact Bool.false_ne_true (heard syn)

end MolidoVpn.Netstack
