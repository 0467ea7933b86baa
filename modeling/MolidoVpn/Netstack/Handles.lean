import MolidoVpn.Netstack.Steps

/-!
Every entry of the two maps has its own socket of its own kind, every socket has
an entry, and no id is used twice: this holds initially and every step keeps it.
-/

namespace MolidoVpn.Netstack

open Ownership (Owned)
open Transition (Run ofNext)

variable {net : Smoltcp}

theorem sockets_of_tcpSocket {s : NetStack net} {handle : Nat} {socket : net.Tcp}
    (held : s.tcpSocket handle = some socket) : s.sockets.lookup handle = some (.tcp socket) := by
  unfold NetStack.tcpSocket at held
  split at held
  · rename_i found
    cases held
    exact found
  · cases held

theorem ownerOf_of_handles {s s' : NetStack net}
    (tcp : ∀ id, (s'.tcpConns.lookup id).map TcpState.handle =
      (s.tcpConns.lookup id).map TcpState.handle)
    (udp : ∀ id, (s'.udpConns.lookup id).map UdpState.handle =
      (s.udpConns.lookup id).map UdpState.handle) : s'.ownerOf = s.ownerOf := by
  funext id
  have tcpSame := tcp id
  have udpSame := congrArg (Option.map (Prod.mk Kind.udp)) (udp id)
  simp only [Option.map_map] at udpSame
  unfold NetStack.ownerOf
  cases now : s'.tcpConns.lookup id with
  | none =>
      rw [now, Option.map_none, eq_comm, Option.map_eq_none_iff] at tcpSame
      rw [tcpSame]
      exact udpSame
  | some st =>
      rw [now, Option.map_some, eq_comm, Option.map_eq_some_iff] at tcpSame
      obtain ⟨before, found, same⟩ := tcpSame
      rw [found]
      simp only [same]

namespace WellFormed

variable {s s' : NetStack net}

theorem ownerOf_tcp {id : Nat} {st : TcpState} (found : s.tcpConns.lookup id = some st) :
    s.ownerOf id = some (.tcp, st.handle) := by
  rw [NetStack.ownerOf, found]

theorem id_lt (wellFormed : WellFormed s) {id : Nat} {st : TcpState}
    (found : s.tcpConns.lookup id = some st) : id < s.nextId := by
  by_contra beyond
  have free := wellFormed.fresh id (not_lt.mp beyond)
  rw [ownerOf_tcp found] at free
  cases free

theorem log_append (wellFormed : WellFormed s) {id : Nat} {outputs : List Output}
    (about : About id outputs) (below : id < s'.nextId) (grows : s.nextId ≤ s'.nextId)
    (trace : s'.trace = s.trace ++ outputs) :
    ∀ output ∈ s'.trace, ∀ other, output.conn = some other → other < s'.nextId := by
  intro output member other own
  rw [trace] at member
  rcases List.mem_append.mp member with old | added
  · exact lt_of_lt_of_le (wellFormed.log output old other own) grows
  · rw [about output added, Option.some.injEq] at own
    rw [← own]
    exact below

/-- A step that only changes entries and sockets in place. -/
theorem keep (wellFormed : WellFormed s) (slots : s'.slotKind = s.slotKind)
    (tcp : ∀ id, (s'.tcpConns.lookup id).map TcpState.handle =
      (s.tcpConns.lookup id).map TcpState.handle)
    (udp : ∀ id, (s'.udpConns.lookup id).map UdpState.handle =
      (s.udpConns.lookup id).map UdpState.handle)
    (nextId : s'.nextId = s.nextId)
    (log : ∀ output ∈ s'.trace, ∀ id, output.conn = some id → id < s'.nextId)
    (inPass : s'.PassOk s'.phase) : WellFormed s' := by
  have owners := ownerOf_of_handles tcp udp
  refine ⟨?_, ?_, ?_, log, inPass⟩
  · rw [slots, owners]
    exact wellFormed.owned
  · intro id st found
    have tcpSame := tcp id
    rw [found, Option.map_some, eq_comm, Option.map_eq_some_iff] at tcpSame
    obtain ⟨before, was, _⟩ := tcpSame
    have udpSame := udp id
    rw [wellFormed.exclusive id before was, Option.map_none, Option.map_eq_none_iff] at udpSame
    exact udpSame
  · intro id beyond
    rw [owners]
    rw [nextId] at beyond
    exact wellFormed.fresh id beyond

private theorem slotKind_insert {handle : Nat} {slot : Slot net}
    (sockets : s'.sockets = s.sockets.insert handle slot) :
    s'.slotKind = Function.update s.slotKind handle (some slot.kind) := by
  funext at_
  simp only [NetStack.slotKind, sockets, Table.lookup_insert, Function.update_apply]
  by_cases here : at_ = handle
  · rw [if_pos here, if_pos here, Option.map_some]
  · rw [if_neg here, if_neg here]

private theorem slotKind_erase {handle : Nat} (sockets : s'.sockets = s.sockets.erase handle) :
    s'.slotKind = Function.update s.slotKind handle none := by
  funext at_
  simp only [NetStack.slotKind, sockets, Table.lookup_erase, Function.update_apply]
  by_cases here : at_ = handle
  · rw [if_pos here, if_pos here, Option.map_none]
  · rw [if_neg here, if_neg here]

/-- A connection that was served and stays. -/
theorem put (wellFormed : WellFormed s) {id : Nat} {c c' : Conn net}
    (found : s.conn id = some c) (handle : c'.st.handle = c.st.handle) {outputs : List Output}
    (about : About id outputs) (trace : s'.trace = s.trace ++ outputs)
    (sockets : s'.sockets = s.sockets.insert c'.st.handle (.tcp c'.socket))
    (tcpConns : s'.tcpConns = s.tcpConns.insert id c'.st) (udpConns : s'.udpConns = s.udpConns)
    (nextId : s'.nextId = s.nextId) (inPass : s'.PassOk s'.phase) : WellFormed s' := by
  obtain ⟨entry, held⟩ := conn_eq_some.mp found
  have slots : s'.slotKind = s.slotKind := by
    funext at_
    have slot := sockets_of_tcpSocket held
    simp only [NetStack.slotKind, sockets, handle]
    exact Table.map_lookup_insert s.sockets Slot.kind (.tcp c'.socket) slot rfl at_
  refine wellFormed.keep slots ?_ (fun _ => by rw [udpConns]) nextId ?_ inPass
  · rw [tcpConns]
    exact Table.map_lookup_insert s.tcpConns TcpState.handle _ entry handle
  · refine wellFormed.log_append about ?_ (le_of_eq nextId.symm) trace
    rw [nextId]
    exact wellFormed.id_lt entry

/-- An entry of either kind that was removed together with its socket. -/
private theorem remove (wellFormed : WellFormed s) {id handle : Nat} {kind : Kind}
    (owns : s.ownerOf id = some (kind, handle))
    (slots : s'.slotKind = Function.update s.slotKind handle none)
    (owners : s'.ownerOf = Function.update s.ownerOf id none)
    (exclusive : ∀ other st, s'.tcpConns.lookup other = some st →
      s'.udpConns.lookup other = none)
    (nextId : s'.nextId = s.nextId)
    (log : ∀ output ∈ s'.trace, ∀ id, output.conn = some id → id < s'.nextId)
    (inPass : s'.PassOk s'.phase) : WellFormed s' := by
  refine ⟨?_, exclusive, ?_, log, inPass⟩
  · rw [slots, owners]
    exact wellFormed.owned.remove owns
  · intro other beyond
    rw [owners, Function.update_apply]
    split
    · rfl
    · rw [nextId] at beyond
      exact wellFormed.fresh other beyond

/-- A connection that was removed together with its socket. -/
theorem drop (wellFormed : WellFormed s) {id : Nat} {c : Conn net}
    (found : s.conn id = some c) {outputs : List Output}
    (about : About id outputs) (trace : s'.trace = s.trace ++ outputs)
    (sockets : s'.sockets = s.sockets.erase c.st.handle)
    (tcpConns : s'.tcpConns = s.tcpConns.erase id) (udpConns : s'.udpConns = s.udpConns)
    (nextId : s'.nextId = s.nextId) (inPass : s'.PassOk s'.phase) : WellFormed s' := by
  obtain ⟨entry, _⟩ := conn_eq_some.mp found
  have owners : s'.ownerOf = Function.update s.ownerOf id none := by
    funext other
    simp only [NetStack.ownerOf, tcpConns, udpConns, Table.lookup_erase, Function.update_apply]
    by_cases here : other = id
    · subst here
      rw [if_pos rfl, if_pos rfl, wellFormed.exclusive other c.st entry]
      rfl
    · rw [if_neg here, if_neg here]
  refine wellFormed.remove (ownerOf_tcp entry) (slotKind_erase sockets) owners ?_ nextId ?_ inPass
  · intro other st there
    rw [tcpConns, Table.lookup_erase] at there
    split at there
    · cases there
    · rw [udpConns]
      exact wellFormed.exclusive other st there
  · refine wellFormed.log_append about ?_ (le_of_eq nextId.symm) trace
    rw [nextId]
    exact wellFormed.id_lt entry

/-- A UDP association that was closed. -/
private theorem dropUdp (wellFormed : WellFormed s) {id : Nat} {st : UdpState}
    (found : s.udpConns.lookup id = some st) (trace : s'.trace = s.trace)
    (sockets : s'.sockets = s.sockets.erase st.handle) (tcpConns : s'.tcpConns = s.tcpConns)
    (udpConns : s'.udpConns = s.udpConns.erase id) (nextId : s'.nextId = s.nextId)
    (inPass : s'.PassOk s'.phase) : WellFormed s' := by
  have noTcp : s.tcpConns.lookup id = none := by
    cases entry : s.tcpConns.lookup id with
    | none => rfl
    | some other =>
        rw [wellFormed.exclusive id other entry] at found
        cases found
  have owns : s.ownerOf id = some (.udp, st.handle) := by
    rw [NetStack.ownerOf, noTcp, found]
    rfl
  have owners : s'.ownerOf = Function.update s.ownerOf id none := by
    funext other
    simp only [NetStack.ownerOf, tcpConns, udpConns, Table.lookup_erase, Function.update_apply]
    by_cases here : other = id
    · subst here
      rw [if_pos rfl, if_pos rfl, noTcp]
      rfl
    · rw [if_neg here, if_neg here]
  refine wellFormed.remove owns (slotKind_erase sockets) owners ?_ nextId ?_ inPass
  · intro other entry there
    rw [tcpConns] at there
    rw [udpConns, Table.lookup_erase, wellFormed.exclusive other entry there, ite_self]
  · rw [trace, nextId]
    exact wellFormed.log

/-- A new entry of either kind under the next id. -/
private theorem add (wellFormed : WellFormed s) {handle : Nat} {kind : Kind}
    (unused : s.sockets.lookup handle = none) {outputs : List Output}
    (slots : s'.slotKind = Function.update s.slotKind handle (some kind))
    (owners : s'.ownerOf = Function.update s.ownerOf s.nextId (some (kind, handle)))
    (exclusive : ∀ other st, s'.tcpConns.lookup other = some st →
      s'.udpConns.lookup other = none)
    (log : ∀ output ∈ outputs, ∀ id, output.conn = some id → id = s.nextId)
    (trace : s'.trace = s.trace ++ outputs) (nextId : s'.nextId = s.nextId + 1)
    (inPass : s'.PassOk s'.phase) : WellFormed s' := by
  refine ⟨?_, exclusive, ?_, ?_, inPass⟩
  · rw [slots, owners]
    exact wellFormed.owned.add kind (wellFormed.fresh s.nextId le_rfl)
      (by rw [NetStack.slotKind, unused]; rfl)
  · intro other beyond
    rw [nextId] at beyond
    rw [owners, Function.update_of_ne (by omega)]
    exact wellFormed.fresh other (by omega)
  · intro output member id own
    rw [trace] at member
    rw [nextId]
    rcases List.mem_append.mp member with old | added
    · have before := wellFormed.log output old id own
      omega
    · have here := log output added id own
      omega

theorem next_free (wellFormed : WellFormed s) :
    s.tcpConns.lookup s.nextId = none ∧ s.udpConns.lookup s.nextId = none := by
  have free := wellFormed.fresh s.nextId le_rfl
  cases entry : s.tcpConns.lookup s.nextId with
  | none =>
      rw [NetStack.ownerOf, entry] at free
      exact ⟨rfl, Option.map_eq_none_iff.mp free⟩
  | some st =>
      rw [ownerOf_tcp entry] at free
      cases free

/-- A new TCP connection. -/
theorem addTcp (wellFormed : WellFormed s) {socket : net.Tcp} (st : TcpState)
    (unused : s.sockets.lookup st.handle = none) {outputs : List Output}
    (log : ∀ output ∈ outputs, ∀ id, output.conn = some id → id = s.nextId)
    (trace : s'.trace = s.trace ++ outputs)
    (sockets : s'.sockets = s.sockets.insert st.handle (.tcp socket))
    (tcpConns : s'.tcpConns = s.tcpConns.insert s.nextId st) (udpConns : s'.udpConns = s.udpConns)
    (nextId : s'.nextId = s.nextId + 1) (inPass : s'.PassOk s'.phase) : WellFormed s' := by
  have owners :
      s'.ownerOf = Function.update s.ownerOf s.nextId (some (.tcp, st.handle)) := by
    funext other
    simp only [NetStack.ownerOf, tcpConns, udpConns, Table.lookup_insert, Function.update_apply]
    by_cases here : other = s.nextId
    · rw [if_pos here, if_pos here]
    · rw [if_neg here, if_neg here]
  refine wellFormed.add unused (slotKind_insert sockets) owners ?_ log trace nextId inPass
  intro other st' there
  rw [tcpConns, Table.lookup_insert] at there
  rw [udpConns]
  split at there
  · rename_i here
    rw [here]
    exact wellFormed.next_free.2
  · exact wellFormed.exclusive other st' there

/-- A new UDP association. -/
private theorem addUdp (wellFormed : WellFormed s) {socket : net.Udp} (st : UdpState)
    (unused : s.sockets.lookup st.handle = none) {outputs : List Output}
    (log : ∀ output ∈ outputs, output.conn = none)
    (trace : s'.trace = s.trace ++ outputs)
    (sockets : s'.sockets = s.sockets.insert st.handle (.udp socket))
    (tcpConns : s'.tcpConns = s.tcpConns)
    (udpConns : s'.udpConns = s.udpConns.insert s.nextId st)
    (nextId : s'.nextId = s.nextId + 1) (inPass : s'.PassOk s'.phase) : WellFormed s' := by
  have owners :
      s'.ownerOf = Function.update s.ownerOf s.nextId (some (.udp, st.handle)) := by
    funext other
    simp only [NetStack.ownerOf, tcpConns, udpConns, Table.lookup_insert, Function.update_apply]
    by_cases here : other = s.nextId
    · rw [if_pos here, if_pos here, here, wellFormed.next_free.1]
      rfl
    · rw [if_neg here, if_neg here]
  refine wellFormed.add unused (slotKind_insert sockets) owners ?_ ?_ trace nextId inPass
  · intro other entry there
    rw [tcpConns] at there
    rw [udpConns, Table.lookup_insert]
    split
    · rename_i here
      rw [here, wellFormed.next_free.1] at there
      cases there
    · exact wellFormed.exclusive other entry there
  · intro output member id own
    rw [log output member] at own
    cases own

end WellFormed

theorem slotKind_poll (s : NetStack net) (input : NetStack.PollInput net)
    (emitted : List (List UInt8)) (panicked : Bool) (ids : List Nat) :
    (s.poll input emitted panicked ids).slotKind = s.slotKind := by
  funext handle
  simp only [NetStack.slotKind, NetStack.poll, Table.lookup_mapValues, Option.map_map]
  congr 1
  funext slot
  cases slot with
  | tcp socket => rfl
  | udp socket => rfl

private theorem arrivals_ids {s : NetStack net} {input : NetStack.PollInput net} {output : Output}
    (member : output ∈ s.arrivals input) :
    ∃ id st, output.conn = some id ∧ s.tcpConns.lookup id = some st := by
  obtain ⟨⟨id, st⟩, present, reported⟩ := List.mem_flatMap.mp member
  refine ⟨id, st, ?_, ?_⟩
  · simp only at reported
    split at reported
    · rw [List.mem_singleton.mp reported]
      rfl
    · cases reported
  · exact AList.mem_lookup_iff.mpr present

/-- What one step does to the tables keeps them together. -/
theorem Shape.wellFormed {s s' : NetStack net} {event : Event net} (shape : Shape s event s')
    (before : WellFormed s) : WellFormed s' := by
  cases shape with
  | polled at_ order =>
      rename_i input emitted panicked ids
      refine before.keep (slotKind_poll s input emitted panicked ids) (fun _ => rfl)
        (fun _ => rfl) rfl ?_ trivial
      intro output member id own
      rcases List.mem_append.mp member with old | added
      · exact before.log output old id own
      · obtain ⟨other, st, about, found⟩ := arrivals_ids added
        rw [about, Option.some.injEq] at own
        rw [← own]
        exact before.id_lt found
  | skipped at_ missing =>
      exact before.keep rfl (fun _ => rfl) (fun _ => rfl) rfl before.log trivial
  | headRemoved at_ found result =>
      rename_i id rest ownerWaits c outputs
      have about := Conn.head_about result
      exact before.drop found about rfl rfl rfl rfl rfl trivial
  | headKept at_ found result =>
      rename_i id rest ownerWaits c c' outputs
      have about := Conn.head_about result
      exact before.put found (Conn.head_handle result) about rfl rfl rfl rfl rfl
        ⟨c'.st, AList.lookup_insert _⟩
  | delivered at_ found result =>
      rename_i id count rest c c' bytes
      have about : About id [.delivered id bytes] := about_singleton rfl
      exact before.put found ((c.receive_handle count).1 c' bytes result) about rfl rfl rfl rfl rfl
        ⟨c'.st, AList.lookup_insert _⟩
  | stoppedReceiving at_ found result =>
      rename_i id count rest c c' appGone
      exact before.put found ((c.receive_handle count).2 c' appGone result) (about_nil id)
        (List.append_nil _).symm rfl rfl rfl rfl ⟨c'.st, AList.lookup_insert _⟩
  | finishRemoved at_ found result =>
      rename_i id appGone rest c outputs
      have about := Conn.finish_about result
      exact before.drop found about rfl rfl rfl rfl rfl trivial
  | finishKept at_ found result =>
      rename_i id appGone rest c c' outputs
      have about := Conn.finish_about result
      exact before.put found (Conn.finish_handle result) about rfl rfl rfl rfl rfl trivial
  | listened at_ unused accepting syn parsed made =>
      rename_i pkt handle socket dst src
      refine before.addTcp (TcpState.new handle s.appQueue false) unused ?_
        (List.append_assoc _ _ _) rfl rfl rfl rfl trivial
      intro output member id own
      simp only [List.mem_append, List.mem_singleton] at member
      rcases member with rfl | rfl
      · exact (Option.some.inj own).symm
      · cases own
  | inbound at_ plain =>
      refine before.keep rfl (fun _ => rfl) (fun _ => rfl) rfl ?_ trivial
      intro output member id own
      rcases List.mem_append.mp member with old | added
      · exact before.log output old id own
      · rw [List.mem_singleton.mp added] at own
        cases own
  | drained at_ room =>
      refine before.keep rfl (fun _ => rfl) (fun _ => rfl) rfl ?_ trivial
      intro output member id own
      rcases List.mem_append.mp member with old | added
      · exact before.log output old id own
      · rw [List.mem_singleton.mp added] at own
        cases own
  | connecting at_ unused made =>
      rename_i dst handle socket
      refine before.addTcp (TcpState.new handle s.appQueue true) unused ?_ rfl rfl rfl rfl
        rfl trivial
      intro output member id own
      rw [List.mem_singleton.mp member] at own
      exact (Option.some.inj own).symm
  | openFailed at_ opening =>
      refine before.keep rfl (fun _ => rfl) (fun _ => rfl) rfl ?_ trivial
      intro output member id own
      rcases List.mem_append.mp member with old | added
      · exact before.log output old id own
      · rw [List.mem_singleton.mp added] at own
        cases own
  | bound at_ unused made =>
      rename_i handle socket
      refine before.addUdp { handle := handle, toApp := Channel.empty _ s.appQueue } unused ?_
        rfl rfl rfl rfl rfl trivial
      intro output member
      rw [List.mem_singleton.mp member]
      rfl
  | accepted arrives found at_ =>
      rename_i id bytes st
      have about : About id [.accepted id bytes (!st.halfClosed)] := about_singleton rfl
      exact before.keep rfl (Table.map_lookup_insert _ TcpState.handle _ found rfl)
        (fun _ => rfl) rfl (before.log_append about (before.id_lt found) le_rfl rfl) trivial
  | appClosed arrives found at_ =>
      rename_i id st
      have about : About id [.appClosed id] := about_singleton rfl
      exact before.keep rfl (Table.map_lookup_insert _ TcpState.handle _ found rfl)
        (fun _ => rfl) rfl (before.log_append about (before.id_lt found) le_rfl rfl) trivial
  | appTook found handedOver took =>
      rename_i id st chunk toApp
      have handles (other : Nat) :
          ((s.tcpConns.insert id { st with toApp := toApp }).lookup other).map TcpState.handle =
            (s.tcpConns.lookup other).map TcpState.handle :=
        Table.map_lookup_insert _ TcpState.handle { st with toApp := toApp } found rfl other
      exact before.keep rfl handles (fun _ => rfl) rfl before.log
        (passOk_of_handles handles (fun _ => rfl) before.inPass)
  | appDropped found handedOver alive =>
      rename_i id st
      have about : About id [.appDropped id] := about_singleton rfl
      have handles (other : Nat) :
          ((s.tcpConns.insert id { st with toApp := st.toApp.dropReceiver }).lookup other).map
              TcpState.handle =
            (s.tcpConns.lookup other).map TcpState.handle :=
        Table.map_lookup_insert _ TcpState.handle { st with toApp := st.toApp.dropReceiver } found
          rfl other
      exact before.keep rfl handles (fun _ => rfl) rfl
        (before.log_append about (before.id_lt found) le_rfl rfl)
        (passOk_of_handles handles (fun _ => rfl) before.inPass)
  | aside aside =>
      refine before.keep aside.slotKind (fun _ => by rw [aside.tcpConns]) aside.udpHandle
        aside.nextId ?_ (aside.inPass before.inPass)
      rw [aside.trace, aside.nextId]
      exact before.log
  | udpClosed found at_ => exact before.dropUdp found rfl rfl rfl rfl rfl trivial

theorem wellFormed_spawn (net : Smoltcp) (appQueue : Nat) (v4 : Option (Ipv4Addr × UInt8))
    (v6 : Option (Ipv6Addr × UInt8)) : WellFormed (NetStack.spawn net appQueue v4 v6) :=
  { owned := Owned.empty
    exclusive := fun _ _ found => by cases found
    fresh := fun _ _ => rfl
    log := fun _ member => by cases member
    inPass := trivial }

theorem wellFormed_step {s s' : NetStack net} {event : Event net}
    (taken : ofNext step s event s') (before : WellFormed s) : WellFormed s' :=
  (step_shape before taken).wellFormed before

/-- The stacks that a run of the loop can reach. -/
theorem wellFormed_of_runs {appQueue : Nat} {v4 : Option (Ipv4Addr × UInt8)}
    {v6 : Option (Ipv6Addr × UInt8)} {events : List (Event net)} {s : NetStack net}
    (run : Run (ofNext step) (NetStack.spawn net appQueue v4 v6) events s) : WellFormed s :=
  run.invariant WellFormed (fun _ _ _ taken => wellFormed_step taken)
    (wellFormed_spawn net appQueue v4 v6)

end MolidoVpn.Netstack
