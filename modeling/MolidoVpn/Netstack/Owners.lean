import MolidoVpn.Netstack.Buffered
import MolidoVpn.Netstack.Grants
import MolidoVpn.Netstack.Handles

/-!
The socket set and the two maps correspond one to one in every reached state,
ids are handed out once, and no lookup of the loop misses.
-/

namespace MolidoVpn.Netstack

open Buffered (sockets pollEvent connecting turn)
open Transition (Run ofNext execute run_of_execute)

variable {net : Smoltcp}

namespace NetStack

/-- The handles that the entries of `tcp_conns` and `udp_conns` hold. -/
def heldHandles (s : NetStack net) : List Nat :=
  s.tcpConns.entries.map (fun entry => entry.2.handle) ++
    s.udpConns.entries.map (fun entry => entry.2.handle)

/-- Every socket has exactly one entry and every entry a socket of its kind; the ids handed out so
far are distinct and every entry has one of them; no lookup has missed. -/
structure HandlesOwned (s : NetStack net) : Prop where
  bijection : s.heldHandles.Perm s.sockets.keys
  tcp : ∀ id st, s.tcpConns.lookup id = some st →
    ∃ socket, s.sockets.lookup st.handle = some (.tcp socket)
  udp : ∀ id st, s.udpConns.lookup id = some st →
    ∃ socket, s.sockets.lookup st.handle = some (.udp socket)
  once : s.openedIds.Nodup
  opened : ∀ id ∈ s.tcpConns.keys ++ s.udpConns.keys, id ∈ s.openedIds
  running : s.phase ≠ .panicked

/-- The ids handed out so far are those below the next one, in order. -/
def IdsInOrder (s : NetStack net) : Prop :=
  1 ≤ s.nextId ∧ s.openedIds = List.range' 1 (s.nextId - 1)

end NetStack

private theorem opened_eq_none {output : Output} (routine : output.opening = false) :
    output.opened = none := by
  cases output <;> first | rfl | cases routine

theorem Grants.openedIds {s s' : NetStack net} (grants : Grants s s') :
    (s'.openedIds = s.openedIds ∧ s'.nextId = s.nextId) ∨
      (s'.openedIds = s.openedIds ++ [s.nextId] ∧ s'.nextId = s.nextId + 1) := by
  unfold NetStack.openedIds
  cases grants with
  | idle outputs routine trace nextId nextPort opens =>
      have silent : outputs.filterMap Output.opened = [] := by
        rw [List.filterMap_eq_nil_iff]
        exact fun output member => opened_eq_none (routine output member)
      exact Or.inl ⟨by rw [trace, List.filterMap_append, silent, List.append_nil], nextId⟩
  | listened endpoint pkt accepting listening trace nextId nextPort opens =>
      exact Or.inr ⟨by rw [trace, List.filterMap_append]; rfl, nextId⟩
  | connecting remote trace nextId nextPort opens =>
      exact Or.inr ⟨by rw [trace, List.filterMap_append]; rfl, nextId⟩
  | bound trace nextId nextPort opens =>
      exact Or.inr ⟨by rw [trace, List.filterMap_append]; rfl, nextId⟩
  | failed trace nextId nextPort opens =>
      exact Or.inl ⟨by rw [trace, List.filterMap_append]; exact List.append_nil _, nextId⟩

theorem Grants.idsInOrder {s s' : NetStack net} (grants : Grants s s') (before : s.IdsInOrder) :
    s'.IdsInOrder := by
  obtain ⟨positive, inOrder⟩ := before
  rcases grants.openedIds with ⟨same, nextId⟩ | ⟨added, nextId⟩
  · exact ⟨by rw [nextId]; exact positive, by rw [same, nextId]; exact inOrder⟩
  · refine ⟨by omega, ?_⟩
    have last : s.nextId = 1 + 1 * (s.nextId - 1) := by omega
    have count : s'.nextId - 1 = s.nextId - 1 + 1 := by omega
    rw [added, inOrder, count, List.range'_concat, ← last]

theorem idsInOrder_of_runs {appQueue : Nat} {v4 : Option (Ipv4Addr × UInt8)}
    {v6 : Option (Ipv6Addr × UInt8)} {events : List (Event net)} {s : NetStack net}
    (run : Run (ofNext step) (NetStack.spawn net appQueue v4 v6) events s) : s.IdsInOrder := by
  have both : WellFormed s ∧ s.IdsInOrder :=
    run.invariant (fun s => WellFormed s ∧ s.IdsInOrder)
      (fun _ _ _ taken before =>
        ⟨wellFormed_step taken before.1, (step_shape before.1 taken).grants.idsInOrder before.2⟩)
      ⟨wellFormed_spawn net appQueue v4 v6, le_rfl, rfl⟩
  exact both.2

/-- Either map has an entry under the id. -/
def NetStack.HasEntry (s : NetStack net) (id : Nat) : Prop :=
  id ∈ s.tcpConns ∨ id ∈ s.udpConns

private theorem hasEntry_iff {s : NetStack net} {id : Nat} :
    s.HasEntry id ↔ (s.ownerOf id).isSome = true := by
  unfold NetStack.HasEntry NetStack.ownerOf
  cases entry : s.tcpConns.lookup id with
  | some st =>
      have present : id ∈ s.tcpConns := AList.lookup_isSome.mp (by rw [entry]; rfl)
      simp only [present, true_or, Option.isSome_some]
  | none =>
      have absent : id ∉ s.tcpConns := AList.lookup_eq_none.mp entry
      simp only [absent, false_or, Option.isSome_map, AList.lookup_isSome]

/-- A step adds an entry only under the next id. -/
theorem Shape.hasEntry {s s' : NetStack net} {event : Event net} (shape : Shape s event s')
    {id : Nat} (now : s'.HasEntry id) : id = s.nextId ∨ s.HasEntry id := by
  have stored {other : Nat} {st : TcpState} (found : s.tcpConns.lookup other = some st)
      (next : TcpState) (there : id ∈ s.tcpConns.insert other next ∨ id ∈ s.udpConns) :
      s.HasEntry id := by
    rcases there with tcp | udp
    · rcases (AList.mem_insert _).mp tcp with rfl | old
      · exact Or.inl (AList.lookup_isSome.mp (by rw [found]; rfl))
      · exact Or.inl old
    · exact Or.inr udp
  have dropped {other : Nat} (there : id ∈ s.tcpConns.erase other ∨ id ∈ s.udpConns) :
      s.HasEntry id :=
    there.imp_left fun kept => (AList.mem_erase.mp kept).2
  have added {handle : Nat} {waits : Bool}
      (there : id ∈ s.tcpConns.insert s.nextId (TcpState.new handle s.appQueue waits) ∨
        id ∈ s.udpConns) : id = s.nextId ∨ s.HasEntry id := by
    rcases there with tcp | udp
    · exact ((AList.mem_insert _).mp tcp).imp_right Or.inl
    · exact Or.inr (Or.inr udp)
  cases shape with
  | polled at_ order => exact Or.inr now
  | skipped at_ missing => exact Or.inr now
  | headRemoved at_ found result => exact Or.inr (dropped now)
  | headKept at_ found result => exact Or.inr (stored (conn_eq_some.mp found).1 _ now)
  | delivered at_ found result => exact Or.inr (stored (conn_eq_some.mp found).1 _ now)
  | stoppedReceiving at_ found result => exact Or.inr (stored (conn_eq_some.mp found).1 _ now)
  | finishRemoved at_ found result => exact Or.inr (dropped now)
  | finishKept at_ found result => exact Or.inr (stored (conn_eq_some.mp found).1 _ now)
  | listened at_ unused accepting syn parsed made => exact added now
  | inbound at_ plain => exact Or.inr now
  | drained at_ room => exact Or.inr now
  | connecting at_ unused made => exact added now
  | openFailed at_ opening => exact Or.inr now
  | bound at_ unused made =>
      rcases now with tcp | udp
      · exact Or.inr (Or.inl tcp)
      · exact ((AList.mem_insert _).mp udp).imp_right Or.inr
  | accepted arrives found at_ => exact Or.inr (stored found _ now)
  | appClosed arrives found at_ => exact Or.inr (stored found _ now)
  | appTook found handedOver took => exact Or.inr (stored found _ now)
  | appDropped found handedOver alive => exact Or.inr (stored found _ now)
  | aside aside =>
      have owners := ownerOf_of_handles (fun _ => by rw [aside.tcpConns]) aside.udpHandle
      rw [hasEntry_iff, owners, ← hasEntry_iff] at now
      exact Or.inr now
  | udpClosed found at_ => exact Or.inr (now.imp_right fun kept => (AList.mem_erase.mp kept).2)

/-- Every entry's id was handed out. -/
theorem Shape.entriesOpened {s s' : NetStack net} {event : Event net} (shape : Shape s event s')
    (wellFormed : WellFormed s) (before : ∀ id, s.HasEntry id → id ∈ s.openedIds) :
    ∀ id, s'.HasEntry id → id ∈ s'.openedIds := by
  intro id now
  rcases shape.grants.openedIds with ⟨same, nextId⟩ | ⟨added, nextId⟩
  · rcases shape.hasEntry now with rfl | old
    · have fresh := (shape.wellFormed wellFormed).fresh s.nextId (le_of_eq nextId)
      rw [hasEntry_iff, fresh] at now
      cases now
    · rw [same]
      exact before id old
  · rw [added, List.mem_append, List.mem_singleton]
    exact (shape.hasEntry now).symm.imp_left (before id)

theorem entriesOpened_of_runs {appQueue : Nat} {v4 : Option (Ipv4Addr × UInt8)}
    {v6 : Option (Ipv6Addr × UInt8)} {events : List (Event net)} {s : NetStack net}
    (run : Run (ofNext step) (NetStack.spawn net appQueue v4 v6) events s) :
    ∀ id, s.HasEntry id → id ∈ s.openedIds := by
  have both : WellFormed s ∧ ∀ id, s.HasEntry id → id ∈ s.openedIds :=
    run.invariant (fun s => WellFormed s ∧ ∀ id, s.HasEntry id → id ∈ s.openedIds)
      (fun _ _ _ taken before =>
        ⟨wellFormed_step taken before.1,
          (step_shape before.1 taken).entriesOpened before.1 before.2⟩)
      ⟨wellFormed_spawn net appQueue v4 v6,
        fun _ entry => by rcases entry with tcp | udp <;> contradiction⟩
  exact both.2

section Bijection

variable {s : NetStack net}

private theorem nodup_of_keys {Value : Type} {table : AList (fun _ : Nat => Value)}
    {handle : Value → Nat}
    (distinct : ∀ id other value value', table.lookup id = some value →
      table.lookup other = some value' → handle value = handle value' → id = other) :
    (table.entries.map fun entry => handle entry.2).Nodup := by
  refine List.Nodup.map_on ?_ table.nodupKeys.nodup
  rintro ⟨id, value⟩ there ⟨other, value'⟩ thereOther same
  have found := AList.mem_lookup_iff.mpr there
  have foundOther := AList.mem_lookup_iff.mpr thereOther
  have sameId : id = other := distinct id other value value' found foundOther same
  subst sameId
  rw [Option.mem_unique found foundOther]

namespace WellFormed

private theorem tcp_slot (wellFormed : WellFormed s) {id : Nat} {st : TcpState}
    (found : s.tcpConns.lookup id = some st) :
    ∃ socket, s.sockets.lookup st.handle = some (.tcp socket) := by
  obtain ⟨socket, held⟩ := wellFormed.tcpSocket found
  exact ⟨socket, sockets_of_tcpSocket held⟩

private theorem udp_slot (wellFormed : WellFormed s) {id : Nat} {st : UdpState}
    (found : s.udpConns.lookup id = some st) :
    ∃ socket, s.sockets.lookup st.handle = some (.udp socket) := by
  obtain ⟨socket, held⟩ := wellFormed.udpSocket found
  exact ⟨socket, lookup_of_udpSocket held⟩

private theorem ownerOf_udp (wellFormed : WellFormed s) {id : Nat} {st : UdpState}
    (found : s.udpConns.lookup id = some st) : s.ownerOf id = some (.udp, st.handle) := by
  cases entry : s.tcpConns.lookup id with
  | none =>
      rw [NetStack.ownerOf, entry, found]
      rfl
  | some other =>
      rw [wellFormed.exclusive id other entry] at found
      cases found

theorem heldHandles_nodup (wellFormed : WellFormed s) : s.heldHandles.Nodup := by
  refine List.nodup_append.mpr ⟨nodup_of_keys ?_, nodup_of_keys ?_, ?_⟩
  · intro id other st st' found foundOther same
    refine wellFormed.owned.distinct id other .tcp .tcp st.handle (ownerOf_tcp found) ?_
    rw [same]
    exact ownerOf_tcp foundOther
  · intro id other st st' found foundOther same
    refine wellFormed.owned.distinct id other .udp .udp st.handle (wellFormed.ownerOf_udp found) ?_
    rw [same]
    exact wellFormed.ownerOf_udp foundOther
  · intro handle inTcp other inUdp same
    obtain ⟨⟨id, st⟩, there, rfl⟩ := List.mem_map.mp inTcp
    obtain ⟨⟨id', st'⟩, there', rfl⟩ := List.mem_map.mp inUdp
    obtain ⟨socket, tcp⟩ := wellFormed.tcp_slot (AList.mem_lookup_iff.mpr there)
    obtain ⟨socket', udp⟩ := wellFormed.udp_slot (AList.mem_lookup_iff.mpr there')
    simp only at same
    rw [same, udp] at tcp
    cases tcp

theorem mem_heldHandles (wellFormed : WellFormed s) {handle : Nat} :
    handle ∈ s.heldHandles ↔ handle ∈ s.sockets.keys := by
  rw [← AList.mem_keys, ← AList.lookup_isSome, NetStack.heldHandles, List.mem_append]
  constructor
  · intro held
    rcases held with inTcp | inUdp
    · obtain ⟨⟨id, st⟩, there, rfl⟩ := List.mem_map.mp inTcp
      obtain ⟨socket, slot⟩ := wellFormed.tcp_slot (AList.mem_lookup_iff.mpr there)
      rw [slot]
      rfl
    · obtain ⟨⟨id, st⟩, there, rfl⟩ := List.mem_map.mp inUdp
      obtain ⟨socket, slot⟩ := wellFormed.udp_slot (AList.mem_lookup_iff.mpr there)
      rw [slot]
      rfl
  · intro present
    obtain ⟨slot, found⟩ := Option.isSome_iff_exists.mp present
    have kind : s.slotKind handle = some slot.kind := by
      rw [NetStack.slotKind, found, Option.map_some]
    obtain ⟨id, owns⟩ := wellFormed.owned.owned handle slot.kind kind
    unfold NetStack.ownerOf at owns
    split at owns
    · rename_i st entry
      rw [Option.some.injEq, Prod.mk.injEq] at owns
      rw [← owns.2]
      exact Or.inl (List.mem_map.mpr ⟨⟨id, st⟩, AList.mem_lookup_iff.mp entry, rfl⟩)
    · obtain ⟨st, entry, owner⟩ := Option.map_eq_some_iff.mp owns
      rw [Prod.mk.injEq] at owner
      rw [← owner.2]
      exact Or.inr (List.mem_map.mpr ⟨⟨id, st⟩, AList.mem_lookup_iff.mp entry, rfl⟩)

theorem bijection (wellFormed : WellFormed s) : s.heldHandles.Perm s.sockets.keys :=
  (List.perm_ext_iff_of_nodup wellFormed.heldHandles_nodup s.sockets.keys_nodup).mpr
    fun _ => wellFormed.mem_heldHandles

theorem running (wellFormed : WellFormed s) : s.phase ≠ .panicked := by
  intro missed
  have inPass := wellFormed.inPass
  rw [missed] at inPass
  exact inPass

end WellFormed

end Bijection

/-- Whatever commands, packets, data, closes and passes the loop has handled. -/
theorem handles_owned {appQueue : Nat} {v4 : Option (Ipv4Addr × UInt8)}
    {v6 : Option (Ipv6Addr × UInt8)} {events : List (Event net)} {s : NetStack net}
    (run : Run (ofNext step) (NetStack.spawn net appQueue v4 v6) events s) : s.HandlesOwned := by
  have wellFormed := wellFormed_of_runs run
  refine ⟨wellFormed.bijection, fun _ _ => wellFormed.tcp_slot, fun _ _ => wellFormed.udp_slot,
    ?_, ?_, wellFormed.running⟩
  · rw [(idsInOrder_of_runs run).2]
    exact List.nodup_range'
  · intro id entry
    apply entriesOpened_of_runs run id
    exact (List.mem_append.mp entry).imp AList.mem_keys.mpr AList.mem_keys.mpr

/-- The UDP association 2 is closed and its handle goes to the connection 3. -/
theorem handles_owned_reused_handle :
    ∃ s, execute step (NetStack.spawn (sockets 131072) 128 none none)
        (connecting { ip := .v4 ⟨93, 184, 216, 34⟩, port := 443 } ++ turn [.synAck] 0 ++
          [.cmd .openUdp 1, pollEvent [] [1], .serviceHead true, .receive, .finish, .beginUdp [2],
            .udpHead, .udpReceive, .flush false, .data (.udpClose 2), .again] ++ turn [] 0 ++
          [.cmd (.openTcp { ip := .v4 ⟨1, 1, 1, 1⟩, port := 80 }) 1]) = some s ∧
      s.openedIds = [1, 2, 3] ∧ s.heldHandles = [1, 0] ∧ s.HandlesOwned := by
  have executed : (execute step (NetStack.spawn (sockets 131072) 128 none none)
        (connecting { ip := .v4 ⟨93, 184, 216, 34⟩, port := 443 } ++ turn [.synAck] 0 ++
          [.cmd .openUdp 1, pollEvent [] [1], .serviceHead true, .receive, .finish, .beginUdp [2],
            .udpHead, .udpReceive, .flush false, .data (.udpClose 2), .again] ++ turn [] 0 ++
          [.cmd (.openTcp { ip := .v4 ⟨1, 1, 1, 1⟩, port := 80 }) 1])).map
        (fun s => (s.openedIds, s.heldHandles)) = some ([1, 2, 3], [1, 0]) := by
    rfl
  obtain ⟨s, executed, observed⟩ := Option.map_eq_some_iff.mp executed
  rw [Prod.mk.injEq] at observed
  exact ⟨s, executed, observed.1, observed.2, handles_owned (run_of_execute executed)⟩

end MolidoVpn.Netstack
