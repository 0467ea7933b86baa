import MolidoVpn.Netstack.Owners

/-!
UDP associations whose app is gone: `service_udp` goes past a closed channel, so nothing but
`UdpClose` takes such an association and its socket away.
-/

namespace MolidoVpn.Netstack

open Buffered (sockets pollEvent)
open Transition (Run ofNext execute run_of_execute)

variable {net : Smoltcp} {s s' : NetStack net} {event : Event net} {id : Nat} {st : UdpState}

/-- An explicit close of the association. -/
def DataIn.closes (id : Nat) : DataIn → Bool
  | .udpClose closed => closed == id
  | _ => false

def Event.closesUdp (id : Nat) : Event net → Bool
  | .data given => given.closes id
  | .moreData given => given.closes id
  | _ => false

/-- The association is there with its socket. -/
def NetStack.HoldsUdp (s : NetStack net) (id : Nat) : Prop :=
  ∃ st socket, s.udpConns.lookup id = some st ∧ s.sockets.lookup st.handle = some (.udp socket)

def NetStack.udpSockets (s : NetStack net) : Nat :=
  s.sockets.entries.countP fun slot => slot.2.kind = .udp

/-- The associations whose app holds its receiver. -/
def NetStack.liveUdpHandles (s : NetStack net) : Nat :=
  s.udpConns.entries.countP fun entry => entry.2.toApp.receiverAlive

section Steps

theorem udpConns_serviceHead (rest : List Nat) (ownerWaits : Bool) :
    (s.serviceHead id rest ownerWaits).udpConns = s.udpConns := by
  unfold NetStack.serviceHead
  split
  · rfl
  · split
    · rfl
    · simp only
      split <;> rfl

theorem udpConns_receive (delivered : Nat) (rest : List Nat) :
    (s.receive id delivered rest).udpConns = s.udpConns := by
  unfold NetStack.receive
  split
  · rfl
  · split <;> rfl

theorem udpConns_finish (appGone : Bool) (rest : List Nat) :
    (s.finish id appGone rest).udpConns = s.udpConns := by
  unfold NetStack.finish
  split
  · rfl
  · split <;> rfl

theorem udpConns_udpHead (rest : List Nat) : (s.udpHead id rest).udpConns = s.udpConns := by
  unfold NetStack.udpHead
  split <;> rfl

theorem udpConns_intercept (pkt : List UInt8) (handle : Nat) :
    (s.intercept pkt handle).udpConns = s.udpConns := by
  rcases intercept_cases s pkt handle with ⟨same, -⟩ | ⟨_, _, _, -, -, -, -, added⟩
  · rw [same]
  · rw [added]
    rfl

/-- The pass over an association fills a channel that has room, so its receiver is there. -/
theorem lookup_udpReceive (found : s.udpConns.lookup id = some st)
    (gone : st.toApp.receiverAlive = false) (other delivered : Nat) (rest : List Nat) :
    (s.udpReceive other delivered rest).udpConns.lookup id = some st := by
  unfold NetStack.udpReceive
  split
  · exact found
  · rename_i entry there
    simp only
    split
    · split
      · rename_i room
        have alive : entry.toApp.receiverAlive = true := (Bool.and_eq_true_iff.mp room).1
        have elsewhere : id ≠ other := by
          rintro rfl
          obtain rfl := Option.some.inj (found.symm.trans there)
          rw [gone] at alive
          cases alive
        split
        · exact found
        · split
          · split
            · exact (AList.lookup_insert_ne elsewhere).trans found
            · exact found
          · exact found
      · exact found
    · exact found

theorem lookup_handleData (found : s.udpConns.lookup id = some st) (data : DataIn) :
    (s.handleData data).udpConns.lookup id = if data.closes id then none else some st := by
  cases data with
  | tcp other bytes =>
      simp only [NetStack.handleData]
      split <;> exact found
  | tcpClose other =>
      simp only [NetStack.handleData]
      split <;> exact found
  | udp other dst bytes =>
      simp only [NetStack.handleData]
      split
      · split
        · exact found
        · split <;> exact found
      · exact found
  | udpClose other =>
      simp only [NetStack.handleData, DataIn.closes, beq_iff_eq]
      by_cases here : other = id
      · subst here
        rw [if_pos rfl, found]
        exact AList.lookup_erase _ _
      · rw [if_neg here, ← found]
        split
        · exact AList.lookup_erase_ne (Ne.symm here)
        · rfl

theorem udp_id_lt (wellFormed : WellFormed s) (found : s.udpConns.lookup id = some st) :
    id < s.nextId := by
  by_contra beyond
  have free := wellFormed.fresh id (not_lt.mp beyond)
  unfold NetStack.ownerOf at free
  split at free
  · cases free
  · rw [found] at free
    cases free

theorem lookup_handleCmd (wellFormed : WellFormed s) (found : s.udpConns.lookup id = some st)
    (cmd : Cmd) (handle : Nat) : (s.handleCmd cmd handle).udpConns.lookup id = some st := by
  cases cmd with
  | openTcp dst =>
      rw [← found]
      simp only [NetStack.handleCmd, NetStack.openTcp]
      split <;> rfl
  | openUdp =>
      rw [← found]
      simp only [NetStack.handleCmd, NetStack.openUdp]
      split
      · rfl
      · refine AList.lookup_insert_ne ?_
        exact Nat.ne_of_lt (udp_id_lt wellFormed found)
  | setAddrs v4 v6 => exact found
  | enableAccept => exact found

theorem lookup_udpAppMoves (found : s.udpConns.lookup id = some st)
    (gone : st.toApp.receiverAlive = false) {other : Nat} {drops : Bool}
    (moved : s.udpAppMoves other drops = some s') : s'.udpConns.lookup id = some st := by
  unfold NetStack.udpAppMoves at moved
  split at moved
  · cases moved
  · rename_i entry there
    split at moved
    · rename_i alive
      obtain ⟨toApp, -, rfl⟩ := Option.map_eq_some_iff.mp moved
      refine (AList.lookup_insert_ne ?_).trans found
      rintro rfl
      obtain rfl := Option.some.inj (found.symm.trans there)
      rw [gone] at alive
      cases alive
    · cases moved

theorem udpConns_appMoves {other : Nat} {drops : Bool}
    (moved : s.appMoves other drops = some s') : s'.udpConns = s.udpConns := by
  unfold NetStack.appMoves at moved
  split at moved
  · cases moved
  · split at moved
    · cases moved
    · split at moved
      · obtain rfl := Option.some.inj moved
        rfl
      · obtain ⟨taken, -, rfl⟩ := Option.map_eq_some_iff.mp moved
        rfl

theorem udpConns_acceptMoves {drops : Bool} (moved : s.acceptMoves drops = some s') :
    s'.udpConns = s.udpConns := by
  unfold NetStack.acceptMoves at moved
  split at moved
  · cases moved
  · split at moved
    · obtain ⟨channel, -, rfl⟩ := Option.map_eq_some_iff.mp moved
      rfl
    · cases moved

/-- An association without a receiver stays as it is, and only its close takes it away. -/
theorem lookup_step (wellFormed : WellFormed s) (taken : ofNext step s event s')
    (found : s.udpConns.lookup id = some st) (gone : st.toApp.receiverAlive = false) :
    s'.udpConns.lookup id = if event.closesUdp id then none else some st := by
  have kept (same : s'.udpConns = s.udpConns) : s'.udpConns.lookup id = some st := by
    rw [same, found]
  cases turn_of_step taken with
  | poll => exact kept rfl
  | serviceHead => exact kept (udpConns_serviceHead _ _)
  | receive => exact kept (udpConns_receive _ _)
  | finish => exact kept (udpConns_finish _ _)
  | beginUdp => exact kept rfl
  | udpHead => exact kept (udpConns_udpHead _)
  | udpReceive => exact lookup_udpReceive found gone _ _ _
  | flush => exact kept rfl
  | inbound => exact kept (udpConns_intercept _ _)
  | drained => exact kept rfl
  | cmd => exact lookup_handleCmd wellFormed found _ _
  | data => exact lookup_handleData (s := { s with phase := .draining }) found _
  | moreData => exact lookup_handleData (s := { s with phase := .draining }) found _
  | again => exact kept rfl
  | stop => exact kept rfl
  | app moved => exact kept (udpConns_appMoves moved)
  | udpApp moved => exact lookup_udpAppMoves found gone moved
  | acceptApp moved => exact kept (udpConns_acceptMoves moved)

end Steps

section Runs

theorem not_hasEntry_of_closed (wellFormed : WellFormed s) (taken : ofNext step s event s')
    (found : s.udpConns.lookup id = some st) (closes : event.closesUdp id = true) :
    ¬s'.HasEntry id := by
  have noTcp : s.tcpConns.lookup id = none := by
    cases entry : s.tcpConns.lookup id with
    | none => rfl
    | some other =>
        rw [wellFormed.exclusive id other entry] at found
        cases found
  have closed (given : DataIn) (closes : given.closes id = true) :
      ¬({ s with phase := .draining }.handleData given).HasEntry id := by
    cases given with
    | udpClose other =>
        obtain rfl := beq_iff_eq.mp closes
        simp only [NetStack.handleData, found]
        rintro (tcp | udp)
        · rw [← AList.lookup_isSome, noTcp] at tcp
          cases tcp
        · exact (AList.mem_erase.mp udp).1 rfl
    | tcp other bytes => cases closes
    | tcpClose other => cases closes
    | udp other dst bytes => cases closes
  cases turn_of_step taken with
  | data => exact closed _ closes
  | moreData => exact closed _ closes
  | _ => cases closes

theorem nextId_le (wellFormed : WellFormed s) (taken : ofNext step s event s') :
    s.nextId ≤ s'.nextId := by
  rcases (step_shape wellFormed taken).grants.openedIds with ⟨-, same⟩ | ⟨-, same⟩
  · exact Nat.le_of_eq same.symm
  · omega

/-- An association without a receiver, after any further steps: closed for good, or as it was. -/
theorem association_after {events : List (Event net)} (wellFormed : WellFormed s)
    (found : s.udpConns.lookup id = some st) (gone : st.toApp.receiverAlive = false)
    (later : Run (ofNext step) s events s') :
    WellFormed s' ∧ id < s'.nextId ∧
      if events.any (Event.closesUdp id) then ¬s'.HasEntry id
      else s'.udpConns.lookup id = some st := by
  induction later with
  | nil => exact ⟨wellFormed, udp_id_lt wellFormed found, found⟩
  | snoc before last ih =>
      obtain ⟨formed, below, position⟩ := ih
      have formed' := wellFormed_step last formed
      have below' := lt_of_lt_of_le below (nextId_le formed last)
      refine ⟨formed', below', ?_⟩
      rw [List.any_append, List.any_cons, List.any_nil, Bool.or_false]
      split at position
      · rename_i closed
        rw [closed, Bool.true_or, if_pos rfl]
        intro entry
        rcases (step_shape formed last).hasEntry entry with rfl | old
        · exact absurd below (Nat.lt_irrefl _)
        · exact position old
      · rename_i open_
        rw [Bool.eq_false_iff.mpr open_, Bool.false_or]
        split
        · rename_i closes
          exact not_hasEntry_of_closed formed last position closes
        · rename_i other
          exact (lookup_step formed last position gone).trans (if_neg other)

end Runs

section Counting

theorem slotKind_of_mem {handle : Nat} {slot : Slot net}
    (there : ⟨handle, slot⟩ ∈ s.sockets.entries) : s.slotKind handle = some slot.kind := by
  have found : s.sockets.lookup handle = some slot := AList.mem_lookup_iff.mpr there
  rw [NetStack.slotKind, found, Option.map_some]

/-- One socket for every association. -/
theorem udpSockets_eq (wellFormed : WellFormed s) :
    s.udpSockets = s.udpConns.entries.length := by
  let isUdp (handle : Nat) : Bool := s.slotKind handle = some .udp
  have bySlot : s.sockets.keys.countP isUdp = s.udpSockets := by
    refine List.countP_map.trans (List.countP_congr ?_)
    rintro ⟨handle, slot⟩ there
    simp only [isUdp, Function.comp, slotKind_of_mem there, Option.some.injEq]
  have noTcp : (s.tcpConns.entries.map fun entry => entry.2.handle).countP isUdp = 0 := by
    rw [List.countP_eq_zero]
    intro handle held
    obtain ⟨⟨id, st⟩, there, rfl⟩ := List.mem_map.mp held
    have owned := wellFormed.owned.held id .tcp st.handle
      (WellFormed.ownerOf_tcp (AList.mem_lookup_iff.mpr there))
    simp only [isUdp, owned, Option.some.injEq, decide_eq_true_eq]
    exact Kind.noConfusion
  have allUdp : (s.udpConns.entries.map fun entry => entry.2.handle).countP isUdp =
      s.udpConns.entries.length := by
    rw [← List.length_map (fun entry => entry.2.handle), List.countP_eq_length]
    intro handle held
    obtain ⟨⟨id, st⟩, there, rfl⟩ := List.mem_map.mp held
    obtain ⟨socket, held⟩ := wellFormed.udpSocket (AList.mem_lookup_iff.mpr there)
    simp only [isUdp, NetStack.slotKind, lookup_of_udpSocket held, Option.map_some, Slot.kind,
      decide_true]
  rw [← bySlot, ← wellFormed.bijection.countP_eq, NetStack.heldHandles, List.countP_append, noTcp,
    allUdp, Nat.zero_add]

theorem udpSockets_le_iff (wellFormed : WellFormed s) :
    s.udpSockets ≤ s.liveUdpHandles ↔
      ∀ id st, s.udpConns.lookup id = some st → st.toApp.receiverAlive = true := by
  have most : s.liveUdpHandles ≤ s.udpConns.entries.length := List.countP_le_length
  rw [udpSockets_eq wellFormed]
  constructor
  · intro bounded id st found
    have all := List.countP_eq_length.mp (Nat.le_antisymm most bounded)
    exact all ⟨id, st⟩ (AList.mem_lookup_iff.mp found)
  · intro alive
    refine Nat.le_of_eq (List.countP_eq_length.mpr ?_).symm
    rintro ⟨id, st⟩ there
    exact alive id st (AList.mem_lookup_iff.mpr there)

end Counting

section Abandoned

theorem holdsUdp_of_lookup (wellFormed : WellFormed s) (found : s.udpConns.lookup id = some st) :
    s.HoldsUdp id := by
  obtain ⟨socket, held⟩ := wellFormed.udpSocket found
  exact ⟨st, socket, found, lookup_of_udpSocket held⟩

/-- Once its app is gone, an association and its socket stay through every pass until a close; and
there are more sockets than apps that hold a receiver as long as one such association is left. -/
theorem abandoned_removed_iff {appQueue : Nat} {v4 : Option (Ipv4Addr × UInt8)}
    {v6 : Option (Ipv6Addr × UInt8)} {before events : List (Event net)}
    (run : Run (ofNext step) (NetStack.spawn net appQueue v4 v6) before s)
    (found : s.udpConns.lookup id = some st) (gone : st.toApp.receiverAlive = false)
    (later : Run (ofNext step) s events s') :
    (¬s'.HoldsUdp id ↔ ∃ event ∈ events, event.closesUdp id = true) ∧
      (s'.udpSockets ≤ s'.liveUdpHandles ↔
        ∀ id st, s'.udpConns.lookup id = some st → st.toApp.receiverAlive = true) := by
  obtain ⟨wellFormed, -, position⟩ := association_after (wellFormed_of_runs run) found gone later
  refine ⟨?_, udpSockets_le_iff wellFormed⟩
  rw [← List.any_eq_true]
  split at position
  · rename_i closed
    refine iff_of_true ?_ closed
    rintro ⟨other, socket, there, -⟩
    exact position (Or.inr (AList.lookup_isSome.mp (by rw [there]; rfl)))
  · rename_i open_
    exact iff_of_false (not_not.mpr (holdsUdp_of_lookup wellFormed position)) open_

/-- An association is opened and its app drops the receiver. -/
def abandonedStart : List (Event (sockets 131072)) :=
  [pollEvent [] [], .beginUdp [], .flush false, .cmd .openUdp 0, .udpApp 1 true]

/-- The next turn of the loop, up to the end of the UDP pass. -/
def abandonedTurn : List (Event (sockets 131072)) :=
  [pollEvent [] [], .beginUdp [1], .udpHead, .udpReceive]

/-- The same turn, and a close through the sender after it. -/
def closedTurn : List (Event (sockets 131072)) :=
  [pollEvent [] [], .beginUdp [1], .udpHead, .udpReceive, .flush false, .data (.udpClose 1)]

/-- The app drops its receiver and closes the association later. -/
theorem abandoned_closed :
    ∃ s s', execute step (NetStack.spawn (sockets 131072) 128 none none) abandonedStart = some s ∧
      execute step s closedTurn = some s' ∧ ¬s'.HoldsUdp 1 := by
  have executed :
      ((execute step (NetStack.spawn (sockets 131072) 128 none none) abandonedStart).bind fun s =>
        (execute step s closedTurn).map fun _ =>
          (s.udpConns.lookup 1).map fun st => st.toApp.receiverAlive) = some (some false) := rfl
  obtain ⟨s, started, turned⟩ := Option.bind_eq_some_iff.mp executed
  obtain ⟨s', turned, observed⟩ := Option.map_eq_some_iff.mp turned
  obtain ⟨st, found, gone⟩ := Option.map_eq_some_iff.mp observed
  refine ⟨s, s', started, turned, ?_⟩
  exact (abandoned_removed_iff (run_of_execute started) found gone (run_of_execute turned)).1.mpr
    ⟨.data (.udpClose 1), List.mem_of_getElem? (i := 5) rfl, rfl⟩

/-- A whole pass leaves the association and its socket. -/
theorem abandoned_kept :
    ¬∀ (events turn : List (Event (sockets 131072))) (s s' : NetStack (sockets 131072)) (id : Nat)
      (st : UdpState), Run (ofNext step) (NetStack.spawn (sockets 131072) 128 none none) events s →
        s.udpConns.lookup id = some st → st.toApp.receiverAlive = false → s.phase = .poll →
        Run (ofNext step) s turn s' → s'.phase = .udp [] →
        (events ++ turn).any (Event.closesUdp id) = false → ¬s'.HoldsUdp id := by
  intro claim
  have executed :
      ((execute step (NetStack.spawn (sockets 131072) 128 none none) abandonedStart).bind fun s =>
        (execute step s abandonedTurn).map fun s' =>
          ((s.udpConns.lookup 1).map fun st => st.toApp.receiverAlive, s.phase, s'.phase,
            (s'.udpConns.lookup 1).isSome)) = some (some false, .poll, .udp [], true) := rfl
  obtain ⟨s, started, turned⟩ := Option.bind_eq_some_iff.mp executed
  obtain ⟨s', turned, observed⟩ := Option.map_eq_some_iff.mp turned
  simp only [Prod.mk.injEq] at observed
  obtain ⟨alive, first, last, kept⟩ := observed
  obtain ⟨st, found, gone⟩ := Option.map_eq_some_iff.mp alive
  obtain ⟨left, there⟩ := Option.isSome_iff_exists.mp kept
  have run := run_of_execute started
  refine claim abandonedStart abandonedTurn s s' 1 st run found gone first
    (run_of_execute turned) last rfl (holdsUdp_of_lookup ?_ there)
  exact wellFormed_of_runs (run.trans (run_of_execute turned))

end Abandoned

end MolidoVpn.Netstack
