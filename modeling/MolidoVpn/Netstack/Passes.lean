import MolidoVpn.Lib.History
import MolidoVpn.Netstack.Track

/-!
What the work of a pass can do to a connection and what it can record, said once
for each of the three parts of a pass.
-/

namespace MolidoVpn.Netstack

open History (Every)

/-- A property of the records of single connections holds of the whole history. -/
theorem every_of_own {holds : List Output → Output → Prop} {trace : List Output}
    (each : ∀ id, Every holds (own id trace))
    (silent : ∀ before output, output.conn = none → holds before output)
    (back : ∀ id before output, output.conn = some id → holds (own id before) output →
      holds before output) : Every holds trace := by
  intro before output after split
  cases about : output.conn with
  | none => exact silent before output about
  | some id =>
      have part := (each id).of_filter (fun before output kept found =>
        back id before output (beq_iff_eq.mp kept) found)
      exact part before output after split (beq_iff_eq.mpr about)

namespace Conn

variable {net : Smoltcp}

/-- The receive buffer and the handshake are as they were. -/
structure Undisturbed (c c' : Conn net) : Prop where
  slices : net.slices c'.socket = net.slices c.socket
  done : net.handshakeDone c'.socket = net.handshakeDone c.socket

theorem Undisturbed.refl (c : Conn net) : Undisturbed c c := ⟨rfl, rfl⟩

theorem Undisturbed.trans {first second third : Conn net} (before : Undisturbed first second)
    (after : Undisturbed second third) : Undisturbed first third :=
  ⟨after.slices.trans before.slices, after.done.trans before.done⟩

theorem Undisturbed.received {c c' : Conn net} (same : Undisturbed c c') :
    net.received c'.socket = net.received c.socket := by
  rw [Smoltcp.received, Smoltcp.received, same.slices]

theorem close_undisturbed (lawful : net.Lawful) (c : Conn net) : Undisturbed c c.close :=
  ⟨lawful.close_slices c.socket, lawful.close_done c.socket⟩

theorem establish_established (c : Conn net) (id : Nat) (owner : Report → Bool) :
    (c.establish id owner).1.st.established =
      (c.st.established || net.state c.socket == .established) := by
  unfold establish TcpState.report
  by_cases first : (!c.st.established && net.state c.socket == .established) = true
  · rw [if_pos first]
    rw [Bool.and_eq_true, Bool.not_eq_true'] at first
    rw [first.1, first.2]
    split
    · rename_i st quiet
      split at quiet
      · cases quiet
      · simp only [Bool.false_eq_true, if_false, Prod.mk.injEq, true_and] at quiet
        rw [← quiet]
        split <;> rfl
    · rename_i report st notQuiet some_
      split at some_
      · rw [Prod.mk.injEq] at some_
        rw [← some_.2]
        split <;> rfl
      · simp only [Bool.false_eq_true, if_false, Prod.mk.injEq] at some_
        exact absurd some_.1.symm notQuiet
  · rw [if_neg first]
    cases seen : c.st.established with
    | true => rfl
    | false =>
        rw [seen, Bool.not_false, Bool.true_and, Bool.not_eq_true] at first
        rw [first, Bool.or_false]

/-- A socket that is ended is not looked at as a new one. -/
theorem establish_of_over (c : Conn net) (id : Nat) (owner : Report → Bool)
    (ended : net.state c.socket ≠ .established) : c.establish id owner = (c, []) := by
  unfold establish
  rw [if_neg]
  rw [Bool.and_eq_true, beq_iff_eq]
  exact fun first => ended first.2

theorem failed_state {c : Conn net} (failed : c.failed = true) :
    c.st.established = false ∧
      (net.state c.socket = .closed ∨ net.state c.socket = .timeWait) := by
  simp only [Conn.failed, Bool.and_eq_true, Bool.not_eq_true', Bool.or_eq_true,
    beq_iff_eq] at failed
  exact failed

theorem establish_failed (c : Conn net) (id : Nat) (owner : Report → Bool) :
    (c.establish id owner).1.failed = c.failed := by
  have socket := (c.establish_keeps id owner).2.2.2.1
  rw [Conn.failed, Conn.failed, establish_established, socket]
  cases net.state c.socket <;> cases c.st.established <;> rfl

/-- The removal of a connection that never got established. -/
theorem head_of_failed {c : Conn net} (failed : c.failed = true) (id : Nat)
    (owner : Report → Bool) :
    c.head id owner =
      (none, [.serviced id (net.handshakeDone c.socket)] ++
        (if c.st.connectResp then [.refused id] else []) ++ [c.removal id]) := by
  have ended : net.state c.socket ≠ .established := by
    rcases (failed_state failed).2 with ended | ended <;> rw [ended] <;> decide
  simp only [head, establish_of_over c id owner ended, failed, if_true, List.nil_append]

theorem head_of_alive {c : Conn net} (alive : c.failed = false) (id : Nat)
    (owner : Report → Bool) :
    c.head id owner =
      (some (((c.establish id owner).1.sendPending id).1.closeDrained id).1,
        (c.establish id owner).2 ++ [.serviced id (net.handshakeDone c.socket)] ++
          ((c.establish id owner).1.sendPending id).2 ++
          (((c.establish id owner).1.sendPending id).1.closeDrained id).2) := by
  have looked := c.establish_failed id owner
  rw [alive] at looked
  simp only [head, looked, Bool.false_eq_true, if_false]

theorem head_removed {c : Conn net} {id : Nat} {owner : Report → Bool} {outputs : List Output}
    (result : c.head id owner = (none, outputs)) : c.failed = true := by
  cases failed : c.failed with
  | true => rfl
  | false =>
      rw [head_of_alive failed] at result
      cases result

theorem head_kept {c c' : Conn net} {id : Nat} {owner : Report → Bool} {outputs : List Output}
    (result : c.head id owner = (some c', outputs)) : c.failed = false := by
  cases failed : c.failed with
  | false => rfl
  | true =>
      rw [head_of_failed failed] at result
      cases result

theorem sendPending_undisturbed (lawful : net.Lawful) (c : Conn net) (id : Nat) :
    Undisturbed c (c.sendPending id).1 ∧
      (c.sendPending id).1.st.established = c.st.established ∧
      net.state (c.sendPending id).1.socket = net.state c.socket := by
  unfold sendPending
  split
  · split
    · rename_i sent socket took
      have kept := lawful.send_state c.socket c.st.pending sent socket took
      exact ⟨⟨kept.2.1, kept.2.2⟩, rfl, kept.1⟩
    · exact ⟨.refl c, rfl, rfl⟩
  · exact ⟨.refl c, rfl, rfl⟩

theorem closeDrained_undisturbed (lawful : net.Lawful) (c : Conn net) (id : Nat) :
    Undisturbed c (c.closeDrained id).1 := by
  unfold closeDrained
  split
  · exact close_undisturbed lawful c
  · exact .refl c

theorem closeGone_undisturbed (lawful : net.Lawful) (c : Conn net) (id : Nat) (appGone : Bool) :
    Undisturbed c (c.closeGone id appGone).1 := by
  unfold closeGone
  split
  · exact close_undisturbed lawful c
  · exact .refl c

theorem closeHalf_undisturbed (lawful : net.Lawful) (c : Conn net) (id : Nat) :
    Undisturbed c (c.closeHalf id).1 := by
  unfold closeHalf
  split
  · exact close_undisturbed lawful c
  · exact .refl c

theorem head_undisturbed (lawful : net.Lawful) {c c' : Conn net} {id : Nat}
    {owner : Report → Bool} {outputs : List Output}
    (result : c.head id owner = (some c', outputs)) :
    Undisturbed c c' ∧
      c'.st.established = (c.st.established || net.state c.socket == .established) := by
  rw [head_of_alive (head_kept result), Prod.mk.injEq, Option.some.injEq] at result
  obtain ⟨rfl, _⟩ := result
  have looked : Undisturbed c (c.establish id owner).1 := by
    have socket := (c.establish_keeps id owner).2.2.2.1
    exact ⟨by rw [socket], by rw [socket]⟩
  have sent := sendPending_undisturbed lawful (c.establish id owner).1 id
  refine ⟨(looked.trans sent.1).trans (closeDrained_undisturbed lawful _ id), ?_⟩
  rw [(closeDrained_keeps _ id).1, sent.2.1, establish_established]

/-- What a first look can record. -/
theorem establish_records (c : Conn net) (id : Nat) (owner : Report → Bool) :
    (c.establish id owner).2 = [] ∨ (c.establish id owner).2 = [.reported id] ∨
      (c.establish id owner).2 = [.reportLost id] := by
  unfold establish
  split
  · split
    · exact Or.inl rfl
    · split
      · exact Or.inr (Or.inl rfl)
      · exact Or.inr (Or.inr rfl)
  · exact Or.inl rfl

/-- What the pass up to the receive loop records about a connection that stays. -/
theorem head_records {c c' : Conn net} {id : Nat} {owner : Report → Bool} {outputs : List Output}
    (result : c.head id owner = (some c', outputs)) :
    ∀ output ∈ outputs, output = .reported id ∨ output = .reportLost id ∨
      output = .serviced id (net.handshakeDone c.socket) ∨
      (∃ data, output = .handed id data) ∨ output = .closed id := by
  rw [head_of_alive (head_kept result), Prod.mk.injEq] at result
  obtain ⟨_, rfl⟩ := result
  intro output member
  simp only [List.mem_append] at member
  rcases member with ((looked | served) | sent) | shut
  · rcases c.establish_records id owner with none_ | reported | lost
    · rw [none_] at looked
      cases looked
    · rw [reported] at looked
      exact Or.inl (List.mem_singleton.mp looked)
    · rw [lost] at looked
      exact Or.inr (Or.inl (List.mem_singleton.mp looked))
  · exact Or.inr (Or.inr (Or.inl (List.mem_singleton.mp served)))
  · unfold sendPending at sent
    split at sent
    · split at sent
      · exact Or.inr (Or.inr (Or.inr (Or.inl ⟨_, List.mem_singleton.mp sent⟩)))
      · cases sent
    · cases sent
  · unfold closeDrained at shut
    split at shut
    · exact Or.inr (Or.inr (Or.inr (Or.inr (List.mem_singleton.mp shut))))
    · cases shut

/-- What is handed to the socket leaves the front of the pending bytes. -/
theorem sendPending_handed (c : Conn net) (id : Nat) :
    (c.sendPending id).1.st.halfClosed = c.st.halfClosed ∧
      ((c.sendPending id).2 = [] ∧ (c.sendPending id).1.st.pending = c.st.pending ∨
        ∃ data, (c.sendPending id).2 = [.handed id data] ∧
          c.st.pending = data ++ (c.sendPending id).1.st.pending) := by
  unfold sendPending
  split
  · split
    · rename_i sent socket took
      exact ⟨rfl, Or.inr ⟨c.st.pending.take sent, rfl, (List.take_append_drop _ _).symm⟩⟩
    · exact ⟨rfl, Or.inl ⟨rfl, rfl⟩⟩
  · exact ⟨rfl, Or.inl ⟨rfl, rfl⟩⟩

/-- The app's close waits for its bytes. -/
theorem closeDrained_records (c : Conn net) (id : Nat) :
    (c.closeDrained id).2 = [] ∨ (c.closeDrained id).2 = [.closed id] ∧ c.st.pending = [] := by
  unfold closeDrained
  split
  · rename_i drained
    rw [Bool.and_eq_true, List.isEmpty_iff] at drained
    exact Or.inr ⟨rfl, drained.2⟩
  · exact Or.inl rfl

theorem afterClose_closed {state : SocketState} (started : state.opening = false)
    (closed : state.afterClose = .closed) : state = .closed := by
  cases state <;> first | rfl | exact absurd started (by decide) | exact absurd closed (by decide)

/-- After the handshake, only a socket that was closed before is closed after the first close. -/
theorem closeGone_closed (lawful : net.Lawful) {c : Conn net} (id : Nat) (appGone : Bool)
    (done : net.handshakeDone c.socket = true) :
    net.state (c.closeGone id appGone).1.socket = .closed ↔ net.state c.socket = .closed := by
  unfold closeGone
  cases appGone with
  | false => exact Iff.rfl
  | true =>
      simp only [if_true, close]
      rw [lawful.close_state]
      constructor
      · exact afterClose_closed (lawful.done_state c.socket done)
      · intro closed
        rw [closed]
        rfl

theorem closeGone_records (c : Conn net) (id : Nat) (appGone : Bool) :
    (c.closeGone id appGone).2 = if appGone then [.closed id] else [] := by
  unfold closeGone
  split <;> rfl

theorem closeHalf_records (c : Conn net) (id : Nat) :
    (c.closeHalf id).2 = if net.state c.socket = .closeWait then [.closed id] else [] := by
  unfold closeHalf
  by_cases half : net.state c.socket = .closeWait
  · rw [if_pos half, if_pos (beq_iff_eq.mpr half)]
  · rw [if_neg half, if_neg (mt beq_iff_eq.mp half)]

/-- What the end of a pass can record. -/
theorem finish_records {c : Conn net} {id : Nat} {appGone : Bool} {kept : Option (Conn net)}
    {outputs : List Output} (result : c.finish id appGone = (kept, outputs)) :
    ∀ output ∈ outputs, output = .closed id ∨ output = c.removal id := by
  have closes : ∀ output ∈ (c.closeGone id appGone).2 ++
      ((c.closeGone id appGone).1.closeHalf id).2, output = .closed id := by
    intro output member
    rw [closeGone_records, closeHalf_records] at member
    rcases List.mem_append.mp member with gone | half
    · split at gone
      · exact List.mem_singleton.mp gone
      · cases gone
    · split at half
      · exact List.mem_singleton.mp half
      · cases half
  intro output member
  rw [show outputs = (c.finish id appGone).2 by rw [result]] at member
  unfold finish at member
  simp only at member
  split at member
  · rcases List.mem_append.mp member with early | last
    · exact Or.inl (closes output early)
    · exact Or.inr (List.mem_singleton.mp last)
  · exact Or.inl (closes output member)

/-- The removal of an established connection. -/
theorem finish_removed (lawful : net.Lawful) {c : Conn net} {id : Nat} {appGone : Bool}
    {outputs : List Output}
    (done : c.st.established = true → net.handshakeDone c.socket = true)
    (result : c.finish id appGone = (none, outputs)) :
    c.st.established = true ∧ net.state c.socket = .closed ∧
      outputs = (if appGone then [.closed id] else []) ++ [c.removal id] := by
  unfold finish at result
  simp only at result
  split at result
  · rename_i ended
    rw [Bool.and_eq_true, beq_iff_eq, (closeHalf_keeps _ id).1, (c.closeGone_keeps id appGone).1]
      at ended
    rw [Prod.mk.injEq, closeGone_records, closeHalf_records, ended.1] at result
    have notHalf : SocketState.closed ≠ .closeWait := by decide
    rw [if_neg notHalf, List.append_nil] at result
    exact ⟨ended.2, (closeGone_closed lawful id appGone (done ended.2)).mp ended.1, result.2.symm⟩
  · cases result

theorem finish_kept (lawful : net.Lawful) {c c' : Conn net} {id : Nat} {appGone : Bool}
    {outputs : List Output} (result : c.finish id appGone = (some c', outputs)) :
    c'.st = c.st ∧ Undisturbed c c' ∧ (∀ output ∈ outputs, output = .closed id) ∧
      outputs = (if appGone then [.closed id] else []) ++
        if net.state (c.closeGone id appGone).1.socket = .closeWait then [.closed id] else [] := by
  unfold finish at result
  simp only at result
  split at result
  · cases result
  · rw [Prod.mk.injEq, Option.some.injEq, closeGone_records, closeHalf_records] at result
    obtain ⟨rfl, rfl⟩ := result
    refine ⟨?_, ?_, ?_, rfl⟩
    · rw [(closeHalf_keeps _ id).1, (c.closeGone_keeps id appGone).1]
    · exact (closeGone_undisturbed lawful c id appGone).trans (closeHalf_undisturbed lawful _ id)
    · intro output member
      rcases List.mem_append.mp member with gone | half
      · split at gone
        · exact List.mem_singleton.mp gone
        · cases gone
      · split at half
        · exact List.mem_singleton.mp half
        · cases half

/-- A turn of the receive loop that delivers: the next slice moves to the app's channel. -/
theorem receive_chunk (lawful : net.Lawful) {c c' : Conn net} {count : Nat} {bytes : List UInt8}
    (result : c.receive count = .chunk c' bytes) :
    net.slices c.socket = bytes :: net.slices c'.socket ∧
      net.handshakeDone c'.socket = net.handshakeDone c.socket ∧
      net.state c'.socket = net.state c.socket ∧
      ∃ room, c'.st = { c.st with toApp := c.st.toApp.push bytes room } := by
  unfold receive at result
  split at result
  · split at result
    · rename_i room
      split at result
      · rename_i readable
        cases slices : net.slices c.socket with
        | nil => exact absurd slices ((lawful.canRecv_iff c.socket).mp readable)
        | cons slice rest =>
            obtain ⟨later, got, left, state, done⟩ := lawful.recv_slice c.socket slice rest slices
            simp only [got] at result
            split at result
            · cases result
            · cases result
              exact ⟨by rw [left], done, state, room, rfl⟩
      · cases result
    · cases result
  · cases result

/-- The receive loop stops without touching the connection, and only with nothing left to read, a
full channel, a receiver that is gone, or after its share of chunks. -/
theorem receive_stop (lawful : net.Lawful) {c c' : Conn net} {count : Nat} {appGone : Bool}
    (result : c.receive count = .stop c' appGone) :
    c' = c ∧ (net.slices c.socket = [] ∨ maxRecvChunks ≤ count ∨ c.st.toApp.hasRoom = false) ∧
      (appGone = true → c.st.toApp.receiverAlive = false) := by
  unfold receive at result
  split at result
  · split at result
    · split at result
      · rename_i readable
        cases slices : net.slices c.socket with
        | nil => exact absurd slices ((lawful.canRecv_iff c.socket).mp readable)
        | cons slice rest =>
            obtain ⟨later, got, _⟩ := lawful.recv_slice c.socket slice rest slices
            simp only [got] at result
            split at result
            · rename_i empty
              rw [List.isEmpty_iff] at empty
              have nonempty := lawful.slice_nonempty c.socket
              rw [slices, empty] at nonempty
              exact absurd List.mem_cons_self nonempty
            · cases result
      · rename_i nothing
        cases result
        refine ⟨rfl, Or.inl ?_, fun gone => by cases gone⟩
        by_contra left
        exact nothing ((lawful.canRecv_iff c.socket).mpr left)
    · rename_i full
      cases result
      refine ⟨rfl, Or.inr (Or.inr (Bool.eq_false_iff.mpr full)), ?_⟩
      intro gone
      rw [Bool.not_eq_true'] at gone
      exact gone
  · rename_i done
    cases result
    exact ⟨rfl, Or.inr (Or.inl (not_lt.mp done)), fun gone => by cases gone⟩

end Conn

end MolidoVpn.Netstack
