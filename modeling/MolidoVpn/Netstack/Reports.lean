import MolidoVpn.Netstack.Delivery

/-!
Who learns of a connection: a pass reports it when it first sees it established,
and so a connection is reported exactly when its handshake has completed, and
nothing more has happened, by the time of a pass.
-/

namespace MolidoVpn.Netstack

open Buffered (sockets pollEvent connecting turn idleTurn)
open History (Every)
open Transition (Run Restrict ofNext execute executeChecked run_of_execute run_of_executeChecked)

/-- No connection is reported twice, and a pass that comes to one whose handshake is done finds it
reported, or reports it, unless nobody took the report. -/
def ReportedOnce (before : List Output) : Output → Prop
  | .reported id => .reported id ∉ before
  | .serviced id true => .reportLost id ∉ before → before.count (.reported id) = 1
  | _ => True

/-- The first pass after the handshake of a connection finds its socket established, and an opener
to answer. -/
def ReportsInTime {net : Smoltcp} (_ : Nat) (track : Track net) : Work → Prop
  | .head _ => track.Holding fun c _ =>
      net.handshakeDone c.socket = true → c.st.established = false →
        net.state c.socket = .established ∧ c.st.connectResp = true ∧ c.st.fromStackRx = true
  | _ => True

/-- Reports and deliveries are both in time. -/
def ServesInTime {net : Smoltcp} (id : Nat) (track : Track net) (work : Work) : Prop :=
  ReportsInTime id track work ∧ DrainsInTime true id track work

instance {net : Smoltcp} (id : Nat) (track : Track net) (work : Work) :
    Decidable (ReportsInTime id track work) :=
  match work with
  | .head _ => inferInstanceAs (Decidable (track.Holding _))
  | .receive => isTrue trivial
  | .finish => isTrue trivial

instance {net : Smoltcp} (id : Nat) (track : Track net) (work : Work) :
    Decidable (ServesInTime id track work) :=
  inferInstanceAs (Decidable (_ ∧ _))

variable {net : Smoltcp}

namespace Conn

variable {c : Conn net} {id : Nat} {owner : Report → Bool}

theorem establish_of_seen (seen : c.st.established = true) : c.establish id owner = (c, []) := by
  unfold establish
  rw [seen]
  rfl

/-- The first look at a connection whose opener waits for an answer. -/
theorem establish_of_new (unseen : c.st.established = false)
    (established : net.state c.socket = .established) (opener : c.st.connectResp = true)
    (receiver : c.st.fromStackRx = true) :
    (c.establish id owner).2 =
      if owner .respond then [.reported id] else [.reportLost id] := by
  have first : (!c.st.established && net.state c.socket == .established) = true := by
    rw [unseen, established]
    rfl
  have report : c.st.report =
      (.respond, { c.st with established := true, connectResp := false, fromStackRx := false }) := by
    rw [TcpState.report, opener, receiver]
    rfl
  unfold establish
  rw [if_pos first, report]
  by_cases takes : owner .respond = true
  · rw [if_pos takes]
    simp only [takes, if_true]
  · rw [if_neg takes]
    simp only [takes, Bool.false_eq_true, if_false]

end Conn

/-- These records are of no report and no look at a connection. -/
private def Mute : Output → Prop
  | .reported _ => False
  | .reportLost _ => False
  | .serviced _ _ => False
  | _ => True

private theorem mute_silent {output : Output} (mute : Mute output) (before : List Output) :
    ReportedOnce before output := by
  cases output <;> trivial

private theorem mute_append (id : Nat) (log : List Output) {outputs : List Output}
    (mute : ∀ output ∈ outputs, Mute output) :
    (.reported id ∈ log ++ outputs ↔ .reported id ∈ log) ∧
      (.reportLost id ∈ log ++ outputs ↔ .reportLost id ∈ log) ∧
      (log ++ outputs).count (.reported id) = log.count (.reported id) := by
  have reported : Output.reported id ∉ outputs := fun member => mute _ member
  have lost : Output.reportLost id ∉ outputs := fun member => mute _ member
  refine ⟨?_, ?_, ?_⟩
  · rw [List.mem_append, or_iff_left reported]
  · rw [List.mem_append, or_iff_left lost]
  · rw [List.count_append, List.count_eq_zero_of_not_mem reported, Nat.add_zero]

/-- The invariant of one connection. -/
structure Reported (id : Nat) (track : Track net) : Prop where
  once : Every ReportedOnce track.log
  unseen : ∀ c stage, track.live = some (c, stage) → c.st.established = false →
    .reported id ∉ track.log ∧ .reportLost id ∉ track.log
  seen : ∀ c stage, track.live = some (c, stage) → c.st.established = true →
    .reportLost id ∈ track.log ∨ track.log.count (.reported id) = 1

namespace Reported

variable {id : Nat} {c c' : Conn net} {log outputs : List Output}

private theorem gone (once : Every ReportedOnce log) : Reported id (⟨none, log⟩ : Track net) :=
  { once := once
    unseen := fun _ _ absent => by cases absent
    seen := fun _ _ absent => by cases absent }

private theorem on {stage : Stage} (once : Every ReportedOnce log)
    (unseen : c.st.established = false → .reported id ∉ log ∧ .reportLost id ∉ log)
    (seen : c.st.established = true →
      .reportLost id ∈ log ∨ log.count (.reported id) = 1) :
    Reported id ⟨some (c, stage), log⟩ := by
  refine ⟨once, ?_, ?_⟩
  · intro _ _ same
    cases same
    exact unseen
  · intro _ _ same
    cases same
    exact seen

private theorem on_mute {stage : Stage} (stage' : Stage)
    (before : Reported id (⟨some (c, stage), log⟩ : Track net))
    (mute : ∀ output ∈ outputs, Mute output)
    (same : c'.st.established = c.st.established) :
    Reported id ⟨some (c', stage'), log ++ outputs⟩ := by
  obtain ⟨reported, lost, count⟩ := mute_append id log mute
  refine on (before.once.append_silent fun output member => mute_silent (mute output member)) ?_ ?_
  · rw [same, reported, lost]
    exact before.unseen c stage rfl
  · rw [same, lost, count]
    exact before.seen c stage rfl

/-- The first look at a connection, with the record that a pass came to it. -/
private theorem looked (lawful : net.Lawful) (owner : Report → Bool)
    (inTime : net.handshakeDone c.socket = true → c.st.established = false →
      net.state c.socket = .established ∧ c.st.connectResp = true ∧ c.st.fromStackRx = true)
    (before : Reported id (⟨some (c, .idle), log⟩ : Track net)) :
    Reported id (⟨some ((c.establish id owner).1, .idle),
      log ++ (c.establish id owner).2 ++ [.serviced id (net.handshakeDone c.socket)]⟩ :
        Track net) := by
  have after := c.establish_established id owner
  have served (done : Bool) : Output.serviced id done ≠ .reported id ∧
      Output.serviced id done ≠ .reportLost id := ⟨Output.noConfusion, Output.noConfusion⟩
  cases established : c.st.established with
  | true =>
      have seen := before.seen c .idle rfl established
      rw [Conn.establish_of_seen established, List.append_nil]
      refine on (before.once.snoc ?_) ?_ ?_
      · cases net.handshakeDone c.socket with
        | false => trivial
        | true => exact fun present => seen.resolve_left present
      · intro unseen
        rw [established] at unseen
        cases unseen
      · intro _
        have unheard (done : Bool) : [Output.serviced id done].count (.reported id) = 0 :=
          List.count_eq_zero_of_not_mem
            fun member => (served done).1 (List.mem_singleton.mp member).symm
        rw [List.mem_append, List.count_append, unheard, Nat.add_zero]
        exact seen.imp Or.inl (fun once => once)
  | false =>
      obtain ⟨notReported, notLost⟩ := before.unseen c .idle rfl established
      cases done : net.handshakeDone c.socket with
      | false =>
          have early : net.state c.socket ≠ .established := by
            intro now
            rw [lawful.established_done c.socket now] at done
            cases done
          rw [Conn.establish_of_over c id owner early, List.append_nil]
          refine on (before.once.snoc trivial) ?_ ?_
          · intro _
            simp only [List.mem_append, List.mem_singleton, not_or]
            exact ⟨⟨notReported, (served false).1.symm⟩, notLost, (served false).2.symm⟩
          · intro now
            rw [established] at now
            cases now
      | true =>
          obtain ⟨state, opener, receiver⟩ := inTime done established
          have nothing : log.count (.reported id) = 0 := List.count_eq_zero_of_not_mem notReported
          rw [established, state] at after
          rw [Conn.establish_of_new established state opener receiver]
          split
          · have once : Every ReportedOnce (log ++ [.reported id]) := before.once.snoc notReported
            refine on (once.snoc ?_) ?_ ?_
            · intro _
              rw [List.count_append, nothing, List.count_singleton_self]
            · intro unseen
              rw [after] at unseen
              cases unseen
            · intro _
              right
              rw [List.count_append, List.count_append, nothing, List.count_singleton_self,
                List.count_eq_zero_of_not_mem]
              exact fun member => (served true).1 (List.mem_singleton.mp member).symm
          · have once : Every ReportedOnce (log ++ [.reportLost id]) := before.once.snoc trivial
            refine on (once.snoc ?_) ?_ ?_
            · intro present
              exact absurd (List.mem_append_right _ (List.mem_singleton.mpr rfl)) present
            · intro unseen
              rw [after] at unseen
              cases unseen
            · intro _
              left
              exact List.mem_append_left _ (List.mem_append_right _ (List.mem_singleton.mpr rfl))

private theorem send_mute (c : Conn net) (id : Nat) : ∀ output ∈ (c.sendPending id).2, Mute output := by
  intro output member
  rcases c.sendPending_handed id with ⟨_, ⟨unsent, _⟩ | ⟨data, sent, _⟩⟩
  · rw [unsent] at member
    cases member
  · rw [sent] at member
    rw [List.mem_singleton.mp member]
    trivial

private theorem shut_mute (c : Conn net) (id : Nat) : ∀ output ∈ (c.closeDrained id).2, Mute output := by
  intro output member
  rcases c.closeDrained_records id with open_ | ⟨closed, _⟩
  · rw [open_] at member
    cases member
  · rw [closed] at member
    rw [List.mem_singleton.mp member]
    trivial

private theorem singleton_mute {output : Output} (mute : Mute output) :
    ∀ other ∈ [output], Mute other := by
  intro other member
  rw [List.mem_singleton.mp member]
  exact mute

/-- What one step of a connection that is served in time preserves. -/
theorem step (lawful : net.Lawful) {track track' : Track net} {work : Option Work}
    (taken : ConnStep id track work track') (met : OnWork ReportsInTime id track work)
    (before : Reported id track) : Reported id track' := by
  cases taken with
  | opened opening =>
      rename_i c output
      have fresh : Mute output ∧ c.st.established = false := by
        cases opening with
        | connect handle appQueue number made => exact ⟨trivial, rfl⟩
        | listen handle appQueue made => exact ⟨trivial, rfl⟩
      refine on (History.every_nil.snoc (mute_silent fresh.1 [])) ?_ ?_
      · intro _
        have mute := singleton_mute fresh.1
        exact ⟨fun member => mute _ member, fun member => mute _ member⟩
      · intro established
        rw [fresh.2] at established
        cases established
  | polled segments => exact before.on_mute _ (singleton_mute trivial) rfl
  | headRemoved result =>
      rename_i c log outputs owner
      have failed := Conn.head_removed result
      obtain ⟨unseen, ended⟩ := Conn.failed_state failed
      rw [Conn.head_of_failed failed, Prod.mk.injEq] at result
      obtain ⟨_, rfl⟩ := result
      have notDone : net.handshakeDone c.socket = false := by
        cases done : net.handshakeDone c.socket with
        | false => rfl
        | true =>
            have now := (met _ rfl c .idle rfl done unseen).1
            rw [now] at ended
            rcases ended with ended | ended <;> cases ended
      apply gone
      apply before.once.append_silent
      intro output member earlier
      rw [notDone] at member
      rcases List.mem_append.mp member with first | last
      · rcases List.mem_append.mp first with served | refused
        · rw [List.mem_singleton.mp served]
          trivial
        · split at refused
          · rw [List.mem_singleton.mp refused]
            trivial
          · cases refused
      · rw [List.mem_singleton.mp last]
        trivial
  | headKept result =>
      rename_i c c' log outputs owner
      rw [Conn.head_of_alive (Conn.head_kept result), Prod.mk.injEq, Option.some.injEq] at result
      obtain ⟨rfl, rfl⟩ := result
      have first := looked lawful owner (met _ rfl c .idle rfl) before
      have sent := first.on_mute .idle (send_mute (c.establish id owner).1 id)
        (Conn.sendPending_undisturbed lawful _ id).2.1
      have shut := sent.on_mute (.receiving 0)
        (shut_mute ((c.establish id owner).1.sendPending id).1 id)
        (congrArg TcpState.established (Conn.closeDrained_keeps _ id).1)
      simp only [List.append_assoc] at shut ⊢
      exact shut
  | delivered result =>
      obtain ⟨_, _, _, room, st⟩ := Conn.receive_chunk lawful result
      exact before.on_mute _ (singleton_mute trivial) (by rw [st])
  | stopped result =>
      obtain ⟨rfl, _, _⟩ := Conn.receive_stop lawful result
      exact on before.once (before.unseen _ _ rfl) (before.seen _ _ rfl)
  | finishRemoved result =>
      apply gone
      apply before.once.append_silent
      intro output member earlier
      rcases Conn.finish_records result output member with rfl | rfl <;> trivial
  | finishKept result =>
      rename_i c c' log outputs appGone
      obtain ⟨st, _, closes, _⟩ := Conn.finish_kept lawful result
      refine before.on_mute _ ?_ (by rw [st])
      intro output member
      rw [closes output member]
      trivial
  | accepted bytes => exact before.on_mute _ (singleton_mute trivial) rfl
  | appClosed => exact before.on_mute _ (singleton_mute trivial) rfl
  | appTook took =>
      rename_i c stage log chunk toApp
      exact on before.once (before.unseen c stage rfl) (before.seen c stage rfl)
  | appDropped => exact before.on_mute _ (singleton_mute trivial) rfl

end Reported

private theorem reportedOnce_none (before : List Output) (output : Output)
    (nobody : output.conn = none) : ReportedOnce before output := by
  cases output <;> trivial

private theorem reportedOnce_of_own (id : Nat) (before : List Output) (output : Output)
    (about : output.conn = some id) (part : ReportedOnce (own id before) output) :
    ReportedOnce before output := by
  have kept {record : Output} (same : record.conn = some id) :
      record ∈ own id before ↔ record ∈ before := by
    rw [own, List.mem_filter, beq_iff_eq]
    exact and_iff_left same
  cases output with
  | reported other =>
      cases about
      exact mt (kept rfl).mpr part
  | serviced other done =>
      cases about
      cases done with
      | false => trivial
      | true =>
          intro present
          have same : (own id before).count (.reported id) = before.count (.reported id) :=
            List.count_filter (beq_self_eq_true (some id))
          rw [← same]
          exact part (mt (kept rfl).mp present)
  | _ => trivial

private theorem onServed_mono {first second : Nat → Track net → Work → Prop}
    (implied : ∀ id track work, first id track work → second id track work) {start s : NetStack net}
    {events : List (Event net)}
    (run : Run (Restrict (ofNext step) (OnServed first)) start events s) :
    Run (Restrict (ofNext step) (OnServed second)) start events s :=
  run.mono fun _ _ _ taken => ⟨taken.1, fun id work served => implied _ _ _ (taken.2 id work served)⟩

/-- In every run whose passes serve in time, a connection whose handshake is done is reported
exactly once, and what it has received is delivered before it is removed. -/
theorem connections_reported (lawful : net.Lawful) {appQueue : Nat}
    {v4 : Option (Ipv4Addr × UInt8)} {v6 : Option (Ipv6Addr × UInt8)} {events : List (Event net)}
    {s : NetStack net}
    (run : Run (Restrict (ofNext step) (OnServed ServesInTime)) (NetStack.spawn net appQueue v4 v6)
      events s) : Every ReportedOnce s.trace ∧ Every (Drained true) s.trace := by
  constructor
  · refine every_of_own ?_ reportedOnce_none reportedOnce_of_own
    intro id
    obtain ⟨works, own⟩ := track_run (onServed_mono (fun _ _ _ both => both.1) run) id
    have reported : Reported id (s.track id) :=
      own.invariant (Reported id) (fun _ _ _ taken before => before.step lawful taken.1 taken.2)
        (Reported.gone History.every_nil)
    exact reported.once
  · exact drained_of_run lawful (onServed_mono (fun _ _ _ both => both.2) run)

/-- A server that answers and closes: the opener hears of the connection and gets the answer. -/
theorem connections_reported_reply :
    ∃ s, executeChecked step (fun s event => decide (OnServed ServesInTime s event))
        (NetStack.spawn (sockets 131072) 128 none none)
        (connecting { ip := .v4 ⟨93, 184, 216, 34⟩, port := 443 } ++ idleTurn [.synAck] 0 ++
          idleTurn [.data [1, 2], .fin] 1 ++ idleTurn [.ack] 0) = some s ∧
      .reported 1 ∈ s.trace ∧ .delivered 1 [1, 2] ∈ s.trace ∧
      Every ReportedOnce s.trace ∧ Every (Drained true) s.trace := by
  have checked : (executeChecked step (fun s event => decide (OnServed ServesInTime s event))
        (NetStack.spawn (sockets 131072) 128 none none)
        (connecting { ip := .v4 ⟨93, 184, 216, 34⟩, port := 443 } ++ idleTurn [.synAck] 0 ++
          idleTurn [.data [1, 2], .fin] 1 ++ idleTurn [.ack] 0)).map
        (fun s => decide (Output.reported 1 ∈ s.trace ∧ .delivered 1 [1, 2] ∈ s.trace)) =
      some true := by rfl
  obtain ⟨s, executed, observed⟩ := Option.map_eq_some_iff.mp checked
  obtain ⟨reported, delivered⟩ := of_decide_eq_true observed
  refine ⟨s, executed, reported, delivered, ?_⟩
  apply connections_reported (Buffered.lawful 131072)
  apply (run_of_executeChecked executed).mono
  intro source event target taken
  exact ⟨taken.1, of_decide_eq_true taken.2⟩

/-- SYN-ACK, an answer and FIN in one poll: the pass finds `CloseWait` and reports nothing, and the
opener is answered with a refusal when the connection is over. -/
theorem short_connection_unreported :
    ¬∀ events s, Run (ofNext step) (NetStack.spawn (sockets 131072) 128 none none) events s →
      Every ReportedOnce s.trace := by
  intro claim
  have checked : (execute step (NetStack.spawn (sockets 131072) 128 none none)
        (connecting { ip := .v4 ⟨93, 184, 216, 34⟩, port := 443 } ++
          [pollEvent [.synAck, .data [1, 2], .fin] [1], .serviceHead true])).map
        (fun s => s.trace) =
      some ([.connecting 1 { ip := .v4 ⟨93, 184, 216, 34⟩, port := 443 } 49152 0,
        .arrived 1 [1, 2]] ++ [.serviced 1 true]) := rfl
  obtain ⟨s, executed, trace⟩ := Option.map_eq_some_iff.mp checked
  have once := claim _ s (run_of_execute executed) _ _ [] trace (by decide)
  revert once
  decide

end MolidoVpn.Netstack
