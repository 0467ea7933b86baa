import MolidoVpn.Netstack.Buffered
import MolidoVpn.Netstack.Passes

/-!
From the receive buffer to the app: what arrived is what was delivered followed
by what the buffer still holds, and so a connection loses bytes exactly when it
is removed with bytes in the buffer.
-/

namespace MolidoVpn.Netstack

open History (Every)
open Buffered (sockets connecting idleTurn)
open Transition (Run Restrict ofNext execute executeChecked run_of_execute run_of_executeChecked)

/-- The chunks that went into the app's channel. -/
def deliveredBytes (id : Nat) (outputs : List Output) : List UInt8 :=
  outputs.flatMap fun
    | .delivered other chunk => if other = id then chunk else []
    | _ => []

/-- The bytes that polls added to the receive buffer. -/
def arrivedBytes (id : Nat) (outputs : List Output) : List UInt8 :=
  outputs.flatMap fun
    | .arrived other bytes => if other = id then bytes else []
    | _ => []

/-- Nobody is there to read: the app dropped its receiver, or the opener was gone. -/
def AppGone (id : Nat) (outputs : List Output) : Prop :=
  .appDropped id ∈ outputs ∨ .reportLost id ∈ outputs

instance (id : Nat) (outputs : List Output) : Decidable (AppGone id outputs) :=
  inferInstanceAs (Decidable (_ ∨ _))

/-- A connection is removed after the remote's FIN, or `always`, only when all that arrived was
delivered. -/
def Drained (always : Bool) (before : List Output) : Output → Prop
  | .removed id fin _ =>
      (always || fin) = true → ¬AppGone id before →
        deliveredBytes id before = arrivedBytes id before
  | _ => True

/-- A never established connection that is over has nothing to read; the receive loop of an
established one whose socket is closed finds a free place for every slice that is left. -/
def DrainsInTime {net : Smoltcp} (always : Bool) (id : Nat) (track : Track net) : Work → Prop
  | .head _ => track.Holding fun c _ =>
      c.failed = true → (always || net.finArrived c.socket) = true → ¬AppGone id track.log →
        net.slices c.socket = []
  | .receive => track.Holding fun c stage =>
      net.state c.socket = .closed → c.st.established = true →
        (always || net.finArrived c.socket) = true → ¬AppGone id track.log →
          net.slices c.socket ≠ [] →
            stage.delivered < maxRecvChunks ∧ c.st.toApp.hasRoom = true
  | .finish => True

instance {net : Smoltcp} (always : Bool) (id : Nat) (track : Track net) (work : Work) :
    Decidable (DrainsInTime always id track work) :=
  match work with
  | .head _ => inferInstanceAs (Decidable (track.Holding _))
  | .receive => inferInstanceAs (Decidable (track.Holding _))
  | .finish => isTrue trivial

variable {net : Smoltcp}

section Bytes

variable (id : Nat)

theorem deliveredBytes_append (first second : List Output) :
    deliveredBytes id (first ++ second) = deliveredBytes id first ++ deliveredBytes id second :=
  List.flatMap_append

theorem arrivedBytes_append (first second : List Output) :
    arrivedBytes id (first ++ second) = arrivedBytes id first ++ arrivedBytes id second :=
  List.flatMap_append

/-- Only arrivals and deliveries move received bytes. -/
private def Still : Output → Prop
  | .arrived _ _ => False
  | .delivered _ _ => False
  | _ => True

private theorem still_bytes {outputs : List Output} (still : ∀ output ∈ outputs, Still output) :
    deliveredBytes id outputs = [] ∧ arrivedBytes id outputs = [] := by
  constructor
  · apply List.flatMap_eq_nil_iff.mpr
    intro output member
    split
    · exact (still _ member).elim
    · rfl
  · apply List.flatMap_eq_nil_iff.mpr
    intro output member
    split
    · exact (still _ member).elim
    · rfl

private theorem own_bytes (outputs : List Output) :
    deliveredBytes id (own id outputs) = deliveredBytes id outputs ∧
      arrivedBytes id (own id outputs) = arrivedBytes id outputs := by
  constructor
  · apply flatMap_own
    intro output about
    split
    · exact if_neg (fun same => about (congrArg some same))
    · rfl
  · apply flatMap_own
    intro output about
    split
    · exact if_neg (fun same => about (congrArg some same))
    · rfl

private theorem own_appGone (outputs : List Output) :
    AppGone id (own id outputs) ↔ AppGone id outputs := by
  unfold AppGone own
  simp only [List.mem_filter, Output.conn, beq_self_eq_true, and_true]

end Bytes

/-- The invariant of one connection. -/
structure Intact (always : Bool) (id : Nat) (track : Track net) : Prop where
  removed : Every (Drained always) track.log
  bytes : ∀ c stage, track.live = some (c, stage) →
    arrivedBytes id track.log = deliveredBytes id track.log ++ net.received c.socket
  done : ∀ c stage, track.live = some (c, stage) → c.st.established = true →
    net.handshakeDone c.socket = true
  finishing : ∀ c appGone, track.live = some (c, .finishing appGone) →
    net.state c.socket = .closed → c.st.established = true →
      (always || net.finArrived c.socket) = true → ¬AppGone id track.log →
        net.slices c.socket = []

section Still

variable {always : Bool} {c c' : Conn net} {id : Nat} {outputs : List Output}

private theorem head_still {owner : Report → Bool}
    (result : c.head id owner = (some c', outputs)) : ∀ output ∈ outputs, Still output := by
  intro output member
  rcases Conn.head_records result output member with rfl | rfl | rfl | ⟨data, rfl⟩ | rfl
  all_goals trivial

private theorem finish_still (closes : ∀ output ∈ outputs, output = .closed id) :
    ∀ output ∈ outputs, Still output := by
  intro output member
  rw [closes output member]
  exact trivial

private theorem head_silent {owner : Report → Bool}
    (result : c.head id owner = (some c', outputs)) :
    ∀ output ∈ outputs, ∀ before, Drained always before output := by
  intro output member before
  rcases Conn.head_records result output member with rfl | rfl | rfl | ⟨data, rfl⟩ | rfl <;>
    trivial

private theorem bytes_append_still {log : List Output} {rest : List UInt8}
    (before : arrivedBytes id log = deliveredBytes id log ++ rest)
    (still : ∀ output ∈ outputs, Still output) :
    arrivedBytes id (log ++ outputs) = deliveredBytes id (log ++ outputs) ++ rest := by
  obtain ⟨delivered, arrived⟩ := still_bytes id still
  rw [arrivedBytes_append, deliveredBytes_append, arrived, delivered, List.append_nil,
    List.append_nil, before]

private theorem appGone_append {log : List Output} (gone : AppGone id log) :
    AppGone id (log ++ outputs) := by
  rcases gone with dropped | lost
  · exact Or.inl (List.mem_append_left _ dropped)
  · exact Or.inr (List.mem_append_left _ lost)

end Still

namespace Intact

variable {always : Bool} {id : Nat} {c c' : Conn net} {log outputs : List Output}

private theorem gone (every : Every (Drained always) log) : Intact always id (⟨none, log⟩ : Track net) :=
  { removed := every
    bytes := fun _ _ absent => by cases absent
    done := fun _ _ absent => by cases absent
    finishing := fun _ _ absent => by cases absent }

/-- An intact connection that goes on. -/
private theorem on {stage : Stage} (every : Every (Drained always) log)
    (bytes : arrivedBytes id log = deliveredBytes id log ++ net.received c.socket)
    (done : c.st.established = true → net.handshakeDone c.socket = true)
    (finishing : ∀ appGone, stage = .finishing appGone → net.state c.socket = .closed →
      c.st.established = true → (always || net.finArrived c.socket) = true → ¬AppGone id log →
        net.slices c.socket = []) : Intact always id ⟨some (c, stage), log⟩ := by
  refine ⟨every, ?_, ?_, ?_⟩
  · intro _ _ same
    cases same
    exact bytes
  · intro _ _ same
    cases same
    exact done
  · intro _ appGone same
    cases same
    exact finishing appGone rfl

private theorem removal_drained {init : List Output}
    (bytes : arrivedBytes id init = deliveredBytes id init ++ net.received c.socket)
    (empty : (always || net.finArrived c.socket) = true → ¬AppGone id init → net.slices c.socket = []) :
    Drained always init (c.removal id) := by
  intro counts present
  have nothing : net.received c.socket = [] := by
    rw [Smoltcp.received, empty counts present]
    rfl
  rw [bytes, nothing, List.append_nil]

/-- A connection that goes, with only silent records before that of the removal. -/
private theorem removed_with {stage : Stage} {pre : List Output}
    (before : Intact always id (⟨some (c, stage), log⟩ : Track net))
    (still : ∀ output ∈ pre, Still output ∧ ∀ earlier, Drained always earlier output)
    (empty : (always || net.finArrived c.socket) = true → ¬AppGone id log → net.slices c.socket = []) :
    Intact always id (⟨none, log ++ (pre ++ [c.removal id])⟩ : Track net) := by
  apply gone
  rw [← List.append_assoc]
  apply (before.removed.append_silent fun output member => (still output member).2).snoc
  apply removal_drained
  · exact bytes_append_still (before.bytes c stage rfl) fun output member => (still output member).1
  · intro fin present
    exact empty fin (fun gone => present (appGone_append gone))

/-- What one step of a connection that drains in time preserves. -/
theorem step (lawful : net.Lawful) {track track' : Track net} {work : Option Work}
    (taken : ConnStep id track work track') (met : OnWork (DrainsInTime always) id track work)
    (before : Intact always id track) : Intact always id track' := by
  cases taken with
  | opened opening =>
      rename_i c output
      have fresh : net.slices c.socket = [] ∧ (∀ earlier, Drained always earlier output) ∧
          Still output ∧ c.st.established = false := by
        cases opening with
        | connect handle appQueue number made =>
            exact ⟨(lawful.connect_new _ _ _ _ made).1, fun _ => trivial, trivial, rfl⟩
        | listen handle appQueue made =>
            exact ⟨(lawful.listen_new _ _ made).1, fun _ => trivial, trivial, rfl⟩
      obtain ⟨empty, silent, still, notYet⟩ := fresh
      refine on (before.removed.snoc (silent [])) ?_ ?_ (fun _ at_ => by cases at_)
      · have opened : ∀ other ∈ [output], Still other := by
          intro other member
          rw [List.mem_singleton.mp member]
          exact still
        rw [(still_bytes id opened).1, (still_bytes id opened).2, Smoltcp.received, empty]
        rfl
      · intro established
        rw [notYet] at established
        cases established
  | polled segments =>
      rename_i c log
      obtain ⟨more, grows⟩ := lawful.poll_received segments c.socket
      have new : NetStack.newBytes segments c.socket = more := by
        rw [NetStack.newBytes, ← grows, List.drop_left]
      refine on (before.removed.snoc trivial) ?_ ?_ (fun _ at_ => by cases at_)
      · have bytes := before.bytes c .idle rfl
        rw [arrivedBytes_append, deliveredBytes_append, bytes, ← grows, new]
        simp only [arrivedBytes, deliveredBytes, List.flatMap_cons, List.flatMap_nil, if_true,
          List.append_nil, List.append_assoc]
      · intro established
        exact lawful.poll_done segments c.socket (before.done c .idle rfl established)
  | headRemoved result =>
      rename_i c log outputs owner
      have failed := Conn.head_removed result
      rw [Conn.head_of_failed failed, Prod.mk.injEq] at result
      obtain ⟨_, rfl⟩ := result
      refine removed_with before ?_ (met _ rfl c .idle rfl failed)
      intro output member
      rcases List.mem_append.mp member with served | refused
      · rw [List.mem_singleton.mp served]
        exact ⟨trivial, fun _ => trivial⟩
      · split at refused
        · rw [List.mem_singleton.mp refused]
          exact ⟨trivial, fun _ => trivial⟩
        · cases refused
  | headKept result =>
      rename_i c c' log outputs owner
      obtain ⟨same, established⟩ := Conn.head_undisturbed lawful result
      refine on (before.removed.append_silent (head_silent result)) ?_ ?_
        (fun _ at_ => by cases at_)
      · rw [same.received]
        exact bytes_append_still (before.bytes c .idle rfl) (head_still result)
      · rw [established, same.done, Bool.or_eq_true, beq_iff_eq]
        rintro (already | now)
        · exact before.done c .idle rfl already
        · exact lawful.established_done c.socket now
  | delivered result =>
      rename_i c c' log count bytes
      obtain ⟨slices, done, _, room, st⟩ := Conn.receive_chunk lawful result
      refine on (before.removed.snoc trivial) ?_ ?_ (fun _ at_ => by cases at_)
      · have moved := before.bytes c (.receiving count) rfl
        rw [Smoltcp.received, slices, List.flatten_cons] at moved
        rw [arrivedBytes_append, deliveredBytes_append, moved]
        simp only [arrivedBytes, deliveredBytes, List.flatMap_cons, List.flatMap_nil, if_true,
          List.append_nil, List.append_assoc, Smoltcp.received]
      · rw [done, st]
        exact before.done c (.receiving count) rfl
  | stopped result =>
      rename_i c c' log count appGone
      obtain ⟨rfl, why, _⟩ := Conn.receive_stop lawful result
      refine on before.removed (before.bytes _ _ rfl) (before.done _ _ rfl) ?_
      intro _ _ closed established fin present
      by_contra left
      obtain ⟨share, room⟩ := met _ rfl _ _ rfl closed established fin present left
      change count < maxRecvChunks at share
      rcases why with nothing | enough | full
      · exact left nothing
      · omega
      · rw [room] at full
        cases full
  | finishRemoved result =>
      rename_i c log outputs appGone
      obtain ⟨established, closed, rfl⟩ :=
        Conn.finish_removed lawful (before.done c _ rfl) result
      refine removed_with before ?_ (before.finishing c appGone rfl closed established)
      intro output member
      split at member
      · rw [List.mem_singleton.mp member]
        exact ⟨trivial, fun _ => trivial⟩
      · cases member
  | finishKept result =>
      rename_i c c' log outputs appGone
      obtain ⟨st, same, closes, _⟩ := Conn.finish_kept lawful result
      refine on (before.removed.append_silent ?_) ?_ ?_ (fun _ at_ => by cases at_)
      · intro output member earlier
        rw [closes output member]
        trivial
      · rw [same.received]
        exact bytes_append_still (before.bytes c _ rfl) (finish_still closes)
      · rw [st, same.done]
        exact before.done c _ rfl
  | accepted bytes =>
      rename_i c log
      refine on (before.removed.snoc trivial) ?_ (before.done c .idle rfl)
        (fun _ at_ => by cases at_)
      exact bytes_append_still (before.bytes c .idle rfl) (by
        intro output member
        rw [List.mem_singleton.mp member]
        exact trivial)
  | appClosed =>
      rename_i c log
      refine on (before.removed.snoc trivial) ?_ (before.done c .idle rfl)
        (fun _ at_ => by cases at_)
      exact bytes_append_still (before.bytes c .idle rfl) (by
        intro output member
        rw [List.mem_singleton.mp member]
        exact trivial)
  | appTook took =>
      rename_i c stage log chunk toApp
      exact on before.removed (before.bytes c stage rfl) (before.done c stage rfl) (by
        rintro appGone rfl
        exact before.finishing c appGone rfl)
  | appDropped =>
      rename_i c stage log
      refine on (before.removed.snoc trivial) ?_ (before.done c stage rfl) ?_
      · exact bytes_append_still (before.bytes c stage rfl) (by
          intro output member
          rw [List.mem_singleton.mp member]
          exact trivial)
      · intro _ _ _ _ _ present
        exact absurd (Or.inl (List.mem_append_right _ (List.mem_singleton.mpr rfl))) present

end Intact

private theorem drained_none (always : Bool) (before : List Output) (output : Output)
    (nobody : output.conn = none) : Drained always before output := by
  cases output <;> trivial

private theorem drained_of_own (always : Bool) (id : Nat) (before : List Output) (output : Output)
    (about : output.conn = some id) (part : Drained always (own id before) output) :
    Drained always before output := by
  cases output with
  | removed other fin aborted =>
      cases about
      intro counts present
      rw [← (own_bytes id before).1, ← (own_bytes id before).2]
      exact part counts (fun gone => present ((own_appGone id before).mp gone))
  | _ => trivial

/-- Received bytes reach the app in every run in which the passes drain in time. -/
theorem drained_of_run (lawful : net.Lawful) {always : Bool} {appQueue : Nat}
    {v4 : Option (Ipv4Addr × UInt8)} {v6 : Option (Ipv6Addr × UInt8)} {events : List (Event net)}
    {s : NetStack net}
    (run : Run (Restrict (ofNext step) (OnServed (DrainsInTime always)))
      (NetStack.spawn net appQueue v4 v6) events s) : Every (Drained always) s.trace := by
  refine every_of_own ?_ (drained_none always) (drained_of_own always)
  intro id
  obtain ⟨works, own⟩ := track_run run id
  have intact : Intact always id (s.track id) :=
    own.invariant (Intact always id) (fun _ _ _ taken before => before.step lawful taken.1 taken.2)
      (Intact.gone History.every_nil)
  exact intact.removed

/-- In every run in which the passes drain in time, nothing that a remote sent before its FIN is
lost: all of it is in the app's channel before the connection is removed. -/
theorem remote_bytes_delivered (lawful : net.Lawful) {appQueue : Nat}
    {v4 : Option (Ipv4Addr × UInt8)} {v6 : Option (Ipv6Addr × UInt8)} {events : List (Event net)}
    {s : NetStack net}
    (run : Run (Restrict (ofNext step) (OnServed (DrainsInTime false)))
      (NetStack.spawn net appQueue v4 v6) events s) : Every (Drained false) s.trace :=
  drained_of_run lawful run

/-- A server that answers with two bytes and closes. -/
theorem remote_bytes_delivered_reply :
    ∃ s, executeChecked step (fun s event => decide (OnServed (DrainsInTime false) s event))
        (NetStack.spawn (sockets 131072) 128 none none)
        (connecting { ip := .v4 ⟨93, 184, 216, 34⟩, port := 443 } ++ idleTurn [.synAck] 0 ++
          idleTurn [.data [1, 2], .fin] 1 ++ idleTurn [.ack] 0) = some s ∧
      s.trace.getLast? = some (.removed 1 true false) ∧ deliveredBytes 1 s.trace = [1, 2] ∧
      Every (Drained false) s.trace := by
  have checked : (executeChecked step (fun s event => decide (OnServed (DrainsInTime false) s event))
        (NetStack.spawn (sockets 131072) 128 none none)
        (connecting { ip := .v4 ⟨93, 184, 216, 34⟩, port := 443 } ++ idleTurn [.synAck] 0 ++
          idleTurn [.data [1, 2], .fin] 1 ++ idleTurn [.ack] 0)).map
        (fun s => (s.trace.getLast?, deliveredBytes 1 s.trace)) =
      some (some (.removed 1 true false), [1, 2]) := by rfl
  obtain ⟨s, executed, observed⟩ := Option.map_eq_some_iff.mp checked
  rw [Prod.mk.injEq] at observed
  refine ⟨s, executed, observed.1, observed.2, ?_⟩
  apply remote_bytes_delivered (Buffered.lawful 131072)
  apply (run_of_executeChecked executed).mono
  intro source event target taken
  exact ⟨taken.1, of_decide_eq_true taken.2⟩

/-- The app reads nothing: 128 chunks fill its channel, and the 129th comes with the FIN. -/
def slowReaderRun : List (Event (sockets 131072)) :=
  connecting { ip := .v4 ⟨93, 184, 216, 34⟩, port := 443 } ++ idleTurn [.synAck] 0 ++
    (List.range 128).flatMap (fun index => idleTurn [.data [UInt8.ofNat index]] 1) ++
    idleTurn [.data [9], .fin] 0 ++ idleTurn [.ack] 0

/-- The connection is closed and removed with the last byte in the receive buffer. -/
theorem slow_reader_loses_bytes :
    ¬∀ events s, Run (ofNext step) (NetStack.spawn (sockets 131072) 128 none none) events s →
      Every (Drained false) s.trace := by
  intro claim
  have checked : (execute step (NetStack.spawn (sockets 131072) 128 none none)
        slowReaderRun).map (fun s =>
          (s.trace.getLast?, decide (AppGone 1 s.trace), (deliveredBytes 1 s.trace).length,
            (arrivedBytes 1 s.trace).length)) =
      some (some (.removed 1 true false), false, 128, 129) := by decide +kernel
  obtain ⟨s, executed, observed⟩ := Option.map_eq_some_iff.mp checked
  simp only [Prod.mk.injEq, decide_eq_false_iff_not] at observed
  obtain ⟨last, present, delivered, arrived⟩ := observed
  obtain ⟨before, split⟩ := List.getLast?_eq_some_iff.mp last
  have drained := claim _ s (run_of_execute executed) before _ [] split
  rw [split] at present delivered arrived
  rw [deliveredBytes_append] at delivered
  rw [arrivedBytes_append] at arrived
  have same := congrArg List.length (drained rfl (fun gone => present (appGone_append gone)))
  simp only [deliveredBytes, arrivedBytes, List.flatMap_cons, List.flatMap_nil, List.append_nil]
    at delivered arrived same
  omega

end MolidoVpn.Netstack
