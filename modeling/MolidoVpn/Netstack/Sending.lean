import MolidoVpn.Netstack.Buffered
import MolidoVpn.Netstack.Passes

/-!
From the app to the send buffer: what was accepted is what was handed to the
socket followed by what is pending, and so bytes of the app are lost exactly
when its socket is closed or removed with bytes from before its close pending.
-/

namespace MolidoVpn.Netstack

open Buffered (sockets connecting idleTurn turn)
open History (Every)
open Transition (Run Restrict ofNext execute executeChecked run_of_execute run_of_executeChecked)

/-- The bytes accepted before the app closed. -/
def earlyBytes (id : Nat) (outputs : List Output) : List UInt8 :=
  outputs.flatMap fun
    | .accepted other data true => if other = id then data else []
    | _ => []

/-- The bytes accepted after the app had closed. -/
def lateBytes (id : Nat) (outputs : List Output) : List UInt8 :=
  outputs.flatMap fun
    | .accepted other data false => if other = id then data else []
    | _ => []

/-- The bytes that went into the socket's send buffer. -/
def handedBytes (id : Nat) (outputs : List Output) : List UInt8 :=
  outputs.flatMap fun
    | .handed other data => if other = id then data else []
    | _ => []

/-- The stack closes a socket, or removes one that was not reset, only when all that the app sent
before its own close was handed to the socket. -/
def HandedFirst (before : List Output) : Output → Prop
  | .closed id => earlyBytes id before <+: handedBytes id before
  | .removed id _ false => earlyBytes id before <+: handedBytes id before
  | _ => True

/-- When the app is found gone, the remote has closed, or the connection is about to be removed
without a reset, all that is still pending came after the app's close. -/
def KeepsPending {net : Smoltcp} (id : Nat) (track : Track net) : Work → Prop
  | .head _ => track.Holding fun c _ =>
      c.failed = true → net.aborted c.socket = false →
        c.st.pending.length ≤ (lateBytes id track.log).length
  | .receive => True
  | .finish => track.Holding fun c stage =>
      (stage.appGone = true ∨ net.state c.socket = .closeWait ∨
          net.state c.socket = .closed ∧ c.st.established = true ∧
            net.aborted c.socket = false) →
        c.st.pending.length ≤ (lateBytes id track.log).length

instance {net : Smoltcp} (id : Nat) (track : Track net) (work : Work) :
    Decidable (KeepsPending id track work) :=
  match work with
  | .head _ => inferInstanceAs (Decidable (track.Holding _))
  | .receive => isTrue trivial
  | .finish => inferInstanceAs (Decidable (track.Holding _))

variable {net : Smoltcp}

section Bytes

variable (id : Nat)

private theorem bytes_append (first second : List Output) :
    earlyBytes id (first ++ second) = earlyBytes id first ++ earlyBytes id second ∧
      lateBytes id (first ++ second) = lateBytes id first ++ lateBytes id second ∧
      handedBytes id (first ++ second) = handedBytes id first ++ handedBytes id second :=
  ⟨List.flatMap_append, List.flatMap_append, List.flatMap_append⟩

private theorem own_bytes_sent (outputs : List Output) :
    earlyBytes id (own id outputs) = earlyBytes id outputs ∧
      handedBytes id (own id outputs) = handedBytes id outputs := by
  constructor
  · apply flatMap_own
    intro output about
    split
    · exact if_neg (fun same => about (congrArg some same))
    · rfl
  · apply flatMap_own
    intro output about
    split
    · exact if_neg (fun same => about (congrArg some same))
    · rfl

/-- Only `accepted` and `handed` move the app's bytes. -/
private def Quiet : Output → Prop
  | .accepted _ _ _ => False
  | .handed _ _ => False
  | _ => True

private theorem bytes_append_quiet (log : List Output) {outputs : List Output}
    (quiet : ∀ output ∈ outputs, Quiet output) :
    earlyBytes id (log ++ outputs) = earlyBytes id log ∧
      lateBytes id (log ++ outputs) = lateBytes id log ∧
      handedBytes id (log ++ outputs) = handedBytes id log := by
  have nothing : earlyBytes id outputs = [] ∧ lateBytes id outputs = [] ∧
      handedBytes id outputs = [] := by
    refine ⟨?_, ?_, ?_⟩
    all_goals
      apply List.flatMap_eq_nil_iff.mpr
      intro output member
      split
      · exact (quiet _ member).elim
      · rfl
  obtain ⟨early, late, handed⟩ := bytes_append id log outputs
  rw [early, late, handed, nothing.1, nothing.2.1, nothing.2.2, List.append_nil, List.append_nil,
    List.append_nil]
  exact ⟨rfl, rfl, rfl⟩

end Bytes

/-- The invariant of one connection. -/
structure Queued (id : Nat) (track : Track net) : Prop where
  handed : Every HandedFirst track.log
  bytes : ∀ c stage, track.live = some (c, stage) →
    earlyBytes id track.log ++ lateBytes id track.log =
      handedBytes id track.log ++ c.st.pending
  late : ∀ c stage, track.live = some (c, stage) → c.st.halfClosed = false →
    lateBytes id track.log = []
  done : ∀ c stage, track.live = some (c, stage) → c.st.established = true →
    net.handshakeDone c.socket = true

/-- What is handed covers the early bytes when what is pending came late. -/
private theorem early_handed {early late handed pending : List UInt8}
    (bytes : early ++ late = handed ++ pending) (few : pending.length ≤ late.length) :
    early <+: handed := by
  have lengths := congrArg List.length bytes
  rw [List.length_append, List.length_append] at lengths
  refine List.prefix_of_prefix_length_le (List.prefix_append early late) ?_ (by omega)
  rw [bytes]
  exact List.prefix_append handed pending

namespace Queued

variable {id : Nat} {c c' : Conn net} {log outputs : List Output}

private theorem gone (every : Every HandedFirst log) : Queued id (⟨none, log⟩ : Track net) :=
  { handed := every
    bytes := fun _ _ absent => by cases absent
    late := fun _ _ absent => by cases absent
    done := fun _ _ absent => by cases absent }

private theorem on {stage : Stage} (every : Every HandedFirst log)
    (bytes : earlyBytes id log ++ lateBytes id log = handedBytes id log ++ c.st.pending)
    (late : c.st.halfClosed = false → lateBytes id log = [])
    (done : c.st.established = true → net.handshakeDone c.socket = true) :
    Queued id ⟨some (c, stage), log⟩ := by
  refine ⟨every, ?_, ?_, ?_⟩
  · intro _ _ same
    cases same
    exact bytes
  · intro _ _ same
    cases same
    exact late
  · intro _ _ same
    cases same
    exact done

/-- Records that move no bytes of the app, on a connection whose entry keeps its bytes. -/
private theorem on_quiet {stage stage' : Stage}
    (before : Queued id (⟨some (c, stage), log⟩ : Track net))
    (every : Every HandedFirst (log ++ outputs)) (quiet : ∀ output ∈ outputs, Quiet output)
    (pending : c'.st.pending = c.st.pending)
    (halfClosed : c'.st.halfClosed = false → c.st.halfClosed = false)
    (done : c'.st.established = true → net.handshakeDone c'.socket = true) :
    Queued id ⟨some (c', stage'), log ++ outputs⟩ := by
  obtain ⟨early, late, handed⟩ := bytes_append_quiet id log quiet
  refine on every ?_ ?_ done
  · rw [early, late, handed, pending]
    exact before.bytes c stage rfl
  · rw [late]
    exact fun open_ => before.late c stage rfl (halfClosed open_)

/-- Quiet records after which everything that counts has been handed. -/
private theorem every_append (id : Nat) {log outputs : List Output} (every : Every HandedFirst log)
    (quiet : ∀ output ∈ outputs, Quiet output)
    (covered : (∀ output ∈ outputs, ∀ before, HandedFirst before output) ∨
      earlyBytes id log <+: handedBytes id log ∧ About id outputs) :
    Every HandedFirst (log ++ outputs) := by
  rcases covered with silent | ⟨covered, about⟩
  · exact every.append_silent silent
  · apply every.append
    rintro first output rest rfl
    have before : ∀ output ∈ first, Quiet output :=
      fun output member => quiet output (List.mem_append_left _ member)
    obtain ⟨early, _, handed⟩ := bytes_append_quiet id log before
    have own : output.conn = some id :=
      about output (List.mem_append_right _ List.mem_cons_self)
    cases output with
    | closed other =>
        cases own
        change earlyBytes id (log ++ first) <+: handedBytes id (log ++ first)
        rw [early, handed]
        exact covered
    | removed other fin aborted =>
        cases own
        cases aborted with
        | true => trivial
        | false =>
            change earlyBytes id (log ++ first) <+: handedBytes id (log ++ first)
            rw [early, handed]
            exact covered
    | _ => trivial

private theorem establish_quiet (id : Nat) (c : Conn net) (owner : Report → Bool) (done : Bool) :
    ∀ output ∈ (c.establish id owner).2 ++ [.serviced id done],
      Quiet output ∧ ∀ before, HandedFirst before output := by
  intro output member
  rcases List.mem_append.mp member with looked | served
  · rcases c.establish_records id owner with none_ | reported | lost
    · rw [none_] at looked
      cases looked
    · rw [reported] at looked
      rw [List.mem_singleton.mp looked]
      exact ⟨trivial, fun _ => trivial⟩
    · rw [lost] at looked
      rw [List.mem_singleton.mp looked]
      exact ⟨trivial, fun _ => trivial⟩
  · rw [List.mem_singleton.mp served]
    exact ⟨trivial, fun _ => trivial⟩

/-- Handing bytes to the socket moves them from one side of the sum to the other. -/
private theorem sendPending_queued (lawful : net.Lawful)
    (before : Queued id (⟨some (c, .idle), log⟩ : Track net)) :
    Queued id (⟨some ((c.sendPending id).1, .idle), log ++ (c.sendPending id).2⟩ : Track net) := by
  have kept := Conn.sendPending_undisturbed lawful c id
  have done : (c.sendPending id).1.st.established = true →
      net.handshakeDone (c.sendPending id).1.socket = true := by
    rw [kept.2.1, kept.1.done]
    exact before.done c .idle rfl
  obtain ⟨halfClosed, unsent | ⟨data, sent, moved⟩⟩ := c.sendPending_handed id
  · rw [unsent.1, List.append_nil]
    refine on before.handed ?_ ?_ done
    · rw [unsent.2]
      exact before.bytes c .idle rfl
    · rw [halfClosed]
      exact before.late c .idle rfl
  · obtain ⟨early, late, handed⟩ := bytes_append id log [.handed id data]
    have bytes := before.bytes c .idle rfl
    rw [moved, ← List.append_assoc] at bytes
    rw [sent]
    refine on (before.handed.snoc trivial) ?_ ?_ done
    · rw [early, late, handed]
      simp only [earlyBytes, lateBytes, handedBytes, List.flatMap_cons, List.flatMap_nil, if_true,
        List.append_nil] at bytes ⊢
      exact bytes
    · rw [late, halfClosed]
      intro open_
      rw [before.late c .idle rfl open_]
      rfl

private theorem closeDrained_queued (lawful : net.Lawful) (stage : Stage)
    (before : Queued id (⟨some (c, .idle), log⟩ : Track net)) :
    Queued id
      (⟨some ((c.closeDrained id).1, stage), log ++ (c.closeDrained id).2⟩ : Track net) := by
  have kept := Conn.closeDrained_undisturbed lawful c id
  have st := (c.closeDrained_keeps id).1
  have done : (c.closeDrained id).1.st.established = true →
      net.handshakeDone (c.closeDrained id).1.socket = true := by
    rw [st, kept.done]
    exact before.done c .idle rfl
  have quiet : ∀ output ∈ (c.closeDrained id).2, Quiet output := by
    intro output member
    rcases c.closeDrained_records id with open_ | ⟨closed, _⟩
    · rw [open_] at member
      cases member
    · rw [closed] at member
      rw [List.mem_singleton.mp member]
      trivial
  refine before.on_quiet (every_append id before.handed quiet ?_) quiet (by rw [st])
    (by rw [st]; exact fun open_ => open_) done
  rcases c.closeDrained_records id with open_ | ⟨closed, drained⟩
  · left
    rw [open_]
    exact fun _ member => by cases member
  · right
    refine ⟨early_handed (before.bytes c .idle rfl) ?_, (c.closeDrained_keeps id).2⟩
    rw [drained]
    exact Nat.zero_le _

private theorem head_queued (lawful : net.Lawful) {owner : Report → Bool}
    (result : c.head id owner = (some c', outputs))
    (before : Queued id (⟨some (c, .idle), log⟩ : Track net)) :
    Queued id ⟨some (c', .receiving 0), log ++ outputs⟩ := by
  have established := (Conn.head_undisturbed lawful result).2
  rw [Conn.head_of_alive (Conn.head_kept result), Prod.mk.injEq, Option.some.injEq] at result
  obtain ⟨rfl, rfl⟩ := result
  have keeps := c.establish_keeps id owner
  have new := establish_quiet id c owner (net.handshakeDone c.socket)
  have looked : Queued id (⟨some ((c.establish id owner).1, .idle),
      log ++ ((c.establish id owner).2 ++ [.serviced id (net.handshakeDone c.socket)])⟩ :
        Track net) := by
    refine before.on_quiet ?_ (fun output member => (new output member).1) keeps.2.1
      (by rw [keeps.2.2.1]; exact fun open_ => open_) ?_
    · exact before.handed.append_silent fun output member => (new output member).2
    · rw [c.establish_established id owner, keeps.2.2.2.1, Bool.or_eq_true, beq_iff_eq]
      rintro (already | now)
      · exact before.done c .idle rfl already
      · exact lawful.established_done c.socket now
  have shut := closeDrained_queued lawful (.receiving 0)
    (sendPending_queued lawful looked)
  simp only [List.append_assoc] at shut ⊢
  exact shut

/-- A connection that goes, with only quiet records. -/
private theorem removed_with {stage : Stage} {pre : List Output}
    (before : Queued id (⟨some (c, stage), log⟩ : Track net))
    (quiet : ∀ output ∈ pre, Quiet output) (about : About id pre)
    (few : (∃ output ∈ pre, output = .closed id) ∨ net.aborted c.socket = false →
      c.st.pending.length ≤ (lateBytes id log).length)
    (only : ∀ output ∈ pre, output ≠ .closed id → ∀ earlier, HandedFirst earlier output) :
    Queued id (⟨none, log ++ (pre ++ [c.removal id])⟩ : Track net) := by
  have all : ∀ output ∈ pre ++ [c.removal id], Quiet output := by
    intro output member
    rcases List.mem_append.mp member with first | last
    · exact quiet output first
    · rw [List.mem_singleton.mp last]
      trivial
  apply gone
  apply every_append id before.handed all
  by_cases counts : (∃ output ∈ pre, output = .closed id) ∨ net.aborted c.socket = false
  · right
    exact ⟨early_handed (before.bytes c stage rfl) (few counts), about.append (about_singleton rfl)⟩
  · left
    obtain ⟨open_, reset⟩ := not_or.mp counts
    rw [Bool.not_eq_false] at reset
    intro output member
    rcases List.mem_append.mp member with first | last
    · exact only output first (fun closed => open_ ⟨output, first, closed⟩)
    · rw [List.mem_singleton.mp last, Conn.removal, reset]
      exact fun _ => trivial

private theorem finishRemoved_queued (lawful : net.Lawful) {appGone : Bool}
    (result : c.finish id appGone = (none, outputs))
    (few : (appGone = true ∨ net.state c.socket = .closeWait ∨
        net.state c.socket = .closed ∧ c.st.established = true ∧
          net.aborted c.socket = false) → c.st.pending.length ≤ (lateBytes id log).length)
    (before : Queued id (⟨some (c, .finishing appGone), log⟩ : Track net)) :
    Queued id (⟨none, log ++ outputs⟩ : Track net) := by
  obtain ⟨established, closed, rfl⟩ := Conn.finish_removed lawful (before.done c _ rfl) result
  cases appGone with
  | true =>
      refine removed_with before ?_ (about_singleton rfl) (fun _ => few (Or.inl rfl)) ?_
      · intro output member
        rw [List.mem_singleton.mp member]
        trivial
      · intro output member open_
        exact absurd (List.mem_singleton.mp member) open_
  | false =>
      refine removed_with before (fun _ member => by cases member) (about_nil id) ?_
        (fun _ member => by cases member)
      rintro (⟨_, member, _⟩ | notReset)
      · cases member
      · exact few (Or.inr (Or.inr ⟨closed, established, notReset⟩))

private theorem finishKept_queued (lawful : net.Lawful) {appGone : Bool}
    (result : c.finish id appGone = (some c', outputs))
    (few : (appGone = true ∨ net.state c.socket = .closeWait ∨
        net.state c.socket = .closed ∧ c.st.established = true ∧
          net.aborted c.socket = false) → c.st.pending.length ≤ (lateBytes id log).length)
    (before : Queued id (⟨some (c, .finishing appGone), log⟩ : Track net)) :
    Queued id (⟨some (c', .idle), log ++ outputs⟩ : Track net) := by
  obtain ⟨st, same, closes, records⟩ := Conn.finish_kept lawful result
  have quiet : ∀ output ∈ outputs, Quiet output := by
    intro output member
    rw [closes output member]
    trivial
  refine before.on_quiet (every_append id before.handed quiet ?_) quiet (by rw [st])
    (by rw [st]; exact fun open_ => open_) (by rw [st, same.done]; exact before.done c _ rfl)
  by_cases counts : appGone = true ∨ net.state c.socket = .closeWait
  · right
    refine ⟨early_handed (before.bytes c _ rfl) (few ?_), ?_⟩
    · rcases counts with gone | half
      · exact Or.inl gone
      · exact Or.inr (Or.inl half)
    · intro output member
      rw [closes output member]
      rfl
  · left
    obtain ⟨present, open_⟩ := not_or.mp counts
    rw [Bool.not_eq_true] at present
    subst present
    rw [if_neg Bool.false_ne_true, Conn.closeGone, if_neg Bool.false_ne_true, if_neg open_]
      at records
    rw [records]
    exact fun _ member => by cases member

/-- What one step of a connection that keeps its pending bytes preserves. -/
theorem step (lawful : net.Lawful) {track track' : Track net} {work : Option Work}
    (taken : ConnStep id track work track') (met : OnWork KeepsPending id track work)
    (before : Queued id track) : Queued id track' := by
  cases taken with
  | opened opening =>
      rename_i c output
      have fresh : Quiet output ∧ (∀ earlier, HandedFirst earlier output) ∧
          c.st.pending = [] ∧ c.st.established = false := by
        cases opening with
        | connect handle appQueue number made => exact ⟨trivial, fun _ => trivial, rfl, rfl⟩
        | listen handle appQueue made => exact ⟨trivial, fun _ => trivial, rfl, rfl⟩
      obtain ⟨quiet, silent, empty, notYet⟩ := fresh
      have quiets : ∀ other ∈ [output], Quiet other := by
        intro other member
        rw [List.mem_singleton.mp member]
        exact quiet
      obtain ⟨early, late, handed⟩ := bytes_append_quiet id [] quiets
      rw [List.nil_append] at early late handed
      refine on (History.every_nil.snoc (silent [])) ?_ (fun _ => late) ?_
      · rw [early, late, handed, empty]
        rfl
      · intro established
        rw [notYet] at established
        cases established
  | polled segments =>
      rename_i c log
      refine before.on_quiet (before.handed.snoc trivial) ?_ rfl (fun open_ => open_) ?_
      · intro output member
        rw [List.mem_singleton.mp member]
        trivial
      · exact fun established => lawful.poll_done segments c.socket (before.done c _ rfl established)
  | headRemoved result =>
      rename_i c log outputs owner
      have failed := Conn.head_removed result
      rw [Conn.head_of_failed failed, Prod.mk.injEq] at result
      obtain ⟨_, rfl⟩ := result
      have records : ∀ output ∈ [Output.serviced id (net.handshakeDone c.socket)] ++
          (if c.st.connectResp then [.refused id] else []),
          Quiet output ∧ output.conn = some id ∧ output ≠ .closed id ∧
            ∀ earlier, HandedFirst earlier output := by
        intro output member
        rcases List.mem_append.mp member with served | refused
        · rw [List.mem_singleton.mp served]
          exact ⟨trivial, rfl, by simp, fun _ => trivial⟩
        · split at refused
          · rw [List.mem_singleton.mp refused]
            exact ⟨trivial, rfl, by simp, fun _ => trivial⟩
          · cases refused
      refine removed_with before (fun output member => (records output member).1)
        (fun output member => (records output member).2.1) ?_
        (fun output member _ => (records output member).2.2.2)
      rintro (⟨output, member, closed⟩ | notReset)
      · exact absurd closed (records output member).2.2.1
      · exact met _ rfl c .idle rfl failed notReset
  | headKept result => exact head_queued lawful result before
  | delivered result =>
      rename_i c c' log count bytes
      obtain ⟨_, done, _, room, st⟩ := Conn.receive_chunk lawful result
      refine before.on_quiet (before.handed.snoc trivial) ?_ (by rw [st])
        (by rw [st]; exact fun open_ => open_) (by rw [st, done]; exact before.done c _ rfl)
      intro output member
      rw [List.mem_singleton.mp member]
      trivial
  | stopped result =>
      obtain ⟨rfl, _, _⟩ := Conn.receive_stop lawful result
      exact on before.handed (before.bytes _ _ rfl) (before.late _ _ rfl) (before.done _ _ rfl)
  | finishRemoved result =>
      rename_i c log outputs appGone
      exact finishRemoved_queued lawful result (met _ rfl c _ rfl) before
  | finishKept result =>
      rename_i c c' log outputs appGone
      exact finishKept_queued lawful result (met _ rfl c _ rfl) before
  | accepted bytes =>
      rename_i c log
      have sum := before.bytes c .idle rfl
      obtain ⟨early, late, handed⟩ :=
        bytes_append id log [.accepted id bytes (!c.st.halfClosed)]
      refine on (before.handed.snoc trivial) ?_ ?_ (before.done c .idle rfl)
      · rw [early, late, handed]
        cases open_ : c.st.halfClosed with
        | false =>
            rw [before.late c .idle rfl open_, List.append_nil] at sum
            rw [before.late c .idle rfl open_, sum]
            simp only [earlyBytes, lateBytes, handedBytes, List.flatMap_cons, List.flatMap_nil,
              Bool.not_false, if_true, List.append_nil, List.append_assoc]
        | true =>
            simp only [earlyBytes, lateBytes, handedBytes, List.flatMap_cons, List.flatMap_nil,
              Bool.not_true, if_true, List.append_nil] at sum ⊢
            rw [← List.append_assoc, sum, List.append_assoc]
      · intro open_
        rw [late, before.late c .idle rfl open_, show c.st.halfClosed = false from open_]
        rfl
  | appClosed =>
      rename_i c log
      refine before.on_quiet (before.handed.snoc trivial) ?_ rfl (fun closed => by cases closed)
        (before.done c _ rfl)
      intro output member
      rw [List.mem_singleton.mp member]
      trivial
  | appTook took =>
      rename_i c stage log chunk toApp
      exact on before.handed (before.bytes c _ rfl) (before.late c _ rfl) (before.done c _ rfl)
  | appDropped =>
      rename_i c stage log
      refine before.on_quiet (before.handed.snoc trivial) ?_ rfl (fun open_ => open_)
        (before.done c _ rfl)
      intro output member
      rw [List.mem_singleton.mp member]
      trivial

end Queued

private theorem handedFirst_none (before : List Output) (output : Output)
    (nobody : output.conn = none) : HandedFirst before output := by
  cases output <;> trivial

private theorem handedFirst_of_own (id : Nat) (before : List Output) (output : Output)
    (about : output.conn = some id) (part : HandedFirst (own id before) output) :
    HandedFirst before output := by
  obtain ⟨early, handed⟩ := own_bytes_sent id before
  cases output with
  | closed other =>
      cases about
      change earlyBytes id before <+: handedBytes id before
      rw [← early, ← handed]
      exact part
  | removed other fin aborted =>
      cases about
      cases aborted with
      | true => trivial
      | false =>
          change earlyBytes id before <+: handedBytes id before
          rw [← early, ← handed]
          exact part
  | _ => trivial

/-- An app that sends a request and closes, to a server that closes in turn. -/
def requestRun : List (Event (sockets 131072)) :=
  connecting { ip := .v4 ⟨93, 184, 216, 34⟩, port := 443 } ++ idleTurn [.synAck] 0 ++
    turn [] 0 ++ [.data (.tcp 1 [5, 6]), .moreData (.tcpClose 1), .again] ++ idleTurn [] 0 ++
    idleTurn [.ack, .fin] 0 ++ idleTurn [.expired] 0

/-- The remote's FIN comes before the next pass over what the app has just sent. -/
def halfCloseRun (data : List UInt8) : List (Event (sockets 131072)) :=
  connecting { ip := .v4 ⟨93, 184, 216, 34⟩, port := 443 } ++ idleTurn [.synAck] 0 ++
    turn [] 0 ++ [.data (.tcp 1 data), .again] ++ idleTurn [.fin] 0

private theorem halfClose_trace (rest : List UInt8) :
    (execute step (NetStack.spawn (sockets 131072) 128 none none) (halfCloseRun (0 :: rest))).map
        (fun s => s.trace) =
      some ([.connecting 1 { ip := .v4 ⟨93, 184, 216, 34⟩, port := 443 } 49152 0, .arrived 1 [],
        .reported 1, .serviced 1 true, .arrived 1 [], .serviced 1 true,
        .accepted 1 (0 :: rest) true, .arrived 1 [], .serviced 1 true,
        .handed 1 ((0 :: rest).take (min (rest.length + 1) 131072))] ++ [.closed 1]) := rfl

private theorem halfClose_drops {rest : List UInt8} (long : rest.length = 131072)
    (claim : ∀ events s, Run (ofNext step) (NetStack.spawn (sockets 131072) 128 none none) events s →
      Every HandedFirst s.trace) : False := by
  obtain ⟨s, executed, trace⟩ := Option.map_eq_some_iff.mp (halfClose_trace rest)
  have covered := claim _ s (run_of_execute executed) _ _ [] trace
  have lengths := List.IsPrefix.length_le covered
  simp only [earlyBytes, handedBytes, List.flatMap_cons, List.flatMap_nil, if_true,
    List.append_nil, List.nil_append, List.length_cons, List.length_take, long] at lengths
  omega

end MolidoVpn.Netstack
