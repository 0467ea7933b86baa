import MolidoVpn.Lib.History
import MolidoVpn.Lib.Transition
import MolidoVpn.WireGuard.Ladder

/-!
The size that the checks of endpoints leave for the bridge (`INNER_MTU_HINT`), over the
starts of one process. Candidates are checked beside each other while an endpoint is looked
for; the chosen one is checked alone, and its session goes on to the bridge.
-/

namespace MolidoVpn.WireGuard

open History (Every every_nil)
open Transition (Run ofNext execute run_of_execute)

/-- What happens to a session, with the length of the large probes it sends, and the sizes that the
bridge reads. -/
inductive Record where
  | sent (session : Session) (length : Nat)
  | accepted (session : Session) (reply : List UInt8)
  | stored (session : Session) (size : Nat)
  | failed (session : Session)
  | read (session : Session) (dataCheck : Bool) (size : Nat)
  deriving DecidableEq

def Record.session : Record → Session
  | .sent session _ | .accepted session _ | .stored session _ | .failed session
  | .read session _ _ => session

/-- Where a start is: `search` is all that comes before an endpoint is used, one check after the
other or the candidates of a scan; `validate` and `measure` are the check of the endpoint used. -/
inductive Phase where
  | idle
  | search (probes : List Verify)
  | validate (session : Session)
  | measure (run : Verify)
  | bridge (session : Session)
  deriving DecidableEq

structure State where
  hint : Nat
  sessions : Nat
  dataCheck : Bool
  phase : Phase
  records : List Record
  deriving DecidableEq

def initial : State :=
  { hint := 1200
    sessions := 0
    dataCheck := false
    phase := .idle
    records := [] }

/-- Of the start that ends, and of a scan that ends or has found its endpoint, nothing runs on. -/
inductive Label where
  | starts (dataCheck : Bool)
  | stopped
  | probeStarts (peer : SocketAddr) (localIpv4 : Ipv4Addr) (deadline now : Nat)
  | probe (number : Nat) (event : Event)
  | scanEnds
  | chosen (peer : SocketAddr)
  | handshaken (localIpv4 : Ipv4Addr) (deadline now : Nat)
  | handshakeFails
  | measured (event : Event)
  | bridgeReads
  | tunnelEnds
  deriving DecidableEq

def State.goTo (state : State) (phase : Phase) : State := { state with phase := phase }

def State.record (state : State) (added : List Record) : State :=
  { state with records := state.records ++ added }

/-- What an event of a check leaves behind. -/
def State.advance (state : State) (session : Session) : Progress → State
  | .continues _ sent => state.record (sent.map fun probe => .sent session probe.length)
  | .returns size reply =>
      { state.record (reply.toList.map (.accepted session) ++ [.stored session size]) with
        hint := size }
  | .fails => state.record [.failed session]

def Progress.running : Progress → List Verify
  | .continues after _ => [after]
  | .returns _ _ | .fails => []

/-- After the check of the endpoint used. -/
def Progress.phase (session : Session) : Progress → Phase
  | .continues after _ => .measure after
  | .returns _ _ => .bridge session
  | .fails => .search []

def next (state : State) (label : Label) : Option State :=
  match state.phase, label with
  | .idle, .starts dataCheck => some { state with dataCheck := dataCheck, phase := .search [] }
  | .idle, .stopped => none
  | _, .stopped => some (state.goTo .idle)
  | .search probes, .probeStarts peer localIpv4 deadline now =>
      if state.dataCheck then
        let session : Session := ⟨state.sessions, peer⟩
        some { state with
          sessions := state.sessions + 1
          phase := .search (.start session localIpv4 deadline now :: probes) }
      else none
  | .search probes, .probe number event =>
      match probes.find? fun run => run.session.number == number with
      | none => none
      | some run =>
          (run.step event).map fun progress =>
            (state.advance run.session progress).goTo (.search (progress.running ++
              probes.filter fun run => run.session.number != number))
  | .search _, .scanEnds => some (state.goTo (.search []))
  | .search _, .chosen peer =>
      some { state with sessions := state.sessions + 1, phase := .validate ⟨state.sessions, peer⟩ }
  | .validate session, .handshaken localIpv4 deadline now =>
      some (state.goTo (if state.dataCheck then .measure (.start session localIpv4 deadline now)
        else .bridge session))
  | .validate _, .handshakeFails => some (state.goTo (.search []))
  | .measure run, .measured event =>
      (run.step event).map fun progress =>
        (state.advance run.session progress).goTo (progress.phase run.session)
  | .bridge session, .bridgeReads =>
      some (state.record [.read session state.dataCheck state.hint])
  | .bridge _, .tunnelEnds => some (state.goTo (.search []))
  | _, _ => none

/-- The lengths of the large probes that a session has sent. -/
def sentBy (session : Session) (records : List Record) : List Nat :=
  records.filterMap fun record =>
    match record with
    | .sent other length => if other = session then some length else none
    | _ => none

/-- A reply has just come back through the session, all of whose large probes were of this size or
of a larger one. -/
def Proven (before : List Record) (session : Session) (size : Nat) : Prop :=
  ∃ earlier reply, before = earlier ++ [.accepted session reply] ∧
    isLargeProbeReply reply = true ∧ size ∈ sentBy session earlier ∧
      ∀ length ∈ sentBy session earlier, size ≤ length

/-- No reply to any of the session's large probes has come back. -/
def GivenUp (before : List Record) (session : Session) (size : Nat) : Prop :=
  size = ladderFloor ∧ sentBy session before ≠ [] ∧
    ∀ reply, Record.accepted session reply ∉ before

/-- The check of the session has neither stored a size nor failed. -/
def Unfinished (before : List Record) (session : Session) : Prop :=
  (∀ size, Record.stored session size ∉ before) ∧ Record.failed session ∉ before

/-- The session itself has stored this size, and nobody has stored one since. -/
def Current (before : List Record) (session : Session) (size : Nat) : Prop :=
  ∃ earlier later, before = earlier ++ .stored session size :: later ∧
    (Proven earlier session size ∨ GivenUp earlier session size) ∧
      ∀ other value, Record.stored other value ∉ later

/-- What the records say about the hint. -/
def Lawful (before : List Record) : Record → Prop
  | .stored session _ | .failed session => Unfinished before session
  | .read session dataCheck size => dataCheck = true → Current before session size
  | .sent _ _ | .accepted _ _ => True

theorem sentBy_append (session : Session) (records added : List Record) :
    sentBy session (records ++ added) = sentBy session records ++ sentBy session added :=
  List.filterMap_append

theorem sentBy_of_other {session : Session} {records : List Record}
    (other : ∀ record ∈ records, record.session ≠ session) : sentBy session records = [] := by
  rw [sentBy, List.filterMap_eq_nil_iff]
  intro record member
  cases record with
  | sent owner length => exact if_neg (other _ member)
  | _ => rfl

theorem sentBy_map (session : Session) (probes : List (List UInt8)) :
    sentBy session (probes.map fun probe => .sent session probe.length) =
      probes.map List.length := by
  induction probes with
  | nil => rfl
  | cons probe rest ih =>
      rw [List.map_cons, List.map_cons, ← ih]
      exact List.filterMap_cons_some (if_pos rfl)

/-- What the records say about a check that has not ended. -/
structure Running (records : List Record) (run : Verify) : Prop where
  onRung : run.OnRung (sentBy run.session records)
  unanswered : ∀ reply, Record.accepted run.session reply ∉ records
  unfinished : Unfinished records run.session

theorem Running.of_start {records : List Record} {session : Session}
    (fresh : ∀ record ∈ records, record.session ≠ session) (localIpv4 : Ipv4Addr)
    (deadline now : Nat) : Running records (.start session localIpv4 deadline now) where
  onRung := sentBy_of_other fresh
  unanswered := fun _ member => fresh _ member rfl
  unfinished := ⟨fun _ member => fresh _ member rfl, fun member => fresh _ member rfl⟩

/-- What happens to another session changes nothing. -/
theorem Running.frame {records added : List Record} {run : Verify} (running : Running records run)
    (other : ∀ record ∈ added, record.session ≠ run.session) : Running (records ++ added) run where
  onRung := by
    rw [sentBy_append, sentBy_of_other other, List.append_nil]
    exact running.onRung
  unanswered := by
    intro reply member
    rcases List.mem_append.mp member with old | new
    · exact running.unanswered reply old
    · exact other _ new rfl
  unfinished := by
    constructor
    · intro size member
      rcases List.mem_append.mp member with old | new
      · exact running.unfinished.1 size old
      · exact other _ new rfl
    · intro member
      rcases List.mem_append.mp member with old | new
      · exact running.unfinished.2 old
      · exact other _ new rfl

theorem advance_records (state : State) (session : Session) (progress : Progress) :
    ∃ added, (state.advance session progress).records = state.records ++ added ∧
      ∀ record ∈ added, record.session = session := by
  cases progress with
  | continues after sent =>
      refine ⟨_, rfl, fun record member => ?_⟩
      obtain ⟨probe, _, rfl⟩ := List.mem_map.mp member
      rfl
  | returns size reply =>
      refine ⟨_, rfl, fun record member => ?_⟩
      rcases List.mem_append.mp member with answer | last
      · obtain ⟨pkt, _, rfl⟩ := List.mem_map.mp answer
        rfl
      · rw [List.mem_singleton.mp last]
        rfl
  | fails =>
      refine ⟨_, rfl, fun record member => ?_⟩
      rw [List.mem_singleton.mp member]
      rfl

/-- What the bridge reads changes nothing. -/
theorem Current.read {records : List Record} {session : Session} {size : Nat}
    (current : Current records session size) (reader : Session) (dataCheck : Bool) (value : Nat) :
    Current (records ++ [.read reader dataCheck value]) session size := by
  obtain ⟨earlier, later, split, measured, last⟩ := current
  refine ⟨earlier, later ++ [.read reader dataCheck value], ?_, measured, ?_⟩
  · rw [split, List.append_assoc, List.cons_append]
  · intro other stored member
    rcases List.mem_append.mp member with old | new
    · exact last other stored old
    · cases List.mem_singleton.mp new

/-- A check that goes on. -/
theorem Running.continues {state : State} {run after : Verify} {event : Event}
    {sent : List (List UInt8)} (running : Running state.records run)
    (taken : run.step event = some (.continues after sent)) :
    after.session = run.session ∧
      Running (state.advance run.session (.continues after sent)).records after := by
  obtain ⟨session, onRung⟩ := Verify.step_continues running.onRung taken
  have other {record : Record} (kind : ∀ length, record ≠ .sent run.session length) :
      record ∈ state.records ++ sent.map (fun probe => .sent run.session probe.length) →
        record ∈ state.records := by
    intro member
    rcases List.mem_append.mp member with old | new
    · exact old
    · obtain ⟨probe, _, rfl⟩ := List.mem_map.mp new
      exact absurd rfl (kind probe.length)
  refine ⟨session, ?_⟩
  change Running (state.records ++ sent.map fun probe => .sent run.session probe.length) after
  constructor
  · rw [session, sentBy_append, sentBy_map]
    exact onRung
  · intro reply member
    rw [session] at member
    exact running.unanswered reply (other (fun _ same => by cases same) member)
  · rw [session]
    constructor
    · intro size member
      exact running.unfinished.1 size (other (fun _ same => by cases same) member)
    · intro member
      exact running.unfinished.2 (other (fun _ same => by cases same) member)

/-- A check that stores a size. -/
theorem Running.returns {state : State} {run : Verify} {event : Event} {size : Nat}
    {reply : Option (List UInt8)} (running : Running state.records run)
    (taken : run.step event = some (.returns size reply)) :
    Current (state.advance run.session (.returns size reply)).records run.session size := by
  have last : ∀ other value, Record.stored other value ∉ ([] : List Record) :=
    fun _ _ impossible => by cases impossible
  rcases Verify.step_returns running.onRung taken with
    ⟨pkt, rfl, answer, proven⟩ | ⟨rfl, floor, tried⟩
  · refine ⟨state.records ++ [.accepted run.session pkt], [], ?_, Or.inl ?_, last⟩
    · rw [List.append_assoc]
      rfl
    · exact ⟨state.records, pkt, rfl, answer, proven⟩
  · exact ⟨state.records, [], rfl, Or.inr ⟨floor, tried, running.unanswered⟩, last⟩

theorem Running.advance_lawful {state : State} {run : Verify} {progress : Progress}
    (running : Running state.records run) (lawful : Every Lawful state.records) :
    Every Lawful (state.advance run.session progress).records := by
  cases progress with
  | continues after sent =>
      apply lawful.append_silent
      intro record member before
      obtain ⟨probe, _, rfl⟩ := List.mem_map.mp member
      trivial
  | fails => exact lawful.snoc running.unfinished
  | returns size reply =>
      change Every Lawful (state.records ++ (_ ++ [.stored run.session size]))
      cases reply with
      | none => exact lawful.snoc running.unfinished
      | some pkt =>
          rw [← List.append_assoc]
          apply Every.snoc
          · exact lawful.snoc trivial
          · constructor
            · intro value member
              rcases List.mem_append.mp member with old | new
              · exact running.unfinished.1 value old
              · cases List.mem_singleton.mp new
            · intro member
              rcases List.mem_append.mp member with old | new
              · exact running.unfinished.2 old
              · cases List.mem_singleton.mp new

/-- The checks in a phase. -/
def Phase.active : Phase → List Verify
  | .search probes => probes
  | .measure run => [run]
  | .idle | .validate _ | .bridge _ => []

/-- The session that waits for its check, or that the bridge uses. -/
def Owned (state : State) : Prop :=
  match state.phase with
  | .validate session =>
      session.number < state.sessions ∧ ∀ record ∈ state.records, record.session ≠ session
  | .bridge session =>
      session.number < state.sessions ∧
        (state.dataCheck = true → Current state.records session state.hint)
  | _ => True

structure Sound (state : State) : Prop where
  numbered : ∀ record ∈ state.records, record.session.number < state.sessions
  running : ∀ run ∈ state.phase.active,
    run.session.number < state.sessions ∧ Running state.records run
  distinct : state.phase.active.Pairwise fun one other =>
    one.session.number ≠ other.session.number
  owned : Owned state
  lawful : Every Lawful state.records

/-- A phase in which nothing is checked. -/
private theorem Sound.goTo {state : State} (sound : Sound state) {phase : Phase}
    (quiet : phase.active = []) (owned : Owned (state.goTo phase)) : Sound (state.goTo phase) where
  numbered := sound.numbered
  running := by
    intro run member
    change run ∈ phase.active at member
    rw [quiet] at member
    cases member
  distinct := by
    change phase.active.Pairwise _
    rw [quiet]
    exact List.Pairwise.nil
  owned := owned
  lawful := sound.lawful

private theorem Sound.fresh {state : State} (sound : Sound state) (peer : SocketAddr) :
    ∀ record ∈ state.records, record.session ≠ ⟨state.sessions, peer⟩ := by
  intro record member same
  have below := sound.numbered record member
  rw [same] at below
  exact Nat.lt_irrefl _ below

private theorem Sound.advance_numbered {state : State} (sound : Sound state) {run : Verify}
    (member : run ∈ state.phase.active) (progress : Progress) :
    ∀ record ∈ (state.advance run.session progress).records,
      record.session.number < state.sessions := by
  obtain ⟨added, records, own⟩ := advance_records state run.session progress
  intro record among
  rw [records] at among
  rcases List.mem_append.mp among with old | new
  · exact sound.numbered record old
  · rw [own record new]
    exact (sound.running run member).1

theorem advance_sessions (state : State) (session : Session) (progress : Progress) :
    (state.advance session progress).sessions = state.sessions := by
  cases progress <;> rfl

/-- One of the candidates beside the others. -/
private theorem Sound.probe {state : State} (sound : Sound state) {probes : List Verify}
    (phase : state.phase = .search probes) {run : Verify} {event : Event} {progress : Progress}
    (member : run ∈ probes) (taken : run.step event = some progress) :
    Sound ((state.advance run.session progress).goTo (.search (progress.running ++
      probes.filter fun other => other.session.number != run.session.number))) := by
  have active : state.phase.active = probes := by rw [phase]; rfl
  have runs := sound.running
  have distinct := sound.distinct
  rw [active] at runs distinct
  have own := (runs run member).2
  obtain ⟨added, records, mine⟩ := advance_records state run.session progress
  have others : ∀ other ∈ probes.filter (fun other =>
      other.session.number != run.session.number),
      other ∈ probes ∧ other.session.number ≠ run.session.number := by
    intro other among
    obtain ⟨old, apart⟩ := List.mem_filter.mp among
    exact ⟨old, bne_iff_ne.mp apart⟩
  have goesOn : ∀ after ∈ progress.running, after.session = run.session ∧
      Running (state.advance run.session progress).records after := by
    intro after among
    cases progress with
    | continues later sent =>
        obtain rfl := List.mem_singleton.mp among
        exact own.continues taken
    | returns size reply => cases among
    | fails => cases among
  constructor
  · change ∀ record ∈ (state.advance run.session progress).records,
      record.session.number < (state.advance run.session progress).sessions
    rw [advance_sessions]
    apply sound.advance_numbered
    rw [active]
    exact member
  · intro other among
    change other.session.number < (state.advance run.session progress).sessions ∧
      Running (state.advance run.session progress).records other
    rw [advance_sessions]
    rcases List.mem_append.mp among with mine_ | old
    · obtain ⟨session, running⟩ := goesOn other mine_
      exact ⟨by rw [session]; exact (runs run member).1, running⟩
    · obtain ⟨old, apart⟩ := others other old
      obtain ⟨below, running⟩ := runs other old
      refine ⟨below, ?_⟩
      rw [records]
      apply running.frame
      intro record new same
      rw [mine record new] at same
      exact apart (by rw [same])
  · apply List.pairwise_append.mpr
    refine ⟨?_, distinct.sublist List.filter_sublist, ?_⟩
    · cases progress with
      | continues later sent => exact List.pairwise_singleton _ _
      | returns size reply => exact List.Pairwise.nil
      | fails => exact List.Pairwise.nil
    · intro after first other second
      rw [(goesOn after first).1]
      exact (others other second).2.symm
  · trivial
  · exact own.advance_lawful sound.lawful

/-- The check of the endpoint that is used. -/
private theorem Sound.measured {state : State} (sound : Sound state) {run : Verify}
    (phase : state.phase = .measure run) {event : Event} {progress : Progress}
    (taken : run.step event = some progress) :
    Sound ((state.advance run.session progress).goTo (progress.phase run.session)) := by
  have member : run ∈ state.phase.active := by
    rw [phase]
    exact List.mem_singleton_self _
  obtain ⟨below, own⟩ := sound.running run member
  have active : (progress.phase run.session).active = progress.running := by
    cases progress <;> rfl
  constructor
  · change ∀ record ∈ (state.advance run.session progress).records,
      record.session.number < (state.advance run.session progress).sessions
    rw [advance_sessions]
    exact sound.advance_numbered member progress
  · intro after among
    change after ∈ (progress.phase run.session).active at among
    rw [active] at among
    change after.session.number < (state.advance run.session progress).sessions ∧
      Running (state.advance run.session progress).records after
    rw [advance_sessions]
    cases progress with
    | continues later sent =>
        obtain rfl := List.mem_singleton.mp among
        obtain ⟨session, running⟩ := own.continues taken
        exact ⟨by rw [session]; exact below, running⟩
    | returns size reply => cases among
    | fails => cases among
  · change (progress.phase run.session).active.Pairwise _
    rw [active]
    cases progress with
    | continues later sent => exact List.pairwise_singleton _ _
    | returns size reply => exact List.Pairwise.nil
    | fails => exact List.Pairwise.nil
  · cases progress with
    | continues later sent => trivial
    | returns size reply =>
        constructor
        · exact below
        · exact fun _ => own.returns taken
    | fails => trivial
  · exact own.advance_lawful sound.lawful

/-- What one step preserves. -/
theorem next_sound (source : State) (label : Label) (target : State)
    (taken : ofNext next source label target) (sound : Sound source) : Sound target := by
  have owned := sound.owned
  unfold Owned at owned
  unfold ofNext next at taken
  split at taken
  · cases taken
    exact ⟨sound.numbered, (fun _ impossible => by cases impossible), List.Pairwise.nil, trivial,
      sound.lawful⟩
  · cases taken
  · cases taken
    exact sound.goTo rfl trivial
  · rename_i probes peer localIpv4 deadline now phase
    have runs := sound.running
    have distinct := sound.distinct
    rw [phase] at runs distinct
    split at taken
    · cases taken
      constructor
      · exact fun record member => Nat.lt_succ_of_lt (sound.numbered record member)
      · intro run member
        rcases List.mem_cons.mp member with rfl | old
        · exact ⟨Nat.lt_succ_self _, Running.of_start (sound.fresh peer) localIpv4 deadline now⟩
        · obtain ⟨below, running⟩ := runs run old
          exact ⟨Nat.lt_succ_of_lt below, running⟩
      · apply List.Pairwise.cons _ distinct
        intro run old same
        exact absurd (runs run old).1 (by rw [← same]; exact Nat.lt_irrefl _)
      · trivial
      · exact sound.lawful
    · cases taken
  · rename_i probes number event phase
    split at taken
    · cases taken
    · rename_i run found
      obtain ⟨progress, stepped, rfl⟩ := Option.map_eq_some_iff.mp taken
      have number_ := List.find?_some found
      rw [beq_iff_eq] at number_
      rw [← number_]
      exact sound.probe phase (List.mem_of_find?_eq_some found) stepped
  · cases taken
    exact sound.goTo rfl trivial
  · rename_i probes peer phase
    cases taken
    constructor
    · exact fun record member => Nat.lt_succ_of_lt (sound.numbered record member)
    · intro run impossible
      cases impossible
    · exact List.Pairwise.nil
    · exact ⟨Nat.lt_succ_self _, sound.fresh peer⟩
    · exact sound.lawful
  · rename_i session localIpv4 deadline now phase
    rw [phase] at owned
    cases taken
    split
    · constructor
      · exact sound.numbered
      · intro run member
        obtain rfl := List.mem_singleton.mp member
        exact ⟨owned.1, Running.of_start owned.2 localIpv4 deadline now⟩
      · exact List.pairwise_singleton _ _
      · trivial
      · exact sound.lawful
    · rename_i unchecked
      exact sound.goTo rfl ⟨owned.1, fun checked => absurd checked unchecked⟩
  · cases taken
    exact sound.goTo rfl trivial
  · rename_i run event phase
    obtain ⟨progress, stepped, rfl⟩ := Option.map_eq_some_iff.mp taken
    exact sound.measured phase stepped
  · rename_i session phase
    rw [phase] at owned
    cases taken
    constructor
    · intro record member
      rcases List.mem_append.mp member with old | new
      · exact sound.numbered record old
      · rw [List.mem_singleton.mp new]
        exact owned.1
    · change ∀ run ∈ source.phase.active, _
      rw [phase]
      intro run impossible
      cases impossible
    · change source.phase.active.Pairwise _
      rw [phase]
      exact List.Pairwise.nil
    · have same : (source.record
          [.read session source.dataCheck source.hint]).phase = .bridge session := phase
      unfold Owned
      rw [same]
      exact ⟨owned.1, fun checked => (owned.2 checked).read _ _ _⟩
    · exact sound.lawful.snoc owned.2
  · cases taken
    exact sound.goTo rfl trivial
  · cases taken

theorem initial_sound : Sound initial where
  numbered := by
    intro record impossible
    cases impossible
  running := by
    intro run impossible
    cases impossible
  distinct := List.Pairwise.nil
  owned := trivial
  lawful := every_nil

/-- With the data check on, every size that the bridge reads is the one that its own session has
stored last, proven by a reply that came back through it, or the floor where none did. A check
stores one size or fails, never both, whatever runs beside it. -/
theorem hint_reads_lawful {labels : List Label} {state : State}
    (run : Run (ofNext next) initial labels state) : Every Lawful state.records :=
  (run.invariant Sound next_sound initial_sound).lawful

def endpointOne : SocketAddr := ⟨.v4 ⟨162, 159, 192, 1⟩, 2408⟩

def endpointTwo : SocketAddr := ⟨.v4 ⟨162, 159, 192, 2⟩, 2408⟩

/-- An echo reply with the identifier of the large probes. -/
def echoReply : List UInt8 :=
  [0x45, 0, 0, 28, 0, 0, 0, 0, 64, 1, 0, 0, 8, 8, 8, 8, 172, 16, 0, 2, 0, 0, 0, 0, 0x4d, 0x47, 0, 1]

/-- Any other packet, such as the reply to a small probe. -/
def smallReply : List UInt8 := [0x45]

/-- A candidate proves the largest size; the endpoint that is used proves the next one only. -/
def twoEndpoints : List Label :=
  [.starts true, .probeStarts endpointTwo ⟨172, 16, 0, 2⟩ 9000 0,
    .probe 0 (.turn 0 7), .probe 0 (.decapsulated smallReply 90 7), .probe 0 (.turn 90 7),
    .probe 0 (.decapsulated smallReply 700 7), .probe 0 (.turn 700 7),
    .probe 0 (.decapsulated echoReply 800 7), .chosen endpointOne,
    .handshaken ⟨172, 16, 0, 2⟩ 9000 1000, .measured (.turn 1000 7),
    .measured (.decapsulated smallReply 1100 7), .measured (.turn 1100 7),
    .measured (.decapsulated smallReply 1700 7), .measured (.turn 4000 7),
    .measured (.turn 4000 7), .measured (.decapsulated echoReply 4100 7), .bridgeReads]

theorem hint_reads_lawful_after_scan :
    ∃ state : State, state.records.getLast? = some (.read ⟨1, endpointOne⟩ true 1000) ∧
      Every Lawful state.records := by
  have executed : (execute next initial twoEndpoints).map
      (fun state => state.records.getLast?) =
      some (some (.read ⟨1, endpointOne⟩ true 1000)) := by
    rfl
  obtain ⟨state, reached, last⟩ := Option.map_eq_some_iff.mp executed
  exact ⟨state, last, hint_reads_lawful (run_of_execute reached)⟩

/-- No large probe comes back before the deadline. -/
def unanswered : List Label :=
  [.starts true, .chosen endpointOne, .handshaken ⟨172, 16, 0, 2⟩ 9000 0, .measured (.turn 0 7),
    .measured (.decapsulated smallReply 90 7), .measured (.turn 90 7),
    .measured (.decapsulated smallReply 700 7), .measured (.turn 700 7), .measured (.turn 2400 7),
    .measured (.turn 3600 7), .measured (.turn 4800 7), .measured (.turn 9000 7), .bridgeReads]

theorem hint_read_unproven :
    ¬ ∀ (labels : List Label) (state : State), Run (ofNext next) initial labels state →
      ∀ session dataCheck size, Record.read session dataCheck size ∈ state.records →
        ∃ earlier later, state.records = earlier ++ .stored session size :: later ∧
          Proven earlier session size := by
  intro always
  have executed : (execute next initial unanswered).map (fun state =>
      (state.records.getLast?, state.records.any fun record =>
        match record with
        | .accepted _ _ => true
        | _ => false)) =
      some (some (.read ⟨0, endpointOne⟩ true 576), false) := by
    rfl
  obtain ⟨state, reached, observed⟩ := Option.map_eq_some_iff.mp executed
  simp only [Prod.mk.injEq] at observed
  obtain ⟨last, silent⟩ := observed
  obtain ⟨earlier, later, split, before, reply, answered, _⟩ :=
    always _ state (run_of_execute reached) ⟨0, endpointOne⟩ true 576 (List.mem_of_getLast? last)
  have member : Record.accepted ⟨0, endpointOne⟩ reply ∈ state.records := by
    rw [split, answered]
    exact List.mem_append_left _ (List.mem_append_right _ (List.mem_singleton_self _))
  exact absurd rfl (List.any_eq_false.mp silent _ member)

end MolidoVpn.WireGuard
