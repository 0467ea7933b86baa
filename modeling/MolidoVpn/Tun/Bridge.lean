import MolidoVpn.Tun.Clamp
import MolidoVpn.Tun.ExitProbe

/-!
The loop of `tun::bridge`, one turn a step: what the select takes, then the probe that
may be due. Answers to the probe belong to nobody on the device, and the theorem says
in which runs none of them gets there.
-/

namespace MolidoVpn.Tun

open History (Every every_nil)
open Transition (Run ofNext Restrict execute run_of_execute)
open Utf8 (encode)

namespace Bridge

inductive Entry where
  /-- a packet that asks for the exit address goes into the tunnel -/
  | asked (probe : Probe)
  /-- a packet of the device goes into the tunnel -/
  | forwarded (packet : List UInt8)
  /-- a packet of the tunnel goes to the TUN -/
  | written (packet : List UInt8)
  | exitIp (ip : Ipv4Addr)
  | traffic (tx rx : Nat)
  deriving DecidableEq

structure State where
  exit : ExitProbe
  probing : Bool
  rxTotal : Nat
  txTotal : Nat
  clampedSyns : Nat
  running : Bool
  log : List Entry
  deriving DecidableEq

def new (localIpv4 : Ipv4Addr) : State :=
  { exit := ExitProbe.new localIpv4
    probing := true
    rxTotal := 0
    txTotal := 0
    clampedSyns := 0
    running := true
    log := [] }

/-- What the select of one turn takes. -/
inductive Arm where
  | inbound (packet : List UInt8)
  | inboundClosed
  | read (packet : List UInt8)
  | readError
  | tick
  deriving DecidableEq

/-- The arm of a turn with what else it meets: the MTU hint, the time, the draws of a new probe,
whether its write or send and the send of a probe succeed, and whether a report is due. -/
structure Turn where
  arm : Arm
  hint : Nat
  now : Nat
  draws : Draws
  delivered : Bool
  probeSent : Bool
  reportDue : Bool
  deriving DecidableEq

def State.note (state : State) (entries : List Entry) : State :=
  { state with log := state.log ++ entries }

/-- The entries that a packet which may be due leaves. -/
def askEntries (exit : ExitProbe) (packet : Option (List UInt8)) : List Entry :=
  if packet.isSome then exit.outstanding.toList.map Entry.asked else []

/-- The probe that may be due after the arm. -/
def State.ask (state : State) (turn : Turn) : State :=
  if state.probing then
    let (exit, packet) := state.exit.due turn.now turn.draws
    let asked := { state with exit := exit }.note (askEntries exit packet)
    if packet.isSome && !turn.probeSent then { asked with running := false }
    else { asked with probing := exit.needsTicking }
  else state

/-- The report that may be due at the end of a turn. -/
def State.report (state : State) (turn : Turn) : State :=
  if state.running && turn.reportDue then
    { state with clampedSyns := 0 }.note [.traffic state.txTotal state.rxTotal]
  else state

def State.finish (state : State) (turn : Turn) : State :=
  if state.running then (state.ask turn).report turn else state

/-- A packet that is passed on is clamped first. -/
def State.pass (state : State) (turn : Turn) (packet : List UInt8) (entry : List UInt8 → Entry) :
    State :=
  let (clamped, changed) := clampTcpMss packet turn.hint
  { state with
    clampedSyns := if changed then state.clampedSyns + 1 else state.clampedSyns
    running := turn.delivered }.note [entry clamped]

def State.receive (state : State) (turn : Turn) (packet : List UInt8) : State :=
  let counted := { state with rxTotal := state.rxTotal + packet.length }
  let (exit, reported, swallowed) := state.exit.consume packet
  if state.probing && swallowed then
    -- `continue`: nothing is asked in this turn
    { counted with exit := exit }.note (reported.toList.map Entry.exitIp)
  else (counted.pass turn packet Entry.written).finish turn

def next (state : State) (turn : Turn) : Option State :=
  if state.running then
    match turn.arm with
    | .inbound packet => some (state.receive turn packet)
    | .read packet =>
        if packet.isEmpty then some { state with running := false }
        else
          let armed := if state.probing then state.exit.arm turn.now else state.exit
          some (({ state with
            exit := armed
            txTotal := state.txTotal + packet.length }.pass turn packet Entry.forwarded).finish
              turn)
    | .tick => if state.probing then some (state.finish turn) else none
    | .inboundClosed | .readError => some { state with running := false }
  else none

/-- What is written is no answer to a packet that has asked before. -/
def Unanswered (before : List Entry) : Entry → Prop
  | .written packet => ∀ probe, Entry.asked probe ∈ before → probe.matches packet = false
  | _ => True

/-- No answer to a probe that has asked comes in when the measurement is over. -/
def answeredInTime (state : State) (turn : Turn) : Bool :=
  match turn.arm with
  | .inbound packet =>
      state.exit.state != .done || state.log.all fun entry =>
        match entry with
        | .asked probe => !probe.matches packet
        | _ => true
  | _ => true

/-- The probe that has asked is awaited until the measurement is over, and the bridge attends to it
until then. -/
structure Attentive (state : State) : Prop where
  awaits : ∀ probe, Entry.asked probe ∈ state.log →
    state.exit.outstanding = some probe ∨ state.exit.state = .done
  probing : state.probing = false → state.exit.state = .done

/-- The probe that is awaited stays so or is over. -/
def Keeps (before after : ExitProbe) : Prop :=
  (before.state = .done → after.state = .done) ∧
    ∀ probe, before.outstanding = some probe →
      after.outstanding = some probe ∨ after.state = .done

theorem Keeps.refl (exit : ExitProbe) : Keeps exit exit :=
  ⟨id, fun _ same => Or.inl same⟩

theorem Keeps.over (exit : ExitProbe) : Keeps exit { exit with state := .done } :=
  ⟨fun _ => rfl, fun _ _ => Or.inr rfl⟩

theorem keeps_of_idle {exit after : ExitProbe} (idle : exit.state = .idle) : Keeps exit after := by
  constructor
  · intro impossible
    rw [idle] at impossible
    cases impossible
  · intro probe impossible
    rw [ExitProbe.outstanding, idle] at impossible
    cases impossible

theorem keeps_of_waiting {exit : ExitProbe} {probe : Probe} {attempts next : Nat}
    (waiting : exit.state = .waiting probe attempts next) (later soon : Nat) :
    Keeps exit { exit with state := .waiting probe later soon } := by
  constructor
  · intro impossible
    rw [waiting] at impossible
    cases impossible
  · intro other awaited
    rw [ExitProbe.outstanding, waiting] at awaited
    exact Or.inl awaited

theorem keeps_due (exit : ExitProbe) (now : Nat) (draws : Draws) :
    Keeps exit (exit.due now draws).1 := by
  unfold ExitProbe.due
  split
  · exact Keeps.over exit
  · cases here : exit.state with
    | idle => exact keeps_of_idle here
    | done => exact Keeps.refl exit
    | waiting probe attempts next =>
        simp only
        split
        · exact Keeps.refl exit
        · split
          · exact Keeps.over exit
          · exact keeps_of_waiting here _ _

theorem keeps_consume (exit : ExitProbe) (packet : List UInt8) :
    Keeps exit (exit.consume packet).1 := by
  unfold ExitProbe.consume
  split
  · split
    · split
      · exact Keeps.over exit
      · exact Keeps.refl exit
    · exact Keeps.refl exit
  · exact Keeps.refl exit
  · exact Keeps.refl exit

theorem keeps_arm (exit : ExitProbe) (now : Nat) : Keeps exit (exit.arm now) := by
  unfold ExitProbe.arm
  split
  · exact ⟨id, fun _ same => Or.inl same⟩
  · exact Keeps.refl exit

theorem Attentive.keep {state : State} (attentive : Attentive state) {exit : ExitProbe}
    (keeps : Keeps state.exit exit) : Attentive { state with exit := exit } where
  awaits := by
    intro probe asked
    rcases attentive.awaits probe asked with awaited | done
    · exact keeps.2 probe awaited
    · exact Or.inr (keeps.1 done)
  probing := fun off => keeps.1 (attentive.probing off)

/-- The log grows by entries that are not about a probe, and the counters may change. -/
theorem Attentive.grow {state after : State} (attentive : Attentive state) {entries : List Entry}
    (exit : after.exit = state.exit) (probing : after.probing = state.probing)
    (log : after.log = state.log ++ entries)
    (others : ∀ probe, Entry.asked probe ∉ entries) : Attentive after where
  awaits := by
    intro probe asked
    rw [log] at asked
    rw [exit]
    rcases List.mem_append.mp asked with old | new
    · exact attentive.awaits probe old
    · exact absurd new (others probe)
  probing := by
    intro off
    rw [probing] at off
    rw [exit]
    exact attentive.probing off

private theorem attentive_ask {state : State} (attentive : Attentive state) (turn : Turn) :
    Attentive (state.ask turn) := by
  unfold State.ask
  split
  · have kept := attentive.keep (keeps_due state.exit turn.now turn.draws)
    generalize state.exit.due turn.now turn.draws = outcome at kept
    obtain ⟨exit, packet⟩ := outcome
    have asked : ∀ probe, Entry.asked probe ∈ state.log ++ askEntries exit packet →
        exit.outstanding = some probe ∨ exit.state = .done := by
      intro probe member
      rcases List.mem_append.mp member with old | new
      · exact kept.awaits probe old
      · unfold askEntries at new
        split at new
        · obtain ⟨other, awaited, same⟩ := List.mem_map.mp new
          cases same
          exact Or.inl (Option.mem_toList.mp awaited)
        · cases new
    simp only
    split
    · exact ⟨asked, kept.probing⟩
    · refine ⟨asked, ?_⟩
      intro off
      exact ExitProbe.needsTicking_eq_false.mp off
  · exact attentive

/-- The log has grown by entries that nothing is said about. -/
def Extends (state after : State) : Prop :=
  ∃ added, after.log = state.log ++ added ∧ ∀ entry ∈ added, ∀ before, Unanswered before entry

theorem Extends.refl (state : State) : Extends state state :=
  ⟨[], (List.append_nil _).symm, fun _ impossible => by cases impossible⟩

theorem Extends.trans {state middle after : State} (first : Extends state middle)
    (second : Extends middle after) : Extends state after := by
  obtain ⟨added, log, silent⟩ := first
  obtain ⟨more, log', silent'⟩ := second
  refine ⟨added ++ more, by rw [log', log, List.append_assoc], ?_⟩
  intro entry member
  rcases List.mem_append.mp member with early | late
  · exact silent entry early
  · exact silent' entry late

theorem Extends.every_iff {state after : State} (extends_ : Extends state after) :
    Every Unanswered after.log ↔ Every Unanswered state.log := by
  obtain ⟨added, log, silent⟩ := extends_
  rw [log]
  exact History.every_append_silent_iff silent

private theorem extends_ask (state : State) (turn : Turn) : Extends state (state.ask turn) := by
  have silent (exit : ExitProbe) (packet : Option (List UInt8)) :
      ∀ entry ∈ askEntries exit packet, ∀ before, Unanswered before entry := by
    intro entry member before
    unfold askEntries at member
    split at member
    · obtain ⟨probe, _, rfl⟩ := List.mem_map.mp member
      trivial
    · cases member
  unfold State.ask
  split
  · simp only
    split
    · exact ⟨_, rfl, silent _ _⟩
    · exact ⟨_, rfl, silent _ _⟩
  · exact Extends.refl state

private theorem extends_report (state : State) (turn : Turn) :
    Extends state (state.report turn) := by
  unfold State.report
  split
  · refine ⟨_, rfl, ?_⟩
    intro entry member before
    obtain rfl := List.mem_singleton.mp member
    trivial
  · exact Extends.refl state

theorem extends_finish (state : State) (turn : Turn) : Extends state (state.finish turn) := by
  unfold State.finish
  split
  · exact (extends_ask state turn).trans (extends_report _ turn)
  · exact Extends.refl state

theorem attentive_finish {state : State} (attentive : Attentive state) (turn : Turn) :
    Attentive (state.finish turn) := by
  unfold State.finish
  split
  · have asked := attentive_ask attentive turn
    unfold State.report
    split
    · apply asked.grow
      · rfl
      · rfl
      · rfl
      · intro probe impossible
        cases List.mem_singleton.mp impossible
    · exact asked
  · exact attentive

theorem attentive_pass {state counted : State} (attentive : Attentive state)
    (exit : counted.exit = state.exit) (probing : counted.probing = state.probing)
    (log : counted.log = state.log) (turn : Turn) (packet : List UInt8)
    {entry : List UInt8 → Entry} (other : ∀ bytes probe, entry bytes ≠ .asked probe) :
    Attentive (counted.pass turn packet entry) := by
  apply attentive.grow
  · exact exit
  · exact probing
  · exact congrArg (· ++ [entry (clampTcpMss packet turn.hint).1]) log
  · intro probe impossible
    exact other _ probe (List.mem_singleton.mp impossible).symm

/-- What one turn preserves. -/
theorem next_attentive (source : State) (turn : Turn) (target : State)
    (taken : ofNext next source turn target) (attentive : Attentive source) :
    Attentive target := by
  unfold ofNext next at taken
  split at taken
  case isFalse => cases taken
  case isTrue =>
    cases arm : turn.arm with
    | inbound packet =>
        rw [arm] at taken
        obtain rfl := Option.some.inj taken
        have kept := attentive.keep (keeps_consume source.exit packet)
        unfold State.receive
        simp only
        split
        · apply kept.grow
          · rfl
          · rfl
          · rfl
          · intro probe impossible
            obtain ⟨_, _, same⟩ := List.mem_map.mp impossible
            cases same
        · apply attentive_finish
          apply attentive_pass attentive
          · rfl
          · rfl
          · rfl
          · intro bytes probe same
            cases same
    | read packet =>
        simp only [arm] at taken
        split at taken
        · obtain rfl := Option.some.inj taken
          exact ⟨attentive.awaits, attentive.probing⟩
        · obtain rfl := Option.some.inj taken
          have kept : Attentive { source with
              exit := if source.probing then source.exit.arm turn.now else source.exit } := by
            split
            · exact attentive.keep (keeps_arm source.exit turn.now)
            · exact attentive
          apply attentive_finish
          apply attentive_pass kept
          · rfl
          · rfl
          · rfl
          · intro bytes probe same
            cases same
    | tick =>
        simp only [arm] at taken
        split at taken
        · obtain rfl := Option.some.inj taken
          exact attentive_finish attentive turn
        · cases taken
    | inboundClosed | readError =>
        rw [arm] at taken
        obtain rfl := Option.some.inj taken
        exact ⟨attentive.awaits, attentive.probing⟩

/-- A packet that is not swallowed is written, and answers a probe exactly when it comes in after
the measurement is over. -/
private theorem inTime_iff {state : State} (attentive : Attentive state) {turn : Turn}
    {packet : List UInt8} (arm : turn.arm = .inbound packet)
    (passed : ¬ (state.probing && (state.exit.consume packet).2.2) = true) :
    answeredInTime state turn = true ↔
      Unanswered state.log (.written (clampTcpMss packet turn.hint).1) := by
  have answers : answeredInTime state turn = true ↔ state.exit.state ≠ .done ∨
      ∀ probe, Entry.asked probe ∈ state.log → probe.matches packet = false := by
    unfold answeredInTime
    rw [arm]
    simp only [Bool.or_eq_true, bne_iff_ne, List.all_eq_true]
    apply or_congr_right
    constructor
    · intro all probe member
      exact Bool.not_eq_true' _ ▸ all (.asked probe) member
    · intro none_ entry member
      cases entry with
      | asked probe =>
          simp only [none_ probe member, Bool.not_false]
      | _ => rfl
  rw [answers]
  simp only [Unanswered, matches_clampTcpMss]
  constructor
  · rintro (running | none_) probe asked
    · rcases attentive.awaits probe asked with awaited | done
      · by_contra answered
        apply passed
        rw [Bool.and_eq_true]
        refine ⟨?_, ?_⟩
        · by_contra off
          exact running (attentive.probing (Bool.eq_false_iff.mpr off))
        · rw [ExitProbe.consume_swallows_iff]
          exact ⟨probe, awaited, Bool.eq_true_of_not_eq_false answered⟩
      · exact absurd done running
    · exact none_ probe asked
  · intro none_
    exact Or.inr none_

theorem next_unanswered_iff (source : State) (turn : Turn) (target : State)
    (taken : ofNext next source turn target) (attentive : Attentive source) :
    Every Unanswered target.log ↔
      Every Unanswered source.log ∧ answeredInTime source turn = true := by
  unfold ofNext next at taken
  have others (kept : Extends source target) (inTime : answeredInTime source turn = true) :
      Every Unanswered target.log ↔
        Every Unanswered source.log ∧ answeredInTime source turn = true := by
    rw [kept.every_iff, and_iff_left inTime]
  split at taken
  case isFalse => cases taken
  case isTrue =>
    cases arm : turn.arm with
    | inbound packet =>
        rw [arm] at taken
        obtain rfl := Option.some.inj taken
        by_cases swallowed : (source.probing && (source.exit.consume packet).2.2) = true
        · apply others
          · unfold State.receive
            simp only [if_pos swallowed]
            refine ⟨_, rfl, ?_⟩
            intro entry member before
            obtain ⟨ip, _, rfl⟩ := List.mem_map.mp member
            trivial
          · rw [Bool.and_eq_true, ExitProbe.consume_swallows_iff] at swallowed
            obtain ⟨_, probe, awaited, _⟩ := swallowed
            have running : source.exit.state ≠ .done := by
              intro done
              rw [ExitProbe.outstanding, done] at awaited
              cases awaited
            unfold answeredInTime
            rw [arm]
            simp only [bne_iff_ne.mpr running, Bool.true_or]
        · rw [inTime_iff attentive arm swallowed, ← History.every_snoc_iff]
          unfold State.receive
          simp only [if_neg swallowed]
          exact (extends_finish _ turn).every_iff
    | read packet =>
        have inTime : answeredInTime source turn = true := by
          unfold answeredInTime
          rw [arm]
        simp only [arm] at taken
        split at taken
        · obtain rfl := Option.some.inj taken
          exact others ⟨[], (List.append_nil _).symm, by simp⟩ inTime
        · obtain rfl := Option.some.inj taken
          apply others _ inTime
          refine Extends.trans ?_ (extends_finish _ turn)
          refine ⟨_, rfl, ?_⟩
          intro entry member before
          obtain rfl := List.mem_singleton.mp member
          trivial
    | tick =>
        have inTime : answeredInTime source turn = true := by
          unfold answeredInTime
          rw [arm]
        simp only [arm] at taken
        split at taken
        · obtain rfl := Option.some.inj taken
          exact others (extends_finish source turn) inTime
        · cases taken
    | inboundClosed | readError =>
        have inTime : answeredInTime source turn = true := by
          unfold answeredInTime
          rw [arm]
        rw [arm] at taken
        obtain rfl := Option.some.inj taken
        exact others ⟨[], (List.append_nil _).symm, by simp⟩ inTime

theorem new_attentive (localIpv4 : Ipv4Addr) : Attentive (new localIpv4) where
  awaits := by
    intro probe impossible
    cases impossible
  probing := by
    intro impossible
    cases impossible

/-- No answer to our own probes is written to the TUN, exactly when none comes in after the
measurement is over. -/
theorem replies_kept_from_device_iff (localIpv4 : Ipv4Addr) {turns : List Turn} {state : State}
    (run : Run (ofNext next) (new localIpv4) turns state) :
    Every Unanswered state.log ↔
      Run (Restrict (ofNext next) (fun state turn => answeredInTime state turn)) (new localIpv4)
        turns state :=
  run.iff_restrict (fun state => Every Unanswered state.log) Attentive next_attentive
    next_unanswered_iff every_nil (new_attentive localIpv4)

/-- An answer of the resolver to the probe that `sampleDraws` gives, with one address. -/
def sampleReply : List UInt8 :=
  let txt := encode "203.0.113.7".toList
  let question := (labels whoamiName).flatMap (fun label => UInt8.ofNat label.length :: label) ++
    [0] ++ wordBytes qtypeTxt ++ wordBytes qclassCh
  let answer := [0xc0, 0x0c] ++ wordBytes qtypeTxt ++ wordBytes qclassCh ++ [0, 0, 0, 60] ++
    wordBytes (UInt16.ofNat (1 + txt.length)) ++ UInt8.ofNat txt.length :: txt
  let msg := wordBytes sampleDraws.id ++ [0x81, 0x80] ++ wordBytes 1 ++ wordBytes 1 ++
    [0, 0, 0, 0] ++ question ++ answer
  buildUdpIpv4 resolver ⟨10, 0, 0, 2⟩ dnsPort (20000 + sampleDraws.port) msg 5

def sampleTurn (arm : Arm) (now : Nat) : Turn :=
  { arm := arm
    hint := 1280
    now := now
    draws := sampleDraws
    delivered := true
    probeSent := true
    reportDue := false }

/-- The device sends, the probe asks, and its answer comes. -/
def measured : List Turn :=
  [sampleTurn (.read [0]) 0, sampleTurn .tick firstDelay,
    sampleTurn (.inbound sampleReply) (firstDelay + 1)]

def sampleProbe : Probe := Probe.whoami ⟨10, 0, 0, 2⟩ sampleDraws

theorem replies_kept_from_device_once :
    ∃ state, state.log = [.forwarded [0], .asked sampleProbe, .exitIp ⟨203, 0, 113, 7⟩] ∧
      (Every Unanswered state.log ↔
        Run (Restrict (ofNext next) (fun state turn => answeredInTime state turn))
          (new ⟨10, 0, 0, 2⟩) measured state) := by
  have executed : (execute next (new ⟨10, 0, 0, 2⟩) measured).map State.log =
      some [.forwarded [0], .asked sampleProbe, .exitIp ⟨203, 0, 113, 7⟩] := by
    rfl
  obtain ⟨state, reached, log⟩ := Option.map_eq_some_iff.mp executed
  exact ⟨state, log, replies_kept_from_device_iff ⟨10, 0, 0, 2⟩ (run_of_execute reached)⟩

/-- The answer comes twice. -/
theorem duplicate_reply_written :
    ¬ ∀ (localIpv4 : Ipv4Addr) (turns : List Turn) (state : State),
      Run (ofNext next) (new localIpv4) turns state → Every Unanswered state.log := by
  intro always
  have executed : (execute next (new ⟨10, 0, 0, 2⟩)
      (measured ++ [sampleTurn (.inbound sampleReply) (firstDelay + 2)])).map State.log =
      some [.forwarded [0], .asked sampleProbe, .exitIp ⟨203, 0, 113, 7⟩,
        .written sampleReply] := by
    rfl
  obtain ⟨state, reached, log⟩ := Option.map_eq_some_iff.mp executed
  have unanswered := always ⟨10, 0, 0, 2⟩ _ state (run_of_execute reached)
  have different := unanswered [.forwarded [0], .asked sampleProbe, .exitIp ⟨203, 0, 113, 7⟩]
    (.written sampleReply) [] log sampleProbe
    (List.mem_cons_of_mem _ List.mem_cons_self)
  have answers : sampleProbe.matches sampleReply = true := by rfl
  rw [answers] at different
  cases different

end Bridge

end MolidoVpn.Tun
