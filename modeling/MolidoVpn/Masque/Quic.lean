import MolidoVpn.Lib.History
import MolidoVpn.Lib.Transition
import MolidoVpn.Masque.Drain

/-!
The loop of `quic::run` from the event that woke it to the end of the pass: the
request on the established connection, the HTTP/3 events, the datagrams, and
what makes the tunnel ready. What the library reports in a pass is its input.
-/

namespace MolidoVpn.Masque.Quic

open Varint (getVarint)

structure TunnelConfig where
  announce : Bool
  /-- `AETHER_MASQUE_DATA_CHECK` is set. -/
  dataCheck : Bool
  validationTimeout : Nat
  echConfigList : Option (List UInt8)

def dataProbeRequiredSuccesses : Nat := 2

inductive QuicError where
  | validationTimeout
  | h3 (code : Nat)
  | connectIpStatus (value : List UInt8)
  | transport
  deriving DecidableEq, Repr

/-- An answer of `h3c.poll`. `body` is what `recv_body` gives until it fails. -/
inductive H3Event where
  | headers (stream : Nat) (list : List (List UInt8 × List UInt8))
  | data (stream : Nat) (body : List (List UInt8))
  | finished (stream : Nat)
  | reset (stream : Nat)
  | other (stream : Nat)
  | error (code : Nat)
  deriving DecidableEq, Repr

/-- `:status` -/
def statusName : List UInt8 := [58, 115, 116, 97, 116, 117, 115]

/-- `200` -/
def status200 : List UInt8 := [50, 48, 48]

/-- The loop over one header list, with `connect_ip_ok` so far. -/
def readHeaders (ok : Bool) : List (List UInt8 × List UInt8) → Except QuicError Bool
  | [] => .ok ok
  | (name, value) :: list =>
      if name = statusName then
        if value = status200 then readHeaders true list
        else .error (.connectIpStatus value)
      else readHeaders ok list

/-- What `poll_h3` has done when it returns. -/
structure Polled where
  connectIpOk : Except QuicError Bool
  capsules : CapsuleParser
  addrs : List AssignedAddr

/-- The loop of `poll_h3`; the end of the list is `Error::Done`. -/
def pollH3 (reqStream : Nat) (ok : Bool) (capsules : CapsuleParser) : List H3Event → Polled
  | [] => { connectIpOk := .ok ok, capsules := capsules, addrs := [] }
  | .headers stream list :: events =>
      if stream ≠ reqStream then pollH3 reqStream ok capsules events
      else
        match readHeaders ok list with
        | .ok ok => pollH3 reqStream ok capsules events
        | .error error => { connectIpOk := .error error, capsules := capsules, addrs := [] }
  | .data stream body :: events =>
      if stream ≠ reqStream then pollH3 reqStream ok capsules events
      else
        let drained := H3.drainCapsules (capsules.pushAll (body.takeWhile (· ≠ [])))
        let later := pollH3 reqStream ok drained.parser events
        { later with addrs := drained.addrs ++ later.addrs }
  | .finished _ :: events => pollH3 reqStream ok capsules events
  | .reset _ :: events => pollH3 reqStream ok capsules events
  | .other _ :: events => pollH3 reqStream ok capsules events
  | .error code :: _ => { connectIpOk := .error (.h3 code), capsules := capsules, addrs := [] }

def quarterStreamId (stream : Nat) : Nat := stream / 4

/-- `Ok(None)` and `Err` are alike to the only caller: the datagram is passed over. -/
def decodeIpDatagram (datagram : List UInt8) (expectStreamId : Nat) : Option (List UInt8) :=
  match getVarint datagram with
  | none => none
  | some (qsid, b) =>
      if qsid ≠ quarterStreamId expectStreamId then none
      else
        match getVarint b with
        | none => none
        | some (ctx, payload) => if ctx ≠ connectIpContextId then none else some payload

/-- The loop of `drain_datagrams` over what `dgram_recv` gives. -/
def drainFrom (sid : Nat) (send : Nat → SendResult) : List (List UInt8) →
    Bool × List (List UInt8 × SendResult)
  | [] => (false, [])
  | datagram :: datagrams =>
      match decodeIpDatagram datagram sid with
      | none => drainFrom sid send datagrams
      | some packet =>
          match send 0 with
          | .closed => (true, [(packet, .closed)])
          | result =>
              (true, (packet, result) ::
                (drainFrom sid (fun call => send (call + 1)) datagrams).2)

def drainDatagrams (reqStream : Option Nat) (send : Nat → SendResult)
    (datagrams : List (List UInt8)) : Bool × List (List UInt8 × SendResult) :=
  match reqStream with
  | none => (false, [])
  | some sid => drainFrom sid send datagrams

/-- What can be told of a run, oldest first. -/
inductive QuicRecord where
  /-- The server answered the request with a 2xx status. -/
  | accepted
  /-- A pass got packets out of the tunnel. -/
  | roundTrip
  /-- The tunnel is reported ready: by `mark_ready`, and to the waiter. -/
  | ready (announced sent : Bool)
  deriving DecidableEq, Repr

/-- What the library and the clock say in one pass. -/
structure Pass where
  now : Nat
  established : Bool
  /-- `with_transport` and `send_request`: the stream of the request. -/
  request : Except Nat Nat
  h3 : List H3Event
  datagrams : List (List UInt8)
  send : Nat → SendResult
  flushed : Bool
  closed : Bool
  retryConfigs : Option (List UInt8)
  /-- Whether the second `quiche::connect` and what follows it succeed. -/
  reconnected : Bool

/-- The variables of `run`, what it has returned, and what happened so far. -/
structure Loop where
  h3Conn : Bool
  reqStream : Option Nat
  capsules : CapsuleParser
  establishedEver : Bool
  echRetried : Bool
  currentEch : Option (List UInt8)
  readyTx : Bool
  readyFired : Bool
  validateDeadline : Option Nat
  validateSuccesses : Nat
  result : Option (Except QuicError Unit)
  inbound : List (List UInt8 × SendResult)
  addrs : List AssignedAddr
  records : List QuicRecord

namespace Loop

def start (cfg : TunnelConfig) (readyTx : Bool) : Loop :=
  { h3Conn := false
    reqStream := none
    capsules := CapsuleParser.new
    establishedEver := false
    echRetried := false
    currentEch := cfg.echConfigList
    readyTx := readyTx
    readyFired := false
    validateDeadline := none
    validateSuccesses := 0
    result := none
    inbound := []
    addrs := []
    records := [] }

/-- Unless `run` has returned. -/
def going (s : Loop) (part : Loop → Loop) : Loop := if s.result = none then part s else s

def fail (s : Loop) (error : QuicError) : Loop := { s with result := some (.error error) }

def checkDeadline (cfg : TunnelConfig) (pass : Pass) (s : Loop) : Loop :=
  if cfg.dataCheck = true ∧ s.readyFired = false then
    match s.validateDeadline with
    | some deadline => if deadline ≤ pass.now then s.fail .validationTimeout else s
    | none => s
  else s

def sendRequest (cfg : TunnelConfig) (pass : Pass) (s : Loop) : Loop :=
  if pass.established = true ∧ s.h3Conn = false then
    match pass.request with
    | .error code => { s with establishedEver := true }.fail (.h3 code)
    | .ok sid =>
        { s with
          establishedEver := true
          reqStream := some sid
          h3Conn := true
          validateDeadline :=
            if cfg.dataCheck then some (pass.now + cfg.validationTimeout)
            else s.validateDeadline }
  else s

def is2xx (value : List UInt8) : Bool :=
  match value with
  | [50, tens, ones] => decide (48 ≤ tens ∧ tens ≤ 57 ∧ 48 ≤ ones ∧ ones ≤ 57)
  | _ => false

/-- The answer to the request is among these events. -/
def accepts (reqStream : Nat) (events : List H3Event) : Bool :=
  events.any fun
    | .headers stream list =>
        stream == reqStream && list.any fun header => header.1 == statusName && is2xx header.2
    | _ => false

/-- `ready_fired`, `mark_ready` and `ready_tx.take()` -/
def markReady (cfg : TunnelConfig) (s : Loop) : Loop :=
  { s with
    readyFired := true
    readyTx := false
    records := s.records ++ [.ready cfg.announce s.readyTx] }

/-- What the polling itself changes. -/
def recordPoll (polled : Polled) (answered : Bool) (s : Loop) : Loop :=
  { s with
    capsules := polled.capsules
    addrs := s.addrs ++ polled.addrs
    records := if answered then s.records ++ [.accepted] else s.records }

def poll (cfg : TunnelConfig) (pass : Pass) (s : Loop) : Loop :=
  match s.h3Conn, s.reqStream with
  | true, some sid =>
      let polled := pollH3 sid false s.capsules pass.h3
      let after := s.recordPoll polled (accepts sid pass.h3)
      match polled.connectIpOk with
      | .error error => after.fail error
      | .ok connectIpOk =>
          if connectIpOk = true ∧ cfg.dataCheck = false ∧ s.readyFired = false then
            after.markReady cfg
          else after
  | _, _ => s

def countData (cfg : TunnelConfig) (s : Loop) : Loop :=
  let s := { s with validateSuccesses := s.validateSuccesses + 1 }
  if dataProbeRequiredSuccesses ≤ s.validateSuccesses then
    { s with validateDeadline := none }.markReady cfg
  else s

/-- What the draining itself changes. -/
def recordData (drained : Bool × List (List UInt8 × SendResult)) (s : Loop) : Loop :=
  { s with
    inbound := s.inbound ++ drained.2
    records := if drained.1 then s.records ++ [.roundTrip] else s.records }

def drain (cfg : TunnelConfig) (pass : Pass) (s : Loop) : Loop :=
  let drained := drainDatagrams s.reqStream pass.send pass.datagrams
  if drained.1 = true ∧ s.readyFired = false then (s.recordData drained).countData cfg
  else s.recordData drained

def flush (pass : Pass) (s : Loop) : Loop := if pass.flushed then s else s.fail .transport

/-- `is_closed`: one more handshake with the ECH configuration of the server, or the end. -/
def checkClosed (pass : Pass) (s : Loop) : Loop :=
  if pass.closed then
    match s.establishedEver, s.echRetried, s.currentEch, pass.retryConfigs with
    | false, false, some _, some retry =>
        let s := { s with echRetried := true, currentEch := some retry }
        if pass.reconnected then
          { s with h3Conn := false, reqStream := none, capsules := CapsuleParser.new }
        else s.fail .transport
    | _, _, _, _ => { s with result := some (.ok ()) }
  else s

/-- The pass up to `drain_datagrams`. -/
def beforeData (cfg : TunnelConfig) (pass : Pass) (s : Loop) : Loop :=
  ((s.checkDeadline cfg pass).going (sendRequest cfg pass)).going (poll cfg pass)

/-- One turn of the loop; there is none after `run` has returned. -/
def step (cfg : TunnelConfig) (s : Loop) (pass : Pass) : Option Loop :=
  if s.result = none then
    some ((((s.beforeData cfg pass).going (drain cfg pass)).going (flush pass)).going
      (checkClosed pass))
  else none

end Loop

section Readiness

open Transition (Run Restrict ofNext run_of_execute)

variable {cfg : TunnelConfig} {pass : Pass} {s s' : Loop}

/-- Ready is reported once, after the answer, and with the check on after enough round trips. -/
def Lawful (cfg : TunnelConfig) (before : List QuicRecord) : QuicRecord → Prop
  | .ready _ _ =>
      (∀ announced sent, QuicRecord.ready announced sent ∉ before) ∧ QuicRecord.accepted ∈ before ∧
        (cfg.dataCheck = true → dataProbeRequiredSuccesses ≤ before.count .roundTrip)
  | _ => True

/-- Before the answer is read, a pass gets no packet out of the tunnel or is the first to. -/
def Timely (cfg : TunnelConfig) (s : Loop) (pass : Pass) : Prop :=
  let reached := s.beforeData cfg pass
  reached.result = none → reached.readyFired = false →
    (drainDatagrams reached.reqStream pass.send pass.datagrams).1 = true →
    QuicRecord.accepted ∈ reached.records ∨
      reached.validateSuccesses + 1 < dataProbeRequiredSuccesses

/-- Until ready is reported, the count is that of the round trips. -/
structure Sound (cfg : TunnelConfig) (s : Loop) : Prop where
  lawful : History.Every (Lawful cfg) s.records
  unreported : s.readyFired = false → ∀ announced sent, .ready announced sent ∉ s.records
  counted : s.readyFired = false → s.records.count .roundTrip = s.validateSuccesses

theorem Sound.of_same (sound : Sound cfg s) (records : s'.records = s.records)
    (fired : s'.readyFired = s.readyFired)
    (successes : s'.validateSuccesses = s.validateSuccesses) : Sound cfg s' := by
  constructor
  · rw [records]
    exact sound.lawful
  · rw [records, fired]
    exact sound.unreported
  · rw [records, fired, successes]
    exact sound.counted

theorem Sound.record (sound : Sound cfg s) {record : QuicRecord}
    (silent : ∀ announced sent, record ≠ .ready announced sent)
    (records : s'.records = s.records ++ [record]) (fired : s'.readyFired = s.readyFired)
    (successes : s'.validateSuccesses =
      s.validateSuccesses + if record = .roundTrip then 1 else 0) : Sound cfg s' := by
  constructor
  · rw [records]
    apply sound.lawful.snoc
    cases record with
    | ready announced sent => exact absurd rfl (silent announced sent)
    | accepted => trivial
    | roundTrip => trivial
  · intro open_ announced sent member
    rw [fired] at open_
    rw [records] at member
    rcases List.mem_append.mp member with old | new
    · exact sound.unreported open_ announced sent old
    · exact silent announced sent (List.mem_singleton.mp new).symm
  · intro open_
    rw [fired] at open_
    rw [records, successes, List.count_append, sound.counted open_]
    cases record <;> rfl

theorem Sound.markReady (sound : Sound cfg s) (open_ : s.readyFired = false)
    (accepted : .accepted ∈ s.records)
    (enough : cfg.dataCheck = true → dataProbeRequiredSuccesses ≤ s.validateSuccesses) :
    Sound cfg (s.markReady cfg) := by
  constructor
  · apply sound.lawful.snoc
    refine ⟨sound.unreported open_, accepted, ?_⟩
    rw [sound.counted open_]
    exact enough
  · intro impossible
    cases impossible
  · intro impossible
    cases impossible

theorem Sound.going (sound : Sound cfg s) {part : Loop → Loop}
    (each : s.result = none → Sound cfg (part s)) : Sound cfg (s.going part) := by
  unfold Loop.going
  split
  · rename_i running
    exact each running
  · exact sound

private theorem readHeaders_ok {ok : Bool} {list : List (List UInt8 × List UInt8)}
    (read : readHeaders ok list = .ok true) :
    ok = true ∨ (list.any fun header => header.1 == statusName && Loop.is2xx header.2) = true := by
  induction list generalizing ok with
  | nil => exact Or.inl (Except.ok.inj read)
  | cons header list ih =>
      obtain ⟨name, value⟩ := header
      rw [readHeaders] at read
      rw [List.any_cons, Bool.or_eq_true]
      by_cases status : name = statusName
      · rw [if_pos status] at read
        by_cases accepted : value = status200
        · rw [status, accepted]
          exact Or.inr (Or.inl rfl)
        · rw [if_neg accepted] at read
          cases read
      · rw [if_neg status] at read
        rcases ih read with before | later
        · exact Or.inl before
        · exact Or.inr (Or.inr later)

private theorem pollH3_ok {sid : Nat} {ok : Bool} {capsules : CapsuleParser}
    {events : List H3Event} (polled : (pollH3 sid ok capsules events).connectIpOk = .ok true) :
    ok = true ∨ Loop.accepts sid events = true := by
  induction events generalizing ok capsules with
  | nil => exact Or.inl (Except.ok.inj polled)
  | cons event events ih =>
      have later {ok : Bool} {capsules : CapsuleParser}
          (polled : (pollH3 sid ok capsules events).connectIpOk = .ok true) :
          ok = true ∨ Loop.accepts sid (event :: events) = true := by
        rcases ih polled with before | answered
        · exact Or.inl before
        · refine Or.inr ?_
          rw [Loop.accepts, List.any_cons, Bool.or_eq_true]
          exact Or.inr answered
      cases event with
      | headers stream list =>
          rw [pollH3] at polled
          by_cases other : stream ≠ sid
          · rw [if_pos other] at polled
            exact later polled
          · rw [if_neg other] at polled
            cases read : readHeaders ok list with
            | error error =>
                rw [read] at polled
                cases polled
            | ok ok' =>
                rw [read] at polled
                rcases later polled with answered | answered
                · rw [answered] at read
                  rcases readHeaders_ok read with before | here
                  · exact Or.inl before
                  · refine Or.inr ?_
                    rw [Loop.accepts, List.any_cons, Bool.or_eq_true]
                    simp only [here, Bool.and_true, beq_iff_eq, not_not.mp other, true_or]
                · exact Or.inr answered
      | data stream body =>
          rw [pollH3] at polled
          by_cases other : stream ≠ sid
          · rw [if_pos other] at polled
            exact later polled
          · rw [if_neg other] at polled
            exact later polled
      | finished stream => exact later polled
      | reset stream => exact later polled
      | other stream => exact later polled
      | error code => cases polled

private theorem checkDeadline_sound (pass : Pass) (sound : Sound cfg s) :
    Sound cfg (s.checkDeadline cfg pass) := by
  unfold Loop.checkDeadline
  split
  · split
    · split
      · exact sound.of_same rfl rfl rfl
      · exact sound
    · exact sound
  · exact sound

private theorem sendRequest_sound (pass : Pass) (sound : Sound cfg s) :
    Sound cfg (s.sendRequest cfg pass) := by
  unfold Loop.sendRequest
  split
  · split
    · exact sound.of_same rfl rfl rfl
    · exact sound.of_same rfl rfl rfl
  · exact sound

private theorem recordPoll_sound (sound : Sound cfg s) (polled : Polled) (answered : Bool) :
    Sound cfg (s.recordPoll polled answered) := by
  cases answered with
  | false => exact sound.of_same rfl rfl rfl
  | true => exact sound.record (fun _ _ same => by cases same) rfl rfl rfl

private theorem poll_sound (pass : Pass) (sound : Sound cfg s) : Sound cfg (s.poll cfg pass) := by
  unfold Loop.poll
  split
  · rename_i sid _ _
    have recorded := recordPoll_sound sound (pollH3 sid false s.capsules pass.h3)
      (Loop.accepts sid pass.h3)
    cases polled : (pollH3 sid false s.capsules pass.h3).connectIpOk with
    | error error =>
        simp only [polled]
        exact recorded.of_same rfl rfl rfl
    | ok connectIpOk =>
        simp only [polled]
        by_cases first : connectIpOk = true ∧ cfg.dataCheck = false ∧ s.readyFired = false
        · rw [if_pos first]
          obtain ⟨rfl, unchecked, open_⟩ := first
          apply recorded.markReady open_
          · rcases pollH3_ok polled with before | answered
            · cases before
            · rw [answered]
              exact List.mem_append_right _ List.mem_cons_self
          · intro checked
            rw [unchecked] at checked
            cases checked
        · rw [if_neg first]
          exact recorded
  · exact sound

private theorem countData_sound (sound : Sound cfg s) (open_ : s.readyFired = false)
    {drained : Bool × List (List UInt8 × SendResult)} (delivered : drained.1 = true)
    (timely : QuicRecord.accepted ∈ s.records ∨
      s.validateSuccesses + 1 < dataProbeRequiredSuccesses) :
    Sound cfg ((s.recordData drained).countData cfg) := by
  have counted {s' : Loop} (records : s'.records = s.records ++ [.roundTrip])
      (fired : s'.readyFired = s.readyFired)
      (successes : s'.validateSuccesses = s.validateSuccesses + 1) : Sound cfg s' :=
    @Sound.record cfg s s' sound .roundTrip (fun _ _ same => by cases same) records fired successes
  have records : (s.recordData drained).records = s.records ++ [.roundTrip] := by
    rw [Loop.recordData, if_pos delivered]
  unfold Loop.countData
  simp only
  split
  · rename_i enough
    apply Sound.markReady
    · exact counted records rfl rfl
    · exact open_
    · simp only [records]
      rcases timely with accepted | early
      · exact List.mem_append_left _ accepted
      · exact absurd enough (Nat.not_le_of_lt early)
    · exact fun _ => enough
  · exact counted records rfl rfl

private theorem recordData_sound (sound : Sound cfg s)
    {drained : Bool × List (List UInt8 × SendResult)}
    (uncounted : ¬(drained.1 = true ∧ s.readyFired = false)) :
    Sound cfg (s.recordData drained) := by
  cases delivered : drained.1 with
  | false =>
      refine sound.of_same ?_ rfl rfl
      rw [Loop.recordData, delivered]
      rfl
  | true =>
      have records : (s.recordData drained).records = s.records ++ [.roundTrip] := by
        rw [Loop.recordData, if_pos delivered]
      -- The round trip is on record, but nobody counts any more.
      have fired : ¬(s.recordData drained).readyFired = false :=
        fun open_ => uncounted ⟨delivered, open_⟩
      constructor
      · rw [records]
        exact sound.lawful.snoc (show Lawful cfg s.records .roundTrip from trivial)
      · exact fun open_ => absurd open_ fired
      · exact fun open_ => absurd open_ fired

private theorem drain_sound (sound : Sound cfg s)
    (timely : s.readyFired = false → (drainDatagrams s.reqStream pass.send pass.datagrams).1 = true →
      QuicRecord.accepted ∈ s.records ∨ s.validateSuccesses + 1 < dataProbeRequiredSuccesses) :
    Sound cfg (s.drain cfg pass) := by
  unfold Loop.drain
  by_cases counted : (drainDatagrams s.reqStream pass.send pass.datagrams).1 = true ∧
      s.readyFired = false
  · simp only [if_pos counted]
    exact countData_sound sound counted.2 counted.1 (timely counted.2 counted.1)
  · simp only [if_neg counted]
    exact recordData_sound sound counted

private theorem flush_sound (pass : Pass) (sound : Sound cfg s) : Sound cfg (s.flush pass) := by
  unfold Loop.flush
  split
  · exact sound
  · exact sound.of_same rfl rfl rfl

private theorem checkClosed_sound (pass : Pass) (sound : Sound cfg s) :
    Sound cfg (s.checkClosed pass) := by
  unfold Loop.checkClosed
  split
  · split
    · simp only
      split
      · exact sound.of_same rfl rfl rfl
      · exact sound.of_same rfl rfl rfl
    · exact sound.of_same rfl rfl rfl
  · exact sound

theorem step_sound (taken : s.step cfg pass = some s') (timely : Timely cfg s pass)
    (sound : Sound cfg s) : Sound cfg s' := by
  unfold Loop.step at taken
  split at taken
  case isFalse => cases taken
  case isTrue =>
      cases taken
      have onTime := checkDeadline_sound pass sound
      have requested := onTime.going fun _ => sendRequest_sound pass onTime
      have reached : Sound cfg (s.beforeData cfg pass) :=
        requested.going fun _ => poll_sound pass requested
      have drained := reached.going fun running => drain_sound reached (timely running)
      have flushed := drained.going fun _ => flush_sound pass drained
      exact flushed.going fun _ => checkClosed_sound pass flushed

/-- As long as no second pass gets packets out of the tunnel before the answer is read, ready is
reported at most once, after a 2xx answer and, with the check on, after two round trips. -/
theorem ready_after_acceptance (cfg : TunnelConfig) (readyTx : Bool) {passes : List Pass} {s : Loop}
    (run : Run (Restrict (ofNext (Loop.step cfg)) (Timely cfg)) (Loop.start cfg readyTx) passes s) :
    History.Every (Lawful cfg) s.records := by
  have initially : Sound cfg (Loop.start cfg readyTx) := by
    constructor
    · exact History.every_nil
    · intro _ announced sent member
      cases member
    · intro _
      rfl
  have sound : Sound cfg s :=
    run.invariant (Sound cfg) (fun _ _ _ taken sound => step_sound taken.1 taken.2 sound) initially
  exact sound.lawful

/-- A pass on an established connection whose request is stream 0. -/
def quietPass (h3 : List H3Event) (datagrams : List (List UInt8)) : Pass :=
  { now := 0
    established := true
    request := .ok 0
    h3 := h3
    datagrams := datagrams
    send := fun _ => .sent
    flushed := true
    closed := false
    retryConfigs := none
    reconnected := true }

/-- With the check on: the answer and a packet in one pass, a packet in the next. -/
theorem ready_after_acceptance_checked :
    ∃ s, Run (ofNext (Loop.step ⟨true, true, 10, none⟩)) (Loop.start ⟨true, true, 10, none⟩ true)
        [quietPass [.headers 0 [(statusName, status200)]] [[0, 0, 69]], quietPass [] [[0, 0, 69]]] s ∧
      s.records = [.accepted, .roundTrip, .roundTrip, .ready true true] ∧
      History.Every (Lawful ⟨true, true, 10, none⟩) s.records := by
  have first : Run (Restrict (ofNext (Loop.step ⟨true, true, 10, none⟩))
      (Timely ⟨true, true, 10, none⟩)) (Loop.start ⟨true, true, 10, none⟩ true)
      [quietPass [.headers 0 [(statusName, status200)]] [[0, 0, 69]]] _ :=
    Run.single ⟨rfl, fun _ _ _ => Or.inr (by decide)⟩
  have second : Run (Restrict (ofNext (Loop.step ⟨true, true, 10, none⟩))
      (Timely ⟨true, true, 10, none⟩)) (Loop.start ⟨true, true, 10, none⟩ true)
      ([quietPass [.headers 0 [(statusName, status200)]] [[0, 0, 69]]] ++
        [quietPass [] [[0, 0, 69]]]) _ :=
    first.snoc ⟨rfl, fun _ _ _ => Or.inl (by decide)⟩
  exact ⟨_, second.of_restrict, by decide, ready_after_acceptance _ _ second⟩

/-- Two passes with a packet each before any answer: the tunnel is reported ready. -/
theorem early_data_ready :
    ¬∀ cfg readyTx passes s, Run (ofNext (Loop.step cfg)) (Loop.start cfg readyTx) passes s →
      History.Every (Lawful cfg) s.records := by
  intro claim
  have run : Run (ofNext (Loop.step ⟨true, false, 10, none⟩))
      (Loop.start ⟨true, false, 10, none⟩ true)
      [quietPass [] [[0, 0, 69]], quietPass [] [[0, 0, 69]]] _ :=
    run_of_execute rfl
  have lawful := claim _ _ _ _ run [.roundTrip, .roundTrip] (.ready true true) [] rfl
  exact absurd lawful.2.1 (by decide)

end Readiness

end MolidoVpn.Masque.Quic
