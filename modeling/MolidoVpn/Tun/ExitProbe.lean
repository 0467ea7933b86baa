import MolidoVpn.Lib.History
import MolidoVpn.Lib.Transition
import MolidoVpn.Tun.ExitIp

/-!
The measurement of the exit address as the bridge drives it (`exitprobe` in `tun.rs`),
and its runs: any calls, in any order, at times that do not go back. Times are in
nanoseconds.
-/

namespace MolidoVpn.Tun

open History (Every every_nil)
open Transition (Run ofNext execute run_of_execute)

def firstDelay : Nat := 1200000000

def retryGap : Nat := 3000000000

def maxAttempts : Nat := 4

inductive ProbeState where
  | idle
  | waiting (probe : Probe) (attempts next : Nat)
  | done
  deriving DecidableEq

structure ExitProbe where
  localIpv4 : Ipv4Addr
  state : ProbeState
  startAfter : Option Nat
  deriving DecidableEq

namespace ExitProbe

def new (localIpv4 : Ipv4Addr) : ExitProbe :=
  { localIpv4 := localIpv4
    state := .idle
    startAfter := none }

def needsTicking (exit : ExitProbe) : Bool := exit.state != .done

def arm (exit : ExitProbe) (now : Nat) : ExitProbe :=
  match exit.startAfter with
  | none => { exit with startAfter := some (now + firstDelay) }
  | some _ => exit

def due (exit : ExitProbe) (now : Nat) (draws : Draws) : ExitProbe × Option (List UInt8) :=
  if exit.localIpv4 = ⟨0, 0, 0, 0⟩ then ({ exit with state := .done }, none)
  else
    match exit.state with
    | .idle =>
        if exit.startAfter.any (· ≤ now) then
          let probe := Probe.whoami exit.localIpv4 draws
          ({ exit with state := .waiting probe 1 (now + retryGap) }, some probe.packet)
        else (exit, none)
    | .waiting probe attempts next =>
        if now < next then (exit, none)
        else if attempts ≥ maxAttempts then ({ exit with state := .done }, none)
        else
          ({ exit with state := .waiting probe (attempts + 1) (now + retryGap) },
            some probe.packet)
    | .done => (exit, none)

/-- The address that is reported to the app, and whether the packet is swallowed. -/
def consume (exit : ExitProbe) (packet : List UInt8) : ExitProbe × Option Ipv4Addr × Bool :=
  match exit.state with
  | .waiting probe _ _ =>
      if probe.matches packet then
        match probe.read packet with
        | some ip => ({ exit with state := .done }, some ip, true)
        | none => (exit, none, true)
      else (exit, none, false)
  | .idle | .done => (exit, none, false)

/-- The probe that an answer is awaited for. -/
def outstanding (exit : ExitProbe) : Option Probe :=
  match exit.state with
  | .waiting probe _ _ => some probe
  | .idle | .done => none

theorem consume_swallows_iff (exit : ExitProbe) (packet : List UInt8) :
    (exit.consume packet).2.2 = true ↔
      ∃ probe, exit.outstanding = some probe ∧ probe.matches packet = true := by
  unfold consume outstanding
  cases exit.state with
  | idle | done =>
      simp only [Bool.false_eq_true, reduceCtorEq, false_and, exists_false]
  | waiting probe attempts next =>
      simp only [Option.some.injEq, exists_eq_left']
      by_cases answers : probe.matches packet = true
      · rw [if_pos answers]
        cases probe.read packet <;> exact iff_of_true rfl answers
      · rw [if_neg answers]
        exact iff_of_false Bool.false_ne_true answers

theorem needsTicking_eq_false {exit : ExitProbe} :
    exit.needsTicking = false ↔ exit.state = .done := by
  rw [needsTicking, bne_eq_false_iff_eq]

end ExitProbe

inductive Call where
  | arm (now : Nat)
  | due (now : Nat) (draws : Draws)
  | consume (now : Nat) (packet : List UInt8)
  deriving DecidableEq

def Call.now : Call → Nat
  | .arm now => now
  | .due now _ => now
  | .consume now _ => now

inductive Record where
  | armed (now : Nat)
  | sent (now : Nat) (packet : List UInt8)
  | shown (packet : List UInt8) (outstanding : Option Probe) (swallowed : Bool)
  deriving DecidableEq

/-- The probe with the time of its last call and what its calls came to. -/
structure Watched where
  exit : ExitProbe
  clock : Nat
  records : List Record
  deriving DecidableEq

def Watched.new (localIpv4 : Ipv4Addr) : Watched :=
  { exit := ExitProbe.new localIpv4
    clock := 0
    records := [] }

/-- The effect of one call, and its record. -/
def perform (exit : ExitProbe) : Call → ExitProbe × List Record
  | .arm now => (exit.arm now, [.armed now])
  | .due now draws =>
      let (after, packet) := exit.due now draws
      (after, packet.toList.map (Record.sent now))
  | .consume _ packet =>
      let (after, _, swallowed) := exit.consume packet
      (after, [.shown packet exit.outstanding swallowed])

def Watched.next (watched : Watched) (call : Call) : Option Watched :=
  if watched.clock ≤ call.now then
    some
      { exit := (perform watched.exit call).1
        clock := call.now
        records := watched.records ++ (perform watched.exit call).2 }
  else none

/-- When probe packets were sent. -/
def sendTimes (records : List Record) : List Nat :=
  records.filterMap fun record =>
    match record with
    | .sent now _ => some now
    | _ => none

/-- When the probe was armed; later calls change nothing. -/
def firstArm (records : List Record) : Option Nat :=
  records.findSome? fun record =>
    match record with
    | .armed now => some now
    | _ => none

/-- The first packet waits for the delay after the first arm, a later one for the gap. -/
def Paced (before : List Record) : Record → Prop
  | .sent now _ =>
      match (sendTimes before).getLast? with
      | some last => last + retryGap ≤ now
      | none => ∃ armed, firstArm before = some armed ∧ armed + firstDelay ≤ now
  | _ => True

/-- Only an answer to the outstanding probe is swallowed. -/
def Swallows : Record → Prop
  | .shown packet outstanding swallowed =>
      swallowed = true → ∃ probe, outstanding = some probe ∧ probe.matches packet = true
  | _ => True

theorem sendTimes_append (records added : List Record) :
    sendTimes (records ++ added) = sendTimes records ++ sendTimes added :=
  List.filterMap_append

theorem firstArm_append (records added : List Record) :
    firstArm (records ++ added) = (firstArm records).or (firstArm added) :=
  List.findSome?_append

/-- What the state of the probe says about the packets sent so far. -/
def Accounts (times : List Nat) : ProbeState → Prop
  | .idle => times = []
  | .waiting _ attempts next =>
      times.length = attempts ∧ attempts ≤ maxAttempts ∧
        ∃ last, times.getLast? = some last ∧ last + retryGap = next
  | .done => times.length ≤ maxAttempts

theorem Accounts.bounded {times : List Nat} {state : ProbeState} (accounts : Accounts times state) :
    times.length ≤ maxAttempts := by
  cases state with
  | idle =>
      rw [show times = [] from accounts]
      exact Nat.zero_le _
  | waiting probe attempts next =>
      obtain ⟨length, bound, _⟩ := accounts
      omega
  | done => exact accounts

structure Tracked (watched : Watched) : Prop where
  started : watched.exit.startAfter = (firstArm watched.records).map (· + firstDelay)
  accounts : Accounts (sendTimes watched.records) watched.exit.state
  paced : Every Paced watched.records
  swallows : ∀ record ∈ watched.records, Swallows record

section Calls

variable {watched : Watched}

/-- The records of a call that sends nothing. -/
private theorem Tracked.silent (tracked : Tracked watched) {exit : ExitProbe} {clock : Nat}
    {record : Record}
    (started : exit.startAfter = (firstArm (watched.records ++ [record])).map (· + firstDelay))
    (unsent : sendTimes [record] = []) (accounts : Accounts (sendTimes watched.records) exit.state)
    (swallows : Swallows record) :
    Tracked ⟨exit, clock, watched.records ++ [record]⟩ where
  started := started
  accounts := by
    rw [sendTimes_append, unsent, List.append_nil]
    exact accounts
  paced := by
    apply tracked.paced.append_silent
    intro other member before
    obtain rfl := List.mem_singleton.mp member
    cases other with
    | sent now packet => cases unsent
    | armed now | shown packet outstanding swallowed => trivial
  swallows := by
    intro other member
    rcases List.mem_append.mp member with old | new
    · exact tracked.swallows other old
    · obtain rfl := List.mem_singleton.mp new
      exact swallows

private theorem tracked_arm (tracked : Tracked watched) (now : Nat) :
    Tracked ⟨watched.exit.arm now, now, watched.records ++ [.armed now]⟩ := by
  have state : (watched.exit.arm now).state = watched.exit.state := by
    unfold ExitProbe.arm
    split <;> rfl
  apply tracked.silent
  · rw [firstArm_append]
    have started := tracked.started
    unfold ExitProbe.arm
    cases first : firstArm watched.records with
    | none =>
        rw [first, Option.map_none] at started
        rw [started]
        rfl
    | some armed =>
        rw [first, Option.map_some] at started
        rw [started]
        exact started
  · rfl
  · rw [state]
    exact tracked.accounts
  · trivial

private theorem tracked_consume (tracked : Tracked watched) (now : Nat) (packet : List UInt8) :
    Tracked ⟨(watched.exit.consume packet).1, now,
      watched.records ++
        [.shown packet watched.exit.outstanding (watched.exit.consume packet).2.2]⟩ := by
  have shape : (watched.exit.consume packet).1 = watched.exit ∨
      (watched.exit.consume packet).1 = { watched.exit with state := .done } := by
    unfold ExitProbe.consume
    cases watched.exit.state with
    | idle | done => exact Or.inl rfl
    | waiting probe attempts next =>
        simp only
        split
        · split
          · exact Or.inr rfl
          · exact Or.inl rfl
        · exact Or.inl rfl
  apply tracked.silent
  · have unarmed : firstArm (watched.records ++
        [.shown packet watched.exit.outstanding (watched.exit.consume packet).2.2]) =
          firstArm watched.records := by
      rw [firstArm_append]
      exact Option.or_none
    rw [unarmed]
    rcases shape with same | done
    · rw [same]
      exact tracked.started
    · rw [done]
      exact tracked.started
  · rfl
  · rcases shape with same | done
    · rw [same]
      exact tracked.accounts
    · rw [done]
      exact tracked.accounts.bounded
  · exact (watched.exit.consume_swallows_iff packet).mp

/-- A packet that goes out when it is due. -/
private theorem Tracked.send (tracked : Tracked watched) {now : Nat} {packet : List UInt8}
    {probe : Probe}
    (due : Paced watched.records (.sent now packet))
    (room : (sendTimes watched.records).length < maxAttempts) :
    Tracked
      ⟨{ watched.exit with
          state := .waiting probe ((sendTimes watched.records).length + 1) (now + retryGap) }, now,
        watched.records ++ [.sent now packet]⟩ where
  started := by
    rw [firstArm_append]
    have unarmed : firstArm [.sent now packet] = none := rfl
    rw [unarmed, Option.or_none]
    exact tracked.started
  accounts := by
    rw [sendTimes_append]
    change Accounts (sendTimes watched.records ++ [now]) _
    refine ⟨List.length_append, room, now, List.getLast?_concat, rfl⟩
  paced := tracked.paced.snoc due
  swallows := by
    intro other member
    rcases List.mem_append.mp member with old | new
    · exact tracked.swallows other old
    · obtain rfl := List.mem_singleton.mp new
      trivial

/-- A call that sends nothing and records nothing. -/
private theorem Tracked.still (tracked : Tracked watched) {exit : ExitProbe} (clock : Nat)
    (started : exit.startAfter = watched.exit.startAfter)
    (accounts : Accounts (sendTimes watched.records) exit.state) :
    Tracked ⟨exit, clock, watched.records ++ []⟩ := by
  rw [List.append_nil]
  exact ⟨started.trans tracked.started, accounts, tracked.paced, tracked.swallows⟩

private theorem tracked_due (tracked : Tracked watched) (now : Nat) (draws : Draws) :
    Tracked ⟨(watched.exit.due now draws).1, now,
      watched.records ++ (watched.exit.due now draws).2.toList.map (Record.sent now)⟩ := by
  unfold ExitProbe.due
  split
  · exact tracked.still now rfl tracked.accounts.bounded
  · cases here : watched.exit.state with
    | done => exact tracked.still now rfl tracked.accounts
    | idle =>
        have none_ : sendTimes watched.records = [] := by
          have accounts := tracked.accounts
          rw [here] at accounts
          exact accounts
        simp only
        split
        · rename_i ready
          have send := @Tracked.send watched tracked now
            (Probe.whoami watched.exit.localIpv4 draws).packet
            (Probe.whoami watched.exit.localIpv4 draws)
          rw [none_] at send
          apply send _ (by decide)
          rw [tracked.started] at ready
          simp only [Paced, none_, List.getLast?_nil]
          cases first : firstArm watched.records with
          | none =>
              rw [first] at ready
              cases ready
          | some armed =>
              rw [first, Option.map_some, Option.any_some, decide_eq_true_eq] at ready
              exact ⟨armed, rfl, ready⟩
        · exact tracked.still now rfl tracked.accounts
    | waiting probe attempts next =>
        have accounts := tracked.accounts
        rw [here] at accounts
        obtain ⟨length, _, last, latest, after⟩ := accounts
        simp only
        split
        · exact tracked.still now rfl tracked.accounts
        · rename_i notEarly
          split
          · exact tracked.still now rfl tracked.accounts.bounded
          · rename_i more
            have send := @Tracked.send watched tracked now probe.packet probe
            rw [length] at send
            apply send _ (by omega)
            simp only [Paced, latest]
            omega

/-- What one call preserves. -/
theorem next_tracked (source : Watched) (call : Call) (target : Watched)
    (taken : ofNext Watched.next source call target) (tracked : Tracked source) :
    Tracked target := by
  unfold ofNext Watched.next at taken
  split at taken
  · obtain rfl := Option.some.inj taken
    cases call with
    | arm now => exact tracked_arm tracked now
    | due now draws => exact tracked_due tracked now draws
    | consume now packet => exact tracked_consume tracked now packet
  · cases taken

end Calls

/-- A probe that is done stays done and sends nothing. -/
theorem next_done {source target : Watched} {call : Call}
    (taken : ofNext Watched.next source call target) (done : source.exit.state = .done) :
    target.exit.state = .done ∧ sendTimes target.records = sendTimes source.records := by
  unfold ofNext Watched.next at taken
  split at taken
  · obtain rfl := Option.some.inj taken
    cases call with
    | arm now =>
        refine ⟨?_, ?_⟩
        · simp only [perform, ExitProbe.arm]
          split <;> exact done
        · rw [sendTimes_append]
          exact List.append_nil _
    | due now draws =>
        simp only [perform, ExitProbe.due, done]
        split
        · exact ⟨rfl, by rw [sendTimes_append]; exact List.append_nil _⟩
        · exact ⟨done, by rw [sendTimes_append]; exact List.append_nil _⟩
    | consume now packet =>
        simp only [perform, ExitProbe.consume, done]
        exact ⟨trivial, by rw [sendTimes_append]; exact List.append_nil _⟩
  · cases taken

theorem new_tracked (localIpv4 : Ipv4Addr) : Tracked (Watched.new localIpv4) where
  started := rfl
  accounts := rfl
  paced := every_nil
  swallows := by
    intro record impossible
    cases impossible

/-- However the calls come: four packets at most, the first well after the first arm and the others
apart, none when the probe is done, and nothing is swallowed but an awaited answer. -/
theorem exitProbe_paced (localIpv4 : Ipv4Addr) {calls more : List Call} {watched later : Watched}
    (run : Run (ofNext Watched.next) (Watched.new localIpv4) calls watched)
    (rest : Run (ofNext Watched.next) watched more later) :
    (sendTimes watched.records).length ≤ maxAttempts ∧ Every Paced watched.records ∧
      (watched.exit.state = .done → sendTimes later.records = sendTimes watched.records) ∧
      ∀ record ∈ watched.records, Swallows record := by
  have tracked := run.invariant Tracked next_tracked (new_tracked localIpv4)
  refine ⟨tracked.accounts.bounded, tracked.paced, ?_, tracked.swallows⟩
  intro done
  have stays : later.exit.state = .done ∧
      sendTimes later.records = sendTimes watched.records := by
    apply rest.invariant (fun state => state.exit.state = .done ∧
      sendTimes state.records = sendTimes watched.records)
    · intro source call target taken held
      have next := next_done taken held.1
      exact ⟨next.1, next.2.trans held.2⟩
    · exact ⟨done, rfl⟩
  exact stays.2

def sampleDraws : Draws := ⟨0x1234, 7, 99⟩

theorem exitProbe_paced_twice :
    ∃ watched : Watched,
      sendTimes watched.records = [1200000000, 4200000000] ∧
      (sendTimes watched.records).length ≤ maxAttempts ∧ Every Paced watched.records ∧
        (watched.exit.state = .done → sendTimes watched.records = sendTimes watched.records) ∧
        ∀ record ∈ watched.records, Swallows record := by
  have executed : (execute Watched.next (Watched.new ⟨10, 0, 0, 2⟩)
      [.arm 0, .due 400000000 sampleDraws, .consume 500000000 [], .due 1200000000 sampleDraws,
        .arm 2000000000, .due 3000000000 sampleDraws, .due 4200000000 sampleDraws]).map
        (fun watched => sendTimes watched.records) = some [1200000000, 4200000000] := by
    rfl
  obtain ⟨watched, reached, times⟩ := Option.map_eq_some_iff.mp executed
  exact ⟨watched, times, exitProbe_paced ⟨10, 0, 0, 2⟩ (run_of_execute reached) Run.nil⟩

/-- A second arm does not put the first packet off. -/
theorem exitProbe_sends_soon_after_arm :
    ¬ ∀ (localIpv4 : Ipv4Addr) (calls : List Call) (watched : Watched),
      Run (ofNext Watched.next) (Watched.new localIpv4) calls watched →
        ∀ before now sent packet after,
          watched.records = before ++ .armed now :: .sent sent packet :: after →
            now + firstDelay ≤ sent := by
  intro always
  have executed : (execute Watched.next (Watched.new ⟨10, 0, 0, 2⟩)
      [.arm 0, .arm 1100000000, .due 1200000000 sampleDraws]).map Watched.records =
      some [.armed 0, .armed 1100000000,
        .sent 1200000000 (Probe.whoami ⟨10, 0, 0, 2⟩ sampleDraws).packet] := by
    rfl
  obtain ⟨watched, reached, records⟩ := Option.map_eq_some_iff.mp executed
  have early := always ⟨10, 0, 0, 2⟩ _ watched (run_of_execute reached) [.armed 0] 1100000000
    1200000000 (Probe.whoami ⟨10, 0, 0, 2⟩ sampleDraws).packet [] records
  exact absurd early (by decide)

end MolidoVpn.Tun
