import MolidoVpn.Tun.ExitIp

/-!
The data-plane check of a WireGuard endpoint (`verify_dataplane`): small probes first, then
the ladder of sizes. A turn of its loop has the moment it reads as an input; times are in
milliseconds.
-/

namespace MolidoVpn.WireGuard

open Tun (byteAt wordAt wordBytes putWord octets fold onesComplementSum)

def dataplaneRequiredSuccesses : Nat := 2

def dataplaneProbeGap : Nat := 600

def probeLadder : List Nat := [1200, 1000, 800, 576]

def ladderStepBudget : Nat := 1200

def resendGap : Nat := 700

def largeProbeId : UInt16 := 0x4d47

/-- `*PROBE_LADDER.last().unwrap_or(&576)` -/
def ladderFloor : Nat := probeLadder.getLast?.getD 576

def ipv4Checksum (header : List UInt8) : UInt16 := fold (onesComplementSum header 0)

def icmpChecksum (body : List UInt8) : UInt16 := fold (onesComplementSum body 0)

/-- The identification of the packet is drawn at random. -/
def buildLargeProbe (src : Ipv4Addr) (totalLen : Nat) (identification : UInt16) : List UInt8 :=
  let totalLen := max totalLen 60
  let payloadLen := totalLen - 20 - 8
  let icmp := [8, 0, 0x00, 0x00] ++ wordBytes largeProbeId ++ wordBytes 1 ++
    (List.range payloadLen).map (fun index => UInt8.ofNat (index % 251))
  let icmp := putWord icmp 2 (icmpChecksum icmp)
  let header := [0x45, 0x00] ++ wordBytes (UInt16.ofNat totalLen) ++ wordBytes identification ++
    [0x40, 0x00, 64, 1, 0x00, 0x00] ++ octets src ++ octets ⟨8, 8, 8, 8⟩
  putWord header 10 (ipv4Checksum (header.take 20)) ++ icmp

def isLargeProbeReply (pkt : List UInt8) : Bool :=
  if pkt.length < 28 then false
  else if byteAt pkt 0 >>> 4 ≠ 4 ∨ byteAt pkt 9 ≠ 1 then false
  else
    let ihl := (byteAt pkt 0 &&& 0x0f).toNat * 4
    if pkt.length < ihl + 8 then false
    else byteAt pkt ihl == 0 && wordAt pkt (ihl + 4) == largeProbeId

/-- One WireGuard session with an endpoint; no two have the same number. -/
structure Session where
  number : Nat
  peer : SocketAddr
  deriving DecidableEq

/-- A run of `verify_dataplane`. It is `waiting` inside `select!`. -/
structure Verify where
  session : Session
  localIpv4 : Ipv4Addr
  deadline : Nat
  successes : Nat
  rung : Option (Fin probeLadder.length)
  largeProbe : List UInt8
  rungDeadline : Nat
  lastProbeAt : Nat
  resendAt : Nat
  waiting : Bool
  deriving DecidableEq

/-- `turn` is from the top of the loop to `select!`, or to `continue`. -/
inductive Event where
  | turn (now : Nat) (identification : UInt16)
  | decapsulated (pkt : List UInt8) (now : Nat) (identification : UInt16)
  | answered
  | ioFails
  deriving DecidableEq

/-- What an event leads to, with the large probes that it sends. A run that returns has stored a
size in the hint, on the word of a reply or of nothing. -/
inductive Progress where
  | continues (run : Verify) (sent : List (List UInt8))
  | returns (size : Nat) (reply : Option (List UInt8))
  | fails
  deriving DecidableEq

namespace Verify

def start (session : Session) (localIpv4 : Ipv4Addr) (deadline now : Nat) : Verify :=
  { session := session
    localIpv4 := localIpv4
    deadline := deadline
    successes := 0
    rung := none
    largeProbe := []
    rungDeadline := deadline
    lastProbeAt := now
    resendAt := now + resendGap
    waiting := false }

/-- The next size of the ladder. -/
def climb (run : Verify) (rung : Fin probeLadder.length) (identification : UInt16) : Verify :=
  { run with
    rung := some rung
    largeProbe := buildLargeProbe run.localIpv4 (probeLadder.get rung) identification }

/-- The probe of the stage again, when it is due, and the wait. -/
def resend (run : Verify) (now : Nat) : Progress :=
  if now ≥ run.resendAt then
    .continues { run with lastProbeAt := now, resendAt := now + resendGap, waiting := true }
      (if run.rung.isSome then [run.largeProbe] else [])
  else .continues { run with waiting := true } []

def turn (run : Verify) (now : Nat) (identification : UInt16) : Progress :=
  if now ≥ run.deadline then
    if run.rung.isSome then .returns ladderFloor none else .fails
  else
    match run.rung with
    | none => run.resend now
    | some index =>
        if now ≥ run.rungDeadline then
          if within : index.val + 1 < probeLadder.length then
            let next := run.climb ⟨index.val + 1, within⟩ identification
            .continues
              { next with
                rungDeadline := now + ladderStepBudget
                lastProbeAt := now
                resendAt := now + resendGap
                waiting := false }
              [next.largeProbe]
          else { run with rungDeadline := run.deadline }.resend now
        else run.resend now

/-- Any packet counts for the small probes, only the echo reply for the large ones. -/
def decapsulated (run : Verify) (pkt : List UInt8) (now : Nat) (identification : UInt16) :
    Progress :=
  match run.rung with
  | some index =>
      if isLargeProbeReply pkt then .returns (probeLadder.get index) (some pkt)
      else .continues { run with waiting := false } []
  | none =>
      let nextAt := max now (run.lastProbeAt + dataplaneProbeGap)
      let counted :=
        { run with
          successes := run.successes + 1
          lastProbeAt := nextAt
          resendAt := nextAt + resendGap
          waiting := false }
      if run.successes + 1 ≥ dataplaneRequiredSuccesses then
        let first := counted.climb ⟨0, by decide⟩ identification
        .continues { first with rungDeadline := nextAt + ladderStepBudget } [first.largeProbe]
      else .continues counted []

/-- A packet arrives inside `select!` only; its sleep may end at any moment. -/
def step (run : Verify) : Event → Option Progress
  | .turn now identification => some (run.turn now identification)
  | .decapsulated pkt now identification =>
      if run.waiting then some (run.decapsulated pkt now identification) else none
  | .answered => if run.waiting then some (.continues { run with waiting := false } []) else none
  | .ioFails => some .fails

end Verify

theorem buildLargeProbe_length (src : Ipv4Addr) (totalLen : Nat) (identification : UInt16) :
    (buildLargeProbe src totalLen identification).length = max totalLen 60 := by
  simp only [buildLargeProbe, putWord, octets, wordBytes, List.length_append, List.length_set,
    List.length_map, List.length_range, List.length_cons, List.length_nil]
  omega

theorem probeLadder_get_ge (rung : Fin probeLadder.length) : 60 ≤ probeLadder.get rung := by
  revert rung
  decide

/-- The ladder goes down. -/
theorem probeLadder_get_le {first second : Fin probeLadder.length} (below : first ≤ second) :
    probeLadder.get second ≤ probeLadder.get first := by
  revert first second
  decide

theorem Verify.climb_length (run : Verify) (rung : Fin probeLadder.length)
    (identification : UInt16) :
    (run.climb rung identification).largeProbe.length = probeLadder.get rung := by
  change (buildLargeProbe _ _ _).length = _
  rw [buildLargeProbe_length]
  exact Nat.max_eq_left (probeLadder_get_ge rung)

/-- What the large probes sent so far say about the rung: none was smaller, and one was not
larger. -/
def Verify.OnRung (run : Verify) (sent : List Nat) : Prop :=
  match run.rung with
  | none => sent = []
  | some index =>
      run.largeProbe.length = probeLadder.get index ∧ probeLadder.get index ∈ sent ∧
        ∀ length ∈ sent, probeLadder.get index ≤ length

private theorem resend_onRung {run after : Verify} {now : Nat} {new : List (List UInt8)}
    {sent : List Nat} (onRung : run.OnRung sent)
    (resent : run.resend now = .continues after new) :
    after.session = run.session ∧ after.OnRung (sent ++ new.map List.length) := by
  unfold Verify.OnRung at onRung
  unfold Verify.resend at resent
  split at resent
  · cases resent
    constructor
    · rfl
    · unfold Verify.OnRung
      cases rung : run.rung with
      | none =>
          rw [rung] at onRung
          simp only [onRung, Option.isSome_none, Bool.false_eq_true, if_false, List.map_nil,
            List.append_nil]
      | some index =>
          rw [rung] at onRung
          obtain ⟨length, member, larger⟩ := onRung
          simp only [Option.isSome_some, if_true, List.map_cons, List.map_nil, length]
          refine ⟨trivial, List.mem_append_left _ member, fun other among => ?_⟩
          rcases List.mem_append.mp among with old | new
          · exact larger other old
          · rw [List.mem_singleton.mp new]
  · cases resent
    rw [List.map_nil, List.append_nil]
    exact ⟨rfl, onRung⟩

/-- A new rung of the ladder, no larger than what was sent before. -/
private theorem climb_onRung (run : Verify) (rung : Fin probeLadder.length)
    (identification : UInt16) {sent : List Nat}
    (larger : ∀ length ∈ sent, probeLadder.get rung ≤ length) {after : Verify}
    (rungAfter : after.rung = some rung)
    (probe : after.largeProbe = (run.climb rung identification).largeProbe) :
    after.OnRung (sent ++ [(run.climb rung identification).largeProbe].map List.length) := by
  have length := run.climb_length rung identification
  unfold Verify.OnRung
  rw [rungAfter, probe, List.map_cons, List.map_nil, length]
  refine ⟨rfl, List.mem_append_right _ (List.mem_singleton_self _), fun other among => ?_⟩
  rcases List.mem_append.mp among with old | new
  · exact larger other old
  · rw [List.mem_singleton.mp new]

theorem Verify.step_continues {run after : Verify} {event : Event} {new : List (List UInt8)}
    {sent : List Nat} (onRung : run.OnRung sent)
    (taken : run.step event = some (.continues after new)) :
    after.session = run.session ∧ after.OnRung (sent ++ new.map List.length) := by
  have same {other : Verify} (session : other.session = run.session)
      (rung : other.rung = run.rung) (probe : other.largeProbe = run.largeProbe) :
      other.session = run.session ∧ other.OnRung (sent ++ ([] : List (List UInt8)).map List.length) := by
    rw [List.map_nil, List.append_nil]
    refine ⟨session, ?_⟩
    unfold Verify.OnRung
    rw [rung, probe]
    exact onRung
  cases event with
  | turn now identification =>
      have turned := Option.some.inj taken
      unfold Verify.turn at turned
      split at turned
      · split at turned <;> cases turned
      · split at turned
        · exact resend_onRung onRung turned
        · rename_i index rung
          split at turned
          · split at turned
            · cases turned
              unfold Verify.OnRung at onRung
              rw [rung] at onRung
              obtain ⟨_, _, larger⟩ := onRung
              refine ⟨rfl, climb_onRung run _ identification ?_ rfl rfl⟩
              intro length among
              exact (probeLadder_get_le (Nat.le_succ index.val)).trans (larger length among)
            · apply resend_onRung _ turned
              exact onRung
          · exact resend_onRung onRung turned
  | decapsulated pkt now identification =>
      simp only [Verify.step] at taken
      split at taken
      · have received := Option.some.inj taken
        unfold Verify.decapsulated at received
        split at received
        · split at received
          · cases received
          · cases received
            exact same rfl rfl rfl
        · rename_i rung
          unfold Verify.OnRung at onRung
          rw [rung] at onRung
          simp only at received
          split at received
          · cases received
            refine ⟨rfl, climb_onRung _ _ identification ?_ rfl rfl⟩
            intro length among
            rw [onRung] at among
            cases among
          · cases received
            exact same rfl rfl rfl
      · cases taken
  | answered =>
      simp only [Verify.step] at taken
      split at taken
      · cases taken
        exact same rfl rfl rfl
      · cases taken
  | ioFails => cases taken

theorem Verify.step_returns {run : Verify} {event : Event} {size : Nat}
    {reply : Option (List UInt8)} {sent : List Nat} (onRung : run.OnRung sent)
    (taken : run.step event = some (.returns size reply)) :
    (∃ pkt, reply = some pkt ∧ isLargeProbeReply pkt = true ∧ size ∈ sent ∧
        ∀ length ∈ sent, size ≤ length) ∨
      reply = none ∧ size = ladderFloor ∧ sent ≠ [] := by
  have resend {now : Nat} {other : Verify} : other.resend now ≠ .returns size reply := by
    intro impossible
    unfold Verify.resend at impossible
    split at impossible <;> cases impossible
  unfold Verify.OnRung at onRung
  cases event with
  | turn now identification =>
      have turned := Option.some.inj taken
      unfold Verify.turn at turned
      split at turned
      · cases rung : run.rung with
        | none =>
            rw [rung] at turned
            cases turned
        | some index =>
            rw [rung] at turned onRung
            cases turned
            exact Or.inr ⟨rfl, rfl, List.ne_nil_of_mem onRung.2.1⟩
      · split at turned
        · exact absurd turned resend
        · split at turned
          · split at turned
            · cases turned
            · exact absurd turned resend
          · exact absurd turned resend
  | decapsulated pkt now identification =>
      simp only [Verify.step] at taken
      split at taken
      · have received := Option.some.inj taken
        unfold Verify.decapsulated at received
        split at received
        · rename_i index rung
          rw [rung] at onRung
          split at received
          · rename_i answer
            cases received
            exact Or.inl ⟨pkt, rfl, answer, onRung.2⟩
          · cases received
        · simp only at received
          split at received <;> cases received
      · cases taken
  | answered =>
      simp only [Verify.step] at taken
      split at taken <;> cases taken
  | ioFails => cases taken

end MolidoVpn.WireGuard
