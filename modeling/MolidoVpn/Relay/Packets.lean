import MolidoVpn.Lib.Checked
import MolidoVpn.Relay.Acknowledgements

/-!
What `serve` and `handle_tcp` read of a packet, with the indexing and the slicing of the source:
every length that they go by is the packet's own word, up to the number of bytes read.
-/

namespace MolidoVpn.Relay

open Checked (Panic Safe get slice sliceFrom get_of_lt slice_of_le slice_error sliceFrom_of_le
  safe_ok safe_bind not_safe_bind safe_map)
open Transition (Run)

/-- `u16::from_be_bytes` -/
def word16 (high low : UInt8) : UInt16 :=
  UInt16.ofNat (high.toNat * 256 + low.toNat)

/-- `u32::from_be_bytes` -/
def word32 (a b c d : UInt8) : UInt32 :=
  UInt32.ofNat (((a.toNat * 256 + b.toNat) * 256 + c.toNat) * 256 + d.toNat)

def ipFromBytes (b : List UInt8) : Except Panic Ipv4Addr := do
  let first ← get b 0
  let second ← get b 1
  let third ← get b 2
  let fourth ← get b 3
  pure ⟨first, second, third, fourth⟩

/-- SYN, ACK, FIN -/
def tcpFlags (buf : List UInt8) (ihl : Nat) : Except Panic (Bool × Bool × Bool) :=
  if buf.length < ihl + 14 then pure (false, false, false)
  else do
    let flags ← get buf (ihl + 13)
    pure (flags &&& 0x02 != 0, flags &&& 0x10 != 0, flags &&& 0x01 != 0)

def isRstFlag (tcp : List UInt8) : Except Panic Bool :=
  if 13 < tcp.length then do
    let flags ← get tcp 13
    pure (flags &&& 0x04 != 0)
  else pure false

/-- The head of `handle_tcp`, up to its first branch: nothing if the packet is too short for it.
Of the data that follows, `payload_len` is the number of bytes. -/
def readSegment (packet : List UInt8) (ihl : Nat) (srcIp dstIp : Ipv4Addr)
    (bounded : packet.length ≤ 65535) : Except Panic (Option Segment) :=
  if packet.length < ihl + 20 then pure none
  else do
    let tcp ← sliceFrom packet ihl
    let sport := word16 (← get tcp.1 0) (← get tcp.1 1)
    let dport := word16 (← get tcp.1 2) (← get tcp.1 3)
    let seqNum := word32 (← get tcp.1 4) (← get tcp.1 5) (← get tcp.1 6) (← get tcp.1 7)
    let ackNum := word32 (← get tcp.1 8) (← get tcp.1 9) (← get tcp.1 10) (← get tcp.1 11)
    let tcpHdrLen := ((← get tcp.1 12) >>> 4).toNat * 4
    let (isSyn, isAck, isFin) ← tcpFlags packet ihl
    let payload ← slice tcp.1 tcpHdrLen tcp.1.length
    let isRst ← isRstFlag tcp.1
    pure <| some
      { flow := { srcIp := srcIp, sport := sport, dstIp := dstIp, dport := dport }
        seqNum := seqNum
        ackNum := ackNum
        isSyn := isSyn
        isAck := isAck
        isFin := isFin
        isRst := isRst
        payload := payload.1
        payload_le := payload.2.trans (tcp.2.trans bounded) }

/-- The head of `handle_udp_spawn`: the source port and the payload of a DNS query. -/
def readQuery (packet : List UInt8) (ihl : Nat) : Except Panic (Option (UInt16 × List UInt8)) :=
  if packet.length < ihl + 8 then pure none
  else do
    let udp ← sliceFrom packet ihl
    let srcPort := word16 (← get udp.1 0) (← get udp.1 1)
    let dstPort := word16 (← get udp.1 2) (← get udp.1 3)
    if dstPort ≠ 53 ∨ udp.1.length ≤ 8 then pure none
    else do
      let payload ← sliceFrom udp.1 8
      pure (some (srcPort, payload.1))

/-- The buffer of `serve` after a read of `n` bytes. -/
structure Reading where
  pkt : List UInt8
  n : Nat
  full : pkt.length = 65535
  within : n ≤ 65535

inductive Received where
  | ignored
  | tcp (seg : Option Segment)
  | udp (query : Option (UInt16 × List UInt8))

/-- What `serve` does with a read. -/
def receive (r : Reading) : Except Panic Received :=
  if r.n < 20 then pure .ignored
  else do
    let version := (← get r.pkt 0) >>> 4
    if version ≠ 4 then pure .ignored
    else do
      let ihl := ((← get r.pkt 0) &&& 0x0f).toNat * 4
      let proto ← get r.pkt 9
      let srcIp ← ipFromBytes (← slice r.pkt 12 16).1
      let dstIp ← ipFromBytes (← slice r.pkt 16 20).1
      let packet ← slice r.pkt 0 r.n
      if proto = 6 then do
        let seg ← readSegment packet.1 ihl srcIp dstIp (packet.2.trans (Nat.le_of_eq r.full))
        pure (.tcp seg)
      else if proto = 17 then do
        let query ← readQuery packet.1 ihl
        pure (.udp query)
      else pure .ignored

/-- A turn of the task that carries the traffic, or a section of one of the other tasks. -/
inductive Turn where
  | read (reading : Reading) (written : Bool)
  | section_ (event : Event)

/-- Data is forwarded from an offset on, if the connection has a sender. -/
def forwardSlice (s : State) : Except Panic Unit :=
  match s.main with
  | .forward seg off (some _) => do
      let _ ← sliceFrom seg.payload off
      pure ()
  | _ => pure ()

/-- `serve` reads when `handle_tcp` has returned. -/
def readTurn (s : State) (reading : Reading) (written : Bool) : Except Panic (Option State) :=
  match s.main with
  | .idle => do
      match ← receive reading with
      | .tcp (some seg) => pure (step s (.packet seg written))
      | .tcp none => pure (some (s.returned 0))
      | _ => pure (some s)
  | _ => pure none

/-- Packets come in by reads only. -/
def sectionTurn (s : State) : Event → Except Panic (Option State)
  | .packet _ _ => pure none
  | .trySend => do
      forwardSlice s
      pure (step s .trySend)
  | event => pure (step s event)

def takeTurn (s : State) : Turn → Except Panic (Option State)
  | .read reading written => readTurn s reading written
  | .section_ event => sectionTurn s event

/-- The steps of `serve` that do not stop it. -/
def turns (s : State) (turn : Turn) (later : State) : Prop :=
  takeTurn s turn = .ok (some later)

namespace Reading

variable (r : Reading)

def isIpv4 : Prop := 20 ≤ r.n ∧ r.pkt.getD 0 0 >>> 4 = 4

def ihl : Nat := (r.pkt.getD 0 0 &&& 0x0f).toNat * 4

/-- The length that a TCP header says that it has. -/
def tcpHdrLen : Nat := (r.pkt.getD (r.ihl + 12) 0 >>> 4).toNat * 4

/-- A TCP segment of twenty bytes or more whose header is said to be longer than the segment. -/
def Overlong : Prop :=
  r.pkt.getD 9 0 = 6 ∧ r.ihl + 20 ≤ r.n ∧ r.n < r.ihl + r.tcpHdrLen

end Reading

section Reads

variable {packet : List UInt8} {ihl : Nat}

theorem tcpFlags_safe (buf : List UInt8) (ihl : Nat) : Safe (tcpFlags buf ihl) := by
  unfold tcpFlags
  split
  · exact safe_ok _
  · rw [safe_bind (get_of_lt 0 (by omega))]
    exact safe_ok _

theorem isRstFlag_safe (tcp : List UInt8) : Safe (isRstFlag tcp) := by
  unfold isRstFlag
  split
  · rw [safe_bind (get_of_lt 0 (by assumption))]
    exact safe_ok _
  · exact safe_ok _

theorem ipFromBytes_safe {b : List UInt8} (long : 4 ≤ b.length) : Safe (ipFromBytes b) := by
  unfold ipFromBytes
  rw [safe_bind (get_of_lt 0 (by omega)), safe_bind (get_of_lt 0 (by omega)),
    safe_bind (get_of_lt 0 (by omega)), safe_bind (get_of_lt 0 (by omega))]
  exact safe_ok _

/-- Past the guard of `handle_tcp` only the slice of the payload can be out of range. -/
theorem readSegment_safe_iff (srcIp dstIp : Ipv4Addr) (bounded : packet.length ≤ 65535) :
    Safe (readSegment packet ihl srcIp dstIp bounded) ↔
      packet.length < ihl + 20 ∨
        ihl + (packet.getD (ihl + 12) 0 >>> 4).toNat * 4 ≤ packet.length := by
  unfold readSegment
  split
  · rename_i short
    exact ⟨fun _ => .inl short, fun _ => safe_ok _⟩
  · rename_i long
    obtain ⟨tcp, taken, tail⟩ := sliceFrom_of_le packet ihl (by omega)
    have long20 : 20 ≤ tcp.1.length := by
      rw [tail, List.length_drop]
      omega
    have offset : tcp.1.getD 12 0 = packet.getD (ihl + 12) 0 := by
      rw [tail, List.getD_eq_getElem?_getD, List.getD_eq_getElem?_getD, List.getElem?_drop]
    have each (index : Nat) (low : index < 20) : get tcp.1 index = .ok (tcp.1.getD index 0) :=
      get_of_lt 0 (low.trans_le long20)
    obtain ⟨flags, flagged⟩ := tcpFlags_safe packet ihl
    obtain ⟨isRst, reset⟩ := isRstFlag_safe tcp.1
    rw [safe_bind taken, safe_bind (each 0 (by omega)), safe_bind (each 1 (by omega)),
      safe_bind (each 2 (by omega)), safe_bind (each 3 (by omega)), safe_bind (each 4 (by omega)),
      safe_bind (each 5 (by omega)), safe_bind (each 6 (by omega)), safe_bind (each 7 (by omega)),
      safe_bind (each 8 (by omega)), safe_bind (each 9 (by omega)), safe_bind (each 10 (by omega)),
      safe_bind (each 11 (by omega)), safe_bind (each 12 (by omega)), safe_bind flagged, offset]
    by_cases inside : ihl + (packet.getD (ihl + 12) 0 >>> 4).toNat * 4 ≤ packet.length
    · obtain ⟨payload, cut, _⟩ := slice_of_le tcp.1
        ((packet.getD (ihl + 12) 0 >>> 4).toNat * 4) tcp.1.length
        (by rw [tail, List.length_drop]; omega) le_rfl
      rw [safe_bind cut, safe_bind reset]
      exact ⟨fun _ => .inr inside, fun _ => safe_ok _⟩
    · have outside := slice_error tcp.1
        ((packet.getD (ihl + 12) 0 >>> 4).toNat * 4) tcp.1.length
        (.inl (by rw [tail, List.length_drop]; omega))
      constructor
      · intro safe
        exact absurd safe (not_safe_bind outside)
      · rintro (short | fits)
        · exact absurd short long
        · exact absurd fits inside

theorem readQuery_safe (packet : List UInt8) (ihl : Nat) : Safe (readQuery packet ihl) := by
  unfold readQuery
  split
  · exact safe_ok _
  · obtain ⟨udp, taken, tail⟩ := sliceFrom_of_le packet ihl (by omega)
    have long : 8 ≤ udp.1.length := by
      rw [tail, List.length_drop]
      omega
    have each (index : Nat) (low : index < 8) : get udp.1 index = .ok (udp.1.getD index 0) :=
      get_of_lt 0 (low.trans_le long)
    rw [safe_bind taken, safe_bind (each 0 (by omega)), safe_bind (each 1 (by omega)),
      safe_bind (each 2 (by omega)), safe_bind (each 3 (by omega))]
    dsimp only
    split
    · exact safe_ok _
    · obtain ⟨payload, cut, _⟩ := sliceFrom_of_le _ _ long
      rw [safe_bind cut]
      exact safe_ok _

/-- A read stops the task exactly if it is an IPv4 packet with an overlong TCP header. -/
theorem receive_safe_iff (r : Reading) : Safe (receive r) ↔ ¬(r.isIpv4 ∧ r.Overlong) := by
  unfold receive
  split
  · rename_i short
    refine ⟨fun _ both => ?_, fun _ => safe_ok _⟩
    have long := both.1.1
    omega
  · rename_i long
    have full := r.full
    have within := r.within
    have each (index : Nat) (low : index < 20) : get r.pkt index = .ok (r.pkt.getD index 0) :=
      get_of_lt 0 (by omega)
    rw [safe_bind (each 0 (by omega))]
    dsimp only
    split
    · rename_i other
      exact ⟨fun _ both => other both.1.2, fun _ => safe_ok _⟩
    · rename_i version
      have isIpv4 : r.isIpv4 := ⟨by omega, not_not.mp version⟩
      obtain ⟨src, srcTaken, srcPart⟩ := slice_of_le r.pkt 12 16
        (by omega) (by omega)
      obtain ⟨dst, dstTaken, dstPart⟩ := slice_of_le r.pkt 16 20
        (by omega) (by omega)
      obtain ⟨packet, taken, part⟩ := slice_of_le r.pkt 0 r.n
        (by omega) (by omega)
      obtain ⟨srcIp, srcRead⟩ := ipFromBytes_safe (b := src.1) (by
        rw [srcPart, List.length_drop, List.length_take]
        omega)
      obtain ⟨dstIp, dstRead⟩ := ipFromBytes_safe (b := dst.1) (by
        rw [dstPart, List.length_drop, List.length_take]
        omega)
      rw [safe_bind (each 0 (by omega)), safe_bind (each 9 (by omega)), safe_bind srcTaken,
        safe_bind srcRead, safe_bind dstTaken, safe_bind dstRead, safe_bind taken]
      have length : packet.1.length = r.n := by
        rw [part, List.drop_zero, List.length_take]
        omega
      split
      · rename_i tcp
        have offset (inside : r.ihl + 12 < r.n) :
            packet.1.getD (r.ihl + 12) 0 = r.pkt.getD (r.ihl + 12) 0 := by
          rw [part, List.drop_zero, List.getD_eq_getElem?_getD, List.getElem?_take_of_lt inside,
            ← List.getD_eq_getElem?_getD]
        refine (safe_map _).trans ((readSegment_safe_iff srcIp dstIp _).trans ?_)
        rw [length]
        change (r.n < r.ihl + 20 ∨
          r.ihl + (packet.1.getD (r.ihl + 12) 0 >>> 4).toNat * 4 ≤ r.n) ↔ _
        by_cases short : r.n < r.ihl + 20
        · constructor
          · rintro _ ⟨_, _, tall, _⟩
            omega
          · exact fun _ => .inl short
        · rw [offset (by omega)]
          constructor
          · rintro (less | fits) ⟨_, _, _, tooLong⟩
            · exact short less
            · exact absurd fits (Nat.not_le.mpr tooLong)
          · intro allowed
            right
            by_contra tooLong
            exact allowed ⟨isIpv4, tcp, by omega, by unfold Reading.tcpHdrLen; omega⟩
      · rename_i other
        have allowed : ¬(r.isIpv4 ∧ r.Overlong) := fun both => other both.2.1
        split
        · have safe := (safe_map Received.udp).mpr (readQuery_safe packet.1 r.ihl)
          exact ⟨fun _ => allowed, fun _ => safe⟩
        · exact ⟨fun _ => allowed, fun _ => safe_ok _⟩

end Reads

section Runs

theorem returned_zero {s : State} (idle : s.main = .idle) : s.returned 0 = s := by
  have total : s.txTotal + UInt64.ofNat 0 = s.txTotal := UInt64.add_zero s.txTotal
  unfold State.returned
  rw [total, ← idle]

/-- What `serve` does with the packets that it reads, the relay does with the segments in them. -/
theorem step_of_turns {s later : State} {turn : Turn} (taken : turns s turn later) :
    later = s ∨ ∃ event, step s event = some later := by
  cases turn with
  | read reading written =>
      change readTurn s reading written = .ok (some later) at taken
      unfold readTurn at taken
      split at taken
      · rename_i idle
        cases received : receive reading with
        | error panic =>
            rw [received] at taken
            cases taken
        | ok received_ =>
            rw [received] at taken
            cases received_ with
            | ignored =>
                cases taken
                exact .inl rfl
            | udp query =>
                cases taken
                exact .inl rfl
            | tcp seg =>
                cases seg with
                | none =>
                    cases taken
                    exact .inl (returned_zero idle)
                | some seg =>
                    exact .inr ⟨.packet seg written, Except.ok.inj taken⟩
      · cases taken
  | section_ event =>
      change sectionTurn s event = .ok (some later) at taken
      cases event with
      | packet seg written => cases taken
      | trySend =>
          simp only [sectionTurn] at taken
          cases forwarded : forwardSlice s with
          | error panic =>
              rw [forwarded] at taken
              cases taken
          | ok _ =>
              rw [forwarded] at taken
              exact .inr ⟨.trySend, Except.ok.inj taken⟩
      | _ => exact .inr ⟨_, Except.ok.inj taken⟩

theorem runs_of_turns {list : List Turn} {s : State} (run : Run turns State.init list s) :
    ∃ events, Runs State.init events s := by
  apply Run.projects id (fun _ => True) (fun _ _ _ _ _ => trivial) _ run trivial
  intro source turn target taken _
  exact step_of_turns taken

/-- The offset that data is forwarded from lies in the data. -/
theorem forwardSlice_safe {events : List Event} {s : State} (runs : Runs State.init events s) :
    Safe (forwardSlice s) := by
  have offset := (accounting_of_runs runs).2.offset
  unfold forwardSlice
  split
  · rename_i seg off gen at_
    obtain ⟨part, cut, _⟩ := sliceFrom_of_le _ _ (offset seg off _ at_).le
    rw [safe_bind cut]
    exact safe_ok _
  · exact safe_ok _

/-- A read of an IPv4 packet with an overlong TCP header, by a loop that is waiting for one. -/
def Overruns (s : State) (turn : Turn) : Prop :=
  s.main = .idle ∧ ∃ reading written,
    turn = .read reading written ∧ reading.isIpv4 ∧ reading.Overlong

/-- Whatever has been read and however the tasks are interleaved, the next turn is out of range
exactly if it reads a packet with an overlong TCP header. -/
theorem takeTurn_safe_iff {list : List Turn} {s : State} (run : Run turns State.init list s)
    (turn : Turn) : Safe (takeTurn s turn) ↔ ¬Overruns s turn := by
  obtain ⟨events, runs⟩ := runs_of_turns run
  cases turn with
  | read reading written =>
      change Safe (readTurn s reading written) ↔ _
      unfold readTurn
      split
      · rename_i idle
        have same : Overruns s (.read reading written) ↔ reading.isIpv4 ∧ reading.Overlong := by
          constructor
          · rintro ⟨_, _, _, same, tooLong⟩
            cases same
            exact tooLong
          · intro tooLong
            exact ⟨idle, reading, written, rfl, tooLong⟩
        rw [same, ← receive_safe_iff]
        cases receive reading with
        | error panic =>
            exact ⟨fun safe => absurd safe (not_safe_bind rfl),
              fun safe => absurd safe (Checked.not_safe_error panic)⟩
        | ok received =>
            refine ⟨fun _ => safe_ok _, fun _ => ?_⟩
            rw [safe_bind rfl]
            split <;> exact safe_ok _
      · rename_i busy
        exact ⟨fun _ tooLong => busy tooLong.1, fun _ => safe_ok _⟩
  | section_ event =>
      have allowed : ¬Overruns s (.section_ event) := by
        rintro ⟨_, _, _, other, _⟩
        cases other
      refine ⟨fun _ => allowed, fun _ => ?_⟩
      cases event with
      | trySend =>
          obtain ⟨value, forwarded⟩ := forwardSlice_safe runs
          exact (safe_bind forwarded).mpr (safe_ok _)
      | _ => exact safe_ok _

/-- A SYN of twenty bytes whose header says that it has sixty. -/
def longHeader : Reading :=
  { pkt := [0x45] ++ List.replicate 8 0 ++ [6] ++ List.replicate 22 0 ++ [0xf0, 2] ++
      List.replicate 65501 0
    n := 40
    full := by
      simp only [List.length_append, List.length_replicate, List.length_cons, List.length_nil]
    within := by decide }

theorem longHeader_isIpv4 : longHeader.isIpv4 :=
  ⟨by decide, by decide +kernel⟩

/-- It stops the task that carries all the traffic. -/
theorem longHeader_stops : longHeader.isIpv4 ∧
    ¬Safe (takeTurn State.init (.read longHeader true)) := by
  refine ⟨longHeader_isIpv4, ?_⟩
  have tooLong : longHeader.Overlong := ⟨by decide +kernel, by decide +kernel, by decide +kernel⟩
  intro safe
  cases received : receive longHeader with
  | ok received_ =>
      exact (receive_safe_iff longHeader).mp ⟨received_, received⟩ ⟨longHeader_isIpv4, tooLong⟩
  | error panic =>
      exact not_safe_bind received safe

/-- The same segment with a header of twenty bytes. -/
def shortHeader : Reading :=
  { longHeader with
    pkt := longHeader.pkt.set 32 0x50
    full := by rw [List.length_set, longHeader.full] }

theorem takeTurn_safe_shortHeader : Safe (takeTurn State.init (.read shortHeader true)) := by
  apply (takeTurn_safe_iff Run.nil (.read shortHeader true)).mpr
  rintro ⟨_, _, _, same, _, _, _, tooLong⟩
  cases same
  revert tooLong
  decide +kernel

end Runs

end MolidoVpn.Relay
