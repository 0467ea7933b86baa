import MolidoVpn.Lib.Numerals
import MolidoVpn.Lib.Ranking
import MolidoVpn.Shard.Pool

/-!
`ShardHealth`: what is remembered of every node, as a text under its key, and the ranking that is
made of it. A text that is too old says nothing.
-/

namespace MolidoVpn.Shard.Health

open Kotlin (Unicode toIntOrNull toLongOrNull intText int32 int32_eq)

def latencyCeilingMs : Int := 8000

def failureTolerance : Int := 2

def maxAgeMs : Int := 6 * 60 * 60 * 1000

def throughputBonusCeilingMbps : Int := 30

def throughputBonusPerMbps : Int := 50

structure Score where
  latencyMs : Int
  streak : Int
  failures : Int
  kbps : Int := 0
  deriving DecidableEq

def Score.unknown : Score := { latencyMs := 0, streak := 0, failures := 0 }

def Score.everWorked (score : Score) : Bool := 0 < score.latencyMs

def Score.throughputBonus (score : Score) : Int :=
  if score.kbps ≤ 0 then 0
  else min (score.kbps.tdiv 1000) throughputBonusCeilingMbps * throughputBonusPerMbps

def Score.rank (score : Score) : Int :=
  if failureTolerance ≤ score.failures then int32 (900000 + score.latencyMs)
  else if !score.everWorked then 500000
  else
    int32 (int32 (score.latencyMs - int32 (min score.streak 5 * 500)) - score.throughputBonus)

section Memory

variable (unicode : Unicode)

def intAt (parts : List (List Char)) (index : Nat) : Int :=
  (parts[index]?.bind (toIntOrNull unicode)).getD 0

def longAt (parts : List (List Char)) (index : Nat) : Int :=
  (parts[index]?.bind (toLongOrNull unicode)).getD 0

/-- Less than six hours have passed, and the clock has not gone back. -/
def recent (now at_ : Int) : Bool := 0 ≤ now - at_ && now - at_ < maxAgeMs

def expired (raw : List Char) (now : Int) : Bool := !recent now (longAt unicode (raw.splitOn ':') 4)

/-- The stored texts by the keys of the nodes. -/
abbrev Memory := List Char → Option (List Char)

def score (memory : Memory) (key : List Char) (now : Int) : Score :=
  match memory key with
  | none => Score.unknown
  | some raw =>
      if expired unicode raw now then Score.unknown
      else
        let parts := raw.splitOn ':'
        { latencyMs := intAt unicode parts 0
          streak := intAt unicode parts 1
          failures := intAt unicode parts 2
          kbps := intAt unicode parts 3 }

def entry (score : Score) (now : Int) : List Char :=
  List.intercalate [':'] [intText score.latencyMs, intText score.streak, intText score.failures,
    intText score.kbps, intText now]

/-- A value that is half as old as new. -/
def blend (previous value : Int) : Int :=
  if 0 < previous then (int32 (previous + int32 (value * 2))).tdiv 3 else value

def recordFailure (memory : Memory) (key : List Char) (now : Int) : Memory :=
  let previous := score unicode memory key now
  Function.update memory key <| some <|
    entry { previous with streak := 0, failures := int32 (previous.failures + 1) } now

def recordSuccess (memory : Memory) (key : List Char) (latencyMs : Int) (now : Int) : Memory :=
  if latencyCeilingMs < latencyMs then recordFailure unicode memory key now
  else
    let previous := score unicode memory key now
    Function.update memory key <| some <|
      entry { previous with
              latencyMs := blend previous.latencyMs latencyMs
              streak := int32 (previous.streak + 1)
              failures := 0 } now

def recordThroughput (memory : Memory) (key : List Char) (kbps : Int) (now : Int) : Memory :=
  if kbps ≤ 0 then memory
  else
    let previous := score unicode memory key now
    Function.update memory key <| some <|
      entry { previous with kbps := blend previous.kbps kbps } now

inductive Record where
  | success (latencyMs : Int)
  | failure
  | throughput (kbps : Int)

/-- A call of one of the three functions. -/
structure Call where
  time : Nat
  node : PoolNode
  record : Record

def apply (memory : Memory) (call : Call) : Memory :=
  match call.record with
  | .success latencyMs => recordSuccess unicode memory call.node.key latencyMs call.time
  | .failure => recordFailure unicode memory call.node.key call.time
  | .throughput kbps => recordThroughput unicode memory call.node.key kbps call.time

def memoryAfter (calls : List Call) : Memory := calls.foldl (apply unicode) fun _ => none

end Memory

section Rank

variable (unicode : Unicode) {Weight : Type*} [LinearOrder Weight] [Zero Weight]

def scanFailLimit : Int := 3

def scanRecentBonusMs : Int := 2000

/-- The rank with what the background scan has seen of the node. -/
def scanAdjusted (score : Score) (raw : Option (List Char)) (now : Int) : Int :=
  let parts := (raw.map (List.splitOn ':')).getD []
  let fails := intAt unicode parts 0
  let at_ := longAt unicode parts 1
  let ms := intAt unicode parts 2
  let r := score.rank
  if !recent now at_ then r
  else if scanFailLimit ≤ fails then max r 950000
  else if fails = 0 ∧ 0 < ms then int32 ((if 500000 ≤ r then ms else r) - scanRecentBonusMs)
  else r

def localRank (memory scan : Memory) (now : Int) (node : PoolNode) : Int :=
  scanAdjusted unicode (score unicode memory node.key now) (scan node.key) now

/-- What other users have reported of the node. -/
def remoteScore (remote : List (List Char × Weight)) (node : PoolNode) : Weight :=
  let identity := (node.v2ray.map fun server => server.uri).getD node.key
  (remote.lookup (V2ray.fingerprint identity)).getD 0

/-- By the local rank, and of one rank those with the better reports first. -/
def rank (memory scan : Memory) (remote : List (List Char × Weight)) (now : Int)
    (nodes : List PoolNode) : List PoolNode :=
  if remote.isEmpty then Ranking.rank (localRank unicode memory scan now) nodes
  else
    Ranking.rank (Ranking.both (localRank unicode memory scan now) (remoteScore remote)) nodes

end Rank

section Past

/-- The call leaves a text behind. -/
def Call.writes (call : Call) : Bool :=
  match call.record with
  | .throughput kbps => 0 < kbps
  | _ => true

/-- Whether the node has worked, where the call says anything about it. -/
def Call.outcome (call : Call) : Option Bool :=
  match call.record with
  | .success latencyMs => some (latencyMs ≤ latencyCeilingMs)
  | .failure => some false
  | .throughput _ => none

/-- The calls that have written for the key, newest first. -/
def past (calls : List Call) (key : List Char) : List Call :=
  (calls.filter fun call => call.node.key = key && call.writes).reverse

/-- The newest calls, each of them less than six hours before the one behind it. -/
def remembered : List Call → Nat → List Call
  | [], _ => []
  | call :: older, now =>
      if (now : Int) - call.time < maxAgeMs then call :: remembered older call.time else []

def outcomes (calls : List Call) : List Bool := calls.filterMap Call.outcome

def inARow (outcome : Bool) (calls : List Call) : Nat :=
  ((outcomes calls).takeWhile (· == outcome)).length

/-- A score says what the calls say: a latency where the node has worked, and how often in a row it
has worked or failed last. -/
structure Tells (score : Score) (calls : List Call) : Prop where
  low : 0 ≤ score.latencyMs
  high : score.latencyMs ≤ latencyCeilingMs
  worked : 0 < score.latencyMs ↔ true ∈ outcomes calls
  streak : score.streak = inARow true calls
  failures : score.failures = inARow false calls

variable {unicode : Unicode}

theorem tells_unknown : Tells Score.unknown [] :=
  ⟨by decide, by decide, by decide, rfl, rfl⟩

theorem inARow_le (outcome : Bool) (calls : List Call) : inARow outcome calls ≤ calls.length :=
  (List.takeWhile_sublist _).length_le.trans (List.length_filterMap_le _ _)

theorem splitOn_entry (score : Score) (now : Int) :
    (entry score now).splitOn ':' = [intText score.latencyMs, intText score.streak,
      intText score.failures, intText score.kbps, intText now] := by
  apply List.splitOn_intercalate
  · intro part member
    simp only [List.mem_cons, List.not_mem_nil, or_false] at member
    rcases member with rfl | rfl | rfl | rfl | rfl <;> exact Kotlin.intText_ne_colon _
  · exact List.cons_ne_nil _ _

theorem intAt_intText {parts : List (List Char)} {index : Nat} {value : Int}
    (there : parts[index]? = some (intText value)) (low : -2 ^ 31 ≤ value)
    (high : value < 2 ^ 31) : intAt unicode parts index = value := by
  rw [intAt, there, Option.bind_some, Kotlin.toIntOrNull_eq,
    Kotlin.signedOrNull_intText (by exact_mod_cast low) (by exact_mod_cast high)]
  rfl

theorem longAt_intText {parts : List (List Char)} {index : Nat} {time : Nat}
    (there : parts[index]? = some (intText time)) (high : time < 2 ^ 63) :
    longAt unicode parts index = time := by
  have within : (time : Int) < (2 ^ 63 : Nat) := by exact_mod_cast high
  rw [longAt, there, Option.bind_some, toLongOrNull,
    Kotlin.signedOrNull_intText (by omega) within]
  rfl

/-- The text under a key, after these calls that have written it, newest first. -/
def Kept (raw : Option (List Char)) (calls : List Call) : Prop :=
  match calls with
  | [] => raw = none
  | call :: older => ∃ score, raw = some (entry score call.time) ∧
      Tells score (call :: remembered older call.time)

theorem length_remembered_le (calls : List Call) (now : Nat) :
    (remembered calls now).length ≤ calls.length := by
  induction calls generalizing now with
  | nil => exact Nat.le_refl _
  | cons call older ih =>
      rw [remembered]
      split
      · exact Nat.succ_le_succ (ih call.time)
      · exact Nat.zero_le _

/-- A score is read as it was written, but for the rate. -/
theorem tells_score {memory : Memory} {key : List Char} {calls : List Call} {now : Nat}
    (kept : Kept (memory key) calls) (before : ∀ call ∈ calls, call.time ≤ now)
    (long : now < 2 ^ 63) (few : calls.length < 2 ^ 31) :
    Tells (score unicode memory key now) (remembered calls now) := by
  cases calls with
  | nil =>
      have none : memory key = none := kept
      rw [score, none]
      exact tells_unknown
  | cons call older =>
      obtain ⟨written, stored, tells⟩ := kept
      have order := before call List.mem_cons_self
      have time : longAt unicode ((entry written call.time).splitOn ':') 4 = call.time := by
        rw [splitOn_entry]
        exact longAt_intText rfl (Nat.lt_of_le_of_lt order long)
      have short := length_remembered_le older call.time
      rw [List.length_cons] at few
      have successes := inARow_le true (call :: remembered older call.time)
      have fails := inARow_le false (call :: remembered older call.time)
      rw [List.length_cons] at successes fails
      rw [score, stored, remembered]
      simp only [expired, time, recent]
      by_cases young : (now : Int) - call.time < maxAgeMs
      · have passed : (0 : Int) ≤ now - call.time := by omega
        rw [decide_eq_true passed, decide_eq_true young, if_pos young]
        have low := tells.low
        have high := tells.high
        unfold latencyCeilingMs at high
        have latency : intAt unicode ((entry written call.time).splitOn ':') 0 =
            written.latencyMs := by
          rw [splitOn_entry]
          exact intAt_intText rfl (by omega) (by omega)
        have streak : intAt unicode ((entry written call.time).splitOn ':') 1 =
            written.streak := by
          rw [splitOn_entry]
          exact intAt_intText rfl (by rw [tells.streak]; omega) (by rw [tells.streak]; omega)
        have failures : intAt unicode ((entry written call.time).splitOn ':') 2 =
            written.failures := by
          rw [splitOn_entry]
          exact intAt_intText rfl (by rw [tells.failures]; omega) (by rw [tells.failures]; omega)
        rw [if_neg (by decide), latency, streak, failures]
        exact ⟨tells.low, tells.high, tells.worked, tells.streak, tells.failures⟩
      · rw [decide_eq_false young, Bool.and_false, Bool.not_false, if_pos rfl, if_neg young]
        exact tells_unknown

theorem outcomes_cons (call : Call) (calls : List Call) :
    outcomes (call :: calls) = call.outcome.toList ++ outcomes calls := by
  unfold outcomes
  rw [List.filterMap_cons]
  cases call.outcome <;> rfl

theorem inARow_none {call : Call} (silent : call.outcome = none) (outcome : Bool)
    (calls : List Call) : inARow outcome (call :: calls) = inARow outcome calls := by
  rw [inARow, outcomes_cons, silent]
  rfl

theorem inARow_same {call : Call} {outcome : Bool} (told : call.outcome = some outcome)
    (calls : List Call) : inARow outcome (call :: calls) = inARow outcome calls + 1 := by
  rw [inARow, outcomes_cons, told, Option.toList_some, List.singleton_append,
    List.takeWhile_cons, if_pos (beq_self_eq_true outcome), List.length_cons]
  rfl

theorem inARow_other {call : Call} {outcome other : Bool} (told : call.outcome = some outcome)
    (differs : outcome ≠ other) (calls : List Call) : inARow other (call :: calls) = 0 := by
  rw [inARow, outcomes_cons, told, Option.toList_some, List.singleton_append,
    List.takeWhile_cons, if_neg (mt eq_of_beq differs)]
  rfl

variable {score : Score} {calls : List Call} {call : Call}

theorem Tells.failure (tells : Tells score calls) (few : calls.length < 2 ^ 31 - 1)
    (told : call.outcome = some false) :
    Tells { score with streak := 0, failures := int32 (score.failures + 1) }
      (call :: calls) := by
  have row := inARow_le false calls
  constructor
  · exact tells.low
  · exact tells.high
  · rw [tells.worked, outcomes_cons, told]
    simp
  · rw [inARow_other told Bool.false_ne_true]
    rfl
  · simp only [inARow_same told, tells.failures]
    rw [int32_eq] <;> push_cast <;> omega

/-- A value between two that are both measured and within the ceiling. -/
theorem blend_bounds {previous value : Int} (low : 0 ≤ previous)
    (high : previous ≤ latencyCeilingMs) (measured : 1 ≤ value)
    (within : value ≤ latencyCeilingMs) :
    0 < blend previous value ∧ blend previous value ≤ latencyCeilingMs := by
  unfold latencyCeilingMs at high within ⊢
  unfold blend
  split
  · rw [show int32 (value * 2) = value * 2 from int32_eq (by omega) (by omega),
      int32_eq (by omega) (by omega),
      Int.tdiv_eq_ediv_of_nonneg (by omega)]
    omega
  · omega

theorem Tells.success (tells : Tells score calls) (few : calls.length < 2 ^ 31 - 1)
    (told : call.outcome = some true) {latencyMs : Int} (measured : 1 ≤ latencyMs)
    (within : latencyMs ≤ latencyCeilingMs) :
    Tells { score with
            latencyMs := blend score.latencyMs latencyMs
            streak := int32 (score.streak + 1)
            failures := 0 } (call :: calls) := by
  have row := inARow_le true calls
  have bounds := blend_bounds tells.low tells.high measured within
  constructor
  · exact le_of_lt bounds.1
  · exact bounds.2
  · rw [outcomes_cons, told]
    exact iff_of_true bounds.1 (List.mem_append_left _ (List.mem_singleton_self _))
  · simp only [inARow_same told, tells.streak]
    rw [int32_eq] <;> push_cast <;> omega
  · rw [inARow_other told (Ne.symm Bool.false_ne_true)]
    rfl

theorem Tells.throughput (tells : Tells score calls) (silent : call.outcome = none)
    (kbps : Int) : Tells { score with kbps := kbps } (call :: calls) := by
  constructor
  · exact tells.low
  · exact tells.high
  · rw [outcomes_cons, silent]
    exact tells.worked
  · rw [inARow_none silent]
    exact tells.streak
  · rw [inARow_none silent]
    exact tells.failures

end Past

section Runs

variable {unicode : Unicode}

/-- Calls one after the other, with latencies of at least a millisecond, and not so many of one node
that a count runs over. -/
structure Regular (calls : List Call) : Prop where
  ordered : calls.Pairwise fun earlier later => earlier.time ≤ later.time
  long : ∀ call ∈ calls, call.time < 2 ^ 63
  measured : ∀ call ∈ calls, ∀ latencyMs, call.record = .success latencyMs → 1 ≤ latencyMs
  few : ∀ key, calls.countP (fun call => call.node.key = key) < 2 ^ 31

theorem Regular.of_append {calls : List Call} {call : Call}
    (regular : Regular (calls ++ [call])) : Regular calls where
  ordered := (List.pairwise_append.mp regular.ordered).1
  long := fun earlier there => regular.long earlier (List.mem_append_left _ there)
  measured := fun earlier there => regular.measured earlier (List.mem_append_left _ there)
  few := fun key => Nat.lt_of_le_of_lt
    (by rw [List.countP_append]; exact Nat.le_add_right _ _) (regular.few key)

theorem past_append (calls : List Call) (call : Call) (key : List Char) :
    past (calls ++ [call]) key =
      if call.node.key = key ∧ call.writes = true then call :: past calls key
      else past calls key := by
  unfold past
  rw [List.filter_append, List.filter_singleton]
  by_cases own : call.node.key = key ∧ call.writes = true
  · rw [if_pos own, decide_eq_true own.1, own.2, Bool.and_self, List.reverse_append]
    rfl
  · have silent : (decide (call.node.key = key) && call.writes) = false := by
      rw [Bool.eq_false_iff, ne_eq, Bool.and_eq_true, decide_eq_true_eq]
      exact own
    rw [if_neg own, silent, cond_false, List.append_nil]

theorem length_past_le (calls : List Call) (key : List Char) :
    (past calls key).length ≤ calls.countP fun call => call.node.key = key := by
  rw [past, List.length_reverse, ← List.countP_eq_length_filter]
  apply List.countP_mono_left
  intro call _ both
  exact (Bool.and_eq_true_iff.mp both).1

theorem mem_past {calls : List Call} {key : List Char} {call : Call} :
    call ∈ past calls key ↔ call ∈ calls ∧ call.node.key = key ∧ call.writes = true := by
  rw [past, List.mem_reverse, List.mem_filter, Bool.and_eq_true, decide_eq_true_eq]

theorem apply_silent {call : Call} (silent : call.writes = false) (memory : Memory) :
    apply unicode memory call = memory := by
  obtain ⟨time, node, record⟩ := call
  cases record with
  | success => cases silent
  | failure => cases silent
  | throughput kbps =>
      have none : kbps ≤ 0 := not_lt.mp (of_decide_eq_false silent)
      exact if_pos none

/-- A call writes under the key of its node, what its kind makes of the score before it. -/
theorem apply_other {call : Call} {key : List Char} (other : call.node.key ≠ key)
    (memory : Memory) : apply unicode memory call key = memory key := by
  obtain ⟨time, node, record⟩ := call
  cases record with
  | success latencyMs =>
      simp only [apply, recordSuccess]
      split
      · exact Function.update_of_ne (Ne.symm other) _ _
      · exact Function.update_of_ne (Ne.symm other) _ _
  | failure => exact Function.update_of_ne (Ne.symm other) _ _
  | throughput kbps =>
      simp only [apply, recordThroughput]
      split
      · rfl
      · exact Function.update_of_ne (Ne.symm other) _ _

theorem apply_kept {memory : Memory} {call : Call} {calls : List Call}
    (tells : Tells (score unicode memory call.node.key call.time) (remembered calls call.time))
    (few : calls.length < 2 ^ 31 - 1) (writes : call.writes = true)
    (measured : ∀ latencyMs, call.record = .success latencyMs → 1 ≤ latencyMs) :
    Kept (apply unicode memory call call.node.key) (call :: calls) := by
  have short := length_remembered_le calls call.time
  have fewer : (remembered calls call.time).length < 2 ^ 31 - 1 := by omega
  obtain ⟨time, node, record⟩ := call
  cases record with
  | success latencyMs =>
      have positive := measured latencyMs rfl
      simp only [apply, recordSuccess]
      split
      · rename_i slow
        have failed : (⟨time, node, .success latencyMs⟩ : Call).outcome = some false := by
          exact congrArg some (decide_eq_false (not_le.mpr slow))
        exact ⟨_, Function.update_self _ _ _, tells.failure fewer failed⟩
      · rename_i fast
        have worked : (⟨time, node, .success latencyMs⟩ : Call).outcome = some true := by
          exact congrArg some (decide_eq_true (not_lt.mp fast))
        exact ⟨_, Function.update_self _ _ _,
          tells.success fewer worked positive (not_lt.mp fast)⟩
  | failure => exact ⟨_, Function.update_self _ _ _, tells.failure fewer rfl⟩
  | throughput kbps =>
      have some : ¬ kbps ≤ 0 := not_le.mpr (of_decide_eq_true writes)
      simp only [apply, recordThroughput, if_neg some]
      exact ⟨_, Function.update_self _ _ _, tells.throughput rfl _⟩

theorem kept_memoryAfter {calls : List Call} (regular : Regular calls) (key : List Char) :
    Kept (memoryAfter unicode calls key) (past calls key) := by
  induction calls using List.reverseRecOn with
  | nil => rfl
  | append_singleton calls call ih =>
      have earlier := ih regular.of_append
      have step : memoryAfter unicode (calls ++ [call]) =
          apply unicode (memoryAfter unicode calls) call := List.foldl_append
      rw [step, past_append]
      split
      · rename_i own
        obtain ⟨rfl, writes⟩ := own
        have last : call ∈ calls ++ [call] := List.mem_append_right _ (List.mem_singleton_self _)
        have count := regular.few call.node.key
        rw [List.countP_append, List.countP_singleton, if_pos (decide_eq_true rfl)] at count
        have few : (past calls call.node.key).length < 2 ^ 31 - 1 := by
          have below := length_past_le calls call.node.key
          omega
        have before : ∀ other ∈ past calls call.node.key, other.time ≤ call.time :=
          fun other there => (List.pairwise_append.mp regular.ordered).2.2 other
            (mem_past.mp there).1 call (List.mem_singleton_self _)
        exact apply_kept (tells_score earlier before (regular.long call last) (by omega)) few writes
          (regular.measured call last)
      · rename_i other
        by_cases own : call.node.key = key
        · rw [apply_silent (Bool.eq_false_iff.mpr fun writes => other ⟨own, writes⟩)]
          exact earlier
        · rw [apply_other own]
          exact earlier

end Runs

section Tiers

variable {unicode : Unicode} {calls : List Call} {now : Nat} {node : PoolNode}

/-- Nothing has been written for the node in the last six hours. -/
def Untried (calls : List Call) (now : Nat) (node : PoolNode) : Prop :=
  ∀ call ∈ past calls node.key, maxAgeMs ≤ (now : Int) - call.time

/-- The node has worked in the last six hours, and has not failed twice since. -/
def Good (calls : List Call) (now : Nat) (node : PoolNode) : Prop :=
  (∃ call ∈ past calls node.key, call.outcome = some true ∧ (now : Int) - call.time < maxAgeMs) ∧
    inARow false (remembered (past calls node.key) now) < 2

/-- The node has failed twice in a row, with no six hours without a call since the first time. -/
def Bad (calls : List Call) (now : Nat) (node : PoolNode) : Prop :=
  2 ≤ inARow false (remembered (past calls node.key) now)

theorem past_sorted (regular : Regular calls) (key : List Char) :
    (past calls key).Pairwise fun newer older => older.time ≤ newer.time := by
  rw [past, List.pairwise_reverse]
  exact regular.ordered.filter _

theorem mem_remembered {sorted : List Call} {call : Call}
    (order : sorted.Pairwise fun newer older => older.time ≤ newer.time)
    (before : ∀ call ∈ sorted, call.time ≤ now) (member : call ∈ sorted)
    (young : (now : Int) - call.time < maxAgeMs) : call ∈ remembered sorted now := by
  induction sorted generalizing now with
  | nil => cases member
  | cons first older ih =>
      have below := (List.pairwise_cons.mp order).1
      have first_before := before first List.mem_cons_self
      rw [remembered]
      rcases List.mem_cons.mp member with rfl | there
      · rw [if_pos young]
        exact List.mem_cons_self
      · have later := below call there
        rw [if_pos (by omega)]
        exact List.mem_cons_of_mem _
          (ih (List.pairwise_cons.mp order).2 below there (by omega))

theorem remembered_untried (untried : Untried calls now node) :
    remembered (past calls node.key) now = [] := by
  unfold Untried at untried
  cases written : past calls node.key with
  | nil => rfl
  | cons first older =>
      rw [written] at untried
      exact if_neg (not_lt.mpr (untried first List.mem_cons_self))

theorem bonus_bounds (score : Score) :
    0 ≤ score.throughputBonus ∧ score.throughputBonus ≤ 1500 := by
  unfold Score.throughputBonus throughputBonusCeilingMbps throughputBonusPerMbps
  split
  · omega
  · rw [Int.tdiv_eq_ediv_of_nonneg (by omega)]
    omega

theorem rank_working {score : Score} (low : 0 < score.latencyMs)
    (high : score.latencyMs ≤ latencyCeilingMs) (streak : 0 ≤ score.streak)
    (failures : score.failures < 2) : score.rank ≤ 8000 := by
  have bonus := bonus_bounds score
  have tolerated : ¬ failureTolerance ≤ score.failures := not_le.mpr failures
  have worked : (!score.everWorked) = false := by
    rw [Score.everWorked, decide_eq_true low]
    rfl
  unfold latencyCeilingMs at high
  rw [Score.rank, if_neg tolerated, worked, if_neg Bool.false_ne_true,
    show int32 (min score.streak 5 * 500) = min score.streak 5 * 500 from
      int32_eq (by omega) (by omega),
    show int32 (score.latencyMs - min score.streak 5 * 500) =
        score.latencyMs - min score.streak 5 * 500 from int32_eq (by omega) (by omega),
    int32_eq (by omega) (by omega)]
  omega

theorem rank_failing {score : Score} (low : 0 ≤ score.latencyMs)
    (high : score.latencyMs ≤ latencyCeilingMs) (failures : 2 ≤ score.failures) :
    900000 ≤ score.rank := by
  unfold latencyCeilingMs at high
  rw [Score.rank, if_pos (show failureTolerance ≤ score.failures from failures),
    int32_eq (by omega) (by omega)]
  omega

/-- Without anything from a scan the rank is that of the score. -/
theorem scanAdjusted_none (score : Score) (now : Int) :
    scanAdjusted unicode score none now = score.rank := by
  unfold scanAdjusted
  dsimp only [Option.map_none, Option.getD_none]
  have fails : intAt unicode [] 0 = 0 := rfl
  have ms : intAt unicode [] 2 = 0 := rfl
  rw [fails, ms, if_neg (show ¬ scanFailLimit ≤ 0 by decide),
    if_neg (show ¬ ((0 : Int) = 0 ∧ (0 : Int) < 0) by decide), ite_self]

theorem rank_untried (untried : Untried calls now node) {score : Score}
    (tells : Tells score (remembered (past calls node.key) now)) : score.rank = 500000 := by
  have worked := tells.worked
  have failures := tells.failures
  rw [remembered_untried untried] at worked failures
  have never : (!score.everWorked) = true := by
    rw [Score.everWorked, decide_eq_false (mt worked.mp List.not_mem_nil)]
    rfl
  have tolerated : ¬ failureTolerance ≤ score.failures := by
    rw [failures]
    decide
  rw [Score.rank, if_neg tolerated, if_pos never]

theorem rank_good (regular : Regular calls) (before : ∀ call ∈ calls, call.time ≤ now)
    (good : Good calls now node) {score : Score}
    (tells : Tells score (remembered (past calls node.key) now)) : score.rank ≤ 8000 := by
  obtain ⟨⟨call, there, worked, young⟩, few⟩ := good
  have known : call ∈ remembered (past calls node.key) now :=
    mem_remembered (past_sorted regular node.key)
      (fun other member => before other (mem_past.mp member).1) there young
  apply rank_working
  · exact tells.worked.mpr (List.mem_filterMap.mpr ⟨call, known, worked⟩)
  · exact tells.high
  · rw [tells.streak]
    exact Int.natCast_nonneg _
  · rw [tells.failures]
    exact_mod_cast few

theorem rank_bad (bad : Bad calls now node) {score : Score}
    (tells : Tells score (remembered (past calls node.key) now)) : 900000 ≤ score.rank := by
  apply rank_failing tells.low tells.high
  rw [tells.failures]
  exact_mod_cast bad

end Tiers

section Ranked

variable {unicode : Unicode} {Weight : Type*} [LinearOrder Weight] [Zero Weight]
  {calls : List Call} {now : Nat}

/-- What is remembered after the calls, where no scan has seen anything. -/
def rankAfter (unicode : Unicode) (calls : List Call) (remote : List (List Char × Weight))
    (now : Nat) (nodes : List PoolNode) : List PoolNode :=
  rank unicode (memoryAfter unicode calls) (fun _ => none) remote now nodes

def localRankAfter (unicode : Unicode) (calls : List Call) (now : Nat) (node : PoolNode) : Int :=
  localRank unicode (memoryAfter unicode calls) (fun _ => none) now node

/-- Good nodes before untried ones, these before bad ones; of one local rank those with the better
reports first, and with equal reports as they came. -/
structure Ranked (unicode : Unicode) (calls : List Call) (remote : List (List Char × Weight))
    (now : Nat) (nodes out : List PoolNode) : Prop where
  perm : out.Perm nodes
  good_first : out.Pairwise fun earlier later =>
    Untried calls now earlier ∨ Bad calls now earlier → ¬ Good calls now later
  bad_last : out.Pairwise fun earlier later =>
    Bad calls now earlier → ¬ Untried calls now later
  reports : out.Pairwise fun earlier later =>
    localRankAfter unicode calls now earlier = localRankAfter unicode calls now later →
      remoteScore remote later ≤ remoteScore remote earlier
  stable : ∀ (at_ : Int) (weight : Weight),
    out.filter (fun node => localRankAfter unicode calls now node = at_ ∧
        remoteScore remote node = weight) =
      nodes.filter fun node => localRankAfter unicode calls now node = at_ ∧
        remoteScore remote node = weight

theorem tells_after (regular : Regular calls) (before : ∀ call ∈ calls, call.time ≤ now)
    (long : now < 2 ^ 63) (key : List Char) :
    Tells (score unicode (memoryAfter unicode calls) key now)
      (remembered (past calls key) now) :=
  tells_score (kept_memoryAfter regular key)
    (fun call there => before call (mem_past.mp there).1) long
    (Nat.lt_of_le_of_lt (length_past_le calls key) (regular.few key))

theorem localRankAfter_eq (calls : List Call) (now : Nat) (node : PoolNode) :
    localRankAfter unicode calls now node =
      (score unicode (memoryAfter unicode calls) node.key now).rank := by
  rw [localRankAfter, localRank, scanAdjusted_none]

/-- The one key that both branches of `rank` sort by. -/
theorem rankAfter_eq (remote : List (List Char × Weight)) (nodes : List PoolNode) :
    rankAfter unicode calls remote now nodes =
      Ranking.rank
        (Ranking.both (localRankAfter unicode calls now) (remoteScore remote)) nodes := by
  unfold rankAfter rank
  split
  · rename_i empty
    rw [List.isEmpty_iff.mp empty]
    exact (Ranking.rank_both_const _ _ (fun _ => rfl) nodes).symm
  · rfl

theorem ranked_rankAfter (regular : Regular calls) (before : ∀ call ∈ calls, call.time ≤ now)
    (long : now < 2 ^ 63) (remote : List (List Char × Weight)) (nodes : List PoolNode) :
    Ranked unicode calls remote now nodes (rankAfter unicode calls remote now nodes) := by
  have tells (node : PoolNode) : Tells (score unicode (memoryAfter unicode calls) node.key now)
      (remembered (past calls node.key) now) := tells_after regular before long node.key
  rw [rankAfter_eq]
  have ranks := Ranking.first_sorted (localRankAfter unicode calls now) (remoteScore remote) nodes
  constructor
  · exact Ranking.rank_perm _ _
  · apply ranks.imp
    intro earlier later below other good
    rw [localRankAfter_eq, localRankAfter_eq] at below
    have fast := rank_good regular before good (tells later)
    rcases other with untried | bad
    · have middle := rank_untried untried (tells earlier)
      omega
    · have slow := rank_bad bad (tells earlier)
      omega
  · apply ranks.imp
    intro earlier later below bad untried
    rw [localRankAfter_eq, localRankAfter_eq] at below
    have slow := rank_bad bad (tells earlier)
    have middle := rank_untried untried (tells later)
    omega
  · exact Ranking.second_sorted _ _ nodes
  · exact fun at_ weight => Ranking.filter_rank_both _ _ at_ weight nodes

/-- Every stored latency is within the ceiling. -/
theorem latency_stored (regular : Regular calls) {key raw : List Char}
    (stored : memoryAfter unicode calls key = some raw) :
    0 ≤ intAt unicode (raw.splitOn ':') 0 ∧
      intAt unicode (raw.splitOn ':') 0 ≤ latencyCeilingMs := by
  have kept : Kept (memoryAfter unicode calls key) (past calls key) :=
    kept_memoryAfter regular key
  rw [stored] at kept
  cases written : past calls key with
  | nil =>
      rw [written] at kept
      cases kept
  | cons call older =>
      rw [written] at kept
      obtain ⟨score, text, tells⟩ := kept
      cases text
      have low := tells.low
      have high := tells.high
      unfold latencyCeilingMs at high ⊢
      rw [splitOn_entry, intAt_intText rfl (by omega) (by omega)]
      exact ⟨low, high⟩

/-- What the memory holds after the calls, and the ranking that is made of it. -/
theorem latency_and_rank (regular : Regular calls) (before : ∀ call ∈ calls, call.time ≤ now)
    (long : now < 2 ^ 63) (remote : List (List Char × Weight)) (nodes : List PoolNode) :
    (∀ key raw, memoryAfter unicode calls key = some raw →
      0 ≤ intAt unicode (raw.splitOn ':') 0 ∧
        intAt unicode (raw.splitOn ':') 0 ≤ latencyCeilingMs) ∧
      Ranked unicode calls remote now nodes (rankAfter unicode calls remote now nodes) :=
  ⟨fun _ _ stored => latency_stored regular stored,
    ranked_rankAfter regular before long remote nodes⟩

private def plain (address : String) : PoolNode where
  protocol := "vless".toList
  credential := "6d2f0f0e-6a52-4c1b-9f0d-3a1b7c5e9d10".toList
  address := address.toList
  port := 443
  network := "ws".toList
  security := "tls".toList
  path := "/ws".toList
  host := "cdn.example".toList
  serverName := "cdn.example".toList
  fingerprint := []
  cipherSuites := []
  finalMask := []
  alpn := []
  label := []

private def few : List Call :=
  [⟨1000, plain "104.16.0.1", .failure⟩, ⟨2000, plain "104.16.0.2", .success 900⟩,
    ⟨3000, plain "104.16.0.1", .failure⟩, ⟨3000, plain "104.16.0.2", .throughput 25000⟩]

theorem latency_and_rank_few :
    (∀ key raw, memoryAfter Unicode.ascii few key = some raw →
      0 ≤ intAt Unicode.ascii (raw.splitOn ':') 0 ∧
        intAt Unicode.ascii (raw.splitOn ':') 0 ≤ latencyCeilingMs) ∧
      Ranked Unicode.ascii few ([] : List (List Char × Nat)) 4000
        [plain "104.16.0.1", plain "104.16.0.2", plain "104.16.0.3"]
        (rankAfter Unicode.ascii few ([] : List (List Char × Nat)) 4000
          [plain "104.16.0.1", plain "104.16.0.2", plain "104.16.0.3"]) := by
  have short (key : List Char) : few.countP (fun call => call.node.key = key) < 2 ^ 31 :=
    Nat.lt_of_le_of_lt List.countP_le_length (by decide)
  have regular : Regular few := by
    constructor
    · decide
    · decide
    · intro call there latencyMs success
      simp only [few, List.mem_cons, List.not_mem_nil, or_false] at there
      rcases there with rfl | rfl | rfl | rfl <;> cases success
      decide
    · exact short
  exact latency_and_rank regular (by decide) (by decide) [] _

/-- Two nodes that nothing is known of, the second with a report: it comes first. And two failures
seven hours apart leave the node where one that was never tried stands. -/
theorem rank_not_as_told :
    (localRankAfter Unicode.ascii [] 0 (plain "104.16.0.1") =
        localRankAfter Unicode.ascii [] 0 (plain "104.16.0.2") ∧
      (rankAfter Unicode.ascii [] [(V2ray.fingerprint (plain "104.16.0.2").key, (1 : Nat))] 0
        [plain "104.16.0.1", plain "104.16.0.2"]).map (fun node => node.address) =
          ["104.16.0.2".toList, "104.16.0.1".toList]) ∧
      (rankAfter Unicode.ascii
        [⟨0, plain "104.16.0.1", .failure⟩, ⟨25200000, plain "104.16.0.1", .failure⟩]
        ([] : List (List Char × Nat)) 25200000
        [plain "104.16.0.1", plain "104.16.0.2"]).map (fun node => node.address) =
          ["104.16.0.1".toList, "104.16.0.2".toList] := by
  decide +kernel

end Ranked

end MolidoVpn.Shard.Health
