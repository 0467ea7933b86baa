import Mathlib.Data.List.Basic

/-!
`ShardManager.start` in SHARD mode, on what each of its attempts comes to and without a
`stop` from outside: the race in slices, the ladder of Smart Split profiles, and the tunnel
that sends everything through the node. The internal clean-up of a failed attempt is the
user's `stop`, and it latches the flag that the later checkpoints read.
-/

namespace MolidoVpn.Shard

universe u v

/-- Why `launch` gives no process. -/
inductive LaunchError where
  | binaryMissing
  | couldNotStart (message : List Char)
  deriving DecidableEq

/-- Why a race has no winner, when nobody stops it. -/
inductive RaceError where
  | launch (error : LaunchError)
  | probeListener
  | noNodeAnswered
  | raceFailed (message : List Char)
  deriving DecidableEq

/-- What `lastError` can be told. -/
inductive StartError where
  | blank
  | noNodes
  | connectCancelled
  | launch (error : LaunchError)
  | race (error : RaceError)
  | tunnelListener
  deriving DecidableEq

def LaunchError.text : LaunchError → List Char
  | .binaryMissing => "xray binary missing".toList
  | .couldNotStart message => "could not start xray: ".toList ++ message

def RaceError.text : RaceError → List Char
  | .launch error => error.text
  | .probeListener => "probe listener never came up".toList
  | .noNodeAnswered => "no node answered".toList
  | .raceFailed message => "race failed: ".toList ++ message

def StartError.text : StartError → List Char
  | .blank => []
  | .noNodes => "no nodes available".toList
  | .connectCancelled => "connect cancelled".toList
  | .launch error => error.text
  | .race error => error.text
  | .tunnelListener => "tunnel listener never came up".toList

def raceWidth : Nat := 12

def maxRaceSlices : Nat := 3

/-- What an attempt to bring one config up comes to; a launch that fails says why. -/
structure Trial where
  launch : Except LaunchError Unit
  listens : Bool
  carries : Bool

def Trial.launches (trial : Trial) : Bool := trial.launch.isOk

section Start

variable {Node : Type u} {Profile : Type v}

/-- What the start meets: the ranked pool, how the race over a slice ends, the settings and
measurements of Smart Split, and how the attempts with its profiles and without one end. -/
structure Outcomes (Node : Type u) (Profile : Type v) where
  ranked : List Node
  race : List Node → Except RaceError Node
  enabled : Bool
  measuredUnavailable : Bool
  geoAssets : Bool
  cachedProfile : Option (Profile × Trial)
  profiles : List (Profile × Trial)
  nodeOnly : Trial

/-- What is stored for the network is a profile that carried a blocked site, or that none does. -/
structure State (Node : Type u) (Profile : Type v) where
  stopRequestedDuringStart : Bool
  running : Bool
  activeNode : Option Node
  lastError : StartError
  measured : Option (Option Profile)
  /-- the configs that were launched or failed to launch, oldest first; `none` is node-only -/
  attempts : List (Option Profile)

namespace State

def fail (state : State Node Profile) (error : StartError) : State Node Profile :=
  { state with lastError := error }

/-- The part of `stop` that the start itself can see. -/
def stop (state : State Node Profile) : State Node Profile :=
  { state with stopRequestedDuringStart := true }

/-- The flag of an earlier `stop` is not for this start. -/
def begin (state : State Node Profile) : State Node Profile :=
  { state with stopRequestedDuringStart := false, lastError := .blank, attempts := [] }

def killProcess (state : State Node Profile) : State Node Profile :=
  { state with running := false, activeNode := none }

def attempt (state : State Node Profile) (config : Option Profile) : State Node Profile :=
  { state with attempts := state.attempts ++ [config] }

def launch (state : State Node Profile) (config : Option Profile) (trial : Trial) :
    Bool × State Node Profile :=
  match trial.launch with
  | .ok _ => (true, state.attempt config)
  | .error error => (false, (state.attempt config).fail (.launch error))

def remember (state : State Node Profile) (profile : Profile) : State Node Profile :=
  { state with measured := some (some profile) }

def recordNoProfile (state : State Node Profile) : State Node Profile :=
  { state with measured := some none }

def up (state : State Node Profile) (winner : Node) : State Node Profile :=
  { state with running := true, activeNode := some winner }

end State

/-- A slice of the ranked pool; it is empty from where the pool ends on. -/
def Outcomes.slice (outcomes : Outcomes Node Profile) (index : Nat) : List Node :=
  (outcomes.ranked.drop (index * raceWidth)).take raceWidth

/-- The races over the slices of the pool, from one of them on. -/
def raceSlices (outcomes : Outcomes Node Profile) (slice : Nat) :
    Nat → State Node Profile → Option Node × State Node Profile
  | 0, state => (none, state)
  | remaining + 1, state =>
      if state.stopRequestedDuringStart then (none, state.fail .connectCancelled)
      else if (outcomes.slice slice).isEmpty then (none, state)
      else
        match outcomes.race (outcomes.slice slice) with
        | .ok winner => (some winner, state.killProcess)
        | .error (.launch error) =>
            raceSlices outcomes (slice + 1) remaining (state.fail (.launch error))
        | .error error =>
            raceSlices outcomes (slice + 1) remaining (state.fail (.race error)).killProcess

/-- The ladder of `startSmartSplit`; a cached profile is trusted without a probe. -/
def tryProfiles (cached : Bool) (winner : Node) :
    List (Profile × Trial) → State Node Profile → Bool × State Node Profile
  | [], state => (false, state.recordNoProfile)
  | (profile, trial) :: rest, state =>
      if state.stopRequestedDuringStart then (false, state)
      else
        match state.launch (some profile) trial with
        | (false, state) => tryProfiles cached winner rest state
        | (true, state) =>
            if !trial.listens then tryProfiles cached winner rest state.stop
            else if cached || trial.carries then
              (true, (if cached then state else state.remember profile).up winner)
            else tryProfiles cached winner rest state.stop

/-- The profiles that a start has to try. -/
def Outcomes.candidates (outcomes : Outcomes Node Profile) : List (Profile × Trial) :=
  match outcomes.cachedProfile with
  | some cached => [cached]
  | none => outcomes.profiles

def startSmartSplit (outcomes : Outcomes Node Profile) (winner : Node)
    (state : State Node Profile) : Bool × State Node Profile :=
  if !outcomes.enabled then (false, state)
  else if outcomes.measuredUnavailable then (false, state)
  else if !outcomes.geoAssets then (false, state)
  else if outcomes.candidates.isEmpty then (false, state)
  else tryProfiles outcomes.cachedProfile.isSome winner outcomes.candidates state

/-- From the last checkpoint on. -/
def startNodeOnly (outcomes : Outcomes Node Profile) (winner : Node)
    (state : State Node Profile) : Bool × State Node Profile :=
  if state.stopRequestedDuringStart then (false, state.fail .connectCancelled)
  else
    match state.launch none outcomes.nodeOnly with
    | (false, state) => (false, state)
    | (true, state) =>
        if outcomes.nodeOnly.listens then (true, state.up winner)
        else (false, (state.fail .tunnelListener).stop)

def start (outcomes : Outcomes Node Profile) (state : State Node Profile) :
    Bool × State Node Profile :=
  if outcomes.ranked.isEmpty then (false, state.begin.fail .noNodes)
  else
    match raceSlices outcomes 0 maxRaceSlices state.begin with
    | (none, state) => (false, state)
    | (some winner, state) =>
        if state.stopRequestedDuringStart then (false, state.fail .connectCancelled)
        else
          match startSmartSplit outcomes winner state with
          | (true, state) => (true, state)
          | (false, state) => startNodeOnly outcomes winner state

/-- The first winner of the slices from one of them on. -/
def Outcomes.winnerFrom (outcomes : Outcomes Node Profile) (slice : Nat) : Nat → Option Node
  | 0 => none
  | remaining + 1 =>
      if (outcomes.slice slice).isEmpty then none
      else
        match outcomes.race (outcomes.slice slice) with
        | .ok winner => some winner
        | .error _ => outcomes.winnerFrom (slice + 1) remaining

def Outcomes.winner (outcomes : Outcomes Node Profile) : Option Node :=
  outcomes.winnerFrom 0 maxRaceSlices

/-- A cached profile works as soon as its listener is up. -/
def Trial.works (cached : Bool) (trial : Trial) : Bool :=
  trial.launches && trial.listens && (cached || trial.carries)

def Outcomes.works (outcomes : Outcomes Node Profile) (entry : Profile × Trial) : Bool :=
  entry.2.works outcomes.cachedProfile.isSome

/-- The profiles that Smart Split stands for on this start: none, if it is off or not possible. -/
def Outcomes.ladder (outcomes : Outcomes Node Profile) : List (Profile × Trial) :=
  if outcomes.winner.isSome && outcomes.enabled && !outcomes.measuredUnavailable &&
      outcomes.geoAssets then
    outcomes.candidates
  else []

/-- Up to the first that satisfies the predicate, and with it. -/
def upTo {α : Type v} (found : α → Bool) : List α → List α
  | [] => []
  | item :: rest => if found item then [item] else item :: upTo found rest

/-- The profiles whose turn comes when each that fails hands over to the next. -/
def Outcomes.tried (outcomes : Outcomes Node Profile) : List (Profile × Trial) :=
  upTo outcomes.works outcomes.ladder

/-- Each profile that fails hands over to the next, the last to the node-only tunnel, and that
no profile works is recorded. -/
structure HandsOver (outcomes : Outcomes Node Profile) (finish : State Node Profile) : Prop where
  attempts : finish.attempts = outcomes.tried.map (fun entry => some entry.1) ++
    if outcomes.winner.isSome && !outcomes.ladder.any outcomes.works then [none] else []
  recorded : outcomes.ladder ≠ [] → outcomes.ladder.any outcomes.works = false →
    finish.measured = some none
  notCancelled : finish.lastError.text ≠ "connect cancelled".toList

private theorem launch_text_ne (error : LaunchError) :
    (StartError.launch error).text ≠ "connect cancelled".toList := by
  cases error with
  | binaryMissing => decide
  | couldNotStart message =>
      intro same
      have third := congrArg (fun text => text[2]?) same
      cases third

private theorem raceFailed_text_ne (message : List Char) :
    (StartError.race (.raceFailed message)).text ≠ "connect cancelled".toList := by
  intro same
  have first := congrArg (fun text => text[0]?) same
  cases first

/-- Nothing has asked this start to stop so far. -/
structure Clean (state : State Node Profile) : Prop where
  notLatched : state.stopRequestedDuringStart = false
  notCancelled : state.lastError.text ≠ "connect cancelled".toList

theorem Clean.fail {state : State Node Profile} (clean : Clean state) {error : StartError}
    (other : error.text ≠ "connect cancelled".toList) : Clean (state.fail error) where
  notLatched := clean.notLatched
  notCancelled := other

theorem Clean.attempt {state : State Node Profile} (clean : Clean state)
    {config : Option Profile} : Clean (state.attempt config) where
  notLatched := clean.notLatched
  notCancelled := clean.notCancelled

theorem clean_begin (state : State Node Profile) : Clean state.begin where
  notLatched := rfl
  notCancelled := by
    change StartError.blank.text ≠ _
    decide

theorem Clean.killProcess {state : State Node Profile} (clean : Clean state) :
    Clean state.killProcess where
  notLatched := clean.notLatched
  notCancelled := clean.notCancelled

/-- The races of a start that nobody stops, and what they leave alone. -/
theorem raceSlices_of_clean (outcomes : Outcomes Node Profile) (remaining slice : Nat)
    (state : State Node Profile) (clean : Clean state) :
    ∃ after, raceSlices outcomes slice remaining state =
        (outcomes.winnerFrom slice remaining, after) ∧
      Clean after ∧ after.attempts = state.attempts := by
  induction remaining generalizing slice state with
  | zero => exact ⟨state, rfl, clean, rfl⟩
  | succ remaining ih =>
      unfold raceSlices Outcomes.winnerFrom
      rw [if_neg (Bool.eq_false_iff.mp clean.notLatched)]
      by_cases empty : (outcomes.slice slice).isEmpty = true
      · rw [if_pos empty, if_pos empty]
        exact ⟨state, rfl, clean, rfl⟩
      · rw [if_neg empty, if_neg empty]
        cases outcomes.race (outcomes.slice slice) with
        | ok winner => exact ⟨state.killProcess, rfl, clean.killProcess, rfl⟩
        | error error =>
            cases error with
            | launch error => exact ih _ _ (clean.fail (launch_text_ne error))
            | probeListener => exact ih _ _ (clean.fail (by decide)).killProcess
            | noNodeAnswered => exact ih _ _ (clean.fail (by decide)).killProcess
            | raceFailed message =>
                exact ih _ _ (clean.fail (raceFailed_text_ne message)).killProcess

theorem trial_eq_of_works {cached : Bool} {trial : Trial} (works : trial.works cached = true) :
    trial.launches = true ∧ trial.listens = true ∧ (cached || trial.carries) = true := by
  unfold Trial.works at works
  rw [Bool.and_eq_true, Bool.and_eq_true] at works
  exact ⟨works.1.1, works.1.2, works.2⟩

/-- A profile that works ends the ladder. -/
theorem tryProfiles_works {cached : Bool} (winner : Node) (profile : Profile) {trial : Trial}
    (rest : List (Profile × Trial)) {state : State Node Profile} (clean : Clean state)
    (works : trial.works cached = true) :
    ∃ after, tryProfiles cached winner ((profile, trial) :: rest) state = (true, after) ∧
      Clean after ∧ after.attempts = state.attempts ++ [some profile] := by
  obtain ⟨launch, listens, carries⟩ := trial
  obtain ⟨launched, rfl, carried⟩ := trial_eq_of_works works
  unfold tryProfiles State.launch
  rw [if_neg (Bool.eq_false_iff.mp clean.notLatched)]
  cases launch with
  | error error => cases launched
  | ok _ =>
      simp only [Bool.not_true, Bool.false_eq_true, if_false]
      rw [if_pos carried]
      refine ⟨_, rfl, ?_⟩
      cases cached <;> exact ⟨⟨clean.notLatched, clean.notCancelled⟩, rfl⟩

/-- A profile that cannot be launched hands over to the next. -/
theorem tryProfiles_notLaunched (cached : Bool) (winner : Node) (profile : Profile)
    {trial : Trial} (rest : List (Profile × Trial)) {state : State Node Profile}
    (clean : Clean state) (notLaunched : trial.launches = false) :
    ∃ after, tryProfiles cached winner ((profile, trial) :: rest) state =
        tryProfiles cached winner rest after ∧
      Clean after ∧ after.attempts = state.attempts ++ [some profile] := by
  obtain ⟨launch, listens, carries⟩ := trial
  rw [tryProfiles, if_neg (Bool.eq_false_iff.mp clean.notLatched)]
  cases launch with
  | ok _ => cases notLaunched
  | error error =>
      refine ⟨(state.attempt (some profile)).fail (.launch error), rfl, ?_, rfl⟩
      exact clean.attempt.fail (launch_text_ne error)

/-- A profile that is launched and given up latches the flag of the user's `stop`. -/
theorem tryProfiles_givenUp {cached : Bool} (winner : Node) (profile : Profile)
    {trial : Trial} (rest : List (Profile × Trial)) {state : State Node Profile}
    (clean : Clean state) (launched : trial.launches = true)
    (fails : trial.works cached = false) :
    tryProfiles cached winner ((profile, trial) :: rest) state =
      tryProfiles cached winner rest (state.attempt (some profile)).stop := by
  obtain ⟨launch, listens, carries⟩ := trial
  rw [tryProfiles, if_neg (Bool.eq_false_iff.mp clean.notLatched)]
  cases launch with
  | error error => cases launched
  | ok _ =>
      cases listens with
      | false => rfl
      | true =>
          have uncarried : (cached || carries) = false := fails
          simp only [State.launch, Bool.not_true, Bool.false_eq_true, if_false, uncarried]

/-- With the flag latched no profile comes up, and the flag stays. -/
theorem tryProfiles_latched (cached : Bool) (winner : Node)
    (entries : List (Profile × Trial)) (state : State Node Profile)
    (latched : state.stopRequestedDuringStart = true) :
    ∃ after, tryProfiles cached winner entries state = (false, after) ∧
      after.stopRequestedDuringStart = true := by
  cases entries with
  | nil => exact ⟨state.recordNoProfile, rfl, latched⟩
  | cons entry rest =>
      rw [tryProfiles, if_pos latched]
      exact ⟨state, rfl, latched⟩

/-- The ladder when no profile whose turn comes is given up after its launch. -/
theorem tryProfiles_of_neverStops (cached : Bool) (winner : Node)
    (entries : List (Profile × Trial)) (state : State Node Profile) (clean : Clean state)
    (never : ∀ entry ∈ upTo (fun entry : Profile × Trial => entry.2.works cached) entries,
      entry.2.launches = true → entry.2.works cached = true) :
    ∃ after, tryProfiles cached winner entries state =
        (entries.any fun entry => entry.2.works cached, after) ∧
      Clean after ∧
      after.attempts = state.attempts ++
        (upTo (fun entry : Profile × Trial => entry.2.works cached) entries).map
          (fun entry => some entry.1) ∧
      ((entries.any fun entry => entry.2.works cached) = false → after.measured = some none) := by
  induction entries generalizing state with
  | nil =>
      refine ⟨state.recordNoProfile, rfl, ⟨clean.notLatched, clean.notCancelled⟩, ?_, ?_⟩
      · exact (List.append_nil _).symm
      · intro _
        rfl
  | cons entry rest ih =>
      obtain ⟨profile, trial⟩ := entry
      by_cases works : trial.works cached = true
      · obtain ⟨after, tried, cleanAfter, attempts⟩ :=
          tryProfiles_works winner profile rest clean works
        refine ⟨after, ?_, cleanAfter, ?_, ?_⟩
        · rw [tried, List.any_cons, works, Bool.true_or]
        · rw [attempts, upTo, if_pos works]
          rfl
        · intro impossible
          rw [List.any_cons, works, Bool.true_or] at impossible
          cases impossible
      · rw [upTo, if_neg works] at never ⊢
        have notLaunched : trial.launches = false := by
          apply Bool.eq_false_iff.mpr
          intro launched
          exact works (never (profile, trial) List.mem_cons_self launched)
        obtain ⟨middle, tried, cleanMiddle, attempts⟩ :=
          tryProfiles_notLaunched cached winner profile rest clean notLaunched
        obtain ⟨after, reached, cleanAfter, attemptsAfter, recorded⟩ :=
          ih middle cleanMiddle (fun entry member => never entry (List.mem_cons_of_mem _ member))
        rw [List.any_cons, Bool.eq_false_iff.mpr works, Bool.false_or]
        refine ⟨after, tried.trans reached, cleanAfter, ?_, recorded⟩
        rw [attemptsAfter, attempts, List.append_assoc, List.map_cons]
        rfl

/-- One profile that is given up after its launch is enough to latch the flag. -/
theorem tryProfiles_of_givenUp (cached : Bool) (winner : Node)
    (entries : List (Profile × Trial)) (state : State Node Profile) (clean : Clean state)
    {entry : Profile × Trial}
    (turn : entry ∈ upTo (fun entry : Profile × Trial => entry.2.works cached) entries)
    (launched : entry.2.launches = true) (fails : entry.2.works cached = false) :
    ∃ after, tryProfiles cached winner entries state = (false, after) ∧
      after.stopRequestedDuringStart = true := by
  induction entries generalizing state with
  | nil => cases turn
  | cons head rest ih =>
      obtain ⟨profile, trial⟩ := head
      rw [upTo] at turn
      split at turn
      · rename_i works
        obtain rfl := List.mem_singleton.mp turn
        rw [fails] at works
        cases works
      · rename_i headFails
        by_cases headLaunched : trial.launches = true
        · rw [tryProfiles_givenUp winner profile rest clean headLaunched
            (Bool.eq_false_iff.mpr headFails)]
          exact tryProfiles_latched cached winner rest _ rfl
        · obtain ⟨middle, tried, cleanMiddle, _⟩ := tryProfiles_notLaunched cached
            winner profile rest clean (Bool.eq_false_iff.mpr headLaunched)
          rw [tried]
          rcases List.mem_cons.mp turn with rfl | later
          · exact absurd launched headLaunched
          · exact ih middle cleanMiddle later

/-- What Smart Split comes to, in terms of the ladder that it stands for. -/
theorem startSmartSplit_eq (outcomes : Outcomes Node Profile) (winner : Node)
    (state : State Node Profile) (found : outcomes.winner = some winner) :
    startSmartSplit outcomes winner state =
      if outcomes.ladder.isEmpty then (false, state)
      else tryProfiles outcomes.cachedProfile.isSome winner outcomes.ladder state := by
  unfold startSmartSplit Outcomes.ladder
  rw [found, Option.isSome_some]
  cases outcomes.enabled with
  | false => rfl
  | true =>
      cases outcomes.measuredUnavailable with
      | true => rfl
      | false =>
          cases outcomes.geoAssets with
          | false => rfl
          | true => rfl

theorem startNodeOnly_of_clean (outcomes : Outcomes Node Profile) (winner : Node)
    (state : State Node Profile) (clean : Clean state) :
    (startNodeOnly outcomes winner state).2.attempts = state.attempts ++ [none] ∧
      (startNodeOnly outcomes winner state).2.measured = state.measured ∧
      (startNodeOnly outcomes winner state).2.lastError.text ≠ "connect cancelled".toList := by
  unfold startNodeOnly State.launch
  rw [if_neg (Bool.eq_false_iff.mp clean.notLatched)]
  cases outcomes.nodeOnly.launch with
  | error error => exact ⟨rfl, rfl, launch_text_ne error⟩
  | ok _ =>
      cases outcomes.nodeOnly.listens with
      | true => exact ⟨rfl, rfl, clean.notCancelled⟩
      | false =>
          refine ⟨rfl, rfl, ?_⟩
          change StartError.tunnelListener.text ≠ _
          decide

/-- The start from the moment its race is over. -/
theorem start_eq (outcomes : Outcomes Node Profile) (state : State Node Profile) :
    (outcomes.winner = none ∧ (start outcomes state).2.attempts = [] ∧
      (start outcomes state).2.lastError.text ≠ "connect cancelled".toList) ∨
    ∃ winner raced, outcomes.winner = some winner ∧ Clean raced ∧ raced.attempts = [] ∧
      start outcomes state =
        if (startSmartSplit outcomes winner raced).1 then startSmartSplit outcomes winner raced
        else startNodeOnly outcomes winner (startSmartSplit outcomes winner raced).2 := by
  obtain ⟨raced, races, clean, attempts⟩ :=
    raceSlices_of_clean outcomes maxRaceSlices 0 state.begin (clean_begin state)
  unfold start
  by_cases empty : outcomes.ranked.isEmpty = true
  · left
    rw [if_pos empty]
    refine ⟨?_, rfl, ?_⟩
    · rw [Outcomes.winner, maxRaceSlices, Outcomes.winnerFrom, if_pos]
      rw [Outcomes.slice, List.isEmpty_iff.mp empty, List.drop_nil, List.take_nil]
      rfl
    · change StartError.noNodes.text ≠ _
      decide
  · rw [if_neg empty, races, ← Outcomes.winner]
    cases outcomes.winner with
    | none => exact Or.inl ⟨rfl, attempts, clean.notCancelled⟩
    | some winner =>
        right
        refine ⟨winner, raced, rfl, clean, attempts, ?_⟩
        simp only [clean.notLatched, Bool.false_eq_true, if_false]
        rcases startSmartSplit outcomes winner raced with ⟨up, after⟩
        cases up <;> rfl

theorem ladder_of_no_winner {outcomes : Outcomes Node Profile} (none_ : outcomes.winner = none) :
    outcomes.ladder = [] := by
  rw [Outcomes.ladder, none_]
  rfl

/-- Smart Split hands over as long as no profile is given up after its launch. -/
theorem startSmartSplit_of_neverStops {outcomes : Outcomes Node Profile} {winner : Node}
    {state : State Node Profile} (clean : Clean state) (found : outcomes.winner = some winner)
    (never : ∀ entry ∈ outcomes.tried, entry.2.launches = true → outcomes.works entry = true) :
    ∃ after, startSmartSplit outcomes winner state = (outcomes.ladder.any outcomes.works, after) ∧
      Clean after ∧
      after.attempts = state.attempts ++ outcomes.tried.map (fun entry => some entry.1) ∧
      (outcomes.ladder ≠ [] → outcomes.ladder.any outcomes.works = false →
        after.measured = some none) := by
  rw [startSmartSplit_eq outcomes winner state found]
  by_cases empty : outcomes.ladder = []
  · rw [Outcomes.tried, empty]
    exact ⟨state, rfl, clean, (List.append_nil _).symm, fun some_ => absurd rfl some_⟩
  · rw [if_neg (fun same => empty (List.isEmpty_iff.mp same))]
    obtain ⟨after, reached, cleanAfter, attempts, recorded⟩ :=
      tryProfiles_of_neverStops outcomes.cachedProfile.isSome winner outcomes.ladder state clean
        never
    exact ⟨after, reached, cleanAfter, attempts, fun _ => recorded⟩

theorem startSmartSplit_of_givenUp {outcomes : Outcomes Node Profile} {winner : Node}
    {state : State Node Profile} (clean : Clean state) (found : outcomes.winner = some winner)
    {entry : Profile × Trial} (turn : entry ∈ outcomes.tried)
    (launched : entry.2.launches = true) (fails : outcomes.works entry = false) :
    ∃ after, startSmartSplit outcomes winner state = (false, after) ∧
      after.stopRequestedDuringStart = true := by
  rw [startSmartSplit_eq outcomes winner state found, if_neg]
  · exact tryProfiles_of_givenUp outcomes.cachedProfile.isSome winner outcomes.ladder state clean
      turn launched fails
  · intro empty
    rw [Outcomes.tried, List.isEmpty_iff.mp empty] at turn
    cases turn

/-- In SHARD mode and with no `stop` from outside, the profiles hand over to one another and to
the node-only tunnel exactly when none whose turn comes is launched and then given up: the
clean-up after one that is latches the flag of the user's `stop`. -/
theorem start_hands_over_iff (outcomes : Outcomes Node Profile) (state : State Node Profile) :
    HandsOver outcomes (start outcomes state).2 ↔
      ∀ entry ∈ outcomes.tried, entry.2.launches = true → outcomes.works entry = true := by
  rcases start_eq outcomes state with ⟨none_, attempts, notCancelled⟩ |
    ⟨winner, raced, found, clean, attemptsRaced, started⟩
  · have noLadder := ladder_of_no_winner none_
    have noTried : outcomes.tried = [] := by
      rw [Outcomes.tried, noLadder]
      rfl
    constructor
    · intro _ entry member
      rw [noTried] at member
      cases member
    · intro _
      refine ⟨?_, fun some_ => absurd noLadder some_, notCancelled⟩
      rw [attempts, noTried, none_]
      rfl
  · rw [started]
    constructor
    · intro handsOver entry turn launched
      by_contra gaveUp
      obtain ⟨after, split, latched⟩ := startSmartSplit_of_givenUp clean found turn launched
        (Bool.eq_false_iff.mpr gaveUp)
      apply handsOver.notCancelled
      rw [split, if_neg Bool.false_ne_true, startNodeOnly, if_pos latched]
      rfl
    · intro never
      obtain ⟨after, split, cleanAfter, attempts, recorded⟩ :=
        startSmartSplit_of_neverStops clean found never
      rw [split]
      rw [attemptsRaced, List.nil_append] at attempts
      cases worked : outcomes.ladder.any outcomes.works with
      | true =>
          rw [if_pos rfl]
          refine ⟨?_, fun _ failed => ?_, cleanAfter.notCancelled⟩
          · rw [attempts, worked, found]
            exact (List.append_nil _).symm
          · rw [worked] at failed
            cases failed
      | false =>
          obtain ⟨last, kept, notCancelled⟩ := startNodeOnly_of_clean outcomes winner after cleanAfter
          rw [if_neg Bool.false_ne_true]
          refine ⟨?_, fun ladder failed => ?_, notCancelled⟩
          · rw [last, attempts, worked, found]
            rfl
          · rw [kept]
            exact recorded ladder failed

end Start

/-- The first profile is launched and its listener never opens; the second would have worked. -/
theorem start_skips_profiles :
    ¬ ∀ (outcomes : Outcomes Nat Nat) (state : State Nat Nat),
      HandsOver outcomes (start outcomes state).2 := by
  intro always
  have handsOver := always
    { ranked := [0]
      race := fun _ => .ok 0
      enabled := true
      measuredUnavailable := false
      geoAssets := true
      cachedProfile := none
      profiles := [(1, ⟨.ok (), false, false⟩), (2, ⟨.ok (), true, true⟩)]
      nodeOnly := ⟨.ok (), true, true⟩ }
    { stopRequestedDuringStart := false
      running := false
      activeNode := none
      lastError := .blank
      measured := none
      attempts := [] }
  exact handsOver.notCancelled rfl

end MolidoVpn.Shard
