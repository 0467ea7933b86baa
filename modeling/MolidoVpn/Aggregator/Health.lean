import Mathlib.Data.List.Dedup
import MolidoVpn.Lib.History
import MolidoVpn.Lib.Streak
import MolidoVpn.Lib.Table
import MolidoVpn.Lib.Text
import MolidoVpn.Lib.Transition

/-!
The health of the sources that the aggregator keeps from run to run, and what it does with it: which
sources a run fetches, and which candidates become sources. What a run measures is its input.
-/

namespace MolidoVpn.Aggregator

open Streak (failures failures_concat_fails failures_concat_passes)
open Transition (Run Restrict ofNext execute run_of_execute)

def deadAfterRuns : Nat := 8

def retryEveryRuns : Nat := 48

def promoteAfterRuns : Nat := 3

def promoteMinAlive : Nat := 10

abbrev Url := List Char

structure SourceHealth where
  zeroRuns : Nat
  goodRuns : Nat
  promoted : Bool
  lastAlive : Option Nat
  prefHints : Option Nat
  candidate : Bool
  deriving DecidableEq

/-- What `setdefault` puts in. -/
def SourceHealth.fresh : SourceHealth :=
  { zeroRuns := 0
    goodRuns := 0
    promoted := false
    lastAlive := none
    prefHints := none
    candidate := false }

/-- `health.json` -/
structure Health where
  run : Nat
  sources : AList fun _ : Url => SourceHealth

/-- What a run finds out about a source that it fetches. -/
structure SourceStats where
  alive : Nat
  prefHints : Nat
  deriving DecidableEq

/-- A config that a run has picked for the real test. -/
structure Node where
  uri : List Char
  source : Url
  deriving DecidableEq

/-- What the lists of the program named `candidates` are made of: addresses first, then nodes. -/
inductive Item where
  | url (url : Url)
  | node (node : Node)
  deriving DecidableEq

/-- `dict.fromkeys`: each element where it comes first. -/
def fromKeys (urls : List Url) : List Url :=
  urls.reverse.dedup.reverse

def isPaused (run : Nat) (health : Health) (url : Url) : Bool :=
  match health.sources.lookup url with
  | none => false
  | some h =>
      deadAfterRuns ≤ h.zeroRuns && run % retryEveryRuns ≠ 0 && h.prefHints.getD 1 = 0

/-- The sources of the run, those that it leaves out, and the health with the run counted. -/
def pickSources (base candidates : List Url) (health : Health) :
    List Url × List Url × Health :=
  let run := health.run + 1
  let urls := fromKeys (base ++ candidates)
  (urls.filter fun url => !isPaused run health url, urls.filter (isPaused run health),
    { health with run := run })

/-- The turn of the loop of `update_health` for one source. -/
def updateSource (candidates : List Item) (url : Url) (s : SourceStats) (h : SourceHealth) :
    SourceHealth :=
  let zeroRuns := if s.alive ≠ 0 then 0 else h.zeroRuns + 1
  let isCandidate := candidates.contains (.url url)
  let goodRuns :=
    if isCandidate then if promoteMinAlive ≤ s.alive then h.goodRuns + 1 else 0 else h.goodRuns
  { zeroRuns := zeroRuns
    goodRuns := goodRuns
    promoted :=
      if isCandidate then promoteAfterRuns ≤ goodRuns || h.promoted else h.promoted
    lastAlive := some s.alive
    prefHints := some s.prefHints
    candidate := isCandidate || h.candidate }

def updateHealth (health : Health) (stats : List (Url × SourceStats)) (candidates : List Item) :
    Health :=
  { health with
    sources := stats.foldl
      (fun sources entry =>
        sources.insert entry.1
          (updateSource candidates entry.1 entry.2
            ((sources.lookup entry.1).getD .fresh)))
      health.sources }

/-- What a run reads and measures: the two lists of sources, what it finds about each source that
it fetches, and the nodes that it picks for the real test. -/
structure Input where
  base : List Url
  discover : List Url
  measured : Url → SourceStats
  tested : List Node

/-- The candidates of a run: those of `discover.txt`, and those that the health remembers. -/
def candidatesOf (health : Health) (discover : List Url) : List Url :=
  fromKeys (discover ++
    (health.sources.entries.filter fun entry => entry.2.candidate).map Sigma.fst)

/-- A run, for the history. -/
structure Round where
  base : List Url
  candidates : List Url
  fetched : List Url
  paused : List Url
  alive : Url → Nat
  after : Health

def main (health : Health) (input : Input) : Health × Round :=
  let candidates := candidatesOf health input.discover
  let (sources, paused, health) := pickSources input.base candidates health
  let stats := sources.map fun url => (url, input.measured url)
  -- From here on the name stands for the nodes: `candidates = pick_candidates(tcp_alive)`.
  let tested := input.tested.map Item.node
  let health := updateHealth health stats tested
  (health,
    { base := input.base
      candidates := candidates
      fetched := sources
      paused := paused
      alive := fun url => (input.measured url).alive
      after := health })

structure Aggregation where
  health : Health
  history : List Round

def Aggregation.initial : Aggregation :=
  { health := { run := 0, sources := ∅ }
    history := [] }

def next (s : Aggregation) (input : Input) : Option Aggregation :=
  let (health, round) := main s.health input
  some { health := health, history := s.history ++ [round] }

/-- How many configs of a source were alive in the runs that fetched it. -/
def aliveCounts (url : Url) (history : List Round) : List Nat :=
  (history.filter fun round => url ∈ round.fetched).map fun round => round.alive url

def noneAlive (alive : Nat) : Bool := alive = 0

/-- The runs without a living config, at the end. -/
def deadRuns (url : Url) (history : List Round) : List Nat :=
  failures noneAlive (aliveCounts url history)

/-- The runs with enough living configs, at the end. -/
def liveRuns (url : Url) (history : List Round) : List Nat :=
  failures (promoteMinAlive ≤ ·) (aliveCounts url history)

def Health.isCandidate (health : Health) (url : Url) : Prop :=
  (health.sources.lookup url).map SourceHealth.candidate = some true

def Health.isPromoted (health : Health) (url : Url) : Prop :=
  (health.sources.lookup url).map SourceHealth.promoted = some true

/-- Sources are paused only for their dead runs, and not for long. -/
structure Pausing (before : List Round) (round : Round) : Prop where
  paused : ∀ url ∈ round.paused, deadAfterRuns ≤ (deadRuns url before).length
  retried : ∀ url recent, recent <:+ before ++ [round] → recent.length = retryEveryRuns →
    (∀ other ∈ recent, url ∈ other.base ++ other.candidates) → ∃ other ∈ recent,
      url ∈ other.fetched

/-- Candidates that are fetched are remembered, and promoted when they are good. -/
structure Discovering (before : List Round) (round : Round) : Prop where
  recorded : ∀ url ∈ round.candidates, url ∈ round.fetched → round.after.isCandidate url
  offered : ∀ url, ∀ earlier ∈ before, url ∈ earlier.candidates → url ∈ earlier.fetched →
    url ∈ round.candidates
  promoted : ∀ url ∈ round.candidates, url ∈ round.fetched →
    promoteAfterRuns ≤ (liveRuns url (before ++ [round])).length → round.after.isPromoted url

def Lawful (before : List Round) (round : Round) : Prop :=
  Pausing before round ∧ Discovering before round

/-- All candidates of the run are paused sources. -/
def CandidatesPaused (s : Aggregation) (input : Input) : Prop :=
  ∀ url ∈ candidatesOf s.health input.discover, isPaused (s.health.run + 1) s.health url

section Health

variable {health : Health} {url : Url}

theorem mem_fromKeys {urls : List Url} : url ∈ fromKeys urls ↔ url ∈ urls := by
  rw [fromKeys, List.mem_reverse, List.mem_dedup, List.mem_reverse]

theorem nodup_fromKeys (urls : List Url) : (fromKeys urls).Nodup :=
  List.nodup_reverse.mpr (List.nodup_dedup _)

theorem lookup_updateHealth_of_notMem {stats : List (Url × SourceStats)} {candidates : List Item}
    (unfetched : url ∉ stats.map Prod.fst) :
    (updateHealth health stats candidates).sources.lookup url = health.sources.lookup url := by
  unfold updateHealth
  dsimp only
  generalize health.sources = sources
  induction stats generalizing sources with
  | nil => rfl
  | cons entry rest ih =>
      rw [List.map_cons, List.mem_cons, not_or] at unfetched
      rw [List.foldl_cons, ih unfetched.2, Table.lookup_insert, if_neg unfetched.1]

theorem updateHealth_append (health : Health) (early late : List (Url × SourceStats))
    (candidates : List Item) :
    updateHealth health (early ++ late) candidates =
      updateHealth (updateHealth health early candidates) late candidates := by
  unfold updateHealth
  rw [List.foldl_append]

theorem fst_map_measured (measured : Url → SourceStats) (urls : List Url) :
    (urls.map fun url => (url, measured url)).map Prod.fst = urls := by
  rw [List.map_map]
  exact List.map_id _

/-- A source is looked at once. -/
theorem lookup_updateHealth_of_mem {urls : List Url} (nodup : urls.Nodup) (fetched : url ∈ urls)
    (measured : Url → SourceStats) (candidates : List Item) :
    (updateHealth health (urls.map fun url => (url, measured url)) candidates).sources.lookup url =
      some (updateSource candidates url (measured url)
        ((health.sources.lookup url).getD .fresh)) := by
  obtain ⟨early, late, rfl⟩ := List.append_of_mem fetched
  rw [List.nodup_middle, List.nodup_cons, List.mem_append, not_or] at nodup
  rw [List.map_append, List.map_cons, updateHealth_append, ← List.singleton_append,
    updateHealth_append, lookup_updateHealth_of_notMem
      (by rw [fst_map_measured]; exact nodup.1.2)]
  change AList.lookup url (AList.insert _ _ _) = _
  rw [Table.lookup_insert, if_pos rfl, lookup_updateHealth_of_notMem
    (by rw [fst_map_measured]; exact nodup.1.1)]

end Health

section Rounds

variable {health : Health} {input : Input} {url : Url} {before : List Round} {round : Round}

theorem main_health (health : Health) (input : Input) :
    (main health input).1 =
      updateHealth { health with run := health.run + 1 }
        ((main health input).2.fetched.map fun url => (url, input.measured url))
        (input.tested.map Item.node) :=
  rfl

theorem nodup_fetched (health : Health) (input : Input) :
    (main health input).2.fetched.Nodup :=
  (nodup_fromKeys _).filter _

theorem mem_fetched : url ∈ (main health input).2.fetched ↔
    url ∈ input.base ++ (main health input).2.candidates ∧
      isPaused (health.run + 1) health url = false := by
  change url ∈ List.filter _ (fromKeys _) ↔ _
  rw [List.mem_filter, mem_fromKeys, Bool.not_eq_true']
  exact Iff.rfl

theorem mem_paused (paused : url ∈ (main health input).2.paused) :
    isPaused (health.run + 1) health url = true :=
  (List.mem_filter.mp paused).2

/-- The elements of the list are nodes, whatever the source is called. -/
theorem contains_tested (tested : List Node) (url : Url) :
    (tested.map Item.node).contains (.url url) = false := by
  rw [List.contains_eq_mem, decide_eq_false_iff_not]
  intro member
  obtain ⟨node, _, same⟩ := List.mem_map.mp member
  cases same

theorem aliveCounts_snoc_of_mem (fetched : url ∈ round.fetched) :
    aliveCounts url (before ++ [round]) = aliveCounts url before ++ [round.alive url] := by
  unfold aliveCounts
  rw [List.filter_append, List.map_append, List.filter_singleton, decide_eq_true fetched]
  rfl

theorem aliveCounts_snoc_of_notMem (unfetched : url ∉ round.fetched) :
    aliveCounts url (before ++ [round]) = aliveCounts url before := by
  unfold aliveCounts
  rw [List.filter_append, List.map_append, List.filter_singleton, decide_eq_false unfetched]
  exact List.append_nil _

end Rounds

section Runs

variable {s : Aggregation} {input : Input}

def Health.zeroRuns (health : Health) (url : Url) : Nat :=
  ((health.sources.lookup url).map SourceHealth.zeroRuns).getD 0

/-- The counters say what the history says, and no source is known as a candidate. -/
structure Kept (s : Aggregation) : Prop where
  run : s.health.run = s.history.length
  zeroRuns : ∀ url, s.health.zeroRuns url = (deadRuns url s.history).length
  visited : History.Every
    (fun before round => (before.length + 1) % retryEveryRuns = 0 →
      ∀ url ∈ round.base ++ round.candidates, url ∈ round.fetched) s.history
  unknown : ∀ url, ¬s.health.isCandidate url
  unrecorded : ∀ round ∈ s.history, ∀ url, ¬round.after.isCandidate url

theorem kept_initial : Kept .initial :=
  { run := rfl
    zeroRuns := fun _ => rfl
    visited := History.every_nil
    unknown := fun _ known => absurd known (Option.some_ne_none _).symm
    unrecorded := fun _ member => absurd member List.not_mem_nil }

theorem zeroRuns_main (health : Health) (input : Input) (url : Url) :
    (main health input).1.zeroRuns url =
      if url ∈ (main health input).2.fetched then
        if (input.measured url).alive ≠ 0 then 0 else health.zeroRuns url + 1
      else health.zeroRuns url := by
  rw [Health.zeroRuns, main_health]
  by_cases fetched : url ∈ (main health input).2.fetched
  · rw [lookup_updateHealth_of_mem (nodup_fetched health input) fetched, if_pos fetched]
    unfold Health.zeroRuns
    dsimp only [Option.map_some, Option.getD_some, updateSource]
    cases health.sources.lookup url with
    | none => rfl
    | some known => rfl
  · rw [lookup_updateHealth_of_notMem (by rw [fst_map_measured]; exact fetched), if_neg fetched]
    rfl

theorem not_isCandidate_main {health : Health} (unknown : ∀ url, ¬health.isCandidate url)
    (input : Input) (url : Url) : ¬(main health input).1.isCandidate url := by
  rw [Health.isCandidate, main_health]
  by_cases fetched : url ∈ (main health input).2.fetched
  · rw [lookup_updateHealth_of_mem (nodup_fetched health input) fetched]
    dsimp only [Option.map_some, updateSource]
    rw [contains_tested, Bool.false_or]
    have known := unknown url
    unfold Health.isCandidate at known
    cases found : health.sources.lookup url with
    | none =>
        intro same
        cases same
    | some before =>
        rw [found] at known
        exact known
  · rw [lookup_updateHealth_of_notMem (by rw [fst_map_measured]; exact fetched)]
    exact unknown url

theorem deadRuns_snoc (health : Health) (input : Input) (before : List Round) (url : Url) :
    (deadRuns url (before ++ [(main health input).2])).length =
      if url ∈ (main health input).2.fetched then
        if (input.measured url).alive ≠ 0 then 0 else (deadRuns url before).length + 1
      else (deadRuns url before).length := by
  unfold deadRuns
  by_cases fetched : url ∈ (main health input).2.fetched
  · rw [aliveCounts_snoc_of_mem fetched, if_pos fetched]
    change (failures _ (_ ++ [(input.measured url).alive])).length = _
    by_cases alive : (input.measured url).alive = 0
    · have none_ : noneAlive (input.measured url).alive = true := decide_eq_true alive
      rw [failures_concat_fails none_, List.length_append, if_neg (not_not.mpr alive)]
      rfl
    · have some_ : noneAlive (input.measured url).alive = false := decide_eq_false alive
      rw [failures_concat_passes some_, if_pos alive]
      rfl
  · rw [aliveCounts_snoc_of_notMem fetched, if_neg fetched]

theorem Kept.next {later : Aggregation} (kept : Kept s) (step : next s input = some later) :
    Kept later := by
  cases step
  have unknown := not_isCandidate_main kept.unknown input
  constructor
  · change s.health.run + 1 = (s.history ++ [_]).length
    rw [kept.run, List.length_append]
    rfl
  · intro url
    change (main s.health input).1.zeroRuns url =
      (deadRuns url (s.history ++ [(main s.health input).2])).length
    rw [zeroRuns_main, deadRuns_snoc, kept.zeroRuns url]
  · apply kept.visited.snoc
    intro round url listed
    apply mem_fetched.mpr
    refine ⟨listed, ?_⟩
    unfold isPaused
    split
    · rfl
    · rw [kept.run, decide_eq_false (not_not.mpr round), Bool.and_false, Bool.false_and]
  · exact unknown
  · intro round member url
    rcases List.mem_append.mp member with early | last
    · exact kept.unrecorded round early url
    · rw [List.mem_singleton.mp last]
      exact unknown url

end Runs

section Laws

variable {s : Aggregation} {input : Input}

/-- Any stretch of that many runs has one that leaves no source out. -/
theorem retried_of_visited {history recent : List Round}
    (visited : History.Every
      (fun before round => (before.length + 1) % retryEveryRuns = 0 →
        ∀ url ∈ round.base ++ round.candidates, url ∈ round.fetched) history)
    (last : recent <:+ history) (many : recent.length = retryEveryRuns) {url : Url}
    (listed : ∀ round ∈ recent, url ∈ round.base ++ round.candidates) :
    ∃ round ∈ recent, url ∈ round.fetched := by
  obtain ⟨early, rfl⟩ := last
  obtain ⟨at_, inside, due⟩ : ∃ at_, at_ < recent.length ∧
      (early.length + at_ + 1) % retryEveryRuns = 0 := by
    refine ⟨retryEveryRuns - 1 - early.length % retryEveryRuns, ?_, ?_⟩
    · rw [many, retryEveryRuns]
      omega
    · rw [retryEveryRuns]
      omega
  have split : recent = recent.take at_ ++ recent[at_] :: recent.drop (at_ + 1) := by
    rw [← List.drop_eq_getElem_cons inside, List.take_append_drop]
  refine ⟨recent[at_], List.getElem_mem inside, ?_⟩
  apply visited (early ++ recent.take at_) recent[at_] (recent.drop (at_ + 1))
  · rw [List.append_assoc, ← split]
  · rw [List.length_append, List.length_take_of_le inside.le]
    exact due
  · exact listed _ (List.getElem_mem inside)

theorem Kept.pausing (kept : Kept s) (input : Input) :
    Pausing s.history (main s.health input).2 := by
  constructor
  · intro url paused
    have left := mem_paused paused
    unfold isPaused at left
    split at left
    · cases left
    · rename_i h found
      rw [Bool.and_eq_true, Bool.and_eq_true, decide_eq_true_iff] at left
      have counted := kept.zeroRuns url
      rw [Health.zeroRuns, found] at counted
      rw [← counted]
      exact left.1.1
  · intro url recent last many listed
    have later := kept.next (show Aggregator.next s input = some _ from rfl)
    exact retried_of_visited later.visited last many listed

/-- What has been fetched as a candidate has not been recorded. -/
theorem Kept.discovering_iff (kept : Kept s) (before : History.Every Lawful s.history) :
    Discovering s.history (main s.health input).2 ↔ CandidatesPaused s input := by
  have unknown := not_isCandidate_main kept.unknown input
  constructor
  · intro lawful url listed
    by_contra unpaused
    have fetched : url ∈ (main s.health input).2.fetched :=
      mem_fetched.mpr ⟨List.mem_append_right _ listed, Bool.eq_false_iff.mpr unpaused⟩
    exact unknown url (lawful.recorded url listed fetched)
  · intro paused
    have unfetched : ∀ url ∈ (main s.health input).2.candidates,
        url ∉ (main s.health input).2.fetched := by
      intro url listed fetched
      have chosen := (mem_fetched.mp fetched).2
      rw [paused url listed] at chosen
      cases chosen
    refine ⟨fun url listed fetched => absurd fetched (unfetched url listed), ?_,
      fun url listed fetched => absurd fetched (unfetched url listed)⟩
    intro url earlier member listed fetched
    obtain ⟨early, late, split⟩ := List.append_of_mem member
    have recorded := (before early earlier late split).2.recorded url listed fetched
    exact absurd recorded (kept.unrecorded earlier member url)

/-- In every run of runs, sources are paused and retried as they should be; and candidates are
remembered and promoted as they should be exactly if no run ever fetches a candidate. -/
theorem lawful_iff {inputs : List Input} {s : Aggregation}
    (run : Run (ofNext next) .initial inputs s) :
    History.Every Pausing s.history ∧
      (History.Every Lawful s.history ↔
        Run (Restrict (ofNext next) CandidatesPaused) .initial inputs s) := by
  constructor
  · apply (run.invariant (fun s => Kept s ∧ History.Every Pausing s.history) _
      ⟨kept_initial, History.every_nil⟩).2
    rintro source input target step ⟨kept, before⟩
    refine ⟨kept.next step, ?_⟩
    cases step
    exact before.snoc (kept.pausing input)
  · apply run.iff_restrict (fun s => History.Every Lawful s.history) Kept _ _ History.every_nil
      kept_initial
    · intro source input target step kept
      exact kept.next step
    · intro source input target step kept
      cases step
      change History.Every Lawful (source.history ++ [_]) ↔ _
      rw [History.every_snoc_iff]
      apply and_congr_right
      intro before
      rw [← kept.discovering_iff before]
      exact ⟨And.right, fun lawful => ⟨kept.pausing input, lawful⟩⟩

end Laws

section Claim

def source : Url := "s".toList

/-- A run that finds ten living configs in every source. -/
def plentiful (base discover : List Url) : Input :=
  { base := base
    discover := discover
    measured := fun _ => { alive := 10, prefHints := 0 }
    tested := [{ uri := "vless://".toList, source := source }] }

/-- A source from `discover.txt` in three runs, and a run without that file. -/
def rediscovered : List Input :=
  [plentiful [] [source], plentiful [] [source], plentiful [] [source], plentiful [] []]

theorem executed_rediscovered : ∃ s, execute next .initial rediscovered = some s ∧
    s.health.sources.lookup source = some
      { zeroRuns := 0
        goodRuns := 0
        promoted := false
        lastAlive := some 10
        prefHints := some 0
        candidate := false } ∧
    s.history.map Round.fetched = [[source], [source], [source], []] ∧
    ∃ first second third last, s.history = [first, second] ++ [third] ++ [last] ∧
      source ∈ third.candidates ∧ source ∈ third.fetched ∧ source ∉ last.candidates ∧
      promoteAfterRuns ≤ (liveRuns source [first, second, third]).length ∧
      third.after.sources.lookup source = s.health.sources.lookup source :=
  ⟨_, rfl, by decide, by decide, _, _, _, _, rfl, by decide, by decide, by decide, by decide, rfl⟩

/-- The source is not recorded, not promoted after three good runs, and not offered again. -/
theorem candidates_forgotten : ¬∀ inputs s, Run (ofNext next) .initial inputs s →
    History.Every Lawful s.history := by
  intro claimed
  obtain ⟨s, executed, known, _, first, second, third, last, split, listed, fetched, _, good,
    after⟩ := executed_rediscovered
  have lawful := claimed rediscovered s (run_of_execute executed)
  rw [split, History.every_snoc_iff, History.every_snoc_iff] at lawful
  have promoted := lawful.1.2.2.promoted source listed fetched good
  rw [Health.isPromoted, after, known] at promoted
  cases promoted

/-- Two runs over a listed source. -/
def listedOnly : List Input := [plentiful [source] [], plentiful [source] []]

theorem lawful_iff_listedOnly : ∃ s, Run (ofNext next) .initial listedOnly s ∧
    s.history.map Round.fetched = [[source], [source]] ∧
    History.Every Pausing s.history ∧
    (History.Every Lawful s.history ↔
      Run (Restrict (ofNext next) CandidatesPaused) .initial listedOnly s) := by
  have executed : ∃ s, execute next .initial listedOnly = some s ∧
      s.history.map Round.fetched = [[source], [source]] := ⟨_, rfl, by decide⟩
  obtain ⟨s, executed, fetched⟩ := executed
  have run := run_of_execute executed
  exact ⟨s, run, fetched, lawful_iff run⟩

end Claim

end MolidoVpn.Aggregator
