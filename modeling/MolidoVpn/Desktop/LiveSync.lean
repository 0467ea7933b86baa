import Mathlib.Data.List.AList
import Mathlib.Logic.Function.Basic
import MolidoVpn.Lib.History
import MolidoVpn.Lib.Transition

/-!
The change check of the desktop app: which copy of `version.json` it takes from the two mirrors,
and which parts it reports as changed, over all checks and restarts.
-/

namespace MolidoVpn.Desktop

open Transition (Run Restrict ofNext execute run_of_execute)

/-- A value of a JSON object, as the reader of a version looks at it: what stands in an
interpolated string, and the number that it is. -/
inductive JsonValue where
  | null
  | bool (value : Bool)
  | int (value : Int)
  /-- Nothing where the number is not finite. -/
  | double (text : List Char) (truncated : Option Int)
  | string (text : List Char)
  /-- A list or a map. -/
  | nested (text : List Char)
  deriving DecidableEq

abbrev JsonMap := AList fun _ : String => JsonValue

namespace JsonValue

/-- `'${value ?? ''}'` -/
def text : JsonValue → List Char
  | null => []
  | bool value => (toString value).toList
  | int value => (toString value).toList
  | double text _ => text
  | string text => text
  | nested text => text

/-- `(value as num?)?.toInt() ?? 0`; nothing where it throws. -/
def toInt : JsonValue → Option Int
  | null => some 0
  | int value => some value
  | double _ truncated => truncated
  | _ => none

end JsonValue

def textOf (o : JsonMap) (key : String) : List Char :=
  ((o.lookup key).getD .null).text

structure LiveVersion where
  v : List Char
  flags : List Char
  notice : List Char
  release : List Char
  critical : Bool
  resilience : List Char
  catalog : List Char
  at_ : Int
  known : v ≠ []
  deriving DecidableEq

namespace LiveVersion

def ofMap (o : JsonMap) : Option LiveVersion :=
  if known : textOf o "v" = [] then none
  else
    match ((o.lookup "at").getD .null).toInt with
    | none => none
    | some at_ =>
        some
          { v := textOf o "v"
            flags := textOf o "flags"
            notice := textOf o "notice"
            release := textOf o "release"
            critical := o.lookup "critical" == some (.bool true)
            resilience := textOf o "resilience"
            catalog := textOf o "catalog"
            at_ := at_
            known := known }

/-- What is no JSON object is nothing. -/
def parse (text : Option JsonMap) : Option LiveVersion :=
  text.bind ofMap

def toJson (version : LiveVersion) : JsonMap :=
  [⟨"v", .string version.v⟩, ⟨"flags", .string version.flags⟩,
    ⟨"notice", .string version.notice⟩, ⟨"release", .string version.release⟩,
    ⟨"critical", .bool version.critical⟩, ⟨"resilience", .string version.resilience⟩,
    ⟨"catalog", .string version.catalog⟩, ⟨"at", .int version.at_⟩].toAList

/-- What has been stored is read back. -/
theorem parse_toJson (version : LiveVersion) : parse (some version.toJson) = some version := by
  cases version with
  | mk v flags notice release critical resilience catalog at_ known =>
      change ofMap _ = _
      unfold ofMap
      split
      · rename_i empty
        exact absurd empty known
      · cases critical <;> rfl

/-- A copy written before the one in force. -/
def isOlder (old : Option LiveVersion) (fresh : LiveVersion) : Bool :=
  match old with
  | none => false
  | some old => 0 < fresh.at_ && fresh.at_ < old.at_

end LiveVersion

/-- The parts that are reported. -/
inductive Part where
  | flags
  | notice
  | release
  | catalog
  deriving DecidableEq

def LiveVersion.hash (version : LiveVersion) : Part → List Char
  | .flags => version.flags
  | .notice => version.notice
  | .release => version.release
  | .catalog => version.catalog

def moved (old : Option (List Char)) (fresh : List Char) : Bool :=
  fresh ≠ [] && old ≠ some fresh

def LiveVersion.changes (old : Option LiveVersion) (fresh : LiveVersion) : List Part :=
  if old.map LiveVersion.v = some fresh.v then []
  else if isOlder old fresh then []
  else
    [Part.flags, .notice, .release, .catalog].filter fun part =>
      moved (old.map fun old => old.hash part) (fresh.hash part)

inductive Mirror where
  | raw
  | cdn
  deriving DecidableEq

/-- What a mirror answers: nothing of use, that its copy is the one of this tag, or a copy. -/
inductive Answer where
  | failed
  | notModified
  | body (text : Option JsonMap) (etag : Option (List Char))

/-- A copy that has been accepted, with what has been reported. -/
structure Acceptance where
  version : LiveVersion
  reported : List Part

structure LiveSync where
  current : Option LiveVersion
  /-- `live_version` and the tags in the preferences. -/
  stored : Option JsonMap
  etags : Mirror → Option (List Char)
  /-- When the last check was, in milliseconds. -/
  last : Int
  /-- All copies that have been accepted, oldest first. -/
  accepted : List Acceptance

namespace LiveSync

/-- A fresh installation. -/
def initial : LiveSync :=
  { current := none
    stored := none
    etags := fun _ => none
    last := 0
    accepted := [] }

/-- The preferences are in memory, and neither reading nor writing them throws. -/
def accept (s : LiveSync) (mirror : Mirror) (fresh : LiveVersion) (etag : Option (List Char)) :
    LiveSync × List Part :=
  let parts := LiveVersion.changes s.current fresh
  ({ s with
      etags := if etag.isSome then Function.update s.etags mirror etag else s.etags
      current := some fresh
      stored := some fresh.toJson
      accepted := s.accepted ++ [⟨fresh, parts⟩] }, parts)

/-- The loop of `check`: the mirror whose copy is taken, with the copy and its tag. -/
def choose (current : Option LiveVersion) (answers : Mirror → Answer) :
    List Mirror → Option (Mirror × LiveVersion × Option (List Char))
  | [] => none
  | mirror :: rest =>
      match answers mirror with
      | .failed => choose current answers rest
      | .notModified => none
      | .body text etag =>
          match LiveVersion.parse text with
          | none => choose current answers rest
          | some fresh =>
              if LiveVersion.isOlder current fresh then choose current answers rest
              else some (mirror, fresh, etag)

/-- The version in force when a check begins. -/
def recalled (s : LiveSync) : Option LiveVersion :=
  s.current.orElse fun _ => LiveVersion.parse s.stored

def check (s : LiveSync) (now : Int) (answers : Mirror → Answer) : LiveSync × List Part :=
  if now - s.last < 45000 then (s, [])
  else
    let s := { s with last := now, current := s.recalled }
    match choose s.current answers [.raw, .cdn] with
    | none => (s, [])
    | some (mirror, fresh, etag) => s.accept mirror fresh etag

end LiveSync

inductive LiveEvent where
  | check (now : Int) (answers : Mirror → Answer)
  /-- The app is started anew. -/
  | restart

namespace LiveSync

/-- A check while another one runs does nothing, and is none here. -/
def next (s : LiveSync) : LiveEvent → Option LiveSync
  | .check now answers => some (s.check now answers).1
  | .restart => some { s with current := none, last := 0 }

/-- The copy that a check accepts. -/
def offered (s : LiveSync) (now : Int) (answers : Mirror → Answer) : Option LiveVersion :=
  if now - s.last < 45000 then none
  else (choose s.recalled answers [.raw, .cdn]).map fun found => found.2.1

def taken (s : LiveSync) : LiveEvent → Option LiveVersion
  | .check now answers => s.offered now answers
  | .restart => none

end LiveSync

/-- The hash of a part that was last known. -/
def lastKnown (part : Part) (history : List Acceptance) : Option (List Char) :=
  (history.reverse.map fun acceptance => acceptance.version.hash part).find? (· ≠ [])

/-- The time does not go back, and exactly the parts are reported whose hash is known and is not
the one last known. -/
structure Reported (before : List Acceptance) (acceptance : Acceptance) : Prop where
  later : ∀ earlier ∈ before, earlier.version.at_ ≤ acceptance.version.at_
  changed : ∀ part, part ∈ acceptance.reported ↔
    acceptance.version.hash part ≠ [] ∧
      lastKnown part before ≠ some (acceptance.version.hash part)

/-- A copy that is accepted has a time, unless none in force had one; and where the version in
force does not know a hash, the copy does not bring the last known one back. -/
structure LiveSync.Orderly (s : LiveSync) (event : LiveEvent) : Prop where
  timed : ∀ fresh old, s.taken event = some fresh → s.recalled = some old →
    fresh.at_ ≤ 0 → old.at_ ≤ fresh.at_
  kept : ∀ fresh old, s.taken event = some fresh → s.recalled = some old →
    ∀ part, old.hash part = [] → fresh.hash part ≠ [] →
      lastKnown part s.accepted ≠ some (fresh.hash part)

/-- The copies that the mirrors serve in an event. -/
def LiveEvent.Serves (event : LiveEvent) (version : LiveVersion) : Prop :=
  match event with
  | check _ answers =>
      ∃ mirror text etag, answers mirror = .body text etag ∧
        LiveVersion.parse text = some version
  | restart => False

/-- The overall key of a version tells its hashes. -/
def Keyed (published : LiveVersion → Prop) : Prop :=
  ∀ one other, published one → published other → one.v = other.v →
    ∀ part, one.hash part = other.hash part

section Accepting

variable {s : LiveSync} {event : LiveEvent} {published : LiveVersion → Prop}

theorem choose_some {current : Option LiveVersion} {answers : Mirror → Answer}
    {mirrors : List Mirror} {mirror : Mirror} {fresh : LiveVersion} {etag : Option (List Char)}
    (chosen : LiveSync.choose current answers mirrors = some (mirror, fresh, etag)) :
    LiveVersion.isOlder current fresh = false ∧
      ∃ text, answers mirror = .body text etag ∧ LiveVersion.parse text = some fresh := by
  induction mirrors with
  | nil => cases chosen
  | cons first rest ih =>
      unfold LiveSync.choose at chosen
      split at chosen
      · exact ih chosen
      · cases chosen
      · rename_i text tag answered
        split at chosen
        · exact ih chosen
        · rename_i version parsed
          split at chosen
          · exact ih chosen
          · rename_i current_
            cases chosen
            exact ⟨Bool.eq_false_iff.mpr current_, text, answered, parsed⟩

namespace LiveSync

theorem recalled_of_due (s : LiveSync) (now : Int) :
    recalled { s with last := now, current := s.recalled } = s.recalled := by
  unfold recalled
  cases s.current with
  | some current => rfl
  | none =>
      cases LiveVersion.parse s.stored with
      | none => rfl
      | some stored => rfl

/-- What is in force is what has been stored, and the last copy that has been accepted. -/
structure Consistent (s : LiveSync) : Prop where
  stored : ∀ current, s.current = some current → LiveVersion.parse s.stored = some current
  last : s.recalled = s.accepted.getLast?.map Acceptance.version

theorem consistent_initial : Consistent initial :=
  ⟨fun _ absent => absurd absent (Option.some_ne_none _).symm, rfl⟩

theorem Consistent.restart (consistent : Consistent s) :
    recalled { s with current := none, last := 0 } = s.recalled := by
  change LiveVersion.parse s.stored = s.current.orElse fun _ => LiveVersion.parse s.stored
  cases inForce : s.current with
  | none => rfl
  | some current => exact consistent.stored current inForce

/-- What a step does: it accepts a copy, or the history stays as it is. -/
inductive Moved (s : LiveSync) (event : LiveEvent) (later : LiveSync) : Prop where
  | idle (none_ : s.taken event = none) (history : later.accepted = s.accepted)
      (inForce : later.recalled = s.recalled) (consistent : Consistent later)
  | accepted (fresh : LiveVersion) (taken : s.taken event = some fresh)
      (served : event.Serves fresh) (newer : LiveVersion.isOlder s.recalled fresh = false)
      (history : later.accepted =
        s.accepted ++ [⟨fresh, LiveVersion.changes s.recalled fresh⟩])
      (inForce : later.recalled = some fresh) (consistent : Consistent later)

theorem Consistent.moved {later : LiveSync} (consistent : Consistent s)
    (step : s.next event = some later) : Moved s event later := by
  cases event with
  | restart =>
      cases step
      have inForce := consistent.restart
      refine .idle rfl rfl inForce ⟨?_, inForce.trans consistent.last⟩
      intro current absent
      cases absent
  | check now answers =>
      have later_ := Option.some.inj step
      have taken_ : s.taken (.check now answers) = s.offered now answers := rfl
      unfold check at later_
      unfold offered at taken_
      split at later_
      · rename_i early
        subst later_
        rw [if_pos early] at taken_
        exact .idle taken_ rfl rfl consistent
      · rename_i due
        rw [if_neg due] at taken_
        dsimp only at later_
        split at later_
        · rename_i none_
          subst later_
          rw [none_] at taken_
          have inForce := recalled_of_due s now
          refine .idle taken_ rfl inForce ⟨?_, inForce.trans consistent.last⟩
          intro current same
          change s.recalled = some current at same
          unfold recalled at same
          cases known : s.current with
          | none =>
              rw [known] at same
              exact same
          | some old =>
              rw [known] at same
              cases same
              exact consistent.stored _ known
        · rename_i mirror fresh etag chosen
          subst later_
          rw [chosen] at taken_
          obtain ⟨newer, text, answered, parsed⟩ := choose_some chosen
          refine .accepted fresh taken_ ⟨mirror, text, etag, answered, parsed⟩ newer rfl rfl
            ⟨?_, ?_⟩
          · intro current same
            cases same
            exact LiveVersion.parse_toJson fresh
          · change some fresh = ((s.accepted ++ [_]).getLast?).map Acceptance.version
            rw [List.getLast?_concat]
            rfl

end LiveSync

end Accepting

section History

variable {part : Part} {history : List Acceptance} {old : Option LiveVersion}
  {fresh : LiveVersion}

theorem lastKnown_snoc (part : Part) (history : List Acceptance) (last : Acceptance) :
    lastKnown part (history ++ [last]) =
      if last.version.hash part = [] then lastKnown part history
      else some (last.version.hash part) := by
  unfold lastKnown
  rw [List.reverse_concat, List.map_cons]
  split
  · rename_i unknown
    exact List.find?_cons_of_neg (by simpa using unknown)
  · rename_i known
    exact List.find?_cons_of_pos (by simpa using known)

theorem mem_changes : part ∈ LiveVersion.changes old fresh ↔
    old.map LiveVersion.v ≠ some fresh.v ∧ LiveVersion.isOlder old fresh = false ∧
      fresh.hash part ≠ [] ∧ old.map (fun old => old.hash part) ≠ some (fresh.hash part) := by
  have listed : part ∈ [Part.flags, .notice, .release, .catalog] := by
    cases part <;> decide
  unfold LiveVersion.changes
  split
  · rename_i same
    exact ⟨fun member => absurd member List.not_mem_nil, fun changed => absurd same changed.1⟩
  · rename_i differs
    split
    · rename_i older
      refine ⟨fun member => absurd member List.not_mem_nil, fun changed => ?_⟩
      rw [changed.2.1] at older
      cases older
    · rename_i newer
      rw [List.mem_filter, moved, Bool.and_eq_true, decide_eq_true_iff, decide_eq_true_iff]
      constructor
      · rintro ⟨_, both⟩
        exact ⟨differs, Bool.eq_false_iff.mpr newer, both⟩
      · rintro ⟨_, _, both⟩
        exact ⟨listed, both⟩

/-- What the version in force says of a part, and what was last known of it. -/
theorem lastKnown_of_last {last : LiveVersion}
    (inForce : history.getLast?.map Acceptance.version = some last)
    (known : last.hash part ≠ []) : lastKnown part history = some (last.hash part) := by
  obtain ⟨acceptance, found, rfl⟩ := Option.map_eq_some_iff.mp inForce
  obtain ⟨before, rfl⟩ := List.getLast?_eq_some_iff.mp found
  rw [lastKnown_snoc, if_neg known]

theorem at_le_last {last : LiveVersion} (right : History.Every Reported history)
    (inForce : history.getLast?.map Acceptance.version = some last) :
    ∀ earlier ∈ history, earlier.version.at_ ≤ last.at_ := by
  obtain ⟨acceptance, found, rfl⟩ := Option.map_eq_some_iff.mp inForce
  obtain ⟨before, rfl⟩ := List.getLast?_eq_some_iff.mp found
  intro earlier member
  rcases List.mem_append.mp member with early | same
  · exact (History.every_snoc_iff.mp right).2.later earlier early
  · exact Int.le_of_eq (by rw [List.mem_singleton.mp same])

theorem mem_changes_of_keyed {published : LiveVersion → Prop} {old fresh : LiveVersion}
    (keyed : Keyed published) (known : published old) (served : published fresh)
    (newer : LiveVersion.isOlder (some old) fresh = false) (part : Part) :
    part ∈ LiveVersion.changes (some old) fresh ↔
      fresh.hash part ≠ [] ∧ old.hash part ≠ fresh.hash part := by
  rw [mem_changes]
  constructor
  · rintro ⟨_, _, present, differs⟩
    exact ⟨present, fun same => differs (congrArg some same)⟩
  · rintro ⟨present, differs⟩
    refine ⟨?_, newer, present, fun same => differs (Option.some.inj same)⟩
    intro equal
    exact differs (keyed _ _ known served (Option.some.inj equal) part)

end History

namespace LiveSync

section Steps

variable {published : LiveVersion → Prop} {s : LiveSync} {event : LiveEvent}
  {fresh : LiveVersion}

/-- Once reports have been right, a copy is reported rightly exactly if it is an orderly one. -/
theorem reported_iff_orderly (keyed : Keyed published) (consistent : Consistent s)
    (known : ∀ old, s.recalled = some old → published old) (served : published fresh)
    (right : History.Every Reported s.accepted) (taken : s.taken event = some fresh)
    (newer : LiveVersion.isOlder s.recalled fresh = false) :
    Reported s.accepted ⟨fresh, LiveVersion.changes s.recalled fresh⟩ ↔ Orderly s event := by
  have last := consistent.last
  cases inForce : s.recalled with
  | none =>
      rw [inForce] at last
      have first : s.accepted = [] := by
        rw [← List.getLast?_eq_none_iff]
        exact Option.map_eq_none_iff.mp last.symm
      have orderly : Orderly s event :=
        { timed := fun _ _ _ found => absurd (found.symm.trans inForce) (Option.some_ne_none _)
          kept := fun _ _ _ found => absurd (found.symm.trans inForce) (Option.some_ne_none _) }
      refine ⟨fun _ => orderly, fun _ => ⟨?_, ?_⟩⟩
      · intro earlier member
        rw [first] at member
        exact absurd member List.not_mem_nil
      · intro part
        rw [mem_changes, first]
        constructor
        · rintro ⟨_, _, present, _⟩
          exact ⟨present, (Option.some_ne_none _).symm⟩
        · rintro ⟨present, _⟩
          exact ⟨(Option.some_ne_none _).symm, rfl, present, (Option.some_ne_none _).symm⟩
  | some old =>
      rw [inForce] at last newer
      have only : ∀ version, s.taken event = some version → version = fresh := by
        intro version again
        exact Option.some.inj (again.symm.trans taken)
      constructor
      · intro reported
        constructor
        · intro version other again found _
          obtain rfl := only version again
          obtain rfl := Option.some.inj (found.symm.trans inForce)
          obtain ⟨acceptance, there, rfl⟩ := Option.map_eq_some_iff.mp last.symm
          exact reported.later acceptance (List.mem_of_getLast? there)
        · intro version other again found part forgotten present same
          obtain rfl := only version again
          obtain rfl := Option.some.inj (found.symm.trans inForce)
          have member : part ∈ LiveVersion.changes (some other) version := by
            rw [mem_changes_of_keyed keyed (known other inForce) served newer, forgotten]
            exact ⟨present, present.symm⟩
          exact ((reported.changed part).mp member).2 same
      · intro orderly
        constructor
        · intro earlier member
          refine Int.le_trans (at_le_last right last.symm earlier member) ?_
          change old.at_ ≤ fresh.at_
          by_cases timed : fresh.at_ ≤ 0
          · exact orderly.timed fresh old taken inForce timed
          · simp only [LiveVersion.isOlder, Bool.and_eq_false_iff, decide_eq_false_iff_not]
              at newer
            omega
        · intro part
          rw [mem_changes_of_keyed keyed (known old inForce) served newer]
          apply and_congr_right
          intro present
          by_cases forgotten : old.hash part = []
          · rw [forgotten]
            exact ⟨fun _ => orderly.kept fresh old taken inForce part forgotten present,
              fun _ => present.symm⟩
          · rw [lastKnown_of_last last.symm forgotten]
            exact not_congr (Option.some_inj.symm)

end Steps

section Runs

/-- Events that serve no copies but those of one publisher. -/
abbrev Serving (published : LiveVersion → Prop) :=
  { event : LiveEvent // ∀ version, event.Serves version → published version }

def serve (published : LiveVersion → Prop) (s : LiveSync) (event : Serving published) :
    Option LiveSync :=
  s.next event.1

variable {published : LiveVersion → Prop}

/-- In every run of checks and restarts, the time of the accepted version never goes back and the
parts are reported rightly, exactly if all copies that are accepted are orderly ones. -/
theorem reported_iff (keyed : Keyed published) {events : List (Serving published)} {s : LiveSync}
    (run : Run (ofNext (serve published)) initial events s) :
    History.Every Reported s.accepted ↔
      Run (Restrict (ofNext (serve published)) fun s event => Orderly s event.1) initial events
        s := by
  apply Run.iff_restrict (fun s => History.Every Reported s.accepted)
    (fun s => Consistent s ∧ ∀ old, s.recalled = some old → published old) _ _ run
    History.every_nil
    ⟨consistent_initial, fun _ absent => absurd absent (Option.some_ne_none _).symm⟩
  · rintro source ⟨event, serves⟩ target step ⟨consistent, known⟩
    cases consistent.moved step with
    | idle _ _ inForce later => exact ⟨later, fun old found => known old (inForce ▸ found)⟩
    | accepted fresh _ served _ _ inForce later =>
        refine ⟨later, fun old found => ?_⟩
        obtain rfl := Option.some.inj (inForce.symm.trans found)
        exact serves _ served
  · rintro source ⟨event, serves⟩ target step ⟨consistent, known⟩
    cases consistent.moved step with
    | idle none_ history _ _ =>
        rw [history]
        have orderly : Orderly source event :=
          { timed := fun _ _ found => absurd (found.symm.trans none_) (Option.some_ne_none _)
            kept := fun _ _ found => absurd (found.symm.trans none_) (Option.some_ne_none _) }
        exact ⟨fun right => ⟨right, orderly⟩, And.left⟩
    | accepted fresh taken served newer history _ _ =>
        rw [history, History.every_snoc_iff]
        apply and_congr_right
        intro right
        exact reported_iff_orderly keyed consistent known (serves fresh served) right taken newer

end Runs

section Claim

/-- A version with a flags hash only. -/
def flagged (v : String) (flags : String) (at_ : Int) (known : v.toList ≠ []) : LiveVersion :=
  { v := v.toList
    flags := flags.toList
    notice := []
    release := []
    critical := false
    resilience := []
    catalog := []
    at_ := at_
    known := known }

def versionA : LiveVersion := flagged "a" "h1" 100 (by decide)

/-- The publisher could not read the flags. -/
def versionB : LiveVersion := flagged "b" "" 200 (by decide)

def versionC : LiveVersion := flagged "c" "h1" 300 (by decide)

/-- A copy without a time. -/
def versionD : LiveVersion := flagged "d" "h2" 0 (by decide)

abbrev written (version : LiveVersion) : Prop :=
  version ∈ [versionA, versionB, versionC, versionD]

theorem keyed_written : Keyed written := by
  intro one other first second same part
  have all : ∀ one ∈ [versionA, versionB, versionC, versionD],
      ∀ other ∈ [versionA, versionB, versionC, versionD], one.v = other.v → one = other := by
    decide
  rw [all one first other second same]

/-- The first mirror serves a copy. -/
def serving (version : LiveVersion) (there : written version) (now : Int) : Serving written :=
  ⟨.check now fun _ => .body (some version.toJson) none, by
    rintro other ⟨mirror, text, etag, answered, parsed⟩
    cases answered
    rw [LiveVersion.parse_toJson] at parsed
    cases parsed
    exact there⟩

/-- The flags stay the same, but a copy in between does not tell them. -/
def forgotten : List (Serving written) :=
  [serving versionA (by decide) 100000, serving versionB (by decide) 200000,
    serving versionC (by decide) 300000]

def untimed : List (Serving written) :=
  [serving versionA (by decide) 100000, serving versionD (by decide) 200000]

theorem accepted_forgotten : ∃ s, execute (serve written) initial forgotten = some s ∧
    s.accepted = [⟨versionA, [.flags]⟩, ⟨versionB, []⟩] ++ [⟨versionC, [.flags]⟩] :=
  ⟨_, rfl, rfl⟩

theorem accepted_untimed : ∃ s, execute (serve written) initial untimed = some s ∧
    s.accepted = [⟨versionA, [.flags]⟩] ++ [⟨versionD, [.flags]⟩] :=
  ⟨_, rfl, rfl⟩

/-- Flags that have not changed are reported, and a copy without a time takes the place of a later
one. -/
theorem misreported : Keyed written ∧
    (¬∀ s, Run (ofNext (serve written)) initial forgotten s →
      History.Every Reported s.accepted) ∧
    ¬∀ s, Run (ofNext (serve written)) initial untimed s →
      History.Every Reported s.accepted := by
  refine ⟨keyed_written, ?_, ?_⟩
  · intro claimed
    obtain ⟨s, executed, accepted⟩ := accepted_forgotten
    have right := claimed s (run_of_execute executed)
    rw [accepted, History.every_snoc_iff] at right
    have changed := (right.2.changed .flags).mp (by decide)
    exact changed.2 (by decide)
  · intro claimed
    obtain ⟨s, executed, accepted⟩ := accepted_untimed
    have right := claimed s (run_of_execute executed)
    rw [accepted, History.every_snoc_iff] at right
    have later := right.2.later ⟨versionA, [.flags]⟩ (List.mem_singleton.mpr rfl)
    revert later
    decide

/-- A copy of unknown flags first, and then the flags. -/
def growing : List (Serving written) :=
  [serving versionB (by decide) 100000, serving versionC (by decide) 200000]

theorem accepted_growing : ∃ s, execute (serve written) initial growing = some s ∧
    s.accepted = [⟨versionB, []⟩, ⟨versionC, [.flags]⟩] :=
  ⟨_, rfl, rfl⟩

theorem reported_iff_growing : ∃ s, Run (ofNext (serve written)) initial growing s ∧
    s.accepted = [⟨versionB, []⟩, ⟨versionC, [.flags]⟩] ∧
    (History.Every Reported s.accepted ↔
      Run (Restrict (ofNext (serve written)) fun s event => Orderly s event.1) initial growing
        s) := by
  obtain ⟨s, executed, accepted⟩ := accepted_growing
  have run := run_of_execute executed
  exact ⟨s, run, accepted, reported_iff keyed_written run⟩

end Claim

end LiveSync

end MolidoVpn.Desktop
