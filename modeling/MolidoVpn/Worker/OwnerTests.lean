import MolidoVpn.Lib.Streak
import MolidoVpn.Worker.NodeFingerprint

/-!
The results of the local Iran tester and the reports of the users as `reportRoute` stores them,
and which of the owner's configs `ownerHidden` hides: the streak that one upsert keeps from row
to row is that of all results.
-/

namespace MolidoVpn.Worker

open Streak (streak)

def ownerFailRuns : Nat := 2

def ownerRunGapMs : Nat := 5 * 60000

def msPerDay : Nat := 86400000

/-- `toISOString().slice(0, 10)`, whose order is that of the days. -/
def dayOf (ms : Nat) : Nat := ms / msPerDay

/-- `day(d)` -/
def daysBefore (days now : Nat) : Nat := dayOf (now - days * msPerDay)

/-- A row of `owner_tests`. -/
structure TestRow where
  ok : Bool
  ms : Option Nat
  testedAt : Nat
  failStreak : Nat

/-- The body of a request that `reportRoute` has found valid. -/
structure Report where
  node : List Char
  ok : Bool
  ms : Option Nat
  app : List Char
  net : List Char
  op : Option (List Char)
  mode : Option (List Char)
  owner : Bool
  ver : List Char

structure ReportKey where
  day : Nat
  node : List Char
  app : List Char
  net : List Char
  deriving DecidableEq

/-- A row of `reports`. -/
structure ReportRow where
  ok : Nat
  fail : Nat
  msSum : Nat
  msN : Nat

structure ReportsDb where
  tests : AList fun _ : List Char => TestRow
  reports : AList fun _ : ReportKey => ReportRow

namespace ReportsDb

def empty : ReportsDb := ⟨∅, ∅⟩

def upsertTest (db : ReportsDb) (r : Report) (now : Nat) : ReportsDb :=
  let ms := if r.ok then r.ms else none
  let failStreak :=
    match db.tests.lookup r.node with
    | none => if r.ok then 0 else 1
    | some row =>
        if r.ok then 0
        else if row.ok = false ∧ (now : Int) - ownerRunGapMs < row.testedAt then row.failStreak
        else row.failStreak + 1
  { db with tests := db.tests.insert r.node ⟨r.ok, ms, now, failStreak⟩ }

def upsertReport (db : ReportsDb) (r : Report) (now : Nat) (node net : List Char) : ReportsDb :=
  let key : ReportKey := ⟨dayOf now, node, r.app, net⟩
  let ok := if r.ok then 1 else 0
  let added : ReportRow :=
    match db.reports.lookup key with
    | none => ⟨ok, 1 - ok, r.ms.getD 0, if r.ms.isSome then 1 else 0⟩
    | some row =>
        ⟨row.ok + ok, row.fail + (1 - ok), row.msSum + r.ms.getD 0,
          row.msN + if r.ms.isSome then 1 else 0⟩
  { db with reports := db.reports.insert key added }

end ReportsDb

def modeNode (mode : List Char) : List Char := "mode:".toList ++ mode

def netKey (r : Report) : List Char :=
  match r.op with
  | some op => r.net ++ '|' :: op
  | none => r.net

/-- The result of the tester for a config that is the owner's at that moment. -/
def isTest (r : Report) (isOwner : Bool) : Bool :=
  r.owner && r.ver == "local-iran-test".toList && isOwner

/-- A report that is stored, or the daily cleanup. -/
inductive Arrival where
  | report (now : Nat) (r : Report) (isOwner : Bool)
  | cleanup (now : Nat)

def Arrival.now : Arrival → Nat
  | .report now _ _ => now
  | .cleanup now => now

/-- A report of the app counts under its mode as well, in a row of its own. -/
def ReportsDb.count (db : ReportsDb) (r : Report) (now : Nat) : ReportsDb :=
  let counted := db.upsertReport r now r.node (netKey r)
  match r.mode with
  | some mode =>
      if "mode:".toList.isPrefixOf r.node then counted
      else counted.upsertReport r now (modeNode mode) (netKey r ++ "|m".toList)
  | none => counted

def ReportsDb.arrive (db : ReportsDb) : Arrival → ReportsDb
  | .report now r isOwner => if isTest r isOwner then db.upsertTest r now else db.count r now
  | .cleanup now =>
      { tests :=
          Table.keep (fun _ row => decide ((now : Int) - 30 * msPerDay ≤ row.testedAt)) db.tests
        reports := Table.keep (fun key _ => decide (daysBefore 30 now ≤ key.day)) db.reports }

def replay (arrivals : List Arrival) : ReportsDb := arrivals.foldl ReportsDb.arrive .empty

/-- What `ownerStatus` selects for one node, if it has a row of the last week. -/
structure UserSums where
  ok : Nat
  fail : Nat
  recentOk : Nat

structure OwnerStatus where
  tests : AList fun _ : List Char => TestRow
  users : List Char → Option UserSums

/-- The rows of a group of the query. -/
def ReportsDb.rows (db : ReportsDb) (now : Nat) (node : List Char) :
    List (Sigma fun _ : ReportKey => ReportRow) :=
  db.reports.entries.filter fun entry =>
    entry.1.node == node && decide (daysBefore 6 now ≤ entry.1.day)

def ReportsDb.userSums (db : ReportsDb) (now : Nat) (node : List Char) : Option UserSums :=
  let rows := db.rows now node
  if rows = [] then none
  else some {
    ok := (rows.map fun entry => entry.2.ok).sum
    fail := (rows.map fun entry => entry.2.fail).sum
    recentOk := (rows.map fun entry =>
      if daysBefore 1 now ≤ entry.1.day then entry.2.ok else 0).sum }

def ReportsDb.ownerStatus (db : ReportsDb) (now : Nat) : OwnerStatus :=
  ⟨db.tests, db.userSums now⟩

/-- A config of the owner, under the fingerprint of its line. -/
structure OwnerEntry where
  line : List Char
  fp : List Char
  alwaysShow : Bool
  own : fp = fingerprintOf (lineCore line)

def ownerHidden (entry : OwnerEntry) (st : OwnerStatus) : Bool :=
  if entry.alwaysShow then false
  else
    match st.tests.lookup entry.fp with
    | none => false
    | some t =>
        if t.ok || decide (t.failStreak < ownerFailRuns) then false
        else !decide (0 < ((st.users entry.fp).map UserSums.recentOk).getD 0)

section History

/-- A result of the tester for one config. -/
structure Result where
  ok : Bool
  at_ : Nat

def resultOf (fp : List Char) : Arrival → Option Result
  | .report now r isOwner =>
      if isTest r isOwner = true ∧ r.node = fp then some ⟨r.ok, now⟩ else none
  | .cleanup _ => none

/-- All results of a config. -/
def resultsOf (fp : List Char) (arrivals : List Arrival) : List Result :=
  arrivals.filterMap (resultOf fp)

/-- The cleanup forgets a config that nobody has tested for thirty days. -/
def remember (fp : List Char) (results : List Result) : Arrival → List Result
  | .report now r isOwner => results ++ (resultOf fp (.report now r isOwner)).toList
  | .cleanup now =>
      match results.getLast? with
      | some last => if (now : Int) - 30 * msPerDay ≤ last.at_ then results else []
      | none => []

def remembered (fp : List Char) (arrivals : List Arrival) : List Result :=
  arrivals.foldl (remember fp) []

def failRuns (results : List Result) : Nat :=
  streak (fun result => !result.ok) Result.at_ ownerRunGapMs results

/-- A report of a user that the config has worked. -/
def Arrival.isSuccess (fp : List Char) : Arrival → Bool
  | .report _ r isOwner => !isTest r isOwner && r.node == fp && r.ok
  | .cleanup _ => false

theorem remembered_concat (fp : List Char) (arrivals : List Arrival) (arrival : Arrival) :
    remembered fp (arrivals ++ [arrival]) = remember fp (remembered fp arrivals) arrival := by
  rw [remembered, List.foldl_append]
  rfl

theorem replay_concat (arrivals : List Arrival) (arrival : Arrival) :
    replay (arrivals ++ [arrival]) = (replay arrivals).arrive arrival := by
  rw [replay, List.foldl_append]
  rfl

/-- Without a cleanup nothing is forgotten. -/
theorem remembered_eq_resultsOf {fp : List Char} {arrivals : List Arrival}
    (kept : ∀ now, Arrival.cleanup now ∉ arrivals) :
    remembered fp arrivals = resultsOf fp arrivals := by
  induction arrivals using List.reverseRecOn with
  | nil => rfl
  | append_singleton arrivals arrival ih =>
      have before := ih fun now member => kept now (List.mem_append_left _ member)
      rw [remembered_concat, before, resultsOf, resultsOf, List.filterMap_append]
      cases arrival with
      | cleanup now => exact absurd (List.mem_append_right _ List.mem_cons_self) (kept now)
      | report now r isOwner =>
          rw [remember]
          rfl

end History

section Streaks

/-- What the row of a config says about its results. -/
def TestRow.summary (row : TestRow) : Bool × Nat × Nat := (row.ok, row.testedAt, row.failStreak)

def summaryOf (results : List Result) : Option (Bool × Nat × Nat) :=
  results.getLast?.map fun last => (last.ok, last.at_, failRuns results)

theorem summaryOf_concat (results : List Result) (result : Result) :
    summaryOf (results ++ [result]) =
      some (result.ok, result.at_, failRuns (results ++ [result])) := by
  rw [summaryOf, List.getLast?_concat, Option.map_some]

/-- One upsert takes the row of some results to the row of one more. -/
theorem summary_upsertTest {db : ReportsDb} {r : Report} {results : List Result}
    (row : (db.tests.lookup r.node).map TestRow.summary = summaryOf results) (now : Nat) :
    ((db.upsertTest r now).tests.lookup r.node).map TestRow.summary =
      summaryOf (results ++ [⟨r.ok, now⟩]) := by
  rw [summaryOf_concat, ReportsDb.upsertTest]
  simp only [AList.lookup_insert, Option.map_some, TestRow.summary]
  congr 3
  cases passed : r.ok with
  | true =>
      rw [failRuns, Streak.streak_concat_passes rfl]
      split <;> rfl
  | false =>
      induction results using List.reverseRecOn with
      | nil =>
          have absent : db.tests.lookup r.node = none := Option.map_eq_none_iff.mp row
          rw [absent, List.nil_append, failRuns, Streak.streak_singleton rfl]
          rfl
      | append_singleton results last _ =>
          rw [summaryOf_concat, Option.map_eq_some_iff] at row
          obtain ⟨⟨ok, ms, testedAt, failStreak⟩, found, same⟩ := row
          simp only [TestRow.summary, Prod.mk.injEq] at same
          obtain ⟨rfl, rfl, rfl⟩ := same
          rw [found]
          cases failing : last.ok with
          | true =>
              have begun : failRuns (results ++ [last] ++ [⟨false, now⟩]) = 1 :=
                Streak.streak_concat_first (by rw [failing]; rfl) (by rfl) results
              have ended : failRuns (results ++ [last]) = 0 :=
                Streak.streak_concat_passes (by rw [failing]; rfl) results
              simp only [begun, ended, Bool.false_eq_true, if_false, reduceCtorEq,
                false_and, Nat.zero_add]
          | false =>
              have next : failRuns (results ++ [last] ++ [⟨false, now⟩]) =
                  failRuns (results ++ [last]) +
                    if now < last.at_ + ownerRunGapMs then 0 else 1 :=
                Streak.streak_concat_next (by rw [failing]; rfl) (by rfl) results
              simp only [next, Bool.false_eq_true, if_false, true_and]
              split <;> split <;> omega

theorem lookup_upsertTest_ne {db : ReportsDb} {r : Report} {fp : List Char} (other : r.node ≠ fp)
    (now : Nat) : (db.upsertTest r now).tests.lookup fp = db.tests.lookup fp :=
  AList.lookup_insert_ne (Ne.symm other)

theorem tests_count (db : ReportsDb) (r : Report) (now : Nat) :
    (db.count r now).tests = db.tests := by
  unfold ReportsDb.count
  split
  · split <;> rfl
  · rfl

theorem summary_cleanup {db : ReportsDb} {fp : List Char} {results : List Result}
    (row : (db.tests.lookup fp).map TestRow.summary = summaryOf results) (now : Nat) :
    ((db.arrive (.cleanup now)).tests.lookup fp).map TestRow.summary =
      summaryOf (remember fp results (.cleanup now)) := by
  rw [ReportsDb.arrive, Table.lookup_keep]
  cases found : db.tests.lookup fp with
  | none =>
      rw [found] at row
      have empty : results.getLast? = none := Option.map_eq_none_iff.mp row.symm
      rw [remember, empty]
      rfl
  | some test =>
      rw [found, Option.map_some] at row
      obtain ⟨last, isLast, same⟩ := Option.map_eq_some_iff.mp row.symm
      have tested : last.at_ = test.testedAt := congrArg (fun all => all.2.1) same
      rw [remember, isLast, Option.filter_some]
      dsimp only
      by_cases fresh : (now : Int) - 30 * msPerDay ≤ test.testedAt
      · rw [if_pos (decide_eq_true fresh), if_pos (tested ▸ fresh), Option.map_some, row]
      · rw [if_neg (mt of_decide_eq_true fresh), if_neg (tested ▸ fresh)]
        rfl

theorem summary_arrive {db : ReportsDb} {fp : List Char} {results : List Result}
    (row : (db.tests.lookup fp).map TestRow.summary = summaryOf results) (arrival : Arrival) :
    ((db.arrive arrival).tests.lookup fp).map TestRow.summary =
      summaryOf (remember fp results arrival) := by
  cases arrival with
  | cleanup now => exact summary_cleanup row now
  | report now r isOwner =>
      rw [ReportsDb.arrive, remember, resultOf]
      by_cases test : isTest r isOwner = true
      · rw [if_pos test]
        by_cases own : r.node = fp
        · subst own
          rw [if_pos ⟨test, rfl⟩]
          exact summary_upsertTest row now
        · rw [if_neg fun both => own both.2, lookup_upsertTest_ne own, Option.toList_none,
            List.append_nil]
          exact row
      · rw [if_neg test, if_neg fun both => test both.1, tests_count, Option.toList_none,
          List.append_nil]
        exact row

/-- The row of a config is the summary of all its results since the cleanup forgot it. -/
theorem summary_replay (fp : List Char) (arrivals : List Arrival) :
    ((replay arrivals).tests.lookup fp).map TestRow.summary =
      summaryOf (remembered fp arrivals) := by
  induction arrivals using List.reverseRecOn with
  | nil => rfl
  | append_singleton arrivals arrival ih =>
      rw [replay_concat, remembered_concat]
      exact summary_arrive ih arrival

end Streaks

section Users

/-- Users have reported on the day that the node has worked. -/
def ReportsDb.Worked (db : ReportsDb) (node : List Char) (day : Nat) : Prop :=
  ∃ key row, db.reports.lookup key = some row ∧ key.node = node ∧ key.day = day ∧ 0 < row.ok

variable {db : ReportsDb} {fp : List Char} {day : Nat}

theorem not_worked_empty : ¬ReportsDb.empty.Worked fp day := by
  rintro ⟨key, row, found, -, -, -⟩
  rw [ReportsDb.empty, AList.lookup_empty] at found
  cases found

theorem worked_upsertReport (r : Report) (now : Nat) (node net : List Char) :
    (db.upsertReport r now node net).Worked fp day ↔
      db.Worked fp day ∨ node = fp ∧ r.ok = true ∧ dayOf now = day := by
  unfold ReportsDb.Worked
  simp only [ReportsDb.upsertReport, Table.lookup_insert]
  constructor
  · rintro ⟨key, row, found, rfl, rfl, worked⟩
    split at found
    · rename_i here
      cases passed : r.ok with
      | true =>
          right
          exact ⟨congrArg ReportKey.node here.symm, rfl, congrArg ReportKey.day here.symm⟩
      | false =>
          left
          rw [Option.some_inj] at found
          cases old : db.reports.lookup key with
          | none =>
              rw [← here, old, passed] at found
              subst found
              exact absurd worked (Nat.lt_irrefl 0)
          | some row' =>
              rw [← here, old, passed] at found
              subst found
              exact ⟨key, row', old, rfl, rfl, worked⟩
    · exact Or.inl ⟨key, row, found, rfl, rfl, worked⟩
  · rintro (⟨key, row, found, rfl, rfl, worked⟩ | ⟨rfl, passed, rfl⟩)
    · by_cases here : key = ⟨dayOf now, node, r.app, net⟩
      · refine ⟨key, _, if_pos here, rfl, rfl, ?_⟩
        rw [← here, found]
        exact Nat.lt_of_lt_of_le worked (Nat.le_add_right _ _)
      · exact ⟨key, row, (if_neg here).trans found, rfl, rfl, worked⟩
    · refine ⟨_, _, if_pos rfl, rfl, rfl, ?_⟩
      rw [passed]
      split
      · exact Nat.one_pos
      · exact Nat.succ_pos _

theorem worked_keep {cleaned : ReportsDb} {oldest : Nat} (kept : oldest ≤ day)
    (same : cleaned.reports = Table.keep (fun key _ => decide (oldest ≤ key.day)) db.reports) :
    cleaned.Worked fp day ↔ db.Worked fp day := by
  unfold ReportsDb.Worked
  simp only [same, Table.lookup_keep_eq_some_iff, decide_eq_true_eq]
  constructor
  · rintro ⟨key, row, ⟨found, -⟩, rest⟩
    exact ⟨key, row, found, rest⟩
  · rintro ⟨key, row, found, node, rfl, worked⟩
    exact ⟨key, row, ⟨found, kept⟩, node, rfl, worked⟩

/-- A fingerprint is hexadecimal, the node of a mode is not. -/
theorem modeNode_ne_fingerprintOf (mode core : List Char) : modeNode mode ≠ fingerprintOf core := by
  intro same
  have member : 'm' ∈ fingerprintOf core := same ▸ List.mem_cons_self
  obtain ⟨digit, small, letter⟩ := Sha256.mem_hexText member
  have hexadecimal : ∀ digit < 16, 'm' ≠ Nat.digitChar digit := by decide
  exact hexadecimal digit small letter

theorem worked_count (r : Report) (now : Nat) (node : ∀ mode, modeNode mode ≠ fp) :
    (db.count r now).Worked fp day ↔
      db.Worked fp day ∨ r.node = fp ∧ r.ok = true ∧ dayOf now = day := by
  have own : (db.upsertReport r now r.node (netKey r)).Worked fp day ↔
      db.Worked fp day ∨ r.node = fp ∧ r.ok = true ∧ dayOf now = day :=
    worked_upsertReport r now r.node (netKey r)
  unfold ReportsDb.count
  cases r.mode with
  | none => exact own
  | some mode =>
      dsimp only
      split
      · exact own
      · rw [worked_upsertReport, own, or_iff_left fun wrong => node mode wrong.1]

theorem daysBefore_mono {days fewer past now : Nat} (le : fewer ≤ days) (before : past ≤ now) :
    daysBefore days past ≤ daysBefore fewer now :=
  Nat.div_le_div_right (tsub_le_tsub before (Nat.mul_le_mul_right _ le))

theorem worked_arrive {arrival : Arrival} {now : Nat} (node : ∀ mode, modeNode mode ≠ fp)
    (past : arrival.now ≤ now) (recent : daysBefore 1 now ≤ day) :
    (db.arrive arrival).Worked fp day ↔
      db.Worked fp day ∨ arrival.isSuccess fp = true ∧ dayOf arrival.now = day := by
  cases arrival with
  | cleanup at_ =>
      have kept := Nat.le_trans (daysBefore_mono (by decide : 1 ≤ 30) past) recent
      rw [worked_keep kept rfl, or_iff_left fun wrong => Bool.false_ne_true wrong.1]
  | report at_ r isOwner =>
      rw [ReportsDb.arrive, Arrival.isSuccess]
      cases test : isTest r isOwner with
      | true =>
          rw [if_pos rfl, Bool.not_true, Bool.false_and, Bool.false_and,
            or_iff_left fun wrong => Bool.false_ne_true wrong.1]
          rfl
      | false =>
          rw [if_neg Bool.false_ne_true, worked_count r at_ node, Bool.not_false, Bool.true_and,
            Bool.and_eq_true, beq_iff_eq, and_assoc]
          rfl

/-- On a recent day a config has worked where a user has reported so, as no cleanup has come that
far. -/
theorem worked_replay {arrivals : List Arrival} {now : Nat} (node : ∀ mode, modeNode mode ≠ fp)
    (past : ∀ arrival ∈ arrivals, arrival.now ≤ now) (recent : daysBefore 1 now ≤ day) :
    (replay arrivals).Worked fp day ↔
      ∃ arrival ∈ arrivals, arrival.isSuccess fp = true ∧ dayOf arrival.now = day := by
  induction arrivals using List.reverseRecOn with
  | nil =>
      refine iff_of_false not_worked_empty ?_
      rintro ⟨_, member, -⟩
      exact List.not_mem_nil member
  | append_singleton arrivals arrival ih =>
      have latest := past arrival (List.mem_append_right _ List.mem_cons_self)
      rw [replay_concat, worked_arrive node latest recent,
        ih fun earlier member => past earlier (List.mem_append_left _ member)]
      simp only [List.mem_append, List.mem_singleton, or_and_right, exists_or, exists_eq_left]

theorem mem_rows_iff (db : ReportsDb) (node : List Char) (now : Nat)
    (entry : Sigma fun _ : ReportKey => ReportRow) :
    entry ∈ db.rows now node ↔
      db.reports.lookup entry.1 = some entry.2 ∧ entry.1.node = node ∧
        daysBefore 6 now ≤ entry.1.day := by
  rw [ReportsDb.rows, List.mem_filter, ← Table.mem_entries_iff, Bool.and_eq_true, beq_iff_eq,
    decide_eq_true_eq]

/-- The sum over the last two days is positive where a row of theirs counts a success. -/
theorem recentOk_pos_iff (db : ReportsDb) (node : List Char) (now : Nat) :
    0 < ((db.userSums now node).map UserSums.recentOk).getD 0 ↔
      ∃ day, daysBefore 1 now ≤ day ∧ db.Worked node day := by
  have summed : ((db.userSums now node).map UserSums.recentOk).getD 0 =
      ((db.rows now node).map fun entry =>
        if daysBefore 1 now ≤ entry.1.day then entry.2.ok else 0).sum := by
    rw [ReportsDb.userSums]
    split
    · rename_i none_there
      rw [none_there]
      rfl
    · rfl
  rw [summed, List.sum_pos_iff_exists_pos_nat]
  constructor
  · rintro ⟨value, member, positive⟩
    obtain ⟨entry, there, rfl⟩ := List.mem_map.mp member
    obtain ⟨found, own, -⟩ := (mem_rows_iff db node now entry).mp there
    split at positive
    · rename_i recent
      exact ⟨entry.1.day, recent, entry.1, entry.2, found, own, rfl, positive⟩
    · exact absurd positive (Nat.lt_irrefl 0)
  · rintro ⟨day, recent, key, row, found, own, rfl, worked⟩
    have within := Nat.le_trans (daysBefore_mono (by decide : 1 ≤ 6) (Nat.le_refl now)) recent
    refine ⟨row.ok, List.mem_map.mpr ⟨⟨key, row⟩, ?_, if_pos recent⟩, worked⟩
    exact (mem_rows_iff db node now _).mpr ⟨found, own, within⟩

end Users

section Hidden

/-- The last result and the streak decide, and a success of a user in the last two days. -/
theorem ownerHidden_eq_true_iff (entry : OwnerEntry) (st : OwnerStatus) :
    ownerHidden entry st = true ↔
      entry.alwaysShow = false ∧
        (∃ row, st.tests.lookup entry.fp = some row ∧ row.ok = false ∧
          ownerFailRuns ≤ row.failStreak) ∧
        ¬0 < ((st.users entry.fp).map UserSums.recentOk).getD 0 := by
  unfold ownerHidden
  cases entry.alwaysShow with
  | true => simp
  | false =>
      cases st.tests.lookup entry.fp with
      | none => simp
      | some row => cases passed : row.ok <;> simp [passed]

theorem row_of_summary {found : Option TestRow} {results : List Result}
    (same : found.map TestRow.summary = summaryOf results) :
    (∃ row, found = some row ∧ row.ok = false ∧ ownerFailRuns ≤ row.failStreak) ↔
      (∃ last, results.getLast? = some last ∧ last.ok = false) ∧
        ownerFailRuns ≤ failRuns results := by
  rw [summaryOf] at same
  cases isLast : results.getLast? with
  | none =>
      rw [isLast, Option.map_none, Option.map_eq_none_iff] at same
      subst same
      simp
  | some last =>
      rw [isLast, Option.map_some, Option.map_eq_some_iff] at same
      obtain ⟨row, rfl, summary⟩ := same
      simp only [TestRow.summary, Prod.mk.injEq] at summary
      simp [summary.1, summary.2.2]

/-- After any results and reports: the streak of a config is that of the failures at the end of its
results, which are all its results unless the cleanup has forgotten some, and a config is hidden
just where the owner does not always show it, its last result has failed, the failures have come
in enough runs, and no user has had a success since yesterday. -/
theorem ownerHidden_iff (arrivals : List Arrival) {now : Nat}
    (past : ∀ arrival ∈ arrivals, arrival.now ≤ now) (fp : List Char) (entry : OwnerEntry) :
    ((replay arrivals).tests.lookup fp).map TestRow.failStreak =
        (remembered fp arrivals).getLast?.map (fun _ => failRuns (remembered fp arrivals)) ∧
      ((∀ at_, Arrival.cleanup at_ ∉ arrivals) →
        remembered fp arrivals = resultsOf fp arrivals) ∧
      (ownerHidden entry ((replay arrivals).ownerStatus now) = true ↔
        entry.alwaysShow = false ∧
          (∃ last, (remembered entry.fp arrivals).getLast? = some last ∧ last.ok = false) ∧
          ownerFailRuns ≤ failRuns (remembered entry.fp arrivals) ∧
          ¬∃ arrival ∈ arrivals,
            arrival.isSuccess entry.fp = true ∧ daysBefore 1 now ≤ dayOf arrival.now) := by
  refine ⟨?_, remembered_eq_resultsOf, ?_⟩
  · have streaks := congrArg (Option.map fun all => all.2.2) (summary_replay fp arrivals)
    rw [summaryOf, Option.map_map, Option.map_map] at streaks
    exact streaks
  · have node : ∀ mode, modeNode mode ≠ entry.fp := fun mode =>
      entry.own ▸ modeNode_ne_fingerprintOf mode _
    have recent : (∃ day, daysBefore 1 now ≤ day ∧ (replay arrivals).Worked entry.fp day) ↔
        ∃ arrival ∈ arrivals,
          arrival.isSuccess entry.fp = true ∧ daysBefore 1 now ≤ dayOf arrival.now := by
      constructor
      · rintro ⟨day, late, worked⟩
        obtain ⟨arrival, member, success, rfl⟩ := (worked_replay node past late).mp worked
        exact ⟨arrival, member, success, late⟩
      · rintro ⟨arrival, member, success, late⟩
        exact ⟨_, late, (worked_replay node past late).mpr ⟨arrival, member, success, rfl⟩⟩
    rw [ownerHidden_eq_true_iff, ReportsDb.ownerStatus,
      row_of_summary (summary_replay entry.fp arrivals), recentOk_pos_iff, recent, and_assoc]

def testOf (fp : List Char) (ok : Bool) : Report :=
  ⟨fp, ok, none, "windows".toList, "wifi".toList, none, none, true, "local-iran-test".toList⟩

def onlyEntry : OwnerEntry where
  line := "vless://a".toList
  fp := fingerprintOf (lineCore "vless://a".toList)
  alwaysShow := false
  own := rfl

theorem ownerHidden_iff_twice :
    ownerHidden onlyEntry ((replay [.report 0 (testOf onlyEntry.fp false) true,
      .report 600000 (testOf onlyEntry.fp false) true]).ownerStatus 600000) = true := by
  have results : remembered onlyEntry.fp [.report 0 (testOf onlyEntry.fp false) true,
      .report 600000 (testOf onlyEntry.fp false) true] = [⟨false, 0⟩, ⟨false, 600000⟩] := by
    simp [remembered, remember, resultOf, isTest, testOf]
  apply (ownerHidden_iff _ ?_ onlyEntry.fp onlyEntry).2.2.mpr
  · rw [results]
    exact ⟨rfl, ⟨⟨false, 600000⟩, rfl, rfl⟩, by decide,
      by simp [Arrival.isSuccess, isTest, testOf]⟩
  · simp [Arrival.now]

end Hidden

end MolidoVpn.Worker
