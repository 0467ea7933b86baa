import Mathlib.Data.List.DropRight

/-!
The failures at the end of a list of records, and in how many bursts they came: neighbours that
are less than a gap apart belong to one burst.
-/

namespace MolidoVpn.Streak

universe u

variable {Record : Type u} (fails : Record → Bool) (time : Record → Nat) (gap : Nat)

/-- The longest suffix of failures, oldest first. -/
def failures (records : List Record) : List Record := records.rtakeWhile fails

def bursts : List Record → Nat
  | [] => 0
  | [_] => 1
  | first :: second :: rest =>
      bursts (second :: rest) + if time second < time first + gap then 0 else 1

/-- The bursts of the failures at the end. -/
def streak (records : List Record) : Nat := bursts time gap (failures fails records)

variable {fails time gap}

@[simp]
theorem failures_nil : failures fails [] = [] := rfl

theorem failures_concat_fails {record : Record} (failed : fails record = true)
    (records : List Record) :
    failures fails (records ++ [record]) = failures fails records ++ [record] :=
  List.rtakeWhile_concat_pos _ _ _ failed

theorem failures_concat_passes {record : Record} (passed : fails record = false)
    (records : List Record) : failures fails (records ++ [record]) = [] :=
  List.rtakeWhile_concat_neg _ _ _ (by rw [passed]; exact Bool.false_ne_true)

theorem bursts_concat (records : List Record) (last record : Record) :
    bursts time gap (records ++ [last] ++ [record]) =
      bursts time gap (records ++ [last]) + if time record < time last + gap then 0 else 1 := by
  induction records with
  | nil =>
      simp only [List.nil_append, List.cons_append, bursts]
  | cons first rest ih =>
      cases rest with
      | nil =>
          simp only [List.nil_append, List.cons_append, bursts] at ih ⊢
          omega
      | cons second rest =>
          simp only [List.cons_append, bursts] at ih ⊢
          omega

/-- A record that passes ends the failures before it. -/
theorem streak_concat_passes {record : Record} (passed : fails record = false)
    (records : List Record) : streak fails time gap (records ++ [record]) = 0 := by
  rw [streak, failures_concat_passes passed]
  rfl

theorem streak_singleton {record : Record} (failed : fails record = true) :
    streak fails time gap [record] = 1 := by
  rw [streak, ← List.nil_append [record], failures_concat_fails failed]
  rfl

/-- A failure behind a record that passes is a burst of its own. -/
theorem streak_concat_first {last record : Record} (passed : fails last = false)
    (failed : fails record = true) (records : List Record) :
    streak fails time gap (records ++ [last] ++ [record]) = 1 := by
  rw [streak, failures_concat_fails failed, failures_concat_passes passed]
  rfl

/-- A failure behind a failure begins a burst only where the gap has passed. -/
theorem streak_concat_next {last record : Record} (failing : fails last = true)
    (failed : fails record = true) (records : List Record) :
    streak fails time gap (records ++ [last] ++ [record]) =
      streak fails time gap (records ++ [last]) +
        if time record < time last + gap then 0 else 1 := by
  rw [streak, streak, failures_concat_fails failed, failures_concat_fails failing, bursts_concat]

end MolidoVpn.Streak
