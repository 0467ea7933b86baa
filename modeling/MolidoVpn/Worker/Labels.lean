import MolidoVpn.Worker.Brand

/-!
The labels that `brand` gives out: a flag, the name of the app, a number and a tier. The numbers
under one flag and tier go up from line to line, so no label is given twice.
-/

namespace MolidoVpn.Worker

open JavaScript (JsonText padStart)

section Label

variable (json : JsonText)

/-- A line that is left as it is. -/
def Exempt (line : List Char) : Prop :=
  (includes "://".toList (coreOf line) = false ∨ "warp://".toList.isPrefixOf (coreOf line) = true) ∨
    edgeName.isPrefixOf (nameOf line) = true

instance (line : List Char) : Decidable (Exempt line) := by
  unfold Exempt
  infer_instance

def IsVmess (line : List Char) : Prop := "vmess://".toList.isPrefixOf (coreOf line) = true

instance (line : List Char) : Decidable (IsVmess line) := by
  unfold IsVmess
  infer_instance

def shownFlag (line : List Char) : List Char :=
  ((flagOf (nameOf line)).or
    (if "vmess://".toList.isPrefixOf (coreOf line) then payloadFlag json (coreOf line)
      else none)).getD globe

def labelTier (vip : Option (List (List Char))) (line : List Char) : List Char :=
  if vip.any fun seen => seen.contains (lineCore line) then " VIP".toList else []

def labelText (flag tier : List Char) (n : Nat) : List Char :=
  flag ++ " MolidoVPN ".toList ++ padStart 2 '0' (Text.decimal n) ++ tier

theorem shownFlag_bare {line : List Char} (vmess : IsVmess line) (bare : nameOf line = []) :
    shownFlag json line = (payloadFlag json (coreOf line)).getD globe := by
  have start : "vmess://".toList.isPrefixOf (coreOf line) = true := vmess
  rw [shownFlag, bare, if_pos start]
  rfl

/-- How many labels there are under the flag and tier. -/
def taken (counters : Counters) (key : List Char) : Nat := (counters.lookup key).getD 0

/-- The label of a line among the counters that it finds, if it is not exempt. -/
def labelWith (vip : Option (List (List Char))) (counters : Counters) (line : List Char) :
    List Char :=
  labelText (shownFlag json line) (labelTier vip line)
    (taken counters (shownFlag json line ++ labelTier vip line) + 1)

/-- A label is the next one under the flag and the tier of the line. -/
theorem labelOf_eq (vip : Option (List (List Char))) (counters : Counters) (line : List Char) :
    labelOf json vip counters line =
      if Exempt line then none
      else
        let key := shownFlag json line ++ labelTier vip line
        some (labelWith json vip counters line, counters.insert key (taken counters key + 1)) := by
  unfold labelOf
  dsimp only
  split
  · rename_i bare
    have exempt : Exempt line := .inl bare
    rw [if_pos exempt]
  · rename_i linked
    split
    · rename_i edge
      have exempt : Exempt line := .inr edge
      rw [if_pos exempt]
    · rename_i own
      have branded : ¬Exempt line := fun either => either.elim linked own
      rw [if_neg branded]
      rfl

end Label

section Texts

variable {text flag tier flag' tier' : List Char} {n m : Nat}

theorem flagOf_some (found : flagOf text = some flag) :
    ∃ a b, flag = [a, b] ∧ a ∈ text ∧ isRegionalIndicator a = true ∧
      isRegionalIndicator b = true := by
  induction text using flagOf.induct with
  | case1 a b rest both =>
      rw [flagOf, if_pos both] at found
      obtain ⟨one, two⟩ := Bool.and_eq_true_iff.mp both
      exact ⟨a, b, (Option.some.inj found).symm, List.mem_cons_self, one, two⟩
  | case2 a b rest neither ih =>
      rw [flagOf, if_neg neither] at found
      obtain ⟨one, two, same, member, both⟩ := ih found
      exact ⟨one, two, same, List.mem_cons_of_mem a member, both⟩
  | case3 text short =>
      rw [flagOf] at found
      · cases found
      · exact short

theorem flag_ne_globe (found : flagOf text = some flag) : flag ≠ globe := by
  obtain ⟨a, b, rfl, -⟩ := flagOf_some found
  intro same
  have lengths : 2 = 1 := congrArg List.length same
  cases lengths

theorem flagOf_clear (clear : ∀ c ∈ text, isRegionalIndicator c = false) : flagOf text = none := by
  cases found : flagOf text with
  | none => rfl
  | some flag =>
      obtain ⟨a, b, -, member, one, -⟩ := flagOf_some found
      rw [clear a member] at one
      cases one

/-- A flag as it stands in a label: two regional indicators, or the globe. -/
def IsFlag (flag : List Char) : Prop := (∃ text, flagOf text = some flag) ∨ flag = globe

theorem isFlag_shownFlag (json : JsonText) (line : List Char) : IsFlag (shownFlag json line) := by
  rw [shownFlag]
  cases own : flagOf (nameOf line) with
  | some flag => exact .inl ⟨_, own⟩
  | none =>
      rw [Option.none_or]
      split
      · rw [payloadFlag]
        split
        · rename_i name _
          cases inside : flagOf name with
          | some flag => exact .inl ⟨name, inside⟩
          | none => exact .inr rfl
        · exact .inr rfl
      · exact .inr rfl

private theorem IsFlag.clear (isFlag : IsFlag flag) : ' ' ∉ flag := by
  rcases isFlag with ⟨text, found⟩ | rfl
  · obtain ⟨a, b, rfl, -, one, two⟩ := flagOf_some found
    intro member
    rcases List.mem_cons.mp member with rfl | member
    · exact absurd one (by decide)
    · rw [← List.mem_singleton.mp member] at two
      exact absurd two (by decide)
  · decide

private theorem labelText_eq (flag tier : List Char) (n : Nat) :
    labelText flag tier n =
      flag ++ ' ' :: ("MolidoVPN ".toList ++ (padStart 2 '0' (Text.decimal n) ++ tier)) := by
  rw [labelText, List.append_assoc, List.append_assoc]
  rfl

private theorem isDigit_of_mem_padStart {c : Char}
    (member : c ∈ padStart 2 '0' (Text.decimal n)) : c.isDigit = true := by
  rw [padStart] at member
  rcases List.mem_append.mp member with zero | digit
  · rw [List.eq_of_mem_replicate zero]
    rfl
  · exact Text.decimal_isDigit digit

private theorem digit_toNat {c : Char} (digit : c.isDigit = true) : c.toNat ≤ 57 := by
  rw [Char.isDigit, Bool.and_eq_true, decide_eq_true_eq, decide_eq_true_eq] at digit
  exact UInt32.le_iff_toNat_le.mp digit.2

private theorem space_notMem_padStart : ' ' ∉ padStart 2 '0' (Text.decimal n) := by
  intro member
  exact absurd (isDigit_of_mem_padStart member) (by decide)

/-- Zeros in front of it leave a number what it is. -/
private theorem padStart_inj
    (same : padStart 2 '0' (Text.decimal n) = padStart 2 '0' (Text.decimal m)) : n = m := by
  have value (number : Nat) :
      Nat.ofDigitChars 10 (padStart 2 '0' (Text.decimal number)) 0 = number := by
    have zeros (count : Nat) : Nat.ofDigitChars 10 (List.replicate count '0') 0 = 0 := by
      induction count with
      | zero => rfl
      | succ count ih => exact ih
    rw [padStart, Nat.ofDigitChars_append, zeros]
    exact Nat.ofDigitChars_ten_toDigits
  rw [← value n, same, value m]

/-- A label tells its flag, its tier and its number. -/
theorem labelText_inj (isFlag : IsFlag flag) (isFlag' : IsFlag flag')
    (known : tier = [] ∨ tier = " VIP".toList) (known' : tier' = [] ∨ tier' = " VIP".toList)
    (same : labelText flag tier n = labelText flag' tier' m) :
    flag = flag' ∧ tier = tier' ∧ n = m := by
  rw [labelText_eq, labelText_eq] at same
  obtain ⟨flags, behind⟩ := Text.append_cons_inj isFlag.clear isFlag'.clear same
  rw [List.append_cancel_left_eq] at behind
  have spaced {digits : Nat} : ' ' ∈ padStart 2 '0' (Text.decimal digits) ++ " VIP".toList :=
    List.mem_append_right _ (by decide)
  have plain {digits : Nat} : ' ' ∉ padStart 2 '0' (Text.decimal digits) ++ [] := by
    rw [List.append_nil]
    exact space_notMem_padStart
  rcases known with rfl | rfl <;> rcases known' with rfl | rfl
  · exact ⟨flags, rfl, padStart_inj (List.append_cancel_right behind)⟩
  · exact absurd spaced (by rw [← behind]; exact plain)
  · exact absurd spaced (by rw [behind]; exact plain)
  · exact ⟨flags, rfl, padStart_inj (List.append_cancel_right behind)⟩

/-- The first flag of a label is the one that it begins with, which the globe is not. -/
theorem flagOf_labelText_iff (isFlag : IsFlag flag) (known : tier = [] ∨ tier = " VIP".toList)
    {shown : List Char} :
    flagOf (labelText flag tier n) = some shown ↔ flag = shown ∧ flag ≠ globe := by
  rcases isFlag with ⟨text, found⟩ | rfl
  · have other := flag_ne_globe found
    obtain ⟨a, b, rfl, -, one, two⟩ := flagOf_some found
    have first : flagOf (labelText [a, b] tier n) = some [a, b] := by
      rw [labelText_eq, List.cons_append, List.cons_append, flagOf,
        if_pos (by rw [one, two]; rfl)]
    rw [first, Option.some.injEq]
    exact ⟨fun same => ⟨same, other⟩, And.left⟩
  · have none_ : flagOf (labelText globe tier n) = none := by
      apply flagOf_clear
      rw [labelText_eq]
      have plain {text : List Char} (all : (text.all fun c => !isRegionalIndicator c) = true)
          {c : Char} (member : c ∈ text) : isRegionalIndicator c = false :=
        (Bool.not_eq_true' _).mp (List.all_eq_true.mp all c member)
      simp only [List.mem_append, List.mem_cons]
      rintro c (icon | rfl | name | digit | mark)
      · exact plain (by decide) icon
      · rfl
      · exact plain (by decide) name
      · have small := digit_toNat (isDigit_of_mem_padStart digit)
        rw [isRegionalIndicator, decide_eq_false (by omega)]
        rfl
      · rcases known with rfl | rfl
        · exact absurd mark List.not_mem_nil
        · exact plain (by decide) mark
    rw [none_]
    exact iff_of_false (fun same => by cases same) fun both => both.2 rfl

theorem labelTier_known (vip : Option (List (List Char))) (line : List Char) :
    labelTier vip line = [] ∨ labelTier vip line = " VIP".toList := by
  rw [labelTier]
  split
  · exact .inr rfl
  · exact .inl rfl

end Texts

section Run

variable (json : JsonText) (listed : Listed)

theorem brandLine_counters (vip : Option (List (List Char))) (counters : Counters)
    (line : List Char) :
    (brandLine json vip counters line).2 =
      if Exempt line then counters
      else
        let key := shownFlag json line ++ labelTier vip line
        counters.insert key (taken counters key + 1) := by
  rw [brandLine, labelOf_eq]
  by_cases exempt : Exempt line
  · rw [if_pos exempt, if_pos exempt]
  · rw [if_neg exempt, if_neg exempt]
    dsimp only
    split <;> rfl

theorem taken_insert (counters : Counters) (key other : List Char) (n : Nat) :
    taken (counters.insert key n) other = if other = key then n else taken counters other := by
  rw [taken, taken]
  by_cases same : other = key
  · rw [if_pos same, same, AList.lookup_insert]
    rfl
  · rw [if_neg same, AList.lookup_insert_ne same]

variable {json listed} {place later : Nat} {line next : List Char}

/-- No line takes a number back. -/
theorem taken_le_brandLine (vip : Option (List (List Char))) (counters : Counters)
    (line key : List Char) :
    taken counters key ≤ taken (brandLine json vip counters line).2 key := by
  rw [brandLine_counters]
  split
  · exact Nat.le_refl _
  · dsimp only
    rw [taken_insert]
    split
    · rename_i same
      rw [same]
      exact Nat.le_succ _
    · exact Nat.le_refl _

theorem countersBefore_succ (stands : listed.lines[place]? = some line) :
    countersBefore json listed (place + 1) =
      (brandLine json listed.vip (countersBefore json listed place) line).2 := by
  rw [countersBefore, countersBefore, List.take_add_one, stands, List.foldl_append]
  rfl

theorem taken_le_countersBefore (ordered : place ≤ later) (key : List Char) :
    taken (countersBefore json listed place) key ≤
      taken (countersBefore json listed later) key := by
  induction later, ordered using Nat.le_induction with
  | base => exact Nat.le_refl _
  | succ later ordered ih =>
      refine Nat.le_trans ih ?_
      cases stands : listed.lines[later]? with
      | none =>
          have same : listed.lines.take (later + 1) = listed.lines.take later := by
            rw [List.take_add_one, stands]
            exact List.append_nil _
          rw [countersBefore, countersBefore, same]
      | some line =>
          rw [countersBefore_succ stands]
          exact taken_le_brandLine _ _ line key

/-- Of two lines the one that stands later has another label. -/
theorem labelWith_ne (stands : listed.lines[place]? = some line) (branded : ¬Exempt line)
    (ordered : place < later) :
    labelWith json listed.vip (countersBefore json listed place) line ≠
      labelWith json listed.vip (countersBefore json listed later) next := by
  intro same
  obtain ⟨flags, tiers, numbers⟩ := labelText_inj (isFlag_shownFlag json line)
    (isFlag_shownFlag json next) (labelTier_known listed.vip line)
    (labelTier_known listed.vip next) same
  have after : taken (countersBefore json listed (place + 1))
        (shownFlag json next ++ labelTier listed.vip next) ≤
      taken (countersBefore json listed later)
        (shownFlag json next ++ labelTier listed.vip next) :=
    taken_le_countersBefore ordered _
  rw [countersBefore_succ stands, brandLine_counters, if_neg branded] at after
  dsimp only at after
  rw [taken_insert, flags, tiers, if_pos rfl] at after
  rw [flags, tiers] at numbers
  omega

end Run

end MolidoVpn.Worker
