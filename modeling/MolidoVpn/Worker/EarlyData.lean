import MolidoVpn.Lib.Kotlin

/-!
The path of a transport with the number of bytes of early data in its query: what the pattern
of `singboxOutbound` takes out of it, and the path without that parameter. The two are the same
where the pattern finds the parameter of a query, and the sign next to it is the one to go.
-/

namespace MolidoVpn.Worker

open Text (splitAround)

section Pattern

/-- `text || other` -/
def orText (text other : List Char) : List Char := if text = [] then other else text

/-- The first match of `/[?&]ed=(\d+)/`: what is before it, its first character, its digits, and
what is behind it. -/
def edMatch : List Char → Option (List Char × Char × List Char × List Char)
  | [] => none
  | c :: rest =>
      let digits := (rest.drop 3).takeWhile Char.isDigit
      if (c = '?' ∨ c = '&') ∧ "ed=".toList.isPrefixOf rest ∧ digits ≠ [] then
        some ([], c, digits, (rest.drop 3).dropWhile Char.isDigit)
      else (edMatch rest).map fun found => (c :: found.1, found.2)

/-- `replace(/\?$/, '')` -/
def dropQuestion (text : List Char) : List Char :=
  if text.getLast? = some '?' then text.dropLast else text

/-- The path of a `ws` transport. -/
def wsPath (path : List Char) : List Char :=
  match edMatch path with
  | none => path
  | some (front, _, _, rest) => orText (dropQuestion (front ++ rest)) ['/']

end Pattern

section Query

def isEdParam (param : List Char) : Bool :=
  "ed=".toList.isPrefixOf param && !(param.drop 3).isEmpty && (param.drop 3).all Char.isDigit

/-- The parameters of the query of a path. -/
def params (path : List Char) : List (List Char) :=
  ((splitAround ['?'] path).map fun parts => parts.2.splitOn '&').getD []

/-- The path without the first such parameter of its query, and without the question mark where
there is no other. -/
def withoutEd (path : List Char) : List Char :=
  match splitAround ['?'] path with
  | none => path
  | some (front, query) =>
      let kept := (query.splitOn '&').eraseP isEdParam
      if kept = [] then front else front ++ '?' :: ['&'].intercalate kept

/-- What the pattern matches is the whole query, or a parameter that another one goes before,
and no question mark is left at the end. -/
def EdApart (path : List Char) : Prop :=
  match edMatch path with
  | none => True
  | some (front, sep, _, rest) =>
      if sep = '?' then '?' ∉ front ∧ rest = []
      else '?' ∈ front ∧ (rest = [] ∨ rest.head? = some '&') ∧ (front ++ rest).getLast? ≠ some '?'

instance (path : List Char) : Decidable (EdApart path) := by
  unfold EdApart
  split <;> infer_instance

end Query

section Found

variable {path front digits rest param : List Char} {sep : Char}

private theorem drop_ed (text : List Char) : ("ed=".toList ++ text).drop 3 = text := rfl

theorem isEdParam_iff : isEdParam param = true ↔
    ∃ digits, param = "ed=".toList ++ digits ∧ digits ≠ [] ∧ ∀ c ∈ digits, c.isDigit = true := by
  rw [isEdParam, Bool.and_eq_true, Bool.and_eq_true, List.isPrefixOf_iff_prefix, List.all_eq_true]
  constructor
  · rintro ⟨⟨⟨digits, rfl⟩, some_⟩, numeric⟩
    rw [drop_ed] at some_ numeric
    refine ⟨digits, rfl, ?_, numeric⟩
    rintro rfl
    exact absurd some_ (by decide)
  · rintro ⟨digits, rfl, some_, numeric⟩
    rw [drop_ed]
    refine ⟨⟨List.prefix_append _ _, ?_⟩, numeric⟩
    rw [Bool.not_eq_true', List.isEmpty_eq_false_iff]
    exact some_

theorem notMem_of_isEdParam (is : isEdParam param = true) {c : Char}
    (other : c ∉ "ed=".toList) (sign : c.isDigit = false) : c ∉ param := by
  obtain ⟨digits, rfl, -, numeric⟩ := isEdParam_iff.mp is
  intro member
  rcases List.mem_append.mp member with letter | digit
  · exact other letter
  · exact ne_true_of_eq_false sign (numeric c digit)

/-- A parameter holds no ampersand, so it is the only piece of itself. -/
private theorem splitOn_param (is : isEdParam param = true) : param.splitOn '&' = [param] :=
  List.splitOn_eq_singleton (notMem_of_isEdParam is (by decide) rfl)

private theorem eq_nil_of_isEdParam (is : isEdParam param = true)
    (longer : isEdParam (param ++ rest) = true)
    (stop : ∀ c, rest.head? = some c → c.isDigit = false) : rest = [] := by
  obtain ⟨digits, rfl, -, -⟩ := isEdParam_iff.mp is
  obtain ⟨more, same, -, numeric⟩ := isEdParam_iff.mp longer
  rw [List.append_assoc, List.append_cancel_left_eq] at same
  cases rest with
  | nil => rfl
  | cons c rest =>
      have digit := numeric c (by rw [← same]; exact List.mem_append_right _ List.mem_cons_self)
      rw [stop c rfl] at digit
      cases digit

/-- What a match says about the path. -/
theorem edMatch_some (found : edMatch path = some (front, sep, digits, rest)) :
    path = front ++ sep :: (("ed=".toList ++ digits) ++ rest) ∧ (sep = '?' ∨ sep = '&') ∧
      isEdParam ("ed=".toList ++ digits) = true ∧ ∀ c, rest.head? = some c → c.isDigit = false := by
  induction path generalizing front with
  | nil => cases found
  | cons c path ih =>
      rw [edMatch] at found
      split at found
      · rename_i here
        obtain ⟨sign, start, some_⟩ := here
        cases found
        rw [List.isPrefixOf_iff_prefix] at start
        obtain ⟨behind, rfl⟩ := start
        rw [drop_ed] at some_ ⊢
        refine ⟨?_, sign, ?_, ?_⟩
        · rw [List.nil_append, List.append_assoc, List.takeWhile_append_dropWhile]
        · exact isEdParam_iff.mpr ⟨_, rfl, some_, fun c member => List.mem_takeWhile_imp member⟩
        · intro c first
          have stopped := List.head?_dropWhile_not Char.isDigit behind
          rw [first] at stopped
          exact stopped
      · rw [Option.map_eq_some_iff] at found
        obtain ⟨⟨skipped, found⟩, later, same⟩ := found
        cases same
        obtain ⟨whole, sign, is, stop⟩ := ih later
        exact ⟨by rw [whole]; rfl, sign, is, stop⟩

/-- Where a parameter stands the pattern has matched, there or before. -/
theorem edMatch_early (sign : sep = '?' ∨ sep = '&') (is : isEdParam param = true)
    (before after : List Char) :
    ∃ found, edMatch (before ++ sep :: (param ++ after)) = some found ∧
      found.1.length ≤ before.length := by
  induction before with
  | nil =>
      obtain ⟨digits, rfl, some_, numeric⟩ := isEdParam_iff.mp is
      rw [List.nil_append, edMatch, if_pos]
      · exact ⟨_, rfl, Nat.le_refl 0⟩
      refine ⟨sign, ?_, ?_⟩
      · rw [List.append_assoc, List.isPrefixOf_iff_prefix]
        exact List.prefix_append _ _
      · rw [List.append_assoc, drop_ed, List.takeWhile_append_of_pos numeric]
        exact List.append_ne_nil_of_left_ne_nil some_ _
  | cons c before ih =>
      obtain ⟨found, later, early⟩ := ih
      rw [List.cons_append, edMatch]
      split
      · exact ⟨_, rfl, Nat.zero_le _⟩
      · rw [later]
        exact ⟨_, rfl, Nat.succ_le_succ early⟩

end Found

section Removal

variable {path front query first rest param : List Char}

private theorem withoutEd_clear (clear : '?' ∉ path) : withoutEd path = path := by
  rw [withoutEd, Kotlin.splitAround_eq_none clear]

private theorem split_append (clear : '?' ∉ front) (query : List Char) :
    splitAround ['?'] (front ++ '?' :: query) = some (front, query) :=
  Text.splitAround_first clear query

private theorem withoutEd_append (clear : '?' ∉ front) (query : List Char) :
    withoutEd (front ++ '?' :: query) =
      if (query.splitOn '&').eraseP isEdParam = [] then front
      else front ++ '?' :: ['&'].intercalate ((query.splitOn '&').eraseP isEdParam) := by
  rw [withoutEd, split_append clear]

theorem withoutEd_of_none (none_ : ∀ param ∈ params path, isEdParam param = false) :
    withoutEd path = path := by
  by_cases asks : '?' ∈ path
  · obtain ⟨front, query, rfl, clear⟩ := List.eq_append_cons_of_mem asks
    rw [params, split_append clear] at none_
    have kept : (query.splitOn '&').eraseP isEdParam = query.splitOn '&' :=
      List.eraseP_of_forall_not fun param member => ne_true_of_eq_false (none_ param member)
    rw [withoutEd_append clear, kept, if_neg (List.splitOn_ne_nil _ _), List.intercalate_splitOn]
  · exact withoutEd_clear asks

/-- The pattern finds a match in front of the end of a query that holds such a parameter,
whatever follows. -/
theorem edMatch_of_mem (member : param ∈ query.splitOn '&') (is : isEdParam param = true)
    (front more : List Char) :
    ∃ found, edMatch ((front ++ '?' :: query) ++ more) = some found ∧
      found.1.length < (front ++ '?' :: query).length := by
  obtain ⟨before, after, cut⟩ := Text.eq_append_of_mem_splitOn member
  cases before with
  | nil =>
      have same : query = param ++ after := (List.cons.inj cut).2
      obtain ⟨found, here, early⟩ := edMatch_early (.inl rfl) is front (after ++ more)
      refine ⟨found, ?_, ?_⟩
      · rw [same, ← here, List.append_assoc, List.cons_append, List.append_assoc]
      · rw [List.length_append, List.length_cons]
        omega
  | cons c before =>
      have same : query = before ++ '&' :: (param ++ after) := (List.cons.inj cut).2
      obtain ⟨found, here, early⟩ :=
        edMatch_early (.inr rfl) is (front ++ '?' :: before) (after ++ more)
      refine ⟨found, ?_, ?_⟩
      · rw [same, ← here]
        simp only [List.append_assoc, List.cons_append]
      · rw [same]
        simp only [List.length_append, List.length_cons] at early ⊢
        omega

theorem isEdParam_of_edMatch (missing : edMatch path = none) :
    ∀ param ∈ params path, isEdParam param = false := by
  intro param member
  by_cases asks : '?' ∈ path
  · obtain ⟨front, query, rfl, clear⟩ := List.eq_append_cons_of_mem asks
    rw [params, split_append clear] at member
    by_contra is
    obtain ⟨found, here, -⟩ :=
      edMatch_of_mem member (Bool.eq_true_of_not_eq_false is) front []
    rw [List.append_nil, missing] at here
    cases here
  · rw [params, Kotlin.splitAround_eq_none asks] at member
    cases member

/-- A parameter has no question mark, so none is lost with it while another one is left. -/
theorem count_withoutEd (clear : '?' ∉ front)
    (kept : (query.splitOn '&').eraseP isEdParam ≠ []) :
    (withoutEd (front ++ '?' :: query)).count '?' = (front ++ '?' :: query).count '?' := by
  have joined : ('&' :: ['&'].intercalate ((query.splitOn '&').eraseP isEdParam)).count '?' =
      ('&' :: query).count '?' := by
    rw [Text.cons_intercalate '&' kept, Text.cons_eq_flatMap_splitOn '&' query]
    rcases List.exists_or_eq_self_of_eraseP isEdParam (query.splitOn '&') with same |
      ⟨param, before, after, -, is, pieces, erased⟩
    · rw [same]
    · have plain : ('&' :: param).count '?' = 0 := by
        rw [List.count_cons_of_ne (by decide)]
        exact List.count_eq_zero.mpr (notMem_of_isEdParam is (by decide) rfl)
      rw [erased, pieces, List.flatMap_append, List.flatMap_append, List.flatMap_cons,
        List.count_append, List.count_append, List.count_append, plain, Nat.zero_add]
  rw [List.count_cons_of_ne (by decide), List.count_cons_of_ne (by decide)] at joined
  rw [withoutEd_append clear, if_neg kept, List.count_append, List.count_append,
    List.count_cons_self, List.count_cons_self, joined]

theorem substringBefore_withoutEd (path : List Char) :
    Kotlin.substringBefore ['?'] (withoutEd path) = Kotlin.substringBefore ['?'] path := by
  by_cases asks : '?' ∈ path
  · obtain ⟨front, query, rfl, clear⟩ := List.eq_append_cons_of_mem asks
    rw [withoutEd_append clear, Kotlin.substringBefore_append clear]
    split
    · exact Kotlin.substringBefore_of_notMem clear
    · exact Kotlin.substringBefore_append clear _
  · rw [withoutEd_clear asks]

/-- Behind a query without one, the first such parameter is in what follows. -/
theorem withoutEd_behind (clear : '?' ∉ front)
    (earlier : ∀ param ∈ first.splitOn '&', isEdParam param = false) (rest : List Char) :
    withoutEd (front ++ '?' :: (first ++ '&' :: rest)) =
      if (rest.splitOn '&').eraseP isEdParam = [] then front ++ '?' :: first
      else (front ++ '?' :: first) ++
        '&' :: ['&'].intercalate ((rest.splitOn '&').eraseP isEdParam) := by
  have kept : ((first ++ '&' :: rest).splitOn '&').eraseP isEdParam =
      first.splitOn '&' ++ (rest.splitOn '&').eraseP isEdParam := by
    rw [List.splitOn_append_cons_self,
      List.eraseP_append_right _ fun param member => ne_true_of_eq_false (earlier param member)]
  have some_ := List.splitOn_ne_nil '&' first
  rw [withoutEd_append clear, kept, if_neg (List.append_ne_nil_of_left_ne_nil some_ _)]
  split
  · rename_i empty
    rw [empty, List.append_nil, List.intercalate_splitOn]
  · rename_i others
    rw [Text.intercalate_append '&' some_ others, List.intercalate_splitOn, List.append_assoc]
    rfl

end Removal

section Same

variable {path front digits rest param text : List Char} {sep : Char}

private theorem orText_of_ne {other : List Char} (some_ : text ≠ []) : orText text other = text :=
  if_neg some_

private theorem count_slash (text : List Char) :
    (orText text ['/']).count '?' = text.count '?' := by
  rw [orText]
  split
  · rename_i empty
    rw [empty]
    rfl
  · rfl

private theorem count_dropQuestion (text : List Char) :
    (dropQuestion text).count '?' ≤ text.count '?' := by
  rw [dropQuestion]
  split
  · exact (List.dropLast_sublist text).count_le '?'
  · exact Nat.le_refl _

private theorem dropQuestion_of_ne (other : text.getLast? ≠ some '?') : dropQuestion text = text :=
  if_neg other

private theorem dropQuestion_clear (clear : '?' ∉ text) : dropQuestion text = text :=
  dropQuestion_of_ne fun last => clear (List.mem_of_getLast? last)

private theorem before_dropQuestion (text : List Char) :
    Kotlin.substringBefore ['?'] (dropQuestion text) = Kotlin.substringBefore ['?'] text := by
  by_cases last : text.getLast? = some '?'
  · obtain ⟨start, rfl⟩ := List.getLast?_eq_some_iff.mp last
    rw [dropQuestion, if_pos last, List.dropLast_concat]
    by_cases asks : '?' ∈ start
    · obtain ⟨front, query, rfl, clear⟩ := List.eq_append_cons_of_mem asks
      rw [List.append_assoc, List.cons_append, Kotlin.substringBefore_append clear,
        Kotlin.substringBefore_append clear]
    · rw [Kotlin.substringBefore_of_notMem asks, Kotlin.substringBefore_append asks]
  · rw [dropQuestion_of_ne last]

/-- A text that holds a question mark stays what it is as long as it does not end in one. -/
private theorem slash_dropQuestion_iff (asks : '?' ∈ text) :
    orText (dropQuestion text) ['/'] = text ↔ text.getLast? ≠ some '?' := by
  constructor
  · intro same last
    have fewer : (dropQuestion text).count '?' < text.count '?' := by
      obtain ⟨start, rfl⟩ := List.getLast?_eq_some_iff.mp last
      rw [dropQuestion, if_pos last, List.dropLast_concat, List.count_append]
      exact Nat.lt_succ_self _
    rw [← count_slash, same] at fewer
    exact Nat.lt_irrefl _ fewer
  · intro other
    rw [dropQuestion_of_ne other, orText_of_ne (List.ne_nil_of_mem asks)]

/-- A question mark goes with the parameter exactly where the parameter is the whole query. -/
theorem question_iff (is : isEdParam param = true)
    (stop : ∀ c, rest.head? = some c → c.isDigit = false)
    (whole : path = front ++ '?' :: (param ++ rest)) :
    orText (dropQuestion (front ++ rest)) ['/'] = orText (withoutEd path) ['/'] ↔
      '?' ∉ front ∧ rest = [] := by
  have plain : '?' ∉ param := notMem_of_isEdParam is (by decide) rfl
  constructor
  · intro same
    have asks : '?' ∈ path := by
      rw [whole]
      exact List.mem_append_right _ List.mem_cons_self
    obtain ⟨start, query, cut, clear⟩ := List.eq_append_cons_of_mem asks
    by_cases kept : (query.splitOn '&').eraseP isEdParam = []
    · rcases List.eraseP_eq_nil_iff.mp kept with none_ | ⟨only, alone, pieces⟩
      · exact absurd none_ (List.splitOn_ne_nil _ _)
      have query_ : query = only := by
        have joined : ['&'].intercalate (query.splitOn '&') = query := List.intercalate_splitOn '&'
        rw [← joined, pieces, List.intercalate_singleton]
      have clear' : '?' ∉ query := by
        rw [query_]
        exact notMem_of_isEdParam alone (by decide) rfl
      have single : (start ++ '?' :: query).count '?' = 1 := by
        rw [List.count_append, List.count_cons_self, List.count_eq_zero.mpr clear,
          List.count_eq_zero.mpr clear']
      rw [← cut, whole, List.count_append, List.count_cons_self] at single
      have ahead : '?' ∉ front := List.count_eq_zero.mp (by omega)
      obtain ⟨-, behind⟩ := Text.append_cons_inj ahead clear (whole.symm.trans cut)
      rw [← query_, ← behind] at alone
      exact ⟨ahead, eq_nil_of_isEdParam is alone stop⟩
    · have once := congrArg (List.count '?') same
      rw [count_slash, count_slash, cut, count_withoutEd clear kept, ← cut, whole,
        List.count_append, List.count_cons_self, List.count_append] at once
      have least := count_dropQuestion (front ++ rest)
      rw [List.count_append] at least
      omega
  · rintro ⟨clear, rfl⟩
    rw [whole, withoutEd_append clear, List.append_nil, List.append_nil, splitOn_param is,
      List.eraseP_cons_of_pos is, if_pos rfl, dropQuestion_clear clear]

/-- Without a question mark in front, the pattern has matched outside of the query. -/
private theorem ampersand_outside (is : isEdParam param = true) (clear : '?' ∉ front)
    (whole : path = front ++ '&' :: (param ++ rest)) :
    orText (dropQuestion (front ++ rest)) ['/'] ≠ orText (withoutEd path) ['/'] := by
  have plain : '?' ∉ '&' :: param := fun member => (List.mem_cons.mp member).elim
    (fun same => absurd same (by decide)) (notMem_of_isEdParam is (by decide) rfl)
  have long : 3 ≤ param.length := by
    obtain ⟨digits, rfl, -, -⟩ := isEdParam_iff.mp is
    rw [List.length_append]
    exact Nat.le_add_right 3 digits.length
  have before : Kotlin.substringBefore ['?'] (withoutEd path) =
      front ++ (('&' :: param) ++ Kotlin.substringBefore ['?'] rest) := by
    rw [substringBefore_withoutEd, whole, Kotlin.substringBefore_append_left clear,
      ← List.cons_append, Kotlin.substringBefore_append_left plain]
  have some_ : withoutEd path ≠ [] := by
    intro empty
    rw [empty] at before
    exact List.append_ne_nil_of_right_ne_nil front (List.cons_ne_nil '&' _) before.symm
  intro same
  rw [orText_of_ne some_] at same
  have length := congrArg List.length before
  simp only [List.length_append, List.length_cons] at length
  rw [← same, orText] at length
  split at length
  · have one : (Kotlin.substringBefore ['?'] ['/']).length = 1 := rfl
    omega
  · rw [before_dropQuestion, Kotlin.substringBefore_append_left clear, List.length_append] at length
    omega

private theorem cons_dropQuestion (front : List Char) (c : Char) (more : List Char) :
    dropQuestion (front ++ c :: more) = front ∨
      ∃ last, dropQuestion (front ++ c :: more) = front ++ c :: last := by
  rw [dropQuestion]
  split
  · rw [List.dropLast_append_of_ne_nil (List.cons_ne_nil c more)]
    cases more with
    | nil => exact .inl (List.append_nil front)
    | cons next more => exact .inr ⟨_, rfl⟩
  · exact .inr ⟨more, rfl⟩

/-- What begins like such a parameter and goes on is kept. -/
private theorem splitOn_longer (is : isEdParam param = true) {c : Char} (digit : c.isDigit = false)
    (other : c ≠ '&') (more : List Char) :
    ∃ last, ((param ++ c :: more).splitOn '&').eraseP isEdParam ≠ [] ∧
      ['&'].intercalate (((param ++ c :: more).splitOn '&').eraseP isEdParam) =
        param ++ c :: last := by
  have stop (text : List Char) : isEdParam (param ++ c :: text) = false := by
    cases longer : isEdParam (param ++ c :: text) with
    | false => rfl
    | true =>
        have none_ := eq_nil_of_isEdParam is longer fun c' first => by
          cases first
          exact digit
        cases none_
  have clear : '&' ∉ param := notMem_of_isEdParam is (by decide) rfl
  by_cases member : '&' ∈ more
  · obtain ⟨front, after, rfl, ahead⟩ := List.eq_append_cons_of_mem member
    have clear' : '&' ∉ param ++ c :: front := by
      intro there
      rcases List.mem_append.mp there with there | there
      · exact clear there
      · exact (List.mem_cons.mp there).elim (fun same => other same.symm) ahead
    have pieces : (param ++ c :: (front ++ '&' :: after)).splitOn '&' =
        (param ++ c :: front) :: after.splitOn '&' := by
      rw [← List.splitOn_append_cons_self_of_not_mem clear' after, List.append_assoc]
      rfl
    rw [pieces, List.eraseP_cons_of_neg (ne_true_of_eq_false (stop _))]
    cases (after.splitOn '&').eraseP isEdParam with
    | nil => exact ⟨front, List.cons_ne_nil _ _, List.intercalate_singleton⟩
    | cons next others =>
        refine ⟨front ++ '&' :: ['&'].intercalate (next :: others), List.cons_ne_nil _ _, ?_⟩
        rw [List.intercalate_cons_cons]
        simp only [List.append_assoc, List.cons_append, List.nil_append]
  · have clear' : '&' ∉ param ++ c :: more := by
      intro there
      rcases List.mem_append.mp there with there | there
      · exact clear there
      · exact (List.mem_cons.mp there).elim (fun same => other same.symm) member
    rw [List.splitOn_eq_singleton clear',
      List.eraseP_cons_of_neg (ne_true_of_eq_false (stop _))]
    exact ⟨more, List.cons_ne_nil _ _, List.intercalate_singleton⟩

/-- Behind a question mark an ampersand goes with the parameter exactly where the parameter ends
there. -/
theorem ampersand_iff (is : isEdParam param = true)
    (stop : ∀ c, rest.head? = some c → c.isDigit = false) (asks : '?' ∈ front)
    (found : edMatch path = some (front, sep, digits, rest))
    (whole : path = front ++ '&' :: (param ++ rest)) :
    orText (dropQuestion (front ++ rest)) ['/'] = orText (withoutEd path) ['/'] ↔
      (rest = [] ∨ rest.head? = some '&') ∧ (front ++ rest).getLast? ≠ some '?' := by
  obtain ⟨start, first, rfl, clear⟩ := List.eq_append_cons_of_mem asks
  have earlier : ∀ param ∈ first.splitOn '&', isEdParam param = false := by
    intro other member
    by_contra is
    obtain ⟨match_, here, early⟩ := edMatch_of_mem member (Bool.eq_true_of_not_eq_false is) start
      ('&' :: (param ++ rest))
    rw [← whole, found] at here
    cases here
    exact Nat.lt_irrefl _ early
  have plain : '&' ∉ param := notMem_of_isEdParam is (by decide) rfl
  have kept := withoutEd_behind clear earlier (param ++ rest)
  rw [List.append_assoc, List.cons_append] at whole
  rw [← whole] at kept
  have some_ : withoutEd path ≠ [] := by
    rw [kept]
    split
    · exact List.append_ne_nil_of_right_ne_nil _ (List.cons_ne_nil _ _)
    · exact List.append_ne_nil_of_right_ne_nil _ (List.cons_ne_nil _ _)
  have asks' : '?' ∈ (start ++ '?' :: first) ++ rest := List.mem_append_left rest asks
  rw [orText_of_ne some_]
  rcases rest with _ | ⟨c, more⟩
  · rw [List.append_nil, splitOn_param is, List.eraseP_cons_of_pos is, if_pos rfl] at kept
    rw [kept, List.append_nil] at *
    rw [slash_dropQuestion_iff asks]
    exact ⟨fun last => ⟨.inl rfl, last⟩, And.right⟩
  · by_cases ends : c = '&'
    · subst ends
      rw [List.splitOn_append_cons_self_of_not_mem plain, List.eraseP_cons_of_pos is,
        if_neg (List.splitOn_ne_nil _ _), List.intercalate_splitOn] at kept
      rw [kept, slash_dropQuestion_iff asks']
      exact ⟨fun last => ⟨.inr rfl, last⟩, And.right⟩
    · obtain ⟨last, others, joined⟩ := splitOn_longer is (stop c rfl) ends more
      rw [if_neg others, joined] at kept
      constructor
      · intro same
        rw [kept] at same
        rcases cons_dropQuestion (start ++ '?' :: first) c more with short | ⟨left, short⟩
        · rw [short, orText_of_ne (List.ne_nil_of_mem asks), List.self_eq_append_right] at same
          cases same
        · rw [short, orText_of_ne (List.append_ne_nil_of_right_ne_nil _ (List.cons_ne_nil _ _)),
            List.append_cancel_left_eq] at same
          exact absurd (List.cons.inj same).1 ends
      · rintro ⟨none_ | next, -⟩
        · cases none_
        · exact absurd (Option.some.inj next) ends

/-- There is such a parameter exactly where it makes a difference to leave it out. -/
theorem self_eq_withoutEd_iff (some_ : path ≠ []) :
    path = orText (withoutEd path) ['/'] ↔ ∀ param ∈ params path, isEdParam param = false := by
  constructor
  · intro same
    by_cases asks : '?' ∈ path
    · have long : withoutEd path ≠ [] := by
        intro empty
        rw [empty] at same
        rw [same] at asks
        exact absurd asks (by decide)
      rw [orText_of_ne long] at same
      obtain ⟨front, query, rfl, clear⟩ := List.eq_append_cons_of_mem asks
      rw [withoutEd_append clear] at same
      split at same
      · exact absurd (congrArg (List.count '?') same) (by
          rw [List.count_eq_zero.mpr clear, List.count_append, List.count_cons_self]
          omega)
      · rename_i kept
        rw [List.append_cancel_left_eq, List.cons.injEq] at same
        have pieces : ∀ piece ∈ (query.splitOn '&').eraseP isEdParam, '&' ∉ piece := by
          intro piece member there
          have clear := Text.eq_false_of_mem_splitOnP query piece
            (by rw [← List.splitOn_eq_splitOnP]; exact List.mem_of_mem_eraseP member) '&' there
          exact absurd clear (by decide)
        have erased := List.splitOn_intercalate '&' pieces kept
        rw [← same.2] at erased
        rw [params, split_append clear]
        exact fun param member =>
          Bool.eq_false_of_not_eq_true (List.eraseP_eq_self_iff.mp erased.symm param member)
    · rw [params, Kotlin.splitAround_eq_none asks]
      exact fun param member => absurd member List.not_mem_nil
  · intro none_
    rw [withoutEd_of_none none_, orText_of_ne some_]

/-- What the pattern leaves is the path without the parameter exactly under that condition. -/
theorem wsPath_eq_iff (some_ : path ≠ []) :
    wsPath path = orText (withoutEd path) ['/'] ↔ EdApart path := by
  rw [wsPath, EdApart]
  cases found : edMatch path with
  | none =>
      rw [withoutEd_of_none (isEdParam_of_edMatch found)]
      exact iff_of_true (orText_of_ne some_).symm trivial
  | some parts =>
      obtain ⟨front, sep, digits, rest⟩ := parts
      obtain ⟨whole, sign, is, stop⟩ := edMatch_some found
      rcases sign with rfl | rfl
      · exact question_iff is stop whole
      · by_cases asks : '?' ∈ front
        · rw [ampersand_iff is stop asks found whole]
          exact ⟨fun same => ⟨asks, same⟩, And.right⟩
        · exact iff_of_false (ampersand_outside is asks whole) fun apart => asks apart.1

end Same

end MolidoVpn.Worker
