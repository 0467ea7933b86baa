import MolidoVpn.Socks.RuleText

/-!
A file of rules. What stands under a heading is put into one text, which is then cut like a list of
the environment, at commas and semicolons too; a line with one of these in it is not kept whole.
-/

namespace MolidoVpn.Routing

open Text (isWhitespace trim)

structure Rule where
  entry : List Char
  matcher : Matcher

def ownLines (own : Section) (entries : List (Section × List Char)) : List (List Char) :=
  (entries.filter fun entry => entry.1 = own).map Prod.snd

def Section.pick {Value : Type} (block direct : Value) : Section → Value
  | .block => block
  | .direct => direct

theorem ownLines_append (own : Section) (early late : List (Section × List Char)) :
    ownLines own (early ++ late) = ownLines own early ++ ownLines own late := by
  rw [ownLines, List.filter_append, List.map_append]
  rfl

section Files

variable (crates : Crates)

/-- The rule that a text spells, if it spells one. -/
def Rule.read (entry : List Char) : Option Rule :=
  (Matcher.parse crates entry).map fun matcher => { entry := trim entry, matcher := matcher }

/-- The rules of `parse_list`, each with its own text. -/
def rulesOf (raw : List Char) : List Rule :=
  (raw.splitOnP isSeparator).filterMap (Rule.read crates)

/-- The section that a heading opens, if the line is one. -/
def heading (trimmed : List Char) : Option (Option Section) :=
  let lowered := crates.lower trimmed
  if lowered = "[block]".toList then some (some .block)
  else if lowered = "[direct]".toList then some (some .direct)
  else if lowered.head? = some '[' then some none
  else none

/-- What a line does in a section: the section behind it, and the line if it stands in one. -/
def placeLine (current : Option Section) (line : List Char) :
    Option Section × List (Section × List Char) :=
  if trim line = [] ∨ (trim line).head? = some '#' then (current, [])
  else
    match heading crates (trim line) with
    | some next => (next, [])
    | none => (current, current.toList.map fun own => (own, trim line))

/-- The lines that stand in a section, trimmed. -/
def sectionLines (current : Option Section) : List (List Char) → List (Section × List Char)
  | [] => []
  | line :: rest =>
      (placeLine crates current line).2 ++ sectionLines (placeLine crates current line).1 rest

def linesOf (own : Section) (text : List Char) : List (List Char) :=
  ownLines own (sectionLines crates none (lines text))

/-- The line is not cut, or nothing in it is a rule anyway. -/
def KeptWhole (line : List Char) : Prop :=
  (∀ c ∈ line, isSeparator c = false) ∨
    (Matcher.parse crates line = none ∧
      ∀ piece ∈ line.splitOnP isSeparator, Matcher.parse crates piece = none)

end Files

section Cutting

variable {crates : Crates} {line : List Char}

theorem parseList_eq (crates : Crates) (raw : List Char) :
    parseList crates raw = (rulesOf crates raw).map Rule.matcher := by
  have each : Matcher.parse crates = fun entry => (Rule.read crates entry).map Rule.matcher := by
    funext entry
    rw [Rule.read, Option.map_map]
    exact Option.map_id'.symm
  rw [parseList, rulesOf, List.map_filterMap, each]

@[simp]
theorem read_nil (crates : Crates) : Rule.read crates [] = none := rfl

theorem rulesOf_append_cons {sep : Char} (separates : isSeparator sep = true)
    (first rest : List Char) :
    rulesOf crates (first ++ sep :: rest) = rulesOf crates first ++ rulesOf crates rest := by
  rw [rulesOf, List.splitOnP_append_cons first rest separates, List.filterMap_append]
  rfl

/-- The text of a section has the rules of its lines. -/
theorem rulesOf_lines (rows : List (List Char)) :
    rulesOf crates (rows.flatMap (· ++ ['\n'])) = rows.flatMap (rulesOf crates) := by
  induction rows with
  | nil => rfl
  | cons row rows ih =>
      rw [List.flatMap_cons, List.append_assoc, List.singleton_append, rulesOf_append_cons rfl, ih,
        List.flatMap_cons]

private theorem read_space {c : Char} (space : isWhitespace c = true) (entry : List Char) :
    Rule.read crates (c :: entry) = Rule.read crates entry := by
  have trimmed : trim (c :: entry) = trim entry := by
    rw [trim, Text.trimStart, List.dropWhile_cons_of_pos space]
    rfl
  unfold Rule.read Matcher.parse
  rw [trimmed]

/-- White space in front of a list adds nothing to it. -/
theorem rulesOf_blank (crates : Crates) {blank : List Char}
    (spaces : ∀ c ∈ blank, isWhitespace c = true) (rest : List Char) :
    rulesOf crates (blank ++ rest) = rulesOf crates rest := by
  induction blank with
  | nil => rfl
  | cons c blank ih =>
      have behind := ih fun other member => spaces other (List.mem_cons_of_mem c member)
      rw [List.cons_append]
      unfold rulesOf at behind ⊢
      rw [List.splitOnP_cons_eq_if_modifyHead]
      split
      · rw [List.filterMap_cons, read_nil]
        exact behind
      · cases pieces : (blank ++ rest).splitOnP isSeparator with
        | nil => exact absurd pieces (List.splitOnP_ne_nil _ _)
        | cons first more =>
            rw [pieces] at behind
            rw [List.modifyHead_cons, List.filterMap_cons, read_space (spaces c List.mem_cons_self),
              ← List.filterMap_cons]
            exact behind

theorem rulesOf_pushList (target extra : List Char) :
    rulesOf crates (pushList target extra) = rulesOf crates target ++ rulesOf crates extra := by
  have nothing {text : List Char} (empty : trim text = []) : rulesOf crates text = [] := by
    have whole := rulesOf_blank crates (Text.spaces_of_trim empty) []
    rw [List.append_nil] at whole
    exact whole
  unfold pushList
  split
  · rename_i empty
    rw [nothing empty, List.append_nil]
  · split
    · rename_i empty
      rw [rulesOf_blank crates (Text.spaces_of_trim empty), nothing empty, List.nil_append]
    · exact rulesOf_append_cons rfl target extra

/-- A line with a separator in it spells a rule that none of its pieces spells. -/
theorem rulesOf_line_iff (single : '\n' ∉ line) :
    rulesOf crates line = (Rule.read crates line).toList ↔ KeptWhole crates line := by
  have read_none (entry : List Char) :
      Rule.read crates entry = none ↔ Matcher.parse crates entry = none := Option.map_eq_none_iff
  constructor
  · intro same
    by_cases whole : ∀ c ∈ line, isSeparator c = false
    · exact Or.inl whole
    · right
      simp only [not_forall, Bool.not_eq_false] at whole
      obtain ⟨c, member, separates⟩ := whole
      have solid : isWhitespace c = false := by
        simp only [isSeparator, Bool.or_eq_true, beq_iff_eq] at separates
        rcases separates with (rfl | rfl) | rfl
        · exact absurd member single
        · rfl
        · rfl
      cases own : Rule.read crates line with
      | none =>
          rw [own] at same
          refine ⟨(read_none line).mp own, fun piece there => (read_none piece).mp ?_⟩
          exact List.filterMap_eq_nil_iff.mp same piece there
      | some rule =>
          have listed : rule ∈ rulesOf crates line := by
            rw [same, own]
            exact List.mem_singleton_self rule
          obtain ⟨piece, there, read⟩ := List.mem_filterMap.mp listed
          have spelled {entry : List Char} (read : Rule.read crates entry = some rule) :
              rule.entry = trim entry := by
            obtain ⟨matcher, _, rfl⟩ := Option.map_eq_some_iff.mp read
            rfl
          have kept : c ∈ trim piece := by
            rw [← spelled read, spelled own]
            exact (Text.mem_strip solid).mpr member
          have clear := Text.eq_false_of_mem_splitOnP line piece there c
            ((Text.mem_strip solid).mp kept)
          rw [separates] at clear
          cases clear
  · rintro (whole | ⟨none_, pieces⟩)
    · rw [rulesOf, List.splitOnP_eq_singleton whole, List.filterMap_cons]
      cases Rule.read crates line <;> rfl
    · rw [(read_none line).mpr none_]
      exact List.filterMap_eq_nil_iff.mpr fun piece there =>
        (read_none piece).mpr (pieces piece there)

end Cutting

section Splitting

variable {crates : Crates}

def Sections.text (s : Sections) : Section → List Char := Section.pick s.block s.direct

/-- One turn of the loop, from where the line stands. -/
private theorem line_place (crates : Crates) (s : Sections) (line : List Char) :
    (Sections.line crates s line).current = (placeLine crates s.current line).1 ∧
      ∀ own, (Sections.line crates s line).text own =
        s.text own ++ (ownLines own (placeLine crates s.current line).2).flatMap (· ++ ['\n']) := by
  have kept (own : Section) : s.text own = s.text own ++ [] := (List.append_nil _).symm
  unfold Sections.line placeLine heading
  simp only
  split
  · exact ⟨rfl, kept⟩
  · split
    · exact ⟨rfl, kept⟩
    · split
      · exact ⟨rfl, kept⟩
      · split
        · exact ⟨rfl, kept⟩
        · split
          · rename_i current
            rw [current]
            refine ⟨rfl, fun own => ?_⟩
            cases own with
            | block =>
                change s.block ++ trim line ++ ['\n'] = s.block ++ (trim line ++ ['\n'] ++ [])
                rw [List.append_nil, List.append_assoc]
            | direct => exact kept .direct
          · rename_i current
            rw [current]
            refine ⟨rfl, fun own => ?_⟩
            cases own with
            | block => exact kept .block
            | direct =>
                change s.direct ++ trim line ++ ['\n'] = s.direct ++ (trim line ++ ['\n'] ++ [])
                rw [List.append_nil, List.append_assoc]
          · rename_i current
            rw [current]
            exact ⟨rfl, kept⟩

/-- The loop puts the lines of a section into its text, each with a line feed. -/
theorem foldl_line (crates : Crates) (own : Section) (rows : List (List Char)) (s : Sections) :
    (rows.foldl (Sections.line crates) s).text own =
      s.text own ++
        (ownLines own (sectionLines crates s.current rows)).flatMap (· ++ ['\n']) := by
  induction rows generalizing s with
  | nil => exact (List.append_nil _).symm
  | cons row rows ih =>
      obtain ⟨current, text⟩ := line_place crates s row
      rw [List.foldl_cons, ih, current, text, sectionLines, ownLines_append, List.flatMap_append,
        List.append_assoc]

theorem splitSections_eq (crates : Crates) (text : List Char) (own : Section) :
    own.pick (splitSections crates text).1 (splitSections crates text).2 =
      (linesOf crates own text).flatMap (· ++ ['\n']) := by
  have whole := foldl_line crates own (lines text) ⟨[], [], none⟩
  cases own <;> exact whole

private theorem trim_subset (text : List Char) : trim text ⊆ text :=
  fun _ member => (List.dropWhile_suffix _).subset
    ((List.rdropWhile_prefix isWhitespace _).subset member)

theorem not_mem_lines {text line : List Char} (member : line ∈ lines text) : '\n' ∉ line := by
  have clear {piece : List Char} (there : piece ∈ text.splitOn '\n') : '\n' ∉ piece := by
    intro feed
    have none_ := Text.eq_false_of_mem_splitOnP text piece there '\n' feed
    cases none_
  have ended : line ∈ (text.splitOn '\n').dropLast.map (fun line =>
      if line.getLast? = some '\r' then line.dropLast else line) → '\n' ∉ line := by
    intro there
    obtain ⟨piece, inside, rfl⟩ := List.mem_map.mp there
    have pieceClear := clear (List.dropLast_subset _ inside)
    split
    · exact fun feed => pieceClear (List.dropLast_subset _ feed)
    · exact pieceClear
  unfold lines at member
  simp only at member
  split at member
  · exact ended member
  · rename_i last found
    split at member
    · exact ended member
    · rcases List.mem_append.mp member with early | late
      · exact ended early
      · rw [List.mem_singleton.mp late]
        exact clear (List.mem_of_mem_getLast? found)

theorem sectionLines_mem {current : Option Section} {rows : List (List Char)} {own : Section}
    {line : List Char} (member : (own, line) ∈ sectionLines crates current rows) :
    ∃ row ∈ rows, line = trim row := by
  induction rows generalizing current with
  | nil => cases member
  | cons row rows ih =>
      rcases List.mem_append.mp member with here | later
      · refine ⟨row, List.mem_cons_self, ?_⟩
        unfold placeLine at here
        split at here
        · cases here
        · split at here
          · cases here
          · obtain ⟨_, _, same⟩ := List.mem_map.mp here
            exact (Prod.mk.inj same).2.symm
      · obtain ⟨row', there, same⟩ := ih later
        exact ⟨row', List.mem_cons_of_mem row there, same⟩

theorem not_mem_linesOf {own : Section} {text line : List Char}
    (member : line ∈ linesOf crates own text) : '\n' ∉ line := by
  obtain ⟨⟨owner, _⟩, there, rfl⟩ := List.mem_map.mp member
  obtain ⟨row, inside, rfl⟩ := sectionLines_mem (List.mem_of_mem_filter there)
  exact fun feed => not_mem_lines inside (trim_subset row feed)

end Splitting

/-- The rules of a section are those of the environment and, line after line, those that are cut
out of the file; a line contributes the rule that it spells, and no other, exactly when it is kept
whole. -/
theorem file_line_kept_iff (crates : Crates) (block direct text : List Char) (own : Section) :
    own.pick (RuleSet.fromEnv crates block direct (some text)).block
        (RuleSet.fromEnv crates block direct (some text)).direct =
      parseList crates (own.pick block direct) ++
        (linesOf crates own text).flatMap (fun line => (rulesOf crates line).map Rule.matcher) ∧
      ∀ line ∈ linesOf crates own text,
        rulesOf crates line = (Rule.read crates line).toList ↔ KeptWhole crates line := by
  have section_ := splitSections_eq crates text own
  have rules (target : List Char) :
      parseList crates (pushList target ((linesOf crates own text).flatMap (· ++ ['\n']))) =
        parseList crates target ++ (linesOf crates own text).flatMap
          (fun line => (rulesOf crates line).map Rule.matcher) := by
    rw [parseList_eq, parseList_eq, rulesOf_pushList, rulesOf_lines, List.map_append,
      List.map_flatMap]
  refine ⟨?_, fun line member => rulesOf_line_iff (not_mem_linesOf member)⟩
  cases own with
  | block =>
      rw [← rules, ← section_]
      rfl
  | direct =>
      rw [← rules, ← section_]
      rfl

/-- The rule for `x,y` is cut in two. -/
theorem comma_line_cut :
    ¬∀ (crates : Crates) (own : Section) (text line : List Char),
      line ∈ linesOf crates own text → rulesOf crates line = (Rule.read crates line).toList := by
  intro claim
  have whole := claim literalCrates .block "[block]\nregexp:x,y\n".toList "regexp:x,y".toList
    (by decide +kernel)
  have lengths := congrArg List.length whole
  revert lengths
  decide +kernel

end MolidoVpn.Routing
