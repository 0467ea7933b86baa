import MolidoVpn.Worker.SubLinks

/-!
What the five lists keep, for all lists, reports and snapshots: a server is told by the text before
its number sign while the lists are read, and by its fingerprint while they are ranked and merged.
-/

namespace MolidoVpn.Worker

open Dealing (filterIdx filterIdx_sublist filterIdx_perm key_ne_of_filterIdx deal_getElem? topUp_eq)
open Ranking (rank rank_perm rank_sorted filter_rank)

abbrev cores (lines : List (List Char)) : List (List Char) := lines.map coreOf

theorem nodup_of_subperm {some_ all : List (List Char)} (among : some_.Subperm all)
    (distinct : (cores all).Nodup) : (cores some_).Nodup := by
  obtain ⟨ordered, same, part⟩ := among
  exact (same.map coreOf).nodup_iff.mp (distinct.sublist (part.map coreOf))

section Pool

theorem coreOf_cdnName (line : List Char) (number : Nat) :
    coreOf (cdnName (coreOf line) number) = coreOf line :=
  coreOf_append (notMem_coreOf line) _

/-- What the loop over the CDN list lists, it has not seen before and has seen then. -/
theorem addCdn_cores (seen : List (List Char)) (c : Nat) (lines : List (List Char)) :
    (cores (addCdn seen c lines).1).Nodup ∧ seen ⊆ (addCdn seen c lines).2 ∧
      ∀ core ∈ cores (addCdn seen c lines).1, core ∉ seen ∧ core ∈ (addCdn seen c lines).2 := by
  induction lines generalizing seen c with
  | nil =>
    exact ⟨List.nodup_nil, List.Subset.refl seen,
      fun core member => absurd member List.not_mem_nil⟩
  | cons l rest ih =>
      rw [addCdn]
      dsimp only
      split
      · exact ih seen c
      split
      · exact ih seen c
      · rename_i fresh
        obtain ⟨distinct, kept, listed⟩ := ih (coreOf (Text.jsTrim l) :: seen) (c + 1)
        rw [cores, List.map_cons, coreOf_cdnName]
        refine ⟨List.nodup_cons.mpr ⟨?_, distinct⟩, ?_, ?_⟩
        · intro again
          exact (listed _ again).1 List.mem_cons_self
        · exact List.subset_of_cons_subset kept
        · intro core member
          rcases List.mem_cons.mp member with rfl | later
          · exact ⟨fresh, kept List.mem_cons_self⟩
          · exact ⟨fun old => (listed core later).1 (List.mem_cons_of_mem _ old),
              (listed core later).2⟩

theorem addTested_cores (seen lines : List (List Char)) :
    (cores (addTested seen lines)).Nodup ∧
      ∀ core ∈ cores (addTested seen lines), core ∉ seen := by
  induction lines generalizing seen with
  | nil => exact ⟨List.nodup_nil, fun core member => absurd member List.not_mem_nil⟩
  | cons l rest ih =>
      rw [addTested]
      dsimp only
      split
      · exact ih seen
      split
      · exact ih seen
      · rename_i fresh
        obtain ⟨distinct, listed⟩ := ih (coreOf (Text.jsTrim l) :: seen)
        rw [cores, List.map_cons]
        refine ⟨List.nodup_cons.mpr ⟨?_, distinct⟩, ?_⟩
        · intro again
          exact listed _ again List.mem_cons_self
        · intro core member
          rcases List.mem_cons.mp member with rfl | later
          · exact fresh
          · exact fun old => listed core later (List.mem_cons_of_mem _ old)

/-- All the servers of a pool. -/
def Pool.lines (pool : Pool) : List (List Char) := pool.cdn ++ (pool.strong ++ pool.rest)

theorem poolOf_distinct (shard full : List Char) : (cores (poolOf shard full).lines).Nodup := by
  obtain ⟨cdn, _, seen⟩ := addCdn_cores [] 0 (shard.splitOn '\n')
  obtain ⟨tested, fresh⟩ := addTested_cores (addCdn [] 0 (shard.splitOn '\n')).2
    ((decodeList full).splitOn '\n')
  have parted : ((poolOf shard full).strong ++ (poolOf shard full).rest).Perm
      (addTested (addCdn [] 0 (shard.splitOn '\n')).2 ((decodeList full).splitOn '\n')) :=
    List.filter_append_perm _ _
  rw [cores, Pool.lines, List.map_append, List.nodup_append]
  refine ⟨cdn, (parted.map coreOf).nodup_iff.mpr tested, ?_⟩
  rintro core listed _ other rfl
  exact fresh core ((parted.map coreOf).mem_iff.mp other) (seen core listed).2

end Pool

section Reports

variable (scores : Scores)

/-- Without reports the order is left as it is, which is the ranking as well. -/
theorem rankByReports_eq (lines : List (List Char)) :
    rankByReports scores lines = rank (tierOf scores) lines := by
  unfold rankByReports
  split
  · rename_i none_
    have unknown (line : List Char) : tierOf scores line = toLex (1, 0) := by
      have missing : scoreOf scores line = none := by
        rw [scoreOf, AList.lookup, none_]
        rfl
      rw [tierOf, missing]
    have same := filter_rank (tierOf scores) (toLex (1, 0)) lines
    simp only [unknown, decide_true, List.filter_true] at same
    exact same.symm
  · rfl

theorem onlyFailed_of_none (none_ : scores.entries = []) (line : List Char) :
    onlyFailed scores line = false := by
  have missing : scoreOf scores line = none := by
    rw [scoreOf, AList.lookup, none_]
    rfl
  rw [onlyFailed, missing]

/-- Either all servers stay, and too few have not only failed, or just those that have not. -/
theorem dropIranFailed_cases (lines : List (List Char)) (min : Nat) :
    dropIranFailed scores lines min = lines ∧
        ((∀ line, onlyFailed scores line = false) ∨
          (lines.filter fun line => !onlyFailed scores line).length < min) ∨
      dropIranFailed scores lines min = (lines.filter fun line => !onlyFailed scores line) ∧
        min ≤ (lines.filter fun line => !onlyFailed scores line).length := by
  unfold dropIranFailed
  split
  · rename_i none_
    exact Or.inl ⟨rfl, Or.inl (onlyFailed_of_none scores none_)⟩
  · dsimp only
    split
    · rename_i enough
      exact Or.inr ⟨rfl, enough⟩
    · rename_i few
      exact Or.inl ⟨rfl, Or.inr (Nat.lt_of_not_le few)⟩

theorem dropIranFailed_sublist (lines : List (List Char)) (min : Nat) :
    (dropIranFailed scores lines min).Sublist lines := by
  rcases dropIranFailed_cases scores lines min with ⟨same, _⟩ | ⟨same, _⟩
  · rw [same]
  · rw [same]
    exact List.filter_sublist

theorem le_length_dropIranFailed (lines : List (List Char)) (least : Nat) :
    min least lines.length ≤ (dropIranFailed scores lines least).length := by
  rcases dropIranFailed_cases scores lines least with ⟨same, _⟩ | ⟨same, enough⟩
  · rw [same]
    exact Nat.min_le_right _ _
  · rw [same]
    exact (Nat.min_le_left _ _).trans enough

end Reports

section Links

variable {pool : Pool} {scores : Scores} {snap : OwnerSnapshot} {n m : Nat}

/-- The number of a link. -/
abbrev IsLink (n : Nat) : Prop := 1 ≤ n ∧ n ≤ subLinks

theorem ownShare_eq (link : IsLink n) :
    ownShare pool scores n =
      (filterIdx (fun i => i % subLinks == n - 1) 0
        (rankByReports scores (pool.strong ++ pool.rest))).take (subMax - 20) := by
  have turn : (List.replicate subLinks ([] : List (List Char)))[n - 1]? = some [] :=
    List.getElem?_replicate_of_lt (by have := link.1; have := link.2; omega)
  rw [ownShare, buckets, deal_getElem?, turn]
  rfl

/-- The CDN servers of a link, and then those of the others. -/
def cdnDealt (pool : Pool) (scores : Scores) (n : Nat) : List (List Char) :=
  filterIdx (fun i => i % subLinks == n - 1) 0 (cdnRanked pool scores) ++
    filterIdx (fun i => !(i % subLinks == n - 1)) 0 (cdnRanked pool scores)

theorem cdnDealt_perm (pool : Pool) (scores : Scores) (n : Nat) :
    (cdnDealt pool scores n).Perm pool.cdn := by
  apply (filterIdx_perm _ 0 (cdnRanked pool scores)).trans
  rw [cdnRanked, rankByReports_eq]
  exact rank_perm _ _

theorem ownShare_subperm (link : IsLink n) :
    (ownShare pool scores n).Subperm (pool.strong ++ pool.rest) := by
  rw [ownShare_eq link, rankByReports_eq]
  have part := (List.take_sublist (subMax - 20) _).trans
    (filterIdx_sublist (fun i => i % subLinks == n - 1) 0
      (rank (tierOf scores) (pool.strong ++ pool.rest)))
  exact part.subperm.trans (rank_perm _ _).subperm

/-- How many candidates come from the other links. -/
def borrowed (pool : Pool) (scores : Scores) (n : Nat) : Nat :=
  subMin - (filterIdx (fun i => i % subLinks == n - 1) 0 (cdnRanked pool scores) ++
    ownShare pool scores n).length

theorem candidates_perm (n : Nat) :
    (candidates pool scores n).Perm
      (filterIdx (fun i => i % subLinks == n - 1) 0 (cdnRanked pool scores) ++
        (filterIdx (fun i => !(i % subLinks == n - 1)) 0 (cdnRanked pool scores)).take
          (borrowed pool scores n) ++ ownShare pool scores n) := by
  rw [candidates, topUp_eq, List.append_assoc, List.append_assoc]
  exact (List.perm_append_comm).append_left _

theorem candidates_subperm (link : IsLink n) :
    (candidates pool scores n).Subperm pool.lines := by
  apply (candidates_perm n).subperm.trans
  apply List.Subperm.append _ (ownShare_subperm link)
  have part := (List.Sublist.refl
    (filterIdx (fun i => i % subLinks == n - 1) 0 (cdnRanked pool scores))).append
    (List.take_sublist (borrowed pool scores n)
      (filterIdx (fun i => !(i % subLinks == n - 1)) 0 (cdnRanked pool scores)))
  exact part.subperm.trans (cdnDealt_perm pool scores n).subperm

/-- A candidate is a CDN server, or of the share of the link. -/
theorem mem_candidates {line : List Char} (member : line ∈ candidates pool scores n) :
    line ∈ pool.cdn ∨ line ∈ ownShare pool scores n := by
  rcases List.mem_append.mp ((candidates_perm n).mem_iff.mp member) with cdn | own
  · left
    apply (cdnDealt_perm pool scores n).mem_iff.mp
    rcases List.mem_append.mp cdn with share | other
    · exact List.mem_append_left _ share
    · exact List.mem_append_right _ (List.mem_of_mem_take other)
  · exact Or.inr own

/-- The candidates make up for a share that is too small as far as there are CDN servers. -/
theorem le_length_candidates (pool : Pool) (scores : Scores) (n : Nat) :
    min subMin (pool.cdn.length + (ownShare pool scores n).length) ≤
      (candidates pool scores n).length := by
  have dealt := (cdnDealt_perm pool scores n).length_eq
  rw [cdnDealt, List.length_append] at dealt
  rw [candidates, topUp_eq]
  simp only [List.length_append, List.length_take]
  omega

theorem clean_sublist (pool : Pool) (scores : Scores) (n : Nat) :
    (clean pool scores n).Sublist (rank (tierOf scores) (candidates pool scores n)) := by
  rw [clean, rankByReports_eq]
  exact (List.take_sublist _ _).trans (dropIranFailed_sublist scores _ _)

theorem mem_candidates_of_clean {line : List Char} (member : line ∈ clean pool scores n) :
    line ∈ candidates pool scores n :=
  (rank_perm _ _).mem_iff.mp ((clean_sublist pool scores n).subset member)

theorem clean_distinct (distinct : (cores pool.lines).Nodup) (link : IsLink n) :
    (cores (clean pool scores n)).Nodup := by
  have part := (clean_sublist pool scores n).subperm.trans
    ((rank_perm _ _).subperm.trans (candidates_subperm link))
  exact nodup_of_subperm part distinct

theorem clean_length (pool : Pool) (scores : Scores) (n : Nat) :
    (clean pool scores n).length ≤ subMax :=
  List.length_take_le _ _

theorem le_length_clean (pool : Pool) (scores : Scores) (n : Nat) :
    min subMin (pool.cdn.length + (ownShare pool scores n).length) ≤
      (clean pool scores n).length := by
  have kept := le_length_dropIranFailed scores
    (rankByReports scores (candidates pool scores n)) subMin
  rw [rankByReports_eq, Ranking.length_rank] at kept
  have enough := le_length_candidates pool scores n
  have large : subMin ≤ subMax := by decide
  rw [clean, rankByReports_eq, List.length_take]
  omega

/-- A server that has only failed in Iran stays only where the others are too few. -/
theorem few_of_onlyFailed {line : List Char} (member : line ∈ clean pool scores n)
    (failed : onlyFailed scores line = true) :
    ((candidates pool scores n).filter fun other => !onlyFailed scores other).length <
      subMin := by
  have kept := List.mem_of_mem_take member
  rw [rankByReports_eq] at kept
  rcases dropIranFailed_cases scores (rank (tierOf scores) (candidates pool scores n)) subMin with
    ⟨_, none_ | few⟩ | ⟨same, _⟩
  · rw [none_ line] at failed
    cases failed
  · rw [((rank_perm _ _).filter _).length_eq] at few
    exact few
  · rw [same] at kept
    have passes := (List.mem_filter.mp kept).2
    rw [failed] at passes
    cases passes

/-- Two links have a server in common only if it is a CDN server. -/
theorem cdn_of_shared (distinct : (cores pool.lines).Nodup) (link : IsLink n)
    (other : IsLink m) (different : n ≠ m) {line same : List Char}
    (here : line ∈ clean pool scores n) (there : same ∈ clean pool scores m)
    (equal : coreOf line = coreOf same) : coreOf line ∈ cores pool.cdn := by
  rcases mem_candidates (mem_candidates_of_clean here) with cdn | own
  · exact List.mem_map_of_mem cdn
  rcases mem_candidates (mem_candidates_of_clean there) with cdn | others
  · rw [equal]
    exact List.mem_map_of_mem cdn
  · exfalso
    rw [ownShare_eq link] at own
    rw [ownShare_eq other] at others
    have tested : (cores (rankByReports scores (pool.strong ++ pool.rest))).Nodup := by
      rw [rankByReports_eq, cores, ((rank_perm _ _).map coreOf).nodup_iff]
      rw [cores, Pool.lines, List.map_append] at distinct
      exact (List.nodup_append.mp distinct).2.1
    apply key_ne_of_filterIdx _ tested (List.mem_of_mem_take own) (List.mem_of_mem_take others)
      equal
    intro place chosen
    rw [beq_eq_false_iff_ne]
    rw [beq_iff_eq] at chosen
    have := link.1
    have := other.1
    omega

end Links

section Owner

theorem nodup_of_lineCore {lines : List (List Char)} (distinct : (lines.map lineCore).Nodup) :
    (cores lines).Nodup := by
  have trimmed : (cores lines).map Text.jsTrim = lines.map lineCore := List.map_map
  exact List.Nodup.of_map Text.jsTrim (trimmed ▸ distinct)

/-- The configs that are shown at one of the two places. -/
def shownAt (weak : Bool) (st : OwnerStatus) (e : OwnerEntry) : Bool :=
  (ownerPlace st e).any fun place => place.1 = weak

theorem ownerAt_perm (weak : Bool) (st : OwnerStatus) (entries : List OwnerEntry) :
    (ownerAt weak st entries).Perm
      ((entries.filter (shownAt weak st)).map fun entry => entry.line) := by
  have placed : (entries.filterMap fun e => (ownerPlace st e).bind fun place =>
      if place.1 = weak then some (e, place.2) else none).map Prod.fst =
      entries.filter (shownAt weak st) := by
    induction entries with
    | nil => rfl
    | cons e rest ih =>
        rw [List.filterMap_cons, List.filter_cons, shownAt]
        cases ownerPlace st e with
        | none => exact ih
        | some place =>
            by_cases here : place.1 = weak
            · simp only [Option.bind_some, Option.any_some, here, if_true, decide_true,
                List.map_cons, ih]
            · simp only [Option.bind_some, Option.any_some, here, if_false, decide_false, ih,
                Bool.false_eq_true]
  rw [← placed, List.map_map]
  exact (rank_perm _ _).map _

/-- The owner's lines in a list have different cores, as the configs of the snapshot have. -/
theorem OwnerSnapshot.lines_distinct (snap : OwnerSnapshot) :
    (snap.lines.lines.map lineCore).Nodup := by
  have part (weak : Bool) : ((ownerAt weak snap.status snap.entries).map lineCore).Perm
      ((snap.entries.filter (shownAt weak snap.status)).map fun entry => lineCore entry.line) := by
    have perm := (ownerAt_perm weak snap.status snap.entries).map lineCore
    rw [List.map_map] at perm
    exact perm
  have shown (weak : Bool) : ((ownerAt weak snap.status snap.entries).map lineCore).Nodup :=
    (part weak).nodup_iff.mpr (snap.distinct.sublist (List.filter_sublist.map _))
  rw [OwnerSnapshot.lines, List.map_append, List.nodup_append]
  refine ⟨shown false, shown true, ?_⟩
  rintro core top _ weak rfl
  obtain ⟨first, firstShown, rfl⟩ := List.mem_map.mp ((part false).mem_iff.mp top)
  obtain ⟨second, secondShown, same⟩ := List.mem_map.mp ((part true).mem_iff.mp weak)
  obtain ⟨firstMember, atTop⟩ := List.mem_filter.mp firstShown
  obtain ⟨secondMember, atWeak⟩ := List.mem_filter.mp secondShown
  have equal := List.inj_on_of_nodup_map snap.distinct firstMember secondMember same.symm
  subst equal
  rw [shownAt] at atTop atWeak
  cases placed : ownerPlace snap.status first with
  | none =>
      rw [placed] at atTop
      cases atTop
  | some place =>
      rw [placed, Option.any_some, decide_eq_true_eq] at atTop atWeak
      rw [atTop] at atWeak
      cases atWeak

/-- A line under none of the owner's cores. -/
def isNormal (owner : OwnerLines) (line : List Char) : Bool :=
  !(owner.lines.map lineCore).contains (lineCore line)

/-- The lines of a list that are not the owner's. -/
def normalLines (owner : OwnerLines) (listed : Listed) : List (List Char) :=
  listed.lines.filter (isNormal owner)

theorem isNormal_iff {owner : OwnerLines} {line : List Char} :
    isNormal owner line = true ↔ lineCore line ∉ owner.lines.map lineCore := by
  rw [isNormal, Bool.not_eq_true', ← Bool.not_eq_true, List.contains_iff_mem]

theorem mergeOwner_perm (owner : OwnerLines) (lines : List (List Char)) :
    (mergeOwner owner lines).lines.Perm (owner.lines ++ lines.filter (isNormal owner)) := by
  unfold mergeOwner
  split
  · rename_i none_
    have all : lines.filter (isNormal owner) = lines := by
      apply List.filter_eq_self.mpr
      intro line _
      rw [isNormal, none_]
      rfl
    rw [none_, all]
    exact List.Perm.refl lines
  · have parted := List.filter_append_perm (fun line => owner.weak.contains (lineCore line))
      owner.lines
    have front := (List.perm_append_comm.trans parted).append_right
      (lines.filter (isNormal owner))
    apply List.Perm.trans _ front
    rw [List.append_assoc]
    exact List.perm_append_comm.append_left _

/-- The order of the others is that of the list that the owner's are merged into. -/
theorem normalLines_mergeOwner (owner : OwnerLines) (lines : List (List Char)) :
    normalLines owner (mergeOwner owner lines) = lines.filter (isNormal owner) := by
  have none_ (test : List Char → Bool) :
      (owner.lines.filter test).filter (isNormal owner) = [] := by
    apply List.filter_eq_nil_iff.mpr
    intro line member normal
    exact isNormal_iff.mp normal (List.mem_map_of_mem (List.mem_of_mem_filter member))
  unfold normalLines mergeOwner
  split
  · rfl
  · dsimp only
    rw [List.filter_append, List.filter_append, none_, none_, List.nil_append, List.append_nil]
    change (lines.filter (isNormal owner)).filter (isNormal owner) = _
    rw [List.filter_filter]
    simp only [Bool.and_self]

/-- A line that is left out is there as the owner's. -/
theorem exists_mergeOwner (owner : OwnerLines) {lines : List (List Char)} {line : List Char}
    (member : line ∈ lines) : ∃ kept ∈ (mergeOwner owner lines).lines,
      lineCore kept = lineCore line := by
  by_cases normal : isNormal owner line = true
  · refine ⟨line, (mergeOwner_perm owner lines).mem_iff.mpr ?_, rfl⟩
    exact List.mem_append_right _ (List.mem_filter.mpr ⟨member, normal⟩)
  · rw [isNormal_iff, not_not] at normal
    obtain ⟨kept, listed, same⟩ := List.mem_map.mp normal
    exact ⟨kept, (mergeOwner_perm owner lines).mem_iff.mpr (List.mem_append_left _ listed), same⟩

theorem mergeOwner_distinct {owner : OwnerLines} {lines : List (List Char)}
    (owners : (owner.lines.map lineCore).Nodup) (others : (cores lines).Nodup) :
    (cores (mergeOwner owner lines).lines).Nodup := by
  rw [cores, ((mergeOwner_perm owner lines).map coreOf).nodup_iff, List.map_append,
    List.nodup_append]
  refine ⟨nodup_of_lineCore owners, others.sublist (List.filter_sublist.map coreOf), ?_⟩
  intro core own other listed same
  obtain ⟨first, firstMember, rfl⟩ := List.mem_map.mp own
  obtain ⟨second, secondMember, rfl⟩ := List.mem_map.mp listed
  apply isNormal_iff.mp (List.mem_filter.mp secondMember).2
  rw [lineCore, ← same]
  exact List.mem_map_of_mem firstMember

end Owner

section Lists

/-- What a server is known by to the reports. -/
def fpOf (line : List Char) : List Char := fingerprintOf (lineCore line)

/-- Servers with one fingerprint have the same text before the number sign, white space included;
and the hash does not collide on the cores of the owner's configs. -/
structure Clear (pool : Pool) (owner : OwnerLines) : Prop where
  servers : ∀ first ∈ pool.lines, ∀ second ∈ pool.lines, fpOf first = fpOf second →
    coreOf first = coreOf second
  owners : ∀ first ∈ owner.lines, ∀ second ∈ owner.lines ++ pool.lines, fpOf first = fpOf second →
    lineCore first = lineCore second

variable (pool : Pool) (scores : Scores) (snap : OwnerSnapshot)

/-- What the list of one link keeps. Its servers are told by the text before the number sign, and
where the lists are clear by the fingerprint. -/
structure LinkKept (n : Nat) (listed : Listed) : Prop where
  texts : (cores listed.lines).Nodup
  distinct : Clear pool snap.lines → (listed.lines.map fpOf).Nodup
  most : (normalLines snap.lines listed).length ≤ subMax
  least : min subMin (pool.cdn.length + (ownShare pool scores n).length) ≤
    (clean pool scores n).length
  taken : ∀ line ∈ clean pool scores n, ∃ kept ∈ listed.lines, lineCore kept = lineCore line
  total : Clear pool snap.lines →
    min subMin (pool.cdn.length + (ownShare pool scores n).length) ≤ listed.lines.length
  failed : ∀ line ∈ normalLines snap.lines listed, onlyFailed scores line = true →
    ((candidates pool scores n).filter fun other => !onlyFailed scores other).length < subMin
  order : (normalLines snap.lines listed).Pairwise fun first second =>
    tierOf scores first ≤ tierOf scores second
  stable : ∀ tier, ((normalLines snap.lines listed).filter fun line =>
    tierOf scores line = tier).Sublist (candidates pool scores n)

variable {pool scores snap} {n m : Nat}

theorem mem_lines_of_clean (link : IsLink n) {line : List Char}
    (member : line ∈ clean pool scores n) : line ∈ pool.lines :=
  (candidates_subperm link).subset (mem_candidates_of_clean member)

/-- In a clear list no two lines have the same fingerprint. -/
theorem fpOf_distinct (distinct : (cores pool.lines).Nodup) (clear : Clear pool snap.lines)
    (link : IsLink n) :
    ((mergeOwner snap.lines (clean pool scores n)).lines.map fpOf).Nodup := by
  have others : (clean pool scores n).Pairwise fun first second => fpOf first ≠ fpOf second := by
    apply List.Pairwise.imp_of_mem _ (List.pairwise_map.mp (clean_distinct distinct link))
    intro first second firstMember secondMember apart same
    exact apart (clear.servers first (mem_lines_of_clean link firstMember) second
      (mem_lines_of_clean link secondMember) same)
  have owners : snap.lines.lines.Pairwise fun first second => fpOf first ≠ fpOf second := by
    apply List.Pairwise.imp_of_mem _ (List.pairwise_map.mp snap.lines_distinct)
    intro first second firstMember secondMember apart same
    exact apart (clear.owners first firstMember second (List.mem_append_left _ secondMember) same)
  rw [((mergeOwner_perm snap.lines _).map fpOf).nodup_iff, List.map_append, List.nodup_append]
  refine ⟨List.pairwise_map.mpr owners,
    List.pairwise_map.mpr (others.sublist List.filter_sublist), ?_⟩
  intro fp own _ listed same
  obtain ⟨first, firstMember, rfl⟩ := List.mem_map.mp own
  obtain ⟨second, secondMember, rfl⟩ := List.mem_map.mp listed
  obtain ⟨secondClean, normal⟩ := List.mem_filter.mp secondMember
  have core := clear.owners first firstMember second
    (List.mem_append_right _ (mem_lines_of_clean link secondClean)) same
  apply isNormal_iff.mp normal
  rw [← core]
  exact List.mem_map_of_mem firstMember

/-- In a clear list every line that is left out makes room for a line of the owner's own. -/
theorem length_le_mergeOwner (distinct : (cores pool.lines).Nodup)
    (clear : Clear pool snap.lines) (link : IsLink n) :
    (clean pool scores n).length ≤
      (mergeOwner snap.lines (clean pool scores n)).lines.length := by
  have apart : ((clean pool scores n).map lineCore).Nodup := by
    apply List.pairwise_map.mpr
    apply List.Pairwise.imp_of_mem _ (List.pairwise_map.mp (clean_distinct distinct link))
    intro first second firstMember secondMember different same
    exact different (clear.servers first (mem_lines_of_clean link firstMember) second
      (mem_lines_of_clean link secondMember) (congrArg fingerprintOf same))
  have left : ((clean pool scores n).filter fun line => !isNormal snap.lines line).length ≤
      snap.lines.lines.length := by
    have subset : ((clean pool scores n).filter fun line =>
        !isNormal snap.lines line).map lineCore ⊆ snap.lines.lines.map lineCore := by
      intro core member
      obtain ⟨line, listed, rfl⟩ := List.mem_map.mp member
      have abnormal := (List.mem_filter.mp listed).2
      rw [Bool.not_eq_true', ← Bool.not_eq_true, isNormal_iff, not_not] at abnormal
      exact abnormal
    have fewer := ((apart.sublist (List.filter_sublist.map lineCore)).subperm subset).length_le
    rwa [List.length_map, List.length_map] at fewer
  have parted := (List.filter_append_perm (isNormal snap.lines) (clean pool scores n)).length_eq
  have merged := (mergeOwner_perm snap.lines (clean pool scores n)).length_eq
  rw [List.length_append] at parted merged
  omega

/-- The lists of the five links, for all lists, reports and snapshots: what each of them keeps, and
that two of them have a server in common only if it is a CDN server or the owner's. -/
theorem subLists_kept (shard full : List Char) (scores : Scores) (snap : OwnerSnapshot) :
    (∀ n listed, IsLink n → subList (poolOf shard full) scores snap n = some listed →
      LinkKept (poolOf shard full) scores snap n listed) ∧
    ∀ n m listed other, IsLink n → IsLink m → n ≠ m →
      subList (poolOf shard full) scores snap n = some listed →
      subList (poolOf shard full) scores snap m = some other →
      ∀ line ∈ normalLines snap.lines listed, ∀ same ∈ normalLines snap.lines other,
        (coreOf line = coreOf same ∨
          Clear (poolOf shard full) snap.lines ∧ fpOf line = fpOf same) →
        coreOf line ∈ (poolOf shard full).cdn.map coreOf := by
  have distinct := poolOf_distinct shard full
  have merged {n : Nat} {listed : Listed}
      (list : subList (poolOf shard full) scores snap n = some listed) :
      listed = mergeOwner snap.lines (clean (poolOf shard full) scores n) := by
    unfold subList at list
    split at list
    · cases list
    · exact (Option.some.inj list).symm
  constructor
  · intro n listed link list
    rw [merged list]
    have normal := normalLines_mergeOwner snap.lines (clean (poolOf shard full) scores n)
    have part : (normalLines snap.lines
        (mergeOwner snap.lines (clean (poolOf shard full) scores n))).Sublist
        (rank (tierOf scores) (candidates (poolOf shard full) scores n)) := by
      rw [normal]
      exact List.filter_sublist.trans (clean_sublist _ scores n)
    constructor
    · exact mergeOwner_distinct snap.lines_distinct (clean_distinct distinct link)
    · intro clear
      exact fpOf_distinct distinct clear link
    · rw [normal]
      exact (List.length_filter_le _ _).trans (clean_length _ scores n)
    · exact le_length_clean _ scores n
    · intro line member
      exact exists_mergeOwner snap.lines member
    · intro clear
      exact (le_length_clean _ scores n).trans (length_le_mergeOwner distinct clear link)
    · intro line member
      rw [normal] at member
      exact few_of_onlyFailed (List.mem_of_mem_filter member)
    · exact (rank_sorted _ _).sublist part
    · intro tier
      have among := part.filter fun line => tierOf scores line = tier
      rw [filter_rank] at among
      exact among.trans List.filter_sublist
  · intro n m listed other link otherLink different list otherList line member same there equal
    rw [merged list, normalLines_mergeOwner] at member
    rw [merged otherList, normalLines_mergeOwner] at there
    have here := List.mem_of_mem_filter member
    have beyond := List.mem_of_mem_filter there
    apply cdn_of_shared distinct link otherLink different here beyond
    rcases equal with core | ⟨clear, fp⟩
    · exact core
    · exact clear.servers line (mem_lines_of_clean link here) same
        (mem_lines_of_clean otherLink beyond) fp

end Lists

section Claim

/-- What one would say of the five lists as they are served, the owner's lines and the servers that
differ in white space included. -/
structure EveryLine (pool : Pool) (scores : Scores) (snap : OwnerSnapshot) : Prop where
  distinct : ∀ n listed, IsLink n → subList pool scores snap n = some listed →
    (listed.lines.map fpOf).Nodup
  apart : ∀ n m listed other, IsLink n → IsLink m → n ≠ m →
    subList pool scores snap n = some listed → subList pool scores snap m = some other →
    ∀ line ∈ normalLines snap.lines listed, ∀ same ∈ normalLines snap.lines other,
      fpOf line = fpOf same → fpOf line ∈ pool.cdn.map fpOf
  most : ∀ n listed, IsLink n → subList pool scores snap n = some listed →
    (normalLines snap.lines listed).length ≤ subMax
  least : ∀ n listed, IsLink n → subList pool scores snap n = some listed →
    min subMin (pool.cdn.length + (ownShare pool scores n).length) ≤ listed.lines.length
  failed : ∀ n listed, IsLink n → subList pool scores snap n = some listed →
    ∀ line ∈ listed.lines, onlyFailed scores line = true →
      (listed.lines.filter fun other => !onlyFailed scores other).length < subMin
  order : ∀ n listed, IsLink n → subList pool scores snap n = some listed →
    listed.lines.Pairwise fun first second => tierOf scores first ≤ tierOf scores second

def ownerless : OwnerSnapshot where
  entries := []
  status := ⟨∅, fun _ => none⟩
  distinct := List.Pairwise.nil

/-- One config of the owner, of which nothing has been reported. -/
def oneOwner : OwnerSnapshot where
  entries := [⟨"vless://c".toList, fingerprintOf (lineCore "vless://c".toList), false, rfl⟩]
  status := ⟨∅, fun _ => none⟩
  distinct := List.nodup_singleton _

/-- A CDN list that holds a server twice, once with a blank before its name. -/
def twiceCdn : List Char := "vless://a#x\nvless://a #y".toList

def oneCdn : List Char := "vless://b".toList

/-- The server of that list has worked in Iran. -/
def oneScore : Scores :=
  AList.singleton (fingerprintOf "vless://b".toList) ⟨1, 0⟩

theorem lines_twiceCdn : (subList (poolOf twiceCdn []) ∅ ownerless 1).map Listed.lines =
    some ["vless://a#MolidoVPN%20CDN%201".toList, "vless://a #MolidoVPN%20CDN%202".toList] := by
  decide +kernel

/-- The list that holds a server twice: no two lines have the same text before the number sign. -/
theorem subLists_kept_twiceCdn :
    ∃ listed, subList (poolOf twiceCdn []) ∅ ownerless 1 = some listed ∧ listed.lines.length = 2 ∧
      LinkKept (poolOf twiceCdn []) ∅ ownerless 1 listed := by
  obtain ⟨listed, list, lines⟩ := Option.map_eq_some_iff.mp lines_twiceCdn
  refine ⟨listed, list, by rw [lines]; rfl, ?_⟩
  exact (subLists_kept twiceCdn [] ∅ ownerless).1 1 listed (by decide) list

theorem lines_oneCdn : (subList (poolOf oneCdn []) oneScore oneOwner 1).map Listed.lines =
    some ["vless://c".toList, "vless://b#MolidoVPN%20CDN%201".toList] := by
  decide +kernel

/-- Two lines of one list can have the same fingerprint, and an owner's line of which nothing is
known stands before one that works. -/
theorem everyLine_fails : ¬EveryLine (poolOf twiceCdn []) ∅ ownerless ∧
    ¬EveryLine (poolOf oneCdn []) oneScore oneOwner := by
  constructor
  · intro claimed
    obtain ⟨listed, list, lines⟩ := Option.map_eq_some_iff.mp lines_twiceCdn
    have distinct := claimed.distinct 1 listed (by decide) list
    rw [lines] at distinct
    have same : lineCore "vless://a#MolidoVPN%20CDN%201".toList =
        lineCore "vless://a #MolidoVPN%20CDN%202".toList := by
      decide +kernel
    apply (List.nodup_cons.mp distinct).1
    exact List.mem_singleton.mpr (congrArg fingerprintOf same)
  · intro claimed
    obtain ⟨listed, list, lines⟩ := Option.map_eq_some_iff.mp lines_oneCdn
    have order := claimed.order 1 listed (by decide) list
    rw [lines] at order
    have ranked := (List.pairwise_cons.mp order).1 _ (List.mem_singleton.mpr rfl)
    have unranked : ¬tierOf oneScore "vless://c".toList ≤
        tierOf oneScore "vless://b#MolidoVPN%20CDN%201".toList := by
      decide +kernel
    exact unranked ranked

end Claim

end MolidoVpn.Worker
