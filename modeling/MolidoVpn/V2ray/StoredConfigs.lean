import Mathlib.Data.List.Pairwise
import MolidoVpn.V2ray.MyConfigs

/-!
What the operations of `MyConfigs` leave of the store that they have read: what all of them keep,
and what a refresh keeps where its nodes fit what is stored.
-/

namespace MolidoVpn.V2ray.MyConfigs

open Kotlin (trim)
open Shard (ifEmpty)

section Kept

variable {device : Device} {store : Store} {drawn : Nat}

/-- What every operation keeps, whatever it reads. -/
structure Bounded (device : Device) (drawn : Nat) (store : Store) : Prop where
  ids : (store.entries.map Entry.id).Nodup
  minted : ∀ entry ∈ store.entries, ∃ count < drawn, entry.id = device.newId count
  few : store.entries.length ≤ maxEntries
  owned : ∀ entry ∈ store.entries, entry.subId ≠ [] →
    entry.kind = .proxy ∧ ∃ sub ∈ store.subs, sub.id = entry.subId
  subs : ∀ sub ∈ store.subs, ∃ count < drawn, sub.id = device.newId count

def Distinct (device : Device) (entries : List Entry) : Prop :=
  (entries.filterMap (canonical device)).Nodup

/-- The entries that the action is there to remove. -/
def Action.Removes (action : Action) (entry : Entry) : Prop :=
  match action with
  | delete id => entry.id = id
  | deleteSub subId => entry.subId = subId
  | storeNodes subId _ => entry.subId = subId
  | _ => False

/-- Nothing disappears but what the action is there to remove. -/
def Change.Kept (change : Change) : Prop :=
  ∀ entry ∈ change.before,
    entry.id ∈ change.after.map Entry.id ∨ change.action.Removes entry

variable (device) in
theorem bounded_empty : Bounded device drawn { entries := [], subs := [] } :=
  { ids := List.nodup_nil
    minted := fun _ member => absurd member List.not_mem_nil
    few := Nat.zero_le _
    owned := fun _ member => absurd member List.not_mem_nil
    subs := fun _ member => absurd member List.not_mem_nil }

theorem Bounded.later (bounded : Bounded device drawn store) {more : Nat} (le : drawn ≤ more) :
    Bounded device more store :=
  { bounded with
    minted := fun entry member => by
      obtain ⟨count, lt, same⟩ := bounded.minted entry member
      exact ⟨count, lt.trans_le le, same⟩
    subs := fun sub member => by
      obtain ⟨count, lt, same⟩ := bounded.subs sub member
      exact ⟨count, lt.trans_le le, same⟩ }

/-- A change of the entries that is about their names and latencies. -/
structure Harmless (change : Entry → Entry) : Prop where
  id : ∀ entry, (change entry).id = entry.id
  line : ∀ entry, (change entry).line = entry.line
  kind : ∀ entry, (change entry).kind = entry.kind
  subId : ∀ entry, (change entry).subId = entry.subId

section Map

variable {change : Entry → Entry} (harmless : Harmless change)

include harmless

theorem Harmless.map_id (entries : List Entry) :
    (entries.map change).map Entry.id = entries.map Entry.id := by
  rw [List.map_map]
  exact List.map_congr_left fun entry _ => harmless.id entry

theorem Harmless.filterMap_canonical (entries : List Entry) :
    (entries.map change).filterMap (canonical device) = entries.filterMap (canonical device) := by
  rw [List.filterMap_map]
  apply List.filterMap_congr
  intro entry _
  simp only [Function.comp, canonical, harmless.kind, harmless.line]

theorem Bounded.map (bounded : Bounded device drawn store) :
    Bounded device drawn { store with entries := store.entries.map change } := by
  constructor
  · rw [harmless.map_id]
    exact bounded.ids
  · intro entry member
    obtain ⟨old, there, rfl⟩ := List.mem_map.mp member
    rw [harmless.id]
    exact bounded.minted old there
  · rw [List.length_map]
    exact bounded.few
  · intro entry member
    obtain ⟨old, there, rfl⟩ := List.mem_map.mp member
    rw [harmless.subId, harmless.kind]
    exact bounded.owned old there
  · exact bounded.subs

end Map

theorem harmless_rename (id : Id) (name : List Char) : Harmless fun entry =>
    if entry.id = id then { entry with name := ifEmpty (trim name) entry.name } else entry := by
  constructor <;> intro entry <;> split <;> rfl

theorem harmless_setLatency (results : Id → Option Int) : Harmless fun entry =>
    match results entry.id with
    | some latency => { entry with latencyMs := latency }
    | none => entry := by
  constructor <;> intro entry <;> split <;> rfl

/-- Entries that stay, with subscriptions that still have their owners. -/
theorem Bounded.filter (bounded : Bounded device drawn store) (keep : Entry → Bool)
    (keepSub : Sub → Bool)
    (owners : ∀ entry ∈ store.entries, keep entry = true → ∀ sub ∈ store.subs,
      sub.id = entry.subId → keepSub sub = true) :
    Bounded device drawn
      { entries := store.entries.filter keep, subs := store.subs.filter keepSub } := by
  constructor
  · exact bounded.ids.sublist (List.filter_sublist.map Entry.id)
  · exact fun entry member => bounded.minted entry (List.mem_filter.mp member).1
  · exact (List.length_filter_le _ _).trans bounded.few
  · intro entry member nonempty
    obtain ⟨there, kept⟩ := List.mem_filter.mp member
    obtain ⟨proxy, sub, stored, same⟩ := bounded.owned entry there nonempty
    exact ⟨proxy, sub, List.mem_filter.mpr ⟨stored, owners entry there kept sub stored same⟩, same⟩
  · exact fun sub member => bounded.subs sub (List.mem_filter.mp member).1

theorem Distinct.filter {entries : List Entry} (distinct : Distinct device entries)
    (keep : Entry → Bool) : Distinct device (entries.filter keep) :=
  List.Nodup.sublist (List.filter_sublist.filterMap _) distinct

/-- New entries behind those that there are. -/
theorem Bounded.append (bounded : Bounded device drawn store) {fresh : List Entry} {more : Nat}
    (room : store.entries.length + fresh.length ≤ maxEntries) (le : drawn ≤ more)
    (nodup : (fresh.map Entry.id).Nodup)
    (new : ∀ entry ∈ fresh, ∃ count, drawn ≤ count ∧ count < more ∧
      entry.id = device.newId count)
    (unowned : ∀ entry ∈ fresh, entry.subId = []) :
    Bounded device more { store with entries := store.entries ++ fresh } := by
  constructor
  · rw [List.map_append, List.nodup_append]
    refine ⟨bounded.ids, nodup, ?_⟩
    intro old there new_ member same
    obtain ⟨entry, stored, rfl⟩ := List.mem_map.mp there
    obtain ⟨other, added, rfl⟩ := List.mem_map.mp member
    obtain ⟨count, before, id⟩ := bounded.minted entry stored
    obtain ⟨later, after, _, otherId⟩ := new other added
    rw [id, otherId] at same
    have := device.newId_injective same
    omega
  · intro entry member
    rcases List.mem_append.mp member with old | added
    · obtain ⟨count, lt, same⟩ := bounded.minted entry old
      exact ⟨count, lt.trans_le le, same⟩
    · obtain ⟨count, _, lt, same⟩ := new entry added
      exact ⟨count, lt, same⟩
  · rw [List.length_append]
    exact room
  · intro entry member nonempty
    rcases List.mem_append.mp member with old | added
    · exact bounded.owned entry old nonempty
    · exact absurd (unowned entry added) nonempty
  · exact (bounded.later le).subs

end Kept

section Adding

variable {device : Device} {store : Store} {drawn : Nat}

/-- The identity of a draft. -/
def uriOf (device : Device) (draft : Draft) : Option (List Char) :=
  (parseOne device.toPlatform draft.line).map V2rayNode.uri

variable (device) in
/-- The drafts that the loop leaves are new, and no two of them are the same. -/
theorem unknown_spec (known : List (List Char)) (drafts : List Draft) :
    ((unknown device known drafts).filterMap (uriOf device)).Nodup ∧
      ∀ uri ∈ (unknown device known drafts).filterMap (uriOf device), uri ∉ known := by
  induction drafts generalizing known with
  | nil => exact ⟨List.nodup_nil, fun _ member => absurd member List.not_mem_nil⟩
  | cons draft rest ih =>
      unfold unknown
      split
      · exact ih known
      · rename_i uri read
        split
        · exact ih known
        · rename_i fresh
          obtain ⟨nodup, new⟩ := ih (uri :: known)
          rw [List.filterMap_cons_some (show uriOf device draft = some uri from read)]
          refine ⟨List.nodup_cons.mpr ⟨fun member => new uri member List.mem_cons_self, nodup⟩, ?_⟩
          intro other member
          rcases List.mem_cons.mp member with rfl | later
          · exact fresh
          · exact fun there => new other later (List.mem_cons_of_mem _ there)

theorem length_entriesOf (drawn : Nat) (subId : Id) (drafts : List Draft) :
    (entriesOf device drawn subId drafts).length = drafts.length :=
  List.length_mapIdx

theorem mem_entriesOf {subId : Id} {drafts : List Draft} {entry : Entry}
    (member : entry ∈ entriesOf device drawn subId drafts) :
    (∃ count, drawn ≤ count ∧ count < drawn + drafts.length ∧ entry.id = device.newId count) ∧
      entry.subId = subId := by
  obtain ⟨index, inside, rfl⟩ := List.mem_mapIdx.mp member
  exact ⟨⟨drawn + index, Nat.le_add_right _ _, Nat.add_lt_add_left inside _, rfl⟩, rfl⟩

theorem nodup_entriesOf (drawn : Nat) (subId : Id) (drafts : List Draft) :
    ((entriesOf device drawn subId drafts).map Entry.id).Nodup := by
  unfold entriesOf
  rw [List.Nodup, List.pairwise_map, List.pairwise_iff_getElem]
  intro one other oneInside otherInside lt same
  rw [List.getElem_mapIdx, List.getElem_mapIdx] at same
  have := device.newId_injective same
  omega

theorem filterMap_entriesOf (drawn : Nat) (subId : Id) (drafts : List Draft) :
    (entriesOf device drawn subId drafts).filterMap (canonical device) =
      drafts.filterMap (uriOf device) := by
  unfold entriesOf
  induction drafts generalizing drawn with
  | nil => rfl
  | cons draft rest ih =>
      rw [List.mapIdx_cons, List.filterMap_cons, List.filterMap_cons]
      have later := ih (drawn + 1)
      have shifted : (rest.mapIdx fun index draft =>
          ({ id := device.newId (drawn + (index + 1)), name := draft.name, line := draft.line,
             kind := .proxy, subId := subId } : Entry)) =
          rest.mapIdx fun index draft =>
            { id := device.newId (drawn + 1 + index), name := draft.name, line := draft.line,
              kind := .proxy, subId := subId } := by
        simp only [Nat.add_assoc, Nat.add_comm 1]
      rw [shifted, later]
      rfl

theorem appendProxies_spec (bounded : Bounded device drawn store) (fresh : List Draft)
    {later : Store} (written : (appendProxies device fresh store drawn).write = some later) :
    drawn ≤ (appendProxies device fresh store drawn).drawn ∧
      Bounded device (appendProxies device fresh store drawn).drawn later ∧
      (Distinct device store.entries → Distinct device later.entries) ∧
      store.entries <+: later.entries := by
  unfold appendProxies at written ⊢
  dsimp only at written ⊢
  split at written
  · cases written
  · rename_i some_
    rw [if_neg some_]
    cases written
    have few : ((unknown device (store.entries.filterMap (canonical device)) fresh).take
        (maxEntries - store.entries.length)).length ≤ maxEntries - store.entries.length :=
      List.length_take_le _ _
    refine ⟨Nat.le_add_right _ _, bounded.append ?_ (Nat.le_add_right _ _) (nodup_entriesOf _ _ _)
      (fun entry member => (mem_entriesOf member).1) (fun entry member => (mem_entriesOf member).2),
      ?_, List.prefix_append _ _⟩
    · rw [length_entriesOf]
      have := bounded.few
      omega
    · intro distinct
      obtain ⟨nodup, new⟩ :=
        unknown_spec device (store.entries.filterMap (canonical device)) fresh
      have part := (List.take_sublist (maxEntries - store.entries.length)
        (unknown device (store.entries.filterMap (canonical device)) fresh)).filterMap
          (uriOf device)
      unfold Distinct
      rw [List.filterMap_append, filterMap_entriesOf, List.nodup_append]
      refine ⟨distinct, nodup.sublist part, ?_⟩
      intro old there uri member same
      rw [same] at there
      exact new uri (part.subset member) there

theorem addWireGuardConf_spec (bounded : Bounded device drawn store) (conf name : List Char)
    {later : Store} (written : (addWireGuardConf device conf name store drawn).write = some later) :
    drawn ≤ (addWireGuardConf device conf name store drawn).drawn ∧
      Bounded device (addWireGuardConf device conf name store drawn).drawn later ∧
      (Distinct device store.entries → Distinct device later.entries) ∧
      store.entries <+: later.entries := by
  unfold addWireGuardConf at written ⊢
  split at written
  · cases written
  · rename_i valid
    rw [if_neg valid]
    split at written
    · cases written
    · rename_i new
      rw [if_neg new]
      split at written
      · cases written
      · rename_i room
        rw [if_neg room]
        cases written
        refine ⟨Nat.le_succ _, bounded.append ?_ (Nat.le_succ _) (List.nodup_singleton _) ?_ ?_, ?_,
          List.prefix_append _ _⟩
        · rw [List.length_singleton]
          omega
        · intro entry member
          rw [List.mem_singleton.mp member]
          exact ⟨drawn, Nat.le_refl _, Nat.lt_succ_self _, rfl⟩
        · intro entry member
          rw [List.mem_singleton.mp member]
        · intro distinct
          unfold Distinct
          rw [List.filterMap_append]
          exact (List.append_nil _).symm ▸ distinct

theorem storeSub_spec (bounded : Bounded device drawn store) (url host : List Char)
    {later : Store} (written : (storeSub device url host store drawn).write = some later) :
    drawn ≤ (storeSub device url host store drawn).drawn ∧
      Bounded device (storeSub device url host store drawn).drawn later ∧
      later.entries = store.entries := by
  unfold storeSub at written ⊢
  cases found : store.subs.find? fun sub => sub.url = url with
  | some sub =>
      rw [found] at written
      cases written
  | none =>
    rw [found] at written
    cases written
    refine ⟨Nat.le_succ _, ?_, rfl⟩
    have more := bounded.later (Nat.le_succ drawn)
    refine { more with owned := ?_, subs := ?_ }
    · intro entry member nonempty
      obtain ⟨proxy, sub, stored, same⟩ := bounded.owned entry member nonempty
      exact ⟨proxy, sub, List.mem_append_left _ stored, same⟩
    · intro sub member
      rcases List.mem_append.mp member with old | new
      · exact more.subs sub old
      · rw [List.mem_singleton.mp new]
        exact ⟨drawn, Nat.lt_succ_self _, rfl⟩

end Adding

section Refreshing

variable {device : Device} {store : Store} {drawn : Nat} {subId : Id} {lines : List (List Char)}
  {node : V2rayNode}

variable (device) in
theorem nodesFor_spec (store : Store) (subId : Id) (lines : List (List Char)) :
    ((nodesFor device subId lines store).map V2rayNode.uri).Nodup ∧
      ∀ node ∈ nodesFor device subId lines store,
        ∃ raw, parseOne device.toPlatform raw = some node := by
  obtain ⟨nodup, read⟩ := @parse_spec device.toPlatform lines
  exact ⟨nodup.sublist ((List.take_sublist _ _).map _),
    fun node member => read node (List.mem_of_mem_take member)⟩

/-- The entry for a node: of the subscription, with the share line of the node, and either one of
those before with its identity, or a new one. -/
structure EntryFor (device : Device) (subId : Id) (previous : List Entry) (drawn index : Nat)
    (node : V2rayNode) (entry : Entry) : Prop where
  line : entry.line = shareLine node
  kind : entry.kind = .proxy
  subId : entry.subId = subId
  id : (∃ old ∈ previous, keyOf device old = node.uri ∧ entry.id = old.id) ∨
    (∀ old ∈ previous, keyOf device old ≠ node.uri) ∧ entry.id = device.newId (drawn + index)

variable (device) in
theorem entryOf_spec {previous : List Entry}
    (owned : ∀ entry ∈ previous, entry.kind = .proxy ∧ entry.subId = subId) (drawn index : Nat)
    (node : V2rayNode) : EntryFor device subId previous drawn index node
      (entryOf device subId previous drawn index node) := by
  unfold entryOf
  split
  · rename_i entry found
    have member := List.mem_reverse.mp (List.mem_of_find?_eq_some found)
    have key : keyOf device entry = node.uri := by simpa using List.find?_some found
    exact ⟨rfl, (owned entry member).1, (owned entry member).2, .inl ⟨entry, member, key, rfl⟩⟩
  · rename_i none_
    refine ⟨rfl, rfl, rfl, .inr ⟨?_, rfl⟩⟩
    intro old member
    have other := List.find?_eq_none.mp none_ old (List.mem_reverse.mpr member)
    exact fun same => other (decide_eq_true same)

theorem EntryFor.canonical {previous : List Entry} {index : Nat} {entry : Entry}
    (entryFor : EntryFor device subId previous drawn index node entry) {raw : List Char}
    (read : parseOne device.toPlatform raw = some node) :
    canonical device entry = some node.uri := by
  obtain ⟨_, again, parsed, same⟩ := parseOne_shareLine device.keepsHash read
  unfold MyConfigs.canonical
  rw [if_pos entryFor.kind, entryFor.line, parsed, Option.map_some, same]

theorem filterMap_mapIdx {α β γ : Type} {make : Nat → α → β} {see : β → Option γ} {name : α → γ}
    (items : List α) (seen : ∀ index, ∀ item ∈ items, see (make index item) = some (name item)) :
    (items.mapIdx make).filterMap see = items.map name := by
  induction items generalizing make with
  | nil => rfl
  | cons item rest ih =>
      rw [List.mapIdx_cons, List.filterMap_cons_some (seen 0 item List.mem_cons_self),
        List.map_cons, ih fun index other member => seen (index + 1) other (List.mem_cons_of_mem _ member)]

section Fresh

variable (bounded : Bounded device drawn store) (stored : ∃ sub ∈ store.subs, sub.id = subId)

include bounded stored

theorem Bounded.subId_ne_nil : subId ≠ [] := by
  obtain ⟨sub, member, rfl⟩ := stored
  obtain ⟨count, _, same⟩ := bounded.subs sub member
  rw [same]
  exact device.newId_ne_nil count

theorem Bounded.owned_previous :
    ∀ entry ∈ store.entries.filter fun entry => entry.subId = subId,
      entry.kind = .proxy ∧ entry.subId = subId := by
  intro entry member
  obtain ⟨there, own⟩ := List.mem_filter.mp member
  have same := of_decide_eq_true own
  refine ⟨(bounded.owned entry there ?_).1, same⟩
  rw [same]
  exact bounded.subId_ne_nil stored

theorem Bounded.mem_freshEntries {entry : Entry}
    (member : entry ∈ freshEntries device subId lines store drawn) :
    ∃ index node, index < (freshEntries device subId lines store drawn).length ∧
      node ∈ nodesFor device subId lines store ∧
      EntryFor device subId (store.entries.filter fun entry => entry.subId = subId) drawn index
        node entry := by
  obtain ⟨index, inside, rfl⟩ := List.mem_mapIdx.mp member
  refine ⟨index, _, ?_, List.getElem_mem inside,
    entryOf_spec device (bounded.owned_previous stored) drawn index _⟩
  unfold freshEntries
  rw [List.length_mapIdx]
  exact inside

theorem Bounded.filterMap_freshEntries :
    (freshEntries device subId lines store drawn).filterMap (canonical device) =
      (nodesFor device subId lines store).map V2rayNode.uri := by
  apply filterMap_mapIdx
  intro index node member
  obtain ⟨raw, read⟩ := (nodesFor_spec device store subId lines).2 node member
  exact (entryOf_spec device (bounded.owned_previous stored) drawn index node).canonical read

/-- No entry is taken for two nodes. -/
theorem Bounded.nodup_freshEntries :
    ((freshEntries device subId lines store drawn).map Entry.id).Nodup := by
  have uris := (nodesFor_spec device store subId lines).1
  unfold freshEntries
  rw [List.Nodup, List.pairwise_map, List.pairwise_iff_getElem]
  intro one other oneInside otherInside lt same
  rw [List.getElem_mapIdx, List.getElem_mapIdx] at same
  rw [List.length_mapIdx] at oneInside otherInside
  rw [List.Nodup, List.pairwise_map, List.pairwise_iff_getElem] at uris
  have differ := uris one other oneInside otherInside lt
  have first := entryOf_spec device (bounded.owned_previous stored) drawn one
    (nodesFor device subId lines store)[one]
  have second := entryOf_spec device (bounded.owned_previous stored) drawn other
    (nodesFor device subId lines store)[other]
  rcases first.id with ⟨old, there, key, id⟩ | ⟨_, id⟩
  · obtain ⟨count, before, mint⟩ := bounded.minted old (List.mem_filter.mp there).1
    rcases second.id with ⟨old2, there2, key2, id2⟩ | ⟨_, id2⟩
    · have equal : old = old2 := by
        apply List.inj_on_of_nodup_map bounded.ids (List.mem_filter.mp there).1
          (List.mem_filter.mp there2).1
        rw [← id, same, id2]
      rw [equal, key2] at key
      exact differ key.symm
    · rw [id, id2, mint] at same
      have := device.newId_injective same
      omega
  · rcases second.id with ⟨old2, there2, key2, id2⟩ | ⟨_, id2⟩
    · obtain ⟨count, before, mint⟩ := bounded.minted old2 (List.mem_filter.mp there2).1
      rw [id, id2, mint] at same
      have := device.newId_injective same
      omega
    · rw [id, id2] at same
      have := device.newId_injective same
      omega

end Fresh

end Refreshing

section Actions

variable {device : Device} {store : Store} {drawn : Nat} {pinned : Id}

/-- A refresh brings no config that is stored elsewhere, and does not drop the pinned entry. -/
structure Fits (device : Device) (store : Store) (pinned : Id) (subId : Id)
    (lines : List (List Char)) : Prop where
  fresh : ∀ entry ∈ store.entries, entry.subId ≠ subId →
    ∀ node ∈ nodesFor device subId lines store, canonical device entry ≠ some node.uri
  pinned : ∀ entry ∈ store.entries, entry.subId = subId → entry.id = pinned →
    ∃ node ∈ nodesFor device subId lines store, canonical device entry = some node.uri

/-- A refresh leaves the entries as they are, or replaces those of its subscription. -/
inductive Refreshed (device : Device) (store : Store) (subId : Id) (lines : List (List Char))
    (drawn : Nat) (entries : List Entry) (more : Nat) : Prop where
  | kept (same : entries = store.entries) (unused : more = drawn)
  | replaced (stored : ∃ sub ∈ store.subs, sub.id = subId)
      (offered : parse device.toPlatform lines ≠ [])
      (same : entries = (store.entries.filter fun entry => entry.subId ≠ subId) ++
        freshEntries device subId lines store drawn)
      (used : more = drawn + (freshEntries device subId lines store drawn).length)

theorem storeNodes_refreshed {subId : Id} {lines : List (List Char)} {now : Int} {later : Store}
    (written : (storeNodes device subId lines now store drawn).write = some later) :
    Refreshed device store subId lines drawn later.entries
        (storeNodes device subId lines now store drawn).drawn ∧
      later.subs.map Sub.id = store.subs.map Sub.id := by
  have ids : (store.subs.map fun sub =>
      if sub.id = subId then { sub with lastFetch := now } else sub).map Sub.id =
      store.subs.map Sub.id := by
    rw [List.map_map]
    apply List.map_congr_left
    intro sub _
    simp only [Function.comp]
    split <;> rfl
  unfold storeNodes at written ⊢
  split at written
  · cases written
  · rename_i known
    rw [if_neg known]
    dsimp only at written ⊢
    split at written
    · rename_i empty
      rw [if_pos empty]
      cases written
      exact ⟨.kept rfl rfl, ids⟩
    · rename_i offered
      rw [if_neg offered]
      cases written
      refine ⟨.replaced ?_ offered rfl rfl, ids⟩
      rw [Bool.not_eq_true', Bool.not_eq_false, List.any_eq_true] at known
      obtain ⟨sub, member, same⟩ := known
      exact ⟨sub, member, of_decide_eq_true same⟩

/-- What an action leaves of the entries. -/
structure Leaves (device : Device) (action : Action) (entries : List Entry) (pinned : Id)
    (removed : Option (List Id)) (later : List Entry) : Prop where
  distinct : Distinct device later
  kept : ∀ entry ∈ entries, entry.id ∈ later.map Entry.id ∨ action.Removes entry
  pinned : pinned ∈ entries.map Entry.id →
    pinned ∈ later.map Entry.id ∨ ∃ ids, removed = some ids ∧ pinned ∈ ids

theorem exists_sub_of_ids {subs later : List Sub} (ids : later.map Sub.id = subs.map Sub.id)
    {id : Id} (there : ∃ sub ∈ subs, sub.id = id) : ∃ sub ∈ later, sub.id = id := by
  rw [← List.mem_map, ids, List.mem_map]
  exact there

section StoreNodes

variable {subId : Id} {lines : List (List Char)}

/-- What a refresh replaces is as well kept as what it replaces. -/
theorem Bounded.replaced (bounded : Bounded device drawn store)
    (stored : ∃ sub ∈ store.subs, sub.id = subId) {later : Store}
    (same : later.entries = (store.entries.filter fun entry => entry.subId ≠ subId) ++
      freshEntries device subId lines store drawn)
    (ids : later.subs.map Sub.id = store.subs.map Sub.id) :
    Bounded device (drawn + (freshEntries device subId lines store drawn).length) later := by
  have others : ∀ entry ∈ store.entries.filter fun entry => entry.subId ≠ subId,
      entry ∈ store.entries := fun entry member => (List.mem_filter.mp member).1
  constructor
  · rw [same, List.map_append, List.nodup_append]
    refine ⟨bounded.ids.sublist (List.filter_sublist.map _), bounded.nodup_freshEntries stored, ?_⟩
    intro old there new member equal
    obtain ⟨entry, kept, rfl⟩ := List.mem_map.mp there
    obtain ⟨other, added, rfl⟩ := List.mem_map.mp member
    obtain ⟨index, node, _, _, entryFor⟩ := bounded.mem_freshEntries stored added
    rcases entryFor.id with ⟨before, own, _, id⟩ | ⟨_, id⟩
    · have one : entry = before := by
        apply List.inj_on_of_nodup_map bounded.ids (others entry kept) (List.mem_filter.mp own).1
        rw [equal, id]
      have apart := of_decide_eq_true (List.mem_filter.mp kept).2
      rw [one] at apart
      exact apart (of_decide_eq_true (List.mem_filter.mp own).2)
    · obtain ⟨count, less, mint⟩ := bounded.minted entry (others entry kept)
      rw [mint, id] at equal
      have := device.newId_injective equal
      omega
  · intro entry member
    rw [same] at member
    rcases List.mem_append.mp member with kept | added
    · obtain ⟨count, less, mint⟩ := bounded.minted entry (others entry kept)
      exact ⟨count, by omega, mint⟩
    · obtain ⟨index, node, inside, _, entryFor⟩ := bounded.mem_freshEntries stored added
      rcases entryFor.id with ⟨before, own, _, id⟩ | ⟨_, id⟩
      · obtain ⟨count, less, mint⟩ := bounded.minted before (List.mem_filter.mp own).1
        exact ⟨count, by omega, id.trans mint⟩
      · exact ⟨drawn + index, by omega, id⟩
  · have room : (nodesFor device subId lines store).length ≤
        maxEntries - (store.entries.filter fun entry => entry.subId ≠ subId).length :=
      List.length_take_le _ _
    have fewer := List.length_filter_le (fun entry => entry.subId ≠ subId) store.entries
    have few := bounded.few
    rw [same, List.length_append]
    unfold freshEntries
    rw [List.length_mapIdx]
    omega
  · intro entry member nonempty
    rw [same] at member
    rcases List.mem_append.mp member with kept | added
    · obtain ⟨proxy, there⟩ := bounded.owned entry (others entry kept) nonempty
      exact ⟨proxy, exists_sub_of_ids ids there⟩
    · obtain ⟨index, node, _, _, entryFor⟩ := bounded.mem_freshEntries stored added
      exact ⟨entryFor.kind, exists_sub_of_ids ids (by rw [entryFor.subId]; exact stored)⟩
  · intro sub member
    have there : sub.id ∈ store.subs.map Sub.id := by
      rw [← ids]
      exact List.mem_map_of_mem member
    obtain ⟨old, stored, equal⟩ := List.mem_map.mp there
    obtain ⟨count, less, mint⟩ := bounded.subs old stored
    exact ⟨count, by omega, equal.symm.trans mint⟩

theorem keyOf_of_canonical {entry : Entry} {uri : List Char}
    (known : canonical device entry = some uri) : keyOf device entry = uri := by
  unfold canonical at known
  split at known
  · rw [keyOf, known]
    rfl
  · cases known

theorem canonical_of_keyOf {entry : Entry} {uri : List Char} (proxy : entry.kind = .proxy)
    (nonempty : uri ≠ []) (key : keyOf device entry = uri) : canonical device entry = some uri := by
  rw [canonical, if_pos proxy]
  unfold keyOf at key
  cases read : (parseOne device.toPlatform entry.line).map V2rayNode.uri with
  | none =>
      rw [read] at key
      exact absurd key.symm nonempty
  | some other =>
      rw [read] at key
      exact congrArg some key

theorem Distinct.eq {entries : List Entry} (distinct : Distinct device entries)
    {one other : Entry} (first : one ∈ entries) (second : other ∈ entries) {uri : List Char}
    (oneUri : canonical device one = some uri) (otherUri : canonical device other = some uri) :
    one = other := by
  by_contra apart
  have pairs := List.pairwise_filterMap.mp distinct
  have symmetric : Std.Symm fun one other : Entry => ∀ uri, canonical device one = some uri →
      ∀ second, canonical device other = some second → uri ≠ second :=
    ⟨fun _ _ differ uri known second other => (differ second other uri known).symm⟩
  exact pairs.forall first second apart uri oneUri uri otherUri rfl

/-- The entry of a node that is offered again keeps its id. -/
theorem Bounded.id_kept (bounded : Bounded device drawn store)
    (distinct : Distinct device store.entries) (stored : ∃ sub ∈ store.subs, sub.id = subId)
    {entry : Entry} (there : entry ∈ store.entries) (own : entry.subId = subId)
    {node : V2rayNode} (offered : node ∈ nodesFor device subId lines store)
    (known : canonical device entry = some node.uri) :
    entry.id ∈ (freshEntries device subId lines store drawn).map Entry.id := by
  obtain ⟨index, inside, rfl⟩ := List.mem_iff_getElem.mp offered
  obtain ⟨raw, read⟩ := (nodesFor_spec device store subId lines).2 _ offered
  have nonempty := (parseOne_shareLine device.keepsHash read).1
  have entryFor := entryOf_spec device (bounded.owned_previous stored) drawn index
    (nodesFor device subId lines store)[index]
  refine List.mem_map.mpr ⟨_, List.mem_mapIdx.mpr ⟨index, inside, rfl⟩, ?_⟩
  rcases entryFor.id with ⟨old, before, key, id⟩ | ⟨absent, _⟩
  · have proxy := (bounded.owned_previous stored old before).1
    rw [id, distinct.eq (List.mem_filter.mp before).1 there (canonical_of_keyOf proxy nonempty key)
      known]
  · exact absurd (keyOf_of_canonical known)
      (absent entry (List.mem_filter.mpr ⟨there, decide_eq_true own⟩))

theorem Bounded.distinct_replaced (bounded : Bounded device drawn store)
    (distinct : Distinct device store.entries) (stored : ∃ sub ∈ store.subs, sub.id = subId)
    (fresh : ∀ entry ∈ store.entries, entry.subId ≠ subId →
      ∀ node ∈ nodesFor device subId lines store, canonical device entry ≠ some node.uri) :
    Distinct device ((store.entries.filter fun entry => entry.subId ≠ subId) ++
      freshEntries device subId lines store drawn) := by
  unfold Distinct
  rw [List.filterMap_append, bounded.filterMap_freshEntries stored, List.nodup_append]
  refine ⟨distinct.filter _, (nodesFor_spec device store subId lines).1, ?_⟩
  intro old kept uri offered same
  obtain ⟨entry, member, known⟩ := List.mem_filterMap.mp kept
  obtain ⟨node, there, rfl⟩ := List.mem_map.mp offered
  obtain ⟨stored, other⟩ := List.mem_filter.mp member
  exact fresh entry stored (of_decide_eq_true other) node there (known.trans (congrArg some same))

/-- Subscriptions that keep their ids own what they have owned. -/
theorem Bounded.of_ids (bounded : Bounded device drawn store) {later : Store}
    (same : later.entries = store.entries)
    (ids : later.subs.map Sub.id = store.subs.map Sub.id) : Bounded device drawn later := by
  refine ⟨by rw [same]; exact bounded.ids, by rw [same]; exact bounded.minted,
    by rw [same]; exact bounded.few, ?_, ?_⟩
  · rw [same]
    intro entry member nonempty
    obtain ⟨proxy, there⟩ := bounded.owned entry member nonempty
    exact ⟨proxy, exists_sub_of_ids ids there⟩
  · intro sub member
    obtain ⟨old, stored, equal⟩ := exists_sub_of_ids ids.symm ⟨sub, member, rfl⟩
    rw [← equal]
    exact bounded.subs old stored

theorem storeNodes_bounded (bounded : Bounded device drawn store) {now : Int} {later : Store}
    (written : (storeNodes device subId lines now store drawn).write = some later) :
    drawn ≤ (storeNodes device subId lines now store drawn).drawn ∧
      Bounded device (storeNodes device subId lines now store drawn).drawn later := by
  obtain ⟨refreshed, ids⟩ := storeNodes_refreshed written
  cases refreshed with
  | kept same unused =>
      rw [unused]
      exact ⟨Nat.le_refl _, bounded.of_ids same ids⟩
  | replaced stored _ same used =>
      rw [used]
      exact ⟨Nat.le_add_right _ _, bounded.replaced stored same ids⟩

theorem storeNodes_leaves (bounded : Bounded device drawn store)
    (distinct : Distinct device store.entries) {now : Int}
    (fits : (∃ sub ∈ store.subs, sub.id = subId) → parse device.toPlatform lines ≠ [] →
      Fits device store pinned subId lines) {later : Store}
    (written : (storeNodes device subId lines now store drawn).write = some later) :
    Leaves device (.storeNodes subId lines) store.entries pinned none later.entries := by
  cases (storeNodes_refreshed written).1 with
  | kept same _ =>
      rw [same]
      exact ⟨distinct, fun entry member => .inl (List.mem_map_of_mem member), .inl⟩
  | replaced stored offered same _ =>
      have fit := fits stored offered
      rw [same]
      refine ⟨bounded.distinct_replaced distinct stored fit.fresh, ?_, ?_⟩
      · intro entry member
        by_cases own : entry.subId = subId
        · exact .inr own
        · rw [List.map_append]
          exact .inl (List.mem_append_left _ (List.mem_map_of_mem
            (List.mem_filter.mpr ⟨member, decide_eq_true own⟩)))
      · intro member
        obtain ⟨entry, there, id⟩ := List.mem_map.mp member
        rw [List.map_append, ← id]
        left
        by_cases own : entry.subId = subId
        · obtain ⟨node, offer, known⟩ := fit.pinned entry there own id
          exact List.mem_append_right _ (bounded.id_kept distinct stored there own offer known)
        · exact List.mem_append_left _ (List.mem_map_of_mem
            (List.mem_filter.mpr ⟨there, decide_eq_true own⟩))

end StoreNodes

end Actions

end MolidoVpn.V2ray.MyConfigs
