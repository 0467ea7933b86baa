import MolidoVpn.Lib.Transition
import MolidoVpn.V2ray.Accepted
import MolidoVpn.V2ray.StoredConfigs

/-!
Runs of the operations of `MyConfigs`, in any order and with reads that fail: what is stored in
all of them, and what is stored in those whose reads and refreshes are handled well.
-/

namespace MolidoVpn.V2ray.MyConfigs

open Transition (Run Restrict ofNext execute run_of_execute executeChecked run_of_executeChecked)

section Running

variable {device : Device} {store : Store} {drawn : Nat} {pinned : Id}

/-- What becomes of the pin where an entry stays, or goes as one of those that are removed. -/
theorem pinned_of_kept {entries later : List Entry} {removed : Option (List Id)}
    (each : ∀ entry ∈ entries, entry.id ∈ later.map Entry.id ∨
      ∃ ids, removed = some ids ∧ entry.id ∈ ids)
    (there : pinned ∈ entries.map Entry.id) :
    pinned ∈ later.map Entry.id ∨ ∃ ids, removed = some ids ∧ pinned ∈ ids := by
  obtain ⟨entry, member, rfl⟩ := List.mem_map.mp there
  exact each entry member

/-- The entries stay, and some are added behind them. -/
theorem Leaves.of_longer {action : Action} {removed : Option (List Id)} {entries later : List Entry}
    (distinct : Distinct device later) (longer : entries <+: later) :
    Leaves device action entries pinned removed later :=
  { distinct := distinct
    kept := fun _ member => .inl ((longer.map Entry.id).subset (List.mem_map_of_mem member))
    pinned := fun member => .inl ((longer.map Entry.id).subset member) }

theorem Leaves.of_map {action : Action} {removed : Option (List Id)} {change : Entry → Entry}
    (harmless : Harmless change) {entries : List Entry} (distinct : Distinct device entries) :
    Leaves device action entries pinned removed (entries.map change) := by
  refine ⟨?_, ?_, ?_⟩
  · unfold Distinct
    rw [harmless.filterMap_canonical]
    exact distinct
  · rw [harmless.map_id]
    exact fun entry member => .inl (List.mem_map_of_mem member)
  · rw [harmless.map_id]
    exact .inl

/-- Entries go, and those that go are removed by their ids. -/
theorem Leaves.of_filter {action : Action} {entries : List Entry} {gone : List Id}
    (distinct : Distinct device entries) (keep : Entry → Bool)
    (removes : ∀ entry ∈ entries, keep entry = false → action.Removes entry ∧ entry.id ∈ gone) :
    Leaves device action entries pinned (some gone) (entries.filter keep) := by
  have each : ∀ entry ∈ entries, entry.id ∈ (entries.filter keep).map Entry.id ∨
      action.Removes entry ∧ entry.id ∈ gone := by
    intro entry member
    by_cases stays : keep entry = true
    · exact .inl (List.mem_map_of_mem (List.mem_filter.mpr ⟨member, stays⟩))
    · exact .inr (removes entry member (Bool.eq_false_iff.mpr stays))
  refine ⟨distinct.filter _, fun entry member => (each entry member).imp_right And.left, ?_⟩
  apply pinned_of_kept
  exact fun entry member => (each entry member).imp_right fun both => ⟨gone, rfl, both.2⟩

theorem storeNodes_removed (subId : Id) (lines : List (List Char)) (now : Int) (store : Store)
    (drawn : Nat) : (storeNodes device subId lines now store drawn).removed = none := by
  unfold storeNodes
  dsimp only
  split
  · rfl
  · split <;> rfl

/-- What an action writes is well kept. -/
theorem run_bounded (action : Action) (now : Int) (bounded : Bounded device drawn store)
    {later : Store} (written : (action.run device now store drawn).write = some later) :
    drawn ≤ (action.run device now store drawn).drawn ∧
      Bounded device (action.run device now store drawn).drawn later := by
  cases action with
  | rename id name =>
      cases written
      exact ⟨Nat.le_refl _, bounded.map (harmless_rename id name)⟩
  | delete id =>
      cases written
      have filtered := bounded.filter (fun entry => entry.id ≠ id) (fun _ => true)
        fun _ _ _ _ _ _ => rfl
      rw [List.filter_true] at filtered
      exact ⟨Nat.le_refl _, filtered⟩
  | deleteSub subId =>
      cases written
      refine ⟨Nat.le_refl _, bounded.filter _ _ ?_⟩
      intro entry _ kept sub _ own
      rw [own]
      exact kept
  | setLatency results =>
      cases written
      exact ⟨Nat.le_refl _, bounded.map (harmless_setLatency results)⟩
  | appendProxies fresh =>
      obtain ⟨le, kept, _⟩ := appendProxies_spec bounded fresh written
      exact ⟨le, kept⟩
  | addWireGuardConf conf name =>
      obtain ⟨le, kept, _⟩ := addWireGuardConf_spec bounded conf name written
      exact ⟨le, kept⟩
  | storeSub url host =>
      obtain ⟨le, kept, _⟩ := storeSub_spec bounded url host written
      exact ⟨le, kept⟩
  | storeNodes subId lines => exact storeNodes_bounded bounded written

/-- What an action leaves of the entries that it has read. -/
theorem run_leaves {action : Action} {now : Int} (bounded : Bounded device drawn store)
    (distinct : Distinct device store.entries)
    (fits : ∀ subId lines, action = .storeNodes subId lines →
      (∃ sub ∈ store.subs, sub.id = subId) → parse device.toPlatform lines ≠ [] →
      Fits device store pinned subId lines) {later : Store}
    (written : (action.run device now store drawn).write = some later) :
    Leaves device action store.entries pinned (action.run device now store drawn).removed
      later.entries := by
  cases action with
  | rename id name =>
      cases written
      exact .of_map (harmless_rename id name) distinct
  | delete id =>
      cases written
      apply Leaves.of_filter distinct
      intro entry _ goes
      have same : entry.id = id := by simpa using goes
      exact ⟨same, List.mem_singleton.mpr same⟩
  | deleteSub subId =>
      cases written
      apply Leaves.of_filter distinct
      intro entry member goes
      have same : entry.subId = subId := by simpa using goes
      exact ⟨same, List.mem_map_of_mem (List.mem_filter.mpr ⟨member, decide_eq_true same⟩)⟩
  | setLatency results =>
      cases written
      exact .of_map (harmless_setLatency results) distinct
  | appendProxies fresh =>
      obtain ⟨_, _, apart, longer⟩ := appendProxies_spec bounded fresh written
      exact .of_longer (apart distinct) longer
  | addWireGuardConf conf name =>
      obtain ⟨_, _, apart, longer⟩ := addWireGuardConf_spec bounded conf name written
      exact .of_longer (apart distinct) longer
  | storeSub url host =>
      obtain ⟨_, _, same⟩ := storeSub_spec bounded url host written
      rw [same]
      exact .of_longer distinct (List.prefix_refl _)
  | storeNodes subId lines =>
      change Leaves device _ _ _ (storeNodes device subId lines now store drawn).removed _
      rw [storeNodes_removed]
      exact storeNodes_leaves bounded distinct (fits subId lines rfl) written

/-- An action that writes nothing removes nothing either, and draws no ids. -/
theorem run_silent {action : Action} {now : Int}
    (silent : (action.run device now store drawn).write = none) :
    (action.run device now store drawn).removed = none ∧
      (action.run device now store drawn).drawn = drawn := by
  cases action with
  | rename id name => cases silent
  | delete id => cases silent
  | deleteSub subId => cases silent
  | setLatency results => cases silent
  | appendProxies fresh =>
      change (appendProxies device fresh store drawn).write = none at silent
      change (appendProxies device fresh store drawn).removed = none ∧
        (appendProxies device fresh store drawn).drawn = drawn
      unfold appendProxies at silent ⊢
      dsimp only at silent ⊢
      split at silent
      · rename_i nothing
        rw [if_pos nothing]
        exact ⟨rfl, rfl⟩
      · cases silent
  | addWireGuardConf conf name =>
      change (addWireGuardConf device conf name store drawn).write = none at silent
      change (addWireGuardConf device conf name store drawn).removed = none ∧
        (addWireGuardConf device conf name store drawn).drawn = drawn
      unfold addWireGuardConf at silent ⊢
      split_ifs at silent ⊢ <;> exact ⟨rfl, rfl⟩
  | storeSub url host =>
      change (storeSub device url host store drawn).write = none at silent
      change (storeSub device url host store drawn).removed = none ∧
        (storeSub device url host store drawn).drawn = drawn
      unfold storeSub at silent ⊢
      split at silent
      · exact ⟨rfl, rfl⟩
      · cases silent
  | storeNodes subId lines =>
      change (storeNodes device subId lines now store drawn).write = none at silent
      change (storeNodes device subId lines now store drawn).removed = none ∧
        (storeNodes device subId lines now store drawn).drawn = drawn
      refine ⟨storeNodes_removed subId lines now store drawn, ?_⟩
      unfold storeNodes at silent ⊢
      dsimp only at silent ⊢
      split at silent
      · rename_i none_
        rw [if_pos none_]
      · split at silent <;> cases silent

end Running

section Runs

variable {device : Device} {s : State}

/-- An action that writes nothing where it finds nothing. -/
def Action.Idle (device : Device) : Action → Prop
  | appendProxies fresh => ∀ draft ∈ fresh, uriOf device draft = none
  | addWireGuardConf conf _ => device.validConf conf = false
  | storeNodes _ _ => True
  | _ => False

/-- A read fails only for an action that then writes nothing, or where everything goes anyway, and
a refresh fits what is stored. -/
structure Handled (device : Device) (s : State) (fails : Bool) (action : Action) : Prop where
  read : fails = true → action.Idle device ∨
    (∀ entry ∈ s.store.entries, action.Removes entry) ∧
      (s.pinned = [] ∨ ∃ id, action = .delete id)
  fits : fails = false → ∀ subId lines, action = .storeNodes subId lines →
    (∃ sub ∈ s.store.subs, sub.id = subId) → parse device.toPlatform lines ≠ [] →
    Fits device s.store s.pinned subId lines

def Tame (device : Device) (s : State) : Label → Prop
  | .act thread fails _ => ∀ action rest, s.threads[thread]? = some (.locked action :: rest) →
      Handled device s fails action
  | _ => True

/-- What the pin may be while the lock is as it is. -/
def Lock.Allows (lock : Lock) (pinned : Id) (entries : List Entry) : Prop :=
  match lock with
  | free => pinned = [] ∨ pinned ∈ entries.map Entry.id
  | unpinning removed => pinned = [] ∨ pinned ∈ entries.map Entry.id ∨ pinned ∈ removed
  | clearing => True

structure Sound (device : Device) (s : State) : Prop where
  bounded : Bounded device s.drawn s.store
  distinct : Distinct device s.store.entries
  pinned : s.lock.Allows s.pinned s.store.entries
  kept : ∀ change ∈ s.changes, change.Kept

theorem run_idle {action : Action} (idle : action.Idle device) (now : Int) (drawn : Nat) :
    (action.run device now { entries := [], subs := [] } drawn).write = none := by
  cases action with
  | appendProxies fresh =>
      have nothing : ∀ known drafts, (∀ draft ∈ drafts, uriOf device draft = none) →
          unknown device known drafts = [] := by
        intro known drafts
        induction drafts generalizing known with
        | nil => exact fun _ => rfl
        | cons draft rest ih =>
            intro none_
            have first : (parseOne device.toPlatform draft.line).map V2rayNode.uri = none :=
              none_ draft List.mem_cons_self
            rw [unknown, first]
            exact ih known fun other member => none_ other (List.mem_cons_of_mem _ member)
      change (appendProxies device fresh { entries := [], subs := [] } drawn).write = none
      unfold appendProxies
      dsimp only
      rw [List.filterMap_nil, nothing [] fresh idle]
      rfl
  | addWireGuardConf conf name =>
      change (addWireGuardConf device conf name { entries := [], subs := [] } drawn).write = none
      unfold addWireGuardConf
      rw [if_pos (by rw [show device.validConf conf = false from idle]; rfl)]
  | storeNodes subId lines => rfl
  | rename id name => exact idle.elim
  | delete id => exact idle.elim
  | deleteSub subId => exact idle.elim
  | setLatency results => exact idle.elim
  | storeSub url host => exact idle.elim

theorem readStore_bounded {drawn : Nat} {store : Store} (bounded : Bounded device drawn store)
    (fails : Bool) : Bounded device drawn (readStore fails store) := by
  cases fails with
  | false => exact bounded
  | true => exact bounded_empty device

section Act

variable {action : Action} {fails : Bool} {now : Int} {thread : Nat} {rest : List Task}

theorem bounded_act (bounded : Bounded device s.drawn s.store) :
    Bounded device (s.act device thread action rest fails now).drawn
      (s.act device thread action rest fails now).store := by
  have read := readStore_bounded bounded fails
  unfold State.act
  dsimp only
  cases written : (action.run device now (readStore fails s.store) s.drawn).write with
  | none =>
      rw [(run_silent written).2]
      exact bounded
  | some store => exact (run_bounded action now read written).2

theorem Bounded.ne_nil_of_mem {drawn : Nat} {store : Store} (bounded : Bounded device drawn store)
    {id : Id} (member : id ∈ store.entries.map Entry.id) : id ≠ [] := by
  obtain ⟨entry, there, rfl⟩ := List.mem_map.mp member
  obtain ⟨count, _, same⟩ := bounded.minted entry there
  rw [same]
  exact device.newId_ne_nil count

/-- What an action leaves of what is stored, whether it has been able to read it or not. -/
theorem Sound.leaves (sound : Sound device s) (handled : Handled device s fails action)
    {later : Store}
    (written : (action.run device now (readStore fails s.store) s.drawn).write = some later) :
    Leaves device action s.store.entries s.pinned
      (action.run device now (readStore fails s.store) s.drawn).removed later.entries := by
  cases fails with
  | false => exact run_leaves sound.bounded sound.distinct (handled.fits rfl) written
  | true =>
      rcases handled.read rfl with idle | ⟨removes, unpinned⟩
      · exact absurd ((run_idle idle now s.drawn).symm.trans written) (Option.some_ne_none _).symm
      · have fits : ∀ subId lines, action = .storeNodes subId lines →
            (∃ sub ∈ ([] : List Sub), sub.id = subId) → parse device.toPlatform lines ≠ [] →
            Fits device { entries := [], subs := [] } s.pinned subId lines := by
          rintro subId lines _ ⟨sub, member, _⟩
          cases member
        have fresh := run_leaves (bounded_empty device) List.nodup_nil fits written
        refine ⟨fresh.distinct, fun entry member => .inr (removes entry member), ?_⟩
        intro member
        rcases unpinned with none_ | ⟨id, rfl⟩
        · exact absurd none_ (sound.bounded.ne_nil_of_mem member)
        · obtain ⟨entry, there, same⟩ := List.mem_map.mp member
          exact .inr ⟨[id], rfl, List.mem_singleton.mpr (same.symm.trans (removes entry there))⟩

theorem Sound.act (sound : Sound device s) (free : s.lock = .free)
    (handled : Handled device s fails action) :
    Sound device (s.act device thread action rest fails now) := by
  have bounded := @bounded_act device s action fails now thread rest sound.bounded
  have pinned := sound.pinned
  rw [free] at pinned
  unfold State.act at bounded ⊢
  dsimp only at bounded ⊢
  cases written : (action.run device now (readStore fails s.store) s.drawn).write with
  | none =>
      rw [written] at bounded
      refine ⟨bounded, sound.distinct, ?_, ?_⟩
      · dsimp only
        rw [(run_silent written).1]
        exact pinned
      · intro change member
        rcases List.mem_append.mp member with old | new
        · exact sound.kept change old
        · rw [List.mem_singleton.mp new]
          exact fun entry there => .inl (List.mem_map_of_mem there)
  | some later =>
      rw [written] at bounded
      have leaves := sound.leaves handled written
      refine ⟨bounded, leaves.distinct, ?_, ?_⟩
      · dsimp only
        generalize (action.run device now (readStore fails s.store) s.drawn).removed = removed
          at leaves
        rcases pinned with none_ | there
        · cases removed with
          | none => exact .inl none_
          | some ids => exact .inl none_
        · rcases leaves.pinned there with stays | ⟨ids, rfl, gone⟩
          · cases removed with
            | none => exact .inr stays
            | some ids => exact .inr (.inl stays)
          · exact .inr (.inr gone)
      · intro change member
        rcases List.mem_append.mp member with old | new
        · exact sound.kept change old
        · rw [List.mem_singleton.mp new]
          exact leaves.kept

end Act

/-- A step that is no action leaves the store alone, and the pin as the lock allows it. -/
structure Aside (s later : State) : Prop where
  store : later.store = s.store
  drawn : later.drawn = s.drawn
  changes : later.changes = s.changes
  pinned : s.lock.Allows s.pinned s.store.entries →
    later.lock.Allows later.pinned later.store.entries

theorem next_cases {label : Label} {later : State} (step : next device s label = some later) :
    Aside s later ∨ ∃ thread fails now action rest, label = .act thread fails now ∧
      s.lock = .free ∧ s.threads[thread]? = some (.locked action :: rest) ∧
      later = s.act device thread action rest fails now := by
  cases label with
  | call call =>
      cases step
      exact .inl ⟨rfl, rfl, rfl, id⟩
  | answer thread body =>
      unfold next at step
      dsimp only at step
      split at step
      · cases step
        exact .inl ⟨rfl, rfl, rfl, id⟩
      · cases step
  | act thread fails now =>
      unfold next at step
      dsimp only at step
      split at step
      · rename_i action rest free there
        cases step
        exact .inr ⟨thread, fails, now, action, rest, rfl, free, there, rfl⟩
      · cases step
  | unpin =>
      unfold next at step
      dsimp only at step
      split at step
      · cases step
      · rename_i removed held
        cases step
        refine .inl ⟨rfl, rfl, rfl, ?_⟩
        rw [held]
        intro pinned
        dsimp only
        split
        · trivial
        · rename_i other
          rcases pinned with none_ | there | gone
          · exact .inl none_
          · exact .inr there
          · exact absurd gone other
      · cases step
        exact .inl ⟨rfl, rfl, rfl, fun _ => .inl rfl⟩
  | pin id =>
      unfold next at step
      dsimp only at step
      split at step
      · rename_i stored
        cases step
        refine .inl ⟨rfl, rfl, rfl, fun _ => ?_⟩
        dsimp only
        cases s.lock with
        | free => exact stored
        | unpinning removed => exact stored.imp_right .inl
        | clearing => trivial
      · cases step

theorem bounded_next {label : Label} {later : State} (step : next device s label = some later)
    (bounded : Bounded device s.drawn s.store) : Bounded device later.drawn later.store := by
  rcases next_cases step with aside | ⟨thread, fails, now, action, rest, _, _, _, rfl⟩
  · rw [aside.store, aside.drawn]
    exact bounded
  · exact bounded_act bounded

/-- A step that handles the store well keeps it sound. -/
theorem Sound.next {label : Label} {later : State} (sound : Sound device s)
    (step : next device s label = some later) (tame : Tame device s label) :
    Sound device later := by
  rcases next_cases step with aside | ⟨thread, fails, now, action, rest, rfl, free, there, rfl⟩
  · refine ⟨?_, ?_, aside.pinned sound.pinned, ?_⟩
    · rw [aside.store, aside.drawn]
      exact sound.bounded
    · rw [aside.store]
      exact sound.distinct
    · rw [aside.changes]
      exact sound.kept
  · exact sound.act free (tame action rest there)

theorem sound_initial : Sound device .initial :=
  { bounded := bounded_empty _
    distinct := List.nodup_nil
    pinned := .inl rfl
    kept := fun _ member => absurd member List.not_mem_nil }

/-- What is stored holds together. -/
structure Lawful (device : Device) (s : State) : Prop where
  ids : (s.store.entries.map Entry.id).Nodup
  few : s.store.entries.length ≤ maxEntries
  owned : ∀ entry ∈ s.store.entries, entry.subId ≠ [] →
    ∃ sub ∈ s.store.subs, sub.id = entry.subId
  distinct : (s.store.entries.filterMap (canonical device)).Nodup
  pinned : s.lock = .free → s.pinned = [] ∨ s.pinned ∈ s.store.entries.map Entry.id
  kept : ∀ change ∈ s.changes, change.Kept

theorem Sound.lawful (sound : Sound device s) : Lawful device s :=
  { ids := sound.bounded.ids
    few := sound.bounded.few
    owned := fun entry member nonempty => (sound.bounded.owned entry member nonempty).2
    distinct := sound.distinct
    pinned := fun free => by
      have allowed := sound.pinned
      rw [free] at allowed
      exact allowed
    kept := sound.kept }

/-- In every run whose reads and refreshes are handled well, what is stored holds together. -/
theorem lawful_of_run {labels : List Label}
    (run : Run (Restrict (ofNext (next device)) (Tame device)) .initial labels s) :
    Lawful device s := by
  apply Sound.lawful
  apply run.invariant (Sound device) _ sound_initial
  rintro source label target ⟨step, tame⟩ sound
  exact sound.next step tame

/-- Whatever reads fail and whatever refreshes bring, ids are distinct, the store does not grow
too large, and the owner of an entry is stored. -/
theorem bounded_of_run {labels : List Label} (run : Run (ofNext (next device)) .initial labels s) :
    Bounded device s.drawn s.store :=
  run.invariant (fun s => Bounded device s.drawn s.store)
    (fun _ _ _ step bounded => bounded_next step bounded) (bounded_empty device)

end Runs

section Claim

/-- Ids are told apart by their lengths. -/
def plainDevice : Device where
  toPlatform := plainPlatform
  keepsHash := fun _ member => List.mem_map.mpr ⟨'#', member, by decide⟩
  newId := fun count => List.replicate (count + 1) 'i'
  newId_injective := fun one other same => by
    have lengths := congrArg List.length same
    rw [List.length_replicate, List.length_replicate] at lengths
    exact Nat.succ.inj lengths
  newId_ne_nil := fun _ => List.cons_ne_nil _ _
  sameLetter := fun one other => one.toLower == other.toLower
  urlHost := fun _ => some "host".toList
  validConf := fun _ => true
  optInt := fun _ _ => 0

def firstLine : List Char := "vless://id@one:443".toList

def secondLine : List Char := "vless://id@two:443".toList

def subUrl : List Char := "https://host/sub".toList

/-- A config is renamed, and the read of that fails. -/
def lost : List Label :=
  [.call (.addText "[Interface]".toList), .act 0 false 0,
    .call (.rename ['i'] "name".toList), .act 1 true 0]

/-- A config is added, and then a subscription that has it too. -/
def twice : List Label :=
  [.call (.addText firstLine), .act 0 false 0, .call (.addSubscription subUrl), .act 1 false 0,
    .answer 1 (some firstLine), .act 1 false 0]

/-- The config of a subscription is pinned, and the subscription then has another one. -/
def dropped : List Label :=
  [.call (.addSubscription subUrl), .act 0 false 0, .answer 0 (some firstLine), .act 0 false 0,
    .pin "ii".toList,
    .call (.refreshSub { id := ['i'], url := subUrl, name := "host".toList, lastFetch := 0 }),
    .answer 1 (some secondLine), .act 1 false 0]

def isRename : Action → Bool
  | .rename _ _ => true
  | _ => false

structure View where
  ids : List Id
  uris : List (List Char)
  pinned : Id
  lock : Lock
  last : Option (List Id × Bool × List Id)
  deriving DecidableEq

/-- What is stored, and the last action with the ids before and after it. -/
def viewOf (s : State) : View :=
  { ids := s.store.entries.map Entry.id
    uris := s.store.entries.filterMap (canonical plainDevice)
    pinned := s.pinned
    lock := s.lock
    last := s.changes.getLast?.map fun change =>
      (change.before.map Entry.id, isRename change.action, change.after.map Entry.id) }

def viewAfter (labels : List Label) : Option View :=
  (execute (next plainDevice) .initial labels).map viewOf

theorem viewAfter_lost : viewAfter lost = some
    { ids := []
      uris := []
      pinned := []
      lock := .free
      last := some ([['i']], true, []) } := by
  decide +kernel

theorem viewAfter_twice : viewAfter twice = some
    { ids := [['i'], "iii".toList]
      uris := [firstLine, firstLine]
      pinned := []
      lock := .free
      last := some ([['i']], false, [['i'], "iii".toList]) } := by
  decide +kernel

theorem viewAfter_dropped : viewAfter dropped = some
    { ids := ["iii".toList]
      uris := [secondLine]
      pinned := "ii".toList
      lock := .free
      last := some (["ii".toList], false, ["iii".toList]) } := by
  decide +kernel

theorem exists_of_viewAfter {labels : List Label} {view : View}
    (seen : viewAfter labels = some view) :
    ∃ s, Run (ofNext (next plainDevice)) .initial labels s ∧ viewOf s = view := by
  obtain ⟨s, executed, same⟩ := Option.map_eq_some_iff.mp seen
  exact ⟨s, run_of_execute executed, same⟩

theorem bounded_of_run_twice : ∃ s, (viewOf s).ids = [['i'], "iii".toList] ∧
    Bounded plainDevice s.drawn s.store := by
  obtain ⟨s, run, seen⟩ := exists_of_viewAfter viewAfter_twice
  exact ⟨s, congrArg View.ids seen, bounded_of_run run⟩

/-- An entry disappears, a config is stored twice, and the pin names nothing. -/
theorem unlawful :
    (¬∀ s, Run (ofNext (next plainDevice)) .initial lost s → Lawful plainDevice s) ∧
      (¬∀ s, Run (ofNext (next plainDevice)) .initial twice s → Lawful plainDevice s) ∧
      ¬∀ s, Run (ofNext (next plainDevice)) .initial dropped s → Lawful plainDevice s := by
  refine ⟨?_, ?_, ?_⟩ <;> intro claimed
  · obtain ⟨s, run, seen⟩ := exists_of_viewAfter viewAfter_lost
    obtain ⟨change, there, same⟩ := Option.map_eq_some_iff.mp (congrArg View.last seen)
    have kept := (claimed s run).kept change (List.mem_of_getLast? there)
    obtain ⟨before, renamed, after⟩ :
        change.before.map Entry.id = [['i']] ∧ isRename change.action = true ∧
          change.after.map Entry.id = [] := by
      rw [Prod.mk.injEq, Prod.mk.injEq] at same
      exact same
    obtain ⟨entry, stored, _⟩ := List.mem_map.mp (before ▸ List.mem_singleton.mpr rfl)
    rcases kept entry stored with stays | removes
    · rw [after] at stays
      cases stays
    · cases acted : change.action with
      | rename id name =>
          rw [acted] at removes
          exact removes
      | _ =>
          rw [acted] at renamed
          cases renamed
  · obtain ⟨s, run, seen⟩ := exists_of_viewAfter viewAfter_twice
    have uris := congrArg View.uris seen
    have nodup := (claimed s run).distinct
    rw [show s.store.entries.filterMap (canonical plainDevice) = [firstLine, firstLine] from uris]
      at nodup
    exact absurd nodup (by decide)
  · obtain ⟨s, run, seen⟩ := exists_of_viewAfter viewAfter_dropped
    have lawful := (claimed s run).pinned (congrArg View.lock seen)
    rw [show s.pinned = "ii".toList from congrArg View.pinned seen,
      show s.store.entries.map Entry.id = ["iii".toList] from congrArg View.ids seen] at lawful
    exact absurd lawful (by decide)

def fitsCheck (device : Device) (s : State) : Action → Bool
  | .storeNodes subId lines =>
      let nodes := nodesFor device subId lines s.store
      s.store.entries.all fun entry =>
        if entry.subId = subId then
          entry.id ≠ s.pinned || nodes.any fun node => canonical device entry = some node.uri
        else nodes.all fun node => canonical device entry ≠ some node.uri
  | _ => true

/-- Whether a step reads the store, and brings what fits it. -/
def tameCheck (device : Device) (s : State) : Label → Bool
  | .act thread fails _ =>
      match s.threads[thread]? with
      | some (.locked action :: _) => !fails && fitsCheck device s action
      | _ => true
  | _ => true

theorem tame_of_check {device : Device} {s : State} {label : Label}
    (checked : tameCheck device s label = true) : Tame device s label := by
  cases label with
  | act thread fails now =>
      intro action rest there
      unfold tameCheck at checked
      dsimp only at checked
      rw [there] at checked
      obtain ⟨read, fits⟩ := Bool.and_eq_true_iff.mp checked
      rw [Bool.not_eq_true'] at read
      refine ⟨fun failed => absurd (read.symm.trans failed) Bool.false_ne_true, ?_⟩
      rintro _ subId lines rfl _ _
      have each := List.all_eq_true.mp fits
      refine ⟨fun entry member other node offered => ?_, fun entry member own pin => ?_⟩
      · have apart := each entry member
        rw [if_neg other] at apart
        exact of_decide_eq_true (List.all_eq_true.mp apart node offered)
      · have again := each entry member
        rw [if_pos own, pin, decide_eq_false (not_not.mpr rfl), Bool.false_or] at again
        obtain ⟨node, offered, same⟩ := List.any_eq_true.mp again
        exact ⟨node, offered, of_decide_eq_true same⟩
  | call call => trivial
  | answer thread body => trivial
  | unpin => trivial
  | pin id => trivial

/-- A subscription is refreshed while its config is pinned, and the config is deleted then. -/
def refreshed : List Label :=
  [.call (.addSubscription subUrl), .act 0 false 0, .answer 0 (some firstLine), .act 0 false 0,
    .pin "ii".toList,
    .call (.refreshSub { id := ['i'], url := subUrl, name := "host".toList, lastFetch := 0 }),
    .answer 1 (some (firstLine ++ '\n' :: secondLine)), .act 1 false 0,
    .call (.delete "ii".toList), .act 2 false 0, .unpin, .unpin]

theorem viewAfter_refreshed :
    (executeChecked (next plainDevice) (tameCheck plainDevice) .initial refreshed).map viewOf =
      some
        { ids := ["iiii".toList]
          uris := [secondLine]
          pinned := []
          lock := .free
          last := some (["ii".toList, "iiii".toList], false, ["iiii".toList]) } := by
  decide +kernel

theorem lawful_of_run_refreshed : ∃ s,
    Run (Restrict (ofNext (next plainDevice)) (Tame plainDevice)) .initial refreshed s ∧
      s.store.entries.map Entry.id = ["iiii".toList] ∧ Lawful plainDevice s := by
  obtain ⟨s, executed, seen⟩ := Option.map_eq_some_iff.mp viewAfter_refreshed
  have run := (run_of_executeChecked executed).mono
    (fun source label target taken => (⟨taken.1, tame_of_check taken.2⟩ :
      Restrict (ofNext (next plainDevice)) (Tame plainDevice) source label target))
  exact ⟨s, run, congrArg View.ids seen, lawful_of_run run⟩

end Claim

end MolidoVpn.V2ray.MyConfigs
