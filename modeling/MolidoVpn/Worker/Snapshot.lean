import MolidoVpn.Lib.Transition

/-!
The snapshot that one isolate serves the lists from: `getSnapshot` loads it from the edge
cache, from the row or by computing it, one load at a time, and `refreshSnapshot` replaces
it after changes of an admin and on schedule, any number beside each other.
-/

namespace MolidoVpn.Worker

open Transition (Run ofNext Restrict execute run_of_execute executeChecked run_of_executeChecked)

def snapStaleMs : Nat := 90 * 60000

def snapMemMs : Nat := 60000

def snapRetryMs : Nat := 30000

/-- A stored snapshot: when it was computed, and whether `parseSnapshot` takes it. -/
structure Snapshot where
  at_ : Nat
  parses : Bool
  deriving DecidableEq

/-- `_snapMem`; a snapshot that is there parses, so `snap` and `raw` are one. -/
structure SnapMem where
  at_ : Nat
  snap : Option Snapshot
  failedAt : Nat
  deriving DecidableEq

/-- How far `loadSnapshot` is, with the time it began and the stale snapshot it has found. -/
inductive LoadPc where
  | idle
  | started (now : Nat)
  | edgeRead (now : Nat) (stale : Option Snapshot)
  | computing (now : Nat) (stale : Option Snapshot)
  | storing (now : Nat) (stale : Option Snapshot) (computed : Snapshot)
  /-- it has returned, and `getSnapshot` goes on -/
  | loaded (raw : Option Snapshot)
  deriving DecidableEq

/-- How far a `refreshSnapshot` of its own is. -/
inductive RefreshPc where
  | computing
  | storing (computed : Snapshot)
  | ended
  deriving DecidableEq

/-- With the times of the snapshots that were put in memory, oldest first. -/
structure SnapState where
  clock : Nat
  mem : SnapMem
  load : LoadPc
  refreshes : List RefreshPc
  installed : List Nat
  deriving DecidableEq

def SnapState.initial : SnapState :=
  { clock := 0
    mem := ⟨0, none, 0⟩
    load := .idle
    refreshes := []
    installed := [] }

inductive SnapLabel where
  | tick (ms : Nat)
  /-- `getSnapshot` -/
  | request
  /-- what the edge cache has, and what the row has -/
  | edge (hit : Option Snapshot)
  | row (found : Option Snapshot)
  | loadComputes
  | loadStores
  | loadFails
  /-- the `then` of `getSnapshot` -/
  | loadEnds
  | refresh
  | refreshComputes (index : Nat)
  | refreshStores (index : Nat)
  | refreshFails (index : Nat)
  deriving DecidableEq

def isFresh (raw : Option Snapshot) (now : Nat) : Bool :=
  raw.any fun raw => now - raw.at_ < snapStaleMs

/-- A stored snapshot was computed before it is read. -/
def SnapState.canRead (state : SnapState) (raw : Option Snapshot) : Bool :=
  raw.all fun raw => raw.at_ ≤ state.clock

def SnapState.install (state : SnapState) (snap : Snapshot) (failedAt : Nat) : SnapState :=
  { state with
    mem := ⟨state.clock, some snap, failedAt⟩
    installed := state.installed ++ [snap.at_] }

/-- `raw || _snapMem.raw` -/
def SnapState.fallback (state : SnapState) (raw : Option Snapshot) : Option Snapshot :=
  raw.or state.mem.snap

/-- After the edge cache was read. -/
def LoadPc.afterEdge (now : Nat) (hit : Option Snapshot) : LoadPc :=
  if isFresh hit now then .loaded hit else .edgeRead now hit

/-- After the row was read: a fresh snapshot is taken, else one is computed, but not too soon after
the last failure. -/
def SnapState.rowRead (state : SnapState) (now : Nat) (raw : Option Snapshot) : LoadPc :=
  if isFresh raw now then .loaded raw
  else if snapRetryMs < now - state.mem.failedAt then .computing now raw
  else .loaded (state.fallback raw)

def SnapState.setRefresh (state : SnapState) (index : Nat) (pc : RefreshPc) : SnapState :=
  { state with refreshes := state.refreshes.set index pc }

def SnapState.next (state : SnapState) : SnapLabel → Option SnapState
  | .tick ms => some { state with clock := state.clock + ms }
  | .request =>
      if state.mem.snap.isSome && state.clock - state.mem.at_ < snapMemMs then some state
      else if state.load = .idle then some { state with load := .started state.clock }
      else some state
  | .edge hit =>
      match state.load with
      | .started now =>
          if state.canRead hit then
            some { state with load := LoadPc.afterEdge now hit }
          else none
      | _ => none
  | .row found =>
      match state.load with
      | .edgeRead now stale =>
          if state.canRead found then
            some { state with load := state.rowRead now (found.or stale) }
          else none
      | _ => none
  | .loadComputes =>
      match state.load with
      | .computing now stale =>
          some { state with load := .storing now stale ⟨state.clock, true⟩ }
      | _ => none
  | .loadStores =>
      match state.load with
      | .storing _ _ computed =>
          some { state.install computed 0 with load := .loaded (some computed) }
      | _ => none
  | .loadFails =>
      match state.load with
      | .computing now stale | .storing now stale _ =>
          some { state with
            mem := { state.mem with failedAt := now }
            load := .loaded (state.fallback stale) }
      | _ => none
  | .loadEnds =>
      match state.load with
      | .loaded raw =>
          match raw.filter Snapshot.parses with
          | some snap => some { state.install snap state.mem.failedAt with load := .idle }
          | none => some { state with load := .idle }
      | _ => none
  | .refresh => some { state with refreshes := state.refreshes ++ [.computing] }
  | .refreshComputes index =>
      match state.refreshes[index]? with
      | some .computing => some (state.setRefresh index (.storing ⟨state.clock, true⟩))
      | _ => none
  | .refreshStores index =>
      match state.refreshes[index]? with
      | some (.storing computed) => some ((state.install computed 0).setRefresh index .ended)
      | _ => none
  | .refreshFails index =>
      match state.refreshes[index]? with
      | some .computing | some (.storing _) => some (state.setRefresh index .ended)
      | _ => none

/-- What a load that ends with this puts in memory. -/
def LoadPc.holds : LoadPc → Option Snapshot
  | .storing _ _ computed => some computed
  | .loaded raw => raw.filter Snapshot.parses
  | .idle | .started _ | .edgeRead _ _ | .computing _ _ => none

def RefreshPc.holds : RefreshPc → Option Snapshot
  | .storing computed => some computed
  | .computing | .ended => none

/-- Not older than the snapshot in memory. -/
def SnapState.notOlder (state : SnapState) (load : LoadPc) : Bool :=
  load.holds.all fun held => state.mem.snap.all fun snap => snap.at_ ≤ held.at_

/-- None of those under way holds a snapshot that is older than this one. -/
def noneOlder (snap : Snapshot) (load : LoadPc) (refreshes : List RefreshPc) : Bool :=
  load.holds.all (fun held => snap.at_ ≤ held.at_) &&
    refreshes.all fun refresh => refresh.holds.all fun held => snap.at_ ≤ held.at_

/-- A load settles on nothing older than what is in memory by then, and a snapshot is put there
while nobody else holds an older one. -/
def forward (state : SnapState) : SnapLabel → Bool
  | .edge hit =>
      match state.load with
      | .started now => state.notOlder (LoadPc.afterEdge now hit)
      | _ => true
  | .row found =>
      match state.load with
      | .edgeRead now stale => state.notOlder (state.rowRead now (found.or stale))
      | _ => true
  | .loadFails =>
      match state.load with
      | .computing _ stale | .storing _ stale _ => state.notOlder (.loaded (state.fallback stale))
      | _ => true
  | .loadStores =>
      match state.load with
      | .storing _ _ computed => noneOlder computed .idle state.refreshes
      | _ => true
  | .loadEnds =>
      match state.load with
      | .loaded raw =>
          (raw.filter Snapshot.parses).all fun snap => noneOlder snap .idle state.refreshes
      | _ => true
  | .refreshStores index =>
      match state.refreshes[index]? with
      | some (.storing computed) =>
          noneOlder computed state.load (state.refreshes.set index .ended)
      | _ => true
  | _ => true

/-- Computed by now, and not before the snapshot in memory. -/
def Ahead (state : SnapState) (held : Snapshot) : Prop :=
  held.at_ ≤ state.clock ∧ ∀ snap, state.mem.snap = some snap → snap.at_ ≤ held.at_

/-- A stale snapshot that a load has found. -/
def LoadPc.stale : LoadPc → Option Snapshot
  | .edgeRead _ stale | .computing _ stale | .storing _ stale _ => stale
  | .idle | .started _ | .loaded _ => none

/-- All that can be put in memory is ahead of all that was. -/
structure Ordered (state : SnapState) : Prop where
  sorted : state.installed.Pairwise (· ≤ ·)
  last : ∀ time ∈ state.installed, ∃ snap, state.mem.snap = some snap ∧ time ≤ snap.at_
  mem : ∀ snap, state.mem.snap = some snap → snap.at_ ≤ state.clock
  stale : ∀ stale, state.load.stale = some stale → stale.at_ ≤ state.clock
  load : ∀ held, state.load.holds = some held → Ahead state held
  refreshes : ∀ refresh ∈ state.refreshes, ∀ held, refresh.holds = some held → Ahead state held

theorem noneOlder_iff {snap : Snapshot} {load : LoadPc} {refreshes : List RefreshPc} :
    noneOlder snap load refreshes = true ↔
      (∀ held, load.holds = some held → snap.at_ ≤ held.at_) ∧
        ∀ refresh ∈ refreshes, ∀ held, refresh.holds = some held → snap.at_ ≤ held.at_ := by
  unfold noneOlder
  rw [Bool.and_eq_true, Option.all_eq_true, List.all_eq_true]
  constructor
  · rintro ⟨load, others⟩
    refine ⟨fun held holds => of_decide_eq_true (load held holds), ?_⟩
    intro refresh member held holds
    exact of_decide_eq_true (Option.all_eq_true _ _ |>.mp (others refresh member) held holds)
  · rintro ⟨load, others⟩
    refine ⟨fun held holds => decide_eq_true (load held holds), ?_⟩
    intro refresh member
    exact Option.all_eq_true _ _ |>.mpr fun held holds =>
      decide_eq_true (others refresh member held holds)

/-- A snapshot that is ahead is put in memory, and nobody else holds an older one. -/
theorem Ordered.install {state : SnapState} (ordered : Ordered state) (failedAt : Nat)
    {snap : Snapshot}
    (ahead : Ahead state snap) {load : LoadPc} {refreshes : List RefreshPc}
    (stale : ∀ stale, load.stale = some stale → stale.at_ ≤ state.clock)
    (loadHeld : ∀ held, load.holds = some held → held.at_ ≤ state.clock)
    (held : ∀ refresh ∈ refreshes, ∀ held, refresh.holds = some held → held.at_ ≤ state.clock)
    (none_ : noneOlder snap load refreshes = true) :
    Ordered { state.install snap failedAt with load := load, refreshes := refreshes } := by
  obtain ⟨byLoad, byRefresh⟩ := noneOlder_iff.mp none_
  constructor
  · apply List.pairwise_append.mpr
    refine ⟨ordered.sorted, List.pairwise_singleton _ _, ?_⟩
    intro time member other last
    obtain rfl := List.mem_singleton.mp last
    obtain ⟨before, inMem, late⟩ := ordered.last time member
    exact Nat.le_trans late (ahead.2 before inMem)
  · intro time member
    refine ⟨snap, rfl, ?_⟩
    rcases List.mem_append.mp member with old | new
    · obtain ⟨before, inMem, late⟩ := ordered.last time old
      exact Nat.le_trans late (ahead.2 before inMem)
    · obtain rfl := List.mem_singleton.mp new
      exact Nat.le_refl _
  · intro other same
    obtain rfl := Option.some.inj same
    exact ahead.1
  · exact stale
  · intro other holds
    refine ⟨loadHeld other holds, ?_⟩
    intro before same
    obtain rfl := Option.some.inj same
    exact byLoad other holds
  · intro refresh member other holds
    refine ⟨held refresh member other holds, ?_⟩
    intro before same
    obtain rfl := Option.some.inj same
    exact byRefresh refresh member other holds

/-- A load goes on to a snapshot that is not older, or to none. -/
theorem Ordered.loads {state : SnapState} (ordered : Ordered state) (load : LoadPc) {mem : SnapMem}
    (same : mem.snap = state.mem.snap)
    (stale : ∀ stale, load.stale = some stale → stale.at_ ≤ state.clock)
    (past : ∀ held, load.holds = some held → held.at_ ≤ state.clock)
    (notOlder : state.notOlder load = true) :
    Ordered { state with load := load, mem := mem } := by
  have ahead : ∀ held, Ahead state held → Ahead { state with load := load, mem := mem } held := by
    intro held ahead
    refine ⟨ahead.1, ?_⟩
    change ∀ snap, mem.snap = some snap → _
    rw [same]
    exact ahead.2
  constructor
  · exact ordered.sorted
  · change ∀ time ∈ state.installed, ∃ snap, mem.snap = some snap ∧ time ≤ snap.at_
    rw [same]
    exact ordered.last
  · change ∀ snap, mem.snap = some snap → _
    rw [same]
    exact ordered.mem
  · exact stale
  · intro held holds
    apply ahead
    refine ⟨past held holds, ?_⟩
    intro snap inMem
    have byLoad := Option.all_eq_true _ _ |>.mp notOlder held holds
    exact of_decide_eq_true (Option.all_eq_true _ _ |>.mp byLoad snap inMem)
  · intro refresh member held holds
    exact ahead held (ordered.refreshes refresh member held holds)

theorem canRead_iff {state : SnapState} {raw : Option Snapshot} :
    state.canRead raw = true ↔ ∀ found, raw = some found → found.at_ ≤ state.clock := by
  unfold SnapState.canRead
  rw [Option.all_eq_true]
  constructor
  · intro all found same
    exact of_decide_eq_true (all found same)
  · intro all found same
    exact decide_eq_true (all found same)

/-- What a load that is over holds is what it has returned. -/
theorem loaded_holds {raw : Option Snapshot} {held : Snapshot}
    (holds : (LoadPc.loaded raw).holds = some held) : raw = some held :=
  (Option.filter_eq_some_iff.mp holds).1

theorem afterEdge_past (now : Nat) {clock : Nat} {hit : Option Snapshot}
    (past : ∀ found, hit = some found → found.at_ ≤ clock) :
    (∀ stale, (LoadPc.afterEdge now hit).stale = some stale → stale.at_ ≤ clock) ∧
      ∀ held, (LoadPc.afterEdge now hit).holds = some held → held.at_ ≤ clock := by
  unfold LoadPc.afterEdge
  split
  · exact ⟨nofun, fun held holds => past held (loaded_holds holds)⟩
  · exact ⟨past, nofun⟩

theorem fallback_past {state : SnapState} (ordered : Ordered state) {raw : Option Snapshot}
    (past : ∀ found, raw = some found → found.at_ ≤ state.clock) :
    ∀ held, (LoadPc.loaded (state.fallback raw)).holds = some held → held.at_ ≤ state.clock := by
  intro held holds
  have same := loaded_holds holds
  unfold SnapState.fallback at same
  cases raw with
  | none => exact ordered.mem held same
  | some found => exact past held same

theorem rowRead_past {state : SnapState} (ordered : Ordered state) (now : Nat)
    {raw : Option Snapshot} (past : ∀ found, raw = some found → found.at_ ≤ state.clock) :
    (∀ stale, (state.rowRead now raw).stale = some stale → stale.at_ ≤ state.clock) ∧
      ∀ held, (state.rowRead now raw).holds = some held → held.at_ ≤ state.clock := by
  unfold SnapState.rowRead
  split
  · exact ⟨nofun, fun held holds => past held (loaded_holds holds)⟩
  · split
    · exact ⟨past, nofun⟩
    · exact ⟨nofun, fallback_past ordered past⟩

/-- A refresh goes on to a snapshot that it has just computed, or to none. -/
theorem Ordered.refreshes_ {state : SnapState} (ordered : Ordered state)
    {refreshes : List RefreshPc}
    (new : ∀ refresh ∈ refreshes, refresh ∈ state.refreshes ∨
      ∀ held, refresh.holds = some held → held.at_ = state.clock) :
    Ordered { state with refreshes := refreshes } :=
  { sorted := ordered.sorted
    last := ordered.last
    mem := ordered.mem
    stale := ordered.stale
    load := ordered.load
    refreshes := by
      intro refresh member held holds
      rcases new refresh member with old | computed
      · exact ordered.refreshes refresh old held holds
      · have now := computed held holds
        refine ⟨Nat.le_of_eq now, ?_⟩
        intro snap inMem
        rw [now]
        exact ordered.mem snap inMem }

theorem Ordered.tick {state : SnapState} (ordered : Ordered state) (ms : Nat) :
    Ordered { state with clock := state.clock + ms } := by
  have later {held : Snapshot} (ahead : Ahead state held) :
      Ahead { state with clock := state.clock + ms } held :=
    ⟨Nat.le_add_right_of_le ahead.1, ahead.2⟩
  exact
    { sorted := ordered.sorted
      last := ordered.last
      mem := fun snap inMem => Nat.le_add_right_of_le (ordered.mem snap inMem)
      stale := fun stale found => Nat.le_add_right_of_le (ordered.stale stale found)
      load := fun held holds => later (ordered.load held holds)
      refreshes := fun refresh member held holds =>
        later (ordered.refreshes refresh member held holds) }

theorem next_ordered (source : SnapState) (label : SnapLabel) (target : SnapState)
    (taken : Restrict (ofNext SnapState.next) (fun state label => forward state label) source label
      target)
    (ordered : Ordered source) : Ordered target := by
  obtain ⟨taken, ahead⟩ := taken
  unfold ofNext at taken
  cases label with
  | tick ms =>
      obtain rfl := Option.some.inj taken
      exact ordered.tick ms
  | request =>
      simp only [SnapState.next] at taken
      split at taken
      · obtain rfl := Option.some.inj taken
        exact ordered
      · split at taken
        · obtain rfl := Option.some.inj taken
          exact ordered.loads _ rfl nofun nofun rfl
        · obtain rfl := Option.some.inj taken
          exact ordered
  | edge hit =>
      simp only [SnapState.next] at taken
      split at taken
      · rename_i now started
        split at taken
        · rename_i past
          obtain rfl := Option.some.inj taken
          obtain ⟨stale, held⟩ := afterEdge_past now (canRead_iff.mp past)
          rw [forward, started] at ahead
          exact ordered.loads _ rfl stale held ahead
        · cases taken
      · cases taken
  | row found =>
      simp only [SnapState.next] at taken
      split at taken
      · rename_i now stale edgeRead
        split at taken
        · rename_i past
          obtain rfl := Option.some.inj taken
          have staleBefore := ordered.stale
          rw [edgeRead] at staleBefore
          have either : ∀ raw, found.or stale = some raw → raw.at_ ≤ source.clock := by
            intro raw same
            cases found with
            | none => exact staleBefore raw same
            | some row => exact canRead_iff.mp past raw same
          obtain ⟨stale, held⟩ := rowRead_past ordered now either
          rw [forward, edgeRead] at ahead
          exact ordered.loads _ rfl stale held ahead
        · cases taken
      · cases taken
  | loadComputes =>
      simp only [SnapState.next] at taken
      split at taken
      · rename_i now stale computing
        obtain rfl := Option.some.inj taken
        have staleBefore := ordered.stale
        rw [computing] at staleBefore
        refine ordered.loads (.storing now stale _) rfl staleBefore ?_ ?_
        · intro held holds
          obtain rfl := Option.some.inj holds
          exact Nat.le_refl _
        · unfold SnapState.notOlder LoadPc.holds
          rw [Option.all_some, Option.all_eq_true]
          exact fun snap inMem => decide_eq_true (ordered.mem snap inMem)
      · cases taken
  | loadStores =>
      simp only [SnapState.next] at taken
      split at taken
      · rename_i now stale computed storing
        obtain rfl := Option.some.inj taken
        rw [forward, storing] at ahead
        have held := ordered.load computed (by rw [storing]; rfl)
        obtain ⟨_, others⟩ := noneOlder_iff.mp ahead
        apply ordered.install 0 held
        · exact nofun
        · intro again holds
          have same := loaded_holds holds
          obtain rfl := Option.some.inj same
          exact held.1
        · exact fun refresh member held holds => (ordered.refreshes refresh member held holds).1
        · apply noneOlder_iff.mpr
          refine ⟨?_, others⟩
          intro again holds
          obtain rfl := Option.some.inj (loaded_holds holds)
          exact Nat.le_refl _
      · cases taken
  | loadFails =>
      simp only [SnapState.next] at taken
      split at taken
      · rename_i now stale computing
        obtain rfl := Option.some.inj taken
        have staleBefore := ordered.stale
        rw [computing] at staleBefore
        rw [forward, computing] at ahead
        exact ordered.loads _ rfl nofun (fallback_past ordered staleBefore) ahead
      · rename_i now stale computed storing
        obtain rfl := Option.some.inj taken
        have staleBefore := ordered.stale
        rw [storing] at staleBefore
        rw [forward, storing] at ahead
        exact ordered.loads _ rfl nofun (fallback_past ordered staleBefore) ahead
      · cases taken
  | loadEnds =>
      simp only [SnapState.next] at taken
      split at taken
      · rename_i raw loaded
        have held := ordered.load
        rw [loaded] at held
        rw [forward, loaded] at ahead
        split at taken
        · rename_i snap parses
          obtain rfl := Option.some.inj taken
          dsimp only at ahead
          rw [parses] at ahead
          exact ordered.install _ (held snap parses) nofun nofun
            (fun refresh member held holds => (ordered.refreshes refresh member held holds).1) ahead
        · obtain rfl := Option.some.inj taken
          exact ordered.loads _ rfl nofun nofun rfl
      · cases taken
  | refresh =>
      obtain rfl := Option.some.inj taken
      apply ordered.refreshes_
      intro refresh member
      rcases List.mem_append.mp member with old | new
      · exact Or.inl old
      · obtain rfl := List.mem_singleton.mp new
        exact Or.inr nofun
  | refreshComputes index =>
      simp only [SnapState.next] at taken
      split at taken
      · obtain rfl := Option.some.inj taken
        apply ordered.refreshes_
        intro refresh member
        rcases List.mem_or_eq_of_mem_set member with old | rfl
        · exact Or.inl old
        · right
          intro held holds
          obtain rfl := Option.some.inj holds
          rfl
      · cases taken
  | refreshStores index =>
      simp only [SnapState.next] at taken
      split at taken
      · rename_i computed found
        obtain rfl := Option.some.inj taken
        rw [forward, found] at ahead
        have stored := ordered.refreshes _ (List.mem_of_getElem? found) computed rfl
        have install := ordered.install 0 stored ordered.stale
          (fun held holds => (ordered.load held holds).1) ?_ ahead
        · exact install
        · intro refresh member held holds
          rcases List.mem_or_eq_of_mem_set member with old | rfl
          · exact (ordered.refreshes refresh old held holds).1
          · cases holds
      · cases taken
  | refreshFails index =>
      have ended : Ordered (source.setRefresh index .ended) := by
        apply ordered.refreshes_
        intro refresh member
        rcases List.mem_or_eq_of_mem_set member with old | rfl
        · exact Or.inl old
        · exact Or.inr nofun
      simp only [SnapState.next] at taken
      split at taken
      · obtain rfl := Option.some.inj taken
        exact ended
      · obtain rfl := Option.some.inj taken
        exact ended
      · cases taken

/-- As long as a load settles on nothing older than memory has and a snapshot is put there while no
older one is under way, the snapshots in memory never go back in time. -/
theorem installed_sorted_of_forward {labels : List SnapLabel} {state : SnapState}
    (run : Run (Restrict (ofNext SnapState.next) (fun state label => forward state label))
      SnapState.initial labels state) : state.installed.Pairwise (· ≤ ·) := by
  have ordered : Ordered state := by
    apply run.invariant Ordered next_ordered
    exact
      { sorted := List.Pairwise.nil
        last := nofun
        mem := nofun
        stale := nofun
        load := nofun
        refreshes := nofun }
  exact ordered.sorted

/-- A load from the row, and a refresh after it. -/
theorem installed_sorted_of_forward_refresh :
    ∃ state : SnapState, state.installed = [5, 10] ∧ state.installed.Pairwise (· ≤ ·) :=
  ⟨_, rfl, @installed_sorted_of_forward
    [.tick 10, .request, .edge none, .row (some ⟨5, true⟩), .loadEnds, .refresh,
      .refreshComputes 0, .refreshStores 0] _ (run_of_executeChecked rfl)⟩

/-- A load has its copy from the edge cache when a refresh after a change puts a newer one in
memory. -/
theorem snapshot_goes_back :
    ¬ ∀ (labels : List SnapLabel) (state : SnapState),
      Run (ofNext SnapState.next) SnapState.initial labels state →
        state.installed.Pairwise (· ≤ ·) := by
  intro always
  have reached : execute SnapState.next SnapState.initial
      [.tick 10, .refresh, .request, .edge (some ⟨5, true⟩), .refreshComputes 0,
        .refreshStores 0, .loadEnds] =
      some ⟨10, ⟨10, some ⟨5, true⟩, 0⟩, .idle, [.ended], [10, 5]⟩ := by
    rfl
  have sorted := always _ _ (run_of_execute reached)
  revert sorted
  decide

end MolidoVpn.Worker
