import MolidoVpn.Lib.Table
import MolidoVpn.Lib.Transition

/-!
The uploads of `diagRoute` running beside each other: `diag_at` of an install is read in one
statement, and set in a batch that also stores the events. The heartbeats and the daily cleanup
write the same rows.
-/

namespace MolidoVpn.Worker

open Transition (Run ofNext Restrict execute run_of_execute executeChecked run_of_executeChecked)

def diagEveryS : Nat := 3600

def diagKeepDays : Nat := 14

/-- How long a device without a heartbeat is kept. -/
def deviceKeepS : Nat := diagKeepDays * 86400 + 76 * 86400

/-- What the uploads and the cleanup read of a row of `devices`. -/
structure DeviceRow where
  lastSeen : Nat
  diagAt : Nat
  deriving DecidableEq

/-- How far a request is; `passed` has read the row, when so many uploads of the install had been
stored. -/
inductive DiagPc where
  | arrived
  | passed (seen : Nat)
  | answered (status : Nat)
  deriving DecidableEq

/-- A valid request; `now` is taken before the row is read. -/
structure DiagRequest where
  install : List Char
  now : Nat
  pc : DiagPc
  deriving DecidableEq

/-- `uploads` are the installs and times of what has been stored. -/
structure DiagState where
  clock : Nat
  devices : AList fun _ : List Char => DeviceRow
  requests : List DiagRequest
  uploads : List (List Char × Nat)

def DiagState.initial : DiagState :=
  { clock := 0
    devices := ∅
    requests := []
    uploads := [] }

inductive DiagLabel where
  | tick (seconds : Nat)
  | arrives (install : List Char)
  | reads (index : Nat)
  | stores (index : Nat)
  /-- The database has refused a statement. -/
  | fails (index : Nat)
  /-- `deviceUpsert`, with the time it was given -/
  | beats (install : List Char) (now : Nat)
  /-- The daily cleanup, with the time it was given. -/
  | cleans (now : Nat)

/-- The times of the uploads of one install. -/
def uploadsOf (install : List Char) (uploads : List (List Char × Nat)) : List Nat :=
  (uploads.filter fun upload => upload.1 == install).map Prod.snd

/-- `row && now - (row.diag_at || 0) < DIAG_EVERY_S` -/
def tooSoon (row : Option DeviceRow) (now : Nat) : Bool :=
  row.any fun row => now < row.diagAt + diagEveryS

namespace DiagState

def goTo (state : DiagState) (index : Nat) (request : DiagRequest) (pc : DiagPc) : DiagState :=
  { state with requests := state.requests.set index { request with pc } }

/-- The batch: the device is inserted or updated and the events are stored. -/
def store (state : DiagState) (install : List Char) (now : Nat) : DiagState :=
  { state with
    devices := state.devices.insert install ⟨now, now⟩
    uploads := state.uploads ++ [(install, now)] }

/-- A heartbeat leaves `diag_at`, which is zero in a new row. -/
def beat (state : DiagState) (install : List Char) (now : Nat) : DiagState :=
  let diagAt := ((state.devices.lookup install).map DeviceRow.diagAt).getD 0
  { state with devices := state.devices.insert install ⟨now, diagAt⟩ }

def next (state : DiagState) : DiagLabel → Option DiagState
  | .tick seconds => some { state with clock := state.clock + seconds }
  | .arrives install =>
      some { state with requests := state.requests ++ [⟨install, state.clock, .arrived⟩] }
  | .reads index =>
      match state.requests[index]? with
      | some ⟨install, now, .arrived⟩ =>
          some (state.goTo index ⟨install, now, .arrived⟩
            (if tooSoon (state.devices.lookup install) now then .answered 429
            else .passed (uploadsOf install state.uploads).length))
      | _ => none
  | .stores index =>
      match state.requests[index]? with
      | some ⟨install, now, .passed seen⟩ =>
          some ((state.store install now).goTo index ⟨install, now, .passed seen⟩ (.answered 204))
      | _ => none
  | .fails index =>
      match state.requests[index]? with
      | some ⟨_, _, .answered _⟩ => none
      | some request => some (state.goTo index request (.answered 503))
      | none => none
  | .beats install now => if now ≤ state.clock then some (state.beat install now) else none
  | .cleans now =>
      if now ≤ state.clock then
        some { state with
          devices := Table.keep (fun _ row => decide (now ≤ row.lastSeen + deviceKeepS))
            state.devices }
      else none

end DiagState

/-- The uploads of every install are an hour apart. -/
def Spaced (state : DiagState) : Prop :=
  ∀ install, (uploadsOf install state.uploads).Pairwise fun earlier later =>
    earlier + diagEveryS ≤ later

section Uploads

theorem uploadsOf_concat (install : List Char) (uploads : List (List Char × Nat))
    (upload : List Char × Nat) :
    uploadsOf install (uploads ++ [upload]) =
      uploadsOf install uploads ++ if upload.1 = install then [upload.2] else [] := by
  rw [uploadsOf, List.filter_append, List.map_append, uploadsOf, List.filter_singleton]
  congr 1
  by_cases own : upload.1 = install
  · rw [if_pos own, own, beq_self_eq_true]
    rfl
  · rw [if_neg own, beq_false_of_ne own]
    rfl

theorem not_tooSoon {row : Option DeviceRow} {now : Nat} (late : tooSoon row now = false) :
    ∀ found, row = some found → found.diagAt + diagEveryS ≤ now := by
  rintro found rfl
  have passed : decide (now < found.diagAt + diagEveryS) = false := late
  exact Nat.le_of_not_lt (of_decide_eq_false passed)

end Uploads

section Guarded

/-- An hour has gone by since then, also for the requests that have not read the row yet. -/
def Past (state : DiagState) (install : List Char) (time : Nat) : Prop :=
  time + diagEveryS ≤ state.clock ∧
    ∀ request ∈ state.requests, request.install = install → request.pc = .arrived →
      time + diagEveryS ≤ request.now

/-- The rows know the last hour, and a request that has passed has seen what was stored before. -/
structure Guarded (state : DiagState) : Prop where
  known : ∀ install, ∀ time ∈ uploadsOf install state.uploads, Past state install time ∨
    ∃ row, state.devices.lookup install = some row ∧ time ≤ row.diagAt
  passed : ∀ request ∈ state.requests, ∀ seen, request.pc = .passed seen →
    seen ≤ (uploadsOf request.install state.uploads).length ∧
      ∀ time ∈ (uploadsOf request.install state.uploads).take seen,
        time + diagEveryS ≤ request.now
  spaced : Spaced state

/-- No other upload of the install is stored between the two statements of a request, and the
cleanup deletes no device that has uploaded in the last hour, or in the hour before a request of
its that has yet to read the row. -/
def undisturbed (state : DiagState) : DiagLabel → Bool
  | .stores index =>
      match state.requests[index]? with
      | some ⟨install, _, .passed seen⟩ => (uploadsOf install state.uploads).length == seen
      | _ => true
  | .cleans now =>
      state.devices.entries.all fun device =>
        decide (now ≤ device.2.lastSeen + deviceKeepS) ||
          (decide (device.2.diagAt + diagEveryS ≤ state.clock) &&
            state.requests.all fun request =>
              !(request.install == device.1 && request.pc == .arrived) ||
                decide (device.2.diagAt + diagEveryS ≤ request.now))
  | _ => true

theorem Past.mono {state later : DiagState} {install : List Char} {time : Nat}
    (past : Past state install time) (clock : state.clock ≤ later.clock)
    (requests : ∀ request ∈ later.requests, request.pc = .arrived →
      request ∈ state.requests ∨ state.clock ≤ request.now) : Past later install time := by
  refine ⟨Nat.le_trans past.1 clock, ?_⟩
  intro request member own arrived
  rcases requests request member arrived with old | new
  · exact past.2 request old own arrived
  · exact Nat.le_trans past.1 new

/-- A request goes on. -/
theorem Guarded.goTo {state : DiagState} (guarded : Guarded state) {index : Nat}
    {request : DiagRequest} {pc : DiagPc} (ahead : pc ≠ .arrived)
    (passes : ∀ seen, pc = .passed seen →
      seen ≤ (uploadsOf request.install state.uploads).length ∧
        ∀ time ∈ (uploadsOf request.install state.uploads).take seen,
          time + diagEveryS ≤ request.now) : Guarded (state.goTo index request pc) where
  known := by
    intro install time member
    apply (guarded.known install time member).imp_left
    intro past
    refine past.mono (Nat.le_refl state.clock) ?_
    intro other there arrived
    rcases List.mem_or_eq_of_mem_set there with old | rfl
    · exact Or.inl old
    · exact absurd arrived ahead
  passed := by
    intro other there seen same
    rcases List.mem_or_eq_of_mem_set there with old | rfl
    · exact guarded.passed other old seen same
    · exact passes seen same
  spaced := guarded.spaced

theorem Guarded.arrives {state : DiagState} (guarded : Guarded state) (install : List Char) :
    Guarded { state with requests := state.requests ++ [⟨install, state.clock, .arrived⟩] } where
  known := by
    intro other time member
    apply (guarded.known other time member).imp_left
    intro past
    refine past.mono (Nat.le_refl state.clock) ?_
    intro request there _
    rcases List.mem_append.mp there with old | new
    · exact Or.inl old
    · rw [List.mem_singleton.mp new]
      exact Or.inr (Nat.le_refl _)
  passed := by
    intro request there seen same
    rcases List.mem_append.mp there with old | new
    · exact guarded.passed request old seen same
    · rw [List.mem_singleton.mp new] at same
      cases same
  spaced := guarded.spaced

/-- What a request that reads the row in time has behind it. -/
theorem Guarded.reads {state : DiagState} (guarded : Guarded state) {request : DiagRequest}
    (member : request ∈ state.requests) (arrived : request.pc = .arrived)
    (late : tooSoon (state.devices.lookup request.install) request.now = false) :
    ∀ time ∈ uploadsOf request.install state.uploads, time + diagEveryS ≤ request.now := by
  intro time there
  rcases guarded.known request.install time there with past | ⟨row, found, atMost⟩
  · exact past.2 request member rfl arrived
  · have passed := not_tooSoon late row found
    omega

theorem Guarded.stores {state : DiagState} (guarded : Guarded state) {install : List Char}
    {now : Nat} (apart : ∀ time ∈ uploadsOf install state.uploads, time + diagEveryS ≤ now) :
    Guarded (state.store install now) where
  known := by
    intro other time member
    rw [DiagState.store, uploadsOf_concat, List.mem_append] at member
    by_cases own : install = other
    · subst own
      right
      refine ⟨⟨now, now⟩, AList.lookup_insert _, ?_⟩
      rw [if_pos rfl, List.mem_singleton] at member
      rcases member with old | rfl
      · exact Nat.le_of_add_right_le (apart time old)
      · exact Nat.le_refl _
    · rw [if_neg own, or_iff_left List.not_mem_nil] at member
      refine (guarded.known other time member).imp_right ?_
      rintro ⟨row, found, atMost⟩
      exact ⟨row, (AList.lookup_insert_ne (Ne.symm own)).trans found, atMost⟩
  passed := by
    intro request there seen same
    obtain ⟨few, before⟩ := guarded.passed request there seen same
    rw [DiagState.store, uploadsOf_concat, List.take_append_of_le_length few]
    refine ⟨?_, before⟩
    rw [List.length_append]
    exact Nat.le_add_right_of_le few
  spaced := by
    intro other
    rw [DiagState.store, uploadsOf_concat]
    refine List.pairwise_append.mpr ⟨guarded.spaced other, ?_, ?_⟩
    · split
      · exact List.pairwise_singleton _ _
      · exact List.Pairwise.nil
    · intro time member last isLast
      split at isLast
      · rename_i own
        subst own
        rw [List.mem_singleton.mp isLast]
        exact apart time member
      · cases isLast

theorem Guarded.beats {state : DiagState} (guarded : Guarded state) (install : List Char)
    (now : Nat) : Guarded (state.beat install now) where
  known := by
    intro other time member
    refine (guarded.known other time member).imp_right ?_
    rintro ⟨row, found, atMost⟩
    rw [DiagState.beat, Table.lookup_insert]
    by_cases own : other = install
    · subst own
      rw [if_pos rfl, found]
      exact ⟨_, rfl, atMost⟩
    · rw [if_neg own]
      exact ⟨row, found, atMost⟩
  passed := guarded.passed
  spaced := guarded.spaced

theorem Guarded.cleans {state : DiagState} (guarded : Guarded state) {now : Nat}
    (undisturbed_ : undisturbed state (.cleans now) = true) :
    Guarded { state with
      devices := Table.keep (fun _ row => decide (now ≤ row.lastSeen + deviceKeepS))
        state.devices } where
  known := by
    intro install time member
    rcases guarded.known install time member with past | ⟨row, found, atMost⟩
    · exact Or.inl past
    · have checked := List.all_eq_true.mp undisturbed_ _ ((Table.mem_entries_iff _ _ _).mpr found)
      rw [Bool.or_eq_true, Bool.and_eq_true, decide_eq_true_eq, decide_eq_true_eq] at checked
      rcases checked with kept | ⟨clock, requests⟩
      · right
        refine ⟨row, ?_, atMost⟩
        exact (Table.lookup_keep_eq_some_iff _ _ _ _).mpr ⟨found, decide_eq_true kept⟩
      · left
        refine ⟨Nat.le_trans (Nat.add_le_add_right atMost _) clock, ?_⟩
        intro request there own arrived
        have late := List.all_eq_true.mp requests request there
        rw [own, arrived, beq_self_eq_true, beq_self_eq_true, Bool.and_true, Bool.not_true,
          Bool.false_or, decide_eq_true_eq] at late
        exact Nat.le_trans (Nat.add_le_add_right atMost _) late
  passed := guarded.passed
  spaced := guarded.spaced

theorem next_guarded (source : DiagState) (label : DiagLabel) (target : DiagState)
    (taken : Restrict (ofNext DiagState.next) (fun state label => undisturbed state label) source
      label target) (guarded : Guarded source) : Guarded target := by
  obtain ⟨taken, undisturbed_⟩ := taken
  unfold ofNext at taken
  cases label with
  | tick seconds =>
      obtain rfl := Option.some.inj taken
      refine { guarded with known := ?_ }
      intro install time member
      apply (guarded.known install time member).imp_left
      intro past
      exact past.mono (Nat.le_add_right _ _) fun request there _ => Or.inl there
  | arrives install =>
      obtain rfl := Option.some.inj taken
      exact guarded.arrives install
  | reads index =>
      simp only [DiagState.next] at taken
      split at taken
      · rename_i install now found
        obtain rfl := Option.some.inj taken
        have member := List.mem_of_getElem? found
        split
        · exact guarded.goTo DiagPc.noConfusion fun seen same => DiagPc.noConfusion same
        · rename_i late
          apply guarded.goTo DiagPc.noConfusion
          rintro seen same
          cases same
          refine ⟨Nat.le_refl _, ?_⟩
          rw [List.take_length]
          exact guarded.reads member rfl (Bool.eq_false_iff.mpr late)
      · cases taken
  | stores index =>
      simp only [DiagState.next] at taken
      split at taken
      · rename_i install now seen found
        obtain rfl := Option.some.inj taken
        rw [undisturbed, found, beq_iff_eq] at undisturbed_
        have before := (guarded.passed _ (List.mem_of_getElem? found) seen rfl).2
        rw [← undisturbed_, List.take_length] at before
        exact (guarded.stores before).goTo DiagPc.noConfusion
          fun seen same => DiagPc.noConfusion same
      · cases taken
  | fails index =>
      simp only [DiagState.next] at taken
      split at taken
      · cases taken
      · obtain rfl := Option.some.inj taken
        exact guarded.goTo DiagPc.noConfusion fun seen same => DiagPc.noConfusion same
      · cases taken
  | beats install now =>
      simp only [DiagState.next] at taken
      split at taken
      · obtain rfl := Option.some.inj taken
        exact guarded.beats install now
      · cases taken
  | cleans now =>
      simp only [DiagState.next] at taken
      split at taken
      · obtain rfl := Option.some.inj taken
        exact guarded.cleans undisturbed_
      · cases taken

/-- As long as no upload of an install comes between the two statements of another, and no cleanup
takes a row that is still needed, the uploads of every install are an hour apart. -/
theorem spaced_of_undisturbed {labels : List DiagLabel} {state : DiagState}
    (run : Run (Restrict (ofNext DiagState.next) (fun state label => undisturbed state label))
      DiagState.initial labels state) : Spaced state := by
  refine (run.invariant Guarded next_guarded ?_).spaced
  exact
    { known := fun _ time member => absurd member List.not_mem_nil
      passed := fun request member => absurd member List.not_mem_nil
      spaced := fun _ => List.Pairwise.nil }

/-- Two uploads after one another, an hour apart. -/
theorem spaced_of_undisturbed_twice :
    ∃ state : DiagState, state.uploads = [("MLD-0000-0000".toList, 0),
      ("MLD-0000-0000".toList, 3600)] ∧ Spaced state :=
  ⟨_, rfl, @spaced_of_undisturbed
    [.arrives "MLD-0000-0000".toList, .reads 0, .stores 0, .tick 3600,
      .arrives "MLD-0000-0000".toList, .reads 1, .stores 1]
    _ (run_of_executeChecked rfl)⟩

/-- Both of two requests read the row before either has stored its upload. -/
theorem parallel_uploads :
    ¬ ∀ (labels : List DiagLabel) (state : DiagState),
      Run (ofNext DiagState.next) DiagState.initial labels state → Spaced state := by
  intro always
  have reached : ∃ state, execute DiagState.next DiagState.initial
      [.arrives "MLD-0000-0000".toList, .arrives "MLD-0000-0000".toList, .reads 0, .reads 1,
        .stores 0, .stores 1] = some state ∧
      uploadsOf "MLD-0000-0000".toList state.uploads = [0, 0] :=
    ⟨_, rfl, rfl⟩
  obtain ⟨state, executed, twice⟩ := reached
  have spaced := always _ state (run_of_execute executed) "MLD-0000-0000".toList
  rw [twice] at spaced
  revert spaced
  decide

end Guarded

end MolidoVpn.Worker
