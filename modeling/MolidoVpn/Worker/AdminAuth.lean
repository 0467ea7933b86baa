import MolidoVpn.Lib.Numbered
import MolidoVpn.Lib.Transition

/-!
`adminAuth` for the requests of one address: the row of `admin_fails` is read in one
statement and deleted or overwritten in another, and requests run beside each other.
-/

namespace MolidoVpn.Worker

open Numbered (getElem?_append_singleton_cases getElem?_set_cases)
open Transition (Run ofNext Restrict execute run_of_execute executeChecked run_of_executeChecked)

def adminMaxFails : Nat := 5

def adminLockMs : Nat := 15 * 60000

def dayMs : Nat := 86400000

/-- The row of the address in `admin_fails`. -/
structure FailsRow where
  fails : Nat
  lockedUntil : Nat
  updated : Nat
  deriving DecidableEq

/-- How far a request is; `wrong` and `right` have compared the key. -/
inductive AuthPc where
  | arrived
  | read (row : Option FailsRow)
  | wrong (row : Option FailsRow)
  | right (row : FailsRow)
  | authorized
  | answered (status : Nat)
  deriving DecidableEq

/-- `now` is taken before the row is read. -/
structure AuthRequest where
  now : Nat
  pc : AuthPc
  deriving DecidableEq

/-- With the wrong keys that were compared since the last lock, right key or purge, and the time
until which a lock that was written lasts. -/
structure AdminState where
  clock : Nat
  row : Option FailsRow
  requests : List AuthRequest
  wrongKeys : Nat
  lockedUntil : Nat
  deriving DecidableEq

def AdminState.initial : AdminState :=
  { clock := 0
    row := none
    requests := []
    wrongKeys := 0
    lockedUntil := 0 }

inductive AuthLabel where
  | tick (ms : Nat)
  | arrives
  | reads (index : Nat)
  | compares (index : Nat) (equal : Bool)
  | writes (index : Nat)
  /-- `DELETE FROM admin_fails WHERE updated < ?1`, by other requests and by the cron job -/
  | purges
  deriving DecidableEq

def isLocked (row : Option FailsRow) (now : Nat) : Bool :=
  row.any fun row => now < row.lockedUntil

def failsOf (row : Option FailsRow) : Nat := (row.map FailsRow.fails).getD 0

/-- The rows that were not updated for a day are gone. -/
def purge (now : Nat) (row : Option FailsRow) : Option FailsRow :=
  row.filter fun row => now ≤ row.updated + dayMs

/-- The row that a wrong key leaves. -/
def failed (row : Option FailsRow) (now : Nat) : FailsRow :=
  if adminMaxFails ≤ failsOf row + 1 then ⟨0, now + adminLockMs, now⟩
  else ⟨failsOf row + 1, 0, now⟩

def AdminState.goTo (state : AdminState) (index : Nat) (now : Nat) (pc : AuthPc) : AdminState :=
  { state with requests := state.requests.set index ⟨now, pc⟩ }

/-- The two statements of the batch; a lock starts a new count. -/
def AdminState.store (state : AdminState) (row : FailsRow) (now : Nat) : AdminState :=
  { state with
    row := purge now (some row)
    wrongKeys := if row.lockedUntil = 0 then state.wrongKeys else 0
    lockedUntil := max state.lockedUntil row.lockedUntil }

def AdminState.next (state : AdminState) : AuthLabel → Option AdminState
  | .tick ms => some { state with clock := state.clock + ms }
  | .arrives => some { state with requests := state.requests ++ [⟨state.clock, .arrived⟩] }
  | .reads index =>
      match state.requests[index]? with
      | some ⟨now, .arrived⟩ =>
          some (state.goTo index now
            (if isLocked state.row now then .answered 429 else .read state.row))
      | _ => none
  | .compares index equal =>
      match state.requests[index]? with
      | some ⟨now, .read row⟩ =>
          if equal then
            some (state.goTo index now (row.elim .authorized .right))
          else some { state.goTo index now (.wrong row) with wrongKeys := state.wrongKeys + 1 }
      | _ => none
  | .writes index =>
      match state.requests[index]? with
      | some ⟨now, .wrong row⟩ =>
          let after := failed row now
          some ((state.store after now).goTo index now
            (.answered (if after.lockedUntil = 0 then 401 else 429)))
      | some ⟨now, .right _⟩ =>
          some { state.goTo index now .authorized with row := none, wrongKeys := 0 }
      | _ => none
  | .purges =>
      some { state with
        row := purge state.clock state.row
        wrongKeys := if (purge state.clock state.row).isSome then state.wrongKeys else 0 }

/-- No more wrong keys are compared than the limit, and a lock that was written stays. -/
structure Guards (state : AdminState) : Prop where
  wrongKeys : state.wrongKeys ≤ adminMaxFails
  locked : state.clock < state.lockedUntil →
    ∃ row, state.row = some row ∧ state.lockedUntil ≤ row.lockedUntil

def AuthPc.isWrong : AuthPc → Bool
  | .wrong _ => true
  | _ => false

/-- A wrong key is compared while no other wrong key waits to be counted, no lock is running and
the row counts no more than what the request has read; a right key deletes no running lock. -/
def alone (state : AdminState) : AuthLabel → Bool
  | .compares index false =>
      match state.requests[index]? with
      | some ⟨_, .read row⟩ =>
          !isLocked state.row state.clock && failsOf state.row ≤ failsOf row &&
            state.requests.all fun request => !request.pc.isWrong
      | _ => true
  | .writes index =>
      match state.requests[index]? with
      | some ⟨_, .right _⟩ => !isLocked state.row state.clock
      | _ => true
  | _ => true

/-- The row counts every wrong key, but for one that is compared and not yet stored; that one has
read all others, and no lock runs until it is stored. -/
structure Counted (state : AdminState) : Prop where
  arrived : ∀ request ∈ state.requests, request.now ≤ state.clock
  stored : ∀ row, state.row = some row → row.fails < adminMaxFails ∧
    row.lockedUntil ≤ row.updated + adminLockMs ∧ row.updated ≤ state.clock
  read : ∀ request ∈ state.requests, ∀ row,
    request.pc = .read row ∨ request.pc = .wrong row → failsOf row < adminMaxFails
  settled : (∀ request ∈ state.requests, request.pc.isWrong = false) →
    state.wrongKeys ≤ failsOf state.row
  pending : ∀ (index now : Nat) (row : Option FailsRow),
    state.requests[index]? = some ⟨now, .wrong row⟩ →
    state.wrongKeys ≤ failsOf row + 1 ∧ state.lockedUntil ≤ state.clock ∧
      ∀ (other : Nat) (request : AuthRequest), state.requests[other]? = some request →
        request.pc.isWrong = true → other = index
  locked : state.clock < state.lockedUntil →
    ∃ row, state.row = some row ∧ state.lockedUntil ≤ row.lockedUntil

theorem failsOf_lt {state : AdminState} (counted : Counted state) :
    failsOf state.row < adminMaxFails := by
  cases stored : state.row with
  | none => decide
  | some row => exact (counted.stored row stored).1

/-- At most one wrong key waits to be counted. -/
theorem Counted.guards {state : AdminState} (counted : Counted state) : Guards state where
  wrongKeys := by
    by_cases settled : ∀ request ∈ state.requests, request.pc.isWrong = false
    · have few := counted.settled settled
      have limit := failsOf_lt counted
      omega
    · obtain ⟨⟨now, pc⟩, member, wrong⟩ :
          ∃ request ∈ state.requests, request.pc.isWrong = true := by
        by_contra none_
        apply settled
        intro request member
        apply Bool.eq_false_iff.mpr
        intro wrong
        exact none_ ⟨request, member, wrong⟩
      obtain ⟨index, found⟩ := List.getElem?_of_mem member
      cases pc with
      | wrong row =>
          have few := (counted.pending index now row found).1
          have limit := counted.read _ member row (Or.inr rfl)
          omega
      | _ => cases wrong
  locked := counted.locked

theorem not_isLocked {row : Option FailsRow} {now : Nat} (unlocked : isLocked row now = false) :
    ∀ found, row = some found → found.lockedUntil ≤ now := by
  rintro found rfl
  have late : decide (now < found.lockedUntil) = false := unlocked
  exact Nat.le_of_not_lt (of_decide_eq_false late)

theorem lockedUntil_le {state : AdminState} (counted : Counted state)
    (unlocked : isLocked state.row state.clock = false) : state.lockedUntil ≤ state.clock := by
  by_contra running
  obtain ⟨row, stored, lasts⟩ := counted.locked (Nat.lt_of_not_le running)
  have over_ := not_isLocked unlocked row stored
  omega

/-- A request goes on, and it has compared no wrong key before or after. -/
theorem Counted.goTo {state : AdminState} (counted : Counted state) {index now : Nat}
    {before : AuthPc} (after : AuthPc) (found : state.requests[index]? = some ⟨now, before⟩)
    (wasRight : before.isWrong = false) (isRight : after.isWrong = false)
    (read : ∀ row, after = .read row → failsOf row < adminMaxFails) :
    Counted (state.goTo index now after) := by
  have old := List.mem_of_getElem? found
  constructor
  · intro request member
    rcases List.mem_or_eq_of_mem_set member with there | rfl
    · exact counted.arrived request there
    · exact counted.arrived ⟨now, before⟩ old
  · exact counted.stored
  · intro request member row pc
    rcases List.mem_or_eq_of_mem_set member with there | rfl
    · exact counted.read request there row pc
    · rcases pc with same | same
      · exact read row same
      · change after = .wrong row at same
        rw [same] at isRight
        cases isRight
  · intro settled
    apply counted.settled
    intro request member
    obtain ⟨place, at_⟩ := List.getElem?_of_mem member
    by_cases here : index = place
    · subst here
      obtain rfl := Option.some.inj (found.symm.trans at_)
      exact wasRight
    · apply settled
      apply List.mem_of_getElem? (i := place)
      change (state.requests.set index _)[place]? = _
      rw [List.getElem?_set_ne here, at_]
  · intro other otherNow row pending
    change (state.requests.set index ⟨now, after⟩)[other]? = _ at pending
    have elsewhere : index ≠ other := by
      rintro rfl
      obtain ⟨within, _⟩ := List.getElem?_eq_some_iff.mp found
      rw [List.getElem?_set_self within] at pending
      cases pending
      cases isRight
    rw [List.getElem?_set_ne elsewhere] at pending
    obtain ⟨few, unlocked, only⟩ := counted.pending other otherNow row pending
    refine ⟨few, unlocked, ?_⟩
    intro third request at_ wrong
    rcases getElem?_set_cases at_ with ⟨_, rfl⟩ | ⟨_, before⟩
    · rw [isRight] at wrong
      cases wrong
    · exact only third request before wrong
  · exact counted.locked

theorem Counted.arrives {state : AdminState} (counted : Counted state) :
    Counted { state with requests := state.requests ++ [⟨state.clock, .arrived⟩] } := by
  have inList {request : AuthRequest}
      (member : request ∈ state.requests ++ [⟨state.clock, .arrived⟩]) :
      request ∈ state.requests ∨ request = ⟨state.clock, .arrived⟩ :=
    (List.mem_append.mp member).imp_right List.mem_singleton.mp
  have atPlace {place : Nat} {request : AuthRequest}
      (found : (state.requests ++ [⟨state.clock, .arrived⟩])[place]? = some request)
      (wrong : request.pc.isWrong = true) : state.requests[place]? = some request := by
    rcases getElem?_append_singleton_cases found with before | ⟨_, rfl⟩
    · exact before
    · cases wrong
  constructor
  · intro request member
    rcases inList member with old | rfl
    · exact counted.arrived request old
    · exact Nat.le_refl _
  · exact counted.stored
  · intro request member row pc
    rcases inList member with old | rfl
    · exact counted.read request old row pc
    · rcases pc with impossible | impossible <;> cases impossible
  · intro settled
    apply counted.settled
    intro request member
    exact settled request (List.mem_append_left _ member)
  · intro index now row pending
    obtain ⟨few, unlocked, only⟩ := counted.pending index now row (atPlace pending rfl)
    exact ⟨few, unlocked, fun other request found wrong =>
      only other request (atPlace found wrong) wrong⟩
  · exact counted.locked

/-- A wrong key that is compared alone is the only one that waits. -/
theorem Counted.comparesWrong {state : AdminState} (counted : Counted state) {index now : Nat}
    {row : Option FailsRow} (found : state.requests[index]? = some ⟨now, .read row⟩)
    (alone_ : alone state (.compares index false) = true) :
    Counted { state.goTo index now (.wrong row) with wrongKeys := state.wrongKeys + 1 } := by
  rw [alone, found, Bool.and_eq_true, Bool.and_eq_true, Bool.not_eq_true', decide_eq_true_iff]
    at alone_
  obtain ⟨⟨unlocked, current⟩, noneWrong⟩ := alone_
  have settled : ∀ request ∈ state.requests, request.pc.isWrong = false := by
    intro request member
    have notWrong := List.all_eq_true.mp noneWrong request member
    rw [Bool.not_eq_true'] at notWrong
    exact notWrong
  have few := counted.settled settled
  have noLock := lockedUntil_le counted unlocked
  have member := List.mem_of_getElem? found
  have onlyHere {other : Nat} {request : AuthRequest}
      (at_ : (state.requests.set index ⟨now, .wrong row⟩)[other]? = some request)
      (wrong : request.pc.isWrong = true) : other = index ∧ request = ⟨now, .wrong row⟩ := by
    rcases getElem?_set_cases at_ with here | ⟨_, before⟩
    · exact here
    · rw [settled request (List.mem_of_getElem? before)] at wrong
      cases wrong
  constructor
  · intro request inSet
    rcases List.mem_or_eq_of_mem_set inSet with old | rfl
    · exact counted.arrived request old
    · exact counted.arrived ⟨now, .read row⟩ member
  · exact counted.stored
  · intro request inSet other pc
    rcases List.mem_or_eq_of_mem_set inSet with old | rfl
    · exact counted.read request old other pc
    · rcases pc with impossible | same
      · cases impossible
      · cases same
        exact counted.read _ member row (Or.inl rfl)
  · intro all
    obtain ⟨within, _⟩ := List.getElem?_eq_some_iff.mp found
    cases all _ (List.mem_set within ⟨now, .wrong row⟩)
  · intro other otherNow otherRow pending
    obtain ⟨rfl, same⟩ := onlyHere pending rfl
    cases same
    refine ⟨?_, noLock, ?_⟩
    · exact Nat.succ_le_succ (Nat.le_trans few current)
    · intro third request at_ wrong
      exact (onlyHere at_ wrong).1
  · exact counted.locked

theorem failed_cases (row : Option FailsRow) (now : Nat) :
    (adminMaxFails ≤ failsOf row + 1 ∧ failed row now = ⟨0, now + adminLockMs, now⟩) ∨
      (failsOf row + 1 < adminMaxFails ∧ failed row now = ⟨failsOf row + 1, 0, now⟩) := by
  unfold failed
  by_cases many : adminMaxFails ≤ failsOf row + 1
  · rw [if_pos many]
    exact Or.inl ⟨many, rfl⟩
  · rw [if_neg many]
    exact Or.inr ⟨Nat.lt_of_not_le many, rfl⟩

theorem purge_failed (row : Option FailsRow) (now : Nat) :
    purge now (some (failed row now)) = some (failed row now) := by
  apply Option.filter_some_pos
  rcases failed_cases row now with ⟨_, same⟩ | ⟨_, same⟩
  all_goals
    rw [same]
    exact decide_eq_true (Nat.le_add_right now dayMs)

/-- The one wrong key that waits is stored: the row counts it, or is locked. -/
theorem Counted.storesWrong {state : AdminState} (counted : Counted state) {index now : Nat}
    {row : Option FailsRow} (found : state.requests[index]? = some ⟨now, .wrong row⟩)
    (status : Nat) :
    Counted ((state.store (failed row now) now).goTo index now (.answered status)) := by
  obtain ⟨few, noLock, only⟩ := counted.pending index now row found
  have member := List.mem_of_getElem? found
  have arrived := counted.arrived _ member
  have noneWrong {other : Nat} {request : AuthRequest}
      (at_ : (state.requests.set index ⟨now, .answered status⟩)[other]? = some request) :
      request.pc.isWrong = false := by
    apply Bool.eq_false_iff.mpr
    intro wrong
    rcases getElem?_set_cases at_ with ⟨_, rfl⟩ | ⟨elsewhere, before⟩
    · cases wrong
    · exact elsewhere (only other request before wrong)
  constructor
  · intro request inSet
    rcases List.mem_or_eq_of_mem_set inSet with old | rfl
    · exact counted.arrived request old
    · exact arrived
  · intro stored same
    change purge now (some (failed row now)) = some stored at same
    rw [purge_failed] at same
    obtain rfl := Option.some.inj same
    rcases failed_cases row now with ⟨_, is⟩ | ⟨below, is⟩
    · rw [is]
      exact ⟨Nat.succ_pos 4, Nat.le_refl _, arrived⟩
    · rw [is]
      exact ⟨below, Nat.zero_le _, arrived⟩
  · intro request inSet other pc
    rcases List.mem_or_eq_of_mem_set inSet with old | rfl
    · exact counted.read request old other pc
    · rcases pc with impossible | impossible <;> cases impossible
  · intro _
    change (if (failed row now).lockedUntil = 0 then state.wrongKeys else 0) ≤
      failsOf (purge now (some (failed row now)))
    rw [purge_failed]
    rcases failed_cases row now with ⟨_, is⟩ | ⟨_, is⟩
    · have positive : ¬ now + adminLockMs = 0 := by
        unfold adminLockMs
        omega
      rw [is, if_neg positive]
      exact Nat.zero_le _
    · rw [is, if_pos rfl]
      exact few
  · intro other otherNow otherRow pending
    cases noneWrong pending
  · intro running
    change state.clock < max state.lockedUntil (failed row now).lockedUntil at running
    refine ⟨failed row now, purge_failed row now, ?_⟩
    change max state.lockedUntil (failed row now).lockedUntil ≤ (failed row now).lockedUntil
    omega

/-- A right key deletes the row while no lock runs. -/
theorem Counted.deletes {state : AdminState} (counted : Counted state)
    (unlocked : isLocked state.row state.clock = false) :
    Counted { state with row := none, wrongKeys := 0 } where
  arrived := counted.arrived
  stored := nofun
  read := counted.read
  settled := fun _ => Nat.zero_le _
  pending := fun index now row found =>
    ⟨Nat.zero_le _, (counted.pending index now row found).2⟩
  locked := by
    intro running
    have noLock := lockedUntil_le counted unlocked
    change state.clock < state.lockedUntil at running
    omega

/-- A row that is gone for its age has no lock that runs. -/
theorem Counted.purges {state : AdminState} (counted : Counted state) :
    Counted { state with
      row := purge state.clock state.row
      wrongKeys := if (purge state.clock state.row).isSome then state.wrongKeys else 0 } := by
  cases stored : state.row with
  | none =>
      have deleted := counted.deletes (by rw [stored]; rfl)
      exact deleted
  | some row =>
      obtain ⟨_, until_, updated⟩ := counted.stored row stored
      by_cases young : state.clock ≤ row.updated + dayMs
      · have kept : purge state.clock (some row) = some row :=
          Option.filter_some_pos (decide_eq_true young)
        rw [kept]
        refine { counted with stored := ?_, settled := ?_, locked := ?_ }
        · rw [← stored]
          exact counted.stored
        · have settled := counted.settled
          rw [stored] at settled
          exact settled
        · rw [← stored]
          exact counted.locked
      · have gone : purge state.clock (some row) = none :=
          Option.filter_some_neg (decide_eq_false young)
        rw [gone]
        apply counted.deletes
        rw [stored]
        apply decide_eq_false
        unfold adminLockMs at until_
        unfold dayMs at young
        omega

theorem next_counted (source : AdminState) (label : AuthLabel) (target : AdminState)
    (taken : Restrict (ofNext AdminState.next) (fun state label => alone state label) source label
      target)
    (counted : Counted source) : Counted target := by
  obtain ⟨taken, alone_⟩ := taken
  unfold ofNext at taken
  cases label with
  | tick ms =>
      obtain rfl := Option.some.inj taken
      refine { counted with arrived := ?_, stored := ?_, pending := ?_, locked := ?_ }
      · intro request member
        exact Nat.le_add_right_of_le (counted.arrived request member)
      · intro row stored
        obtain ⟨fails, until_, updated⟩ := counted.stored row stored
        exact ⟨fails, until_, Nat.le_add_right_of_le updated⟩
      · intro index now row found
        obtain ⟨few, noLock, only⟩ := counted.pending index now row found
        exact ⟨few, Nat.le_add_right_of_le noLock, only⟩
      · intro running
        exact counted.locked (Nat.lt_of_le_of_lt (Nat.le_add_right _ _) running)
  | arrives =>
      obtain rfl := Option.some.inj taken
      exact counted.arrives
  | reads index =>
      simp only [AdminState.next] at taken
      split at taken
      · rename_i now found
        obtain rfl := Option.some.inj taken
        have limit := failsOf_lt counted
        apply counted.goTo _ found rfl
        · split <;> rfl
        · intro row same
          split at same
          · cases same
          · cases same
            exact limit
      · cases taken
  | compares index equal =>
      simp only [AdminState.next] at taken
      split at taken
      · rename_i now row found
        cases equal with
        | true =>
            obtain rfl := Option.some.inj taken
            cases row with
            | none => exact counted.goTo _ found rfl rfl nofun
            | some row => exact counted.goTo _ found rfl rfl nofun
        | false =>
            obtain rfl := Option.some.inj taken
            exact counted.comparesWrong found alone_
      · cases taken
  | writes index =>
      simp only [AdminState.next] at taken
      split at taken
      · rename_i now row found
        obtain rfl := Option.some.inj taken
        exact counted.storesWrong found _
      · rename_i now row found
        obtain rfl := Option.some.inj taken
        rw [alone, found, Bool.not_eq_true'] at alone_
        have authorized := counted.goTo .authorized found rfl rfl nofun
        exact authorized.deletes alone_
      · cases taken
  | purges =>
      obtain rfl := Option.some.inj taken
      exact counted.purges

/-- As long as each wrong key is compared alone and no right key deletes a running lock, the limit
is kept and a lock lasts. -/
theorem guards_of_alone {labels : List AuthLabel} {state : AdminState}
    (run : Run (Restrict (ofNext AdminState.next) (fun state label => alone state label))
      AdminState.initial labels state) : Guards state := by
  apply Counted.guards
  apply run.invariant Counted next_counted
  exact
    { arrived := nofun
      stored := nofun
      read := nofun
      settled := fun _ => Nat.le_refl _
      pending := nofun
      locked := nofun }

/-- Five wrong keys one after the other, and the lock that the fifth one writes. -/
theorem guards_of_alone_locked :
    ∃ state : AdminState, state.lockedUntil = adminLockMs ∧ Guards state :=
  ⟨_, rfl, @guards_of_alone
    ((List.range 5).flatMap fun index =>
      [.arrives, .reads index, .compares index false, .writes index])
    _ (run_of_executeChecked rfl)⟩

/-- Six requests read the row before the first of them stores its count. -/
theorem parallel_wrong_keys :
    ¬ ∀ (labels : List AuthLabel) (state : AdminState),
      Run (ofNext AdminState.next) AdminState.initial labels state → Guards state := by
  intro always
  have reached : ∃ state, execute AdminState.next AdminState.initial
      (List.replicate 6 .arrives ++ (List.range 6).map .reads ++
        (List.range 6).map fun index => .compares index false) = some state ∧
      state.wrongKeys = 6 :=
    ⟨_, rfl, rfl⟩
  obtain ⟨state, executed, six⟩ := reached
  have few := (always _ state (run_of_execute executed)).wrongKeys
  rw [six] at few
  revert few
  decide

end MolidoVpn.Worker
