import MolidoVpn.Lib.Numbered
import MolidoVpn.Lib.Table
import MolidoVpn.Worker.Catalog

/-!
What the catalogue keeps: the copies in memory with their total size, and the builds in
flight, one for a key.
-/

namespace MolidoVpn.Worker

open Eviction (evict share total total_append total_cons total_filter replace_distinct evict_suffix
  evict_total evict_fits)
open Numbered (getElem?_append_of_some getElem?_append_singleton_cases getElem?_set_cases)
open Table (lookup_insert lookup_erase)

/-- One copy for a key, and both bounds met. -/
structure Kept (state : Catalog) : Prop where
  distinct : (state.memo.map Prod.fst).Nodup
  chars : state.catalogChars = total Catalog.charsOf state.memo
  few : state.memo.length ≤ 12
  small : state.catalogChars ≤ 2000000

theorem Kept.of_same {state after : Catalog} (kept : Kept state) (memo : after.memo = state.memo)
    (chars : after.catalogChars = state.catalogChars) : Kept after where
  distinct := by rw [memo]; exact kept.distinct
  chars := by rw [memo, chars]; exact kept.chars
  few := by rw [memo]; exact kept.few
  small := by rw [chars]; exact kept.small

theorem Kept.store {state : Catalog} (kept : Kept state) (key : Key) (entry : Entry) :
    Kept (state.store key entry) := by
  unfold Catalog.store
  split
  · have running : state.catalogChars - share Catalog.charsOf state.memo key + entry.body.length =
        total Catalog.charsOf
          (state.memo.filter (fun other => other.1 != key) ++ [(key, entry)]) := by
      rw [total_append, total_filter state.memo key kept.distinct, kept.chars, total_cons]
      exact congrArg _ (Int.add_zero _).symm
    dsimp only
    rw [running]
    obtain ⟨few, small⟩ := evict_fits 12 2000000 (by decide)
      (state.memo.filter (fun other => other.1 != key) ++ [(key, entry)])
    exact
      { distinct := (replace_distinct key entry kept.distinct).sublist
          ((evict_suffix 12 2000000 _ _).sublist.map Prod.fst)
        chars := evict_total 12 2000000 _
        few := few
        small := small }
  · exact kept

/-- The map of builds in flight names exactly the builds that run, and calls wait for these. -/
structure InFlight (state : Catalog) : Prop where
  running : ∀ (index : Nat) (build : Build), state.builds[index]? = some build →
    build.pc ≠ .settled → state.inflight.lookup build.key = some index
  named : ∀ (key : Key) (index : Nat), state.inflight.lookup key = some index →
    ∃ build, state.builds[index]? = some build ∧ build.pc ≠ .settled ∧ build.key = key
  waiting : ∀ call ∈ state.calls, ∀ index, call.pc = .waiting index →
    ∃ build, state.builds[index]? = some build ∧ build.pc ≠ .settled ∧ build.key = call.key

theorem InFlight.of_same {state after : Catalog} (inFlight : InFlight state)
    (builds : after.builds = state.builds) (inflight : after.inflight = state.inflight)
    (calls : ∀ call ∈ after.calls, ∀ index, call.pc = .waiting index → call ∈ state.calls) :
    InFlight after where
  running := by rw [builds, inflight]; exact inFlight.running
  named := by rw [builds, inflight]; exact inFlight.named
  waiting := by
    intro call member index pc
    rw [builds]
    exact inFlight.waiting call (calls call member index pc) index pc

/-- Two builds of one key that run are one. -/
theorem InFlight.single {state : Catalog} (inFlight : InFlight state) {first second : Nat}
    {build other : Build} (atFirst : state.builds[first]? = some build)
    (atSecond : state.builds[second]? = some other) (runs : build.pc ≠ .settled)
    (otherRuns : other.pc ≠ .settled) (same : build.key = other.key) : first = second := by
  have named := inFlight.running first build atFirst runs
  have otherNamed := inFlight.running second other atSecond otherRuns
  rw [same] at named
  exact Option.some.inj (named.symm.trans otherNamed)

theorem InFlight.setCall {state : Catalog} (inFlight : InFlight state) {index : Nat} {call : Call}
    (pc : CallPc) (idle : ∀ build, pc ≠ .waiting build) : InFlight (state.setCall index call pc) := by
  refine inFlight.of_same rfl rfl ?_
  intro other member build waits
  rcases List.mem_or_eq_of_mem_set member with old | rfl
  · exact old
  · exact absurd waits (idle build)

/-- A call that shares a build waits for one of its key. -/
theorem InFlight.share {state : Catalog} (inFlight : InFlight state) {index build : Nat}
    {call : Call} (named : state.inflight.lookup call.key = some build) :
    InFlight (state.setCall index call (.waiting build)) where
  running := inFlight.running
  named := inFlight.named
  waiting := by
    intro other member place pc
    rcases List.mem_or_eq_of_mem_set member with old | rfl
    · exact inFlight.waiting other old place pc
    · cases pc
      exact inFlight.named call.key build named

/-- A call whose key is free starts a build of it. -/
theorem InFlight.start {state : Catalog} (inFlight : InFlight state) {index : Nat} {call : Call}
    (free : state.inflight.lookup call.key = none) (build : Build) (key : build.key = call.key)
    (runs : build.pc ≠ .settled) :
    InFlight { state.setCall index call (.waiting state.builds.length) with
      inflight := state.inflight.insert call.key state.builds.length
      builds := state.builds ++ [build] } := by
  have here : (state.builds ++ [build])[state.builds.length]? = some build := by
    rw [List.getElem?_append_right (Nat.le_refl _), Nat.sub_self]
    rfl
  constructor
  · intro place other at_ otherRuns
    change (state.inflight.insert call.key state.builds.length).lookup other.key = some place
    rw [lookup_insert]
    rcases getElem?_append_singleton_cases at_ with old | ⟨rfl, rfl⟩
    · have named := inFlight.running place other old otherRuns
      rw [if_neg]
      · exact named
      · intro same
        rw [same] at named
        cases free.symm.trans named
    · rw [if_pos key]
  · intro name place named
    change (state.inflight.insert call.key state.builds.length).lookup name = some place at named
    rw [lookup_insert] at named
    split at named
    · rename_i same
      obtain rfl := Option.some.inj named
      exact ⟨build, here, runs, key.trans same.symm⟩
    · obtain ⟨other, at_, rest⟩ := inFlight.named name place named
      exact ⟨other, getElem?_append_of_some at_ [build], rest⟩
  · intro other member place pc
    rcases List.mem_or_eq_of_mem_set member with old | rfl
    · obtain ⟨waited, at_, rest⟩ := inFlight.waiting other old place pc
      exact ⟨waited, getElem?_append_of_some at_ [build], rest⟩
    · cases pc
      exact ⟨build, here, runs, key⟩

theorem InFlight.join {state : Catalog} (inFlight : InFlight state) (index : Nat) (call : Call) :
    InFlight (state.join index call) := by
  unfold Catalog.join
  split
  · rename_i build named
    exact inFlight.share named
  · rename_i free
    exact inFlight.start free _ rfl nofun

/-- A build that goes on and is not over. -/
theorem InFlight.advance {state : Catalog} (inFlight : InFlight state) {index : Nat}
    {build after : Build} (found : state.builds[index]? = some build) (key : after.key = build.key)
    (ran : build.pc ≠ .settled) (runs : after.pc ≠ .settled) :
    InFlight { state with builds := state.builds.set index after } := by
  obtain ⟨within, _⟩ := List.getElem?_eq_some_iff.mp found
  have moved {name : Key} {place : Nat}
      (old : ∃ other, state.builds[place]? = some other ∧ other.pc ≠ .settled ∧
        other.key = name) :
      ∃ other, (state.builds.set index after)[place]? = some other ∧ other.pc ≠ .settled ∧
        other.key = name := by
    obtain ⟨other, at_, otherRuns, rfl⟩ := old
    by_cases here : index = place
    · subst here
      obtain rfl := Option.some.inj (found.symm.trans at_)
      exact ⟨after, List.getElem?_set_self within, runs, key⟩
    · exact ⟨other, (List.getElem?_set_ne here).trans at_, otherRuns, rfl⟩
  constructor
  · intro place other at_ otherRuns
    rcases getElem?_set_cases at_ with ⟨rfl, rfl⟩ | ⟨_, old⟩
    · rw [key]
      exact inFlight.running place build found ran
    · exact inFlight.running place other old otherRuns
  · intro name place named
    exact moved (inFlight.named name place named)
  · intro call member place pc
    exact moved (inFlight.waiting call member place pc)

/-- A build that is over leaves its key free, and nobody waits for it any more. -/
theorem InFlight.settle {state : Catalog} (inFlight : InFlight state) {index : Nat} {build : Build}
    (found : state.builds[index]? = some build) (ran : build.pc ≠ .settled) (source : Source)
    (result : BuildResult) : InFlight (state.settle index build source result) := by
  have own := inFlight.running index build found ran
  have rest {name : Key} {place : Nat} (elsewhere : index ≠ place)
      (old : ∃ other, state.builds[place]? = some other ∧ other.pc ≠ .settled ∧
        other.key = name) :
      ∃ other, (state.builds.set index { build with pc := .settled })[place]? = some other ∧
        other.pc ≠ .settled ∧ other.key = name := by
    obtain ⟨other, at_, more⟩ := old
    exact ⟨other, (List.getElem?_set_ne elsewhere).trans at_, more⟩
  constructor
  · intro place other at_ otherRuns
    change (state.inflight.erase build.key).lookup other.key = some place
    rcases getElem?_set_cases at_ with ⟨_, rfl⟩ | ⟨elsewhere, old⟩
    · exact absurd rfl otherRuns
    · have named := inFlight.running place other old otherRuns
      rw [lookup_erase, if_neg]
      · exact named
      · intro same
        rw [same, own] at named
        exact elsewhere (Option.some.inj named).symm
  · intro name place named
    change (state.inflight.erase build.key).lookup name = some place at named
    rw [lookup_erase] at named
    split at named
    · cases named
    · rename_i different
      apply rest _ (inFlight.named name place named)
      rintro rfl
      obtain ⟨other, at_, _, rfl⟩ := inFlight.named name index named
      obtain rfl := Option.some.inj (found.symm.trans at_)
      exact different rfl
  · intro call member place pc
    obtain ⟨before, old, rfl⟩ := List.mem_map.mp member
    by_cases here : before.pc = .waiting index
    · rw [if_pos (beq_iff_eq.mpr here)] at pc
      cases pc
    · rw [if_neg (fun same => here (eq_of_beq same))] at pc ⊢
      apply rest _ (inFlight.waiting before old place pc)
      rintro rfl
      exact here pc

end MolidoVpn.Worker
