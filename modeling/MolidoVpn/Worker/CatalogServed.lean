import MolidoVpn.Lib.Transition
import MolidoVpn.Worker.CatalogMemory

/-!
What the catalogue answers: a body is that of a successful build of the same key, young
enough for the copy that it was taken from, and an error stands for no copy that was good
enough when the request came that has started the build.
-/

namespace MolidoVpn.Worker

open Eviction (evict_suffix total)
open Transition (Run ofNext execute run_of_execute)

/-- The reply is made from this entry, which a build of the key has made. -/
def Gives (successes : List (Key × Entry)) (key : Key) (entry : Entry) (reply : Reply) : Prop :=
  (key, entry) ∈ successes ∧ (reply.status = some 200 ∨ reply.status = some 304) ∧
    ∀ body, reply.body = some body → body = entry.body

/-- What each answer promises, by the copy that it was taken from. -/
inductive Sound (successes : List (Key × Entry)) : Answer → Prop where
  | refused {at_ : Nat} {reply : Reply}
      (status : reply.status = some 405 ∨ reply.status = some 404) :
      Sound successes ⟨none, at_, .refused, reply⟩
  | memory {key : Key} {at_ : Nat} {entry : Entry} {reply : Reply}
      (gives : Gives successes key entry reply) (young : at_ < entry.at_ + catalogTtlMs) :
      Sound successes ⟨some key, at_, .memory entry, reply⟩
  | edge {key : Key} {at_ put : Nat} {entry : Entry} {reply : Reply}
      (gives : Gives successes key entry reply) (young : at_ ≤ put + edgeTtlMs) :
      Sound successes ⟨some key, at_, .edge entry put, reply⟩
  | built {key : Key} {entry : Entry} {reply : Reply}
      (gives : Gives successes key entry reply) :
      Sound successes ⟨some key, entry.at_, .built entry, reply⟩
  | staleIfError {key : Key} {at_ arrived : Nat} {entry : Entry} {reply : Reply}
      (gives : Gives successes key entry reply)
      (young : arrived ≤ entry.at_ + catalogStaleIfErrorMs) :
      Sound successes ⟨some key, at_, .staleIfError entry arrived, reply⟩
  | failure {key : Key} {at_ arrived : Nat} {old : Option Entry} {reply : Reply}
      (status : reply.status ≠ some 200)
      (noCopy : ∀ entry, old = some entry → entry.at_ + catalogStaleIfErrorMs < arrived) :
      Sound successes ⟨some key, at_, .failure arrived old, reply⟩

/-- What a request that came at this time has seen in memory, and what it keeps of it. -/
def Saved (successes : List (Key × Entry)) (key : Key) (arrived : Nat)
    (old stale : Option Entry) : Prop :=
  (∀ entry, stale = some entry → (key, entry) ∈ successes ∧
    arrived ≤ entry.at_ + catalogStaleIfErrorMs) ∧
  (stale = none → ∀ entry, old = some entry → entry.at_ + catalogStaleIfErrorMs < arrived)

/-- All that is kept anywhere comes from a build of its key that was a success. -/
structure Provenance (state : Catalog) : Prop where
  memo : ∀ kept ∈ state.memo, kept ∈ state.successes ∧ kept.2.status = 200
  puts : ∀ kept ∈ state.puts, kept ∈ state.successes
  edge : ∀ key entry put, (key, entry, put) ∈ state.edge → (key, entry) ∈ state.successes
  successes : ∀ kept ∈ state.successes, kept.2.status = 200
  calls : ∀ call ∈ state.calls, Saved state.successes call.key call.arrived call.old call.stale
  builds : ∀ build ∈ state.builds,
    Saved state.successes build.key build.arrived build.old build.stale
  answers : ∀ answer ∈ state.answers, Sound state.successes answer

theorem Gives.mono {successes : List (Key × Entry)} (more : List (Key × Entry)) {key : Key}
    {entry : Entry} {reply : Reply} (gives : Gives successes key entry reply) :
    Gives (successes ++ more) key entry reply :=
  ⟨List.mem_append_left more gives.1, gives.2⟩

theorem Sound.mono {successes : List (Key × Entry)} (more : List (Key × Entry)) {answer : Answer}
    (sound : Sound successes answer) : Sound (successes ++ more) answer := by
  cases sound with
  | refused status => exact .refused status
  | memory gives young => exact .memory (gives.mono more) young
  | edge gives young => exact .edge (gives.mono more) young
  | built gives => exact .built (gives.mono more)
  | staleIfError gives young => exact .staleIfError (gives.mono more) young
  | failure status noCopy => exact .failure status noCopy

theorem Saved.mono {successes : List (Key × Entry)} (more : List (Key × Entry)) {key : Key}
    {arrived : Nat} {old stale : Option Entry} (saved : Saved successes key arrived old stale) :
    Saved (successes ++ more) key arrived old stale :=
  ⟨fun entry kept => ⟨List.mem_append_left more (saved.1 entry kept).1, (saved.1 entry kept).2⟩,
    saved.2⟩

/-- Both makers of a reply give the entry, or tell the client that it has it. -/
theorem gives_catalogResponse {successes : List (Key × Entry)} {key : Key} {entry : Entry}
    (made : (key, entry) ∈ successes) (request : Request) :
    Gives successes key entry (catalogResponse entry request) := by
  unfold catalogResponse
  split
  · exact ⟨made, Or.inr rfl, nofun⟩
  · refine ⟨made, Or.inl rfl, ?_⟩
    intro body same
    dsimp only at same
    split at same
    · cases same
    · exact (Option.some.inj same).symm

theorem gives_staleResponse {successes : List (Key × Entry)} {key : Key} {entry : Entry}
    (made : (key, entry) ∈ successes) (request : Request) :
    Gives successes key entry (staleResponse entry request) := by
  refine ⟨made, Or.inl rfl, ?_⟩
  intro body same
  unfold staleResponse at same
  dsimp only at same
  split at same
  · cases same
  · exact (Option.some.inj same).symm

theorem gives_reply {successes : List (Key × Entry)} {key : Key} {entry : Entry}
    (made : (key, entry) ∈ successes) (call : Call) :
    Gives successes key entry (call.reply (.entry entry)) := by
  unfold Call.reply
  dsimp only
  split
  · exact gives_staleResponse made call.request
  · exact gives_catalogResponse made call.request

/-- One more answer. -/
theorem Provenance.respond {state : Catalog} (provenance : Provenance state) {key : Option Key}
    {source : Source} {reply : Reply}
    (sound : Sound state.successes ⟨key, state.clock, source, reply⟩) :
    Provenance (state.respond key source reply) :=
  { provenance with
    answers := by
      intro answer member
      rcases List.mem_append.mp member with old | new
      · exact provenance.answers answer old
      · obtain rfl := List.mem_singleton.mp new
        exact sound }

theorem mem_of_lookup {memo : List (Key × Entry)} {key : Key} {entry : Entry}
    (found : memo.lookup key = some entry) : (key, entry) ∈ memo := by
  obtain ⟨before, after, rfl, _⟩ := List.lookup_eq_some_iff.mp found
  exact List.mem_append_right before List.mem_cons_self

/-- What a request keeps of the copy in memory is good enough for an error, and it leaves nothing
that is. -/
theorem saved_of_lookup {state : Catalog} (provenance : Provenance state) (key : Key) :
    Saved state.successes key state.clock (state.memo.lookup key)
      ((state.memo.lookup key).filter (Catalog.isStaleIfError state.clock)) := by
  constructor
  · intro entry kept
    obtain ⟨found, young⟩ := Option.filter_eq_some_iff.mp kept
    have made := (provenance.memo _ (mem_of_lookup found)).1
    rw [Catalog.isStaleIfError, Bool.and_eq_true, decide_eq_true_iff] at young
    exact ⟨made, by omega⟩
  · intro none_ entry found
    rw [found] at none_
    have good : entry.status = 200 := (provenance.memo _ (mem_of_lookup found)).2
    have tooOld : Catalog.isStaleIfError state.clock entry = false := by
      apply Bool.eq_false_iff.mpr
      intro young
      rw [Option.filter_some_pos young] at none_
      cases none_
    rw [Catalog.isStaleIfError, good, beq_self_eq_true, Bool.true_and, decide_eq_false_iff_not]
      at tooOld
    omega

theorem Provenance.arrive {state : Catalog} (provenance : Provenance state) (request : Request) :
    Provenance (state.arrive request) := by
  unfold Catalog.arrive
  split
  · exact provenance.respond (.refused (Or.inl rfl))
  · split
    · exact provenance.respond (.refused (Or.inr rfl))
    · rename_i key _
      dsimp only
      split
      · rename_i entry fresh
        obtain ⟨found, young⟩ := Option.filter_eq_some_iff.mp fresh
        have made := (provenance.memo _ (mem_of_lookup found)).1
        rw [Bool.and_eq_true, decide_eq_true_iff] at young
        have sooner : state.clock < entry.at_ + catalogTtlMs := by omega
        exact provenance.respond (.memory (gives_catalogResponse made request) sooner)
      · refine { provenance with calls := ?_ }
        intro call member
        rcases List.mem_append.mp member with old | new
        · exact provenance.calls call old
        · obtain rfl := List.mem_singleton.mp new
          exact saved_of_lookup provenance key

theorem Provenance.setCall {state : Catalog} (provenance : Provenance state) {index : Nat}
    {call : Call} (found : state.calls[index]? = some call) (pc : CallPc) :
    Provenance (state.setCall index call pc) :=
  { provenance with
    calls := by
      intro other member
      rcases List.mem_or_eq_of_mem_set member with old | rfl
      · exact provenance.calls other old
      · exact provenance.calls call (List.mem_of_getElem? found) }

theorem Provenance.join {state : Catalog} (provenance : Provenance state) {index : Nat}
    {call : Call} (found : state.calls[index]? = some call) :
    Provenance (state.join index call) := by
  unfold Catalog.join
  split
  · exact provenance.setCall found _
  · refine { provenance.setCall found (.waiting state.builds.length) with builds := ?_ }
    intro build member
    rcases List.mem_append.mp member with old | new
    · exact provenance.builds build old
    · obtain rfl := List.mem_singleton.mp new
      exact provenance.calls call (List.mem_of_getElem? found)

/-- One more successful build. -/
theorem Provenance.made {state : Catalog} (provenance : Provenance state) (key : Key)
    {entry : Entry} (good : entry.status = 200) :
    Provenance { state with successes := state.successes ++ [(key, entry)] } where
  memo := fun kept member =>
    ⟨List.mem_append_left _ (provenance.memo kept member).1, (provenance.memo kept member).2⟩
  puts := fun kept member => List.mem_append_left _ (provenance.puts kept member)
  edge := fun name copy put member => List.mem_append_left _ (provenance.edge name copy put member)
  successes := by
    intro kept member
    rcases List.mem_append.mp member with old | new
    · exact provenance.successes kept old
    · obtain rfl := List.mem_singleton.mp new
      exact good
  calls := fun call member => (provenance.calls call member).mono _
  builds := fun build member => (provenance.builds build member).mono _
  answers := fun answer member => (provenance.answers answer member).mono _

theorem Provenance.store {state : Catalog} (provenance : Provenance state) {key : Key}
    {entry : Entry} (made : (key, entry) ∈ state.successes) :
    Provenance (state.store key entry) := by
  unfold Catalog.store
  split
  · refine { provenance with memo := ?_, puts := ?_ }
    · intro kept member
      rcases List.mem_append.mp ((evict_suffix 12 2000000 _ _).subset member) with old | new
      · exact provenance.memo kept (List.mem_filter.mp old).1
      · obtain rfl := List.mem_singleton.mp new
        exact ⟨made, provenance.successes _ made⟩
    · intro kept member
      rcases List.mem_append.mp member with old | new
      · exact provenance.puts kept old
      · obtain rfl := List.mem_singleton.mp new
        exact made
  · exact provenance

/-- A build is over; each call that waits gets an answer that keeps its promise. -/
theorem Provenance.settle {state : Catalog} (provenance : Provenance state)
    (inFlight : InFlight state) {index : Nat} {build : Build}
    (found : state.builds[index]? = some build) {source : Source} {result : BuildResult}
    (sound : ∀ call : Call, Sound state.successes
      ⟨some build.key, state.clock, source, call.reply result⟩) :
    Provenance (state.settle index build source result) :=
  { provenance with
    calls := by
      intro call member
      obtain ⟨before, old, rfl⟩ := List.mem_map.mp member
      have saved := provenance.calls before old
      split
      · exact saved
      · exact saved
    builds := by
      intro other member
      rcases List.mem_or_eq_of_mem_set member with old | rfl
      · exact provenance.builds other old
      · exact provenance.builds build (List.mem_of_getElem? found)
    answers := by
      intro answer member
      rcases List.mem_append.mp member with old | new
      · exact provenance.answers answer old
      · obtain ⟨call, waits, rfl⟩ := List.mem_map.mp new
        obtain ⟨there, pc⟩ := List.mem_filter.mp waits
        obtain ⟨waited, at_, _, same⟩ := inFlight.waiting call there index (eq_of_beq pc)
        obtain rfl := Option.some.inj (found.symm.trans at_)
        rw [← same]
        exact sound call }

theorem Provenance.fail {state : Catalog} (provenance : Provenance state)
    (inFlight : InFlight state) {index : Nat} {build : Build}
    (found : state.builds[index]? = some build) {result : BuildResult}
    (failed : ∀ call : Call, (call.reply result).status ≠ some 200) :
    Provenance (state.fail index build result) := by
  obtain ⟨kept, noCopy⟩ := provenance.builds build (List.mem_of_getElem? found)
  unfold Catalog.fail
  split
  · rename_i stale same
    obtain ⟨made, young⟩ := kept stale same
    exact provenance.settle inFlight found fun call => .staleIfError (gives_reply made call) young
  · rename_i same
    exact provenance.settle inFlight found fun call => .failure (failed call) (noCopy same)

theorem InFlight.fail {state : Catalog} (inFlight : InFlight state) {index : Nat} {build : Build}
    (found : state.builds[index]? = some build) (ran : build.pc ≠ .settled)
    (result : BuildResult) : InFlight (state.fail index build result) := by
  unfold Catalog.fail
  split
  · exact inFlight.settle found ran _ _
  · exact inFlight.settle found ran _ _

theorem InFlight.store {state : Catalog} (inFlight : InFlight state) (key : Key) (entry : Entry) :
    InFlight (state.store key entry) := by
  unfold Catalog.store
  split
  · exact inFlight.of_same rfl rfl fun _ member _ _ => member
  · exact inFlight

theorem store_frame (state : Catalog) (key : Key) (entry : Entry) :
    (state.store key entry).builds = state.builds ∧
      (state.store key entry).successes = state.successes ∧
        (state.store key entry).clock = state.clock := by
  unfold Catalog.store
  split
  · exact ⟨rfl, rfl, rfl⟩
  · exact ⟨rfl, rfl, rfl⟩

/-- The catalogue keeps its books, shares its builds and answers with what these have made. -/
structure Coherent (state : Catalog) : Prop where
  kept : Kept state
  inFlight : InFlight state
  provenance : Provenance state

theorem Coherent.succeed {state : Catalog} (coherent : Coherent state) {index : Nat}
    {build : Build} (found : state.builds[index]? = some build) (ran : build.pc ≠ .settled)
    {entry : Entry} (good : entry.status = 200) (now : entry.at_ = state.clock) :
    Coherent (state.succeed index build entry) := by
  let made : Catalog := { state with successes := state.successes ++ [(build.key, entry)] }
  have isMade : (build.key, entry) ∈ made.successes :=
    List.mem_append_right _ (List.mem_singleton_self _)
  have provenance := (coherent.provenance.made build.key good).store isMade
  have inFlightMade : InFlight made :=
    coherent.inFlight.of_same rfl rfl fun _ member _ _ => member
  have inFlight := inFlightMade.store build.key entry
  have keptMade : Kept made := coherent.kept.of_same rfl rfl
  have kept := keptMade.store build.key entry
  obtain ⟨builds, successes, clock⟩ := store_frame made build.key entry
  have foundAfter : (made.store build.key entry).builds[index]? = some build := by
    rw [builds]
    exact found
  refine ⟨kept.of_same rfl rfl, inFlight.settle foundAfter ran _ _, ?_⟩
  apply provenance.settle inFlight foundAfter
  intro call
  rw [clock, successes]
  change Sound made.successes ⟨some build.key, state.clock, _, _⟩
  rw [← now]
  exact .built (gives_reply isMade call)

theorem Coherent.fail {state : Catalog} (coherent : Coherent state) {index : Nat} {build : Build}
    (found : state.builds[index]? = some build) (ran : build.pc ≠ .settled)
    {result : BuildResult} (failed : ∀ call : Call, (call.reply result).status ≠ some 200) :
    Coherent (state.fail index build result) := by
  refine ⟨?_, coherent.inFlight.fail found ran result,
    coherent.provenance.fail coherent.inFlight found failed⟩
  unfold Catalog.fail
  split
  · exact coherent.kept.of_same rfl rfl
  · exact coherent.kept.of_same rfl rfl

/-- A request that comes touches nothing but the calls and the answers, and waits for nobody yet. -/
theorem arrive_frame (state : Catalog) (request : Request) :
    (state.arrive request).memo = state.memo ∧
      (state.arrive request).catalogChars = state.catalogChars ∧
      (state.arrive request).builds = state.builds ∧
      (state.arrive request).inflight = state.inflight ∧
      ∀ call ∈ (state.arrive request).calls, ∀ index, call.pc = .waiting index →
        call ∈ state.calls := by
  unfold Catalog.arrive
  split
  · exact ⟨rfl, rfl, rfl, rfl, fun _ member _ _ => member⟩
  · split
    · exact ⟨rfl, rfl, rfl, rfl, fun _ member _ _ => member⟩
    · dsimp only
      split
      · exact ⟨rfl, rfl, rfl, rfl, fun _ member _ _ => member⟩
      · refine ⟨rfl, rfl, rfl, rfl, ?_⟩
        intro call member index waits
        rcases List.mem_append.mp member with old | new
        · exact old
        · obtain rfl := List.mem_singleton.mp new
          cases waits

theorem Coherent.arrive {state : Catalog} (coherent : Coherent state) (request : Request) :
    Coherent (state.arrive request) := by
  obtain ⟨memo, chars, builds, inflight, calls⟩ := arrive_frame state request
  exact ⟨coherent.kept.of_same memo chars, coherent.inFlight.of_same builds inflight calls,
    coherent.provenance.arrive request⟩

theorem Coherent.join {state : Catalog} (coherent : Coherent state) {index : Nat} {call : Call}
    (found : state.calls[index]? = some call) : Coherent (state.join index call) := by
  refine ⟨?_, coherent.inFlight.join index call, coherent.provenance.join found⟩
  unfold Catalog.join
  split
  · exact coherent.kept.of_same rfl rfl
  · exact coherent.kept.of_same rfl rfl

/-- What was sent to the edge cache is there. -/
theorem Provenance.edgePut {state : Catalog} (provenance : Provenance state) {index : Nat}
    {key : Key} {entry : Entry} (found : state.puts[index]? = some (key, entry)) :
    Provenance { state with
      puts := state.puts.eraseIdx index
      edge := state.edge ++ [(key, entry, state.clock)] } :=
  { provenance with
    puts := fun kept member => provenance.puts kept (List.mem_of_mem_eraseIdx member)
    edge := by
      intro name copy put member
      rcases List.mem_append.mp member with old | new
      · exact provenance.edge name copy put old
      · cases List.mem_singleton.mp new
        exact provenance.puts _ (List.mem_of_getElem? found) }

theorem next_coherent {digest : Body → List Char} (source : Catalog) (label : CatalogLabel)
    (target : Catalog) (taken : ofNext (Catalog.next digest) source label target)
    (coherent : Coherent source) : Coherent target := by
  unfold ofNext at taken
  cases label with
  | tick ms =>
      obtain rfl := Option.some.inj taken
      exact ⟨coherent.kept.of_same rfl rfl,
        coherent.inFlight.of_same rfl rfl fun _ member _ _ => member, { coherent.provenance with }⟩
  | request request =>
      obtain rfl := Option.some.inj taken
      exact coherent.arrive request
  | edgeHit index copy =>
      simp only [Catalog.next] at taken
      split at taken
      · rename_i call key entry put found copied
        split at taken
        · rename_i can
          obtain ⟨_, rfl, young⟩ := can
          obtain rfl := Option.some.inj taken
          have made := coherent.provenance.edge _ _ _ (List.mem_of_getElem? copied)
          have answered : InFlight (source.setCall index call .answered) :=
            coherent.inFlight.setCall .answered nofun
          refine ⟨coherent.kept.of_same rfl rfl, ?_, ?_⟩
          · exact answered.of_same rfl rfl fun _ member _ _ => member
          · exact (coherent.provenance.setCall found .answered).respond
              (.edge (gives_catalogResponse made call.request) young)
        · cases taken
      · cases taken
  | edgeMiss index =>
      simp only [Catalog.next] at taken
      split at taken
      · rename_i call found
        split at taken
        · obtain rfl := Option.some.inj taken
          exact coherent.join found
        · cases taken
      · cases taken
  | edgePut index =>
      obtain ⟨⟨key, entry⟩, found, rfl⟩ := Option.map_eq_some_iff.mp taken
      exact ⟨coherent.kept.of_same rfl rfl,
        coherent.inFlight.of_same rfl rfl fun _ member _ _ => member,
        coherent.provenance.edgePut found⟩
  | buildThrows index =>
      simp only [Catalog.next] at taken
      split at taken
      · rename_i build found
        split at taken
        · rename_i pc
          obtain rfl := Option.some.inj taken
          exact coherent.fail found (by rw [pc]; exact nofun) fun _ => nofun
        · cases taken
      · cases taken
  | buildResponds index status body retryAfter =>
      simp only [Catalog.next] at taken
      split at taken
      · rename_i build found
        split at taken
        · rename_i pc
          obtain rfl := Option.some.inj taken
          have ran : build.pc ≠ .settled := by
            rw [pc]
            exact nofun
          refine ⟨coherent.kept.of_same rfl rfl, coherent.inFlight.advance found rfl ran nofun, ?_⟩
          refine { coherent.provenance with builds := ?_ }
          intro other member
          rcases List.mem_or_eq_of_mem_set member with old | rfl
          · exact coherent.provenance.builds other old
          · exact coherent.provenance.builds build (List.mem_of_getElem? found)
        · cases taken
      · cases taken
  | buildEnds index =>
      simp only [Catalog.next] at taken
      split at taken
      · rename_i build found
        split at taken
        · rename_i status body retryAfter pc
          have ran : build.pc ≠ .settled := by
            rw [pc]
            exact nofun
          split at taken
          · rename_i other
            obtain rfl := Option.some.inj taken
            apply coherent.fail found ran
            intro _ same
            exact other (Option.some.inj same)
          · rename_i good
            obtain rfl := Option.some.inj taken
            exact coherent.succeed found ran (not_not.mp good) rfl
        · cases taken
      · cases taken

/-- What the catalogue promises of its builds, its answers and what it keeps. -/
structure Serves (state : Catalog) : Prop where
  single : ∀ (first second : Nat) (build other : Build), state.builds[first]? = some build →
    state.builds[second]? = some other → build.pc ≠ .settled → other.pc ≠ .settled →
      build.key = other.key → first = second
  answers : ∀ answer ∈ state.answers, Sound state.successes answer
  memo : ∀ kept ∈ state.memo, kept ∈ state.successes ∧ kept.2.status = 200
  edge : ∀ key entry put, (key, entry, put) ∈ state.edge →
    (key, entry) ∈ state.successes ∧ entry.status = 200
  chars : state.catalogChars = total Catalog.charsOf state.memo
  small : state.catalogChars ≤ 2000000
  few : state.memo.length ≤ 12

/-- A plain request for the list of the iOS clients. -/
private def iosRequest : Request :=
  ⟨.get, "https://worker.example".toList, "/ios".toList, none, none⟩

/-- An error is answered only when memory has no good copy of the key that is young enough. -/
def ErrorsForNoCopy (before after : Catalog) : Prop :=
  ∀ answer ∈ after.answers, answer ∉ before.answers →
    ∀ arrived old key, answer.source = .failure arrived old → answer.key = some key →
      ∀ entry, (key, entry) ∈ before.memo →
        entry.at_ + catalogStaleIfErrorMs < before.clock

end MolidoVpn.Worker
