import MolidoVpn.Lib.Transition

/-!
Programs that share a state and give up control only where they await something. A stretch is
what a program does from one await to the next, without interference. A program obeys a relation
on stretches when every stretch of it is in the relation, whatever the state it is resumed in;
a system of such programs then moves as the relation alone says, by the places where they wait.
-/

namespace MolidoVpn.Cooperative

open Transition (Run ofNext)

/-- What programs are made of: the state they share, the places where they wait and what a wait
gives, what they look at outside the state, what they throw, and how they are started. -/
structure Signature where
  State : Type
  Site : Type
  Answer : Site → Type
  Query : Type
  Value : Query → Type
  Error : Type
  Entry : Type

variable {S : Signature} {α β : Type}

inductive Program (S : Signature) (α : Type) : Type where
  | done (outcome : Except S.Error α)
  | get (next : S.State → Program S α)
  | modify (update : S.State → S.State) (next : Program S α)
  | ask (query : S.Query) (next : S.Value query → Program S α)
  | await (site : S.Site) (next : Except S.Error (S.Answer site) → Program S α)

namespace Program

/-- Go on with the outcome, a result or an error. -/
def andThen : Program S α → (Except S.Error α → Program S β) → Program S β
  | done outcome, rest => rest outcome
  | get next, rest => get fun state => (next state).andThen rest
  | modify update next, rest => modify update (next.andThen rest)
  | ask query next, rest => ask query fun value => (next value).andThen rest
  | await site next, rest => await site fun answer => (next answer).andThen rest

def passError (rest : α → Program S β) : Except S.Error α → Program S β
  | .ok result => rest result
  | .error error => done (.error error)

instance : Monad (Program S) where
  pure result := done (.ok result)
  bind program rest := program.andThen (passError rest)

def read : Program S S.State :=
  get fun state => done (.ok state)

def update (change : S.State → S.State) : Program S Unit :=
  modify change (done (.ok ()))

def look (query : S.Query) : Program S (S.Value query) :=
  ask query fun value => done (.ok value)

def wait (site : S.Site) : Program S (S.Answer site) :=
  await site done

def throw (error : S.Error) : Program S α :=
  done (.error error)

def tryCatch (program : Program S α) (handler : S.Error → Program S α) : Program S α :=
  program.andThen fun
    | .ok result => done (.ok result)
    | .error error => handler error

/-- Run the second program after the first, whether that one has thrown or not. -/
def finally_ (program : Program S α) (last : Program S Unit) : Program S α :=
  program.andThen fun outcome => last.andThen (passError fun _ => done outcome)

/-- Call a function that is itself suspended at its awaits: the caller is resumed in a stretch of
its own once the outcome is there. -/
def call (site : Except S.Error α → S.Site) (program : Program S α) : Program S α :=
  program.andThen fun outcome => await (site outcome) fun _ => done outcome

/-- What is left after a stretch, which looks outside with `eyes`, and the state it leaves. -/
def stretch (eyes : ∀ query, S.Value query) : Program S α → S.State → Program S α × S.State
  | done outcome, state => (done outcome, state)
  | get next, state => (next state).stretch eyes state
  | modify update next, state => next.stretch eyes (update state)
  | ask query next, state => (next (eyes query)).stretch eyes state
  | await site next, state => (await site next, state)

/-- Where a program waits; one that has ended waits nowhere. -/
def site? : Program S α → Option S.Site
  | await site _ => some site
  | _ => none

end Program

/-- Where a stretch begins. -/
inductive Origin (S : Signature) where
  | entry (entry : S.Entry)
  | site (site : S.Site)

/-- Stretches: where one begins and in which state, where it ends, if it is not the last of its
program, and in which state. -/
abbrev Stretches (S : Signature) :=
  Origin S → S.State → Option S.Site → S.State → Prop

variable {moves : Stretches S} {origin : Origin S} {before state : S.State}

/-- The stretch that began at `origin` in state `before` and has come to `program` and `state`,
and every later one, is in `moves`; and at the end of the program `ends` holds of the last
stretch and the outcome. -/
def Obeys (moves : Stretches S)
    (ends : Origin S → S.State → Except S.Error α → S.State → Prop) :
    Origin S → S.State → Program S α → S.State → Prop
  | origin, before, .done outcome, state => ends origin before outcome state
  | origin, before, .get next, state => Obeys moves ends origin before (next state) state
  | origin, before, .modify update next, state =>
      Obeys moves ends origin before next (update state)
  | origin, before, .ask _ next, state =>
      ∀ value, Obeys moves ends origin before (next value) state
  | origin, before, .await site next, state =>
      moves origin before (some site) state ∧
        ∀ answer later, Obeys moves ends (.site site) later (next answer) later

section Rules

variable {ends : Origin S → S.State → Except S.Error α → S.State → Prop}
  {endsAfter : Origin S → S.State → Except S.Error β → S.State → Prop}

theorem Obeys.andThen {program : Program S α} {rest : Except S.Error α → Program S β}
    (first : Obeys moves ends origin before program state)
    (second : ∀ origin before outcome state, ends origin before outcome state →
      Obeys moves endsAfter origin before (rest outcome) state) :
    Obeys moves endsAfter origin before (program.andThen rest) state := by
  induction program generalizing origin before state with
  | done outcome => exact second origin before outcome state first
  | get next ih => exact ih state first
  | modify update next ih => exact ih first
  | ask query next ih => exact fun value => ih value (first value)
  | await site next ih => exact ⟨first.1, fun answer later => ih answer (first.2 answer later)⟩

theorem Obeys.mono {weaker : Origin S → S.State → Except S.Error α → S.State → Prop}
    {program : Program S α} (first : Obeys moves ends origin before program state)
    (implied : ∀ origin before outcome state, ends origin before outcome state →
      weaker origin before outcome state) :
    Obeys moves weaker origin before program state := by
  induction program generalizing origin before state with
  | done outcome => exact implied origin before outcome state first
  | get next ih => exact ih state first
  | modify update next ih => exact ih first
  | ask query next ih => exact fun value => ih value (first value)
  | await site next ih => exact ⟨first.1, fun answer later => ih answer (first.2 answer later)⟩

theorem Obeys.bind {program : Program S α} {rest : α → Program S β}
    (first : Obeys moves ends origin before program state)
    (result : ∀ origin before result state, ends origin before (.ok result) state →
      Obeys moves endsAfter origin before (rest result) state)
    (error : ∀ origin before error state, ends origin before (.error error) state →
      endsAfter origin before (.error error) state) :
    Obeys moves endsAfter origin before (program >>= rest) state := by
  apply first.andThen
  intro origin before outcome state ended
  cases outcome with
  | ok value => exact result origin before value state ended
  | error thrown => exact error origin before thrown state ended

theorem obeys_read {rest : S.State → Program S β}
    (after : Obeys moves endsAfter origin before (rest state) state) :
    Obeys moves endsAfter origin before (Program.read >>= rest) state :=
  after

theorem obeys_update {change : S.State → S.State} {rest : Unit → Program S β}
    (after : Obeys moves endsAfter origin before (rest ()) (change state)) :
    Obeys moves endsAfter origin before (Program.update change >>= rest) state :=
  after

theorem obeys_look {query : S.Query} {rest : S.Value query → Program S β}
    (after : ∀ value, Obeys moves endsAfter origin before (rest value) state) :
    Obeys moves endsAfter origin before (Program.look query >>= rest) state :=
  after

theorem obeys_ite {condition : Prop} [Decidable condition] {program other : Program S β}
    (holds : condition → Obeys moves endsAfter origin before program state)
    (fails : ¬condition → Obeys moves endsAfter origin before other state) :
    Obeys moves endsAfter origin before (if condition then program else other) state := by
  split
  · exact holds ‹_›
  · exact fails ‹_›

theorem obeys_ite_bind {condition : Prop} [Decidable condition] {program other : Program S α}
    {rest : α → Program S β}
    (holds : condition → Obeys moves endsAfter origin before (program >>= rest) state)
    (fails : ¬condition → Obeys moves endsAfter origin before (other >>= rest) state) :
    Obeys moves endsAfter origin before ((if condition then program else other) >>= rest)
      state := by
  split
  · exact holds ‹_›
  · exact fails ‹_›

theorem obeys_wait {site : S.Site} {rest : S.Answer site → Program S β}
    (stop : moves origin before (some site) state)
    (result : ∀ answer later, Obeys moves endsAfter (.site site) later (rest answer) later)
    (error : ∀ error later, endsAfter (.site site) later (.error error) later) :
    Obeys moves endsAfter origin before (Program.wait site >>= rest) state := by
  refine ⟨stop, ?_⟩
  intro answer later
  cases answer with
  | ok value => exact result value later
  | error thrown => exact error thrown later

theorem Obeys.call {ends endsAfter : Origin S → S.State → Except S.Error α → S.State → Prop}
    {site : Except S.Error α → S.Site} {program : Program S α}
    (first : Obeys moves ends origin before program state)
    (returned : ∀ origin before outcome state, ends origin before outcome state →
      moves origin before (some (site outcome)) state ∧
        ∀ later, endsAfter (.site (site outcome)) later outcome later) :
    Obeys moves endsAfter origin before (program.call site) state := by
  apply first.andThen
  intro origin before outcome state ended
  have both := returned origin before outcome state ended
  exact ⟨both.1, fun _ later => both.2 later⟩

theorem Obeys.finally_update
    {ends endsAfter : Origin S → S.State → Except S.Error α → S.State → Prop}
    {program : Program S α} {change : S.State → S.State}
    (first : Obeys moves ends origin before program state)
    (after : ∀ origin before outcome state, ends origin before outcome state →
      endsAfter origin before outcome (change state)) :
    Obeys moves endsAfter origin before (program.finally_ (Program.update change)) state :=
  first.andThen after

end Rules

/-- A program keeps what is known of the stretch that it is in: where the stretch began and in
which state, and the state now. -/
def Keeps (moves : Stretches S) (known : Origin S → S.State → S.State → Prop)
    (program : Program S α) : Prop :=
  ∀ origin before state, known origin before state →
    Obeys moves (fun origin before _ state => known origin before state) origin before program
      state

/-- A stretch of which this is known may stop at the site, and it is known of the next one. -/
structure Stops (moves : Stretches S) (known : Origin S → S.State → S.State → Prop)
    (site : S.Site) : Prop where
  stop : ∀ origin before state, known origin before state → moves origin before (some site) state
  resume : ∀ state, known (.site site) state state

section KeepRules

variable {known : Origin S → S.State → S.State → Prop} {program : Program S α}

theorem keeps_done (outcome : Except S.Error α) :
    Keeps moves known (.done outcome : Program S α) :=
  fun _ _ _ holds => holds

theorem keeps_pure (result : α) : Keeps moves known (pure result : Program S α) :=
  keeps_done (.ok result)

theorem keeps_read : Keeps moves known (Program.read : Program S S.State) :=
  fun _ _ _ holds => holds

theorem keeps_look (query : S.Query) : Keeps moves known (Program.look query) :=
  fun _ _ _ holds _ => holds

theorem keeps_update {change : S.State → S.State}
    (kept : ∀ origin before state, known origin before state →
      known origin before (change state)) :
    Keeps moves known (Program.update change) :=
  fun origin before state holds => kept origin before state holds

theorem Keeps.andThen {rest : Except S.Error α → Program S β}
    (first : Keeps moves known program) (second : ∀ outcome, Keeps moves known (rest outcome)) :
    Keeps moves known (program.andThen rest) := by
  intro origin before state holds
  apply (first origin before state holds).andThen
  intro origin before outcome state ended
  exact second outcome origin before state ended

theorem Keeps.bind {rest : α → Program S β} (first : Keeps moves known program)
    (second : ∀ result, Keeps moves known (rest result)) :
    Keeps moves known (program >>= rest) := by
  apply first.andThen
  intro outcome
  cases outcome with
  | ok result => exact second result
  | error error => exact keeps_done (.error error)

theorem Keeps.tryCatch {handler : S.Error → Program S α} (first : Keeps moves known program)
    (second : ∀ error, Keeps moves known (handler error)) :
    Keeps moves known (program.tryCatch handler) := by
  apply first.andThen
  intro outcome
  cases outcome with
  | ok result => exact keeps_done (.ok result)
  | error error => exact second error

theorem Keeps.finally_ {last : Program S Unit} (first : Keeps moves known program)
    (second : Keeps moves known last) : Keeps moves known (program.finally_ last) := by
  apply first.andThen
  intro outcome
  apply second.andThen
  intro ended
  cases ended with
  | ok _ => exact keeps_done outcome
  | error error => exact keeps_done (.error error)

theorem keeps_ite {condition : Prop} [Decidable condition] {other : Program S α}
    (holds : Keeps moves known program) (fails : Keeps moves known other) :
    Keeps moves known (if condition then program else other) := by
  split
  · exact holds
  · exact fails

theorem Stops.await {site : S.Site} {rest : Except S.Error (S.Answer site) → Program S α}
    (stops : Stops moves known site) (next : ∀ answer, Keeps moves known (rest answer)) :
    Keeps moves known (.await site rest) := by
  intro origin before state holds
  refine ⟨stops.stop origin before state holds, ?_⟩
  intro answer later
  exact next answer _ _ later (stops.resume later)

theorem Stops.wait {site : S.Site} (stops : Stops moves known site) :
    Keeps moves known (Program.wait site) :=
  stops.await keeps_done

theorem Keeps.call {site : Except S.Error α → S.Site} (first : Keeps moves known program)
    (stops : ∀ outcome, Stops moves known (site outcome)) :
    Keeps moves known (program.call site) := by
  apply first.andThen
  intro outcome
  exact (stops outcome).await fun _ => keeps_done outcome

end KeepRules

/-- The end of a program is the end of its last stretch. -/
def finishes (moves : Stretches S) (origin : Origin S) (before : S.State)
    (_ : Except S.Error Unit) (state : S.State) : Prop :=
  moves origin before none state

/-- What is known of a suspended program: each of the stretches to come is in the relation. -/
def Obedient (moves : Stretches S) : Program S Unit → Prop
  | .await site next =>
      ∀ answer later, Obeys moves (finishes moves) (.site site) later (next answer) later
  | _ => True

theorem Obeys.stretch {program : Program S Unit} (eyes : ∀ query, S.Value query)
    (obeys : Obeys moves (finishes moves) origin before program state) :
    moves origin before (program.stretch eyes state).1.site? (program.stretch eyes state).2 ∧
      Obedient moves (program.stretch eyes state).1 := by
  induction program generalizing state with
  | done outcome => exact ⟨obeys, trivial⟩
  | get next ih => exact ih state obeys
  | modify update next ih => exact ih obeys
  | ask query next ih => exact ih (eyes query) (obeys (eyes query))
  | await site next ih => exact obeys

/-- The shared state and the programs that have been started. -/
structure System (S : Signature) where
  state : S.State
  tasks : List (Program S Unit)

/-- A program is started, or the one of this number, which waits at the site, is given the
answer. -/
inductive Label (S : Signature) where
  | start (entry : S.Entry) (eyes : ∀ query, S.Value query)
  | resume (task : Nat) (site : S.Site) (answer : Except S.Error (S.Answer site))
      (eyes : ∀ query, S.Value query)

def Label.whence : Label S → Origin S
  | .start entry _ => .entry entry
  | .resume _ site _ _ => .site site

section Steps

variable (program : S.Entry → Program S Unit) (ready : S.Site → S.State → Bool)

def System.start (system : System S) (entry : S.Entry) (eyes : ∀ query, S.Value query) :
    System S :=
  let left := (program entry).stretch eyes system.state
  { state := left.2
    tasks := system.tasks ++ [left.1] }

def System.resume [DecidableEq S.Site] (system : System S) (task : Nat) (site : S.Site)
    (answer : Except S.Error (S.Answer site)) (eyes : ∀ query, S.Value query) :
    Option (System S) :=
  match system.tasks[task]? with
  | some (.await here next) =>
      if same : here = site then
        if ready site system.state then
          let left := (next (same ▸ answer)).stretch eyes system.state
          some
            { state := left.2
              tasks := system.tasks.set task left.1 }
        else none
      else none
  | _ => none

def System.next [DecidableEq S.Site] (system : System S) : Label S → Option (System S)
  | .start entry eyes => some (system.start program entry eyes)
  | .resume task site answer eyes => system.resume ready task site answer eyes

end Steps

/-- A system without its programs: the state, and where each of them waits. -/
structure Outline (S : Signature) where
  state : S.State
  places : List (Option S.Site)

def System.outline (system : System S) : Outline S :=
  { state := system.state
    places := system.tasks.map Program.site? }

/-- The steps that a relation on stretches allows. -/
inductive Outline.Step (moves : Stretches S) (ready : S.Site → S.State → Bool) :
    Outline S → Origin S → Outline S → Prop where
  | start {state later : S.State} {places : List (Option S.Site)} {entry : S.Entry}
      {place : Option S.Site} (moved : moves (.entry entry) state place later) :
      Step moves ready ⟨state, places⟩ (.entry entry) ⟨later, places ++ [place]⟩
  | resume {state later : S.State} {places : List (Option S.Site)} {task : Nat} {site : S.Site}
      {place : Option S.Site} (here : places[task]? = some (some site))
      (may : ready site state = true) (moved : moves (.site site) state place later) :
      Step moves ready ⟨state, places⟩ (.site site) ⟨later, places.set task place⟩

section Runs

variable [DecidableEq S.Site] {program : S.Entry → Program S Unit}
  {ready : S.Site → S.State → Bool}

def System.Obedient (moves : Stretches S) (system : System S) : Prop :=
  ∀ task ∈ system.tasks, Cooperative.Obedient moves task

theorem System.Obedient.next {system later : System S} {label : Label S}
    (obedient : system.Obedient moves)
    (entries : ∀ entry state,
      Obeys moves (finishes moves) (.entry entry) state (program entry) state)
    (taken : system.next program ready label = some later) :
    later.Obedient moves ∧
      Outline.Step moves ready system.outline label.whence later.outline := by
  cases label with
  | start entry eyes =>
      cases taken
      have stretch := (entries entry system.state).stretch eyes
      constructor
      · intro task member
        rcases List.mem_append.mp member with old | new
        · exact obedient task old
        · rw [List.mem_singleton.mp new]
          exact stretch.2
      · have step : Outline.Step moves ready system.outline (.entry entry)
            { state := ((program entry).stretch eyes system.state).2
              places := system.outline.places ++
                [((program entry).stretch eyes system.state).1.site?] } :=
          .start stretch.1
        simp only [System.outline, System.start, List.map_append]
        exact step
  | resume task site answer eyes =>
      simp only [System.next, System.resume] at taken
      split at taken
      · rename_i here next found
        split at taken
        · rename_i same
          subst same
          split at taken
          · rename_i may
            cases taken
            have suspended := obedient _ (List.mem_of_getElem? found)
            have stretch := (suspended answer system.state).stretch eyes
            constructor
            · intro other member
              rcases List.mem_or_eq_of_mem_set member with old | new
              · exact obedient other old
              · rw [new]
                exact stretch.2
            · have place : system.outline.places[task]? = some (some here) := by
                rw [System.outline, List.getElem?_map, found]
                rfl
              have step := Outline.Step.resume place may stretch.1
              simp only [System.outline, List.map_set]
              exact step
          · cases taken
        · cases taken
      · cases taken

/-- A run of obedient programs, seen from outside. -/
theorem System.Obedient.run (condition : Outline S → Origin S → Prop) {start finish : System S}
    {labels : List (Label S)} (obedient : start.Obedient moves)
    (entries : ∀ entry state,
      Obeys moves (finishes moves) (.entry entry) state (program entry) state)
    (run : Run (Transition.Restrict (ofNext (System.next program ready))
      fun system label => condition system.outline label.whence) start labels finish) :
    finish.Obedient moves ∧
      Run (Transition.Restrict (Outline.Step moves ready) condition) start.outline
        (labels.map Label.whence) finish.outline := by
  induction run with
  | nil => exact ⟨obedient, Run.nil⟩
  | snoc _ last ih =>
      have both := ih.1.next entries last.1
      rw [List.map_append]
      exact ⟨both.1, Run.snoc ih.2 ⟨both.2, last.2⟩⟩

end Runs

end MolidoVpn.Cooperative
