import MolidoVpn.Lib.Numbered
import MolidoVpn.Windows.Stretches

/-!
The kill switch of the Windows engine. When the core exits browsers are pointed at a dead proxy,
but the proxy settings stay marked as the app's own, and the first thing that every call of the
engine does, a reconnect among them, is to release the settings that are its own.
-/

namespace MolidoVpn.Windows

open Cooperative
open Desktop (Server)
open Numbered (mem_set_of_ne)
open Transition (Run ofNext Restrict execute run_of_execute executeChecked run_of_executeChecked)

abbrev next : System engineSignature → Label engineSignature → Option (System engineSignature) :=
  System.next program ready

def initialSystem (settings : ProxySettings) (proxyOwned : Bool) : System engineSignature :=
  { state := Engine.initial settings proxyOwned
    tasks := [] }

/-- Connected through this core, with the kill switch and the system proxy on and TUN off: the
proxy settings point at the core and are marked as ours, and no call of the engine is past its
release. -/
structure Connected (core : Process) (outline : Outline engineSignature) : Prop where
  process : outline.state.process = some core
  running : core ∈ outline.state.running
  shields : core.options.shields = true
  proxied : core.dnsOnly = false
  proxyPort : outline.state.proxyPort = some core.port
  enabled : outline.state.settings.proxyEnable = 1
  server : outline.state.settings.proxyServer = localhost core.port
  owned : outline.state.proxyOwned = true
  unspent : ∀ place ∈ outline.places, Unspent place

/-- The exit handler of the process has not come to its end. -/
def Site.Handles (process : Process) (site : Site) : Prop :=
  site = .drained process ∨ site = .exitFreeStopped process ∨ site = .exitHelperStopped process

/-- The proxy is enabled and points at the dead address; or still at the core that has exited, as
long as the exit handler is on its way. -/
structure Shielded (core : Process) (outline : Outline engineSignature) : Prop where
  enabled : outline.state.settings.proxyEnable = 1
  dead : outline.state.settings.proxyServer = deadProxy ∨
    outline.state.settings.proxyServer = localhost core.port ∧
      ∃ site, some site ∈ outline.places ∧ site.Handles core

/-- The user disconnects, or a tunnel passes traffic: nothing is said from then on. -/
def endsRecovery : Origin engineSignature → Bool
  | .entry (.disconnect byUser) => byUser
  | .site (.call asker place) => asker == .user || place == .verifyReturns true
  | _ => false

/-- A call of the engine comes to look whether the proxy settings are ours. -/
def Releases : Origin engineSignature → Prop
  | .site (.call _ place) => place = .releasePrefs
  | _ => False

/-- What keeps the browsers shielded while nothing is released: how far the exit handler has
come. -/
structure Held (core : Process) (outline : Outline engineSignature) : Prop where
  enabled : outline.state.settings.proxyEnable = 1
  owned : outline.state.proxyOwned = true
  unspent : ∀ place ∈ outline.places, Unspent place
  dead : outline.state.settings.proxyServer = deadProxy ∨
    outline.state.settings.proxyServer = localhost core.port ∧
      ∃ site, some site ∈ outline.places ∧ site.Handles core ∧
        (site = .drained core → outline.state.process = some core)

theorem Held.shielded {core : Process} {outline : Outline engineSignature}
    (held : Held core outline) : Shielded core outline := by
  refine ⟨held.enabled, ?_⟩
  rcases held.dead with dead | ⟨server, site, member, handles, _⟩
  · exact Or.inl dead
  · exact Or.inr ⟨server, site, member, handles⟩

theorem releasePrefs_of_stage {place : Place} (stage : place.stage = .release) :
    place = .releasePrefs := by
  cases place with
  | releasePrefs => rfl
  | awgUninstall use | awgPrefs use | awgRemoved use | awgReturns use =>
      cases use <;> cases stage
  | _ => cases stage

section Recovery

variable {core : Process} {outline later : Outline engineSignature}
  {origin : Origin engineSignature}

/-- A stretch that leaves the proxy alone, while the program that handles the exit is not the one
that moves. -/
theorem Held.keeps (held : Held core outline)
    (same : later.state.settings = outline.state.settings)
    (owned : later.state.proxyOwned = outline.state.proxyOwned)
    (unspent : ∀ place ∈ later.places, Unspent place)
    (handled : ∀ site, some site ∈ outline.places → site.Handles core →
      (site = .drained core → outline.state.process = some core) →
      ∃ site, some site ∈ later.places ∧ site.Handles core ∧
        (site = .drained core → later.state.process = some core)) :
    Held core later := by
  constructor
  · rw [same]
    exact held.enabled
  · rw [owned]
    exact held.owned
  · exact unspent
  · rw [same]
    rcases held.dead with dead | ⟨server, site, member, handles, process⟩
    · exact Or.inl dead
    · exact Or.inr ⟨server, handled site member handles process⟩

theorem unspent_set {places : List (Option Site)} {place : Option Site} {task : Nat}
    (before : ∀ place ∈ places, Unspent place) (new : Unspent place) :
    ∀ place' ∈ places.set task place, Unspent place' := by
  intro other member
  rcases List.mem_or_eq_of_mem_set member with old | same
  · exact before other old
  · rw [same]
    exact new

theorem Held.start {state after : Engine} {places : List (Option Site)} {entry : Entry}
    {place : Option Site} (held : Held core ⟨state, places⟩)
    (moved : Moves (.entry entry) state place after) :
    Held core ⟨after, places ++ [place]⟩ := by
  have both : SameProxy state after ∧ Unspent place := by
    cases entry with
    | exit process => exact ⟨moved.1, moved.2.1⟩
    | _ => exact moved
  apply held.keeps both.1.settings both.1.proxyOwned
  · intro other member
    rcases List.mem_append.mp member with old | new
    · exact held.unspent other old
    · rw [List.mem_singleton.mp new]
      exact both.2
  · intro site member handles process
    refine ⟨site, List.mem_append_left _ member, handles, ?_⟩
    intro drained
    exact both.1.process.trans (process drained)

theorem Held.resume {state after : Engine} {places : List (Option Site)} {site : Site}
    {place : Option Site} {task : Nat} (held : Held core ⟨state, places⟩)
    (shields : core.options.shields = true) (proxied : core.dnsOnly = false)
    (here : places[task]? = some (some site)) (moved : Moves (.site site) state place after)
    (kept : ¬Releases (.site site)) : Held core ⟨after, places.set task place⟩ := by
  obtain ⟨inside, _⟩ := List.getElem?_eq_some_iff.mp here
  have new : place ∈ places.set task place := List.mem_set inside place
  have stays {other : Site} (member : some other ∈ places) (different : other ≠ site) :
      some other ∈ places.set task place :=
    mem_set_of_ne here member fun same => different (Option.some.inj same)
  cases site with
  | drained process =>
      obtain ⟨same, owned, unspent, others, own⟩ := moved
      apply held.keeps same owned (unspent_set held.unspent unspent)
      intro other member handles waiting
      by_cases moves : other = .drained process
      · subst moves
        have known : process = core := by
          rcases handles with same | same | same
          · exact Site.drained.inj same
          · cases same
          · cases same
        subst known
        have placed := own (waiting rfl) proxied
        subst placed
        refine ⟨_, new, Or.inr (Or.inl rfl), ?_⟩
        intro same
        cases same
      · refine ⟨other, stays member moves, handles, ?_⟩
        intro drained
        have unmoved : state.process ≠ some process := by
          rw [waiting drained]
          intro same
          exact moves (drained.trans (congrArg Site.drained (Option.some.inj same)))
        exact (others unmoved).trans (waiting drained)
  | exitFreeStopped process =>
      obtain ⟨same, rfl⟩ := moved
      apply held.keeps same.settings same.proxyOwned
        (unspent_set held.unspent (unspent_some id))
      intro other member handles waiting
      by_cases moves : other = .exitFreeStopped process
      · subst moves
        have known : process = core := by
          rcases handles with same | same | same
          · cases same
          · exact Site.exitFreeStopped.inj same
          · cases same
        subst known
        refine ⟨_, new, Or.inr (Or.inr rfl), ?_⟩
        intro same
        cases same
      · refine ⟨other, stays member moves, handles, ?_⟩
        intro drained
        exact same.process.trans (waiting drained)
  | exitHelperStopped process =>
      obtain ⟨owned, process_, unspent, settings⟩ := moved
      by_cases shielding : process.options.shields = true
      · rw [if_pos shielding] at settings
        exact
          { enabled := congrArg ProxySettings.proxyEnable settings
            owned := owned.trans held.owned
            unspent := unspent_set held.unspent unspent
            dead := Or.inl (congrArg ProxySettings.proxyServer settings) }
      · rw [if_neg shielding] at settings
        apply held.keeps settings owned (unspent_set held.unspent unspent)
        intro other member handles waiting
        have different : other ≠ .exitHelperStopped process := by
          rintro rfl
          rcases handles with same | same | same
          · cases same
          · cases same
          · cases same
            exact shielding shields
        refine ⟨other, stays member different, handles, ?_⟩
        intro drained
        exact process_.trans (waiting drained)
  | call asker at_ =>
      cases stage : at_.stage with
      | early =>
          rw [Moves, stage] at moved
          obtain ⟨same, unspent⟩ := moved
          apply held.keeps same.settings same.proxyOwned (unspent_set held.unspent unspent)
          intro other member handles waiting
          have different : other ≠ .call asker at_ := by
            rintro rfl
            rcases handles with same | same | same <;> cases same
          refine ⟨other, stays member different, handles, ?_⟩
          intro drained
          exact same.process.trans (waiting drained)
      | release =>
          exfalso
          exact kept (releasePrefs_of_stage stage)
      | late => exact absurd stage (held.unspent _ (List.mem_of_getElem? here) _ rfl)

theorem Held.step (held : Held core outline) (shields : core.options.shields = true)
    (proxied : core.dnsOnly = false) (step : Outline.Step Moves ready outline origin later)
    (kept : ¬Releases origin) : Held core later := by
  cases step with
  | start moved => exact held.start moved
  | resume here may moved => exact held.resume shields proxied here moved kept

/-- A release of settings that are ours disables the proxy. -/
theorem disabled_of_releases (step : Outline.Step Moves ready outline origin later)
    (owned : outline.state.proxyOwned = true) (releases : Releases origin) :
    later.state.settings.proxyEnable = 0 := by
  cases step with
  | start moved => exact releases.elim
  | @resume _ _ _ _ site _ here may moved =>
      cases site with
      | call asker place =>
          cases releases
          exact moved owned
      | _ => exact releases.elim

end Recovery

theorem held_exit {core : Process} {before : System engineSignature}
    (connected : Connected core before.outline) (eyes : ∀ query : Query, query.Value) :
    Held core (before.start program (.exit core) eyes).outline := by
  obtain ⟨same, unspent, drains⟩ := ((obeys_program (.exit core) before.state).stretch eyes).1
  have drained := drains connected.running
  rw [drained] at unspent
  have places : (before.start program (.exit core) eyes).outline.places =
      before.outline.places ++ [some (.drained core)] := by
    rw [System.outline, System.start, List.map_append, List.map_singleton]
    exact congrArg (before.outline.places ++ [·]) drained
  constructor
  · exact (congrArg ProxySettings.proxyEnable same.settings).trans connected.enabled
  · exact same.proxyOwned.trans connected.owned
  · intro place member
    rw [places] at member
    rcases List.mem_append.mp member with old | new
    · exact connected.unspent place old
    · rw [List.mem_singleton.mp new]
      exact unspent
  · right
    refine ⟨(congrArg ProxySettings.proxyServer same.settings).trans connected.server,
      .drained core, ?_, Or.inl rfl, fun _ => same.process.trans connected.process⟩
    rw [places]
    exact List.mem_append_right _ (List.mem_singleton.mpr rfl)

theorem held_run {core : Process} {start finish : System engineSignature}
    {labels : List (Label engineSignature)} {condition : System engineSignature →
      Label engineSignature → Prop} (shields : core.options.shields = true)
    (proxied : core.dnsOnly = false) (obedient : start.Obedient Moves)
    (held : Held core start.outline)
    (run : Run (Restrict (ofNext next) condition) start labels finish)
    (kept : ∀ label ∈ labels, ¬Releases label.whence) :
    finish.Obedient Moves ∧ Held core finish.outline := by
  induction run with
  | nil => exact ⟨obedient, held⟩
  | snoc _ last ih =>
      obtain ⟨obedient, held⟩ := ih fun label member => kept label (List.mem_append_left _ member)
      have both := obedient.next obeys_program last.1
      have keeps := kept _ (List.mem_append_right _ (List.mem_singleton.mpr rfl))
      exact ⟨both.1, held.step shields proxied both.2 keeps⟩

/-- From the exit of the core on, until the user disconnects or a tunnel passes traffic: the
browsers are shielded in every state if and only if no call of the engine, a reconnect or another
one, comes to its release of the proxy settings. -/
theorem shielded_iff {settings : ProxySettings} {proxyOwned : Bool}
    {labels more : List (Label engineSignature)} {before finish : System engineSignature}
    {core : Process} {eyes : ∀ query : Query, query.Value}
    (run : Run (ofNext next) (initialSystem settings proxyOwned) labels before)
    (connected : Connected core before.outline)
    (recovery : Run (Restrict (ofNext next) fun _ label => !endsRecovery label.whence)
      (before.start program (.exit core) eyes) more finish) :
    (∀ part middle, part <+: more →
      Run (Restrict (ofNext next) fun _ label => !endsRecovery label.whence)
        (before.start program (.exit core) eyes) part middle →
      Shielded core middle.outline) ↔
      ∀ label ∈ more, ¬Releases label.whence := by
  have nothing : (initialSystem settings proxyOwned).Obedient Moves := by
    intro task member
    cases member
  have free : Run (Restrict (ofNext next) fun _ _ => True) (initialSystem settings proxyOwned)
      labels before :=
    run.mono fun _ _ _ taken => ⟨taken, trivial⟩
  have obedient : before.Obedient Moves :=
    (System.Obedient.run (fun _ _ => True) nothing obeys_program free).1
  have taken : next before (.start (.exit core) eyes) =
      some (before.start program (.exit core) eyes) := rfl
  have started := (obedient.next obeys_program taken).1
  have held := held_exit connected eyes
  constructor
  · intro always
    induction recovery with
    | nil =>
        intro label member
        cases member
    | snoc earlier last ih =>
        have kept := ih fun part middle front => always part middle
          (front.trans (List.prefix_append _ _))
        intro label member
        rcases List.mem_append.mp member with old | new
        · exact kept label old
        · rw [List.mem_singleton.mp new]
          intro releases
          obtain ⟨obedient, held⟩ := held_run connected.shields connected.proxied started held
            earlier kept
          have step := (obedient.next obeys_program last.1).2
          have disabled := disabled_of_releases step held.owned releases
          have shielded := always _ _ (List.prefix_refl _) (Run.snoc earlier last)
          rw [shielded.enabled] at disabled
          cases disabled
  · intro kept part middle front recovered
    have heldThere := held_run connected.shields connected.proxied started held recovered
      fun label member => kept label (front.subset member)
    exact heldThere.2.shielded

/-- One server of the list, no deadline, nobody cancels. -/
def plainEyes : (query : Query) → query.Value
  | .isAdmin => false
  | .isCancelled => false
  | .deadline => false
  | .pastDeadline => false
  | .outbound _ => some false
  | .warpOutbound => false
  | .rememberedSni _ => none
  | .warpMember => false
  | .awgExe => false

def starts (entry : Entry) : Label engineSignature :=
  .start entry plainEyes

def resumes (task : Nat) (site : Site) (answer : site.Answer) : Label engineSignature :=
  .resume task site (.ok answer) plainEyes

def plainServer : Server :=
  { uri := "vless://a".toList
    countryCode := []
    protocol := .vless }

def guardedOptions : EngineOptions :=
  { tunMode := false
    killSwitch := true
    systemProxy := true
    localPort := 0
    multiPath := false }

def firstCore : Process :=
  { number := 0
    options := guardedOptions
    port := 2080
    dnsOnly := false }

/-- A call of `connect` to the end of its `disconnect()`. -/
def disconnects (task : Nat) (owned : Bool) : List (Label engineSignature) :=
  resumes task (.call .program .releasePrefs) () ::
    (if owned then [resumes task (.call .program .releaseRemoved) ()] else []) ++
    [resumes task (.call .program .releaseReturns) (),
      resumes task (.call .program .coreStopped) (), resumes task (.call .program .freeStopped) (),
      resumes task (.call .program .helperStopped) (),
      resumes task (.call .program .disconnectReturns) ()]

/-- A call of `connect` from there until the core runs. -/
def coreStarts (task port : Nat) : List (Label engineSignature) :=
  [resumes task (.call .program .xrayFor) (), resumes task (.call .program .freePort) port,
    resumes task (.call .program .apiPort) (), resumes task (.call .program .coreStopped) (),
    resumes task (.call .program .configWritten) (), resumes task (.call .program .spawned) (),
    resumes task (.call .program .startReturns) ()]

def connects : List (Label engineSignature) :=
  starts (.connect 0 plainServer guardedOptions) :: disconnects 0 false ++ coreStarts 0 2080 ++
    [resumes 0 (.call .program .waitApi) true, resumes 0 (.call .program .verify) true,
      resumes 0 (.call .program (.verifyReturns true)) (),
      resumes 0 (.call .program .ownPrefs) (), resumes 0 (.call .program .ownStored) ()]

/-- The exit handler runs to its end, and a reconnect is asked for. -/
def handlesExit : List (Label engineSignature) :=
  [resumes 1 (.drained firstCore) (), resumes 1 (.exitFreeStopped firstCore) (),
    resumes 1 (.exitHelperStopped firstCore) (),
    starts (.connect 0 plainServer guardedOptions)]

/-- The core of the reconnect does not come up. -/
def reconnectFails : List (Label engineSignature) :=
  disconnects 2 true ++ coreStarts 2 2081 ++ [resumes 2 (.call .program .waitApi) false] ++
    disconnects 2 false

def browserSettings : ProxySettings :=
  { proxyServer := []
    proxyOverride := []
    proxyEnable := 0 }

/-- A run that connects, and a run after the exit of the core: where they end. -/
def executeExit (more : List (Label engineSignature)) :
    Option (System engineSignature × System engineSignature) :=
  (execute next (initialSystem browserSettings false) connects).bind fun before =>
    (executeChecked next (fun _ label => !endsRecovery label.whence)
      (before.start program (.exit firstCore) plainEyes) more).map fun finish => (before, finish)

theorem executed_of_executeExit {more : List (Label engineSignature)}
    {before finish : System engineSignature}
    (executed : executeExit more = some (before, finish)) :
    execute next (initialSystem browserSettings false) connects = some before ∧
      executeChecked next (fun _ label => !endsRecovery label.whence)
        (before.start program (.exit firstCore) plainEyes) more = some finish := by
  unfold executeExit at executed
  obtain ⟨start, first, rest⟩ := Option.bind_eq_some_iff.mp executed
  obtain ⟨last, second, same⟩ := Option.map_eq_some_iff.mp rest
  obtain ⟨rfl, rfl⟩ := Prod.mk.inj same
  exact ⟨first, second⟩

/-- The engine after the run that connects. -/
def ConnectedRun (e : Outline engineSignature) : Prop :=
  e.state.process = some firstCore ∧ firstCore ∈ e.state.running ∧
    e.state.proxyPort = some 2080 ∧ e.state.settings.proxyEnable = 1 ∧
    e.state.settings.proxyServer = localhost 2080 ∧ e.state.proxyOwned = true ∧
    e.places = [none]

instance ConnectedRun.decidable (e : Outline engineSignature) : Decidable (ConnectedRun e) :=
  inferInstanceAs (Decidable (_ ∧ _))

theorem ConnectedRun.connected {e : Outline engineSignature} (run : ConnectedRun e) :
    Connected firstCore e := by
  obtain ⟨process, running, port, enabled, server, owned, places⟩ := run
  refine ⟨process, running, rfl, rfl, port, enabled, server, owned, ?_⟩
  intro place member
  rw [places, List.mem_singleton] at member
  rw [member]
  exact unspent_none

/-- The exit handler has come to its end, and a reconnect has been asked for: the browsers are
pointed at the dead proxy. -/
theorem shielded_iff_handled :
    ∃ before finish, executeExit handlesExit = some (before, finish) ∧
      finish.state.settings.proxyServer = deadProxy ∧ Shielded firstCore finish.outline := by
  have executed : (executeExit handlesExit).any (fun both => ConnectedRun both.1.outline ∧
      both.2.state.settings.proxyServer = deadProxy) = true := by
    decide +kernel
  obtain ⟨⟨before, finish⟩, taken, met⟩ := (Option.any_eq_true _ _).mp executed
  obtain ⟨connected, dead⟩ := of_decide_eq_true met
  obtain ⟨first, second⟩ := executed_of_executeExit taken
  refine ⟨before, finish, taken, dead, ?_⟩
  have recovery := run_of_executeChecked second
  have kept : ∀ label ∈ handlesExit, ¬Releases label.whence := by
    intro label member
    simp only [handlesExit, List.mem_cons, List.not_mem_nil, or_false] at member
    rcases member with rfl | rfl | rfl | rfl <;> exact id
  exact (shielded_iff (run_of_execute first) connected.connected recovery).mpr kept handlesExit
    finish (List.prefix_refl _) recovery

/-- A reconnect that fails leaves the browsers without a proxy. -/
theorem reconnect_unshields :
    ¬ ∀ (settings : ProxySettings) (proxyOwned : Bool) (labels more : List (Label engineSignature))
        (before finish : System engineSignature) (core : Process)
        (eyes : ∀ query : Query, query.Value),
      Run (ofNext next) (initialSystem settings proxyOwned) labels before →
      Connected core before.outline →
      Run (Restrict (ofNext next) fun _ label => !endsRecovery label.whence)
        (before.start program (.exit core) eyes) more finish →
      Shielded core finish.outline := by
  intro always
  have executed : (executeExit (handlesExit ++ reconnectFails)).any (fun both =>
      ConnectedRun both.1.outline ∧ both.2.state.settings.proxyEnable = 0) = true := by
    decide +kernel
  obtain ⟨⟨before, finish⟩, taken, met⟩ := (Option.any_eq_true _ _).mp executed
  obtain ⟨connected, disabled⟩ := of_decide_eq_true met
  obtain ⟨first, second⟩ := executed_of_executeExit taken
  have shielded := always _ _ _ _ before finish firstCore _ (run_of_execute first)
    connected.connected (run_of_executeChecked second)
  exact absurd (shielded.enabled.symm.trans disabled) (by decide)

end MolidoVpn.Windows
