import MolidoVpn.Lib.Numbered
import MolidoVpn.Lib.Transition
import MolidoVpn.Windows.XrayBridge

/-!
What the calls of `XrayBridge` leave behind: which links the tracked process serves, which
processes are not tracked, and what becomes of a process that has exited by itself.
-/

namespace MolidoVpn.Windows.XrayBridge

open Numbered
open Transition (Run Restrict ofNext execute run_of_execute executeChecked run_of_executeChecked)

section Invariant

variable {Link : Type} [DecidableEq Link]

theorem prefix_addAll (set links : List Link) : set <+: addAll set links := by
  induction links generalizing set with
  | nil => exact List.prefix_refl set
  | cons link rest ih =>
      rw [addAll]
      split
      · exact ih set
      · exact (List.prefix_append set [link]).trans (ih (set ++ [link]))

theorem mem_addAll {set links : List Link} {link : Link} :
    link ∈ addAll set links ↔ link ∈ set ∨ link ∈ links := by
  induction links generalizing set with
  | nil => simp [addAll]
  | cons head rest ih =>
      rw [addAll, ih]
      split
      · rename_i inside
        constructor
        · rintro (old | new)
          · exact .inl old
          · exact .inr (List.mem_cons_of_mem head new)
        · rintro (old | new)
          · exact .inl old
          · rcases List.mem_cons.mp new with rfl | later
            · exact .inl inside
            · exact .inr later
      · rw [List.mem_append, List.mem_singleton, List.mem_cons, or_assoc]

theorem addAll_eq_of_length {set links : List Link}
    (same : (addAll set links).length = set.length) : addAll set links = set :=
  ((prefix_addAll set links).eq_of_length same.symm).symm

/-- At the ports of the links stand the links themselves. -/
def Covers (ports : List (Link × Nat)) (links : List Link) (config : Config Link) : Prop :=
  ∀ link ∈ links, ∃ port, ports.lookup link = some port ∧ config.leaving port = some link

/-- No port is given to two links, and the next one is given to none. -/
structure Distinct (ports : List (Link × Nat)) (nextPort : Nat) : Prop where
  below : ∀ link port, ports.lookup link = some port → port < nextPort
  injective : ∀ link other port, ports.lookup link = some port → ports.lookup other = some port →
    link = other

variable {ports : List (Link × Nat)} {nextPort : Nat} {links : List Link} {config : Config Link}
  {bridge later : Bridge Link}

theorem leaving_configFor (distinct : Distinct bridge.ports bridge.nextPort) {link : Link}
    {port : Nat} (member : link ∈ links) (given : bridge.ports.lookup link = some port) :
    (bridge.configFor links).leaving port = some link := by
  unfold Bridge.configFor Config.leaving
  induction links with
  | nil => cases member
  | cons head rest ih =>
      cases found : bridge.ports.lookup head with
      | none =>
          rw [List.filterMap_cons, found]
          refine ih ((List.mem_cons.mp member).resolve_left ?_)
          rintro rfl
          rw [found] at given
          cases given
      | some other =>
          rw [List.filterMap_cons, found]
          by_cases same : other = port
          · rw [same] at found
            rw [distinct.injective link head port given found]
            exact congrArg (Option.map Prod.snd) (List.find?_cons_of_pos (decide_eq_true same))
          · have apart : ¬decide ((other, head).1 = port) = true := fun equal =>
              same (of_decide_eq_true equal)
            refine (congrArg (Option.map Prod.snd) (List.find?_cons_of_neg apart)).trans ?_
            refine ih ((List.mem_cons.mp member).resolve_left ?_)
            rintro rfl
            rw [found] at given
            exact same (Option.some.inj given)

/-- A port is reserved, or the link has one: those that there are stay. -/
theorem lookup_reserve {link other : Link} {port : Nat}
    (given : bridge.ports.lookup other = some port) :
    (bridge.reserve link).ports.lookup other = some port := by
  unfold Bridge.reserve
  split
  · exact given
  · rename_i fresh
    have apart : other ≠ link := by
      rintro rfl
      rw [given] at fresh
      exact fresh rfl
    exact (List.lookup_cons.trans (by rw [beq_false_of_ne apart])).trans given

theorem Covers.reserve (covers : Covers bridge.ports links config) (link : Link) :
    Covers (bridge.reserve link).ports links config := by
  intro other member
  obtain ⟨port, given, leaves⟩ := covers other member
  exact ⟨port, lookup_reserve given, leaves⟩

theorem Distinct.reserve (distinct : Distinct bridge.ports bridge.nextPort) (link : Link) :
    Distinct (bridge.reserve link).ports (bridge.reserve link).nextPort := by
  unfold Bridge.reserve
  split
  · exact distinct
  · have cases_ {other : Link} {port : Nat}
        (found : List.lookup other ((link, bridge.nextPort) :: bridge.ports) = some port) :
        other = link ∧ port = bridge.nextPort ∨ bridge.ports.lookup other = some port := by
      rw [List.lookup_cons] at found
      by_cases same : other = link
      · rw [same, beq_self_eq_true] at found
        exact .inl ⟨same, (Option.some.inj found).symm⟩
      · rw [beq_false_of_ne same] at found
        exact .inr found
    constructor
    · intro other port found
      rcases cases_ found with ⟨_, rfl⟩ | old
      · exact Nat.lt_succ_self _
      · exact Nat.lt_succ_of_lt (distinct.below other port old)
    · intro one other port first second
      rcases cases_ first with ⟨rfl, rfl⟩ | old
      · rcases cases_ second with ⟨rfl, _⟩ | other_
        · rfl
        · exact absurd (distinct.below other _ other_) (Nat.lt_irrefl _)
      · rcases cases_ second with ⟨rfl, rfl⟩ | other_
        · exact absurd (distinct.below one _ old) (Nat.lt_irrefl _)
        · exact distinct.injective one other port old other_

theorem covers_configFor (distinct : Distinct bridge.ports bridge.nextPort)
    (known : ∀ link ∈ links, (bridge.ports.lookup link).isSome = true) :
    Covers bridge.ports links (bridge.configFor links) := by
  intro link member
  obtain ⟨port, given⟩ := Option.isSome_iff_exists.mp (known link member)
  exact ⟨port, given, leaving_configFor distinct member given⟩

/-- What a call that is busy goes on with. -/
structure Underway (bridge : Bridge Link) (call : Call Link) : Prop where
  untracked : bridge.proc = none
  covers : Covers bridge.ports call.wanted call.config
  links : ∀ link ∈ call.links, link ∈ call.wanted
  pending : ∀ p, call.phase = .starting p → ∃ process, bridge.processes[p]? = some process ∧
    process.killed = false ∧ process.written = call.config

/-- One call at most is busy, and while it is no process is tracked; each process that is alive is
tracked, or a call awaits its start; and what is tracked serves what is running. -/
structure Kept (bridge : Bridge Link) : Prop where
  distinct : Distinct bridge.ports bridge.nextPort
  idle : bridge.proc = none → bridge.running = []
  tracked : ∀ p, bridge.proc = some p → ∃ process, bridge.processes[p]? = some process ∧
    process.killed = false ∧ Covers bridge.ports bridge.running process.written
  underway : ∀ call ∈ bridge.calls, call.phase.Busy = true → Underway bridge call
  single : ∀ (a b : Nat) (call other : Call Link), bridge.calls[a]? = some call →
    bridge.calls[b]? = some other → call.phase.Busy = true → other.phase.Busy = true → a = b
  accounted : ∀ (p : Nat) (process : Process Link), bridge.processes[p]? = some process →
    process.Alive → bridge.proc = some p ∨ ∃ call ∈ bridge.calls, call.phase = .starting p
  unread : ∀ process ∈ bridge.processes, process.Alive → process.found = none →
    bridge.file = some process.written
  reads : ∀ process ∈ bridge.processes, ∀ content, process.found = some content →
    content = some process.written
  since : ∀ call ∈ bridge.calls, ∀ n, call.since = some n → n ≤ bridge.stops ∧
    (n = bridge.stops → bridge.proc.isSome = true ∧ ∀ link ∈ call.links, link ∈ bridge.running)
  deserted : bridge.deserted = []

theorem distinct_nil (nextPort : Nat) : Distinct ([] : List (Link × Nat)) nextPort := by
  constructor
  · intro link port found
    cases found
  · intro link other port found
    cases found

theorem kept_initial (nextPort : Nat) : Kept (Bridge.initial nextPort : Bridge Link) :=
  { distinct := distinct_nil nextPort
    idle := fun _ => rfl
    tracked := fun _ some_ => by cases some_
    underway := fun _ member => absurd member List.not_mem_nil
    single := fun _ _ _ _ here => by cases here
    accounted := fun _ _ here => by cases here
    unread := fun _ member => absurd member List.not_mem_nil
    reads := fun _ member => absurd member List.not_mem_nil
    since := fun _ member => absurd member List.not_mem_nil
    deserted := rfl }

end Invariant

section Steps

variable {Link : Type} [DecidableEq Link] {bridge later : Bridge Link} {call : Call Link}
  {c p : Nat} {process : Process Link}

theorem Kept.reserved (kept : Kept bridge) (link : Link) : Kept (bridge.reserve link) := by
  have distinct := kept.distinct.reserve link
  have grows {links : List Link} {config : Config Link}
      (covers : Covers bridge.ports links config) :
      Covers (bridge.reserve link).ports links config := covers.reserve link
  unfold Bridge.reserve at distinct grows ⊢
  split
  · exact kept
  · rename_i fresh
    rw [if_neg fresh] at distinct grows
    refine ⟨distinct, kept.idle, ?_, ?_, kept.single, kept.accounted, kept.unread, kept.reads,
      kept.since, kept.deserted⟩
    · intro p tracked
      obtain ⟨process, there, alive, covers⟩ := kept.tracked p tracked
      exact ⟨process, there, alive, grows covers⟩
    · intro call member busy
      have before := kept.underway call member busy
      exact ⟨before.untracked, grows before.covers, before.links, before.pending⟩

omit [DecidableEq Link] in
/-- After a stop the process that was tracked is no longer alive. -/
theorem halt_cases {n : Nat} (there : bridge.halt.processes[n]? = some process) : ∃ old,
    bridge.processes[n]? = some old ∧
      (process = old ∧ bridge.proc ≠ some n ∨ process = { old with killed := true }) := by
  unfold Bridge.halt at there
  cases tracked : bridge.proc with
  | none =>
      rw [tracked] at there
      exact ⟨process, there, .inl ⟨rfl, (Option.some_ne_none n).symm⟩⟩
  | some p =>
      rw [tracked] at there
      obtain ⟨old, known, ⟨_, same⟩ | ⟨other, same⟩⟩ := getElem?_modify_cases there
      · exact ⟨old, known, .inr same⟩
      · exact ⟨old, known, .inl ⟨same, fun equal => other (Option.some.inj equal).symm⟩⟩

omit [DecidableEq Link] in
theorem halt_processes (untracked : bridge.proc = none) :
    bridge.halt.processes = bridge.processes := by
  unfold Bridge.halt
  rw [untracked]

theorem Kept.halted (kept : Kept bridge) : Kept bridge.halt := by
  constructor
  · exact kept.distinct
  · intro _
    rfl
  · intro p tracked
    cases tracked
  · intro call member busy
    have before := kept.underway call member busy
    refine ⟨rfl, before.covers, before.links, ?_⟩
    rw [halt_processes before.untracked]
    exact before.pending
  · exact kept.single
  · intro p process there alive
    obtain ⟨old, known, ⟨rfl, untracked⟩ | rfl⟩ := halt_cases there
    · exact .inr ((kept.accounted p process known alive).resolve_left untracked)
    · exact absurd alive.2 Bool.noConfusion
  · intro process member alive nothing
    obtain ⟨n, there⟩ := List.mem_iff_getElem?.mp member
    obtain ⟨old, known, ⟨rfl, _⟩ | rfl⟩ := halt_cases there
    · exact kept.unread process (List.mem_of_getElem? known) alive nothing
    · exact absurd alive.2 Bool.noConfusion
  · intro process member content read
    obtain ⟨n, there⟩ := List.mem_iff_getElem?.mp member
    obtain ⟨old, known, ⟨rfl, _⟩ | rfl⟩ := halt_cases there
    · exact kept.reads process (List.mem_of_getElem? known) content read
    · exact kept.reads old (List.mem_of_getElem? known) content read
  · intro call member n since
    have bound := (kept.since call member n since).1
    refine ⟨Nat.le_succ_of_le bound, fun same => ?_⟩
    change n = bridge.stops + 1 at same
    omega
  · exact kept.deserted

/-- A call is added: one that has returned at once, or the only one that is busy. -/
theorem Kept.called (kept : Kept bridge)
    (busy : call.phase.Busy = true → Underway bridge call ∧
      ∀ other ∈ bridge.calls, other.phase.Busy = false)
    (since : ∀ n, call.since = some n → n ≤ bridge.stops ∧
      (n = bridge.stops → bridge.proc.isSome = true ∧ ∀ link ∈ call.links, link ∈ bridge.running)) :
    Kept { bridge with calls := bridge.calls ++ [call] } := by
  constructor
  · exact kept.distinct
  · exact kept.idle
  · exact kept.tracked
  · intro other member busy_
    rcases List.mem_append.mp member with old | last
    · have before := kept.underway other old busy_
      exact ⟨before.untracked, before.covers, before.links, before.pending⟩
    · obtain rfl := List.mem_singleton.mp last
      have now := (busy busy_).1
      exact ⟨now.untracked, now.covers, now.links, now.pending⟩
  · intro a b one other first second busyOne busyOther
    rcases getElem?_append_singleton_cases first with old | ⟨rfl, rfl⟩
    · rcases getElem?_append_singleton_cases second with other_ | ⟨_, rfl⟩
      · exact kept.single a b one other old other_ busyOne busyOther
      · have calm := (busy busyOther).2 one (List.mem_of_getElem? old)
        rw [busyOne] at calm
        cases calm
    · rcases getElem?_append_singleton_cases second with other_ | ⟨rfl, _⟩
      · have calm := (busy busyOne).2 other (List.mem_of_getElem? other_)
        rw [busyOther] at calm
        cases calm
      · rfl
  · intro p process there alive
    rcases kept.accounted p process there alive with tracked | ⟨other, member, starting⟩
    · exact .inl tracked
    · exact .inr ⟨other, List.mem_append_left _ member, starting⟩
  · exact kept.unread
  · exact kept.reads
  · intro other member n known
    rcases List.mem_append.mp member with old | last
    · exact kept.since other old n known
    · obtain rfl := List.mem_singleton.mp last
      exact since n known
  · exact kept.deserted

/-- A call that is in progress moves. -/
theorem Kept.phased (kept : Kept bridge) (here : bridge.calls[c]? = some call) {phase : Phase}
    (busy : phase.Busy = true → call.phase.Busy = true)
    (starts : ∀ p, phase ≠ .starting p)
    (leaves : ∀ p, call.phase = .starting p → ∀ process, bridge.processes[p]? = some process →
      ¬process.Alive) :
    Kept (bridge.setPhase c call phase) := by
  have member := List.mem_of_getElem? here
  constructor
  · exact kept.distinct
  · exact kept.idle
  · exact kept.tracked
  · intro other inside busy_
    rcases List.mem_or_eq_of_mem_set inside with old | rfl
    · have before := kept.underway other old busy_
      exact ⟨before.untracked, before.covers, before.links, before.pending⟩
    · have before := kept.underway call member (busy busy_)
      exact ⟨before.untracked, before.covers, before.links, fun p starting =>
        absurd starting (starts p)⟩
  · intro a b one other first second busyOne busyOther
    rcases getElem?_set_cases first with ⟨rfl, rfl⟩ | ⟨_, one_⟩
    · rcases getElem?_set_cases second with ⟨rfl, _⟩ | ⟨_, other_⟩
      · rfl
      · exact kept.single _ b call other here other_ (busy busyOne) busyOther
    · rcases getElem?_set_cases second with ⟨rfl, rfl⟩ | ⟨_, other_⟩
      · exact kept.single a _ one call one_ here busyOne (busy busyOther)
      · exact kept.single a b one other one_ other_ busyOne busyOther
  · intro p process there alive
    rcases kept.accounted p process there alive with tracked | ⟨other, inside, starting⟩
    · exact .inl tracked
    · obtain ⟨n, there_⟩ := List.mem_iff_getElem?.mp inside
      by_cases same : n = c
      · rw [same, here] at there_
        cases there_
        exact absurd alive (leaves p starting process there)
      · exact .inr ⟨other, mem_set_of_getElem?_ne there_ same, starting⟩
  · exact kept.unread
  · exact kept.reads
  · intro other inside n since
    rcases List.mem_or_eq_of_mem_set inside with old | rfl
    · exact kept.since other old n since
    · exact kept.since call member n since
  · exact kept.deserted

end Steps

section Processes

variable {Link : Type} [DecidableEq Link] {bridge later : Bridge Link} {call : Call Link}
  {c p : Nat} {process : Process Link} {event : Event Link}

/-- While a call is busy, only the process that it is starting is alive. -/
theorem Kept.alive_of_busy (kept : Kept bridge) (here : bridge.calls[c]? = some call)
    (busy : call.phase.Busy = true) (there : bridge.processes[p]? = some process)
    (alive : process.Alive) : call.phase = .starting p := by
  have untracked := (kept.underway call (List.mem_of_getElem? here) busy).untracked
  rcases kept.accounted p process there alive with tracked | ⟨other, member, starting⟩
  · rw [untracked] at tracked
    cases tracked
  · obtain ⟨n, there_⟩ := List.mem_iff_getElem?.mp member
    have busy_ : other.phase.Busy = true := by
      rw [starting]
      rfl
    have same := kept.single n c other call there_ here busy_ busy
    rw [same, here] at there_
    cases there_
    exact starting

theorem Kept.dead (kept : Kept bridge) (here : bridge.calls[c]? = some call)
    (writing : call.phase = .writing) : ∀ process ∈ bridge.processes, ¬process.Alive := by
  intro process member alive
  obtain ⟨n, there⟩ := List.mem_iff_getElem?.mp member
  have busy : call.phase.Busy = true := by
    rw [writing]
    rfl
  have starting := kept.alive_of_busy here busy there alive
  rw [writing] at starting
  cases starting

theorem Kept.filed (kept : Kept bridge) (dead : ∀ process ∈ bridge.processes, ¬process.Alive)
    (file : Option (Config Link)) : Kept { bridge with file := file } := by
  refine ⟨kept.distinct, kept.idle, kept.tracked, ?_, kept.single, kept.accounted, ?_, kept.reads,
    kept.since, kept.deserted⟩
  · intro call member busy
    have before := kept.underway call member busy
    exact ⟨before.untracked, before.covers, before.links, before.pending⟩
  · intro process member alive
    exact absurd alive (dead process member)

/-- The file has been written, and a process is started. -/
theorem Kept.launched (kept : Kept bridge) (here : bridge.calls[c]? = some call)
    (writing : call.phase = .writing) :
    Kept { bridge.setPhase c call (.starting bridge.processes.length) with
      file := some call.config
      processes := bridge.processes ++ [{
        written := call.config
        found := none
        exited := false
        killed := false }] } := by
  have member := List.mem_of_getElem? here
  have busy : call.phase.Busy = true := by
    rw [writing]
    rfl
  have dead := kept.dead here writing
  have before := kept.underway call member busy
  have stays {p : Nat} {old new : Process Link} (there : bridge.processes[p]? = some old) :
      (bridge.processes ++ [new])[p]? = some old :=
    getElem?_append_of_some there [new]
  constructor
  · exact kept.distinct
  · exact kept.idle
  · intro p tracked
    obtain ⟨process, there, alive, covers⟩ := kept.tracked p tracked
    exact ⟨process, stays there, alive, covers⟩
  · intro other inside busy_
    rcases List.mem_or_eq_of_mem_set inside with old | rfl
    · have before_ := kept.underway other old busy_
      refine ⟨before_.untracked, before_.covers, before_.links, fun p starting => ?_⟩
      obtain ⟨process, there, known⟩ := before_.pending p starting
      exact ⟨process, stays there, known⟩
    · refine ⟨before.untracked, before.covers, before.links, fun p starting => ?_⟩
      cases starting
      exact ⟨_, List.getElem?_concat_length, rfl, rfl⟩
  · intro a b one other first second busyOne busyOther
    rcases getElem?_set_cases first with ⟨rfl, rfl⟩ | ⟨_, one_⟩
    · rcases getElem?_set_cases second with ⟨rfl, _⟩ | ⟨_, other_⟩
      · rfl
      · exact kept.single _ b call other here other_ busy busyOther
    · rcases getElem?_set_cases second with ⟨rfl, rfl⟩ | ⟨_, other_⟩
      · exact kept.single a _ one call one_ here busyOne busy
      · exact kept.single a b one other one_ other_ busyOne busyOther
  · intro p process there alive
    rcases getElem?_append_singleton_cases there with old | ⟨rfl, _⟩
    · exact absurd alive (dead process (List.mem_of_getElem? old))
    · right
      have inside := (List.getElem?_eq_some_iff.mp here).1
      exact ⟨_, List.mem_set inside _, rfl⟩
  · intro process inside alive _
    rcases List.mem_append.mp inside with old | last
    · exact absurd alive (dead process old)
    · obtain rfl := List.mem_singleton.mp last
      rfl
  · intro process inside content read
    rcases List.mem_append.mp inside with old | last
    · exact kept.reads process old content read
    · obtain rfl := List.mem_singleton.mp last
      cases read
  · intro other inside n since
    rcases List.mem_or_eq_of_mem_set inside with old | rfl
    · exact kept.since other old n since
    · exact kept.since call member n since
  · exact kept.deserted

/-- The call has its process, and the bridge tracks it. -/
theorem Kept.tracks (kept : Kept bridge) (here : bridge.calls[c]? = some call)
    (starting : call.phase = .starting p) :
    Kept { bridge.setCall c { call with phase := .storing p, since := some bridge.stops } with
      proc := some p
      running := call.wanted } := by
  have member := List.mem_of_getElem? here
  have busy : call.phase.Busy = true := by
    rw [starting]
    rfl
  have before := kept.underway call member busy
  have others {n : Nat} {other : Call Link}
      (there : (bridge.calls.set c
        { call with phase := .storing p, since := some bridge.stops })[n]? = some other) :
      other.phase.Busy = false := by
    rcases getElem?_set_cases there with ⟨_, rfl⟩ | ⟨different, old⟩
    · rfl
    · cases known : other.phase.Busy with
      | false => rfl
      | true => exact absurd (kept.single n c other call old here known busy) different
  constructor
  · exact kept.distinct
  · intro untracked
    cases untracked
  · intro q tracked
    cases tracked
    obtain ⟨process, there, alive, written⟩ := before.pending p starting
    exact ⟨process, there, alive, written ▸ before.covers⟩
  · intro other inside busy_
    obtain ⟨n, there⟩ := List.mem_iff_getElem?.mp inside
    rw [others there] at busy_
    cases busy_
  · intro a b one other first _ busyOne _
    rw [others first] at busyOne
    cases busyOne
  · intro q process there alive
    have same := kept.alive_of_busy here busy there alive
    rw [starting] at same
    cases same
    exact .inl rfl
  · exact kept.unread
  · exact kept.reads
  · intro other inside n since
    rcases List.mem_or_eq_of_mem_set inside with old | rfl
    · obtain ⟨bound, running⟩ := kept.since other old n since
      refine ⟨bound, fun same => ?_⟩
      have tracked := (running same).1
      rw [before.untracked] at tracked
      cases tracked
    · cases since
      exact ⟨Nat.le_refl _, fun _ => ⟨rfl, before.links⟩⟩
  · exact kept.deserted

/-- A process changes: it reads the file, it exits, or there has been none. -/
theorem Kept.changed (kept : Kept bridge) (there : bridge.processes[p]? = some process)
    {new : Process Link} (written : new.written = process.written)
    (killed : new.killed = process.killed) (alive : new.Alive → process.Alive)
    (found : ∀ content, new.found = some content → content = some process.written)
    (unread : new.Alive → new.found = none → process.found = none) :
    Kept { bridge with processes := bridge.processes.set p new } := by
  have inside := (List.getElem?_eq_some_iff.mp there).1
  have stays {q : Nat} {old : Process Link} (known : bridge.processes[q]? = some old) :
      ∃ process, (bridge.processes.set p new)[q]? = some process ∧
        process.killed = old.killed ∧ process.written = old.written := by
    by_cases same : p = q
    · subst same
      rw [there] at known
      cases known
      exact ⟨new, List.getElem?_set_self inside, killed, written⟩
    · exact ⟨old, (List.getElem?_set_ne same).trans known, rfl, rfl⟩
  constructor
  · exact kept.distinct
  · exact kept.idle
  · intro q tracked
    obtain ⟨old, known, oldKilled, covers⟩ := kept.tracked q tracked
    obtain ⟨now, known_, sameKilled, sameWritten⟩ := stays known
    exact ⟨now, known_, sameKilled.trans oldKilled, sameWritten ▸ covers⟩
  · intro call member busy
    have before := kept.underway call member busy
    refine ⟨before.untracked, before.covers, before.links, fun q starting => ?_⟩
    obtain ⟨old, known, oldKilled, config⟩ := before.pending q starting
    obtain ⟨now, known_, sameKilled, sameWritten⟩ := stays known
    exact ⟨now, known_, sameKilled.trans oldKilled, sameWritten.trans config⟩
  · exact kept.single
  · intro q one known living
    rcases getElem?_set_cases known with ⟨rfl, rfl⟩ | ⟨_, old⟩
    · exact kept.accounted q process there (alive living)
    · exact kept.accounted q one old living
  · intro one member living nothing
    rcases List.mem_or_eq_of_mem_set member with old | rfl
    · exact kept.unread one old living nothing
    · rw [written]
      exact kept.unread process (List.mem_of_getElem? there) (alive living)
        (unread living nothing)
  · intro one member content read
    rcases List.mem_or_eq_of_mem_set member with old | rfl
    · exact kept.reads one old content read
    · rw [written]
      exact found content read
  · exact kept.since
  · exact kept.deserted

end Processes

section Runs

variable {Link : Type} [DecidableEq Link] {bridge later : Bridge Link} {call : Call Link}
  {c : Nat} {event : Event Link}

/-- An `ensure` that has something to start finds no other one between its stop and its start, one
that has not finds a process that is alive, and the process number can be stored. -/
def Careful (bridge : Bridge Link) : Event Link → Prop
  | .ensure links =>
      if bridge.Skips links then bridge.wanted links ≠ [] → ¬bridge.Deserted
      else ∀ call ∈ bridge.calls, call.phase.Busy = false
  | .storeFailed _ => False
  | _ => True

theorem known_isSome {links : List Link} {link : Link} (member : link ∈ bridge.known links) :
    (bridge.ports.lookup link).isSome = true :=
  (List.mem_filter.mp member).2

/-- What is running has ports. -/
theorem Kept.running_isSome (kept : Kept bridge) {link : Link} (member : link ∈ bridge.running) :
    (bridge.ports.lookup link).isSome = true := by
  cases tracked : bridge.proc with
  | none =>
      rw [kept.idle tracked] at member
      cases member
  | some p =>
      obtain ⟨_, _, _, covers⟩ := kept.tracked p tracked
      obtain ⟨port, given, _⟩ := covers link member
      rw [given]
      rfl

theorem Kept.wanted_isSome (kept : Kept bridge) {links : List Link} :
    ∀ link ∈ bridge.wanted links, (bridge.ports.lookup link).isSome = true := by
  intro link member
  rcases mem_addAll.mp member with running | known
  · exact kept.running_isSome running
  · exact known_isSome known

theorem Kept.ensured (kept : Kept bridge) {links : List Link}
    (careful : Careful bridge (.ensure links)) : Kept (bridge.ensure links) := by
  unfold Bridge.ensure
  dsimp only
  unfold Careful at careful
  dsimp only at careful
  split
  · rename_i skips
    rw [if_pos skips] at careful
    have alive : ¬(bridge.wanted links ≠ [] ∧ bridge.Deserted) := fun both => careful both.1 both.2
    rw [if_neg alive]
    apply kept.called
    · intro busy
      cases busy
    · intro n since
      dsimp only at since
      split at since
      · cases since
      · rename_i something
        cases since
        refine ⟨Nat.le_refl _, fun _ => ?_⟩
        obtain ⟨tracked, same⟩ := skips.resolve_left something
        refine ⟨tracked, fun link member => ?_⟩
        have wanted : bridge.wanted links = bridge.running := addAll_eq_of_length same
        rw [← wanted]
        exact mem_addAll.mpr (.inr member)
  · rename_i starts
    rw [if_neg starts] at careful
    apply kept.halted.called
    · intro _
      refine ⟨⟨rfl, ?_, ?_, ?_⟩, careful⟩
      · exact covers_configFor kept.distinct kept.wanted_isSome
      · intro link member
        exact mem_addAll.mpr (.inr member)
      · intro p starting
        cases starting
    · intro n since
      cases since

theorem Kept.cleared (kept : Kept bridge) (untracked : bridge.proc = none) :
    Kept { bridge with proc := none, running := [] } := by
  have running := kept.idle untracked
  have same : { bridge with proc := none, running := [] } = bridge := by
    cases bridge
    dsimp only at untracked running
    rw [untracked, running]
  rw [same]
  exact kept

theorem Kept.startFails (kept : Kept bridge) (here : bridge.calls[c]? = some call) {p : Nat}
    (starting : call.phase = .starting p) :
    Kept { bridge.setPhase c call .thrown with
      proc := none
      running := []
      processes := bridge.processes.modify p fun process => { process with exited := true } } := by
  have busy : call.phase.Busy = true := by
    rw [starting]
    rfl
  have before := kept.underway call (List.mem_of_getElem? here) busy
  obtain ⟨process, there, _⟩ := before.pending p starting
  have ended : Kept { bridge with
      processes := bridge.processes.set p { process with exited := true } } := by
    refine kept.changed there rfl rfl ?_ ?_ ?_
    · intro alive
      cases alive.1
    · exact fun content read => kept.reads process (List.mem_of_getElem? there) content read
    · intro alive
      cases alive.1
  rw [List.modify_eq_set_getElem?, there]
  apply (ended.phased here _ _ _).cleared before.untracked
  · intro busy_
    cases busy_
  · exact fun _ => Phase.noConfusion
  · intro q other process_ found alive
    rw [starting] at other
    cases other
    rw [List.getElem?_set_self (List.getElem?_eq_some_iff.mp there).1] at found
    cases found
    cases alive.1

theorem Kept.resumed (kept : Kept bridge) (here : bridge.calls[c]? = some call)
    (careful : Careful bridge event) (taken : bridge.resume c call event = some later) :
    Kept later := by
  have settles {phase : Phase} (calm : phase.Busy = false)
      (apart : ∀ p, call.phase ≠ .starting p) : Kept (bridge.setPhase c call phase) := by
    apply kept.phased here
    · intro busy
      rw [calm] at busy
      cases busy
    · rintro p rfl
      cases calm
    · exact fun p starting => absurd starting (apart p)
  cases event with
  | reserved _ | ensure _ | boots _ | exits _ | stop => cases taken
  | stopped c' =>
      unfold Bridge.resume at taken
      dsimp only at taken
      split at taken
      · rename_i stopping
        cases taken
        apply kept.phased here
        · intro _
          rw [stopping]
          rfl
        · exact fun _ => Phase.noConfusion
        · intro p starting
          rw [stopping] at starting
          cases starting
      · cases taken
  | cut c' =>
      unfold Bridge.resume at taken
      dsimp only at taken
      split at taken
      · rename_i writing
        cases taken
        exact kept.filed (kept.dead here writing) none
      · cases taken
  | written c' =>
      unfold Bridge.resume at taken
      dsimp only at taken
      split at taken
      · rename_i writing
        cases taken
        exact kept.launched here writing
      · cases taken
  | writeFailed c' =>
      unfold Bridge.resume at taken
      dsimp only at taken
      split at taken
      · rename_i writing
        cases taken
        apply settles rfl
        rw [writing]
        exact fun _ => Phase.noConfusion
      · cases taken
  | started c' =>
      unfold Bridge.resume at taken
      dsimp only at taken
      cases phase : call.phase with
      | starting p =>
          rw [phase] at taken
          cases taken
          exact kept.tracks here phase
      | _ =>
          rw [phase] at taken
          cases taken
  | startFailed c' =>
      unfold Bridge.resume at taken
      dsimp only at taken
      cases phase : call.phase with
      | starting p =>
          rw [phase] at taken
          cases taken
          exact kept.startFails here phase
      | _ =>
          rw [phase] at taken
          cases taken
  | stored c' =>
      unfold Bridge.resume at taken
      dsimp only at taken
      cases phase : call.phase with
      | storing p =>
          rw [phase] at taken
          cases taken
          apply settles rfl
          rw [phase]
          exact fun _ => Phase.noConfusion
      | _ =>
          rw [phase] at taken
          cases taken
  | storeFailed c' => exact careful.elim
  | connected c' =>
      unfold Bridge.resume at taken
      dsimp only at taken
      split at taken
      · rename_i connecting
        cases taken
        apply settles rfl
        rw [connecting]
        exact fun _ => Phase.noConfusion
      · cases taken

theorem Kept.next (kept : Kept bridge) (careful : Careful bridge event)
    (taken : XrayBridge.next bridge event = some later) : Kept later := by
  have resumes (step : (event.call?.bind fun c => bridge.calls[c]?.bind fun call =>
      bridge.resume c call event) = some later) : Kept later := by
    obtain ⟨c, _, step⟩ := Option.bind_eq_some_iff.mp step
    obtain ⟨call, here, step⟩ := Option.bind_eq_some_iff.mp step
    exact kept.resumed here careful step
  cases event with
  | reserved link =>
      cases taken
      exact kept.reserved link
  | ensure links =>
      cases taken
      exact kept.ensured careful
  | stop =>
      cases taken
      exact kept.halted
  | boots p =>
      obtain ⟨process, there, step⟩ := Option.bind_eq_some_iff.mp taken
      split at step
      · rename_i able
        cases step
        have content := kept.unread process (List.mem_of_getElem? there) able.1 able.2
        refine kept.changed there rfl rfl ?_ ?_ ?_
        · exact id
        · intro other read
          rw [← content]
          exact (Option.some.inj read).symm
        · intro _ nothing
          cases nothing
      · cases step
  | exits p =>
      obtain ⟨process, there, step⟩ := Option.bind_eq_some_iff.mp taken
      split at step
      · cases step
        refine kept.changed there rfl rfl ?_ ?_ ?_
        · intro alive
          cases alive.1
        · exact fun content read => kept.reads process (List.mem_of_getElem? there) content read
        · intro alive
          cases alive.1
      · cases step
  | stopped c => exact resumes taken
  | cut c => exact resumes taken
  | written c => exact resumes taken
  | writeFailed c => exact resumes taken
  | started c => exact resumes taken
  | startFailed c => exact resumes taken
  | stored c => exact resumes taken
  | storeFailed c => exact resumes taken
  | connected c => exact resumes taken

/-- The process runs on a configuration in which the link has the port that is reserved for it. -/
def Serves (bridge : Bridge Link) (process : Process Link) (link : Link) : Prop :=
  ∃ port config, bridge.ports.lookup link = some port ∧ process.config = some config ∧
    config.leaving port = some link

/-- A call that has returned, and has had its process since the last stop, is served by what the
bridge tracks, unless that has exited by itself; every process that is alive is tracked, or a call
awaits its start; and no call has returned at once to a process that had exited. -/
structure Lawful (bridge : Bridge Link) : Prop where
  served : ∀ call ∈ bridge.calls, call.phase = .returned → call.since = some bridge.stops →
    ∃ p process, bridge.proc = some p ∧ bridge.processes[p]? = some process ∧
      (process.exited = true ∨ ∀ link ∈ call.links, Serves bridge process link)
  accounted : ∀ (p : Nat) (process : Process Link), bridge.processes[p]? = some process →
    process.exited = true ∨ process.killed = true ∨ bridge.proc = some p ∨
      ∃ call ∈ bridge.calls, call.phase = .starting p
  restarted : bridge.deserted = []

theorem Kept.lawful (kept : Kept bridge) : Lawful bridge := by
  refine ⟨fun call member _ since => ?_, fun p process there => ?_, kept.deserted⟩
  · obtain ⟨tracked, running⟩ := (kept.since call member _ since).2 rfl
    obtain ⟨p, tracked⟩ := Option.isSome_iff_exists.mp tracked
    obtain ⟨process, there, _, covers⟩ := kept.tracked p tracked
    refine ⟨p, process, tracked, there, .inr fun link wanted => ?_⟩
    obtain ⟨port, given, leaves⟩ := covers link (running link wanted)
    refine ⟨port, process.written, given, ?_, leaves⟩
    unfold Process.config
    cases found : process.found with
    | none => rfl
    | some content => exact kept.reads process (List.mem_of_getElem? there) content found
  · by_cases exited : process.exited = true
    · exact .inl exited
    · by_cases killed : process.killed = true
      · exact .inr (.inl killed)
      · have alive : process.Alive :=
          ⟨eq_false_of_ne_true exited, eq_false_of_ne_true killed⟩
        exact .inr (.inr (kept.accounted p process there alive))

/-- In a run whose steps are all careful, the tracked process serves what has been asked for, no
process is left behind, and one that has exited is replaced. -/
theorem lawful_of_careful_calls {nextPort : Nat} {events : List (Event Link)}
    (run : Run (Restrict (ofNext XrayBridge.next) Careful) (.initial nextPort) events bridge) :
    Lawful bridge :=
  (run.invariant Kept (fun _ _ _ step kept => kept.next step.2 step.1)
    (kept_initial nextPort)).lawful

end Runs

section Claim

instance decidableCareful (bridge : Bridge Nat) : ∀ event, Decidable (Careful bridge event)
  | .ensure links => inferInstanceAs (Decidable (if bridge.Skips links then
      bridge.wanted links ≠ [] → ¬bridge.Deserted
      else ∀ call ∈ bridge.calls, call.phase.Busy = false))
  | .storeFailed _ => inferInstanceAs (Decidable False)
  | .reserved _ => inferInstanceAs (Decidable True)
  | .stopped _ => inferInstanceAs (Decidable True)
  | .cut _ => inferInstanceAs (Decidable True)
  | .written _ => inferInstanceAs (Decidable True)
  | .writeFailed _ => inferInstanceAs (Decidable True)
  | .started _ => inferInstanceAs (Decidable True)
  | .startFailed _ => inferInstanceAs (Decidable True)
  | .stored _ => inferInstanceAs (Decidable True)
  | .connected _ => inferInstanceAs (Decidable True)
  | .boots _ => inferInstanceAs (Decidable True)
  | .exits _ => inferInstanceAs (Decidable True)
  | .stop => inferInstanceAs (Decidable True)

abbrev PlainBridge : Type := Bridge Nat

/-- A call from its start to its end, with the process that it starts. -/
def serving (c p link : Nat) : List (Event Nat) :=
  [.reserved link, .ensure [link], .stopped c, .cut c, .written c, .boots p, .started c, .stored c,
    .connected c]

/-- The process exits by itself, and the same link is asked for. -/
def afterExit : List (Event Nat) := serving 0 0 7 ++ [.exits 0, .ensure [7]]

/-- A call begins while another one awaits the start of its process. -/
def overlapping : List (Event Nat) :=
  [.reserved 7, .reserved 8, .ensure [7], .stopped 0, .written 0, .boots 0, .ensure [8],
    .stopped 1, .written 1, .boots 1, .started 0, .started 1, .stored 0, .connected 0]

/-- The number of the process cannot be stored. -/
def unstored : List (Event Nat) :=
  [.reserved 7, .ensure [7], .stopped 0, .written 0, .boots 0, .started 0, .storeFailed 0]

/-- The process is alive, not tracked, and no call awaits its start. -/
def leftBehind (p : Nat) (bridge : PlainBridge) : Bool :=
  bridge.processes[p]?.any (fun process => !process.exited && !process.killed) &&
    bridge.proc ≠ some p && bridge.calls.all fun call => call.phase ≠ .starting p

theorem deserted_afterExit :
    (execute next (.initial 31000) afterExit).any (fun bridge => bridge.deserted ≠ []) = true := by
  decide +kernel

theorem leftBehind_overlapping :
    (execute next (.initial 31000) overlapping).any (leftBehind 0) = true := by
  decide +kernel

theorem leftBehind_unstored :
    (execute next (.initial 31000) unstored).any (leftBehind 0) = true := by
  decide +kernel

theorem not_lawful_of_leftBehind {p : Nat} {bridge : PlainBridge}
    (left : leftBehind p bridge = true) : ¬Lawful bridge := by
  intro lawful
  unfold leftBehind at left
  rw [Bool.and_eq_true, Bool.and_eq_true, Option.any_eq_true, decide_eq_true_iff,
    List.all_eq_true] at left
  obtain ⟨⟨⟨process, there, alive⟩, untracked⟩, settled⟩ := left
  rw [Bool.and_eq_true, Bool.not_eq_true', Bool.not_eq_true'] at alive
  rcases lawful.accounted p process there with exited | killed | tracked | ⟨call, member, starting⟩
  · rw [alive.1] at exited
    cases exited
  · rw [alive.2] at killed
    cases killed
  · exact untracked tracked
  · exact of_decide_eq_true (settled call member) starting

theorem exists_of_any {events : List (Event Nat)} {check : PlainBridge → Bool}
    (found : (execute next (.initial 31000) events).any check = true) : ∃ bridge,
      Run (ofNext next) (.initial 31000) events bridge ∧ check bridge = true := by
  obtain ⟨bridge, executed, holds⟩ := (Option.any_eq_true _ _).mp found
  exact ⟨bridge, run_of_execute executed, holds⟩

/-- A process that has exited is not replaced, and processes are left behind: by two calls at once,
and by a number that is not stored. -/
theorem unlawful_calls :
    (¬∀ bridge, Run (ofNext next) (.initial 31000) afterExit bridge → Lawful bridge) ∧
      (¬∀ bridge, Run (ofNext next) (.initial 31000) overlapping bridge → Lawful bridge) ∧
      ¬∀ bridge, Run (ofNext next) (.initial 31000) unstored bridge → Lawful bridge := by
  refine ⟨?_, ?_, ?_⟩ <;> intro claimed
  · obtain ⟨bridge, run, found⟩ := exists_of_any deserted_afterExit
    exact of_decide_eq_true found (claimed bridge run).restarted
  · obtain ⟨bridge, run, left⟩ := exists_of_any leftBehind_overlapping
    exact not_lawful_of_leftBehind left (claimed bridge run)
  · obtain ⟨bridge, run, left⟩ := exists_of_any leftBehind_unstored
    exact not_lawful_of_leftBehind left (claimed bridge run)

/-- One call after the other, and a stop. -/
def inTurn : List (Event Nat) := serving 0 0 7 ++ serving 1 1 8 ++ [.stop]

theorem executed_inTurn : (executeChecked next (fun bridge event => Careful bridge event)
    (.initial 31000) inTurn).isSome = true := by
  decide +kernel

theorem lawful_of_careful_calls_inTurn :
    ∃ bridge : PlainBridge, Run (ofNext next) (.initial 31000) inTurn bridge ∧ Lawful bridge := by
  obtain ⟨bridge, executed⟩ := Option.isSome_iff_exists.mp executed_inTurn
  have run := run_of_executeChecked executed
  exact ⟨bridge, run.of_restrict, lawful_of_careful_calls (run.mono fun _ _ _ step =>
    ⟨step.1, of_decide_eq_true step.2⟩)⟩

end Claim

end MolidoVpn.Windows.XrayBridge
