import MolidoVpn.Masque.Hunt

/-!
Which transport a hunt for a gateway starts on. The HTTP/2 fallback is one flag of the
process; it is cleared where HTTP/2 finds nothing, and stays where HTTP/2 connects.
-/

namespace MolidoVpn.Masque.Hunt

open Transition (Run ofNext Restrict execute run_of_execute)

/-- Every hunt has started on HTTP/3. -/
def OnH3 (records : List Record) : Prop := ∀ h2, Record.huntStarted h2 ∈ records → h2 = false

/-- A gateway was connected to while the fallback was on. -/
def Won (records : List Record) : Prop := ∃ peer, Record.connected peer true ∈ records

/-- No hunt starts after one that was won on the HTTP/2 fallback. -/
def huntsUnlatched (setup : Setup) (state : State) (label : Label) : Bool :=
  !startsHunt setup state label || state.records.all fun record =>
    match record with
    | .connected _ fallback => !fallback
    | _ => true

def Pass.isH2 : Pass → Bool
  | .h3 | .h3Again => false
  | .h2 | .h2Again => true

/-- What the phase says about the flag. -/
def Latch (fallback : Bool) (won : Prop) : Phase → Prop
  | .dial pass _ _ => fallback = pass.isH2 ∧ ¬ won
  | .passed pass _ => fallback = pass.isH2 ∧ ¬ won
  | .refresh again _ => fallback = again.isH2 ∧ ¬ won
  | .scanH2 => fallback = true ∧ ¬ won
  | .choose | .retry _ | .scan | .tunnel _ => fallback = true ↔ won
  | .failed _ => True

def Latched (state : State) : Prop := Latch state.fallback (Won state.records) state.phase

theorem won_append_iff {records added : List Record} :
    Won (records ++ added) ↔ Won records ∨ Won added := by
  constructor
  · rintro ⟨peer, member⟩
    rcases List.mem_append.mp member with old | new
    · exact Or.inl ⟨peer, old⟩
    · exact Or.inr ⟨peer, new⟩
  · rintro (⟨peer, old⟩ | ⟨peer, new⟩)
    · exact ⟨peer, List.mem_append_left _ old⟩
    · exact ⟨peer, List.mem_append_right _ new⟩

/-- A record of anything but a connection on the fallback. -/
private theorem won_snoc_of_silent {records : List Record} {record : Record}
    (silent : ∀ peer, record ≠ .connected peer true) :
    Won (records ++ [record]) ↔ Won records := by
  rw [won_append_iff]
  apply or_iff_left
  rintro ⟨peer, member⟩
  exact silent peer (List.mem_singleton.mp member).symm

theorem connect_latched {state : State} (peer : SocketAddr)
    (kept : Won state.records → state.fallback = true) : Latched (state.connect peer) := by
  change state.fallback = true ↔ Won (state.records ++ [.connected peer state.fallback])
  rw [won_append_iff]
  constructor
  · intro on
    exact Or.inr ⟨peer, by rw [on]; exact List.mem_singleton_self _⟩
  · rintro (old | ⟨other, member⟩)
    · exact kept old
    · cases flag : state.fallback with
      | true => rfl
      | false =>
          rw [flag] at member
          cases List.mem_singleton.mp member

theorem look_latched {state : State} (setup : Setup)
    (latch : state.fallback = true ↔ Won state.records) : Latched (state.look setup) := by
  unfold State.look
  split
  · exact connect_latched _ latch.mpr
  · change state.fallback = true ↔ Won (state.records ++ [.huntStarted (state.enabled setup)])
    rw [won_snoc_of_silent (fun peer same => by cases same)]
    exact latch

private theorem second_latched {state : State} (setup : Setup) (rejections : Nat)
    (off : state.fallback = false) (lost : ¬ Won state.records) :
    Latched (state.second setup rejections) := by
  unfold State.second
  split
  · change state.fallback = true ↔ Won state.records
    rw [off]
    exact iff_of_false (by decide) lost
  · exact ⟨rfl, lost⟩

private theorem decide_latched {state : State} (setup : Setup) {pass : Pass}
    (outcome : PassOutcome) (flag : state.fallback = pass.isH2) (lost : ¬ Won state.records) :
    Latched (state.decide setup pass outcome) := by
  cases outcome with
  | connected peer => exact connect_latched peer (fun won => absurd won lost)
  | exhausted =>
      cases pass with
      | h3 | h3Again => exact second_latched setup 0 flag lost
      | h2 | h2Again => exact iff_of_false (fun on => by cases on) lost
  | identityRejected count =>
      cases pass with
      | h3 =>
          simp only [State.decide]
          split
          · exact ⟨flag, lost⟩
          · exact second_latched setup count flag lost
      | h3Again | h2Again => trivial
      | h2 => exact ⟨flag, lost⟩

/-- What one step preserves. -/
theorem next_latched (setup : Setup) (source : State) (label : Label) (target : State)
    (taken : ofNext (next setup) source label target) (latched : Latched source) :
    Latched target := by
  unfold Latched at latched
  unfold ofNext next at taken
  split at taken
  · rename_i pass peer rest rejections outcome phase
    rw [phase] at latched
    obtain ⟨flag, lost⟩ := latched
    have still : ¬ Won (source.records ++ [.dialled source.identity (source.enabled setup)
        (source.gateway setup peer) outcome]) := by
      rw [won_snoc_of_silent (fun peer same => by cases same)]
      exact lost
    cases outcome with
    | accepted | unreachable =>
        cases taken
        exact ⟨flag, still⟩
    | identityRejected =>
        simp only at taken
        split at taken
        · cases taken
          exact ⟨flag, still⟩
        · cases taken
          exact ⟨flag, still⟩
  · rename_i phase
    rw [phase] at latched
    cases taken
    exact latched
  · rename_i pass outcome phase
    rw [phase] at latched
    cases taken
    exact decide_latched setup outcome latched.1 latched.2
  · rename_i again count fresh phase
    rw [phase] at latched
    obtain ⟨flag, lost⟩ := latched
    cases fresh with
    | false =>
        cases taken
        trivial
    | true =>
        cases taken
        refine ⟨flag, ?_⟩
        change ¬ Won (source.records ++ [.refreshed source.identity])
        rw [won_snoc_of_silent (fun peer same => by cases same)]
        exact lost
  · rename_i phase
    rw [phase] at latched
    split at taken
    · cases taken
      exact latched
    · cases taken
      exact look_latched setup latched
  · rename_i accepted phase
    rw [phase] at latched
    cases taken
    split
    · exact connect_latched _ latched.mpr
    · exact look_latched setup latched
  · rename_i phase
    rw [phase] at latched
    split at taken
    · cases taken
      exact connect_latched _ latched.mpr
    · split at taken
      · cases taken
        exact latched
      · rename_i off
        cases taken
        refine ⟨rfl, fun won => ?_⟩
        have on := latched.mpr won
        unfold State.enabled at off
        rw [on, Bool.or_true] at off
        exact off rfl
  · rename_i phase
    rw [phase] at latched
    obtain ⟨on, lost⟩ := latched
    split at taken
    · cases taken
      exact connect_latched _ (fun _ => on)
    · cases taken
      exact iff_of_false (fun impossible => by cases impossible) lost
  · rename_i phase
    rw [phase] at latched
    cases taken
    exact latched
  · cases taken

theorem initial_latched (setup : Setup) : Latched (initial setup) := by
  have lost : ¬ Won [.huntStarted setup.asked] := by
    rintro ⟨peer, member⟩
    cases List.mem_singleton.mp member
  unfold initial Latched
  simp only
  split
  · exact iff_of_false (by decide) lost
  · exact ⟨rfl, lost⟩

private theorem huntsUnlatched_iff {setup : Setup} {state : State} {label : Label} :
    huntsUnlatched setup state label = true ↔
      (startsHunt setup state label = true → ¬ Won state.records) := by
  have lost : (state.records.all fun record =>
      match record with
      | .connected _ fallback => !fallback
      | _ => true) = true ↔ ¬ Won state.records := by
    rw [List.all_eq_true]
    constructor
    · rintro off ⟨peer, member⟩
      cases off _ member
    · intro lost record member
      cases record with
      | connected peer fallback =>
          cases fallback with
          | false => rfl
          | true => exact absurd ⟨peer, member⟩ lost
      | _ => rfl
  rw [huntsUnlatched, Bool.or_eq_true, lost]
  cases startsHunt setup state label with
  | true => exact ⟨fun either _ => either.resolve_left (by decide), fun off => Or.inr (off rfl)⟩
  | false => exact iff_of_true (Or.inl rfl) (fun impossible => by cases impossible)

theorem onH3_append_iff {records added : List Record} :
    OnH3 (records ++ added) ↔ OnH3 records ∧ OnH3 added := by
  simp only [OnH3, List.mem_append, or_imp, forall_and]

/-- A hunt starts on HTTP/2 exactly where it starts after one won on the fallback. -/
theorem next_onH3_iff {setup : Setup} (unasked : setup.asked = false) (source : State)
    (label : Label) (target : State) (taken : ofNext (next setup) source label target)
    (latched : Latched source) :
    OnH3 target.records ↔
      OnH3 source.records ∧ huntsUnlatched setup source label = true := by
  rw [huntsUnlatched_iff]
  by_cases starts : startsHunt setup source label = true
  · have flag : source.fallback = true ↔ Won source.records := by
      unfold Latched at latched
      unfold startsHunt at starts
      split at starts
      · rename_i phase
        rw [phase] at latched
        exact latched
      · rename_i phase
        rw [phase] at latched
        exact latched
      · cases starts
    have enabled : source.enabled setup = source.fallback := by
      rw [State.enabled, unasked, Bool.false_or]
    rw [next_starts taken starts, onH3_append_iff, enabled]
    apply and_congr_right
    intro _
    have one : OnH3 [.huntStarted source.fallback] ↔ source.fallback = false :=
      ⟨fun all => all _ (List.mem_singleton_self _), fun off h2 member => by
        cases List.mem_singleton.mp member
        exact off⟩
    rw [one, ← flag, Bool.not_eq_true]
    exact ⟨fun off _ => off, fun off => off starts⟩
  · obtain ⟨added, records, allowed⟩ := next_added taken
    have silent : OnH3 added := fun h2 member => absurd (allowed _ member).1 starts
    rw [records, onH3_append_iff]
    exact and_congr_right fun _ => iff_of_true silent (fun now => absurd now starts)

/-- Where the user does not ask for HTTP/2, every hunt starts on HTTP/3 exactly when none starts
after an earlier one was won on the fallback. -/
theorem hunts_on_h3_iff (setup : Setup) (unasked : setup.asked = false) {labels : List Label}
    {state : State} (run : Run (ofNext (next setup)) (initial setup) labels state) :
    OnH3 state.records ↔
      Run (Restrict (ofNext (next setup)) (fun state label => huntsUnlatched setup state label))
        (initial setup) labels state := by
  apply run.iff_restrict (fun state => OnH3 state.records) Latched (next_latched setup)
    (next_onH3_iff unasked)
  · intro h2 member
    cases List.mem_singleton.mp member
    exact unasked
  · exact initial_latched setup

/-- The only gateway there is accepts over HTTP/2, and is gone when the tunnel has ended. -/
def blockedThenLost : List Label :=
  [.dialled .unreachable, .passEnds, .passDecided, .dialled .accepted, .passDecided, .tunnelEnded,
    .chosen, .retried false]

theorem hunts_on_h3_after_tunnel :
    ∃ state, state.records = [.huntStarted false, .dialled 0 false gatewayOne .accepted,
        .connected gatewayOne false, .huntStarted false] ∧
      (OnH3 state.records ↔
        Run (Restrict (ofNext (next (firstStart [gatewayOne])))
            (fun state label => huntsUnlatched (firstStart [gatewayOne]) state label))
          (initial (firstStart [gatewayOne]))
          [.dialled .accepted, .passDecided, .tunnelEnded, .chosen, .retried false] state) := by
  have executed : (execute (next (firstStart [gatewayOne])) (initial (firstStart [gatewayOne]))
      [.dialled .accepted, .passDecided, .tunnelEnded, .chosen, .retried false]).map
        State.records =
      some [.huntStarted false, .dialled 0 false gatewayOne .accepted,
        .connected gatewayOne false, .huntStarted false] := by
    rfl
  obtain ⟨state, reached, records⟩ := Option.map_eq_some_iff.mp executed
  exact ⟨state, records, hunts_on_h3_iff _ rfl (run_of_execute reached)⟩

theorem hunt_on_h2_after_tunnel :
    ¬ ∀ (setup : Setup), setup.asked = false → ∀ (labels : List Label) (state : State),
      Run (ofNext (next setup)) (initial setup) labels state → OnH3 state.records := by
  intro always
  have executed : (execute (next (firstStart [gatewayOne])) (initial (firstStart [gatewayOne]))
      blockedThenLost).map State.records =
      some [.huntStarted false, .dialled 0 false gatewayOne .unreachable,
        .dialled 0 true gatewayOne .accepted, .connected gatewayOne true, .huntStarted true] := by
    rfl
  obtain ⟨state, reached, records⟩ := Option.map_eq_some_iff.mp executed
  have on := always _ rfl _ state (run_of_execute reached) true
  rw [records] at on
  exact absurd (on (by decide)) (by decide)

end MolidoVpn.Masque.Hunt
