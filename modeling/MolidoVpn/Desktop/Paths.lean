import MolidoVpn.Desktop.Stretches

/-!
The paths of `_connect`: what is known of a stretch at the end of each of the functions that it
is made of. Every one of them is called in a stretch that has found `_cancel` unset since the
last await, or that cannot have been cancelled at all.
-/

namespace MolidoVpn.Desktop

open Cooperative

namespace Attempt

variable {run : Nat} (a : Attempt)

theorem spec_checkCancel :
    Spec run .uncancelled checkCancel (fun _ => .always) .uncancelled := by
  apply spec_cancel
  · intro c set
    rw [if_pos set]
    exact spec_throw (Nat.le_refl _)
  · intro c unset
    rw [if_neg unset]
    exact spec_pure (Nat.le_refl _)

theorem spec_exitIsIran (via : Via) (server : Server) :
    Spec a.run via.exposure (a.exitIsIran via server) (fun _ => via.exposure) via.exposure := by
  apply spec_look
  intro proxy
  apply spec_look
  intro check
  apply spec_ite
  · intro _
    apply (a.spec_at (.exitTrace via)).bind _ (Nat.le_refl _)
    intro loc
    apply spec_ite
    · exact fun _ => spec_pure (Nat.le_refl _)
    · intro _
      apply spec_ite
      · intro _
        apply (a.spec_at (.exitPrefs via)).bind _ (Nat.le_refl _)
        intro _
        apply (a.spec_at (.exitStored via)).bind _ (Nat.le_refl _)
        intro _
        exact spec_pure (Nat.le_refl _)
      · exact fun _ => spec_pure (Nat.le_refl _)
  · exact fun _ => spec_pure (Nat.le_refl _)

/-- `exitOk` is not awaited on the path to a server that the user has picked. -/
theorem exposure_of_ne_only {via : Via} (other : via ≠ .only) :
    Exposure.uncancelled.rank ≤ via.exposure.rank := by
  cases via with
  | only => exact absurd rfl other
  | _ => decide

def exitResult (via : Via) (value : Bool × Option Server) : Exposure :=
  if value.1 then via.exposure else .uncancelled

theorem exitOkReturns_exposure (via : Via) (value : Bool × Option Server) :
    (Place.exitOkReturns via value.1).exposure = exitResult via value := by
  obtain ⟨good, _⟩ := value
  cases good <;> rfl

theorem spec_exitOk (via : Via) (other : via ≠ .only) (server : Server)
    (irFallback : Option Server) :
    Spec a.run via.exposure (a.exitOk via server irFallback) (exitResult via) .uncancelled := by
  have armed := exposure_of_ne_only other
  apply spec_ite
  · intro _
    apply spec_look
    intro proxy
    apply (a.spec_at (.exitTrace via)).orPure.bind _ armed
    intro loc
    apply spec_ite
    · exact fun _ => spec_pure (Nat.le_refl _)
    · intro _
      apply ((a.spec_at (.exitDisconnect via)).weaken armed (fun _ => Nat.le_refl _)
        (Nat.le_refl _)).bind _ (Nat.le_refl _)
      exact fun _ => spec_pure (Nat.le_refl _)
  · intro _
    apply (a.spec_calls (a.spec_exitIsIran via server) (fun _ => Nat.le_refl _)
      (fun _ => Nat.le_refl _) (fun _ => armed)).bind _ (Nat.le_refl _)
    intro iran
    apply spec_ite
    · exact fun _ => spec_pure (Nat.le_refl _)
    · intro _
      apply spec_ite
      · intro _
        apply spec_keep_then (by intro _; rfl) (by intro _; exact id) (by intro _; rfl)
        exact spec_pure (Nat.le_refl _)
      · intro _
        apply ((a.spec_at (.exitDisconnect via)).weaken armed (fun _ => Nat.le_refl _)
          (Nat.le_refl _)).bind _ (Nat.le_refl _)
        exact fun _ => spec_pure (Nat.le_refl _)

theorem spec_awaitExitOk (via : Via) (other : via ≠ .only) (server : Server)
    (irFallback : Option Server) :
    Spec a.run via.exposure (a.awaitExitOk via server irFallback) (exitResult via)
      .uncancelled := by
  have known : (fun value : Bool × Option Server => (Place.exitOkReturns via value.1).exposure) =
      exitResult via := funext (exitOkReturns_exposure via)
  rw [← known]
  apply a.spec_calls (a.spec_exitOk via other server irFallback)
  · intro value
    exact Nat.le_of_eq (congrArg Exposure.rank (exitOkReturns_exposure via value))
  · exact fun _ => Nat.le_refl _
  · exact fun _ => Nat.le_refl _

theorem spec_andExitOk (via : Via) (other : via ≠ .only) (connected : Bool) (server : Server)
    (irFallback : Option Server) :
    Spec a.run via.exposure (a.andExitOk connected via server irFallback) (exitResult via)
      .uncancelled := by
  apply spec_ite
  · exact fun _ => a.spec_awaitExitOk via other server irFallback
  · exact fun _ => spec_pure (exposure_of_ne_only other)

theorem spec_engineConnect (via : Via) :
    Spec a.run .uncancelled (a.engineConnect via) (fun _ => .uncancelled) .uncancelled := by
  apply (a.spec_at (.engineConnect via)).bind _ (Nat.le_refl _)
  exact fun _ => spec_pure (Nat.le_refl _)

theorem spec_directConnect (via : Via) (server : Server) :
    Spec a.run .uncancelled (a.directConnect via server) (fun _ => .uncancelled)
      .uncancelled := by
  apply spec_ite
  · exact fun _ => a.spec_engineConnect via
  · intro _
    apply (a.spec_at (.engineConnect via)).bind _ (Nat.le_refl _)
    intro answer
    cases answer with
    | some ok => exact spec_pure (Nat.le_refl _)
    | none =>
        apply (a.spec_at (.budgetDisconnect via)).bind _ (Nat.le_refl _)
        exact fun _ => spec_pure (Nat.le_refl _)

theorem spec_awaitDirectConnect (via : Via) (server : Server) :
    Spec a.run .uncancelled (a.awaitDirectConnect via server) (fun _ => .uncancelled)
      .uncancelled :=
  a.spec_calls (a.spec_directConnect via server) (fun _ => Nat.le_refl _)
    (fun _ => Nat.le_refl _) (fun _ => Nat.le_refl _)

/-- A path that says whether it has connected: it has then set the state itself, and otherwise
somebody has still to look at `_cancel`. -/
def pathResult (connected : Bool) : Exposure :=
  if connected then .never else .uncancelled

theorem spec_useIrFallback (irFallback : Option Server) :
    Spec a.run .uncancelled (a.useIrFallback irFallback) pathResult .uncancelled := by
  cases irFallback with
  | none => exact spec_pure (Nat.le_refl _)
  | some server =>
      apply spec_checkCancel.bind _ (Nat.le_refl _)
      intro _
      apply (a.spec_engineConnect .fallback).free.bind _ (Nat.le_refl _)
      intro connected
      apply spec_ite
      · intro _
        apply spec_checkCancel.bind _ (Nat.le_refl _)
        intro _
        apply spec_update_then (by intro _; rfl)
        apply spec_update_then (by intro _; rfl)
        exact spec_pure (by decide)
      · exact fun _ => spec_pure (Nat.le_refl _)

theorem spec_amneziaConfig :
    Spec a.run .uncancelled a.amneziaConfig (fun _ => .uncancelled) .uncancelled := by
  apply spec_look
  intro imported
  apply spec_ite
  · exact fun _ => spec_pure (Nat.le_refl _)
  · intro _
    apply spec_look
    intro account
    apply (a.spec_at .ensureWarp).pureOr.bind _ (Nat.le_refl _)
    intro registered
    apply spec_ite
    · exact fun _ => spec_pure (Nat.le_refl _)
    · exact fun _ => spec_look fun _ => spec_pure (Nat.le_refl _)

theorem spec_amnezia (use : AmneziaUse) (auto allowIranExit : Bool) :
    Spec a.run .uncancelled (a.amnezia use auto allowIranExit) pathResult .uncancelled := by
  apply a.spec_amneziaConfig.bind _ (Nat.le_refl _)
  intro config
  apply spec_ite
  · exact fun _ => spec_pure (Nat.le_refl _)
  · intro _
    apply (a.spec_at (.connectAmnezia use)).bind _ (Nat.le_refl _)
    intro working
    apply spec_cancel
    · intro c set
      rw [if_pos (Or.inr set)]
      exact spec_pure (Nat.le_refl _)
    · intro c unset
      apply spec_ite
      · exact fun _ => spec_pure (by decide)
      · intro _
        apply spec_look
        intro check
        apply spec_look
        intro exitCountry
        apply spec_ite
        · intro _
          apply (a.spec_at (.amneziaDisconnect use)).free.bind _ (Nat.le_refl _)
          exact fun _ => spec_pure (Nat.le_refl _)
        · intro _
          apply spec_look
          intro endpoint
          apply (a.spec_at (.amneziaUpdate use)).orPure.bind _ (by exact Nat.le_succ 1)
          intro _
          apply spec_update_then (by intro _; rfl)
          apply spec_update_then (by intro _; rfl)
          exact spec_pure (by decide)

theorem pathResult_returns (place : Bool → Place) (yes : (place true).exposure = .never)
    (no : (place false).exposure = .uncancelled) (connected : Bool) :
    (place connected).exposure = pathResult connected := by
  cases connected with
  | true => exact yes
  | false => exact no

/-- An awaited path of which the place where it returns says whether it has connected. -/
theorem spec_path {α : Type} {code : Code α} (place : Bool → Place) (value : α → Bool)
    (yes : (place true).exposure = .never) (no : (place false).exposure = .uncancelled)
    (spec : Spec a.run .uncancelled code (fun result => pathResult (value result))
      .uncancelled) :
    Spec a.run .uncancelled
      (a.calls (fun outcome => place (returned (outcome.map value))) code)
      (fun result => pathResult (value result)) .uncancelled := by
  have known := pathResult_returns place yes no
  have results : (fun result => (place (value result)).exposure) =
      fun result => pathResult (value result) := funext fun result => known (value result)
  rw [← results]
  apply a.spec_calls spec
  · intro result
    exact Nat.le_of_eq (congrArg Exposure.rank (known (value result)))
  · intro error
    exact Nat.le_of_eq (congrArg Exposure.rank no)
  · intro error
    exact Nat.le_of_eq (congrArg Exposure.rank no).symm

theorem map_id_returned (outcome : Except Thrown Bool) :
    returned (outcome.map id) = returned outcome := by
  cases outcome <;> rfl

theorem spec_awaitAmnezia (use : AmneziaUse) (auto allowIranExit : Bool) :
    Spec a.run .uncancelled (a.awaitAmnezia use auto allowIranExit) pathResult
      .uncancelled := by
  have path := a.spec_path (.amneziaReturns use) id rfl rfl
    (a.spec_amnezia use auto allowIranExit)
  simp only [map_id_returned] at path
  exact path

theorem spec_amneziaAuto (options : EngineOptions) (use : AmneziaUse) (allowIranExit : Bool) :
    Spec a.run .uncancelled (a.amneziaAuto options use allowIranExit) pathResult
      .uncancelled := by
  apply spec_look
  intro transport
  apply spec_cancel
  · intro c set
    rw [if_pos (Or.inr set)]
    exact spec_pure (Nat.le_refl _)
  · intro c unset
    apply spec_ite
    · exact fun _ => spec_pure (Nat.le_succ 1)
    · intro _
      apply spec_look
      intro admin
      apply spec_look
      intro blocked
      apply spec_ite
      · exact fun _ => spec_pure (Nat.le_succ 1)
      · intro _
        apply (a.spec_awaitAmnezia use true allowIranExit).free.tryCatch
        exact fun _ => spec_pure (Nat.le_refl _)

theorem spec_awaitAmneziaAuto (options : EngineOptions) (use : AmneziaUse)
    (allowIranExit : Bool) :
    Spec a.run .uncancelled (a.awaitAmneziaAuto options use allowIranExit) pathResult
      .uncancelled := by
  have path := a.spec_path (.amneziaAutoReturns use) id rfl rfl
    (a.spec_amneziaAuto options use allowIranExit)
  simp only [map_id_returned] at path
  exact path

theorem spec_wireGuardLoop (servers : List Server) :
    Spec a.run .uncancelled (a.wireGuardLoop servers) pathResult .uncancelled := by
  induction servers with
  | nil => exact spec_pure (Nat.le_refl _)
  | cons server rest ih =>
      apply spec_checkCancel.bind _ (Nat.le_refl _)
      intro _
      apply (a.spec_engineConnect .wireGuard).free.bind _ (Nat.le_refl _)
      intro connected
      apply spec_ite
      · intro _
        apply spec_checkCancel.bind _ (Nat.le_refl _)
        intro _
        apply spec_update_then (by intro _; rfl)
        apply spec_update_then (by intro _; rfl)
        exact spec_pure (by decide)
      · exact fun _ => ih

theorem spec_registeredWireGuard :
    Spec a.run .uncancelled a.registeredWireGuard pathResult .uncancelled := by
  apply spec_look
  intro missing
  apply (a.spec_at .ensureWarp).orPure.bind _ (Nat.le_refl _)
  intro identity
  apply spec_ite
  · exact fun _ => spec_pure (Nat.le_refl _)
  · exact fun _ => spec_look fun servers => a.spec_wireGuardLoop servers

theorem spec_warpDirectAuto :
    Spec a.run .uncancelled a.warpDirectAuto pathResult .uncancelled := by
  apply spec_look
  intro transport
  apply spec_cancel
  · intro c set
    rw [if_pos (Or.inr set)]
    exact spec_pure (Nat.le_refl _)
  · intro c unset
    apply spec_ite
    · exact fun _ => spec_pure (Nat.le_succ 1)
    · intro _
      apply a.spec_registeredWireGuard.free.tryCatch
      exact fun _ => spec_pure (Nat.le_refl _)

theorem spec_lastResorts (options : EngineOptions) (irFallback : Option Server) :
    Spec a.run .uncancelled (a.lastResorts options irFallback) (fun _ => .never)
      .uncancelled := by
  apply spec_ite
  · exact fun _ => spec_throw (Nat.le_refl _)
  · intro _
    apply (a.spec_awaitAmneziaAuto options .auto false).bind _ (Nat.le_refl _)
    intro connected
    apply spec_ite
    · exact fun _ => spec_pure (Nat.zero_le _)
    · intro failed
      rw [eq_false_of_ne_true failed]
      apply spec_checkCancel.bind _ (Nat.le_refl _)
      intro _
      have fallback := a.spec_path .fallbackReturns id rfl rfl
        (a.spec_useIrFallback irFallback)
      simp only [map_id_returned] at fallback
      apply fallback.free.bind _ (Nat.le_refl _)
      intro connected
      apply spec_ite
      · exact fun _ => spec_pure (Nat.zero_le _)
      · intro failed
        rw [eq_false_of_ne_true failed]
        apply (a.spec_awaitAmneziaAuto options .lastResort true).bind _ (Nat.le_refl _)
        intro connected
        apply spec_ite
        · exact fun _ => spec_pure (Nat.zero_le _)
        · intro failed
          rw [eq_false_of_ne_true failed]
          apply spec_checkCancel.bind _ (Nat.le_refl _)
          intro _
          have wireGuard := a.spec_path .wireGuardReturns id rfl rfl
            a.spec_warpDirectAuto
          simp only [map_id_returned] at wireGuard
          apply wireGuard.free.bind _ (Nat.le_refl _)
          intro connected
          apply spec_ite
          · exact fun _ => spec_pure (Nat.zero_le _)
          · intro failed
            rw [eq_false_of_ne_true failed]
            exact spec_throw (Nat.le_refl _)

theorem spec_adminAsUserError {result : Bool → Exposure} (error : Thrown) :
    Spec run .uncancelled (adminAsUserError error) result .uncancelled :=
  spec_throw (Nat.le_refl _)

theorem spec_dnsOnly : Spec a.run .uncancelled a.dnsOnly (fun _ => .never) .uncancelled := by
  apply ((a.spec_at .connectDnsOnly).tryCatch spec_adminAsUserError).bind _ (Nat.le_refl _)
  intro up
  apply spec_ite
  · intro _
    apply spec_checkCancel.bind _ (Nat.le_refl _)
    exact fun _ => spec_throw (by decide)
  · intro _
    apply spec_checkCancel.bind _ (Nat.le_refl _)
    intro _
    exact (spec_update (by intro _; rfl)).weaken (Nat.le_refl _) (fun _ => Nat.zero_le _)
      (Nat.le_refl _)

theorem spec_chosenAmnezia :
    Spec a.run .uncancelled a.chosenAmnezia (fun _ => .never) .uncancelled := by
  apply ((a.spec_awaitAmnezia .chosen false false).tryCatch spec_adminAsUserError).bind _
    (Nat.le_refl _)
  intro up
  apply spec_ite
  · exact fun _ => spec_pure (Nat.zero_le _)
  · intro failed
    rw [eq_false_of_ne_true failed]
    apply spec_checkCancel.bind _ (Nat.le_refl _)
    exact fun _ => spec_throw (by decide)

theorem spec_rememberWinner :
    Spec a.run .never a.rememberWinner (fun _ => .never) .never :=
  a.spec_at .rememberWinner

theorem spec_connectOnly (server : Server) :
    Spec a.run .uncancelled (a.connectOnly server) (fun _ => .never) .never := by
  apply (a.spec_engineConnect .only).bind _ (Nat.zero_le _)
  intro connected
  apply spec_ite
  · intro _
    apply spec_checkCancel.bind _ (Nat.zero_le _)
    intro _
    apply spec_update_then (by intro _; rfl)
    have iran : Spec a.run .always
        (a.calls (fun _ => .exitIsIranReturns .only) (a.exitIsIran .only server))
        (fun _ => .never) .never :=
      a.spec_calls ((a.spec_exitIsIran .only server).weaken (by decide) (fun _ => Nat.le_refl _)
        (Nat.le_refl _)) (fun _ => Nat.le_refl _) (fun _ => Nat.le_refl _)
        (fun _ => Nat.le_refl _)
    apply iran.bind _ (Nat.le_refl _)
    intro _
    apply spec_keep_then (by intro _; rfl) (by intro _; exact id) (by intro _; rfl)
    exact a.spec_rememberWinner
  · exact fun _ => spec_throw (Nat.zero_le _)

theorem spec_warpOptions (options : EngineOptions) :
    Spec a.run .uncancelled (a.warpOptions options) (fun _ => .uncancelled) .uncancelled := by
  apply spec_look
  intro setting
  apply spec_ite
  · intro _
    apply (a.spec_at .ensureWarp).bind _ (Nat.le_refl _)
    intro registered
    apply spec_ite
    · exact fun _ => spec_look fun _ => spec_pure (Nat.le_refl _)
    · exact fun _ => spec_pure (Nat.le_refl _)
  · exact fun _ => spec_pure (Nat.le_refl _)

theorem spec_serverPool :
    Spec a.run .uncancelled a.serverPool (fun _ => .uncancelled) .uncancelled := by
  unfold serverPool
  cases a.only with
  | some server => exact spec_pure (Nat.le_refl _)
  | none =>
      apply (a.spec_at .candidates).bind _ (Nat.le_refl _)
      intro candidates
      apply spec_ite
      · exact fun _ => spec_pure (Nat.le_refl _)
      · exact fun _ => spec_look fun _ => spec_pure (Nat.le_refl _)

theorem spec_registeredPool (pool : List Server) :
    Spec a.run .uncancelled (a.registeredPool pool) (fun _ => .uncancelled) .uncancelled := by
  apply spec_look
  intro missing
  apply spec_ite
  · intro _
    apply (a.spec_at .ensureWarp).bind _ (Nat.le_refl _)
    intro registered
    apply spec_ite
    · exact fun _ => spec_pure (Nat.le_refl _)
    · exact fun _ => spec_pure (Nat.le_refl _)
  · exact fun _ => spec_pure (Nat.le_refl _)

theorem spec_gatherPool (options : EngineOptions) :
    Spec a.run .uncancelled (a.gatherPool options) (fun _ => .uncancelled) .uncancelled := by
  apply spec_look
  intro empty
  apply (a.spec_at .refresh).orPure.bind _ (Nat.le_refl _)
  intro _
  apply (a.spec_warpOptions options).bind _ (Nat.le_refl _)
  intro options
  apply a.spec_serverPool.bind _ (Nat.le_refl _)
  intro pool
  apply spec_ite
  · exact fun _ => spec_throw (Nat.le_refl _)
  · intro _
    apply (a.spec_registeredPool pool).bind _ (Nat.le_refl _)
    intro pool
    apply spec_ite
    · exact fun _ => spec_throw (Nat.le_refl _)
    · intro _
      apply spec_look
      intro transport
      apply spec_look
      intro blocked
      apply spec_ite
      · exact fun _ => spec_pure (Nat.le_refl _)
      · exact fun _ => spec_pure (Nat.le_refl _)

theorem spec_quickProbe (tried : List Server) :
    Spec a.run .uncancelled (a.quickProbe tried) (fun _ => .uncancelled) .uncancelled := by
  apply spec_ite
  · exact fun _ => spec_pure (Nat.le_refl _)
  · intro _
    have probed : Spec a.run .uncancelled
        (a.at_ .quickProbe >>= fun times => pure (quickProbeOrder tried times))
        (fun _ => .uncancelled) .uncancelled :=
      (a.spec_at .quickProbe).bind (fun _ => spec_pure (Nat.le_refl _)) (Nat.le_refl _)
    exact probed.tryCatch fun _ => spec_pure (Nat.le_refl _)

theorem spec_directLoop (servers : List Server) (irFallback : Option Server) :
    Spec a.run .uncancelled (a.directLoop servers irFallback) (fun r => pathResult r.1)
      .never := by
  induction servers generalizing irFallback with
  | nil => exact spec_pure (Nat.le_refl _)
  | cons server rest ih =>
      apply spec_checkCancel.bind _ (Nat.zero_le _)
      intro _
      apply (a.spec_awaitDirectConnect .direct server).free.bind _ (Nat.zero_le _)
      intro directOk
      apply (a.spec_andExitOk .direct (by decide) directOk server irFallback).bind _ (Nat.zero_le _)
      rintro ⟨good, irFallback⟩
      apply spec_ite
      · intro yes
        subst yes
        apply spec_checkCancel.bind _ (Nat.zero_le _)
        intro _
        apply spec_update_then (by intro _; rfl)
        apply (a.spec_rememberWinner.weaken (Nat.zero_le _) (fun _ => Nat.le_refl _)
          (Nat.le_refl _)).bind _ (Nat.le_refl _)
        exact fun _ => spec_pure (Nat.le_refl _)
      · intro no
        rw [eq_false_of_ne_true no]
        exact ih irFallback

theorem spec_rankedLoop (servers : List Server) (irFallback : Option Server) :
    Spec a.run .uncancelled (a.rankedLoop servers irFallback) (fun r => pathResult r.1)
      .never := by
  induction servers generalizing irFallback with
  | nil => exact spec_pure (Nat.le_refl _)
  | cons server rest ih =>
      apply spec_checkCancel.bind _ (Nat.zero_le _)
      intro _
      apply (a.spec_engineConnect .ranked).free.bind _ (Nat.zero_le _)
      intro connected
      apply spec_ite
      · exact fun _ => ih irFallback
      · intro _
        apply spec_cancel
        · intro c set
          rw [if_pos set]
          apply (a.spec_at (.cancelDisconnect .ranked)).bind _ (Nat.zero_le _)
          exact fun _ => spec_throw (Nat.zero_le _)
        · intro c unset
          rw [if_neg unset]
          apply (a.spec_awaitExitOk .ranked (by decide) server irFallback).bind _ (Nat.zero_le _)
          rintro ⟨good, irFallback⟩
          apply spec_ite
          · intro no
            cases good with
            | true => exact absurd no (by decide)
            | false => exact ih irFallback
          · intro yes
            cases good with
            | false => exact absurd rfl yes
            | true =>
                apply spec_update_then (by intro _; rfl)
                apply (a.spec_rememberWinner.weaken (Nat.zero_le _) (fun _ => Nat.le_refl _)
                  (Nat.le_refl _)).bind _ (Nat.le_refl _)
                exact fun _ => spec_pure (Nat.le_refl _)

theorem spec_serversInOrder (options : EngineOptions) (pool : List Server)
    (irFallback : Option Server) :
    Spec a.run .uncancelled (a.serversInOrder options pool irFallback) (fun _ => .never)
      .never := by
  have probed : Spec a.run .uncancelled
      (a.calls (fun _ => .quickProbeReturns) (a.quickProbe (pool.take 6)))
      (fun _ => .uncancelled) .uncancelled :=
    a.spec_calls (a.spec_quickProbe _) (fun _ => Nat.le_refl _) (fun _ => Nat.le_refl _)
      (fun _ => Nat.le_refl _)
  have lastResorts (irFallback : Option Server) :
      Spec a.run .uncancelled (a.lastResorts options irFallback) (fun _ => .never) .never :=
    (a.spec_lastResorts options irFallback).weaken (Nat.le_refl _) (fun _ => Nat.le_refl _)
      (Nat.zero_le _)
  apply probed.bind _ (Nat.zero_le _)
  intro tried
  apply (a.spec_directLoop tried irFallback).bind _ (Nat.le_refl _)
  rintro ⟨connected, irFallback⟩
  apply spec_ite
  · exact fun _ => spec_pure (Nat.zero_le _)
  · intro failed
    rw [eq_false_of_ne_true failed]
    apply spec_ite
    · exact fun _ => lastResorts irFallback
    · intro _
      apply (a.spec_at .pingAll).bind _ (Nat.zero_le _)
      intro measured
      apply spec_checkCancel.bind _ (Nat.zero_le _)
      intro _
      apply spec_look
      intro responded
      apply (a.spec_rankedLoop _ irFallback).free.bind _ (Nat.le_refl _)
      rintro ⟨connected, irFallback⟩
      apply spec_ite
      · exact fun _ => spec_pure (Nat.zero_le _)
      · intro failed
        rw [eq_false_of_ne_true failed]
        exact lastResorts irFallback

theorem spec_fastPath (pool : List Server) :
    Spec a.run .uncancelled (a.fastPath pool) (fun r => pathResult r.1) .uncancelled := by
  apply (a.spec_at .lastWinner).bind _ (Nat.le_refl _)
  intro last
  cases pool with
  | nil => exact spec_pure (Nat.le_refl _)
  | cons server rest =>
      apply spec_ite
      · intro _
        apply (a.spec_awaitDirectConnect .fast server).bind _ (Nat.le_refl _)
        intro fastOk
        apply (a.spec_andExitOk .fast (by decide) fastOk server none).bind _ (Nat.le_refl _)
        rintro ⟨good, irFallback⟩
        apply spec_ite
        · intro yes
          subst yes
          apply spec_checkCancel.bind _ (Nat.le_refl _)
          intro _
          apply spec_update_then (by intro _; rfl)
          exact spec_pure (Nat.zero_le _)
        · intro no
          rw [eq_false_of_ne_true no]
          apply spec_checkCancel.bind _ (Nat.le_refl _)
          exact fun _ => spec_pure (Nat.le_succ 1)
      · exact fun _ => spec_pure (Nat.le_refl _)

theorem spec_probe (empty : Bool) :
    Spec a.run .uncancelled (a.probe empty) (fun _ => .uncancelled) .uncancelled := by
  have probing : Spec a.run .uncancelled
      (if empty then pure () else Program.tryCatch (a.at_ .probeAll) fun _ => pure ())
      (fun _ => .uncancelled) .uncancelled :=
    Spec.pureOr ((a.spec_at .probeAll).tryCatch fun _ => spec_pure (Nat.le_refl _))
  exact a.spec_calls probing (fun _ => Nat.le_refl _) (fun _ => Nat.le_refl _)
    (fun _ => Nat.le_refl _)

theorem spec_stabilityRounds (plainEmpty fragmentEmpty : Bool) (rounds : Nat) :
    Spec a.run .uncancelled (a.stabilityRounds plainEmpty fragmentEmpty rounds)
      (fun _ => .uncancelled) .uncancelled := by
  induction rounds with
  | zero => exact spec_pure (Nat.le_refl _)
  | succ rounds ih =>
      apply (a.spec_probe plainEmpty).bind _ (Nat.le_refl _)
      intro _
      apply (a.spec_probe fragmentEmpty).bind _ (Nat.le_refl _)
      intro _
      apply spec_checkCancel.bind _ (Nat.le_refl _)
      exact fun _ => ih.free

theorem spec_measureConnection :
    Spec a.run .always a.measureConnection (fun _ => .always) .always := by
  have measuring : Spec a.run .always
      (read >>= fun c =>
        if c.state ≠ .connected then pure ()
        else a.at_ .measureHealth >>= fun _ => pure ())
      (fun _ => .always) .always :=
    spec_read fun c => Spec.pureOr
      ((a.spec_at .measureHealth).bind (fun _ => spec_pure (Nat.le_refl _)) (Nat.le_refl _))
  exact a.spec_calls measuring (fun _ => Nat.le_refl _) (fun _ => Nat.le_refl _)
    (fun _ => Nat.le_refl _)

theorem spec_smartLoop (anyResponded : Bool) (candidates : List SmartCandidate)
    (cheapTried failedTried : Nat) (irFallback : Option Server) :
    Spec a.run .uncancelled
      (a.smartLoop anyResponded candidates cheapTried failedTried irFallback)
      (fun r => pathResult r.1) .never := by
  induction candidates generalizing cheapTried failedTried irFallback with
  | nil => exact spec_pure (Nat.le_refl _)
  | cons c rest ih =>
      apply spec_checkCancel.bind _ (Nat.zero_le _)
      intro _
      apply spec_ite
      · exact fun _ => (ih _ _ irFallback).free
      · intro _
        have connecting : Spec a.run .uncancelled
            (if c.cheap then a.awaitDirectConnect .smart c.server else a.engineConnect .smart)
            (fun _ => .uncancelled) .uncancelled :=
          spec_ite (fun _ => a.spec_awaitDirectConnect .smart c.server)
            fun _ => a.spec_engineConnect .smart
        apply connecting.free.bind _ (Nat.zero_le _)
        intro connected
        apply spec_ite
        · exact fun _ => ih _ _ irFallback
        · intro _
          apply spec_cancel
          · intro state set
            rw [if_pos set]
            apply (a.spec_at (.cancelDisconnect .smart)).bind _ (Nat.zero_le _)
            exact fun _ => spec_throw (Nat.zero_le _)
          · intro state unset
            rw [if_neg unset]
            apply (a.spec_awaitExitOk .smart (by decide) c.server irFallback).bind _
              (Nat.zero_le _)
            rintro ⟨good, irFallback⟩
            apply spec_ite
            · intro no
              cases good with
              | true => exact absurd no (by decide)
              | false => exact ih _ _ irFallback
            · intro yes
              cases good with
              | false => exact absurd rfl yes
              | true =>
                  apply a.spec_measureConnection.orPure.bind _ (Nat.zero_le _)
                  intro _
                  apply spec_update_then (by intro _; rfl)
                  apply (a.spec_rememberWinner.weaken (Nat.zero_le _) (fun _ => Nat.le_refl _)
                    (Nat.le_refl _)).bind _ (Nat.le_refl _)
                  exact fun _ => spec_pure (Nat.le_refl _)

theorem spec_fragmentRace :
    Spec a.run .uncancelled a.fragmentRace (fun _ => .uncancelled) .uncancelled := by
  apply spec_look
  intro targets
  apply spec_ite
  · intro _
    apply (a.spec_probe false).bind _ (Nat.le_refl _)
    intro _
    exact spec_checkCancel.weaken (Nat.le_refl _) (fun _ => Nat.le_succ 1) (Nat.le_refl _)
  · exact fun _ => spec_pure (Nat.le_refl _)

theorem spec_smartConnect :
    Spec a.run .uncancelled a.smartConnect (fun r => pathResult r.1) .never := by
  apply (a.spec_at .networkKey).bind _ (Nat.zero_le _)
  intro _
  apply (a.spec_at .smartPrefs).bind _ (Nat.zero_le _)
  intro _
  apply spec_look
  intro cheapEmpty
  apply (a.spec_probe cheapEmpty).bind _ (Nat.zero_le _)
  intro _
  apply spec_checkCancel.bind _ (Nat.zero_le _)
  intro _
  apply a.spec_fragmentRace.free.bind _ (Nat.zero_le _)
  intro _
  apply spec_look
  intro plainEmpty
  apply spec_look
  intro fragmentEmpty
  apply spec_look
  intro rounds
  apply (a.spec_stabilityRounds plainEmpty fragmentEmpty _).bind _ (Nat.zero_le _)
  intro _
  apply spec_look
  intro ranked
  exact a.spec_smartLoop _ ranked 0 0 none

theorem spec_awaitSmartConnect :
    Spec a.run .uncancelled
      (a.calls (fun outcome => .smartReturns (isOver outcome)) a.smartConnect)
      (fun r => pathResult r.1) .never := by
  have known := pathResult_returns .smartReturns rfl rfl
  have results : (fun r : Bool × Option Server =>
      (Place.smartReturns (isOver (.ok r))).exposure) = fun r => pathResult r.1 :=
    funext fun r => known r.1
  rw [← results]
  apply a.spec_calls a.spec_smartConnect
  · intro r
    exact Nat.le_of_eq (congrArg Exposure.rank (known r.1))
  · exact fun _ => Nat.le_refl _
  · exact fun _ => Nat.le_refl _

theorem spec_routes (options : EngineOptions) :
    Spec a.run .uncancelled (a.routes options) (fun _ => .never) .never := by
  apply spec_look
  intro transport
  apply spec_ite
  · exact fun _ => a.spec_dnsOnly.weaken (Nat.le_refl _) (fun _ => Nat.le_refl _) (Nat.zero_le _)
  · intro _
    apply spec_look
    intro transport
    apply spec_ite
    · exact fun _ => a.spec_chosenAmnezia.weaken (Nat.le_refl _) (fun _ => Nat.le_refl _)
        (Nat.zero_le _)
    · intro _
      apply (a.spec_gatherPool options).bind _ (Nat.zero_le _)
      rintro ⟨options, pool⟩
      apply spec_look
      intro transport
      apply spec_look
      intro smart
      have fast : Spec a.run .uncancelled
          (if a.only = none ∧ smart = true ∧
              (transport = "auto".toList ∨ transport = "v2ray".toList) then
            pure (false, pool, none)
          else a.fastPath pool)
          (fun r => pathResult r.1) .uncancelled :=
        spec_ite (fun _ => spec_pure (Nat.le_refl _)) fun _ => a.spec_fastPath pool
      apply fast.bind _ (Nat.zero_le _)
      rintro ⟨connected, pool, irFallback⟩
      apply spec_ite
      · exact fun _ => spec_pure (Nat.zero_le _)
      · intro failed
        rw [eq_false_of_ne_true failed]
        cases a.only with
        | some server => exact a.spec_connectOnly server
        | none =>
            apply spec_ite
            · intro _
              apply a.spec_awaitSmartConnect.bind _ (Nat.le_refl _)
              rintro ⟨connected, irFallback⟩
              apply spec_ite
              · exact fun _ => spec_pure (Nat.zero_le _)
              · intro failed
                rw [eq_false_of_ne_true failed]
                apply spec_checkCancel.bind _ (Nat.zero_le _)
                intro _
                exact (a.spec_lastResorts options irFallback).weaken (Nat.le_succ 1)
                  (fun _ => Nat.le_refl _) (Nat.zero_le _)
            · exact fun _ => a.spec_serversInOrder options pool irFallback

theorem spec_body (options : EngineOptions) :
    Spec a.run .uncancelled (a.body options) (fun _ => .never) .never := by
  apply spec_look
  intro configured
  apply (a.spec_at .refreshStatus).orPure.bind _ (Nat.zero_le _)
  intro allowed
  apply spec_ite
  · exact fun _ => spec_throw (Nat.zero_le _)
  · intro _
    apply (a.spec_at .requestPermission).orPure.bind _ (Nat.zero_le _)
    intro granted
    apply spec_ite
    · exact fun _ => spec_throw (Nat.zero_le _)
    · exact fun _ => a.spec_routes options

theorem spec_caught (error : Thrown) :
    Spec a.run .never (a.caught error) (fun _ => .never) .never := by
  have down : Spec a.run .never (update Controller.markDisconnected) (fun _ => .never) .never :=
    spec_keep (fun _ => rfl) (fun _ _ => Or.inl rfl) fun _ => rfl
  cases error with
  | cancelled => exact (a.spec_at .cancelledDisconnect).bind (fun _ => down) (Nat.le_refl _)
  | unexpected => exact (a.spec_at .unexpectedDisconnect).bind (fun _ => down) (Nat.le_refl _)
  | adminRequired => exact down
  | permissionDenied => exact down
  | userError => exact down

end Attempt

theorem spec_connectRun (run : Nat) (only : Option Server) :
    Spec run .always (connectRun run only) (fun _ => .never) .never := by
  apply spec_update_then (by intro _; rfl)
  apply spec_look
  intro options
  apply spec_read
  intro c
  apply spec_look
  intro transport
  let a := Attempt.fixed run only c.selectedCountry transport
  exact (a.spec_body options).free.tryCatch a.spec_caught

end MolidoVpn.Desktop
