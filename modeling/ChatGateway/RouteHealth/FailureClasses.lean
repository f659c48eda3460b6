import ChatGateway.RouteHealth.System

set_option autoImplicit false

/-!
# The `expect`s on failure classes

Whether a reservation can find an entry it has to refuse without a failure class on it.
-/

namespace ChatGateway

def ReserveAnswer.Refuses (answer : ReserveAnswer) : Prop :=
  (∃ failureClass retryAfter status, answer = .ok (.cooling failureClass retryAfter status)) ∨
    ∃ failureClass retryAfter status, answer = .ok (.halfOpenBusy failureClass retryAfter status)

theorem ReserveAnswer.Refuses.ok {answer : ReserveAnswer} (refuses : answer.Refuses) :
    ∃ availability, answer = .ok availability := by
  rcases refuses with ⟨_, _, _, rfl⟩ | ⟨_, _, _, rfl⟩ <;> exact ⟨_, rfl⟩

namespace HealthState

theorem coolingRefusal_refuses {state : HealthState} (classed : state.lastFailureClass.isSome)
    (subject : String) (now : Instant) : (state.coolingRefusal subject now).Refuses := by
  obtain ⟨failureClass, found⟩ := Option.isSome_iff_exists.mp classed
  exact .inl ⟨failureClass, state.retryAfter now, state.lastFailureStatus, by
    simp [coolingRefusal, refusal, found]⟩

theorem halfOpenRefusal_refuses {state : HealthState} (classed : state.lastFailureClass.isSome)
    (subject : String) : (state.halfOpenRefusal subject).Refuses := by
  obtain ⟨failureClass, found⟩ := Option.isSome_iff_exists.mp classed
  exact .inr ⟨failureClass, halfOpenBusyRetry, state.lastFailureStatus, by
    simp [halfOpenRefusal, refusal, found]⟩

theorem Sound.reserveGate_refuses {state : HealthState} (sound : state.Sound) (subject : String)
    (now : Instant) {answer : ReserveAnswer}
    (refused : (state.reserveGate subject now).2 = some answer) : answer.Refuses := by
  unfold reserveGate at refused
  dsimp only at refused
  split at refused
  next cooling =>
    cases refused
    exact coolingRefusal_refuses (sound.touch.classed_of_cooling cooling) _ _
  next =>
    split at refused
    next leased =>
      split at refused
      · cases refused
      · split at refused
        · cases refused
          exact halfOpenRefusal_refuses (sound.touch.classed_of_leased leased) _
        · cases refused
    next => cases refused

theorem Sound.probeKeyGate_refuses {state : HealthState} (sound : state.Sound) (now : Instant)
    {answer : ReserveAnswer} (refused : (state.probeKeyGate now).2 = some answer) :
    answer.Refuses := by
  unfold probeKeyGate at refused
  dsimp only at refused
  split at refused
  next cooling =>
    cases refused
    exact coolingRefusal_refuses (sound.touch.classed_of_cooling cooling) _ _
  next =>
    split at refused
    next active =>
      cases refused
      have leased : state.halfOpenGeneration.isSome := by
        simp only [isActive, Bool.and_eq_true] at active
        exact active.1
      exact halfOpenRefusal_refuses (sound.touch.classed_of_leased leased) _
    next => cases refused

theorem probeKeyGate_isSome (state : HealthState) (now : Instant) :
    (state.probeKeyGate now).2.isSome = (state.isCooling now || state.isActive now) := by
  cases cooling : state.isCooling now with
  | true => simp [probeKeyGate, cooling]
  | false => cases active : state.isActive now <;> simp [probeKeyGate, cooling, active]

end HealthState

namespace RouteHealthRegistry

variable (registry : RouteHealthRegistry) (route : RouteHealthKey) (key : KeyHealthKey)
  (now : Instant)

theorem reserve_ok (sound : registry.EveryEntry EntrySound) :
    ∃ availability, (registry.reserve route key now).2 = .ok availability := by
  unfold reserve
  split
  next => exact ⟨_, rfl⟩
  next =>
    dsimp only
    split
    next answer refused =>
      rw [gateEntry_refusal, Option.bind_eq_some_iff] at refused
      obtain ⟨state, found, refused⟩ := refused
      exact ((sound.2 key state found).reserveGate_refuses "key" now refused).ok
    next =>
      split
      next answer refused =>
        rw [gateEntry_refusal, Option.bind_eq_some_iff] at refused
        obtain ⟨state, found, refused⟩ := refused
        exact ((sound.1 route state found).reserveGate_refuses "route" now refused).ok
      next => exact ⟨_, rfl⟩

def probeReachesRoute : Bool :=
  registry.tuning.enforcementEnabled &&
    !(registry.keys.lookup key).any fun state => state.isCooling now || state.isActive now

theorem reserveRouteHealthProbe_ok_iff (sound : registry.EveryEntry EntrySound) :
    (∃ availability, (registry.reserveRouteHealthProbe route key now).2 = .ok availability) ↔
      ¬(registry.probeReachesRoute key now ∧
        (registry.routes.lookup route).any (·.isClear)) := by
  unfold reserveRouteHealthProbe probeReachesRoute
  split
  next passthrough =>
    simp only [Bool.not_eq_true'] at passthrough
    simp [passthrough, passthroughAdmission]
  next enforced =>
    simp only [Bool.not_eq_true', Bool.not_eq_false] at enforced
    dsimp only
    split
    next answer refused =>
      rw [gateEntry_refusal, Option.bind_eq_some_iff] at refused
      obtain ⟨state, found, refused⟩ := refused
      have gated := state.probeKeyGate_isSome now
      rw [refused, Option.isSome_some] at gated
      have answered := ((sound.2 key state found).probeKeyGate_refuses now refused).ok
      simp [found, ← gated, answered]
    next passed =>
      rw [gateEntry_refusal] at passed
      have reaches : (registry.keys.lookup key).any
          (fun state => state.isCooling now || state.isActive now) = false := by
        cases found : registry.keys.lookup key with
        | none => rfl
        | some state =>
          have gated := state.probeKeyGate_isSome now
          rw [found, Option.bind_some] at passed
          rw [passed, Option.isSome_none] at gated
          simpa using gated.symm
      split
      next missing => simp [missing]
      next state found =>
        have clear := (sound.1 route state found).isClear_iff
        split
        next unclassed => simp [enforced, reaches, found, clear, unclassed]
        next failureClass classed =>
          refine iff_of_true ?_ ?_
          · split <;> exact ⟨_, rfl⟩
          · simp [found, clear, classed]

end RouteHealthRegistry

/-- In every state a run reaches, `reserve` keeps its `expect`s, and an early probe keeps its own
unless it gets to the entry of its route and finds it cleared. -/
theorem reservations_keep_expects_iff (digest : List UInt8 → Nat) (system : HealthSystem)
    (reachable : system.Reachable digest) (route : RouteHealthKey) (key : KeyHealthKey)
    (now : Instant) :
    ((∃ availability, (system.registry.reserve route key now).2 = .ok availability) ∧
      ∃ availability,
        (system.registry.reserveRouteHealthProbe route key now).2 = .ok availability) ↔
      ¬(system.registry.probeReachesRoute key now ∧
        (system.registry.routes.lookup route).any (·.isClear)) := by
  rw [← system.registry.reserveRouteHealthProbe_ok_iff route key now reachable.sound]
  exact and_iff_right (system.registry.reserve_ok route key now reachable.sound)

theorem reservations_keep_expects_while_cooling :
    (∃ availability,
      (cooledSystem.registry.reserve exampleRoute exampleKey 0).2 = .ok availability) ∧
    ∃ availability,
      (cooledSystem.registry.reserveRouteHealthProbe exampleRoute exampleKey 0).2 =
        .ok availability :=
  (reservations_keep_expects_iff (fun _ => 0) cooledSystem cooledSystem_reachable exampleRoute
    exampleKey 0).mpr (by decide)

/-- A half-open probe that succeeds leaves a cleared entry behind, on which an early probe that
was decided on while the route was still cooling fails its `expect`. -/
theorem earlyProbe_fails_expect_after_success :
    ∃ system : HealthSystem, system.Reachable (fun _ => 0) ∧
      (system.registry.reserveRouteHealthProbe exampleRoute exampleKey system.now).2 =
        .error "cooling route health must retain its failure class" := by
  refine ⟨_, HealthSystem.replay_reachable _
    [(.reserve exampleRoute exampleKey, Duration.fromSecs 10),
      (.finish ⟨exampleRoute, exampleKey, none, some 1, some 1, true⟩ .success,
        Duration.fromSecs 11)] cooledSystem_reachable rfl, by decide +kernel⟩

end ChatGateway
