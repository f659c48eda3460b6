import ChatGateway.RouteHealth.System

set_option autoImplicit false

/-!
# Half-open generations

The counter behind the half-open leases. It is a `u64` that wraps, so a generation tells leases
apart as long as fewer than `2 ^ 64` of them were handed out.
-/

namespace ChatGateway

theorem bumpGeneration_of_lt {generation : Nat} (small : generation + 1 < 2 ^ 64) :
    bumpGeneration generation = generation + 1 := by
  rw [bumpGeneration, Nat.mod_eq_of_lt small]
  omega

structure DrawnGenerations (before : Nat) (lease : HealthLease) (after : Nat) : Prop where
  key : lease.keyGeneration = none ∨ lease.keyGeneration = some (bumpGeneration before)
  route : lease.routeGeneration = none ∨
    lease.routeGeneration = some (bumpGeneration (lease.keyGeneration.getD before))
  after : after = lease.routeGeneration.getD (lease.keyGeneration.getD before)

theorem refusal_issues_nothing (state : HealthState) (message : String)
    (answer : RouteFailureClass → RouteAvailability HealthLease)
    (refuses : ∀ failureClass, issuedLease (some (.ok (answer failureClass))) = none) :
    issuedLease (some (state.refusal message answer)) = none := by
  unfold HealthState.refusal
  split
  next failureClass _ => exact refuses failureClass
  next => rfl

theorem reserveGate_issues_nothing {state : HealthState} {subject : String} {now : Instant}
    {answer : ReserveAnswer} (refused : (state.reserveGate subject now).2 = some answer) :
    issuedLease (some answer) = none := by
  unfold HealthState.reserveGate at refused
  dsimp only at refused
  split at refused
  · cases refused
    exact refusal_issues_nothing _ _ _ fun _ => rfl
  · split at refused
    · split at refused
      · cases refused
      · split at refused
        · cases refused
          exact refusal_issues_nothing _ _ _ fun _ => rfl
        · cases refused
    · cases refused

theorem probeKeyGate_issues_nothing {state : HealthState} {now : Instant} {answer : ReserveAnswer}
    (refused : (state.probeKeyGate now).2 = some answer) : issuedLease (some answer) = none := by
  unfold HealthState.probeKeyGate at refused
  dsimp only at refused
  split at refused
  · cases refused
    exact refusal_issues_nothing _ _ _ fun _ => rfl
  · split at refused
    · cases refused
      exact refusal_issues_nothing _ _ _ fun _ => rfl
    · cases refused

theorem gateEntry_issues_nothing {K : Type} [DecidableEq K] {table : Table K HealthState} {key : K}
    {gate : HealthState → HealthState × Option ReserveAnswer} {answer : ReserveAnswer}
    (refuses : ∀ state answer, (gate state).2 = some answer → issuedLease (some answer) = none)
    (refused : (gateEntry table key gate).2 = some answer) : issuedLease (some answer) = none := by
  rw [gateEntry_refusal, Option.bind_eq_some_iff] at refused
  obtain ⟨state, -, refused⟩ := refused
  exact refuses state answer refused

namespace RouteHealthRegistry

variable (registry : RouteHealthRegistry) (route : RouteHealthKey) (key : KeyHealthKey)
  (now : Instant)

theorem reserveExpiredHalfOpenKey_generation :
    ((registry.reserveExpiredHalfOpenKey key now).2 = none ∨
      (registry.reserveExpiredHalfOpenKey key now).2 =
        some (bumpGeneration registry.nextGeneration)) ∧
      (registry.reserveExpiredHalfOpenKey key now).1.nextGeneration =
        (registry.reserveExpiredHalfOpenKey key now).2.getD registry.nextGeneration := by
  unfold reserveExpiredHalfOpenKey
  split
  · exact ⟨.inr rfl, rfl⟩
  · exact ⟨.inl rfl, rfl⟩

theorem reserveExpiredHalfOpenRoute_generation :
    ((registry.reserveExpiredHalfOpenRoute route now).2 = none ∨
      (registry.reserveExpiredHalfOpenRoute route now).2 =
        some (bumpGeneration registry.nextGeneration)) ∧
      (registry.reserveExpiredHalfOpenRoute route now).1.nextGeneration =
        (registry.reserveExpiredHalfOpenRoute route now).2.getD registry.nextGeneration := by
  unfold reserveExpiredHalfOpenRoute
  split
  · exact ⟨.inr rfl, rfl⟩
  · exact ⟨.inl rfl, rfl⟩

def Issues (reserved : RouteHealthRegistry × ReserveAnswer) : Prop :=
  match issuedLease (some reserved.2) with
  | none => reserved.1.nextGeneration = registry.nextGeneration
  | some lease => lease.route = route ∧ lease.key = key ∧
      DrawnGenerations registry.nextGeneration lease reserved.1.nextGeneration

theorem issues_of_refusal {after : RouteHealthRegistry} {answer : ReserveAnswer}
    (refused : issuedLease (some answer) = none)
    (same : after.nextGeneration = registry.nextGeneration) :
    registry.Issues route key (after, answer) := by
  simp [Issues, refused, same]

theorem passthroughAdmission_issues :
    registry.Issues route key (registry.passthroughAdmission route key now) :=
  ⟨rfl, rfl, .inl rfl, .inl rfl, rfl⟩

theorem admitReserved_issues :
    registry.Issues route key (registry.admitReserved route key now) := by
  obtain ⟨keyDrawn, keyAfter⟩ := registry.reserveExpiredHalfOpenKey_generation key now
  obtain ⟨routeDrawn, routeAfter⟩ :=
    (registry.reserveExpiredHalfOpenKey key now).1.reserveExpiredHalfOpenRoute_generation route now
  rw [keyAfter] at routeDrawn routeAfter
  exact ⟨rfl, rfl, keyDrawn, routeDrawn, routeAfter⟩

theorem grantRouteHealthProbe_issues (observed : HealthState) :
    registry.Issues route key (registry.grantRouteHealthProbe route key observed now) := by
  obtain ⟨keyDrawn, keyAfter⟩ := registry.reserveExpiredHalfOpenKey_generation key now
  refine ⟨rfl, rfl, keyDrawn, .inr ?_, rfl⟩
  exact congrArg (some ∘ bumpGeneration) keyAfter

theorem reserve_issues : registry.Issues route key (registry.reserve route key now) := by
  unfold reserve
  split
  next => exact registry.passthroughAdmission_issues route key now
  next =>
    dsimp only
    split
    next refused =>
      exact registry.issues_of_refusal route key
        (gateEntry_issues_nothing (fun _ _ => reserveGate_issues_nothing) refused) rfl
    next =>
      split
      next refused =>
        exact registry.issues_of_refusal route key
          (gateEntry_issues_nothing (fun _ _ => reserveGate_issues_nothing) refused) rfl
      next => exact admitReserved_issues _ route key now

theorem probeRouteRefusal_issues_nothing {state : HealthState} {failureClass : RouteFailureClass}
    {answer : RouteAvailability HealthLease}
    (refused : probeRouteRefusal state now failureClass = some answer) :
    issuedLease (some (.ok answer)) = none := by
  unfold probeRouteRefusal at refused
  split at refused
  · cases refused
    rfl
  · split at refused
    · cases refused
      rfl
    · split at refused
      · dsimp only at refused
        split at refused
        · cases refused
          rfl
        · cases refused
      · cases refused

theorem reserveRouteHealthProbe_issues :
    registry.Issues route key (registry.reserveRouteHealthProbe route key now) := by
  unfold reserveRouteHealthProbe
  split
  next => exact registry.passthroughAdmission_issues route key now
  next =>
    dsimp only
    split
    next refused =>
      exact registry.issues_of_refusal route key
        (gateEntry_issues_nothing (fun _ _ => probeKeyGate_issues_nothing) refused) rfl
    next =>
      split
      next => exact registry.issues_of_refusal route key rfl rfl
      next =>
        split
        next => exact registry.issues_of_refusal route key rfl rfl
        next =>
          split
          next refused =>
            exact registry.issues_of_refusal route key
              (probeRouteRefusal_issues_nothing now refused) rfl
          next => exact grantRouteHealthProbe_issues _ route key now _

theorem finishRoutePermit_grant (lease : HealthLease) (outcome : RouteOutcome) :
    (registry.finishRoutePermit lease outcome).grant = none := by
  cases outcome with
  | uncertainRouteFailure =>
    simp only [finishRoutePermit]
    split <;> rfl
  | _ => rfl

theorem finishKeyPermit_grant (lease : HealthLease) (outcome : RouteOutcome) :
    (registry.finishKeyPermit lease outcome).grant = none := by
  cases outcome <;> rfl

end RouteHealthRegistry

namespace HealthOperation

theorem apply_generations (digest : List UInt8 → Nat) (operation : HealthOperation)
    (now : Instant) (registry : RouteHealthRegistry) :
    match issuedLease (operation.apply digest now registry).2 with
    | none => (operation.apply digest now registry).1.nextGeneration = registry.nextGeneration
    | some lease =>
      DrawnGenerations registry.nextGeneration lease
        (operation.apply digest now registry).1.nextGeneration := by
  have issued {route : RouteHealthKey} {key : KeyHealthKey}
      {reserved : RouteHealthRegistry × ReserveAnswer}
      (issues : registry.Issues route key reserved) :
      match issuedLease (some reserved.2) with
      | none => reserved.1.nextGeneration = registry.nextGeneration
      | some lease =>
        DrawnGenerations registry.nextGeneration lease reserved.1.nextGeneration := by
    unfold RouteHealthRegistry.Issues at issues
    split at issues
    next refused => simpa [refused] using issues
    next lease issued => simpa [issued] using issues.2.2
  cases operation with
  | reserve route key => exact issued (registry.reserve_issues route key now)
  | reserveRouteHealthProbe route key =>
    exact issued (registry.reserveRouteHealthProbe_issues route key now)
  | finish lease outcome =>
    obtain ⟨_, _, _, frame⟩ := registry.finish_frame now digest lease outcome
    simp only [apply, issuedLease, frame]
  | observeRouteFailure route failureClass retryAfter shared =>
    obtain ⟨_, _, frame⟩ := registry.observeRouteFailureAt_frame now digest route
      { failureClass := failureClass, sharedHostFailureDomain := shared } retryAfter
    simp only [apply, issuedLease, RouteHealthRegistry.observeRouteFailure, frame]
  | observeKeyFailure key failureClass retryAfter =>
    obtain ⟨_, _, frame⟩ := registry.observeKeyFailureAt_frame now digest key failureClass retryAfter
    simp only [apply, issuedLease, RouteHealthRegistry.observeKeyFailure, frame]
  | clearRouteHealth route => rfl
  | removeClearedRouteAndKey route key => rfl
  | retainRoutes routeIsCurrent keyIsCurrent => rfl
  | updateRuntimeTuning settings => rfl
  | setRouteHealthEnforcementEnabled enabled => rfl

theorem routePermit_grant {registry : RouteHealthRegistry} {operation : HealthOperation}
    {answer : Option ReserveAnswer} {route : RouteHealthKey} {generation : Nat}
    (granted : (routePermit registry operation answer route).grant = some generation) :
    ∃ lease, issuedLease answer = some lease ∧ lease.route = route ∧
      lease.routeGeneration = some generation := by
  have reserved (granted : ((issuedLease answer).bind fun lease =>
      if lease.route = route then lease.routeGeneration else none) = some generation) :
      ∃ lease, issuedLease answer = some lease ∧ lease.route = route ∧
        lease.routeGeneration = some generation := by
    obtain ⟨lease, issued, granted⟩ := Option.bind_eq_some_iff.mp granted
    split at granted
    next same => exact ⟨lease, issued, same, granted⟩
    next => cases granted
  cases operation with
  | reserve => exact reserved granted
  | reserveRouteHealthProbe => exact reserved granted
  | finish lease outcome =>
    simp only [routePermit] at granted
    split at granted
    next =>
      rw [RouteHealthRegistry.finishRoutePermit_grant] at granted
      cases granted
    next => cases granted
  | observeRouteFailure =>
    simp only [routePermit] at granted
    split at granted <;> cases granted
  | _ => cases granted

theorem keyPermit_grant {registry : RouteHealthRegistry} {operation : HealthOperation}
    {answer : Option ReserveAnswer} {key : KeyHealthKey} {generation : Nat}
    (granted : (keyPermit registry operation answer key).grant = some generation) :
    ∃ lease, issuedLease answer = some lease ∧ lease.key = key ∧
      lease.keyGeneration = some generation := by
  have reserved (granted : ((issuedLease answer).bind fun lease =>
      if lease.key = key then lease.keyGeneration else none) = some generation) :
      ∃ lease, issuedLease answer = some lease ∧ lease.key = key ∧
        lease.keyGeneration = some generation := by
    obtain ⟨lease, issued, granted⟩ := Option.bind_eq_some_iff.mp granted
    split at granted
    next same => exact ⟨lease, issued, same, granted⟩
    next => cases granted
  cases operation with
  | reserve => exact reserved granted
  | reserveRouteHealthProbe => exact reserved granted
  | finish lease outcome =>
    simp only [keyPermit] at granted
    split at granted
    next =>
      rw [RouteHealthRegistry.finishKeyPermit_grant] at granted
      cases granted
    next => cases granted
  | observeKeyFailure =>
    simp only [keyPermit] at granted
    split at granted <;> cases granted
  | _ => cases granted

end HealthOperation

-- A generation that is on an entry after the effects was there before them or was granted.
theorem EntryEffects.generation {now : Instant} {permit : Permit}
    {before after : Option HealthState} (effects : EntryEffects now permit before after)
    {generation : Nat} (held : after.bind (·.halfOpenGeneration) = some generation) :
    before.bind (·.halfOpenGeneration) = some generation ∨ permit.grant = some generation := by
  induction effects with
  | refl => exact .inl held
  | tail _ effect ih =>
    cases effect with
    | created => cases held
    | removed => cases held
    | touched => exact ih held
    | expired => cases held
    | granted _ fresh _ _ _ allowed =>
      cases held
      exact .inr allowed
    | released => cases held
    | rearmed => cases held
    | cleared => cases held
    | failed _ after _ recorded =>
      rw [Option.bind_some, recorded.generation] at held
      cases held
    | noted => exact ih held
    | retuned => exact ih held

def HealthLease.Carries (lease : HealthLease) (generation : Nat) : Prop :=
  lease.keyGeneration = some generation ∨ lease.routeGeneration = some generation

def HealthLease.Apart (first second : HealthLease) : Prop :=
  ∀ generation, first.Carries generation → ¬second.Carries generation

instance : Std.Symm HealthLease.Apart where
  symm _ _ apart generation held carried := apart generation carried held

-- A lease drawn from a counter that does not wrap moves it by the generations it carries.
theorem DrawnGenerations.counted {before after : Nat} {lease : HealthLease}
    (drawn : DrawnGenerations before lease after) (small : before + lease.grants < 2 ^ 64) :
    after = before + lease.grants ∧
      ∀ generation, lease.Carries generation → before < generation ∧ generation ≤ after := by
  obtain ⟨key, route, rfl⟩ := drawn
  unfold HealthLease.grants HealthLease.Carries at *
  rcases key with key | key <;> rcases route with route | route <;>
    simp only [key, route, Option.toList_none, Option.toList_some, List.length_nil,
      List.length_singleton, Option.getD_none, Option.getD_some] at small ⊢
  · simp
  · rw [bumpGeneration_of_lt (by omega)]
    simp
  · rw [bumpGeneration_of_lt (by omega)]
    simp
  · have first : bumpGeneration before = before + 1 := bumpGeneration_of_lt (by omega)
    rw [first, bumpGeneration_of_lt (by omega)]
    refine ⟨by omega, fun generation carries => ?_⟩
    simp only [Option.some.injEq] at carries
    omega

structure Generations (system : HealthSystem) : Prop where
  counter : system.grantCount < 2 ^ 64 → system.registry.nextGeneration = system.grantCount
  bounded : system.grantCount < 2 ^ 64 → ∀ lease ∈ system.leases, ∀ generation,
    lease.Carries generation → generation ≤ system.grantCount
  distinct : system.grantCount < 2 ^ 64 → system.leases.Pairwise HealthLease.Apart
  routes : ∀ route generation,
    (system.registry.routes.lookup route).bind (·.halfOpenGeneration) = some generation →
      ∃ lease ∈ system.leases, lease.route = route ∧ lease.routeGeneration = some generation
  keys : ∀ key generation,
    (system.registry.keys.lookup key).bind (·.halfOpenGeneration) = some generation →
      ∃ lease ∈ system.leases, lease.key = key ∧ lease.keyGeneration = some generation

theorem HealthSystem.perform_generations (digest : List UInt8 → Nat) (system : HealthSystem)
    (operation : HealthOperation) (now : Instant) (invariant : Generations system) :
    Generations (system.perform digest operation now) := by
  have drawn := operation.apply_generations digest now system.registry
  have routes (route : RouteHealthKey) (generation : Nat)
      (held : ((system.perform digest operation now).registry.routes.lookup route).bind
        (·.halfOpenGeneration) = some generation) :
      ∃ lease ∈ (system.perform digest operation now).leases,
        lease.route = route ∧ lease.routeGeneration = some generation := by
    rcases (operation.apply_route_effects digest now system.registry route).generation held with
      before | granted
    · obtain ⟨lease, member, carries⟩ := invariant.routes route generation before
      exact ⟨lease, List.mem_append_right _ member, carries⟩
    · obtain ⟨lease, issued, carries⟩ := HealthOperation.routePermit_grant granted
      exact ⟨lease, List.mem_append_left _ (by simp [issued]), carries⟩
  have keys (key : KeyHealthKey) (generation : Nat)
      (held : ((system.perform digest operation now).registry.keys.lookup key).bind
        (·.halfOpenGeneration) = some generation) :
      ∃ lease ∈ (system.perform digest operation now).leases,
        lease.key = key ∧ lease.keyGeneration = some generation := by
    rcases (operation.apply_key_effects digest now system.registry key).generation held with
      before | granted
    · obtain ⟨lease, member, carries⟩ := invariant.keys key generation before
      exact ⟨lease, List.mem_append_right _ member, carries⟩
    · obtain ⟨lease, issued, carries⟩ := HealthOperation.keyPermit_grant granted
      exact ⟨lease, List.mem_append_left _ (by simp [issued]), carries⟩
  cases issued : issuedLease (operation.apply digest now system.registry).2 with
  | none =>
    rw [issued] at drawn
    have same : (system.perform digest operation now).leases = system.leases := by
      simp [HealthSystem.perform, issued]
    have count : (system.perform digest operation now).grantCount = system.grantCount := by
      simp [HealthSystem.grantCount, same]
    refine ⟨fun small => ?_, ?_, ?_, routes, keys⟩
    · rw [count] at small ⊢
      exact drawn.trans (invariant.counter small)
    · rw [count, same]
      exact invariant.bounded
    · rw [count, same]
      exact invariant.distinct
  | some lease =>
    rw [issued] at drawn
    have grown : (system.perform digest operation now).leases = lease :: system.leases := by
      simp [HealthSystem.perform, issued]
    have count : (system.perform digest operation now).grantCount =
        system.grantCount + lease.grants := by
      simp [HealthSystem.grantCount, grown, HealthLease.grants, Nat.add_comm]
    have counted (small : system.grantCount + lease.grants < 2 ^ 64) := by
      refine DrawnGenerations.counted drawn ?_
      rwa [invariant.counter (by omega)]
    refine ⟨fun small => ?_, fun small => ?_, fun small => ?_, routes, keys⟩
    all_goals
      rw [count] at small
      obtain ⟨after, fresh⟩ := counted small
      have counter := invariant.counter (by omega)
      rw [counter] at after fresh
      rw [after] at fresh
    · rw [count]
      exact after
    · rw [count, grown]
      intro holder member generation carries
      rcases List.mem_cons.mp member with rfl | member
      · exact (fresh generation carries).2
      · exact Nat.le_trans (invariant.bounded (by omega) holder member generation carries)
          (Nat.le_add_right _ _)
    · rw [grown, List.pairwise_cons]
      refine ⟨fun older member generation carries held => ?_, invariant.distinct (by omega)⟩
      have old := invariant.bounded (by omega) older member generation held
      exact absurd (fresh generation carries).1 (by omega)

theorem HealthSystem.Reachable.generations {digest : List UInt8 → Nat} {system : HealthSystem}
    (reachable : system.Reachable digest) : Generations system := by
  refine reachable.invariant Generations ?_ ?_
  · intro first initial
    have absent := initial.lookup
    obtain ⟨_, _, _, _, rfl⟩ := initial
    refine ⟨fun _ => rfl, ?_, fun _ => .nil, ?_, ?_⟩
    · simp [start]
    · intro route generation held
      rw [(absent route ⟨"", ""⟩).1] at held
      cases held
    · intro key generation held
      rw [(absent ⟨"", "", "", .responses⟩ key).2] at held
      cases held
  · intro before label after step invariant
    cases step with
    | operate operation now => exact before.perform_generations digest operation now invariant
    | reorder routes keys sameRoutes sameKeys =>
      refine ⟨invariant.counter, invariant.bounded, invariant.distinct, ?_, ?_⟩
      · intro route generation held
        exact invariant.routes route generation (by rwa [← sameRoutes.lookup])
      · intro key generation held
        exact invariant.keys key generation (by rwa [← sameKeys.lookup])

theorem Generations.unique {system : HealthSystem} (invariant : Generations system)
    (small : system.grantCount < 2 ^ 64) {first second : HealthLease}
    (firstIssued : first ∈ system.leases) (secondIssued : second ∈ system.leases)
    {generation : Nat} (held : first.Carries generation) (carried : second.Carries generation) :
    first = second := by
  by_contra different
  exact (invariant.distinct small).forall firstIssued secondIssued different generation held carried

-- While the counter has not wrapped, the generation of a lease is on no route but its own.
theorem Generations.route_of_held {system : HealthSystem} (invariant : Generations system)
    (small : system.grantCount < 2 ^ 64) {lease : HealthLease} (issued : lease ∈ system.leases)
    {generation : Nat} (carried : lease.routeGeneration = some generation)
    {route : RouteHealthKey}
    (held : (system.registry.routes.lookup route).bind (·.halfOpenGeneration) = some generation) :
    route = lease.route := by
  obtain ⟨holder, member, rfl, carries⟩ := invariant.routes route generation held
  rw [invariant.unique small member issued (.inr carries) (.inr carried)]

theorem Generations.key_of_held {system : HealthSystem} (invariant : Generations system)
    (small : system.grantCount < 2 ^ 64) {lease : HealthLease} (issued : lease ∈ system.leases)
    {generation : Nat} (carried : lease.keyGeneration = some generation) {key : KeyHealthKey}
    (held : (system.registry.keys.lookup key).bind (·.halfOpenGeneration) = some generation) :
    key = lease.key := by
  obtain ⟨holder, member, rfl, carries⟩ := invariant.keys key generation held
  rw [invariant.unique small member issued (.inl carries) (.inl carried)]

section NotRegranted

variable {digest : List UInt8 → Nat} {before after : HealthSystem}
  {label : Option HealthOperation} {lease : HealthLease} {generation : Nat}

-- A lease issued by a step that does not wrap the counter shares nothing with an older one.
theorem HealthSystem.perform_apart {operation : HealthOperation} {now : Instant}
    (generations : Generations (before.perform digest operation now))
    (small : (before.perform digest operation now).grantCount < 2 ^ 64)
    (issued : lease ∈ before.leases) {newer : HealthLease}
    (drawn : issuedLease (operation.apply digest now before.registry).2 = some newer) :
    newer.Apart lease := by
  have distinct := generations.distinct small
  simp only [HealthSystem.perform, drawn, Option.toList_some, List.singleton_append,
    List.pairwise_cons] at distinct
  exact distinct.1 lease issued

-- Once off an entry, the generation of an issued lease stays off: later grants draw new ones.
theorem HealthStep.route_not_regranted (step : HealthStep digest before label after)
    (generations : Generations after) (small : after.grantCount < 2 ^ 64)
    (issued : lease ∈ before.leases) (carried : lease.Carries generation) (route : RouteHealthKey)
    (gone : (before.registry.routes.lookup route).bind (·.halfOpenGeneration) ≠ some generation) :
    (after.registry.routes.lookup route).bind (·.halfOpenGeneration) ≠ some generation := by
  cases step with
  | reorder routes keys sameRoutes =>
    rw [sameRoutes.lookup]
    exact gone
  | operate operation now =>
    intro held
    rcases (operation.apply_route_effects digest now before.registry route).generation held with
      kept | granted
    · exact gone kept
    · obtain ⟨newer, drawn, -, carries⟩ := HealthOperation.routePermit_grant granted
      exact HealthSystem.perform_apart generations small issued drawn generation (.inr carries)
        carried

theorem HealthStep.key_not_regranted (step : HealthStep digest before label after)
    (generations : Generations after) (small : after.grantCount < 2 ^ 64)
    (issued : lease ∈ before.leases) (carried : lease.Carries generation) (key : KeyHealthKey)
    (gone : (before.registry.keys.lookup key).bind (·.halfOpenGeneration) ≠ some generation) :
    (after.registry.keys.lookup key).bind (·.halfOpenGeneration) ≠ some generation := by
  cases step with
  | reorder routes keys sameRoutes sameKeys =>
    rw [sameKeys.lookup]
    exact gone
  | operate operation now =>
    intro held
    rcases (operation.apply_key_effects digest now before.registry key).generation held with
      kept | granted
    · exact gone kept
    · obtain ⟨newer, drawn, -, carries⟩ := HealthOperation.keyPermit_grant granted
      exact HealthSystem.perform_apart generations small issued drawn generation (.inl carries)
        carried

end NotRegranted

-- A property of systems that a step preserves while an issued lease and the bound on the counter
-- are known holds at the end of every run that does not wrap the counter.
theorem HealthSystem.Reachable.issued_invariant {digest : List UInt8 → Nat}
    {first last : HealthSystem} (reachable : first.Reachable digest)
    (run : Transition.Steps (HealthStep digest) (fun _ _ => True) first last)
    (small : last.grantCount < 2 ^ 64) {lease : HealthLease} (issued : lease ∈ first.leases)
    (Holds : HealthSystem → Prop) (start : Holds first)
    (preserved : ∀ before label after, HealthStep digest before label after →
      Generations after → after.grantCount < 2 ^ 64 → lease ∈ before.leases → Holds before →
      Holds after) : Holds last := by
  refine (run.invariant (fun current => current.Reachable digest ∧ lease ∈ current.leases ∧
    (current.grantCount < 2 ^ 64 → Holds current)) ?_ ⟨reachable, issued, fun _ => start⟩).2.2 small
  rintro before label after step - ⟨reached, member, holds⟩
  have next : after.Reachable digest := reached.advance step
  refine ⟨next, step.leases_grow member, fun bound => ?_⟩
  exact preserved before label after step next.generations bound member
    (holds (Nat.lt_of_le_of_lt step.grantCount_le bound))

end ChatGateway
