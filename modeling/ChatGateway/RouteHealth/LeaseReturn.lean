import ChatGateway.RouteHealth.Generations

set_option autoImplicit false

/-!
# Giving half-open leases back

What `finish` leaves of the generations on the lease it is given.
-/

namespace ChatGateway

namespace RouteHealthRegistry

structure Returned (registry : RouteHealthRegistry) (lease : HealthLease) : Prop where
  route : ∀ generation, lease.routeGeneration = some generation → ∀ route,
    (registry.routes.lookup route).bind (·.halfOpenGeneration) ≠ some generation
  key : ∀ generation, lease.keyGeneration = some generation → ∀ key,
    (registry.keys.lookup key).bind (·.halfOpenGeneration) ≠ some generation

def observesRouteOnly (registry : RouteHealthRegistry) (lease : HealthLease) : RouteOutcome → Bool
  | .routeFailure report | .routeFailureWithRetry report _ => registry.observesRouteCapacity report
  | .uncertainRouteFailure failureClass =>
    !registry.rearmsProbe lease &&
      registry.observesRouteCapacity { failureClass := failureClass }
  | _ => false

def observesKeyOnly (registry : RouteHealthRegistry) : RouteOutcome → Bool
  | .keyFailure failureClass | .keyFailureWithRetry failureClass _ =>
    keyFailureHasCooldown failureClass && registry.observesKeyCapacity failureClass
  | _ => false

def holdsRouteLease (registry : RouteHealthRegistry) (lease : HealthLease) : Bool :=
  lease.routeGeneration.isSome &&
    (registry.routes.lookup lease.route).bind (·.halfOpenGeneration) == lease.routeGeneration

def holdsKeyLease (registry : RouteHealthRegistry) (lease : HealthLease) : Bool :=
  lease.keyGeneration.isSome &&
    (registry.keys.lookup lease.key).bind (·.halfOpenGeneration) == lease.keyGeneration

/-- Whether finishing with `outcome` forgets to release a half-open lease the caller owns. -/
def withholds (registry : RouteHealthRegistry) (lease : HealthLease) (outcome : RouteOutcome) :
    Bool :=
  (registry.observesRouteOnly lease outcome && registry.holdsRouteLease lease) ||
    (registry.observesKeyOnly outcome && registry.holdsKeyLease lease)

section Entries

variable (registry : RouteHealthRegistry) (now : Instant)

theorem observesRouteCapacity_cooled {report : RouteFailureReport}
    (observed : registry.observesRouteCapacity report = true) :
    routeFailureHasCooldown report.failureClass = true := by
  unfold observesRouteCapacity at observed
  cases failure : report.failureClass <;> simp_all [isCapacityClass, routeFailureHasCooldown]

theorem observeCapacityRouteFailureAt_generation (route : RouteHealthKey)
    (failureClass : RouteFailureClass) (upstreamStatus : Option Nat) {generation : Nat}
    (held : (registry.routes.lookup route).bind (·.halfOpenGeneration) = some generation) :
    ((registry.observeCapacityRouteFailureAt route failureClass upstreamStatus now).routes.lookup
      route).bind (·.halfOpenGeneration) = some generation := by
  obtain ⟨state, found, leased⟩ := Option.bind_eq_some_iff.mp held
  have roomy : registry.ensureRouteCapacity route now = some registry := by
    simp [ensureRouteCapacity, found]
  simp [observeCapacityRouteFailureAt, roomy, upsertRoute, countCooldownSkipped, found,
    HealthState.noteRouteCapacity, leased]

theorem observeCapacityKeyFailureAt_generation (key : KeyHealthKey)
    (failureClass : RouteFailureClass) {generation : Nat}
    (held : (registry.keys.lookup key).bind (·.halfOpenGeneration) = some generation) :
    ((registry.observeCapacityKeyFailureAt key failureClass now).keys.lookup key).bind
      (·.halfOpenGeneration) = some generation := by
  obtain ⟨state, found, leased⟩ := Option.bind_eq_some_iff.mp held
  have roomy : registry.ensureKeyCapacity key now = some registry := by
    simp [ensureKeyCapacity, found]
  simp [observeCapacityKeyFailureAt, roomy, upsertKey, countCooldownSkipped, found,
    HealthState.noteKeyCapacity, leased]

theorem ensureRouteCapacity_none {route : RouteHealthKey}
    (full : registry.ensureRouteCapacity route now = none) :
    registry.routes.lookup route = none := by
  by_contra present
  obtain ⟨state, found⟩ := Option.ne_none_iff_exists'.mp present
  simp [ensureRouteCapacity, found] at full

theorem ensureKeyCapacity_none {key : KeyHealthKey}
    (full : registry.ensureKeyCapacity key now = none) : registry.keys.lookup key = none := by
  by_contra present
  obtain ⟨state, found⟩ := Option.ne_none_iff_exists'.mp present
  simp [ensureKeyCapacity, found] at full

-- Any other route failure takes the half-open lease off its route, whoever owns it.
theorem observeRouteFailureAt_generation (digest : List UInt8 → Nat) (route : RouteHealthKey)
    (report : RouteFailureReport) (explicitRetry : Option Duration)
    (recorded : registry.observesRouteCapacity report = false) :
    ((registry.observeRouteFailureAt digest route report explicitRetry now).routes.lookup
      route).bind (·.halfOpenGeneration) = none := by
  unfold observeRouteFailureAt
  rw [recorded]
  split
  next =>
    cases found : registry.routes.lookup route <;> simp [clearRoute, found, HealthState.clear]
  next =>
    simp only [Bool.false_eq_true, if_false]
    split
    next full => simp [registry.ensureRouteCapacity_none now full]
    next => simp [upsertRoute, HealthState.recordRouteFailure, HealthState.dropHalfOpen]

theorem observeKeyFailureAt_generation (digest : List UInt8 → Nat) (key : KeyHealthKey)
    (failureClass : RouteFailureClass) (explicitRetry : Option Duration)
    (recorded : (keyFailureHasCooldown failureClass &&
      registry.observesKeyCapacity failureClass) = false) :
    ((registry.observeKeyFailureAt digest key failureClass explicitRetry now).keys.lookup
      key).bind (·.halfOpenGeneration) = none := by
  unfold observeKeyFailureAt
  split
  next =>
    cases found : registry.keys.lookup key <;> simp [clearKey, found, HealthState.clear]
  next cooled =>
    have unobserved : registry.observesKeyCapacity failureClass = false := by simp_all
    simp only [unobserved, Bool.false_eq_true, if_false]
    split
    next full => simp [registry.ensureKeyCapacity_none now full]
    next => simp [upsertKey, HealthState.recordKeyFailure, HealthState.dropHalfOpen]

theorem releaseHalfOpen_generation (state : HealthState) (generation : Nat) :
    (state.releaseHalfOpen (some generation) now).halfOpenGeneration ≠ some generation := by
  unfold HealthState.releaseHalfOpen
  split
  next => simp [HealthState.dropHalfOpen, HealthState.touch]
  next kept => simpa [HealthState.touch] using kept

theorem releaseRouteLease_generation (route : RouteHealthKey) (generation : Nat) :
    ((registry.releaseRouteLease route (some generation) now).routes.lookup route).bind
      (·.halfOpenGeneration) ≠ some generation := by
  cases found : registry.routes.lookup route with
  | none => simp [releaseRouteLease, found]
  | some state =>
    simpa [releaseRouteLease, found] using releaseHalfOpen_generation now state generation

theorem releaseKeyLease_generation (key : KeyHealthKey) (generation : Nat) :
    ((registry.releaseKeyLease key (some generation) now).keys.lookup key).bind
      (·.halfOpenGeneration) ≠ some generation := by
  cases found : registry.keys.lookup key with
  | none => simp [releaseKeyLease, found]
  | some state =>
    simpa [releaseKeyLease, found] using releaseHalfOpen_generation now state generation

theorem reapplyConcurrencyProbeDelay_generation {lease : HealthLease}
    {rearmed : RouteHealthRegistry}
    (applied : registry.reapplyConcurrencyProbeDelay lease now = some rearmed) :
    (rearmed.routes.lookup lease.route).bind (·.halfOpenGeneration) = none := by
  obtain ⟨state, _, _, found, -, -, -, rfl⟩ :=
    registry.reapplyConcurrencyProbeDelay_some now applied
  simp [found, HealthState.dropHalfOpen]

theorem observeRouteFailureAt_generation_iff (digest : List UInt8 → Nat) (route : RouteHealthKey)
    (report : RouteFailureReport) (explicitRetry : Option Duration) (generation : Nat) :
    ((registry.observeRouteFailureAt digest route report explicitRetry now).routes.lookup
      route).bind (·.halfOpenGeneration) = some generation ↔
      registry.observesRouteCapacity report = true ∧
        (registry.routes.lookup route).bind (·.halfOpenGeneration) = some generation := by
  cases observed : registry.observesRouteCapacity report with
  | false =>
    rw [registry.observeRouteFailureAt_generation now digest route report explicitRetry observed]
    simp
  | true =>
    have cooled := registry.observesRouteCapacity_cooled observed
    have same : registry.observeRouteFailureAt digest route report explicitRetry now =
        registry.observeCapacityRouteFailureAt route report.failureClass report.upstreamStatus
          now := by
      simp [observeRouteFailureAt, cooled, observed]
    rw [same]
    refine ⟨fun held => ⟨rfl, ?_⟩, fun held =>
      registry.observeCapacityRouteFailureAt_generation now route _ _ held.2⟩
    have effects := registry.observeCapacityRouteFailureAt_effects now route route
      report.failureClass report.upstreamStatus {}
    exact (effects.generation held).resolve_right (by simp)

theorem observeKeyFailureAt_generation_iff (digest : List UInt8 → Nat) (key : KeyHealthKey)
    (failureClass : RouteFailureClass) (explicitRetry : Option Duration) (generation : Nat) :
    ((registry.observeKeyFailureAt digest key failureClass explicitRetry now).keys.lookup
      key).bind (·.halfOpenGeneration) = some generation ↔
      (keyFailureHasCooldown failureClass && registry.observesKeyCapacity failureClass) = true ∧
        (registry.keys.lookup key).bind (·.halfOpenGeneration) = some generation := by
  cases observed : keyFailureHasCooldown failureClass && registry.observesKeyCapacity failureClass with
  | false =>
    rw [registry.observeKeyFailureAt_generation now digest key failureClass explicitRetry observed]
    simp
  | true =>
    rw [Bool.and_eq_true] at observed
    have same : registry.observeKeyFailureAt digest key failureClass explicitRetry now =
        registry.observeCapacityKeyFailureAt key failureClass now := by
      simp [observeKeyFailureAt, observed]
    rw [same]
    refine ⟨fun held => ⟨rfl, ?_⟩, fun held =>
      registry.observeCapacityKeyFailureAt_generation now key _ held.2⟩
    have effects := registry.observeCapacityKeyFailureAt_effects now key key failureClass {}
    exact (effects.generation held).resolve_right (by simp)

theorem clearRouteForSuccess_generation {lease : HealthLease} {generation : Nat}
    (carried : lease.routeGeneration = some generation) :
    ((registry.clearRouteForSuccess lease now).routes.lookup lease.route).bind
      (·.halfOpenGeneration) ≠ some generation := by
  cases found : registry.routes.lookup lease.route with
  | none => simp [clearRouteForSuccess, found]
  | some state =>
    simp only [clearRouteForSuccess, Table.lookup_modify_self, found, Option.map_some,
      Option.bind_some, carried]
    split
    next => simp [HealthState.clear]
    next kept => simp_all

-- After `finish`, the route of the lease records the generation of the lease only when the
-- outcome was a capacity failure that is observed and no more.
theorem finish_route_generation_iff (digest : List UInt8 → Nat) (lease : HealthLease)
    (outcome : RouteOutcome) {generation : Nat}
    (carried : lease.routeGeneration = some generation) :
    ((registry.finish digest lease outcome now).routes.lookup lease.route).bind
      (·.halfOpenGeneration) = some generation ↔
      registry.observesRouteOnly lease outcome = true ∧
        (registry.routes.lookup lease.route).bind (·.halfOpenGeneration) = some generation := by
  have observed := (registry.releaseKeyLease lease.key lease.keyGeneration
    now).observeRouteFailureAt_generation_iff now digest lease.route
  cases outcome with
  | success =>
    have cleared := registry.clearRouteForSuccess_generation now carried
    unfold finish
    dsimp only
    split <;> simpa [observesRouteOnly] using cleared
  | routeFailure report => exact observed report none generation
  | routeFailureWithRetry report retryAfter => exact observed report (some retryAfter) generation
  | keyFailure failureClass =>
    have released := registry.releaseRouteLease_generation now lease.route generation
    simpa [finish, observesRouteOnly, observeKeyFailureAt_routes, carried] using released
  | keyFailureWithRetry failureClass retryAfter =>
    have released := registry.releaseRouteLease_generation now lease.route generation
    simpa [finish, observesRouteOnly, observeKeyFailureAt_routes, carried] using released
  | uncertainRouteFailure failureClass =>
    unfold finish
    dsimp only
    split
    next rearmed applied =>
      have rearms : registry.rearmsProbe lease = true := by
        by_contra kept
        have missing := (reapplyConcurrencyProbeDelay_none_iff
          (registry.releaseKeyLease lease.key lease.keyGeneration now) now lease).mpr
          (by simpa [rearmsProbe] using kept)
        simp [missing] at applied
      rw [reapplyConcurrencyProbeDelay_generation _ now applied]
      simp [observesRouteOnly, rearms]
    next kept =>
      have rearms : registry.rearmsProbe lease = false :=
        (reapplyConcurrencyProbeDelay_none_iff
          (registry.releaseKeyLease lease.key lease.keyGeneration now) now lease).mp kept
      rw [observed]
      simp only [observesRouteOnly, rearms, Bool.not_false, Bool.true_and]
      exact Iff.rfl
  | cancelled =>
    unfold finish
    dsimp only
    split
    next rearmed applied =>
      have returned := reapplyConcurrencyProbeDelay_generation _ now applied
      simp [observesRouteOnly, releaseKeyLease, returned]
    next =>
      have released := registry.releaseRouteLease_generation now lease.route generation
      simpa [observesRouteOnly, releaseKeyLease, carried] using released

theorem finish_key_generation_iff (digest : List UInt8 → Nat) (lease : HealthLease)
    (outcome : RouteOutcome) {generation : Nat}
    (carried : lease.keyGeneration = some generation) :
    ((registry.finish digest lease outcome now).keys.lookup lease.key).bind
      (·.halfOpenGeneration) = some generation ↔
      registry.observesKeyOnly outcome = true ∧
        (registry.keys.lookup lease.key).bind (·.halfOpenGeneration) = some generation := by
  have released := registry.releaseKeyLease_generation now lease.key generation
  have observed := (registry.releaseRouteLease lease.route lease.routeGeneration
    now).observeKeyFailureAt_generation_iff now digest lease.key
  cases outcome with
  | success =>
    cases found : registry.keys.lookup lease.key <;>
      simp [finish, clearRouteForSuccess, clearKey, carried, observesKeyOnly, found,
        HealthState.clear]
  | routeFailure report =>
    simpa [finish, observesKeyOnly, observeRouteFailureAt_keys, carried] using released
  | routeFailureWithRetry report retryAfter =>
    simpa [finish, observesKeyOnly, observeRouteFailureAt_keys, carried] using released
  | keyFailure failureClass => exact observed failureClass none generation
  | keyFailureWithRetry failureClass retryAfter =>
    exact observed failureClass (some retryAfter) generation
  | uncertainRouteFailure failureClass =>
    unfold finish
    dsimp only
    split
    next rearmed applied =>
      obtain ⟨_, _, _, -, -, -, -, rfl⟩ := reapplyConcurrencyProbeDelay_some _ now applied
      simpa [observesKeyOnly, carried] using released
    next => simpa [observesKeyOnly, observeRouteFailureAt_keys, carried] using released
  | cancelled =>
    unfold finish
    dsimp only
    split
    next rearmed applied =>
      obtain ⟨_, _, _, -, -, -, -, rfl⟩ := reapplyConcurrencyProbeDelay_some _ now applied
      simpa [observesKeyOnly, releaseKeyLease, carried] using released
    next => simpa [observesKeyOnly, releaseKeyLease, releaseRouteLease, carried] using released

end Entries

theorem holdsRouteLease_iff (registry : RouteHealthRegistry) (lease : HealthLease) :
    registry.holdsRouteLease lease = true ↔ ∃ generation,
      lease.routeGeneration = some generation ∧
        (registry.routes.lookup lease.route).bind (·.halfOpenGeneration) = some generation := by
  unfold holdsRouteLease
  cases lease.routeGeneration <;> simp

theorem holdsKeyLease_iff (registry : RouteHealthRegistry) (lease : HealthLease) :
    registry.holdsKeyLease lease = true ↔ ∃ generation,
      lease.keyGeneration = some generation ∧
        (registry.keys.lookup lease.key).bind (·.halfOpenGeneration) = some generation := by
  unfold holdsKeyLease
  cases lease.keyGeneration <;> simp

end RouteHealthRegistry

section Returned

variable {system : HealthSystem}

theorem Generations.finish_returned (digest : List UInt8 → Nat) (generations : Generations system)
    (small : system.grantCount < 2 ^ 64) {lease : HealthLease} (issued : lease ∈ system.leases)
    (outcome : RouteOutcome) (now : Instant)
    (released : system.registry.withholds lease outcome = false) :
    (system.registry.finish digest lease outcome now).Returned lease := by
  simp only [RouteHealthRegistry.withholds, Bool.or_eq_false_iff] at released
  refine ⟨fun generation carried route held => ?_, fun generation carried key held => ?_⟩
  · have before := ((HealthOperation.finish lease outcome).apply_route_effects digest now
      system.registry route).generation held
    replace before := before.resolve_right fun granted => by
      obtain ⟨_, fresh, -⟩ := HealthOperation.routePermit_grant granted
      cases fresh
    cases generations.route_of_held small issued carried before
    obtain ⟨observed, kept⟩ :=
      (system.registry.finish_route_generation_iff now digest lease outcome carried).mp held
    have holds := (system.registry.holdsRouteLease_iff lease).mpr ⟨generation, carried, kept⟩
    simp [observed, holds] at released
  · have before := ((HealthOperation.finish lease outcome).apply_key_effects digest now
      system.registry key).generation held
    replace before := before.resolve_right fun granted => by
      obtain ⟨_, fresh, -⟩ := HealthOperation.keyPermit_grant granted
      cases fresh
    cases generations.key_of_held small issued carried before
    obtain ⟨observed, kept⟩ :=
      (system.registry.finish_key_generation_iff now digest lease outcome carried).mp held
    have holds := (system.registry.holdsKeyLease_iff lease).mpr ⟨generation, carried, kept⟩
    simp [observed, holds] at released

theorem RouteHealthRegistry.finish_withheld (digest : List UInt8 → Nat)
    (registry : RouteHealthRegistry) (lease : HealthLease)
    (outcome : RouteOutcome) (now : Instant)
    (withheld : registry.withholds lease outcome = true) :
    ¬(registry.finish digest lease outcome now).Returned lease := by
  intro returned
  simp only [withholds, Bool.or_eq_true, Bool.and_eq_true] at withheld
  rcases withheld with ⟨observed, holds⟩ | ⟨observed, holds⟩
  · obtain ⟨generation, carried, held⟩ := (registry.holdsRouteLease_iff lease).mp holds
    exact returned.route generation carried lease.route
      ((registry.finish_route_generation_iff now digest lease outcome carried).mpr ⟨observed, held⟩)
  · obtain ⟨generation, carried, held⟩ := (registry.holdsKeyLease_iff lease).mp holds
    exact returned.key generation carried lease.key
      ((registry.finish_key_generation_iff now digest lease outcome carried).mpr ⟨observed, held⟩)

end Returned

/-- Finishing a lease gives its generations back exactly when the outcome does not merely observe
a capacity failure on an entry that still records them; once back, they stay back. -/
theorem finish_gives_lease_back_iff (digest : List UInt8 → Nat) (system : HealthSystem)
    (reachable : system.Reachable digest) (small : system.grantCount < 2 ^ 64)
    (lease : HealthLease) (issued : lease ∈ system.leases) (outcome : RouteOutcome) (now : Instant)
    (forward : system.now ≤ now) :
    ((system.perform digest (.finish lease outcome) now).registry.Returned lease ↔
      system.registry.withholds lease outcome = false) ∧
    (system.registry.withholds lease outcome = false → ∀ later,
      Transition.Steps (HealthStep digest) (fun _ _ => True)
        (system.perform digest (.finish lease outcome) now) later →
      later.grantCount < 2 ^ 64 → later.registry.Returned lease) := by
  have back := fun released =>
    reachable.generations.finish_returned digest small issued outcome now released
  refine ⟨⟨fun returned => ?_, back⟩, fun released later run bound => ?_⟩
  · by_contra withheld
    exact system.registry.finish_withheld digest lease outcome now (by simpa using withheld) returned
  · have finished : (system.perform digest (.finish lease outcome) now).Reachable digest :=
      reachable.advance (.operate system (.finish lease outcome) now forward issued)
    refine finished.issued_invariant run bound (List.mem_append_right _ issued)
      (fun current => current.registry.Returned lease) (back released) ?_
    intro before label after step generations bound member returned
    exact ⟨fun generation carried route => step.route_not_regranted generations bound member
        (.inr carried) route (returned.route generation carried route),
      fun generation carried key => step.key_not_regranted generations bound member
        (.inl carried) key (returned.key generation carried key)⟩

theorem finish_gives_lease_back_on_success :
    (probingSystem.perform (fun _ => 0) (.finish exampleProbe .success)
      (Duration.fromSecs 11)).registry.Returned exampleProbe :=
  ((finish_gives_lease_back_iff (fun _ => 0) probingSystem probingSystem_reachable
    (by decide +kernel) exampleProbe (by decide +kernel) .success (Duration.fromSecs 11)
    (by decide +kernel)).1).mpr (by decide +kernel)

/-- A probe answered with 429 stays on its route under the default settings, and the next request
finds the route busy. -/
theorem rateLimited_probe_keeps_lease :
    probingSystem.Reachable (fun _ => 0) ∧ exampleProbe ∈ probingSystem.leases ∧
      ¬(probingSystem.perform (fun _ => 0)
        (.finish exampleProbe (.routeFailure { failureClass := .rateLimited }))
        (Duration.fromSecs 11)).registry.Returned exampleProbe ∧
      ((probingSystem.perform (fun _ => 0)
        (.finish exampleProbe (.routeFailure { failureClass := .rateLimited }))
        (Duration.fromSecs 11)).registry.reserve exampleRoute exampleKey
        (Duration.fromSecs 12)).2 = .ok (.halfOpenBusy .rateLimited (Duration.fromSecs 1) none) := by
  refine ⟨probingSystem_reachable, by decide +kernel, fun returned => ?_, by decide +kernel⟩
  exact returned.route 1 rfl exampleRoute (by decide +kernel)

end ChatGateway
