import ChatGateway.RouteHealth.LeaseReturn

set_option autoImplicit false

/-!
# Successes that come after newer failures

A request that was admitted before another one failed may still succeed. What its success does to
the evidence of the failure depends on two counters: the generations of half-open leases, and the
`state_generation` an entry counts its failures with, which starts over when the entry is removed.
-/

namespace ChatGateway

namespace HealthState

def evidence (state : HealthState) : Option Instant × Option RouteFailureClass × Nat :=
  (state.cooldownUntil, state.lastFailureClass, state.consecutiveFailures)

def hasEvidence (state : HealthState) : Bool :=
  state.evidence != (none, none, 0)

theorem evidence_clear (state : HealthState) (now : Instant) :
    (state.clear now).evidence = state.evidence ↔ state.hasEvidence = false := by
  rw [hasEvidence, bne_eq_false_iff_eq]
  exact eq_comm

end HealthState

namespace RouteHealthRegistry

def routeEvidence (registry : RouteHealthRegistry) (route : RouteHealthKey) :
    Option (Option Instant × Option RouteFailureClass × Nat) :=
  (registry.routes.lookup route).map (·.evidence)

def keyEvidence (registry : RouteHealthRegistry) (key : KeyHealthKey) :
    Option (Option Instant × Option RouteFailureClass × Nat) :=
  (registry.keys.lookup key).map (·.evidence)

/-- A lease without a half-open generation whose captured count of failures is again the count of
the entry, on which there is evidence to erase. -/
def mistakesRoute (registry : RouteHealthRegistry) (lease : HealthLease) : Bool :=
  lease.routeGeneration.isNone && (registry.routes.lookup lease.route).any fun state =>
    lease.routeStateGeneration == some state.stateGeneration && state.hasEvidence

def mistakesKey (registry : RouteHealthRegistry) (lease : HealthLease) : Bool :=
  lease.keyGeneration.isSome && (registry.keys.lookup lease.key).any (·.hasEvidence)

variable (digest : List UInt8 → Nat) (registry : RouteHealthRegistry) (lease : HealthLease)
  (now : Instant)

theorem finish_success_routeEvidence
    (disowned : registry.holdsRouteLease lease = false) :
    (registry.finish digest lease .success now).routeEvidence lease.route =
        registry.routeEvidence lease.route ↔
      registry.mistakesRoute lease = false := by
  have routes : (registry.finish digest lease .success now).routes =
      (registry.clearRouteForSuccess lease now).routes := by
    unfold finish
    dsimp only
    split <;> rfl
  unfold routeEvidence mistakesRoute
  rw [routes]
  cases found : registry.routes.lookup lease.route with
  | none => simp [clearRouteForSuccess, found]
  | some state =>
    simp only [holdsRouteLease, found, Option.bind_some] at disowned
    simp only [clearRouteForSuccess, Table.lookup_modify_self, found, Option.map_some,
      Option.any_some, disowned, Bool.false_or, Option.some.injEq]
    split
    next cleared =>
      rw [Bool.and_eq_true] at cleared
      rw [cleared.1, cleared.2, Bool.true_and, Bool.true_and]
      exact state.evidence_clear now
    next kept =>
      rw [← Bool.and_assoc, Bool.not_eq_true _ |>.mp kept]
      simp

theorem finish_success_keyEvidence :
    (registry.finish digest lease .success now).keyEvidence lease.key =
        registry.keyEvidence lease.key ↔
      registry.mistakesKey lease = false := by
  unfold keyEvidence mistakesKey finish
  dsimp only
  cases found : registry.keys.lookup lease.key with
  | none => split <;> simp [clearKey, releaseKeyLease, found]
  | some state =>
    split
    next leased =>
      simp only [clearKey, clearRouteForSuccess_keys, Table.lookup_modify_self, found,
        Option.map_some, Option.any_some, leased, Bool.true_and, Option.some.injEq]
      exact state.evidence_clear now
    next unleased =>
      simp only [releaseKeyLease, clearRouteForSuccess_keys, Table.lookup_modify_self, found,
        Option.map_some, Option.some.injEq, HealthState.releaseHalfOpen, unleased, Bool.false_and,
        Bool.false_eq_true, if_false]
      exact iff_true_intro rfl

end RouteHealthRegistry

namespace HealthOperation

def RecordsRouteFailure (registry : RouteHealthRegistry) (route : RouteHealthKey)
    (operation : HealthOperation) : Prop :=
  (routePermit registry operation none route).fail = true

def RecordsKeyFailure (registry : RouteHealthRegistry) (key : KeyHealthKey)
    (operation : HealthOperation) : Prop :=
  (keyPermit registry operation none key).fail = true

theorem RecordsRouteFailure.generation {digest : List UInt8 → Nat} {operation : HealthOperation}
    {now : Instant} {registry : RouteHealthRegistry} {route : RouteHealthKey}
    (records : operation.RecordsRouteFailure registry route) :
    ((operation.apply digest now registry).1.routes.lookup route).bind (·.halfOpenGeneration) =
      none := by
  have failed {report : RouteFailureReport} (fails : (registry.routeFailurePermit report).fail = true) :
      registry.observesRouteCapacity report = false := by
    simp only [RouteHealthRegistry.routeFailurePermit, Bool.and_eq_true, Bool.not_eq_true'] at fails
    exact fails.2
  cases operation with
  | finish lease outcome =>
    simp only [RecordsRouteFailure, routePermit] at records
    split at records
    next same =>
      subst same
      have observed := (registry.releaseKeyLease lease.key lease.keyGeneration
        now).observeRouteFailureAt_generation now digest lease.route
      cases outcome with
      | routeFailure report => exact observed report none (failed records)
      | routeFailureWithRetry report retryAfter =>
        exact observed report (some retryAfter) (failed records)
      | uncertainRouteFailure failureClass =>
        simp only [RouteHealthRegistry.finishRoutePermit] at records
        split at records
        next => cases records
        next kept =>
          have missing := (RouteHealthRegistry.reapplyConcurrencyProbeDelay_none_iff
            (registry.releaseKeyLease lease.key lease.keyGeneration now) now lease).mpr
            (by simpa [RouteHealthRegistry.rearmsProbe] using kept)
          simp only [apply, RouteHealthRegistry.finish, missing]
          exact observed _ none (failed records)
      | _ => cases records
    next => cases records
  | observeRouteFailure other failureClass retryAfter shared =>
    simp only [RecordsRouteFailure, routePermit] at records
    split at records
    next same =>
      subst same
      exact registry.observeRouteFailureAt_generation now digest other _ retryAfter (failed records)
    next => cases records
  | _ => cases records

end HealthOperation

/-- After another request recorded a failure with a cooldown on the route (or the key) of an
issued lease, a success of that lease leaves the evidence on the route (or the key) alone exactly
when it does not mistake the entry for the one it was admitted on. -/
theorem stale_success_keeps_evidence_iff (digest : List UInt8 → Nat) (system : HealthSystem)
    (reachable : system.Reachable digest) (lease : HealthLease) (issued : lease ∈ system.leases)
    (operation : HealthOperation) (failed : HealthSystem)
    (failure : HealthStep digest system (some operation) failed) (last : HealthSystem)
    (run : Transition.Steps (HealthStep digest) (fun _ _ => True) failed last)
    (small : last.grantCount < 2 ^ 64) (now : Instant) :
    (operation.RecordsRouteFailure system.registry lease.route →
      ((last.registry.finish digest lease .success now).routeEvidence lease.route =
        last.registry.routeEvidence lease.route ↔ last.registry.mistakesRoute lease = false)) ∧
    (operation.RecordsKeyFailure system.registry lease.key →
      ((last.registry.finish digest lease .success now).keyEvidence lease.key =
        last.registry.keyEvidence lease.key ↔ last.registry.mistakesKey lease = false)) := by
  refine ⟨fun records => last.registry.finish_success_routeEvidence digest lease now ?_,
    fun _ => last.registry.finish_success_keyEvidence digest lease now⟩
  have next : failed.Reachable digest := reachable.advance failure
  have gone : ∀ generation, lease.routeGeneration = some generation →
      (last.registry.routes.lookup lease.route).bind (·.halfOpenGeneration) ≠ some generation := by
    refine next.issued_invariant run small (failure.leases_grow issued)
      (fun current => ∀ generation, lease.routeGeneration = some generation →
        (current.registry.routes.lookup lease.route).bind (·.halfOpenGeneration) ≠
          some generation) ?_ ?_
    · intro generation _
      cases failure with
      | operate _ now =>
        rw [HealthSystem.perform, records.generation]
        simp
    · intro before label after step generations bound member gone generation carried
      exact step.route_not_regranted generations bound member (.inr carried) lease.route
        (gone generation carried)
  by_contra holds
  obtain ⟨generation, carried, held⟩ :=
    (last.registry.holdsRouteLease_iff lease).mp (by simpa using holds)
  exact gone generation carried held

def exampleBystander : HealthLease := ⟨exampleRoute, exampleKey, none, none, some 1, false⟩

def bystandingSystem : HealthSystem :=
  probingSystem.perform (fun _ => 0) (.reserve exampleRoute exampleKey) (Duration.fromSecs 14)

theorem bystandingSystem_reachable : bystandingSystem.Reachable (fun _ => 0) :=
  probingSystem_reachable.advance (.operate _ _ _ (by decide +kernel) trivial)

theorem stale_success_keeps_newer_failure :
    ((bystandingSystem.perform (fun _ => 0)
      (.observeRouteFailure exampleRoute .transport none false) (Duration.fromSecs 15)).registry.finish
      (fun _ => 0) exampleBystander .success (Duration.fromSecs 16)).routeEvidence exampleRoute =
    (bystandingSystem.perform (fun _ => 0)
      (.observeRouteFailure exampleRoute .transport none false)
      (Duration.fromSecs 15)).registry.routeEvidence exampleRoute :=
  ((stale_success_keeps_evidence_iff (fun _ => 0) bystandingSystem bystandingSystem_reachable
    exampleBystander (by decide +kernel) (.observeRouteFailure exampleRoute .transport none false) _
    (.operate _ _ (Duration.fromSecs 15) (by decide +kernel) trivial) _ .refl (by decide +kernel)
    (Duration.fromSecs 16)).1 rfl).mpr (by decide +kernel)

/-- Settling the probe removes the entry of the route, so a later failure counts from the start
again and the bystander takes it for the one it saw; and a probe of a key clears failures of the
key that came after it. -/
theorem stale_success_erases_newer_failure :
    (∃ (system failed : HealthSystem) (operation : HealthOperation),
      system.Reachable (fun _ => 0) ∧ exampleBystander ∈ system.leases ∧
      HealthStep (fun _ => 0) system (some operation) failed ∧
      operation.RecordsRouteFailure system.registry exampleRoute ∧
      (failed.registry.finish (fun _ => 0) exampleBystander .success
        (Duration.fromSecs 17)).routeEvidence exampleRoute ≠
        failed.registry.routeEvidence exampleRoute) ∧
    ∃ (system failed : HealthSystem) (lease : HealthLease) (operation : HealthOperation),
      system.Reachable (fun _ => 0) ∧ lease ∈ system.leases ∧
      HealthStep (fun _ => 0) system (some operation) failed ∧
      operation.RecordsKeyFailure system.registry exampleKey ∧
      (failed.registry.finish (fun _ => 0) lease .success
        (Duration.fromSecs 102)).keyEvidence exampleKey ≠
        failed.registry.keyEvidence exampleKey := by
  constructor
  · refine ⟨_, _, .observeRouteFailure exampleRoute .transport none false,
      HealthSystem.replay_reachable _
        [(.finish exampleProbe .success, Duration.fromSecs 15),
          (.removeClearedRouteAndKey exampleRoute exampleKey, Duration.fromSecs 15)]
        bystandingSystem_reachable rfl, ?_,
      .operate _ _ (Duration.fromSecs 16) ?_ trivial, rfl, ?_⟩ <;> decide +kernel
  · refine ⟨_, _, ⟨exampleRoute, exampleKey, some 1, none, none, true⟩,
      .observeKeyFailure exampleKey .credentials none,
      HealthSystem.replay_reachable _
        [(.observeKeyFailure exampleKey .credentials none, 0),
          (.reserve exampleRoute exampleKey, Duration.fromSecs 100)]
        (HealthSystem.start_reachable _ 16_384 4_096 .default 0) rfl, ?_,
      .operate _ _ (Duration.fromSecs 101) ?_ trivial, rfl, ?_⟩ <;> decide +kernel

end ChatGateway
