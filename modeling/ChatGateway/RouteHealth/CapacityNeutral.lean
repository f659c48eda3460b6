import ChatGateway.RouteHealth.Views

set_option autoImplicit false

/-!
# Capacity failures in the local registry

A rate-limited route or a key over its quota is healthy but full: with the capacity cooldown
switched off such a failure is only noted.
-/

namespace ChatGateway

namespace HealthOperation

def CapacityFailure : HealthOperation → Prop
  | .finish _ (.routeFailure report) | .finish _ (.routeFailureWithRetry report _) =>
    report.failureClass = .rateLimited
  | .finish _ (.keyFailure failureClass) | .finish _ (.keyFailureWithRetry failureClass _) =>
    failureClass = .keyQuota
  | .observeRouteFailure _ failureClass _ _ => failureClass = .rateLimited
  | .observeKeyFailure _ failureClass _ => failureClass = .keyQuota
  | _ => False

end HealthOperation

def HoldsProbe (now : Instant) (entry : Option HealthState) (generation : Option Nat) : Prop :=
  ∃ state, entry = some state ∧ generation.isSome ∧ state.halfOpenGeneration = generation ∧
    state.isActive now = true

namespace RouteHealthRegistry

def RouteKeepsOthers (registry : RouteHealthRegistry) (route : RouteHealthKey) (now : Instant) :
    Prop :=
  ∀ room, registry.ensureRouteCapacity route now = some room → room.routes = registry.routes

def KeyKeepsOthers (registry : RouteHealthRegistry) (key : KeyHealthKey) (now : Instant) : Prop :=
  ∀ room, registry.ensureKeyCapacity key now = some room → room.keys = registry.keys

def CapacityKept (registry : RouteHealthRegistry) (now : Instant) : HealthOperation → Prop
  | .finish lease (.routeFailure _) | .finish lease (.routeFailureWithRetry _ _) =>
    registry.RouteKeepsOthers lease.route now ∧
      ¬ HoldsProbe now (registry.keys.lookup lease.key) lease.keyGeneration
  | .finish lease (.keyFailure _) | .finish lease (.keyFailureWithRetry _ _) =>
    registry.KeyKeepsOthers lease.key now ∧
      ¬ HoldsProbe now (registry.routes.lookup lease.route) lease.routeGeneration
  | .observeRouteFailure route _ _ _ => registry.RouteKeepsOthers route now
  | .observeKeyFailure key _ _ => registry.KeyKeepsOthers key now
  | _ => True

end RouteHealthRegistry

structure SameHealth (before after : Option HealthState) : Prop where
  cooldownUntil : after.bind HealthState.cooldownUntil = before.bind HealthState.cooldownUntil
  consecutiveFailures : (after.map HealthState.consecutiveFailures).getD 0 =
    (before.map HealthState.consecutiveFailures).getD 0

structure HealthNeutral (now : Instant) (before after : RouteHealthRegistry) : Prop where
  routes : ∀ route, SameHealth (before.routes.lookup route) (after.routes.lookup route)
  keys : ∀ key, SameHealth (before.keys.lookup key) (after.keys.lookup key)
  reserves : ∀ later, now ≤ later → ∀ requests,
    after.reserveAll later requests = before.reserveAll later requests

structure EntryNoted (now : Instant) (before after : Option HealthState) : Prop where
  health : SameHealth before after
  view : ∀ later, now ≤ later → entryView later after = entryView later before

namespace EntryNoted

variable {now : Instant} {entry before after : Option HealthState}

theorem refl (now : Instant) (entry : Option HealthState) : EntryNoted now entry entry :=
  ⟨⟨rfl, rfl⟩, fun _ _ => rfl⟩

theorem trans {middle : Option HealthState} (early : EntryNoted now before middle)
    (late : EntryNoted now middle after) : EntryNoted now before after :=
  ⟨⟨late.health.1.trans early.health.1, late.health.2.trans early.health.2⟩,
    fun later forward => (late.view later forward).trans (early.view later forward)⟩

theorem routeNote (entry : Option HealthState) (failureClass : RouteFailureClass)
    (status : Option Nat) :
    EntryNoted now entry
      (some ((entry.getD (.new now)).noteRouteCapacity failureClass status now)) := by
  cases entry <;> exact ⟨⟨rfl, rfl⟩, fun _ _ => rfl⟩

theorem keyNote (entry : Option HealthState) (failureClass : RouteFailureClass) :
    EntryNoted now entry (some ((entry.getD (.new now)).noteKeyCapacity failureClass now)) := by
  cases entry <;> exact ⟨⟨rfl, rfl⟩, fun _ _ => rfl⟩

theorem release (entry : Option HealthState) {generation : Option Nat}
    (idle : ¬ HoldsProbe now entry generation) :
    EntryNoted now entry (entry.map (·.releaseHalfOpen generation now)) := by
  cases entry with
  | none => exact refl now none
  | some state =>
    unfold HealthState.releaseHalfOpen
    rw [Option.map_some]
    split
    next held =>
      simp only [Bool.and_eq_true, beq_iff_eq] at held
      refine ⟨⟨rfl, rfl⟩, fun later forward => ?_⟩
      have dead : state.isActive later = false := by
        by_contra alive
        rw [Bool.not_eq_false, HealthState.isActive, Bool.and_eq_true, Option.any_eq_true] at alive
        obtain ⟨leased, expiresAt, expiry, ahead⟩ := alive
        refine idle ⟨state, rfl, held.1, held.2, ?_⟩
        simp only [HealthState.isActive, leased, expiry, Option.any_some, Bool.true_and]
        exact decide_eq_true (Nat.lt_of_le_of_lt forward (of_decide_eq_true ahead))
      have dropped : (state.dropHalfOpen.touch now).isActive later = false := rfl
      simp only [entryView, Option.map_some, Option.getD_some, HealthState.view, dead, dropped]
      rfl
    next => exact ⟨⟨rfl, rfl⟩, fun _ _ => rfl⟩

end EntryNoted

namespace RouteHealthRegistry

variable {registry : RouteHealthRegistry} {now : Instant}

structure Noted (now : Instant) (before after : RouteHealthRegistry) : Prop where
  routes : ∀ route, EntryNoted now (before.routes.lookup route) (after.routes.lookup route)
  keys : ∀ key, EntryNoted now (before.keys.lookup key) (after.keys.lookup key)
  tuning : after.tuning = before.tuning
  nextGeneration : after.nextGeneration = before.nextGeneration

theorem Noted.refl (now : Instant) (registry : RouteHealthRegistry) : Noted now registry registry :=
  ⟨fun _ => .refl _ _, fun _ => .refl _ _, rfl, rfl⟩

theorem Noted.trans {first second third : RouteHealthRegistry} (early : Noted now first second)
    (late : Noted now second third) : Noted now first third :=
  ⟨fun route => (early.routes route).trans (late.routes route),
    fun key => (early.keys key).trans (late.keys key), late.tuning.trans early.tuning,
    late.nextGeneration.trans early.nextGeneration⟩

theorem ensureRouteCapacity_withKeys (registry : RouteHealthRegistry)
    (keys : Table KeyHealthKey HealthState) (route : RouteHealthKey) (now : Instant) :
    ({ registry with keys := keys }).ensureRouteCapacity route now =
      (registry.ensureRouteCapacity route now).map fun room => { room with keys := keys } := by
  unfold ensureRouteCapacity
  dsimp only
  split
  · rfl
  · split
    · split
      next chosen => rw [chosen, Option.map_some]
      next chosen => rw [chosen, Option.map_none]
    · rfl

theorem ensureKeyCapacity_withRoutes (registry : RouteHealthRegistry)
    (routes : Table RouteHealthKey HealthState) (key : KeyHealthKey) (now : Instant) :
    ({ registry with routes := routes }).ensureKeyCapacity key now =
      (registry.ensureKeyCapacity key now).map fun room => { room with routes := routes } := by
  unfold ensureKeyCapacity
  dsimp only
  split
  · rfl
  · split
    · rfl
    · split
      next chosen => rw [chosen, Option.map_some]
      next chosen => rw [chosen, Option.map_none]

theorem RouteKeepsOthers.releaseKey {route : RouteHealthKey}
    (kept : registry.RouteKeepsOthers route now) (key : KeyHealthKey) (generation : Option Nat) :
    (registry.releaseKeyLease key generation now).RouteKeepsOthers route now := by
  intro room made
  rw [releaseKeyLease, ensureRouteCapacity_withKeys] at made
  obtain ⟨made', found, rfl⟩ := Option.map_eq_some_iff.mp made
  exact kept made' found

theorem KeyKeepsOthers.releaseRoute {key : KeyHealthKey}
    (kept : registry.KeyKeepsOthers key now) (route : RouteHealthKey) (generation : Option Nat) :
    (registry.releaseRouteLease route generation now).KeyKeepsOthers key now := by
  intro room made
  rw [releaseRouteLease, ensureKeyCapacity_withRoutes] at made
  obtain ⟨made', found, rfl⟩ := Option.map_eq_some_iff.mp made
  exact kept made' found

theorem observeCapacityRoute_noted {route : RouteHealthKey}
    (kept : registry.RouteKeepsOthers route now) (failureClass : RouteFailureClass)
    (status : Option Nat) :
    Noted now registry (registry.observeCapacityRouteFailureAt route failureClass status now) := by
  unfold observeCapacityRouteFailureAt
  split
  next => exact .refl now registry
  next room made =>
    have routes := kept room made
    rw [(registry.ensureRouteCapacity_some now made).1, routes]
    refine ⟨fun other => ?_, fun _ => .refl _ _, rfl, rfl⟩
    simp only [upsertRoute, countCooldownSkipped, Table.lookup_insert_eq]
    split
    next same =>
      rw [same]
      exact .routeNote _ failureClass status
    next => exact .refl _ _

theorem observeCapacityKey_noted {key : KeyHealthKey} (kept : registry.KeyKeepsOthers key now)
    (failureClass : RouteFailureClass) :
    Noted now registry (registry.observeCapacityKeyFailureAt key failureClass now) := by
  unfold observeCapacityKeyFailureAt
  split
  next => exact .refl now registry
  next room made =>
    have keys := kept room made
    rw [(registry.ensureKeyCapacity_some now made).1, keys]
    refine ⟨fun _ => .refl _ _, fun other => ?_, rfl, rfl⟩
    simp only [upsertKey, countCooldownSkipped, Table.lookup_insert_eq]
    split
    next same =>
      rw [same]
      exact .keyNote _ failureClass
    next => exact .refl _ _

theorem releaseKeyLease_noted (registry : RouteHealthRegistry) (key : KeyHealthKey)
    {generation : Option Nat} (idle : ¬ HoldsProbe now (registry.keys.lookup key) generation) :
    Noted now registry (registry.releaseKeyLease key generation now) := by
  refine ⟨fun _ => .refl _ _, fun other => ?_, rfl, rfl⟩
  simp only [releaseKeyLease, Table.lookup_modify]
  split
  next same =>
    rw [same]
    exact .release _ idle
  next => exact .refl _ _

theorem releaseRouteLease_noted (registry : RouteHealthRegistry) (route : RouteHealthKey)
    {generation : Option Nat} (idle : ¬ HoldsProbe now (registry.routes.lookup route) generation) :
    Noted now registry (registry.releaseRouteLease route generation now) := by
  refine ⟨fun other => ?_, fun _ => .refl _ _, rfl, rfl⟩
  simp only [releaseRouteLease, Table.lookup_modify]
  split
  next same =>
    rw [same]
    exact .release _ idle
  next => exact .refl _ _

section Failures

variable (digest : List UInt8 → Nat)

theorem observeRouteFailureAt_noted {route : RouteHealthKey} {report : RouteFailureReport}
    (kept : registry.RouteKeepsOthers route now)
    (rateLimited : report.failureClass = .rateLimited)
    (disabled : registry.tuning.capacityFailureCooldownEnabled = false)
    (explicitRetry : Option Duration) :
    Noted now registry (registry.observeRouteFailureAt digest route report explicitRetry now) := by
  have capacity : registry.observesRouteCapacity report = true := by
    simp [observesRouteCapacity, rateLimited, isCapacityClass, disabled]
  rw [observeRouteFailureAt, if_neg (by simp [rateLimited, routeFailureHasCooldown]),
    if_pos capacity]
  exact observeCapacityRoute_noted kept _ _

theorem observeKeyFailureAt_noted {key : KeyHealthKey} (kept : registry.KeyKeepsOthers key now)
    (disabled : registry.tuning.capacityFailureCooldownEnabled = false)
    (explicitRetry : Option Duration) :
    Noted now registry (registry.observeKeyFailureAt digest key .keyQuota explicitRetry now) := by
  have capacity : registry.observesKeyCapacity .keyQuota = true := by
    simp [observesKeyCapacity, isCapacityClass, disabled]
  rw [observeKeyFailureAt, if_neg (by simp [keyFailureHasCooldown]), if_pos capacity]
  exact observeCapacityKey_noted kept _

theorem capacityFailure_noted {operation : HealthOperation} (failure : operation.CapacityFailure)
    (disabled : registry.tuning.capacityFailureCooldownEnabled = false)
    (kept : registry.CapacityKept now operation) :
    Noted now registry (operation.apply digest now registry).1 := by
  unfold HealthOperation.CapacityFailure at failure
  split at failure
  case h_1 | h_2 =>
    exact (registry.releaseKeyLease_noted _ kept.2).trans
      (observeRouteFailureAt_noted digest (kept.1.releaseKey _ _) failure disabled _)
  case h_3 | h_4 =>
    subst failure
    exact (registry.releaseRouteLease_noted _ kept.2).trans
      (observeKeyFailureAt_noted digest (kept.1.releaseRoute _ _) disabled _)
  case h_5 => exact observeRouteFailureAt_noted digest kept failure disabled _
  case h_6 =>
    subst failure
    exact observeKeyFailureAt_noted digest kept disabled _
  case h_7 => exact failure.elim

end Failures

end RouteHealthRegistry

theorem RouteHealthRegistry.Noted.neutral {now : Instant} {before after : RouteHealthRegistry}
    (noted : Noted now before after) (beforeSound : before.EveryEntry EntrySound)
    (afterSound : after.EveryEntry EntrySound) : HealthNeutral now before after := by
  refine ⟨fun route => (noted.routes route).health, fun key => (noted.keys key).health, ?_⟩
  intro later forward requests
  refine Alike.reserveAll ⟨fun route => ?_, fun key => ?_, noted.tuning, noted.nextGeneration⟩ requests
  · exact ⟨afterSound.1 route, beforeSound.1 route, (noted.routes route).view later forward⟩
  · exact ⟨afterSound.2 key, beforeSound.2 key, (noted.keys key).view later forward⟩

-- In every run, a capacity failure that evicts nothing and ends no foreign probe is neutral.
theorem capacityFailure_neutral {digest : List UInt8 → Nat} {system : HealthSystem}
    (reachable : system.Reachable digest) {operation : HealthOperation} {now : Instant}
    (forward : system.now ≤ now) (issued : operation.LeaseIssued system.leases)
    (failure : operation.CapacityFailure)
    (disabled : system.registry.tuning.capacityFailureCooldownEnabled = false)
    (kept : system.registry.CapacityKept now operation) :
    HealthNeutral now system.registry (system.perform digest operation now).registry := by
  have next : (system.perform digest operation now).Reachable digest :=
    reachable.advance (.operate system operation now forward issued)
  exact (RouteHealthRegistry.capacityFailure_noted digest failure disabled kept).neutral
    reachable.sound next.sound

end ChatGateway
