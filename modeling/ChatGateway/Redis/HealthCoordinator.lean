import ChatGateway.RouteHealth.HealthState
import ChatGateway.Redis.HealthScripts

set_option autoImplicit false

/-!
# The Redis side of route health

How `RedisRuntimeCoordinator` names its keys and fills the arguments of the scripts.
-/

namespace ChatGateway

structure HealthNames where
  keyState : KeyHealthKey → String
  routeState : RouteHealthKey → String
  keyIndex : String → String
  routeIndex : String → String
  allKeys : String
  allRoutes : String
  finishMarker : String → String
  keyState_injective : Function.Injective keyState
  routeState_injective : Function.Injective routeState
  states_disjoint : ∀ key route, keyState key ≠ routeState route

namespace HealthNames

def keySlot (names : HealthNames) (key : KeyHealthKey) : StateSlot where
  stateKey := names.keyState key
  upstreamIndex := names.keyIndex key.upstreamId
  globalIndex := names.allKeys

def routeSlot (names : HealthNames) (route : RouteHealthKey) : StateSlot where
  stateKey := names.routeState route
  upstreamIndex := names.routeIndex route.upstreamId
  globalIndex := names.allRoutes

def slots (names : HealthNames) (route : RouteHealthKey) (key : KeyHealthKey) : HealthKeys where
  key := names.keySlot key
  route := names.routeSlot route

end HealthNames

def fieldCode (fields : List String) : List Char :=
  fields.flatMap fun field => field.toList.flatMap (fun char => ['.', char]) ++ ['/']

theorem fieldCode_injective : Function.Injective fieldCode := by
  have head (left right : List Char) (afterLeft afterRight : List Char)
      (same : left.flatMap (fun char => ['.', char]) ++ '/' :: afterLeft =
        right.flatMap (fun char => ['.', char]) ++ '/' :: afterRight) :
      left = right ∧ afterLeft = afterRight := by
    induction left generalizing right with
    | nil => cases right <;> simp_all
    | cons char left ih =>
      cases right with
      | nil => simp at same
      | cons other right =>
        simp only [List.flatMap_cons, List.cons_append, List.nil_append, List.cons.injEq,
          true_and] at same
        obtain ⟨rest, after⟩ := ih right same.2
        exact ⟨by rw [same.1, rest], after⟩
  intro left right same
  induction left generalizing right with
  | nil =>
    cases right with
    | nil => rfl
    | cons other right =>
      have code := congrArg List.length same
      simp [fieldCode] at code
  | cons field left ih =>
    cases right with
    | nil =>
      have code := congrArg List.length same
      simp [fieldCode] at code
    | cons other right =>
      simp only [fieldCode, List.flatMap_cons, List.append_assoc, List.singleton_append] at same
      obtain ⟨chars, rest⟩ := head _ _ _ _ same
      rw [String.toList_inj.mp chars, ih rest]

def plainNames : HealthNames where
  keyState key := String.ofList (fieldCode ["key", key.upstreamId, key.keyFingerprint])
  routeState route := String.ofList (fieldCode ["route", route.upstreamId, route.keyFingerprint,
    route.runtimeModelSlug, wireProtocolIdentity route.protocol])
  keyIndex upstreamId := "upstream:keys:" ++ upstreamId
  routeIndex upstreamId := "upstream:routes:" ++ upstreamId
  allKeys := "keys"
  allRoutes := "routes"
  finishMarker leaseId := "finish:" ++ leaseId
  keyState_injective := by
    intro left right same
    have fields := fieldCode_injective (String.ofList_injective same)
    cases left
    cases right
    simp_all
  routeState_injective := by
    intro left right same
    have fields := fieldCode_injective (String.ofList_injective same)
    have protocols : left.protocol = right.protocol := by
      have identities : wireProtocolIdentity left.protocol = wireProtocolIdentity right.protocol := by
        simp_all
      revert identities
      cases left.protocol <;> cases right.protocol <;> decide
    cases left
    cases right
    simp_all
  states_disjoint := by
    intro key route same
    have fields := fieldCode_injective (String.ofList_injective same)
    simp at fields

def routeHealthGlobalCapacity : Int := 16_384

def routeHealthPerUpstreamCapacity : Int := 4_096

def routeHealthFailureStreakResetMs : Int := 10 * 60 * 1_000

/-- `duration_millis_saturating` -/
def durationMillis (duration : Duration) : Int :=
  min duration.asMillis (2 ^ 64 - 1)

/-- `optional_duration_ms` -/
def optionalDurationMs : Option Duration → Int
  | some duration => min duration.asMillis (2 ^ 63 - 1)
  | none => -1

/-- `route_health_retention_ttl_seconds` -/
def routeHealthRetentionTtlSeconds (cooldown : Duration) : Int :=
  max (2 * 60 * 60) ((cooldown + 999_999_999) / 1_000_000_000 + 60 : Nat)

/-- `legacy_local_admission_cooldown_threshold` -/
def legacyLocalAdmissionCooldownThreshold (concurrencyProbeDelays : List Duration) : Duration :=
  (concurrencyProbeDelays.max?).getD (Duration.fromSecs 1) + Duration.fromSecs 60

section Schedules

variable (digest : List UInt8 → Nat)

def routeCooldownScheduleMs (tuning : RouteHealthTuning) (route : RouteHealthKey)
    (failureClass : RouteFailureClass) : List Int :=
  (List.range' 1 17).map fun step =>
    durationMillis (routeCooldownWithConcurrencyDelays digest failureClass step route
      tuning.concurrencyProbeDelays tuning.transientRouteCooldownBase
      tuning.transientRouteCooldownMax)

def keyCooldownScheduleMs (tuning : RouteHealthTuning) (key : KeyHealthKey)
    (failureClass : RouteFailureClass) : List Int :=
  let maximum := if failureClass = .credentials then keyCooldownMax else routeCooldownMax
  (List.range' 1 17).map fun step =>
    durationMillis (keyCooldown digest failureClass step key maximum tuning.credentialsFirstStrike)

end Schedules

def concurrencyProbeScheduleMs (delays : List Duration) : List Int :=
  (List.range' 1 17).map fun step => durationMillis (sequenceDelay delays step)

/-- `retention_ttl_seconds_for` -/
def retentionTtlSecondsFor (tuning : RouteHealthTuning) (retryAfter : Option Duration)
    (schedules : List (List Int)) : Int :=
  let scheduled := Duration.fromMillis ((schedules.flatten.max?.getD 0).toNat)
  max (routeHealthRetentionTtlSeconds tuning.transientRouteCooldownMax)
    (routeHealthRetentionTtlSeconds (max (retryAfter.getD 0) scheduled))

structure RedisHealthLease where
  route : RouteHealthKey
  key : KeyHealthKey
  leaseId : String
  keyGeneration : Option Nat
  routeGeneration : Option Nat
  routeStateGeneration : Option Nat
  halfOpen : Bool
  deriving DecidableEq, Repr

/-- `parse_route_health_reservation` -/
def parseRouteHealthReservation (reply : HealthReply) (route : RouteHealthKey)
    (key : KeyHealthKey) (leaseId : String) : RouteAvailability RedisHealthLease :=
  match reply with
  | .ready keyGeneration routeGeneration routeStateGeneration halfOpen =>
    .ready ⟨route, key, leaseId, keyGeneration, routeGeneration, routeStateGeneration, halfOpen⟩
  | .cooling failureClass retryMs status =>
    .cooling failureClass (Duration.fromMillis retryMs.toNat) status.toNat?
  | .halfOpenBusy failureClass retryMs status =>
    .halfOpenBusy failureClass (Duration.fromMillis retryMs.toNat) status.toNat?

structure RedisCoordinator where
  names : HealthNames
  tuning : RouteHealthTuning

structure OutcomeParts where
  outcome : FinishOutcome
  retryAfter : Option Duration := none
  upstreamStatus : Option Nat := none
  repeatWithinRequest : Bool := false
  sharedHostFailureDomain : Bool := false
  capacitySoleRoute : Bool := false

/-- `route_outcome_parts` -/
def routeOutcomeParts : RouteOutcome → OutcomeParts
  | .success => { outcome := .success }
  | .routeFailure report =>
    { outcome := .routeFailure report.failureClass
      upstreamStatus := report.upstreamStatus
      repeatWithinRequest := report.repeatWithinRequest || report.soleCandidate
      sharedHostFailureDomain := report.sharedHostFailureDomain
      capacitySoleRoute := report.capacitySoleRoute }
  | .routeFailureWithRetry report retryAfter =>
    { outcome := .routeFailure report.failureClass
      retryAfter := some retryAfter
      upstreamStatus := report.upstreamStatus
      repeatWithinRequest := report.repeatWithinRequest || report.soleCandidate
      sharedHostFailureDomain := report.sharedHostFailureDomain
      capacitySoleRoute := report.capacitySoleRoute }
  | .keyFailure failureClass => { outcome := .keyFailure failureClass }
  | .keyFailureWithRetry failureClass retryAfter =>
    { outcome := .keyFailure failureClass, retryAfter := some retryAfter }
  | .uncertainRouteFailure failureClass => { outcome := .uncertainRouteFailure failureClass }
  | .cancelled => { outcome := .cancelled }

def FinishOutcome.failureClass : FinishOutcome → Option RouteFailureClass
  | .routeFailure failureClass | .keyFailure failureClass | .uncertainRouteFailure failureClass =>
    some failureClass
  | .success | .cancelled => none

namespace RedisCoordinator

def reserveArgs (coordinator : RedisCoordinator) (leaseId : String) : ReserveArgs where
  leaseId := leaseId
  ttlSeconds := routeHealthRetentionTtlSeconds coordinator.tuning.transientRouteCooldownMax
  leaseDurationMs := coordinator.tuning.halfOpenTtl.asMillis
  legacyThresholdMs :=
    durationMillis (legacyLocalAdmissionCooldownThreshold coordinator.tuning.concurrencyProbeDelays)
  exclusiveWindowMs := coordinator.tuning.halfOpenExclusiveWindow.asMillis
  enforcementEnabled := coordinator.tuning.enforcementEnabled

/-- `reserve_route_health` -/
def reserveRouteHealth (coordinator : RedisCoordinator) (route : RouteHealthKey)
    (key : KeyHealthKey) (leaseId : String) (now : Int) (store : HealthStore) :
    RouteAvailability RedisHealthLease × HealthStore :=
  let (reply, store) := routeHealthReserve now (coordinator.reserveArgs leaseId)
    (coordinator.names.slots route key) store
  (parseRouteHealthReservation reply route key leaseId, store)

def routeObservationOnly (coordinator : RedisCoordinator) (parts : OutcomeParts) : Bool :=
  parts.outcome.failureClass.any fun failureClass =>
    isCapacityClass failureClass &&
      (!coordinator.tuning.capacityFailureCooldownEnabled || parts.capacitySoleRoute)

def keyObservationOnly (coordinator : RedisCoordinator) (parts : OutcomeParts) : Bool :=
  parts.outcome.failureClass.any fun failureClass =>
    isCapacityClass failureClass && !coordinator.tuning.capacityFailureCooldownEnabled

section Failures

variable (digest : List UInt8 → Nat)

def cooldownClass (parts : OutcomeParts) : Option RouteFailureClass :=
  parts.outcome.failureClass.map fun failureClass =>
    if parts.sharedHostFailureDomain && isSharedHostDomainClass failureClass then .edgeProxyError
    else failureClass

def routeSchedule (coordinator : RedisCoordinator) (route : RouteHealthKey)
    (parts : OutcomeParts) : List Int :=
  if coordinator.routeObservationOnly parts then []
  else
    match (cooldownClass parts).filter routeFailureHasCooldown with
    | some failureClass => routeCooldownScheduleMs digest coordinator.tuning route failureClass
    | none => []

def keySchedule (coordinator : RedisCoordinator) (key : KeyHealthKey) (parts : OutcomeParts) :
    List Int :=
  if coordinator.keyObservationOnly parts then []
  else
    match parts.outcome.failureClass.filter keyFailureHasCooldown with
    | some failureClass => keyCooldownScheduleMs digest coordinator.tuning key failureClass
    | none => []

/-- The arguments of `finish_route_health_once`. -/
def finishArgs (coordinator : RedisCoordinator) (lease : RedisHealthLease)
    (outcome : RouteOutcome) : FinishArgs :=
  let parts := routeOutcomeParts outcome
  let routeSchedule := coordinator.routeSchedule digest lease.route parts
  let keySchedule := coordinator.keySchedule digest lease.key parts
  let probeSchedule := concurrencyProbeScheduleMs coordinator.tuning.concurrencyProbeDelays
  { leaseId := lease.leaseId
    keyGeneration := lease.keyGeneration
    routeGeneration := lease.routeGeneration
    routeStateGeneration := lease.routeStateGeneration
    outcome := parts.outcome
    explicitRetryMs := optionalDurationMs parts.retryAfter
    streakResetMs := routeHealthFailureStreakResetMs
    ttlSeconds := retentionTtlSecondsFor coordinator.tuning parts.retryAfter
      [routeSchedule, keySchedule, probeSchedule]
    globalCapacity := routeHealthGlobalCapacity
    upstreamCapacity := routeHealthPerUpstreamCapacity
    upstreamId := lease.route.upstreamId
    keyFingerprint := lease.route.keyFingerprint
    modelSlug := lease.route.runtimeModelSlug
    protocol := wireProtocolIdentity lease.route.protocol
    failureStatus := (parts.upstreamStatus.map toString).getD ""
    repeatWithinRequest := parts.repeatWithinRequest || parts.sharedHostFailureDomain
    routeSchedule := routeSchedule
    keySchedule := keySchedule
    probeSchedule := probeSchedule
    maxStep := coordinator.tuning.transientRouteCooldownMaxStep
    routeObservationOnly := coordinator.routeObservationOnly parts
    keyObservationOnly := coordinator.keyObservationOnly parts }

/-- `finish_route_health_once`; a reply of `-1` or an invalid marker is a coordination error. -/
def finishRouteHealth (coordinator : RedisCoordinator) (lease : RedisHealthLease)
    (outcome : RouteOutcome) (now : Int) (store : HealthStore) : Except String Int × HealthStore :=
  routeHealthFinish now (coordinator.finishArgs digest lease outcome)
    (coordinator.names.slots lease.route lease.key) (coordinator.names.finishMarker lease.leaseId)
    store

/-- The arguments of `observe_health_state`. -/
def failureRecord (coordinator : RedisCoordinator) (failureClass : RouteFailureClass)
    (retryAfter : Option Duration) (exactRetry : Bool)
    (upstreamId keyFingerprint modelSlug protocol : String) (schedule : List Int)
    (observationOnly : Bool) : FailureRecord where
  failureClass := failureClass
  schedule := schedule
  explicitRetryMs := optionalDurationMs retryAfter
  exactRetry := exactRetry
  failureStatus := ""
  observationOnly := observationOnly
  upstreamId := upstreamId
  keyFingerprint := keyFingerprint
  modelSlug := modelSlug
  protocol := protocol
  streakResetMs := routeHealthFailureStreakResetMs
  ttlSeconds := retentionTtlSecondsFor coordinator.tuning retryAfter [schedule]
  globalCapacity := routeHealthGlobalCapacity
  upstreamCapacity := routeHealthPerUpstreamCapacity
  maxStep := coordinator.tuning.transientRouteCooldownMaxStep

def observedRouteRecord (coordinator : RedisCoordinator) (route : RouteHealthKey)
    (failureClass : RouteFailureClass) (retryAfter : Option Duration)
    (sharedHostFailureDomain : Bool) : FailureRecord :=
  let sharedHost := sharedHostFailureDomain && isSharedHostDomainClass failureClass
  if isCapacityClass failureClass && !coordinator.tuning.capacityFailureCooldownEnabled then
    coordinator.failureRecord failureClass none false route.upstreamId route.keyFingerprint
      route.runtimeModelSlug (wireProtocolIdentity route.protocol) [] true
  else
    coordinator.failureRecord failureClass retryAfter
      ((failureClass = .concurrencySaturated ∧ retryAfter.isSome) ∨ sharedHost)
      route.upstreamId route.keyFingerprint route.runtimeModelSlug
      (wireProtocolIdentity route.protocol)
      (routeCooldownScheduleMs digest coordinator.tuning route
        (if sharedHost then .edgeProxyError else failureClass)) false

/-- `observe_route_failure` -/
def observeRouteFailure (coordinator : RedisCoordinator) (route : RouteHealthKey)
    (failureClass : RouteFailureClass) (retryAfter : Option Duration)
    (sharedHostFailureDomain : Bool) (now : Int) (store : HealthStore) : Bool × HealthStore :=
  if !routeFailureHasCooldown failureClass then
    (true, routeHealthClear now (coordinator.names.routeSlot route) store)
  else
    routeHealthObserve now
      (coordinator.observedRouteRecord digest route failureClass retryAfter sharedHostFailureDomain)
      (coordinator.names.routeSlot route) store

def observedKeyRecord (coordinator : RedisCoordinator) (key : KeyHealthKey)
    (failureClass : RouteFailureClass) (retryAfter : Option Duration) : FailureRecord :=
  if isCapacityClass failureClass && !coordinator.tuning.capacityFailureCooldownEnabled then
    coordinator.failureRecord failureClass none false key.upstreamId key.keyFingerprint "" "" []
      true
  else
    coordinator.failureRecord failureClass retryAfter false key.upstreamId key.keyFingerprint "" ""
      (keyCooldownScheduleMs digest coordinator.tuning key failureClass) false

/-- `observe_key_failure` -/
def observeKeyFailure (coordinator : RedisCoordinator) (key : KeyHealthKey)
    (failureClass : RouteFailureClass) (retryAfter : Option Duration) (now : Int)
    (store : HealthStore) : Bool × HealthStore :=
  if !keyFailureHasCooldown failureClass then
    (true, routeHealthClear now (coordinator.names.keySlot key) store)
  else
    routeHealthObserve now (coordinator.observedKeyRecord digest key failureClass retryAfter)
      (coordinator.names.keySlot key) store

end Failures

end RedisCoordinator

end ChatGateway
