import ChatGateway.RouteHealth.HealthState
import ChatGateway.Shared.Table
import Mathlib.Data.List.MinMax
import Mathlib.Data.Prod.Lex

set_option autoImplicit false

/-!
# The process-local health registry

`RouteHealthRegistry` of `route_health.rs`. Every operation takes the instant it runs at; a
failed `expect` is the `error` result with the text of the panic, and it keeps what the operation
had written before it.
-/

namespace ChatGateway

structure RouteHealthRegistry where
  routes : Table RouteHealthKey HealthState
  keys : Table KeyHealthKey HealthState
  routeCapacity : Nat
  perUpstreamCapacity : Nat
  nextGeneration : Nat
  tuning : RouteHealthTuning
  cooldownSkippedTotal : Table String Nat

abbrev ReserveAnswer := Except String (RouteAvailability HealthLease)

namespace HealthState

/-- `expect` on the failure class of a route or key that is about to be refused. -/
def refusal (state : HealthState) (message : String)
    (answer : RouteFailureClass → RouteAvailability HealthLease) : ReserveAnswer :=
  match state.lastFailureClass with
  | some failureClass => .ok (answer failureClass)
  | none => .error message

def coolingRefusal (state : HealthState) (subject : String) (now : Instant) : ReserveAnswer :=
  state.refusal ("cooling " ++ subject ++ " health must retain its failure class") fun c =>
    .cooling c (state.retryAfter now) state.lastFailureStatus

def halfOpenRefusal (state : HealthState) (subject : String) : ReserveAnswer :=
  state.refusal ("half-open " ++ subject ++ " health must retain its failure class") fun c =>
    .halfOpenBusy c halfOpenBusyRetry state.lastFailureStatus

/-- How `reserve` treats the entry of a key or of a route: the entry it leaves and its refusal. -/
def reserveGate (subject : String) (now : Instant) (state : HealthState) :
    HealthState × Option ReserveAnswer :=
  let state := state.touch now
  if state.isCooling now then
    (state, some (state.coolingRefusal subject now))
  else if state.halfOpenGeneration.isSome then
    if state.halfOpenExpiresAt.all (· ≤ now) then
      (state.dropHalfOpen, none)
    else if state.halfOpenExclusiveUntil.any (now < ·) then
      (state, some (state.halfOpenRefusal subject))
    else
      (state, none)
  else
    (state, none)

def probeKeyGate (now : Instant) (state : HealthState) : HealthState × Option ReserveAnswer :=
  let state := state.touch now
  if state.isCooling now then
    (state, some (state.coolingRefusal "key" now))
  else if state.isActive now then
    (state, some (state.halfOpenRefusal "key"))
  else
    (state, none)

end HealthState

def gateEntry {K : Type} [DecidableEq K] (table : Table K HealthState) (key : K)
    (gate : HealthState → HealthState × Option ReserveAnswer) :
    Table K HealthState × Option ReserveAnswer :=
  match table.lookup key with
  | none => (table, none)
  | some state => (table.modify key fun _ => (gate state).1, (gate state).2)

namespace RouteHealthRegistry

def newWithRuntimeTuningAndEnforcement (routeCapacity perUpstreamCapacity : Nat)
    (settings : RouteHealthSettings) : RouteHealthRegistry where
  routes := ∅
  keys := ∅
  routeCapacity := max routeCapacity 1
  perUpstreamCapacity := max perUpstreamCapacity 1
  nextGeneration := 0
  tuning := settings.normalize
  cooldownSkippedTotal := ∅

def clampDeadline (bound : Instant) (deadline : Option Instant) : Option Instant :=
  deadline.map (min · bound)

def updateRuntimeTuning (registry : RouteHealthRegistry) (settings : RouteHealthSettings)
    (now : Instant) : RouteHealthRegistry :=
  let tuning := settings.normalize
  let clampHalfOpen (state : HealthState) : HealthState :=
    { state with
      halfOpenExpiresAt := clampDeadline (now + tuning.halfOpenTtl) state.halfOpenExpiresAt
      halfOpenExclusiveUntil :=
        clampDeadline (now + tuning.halfOpenExclusiveWindow) state.halfOpenExclusiveUntil }
  { registry with
    tuning := tuning
    routes := registry.routes.mapEntries fun _ state =>
      clampHalfOpen
        (if state.lastFailureClass = some .transientServer then
          { state with
            cooldownUntil :=
              clampDeadline (now + tuning.transientRouteCooldownMax) state.cooldownUntil }
        else state)
    keys := registry.keys.mapEntries fun _ state => clampHalfOpen state }

def setRouteHealthEnforcementEnabled (registry : RouteHealthRegistry) (enabled : Bool) :
    RouteHealthRegistry :=
  { registry with tuning := { registry.tuning with enforcementEnabled := enabled } }

def bumpNextGeneration (registry : RouteHealthRegistry) : RouteHealthRegistry :=
  { registry with nextGeneration := bumpGeneration registry.nextGeneration }

def reserveExpiredHalfOpenKey (registry : RouteHealthRegistry) (key : KeyHealthKey)
    (now : Instant) : RouteHealthRegistry × Option Nat :=
  if (registry.keys.lookup key).any (·.canReserve now) then
    let registry := registry.bumpNextGeneration
    let generation := registry.nextGeneration
    ({ registry with
        keys := registry.keys.modify key fun state =>
          (state.grantHalfOpen generation (now + registry.tuning.halfOpenTtl)
            (now + registry.tuning.halfOpenExclusiveWindow)).touch now },
      some generation)
  else
    (registry, none)

def reserveExpiredHalfOpenRoute (registry : RouteHealthRegistry) (route : RouteHealthKey)
    (now : Instant) : RouteHealthRegistry × Option Nat :=
  if (registry.routes.lookup route).any (·.canReserve now) then
    let registry := registry.bumpNextGeneration
    let generation := registry.nextGeneration
    ({ registry with
        routes := registry.routes.modify route fun state =>
          (state.grantHalfOpen generation (now + registry.tuning.halfOpenTtl)
            (now + registry.tuning.halfOpenExclusiveWindow)).touch now },
      some generation)
  else
    (registry, none)

def passthroughAdmission (registry : RouteHealthRegistry) (route : RouteHealthKey)
    (key : KeyHealthKey) (now : Instant) : RouteHealthRegistry × ReserveAnswer :=
  let registry :=
    { registry with
      keys := registry.keys.modify key (·.touch now)
      routes := registry.routes.modify route (·.touch now) }
  (registry, .ok (.ready
    { route := route
      key := key
      keyGeneration := none
      routeGeneration := none
      routeStateGeneration := (registry.routes.lookup route).map (·.stateGeneration)
      halfOpen := false }))

def admitReserved (registry : RouteHealthRegistry) (route : RouteHealthKey) (key : KeyHealthKey)
    (now : Instant) : RouteHealthRegistry × ReserveAnswer :=
  let reservedKey := registry.reserveExpiredHalfOpenKey key now
  let reservedRoute := reservedKey.1.reserveExpiredHalfOpenRoute route now
  (reservedRoute.1, .ok (.ready
    { route := route
      key := key
      keyGeneration := reservedKey.2
      routeGeneration := reservedRoute.2
      routeStateGeneration := (registry.routes.lookup route).map (·.stateGeneration)
      halfOpen := reservedKey.2.isSome || reservedRoute.2.isSome }))

def reserve (registry : RouteHealthRegistry) (route : RouteHealthKey) (key : KeyHealthKey)
    (now : Instant) : RouteHealthRegistry × ReserveAnswer :=
  if !registry.tuning.enforcementEnabled then
    registry.passthroughAdmission route key now
  else
    let gatedKey := gateEntry registry.keys key (HealthState.reserveGate "key" now)
    match gatedKey.2 with
    | some answer => ({ registry with keys := gatedKey.1 }, answer)
    | none =>
      let gatedRoute := gateEntry registry.routes route (HealthState.reserveGate "route" now)
      let registry := { registry with keys := gatedKey.1, routes := gatedRoute.1 }
      match gatedRoute.2 with
      | some answer => (registry, answer)
      | none => registry.admitReserved route key now

def probeRouteRefusal (state : HealthState) (now : Instant) (failureClass : RouteFailureClass) :
    Option (RouteAvailability HealthLease) :=
  if state.isActive now then
    some (.halfOpenBusy failureClass halfOpenBusyRetry state.lastFailureStatus)
  else if !state.isCooling now then
    -- A route that is not cooling is left to the ordinary `reserve`.
    some (.cooling failureClass 0 state.lastFailureStatus)
  else
    match state.lastEarlyProbeAt with
    | some lastProbe =>
      let elapsed := now - lastProbe
      if elapsed < halfOpenBusyRetry then
        some (.halfOpenBusy failureClass
          (max (halfOpenBusyRetry - elapsed) (Duration.fromMillis 1)) state.lastFailureStatus)
      else
        none
    | none => none

def grantRouteHealthProbe (registry : RouteHealthRegistry) (route : RouteHealthKey)
    (key : KeyHealthKey) (state : HealthState) (now : Instant) :
    RouteHealthRegistry × ReserveAnswer :=
  let reservedKey := registry.reserveExpiredHalfOpenKey key now
  let registry := reservedKey.1.bumpNextGeneration
  let routeGeneration := registry.nextGeneration
  let halfOpenTtl := registry.tuning.halfOpenTtl
  let exclusiveUntil :=
    min (max (state.cooldownUntil.getD now) (now + registry.tuning.halfOpenExclusiveWindow))
      (now + halfOpenTtl)
  ({ registry with
      routes := registry.routes.modify route fun state =>
        { state.grantHalfOpen routeGeneration (now + halfOpenTtl) exclusiveUntil with
          lastEarlyProbeAt := some now } },
    .ok (.ready
      { route := route
        key := key
        keyGeneration := reservedKey.2
        routeGeneration := some routeGeneration
        routeStateGeneration := some state.stateGeneration
        halfOpen := true }))

def reserveRouteHealthProbe (registry : RouteHealthRegistry) (route : RouteHealthKey)
    (key : KeyHealthKey) (now : Instant) : RouteHealthRegistry × ReserveAnswer :=
  if !registry.tuning.enforcementEnabled then
    registry.passthroughAdmission route key now
  else
    let gatedKey := gateEntry registry.keys key (HealthState.probeKeyGate now)
    let registry := { registry with keys := gatedKey.1 }
    match gatedKey.2 with
    | some answer => (registry, answer)
    | none =>
      match registry.routes.lookup route with
      | none => (registry, .ok (.cooling .transientServer 0 none))
      | some state =>
        let registry := { registry with routes := registry.routes.modify route (·.touch now) }
        -- The class is demanded before the route is known to be cooling.
        match state.lastFailureClass with
        | none => (registry, .error "cooling route health must retain its failure class")
        | some failureClass =>
          match probeRouteRefusal state now failureClass with
          | some answer => (registry, .ok answer)
          | none => registry.grantRouteHealthProbe route key state now

def clearRoute (registry : RouteHealthRegistry) (route : RouteHealthKey) (now : Instant) :
    RouteHealthRegistry :=
  { registry with routes := registry.routes.modify route (·.clear now) }

def clearKey (registry : RouteHealthRegistry) (key : KeyHealthKey) (now : Instant) :
    RouteHealthRegistry :=
  { registry with keys := registry.keys.modify key (·.clear now) }

def clearRouteForSuccess (registry : RouteHealthRegistry) (lease : HealthLease) (now : Instant) :
    RouteHealthRegistry :=
  { registry with
    routes := registry.routes.modify lease.route fun state =>
      let ownsHalfOpen :=
        lease.routeGeneration.isSome && state.halfOpenGeneration == lease.routeGeneration
      let sameObservation :=
        lease.routeGeneration.isNone && lease.routeStateGeneration == some state.stateGeneration
      if ownsHalfOpen || sameObservation then state.clear now else state }

def reapplyConcurrencyProbeDelay (registry : RouteHealthRegistry) (lease : HealthLease)
    (now : Instant) : Option RouteHealthRegistry :=
  match registry.routes.lookup lease.route with
  | none => none
  | some state =>
    if state.lastFailureClass = some .concurrencySaturated ∧ lease.routeGeneration.isSome ∧
        state.halfOpenGeneration = lease.routeGeneration then
      let delay := sequenceDelay registry.tuning.concurrencyProbeDelays state.consecutiveFailures
      some { registry with
        routes := registry.routes.modify lease.route fun state =>
          { state.dropHalfOpen with cooldownUntil := some (now + delay), lastAccess := now } }
    else
      none

def releaseRouteLease (registry : RouteHealthRegistry) (route : RouteHealthKey)
    (generation : Option Nat) (now : Instant) : RouteHealthRegistry :=
  { registry with routes := registry.routes.modify route (·.releaseHalfOpen generation now) }

def releaseKeyLease (registry : RouteHealthRegistry) (key : KeyHealthKey)
    (generation : Option Nat) (now : Instant) : RouteHealthRegistry :=
  { registry with keys := registry.keys.modify key (·.releaseHalfOpen generation now) }

@[simp] theorem clearKey_routes (registry : RouteHealthRegistry) (key : KeyHealthKey)
    (now : Instant) : (registry.clearKey key now).routes = registry.routes := rfl

@[simp] theorem releaseKeyLease_routes (registry : RouteHealthRegistry) (key : KeyHealthKey)
    (generation : Option Nat) (now : Instant) :
    (registry.releaseKeyLease key generation now).routes = registry.routes := rfl

@[simp] theorem releaseRouteLease_keys (registry : RouteHealthRegistry) (route : RouteHealthKey)
    (generation : Option Nat) (now : Instant) :
    (registry.releaseRouteLease route generation now).keys = registry.keys := rfl

@[simp] theorem clearRouteForSuccess_keys (registry : RouteHealthRegistry) (lease : HealthLease)
    (now : Instant) : (registry.clearRouteForSuccess lease now).keys = registry.keys := rfl

def ensureKeyCapacity (registry : RouteHealthRegistry) (key : KeyHealthKey) (now : Instant) :
    Option RouteHealthRegistry :=
  if (registry.keys.lookup key).isSome then
    some registry
  else
    let upstreamCount := (registry.keys.keys.filter (·.upstreamId = key.upstreamId)).length
    let globalFull := registry.routeCapacity ≤ registry.keys.entries.length
    let upstreamFull := registry.perUpstreamCapacity ≤ upstreamCount
    if ¬globalFull ∧ ¬upstreamFull then
      some registry
    else
      let eligible := registry.keys.entries.filter fun entry =>
        (!upstreamFull || entry.1.upstreamId = key.upstreamId) && !entry.2.isActive now
      match eligible.argmin fun entry => toLex (entry.2.isCooling now, entry.2.lastAccess) with
      | some candidate => some { registry with keys := registry.keys.erase candidate.1 }
      | none => none

def ensureRouteCapacity (registry : RouteHealthRegistry) (route : RouteHealthKey)
    (now : Instant) : Option RouteHealthRegistry :=
  if (registry.routes.lookup route).isSome then
    some registry
  else
    let upstreamCount := (registry.routes.keys.filter (·.upstreamId = route.upstreamId)).length
    let globalFull := registry.routeCapacity ≤ registry.routes.entries.length
    let upstreamFull := registry.perUpstreamCapacity ≤ upstreamCount
    if globalFull ∨ upstreamFull then
      let eligible := registry.routes.entries.filter fun entry =>
        (!upstreamFull || entry.1.upstreamId = route.upstreamId) && !entry.2.isActive now
      let idle := eligible.filter fun entry => !entry.2.isCooling now
      match (idle.argmin (·.2.lastAccess)).orElse fun _ => eligible.argmin (·.2.lastAccess) with
      | some candidate => some { registry with routes := registry.routes.erase candidate.1 }
      | none => none
    else
      some registry

def countCooldownSkipped (registry : RouteHealthRegistry) (upstreamId : String) :
    RouteHealthRegistry :=
  let count := (registry.cooldownSkippedTotal.lookup upstreamId).getD 0
  { registry with
    cooldownSkippedTotal := registry.cooldownSkippedTotal.insert upstreamId (count + 1) }

def upsertRoute (registry : RouteHealthRegistry) (route : RouteHealthKey) (now : Instant)
    (update : HealthState → HealthState) : RouteHealthRegistry :=
  let state := (registry.routes.lookup route).getD (HealthState.new now)
  { registry with routes := registry.routes.insert route (update state) }

def upsertKey (registry : RouteHealthRegistry) (key : KeyHealthKey) (now : Instant)
    (update : HealthState → HealthState) : RouteHealthRegistry :=
  let state := (registry.keys.lookup key).getD (HealthState.new now)
  { registry with keys := registry.keys.insert key (update state) }

def observeCapacityRouteFailureAt (registry : RouteHealthRegistry) (route : RouteHealthKey)
    (failureClass : RouteFailureClass) (upstreamStatus : Option Nat) (now : Instant) :
    RouteHealthRegistry :=
  match registry.ensureRouteCapacity route now with
  | none => registry
  | some registry =>
    (registry.countCooldownSkipped route.upstreamId).upsertRoute route now
      (HealthState.noteRouteCapacity failureClass upstreamStatus now)

def observeCapacityKeyFailureAt (registry : RouteHealthRegistry) (key : KeyHealthKey)
    (failureClass : RouteFailureClass) (now : Instant) : RouteHealthRegistry :=
  match registry.ensureKeyCapacity key now with
  | none => registry
  | some registry =>
    (registry.countCooldownSkipped key.upstreamId).upsertKey key now
      (HealthState.noteKeyCapacity failureClass now)

def removeClearedRouteAndKey (registry : RouteHealthRegistry) (route : RouteHealthKey)
    (key : KeyHealthKey) : RouteHealthRegistry :=
  { registry with
    routes :=
      if (registry.routes.lookup route).any (·.isClear) then registry.routes.erase route
      else registry.routes
    keys :=
      if (registry.keys.lookup key).any (·.isClear) then registry.keys.erase key
      else registry.keys }

def retainRoutes (registry : RouteHealthRegistry) (routeIsCurrent : RouteHealthKey → Bool)
    (keyIsCurrent : KeyHealthKey → Bool) (now : Instant) : RouteHealthRegistry :=
  { registry with
    routes := registry.routes.retain fun route state => routeIsCurrent route || state.isActive now
    keys := registry.keys.retain fun key state => keyIsCurrent key || state.isActive now }

def clearRouteHealth (registry : RouteHealthRegistry) (route : RouteHealthKey) (now : Instant) :
    RouteHealthRegistry :=
  registry.clearRoute route now

section Failures

variable (digest : List UInt8 → Nat)

/-- Whether a capacity failure of a route is only observed: the switch is off, or the route is
the only one for its model and protocol. -/
def observesRouteCapacity (registry : RouteHealthRegistry) (report : RouteFailureReport) : Bool :=
  isCapacityClass report.failureClass &&
    (!registry.tuning.capacityFailureCooldownEnabled || report.capacitySoleRoute)

def observesKeyCapacity (registry : RouteHealthRegistry) (failureClass : RouteFailureClass) :
    Bool :=
  isCapacityClass failureClass && !registry.tuning.capacityFailureCooldownEnabled

def observeRouteFailureAt (registry : RouteHealthRegistry) (route : RouteHealthKey)
    (report : RouteFailureReport) (explicitRetry : Option Duration) (now : Instant) :
    RouteHealthRegistry :=
  if !routeFailureHasCooldown report.failureClass then
    registry.clearRoute route now
  else if registry.observesRouteCapacity report then
    registry.observeCapacityRouteFailureAt route report.failureClass report.upstreamStatus now
  else
    match registry.ensureRouteCapacity route now with
    | none => registry
    | some registry =>
      registry.upsertRoute route now
        (HealthState.recordRouteFailure digest registry.tuning route report explicitRetry now)

def observeKeyFailureAt (registry : RouteHealthRegistry) (key : KeyHealthKey)
    (failureClass : RouteFailureClass) (explicitRetry : Option Duration) (now : Instant) :
    RouteHealthRegistry :=
  if !keyFailureHasCooldown failureClass then
    registry.clearKey key now
  else if registry.observesKeyCapacity failureClass then
    registry.observeCapacityKeyFailureAt key failureClass now
  else
    match registry.ensureKeyCapacity key now with
    | none => registry
    | some registry =>
      registry.upsertKey key now
        (HealthState.recordKeyFailure digest registry.tuning key failureClass explicitRetry now)

def finish (registry : RouteHealthRegistry) (lease : HealthLease) (outcome : RouteOutcome)
    (now : Instant) : RouteHealthRegistry :=
  match outcome with
  | .success =>
    let registry := registry.clearRouteForSuccess lease now
    if lease.keyGeneration.isSome then
      registry.clearKey lease.key now
    else
      registry.releaseKeyLease lease.key lease.keyGeneration now
  | .routeFailure report =>
    (registry.releaseKeyLease lease.key lease.keyGeneration now).observeRouteFailureAt digest
      lease.route report none now
  | .routeFailureWithRetry report retryAfter =>
    (registry.releaseKeyLease lease.key lease.keyGeneration now).observeRouteFailureAt digest
      lease.route report (some retryAfter) now
  | .keyFailure failureClass =>
    (registry.releaseRouteLease lease.route lease.routeGeneration now).observeKeyFailureAt digest
      lease.key failureClass none now
  | .keyFailureWithRetry failureClass retryAfter =>
    (registry.releaseRouteLease lease.route lease.routeGeneration now).observeKeyFailureAt digest
      lease.key failureClass (some retryAfter) now
  | .uncertainRouteFailure failureClass =>
    let registry := registry.releaseKeyLease lease.key lease.keyGeneration now
    match registry.reapplyConcurrencyProbeDelay lease now with
    | some registry => registry
    | none =>
      registry.observeRouteFailureAt digest lease.route { failureClass := failureClass } none now
  | .cancelled =>
    let registry := match registry.reapplyConcurrencyProbeDelay lease now with
      | some registry => registry
      | none => registry.releaseRouteLease lease.route lease.routeGeneration now
    registry.releaseKeyLease lease.key lease.keyGeneration now

def observeRouteFailure (registry : RouteHealthRegistry) (route : RouteHealthKey)
    (failureClass : RouteFailureClass) (retryAfter : Option Duration)
    (sharedHostFailureDomain : Bool) (now : Instant) : RouteHealthRegistry :=
  registry.observeRouteFailureAt digest route
    { failureClass := failureClass, sharedHostFailureDomain := sharedHostFailureDomain }
    retryAfter now

def observeKeyFailure (registry : RouteHealthRegistry) (key : KeyHealthKey)
    (failureClass : RouteFailureClass) (retryAfter : Option Duration) (now : Instant) :
    RouteHealthRegistry :=
  registry.observeKeyFailureAt digest key failureClass retryAfter now

end Failures

end RouteHealthRegistry

end ChatGateway
