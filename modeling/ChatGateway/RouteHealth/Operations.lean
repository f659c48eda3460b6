import ChatGateway.RouteHealth.Effects

set_option autoImplicit false

/-!
# Operations of the registry

The calls a request or an operator can make, and the permit each of them has on the entry of a
route or key.
-/

namespace ChatGateway

inductive HealthOperation where
  | reserve (route : RouteHealthKey) (key : KeyHealthKey)
  | reserveRouteHealthProbe (route : RouteHealthKey) (key : KeyHealthKey)
  | finish (lease : HealthLease) (outcome : RouteOutcome)
  | observeRouteFailure (route : RouteHealthKey) (failureClass : RouteFailureClass)
      (retryAfter : Option Duration) (sharedHostFailureDomain : Bool)
  | observeKeyFailure (key : KeyHealthKey) (failureClass : RouteFailureClass)
      (retryAfter : Option Duration)
  | clearRouteHealth (route : RouteHealthKey)
  | removeClearedRouteAndKey (route : RouteHealthKey) (key : KeyHealthKey)
  | retainRoutes (routeIsCurrent : RouteHealthKey → Bool) (keyIsCurrent : KeyHealthKey → Bool)
  | updateRuntimeTuning (settings : RouteHealthSettings)
  | setRouteHealthEnforcementEnabled (enabled : Bool)

namespace RouteHealthRegistry

def successClears (lease : HealthLease) (state : HealthState) : Bool :=
  (lease.routeGeneration.isSome && state.halfOpenGeneration == lease.routeGeneration) ||
    (lease.routeGeneration.isNone && lease.routeStateGeneration == some state.stateGeneration)

def rearmsProbe (registry : RouteHealthRegistry) (lease : HealthLease) : Bool :=
  (registry.routes.lookup lease.route).any fun state =>
    state.lastFailureClass = some .concurrencySaturated ∧ lease.routeGeneration.isSome ∧
      state.halfOpenGeneration = lease.routeGeneration

def routeFailurePermit (registry : RouteHealthRegistry) (report : RouteFailureReport) : Permit :=
  { clear := !routeFailureHasCooldown report.failureClass
    fail := routeFailureHasCooldown report.failureClass && !registry.observesRouteCapacity report }

def keyFailurePermit (registry : RouteHealthRegistry) (failureClass : RouteFailureClass) :
    Permit :=
  { clear := !keyFailureHasCooldown failureClass
    fail := keyFailureHasCooldown failureClass && !registry.observesKeyCapacity failureClass }

def finishRoutePermit (registry : RouteHealthRegistry) (lease : HealthLease) :
    RouteOutcome → Permit
  | .success =>
    { release := lease.routeGeneration
      clear := (registry.routes.lookup lease.route).any (successClears lease) }
  | .routeFailure report | .routeFailureWithRetry report _ =>
    { registry.routeFailurePermit report with release := lease.routeGeneration }
  | .uncertainRouteFailure failureClass =>
    if registry.rearmsProbe lease then
      { release := lease.routeGeneration }
    else
      { registry.routeFailurePermit { failureClass := failureClass } with
        release := lease.routeGeneration }
  | .keyFailure _ | .keyFailureWithRetry _ _ | .cancelled => { release := lease.routeGeneration }

def finishKeyPermit (registry : RouteHealthRegistry) (lease : HealthLease) : RouteOutcome → Permit
  | .success => { release := lease.keyGeneration, clear := lease.keyGeneration.isSome }
  | .keyFailure failureClass | .keyFailureWithRetry failureClass _ =>
    { registry.keyFailurePermit failureClass with release := lease.keyGeneration }
  | .routeFailure _ | .routeFailureWithRetry _ _ | .uncertainRouteFailure _ | .cancelled =>
    { release := lease.keyGeneration }

end RouteHealthRegistry

def issuedLease : Option ReserveAnswer → Option HealthLease
  | some (.ok (.ready lease)) => some lease
  | _ => none

namespace HealthOperation

section Apply

variable (digest : List UInt8 → Nat)

def apply (operation : HealthOperation) (now : Instant) (registry : RouteHealthRegistry) :
    RouteHealthRegistry × Option ReserveAnswer :=
  match operation with
  | .reserve route key =>
    let reserved := registry.reserve route key now
    (reserved.1, some reserved.2)
  | .reserveRouteHealthProbe route key =>
    let reserved := registry.reserveRouteHealthProbe route key now
    (reserved.1, some reserved.2)
  | .finish lease outcome => (registry.finish digest lease outcome now, none)
  | .observeRouteFailure route failureClass retryAfter sharedHostFailureDomain =>
    (registry.observeRouteFailure digest route failureClass retryAfter sharedHostFailureDomain now,
      none)
  | .observeKeyFailure key failureClass retryAfter =>
    (registry.observeKeyFailure digest key failureClass retryAfter now, none)
  | .clearRouteHealth route => (registry.clearRouteHealth route now, none)
  | .removeClearedRouteAndKey route key => (registry.removeClearedRouteAndKey route key, none)
  | .retainRoutes routeIsCurrent keyIsCurrent =>
    (registry.retainRoutes routeIsCurrent keyIsCurrent now, none)
  | .updateRuntimeTuning settings => (registry.updateRuntimeTuning settings now, none)
  | .setRouteHealthEnforcementEnabled enabled =>
    (registry.setRouteHealthEnforcementEnabled enabled, none)

end Apply

def routePermit (registry : RouteHealthRegistry) (operation : HealthOperation)
    (answer : Option ReserveAnswer) (route : RouteHealthKey) : Permit :=
  match operation with
  | .reserve _ _ | .reserveRouteHealthProbe _ _ =>
    { grant := (issuedLease answer).bind fun lease =>
        if lease.route = route then lease.routeGeneration else none }
  | .finish lease outcome =>
    if lease.route = route then registry.finishRoutePermit lease outcome else {}
  | .observeRouteFailure failed failureClass _ sharedHostFailureDomain =>
    if failed = route then
      registry.routeFailurePermit
        { failureClass := failureClass, sharedHostFailureDomain := sharedHostFailureDomain }
    else {}
  | .clearRouteHealth cleared => { clear := cleared = route }
  | .updateRuntimeTuning _ => { retune := true }
  | .observeKeyFailure _ _ _ | .removeClearedRouteAndKey _ _ | .retainRoutes _ _
  | .setRouteHealthEnforcementEnabled _ => {}

def keyPermit (registry : RouteHealthRegistry) (operation : HealthOperation)
    (answer : Option ReserveAnswer) (key : KeyHealthKey) : Permit :=
  match operation with
  | .reserve _ _ | .reserveRouteHealthProbe _ _ =>
    { grant := (issuedLease answer).bind fun lease =>
        if lease.key = key then lease.keyGeneration else none }
  | .finish lease outcome =>
    if lease.key = key then registry.finishKeyPermit lease outcome else {}
  | .observeKeyFailure failed failureClass _ =>
    if failed = key then registry.keyFailurePermit failureClass else {}
  | .updateRuntimeTuning _ => { retune := true }
  | .observeRouteFailure _ _ _ _ | .clearRouteHealth _ | .removeClearedRouteAndKey _ _
  | .retainRoutes _ _ | .setRouteHealthEnforcementEnabled _ => {}

end HealthOperation

end ChatGateway
