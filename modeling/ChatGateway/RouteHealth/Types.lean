import Mathlib.Algebra.GroupWithZero.Nat
import Mathlib.Data.List.Basic

set_option autoImplicit false

/-!
# Health of virtual routes

The data of `route_health.rs`: a virtual route is an upstream, one of its keys, a model and a
wire protocol, and every route and every key carries its own health state.
-/

namespace ChatGateway

abbrev Instant := Nat

abbrev Duration := Nat

namespace Duration

def fromSecs (seconds : Nat) : Duration := seconds * 1_000_000_000

def fromMillis (millis : Nat) : Duration := millis * 1_000_000

def asMillis (duration : Duration) : Nat := duration / 1_000_000

end Duration

inductive WireProtocol where
  | chatCompletions
  | responses
  | messages
  deriving DecidableEq, Repr

inductive RouteFailureClass where
  | capacityUnavailable
  | concurrencySaturated
  | transientServer
  | transport
  | rateLimited
  | keyQuota
  | credentials
  | modelUnsupported
  | featureUnsupported
  | protocolUnsupported
  | requestRejected
  | edgeProxyError
  deriving DecidableEq, Repr

namespace RouteFailureClass

def all : List RouteFailureClass :=
  [capacityUnavailable, concurrencySaturated, transientServer, transport, rateLimited, keyQuota,
    credentials, modelUnsupported, featureUnsupported, protocolUnsupported, requestRejected,
    edgeProxyError]

def isTemporary : RouteFailureClass → Bool
  | capacityUnavailable | concurrencySaturated | transientServer | transport | rateLimited
  | keyQuota | edgeProxyError => true
  | _ => false

def asStr : RouteFailureClass → String
  | capacityUnavailable => "capacity_unavailable"
  | concurrencySaturated => "concurrency_saturated"
  | transientServer => "transient_server"
  | transport => "transport"
  | rateLimited => "rate_limited"
  | keyQuota => "key_quota"
  | credentials => "credentials"
  | modelUnsupported => "model_unsupported"
  | featureUnsupported => "feature_unsupported"
  | protocolUnsupported => "protocol_unsupported"
  | requestRejected => "request_rejected"
  | edgeProxyError => "edge_proxy_error"

end RouteFailureClass

structure KeyHealthKey where
  upstreamId : String
  keyFingerprint : String
  deriving DecidableEq, Repr

structure RouteHealthKey where
  upstreamId : String
  keyFingerprint : String
  runtimeModelSlug : String
  protocol : WireProtocol
  deriving DecidableEq, Repr

inductive RouteAvailability (T : Type) where
  | ready (lease : T)
  | cooling (failureClass : RouteFailureClass) (retryAfter : Duration) (upstreamStatus : Option Nat)
  | halfOpenBusy (failureClass : RouteFailureClass) (retryAfter : Duration)
      (upstreamStatus : Option Nat)
  deriving DecidableEq, Repr

structure HealthLease where
  route : RouteHealthKey
  key : KeyHealthKey
  keyGeneration : Option Nat
  routeGeneration : Option Nat
  routeStateGeneration : Option Nat
  halfOpen : Bool
  deriving DecidableEq, Repr

structure RouteFailureReport where
  failureClass : RouteFailureClass
  upstreamStatus : Option Nat := none
  repeatWithinRequest : Bool := false
  soleCandidate : Bool := false
  capacitySoleRoute : Bool := false
  sharedHostFailureDomain : Bool := false
  deriving DecidableEq, Repr

inductive RouteOutcome where
  | success
  | routeFailure (report : RouteFailureReport)
  | routeFailureWithRetry (report : RouteFailureReport) (retryAfter : Duration)
  | keyFailure (failureClass : RouteFailureClass)
  | keyFailureWithRetry (failureClass : RouteFailureClass) (retryAfter : Duration)
  | uncertainRouteFailure (failureClass : RouteFailureClass)
  | cancelled
  deriving DecidableEq, Repr

def isSharedHostDomainClass : RouteFailureClass → Bool
  | .transientServer | .edgeProxyError => true
  | _ => false

def routeFailureHasCooldown : RouteFailureClass → Bool
  | .capacityUnavailable | .concurrencySaturated | .transientServer | .transport | .rateLimited
  | .keyQuota | .modelUnsupported | .edgeProxyError => true
  | _ => false

def keyFailureHasCooldown : RouteFailureClass → Bool
  | .credentials | .keyQuota => true
  | _ => false

def isCapacityClass : RouteFailureClass → Bool
  | .rateLimited | .keyQuota => true
  | _ => false

structure RouteHealthTuning where
  concurrencyProbeDelays : List Duration
  transientRouteCooldownBase : Duration
  transientRouteCooldownMax : Duration
  transientRouteCooldownMaxStep : Nat
  halfOpenTtl : Duration
  halfOpenExclusiveWindow : Duration
  credentialsFirstStrike : Duration
  capacityFailureCooldownEnabled : Bool
  enforcementEnabled : Bool
  deriving DecidableEq, Repr

def defaultUpstreamConcurrencyProbeDelaysMs : List Nat := [100, 200, 400, 800, 1_000, 2_000]

def normalizeConcurrencyProbeDelays (values : List Nat) : List Duration :=
  let maxProbeDelayMs := 60_000
  let values :=
    if values.isEmpty || values.any (fun value => value == 0 || maxProbeDelayMs < value) ||
        (values.zip values.tail).any (fun window => window.2 < window.1) then
      defaultUpstreamConcurrencyProbeDelaysMs
    else
      values
  values.map Duration.fromMillis

structure RouteHealthSettings where
  concurrencyProbeDelaysMs : List Nat
  transientRouteCooldownBaseSeconds : Nat
  transientRouteCooldownMaxSeconds : Nat
  transientRouteCooldownMaxStep : Nat
  halfOpenTtlSeconds : Nat
  halfOpenExclusiveWindowMs : Nat
  credentialsFirstStrikeSeconds : Nat
  capacityFailureCooldownEnabled : Bool
  routeHealthEnforcementEnabled : Bool
  deriving DecidableEq, Repr

/-- The defaults of `RouteHealthRegistry::new`. -/
def RouteHealthSettings.default : RouteHealthSettings where
  concurrencyProbeDelaysMs := defaultUpstreamConcurrencyProbeDelaysMs
  transientRouteCooldownBaseSeconds := 5
  transientRouteCooldownMaxSeconds := 5 * 60
  transientRouteCooldownMaxStep := 2
  halfOpenTtlSeconds := 300
  halfOpenExclusiveWindowMs := 3_000
  credentialsFirstStrikeSeconds := 60
  capacityFailureCooldownEnabled := false
  routeHealthEnforcementEnabled := true

def RouteHealthSettings.normalize (settings : RouteHealthSettings) : RouteHealthTuning :=
  let base := max settings.transientRouteCooldownBaseSeconds 1
  { concurrencyProbeDelays := normalizeConcurrencyProbeDelays settings.concurrencyProbeDelaysMs
    transientRouteCooldownBase := Duration.fromSecs base
    transientRouteCooldownMax :=
      Duration.fromSecs (max settings.transientRouteCooldownMaxSeconds base)
    transientRouteCooldownMaxStep := min (max settings.transientRouteCooldownMaxStep 1) 8
    halfOpenTtl := Duration.fromSecs (max settings.halfOpenTtlSeconds 1)
    halfOpenExclusiveWindow := Duration.fromMillis settings.halfOpenExclusiveWindowMs
    credentialsFirstStrike := Duration.fromSecs (max settings.credentialsFirstStrikeSeconds 1)
    capacityFailureCooldownEnabled := settings.capacityFailureCooldownEnabled
    enforcementEnabled := settings.routeHealthEnforcementEnabled }

end ChatGateway
