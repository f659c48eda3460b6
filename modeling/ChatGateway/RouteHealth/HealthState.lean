import ChatGateway.RouteHealth.Types

set_option autoImplicit false

/-!
# The health state of one route or key

Backoff curves and the transitions of a single entry. SHA-256 spreads the cooldowns: `digest`
stands for the first eight bytes of the hash, read as a big-endian integer.
-/

namespace ChatGateway

def halfOpenBusyRetry : Duration := Duration.fromSecs 1

def failureStreakReset : Duration := Duration.fromSecs (10 * 60)

def routeHalfOpenFailureStepCap : Nat := 5

/-- `saturating_add(1)` on a `u32`. -/
def saturatingSucc32 (value : Nat) : Nat := min (value + 1) (2 ^ 32 - 1)

/-- `wrapping_add(1).max(1)` on a `u64`. -/
def bumpGeneration (generation : Nat) : Nat := max ((generation + 1) % 2 ^ 64) 1

structure HealthState where
  consecutiveFailures : Nat
  lastFailureClass : Option RouteFailureClass
  lastFailureStatus : Option Nat
  lastFailureAt : Option Instant
  cooldownUntil : Option Instant
  halfOpenGeneration : Option Nat
  halfOpenExpiresAt : Option Instant
  halfOpenExclusiveUntil : Option Instant
  lastEarlyProbeAt : Option Instant
  stateGeneration : Nat
  lastAccess : Instant
  deriving DecidableEq, Repr

namespace HealthState

def new (now : Instant) : HealthState where
  consecutiveFailures := 0
  lastFailureClass := none
  lastFailureStatus := none
  lastFailureAt := none
  cooldownUntil := none
  halfOpenGeneration := none
  halfOpenExpiresAt := none
  halfOpenExclusiveUntil := none
  lastEarlyProbeAt := none
  stateGeneration := 0
  lastAccess := now

def isActive (state : HealthState) (now : Instant) : Bool :=
  state.halfOpenGeneration.isSome && state.halfOpenExpiresAt.any (now < ·)

def isCooling (state : HealthState) (now : Instant) : Bool :=
  state.cooldownUntil.any (now < ·)

def retryAfter (state : HealthState) (now : Instant) : Duration :=
  (state.cooldownUntil.map (· - now)).getD 0

def clear (state : HealthState) (now : Instant) : HealthState :=
  { state with
    consecutiveFailures := 0
    lastFailureClass := none
    lastFailureStatus := none
    lastFailureAt := none
    cooldownUntil := none
    halfOpenGeneration := none
    halfOpenExpiresAt := none
    halfOpenExclusiveUntil := none
    lastEarlyProbeAt := none
    lastAccess := now }

def isClear (state : HealthState) : Bool :=
  state.consecutiveFailures == 0 && state.lastFailureClass.isNone &&
    state.lastFailureStatus.isNone && state.lastFailureAt.isNone && state.cooldownUntil.isNone &&
    state.halfOpenGeneration.isNone && state.halfOpenExpiresAt.isNone &&
    state.halfOpenExclusiveUntil.isNone && state.lastEarlyProbeAt.isNone

def touch (state : HealthState) (now : Instant) : HealthState :=
  { state with lastAccess := now }

@[simp] theorem touch_isActive (state : HealthState) (now moment : Instant) :
    (state.touch now).isActive moment = state.isActive moment := rfl

@[simp] theorem touch_isCooling (state : HealthState) (now moment : Instant) :
    (state.touch now).isCooling moment = state.isCooling moment := rfl

def dropHalfOpen (state : HealthState) : HealthState :=
  { state with
    halfOpenGeneration := none
    halfOpenExpiresAt := none
    halfOpenExclusiveUntil := none }

def releaseHalfOpen (state : HealthState) (generation : Option Nat) (now : Instant) :
    HealthState :=
  if generation.isSome && state.halfOpenGeneration == generation then
    state.dropHalfOpen.touch now
  else
    state.touch now

def canReserve (state : HealthState) (now : Instant) : Bool :=
  state.lastFailureClass.isSome && state.cooldownUntil.any (· ≤ now) &&
    (state.halfOpenGeneration.isNone || state.halfOpenExpiresAt.all (· ≤ now))

def grantHalfOpen (state : HealthState) (generation : Nat) (expiresAt exclusiveUntil : Instant) :
    HealthState :=
  { state with
    halfOpenGeneration := some generation
    halfOpenExpiresAt := some expiresAt
    halfOpenExclusiveUntil := some exclusiveUntil }

end HealthState

def failureStep (state : HealthState) (failureClass : RouteFailureClass) (now : Instant)
    (repeatWithinRequest : Bool) (maxStep : Nat) (sharedHostFailureDomain : Bool) : Nat :=
  let maxStep := max maxStep 1
  if failureClass == .edgeProxyError ||
      (sharedHostFailureDomain && isSharedHostDomainClass failureClass) then
    1
  else if state.lastFailureAt.any (fun last => failureStreakReset < now - last) ||
      state.lastFailureClass != some failureClass then
    1
  else if repeatWithinRequest then
    max state.consecutiveFailures 1
  else
    let escalated := max (saturatingSucc32 state.consecutiveFailures) 1
    if state.halfOpenGeneration.isSome && failureClass != .concurrencySaturated then
      min (min escalated routeHalfOpenFailureStepCap) maxStep
    else if state.halfOpenGeneration.isSome then
      escalated
    else
      min escalated maxStep

def sequenceDelay (delays : List Duration) (step : Nat) : Duration :=
  (delays[step - 1]?.orElse fun _ => delays.getLast?).getD (Duration.fromMillis 1)

def capacityRouteBase : Duration := Duration.fromSecs 15
def edgeProxyRouteBase : Duration := Duration.fromSecs 3
def edgeProxyRouteMax : Duration := Duration.fromSecs 15
def defaultRateLimitBase : Duration := Duration.fromSecs 30
def routeCooldownMax : Duration := Duration.fromSecs (5 * 60)
def credentialKeyBase : Duration := Duration.fromSecs (15 * 60)
def keyCooldownMax : Duration := Duration.fromSecs (60 * 60)
def modelQuarantineBase : Duration := Duration.fromSecs (15 * 60)
def modelQuarantineMax : Duration := Duration.fromSecs (60 * 60)

def wireProtocolIdentity : WireProtocol → String
  | .chatCompletions => "chat_completions"
  | .responses => "responses"
  | .messages => "messages"

def utf8 (text : String) : List UInt8 := text.toUTF8.toList

/-- `to_be_bytes` of a `u32`. -/
def bigEndian32 (value : Nat) : List UInt8 :=
  [24, 16, 8, 0].map fun shift => UInt8.ofNat (value / 2 ^ shift)

def routeJitterMaterial (route : RouteHealthKey) (failureClass : RouteFailureClass) (step : Nat) :
    List UInt8 :=
  utf8 "chat2responses:route-health:v1" ++ [0] ++ utf8 route.upstreamId ++ [0] ++
    utf8 route.keyFingerprint ++ [0] ++ utf8 route.runtimeModelSlug ++ [0] ++
    utf8 (wireProtocolIdentity route.protocol) ++ [0] ++ utf8 failureClass.asStr ++ [0] ++
    bigEndian32 step

def keyJitterMaterial (key : KeyHealthKey) (failureClass : RouteFailureClass) (step : Nat) :
    List UInt8 :=
  utf8 "chat2responses:key-health:v1" ++ [0] ++ utf8 key.upstreamId ++ [0] ++
    utf8 key.keyFingerprint ++ [0] ++ utf8 failureClass.asStr ++ [0] ++ bigEndian32 step

section Backoff

variable (digest : List UInt8 → Nat)

def jitteredBackoff (base : Duration) (step : Nat) (maximum : Duration) (material : List UInt8) :
    Duration :=
  let exponent := min (step - 1) 16
  let nanos := min (base * 2 ^ exponent) (2 ^ 128 - 1)
  let jitterPercent := 80 + digest material % 41
  let jittered := min (min (nanos * jitterPercent) (2 ^ 128 - 1) / 100) maximum
  min jittered (2 ^ 64 - 1)

def routeCooldown (failureClass : RouteFailureClass) (step : Nat) (route : RouteHealthKey)
    (transientRouteCooldownBase transientRouteCooldownMax : Duration) : Duration :=
  let (base, maximum) := match failureClass with
    | .capacityUnavailable => (capacityRouteBase, routeCooldownMax)
    | .rateLimited | .keyQuota => (defaultRateLimitBase, routeCooldownMax)
    | .modelUnsupported => (modelQuarantineBase, modelQuarantineMax)
    | .edgeProxyError => (edgeProxyRouteBase, edgeProxyRouteMax)
    | _ => (transientRouteCooldownBase, transientRouteCooldownMax)
  jitteredBackoff digest base step maximum (routeJitterMaterial route failureClass step)

def routeCooldownWithConcurrencyDelays (failureClass : RouteFailureClass) (step : Nat)
    (route : RouteHealthKey) (concurrencyProbeDelays : List Duration)
    (transientRouteCooldownBase transientRouteCooldownMax : Duration) : Duration :=
  if failureClass = .concurrencySaturated then
    min (sequenceDelay concurrencyProbeDelays step) routeCooldownMax
  else
    routeCooldown digest failureClass step route transientRouteCooldownBase
      transientRouteCooldownMax

def keyCooldown (failureClass : RouteFailureClass) (step : Nat) (key : KeyHealthKey)
    (maximum credentialsFirstStrike : Duration) : Duration :=
  let base := match failureClass with
    | .credentials => if step = 1 then credentialsFirstStrike else credentialKeyBase
    | _ => defaultRateLimitBase
  jitteredBackoff digest base step maximum (keyJitterMaterial key failureClass step)

namespace HealthState

def recordRouteFailure (tuning : RouteHealthTuning) (route : RouteHealthKey)
    (report : RouteFailureReport) (explicitRetry : Option Duration) (now : Instant)
    (state : HealthState) : HealthState :=
  let effectiveRepeat := report.repeatWithinRequest || report.soleCandidate
  let sharedHost := report.sharedHostFailureDomain && isSharedHostDomainClass report.failureClass
  let step := failureStep state report.failureClass now effectiveRepeat
    tuning.transientRouteCooldownMaxStep sharedHost
  let backoff := routeCooldownWithConcurrencyDelays digest
    (if sharedHost then .edgeProxyError else report.failureClass) step route
    tuning.concurrencyProbeDelays tuning.transientRouteCooldownBase
    tuning.transientRouteCooldownMax
  let cooldown := match report.failureClass, explicitRetry with
    | .concurrencySaturated, some explicit => explicit
    | _, some explicit => max explicit backoff
    | _, none => backoff
  { state.dropHalfOpen with
    stateGeneration := bumpGeneration state.stateGeneration
    consecutiveFailures := step
    lastFailureClass := some report.failureClass
    lastFailureStatus := report.upstreamStatus
    lastFailureAt := some now
    cooldownUntil := some (now + cooldown)
    lastAccess := now }

def recordKeyFailure (tuning : RouteHealthTuning) (key : KeyHealthKey)
    (failureClass : RouteFailureClass) (explicitRetry : Option Duration) (now : Instant)
    (state : HealthState) : HealthState :=
  let step := failureStep state failureClass now false tuning.transientRouteCooldownMaxStep false
  let maximum := if failureClass = .credentials then keyCooldownMax else routeCooldownMax
  let backoff := keyCooldown digest failureClass step key maximum tuning.credentialsFirstStrike
  { state.dropHalfOpen with
    consecutiveFailures := step
    lastFailureClass := some failureClass
    lastFailureAt := some now
    cooldownUntil := some (now + (explicitRetry.map (max · backoff)).getD backoff)
    lastAccess := now }

end HealthState

end Backoff

namespace HealthState

def noteRouteCapacity (failureClass : RouteFailureClass) (upstreamStatus : Option Nat)
    (now : Instant) (state : HealthState) : HealthState :=
  { state with
    lastFailureClass := some failureClass
    lastFailureStatus := upstreamStatus
    lastFailureAt := some now
    lastAccess := now }

def noteKeyCapacity (failureClass : RouteFailureClass) (now : Instant) (state : HealthState) :
    HealthState :=
  { state with
    lastFailureClass := some failureClass
    lastFailureAt := some now
    lastAccess := now }

end HealthState

end ChatGateway
