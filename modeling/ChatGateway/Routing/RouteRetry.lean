import ChatGateway.RouteHealth.HealthState

set_option autoImplicit false

/-!
# The retry budget of a request

`route_retry.rs`: when every route of a round has failed, the policy grants the request a wait
before the next round, or gives up.
-/

namespace ChatGateway

def u32Max : Nat := 2 ^ 32 - 1

namespace Duration

def maximum : Duration := fromSecs (2 ^ 64) - 1

def checkedAdd (first second : Duration) : Option Duration :=
  if first + second ≤ maximum then some (first + second) else none

end Duration

inductive TerminalFailure where
  | temporary (retryAfter : Duration)
  | credentials
  | modelUnsupported
  | capabilityUnsupported
  | protocolUnsupported
  | mixedRoutesExhausted
  deriving DecidableEq, Repr

inductive GiveUpReason where
  | roundCap
  | waitBudget
  | noRecovery
  | alignmentExhausted
  | halfOpenBusyCap
  deriving DecidableEq, Repr

structure RouteRecovery where
  failureClass : RouteFailureClass
  retryAfter : Duration
  halfOpenRemaining : Option Duration
  deriving DecidableEq, Repr

structure RouteRetryWait where
  nextRound : Nat
  requiredDelay : Duration
  jitter : Duration
  sleepFor : Duration
  remainingAfter : Duration
  alignment : Bool
  alignmentTruncated : Bool
  busy : Bool
  deriving DecidableEq, Repr

structure RouteRetryBudget where
  currentRound : Nat := 1
  waited : Duration := 0
  alignmentUsed : Bool := false
  busyRounds : Nat := 0
  deriving DecidableEq, Repr

namespace RouteRetryBudget

def Expects (budget : RouteRetryBudget) (wait : RouteRetryWait) : Prop :=
  wait.nextRound =
    if wait.busy then budget.currentRound else saturatingSucc32 budget.currentRound

def recordWait (budget : RouteRetryBudget) (wait : RouteRetryWait) : RouteRetryBudget where
  currentRound := if wait.busy then budget.currentRound else wait.nextRound
  waited := (Duration.checkedAdd budget.waited wait.sleepFor).getD Duration.maximum
  alignmentUsed := budget.alignmentUsed || wait.alignment
  busyRounds := if wait.busy then saturatingSucc32 budget.busyRounds else budget.busyRounds

end RouteRetryBudget

structure RouteRetryPolicy where
  enabled : Bool
  maxWait : Duration
  maxRounds : Nat
  concurrencyMaxWait : Duration
  concurrencyMaxRounds : Nat
  budgetAlignmentEnabled : Bool
  busyMaxRounds : Nat
  alignmentTruncatedEnabled : Bool
  rateLimitInternalRetryEnabled : Bool
  maxWaitBounded : maxWait ≤ Duration.maximum
  concurrencyMaxWaitBounded : concurrencyMaxWait ≤ Duration.maximum
  maxRoundsBounded : 1 ≤ maxRounds ∧ maxRounds ≤ u32Max
  concurrencyMaxRoundsBounded : 1 ≤ concurrencyMaxRounds ∧ concurrencyMaxRounds ≤ u32Max
  busyMaxRoundsBounded : 1 ≤ busyMaxRounds ∧ busyMaxRounds ≤ u32Max

structure RouteRetryAsk where
  terminal : TerminalFailure
  healthRecovery : Option RouteRecovery
  clientRetryableRateLimit : Bool
  busyOnly : Bool
  requestId : String
  deriving DecidableEq, Repr

def RouteRetryAsk.concurrencyRecovery (ask : RouteRetryAsk) : Bool :=
  ask.healthRecovery.any fun recovery => recovery.failureClass = .concurrencySaturated

def maxRetryJitterMs : Nat := 100

def littleEndian (bytes : List UInt8) : Nat :=
  bytes.foldr (fun byte value => byte.toNat + 256 * value) 0

def u32LittleEndian (value : Nat) : List UInt8 :=
  [value, value / 256, value / 256 ^ 2, value / 256 ^ 3].map UInt8.ofNat

section Decide

variable (sha256 : List UInt8 → List UInt8)

def deterministicJitter (requestId : String) (nextRound : Nat) : Duration :=
  let digest := sha256 (requestId.toUTF8.toList ++ u32LittleEndian nextRound)
  Duration.fromMillis (littleEndian (digest.take 8) % (maxRetryJitterMs + 1))

namespace RouteRetryPolicy

def limits (policy : RouteRetryPolicy) (ask : RouteRetryAsk) : Duration × Nat :=
  if ask.concurrencyRecovery then (policy.concurrencyMaxWait, policy.concurrencyMaxRounds)
  else (policy.maxWait, policy.maxRounds)

def busyWait (policy : RouteRetryPolicy) (budget : RouteRetryBudget)
    (requiredDelay jitter sleepFor : Duration) : Option RouteRetryWait × Option GiveUpReason :=
  let remaining := policy.maxWait - budget.waited
  if sleepFor > remaining then (none, some .waitBudget)
  else
    (some
      { nextRound := budget.currentRound
        requiredDelay := requiredDelay
        jitter := jitter
        sleepFor := sleepFor
        remainingAfter := remaining - sleepFor
        alignment := false
        alignmentTruncated := false
        busy := true }, none)

def decideBusy (policy : RouteRetryPolicy) (budget : RouteRetryBudget) (requestId : String) :
    Option RouteRetryWait × Option GiveUpReason :=
  let busyRound := saturatingSucc32 budget.busyRounds
  if busyRound > policy.busyMaxRounds then (none, some .halfOpenBusyCap)
  else
    let jitter := deterministicJitter sha256 requestId budget.currentRound
    match Duration.checkedAdd halfOpenBusyRetry jitter with
    | none => (none, some .waitBudget)
    | some sleepFor => policy.busyWait budget halfOpenBusyRetry jitter sleepFor

/-- A wait of the required delay and its jitter, or of the budget that is left when that is at least
a second. No sum means that the two overflow. -/
def waitWithin (policy : RouteRetryPolicy) (budget : RouteRetryBudget)
    (maxWait requiredDelay jitter : Duration) (alignment : Bool) :
    Option Duration → Option RouteRetryWait × Option GiveUpReason
  | none => (none, some .waitBudget)
  | some sleepFor =>
    let nextRound := saturatingSucc32 budget.currentRound
    let remaining := maxWait - budget.waited
    if sleepFor ≤ remaining then
      (some
        { nextRound := nextRound
          requiredDelay := requiredDelay
          jitter := jitter
          sleepFor := sleepFor
          remainingAfter := remaining - sleepFor
          alignment := alignment
          alignmentTruncated := false
          busy := false }, none)
    else if policy.alignmentTruncatedEnabled ∧ remaining ≥ halfOpenBusyRetry then
      (some
        { nextRound := nextRound
          requiredDelay := remaining
          jitter := 0
          sleepFor := remaining
          remainingAfter := 0
          alignment := alignment
          alignmentTruncated := true
          busy := false }, none)
    else (none, some .waitBudget)

def grantWithin (policy : RouteRetryPolicy) (budget : RouteRetryBudget) (requestId : String)
    (maxWait requiredDelay : Duration) (alignment : Bool) :
    Option RouteRetryWait × Option GiveUpReason :=
  let jitter := deterministicJitter sha256 requestId (saturatingSucc32 budget.currentRound)
  policy.waitWithin budget maxWait requiredDelay jitter alignment
    (Duration.checkedAdd requiredDelay jitter)

def alignable (policy : RouteRetryPolicy) (budget : RouteRetryBudget) (ask : RouteRetryAsk) :
    Option RouteRecovery :=
  if policy.budgetAlignmentEnabled && !budget.alignmentUsed && !ask.clientRetryableRateLimit then
    ask.healthRecovery.filter fun recovery =>
      recovery.failureClass = .transientServer || recovery.failureClass = .edgeProxyError
  else none

def decideAtRoundCap (policy : RouteRetryPolicy) (budget : RouteRetryBudget) (ask : RouteRetryAsk) :
    Option RouteRetryWait × Option GiveUpReason :=
  match policy.alignable budget ask with
  | some recovery =>
    policy.grantWithin sha256 budget ask.requestId policy.maxWait recovery.retryAfter true
  | none =>
    if budget.alignmentUsed then (none, some .alignmentExhausted)
    else if !policy.budgetAlignmentEnabled then (none, some .roundCap)
    else if ask.healthRecovery.isNone then (none, some .noRecovery)
    else (none, some .roundCap)

def decideWithReason (policy : RouteRetryPolicy) (budget : RouteRetryBudget) (ask : RouteRetryAsk) :
    Option RouteRetryWait × Option GiveUpReason :=
  if !policy.enabled then (none, none)
  else
    match ask.terminal with
    | .temporary retryAfter =>
      if ask.clientRetryableRateLimit && !policy.rateLimitInternalRetryEnabled then (none, none)
      else if ask.busyOnly then policy.decideBusy sha256 budget ask.requestId
      else
        let (maxWait, maxRounds) := policy.limits ask
        if budget.currentRound ≥ maxRounds then policy.decideAtRoundCap sha256 budget ask
        else
          let requiredDelay := (ask.healthRecovery.map RouteRecovery.retryAfter).getD retryAfter
          policy.grantWithin sha256 budget ask.requestId maxWait requiredDelay false
    | _ => (none, none)

end RouteRetryPolicy

structure RouteRetryGrant where
  ask : RouteRetryAsk
  before : RouteRetryBudget
  wait : RouteRetryWait
  deriving DecidableEq, Repr

def RouteRetryGrant.after (grant : RouteRetryGrant) : RouteRetryBudget :=
  grant.before.recordWait grant.wait

def RouteRetryPolicy.grants (policy : RouteRetryPolicy) :
    RouteRetryBudget → List RouteRetryAsk → List RouteRetryGrant
  | _, [] => []
  | budget, ask :: rest =>
    match (policy.decideWithReason sha256 budget ask).1 with
    | none => policy.grants budget rest
    | some wait => ⟨ask, budget, wait⟩ :: policy.grants (budget.recordWait wait) rest

end Decide

end ChatGateway
