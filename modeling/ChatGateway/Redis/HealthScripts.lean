import ChatGateway.RouteHealth.Types
import ChatGateway.Redis.Downstream

set_option autoImplicit false

/-!
# Route health scripts

The hashes, indexes and counters of the distributed route health and the scripts that reserve,
probe, finish and observe them. A missing field of a hash is `none`.
-/

namespace ChatGateway

structure HealthHash where
  failureCount : Option Int := none
  failureClass : Option RouteFailureClass := none
  failureStatus : Option String := none
  lastFailureMs : Option Int := none
  cooldownUntilMs : Option Int := none
  stateGeneration : Option Nat := none
  halfOpenLease : Option String := none
  halfOpenGeneration : Option Nat := none
  halfOpenExpiresAtMs : Option Int := none
  halfOpenExclusiveUntilMs : Option Int := none
  lastEarlyProbeMs : Option Int := none
  lastAccessMs : Option Int := none
  reconcilePending : Bool := false
  upstreamId : Option String := none
  upstreamIndexKey : Option String := none
  keyFingerprint : Option String := none
  modelSlug : Option String := none
  protocol : Option String := none
  /-- The deadline of the hash itself. -/
  expiresAt : Option Int := none
  deriving DecidableEq, Repr

namespace HealthHash

def clearLease (hash : HealthHash) : HealthHash :=
  { hash with
    halfOpenLease := none
    halfOpenGeneration := none
    halfOpenExpiresAtMs := none
    halfOpenExclusiveUntilMs := none }

def activeLease (hash : HealthHash) : Option String :=
  hash.halfOpenLease.filter (· ≠ "")

def cooldownUntil (hash : HealthHash) : Int := hash.cooldownUntilMs.getD 0

def leaseExpiresAt (hash : HealthHash) : Int := hash.halfOpenExpiresAtMs.getD 0

def status (hash : HealthHash) : String := hash.failureStatus.getD ""

end HealthHash

structure FinishMarker where
  result : String
  expiresAt : Int
  deriving DecidableEq, Repr

structure HealthStore where
  states : String → Option HealthHash
  indexes : String → ZSet
  generation : Nat
  markers : String → Option FinishMarker

namespace HealthStore

def empty : HealthStore where
  states _ := none
  indexes _ := .absent
  generation := 0
  markers _ := none

/-- The keys as a script that starts at `now` finds them. -/
def live (now : Int) (store : HealthStore) : HealthStore where
  states key := (store.states key).filter fun hash => !hash.expiresAt.any (· < now)
  indexes key := (store.indexes key).live now
  generation := store.generation
  markers key := (store.markers key).filter fun marker => now ≤ marker.expiresAt

def putState (store : HealthStore) (key : String) (hash : Option HealthHash) : HealthStore :=
  { store with states := Function.update store.states key hash }

def putIndex (store : HealthStore) (key : String) (index : ZSet) : HealthStore :=
  { store with indexes := Function.update store.indexes key index }

def del (store : HealthStore) (key : String) : HealthStore :=
  store.putState key none

def hset (store : HealthStore) (key : String) (write : HealthHash → HealthHash) : HealthStore :=
  store.putState key (some (write ((store.states key).getD {})))

def hdel (store : HealthStore) (key : String) (write : HealthHash → HealthHash) : HealthStore :=
  store.putState key ((store.states key).map write)

def expireState (store : HealthStore) (now ttlSeconds : Int) (key : String) : HealthStore :=
  if ttlSeconds ≤ 0 then store.del key
  else store.hdel key fun hash => { hash with expiresAt := some (now + ttlSeconds * 1000) }

def zadd (store : HealthStore) (index : String) (score : Int) (member : String) : HealthStore :=
  store.putIndex index ((store.indexes index).zadd score member)

def zrem (store : HealthStore) (index member : String) : HealthStore :=
  store.putIndex index ((store.indexes index).zrem member)

def expireIndex (store : HealthStore) (now ttlSeconds : Int) (index : String) : HealthStore :=
  store.putIndex index ((store.indexes index).expire now ttlSeconds)

def refreshIndexes (store : HealthStore) (now ttlSeconds : Int)
    (stateKey upstreamIndex globalIndex : String) : HealthStore :=
  (((store.zadd upstreamIndex now stateKey).zadd globalIndex now stateKey).expireIndex now ttlSeconds
    upstreamIndex).expireIndex now ttlSeconds globalIndex

def clearState (store : HealthStore) (stateKey upstreamIndex globalIndex : String) : HealthStore :=
  ((store.del stateKey).zrem upstreamIndex stateKey).zrem globalIndex stateKey

section Lookup

variable (store : HealthStore) (now ttlSeconds score : Int) (index key other member : String)

@[simp] theorem zadd_states : (store.zadd index score member).states = store.states := rfl

@[simp] theorem zrem_states : (store.zrem index member).states = store.states := rfl

@[simp] theorem refreshIndexes_states (stateKey upstreamIndex globalIndex : String) :
    (store.refreshIndexes now ttlSeconds stateKey upstreamIndex globalIndex).states =
      store.states := rfl

theorem putState_states (hash : Option HealthHash) :
    (store.putState key hash).states other = if other = key then hash else store.states other := by
  simp [putState, Function.update_apply]

@[simp] theorem putState_states_self (hash : Option HealthHash) :
    (store.putState key hash).states key = hash := by
  simp [putState]

@[simp] theorem del_states_self : (store.del key).states key = none := by
  simp [del]

@[simp] theorem hset_states_self (write : HealthHash → HealthHash) :
    (store.hset key write).states key = some (write ((store.states key).getD {})) := by
  simp [hset]

@[simp] theorem hdel_states_self (write : HealthHash → HealthHash) :
    (store.hdel key write).states key = (store.states key).map write := by
  simp [hdel]

end Lookup

/-- `prune_index`: drop the members whose hash is gone. -/
def pruneIndex (store : HealthStore) (index : String) : HealthStore :=
  store.putIndex index
    ((store.indexes index).update fun members =>
      members.retain fun member _ => (store.states member).isSome)

def evictable (store : HealthStore) (index : String) : Option String :=
  ((store.indexes index).zordered.map Prod.fst).find? fun member =>
    ((store.states member).bind HealthHash.activeLease).isNone

def homeIndex (store : HealthStore) (member : String) : Option String :=
  ((store.states member).bind HealthHash.upstreamIndexKey).filter (· ≠ "")

end HealthStore

structure StateSlot where
  stateKey : String
  upstreamIndex : String
  globalIndex : String
  deriving DecidableEq, Repr

structure HealthKeys where
  key : StateSlot
  route : StateSlot
  deriving DecidableEq, Repr

namespace HealthStore

def clearSlot (store : HealthStore) (slot : StateSlot) : HealthStore :=
  store.clearState slot.stateKey slot.upstreamIndex slot.globalIndex

def refreshSlot (store : HealthStore) (now ttlSeconds : Int) (slot : StateSlot) : HealthStore :=
  (store.expireState now ttlSeconds slot.stateKey).refreshIndexes now ttlSeconds slot.stateKey
    slot.upstreamIndex slot.globalIndex

end HealthStore

inductive HealthReply where
  | ready (keyGeneration routeGeneration routeStateGeneration : Option Nat) (halfOpen : Bool)
  | cooling (failureClass : RouteFailureClass) (retryMs : Int) (status : String)
  | halfOpenBusy (failureClass : RouteFailureClass) (retryMs : Int) (status : String)
  deriving DecidableEq, Repr

structure ReserveArgs where
  leaseId : String
  ttlSeconds : Int
  leaseDurationMs : Int
  legacyThresholdMs : Int
  exclusiveWindowMs : Int
  enforcementEnabled : Bool

namespace HealthStore

def generationOf (store : HealthStore) (key : String) : Option Nat :=
  (store.states key).bind HealthHash.stateGeneration

/-- `clear_legacy_local_admission` -/
def clearLegacyLocalAdmission (store : HealthStore) (now legacyThresholdMs : Int)
    (slot : StateSlot) : HealthStore :=
  match store.states slot.stateKey with
  | none => store
  | some hash =>
    if hash.failureClass = some .concurrencySaturated ∧ hash.status = "" ∧
        hash.cooldownUntil - now > legacyThresholdMs then
      store.clearSlot slot
    else store

def touchSlot (store : HealthStore) (now ttlSeconds : Int) (slot : StateSlot) : HealthStore :=
  if (store.states slot.stateKey).isSome then
    (store.hset slot.stateKey fun hash => { hash with lastAccessMs := some now }).refreshSlot now
      ttlSeconds slot
  else store

def passthrough (store : HealthStore) (now ttlSeconds : Int) (keys : HealthKeys) :
    HealthReply × HealthStore :=
  (.ready none none (store.generationOf keys.route.stateKey) false,
    (store.touchSlot now ttlSeconds keys.key).touchSlot now ttlSeconds keys.route)

/-- `blocked` of the reserve script: its refusal and the hash it leaves. -/
def blocked (store : HealthStore) (now : Int) (stateKey : String) :
    Option HealthReply × HealthStore :=
  match store.states stateKey with
  | none => (none, store)
  | some hash =>
    match hash.failureClass with
    | none => (none, store)
    | some failureClass =>
      if hash.cooldownUntil > now then
        (some (.cooling failureClass (max 1 (hash.cooldownUntil - now)) hash.status), store)
      else if hash.activeLease.isSome then
        if hash.leaseExpiresAt > now then
          if hash.halfOpenExclusiveUntilMs.getD 0 > now then
            (some (.halfOpenBusy failureClass 1000 hash.status), store)
          else (none, store)
        else (none, store.hdel stateKey HealthHash.clearLease)
      else (none, store)

def canGrant (hash : HealthHash) (now : Int) : Bool :=
  hash.activeLease.isNone || hash.leaseExpiresAt ≤ now

def writeLease (leaseId : String) (generation : Nat) (expiresAt exclusiveUntil now : Int)
    (hash : HealthHash) : HealthHash :=
  { hash with
    halfOpenLease := some leaseId
    halfOpenGeneration := some generation
    halfOpenExpiresAtMs := some expiresAt
    halfOpenExclusiveUntilMs := some exclusiveUntil
    lastAccessMs := some now }

def grant (store : HealthStore) (now : Int) (args : ReserveArgs) (slot : StateSlot) :
    Option Nat × HealthStore :=
  match store.states slot.stateKey with
  | none => (none, store)
  | some hash =>
    if canGrant hash now ∧ hash.failureClass.isSome then
      let generation := hash.stateGeneration.getD 0
      (some generation,
        (store.hset slot.stateKey (writeLease args.leaseId generation (now + args.leaseDurationMs)
          (now + args.exclusiveWindowMs) now)).refreshSlot now args.ttlSeconds slot)
    else (none, store)

end HealthStore

/-- `route_health_reserve.lua` -/
def routeHealthReserve (now : Int) (args : ReserveArgs) (keys : HealthKeys) (store : HealthStore) :
    HealthReply × HealthStore :=
  let store := (store.live now).clearLegacyLocalAdmission now args.legacyThresholdMs keys.route
  if !args.enforcementEnabled then store.passthrough now args.ttlSeconds keys
  else
    let keyGate := store.blocked now keys.key.stateKey
    match keyGate.1 with
    | some reply => (reply, keyGate.2)
    | none =>
      let routeGate := keyGate.2.blocked now keys.route.stateKey
      match routeGate.1 with
      | some reply => (reply, routeGate.2)
      | none =>
        let routeStateGeneration := routeGate.2.generationOf keys.route.stateKey
        let keyGrant := routeGate.2.grant now args keys.key
        let routeGrant := keyGrant.2.grant now args keys.route
        (.ready keyGrant.1 routeGrant.1 routeStateGeneration
            (keyGrant.1.isSome || routeGrant.1.isSome),
          routeGrant.2)

structure FailureRecord where
  failureClass : RouteFailureClass
  schedule : List Int
  explicitRetryMs : Int
  exactRetry : Bool
  failureStatus : String
  observationOnly : Bool
  upstreamId : String
  keyFingerprint : String
  modelSlug : String
  protocol : String
  streakResetMs : Int
  ttlSeconds : Int
  globalCapacity : Int
  upstreamCapacity : Int
  maxStep : Int

def scheduleValue (schedule : List Int) (step : Int) : Int :=
  if schedule.isEmpty then 0 else schedule.getD ((min step schedule.length).toNat - 1) 0

def capStep (maxStep step : Int) : Int :=
  if maxStep ≥ 1 then min step maxStep else step

namespace HealthHash

def failures (hash : HealthHash) : Int := hash.failureCount.getD 0

def continuesStreak (hash : HealthHash) (failureClass : RouteFailureClass)
    (now streakResetMs : Int) : Bool :=
  hash.failureClass == some failureClass && now - hash.lastFailureMs.getD 0 ≤ streakResetMs

def recordFailure (record : FailureRecord) (upstreamIndex : String) (generation : Nat)
    (step cooldownMs now : Int) (hash : HealthHash) : HealthHash :=
  { hash.clearLease with
    failureCount := some step
    failureClass := some record.failureClass
    lastFailureMs := some now
    stateGeneration := some generation
    lastAccessMs := some now
    upstreamId := some record.upstreamId
    upstreamIndexKey := some upstreamIndex
    keyFingerprint := some record.keyFingerprint
    modelSlug := some record.modelSlug
    protocol := some record.protocol
    cooldownUntilMs := if cooldownMs > 0 then some (now + cooldownMs) else none
    failureStatus := if record.failureStatus = "" then none else some record.failureStatus
    reconcilePending := false }

end HealthHash

namespace HealthStore

def explicitCooldown (record : FailureRecord) (scheduled : Int) : Int :=
  if record.explicitRetryMs ≥ 0 then
    if record.exactRetry then record.explicitRetryMs else max scheduled record.explicitRetryMs
  else scheduled

def pruneSlot (store : HealthStore) (slot : StateSlot) : HealthStore :=
  (store.pruneIndex slot.upstreamIndex).pruneIndex slot.globalIndex

/-- Evict from a full index; `none` when every member is being probed. -/
def makeRoom (store : HealthStore) (capacity : Int) (index other : String)
    (evict : HealthStore → String → String → Option HealthStore) : Option HealthStore :=
  if (store.indexes index).zcard ≥ capacity then evict store index other else some store

def ensureCapacity (store : HealthStore) (record : FailureRecord) (slot : StateSlot)
    (evict : HealthStore → String → String → Option HealthStore) : Bool × HealthStore :=
  if (store.states slot.stateKey).isSome then (true, store)
  else
    let store := store.pruneSlot slot
    match store.makeRoom record.upstreamCapacity slot.upstreamIndex slot.globalIndex evict with
    | none => (false, store)
    | some store =>
      match store.makeRoom record.globalCapacity slot.globalIndex slot.upstreamIndex evict with
      | none => (false, store)
      | some store => (true, store)

/-- `evict_one` of the finish script. -/
def evictOne (store : HealthStore) (index other : String) : Option HealthStore :=
  (store.evictable index).map fun member =>
    let cleared := ((store.del member).zrem index member).zrem other member
    match store.homeIndex member with
    | some home => cleared.zrem home member
    | none => cleared

/-- `evict_one` of the observe script. -/
def evictOneObserved (slot : StateSlot) (store : HealthStore) (index _other : String) :
    Option HealthStore :=
  (store.evictable index).map fun member =>
    ((store.del member).zrem slot.globalIndex member).zrem
      ((store.homeIndex member).getD slot.upstreamIndex) member

def writeFailure (store : HealthStore) (now : Int) (record : FailureRecord) (slot : StateSlot)
    (step cooldownMs : Int) : HealthStore :=
  let generation := store.generation + 1
  let store := { store with generation := generation }
  (store.hset slot.stateKey (HealthHash.recordFailure record slot.upstreamIndex generation step
    cooldownMs now)).refreshSlot now record.ttlSeconds slot

end HealthStore

inductive FinishOutcome where
  | success
  | routeFailure (failureClass : RouteFailureClass)
  | keyFailure (failureClass : RouteFailureClass)
  | uncertainRouteFailure (failureClass : RouteFailureClass)
  | cancelled
  deriving DecidableEq, Repr

structure FinishArgs where
  leaseId : String
  keyGeneration : Option Nat
  routeGeneration : Option Nat
  routeStateGeneration : Option Nat
  outcome : FinishOutcome
  explicitRetryMs : Int
  streakResetMs : Int
  ttlSeconds : Int
  globalCapacity : Int
  upstreamCapacity : Int
  upstreamId : String
  keyFingerprint : String
  modelSlug : String
  protocol : String
  failureStatus : String
  repeatWithinRequest : Bool
  routeSchedule : List Int
  keySchedule : List Int
  probeSchedule : List Int
  maxStep : Int
  routeObservationOnly : Bool
  keyObservationOnly : Bool

def finishStep (record : FailureRecord) (halfOpenProbe repeatWithinRequest : Bool) (now : Int)
    (hash : HealthHash) : Int :=
  if record.observationOnly then max 1 hash.failures
  else if hash.continuesStreak record.failureClass now record.streakResetMs then
    let step := if repeatWithinRequest then max 1 hash.failures else max 1 (hash.failures + 1)
    if halfOpenProbe ∧ record.failureClass ≠ .concurrencySaturated then
      capStep record.maxStep (min step 5)
    else if !halfOpenProbe then capStep record.maxStep step
    else step
  else 1

namespace HealthStore

def owns (store : HealthStore) (stateKey leaseId : String) : Option Nat → Bool
  | none => true
  | some generation =>
    (store.states stateKey).any fun hash =>
      hash.halfOpenLease == some leaseId && hash.halfOpenGeneration == some generation &&
        hash.stateGeneration == some generation

def releaseHalfOpen (store : HealthStore) (now ttlSeconds : Int) (slot : StateSlot) :
    Option Nat → HealthStore
  | none => store
  | some _ =>
    ((store.hdel slot.stateKey HealthHash.clearLease).hset slot.stateKey fun hash =>
      { hash with lastAccessMs := some now }).refreshSlot now ttlSeconds slot

def reconciling (store : HealthStore) (stateKey : String) : Bool :=
  (store.states stateKey).any HealthHash.reconcilePending

/-- `observe` of the finish script; `false` when there is no room for a new state. -/
def observe (store : HealthStore) (now : Int) (record : FailureRecord) (slot : StateSlot)
    (halfOpenProbe repeatWithinRequest : Bool) : Bool × HealthStore :=
  let room := store.ensureCapacity record slot evictOne
  if room.1 then
    let hash := (room.2.states slot.stateKey).getD {}
    let step := finishStep record halfOpenProbe repeatWithinRequest now hash
    let cooldownMs :=
      if record.observationOnly then 0
      else explicitCooldown record (scheduleValue record.schedule step)
    (true, room.2.writeFailure now record slot step cooldownMs)
  else (false, room.2)

end HealthStore

namespace FinishArgs

def record (args : FinishArgs) (failureClass : RouteFailureClass) (schedule : List Int)
    (exactRetry observationOnly : Bool) (modelSlug protocol : String) : FailureRecord where
  failureClass := failureClass
  schedule := schedule
  explicitRetryMs := args.explicitRetryMs
  exactRetry := exactRetry
  failureStatus := args.failureStatus
  observationOnly := observationOnly
  upstreamId := args.upstreamId
  keyFingerprint := args.keyFingerprint
  modelSlug := modelSlug
  protocol := protocol
  streakResetMs := args.streakResetMs
  ttlSeconds := args.ttlSeconds
  globalCapacity := args.globalCapacity
  upstreamCapacity := args.upstreamCapacity
  maxStep := args.maxStep

def routeRecord (args : FinishArgs) (failureClass : RouteFailureClass) : FailureRecord :=
  args.record failureClass args.routeSchedule
    (failureClass = .concurrencySaturated ∧ args.explicitRetryMs ≥ 0) args.routeObservationOnly
    args.modelSlug args.protocol

def keyRecord (args : FinishArgs) (failureClass : RouteFailureClass) : FailureRecord :=
  args.record failureClass args.keySchedule false args.keyObservationOnly "" ""

def uncertainRecord (args : FinishArgs) (failureClass : RouteFailureClass) : FailureRecord :=
  args.record failureClass args.routeSchedule false false args.modelSlug args.protocol

end FinishArgs

namespace HealthStore

/-- `reapply_concurrency_probe`; `none` when the route is not saturated or not being probed. -/
def reapplyConcurrencyProbe (store : HealthStore) (now : Int) (args : FinishArgs)
    (slot : StateSlot) : Option HealthStore :=
  if args.routeGeneration.isNone then none
  else
    match (store.states slot.stateKey).filter (·.failureClass == some .concurrencySaturated) with
    | none => none
    | some hash =>
      let delayMs := scheduleValue args.probeSchedule (hash.failureCount.getD 1)
      some ((store.hset slot.stateKey fun hash =>
        { hash.clearLease with
          cooldownUntilMs := some (now + delayMs)
          lastAccessMs := some now }).refreshSlot now args.ttlSeconds slot)

def failSide (store : HealthStore) (now : Int) (record : FailureRecord) (slot : StateSlot)
    (halfOpenProbe repeatWithinRequest : Bool) : Bool × HealthStore :=
  if record.schedule.isEmpty ∧ !record.observationOnly then (true, store.clearSlot slot)
  else store.observe now record slot halfOpenProbe repeatWithinRequest

/-- The outcome dispatch; `false` when a failure found no room. -/
def settle (store : HealthStore) (now : Int) (args : FinishArgs) (keys : HealthKeys)
    (keyReconciling routeReconciling : Bool) : Bool × HealthStore :=
  match args.outcome with
  | .success =>
    let store :=
      if !routeReconciling ∧ (args.routeGeneration.isSome ∨ args.routeStateGeneration.isSome ∧
          store.generationOf keys.route.stateKey = args.routeStateGeneration) then
        store.clearSlot keys.route
      else store
    (true, if !keyReconciling ∧ args.keyGeneration.isSome then store.clearSlot keys.key else store)
  | .routeFailure failureClass =>
    let store :=
      if keyReconciling then store
      else store.releaseHalfOpen now args.ttlSeconds keys.key args.keyGeneration
    if routeReconciling then (true, store)
    else
      store.failSide now (args.routeRecord failureClass) keys.route args.routeGeneration.isSome
        args.repeatWithinRequest
  | .keyFailure failureClass =>
    let store :=
      if routeReconciling then store
      else store.releaseHalfOpen now args.ttlSeconds keys.route args.routeGeneration
    if keyReconciling then (true, store)
    else
      store.failSide now (args.keyRecord failureClass) keys.key args.keyGeneration.isSome false
  | .uncertainRouteFailure failureClass =>
    let store :=
      if keyReconciling then store
      else store.releaseHalfOpen now args.ttlSeconds keys.key args.keyGeneration
    if routeReconciling then (true, store)
    else
      (store.reapplyConcurrencyProbe now args keys.route).elim
        (store.failSide now (args.uncertainRecord failureClass) keys.route
          args.routeGeneration.isSome false)
        fun rearmed => (true, rearmed)
  | .cancelled =>
    let store :=
      if routeReconciling then store
      else
        (store.reapplyConcurrencyProbe now args keys.route).getD
          (store.releaseHalfOpen now args.ttlSeconds keys.route args.routeGeneration)
    (true,
      if keyReconciling then store
      else store.releaseHalfOpen now args.ttlSeconds keys.key args.keyGeneration)

def finishOwned (store : HealthStore) (now : Int) (args : FinishArgs) (keys : HealthKeys) :
    Bool × HealthStore :=
  let keyReconciling := store.reconciling keys.key.stateKey
  let routeReconciling := store.reconciling keys.route.stateKey
  let store := if keyReconciling then store.clearSlot keys.key else store
  let store := if routeReconciling then store.clearSlot keys.route else store
  store.settle now args keys keyReconciling routeReconciling

/-- `commit_result` -/
def commitResult (store : HealthStore) (now ttlSeconds : Int) (markerKey result : String) :
    HealthStore :=
  { store with
    markers := Function.update store.markers markerKey
      (some { result := result, expiresAt := now + ttlSeconds * 1000 }) }

end HealthStore

/-- `route_health_finish.lua` -/
def routeHealthFinish (now : Int) (args : FinishArgs) (keys : HealthKeys) (markerKey : String)
    (store : HealthStore) : Except String Int × HealthStore :=
  let store := store.live now
  match store.markers markerKey with
  | some marker =>
    if marker.result = "0" then (.ok 0, store)
    else if marker.result = "1" then (.ok 1, store)
    else (.error "invalid route health finish marker", store)
  | none =>
    if !store.owns keys.key.stateKey args.leaseId args.keyGeneration ||
        !store.owns keys.route.stateKey args.leaseId args.routeGeneration then
      (.ok 0, store.commitResult now args.ttlSeconds markerKey "0")
    else
      let settled := store.finishOwned now args keys
      if settled.1 then (.ok 1, settled.2.commitResult now args.ttlSeconds markerKey "1")
      else (.ok (-1), settled.2)

def observeStep (record : FailureRecord) (now : Int) (hash : HealthHash) : Int :=
  if record.observationOnly then max 1 hash.failures
  else if hash.continuesStreak record.failureClass now record.streakResetMs then
    capStep record.maxStep (max 1 (hash.failures + 1))
  else 1

/-- The `observe` action of `route_health_observe.lua`; `false` is its reply 0. -/
def routeHealthObserve (now : Int) (record : FailureRecord) (slot : StateSlot)
    (store : HealthStore) : Bool × HealthStore :=
  let room := (store.live now).ensureCapacity record slot (HealthStore.evictOneObserved slot)
  if room.1 then
    let hash := (room.2.states slot.stateKey).getD {}
    let step := observeStep record now hash
    let scheduled := if record.observationOnly then 0 else scheduleValue record.schedule step
    (true, room.2.writeFailure now record slot step
      (HealthStore.explicitCooldown record scheduled))
  else (false, room.2)

/-- The `clear` action of `route_health_observe.lua`. -/
def routeHealthClear (now : Int) (slot : StateSlot) (store : HealthStore) : HealthStore :=
  (store.live now).clearSlot slot

end ChatGateway
