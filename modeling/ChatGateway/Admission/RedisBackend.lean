import ChatGateway.Admission.Calls
import ChatGateway.Redis.LeaseSets

set_option autoImplicit false

/-!
# Admission over Redis

The arguments that the coordinator passes to the downstream scripts, the keys that they run on,
and the book that these keys keep. The clock of the scripts reads whole seconds, in milliseconds.
-/

namespace ChatGateway

/-- The hash of `stable_identity`, which no two ids share. -/
structure StableIdentity where
  digest : String → String
  injective : Function.Injective digest

def downstreamGroupSuffix (identity : StableIdentity) (groupName : String) : String :=
  if groupName = "" then "" else ":g" ++ identity.digest groupName

theorem downstreamGroupSuffix_injective (identity : StableIdentity) :
    Function.Injective (downstreamGroupSuffix identity) := by
  have marked : ∀ name, ":g" ++ identity.digest name ≠ "" := by
    intro name same
    have letters := congrArg String.toList same
    simp at letters
  intro left right same
  rw [downstreamGroupSuffix, downstreamGroupSuffix] at same
  split at same <;> split at same
  next leftEmpty rightEmpty => rw [leftEmpty, rightEmpty]
  next => exact absurd same.symm (marked right)
  next => exact absurd same (marked left)
  next => exact identity.injective (String.toList_inj.1 (by simpa using congrArg String.toList same))

/-- The keys `leases` and `waiting` of a group carry its suffix behind the identity of the
downstream; the others are one for each downstream or cost scope. -/
structure RedisBackend where
  requests : String → ZSet := fun _ => .absent
  tokens : String → ZSet := fun _ => .absent
  tokenValues : String → Volatile String Int := fun _ => .absent
  leases : String × String → ZSet := fun _ => .absent
  waiting : String × String → ZSet := fun _ => .absent
  leasesAll : String → ZSet := fun _ => .absent
  issued : List (Option DownstreamAdmission) := []

def DownstreamConfig.usesRequestQuota (downstream : DownstreamConfig) : Bool :=
  downstream.rateLimitEnabled && downstream.requestQuotaWindowHours.isSome &&
    downstream.requestQuotaRequests.isSome

def downstreamQuotaArgs (downstream : DownstreamConfig) (scope : CostScope) (eventId : String) :
    QuotaArgs where
  eventId := eventId
  minuteLimit := downstream.perMinuteLimit
  requestWindowSeconds := ((requestQuotaWindowSeconds downstream).getD 0 : Nat)
  requestQuota :=
    (if !downstream.tokenBillingMode && downstream.usesRequestQuota then
      downstream.requestQuotaRequests.getD 0 else 0 : Nat)
  dailyLimit := (scope.dailyLimitCents.getD 0 : Nat)
  monthlyLimit := 0

def downstreamLeaseArgs (settings : AdmissionSettings) (downstream : DownstreamConfig)
    (group : Option ModelConcurrencyGroup) (leaseId : String) : LeaseArgs where
  leaseId := leaseId
  concurrencyLimit := (max downstream.maxConcurrency 1 : Nat)
  leaseDurationMs := downstreamLeaseDurationMs settings.downstreamLeaseTtlSeconds
  groupLimit := ((group.map fun matched => max matched.maxConcurrency 1).getD 0 : Nat)

def clampedTo32 (value : Int) : Nat :=
  min (max value 0).toNat (2 ^ 32 - 1)

def parseDownstreamAdmission (reply : DownstreamReply) (groupName : String) :
    Option DownstreamAdmissionRejection :=
  match reply with
  | .reserved => none
  | .perMinute used limit retry =>
    some (.perMinuteLimitExceeded (max retry 1).toNat (clampedTo32 limit) (clampedTo32 used))
  | .requestQuota used limit retry window =>
    some (.requestQuotaExceeded (max retry 1).toNat (clampedTo32 limit) (clampedTo32 used)
      (max window 0).toNat)
  | .daily used limit retry =>
    some (.dailyCostQuotaExceeded (max retry 1).toNat (max limit 0).toNat (max used 0).toNat)
  | .monthly _ _ _ => some .runtimeCoordinationUnavailable
  | .globalConcurrency retry limit =>
    some (.concurrencyLimitExceeded (max retry 1).toNat ((max limit 0).toNat % 2 ^ 32)
      (globalGroupName groupName))
  | .groupConcurrency retry limit =>
    some (.concurrencyLimitExceeded (max retry 1).toNat ((max limit 0).toNat % 2 ^ 32)
      (some groupName))

def DownstreamReply.verdict (reply : DownstreamReply) (keys : AdmissionKeys) (groupName : String) :
    AdmissionVerdict :=
  match reply with
  | .reserved => .admitted
  | .perMinute used limit _ => .perMinute limit.toNat used.toNat
  | .requestQuota used limit _ window => .requestQuota limit.toNat used.toNat window.toNat
  | .daily used limit _ => .dailyCost limit.toNat used.toNat
  | .monthly _ _ _ => .unavailable
  | .globalConcurrency _ limit =>
    .globalConcurrency limit.toNat keys.aggregateLeases.zcard.toNat (globalGroupName groupName)
  | .groupConcurrency _ limit =>
    .groupConcurrency limit.toNat keys.groupLeases.zcard.toNat groupName

/-- `downstream_token_retention_seconds` of the key that a log belongs to. -/
def usageRetentionSeconds (config : LedgerConfig) (log : UsageLog) : Nat :=
  ((config.downstreams.find? fun downstream => downstream.id = log.downstreamKeyId).map
    fun downstream => downstreamTokenRetentionSeconds downstream
      (config.costScopeFor log.downstreamKeyId)).getD 60

namespace RedisBackend

variable (settings : AdmissionSettings) (identity : StableIdentity) (draws : UuidDraws)
  (state : RedisBackend)

def issue (handle : Option DownstreamAdmission) : RedisBackend :=
  { state with issued := state.issued ++ [handle] }

def leaseKey (key : DownstreamLeaseKey) : String × String :=
  (identity.digest key.downstreamId, downstreamGroupSuffix identity key.groupName)

def admissionKeys (key : DownstreamLeaseKey) (scopeId : String) : AdmissionKeys where
  quota :=
    { requests := state.requests (identity.digest key.downstreamId)
      tokens := state.tokens (identity.digest scopeId)
      tokenValues := state.tokenValues (identity.digest scopeId) }
  groupLeases := state.leases (leaseKey identity key)
  aggregateLeases := state.leasesAll (identity.digest key.downstreamId)

def store (key : DownstreamLeaseKey) (scopeId : String) (keys : AdmissionKeys) : RedisBackend :=
  { state with
    requests := Function.update state.requests (identity.digest key.downstreamId) keys.quota.requests
    tokens := Function.update state.tokens (identity.digest scopeId) keys.quota.tokens
    tokenValues :=
      Function.update state.tokenValues (identity.digest scopeId) keys.quota.tokenValues
    leases := Function.update state.leases (leaseKey identity key) keys.groupLeases
    leasesAll :=
      Function.update state.leasesAll (identity.digest key.downstreamId) keys.aggregateLeases }

def runAdmission (now : Nat) (downstream : DownstreamConfig)
    (group : Option ModelConcurrencyGroup) : DownstreamReply × AdmissionKeys :=
  let scope := settings.config.costScopeFor downstream.id
  downstreamAdmission (1000 * now)
    (downstreamQuotaArgs downstream scope (draws.event state.issued.length))
    (downstreamLeaseArgs settings downstream group (draws.lease state.issued.length))
    (state.admissionKeys identity ⟨downstream.id, leaseGroupName group⟩ scope.scopeId)

/-- `reserve_downstream_admission` with Redis. -/
def reserveAdmission (now : Nat) (downstream : DownstreamConfig) (model : Text) :
    Except DownstreamAdmissionRejection DownstreamAdmission × RedisBackend :=
  let step := state.issued.length
  if !downstream.rateLimitEnabled then (.ok (unlimitedAdmission downstream step), state)
  else
    let group := settings.groupFor downstream model
    let key : DownstreamLeaseKey := ⟨downstream.id, leaseGroupName group⟩
    let (reply, keys) := state.runAdmission settings identity draws now downstream group
    let after := state.store identity key (settings.config.costScopeFor downstream.id).scopeId keys
    match parseDownstreamAdmission reply key.groupName with
    | some rejection => (.error rejection, after)
    | none => (.ok (draws.admission step key), after)

/-- `rollback_downstream_request` -/
def rollback (now admitted : Nat) : RedisBackend :=
  match handedOut state.issued admitted with
  | none => state
  | some admission =>
    match admission.reservation.eventId with
    | none => state
    | some eventId =>
      let owner := identity.digest admission.reservation.downstreamId
      { state with
        requests := Function.update state.requests owner
          (((state.requests owner).live (1000 * now)).zrem eventId) }

/-- `release_downstream_lease` -/
def release (now admitted : Nat) : RedisBackend :=
  match handedOut state.issued admitted with
  | none => state
  | some admission =>
    match admission.lease.leaseId with
    | none => state
    | some leaseId =>
      let key := leaseKey identity admission.lease.key
      let owner := identity.digest admission.lease.downstreamId
      let (_, primary, waiting, aggregate) := leaseRelease (1000 * now) leaseId (state.leases key)
        (state.waiting key) (state.leasesAll owner)
      { state with
        leases := Function.update state.leases key primary
        waiting := Function.update state.waiting key waiting
        leasesAll := Function.update state.leasesAll owner aggregate }

/-- `record_downstream_usage_event` with Redis. -/
def record (now : Nat) (log : UsageLog) : RedisBackend :=
  let log := log.stamped (draws.log state.issued.length) now
  match usageEvent settings.config log with
  | none => state
  | some (scopeId, event) =>
    let scope := identity.digest scopeId
    let (tokens, tokenValues) := downstreamRecordTokens (1000 * now) ("history:" ++ log.id)
      event.tokens (usageRetentionSeconds settings.config log) (state.tokens scope)
      (state.tokenValues scope)
    { state with
      tokens := Function.update state.tokens scope tokens
      tokenValues := Function.update state.tokenValues scope tokenValues }

def apply (step : AdmissionStep) : RedisBackend :=
  match step.op with
  | .admitOne downstream model =>
    let (answer, after) := state.reserveAdmission settings identity draws step.time downstream model
    after.issue answer.toOption
  | .rollback admitted => (state.rollback identity step.time admitted).issue none
  | .release admitted => (state.release identity step.time admitted).issue none
  | .record log => (state.record settings identity draws step.time log).issue none

def verdict (now : Nat) (downstream : DownstreamConfig) (model : Text) : AdmissionVerdict :=
  if !downstream.rateLimitEnabled then .admitted
  else
    let group := settings.groupFor downstream model
    let (reply, keys) := state.runAdmission settings identity draws now downstream group
    reply.verdict keys (leaseGroupName group)

end RedisBackend

end ChatGateway
