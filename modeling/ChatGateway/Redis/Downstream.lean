import ChatGateway.Shared.SortedSet
import Mathlib.Data.String.Basic

set_option autoImplicit false

/-!
# Downstream admission scripts

The scripts that let in a downstream request, account its tokens and keep its concurrency lease.
Each script is a function of the clock it reads, its arguments and the keys it is given.
-/

namespace ChatGateway

abbrev ZSet := SortedSet String

/-- `math.max(1, math.ceil(ms / 1000))` -/
def retrySeconds (ms : Int) : Int :=
  max 1 (-((-ms) / 1000))

inductive DownstreamReply where
  | reserved
  | perMinute (used limit retry : Int)
  | requestQuota (used limit retry window : Int)
  | daily (used limit retry : Int)
  | monthly (used limit retry : Int)
  | globalConcurrency (retry limit : Int)
  | groupConcurrency (retry limit : Int)
  deriving Repr, DecidableEq

structure QuotaArgs where
  eventId : String
  minuteLimit : Int
  requestWindowSeconds : Int
  requestQuota : Int
  dailyLimit : Int
  monthlyLimit : Int

structure QuotaKeys where
  requests : ZSet
  tokens : ZSet
  tokenValues : Volatile String Int

namespace QuotaKeys

def live (now : Int) (keys : QuotaKeys) : QuotaKeys where
  requests := keys.requests.live now
  tokens := keys.tokens.live now
  tokenValues := keys.tokenValues.live now

end QuotaKeys

namespace QuotaArgs

def requestRetentionSeconds (args : QuotaArgs) : Int :=
  max 60 args.requestWindowSeconds

def tokenRetentionSeconds (args : QuotaArgs) : Int :=
  if args.monthlyLimit > 0 then 30 * 24 * 60 * 60
  else if args.dailyLimit > 0 then 24 * 60 * 60
  else 60

end QuotaArgs

namespace QuotaKeys

def prune (now : Int) (args : QuotaArgs) (keys : QuotaKeys) : QuotaKeys :=
  let tokenHorizon := now - args.tokenRetentionSeconds * 1000
  let expiredTokens := keys.tokens.zrangebyscore .negInf (.closed tokenHorizon)
  { requests :=
      keys.requests.zremrangebyscore .negInf (.closed (now - args.requestRetentionSeconds * 1000))
    tokens := keys.tokens.zremrangebyscore .negInf (.closed tokenHorizon)
    tokenValues := keys.tokenValues.update fun values =>
      values.retain fun id _ => !(expiredTokens.map Prod.fst).contains id }

def retryAfter (now start windowSeconds : Int) (key : ZSet) : Int :=
  match key.zrangebyscore (.closed start) .posInf with
  | [] => 1
  | (_, oldest) :: _ => retrySeconds (oldest + windowSeconds * 1000 - now)

def tokensOf (keys : QuotaKeys) (id : String) : Int :=
  (keys.tokenValues.entries.lookup id).getD 0

def tokenUsage (keys : QuotaKeys) (start : Int) : Int :=
  ((keys.tokens.zrangebyscore (.closed start) .posInf).map fun entry => keys.tokensOf entry.1).sum

/-- The loop of `token_retry_after`, with the tokens released so far. -/
def tokenRetryFrom (keys : QuotaKeys) (now windowSeconds required released : Int) :
    List (String × Int) → Int
  | [] => 1
  | (id, score) :: rest =>
    let released := released + keys.tokensOf id
    if released ≥ required then retrySeconds (score + windowSeconds * 1000 - now)
    else keys.tokenRetryFrom now windowSeconds required released rest

def tokenRejection (now windowSeconds limit : Int) (keys : QuotaKeys)
    (reply : Int → Int → Int → DownstreamReply) : Option DownstreamReply :=
  if limit > 0 then
    let start := now - windowSeconds * 1000 + 1
    let used := keys.tokenUsage start
    if used ≥ limit then
      some (reply used limit (keys.tokenRetryFrom now windowSeconds (used + 1 - limit) 0
        (keys.tokens.zrangebyscore (.closed start) .posInf)))
    else none
  else none

def minuteRejection (now : Int) (args : QuotaArgs) (keys : QuotaKeys) : Option DownstreamReply :=
  let start := now - 60 * 1000 + 1
  let used := keys.requests.zcount (.closed start) .posInf
  if used ≥ args.minuteLimit then
    some (.perMinute used args.minuteLimit (retryAfter now start 60 keys.requests))
  else none

def requestRejection (now : Int) (args : QuotaArgs) (keys : QuotaKeys) : Option DownstreamReply :=
  if args.requestWindowSeconds > 0 ∧ args.requestQuota > 0 then
    let start := now - args.requestWindowSeconds * 1000 + 1
    let used := keys.requests.zcount (.closed start) .posInf
    if used ≥ args.requestQuota then
      some (.requestQuota used args.requestQuota
        (retryAfter now start args.requestWindowSeconds keys.requests) args.requestWindowSeconds)
    else none
  else none

def rejection (now : Int) (args : QuotaArgs) (keys : QuotaKeys) : Option DownstreamReply :=
  keys.minuteRejection now args
    <|> keys.requestRejection now args
    <|> keys.tokenRejection now (24 * 60 * 60) args.dailyLimit .daily
    <|> keys.tokenRejection now (30 * 24 * 60 * 60) args.monthlyLimit .monthly

def recordRequest (now : Int) (args : QuotaArgs) (keys : QuotaKeys) : QuotaKeys :=
  { keys with
    requests := (keys.requests.zadd now args.eventId).expire now (args.requestRetentionSeconds + 60) }

end QuotaKeys

/-- `downstream_reserve.lua` -/
def downstreamReserve (now : Int) (args : QuotaArgs) (keys : QuotaKeys) :
    DownstreamReply × QuotaKeys :=
  let keys := (keys.live now).prune now args
  if (keys.requests.zscore args.eventId).isSome then (.reserved, keys)
  else match keys.rejection now args with
    | some reply => (reply, keys)
    | none => (.reserved, keys.recordRequest now args)

structure LeaseArgs where
  leaseId : String
  concurrencyLimit : Int
  leaseDurationMs : Int
  groupLimit : Int

structure AdmissionKeys where
  quota : QuotaKeys
  groupLeases : ZSet
  aggregateLeases : ZSet

def addLease (now leaseDurationMs : Int) (leaseId : String) (key : ZSet) : ZSet :=
  (key.zadd (now + leaseDurationMs) leaseId).pexpire now (leaseDurationMs + 60000)

def oldestLeaseRetry (now : Int) (key : ZSet) : Int :=
  match key.zrangeFirst with
  | none => 1
  | some (_, oldest) => retrySeconds (oldest - now)

def leaseRejection (now : Int) (args : LeaseArgs) (groupLeases aggregateLeases : ZSet) :
    Option DownstreamReply :=
  if args.groupLimit > 0 ∧ groupLeases.zcard ≥ args.groupLimit then
    some (.groupConcurrency (oldestLeaseRetry now groupLeases) args.groupLimit)
  else if aggregateLeases.zcard ≥ args.concurrencyLimit then
    some (.globalConcurrency (oldestLeaseRetry now aggregateLeases) args.concurrencyLimit)
  else none

/-- `downstream_admission.lua` -/
def downstreamAdmission (now : Int) (quota : QuotaArgs) (lease : LeaseArgs) (keys : AdmissionKeys) :
    DownstreamReply × AdmissionKeys :=
  let keys : AdmissionKeys :=
    { quota := (keys.quota.live now).prune now quota
      groupLeases := keys.groupLeases.live now
      aggregateLeases := keys.aggregateLeases.live now }
  if (keys.quota.requests.zscore quota.eventId).isSome then (.reserved, keys)
  else match keys.quota.rejection now quota with
    | some reply => (reply, keys)
    | none =>
      let keys :=
        { keys with
          groupLeases := keys.groupLeases.zremrangebyscore .negInf (.closed now)
          aggregateLeases := keys.aggregateLeases.zremrangebyscore .negInf (.closed now) }
      if (keys.groupLeases.zscore lease.leaseId).isSome then (.reserved, keys)
      else match leaseRejection now lease keys.groupLeases keys.aggregateLeases with
        | some reply => (reply, keys)
        | none =>
          (.reserved,
            { quota := keys.quota.recordRequest now quota
              groupLeases := addLease now lease.leaseDurationMs lease.leaseId keys.groupLeases
              aggregateLeases :=
                addLease now lease.leaseDurationMs lease.leaseId keys.aggregateLeases })

/-- One of the two extensions of `lease_renew.lua`. -/
def renewIn (now leaseDurationMs : Int) (leaseId : String) (key : ZSet) : ZSet :=
  if (key.zscore leaseId).isSome then addLease now leaseDurationMs leaseId key else key

/-- `lease_renew.lua` with its companion key. -/
def leaseRenew (now leaseDurationMs : Int) (leaseId : String) (primary companion : ZSet) :
    Bool × ZSet × ZSet :=
  let primary := primary.live now
  let companion := companion.live now
  ((primary.zscore leaseId).isSome, renewIn now leaseDurationMs leaseId primary,
    renewIn now leaseDurationMs leaseId companion)

/-- `lease_release.lua` with the waiting and the aggregate companion keys. -/
def leaseRelease (now : Int) (leaseId : String) (primary waiting aggregate : ZSet) :
    Bool × ZSet × ZSet × ZSet :=
  let primary := primary.live now
  ((primary.zscore leaseId).isSome, primary.zrem leaseId, (waiting.live now).zrem leaseId,
    (aggregate.live now).zrem leaseId)

/-- `downstream_record_tokens.lua` -/
def downstreamRecordTokens (now : Int) (eventId : String) (recorded retentionSeconds : Int)
    (tokens : ZSet) (tokenValues : Volatile String Int) : ZSet × Volatile String Int :=
  let tokens := tokens.live now
  let tokenValues := tokenValues.live now
  let ttl := max 60 retentionSeconds + 60
  if (tokens.zscore eventId).isSome then (tokens.expire now ttl, tokenValues.expire now ttl)
  else
    ((tokens.zadd now eventId).expire now ttl,
      (tokenValues.update fun values => values.insert eventId recorded).expire now ttl)

end ChatGateway
