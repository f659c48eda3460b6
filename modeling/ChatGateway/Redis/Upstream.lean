import ChatGateway.Redis.Downstream

set_option autoImplicit false

/-!
# The upstream reservation script

`upstream_reserve.lua` counts the live leases of an account and the cost of recent requests. Costs
are decimal numbers; the script keeps them as the text it was given.
-/

namespace ChatGateway

structure UpstreamCounters where
  leakedReclaimed : Int := 0
  staleReclaimed : Int := 0
  capacityReject : Int := 0
  deriving DecidableEq, Repr

structure UpstreamKeys where
  accountLeases : ZSet
  aggregateLeases : ZSet
  events : ZSet
  eventCosts : Volatile String String
  counters : UpstreamCounters
  reclaimMarkers : Volatile String Unit
  reservedAt : ZSet

namespace UpstreamKeys

def live (now : Int) (keys : UpstreamKeys) : UpstreamKeys where
  accountLeases := keys.accountLeases.live now
  aggregateLeases := keys.aggregateLeases.live now
  events := keys.events.live now
  eventCosts := keys.eventCosts.live now
  counters := keys.counters
  reclaimMarkers := keys.reclaimMarkers.live now
  reservedAt := keys.reservedAt.live now

end UpstreamKeys

structure UpstreamArgs (C : Type) where
  eventId : String
  leaseId : String
  requestCost : String
  hedge : Bool
  maxConcurrency : Int
  minuteLimit : C
  requestWindowSeconds : Int
  requestQuota : C
  leaseDurationMs : Int
  staleAfterMs : Int

inductive UpstreamReply where
  | reserved
  | saturated
  | minuteLimit
  | requestQuota
  | conflict
  deriving DecidableEq, Repr

section Reserve

variable {C : Type}

namespace UpstreamArgs

def retentionSeconds (args : UpstreamArgs C) : Int :=
  max 60 args.requestWindowSeconds

def staleCutoff (args : UpstreamArgs C) (now : Int) : Int :=
  now + args.leaseDurationMs - args.staleAfterMs

end UpstreamArgs

namespace UpstreamKeys

/-- `count_new_reclaims` -/
def countNewReclaims (now : Int) (args : UpstreamArgs C) (leaseIds : List String)
    (markers : Volatile String Unit) : Int × Volatile String Unit :=
  if leaseIds.isEmpty then (0, markers)
  else
    let added := leaseIds.filter fun id => (markers.entries.lookup id).isNone
    (added.length,
      (markers.update fun ids => leaseIds.foldl (fun ids id => ids.insert id ()) ids).pexpire now
        (max (args.leaseDurationMs + 60000) (args.retentionSeconds * 1000 + 60000)))

def reclaim (now : Int) (args : UpstreamArgs C) (low high : ScoreBound)
    (count : UpstreamCounters → Int → UpstreamCounters) (keys : UpstreamKeys) : UpstreamKeys :=
  let leases := keys.accountLeases.zrangebyscore low high
  if leases.isEmpty then keys
  else
    let reclaimed := countNewReclaims now args (leases.map Prod.fst) keys.reclaimMarkers
    { keys with
      accountLeases := keys.accountLeases.zremrangebyscore low high
      aggregateLeases := keys.aggregateLeases.zremrangebyscore low high
      counters := if reclaimed.1 > 0 then count keys.counters reclaimed.1 else keys.counters
      reclaimMarkers := reclaimed.2 }

def sweepExpired (now : Int) (args : UpstreamArgs C) (keys : UpstreamKeys) : UpstreamKeys :=
  keys.reclaim now args .negInf (.closed now) fun counters reclaimed =>
    { counters with leakedReclaimed := counters.leakedReclaimed + reclaimed }

def sweepStale (now : Int) (args : UpstreamArgs C) (keys : UpstreamKeys) : UpstreamKeys :=
  if args.staleAfterMs < args.leaseDurationMs then
    keys.reclaim now args (.opened now) (.closed (args.staleCutoff now)) fun counters reclaimed =>
      { counters with staleReclaimed := counters.staleReclaimed + reclaimed }
  else keys

def sweepEvents (now : Int) (args : UpstreamArgs C) (keys : UpstreamKeys) : UpstreamKeys :=
  let horizon := now - args.retentionSeconds * 1000
  let expiredEvents := keys.events.zrangebyscore .negInf (.closed horizon)
  { keys with
    eventCosts := keys.eventCosts.update fun costs =>
      costs.retain fun id _ => !(expiredEvents.map Prod.fst).contains id
    events := keys.events.zremrangebyscore .negInf (.closed horizon) }

def sweep (now : Int) (args : UpstreamArgs C) (keys : UpstreamKeys) : UpstreamKeys :=
  ((keys.sweepExpired now args).sweepStale now args).sweepEvents now args

structure Existing where
  accountLease : Option Int
  aggregateLease : Option Int
  event : Option Int
  cost : Option String
  deriving DecidableEq, Repr

def existing (args : UpstreamArgs C) (keys : UpstreamKeys) : Existing where
  accountLease := keys.accountLeases.zscore args.leaseId
  aggregateLease := keys.aggregateLeases.zscore args.leaseId
  event := keys.events.zscore args.eventId
  cost := keys.eventCosts.entries.lookup args.eventId

def Existing.all (existing : Existing) : Bool :=
  existing.accountLease.isSome && existing.aggregateLease.isSome && existing.event.isSome &&
    existing.cost.isSome

def Existing.any (existing : Existing) : Bool :=
  existing.accountLease.isSome || existing.aggregateLease.isSome || existing.event.isSome ||
    existing.cost.isSome

def recordAdmission (now : Int) (args : UpstreamArgs C) (keys : UpstreamKeys) : UpstreamKeys :=
  { keys with
    accountLeases := addLease now args.leaseDurationMs args.leaseId keys.accountLeases
    reservedAt := (keys.reservedAt.zadd now args.leaseId).pexpire now (args.leaseDurationMs + 60000)
    aggregateLeases := addLease now args.leaseDurationMs args.leaseId keys.aggregateLeases
    events := (keys.events.zadd now args.eventId).expire now (args.retentionSeconds + 60)
    eventCosts := (keys.eventCosts.update fun costs =>
      costs.insert args.eventId args.requestCost).expire now (args.retentionSeconds + 60) }

variable [Zero C] [Add C] [LT C] [DecidableLT C] (tonumber : String → C)

/-- `cost_since` -/
def costSince (keys : UpstreamKeys) (start : Int) : C :=
  (keys.events.zrangebyscore (.closed start) .posInf).foldl
    (fun total event =>
      total + tonumber ((keys.eventCosts.entries.lookup event.1).getD "0")) 0

def costRejection (now : Int) (args : UpstreamArgs C) (keys : UpstreamKeys) :
    Option UpstreamReply :=
  if args.hedge then
    if 0 < args.minuteLimit ∧ args.minuteLimit <
        keys.costSince tonumber (now - 60 * 1000 + 1) + tonumber args.requestCost then
      some .minuteLimit
    else if 0 < args.requestQuota ∧ args.requestQuota <
        keys.costSince tonumber (now - args.requestWindowSeconds * 1000 + 1) +
          tonumber args.requestCost then
      some .requestQuota
    else none
  else none

end UpstreamKeys

variable [Zero C] [Add C] [LT C] [DecidableLT C] (tonumber : String → C)

/-- `upstream_reserve.lua` -/
def upstreamReserve (args : UpstreamArgs C) (now : Int) (keys : UpstreamKeys) :
    UpstreamReply × UpstreamKeys :=
  let keys := (keys.live now).sweep now args
  let existing := keys.existing args
  if existing.all then
    (if existing.cost = some args.requestCost then .reserved else .conflict, keys)
  else if existing.any then (.conflict, keys)
  else if keys.accountLeases.zcard ≥ args.maxConcurrency then
    (.saturated,
      { keys with
        counters := { keys.counters with capacityReject := keys.counters.capacityReject + 1 } })
  else
    match keys.costRejection tonumber now args with
    | some reply => (reply, keys)
    | none => (.reserved, keys.recordAdmission now args)

end Reserve

end ChatGateway
