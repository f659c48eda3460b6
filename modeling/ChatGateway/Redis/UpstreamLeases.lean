import ChatGateway.Redis.Upstream

set_option autoImplicit false

/-!
# The upstream release and snapshot scripts

`upstream_lease_release.lua` gives a lease back and samples how long it was held.
`upstream_snapshot.lua` reports on one upstream and sweeps its aggregate lease index on the way.
-/

namespace ChatGateway

structure ReleaseKeys where
  accountLeases : ZSet
  aggregateLeases : ZSet
  reservedAt : ZSet
  holdSamples : ZSet

def ReleaseKeys.live (now : Int) (keys : ReleaseKeys) : ReleaseKeys where
  accountLeases := keys.accountLeases.live now
  aggregateLeases := keys.aggregateLeases.live now
  reservedAt := keys.reservedAt.live now
  holdSamples := keys.holdSamples.live now

structure ReleaseArgs where
  leaseId : String
  sampleCap : Int
  reservoirTtlSeconds : Int

def recordHold (now : Int) (args : ReleaseArgs) (holdMs : Int) (holdSamples : ZSet) : ZSet :=
  let samples := holdSamples.zadd holdMs args.leaseId
  let size := samples.zcard
  let samples :=
    -- The shortest holds are dropped: the percentiles of interest lie in the tail.
    if args.sampleCap > 0 ∧ size > args.sampleCap then samples.zremLowest (size - args.sampleCap)
    else samples
  samples.expire now args.reservoirTtlSeconds

/-- `upstream_lease_release.lua` -/
def upstreamLeaseRelease (now : Int) (args : ReleaseArgs) (keys : ReleaseKeys) :
    Bool × ReleaseKeys :=
  let keys := keys.live now
  let removed := (keys.accountLeases.zscore args.leaseId).isSome
  let holdSamples :=
    match keys.reservedAt.zscore args.leaseId with
    | some reservedAt =>
      if removed ∧ now - reservedAt ≥ 0 then
        recordHold now args (now - reservedAt) keys.holdSamples
      else keys.holdSamples
    | none => keys.holdSamples
  (removed,
    { accountLeases := keys.accountLeases.zrem args.leaseId
      aggregateLeases := keys.aggregateLeases.zrem args.leaseId
      reservedAt := keys.reservedAt.zrem args.leaseId
      holdSamples := holdSamples })

structure UpstreamCooldown where
  cooldownUntil : Option Int
  lastFeedbackType : Option String
  lastRetryAfterSeconds : Option String
  deriving DecidableEq, Repr

structure StreamCounters where
  sseBadFrameSkipped : Int := 0
  sseParseError : Int := 0
  transportDecodeError : Int := 0
  routeCooldownSkipped : Int := 0
  deriving DecidableEq, Repr

structure SnapshotKeys where
  leases : ZSet
  events : ZSet
  eventCosts : Volatile String String
  cooldown : Option (Expiring UpstreamCooldown)
  counters : UpstreamCounters
  streamCounters : StreamCounters
  reclaimMarkers : Volatile String Unit

structure SnapshotArgs where
  requestWindowSeconds : Int
  leaseDurationMs : Int
  staleAfterMs : Int

structure UpstreamSnapshot (C : Type) where
  leases : Int
  minuteCost : C
  windowCost : C
  cooldownUntil : Int
  lastFeedbackType : String
  lastRetryAfterSeconds : String
  nowSeconds : Int
  counters : UpstreamCounters
  staleLeaseCount : Int
  oldestLeaseAgeSeconds : Int
  streamCounters : StreamCounters

namespace SnapshotArgs

def retentionSeconds (args : SnapshotArgs) : Int :=
  max 60 args.requestWindowSeconds

def staleCutoff (args : SnapshotArgs) (now : Int) : Int :=
  now + args.leaseDurationMs - args.staleAfterMs

end SnapshotArgs

namespace SnapshotKeys

def live (now : Int) (keys : SnapshotKeys) : SnapshotKeys where
  leases := keys.leases.live now
  events := keys.events.live now
  eventCosts := keys.eventCosts.live now
  cooldown := Expiring.live now keys.cooldown
  counters := keys.counters
  streamCounters := keys.streamCounters
  reclaimMarkers := keys.reclaimMarkers.live now

/-- `count_new_reclaims` -/
def countNewReclaims (now : Int) (args : SnapshotArgs) (leaseIds : List String)
    (markers : Volatile String Unit) : Int × Volatile String Unit :=
  if leaseIds.isEmpty then (0, markers)
  else
    let added := leaseIds.filter fun id => (markers.entries.lookup id).isNone
    (added.length,
      (markers.update fun ids => leaseIds.foldl (fun ids id => ids.insert id ()) ids).pexpire now
        (max (args.leaseDurationMs + 60000) (args.retentionSeconds * 1000 + 60000)))

def reclaim (now : Int) (args : SnapshotArgs) (low high : ScoreBound)
    (count : UpstreamCounters → Int → UpstreamCounters) (keys : SnapshotKeys) : SnapshotKeys :=
  let leases := keys.leases.zrangebyscore low high
  if leases.isEmpty then keys
  else
    let reclaimed := countNewReclaims now args (leases.map Prod.fst) keys.reclaimMarkers
    { keys with
      leases := keys.leases.zremrangebyscore low high
      counters := if reclaimed.1 > 0 then count keys.counters reclaimed.1 else keys.counters
      reclaimMarkers := reclaimed.2 }

def sweepExpired (now : Int) (args : SnapshotArgs) (keys : SnapshotKeys) : SnapshotKeys :=
  keys.reclaim now args .negInf (.closed now) fun counters reclaimed =>
    { counters with leakedReclaimed := counters.leakedReclaimed + reclaimed }

def sweepEvents (now : Int) (args : SnapshotArgs) (keys : SnapshotKeys) : SnapshotKeys :=
  let horizon := now - args.retentionSeconds * 1000
  let expiredEvents := keys.events.zrangebyscore .negInf (.closed horizon)
  { keys with
    eventCosts := keys.eventCosts.update fun costs =>
      costs.retain fun id _ => !(expiredEvents.map Prod.fst).contains id
    events := keys.events.zremrangebyscore .negInf (.closed horizon) }

def staleLeaseCount (now : Int) (args : SnapshotArgs) (keys : SnapshotKeys) : Int :=
  if args.staleAfterMs < args.leaseDurationMs then
    keys.leases.zcount (.opened now) (.closed (args.staleCutoff now))
  else 0

def sweepStale (now : Int) (args : SnapshotArgs) (keys : SnapshotKeys) : SnapshotKeys :=
  if keys.staleLeaseCount now args > 0 then
    keys.reclaim now args (.opened now) (.closed (args.staleCutoff now)) fun counters reclaimed =>
      { counters with staleReclaimed := counters.staleReclaimed + reclaimed }
  else keys

def oldestLeaseAgeSeconds (now : Int) (args : SnapshotArgs) (keys : SnapshotKeys) : Int :=
  match keys.leases.zrangeFirst with
  | none => 0
  | some (_, oldest) => max 0 ((now + args.leaseDurationMs - oldest) / 1000)

def cooldownUntil (nowSeconds : Int) (keys : SnapshotKeys) : Int :=
  let recorded := (keys.cooldown.bind fun entry => entry.value.cooldownUntil).getD 0
  if recorded ≤ nowSeconds then 0 else recorded

variable {C : Type} [Zero C] [Add C] (tonumber : String → C)

/-- `cost_since` -/
def costSince (keys : SnapshotKeys) (start : Int) : C :=
  (keys.events.zrangebyscore (.closed start) .posInf).foldl
    (fun total event =>
      total + tonumber ((keys.eventCosts.entries.lookup event.1).getD "0")) 0

end SnapshotKeys

section Snapshot

variable {C : Type} [Zero C] [Add C] (tonumber : String → C)

/-- `upstream_snapshot.lua` -/
def upstreamSnapshot (args : SnapshotArgs) (now : Int) (keys : SnapshotKeys) :
    UpstreamSnapshot C × SnapshotKeys :=
  let nowSeconds := now / 1000
  let unswept := ((keys.live now).sweepExpired now args).sweepEvents now args
  let keys := unswept.sweepStale now args
  ({ leases := keys.leases.zcard
     minuteCost := keys.costSince tonumber (now - 60 * 1000 + 1)
     windowCost := keys.costSince tonumber (now - args.requestWindowSeconds * 1000 + 1)
     cooldownUntil := keys.cooldownUntil nowSeconds
     lastFeedbackType := (keys.cooldown.bind fun entry => entry.value.lastFeedbackType).getD ""
     lastRetryAfterSeconds :=
       (keys.cooldown.bind fun entry => entry.value.lastRetryAfterSeconds).getD ""
     nowSeconds := nowSeconds
     counters := keys.counters
     -- The stale leases and the oldest age are those from before the stale sweep.
     staleLeaseCount := unswept.staleLeaseCount now args
     oldestLeaseAgeSeconds := unswept.oldestLeaseAgeSeconds now args
     streamCounters := keys.streamCounters },
    keys)

end Snapshot

end ChatGateway
