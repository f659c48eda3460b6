import ChatGateway.Account.Registry
import ChatGateway.Local.DownstreamConfig

set_option autoImplicit false

/-!
# Upstream account leases of one process

The lease table of the upstream accounts, its lazy sweep, and the two gates in front of it: one
for requests and one for hedges, which also looks at the request quotas. Counters that are only
shown to operators are left out.
-/

namespace ChatGateway

structure LocalUpstreamSettings where
  upstreamLocalLeaseTtlSeconds : Nat
  upstreamLeaseStaleAfterMs : Nat
  probeDelaysMs : List Nat := []
  /-- The settings reject shorter times. -/
  staleAfterValid : 1000 ≤ upstreamLeaseStaleAfterMs

namespace LocalUpstreamSettings

def ttl (settings : LocalUpstreamSettings) : Duration :=
  Duration.fromSecs (max settings.upstreamLocalLeaseTtlSeconds 1)

def staleAfter (settings : LocalUpstreamSettings) : Duration :=
  Duration.fromMillis (max settings.upstreamLeaseStaleAfterMs 1)

end LocalUpstreamSettings

structure UpstreamLeaseRecord where
  expiresAt : Instant
  lastRenewedAt : Instant
  reservedAt : Instant
deriving DecidableEq

namespace UpstreamLeaseRecord

def new (now : Instant) (ttl : Duration) : UpstreamLeaseRecord :=
  ⟨now + ttl, now, now⟩

def isLive (record : UpstreamLeaseRecord) (now : Instant) (staleAfter : Duration) : Bool :=
  now < record.expiresAt && now - record.lastRenewedAt ≤ staleAfter

end UpstreamLeaseRecord

abbrev AccountLeases := Table String UpstreamLeaseRecord

structure UpstreamLeaseTable where
  leases : Table AccountConcurrencyKey AccountLeases := ∅
  holdSamples : Table AccountConcurrencyKey (List Duration) := ∅

def leaseHoldSampleSize : Nat := 32

namespace UpstreamLeaseTable

def accountLeases (table : UpstreamLeaseTable) (account : AccountConcurrencyKey) : AccountLeases :=
  (table.leases.lookup account).getD ∅

def accountLeaseCount (table : UpstreamLeaseTable) (account : AccountConcurrencyKey) : Nat :=
  (table.accountLeases account).entries.length

def insert (table : UpstreamLeaseTable) (account : AccountConcurrencyKey) (leaseId : String)
    (record : UpstreamLeaseRecord) : UpstreamLeaseTable :=
  { table with
    leases := table.leases.insert account ((table.accountLeases account).insert leaseId record) }

def sampleHold (table : UpstreamLeaseTable) (account : AccountConcurrencyKey) (hold : Duration) :
    UpstreamLeaseTable :=
  let samples := (table.holdSamples.lookup account).getD []
  let samples := if leaseHoldSampleSize ≤ samples.length then samples.tail else samples
  { table with holdSamples := table.holdSamples.insert account (samples ++ [hold]) }

def remove (table : UpstreamLeaseTable) (account : AccountConcurrencyKey) (leaseId : String)
    (now : Instant) : Bool × UpstreamLeaseTable :=
  match (table.accountLeases account).lookup leaseId with
  | none => (false, table)
  | some record =>
    let left := (table.accountLeases account).erase leaseId
    let sampled := table.sampleHold account (now - record.reservedAt)
    (true, { sampled with
      leases :=
        if left.entries = [] then table.leases.erase account else table.leases.insert account left })

def renew (table : UpstreamLeaseTable) (account : AccountConcurrencyKey) (leaseId : String)
    (now : Instant) (ttl : Duration) : UpstreamLeaseTable :=
  match (table.accountLeases account).lookup leaseId with
  | none => table
  | some record =>
    table.insert account leaseId { record with expiresAt := now + ttl, lastRenewedAt := now }

/-- `prune_expired_upstream_leases` -/
def pruneExpired (table : UpstreamLeaseTable) (now : Instant) (staleAfter : Duration) :
    UpstreamLeaseTable :=
  let swept := table.leases.mapEntries fun _ leases =>
    leases.retain fun _ record => record.isLive now staleAfter
  { table with leases := swept.retain fun _ leases => leases.entries ≠ [] }

def holdP50Seconds (table : UpstreamLeaseTable) (account : AccountConcurrencyKey) : Option Nat :=
  match table.holdSamples.lookup account with
  | none => none
  | some holds =>
    if holds.length < 2 then none
    else ((holds.mergeSort (· ≤ ·))[holds.length / 2]?).map (· / 1_000_000_000)

def oldestHeldSeconds (table : UpstreamLeaseTable) (account : AccountConcurrencyKey)
    (now : Instant) : Nat :=
  (((table.accountLeases account).entries.map fun entry =>
    (now - entry.2.reservedAt) / 1_000_000_000).max?).getD 0

def estimateRetryAfterSeconds (table : UpstreamLeaseTable) (settings : LocalUpstreamSettings)
    (account : AccountConcurrencyKey) (now : Instant) : Nat :=
  let probeDelaySecs := (settings.probeDelaysMs.head?.map fun delay => max (delay / 1000) 1).getD 1
  match table.holdP50Seconds account with
  | none => probeDelaySecs
  | some p50 => max (max (p50 - table.oldestHeldSeconds account now) probeDelaySecs) 1

end UpstreamLeaseTable

structure UpstreamConfig where
  id : String
  maxConcurrency : Nat := 1
  requestsPerMinute : Nat := 0
  requestQuotaRequests : Nat := 0
  requestQuotaWindowHours : Nat := 5

def UpstreamConfig.requestQuotaWindowSeconds (upstream : UpstreamConfig) : Nat :=
  max upstream.requestQuotaWindowHours 1 * (60 * 60)

structure UpstreamRuntimeState where
  minuteEvents : List Nat := []
  fiveHourEvents : List Nat := []

def pruneQuotaEvents (events : List Nat) (now windowSeconds : Nat) : List Nat :=
  events.dropWhile (· < now - (windowSeconds - 1))

inductive UpstreamAdmissionRejectionReason where
  | localConcurrency
  | hedgeMinuteQuota
  | hedgeWindowQuota
deriving DecidableEq

structure UpstreamAdmissionError where
  reason : UpstreamAdmissionRejectionReason
  message : String
  retryAfterSeconds : Nat
deriving DecidableEq

structure LocalUpstreams where
  table : UpstreamLeaseTable := {}
  runtime : Table String UpstreamRuntimeState := ∅

structure UpstreamClock where
  instant : Instant
  unixSeconds : Nat

namespace LocalUpstreams

def pruneQuotas (state : LocalUpstreams) (upstream : UpstreamConfig) (now : Nat) :
    UpstreamRuntimeState :=
  let runtime := (state.runtime.lookup upstream.id).getD {}
  { minuteEvents := pruneQuotaEvents runtime.minuteEvents now 60
    fiveHourEvents := pruneQuotaEvents runtime.fiveHourEvents now upstream.requestQuotaWindowSeconds }

def concurrencyRejection (table : UpstreamLeaseTable) (settings : LocalUpstreamSettings)
    (now : Instant) (upstream : UpstreamConfig) (account : AccountConcurrencyKey)
    (message : String) : Option UpstreamAdmissionError :=
  if max upstream.maxConcurrency 1 ≤ table.accountLeaseCount account then
    some ⟨.localConcurrency, message, table.estimateRetryAfterSeconds settings account now⟩
  else none

def admitLease (table : UpstreamLeaseTable) (runtime : UpstreamRuntimeState)
    (settings : LocalUpstreamSettings) (clock : UpstreamClock) (leaseId : String)
    (upstream : UpstreamConfig) (account : AccountConcurrencyKey) (state : LocalUpstreams) :
    LocalUpstreams :=
  { table := table.insert account leaseId (.new clock.instant settings.ttl)
    runtime := state.runtime.insert upstream.id
      { minuteEvents := runtime.minuteEvents ++ [clock.unixSeconds]
        fiveHourEvents := runtime.fiveHourEvents ++ [clock.unixSeconds] } }

/-- `try_reserve_upstream_account_request` sweeps the table before its gate. -/
def tryReserveAccountRequest (state : LocalUpstreams) (settings : LocalUpstreamSettings)
    (clock : UpstreamClock) (leaseId : String) (upstream : UpstreamConfig)
    (account : AccountConcurrencyKey) : Option UpstreamAdmissionError × LocalUpstreams :=
  let runtime := state.pruneQuotas upstream clock.unixSeconds
  let table := state.table.pruneExpired clock.instant settings.staleAfter
  match concurrencyRejection table settings clock.instant upstream account
      "upstream request concurrency capacity is full" with
  | some rejection =>
    (some rejection, { table, runtime := state.runtime.insert upstream.id runtime })
  | none => (none, admitLease table runtime settings clock leaseId upstream account state)

def hedgeQuotaRejection (runtime : UpstreamRuntimeState) (upstream : UpstreamConfig) :
    Option UpstreamAdmissionError :=
  if 0 < upstream.requestsPerMinute ∧ upstream.requestsPerMinute < runtime.minuteEvents.length + 1
  then some ⟨.hedgeMinuteQuota, "upstream hedge minute quota is exhausted", 1⟩
  else if 0 < upstream.requestQuotaRequests ∧
      upstream.requestQuotaRequests < runtime.fiveHourEvents.length + 1 then
    some ⟨.hedgeWindowQuota, "upstream hedge request quota is exhausted", 1⟩
  else none

/-- `try_reserve_upstream_account_hedge` has a first gate on the table before the sweep. -/
def tryReserveAccountHedge (state : LocalUpstreams) (settings : LocalUpstreamSettings)
    (clock : UpstreamClock) (leaseId : String) (upstream : UpstreamConfig)
    (account : AccountConcurrencyKey) : Option UpstreamAdmissionError × LocalUpstreams :=
  let runtime := state.pruneQuotas upstream clock.unixSeconds
  let pruned := { state with runtime := state.runtime.insert upstream.id runtime }
  let message := "upstream hedge concurrency capacity is full"
  match concurrencyRejection state.table settings clock.instant upstream account message
      <|> hedgeQuotaRejection runtime upstream with
  | some rejection => (some rejection, pruned)
  | none =>
    let table := state.table.pruneExpired clock.instant settings.staleAfter
    match concurrencyRejection table settings clock.instant upstream account message with
    | some rejection => (some rejection, { pruned with table })
    | none => (none, admitLease table runtime settings clock leaseId upstream account state)

/-- `release_upstream_request` and `expire_upstream_request_lease_sync` -/
def releaseRequest (state : LocalUpstreams) (now : Instant) (account : AccountConcurrencyKey)
    (leaseId : String) : LocalUpstreams :=
  { state with table := (state.table.remove account leaseId now).2 }

def renewRequest (state : LocalUpstreams) (settings : LocalUpstreamSettings) (now : Instant)
    (account : AccountConcurrencyKey) (leaseId : String) : LocalUpstreams :=
  { state with
    table := (state.table.pruneExpired now settings.staleAfter).renew account leaseId now
      settings.ttl }

end LocalUpstreams

end ChatGateway
