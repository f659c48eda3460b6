import ChatGateway.Local.DownstreamConfig
import Mathlib.Data.List.Dedup

set_option autoImplicit false

/-!
# Request and cost windows of one process

The deques of admitted requests and of booked costs, the admission of a request against them, and
the booking of a usage log. Times are in seconds.
-/

namespace ChatGateway

structure DownstreamRequestEvent where
  eventId : String
  createdAt : Nat
deriving DecidableEq

structure DownstreamTokenEvent where
  createdAt : Nat
  tokens : Nat
deriving DecidableEq

structure UsageLog where
  id : String
  downstreamKeyId : String
  requestId : String
  statusCode : Nat
  promptTokens : Nat
  completionTokens : Nat
  totalCostCents : Option Nat
  createdAt : Nat
deriving DecidableEq

def downstreamDailyTokenWindowSeconds : Nat := 24 * 60 * 60

structure LedgerConfig where
  downstreams : List DownstreamConfig
  owners : Table String String
  limits : Table String Nat

def LedgerConfig.costScopeFor (config : LedgerConfig) (downstreamId : String) : CostScope :=
  resolveCostScope downstreamId config.owners config.limits

structure DownstreamWindows where
  requests : Table String (List DownstreamRequestEvent) := ∅
  tokens : Table String (List DownstreamTokenEvent) := ∅

namespace DownstreamWindows

def requestWindow (windows : DownstreamWindows) (downstreamId : String) :
    List DownstreamRequestEvent :=
  (windows.requests.lookup downstreamId).getD []

def tokenWindow (windows : DownstreamWindows) (scopeId : String) : List DownstreamTokenEvent :=
  (windows.tokens.lookup scopeId).getD []

def setRequests (windows : DownstreamWindows) (downstreamId : String)
    (events : List DownstreamRequestEvent) : DownstreamWindows :=
  { windows with requests := windows.requests.insert downstreamId events }

def setTokens (windows : DownstreamWindows) (scopeId : String) (events : List DownstreamTokenEvent) :
    DownstreamWindows :=
  { windows with tokens := windows.tokens.insert scopeId events }

end DownstreamWindows

def windowStart (now windowSeconds : Nat) : Nat :=
  now - (windowSeconds - 1)

def requestQuotaWindowSeconds (downstream : DownstreamConfig) : Option Nat :=
  match downstream.requestQuotaWindowHours, downstream.requestQuotaRequests with
  | some hours, some _ => some (saturatingMul64 (max hours 1) (60 * 60))
  | _, _ => none

def requestRetentionSeconds (downstream : DownstreamConfig) : Nat :=
  max ((requestQuotaWindowSeconds downstream).getD 60) 60

def requestsFrom (start : Nat) (events : List DownstreamRequestEvent) :
    List DownstreamRequestEvent :=
  events.filter fun event => start ≤ event.createdAt

def requestRetryAfter (now windowSeconds : Nat) (counted : List DownstreamRequestEvent) : Nat :=
  let oldest := (counted.head?.map DownstreamRequestEvent.createdAt).getD now
  max (saturatingAdd64 oldest windowSeconds - now) 1

def minuteRejection (downstream : DownstreamConfig) (now : Nat)
    (window : List DownstreamRequestEvent) : Option DownstreamAdmissionRejection :=
  let counted := requestsFrom (now - 59) window
  if downstream.perMinuteLimit ≤ counted.length then
    some (.perMinuteLimitExceeded (requestRetryAfter now 60 counted) downstream.perMinuteLimit
      counted.length)
  else none

def requestQuotaRejection (downstream : DownstreamConfig) (now : Nat)
    (window : List DownstreamRequestEvent) : Option DownstreamAdmissionRejection :=
  if downstream.tokenBillingMode then none
  else match requestQuotaWindowSeconds downstream with
    | none => none
    | some windowSeconds =>
      let requestQuota := max (downstream.requestQuotaRequests.getD 0) 1
      let counted := requestsFrom (windowStart now windowSeconds) window
      if requestQuota ≤ counted.length then
        some (.requestQuotaExceeded (requestRetryAfter now windowSeconds counted) requestQuota
          counted.length windowSeconds)
      else none

def downstreamTokenRetentionSeconds (downstream : DownstreamConfig) (scope : CostScope) : Nat :=
  if downstream.hasCostPricing && scope.isLimited then downstreamDailyTokenWindowSeconds else 60

def retryAfterFrom (now windowSeconds deficit freed : Nat) : List DownstreamTokenEvent → Nat
  | [] => max windowSeconds 1
  | event :: rest =>
    let freed := saturatingAdd64 freed event.tokens
    if deficit ≤ freed then max (saturatingAdd64 event.createdAt windowSeconds - now) 1
    else retryAfterFrom now windowSeconds deficit freed rest

def downstreamTokenRetryAfterSeconds (events : List DownstreamTokenEvent)
    (now windowSeconds deficit : Nat) : Nat :=
  if deficit = 0 then 1 else retryAfterFrom now windowSeconds deficit 0 events

def tokensFrom (start : Nat) (events : List DownstreamTokenEvent) : Nat :=
  ((events.filter fun event => start ≤ event.createdAt).map DownstreamTokenEvent.tokens).sum

def costRejection (now dailyCostLimit : Nat) (window : List DownstreamTokenEvent) :
    Option DownstreamAdmissionRejection :=
  let dailyUsed :=
    tokensFrom (windowStart now downstreamDailyTokenWindowSeconds) window % 2 ^ 64
  if max dailyCostLimit 1 ≤ dailyUsed then
    some (.dailyCostQuotaExceeded
      (max (downstreamTokenRetryAfterSeconds window now downstreamDailyTokenWindowSeconds
        (saturatingAdd64 dailyUsed 1 - max dailyCostLimit 1)) 1)
      (max dailyCostLimit 1) dailyUsed)
  else none

structure DownstreamRequestReservation where
  downstreamId : String
  eventId : Option String
deriving DecidableEq

namespace DownstreamWindows

def prunedRequests (windows : DownstreamWindows) (downstream : DownstreamConfig) (now : Nat) :
    List DownstreamRequestEvent :=
  (windows.requestWindow downstream.id).dropWhile fun event =>
    event.createdAt < windowStart now (requestRetentionSeconds downstream)

def prunedTokens (windows : DownstreamWindows) (downstream : DownstreamConfig) (scope : CostScope)
    (now : Nat) : List DownstreamTokenEvent :=
  (windows.tokenWindow scope.scopeId).dropWhile fun event =>
    event.createdAt < windowStart now (downstreamTokenRetentionSeconds downstream scope)

def admitRequest (windows : DownstreamWindows) (downstream : DownstreamConfig) (now : Nat)
    (eventId : String) (window : List DownstreamRequestEvent) :
    Except DownstreamAdmissionRejection DownstreamRequestReservation × DownstreamWindows :=
  (.ok ⟨downstream.id, some eventId⟩, windows.setRequests downstream.id (window ++ [⟨eventId, now⟩]))

/-- `reserve_downstream_request` -/
def reserveRequest (windows : DownstreamWindows) (config : LedgerConfig)
    (downstream : DownstreamConfig) (now : Nat) (eventId : String) :
    Except DownstreamAdmissionRejection DownstreamRequestReservation × DownstreamWindows :=
  if !downstream.rateLimitEnabled then (.ok ⟨downstream.id, none⟩, windows)
  else
    let window := windows.prunedRequests downstream now
    let windows := windows.setRequests downstream.id window
    match minuteRejection downstream now window <|> requestQuotaRejection downstream now window with
    | some rejection => (.error rejection, windows)
    | none =>
      let scope := config.costScopeFor downstream.id
      match scope.dailyLimitCents.filter (0 < ·) with
      | none => windows.admitRequest downstream now eventId window
      | some dailyCostLimit =>
        let tokens := windows.prunedTokens downstream scope now
        let windows := windows.setTokens scope.scopeId tokens
        match costRejection now dailyCostLimit tokens with
        | some rejection => (.error rejection, windows)
        | none => windows.admitRequest downstream now eventId window

/-- `rollback_downstream_request_reservation` -/
def rollback (windows : DownstreamWindows) (reservation : DownstreamRequestReservation) :
    DownstreamWindows :=
  match reservation.eventId, windows.requests.lookup reservation.downstreamId with
  | some eventId, some window =>
    let kept := window.filter fun event => event.eventId ≠ eventId
    if kept = [] then { windows with requests := windows.requests.erase reservation.downstreamId }
    else windows.setRequests reservation.downstreamId kept
  | _, _ => windows

end DownstreamWindows

def UsageLog.isRequestQuotaCounted (log : UsageLog) : Bool :=
  log.statusCode ≠ 429 && log.statusCode < 500

def usageEvent (config : LedgerConfig) (log : UsageLog) : Option (String × DownstreamTokenEvent) :=
  if !log.isRequestQuotaCounted then none
  else
    let scope := config.costScopeFor log.downstreamKeyId
    ((config.downstreams.find? fun downstream => downstream.id = log.downstreamKeyId).filter
      fun downstream =>
        downstream.rateLimitEnabled && downstream.hasCostPricing && scope.isLimited).map
      fun downstream =>
        (scope.scopeId,
          { createdAt := log.createdAt
            tokens := log.totalCostCents.getD
              (downstream.costForTokens log.promptTokens log.completionTokens) })

def DownstreamWindows.recordUsageEvent (windows : DownstreamWindows) (config : LedgerConfig)
    (log : UsageLog) : DownstreamWindows :=
  match usageEvent config log with
  | none => windows
  | some (scopeId, event) => windows.setTokens scopeId (windows.tokenWindow scopeId ++ [event])

/-- The id and the time that `append_usage_log` gives to a log without one. -/
def UsageLog.stamped (log : UsageLog) (freshId : String) (now : Nat) : UsageLog :=
  { log with
    id := if log.id = "" then freshId else log.id
    createdAt := if log.createdAt = 0 then now else log.createdAt }

def UsageLog.replaysBefore (left right : UsageLog) : Bool :=
  if left.createdAt ≠ right.createdAt then left.createdAt < right.createdAt
  else if left.requestId ≠ right.requestId then left.requestId < right.requestId
  else left.id ≤ right.id

def dedupLogs : List UsageLog → List UsageLog
  | [] => []
  | log :: rest => log :: (dedupLogs rest).filter fun other => other.id ≠ log.id

def normalizedUsageLogs (logs : List UsageLog) : List UsageLog :=
  dedupLogs (logs.mergeSort UsageLog.replaysBefore)

def buildDownstreamRequestWindows (logs : List UsageLog) : Table String (List DownstreamRequestEvent) :=
  ((normalizedUsageLogs logs).filter UsageLog.isRequestQuotaCounted).foldl
    (fun windows log =>
      windows.insert log.downstreamKeyId (((windows.lookup log.downstreamKeyId).getD []) ++
        [⟨"history:" ++ log.id, log.createdAt⟩])) ∅

def costBilled (config : LedgerConfig) (log : UsageLog) : Bool :=
  config.downstreams.any fun downstream =>
    downstream.id = log.downstreamKeyId && downstream.hasCostPricing

def buildDownstreamTokenWindows (config : LedgerConfig) (logs : List UsageLog) :
    Table String (List DownstreamTokenEvent) :=
  ((normalizedUsageLogs logs).filter fun log =>
    log.isRequestQuotaCounted && costBilled config log).foldl
    (fun windows log =>
      let scopeId := (config.costScopeFor log.downstreamKeyId).scopeId
      windows.insert scopeId (((windows.lookup scopeId).getD []) ++
        [⟨log.createdAt, log.totalCostCents.getD 0⟩])) ∅

end ChatGateway
