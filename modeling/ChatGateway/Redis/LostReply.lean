import ChatGateway.Redis.HealthScripts
import ChatGateway.Redis.ReplayAccounts

set_option autoImplicit false

/-!
# Lost replies

The coordinator retries a script once after a connection error, so a script may run again on what
its first run left. Only a run that committed is recognised: a rejected attempt is tried afresh.
-/

namespace ChatGateway

section Finish

variable (args : FinishArgs) (keys : HealthKeys) (markerKey : String)

def finishMarkerReply (marker : Option FinishMarker) : Except String Int :=
  if (marker.map FinishMarker.result) = some "0" then .ok 0 else .ok 1

def FinishMarkerCurrent (now : Int) (marker : Option FinishMarker) : Prop :=
  ∃ entry, marker = some entry ∧ now ≤ entry.expiresAt ∧
    (entry.result = "0" ∨ entry.result = "1")

/-- `route_health_finish.lua` finds the marker of its lease. -/
def routeHealthFinishReplay :
    ReplayScheme HealthStore (Except String Int) (Option FinishMarker) where
  run now := routeHealthFinish now args keys markerKey
  committed reply := reply = .ok 0 ∨ reply = .ok 1
  found := HealthStore.live
  record store := store.markers markerKey
  keeps := Eq
  current := FinishMarkerCurrent
  tidy _ := id

theorem routeHealthFinish_of_current {now : Int} {store : HealthStore}
    (current : FinishMarkerCurrent now ((store.live now).markers markerKey)) :
    routeHealthFinish now args keys markerKey store =
      (finishMarkerReply ((store.live now).markers markerKey), store.live now) := by
  obtain ⟨marker, found, -, zero | one⟩ := current
  · simp [routeHealthFinish, finishMarkerReply, found, zero]
  · simp [routeHealthFinish, finishMarkerReply, found, one]

theorem routeHealthFinish_marks {now : Int} {store : HealthStore}
    (unmarked : (store.live now).markers markerKey = none)
    (committed : (routeHealthFinish now args keys markerKey store).1 = .ok 0 ∨
      (routeHealthFinish now args keys markerKey store).1 = .ok 1) :
    ∃ result, (result = "0" ∨ result = "1") ∧
      (routeHealthFinish now args keys markerKey store).2.markers markerKey =
        some ⟨result, now + args.ttlSeconds * 1000⟩ ∧
      (routeHealthFinish now args keys markerKey store).1 =
        finishMarkerReply (some ⟨result, now + args.ttlSeconds * 1000⟩) := by
  unfold routeHealthFinish at committed ⊢
  simp only [unmarked] at committed ⊢
  split at committed
  next refused =>
    rw [if_pos refused]
    exact ⟨"0", .inl rfl, by simp [HealthStore.commitResult], rfl⟩
  next accepted =>
    rw [if_neg accepted]
    split at committed
    next settled =>
      rw [if_pos settled]
      exact ⟨"1", .inr rfl, by simp [HealthStore.commitResult], rfl⟩
    next => simp at committed

theorem routeHealthFinish_safe :
    (routeHealthFinishReplay args keys markerKey).Safe
      (fun _ store => store.markers markerKey = none) (args.ttlSeconds * 1000) := by
  refine ⟨ReplayScheme.harmless_of_replies finishMarkerReply ?_ ?_ ?_, ?_⟩
  · intro now later store committed current
    cases found : (store.live now).markers markerKey with
    | none =>
      obtain ⟨result, -, left, replied⟩ :=
        routeHealthFinish_marks args keys markerKey found committed
      exact replied.trans (congrArg finishMarkerReply left.symm)
    | some marker =>
      have kept : (routeHealthFinish now args keys markerKey store).2.markers markerKey =
          some marker := by
        unfold routeHealthFinish
        simp only [found]
        split <;> [skip; split] <;> exact found
      obtain ⟨entry, recorded, -, result⟩ := current
      cases kept.symm.trans recorded
      rcases result with zero | one
      · simp [routeHealthFinishReplay, routeHealthFinish, finishMarkerReply, found, zero]
      · simp [routeHealthFinishReplay, routeHealthFinish, finishMarkerReply, found, one]
  · rintro now marker _ rfl current
    exact ⟨current, rfl⟩
  · exact fun now store current => routeHealthFinish_of_current args keys markerKey current
  · intro first second store unused committed _ within
    obtain ⟨result, known, left, -⟩ := routeHealthFinish_marks args keys markerKey unused committed
    exact ⟨_, left, Int.le_of_lt within, known⟩

end Finish

/-- Every retried script recognises a run that committed: the second run gives the same reply and
only tidies what has run out, as long as the record of the first run is kept and current. A run that
found nothing under its ids leaves a record that stays current for the given time. -/
theorem committed_replays_are_harmless {C : Type} [Zero C] [Add C] [LT C] [DecidableLT C]
    (tonumber : String → C) (digest : String → Nat) :
    (∀ quota lease, (downstreamAdmissionReplay quota lease).Safe
      (fun _ keys => keys.quota.requests.zscore quota.eventId = none ∧
        keys.groupLeases.zscore lease.leaseId = none)
      (quota.requestRetentionSeconds * 1000)) ∧
    (∀ args, (downstreamReserveReplay args).Safe
      (fun _ keys => keys.requests.zscore args.eventId = none)
      (args.requestRetentionSeconds * 1000)) ∧
    (∀ args : UpstreamArgs C, (upstreamReserveReplay tonumber args).Safe
      (fun _ keys => keys.existing args = ⟨none, none, none, none⟩)
      (min (args.retentionSeconds * 1000) args.unrenewedMs)) ∧
    (∀ eventId recorded retentionSeconds lifetime,
      (downstreamRecordTokensReplay eventId recorded retentionSeconds).Safe (fun _ _ => True)
        lifetime) ∧
    (∀ args, (accountProbeRejectReplay digest args).Safe
      (fun _ keys => keys.mutation = none) 60000) ∧
    (∀ args, (accountProbeGrantReplay args).Safe
      (fun now keys =>
        (∀ probe, keys.probe = some probe → probe.value.ownerToken ≠ args.ownerToken) ∧
        ∀ leaseId, args.atomicDownstream = some leaseId →
          ∀ score, keys.leases.zscore leaseId = some score → now + args.probeTtlMs ≤ score)
      args.probeTtlMs) ∧
    (∀ args, (accountProbeFinishReplay digest args).Safe
      (fun _ keys => keys.mutation = none) 60000) ∧
    (∀ args, (accountWaiterRegisterReplay args).Safe
      (fun _ keys => ∀ ticket, keys.ticketOf args.requestId = some ticket →
        ticket.registrationToken ≠ args.registrationToken)
      (min args.waiterBudgetMs args.waiterTtlMs)) ∧
    (∀ args keys markerKey, (routeHealthFinishReplay args keys markerKey).Safe
      (fun _ store => store.markers markerKey = none) (args.ttlSeconds * 1000)) :=
  ⟨downstreamAdmission_safe, downstreamReserve_safe, upstreamReserve_safe tonumber,
    downstreamRecordTokens_safe, accountProbeReject_safe digest, accountProbeGrant_safe,
    accountProbeFinish_safe digest, accountWaiterRegister_safe, routeHealthFinish_safe⟩

section Examples

def strictQuota : QuotaArgs where
  eventId := "event-2"
  minuteLimit := 1
  requestWindowSeconds := 0
  requestQuota := 0
  dailyLimit := 0
  monthlyLimit := 0

def busyQuota : QuotaKeys where
  requests := Volatile.absent.zadd 0 "event-1"
  tokens := .absent
  tokenValues := .absent

def exampleRegistration : RegisterArgs where
  onlyIfSaturated := true
  requestId := "request"
  downstreamId := "downstream"
  downstreamLeaseId := "lease"
  waiterBudgetMs := 120000
  waiterTtlMs := 30000
  registrationToken := "registration"

def saturatedAccount : AccountKeys where
  queue := .absent
  tickets := .absent
  sequence := none
  state := some { value := { saturated := true } }
  probe := none
  mutation := none
  leases := .absent
  waiting := .absent

def exampleUpstream : UpstreamArgs Nat where
  eventId := "event"
  leaseId := "lease"
  requestCost := "1"
  hedge := false
  maxConcurrency := 4
  minuteLimit := 0
  requestWindowSeconds := 0
  requestQuota := 0
  leaseDurationMs := 300000
  staleAfterMs := 30000

def idleUpstream : UpstreamKeys where
  accountLeases := .absent
  aggregateLeases := .absent
  events := .absent
  eventCosts := .absent
  counters := {}
  reclaimMarkers := .absent
  reservedAt := .absent

def exampleCost (text : String) : Nat := text.toNat?.getD 0

/-- A request over its quota is admitted on its second run, a registration is not repeated once
others end the saturation, and an upstream reservation reclaims its own lease as stale. -/
theorem second_runs_can_differ :
    ((downstreamReserve 59000 strictQuota busyQuota).1 = .perMinute 1 1 1 ∧
      (downstreamReserve 61000 strictQuota
        (downstreamReserve 59000 strictQuota busyQuota).2).1 = .reserved) ∧
    ((accountWaiterRegister exampleRegistration 1000 saturatedAccount).1 = .registered 0 1000 ∧
      (accountWaiterRegister exampleRegistration 2000
        { (accountWaiterRegister exampleRegistration 1000 saturatedAccount).2 with
          state := some { value := { saturated := false } } }).1 = .unsaturated) ∧
    (upstreamReserve exampleCost exampleUpstream 0 idleUpstream).1 = .reserved ∧
      (upstreamReserve exampleCost exampleUpstream 40000
        (upstreamReserve exampleCost exampleUpstream 0 idleUpstream).2).1 = .conflict := by
  refine ⟨?_, ?_, ?_⟩ <;> decide +kernel

end Examples

end ChatGateway
