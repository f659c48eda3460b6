import ChatGateway.Admission.Calls
import ChatGateway.Local.LeaseRuns

set_option autoImplicit false

/-!
# Admission in one process

The admission of the local backend over its windows and its lease table, and the book it keeps.
-/

namespace ChatGateway

def DownstreamAdmissionRejection.requestVerdict : DownstreamAdmissionRejection → AdmissionVerdict
  | .perMinuteLimitExceeded _ limit used => .perMinute limit used
  | .requestQuotaExceeded _ limit used windowSeconds => .requestQuota limit used windowSeconds
  | .dailyCostQuotaExceeded _ limit used => .dailyCost limit used
  | .runtimeCoordinationUnavailable | .concurrencyLimitExceeded .. => .unavailable

def DownstreamRuntime.capVerdict (runtime : DownstreamRuntime) (downstream : DownstreamConfig)
    (group : Option ModelConcurrencyGroup) : AdmissionVerdict :=
  let key : DownstreamLeaseKey := ⟨downstream.id, leaseGroupName group⟩
  match runtime.groupRejection key group, runtime.globalRejection downstream key.groupName with
  | some (.concurrencyLimitExceeded _ limit _), _ =>
    .groupConcurrency limit (runtime.bucket key).held key.groupName
  | none, some (.concurrencyLimitExceeded _ limit named) =>
    .globalConcurrency limit (downstreamTotalAdmitted runtime downstream.id) named
  | none, none => .admitted
  | _, _ => .unavailable

structure LocalBackend where
  windows : DownstreamWindows := {}
  runtime : DownstreamRuntime := ∅
  issued : List (Option DownstreamAdmission) := []

namespace LocalBackend

variable (settings : AdmissionSettings) (draws : UuidDraws) (state : LocalBackend)

def issue (handle : Option DownstreamAdmission) : LocalBackend :=
  { state with issued := state.issued ++ [handle] }

/-- `reserve_downstream_admission` without Redis. -/
def reserveAdmission (now : Nat) (downstream : DownstreamConfig) (model : Text) :
    Except DownstreamAdmissionRejection DownstreamAdmission × LocalBackend :=
  let step := state.issued.length
  if !downstream.rateLimitEnabled then (.ok (unlimitedAdmission downstream step), state)
  else
    match state.windows.reserveRequest settings.config downstream now (draws.event step) with
    | (.error rejection, windows) => (.error rejection, { state with windows })
    | (.ok reservation, windows) =>
      match tryReserveDownstreamConcurrency state.runtime (.at (1000 * now))
          settings.downstreamLeaseTtlSeconds (draws.lease step) step downstream model
          settings.modelCaseInsensitiveMatching with
      | (.error rejection, runtime) =>
        (.error rejection, { state with windows := windows.rollback reservation, runtime })
      | (.ok lease, runtime) => (.ok ⟨reservation, lease⟩, { state with windows, runtime })

def rollback (admitted : Nat) : LocalBackend :=
  match handedOut state.issued admitted with
  | none => state
  | some admission => { state with windows := state.windows.rollback admission.reservation }

def release (admitted : Nat) : LocalBackend :=
  match handedOut state.issued admitted with
  | none => state
  | some admission =>
    { state with
      runtime := onLease admission.lease state.runtime fun key id => (state.runtime.release key id).2 }

def record (now : Nat) (log : UsageLog) : LocalBackend :=
  { state with
    windows := state.windows.recordUsageEvent settings.config
      (log.stamped (draws.log state.issued.length) now) }

def apply (step : AdmissionStep) : LocalBackend :=
  match step.op with
  | .admitOne downstream model =>
    let (answer, after) := state.reserveAdmission settings draws step.time downstream model
    after.issue answer.toOption
  | .rollback admitted => (state.rollback admitted).issue none
  | .release admitted => (state.release admitted).issue none
  | .record log => (state.record settings draws step.time log).issue none

def verdict (now : Nat) (downstream : DownstreamConfig) (model : Text) : AdmissionVerdict :=
  if !downstream.rateLimitEnabled then .admitted
  else
    match (state.windows.reserveRequest settings.config downstream now
        (draws.event state.issued.length)).1 with
    | .error rejection => rejection.requestVerdict
    | .ok _ =>
      let group := settings.groupFor downstream model
      (state.runtime.pruneGroup (1000 * now) ⟨downstream.id, leaseGroupName group⟩ group).capVerdict
        downstream group

end LocalBackend

/-- What an admission rests on: quotas of at least one request, and only keys that are billed by
cost on scopes with a limit. -/
structure AdmissionSettings.Regular (settings : AdmissionSettings) (downstream : DownstreamConfig) :
    Prop where
  quota : ∀ requests, downstream.requestQuotaRequests = some requests → 1 ≤ requests
  priced : downstream.rateLimitEnabled →
    (settings.config.costScopeFor downstream.id).isLimited → downstream.hasCostPricing

def UuidDraws.request (draws : UuidDraws) (request : CountedRequest) : DownstreamRequestEvent :=
  ⟨draws.event request.ticket, request.createdAt⟩

structure DownstreamWindows.Keeps (draws : UuidDraws) (clock : Nat) (book : AdmissionBook)
    (windows : DownstreamWindows) : Prop where
  requests : ∀ downstreamId,
    windows.requestWindow downstreamId = (book.requests downstreamId).map draws.request
  costs : ∀ later, clock ≤ later → ∀ scopeId,
    (windows.tokenWindow scopeId).filter (fun event => dayStart later ≤ event.createdAt) =
      (costsSince (dayStart later) (book.costs scopeId)).map BookedCost.event

section Windows

variable {draws : UuidDraws} {book : AdmissionBook} {windows : DownstreamWindows} {now : Nat}
  {config : LedgerConfig} {downstream : DownstreamConfig}

theorem requestWindow_setRequests (downstreamId other : String)
    (events : List DownstreamRequestEvent) :
    (windows.setRequests downstreamId events).requestWindow other =
      if other = downstreamId then events else windows.requestWindow other := by
  rw [DownstreamWindows.requestWindow, DownstreamWindows.setRequests]
  dsimp only
  rw [Table.lookup_insert_eq]
  split <;> rfl

theorem requestsFrom_map (start : Nat) (requests : List CountedRequest) :
    requestsFrom start (requests.map draws.request) =
      (requestsSince start requests).map draws.request := by
  rw [requestsFrom, requestsSince, List.filter_map]
  rfl

theorem dropWhile_old {requests : List CountedRequest} {start : Nat}
    (ordered : requests.Pairwise fun left right => left.createdAt ≤ right.createdAt) :
    (requests.map draws.request).dropWhile (fun event => event.createdAt < start) =
      (requestsSince start requests).map draws.request := by
  induction requests with
  | nil => rfl
  | cons request rest ih =>
    obtain ⟨ahead, behind⟩ := List.pairwise_cons.1 ordered
    by_cases old : request.createdAt < start
    · have gone : ¬start ≤ request.createdAt := by omega
      simpa [requestsSince, UuidDraws.request, old, gone] using ih behind
    · have all : requestsSince start (request :: rest) = request :: rest := by
        refine List.filter_eq_self.2 fun other known => ?_
        rcases List.mem_cons.1 known with rfl | known
        · simpa using Nat.not_lt.1 old
        · have younger := ahead other known
          exact decide_eq_true (by omega)
      rw [all, List.map_cons, List.dropWhile_cons_of_neg (by simp [UuidDraws.request, old])]

variable (keeps : windows.Keeps draws now book) (sound : book.Sound config now)

include keeps sound in
theorem prunedRequests_eq :
    windows.prunedRequests downstream now =
      ((book.prune downstream now).requests downstream.id).map draws.request := by
  rw [DownstreamWindows.prunedRequests, keeps.requests, dropWhile_old (sound.ordered downstream.id),
    AdmissionBook.prune_requests]

theorem usedWithin_eq {windowSeconds : Nat}
    (inside : windowSeconds ≤ requestRetentionSeconds downstream) :
    (requestsFrom (windowStart now windowSeconds)
      (((book.prune downstream now).requests downstream.id).map draws.request)).length =
        book.usedWithin downstream now windowSeconds := by
  rw [requestsFrom_map, List.length_map, AdmissionBook.requestsSince_prune inside,
    AdmissionBook.usedWithin]

abbrev Refuses : Option DownstreamAdmissionRejection → Option AdmissionVerdict → Prop :=
  Option.Rel fun rejection verdict =>
    rejection.requestVerdict = verdict ∧ verdict.Answers (some rejection)

theorem minute_refuses :
    Refuses (minuteRejection downstream now
        (((book.prune downstream now).requests downstream.id).map draws.request))
      (book.minuteVerdict downstream now) := by
  have used : (requestsFrom (now - 59)
      (((book.prune downstream now).requests downstream.id).map draws.request)).length =
        book.usedWithin downstream now 60 :=
    usedWithin_eq (le_max_right _ _)
  simp only [minuteRejection, AdmissionBook.minuteVerdict, used]
  split
  · exact .some ⟨rfl, _, rfl⟩
  · exact .none

theorem quota_refuses
    (quota : ∀ requests, downstream.requestQuotaRequests = some requests → 1 ≤ requests) :
    Refuses (requestQuotaRejection downstream now
        (((book.prune downstream now).requests downstream.id).map draws.request))
      (book.quotaVerdict downstream now) := by
  rw [requestQuotaRejection, AdmissionBook.quotaVerdict]
  split
  next => exact .none
  next =>
    cases window : requestQuotaWindowSeconds downstream with
    | none => exact .none
    | some windowSeconds =>
      simp only [usedWithin_eq (AdmissionBook.window_inside window),
        Nat.max_eq_left (AdmissionBook.quota_positive window quota)]
      split
      · exact .some ⟨rfl, _, rfl⟩
      · exact .none

theorem cost_refuses {limit : Nat} (positive : 0 < limit) {events : List DownstreamTokenEvent}
    {scopeId : String}
    (kept : events.filter (fun event => dayStart now ≤ event.createdAt) =
      (costsSince (dayStart now) (book.costs scopeId)).map BookedCost.event)
    (range : book.spentToday now scopeId < 2 ^ 64) :
    Refuses (costRejection now limit events)
      (if limit ≤ book.spentToday now scopeId then
        some (.dailyCost limit (book.spentToday now scopeId)) else none) := by
  have used : tokensFrom (windowStart now downstreamDailyTokenWindowSeconds) events % 2 ^ 64 =
      book.spentToday now scopeId := by
    have sum : tokensFrom (dayStart now) events = book.spentToday now scopeId := by
      rw [tokensFrom, kept, List.map_map]
      rfl
    rw [← dayStart, sum, Nat.mod_eq_of_lt range]
  simp only [costRejection, used, Nat.max_eq_left (Nat.succ_le_of_lt positive)]
  split
  · exact .some ⟨rfl, _, rfl⟩
  · exact .none

include keeps sound in
theorem DownstreamWindows.Keeps.prune :
    (windows.setRequests downstream.id (windows.prunedRequests downstream now)).Keeps draws now
      (book.prune downstream now) where
  requests other := by
    rw [requestWindow_setRequests, prunedRequests_eq keeps sound]
    by_cases same : other = downstream.id
    · subst same
      rw [if_pos rfl]
    · rw [if_neg same, keeps.requests, AdmissionBook.prune_requests_of_ne _ _ _ same]
  costs := keeps.costs

omit sound keeps in
theorem DownstreamWindows.Keeps.pruneTokens (keeps : windows.Keeps draws now book)
    (priced : downstream.hasCostPricing)
    (limited : (config.costScopeFor downstream.id).isLimited) :
    (windows.setTokens (config.costScopeFor downstream.id).scopeId
      (windows.prunedTokens downstream (config.costScopeFor downstream.id) now)).Keeps draws now
        book where
  requests := keeps.requests
  costs later reached scopeId := by
    rw [← keeps.costs later reached scopeId, DownstreamWindows.tokenWindow,
      DownstreamWindows.setTokens]
    dsimp only
    rw [Table.lookup_insert_eq]
    by_cases own : scopeId = (config.costScopeFor downstream.id).scopeId
    · rw [if_pos own, Option.getD_some, BudgetState.filter_prunedTokens priced limited reached, own]
    · rw [if_neg own]
      rfl

/-- The request part of an admission: it ends with the refusal of the book, or adds a request to
windows that keep the pruned book. -/
inductive RequestPhase (draws : UuidDraws) (config : LedgerConfig) (downstream : DownstreamConfig)
    (now : Nat) (eventId : String) (book : AdmissionBook) (windows : DownstreamWindows) : Prop where
  | refused (rejection : DownstreamAdmissionRejection) (after : DownstreamWindows)
    (outcome : windows.reserveRequest config downstream now eventId = (.error rejection, after))
    (refusal : book.requestRefusal config downstream now = some rejection.requestVerdict)
    (answers : rejection.requestVerdict.Answers (some rejection))
    (kept : after.Keeps draws now (book.prune downstream now))
  | passed (after : DownstreamWindows)
    (outcome : windows.reserveRequest config downstream now eventId =
      after.admitRequest downstream now eventId
        (((book.prune downstream now).requests downstream.id).map draws.request))
    (refusal : book.requestRefusal config downstream now = none)
    (kept : after.Keeps draws now (book.prune downstream now))

include keeps sound in
theorem requestPhase (enabled : downstream.rateLimitEnabled)
    (quota : ∀ requests, downstream.requestQuotaRequests = some requests → 1 ≤ requests)
    (priced : (config.costScopeFor downstream.id).isLimited → downstream.hasCostPricing)
    (range : ∀ scopeId, book.spentToday now scopeId < 2 ^ 64) (eventId : String) :
    RequestPhase draws config downstream now eventId book windows := by
  have kept := @DownstreamWindows.Keeps.prune draws book windows now config downstream keeps sound
  have window := @prunedRequests_eq draws book windows now config downstream keeps sound
  have requests := rel_orElse (@minute_refuses draws book now downstream)
    (@quota_refuses draws book now downstream quota)
  rw [← window] at requests
  cases first : minuteRejection downstream now (windows.prunedRequests downstream now) <|>
      requestQuotaRejection downstream now (windows.prunedRequests downstream now) with
  | some rejection =>
    rw [first] at requests
    obtain ⟨_, refusal, rfl, answers⟩ := rel_of_some requests
    refine .refused rejection _ ?_ ?_ answers kept
    · simp only [DownstreamWindows.reserveRequest, enabled, first]
      rfl
    · rw [AdmissionBook.requestRefusal_eq, refusal]
      rfl
  | none =>
    have passed := (rel_none_iff requests).1 first
    cases limited : (config.costScopeFor downstream.id).dailyLimitCents with
    | none =>
      refine .passed _ ?_ ?_ kept
      · simp only [DownstreamWindows.reserveRequest, enabled, first, limited, ← window]
        rfl
      · rw [AdmissionBook.requestRefusal_eq, passed, AdmissionBook.costVerdict, limited]
        rfl
    | some limit =>
      have bounded := (CostScope.isLimited_iff config downstream.id).2 ⟨limit, limited⟩
      have filtered := config.dailyLimit_positive downstream.id
      rw [limited] at filtered
      have positive := LedgerConfig.limit_positive limited
      have cleared := kept.pruneTokens (priced bounded) bounded
      have costs := @cost_refuses (book.prune downstream now) now limit positive
        (windows.prunedTokens downstream (config.costScopeFor downstream.id) now)
        (config.costScopeFor downstream.id).scopeId
        (by
          rw [BudgetState.filter_prunedTokens (priced bounded) bounded le_rfl]
          exact keeps.costs now le_rfl _)
        (range _)
      have same : (windows.setRequests downstream.id
          (windows.prunedRequests downstream now)).prunedTokens downstream
            (config.costScopeFor downstream.id) now =
          windows.prunedTokens downstream (config.costScopeFor downstream.id) now := rfl
      cases cost : costRejection now limit
          (windows.prunedTokens downstream (config.costScopeFor downstream.id) now) with
      | some rejection =>
        rw [cost] at costs
        obtain ⟨_, refusal, rfl, answers⟩ := rel_of_some costs
        refine .refused rejection _ ?_ ?_ answers cleared
        · simp only [DownstreamWindows.reserveRequest, enabled, first, limited, filtered, same, cost]
          rfl
        · rw [AdmissionBook.requestRefusal_eq, passed, AdmissionBook.costVerdict, limited]
          exact refusal
      | none =>
        rw [cost] at costs
        refine .passed _ ?_ ?_ cleared
        · simp only [DownstreamWindows.reserveRequest, enabled, first, limited, filtered, same, cost,
            ← window]
          rfl
        · rw [AdmissionBook.requestRefusal_eq, passed, AdmissionBook.costVerdict, limited]
          exact (rel_none_iff costs).1 rfl

end Windows

section Calls

variable {draws : UuidDraws} {book other : AdmissionBook} {windows : DownstreamWindows}
  {clock : Nat}

theorem DownstreamWindows.Keeps.of_same (keeps : windows.Keeps draws clock book)
    (requests : other.requests = book.requests) (costs : other.costs = book.costs) :
    windows.Keeps draws clock other where
  requests downstreamId := by rw [requests, keeps.requests]
  costs later reached scopeId := by rw [costs, keeps.costs later reached]

theorem DownstreamWindows.Keeps.later {late : Nat} (keeps : windows.Keeps draws clock book)
    (reached : clock ≤ late) : windows.Keeps draws late book where
  requests := keeps.requests
  costs after ahead := keeps.costs after (reached.trans ahead)

theorem DownstreamWindows.Keeps.enter {now : Nat} (keeps : windows.Keeps draws clock book)
    (key : DownstreamLeaseKey) :
    (windows.setRequests key.downstreamId ((book.requests key.downstreamId).map draws.request ++
      [⟨draws.event book.issued.length, now⟩])).Keeps draws clock (book.enter now key) where
  requests downstreamId := by
    rw [requestWindow_setRequests, AdmissionBook.enter]
    by_cases same : downstreamId = key.downstreamId
    · subst same
      simp [UuidDraws.request]
    · simp [same, keeps.requests]
  costs := keeps.costs

theorem requestWindow_rollback (windows : DownstreamWindows) (owner eventId other : String) :
    (windows.rollback ⟨owner, some eventId⟩).requestWindow other =
      if other = owner then (windows.requestWindow owner).filter fun event => event.eventId ≠ eventId
      else windows.requestWindow other := by
  rw [DownstreamWindows.rollback]
  cases found : windows.requests.lookup owner with
  | none =>
    by_cases same : other = owner
    · subst same
      simp [DownstreamWindows.requestWindow, found]
    · simp [same]
  | some window =>
    have known : windows.requestWindow owner = window := by
      rw [DownstreamWindows.requestWindow, found, Option.getD_some]
    dsimp only
    split
    next empty =>
      rw [DownstreamWindows.requestWindow]
      dsimp only
      rw [Table.lookup_erase_eq, known, empty]
      split <;> rfl
    next =>
      rw [requestWindow_setRequests, known]

theorem tokenWindow_rollback (windows : DownstreamWindows)
    (reservation : DownstreamRequestReservation) (scopeId : String) :
    (windows.rollback reservation).tokenWindow scopeId = windows.tokenWindow scopeId := by
  rw [DownstreamWindows.rollback]
  split
  · dsimp only
    split <;> rfl
  · rfl

theorem filter_map_request (requests : List CountedRequest) (step : Nat) :
    (requests.map draws.request).filter (fun event => event.eventId ≠ draws.event step) =
      (requests.filter fun request => request.ticket ≠ step).map draws.request := by
  rw [List.filter_map]
  refine congrArg _ (List.filter_congr fun request _ => ?_)
  simp [UuidDraws.request, draws.event_injective.eq_iff]

theorem DownstreamWindows.Keeps.rollback (keeps : windows.Keeps draws clock book)
    (owner : String) (step : Nat)
    (requests : other.requests = Function.update book.requests owner
      ((book.requests owner).filter fun request => request.ticket ≠ step))
    (costs : other.costs = book.costs) :
    (windows.rollback ⟨owner, some (draws.event step)⟩).Keeps draws clock other where
  requests downstreamId := by
    rw [requestWindow_rollback, requests]
    by_cases same : downstreamId = owner
    · subst same
      rw [if_pos rfl, Function.update_self, keeps.requests, filter_map_request]
    · rw [if_neg same, Function.update_of_ne same, keeps.requests]
  costs later reached scopeId := by
    rw [costs, tokenWindow_rollback, keeps.costs later reached]

theorem DownstreamWindows.Keeps.record {config : LedgerConfig} (keeps : windows.Keeps draws clock book)
    (log : UsageLog) :
    (windows.recordUsageEvent config log).Keeps draws clock (book.record (bookedCost config log)) where
  requests downstreamId := by
    rw [DownstreamWindows.recordUsageEvent, bookedCost]
    cases usageEvent config log with
    | none => exact keeps.requests downstreamId
    | some entry => exact keeps.requests downstreamId
  costs later reached scopeId := by
    rw [BudgetState.tokenWindow_record, List.filter_append, keeps.costs later reached, bookedCost]
    cases booked : usageEvent config log with
    | none => simp [AdmissionBook.record, AdmissionBook.issue]
    | some entry =>
      obtain ⟨owner, event⟩ := entry
      by_cases own : owner = scopeId
      · subst own
        by_cases recent : dayStart later ≤ event.createdAt <;>
          simp [AdmissionBook.record, costsSince, Option.filter, BookedCost.event, recent]
      · simp [AdmissionBook.record, AdmissionBook.issue, Option.filter, own,
          Function.update_of_ne (Ne.symm own)]

end Calls

def UuidDraws.leaseOf (draws : UuidDraws) (lease : HeldLease) : String :=
  draws.lease lease.ticket

structure DownstreamRuntime.Keeps (draws : UuidDraws) (book : AdmissionBook)
    (runtime : DownstreamRuntime) : Prop where
  leases : ∀ key,
    (runtime.bucket key).admitted.keys.Perm ((book.leasesOf key).map draws.leaseOf)
  total : ∀ downstreamId,
    downstreamTotalAdmitted runtime downstreamId = (book.leasesUnder downstreamId).length

/-- No lease has lapsed by `now`. -/
def DownstreamRuntime.Unlapsed (now : Nat) (runtime : DownstreamRuntime) : Prop :=
  ∀ key leaseId expiresAt, (runtime.bucket key).admitted.lookup leaseId = some expiresAt →
    now < expiresAt

section Leases

variable {draws : UuidDraws} {book other : AdmissionBook} {runtime : DownstreamRuntime} {now : Nat}
  {config : LedgerConfig} {downstream : DownstreamConfig} {group : Option ModelConcurrencyGroup}

theorem pruneExpired_admitted_of_live {state : DownstreamLeaseState}
    (live : ∀ leaseId expiresAt, state.admitted.lookup leaseId = some expiresAt → now < expiresAt) :
    (state.pruneExpired now).admitted = state.admitted := by
  refine AList.ext (List.filter_eq_self.2 fun entry stored => decide_eq_true ?_)
  exact live entry.1 entry.2 (AList.mem_lookup_iff.2 stored)

theorem DownstreamRuntime.Unlapsed.pruned (live : runtime.Unlapsed now) (key : DownstreamLeaseKey) :
    ((runtime.bucket key).pruneExpired now).admitted = (runtime.bucket key).admitted :=
  pruneExpired_admitted_of_live (live key)

namespace DownstreamRuntime.Keeps

theorem of_same (keeps : runtime.Keeps draws book) (leases : other.leases = book.leases) :
    runtime.Keeps draws other where
  leases key := by
    rw [AdmissionBook.leasesOf, leases]
    exact keeps.leases key
  total downstreamId := by
    rw [AdmissionBook.leasesUnder, leases]
    exact keeps.total downstreamId

theorem held (keeps : runtime.Keeps draws book) (key : DownstreamLeaseKey) :
    (runtime.bucket key).held = (book.leasesOf key).length := by
  have counted := (keeps.leases key).length_eq
  rw [List.length_map] at counted
  rw [← counted, AList.keys, List.keys, List.length_map]
  rfl

theorem pruneGroup (keeps : runtime.Keeps draws book) (live : runtime.Unlapsed now)
    (key : DownstreamLeaseKey) (group : Option ModelConcurrencyGroup) :
    (runtime.pruneGroup now key group).Keeps draws book where
  leases other := by
    rw [bucket_pruneGroup]
    split
    next own =>
      rw [live.pruned, ← own.1]
      exact keeps.leases other
    next => exact keeps.leases other
  total downstreamId := by
    rw [DownstreamRuntime.pruneGroup]
    split
    next =>
      have moved := @total_of_insert runtime key downstreamId
        ((runtime.bucket key).pruneExpired now)
      have same : ((runtime.bucket key).pruneExpired now).held = (runtime.bucket key).held := by
        rw [DownstreamLeaseState.held, live.pruned, DownstreamLeaseState.held]
      rw [heldFor, heldFor, same] at moved
      rw [← keeps.total downstreamId]
      omega
    next => exact keeps.total downstreamId

theorem unlapsed_pruneGroup (live : runtime.Unlapsed now) (key : DownstreamLeaseKey)
    (group : Option ModelConcurrencyGroup) : (runtime.pruneGroup now key group).Unlapsed now := by
  intro other leaseId expiresAt found
  rw [bucket_pruneGroup] at found
  split at found
  next => exact live key leaseId expiresAt (by rwa [live.pruned] at found)
  next => exact live other leaseId expiresAt found

theorem fresh (sound : book.Sound config now) {lease : HeldLease} (known : lease ∈ book.leases) :
    lease.ticket ≠ book.issued.length :=
  Nat.ne_of_lt (AdmissionBook.issued_of_bucketOf (sound.owned lease known))

theorem fresh_name (sound : book.Sound config now) (key : DownstreamLeaseKey) {lease : HeldLease}
    (known : lease ∈ book.leases) :
    draws.leaseOf lease ≠ draws.leaseOf ⟨book.issued.length, key⟩ :=
  fun same => fresh sound known (draws.lease_injective same)

theorem admitLease (keeps : runtime.Keeps draws book) (live : runtime.Unlapsed now) {clock : Nat}
    (sound : book.Sound config clock) (key : DownstreamLeaseKey) (ttlSeconds seconds : Nat) :
    (runtime.admitLease (.at now) ttlSeconds (draws.lease book.issued.length) key).Keeps draws
      (book.enter seconds key) where
  leases other := by
    rw [DownstreamRuntime.admitLease, bucket_insert, AdmissionBook.leasesOf_enter]
    by_cases own : other = key
    · subst own
      have added := Table.keys_perm_insert (keeps.leases other) ⟨book.issued.length, other⟩
        (fun lease known => fresh_name sound other (List.mem_of_mem_filter known))
      rw [if_pos rfl, if_pos rfl, DownstreamLeaseState.admitOne, ReserveClock.at, live.pruned]
      exact added _
    · rw [if_neg own, if_neg (Ne.symm own), List.append_nil]
      exact keeps.leases other
  total downstreamId := by
    have moved := @total_of_insert runtime key downstreamId
      (((runtime.bucket key).pruneExpired now).admitOne (draws.lease book.issued.length)
        (saturatingAdd64 now (downstreamLeaseDurationMs ttlSeconds)))
    have unknown : draws.lease book.issued.length ∉
        ((runtime.bucket key).pruneExpired now).admitted := by
      rw [live.pruned]
      intro known
      obtain ⟨lease, held, named⟩ := List.mem_map.1 ((keeps.leases key).mem_iff.1 known)
      exact fresh_name sound key (List.mem_of_mem_filter held) named
    have grown : (((runtime.bucket key).pruneExpired now).admitOne (draws.lease book.issued.length)
        (saturatingAdd64 now (downstreamLeaseDurationMs ttlSeconds))).held =
          (runtime.bucket key).held + 1 := by
      rw [DownstreamLeaseState.admit_held, if_neg unknown, DownstreamLeaseState.held, live.pruned,
        DownstreamLeaseState.held]
    rw [heldFor, heldFor, grown] at moved
    rw [AdmissionBook.length_leasesUnder_enter, ← keeps.total downstreamId, DownstreamRuntime.admitLease,
      ReserveClock.at]
    dsimp only
    split at moved <;> simp_all <;> omega

theorem filter_leaseOf (leases : List HeldLease) (step : Nat) :
    (leases.filter fun lease => draws.leaseOf lease ≠ draws.lease step) =
      leases.filter fun lease => lease.ticket ≠ step := by
  refine List.filter_congr fun lease _ => ?_
  simp [UuidDraws.leaseOf, draws.lease_injective.eq_iff]

end DownstreamRuntime.Keeps

theorem bucket_release (runtime : DownstreamRuntime) (key other : DownstreamLeaseKey)
    (leaseId : String) :
    ((runtime.release key leaseId).2.bucket other).admitted =
      if other = key then (runtime.bucket key).admitted.erase leaseId
      else (runtime.bucket other).admitted := by
  rw [DownstreamRuntime.release]
  cases found : runtime.lookup key with
  | none =>
    have missing : runtime.bucket key = {} := by
      rw [DownstreamRuntime.bucket, found, Option.getD_none]
    by_cases own : other = key
    · subst own
      rw [if_pos rfl, missing]
      rfl
    · rw [if_neg own]
  | some state =>
    have known := runtime.bucket_of_lookup key found
    dsimp only
    split
    next empty =>
      have nothing : state.admitted.erase leaseId = ∅ :=
        AList.ext (List.isEmpty_iff.1 (Bool.and_eq_true_iff.1 empty).1)
      rw [DownstreamRuntime.bucket_erase, known, nothing]
      split <;> rfl
    next =>
      rw [DownstreamRuntime.bucket_insert, known]
      split <;> rfl

theorem total_release (runtime : DownstreamRuntime) (key : DownstreamLeaseKey)
    (leaseId downstreamId : String) :
    downstreamTotalAdmitted (runtime.release key leaseId).2 downstreamId +
        DownstreamRuntime.heldFor downstreamId key (runtime.bucket key) =
      downstreamTotalAdmitted runtime downstreamId +
        DownstreamRuntime.heldFor downstreamId key ((runtime.bucket key).remove leaseId) := by
  rw [DownstreamRuntime.release]
  cases found : runtime.lookup key with
  | none =>
    have missing : runtime.bucket key = {} := by
      rw [DownstreamRuntime.bucket, found, Option.getD_none]
    rw [missing]
    rfl
  | some state =>
    have known := runtime.bucket_of_lookup key found
    dsimp only
    split
    next empty =>
      have erased := Table.total_erase runtime key (DownstreamRuntime.heldFor downstreamId)
      rw [DownstreamRuntime.heldFor_bucket] at erased
      have nothing : DownstreamRuntime.heldFor downstreamId key (state.remove leaseId) = 0 := by
        have left : (state.remove leaseId).admitted.entries = [] :=
          List.isEmpty_iff.1 (Bool.and_eq_true_iff.1 empty).1
        simp [DownstreamRuntime.heldFor, DownstreamLeaseState.held, left]
      rw [DownstreamRuntime.downstreamTotalAdmitted_eq_total,
        DownstreamRuntime.downstreamTotalAdmitted_eq_total, known, nothing]
      rw [known] at erased
      exact erased
    next =>
      have moved := @DownstreamRuntime.total_of_insert runtime key downstreamId (state.remove leaseId)
      rwa [known] at moved ⊢

-- What a release takes from the leases that satisfy `within`.
theorem length_release {clock : Nat} (sound : book.Sound config clock) {step : Nat}
    {key : DownstreamLeaseKey} (admitted : book.bucketOf step = some key)
    (within : DownstreamLeaseKey → Bool) :
    (book.leases.filter fun lease => within lease.key).length =
      ((book.release step).leases.filter fun lease => within lease.key).length +
        if within key then (book.leases.filter fun lease => lease.ticket = step).length else 0 := by
  have own : ∀ lease ∈ book.leases, lease.ticket = step → lease.key = key := by
    rintro lease known rfl
    exact Option.some.inj ((sound.owned lease known).symm.trans admitted)
  have split := List.length_eq_length_filter_add (l := book.leases.filter fun lease =>
    within lease.key) fun lease => decide (lease.ticket ≠ step)
  rw [List.filter_filter, List.filter_filter] at split
  rw [split, AdmissionBook.release, List.filter_filter]
  congr 1
  · refine congrArg _ (List.filter_congr fun lease _ => ?_)
    rw [Bool.and_comm]
  · by_cases inside : within key
    · rw [if_pos inside]
      refine congrArg _ (List.filter_congr fun lease known => ?_)
      by_cases given : lease.ticket = step
      · simp [given, own lease known given, inside]
      · simp [given]
    · rw [if_neg inside, List.length_eq_zero_iff, List.filter_eq_nil_iff]
      intro lease known
      by_cases given : lease.ticket = step
      · simp [own lease known given, inside]
      · simp [given]

namespace DownstreamRuntime.Keeps

theorem release (keeps : runtime.Keeps draws book) {clock : Nat} (sound : book.Sound config clock)
    {step : Nat} {key : DownstreamLeaseKey} (admitted : book.bucketOf step = some key) :
    (runtime.release key (draws.lease step)).2.Keeps draws (book.release step) where
  leases other := by
    rw [bucket_release]
    by_cases own : other = key
    · subst own
      rw [if_pos rfl, AdmissionBook.leasesOf_release, ← filter_leaseOf]
      exact Table.keys_perm_erase (keeps.leases other) (draws.lease step)
    · have kept : (book.release step).leasesOf other = book.leasesOf other :=
        AdmissionBook.filter_release sound admitted (fun bucket => bucket = other)
          (decide_eq_false (Ne.symm own))
      rw [if_neg own, kept]
      exact keeps.leases other
  total downstreamId := by
    have moved := total_release runtime key (draws.lease step) downstreamId
    have removed : ((runtime.bucket key).remove (draws.lease step)).held =
        ((book.release step).leasesOf key).length := by
      have left := (Table.keys_perm_erase (keeps.leases key) (draws.lease step)).length_eq
      rw [filter_leaseOf, ← AdmissionBook.leasesOf_release, List.length_map] at left
      rw [← left, AList.keys, List.keys, List.length_map]
      rfl
    have under := length_release sound admitted fun other => other.downstreamId = downstreamId
    have inBucket := length_release sound admitted fun other => other = key
    rw [heldFor, heldFor, keeps.held, removed, keeps.total] at moved
    simp only [AdmissionBook.leasesOf, AdmissionBook.leasesUnder] at moved ⊢
    simp only [decide_true, if_true] at inBucket
    by_cases own : key.downstreamId = downstreamId <;>
      simp only [own, decide_true, decide_false, if_true, if_false, Bool.false_eq_true] at moved under <;>
      omega

end DownstreamRuntime.Keeps

inductive LeasePhase (draws : UuidDraws) (settings : AdmissionSettings) (downstream : DownstreamConfig)
    (model : Text) (now seconds : Nat) (book : AdmissionBook) (runtime : DownstreamRuntime) : Prop where
  | refused (rejection : DownstreamAdmissionRejection) (verdict : AdmissionVerdict)
    (after : DownstreamRuntime)
    (outcome : tryReserveDownstreamConcurrency runtime (.at now) settings.downstreamLeaseTtlSeconds
      (draws.lease book.issued.length) book.issued.length downstream model
      settings.modelCaseInsensitiveMatching = (.error rejection, after))
    (refusal : book.leaseRefusal downstream (settings.groupFor downstream model) = some verdict)
    (answers : verdict.Answers (some rejection))
    (cap : (runtime.pruneGroup now
        ⟨downstream.id, leaseGroupName (settings.groupFor downstream model)⟩
        (settings.groupFor downstream model)).capVerdict downstream
          (settings.groupFor downstream model) = verdict)
    (kept : after.Keeps draws book)
  | passed (after : DownstreamRuntime)
    (outcome : tryReserveDownstreamConcurrency runtime (.at now) settings.downstreamLeaseTtlSeconds
      (draws.lease book.issued.length) book.issued.length downstream model
      settings.modelCaseInsensitiveMatching =
        (.ok (draws.admission book.issued.length
          ⟨downstream.id, leaseGroupName (settings.groupFor downstream model)⟩).lease, after))
    (refusal : book.leaseRefusal downstream (settings.groupFor downstream model) = none)
    (cap : (runtime.pruneGroup now
        ⟨downstream.id, leaseGroupName (settings.groupFor downstream model)⟩
        (settings.groupFor downstream model)).capVerdict downstream
          (settings.groupFor downstream model) = .admitted)
    (kept : after.Keeps draws
      (book.enter seconds ⟨downstream.id, leaseGroupName (settings.groupFor downstream model)⟩))

theorem groupRejection_cases (keeps : runtime.Keeps draws book) :
    let key : DownstreamLeaseKey := ⟨downstream.id, leaseGroupName group⟩
    (book.groupVerdict downstream group = none ∧ runtime.groupRejection key group = none) ∨
      ∃ limit, book.groupVerdict downstream group =
          some (.groupConcurrency limit (runtime.bucket key).held key.groupName) ∧
        runtime.groupRejection key group =
          some (.concurrencyLimitExceeded 1 limit (some key.groupName)) := by
  intro key
  cases group with
  | none => exact .inl ⟨rfl, rfl⟩
  | some matched =>
    rw [DownstreamRuntime.groupRejection, AdmissionBook.groupVerdict, keeps.held]
    split
    · exact .inr ⟨_, rfl, rfl⟩
    · exact .inl ⟨rfl, rfl⟩

theorem globalRejection_cases (keeps : runtime.Keeps draws book) :
    (book.globalVerdict downstream group = none ∧
        runtime.globalRejection downstream (leaseGroupName group) = none) ∨
      ∃ limit named, book.globalVerdict downstream group =
          some (.globalConcurrency limit (downstreamTotalAdmitted runtime downstream.id) named) ∧
        runtime.globalRejection downstream (leaseGroupName group) =
          some (.concurrencyLimitExceeded 1 limit named) := by
  rw [DownstreamRuntime.globalRejection, AdmissionBook.globalVerdict, keeps.total]
  split
  · exact .inr ⟨_, _, rfl, rfl⟩
  · exact .inl ⟨rfl, rfl⟩

theorem leasePhase {settings : AdmissionSettings} {model : Text} {clock : Nat}
    (keeps : runtime.Keeps draws book) (sound : book.Sound config clock) (live : runtime.Unlapsed now)
    (enabled : downstream.rateLimitEnabled) (seconds : Nat) :
    LeasePhase draws settings downstream model now seconds book runtime := by
  set group := settings.groupFor downstream model with named
  set key : DownstreamLeaseKey := ⟨downstream.id, leaseGroupName group⟩ with keyed
  set pruned := runtime.pruneGroup now key group with swept
  have kept : pruned.Keeps draws book := keeps.pruneGroup live key group
  have unlapsed : pruned.Unlapsed now := DownstreamRuntime.Keeps.unlapsed_pruneGroup live key group
  have outcome := tryReserveDownstreamConcurrency_eq enabled (.at now)
    settings.downstreamLeaseTtlSeconds (draws.lease book.issued.length) book.issued.length
    (named : group = downstream.concurrencyGroupForModel model
      settings.modelCaseInsensitiveMatching) keyed swept
  rcases @groupRejection_cases draws book pruned downstream group kept with
    ⟨free, noGroup⟩ | ⟨limit, full, byGroup⟩
  · rcases @globalRejection_cases draws book pruned downstream group kept with
      ⟨freeToo, noGlobal⟩ | ⟨limit, whole, full, byAll⟩
    · refine .passed _ (outcome.trans ?_) ?_ ?_
        (kept.admitLease unlapsed sound key settings.downstreamLeaseTtlSeconds seconds)
      · rw [noGroup, noGlobal]
        rfl
      · rw [AdmissionBook.leaseRefusal, free, freeToo]
        rfl
      · rw [DownstreamRuntime.capVerdict, noGroup, noGlobal]
    · refine .refused (.concurrencyLimitExceeded 1 limit whole)
        (.globalConcurrency limit (downstreamTotalAdmitted pruned downstream.id) whole) pruned (outcome.trans ?_) ?_ ⟨1, rfl⟩ ?_ kept
      · rw [noGroup, byAll]
        rfl
      · rw [AdmissionBook.leaseRefusal, free, full]
        rfl
      · rw [DownstreamRuntime.capVerdict, noGroup, byAll]
  · refine .refused (.concurrencyLimitExceeded 1 limit (some key.groupName))
      (.groupConcurrency limit (pruned.bucket key).held key.groupName) pruned (outcome.trans ?_) ?_ ⟨1, rfl⟩ ?_ kept
    · rw [byGroup]
      rfl
    · rw [AdmissionBook.leaseRefusal, full]
      rfl
    · rw [DownstreamRuntime.capVerdict, byGroup]

end Leases

namespace LocalBackend

structure Keeps (draws : UuidDraws) (clock : Nat) (book : AdmissionBook) (state : LocalBackend) :
    Prop where
  issued : HandedOut draws book state.issued
  windows : state.windows.Keeps draws clock book
  runtime : state.runtime.Keeps draws book

variable {settings : AdmissionSettings} {draws : UuidDraws} {book : AdmissionBook}
  {state : LocalBackend} {now : Nat} {downstream : DownstreamConfig} {model : Text}

theorem requests_enter_rollback {clock seconds : Nat} {config : LedgerConfig}
    (sound : book.Sound config clock) (key : DownstreamLeaseKey) :
    Function.update (book.enter seconds key).requests key.downstreamId
        (((book.enter seconds key).requests key.downstreamId).filter fun request =>
          request.ticket ≠ book.issued.length) = book.requests := by
  have kept : (book.requests key.downstreamId).filter
      (fun request => request.ticket ≠ book.issued.length) = book.requests key.downstreamId :=
    List.filter_eq_self.2 fun request known =>
      decide_eq_true (Nat.ne_of_lt (sound.numbered key.downstreamId request known))
  rw [AdmissionBook.enter]
  dsimp only
  rw [Function.update_self, List.filter_append, kept]
  simp

structure AdmitsBy (settings : AdmissionSettings) (draws : UuidDraws) (book : AdmissionBook)
    (state : LocalBackend) (now : Nat) (downstream : DownstreamConfig) (model : Text) : Prop where
  verdict : state.verdict settings draws now downstream model =
    book.verdict settings.config downstream (settings.groupFor downstream model) now
  answer : (book.verdict settings.config downstream (settings.groupFor downstream model) now).Answers
    (rejectionOf (state.reserveAdmission settings draws now downstream model).1)
  after : ((state.reserveAdmission settings draws now downstream model).2.issue
    (state.reserveAdmission settings draws now downstream model).1.toOption).Keeps draws now
      (book.admitOne settings.config downstream (settings.groupFor downstream model) now)

theorem Keeps.admitsBy_unlimited (keeps : state.Keeps draws now book)
    (unlimited : downstream.rateLimitEnabled = false) :
    AdmitsBy settings draws book state now downstream model := by
  have outcome : state.reserveAdmission settings draws now downstream model =
      (.ok (unlimitedAdmission downstream state.issued.length), state) := by
    rw [reserveAdmission, unlimited]
    rfl
  have verdict : book.verdict settings.config downstream (settings.groupFor downstream model) now =
      .admitted := by
    rw [AdmissionBook.verdict, unlimited]
    rfl
  refine ⟨?_, ?_, ?_⟩
  · rw [verdict, LocalBackend.verdict, unlimited]
    rfl
  · rw [verdict, outcome]
    rfl
  · rw [outcome, AdmissionBook.admitOne, unlimited]
    refine ⟨keeps.issued.issue ?_, keeps.windows.of_same rfl rfl, keeps.runtime.of_same rfl⟩
    rintro admission known
    obtain rfl := Option.some.inj known
    exact ⟨rfl, rfl⟩

theorem Keeps.admitsBy (keeps : state.Keeps draws now book) (sound : book.Sound settings.config now)
    (regular : settings.Regular downstream)
    (range : ∀ scopeId, book.spentToday now scopeId < 2 ^ 64)
    (live : state.runtime.Unlapsed (1000 * now)) :
    AdmitsBy settings draws book state now downstream model := by
  cases enabled : downstream.rateLimitEnabled with
  | false => exact keeps.admitsBy_unlimited enabled
  | true =>
    have steps := keeps.issued.steps
    set group := settings.groupFor downstream model with named
    set key : DownstreamLeaseKey := ⟨downstream.id, leaseGroupName group⟩ with keyed
    rcases @requestPhase draws book state.windows now settings.config downstream keeps.windows sound
      enabled regular.quota (regular.priced enabled) range (draws.event state.issued.length) with
      ⟨rejection, after, outcome, refusal, answers, kept⟩ | ⟨after, outcome, refusal, kept⟩
    · have refused : book.refusal settings.config downstream group now =
          some rejection.requestVerdict := by
        rw [AdmissionBook.refusal, refusal]
        rfl
      have verdict : book.verdict settings.config downstream group now =
          rejection.requestVerdict := by
        rw [AdmissionBook.verdict, enabled, refused]
        rfl
      have answered : state.reserveAdmission settings draws now downstream model =
          (.error rejection, { state with windows := after }) := by
        simp only [reserveAdmission, enabled, outcome]
        rfl
      refine ⟨?_, ?_, ?_⟩
      · rw [verdict, LocalBackend.verdict, enabled, outcome]
        rfl
      · rw [verdict, answered]
        exact answers
      · rw [answered, AdmissionBook.admitOne, enabled, refused]
        exact ⟨(keeps.issued.issue (HandedOut.handle_none _)).of_issued rfl, kept.of_same rfl rfl,
          keeps.runtime.of_same rfl⟩
    · have pruned := sound.prune downstream now
      have entered := @DownstreamWindows.Keeps.enter draws (book.prune downstream now) after now now
        kept key
      rcases @leasePhase draws (book.prune downstream now) state.runtime (1000 * now)
        settings.config downstream settings model now (keeps.runtime.of_same rfl) pruned live enabled
        now with
        ⟨rejection, capVerdict, runtime, leased, refused, answers, cap, still⟩ |
        ⟨runtime, leased, free, cap, grown⟩
      · have refusalEq : book.refusal settings.config downstream group now = some capVerdict := by
          rw [AdmissionBook.refusal, refusal]
          exact refused
        have verdict : book.verdict settings.config downstream group now = capVerdict := by
          rw [AdmissionBook.verdict, enabled, refusalEq]
          rfl
        have answered : state.reserveAdmission settings draws now downstream model =
            (.error rejection, { state with
              windows := (after.setRequests downstream.id
                (((book.prune downstream now).requests downstream.id).map draws.request ++
                  [⟨draws.event state.issued.length, now⟩])).rollback
                    ⟨downstream.id, some (draws.event state.issued.length)⟩
              runtime }) := by
          simp only [reserveAdmission, enabled, outcome, DownstreamWindows.admitRequest]
          rw [steps]
          have same := leased
          simp only [AdmissionBook.prune] at same
          rw [same]
          rfl
        refine ⟨?_, ?_, ?_⟩
        · rw [verdict, LocalBackend.verdict, enabled, outcome]
          exact cap
        · rw [verdict, answered]
          exact answers
        · rw [answered, AdmissionBook.admitOne, enabled, refusalEq, steps]
          refine ⟨(keeps.issued.issue (HandedOut.handle_none _)).of_issued rfl, ?_,
            still.of_same rfl⟩
          exact entered.rollback downstream.id book.issued.length
            (requests_enter_rollback pruned key).symm rfl
      · have refusalEq : book.refusal settings.config downstream group now = none := by
          rw [AdmissionBook.refusal, refusal]
          exact free
        have verdict : book.verdict settings.config downstream group now = .admitted := by
          rw [AdmissionBook.verdict, enabled, refusalEq]
          rfl
        have answered : state.reserveAdmission settings draws now downstream model =
            (.ok (draws.admission book.issued.length key), { state with
              windows := after.setRequests downstream.id
                (((book.prune downstream now).requests downstream.id).map draws.request ++
                  [⟨draws.event book.issued.length, now⟩])
              runtime }) := by
          simp only [reserveAdmission, enabled, outcome, DownstreamWindows.admitRequest]
          rw [steps]
          have same := leased
          simp only [AdmissionBook.prune] at same
          rw [same]
          rfl
        refine ⟨?_, ?_, ?_⟩
        · rw [verdict, LocalBackend.verdict, enabled, outcome]
          exact cap
        · rw [verdict, answered]
          rfl
        · rw [answered, AdmissionBook.admitOne, enabled, refusalEq]
          have made : draws.Handle book.issued.length (some key)
              (some (draws.admission book.issued.length key)) := rfl
          exact ⟨(keeps.issued.issue made).of_issued rfl, entered, grown⟩

theorem Keeps.issueNone {clock : Nat} (keeps : state.Keeps draws clock book) :
    (state.issue none).Keeps draws clock (book.issue none) :=
  ⟨keeps.issued.issue (HandedOut.handle_none _), keeps.windows.of_same rfl rfl,
    keeps.runtime.of_same rfl⟩

theorem Keeps.rollback {clock : Nat} (keeps : state.Keeps draws clock book) (step : Nat) :
    ((state.rollback step).issue none).Keeps draws clock (book.rollback step) := by
  have handle := keeps.issued.handles step
  rw [AdmissionBook.rollback]
  cases bucket : book.bucketOf step with
  | none =>
    rw [bucket] at handle
    have same : state.rollback step = state := by
      rw [LocalBackend.rollback]
      cases found : handedOut state.issued step with
      | none => rfl
      | some admission =>
        have idle : state.windows.rollback admission.reservation = state.windows := by
          rw [DownstreamWindows.rollback, (handle admission found).1]
        dsimp only
        rw [idle]
    rw [same]
    exact keeps.issueNone
  | some key =>
    rw [bucket] at handle
    have found : handedOut state.issued step = some (draws.admission step key) := handle
    rw [LocalBackend.rollback, found]
    exact ⟨(keeps.issued.issue (HandedOut.handle_none _)).of_issued rfl,
      keeps.windows.rollback key.downstreamId step rfl rfl, keeps.runtime.of_same rfl⟩

theorem Keeps.release {clock : Nat} (keeps : state.Keeps draws clock book)
    (sound : book.Sound settings.config clock) (step : Nat) :
    ((state.release step).issue none).Keeps draws clock (book.release step) := by
  have handle := keeps.issued.handles step
  cases bucket : book.bucketOf step with
  | none =>
    rw [bucket] at handle
    have same : state.release step = state := by
      rw [LocalBackend.release]
      cases found : handedOut state.issued step with
      | none => rfl
      | some admission =>
        dsimp only
        rw [onLease, (handle admission found).2]
    have kept := AdmissionBook.release_unknown sound bucket
    rw [same]
    exact ⟨(keeps.issued.issue (HandedOut.handle_none _)).of_issued rfl,
      keeps.windows.of_same rfl rfl, keeps.runtime.of_same kept⟩
  | some key =>
    rw [bucket] at handle
    have found : handedOut state.issued step = some (draws.admission step key) := handle
    rw [LocalBackend.release, found]
    exact ⟨(keeps.issued.issue (HandedOut.handle_none _)).of_issued rfl,
      keeps.windows.of_same rfl rfl, keeps.runtime.release sound bucket⟩

theorem Keeps.record {clock : Nat} (keeps : state.Keeps draws clock book) (log : UsageLog)
    (freshId : String) :
    ((state.record settings draws now log).issue none).Keeps draws clock
      (book.record (bookedCost settings.config (log.stamped freshId now))) := by
  have sameEvent : ∀ id, state.windows.recordUsageEvent settings.config (log.stamped id now) =
      state.windows.recordUsageEvent settings.config (log.stamped freshId now) := fun _ => rfl
  have windows := @DownstreamWindows.Keeps.record draws book state.windows clock settings.config
    keeps.windows (log.stamped freshId now)
  rw [LocalBackend.record, sameEvent]
  refine ⟨?_, windows, ?_⟩
  · refine (keeps.issued.issue (HandedOut.handle_none _)).of_issued ?_
    cases bookedCost settings.config (log.stamped freshId now) <;> rfl
  · refine keeps.runtime.of_same ?_
    cases bookedCost settings.config (log.stamped freshId now) <;> rfl

theorem Keeps.later {clock late : Nat} (keeps : state.Keeps draws clock book)
    (reached : clock ≤ late) : state.Keeps draws late book :=
  ⟨keeps.issued, keeps.windows.later reached, keeps.runtime⟩

theorem Keeps.empty : Keeps draws 0 {} {} where
  issued := HandedOut.empty
  windows := ⟨fun _ => rfl, fun _ _ _ => rfl⟩
  runtime := ⟨fun _ => List.Perm.nil, fun _ => rfl⟩

end LocalBackend

end ChatGateway
