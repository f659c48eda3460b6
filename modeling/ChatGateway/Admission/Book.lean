import ChatGateway.Local.DailyBudget
import ChatGateway.Local.DownstreamLeases

set_option autoImplicit false

/-!
# The book of downstream admissions

What a downstream admission is decided on, whatever store keeps it. An admission is known by the
number of the step that made it, and times are whole seconds.
-/

namespace ChatGateway

inductive AdmissionVerdict where
  | admitted
  | unavailable
  | perMinute (limit used : Nat)
  | requestQuota (limit used windowSeconds : Nat)
  | dailyCost (limit used : Nat)
  | groupConcurrency (limit used : Nat) (group : String)
  | globalConcurrency (limit used : Nat) (group : Option String)
deriving DecidableEq

def AdmissionVerdict.Answers : AdmissionVerdict → Option DownstreamAdmissionRejection → Prop
  | admitted, answer => answer = none
  | unavailable, answer => answer = some .runtimeCoordinationUnavailable
  | perMinute limit used, answer =>
    ∃ retry, answer = some (.perMinuteLimitExceeded retry limit used)
  | requestQuota limit used windowSeconds, answer =>
    ∃ retry, answer = some (.requestQuotaExceeded retry limit used windowSeconds)
  | dailyCost limit used, answer =>
    ∃ retry, answer = some (.dailyCostQuotaExceeded retry limit used)
  | groupConcurrency limit _ group, answer =>
    ∃ retry, answer = some (.concurrencyLimitExceeded retry limit (some group))
  | globalConcurrency limit _ group, answer =>
    ∃ retry, answer = some (.concurrencyLimitExceeded retry limit group)

structure CountedRequest where
  ticket : Nat
  createdAt : Nat
deriving DecidableEq

structure BookedCost where
  id : String
  createdAt : Nat
  tokens : Nat
deriving DecidableEq

def BookedCost.event (cost : BookedCost) : DownstreamTokenEvent :=
  ⟨cost.createdAt, cost.tokens⟩

structure HeldLease where
  ticket : Nat
  key : DownstreamLeaseKey
deriving DecidableEq

structure AdmissionBook where
  /-- For every step so far, the bucket that it was admitted to. -/
  issued : List (Option DownstreamLeaseKey) := []
  requests : String → List CountedRequest := fun _ => []
  costs : String → List BookedCost := fun _ => []
  leases : List HeldLease := []

def requestsSince (start : Nat) (requests : List CountedRequest) : List CountedRequest :=
  requests.filter fun request => start ≤ request.createdAt

def costsSince (start : Nat) (costs : List BookedCost) : List BookedCost :=
  costs.filter fun cost => start ≤ cost.createdAt

def globalGroupName (groupName : String) : Option String :=
  if groupName = "" then none else some groupName

theorem LedgerConfig.limit_positive {config : LedgerConfig} {downstreamId : String} {limit : Nat}
    (limited : (config.costScopeFor downstreamId).dailyLimitCents = some limit) : 0 < limit := by
  have filtered := config.dailyLimit_positive downstreamId
  rw [limited] at filtered
  simpa using (Option.filter_eq_some_iff.1 filtered).2

namespace AdmissionBook

variable (book : AdmissionBook) (config : LedgerConfig) (downstream : DownstreamConfig)
  (group : Option ModelConcurrencyGroup) (now : Nat)

def usedWithin (windowSeconds : Nat) : Nat :=
  (requestsSince (windowStart now windowSeconds) (book.requests downstream.id)).length

def spentToday (scopeId : String) : Nat :=
  ((costsSince (dayStart now) (book.costs scopeId)).map BookedCost.tokens).sum

def leasesOf (key : DownstreamLeaseKey) : List HeldLease :=
  book.leases.filter fun lease => lease.key = key

def leasesUnder (downstreamId : String) : List HeldLease :=
  book.leases.filter fun lease => lease.key.downstreamId = downstreamId

def minuteVerdict : Option AdmissionVerdict :=
  if downstream.perMinuteLimit ≤ book.usedWithin downstream now 60 then
    some (.perMinute downstream.perMinuteLimit (book.usedWithin downstream now 60))
  else none

def quotaVerdict : Option AdmissionVerdict :=
  if downstream.tokenBillingMode then none
  else match requestQuotaWindowSeconds downstream with
    | none => none
    | some windowSeconds =>
      if downstream.requestQuotaRequests.getD 0 ≤ book.usedWithin downstream now windowSeconds then
        some (.requestQuota (downstream.requestQuotaRequests.getD 0)
          (book.usedWithin downstream now windowSeconds) windowSeconds)
      else none

def costVerdict : Option AdmissionVerdict :=
  match (config.costScopeFor downstream.id).dailyLimitCents with
  | none => none
  | some limit =>
    if limit ≤ book.spentToday now (config.costScopeFor downstream.id).scopeId then
      some (.dailyCost limit (book.spentToday now (config.costScopeFor downstream.id).scopeId))
    else none

def groupVerdict : Option AdmissionVerdict :=
  match group with
  | none => none
  | some matched =>
    let used := (book.leasesOf ⟨downstream.id, leaseGroupName group⟩).length
    if max matched.maxConcurrency 1 ≤ used then
      some (.groupConcurrency (max matched.maxConcurrency 1) used (leaseGroupName group))
    else none

def globalVerdict : Option AdmissionVerdict :=
  let used := (book.leasesUnder downstream.id).length
  if max downstream.maxConcurrency 1 ≤ used then
    some (.globalConcurrency (max downstream.maxConcurrency 1) used
      (globalGroupName (leaseGroupName group)))
  else none

def requestRefusal : Option AdmissionVerdict :=
  book.minuteVerdict downstream now
    <|> book.quotaVerdict downstream now
    <|> book.costVerdict config downstream now

theorem requestRefusal_eq :
    book.requestRefusal config downstream now =
      ((book.minuteVerdict downstream now <|> book.quotaVerdict downstream now) <|>
        book.costVerdict config downstream now) := by
  rw [requestRefusal]
  cases book.minuteVerdict downstream now <;> rfl

def leaseRefusal : Option AdmissionVerdict :=
  book.groupVerdict downstream group <|> book.globalVerdict downstream group

def refusal : Option AdmissionVerdict :=
  book.requestRefusal config downstream now <|> book.leaseRefusal downstream group

def verdict : AdmissionVerdict :=
  if downstream.rateLimitEnabled then (book.refusal config downstream group now).getD .admitted
  else .admitted

def prune : AdmissionBook :=
  { book with
    requests := Function.update book.requests downstream.id
      (requestsSince (windowStart now (requestRetentionSeconds downstream))
        (book.requests downstream.id)) }

@[simp] theorem prune_requests :
    (book.prune downstream now).requests downstream.id =
      requestsSince (windowStart now (requestRetentionSeconds downstream))
        (book.requests downstream.id) :=
  Function.update_self ..

@[simp] theorem prune_requests_of_ne {other : String} (apart : other ≠ downstream.id) :
    (book.prune downstream now).requests other = book.requests other :=
  Function.update_of_ne apart ..

def issue (key : Option DownstreamLeaseKey) : AdmissionBook :=
  { book with issued := book.issued ++ [key] }

def enter (key : DownstreamLeaseKey) : AdmissionBook :=
  { book.issue (some key) with
    requests := Function.update book.requests key.downstreamId
      (book.requests key.downstreamId ++ [⟨book.issued.length, now⟩])
    leases := book.leases ++ [⟨book.issued.length, key⟩] }

def admitOne : AdmissionBook :=
  if downstream.rateLimitEnabled then
    match book.refusal config downstream group now with
    | some _ => (book.prune downstream now).issue none
    | none => (book.prune downstream now).enter now ⟨downstream.id, leaseGroupName group⟩
  else book.issue none

def bucketOf (step : Nat) : Option DownstreamLeaseKey :=
  (book.issued[step]?).join

def rollback (step : Nat) : AdmissionBook :=
  match book.bucketOf step with
  | none => book.issue none
  | some key =>
    { book.issue none with
      requests := Function.update book.requests key.downstreamId
        ((book.requests key.downstreamId).filter fun request => request.ticket ≠ step) }

def release (step : Nat) : AdmissionBook :=
  { book.issue none with leases := book.leases.filter fun lease => lease.ticket ≠ step }

def record (cost : Option (String × BookedCost)) : AdmissionBook :=
  match cost with
  | none => book.issue none
  | some (scopeId, booked) =>
    { book.issue none with
      costs := Function.update book.costs scopeId (book.costs scopeId ++ [booked]) }

/-- What is true of a book whose last entry was not made after `clock`. -/
structure Sound (clock : Nat) : Prop where
  ordered : ∀ downstreamId,
    (book.requests downstreamId).Pairwise fun left right => left.createdAt ≤ right.createdAt
  past : ∀ downstreamId, ∀ request ∈ book.requests downstreamId, request.createdAt ≤ clock
  numbered : ∀ downstreamId, ∀ request ∈ book.requests downstreamId,
    request.ticket < book.issued.length
  owned : ∀ lease ∈ book.leases, book.bucketOf lease.ticket = some lease.key
  limited : ∀ scopeId, (config.limits.lookup scopeId).filter (0 < ·) = none →
    book.costs scopeId = []

variable {book config downstream group now} {clock : Nat}

theorem bucketOf_issue (key : Option DownstreamLeaseKey) {step : Nat}
    (known : step < book.issued.length) : (book.issue key).bucketOf step = book.bucketOf step := by
  rw [bucketOf, bucketOf, issue, List.getElem?_append_left known]

theorem issued_of_bucketOf {step : Nat} {key : DownstreamLeaseKey}
    (found : book.bucketOf step = some key) : step < book.issued.length := by
  by_contra beyond
  rw [bucketOf, List.getElem?_eq_none (Nat.not_lt.1 beyond)] at found
  cases found

theorem windowStart_anti {narrow wide : Nat} (wider : narrow ≤ wide) :
    windowStart now wide ≤ windowStart now narrow := by
  rw [windowStart, windowStart]
  omega

theorem requestsSince_requestsSince {early late : Nat} (ordered : early ≤ late)
    (requests : List CountedRequest) :
    requestsSince late (requestsSince early requests) = requestsSince late requests := by
  rw [requestsSince, requestsSince, List.filter_filter]
  refine List.filter_congr fun request _ => ?_
  rw [← Bool.decide_and, decide_eq_decide]
  omega

theorem leasesOf_enter (key other : DownstreamLeaseKey) :
    (book.enter now key).leasesOf other =
      book.leasesOf other ++ if key = other then [⟨book.issued.length, key⟩] else [] := by
  rw [leasesOf, enter, List.filter_append]
  by_cases own : key = other <;> simp [own, leasesOf]

theorem leasesUnder_enter (key : DownstreamLeaseKey) (owner : String) :
    (book.enter now key).leasesUnder owner = book.leasesUnder owner ++
      if key.downstreamId = owner then [⟨book.issued.length, key⟩] else [] := by
  rw [leasesUnder, enter, List.filter_append]
  by_cases own : key.downstreamId = owner <;> simp [own, leasesUnder]

theorem length_leasesUnder_enter (key : DownstreamLeaseKey) (owner : String) :
    ((book.enter now key).leasesUnder owner).length =
      (book.leasesUnder owner).length + if key.downstreamId = owner then 1 else 0 := by
  rw [leasesUnder_enter, List.length_append]
  split <;> rfl

theorem leasesOf_release (key : DownstreamLeaseKey) (step : Nat) :
    (book.release step).leasesOf key =
      (book.leasesOf key).filter fun lease => lease.ticket ≠ step := by
  rw [leasesOf, release, leasesOf, List.filter_filter,
    List.filter_filter]
  exact List.filter_congr fun lease _ => Bool.and_comm _ _

theorem requestsSince_prune {windowSeconds : Nat}
    (inside : windowSeconds ≤ requestRetentionSeconds downstream) :
    requestsSince (windowStart now windowSeconds) ((book.prune downstream now).requests downstream.id) =
      requestsSince (windowStart now windowSeconds) (book.requests downstream.id) := by
  rw [prune_requests, requestsSince_requestsSince (windowStart_anti inside)]

theorem window_inside {windowSeconds : Nat}
    (window : requestQuotaWindowSeconds downstream = some windowSeconds) :
    windowSeconds ≤ requestRetentionSeconds downstream := by
  rw [requestRetentionSeconds, window, Option.getD_some]
  exact le_max_left _ _

theorem window_settings {windowSeconds : Nat}
    (window : requestQuotaWindowSeconds downstream = some windowSeconds) :
    ∃ hours requests, downstream.requestQuotaWindowHours = some hours ∧
      downstream.requestQuotaRequests = some requests ∧ 1 ≤ windowSeconds := by
  rw [requestQuotaWindowSeconds] at window
  split at window
  next hours requests window_hours window_requests =>
    refine ⟨hours, requests, window_hours, window_requests, ?_⟩
    rw [← Option.some.inj window, saturatingMul64]
    omega
  next => cases window

theorem quota_positive {windowSeconds : Nat}
    (window : requestQuotaWindowSeconds downstream = some windowSeconds)
    (quota : ∀ requests, downstream.requestQuotaRequests = some requests → 1 ≤ requests) :
    1 ≤ downstream.requestQuotaRequests.getD 0 := by
  obtain ⟨-, requests, -, asked, -⟩ := window_settings window
  rw [asked]
  exact quota requests asked

namespace Sound

theorem empty : Sound {} config 0 where
  ordered _ := List.Pairwise.nil
  past _ _ known := by cases known
  numbered _ _ known := by cases known
  owned _ known := by cases known
  limited _ _ := rfl

theorem later {late : Nat} (sound : book.Sound config clock) (reached : clock ≤ late) :
    book.Sound config late where
  ordered := sound.ordered
  past downstreamId request known := (sound.past downstreamId request known).trans reached
  numbered := sound.numbered
  owned := sound.owned
  limited := sound.limited

theorem issue (sound : book.Sound config clock) (key : Option DownstreamLeaseKey) :
    (book.issue key).Sound config clock where
  ordered := sound.ordered
  past := sound.past
  numbered downstreamId request known := by
    have inside := sound.numbered downstreamId request known
    simp only [AdmissionBook.issue, List.length_append, List.length_singleton]
    omega
  owned lease known := by
    have found := sound.owned lease known
    rw [bucketOf_issue key (issued_of_bucketOf found)]
    exact found
  limited := sound.limited

theorem shrink (sound : book.Sound config clock) (downstreamId : String)
    {kept : List CountedRequest} (inside : kept.Sublist (book.requests downstreamId)) :
    Sound { book with requests := Function.update book.requests downstreamId kept } config clock := by
  have known : ∀ other, ∀ request ∈ Function.update book.requests downstreamId kept other,
      request ∈ book.requests other := by
    intro other request present
    by_cases same : other = downstreamId
    · subst same
      rw [Function.update_self] at present
      exact inside.subset present
    · rwa [Function.update_of_ne same] at present
  refine ⟨?_, fun other request present => sound.past other request (known other request present),
    fun other request present => sound.numbered other request (known other request present),
    sound.owned, sound.limited⟩
  intro other
  by_cases same : other = downstreamId
  · subst same
    simpa using (sound.ordered other).sublist inside
  · simpa [Function.update_of_ne same] using sound.ordered other

theorem prune (sound : book.Sound config clock) (downstream : DownstreamConfig) (now : Nat) :
    (book.prune downstream now).Sound config clock :=
  sound.shrink downstream.id List.filter_sublist

theorem enter (sound : book.Sound config now) (key : DownstreamLeaseKey) :
    (book.enter now key).Sound config now := by
  have issued := sound.issue (some key)
  refine ⟨?_, ?_, ?_, ?_, sound.limited⟩
  · intro other
    by_cases same : other = key.downstreamId
    · subst same
      simp only [AdmissionBook.enter, Function.update_self]
      refine List.pairwise_append.2 ⟨sound.ordered _, List.pairwise_singleton _ _, ?_⟩
      intro earlier known request added
      obtain rfl := List.mem_singleton.1 added
      exact sound.past _ earlier known
    · simpa [AdmissionBook.enter, Function.update_of_ne same] using sound.ordered other
  · intro other request present
    by_cases same : other = key.downstreamId
    · subst same
      simp only [AdmissionBook.enter, Function.update_self] at present
      rcases List.mem_append.1 present with known | added
      · exact sound.past _ request known
      · obtain rfl := List.mem_singleton.1 added
        exact le_rfl
    · simp only [AdmissionBook.enter, Function.update_of_ne same] at present
      exact sound.past other request present
  · intro other request present
    by_cases same : other = key.downstreamId
    · subst same
      simp only [AdmissionBook.enter, Function.update_self] at present
      rcases List.mem_append.1 present with known | added
      · exact issued.numbered _ request known
      · obtain rfl := List.mem_singleton.1 added
        simp [AdmissionBook.enter, AdmissionBook.issue]
    · simp only [AdmissionBook.enter, Function.update_of_ne same] at present
      exact issued.numbered other request present
  · intro lease present
    rcases List.mem_append.1 present with known | added
    · exact issued.owned lease known
    · obtain rfl := List.mem_singleton.1 added
      simp [AdmissionBook.enter, AdmissionBook.issue, bucketOf]

theorem admitOne (sound : book.Sound config now) :
    (book.admitOne config downstream group now).Sound config now := by
  rw [AdmissionBook.admitOne]
  split
  · split
    · exact (sound.prune downstream now).issue none
    · exact (sound.prune downstream now).enter _
  · exact sound.issue none

theorem rollback (sound : book.Sound config clock) (step : Nat) :
    (book.rollback step).Sound config clock := by
  rw [AdmissionBook.rollback]
  split
  · exact sound.issue none
  next key _ => exact (sound.issue none).shrink key.downstreamId List.filter_sublist

theorem release (sound : book.Sound config clock) (step : Nat) :
    (book.release step).Sound config clock := by
  have issued := sound.issue none
  exact ⟨issued.ordered, issued.past, issued.numbered,
    fun lease known => issued.owned lease (List.mem_of_mem_filter known), issued.limited⟩

theorem record (sound : book.Sound config clock) {cost : Option (String × BookedCost)}
    (onLimited : ∀ scopeId booked, cost = some (scopeId, booked) →
      (config.limits.lookup scopeId).filter (0 < ·) ≠ none) :
    (book.record cost).Sound config clock := by
  cases cost with
  | none => exact sound.issue none
  | some entry =>
    obtain ⟨scopeId, booked⟩ := entry
    have issued := sound.issue none
    refine ⟨issued.ordered, issued.past, issued.numbered, issued.owned, ?_⟩
    intro other unlimited
    have apart : other ≠ scopeId := by
      rintro rfl
      exact onLimited other booked rfl unlimited
    simpa [AdmissionBook.record, Function.update_of_ne apart] using sound.limited other unlimited

end Sound

theorem release_unknown (sound : book.Sound config clock) {step : Nat}
    (unknown : book.bucketOf step = none) : (book.release step).leases = book.leases := by
  refine List.filter_eq_self.2 fun lease known => decide_eq_true ?_
  rintro rfl
  rw [sound.owned lease known] at unknown
  cases unknown

theorem filter_release (sound : book.Sound config clock) {step : Nat} {key : DownstreamLeaseKey}
    (admitted : book.bucketOf step = some key) (within : DownstreamLeaseKey → Bool)
    (outside : within key = false) :
    (book.release step).leases.filter (fun lease => within lease.key) =
      book.leases.filter fun lease => within lease.key := by
  rw [release, List.filter_filter]
  refine List.filter_congr fun lease known => ?_
  by_cases given : lease.ticket = step
  · subst given
    have owner := sound.owned lease known
    rw [admitted] at owner
    rw [← Option.some.inj owner, outside, Bool.false_and]
  · simp [given]

end AdmissionBook

end ChatGateway
