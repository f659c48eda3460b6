import ChatGateway.Local.CapsAndCounts
import ChatGateway.Local.UpstreamLeases
import ChatGateway.Shared.Visits

set_option autoImplicit false

/-!
# Lapsed leases at the local gates

Leases are swept lazily, and each gate sweeps at a point of its own. A rejection is backed when as
many leases of the bucket it names are still live as its limit says.
-/

namespace ChatGateway

structure LocalGates where
  downstream : LocalLeases := {}
  upstream : LocalUpstreams := {}

inductive LocalGateOp where
  | downstream (op : LocalLeaseOp)
  | upstreamRequest (leaseId : String) (upstream : UpstreamConfig) (account : AccountConcurrencyKey)
  | upstreamHedge (leaseId : String) (upstream : UpstreamConfig) (account : AccountConcurrencyKey)
  | renewUpstream (account : AccountConcurrencyKey) (leaseId : String)
  | releaseUpstream (account : AccountConcurrencyKey) (leaseId : String)

structure LocalGateStep where
  time : Instant
  op : LocalGateOp

namespace LocalGateStep

def unixMillis (step : LocalGateStep) : Nat :=
  Duration.asMillis step.time

def clock (step : LocalGateStep) : UpstreamClock :=
  ⟨step.time, step.time / 1_000_000_000⟩

end LocalGateStep

def LocalLeaseOp.ReadsClock (now : Nat) : LocalLeaseOp → Prop
  | reserve _ _ _ clock _ _ => clock = .at now
  | renew _ reading _ | markWaiting _ reading | allSnapshots reading _ => reading = now
  | snapshot clock _ => ∀ key, clock key = now
  | acquireRelease _ | removeLease _ | completeRelease _ | dropGuard _ | unmarkWaiting _ | clear _ =>
    True

namespace LocalGates

variable (configs : String → DownstreamConfig) (settings : LocalUpstreamSettings)

def apply (state : LocalGates) (step : LocalGateStep) : LocalGates :=
  match step.op with
  | .downstream op => { state with downstream := state.downstream.apply op }
  | .upstreamRequest leaseId upstream account =>
    { state with upstream := (state.upstream.tryReserveAccountRequest settings step.clock leaseId
        upstream account).2 }
  | .upstreamHedge leaseId upstream account =>
    { state with upstream := (state.upstream.tryReserveAccountHedge settings step.clock leaseId
        upstream account).2 }
  | .renewUpstream account leaseId =>
    { state with upstream := state.upstream.renewRequest settings step.time account leaseId }
  | .releaseUpstream account leaseId =>
    { state with upstream := state.upstream.releaseRequest step.time account leaseId }

abbrev visits : LocalGates → List LocalGateStep → List (LocalGates × LocalGateStep) :=
  Visits.visits (apply settings)

structure IsRun (steps : List LocalGateStep) : Prop where
  ordered : (steps.map LocalGateStep.time).Pairwise (· ≤ ·)
  enabled : ∀ visit ∈ visits settings {} steps, ∀ op, visit.2.op = .downstream op →
    visit.1.downstream.Enabled configs op ∧ op.ReadsClock visit.2.unixMillis

end LocalGates

inductive GateBucket where
  | group (key : DownstreamLeaseKey)
  | downstream (downstreamId : String)
  | account (account : AccountConcurrencyKey)
deriving DecidableEq

namespace LocalGates

variable (settings : LocalUpstreamSettings)

def liveLeases (state : LocalGates) (step : LocalGateStep) : GateBucket → Nat
  | .group key => ((state.downstream.runtime.bucket key).pruneExpired step.unixMillis).held
  | .downstream downstreamId =>
    downstreamTotalAdmitted (state.downstream.runtime.pruneAll step.unixMillis) downstreamId
  | .account account =>
    ((state.upstream.table.accountLeases account).retain fun _ record =>
      record.isLive step.time (Duration.fromMillis settings.upstreamLeaseStaleAfterMs)).entries.length

def prunedFor (state : LocalGates) (clock : ReserveClock) (key : DownstreamLeaseKey)
    (group : Option ModelConcurrencyGroup) : DownstreamRuntime :=
  state.downstream.runtime.pruneGroup clock.groupPrune key group

def rejectedBy (state : LocalGates) (step : LocalGateStep) : Option (GateBucket × Nat) :=
  match step.op with
  | .downstream (.reserve downstream model caseInsensitive clock ttlSeconds leaseId) =>
    let group := downstream.concurrencyGroupForModel model caseInsensitive
    let key : DownstreamLeaseKey := ⟨downstream.id, leaseGroupName group⟩
    match (state.downstream.reserve downstream model caseInsensitive clock ttlSeconds leaseId).1 with
    | .error (.concurrencyLimitExceeded _ limit _) =>
      if ((state.prunedFor clock key group).groupRejection key group).isSome then
        some (.group key, limit)
      else some (.downstream downstream.id, limit)
    | _ => none
  | .upstreamRequest leaseId upstream account =>
    match (state.upstream.tryReserveAccountRequest settings step.clock leaseId upstream account).1 with
    | some ⟨.localConcurrency, _, _⟩ => some (.account account, max upstream.maxConcurrency 1)
    | _ => none
  | .upstreamHedge leaseId upstream account =>
    match (state.upstream.tryReserveAccountHedge settings step.clock leaseId upstream account).1 with
    | some ⟨.localConcurrency, _, _⟩ => some (.account account, max upstream.maxConcurrency 1)
    | _ => none
  | _ => none

def Backed (state : LocalGates) (step : LocalGateStep) : Prop :=
  ∀ bucket limit, state.rejectedBy settings step = some (bucket, limit) →
    limit ≤ state.liveLeases settings step bucket

/-- Where the unswept leases that the step counts fill its limit, none of them has lapsed. A
reservation counts the leases of the downstream without a sweep, but for the bucket of the group,
and a hedge those of its account. -/
def FilledByLive (state : LocalGates) (step : LocalGateStep) : Prop :=
  match step.op with
  | .downstream (.reserve downstream model caseInsensitive clock _ _) =>
    let group := downstream.concurrencyGroupForModel model caseInsensitive
    let own : DownstreamLeaseKey := ⟨downstream.id, leaseGroupName group⟩
    max downstream.maxConcurrency 1 ≤
        downstreamTotalAdmitted (state.prunedFor clock own group) downstream.id →
      ∀ key : DownstreamLeaseKey, key.downstreamId = downstream.id → (group.isSome → key ≠ own) →
        ∀ leaseId expiresAt,
          (state.downstream.runtime.bucket key).admitted.lookup leaseId = some expiresAt →
            step.unixMillis < expiresAt
  | .upstreamHedge _ upstream account =>
    max upstream.maxConcurrency 1 ≤ state.upstream.table.accountLeaseCount account →
      ∀ leaseId record, (state.upstream.table.accountLeases account).lookup leaseId = some record →
        record.isLive step.time (Duration.fromMillis settings.upstreamLeaseStaleAfterMs)
  | _ => True

end LocalGates

theorem Table.retain_of_all {V : Type} (table : Table String V) {keep : String → V → Bool}
    (all : ∀ key value, table.lookup key = some value → keep key value = true) :
    (table.retain keep).entries = table.entries :=
  List.filter_eq_self.2 fun entry stored => all entry.1 entry.2 (AList.mem_lookup_iff.2 stored)

theorem DownstreamLeaseState.held_pruneExpired_of_live {state : DownstreamLeaseState} {now : Nat}
    (live : ∀ leaseId expiresAt, state.admitted.lookup leaseId = some expiresAt → now < expiresAt) :
    (state.pruneExpired now).held = state.held := by
  have kept : (state.admitted.retain fun _ expiresAt => now < expiresAt).entries =
      state.admitted.entries :=
    Table.retain_of_all _ fun leaseId expiresAt found =>
      decide_eq_true (live leaseId expiresAt found)
  exact congrArg List.length kept

namespace DownstreamRuntime

variable {runtime : DownstreamRuntime} {downstreamId : String} {now : Nat}

theorem heldFor_pruned_of_live
    {entry : (_ : DownstreamLeaseKey) × DownstreamLeaseState} (stored : entry ∈ runtime.entries)
    (live : entry.1.downstreamId = downstreamId → ∀ leaseId expiresAt,
      (runtime.bucket entry.1).admitted.lookup leaseId = some expiresAt → now < expiresAt) :
    heldFor downstreamId entry.1 (entry.2.pruneExpired now) = heldFor downstreamId entry.1 entry.2 := by
  rw [runtime.bucket_of_lookup entry.1 (AList.mem_lookup_iff.2 stored)] at live
  rw [heldFor, heldFor]
  split
  next own => exact DownstreamLeaseState.held_pruneExpired_of_live (live own)
  next => rfl

theorem total_pruneAll :
    downstreamTotalAdmitted (runtime.pruneAll now) downstreamId =
      runtime.total fun key state => heldFor downstreamId key (state.pruneExpired now) := by
  rw [downstreamTotalAdmitted_eq_total, pruneAll, Table.total_mapEntries]

-- The sweep of a group's bucket finds every lapsed lease when the other buckets have none.
theorem total_pruneGroup_of_live {key : DownstreamLeaseKey} {group : Option ModelConcurrencyGroup}
    (live : ∀ other : DownstreamLeaseKey, other.downstreamId = downstreamId →
      (group.isSome → other ≠ key) → ∀ leaseId expiresAt,
        (runtime.bucket other).admitted.lookup leaseId = some expiresAt → now < expiresAt) :
    downstreamTotalAdmitted (runtime.pruneGroup now key group) downstreamId =
      downstreamTotalAdmitted (runtime.pruneAll now) downstreamId := by
  rw [total_pruneAll, downstreamTotalAdmitted_eq_total, pruneGroup]
  cases group with
  | none =>
    refine (Table.total_congr runtime fun entry stored => ?_).symm
    exact heldFor_pruned_of_live stored fun own => live entry.1 own (by simp)
  | some group =>
    -- split both sums into the group's own bucket and the rest
    have grouped : (some group).isSome = true := rfl
    rw [if_pos grouped, Table.total_insert, ← Table.total_erase runtime key]
    congr 1
    · refine (Table.total_congr _ fun entry stored => ?_).symm
      have found : (runtime.erase key).lookup entry.1 = some entry.2 :=
        AList.mem_lookup_iff.2 stored
      rw [Table.lookup_erase_eq] at found
      split at found
      next => cases found
      next other =>
        exact heldFor_pruned_of_live (AList.mem_lookup_iff.1 found) fun own =>
          live entry.1 own fun _ => other
    · rw [bucket]
      cases runtime.lookup key with
      | none => simp [heldFor, DownstreamLeaseState.held, DownstreamLeaseState.pruneExpired, Table.retain]
      | some state => rfl

end DownstreamRuntime

theorem UpstreamLeaseTable.accountLeases_pruneExpired (table : UpstreamLeaseTable) (now : Instant)
    (staleAfter : Duration) (account : AccountConcurrencyKey) :
    (table.pruneExpired now staleAfter).accountLeases account =
      (table.accountLeases account).retain fun _ record => record.isLive now staleAfter := by
  simp only [accountLeases, pruneExpired, Table.lookup_retain, Table.lookup_mapEntries]
  cases table.leases.lookup account with
  | none => rfl
  | some leases =>
    by_cases empty : (leases.retain fun _ record => record.isLive now staleAfter).entries = []
    · simp only [Option.map_some, Option.filter, empty, Option.getD_some]
      exact AList.ext empty.symm
    · simp [Option.filter, empty]

theorem LocalUpstreamSettings.staleAfter_eq (settings : LocalUpstreamSettings) :
    settings.staleAfter = Duration.fromMillis settings.upstreamLeaseStaleAfterMs := by
  have valid := settings.staleAfterValid
  rw [staleAfter, Nat.max_eq_left (by omega)]

-- Which of the two caps a failed reservation met, and how many leases it counted there.
theorem DownstreamRuntime.tryReserve_rejected {runtime : DownstreamRuntime} {clock : ReserveClock}
    {ttlSeconds : Nat} {leaseId : String} {downstream : DownstreamConfig}
    {group : Option ModelConcurrencyGroup} {rejection : DownstreamAdmissionRejection}
    (rejected : (runtime.tryReserve clock ttlSeconds leaseId downstream group).1 = some rejection) :
    let key : DownstreamLeaseKey := ⟨downstream.id, leaseGroupName group⟩
    let pruned := runtime.pruneGroup clock.groupPrune key group
    (∃ limit, (pruned.groupRejection key group).isSome ∧ group.isSome ∧
      rejection = .concurrencyLimitExceeded 1 limit (some key.groupName) ∧
      limit ≤ (pruned.bucket key).held) ∨
    (∃ named, (pruned.groupRejection key group).isSome = false ∧
      rejection = .concurrencyLimitExceeded 1 (max downstream.maxConcurrency 1) named ∧
      max downstream.maxConcurrency 1 ≤ downstreamTotalAdmitted pruned downstream.id) := by
  intro key pruned
  rw [runtime.tryReserve_eq clock ttlSeconds leaseId downstream group (rfl : key = _)
    (rfl : pruned = _)] at rejected
  cases full : pruned.groupRejection key group with
  | some first =>
    rw [full] at rejected
    obtain rfl := Option.some.inj rejected
    cases group with
    | none => cases full
    | some matched =>
      rw [groupRejection] at full
      split at full
      next reached =>
        exact .inl ⟨_, rfl, rfl, (Option.some.inj full).symm, reached⟩
      next => cases full
  | none =>
    rw [full, globalRejection] at rejected
    split at rejected
    next second found =>
      split at found
      next reached =>
        obtain rfl := Option.some.inj rejected
        exact .inr ⟨_, rfl, (Option.some.inj found).symm, reached⟩
      next => cases found
    next => cases rejected

theorem LocalLeases.reserve_rejected {state : LocalLeases} {downstream : DownstreamConfig}
    {model : Text} {caseInsensitive : Bool} {clock : ReserveClock} {ttlSeconds : Nat}
    {leaseId : String} {rejection : DownstreamAdmissionRejection}
    (rejected : (state.reserve downstream model caseInsensitive clock ttlSeconds leaseId).1 =
      .error rejection) :
    (state.runtime.tryReserve clock ttlSeconds leaseId downstream
      (downstream.concurrencyGroupForModel model caseInsensitive)).1 = some rejection := by
  simp only [reserve, tryReserveDownstreamConcurrency] at rejected
  cases limited : downstream.rateLimitEnabled with
  | false =>
    rw [limited] at rejected
    cases rejected
  | true =>
    rw [limited] at rejected
    cases outcome : state.runtime.tryReserve clock ttlSeconds leaseId downstream
        (downstream.concurrencyGroupForModel model caseInsensitive) with
    | mk reply runtime =>
      rw [outcome] at rejected
      cases reply with
      | none => cases rejected
      | some first => exact congrArg some (Except.error.inj rejected)

namespace LocalGates

variable {settings : LocalUpstreamSettings} {state : LocalGates}

theorem backed_reserve {time : Instant} {downstream : DownstreamConfig} {model : Text}
    {caseInsensitive : Bool} {clock : ReserveClock} {ttlSeconds : Nat} {leaseId : String}
    (reading : clock = .at (Duration.asMillis time))
    (live : state.FilledByLive settings ⟨time, .downstream (.reserve downstream model
      caseInsensitive clock ttlSeconds leaseId)⟩) :
    state.Backed settings ⟨time, .downstream (.reserve downstream model caseInsensitive clock
      ttlSeconds leaseId)⟩ := by
  subst reading
  intro bucket limit rejected
  simp only [rejectedBy] at rejected
  split at rejected
  next retryAfter reached named failed =>
    rcases DownstreamRuntime.tryReserve_rejected (LocalLeases.reserve_rejected failed) with
      ⟨_, groupFull, grouped, same, counted⟩ | ⟨_, groupFree, same, counted⟩
    · obtain ⟨-, rfl, -⟩ := DownstreamAdmissionRejection.concurrencyLimitExceeded.inj same
      rw [prunedFor, if_pos groupFull] at rejected
      obtain ⟨rfl, rfl⟩ := Prod.mk.inj (Option.some.inj rejected)
      rw [DownstreamRuntime.bucket_pruneGroup, if_pos ⟨rfl, grouped⟩] at counted
      exact counted
    · obtain ⟨-, rfl, -⟩ := DownstreamAdmissionRejection.concurrencyLimitExceeded.inj same
      rw [prunedFor, if_neg (Bool.eq_false_iff.1 groupFree)] at rejected
      obtain ⟨rfl, rfl⟩ := Prod.mk.inj (Option.some.inj rejected)
      exact counted.trans (le_of_eq (DownstreamRuntime.total_pruneGroup_of_live (live counted)))
  next => cases rejected

theorem backed_gate {time : Instant} {message : String} {upstream : UpstreamConfig}
    {account : AccountConcurrencyKey} {table : UpstreamLeaseTable} {rejection : UpstreamAdmissionError}
    (rejected : LocalUpstreams.concurrencyRejection table settings time upstream account message =
      some rejection) :
    max upstream.maxConcurrency 1 ≤ (table.accountLeases account).entries.length := by
  rw [LocalUpstreams.concurrencyRejection] at rejected
  split at rejected
  next reached => exact reached
  next => cases rejected

theorem backed_request {time : Instant} {leaseId : String} {upstream : UpstreamConfig}
    {account : AccountConcurrencyKey} :
    state.Backed settings ⟨time, .upstreamRequest leaseId upstream account⟩ := by
  intro bucket limit rejected
  simp only [rejectedBy, LocalUpstreams.tryReserveAccountRequest] at rejected
  cases full : LocalUpstreams.concurrencyRejection
      (state.upstream.table.pruneExpired time settings.staleAfter) settings time upstream account
      "upstream request concurrency capacity is full" with
  | none => simp [LocalGateStep.clock, full] at rejected
  | some rejection =>
    have counted := backed_gate full
    rw [UpstreamLeaseTable.accountLeases_pruneExpired, settings.staleAfter_eq] at counted
    simp only [LocalGateStep.clock, full] at rejected
    split at rejected
    next =>
      obtain ⟨rfl, rfl⟩ := Prod.mk.inj (Option.some.inj rejected)
      exact counted
    next => cases rejected

theorem hedge_rejected {upstreams : LocalUpstreams} {clock : UpstreamClock} {leaseId : String}
    {upstream : UpstreamConfig} {account : AccountConcurrencyKey} {message : String}
    {retryAfter : Nat}
    (rejected : (upstreams.tryReserveAccountHedge settings clock leaseId upstream account).1 =
      some ⟨.localConcurrency, message, retryAfter⟩) :
    ∃ table, (table = upstreams.table ∨
        table = upstreams.table.pruneExpired clock.instant settings.staleAfter) ∧
      max upstream.maxConcurrency 1 ≤ (table.accountLeases account).entries.length := by
  simp only [LocalUpstreams.tryReserveAccountHedge] at rejected
  cases first : LocalUpstreams.concurrencyRejection upstreams.table settings clock.instant upstream
      account "upstream hedge concurrency capacity is full" with
  | some rejection => exact ⟨_, .inl rfl, backed_gate first⟩
  | none =>
    rw [first] at rejected
    cases quota : LocalUpstreams.hedgeQuotaRejection
        (upstreams.pruneQuotas upstream clock.unixSeconds) upstream with
    | some rejection =>
      rw [quota] at rejected
      obtain rfl := Option.some.inj rejected
      rw [LocalUpstreams.hedgeQuotaRejection] at quota
      split_ifs at quota <;> cases quota
    | none =>
      rw [quota] at rejected
      cases second : LocalUpstreams.concurrencyRejection
          (upstreams.table.pruneExpired clock.instant settings.staleAfter) settings clock.instant
          upstream account "upstream hedge concurrency capacity is full" with
      | some rejection => exact ⟨_, .inr rfl, backed_gate second⟩
      | none =>
        simp only [Option.orElse_none, Option.orElse_eq_orElse, second] at rejected
        cases rejected

theorem backed_hedge {time : Instant} {leaseId : String} {upstream : UpstreamConfig}
    {account : AccountConcurrencyKey}
    (live : state.FilledByLive settings ⟨time, .upstreamHedge leaseId upstream account⟩) :
    state.Backed settings ⟨time, .upstreamHedge leaseId upstream account⟩ := by
  intro bucket limit rejected
  simp only [rejectedBy] at rejected
  split at rejected
  next message retryAfter failed =>
    obtain ⟨rfl, rfl⟩ := Prod.mk.inj (Option.some.inj rejected)
    obtain ⟨table, rfl | rfl, counted⟩ := hedge_rejected failed
    · -- a sweep would leave the account's leases as the first gate counts them
      have swept : ((state.upstream.table.accountLeases account).retain fun _ record =>
          record.isLive time (Duration.fromMillis settings.upstreamLeaseStaleAfterMs)).entries =
            (state.upstream.table.accountLeases account).entries :=
        Table.retain_of_all _ (live counted)
      rwa [← swept] at counted
    · rw [UpstreamLeaseTable.accountLeases_pruneExpired, settings.staleAfter_eq] at counted
      exact counted
  next => cases rejected

theorem visit_backed {configs : String → DownstreamConfig} {steps : List LocalGateStep}
    (run : IsRun configs settings steps) {visit : LocalGates × LocalGateStep}
    (visited : visit ∈ visits settings {} steps)
    (live : visit.1.FilledByLive settings visit.2) : visit.1.Backed settings visit.2 := by
  obtain ⟨state, time, op⟩ := visit
  cases op with
  | downstream op =>
    have reading := (run.enabled _ visited op rfl).2
    cases op with
    | reserve downstream model caseInsensitive clock ttlSeconds leaseId =>
      exact backed_reserve reading live
    | _ =>
      intro bucket limit rejected
      cases rejected
  | upstreamRequest leaseId upstream account => exact backed_request
  | upstreamHedge leaseId upstream account => exact backed_hedge live
  | _ =>
    intro bucket limit rejected
    cases rejected

end LocalGates

/-- In a run whose reservations are never filled up by a lapsed lease that they count without a
sweep, every rejection for concurrency is backed by as many live leases as its limit. -/
theorem local_rejections_backed {configs : String → DownstreamConfig}
    {settings : LocalUpstreamSettings} {steps : List LocalGateStep}
    (run : LocalGates.IsRun configs settings steps)
    (live : ∀ visit ∈ LocalGates.visits settings {} steps,
      visit.1.FilledByLive settings visit.2) :
    ∀ visit ∈ LocalGates.visits settings {} steps, visit.1.Backed settings visit.2 :=
  fun visit visited => LocalGates.visit_backed run visited (live visit visited)

namespace LocalGates

def lapseSettings : LocalUpstreamSettings :=
  ⟨60, 1000, [], le_rfl⟩

def firstStep : LocalGateStep :=
  ⟨0, .downstream (.reserve (LocalLeases.onlyOne "key") [] false (.at 0) 60 "first")⟩

def secondStep (time : Instant) : LocalGateStep :=
  ⟨time, .downstream (.reserve (LocalLeases.onlyOne "key") [] false
    (.at (Duration.asMillis time)) 60 "second")⟩

def afterFirst : LocalGates :=
  LocalGates.apply lapseSettings {} firstStep

theorem visits_second (time : Instant) :
    visits lapseSettings {} [firstStep, secondStep time] =
      [({}, firstStep), (afterFirst, secondStep time)] :=
  rfl

theorem second_run (time : Instant) :
    IsRun LocalLeases.onlyOne lapseSettings [firstStep, secondStep time] where
  ordered := by simp [firstStep]
  enabled := by
    intro visit visited op taken
    rw [visits_second, List.mem_pair] at visited
    rcases visited with rfl | rfl
    · obtain rfl := LocalGateOp.downstream.inj taken
      refine ⟨⟨rfl, ?_⟩, rfl⟩
      intro lease known
      cases known
    · obtain rfl := LocalGateOp.downstream.inj taken
      have fresh : ∀ lease ∈ afterFirst.downstream.issued, lease.leaseId ≠ some "second" := by
        decide +kernel
      exact ⟨⟨rfl, fresh⟩, rfl⟩

theorem afterFirst_live {key : DownstreamLeaseKey} {leaseId : String} {expiresAt : Nat}
    (found : (afterFirst.downstream.runtime.bucket key).admitted.lookup leaseId = some expiresAt) :
    1 < expiresAt := by
  have stored : ∀ entry ∈ afterFirst.downstream.runtime.entries,
      ∀ lease ∈ entry.2.admitted.entries, 1 < lease.2 := by
    decide +kernel
  rw [DownstreamRuntime.bucket] at found
  cases present : afterFirst.downstream.runtime.lookup key with
  | none =>
    rw [present] at found
    cases found
  | some state =>
    rw [present] at found
    exact stored ⟨key, state⟩ (AList.mem_lookup_iff.1 present) ⟨leaseId, expiresAt⟩
      (AList.mem_lookup_iff.1 found)

end LocalGates

/-- While the first lease is live, the second request is rejected for it. -/
theorem local_rejections_backed_by_first :
    ({} : LocalGates).Backed LocalGates.lapseSettings LocalGates.firstStep ∧
      LocalGates.afterFirst.Backed LocalGates.lapseSettings (LocalGates.secondStep 1_000_000) := by
  have backed := local_rejections_backed (LocalGates.second_run 1_000_000) (by
    intro visit visited
    rw [LocalGates.visits_second, List.mem_pair] at visited
    rcases visited with rfl | rfl
    · intro counted
      exact absurd counted (by decide +kernel)
    · intro _ key _ _ leaseId expiresAt found
      exact LocalGates.afterFirst_live found)
  rw [LocalGates.visits_second] at backed
  exact ⟨backed _ List.mem_cons_self, backed _ (List.mem_cons_of_mem _ List.mem_cons_self)⟩

/-- The first lease lapses at the time of the second request, which is rejected for it all the
same. -/
theorem lapsed_lease_blocks :
    ¬∀ configs settings steps, LocalGates.IsRun configs settings steps →
      ∀ visit ∈ LocalGates.visits settings {} steps, visit.1.Backed settings visit.2 := by
  intro claimed
  have backed := claimed _ _ _ (LocalGates.second_run (Duration.fromMillis 60_000))
    (LocalGates.afterFirst, LocalGates.secondStep (Duration.fromMillis 60_000)) (by
      rw [LocalGates.visits_second]
      simp)
  have counted := backed (.downstream "key") 1 (by decide +kernel)
  revert counted
  decide +kernel

end ChatGateway
