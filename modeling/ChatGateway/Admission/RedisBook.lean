import ChatGateway.Admission.RedisBackend
import ChatGateway.Redis.ReplayQuotas
import Mathlib.Algebra.BigOperators.Ring.Finset

set_option autoImplicit false

/-!
# The book that Redis keeps

Each sorted set of a downstream lists what the book has for it, and the scripts answer by the book
as long as no key and no lease expires.
-/

namespace ChatGateway

def UuidDraws.scored (draws : UuidDraws) (request : CountedRequest) : (_ : String) × Int :=
  ⟨draws.event request.ticket, 1000 * (request.createdAt : Int)⟩

def BookedCost.member (cost : BookedCost) : String :=
  "history:" ++ cost.id

def BookedCost.scored (cost : BookedCost) : (_ : String) × Int :=
  ⟨cost.member, 1000 * (cost.createdAt : Int)⟩

def scoredToday (now : Nat) (entry : (_ : String) × Int) : Bool :=
  1000 * (now : Int) - 24 * 60 * 60 * 1000 < entry.2

def RequestsKept (draws : UuidDraws) (requests : List CountedRequest) (key : ZSet) : Prop :=
  key.entries.entries.Perm (requests.map draws.scored)

def LeasesKept (draws : UuidDraws) (leases : List HeldLease) (key : ZSet) : Prop :=
  key.entries.keys.Perm (leases.map fun lease => draws.lease lease.ticket)

structure CostsKept (clock : Nat) (costs : List BookedCost) (tokens : ZSet)
    (tokenValues : Volatile String Int) : Prop where
  booked : ∀ entry ∈ tokens.entries.entries, ∃ cost ∈ costs, entry = cost.scored
  today : ∀ later, clock ≤ later → (tokens.entries.entries.filter (scoredToday later)).Perm
    ((costsSince (dayStart later) costs).map BookedCost.scored)
  values : ∀ cost ∈ costsSince (dayStart clock) costs,
    tokenValues.entries.lookup cost.member = some (cost.tokens : Int)

theorem ms_horizon {now created windowSeconds : Nat} (positive : 1 ≤ windowSeconds) :
    1000 * (now : Int) - windowSeconds * 1000 < 1000 * (created : Int) ↔
      windowStart now windowSeconds ≤ created := by
  rw [windowStart]
  omega

theorem ms_start {now created windowSeconds : Nat} (positive : 1 ≤ windowSeconds) :
    1000 * (now : Int) - windowSeconds * 1000 + 1 ≤ 1000 * (created : Int) ↔
      windowStart now windowSeconds ≤ created := by
  rw [windowStart]
  omega

theorem outside_closed (horizon score : Int) :
    (!ScoreBound.inRange .negInf (.closed horizon) score) = decide (horizon < score) := by
  rw [Bool.eq_iff_iff]
  simp [ScoreBound.inRange, ScoreBound.atLeast, ScoreBound.atMost]

theorem scoredToday_scored (now : Nat) (cost : BookedCost) :
    scoredToday now cost.scored = decide (dayStart now ≤ cost.createdAt) := by
  rw [scoredToday, dayStart, decide_eq_decide]
  exact @ms_horizon now cost.createdAt downstreamDailyTokenWindowSeconds (by decide)

section Requests

variable {draws : UuidDraws} {requests : List CountedRequest} {key : ZSet} {now : Nat}

theorem RequestsKept.zcount (kept : RequestsKept draws requests key) {windowSeconds : Nat}
    (positive : 1 ≤ windowSeconds) :
    key.zcount (.closed (1000 * (now : Int) - windowSeconds * 1000 + 1)) .posInf =
      ((requestsSince (windowStart now windowSeconds) requests).length : Int) := by
  have counted := (kept.filter fun entry => ScoreBound.inRange
    (.closed (1000 * (now : Int) - windowSeconds * 1000 + 1)) .posInf entry.2).length_eq
  rw [Volatile.zcount, counted, List.filter_map, List.length_map, requestsSince]
  congr 2
  refine List.filter_congr fun request _ => ?_
  simp only [Function.comp_apply, ScoreBound.inRange, ScoreBound.atLeast, ScoreBound.atMost,
    UuidDraws.scored, @ms_start now request.createdAt windowSeconds positive, Bool.and_true]

theorem RequestsKept.prune (kept : RequestsKept draws requests key) {windowSeconds : Nat}
    (positive : 1 ≤ windowSeconds) :
    RequestsKept draws (requestsSince (windowStart now windowSeconds) requests)
      (key.zremrangebyscore .negInf (.closed (1000 * (now : Int) - windowSeconds * 1000))) := by
  have left := Table.perm_retain kept fun _ score => !ScoreBound.inRange .negInf
    (.closed (1000 * (now : Int) - windowSeconds * 1000)) score
  rw [List.filter_map] at left
  refine left.trans (List.Perm.of_eq (congrArg _ (List.filter_congr fun request _ => ?_)))
  rw [Function.comp, outside_closed, decide_eq_decide]
  exact ms_horizon positive

theorem RequestsKept.add (kept : RequestsKept draws requests key) {ticket : Nat}
    (fresh : ∀ request ∈ requests, request.ticket ≠ ticket) (retention : Int)
    (positive : 0 < retention) :
    RequestsKept draws (requests ++ [⟨ticket, now⟩])
      ((key.zadd (1000 * (now : Int)) (draws.event ticket)).expire (1000 * (now : Int)) retention) := by
  have added := @Table.perm_insert _ _ _ _ _ kept (draws.event ticket) (by
    intro entry listed same
    obtain ⟨request, known, rfl⟩ := List.mem_map.1 listed
    exact fresh request known (draws.event_injective same)) (1000 * (now : Int))
  rw [RequestsKept, Volatile.expire, Volatile.pexpire_entries _ _ (by omega), List.map_append]
  exact added

theorem RequestsKept.remove (kept : RequestsKept draws requests key) (ticket : Nat) :
    RequestsKept draws (requests.filter fun request => request.ticket ≠ ticket)
      (key.zrem (draws.event ticket)) := by
  have left := Table.perm_erase kept (draws.event ticket)
  rw [List.filter_map] at left
  refine left.trans (List.Perm.of_eq (congrArg _ (List.filter_congr fun request _ => ?_)))
  simp [UuidDraws.scored, draws.event_injective.eq_iff]

theorem RequestsKept.unknown (kept : RequestsKept draws requests key) {ticket : Nat}
    (fresh : ∀ request ∈ requests, request.ticket ≠ ticket) :
    key.zscore (draws.event ticket) = none := by
  refine AList.lookup_eq_none.2 fun known => ?_
  obtain ⟨entry, stored, same⟩ := List.mem_map.1 (AList.mem_keys.1 known)
  obtain ⟨request, listed, rfl⟩ := List.mem_map.1 (kept.mem_iff.1 stored)
  exact fresh request listed (draws.event_injective same)

end Requests

section Leases

variable {draws : UuidDraws} {leases : List HeldLease} {key : ZSet} {now : Int}

theorem LeasesKept.zcard (kept : LeasesKept draws leases key) : key.zcard = (leases.length : Int) := by
  have counted := kept.length_eq
  rw [List.length_map] at counted
  rw [Volatile.zcard, ← counted, AList.keys, List.keys, List.length_map]

theorem prune_unlapsed (unlapsed : ∀ leaseId score, key.zscore leaseId = some score → now < score) :
    key.zremrangebyscore .negInf (.closed now) = key := by
  refine key.update_of_unchanged (AList.ext (List.filter_eq_self.2 fun entry stored => ?_))
  have later := unlapsed entry.1 entry.2 (AList.mem_lookup_iff.2 stored)
  simpa [ScoreBound.inRange, ScoreBound.atLeast, ScoreBound.atMost] using later

theorem LeasesKept.add (kept : LeasesKept draws leases key) {ticket : Nat} (bucket : DownstreamLeaseKey)
    (fresh : ∀ lease ∈ leases, lease.ticket ≠ ticket) (duration : Nat) :
    LeasesKept draws (leases ++ [⟨ticket, bucket⟩])
      (addLease now duration (draws.lease ticket) key) := by
  have added := Table.keys_perm_insert kept ⟨ticket, bucket⟩ (fun lease known same =>
    fresh lease known (draws.lease_injective same)) (now + duration)
  rw [LeasesKept, addLease, Volatile.pexpire_entries _ _ (by omega)]
  exact added

theorem LeasesKept.remove (kept : LeasesKept draws leases key) (ticket : Nat) :
    LeasesKept draws (leases.filter fun lease => lease.ticket ≠ ticket)
      (key.zrem (draws.lease ticket)) := by
  refine (Table.keys_perm_erase kept (draws.lease ticket)).trans
    (List.Perm.of_eq (congrArg _ (List.filter_congr fun lease _ => ?_)))
  simp [draws.lease_injective.eq_iff]

theorem LeasesKept.unknown (kept : LeasesKept draws leases key) {ticket : Nat}
    (fresh : ∀ lease ∈ leases, lease.ticket ≠ ticket) : key.zscore (draws.lease ticket) = none := by
  refine AList.lookup_eq_none.2 fun known => ?_
  obtain ⟨lease, listed, same⟩ := List.mem_map.1 (kept.mem_iff.1 (AList.mem_keys.1 known))
  exact fresh lease listed (draws.lease_injective same)

end Leases

section Costs

variable {costs : List BookedCost} {tokens : ZSet} {tokenValues : Volatile String Int}
  {clock now : Nat}

theorem CostsKept.later {late : Nat} (kept : CostsKept clock costs tokens tokenValues)
    (reached : clock ≤ late) : CostsKept late costs tokens tokenValues where
  booked := kept.booked
  today after ahead := kept.today after (reached.trans ahead)
  values cost known := by
    obtain ⟨listed, recent⟩ := List.mem_filter.1 known
    refine kept.values cost (List.mem_filter.2 ⟨listed, decide_eq_true ?_⟩)
    have bound : dayStart clock ≤ dayStart late := by
      rw [dayStart, dayStart, windowStart, windowStart]
      omega
    exact bound.trans (of_decide_eq_true recent)

theorem CostsKept.nothing (kept : CostsKept clock [] tokens tokenValues) :
    tokens.entries.entries = [] := by
  refine List.eq_nil_iff_forall_not_mem.2 fun entry stored => ?_
  obtain ⟨cost, known, -⟩ := kept.booked entry stored
  cases known

theorem CostsKept.prune (kept : CostsKept now costs tokens tokenValues) :
    CostsKept now costs
      (tokens.zremrangebyscore .negInf (.closed (1000 * (now : Int) - 24 * 60 * 60 * 1000)))
      (tokenValues.update fun values => values.retain fun id _ =>
        !((tokens.zrangebyscore .negInf
          (.closed (1000 * (now : Int) - 24 * 60 * 60 * 1000))).map Prod.fst).contains id) where
  booked entry stored := kept.booked entry (List.mem_of_mem_filter stored)
  today later reached := by
    refine List.Perm.trans (List.Perm.of_eq ?_) (kept.today later reached)
    rw [Volatile.zremrangebyscore, Volatile.update_entries, Table.retain, List.filter_filter]
    refine List.filter_congr fun entry _ => ?_
    rw [outside_closed, scoredToday, ← Bool.decide_and, decide_eq_decide]
    omega
  values cost known := by
    have recent : scoredToday now cost.scored = true := by
      rw [scoredToday_scored]
      exact (List.mem_filter.1 known).2
    have stored : tokens.zscore cost.member = some (1000 * (cost.createdAt : Int)) := by
      have listed := (kept.today now le_rfl).mem_iff.2 (List.mem_map_of_mem known)
      exact AList.mem_lookup_iff.2 (List.mem_of_mem_filter listed)
    rw [Volatile.update_entries, Table.lookup_retain, kept.values cost known, Option.filter_some,
      if_pos]
    -- the id has one score, and that is of the last day
    rw [Bool.not_eq_true', ← Bool.not_eq_true, List.contains_iff_mem]
    intro expired
    obtain ⟨entry, ranged, same⟩ := List.mem_map.1 expired
    obtain ⟨ordered, old⟩ := List.mem_filter.1 ranged
    obtain ⟨member, score⟩ := entry
    obtain rfl : member = cost.member := same
    have scored := Volatile.mem_zordered.1 ordered
    rw [stored] at scored
    obtain rfl := Option.some.inj scored
    simp only [ScoreBound.inRange, ScoreBound.atLeast, ScoreBound.atMost, Bool.true_and,
      decide_eq_true_eq] at old
    rw [scoredToday, decide_eq_true_eq, BookedCost.scored] at recent
    dsimp only at recent
    omega

theorem CostsKept.usage {requests : ZSet} (kept : CostsKept now costs tokens tokenValues) :
    QuotaKeys.tokenUsage ⟨requests, tokens, tokenValues⟩
        (1000 * (now : Int) - 24 * 60 * 60 * 1000 + 1) =
      (((costsSince (dayStart now) costs).map BookedCost.tokens).sum : Nat) := by
  set keys : QuotaKeys := ⟨requests, tokens, tokenValues⟩ with named
  have ranged : (tokens.zrangebyscore (.closed (1000 * (now : Int) - 24 * 60 * 60 * 1000 + 1))
      .posInf).Perm ((tokens.entries.entries.filter (scoredToday now)).map
        fun entry => (entry.1, entry.2)) := by
    rw [Volatile.zrangebyscore, Volatile.zordered]
    refine ((List.perm_insertionSort _ _).filter _).trans (List.Perm.of_eq ?_)
    rw [List.filter_map]
    refine congrArg _ (List.filter_congr fun entry _ => ?_)
    simp only [Function.comp, ScoreBound.inRange, ScoreBound.atLeast, ScoreBound.atMost,
      Bool.and_true, scoredToday, decide_eq_decide]
    omega
  have values : ((costsSince (dayStart now) costs).map fun cost => keys.tokensOf cost.member) =
      (costsSince (dayStart now) costs).map fun cost => (cost.tokens : Int) := by
    refine List.map_congr_left fun cost known => ?_
    rw [QuotaKeys.tokensOf, named, kept.values cost known, Option.getD_some]
  have listed := ((ranged.trans ((kept.today now le_rfl).map _)).map
    fun entry => keys.tokensOf entry.1).sum_eq
  rw [List.map_map, List.map_map] at listed
  rw [QuotaKeys.tokenUsage, listed]
  refine (congrArg List.sum values).trans ?_
  rw [Nat.cast_list_sum, List.map_map]
  rfl

theorem CostsKept.unknown (kept : CostsKept clock costs tokens tokenValues) {id : String}
    (fresh : ∀ cost ∈ costs, cost.id ≠ id) : tokens.zscore ("history:" ++ id) = none := by
  refine AList.lookup_eq_none.2 fun known => ?_
  obtain ⟨entry, stored, same⟩ := List.mem_map.1 (AList.mem_keys.1 known)
  obtain ⟨cost, listed, rfl⟩ := kept.booked entry stored
  refine fresh cost listed (String.toList_inj.1 ?_)
  simpa [BookedCost.scored, BookedCost.member] using congrArg String.toList same

theorem CostsKept.record (kept : CostsKept now costs tokens tokenValues) {id : String} (amount : Nat)
    (fresh : ∀ cost ∈ costs, cost.id ≠ id) (retention : Int)
    (liveTokens : tokens.live (1000 * (now : Int)) = tokens)
    (liveValues : tokenValues.live (1000 * (now : Int)) = tokenValues) :
    CostsKept now (costs ++ [⟨id, now, amount⟩])
      (downstreamRecordTokens (1000 * (now : Int)) ("history:" ++ id) amount retention tokens
        tokenValues).1
      (downstreamRecordTokens (1000 * (now : Int)) ("history:" ++ id) amount retention tokens
        tokenValues).2 := by
  have unknown := kept.unknown fresh
  have missing : "history:" ++ id ∉ tokens.entries.entries.keys := AList.lookup_eq_none.1 unknown
  have positive : 0 < (max 60 retention + 60) * 1000 := by omega
  rw [downstreamRecordTokens, liveTokens, liveValues, unknown]
  dsimp only [Option.isSome_none]
  rw [if_neg Bool.false_ne_true]
  have entries : (((tokens.zadd (1000 * (now : Int)) ("history:" ++ id)).expire (1000 * (now : Int))
      (max 60 retention + 60)).entries).entries =
        ⟨"history:" ++ id, 1000 * (now : Int)⟩ :: tokens.entries.entries := by
    rw [Volatile.expire, Volatile.pexpire_entries _ _ positive, Volatile.zadd,
      Volatile.update_entries, AList.entries_insert, List.kerase_of_notMem_keys missing]
  refine ⟨?_, ?_, ?_⟩
  · intro entry stored
    rw [entries] at stored
    rcases List.mem_cons.1 stored with rfl | known
    · exact ⟨⟨id, now, amount⟩, by simp, rfl⟩
    · obtain ⟨cost, listed, same⟩ := kept.booked entry known
      exact ⟨cost, List.mem_append_left _ listed, same⟩
  · intro later reached
    have before := kept.today later reached
    rw [entries, List.filter_cons, costsSince, List.filter_append, List.map_append]
    have recent := scoredToday_scored later ⟨id, now, amount⟩
    have head : scoredToday later ⟨"history:" ++ id, 1000 * (now : Int)⟩ =
        decide (dayStart later ≤ now) := recent
    by_cases inside : dayStart later ≤ now
    · rw [head, if_pos (decide_eq_true inside), List.filter_cons_of_pos (by simpa using inside)]
      exact (before.cons _).trans (List.perm_append_singleton _ _).symm
    · rw [head, if_neg (by simpa using inside), List.filter_cons_of_neg (by simpa using inside)]
      simpa [costsSince] using before
  · intro cost known
    dsimp only
    rw [Volatile.expire, Volatile.pexpire_entries _ _ positive, Volatile.update_entries,
      Table.lookup_insert_eq]
    rw [costsSince, List.filter_append] at known
    rcases List.mem_append.1 known with listed | added
    · have apart : cost.member ≠ "history:" ++ id := by
        intro same
        refine fresh cost (List.mem_of_mem_filter listed) (String.toList_inj.1 ?_)
        simpa [BookedCost.member] using congrArg String.toList same
      rw [if_neg apart]
      exact kept.values cost listed
    · obtain rfl := List.mem_singleton.1 (List.mem_of_mem_filter added)
      exact if_pos rfl

end Costs

theorem clampedTo32_cast {amount : Nat} (small : amount < 2 ^ 32) : clampedTo32 amount = amount := by
  rw [clampedTo32]
  omega

abbrev QuotaRefuses (groupName : String) :
    Option DownstreamReply → Option AdmissionVerdict → Prop :=
  Option.Rel fun reply verdict => (∀ keys, reply.verdict keys groupName = verdict) ∧
    verdict.Answers (parseDownstreamAdmission reply groupName)

section Quotas

variable {draws : UuidDraws} {book : AdmissionBook} {config : LedgerConfig}
  {downstream : DownstreamConfig} {scope : CostScope} {now : Nat} {keys : QuotaKeys}
  {eventId groupName : String}

theorem requestRetentionSeconds_eq :
    (downstreamQuotaArgs downstream scope eventId).requestRetentionSeconds =
      (requestRetentionSeconds downstream : Int) := by
  have args : (downstreamQuotaArgs downstream scope eventId).requestWindowSeconds =
      ((requestQuotaWindowSeconds downstream).getD 0 : Nat) := rfl
  rw [QuotaArgs.requestRetentionSeconds, args, requestRetentionSeconds]
  cases requestQuotaWindowSeconds downstream with
  | none => rfl
  | some windowSeconds =>
    rw [Option.getD_some, Option.getD_some]
    omega

theorem requestRetentionSeconds_positive : 1 ≤ requestRetentionSeconds downstream :=
  le_trans (by decide) (le_max_right _ _)

theorem usedWithin_le (windowSeconds : Nat) :
    book.usedWithin downstream now windowSeconds ≤ (book.requests downstream.id).length :=
  List.length_filter_le _ _

variable (requests : RequestsKept draws ((book.prune downstream now).requests downstream.id)
    keys.requests)
  (small : (book.requests downstream.id).length < 2 ^ 32)

include requests in
theorem zcount_used {windowSeconds : Nat} (positive : 1 ≤ windowSeconds)
    (inside : windowSeconds ≤ requestRetentionSeconds downstream) :
    keys.requests.zcount (.closed (1000 * (now : Int) - windowSeconds * 1000 + 1)) .posInf =
      (book.usedWithin downstream now windowSeconds : Int) := by
  rw [requests.zcount positive, AdmissionBook.requestsSince_prune inside, AdmissionBook.usedWithin]

include requests small in
theorem minute_quotaRefuses :
    QuotaRefuses groupName
      (keys.minuteRejection (1000 * (now : Int)) (downstreamQuotaArgs downstream scope eventId))
      (book.minuteVerdict downstream now) := by
  have used := @zcount_used draws book downstream now keys requests 60 (by decide) (le_max_right _ _)
  have few := @usedWithin_le book downstream now 60
  rw [Nat.cast_ofNat] at used
  simp only [QuotaKeys.minuteRejection, used, downstreamQuotaArgs, AdmissionBook.minuteVerdict]
  by_cases full : downstream.perMinuteLimit ≤ book.usedWithin downstream now 60
  · rw [if_pos full, if_pos (Int.ofNat_le.2 full)]
    refine .some ⟨fun _ => rfl, ?_⟩
    rw [parseDownstreamAdmission, clampedTo32_cast (by omega), clampedTo32_cast (by omega)]
    exact ⟨_, rfl⟩
  · rw [if_neg full, if_neg (by omega)]
    exact .none

include requests small in
theorem request_quotaRefuses (enabled : downstream.rateLimitEnabled)
    (quota : ∀ requests, downstream.requestQuotaRequests = some requests → 1 ≤ requests) :
    QuotaRefuses groupName
      (keys.requestRejection (1000 * (now : Int)) (downstreamQuotaArgs downstream scope eventId))
      (book.quotaVerdict downstream now) := by
  rw [QuotaKeys.requestRejection, AdmissionBook.quotaVerdict]
  cases billed : downstream.tokenBillingMode with
  | true =>
    rw [if_neg (by simp [downstreamQuotaArgs, billed])]
    exact .none
  | false =>
    cases window : requestQuotaWindowSeconds downstream with
    | none =>
      rw [if_neg (by simp [downstreamQuotaArgs, window])]
      exact .none
    | some windowSeconds =>
      have inside := AdmissionBook.window_inside window
      have positive := AdmissionBook.quota_positive window quota
      obtain ⟨hours, count, hoursSet, countSet, long⟩ := AdmissionBook.window_settings window
      have uses : downstream.usesRequestQuota := by
        simp [DownstreamConfig.usesRequestQuota, enabled, hoursSet, countSet]
      have few := @usedWithin_le book downstream now windowSeconds
      have args : (downstreamQuotaArgs downstream scope eventId).requestQuota =
          (downstream.requestQuotaRequests.getD 0 : Nat) := by
        simp [downstreamQuotaArgs, billed, uses]
      have windowArg : (downstreamQuotaArgs downstream scope eventId).requestWindowSeconds =
          (windowSeconds : Nat) := by
        simp [downstreamQuotaArgs, window]
      rw [args, windowArg, if_pos (by omega), if_neg Bool.false_ne_true]
      dsimp only
      rw [zcount_used requests long inside]
      by_cases full : downstream.requestQuotaRequests.getD 0 ≤
          book.usedWithin downstream now windowSeconds
      · rw [if_pos full, if_pos (Int.ofNat_le.2 full)]
        refine .some ⟨fun _ => rfl, ?_⟩
        rw [parseDownstreamAdmission, clampedTo32_cast (by omega), clampedTo32_cast (by omega)]
        have seconds : (max (windowSeconds : Int) 0).toNat = windowSeconds := by omega
        rw [seconds]
        exact ⟨_, rfl⟩
      · rw [if_neg full, if_neg (by omega)]
        exact .none

theorem daily_quotaRefuses {limit : Nat} (positive : 0 < limit) {scopeId : String}
    (costs : CostsKept now (book.costs scopeId) keys.tokens keys.tokenValues) :
    QuotaRefuses groupName
      (keys.tokenRejection (1000 * (now : Int)) (24 * 60 * 60) limit .daily)
      (if limit ≤ book.spentToday now scopeId then
        some (.dailyCost limit (book.spentToday now scopeId)) else none) := by
  have used : keys.tokenUsage (1000 * (now : Int) - 24 * 60 * 60 * 1000 + 1) =
      (book.spentToday now scopeId : Nat) := @CostsKept.usage _ _ _ _ keys.requests costs
  simp only [QuotaKeys.tokenRejection, used]
  rw [if_pos (by omega)]
  by_cases full : limit ≤ book.spentToday now scopeId
  · rw [if_pos full, if_pos (Int.ofNat_le.2 full)]
    refine .some ⟨fun _ => rfl, ?_⟩
    have limitNat : (max (limit : Int) 0).toNat = limit := by omega
    have usedNat : (max (book.spentToday now scopeId : Int) 0).toNat =
        book.spentToday now scopeId := by omega
    rw [parseDownstreamAdmission, limitNat, usedNat]
    exact ⟨_, rfl⟩
  · rw [if_neg full, if_neg (by omega)]
    exact .none

include requests small in
theorem script_quotaRefuses (enabled : downstream.rateLimitEnabled)
    (quota : ∀ requests, downstream.requestQuotaRequests = some requests → 1 ≤ requests)
    (costs : CostsKept now (book.costs (config.costScopeFor downstream.id).scopeId) keys.tokens
      keys.tokenValues) :
    QuotaRefuses groupName
      (keys.rejection (1000 * (now : Int))
        (downstreamQuotaArgs downstream (config.costScopeFor downstream.id) eventId))
      (book.requestRefusal config downstream now) := by
  rw [QuotaKeys.rejection, AdmissionBook.requestRefusal]
  refine rel_orElse (minute_quotaRefuses requests small)
    (rel_orElse (request_quotaRefuses requests small enabled quota) ?_)
  have monthly : keys.tokenRejection (1000 * (now : Int)) (30 * 24 * 60 * 60)
      (downstreamQuotaArgs downstream (config.costScopeFor downstream.id) eventId).monthlyLimit
        .monthly = none := rfl
  rw [monthly, AdmissionBook.costVerdict]
  cases limited : (config.costScopeFor downstream.id).dailyLimitCents with
  | none =>
    have args : (downstreamQuotaArgs downstream (config.costScopeFor downstream.id)
        eventId).dailyLimit = 0 := by
      simp [downstreamQuotaArgs, limited]
    rw [args]
    exact .none
  | some limit =>
    have args : (downstreamQuotaArgs downstream (config.costScopeFor downstream.id)
        eventId).dailyLimit = (limit : Nat) := by
      simp [downstreamQuotaArgs, limited]
    have positive := LedgerConfig.limit_positive limited
    rw [args]
    have daily := @daily_quotaRefuses book now keys groupName limit positive _ costs
    revert daily
    dsimp only
    generalize keys.tokenRejection (1000 * (now : Int)) (24 * 60 * 60) limit .daily = reply
    intro daily
    cases reply <;> exact daily

end Quotas

section Sweep

variable {draws : UuidDraws} {book : AdmissionBook} {config : LedgerConfig}
  {downstream : DownstreamConfig} {now : Nat} {keys : QuotaKeys} {eventId : String}

theorem prune_requestsKept {scope : CostScope}
    (requests : RequestsKept draws (book.requests downstream.id) keys.requests) :
    RequestsKept draws ((book.prune downstream now).requests downstream.id)
      (keys.prune (1000 * (now : Int)) (downstreamQuotaArgs downstream scope eventId)).requests := by
  rw [AdmissionBook.prune_requests, QuotaKeys.prune, requestRetentionSeconds_eq]
  exact requests.prune requestRetentionSeconds_positive

theorem CostsKept.of_nothing {tokens : ZSet} {tokenValues : Volatile String Int}
    (nothing : tokens.entries.entries = []) : CostsKept now [] tokens tokenValues where
  booked entry stored := by
    rw [nothing] at stored
    cases stored
  today later _ := by
    rw [nothing]
    exact List.Perm.nil
  values cost known := by cases known

-- On a scope with a limit the sweep reaches back a day; on any other nothing is booked.
theorem prune_costsKept (sound : book.Sound config now)
    (costs : CostsKept now (book.costs (config.costScopeFor downstream.id).scopeId) keys.tokens
      keys.tokenValues) :
    CostsKept now (book.costs (config.costScopeFor downstream.id).scopeId)
      (keys.prune (1000 * (now : Int))
        (downstreamQuotaArgs downstream (config.costScopeFor downstream.id) eventId)).tokens
      (keys.prune (1000 * (now : Int))
        (downstreamQuotaArgs downstream (config.costScopeFor downstream.id) eventId)).tokenValues := by
  cases limited : (config.costScopeFor downstream.id).dailyLimitCents with
  | none =>
    have empty := sound.limited (config.costScopeFor downstream.id).scopeId limited
    rw [empty] at costs ⊢
    refine .of_nothing ?_
    refine List.eq_nil_of_sublist_nil ?_
    rw [← costs.nothing]
    exact List.filter_sublist
  | some limit =>
    have positive := LedgerConfig.limit_positive limited
    have retention : (downstreamQuotaArgs downstream (config.costScopeFor downstream.id)
        eventId).tokenRetentionSeconds = 24 * 60 * 60 := by
      have daily : (downstreamQuotaArgs downstream (config.costScopeFor downstream.id)
          eventId).dailyLimit = (limit : Nat) := by
        simp [downstreamQuotaArgs, limited]
      have monthly : (downstreamQuotaArgs downstream (config.costScopeFor downstream.id)
          eventId).monthlyLimit = 0 := rfl
      rw [QuotaArgs.tokenRetentionSeconds, daily, monthly, if_neg (by decide), if_pos (by omega)]
    rw [QuotaKeys.prune, retention]
    exact costs.prune

end Sweep

namespace RedisBackend

structure KeysKeep (identity : StableIdentity) (draws : UuidDraws) (clock : Nat)
    (book : AdmissionBook) (state : RedisBackend) : Prop where
  requests : ∀ downstreamId, RequestsKept draws (book.requests downstreamId)
    (state.requests (identity.digest downstreamId))
  costs : ∀ scopeId, CostsKept clock (book.costs scopeId) (state.tokens (identity.digest scopeId))
    (state.tokenValues (identity.digest scopeId))
  leases : ∀ key, LeasesKept draws (book.leasesOf key) (state.leases (leaseKey identity key))
  leasesAll : ∀ downstreamId, LeasesKept draws (book.leasesUnder downstreamId)
    (state.leasesAll (identity.digest downstreamId))

structure Keeps (identity : StableIdentity) (draws : UuidDraws) (clock : Nat) (book : AdmissionBook)
    (state : RedisBackend) : Prop where
  issued : HandedOut draws book state.issued
  keys : state.KeysKeep identity draws clock book

/-- No key and no lease has expired by `now`, in milliseconds. -/
structure Unexpired (now : Int) (state : RedisBackend) : Prop where
  requests : ∀ identity, (state.requests identity).live now = state.requests identity
  tokens : ∀ identity, (state.tokens identity).live now = state.tokens identity
  tokenValues : ∀ identity, (state.tokenValues identity).live now = state.tokenValues identity
  leases : ∀ key, (state.leases key).live now = state.leases key
  leasesAll : ∀ identity, (state.leasesAll identity).live now = state.leasesAll identity
  groupLease : ∀ key leaseId score, (state.leases key).zscore leaseId = some score → now < score
  anyLease : ∀ identity leaseId score, (state.leasesAll identity).zscore leaseId = some score →
    now < score

theorem leaseKey_injective (identity : StableIdentity) : Function.Injective (leaseKey identity) := by
  intro left right same
  obtain ⟨owner, group⟩ := Prod.mk.inj same
  have ownerEq := identity.injective owner
  have groupEq := downstreamGroupSuffix_injective identity group
  cases left
  cases right
  simp_all

variable {identity : StableIdentity} {settings : AdmissionSettings} {draws : UuidDraws}
  {book other : AdmissionBook} {state : RedisBackend} {clock now : Nat} {downstream : DownstreamConfig}
  {group : Option ModelConcurrencyGroup}

theorem KeysKeep.store (keeps : state.KeysKeep identity draws clock book) {key : DownstreamLeaseKey}
    {scopeId : String} {keys : AdmissionKeys}
    (elsewhere : ∀ owner, owner ≠ key.downstreamId → other.requests owner = book.requests owner)
    (requests : RequestsKept draws (other.requests key.downstreamId) keys.quota.requests)
    (sameCosts : other.costs = book.costs)
    (costs : CostsKept clock (book.costs scopeId) keys.quota.tokens keys.quota.tokenValues)
    (otherBuckets : ∀ bucket, bucket ≠ key → other.leasesOf bucket = book.leasesOf bucket)
    (leases : LeasesKept draws (other.leasesOf key) keys.groupLeases)
    (otherOwners : ∀ owner, owner ≠ key.downstreamId → other.leasesUnder owner = book.leasesUnder owner)
    (leasesAll : LeasesKept draws (other.leasesUnder key.downstreamId) keys.aggregateLeases) :
    (state.store identity key scopeId keys).KeysKeep identity draws clock other where
  requests owner := by
    by_cases own : owner = key.downstreamId
    · subst own
      simpa [RedisBackend.store] using requests
    · simpa [RedisBackend.store, identity.injective.eq_iff, own, elsewhere owner own] using
        keeps.requests owner
  costs scope := by
    rw [sameCosts]
    by_cases own : scope = scopeId
    · subst own
      simpa [RedisBackend.store] using costs
    · simpa [RedisBackend.store, identity.injective.eq_iff, own] using keeps.costs scope
  leases bucket := by
    by_cases own : bucket = key
    · subst own
      simpa [RedisBackend.store] using leases
    · simpa [RedisBackend.store, (leaseKey_injective identity).eq_iff, own, otherBuckets bucket own]
        using keeps.leases bucket
  leasesAll owner := by
    by_cases own : owner = key.downstreamId
    · subst own
      simpa [RedisBackend.store] using leasesAll
    · simpa [RedisBackend.store, identity.injective.eq_iff, own, otherOwners owner own] using
        keeps.leasesAll owner

abbrev CapRefuses (keys : AdmissionKeys) (groupName : String) :
    Option DownstreamReply → Option AdmissionVerdict → Prop :=
  Option.Rel fun reply verdict => reply.verdict keys groupName = verdict ∧
    verdict.Answers (parseDownstreamAdmission reply groupName)

theorem truncated_cap {limit : Nat} (width : limit < 2 ^ 32) :
    (max ((max limit 1 : Nat) : Int) 0).toNat % 2 ^ 32 = max limit 1 := by
  omega

theorem global_refuses {keys : AdmissionKeys} (width : downstream.maxConcurrency < 2 ^ 32)
    (leasesAll : LeasesKept draws (book.leasesUnder downstream.id) keys.aggregateLeases) :
    CapRefuses keys (leaseGroupName group)
      (if keys.aggregateLeases.zcard ≥ (max downstream.maxConcurrency 1 : Nat) then
        some (.globalConcurrency (oldestLeaseRetry (1000 * (now : Int)) keys.aggregateLeases)
          (max downstream.maxConcurrency 1 : Nat)) else none)
      (book.globalVerdict downstream group) := by
  have counted := leasesAll.zcard
  rw [AdmissionBook.globalVerdict]
  by_cases full : max downstream.maxConcurrency 1 ≤ (book.leasesUnder downstream.id).length
  · rw [if_pos full, if_pos (by rw [counted]; exact Int.ofNat_le.2 full)]
    refine .some ⟨?_, ?_⟩
    · rw [DownstreamReply.verdict, counted, Int.toNat_natCast, Int.toNat_natCast]
    · rw [parseDownstreamAdmission, truncated_cap width]
      exact ⟨_, rfl⟩
  · rw [if_neg full, if_neg (by rw [counted]; omega)]
    exact .none

theorem lease_refuses {keys : AdmissionKeys} {leaseId : String}
    (width : downstream.maxConcurrency < 2 ^ 32)
    (groupWidth : ∀ matched, group = some matched → matched.maxConcurrency < 2 ^ 32)
    (leases : LeasesKept draws (book.leasesOf ⟨downstream.id, leaseGroupName group⟩) keys.groupLeases)
    (leasesAll : LeasesKept draws (book.leasesUnder downstream.id) keys.aggregateLeases) :
    CapRefuses keys (leaseGroupName group)
      (leaseRejection (1000 * (now : Int)) (downstreamLeaseArgs settings downstream group leaseId)
        keys.groupLeases keys.aggregateLeases)
      (book.leaseRefusal downstream group) := by
  have global := @global_refuses draws book now downstream group keys width leasesAll
  rw [AdmissionBook.leaseRefusal, leaseRejection]
  cases matchedGroup : group with
  | none =>
    subst matchedGroup
    rw [if_neg (by simp [downstreamLeaseArgs])]
    exact global
  | some matched =>
    subst matchedGroup
    have counted := leases.zcard
    have limit : (downstreamLeaseArgs settings downstream (some matched) leaseId).groupLimit =
        (max matched.maxConcurrency 1 : Nat) := rfl
    rw [limit, counted, AdmissionBook.groupVerdict]
    by_cases full : max matched.maxConcurrency 1 ≤
        (book.leasesOf ⟨downstream.id, leaseGroupName (some matched)⟩).length
    · rw [if_pos full, if_pos ⟨by omega, Int.ofNat_le.2 full⟩]
      refine .some ⟨?_, ?_⟩
      · rw [DownstreamReply.verdict, counted, Int.toNat_natCast, Int.toNat_natCast]
      · rw [parseDownstreamAdmission, truncated_cap (groupWidth matched rfl)]
        exact ⟨_, rfl⟩
    · rw [if_neg full, if_neg (by omega)]
      exact global

theorem downstreamAdmission_eq {now : Int} {quota : QuotaArgs} {lease : LeaseArgs}
    {keys : AdmissionKeys} {swept : QuotaKeys} (quotaLive : keys.quota.live now = keys.quota)
    (groupLive : keys.groupLeases.live now = keys.groupLeases)
    (allLive : keys.aggregateLeases.live now = keys.aggregateLeases)
    (sweeping : swept = keys.quota.prune now quota)
    (unknown : swept.requests.zscore quota.eventId = none)
    (groupSwept : keys.groupLeases.zremrangebyscore .negInf (.closed now) = keys.groupLeases)
    (allSwept : keys.aggregateLeases.zremrangebyscore .negInf (.closed now) = keys.aggregateLeases)
    (unleased : keys.groupLeases.zscore lease.leaseId = none) :
    downstreamAdmission now quota lease keys =
      match swept.rejection now quota with
      | some reply => (reply, ⟨swept, keys.groupLeases, keys.aggregateLeases⟩)
      | none =>
        match leaseRejection now lease keys.groupLeases keys.aggregateLeases with
        | some reply => (reply, ⟨swept, keys.groupLeases, keys.aggregateLeases⟩)
        | none => (.reserved, ⟨swept.recordRequest now quota,
            addLease now lease.leaseDurationMs lease.leaseId keys.groupLeases,
            addLease now lease.leaseDurationMs lease.leaseId keys.aggregateLeases⟩) := by
  rw [downstreamAdmission]
  dsimp only
  rw [quotaLive, groupLive, allLive, ← sweeping, unknown]
  dsimp only [Option.isSome_none]
  rw [if_neg Bool.false_ne_true]
  cases swept.rejection now quota with
  | some reply => rfl
  | none =>
    dsimp only
    rw [groupSwept, allSwept, unleased]
    rfl

inductive ScriptRun (settings : AdmissionSettings) (identity : StableIdentity) (draws : UuidDraws)
    (downstream : DownstreamConfig) (group : Option ModelConcurrencyGroup) (now : Nat)
    (book : AdmissionBook) (state : RedisBackend) : Prop where
  | refused (reply : DownstreamReply) (keys : AdmissionKeys) (rejected : reply ≠ .reserved)
    (outcome : state.runAdmission settings identity draws now downstream group = (reply, keys))
    (refusal : book.refusal settings.config downstream group now =
      some (reply.verdict keys (leaseGroupName group)))
    (answers : (reply.verdict keys (leaseGroupName group)).Answers
      (parseDownstreamAdmission reply (leaseGroupName group)))
    (kept : (state.store identity ⟨downstream.id, leaseGroupName group⟩
      (settings.config.costScopeFor downstream.id).scopeId keys).KeysKeep identity draws now
        (book.prune downstream now))
  | passed (keys : AdmissionKeys)
    (outcome : state.runAdmission settings identity draws now downstream group = (.reserved, keys))
    (refusal : book.refusal settings.config downstream group now = none)
    (kept : (state.store identity ⟨downstream.id, leaseGroupName group⟩
      (settings.config.costScopeFor downstream.id).scopeId keys).KeysKeep identity draws now
        ((book.prune downstream now).enter now ⟨downstream.id, leaseGroupName group⟩))

theorem scriptRun (keeps : state.Keeps identity draws now book)
    (sound : book.Sound settings.config now) (enabled : downstream.rateLimitEnabled)
    (quota : ∀ requests, downstream.requestQuotaRequests = some requests → 1 ≤ requests)
    (width : downstream.maxConcurrency < 2 ^ 32)
    (groupWidth : ∀ matched, group = some matched → matched.maxConcurrency < 2 ^ 32)
    (small : (book.requests downstream.id).length < 2 ^ 32)
    (live : state.Unexpired (1000 * (now : Int))) :
    ScriptRun settings identity draws downstream group now book state := by
  set scope := settings.config.costScopeFor downstream.id with scoped'
  set key : DownstreamLeaseKey := ⟨downstream.id, leaseGroupName group⟩ with keyed
  set found := state.admissionKeys identity key scope.scopeId with finding
  set quotaArgs := downstreamQuotaArgs downstream scope (draws.event state.issued.length) with asking
  set leaseArgs := downstreamLeaseArgs settings downstream group (draws.lease state.issued.length)
    with leasing
  set swept := found.quota.prune (1000 * (now : Int)) quotaArgs with sweeping
  have quotaLive : found.quota.live (1000 * (now : Int)) = found.quota := by
    rw [QuotaKeys.live, finding, admissionKeys]
    dsimp only
    rw [live.requests, live.tokens, live.tokenValues]
  have groupLive : found.groupLeases.live (1000 * (now : Int)) = found.groupLeases := live.leases _
  have allLive : found.aggregateLeases.live (1000 * (now : Int)) = found.aggregateLeases :=
    live.leasesAll _
  have requests : RequestsKept draws ((book.prune downstream now).requests downstream.id)
      swept.requests := prune_requestsKept (keeps.keys.requests downstream.id)
  have costs : CostsKept now (book.costs scope.scopeId) swept.tokens swept.tokenValues :=
    prune_costsKept sound (keeps.keys.costs scope.scopeId)
  have pruned := sound.prune downstream now
  have newTicket : ∀ request ∈ (book.prune downstream now).requests downstream.id,
      request.ticket ≠ state.issued.length := by
    intro request known
    rw [keeps.issued.steps]
    exact Nat.ne_of_lt (pruned.numbered downstream.id request known)
  have unknown : swept.requests.zscore quotaArgs.eventId = none := requests.unknown newTicket
  have newLease : ∀ lease ∈ book.leases, lease.ticket ≠ state.issued.length := by
    intro lease known
    rw [keeps.issued.steps]
    exact Nat.ne_of_lt (AdmissionBook.issued_of_bucketOf (sound.owned lease known))
  have leases : LeasesKept draws (book.leasesOf key) found.groupLeases := keeps.keys.leases key
  have leasesAll : LeasesKept draws (book.leasesUnder downstream.id) found.aggregateLeases :=
    keeps.keys.leasesAll downstream.id
  have unleased : found.groupLeases.zscore leaseArgs.leaseId = none :=
    leases.unknown fun lease known => newLease lease (List.mem_of_mem_filter known)
  have groupSwept := prune_unlapsed (live.groupLease (leaseKey identity key))
  have allSwept := prune_unlapsed (live.anyLease (identity.digest downstream.id))
  have checks := @script_quotaRefuses draws book settings.config downstream now swept
    (draws.event state.issued.length) (leaseGroupName group) requests small enabled quota costs
  have unfolded := downstreamAdmission_eq quotaLive groupLive allLive sweeping unknown groupSwept
    allSwept unleased
  rw [show downstreamAdmission (1000 * (now : Int)) quotaArgs leaseArgs found =
    state.runAdmission settings identity draws now downstream group from rfl] at unfolded
  cases refused : swept.rejection (1000 * (now : Int)) quotaArgs with
  | some reply =>
    rw [refused] at unfolded checks
    obtain ⟨verdict, refusal, kind, answers⟩ := rel_of_some checks
    refine .refused reply _ (QuotaKeys.rejection_ne_reserved refused) unfolded ?_ ?_ ?_
    · rw [AdmissionBook.refusal, refusal, kind]
      rfl
    · rw [kind]
      exact answers
    · exact keeps.keys.store (fun owner apart => AdmissionBook.prune_requests_of_ne _ _ _ apart)
        requests rfl costs (fun _ _ => rfl) leases (fun _ _ => rfl) leasesAll
  | none =>
    rw [refused] at unfolded checks
    have passed := (rel_none_iff checks).1 rfl
    have caps := @lease_refuses settings draws book now downstream group
      ⟨swept, found.groupLeases, found.aggregateLeases⟩ leaseArgs.leaseId width groupWidth leases
      leasesAll
    have sameArgs : downstreamLeaseArgs settings downstream group leaseArgs.leaseId = leaseArgs := rfl
    rw [sameArgs] at caps
    dsimp only at caps
    cases capped : leaseRejection (1000 * (now : Int)) leaseArgs found.groupLeases
        found.aggregateLeases with
    | some reply =>
      rw [capped] at unfolded caps
      obtain ⟨verdict, refusal, kind, answers⟩ := rel_of_some caps
      refine .refused reply _ (leaseRejection_ne_reserved capped) unfolded ?_ ?_ ?_
      · rw [AdmissionBook.refusal, passed, kind]
        exact refusal
      · rw [kind]
        exact answers
      · exact keeps.keys.store (fun owner apart => AdmissionBook.prune_requests_of_ne _ _ _ apart)
          requests rfl costs (fun _ _ => rfl) leases (fun _ _ => rfl) leasesAll
    | none =>
      rw [capped] at unfolded caps
      refine .passed _ unfolded ?_ ?_
      · rw [AdmissionBook.refusal, passed]
        exact (rel_none_iff caps).1 rfl
      · have number : (book.prune downstream now).issued.length = state.issued.length :=
          keeps.issued.steps.symm
        refine keeps.keys.store ?_ ?_ rfl costs ?_ ?_ ?_ ?_
        · intro owner apart
          rw [AdmissionBook.enter]
          exact (Function.update_of_ne apart ..).trans
            (AdmissionBook.prune_requests_of_ne _ _ _ apart)
        · have retention : 0 < quotaArgs.requestRetentionSeconds + 60 := by
            rw [asking, requestRetentionSeconds_eq]
            omega
          have added := @RequestsKept.add draws _ _ now requests _ newTicket
            (quotaArgs.requestRetentionSeconds + 60) retention
          rw [AdmissionBook.enter, number]
          dsimp only
          rw [Function.update_self]
          exact added
        · intro bucket apart
          rw [AdmissionBook.leasesOf_enter, if_neg (Ne.symm apart), List.append_nil]
          rfl
        · rw [AdmissionBook.leasesOf_enter, if_pos rfl, number]
          exact leases.add key (fun lease known => newLease lease (List.mem_of_mem_filter known)) _
        · intro owner apart
          rw [AdmissionBook.leasesUnder_enter, if_neg (Ne.symm apart), List.append_nil]
          rfl
        · rw [AdmissionBook.leasesUnder_enter, if_pos rfl, number]
          exact leasesAll.add key (fun lease known => newLease lease (List.mem_of_mem_filter known)) _

theorem KeysKeep.of_same (keeps : state.KeysKeep identity draws clock book)
    (requests : other.requests = book.requests) (costs : other.costs = book.costs)
    (leases : other.leases = book.leases) : state.KeysKeep identity draws clock other where
  requests owner := by rw [requests]; exact keeps.requests owner
  costs scopeId := by rw [costs]; exact keeps.costs scopeId
  leases key := by rw [AdmissionBook.leasesOf, leases]; exact keeps.leases key
  leasesAll owner := by rw [AdmissionBook.leasesUnder, leases]; exact keeps.leasesAll owner

theorem KeysKeep.issue (keeps : state.KeysKeep identity draws clock book)
    (handle : Option DownstreamAdmission) :
    (state.issue handle).KeysKeep identity draws clock book :=
  ⟨keeps.requests, keeps.costs, keeps.leases, keeps.leasesAll⟩

theorem Keeps.later {late : Nat} (keeps : state.Keeps identity draws clock book)
    (reached : clock ≤ late) : state.Keeps identity draws late book :=
  ⟨keeps.issued, keeps.keys.requests, fun scopeId => (keeps.keys.costs scopeId).later reached,
    keeps.keys.leases, keeps.keys.leasesAll⟩

theorem Keeps.empty : Keeps identity draws 0 {} {} where
  issued := HandedOut.empty
  keys :=
    { requests := fun _ => List.Perm.nil
      costs := fun _ => .of_nothing rfl
      leases := fun _ => List.Perm.nil
      leasesAll := fun _ => List.Perm.nil }

theorem Keeps.issueNone (keeps : state.Keeps identity draws clock book) :
    (state.issue none).Keeps identity draws clock (book.issue none) :=
  ⟨keeps.issued.issue (HandedOut.handle_none _), (keeps.keys.issue none).of_same rfl rfl rfl⟩

structure AdmitsBy (settings : AdmissionSettings) (identity : StableIdentity) (draws : UuidDraws)
    (book : AdmissionBook) (state : RedisBackend) (now : Nat) (downstream : DownstreamConfig)
    (model : Text) : Prop where
  verdict : state.verdict settings identity draws now downstream model =
    book.verdict settings.config downstream (settings.groupFor downstream model) now
  answer : (book.verdict settings.config downstream (settings.groupFor downstream model) now).Answers
    (rejectionOf (state.reserveAdmission settings identity draws now downstream model).1)
  after : ((state.reserveAdmission settings identity draws now downstream model).2.issue
    (state.reserveAdmission settings identity draws now downstream model).1.toOption).Keeps identity
      draws now (book.admitOne settings.config downstream (settings.groupFor downstream model) now)

theorem Keeps.admitsBy_unlimited {model : Text} (keeps : state.Keeps identity draws now book)
    (unlimited : downstream.rateLimitEnabled = false) :
    AdmitsBy settings identity draws book state now downstream model := by
  have outcome : state.reserveAdmission settings identity draws now downstream model =
      (.ok (unlimitedAdmission downstream state.issued.length), state) := by
    rw [reserveAdmission, unlimited]
    rfl
  have verdict : book.verdict settings.config downstream (settings.groupFor downstream model) now =
      .admitted := by
    rw [AdmissionBook.verdict, unlimited]
    rfl
  refine ⟨?_, ?_, ?_⟩
  · rw [verdict, RedisBackend.verdict, unlimited]
    rfl
  · rw [verdict, outcome]
    rfl
  · rw [outcome, AdmissionBook.admitOne, unlimited]
    refine ⟨keeps.issued.issue ?_, (keeps.keys.issue _).of_same rfl rfl rfl⟩
    rintro admission known
    obtain rfl := Option.some.inj known
    exact ⟨rfl, rfl⟩

theorem Keeps.admitsBy {model : Text} (keeps : state.Keeps identity draws now book)
    (sound : book.Sound settings.config now)
    (quota : ∀ requests, downstream.requestQuotaRequests = some requests → 1 ≤ requests)
    (width : downstream.maxConcurrency < 2 ^ 32)
    (groupWidth : ∀ matched ∈ downstream.modelConcurrencyGroups, matched.maxConcurrency < 2 ^ 32)
    (small : (book.requests downstream.id).length < 2 ^ 32)
    (live : state.Unexpired (1000 * (now : Int))) :
    AdmitsBy settings identity draws book state now downstream model := by
  cases enabled : downstream.rateLimitEnabled with
  | false => exact keeps.admitsBy_unlimited enabled
  | true =>
    have grouped : ∀ matched, settings.groupFor downstream model = some matched →
        matched.maxConcurrency < 2 ^ 32 := fun matched found =>
      groupWidth matched (DownstreamConfig.concurrencyGroupForModel_mem found)
    rcases @scriptRun identity settings draws book state now downstream
      (settings.groupFor downstream model) keeps sound enabled quota width grouped small live with
      ⟨reply, keys, rejected, outcome, refusal, answers, kept⟩ | ⟨keys, outcome, refusal, kept⟩
    · have verdict : book.verdict settings.config downstream (settings.groupFor downstream model) now =
          reply.verdict keys (leaseGroupName (settings.groupFor downstream model)) := by
        rw [AdmissionBook.verdict, enabled, refusal]
        rfl
      obtain ⟨rejection, parsed⟩ : ∃ rejection, parseDownstreamAdmission reply
          (leaseGroupName (settings.groupFor downstream model)) = some rejection := by
        cases reply with
        | reserved => exact absurd rfl rejected
        | _ => exact ⟨_, rfl⟩
      have answered : state.reserveAdmission settings identity draws now downstream model =
          (.error rejection, state.store identity
            ⟨downstream.id, leaseGroupName (settings.groupFor downstream model)⟩
            (settings.config.costScopeFor downstream.id).scopeId keys) := by
        simp only [reserveAdmission, enabled, outcome, parsed]
        rfl
      refine ⟨?_, ?_, ?_⟩
      · rw [verdict]
        simp only [RedisBackend.verdict, enabled, outcome]
        rfl
      · rw [verdict, answered, rejectionOf, ← parsed]
        exact answers
      · rw [answered, AdmissionBook.admitOne, enabled, refusal]
        exact ⟨(keeps.issued.issue (HandedOut.handle_none _)).of_issued rfl,
          (kept.issue none).of_same rfl rfl rfl⟩
    · have verdict : book.verdict settings.config downstream (settings.groupFor downstream model) now =
          .admitted := by
        rw [AdmissionBook.verdict, enabled, refusal]
        rfl
      have answered : state.reserveAdmission settings identity draws now downstream model =
          (.ok (draws.admission state.issued.length
            ⟨downstream.id, leaseGroupName (settings.groupFor downstream model)⟩),
            state.store identity
              ⟨downstream.id, leaseGroupName (settings.groupFor downstream model)⟩
              (settings.config.costScopeFor downstream.id).scopeId keys) := by
        simp only [reserveAdmission, enabled, outcome, parseDownstreamAdmission]
        rfl
      refine ⟨?_, ?_, ?_⟩
      · rw [verdict]
        simp only [RedisBackend.verdict, enabled, outcome]
        rfl
      · rw [verdict, answered]
        rfl
      · rw [answered, AdmissionBook.admitOne, enabled, refusal, keeps.issued.steps]
        have made : draws.Handle book.issued.length
            (some ⟨downstream.id, leaseGroupName (settings.groupFor downstream model)⟩)
            (some (draws.admission book.issued.length
              ⟨downstream.id, leaseGroupName (settings.groupFor downstream model)⟩)) := rfl
        exact ⟨(keeps.issued.issue made).of_issued rfl, (kept.issue _).of_same rfl rfl rfl⟩

theorem Keeps.rollback (keeps : state.Keeps identity draws clock book)
    (live : state.Unexpired (1000 * (now : Int))) (step : Nat) :
    ((state.rollback identity now step).issue none).Keeps identity draws clock
      (book.rollback step) := by
  have handle := keeps.issued.handles step
  rw [AdmissionBook.rollback]
  cases bucket : book.bucketOf step with
  | none =>
    rw [bucket] at handle
    have same : state.rollback identity now step = state := by
      rw [RedisBackend.rollback]
      cases found : handedOut state.issued step with
      | none => rfl
      | some admission =>
        dsimp only
        rw [(handle admission found).1]
    rw [same]
    exact keeps.issueNone
  | some key =>
    rw [bucket] at handle
    have found : handedOut state.issued step = some (draws.admission step key) := handle
    rw [RedisBackend.rollback, found]
    dsimp only [UuidDraws.admission]
    rw [live.requests]
    refine ⟨(keeps.issued.issue (HandedOut.handle_none _)).of_issued rfl, ?_, keeps.keys.costs,
      keeps.keys.leases, keeps.keys.leasesAll⟩
    intro owner
    by_cases own : owner = key.downstreamId
    · subst own
      simpa [issue, AdmissionBook.issue] using (keeps.keys.requests key.downstreamId).remove step
    · simpa [issue, AdmissionBook.issue, identity.injective.eq_iff, own] using
        keeps.keys.requests owner

theorem Keeps.release (keeps : state.Keeps identity draws clock book)
    (sound : book.Sound settings.config clock) (live : state.Unexpired (1000 * (now : Int)))
    (step : Nat) :
    ((state.release identity now step).issue none).Keeps identity draws clock
      (book.release step) := by
  have handle := keeps.issued.handles step
  cases bucket : book.bucketOf step with
  | none =>
    rw [bucket] at handle
    have same : state.release identity now step = state := by
      rw [RedisBackend.release]
      cases found : handedOut state.issued step with
      | none => rfl
      | some admission =>
        dsimp only
        rw [(handle admission found).2]
    rw [same]
    exact ⟨(keeps.issued.issue (HandedOut.handle_none _)).of_issued rfl,
      (keeps.keys.issue none).of_same rfl rfl (AdmissionBook.release_unknown sound bucket)⟩
  | some key =>
    rw [bucket] at handle
    have found : handedOut state.issued step = some (draws.admission step key) := handle
    rw [RedisBackend.release, found]
    dsimp only [UuidDraws.admission, leaseRelease]
    rw [live.leases, live.leasesAll]
    refine ⟨(keeps.issued.issue (HandedOut.handle_none _)).of_issued rfl, keeps.keys.requests,
      keeps.keys.costs, ?_, ?_⟩
    · intro other
      by_cases own : other = key
      · subst own
        rw [AdmissionBook.leasesOf_release]
        simpa [issue, DownstreamConcurrencyLease.key] using (keeps.keys.leases other).remove step
      · have kept : (book.release step).leasesOf other = book.leasesOf other :=
          AdmissionBook.filter_release sound bucket (fun bucket => bucket = other)
            (decide_eq_false (Ne.symm own))
        rw [kept]
        simpa [issue, DownstreamConcurrencyLease.key, (leaseKey_injective identity).eq_iff, own] using
          keeps.keys.leases other
    · intro owner
      by_cases own : owner = key.downstreamId
      · subst own
        have left := (keeps.keys.leasesAll key.downstreamId).remove step
        have under : (book.release step).leasesUnder key.downstreamId =
            (book.leasesUnder key.downstreamId).filter fun lease => lease.ticket ≠ step := by
          rw [AdmissionBook.leasesUnder, AdmissionBook.release, AdmissionBook.leasesUnder,
            List.filter_filter, List.filter_filter]
          exact List.filter_congr fun lease _ => Bool.and_comm _ _
        rw [under]
        simpa [issue] using left
      · have kept : (book.release step).leasesUnder owner = book.leasesUnder owner :=
          AdmissionBook.filter_release sound bucket (fun bucket => bucket.downstreamId = owner)
            (decide_eq_false (Ne.symm own))
        rw [kept]
        simpa [issue, identity.injective.eq_iff, own] using keeps.keys.leasesAll owner

def RecordsOnce (config : LedgerConfig) (book : AdmissionBook) (now : Nat) (log : UsageLog) : Prop :=
  ∀ scopeId cost, bookedCost config log = some (scopeId, cost) →
    cost.createdAt = now ∧ ∀ earlier ∈ book.costs scopeId, earlier.id ≠ cost.id

theorem Keeps.record (keeps : state.Keeps identity draws now book) {log : UsageLog}
    (live : state.Unexpired (1000 * (now : Int)))
    (once : RecordsOnce settings.config book now (log.stamped (draws.log book.issued.length) now)) :
    ((state.record settings identity draws now log).issue none).Keeps identity draws now
      (book.record (bookedCost settings.config
        (log.stamped (draws.log book.issued.length) now))) := by
  have stamped : state.issued.length = book.issued.length := keeps.issued.steps
  rw [RedisBackend.record, stamped]
  generalize log.stamped (draws.log book.issued.length) now = log at once ⊢
  cases event : usageEvent settings.config log with
  | none =>
    rw [bookedCost, event]
    exact keeps.issueNone
  | some entry =>
    obtain ⟨scopeId, spent⟩ := entry
    have booked : bookedCost settings.config log =
        some (scopeId, ⟨log.id, spent.createdAt, spent.tokens⟩) := by
      rw [bookedCost, event]
      rfl
    obtain ⟨now_eq, fresh⟩ := once scopeId _ booked
    obtain rfl : spent.createdAt = now := now_eq
    rw [booked]
    refine ⟨(keeps.issued.issue (HandedOut.handle_none _)).of_issued rfl, keeps.keys.requests, ?_,
      keeps.keys.leases, keeps.keys.leasesAll⟩
    intro other
    by_cases own : other = scopeId
    · subst own
      simpa [issue, AdmissionBook.record, AdmissionBook.issue] using
        (keeps.keys.costs other).record spent.tokens fresh
          (usageRetentionSeconds settings.config log) (live.tokens _) (live.tokenValues _)
    · simpa [issue, AdmissionBook.record, AdmissionBook.issue, identity.injective.eq_iff, own] using
        keeps.keys.costs other

end RedisBackend

end ChatGateway
