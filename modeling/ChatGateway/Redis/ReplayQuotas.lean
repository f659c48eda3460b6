import ChatGateway.Shared.Replay
import ChatGateway.Redis.Upstream

set_option autoImplicit false

/-!
# Replaying quota reservations

The coordinator runs a script a second time when it loses the reply. A downstream script recognises
its event, the upstream script its event and both of its leases.
-/

namespace ChatGateway

def ScoreAfter (horizon : Int) (score : Option Int) : Prop :=
  ∃ recorded, score = some recorded ∧ horizon < recorded

theorem ScoreAfter.isSome {horizon : Int} {score : Option Int} (after : ScoreAfter horizon score) :
    score.isSome := by
  obtain ⟨recorded, rfl, -⟩ := after
  rfl

theorem ScoreAfter.pruned {horizon : Int} {set : ZSet} {member : String}
    (after : ScoreAfter horizon (set.zscore member)) :
    (set.zremrangebyscore .negInf (.closed horizon)).zscore member = set.zscore member := by
  obtain ⟨recorded, found, later⟩ := after
  have outside : ScoreBound.inRange .negInf (.closed horizon) recorded = false := by
    simp [ScoreBound.inRange, ScoreBound.atLeast, ScoreBound.atMost, later]
  rw [Volatile.zscore_zremrangebyscore, found, Option.filter_some, outside]
  rfl

theorem ScoreAfter.isSome_pruned {horizon : Int} {set : ZSet} {member : String}
    (after : ScoreAfter horizon (set.zscore member)) :
    ((set.zremrangebyscore .negInf (.closed horizon)).zscore member).isSome := by
  rw [after.pruned]
  exact after.isSome

theorem zscore_pruned_none {low high : ScoreBound} {set : ZSet} {member : String}
    (missing : set.zscore member = none) : (set.zremrangebyscore low high).zscore member = none := by
  rw [Volatile.zscore_zremrangebyscore, missing]
  rfl

section Downstream

theorem QuotaKeys.rejection_ne_reserved {keys : QuotaKeys} {now : Int} {args : QuotaArgs}
    {reply : DownstreamReply} (rejected : keys.rejection now args = some reply) :
    reply ≠ .reserved := by
  rintro rfl
  revert rejected
  unfold QuotaKeys.rejection QuotaKeys.minuteRejection QuotaKeys.requestRejection
    QuotaKeys.tokenRejection
  dsimp only
  repeat' split
  all_goals simp [HOrElse.hOrElse, OrElse.orElse, Option.orElse]

theorem QuotaArgs.requestRetentionSeconds_pos (args : QuotaArgs) :
    0 < args.requestRetentionSeconds := by
  unfold QuotaArgs.requestRetentionSeconds
  omega

theorem QuotaKeys.recordRequest_zscore (keys : QuotaKeys) (now : Int) (args : QuotaArgs) :
    (keys.recordRequest now args).requests.zscore args.eventId = some now := by
  have retained := args.requestRetentionSeconds_pos
  rw [QuotaKeys.recordRequest, Volatile.expire, Volatile.zscore_pexpire _ _ _ (by omega),
    Volatile.zscore_zadd, if_pos rfl]

/-- `downstream_reserve.lua` finds its event in the request window. -/
def downstreamReserveReplay (args : QuotaArgs) : ReplayScheme QuotaKeys DownstreamReply (Option Int)
    where
  run now := downstreamReserve now args
  committed reply := reply = .reserved
  found := QuotaKeys.live
  record keys := keys.requests.zscore args.eventId
  keeps := Eq
  current now := ScoreAfter (now - args.requestRetentionSeconds * 1000)
  tidy now := QuotaKeys.prune now args

theorem downstreamReserve_safe (args : QuotaArgs) :
    (downstreamReserveReplay args).Safe (fun _ keys => keys.requests.zscore args.eventId = none)
      (args.requestRetentionSeconds * 1000) := by
  refine ⟨ReplayScheme.harmless_of_reply .reserved (fun _ => id)
    (fun _ _ _ same current => same ▸ current) ?_, ?_⟩
  · intro now keys current
    exact if_pos (ScoreAfter.isSome_pruned current)
  · intro first second keys unused committed forward within
    have missing : (((keys.live first).prune first args).requests.zscore args.eventId) = none :=
      zscore_pruned_none unused
    simp only [downstreamReserveReplay, downstreamReserve, missing, Option.isSome_none,
      Bool.false_eq_true, if_false] at committed ⊢
    split at committed
    next reply rejected => exact absurd committed (QuotaKeys.rejection_ne_reserved rejected)
    next =>
      exact ⟨first, QuotaKeys.recordRequest_zscore _ _ _, by omega⟩

/-- `downstream_admission.lua` finds its event in the request window. -/
def downstreamAdmissionReplay (quota : QuotaArgs) (lease : LeaseArgs) :
    ReplayScheme AdmissionKeys DownstreamReply (Option Int) where
  run now := downstreamAdmission now quota lease
  committed reply := reply = .reserved
  found now keys :=
    { quota := keys.quota.live now
      groupLeases := keys.groupLeases.live now
      aggregateLeases := keys.aggregateLeases.live now }
  record keys := keys.quota.requests.zscore quota.eventId
  keeps := Eq
  current now := ScoreAfter (now - quota.requestRetentionSeconds * 1000)
  tidy now keys := { keys with quota := keys.quota.prune now quota }

theorem leaseRejection_ne_reserved {now : Int} {args : LeaseArgs} {group aggregate : ZSet}
    {reply : DownstreamReply} (rejected : leaseRejection now args group aggregate = some reply) :
    reply ≠ .reserved := by
  rintro rfl
  revert rejected
  unfold leaseRejection
  repeat' split
  all_goals simp

theorem downstreamAdmission_safe (quota : QuotaArgs) (lease : LeaseArgs) :
    (downstreamAdmissionReplay quota lease).Safe
      (fun _ keys => keys.quota.requests.zscore quota.eventId = none ∧
        keys.groupLeases.zscore lease.leaseId = none)
      (quota.requestRetentionSeconds * 1000) := by
  refine ⟨ReplayScheme.harmless_of_reply .reserved (fun _ => id)
    (fun _ _ _ same current => same ▸ current) ?_, ?_⟩
  · intro now keys current
    exact if_pos (ScoreAfter.isSome_pruned current)
  · intro first second keys unused committed forward within
    have missing : ((keys.quota.live first).prune first quota).requests.zscore quota.eventId = none :=
      zscore_pruned_none unused.1
    have unleased : ((keys.groupLeases.live first).zremrangebyscore .negInf (.closed first)).zscore
        lease.leaseId = none := zscore_pruned_none unused.2
    simp only [downstreamAdmissionReplay, downstreamAdmission, missing, unleased,
      Option.isSome_none, Bool.false_eq_true, if_false] at committed ⊢
    split at committed
    next reply rejected => exact absurd committed (QuotaKeys.rejection_ne_reserved rejected)
    next =>
      split at committed
      next reply rejected => exact absurd committed (leaseRejection_ne_reserved rejected)
      next =>
        exact ⟨first, QuotaKeys.recordRequest_zscore _ _ _, by omega⟩

/-- `downstream_record_tokens.lua` finds its event among the token events. -/
def downstreamRecordTokensReplay (eventId : String) (recorded retentionSeconds : Int) :
    ReplayScheme (ZSet × Volatile String Int) Unit (Option Int) where
  run now keys := ((), downstreamRecordTokens now eventId recorded retentionSeconds keys.1 keys.2)
  committed _ := True
  found now keys := (keys.1.live now, keys.2.live now)
  record keys := keys.1.zscore eventId
  keeps := Eq
  current _ score := score.isSome
  -- The retention of both keys starts over.
  tidy now keys :=
    (keys.1.expire now (max 60 retentionSeconds + 60),
      keys.2.expire now (max 60 retentionSeconds + 60))

theorem downstreamRecordTokens_safe (eventId : String) (recorded retentionSeconds lifetime : Int) :
    (downstreamRecordTokensReplay eventId recorded retentionSeconds).Safe (fun _ _ => True)
      lifetime := by
  refine ⟨ReplayScheme.harmless_of_reply () (fun _ _ => rfl)
    (fun _ _ _ same current => same ▸ current) ?_, ?_⟩
  · intro now keys current
    exact congrArg (Prod.mk ()) (if_pos current)
  · intro first second keys _ _ _ _
    have positive : 0 < (max 60 retentionSeconds + 60) * 1000 := by omega
    simp only [downstreamRecordTokensReplay, downstreamRecordTokens]
    split
    next present => rwa [Volatile.expire, Volatile.zscore_pexpire _ _ _ positive]
    next =>
      rw [Volatile.expire, Volatile.zscore_pexpire _ _ _ positive, Volatile.zscore_zadd, if_pos rfl]
      rfl

end Downstream

section Upstream

variable {C : Type}

def LeaseCurrent (now : Int) (args : UpstreamArgs C) (score : Option Int) : Prop :=
  ∃ expiry, score = some expiry ∧ now < expiry ∧
    (args.staleAfterMs < args.leaseDurationMs → args.staleCutoff now < expiry)

def ScoreRenewed (old new : Option Int) : Prop :=
  ∀ score, old = some score → ∃ renewed, new = some renewed ∧ score ≤ renewed

structure ExistingKept (old new : UpstreamKeys.Existing) : Prop where
  accountLease : ScoreRenewed old.accountLease new.accountLease
  aggregateLease : ScoreRenewed old.aggregateLease new.aggregateLease
  event : old.event = new.event
  cost : old.cost = new.cost

structure ExistingCurrent (args : UpstreamArgs C) (now : Int) (existing : UpstreamKeys.Existing) :
    Prop where
  accountLease : LeaseCurrent now args existing.accountLease
  aggregateLease : LeaseCurrent now args existing.aggregateLease
  event : ScoreAfter (now - args.retentionSeconds * 1000) existing.event
  cost : existing.cost = some args.requestCost

theorem LeaseCurrent.renewed {args : UpstreamArgs C} {now : Int} {old new : Option Int}
    (current : LeaseCurrent now args old) (renewed : ScoreRenewed old new) :
    LeaseCurrent now args new := by
  obtain ⟨expiry, found, later, unstale⟩ := current
  obtain ⟨extended, present, longer⟩ := renewed expiry found
  exact ⟨extended, present, by omega, fun enabled => lt_of_lt_of_le (unstale enabled) longer⟩

theorem ExistingCurrent.kept {args : UpstreamArgs C} {now : Int} {old new : UpstreamKeys.Existing}
    (current : ExistingCurrent args now old) (kept : ExistingKept old new) :
    ExistingCurrent args now new :=
  ⟨current.accountLease.renewed kept.accountLease, current.aggregateLease.renewed kept.aggregateLease,
    kept.event ▸ current.event, kept.cost ▸ current.cost⟩

namespace UpstreamKeys

variable {args : UpstreamArgs C} {now : Int} {keys : UpstreamKeys}

theorem reclaim_existing (low high : ScoreBound)
    (count : UpstreamCounters → Int → UpstreamCounters)
    (account : ∀ score, keys.accountLeases.zscore args.leaseId = some score →
      low.inRange high score = false)
    (aggregate : ∀ score, keys.aggregateLeases.zscore args.leaseId = some score →
      low.inRange high score = false) :
    (keys.reclaim now args low high count).existing args = keys.existing args := by
  have kept : ∀ set : ZSet, (∀ score, set.zscore args.leaseId = some score →
      low.inRange high score = false) →
      (set.zremrangebyscore low high).zscore args.leaseId = set.zscore args.leaseId := by
    intro set outside
    rw [Volatile.zscore_zremrangebyscore]
    cases found : set.zscore args.leaseId with
    | none => rfl
    | some score => simp [Option.filter_some, outside score found]
  unfold reclaim
  dsimp only
  split
  · rfl
  · simp only [existing, kept _ account, kept _ aggregate]

theorem sweepEvents_existing
    (event : ∀ score, keys.events.zscore args.eventId = some score →
      now - args.retentionSeconds * 1000 < score) :
    (keys.sweepEvents now args).existing args = keys.existing args := by
  have outside : ∀ score, keys.events.zscore args.eventId = some score →
      ScoreBound.inRange .negInf (.closed (now - args.retentionSeconds * 1000)) score = false := by
    intro score found
    simp [ScoreBound.inRange, ScoreBound.atLeast, ScoreBound.atMost, event score found]
  have scored : (keys.events.zremrangebyscore .negInf
      (.closed (now - args.retentionSeconds * 1000))).zscore args.eventId =
        keys.events.zscore args.eventId := by
    rw [Volatile.zscore_zremrangebyscore]
    cases found : keys.events.zscore args.eventId with
    | none => rfl
    | some score => simp [Option.filter_some, outside score found]
  have unexpired : args.eventId ∉ (keys.events.zrangebyscore .negInf
      (.closed (now - args.retentionSeconds * 1000))).map Prod.fst := by
    intro listed
    obtain ⟨⟨member, score⟩, ranged, rfl⟩ := List.mem_map.mp listed
    obtain ⟨ordered, expired⟩ := List.mem_filter.mp ranged
    rw [outside score (Volatile.mem_zordered.mp ordered)] at expired
    cases expired
  have costed : ((keys.eventCosts.update fun costs => costs.retain fun id _ =>
      !((keys.events.zrangebyscore .negInf (.closed (now - args.retentionSeconds * 1000))).map
        Prod.fst).contains id).entries.lookup args.eventId) =
          keys.eventCosts.entries.lookup args.eventId := by
    rw [Volatile.update_entries, Table.lookup_retain]
    cases keys.eventCosts.entries.lookup args.eventId with
    | none => rfl
    | some cost => simp [Option.filter_some, unexpired]
  simp only [sweepEvents, existing, scored, costed]

-- The sweeps keep what is recorded under the ids of the call, unless it has run out.
theorem sweep_existing
    (account : ∀ score, keys.accountLeases.zscore args.leaseId = some score →
      LeaseCurrent now args (some score))
    (aggregate : ∀ score, keys.aggregateLeases.zscore args.leaseId = some score →
      LeaseCurrent now args (some score))
    (event : ∀ score, keys.events.zscore args.eventId = some score →
      now - args.retentionSeconds * 1000 < score) :
    (keys.sweep now args).existing args = keys.existing args := by
  have unexpired : ∀ score, LeaseCurrent now args (some score) →
      ScoreBound.inRange .negInf (.closed now) score = false := by
    rintro _ ⟨score, ⟨⟩, later, -⟩
    simp [ScoreBound.inRange, ScoreBound.atLeast, ScoreBound.atMost, later]
  have renewed : ∀ score, LeaseCurrent now args (some score) →
      args.staleAfterMs < args.leaseDurationMs →
      ScoreBound.inRange (.opened now) (.closed (args.staleCutoff now)) score = false := by
    rintro _ ⟨score, ⟨⟩, -, later⟩ enabled
    simp [ScoreBound.inRange, ScoreBound.atMost, later enabled]
  have expiry : (keys.sweepExpired now args).existing args = keys.existing args :=
    reclaim_existing _ _ _ (fun score found => unexpired score (account score found))
      fun score found => unexpired score (aggregate score found)
  have stale : ((keys.sweepExpired now args).sweepStale now args).existing args =
      keys.existing args := by
    rw [sweepStale]
    split
    next enabled =>
      rw [reclaim_existing, expiry]
      · intro score found
        have same := congrArg Existing.accountLease expiry
        exact renewed score (account score (same.symm.trans found)) enabled
      · intro score found
        have same := congrArg Existing.aggregateLease expiry
        exact renewed score (aggregate score (same.symm.trans found)) enabled
    next => exact expiry
  rw [sweep, sweepEvents_existing, stale]
  intro score found
  exact event score ((congrArg Existing.event stale).symm.trans found)

theorem sweep_existing_of_current (current : ExistingCurrent args now (keys.existing args)) :
    (keys.sweep now args).existing args = keys.existing args := by
  obtain ⟨account, aggregate, ⟨eventScore, event, later⟩, -⟩ := current
  refine sweep_existing (fun score found => ?_) (fun score found => ?_) fun score found => ?_
  · rw [← found]
    exact account
  · rw [← found]
    exact aggregate
  · rw [existing, found] at event
    cases event
    exact later

theorem recordAdmission_existing (positive : 0 ≤ args.leaseDurationMs) :
    (keys.recordAdmission now args).existing args =
      ⟨some (now + args.leaseDurationMs), some (now + args.leaseDurationMs), some now,
        some args.requestCost⟩ := by
  have retained : 0 < (args.retentionSeconds + 60) * 1000 := by
    unfold UpstreamArgs.retentionSeconds
    omega
  have leased : ∀ set : ZSet, (addLease now args.leaseDurationMs args.leaseId set).zscore
      args.leaseId = some (now + args.leaseDurationMs) := by
    intro set
    rw [addLease, Volatile.zscore_pexpire _ _ _ (by omega), Volatile.zscore_zadd, if_pos rfl]
  simp only [existing, recordAdmission, leased, Volatile.expire, Volatile.zscore_pexpire _ _ _ retained,
    Volatile.pexpire_entries _ _ retained, Volatile.zscore_zadd, Volatile.update_entries,
    AList.lookup_insert, if_true]

end UpstreamKeys

variable [Zero C] [Add C] [LT C] [DecidableLT C] (tonumber : String → C)

/-- `upstream_reserve.lua` finds both leases, the event and its cost. -/
def upstreamReserveReplay (args : UpstreamArgs C) :
    ReplayScheme UpstreamKeys UpstreamReply UpstreamKeys.Existing where
  run := upstreamReserve tonumber args
  committed reply := reply = .reserved
  found := UpstreamKeys.live
  record := UpstreamKeys.existing args
  keeps := ExistingKept
  current := ExistingCurrent args
  tidy now := UpstreamKeys.sweep now args

def UpstreamArgs.unrenewedMs (args : UpstreamArgs C) : Int :=
  if args.staleAfterMs < args.leaseDurationMs then args.staleAfterMs else args.leaseDurationMs

theorem UpstreamKeys.costRejection_ne_reserved {args : UpstreamArgs C} {now : Int}
    {keys : UpstreamKeys} {reply : UpstreamReply}
    (rejected : keys.costRejection tonumber now args = some reply) : reply ≠ .reserved := by
  rintro rfl
  revert rejected
  unfold costRejection
  repeat' split
  all_goals simp

theorem upstreamReserve_safe (args : UpstreamArgs C) :
    (upstreamReserveReplay tonumber args).Safe
      (fun _ keys => keys.existing args = ⟨none, none, none, none⟩)
      (min (args.retentionSeconds * 1000) args.unrenewedMs) := by
  refine ⟨ReplayScheme.harmless_of_reply .reserved (fun _ => id)
    (fun _ _ _ kept current => current.kept kept) ?_, ?_⟩
  · intro now keys current
    have swept : ((keys.live now).sweep now args).existing args = (keys.live now).existing args :=
      UpstreamKeys.sweep_existing_of_current current
    obtain ⟨⟨_, account, -⟩, ⟨_, aggregate, -⟩, ⟨_, event, -⟩, cost⟩ := current
    simp only [upstreamReserveReplay] at account aggregate event cost
    simp [upstreamReserveReplay, upstreamReserve, swept, UpstreamKeys.Existing.all, account,
      aggregate, event, cost]
  · intro first second keys unused committed forward within
    replace unused : (keys.live first).existing args = ⟨none, none, none, none⟩ := unused
    have missing : ((keys.live first).sweep first args).existing args =
        ⟨none, none, none, none⟩ := by
      rw [UpstreamKeys.sweep_existing, unused]
      · intro score found
        exact absurd (found.symm.trans (congrArg UpstreamKeys.Existing.accountLease unused)) nofun
      · intro score found
        exact absurd (found.symm.trans (congrArg UpstreamKeys.Existing.aggregateLease unused)) nofun
      · intro score found
        exact absurd (found.symm.trans (congrArg UpstreamKeys.Existing.event unused)) nofun
    simp only [upstreamReserveReplay, upstreamReserve, missing, UpstreamKeys.Existing.all,
      UpstreamKeys.Existing.any, Option.isSome_none, Bool.and_self, Bool.or_self,
      Bool.false_eq_true, if_false] at committed ⊢
    split at committed
    next => cases committed
    next free =>
      rw [if_neg free]
      split at committed
      next reply rejected =>
        exact absurd committed (UpstreamKeys.costRejection_ne_reserved tonumber rejected)
      next =>
        have terms : 0 ≤ args.leaseDurationMs ∧ second < first + args.leaseDurationMs ∧
            (args.staleAfterMs < args.leaseDurationMs → second < first + args.staleAfterMs) := by
          unfold UpstreamArgs.unrenewedMs at within
          split at within <;> omega
        rw [UpstreamKeys.recordAdmission_existing terms.1]
        have lease : LeaseCurrent second args (some (first + args.leaseDurationMs)) := by
          refine ⟨_, rfl, terms.2.1, fun enabled => ?_⟩
          have renewed := terms.2.2 enabled
          unfold UpstreamArgs.staleCutoff
          omega
        exact ⟨lease, lease, ⟨first, rfl, by omega⟩, rfl⟩

end Upstream

end ChatGateway
