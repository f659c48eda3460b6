import ChatGateway.Redis.LeaseSets
import ChatGateway.Redis.UpstreamLeases
import ChatGateway.Shared.Transition

set_option autoImplicit false

/-!
# Leases with a fresh heartbeat

Runs of the reserve, renew, release and snapshot scripts over the accounts of one upstream. The
scripts keep no heartbeat: they read it off the expiry of a lease, with the lease duration of the
call that looks at it.
-/

namespace ChatGateway

structure UpstreamLimits where
  maxConcurrency : Nat
  accountOf : String → String

structure Heartbeat where
  writtenAt : Int
  durationMs : Int
  deriving DecidableEq, Repr

def Heartbeat.expiry (heartbeat : Heartbeat) : Int :=
  heartbeat.writtenAt + heartbeat.durationMs

/-- The keys of one upstream. The heartbeats are not stored: they record the last write of each
lease that has since been neither released nor found as old as the stale window by a sweep. -/
structure UpstreamSystem where
  clock : Int
  accountLeases : String → ZSet
  reservedAt : String → ZSet
  holdSamples : String → ZSet
  shared : SnapshotKeys
  heartbeats : String → Option Heartbeat

inductive UpstreamCall (C : Type) where
  | reserve (args : UpstreamArgs C)
  | renew (leaseId : String) (leaseDurationMs : Int)
  | release (args : ReleaseArgs)
  | snapshot (args : SnapshotArgs)
  | elapse (cooldown : Option (Expiring UpstreamCooldown)) (streamCounters : StreamCounters)

def UpstreamCall.Valid {C : Type} (limits : UpstreamLimits) : UpstreamCall C → Prop
  | .reserve args => 0 < args.leaseDurationMs ∧ args.maxConcurrency = limits.maxConcurrency
  | .renew _ leaseDurationMs => 0 < leaseDurationMs
  | .release _ | .snapshot _ | .elapse .. => True

namespace UpstreamSystem

def start (clock : Int) (reservedAt holdSamples : String → ZSet) (shared : SnapshotKeys) :
    UpstreamSystem where
  clock := clock
  accountLeases _ := .absent
  reservedAt := reservedAt
  holdSamples := holdSamples
  shared := { shared with leases := .absent }
  heartbeats _ := none

def reserveKeys (system : UpstreamSystem) (account : String) : UpstreamKeys where
  accountLeases := system.accountLeases account
  aggregateLeases := system.shared.leases
  events := system.shared.events
  eventCosts := system.shared.eventCosts
  counters := system.shared.counters
  reclaimMarkers := system.shared.reclaimMarkers
  reservedAt := system.reservedAt account

def unlapsed (system : UpstreamSystem) (now staleAfterMs : Int) (leaseId : String) :
    Option Heartbeat :=
  (system.heartbeats leaseId).filter fun heartbeat => now - heartbeat.writtenAt < staleAfterMs

end UpstreamSystem

section Calls

variable {C : Type} [Zero C] [Add C] [LT C] [DecidableLT C] (tonumber : String → C)

/-- The script writes the lease: its ids are unused, and neither the concurrency nor a cost limit
is reached. -/
def UpstreamKeys.admits (args : UpstreamArgs C) (now : Int) (keys : UpstreamKeys) : Bool :=
  let swept := (keys.live now).sweep now args
  !(swept.existing args).any && decide (swept.accountLeases.zcard < args.maxConcurrency) &&
    (swept.costRejection tonumber now args).isNone

namespace UpstreamSystem

def perform (limits : UpstreamLimits) (system : UpstreamSystem) (now : Int) :
    UpstreamCall C → UpstreamSystem
  | .reserve args =>
    let account := limits.accountOf args.leaseId
    let keys := system.reserveKeys account
    let after := (upstreamReserve tonumber args now keys).2
    let unlapsed := system.unlapsed now args.staleAfterMs
    { system with
      clock := now
      accountLeases := Function.update system.accountLeases account after.accountLeases
      reservedAt := Function.update system.reservedAt account after.reservedAt
      shared :=
        { system.shared with
          leases := after.aggregateLeases
          events := after.events
          eventCosts := after.eventCosts
          counters := after.counters
          reclaimMarkers := after.reclaimMarkers }
      heartbeats :=
        -- A reservation that is repeated within its life replies the same and writes nothing.
        if keys.admits tonumber args now then
          Function.update unlapsed args.leaseId (some ⟨now, args.leaseDurationMs⟩)
        else unlapsed }
  | .renew leaseId leaseDurationMs =>
    let account := limits.accountOf leaseId
    let (renewed, primary, companion) :=
      leaseRenew now leaseDurationMs leaseId (system.accountLeases account) system.shared.leases
    { system with
      clock := now
      accountLeases := Function.update system.accountLeases account primary
      shared := { system.shared with leases := companion }
      heartbeats :=
        if renewed then
          Function.update system.heartbeats leaseId (some ⟨now, leaseDurationMs⟩)
        else system.heartbeats }
  | .release args =>
    let account := limits.accountOf args.leaseId
    let after := (upstreamLeaseRelease now args
      { accountLeases := system.accountLeases account
        aggregateLeases := system.shared.leases
        reservedAt := system.reservedAt account
        holdSamples := system.holdSamples account }).2
    { system with
      clock := now
      accountLeases := Function.update system.accountLeases account after.accountLeases
      reservedAt := Function.update system.reservedAt account after.reservedAt
      holdSamples := Function.update system.holdSamples account after.holdSamples
      shared := { system.shared with leases := after.aggregateLeases }
      heartbeats := Function.update system.heartbeats args.leaseId none }
  | .snapshot args =>
    { system with
      clock := now
      shared := (upstreamSnapshot tonumber args now system.shared).2
      heartbeats := system.unlapsed now args.staleAfterMs }
  | .elapse cooldown streamCounters =>
    { system with
      clock := now
      shared := { system.shared with cooldown := cooldown, streamCounters := streamCounters } }

end UpstreamSystem

def UpstreamStep (limits : UpstreamLimits) (before : UpstreamSystem) (label : Int × UpstreamCall C)
    (after : UpstreamSystem) : Prop :=
  before.clock ≤ label.1 ∧ label.2.Valid limits ∧
    after = before.perform tonumber limits label.1 label.2

end Calls

namespace UpstreamSystem

/-- Fresh leases are in their account index and in the aggregate, and no account has more leases
than its limit. -/
structure FreshHeld (limits : UpstreamLimits) (system : UpstreamSystem) : Prop where
  account : ∀ leaseId heartbeat, system.heartbeats leaseId = some heartbeat →
    system.clock - heartbeat.writtenAt < heartbeat.durationMs →
      (((system.accountLeases (limits.accountOf leaseId)).live system.clock).zscore leaseId).isSome
  aggregate : ∀ leaseId heartbeat, system.heartbeats leaseId = some heartbeat →
    system.clock - heartbeat.writtenAt < heartbeat.durationMs →
      ((system.shared.leases.live system.clock).zscore leaseId).isSome
  capped : ∀ account,
    ((system.accountLeases account).live system.clock).zcard ≤ limits.maxConcurrency

end UpstreamSystem

/-- The index has an unexpired lease up to the stale cutoff, so that the sweep of its stale leases
runs. -/
def StaleSweepRuns (index : ZSet) (now leaseDurationMs staleAfterMs : Int) : Prop :=
  staleAfterMs < leaseDurationMs ∧ ∃ leaseId score, (index.live now).zscore leaseId = some score ∧
    now < score ∧ score ≤ now + leaseDurationMs - staleAfterMs

namespace UpstreamSystem

def CutoffSparesFresh (system : UpstreamSystem) (now leaseDurationMs staleAfterMs : Int) : Prop :=
  ∀ leaseId heartbeat, system.unlapsed now staleAfterMs leaseId = some heartbeat →
    now < heartbeat.expiry → now + leaseDurationMs - staleAfterMs < heartbeat.expiry

end UpstreamSystem

def DeadlineCovers (heartbeats : String → Option Heartbeat) (now leaseDurationMs : Int)
    (written : String) : Prop :=
  ∀ leaseId heartbeat, leaseId ≠ written → heartbeats leaseId = some heartbeat →
    heartbeat.expiry ≤ now + (leaseDurationMs + 60000)

section Respects

variable {C : Type} [Zero C] [Add C] [LT C] [DecidableLT C] (tonumber : String → C)

def RespectsFresh (limits : UpstreamLimits) (system : UpstreamSystem) : Int × UpstreamCall C → Prop
  | (now, .reserve args) =>
    let account := limits.accountOf args.leaseId
    (StaleSweepRuns (system.accountLeases account) now args.leaseDurationMs args.staleAfterMs →
        system.CutoffSparesFresh now args.leaseDurationMs args.staleAfterMs) ∧
      ((system.reserveKeys account).admits tonumber args now →
        DeadlineCovers (system.unlapsed now args.staleAfterMs) now args.leaseDurationMs args.leaseId)
  | (now, .renew leaseId leaseDurationMs) =>
    ((((system.accountLeases (limits.accountOf leaseId)).live now).zscore leaseId).isSome →
        ((system.shared.leases.live now).zscore leaseId).isSome) ∧
      (((system.shared.leases.live now).zscore leaseId).isSome →
        DeadlineCovers system.heartbeats now leaseDurationMs leaseId)
  | (now, .snapshot args) =>
    StaleSweepRuns system.shared.leases now args.leaseDurationMs args.staleAfterMs →
      system.CutoffSparesFresh now args.leaseDurationMs args.staleAfterMs
  | (_, .release _) => True
  | (_, .elapse ..) => True

end Respects

structure Holds (index : ZSet) (leaseId : String) (expiry : Int) : Prop where
  score : index.zscore leaseId = some expiry
  deadline : ∀ deadline, index.expiresAt = some deadline → expiry ≤ deadline

namespace Holds

variable {index : ZSet} {leaseId written : String} {now expiry : Int}

theorem live (holds : Holds index leaseId expiry) (fresh : now < expiry) :
    Holds (index.live now) leaseId expiry := by
  rcases index.live_cases now with same | ⟨-, deadline, carried, passed⟩
  · rwa [same]
  · have later := holds.deadline deadline carried
    omega

theorem update (holds : Holds index leaseId expiry) (change : Table String Int → Table String Int)
    (kept : (index.update change).zscore leaseId = some expiry) :
    Holds (index.update change) leaseId expiry where
  score := kept
  deadline deadline carried := by
    refine holds.deadline deadline ?_
    simp only [Volatile.update] at carried
    split at carried
    · cases carried
    · exact carried

theorem zremrangebyscore (holds : Holds index leaseId expiry) {low high : ScoreBound}
    (outside : low.inRange high expiry = false) :
    Holds (index.zremrangebyscore low high) leaseId expiry := by
  refine holds.update _ ?_
  have scored := index.zscore_zremrangebyscore low high leaseId
  rw [holds.score, Option.filter_some, outside] at scored
  exact scored

theorem zrem (holds : Holds index leaseId expiry) (other : leaseId ≠ written) :
    Holds (index.zrem written) leaseId expiry := by
  refine holds.update _ ?_
  have scored := index.zscore_zrem written leaseId
  rw [if_neg other, holds.score] at scored
  exact scored

section Written

variable {duration : Nat}

theorem addLease_self (index : ZSet) (now : Int) (leaseId : String) (duration : Nat) :
    Holds (addLease now duration leaseId index) leaseId (now + duration) where
  score := by rw [zscore_addLease, if_pos rfl]
  deadline deadline carried := by
    rw [addLease_expiresAt] at carried
    cases carried
    omega

theorem addLease (holds : Holds index leaseId expiry) (other : leaseId ≠ written)
    (covered : expiry ≤ now + (duration + 60000)) :
    Holds (addLease now duration written index) leaseId expiry where
  score := by rw [zscore_addLease, if_neg other, holds.score]
  deadline deadline carried := by
    rw [addLease_expiresAt] at carried
    cases carried
    exact covered

theorem renewIn_self (present : (index.zscore leaseId).isSome) :
    Holds (renewIn now duration leaseId index) leaseId (now + duration) := by
  rw [renewIn, if_pos present]
  exact addLease_self index now leaseId duration

theorem renewIn (holds : Holds index leaseId expiry) (other : leaseId ≠ written)
    (covered : (index.zscore written).isSome → expiry ≤ now + (duration + 60000)) :
    Holds (renewIn now duration written index) leaseId expiry := by
  unfold ChatGateway.renewIn
  split
  next present => exact holds.addLease other (covered present)
  next => exact holds

end Written

theorem isSome_live (holds : Holds index leaseId expiry) (fresh : now < expiry) :
    ((index.live now).zscore leaseId).isSome := by
  rw [(holds.live fresh).score]
  rfl

end Holds

theorem inRange_expired {now expiry : Int} (fresh : now < expiry) :
    ScoreBound.inRange .negInf (.closed now) expiry = false := by
  simp [ScoreBound.inRange, ScoreBound.atLeast, ScoreBound.atMost, fresh]

theorem inRange_stale {now cutoff expiry : Int} (spared : cutoff < expiry) :
    ScoreBound.inRange (.opened now) (.closed cutoff) expiry = false := by
  simp [ScoreBound.inRange, ScoreBound.atMost, spared]

theorem staleSweepRuns_of_range {index swept : ZSet} {now leaseDurationMs staleAfterMs : Int}
    (enabled : staleAfterMs < leaseDurationMs)
    (smaller : ∀ leaseId score, swept.zscore leaseId = some score →
      (index.live now).zscore leaseId = some score)
    (found : (swept.zrangebyscore (.opened now)
      (.closed (now + leaseDurationMs - staleAfterMs))).isEmpty = false) :
    StaleSweepRuns index now leaseDurationMs staleAfterMs := by
  obtain ⟨⟨leaseId, score⟩, listed⟩ := List.isEmpty_eq_false_iff_exists_mem.mp found
  obtain ⟨ordered, ranged⟩ := List.mem_filter.mp listed
  simp only [ScoreBound.inRange, ScoreBound.atLeast, ScoreBound.atMost, Bool.and_eq_true,
    decide_eq_true_eq] at ranged
  exact ⟨enabled, leaseId, score, smaller _ _ (Volatile.mem_zordered.mp ordered), ranged⟩

namespace UpstreamKeys

variable {C : Type} {args : UpstreamArgs C} {now expiry : Int} {keys : UpstreamKeys}
  {leaseId : String}

def Keeps (before after : UpstreamKeys) (leaseId : String) (expiry : Int) : Prop :=
  (Holds before.accountLeases leaseId expiry → Holds after.accountLeases leaseId expiry) ∧
    (Holds before.aggregateLeases leaseId expiry → Holds after.aggregateLeases leaseId expiry)

theorem Keeps.trans {first second third : UpstreamKeys}
    (earlier : Keeps first second leaseId expiry) (later : Keeps second third leaseId expiry) :
    Keeps first third leaseId expiry :=
  ⟨later.1 ∘ earlier.1, later.2 ∘ earlier.2⟩

theorem reclaim_keeps {low high : ScoreBound} (count : UpstreamCounters → Int → UpstreamCounters)
    (outside : (keys.accountLeases.zrangebyscore low high).isEmpty = false →
      low.inRange high expiry = false) :
    Keeps keys (keys.reclaim now args low high count) leaseId expiry := by
  unfold reclaim
  dsimp only
  split
  next => exact ⟨id, id⟩
  next found =>
    have apart := outside (by simpa using found)
    exact ⟨fun holds => holds.zremrangebyscore apart, fun holds => holds.zremrangebyscore apart⟩

theorem reclaim_accountLeases (keys : UpstreamKeys) (now : Int) (args : UpstreamArgs C)
    (low high : ScoreBound) (count : UpstreamCounters → Int → UpstreamCounters) :
    (keys.reclaim now args low high count).accountLeases = keys.accountLeases ∨
      (keys.reclaim now args low high count).accountLeases =
        keys.accountLeases.zremrangebyscore low high := by
  unfold reclaim
  dsimp only
  split
  next => exact Or.inl rfl
  next => exact Or.inr rfl

theorem reclaim_zscore {low high : ScoreBound} {count : UpstreamCounters → Int → UpstreamCounters}
    {score : Int}
    (present : (keys.reclaim now args low high count).accountLeases.zscore leaseId = some score) :
    keys.accountLeases.zscore leaseId = some score := by
  rcases reclaim_accountLeases keys now args low high count with same | removed
  · rwa [same] at present
  · rw [removed, Volatile.zscore_zremrangebyscore, Option.filter_eq_some_iff] at present
    exact present.1

theorem reclaim_zcard {low high : ScoreBound} (count : UpstreamCounters → Int → UpstreamCounters) :
    (keys.reclaim now args low high count).accountLeases.zcard ≤ keys.accountLeases.zcard := by
  rcases reclaim_accountLeases keys now args low high count with same | removed
  · rw [same]
  · rw [removed]
    exact keys.accountLeases.zcard_zremrangebyscore_le low high

-- The sweeps of a reservation keep a lease that is neither expired nor, when the stale sweep
-- runs, before the cutoff.
theorem sweep_keeps (leaseId : String) (fresh : now < expiry)
    (spared : StaleSweepRuns keys.accountLeases now args.leaseDurationMs args.staleAfterMs →
      args.staleCutoff now < expiry) :
    Keeps (keys.live now) ((keys.live now).sweep now args) leaseId expiry := by
  have expired : Keeps (keys.live now) ((keys.live now).sweepExpired now args) leaseId expiry :=
    reclaim_keeps _ fun _ => inRange_expired fresh
  refine expired.trans ?_
  unfold sweep sweepEvents sweepStale
  dsimp only
  split
  next enabled =>
    refine reclaim_keeps _ fun found => inRange_stale (spared ?_)
    exact staleSweepRuns_of_range enabled (fun _ _ present => reclaim_zscore present) found
  next => exact ⟨id, id⟩

theorem sweep_zcard (keys : UpstreamKeys) (now : Int) (args : UpstreamArgs C) :
    ((keys.live now).sweep now args).accountLeases.zcard ≤ keys.accountLeases.zcard := by
  have expired : ((keys.live now).sweepExpired now args).accountLeases.zcard ≤
      (keys.live now).accountLeases.zcard := reclaim_zcard _
  refine le_trans ?_ (expired.trans (keys.accountLeases.zcard_live_le now))
  unfold sweep sweepEvents sweepStale
  dsimp only
  split
  next => exact reclaim_zcard _
  next => exact le_rfl

variable [Zero C] [Add C] [LT C] [DecidableLT C] (tonumber : String → C)

theorem reserve_leases (args : UpstreamArgs C) (now : Int) (keys : UpstreamKeys) :
    let swept := (keys.live now).sweep now args
    let after := (upstreamReserve tonumber args now keys).2
    (keys.admits tonumber args now = true ∧ swept.accountLeases.zcard < args.maxConcurrency ∧
        after.accountLeases =
          addLease now args.leaseDurationMs args.leaseId swept.accountLeases ∧
        after.aggregateLeases =
          addLease now args.leaseDurationMs args.leaseId swept.aggregateLeases) ∨
      (keys.admits tonumber args now = false ∧ after.accountLeases = swept.accountLeases ∧
        after.aggregateLeases = swept.aggregateLeases) := by
  intro swept after
  have known : (swept.existing args).all = true → (swept.existing args).any = true := by
    intro all
    simp only [Existing.all, Bool.and_eq_true] at all
    simp [Existing.any, all.1.1.1]
  cases recorded : (swept.existing args).any with
  | true =>
    refine Or.inr ⟨by simp [admits, swept, recorded], ?_⟩
    simp only [after, upstreamReserve]
    split
    next => exact ⟨rfl, rfl⟩
    next => simp [swept]
  | false =>
    have partly : (swept.existing args).all = false := by
      cases all : (swept.existing args).all with
      | true => exact absurd (known all) (by simp [recorded])
      | false => rfl
    by_cases room : swept.accountLeases.zcard < args.maxConcurrency
    · have open' : ¬ swept.accountLeases.zcard ≥ args.maxConcurrency := by omega
      cases rejected : swept.costRejection tonumber now args with
      | some reply =>
        refine Or.inr ⟨by simp [admits, swept, rejected], ?_⟩
        simp [after, upstreamReserve, swept, recorded, partly, open', rejected]
      | none =>
        refine Or.inl ⟨by simp [admits, swept, recorded, room, rejected], room, ?_⟩
        simp [after, upstreamReserve, swept, recorded, partly, open', rejected, recordAdmission]
    · refine Or.inr ⟨by simp [admits, swept, room], ?_⟩
      have full : swept.accountLeases.zcard ≥ args.maxConcurrency := by omega
      simp [after, upstreamReserve, swept, recorded, partly, full]

end UpstreamKeys

namespace SnapshotKeys

variable {args : SnapshotArgs} {now expiry : Int} {keys : SnapshotKeys} {leaseId : String}

theorem reclaim_keeps {low high : ScoreBound} (count : UpstreamCounters → Int → UpstreamCounters)
    (outside : (keys.leases.zrangebyscore low high).isEmpty = false →
      low.inRange high expiry = false) (holds : Holds keys.leases leaseId expiry) :
    Holds (keys.reclaim now args low high count).leases leaseId expiry := by
  unfold reclaim
  dsimp only
  split
  next => exact holds
  next found => exact holds.zremrangebyscore (outside (by simpa using found))

theorem reclaim_zscore {low high : ScoreBound} {count : UpstreamCounters → Int → UpstreamCounters}
    {score : Int} (present : (keys.reclaim now args low high count).leases.zscore leaseId = some score) :
    keys.leases.zscore leaseId = some score := by
  unfold reclaim at present
  dsimp only at present
  split at present
  next => exact present
  next =>
    rw [Volatile.zscore_zremrangebyscore, Option.filter_eq_some_iff] at present
    exact present.1

theorem staleLeaseCount_pos (counted : keys.staleLeaseCount now args > 0) :
    args.staleAfterMs < args.leaseDurationMs := by
  unfold staleLeaseCount at counted
  split at counted
  next enabled => exact enabled
  next => omega

theorem snapshot_keeps {C : Type} [Zero C] [Add C] (tonumber : String → C) (fresh : now < expiry)
    (spared : StaleSweepRuns keys.leases now args.leaseDurationMs args.staleAfterMs →
      args.staleCutoff now < expiry) (holds : Holds keys.leases leaseId expiry) :
    Holds (upstreamSnapshot tonumber args now keys).2.leases leaseId expiry := by
  have expired : Holds ((keys.live now).sweepExpired now args).leases leaseId expiry :=
    reclaim_keeps _ (fun _ => inRange_expired fresh) (holds.live fresh)
  simp only [upstreamSnapshot, sweepStale]
  split
  next counted =>
    refine reclaim_keeps _ (fun found => inRange_stale (spared ?_)) expired
    exact staleSweepRuns_of_range (staleLeaseCount_pos counted)
      (fun _ _ present => reclaim_zscore present) found
  next => exact expired

end SnapshotKeys

structure FreshInvariant (limits : UpstreamLimits) (system : UpstreamSystem) : Prop where
  account : ∀ leaseId heartbeat, system.heartbeats leaseId = some heartbeat →
    system.clock < heartbeat.expiry →
      Holds (system.accountLeases (limits.accountOf leaseId)) leaseId heartbeat.expiry
  aggregate : ∀ leaseId heartbeat, system.heartbeats leaseId = some heartbeat →
    system.clock < heartbeat.expiry → Holds system.shared.leases leaseId heartbeat.expiry
  capped : ∀ account, (system.accountLeases account).zcard ≤ limits.maxConcurrency

namespace FreshInvariant

variable {limits : UpstreamLimits} {system : UpstreamSystem} {now : Int}

theorem start (clock : Int) (reservedAt holdSamples : String → ZSet) (shared : SnapshotKeys) :
    FreshInvariant limits (.start clock reservedAt holdSamples shared) where
  account _ _ written := nomatch written
  aggregate _ _ written := nomatch written
  capped _ := by simp [UpstreamSystem.start, Volatile.absent, Volatile.zcard]

theorem freshHeld (invariant : FreshInvariant limits system) : system.FreshHeld limits where
  account leaseId heartbeat written young := by
    have fresh : system.clock < heartbeat.expiry := by
      unfold Heartbeat.expiry
      omega
    exact (invariant.account leaseId heartbeat written fresh).isSome_live fresh
  aggregate leaseId heartbeat written young := by
    have fresh : system.clock < heartbeat.expiry := by
      unfold Heartbeat.expiry
      omega
    exact (invariant.aggregate leaseId heartbeat written fresh).isSome_live fresh
  capped account :=
    ((system.accountLeases account).zcard_live_le system.clock).trans (invariant.capped account)

-- A call that rewrites the index of one account and the aggregate. A heartbeat after it is either
-- one from before, or the write of a lease that both indexes now hold.
theorem rewrite (invariant : FreshInvariant limits system) (forward : system.clock ≤ now)
    {account : String} {primary : ZSet} {after : UpstreamSystem} (clock : after.clock = now)
    (accountLeases : after.accountLeases = Function.update system.accountLeases account primary)
    (room : primary.zcard ≤ limits.maxConcurrency)
    (held : ∀ leaseId heartbeat, after.heartbeats leaseId = some heartbeat → now < heartbeat.expiry →
      (limits.accountOf leaseId = account ∧ Holds primary leaseId heartbeat.expiry ∧
          Holds after.shared.leases leaseId heartbeat.expiry) ∨
        system.heartbeats leaseId = some heartbeat ∧
          (limits.accountOf leaseId = account →
            Holds (system.accountLeases account) leaseId heartbeat.expiry →
              Holds primary leaseId heartbeat.expiry) ∧
          (Holds system.shared.leases leaseId heartbeat.expiry →
            Holds after.shared.leases leaseId heartbeat.expiry)) :
    FreshInvariant limits after where
  account leaseId heartbeat written fresh := by
    rw [clock] at fresh
    rw [accountLeases]
    rcases held leaseId heartbeat written fresh with ⟨owner, holds, -⟩ | ⟨earlier, kept, -⟩
    · rw [owner, Function.update_self]
      exact holds
    · have before := invariant.account leaseId heartbeat earlier (by omega)
      by_cases owner : limits.accountOf leaseId = account
      · rw [owner] at before ⊢
        rw [Function.update_self]
        exact kept owner before
      · rwa [Function.update_of_ne owner]
  aggregate leaseId heartbeat written fresh := by
    rw [clock] at fresh
    rcases held leaseId heartbeat written fresh with ⟨-, -, holds⟩ | ⟨earlier, -, kept⟩
    · exact holds
    · exact kept (invariant.aggregate leaseId heartbeat earlier (by omega))
  capped other := by
    rw [accountLeases]
    by_cases same : other = account
    · rw [same, Function.update_self]
      exact room
    · rw [Function.update_of_ne same]
      exact invariant.capped other

theorem unlapsed_heartbeat {staleAfterMs : Int} {leaseId : String} {heartbeat : Heartbeat}
    (young : system.unlapsed now staleAfterMs leaseId = some heartbeat) :
    system.heartbeats leaseId = some heartbeat :=
  (Option.filter_eq_some_iff.mp young).1

section Steps

variable {C : Type} [Zero C] [Add C] [LT C] [DecidableLT C] {tonumber : String → C}

theorem reserve (invariant : FreshInvariant limits system) (forward : system.clock ≤ now)
    {args : UpstreamArgs C} (valid : (UpstreamCall.reserve args).Valid limits)
    (respects : RespectsFresh tonumber limits system (now, .reserve args)) :
    FreshInvariant limits (system.perform tonumber limits now (.reserve args)) := by
  obtain ⟨positive, limit⟩ := valid
  obtain ⟨duration, durationMs⟩ := Int.eq_ofNat_of_zero_le positive.le
  obtain ⟨sparing, covering⟩ := respects
  have bounded := invariant.capped (limits.accountOf args.leaseId)
  have shrunk := (system.reserveKeys (limits.accountOf args.leaseId)).sweep_zcard now args
  -- Both sweeps pass over a lease whose heartbeat is younger than the stale window.
  have swept : ∀ leaseId heartbeat,
      system.unlapsed now args.staleAfterMs leaseId = some heartbeat → now < heartbeat.expiry →
        UpstreamKeys.Keeps (system.reserveKeys (limits.accountOf args.leaseId))
          (((system.reserveKeys (limits.accountOf args.leaseId)).live now).sweep now args)
          leaseId heartbeat.expiry := by
    intro leaseId heartbeat young fresh
    have kept := @UpstreamKeys.sweep_keeps _ args now heartbeat.expiry
      (system.reserveKeys (limits.accountOf args.leaseId)) leaseId fresh
      fun runs => sparing runs leaseId heartbeat young fresh
    exact ⟨fun holds => kept.1 (holds.live fresh), fun holds => kept.2 (holds.live fresh)⟩
  rcases UpstreamKeys.reserve_leases tonumber args now
    (system.reserveKeys (limits.accountOf args.leaseId)) with
    ⟨admitted, room, primary, aggregate⟩ | ⟨refused, primary, aggregate⟩
  · refine invariant.rewrite forward rfl rfl ?_ ?_
    · rw [primary, durationMs]
      have grown := zcard_addLease_le (((system.reserveKeys (limits.accountOf args.leaseId)).live
        now).sweep now args).accountLeases now args.leaseId duration
      omega
    · intro leaseId heartbeat written fresh
      simp only [UpstreamSystem.perform, admitted, if_true, primary, aggregate] at written ⊢
      by_cases same : leaseId = args.leaseId
      · subst same
        rw [Function.update_self, Option.some.injEq] at written
        subst written
        rw [durationMs]
        exact Or.inl ⟨rfl, Holds.addLease_self _ _ _ _, Holds.addLease_self _ _ _ _⟩
      · rw [Function.update_of_ne same] at written
        have kept := swept leaseId heartbeat written fresh
        have covered := covering admitted leaseId heartbeat same written
        rw [durationMs] at covered ⊢
        exact Or.inr ⟨unlapsed_heartbeat written,
          fun _ holds => (kept.1 holds).addLease same covered,
          fun holds => (kept.2 holds).addLease same covered⟩
  · refine invariant.rewrite forward rfl rfl ?_ ?_
    · rw [primary]
      exact shrunk.trans bounded
    · intro leaseId heartbeat written fresh
      simp only [UpstreamSystem.perform, refused, Bool.false_eq_true, if_false, primary,
        aggregate] at written ⊢
      have kept := swept leaseId heartbeat written fresh
      exact Or.inr ⟨unlapsed_heartbeat written, fun _ => kept.1, kept.2⟩

theorem renew (invariant : FreshInvariant limits system) (forward : system.clock ≤ now)
    {renewed : String} {leaseDurationMs : Int} (positive : 0 < leaseDurationMs)
    (respects : RespectsFresh tonumber limits system (now, .renew renewed leaseDurationMs)) :
    FreshInvariant limits (system.perform tonumber limits now (.renew renewed leaseDurationMs)) := by
  obtain ⟨duration, rfl⟩ := Int.eq_ofNat_of_zero_le positive.le
  obtain ⟨mirrored, covering⟩ := respects
  refine invariant.rewrite forward rfl rfl ?_ ?_
  · rw [renewIn_zcard]
    exact ((system.accountLeases _).zcard_live_le now).trans (invariant.capped _)
  · intro leaseId heartbeat written fresh
    replace written : (if (((system.accountLeases (limits.accountOf renewed)).live now).zscore
        renewed).isSome then
          Function.update system.heartbeats renewed (some ⟨now, duration⟩)
        else system.heartbeats) leaseId = some heartbeat := written
    by_cases same : leaseId = renewed
    · subst same
      by_cases present :
          (((system.accountLeases (limits.accountOf leaseId)).live now).zscore leaseId).isSome
      · rw [if_pos present, Function.update_self, Option.some.injEq] at written
        subst written
        exact Or.inl ⟨rfl, Holds.renewIn_self present, Holds.renewIn_self (mirrored present)⟩
      · -- A fresh lease is in its account index, so the renewal finds it.
        rw [if_neg present] at written
        have held := invariant.account leaseId heartbeat written (by omega)
        exact absurd (held.isSome_live fresh) present
    · have earlier : system.heartbeats leaseId = some heartbeat := by
        split_ifs at written with present
        · rwa [Function.update_of_ne same] at written
        · exact written
      refine Or.inr ⟨earlier, fun _ holds => (holds.live fresh).renewIn same fun present => ?_,
        fun holds => (holds.live fresh).renewIn same fun present => ?_⟩
      · exact covering (mirrored present) leaseId heartbeat same earlier
      · exact covering present leaseId heartbeat same earlier

theorem release (invariant : FreshInvariant limits system) (forward : system.clock ≤ now)
    (args : ReleaseArgs) :
    FreshInvariant limits (system.perform tonumber limits now (.release args)) := by
  refine invariant.rewrite forward rfl rfl ?_ ?_
  · exact (((system.accountLeases _).live now).zcard_zrem_le args.leaseId).trans
      (((system.accountLeases _).zcard_live_le now).trans (invariant.capped _))
  · intro leaseId heartbeat written fresh
    by_cases same : leaseId = args.leaseId
    · subst same
      simp [UpstreamSystem.perform] at written
    · simp only [UpstreamSystem.perform, Function.update_of_ne same] at written
      exact Or.inr ⟨written, fun _ holds => (holds.live fresh).zrem same,
        fun holds => (holds.live fresh).zrem same⟩

theorem snapshot (invariant : FreshInvariant limits system) (forward : system.clock ≤ now)
    {args : SnapshotArgs}
    (respects : RespectsFresh tonumber limits system (now, .snapshot args)) :
    FreshInvariant limits (system.perform tonumber limits now (.snapshot args)) where
  account leaseId heartbeat written fresh :=
    invariant.account leaseId heartbeat (unlapsed_heartbeat written) (Int.lt_of_le_of_lt forward fresh)
  aggregate leaseId heartbeat written fresh := by
    have held := invariant.aggregate leaseId heartbeat (unlapsed_heartbeat written)
      (Int.lt_of_le_of_lt forward fresh)
    exact SnapshotKeys.snapshot_keeps tonumber fresh
      (fun runs => respects runs leaseId heartbeat written fresh) held
  capped := invariant.capped

theorem step (invariant : FreshInvariant limits system) {label : Int × UpstreamCall C}
    {after : UpstreamSystem} (taken : UpstreamStep tonumber limits system label after)
    (respects : RespectsFresh tonumber limits system label) : FreshInvariant limits after := by
  obtain ⟨now, call⟩ := label
  obtain ⟨forward, valid, rfl⟩ := taken
  cases call with
  | reserve args => exact invariant.reserve forward valid respects
  | renew leaseId leaseDurationMs => exact invariant.renew forward valid respects
  | release args => exact invariant.release forward args
  | snapshot args => exact invariant.snapshot forward respects
  | elapse cooldown streamCounters =>
    exact ⟨fun leaseId heartbeat written fresh =>
        invariant.account leaseId heartbeat written (Int.lt_of_le_of_lt forward fresh),
      fun leaseId heartbeat written fresh =>
        invariant.aggregate leaseId heartbeat written (Int.lt_of_le_of_lt forward fresh),
      invariant.capped⟩

end Steps

end FreshInvariant

def exampleUpstreamLimits : UpstreamLimits where
  maxConcurrency := 2
  accountOf _ := "primary"

def leaselessUpstream : UpstreamSystem :=
  .start 0 (fun _ => .absent) (fun _ => .absent)
    { leases := .absent, events := .absent, eventCosts := .absent, cooldown := none, counters := {},
      streamCounters := {}, reclaimMarkers := .absent }

def exampleReservation (leaseDurationMs : Int) : UpstreamArgs Int where
  eventId := "event-1"
  leaseId := "lease-1"
  requestCost := "1"
  hedge := false
  maxConcurrency := 2
  minuteLimit := 0
  requestWindowSeconds := 0
  requestQuota := 0
  leaseDurationMs := leaseDurationMs
  staleAfterMs := 200000

def exampleNumber (text : String) : Int :=
  if text = "1" then 1 else 0

def reservedUpstream : UpstreamSystem :=
  leaselessUpstream.perform exampleNumber exampleUpstreamLimits 0 (.reserve (exampleReservation 60000))

theorem reserved_step : UpstreamStep exampleNumber exampleUpstreamLimits leaselessUpstream
    (0, .reserve (exampleReservation 60000)) reservedUpstream :=
  ⟨by decide, ⟨by decide, rfl⟩, rfl⟩

end ChatGateway
