import ChatGateway.Redis.LeaseSets
import ChatGateway.Shared.Transition

set_option autoImplicit false

/-!
# Downstream concurrency caps

Runs of the admission, renewal and release scripts over the lease sets of one downstream.
-/

namespace ChatGateway

structure LeaseLimits where
  globalLimit : Nat
  groupLimit : String → Nat
  leaseDurationMs : Nat
  groupOf : String → String
  durationPositive : 0 < leaseDurationMs

namespace LeaseLimits

def leaseArgs (limits : LeaseLimits) (leaseId : String) : LeaseArgs where
  leaseId := leaseId
  concurrencyLimit := limits.globalLimit
  leaseDurationMs := limits.leaseDurationMs
  groupLimit := limits.groupLimit (limits.groupOf leaseId)

end LeaseLimits

structure LeaseSystem where
  clock : Int
  quota : QuotaKeys
  leases : String → ZSet
  waiting : String → ZSet
  leasesAll : ZSet

inductive LeaseCall where
  | admission (quota : QuotaArgs) (leaseId : String)
  | renew (leaseId : String)
  | release (leaseId : String)
  | elapse (quota : QuotaKeys)

namespace LeaseSystem

def start (clock : Int) (quota : QuotaKeys) (waiting : String → ZSet) : LeaseSystem where
  clock := clock
  quota := quota
  leases _ := .absent
  waiting := waiting
  leasesAll := .absent

def perform (system : LeaseSystem) (limits : LeaseLimits) (now : Int) : LeaseCall → LeaseSystem
  | .admission quota leaseId =>
    let group := limits.groupOf leaseId
    let keys := (downstreamAdmission now quota (limits.leaseArgs leaseId)
      { quota := system.quota
        groupLeases := system.leases group
        aggregateLeases := system.leasesAll }).2
    { system with
      clock := now
      quota := keys.quota
      leases := Function.update system.leases group keys.groupLeases
      leasesAll := keys.aggregateLeases }
  | .renew leaseId =>
    let group := limits.groupOf leaseId
    let (_, primary, companion) :=
      leaseRenew now limits.leaseDurationMs leaseId (system.leases group) system.leasesAll
    { system with
      clock := now
      leases := Function.update system.leases group primary
      leasesAll := companion }
  | .release leaseId =>
    let group := limits.groupOf leaseId
    let (_, primary, waiting, aggregate) :=
      leaseRelease now leaseId (system.leases group) (system.waiting group) system.leasesAll
    { system with
      clock := now
      leases := Function.update system.leases group primary
      waiting := Function.update system.waiting group waiting
      leasesAll := aggregate }
  | .elapse quota => { system with clock := now, quota := quota }

def Unexpired (system : LeaseSystem) (group leaseId : String) : Prop :=
  ∃ score, ((system.leases group).live system.clock).zscore leaseId = some score ∧
    system.clock < score

def UnexpiredAll (system : LeaseSystem) (leaseId : String) : Prop :=
  ∃ score, (system.leasesAll.live system.clock).zscore leaseId = some score ∧ system.clock < score

structure CapsHold (limits : LeaseLimits) (system : LeaseSystem) : Prop where
  group : ∀ group, 0 < limits.groupLimit group → ∀ leases : Finset String,
    (∀ leaseId ∈ leases, system.Unexpired group leaseId) → leases.card ≤ limits.groupLimit group
  global : ∀ leases : Finset String,
    (∀ leaseId ∈ leases, ∃ group, system.Unexpired group leaseId) →
      leases.card ≤ limits.globalLimit
  mirrored : ∀ group leaseId, system.Unexpired group leaseId → system.UnexpiredAll leaseId

end LeaseSystem

def LeaseStep (limits : LeaseLimits) (before : LeaseSystem) (label : Int × LeaseCall)
    (after : LeaseSystem) : Prop :=
  before.clock ≤ label.1 ∧ after = before.perform limits label.1 label.2

def RenewsMirrored (limits : LeaseLimits) (system : LeaseSystem) : Int × LeaseCall → Prop
  | (now, .renew leaseId) =>
    (((system.leases (limits.groupOf leaseId)).live now).zscore leaseId).isSome →
      ((system.leasesAll.live now).zscore leaseId).isSome
  | _ => True

theorem leaseRejection_none {now : Int} {lease : LeaseArgs} {primary aggregate : ZSet}
    (accepted : leaseRejection now lease primary aggregate = none) :
    (0 < lease.groupLimit → primary.zcard < lease.groupLimit) ∧
      aggregate.zcard < lease.concurrencyLimit := by
  unfold leaseRejection at accepted
  split at accepted
  next => exact absurd accepted (by simp)
  next groupOpen =>
    split at accepted
    next => exact absurd accepted (by simp)
    next globalOpen =>
      exact ⟨fun capped => Int.not_le.mp fun full => groupOpen ⟨capped, full⟩,
        Int.not_le.mp globalOpen⟩

theorem admission_leases {now : Int} {quota : QuotaArgs} {lease : LeaseArgs}
    {keys after : AdmissionKeys} {reply : DownstreamReply}
    (ran : downstreamAdmission now quota lease keys = (reply, after)) :
    let primary := (keys.groupLeases.live now).zremrangebyscore .negInf (.closed now)
    let aggregate := (keys.aggregateLeases.live now).zremrangebyscore .negInf (.closed now)
    (after.groupLeases = keys.groupLeases.live now ∧
        after.aggregateLeases = keys.aggregateLeases.live now) ∨
      (after.groupLeases = primary ∧ after.aggregateLeases = aggregate) ∨
      (after.groupLeases = addLease now lease.leaseDurationMs lease.leaseId primary ∧
        after.aggregateLeases = addLease now lease.leaseDurationMs lease.leaseId aggregate ∧
        (0 < lease.groupLimit → primary.zcard < lease.groupLimit) ∧
        aggregate.zcard < lease.concurrencyLimit) := by
  intro primary aggregate
  simp only [downstreamAdmission] at ran
  split at ran
  next =>
    cases ran
    exact Or.inl ⟨rfl, rfl⟩
  next =>
    split at ran
    next =>
      cases ran
      exact Or.inl ⟨rfl, rfl⟩
    next =>
      split at ran
      next =>
        cases ran
        exact Or.inr (Or.inl ⟨rfl, rfl⟩)
      next =>
        split at ran
        next =>
          cases ran
          exact Or.inr (Or.inl ⟨rfl, rfl⟩)
        next accepted =>
          cases ran
          exact Or.inr (Or.inr ⟨rfl, rfl, leaseRejection_none accepted⟩)

structure LeaseInvariant (limits : LeaseLimits) (system : LeaseSystem) : Prop where
  owned : ∀ group leaseId score, (system.leases group).zscore leaseId = some score →
    limits.groupOf leaseId = group
  groupWithin : ∀ group,
    ScoresWithin (system.clock + limits.leaseDurationMs) (system.leases group)
  allWithin : ScoresWithin (system.clock + limits.leaseDurationMs) system.leasesAll
  groupCap : ∀ group, 0 < limits.groupLimit group →
    (system.leases group).zcard ≤ limits.groupLimit group
  allCap : system.leasesAll.zcard ≤ limits.globalLimit
  mirrored : ∀ group leaseId score, (system.leases group).zscore leaseId = some score →
    system.clock < score →
      ∃ mirror, system.leasesAll.zscore leaseId = some mirror ∧ score ≤ mirror

namespace LeaseInvariant

variable {limits : LeaseLimits} {system : LeaseSystem} {now : Int}

theorem start (clock : Int) (quota : QuotaKeys) (waiting : String → ZSet) :
    LeaseInvariant limits (.start clock quota waiting) where
  owned _ _ _ present := by simp [LeaseSystem.start, Volatile.absent, Volatile.zscore] at present
  groupWithin _ := scoresWithin_absent
  allWithin := scoresWithin_absent
  groupCap _ _ := by simp [LeaseSystem.start, Volatile.absent, Volatile.zcard]
  allCap := by simp [LeaseSystem.start, Volatile.absent, Volatile.zcard]
  mirrored _ _ _ present := by simp [LeaseSystem.start, Volatile.absent, Volatile.zscore] at present

structure Rewrites (limits : LeaseLimits) (system : LeaseSystem) (now : Int) (group : String)
    (primary aggregate : ZSet) : Prop where
  owned : ∀ leaseId score, primary.zscore leaseId = some score → limits.groupOf leaseId = group
  primaryWithin : ScoresWithin (now + limits.leaseDurationMs) primary
  aggregateWithin : ScoresWithin (now + limits.leaseDurationMs) aggregate
  primaryCap : 0 < limits.groupLimit group → primary.zcard ≤ limits.groupLimit group
  aggregateCap : aggregate.zcard ≤ limits.globalLimit
  mirrored : ∀ leaseId score, primary.zscore leaseId = some score → now < score →
    ∃ mirror, aggregate.zscore leaseId = some mirror ∧ score ≤ mirror
  others : ∀ leaseId mirror, limits.groupOf leaseId ≠ group →
    system.leasesAll.zscore leaseId = some mirror → now < mirror →
      aggregate.zscore leaseId = some mirror

theorem rewrite (invariant : LeaseInvariant limits system) (forward : system.clock ≤ now)
    {group : String} {primary aggregate : ZSet}
    (rewrites : Rewrites limits system now group primary aggregate)
    (quota : QuotaKeys) (waiting : String → ZSet) :
    LeaseInvariant limits
      { clock := now, quota := quota, waiting := waiting
        leases := Function.update system.leases group primary, leasesAll := aggregate } where
  owned other leaseId score present := by
    by_cases same : other = group
    · subst same
      exact rewrites.owned leaseId score (by simpa using present)
    · exact invariant.owned other leaseId score (by simpa [same] using present)
  groupWithin other := by
    by_cases same : other = group
    · subst same
      simpa using rewrites.primaryWithin
    · simpa [same] using (invariant.groupWithin other).later (by omega)
  allWithin := rewrites.aggregateWithin
  groupCap other capped := by
    by_cases same : other = group
    · subst same
      simpa using rewrites.primaryCap capped
    · simpa [same] using invariant.groupCap other capped
  allCap := rewrites.aggregateCap
  mirrored other leaseId score present future := by
    by_cases same : other = group
    · subst same
      exact rewrites.mirrored leaseId score (by simpa using present) future
    · have kept : (system.leases other).zscore leaseId = some score := by simpa [same] using present
      simp only at future
      obtain ⟨mirror, found, covered⟩ :=
        invariant.mirrored other leaseId score kept (by omega)
      have foreign : limits.groupOf leaseId ≠ group :=
        fun owner => same ((invariant.owned other leaseId score kept).symm.trans owner)
      exact ⟨mirror, rewrites.others leaseId mirror foreign found (by omega), covered⟩

theorem live_rewrites (invariant : LeaseInvariant limits system) (forward : system.clock ≤ now)
    (group : String) :
    Rewrites limits system now group ((system.leases group).live now)
      (system.leasesAll.live now) where
  owned leaseId score present := invariant.owned group leaseId score (Volatile.zscore_of_live present)
  primaryWithin := ((invariant.groupWithin group).later (by omega)).live now
  aggregateWithin := (invariant.allWithin.later (by omega)).live now
  primaryCap capped := ((system.leases group).zcard_live_le now).trans (invariant.groupCap group capped)
  aggregateCap := (system.leasesAll.zcard_live_le now).trans invariant.allCap
  mirrored leaseId score present future := by
    obtain ⟨mirror, found, covered⟩ := invariant.mirrored group leaseId score
      (Volatile.zscore_of_live present) (by omega)
    exact ⟨mirror, invariant.allWithin.zscore_live found (by omega), covered⟩
  others _ _ _ found future := invariant.allWithin.zscore_live found future.le

namespace Rewrites

variable {group : String} {primary aggregate : ZSet}

theorem prune (rewrites : Rewrites limits system now group primary aggregate) :
    Rewrites limits system now group (primary.zremrangebyscore .negInf (.closed now))
      (aggregate.zremrangebyscore .negInf (.closed now)) where
  owned leaseId score present := rewrites.owned leaseId score (zscore_of_prune present).1
  primaryWithin := rewrites.primaryWithin.prune
  aggregateWithin := rewrites.aggregateWithin.prune
  primaryCap capped := (primary.zcard_zremrangebyscore_le _ _).trans (rewrites.primaryCap capped)
  aggregateCap := (aggregate.zcard_zremrangebyscore_le _ _).trans rewrites.aggregateCap
  mirrored leaseId score present future := by
    obtain ⟨mirror, found, covered⟩ :=
      rewrites.mirrored leaseId score (zscore_of_prune present).1 future
    refine ⟨mirror, ?_, covered⟩
    rw [zscore_prune, found, Option.filter_some, if_pos (by simp; omega)]
  others leaseId mirror foreign found future := by
    rw [zscore_prune, rewrites.others leaseId mirror foreign found future, Option.filter_some,
      if_pos (by simpa using future)]

theorem admission (rewrites : Rewrites limits system now group primary aggregate) {leaseId : String}
    (owner : limits.groupOf leaseId = group)
    (groupOpen : 0 < limits.groupLimit group → primary.zcard < limits.groupLimit group)
    (globalOpen : aggregate.zcard < limits.globalLimit) :
    Rewrites limits system now group (addLease now limits.leaseDurationMs leaseId primary)
      (addLease now limits.leaseDurationMs leaseId aggregate) where
  owned member score present := by
    rw [zscore_addLease] at present
    split at present
    next same => rw [same, owner]
    next => exact rewrites.owned member score present
  primaryWithin := rewrites.primaryWithin.addLease
  aggregateWithin := rewrites.aggregateWithin.addLease
  primaryCap capped := by
    have grown := zcard_addLease_le primary now leaseId limits.leaseDurationMs
    have room := groupOpen capped
    omega
  aggregateCap := by
    have grown := zcard_addLease_le aggregate now leaseId limits.leaseDurationMs
    omega
  mirrored member score present future := by
    rw [zscore_addLease] at present ⊢
    split at present
    next same => exact ⟨now + limits.leaseDurationMs, by simp [same], (Option.some.inj present).ge⟩
    next different =>
      rw [if_neg different]
      exact rewrites.mirrored member score present future
  others member mirror foreign found future := by
    rw [zscore_addLease, if_neg (fun same => foreign (by rw [same, owner]))]
    exact rewrites.others member mirror foreign found future

theorem renew (rewrites : Rewrites limits system now group primary aggregate) {leaseId : String}
    (owner : limits.groupOf leaseId = group)
    (held : (primary.zscore leaseId).isSome → (aggregate.zscore leaseId).isSome) :
    Rewrites limits system now group (renewIn now limits.leaseDurationMs leaseId primary)
      (renewIn now limits.leaseDurationMs leaseId aggregate) where
  owned member score present := by
    rw [renewIn_zscore] at present
    split at present
    next same => rw [same, owner]
    next => exact rewrites.owned member score present
  primaryWithin := rewrites.primaryWithin.renewIn
  aggregateWithin := rewrites.aggregateWithin.renewIn
  primaryCap capped := by
    rw [renewIn_zcard]
    exact rewrites.primaryCap capped
  aggregateCap := by
    rw [renewIn_zcard]
    exact rewrites.aggregateCap
  mirrored member score present future := by
    rw [renewIn_zscore] at present ⊢
    split at present
    next same =>
      subst same
      obtain ⟨old, found, renewed⟩ := Option.map_eq_some_iff.mp present
      obtain ⟨mirror, mirrorFound⟩ := Option.isSome_iff_exists.mp (held (by simp [found]))
      exact ⟨now + limits.leaseDurationMs, by simp [mirrorFound], renewed.ge⟩
    next different =>
      rw [if_neg different]
      exact rewrites.mirrored member score present future
  others member mirror foreign found future := by
    rw [renewIn_zscore, if_neg (fun same => foreign (by rw [same, owner]))]
    exact rewrites.others member mirror foreign found future

theorem release (rewrites : Rewrites limits system now group primary aggregate) {leaseId : String}
    (owner : limits.groupOf leaseId = group) :
    Rewrites limits system now group (primary.zrem leaseId) (aggregate.zrem leaseId) where
  owned member score present := rewrites.owned member score (zscore_of_zrem present).1
  primaryWithin := rewrites.primaryWithin.zrem
  aggregateWithin := rewrites.aggregateWithin.zrem
  primaryCap capped := (primary.zcard_zrem_le leaseId).trans (rewrites.primaryCap capped)
  aggregateCap := (aggregate.zcard_zrem_le leaseId).trans rewrites.aggregateCap
  mirrored member score present future := by
    obtain ⟨kept, different⟩ := zscore_of_zrem present
    rw [Volatile.zscore_zrem, if_neg different]
    exact rewrites.mirrored member score kept future
  others member mirror foreign found future := by
    rw [Volatile.zscore_zrem, if_neg (fun same => foreign (by rw [same, owner]))]
    exact rewrites.others member mirror foreign found future

end Rewrites

theorem admission (invariant : LeaseInvariant limits system) (forward : system.clock ≤ now)
    (quota : QuotaArgs) (leaseId : String) :
    LeaseInvariant limits (system.perform limits now (.admission quota leaseId)) := by
  have lived := invariant.live_rewrites forward (limits.groupOf leaseId)
  refine invariant.rewrite forward ?_ _ _
  rcases admission_leases (Prod.mk.eta (p := downstreamAdmission now quota (limits.leaseArgs leaseId)
      { quota := system.quota, groupLeases := system.leases (limits.groupOf leaseId),
        aggregateLeases := system.leasesAll })).symm with
    ⟨primary, aggregate⟩ | ⟨primary, aggregate⟩ | ⟨primary, aggregate, groupOpen, globalOpen⟩
  · rw [primary, aggregate]
    exact lived
  · rw [primary, aggregate]
    exact lived.prune
  · rw [primary, aggregate]
    exact lived.prune.admission rfl (fun capped => groupOpen (Int.natCast_pos.mpr capped)) globalOpen

theorem renewal (invariant : LeaseInvariant limits system) (forward : system.clock ≤ now)
    {leaseId : String} (held : RenewsMirrored limits system (now, .renew leaseId)) :
    LeaseInvariant limits (system.perform limits now (.renew leaseId)) :=
  invariant.rewrite forward
    ((invariant.live_rewrites forward (limits.groupOf leaseId)).renew rfl held) _ _

theorem released (invariant : LeaseInvariant limits system) (forward : system.clock ≤ now)
    (leaseId : String) : LeaseInvariant limits (system.perform limits now (.release leaseId)) :=
  invariant.rewrite forward
    ((invariant.live_rewrites forward (limits.groupOf leaseId)).release rfl) _ _

theorem elapsed (invariant : LeaseInvariant limits system) (forward : system.clock ≤ now)
    (quota : QuotaKeys) : LeaseInvariant limits (system.perform limits now (.elapse quota)) where
  owned := invariant.owned
  groupWithin group := (invariant.groupWithin group).later (Int.add_le_add_right forward _)
  allWithin := invariant.allWithin.later (Int.add_le_add_right forward _)
  groupCap := invariant.groupCap
  allCap := invariant.allCap
  mirrored group leaseId score present future :=
    invariant.mirrored group leaseId score present (Int.lt_of_le_of_lt forward future)

theorem step (invariant : LeaseInvariant limits system) {label : Int × LeaseCall}
    {after : LeaseSystem} (taken : LeaseStep limits system label after)
    (mirrored : RenewsMirrored limits system label) : LeaseInvariant limits after := by
  obtain ⟨now, call⟩ := label
  obtain ⟨forward, rfl⟩ := taken
  cases call with
  | admission quota leaseId => exact invariant.admission forward quota leaseId
  | renew leaseId => exact invariant.renewal forward mirrored
  | release leaseId => exact invariant.released forward leaseId
  | elapse quota => exact invariant.elapsed forward quota

theorem capsHold (invariant : LeaseInvariant limits system) : system.CapsHold limits := by
  have mirrored : ∀ group leaseId, system.Unexpired group leaseId →
      system.UnexpiredAll leaseId := by
    rintro group leaseId ⟨score, present, future⟩
    obtain ⟨mirror, found, covered⟩ :=
      invariant.mirrored group leaseId score (Volatile.zscore_of_live present) future
    exact ⟨mirror, invariant.allWithin.zscore_live found (by omega), by omega⟩
  refine ⟨?_, ?_, mirrored⟩
  · intro group capped leases unexpired
    have counted := (system.leases group).card_le_zcard leases fun leaseId chosen => by
      obtain ⟨score, present, -⟩ := unexpired leaseId chosen
      simp [Volatile.zscore_of_live present]
    have bounded := invariant.groupCap group capped
    omega
  · intro leases unexpired
    have counted := system.leasesAll.card_le_zcard leases fun leaseId chosen => by
      obtain ⟨group, live⟩ := unexpired leaseId chosen
      obtain ⟨score, present, -⟩ := mirrored group leaseId live
      simp [Volatile.zscore_of_live present]
    have bounded := invariant.allCap
    omega

end LeaseInvariant

-- A renewal that finds its lease in the group alone revives it outside the aggregate.
theorem renewal_unmirrored {limits : LeaseLimits} {system : LeaseSystem} {now : Int}
    {leaseId : String} (stray : ¬ RenewsMirrored limits system (now, .renew leaseId)) :
    ¬ (system.perform limits now (.renew leaseId)).CapsHold limits := by
  intro caps
  simp only [RenewsMirrored, not_forall, Option.not_isSome_iff_eq_none] at stray
  obtain ⟨held, lost⟩ := stray
  have unexpired : (system.perform limits now (.renew leaseId)).Unexpired
      (limits.groupOf leaseId) leaseId := by
    have positive := limits.durationPositive
    refine ⟨now + limits.leaseDurationMs, ?_, ?_⟩
    · simp [LeaseSystem.perform, leaseRenew, renewIn, held, live_addLease, zscore_addLease]
    · simp only [LeaseSystem.perform]
      omega
  obtain ⟨score, present, -⟩ := caps.mirrored _ _ unexpired
  have kept := Volatile.zscore_of_live present
  simp only [LeaseSystem.perform, leaseRenew, renewIn_zscore, lost] at kept
  simp at kept

/-- While every renewal finds its lease mirrored, the caps hold; the first that does not breaks
them. -/
theorem downstream_caps_hold_iff_renewals_mirrored (limits : LeaseLimits) {clock : Int}
    {quota : QuotaKeys} {waiting : String → ZSet} {system : LeaseSystem}
    (run : Transition.Steps (LeaseStep limits) (RenewsMirrored limits)
      (.start clock quota waiting) system) :
    system.CapsHold limits ∧
      ∀ label after, LeaseStep limits system label after →
        (after.CapsHold limits ↔ RenewsMirrored limits system label) := by
  have invariant := run.invariant (LeaseInvariant limits)
    (fun _ _ _ taken mirrored held => held.step taken mirrored) (.start clock quota waiting)
  refine ⟨invariant.capsHold, ?_⟩
  intro label after taken
  refine ⟨?_, fun mirrored => (invariant.step taken mirrored).capsHold⟩
  intro caps
  obtain ⟨now, call⟩ := label
  cases call with
  | renew leaseId =>
    obtain ⟨-, rfl⟩ := taken
    by_contra stray
    exact renewal_unmirrored stray caps
  | admission | release | elapse => trivial

namespace LeaseSystem

def replay (limits : LeaseLimits) (system : LeaseSystem) (calls : List (Int × LeaseCall)) :
    LeaseSystem :=
  calls.foldl (fun current label => current.perform limits label.1 label.2) system

theorem replay_steps {limits : LeaseLimits} {guard : LeaseSystem → Int × LeaseCall → Prop}
    (system : LeaseSystem) (calls : List (Int × LeaseCall))
    (ordered : (system.clock :: calls.map Prod.fst).IsChain (· ≤ ·))
    (guarded : ∀ current label, label ∈ calls → guard current label) :
    Transition.Steps (LeaseStep limits) guard system (system.replay limits calls) := by
  induction calls generalizing system with
  | nil => exact .refl
  | cons label rest ih =>
    rw [List.map_cons, List.isChain_cons_cons] at ordered
    have moved : (system.perform limits label.1 label.2).clock = label.1 := by
      obtain ⟨now, call⟩ := label
      cases call <;> rfl
    refine .head ⟨label, ⟨ordered.1, rfl⟩, guarded _ _ (List.mem_cons_self ..)⟩
      (ih (system.perform limits label.1 label.2) ?_ ?_)
    · rw [moved]
      exact ordered.2
    · exact fun current other later => guarded current other (List.mem_cons_of_mem _ later)

end LeaseSystem

def exampleLimits : LeaseLimits where
  globalLimit := 1
  groupLimit _ := 1
  leaseDurationMs := 60000
  groupOf leaseId := if leaseId = "chat-1" then "chat" else "code"
  durationPositive := by decide

def exampleQuota (eventId : String) : QuotaArgs where
  eventId := eventId
  minuteLimit := 10
  requestWindowSeconds := 0
  requestQuota := 0
  dailyLimit := 0
  monthlyLimit := 0

def idleDownstream : LeaseSystem :=
  .start 0 { requests := .absent, tokens := .absent, tokenValues := .absent } fun _ => .absent

def lateHeartbeat : List (Int × LeaseCall) :=
  [(0, .admission (exampleQuota "event-1") "chat-1"),
    (60000, .admission (exampleQuota "event-2") "code-1"),
    (60001, .renew "chat-1")]

theorem downstream_caps_hold_of_admissions :
    (idleDownstream.replay exampleLimits (lateHeartbeat.take 2)).CapsHold exampleLimits ∧
      (idleDownstream.replay exampleLimits (lateHeartbeat.take 2)).Unexpired "code" "code-1" := by
  refine ⟨(downstream_caps_hold_iff_renewals_mirrored exampleLimits
    (idleDownstream.replay_steps (lateHeartbeat.take 2) (by decide) ?_)).1, 120000, ?_, ?_⟩
  · intro current label admission
    simp only [lateHeartbeat, List.take_succ_cons, List.take_zero, List.mem_cons,
      List.not_mem_nil, or_false] at admission
    rcases admission with rfl | rfl <;> trivial
  · decide +kernel
  · decide +kernel

theorem late_heartbeat_exceeds_global_cap :
    ∃ system, Transition.Steps (LeaseStep exampleLimits) (fun _ _ => True) idleDownstream system ∧
      system.Unexpired "chat" "chat-1" ∧ system.Unexpired "code" "code-1" ∧
      ¬ system.UnexpiredAll "chat-1" ∧ ¬ system.CapsHold exampleLimits := by
  have chat : (idleDownstream.replay exampleLimits lateHeartbeat).Unexpired "chat" "chat-1" :=
    ⟨120001, by decide +kernel, by decide +kernel⟩
  have code : (idleDownstream.replay exampleLimits lateHeartbeat).Unexpired "code" "code-1" :=
    ⟨120000, by decide +kernel, by decide +kernel⟩
  refine ⟨_, idleDownstream.replay_steps lateHeartbeat (by decide) (fun _ _ _ => trivial), chat, code,
    ?_, ?_⟩
  · rintro ⟨score, present, -⟩
    have missing : ((idleDownstream.replay exampleLimits lateHeartbeat).leasesAll.live
        (idleDownstream.replay exampleLimits lateHeartbeat).clock).zscore "chat-1" = none := by
      decide +kernel
    exact absurd (missing.symm.trans present) (by simp)
  · intro caps
    have bounded := caps.global {"chat-1", "code-1"} (by
      intro leaseId chosen
      rcases Finset.mem_insert.mp chosen with rfl | chosen
      · exact ⟨"chat", chat⟩
      · rw [Finset.mem_singleton.mp chosen]
        exact ⟨"code", code⟩)
    exact absurd bounded (by decide)

end ChatGateway
