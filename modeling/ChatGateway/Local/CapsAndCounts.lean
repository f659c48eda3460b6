import ChatGateway.Local.LeaseRuns

set_option autoImplicit false

/-!
# Caps and counts of the local concurrency gate

In every run the buckets keep their caps, the counters can be read, and a lease is counted in its
own bucket from the time it is admitted until it is given back, lapses or is cleared away.
-/

namespace ChatGateway

namespace DownstreamRuntime

variable {runtime : DownstreamRuntime}

theorem consistent_of_mem (consistent : ∀ key, (runtime.bucket key).Consistent)
    {entry : (_ : DownstreamLeaseKey) × DownstreamLeaseState} (stored : entry ∈ runtime.entries) :
    entry.2.Consistent := by
  have found : runtime.lookup entry.1 = some entry.2 := AList.mem_lookup_iff.2 stored
  have known := consistent entry.1
  rwa [runtime.bucket_of_lookup entry.1 found] at known

theorem addLeases_le {entries : List ((_ : DownstreamLeaseKey) × DownstreamLeaseState)}
    (consistent : ∀ entry ∈ entries, entry.2.Consistent) {counts : Nat × Nat}
    (ordered : counts.2 ≤ counts.1) :
    (entries.foldl (fun counts entry => addLeases counts entry.2) counts).2 ≤
      (entries.foldl (fun counts entry => addLeases counts entry.2) counts).1 := by
  induction entries generalizing counts with
  | nil => exact ordered
  | cons entry rest ih =>
    refine ih (fun other behind => consistent other (List.mem_cons_of_mem _ behind)) ?_
    have less := DownstreamLeaseState.waiting_card_le (consistent entry List.mem_cons_self)
    simp only [addLeases, saturatingAdd32]
    omega

theorem countLeases_le (consistent : ∀ key, (runtime.bucket key).Consistent) (downstreamId : String) :
    (runtime.countLeases downstreamId).2 ≤ (runtime.countLeases downstreamId).1 :=
  addLeases_le (fun _ kept => consistent_of_mem consistent (List.mem_filter.1 kept).1) le_rfl

theorem snapshot_isSome (consistent : ∀ key, (runtime.bucket key).Consistent)
    (clock : DownstreamLeaseKey → Nat) (downstreamId : String) :
    (runtime.snapshot clock downstreamId).1.isSome := by
  have pruned : ∀ key, ((runtime.pruneDownstream clock downstreamId).bucket key).Consistent :=
    fun key => ((shrinks_pruneDownstream clock downstreamId).buckets key).consistent (consistent key)
  rw [snapshot, checkedCounts, if_pos (countLeases_le pruned downstreamId)]
  rfl

end DownstreamRuntime

namespace DownstreamLeaseState

variable {state : DownstreamLeaseState} {leaseId : String} {expiresAt : Nat}

theorem pruneExpired_lookup (now : Nat) :
    (state.pruneExpired now).admitted.lookup leaseId =
      (state.admitted.lookup leaseId).filter fun expiresAt => now < expiresAt :=
  Table.lookup_retain _ _ _

theorem kept_or_lapsed (admitted : state.admitted.lookup leaseId = some expiresAt) (now : Nat) :
    (state.pruneExpired now).admitted.lookup leaseId = some expiresAt ∨ expiresAt ≤ now := by
  rw [pruneExpired_lookup, admitted]
  by_cases ahead : now < expiresAt
  · exact .inl (by simp [ahead])
  · exact .inr (Nat.not_lt.1 ahead)

theorem mem_of_lookup (admitted : state.admitted.lookup leaseId = some expiresAt) :
    leaseId ∈ state.admitted :=
  AList.lookup_isSome.1 (admitted ▸ rfl)

end DownstreamLeaseState

namespace LocalLeaseOp

def Ends (key : DownstreamLeaseKey) (leaseId : String) (expiresAt : Nat) : LocalLeaseOp → Prop
  | reserve downstream _ _ clock _ _ =>
    key.downstreamId = downstream.id ∧ (expiresAt ≤ clock.groupPrune ∨ expiresAt ≤ clock.prune)
  | removeLease lease => lease.leaseId = some leaseId
  | markWaiting lease now => lease.key = key ∧ expiresAt ≤ now
  | snapshot clock downstreamId => key.downstreamId = downstreamId ∧ expiresAt ≤ clock key
  | allSnapshots now _ => expiresAt ≤ now
  | clear downstreamId => key.downstreamId = downstreamId
  | renew _ _ _ | acquireRelease _ | completeRelease _ | dropGuard _ | unmarkWaiting _ => False

end LocalLeaseOp

namespace DownstreamRuntime

variable {runtime : DownstreamRuntime} {key other : DownstreamLeaseKey} {leaseId : String}
  {expiresAt : Nat}

theorem kept_by_insert {state : DownstreamLeaseState}
    (admitted : leaseId ∈ (runtime.bucket other).admitted)
    (kept : other = key → leaseId ∈ state.admitted) :
    leaseId ∈ (bucket (runtime.insert key state) other).admitted := by
  rw [bucket_insert]
  split
  next same => exact kept same
  next => exact admitted

theorem kept_by_pruneGroup (key : DownstreamLeaseKey)
    (admitted : (runtime.bucket other).admitted.lookup leaseId = some expiresAt) (now : Nat)
    (group : Option ModelConcurrencyGroup) :
    ((runtime.pruneGroup now key group).bucket other).admitted.lookup leaseId = some expiresAt ∨
      (other = key ∧ expiresAt ≤ now) := by
  rw [bucket_pruneGroup]
  split
  next own =>
    rw [own.1] at admitted
    exact (DownstreamLeaseState.kept_or_lapsed admitted now).imp_right fun lapsed => ⟨own.1, lapsed⟩
  next => exact .inl admitted

theorem kept_by_admitLease (key : DownstreamLeaseKey)
    (admitted : (runtime.bucket other).admitted.lookup leaseId = some expiresAt)
    (clock : ReserveClock) (ttlSeconds : Nat) (newId : String) :
    leaseId ∈ ((runtime.admitLease clock ttlSeconds newId key).bucket other).admitted ∨
      (other = key ∧ expiresAt ≤ clock.prune) := by
  rw [admitLease, bucket_insert]
  split
  next own =>
    subst own
    rcases DownstreamLeaseState.kept_or_lapsed admitted clock.prune with kept | lapsed
    next =>
      exact .inl (DownstreamLeaseState.admit_admitted.2
        (.inr (DownstreamLeaseState.mem_of_lookup kept)))
    next => exact .inr ⟨rfl, lapsed⟩
  next => exact .inl (DownstreamLeaseState.mem_of_lookup admitted)

theorem kept_by_renew (admitted : leaseId ∈ (runtime.bucket other).admitted) (now ttlSeconds : Nat)
    (renewedId : String) :
    leaseId ∈ ((runtime.renew now ttlSeconds key renewedId).bucket other).admitted := by
  rw [renew]
  cases found : runtime.lookup key with
  | none => exact admitted
  | some state =>
    dsimp only
    split
    next =>
      refine kept_by_insert admitted ?_
      rintro rfl
      rw [runtime.bucket_of_lookup other found] at admitted
      exact DownstreamLeaseState.admit_admitted.2 (.inr admitted)
    next => exact admitted

theorem kept_by_unmarkWaiting (admitted : leaseId ∈ (runtime.bucket other).admitted)
    (waitingId : String) :
    leaseId ∈ ((runtime.unmarkWaiting key waitingId).bucket other).admitted := by
  rw [unmarkWaiting]
  cases found : runtime.lookup key with
  | none => exact admitted
  | some state =>
    refine kept_by_insert admitted ?_
    rintro rfl
    rwa [runtime.bucket_of_lookup other found] at admitted

theorem kept_by_release (admitted : leaseId ∈ (runtime.bucket other).admitted) (goneId : String) :
    leaseId ∈ ((runtime.release key goneId).2.bucket other).admitted ∨ leaseId = goneId := by
  by_cases same : leaseId = goneId
  · exact .inr same
  · refine .inl ?_
    rw [release]
    cases found : runtime.lookup key with
    | none => exact admitted
    | some state =>
      have removed : other = key → leaseId ∈ (state.remove goneId).admitted := by
        rintro rfl
        rw [runtime.bucket_of_lookup other found] at admitted
        exact DownstreamLeaseState.remove_admitted.2 ⟨same, admitted⟩
      dsimp only
      split
      next empty =>
        rw [bucket_erase]
        split
        next own =>
          -- the bucket is dropped only when no lease is left in it
          have left := removed own
          have nothing : (state.remove goneId).admitted.entries = [] := by
            simpa using (Bool.and_eq_true_iff.1 empty).1
          simp [AList.mem_keys, AList.keys, nothing] at left
        next => exact admitted
      next => exact kept_by_insert admitted removed

theorem kept_by_markWaiting
    (admitted : (runtime.bucket other).admitted.lookup leaseId = some expiresAt) (now : Nat)
    (waitingId : String) :
    leaseId ∈ ((runtime.markWaiting now key waitingId).2.bucket other).admitted ∨
      (key = other ∧ expiresAt ≤ now) := by
  rw [markWaiting]
  cases found : runtime.lookup key with
  | none => exact .inl (DownstreamLeaseState.mem_of_lookup admitted)
  | some state =>
    by_cases lapsed : key = other ∧ expiresAt ≤ now
    · exact .inr lapsed
    · refine .inl ?_
      have pruned : other = key → leaseId ∈ (state.pruneExpired now).admitted := by
        rintro rfl
        rw [runtime.bucket_of_lookup other found] at admitted
        rcases DownstreamLeaseState.kept_or_lapsed admitted now with kept | isOver
        next => exact DownstreamLeaseState.mem_of_lookup kept
        next => exact absurd ⟨rfl, isOver⟩ lapsed
      have present := DownstreamLeaseState.mem_of_lookup admitted
      dsimp only
      split
      next => exact kept_by_insert present pruned
      next => exact kept_by_insert present pruned

end DownstreamRuntime

namespace LocalLeases

variable {configs : String → DownstreamConfig} {state : LocalLeases}

theorem Step.kept {before after : LocalLeases} {op : LocalLeaseOp} {key : DownstreamLeaseKey}
    {leaseId : String} {expiresAt : Nat} (taken : Step configs before op after)
    (admitted : (before.runtime.bucket key).admitted.lookup leaseId = some expiresAt) :
    leaseId ∈ (after.runtime.bucket key).admitted ∨ op.Ends key leaseId expiresAt := by
  obtain ⟨-, rfl⟩ := taken
  have present := DownstreamLeaseState.mem_of_lookup admitted
  -- a lease without limits has no bucket to change
  have onBucket : ∀ (lease : DownstreamConcurrencyLease) change (Ended : String → Prop),
      (∀ id, lease.leaseId = some id →
        leaseId ∈ ((change lease.key id).bucket key).admitted ∨ Ended id) →
      leaseId ∈ ((onLease lease before.runtime change).bucket key).admitted ∨
        ∃ id, lease.leaseId = some id ∧ Ended id := by
    intro lease change Ended kept
    rw [onLease]
    split
    next => exact .inl present
    next id named => exact (kept id named).imp_right fun ended => ⟨id, named, ended⟩
  cases op with
  | reserve downstream model caseInsensitive clock ttlSeconds newId =>
    have pruned := DownstreamRuntime.kept_by_pruneGroup
      ⟨downstream.id, leaseGroupName (downstream.concurrencyGroupForModel model caseInsensitive)⟩
      admitted clock.groupPrune (downstream.concurrencyGroupForModel model caseInsensitive)
    rcases reserve_cases before downstream model caseInsensitive clock ttlSeconds newId with
      ⟨lease, -, -, reserved⟩ | ⟨rejection, reserved⟩ | ⟨-, -, lease, -, -, -, reserved⟩
    · rw [apply, reserved]
      exact .inl present
    · rw [apply, reserved]
      rcases pruned with kept | ⟨rfl, lapsed⟩
      · exact .inl (DownstreamLeaseState.mem_of_lookup kept)
      · exact .inr ⟨rfl, .inl lapsed⟩
    · rw [apply, reserved]
      rcases pruned with kept | ⟨rfl, lapsed⟩
      · rcases DownstreamRuntime.kept_by_admitLease ⟨downstream.id, leaseGroupName
            (downstream.concurrencyGroupForModel model caseInsensitive)⟩ kept clock ttlSeconds newId
          with kept | ⟨rfl, lapsed⟩
        · exact .inl kept
        · exact .inr ⟨rfl, .inr lapsed⟩
      · exact .inr ⟨rfl, .inl lapsed⟩
  | renew lease now ttlSeconds =>
    rcases onBucket lease _ (fun _ => False) fun id _ => .inl
      (DownstreamRuntime.kept_by_renew present now ttlSeconds id) with kept | ⟨_, _, ⟨⟩⟩
    exact .inl kept
  | acquireRelease lease => exact .inl present
  | removeLease lease =>
    refine (onBucket lease _ (fun id => leaseId = id) fun id _ => ?_).imp_right ?_
    · exact DownstreamRuntime.kept_by_release present id
    · rintro ⟨id, named, rfl⟩
      exact named
  | completeRelease lease => exact .inl present
  | dropGuard lease => exact .inl present
  | markWaiting lease now =>
    refine (onBucket lease _ (fun _ => lease.key = key ∧ expiresAt ≤ now) fun id _ => ?_).imp_right ?_
    · exact DownstreamRuntime.kept_by_markWaiting admitted now id
    · rintro ⟨_, _, lapsed⟩
      exact lapsed
  | unmarkWaiting lease =>
    rcases onBucket lease _ (fun _ => False) fun id _ => .inl
      (DownstreamRuntime.kept_by_unmarkWaiting present id) with kept | ⟨_, _, ⟨⟩⟩
    exact .inl kept
  | snapshot clock downstreamId =>
    change leaseId ∈ ((before.runtime.pruneDownstream clock downstreamId).bucket key).admitted ∨ _
    rw [DownstreamRuntime.bucket_pruneDownstream]
    split
    next own =>
      exact (DownstreamLeaseState.kept_or_lapsed admitted (clock key)).imp
        DownstreamLeaseState.mem_of_lookup fun lapsed => ⟨own.1, lapsed⟩
    next => exact .inl present
  | allSnapshots now downstreamIds =>
    change leaseId ∈ ((before.runtime.pruneAll now).bucket key).admitted ∨ _
    rw [DownstreamRuntime.bucket_pruneAll]
    exact (DownstreamLeaseState.kept_or_lapsed admitted now).imp_left
      DownstreamLeaseState.mem_of_lookup
  | clear downstreamId =>
    change leaseId ∈ ((before.runtime.clear downstreamId).bucket key).admitted ∨ _
    rw [DownstreamRuntime.bucket_clear]
    split
    next own => exact .inr own
    next => exact .inl present

theorem Sound.validated_group (sound : state.Sound configs) {downstreamId : String}
    (valid : (configs downstreamId).validateModelConcurrencyGroups = .ok ())
    {group : ModelConcurrencyGroup} (known : group ∈ (configs downstreamId).modelConcurrencyGroups) :
    (state.runtime.bucket ⟨downstreamId, group.name⟩).held ≤ max group.maxConcurrency 1 := by
  by_cases empty : (state.runtime.bucket ⟨downstreamId, group.name⟩).held = 0
  · rw [empty]
    exact Nat.zero_le _
  · have named := (DownstreamConfig.group_of_name valid known known rfl).1
    obtain ⟨other, also, same, within⟩ := sound.groupCap ⟨downstreamId, group.name⟩ named empty
    rwa [(DownstreamConfig.group_of_name valid known also same).2] at within

theorem Sound.admitted_once (sound : state.Sound configs) {downstream : DownstreamConfig}
    {model : Text} {caseInsensitive : Bool} {clock : ReserveClock} {ttlSeconds : Nat}
    {leaseId : String} {lease : DownstreamConcurrencyLease}
    (enabled : state.Enabled configs
      (.reserve downstream model caseInsensitive clock ttlSeconds leaseId))
    (reserved : (state.reserve downstream model caseInsensitive clock ttlSeconds leaseId).1 =
      .ok lease) (limited : lease.leaseId.isSome) (key : DownstreamLeaseKey) :
    leaseId ∈ ((state.reserve downstream model caseInsensitive clock ttlSeconds
      leaseId).2.runtime.bucket key).admitted ↔ key = lease.key := by
  have after := sound.reserve enabled.1 enabled.2 model caseInsensitive clock ttlSeconds
  rcases reserve_cases state downstream model caseInsensitive clock ttlSeconds leaseId with
    ⟨other, unlimited, -, outcome⟩ | ⟨rejection, outcome⟩ |
      ⟨-, -, other, own, named, cell, outcome⟩ <;> rw [outcome] at reserved after ⊢
  · obtain rfl := Except.ok.inj reserved
    rw [unlimited] at limited
    cases limited
  · cases reserved
  · obtain rfl := Except.ok.inj reserved
    constructor
    · intro admitted
      exact after.own_bucket (List.mem_append_right _ (List.mem_singleton.2 rfl)) named admitted
    · rintro rfl
      rw [own, DownstreamRuntime.admitLease, DownstreamRuntime.bucket_insert, if_pos rfl]
      exact DownstreamLeaseState.admit_admitted.2 (.inl rfl)

end LocalLeases

/-- The caps hold, the counters can be read, every lease is in one bucket, which it leaves only by
its release, its lapse or a cleared downstream, and what was given back never counts again. -/
theorem local_caps_and_counts_hold {configs : String → DownstreamConfig} {state : LocalLeases}
    (reachable : state.Reachable configs) :
    (∀ key, key.groupName ≠ "" → (state.runtime.bucket key).held ≠ 0 →
      LocalLeases.WithinGroupCap (configs key.downstreamId) key.groupName
        (state.runtime.bucket key).held) ∧
    (∀ downstreamId, (configs downstreamId).validateModelConcurrencyGroups = .ok () →
      ∀ group ∈ (configs downstreamId).modelConcurrencyGroups,
        (state.runtime.bucket ⟨downstreamId, group.name⟩).held ≤ max group.maxConcurrency 1) ∧
    (∀ downstreamId, downstreamTotalAdmitted state.runtime downstreamId ≤
      max (configs downstreamId).maxConcurrency 1) ∧
    (∀ key, ∀ leaseId ∈ (state.runtime.bucket key).waiting,
      leaseId ∈ (state.runtime.bucket key).admitted) ∧
    (∀ clock downstreamId, (state.runtime.snapshot clock downstreamId).1.isSome) ∧
    (∀ downstream model caseInsensitive clock ttlSeconds leaseId lease,
      state.Enabled configs (.reserve downstream model caseInsensitive clock ttlSeconds leaseId) →
      (state.reserve downstream model caseInsensitive clock ttlSeconds leaseId).1 = .ok lease →
      lease.leaseId.isSome → ∀ key,
        leaseId ∈ ((state.reserve downstream model caseInsensitive clock ttlSeconds
          leaseId).2.runtime.bucket key).admitted ↔ key = lease.key) ∧
    (∀ lease ∈ state.issued, ∀ leaseId, lease.leaseId = some leaseId → ∀ key,
      leaseId ∈ (state.runtime.bucket key).admitted → key = lease.key) ∧
    (∀ op after, LocalLeases.Step configs state op after → ∀ key leaseId expiresAt,
      (state.runtime.bucket key).admitted.lookup leaseId = some expiresAt →
        leaseId ∈ (after.runtime.bucket key).admitted ∨ op.Ends key leaseId expiresAt) ∧
    (∀ later, LocalLeases.Later configs state later → ∀ lease ∈ state.issued,
      (state.cells lease.releaseCell).IsOver → ∀ leaseId, lease.leaseId = some leaseId → ∀ key,
        leaseId ∉ (later.runtime.bucket key).admitted) := by
  have sound := reachable.sound
  refine ⟨sound.groupCap, ?_, sound.totalCap, sound.consistent, ?_, ?_, ?_, ?_, ?_⟩
  · intro downstreamId valid group known
    exact sound.validated_group valid known
  · exact DownstreamRuntime.snapshot_isSome sound.consistent
  · intro downstream model caseInsensitive clock ttlSeconds leaseId lease enabled reserved limited
    exact sound.admitted_once enabled reserved limited
  · intro lease known leaseId named key admitted
    exact sound.own_bucket known named admitted
  · intro op after taken key leaseId expiresAt admitted
    exact taken.kept admitted
  · intro later run lease known isOver leaseId named key
    obtain ⟨still, gone⟩ := LocalLeases.Later.isOver run known isOver
    exact (sound.later run).absent_of_over still gone named key

namespace LocalLeases

def onlyOne (downstreamId : String) : DownstreamConfig :=
  { id := downstreamId, maxConcurrency := 1 }

def firstReserve : LocalLeaseOp :=
  .reserve (onlyOne "key") [] false (.at 0) 300 "lease"

def oneLease : LocalLeases :=
  LocalLeases.apply {} firstReserve

theorem oneLease_reachable : oneLease.Reachable onlyOne := by
  refine Relation.ReflTransGen.single ⟨firstReserve, ⟨⟨rfl, ?_⟩, rfl⟩, trivial⟩
  intro lease known
  cases known

end LocalLeases

theorem local_caps_hold_with_one_lease :
    (LocalLeases.oneLease.runtime.bucket ⟨"key", ""⟩).held = 1 ∧
      downstreamTotalAdmitted LocalLeases.oneLease.runtime "key" ≤ 1 :=
  ⟨by decide +kernel,
    (local_caps_and_counts_hold LocalLeases.oneLease_reachable).2.2.1 "key"⟩

end ChatGateway
