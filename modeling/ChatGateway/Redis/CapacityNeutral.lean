import ChatGateway.RouteHealth.CapacityNeutral
import ChatGateway.Redis.FinishAtomicity
import ChatGateway.Redis.HealthViews

set_option autoImplicit false

/-!
# Capacity failures in both backends

With the capacity cooldown switched off, the scripts record a capacity failure as an observation:
its hash keeps no cooldown, counts at least one failure and loses its lease. Whether that shows
depends on what the hash was before.
-/

namespace ChatGateway

inductive RedisHealthFailure where
  | finish (lease : RedisHealthLease) (outcome : RouteOutcome)
  | observeRouteFailure (route : RouteHealthKey) (failureClass : RouteFailureClass)
      (retryAfter : Option Duration) (sharedHostFailureDomain : Bool)
  | observeKeyFailure (key : KeyHealthKey) (failureClass : RouteFailureClass)
      (retryAfter : Option Duration)

namespace RedisHealthFailure

def CapacityFailure : RedisHealthFailure → Prop
  | .finish _ (.routeFailure report) | .finish _ (.routeFailureWithRetry report _) =>
    report.failureClass = .rateLimited
  | .finish _ (.keyFailure failureClass) | .finish _ (.keyFailureWithRetry failureClass _) =>
    failureClass = .keyQuota
  | .observeRouteFailure _ failureClass _ _ => failureClass = .rateLimited
  | .observeKeyFailure _ failureClass _ => failureClass = .keyQuota
  | _ => False

def apply (digest : List UInt8 → Nat) (coordinator : RedisCoordinator) (now : Int)
    (store : HealthStore) : RedisHealthFailure → HealthStore
  | .finish lease outcome => (coordinator.finishRouteHealth digest lease outcome now store).2
  | .observeRouteFailure route failureClass retryAfter sharedHostFailureDomain =>
    (coordinator.observeRouteFailure digest route failureClass retryAfter sharedHostFailureDomain
      now store).2
  | .observeKeyFailure key failureClass retryAfter =>
    (coordinator.observeKeyFailure digest key failureClass retryAfter now store).2

end RedisHealthFailure

structure HealthHash.AlreadyNoted (now : Int) (hash : HealthHash) : Prop where
  classed : hash.failureClass.isSome
  counted : 1 ≤ hash.failures
  uncooled : hash.cooldownUntilMs = none
  unprobed : hash.leaseAlive now = false

namespace HealthStore

/-- An observation does not show: the hash already is one, or there is no room for a new hash and
none is evicted. -/
def Absorbs (store : HealthStore) (now : Int) (record : FailureRecord) (slot : StateSlot)
    (evict : HealthStore → String → String → Option HealthStore) : Prop :=
  (∃ hash, store.states slot.stateKey = some hash ∧ hash.AlreadyNoted now) ∨
    store.ensureCapacity record slot evict = (false, store.pruneSlot slot)

/-- Neither side is being reconciled, no probe of the other side ends, and the failing side absorbs
the observation. -/
structure AbsorbsFinish (store : HealthStore) (now ttlSeconds : Int) (failure : FinishFailure) :
    Prop where
  failingSettled : ¬ store.reconciling failure.failing.stateKey
  otherSettled : ¬ store.reconciling failure.other.stateKey
  otherUnprobed : failure.otherGeneration.isSome →
    ∀ hash, store.states failure.other.stateKey = some hash → hash.leaseAlive now = false
  absorbs : (store.releaseHalfOpen now ttlSeconds failure.other failure.otherGeneration).Absorbs now
    failure.record failure.failing evictOne

end HealthStore

def RedisHealthFailure.CapacityKept (digest : List UInt8 → Nat) (coordinator : RedisCoordinator)
    (now : Int) (store : HealthStore) : RedisHealthFailure → Prop
  | .finish lease outcome =>
    let args := coordinator.finishArgs digest lease outcome
    let keys := coordinator.names.slots lease.route lease.key
    let found := store.live now
    found.markers (coordinator.names.finishMarker lease.leaseId) = none →
      found.owns keys.key.stateKey args.leaseId args.keyGeneration →
      found.owns keys.route.stateKey args.leaseId args.routeGeneration →
      ∀ failure, args.failure keys = some failure →
        found.AbsorbsFinish now args.ttlSeconds failure
  | .observeRouteFailure route failureClass retryAfter sharedHostFailureDomain =>
    let slot := coordinator.names.routeSlot route
    (store.live now).Absorbs now
      (coordinator.observedRouteRecord digest route failureClass retryAfter sharedHostFailureDomain)
      slot (HealthStore.evictOneObserved slot)
  | .observeKeyFailure key failureClass retryAfter =>
    let slot := coordinator.names.keySlot key
    (store.live now).Absorbs now
      (coordinator.observedKeyRecord digest key failureClass retryAfter) slot
      (HealthStore.evictOneObserved slot)

/-- No cooldown, no failure count and no answer to concurrent reservations is different, as long
as no hash reaches the end of its retention. -/
structure RedisHealthNeutral (coordinator : RedisCoordinator) (now : Int)
    (before after : HealthStore) : Prop where
  cooldownUntilMs : ∀ key, (after.states key).bind HealthHash.cooldownUntilMs =
    ((before.live now).states key).bind HealthHash.cooldownUntilMs
  failures : ∀ key, ((after.states key).map HealthHash.failures).getD 0 =
    (((before.live now).states key).map HealthHash.failures).getD 0
  reserves : ∀ later, now ≤ later → (before.live now).Fresh later → after.Fresh later →
    ∀ requests, coordinator.reserveAll later requests after =
      coordinator.reserveAll later requests before

structure HashNoted (now : Int) (before after : Option HealthHash) : Prop where
  cooldownUntilMs : after.bind HealthHash.cooldownUntilMs = before.bind HealthHash.cooldownUntilMs
  failures : (after.map HealthHash.failures).getD 0 = (before.map HealthHash.failures).getD 0
  views : ∀ later, now ≤ later →
    after.map (HealthHash.view later) = before.map (HealthHash.view later)

namespace HashNoted

variable {now : Int} {before middle after : Option HealthHash}

theorem refl (now : Int) (entry : Option HealthHash) : HashNoted now entry entry :=
  ⟨rfl, rfl, fun _ _ => rfl⟩

theorem trans (early : HashNoted now before middle) (late : HashNoted now middle after) :
    HashNoted now before after :=
  ⟨late.cooldownUntilMs.trans early.cooldownUntilMs, late.failures.trans early.failures,
    fun later forward => (late.views later forward).trans (early.views later forward)⟩

end HashNoted

theorem HealthHash.leaseAlive_of_le {hash : HealthHash} {now later : Int}
    (dead : hash.leaseAlive now = false) (forward : now ≤ later) :
    hash.leaseAlive later = false := by
  simp only [leaseAlive, Bool.and_eq_false_iff, decide_eq_false_iff_not] at dead ⊢
  rcases dead with unleased | expired
  · exact .inl unleased
  · exact .inr (by omega)

theorem HealthHash.AlreadyNoted.recorded {hash : HealthHash} {now : Int}
    (noted : hash.AlreadyNoted now) (record : FailureRecord) (upstreamIndex : String)
    (generation : Nat) (deadline : Option Int) :
    HashNoted now (some hash)
      (some { hash.recordFailure record upstreamIndex generation (max 1 hash.failures) 0 now with
        expiresAt := deadline }) := by
  refine ⟨?_, ?_, fun later forward => ?_⟩
  · simpa [recordFailure] using noted.uncooled.symm
  · have counted := noted.counted
    simp only [recordFailure, failures, Option.map_some, Option.getD_some] at counted ⊢
    omega
  · have classed := noted.classed
    have dead := leaseAlive_of_le noted.unprobed forward
    have cleared : leaseAlive later
        { hash.recordFailure record upstreamIndex generation (max 1 hash.failures) 0 now with
          expiresAt := deadline } = false := rfl
    simp [view, dead, cleared, noted.uncooled, classed, cooldownUntil]
    simp [recordFailure]

theorem HashNoted.released {hash : HealthHash} {now : Int} (dead : hash.leaseAlive now = false)
    (access deadline : Option Int) :
    HashNoted now (some hash)
      (some { hash.clearLease with lastAccessMs := access, expiresAt := deadline }) := by
  refine ⟨rfl, rfl, fun later forward => ?_⟩
  have shown := hash.view_clearLease later (HealthHash.leaseAlive_of_le dead forward)
  exact congrArg some shown

namespace HealthStore

def Noted (now : Int) (before after : HealthStore) : Prop :=
  ∀ key, HashNoted now (before.states key) (after.states key)

variable {now : Int} {store before middle after : HealthStore}

theorem Noted.of_states (same : after.states = before.states) : Noted now before after := by
  intro key
  rw [same]
  exact .refl now _

theorem Noted.trans (early : Noted now before middle) (late : Noted now middle after) :
    Noted now before after :=
  fun key => (early key).trans (late key)

theorem live_states_later {later : Int} (forward : now ≤ later)
    (fresh : (store.live now).Fresh later) :
    (store.live later).states = (store.live now).states := by
  funext key
  cases found : store.states key with
  | none => simp [live, found]
  | some hash =>
    simp only [live, found, Option.filter_some]
    cases expired : hash.expiresAt.any (· < now) with
    | false =>
      have kept := fresh key hash (by simp [live, found, Option.filter_some, expired])
      rw [kept]
    | true =>
      obtain ⟨deadline, carried, before⟩ := (Option.any_eq_true _ _).mp expired
      have isOver : decide (deadline < later) = true := by
        rw [decide_eq_true_eq] at before ⊢
        omega
      simp [carried, isOver]

theorem Noted.neutral {coordinator : RedisCoordinator} (passed : 0 ≤ now)
    (noted : Noted now (before.live now) after) :
    RedisHealthNeutral coordinator now before after := by
  refine ⟨fun key => (noted key).cooldownUntilMs, fun key => (noted key).failures, ?_⟩
  intro later forward beforeFresh afterFresh requests
  refine coordinator.reserveAll_alike (by omega)
    ⟨live_fresh later _, live_fresh later _, fun key => ?_⟩ requests
  rw [afterFresh.live_states, live_states_later forward beforeFresh]
  exact (noted key).views later forward

theorem pruneSlot_states (store : HealthStore) (slot : StateSlot) :
    (store.pruneSlot slot).states = store.states := rfl

theorem writeFailure_noted {slot : StateSlot} {hash : HealthHash}
    (found : store.states slot.stateKey = some hash) (noted : hash.AlreadyNoted now)
    (record : FailureRecord) (positive : 0 < record.ttlSeconds) :
    Noted now store (store.writeFailure now record slot (max 1 hash.failures) 0) := by
  intro key
  rw [writeFailure, refreshSlot_states _ _ _ positive, hset_states_self, found]
  split
  next same =>
    rw [same, found]
    exact noted.recorded record slot.upstreamIndex _ _
  next different =>
    simp only [hset, putState_states, if_neg different]
    exact .refl now _

theorem releaseHalfOpen_noted {slot : StateSlot} {leaseId : String} {generation : Option Nat}
    {ttlSeconds : Int} (positive : 0 < ttlSeconds)
    (owned : store.owns slot.stateKey leaseId generation)
    (unprobed : generation.isSome →
      ∀ hash, store.states slot.stateKey = some hash → hash.leaseAlive now = false) :
    Noted now store (store.releaseHalfOpen now ttlSeconds slot generation) := by
  cases generation with
  | none => exact .of_states rfl
  | some held =>
    obtain ⟨hash, found, -⟩ := (Option.any_eq_true _ _).mp owned
    intro key
    rw [releaseHalfOpen, refreshSlot_states _ _ _ positive, hset_states_self, hdel_states_self,
      found]
    split
    next same =>
      rw [same, found]
      exact .released (unprobed rfl hash found) _ _
    next different =>
      simp only [hset, hdel, putState_states, if_neg different]
      exact .refl now _

theorem ensureCapacity_of_some {slot : StateSlot} {hash : HealthHash}
    (found : store.states slot.stateKey = some hash) (record : FailureRecord)
    (evict : HealthStore → String → String → Option HealthStore) :
    store.ensureCapacity record slot evict = (true, store) := by
  rw [ensureCapacity, if_pos (by simp [found])]

-- `observe` of the finish script with an observation that is absorbed.
theorem Absorbs.observe {record : FailureRecord} {slot : StateSlot}
    (absorbs : store.Absorbs now record slot evictOne) (observed : record.observationOnly = true)
    (positive : 0 < record.ttlSeconds) (halfOpenProbe repeated : Bool) :
    Noted now store (store.observe now record slot halfOpenProbe repeated).2 := by
  unfold HealthStore.observe
  rcases absorbs with ⟨hash, found, noted⟩ | full
  · simp only [ensureCapacity_of_some found, found, Option.getD_some, finishStep, observed, if_true]
    exact writeFailure_noted found noted record positive
  · simp only [full]
    exact .of_states (store.pruneSlot_states slot)

theorem Absorbs.routeHealthObserve {record : FailureRecord} {slot : StateSlot}
    (absorbs : (store.live now).Absorbs now record slot (evictOneObserved slot))
    (observed : record.observationOnly = true) (unset : record.explicitRetryMs < 0)
    (positive : 0 < record.ttlSeconds) :
    Noted now (store.live now) (routeHealthObserve now record slot store).2 := by
  have free : explicitCooldown record 0 = 0 := if_neg (Int.not_le.mpr unset)
  unfold ChatGateway.routeHealthObserve
  rcases absorbs with ⟨hash, found, noted⟩ | full
  · simp only [ensureCapacity_of_some found, found, Option.getD_some, observeStep, observed,
      if_true, free]
    exact writeFailure_noted found noted record positive
  · simp only [full]
    exact .of_states ((store.live now).pruneSlot_states slot)

theorem AbsorbsFinish.finishOwned {args : FinishArgs} {keys : HealthKeys} {failure : FinishFailure}
    (absorbs : store.AbsorbsFinish now args.ttlSeconds failure)
    (failed : args.failure keys = some failure)
    (keyOwned : store.owns keys.key.stateKey args.leaseId args.keyGeneration)
    (routeOwned : store.owns keys.route.stateKey args.leaseId args.routeGeneration)
    (observed : failure.record.observationOnly = true) (positive : 0 < args.ttlSeconds) :
    Noted now store (store.finishOwned now args keys).2 := by
  obtain ⟨failingSettled, otherSettled, otherUnprobed, absorbed⟩ := absorbs
  unfold FinishArgs.failure at failed
  unfold HealthStore.finishOwned settle
  split at failed <;> cases failed
  next failureClass outcome =>
    have released := releaseHalfOpen_noted positive keyOwned otherUnprobed
    have recorded := absorbed.observe observed positive args.routeGeneration.isSome
      args.repeatWithinRequest
    have recordsIt : (args.routeRecord failureClass).observationOnly = true := observed
    simpa [outcome, failingSettled, otherSettled, failSide, recordsIt] using
      released.trans recorded
  next failureClass outcome =>
    have released := releaseHalfOpen_noted positive routeOwned otherUnprobed
    have recorded := absorbed.observe observed positive args.keyGeneration.isSome false
    have recordsIt : (args.keyRecord failureClass).observationOnly = true := observed
    simpa [outcome, failingSettled, otherSettled, failSide, recordsIt] using
      released.trans recorded
  next => cases observed

theorem routeHealthFinish_noted {args : FinishArgs} {keys : HealthKeys} {markerKey : String}
    {failure : FinishFailure} (failed : args.failure keys = some failure)
    (observed : failure.record.observationOnly = true) (positive : 0 < args.ttlSeconds)
    (absorbs : (store.live now).markers markerKey = none →
      (store.live now).owns keys.key.stateKey args.leaseId args.keyGeneration →
      (store.live now).owns keys.route.stateKey args.leaseId args.routeGeneration →
      (store.live now).AbsorbsFinish now args.ttlSeconds failure) :
    Noted now (store.live now) (routeHealthFinish now args keys markerKey store).2 := by
  unfold routeHealthFinish
  dsimp only
  split
  next => split <;> [skip; split] <;> exact .of_states rfl
  next unmarked =>
    split
    next => exact .of_states rfl
    next accepted =>
      simp only [Bool.or_eq_true, Bool.not_eq_true', not_or, Bool.not_eq_false] at accepted
      have noted := (absorbs unmarked accepted.1 accepted.2).finishOwned failed accepted.1 accepted.2
        observed positive
      split <;> exact noted

end HealthStore

theorem retentionTtlSecondsFor_pos (tuning : RouteHealthTuning) (retryAfter : Option Duration)
    (schedules : List (List Int)) : 0 < retentionTtlSecondsFor tuning retryAfter schedules :=
  lt_of_lt_of_le (routeHealthRetentionTtlSeconds_pos _) (le_max_left _ _)

namespace RedisHealthFailure

variable {digest : List UInt8 → Nat} {coordinator : RedisCoordinator} {now : Int}
  {store : HealthStore}

theorem observeRoute_noted {route : RouteHealthKey} {retryAfter : Option Duration} {shared : Bool}
    (disabled : coordinator.tuning.capacityFailureCooldownEnabled = false)
    (kept : (observeRouteFailure route .rateLimited retryAfter shared).CapacityKept digest
      coordinator now store) :
    HealthStore.Noted now (store.live now)
      ((observeRouteFailure route .rateLimited retryAfter shared).apply digest coordinator now
        store) := by
  have observed : isCapacityClass .rateLimited &&
      !coordinator.tuning.capacityFailureCooldownEnabled := by
    rw [disabled]
    rfl
  have absorbs : (store.live now).Absorbs now _ _ _ := kept
  simp only [RedisCoordinator.observedRouteRecord, if_pos observed] at absorbs
  have noted := absorbs.routeHealthObserve rfl (Int.negSucc_lt_zero 0)
    (retentionTtlSecondsFor_pos _ _ _)
  simp only [apply, RedisCoordinator.observeRouteFailure, RedisCoordinator.observedRouteRecord,
    if_pos observed]
  exact noted

theorem observeKey_noted {key : KeyHealthKey} {retryAfter : Option Duration}
    (disabled : coordinator.tuning.capacityFailureCooldownEnabled = false)
    (kept : (observeKeyFailure key .keyQuota retryAfter).CapacityKept digest coordinator now
      store) :
    HealthStore.Noted now (store.live now)
      ((observeKeyFailure key .keyQuota retryAfter).apply digest coordinator now store) := by
  have observed : isCapacityClass .keyQuota &&
      !coordinator.tuning.capacityFailureCooldownEnabled := by
    rw [disabled]
    rfl
  have absorbs : (store.live now).Absorbs now _ _ _ := kept
  simp only [RedisCoordinator.observedKeyRecord, if_pos observed] at absorbs
  have noted := absorbs.routeHealthObserve rfl (Int.negSucc_lt_zero 0)
    (retentionTtlSecondsFor_pos _ _ _)
  simp only [apply, RedisCoordinator.observeKeyFailure, RedisCoordinator.observedKeyRecord,
    if_pos observed]
  exact noted

theorem capacityFailure_noted {failure : RedisHealthFailure} (capacity : failure.CapacityFailure)
    (disabled : coordinator.tuning.capacityFailureCooldownEnabled = false)
    (kept : failure.CapacityKept digest coordinator now store) :
    HealthStore.Noted now (store.live now) (failure.apply digest coordinator now store) := by
  unfold CapacityFailure at capacity
  split at capacity
  case h_1 lease report | h_2 lease report _ =>
    refine HealthStore.routeHealthFinish_noted rfl ?_ (retentionTtlSecondsFor_pos _ _ _)
      fun unmarked keyOwned routeOwned => kept unmarked keyOwned routeOwned _ rfl
    simp [FinishArgs.routeRecord, FinishArgs.record, RedisCoordinator.finishArgs,
      RedisCoordinator.routeObservationOnly, routeOutcomeParts, FinishOutcome.failureClass,
      capacity, isCapacityClass, disabled]
  case h_3 lease failureClass | h_4 lease failureClass _ =>
    refine HealthStore.routeHealthFinish_noted rfl ?_ (retentionTtlSecondsFor_pos _ _ _)
      fun unmarked keyOwned routeOwned => kept unmarked keyOwned routeOwned _ rfl
    simp [FinishArgs.keyRecord, FinishArgs.record, RedisCoordinator.finishArgs,
      RedisCoordinator.keyObservationOnly, routeOutcomeParts, FinishOutcome.failureClass,
      capacity, isCapacityClass, disabled]
  case h_5 =>
    subst capacity
    exact observeRoute_noted disabled kept
  case h_6 =>
    subst capacity
    exact observeKey_noted disabled kept
  case h_7 => exact capacity.elim

end RedisHealthFailure

/-- With the capacity cooldown off, a capacity failure is neutral in every run of the local registry
and in every store, when it disturbs no other entry and, in a store, finds its observation made. -/
theorem capacity_failures_neutral_of_kept (digest : List UInt8 → Nat) :
    (∀ (system : HealthSystem) (operation : HealthOperation) (now : Instant),
      system.Reachable digest → system.now ≤ now → operation.LeaseIssued system.leases →
      operation.CapacityFailure →
      system.registry.tuning.capacityFailureCooldownEnabled = false →
      system.registry.CapacityKept now operation →
        HealthNeutral now system.registry (system.perform digest operation now).registry) ∧
    ∀ (coordinator : RedisCoordinator) (store : HealthStore) (failure : RedisHealthFailure)
      (now : Int), 0 ≤ now → failure.CapacityFailure →
      coordinator.tuning.capacityFailureCooldownEnabled = false →
      failure.CapacityKept digest coordinator now store →
        RedisHealthNeutral coordinator now store (failure.apply digest coordinator now store) := by
  refine ⟨?_, ?_⟩
  · intro system operation now reachable forward issued failure disabled kept
    exact capacityFailure_neutral reachable forward issued failure disabled kept
  · intro coordinator store failure now passed capacity disabled kept
    exact (RedisHealthFailure.capacityFailure_noted capacity disabled kept).neutral passed

section Examples

def exampleCoordinator : RedisCoordinator where
  names := plainNames
  tuning := RouteHealthSettings.default.normalize

def exampleRateLimit : RedisHealthFailure :=
  .observeRouteFailure exampleRoute .rateLimited none false

/-- The store on which `exampleRoute` was rate limited once. -/
def notedStore : HealthStore :=
  exampleRateLimit.apply (fun _ => 0) exampleCoordinator 1000 .empty

/-- The store on which `exampleRoute` failed once. -/
def cooledStore : HealthStore :=
  (exampleCoordinator.observeRouteFailure (fun _ => 0) exampleRoute .transientServer none false 1000
    .empty).2

def exampleRequest (leaseId : String) : HealthRequest := ⟨exampleRoute, exampleKey, leaseId⟩

theorem cooledSystem_keeps :
    cooledSystem.registry.RouteKeepsOthers exampleRoute (Duration.fromSecs 1) := by
  intro room made
  have held : (cooledSystem.registry.routes.lookup exampleRoute).isSome := by decide +kernel
  unfold RouteHealthRegistry.ensureRouteCapacity at made
  rw [if_pos held] at made
  exact congrArg RouteHealthRegistry.routes (Option.some.inj made).symm

theorem notedStore_absorbs :
    exampleRateLimit.CapacityKept (fun _ => 0) exampleCoordinator 2000 notedStore := by
  have found : ((notedStore.live 2000).states (plainNames.routeState exampleRoute)).any
      fun hash => hash.failureClass.isSome && decide (1 ≤ hash.failures) &&
        hash.cooldownUntilMs.isNone && !hash.leaseAlive 2000 := by
    decide +kernel
  obtain ⟨hash, present, noted⟩ := (Option.any_eq_true _ _).mp found
  simp only [Bool.and_eq_true, decide_eq_true_eq, Option.isNone_iff_eq_none,
    Bool.not_eq_true'] at noted
  exact .inl ⟨hash, present, noted.1.1.1, noted.1.1.2, noted.1.2, noted.2⟩

/-- A failed route stays as it is locally, and a rate-limited one in Redis, when it is rate limited
again. -/
theorem capacity_failures_neutral_of_repeated :
    HealthNeutral (Duration.fromSecs 1) cooledSystem.registry
        (cooledSystem.perform (fun _ => 0)
          (.observeRouteFailure exampleRoute .rateLimited none false)
          (Duration.fromSecs 1)).registry ∧
      RedisHealthNeutral exampleCoordinator 2000 notedStore
        (exampleRateLimit.apply (fun _ => 0) exampleCoordinator 2000 notedStore) := by
  obtain ⟨localNeutral, redisNeutral⟩ := capacity_failures_neutral_of_kept fun _ => 0
  refine ⟨?_, ?_⟩
  · exact localNeutral cooledSystem _ _ cooledSystem_reachable (Nat.zero_le _) trivial rfl
      (by decide +kernel) cooledSystem_keeps
  · exact redisNeutral exampleCoordinator notedStore exampleRateLimit 2000 (by decide) rfl
      (by decide +kernel) notedStore_absorbs

/-- The first rate limit makes a free route single flight, and it ends the cooldown of a failed
one. -/
theorem first_rate_limit_is_not_neutral :
    (exampleCoordinator.reserveAll 1000 [exampleRequest "1", exampleRequest "2"] .empty =
        [.ready false, .ready false] ∧
      exampleCoordinator.reserveAll 1000 [exampleRequest "1", exampleRequest "2"] notedStore =
        [.ready true, .halfOpenBusy]) ∧
      (exampleCoordinator.reserveAll 2000 [exampleRequest "1"] cooledStore =
          [.cooling (Duration.fromMillis 3000)] ∧
        exampleCoordinator.reserveAll 2000 [exampleRequest "1"]
            (exampleRateLimit.apply (fun _ => 0) exampleCoordinator 2000 cooledStore) =
          [.ready true]) ∧
      exampleRateLimit.CapacityFailure ∧
      exampleCoordinator.tuning.capacityFailureCooldownEnabled = false ∧
      ¬ RedisHealthNeutral exampleCoordinator 1000 .empty notedStore ∧
      ¬ RedisHealthNeutral exampleCoordinator 2000 cooledStore
        (exampleRateLimit.apply (fun _ => 0) exampleCoordinator 2000 cooledStore) := by
  refine ⟨by decide +kernel, by decide +kernel, rfl, by decide +kernel, fun neutral => ?_,
    fun neutral => ?_⟩
  · exact absurd (neutral.failures (plainNames.routeState exampleRoute)) (by decide +kernel)
  · exact absurd (neutral.cooldownUntilMs (plainNames.routeState exampleRoute)) (by decide +kernel)

end Examples

end ChatGateway
