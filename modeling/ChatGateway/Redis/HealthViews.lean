import ChatGateway.RouteHealth.Views
import ChatGateway.Redis.HealthCoordinator
import ChatGateway.Redis.HealthGates

set_option autoImplicit false

/-!
# What the reserve script sees of a hash

The counterpart of the views of the local registry: stores whose hashes show the same views give
the same kinds of answers from then on.
-/

namespace ChatGateway

def HealthReply.kind : HealthReply → AnswerKind
  | .ready _ _ _ halfOpen => .ready halfOpen
  | .cooling _ retryMs _ => .cooling (Duration.fromMillis retryMs.toNat)
  | .halfOpenBusy _ _ _ => .halfOpenBusy

theorem parseRouteHealthReservation_kind (reply : HealthReply) (route : RouteHealthKey)
    (key : KeyHealthKey) (leaseId : String) :
    (parseRouteHealthReservation reply route key leaseId).kind RedisHealthLease.halfOpen =
      reply.kind := by
  cases reply <;> rfl

structure HashView where
  classed : Bool
  cooldownUntil : Int
  /-- The deadlines of a lease that has not expired. -/
  lease : Option (Int × Int)
  /-- A saturation with a cooldown but without a status. -/
  statusless : Bool
  deriving DecidableEq, Repr

namespace HashView

def refusal (now : Int) (view : HashView) : Option AnswerKind :=
  if view.classed then
    if view.cooldownUntil > now then
      some (.cooling (Duration.fromMillis (max 1 (view.cooldownUntil - now)).toNat))
    else if view.lease.any fun lease => now < lease.2 then some .halfOpenBusy
    else none
  else none

def grantable (view : HashView) : Bool :=
  view.lease.isNone && view.classed

def legacyAdmission (now legacyThresholdMs : Int) (view : HashView) : Bool :=
  view.statusless && view.cooldownUntil - now > legacyThresholdMs

end HashView

namespace HealthHash

def view (now : Int) (hash : HealthHash) : HashView where
  classed := hash.failureClass.isSome
  cooldownUntil := hash.cooldownUntil
  lease :=
    if hash.leaseAlive now then some (hash.leaseExpiresAt, hash.halfOpenExclusiveUntilMs.getD 0)
    else none
  statusless :=
    hash.failureClass == some .concurrencySaturated && hash.status == "" &&
      hash.cooldownUntilMs.isSome

variable (now : Int) (hash : HealthHash)

theorem view_refusal : (hash.refusal now).map HealthReply.kind = (hash.view now).refusal now := by
  unfold refusal HashView.refusal view
  cases hash.failureClass with
  | none => rfl
  | some failureClass =>
    by_cases cooling : hash.cooldownUntil > now
    · simp [cooling, HealthReply.kind]
    · cases alive : hash.leaseAlive now with
      | false => simp [cooling]
      | true =>
        by_cases exclusive : now < hash.halfOpenExclusiveUntilMs.getD 0 <;>
          simp [cooling, exclusive, HealthReply.kind]

theorem clearLease_leaseAlive : hash.clearLease.leaseAlive now = false := rfl

theorem view_clearLease (dead : hash.leaseAlive now = false) :
    hash.clearLease.view now = hash.view now := by
  simp only [view, dead, clearLease_leaseAlive]
  rfl

theorem unblock_view : (hash.unblock now).view now = hash.view now := by
  unfold unblock
  split
  next isOver =>
    simp only [Bool.and_eq_true, decide_eq_true_eq] at isOver
    have dead : hash.leaseAlive now = false := by
      simp [leaseAlive, Int.not_lt.mpr isOver.2]
    exact hash.view_clearLease now dead
  next => rfl

theorem view_grantable : hash.grantable now = (hash.view now).grantable := by
  have dead : HealthStore.canGrant hash now = !hash.leaseAlive now := by
    unfold HealthStore.canGrant leaseAlive
    cases hash.activeLease with
    | none => rfl
    | some lease =>
      rw [Bool.eq_iff_iff]
      simp
  unfold grantable HashView.grantable view
  rw [dead]
  cases hash.leaseAlive now <;> rfl

theorem touched_view (ttlSeconds : Int) : (hash.touched now ttlSeconds).view now = hash.view now :=
  rfl

theorem granted_view (args : ReserveArgs) :
    (hash.granted now args).view now =
      if (hash.view now).grantable then
        { hash.view now with
          lease :=
            if args.leaseId ≠ "" ∧ now < now + args.leaseDurationMs then
              some (now + args.leaseDurationMs, now + args.exclusiveWindowMs)
            else none }
      else hash.view now := by
  unfold granted
  rw [view_grantable]
  split
  next =>
    by_cases named : args.leaseId = "" <;>
      by_cases lasting : now < now + args.leaseDurationMs <;>
      simp [view, leaseAlive, activeLease, leaseExpiresAt, cooldownUntil, status,
        HealthStore.writeLease, Option.filter_some, named, lasting]
  next => rfl

theorem view_legacyAdmission {legacyThresholdMs : Int} (passed : 0 ≤ now)
    (threshold : 0 ≤ legacyThresholdMs) :
    hash.legacyAdmission now legacyThresholdMs =
      (hash.view now).legacyAdmission now legacyThresholdMs := by
  unfold legacyAdmission HashView.legacyAdmission view
  cases cooled : hash.cooldownUntilMs with
  | none =>
    have isOver : ¬ hash.cooldownUntil - now > legacyThresholdMs := by
      simp only [cooldownUntil, cooled, Option.getD_none]
      omega
    simp [isOver]
  | some deadline => simp

end HealthHash

namespace HealthStore

def Fresh (now : Int) (store : HealthStore) : Prop :=
  ∀ key hash, store.states key = some hash → hash.expiresAt.any (· < now) = false

theorem live_fresh (now : Int) (store : HealthStore) : (store.live now).Fresh now := by
  intro key hash found
  obtain ⟨-, kept⟩ := Option.filter_eq_some_iff.mp found
  simpa using kept

theorem Fresh.live_states {now : Int} {store : HealthStore} (fresh : store.Fresh now) :
    (store.live now).states = store.states := by
  funext key
  cases found : store.states key with
  | none => simp [live, found]
  | some hash => simp [live, found, Option.filter_some, fresh key hash found]

structure Alike (now : Int) (first second : HealthStore) : Prop where
  firstFresh : first.Fresh now
  secondFresh : second.Fresh now
  views : ∀ key, (first.states key).map (HealthHash.view now) =
    (second.states key).map (HealthHash.view now)

variable {now : Int} {first second : HealthStore}

theorem Alike.change {after other : HealthStore} (alike : Alike now first second) (key : String)
    (change : Option HealthHash → Option HealthHash)
    (firstStates : ∀ name, after.states name =
      if name = key then change (first.states key) else first.states name)
    (secondStates : ∀ name, other.states name =
      if name = key then change (second.states key) else second.states name)
    (fresh : ∀ entry hash, (∀ old, entry = some old → old.expiresAt.any (· < now) = false) →
      change entry = some hash → hash.expiresAt.any (· < now) = false)
    (views : ∀ one two : Option HealthHash,
      one.map (HealthHash.view now) = two.map (HealthHash.view now) →
        (change one).map (HealthHash.view now) = (change two).map (HealthHash.view now)) :
    Alike now after other := by
  refine ⟨fun name hash found => ?_, fun name hash found => ?_, fun name => ?_⟩
  · rw [firstStates] at found
    split at found
    · exact fresh _ hash (alike.firstFresh key) found
    · exact alike.firstFresh name hash found
  · rw [secondStates] at found
    split at found
    · exact fresh _ hash (alike.secondFresh key) found
    · exact alike.secondFresh name hash found
  · rw [firstStates, secondStates]
    split
    · exact views _ _ (alike.views key)
    · exact alike.views name

theorem Alike.changeHash {after other : HealthStore} (alike : Alike now first second)
    (key : String) (change : HealthHash → HealthHash)
    (firstStates : ∀ name, after.states name =
      if name = key then (first.states key).map change else first.states name)
    (secondStates : ∀ name, other.states name =
      if name = key then (second.states key).map change else second.states name)
    (fresh : ∀ hash, hash.expiresAt.any (· < now) = false →
      (change hash).expiresAt.any (· < now) = false)
    (views : ∀ one two : HealthHash, one.view now = two.view now →
      (change one).view now = (change two).view now) :
    Alike now after other := by
  refine alike.change key (Option.map change) firstStates secondStates ?_ ?_
  · intro entry hash unexpired changed
    obtain ⟨old, rfl, rfl⟩ := Option.map_eq_some_iff.mp changed
    exact fresh old (unexpired old rfl)
  · intro one two same
    cases one with
    | none => cases two <;> simp_all
    | some one =>
      cases two with
      | none => simp at same
      | some two => simpa using views one two (by simpa using same)

theorem Alike.clearLegacy (alike : Alike now first second) {legacyThresholdMs : Int}
    (passed : 0 ≤ now) (threshold : 0 ≤ legacyThresholdMs) (slot : StateSlot) :
    Alike now (first.clearLegacyLocalAdmission now legacyThresholdMs slot)
      (second.clearLegacyLocalAdmission now legacyThresholdMs slot) := by
  refine alike.change slot.stateKey
    (Option.filter fun hash => !hash.legacyAdmission now legacyThresholdMs)
    (first.clearLegacyLocalAdmission_states now _ slot)
    (second.clearLegacyLocalAdmission_states now _ slot) ?_ ?_
  · intro entry hash unexpired kept
    exact unexpired hash (Option.filter_eq_some_iff.mp kept).1
  · intro one two same
    cases one with
    | none => cases two <;> simp_all
    | some one =>
      cases two with
      | none => simp at same
      | some two =>
        rw [Option.map_some, Option.map_some, Option.some.injEq] at same
        simp only [Option.filter_some, HealthHash.view_legacyAdmission _ _ passed threshold, same]
        split <;> simp [same]

theorem Alike.blocked (alike : Alike now first second) (key : String) :
    (first.blocked now key).1.map HealthReply.kind =
        (second.blocked now key).1.map HealthReply.kind ∧
      Alike now (first.blocked now key).2 (second.blocked now key).2 := by
  rw [blocked_eq, blocked_eq]
  refine ⟨?_, ?_⟩
  · have byView : ∀ entry : Option HealthHash,
        (entry.bind (HealthHash.refusal now)).map HealthReply.kind =
          (entry.map (HealthHash.view now)).bind (HashView.refusal now) := by
      intro entry
      cases entry with
      | none => rfl
      | some hash => exact hash.view_refusal now
    rw [byView, byView, alike.views key]
  · refine alike.changeHash key (HealthHash.unblock now)
      (fun name => first.putState_states key name _) (fun name => second.putState_states key name _)
      ?_ ?_
    · intro hash unexpired
      unfold HealthHash.unblock
      split <;> exact unexpired
    · intro one two same
      rw [HealthHash.unblock_view, HealthHash.unblock_view, same]

theorem Alike.grant (alike : Alike now first second) (args : ReserveArgs)
    (positive : 0 < args.ttlSeconds) (slot : StateSlot) :
    (first.grant now args slot).1.isSome = (second.grant now args slot).1.isSome ∧
      Alike now (first.grant now args slot).2 (second.grant now args slot).2 := by
  obtain ⟨firstGrant, firstStates⟩ := first.grant_eq now args positive slot
  obtain ⟨secondGrant, secondStates⟩ := second.grant_eq now args positive slot
  refine ⟨?_, ?_⟩
  · have byView : ∀ entry : Option HealthHash,
        ((entry.filter (HealthHash.grantable now)).map
            fun hash => hash.stateGeneration.getD 0).isSome =
          (entry.map (HealthHash.view now)).any HashView.grantable := by
      intro entry
      cases entry with
      | none => rfl
      | some hash =>
        rw [Option.filter_some, HealthHash.view_grantable]
        cases granted : (hash.view now).grantable <;> simp [granted]
    rw [firstGrant, secondGrant, byView, byView, alike.views slot.stateKey]
  · refine alike.changeHash slot.stateKey (HealthHash.granted now args) firstStates secondStates
      ?_ ?_
    · intro hash unexpired
      unfold HealthHash.granted
      split
      · simp only [Option.any_some, decide_eq_false_iff_not]
        omega
      · exact unexpired
    · intro one two same
      rw [HealthHash.granted_view, HealthHash.granted_view, same]

theorem Alike.touchSlot (alike : Alike now first second) {ttlSeconds : Int}
    (positive : 0 < ttlSeconds) (slot : StateSlot) :
    Alike now (first.touchSlot now ttlSeconds slot) (second.touchSlot now ttlSeconds slot) := by
  refine alike.changeHash slot.stateKey (HealthHash.touched now ttlSeconds)
    (first.touchSlot_states now _ positive slot) (second.touchSlot_states now _ positive slot) ?_ ?_
  · intro hash unexpired
    simp only [HealthHash.touched, Option.any_some, decide_eq_false_iff_not]
    omega
  · intro one two same
    rw [HealthHash.touched_view, HealthHash.touched_view, same]

theorem Alike.passthrough (alike : Alike now first second) {ttlSeconds : Int}
    (positive : 0 < ttlSeconds) (keys : HealthKeys) :
    (first.passthrough now ttlSeconds keys).1.kind =
        (second.passthrough now ttlSeconds keys).1.kind ∧
      Alike now (first.passthrough now ttlSeconds keys).2
        (second.passthrough now ttlSeconds keys).2 :=
  ⟨rfl, (alike.touchSlot positive keys.key).touchSlot positive keys.route⟩

end HealthStore

theorem HealthStore.Alike.routeHealthReserve {now : Int} {first second : HealthStore}
    (alike : Alike now (first.live now) (second.live now)) (args : ReserveArgs) (passed : 0 ≤ now)
    (threshold : 0 ≤ args.legacyThresholdMs) (positive : 0 < args.ttlSeconds) (keys : HealthKeys) :
    (routeHealthReserve now args keys first).1.kind =
        (routeHealthReserve now args keys second).1.kind ∧
      Alike now (routeHealthReserve now args keys first).2
        (routeHealthReserve now args keys second).2 := by
  have cleared := alike.clearLegacy passed threshold keys.route
  unfold ChatGateway.routeHealthReserve
  dsimp only
  split
  next => exact cleared.passthrough positive keys
  next =>
    obtain ⟨keyKind, keyAlike⟩ := cleared.blocked keys.key.stateKey
    obtain ⟨routeKind, routeAlike⟩ := keyAlike.blocked keys.route.stateKey
    obtain ⟨keyGrant, grantAlike⟩ := routeAlike.grant args positive keys.key
    obtain ⟨routeGrant, bothAlike⟩ := grantAlike.grant args positive keys.route
    split
    next firstReply firstKey =>
      rw [firstKey, Option.map_some] at keyKind
      obtain ⟨secondReply, secondKey, kind⟩ := Option.map_eq_some_iff.mp keyKind.symm
      rw [secondKey]
      exact ⟨kind.symm, keyAlike⟩
    next firstKey =>
      rw [firstKey, Option.map_none, eq_comm, Option.map_eq_none_iff] at keyKind
      rw [keyKind]
      dsimp only
      split
      next firstReply firstRoute =>
        rw [firstRoute, Option.map_some] at routeKind
        obtain ⟨secondReply, secondRoute, kind⟩ := Option.map_eq_some_iff.mp routeKind.symm
        rw [secondRoute]
        exact ⟨kind.symm, routeAlike⟩
      next firstRoute =>
        rw [firstRoute, Option.map_none, eq_comm, Option.map_eq_none_iff] at routeKind
        rw [routeKind]
        refine ⟨?_, bothAlike⟩
        simp only [HealthReply.kind, keyGrant, routeGrant]

structure HealthRequest where
  route : RouteHealthKey
  key : KeyHealthKey
  leaseId : String
  deriving DecidableEq, Repr

theorem durationMillis_nonneg (duration : Duration) : 0 ≤ durationMillis duration := by
  unfold durationMillis
  omega

theorem routeHealthRetentionTtlSeconds_pos (cooldown : Duration) :
    0 < routeHealthRetentionTtlSeconds cooldown := by
  unfold routeHealthRetentionTtlSeconds
  omega

namespace RedisCoordinator

variable (coordinator : RedisCoordinator)

def reserveAll (now : Int) : List HealthRequest → HealthStore → List AnswerKind
  | [], _ => []
  | request :: requests, store =>
    let reserved :=
      coordinator.reserveRouteHealth request.route request.key request.leaseId now store
    reserved.1.kind RedisHealthLease.halfOpen :: reserveAll now requests reserved.2

theorem reserveAll_alike {now : Int} {first second : HealthStore} (passed : 0 ≤ now)
    (alike : HealthStore.Alike now (first.live now) (second.live now))
    (requests : List HealthRequest) :
    coordinator.reserveAll now requests first = coordinator.reserveAll now requests second := by
  induction requests generalizing first second with
  | nil => rfl
  | cons request requests ih =>
    obtain ⟨kind, next⟩ := alike.routeHealthReserve
      (coordinator.reserveArgs request.leaseId) passed (durationMillis_nonneg _)
      (routeHealthRetentionTtlSeconds_pos _) (coordinator.names.slots request.route request.key)
    simp only [reserveAll, reserveRouteHealth, parseRouteHealthReservation_kind, kind]
    rw [ih]
    refine ⟨HealthStore.live_fresh now _, HealthStore.live_fresh now _, fun key => ?_⟩
    rw [next.firstFresh.live_states, next.secondFresh.live_states]
    exact next.views key

end RedisCoordinator

end ChatGateway
