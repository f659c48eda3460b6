import ChatGateway.Redis.HealthScripts

set_option autoImplicit false

/-!
# Reservations hash by hash

The reserve script looks at one hash after another: the gates and grants below are what it does to
a single hash, and the script is their composition.
-/

namespace ChatGateway

namespace HealthHash

def leaseAlive (now : Int) (hash : HealthHash) : Bool :=
  hash.activeLease.isSome && now < hash.leaseExpiresAt

/-- The refusal `blocked` gives for a hash. -/
def refusal (now : Int) (hash : HealthHash) : Option HealthReply :=
  hash.failureClass.bind fun failureClass =>
    if hash.cooldownUntil > now then
      some (.cooling failureClass (max 1 (hash.cooldownUntil - now)) hash.status)
    else if hash.leaseAlive now && hash.halfOpenExclusiveUntilMs.getD 0 > now then
      some (.halfOpenBusy failureClass 1000 hash.status)
    else none

/-- The hash `blocked` leaves: an expired lease is cleared once the cooldown is over. -/
def unblock (now : Int) (hash : HealthHash) : HealthHash :=
  if hash.failureClass.isSome && hash.cooldownUntil ≤ now && hash.activeLease.isSome &&
      hash.leaseExpiresAt ≤ now then
    hash.clearLease
  else hash

def grantable (now : Int) (hash : HealthHash) : Bool :=
  HealthStore.canGrant hash now && hash.failureClass.isSome

def granted (now : Int) (args : ReserveArgs) (hash : HealthHash) : HealthHash :=
  if hash.grantable now then
    { HealthStore.writeLease args.leaseId (hash.stateGeneration.getD 0)
        (now + args.leaseDurationMs) (now + args.exclusiveWindowMs) now hash with
      expiresAt := some (now + args.ttlSeconds * 1000) }
  else hash

def touched (now ttlSeconds : Int) (hash : HealthHash) : HealthHash :=
  { hash with lastAccessMs := some now, expiresAt := some (now + ttlSeconds * 1000) }

def legacyAdmission (now legacyThresholdMs : Int) (hash : HealthHash) : Bool :=
  hash.failureClass == some .concurrencySaturated && hash.status == "" &&
    hash.cooldownUntil - now > legacyThresholdMs

end HealthHash

namespace HealthStore

variable (store : HealthStore) (now : Int)

theorem putState_self (key : String) : store.putState key (store.states key) = store := by
  rw [putState, Function.update_eq_self]

theorem blocked_eq (key : String) :
    store.blocked now key =
      ((store.states key).bind (HealthHash.refusal now),
        store.putState key ((store.states key).map (HealthHash.unblock now))) := by
  unfold blocked
  cases found : store.states key with
  | none =>
    have kept := store.putState_self key
    simpa [found] using kept.symm
  | some hash =>
    have kept : store.putState key (some hash) = store := by rw [← found, putState_self]
    cases classed : hash.failureClass with
    | none => simp [HealthHash.refusal, HealthHash.unblock, classed, kept]
    | some failureClass =>
      by_cases cooling : hash.cooldownUntil > now
      · have hot : ¬ hash.cooldownUntil ≤ now := Int.not_le.mpr cooling
        simp [HealthHash.refusal, HealthHash.unblock, classed, cooling, hot, kept]
      · have warm : hash.cooldownUntil ≤ now := Int.not_lt.mp cooling
        cases active : hash.activeLease with
        | none =>
          simp [HealthHash.refusal, HealthHash.unblock, HealthHash.leaseAlive, classed, cooling,
            active, kept]
        | some lease =>
          by_cases alive : hash.leaseExpiresAt > now
          · have current : ¬ hash.leaseExpiresAt ≤ now := Int.not_le.mpr alive
            by_cases exclusive : hash.halfOpenExclusiveUntilMs.getD 0 > now <;>
              simp [HealthHash.refusal, HealthHash.unblock, HealthHash.leaseAlive, classed, cooling,
                active, alive, current, exclusive, kept]
          · have isOver : hash.leaseExpiresAt ≤ now := Int.not_lt.mp alive
            simp [HealthHash.refusal, HealthHash.unblock, HealthHash.leaseAlive, classed, cooling,
              warm, active, alive, isOver, hdel, found]

theorem refreshSlot_states (ttlSeconds : Int) (positive : 0 < ttlSeconds) (slot : StateSlot)
    (other : String) :
    (store.refreshSlot now ttlSeconds slot).states other =
      if other = slot.stateKey then
        (store.states slot.stateKey).map fun hash =>
          { hash with expiresAt := some (now + ttlSeconds * 1000) }
      else store.states other := by
  rw [refreshSlot, refreshIndexes_states, expireState, if_neg (by omega), hdel, putState_states]

theorem grant_eq (args : ReserveArgs) (positive : 0 < args.ttlSeconds) (slot : StateSlot) :
    (store.grant now args slot).1 = ((store.states slot.stateKey).filter
        (HealthHash.grantable now)).map (fun hash => hash.stateGeneration.getD 0) ∧
      ∀ other, (store.grant now args slot).2.states other =
        if other = slot.stateKey then
          (store.states slot.stateKey).map (HealthHash.granted now args)
        else store.states other := by
  unfold grant
  cases found : store.states slot.stateKey with
  | none =>
    refine ⟨rfl, fun other => ?_⟩
    dsimp only
    split
    next same => simp [same, found]
    next => rfl
  | some hash =>
    by_cases allowed : HealthStore.canGrant hash now ∧ hash.failureClass.isSome
    · have grantable : hash.grantable now = true := by simpa [HealthHash.grantable] using allowed
      refine ⟨by simp [allowed, grantable], fun other => ?_⟩
      simp only [if_pos allowed]
      rw [refreshSlot_states _ _ _ positive, hset_states_self, found]
      split
      next => simp [HealthHash.granted, grantable]
      next different => simp [hset, putState_states, different]
    · have refused : hash.grantable now = false := by
        rw [HealthHash.grantable, ← Bool.not_eq_true, Bool.and_eq_true]
        exact allowed
      refine ⟨by simp [allowed, refused], fun other => ?_⟩
      simp only [if_neg allowed]
      split
      next same => simp [same, found, HealthHash.granted, refused]
      next => rfl

theorem touchSlot_states (ttlSeconds : Int) (positive : 0 < ttlSeconds) (slot : StateSlot)
    (other : String) :
    (store.touchSlot now ttlSeconds slot).states other =
      if other = slot.stateKey then
        (store.states slot.stateKey).map (HealthHash.touched now ttlSeconds)
      else store.states other := by
  unfold touchSlot
  cases found : store.states slot.stateKey with
  | none =>
    rw [if_neg (by simp)]
    split
    next same => simp [same, found]
    next => rfl
  | some hash =>
    rw [if_pos (by simp), refreshSlot_states _ _ _ positive, hset_states_self, found]
    split
    next => simp [HealthHash.touched]
    next different => simp [hset, putState_states, different]

theorem clearLegacyLocalAdmission_states (legacyThresholdMs : Int) (slot : StateSlot)
    (other : String) :
    (store.clearLegacyLocalAdmission now legacyThresholdMs slot).states other =
      if other = slot.stateKey then
        (store.states slot.stateKey).filter fun hash =>
          !hash.legacyAdmission now legacyThresholdMs
      else store.states other := by
  unfold clearLegacyLocalAdmission
  cases found : store.states slot.stateKey with
  | none =>
    dsimp only
    split
    next same => simp [same, found]
    next => rfl
  | some hash =>
    by_cases legacy : hash.failureClass = some .concurrencySaturated ∧ hash.status = "" ∧
        hash.cooldownUntil - now > legacyThresholdMs
    · have recorded : hash.legacyAdmission now legacyThresholdMs = true := by
        simpa [HealthHash.legacyAdmission, and_assoc] using legacy
      simp only [if_pos legacy, clearSlot, clearState, zrem_states, del, putState_states]
      split
      next => simp [Option.filter_some, recorded]
      next => rfl
    · have current : hash.legacyAdmission now legacyThresholdMs = false := by
        rw [← Bool.not_eq_true]
        simpa [HealthHash.legacyAdmission, and_assoc] using legacy
      simp only [if_neg legacy]
      split
      next same => simp [same, found, Option.filter_some, current]
      next => rfl

end HealthStore

end ChatGateway
