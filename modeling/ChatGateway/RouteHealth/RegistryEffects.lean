import ChatGateway.RouteHealth.Operations

set_option autoImplicit false

namespace ChatGateway

section Tables

variable {K : Type} [DecidableEq K]

theorem effects_modify (now : Instant) (permit : Permit) (table : Table K HealthState)
    (key other : K) (f : HealthState → HealthState)
    (effect : other = key → ∀ state, table.lookup key = some state →
      EntryEffects now permit (some state) (some (f state))) :
    EntryEffects now permit (table.lookup other) ((table.modify key f).lookup other) := by
  by_cases same : other = key
  · subst same
    rw [Table.lookup_modify_self]
    cases found : table.lookup other with
    | none => exact .refl
    | some state => exact effect rfl state found
  · rw [Table.lookup_modify_ne _ same]

theorem effects_upsert (now : Instant) (permit : Permit) (table : Table K HealthState)
    (key other : K) (update : HealthState → HealthState)
    (effect : other = key → ∀ state, EntryEffects now permit (some state) (some (update state))) :
    EntryEffects now permit (table.lookup other)
      ((table.insert key (update ((table.lookup key).getD (HealthState.new now)))).lookup other) := by
  rw [Table.lookup_insert_eq]
  split
  next same =>
    subst same
    cases found : table.lookup other with
    | none => exact Relation.ReflTransGen.head .created (effect rfl _)
    | some state => exact effect rfl state
  next => exact .refl

theorem gateEntry_lookup (table : Table K HealthState) (key other : K)
    (gate : HealthState → HealthState × Option ReserveAnswer) :
    (gateEntry table key gate).1.lookup other =
      if other = key then (table.lookup other).map (fun state => (gate state).1)
      else table.lookup other := by
  unfold gateEntry
  split
  next missing =>
    split
    next same =>
      subst same
      simp [missing]
    next => rfl
  next state found =>
    rw [Table.lookup_modify]
    split
    next same =>
      subst same
      simp [found]
    next => rfl

theorem gateEntry_refusal (table : Table K HealthState) (key : K)
    (gate : HealthState → HealthState × Option ReserveAnswer) :
    (gateEntry table key gate).2 = (table.lookup key).bind fun state => (gate state).2 := by
  unfold gateEntry
  split <;> simp_all

theorem effects_gateEntry (now : Instant) (permit : Permit) (table : Table K HealthState)
    (key other : K) (gate : HealthState → HealthState × Option ReserveAnswer)
    (effect : ∀ state, EntryEffects now permit (some state) (some (gate state).1)) :
    EntryEffects now permit (table.lookup other) ((gateEntry table key gate).1.lookup other) := by
  rw [gateEntry_lookup]
  split
  next =>
    cases table.lookup other with
    | none => exact .refl
    | some state => exact effect state
  next => exact .refl

end Tables

namespace HealthState

variable (now : Instant) (permit : Permit) (state : HealthState)

theorem touch_effects : EntryEffects now permit (some state) (some (state.touch now)) :=
  .single (.touched state)

theorem clear_effects (allowed : permit.clear = true) :
    EntryEffects now permit (some state) (some (state.clear now)) :=
  .single (.cleared state allowed)

theorem reserveGate_effects (subject : String) :
    EntryEffects now permit (some state) (some (state.reserveGate subject now).1) := by
  have touched := state.touch_effects now permit
  unfold reserveGate
  dsimp only
  split
  · exact touched
  · split
    · split
      next elapsed => exact touched.tail (.expired _ elapsed)
      next => split <;> exact touched
    · exact touched

theorem probeKeyGate_effects :
    EntryEffects now permit (some state) (some (state.probeKeyGate now).1) := by
  have touched := state.touch_effects now permit
  unfold probeKeyGate
  dsimp only
  split
  · exact touched
  · split <;> exact touched

theorem releaseHalfOpen_effects (generation : Option Nat) (allowed : permit.release = generation) :
    EntryEffects now permit (some state) (some (state.releaseHalfOpen generation now)) := by
  unfold releaseHalfOpen
  split
  next owned =>
    simp only [Bool.and_eq_true, beq_iff_eq] at owned
    obtain ⟨value, present⟩ := Option.isSome_iff_exists.mp owned.1
    have held : state.halfOpenGeneration = some value := owned.2.trans present
    exact .tail (.single (.released state value (allowed.trans present) held)) (.touched _)
  next => exact state.touch_effects now permit

theorem canReserve_idle (free : state.canReserve now = true) :
    state.lastFailureClass.isSome ∧ state.isActive now = false := by
  simp only [canReserve, Bool.and_eq_true, Bool.or_eq_true] at free
  refine ⟨free.1.1, ?_⟩
  rcases free.2 with vacant | elapsed
  · simp [isActive, Option.isNone_iff_eq_none.mp vacant]
  · cases expiry : state.halfOpenExpiresAt with
    | none => simp [isActive, expiry]
    | some deadline =>
      simp only [expiry, Option.all_some, decide_eq_true_eq] at elapsed
      simp [isActive, expiry, Nat.not_lt.mpr elapsed]

theorem grantHalfOpen_effects (generation : Nat) (expiresAt exclusiveUntil : Instant)
    (allowed : permit.grant = some generation) (free : state.canReserve now = true) :
    EntryEffects now permit (some state)
      (some ((state.grantHalfOpen generation expiresAt exclusiveUntil).touch now)) := by
  obtain ⟨classed, idle⟩ := state.canReserve_idle now free
  exact .tail (.single (.granted state generation expiresAt exclusiveUntil state.lastEarlyProbeAt
    allowed classed idle)) (.touched _)

theorem recordRouteFailure_recorded (digest : List UInt8 → Nat) (tuning : RouteHealthTuning)
    (route : RouteHealthKey) (report : RouteFailureReport) (explicitRetry : Option Duration) :
    RecordedFailure now state
      (state.recordRouteFailure digest tuning route report explicitRetry now) := by
  constructor <;> simp [recordRouteFailure, dropHalfOpen]

theorem recordKeyFailure_recorded (digest : List UInt8 → Nat) (tuning : RouteHealthTuning)
    (key : KeyHealthKey) (failureClass : RouteFailureClass) (explicitRetry : Option Duration) :
    RecordedFailure now state
      (state.recordKeyFailure digest tuning key failureClass explicitRetry now) := by
  constructor <;> simp [recordKeyFailure, dropHalfOpen]

end HealthState

theorem lookup_erase_idle {K : Type} [DecidableEq K] (table : Table K HealthState) (now : Instant)
    (candidate : Σ _ : K, HealthState) (member : candidate ∈ table.entries)
    (idle : candidate.2.isActive now = false) (other : K) :
    (table.erase candidate.1).lookup other = table.lookup other ∨
      ∃ state, table.lookup other = some state ∧ state.isActive now = false ∧
        (table.erase candidate.1).lookup other = none := by
  by_cases same : other = candidate.1
  · subst same
    exact .inr ⟨candidate.2, AList.mem_lookup_iff.mpr member, idle, AList.lookup_erase _ _⟩
  · exact .inl (AList.lookup_erase_ne same)

structure MadeRoom {K : Type} [DecidableEq K] (now : Instant) (before after : Table K HealthState)
    (key : K) : Prop where
  same : after.lookup key = before.lookup key
  others : ∀ other, after.lookup other = before.lookup other ∨
    ∃ state, before.lookup other = some state ∧ state.isActive now = false ∧
      after.lookup other = none

theorem MadeRoom.refl {K : Type} [DecidableEq K] (now : Instant) (table : Table K HealthState)
    (key : K) : MadeRoom now table table key :=
  ⟨rfl, fun _ => .inl rfl⟩

theorem MadeRoom.erase {K : Type} [DecidableEq K] {now : Instant} {table : Table K HealthState}
    {key : K} (missing : table.lookup key = none) {candidate : Σ _ : K, HealthState}
    (member : candidate ∈ table.entries) (idle : candidate.2.isActive now = false) :
    MadeRoom now table (table.erase candidate.1) key := by
  refine ⟨?_, lookup_erase_idle table now candidate member idle⟩
  rw [Table.lookup_erase_eq, missing]
  split <;> rfl

theorem MadeRoom.effects {K : Type} [DecidableEq K] {now : Instant}
    {before after : Table K HealthState} {key : K} (room : MadeRoom now before after key)
    (permit : Permit) (other : K) :
    EntryEffects now permit (before.lookup other) (after.lookup other) := by
  rcases room.others other with kept | ⟨state, found, idle, gone⟩
  · rw [kept]
  · rw [found, gone]
    exact .single (.removed state idle)

namespace RouteHealthRegistry

variable (registry : RouteHealthRegistry) (now : Instant)

theorem ensureRouteCapacity_some {route : RouteHealthKey} {roomy : RouteHealthRegistry}
    (made : registry.ensureRouteCapacity route now = some roomy) :
    roomy = { registry with routes := roomy.routes } ∧
      MadeRoom now registry.routes roomy.routes route := by
  unfold ensureRouteCapacity at made
  split at made
  next =>
    cases made
    exact ⟨rfl, .refl now _ _⟩
  next absent =>
    dsimp only at made
    split at made
    next =>
      split at made
      next candidate chosen =>
        cases made
        refine ⟨rfl, .erase (by simpa using absent) ?_ ?_⟩
        all_goals
          rw [Option.orElse_eq_or, Option.or_eq_some_iff] at chosen
          rcases chosen with idle | ⟨-, eligible⟩
          · have member := List.argmin_mem idle
            simp_all
          · have member := List.argmin_mem eligible
            simp_all
      next => cases made
    next =>
      cases made
      exact ⟨rfl, .refl now _ _⟩

theorem ensureKeyCapacity_some {key : KeyHealthKey} {roomy : RouteHealthRegistry}
    (made : registry.ensureKeyCapacity key now = some roomy) :
    roomy = { registry with keys := roomy.keys } ∧
      MadeRoom now registry.keys roomy.keys key := by
  unfold ensureKeyCapacity at made
  split at made
  next =>
    cases made
    exact ⟨rfl, .refl now _ _⟩
  next absent =>
    dsimp only at made
    split at made
    next =>
      cases made
      exact ⟨rfl, .refl now _ _⟩
    next =>
      split at made
      next candidate chosen =>
        cases made
        have member := List.argmin_mem chosen
        exact ⟨rfl, .erase (by simpa using absent) (by simp_all) (by simp_all)⟩
      next => cases made

theorem reserveExpiredHalfOpenKey_routes (key : KeyHealthKey) :
    (registry.reserveExpiredHalfOpenKey key now).1.routes = registry.routes := by
  unfold reserveExpiredHalfOpenKey
  split <;> rfl

theorem reserveExpiredHalfOpenRoute_keys (route : RouteHealthKey) :
    (registry.reserveExpiredHalfOpenRoute route now).1.keys = registry.keys := by
  unfold reserveExpiredHalfOpenRoute
  split <;> rfl

theorem reserveExpiredHalfOpenKey_effects (key other : KeyHealthKey) (permit : Permit)
    (allowed : other = key → permit.grant = (registry.reserveExpiredHalfOpenKey key now).2) :
    EntryEffects now permit (registry.keys.lookup other)
      ((registry.reserveExpiredHalfOpenKey key now).1.keys.lookup other) := by
  unfold reserveExpiredHalfOpenKey at allowed ⊢
  split
  next free =>
    refine effects_modify now permit _ key other _ fun same state found => ?_
    have free : state.canReserve now = true := by simpa [found] using free
    exact state.grantHalfOpen_effects now permit _ _ _ (by simp [*, allowed same]) free
  next => exact .refl

theorem reserveExpiredHalfOpenRoute_effects (route other : RouteHealthKey) (permit : Permit)
    (allowed : other = route → permit.grant = (registry.reserveExpiredHalfOpenRoute route now).2) :
    EntryEffects now permit (registry.routes.lookup other)
      ((registry.reserveExpiredHalfOpenRoute route now).1.routes.lookup other) := by
  unfold reserveExpiredHalfOpenRoute at allowed ⊢
  split
  next free =>
    refine effects_modify now permit _ route other _ fun same state found => ?_
    have free : state.canReserve now = true := by simpa [found] using free
    exact state.grantHalfOpen_effects now permit _ _ _ (by simp [*, allowed same]) free
  next => exact .refl

theorem passthroughAdmission_effects (route other : RouteHealthKey) (key : KeyHealthKey)
    (permit : Permit) :
    EntryEffects now permit (registry.routes.lookup other)
      ((registry.passthroughAdmission route key now).1.routes.lookup other) :=
  effects_modify now permit _ route other _ fun _ state _ => state.touch_effects now permit

theorem passthroughAdmission_key_effects (route : RouteHealthKey) (key other : KeyHealthKey)
    (permit : Permit) :
    EntryEffects now permit (registry.keys.lookup other)
      ((registry.passthroughAdmission route key now).1.keys.lookup other) :=
  effects_modify now permit _ key other _ fun _ state _ => state.touch_effects now permit

theorem admitReserved_effects (route other : RouteHealthKey) (key : KeyHealthKey)
    (permit : Permit)
    (allowed : permit = HealthOperation.routePermit registry (.reserve route key)
      (some (registry.admitReserved route key now).2) other) :
    EntryEffects now permit (registry.routes.lookup other)
      ((registry.admitReserved route key now).1.routes.lookup other) := by
  have reserved := (registry.reserveExpiredHalfOpenKey key now).1.reserveExpiredHalfOpenRoute_effects
    now route other permit fun same => by
      subst allowed
      simp [HealthOperation.routePermit, admitReserved, issuedLease, same]
  rwa [reserveExpiredHalfOpenKey_routes] at reserved

theorem admitReserved_key_effects (route : RouteHealthKey) (key other : KeyHealthKey)
    (permit : Permit)
    (allowed : permit = HealthOperation.keyPermit registry (.reserve route key)
      (some (registry.admitReserved route key now).2) other) :
    EntryEffects now permit (registry.keys.lookup other)
      ((registry.admitReserved route key now).1.keys.lookup other) := by
  have reserved := registry.reserveExpiredHalfOpenKey_effects now key other permit fun same => by
    subst allowed
    simp [HealthOperation.keyPermit, admitReserved, issuedLease, same]
  simpa [admitReserved, reserveExpiredHalfOpenRoute_keys] using reserved

theorem reserve_effects (route other : RouteHealthKey) (key : KeyHealthKey) :
    EntryEffects now
      (HealthOperation.routePermit registry (.reserve route key)
        (some (registry.reserve route key now).2) other)
      (registry.routes.lookup other) ((registry.reserve route key now).1.routes.lookup other) := by
  unfold reserve
  split
  next => exact registry.passthroughAdmission_effects now route other key _
  next =>
    dsimp only
    split
    next => exact .refl
    next =>
      have gated (permit : Permit) := effects_gateEntry now permit registry.routes route other
        (HealthState.reserveGate "route" now) fun state => state.reserveGate_effects now permit _
      split
      next => exact gated _
      next => exact (gated _).trans (admitReserved_effects _ now route other key _ rfl)

theorem reserve_key_effects (route : RouteHealthKey) (key other : KeyHealthKey) :
    EntryEffects now
      (HealthOperation.keyPermit registry (.reserve route key)
        (some (registry.reserve route key now).2) other)
      (registry.keys.lookup other) ((registry.reserve route key now).1.keys.lookup other) := by
  have gated (permit : Permit) := effects_gateEntry now permit registry.keys key other
    (HealthState.reserveGate "key" now) fun state => state.reserveGate_effects now permit _
  unfold reserve
  split
  next => exact registry.passthroughAdmission_key_effects now route key other _
  next =>
    dsimp only
    split
    next => exact gated _
    next =>
      split
      next => exact gated _
      next => exact (gated _).trans (admitReserved_key_effects _ now route key other _ rfl)

theorem reserveExpiredHalfOpenKey_tuning (key : KeyHealthKey) :
    (registry.reserveExpiredHalfOpenKey key now).1.tuning = registry.tuning := by
  unfold reserveExpiredHalfOpenKey
  split <;> rfl

theorem reserveExpiredHalfOpenRoute_tuning (route : RouteHealthKey) :
    (registry.reserveExpiredHalfOpenRoute route now).1.tuning = registry.tuning := by
  unfold reserveExpiredHalfOpenRoute
  split <;> rfl

theorem reserve_tuning (route : RouteHealthKey) (key : KeyHealthKey) :
    (registry.reserve route key now).1.tuning = registry.tuning := by
  unfold reserve admitReserved
  split
  next => rfl
  next =>
    dsimp only
    split
    next => rfl
    next =>
      split
      next => rfl
      next => rw [reserveExpiredHalfOpenRoute_tuning, reserveExpiredHalfOpenKey_tuning]

theorem reserveRouteHealthProbe_tuning (route : RouteHealthKey) (key : KeyHealthKey) :
    (registry.reserveRouteHealthProbe route key now).1.tuning = registry.tuning := by
  unfold reserveRouteHealthProbe
  split
  next => rfl
  next =>
    dsimp only
    split
    next => rfl
    next =>
      split
      next => rfl
      next =>
        split
        next => rfl
        next =>
          split
          next => rfl
          next => exact reserveExpiredHalfOpenKey_tuning _ now key

theorem grantRouteHealthProbe_effects (route other : RouteHealthKey) (key : KeyHealthKey)
    (observed : HealthState) (permit : Permit)
    (allowed : permit = HealthOperation.routePermit registry (.reserveRouteHealthProbe route key)
      (some (registry.grantRouteHealthProbe route key observed now).2) other)
    (free : ∀ state, registry.routes.lookup route = some state →
      state.lastFailureClass.isSome ∧ state.isActive now = false) :
    EntryEffects now permit (registry.routes.lookup other)
      ((registry.grantRouteHealthProbe route key observed now).1.routes.lookup other) := by
  have start : registry.routes.lookup other =
      (registry.reserveExpiredHalfOpenKey key now).1.routes.lookup other := by
    rw [reserveExpiredHalfOpenKey_routes]
  rw [start]
  refine effects_modify now permit _ route other _ fun same state found => ?_
  have found : registry.routes.lookup route = some state := by
    simpa [bumpNextGeneration, reserveExpiredHalfOpenKey_routes] using found
  obtain ⟨classed, idle⟩ := free state found
  refine .single (.granted state _ _ _ _ ?_ classed idle)
  subst allowed
  simp [HealthOperation.routePermit, grantRouteHealthProbe, issuedLease, same]

theorem grantRouteHealthProbe_key_effects (route : RouteHealthKey) (key other : KeyHealthKey)
    (observed : HealthState) (permit : Permit)
    (allowed : permit = HealthOperation.keyPermit registry (.reserveRouteHealthProbe route key)
      (some (registry.grantRouteHealthProbe route key observed now).2) other) :
    EntryEffects now permit (registry.keys.lookup other)
      ((registry.grantRouteHealthProbe route key observed now).1.keys.lookup other) := by
  have reserved := registry.reserveExpiredHalfOpenKey_effects now key other permit fun same => by
    subst allowed
    simp [HealthOperation.keyPermit, grantRouteHealthProbe, issuedLease, same]
  exact reserved

theorem probeRouteRefusal_none {state : HealthState} {failureClass : RouteFailureClass}
    (granted : probeRouteRefusal state now failureClass = none) :
    state.isActive now = false ∧ state.isCooling now = true := by
  unfold probeRouteRefusal at granted
  split at granted
  · cases granted
  · split at granted
    · cases granted
    · simp_all

theorem reserveRouteHealthProbe_effects (route other : RouteHealthKey) (key : KeyHealthKey) :
    EntryEffects now
      (HealthOperation.routePermit registry (.reserveRouteHealthProbe route key)
        (some (registry.reserveRouteHealthProbe route key now).2) other)
      (registry.routes.lookup other)
      ((registry.reserveRouteHealthProbe route key now).1.routes.lookup other) := by
  have touched (permit : Permit) := effects_modify now permit registry.routes route other
    (·.touch now) fun _ state _ => state.touch_effects now permit
  unfold reserveRouteHealthProbe
  split
  next => exact registry.passthroughAdmission_effects now route other key _
  next =>
    dsimp only
    split
    next => exact .refl
    next =>
      split
      next => exact .refl
      next state found =>
        split
        next => exact touched _
        next failureClass classed =>
          split
          next => exact touched _
          next granted =>
            refine (touched _).trans (grantRouteHealthProbe_effects _ now route other key state _ rfl ?_)
            intro current present
            simp only [Table.lookup_modify_self, found, Option.map_some, Option.some.injEq]
              at present
            subst present
            exact ⟨by simp [HealthState.touch, classed], (probeRouteRefusal_none now granted).1⟩

theorem reserveRouteHealthProbe_key_effects (route : RouteHealthKey) (key other : KeyHealthKey) :
    EntryEffects now
      (HealthOperation.keyPermit registry (.reserveRouteHealthProbe route key)
        (some (registry.reserveRouteHealthProbe route key now).2) other)
      (registry.keys.lookup other)
      ((registry.reserveRouteHealthProbe route key now).1.keys.lookup other) := by
  have gated (permit : Permit) := effects_gateEntry now permit registry.keys key other
    (HealthState.probeKeyGate now) fun state => state.probeKeyGate_effects now permit
  unfold reserveRouteHealthProbe
  split
  next => exact registry.passthroughAdmission_key_effects now route key other _
  next =>
    dsimp only
    split
    next => exact gated _
    next =>
      split
      next => exact gated _
      next state _ =>
        split
        next => exact gated _
        next =>
          split
          next => exact gated _
          next =>
            exact (gated _).trans
              (grantRouteHealthProbe_key_effects _ now route key other state _ rfl)

theorem observeCapacityRouteFailureAt_effects (route other : RouteHealthKey)
    (failureClass : RouteFailureClass) (upstreamStatus : Option Nat) (permit : Permit) :
    EntryEffects now permit (registry.routes.lookup other)
      ((registry.observeCapacityRouteFailureAt route failureClass upstreamStatus now).routes.lookup
        other) := by
  unfold observeCapacityRouteFailureAt
  split
  next => exact .refl
  next roomy made =>
    have room := (registry.ensureRouteCapacity_some now made).2.effects permit other
    exact room.trans (effects_upsert now permit _ route other _ fun _ state =>
      .single (.noted state _ _))

theorem observeCapacityKeyFailureAt_effects (key other : KeyHealthKey)
    (failureClass : RouteFailureClass) (permit : Permit) :
    EntryEffects now permit (registry.keys.lookup other)
      ((registry.observeCapacityKeyFailureAt key failureClass now).keys.lookup other) := by
  unfold observeCapacityKeyFailureAt
  split
  next => exact .refl
  next roomy made =>
    have room := (registry.ensureKeyCapacity_some now made).2.effects permit other
    -- A key failure keeps the status that was recorded before it.
    exact room.trans (effects_upsert now permit _ key other _ fun _ state =>
      .single (.noted state failureClass state.lastFailureStatus))

section Recorded

variable (digest : List UInt8 → Nat)

theorem observeRouteFailureAt_effects (route other : RouteHealthKey) (report : RouteFailureReport)
    (explicitRetry : Option Duration) (permit : Permit)
    (clears : other = route → (registry.routeFailurePermit report).clear = true →
      permit.clear = true)
    (fails : other = route → (registry.routeFailurePermit report).fail = true →
      permit.fail = true) :
    EntryEffects now permit (registry.routes.lookup other)
      ((registry.observeRouteFailureAt digest route report explicitRetry now).routes.lookup
        other) := by
  unfold observeRouteFailureAt
  split
  next uncooled =>
    exact effects_modify now permit _ route other _ fun same state _ =>
      state.clear_effects now permit (clears same (by simpa [routeFailurePermit] using uncooled))
  next cooled =>
    split
    next => exact registry.observeCapacityRouteFailureAt_effects now route other _ _ permit
    next recorded =>
      split
      next => exact .refl
      next roomy made =>
        have room := (registry.ensureRouteCapacity_some now made).2.effects permit other
        refine room.trans (effects_upsert now permit _ route other _ fun same state => ?_)
        exact .single (.failed _ _ (fails same (by simp_all [routeFailurePermit]))
          (state.recordRouteFailure_recorded now digest _ _ _ _))

theorem observeKeyFailureAt_effects (key other : KeyHealthKey) (failureClass : RouteFailureClass)
    (explicitRetry : Option Duration) (permit : Permit)
    (clears : other = key → (registry.keyFailurePermit failureClass).clear = true →
      permit.clear = true)
    (fails : other = key → (registry.keyFailurePermit failureClass).fail = true →
      permit.fail = true) :
    EntryEffects now permit (registry.keys.lookup other)
      ((registry.observeKeyFailureAt digest key failureClass explicitRetry now).keys.lookup
        other) := by
  unfold observeKeyFailureAt
  split
  next uncooled =>
    exact effects_modify now permit _ key other _ fun same state _ =>
      state.clear_effects now permit (clears same (by simpa [keyFailurePermit] using uncooled))
  next cooled =>
    split
    next => exact registry.observeCapacityKeyFailureAt_effects now key other _ permit
    next recorded =>
      split
      next => exact .refl
      next roomy made =>
        have room := (registry.ensureKeyCapacity_some now made).2.effects permit other
        refine room.trans (effects_upsert now permit _ key other _ fun same state => ?_)
        exact .single (.failed _ _ (fails same (by simp_all [keyFailurePermit]))
          (state.recordKeyFailure_recorded now digest _ _ _ _))

theorem observeRouteFailureAt_frame (route : RouteHealthKey) (report : RouteFailureReport)
    (explicitRetry : Option Duration) :
    ∃ routes skipped,
      registry.observeRouteFailureAt digest route report explicitRetry now =
        { registry with routes := routes, cooldownSkippedTotal := skipped } := by
  unfold observeRouteFailureAt observeCapacityRouteFailureAt
  split
  next => exact ⟨_, _, rfl⟩
  next =>
    split
    all_goals
      split
      next => exact ⟨_, _, rfl⟩
      next roomy made =>
        rw [(registry.ensureRouteCapacity_some now made).1]
        exact ⟨_, _, rfl⟩

theorem observeKeyFailureAt_frame (key : KeyHealthKey) (failureClass : RouteFailureClass)
    (explicitRetry : Option Duration) :
    ∃ keys skipped,
      registry.observeKeyFailureAt digest key failureClass explicitRetry now =
        { registry with keys := keys, cooldownSkippedTotal := skipped } := by
  unfold observeKeyFailureAt observeCapacityKeyFailureAt
  split
  next => exact ⟨_, _, rfl⟩
  next =>
    split
    all_goals
      split
      next => exact ⟨_, _, rfl⟩
      next roomy made =>
        rw [(registry.ensureKeyCapacity_some now made).1]
        exact ⟨_, _, rfl⟩

theorem observeRouteFailureAt_keys (route : RouteHealthKey) (report : RouteFailureReport)
    (explicitRetry : Option Duration) :
    (registry.observeRouteFailureAt digest route report explicitRetry now).keys =
      registry.keys := by
  obtain ⟨_, _, frame⟩ := registry.observeRouteFailureAt_frame now digest route report explicitRetry
  rw [frame]

theorem observeKeyFailureAt_routes (key : KeyHealthKey) (failureClass : RouteFailureClass)
    (explicitRetry : Option Duration) :
    (registry.observeKeyFailureAt digest key failureClass explicitRetry now).routes =
      registry.routes := by
  obtain ⟨_, _, frame⟩ :=
    registry.observeKeyFailureAt_frame now digest key failureClass explicitRetry
  rw [frame]

theorem releaseRouteLease_effects (route other : RouteHealthKey) (generation : Option Nat)
    (permit : Permit) (allowed : other = route → permit.release = generation) :
    EntryEffects now permit (registry.routes.lookup other)
      ((registry.releaseRouteLease route generation now).routes.lookup other) :=
  effects_modify now permit _ route other _ fun same state _ =>
    state.releaseHalfOpen_effects now permit generation (allowed same)

theorem releaseKeyLease_effects (key other : KeyHealthKey) (generation : Option Nat)
    (permit : Permit) (allowed : other = key → permit.release = generation) :
    EntryEffects now permit (registry.keys.lookup other)
      ((registry.releaseKeyLease key generation now).keys.lookup other) :=
  effects_modify now permit _ key other _ fun same state _ =>
    state.releaseHalfOpen_effects now permit generation (allowed same)

theorem reapplyConcurrencyProbeDelay_none_iff (lease : HealthLease) :
    registry.reapplyConcurrencyProbeDelay lease now = none ↔
      registry.rearmsProbe lease = false := by
  unfold reapplyConcurrencyProbeDelay rearmsProbe
  cases registry.routes.lookup lease.route with
  | none => simp
  | some state =>
    simp only [Option.any_some, decide_eq_false_iff_not]
    split <;> simp_all

theorem reapplyConcurrencyProbeDelay_some {lease : HealthLease} {rearmed : RouteHealthRegistry}
    (applied : registry.reapplyConcurrencyProbeDelay lease now = some rearmed) :
    ∃ state generation delay,
      registry.routes.lookup lease.route = some state ∧
      lease.routeGeneration = some generation ∧
      state.halfOpenGeneration = some generation ∧
      state.lastFailureClass = some .concurrencySaturated ∧
      rearmed = { registry with
        routes := registry.routes.modify lease.route fun state =>
          { state.dropHalfOpen with cooldownUntil := some (now + delay), lastAccess := now } } := by
  unfold reapplyConcurrencyProbeDelay at applied
  split at applied
  next => cases applied
  next state found =>
    split at applied
    next owned =>
      obtain ⟨saturated, leased, held⟩ := owned
      obtain ⟨generation, present⟩ := Option.isSome_iff_exists.mp leased
      cases applied
      exact ⟨state, generation, _, found, present, held.trans present, saturated, rfl⟩
    next => cases applied

theorem reapplyConcurrencyProbeDelay_effects {lease : HealthLease} {rearmed : RouteHealthRegistry}
    (applied : registry.reapplyConcurrencyProbeDelay lease now = some rearmed)
    (other : RouteHealthKey) (permit : Permit)
    (allowed : other = lease.route → permit.release = lease.routeGeneration) :
    EntryEffects now permit (registry.routes.lookup other) (rearmed.routes.lookup other) := by
  obtain ⟨state, generation, delay, found, leased, held, saturated, rfl⟩ :=
    registry.reapplyConcurrencyProbeDelay_some now applied
  refine effects_modify now permit _ lease.route other _ fun same current present => ?_
  cases found.symm.trans present
  exact .tail (.single (.rearmed state generation (now + delay)
    ((allowed same).trans leased) held (by simp [saturated]))) (.touched _)

-- Finishing a lease writes no more than entries and the count of skipped cooldowns.
theorem finish_frame (lease : HealthLease) (outcome : RouteOutcome) :
    ∃ routes keys skipped,
      registry.finish digest lease outcome now =
        { registry with routes := routes, keys := keys, cooldownSkippedTotal := skipped } := by
  cases outcome with
  | success =>
    unfold finish
    dsimp only
    split <;> exact ⟨_, _, _, rfl⟩
  | routeFailure report =>
    obtain ⟨_, _, frame⟩ := observeRouteFailureAt_frame
      (registry.releaseKeyLease lease.key lease.keyGeneration now) now digest lease.route report none
    exact ⟨_, _, _, frame⟩
  | routeFailureWithRetry report retryAfter =>
    obtain ⟨_, _, frame⟩ := observeRouteFailureAt_frame
      (registry.releaseKeyLease lease.key lease.keyGeneration now) now digest lease.route report
      (some retryAfter)
    exact ⟨_, _, _, frame⟩
  | keyFailure failureClass =>
    obtain ⟨_, _, frame⟩ := observeKeyFailureAt_frame
      (registry.releaseRouteLease lease.route lease.routeGeneration now) now digest lease.key
      failureClass none
    exact ⟨_, _, _, frame⟩
  | keyFailureWithRetry failureClass retryAfter =>
    obtain ⟨_, _, frame⟩ := observeKeyFailureAt_frame
      (registry.releaseRouteLease lease.route lease.routeGeneration now) now digest lease.key
      failureClass (some retryAfter)
    exact ⟨_, _, _, frame⟩
  | uncertainRouteFailure failureClass =>
    unfold finish
    dsimp only
    split
    next rearmed applied =>
      obtain ⟨_, _, _, -, -, -, -, rfl⟩ := reapplyConcurrencyProbeDelay_some _ now applied
      exact ⟨_, _, _, rfl⟩
    next =>
      obtain ⟨_, _, frame⟩ := observeRouteFailureAt_frame
        (registry.releaseKeyLease lease.key lease.keyGeneration now) now digest lease.route
        { failureClass := failureClass } none
      exact ⟨_, _, _, frame⟩
  | cancelled =>
    unfold finish
    dsimp only
    split
    next rearmed applied =>
      obtain ⟨_, _, _, -, -, -, -, rfl⟩ := reapplyConcurrencyProbeDelay_some _ now applied
      exact ⟨_, _, _, rfl⟩
    next => exact ⟨_, _, _, rfl⟩

theorem finish_effects (lease : HealthLease) (outcome : RouteOutcome) (other : RouteHealthKey)
    (permit : Permit)
    (allowed : other = lease.route → permit = registry.finishRoutePermit lease outcome) :
    EntryEffects now permit (registry.routes.lookup other)
      ((registry.finish digest lease outcome now).routes.lookup other) := by
  cases outcome with
  | success =>
    have cleared : EntryEffects now permit (registry.routes.lookup other)
        ((registry.clearRouteForSuccess lease now).routes.lookup other) := by
      refine effects_modify now permit _ lease.route other _ fun same state found => ?_
      dsimp only
      split
      next owned =>
        refine state.clear_effects now permit ?_
        rw [allowed same]
        simp only [finishRoutePermit, found, Option.any_some, successClears]
        exact owned
      next => exact .refl
    unfold finish
    dsimp only
    split <;> exact cleared
  | routeFailure report =>
    exact (registry.releaseKeyLease lease.key lease.keyGeneration now).observeRouteFailureAt_effects
      now digest lease.route other report none permit
      (fun same clears => by rw [allowed same]; exact clears)
      (fun same fails => by rw [allowed same]; exact fails)
  | routeFailureWithRetry report retryAfter =>
    exact (registry.releaseKeyLease lease.key lease.keyGeneration now).observeRouteFailureAt_effects
      now digest lease.route other report (some retryAfter) permit
      (fun same clears => by rw [allowed same]; exact clears)
      (fun same fails => by rw [allowed same]; exact fails)
  | keyFailure failureClass =>
    have released := registry.releaseRouteLease_effects now lease.route other
      lease.routeGeneration permit fun same => by rw [allowed same]; rfl
    simpa [finish, observeKeyFailureAt_routes] using released
  | keyFailureWithRetry failureClass retryAfter =>
    have released := registry.releaseRouteLease_effects now lease.route other
      lease.routeGeneration permit fun same => by rw [allowed same]; rfl
    simpa [finish, observeKeyFailureAt_routes] using released
  | uncertainRouteFailure failureClass =>
    unfold finish
    dsimp only
    split
    next rearmed applied =>
      refine reapplyConcurrencyProbeDelay_effects _ now applied other permit fun same => ?_
      rw [allowed same, finishRoutePermit]
      split <;> rfl
    next kept =>
      rw [reapplyConcurrencyProbeDelay_none_iff] at kept
      have kept : registry.rearmsProbe lease = false := kept
      refine observeRouteFailureAt_effects (registry.releaseKeyLease lease.key lease.keyGeneration now)
        now digest lease.route other _ none permit (fun same clears => ?_) (fun same fails => ?_)
      · rw [allowed same, finishRoutePermit, if_neg (by simp [kept])]
        exact clears
      · rw [allowed same, finishRoutePermit, if_neg (by simp [kept])]
        exact fails
  | cancelled =>
    unfold finish
    dsimp only
    split
    next rearmed applied =>
      exact registry.reapplyConcurrencyProbeDelay_effects now applied other permit fun same => by
        rw [allowed same]; rfl
    next =>
      exact registry.releaseRouteLease_effects now lease.route other lease.routeGeneration permit
        fun same => by rw [allowed same]; rfl

theorem finish_key_effects (lease : HealthLease) (outcome : RouteOutcome) (other : KeyHealthKey)
    (permit : Permit)
    (allowed : other = lease.key → permit = registry.finishKeyPermit lease outcome) :
    EntryEffects now permit (registry.keys.lookup other)
      ((registry.finish digest lease outcome now).keys.lookup other) := by
  have released (release : other = lease.key → permit.release = lease.keyGeneration) :=
    registry.releaseKeyLease_effects now lease.key other lease.keyGeneration permit release
  cases outcome with
  | success =>
    unfold finish
    dsimp only
    split
    next leased =>
      exact effects_modify now permit _ lease.key other _ fun same state _ =>
        state.clear_effects now permit (by rw [allowed same]; exact leased)
    next => exact released fun same => by rw [allowed same]; rfl
  | routeFailure report =>
    rw [finish, observeRouteFailureAt_keys]
    exact released fun same => by rw [allowed same]; rfl
  | routeFailureWithRetry report retryAfter =>
    rw [finish, observeRouteFailureAt_keys]
    exact released fun same => by rw [allowed same]; rfl
  | keyFailure failureClass =>
    exact (registry.releaseRouteLease lease.route lease.routeGeneration now).observeKeyFailureAt_effects
      now digest lease.key other failureClass none permit
      (fun same clears => by rw [allowed same]; exact clears)
      (fun same fails => by rw [allowed same]; exact fails)
  | keyFailureWithRetry failureClass retryAfter =>
    exact (registry.releaseRouteLease lease.route lease.routeGeneration now).observeKeyFailureAt_effects
      now digest lease.key other failureClass (some retryAfter) permit
      (fun same clears => by rw [allowed same]; exact clears)
      (fun same fails => by rw [allowed same]; exact fails)
  | uncertainRouteFailure failureClass =>
    unfold finish
    dsimp only
    split
    next rearmed applied =>
      obtain ⟨_, _, _, -, -, -, -, rfl⟩ := reapplyConcurrencyProbeDelay_some _ now applied
      exact released fun same => by rw [allowed same]; rfl
    next =>
      rw [observeRouteFailureAt_keys]
      exact released fun same => by rw [allowed same]; rfl
  | cancelled =>
    unfold finish
    dsimp only
    split
    next rearmed applied =>
      obtain ⟨_, _, _, -, -, -, -, rfl⟩ := reapplyConcurrencyProbeDelay_some _ now applied
      exact released fun same => by rw [allowed same]; rfl
    next => exact released fun same => by rw [allowed same]; rfl

end Recorded

theorem effects_eraseClear {K : Type} [DecidableEq K] (permit : Permit)
    (table : Table K HealthState) (key other : K) :
    EntryEffects now permit (table.lookup other)
      ((if (table.lookup key).any (·.isClear) then table.erase key else table).lookup other) := by
  split
  next clear =>
    rw [Table.lookup_erase_eq]
    split
    next same =>
      subst same
      cases found : table.lookup other with
      | none => exact .refl
      | some state =>
        have clear : state.isClear = true := by simpa [found] using clear
        refine .single (.removed state ?_)
        simp only [HealthState.isClear, Bool.and_eq_true, Option.isNone_iff_eq_none] at clear
        simp [HealthState.isActive, clear]
    next => exact .refl
  next => exact .refl

theorem effects_retain {K : Type} [DecidableEq K] (permit : Permit) (table : Table K HealthState)
    (current : K → Bool) (other : K) :
    EntryEffects now permit (table.lookup other)
      ((table.retain fun key state => current key || state.isActive now).lookup other) := by
  rw [Table.lookup_retain]
  cases table.lookup other with
  | none => exact .refl
  | some state =>
    rw [Option.filter_some]
    split
    next => exact .refl
    next dropped => exact .single (.removed state (by simp_all))

theorem clampDeadline_self (deadline : Option Instant) :
    clampDeadline (deadline.getD 0) deadline = deadline := by
  cases deadline <;> simp [clampDeadline]

theorem updateRuntimeTuning_effects (settings : RouteHealthSettings) (route : RouteHealthKey)
    (permit : Permit) (allowed : permit.retune = true) :
    EntryEffects now permit (registry.routes.lookup route)
      ((registry.updateRuntimeTuning settings now).routes.lookup route) := by
  unfold updateRuntimeTuning
  dsimp only
  rw [Table.lookup_mapEntries]
  cases registry.routes.lookup route with
  | none => exact .refl
  | some state =>
    -- Only a transient server failure has its cooldown shortened.
    have clamped (cooldown : Instant) : EntryEffect now permit (some state) _ :=
      .retuned state cooldown (now + settings.normalize.halfOpenTtl)
        (now + settings.normalize.halfOpenExclusiveWindow) allowed
    dsimp only [Option.map_some]
    split
    next => exact .single (clamped _)
    next =>
      have kept := clamped (state.cooldownUntil.getD 0)
      rw [clampDeadline_self] at kept
      exact .single kept

theorem updateRuntimeTuning_key_effects (settings : RouteHealthSettings) (key : KeyHealthKey)
    (permit : Permit) (allowed : permit.retune = true) :
    EntryEffects now permit (registry.keys.lookup key)
      ((registry.updateRuntimeTuning settings now).keys.lookup key) := by
  unfold updateRuntimeTuning
  dsimp only
  rw [Table.lookup_mapEntries]
  cases registry.keys.lookup key with
  | none => exact .refl
  | some state =>
    have kept : EntryEffect now permit (some state) _ :=
      .retuned state (state.cooldownUntil.getD 0) (now + settings.normalize.halfOpenTtl)
        (now + settings.normalize.halfOpenExclusiveWindow) allowed
    rw [clampDeadline_self] at kept
    exact .single kept

end RouteHealthRegistry

namespace HealthOperation

variable (digest : List UInt8 → Nat) (operation : HealthOperation) (now : Instant)
  (registry : RouteHealthRegistry)

-- An operation changes the entry of a route only through the effects its permit allows.
theorem apply_route_effects (route : RouteHealthKey) :
    EntryEffects now
      (routePermit registry operation (operation.apply digest now registry).2 route)
      (registry.routes.lookup route)
      ((operation.apply digest now registry).1.routes.lookup route) := by
  cases operation with
  | reserve reserved key => exact registry.reserve_effects now reserved route key
  | reserveRouteHealthProbe reserved key =>
    exact registry.reserveRouteHealthProbe_effects now reserved route key
  | finish lease outcome =>
    exact registry.finish_effects now digest lease outcome route _ fun same => by
      simp [routePermit, same]
  | observeRouteFailure failed failureClass retryAfter shared =>
    exact registry.observeRouteFailureAt_effects now digest failed route _ retryAfter _
      (fun same clears => by simpa [routePermit, same] using clears)
      (fun same fails => by simpa [routePermit, same] using fails)
  | observeKeyFailure key failureClass retryAfter =>
    rw [apply, RouteHealthRegistry.observeKeyFailure,
      RouteHealthRegistry.observeKeyFailureAt_routes]
  | clearRouteHealth cleared =>
    exact effects_modify now _ _ cleared route _ fun same state _ =>
      state.clear_effects now _ (by simp [routePermit, same])
  | removeClearedRouteAndKey removed key =>
    exact RouteHealthRegistry.effects_eraseClear now _ registry.routes removed route
  | retainRoutes routeIsCurrent keyIsCurrent =>
    exact RouteHealthRegistry.effects_retain now _ registry.routes routeIsCurrent route
  | updateRuntimeTuning settings =>
    exact registry.updateRuntimeTuning_effects now settings route _ rfl
  | setRouteHealthEnforcementEnabled enabled => exact .refl

-- An operation changes the entry of a key only through the effects its permit allows.
theorem apply_key_effects (key : KeyHealthKey) :
    EntryEffects now
      (keyPermit registry operation (operation.apply digest now registry).2 key)
      (registry.keys.lookup key)
      ((operation.apply digest now registry).1.keys.lookup key) := by
  cases operation with
  | reserve route reserved => exact registry.reserve_key_effects now route reserved key
  | reserveRouteHealthProbe route reserved =>
    exact registry.reserveRouteHealthProbe_key_effects now route reserved key
  | finish lease outcome =>
    exact registry.finish_key_effects now digest lease outcome key _ fun same => by
      simp [keyPermit, same]
  | observeRouteFailure failed failureClass retryAfter shared =>
    rw [apply, RouteHealthRegistry.observeRouteFailure,
      RouteHealthRegistry.observeRouteFailureAt_keys]
  | observeKeyFailure failed failureClass retryAfter =>
    exact registry.observeKeyFailureAt_effects now digest failed key failureClass retryAfter _
      (fun same clears => by simpa [keyPermit, same] using clears)
      (fun same fails => by simpa [keyPermit, same] using fails)
  | clearRouteHealth cleared => exact .refl
  | removeClearedRouteAndKey route removed =>
    exact RouteHealthRegistry.effects_eraseClear now _ registry.keys removed key
  | retainRoutes routeIsCurrent keyIsCurrent =>
    exact RouteHealthRegistry.effects_retain now _ registry.keys keyIsCurrent key
  | updateRuntimeTuning settings =>
    exact registry.updateRuntimeTuning_key_effects now settings key _ rfl
  | setRouteHealthEnforcementEnabled enabled => exact .refl

end HealthOperation

end ChatGateway
