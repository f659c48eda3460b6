import ChatGateway.RouteHealth.System

set_option autoImplicit false

/-!
# Operations as failures that are recorded

An operation leaves the failures of every entry as they are or clears them, and then it may record
one more failure on a route or key.
-/

namespace ChatGateway

/-- The failures on an entry are as before or are gone, and only a saturated route gets a new
cooldown. -/
def HealthState.Quiet (before after : HealthState) : Prop :=
  (after.consecutiveFailures = before.consecutiveFailures ∧
      after.lastFailureClass = before.lastFailureClass ∧
      after.lastFailureAt = before.lastFailureAt ∧
      (after.cooldownUntil.isSome → before.cooldownUntil.isSome ∨
        before.lastFailureClass = some .concurrencySaturated)) ∨
    (after.consecutiveFailures = 0 ∧ after.lastFailureClass = none ∧ after.lastFailureAt = none ∧
      after.cooldownUntil = none)

namespace HealthState.Quiet

theorem same {before after : HealthState}
    (count : after.consecutiveFailures = before.consecutiveFailures)
    (failureClass : after.lastFailureClass = before.lastFailureClass)
    (moment : after.lastFailureAt = before.lastFailureAt)
    (cooldown : after.cooldownUntil.isSome → before.cooldownUntil.isSome) : before.Quiet after :=
  .inl ⟨count, failureClass, moment, fun cooling => .inl (cooldown cooling)⟩

theorem refl (state : HealthState) : state.Quiet state := .same rfl rfl rfl id

theorem cleared (state : HealthState) (now : Instant) : state.Quiet (state.clear now) :=
  .inr ⟨rfl, rfl, rfl, rfl⟩

theorem trans {first second third : HealthState} (one : first.Quiet second)
    (two : second.Quiet third) : first.Quiet third := by
  rcases two with ⟨count, failureClass, moment, late⟩ | gone
  · rcases one with ⟨count', failureClass', moment', early⟩ | ⟨count', failureClass', moment', none⟩
    · refine .inl ⟨count.trans count', failureClass.trans failureClass', moment.trans moment', ?_⟩
      intro cooling
      rcases late cooling with before | saturated
      · exact early before
      · exact .inr (failureClass' ▸ saturated)
    · refine .inr ⟨count.trans count', failureClass.trans failureClass', moment.trans moment', ?_⟩
      have still : ¬ third.cooldownUntil.isSome := fun cooling => by
        simpa [none, failureClass'] using late cooling
      simpa using still
  · exact .inr gone

theorem reserveGate (state : HealthState) (subject : String) (now : Instant) :
    state.Quiet (state.reserveGate subject now).1 := by
  unfold HealthState.reserveGate
  dsimp only
  repeat' split
  all_goals exact .same rfl rfl rfl id

theorem probeKeyGate (state : HealthState) (now : Instant) :
    state.Quiet (state.probeKeyGate now).1 := by
  unfold HealthState.probeKeyGate
  dsimp only
  repeat' split
  all_goals exact .same rfl rfl rfl id

theorem releaseHalfOpen (state : HealthState) (generation : Option Nat) (now : Instant) :
    state.Quiet (state.releaseHalfOpen generation now) := by
  unfold HealthState.releaseHalfOpen
  split
  all_goals exact .same rfl rfl rfl id

end HealthState.Quiet

def Quieted {K : Type} [DecidableEq K] (before after : Table K HealthState) : Prop :=
  ∀ key entry, after.lookup key = some entry →
    ∃ old, before.lookup key = some old ∧ old.Quiet entry

namespace Quieted

variable {K : Type} [DecidableEq K] {first second third : Table K HealthState}

theorem refl (table : Table K HealthState) : Quieted table table :=
  fun _ entry found => ⟨entry, found, .refl entry⟩

theorem trans (one : Quieted first second) (two : Quieted second third) : Quieted first third := by
  intro key entry found
  obtain ⟨middle, present, late⟩ := two key entry found
  obtain ⟨old, stored, early⟩ := one key middle present
  exact ⟨old, stored, early.trans late⟩

theorem mapEntries (table : Table K HealthState) {change : K → HealthState → HealthState}
    (quiet : ∀ key (state : HealthState), state.Quiet (change key state)) :
    Quieted table (table.mapEntries change) := by
  intro key entry found
  rw [Table.lookup_mapEntries, Option.map_eq_some_iff] at found
  obtain ⟨old, stored, rfl⟩ := found
  exact ⟨old, stored, quiet key old⟩

theorem modify (table : Table K HealthState) (key : K) {change : HealthState → HealthState}
    (quiet : ∀ state : HealthState, state.Quiet (change state)) : Quieted table (table.modify key change) :=
  mapEntries table fun other state => by
    by_cases same : other = key
    · rw [if_pos same]
      exact quiet state
    · rw [if_neg same]
      exact .refl state

theorem modify_found {table : Table K HealthState} {key : K} {state : HealthState}
    (found : table.lookup key = some state) {change : HealthState → HealthState}
    (quiet : state.Quiet (change state)) : Quieted table (table.modify key change) := by
  intro other entry stored
  rw [Table.lookup_modify] at stored
  by_cases same : other = key
  · subst same
    rw [if_pos rfl, found, Option.map_some] at stored
    cases stored
    exact ⟨state, found, quiet⟩
  · rw [if_neg same] at stored
    exact ⟨entry, stored, .refl entry⟩

theorem erase (table : Table K HealthState) (key : K) : Quieted table (table.erase key) := by
  intro other entry found
  rw [Table.lookup_erase_eq] at found
  split at found
  · cases found
  · exact ⟨entry, found, .refl entry⟩

theorem retain (table : Table K HealthState) (keep : K → HealthState → Bool) :
    Quieted table (table.retain keep) := by
  intro key entry found
  rw [Table.lookup_retain, Option.filter_eq_some_iff] at found
  exact ⟨entry, found.1, .refl entry⟩

theorem gateEntry (table : Table K HealthState) (key : K)
    {gate : HealthState → HealthState × Option ReserveAnswer}
    (quiet : ∀ state : HealthState, state.Quiet (gate state).1) :
    Quieted table (ChatGateway.gateEntry table key gate).1 := by
  unfold ChatGateway.gateEntry
  split
  · exact .refl table
  next state found => exact .modify_found found (quiet state)

theorem reordered {before after : Table K HealthState} (same : before.Reordered after) :
    Quieted before after := by
  intro key entry found
  rw [same.lookup] at found
  exact ⟨entry, found, .refl entry⟩

end Quieted

abbrev ReportedFailure := RouteHealthKey × RouteFailureReport × Option Duration

def RouteOutcome.reported (lease : HealthLease) : RouteOutcome → Option ReportedFailure
  | .routeFailure report => some (lease.route, report, none)
  | .routeFailureWithRetry report retryAfter => some (lease.route, report, some retryAfter)
  | .uncertainRouteFailure failureClass =>
    some (lease.route, { failureClass := failureClass }, none)
  | .success | .keyFailure _ | .keyFailureWithRetry _ _ | .cancelled => none

def HealthOperation.reported : HealthOperation → Option ReportedFailure
  | .finish lease outcome => outcome.reported lease
  | .observeRouteFailure route failureClass retryAfter sharedHostFailureDomain =>
    let report : RouteFailureReport :=
      { failureClass := failureClass, sharedHostFailureDomain := sharedHostFailureDomain }
    some (route, report, retryAfter)
  | _ => none

namespace RouteHealthRegistry

structure Quieter (before after : RouteHealthRegistry) : Prop where
  routes : Quieted before.routes after.routes
  keys : Quieted before.keys after.keys
  routeCapacity : after.routeCapacity = before.routeCapacity
  perUpstreamCapacity : after.perUpstreamCapacity = before.perUpstreamCapacity

namespace Quieter

theorem refl (registry : RouteHealthRegistry) : Quieter registry registry :=
  ⟨.refl _, .refl _, rfl, rfl⟩

theorem trans {first second third : RouteHealthRegistry} (one : Quieter first second)
    (two : Quieter second third) : Quieter first third where
  routes := one.routes.trans two.routes
  keys := one.keys.trans two.keys
  routeCapacity := two.routeCapacity.trans one.routeCapacity
  perUpstreamCapacity := two.perUpstreamCapacity.trans one.perUpstreamCapacity

end Quieter

section Operations

variable (registry : RouteHealthRegistry) (now : Instant)

theorem reserveExpiredHalfOpenKey_quieter (key : KeyHealthKey) :
    Quieter registry (registry.reserveExpiredHalfOpenKey key now).1 := by
  unfold reserveExpiredHalfOpenKey
  split
  · exact ⟨.refl _, .modify _ _ fun _ => .same rfl rfl rfl id, rfl, rfl⟩
  · exact .refl registry

theorem reserveExpiredHalfOpenRoute_quieter (route : RouteHealthKey) :
    Quieter registry (registry.reserveExpiredHalfOpenRoute route now).1 := by
  unfold reserveExpiredHalfOpenRoute
  split
  · exact ⟨.modify _ _ fun _ => .same rfl rfl rfl id, .refl _, rfl, rfl⟩
  · exact .refl registry

theorem passthroughAdmission_quieter (route : RouteHealthKey) (key : KeyHealthKey) :
    Quieter registry (registry.passthroughAdmission route key now).1 :=
  ⟨.modify _ _ fun _ => .same rfl rfl rfl id, .modify _ _ fun _ => .same rfl rfl rfl id, rfl, rfl⟩

theorem reserve_quieter (route : RouteHealthKey) (key : KeyHealthKey) :
    Quieter registry (registry.reserve route key now).1 := by
  unfold reserve
  split
  · exact registry.passthroughAdmission_quieter now route key
  · dsimp only
    have keys : Quieted registry.keys
        (gateEntry registry.keys key (HealthState.reserveGate "key" now)).1 :=
      .gateEntry _ _ fun state => .reserveGate state "key" now
    have routes : Quieted registry.routes
        (gateEntry registry.routes route (HealthState.reserveGate "route" now)).1 :=
      .gateEntry _ _ fun state => .reserveGate state "route" now
    split
    · exact ⟨.refl _, keys, rfl, rfl⟩
    · split
      · exact ⟨routes, keys, rfl, rfl⟩
      · have gated : Quieter registry { registry with
            keys := (gateEntry registry.keys key (HealthState.reserveGate "key" now)).1
            routes := (gateEntry registry.routes route (HealthState.reserveGate "route" now)).1 } :=
          ⟨routes, keys, rfl, rfl⟩
        exact gated.trans ((reserveExpiredHalfOpenKey_quieter _ now key).trans
          (reserveExpiredHalfOpenRoute_quieter _ now route))

theorem reserveRouteHealthProbe_quieter (route : RouteHealthKey) (key : KeyHealthKey) :
    Quieter registry (registry.reserveRouteHealthProbe route key now).1 := by
  unfold reserveRouteHealthProbe
  split
  · exact registry.passthroughAdmission_quieter now route key
  · dsimp only
    have keys : Quieted registry.keys
        (gateEntry registry.keys key (HealthState.probeKeyGate now)).1 :=
      .gateEntry _ _ fun state => .probeKeyGate state now
    have gated : Quieter registry { registry with
        keys := (gateEntry registry.keys key (HealthState.probeKeyGate now)).1 } :=
      ⟨.refl _, keys, rfl, rfl⟩
    split
    · exact gated
    split
    · exact gated
    have touched : Quieter registry { registry with
        keys := (gateEntry registry.keys key (HealthState.probeKeyGate now)).1
        routes := registry.routes.modify route (·.touch now) } :=
      ⟨.modify _ _ fun _ => .same rfl rfl rfl id, keys, rfl, rfl⟩
    split
    · exact touched
    split
    · exact touched
    · refine touched.trans ((reserveExpiredHalfOpenKey_quieter _ now key).trans ?_)
      exact ⟨.modify _ _ fun _ => .same rfl rfl rfl id, .refl _, rfl, rfl⟩

theorem releaseKeyLease_quieter (key : KeyHealthKey) (generation : Option Nat) :
    Quieter registry (registry.releaseKeyLease key generation now) :=
  ⟨.refl _, .modify _ _ fun state => .releaseHalfOpen state generation now, rfl, rfl⟩

theorem releaseRouteLease_quieter (route : RouteHealthKey) (generation : Option Nat) :
    Quieter registry (registry.releaseRouteLease route generation now) :=
  ⟨.modify _ _ fun state => .releaseHalfOpen state generation now, .refl _, rfl, rfl⟩

theorem reapplyConcurrencyProbeDelay_quieter {lease : HealthLease} {rearmed : RouteHealthRegistry}
    (applied : registry.reapplyConcurrencyProbeDelay lease now = some rearmed) :
    Quieter registry rearmed := by
  obtain ⟨state, _, _, found, -, -, saturated, rfl⟩ :=
    registry.reapplyConcurrencyProbeDelay_some now applied
  exact ⟨.modify_found found (.inl ⟨rfl, rfl, rfl, fun _ => .inr saturated⟩), .refl _, rfl, rfl⟩

theorem clearRoute_quieter (route : RouteHealthKey) :
    Quieter registry (registry.clearRoute route now) :=
  ⟨.modify _ _ fun state => .cleared state now, .refl _, rfl, rfl⟩

theorem clearKey_quieter (key : KeyHealthKey) : Quieter registry (registry.clearKey key now) :=
  ⟨.refl _, .modify _ _ fun state => .cleared state now, rfl, rfl⟩

theorem clearRouteForSuccess_quieter (lease : HealthLease) :
    Quieter registry (registry.clearRouteForSuccess lease now) := by
  refine ⟨.modify _ _ fun state => ?_, .refl _, rfl, rfl⟩
  dsimp only
  split
  · exact .cleared state now
  · exact .refl state

theorem removeClearedRouteAndKey_quieter (route : RouteHealthKey) (key : KeyHealthKey) :
    Quieter registry (registry.removeClearedRouteAndKey route key) := by
  refine ⟨?_, ?_, rfl, rfl⟩
  · unfold removeClearedRouteAndKey
    dsimp only
    split
    · exact .erase _ _
    · exact .refl _
  · unfold removeClearedRouteAndKey
    dsimp only
    split
    · exact .erase _ _
    · exact .refl _

theorem updateRuntimeTuning_quieter (settings : RouteHealthSettings) :
    Quieter registry (registry.updateRuntimeTuning settings now) := by
  refine ⟨.mapEntries _ fun route state => ?_, .mapEntries _ fun _ _ => .same rfl rfl rfl id, rfl, rfl⟩
  dsimp only
  split
  · refine .same rfl rfl rfl fun cooling => ?_
    simpa [clampDeadline] using cooling
  · exact .same rfl rfl rfl id

/-- Nothing more is done to the registry, or a failure with a cooldown is noted on it: the reported
one of a route, or one of a key. -/
inductive Records (digest : List UInt8 → Nat) (reported : Option ReportedFailure)
    (middle : RouteHealthRegistry) : RouteHealthRegistry → Prop
  | nothing : Records digest reported middle middle
  | route (route : RouteHealthKey) (report : RouteFailureReport) (explicitRetry : Option Duration)
      (source : reported = some (route, report, explicitRetry))
      (cools : routeFailureHasCooldown report.failureClass = true) :
      Records digest reported middle
        (middle.observeRouteFailureAt digest route report explicitRetry now)
  | key (key : KeyHealthKey) (failureClass : RouteFailureClass) (explicitRetry : Option Duration)
      (cools : keyFailureHasCooldown failureClass = true) :
      Records digest reported middle
        (middle.observeKeyFailureAt digest key failureClass explicitRetry now)

variable (digest : List UInt8 → Nat) (reported : Option ReportedFailure)

def QuietThenRecords (after : RouteHealthRegistry) : Prop :=
  ∃ middle, Quieter registry middle ∧ Records now digest reported middle after

theorem quietThenRecords_of_quieter {after : RouteHealthRegistry}
    (quieter : Quieter registry after) : QuietThenRecords registry now digest reported after :=
  ⟨after, quieter, .nothing⟩

theorem observeRouteFailureAt_records {middle : RouteHealthRegistry}
    (quieter : Quieter registry middle) (route : RouteHealthKey) (report : RouteFailureReport)
    (explicitRetry : Option Duration) :
    QuietThenRecords registry now digest (some (route, report, explicitRetry))
      (middle.observeRouteFailureAt digest route report explicitRetry now) := by
  by_cases cools : routeFailureHasCooldown report.failureClass = true
  · exact ⟨middle, quieter, .route route report explicitRetry rfl cools⟩
  · rw [observeRouteFailureAt, if_pos (by simpa using cools)]
    exact quietThenRecords_of_quieter _ _ _ _ (quieter.trans (middle.clearRoute_quieter now route))

theorem observeKeyFailureAt_records {middle : RouteHealthRegistry}
    (quieter : Quieter registry middle) (key : KeyHealthKey) (failureClass : RouteFailureClass)
    (explicitRetry : Option Duration) :
    QuietThenRecords registry now digest reported
      (middle.observeKeyFailureAt digest key failureClass explicitRetry now) := by
  by_cases cools : keyFailureHasCooldown failureClass = true
  · exact ⟨middle, quieter, .key key failureClass explicitRetry cools⟩
  · rw [observeKeyFailureAt, if_pos (by simpa using cools)]
    exact quietThenRecords_of_quieter _ _ _ _ (quieter.trans (middle.clearKey_quieter now key))

theorem finish_records (lease : HealthLease) (outcome : RouteOutcome) :
    QuietThenRecords registry now digest (outcome.reported lease)
      (registry.finish digest lease outcome now) := by
  have keyReleased := registry.releaseKeyLease_quieter now lease.key lease.keyGeneration
  have routeReleased := registry.releaseRouteLease_quieter now lease.route lease.routeGeneration
  cases outcome with
  | success =>
    have cleared := registry.clearRouteForSuccess_quieter now lease
    unfold finish
    dsimp only
    split
    · exact quietThenRecords_of_quieter _ _ _ _ (cleared.trans (clearKey_quieter _ now _))
    · exact quietThenRecords_of_quieter _ _ _ _ (cleared.trans (releaseKeyLease_quieter _ now _ _))
  | routeFailure report => exact observeRouteFailureAt_records _ _ _ keyReleased _ _ _
  | routeFailureWithRetry report retryAfter =>
    exact observeRouteFailureAt_records _ _ _ keyReleased _ _ _
  | keyFailure failureClass => exact observeKeyFailureAt_records _ _ _ _ routeReleased _ _ _
  | keyFailureWithRetry failureClass retryAfter =>
    exact observeKeyFailureAt_records _ _ _ _ routeReleased _ _ _
  | uncertainRouteFailure failureClass =>
    unfold finish
    dsimp only
    split
    next rearmed applied =>
      exact quietThenRecords_of_quieter _ _ _ _
        (keyReleased.trans (reapplyConcurrencyProbeDelay_quieter _ now applied))
    next => exact observeRouteFailureAt_records _ _ _ keyReleased _ _ _
  | cancelled =>
    unfold finish
    dsimp only
    split
    next rearmed applied =>
      exact quietThenRecords_of_quieter _ _ _ _
        ((reapplyConcurrencyProbeDelay_quieter _ now applied).trans
          (releaseKeyLease_quieter _ now _ _))
    next =>
      exact quietThenRecords_of_quieter _ _ _ _
        (routeReleased.trans (releaseKeyLease_quieter _ now _ _))

theorem apply_records (operation : HealthOperation) :
    QuietThenRecords registry now digest operation.reported
      (operation.apply digest now registry).1 := by
  cases operation with
  | reserve route key => exact quietThenRecords_of_quieter _ _ _ _ (registry.reserve_quieter now route key)
  | reserveRouteHealthProbe route key =>
    exact quietThenRecords_of_quieter _ _ _ _ (registry.reserveRouteHealthProbe_quieter now route key)
  | finish lease outcome => exact registry.finish_records now digest lease outcome
  | observeRouteFailure route failureClass retryAfter shared =>
    exact observeRouteFailureAt_records _ _ _ (.refl registry) _ _ _
  | observeKeyFailure key failureClass retryAfter =>
    exact observeKeyFailureAt_records _ _ _ _ (.refl registry) _ _ _
  | clearRouteHealth route =>
    exact quietThenRecords_of_quieter _ _ _ _ (registry.clearRoute_quieter now route)
  | removeClearedRouteAndKey route key =>
    exact quietThenRecords_of_quieter _ _ _ _ (registry.removeClearedRouteAndKey_quieter route key)
  | retainRoutes routeIsCurrent keyIsCurrent =>
    exact quietThenRecords_of_quieter _ _ _ _ ⟨.retain _ _, .retain _ _, rfl, rfl⟩
  | updateRuntimeTuning settings =>
    exact quietThenRecords_of_quieter _ _ _ _ (registry.updateRuntimeTuning_quieter now settings)
  | setRouteHealthEnforcementEnabled enabled =>
    exact quietThenRecords_of_quieter _ _ _ _ ⟨.refl _, .refl _, rfl, rfl⟩

end Operations

end RouteHealthRegistry

end ChatGateway
