import ChatGateway.RouteHealth.CooldownBounds

set_option autoImplicit false

/-!
# New tuning on live state

What `update_runtime_tuning` does to the cooldowns and leases that are already stored, and to the
failures after it.
-/

namespace ChatGateway

def RouteFailureReport.onTransientCurve (report : RouteFailureReport) : Bool :=
  match (if report.isSharedHost then .edgeProxyError else report.failureClass) with
  | .capacityUnavailable | .rateLimited | .keyQuota | .modelUnsupported | .edgeProxyError
  | .concurrencySaturated => false
  | _ => true

theorem localCooldown_of_onTransientCurve (digest : List UInt8 → Nat) (tuning : RouteHealthTuning)
    (route : RouteHealthKey) {report : RouteFailureReport} (curve : report.onTransientCurve = true)
    (step : Nat) :
    localCooldown digest tuning route report step =
      jitteredBackoff digest tuning.transientRouteCooldownBase step
        tuning.transientRouteCooldownMax
        (routeJitterMaterial route report.failureClass step) := by
  unfold RouteFailureReport.onTransientCurve at curve
  unfold localCooldown routeCooldownWithConcurrencyDelays routeCooldown
  by_cases shared : report.isSharedHost = true
  · simp [shared] at curve
  · rw [if_neg shared] at curve ⊢
    cases same : report.failureClass
    all_goals first
      | rfl
      | simp [same] at curve

theorem RouteFailureReport.server_of_onTransientCurve (report : RouteFailureReport)
    (curve : report.onTransientCurve = true)
    (cools : routeFailureHasCooldown report.failureClass = true)
    (delivered : report.failureClass ≠ .transport) : report.failureClass = .transientServer := by
  cases shared : report.isSharedHost with
  | true => simp [onTransientCurve, shared] at curve
  | false =>
    cases same : report.failureClass <;> simp_all [onTransientCurve, routeFailureHasCooldown]

namespace HealthOperation

def rearms (registry : RouteHealthRegistry) : HealthOperation → Bool
  | .finish lease (.uncertainRouteFailure _) => registry.rearmsProbe lease
  | _ => false

def observed (operation : HealthOperation) (registry : RouteHealthRegistry) :
    Option ReportedFailure :=
  if operation.rearms registry then none else operation.reported

def curvedAfter (operation : HealthOperation) (registry : RouteHealthRegistry) (now : Instant)
    (curved : RouteHealthKey → Bool) : RouteHealthKey → Bool :=
  match operation.observed registry with
  | some (route, report, explicitRetry) =>
    if registry.recordsRouteFailure route report now then
      Function.update curved route (report.onTransientCurve && explicitRetry.isNone)
    else
      curved
  | none => curved

end HealthOperation

structure CurvedSystem where
  system : HealthSystem
  curved : RouteHealthKey → Bool

namespace CurvedSystem

def Initial (state : CurvedSystem) : Prop :=
  state.system.Initial ∧ state.curved = fun _ => false

def curvedBy (before : CurvedSystem) (label : Option HealthOperation) (now : Instant) :
    RouteHealthKey → Bool :=
  match label with
  | some operation => operation.curvedAfter before.system.registry now before.curved
  | none => before.curved

end CurvedSystem

def CurvedStep (digest : List UInt8 → Nat) (before : CurvedSystem)
    (label : Option HealthOperation) (after : CurvedSystem) : Prop :=
  HealthStep digest before.system label after.system ∧
    after.curved = before.curvedBy label after.system.now

def NoLater (after before : Option Instant) : Prop :=
  ∀ late ∈ after, ∃ early ∈ before, late ≤ early

theorem NoLater.refl (deadline : Option Instant) : NoLater deadline deadline :=
  fun late present => ⟨late, present, Nat.le_refl _⟩

theorem NoLater.clamp (bound : Instant) (deadline : Option Instant) :
    NoLater (RouteHealthRegistry.clampDeadline bound deadline) deadline := by
  intro late present
  obtain ⟨early, stored, rfl⟩ := Option.map_eq_some_iff.1 present
  exact ⟨early, stored, Nat.min_le_left _ _⟩

theorem clampDeadline_le {bound late : Instant} {deadline : Option Instant}
    (present : late ∈ RouteHealthRegistry.clampDeadline bound deadline) : late ≤ bound := by
  obtain ⟨early, -, rfl⟩ := Option.map_eq_some_iff.1 present
  exact Nat.min_le_right _ _

namespace HealthState

def LeasedWithin (tuning : RouteHealthTuning) (now : Instant) (state : HealthState) : Prop :=
  (∀ expiry ∈ state.halfOpenExpiresAt, expiry ≤ now + tuning.halfOpenTtl) ∧
    ∀ expiry ∈ state.halfOpenExclusiveUntil, expiry ≤ now + tuning.halfOpenExclusiveWindow

structure Shortened (before after : HealthState) : Prop where
  cooldown : NoLater after.cooldownUntil before.cooldownUntil
  lease : NoLater after.halfOpenExpiresAt before.halfOpenExpiresAt
  exclusive : NoLater after.halfOpenExclusiveUntil before.halfOpenExclusiveUntil

end HealthState

structure TakesEffect (curved : RouteHealthKey → Bool) (tuning : RouteHealthTuning) (now : Instant)
    (before after : RouteHealthRegistry) : Prop where
  curves : ∀ route entry deadline, after.routes.lookup route = some entry →
    curved route = true → entry.cooldownUntil = some deadline →
      deadline ≤ now + tuning.transientRouteCooldownMax
  routes : ∀ route entry, after.routes.lookup route = some entry →
    entry.LeasedWithin tuning now ∧
      ∃ old, before.routes.lookup route = some old ∧ old.Shortened entry
  keys : ∀ key entry, after.keys.lookup key = some entry →
    entry.LeasedWithin tuning now ∧
      ∃ old, before.keys.lookup key = some old ∧ old.Shortened entry

namespace RouteHealthRegistry

section Update

variable (registry : RouteHealthRegistry) (settings : RouteHealthSettings) (now : Instant)

def retuneRoute (tuning : RouteHealthTuning) (state : HealthState) : HealthState :=
  { state with
    cooldownUntil :=
      if state.lastFailureClass = some .transientServer then
        clampDeadline (now + tuning.transientRouteCooldownMax) state.cooldownUntil
      else state.cooldownUntil
    halfOpenExpiresAt := clampDeadline (now + tuning.halfOpenTtl) state.halfOpenExpiresAt
    halfOpenExclusiveUntil :=
      clampDeadline (now + tuning.halfOpenExclusiveWindow) state.halfOpenExclusiveUntil }

theorem updateRuntimeTuning_lookup (route : RouteHealthKey) :
    (registry.updateRuntimeTuning settings now).routes.lookup route =
      (registry.routes.lookup route).map (retuneRoute now settings.normalize) := by
  unfold updateRuntimeTuning
  dsimp only
  rw [Table.lookup_mapEntries]
  refine congrArg (fun change => (registry.routes.lookup route).map change) (funext fun state => ?_)
  unfold retuneRoute
  split
  · rfl
  · rfl

theorem retuneRoute_shortened (tuning : RouteHealthTuning) (state : HealthState) :
    state.Shortened (retuneRoute now tuning state) where
  cooldown := by
    unfold retuneRoute
    dsimp only
    split
    · exact .clamp _ _
    · exact .refl _
  lease := .clamp _ _
  exclusive := .clamp _ _

-- The update is in force exactly when every cooldown of the transient curve that is too long
-- belongs to a transient server failure.
theorem updateRuntimeTuning_takesEffect_iff (curved : RouteHealthKey → Bool) :
    TakesEffect curved settings.normalize now registry (registry.updateRuntimeTuning settings now) ↔
      ∀ route entry deadline, registry.routes.lookup route = some entry → curved route = true →
        entry.cooldownUntil = some deadline →
          entry.lastFailureClass = some .transientServer ∨
            deadline ≤ now + settings.normalize.transientRouteCooldownMax := by
  constructor
  · intro effect route entry deadline found marked cooling
    by_cases server : entry.lastFailureClass = some .transientServer
    · exact .inl server
    · refine .inr (effect.curves route (retuneRoute now settings.normalize entry) deadline ?_
        marked ?_)
      · rw [updateRuntimeTuning_lookup, found, Option.map_some]
      · rw [retuneRoute, if_neg server]
        exact cooling
  · intro short
    refine ⟨fun route entry deadline found marked cooling => ?_, fun route entry found => ?_,
      fun key entry found => ?_⟩
    · rw [updateRuntimeTuning_lookup, Option.map_eq_some_iff] at found
      obtain ⟨old, stored, rfl⟩ := found
      unfold retuneRoute at cooling
      dsimp only at cooling
      split at cooling
      next => exact clampDeadline_le cooling
      next other => exact (short route old deadline stored marked cooling).resolve_left other
    · rw [updateRuntimeTuning_lookup, Option.map_eq_some_iff] at found
      obtain ⟨old, stored, rfl⟩ := found
      exact ⟨⟨fun _ => clampDeadline_le, fun _ => clampDeadline_le⟩, old, stored,
        retuneRoute_shortened now _ old⟩
    · have stored := found
      unfold updateRuntimeTuning at stored
      dsimp only at stored
      rw [Table.lookup_mapEntries, Option.map_eq_some_iff] at stored
      obtain ⟨old, stored, rfl⟩ := stored
      exact ⟨⟨fun _ => clampDeadline_le, fun _ => clampDeadline_le⟩, old, stored,
        ⟨.refl _, .clamp _ _, .clamp _ _⟩⟩

end Update

section Observed

variable (registry : RouteHealthRegistry) (keys : Table KeyHealthKey HealthState)
  (now : Instant) (digest : List UInt8 → Nat)

theorem recordsRouteFailure_withKeys (route : RouteHealthKey) (report : RouteFailureReport) :
    ({ registry with keys := keys } : RouteHealthRegistry).recordsRouteFailure route report now =
      registry.recordsRouteFailure route report now := by
  refine congrArg (fun room => routeFailureHasCooldown report.failureClass &&
    !registry.observesRouteCapacity report && room) ?_
  unfold ensureRouteCapacity
  dsimp only
  split
  · rfl
  · split
    · split
      next candidate chosen =>
        rw [chosen]
        rfl
      next none => rw [none]
    · rfl

-- An operation observes its failure of a route before anything else changes the routes, or it has
-- none and is quiet.
theorem apply_observed (operation : HealthOperation) :
    match operation.observed registry with
    | some (route, report, explicitRetry) =>
      ∃ keys, (operation.apply digest now registry).1 =
        ({ registry with keys := keys } : RouteHealthRegistry).observeRouteFailureAt digest route
          report explicitRetry now
    | none => Quieted registry.routes (operation.apply digest now registry).1.routes := by
  have quiet (silent : operation.reported = none) :
      Quieted registry.routes (operation.apply digest now registry).1.routes := by
    obtain ⟨middle, quieter, records⟩ := registry.apply_records now digest operation
    generalize (operation.apply digest now registry).1 = after at records
    cases records with
    | nothing => exact quieter.routes
    | key key failureClass explicitRetry =>
      rw [middle.observeKeyFailureAt_routes now digest key failureClass explicitRetry]
      exact quieter.routes
    | route route report explicitRetry source => exact absurd (silent.symm.trans source) (by simp)
  cases operation with
  | finish lease outcome =>
    cases outcome with
    | routeFailure report => exact ⟨_, rfl⟩
    | routeFailureWithRetry report retryAfter => exact ⟨_, rfl⟩
    | uncertainRouteFailure failureClass =>
      cases armed : registry.rearmsProbe lease with
      | false =>
        have none : (registry.releaseKeyLease lease.key lease.keyGeneration
            now).reapplyConcurrencyProbeDelay lease now = none :=
          (reapplyConcurrencyProbeDelay_none_iff _ now lease).2 armed
        simp only [HealthOperation.observed, HealthOperation.rearms, armed,
          HealthOperation.reported, RouteOutcome.reported, HealthOperation.apply, finish, none]
        exact ⟨_, rfl⟩
      | true =>
        simp only [HealthOperation.observed, HealthOperation.rearms, armed, if_true,
          HealthOperation.apply, finish]
        split
        next rearmed applied =>
          exact (reapplyConcurrencyProbeDelay_quieter _ now applied).routes
        next none =>
          have unarmed := (reapplyConcurrencyProbeDelay_none_iff _ now lease).1 none
          exact absurd (armed.symm.trans unarmed) (by simp)
    | _ => exact quiet rfl
  | observeRouteFailure route failureClass retryAfter shared => exact ⟨_, rfl⟩
  | _ => exact quiet rfl

end Observed

def CurvesServer (registry : RouteHealthRegistry) (curved : RouteHealthKey → Bool) : Prop :=
  ∀ route entry, registry.routes.lookup route = some entry → curved route = true →
    entry.lastFailureClass ≠ some .concurrencySaturated ∧
      (entry.cooldownUntil.isSome → entry.lastFailureClass = some .transientServer)

namespace CurvesServer

variable {registry after : RouteHealthRegistry} {curved : RouteHealthKey → Bool}

theorem quiet (serves : registry.CurvesServer curved)
    (settled : Quieted registry.routes after.routes) : after.CurvesServer curved := by
  intro route entry found marked
  obtain ⟨old, stored, quiet⟩ := settled route entry found
  obtain ⟨unsaturated, server⟩ := serves route old stored marked
  rcases quiet with ⟨-, same, -, cooldown⟩ | ⟨-, none, -, gone⟩
  · rw [same]
    refine ⟨unsaturated, fun cooling => ?_⟩
    exact server ((cooldown cooling).resolve_right unsaturated)
  · rw [none, gone]
    exact ⟨nofun, nofun⟩

end CurvesServer

end RouteHealthRegistry

/-- A failure on the transient curve is one of a server, and a capacity failure that is only
observed does not take the class of a route that is cooling by the curve. -/
def HealthOperation.KeepsCurves (registry : RouteHealthRegistry) (curved : RouteHealthKey → Bool)
    (operation : HealthOperation) : Prop :=
  ∀ route report explicitRetry, operation.observed registry = some (route, report, explicitRetry) →
    (report.failureClass = .transport → explicitRetry.isSome) ∧
      (registry.observesRouteCapacity report = true → ∀ entry,
        registry.routes.lookup route = some entry → curved route = true →
          entry.cooldownUntil = none)

namespace RouteHealthRegistry

theorem CurvesServer.apply {registry : RouteHealthRegistry} {curved : RouteHealthKey → Bool}
    {operation : HealthOperation} (digest : List UInt8 → Nat) (now : Instant)
    (serves : registry.CurvesServer curved) (keeps : operation.KeepsCurves registry curved) :
    (operation.apply digest now registry).1.CurvesServer
      (operation.curvedAfter registry now curved) := by
  have applied := registry.apply_observed now digest operation
  unfold HealthOperation.curvedAfter
  generalize (operation.apply digest now registry).1 = after at applied
  cases observed : operation.observed registry with
  | none =>
    rw [observed] at applied
    exact serves.quiet applied
  | some failure =>
    obtain ⟨route, report, explicitRetry⟩ := failure
    rw [observed] at applied
    obtain ⟨keys, rfl⟩ := applied
    obtain ⟨transport, capacity⟩ := keeps route report explicitRetry observed
    have records := registry.recordsRouteFailure_withKeys keys now route report
    dsimp only
    by_cases cools : routeFailureHasCooldown report.failureClass = true
    · intro other entry found marked
      by_cases recorded : registry.recordsRouteFailure route report now = true
      · rw [if_pos recorded] at marked
        by_cases own : other = route
        · subst own
          rw [observeRouteFailureAt_lookup (records.trans recorded)] at found
          cases found
          rw [Function.update_self, Bool.and_eq_true] at marked
          have server : report.failureClass = .transientServer := by
            obtain ⟨curve, plain⟩ := marked
            refine report.server_of_onTransientCurve curve cools fun failed => ?_
            rw [Option.isNone_iff_eq_none] at plain
            simpa [plain] using transport failed
          change some report.failureClass ≠ _ ∧ (_ → some report.failureClass = _)
          rw [server]
          exact ⟨nofun, fun _ => rfl⟩
        · rw [Function.update_of_ne own] at marked
          rcases observeRouteFailureAt_cases cools found with kept | ⟨same, -⟩ | ⟨same, -⟩
          · exact serves other entry kept marked
          · exact absurd same own
          · exact absurd same own
      · rw [if_neg recorded] at marked
        rcases observeRouteFailureAt_cases cools found with kept | ⟨-, stored, -⟩ |
          ⟨rfl, noted, rfl⟩
        · exact serves other entry kept marked
        · exact absurd (records.symm.trans stored) recorded
        · -- the observation takes the class, so nothing may be cooling by the curve
          have idle := capacity noted
          simp only [observesRouteCapacity, Bool.and_eq_true] at noted
          have limited : some report.failureClass ≠ some .concurrencySaturated := by
            intro saturated
            cases Option.some.inj saturated ▸ noted.1
          refine ⟨limited, fun cooling => ?_⟩
          change (registry.failedEntry other now).cooldownUntil.isSome at cooling
          unfold failedEntry at cooling
          cases stored : registry.routes.lookup other with
          | none =>
            rw [stored] at cooling
            cases cooling
          | some entry =>
            rw [stored, Option.getD_some, idle entry stored marked] at cooling
            cases cooling
    · have uncooled : (!routeFailureHasCooldown report.failureClass) = true := by simpa using cools
      have unrecorded : registry.recordsRouteFailure route report now = false := by
        simp [recordsRouteFailure, cools]
      rw [unrecorded, observeRouteFailureAt, if_pos uncooled]
      exact serves.quiet
        (clearRoute_quieter { registry with keys := keys } now route).routes

def StepWithin (digest : List UInt8 → Nat) (registry : RouteHealthRegistry) (limit : Nat)
    (route : RouteHealthKey) (report : RouteFailureReport) (explicitRetry : Option Duration)
    (now : Instant) : Prop :=
  registry.recordsRouteFailure route report now = true →
    report.failureClass ≠ .concurrencySaturated →
      ∃ entry, (registry.observeRouteFailureAt digest route report explicitRetry now).routes.lookup
          route = some entry ∧
        entry.consecutiveFailures ≤ limit

theorem stepWithin_iff {digest : List UInt8 → Nat} {registry : RouteHealthRegistry}
    {route : RouteHealthKey} {report : RouteFailureReport} {explicitRetry : Option Duration}
    {now : Instant} (usable : registry.tuning.Usable) :
    registry.StepWithin digest registry.tuning.transientRouteCooldownMaxStep route report
        explicitRetry now ↔
      (registry.recordsRouteFailure route report now = true →
        report.failureClass ≠ .concurrencySaturated →
          (registry.failedEntry route now).keepsHighStep registry.tuning report now = false) := by
  refine forall_congr' fun recorded => forall_congr' fun limited => ?_
  rw [observeRouteFailureAt_lookup recorded,
    ← HealthState.recordedStep_le_iff _ registry.tuning report now usable limited]
  simp only [Option.some.injEq, exists_eq_left', recordRouteFailure_step]

end RouteHealthRegistry

def CurveKept (state : CurvedSystem) (label : Option HealthOperation) : Prop :=
  ∀ operation ∈ label, operation.KeepsCurves state.system.registry state.curved

theorem curvesServer_of_run {digest : List UInt8 → Nat} {first state : CurvedSystem}
    (initial : first.Initial)
    (run : Transition.Steps (CurvedStep digest) CurveKept first state) :
    state.system.registry.CurvesServer state.curved := by
  refine run.invariant (fun state => state.system.registry.CurvesServer state.curved) ?_ ?_
  · rintro ⟨before, curved⟩ label ⟨after, marks⟩ ⟨step, marked⟩ guarded serves
    dsimp only at step marked serves
    subst marked
    cases step with
    | operate operation now => exact serves.apply digest now (guarded operation rfl)
    | reorder routes keys sameRoutes => exact serves.quiet (.reordered sameRoutes)
  · intro route entry _ marked
    rw [initial.2] at marked
    cases marked

def HealthSystem.retune (digest : List UInt8 → Nat) (system : HealthSystem)
    (settings : RouteHealthSettings) (now : Instant) : HealthSystem :=
  system.perform digest (.updateRuntimeTuning settings) now

theorem HealthSystem.retune_tuning {digest : List UInt8 → Nat} {system later : HealthSystem}
    {settings : RouteHealthSettings} {now : Instant}
    (run : Transition.Steps (HealthStep digest) FixedTuning (system.retune digest settings now)
      later) : later.registry.tuning = settings.normalize := by
  refine run.invariant (fun later => later.registry.tuning = settings.normalize) ?_ rfl
  rintro before label after step guarded tuned
  cases step with
  | operate operation moment =>
    exact (operation.apply_tuning digest moment _ (guarded operation rfl)).trans tuned
  | reorder => exact tuned

def RouteHealthRegistry.StepsFit (registry : RouteHealthRegistry) (settings : RouteHealthSettings) :
    Prop :=
  ∀ route entry, registry.routes.lookup route = some entry →
    entry.lastFailureClass ≠ some .concurrencySaturated →
      entry.consecutiveFailures ≤ settings.normalize.transientRouteCooldownMaxStep

theorem RouteHealthRegistry.StepsFit.retuned {digest : List UInt8 → Nat}
    {system later : HealthSystem} {settings : RouteHealthSettings} {now : Instant}
    (fit : system.registry.StepsFit settings)
    (run : Transition.Steps (HealthStep digest) FixedSteps (system.retune digest settings now)
      later) : later.registry.StepsWithin := by
  have quieter := system.registry.updateRuntimeTuning_quieter now settings
  have start : (system.retune digest settings now).registry.StepsWithin :=
    @StepsWithin.quieter { system.registry with tuning := settings.normalize } _ fit
      ⟨quieter.routes, quieter.keys, rfl, rfl⟩ rfl
  exact (stepsWithin_of_run ⟨settings.normalize_usable, start⟩ run).2

def CurvedSystem.start (settings : RouteHealthSettings) : CurvedSystem :=
  ⟨.start 16 16 settings 0, fun _ => false⟩

theorem CurvedSystem.start_initial (settings : RouteHealthSettings) :
    (CurvedSystem.start settings).Initial :=
  ⟨⟨16, 16, settings, 0, rfl⟩, rfl⟩

end ChatGateway
