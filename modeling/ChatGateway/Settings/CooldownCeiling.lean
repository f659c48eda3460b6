import ChatGateway.RouteHealth.HotTuning
import ChatGateway.Settings.RuntimeSettings

set_option autoImplicit false

/-!
# The ceiling on cooldowns

The ceiling that the validation of the settings computes, against the cooldowns that are recorded
with those settings.
-/

namespace ChatGateway

section Backoff

variable (digest : List UInt8 → Nat)

theorem jitteredBackoff_eq {base : Duration} {step : Nat} (maximum : Duration)
    (material : List UInt8) (early : step ≤ 17) (small : base * 2 ^ (step - 1) < 2 ^ 101) :
    jitteredBackoff digest base step maximum material =
      min (min (base * 2 ^ (step - 1) * (80 + digest material % 41) / 100) maximum)
        (2 ^ 64 - 1) := by
  have exponent : min (step - 1) 16 = step - 1 := by omega
  have jitter : 80 + digest material % 41 ≤ 120 := by omega
  have product : base * 2 ^ (step - 1) * (80 + digest material % 41) ≤ 2 ^ 101 * 120 :=
    Nat.mul_le_mul small.le jitter
  have fits : (2 : Nat) ^ 101 * 120 ≤ 2 ^ 128 - 1 := by decide
  have nanos : min (base * 2 ^ (step - 1)) (2 ^ 128 - 1) = base * 2 ^ (step - 1) :=
    min_eq_left (small.le.trans (by decide))
  unfold jitteredBackoff
  dsimp only
  rw [exponent, nanos, min_eq_left (product.trans fits)]

end Backoff

section Arithmetic

variable {own delay percent maximum last ceiling wait : Nat}

theorem fifth_more (spread : percent ≤ 120) : 5 * (delay * percent / 100) ≤ 6 * delay := by
  have product : delay * percent ≤ delay * 120 := Nat.mul_le_mul_left _ spread
  omega

theorem whole_jitter : delay * 1_000_000_000 * (80 + 40 % 41) / 100 = delay * 1_200_000_000 := by
  omega

theorem ceiling_covers (limited : own ≤ maximum * 1_000_000_000) (narrow : own ≤ 2 ^ 64 - 1)
    (spread : 5 * own ≤ 6 * (last * 1_000_000_000))
    (binds : maximum ≤ ceiling ∨ 6 * last ≤ 5 * ceiling ∨ 2 ^ 64 - 1 ≤ ceiling * 1_000_000_000) :
    own ≤ min ceiling maximum * 1_000_000_000 := by
  have covered : own ≤ ceiling * 1_000_000_000 := by
    rcases binds with low | room | wide
    · exact limited.trans (Nat.mul_le_mul_right _ low)
    · refine Nat.le_of_mul_le_mul_left (spread.trans ?_) (by decide : 0 < 5)
      rw [← Nat.mul_assoc, ← Nat.mul_assoc]
      exact Nat.mul_le_mul_right _ room
    · exact narrow.trans wide
  rcases Nat.le_total ceiling maximum with low | high
  · rw [Nat.min_eq_left low]
    exact covered
  · rw [Nat.min_eq_right high]
    exact limited

theorem ceiling_of_covers (bounded : min (min (last * 1_200_000_000) (maximum * 1_000_000_000))
      (2 ^ 64 - 1) ≤ ceiling * 1_000_000_000) :
    maximum ≤ ceiling ∨ 6 * last ≤ 5 * ceiling ∨ 2 ^ 64 - 1 ≤ ceiling * 1_000_000_000 := by
  omega

theorem seconds_lt_millis (inRange : wait < 2 ^ 64) (below : saturatingMul ceiling 1_000 < wait) :
    ceiling * 1_000_000_000 < wait * 1_000_000 := by
  unfold saturatingMul at below
  omega

theorem fromSecs_le_iff {left right : Nat} :
    Duration.fromSecs left ≤ Duration.fromSecs right ↔ left ≤ right :=
  Nat.mul_le_mul_right_iff (by decide)

end Arithmetic

def recordedCooldown (digest : List UInt8 → Nat) (tuning : RouteHealthTuning)
    (route : RouteHealthKey) (report : RouteFailureReport) (step : Nat)
    (explicitRetry : Option Duration) : Duration :=
  match explicitRetry with
  | none => localCooldown digest tuning route report step
  | some explicit => max explicit (localCooldown digest tuning route report step)

namespace RuntimeSettings

variable (settings : RuntimeSettings)

def routeHealth : RouteHealthSettings where
  concurrencyProbeDelaysMs := settings.upstreamConcurrencyProbeDelaysMs.map UInt64.toNat
  transientRouteCooldownBaseSeconds := settings.upstreamTransientRouteCooldownBaseSeconds.toNat
  transientRouteCooldownMaxSeconds := settings.upstreamTransientRouteCooldownMaxSeconds.toNat
  transientRouteCooldownMaxStep := settings.upstreamTransientRouteCooldownMaxStep.toNat
  halfOpenTtlSeconds := settings.upstreamRouteHealthHalfOpenTtlSeconds.toNat
  halfOpenExclusiveWindowMs := settings.upstreamRouteHalfOpenExclusiveWindowMs.toNat
  credentialsFirstStrikeSeconds := settings.upstreamCredentialsFirstStrikeSeconds.toNat
  capacityFailureCooldownEnabled := settings.upstreamCapacityFailureCooldownEnabled
  routeHealthEnforcementEnabled := settings.upstreamRouteHealthEnforcementEnabled

def RespectsCeiling (digest : List UInt8 → Nat) : Prop :=
  ∀ (route : RouteHealthKey) (report : RouteFailureReport) (step : Nat)
    (explicitRetry : Option Duration), report.onTransientCurve = true → 1 ≤ step →
    step ≤ settings.upstreamTransientRouteCooldownMaxStep.toNat →
    (∀ explicit ∈ explicitRetry,
      explicit ≤ Duration.fromSecs settings.upstreamRetryAfterCooldownCapSeconds.toNat) →
    recordedCooldown digest settings.routeHealth.normalize route report step explicitRetry ≤
        Duration.fromSecs settings.effectiveCooldownCeilingSeconds ∧
      recordedCooldown digest settings.routeHealth.normalize route report step explicitRetry <
        Duration.fromMillis settings.upstreamRouteExhaustionRetryMaxWaitMs.toNat

def lastDelay : Nat :=
  settings.upstreamTransientRouteCooldownBaseSeconds.toNat *
    2 ^ (settings.upstreamTransientRouteCooldownMaxStep.toNat - 1)

def unboundedCeiling : Nat :=
  max settings.upstreamRetryAfterCooldownCapSeconds.toNat (settings.lastDelay % 2 ^ 64)

/-- When the ceiling bounds the cooldowns: the cap is within the maximum, and the maximum, the last
delay with a fifth more for its jitter or the range of the backoff is within the ceiling. -/
def CeilingBinds : Prop :=
  settings.upstreamRetryAfterCooldownCapSeconds.toNat ≤
      settings.upstreamTransientRouteCooldownMaxSeconds.toNat ∧
    (settings.upstreamTransientRouteCooldownMaxSeconds.toNat ≤ settings.unboundedCeiling ∨
      6 * settings.lastDelay ≤ 5 * settings.unboundedCeiling ∨
      2 ^ 64 - 1 ≤ settings.unboundedCeiling * 1_000_000_000)

variable {settings}

theorem Accepted.effectiveCooldownCeilingSeconds_eq (accepted : settings.Accepted) :
    settings.effectiveCooldownCeilingSeconds =
      min settings.unboundedCeiling settings.upstreamTransientRouteCooldownMaxSeconds.toNat := by
  have few := accepted.fewSteps
  have curve : settings.curveCeiling = settings.lastDelay % 2 ^ 64 := by
    unfold curveCeiling lastDelay
    dsimp only
    rw [max_eq_left accepted.base, max_eq_left accepted.steps, if_pos (by omega)]
  rw [effectiveCooldownCeilingSeconds, curve, unboundedCeiling]

theorem Accepted.tuning (accepted : settings.Accepted) :
    settings.routeHealth.normalize.transientRouteCooldownBase =
        Duration.fromSecs settings.upstreamTransientRouteCooldownBaseSeconds.toNat ∧
      settings.routeHealth.normalize.transientRouteCooldownMax =
        Duration.fromSecs settings.upstreamTransientRouteCooldownMaxSeconds.toNat := by
  simp only [RouteHealthSettings.normalize, routeHealth, max_eq_left accepted.base,
    max_eq_left accepted.maximum, and_self]

theorem Accepted.localCooldown_eq (accepted : settings.Accepted) (digest : List UInt8 → Nat)
    (route : RouteHealthKey) {report : RouteFailureReport} (curve : report.onTransientCurve = true)
    {step : Nat} (few : step ≤ settings.upstreamTransientRouteCooldownMaxStep.toNat) :
    localCooldown digest settings.routeHealth.normalize route report step =
      min (min (Duration.fromSecs settings.upstreamTransientRouteCooldownBaseSeconds.toNat *
            2 ^ (step - 1) *
            (80 + digest (routeJitterMaterial route report.failureClass step) % 41) / 100)
          (Duration.fromSecs settings.upstreamTransientRouteCooldownMaxSeconds.toNat))
        (2 ^ 64 - 1) := by
  obtain ⟨base, maximum⟩ := accepted.tuning
  have limit := accepted.fewSteps
  have small : Duration.fromSecs settings.upstreamTransientRouteCooldownBaseSeconds.toNat *
      2 ^ (step - 1) < 2 ^ 101 := by
    have inRange := settings.upstreamTransientRouteCooldownBaseSeconds.toNat_lt
    have power : 2 ^ (step - 1) ≤ 2 ^ 7 := Nat.pow_le_pow_right (by decide) (by omega)
    unfold Duration.fromSecs
    calc settings.upstreamTransientRouteCooldownBaseSeconds.toNat * 1_000_000_000 * 2 ^ (step - 1)
        ≤ 2 ^ 64 * 1_000_000_000 * 2 ^ 7 :=
          Nat.mul_le_mul (Nat.mul_le_mul_right _ inRange.le) power
      _ < 2 ^ 101 := by decide
  rw [localCooldown_of_onTransientCurve digest _ route curve, base, maximum,
    jitteredBackoff_eq digest _ _ (by omega) small]

theorem Accepted.localCooldown_le (accepted : settings.Accepted) (digest : List UInt8 → Nat)
    (route : RouteHealthKey) {report : RouteFailureReport} (curve : report.onTransientCurve = true)
    {step : Nat} (few : step ≤ settings.upstreamTransientRouteCooldownMaxStep.toNat) :
    5 * localCooldown digest settings.routeHealth.normalize route report step ≤
      6 * Duration.fromSecs settings.lastDelay := by
  rw [accepted.localCooldown_eq digest route curve few]
  have spread : 80 + digest (routeJitterMaterial route report.failureClass step) % 41 ≤ 120 := by
    omega
  have grown : Duration.fromSecs settings.upstreamTransientRouteCooldownBaseSeconds.toNat *
      2 ^ (step - 1) ≤ Duration.fromSecs settings.lastDelay := by
    unfold Duration.fromSecs lastDelay
    rw [Nat.mul_right_comm]
    exact Nat.mul_le_mul_right _
      (Nat.mul_le_mul_left _ (Nat.pow_le_pow_right (by decide) (Nat.sub_le_sub_right few 1)))
  generalize Duration.fromSecs settings.upstreamTransientRouteCooldownBaseSeconds.toNat *
      2 ^ (step - 1) = delay at grown
  calc 5 * min (min _ _) _
      ≤ 5 * (delay * (80 + digest (routeJitterMaterial route report.failureClass step) % 41) / 100) :=
        Nat.mul_le_mul_left _ ((Nat.min_le_left _ _).trans (Nat.min_le_left _ _))
    _ ≤ 6 * delay := fifth_more spread
    _ ≤ 6 * Duration.fromSecs settings.lastDelay := Nat.mul_le_mul_left _ grown

theorem Accepted.localCooldown_le_maximum (accepted : settings.Accepted) (digest : List UInt8 → Nat)
    (route : RouteHealthKey) {report : RouteFailureReport} (curve : report.onTransientCurve = true)
    {step : Nat} (few : step ≤ settings.upstreamTransientRouteCooldownMaxStep.toNat) :
    localCooldown digest settings.routeHealth.normalize route report step ≤
        Duration.fromSecs settings.upstreamTransientRouteCooldownMaxSeconds.toNat ∧
      localCooldown digest settings.routeHealth.normalize route report step ≤ 2 ^ 64 - 1 := by
  rw [accepted.localCooldown_eq digest route curve few]
  exact ⟨(Nat.min_le_left _ _).trans (Nat.min_le_right _ _), Nat.min_le_right _ _⟩

theorem Accepted.localCooldown_worst (accepted : settings.Accepted) (route : RouteHealthKey) :
    localCooldown (fun _ => 40) settings.routeHealth.normalize route
        { failureClass := .transientServer } settings.upstreamTransientRouteCooldownMaxStep.toNat =
      min (min (settings.lastDelay * 1_200_000_000)
          (Duration.fromSecs settings.upstreamTransientRouteCooldownMaxSeconds.toNat))
        (2 ^ 64 - 1) := by
  have regrouped : Duration.fromSecs settings.upstreamTransientRouteCooldownBaseSeconds.toNat *
      2 ^ (settings.upstreamTransientRouteCooldownMaxStep.toNat - 1) =
        settings.lastDelay * 1_000_000_000 := Nat.mul_right_comm _ _ _
  rw [accepted.localCooldown_eq _ route (by rfl) (Nat.le_refl _), regrouped, whole_jitter]

theorem Accepted.ceiling_lt_wait (accepted : settings.Accepted) :
    Duration.fromSecs settings.effectiveCooldownCeilingSeconds <
      Duration.fromMillis settings.upstreamRouteExhaustionRetryMaxWaitMs.toNat := by
  exact seconds_lt_millis settings.upstreamRouteExhaustionRetryMaxWaitMs.toNat_lt
    (of_decide_eq_true accepted.ceiling)

theorem Accepted.respectsCeiling_iff (accepted : settings.Accepted) :
    (∀ digest, settings.RespectsCeiling digest) ↔ settings.CeilingBinds := by
  have ceiling := accepted.effectiveCooldownCeilingSeconds_eq
  constructor
  · intro respects
    have worst := respects (fun _ => 40) ⟨"", "", "", .responses⟩
      { failureClass := .transientServer } settings.upstreamTransientRouteCooldownMaxStep.toNat
    have capped := (worst (some (Duration.fromSecs
      settings.upstreamRetryAfterCooldownCapSeconds.toNat)) rfl accepted.steps (Nat.le_refl _)
      (by simp)).1
    have jittered := (worst none rfl accepted.steps (Nat.le_refl _) nofun).1
    rw [ceiling] at capped jittered
    refine ⟨?_, ?_⟩
    · have cap := (Nat.le_max_left _ _).trans capped
      exact (fromSecs_le_iff.1 cap).trans (Nat.min_le_right _ _)
    · rw [recordedCooldown, accepted.localCooldown_worst] at jittered
      exact ceiling_of_covers (jittered.trans (fromSecs_le_iff.2 (Nat.min_le_left _ _)))
  · rintro ⟨cap, binds⟩ digest route report step explicitRetry curve first few retries
    have curved : localCooldown digest settings.routeHealth.normalize route report step ≤
        Duration.fromSecs settings.effectiveCooldownCeilingSeconds := by
      obtain ⟨limited, narrow⟩ := accepted.localCooldown_le_maximum digest route curve few
      rw [ceiling]
      exact ceiling_covers limited narrow (accepted.localCooldown_le digest route curve few) binds
    have within : recordedCooldown digest settings.routeHealth.normalize route report step
        explicitRetry ≤ Duration.fromSecs settings.effectiveCooldownCeilingSeconds := by
      cases explicitRetry with
      | none => exact curved
      | some explicit =>
        refine max_le ((retries explicit rfl).trans (fromSecs_le_iff.2 ?_)) curved
        rw [ceiling]
        exact le_min (Nat.le_max_left _ _) cap
    exact ⟨within, within.trans_lt accepted.ceiling_lt_wait⟩

/-- The repaired settings pass the check, differ in the one budget and are the same if the check
passed before. -/
structure RepairWorks (settings : RuntimeSettings) : Prop where
  holds : settings.repairCooldownCeilingInvariant.1.ceilingHolds = true
  others : ∃ budget, settings.repairCooldownCeilingInvariant.1 =
    { settings with upstreamRouteExhaustionRetryMaxWaitMs := budget }
  unchanged : settings.ceilingHolds = true →
    settings.repairCooldownCeilingInvariant = (settings, none)

/-- The check passes already, or the ceiling is neither zero nor beyond half of the range in
milliseconds. -/
def Repairable (settings : RuntimeSettings) : Prop :=
  settings.ceilingHolds = true ∨
    0 < settings.upstreamTransientRouteCooldownMaxSeconds.toNat ∧
      (0 < settings.upstreamRetryAfterCooldownCapSeconds.toNat ∨ 0 < settings.curveCeiling) ∧
      min (max settings.upstreamRetryAfterCooldownCapSeconds.toNat settings.curveCeiling)
        settings.upstreamTransientRouteCooldownMaxSeconds.toNat * 1_000 < 2 ^ 63 - 1

theorem repairWorks_iff (settings : RuntimeSettings) :
    settings.RepairWorks ↔ settings.Repairable := by
  by_cases holds : settings.ceilingHolds = true
  · have same : settings.repairCooldownCeilingInvariant = (settings, none) := if_pos holds
    refine iff_of_true
      ⟨?_, ⟨settings.upstreamRouteExhaustionRetryMaxWaitMs, ?_⟩, fun _ => same⟩ (.inl holds)
    · rw [same]
      exact holds
    · rw [same]
  · have repaired : settings.repairCooldownCeilingInvariant.1 =
        { settings with upstreamRouteExhaustionRetryMaxWaitMs :=
            UInt64.ofNat (saturatingMul
              (saturatingMul settings.effectiveCooldownCeilingSeconds 1_000) 3 / 2) } := by
      rw [repairCooldownCeilingInvariant, if_neg holds]
    have check : settings.repairCooldownCeilingInvariant.1.ceilingHolds = true ↔
        saturatingMul settings.effectiveCooldownCeilingSeconds 1_000 <
          saturatingMul (saturatingMul settings.effectiveCooldownCeilingSeconds 1_000) 3 / 2 := by
      have inRange : saturatingMul (saturatingMul settings.effectiveCooldownCeilingSeconds 1_000) 3
          / 2 < 2 ^ 64 := by
        unfold saturatingMul
        omega
      rw [repaired, ceilingHolds, decide_eq_true_eq, UInt64.toNat_ofNat', Nat.mod_eq_of_lt inRange]
      rfl
    have works : settings.RepairWorks ↔
        settings.repairCooldownCeilingInvariant.1.ceilingHolds = true :=
      ⟨fun works => works.holds, fun passes => ⟨passes, ⟨_, repaired⟩, fun held => absurd held holds⟩⟩
    rw [works, check, Repairable, or_iff_right holds, effectiveCooldownCeilingSeconds]
    unfold saturatingMul
    omega

end RuntimeSettings

/-- The ceiling that accepted settings are checked against bounds the cooldowns exactly when it
leaves room for the jitter and for the cap on the upstream's own delay. The repair works exactly
when the ceiling is not zero and its half more does not saturate. -/
theorem ceiling_bounds_cooldowns (settings : RuntimeSettings) :
    (∀ accepted, settings.validateAndNormalize = .ok accepted →
        ((∀ digest, accepted.RespectsCeiling digest) ↔ accepted.CeilingBinds)) ∧
      (settings.RepairWorks ↔ settings.Repairable) :=
  ⟨fun _ valid => (RuntimeSettings.validateAndNormalize_accepted valid).respectsCeiling_iff,
    settings.repairWorks_iff⟩

def exampleSettings (base : UInt64) (steps : UInt32) (cap : UInt64) : RuntimeSettings where
  appName := "gateway".toList
  usageLogArchiveMaxFiles := 10
  usageLogRetentionDays := 30
  adminLogsPageSizeMax := 200
  adminUpstreamTimeoutSeconds := 10
  troubleshootingCheckTimeoutSeconds := 10
  activeRequestsRefreshIntervalSeconds := 5
  modelProbeRefreshIntervalSeconds := 60
  capabilityProbeQueueCapacity := 64
  capabilityProbeRequestTimeoutSeconds := 30
  capabilityProbeReasoningTimeoutSeconds := 60
  capabilityProbeConcurrency := 1
  upstreamRateLimitDefaultRetrySeconds := 30
  routingAffinityTtlSeconds := 300
  routingAffinityEscapePressureRatio := .finite 2
  upstreamHedgeDelayMs := 1_000
  upstreamHedgeIntervalMs := 1_000
  upstreamTransientRouteCooldownBaseSeconds := base
  upstreamTransientRouteCooldownMaxSeconds := 60
  upstreamTransientRouteCooldownMaxStep := steps
  upstreamRouteHealthHalfOpenTtlSeconds := 300
  upstreamRouteHealthEnforcementEnabled := true
  upstreamRouteHalfOpenExclusiveWindowMs := 3_000
  upstreamRouteHalfOpenBusyMaxRounds := 5
  upstreamRetryAfterCapSeconds := 300
  upstreamRetryAfterCooldownCapSeconds := cap
  upstreamErrorBodyExcerptMaxChars := 500
  upstreamCredentialsFirstStrikeSeconds := 60
  upstreamLocalLeaseTtlSeconds := 600
  upstreamLeaseStaleAfterMs := 600_000
  upstreamAccountQueueMaxDepth := 16
  upstreamAccountQueueMaxWaitMs := 5_000
  upstreamAccountQueuePollIntervalMs := 100
  portalSessionTtlSeconds := 3_600
  upstreamAccountQueueAdaptiveBudgetFactor := .finite 2
  upstreamAccountQueueAdaptiveBudgetCeilingMs := 10_000
  upstreamLocalGateMaxWaitMs := 1_000
  upstreamRouteExhaustionRetryMaxWaitMs := 90_000
  upstreamRouteExhaustionRetryMaxRounds := 5
  upstreamCommonModeBreakerThreshold := 3
  upstreamCommonModeTransientThreshold := 3
  upstreamCapacityFailureCooldownEnabled := false
  defaultUpstreamMaxConcurrency := 10
  downstreamLeaseTtlSeconds := 600
  upstreamConcurrencyRecoveryMaxWaitMs := 300
  upstreamConcurrencyRecoveryMaxRounds := 4
  upstreamConcurrencyProbeDelaysMs := [100, 200]
  upstreamHttpPoolMaxIdlePerHost := 8
  upstreamUserAgent := "gateway/1".toList
  upstreamConnectTimeoutSeconds := 10
  upstreamResponseHeaderTimeoutSeconds := 60
  upstreamStreamKeepaliveIntervalSeconds := 10
  upstreamStreamIdleTimeoutSeconds := 60
  upstreamStreamMaxDurationSeconds := 3_600
  upstreamFirstSemanticOutputTimeoutSeconds := 180
  upstreamFirstOutputWarnAfterSeconds := 60
  gatewayRequestBodyLimitMb := 64

theorem ceiling_bounds_cooldowns_with_room :
    ¬∃ digest, ¬ (exampleSettings 5 2 20).RespectsCeiling digest := by
  have respects := ((ceiling_bounds_cooldowns (exampleSettings 5 2 20)).1
    (exampleSettings 5 2 20) (by decide +kernel)).2
      ⟨by decide +kernel, .inr (.inl (by decide +kernel))⟩
  exact fun ⟨digest, exceeds⟩ => exceeds (respects digest)

/-- With a cap of 300 s on the upstream's own delay the ceiling is the maximum of one minute, and
the route cools for 300 s. -/
theorem retry_after_exceeds_ceiling :
    (exampleSettings 5 2 300).validateAndNormalize = .ok (exampleSettings 5 2 300) ∧
      ∀ digest, ¬ (exampleSettings 5 2 300).RespectsCeiling digest := by
  refine ⟨by decide +kernel, fun digest respects => ?_⟩
  have cooled := (respects ⟨"", "", "", .responses⟩ { failureClass := .transientServer } 1
    (some (Duration.fromSecs 300)) rfl (Nat.le_refl 1) (by decide +kernel)
    (fun explicit given => by
      cases given
      exact Nat.le_refl _)).1
  have ceiling : (exampleSettings 5 2 300).effectiveCooldownCeilingSeconds = 60 := by decide +kernel
  rw [ceiling] at cooled
  have short := fromSecs_le_iff.1 ((Nat.le_max_left _ _).trans cooled)
  exact absurd short (by decide)

end ChatGateway
