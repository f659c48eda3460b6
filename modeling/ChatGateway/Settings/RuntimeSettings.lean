import ChatGateway.Shared.Fallible
import ChatGateway.Shared.Text
import Mathlib.Algebra.Order.Field.Rat
import Mathlib.Data.List.Destutter
import Mathlib.Data.List.Sort

set_option autoImplicit false

/-!
# Runtime settings

`RuntimeSettings` of `runtime_settings.rs`, with the fields that its validation reads, the checks in
the order of the source and the ceiling on route cooldowns.
-/

namespace ChatGateway

structure RuntimeSettingsValidationError where
  field : String
  message : String
  deriving DecidableEq, Repr

inductive F64 where
  | finite (value : ℚ)
  | infinite
  | nan
  deriving DecidableEq

/-- `is_finite` and not below one. -/
def F64.isAtLeastOne : F64 → Bool
  | finite value => 1 ≤ value
  | infinite | nan => false

structure RuntimeSettings where
  appName : Text
  usageLogArchiveMaxFiles : Nat
  usageLogRetentionDays : UInt64
  adminLogsPageSizeMax : Nat
  adminUpstreamTimeoutSeconds : UInt64
  troubleshootingCheckTimeoutSeconds : UInt64
  activeRequestsRefreshIntervalSeconds : UInt64
  modelProbeRefreshIntervalSeconds : UInt64
  capabilityProbeQueueCapacity : Nat
  capabilityProbeRequestTimeoutSeconds : UInt64
  capabilityProbeReasoningTimeoutSeconds : UInt64
  capabilityProbeConcurrency : UInt32
  upstreamRateLimitDefaultRetrySeconds : UInt64
  routingAffinityTtlSeconds : UInt64
  routingAffinityEscapePressureRatio : F64
  upstreamHedgeDelayMs : UInt64
  upstreamHedgeIntervalMs : UInt64
  upstreamTransientRouteCooldownBaseSeconds : UInt64
  upstreamTransientRouteCooldownMaxSeconds : UInt64
  upstreamTransientRouteCooldownMaxStep : UInt32
  upstreamRouteHealthHalfOpenTtlSeconds : UInt64
  upstreamRouteHealthEnforcementEnabled : Bool
  upstreamRouteHalfOpenExclusiveWindowMs : UInt64
  upstreamRouteHalfOpenBusyMaxRounds : UInt32
  upstreamRetryAfterCapSeconds : UInt64
  upstreamRetryAfterCooldownCapSeconds : UInt64
  upstreamErrorBodyExcerptMaxChars : UInt64
  upstreamCredentialsFirstStrikeSeconds : UInt64
  upstreamLocalLeaseTtlSeconds : UInt64
  upstreamLeaseStaleAfterMs : UInt64
  upstreamAccountQueueMaxDepth : Nat
  upstreamAccountQueueMaxWaitMs : UInt64
  upstreamAccountQueuePollIntervalMs : UInt64
  portalSessionTtlSeconds : UInt64
  upstreamAccountQueueAdaptiveBudgetFactor : F64
  upstreamAccountQueueAdaptiveBudgetCeilingMs : UInt64
  upstreamLocalGateMaxWaitMs : UInt64
  upstreamRouteExhaustionRetryMaxWaitMs : UInt64
  upstreamRouteExhaustionRetryMaxRounds : UInt32
  upstreamCommonModeBreakerThreshold : UInt32
  upstreamCommonModeTransientThreshold : UInt32
  upstreamCapacityFailureCooldownEnabled : Bool
  defaultUpstreamMaxConcurrency : UInt32
  downstreamLeaseTtlSeconds : UInt64
  upstreamConcurrencyRecoveryMaxWaitMs : UInt64
  upstreamConcurrencyRecoveryMaxRounds : UInt32
  upstreamConcurrencyProbeDelaysMs : List UInt64
  upstreamHttpPoolMaxIdlePerHost : Nat
  upstreamUserAgent : Text
  upstreamConnectTimeoutSeconds : UInt64
  upstreamResponseHeaderTimeoutSeconds : UInt64
  upstreamStreamKeepaliveIntervalSeconds : UInt64
  upstreamStreamIdleTimeoutSeconds : UInt64
  upstreamStreamMaxDurationSeconds : UInt64
  upstreamFirstSemanticOutputTimeoutSeconds : UInt64
  upstreamFirstOutputWarnAfterSeconds : UInt64
  gatewayRequestBodyLimitMb : UInt64
  deriving DecidableEq

abbrev SettingsResult := Except RuntimeSettingsValidationError

def invalid (field message : String) : RuntimeSettingsValidationError := ⟨field, message⟩

def rejectIf (bad : Prop) [Decidable bad] (field message : String) : SettingsResult Unit :=
  if bad then .error (invalid field message) else .ok ()

theorem rejectIf_ok {bad : Prop} [Decidable bad] {field message : String} :
    rejectIf bad field message = .ok () ↔ ¬ bad := by
  unfold rejectIf
  split <;> simp_all

def allChecks : List (SettingsResult Unit) → SettingsResult Unit
  | [] => .ok ()
  | check :: rest => check >>= fun _ => allChecks rest

theorem allChecks_ok {checks : List (SettingsResult Unit)} :
    allChecks checks = .ok () ↔ ∀ check ∈ checks, check = .ok () := by
  induction checks with
  | nil => simp [allChecks]
  | cons check rest ih =>
    rw [allChecks, Except.bind_eq_ok, List.forall_mem_cons, ih]
    constructor
    · rintro ⟨⟨⟩, passed, later⟩
      exact ⟨passed, later⟩
    · rintro ⟨passed, later⟩
      exact ⟨(), passed, later⟩

def normalizeNonemptyString (value : Text) (field : String) (maxChars : Nat) :
    SettingsResult Text :=
  let value := value.trim
  if value.isEmpty then
    .error (invalid field "must not be empty")
  else if maxChars < value.length then
    .error (invalid field "is too long")
  else
    .ok value

def requirePositive (value : UInt64) (field : String) : SettingsResult Unit :=
  rejectIf (value = 0) field "must be positive"

def requirePositiveU32 (value : UInt32) (field : String) : SettingsResult Unit :=
  rejectIf (value = 0) field "must be positive"

def requireMinUsize (value minimum : Nat) (field : String) : SettingsResult Unit :=
  rejectIf (value < minimum) field "is below the minimum"

def maxProbeDelayMs : UInt64 := 60_000

def normalizeProbeDelays (values : List UInt64) : SettingsResult (List UInt64) :=
  if values.isEmpty || values.any (fun value => value == 0 || maxProbeDelayMs < value) then
    .error (invalid "upstream_concurrency_probe_delays_ms"
      "must contain delays between 1 and 60000 milliseconds")
  else
    .ok ((values.insertionSort (· ≤ ·)).destutter (· ≠ ·))

def checkedAdd (left right : Nat) : Option Nat :=
  if left + right < 2 ^ 64 then some (left + right) else none

def saturatingMul (left right : Nat) : Nat := min (left * right) (2 ^ 64 - 1)

def probeDelayCoverageMs (values : List UInt64) (rounds : UInt32) : SettingsResult Nat :=
  (List.range (rounds.toNat - 1)).foldlM (fun covered round =>
    match checkedAdd covered (values.getD (min round (values.length - 1)) 0).toNat with
    | some covered => .ok covered
    | none =>
      .error (invalid "upstream_concurrency_recovery_max_rounds" "probe delay coverage overflows"))
    0

namespace RuntimeSettings

variable (self : RuntimeSettings)

/-- `base << (max_step - 1)`: a shift below the width loses the high bits. -/
def curveCeiling : Nat :=
  let base := max self.upstreamTransientRouteCooldownBaseSeconds.toNat 1
  let maxStep := max self.upstreamTransientRouteCooldownMaxStep.toNat 1
  if maxStep - 1 < 64 then base * 2 ^ (maxStep - 1) % 2 ^ 64 else 2 ^ 64 - 1

def effectiveCooldownCeilingSeconds : Nat :=
  min (max self.upstreamRetryAfterCooldownCapSeconds.toNat self.curveCeiling)
    self.upstreamTransientRouteCooldownMaxSeconds.toNat

def ceilingHolds : Bool :=
  saturatingMul self.effectiveCooldownCeilingSeconds 1_000 <
    self.upstreamRouteExhaustionRetryMaxWaitMs.toNat

def repairCooldownCeilingInvariant : RuntimeSettings × Option Nat :=
  if self.ceilingHolds then
    (self, none)
  else
    let ceilingMs := saturatingMul self.effectiveCooldownCeilingSeconds 1_000
    let corrected := saturatingMul ceilingMs 3 / 2
    ({ self with upstreamRouteExhaustionRetryMaxWaitMs := UInt64.ofNat corrected }, some corrected)

def ceilingMessage : String :=
  let ceiling := self.effectiveCooldownCeilingSeconds
  "违反冷却上界不变量：有效冷却上界 " ++ toString ceiling ++
    " 秒（= max(上游 Retry-After 冷却上限 " ++
    toString self.upstreamRetryAfterCooldownCapSeconds.toNat ++ "s，本地退避 " ++
    toString self.upstreamTransientRouteCooldownBaseSeconds.toNat ++ " << " ++
    toString (self.upstreamTransientRouteCooldownMaxStep.toNat - 1) ++ " 秒)，不得高于 " ++
    toString self.upstreamTransientRouteCooldownMaxSeconds.toNat ++ "s）乘以 1000 后为 " ++
    toString (saturatingMul ceiling 1_000) ++ "ms，必须严格小于轮间等待预算 " ++
    toString self.upstreamRouteExhaustionRetryMaxWaitMs.toNat ++
    "ms；请降低 upstream_transient_route_cooldown_base_seconds / " ++
    "upstream_transient_route_cooldown_max_step，或提高 upstream_route_exhaustion_retry_max_wait_ms"

def limitChecks : List (SettingsResult Unit) :=
  [ requireMinUsize self.usageLogArchiveMaxFiles 1 "usage_log_archive_max_files",
    requirePositive self.usageLogRetentionDays "usage_log_retention_days",
    requireMinUsize self.adminLogsPageSizeMax 200 "admin_logs_page_size_max",
    requirePositive self.adminUpstreamTimeoutSeconds "admin_upstream_timeout_seconds",
    requirePositive self.troubleshootingCheckTimeoutSeconds "troubleshooting_check_timeout_seconds",
    requirePositive self.activeRequestsRefreshIntervalSeconds
      "active_requests_refresh_interval_seconds",
    requirePositive self.modelProbeRefreshIntervalSeconds "model_probe_refresh_interval_seconds",
    requireMinUsize self.capabilityProbeQueueCapacity 1 "capability_probe_queue_capacity",
    requirePositive self.capabilityProbeRequestTimeoutSeconds
      "capability_probe_request_timeout_seconds",
    requirePositive self.capabilityProbeReasoningTimeoutSeconds
      "capability_probe_reasoning_timeout_seconds",
    requirePositiveU32 self.capabilityProbeConcurrency "capability_probe_concurrency",
    requirePositive self.upstreamRateLimitDefaultRetrySeconds
      "upstream_rate_limit_default_retry_seconds",
    requirePositive self.routingAffinityTtlSeconds "routing_affinity_ttl_seconds",
    rejectIf (self.routingAffinityEscapePressureRatio.isAtLeastOne = false)
      "routing_affinity_escape_pressure_ratio" "must be a finite number greater than or equal to 1",
    requirePositive self.upstreamHedgeDelayMs "upstream_hedge_delay_ms",
    requirePositive self.upstreamHedgeIntervalMs "upstream_hedge_interval_ms",
    requirePositive self.upstreamTransientRouteCooldownBaseSeconds
      "upstream_transient_route_cooldown_base_seconds",
    requirePositive self.upstreamTransientRouteCooldownMaxSeconds
      "upstream_transient_route_cooldown_max_seconds",
    rejectIf (¬(1 ≤ self.upstreamTransientRouteCooldownMaxStep ∧
        self.upstreamTransientRouteCooldownMaxStep ≤ 8))
      "upstream_transient_route_cooldown_max_step" "must be between 1 and 8",
    rejectIf (self.upstreamTransientRouteCooldownMaxSeconds <
        self.upstreamTransientRouteCooldownBaseSeconds)
      "upstream_transient_route_cooldown_base_seconds" "must not exceed the maximum route cooldown",
    requirePositive self.upstreamRouteHealthHalfOpenTtlSeconds
      "upstream_route_health_half_open_ttl_seconds",
    rejectIf (600_000 < self.upstreamRouteHalfOpenExclusiveWindowMs)
      "upstream_route_half_open_exclusive_window_ms" "must be at most 600000 ms",
    rejectIf (¬(1 ≤ self.upstreamRouteHalfOpenBusyMaxRounds ∧
        self.upstreamRouteHalfOpenBusyMaxRounds ≤ 100))
      "upstream_route_half_open_busy_max_rounds" "must be between 1 and 100",
    rejectIf (¬(1 ≤ self.upstreamRetryAfterCapSeconds ∧ self.upstreamRetryAfterCapSeconds ≤ 3_600))
      "upstream_retry_after_cap_seconds" "must be between 1 and 3600",
    rejectIf (¬(1 ≤ self.upstreamRetryAfterCooldownCapSeconds ∧
        self.upstreamRetryAfterCooldownCapSeconds ≤ 300))
      "upstream_retry_after_cooldown_cap_seconds" "must be between 1 and 300",
    rejectIf (¬(50 ≤ self.upstreamErrorBodyExcerptMaxChars ∧
        self.upstreamErrorBodyExcerptMaxChars ≤ 2_000))
      "upstream_error_body_excerpt_max_chars" "must be between 50 and 2000",
    rejectIf (¬(1 ≤ self.upstreamCredentialsFirstStrikeSeconds ∧
        self.upstreamCredentialsFirstStrikeSeconds ≤ 3_600))
      "upstream_credentials_first_strike_seconds" "must be between 1 and 3600",
    rejectIf (¬(60 ≤ self.upstreamLocalLeaseTtlSeconds ∧
        self.upstreamLocalLeaseTtlSeconds ≤ 86_400))
      "upstream_local_lease_ttl_seconds" "must be between 60 and 86400",
    rejectIf (self.upstreamLeaseStaleAfterMs < 1_000)
      "upstream_lease_stale_after_ms" "must be at least 1000 ms",
    rejectIf (self.upstreamLeaseStaleAfterMs.toNat <
        2 * (self.upstreamLocalLeaseTtlSeconds.toNat * 1_000 / 3))
      "upstream_lease_stale_after_ms"
      "must be at least 2x the local lease heartbeat interval (ttl/3)",
    rejectIf (self.upstreamAccountQueueMaxDepth < 1)
      "upstream_account_queue_max_depth" "must be at least 1",
    rejectIf (self.upstreamAccountQueueMaxWaitMs < 100)
      "upstream_account_queue_max_wait_ms" "must be at least 100 ms",
    rejectIf (self.upstreamAccountQueuePollIntervalMs < 10)
      "upstream_account_queue_poll_interval_ms" "must be at least 10 ms",
    rejectIf (self.upstreamAccountQueueMaxWaitMs < self.upstreamAccountQueuePollIntervalMs)
      "upstream_account_queue_poll_interval_ms"
      "must be less than or equal to upstream_account_queue_max_wait_ms",
    rejectIf (self.portalSessionTtlSeconds < 60)
      "portal_session_ttl_seconds" "must be at least 60 seconds",
    rejectIf (self.upstreamAccountQueueAdaptiveBudgetFactor.isAtLeastOne = false)
      "upstream_account_queue_adaptive_budget_factor"
      "must be a finite number greater than or equal to 1.0",
    rejectIf (self.upstreamAccountQueueAdaptiveBudgetCeilingMs < self.upstreamAccountQueueMaxWaitMs)
      "upstream_account_queue_adaptive_budget_ceiling_ms"
      "must be greater than or equal to upstream_account_queue_max_wait_ms",
    rejectIf (self.upstreamLocalGateMaxWaitMs < 100)
      "upstream_local_gate_max_wait_ms" "must be at least 100 ms",
    rejectIf (60_000 < self.upstreamLocalGateMaxWaitMs)
      "upstream_local_gate_max_wait_ms" "must be at most 60000 ms",
    requirePositive self.upstreamRouteExhaustionRetryMaxWaitMs
      "upstream_route_exhaustion_retry_max_wait_ms",
    requirePositiveU32 self.upstreamRouteExhaustionRetryMaxRounds
      "upstream_route_exhaustion_retry_max_rounds",
    requirePositiveU32 self.defaultUpstreamMaxConcurrency "default_upstream_max_concurrency",
    rejectIf (64 < self.upstreamCommonModeBreakerThreshold)
      "upstream_common_mode_breaker_threshold" "must be at most 64 (0 disables the breaker)",
    rejectIf (64 < self.upstreamCommonModeTransientThreshold)
      "upstream_common_mode_transient_threshold"
      "must be at most 64 (0 disables the transient breaker)",
    rejectIf (self.downstreamLeaseTtlSeconds < 60)
      "downstream_lease_ttl_seconds" "must be at least 60 seconds",
    requirePositive self.upstreamConcurrencyRecoveryMaxWaitMs
      "upstream_concurrency_recovery_max_wait_ms",
    requirePositiveU32 self.upstreamConcurrencyRecoveryMaxRounds
      "upstream_concurrency_recovery_max_rounds" ]

def streamChecks : List (SettingsResult Unit) :=
  [ requireMinUsize self.upstreamHttpPoolMaxIdlePerHost 8 "upstream_http_pool_max_idle_per_host",
    requirePositive self.upstreamConnectTimeoutSeconds "upstream_connect_timeout_seconds",
    requirePositive self.upstreamResponseHeaderTimeoutSeconds
      "upstream_response_header_timeout_seconds",
    requirePositive self.upstreamStreamKeepaliveIntervalSeconds
      "upstream_stream_keepalive_interval_seconds",
    requirePositive self.upstreamStreamIdleTimeoutSeconds "upstream_stream_idle_timeout_seconds",
    requirePositive self.upstreamStreamMaxDurationSeconds "upstream_stream_max_duration_seconds",
    requirePositive self.upstreamFirstSemanticOutputTimeoutSeconds
      "upstream_first_semantic_output_timeout_seconds",
    requirePositive self.upstreamFirstOutputWarnAfterSeconds
      "upstream_first_output_warn_after_seconds",
    rejectIf (self.upstreamFirstSemanticOutputTimeoutSeconds <
        self.upstreamFirstOutputWarnAfterSeconds)
      "upstream_first_output_warn_after_seconds"
      "must not exceed the first-semantic-output timeout",
    rejectIf (¬(1 ≤ self.gatewayRequestBodyLimitMb ∧ self.gatewayRequestBodyLimitMb ≤ 4_096))
      "gateway_request_body_limit_mb" "must be between 1 and 4096 MiB",
    rejectIf (self.upstreamStreamIdleTimeoutSeconds ≤ self.upstreamStreamKeepaliveIntervalSeconds)
      "upstream_stream_keepalive_interval_seconds" "must be shorter than the stream idle timeout",
    rejectIf (self.upstreamStreamMaxDurationSeconds < self.upstreamStreamIdleTimeoutSeconds)
      "upstream_stream_idle_timeout_seconds" "must not exceed the stream maximum duration" ]

def checkFirstSemantic : SettingsResult Unit :=
  match checkedAdd self.upstreamConcurrencyRecoveryMaxWaitMs.toNat 999 with
  | none =>
    .error (invalid "upstream_concurrency_recovery_max_wait_ms" "overflows seconds")
  | some waitMs =>
    let minimum :=
      (checkedAdd (waitMs / 1_000) self.upstreamResponseHeaderTimeoutSeconds.toNat).bind fun value =>
        checkedAdd value self.upstreamStreamIdleTimeoutSeconds.toNat
    match minimum with
    | none =>
      .error (invalid "upstream_first_semantic_output_timeout_seconds" "stream budget overflows")
    | some minimumFirstSemantic =>
      rejectIf (self.upstreamFirstSemanticOutputTimeoutSeconds.toNat < minimumFirstSemantic)
        "upstream_first_semantic_output_timeout_seconds"
        "must cover concurrency wait, response header, and stream idle budgets"

def checkProbeCoverage : SettingsResult Unit :=
  probeDelayCoverageMs self.upstreamConcurrencyProbeDelaysMs
      self.upstreamConcurrencyRecoveryMaxRounds >>= fun covered =>
    rejectIf (covered < self.upstreamConcurrencyRecoveryMaxWaitMs.toNat)
      "upstream_concurrency_recovery_max_rounds"
      "does not cover the configured concurrency wait budget"

def checkCooldownCeiling : SettingsResult Unit :=
  rejectIf (self.ceilingHolds = false) "upstream_route_exhaustion_retry_max_wait_ms"
    self.ceilingMessage

def normalized (appName upstreamUserAgent : Text) (probeDelays : List UInt64) : RuntimeSettings :=
  { self with
    appName := appName
    upstreamUserAgent := upstreamUserAgent
    upstreamConcurrencyProbeDelaysMs := probeDelays }

def validateAndNormalize : SettingsResult RuntimeSettings := do
  let appName ← normalizeNonemptyString self.appName "app_name" 120
  let upstreamUserAgent ← normalizeNonemptyString self.upstreamUserAgent "upstream_user_agent" 512
  allChecks self.limitChecks
  let probeDelays ← normalizeProbeDelays self.upstreamConcurrencyProbeDelaysMs
  let settings := self.normalized appName upstreamUserAgent probeDelays
  allChecks settings.streamChecks
  settings.checkFirstSemantic
  settings.checkProbeCoverage
  settings.checkCooldownCeiling
  pure settings

end RuntimeSettings

structure RuntimeSettings.Accepted (settings : RuntimeSettings) : Prop where
  base : 1 ≤ settings.upstreamTransientRouteCooldownBaseSeconds.toNat
  maximum : settings.upstreamTransientRouteCooldownBaseSeconds.toNat ≤
    settings.upstreamTransientRouteCooldownMaxSeconds.toNat
  steps : 1 ≤ settings.upstreamTransientRouteCooldownMaxStep.toNat
  fewSteps : settings.upstreamTransientRouteCooldownMaxStep.toNat ≤ 8
  ceiling : settings.ceilingHolds = true

theorem RuntimeSettings.validateAndNormalize_accepted {settings accepted : RuntimeSettings}
    (valid : settings.validateAndNormalize = .ok accepted) : accepted.Accepted := by
  unfold validateAndNormalize at valid
  simp only [Except.bind_eq_ok] at valid
  obtain ⟨appName, -, agent, -, ⟨⟩, limits, delays, -, ⟨⟩, -, ⟨⟩, -, ⟨⟩, -, ⟨⟩, ceiling, same⟩ := valid
  cases same
  rw [allChecks_ok] at limits
  have positive := limits (requirePositive settings.upstreamTransientRouteCooldownBaseSeconds
      "upstream_transient_route_cooldown_base_seconds")
    (by simp only [limitChecks, List.mem_cons, true_or, or_true])
  have stepRange := limits (rejectIf (¬(1 ≤ settings.upstreamTransientRouteCooldownMaxStep ∧
      settings.upstreamTransientRouteCooldownMaxStep ≤ 8))
      "upstream_transient_route_cooldown_max_step" "must be between 1 and 8")
    (by simp only [limitChecks, List.mem_cons, true_or, or_true])
  have ordered := limits (rejectIf (settings.upstreamTransientRouteCooldownMaxSeconds <
      settings.upstreamTransientRouteCooldownBaseSeconds)
      "upstream_transient_route_cooldown_base_seconds" "must not exceed the maximum route cooldown")
    (by simp only [limitChecks, List.mem_cons, true_or, or_true])
  rw [requirePositive, rejectIf_ok] at positive
  rw [rejectIf_ok, not_not] at stepRange
  rw [rejectIf_ok] at ordered
  rw [checkCooldownCeiling, rejectIf_ok, Bool.not_eq_false] at ceiling
  refine ⟨?_, ?_, stepRange.1, stepRange.2, ceiling⟩
  · have nonzero : settings.upstreamTransientRouteCooldownBaseSeconds.toNat ≠ 0 := fun zero =>
      positive (UInt64.toNat_inj.1 zero)
    exact Nat.pos_of_ne_zero nonzero
  · exact Nat.le_of_not_lt ordered

end ChatGateway
