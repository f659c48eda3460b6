import ChatGateway.Models.Identity
import ChatGateway.Settings.CooldownCeiling

set_option autoImplicit false

/-!
# Saved settings

The settings an operator saves are laid over the configuration of the start. They are read from a
configuration and written to one field by field, and a saved document is validated when it is
loaded.
-/

namespace ChatGateway

structure StoredSettings extends RuntimeSettings where
  upstreamModelAutoDiscoveryEnabled : Bool
  upstreamModelKeySyncIntervalSeconds : UInt64
  automaticCapabilityProbesEnabled : Bool
  routingAffinityEnabled : Bool
  modelCaseInsensitiveMatching : Bool
  upstreamHedgeEnabled : Bool
  upstreamHedgeMaxExtraAttempts : UInt32
  upstreamSameRouteRetryEnabled : Bool
  upstreamErrorBodyExcerptEnabled : Bool
  toolCallMergeStrict : Bool
  toolArgumentsStrict : Bool
  upstreamAccountQueueEnabled : Bool
  portalOidcEnabled : Bool
  portalOidcRegistrationEnabled : Bool
  portalOidcAllowedEmailDomains : String
  portalOidcPkceEnabled : Bool
  portalOidcVerifyIdToken : Bool
  portalOidcClientId : String
  portalOidcClientSecret : String
  portalOidcRedirectUrl : String
  portalOidcIssuerUrl : String
  portalOidcAuthorizationEndpoint : String
  portalOidcTokenEndpoint : String
  portalOidcUserinfoEndpoint : String
  portalOidcScopes : String
  portalOidcAuthStyle : String
  portalOidcUserIdField : String
  portalOidcEmailField : String
  portalOidcUsernameField : String
  portalOidcDisplayNameField : String
  portalOidcUserinfoMethod : String
  portalOidcTokenPath : String
  portalOidcUuidField : String
  upstreamAccountQueueAdaptiveBudgetEnabled : Bool
  upstreamAccountQueueSkipWhenDoomedEnabled : Bool
  upstreamLocalGateFastFailEnabled : Bool
  upstreamLocalGateDistinctErrorCodeEnabled : Bool
  streamDecodeErrorCodeSplitEnabled : Bool
  streamMaxSkippedBadFrames : UInt64
  upstreamContinuationPinEscapeEnabled : Bool
  upstreamRouteExhaustionRetryEnabled : Bool
  upstreamRateLimitInternalRetryEnabled : Bool
  upstreamRouteExhaustionBudgetAlignmentEnabled : Bool
  upstreamRouteExhaustionAlignmentTruncatedEnabled : Bool
  upstreamTransientLastResortProbeEnabled : Bool
  upstreamTransientSameRouteRetryEnabled : Bool
  upstreamSharedHostFailureDomainEnabled : Bool
  upstreamCommonModeSameHostTransientEnabled : Bool

structure UpstreamCaConfig where
  configuredPath : Option String
  certificates : List (List UInt8)

structure StartupConfig where
  adminUsername : String
  adminPassword : String
  jwtSecret : String
  deploymentTimezone : String
  usageLogRotationMaxBytes : Nat
  upstreamRateLimitRetryWindowSeconds : UInt64
  upstreamRateLimitRetryAttempts : UInt32
  upstreamRateLimitForceRetryEnabled : Bool
  contextRetryMaxAttemptsChat : UInt32
  contextRetryMinOutputTokensChat : UInt64
  contextRetryMaxAttemptsResponses : UInt32
  contextRetryMinOutputTokensResponses : UInt64
  postgresPoolMaxSize : UInt32
  redisEnabled : Bool
  redisUrl : String
  redisKeyPrefix : String
  capabilityPolicyBootstrapOnZero : Bool
  upstreamCa : UpstreamCaConfig
  codexStreamIdleTimeoutMs : UInt64

structure AppConfig extends StartupConfig where
  appName : Text
  usageLogArchiveMaxFiles : Nat
  usageLogRetentionDays : UInt64
  upstreamRateLimitDefaultRetrySeconds : UInt64
  routingAffinityEnabled : Bool
  routingAffinityTtlSeconds : UInt64
  routingAffinityEscapePressureRatio : F64
  modelCaseInsensitiveMatching : Bool
  modelProbeRefreshIntervalSeconds : UInt64
  activeRequestsRefreshIntervalSeconds : UInt64
  upstreamModelAutoDiscoveryEnabled : Bool
  upstreamModelKeySyncIntervalSeconds : UInt64
  capabilityProbeQueueCapacity : Nat
  capabilityProbeRequestTimeoutSeconds : UInt64
  capabilityProbeReasoningTimeoutSeconds : UInt64
  capabilityProbeConcurrency : UInt32
  automaticCapabilityProbesEnabled : Bool
  adminLogsPageSizeMax : Nat
  upstreamHttpPoolMaxIdlePerHost : Nat
  upstreamUserAgent : Text
  adminUpstreamTimeoutSeconds : UInt64
  troubleshootingCheckTimeoutSeconds : UInt64
  upstreamConnectTimeoutSeconds : UInt64
  upstreamResponseHeaderTimeoutSeconds : UInt64
  upstreamStreamKeepaliveIntervalSeconds : UInt64
  upstreamStreamIdleTimeoutSeconds : UInt64
  upstreamStreamMaxDurationSeconds : UInt64
  downstreamLeaseTtlSeconds : UInt64
  upstreamHedgeEnabled : Bool
  upstreamHedgeDelayMs : UInt64
  upstreamHedgeIntervalMs : UInt64
  upstreamHedgeMaxExtraAttempts : UInt32
  upstreamSameRouteRetryEnabled : Bool
  upstreamTransientRouteCooldownBaseSeconds : UInt64
  upstreamTransientRouteCooldownMaxSeconds : UInt64
  upstreamTransientRouteCooldownMaxStep : UInt32
  upstreamRouteHealthHalfOpenTtlSeconds : UInt64
  upstreamRouteHealthEnforcementEnabled : Bool
  upstreamRouteHalfOpenExclusiveWindowMs : UInt64
  upstreamRouteHalfOpenBusyMaxRounds : UInt32
  upstreamRetryAfterCapSeconds : UInt64
  upstreamRetryAfterCooldownCapSeconds : UInt64
  upstreamErrorBodyExcerptEnabled : Bool
  upstreamErrorBodyExcerptMaxChars : UInt64
  toolCallMergeStrict : Bool
  toolArgumentsStrict : Bool
  upstreamCredentialsFirstStrikeSeconds : UInt64
  upstreamLocalLeaseTtlSeconds : UInt64
  upstreamLeaseStaleAfterMs : UInt64
  upstreamAccountQueueEnabled : Bool
  upstreamAccountQueueMaxDepth : Nat
  upstreamAccountQueueMaxWaitMs : UInt64
  upstreamAccountQueuePollIntervalMs : UInt64
  upstreamAccountQueueAdaptiveBudgetEnabled : Bool
  upstreamAccountQueueSkipWhenDoomedEnabled : Bool
  upstreamAccountQueueAdaptiveBudgetFactor : F64
  upstreamAccountQueueAdaptiveBudgetCeilingMs : UInt64
  upstreamLocalGateMaxWaitMs : UInt64
  upstreamLocalGateFastFailEnabled : Bool
  upstreamLocalGateDistinctErrorCodeEnabled : Bool
  portalOidcClientId : String
  portalOidcClientSecret : String
  portalOidcRedirectUrl : String
  portalOidcIssuerUrl : String
  portalOidcAuthorizationEndpoint : String
  portalOidcTokenEndpoint : String
  portalOidcUserinfoEndpoint : String
  portalOidcScopes : String
  portalOidcAuthStyle : String
  portalOidcUserIdField : String
  portalOidcEmailField : String
  portalOidcUsernameField : String
  portalOidcDisplayNameField : String
  portalOidcEnabled : Bool
  portalOidcRegistrationEnabled : Bool
  portalOidcAllowedEmailDomains : String
  portalSessionTtlSeconds : UInt64
  portalOidcPkceEnabled : Bool
  portalOidcVerifyIdToken : Bool
  portalOidcUserinfoMethod : String
  portalOidcTokenPath : String
  portalOidcUuidField : String
  streamDecodeErrorCodeSplitEnabled : Bool
  streamMaxSkippedBadFrames : UInt64
  upstreamContinuationPinEscapeEnabled : Bool
  upstreamRouteExhaustionRetryEnabled : Bool
  upstreamRateLimitInternalRetryEnabled : Bool
  upstreamRouteExhaustionRetryMaxWaitMs : UInt64
  upstreamRouteExhaustionRetryMaxRounds : UInt32
  upstreamRouteExhaustionBudgetAlignmentEnabled : Bool
  upstreamRouteExhaustionAlignmentTruncatedEnabled : Bool
  upstreamTransientLastResortProbeEnabled : Bool
  upstreamCommonModeBreakerThreshold : UInt32
  upstreamCommonModeTransientThreshold : UInt32
  upstreamTransientSameRouteRetryEnabled : Bool
  upstreamSharedHostFailureDomainEnabled : Bool
  upstreamCommonModeSameHostTransientEnabled : Bool
  upstreamCapacityFailureCooldownEnabled : Bool
  upstreamConcurrencyRecoveryMaxWaitMs : UInt64
  upstreamConcurrencyRecoveryMaxRounds : UInt32
  upstreamConcurrencyProbeDelaysMs : List UInt64
  upstreamFirstSemanticOutputTimeoutSeconds : UInt64
  upstreamFirstOutputWarnAfterSeconds : UInt64
  gatewayRequestBodyLimitMb : UInt64

def AppConfig.default : AppConfig where
  adminUsername := "admin"
  adminPassword := "admin"
  jwtSecret := "change_me_in_production"
  appName := "chat-responses-codex".toList
  deploymentTimezone := "Asia/Shanghai"
  usageLogRotationMaxBytes := 1_048_576
  usageLogArchiveMaxFiles := 10
  usageLogRetentionDays := 5
  upstreamRateLimitDefaultRetrySeconds := 30
  upstreamRateLimitRetryWindowSeconds := 300
  upstreamRateLimitRetryAttempts := 3
  upstreamRateLimitForceRetryEnabled := true
  contextRetryMaxAttemptsChat := 2
  contextRetryMinOutputTokensChat := 128
  contextRetryMaxAttemptsResponses := 3
  contextRetryMinOutputTokensResponses := 128
  routingAffinityEnabled := true
  routingAffinityTtlSeconds := 180
  routingAffinityEscapePressureRatio := .finite (3 / 2)
  modelCaseInsensitiveMatching := true
  modelProbeRefreshIntervalSeconds := 15
  activeRequestsRefreshIntervalSeconds := 2
  upstreamModelAutoDiscoveryEnabled := false
  upstreamModelKeySyncIntervalSeconds := 0
  postgresPoolMaxSize := 16
  redisEnabled := false
  redisUrl := ""
  redisKeyPrefix := "chat2responses"
  capabilityProbeQueueCapacity := 256
  capabilityProbeRequestTimeoutSeconds := 20
  capabilityProbeReasoningTimeoutSeconds := 90
  capabilityProbeConcurrency := 4
  automaticCapabilityProbesEnabled := false
  capabilityPolicyBootstrapOnZero := true
  adminLogsPageSizeMax := 200
  upstreamHttpPoolMaxIdlePerHost := 32
  upstreamUserAgent := "codex/0.144.6".toList
  upstreamCa := ⟨none, []⟩
  adminUpstreamTimeoutSeconds := 30
  troubleshootingCheckTimeoutSeconds := 20
  upstreamConnectTimeoutSeconds := 30
  upstreamResponseHeaderTimeoutSeconds := 30
  upstreamStreamKeepaliveIntervalSeconds := 3
  upstreamStreamIdleTimeoutSeconds := 1_800
  upstreamStreamMaxDurationSeconds := 86_400
  downstreamLeaseTtlSeconds := 300
  upstreamHedgeEnabled := true
  upstreamHedgeDelayMs := 12_000
  upstreamHedgeIntervalMs := 12_000
  upstreamHedgeMaxExtraAttempts := 1
  upstreamSameRouteRetryEnabled := true
  upstreamTransientRouteCooldownBaseSeconds := 5
  upstreamTransientRouteCooldownMaxSeconds := 5 * 60
  upstreamTransientRouteCooldownMaxStep := 2
  upstreamRouteHealthHalfOpenTtlSeconds := 300
  upstreamRouteHealthEnforcementEnabled := true
  upstreamRouteHalfOpenExclusiveWindowMs := 3_000
  upstreamRouteHalfOpenBusyMaxRounds := 10
  upstreamRetryAfterCapSeconds := 30
  upstreamRetryAfterCooldownCapSeconds := 5
  upstreamErrorBodyExcerptEnabled := false
  upstreamErrorBodyExcerptMaxChars := 200
  toolCallMergeStrict := true
  toolArgumentsStrict := false
  upstreamCredentialsFirstStrikeSeconds := 60
  upstreamLocalLeaseTtlSeconds := 300
  upstreamLeaseStaleAfterMs := 200_000
  upstreamAccountQueueEnabled := true
  upstreamAccountQueueMaxDepth := 16
  upstreamAccountQueueMaxWaitMs := 10_000
  upstreamAccountQueuePollIntervalMs := 100
  upstreamAccountQueueAdaptiveBudgetEnabled := true
  upstreamAccountQueueSkipWhenDoomedEnabled := true
  upstreamAccountQueueAdaptiveBudgetFactor := .finite (3 / 2)
  upstreamAccountQueueAdaptiveBudgetCeilingMs := 60_000
  upstreamLocalGateMaxWaitMs := 3_000
  upstreamLocalGateFastFailEnabled := true
  upstreamLocalGateDistinctErrorCodeEnabled := true
  portalOidcClientId := ""
  portalOidcClientSecret := ""
  portalOidcRedirectUrl := ""
  portalOidcIssuerUrl := ""
  portalOidcAuthorizationEndpoint := ""
  portalOidcTokenEndpoint := ""
  portalOidcUserinfoEndpoint := ""
  portalOidcScopes := "openid profile email"
  portalOidcAuthStyle := "auto"
  portalOidcUserIdField := "sub"
  portalOidcEmailField := "email"
  portalOidcUsernameField := "preferred_username"
  portalOidcDisplayNameField := "name"
  portalOidcEnabled := false
  portalOidcRegistrationEnabled := false
  portalOidcAllowedEmailDomains := ""
  portalSessionTtlSeconds := 86_400
  portalOidcPkceEnabled := true
  portalOidcVerifyIdToken := false
  portalOidcUserinfoMethod := "GET"
  portalOidcTokenPath := "/token"
  portalOidcUuidField := ""
  streamDecodeErrorCodeSplitEnabled := true
  streamMaxSkippedBadFrames := 8
  upstreamContinuationPinEscapeEnabled := true
  upstreamRouteExhaustionRetryEnabled := true
  upstreamRateLimitInternalRetryEnabled := false
  upstreamRouteExhaustionRetryMaxWaitMs := 30_000
  upstreamRouteExhaustionRetryMaxRounds := 3
  upstreamRouteExhaustionBudgetAlignmentEnabled := true
  upstreamRouteExhaustionAlignmentTruncatedEnabled := true
  upstreamTransientLastResortProbeEnabled := true
  upstreamCommonModeBreakerThreshold := 2
  upstreamCommonModeTransientThreshold := 4
  upstreamTransientSameRouteRetryEnabled := true
  upstreamSharedHostFailureDomainEnabled := true
  upstreamCommonModeSameHostTransientEnabled := true
  upstreamCapacityFailureCooldownEnabled := false
  upstreamConcurrencyRecoveryMaxWaitMs := 30_000
  upstreamConcurrencyRecoveryMaxRounds := 32
  upstreamConcurrencyProbeDelaysMs := [100, 200, 400, 800, 1_000, 2_000]
  upstreamFirstSemanticOutputTimeoutSeconds := 3_300
  upstreamFirstOutputWarnAfterSeconds := 120
  codexStreamIdleTimeoutMs := 3_600_000
  gatewayRequestBodyLimitMb := 32

def defaultUpstreamMaxConcurrency : UInt32 := 32

namespace StoredSettings

def fromAppConfig (config : AppConfig) : StoredSettings where
  appName := config.appName
  usageLogArchiveMaxFiles := config.usageLogArchiveMaxFiles
  usageLogRetentionDays := config.usageLogRetentionDays
  adminLogsPageSizeMax := config.adminLogsPageSizeMax
  adminUpstreamTimeoutSeconds := config.adminUpstreamTimeoutSeconds
  troubleshootingCheckTimeoutSeconds := config.troubleshootingCheckTimeoutSeconds
  activeRequestsRefreshIntervalSeconds := config.activeRequestsRefreshIntervalSeconds
  modelProbeRefreshIntervalSeconds := config.modelProbeRefreshIntervalSeconds
  upstreamModelAutoDiscoveryEnabled := config.upstreamModelAutoDiscoveryEnabled
  upstreamModelKeySyncIntervalSeconds := config.upstreamModelKeySyncIntervalSeconds
  capabilityProbeQueueCapacity := config.capabilityProbeQueueCapacity
  capabilityProbeRequestTimeoutSeconds := config.capabilityProbeRequestTimeoutSeconds
  capabilityProbeReasoningTimeoutSeconds := config.capabilityProbeReasoningTimeoutSeconds
  capabilityProbeConcurrency := config.capabilityProbeConcurrency
  automaticCapabilityProbesEnabled := config.automaticCapabilityProbesEnabled
  upstreamRateLimitDefaultRetrySeconds := config.upstreamRateLimitDefaultRetrySeconds
  routingAffinityEnabled := config.routingAffinityEnabled
  routingAffinityTtlSeconds := config.routingAffinityTtlSeconds
  routingAffinityEscapePressureRatio := config.routingAffinityEscapePressureRatio
  modelCaseInsensitiveMatching := config.modelCaseInsensitiveMatching
  upstreamHedgeEnabled := config.upstreamHedgeEnabled
  upstreamHedgeDelayMs := config.upstreamHedgeDelayMs
  upstreamHedgeIntervalMs := config.upstreamHedgeIntervalMs
  upstreamHedgeMaxExtraAttempts := config.upstreamHedgeMaxExtraAttempts
  upstreamSameRouteRetryEnabled := config.upstreamSameRouteRetryEnabled
  upstreamTransientRouteCooldownBaseSeconds := config.upstreamTransientRouteCooldownBaseSeconds
  upstreamTransientRouteCooldownMaxSeconds := config.upstreamTransientRouteCooldownMaxSeconds
  upstreamTransientRouteCooldownMaxStep := config.upstreamTransientRouteCooldownMaxStep
  upstreamRouteHealthHalfOpenTtlSeconds := config.upstreamRouteHealthHalfOpenTtlSeconds
  upstreamRouteHealthEnforcementEnabled := config.upstreamRouteHealthEnforcementEnabled
  upstreamRouteHalfOpenExclusiveWindowMs := config.upstreamRouteHalfOpenExclusiveWindowMs
  upstreamRouteHalfOpenBusyMaxRounds := config.upstreamRouteHalfOpenBusyMaxRounds
  upstreamRetryAfterCapSeconds := config.upstreamRetryAfterCapSeconds
  upstreamRetryAfterCooldownCapSeconds := config.upstreamRetryAfterCooldownCapSeconds
  upstreamErrorBodyExcerptEnabled := config.upstreamErrorBodyExcerptEnabled
  upstreamErrorBodyExcerptMaxChars := config.upstreamErrorBodyExcerptMaxChars
  toolCallMergeStrict := config.toolCallMergeStrict
  toolArgumentsStrict := config.toolArgumentsStrict
  upstreamCredentialsFirstStrikeSeconds := config.upstreamCredentialsFirstStrikeSeconds
  upstreamLocalLeaseTtlSeconds := config.upstreamLocalLeaseTtlSeconds
  upstreamLeaseStaleAfterMs := config.upstreamLeaseStaleAfterMs
  upstreamAccountQueueEnabled := config.upstreamAccountQueueEnabled
  upstreamAccountQueueMaxDepth := config.upstreamAccountQueueMaxDepth
  upstreamAccountQueueMaxWaitMs := config.upstreamAccountQueueMaxWaitMs
  upstreamAccountQueuePollIntervalMs := config.upstreamAccountQueuePollIntervalMs
  portalOidcEnabled := config.portalOidcEnabled
  portalOidcRegistrationEnabled := config.portalOidcRegistrationEnabled
  portalOidcAllowedEmailDomains := config.portalOidcAllowedEmailDomains
  portalSessionTtlSeconds := config.portalSessionTtlSeconds
  portalOidcPkceEnabled := config.portalOidcPkceEnabled
  portalOidcVerifyIdToken := config.portalOidcVerifyIdToken
  portalOidcClientId := config.portalOidcClientId
  portalOidcClientSecret := config.portalOidcClientSecret
  portalOidcRedirectUrl := config.portalOidcRedirectUrl
  portalOidcIssuerUrl := config.portalOidcIssuerUrl
  portalOidcAuthorizationEndpoint := config.portalOidcAuthorizationEndpoint
  portalOidcTokenEndpoint := config.portalOidcTokenEndpoint
  portalOidcUserinfoEndpoint := config.portalOidcUserinfoEndpoint
  portalOidcScopes := config.portalOidcScopes
  portalOidcAuthStyle := config.portalOidcAuthStyle
  portalOidcUserIdField := config.portalOidcUserIdField
  portalOidcEmailField := config.portalOidcEmailField
  portalOidcUsernameField := config.portalOidcUsernameField
  portalOidcDisplayNameField := config.portalOidcDisplayNameField
  portalOidcUserinfoMethod := config.portalOidcUserinfoMethod
  portalOidcTokenPath := config.portalOidcTokenPath
  portalOidcUuidField := config.portalOidcUuidField
  upstreamAccountQueueAdaptiveBudgetEnabled := config.upstreamAccountQueueAdaptiveBudgetEnabled
  upstreamAccountQueueSkipWhenDoomedEnabled := config.upstreamAccountQueueSkipWhenDoomedEnabled
  upstreamAccountQueueAdaptiveBudgetFactor := config.upstreamAccountQueueAdaptiveBudgetFactor
  upstreamAccountQueueAdaptiveBudgetCeilingMs := config.upstreamAccountQueueAdaptiveBudgetCeilingMs
  upstreamLocalGateMaxWaitMs := config.upstreamLocalGateMaxWaitMs
  upstreamLocalGateFastFailEnabled := config.upstreamLocalGateFastFailEnabled
  upstreamLocalGateDistinctErrorCodeEnabled := config.upstreamLocalGateDistinctErrorCodeEnabled
  streamDecodeErrorCodeSplitEnabled := config.streamDecodeErrorCodeSplitEnabled
  streamMaxSkippedBadFrames := config.streamMaxSkippedBadFrames
  upstreamContinuationPinEscapeEnabled := config.upstreamContinuationPinEscapeEnabled
  upstreamRouteExhaustionRetryEnabled := config.upstreamRouteExhaustionRetryEnabled
  upstreamRateLimitInternalRetryEnabled := config.upstreamRateLimitInternalRetryEnabled
  upstreamRouteExhaustionRetryMaxWaitMs := config.upstreamRouteExhaustionRetryMaxWaitMs
  upstreamRouteExhaustionRetryMaxRounds := config.upstreamRouteExhaustionRetryMaxRounds
  upstreamRouteExhaustionBudgetAlignmentEnabled :=
    config.upstreamRouteExhaustionBudgetAlignmentEnabled
  upstreamRouteExhaustionAlignmentTruncatedEnabled :=
    config.upstreamRouteExhaustionAlignmentTruncatedEnabled
  upstreamTransientLastResortProbeEnabled := config.upstreamTransientLastResortProbeEnabled
  upstreamCommonModeBreakerThreshold := config.upstreamCommonModeBreakerThreshold
  upstreamCommonModeTransientThreshold := config.upstreamCommonModeTransientThreshold
  upstreamTransientSameRouteRetryEnabled := config.upstreamTransientSameRouteRetryEnabled
  upstreamSharedHostFailureDomainEnabled := config.upstreamSharedHostFailureDomainEnabled
  upstreamCommonModeSameHostTransientEnabled := config.upstreamCommonModeSameHostTransientEnabled
  upstreamCapacityFailureCooldownEnabled := config.upstreamCapacityFailureCooldownEnabled
  defaultUpstreamMaxConcurrency := ChatGateway.defaultUpstreamMaxConcurrency
  downstreamLeaseTtlSeconds := config.downstreamLeaseTtlSeconds
  upstreamConcurrencyRecoveryMaxWaitMs := config.upstreamConcurrencyRecoveryMaxWaitMs
  upstreamConcurrencyRecoveryMaxRounds := config.upstreamConcurrencyRecoveryMaxRounds
  upstreamConcurrencyProbeDelaysMs := config.upstreamConcurrencyProbeDelaysMs
  upstreamHttpPoolMaxIdlePerHost := config.upstreamHttpPoolMaxIdlePerHost
  upstreamUserAgent := config.upstreamUserAgent
  upstreamConnectTimeoutSeconds := config.upstreamConnectTimeoutSeconds
  upstreamResponseHeaderTimeoutSeconds := config.upstreamResponseHeaderTimeoutSeconds
  upstreamStreamKeepaliveIntervalSeconds := config.upstreamStreamKeepaliveIntervalSeconds
  upstreamStreamIdleTimeoutSeconds := config.upstreamStreamIdleTimeoutSeconds
  upstreamStreamMaxDurationSeconds := config.upstreamStreamMaxDurationSeconds
  upstreamFirstSemanticOutputTimeoutSeconds := config.upstreamFirstSemanticOutputTimeoutSeconds
  upstreamFirstOutputWarnAfterSeconds := config.upstreamFirstOutputWarnAfterSeconds
  gatewayRequestBodyLimitMb := config.gatewayRequestBodyLimitMb

-- Three fields of the OIDC user info that are read above are not written here.
def applyToAppConfig (self : StoredSettings) (config : AppConfig) : AppConfig :=
  { config with
    appName := self.appName
    usageLogArchiveMaxFiles := self.usageLogArchiveMaxFiles
    usageLogRetentionDays := self.usageLogRetentionDays
    adminLogsPageSizeMax := self.adminLogsPageSizeMax
    adminUpstreamTimeoutSeconds := self.adminUpstreamTimeoutSeconds
    troubleshootingCheckTimeoutSeconds := self.troubleshootingCheckTimeoutSeconds
    activeRequestsRefreshIntervalSeconds := self.activeRequestsRefreshIntervalSeconds
    modelProbeRefreshIntervalSeconds := self.modelProbeRefreshIntervalSeconds
    upstreamModelAutoDiscoveryEnabled := self.upstreamModelAutoDiscoveryEnabled
    upstreamModelKeySyncIntervalSeconds := self.upstreamModelKeySyncIntervalSeconds
    capabilityProbeQueueCapacity := self.capabilityProbeQueueCapacity
    capabilityProbeRequestTimeoutSeconds := self.capabilityProbeRequestTimeoutSeconds
    capabilityProbeReasoningTimeoutSeconds := self.capabilityProbeReasoningTimeoutSeconds
    capabilityProbeConcurrency := self.capabilityProbeConcurrency
    automaticCapabilityProbesEnabled := self.automaticCapabilityProbesEnabled
    upstreamRateLimitDefaultRetrySeconds := self.upstreamRateLimitDefaultRetrySeconds
    routingAffinityEnabled := self.routingAffinityEnabled
    routingAffinityTtlSeconds := self.routingAffinityTtlSeconds
    routingAffinityEscapePressureRatio := self.routingAffinityEscapePressureRatio
    modelCaseInsensitiveMatching := self.modelCaseInsensitiveMatching
    upstreamHedgeEnabled := self.upstreamHedgeEnabled
    upstreamHedgeDelayMs := self.upstreamHedgeDelayMs
    upstreamHedgeIntervalMs := self.upstreamHedgeIntervalMs
    upstreamHedgeMaxExtraAttempts := self.upstreamHedgeMaxExtraAttempts
    upstreamSameRouteRetryEnabled := self.upstreamSameRouteRetryEnabled
    upstreamTransientRouteCooldownBaseSeconds := self.upstreamTransientRouteCooldownBaseSeconds
    upstreamTransientRouteCooldownMaxSeconds := self.upstreamTransientRouteCooldownMaxSeconds
    upstreamTransientRouteCooldownMaxStep := self.upstreamTransientRouteCooldownMaxStep
    upstreamRouteHealthHalfOpenTtlSeconds := self.upstreamRouteHealthHalfOpenTtlSeconds
    upstreamRouteHealthEnforcementEnabled := self.upstreamRouteHealthEnforcementEnabled
    upstreamRouteHalfOpenExclusiveWindowMs := self.upstreamRouteHalfOpenExclusiveWindowMs
    upstreamRouteHalfOpenBusyMaxRounds := self.upstreamRouteHalfOpenBusyMaxRounds
    upstreamRetryAfterCapSeconds := self.upstreamRetryAfterCapSeconds
    upstreamRetryAfterCooldownCapSeconds := self.upstreamRetryAfterCooldownCapSeconds
    upstreamErrorBodyExcerptEnabled := self.upstreamErrorBodyExcerptEnabled
    upstreamErrorBodyExcerptMaxChars := self.upstreamErrorBodyExcerptMaxChars
    toolCallMergeStrict := self.toolCallMergeStrict
    toolArgumentsStrict := self.toolArgumentsStrict
    upstreamCredentialsFirstStrikeSeconds := self.upstreamCredentialsFirstStrikeSeconds
    upstreamLocalLeaseTtlSeconds := self.upstreamLocalLeaseTtlSeconds
    upstreamLeaseStaleAfterMs := self.upstreamLeaseStaleAfterMs
    upstreamAccountQueueEnabled := self.upstreamAccountQueueEnabled
    upstreamAccountQueueMaxDepth := self.upstreamAccountQueueMaxDepth
    upstreamAccountQueueMaxWaitMs := self.upstreamAccountQueueMaxWaitMs
    upstreamAccountQueuePollIntervalMs := self.upstreamAccountQueuePollIntervalMs
    portalOidcEnabled := self.portalOidcEnabled
    portalOidcRegistrationEnabled := self.portalOidcRegistrationEnabled
    portalOidcAllowedEmailDomains := self.portalOidcAllowedEmailDomains
    portalSessionTtlSeconds := self.portalSessionTtlSeconds
    portalOidcPkceEnabled := self.portalOidcPkceEnabled
    portalOidcVerifyIdToken := self.portalOidcVerifyIdToken
    portalOidcClientId := self.portalOidcClientId
    portalOidcClientSecret := self.portalOidcClientSecret
    portalOidcRedirectUrl := self.portalOidcRedirectUrl
    portalOidcIssuerUrl := self.portalOidcIssuerUrl
    portalOidcAuthorizationEndpoint := self.portalOidcAuthorizationEndpoint
    portalOidcTokenEndpoint := self.portalOidcTokenEndpoint
    portalOidcUserinfoEndpoint := self.portalOidcUserinfoEndpoint
    portalOidcScopes := self.portalOidcScopes
    portalOidcAuthStyle := self.portalOidcAuthStyle
    portalOidcUserIdField := self.portalOidcUserIdField
    portalOidcEmailField := self.portalOidcEmailField
    portalOidcUsernameField := self.portalOidcUsernameField
    portalOidcDisplayNameField := self.portalOidcDisplayNameField
    upstreamAccountQueueAdaptiveBudgetEnabled := self.upstreamAccountQueueAdaptiveBudgetEnabled
    upstreamAccountQueueSkipWhenDoomedEnabled := self.upstreamAccountQueueSkipWhenDoomedEnabled
    upstreamAccountQueueAdaptiveBudgetFactor := self.upstreamAccountQueueAdaptiveBudgetFactor
    upstreamAccountQueueAdaptiveBudgetCeilingMs :=
      self.upstreamAccountQueueAdaptiveBudgetCeilingMs
    upstreamLocalGateMaxWaitMs := self.upstreamLocalGateMaxWaitMs
    upstreamLocalGateFastFailEnabled := self.upstreamLocalGateFastFailEnabled
    upstreamLocalGateDistinctErrorCodeEnabled := self.upstreamLocalGateDistinctErrorCodeEnabled
    streamDecodeErrorCodeSplitEnabled := self.streamDecodeErrorCodeSplitEnabled
    streamMaxSkippedBadFrames := self.streamMaxSkippedBadFrames
    upstreamContinuationPinEscapeEnabled := self.upstreamContinuationPinEscapeEnabled
    upstreamRouteExhaustionRetryEnabled := self.upstreamRouteExhaustionRetryEnabled
    upstreamRateLimitInternalRetryEnabled := self.upstreamRateLimitInternalRetryEnabled
    upstreamRouteExhaustionRetryMaxWaitMs := self.upstreamRouteExhaustionRetryMaxWaitMs
    upstreamRouteExhaustionRetryMaxRounds := self.upstreamRouteExhaustionRetryMaxRounds
    upstreamRouteExhaustionBudgetAlignmentEnabled :=
      self.upstreamRouteExhaustionBudgetAlignmentEnabled
    upstreamRouteExhaustionAlignmentTruncatedEnabled :=
      self.upstreamRouteExhaustionAlignmentTruncatedEnabled
    upstreamTransientLastResortProbeEnabled := self.upstreamTransientLastResortProbeEnabled
    upstreamCommonModeBreakerThreshold := self.upstreamCommonModeBreakerThreshold
    upstreamCommonModeTransientThreshold := self.upstreamCommonModeTransientThreshold
    upstreamTransientSameRouteRetryEnabled := self.upstreamTransientSameRouteRetryEnabled
    upstreamSharedHostFailureDomainEnabled := self.upstreamSharedHostFailureDomainEnabled
    upstreamCommonModeSameHostTransientEnabled :=
      self.upstreamCommonModeSameHostTransientEnabled
    upstreamCapacityFailureCooldownEnabled := self.upstreamCapacityFailureCooldownEnabled
    downstreamLeaseTtlSeconds := self.downstreamLeaseTtlSeconds
    upstreamConcurrencyRecoveryMaxWaitMs := self.upstreamConcurrencyRecoveryMaxWaitMs
    upstreamConcurrencyRecoveryMaxRounds := self.upstreamConcurrencyRecoveryMaxRounds
    upstreamConcurrencyProbeDelaysMs := self.upstreamConcurrencyProbeDelaysMs
    upstreamHttpPoolMaxIdlePerHost := self.upstreamHttpPoolMaxIdlePerHost
    upstreamUserAgent := self.upstreamUserAgent
    upstreamConnectTimeoutSeconds := self.upstreamConnectTimeoutSeconds
    upstreamResponseHeaderTimeoutSeconds := self.upstreamResponseHeaderTimeoutSeconds
    upstreamStreamKeepaliveIntervalSeconds := self.upstreamStreamKeepaliveIntervalSeconds
    upstreamStreamIdleTimeoutSeconds := self.upstreamStreamIdleTimeoutSeconds
    upstreamStreamMaxDurationSeconds := self.upstreamStreamMaxDurationSeconds
    upstreamFirstSemanticOutputTimeoutSeconds := self.upstreamFirstSemanticOutputTimeoutSeconds
    upstreamFirstOutputWarnAfterSeconds := self.upstreamFirstOutputWarnAfterSeconds
    gatewayRequestBodyLimitMb := self.gatewayRequestBodyLimitMb }

def validateAndNormalize (self : StoredSettings) : SettingsResult StoredSettings :=
  self.toRuntimeSettings.validateAndNormalize.map fun settings =>
    { self with toRuntimeSettings := settings }

def repairCooldownCeilingInvariant (self : StoredSettings) : StoredSettings × Option Nat :=
  ({ self with toRuntimeSettings := self.toRuntimeSettings.repairCooldownCeilingInvariant.1 },
    self.toRuntimeSettings.repairCooldownCeilingInvariant.2)

def validatedPersistedRuntimeSettings (settings : StoredSettings) : Option StoredSettings :=
  match settings.validateAndNormalize with
  | .ok settings => some settings
  | .error _ =>
    match settings.repairCooldownCeilingInvariant with
    | (_, none) => none
    | (repaired, some _) => repaired.validateAndNormalize.toOption

end StoredSettings

def runtimeSettingsSchemaVersion : UInt32 := 1

structure RuntimeSettingsDocument where
  schemaVersion : UInt32
  revision : UInt64
  updatedAt : UInt64
  settings : StoredSettings

def configWithPersistedRuntimeSettings (document : Option RuntimeSettingsDocument)
    (config : AppConfig) : AppConfig × StoredSettings :=
  let saved := (document.filter fun document =>
    document.schemaVersion = runtimeSettingsSchemaVersion).bind
      fun document => document.settings.validatedPersistedRuntimeSettings
  let settings := saved.getD (.fromAppConfig config)
  (settings.applyToAppConfig config, settings)

theorem normalizeNonemptyString_ok {value normal : Text} {field : String} {maxChars : Nat} :
    normalizeNonemptyString value field maxChars = .ok normal ↔
      normal = value.trim ∧ normal ≠ [] ∧ normal.length ≤ maxChars := by
  unfold normalizeNonemptyString
  by_cases blank : value.trim = []
  · simp +contextual [blank]
  by_cases long : maxChars < value.trim.length
  · simp +contextual [blank, long]
  · simp only [List.isEmpty_iff, blank, long, if_false, Except.ok.injEq]
    constructor
    · rintro rfl
      exact ⟨rfl, blank, Nat.le_of_not_lt long⟩
    · rintro ⟨rfl, -, -⟩
      rfl

theorem normalizeNonemptyString_idem {value normal : Text} {field : String} {maxChars : Nat}
    (accepted : normalizeNonemptyString value field maxChars = .ok normal) :
    normalizeNonemptyString normal field maxChars = .ok normal := by
  rw [normalizeNonemptyString_ok] at accepted ⊢
  obtain ⟨rfl, filled, short⟩ := accepted
  exact ⟨(trim_trim value).symm, filled, short⟩

def inOrder (delays : List UInt64) : List UInt64 :=
  (delays.insertionSort (· ≤ ·)).destutter (· ≠ ·)

theorem inOrder_sorted (delays : List UInt64) : (inOrder delays).Pairwise (· < ·) := by
  have sorted := List.pairwise_insertionSort (· ≤ ·) delays
  have ascending := sorted.sublist (List.destutter_sublist (· ≠ ·) _)
  have distinct : (inOrder delays).Pairwise (· ≠ ·) := by
    rw [inOrder, sorted.destutter_eq_dedup]
    exact List.nodup_dedup _
  exact (ascending.and distinct).imp fun both => UInt64.lt_of_le_of_ne both.1 both.2

theorem inOrder_eq_self {delays : List UInt64} :
    inOrder delays = delays ↔ delays.Pairwise (· < ·) := by
  constructor
  · intro same
    rw [← same]
    exact inOrder_sorted delays
  · intro sorted
    rw [inOrder, (sorted.imp UInt64.le_of_lt).insertionSort_eq]
    exact List.destutter_of_isChain _ _ (sorted.imp UInt64.ne_of_lt).isChain

theorem mem_inOrder {delays : List UInt64} {delay : UInt64} (member : delay ∈ inOrder delays) :
    delay ∈ delays :=
  (List.mem_insertionSort _).1 ((List.destutter_sublist _ _).subset member)

theorem normalizeProbeDelays_ok {values delays : List UInt64} :
    normalizeProbeDelays values = .ok delays ↔
      delays = inOrder values ∧ values ≠ [] ∧
        ∀ value ∈ values, value ≠ 0 ∧ value ≤ maxProbeDelayMs := by
  have bad : (values.isEmpty || values.any fun value => value == 0 || maxProbeDelayMs < value) =
      true ↔ ¬ (values ≠ [] ∧ ∀ value ∈ values, value ≠ 0 ∧ value ≤ maxProbeDelayMs) := by
    simp only [Bool.or_eq_true, List.isEmpty_iff, List.any_eq_true, beq_iff_eq, decide_eq_true_eq,
      ← UInt64.not_le]
    grind
  unfold normalizeProbeDelays
  split
  · next rejected => simp [bad.1 rejected]
  · next passed =>
    rw [bad, not_not] at passed
    rw [Except.ok.injEq, eq_comm, and_iff_left passed, inOrder]

theorem normalizeProbeDelays_idem {values delays : List UInt64}
    (accepted : normalizeProbeDelays values = .ok delays) :
    normalizeProbeDelays delays = .ok delays := by
  rw [normalizeProbeDelays_ok] at accepted ⊢
  obtain ⟨rfl, filled, bounded⟩ := accepted
  refine ⟨(inOrder_eq_self.2 (inOrder_sorted values)).symm, ?_, fun value member =>
    bounded value (mem_inOrder member)⟩
  rw [inOrder, ne_eq, List.destutter_eq_nil]
  exact fun empty => filled (List.perm_nil.1
    (empty ▸ (List.perm_insertionSort (· ≤ ·) values).symm))

namespace RuntimeSettings

structure PassesOthers (settings normal : RuntimeSettings) : Prop where
  appName : normalizeNonemptyString settings.appName "app_name" 120 = .ok normal.appName
  userAgent : normalizeNonemptyString settings.upstreamUserAgent "upstream_user_agent" 512 =
    .ok normal.upstreamUserAgent
  limits : allChecks settings.limitChecks = .ok ()
  delays : normalizeProbeDelays settings.upstreamConcurrencyProbeDelaysMs =
    .ok normal.upstreamConcurrencyProbeDelaysMs
  same : normal = settings.normalized normal.appName normal.upstreamUserAgent
    normal.upstreamConcurrencyProbeDelaysMs
  streams : allChecks normal.streamChecks = .ok ()
  firstSemantic : normal.checkFirstSemantic = .ok ()
  coverage : normal.checkProbeCoverage = .ok ()

theorem validateAndNormalize_ok {settings normal : RuntimeSettings} :
    settings.validateAndNormalize = .ok normal ↔
      settings.PassesOthers normal ∧ normal.ceilingHolds = true := by
  unfold validateAndNormalize
  simp only [Except.bind_eq_ok]
  constructor
  · rintro ⟨appName, named, agent, sent, ⟨⟩, limits, delays, ordered, ⟨⟩, streams, ⟨⟩, semantic, ⟨⟩,
      coverage, ⟨⟩, ceiling, same⟩
    cases same
    rw [checkCooldownCeiling, rejectIf_ok, Bool.not_eq_false] at ceiling
    exact ⟨⟨named, sent, limits, ordered, rfl, streams, semantic, coverage⟩, ceiling⟩
  · rintro ⟨passes, ceiling⟩
    have same := passes.same
    refine ⟨_, passes.appName, _, passes.userAgent, (), passes.limits, _, passes.delays, ?_⟩
    rw [← same]
    refine ⟨(), passes.streams, (), passes.firstSemantic, (), passes.coverage, (), ?_, rfl⟩
    rw [checkCooldownCeiling, rejectIf_ok, Bool.not_eq_false]
    exact ceiling

theorem PassesOthers.idem {settings normal : RuntimeSettings}
    (passes : settings.PassesOthers normal) : normal.PassesOthers normal where
  appName := normalizeNonemptyString_idem passes.appName
  userAgent := normalizeNonemptyString_idem passes.userAgent
  limits := by
    rw [passes.same]
    exact passes.limits
  delays := normalizeProbeDelays_idem passes.delays
  same := rfl
  streams := passes.streams
  firstSemantic := passes.firstSemantic
  coverage := passes.coverage

theorem validateAndNormalize_idem {settings normal : RuntimeSettings}
    (accepted : settings.validateAndNormalize = .ok normal) :
    normal.validateAndNormalize = .ok normal := by
  rw [validateAndNormalize_ok] at accepted ⊢
  exact ⟨accepted.1.idem, accepted.2⟩

def withBudget (settings : RuntimeSettings) (budget : UInt64) : RuntimeSettings :=
  { settings with upstreamRouteExhaustionRetryMaxWaitMs := budget }

theorem limitChecks_withBudget (settings : RuntimeSettings) (budget : UInt64) :
    (settings.withBudget budget).limitChecks =
      settings.limitChecks.set 39 (requirePositive budget
        "upstream_route_exhaustion_retry_max_wait_ms") := rfl

theorem streamChecks_withBudget (settings : RuntimeSettings) (budget : UInt64) :
    (settings.withBudget budget).streamChecks = settings.streamChecks := rfl

theorem checkFirstSemantic_congr {first second : RuntimeSettings}
    (wait : first.upstreamConcurrencyRecoveryMaxWaitMs =
      second.upstreamConcurrencyRecoveryMaxWaitMs)
    (header : first.upstreamResponseHeaderTimeoutSeconds =
      second.upstreamResponseHeaderTimeoutSeconds)
    (idle : first.upstreamStreamIdleTimeoutSeconds = second.upstreamStreamIdleTimeoutSeconds)
    (semantic : first.upstreamFirstSemanticOutputTimeoutSeconds =
      second.upstreamFirstSemanticOutputTimeoutSeconds) :
    first.checkFirstSemantic = second.checkFirstSemantic := by
  unfold checkFirstSemantic
  rw [wait, header, idle, semantic]

theorem checkFirstSemantic_withBudget (settings : RuntimeSettings) (budget : UInt64) :
    (settings.withBudget budget).checkFirstSemantic = settings.checkFirstSemantic :=
  checkFirstSemantic_congr rfl rfl rfl rfl

theorem checkProbeCoverage_withBudget (settings : RuntimeSettings) (budget : UInt64) :
    (settings.withBudget budget).checkProbeCoverage = settings.checkProbeCoverage := rfl

theorem PassesOthers.withBudget {settings normal : RuntimeSettings}
    (passes : settings.PassesOthers normal) {budget : UInt64} (positive : budget ≠ 0) :
    (settings.withBudget budget).PassesOthers (normal.withBudget budget) where
  appName := passes.appName
  userAgent := passes.userAgent
  limits := by
    rw [limitChecks_withBudget, allChecks_ok]
    intro check member
    rcases List.mem_or_eq_of_mem_set member with old | rfl
    · exact allChecks_ok.1 passes.limits check old
    · exact rejectIf_ok.2 positive
  delays := passes.delays
  same := congrArg (RuntimeSettings.withBudget · budget) passes.same
  streams := by rw [streamChecks_withBudget, passes.streams]
  firstSemantic := by rw [checkFirstSemantic_withBudget, passes.firstSemantic]
  coverage := by rw [checkProbeCoverage_withBudget, passes.coverage]

def OnlyCeilingFails (settings : RuntimeSettings) : Prop :=
  ∃ normal, settings.PassesOthers normal ∧ normal.ceilingHolds = false

structure InNormalForm (settings : RuntimeSettings) : Prop where
  appName : settings.appName.trim = settings.appName
  userAgent : settings.upstreamUserAgent.trim = settings.upstreamUserAgent
  delays : settings.upstreamConcurrencyProbeDelaysMs.Pairwise (· < ·)

theorem PassesOthers.ceilingHolds_eq {settings normal : RuntimeSettings}
    (passes : settings.PassesOthers normal) : normal.ceilingHolds = settings.ceilingHolds := by
  rw [passes.same]
  rfl

theorem PassesOthers.normal_eq_iff {settings normal : RuntimeSettings}
    (passes : settings.PassesOthers normal) : normal = settings ↔ settings.InNormalForm := by
  obtain ⟨name, -⟩ := normalizeNonemptyString_ok.1 passes.appName
  obtain ⟨agent, -⟩ := normalizeNonemptyString_ok.1 passes.userAgent
  obtain ⟨delays, -⟩ := normalizeProbeDelays_ok.1 passes.delays
  constructor
  · rintro rfl
    exact ⟨name.symm, agent.symm, inOrder_eq_self.1 delays.symm⟩
  · rintro ⟨trimmed, trimmedAgent, sorted⟩
    rw [passes.same, name, agent, delays, trimmed, trimmedAgent, inOrder_eq_self.2 sorted]
    rfl

theorem PassesOthers.eq_of_withBudget {settings normal : RuntimeSettings}
    (passes : settings.PassesOthers normal) {budget other : UInt64}
    (same : normal.withBudget budget = settings.withBudget other) : normal = settings := by
  have name := congrArg RuntimeSettings.appName same
  have agent := congrArg RuntimeSettings.upstreamUserAgent same
  have delays := congrArg RuntimeSettings.upstreamConcurrencyProbeDelaysMs same
  change normal.appName = settings.appName at name
  change normal.upstreamUserAgent = settings.upstreamUserAgent at agent
  change normal.upstreamConcurrencyProbeDelaysMs =
    settings.upstreamConcurrencyProbeDelaysMs at delays
  rw [passes.same, name, agent, delays]
  rfl

theorem PassesOthers.ceiling_pos {settings normal : RuntimeSettings}
    (passes : settings.PassesOthers normal) :
    0 < settings.upstreamTransientRouteCooldownMaxSeconds.toNat ∧
      0 < settings.upstreamRetryAfterCooldownCapSeconds.toNat := by
  have limits := allChecks_ok.1 passes.limits
  have maximum := limits (requirePositive settings.upstreamTransientRouteCooldownMaxSeconds
      "upstream_transient_route_cooldown_max_seconds")
    (by simp only [limitChecks, List.mem_cons, true_or, or_true])
  have cap := limits (rejectIf (¬(1 ≤ settings.upstreamRetryAfterCooldownCapSeconds ∧
      settings.upstreamRetryAfterCooldownCapSeconds ≤ 300))
      "upstream_retry_after_cooldown_cap_seconds" "must be between 1 and 300")
    (by simp only [limitChecks, List.mem_cons, true_or, or_true])
  rw [requirePositive, rejectIf_ok] at maximum
  rw [rejectIf_ok, not_not] at cap
  exact ⟨Nat.pos_of_ne_zero fun zero => maximum (UInt64.toNat_inj.1 zero), cap.1⟩

def correctedBudget (settings : RuntimeSettings) : Nat :=
  saturatingMul (saturatingMul settings.effectiveCooldownCeilingSeconds 1_000) 3 / 2

theorem repair_of_fails {settings : RuntimeSettings} (fails : settings.ceilingHolds = false) :
    settings.repairCooldownCeilingInvariant =
      (settings.withBudget (UInt64.ofNat settings.correctedBudget),
        some settings.correctedBudget) := by
  rw [repairCooldownCeilingInvariant, fails]
  rfl

theorem correctedBudget_ne_zero {settings normal : RuntimeSettings}
    (passes : settings.PassesOthers normal) : UInt64.ofNat settings.correctedBudget ≠ 0 := by
  obtain ⟨maximum, cap⟩ := passes.ceiling_pos
  have ceiling : 1 ≤ settings.effectiveCooldownCeilingSeconds :=
    le_min (cap.trans_le (le_max_left _ _)) maximum
  have bounds : 0 < settings.correctedBudget ∧ settings.correctedBudget < 2 ^ 64 := by
    unfold correctedBudget saturatingMul
    omega
  intro zero
  have value := congrArg UInt64.toNat zero
  rw [UInt64.toNat_ofNat', Nat.mod_eq_of_lt bounds.2] at value
  exact absurd value bounds.1.ne'

theorem repaired_holds_iff {settings normal : RuntimeSettings}
    (passes : settings.PassesOthers normal) (fails : settings.ceilingHolds = false) :
    (settings.withBudget (UInt64.ofNat settings.correctedBudget)).ceilingHolds = true ↔
      settings.effectiveCooldownCeilingSeconds * 1_000 < 2 ^ 63 - 1 := by
  obtain ⟨maximum, cap⟩ := passes.ceiling_pos
  have repaired := repair_of_fails fails
  have works : settings.RepairWorks ↔
      (settings.withBudget (UInt64.ofNat settings.correctedBudget)).ceilingHolds = true := by
    constructor
    · intro works
      have holds := works.holds
      rwa [repaired] at holds
    · intro holds
      refine ⟨by rw [repaired]; exact holds, ⟨_, by rw [repaired]; rfl⟩, fun held => ?_⟩
      rw [fails] at held
      cases held
  rw [← works, settings.repairWorks_iff, Repairable, fails]
  simp only [Bool.false_eq_true, false_or, maximum, cap, true_and, true_or]
  rfl

end RuntimeSettings

namespace StoredSettings

theorem loads_iff {settings : StoredSettings}
    (broken : settings.toRuntimeSettings.OnlyCeilingFails) :
    (∃ budget, settings.validatedPersistedRuntimeSettings =
        some { settings with upstreamRouteExhaustionRetryMaxWaitMs := budget }) ↔
      settings.toRuntimeSettings.InNormalForm ∧
        settings.effectiveCooldownCeilingSeconds * 1_000 < 2 ^ 63 - 1 := by
  obtain ⟨normal, passes, fails⟩ := broken
  rw [passes.ceilingHolds_eq] at fails
  have rejected : ∃ error, settings.validateAndNormalize = .error error := by
    cases result : settings.toRuntimeSettings.validateAndNormalize with
    | error error => exact ⟨error, by rw [validateAndNormalize, result]; rfl⟩
    | ok other =>
      obtain ⟨otherPasses, holds⟩ := RuntimeSettings.validateAndNormalize_ok.1 result
      rw [otherPasses.ceilingHolds_eq, fails] at holds
      cases holds
  obtain ⟨error, rejected⟩ := rejected
  have loaded : settings.validatedPersistedRuntimeSettings =
      ((settings.toRuntimeSettings.withBudget (UInt64.ofNat
        settings.toRuntimeSettings.correctedBudget)).validateAndNormalize.map fun repaired =>
          ({ settings with toRuntimeSettings := repaired } : StoredSettings)).toOption := by
    rw [validatedPersistedRuntimeSettings, rejected]
    simp only [repairCooldownCeilingInvariant, RuntimeSettings.repair_of_fails fails]
    rfl
  have again := passes.withBudget (RuntimeSettings.correctedBudget_ne_zero passes)
  have inRange := RuntimeSettings.repaired_holds_iff passes fails
  rw [loaded, ← inRange, ← passes.normal_eq_iff]
  generalize UInt64.ofNat settings.toRuntimeSettings.correctedBudget = budget at again ⊢
  by_cases holds : (settings.toRuntimeSettings.withBudget budget).ceilingHolds = true
  · rw [RuntimeSettings.validateAndNormalize_ok.2 ⟨again, again.ceilingHolds_eq.trans holds⟩]
    simp only [holds, and_true]
    constructor
    · rintro ⟨other, same⟩
      exact passes.eq_of_withBudget
        (congrArg StoredSettings.toRuntimeSettings (Option.some.inj same))
    · rintro rfl
      exact ⟨budget, rfl⟩
  · refine iff_of_false ?_ fun both => holds both.2
    rintro ⟨other, same⟩
    cases result : (settings.toRuntimeSettings.withBudget budget).validateAndNormalize with
    | error error =>
      rw [result] at same
      cases same
    | ok accepted =>
      obtain ⟨passesAgain, accepts⟩ := RuntimeSettings.validateAndNormalize_ok.1 result
      exact holds (passesAgain.ceilingHolds_eq.symm.trans accepts)

theorem validateAndNormalize_idem {settings normal : StoredSettings}
    (accepted : settings.validateAndNormalize = .ok normal) :
    normal.validateAndNormalize = .ok normal := by
  unfold validateAndNormalize at accepted ⊢
  obtain ⟨inner, accepts, rfl⟩ := Except.map_eq_ok.1 accepted
  rw [RuntimeSettings.validateAndNormalize_idem accepts]
  rfl

structure SameUserInfo (settings : StoredSettings) (config : AppConfig) : Prop where
  method : config.portalOidcUserinfoMethod = settings.portalOidcUserinfoMethod
  tokenPath : config.portalOidcTokenPath = settings.portalOidcTokenPath
  uuidField : config.portalOidcUuidField = settings.portalOidcUuidField

theorem fromAppConfig_apply {settings : StoredSettings} {config : AppConfig}
    (builtIn : settings.defaultUpstreamMaxConcurrency =
      ChatGateway.defaultUpstreamMaxConcurrency) :
    fromAppConfig (settings.applyToAppConfig config) = settings ↔
      settings.SameUserInfo config := by
  constructor
  · intro same
    exact ⟨congrArg (·.portalOidcUserinfoMethod) same, congrArg (·.portalOidcTokenPath) same,
      congrArg (·.portalOidcUuidField) same⟩
  · rintro ⟨method, tokenPath, uuidField⟩
    have written : fromAppConfig (settings.applyToAppConfig config) =
        { settings with
          defaultUpstreamMaxConcurrency := ChatGateway.defaultUpstreamMaxConcurrency
          portalOidcUserinfoMethod := config.portalOidcUserinfoMethod
          portalOidcTokenPath := config.portalOidcTokenPath
          portalOidcUuidField := config.portalOidcUuidField } := rfl
    rw [written, ← builtIn, method, tokenPath, uuidField]

end StoredSettings

structure SurvivesRestart (settings : StoredSettings) (config : AppConfig) : Prop where
  restored : (∃ normal, settings.validateAndNormalize = .ok normal) →
    settings.defaultUpstreamMaxConcurrency = defaultUpstreamMaxConcurrency →
    StoredSettings.fromAppConfig (settings.applyToAppConfig config) = settings
  idempotent : ∀ normal, settings.validateAndNormalize = .ok normal →
    normal.validateAndNormalize = .ok normal
  frame : (settings.applyToAppConfig config).toStartupConfig = config.toStartupConfig
  loads : settings.toRuntimeSettings.OnlyCeilingFails →
    ∃ budget, settings.validatedPersistedRuntimeSettings =
      some { settings with upstreamRouteExhaustionRetryMaxWaitMs := budget }

/-- The three settings that are not written have the values of the configuration, and settings that
are to be repaired are in their normal form with a ceiling below half of the range. -/
structure Restartable (settings : StoredSettings) (config : AppConfig) : Prop where
  userInfo : (∃ normal, settings.validateAndNormalize = .ok normal) →
    settings.defaultUpstreamMaxConcurrency = defaultUpstreamMaxConcurrency →
    settings.SameUserInfo config
  repairable : settings.toRuntimeSettings.OnlyCeilingFails →
    settings.toRuntimeSettings.InNormalForm ∧
      settings.effectiveCooldownCeilingSeconds * 1_000 < 2 ^ 63 - 1

theorem settings_survive_restart (settings : StoredSettings) (config : AppConfig) :
    SurvivesRestart settings config ↔ Restartable settings config := by
  constructor
  · rintro ⟨restored, -, -, loads⟩
    refine ⟨fun accepted builtIn => ?_, fun broken => ?_⟩
    · exact (StoredSettings.fromAppConfig_apply builtIn).1 (restored accepted builtIn)
    · exact (StoredSettings.loads_iff broken).1 (loads broken)
  · rintro ⟨userInfo, repairable⟩
    refine ⟨fun accepted builtIn => ?_, fun _ => StoredSettings.validateAndNormalize_idem, rfl,
      fun broken => ?_⟩
    · exact (StoredSettings.fromAppConfig_apply builtIn).2 (userInfo accepted builtIn)
    · exact (StoredSettings.loads_iff broken).2 (repairable broken)

def postedSettings : StoredSettings :=
  { StoredSettings.fromAppConfig .default with portalOidcUserinfoMethod := "POST" }

-- The method is read from the configuration of the next start, where it was never written.
theorem userinfo_method_reverts :
    (∃ normal, postedSettings.validateAndNormalize = .ok normal) ∧
      (StoredSettings.fromAppConfig
        (postedSettings.applyToAppConfig .default)).portalOidcUserinfoMethod = "GET" ∧
      ¬ SurvivesRestart postedSettings .default := by
  have accepted : postedSettings.toRuntimeSettings.validateAndNormalize =
      .ok postedSettings.toRuntimeSettings := by
    decide +kernel
  have valid : ∃ normal, postedSettings.validateAndNormalize = .ok normal :=
    ⟨_, by rw [StoredSettings.validateAndNormalize, accepted]; rfl⟩
  refine ⟨valid, rfl, fun survives => ?_⟩
  have method := congrArg (·.portalOidcUserinfoMethod) (survives.restored valid rfl)
  exact absurd (show "GET" = "POST" from method) (by decide)

end ChatGateway
