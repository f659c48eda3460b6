import ChatGateway.Capabilities.Types

set_option autoImplicit false

/-!
# Resolving the capabilities of a route

What a route can do is read from its overrides, its probe profile, a dialect preset and the
baseline.
-/

namespace ChatGateway

structure CapabilityResolutionError where
  capability : Capability
deriving DecidableEq, Repr

structure ResolutionInput where
  route : RouteIdentity
  requested : RequestedFeatures := {}
  semantic : SemanticPolicy := {}
  routeOverrides : List RouteCapabilityOverride := []
  policyExtensions : List DeclarativeProbeCase := []
  profile : Option UpstreamDialectProfile := none
  dialectPreset : Option String := none
  stripNonstandardChatFields : NonstandardFieldPolicy := .auto

abbrev EffortControl := Option String × OrderedMap String Json

def reasoningCarrierMatchesProtocol : ReasoningCarrier → WireProtocol → Bool
  | .reasoningContent, .chatCompletions => true
  | .responsesReasoningItem, .responses => true
  | .messagesThinking, .messages => true
  | _, _ => false

def strongerEvidenceSource : CapabilitySource → CapabilitySource → CapabilitySource
  | _, .override => .override
  | .baseline, .probe => .probe
  | current, _ => current

def sourceForOption {α : Type} (value : Option α) : CapabilitySource :=
  if value.isSome then .policy else .baseline

def insertObserved (source : CapabilitySource) (values : Capability → ResolvedCapability)
    (evidence : OrderedMap Capability EvidenceState) : Capability → ResolvedCapability :=
  evidence.entries.foldl (fun values entry =>
    if entry.2 ≠ .unobserved then Function.update values entry.1 ⟨entry.2, source⟩ else values)
    values

namespace ResolutionInput

def withUsableProfile (input : ResolutionInput) : ResolutionInput :=
  { input with profile :=
      input.profile.filter fun profile => profile.key = .fromRoute input.route }

def preset (input : ResolutionInput) : Option ResolvedCapabilities :=
  input.dialectPreset.bind compileDialectPreset

def matchingContinuationCarrier (input : ResolutionInput) : Option ReasoningCarrier :=
  if input.requested.continuationProfile = some (.fromRoute input.route) then
    input.requested.continuationReasoningCarrier
  else none

def continuedCapabilities (input : ResolutionInput) : Capability → ResolvedCapability :=
  if input.matchingContinuationCarrier = some .reasoningContent then
    Function.update (Function.update baselineCapabilities .reasoningOutput ⟨.supported, .baseline⟩)
      .reasoningReplay ⟨.supported, .baseline⟩
  else baselineCapabilities

def evidencedValues (input : ResolutionInput) (preset : Option ResolvedCapabilities) :
    Capability → ResolvedCapability :=
  match input.profile, preset with
  | some profile, _ => insertObserved .probe input.continuedCapabilities profile.capabilities
  | none, some preset => fun capability =>
    if (preset.values capability).state ≠ .unobserved then preset.values capability
    else input.continuedCapabilities capability
  | none, none => input.continuedCapabilities

def resolveValues (input : ResolutionInput) (preset : Option ResolvedCapabilities) :
    Capability → ResolvedCapability :=
  input.routeOverrides.foldl (fun values routeOverride =>
    insertObserved .override values routeOverride.capabilities) (input.evidencedValues preset)

def evidencedField {α : Type} (fromProfile fromPreset : Option α) (base : α) :
    α × CapabilitySource :=
  match fromProfile, fromPreset with
  | some value, _ => (value, .probe)
  | none, some value => (value, .policy)
  | none, none => (base, .baseline)

def resolveField {α : Type} (input : ResolutionInput) (preset : Option ResolvedCapabilities)
    (ofProfile : UpstreamDialectProfile → Option α) (ofPreset : ResolvedCapabilities → α)
    (ofOverride : RouteCapabilityOverride → Option α) (base : α) : α × CapabilitySource :=
  input.routeOverrides.foldl (fun held routeOverride =>
    match ofOverride routeOverride with
    | some value => (value, .override)
    | none => held) (evidencedField (input.profile.bind ofProfile) (preset.map ofPreset) base)

def resolveTokenLimitField (input : ResolutionInput) (preset : Option ResolvedCapabilities) :
    TokenLimitField × CapabilitySource :=
  input.resolveField preset (·.tokenLimitField) (·.tokenLimitField) (·.tokenLimitField) .omit

def resolveReasoningCarrier (input : ResolutionInput) (preset : Option ResolvedCapabilities) :
    ReasoningCarrier × CapabilitySource :=
  input.resolveField preset (·.reasoningCarrier) (·.reasoningCarrier) (·.reasoningCarrier)
    (input.matchingContinuationCarrier.getD .none)

def resolveCorrectionRules (input : ResolutionInput) : List DialectCorrectionRule :=
  input.routeOverrides.foldl (fun rules routeOverride =>
    if routeOverride.correctionRules.isEmpty then rules else routeOverride.correctionRules)
    ((input.profile.map (·.correctionRules)).getD [])

def acceptedEfforts (semantic : SemanticPolicy) (acceptedValues : List Json) :
    OrderedMap String Json :=
  (semantic.effortMap.filter fun upstreamValue =>
    acceptedValues.any fun accepted => accepted.asStr = some upstreamValue).map .string

def profileEffort (semantic : SemanticPolicy) (profile : UpstreamDialectProfile) :
    Option EffortControl :=
  profile.reasoningControls.entries.findSome? fun entry =>
    let filtered := acceptedEfforts semantic entry.2
    if filtered.isEmpty then none else some (some entry.1, filtered)

def evidencedEffort (semantic : SemanticPolicy) (profile : Option UpstreamDialectProfile)
    (preset : Option ResolvedCapabilities) : EffortControl × CapabilitySource :=
  match profile, preset with
  | some profile, _ =>
    match profileEffort semantic profile with
    | some control => (control, .probe)
    | none => ((none, {}), .baseline)
  | none, some preset =>
    ((preset.reasoningControlField, preset.effortMap),
      if preset.effortMap.isEmpty then .baseline else .policy)
  | none, none => ((none, {}), .baseline)

def resolveEffortControl (input : ResolutionInput) (preset : Option ResolvedCapabilities) :
    EffortControl × CapabilitySource :=
  input.routeOverrides.foldl (fun held routeOverride =>
    match routeOverride.reasoningControlField with
    | some field => ((some field, routeOverride.effortMap), .override)
    | none => held) (evidencedEffort input.semantic input.profile preset)

def extensionsAreEligible (input : ResolutionInput) : Bool :=
  match input.stripNonstandardChatFields with
  | .alwaysStrip => false
  | .forward => true
  | .auto => input.profile.isSome

def considers (input : ResolutionInput) (extension : DeclarativeProbeCase) : Bool :=
  extension.protocol = input.route.protocol &&
    extension.prerequisites ⊆ input.requested.required ∪ input.requested.optional

def probedExtension (evidence : Option EvidenceState) : EvidenceState × CapabilitySource :=
  match evidence with
  | some evidence =>
    if evidence ≠ .unobserved then (evidence, .probe) else (.unobserved, .baseline)
  | none => (.unobserved, .baseline)

def extensionEvidence (input : ResolutionInput) (extensionId : String) :
    EvidenceState × CapabilitySource :=
  input.routeOverrides.foldl (fun held routeOverride =>
    match routeOverride.extensions.find? extensionId with
    | some evidence => if evidence ≠ .unobserved then (evidence, .override) else held
    | none => held)
    (probedExtension (input.profile.bind (·.extensionEvidence.find? extensionId)))

def addExtension (input : ResolutionInput)
    (held : List ResolvedRequestExtension × CapabilitySource) (extension : DeclarativeProbeCase) :
    List ResolvedRequestExtension × CapabilitySource :=
  if input.considers extension then
    let evidence := input.extensionEvidence extension.id
    (if evidence.1 = .supported then held.1 ++ [⟨extension.id, extension.requestPatch⟩] else held.1,
      strongerEvidenceSource held.2 evidence.2)
  else held

def resolveExtensions (input : ResolutionInput) (preset : Option ResolvedCapabilities) :
    List ResolvedRequestExtension × CapabilitySource :=
  match preset with
  | some preset => (preset.requestExtensions, .policy)
  | none =>
    if input.extensionsAreEligible then
      input.policyExtensions.foldl input.addExtension ([], .baseline)
    else ([], .baseline)

def requiredCapabilities (input : ResolutionInput) : Finset Capability :=
  let fixed := if input.semantic.reasoningMode = some .fixedOn then
      insert .reasoningOutput input.requested.required
    else input.requested.required
  if input.semantic.reasoningReplayRequired = some true then
    insert .reasoningReplay (insert .reasoningOutput fixed)
  else fixed

def provides (input : ResolutionInput) (values : Capability → ResolvedCapability)
    (reasoningCarrier : ReasoningCarrier) (capability : Capability) : Bool :=
  (values capability).state = .supported && (!capability.isReasoning ||
    reasoningCarrierMatchesProtocol reasoningCarrier input.route.protocol)

def validateRequiredCapabilities (input : ResolutionInput)
    (values : Capability → ResolvedCapability) (reasoningCarrier : ReasoningCarrier) :
    Except CapabilityResolutionError Unit :=
  match Capability.all.find? fun capability => capability ∈ input.requiredCapabilities &&
      !input.provides values reasoningCarrier capability with
  | some capability => .error ⟨capability⟩
  | none => .ok ()

def resolved (input : ResolutionInput) (preset : Option ResolvedCapabilities) :
    ResolvedCapabilities :=
  let presetUsed := if input.profile.isNone then preset else none
  let profileState := match input.profile with
    | some profile => profile.state
    | none => if presetUsed.isSome then .partial_ else .unknown
  let (tokenLimitField, tokenLimitSource) := input.resolveTokenLimitField preset
  let (reasoningCarrier, reasoningCarrierSource) := input.resolveReasoningCarrier preset
  let (effortControl, effortSource) := input.resolveEffortControl preset
  let (requestExtensions, requestExtensionSource) := input.resolveExtensions preset
  { values := input.resolveValues preset
    tokenLimitField := tokenLimitField
    reasoningMode := input.semantic.reasoningMode.getD .off
    reasoningCarrier := reasoningCarrier
    correctionRules := input.resolveCorrectionRules
    reasoningControlField := effortControl.1
    effortMap := effortControl.2
    omitSamplingFields := match presetUsed with
      | some preset => preset.omitSamplingFields
      | none => input.semantic.omitSamplingFields
    contextWindow := input.semantic.contextWindow
    maxOutputTokens := input.semantic.maxOutputTokens
    omitOptionalExtensions := match presetUsed with
      | some preset => preset.omitOptionalExtensions
      | none => match input.stripNonstandardChatFields with
        | .alwaysStrip => true
        | .forward => false
        | .auto => profileState = .unknown
    profileState := profileState
    provisional := profileState = .unknown
    nativePreferred := match profileState with
      | .verified => true
      | .unsupported => false
      | .partial_ | .unknown => input.route.protocol = .chatCompletions
    adapters := ∅
    requestExtensions := requestExtensions
    fieldSources := (((((((({} : OrderedMap String CapabilitySource)
      |>.put "token_limit_field" tokenLimitSource)
      |>.put "reasoning_carrier" reasoningCarrierSource)
      |>.put "reasoning_mode" (sourceForOption input.semantic.reasoningMode))
      |>.put "context_window" (sourceForOption input.semantic.contextWindow))
      |>.put "max_output_tokens" (sourceForOption input.semantic.maxOutputTokens))
      |>.put "omit_sampling_fields"
        (if input.semantic.omitSamplingFields = ∅ then .baseline else .policy))
      |>.put "effort_map" effortSource)
      |>.put "request_extensions" requestExtensionSource }

def resolve (input : ResolutionInput) :
    Except CapabilityResolutionError ResolvedCapabilities := do
  let preset := input.preset
  let input := input.withUsableProfile
  validateRequiredCapabilities input (input.resolveValues preset)
    (input.resolveReasoningCarrier preset).1
  return input.resolved preset

end ResolutionInput

end ChatGateway
