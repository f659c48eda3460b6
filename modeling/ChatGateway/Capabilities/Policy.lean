import ChatGateway.Capabilities.Resolver
import ChatGateway.Shared.Checks
import ChatGateway.Shared.Text
import Mathlib.Data.Finset.Sort
import Mathlib.Data.Prod.Lex

set_option autoImplicit false

/-!
# Capability configurations

Policies, overrides and tags for the routes that their selectors match. A configuration is compiled
once it has passed its checks; what applies to a route is then read from the compiled entries in
the order of their rank.
-/

namespace ChatGateway

inductive AgentClientProfile where
  | codex
  | opencode
  | claudeCode
  | hermes
deriving DecidableEq, Repr

structure ProbeCandidates where
  tokenLimitFields : List TokenLimitField := []
  reasoningControls : OrderedMap String (List Json) := {}
  reasoningCarriers : List ReasoningCarrier := []

structure EvidenceReference where
  title : String
  url : String
  retrievedAt : String
  version : Option String := none

structure HttpsImageFixture where
  url : String
  expectedLabel : String

structure CapabilityPolicy where
  id : String
  priority : Int := 0
  selector : CapabilitySelector := {}
  semantic : SemanticPolicy := {}
  evidence : List EvidenceReference := []
  probeCandidates : ProbeCandidates := {}
  extensionProbes : List DeclarativeProbeCase := []

structure RouteTagAssignment where
  id : String
  selector : CapabilitySelector
  tags : Finset String

structure CompatibilityBundle where
  id : String
  required : Finset Capability

structure CompatibilityExpectation where
  id : String
  selector : CapabilitySelector
  bundles : Finset String
  clientProfiles : Finset AgentClientProfile
  permittedOptionalDowngrades : Finset String := ∅
  httpsImageFixture : Option HttpsImageFixture := none

structure ProbeConfiguration where
  enabled : Bool := true
  refreshIntervalSeconds : Nat := 7 * 24 * 60 * 60
  maxGlobalConcurrency : Nat := 4
  maxPerUpstreamConcurrency : Nat := 1
  outputTokenCap : Nat := 64
  httpsImageFixture : Option HttpsImageFixture := none

structure CapabilityConfiguration where
  schemaVersion : Nat := 1
  revision : Nat := 0
  builtinPolicyVersion : Nat := 0
  policies : List CapabilityPolicy := []
  routeOverrides : List RouteCapabilityOverride := []
  routeTags : List RouteTagAssignment := []
  bundles : List CompatibilityBundle := []
  compatibilityExpectations : List CompatibilityExpectation := []
  probe : ProbeConfiguration := {}

def capabilitySchemaVersion : Nat := 1
def maxCapabilityCollectionEntries : Nat := 1_024
def maxCapabilityConfigurationBytes : Nat := 1_048_576
def maxCapabilityExtensionCaseBytes : Nat := 16_384
def maxCapabilityExtensionProbes : Nat := 1_024
def maxCapabilitySelectorValueBytes : Nat := 1_024
def maxPredicatePathBytes : Nat := 256

def protectedRequestPaths : List String :=
  ["/model", "/messages", "/input", "/tools", "/stream", "/headers", "/url", "/image_url",
    "/source", "/data"]

inductive CapabilityPolicyError where
  | unsupportedSchemaVersion (found expected : Nat)
  | emptyCapabilityId
  | duplicateCapabilityId (id : String)
  | unknownCompatibilityBundle (expectation bundle : String)
  | invalidSelectorGlob (id pattern reason : String)
  | ambiguousSemanticField (field first second : String)
  | ambiguousOverrideField (field first second : String)
  | invalidReasoningOverride (id reason : String)
  | protectedRequestPath (id path : String)
  | invalidHttpsFixture (id : String)
  | sensitiveUrl
  | invalidBoundedResponsePredicatePath (id path : String)
  | extensionCaseTooLarge (id : String) (size : Nat)
  | routeTagAssignmentSelectsByTag (id : String)
  | routeTagAssignmentHasEmptyTags (id : String)
  | capabilityConfigurationTooLarge (maximum : Nat)
  | tooManyEntries (field : String) (count maximum : Nat)
  | selectorValueTooLong (id field : String) (length maximum : Nat)
deriving DecidableEq, Repr

structure Url where
  scheme : String
  host : Option String
  username : String
  password : Option String
  queryPairs : List (String × String)

structure PolicyLibraries where
  glob : String → Except String (String → Bool)
  parseUrl : String → Option Url
  configurationSize : CapabilityConfiguration → Nat
  caseSize : DeclarativeProbeCase → Nat

structure CompiledSelector where
  source : CapabilitySelector
  runtimeModelGlob : Option (String → Bool)
  specificity : Nat

def CapabilitySelector.exactFields (selector : CapabilitySelector) : Nat :=
  [selector.exposedModel.isSome, selector.runtimeModel.isSome, selector.upstreamId.isSome,
    selector.keyFingerprint.isSome, selector.protocol.isSome, selector.tag.isSome].count true

namespace CompiledSelector

def compileGlob (libraries : PolicyLibraries) (id : String) :
    Option String → Except CapabilityPolicyError (Option (String → Bool))
  | none => .ok none
  | some pattern =>
    match libraries.glob pattern with
    | .error reason => .error (.invalidSelectorGlob id pattern reason)
    | .ok isMatch => .ok (some isMatch)

def compile (libraries : PolicyLibraries) (id : String) (selector : CapabilitySelector) :
    Except CapabilityPolicyError CompiledSelector :=
  (compileGlob libraries id selector.runtimeModelGlob).map fun runtimeModelGlob =>
    { source := selector
      runtimeModelGlob
      specificity :=
        selector.exactFields * 2 + (if selector.runtimeModelGlob.isSome then 1 else 0) }

def optionalMatches {α : Type} [DecidableEq α] (expected : Option α) (actual : α) : Bool :=
  expected.all (· = actual)

-- The method is called `matches` in the source.
def admits (selector : CompiledSelector) (route : RouteIdentity) : Bool :=
  optionalMatches selector.source.exposedModel route.exposedModelSlug &&
    optionalMatches selector.source.runtimeModel route.runtimeModelSlug &&
    optionalMatches selector.source.upstreamId route.upstreamId &&
    optionalMatches selector.source.keyFingerprint route.keyFingerprint &&
    optionalMatches selector.source.protocol route.protocol &&
    selector.source.tag.all (· ∈ route.tags) &&
    selector.runtimeModelGlob.all fun isMatch => isMatch route.runtimeModelSlug

def isSatisfiable (selector : CompiledSelector) : Bool :=
  match selector.source.runtimeModel, selector.runtimeModelGlob with
  | some runtimeModel, some isMatch => isMatch runtimeModel
  | _, _ => true

def exactValuesDiffer {α : Type} [DecidableEq α] : Option α → Option α → Bool
  | some left, some right => left ≠ right
  | _, _ => false

def globExcludes (runtimeModel : Option String) (glob : Option (String → Bool)) : Bool :=
  match runtimeModel, glob with
  | some runtimeModel, some isMatch => !isMatch runtimeModel
  | _, _ => false

def selectorsOverlap (left right : CompiledSelector) : Bool :=
  if !left.isSatisfiable || !right.isSatisfiable then false
  else if exactValuesDiffer left.source.exposedModel right.source.exposedModel ||
      exactValuesDiffer left.source.runtimeModel right.source.runtimeModel ||
      exactValuesDiffer left.source.upstreamId right.source.upstreamId ||
      exactValuesDiffer left.source.keyFingerprint right.source.keyFingerprint ||
      exactValuesDiffer left.source.protocol right.source.protocol then false
  else if globExcludes left.source.runtimeModel right.runtimeModelGlob then false
  else !globExcludes right.source.runtimeModel left.runtimeModelGlob

end CompiledSelector

section Checks

variable (libraries : PolicyLibraries)

abbrev PolicyCheck := Except CapabilityPolicyError Unit

def validateEntryCount (field : String) (count maximum : Nat) : PolicyCheck :=
  Checks.reject (count > maximum) (.tooManyEntries field count maximum)

def validateSelectorValueLength (id field value : String) : PolicyCheck :=
  Checks.reject (value.utf8ByteSize > maxCapabilitySelectorValueBytes)
    (.selectorValueTooLong id field value.utf8ByteSize maxCapabilitySelectorValueBytes)

def validateSelectorValueLengths (id : String) (selector : CapabilitySelector) : PolicyCheck :=
  Checks.each
    (fun (field, value) =>
      match value with
      | some value => validateSelectorValueLength id field value
      | none => .ok ())
    [("selector.exposed_model", selector.exposedModel),
      ("selector.runtime_model", selector.runtimeModel),
      ("selector.runtime_model_glob", selector.runtimeModelGlob),
      ("selector.upstream_id", selector.upstreamId),
      ("selector.key_fingerprint", selector.keyFingerprint),
      ("selector.tag", selector.tag)]

def validateProbeCount (count : Nat) : List CapabilityPolicy → PolicyCheck
  | [] => .ok ()
  | policy :: rest =>
    let count := count + policy.extensionProbes.length
    if count > maxCapabilityExtensionProbes then
      .error (.tooManyEntries "extension_probes" count maxCapabilityExtensionProbes)
    else validateProbeCount count rest

def sortedTags (tags : Finset String) : List String :=
  tags.sort

def validateResourceBounds (configuration : CapabilityConfiguration) : PolicyCheck := do
  validateEntryCount "policies" configuration.policies.length maxCapabilityCollectionEntries
  validateEntryCount "route_overrides" configuration.routeOverrides.length
    maxCapabilityCollectionEntries
  validateEntryCount "route_tags" configuration.routeTags.length maxCapabilityCollectionEntries
  validateEntryCount "bundles" configuration.bundles.length maxCapabilityCollectionEntries
  validateEntryCount "compatibility_expectations" configuration.compatibilityExpectations.length
    maxCapabilityCollectionEntries
  validateProbeCount 0 configuration.policies
  Checks.each (fun policy : CapabilityPolicy =>
    validateSelectorValueLengths policy.id policy.selector) configuration.policies
  Checks.each (fun routeOverride : RouteCapabilityOverride =>
    validateSelectorValueLengths routeOverride.id routeOverride.selector)
    configuration.routeOverrides
  Checks.each (fun assignment : RouteTagAssignment => do
    validateSelectorValueLengths assignment.id assignment.selector
    Checks.each (validateSelectorValueLength assignment.id "route_tags.tags")
      (sortedTags assignment.tags)) configuration.routeTags
  Checks.each (fun expectation : CompatibilityExpectation =>
    validateSelectorValueLengths expectation.id expectation.selector)
    configuration.compatibilityExpectations
  Checks.reject (libraries.configurationSize configuration > maxCapabilityConfigurationBytes)
    (.capabilityConfigurationTooLarge maxCapabilityConfigurationBytes)

def CapabilityConfiguration.extensionProbes (configuration : CapabilityConfiguration) :
    List DeclarativeProbeCase :=
  configuration.policies.flatMap (·.extensionProbes)

def CapabilityConfiguration.ids (configuration : CapabilityConfiguration) : List String :=
  configuration.policies.map (·.id) ++ configuration.routeOverrides.map (·.id) ++
    configuration.routeTags.map (·.id) ++ configuration.bundles.map (·.id) ++
    configuration.compatibilityExpectations.map (·.id) ++ configuration.extensionProbes.map (·.id)

def validateIdsFrom (seen : List String) : List String → PolicyCheck
  | [] => .ok ()
  | id :: rest =>
    if isBlank id then .error .emptyCapabilityId
    else if id ∈ seen then .error (.duplicateCapabilityId id)
    else validateIdsFrom (id :: seen) rest

def validateIds (configuration : CapabilityConfiguration) : PolicyCheck :=
  validateIdsFrom [] configuration.ids

def sensitiveQueryTerms : List String :=
  ["token", "key", "secret", "signature", "sig", "credential", "password", "passwd", "auth"]

def isSensitiveUrlQueryKey (key : String) : Bool :=
  let normalized := (key.toList.filter Char.isAlphanum).map Char.toLower
  sensitiveQueryTerms.any fun term => term.toList <:+: normalized

def isSensitiveUrl (value : String) : Bool :=
  match libraries.parseUrl value with
  | none => false
  | some url =>
    url.username ≠ "" || url.password.isSome ||
      url.queryPairs.any fun pair => isSensitiveUrlQueryKey pair.1

def validatePublicUrl (value : String) : PolicyCheck :=
  Checks.reject (isSensitiveUrl libraries value) .sensitiveUrl

def validateFixture (id : String) (fixture : HttpsImageFixture) : PolicyCheck := do
  Checks.reject
    (!(libraries.parseUrl fixture.url).any (fun url => url.scheme = "https" && url.host.isSome) ||
      isBlank fixture.expectedLabel)
    (.invalidHttpsFixture id)
  validatePublicUrl libraries fixture.url

def validateOptionalFixture (id : String) : Option HttpsImageFixture → PolicyCheck
  | none => .ok ()
  | some fixture => validateFixture libraries id fixture

def validateFixtures (configuration : CapabilityConfiguration) : PolicyCheck := do
  validateOptionalFixture libraries "probe" configuration.probe.httpsImageFixture
  Checks.each (fun expectation : CompatibilityExpectation =>
    validateOptionalFixture libraries expectation.id expectation.httpsImageFixture)
    configuration.compatibilityExpectations
  Checks.each (fun evidence : EvidenceReference => validatePublicUrl libraries evidence.url)
    (configuration.policies.flatMap (·.evidence))

/-! ### Extension probes -/

def escapeJsonPointerLetter : Char → Text
  | '~' => ['~', '0']
  | '/' => ['~', '1']
  | letter => [letter]

def escapeJsonPointerSegment (segment : String) : String :=
  String.ofList (segment.toList.flatMap escapeJsonPointerLetter)

def isProtectedRequestPath (path : String) : Bool :=
  protectedRequestPaths.any fun guarded =>
    path = guarded || (guarded ++ "/").toList.isPrefixOf path.toList

mutual

def validateRequestPatch (id : String) (parentPath : String) : Json → PolicyCheck
  | .object fields => validatePatchFields id parentPath fields
  | .array items => validatePatchItems id parentPath 0 items
  | .string value => validatePublicUrl libraries value
  | _ => .ok ()

def validatePatchFields (id : String) (parentPath : String) : List (String × Json) → PolicyCheck
  | [] => .ok ()
  | (key, value) :: rest => do
    let path := parentPath ++ "/" ++ escapeJsonPointerSegment key
    Checks.reject (isProtectedRequestPath path) (.protectedRequestPath id path)
    validateRequestPatch id path value
    validatePatchFields id parentPath rest

def validatePatchItems (id : String) (parentPath : String) (index : Nat) : List Json → PolicyCheck
  | [] => .ok ()
  | value :: rest => do
    let path := parentPath ++ "/" ++ toString index
    Checks.reject (isProtectedRequestPath path) (.protectedRequestPath id path)
    validateRequestPatch id path value
    validatePatchItems id parentPath (index + 1) rest

end

def validateExtension (case : DeclarativeProbeCase) : PolicyCheck := do
  Checks.reject (libraries.caseSize case > maxCapabilityExtensionCaseBytes)
    (.extensionCaseTooLarge case.id (maxCapabilityExtensionCaseBytes + 1))
  Checks.reject
    (!(['/'].isPrefixOf case.responsePredicate.path.toList) ||
      case.responsePredicate.path.utf8ByteSize > maxPredicatePathBytes)
    (.invalidBoundedResponsePredicatePath case.id case.responsePredicate.path)
  validateRequestPatch libraries case.id "" case.requestPatch

def validateExtensions (configuration : CapabilityConfiguration) : PolicyCheck :=
  Checks.each (validateExtension libraries) configuration.extensionProbes

/-! ### Tags and reasoning overrides -/

def validateRouteTag (assignment : RouteTagAssignment) : PolicyCheck := do
  Checks.reject assignment.selector.tag.isSome (.routeTagAssignmentSelectsByTag assignment.id)
  Checks.reject (assignment.tags = ∅ ∨ ∃ tag ∈ assignment.tags, isBlank tag)
    (.routeTagAssignmentHasEmptyTags assignment.id)

def validateRouteTags (configuration : CapabilityConfiguration) : PolicyCheck :=
  Checks.each validateRouteTag configuration.routeTags

def validateReasoningOverride (routeOverride : RouteCapabilityOverride) : PolicyCheck :=
  match routeOverride.reasoningControlField, routeOverride.effortMap.isEmpty with
  | some _, true =>
    .error (.invalidReasoningOverride routeOverride.id
      "reasoning_control_field requires a non-empty effort_map")
  | none, false =>
    .error (.invalidReasoningOverride routeOverride.id
      "effort_map requires reasoning_control_field")
  | _, _ => .ok ()

def validateReasoningOverrides (configuration : CapabilityConfiguration) : PolicyCheck :=
  Checks.each validateReasoningOverride configuration.routeOverrides

end Checks

section Conflicts

open CompiledSelector

def conflictingKey {K V : Type} [LinearOrder K] [DecidableEq V] (left right : OrderedMap K V) :
    Option K :=
  (left.entries.find? fun entry => exactValuesDiffer (some entry.2) (right.find? entry.1)).map (·.1)

def conflictingSemanticField (left right : SemanticPolicy) : Option String :=
  if exactValuesDiffer left.contextWindow right.contextWindow then some "context_window"
  else if exactValuesDiffer left.maxOutputTokens right.maxOutputTokens then
    some "max_output_tokens"
  else if exactValuesDiffer left.reasoningMode right.reasoningMode then some "reasoning_mode"
  else if exactValuesDiffer left.reasoningReplayRequired right.reasoningReplayRequired then
    some "reasoning_replay_required"
  else (conflictingKey left.effortMap right.effortMap).map ("effort_map." ++ ·)

def Capability.debugName : Capability → String
  | .textInput => "TextInput"
  | .nonStreamingResponse => "NonStreamingResponse"
  | .imageHttps => "ImageHttps"
  | .imageDataUrl => "ImageDataUrl"
  | .imageDetail => "ImageDetail"
  | .nativeFileId => "NativeFileId"
  | .functionTools => "FunctionTools"
  | .namespaceTools => "NamespaceTools"
  | .customTools => "CustomTools"
  | .hostedTools => "HostedTools"
  | .parallelToolCalls => "ParallelToolCalls"
  | .forcedToolChoice => "ForcedToolChoice"
  | .toolContinuation => "ToolContinuation"
  | .reasoningOutput => "ReasoningOutput"
  | .reasoningReplay => "ReasoningReplay"
  | .textStream => "TextStream"
  | .reasoningStream => "ReasoningStream"
  | .indexedToolArgumentStream => "IndexedToolArgumentStream"
  | .usageStream => "UsageStream"
  | .structuredOutput => "StructuredOutput"

def conflictingOverrideField (left right : RouteCapabilityOverride) : Option String :=
  match conflictingKey left.capabilities right.capabilities with
  | some capability => some ("capabilities." ++ capability.debugName)
  | none =>
    match conflictingKey left.extensions right.extensions with
    | some extension => some ("extensions." ++ extension)
    | none =>
      if exactValuesDiffer left.tokenLimitField right.tokenLimitField then
        some "token_limit_field"
      else if exactValuesDiffer left.reasoningCarrier right.reasoningCarrier then
        some "reasoning_carrier"
      else if exactValuesDiffer left.reasoningControlField right.reasoningControlField then
        some "reasoning_control_field"
      else
        match conflictingKey left.effortMap right.effortMap with
        | some level => some ("effort_map." ++ level)
        | none =>
          if left.correctionRules ≠ [] ∧ right.correctionRules ≠ [] ∧
              left.correctionRules ≠ right.correctionRules then some "correction_rules"
          else none

end Conflicts

structure Compiled (S : Type) where
  source : S
  selector : CompiledSelector

abbrev Rank := Int ×ₗ Nat

structure CompiledExpectation where
  source : CompatibilityExpectation
  required : Finset Capability
  compiledSelector : CompiledSelector

structure CompiledCapabilityConfiguration where
  source : CapabilityConfiguration
  policies : List (Compiled CapabilityPolicy)
  routeOverrides : List (Compiled RouteCapabilityOverride)
  routeTags : List (Compiled RouteTagAssignment)
  expectations : List CompiledExpectation

def policyRank (policy : Compiled CapabilityPolicy) : Rank :=
  toLex (policy.source.priority, policy.selector.specificity)

def overrideRank (routeOverride : Compiled RouteCapabilityOverride) : Rank :=
  toLex (routeOverride.source.priority, routeOverride.selector.specificity)

section Compile

variable (libraries : PolicyLibraries)

def compileEntries {S : Type} (id : S → String) (selector : S → CapabilitySelector) :
    List S → Except CapabilityPolicyError (List (Compiled S)) :=
  Checks.build fun entry =>
    (CompiledSelector.compile libraries (id entry) (selector entry)).map fun compiled =>
      { source := entry, selector := compiled }

def bundleRequired (bundles : List CompatibilityBundle) (id : String) :
    Option (Finset Capability) :=
  (bundles.reverse.find? fun bundle => bundle.id = id).map (·.required)

def requireBundle (expectation : CompatibilityExpectation) (bundles : List CompatibilityBundle)
    (required : Finset Capability) (bundleId : String) :
    Except CapabilityPolicyError (Finset Capability) :=
  match bundleRequired bundles bundleId with
  | none => .error (.unknownCompatibilityBundle expectation.id bundleId)
  | some bundle => .ok (required ∪ bundle)

def compileExpectation (bundles : List CompatibilityBundle)
    (expectation : CompatibilityExpectation) : Except CapabilityPolicyError CompiledExpectation :=
  (sortedTags expectation.bundles).foldlM (requireBundle expectation bundles) ∅ >>= fun required =>
    (CompiledSelector.compile libraries expectation.id expectation.selector).map fun compiled =>
      { source := expectation, required, compiledSelector := compiled }

def rejectConflict {S : Type} (rank : Compiled S → Rank) (conflict : S → S → Option String)
    (failure : String → S → S → CapabilityPolicyError) (left right : Compiled S) : PolicyCheck :=
  if rank left ≠ rank right ∨
      CompiledSelector.selectorsOverlap left.selector right.selector = false then .ok ()
  else
    Checks.refuse
      ((conflict left.source right.source).map (failure · left.source right.source))

def validatePolicyConflicts (policies : List (Compiled CapabilityPolicy)) : PolicyCheck :=
  Checks.pairs
    (rejectConflict policyRank
      (fun left right => conflictingSemanticField left.semantic right.semantic)
      fun field left right => .ambiguousSemanticField field left.id right.id)
    policies

def validateOverrideConflicts (routeOverrides : List (Compiled RouteCapabilityOverride)) :
    PolicyCheck :=
  Checks.pairs
    (rejectConflict overrideRank conflictingOverrideField
      fun field left right => .ambiguousOverrideField field left.id right.id)
    routeOverrides

def sortEntries {S : Type} (rank : Compiled S → Rank) (id : S → String)
    (entries : List (Compiled S)) : List (Compiled S) :=
  entries.insertionSort fun left right =>
    toLex (rank left, id left.source) ≤ toLex (rank right, id right.source)

namespace CapabilityConfiguration

def validate (configuration : CapabilityConfiguration) : PolicyCheck := do
  Checks.reject (configuration.schemaVersion ≠ capabilitySchemaVersion)
    (.unsupportedSchemaVersion configuration.schemaVersion capabilitySchemaVersion)
  validateResourceBounds libraries configuration
  validateIds configuration
  validateFixtures libraries configuration
  validateExtensions libraries configuration
  validateRouteTags configuration
  validateReasoningOverrides configuration

def compile (configuration : CapabilityConfiguration) :
    Except CapabilityPolicyError CompiledCapabilityConfiguration := do
  validate libraries configuration
  let policies ← compileEntries libraries (·.id) (·.selector) configuration.policies
  let routeOverrides ← compileEntries libraries (·.id) (·.selector) configuration.routeOverrides
  let routeTags ← compileEntries libraries (·.id) (·.selector) configuration.routeTags
  let expectations ←
    Checks.build (compileExpectation libraries configuration.bundles)
      configuration.compatibilityExpectations
  validatePolicyConflicts policies
  validateOverrideConflicts routeOverrides
  return {
    source := configuration
    policies := sortEntries policyRank (·.id) policies
    routeOverrides := sortEntries overrideRank (·.id) routeOverrides
    routeTags, expectations }

end CapabilityConfiguration

end Compile

def OrderedMap.extend {K V : Type} [LinearOrder K] (map other : OrderedMap K V) : OrderedMap K V :=
  other.entries.foldl (fun map entry => map.put entry.1 entry.2) map

def SemanticPolicy.overlay (held source : SemanticPolicy) : SemanticPolicy where
  reasoningMode := source.reasoningMode.or held.reasoningMode
  reasoningReplayRequired := source.reasoningReplayRequired.or held.reasoningReplayRequired
  effortMap := OrderedMap.extend held.effortMap source.effortMap
  contextWindow := source.contextWindow.or held.contextWindow
  maxOutputTokens := source.maxOutputTokens.or held.maxOutputTokens
  omitSamplingFields := held.omitSamplingFields ∪ source.omitSamplingFields

namespace CompiledCapabilityConfiguration

variable (configuration : CompiledCapabilityConfiguration)

def matchingPolicies (route : RouteIdentity) : List CapabilityPolicy :=
  (configuration.policies.filter fun policy => policy.selector.admits route).map (·.source)

def routeOverridesFor (route : RouteIdentity) : List RouteCapabilityOverride :=
  (configuration.routeOverrides.filter fun routeOverride =>
    routeOverride.selector.admits route).map (·.source)

def semanticFor (route : RouteIdentity) : SemanticPolicy :=
  (configuration.matchingPolicies route).foldl
    (fun semantic policy => semantic.overlay policy.semantic) {}

def extensionsFor (route : RouteIdentity) : List DeclarativeProbeCase :=
  (configuration.matchingPolicies route).flatMap (·.extensionProbes)

def resolutionInput (route : RouteIdentity) (requested : RequestedFeatures)
    (profile : Option UpstreamDialectProfile) (dialectPreset : Option String)
    (stripNonstandardChatFields : NonstandardFieldPolicy) : ResolutionInput where
  route := route
  requested := requested
  semantic := configuration.semanticFor route
  routeOverrides := configuration.routeOverridesFor route
  policyExtensions := configuration.extensionsFor route
  profile := profile
  dialectPreset := dialectPreset
  stripNonstandardChatFields := stripNonstandardChatFields

end CompiledCapabilityConfiguration

end ChatGateway
