import ChatGateway.Capabilities.ProbeQueue
import ChatGateway.Shared.Json
import ChatGateway.Shared.OrderedMap
import Mathlib.Data.Finset.Basic
import Mathlib.Data.String.Basic

set_option autoImplicit false

/-!
# Capabilities of a route

What is known of a route, what a request asks of it, and what is resolved from both.
-/

namespace ChatGateway

inductive Capability where
  | textInput
  | nonStreamingResponse
  | imageHttps
  | imageDataUrl
  | imageDetail
  | nativeFileId
  | functionTools
  | namespaceTools
  | customTools
  | hostedTools
  | parallelToolCalls
  | forcedToolChoice
  | toolContinuation
  | reasoningOutput
  | reasoningReplay
  | textStream
  | reasoningStream
  | indexedToolArgumentStream
  | usageStream
  | structuredOutput
deriving DecidableEq, Repr

namespace Capability

instance : LinearOrder Capability :=
  LinearOrder.lift' Capability.ctorIdx
    (Function.LeftInverse.injective (g := Capability.ofNat) Capability.ofNat_ctorIdx)

def all : List Capability :=
  [textInput, nonStreamingResponse, imageHttps, imageDataUrl, imageDetail, nativeFileId,
    functionTools, namespaceTools, customTools, hostedTools, parallelToolCalls, forcedToolChoice,
    toolContinuation, reasoningOutput, reasoningReplay, textStream, reasoningStream,
    indexedToolArgumentStream, usageStream, structuredOutput]

theorem mem_all (capability : Capability) : capability ∈ all := by
  cases capability <;> decide

def isReasoning : Capability → Bool
  | reasoningOutput => true
  | reasoningReplay => true
  | _ => false

end Capability

inductive EvidenceState where
  | supported
  | rejected
  | unobserved
deriving DecidableEq, Repr

inductive CapabilitySource where
  | override
  | probe
  | policy
  | baseline
deriving DecidableEq, Repr

inductive TokenLimitField where
  | maxTokens
  | maxCompletionTokens
  | maxOutputTokens
  | omit
deriving DecidableEq, Repr

inductive ReasoningMode where
  | off
  | optional
  | fixedOn
deriving DecidableEq, Repr

inductive ReasoningCarrier where
  | none
  | reasoningContent
  | responsesReasoningItem
  | messagesThinking
deriving DecidableEq, Repr

inductive DialectCorrectionRule where
  | switchTokenLimit (rejected replacement : TokenLimitField)
  | removeOptionalField (field : String)
deriving DecidableEq, Repr

inductive NonstandardFieldPolicy where
  | alwaysStrip
  | forward
  | auto
deriving DecidableEq, Repr

inductive PredicateOperator where
  | exists
  | equals
  | contains
  | eventSequence
deriving DecidableEq, Repr

structure CapabilitySelector where
  exposedModel : Option String := none
  runtimeModel : Option String := none
  runtimeModelGlob : Option String := none
  upstreamId : Option String := none
  keyFingerprint : Option String := none
  protocol : Option WireProtocol := none
  tag : Option String := none
deriving DecidableEq, Repr

structure SemanticPolicy where
  reasoningMode : Option ReasoningMode := none
  reasoningReplayRequired : Option Bool := none
  effortMap : OrderedMap String String := {}
  contextWindow : Option Nat := none
  maxOutputTokens : Option Nat := none
  omitSamplingFields : Finset String := ∅

structure ResponsePredicate where
  path : String
  operator : PredicateOperator
  value : Option Json := none
deriving DecidableEq

structure DeclarativeProbeCase where
  id : String
  protocol : WireProtocol
  prerequisites : Finset Capability := ∅
  requestPatch : Json
  responsePredicate : ResponsePredicate
deriving DecidableEq

structure RouteCapabilityOverride where
  id : String
  priority : Int := 0
  selector : CapabilitySelector := {}
  capabilities : OrderedMap Capability EvidenceState := {}
  tokenLimitField : Option TokenLimitField := none
  reasoningCarrier : Option ReasoningCarrier := none
  reasoningControlField : Option String := none
  effortMap : OrderedMap String Json := {}
  correctionRules : List DialectCorrectionRule := []
  extensions : OrderedMap String EvidenceState := {}

structure RouteIdentity where
  upstreamId : String
  keyFingerprint : String
  exposedModelSlug : String
  runtimeModelSlug : String
  protocol : WireProtocol
  tags : Finset String := ∅

namespace DialectProfileKey

def fromRoute (route : RouteIdentity) : DialectProfileKey where
  upstreamId := route.upstreamId
  keyFingerprint := route.keyFingerprint
  runtimeModelSlug := route.runtimeModelSlug
  protocol := route.protocol

end DialectProfileKey

inductive DialectProfileState where
  | verified
  | partial_
  | unsupported
  | unknown
deriving DecidableEq, Repr

structure UpstreamDialectProfile where
  key : DialectProfileKey
  state : DialectProfileState := .unknown
  capabilities : OrderedMap Capability EvidenceState := {}
  tokenLimitField : Option TokenLimitField := none
  reasoningCarrier : Option ReasoningCarrier := none
  correctionRules : List DialectCorrectionRule := []
  reasoningControls : OrderedMap String (List Json) := {}
  extensionEvidence : OrderedMap String EvidenceState := {}

structure RequestedFeatures where
  required : Finset Capability := ∅
  optional : Finset Capability := ∅
  continuationProfile : Option DialectProfileKey := none
  continuationReasoningCarrier : Option ReasoningCarrier := none

structure ResolvedCapability where
  state : EvidenceState
  source : CapabilitySource
deriving DecidableEq, Repr

structure ResolvedRequestExtension where
  id : String
  requestPatch : Json
deriving DecidableEq

structure ResolvedCapabilities where
  values : Capability → ResolvedCapability
  tokenLimitField : TokenLimitField
  reasoningMode : ReasoningMode
  reasoningCarrier : ReasoningCarrier
  correctionRules : List DialectCorrectionRule
  reasoningControlField : Option String
  effortMap : OrderedMap String Json
  omitSamplingFields : Finset String
  contextWindow : Option Nat
  maxOutputTokens : Option Nat
  omitOptionalExtensions : Bool
  profileState : DialectProfileState
  provisional : Bool
  nativePreferred : Bool
  adapters : Finset String
  requestExtensions : List ResolvedRequestExtension
  fieldSources : OrderedMap String CapabilitySource

def baselineCapabilities (capability : Capability) : ResolvedCapability where
  state := match capability with
    | .textInput => .supported
    | .nonStreamingResponse => .supported
    | .textStream => .supported
    | .functionTools => .supported
    | .forcedToolChoice => .supported
    | .toolContinuation => .supported
    | _ => .unobserved
  source := .baseline

def policySupported (capabilities : List Capability) (capability : Capability) :
    ResolvedCapability :=
  if capability ∈ capabilities then ⟨.supported, .policy⟩ else baselineCapabilities capability

def dialectPreset (supported : List Capability) (carrier : ReasoningCarrier)
    (controlField : Option String) (effortMap : OrderedMap String Json)
    (omitSamplingFields : Finset String) (omitOptionalExtensions : Bool) :
    ResolvedCapabilities where
  values := policySupported supported
  tokenLimitField := .maxTokens
  reasoningMode := .optional
  reasoningCarrier := carrier
  correctionRules := []
  reasoningControlField := controlField
  effortMap := effortMap
  omitSamplingFields := omitSamplingFields
  contextWindow := none
  maxOutputTokens := none
  omitOptionalExtensions := omitOptionalExtensions
  profileState := .partial_
  provisional := false
  nativePreferred := true
  adapters := ∅
  requestExtensions := []
  fieldSources :=
    let sources := (((({} : OrderedMap String CapabilitySource)
      |>.put "token_limit_field" .policy)
      |>.put "reasoning_carrier" (if carrier = .none then .baseline else .policy))
      |>.put "effort_map" (if effortMap.isEmpty then .baseline else .policy))
      |>.put "omit_sampling_fields" (if omitSamplingFields = ∅ then .baseline else .policy)
    if omitOptionalExtensions then sources.put "omit_optional_extensions" .policy else sources

def reasoningCapabilities : List Capability :=
  [.reasoningOutput, .reasoningReplay, .parallelToolCalls]

def deepseekEfforts : OrderedMap String Json :=
  ["low", "medium", "high", "xhigh", "max"].foldl
    (fun efforts effort => efforts.put effort (.string effort)) {}

def glmThinking (kind : String) : Json := .object [("type", .string kind)]

def glmEfforts : OrderedMap String Json :=
  ["medium", "high", "xhigh", "max"].foldl
    (fun efforts effort => efforts.put effort (glmThinking "enabled"))
    (({} : OrderedMap String Json).put "low" (glmThinking "disabled"))

def compileDialectPreset (preset : String) : Option ResolvedCapabilities :=
  if preset = "openai" ∨ preset = "minimax" then
    some (dialectPreset [.parallelToolCalls] .none none {} ∅ false)
  else if preset = "deepseek" then
    some (dialectPreset reasoningCapabilities .reasoningContent (some "reasoning_effort")
      deepseekEfforts {"logprobs", "top_logprobs"} false)
  else if preset = "glm" then
    some (dialectPreset reasoningCapabilities .reasoningContent (some "thinking")
      glmEfforts {"stream_options", "logprobs", "top_logprobs"} false)
  else if preset = "generic-strict" then
    some (dialectPreset [] .none none {} {"stream_options"} true)
  else none

-- A preset compiles to what it sets for some capabilities, with an effort map whenever it names
-- a control field.
theorem compileDialectPreset_eq_some {preset : String} {compiled : ResolvedCapabilities}
    (found : compileDialectPreset preset = some compiled) :
    ∃ supported, compiled.values = policySupported supported ∧ compiled.requestExtensions = [] ∧
      (compiled.effortMap.isEmpty = true → compiled.reasoningControlField = none ∧
        compiled.effortMap = {}) := by
  rw [compileDialectPreset] at found
  split at found
  · cases found
    exact ⟨_, rfl, rfl, fun _ => ⟨rfl, rfl⟩⟩
  split at found
  · cases found
    exact ⟨_, rfl, rfl, fun empty => absurd empty (by decide +kernel)⟩
  split at found
  · cases found
    exact ⟨_, rfl, rfl, fun empty => absurd empty (by decide +kernel)⟩
  split at found
  · cases found
    exact ⟨[], rfl, rfl, fun _ => ⟨rfl, rfl⟩⟩
  · cases found

end ChatGateway
