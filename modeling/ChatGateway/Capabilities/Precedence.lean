import ChatGateway.Capabilities.Resolver
import ChatGateway.Shared.Fallible
import ChatGateway.Shared.LastWins

set_option autoImplicit false

/-!
# Which evidence counts

What is resolved for a route against the order of its evidence: the last override that has a say,
the probe profile, the preset where there is no profile, and then the baseline.
-/

namespace ChatGateway

structure Offers (α : Type) where
  override : Option α
  probe : Option α
  preset : Option α
  fallback : α

namespace Offers

variable {α β : Type}

def chosen (offers : Offers α) : α × CapabilitySource :=
  match offers.override, offers.probe, offers.preset with
  | some value, _, _ => (value, .override)
  | none, some value, _ => (value, .probe)
  | none, none, some value => (value, .policy)
  | none, none, none => (offers.fallback, .baseline)

def beneath (offers : Offers α) : α × CapabilitySource :=
  { offers with override := none }.chosen

theorem chosen_eq (offers : Offers α) :
    offers.chosen = (offers.override.map (·, .override)).getD offers.beneath := by
  obtain ⟨_ | value, probe, preset, fallback⟩ := offers <;> rfl

end Offers

def observed? {K : Type} [LinearOrder K] (evidence : OrderedMap K EvidenceState) (key : K) :
    Option EvidenceState :=
  (evidence.find? key).filter (· ≠ .unobserved)

def observedOnly {K : Type} [LinearOrder K] (evidence : OrderedMap K EvidenceState) :
    OrderedMap K EvidenceState :=
  evidence.filter (· ≠ .unobserved)

def UpstreamDialectProfile.observedOnly (profile : UpstreamDialectProfile) :
    UpstreamDialectProfile :=
  { profile with
    capabilities := ChatGateway.observedOnly profile.capabilities
    extensionEvidence := ChatGateway.observedOnly profile.extensionEvidence }

def RouteCapabilityOverride.observedOnly (routeOverride : RouteCapabilityOverride) :
    RouteCapabilityOverride :=
  { routeOverride with
    capabilities := ChatGateway.observedOnly routeOverride.capabilities
    extensions := ChatGateway.observedOnly routeOverride.extensions }

namespace ResolutionInput

def usableProfile (input : ResolutionInput) : Option UpstreamDialectProfile :=
  input.withUsableProfile.profile

def usablePreset (input : ResolutionInput) : Option ResolvedCapabilities :=
  if input.usableProfile.isNone then input.preset else none

def observedOnly (input : ResolutionInput) : ResolutionInput :=
  { input with
    profile := input.usableProfile.map (·.observedOnly)
    routeOverrides := input.routeOverrides.map (·.observedOnly) }

def capabilityOffers (input : ResolutionInput) (capability : Capability) :
    Offers EvidenceState where
  override := lastSome (fun routeOverride => observed? routeOverride.capabilities capability)
    input.routeOverrides
  probe := input.usableProfile.bind fun profile => observed? profile.capabilities capability
  preset := input.usablePreset.bind fun preset =>
    if (preset.values capability).source = .baseline then none
    else some (preset.values capability).state
  fallback := (input.continuedCapabilities capability).state

def tokenLimitOffers (input : ResolutionInput) : Offers TokenLimitField where
  override := lastSome (·.tokenLimitField) input.routeOverrides
  probe := input.usableProfile.bind (·.tokenLimitField)
  preset := input.usablePreset.map (·.tokenLimitField)
  fallback := .omit

def reasoningCarrierOffers (input : ResolutionInput) : Offers ReasoningCarrier where
  override := lastSome (·.reasoningCarrier) input.routeOverrides
  probe := input.usableProfile.bind (·.reasoningCarrier)
  preset := input.usablePreset.map (·.reasoningCarrier)
  fallback := input.matchingContinuationCarrier.getD .none

def effortOffers (input : ResolutionInput) : Offers EffortControl where
  override := lastSome (fun routeOverride => routeOverride.reasoningControlField.map fun field =>
    (some field, routeOverride.effortMap)) input.routeOverrides
  probe := input.usableProfile.bind (profileEffort input.semantic)
  preset := input.usablePreset.bind fun preset =>
    if preset.effortMap.isEmpty then none
    else some (preset.reasoningControlField, preset.effortMap)
  fallback := (none, {})

def extensionOffers (input : ResolutionInput) (extensionId : String) : Offers EvidenceState where
  override := lastSome (fun routeOverride => observed? routeOverride.extensions extensionId)
    input.routeOverrides
  probe := input.usableProfile.bind fun profile => observed? profile.extensionEvidence extensionId
  preset := none
  fallback := .unobserved

def consideredExtensions (input : ResolutionInput) : List DeclarativeProbeCase :=
  if input.withUsableProfile.extensionsAreEligible then
    input.policyExtensions.filter input.considers
  else []

def supportedExtensions (input : ResolutionInput) : List ResolvedRequestExtension :=
  (input.consideredExtensions.filter fun extension =>
    (input.extensionOffers extension.id).chosen.1 = .supported).map fun extension =>
      ⟨extension.id, extension.requestPatch⟩

def requestExtensionOffers (input : ResolutionInput) : Offers (List ResolvedRequestExtension) where
  override :=
    if input.consideredExtensions.any fun extension =>
      (input.extensionOffers extension.id).override.isSome
    then some input.supportedExtensions else none
  probe :=
    if input.consideredExtensions.any fun extension =>
      (input.extensionOffers extension.id).probe.isSome
    then some input.supportedExtensions else none
  preset := input.usablePreset.map (·.requestExtensions)
  fallback := []

/-- Every field comes from the strongest evidence, and the requirements are met by what is
returned. -/
structure RespectsPrecedence (input : ResolutionInput) (resolved : ResolvedCapabilities) :
    Prop where
  capabilities : ∀ capability, resolved.values capability =
    ⟨(input.capabilityOffers capability).chosen.1, (input.capabilityOffers capability).chosen.2⟩
  tokenLimit : resolved.tokenLimitField = input.tokenLimitOffers.chosen.1 ∧
    resolved.fieldSources.find? "token_limit_field" = some input.tokenLimitOffers.chosen.2
  reasoningCarrier : resolved.reasoningCarrier = input.reasoningCarrierOffers.chosen.1 ∧
    resolved.fieldSources.find? "reasoning_carrier" = some input.reasoningCarrierOffers.chosen.2
  effortControl : (resolved.reasoningControlField, resolved.effortMap) =
      input.effortOffers.chosen.1 ∧
    resolved.fieldSources.find? "effort_map" = some input.effortOffers.chosen.2
  requestExtensions : resolved.requestExtensions = input.requestExtensionOffers.chosen.1 ∧
    resolved.fieldSources.find? "request_extensions" = some input.requestExtensionOffers.chosen.2
  unaffected : input.observedOnly.resolve = .ok resolved
  required : ∀ capability ∈ input.requiredCapabilities,
    (resolved.values capability).state = .supported ∧ (capability.isReasoning = true →
      reasoningCarrierMatchesProtocol resolved.reasoningCarrier input.route.protocol = true)

/-- No preset is there, or it is all there is: no profile of the route, and no override on an
extension that is considered. -/
def presetStandsAlone (input : ResolutionInput) : Bool :=
  input.preset.isNone || (input.usableProfile.isNone && input.consideredExtensions.all
    fun extension => (input.extensionOffers extension.id).override.isNone)

end ResolutionInput

theorem observed?_observedOnly {K : Type} [LinearOrder K] (evidence : OrderedMap K EvidenceState)
    (key : K) : observed? (observedOnly evidence) key = observed? evidence key := by
  rw [observed?, observed?, observedOnly, OrderedMap.find?_filter]
  cases evidence.find? key with
  | none => rfl
  | some state => cases state <;> rfl

theorem insertObserved_apply (source : CapabilitySource)
    (values : Capability → ResolvedCapability) (evidence : OrderedMap Capability EvidenceState)
    (capability : Capability) :
    insertObserved source values evidence capability =
      ((observed? evidence capability).map (⟨·, source⟩)).getD (values capability) := by
  let kept : EvidenceState → Option ResolvedCapability := fun state =>
    if state ≠ .unobserved then some ⟨state, source⟩ else none
  have stores : ∀ (values : Capability → ResolvedCapability) (entry : Capability × EvidenceState),
      (if entry.2 ≠ .unobserved then Function.update values entry.1 ⟨entry.2, source⟩ else values) =
        ((kept entry.2).map (Function.update values entry.1)).getD values := by
    intro values entry
    by_cases seen : entry.2 = .unobserved <;> simp [kept, seen]
  rw [insertObserved, OrderedMap.foldl_store stores, observed?]
  cases evidence.find? capability with
  | none => rfl
  | some state => cases state <;> rfl

namespace ResolutionInput

variable (input : ResolutionInput)

theorem usablePreset_of_profile {profile : UpstreamDialectProfile}
    (usable : input.usableProfile = some profile) : input.usablePreset = none := by
  simp [usablePreset, usable]

theorem usablePreset_of_none (absent : input.usableProfile = none) :
    input.usablePreset = input.preset := by
  simp [usablePreset, absent]

theorem continuedCapabilities_source (capability : Capability) :
    (input.continuedCapabilities capability).source = .baseline := by
  rw [continuedCapabilities]
  split
  · cases capability <;> rfl
  · rfl

theorem continuedCapabilities_of_baseline {capability : Capability}
    (seen : (baselineCapabilities capability).state ≠ .unobserved) :
    input.continuedCapabilities capability = baselineCapabilities capability := by
  rw [continuedCapabilities]
  split
  · cases capability <;> first | rfl | exact absurd rfl seen
  · rfl

theorem evidencedValues_of_profile {profile : UpstreamDialectProfile}
    (usable : input.usableProfile = some profile) (preset : Option ResolvedCapabilities) :
    input.withUsableProfile.evidencedValues preset =
      insertObserved .probe input.continuedCapabilities profile.capabilities := by
  have kept : input.withUsableProfile.profile = some profile := usable
  simp only [evidencedValues, kept]
  rfl

theorem evidencedValues_of_preset {preset : ResolvedCapabilities}
    (absent : input.usableProfile = none) :
    input.withUsableProfile.evidencedValues (some preset) = fun capability =>
      if (preset.values capability).state ≠ .unobserved then preset.values capability
      else input.continuedCapabilities capability := by
  have gone : input.withUsableProfile.profile = none := absent
  simp only [evidencedValues, gone]
  rfl

theorem evidencedValues_of_none (absent : input.usableProfile = none) :
    input.withUsableProfile.evidencedValues none = input.continuedCapabilities := by
  have gone : input.withUsableProfile.profile = none := absent
  simp only [evidencedValues, gone]
  rfl

theorem fallback_eq (capability : Capability) :
    ResolvedCapability.mk (input.continuedCapabilities capability).state .baseline =
      input.continuedCapabilities capability := by
  rw [← input.continuedCapabilities_source capability]

theorem evidencedValues_apply (capability : Capability) :
    input.withUsableProfile.evidencedValues input.preset capability =
      ⟨(input.capabilityOffers capability).beneath.1,
        (input.capabilityOffers capability).beneath.2⟩ := by
  cases usable : input.usableProfile with
  | some profile =>
    rw [input.evidencedValues_of_profile usable, insertObserved_apply]
    simp only [Offers.beneath, Offers.chosen, capabilityOffers, usable,
      input.usablePreset_of_profile usable, Option.bind_some, Option.bind_none]
    cases observed? profile.capabilities capability with
    | some state => rfl
    | none => exact (input.fallback_eq capability).symm
  | none =>
    simp only [Offers.beneath, Offers.chosen, capabilityOffers, usable,
      input.usablePreset_of_none usable, Option.bind_none]
    cases found : input.preset with
    | none =>
      rw [input.evidencedValues_of_none usable]
      exact (input.fallback_eq capability).symm
    | some preset =>
      obtain ⟨name, -, compiled⟩ := Option.bind_eq_some_iff.1 found
      obtain ⟨supported, values, -, -⟩ := compileDialectPreset_eq_some compiled
      rw [input.evidencedValues_of_preset usable]
      simp only [Option.bind_some, values, policySupported]
      by_cases member : capability ∈ supported
      · simp [member]
      · -- what the preset does not set it takes from the baseline
        rw [if_neg member]
        by_cases seen : (baselineCapabilities capability).state = .unobserved
        · rw [if_neg (not_not.2 seen)]
          exact (input.fallback_eq capability).symm
        · rw [if_pos seen]
          refine Eq.trans ?_ (input.fallback_eq capability).symm
          exact (input.continuedCapabilities_of_baseline seen).symm

theorem resolveValues_apply (capability : Capability) :
    input.withUsableProfile.resolveValues input.preset capability =
      ⟨(input.capabilityOffers capability).chosen.1,
        (input.capabilityOffers capability).chosen.2⟩ := by
  have overwrites : ∀ (values : Capability → ResolvedCapability)
      (routeOverride : RouteCapabilityOverride),
      insertObserved .override values routeOverride.capabilities capability =
        ((observed? routeOverride.capabilities capability).map
          (ResolvedCapability.mk · .override)).getD (values capability) :=
    fun values routeOverride => insertObserved_apply _ _ _ _
  have overwritten := foldl_overwrite_view (· capability) overwrites input.routeOverrides
    (input.withUsableProfile.evidencedValues input.preset)
  rw [Offers.chosen_eq]
  refine overwritten.trans ?_
  rw [evidencedValues_apply]
  change ((input.capabilityOffers capability).override.map _).getD _ = _
  cases (input.capabilityOffers capability).override <;> rfl

theorem resolveField_eq {α : Type} (ofProfile : UpstreamDialectProfile → Option α)
    (ofPreset : ResolvedCapabilities → α) (ofOverride : RouteCapabilityOverride → Option α)
    (base : α) (alone : input.preset = none ∨ input.usableProfile = none) :
    input.withUsableProfile.resolveField input.preset ofProfile ofPreset ofOverride base =
      Offers.chosen
        { override := lastSome ofOverride input.routeOverrides
          probe := input.usableProfile.bind ofProfile
          preset := input.usablePreset.map ofPreset
          fallback := base } := by
  rw [Offers.chosen_eq, resolveField]
  refine (@foldl_overwrite _ _ _ (·, CapabilitySource.override) ofOverride _ ?_ _ _).trans ?_
  · intro held routeOverride
    cases ofOverride routeOverride <;> rfl
  congr 1
  change evidencedField (input.usableProfile.bind ofProfile) (input.preset.map ofPreset) base = _
  cases usable : input.usableProfile with
  | none =>
    rw [input.usablePreset_of_none usable]
    cases input.preset <;> rfl
  | some profile =>
    have without : input.preset = none := alone.resolve_right (by simp [usable])
    rw [input.usablePreset_of_profile usable, without, Option.bind_some]
    cases ofProfile profile <;> rfl

theorem resolveEffortControl_eq :
    input.withUsableProfile.resolveEffortControl input.preset = input.effortOffers.chosen := by
  let speak : RouteCapabilityOverride → Option EffortControl := fun routeOverride =>
    routeOverride.reasoningControlField.map fun field => (some field, routeOverride.effortMap)
  rw [Offers.chosen_eq, resolveEffortControl]
  refine (@foldl_overwrite _ _ _ (·, CapabilitySource.override) speak _ ?_ _ _).trans ?_
  · intro held routeOverride
    simp only [speak]
    cases routeOverride.reasoningControlField <;> rfl
  congr 1
  simp only [Offers.beneath, Offers.chosen, effortOffers]
  change evidencedEffort input.semantic input.usableProfile input.preset = _
  cases usable : input.usableProfile with
  | some profile =>
    rw [input.usablePreset_of_profile usable, Option.bind_some, Option.bind_none, evidencedEffort]
    cases profileEffort input.semantic profile <;> rfl
  | none =>
    rw [input.usablePreset_of_none usable]
    cases found : input.preset with
    | none => rfl
    | some preset =>
      obtain ⟨name, -, compiled⟩ := Option.bind_eq_some_iff.1 found
      obtain ⟨-, -, -, unset⟩ := compileDialectPreset_eq_some compiled
      rw [Option.bind_some, evidencedEffort]
      by_cases empty : preset.effortMap.isEmpty = true
      · obtain ⟨field, efforts⟩ := unset empty
        simp only [field, efforts]
        rfl
      · simp only [if_neg empty]
        rfl

theorem overwrites_observed (evidences : OrderedMap String EvidenceState) (extensionId : String)
    (held : EvidenceState × CapabilitySource) :
    (match evidences.find? extensionId with
      | some evidence => if evidence ≠ .unobserved then (evidence, .override) else held
      | none => held) = ((observed? evidences extensionId).map (·, .override)).getD held := by
  rw [observed?]
  cases evidences.find? extensionId with
  | none => rfl
  | some evidence => cases evidence <;> rfl

theorem extensionEvidence_eq (extensionId : String) :
    input.withUsableProfile.extensionEvidence extensionId =
      (input.extensionOffers extensionId).chosen := by
  rw [Offers.chosen_eq, extensionEvidence]
  refine (foldl_overwrite (fun held routeOverride =>
    overwrites_observed routeOverride.extensions extensionId held) _ _).trans ?_
  congr 1
  simp only [Offers.beneath, Offers.chosen, extensionOffers]
  change probedExtension (input.usableProfile.bind (·.extensionEvidence.find? extensionId)) = _
  cases input.usableProfile with
  | none => rfl
  | some profile =>
    simp only [Option.bind_some, observed?]
    cases profile.extensionEvidence.find? extensionId with
    | none => rfl
    | some evidence => cases evidence <;> rfl

def strongestSource (extensions : List DeclarativeProbeCase) : CapabilitySource :=
  if extensions.any fun extension => (input.extensionOffers extension.id).override.isSome then
    .override
  else if extensions.any fun extension => (input.extensionOffers extension.id).probe.isSome then
    .probe
  else .baseline

def supportedAmong (extensions : List DeclarativeProbeCase) : List ResolvedRequestExtension :=
  (extensions.filter fun extension =>
    (input.extensionOffers extension.id).chosen.1 = .supported).map fun extension =>
      ⟨extension.id, extension.requestPatch⟩

theorem strongestSource_append_singleton (extensions : List DeclarativeProbeCase)
    (extension : DeclarativeProbeCase) :
    input.strongestSource (extensions ++ [extension]) =
      strongerEvidenceSource (input.strongestSource extensions)
        (input.extensionOffers extension.id).chosen.2 := by
  simp only [strongestSource, List.any_append, List.any_cons, List.any_nil, Bool.or_false]
  generalize (extensions.any fun extension =>
    (input.extensionOffers extension.id).override.isSome) = overridden
  generalize (extensions.any fun extension =>
    (input.extensionOffers extension.id).probe.isSome) = probed
  have unset : (input.extensionOffers extension.id).preset = none := rfl
  rw [Offers.chosen, unset]
  cases (input.extensionOffers extension.id).override <;>
    cases (input.extensionOffers extension.id).probe <;> cases overridden <;> cases probed <;> rfl

theorem supportedAmong_of_unknown {extensions : List DeclarativeProbeCase}
    (plain : ∀ extension ∈ extensions, (input.extensionOffers extension.id).override = none)
    (unprobed : ∀ extension ∈ extensions, (input.extensionOffers extension.id).probe = none) :
    input.supportedAmong extensions = [] := by
  rw [supportedAmong, List.map_eq_nil_iff, List.filter_eq_nil_iff]
  intro extension member supported
  have unset : (input.extensionOffers extension.id).preset = none := rfl
  rw [Offers.chosen, plain extension member, unprobed extension member, unset] at supported
  cases of_decide_eq_true supported

theorem foldl_addExtension (extensions : List DeclarativeProbeCase) :
    extensions.foldl input.withUsableProfile.addExtension ([], .baseline) =
      (input.supportedAmong (extensions.filter input.considers),
        input.strongestSource (extensions.filter input.considers)) := by
  induction extensions using List.reverseRecOn with
  | nil => rfl
  | append_singleton extensions extension ih =>
    rw [List.foldl_append, List.foldl_cons, List.foldl_nil, ih, addExtension, List.filter_append]
    have same : input.withUsableProfile.considers extension = input.considers extension := rfl
    rw [same, extensionEvidence_eq]
    cases wanted : input.considers extension with
    | false => simp [wanted]
    | true =>
      have kept : List.filter input.considers [extension] = [extension] := by simp [wanted]
      rw [kept, if_pos rfl, strongestSource_append_singleton]
      by_cases supported : (input.extensionOffers extension.id).chosen.1 = .supported <;>
        simp [supportedAmong, supported]

theorem resolveExtensions_of_none (absent : input.preset = none) :
    input.withUsableProfile.resolveExtensions none = input.requestExtensionOffers.chosen := by
  have without : input.usablePreset = none := by
    rw [usablePreset, absent]
    exact ite_self _
  have whole : input.withUsableProfile.resolveExtensions none =
      (input.supportedAmong input.consideredExtensions,
        input.strongestSource input.consideredExtensions) := by
    rw [resolveExtensions, consideredExtensions]
    by_cases eligible : input.withUsableProfile.extensionsAreEligible = true
    · simp only [if_pos eligible]
      exact input.foldl_addExtension _
    · simp only [if_neg eligible]
      rfl
  have same : input.supportedExtensions = input.supportedAmong input.consideredExtensions := rfl
  rw [whole]
  simp only [requestExtensionOffers, Offers.chosen, without, strongestSource, same]
  by_cases overridden : (input.consideredExtensions.any fun extension =>
      (input.extensionOffers extension.id).override.isSome) = true
  · simp only [if_pos overridden]
  by_cases probed : (input.consideredExtensions.any fun extension =>
      (input.extensionOffers extension.id).probe.isSome) = true
  · simp only [if_neg overridden, if_pos probed]
  · -- nothing is known of any of them, so none is supported
    have plain : ∀ extension ∈ input.consideredExtensions,
        (input.extensionOffers extension.id).override = none := by
      simpa using overridden
    have unprobed : ∀ extension ∈ input.consideredExtensions,
        (input.extensionOffers extension.id).probe = none := by
      simpa using probed
    simp only [if_neg overridden, if_neg probed, input.supportedAmong_of_unknown plain unprobed]
    rfl

-- The extensions of a preset are what they should be exactly when it is all there is.
theorem resolveExtensions_of_some {preset : ResolvedCapabilities}
    (found : input.preset = some preset) :
    input.withUsableProfile.resolveExtensions (some preset) = input.requestExtensionOffers.chosen ↔
      input.presetStandsAlone = true := by
  have answer : input.withUsableProfile.resolveExtensions (some preset) =
      (preset.requestExtensions, .policy) := rfl
  rw [answer, presetStandsAlone, found]
  cases usable : input.usableProfile with
  | some profile =>
    constructor
    · intro same
      have label := congrArg Prod.snd same
      simp only [requestExtensionOffers, Offers.chosen, input.usablePreset_of_profile usable] at label
      split at label <;> cases label
      next unset => cases unset
    · intro alone
      cases alone
  | none =>
    have unprobed : (input.consideredExtensions.any fun extension =>
        (input.extensionOffers extension.id).probe.isSome) = false := by
      simp [extensionOffers, usable]
    simp only [requestExtensionOffers, Offers.chosen, unprobed, input.usablePreset_of_none usable,
      found]
    by_cases overridden : (input.consideredExtensions.any fun extension =>
        (input.extensionOffers extension.id).override.isSome) = true
    · rw [if_pos overridden]
      constructor
      · intro same
        cases congrArg Prod.snd same
      · intro alone
        obtain ⟨extension, member, spoken⟩ := List.any_eq_true.1 overridden
        have silent := (List.all_eq_true.1 alone) extension member
        rw [Option.isNone_iff_eq_none.1 silent] at spoken
        cases spoken
    · rw [if_neg overridden]
      refine iff_of_true rfl ?_
      simpa using overridden

theorem usableProfile_observedOnly :
    input.observedOnly.usableProfile = input.usableProfile.map (·.observedOnly) := by
  change (input.usableProfile.map (·.observedOnly)).filter _ = _
  cases usable : input.usableProfile with
  | none => rfl
  | some profile =>
    obtain ⟨-, own⟩ := Option.filter_eq_some_iff.1 usable
    exact if_pos own

theorem usablePreset_observedOnly : input.observedOnly.usablePreset = input.usablePreset := by
  rw [usablePreset, usablePreset, usableProfile_observedOnly, Option.isNone_map]
  rfl

theorem capabilityOffers_observedOnly (capability : Capability) :
    input.observedOnly.capabilityOffers capability = input.capabilityOffers capability := by
  have overrides : lastSome (fun routeOverride : RouteCapabilityOverride =>
      observed? routeOverride.capabilities capability)
        (input.routeOverrides.map (·.observedOnly)) =
      lastSome (fun routeOverride => observed? routeOverride.capabilities capability)
        input.routeOverrides := by
    rw [lastSome_map]
    exact congrArg (lastSome · _) (funext fun _ => observed?_observedOnly _ _)
  rw [capabilityOffers, capabilityOffers, usablePreset_observedOnly, usableProfile_observedOnly]
  congr 1
  rw [Option.bind_map]
  exact congrArg _ (funext fun _ => observed?_observedOnly _ _)

theorem extensionOffers_observedOnly (extensionId : String) :
    input.observedOnly.extensionOffers extensionId = input.extensionOffers extensionId := by
  have overrides : lastSome (fun routeOverride : RouteCapabilityOverride =>
      observed? routeOverride.extensions extensionId)
        (input.routeOverrides.map (·.observedOnly)) =
      lastSome (fun routeOverride => observed? routeOverride.extensions extensionId)
        input.routeOverrides := by
    rw [lastSome_map]
    exact congrArg (lastSome · _) (funext fun _ => observed?_observedOnly _ _)
  rw [extensionOffers, extensionOffers, usableProfile_observedOnly, Option.bind_map]
  congr 1
  exact congrArg _ (funext fun _ => observed?_observedOnly _ _)

theorem effortOffers_observedOnly : input.observedOnly.effortOffers = input.effortOffers := by
  rw [effortOffers, effortOffers, usablePreset_observedOnly, usableProfile_observedOnly,
    Option.bind_map]
  congr 1
  exact lastSome_map _ _ _

theorem resolveField_observedOnly {α : Type} (preset : Option ResolvedCapabilities)
    {ofProfile : UpstreamDialectProfile → Option α} {ofPreset : ResolvedCapabilities → α}
    {ofOverride : RouteCapabilityOverride → Option α} {base : α}
    (profiles : ∀ profile, ofProfile profile.observedOnly = ofProfile profile)
    (overrides : ∀ routeOverride, ofOverride routeOverride.observedOnly = ofOverride routeOverride) :
    input.observedOnly.withUsableProfile.resolveField preset ofProfile ofPreset ofOverride base =
      input.withUsableProfile.resolveField preset ofProfile ofPreset ofOverride base := by
  have same : input.observedOnly.usableProfile.bind ofProfile =
      input.usableProfile.bind ofProfile := by
    rw [usableProfile_observedOnly, Option.bind_map]
    exact congrArg _ (funext profiles)
  rw [resolveField, resolveField]
  change List.foldl _ (evidencedField (input.observedOnly.usableProfile.bind ofProfile) _ _)
    (input.routeOverrides.map (·.observedOnly)) = _
  rw [same, List.foldl_map]
  simp only [overrides]
  rfl

theorem extensionsAreEligible_observedOnly :
    input.observedOnly.withUsableProfile.extensionsAreEligible =
      input.withUsableProfile.extensionsAreEligible := by
  have present : input.observedOnly.usableProfile.isSome = input.usableProfile.isSome := by
    rw [usableProfile_observedOnly, Option.isSome_map]
  have strip : input.observedOnly.withUsableProfile.stripNonstandardChatFields =
      input.withUsableProfile.stripNonstandardChatFields := rfl
  rw [extensionsAreEligible, extensionsAreEligible, strip]
  split
  · rfl
  · rfl
  · exact present

theorem resolveExtensions_observedOnly (preset : Option ResolvedCapabilities) :
    input.observedOnly.withUsableProfile.resolveExtensions preset =
      input.withUsableProfile.resolveExtensions preset := by
  cases preset with
  | some preset => rfl
  | none =>
    have evidence : input.observedOnly.withUsableProfile.extensionEvidence =
        input.withUsableProfile.extensionEvidence := by
      funext extensionId
      refine (input.observedOnly.extensionEvidence_eq extensionId).trans ?_
      rw [extensionOffers_observedOnly]
      exact (input.extensionEvidence_eq extensionId).symm
    have added : input.observedOnly.withUsableProfile.addExtension =
        input.withUsableProfile.addExtension := by
      funext held extension
      rw [addExtension, addExtension, evidence]
      rfl
    rw [resolveExtensions, resolveExtensions, extensionsAreEligible_observedOnly, added]
    rfl

theorem resolve_observedOnly : input.observedOnly.resolve = input.resolve := by
  have values : input.observedOnly.withUsableProfile.resolveValues input.preset =
      input.withUsableProfile.resolveValues input.preset := by
    funext capability
    refine (input.observedOnly.resolveValues_apply capability).trans ?_
    rw [capabilityOffers_observedOnly]
    exact (input.resolveValues_apply capability).symm
  have carrier : input.observedOnly.withUsableProfile.resolveReasoningCarrier input.preset =
      input.withUsableProfile.resolveReasoningCarrier input.preset :=
    input.resolveField_observedOnly _ (fun _ => rfl) (fun _ => rfl)
  have tokenLimit : input.observedOnly.withUsableProfile.resolveTokenLimitField input.preset =
      input.withUsableProfile.resolveTokenLimitField input.preset :=
    input.resolveField_observedOnly _ (fun _ => rfl) (fun _ => rfl)
  have effort : input.observedOnly.withUsableProfile.resolveEffortControl input.preset =
      input.withUsableProfile.resolveEffortControl input.preset := by
    refine input.observedOnly.resolveEffortControl_eq.trans ?_
    rw [effortOffers_observedOnly]
    exact input.resolveEffortControl_eq.symm
  have rules : input.observedOnly.withUsableProfile.resolveCorrectionRules =
      input.withUsableProfile.resolveCorrectionRules := by
    have same : input.observedOnly.usableProfile.map (·.correctionRules) =
        input.usableProfile.map (·.correctionRules) := by
      rw [usableProfile_observedOnly, Option.map_map]
      rfl
    rw [resolveCorrectionRules, resolveCorrectionRules]
    change List.foldl _ ((input.observedOnly.usableProfile.map (·.correctionRules)).getD [])
      (input.routeOverrides.map (·.observedOnly)) = _
    rw [same, List.foldl_map]
    rfl
  have whole : input.observedOnly.withUsableProfile.resolved input.preset =
      input.withUsableProfile.resolved input.preset := by
    rw [resolved, resolved, values, carrier, tokenLimit, effort, rules,
      resolveExtensions_observedOnly]
    have kept : input.observedOnly.withUsableProfile.profile =
        input.withUsableProfile.profile.map (·.observedOnly) := input.usableProfile_observedOnly
    rw [kept]
    cases input.withUsableProfile.profile <;> rfl
  change (do
    validateRequiredCapabilities input.observedOnly.withUsableProfile
      (input.observedOnly.withUsableProfile.resolveValues input.preset)
      (input.observedOnly.withUsableProfile.resolveReasoningCarrier input.preset).1
    return input.observedOnly.withUsableProfile.resolved input.preset) = input.resolve
  rw [values, carrier, whole]
  rfl

theorem validateRequiredCapabilities_eq_ok {values : Capability → ResolvedCapability}
    {carrier : ReasoningCarrier} :
    input.validateRequiredCapabilities values carrier = .ok () ↔
      ∀ capability ∈ input.requiredCapabilities,
        input.provides values carrier capability = true := by
  rw [validateRequiredCapabilities]
  cases found : Capability.all.find? fun capability =>
      capability ∈ input.requiredCapabilities && !input.provides values carrier capability with
  | some capability =>
    have missing := List.find?_some found
    simp only [Bool.and_eq_true, decide_eq_true_eq, Bool.not_eq_true'] at missing
    refine iff_of_false (fun accepted => nomatch accepted) fun provided => ?_
    rw [provided capability missing.1] at missing
    cases missing.2
  | none =>
    refine iff_of_true rfl fun capability member => ?_
    have kept := List.find?_eq_none.1 found capability capability.mem_all
    simpa [member] using kept

theorem resolve_eq_ok {result : ResolvedCapabilities} :
    input.resolve = .ok result ↔
      (∀ capability ∈ input.requiredCapabilities, input.provides
        (input.withUsableProfile.resolveValues input.preset)
        (input.withUsableProfile.resolveReasoningCarrier input.preset).1 capability = true) ∧
      input.withUsableProfile.resolved input.preset = result := by
  rw [resolve, Except.bind_eq_ok]
  constructor
  · rintro ⟨_, accepted, same⟩
    exact ⟨(validateRequiredCapabilities_eq_ok _).1 accepted, Except.ok.inj same⟩
  · rintro ⟨provided, rfl⟩
    exact ⟨(), (validateRequiredCapabilities_eq_ok _).2 provided, rfl⟩

/-- Whatever is accepted respects the order of its evidence exactly when a preset stands alone. -/
theorem respectsPrecedence_iff {result : ResolvedCapabilities}
    (accepted : input.resolve = .ok result) :
    input.RespectsPrecedence result ↔ input.presetStandsAlone = true := by
  obtain ⟨provided, rfl⟩ := input.resolve_eq_ok.1 accepted
  have extensions : (input.withUsableProfile.resolved input.preset).requestExtensions =
        (input.withUsableProfile.resolveExtensions input.preset).1 ∧
      (input.withUsableProfile.resolved input.preset).fieldSources.find? "request_extensions" =
        some (input.withUsableProfile.resolveExtensions input.preset).2 :=
    ⟨rfl, OrderedMap.find?_put_self _ _ _⟩
  constructor
  · intro respects
    cases found : input.preset with
    | none => rw [presetStandsAlone, found]; rfl
    | some preset =>
      refine (input.resolveExtensions_of_some found).1 ?_
      obtain ⟨listed, label⟩ := respects.requestExtensions
      rw [extensions.1, found] at listed
      rw [extensions.2, found] at label
      exact Prod.ext listed (Option.some.inj label)
  · intro standsAlone
    have alone : input.preset = none ∨ input.usableProfile = none := by
      rw [presetStandsAlone, Bool.or_eq_true, Bool.and_eq_true] at standsAlone
      exact standsAlone.imp Option.isNone_iff_eq_none.1 fun both =>
        Option.isNone_iff_eq_none.1 both.1
    have tokenLimit : input.withUsableProfile.resolveTokenLimitField input.preset =
        input.tokenLimitOffers.chosen := input.resolveField_eq _ _ _ _ alone
    have carrier : input.withUsableProfile.resolveReasoningCarrier input.preset =
        input.reasoningCarrierOffers.chosen := input.resolveField_eq _ _ _ _ alone
    have requestExtensions : input.withUsableProfile.resolveExtensions input.preset =
        input.requestExtensionOffers.chosen := by
      cases found : input.preset with
      | none => exact input.resolveExtensions_of_none found
      | some preset => exact (input.resolveExtensions_of_some found).2 standsAlone
    exact {
      capabilities := input.resolveValues_apply
      tokenLimit := by
        rw [← tokenLimit]
        exact ⟨rfl, by simp [resolved, OrderedMap.find?_put]⟩
      reasoningCarrier := by
        rw [← carrier]
        exact ⟨rfl, by simp [resolved, OrderedMap.find?_put]⟩
      effortControl := by
        rw [← input.resolveEffortControl_eq]
        exact ⟨rfl, by simp [resolved, OrderedMap.find?_put]⟩
      requestExtensions := by
        rw [← requestExtensions]
        exact extensions
      unaffected := input.resolve_observedOnly.trans accepted
      required := by
        intro capability member
        have provides := provided capability member
        rw [ResolutionInput.provides, Bool.and_eq_true, Bool.or_eq_true,
          decide_eq_true_eq] at provides
        refine ⟨provides.1, fun reasoning => provides.2.resolve_left ?_⟩
        rw [reasoning]
        exact Bool.false_ne_true }

end ResolutionInput

def probedRoute : RouteIdentity where
  upstreamId := "upstream"
  keyFingerprint := "key"
  exposedModelSlug := "model"
  runtimeModelSlug := "model"
  protocol := .chatCompletions

def presetBesideProfile : ResolutionInput where
  route := probedRoute
  profile := some { key := .fromRoute probedRoute, state := .verified }
  dialectPreset := some "openai"

theorem respectsPrecedence_of_unprobed_route :
    ({ presetBesideProfile with profile := none } : ResolutionInput).RespectsPrecedence
      (({ presetBesideProfile with profile := none } : ResolutionInput).withUsableProfile.resolved
        (compileDialectPreset "openai")) :=
  (ResolutionInput.respectsPrecedence_iff { presetBesideProfile with profile := none }
    ((ResolutionInput.resolve_eq_ok _).2 ⟨by decide, rfl⟩)).2 (by decide +kernel)

/-- The preset names a token limit field that the profile of the route leaves open. -/
theorem preset_fills_in_for_profile :
    ¬ ∀ (input : ResolutionInput) (result : ResolvedCapabilities),
      input.resolve = .ok result → input.RespectsPrecedence result := by
  intro respects
  have accepted : presetBesideProfile.resolve = .ok
      (presetBesideProfile.withUsableProfile.resolved presetBesideProfile.preset) :=
    (ResolutionInput.resolve_eq_ok _).2 ⟨by decide, rfl⟩
  have field := (respects _ _ accepted).tokenLimit.1
  have differs : (presetBesideProfile.withUsableProfile.resolved
      presetBesideProfile.preset).tokenLimitField ≠
        presetBesideProfile.tokenLimitOffers.chosen.1 := by
    decide +kernel
  exact differs field

end ChatGateway
