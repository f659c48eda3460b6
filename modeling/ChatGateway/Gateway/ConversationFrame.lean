import ChatGateway.Capabilities.Acceptance
import ChatGateway.Capabilities.Precedence
import ChatGateway.Gateway.ChatCompat

set_option autoImplicit false

/-!
# What a configuration may rewrite

A configuration reaches a request through the sampling fields it omits, the control field and the
values of an effort, and the patches of extensions. Only the patches are checked against the
protected paths.
-/

namespace ChatGateway

def protectedFields : List String :=
  ["model", "messages", "input", "tools", "stream", "headers", "url", "image_url", "source", "data"]

example : protectedRequestPaths = protectedFields.map ("/" ++ ·) := by decide

def tokenLimitFields : List String := ["max_tokens", "max_completion_tokens", "max_output_tokens"]

namespace JsonFields

variable {object : JsonFields} {name : String}

theorem field_removeAll (object : JsonFields) (keys : List String) (name : String) :
    Json.field (removeAll object keys) name = if name ∈ keys then none else Json.field object name := by
  induction keys generalizing object with
  | nil => rfl
  | cons key rest ih =>
    rw [removeAll, List.foldl_cons, ← removeAll, ih, Json.field_removeField]
    by_cases later : name ∈ rest
    · rw [if_pos later, if_pos (List.mem_cons_of_mem _ later)]
    · by_cases here : key = name
      · subst here
        rw [if_neg later, if_pos rfl, if_pos List.mem_cons_self]
      · have missing : name ∉ key :: rest := by
          rw [List.mem_cons, not_or]
          exact ⟨Ne.symm here, later⟩
        rw [if_neg later, if_neg here, if_neg missing]

theorem field_omit (object : JsonFields) (omitted : Finset String) (name : String) :
    Json.field (object.filter fun field => field.1 ∉ omitted) name =
      if name ∈ omitted then none else Json.field object name := by
  induction object with
  | nil => simp
  | cons field rest ih =>
    obtain ⟨key, value⟩ := field
    by_cases here : key ∈ omitted
    · rw [List.filter_cons_of_neg (by simpa using here), ih, Json.field_cons]
      by_cases same : key = name
      · subst same
        rw [if_pos here, if_pos here]
      · rw [if_neg same]
    · rw [List.filter_cons_of_pos (by simpa using here), Json.field_cons, Json.field_cons, ih]
      by_cases same : key = name
      · subst same
        rw [if_pos rfl, if_pos rfl, if_neg here]
      · rw [if_neg same, if_neg same]

def optionalFields : List String :=
  ["stream_options", "service_tier", "safety_identifier", "prompt_cache_key",
    "prompt_cache_retention", "client_metadata", "store", "verbosity", "metadata", "user", "text",
    "parallel_tool_calls"]

theorem field_omitUnsupported (resolved : ResolvedCapabilities) (needed : name ∉ optionalFields) :
    Json.field (object.omitUnsupported resolved) name =
      if name ∈ resolved.omitSamplingFields then none else Json.field object name := by
  have metered : Json.field
      (if (resolved.values .usageStream).state = .rejected then
        Json.removeField (object.filter fun field => field.1 ∉ resolved.omitSamplingFields)
          "stream_options"
      else object.filter fun field => field.1 ∉ resolved.omitSamplingFields) name =
      if name ∈ resolved.omitSamplingFields then none else Json.field object name := by
    split
    · have other : "stream_options" ≠ name := by
        rintro rfl
        exact needed List.mem_cons_self
      rw [Json.field_removeField, if_neg other, field_omit]
    · exact field_omit _ _ _
  unfold omitUnsupported
  dsimp only
  split
  · have kept := fun listed => needed (List.mem_cons_of_mem "stream_options" listed)
    rw [field_removeAll, if_neg kept, metered]
  · exact metered

theorem field_takeFirst {keys : List String} (other : name ∉ keys) :
    Json.field (object.takeFirst keys).2 name = Json.field object name := by
  induction keys with
  | nil => rfl
  | cons key rest ih =>
    rw [List.mem_cons, not_or] at other
    unfold takeFirst
    split
    · rw [Json.field_removeField, if_neg (Ne.symm other.1)]
    · exact ih other.2

theorem tokenLimitKey_mem {field : TokenLimitField} {key : String}
    (named : tokenLimitKey field = some key) : key ∈ tokenLimitFields := by
  cases field <;> cases named <;> decide

theorem field_renameTokenLimit (field : TokenLimitField) (other : name ∉ tokenLimitFields) :
    Json.field (object.renameTokenLimit field) name = Json.field object name := by
  have taken : Json.field (object.takeFirst
      ["max_output_tokens", "max_completion_tokens", "max_tokens"]).2 name =
      Json.field object name := by
    refine field_takeFirst fun listed => other ?_
    simp only [tokenLimitFields, List.mem_cons, List.not_mem_nil, or_false] at listed ⊢
    tauto
  unfold renameTokenLimit
  split
  next => rfl
  next key named =>
    have different : key ≠ name := fun equal => other (equal ▸ tokenLimitKey_mem named)
    split
    next value rest found =>
      rw [found] at taken
      rw [Json.field_setField, if_neg different, taken]
    next rest found =>
      rw [found] at taken
      exact taken

theorem field_controlReasoning {controlField : Option String} (effortMap : OrderedMap String Json)
    (requestedEffort : Option String) (native : name ≠ "reasoning_effort")
    (other : controlField ≠ some name) :
    Json.field (object.controlReasoning controlField effortMap requestedEffort) name =
      Json.field object name := by
  have removed : Json.field (Json.removeField object "reasoning_effort") name =
      Json.field object name := by
    rw [Json.field_removeField, if_neg native.symm]
  unfold controlReasoning
  dsimp only
  cases controlField with
  | some controlled =>
    have different : controlled ≠ name := fun equal => other (congrArg some equal)
    dsimp only
    split
    next => rw [Json.field_setField, if_neg different, removed]
    next => exact removed
  | none =>
    split
    next contrary => cases contrary
    next => rw [Json.field_setField, if_neg native.symm, removed]
    next => exact removed

theorem field_mergeOptionalObject {patch : JsonFields} (other : name ∉ patch.map (·.1)) :
    Json.field (object.mergeOptionalObject patch) name = Json.field object name := by
  induction patch generalizing object with
  | nil =>
    unfold mergeOptionalObject
    rfl
  | cons field rest ih =>
    obtain ⟨key, value⟩ := field
    rw [List.map_cons, List.mem_cons, not_or] at other
    unfold mergeOptionalObject
    rw [ih other.2, Json.field_setField, if_neg (Ne.symm other.1)]

theorem field_applyExtensions {extensions : List ResolvedRequestExtension}
    (other : ∀ extension ∈ extensions, ∀ patch, extension.requestPatch.asObject = some patch →
      name ∉ patch.map (·.1)) :
    Json.field (object.applyExtensions extensions) name = Json.field object name := by
  induction extensions generalizing object with
  | nil => rfl
  | cons extension rest ih =>
    rw [applyExtensions, List.foldl_cons, ← applyExtensions,
      ih fun later member => other later (List.mem_cons_of_mem _ member)]
    split
    · next patch found =>
      exact field_mergeOptionalObject (other extension List.mem_cons_self patch found)
    · rfl

def Thins (before after : JsonFields) : Prop :=
  ∀ key ∈ tokenLimitFields, Json.field after key = none ∨ Json.field after key = Json.field before key

theorem thins_of_same {before after : JsonFields}
    (same : ∀ key ∈ tokenLimitFields, Json.field after key = Json.field before key) :
    Thins before after :=
  fun key listed => Or.inr (same key listed)

structure OneLimit (client object : JsonFields) : Prop where
  single : ∀ key ∈ tokenLimitFields, ∀ other ∈ tokenLimitFields,
    (Json.field object key).isSome → (Json.field object other).isSome → key = other
  sent : ∀ key ∈ tokenLimitFields, ∀ value, Json.field object key = some value →
    ∃ sent ∈ tokenLimitFields, Json.field client sent = some value

theorem OneLimit.thin {client before after : JsonFields} (one : OneLimit client before)
    (thins : Thins before after) : OneLimit client after where
  single key listed other otherListed present otherPresent := by
    rcases thins key listed with gone | same
    · rw [gone] at present
      cases present
    · rcases thins other otherListed with gone | otherSame
      · rw [gone] at otherPresent
        cases otherPresent
      · rw [same] at present
        rw [otherSame] at otherPresent
        exact one.single key listed other otherListed present otherPresent
  sent key listed value found := by
    rcases thins key listed with gone | same
    · rw [gone] at found
      cases found
    · exact one.sent key listed value (same ▸ found)

theorem OneLimit.set {client object : JsonFields} {key : String} {value : Json}
    (absent : ∀ other ∈ tokenLimitFields, Json.field object other = none)
    (sent : ∃ sent ∈ tokenLimitFields, Json.field client sent = some value) :
    OneLimit client (Json.setField object key value) where
  single first listed second secondListed present secondPresent := by
    rw [Json.field_setField, absent first listed] at present
    rw [Json.field_setField, absent second secondListed] at secondPresent
    by_cases here : key = first
    · by_cases there : key = second
      · exact here.symm.trans there
      · simp [there] at secondPresent
    · simp [here] at present
  sent other listed held found := by
    rw [Json.field_setField, absent other listed] at found
    by_cases here : key = other
    · rw [if_pos here] at found
      cases found
      exact sent
    · simp [here] at found

theorem unifyTokenLimit_one (client object : JsonFields)
    (same : ∀ key ∈ tokenLimitFields, Json.field object key = Json.field client key) :
    OneLimit client object.unifyTokenLimit := by
  have output : ∀ key, Json.field (Json.removeField object "max_output_tokens") key =
      if "max_output_tokens" = key then none else Json.field object key :=
    fun key => Json.field_removeField _ _ _
  -- what is left of a single key is the client's value of it
  have alone : ∀ (left : JsonFields) (only : String), only ∈ tokenLimitFields →
      (∀ key ∈ tokenLimitFields, key ≠ only → Json.field left key = none) →
      Json.field left only = Json.field object only → OneLimit client left := by
    intro left only listed others kept
    refine ⟨fun key keyListed other otherListed present otherPresent => ?_,
      fun key keyListed value found => ?_⟩
    · by_cases first : key = only
      · by_cases second : other = only
        · exact first.trans second.symm
        · simp [others other otherListed second] at otherPresent
      · simp [others key keyListed first] at present
    · by_cases first : key = only
      · subst first
        exact ⟨key, listed, by rw [← same key listed, ← kept, found]⟩
      · simp [others key keyListed first] at found
  unfold unifyTokenLimit
  dsimp only
  split
  next completion =>
    refine alone _ "max_completion_tokens" (by decide) ?_ ?_
    · intro key listed different
      simp only [tokenLimitFields, List.mem_cons, List.not_mem_nil, or_false] at listed
      rcases listed with rfl | rfl | rfl <;> simp_all [Json.field_removeField]
    · simp [Json.field_removeField]
  next withoutCompletion =>
    have noCompletion : Json.field object "max_completion_tokens" = none := by
      simpa [output] using withoutCompletion
    split
    next chat =>
      refine alone _ "max_tokens" (by decide) ?_ ?_
      · intro key listed different
        simp only [tokenLimitFields, List.mem_cons, List.not_mem_nil, or_false] at listed
        rcases listed with rfl | rfl | rfl <;> simp_all [Json.field_removeField]
      · simp [Json.field_removeField]
    next withoutChat =>
      have noChat : Json.field object "max_tokens" = none := by
        simpa [output] using withoutChat
      have absent : ∀ key ∈ tokenLimitFields,
          Json.field (Json.removeField object "max_output_tokens") key = none := by
        intro key listed
        simp only [tokenLimitFields, List.mem_cons, List.not_mem_nil, or_false] at listed
        rcases listed with rfl | rfl | rfl <;> simp [output, noCompletion, noChat]
      split
      next limit found =>
        refine .set absent ⟨"max_output_tokens", by decide, ?_⟩
        rw [← same _ (by decide), found]
      next =>
        refine ⟨fun key listed other _ present => ?_, fun key listed value found => ?_⟩
        · simp [absent key listed] at present
        · simp [absent key listed] at found

theorem takeFirst_spec {object : JsonFields} {keys : List String} :
    (∃ key ∈ keys, ∃ value, Json.field object key = some value ∧
      object.takeFirst keys = (some value, Json.removeField object key)) ∨
    ((∀ key ∈ keys, Json.field object key = none) ∧ object.takeFirst keys = (none, object)) := by
  induction keys with
  | nil => exact Or.inr ⟨by simp, rfl⟩
  | cons key rest ih =>
    unfold takeFirst
    cases found : Json.field object key with
    | some value => exact Or.inl ⟨key, List.mem_cons_self, value, found, rfl⟩
    | none =>
      rcases ih with ⟨later, listed, value, present, taken⟩ | ⟨absent, taken⟩
      · exact Or.inl ⟨later, List.mem_cons_of_mem _ listed, value, present, taken⟩
      · refine Or.inr ⟨?_, taken⟩
        rw [List.forall_mem_cons]
        exact ⟨found, absent⟩

theorem renameTokenLimit_one {client object : JsonFields} (one : OneLimit client object)
    (field : TokenLimitField) : OneLimit client (object.renameTokenLimit field) := by
  unfold renameTokenLimit
  split
  next => exact one
  next key named =>
    rcases @takeFirst_spec object ["max_output_tokens", "max_completion_tokens", "max_tokens"] with
      ⟨held, listed, value, present, taken⟩ | ⟨absent, taken⟩
    · rw [taken]
      have heldListed : held ∈ tokenLimitFields := by
        simp only [tokenLimitFields, List.mem_cons, List.not_mem_nil, or_false] at listed ⊢
        tauto
      refine .set (fun other otherListed => ?_) (one.sent held heldListed value present)
      rw [Json.field_removeField]
      by_cases here : held = other
      · rw [if_pos here]
      · rw [if_neg here]
        by_contra there
        have both := one.single held heldListed other otherListed (by rw [present]; rfl)
          (Option.isSome_iff_ne_none.mpr there)
        exact here both
    · rw [taken]
      exact one

theorem field_stripNonstandard {object : JsonFields} {name : String} (needed : name ∉ optionalFields) :
    Json.field object.stripNonstandard name = Json.field object name := by
  have options : "stream_options" ≠ name := by
    rintro rfl
    exact needed (by decide)
  have removed : Json.field (object.removeAll ["metadata", "user", "parallel_tool_calls"]) name =
      Json.field object name := by
    rw [field_removeAll, if_neg]
    intro listed
    refine needed ?_
    simp only [optionalFields, List.mem_cons, List.not_mem_nil, or_false] at listed ⊢
    tauto
  unfold stripNonstandard
  dsimp only
  split
  next => rw [Json.field_setField, if_neg options, removed]
  next => rw [Json.field_removeField, if_neg options, removed]

theorem field_sanitizeReasoningEffort {object : JsonFields} {name : String}
    (native : name ≠ "reasoning_effort") :
    Json.field object.sanitizeReasoningEffort name = Json.field object name := by
  unfold sanitizeReasoningEffort
  split
  next => rfl
  next =>
    split
    next => rw [Json.field_removeField, if_neg native.symm]
    next =>
      split
      next => rw [Json.field_setField, if_neg native.symm]
      next => rfl

theorem normalizeForUpstream_one (client : JsonFields) (strip : Bool) :
    OneLimit client (client.normalizeForUpstream strip) := by
  unfold normalizeForUpstream
  refine unifyTokenLimit_one _ _ fun key listed => ?_
  have needed : key ∉ optionalFields := by
    intro optional
    revert key
    decide
  have native : key ≠ "reasoning_effort" := by
    rintro rfl
    revert listed
    decide
  have removed : Json.field (client.removeAll
      ["service_tier", "safety_identifier", "prompt_cache_key", "prompt_cache_retention",
        "client_metadata", "store", "verbosity", "text"]) key = Json.field client key := by
    rw [field_removeAll, if_neg]
    intro named
    refine needed ?_
    simp only [optionalFields, List.mem_cons, List.not_mem_nil, or_false] at named ⊢
    tauto
  rw [field_sanitizeReasoningEffort native]
  split
  next => rw [field_stripNonstandard needed, removed]
  next => exact removed

end JsonFields

section Configured

variable {libraries : PolicyLibraries} {configuration : CapabilityConfiguration}
  {compiled : CompiledCapabilityConfiguration} {route : RouteIdentity}
  {requested : RequestedFeatures} {profile : Option UpstreamDialectProfile}
  {strip : NonstandardFieldPolicy} {resolved : ResolvedCapabilities}

/-- The control field of the last override that names one, or else the first one of the profile
that takes an effort of the policies. -/
def CompiledCapabilityConfiguration.controlFieldFor (configuration : CompiledCapabilityConfiguration)
    (route : RouteIdentity) (profile : Option UpstreamDialectProfile) : Option String :=
  (lastSome (·.reasoningControlField) (configuration.routeOverridesFor route)).or
    ((profile.filter fun profile => profile.key = .fromRoute route).bind fun profile =>
      (ResolutionInput.profileEffort (configuration.semanticFor route) profile).bind (·.1))

theorem mem_omitSamplingFields_foldl {policies : List CapabilityPolicy} {semantic : SemanticPolicy}
    {name : String} :
    name ∈ (policies.foldl (fun semantic policy => semantic.overlay policy.semantic)
        semantic).omitSamplingFields ↔
      name ∈ semantic.omitSamplingFields ∨
        ∃ policy ∈ policies, name ∈ policy.semantic.omitSamplingFields := by
  induction policies generalizing semantic with
  | nil => simp
  | cons policy rest ih =>
    rw [List.foldl_cons, ih, List.exists_mem_cons_iff, SemanticPolicy.overlay, Finset.mem_union,
      or_assoc]

theorem mem_omitSamplingFields {name : String} :
    name ∈ (compiled.semanticFor route).omitSamplingFields ↔
      ∃ policy ∈ compiled.matchingPolicies route, name ∈ policy.semantic.omitSamplingFields := by
  rw [CompiledCapabilityConfiguration.semanticFor, mem_omitSamplingFields_foldl]
  have fresh : name ∉ ({} : SemanticPolicy).omitSamplingFields := Finset.notMem_empty name
  exact or_iff_right fresh

theorem Validated.patch_unprotected (validated : Validated libraries configuration)
    {case : DeclarativeProbeCase} (member : case ∈ configuration.extensionProbes)
    {patch : JsonFields} (isPatch : case.requestPatch.asObject = some patch) {name : String}
    (guarded : name ∈ protectedFields) : name ∉ patch.map (·.1) := by
  intro named
  obtain ⟨⟨key, value⟩, listed, rfl⟩ := List.mem_map.mp named
  have checked := validated.patch member
  cases shape : case.requestPatch <;> rw [shape] at isPatch checked <;> cases isPatch
  rw [validateRequestPatch] at checked
  have free := unprotected_of_validatePatchFields checked listed
  have blocked : ∀ name ∈ protectedFields,
      isProtectedRequestPath ("" ++ "/" ++ escapeJsonPointerSegment name) = true := by
    decide +kernel
  rw [blocked key guarded] at free
  cases free

theorem requestExtension_of_case {input : ResolutionInput} (without : input.preset = none)
    (accepted : input.resolve = .ok resolved) {extension : ResolvedRequestExtension}
    (member : extension ∈ resolved.requestExtensions) :
    ∃ case ∈ input.policyExtensions, case.requestPatch = extension.requestPatch := by
  obtain ⟨-, rfl⟩ := input.resolve_eq_ok.mp accepted
  have isChosen : (input.withUsableProfile.resolved input.preset).requestExtensions =
      input.requestExtensionOffers.chosen.1 := by
    rw [← input.resolveExtensions_of_none without, without]
    rfl
  have noPreset : input.usablePreset = none := by
    rw [ResolutionInput.usablePreset, without]
    exact ite_self _
  have among : extension ∈ input.supportedExtensions := by
    rw [isChosen, ResolutionInput.requestExtensionOffers, Offers.chosen, noPreset] at member
    dsimp only at member
    split at member <;> simp_all
  obtain ⟨case, listed, rfl⟩ := List.mem_map.mp among
  have considered := (List.mem_filter.mp listed).1
  rw [ResolutionInput.consideredExtensions] at considered
  split at considered
  · exact ⟨case, (List.mem_filter.mp considered).1, rfl⟩
  · cases considered

theorem effortControl_eq
    (accepted : (compiled.resolutionInput route requested profile none strip).resolve =
      .ok resolved) :
    (resolved.reasoningControlField, resolved.effortMap) =
      (compiled.resolutionInput route requested profile none strip).effortOffers.chosen.1 := by
  obtain ⟨-, rfl⟩ := (ResolutionInput.resolve_eq_ok _).mp accepted
  rw [← ResolutionInput.resolveEffortControl_eq]
  rfl

theorem controlField_eq
    (accepted : (compiled.resolutionInput route requested profile none strip).resolve =
      .ok resolved) :
    resolved.reasoningControlField = compiled.controlFieldFor route profile := by
  have control := congrArg Prod.fst (effortControl_eq accepted)
  dsimp only at control
  rw [control, CompiledCapabilityConfiguration.controlFieldFor]
  have named : ((compiled.resolutionInput route requested profile none strip).effortOffers.override).map
      (·.1) = (lastSome (·.reasoningControlField) (compiled.routeOverridesFor route)).map some := by
    simp only [ResolutionInput.effortOffers, map_lastSome, Option.map_map]
    rfl
  have noPreset :
      (compiled.resolutionInput route requested profile none strip).effortOffers.preset = none := by
    simp only [ResolutionInput.effortOffers, ResolutionInput.usablePreset]
    split <;> rfl
  cases overridden : lastSome (·.reasoningControlField) (compiled.routeOverridesFor route) with
  | some field =>
    rw [overridden, Option.map_some] at named
    obtain ⟨effort, isLast, isField⟩ := Option.map_eq_some_iff.mp named
    rw [Offers.chosen_eq, isLast]
    exact isField
  | none =>
    rw [overridden, Option.map_none, Option.map_eq_none_iff] at named
    rw [Offers.chosen, named, noPreset, Option.none_or]
    have probed : (compiled.resolutionInput route requested profile none strip).effortOffers.probe =
        (profile.filter fun profile => profile.key = .fromRoute route).bind
          (ResolutionInput.profileEffort (compiled.semanticFor route)) := rfl
    rw [probed]
    cases profile.filter fun profile => profile.key = .fromRoute route with
    | none => rfl
    | some usable =>
      simp only [Option.bind_some]
      cases ResolutionInput.profileEffort (compiled.semanticFor route) usable <;> rfl

theorem exists_effort_of_control (accepted : configuration.compile libraries = .ok compiled)
    (resolves : (compiled.resolutionInput route requested profile none strip).resolve =
      .ok resolved) (named : resolved.reasoningControlField.isSome) :
    ∃ effort value, resolved.effortMap.find? effort = some value := by
  suffices filled : resolved.effortMap.isEmpty = false by
    cases entries : resolved.effortMap.entries with
    | nil => simp [OrderedMap.isEmpty, entries] at filled
    | cons entry rest =>
      refine ⟨entry.1, entry.2, OrderedMap.find?_eq_some.mpr ?_⟩
      rw [entries]
      exact List.mem_cons_self
  have control := effortControl_eq resolves
  cases overridden :
      (compiled.resolutionInput route requested profile none strip).effortOffers.override with
  | some effort =>
    -- an override that names a field has passed its check
    rw [Offers.chosen_eq, overridden] at control
    obtain ⟨routeOverride, member, spoken⟩ := exists_of_lastSome overridden
    obtain ⟨field, isField, rfl⟩ := Option.map_eq_some_iff.mp spoken
    have checked := (validated_of_compile accepted).controlField_iff
      (routeOverridesFor_subset accepted member)
    rw [isField] at checked
    have efforts : resolved.effortMap = routeOverride.effortMap := congrArg Prod.snd control
    rw [efforts]
    simpa using checked
  | none =>
    have noPreset :
        (compiled.resolutionInput route requested profile none strip).effortOffers.preset = none := by
      simp only [ResolutionInput.effortOffers, ResolutionInput.usablePreset]
      split <;> rfl
    rw [Offers.chosen, overridden, noPreset] at control
    cases probed :
        (compiled.resolutionInput route requested profile none strip).effortOffers.probe with
    | none =>
      rw [probed] at control
      have unnamed : resolved.reasoningControlField = none := congrArg Prod.fst control
      rw [unnamed] at named
      cases named
    | some effort =>
      rw [probed] at control
      obtain ⟨usable, -, spoken⟩ := Option.bind_eq_some_iff.mp probed
      obtain ⟨entry, -, kept⟩ := List.exists_of_findSome?_eq_some spoken
      dsimp only at kept
      split at kept
      · cases kept
      next filled =>
        cases kept
        have efforts : resolved.effortMap = _ := congrArg Prod.snd control
        rw [efforts]
        simpa using filled

def KeepsConversation (resolved : ResolvedCapabilities) : Prop :=
  ∀ (body : Json) (requestedEffort : Option String), ∀ name ∈ protectedFields,
    (normalizeChatPayloadForCapabilities body resolved requestedEffort).get name = body.get name

def KeepsTokenLimit (resolved : ResolvedCapabilities) : Prop :=
  ∀ (client : JsonFields) (stripUnknown : Bool) (requestedEffort : Option String),
    ∃ sent : JsonFields,
      normalizeChatPayloadForCapabilities
        (normalizeChatPayloadForUpstreamCompatibility (.object client) stripUnknown)
        { resolved with requestExtensions := [] } requestedEffort = .object sent ∧
      JsonFields.OneLimit client sent

theorem apart_of_guarded {name : String} (guarded : name ∈ protectedFields) :
    name ∉ JsonFields.optionalFields ∧ name ∉ tokenLimitFields ∧ name ≠ "reasoning_effort" := by
  revert name
  decide

open JsonFields in
theorem keepsConversation_of_unnamed
    (patches : ∀ extension ∈ resolved.requestExtensions, ∀ patch,
      extension.requestPatch.asObject = some patch → ∀ name ∈ protectedFields,
        name ∉ patch.map (·.1))
    (kept : ∀ name ∈ protectedFields, name ∉ resolved.omitSamplingFields)
    (control : ∀ field, resolved.reasoningControlField = some field → field ∉ protectedFields) :
    KeepsConversation resolved := by
  intro body requestedEffort name guarded
  cases body with
  | object fields =>
    obtain ⟨needed, noLimit, native⟩ := apart_of_guarded guarded
    have other : resolved.reasoningControlField ≠ some name :=
      fun named => control name named guarded
    simp only [normalizeChatPayloadForCapabilities, normalizeForCapabilities, Json.get_object]
    rw [field_applyExtensions fun extension member patch isPatch =>
        patches extension member patch isPatch name guarded,
      field_controlReasoning _ _ native other, field_renameTokenLimit _ noLimit,
      field_omitUnsupported _ needed, if_neg (kept name guarded)]
  | _ => rfl

theorem JsonFields.field_controlReasoning_self {object : JsonFields} {field effort : String}
    {effortMap : OrderedMap String Json} {value : Json}
    (mapped : effortMap.find? effort = some value) :
    Json.field (object.controlReasoning (some field) effortMap (some effort)) field =
      some value := by
  simp [JsonFields.controlReasoning, JsonFields.mappedEffort, mapped, Json.field_setField]

open JsonFields in
theorem keepsTokenLimit_of_unnamed
    (control : ∀ field, resolved.reasoningControlField = some field → field ∉ tokenLimitFields) :
    KeepsTokenLimit resolved := by
  intro client stripUnknown requestedEffort
  refine ⟨_, rfl, ?_⟩
  let object := client.normalizeForUpstream stripUnknown
  have thinned : Thins object (object.omitUnsupported { resolved with requestExtensions := [] }) := by
    intro key listed
    have needed : key ∉ optionalFields := by
      revert key
      decide
    rw [field_omitUnsupported _ needed]
    split
    · exact Or.inl rfl
    · exact Or.inr rfl
  have renamed := renameTokenLimit_one ((normalizeForUpstream_one client stripUnknown).thin thinned)
    resolved.tokenLimitField
  refine renamed.thin (thins_of_same fun key listed => ?_)
  have native : key ≠ "reasoning_effort" := by
    rintro rfl
    revert listed
    decide
  exact field_controlReasoning _ _ native fun named => control key named listed

theorem JsonFields.field_controlReasoning_idle {object : JsonFields} {name : String}
    (controlField : Option String) (effortMap : OrderedMap String Json)
    (without : Json.field object "reasoning_effort" = none) :
    Json.field (object.controlReasoning controlField effortMap none) name =
      Json.field (Json.removeField object "reasoning_effort") name := by
  unfold JsonFields.controlReasoning
  rw [without]
  cases controlField <;> rfl

theorem omitSamplingFields_eq
    (resolves : (compiled.resolutionInput route requested profile none strip).resolve =
      .ok resolved) :
    resolved.omitSamplingFields = (compiled.semanticFor route).omitSamplingFields := by
  obtain ⟨-, rfl⟩ := (ResolutionInput.resolve_eq_ok _).mp resolves
  cases usable :
      (compiled.resolutionInput route requested profile none strip).withUsableProfile.profile <;>
    simp only [ResolutionInput.resolved, usable] <;> rfl

theorem requestExtensions_unprotected (accepted : configuration.compile libraries = .ok compiled)
    (resolves : (compiled.resolutionInput route requested profile none strip).resolve =
      .ok resolved) :
    ∀ extension ∈ resolved.requestExtensions, ∀ patch,
      extension.requestPatch.asObject = some patch → ∀ name ∈ protectedFields,
        name ∉ patch.map (·.1) := by
  intro extension member patch isPatch name guarded
  obtain ⟨case, listed, same⟩ := requestExtension_of_case rfl resolves member
  obtain ⟨policy, matching, probe⟩ := List.mem_flatMap.mp listed
  have configured : case ∈ configuration.extensionProbes :=
    List.mem_flatMap.mpr ⟨policy, matchingPolicies_subset accepted matching, probe⟩
  exact (validated_of_compile accepted).patch_unprotected configured (same ▸ isPatch) guarded

section Violations

open JsonFields

theorem not_keeps_of_omitted
    (patches : ∀ extension ∈ resolved.requestExtensions, ∀ patch,
      extension.requestPatch.asObject = some patch → ∀ name ∈ protectedFields,
        name ∉ patch.map (·.1))
    {name : String} (guarded : name ∈ protectedFields)
    (omitted : name ∈ resolved.omitSamplingFields) : ¬KeepsConversation resolved := by
  intro keeps
  have kept := keeps (.object [(name, .null)]) none name guarded
  obtain ⟨needed, noLimit, native⟩ := apart_of_guarded guarded
  have noEffort : Json.field (renameTokenLimit
      (omitUnsupported [(name, .null)] resolved) resolved.tokenLimitField) "reasoning_effort" =
      none := by
    rw [field_renameTokenLimit _ (by decide), field_omitUnsupported _ (by decide)]
    simp [native]
  simp only [normalizeChatPayloadForCapabilities, normalizeForCapabilities, Json.get_object]
    at kept
  rw [field_applyExtensions fun extension member patch isPatch =>
      patches extension member patch isPatch name guarded,
    field_controlReasoning_idle _ _ noEffort, Json.field_removeField, if_neg native.symm,
    field_renameTokenLimit _ noLimit, field_omitUnsupported _ needed, if_pos omitted] at kept
  simp at kept

theorem not_keeps_of_controlled
    (patches : ∀ extension ∈ resolved.requestExtensions, ∀ patch,
      extension.requestPatch.asObject = some patch → ∀ name ∈ protectedFields,
        name ∉ patch.map (·.1))
    {field effort : String} {value : Json} (guarded : field ∈ protectedFields)
    (named : resolved.reasoningControlField = some field)
    (mapped : resolved.effortMap.find? effort = some value) : ¬KeepsConversation resolved := by
  intro keeps
  have kept := keeps (.object []) (some effort) field guarded
  simp only [normalizeChatPayloadForCapabilities, normalizeForCapabilities, Json.get_object,
    Json.field_nil, named] at kept
  rw [field_applyExtensions fun extension member patch isPatch =>
      patches extension member patch isPatch field guarded,
    field_controlReasoning_self mapped] at kept
  cases kept

theorem not_keepsTokenLimit_of_controlled {field effort : String} {value : Json}
    (limit : field ∈ tokenLimitFields) (named : resolved.reasoningControlField = some field)
    (mapped : resolved.effortMap.find? effort = some value) : ¬KeepsTokenLimit resolved := by
  intro keeps
  obtain ⟨sent, isSent, one⟩ := keeps [] false (some effort)
  cases isSent
  have written : Json.field (normalizeForCapabilities (normalizeForUpstream [] false)
      { resolved with requestExtensions := [] } (some effort)) field = some value := by
    simp only [normalizeForCapabilities, named]
    exact field_controlReasoning_self mapped
  obtain ⟨_, -, contrary⟩ := one.sent field limit value written
  cases contrary

end Violations

/-- The conversation and the token limit of every request are kept exactly when no policy omits a
protected field and the control field in force is neither protected nor a token limit. -/
theorem conversation_kept_iff (accepted : configuration.compile libraries = .ok compiled)
    (resolves : (compiled.resolutionInput route requested profile none strip).resolve =
      .ok resolved) :
    (KeepsConversation resolved ∧ KeepsTokenLimit resolved) ↔
      (∀ policy ∈ compiled.matchingPolicies route, ∀ name ∈ protectedFields,
        name ∉ policy.semantic.omitSamplingFields) ∧
      ∀ field, compiled.controlFieldFor route profile = some field →
        field ∉ protectedFields ∧ field ∉ tokenLimitFields := by
  have patches := requestExtensions_unprotected accepted resolves
  have omits : ∀ name, name ∈ resolved.omitSamplingFields ↔
      ∃ policy ∈ compiled.matchingPolicies route, name ∈ policy.semantic.omitSamplingFields := by
    intro name
    rw [omitSamplingFields_eq resolves]
    exact mem_omitSamplingFields
  rw [← controlField_eq resolves]
  constructor
  · rintro ⟨conversation, limit⟩
    refine ⟨fun policy matching name guarded omitted => ?_, fun field named => ⟨?_, ?_⟩⟩
    · exact not_keeps_of_omitted patches guarded ((omits name).mpr ⟨policy, matching, omitted⟩)
        conversation
    all_goals
      intro listed
      obtain ⟨effort, value, mapped⟩ :=
        exists_effort_of_control accepted resolves (by rw [named]; rfl)
    · exact not_keeps_of_controlled patches listed named mapped conversation
    · exact not_keepsTokenLimit_of_controlled listed named mapped limit
  · rintro ⟨kept, control⟩
    refine ⟨keepsConversation_of_unnamed patches ?_ fun field named => (control field named).1,
      keepsTokenLimit_of_unnamed fun field named => (control field named).2⟩
    intro name guarded omitted
    obtain ⟨policy, matching, named⟩ := (omits name).mp omitted
    exact kept policy matching name guarded named

end Configured

def controlledBy (field : String) : CapabilityConfiguration where
  routeOverrides := [
    { id := "effort-field"
      reasoningControlField := some field
      effortMap := ({} : OrderedMap String Json).put "high" (.string "high") }]

def controlledCompiled (field : String) : CompiledCapabilityConfiguration where
  source := controlledBy field
  policies := []
  routeOverrides := (controlledBy field).routeOverrides.map fun routeOverride =>
    { source := routeOverride
      selector := { source := {}, runtimeModelGlob := none, specificity := 0 } }
  routeTags := []
  expectations := []

def controlledRoute : RouteIdentity where
  upstreamId := "upstream"
  keyFingerprint := "fp"
  exposedModelSlug := "model"
  runtimeModelSlug := "model"
  protocol := .chatCompletions

def controlledInput (field : String) : ResolutionInput :=
  (controlledCompiled field).resolutionInput controlledRoute {} none none .auto

theorem conversation_kept_iff_thinking :
    KeepsConversation ((controlledInput "thinking").resolved none) ∧
      KeepsTokenLimit ((controlledInput "thinking").resolved none) := by
  have accepted : (controlledBy "thinking").compile plainLibraries =
      .ok (controlledCompiled "thinking") := rfl
  have resolves : (controlledInput "thinking").resolve =
      .ok ((controlledInput "thinking").resolved none) := rfl
  refine (conversation_kept_iff accepted resolves).mpr ⟨?_, ?_⟩
  · intro policy matching
    cases matching
  · intro field named
    cases named
    decide

/-- An effort may be written where the messages were. -/
theorem messages_rewritten_by_effort :
    ∃ compiled resolved,
      (controlledBy "messages").compile plainLibraries = .ok compiled ∧
      (compiled.resolutionInput controlledRoute {} none none .auto).resolve = .ok resolved ∧
      (normalizeChatPayloadForCapabilities (.object [("messages", .array [.string "Hi"])]) resolved
        (some "high")).get "messages" = some (.string "high") := by
  refine ⟨controlledCompiled "messages", (controlledInput "messages").resolved none, rfl, rfl, ?_⟩
  decide +kernel

end ChatGateway
