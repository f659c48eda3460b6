import ChatGateway.Protocol.MergedRegistries
import ChatGateway.Protocol.ResponsesRequest
import ChatGateway.Protocol.ToolRoundTrip

set_option autoImplicit false

/-!
# The Chat fallback of a Responses request

A request with tools is sent to a Chat upstream when no Responses upstream takes it. Hosted tools
are dropped, the others become functions, and the tool choice is kept if it still has something to
choose.
A report for the log says what will be dropped, from a walk of its own.
-/

namespace ChatGateway

def ResolvedCapabilities.supports (resolved : ResolvedCapabilities) (capability : Capability) :
    Bool :=
  (resolved.values capability).state = .supported

def ImageDialect.fromResolved (resolved : ResolvedCapabilities) : ImageDialect where
  httpsUrl := resolved.supports .imageHttps
  dataUrl := resolved.supports .imageDataUrl
  detail := resolved.supports .imageDetail

def ConversionContext.new (resolved : ResolvedCapabilities) (toolRegistry : ToolAdapterRegistry) :
    ConversionContext where
  imageDialect := .fromResolved resolved
  reasoningCarrier := resolved.reasoningCarrier
  toolRegistry

def responsesToolRequiresResponsesUpstream (tool : Json) : Bool :=
  match tool.asObject with
  | none => false
  | some object =>
    if ((Json.field object "function").bind Json.asObject).isSome then false
    else
      match (Json.field object "type").bind Json.asStr with
      | none => false
      | some kind =>
        if kind ∈ ["web_search", "file_search", "computer_use"] then true
        else if kind ∈ ["namespace", "custom", "function"] then false
        else true

def executableToolCount (tools : List Json) : Nat :=
  (tools.filter fun tool => !responsesToolRequiresResponsesUpstream tool).length

def retainTool (executableToolCountAfterDrop : Nat) (done : List Json × List String) (tool : Json) :
    Except ProtocolError (List Json × List String) :=
  if !responsesToolRequiresResponsesUpstream tool then .ok (done.1 ++ [tool], done.2)
  else
    match hostedToolDecision ((tool.str "type").getD "") false false
        executableToolCountAfterDrop with
    | .keep => .ok (done.1 ++ [tool], done.2)
    | .dropOptional downgrade => .ok (done.1, done.2 ++ [downgrade])
    | .reject _ => .error .capabilityUnsupported

def retainTools (tools : List Json) : Except ProtocolError (List Json × List String) :=
  tools.foldlM (retainTool (executableToolCount tools)) ([], [])

section Adaptation

variable (codec : JsonCodec) (sha256 : Sha256)

def buildChatFallbackToolAdaptation (tools : List Json) : Except ProtocolError ToolAdaptation :=
  match retainTools tools with
  | .error error => .error error
  | .ok (retainedTools, downgrades) =>
    match ToolAdapterRegistry.build codec sha256 (.array retainedTools) .functionsOnly with
    | .error error => .error error
    | .ok adaptation =>
      .ok { adaptation with downgrades := adaptation.downgrades ++ downgrades }

-- A function object without a name leaves no name, also where the choice itself has one.
def responsesFunctionToolName (tool : Json) : Option String :=
  match tool.asObject with
  | none => none
  | some object =>
    match (Json.field object "function").bind Json.asObject with
    | some function => (Json.field function "name").bind Json.asStr
    | none =>
      if (Json.field object "type").bind Json.asStr = some "function" then
        (Json.field object "name").bind Json.asStr
      else none

def adaptChatFallbackToolChoice (registry : ToolAdapterRegistry) (toolChoice : Json)
    (hasSupportedTools : Bool) : Option Json :=
  match toolChoice with
  | .string choice =>
    if choice = "none" then some (.string choice)
    else if (choice = "auto" ∨ choice = "required") ∧ hasSupportedTools then some (.string choice)
    else none
  | .object object =>
    if (Json.field object "type").bind Json.asStr ≠ some "function" ∨ !hasSupportedTools then none
    else
      match (responsesFunctionToolName toolChoice).bind registry.identity with
      | none => none
      | some _ => (registry.adaptToolChoice codec toolChoice).toOption
  | _ => none

def setToolChoice (object : List (String × Json)) (adapted : Option Json) : List (String × Json) :=
  match adapted with
  | some adapted => Json.setField object "tool_choice" adapted
  | none => Json.removeField object "tool_choice"

def adaptFallbackTools (object : List (String × Json)) :
    Except ProtocolError (List (String × Json) × ToolAdapterRegistry × List String) :=
  match (Json.field object "tools").bind Json.asArray with
  | some tools =>
    match buildChatFallbackToolAdaptation codec sha256 tools with
    | .error error => .error error
    | .ok adaptation =>
      let object := Json.setField object "tools" (.array adaptation.upstreamTools)
      let adapted := (Json.field object "tool_choice").map fun toolChoice =>
        setToolChoice object (adaptChatFallbackToolChoice codec adaptation.registry toolChoice
          !adaptation.upstreamTools.isEmpty)
      .ok (adapted.getD object, adaptation.registry, adaptation.downgrades)
  | none =>
    let object := Json.removeField object "tools"
    let kept := (Json.field object "tool_choice").all fun toolChoice =>
      (adaptChatFallbackToolChoice codec {} toolChoice false).isSome
    .ok (if kept then object else Json.removeField object "tool_choice", {}, [])

def responsesInputContainsReasoning (body : Json) : Bool :=
  (((body.get "input").bind Json.asArray).getD []).any fun item =>
    item.str "type" = some "reasoning"

def preservesReasoning (resolved : ResolvedCapabilities) : Bool :=
  resolved.reasoningCarrier = .reasoningContent && resolved.supports .reasoningOutput &&
    resolved.supports .reasoningReplay

/-- The Chat request and the downgrade codes, to which those of this request are added also where
the conversion fails. -/
def responsesRequestToChatPayloadWithFallback (body : Json)
    (resolvedCapabilities : Option ResolvedCapabilities)
    (inheritedToolRegistry : Option ToolAdapterRegistry) (toolArgumentsStrict : Bool)
    (downgradeCodes : Finset String) : Except ProtocolError Json × Finset String :=
  let inherited := inheritedToolRegistry.getD {}
  let adapted : Except ProtocolError (Json × ToolAdapterRegistry × List String) :=
    match body.asObject with
    | none => .ok (body, {}, [])
    | some object =>
      (adaptFallbackTools codec sha256
        (Json.removeField (Json.removeField object "logprobs") "top_logprobs")).map
        fun done => (.object done.1, done.2)
  match adapted with
  | .error error => (.error error, downgradeCodes)
  | .ok (sanitized, registry, downgrades) =>
    let toolRegistry := inherited.mergedWith registry
    let preserving := resolvedCapabilities.filter preservesReasoning
    let context : ConversionContext :=
      match preserving with
      | some resolved => .new resolved toolRegistry
      | none => { toolRegistry }
    let codes := downgradeCodes ∪ downgrades.toFinset
    let codes :=
      if preserving.isNone ∧ responsesInputContainsReasoning sanitized then
        insert "reasoning_history_dropped" codes
      else codes
    (responsesRequestToChatPayload codec { context with toolArgumentsStrict } sanitized, codes)

end Adaptation

structure ResponsesChatFallbackReport where
  retainedToolCount : Nat
  strippedToolCount : Nat
  hasToolChoice : Bool
  toolChoiceDropped : Bool
deriving DecidableEq, Repr

def reportedChoiceName (object : List (String × Json)) : Option String :=
  (((Json.field object "function").bind Json.asObject).bind
    fun function => (Json.field function "name").bind Json.asStr).or
    ((Json.field object "name").bind Json.asStr)

def responsesToolChoiceRequiresChatFallback (toolChoice : Json) (hasSupportedTools : Bool) : Bool :=
  match toolChoice with
  | .string choice =>
    if choice = "none" then false
    else if choice = "auto" ∨ choice = "required" then !hasSupportedTools
    else true
  | .object object =>
    if (Json.field object "type").bind Json.asStr ≠ some "function" then true
    else if !hasSupportedTools then true
    else (reportedChoiceName object).isNone
  | _ => true

def bodyTools (body : Json) : List Json :=
  ((body.get "tools").bind Json.asArray).getD []

def responsesRequestChatFallbackReport (body : Json) : ResponsesChatFallbackReport :=
  let tools := bodyTools body
  let retained := executableToolCount tools
  { retainedToolCount := retained
    strippedToolCount := (tools.filter responsesToolRequiresResponsesUpstream).length
    hasToolChoice := (body.get "tool_choice").isSome
    toolChoiceDropped := (body.get "tool_choice").any fun toolChoice =>
      responsesToolChoiceRequiresChatFallback toolChoice (retained > 0) }

def keptTools (tools : List Json) : List Json :=
  match retainTools tools with
  | .ok done => done.1
  | .error _ => []

def keptIdentities (codec : JsonCodec) (body : Json) : List ToolIdentity :=
  declaredTools codec (.array (keptTools (bodyTools body)))

def optionalToolCode (tool : Json) : String :=
  "optional_tool:" ++ (tool.str "type").getD ""

def ChoiceNames (choice : Json) (tool : ToolIdentity) : Prop :=
  choice.str "type" = some (if tool.kind = .custom then "custom" else "function") ∧
    choiceName choice = some tool.name ∧
    (choice.str "namespace" = none ∨ choice.str "namespace" = tool.group)

def ChoiceServed (payload : Json) : Prop :=
  ∀ choice, payload.get "tool_choice" = some choice →
    choice = .string "none" ∨
    ((choice = .string "auto" ∨ choice = .string "required") ∧ bodyTools payload ≠ []) ∨
    ∃ name, functionName choice = some name ∧ some name ∈ (bodyTools payload).map functionName

structure FallbackTruthful (codec : JsonCodec) (sha256 : Sha256) (body payload : Json)
    (downgradeCodes : Finset String) : Prop where
  drops : ∀ tool ∈ bodyTools body, tool ∉ keptTools (bodyTools body) →
    optionalToolCode tool ∈ downgradeCodes
  keeps : ∀ adaptation,
    buildChatFallbackToolAdaptation codec sha256 (bodyTools body) = .ok adaptation →
    ∀ tool ∈ keptIdentities codec body, ∃ name, adaptation.registry.upstreamName tool = some name ∧
      ((bodyTools payload).map functionName).count (some name) = 1
  served : ChoiceServed payload
  chosen : ∀ choice, body.get "tool_choice" = some choice → ∀ tool ∈ keptIdentities codec body,
    ChoiceNames choice tool → (payload.get "tool_choice").isSome
  report : responsesRequestChatFallbackReport body =
    { retainedToolCount := (keptTools (bodyTools body)).length
      strippedToolCount := (bodyTools body).length - (keptTools (bodyTools body)).length
      hasToolChoice := (body.get "tool_choice").isSome
      toolChoiceDropped := (body.get "tool_choice").isSome && (payload.get "tool_choice").isNone }

def offeredNames (sha256 : Sha256) (declared : List ToolIdentity) : List String :=
  match ToolAdapterRegistry.fromIdentities sha256 declared with
  | .ok registry => registry.mappings.map (·.upstreamName)
  | .error _ => []

/-- No tool is declared twice, and the choice is one that the report and the adapter read alike: not
a custom tool, and a function by its upstream name. -/
structure FallbackConsistent (codec : JsonCodec) (sha256 : Sha256) (body : Json) : Prop where
  distinct : (keptIdentities codec body).Nodup
  modes : ∀ choice, body.get "tool_choice" = some (.string choice) →
    choice = "auto" ∨ choice = "required" → keptTools (bodyTools body) ≠ [] →
    keptIdentities codec body ≠ []
  functions : ∀ object, body.get "tool_choice" = some (.object object) →
    (Json.field object "type").bind Json.asStr = some "function" →
    (reportedChoiceName object).isSome → keptTools (bodyTools body) ≠ [] →
    ∃ name ∈ offeredNames sha256 (keptIdentities codec body),
      responsesFunctionToolName (.object object) = some name
  customs : ∀ choice, body.get "tool_choice" = some choice → ∀ tool ∈ keptIdentities codec body,
    tool.kind = .custom → ¬ ChoiceNames choice tool

theorem hostedToolDecision_unsupported (kind : String) (count : Nat) :
    hostedToolDecision kind false false count = .dropOptional ("optional_tool:" ++ kind) ∨
      ∃ category, hostedToolDecision kind false false count = .reject category := by
  unfold hostedToolDecision
  split
  · exact .inr ⟨_, rfl⟩
  · split
    · cases ‹false = true›
    · split
      · exact .inr ⟨_, rfl⟩
      · exact .inl rfl

theorem foldlM_retainTool {count : Nat} {tools : List Json} {done result : List Json × List String}
    (retained : tools.foldlM (retainTool count) done = .ok result) :
    result.1 = done.1 ++ tools.filter (fun tool => !responsesToolRequiresResponsesUpstream tool) ∧
      result.2 = done.2 ++
        (tools.filter responsesToolRequiresResponsesUpstream).map optionalToolCode := by
  induction tools generalizing done with
  | nil =>
    cases retained
    simp
  | cons tool rest ih =>
    rw [List.foldlM_cons, Except.bind_eq_ok] at retained
    obtain ⟨next, step, later⟩ := retained
    obtain ⟨tools, codes⟩ := ih later
    rw [tools, codes]
    unfold retainTool at step
    cases requires : responsesToolRequiresResponsesUpstream tool with
    | false =>
      simp only [requires, Bool.not_false, if_true] at step
      cases step
      simp [requires]
    | true =>
      simp only [requires, Bool.not_true, Bool.false_eq_true, if_false] at step
      rcases hostedToolDecision_unsupported ((tool.str "type").getD "") count with
        drops | ⟨category, rejects⟩
      · rw [drops] at step
        cases step
        simp [requires, optionalToolCode]
      · rw [rejects] at step
        cases step

theorem retainTools_eq {tools : List Json} {done : List Json × List String}
    (retained : retainTools tools = .ok done) :
    keptTools tools = tools.filter (fun tool => !responsesToolRequiresResponsesUpstream tool) ∧
      done.1 = keptTools tools ∧
      done.2 = (tools.filter responsesToolRequiresResponsesUpstream).map optionalToolCode := by
  obtain ⟨kept, codes⟩ := foldlM_retainTool retained
  have same : keptTools tools = done.1 := by rw [keptTools, retained]
  rw [List.nil_append] at kept codes
  exact ⟨same.trans kept, same.symm, codes⟩

def OffersTool (registry : ToolAdapterRegistry) (tool : ToolIdentity) (declaration : Json) : Prop :=
  ∃ fields name,
    declaration = .object [("type", .string "function"), ("function", .object fields)] ∧
    functionName declaration = some name ∧ registry.upstreamName tool = some name

theorem offers_nameTools {registry : ToolAdapterRegistry} {identities : List ToolIdentity}
    {tools : List Json}
    (named : ∀ tool ∈ identities, ∃ name, registry.upstreamName tool = some name)
    (aligned : List.Forall₂ (fun (_ : ToolIdentity) tool => ∃ name description parameters,
      tool = chatFunctionTool name description parameters) identities tools) :
    List.Forall₂ (OffersTool registry) identities (registry.nameTools identities tools) := by
  induction aligned with
  | nil => exact .nil
  | @cons identity declaration identities tools shape rest ih =>
    obtain ⟨⟨upstream, here⟩, later⟩ := List.forall_mem_cons.1 named
    obtain ⟨name, description, parameters, rfl⟩ := shape
    refine .cons ⟨Json.setField ([("name", .string name)] ++
      optionalField "description" (description.map Json.string) ++
      optionalField "parameters" parameters) "name" (.string upstream), upstream, ?_,
      ToolAdapterRegistry.functionName_nameTool here _ _ _, here⟩ (ih later)
    simp [ToolAdapterRegistry.nameTool, chatFunctionTool, Json.asObject, here, Json.setField]

theorem build_offers {codec : JsonCodec} {sha256 : Sha256} {tools : Json}
    {adaptation : ToolAdaptation}
    (built : ToolAdapterRegistry.build codec sha256 tools .functionsOnly = .ok adaptation) :
    List.Forall₂ (OffersTool adaptation.registry) (declaredTools codec tools)
      adaptation.upstreamTools := by
  obtain ⟨registered, -, -⟩ := ToolAdapterRegistry.build_registry built
  have named (tool : ToolIdentity) (member : tool ∈ declaredTools codec tools) :=
    (ToolAdapterRegistry.declared_iff_named registered).1 member
  unfold ToolAdapterRegistry.build at built
  split at built
  · cases built
  · next array listed =>
    split at built
    · cases built
    · next declarations parsed =>
      have aligned := parseTools_aligned parsed
      have declared : declaredTools codec tools = declarations.identities := by
        rw [declaredTools, listed, Option.getD_some, parsed]
      rw [declared] at named ⊢
      split at built
      · cases built
      · cases built
        simp only [reduceCtorEq, if_false, aligned.flattened]
        exact offers_nameTools named aligned.tools

structure AdaptedTools (codec : JsonCodec) (sha256 : Sha256) (tools : List Json)
    (adaptation : ToolAdaptation) : Prop where
  kept : keptTools tools =
    tools.filter fun tool => !responsesToolRequiresResponsesUpstream tool
  named : ToolAdapterRegistry.fromIdentities sha256
    (declaredTools codec (.array (keptTools tools))) = .ok adaptation.registry
  offers : List.Forall₂ (OffersTool adaptation.registry)
    (declaredTools codec (.array (keptTools tools))) adaptation.upstreamTools
  codes : ∀ tool ∈ tools, tool ∉ keptTools tools → optionalToolCode tool ∈ adaptation.downgrades

theorem adaptedTools_of_built {codec : JsonCodec} {sha256 : Sha256} {tools : List Json}
    {adaptation : ToolAdaptation}
    (built : buildChatFallbackToolAdaptation codec sha256 tools = .ok adaptation) :
    AdaptedTools codec sha256 tools adaptation := by
  unfold buildChatFallbackToolAdaptation at built
  split at built
  · cases built
  · next retained downgrades known =>
    obtain ⟨kept, same, codes⟩ := retainTools_eq known
    obtain rfl : retained = keptTools tools := same
    split at built
    · cases built
    · next inner builtInner =>
      obtain rfl := Except.ok.inj built
      have offers := build_offers builtInner
      refine ⟨kept, (ToolAdapterRegistry.build_registry builtInner).1, offers, ?_⟩
      intro tool member dropped
      refine List.mem_append_right _ ?_
      rw [show downgrades = _ from codes]
      refine List.mem_map_of_mem (List.mem_filter.2 ⟨member, ?_⟩)
      rw [kept, List.mem_filter] at dropped
      simpa [member] using dropped

section Offers

variable {codec : JsonCodec} {sha256 : Sha256} {tools : List Json} {adaptation : ToolAdaptation}
  (adapted : AdaptedTools codec sha256 tools adaptation)
include adapted

theorem AdaptedTools.names : adaptation.upstreamTools.map functionName =
    (declaredTools codec (.array (keptTools tools))).map adaptation.registry.upstreamName := by
  have offers := adapted.offers
  generalize declaredTools codec (.array (keptTools tools)) = declared at offers ⊢
  generalize adaptation.upstreamTools = offered at offers ⊢
  induction offers with
  | nil => rfl
  | cons offered _ ih =>
    obtain ⟨fields, name, -, functionName, upstreamName⟩ := offered
    rw [List.map_cons, List.map_cons, functionName, upstreamName, ih]

theorem AdaptedTools.converts :
    adaptation.upstreamTools.mapM (responsesToolDefinitionToChatTool codec) =
      .ok adaptation.upstreamTools := by
  have offers := adapted.offers
  generalize declaredTools codec (.array (keptTools tools)) = declared at offers
  generalize adaptation.upstreamTools = offered at offers ⊢
  induction offers with
  | nil => rfl
  | cons offered _ ih =>
    obtain ⟨fields, name, rfl, -, -⟩ := offered
    rw [List.mapM_cons, ih]
    rfl

theorem AdaptedTools.isEmpty : adaptation.upstreamTools.isEmpty =
    (declaredTools codec (.array (keptTools tools))).isEmpty := by
  have offers := adapted.offers
  generalize declaredTools codec (.array (keptTools tools)) = declared at offers ⊢
  generalize adaptation.upstreamTools = offered at offers ⊢
  cases offers <;> rfl

theorem AdaptedTools.count {tool : ToolIdentity} {name : String}
    (known : adaptation.registry.upstreamName tool = some name) :
    (adaptation.upstreamTools.map functionName).count (some name) =
      (declaredTools codec (.array (keptTools tools))).count tool := by
  have one (other : ToolIdentity) : (adaptation.registry.upstreamName other == some name) =
      (other == tool) := by
    rw [Bool.eq_iff_iff, beq_iff_eq, beq_iff_eq]
    constructor
    · intro named
      have first := (ToolAdapterRegistry.identity_iff_upstreamName adapted.named).2 named
      have second := (ToolAdapterRegistry.identity_iff_upstreamName adapted.named).2 known
      exact Option.some.inj (first.symm.trans second)
    · rintro rfl
      exact known
  rw [adapted.names, List.count, List.countP_map, List.count]
  exact List.countP_congr fun other _ => by rw [Function.comp_apply, one]

theorem AdaptedTools.mem_offeredNames {name : String} :
    name ∈ offeredNames sha256 (declaredTools codec (.array (keptTools tools))) ↔
      (adaptation.registry.identity name).isSome := by
  rw [offeredNames, adapted.named, ← not_iff_not, Option.not_isSome_iff_eq_none,
    ToolAdapterRegistry.identity_eq_none]

end Offers

def KeepsChoice (registry : ToolAdapterRegistry) (hasSupportedTools : Bool) (toolChoice : Json) :
    Prop :=
  toolChoice = .string "none" ∨
  ((toolChoice = .string "auto" ∨ toolChoice = .string "required") ∧ hasSupportedTools) ∨
  ∃ object name, toolChoice = .object object ∧
    (Json.field object "type").bind Json.asStr = some "function" ∧ hasSupportedTools ∧
    responsesFunctionToolName toolChoice = some name ∧ (registry.identity name).isSome

theorem toolChoiceName_of_functionName {object : List (String × Json)} {name : String}
    (named : responsesFunctionToolName (.object object) = some name) :
    ToolAdapterRegistry.toolChoiceName object = some name := by
  simp only [responsesFunctionToolName, Json.asObject] at named
  unfold ToolAdapterRegistry.toolChoiceName
  split at named
  · next function here =>
    rw [here, Option.bind_some]
    cases inner : Json.field function "name" with
    | none =>
      rw [inner] at named
      cases named
    | some value =>
      rw [inner] at named
      exact named
  · next absent =>
    rw [absent, Option.bind_none, Option.none_or]
    split at named
    · exact named
    · cases named

def servedChoice (toolChoice : Json) : Json :=
  match responsesFunctionToolName toolChoice with
  | some name => chatToolChoice name
  | none => toolChoice

theorem adapt_kept {codec : JsonCodec} {sha256 : Sha256} {declared : List ToolIdentity}
    {registry : ToolAdapterRegistry}
    (built : ToolAdapterRegistry.fromIdentities sha256 declared = .ok registry)
    {hasSupportedTools : Bool} {toolChoice : Json}
    (keeps : KeepsChoice registry hasSupportedTools toolChoice) : ∃ adapted,
      adaptChatFallbackToolChoice codec registry toolChoice hasSupportedTools = some adapted ∧
      responsesToolChoiceToChatToolChoice codec adapted hasSupportedTools =
        .ok (some (servedChoice toolChoice)) := by
  rcases keeps with rfl | ⟨rfl | rfl, rfl⟩ | ⟨object, name, rfl, function, rfl, named, known⟩
  · exact ⟨.string "none", rfl, rfl⟩
  · exact ⟨.string "auto", rfl, rfl⟩
  · exact ⟨.string "required", rfl, rfl⟩
  · obtain ⟨identity, found⟩ := Option.isSome_iff_exists.1 known
    have back := (ToolAdapterRegistry.identity_iff_upstreamName built).1 found
    have chosen := toolChoiceName_of_functionName named
    refine ⟨.object (ToolAdapterRegistry.setToolChoiceName object name), ?_, ?_⟩
    · simp only [adaptChatFallbackToolChoice, function, ne_eq, not_true_eq_false, Bool.not_true,
        Bool.false_eq_true, or_self, if_false, named, Option.bind_some, found,
        ToolAdapterRegistry.adaptToolChoice, chosen, back]
      rfl
    · rw [servedChoice, named]
      unfold ToolAdapterRegistry.setToolChoiceName
      split
      · simp [responsesToolChoiceToChatToolChoice, Json.field_setField, function, Json.asObject,
          Json.asStr]
      · next absent =>
        simp [responsesToolChoiceToChatToolChoice, Json.field_setField, function, absent,
          Json.asStr]

theorem adapt_dropped {codec : JsonCodec} {registry : ToolAdapterRegistry}
    {hasSupportedTools : Bool} {toolChoice : Json}
    (drops : ¬ KeepsChoice registry hasSupportedTools toolChoice) :
    adaptChatFallbackToolChoice codec registry toolChoice hasSupportedTools = none := by
  unfold adaptChatFallbackToolChoice
  split
  · next choice =>
    split
    · next none => exact absurd (.inl (by rw [none])) drops
    split
    · next mode =>
      obtain ⟨rfl | rfl, supported⟩ := mode
      · exact absurd (.inr (.inl ⟨.inl rfl, supported⟩)) drops
      · exact absurd (.inr (.inl ⟨.inr rfl, supported⟩)) drops
    · rfl
  · next object =>
    split
    · rfl
    · next served =>
      simp only [ne_eq, not_or, not_not, Bool.not_eq_true', Bool.not_eq_false] at served
      obtain ⟨function, supported⟩ := served
      split
      · rfl
      · next identity found =>
        obtain ⟨name, named, known⟩ := Option.bind_eq_some_iff.1 found
        exact absurd (.inr (.inr ⟨object, name, rfl, function, supported, named,
          Option.isSome_of_eq_some known⟩)) drops
  · rfl

theorem field_optional {α : Type} (value : Option α) (make : α → Json) (name key : String) :
    Json.field (value.map fun value => (name, make value)).toList key =
      if name = key then value.map make else none := by
  cases value <;> simp

theorem field_named (value : Option Json) (name key : String) :
    Json.field (value.map fun value => (name, value)).toList key =
      if name = key then value else none := by
  cases value <;> simp

theorem field_guarded (condition : Prop) [Decidable condition] (name key : String) (value : Json) :
    Json.field (if condition then [] else [(name, value)]) key =
      if ¬ condition ∧ name = key then some value else none := by
  by_cases holds : condition <;> simp [holds]

theorem field_copyField (input : Json) (field key : String) :
    Json.field (copyField input field) key = if field = key then input.get field else none := by
  rw [copyField, field_named]

theorem field_renamedField (object : Option (List (String × Json))) (field name key : String) :
    Json.field (renamedField object field name) key =
      if name = key then object.bind (Json.field · field) else none := by
  rw [renamedField, field_named]

theorem field_copiedFields {input : Json} {key : String} (other : key ∉ copiedFields) :
    Json.field (copiedFields.flatMap (copyField input)) key = none := by
  generalize copiedFields = fields at other
  induction fields with
  | nil => rfl
  | cons field fields ih =>
    obtain ⟨apart, later⟩ : key ≠ field ∧ key ∉ fields := by simpa using other
    rw [List.flatMap_cons, Json.field_append, ih later, field_copyField,
      if_neg (Ne.symm apart)]
    rfl

theorem payload_fields {codec : JsonCodec} {context : ConversionContext} {input payload : Json}
    (converted : responsesRequestToChatPayload codec context input = .ok payload) :
    ∃ tools choice,
      (bodyTools input).mapM (responsesToolDefinitionToChatTool codec) = .ok tools ∧
      requestToolChoice codec input (!tools.isEmpty) = .ok choice ∧
      bodyTools payload = tools ∧ payload.get "tool_choice" = choice := by
  unfold responsesRequestToChatPayload at converted
  split at converted
  · cases converted
  · next model known =>
    rw [Except.bind_eq_ok] at converted
    obtain ⟨messages, -, converted⟩ := converted
    rw [Except.bind_eq_ok] at converted
    obtain ⟨tools, mapped, converted⟩ := converted
    rw [Except.bind_eq_ok] at converted
    obtain ⟨choice, chosen, converted⟩ := converted
    obtain rfl := Except.ok.inj converted
    refine ⟨tools, choice, mapped, chosen, ?_, ?_⟩
    · have noTools : Json.field (copiedFields.flatMap (copyField input)) "tools" = none :=
        field_copiedFields (by decide)
      rw [bodyTools, Json.get_object]
      simp only [Json.field_append, noTools, field_copyField, field_renamedField, field_guarded,
        field_optional, field_named]
      cases tools <;> simp [Json.asArray]
    · have noChoice : Json.field (copiedFields.flatMap (copyField input)) "tool_choice" = none :=
        field_copiedFields (by decide)
      rw [Json.get_object]
      simp only [Json.field_append, noChoice, field_copyField, field_renamedField, field_guarded,
        field_optional, field_named]
      cases choice <;> simp

structure FallbackResult (codec : JsonCodec) (sha256 : Sha256) (body payload : Json)
    (codes : Finset String) (adaptation : ToolAdaptation) : Prop where
  built : buildChatFallbackToolAdaptation codec sha256 (bodyTools body) = .ok adaptation
  offered : bodyTools payload = adaptation.upstreamTools
  reported : ∀ code ∈ adaptation.downgrades, code ∈ codes
  absent : body.get "tool_choice" = none → payload.get "tool_choice" = none
  served : ∀ choice, body.get "tool_choice" = some choice →
    KeepsChoice adaptation.registry (!adaptation.upstreamTools.isEmpty) choice →
    payload.get "tool_choice" = some (servedChoice choice)
  dropped : ∀ choice, body.get "tool_choice" = some choice →
    ¬ KeepsChoice adaptation.registry (!adaptation.upstreamTools.isEmpty) choice →
    payload.get "tool_choice" = none

structure SanitizedRequest (codec : JsonCodec) (sha256 : Sha256) (object : List (String × Json))
    (sanitized : List (String × Json)) (adaptation : ToolAdaptation) : Prop where
  built : buildChatFallbackToolAdaptation codec sha256 (bodyTools (.object object)) = .ok adaptation
  tools : bodyTools (.object sanitized) = adaptation.upstreamTools
  choice : Json.field sanitized "tool_choice" =
    (Json.field object "tool_choice").bind fun choice =>
      adaptChatFallbackToolChoice codec adaptation.registry choice
        (!adaptation.upstreamTools.isEmpty)

theorem adapt_unsupported {codec : JsonCodec} {registry : ToolAdapterRegistry}
    {choice adapted : Json}
    (kept : adaptChatFallbackToolChoice codec registry choice false = some adapted) :
    adapted = choice := by
  unfold adaptChatFallbackToolChoice at kept
  split at kept
  · split at kept
    · exact (Option.some.inj kept).symm
    · simp at kept
  · simp at kept
  · cases kept

theorem field_setToolChoice (object : List (String × Json)) (adapted : Option Json) (key : String) :
    Json.field (setToolChoice object adapted) key =
      if key = "tool_choice" then adapted else Json.field object key := by
  unfold setToolChoice
  cases adapted with
  | some adapted => simp [Json.field_setField, eq_comm]
  | none => simp [Json.field_removeField, eq_comm]

theorem sanitized_of_adapted {codec : JsonCodec} {sha256 : Sha256}
    {object sanitized : List (String × Json)} {registry : ToolAdapterRegistry}
    {downgrades : List String}
    (adapted : adaptFallbackTools codec sha256 object = .ok (sanitized, registry, downgrades)) :
    ∃ adaptation, SanitizedRequest codec sha256 object sanitized adaptation ∧
      adaptation.downgrades = downgrades := by
  unfold adaptFallbackTools at adapted
  split at adapted
  · next tools listed =>
    have known : bodyTools (.object object) = tools := by
      rw [bodyTools, Json.get_object, listed, Option.getD_some]
    split at adapted
    · cases adapted
    · next adaptation built =>
      cases adapted
      refine ⟨adaptation, ⟨by rw [known, built], ?_, ?_⟩, rfl⟩
      · cases chosen : Json.field object "tool_choice" with
        | none => simp [bodyTools, Json.field_setField, Json.asArray, chosen]
        | some choice =>
          simp [bodyTools, field_setToolChoice, Json.field_setField, Json.asArray, chosen]
      · cases chosen : Json.field object "tool_choice" with
        | none => simp [Json.field_setField, chosen]
        | some choice => simp [field_setToolChoice, Json.field_setField, chosen]
  · next unlisted =>
    have known : bodyTools (.object object) = [] := by
      rw [bodyTools, Json.get_object, unlisted, Option.getD_none]
    cases adapted
    refine ⟨⟨[], {}, []⟩, ⟨by rw [known]; rfl, ?_, ?_⟩, rfl⟩
    · split <;> simp [bodyTools, Json.field_removeField]
    · cases chosen : Json.field object "tool_choice" with
      | none => simp [Json.field_removeField, chosen]
      | some choice =>
        cases kept : adaptChatFallbackToolChoice codec {} choice false with
        | none => simp [Json.field_removeField, chosen, kept]
        | some adapted =>
          simp [Json.field_removeField, chosen, kept, adapt_unsupported kept]

theorem result_of_request {codec : JsonCodec} {sha256 : Sha256} {context : ConversionContext}
    {object sanitized : List (String × Json)} {payload : Json} {codes : Finset String}
    {adaptation : ToolAdaptation}
    (request : SanitizedRequest codec sha256
      (Json.removeField (Json.removeField object "logprobs") "top_logprobs") sanitized adaptation)
    (converted : responsesRequestToChatPayload codec context (.object sanitized) = .ok payload)
    (reported : ∀ code ∈ adaptation.downgrades, code ∈ codes) :
    FallbackResult codec sha256 (.object object) payload codes adaptation := by
  have sameTools : bodyTools (.object
      (Json.removeField (Json.removeField object "logprobs") "top_logprobs")) =
      bodyTools (.object object) := by
    simp [bodyTools, Json.field_removeField]
  have built := sameTools ▸ request.built
  obtain ⟨tools, choice, mapped, chosen, offered, served⟩ := payload_fields converted
  rw [request.tools, (adaptedTools_of_built built).converts] at mapped
  obtain rfl := Except.ok.inj mapped
  have asked : Json.field sanitized "tool_choice" =
      (Json.field object "tool_choice").bind fun choice =>
        adaptChatFallbackToolChoice codec adaptation.registry choice
          (!adaptation.upstreamTools.isEmpty) := by
    rw [request.choice]
    simp [Json.field_removeField]
  simp only [requestToolChoice, Json.get_object, asked] at chosen
  refine ⟨built, offered, reported, ?_, ?_, ?_⟩
  · intro absent
    rw [Json.get_object] at absent
    rw [absent] at chosen
    rw [served]
    exact (Except.ok.inj chosen).symm
  · intro given here keeps
    rw [Json.get_object] at here
    obtain ⟨adapted, kept, converts⟩ :=
      @adapt_kept codec _ _ _ (adaptedTools_of_built built).named _ _ keeps
    rw [here, Option.bind_some, kept] at chosen
    rw [served]
    exact Except.ok.inj (chosen.symm.trans converts)
  · intro given here drops
    rw [Json.get_object] at here
    rw [here, Option.bind_some, adapt_dropped drops] at chosen
    rw [served]
    exact (Except.ok.inj chosen).symm

section Result

variable {codec : JsonCodec} {sha256 : Sha256} {body payload : Json}
  {resolvedCapabilities : Option ResolvedCapabilities}
  {inheritedToolRegistry : Option ToolAdapterRegistry} {toolArgumentsStrict : Bool}
  {downgradeCodes : Finset String}

theorem fallback_result
    (succeeds : (responsesRequestToChatPayloadWithFallback codec sha256 body resolvedCapabilities
      inheritedToolRegistry toolArgumentsStrict downgradeCodes).1 = .ok payload) :
    ∃ adaptation, FallbackResult codec sha256 body payload
      (responsesRequestToChatPayloadWithFallback codec sha256 body resolvedCapabilities
        inheritedToolRegistry toolArgumentsStrict downgradeCodes).2 adaptation := by
  cases body with
  | object object =>
    unfold responsesRequestToChatPayloadWithFallback at succeeds ⊢
    simp only [Json.asObject] at succeeds ⊢
    cases adapted : adaptFallbackTools codec sha256
        (Json.removeField (Json.removeField object "logprobs") "top_logprobs") with
    | error error =>
      rw [adapted] at succeeds
      cases succeeds
    | ok done =>
      obtain ⟨sanitized, registry, downgrades⟩ := done
      obtain ⟨adaptation, request, rfl⟩ := sanitized_of_adapted adapted
      rw [adapted] at succeeds
      simp only [Except.map] at succeeds ⊢
      refine ⟨adaptation, result_of_request request succeeds ?_⟩
      intro code member
      split <;> simp [member]
  | _ => cases succeeds

end Result

theorem strippedToolCount_eq {tools : List Json} (kept : keptTools tools =
    tools.filter fun tool => !responsesToolRequiresResponsesUpstream tool) :
    (tools.filter responsesToolRequiresResponsesUpstream).length =
      tools.length - (keptTools tools).length := by
  have both := List.length_eq_length_filter_add (l := tools) responsesToolRequiresResponsesUpstream
  rw [← kept] at both
  omega

theorem reportedChoiceName_of_functionName {object : List (String × Json)} {name : String}
    (named : responsesFunctionToolName (.object object) = some name) :
    (reportedChoiceName object).isSome := by
  simp only [responsesFunctionToolName, Json.asObject] at named
  unfold reportedChoiceName
  split at named
  · next function here => simp [here, named]
  · split at named
    · simp [named]
    · cases named

theorem reportedChoiceName_of_toolChoiceName {object : List (String × Json)} {name : String}
    (named : ToolAdapterRegistry.toolChoiceName object = some name) :
    (reportedChoiceName object).isSome := by
  unfold ToolAdapterRegistry.toolChoiceName at named
  unfold reportedChoiceName
  cases inner : ((Json.field object "function").bind Json.asObject).bind (Json.field · "name") with
  | none =>
    rw [inner, Option.none_or] at named
    simp [named]
  | some value =>
    rw [inner, Option.some_or, Option.bind_some] at named
    obtain ⟨function, here, field⟩ := Option.bind_eq_some_iff.1 inner
    simp [here, field, named]

theorem object_of_choiceNames {choice : Json} {tool : ToolIdentity}
    (names : ChoiceNames choice tool) : ∃ object, choice = .object object := by
  cases choice with
  | object object => exact ⟨object, rfl⟩
  | _ => cases names.1

theorem keptTools_ne_nil {codec : JsonCodec} {body : Json}
    (declared : keptIdentities codec body ≠ []) : keptTools (bodyTools body) ≠ [] := by
  intro none
  rw [keptIdentities, none] at declared
  exact declared rfl

theorem otherAgrees {registry : ToolAdapterRegistry} {choice : Json} {kept offers : Bool}
    (text : ∀ mode, choice = .string mode → mode ≠ "auto" ∧ mode ≠ "required")
    (object : ∀ fields, choice = .object fields →
      (Json.field fields "type").bind Json.asStr ≠ some "function") :
    responsesToolChoiceRequiresChatFallback choice kept = false ↔
      KeepsChoice registry offers choice := by
  cases choice with
  | string mode =>
    obtain ⟨auto, required⟩ := text mode rfl
    simp [responsesToolChoiceRequiresChatFallback, KeepsChoice, auto, required]
  | object fields =>
    have other := object fields rfl
    simp [responsesToolChoiceRequiresChatFallback, KeepsChoice, other]
  | _ => simp [responsesToolChoiceRequiresChatFallback, KeepsChoice]

section Agreement

variable {codec : JsonCodec} {sha256 : Sha256} {body payload : Json} {codes : Finset String}
  {adaptation : ToolAdaptation} (result : FallbackResult codec sha256 body payload codes adaptation)
include result

theorem FallbackResult.adapted : AdaptedTools codec sha256 (bodyTools body) adaptation :=
  adaptedTools_of_built result.built

theorem FallbackResult.offersTools : (!adaptation.upstreamTools.isEmpty) = true ↔
    keptIdentities codec body ≠ [] := by
  rw [result.adapted.isEmpty, keptIdentities]
  simp

theorem FallbackResult.choiceServed : ChoiceServed payload := by
  intro served found
  cases asked : body.get "tool_choice" with
  | none =>
    rw [result.absent asked] at found
    cases found
  | some choice =>
    by_cases keeps :
        KeepsChoice adaptation.registry (!adaptation.upstreamTools.isEmpty) choice
    · obtain rfl := Option.some.inj ((result.served choice asked keeps).symm.trans found)
      rw [result.offered]
      rcases keeps with rfl | ⟨mode, supported⟩ | ⟨object, name, rfl, -, -, named, known⟩
      · exact .inl rfl
      · have same : servedChoice choice = choice := by rcases mode with rfl | rfl <;> rfl
        refine .inr (.inl ⟨by rwa [same], ?_⟩)
        simpa using supported
      · refine .inr (.inr ⟨name, by rw [servedChoice, named]; rfl, ?_⟩)
        obtain ⟨tool, found⟩ := Option.isSome_iff_exists.1 known
        have back := (ToolAdapterRegistry.identity_iff_upstreamName result.adapted.named).1 found
        rw [result.adapted.names, ← back]
        exact List.mem_map_of_mem
          ((ToolAdapterRegistry.declared_iff_named result.adapted.named).2 ⟨name, back⟩)
    · rw [result.dropped choice asked keeps] at found
      cases found

-- The report of a choice is right where the choice is kept just if the report says so.
theorem FallbackResult.reported_iff : (responsesRequestChatFallbackReport body =
    { retainedToolCount := (keptTools (bodyTools body)).length
      strippedToolCount := (bodyTools body).length - (keptTools (bodyTools body)).length
      hasToolChoice := (body.get "tool_choice").isSome
      toolChoiceDropped := (body.get "tool_choice").isSome &&
        (payload.get "tool_choice").isNone }) ↔
    ∀ choice, body.get "tool_choice" = some choice →
      (responsesToolChoiceRequiresChatFallback choice
          (decide (keptTools (bodyTools body) ≠ [])) = false ↔
        KeepsChoice adaptation.registry (!adaptation.upstreamTools.isEmpty) choice) := by
  have kept := result.adapted.kept
  have counted : executableToolCount (bodyTools body) = (keptTools (bodyTools body)).length := by
    rw [executableToolCount, ← kept]
  have supported : decide ((keptTools (bodyTools body)).length > 0) =
      decide (keptTools (bodyTools body) ≠ []) :=
    decide_eq_decide.2 List.length_pos_iff
  simp only [responsesRequestChatFallbackReport, counted, strippedToolCount_eq kept, supported,
    ResponsesChatFallbackReport.mk.injEq, true_and]
  cases asked : body.get "tool_choice" with
  | none => simp
  | some choice =>
    simp only [Option.any_some, Option.isSome_some, Bool.true_and, Option.some.injEq,
      forall_eq']
    by_cases keeps :
        KeepsChoice adaptation.registry (!adaptation.upstreamTools.isEmpty) choice
    · rw [result.served choice asked keeps]
      simp [keeps]
    · rw [result.dropped choice asked keeps]
      simp [keeps]

theorem FallbackResult.declares {name : String}
    (offered : name ∈ offeredNames sha256 (keptIdentities codec body)) :
    keptIdentities codec body ≠ [] := by
  have known := result.adapted.mem_offeredNames.1 offered
  obtain ⟨tool, found⟩ := Option.isSome_iff_exists.1 known
  have back := (ToolAdapterRegistry.identity_iff_upstreamName result.adapted.named).1 found
  exact List.ne_nil_of_mem
    ((ToolAdapterRegistry.declared_iff_named result.adapted.named).2 ⟨name, back⟩)

theorem FallbackResult.modeAgrees {choice : String} (mode : choice = "auto" ∨ choice = "required") :
    (responsesToolChoiceRequiresChatFallback (.string choice)
        (decide (keptTools (bodyTools body) ≠ [])) = false ↔
      KeepsChoice adaptation.registry (!adaptation.upstreamTools.isEmpty) (.string choice)) ↔
    (keptTools (bodyTools body) ≠ [] → keptIdentities codec body ≠ []) := by
  have reads : responsesToolChoiceRequiresChatFallback (.string choice)
      (decide (keptTools (bodyTools body) ≠ [])) = false ↔ keptTools (bodyTools body) ≠ [] := by
    rcases mode with rfl | rfl <;> simp [responsesToolChoiceRequiresChatFallback]
  have keeps : KeepsChoice adaptation.registry (!adaptation.upstreamTools.isEmpty)
      (.string choice) ↔ keptIdentities codec body ≠ [] := by
    rw [← result.offersTools]
    rcases mode with rfl | rfl <;> simp [KeepsChoice]
  rw [reads, keeps]
  exact ⟨Iff.mp, fun offers => ⟨offers, keptTools_ne_nil⟩⟩

theorem FallbackResult.keeps_function {object : List (String × Json)}
    (function : (Json.field object "type").bind Json.asStr = some "function") :
    KeepsChoice adaptation.registry (!adaptation.upstreamTools.isEmpty) (.object object) ↔
      ∃ name ∈ offeredNames sha256 (keptIdentities codec body),
        responsesFunctionToolName (.object object) = some name := by
  constructor
  · rintro (impossible | ⟨impossible | impossible, -⟩ | ⟨_, name, -, -, -, named, known⟩)
    · cases impossible
    · cases impossible
    · cases impossible
    · exact ⟨name, result.adapted.mem_offeredNames.2 known, named⟩
  · rintro ⟨name, offered, named⟩
    exact .inr (.inr ⟨object, name, rfl, function,
      result.offersTools.2 (result.declares offered), named,
      result.adapted.mem_offeredNames.1 offered⟩)

theorem FallbackResult.functionAgrees {object : List (String × Json)}
    (function : (Json.field object "type").bind Json.asStr = some "function") :
    (responsesToolChoiceRequiresChatFallback (.object object)
        (decide (keptTools (bodyTools body) ≠ [])) = false ↔
      KeepsChoice adaptation.registry (!adaptation.upstreamTools.isEmpty) (.object object)) ↔
    ((reportedChoiceName object).isSome → keptTools (bodyTools body) ≠ [] →
      ∃ name ∈ offeredNames sha256 (keptIdentities codec body),
        responsesFunctionToolName (.object object) = some name) := by
  rw [← result.keeps_function function]
  have reads : responsesToolChoiceRequiresChatFallback (.object object)
      (decide (keptTools (bodyTools body) ≠ [])) = false ↔
      keptTools (bodyTools body) ≠ [] ∧ (reportedChoiceName object).isSome := by
    by_cases kept : keptTools (bodyTools body) = []
    · simp [responsesToolChoiceRequiresChatFallback, function, kept]
    · simp [responsesToolChoiceRequiresChatFallback, function, kept]
  rw [reads]
  constructor
  · intro agrees named kept
    exact agrees.1 ⟨kept, named⟩
  · intro keeps
    refine ⟨fun reported => keeps reported.2 reported.1, fun kept => ?_⟩
    obtain ⟨name, offered, named⟩ := (result.keeps_function function).1 kept
    exact ⟨keptTools_ne_nil (result.declares offered),
      reportedChoiceName_of_functionName named⟩

end Agreement

theorem FallbackResult.truthful {codec : JsonCodec} {sha256 : Sha256} {body payload : Json}
    {codes : Finset String} {adaptation : ToolAdaptation}
    (result : FallbackResult codec sha256 body payload codes adaptation)
    (consistent : FallbackConsistent codec sha256 body) :
    FallbackTruthful codec sha256 body payload codes where
  drops tool member dropped := result.reported _ (result.adapted.codes tool member dropped)
  keeps := by
    intro other built tool kept
    obtain rfl := Except.ok.inj (result.built.symm.trans built)
    obtain ⟨name, named⟩ :=
      (ToolAdapterRegistry.declared_iff_named result.adapted.named).1 kept
    refine ⟨name, named, ?_⟩
    rw [result.offered, result.adapted.count named]
    exact List.count_eq_one_of_mem consistent.distinct kept
  served := result.choiceServed
  chosen := by
    intro choice asked tool kept names
    have offers := result.offersTools.2 (List.ne_nil_of_mem kept)
    obtain ⟨object, rfl⟩ := object_of_choiceNames names
    have ordinary : tool.kind ≠ .custom := fun custom =>
      consistent.customs _ asked tool kept custom names
    have function : (Json.field object "type").bind Json.asStr = some "function" := by
      simpa [ordinary, Json.str] using names.1
    have keeps := (result.keeps_function function).2 (consistent.functions object asked function
      (reportedChoiceName_of_toolChoiceName names.2.1)
      (keptTools_ne_nil (List.ne_nil_of_mem kept)))
    rw [result.served _ asked keeps]
    rfl
  report := by
    refine result.reported_iff.2 fun choice asked => ?_
    by_cases mode : choice = .string "auto" ∨ choice = .string "required"
    · obtain ⟨text, rfl⟩ : ∃ text, choice = .string text := by
        rcases mode with rfl | rfl
        · exact ⟨_, rfl⟩
        · exact ⟨_, rfl⟩
      simp only [Json.string.injEq] at mode
      exact (result.modeAgrees mode).2 (consistent.modes text asked mode)
    by_cases object : ∃ fields, choice = .object fields ∧
        (Json.field fields "type").bind Json.asStr = some "function"
    · obtain ⟨fields, rfl, function⟩ := object
      exact (result.functionAgrees function).2 (consistent.functions fields asked function)
    · refine otherAgrees ?_ fun fields here function => object ⟨fields, here, function⟩
      rintro text rfl
      simpa using mode

theorem FallbackResult.consistent {codec : JsonCodec} {sha256 : Sha256} {body payload : Json}
    {codes : Finset String} {adaptation : ToolAdaptation}
    (result : FallbackResult codec sha256 body payload codes adaptation)
    (truthful : FallbackTruthful codec sha256 body payload codes) :
    FallbackConsistent codec sha256 body where
  distinct := by
    refine List.nodup_iff_count_eq_one.2 fun tool kept => ?_
    obtain ⟨name, named, once⟩ := truthful.keeps adaptation result.built tool kept
    rwa [result.offered, result.adapted.count named] at once
  modes choice asked mode :=
    (result.modeAgrees mode).1 (result.reported_iff.1 truthful.report _ asked)
  functions object asked function :=
    (result.functionAgrees function).1 (result.reported_iff.1 truthful.report _ asked)
  customs := by
    intro choice asked tool kept custom names
    have served := truthful.chosen choice asked tool kept names
    obtain ⟨object, rfl⟩ := object_of_choiceNames names
    have keeps : KeepsChoice adaptation.registry (!adaptation.upstreamTools.isEmpty)
        (.object object) := by
      by_contra drops
      rw [result.dropped _ asked drops] at served
      cases served
    obtain impossible | ⟨impossible | impossible, -⟩ | ⟨_, _, same, function, -⟩ := keeps
    · cases impossible
    · cases impossible
    · cases impossible
    · obtain rfl := Json.object.inj same
      have kind := names.1
      rw [custom] at kind
      exact absurd (kind.symm.trans function) (by decide)

/-- The fallback does as it says, and its report is right, just for a request that declares no tool
twice and whose choice is read alike by both. -/
theorem fallback_reported_truthfully (codec : JsonCodec) (sha256 : Sha256) (body payload : Json)
    (resolvedCapabilities : Option ResolvedCapabilities)
    (inheritedToolRegistry : Option ToolAdapterRegistry) (toolArgumentsStrict : Bool)
    (downgradeCodes : Finset String)
    (succeeds : (responsesRequestToChatPayloadWithFallback codec sha256 body resolvedCapabilities
      inheritedToolRegistry toolArgumentsStrict downgradeCodes).1 = .ok payload) :
    FallbackTruthful codec sha256 body payload
        (responsesRequestToChatPayloadWithFallback codec sha256 body resolvedCapabilities
          inheritedToolRegistry toolArgumentsStrict downgradeCodes).2 ↔
      FallbackConsistent codec sha256 body := by
  obtain ⟨adaptation, result⟩ := fallback_result succeeds
  exact ⟨result.consistent, result.truthful⟩

def lookupRequest (choice : Json) : Json :=
  .object [("model", .string "gpt-5"), ("input", .string "hi"),
    ("tools", .array [.object [("type", .string "function"), ("name", .string "lookup")],
      .object [("type", .string "web_search")]]),
    ("tool_choice", choice)]

def lookupPayload (choice : Option Json) : Json :=
  .object
    ([("model", .string "gpt-5"),
      ("tools", .array [.object [("type", .string "function"),
        ("function", .object [("name", .string "lookup")])]])] ++
      (choice.map fun choice => ("tool_choice", choice)).toList ++
      [("messages", .array [.object [("role", .string "user"), ("content", .string "hi")]])])

def namedChoice (name : String) : Json :=
  .object [("type", .string "function"), ("name", .string name)]

theorem lookup_reported_truthfully :
    FallbackTruthful inputCodec ToolAdapterRegistry.zeroHash
      (lookupRequest (namedChoice "lookup"))
      (lookupPayload (some (chatToolChoice "lookup")))
      (responsesRequestToChatPayloadWithFallback inputCodec ToolAdapterRegistry.zeroHash
        (lookupRequest (namedChoice "lookup")) none none true ∅).2 ↔
      FallbackConsistent inputCodec ToolAdapterRegistry.zeroHash
        (lookupRequest (namedChoice "lookup")) :=
  fallback_reported_truthfully inputCodec ToolAdapterRegistry.zeroHash _ _ none none true ∅
    (by decide +kernel)

-- The choice of a function that is not declared is dropped, and the report says that it is kept.
theorem undeclared_choice_reported_kept : ¬ ∀ (codec : JsonCodec) (sha256 : Sha256)
    (body payload : Json) (resolvedCapabilities : Option ResolvedCapabilities)
    (inheritedToolRegistry : Option ToolAdapterRegistry) (toolArgumentsStrict : Bool)
    (downgradeCodes : Finset String),
    (responsesRequestToChatPayloadWithFallback codec sha256 body resolvedCapabilities
      inheritedToolRegistry toolArgumentsStrict downgradeCodes).1 = .ok payload →
    FallbackTruthful codec sha256 body payload
      (responsesRequestToChatPayloadWithFallback codec sha256 body resolvedCapabilities
        inheritedToolRegistry toolArgumentsStrict downgradeCodes).2 := by
  intro all
  have truthful := all inputCodec ToolAdapterRegistry.zeroHash
    (lookupRequest (namedChoice "search")) (lookupPayload none) none none true ∅
    (by decide +kernel)
  have reported := truthful.report
  revert reported
  decide +kernel

end ChatGateway
