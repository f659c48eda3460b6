import ChatGateway.Protocol.EventStream
import ChatGateway.Protocol.ToolDelivery
import ChatGateway.Protocol.ToolNames

set_option autoImplicit false

/-!
# Tool calls through the adapter

What becomes of a call item that is adapted for the upstream and restored, and by which names the
upstream meets a declared tool.
-/

namespace ChatGateway

def callType : ToolKind → String
  | .custom => "custom_tool_call"
  | _ => "function_call"

def payloadField : ToolKind → String
  | .custom => "input"
  | _ => "arguments"

/-- A Responses call item of the tool: arguments are the text of one JSON value, an input is any
string. -/
structure CallOf (codec : JsonCodec) (tool : ToolIdentity) (item : Json) : Prop where
  type : item.str "type" = some (callType tool.kind)
  name : item.str "name" = some tool.name
  group : item.str "namespace" = tool.group
  callId : ∃ callId, item.str "call_id" = some callId
  payload : ∃ payload, item.str (payloadField tool.kind) = some payload ∧
    (tool.kind = .custom ∨ codec.reads payload = true)

def ChoiceOf (tool : ToolIdentity) (choice : Json) : Prop :=
  ∃ object, choice = .object object ∧
    ToolAdapterRegistry.toolChoiceName object = some tool.name

def functionName (value : Json) : Option String :=
  (value.get "function").bind (·.str "name")

def choiceName (choice : Json) : Option String :=
  choice.asObject.bind ToolAdapterRegistry.toolChoiceName

def declaredTools (codec : JsonCodec) (tools : Json) : List ToolIdentity :=
  match parseTools codec .functionsOnly (tools.asArray.getD []) with
  | .ok declarations => declarations.identities
  | .error _ => []

section Properties

variable (codec : JsonCodec) (strict : Bool)

def RoundTrips (registry : ToolAdapterRegistry) (tool : ToolIdentity) : Prop :=
  ∀ item, CallOf codec tool item → ∃ adapted restored,
    registry.adaptResponsesFunctionCall codec item strict = .ok adapted ∧
    registry.restoreFunctionCall codec adapted = .ok restored ∧
    ∀ key ∈ ["type", "call_id", "name", "namespace", payloadField tool.kind],
      restored.str key = item.str key

def OneName (declared : List ToolIdentity) (adaptation : ToolAdaptation) (tool : ToolIdentity) :
    Prop :=
  ∃ name,
    (∀ position : Nat, declared[position]? = some tool →
      adaptation.upstreamTools[position]?.bind functionName = some name) ∧
    (∀ item, CallOf codec tool item → ∃ adapted,
      adaptation.registry.adaptResponsesFunctionCall codec item strict = .ok adapted ∧
      functionName adapted = some name) ∧
    ∀ choice, ChoiceOf tool choice → ∃ adapted,
      adaptation.registry.adaptToolChoice codec choice = .ok adapted ∧
      choiceName adapted = some name

end Properties

structure Aligned (declarations : ToolDeclarations) : Prop where
  flattened : declarations.flattenedIdentities = declarations.identities
  tools : List.Forall₂ (fun (_ : ToolIdentity) tool => ∃ name description parameters,
    tool = chatFunctionTool name description parameters) declarations.identities
    declarations.flattenedTools
  formed : ∀ identity ∈ declarations.identities, identity.Formed

theorem Aligned.declare {declarations : ToolDeclarations} (aligned : Aligned declarations)
    {identity : ToolIdentity} (formed : identity.Formed) (name : String)
    (description : Option String) (parameters : Option Json) :
    Aligned (declarations.declare .functionsOnly identity
      (chatFunctionTool name description parameters)) where
  flattened := by simp [ToolDeclarations.declare, aligned.flattened]
  tools := by
    have one : List.Forall₂ (fun (_ : ToolIdentity) tool => ∃ name description parameters,
        tool = chatFunctionTool name description parameters) [identity]
        [chatFunctionTool name description parameters] :=
      .cons ⟨name, description, parameters, rfl⟩ .nil
    simpa [ToolDeclarations.declare] using List.rel_append aligned.tools one
  formed := by
    intro other member
    simp only [ToolDeclarations.declare, reduceCtorEq, if_false, List.mem_append,
      List.mem_singleton] at member
    rcases member with known | rfl
    · exact aligned.formed other known
    · exact formed

section Parsing

variable {codec : JsonCodec} {declarations next : ToolDeclarations}

theorem parseNamespaceMember_aligned (aligned : Aligned declarations) {group : String}
    {description : Option String} {member : Json}
    (parsed : parseNamespaceMember codec .functionsOnly group description declarations member =
      .ok next) : Aligned next := by
  unfold parseNamespaceMember at parsed
  split at parsed
  · cases parsed
  · split at parsed
    · split at parsed
      · cases parsed
      · cases parsed
        exact aligned.declare (by simp [ToolIdentity.Formed, ToolIdentity.namespaceMember]) _ _ _
    · split at parsed
      · cases parsed
      · cases parsed
        exact aligned.declare (by simp [ToolIdentity.Formed, ToolIdentity.custom]) _ _ _
    · cases parsed

theorem parseNamespaceTool_aligned (aligned : Aligned declarations) {tool : Json}
    (parsed : parseNamespaceTool codec .functionsOnly declarations tool = .ok next) :
    Aligned next := by
  unfold parseNamespaceTool at parsed
  split at parsed
  · cases parsed
  · split at parsed
    · cases parsed
    · split at parsed
      · cases parsed
      · exact Except.foldlM_invariant
          (fun _ _ _ _ known stepped => parseNamespaceMember_aligned known stepped) aligned parsed

-- A functions-only upstream has no hosted tool, so none of them is accepted.
theorem parseHostedTool_error (kind : String) (tool : Json) :
    parseHostedTool .functionsOnly declarations kind tool ≠ .ok next := by
  unfold parseHostedTool hostedToolDecision
  intro parsed
  split at parsed <;> split_ifs at * <;> simp_all

theorem parseTool_aligned (aligned : Aligned declarations) {tool : Json}
    (parsed : parseTool codec .functionsOnly declarations tool = .ok next) : Aligned next := by
  unfold parseTool at parsed
  split at parsed
  · cases parsed
  · split at parsed
    · split at parsed
      · cases parsed
      · cases parsed
        exact aligned.declare (by simp [ToolIdentity.Formed, ToolIdentity.function]) _ _ _
    · split at parsed
      · cases parsed
      · cases parsed
        exact aligned.declare (by simp [ToolIdentity.Formed, ToolIdentity.custom]) _ _ _
    · exact parseNamespaceTool_aligned aligned parsed
    · exact absurd parsed (parseHostedTool_error _ _)
    · exact absurd parsed (parseHostedTool_error _ _)
    · exact absurd parsed (parseHostedTool_error _ _)
    · cases parsed

theorem parseTools_aligned {tools : List Json}
    (parsed : parseTools codec .functionsOnly tools = .ok next) : Aligned next :=
  Except.foldlM_invariant (fun _ _ _ _ known stepped => parseTool_aligned known stepped)
    ⟨rfl, .nil, by simp⟩ parsed

end Parsing

namespace ToolAdapterRegistry

theorem functionName_nameTool {registry : ToolAdapterRegistry} {identity : ToolIdentity}
    {upstream : String} (named : registry.upstreamName identity = some upstream) (name : String)
    (description : Option String) (parameters : Option Json) :
    functionName (registry.nameTool identity (chatFunctionTool name description parameters)) =
      some upstream := by
  simp [nameTool, chatFunctionTool, Json.asObject, named, functionName, Json.setField, Json.str,
    Json.asStr]

theorem functionName_nameTools {registry : ToolAdapterRegistry} {identities : List ToolIdentity}
    {tools : List Json}
    (aligned : List.Forall₂ (fun (_ : ToolIdentity) tool => ∃ name description parameters,
      tool = chatFunctionTool name description parameters) identities tools)
    {tool : ToolIdentity} {upstream : String} (named : registry.upstreamName tool = some upstream)
    {position : Nat} (here : identities[position]? = some tool) :
    (registry.nameTools identities tools)[position]?.bind functionName = some upstream := by
  induction aligned generalizing position with
  | nil => simp at here
  | @cons identity declaration identities tools shape rest ih =>
    cases position with
    | zero =>
      obtain ⟨name, description, parameters, rfl⟩ := shape
      simp only [List.getElem?_cons_zero, Option.some.injEq] at here
      subst here
      simpa [nameTools] using functionName_nameTool named name description parameters
    | succ position => exact ih here

theorem adaptToolChoice_name {codec : JsonCodec} {sha256 : Sha256} {declared : List ToolIdentity}
    {registry : ToolAdapterRegistry} (built : fromIdentities sha256 declared = .ok registry)
    {tool : ToolIdentity} {choice : Json} (chosen : ChoiceOf tool choice) : ∃ adapted,
      registry.adaptToolChoice codec choice = .ok adapted ∧
      choiceName adapted = some tool.name := by
  obtain ⟨object, rfl, name⟩ := chosen
  rw [adaptToolChoice, name, Option.bind_some]
  cases found : registry.identity tool.name with
  | none => exact ⟨.object object, rfl, name⟩
  | some identity =>
    have back := (identity_iff_upstreamName built).1 found
    rw [Option.bind_some, back]
    refine ⟨_, rfl, ?_⟩
    change toolChoiceName (setToolChoiceName object tool.name) = some tool.name
    unfold setToolChoiceName
    split
    · simp [toolChoiceName, Json.field_setField, Json.asObject, Json.asStr]
    · next absent =>
      have kept : (Json.field (Json.setField object "name" (.string tool.name)) "function") =
          Json.field object "function" := by
        simp [Json.field_setField]
      simp [toolChoiceName, kept, absent, Json.field_setField, Json.asStr]

def lookedUp (tool : ToolIdentity) : ToolIdentity :=
  if tool.group = some "" then
    match tool.kind with
    | .custom => .custom none tool.name
    | _ => .function tool.name
  else tool

def adaptedName (registry : ToolAdapterRegistry) (tool : ToolIdentity) : String :=
  (registry.upstreamName (lookedUp tool)).getD tool.name

def upstreamArguments (codec : JsonCodec) (tool : ToolIdentity) (payload : String) : String :=
  if tool.kind = .custom then codec.print (.object [("input", .string payload)]) else payload

theorem normalize_reads {codec : JsonCodec} (trims : codec.ReadsTrimmed) {raw : String}
    (reads : codec.reads raw = true) (strict : Bool) (callId : String) :
    normalizeToolArgumentsForRequest codec raw strict callId = .ok raw := by
  rw [normalizeToolArgumentsForRequest, normalizeToolArguments_of_reads trims reads]
  simp

theorem adapt_call {codec : JsonCodec} (trims : codec.ReadsTrimmed) (strict : Bool)
    (registry : ToolAdapterRegistry) {tool : ToolIdentity} (formed : tool.Formed) {item : Json}
    (call : CallOf codec tool item) : ∃ callId payload,
      item.str "call_id" = some callId ∧ item.str (payloadField tool.kind) = some payload ∧
      registry.adaptResponsesFunctionCall codec item strict =
        .ok (chatToolCall callId (registry.adaptedName tool)
          (upstreamArguments codec tool payload)) := by
  obtain ⟨callId, known⟩ := call.callId
  obtain ⟨payload, carried, valid⟩ := call.payload
  refine ⟨callId, payload, known, carried, ?_⟩
  obtain ⟨object, rfl⟩ : ∃ object, item = .object object := by
    cases item <;> simp_all [Json.str, Json.get, Json.asObject]
  have type := call.type
  have name := call.name
  have group := call.group
  simp only [Json.str, Json.get_object] at type name group known carried
  have id : ((Json.field object "call_id").or (Json.field object "id")).bind Json.asStr =
      some callId := by
    cases found : Json.field object "call_id" <;> simp_all
  rw [adaptResponsesFunctionCall]
  simp only [Json.asObject, type, name, id, group]
  cases kind : tool.kind with
  | custom =>
    have input : (Json.field object "input").bind Json.asStr = some payload := by
      simpa [kind, payloadField] using carried
    have looked : lookedUp tool = .custom (tool.group.filter (· ≠ "")) tool.name := by
      obtain ⟨toolKind, toolGroup, toolName⟩ := tool
      cases toolGroup <;> simp_all [lookedUp, ToolIdentity.custom, Option.filter]
      split <;> simp_all
    simp [callType, input, upstreamArguments, kind, adaptedName, looked]
  | function =>
    have arguments : (Json.field object "arguments").bind Json.asStr = some payload := by
      simpa [kind, payloadField] using carried
    have reads : codec.reads payload = true := by simpa [kind] using valid
    rw [ToolIdentity.Formed, kind] at formed
    have looked : lookedUp tool = .function tool.name := by
      obtain ⟨toolKind, toolGroup, toolName⟩ := tool
      simp_all [lookedUp, ToolIdentity.function]
    simp [callType, arguments, normalize_reads trims reads, upstreamArguments, kind, adaptedName,
      looked, formed]
  | namespaceMember =>
    have arguments : (Json.field object "arguments").bind Json.asStr = some payload := by
      simpa [kind, payloadField] using carried
    have reads : codec.reads payload = true := by simpa [kind] using valid
    rw [ToolIdentity.Formed, kind] at formed
    obtain ⟨member, grouped⟩ := Option.isSome_iff_exists.1 formed
    by_cases blank : member = ""
    · simp [callType, arguments, normalize_reads trims reads, upstreamArguments, kind, adaptedName,
        lookedUp, grouped, blank, Option.filter]
    · have looked : lookedUp tool = .namespaceMember member tool.name := by
        obtain ⟨toolKind, toolGroup, toolName⟩ := tool
        simp_all [lookedUp, ToolIdentity.namespaceMember]
      simp [callType, arguments, normalize_reads trims reads, upstreamArguments, kind, adaptedName,
        looked, grouped, blank, Option.filter]

theorem restore_known {codec : JsonCodec}
    (reads : ∀ input, codec.readStream (codec.print (.object [("input", .string input)])) =
      [some (.object [("input", .string input)])])
    {registry : ToolAdapterRegistry} {tool : ToolIdentity} {upstream : String} (formed : tool.Formed)
    (found : registry.identity upstream = some tool) (callId payload : String) : ∃ restored,
      registry.restoreFunctionCall codec
        (chatToolCall callId upstream (upstreamArguments codec tool payload)) = .ok restored ∧
      restored.str "type" = some (callType tool.kind) ∧ restored.str "call_id" = some callId ∧
      restored.str "name" = some tool.name ∧ restored.str "namespace" = tool.group ∧
      restored.str (payloadField tool.kind) = some payload := by
  obtain ⟨kind, group, name⟩ := tool
  cases kind with
  | function =>
    have ungrouped : group = none := formed
    refine ⟨restoredCall "function_call" callId name [] [("arguments", .string payload)]
      (.string "completed"), ?_, ?_⟩
    · simp [restoreFunctionCall, chatToolCall, extractCallDetails, Json.asObject, Json.asStr, found,
        upstreamArguments]
    · simp [restoredCall, Json.str, Json.asStr, callType, payloadField, ungrouped]
  | namespaceMember =>
    refine ⟨restoredCall "function_call" callId name
      (groupField ⟨.namespaceMember, group, name⟩) [("arguments", .string payload)]
      (.string "completed"), ?_, ?_⟩
    · simp [restoreFunctionCall, chatToolCall, extractCallDetails, Json.asObject, Json.asStr, found,
        upstreamArguments]
    · cases group <;> simp [restoredCall, Json.str, Json.asStr, callType, payloadField, groupField]
  | custom =>
    refine ⟨restoredCall "custom_tool_call" callId name
      (groupField ⟨.custom, group, name⟩) [("input", .string payload)] (.string "completed"), ?_, ?_⟩
    · simp [restoreFunctionCall, chatToolCall, extractCallDetails, Json.asObject, Json.asStr, found,
        upstreamArguments, extractCustomInput, reads, Json.str]
    · cases group <;> simp [restoredCall, Json.str, Json.asStr, callType, payloadField, groupField]

-- A restored call with the type, the name and the namespace of a tool with a namespace is a call
-- of that tool.
theorem identity_of_restored {codec : JsonCodec} {registry : ToolAdapterRegistry}
    {callId upstream arguments : String} {restored : Json} {tool : ToolIdentity} {group : String}
    (restores : registry.restoreFunctionCall codec (chatToolCall callId upstream arguments) =
      .ok restored)
    (formed : tool.Formed) (grouped : tool.group = some group)
    (type : restored.str "type" = some (callType tool.kind))
    (name : restored.str "name" = some tool.name)
    (space : restored.str "namespace" = tool.group) :
    registry.identity upstream = some tool := by
  have details : extractCallDetails
      [("id", .string callId), ("type", .string "function"),
        ("function", .object [("name", .string upstream), ("arguments", .string arguments)])] =
      .ok (upstream, arguments) := by
    simp [extractCallDetails, Json.asObject, Json.asStr]
  simp only [restoreFunctionCall, chatToolCall, Json.asObject, details] at restores
  split at restores
  · cases restores
    simp [restoredCall, Json.str, grouped] at space
  · next identity found =>
    rw [found]
    obtain ⟨kind, other, known⟩ := identity
    obtain ⟨toolKind, toolGroup, toolName⟩ := tool
    cases grouped
    split at restores
    · cases restores
      simp [restoredCall, Json.str] at space
    · next same =>
      cases restores
      cases same
      cases toolKind <;> cases other <;>
        simp_all [restoredCall, Json.str, Json.asStr, callType, groupField, ToolIdentity.Formed]
    · next same =>
      cases same
      split at restores
      · cases restores
      · cases restores
        cases toolKind <;> cases other <;>
          simp_all [restoredCall, Json.str, Json.asStr, callType, groupField, ToolIdentity.Formed]

def sampleCall (codec : JsonCodec) (tool : ToolIdentity) : Json :=
  .object ([("type", .string (callType tool.kind)), ("name", .string tool.name),
    ("call_id", .string "call-1"),
    (payloadField tool.kind, .string (codec.print (.object [("input", .string "")])))] ++
    optionalField "namespace" (tool.group.map Json.string))

theorem sampleCall_call {codec : JsonCodec}
    (reads : ∀ input, codec.readStream (codec.print (.object [("input", .string input)])) =
      [some (.object [("input", .string input)])]) (tool : ToolIdentity) :
    CallOf codec tool (sampleCall codec tool) := by
  obtain ⟨kind, group, name⟩ := tool
  constructor
  · simp [sampleCall, Json.str, Json.asStr]
  · simp [sampleCall, Json.str, Json.asStr]
  · cases kind <;> cases group <;>
      simp [sampleCall, Json.str, Json.asStr, payloadField, optionalField]
  · exact ⟨"call-1", by simp [sampleCall, Json.str, Json.asStr]⟩
  · refine ⟨codec.print (.object [("input", .string "")]), ?_, .inr ?_⟩
    · cases kind <;> simp [sampleCall, Json.str, Json.asStr, payloadField]
    · simp [JsonCodec.reads, reads]

section RoundTrip

variable {codec : JsonCodec} (trims : codec.ReadsTrimmed)
  (reads : ∀ input, codec.readStream (codec.print (.object [("input", .string input)])) =
    [some (.object [("input", .string input)])])
  {registry : ToolAdapterRegistry} {tool : ToolIdentity} (formed : tool.Formed) (strict : Bool)

include trims reads formed

theorem roundTrips_of_identity (found : registry.identity (registry.adaptedName tool) = some tool) :
    RoundTrips codec strict registry tool := by
  intro item call
  obtain ⟨callId, payload, known, carried, adapted⟩ := adapt_call trims strict registry formed call
  obtain ⟨restored, restores, type, id, name, group, own⟩ :=
    restore_known reads formed found callId payload
  refine ⟨_, restored, adapted, restores, ?_⟩
  simp only [List.forall_mem_cons, List.not_mem_nil, IsEmpty.forall_iff, implies_true, and_true]
  exact ⟨type.trans call.type.symm, id.trans known.symm, name.trans call.name.symm,
    group.trans call.group.symm, own.trans carried.symm⟩

theorem identity_of_roundTrips {group : String} (grouped : tool.group = some group)
    (returns : RoundTrips codec strict registry tool) :
    registry.identity (registry.adaptedName tool) = some tool := by
  have call := sampleCall_call reads tool
  obtain ⟨callId, payload, -, -, adapts⟩ := adapt_call trims strict registry formed call
  obtain ⟨adapted, restored, known, restores, same⟩ := returns _ call
  rw [adapts] at known
  cases known
  exact identity_of_restored restores formed grouped
    ((same "type" (by simp)).trans call.type) ((same "name" (by simp)).trans call.name)
    ((same "namespace" (by simp)).trans call.group)

end RoundTrip

theorem lookedUp_below {tool : ToolIdentity} (formed : tool.Formed)
    (blank : tool.group = some "") :
    canonicalSortKey (lookedUp tool) < canonicalSortKey tool ∧
      (lookedUp tool).kind ≠ .namespaceMember ∧ (lookedUp tool).name = tool.name := by
  obtain ⟨kind, group, name⟩ := tool
  cases blank
  cases kind with
  | function => cases formed
  | custom =>
    refine ⟨?_, by simp [lookedUp, ToolIdentity.custom], by simp [lookedUp, ToolIdentity.custom]⟩
    refine Prod.Lex.lt_iff.2 (.inr ⟨rfl, Prod.Lex.lt_iff.2 (.inl ?_)⟩)
    exact WithBot.bot_lt_coe ""
  | namespaceMember =>
    refine ⟨?_, by simp [lookedUp, ToolIdentity.function],
      by simp [lookedUp, ToolIdentity.function]⟩
    exact Prod.Lex.lt_iff.2 (.inl (by simp [canonicalSortKey, lookedUp, ToolIdentity.function, kindRank]))

-- A tool of the empty namespace is called by its own name unless another tool is found there.
theorem adaptedName_blank {sha256 : Sha256} {declared : List ToolIdentity}
    {registry : ToolAdapterRegistry} (built : fromIdentities sha256 declared = .ok registry)
    {tool : ToolIdentity} (formed : tool.Formed) (blank : tool.group = some "") {name : String}
    (named : registry.upstreamName tool = some name) :
    registry.adaptedName tool = name ↔ name = tool.name := by
  obtain ⟨below, kind, same⟩ := lookedUp_below formed blank
  rw [adaptedName]
  cases found : registry.upstreamName (lookedUp tool) with
  | none => exact eq_comm
  | some other =>
    have known := (declared_iff_named built).2 ⟨other, found⟩
    have apart := upstreamName_ne_earlier built known kind below named
    rw [same] at apart
    refine iff_of_false (fun clash => ?_) apart
    have first := (identity_iff_upstreamName built).2 found
    have second := (identity_iff_upstreamName built).2 named
    rw [show other = name from clash, second] at first
    rw [← Option.some_inj.1 first] at below
    exact lt_irrefl _ below

theorem build_registry {codec : JsonCodec} {sha256 : Sha256} {tools : Json}
    {adaptation : ToolAdaptation}
    (built : build codec sha256 tools .functionsOnly = .ok adaptation) :
    fromIdentities sha256 (declaredTools codec tools) = .ok adaptation.registry ∧
      (∀ tool ∈ declaredTools codec tools, tool.Formed) ∧
      ∀ (tool : ToolIdentity) (name : String) (position : Nat),
        adaptation.registry.upstreamName tool = some name →
        (declaredTools codec tools)[position]? = some tool →
        adaptation.upstreamTools[position]?.bind functionName = some name := by
  unfold build at built
  split at built
  · cases built
  · next array listed =>
    split at built
    · cases built
    · next declarations parsed =>
      have aligned := parseTools_aligned parsed
      have declared : declaredTools codec tools = declarations.identities := by
        rw [declaredTools, listed, Option.getD_some, parsed]
      split at built
      · cases built
      · next registry named =>
        cases built
        rw [declared]
        refine ⟨named, aligned.formed, fun tool name position known here => ?_⟩
        simp only [reduceCtorEq, if_false, aligned.flattened]
        exact functionName_nameTools aligned.tools known here

theorem tool_calls_round_trip_iff (codec : JsonCodec) (trims : codec.ReadsTrimmed)
    (reads : ∀ input, codec.readStream (codec.print (.object [("input", .string input)])) =
      [some (.object [("input", .string input)])])
    (sha256 : Sha256) (strict : Bool) (tools : Json) (adaptation : ToolAdaptation)
    (built : build codec sha256 tools .functionsOnly = .ok adaptation) (tool : ToolIdentity)
    (declares : tool ∈ declaredTools codec tools) :
    ((RoundTrips codec strict adaptation.registry tool ∧
        OneName codec strict (declaredTools codec tools) adaptation tool) ↔
      KeepsOwnName sha256 (declaredTools codec tools) tool) ∧
    (RoundTrips codec strict adaptation.registry tool ↔
      tool.group ≠ some "" ∨ KeepsOwnName sha256 (declaredTools codec tools) tool) := by
  obtain ⟨registered, shapes, offered⟩ := build_registry built
  have formed := shapes tool declares
  have keeps := keepsOwnName_iff shapes registered declares
  obtain ⟨name, named⟩ := (declared_iff_named registered).1 declares
  have back := (identity_iff_upstreamName registered).2 named
  rw [named, Option.some_inj] at keeps
  have returns : RoundTrips codec strict adaptation.registry tool ↔
      tool.group ≠ some "" ∨ KeepsOwnName sha256 (declaredTools codec tools) tool := by
    rw [← keeps]
    by_cases blank : tool.group = some ""
    · simp only [blank, ne_eq, not_true_eq_false, false_or]
      rw [← adaptedName_blank registered formed blank named]
      constructor
      · intro kept
        have found := identity_of_roundTrips trims reads formed strict blank kept
        have again := (identity_iff_upstreamName registered).1 found
        rw [named, Option.some_inj] at again
        exact again.symm
      · intro same
        exact roundTrips_of_identity trims reads formed strict (by rw [same]; exact back)
    · refine iff_of_true (roundTrips_of_identity trims reads formed strict ?_) (.inl blank)
      rw [adaptedName, lookedUp, if_neg blank, named]
      exact back
  refine ⟨⟨?_, ?_⟩, returns⟩
  · rintro ⟨-, one, offers, -, chooses⟩
    obtain ⟨position, here⟩ := List.getElem?_of_mem declares
    have first := offers position here
    rw [offered tool name position named here, Option.some_inj] at first
    obtain ⟨adapted, known, second⟩ := chooses
      (.object [("name", .string tool.name)]) ⟨_, rfl, by simp [toolChoiceName, Json.asStr]⟩
    obtain ⟨again, adapts, own⟩ := @adaptToolChoice_name codec _ _ _ registered tool
      (.object [("name", .string tool.name)]) ⟨_, rfl, by simp [toolChoiceName, Json.asStr]⟩
    rw [adapts] at known
    cases known
    rw [own, Option.some_inj] at second
    exact keeps.1 (first.trans second.symm)
  · intro kept
    have own := keeps.2 kept
    refine ⟨returns.2 (.inr kept), name, fun position here => offered tool name position named here,
      fun item call => ?_, fun choice chosen => ?_⟩
    · obtain ⟨callId, payload, -, -, adapted⟩ :=
        adapt_call trims strict adaptation.registry formed call
      refine ⟨_, adapted, ?_⟩
      have called : adaptation.registry.adaptedName tool = name := by
        by_cases blank : tool.group = some ""
        · exact (adaptedName_blank registered formed blank named).2 own
        · rw [adaptedName, lookedUp, if_neg blank, named]
          rfl
      rw [called]
      simp [functionName, chatToolCall, Json.str, Json.asStr]
    · obtain ⟨adapted, adapts, chosenName⟩ := adaptToolChoice_name registered chosen
      exact ⟨adapted, adapts, by rw [chosenName, own]⟩

end ToolAdapterRegistry

def hexValue (digit : Char) : Nat :=
  if digit.isDigit then digit.toNat - 48 else digit.toNat - 87

def escapedLetter (mark : Char) : Char :=
  if mark = 'n' then '\n'
  else if mark = 'r' then '\r'
  else if mark = 't' then '\t'
  else if mark = 'b' then Char.ofNat 8
  else if mark = 'f' then Char.ofNat 12
  else mark

def readQuoted : Text → Option (Text × Text)
  | [] => none
  | '"' :: rest => some ([], rest)
  | '\\' :: 'u' :: '0' :: '0' :: high :: low :: rest =>
    (readQuoted rest).map fun read =>
      (Char.ofNat (hexValue high * 16 + hexValue low) :: read.1, read.2)
  | '\\' :: mark :: rest =>
    (readQuoted rest).map fun read => (escapedLetter mark :: read.1, read.2)
  | letter :: rest => (readQuoted rest).map fun read => (letter :: read.1, read.2)

theorem readQuoted_escape (letter : Char) (rest : Text) :
    readQuoted (serdeEscape letter ++ rest) =
      (readQuoted rest).map fun read => (letter :: read.1, read.2) := by
  unfold serdeEscape
  split_ifs with quote backslash feed back tab eight twelve control
  · subst quote
    rfl
  · subst backslash
    rfl
  · subst feed
    rfl
  · subst back
    rfl
  · subst tab
    rfl
  · rw [show letter = Char.ofNat 8 by rw [← eight, Char.ofNat_toNat]]
    rfl
  · rw [show letter = Char.ofNat 12 by rw [← twelve, Char.ofNat_toNat]]
    rfl
  · have same : letter = Char.ofNat letter.toNat := (Char.ofNat_toNat letter).symm
    generalize letter.toNat = code at *
    subst same
    have digits : ∀ code < 32, Char.ofNat (hexValue (Nat.digitChar (code / 16)) * 16 +
        hexValue (Nat.digitChar (code % 16))) = Char.ofNat code := by
      decide
    simp only [List.cons_append, List.nil_append, readQuoted, digits code control]
  · simp only [List.cons_append, List.nil_append]
    rw [readQuoted]
    · exact quote
    · exact fun _ _ _ same => absurd same backslash
    · exact fun _ _ same => absurd same backslash

theorem readQuoted_escaped (text rest : Text) :
    readQuoted (text.flatMap serdeEscape ++ '"' :: rest) = some (text, rest) := by
  induction text with
  | nil => simp [readQuoted]
  | cons letter more ih =>
    rw [List.flatMap_cons, List.append_assoc, readQuoted_escape, ih]
    rfl

def readInput (text : String) : List (Option Json) :=
  match text.toList with
  | '\x7b' :: '"' :: 'i' :: 'n' :: 'p' :: 'u' :: 't' :: '"' :: ':' :: '"' :: rest =>
    match readQuoted rest with
    | some (input, ['\x7d']) => [some (.object [("input", .string (String.ofList input))])]
    | _ => [none]
  | _ => [none]

def inputCodec : JsonCodec := serdeCodec readInput

theorem readQuoted_suffix {text input rest : Text} (read : readQuoted text = some (input, rest)) :
    rest <:+ text := by
  fun_induction readQuoted text generalizing input with
  | case1 => cases read
  | case2 rest' =>
    cases read
    exact List.suffix_cons _ _
  | case3 high low behind ih =>
    obtain ⟨known, found, same⟩ := Option.map_eq_some_iff.1 read
    cases same
    exact (ih found).trans ⟨['\\', 'u', '0', '0', high, low], rfl⟩
  | case4 mark behind _ ih =>
    obtain ⟨known, found, same⟩ := Option.map_eq_some_iff.1 read
    cases same
    exact (ih found).trans ⟨['\\', mark], rfl⟩
  | case5 letter behind _ _ _ ih =>
    obtain ⟨known, found, same⟩ := Option.map_eq_some_iff.1 read
    cases same
    exact (ih found).trans (List.suffix_cons _ _)

theorem inputCodec_reads (input : String) :
    inputCodec.readStream (inputCodec.print (.object [("input", .string input)])) =
      [some (.object [("input", .string input)])] := by
  have printed : (inputCodec.print (.object [("input", .string input)])).toList =
      "\x7b\"input\":\"".toList ++ (input.toList.flatMap serdeEscape ++ ['"', '\x7d']) := by
    rw [inputCodec, serdeCodec_compact]
    simp [JsonCodec.quote, serdeCodec]
  change readInput _ = _
  rw [readInput, printed]
  simp [readQuoted_escaped]

theorem inputCodec_readsTrimmed : inputCodec.ReadsTrimmed where
  trimmed := by
    intro text whole
    -- What is read starts with one brace and ends with the other, so there is nothing to trim.
    have same : Text.trim text.toList = text.toList := by
      unfold JsonCodec.reads inputCodec serdeCodec readInput at whole
      dsimp only at whole
      split at whole
      · next found reading =>
        split at reading
        · next rest start =>
          split at reading
          · next input read =>
            obtain ⟨front, rfl⟩ := readQuoted_suffix read
            rw [start]
            simp [Text.trim, Text.isWhitespace]
          · cases reading
        · cases reading
      · cases whole
    rw [same, String.ofList_toList]
    exact whole
  blank := by decide

def spawnDigest : Sha256 where
  hex _ := "e2ac49b3cadc6085fa22ed4045020a406862217e1f87f756f559f31953341376".toList
  hex_length _ := by decide

def patchTools : Json :=
  .array [.object [("type", .string "custom"), ("name", .string "apply_patch")]]

def spawnTools : Json :=
  .array [.object [("type", .string "namespace"), ("name", .string "multi_agent_v1"),
    ("tools", .array [.object [("type", .string "function"), ("name", .string "spawn_agent")]])]]

theorem tool_calls_round_trip_patch : ∃ adaptation,
    ToolAdapterRegistry.build inputCodec spawnDigest patchTools .functionsOnly = .ok adaptation ∧
    RoundTrips inputCodec true adaptation.registry (.custom none "apply_patch") ∧
    OneName inputCodec true (declaredTools inputCodec patchTools) adaptation
      (.custom none "apply_patch") := by
  have declared : declaredTools inputCodec patchTools = [.custom none "apply_patch"] := by
    decide +kernel
  refine ⟨_, rfl, ?_⟩
  refine ((ToolAdapterRegistry.tool_calls_round_trip_iff inputCodec inputCodec_readsTrimmed
    inputCodec_reads spawnDigest true patchTools _ rfl (.custom none "apply_patch") ?_).1).2 ?_
  · rw [declared]
    exact List.mem_singleton_self _
  · rw [declared]
    change "apply_patch" ∉ namesBefore spawnDigest _ _
    decide +kernel

def spawnChoice : Json :=
  .object [("type", .string "function"), ("name", .string "spawn_agent")]

-- The member is declared by a generated name, and a choice that forces it keeps the client's.
theorem forced_member_keeps_client_name : ∃ adaptation,
    ToolAdapterRegistry.build inputCodec spawnDigest spawnTools .functionsOnly = .ok adaptation ∧
    .namespaceMember "multi_agent_v1" "spawn_agent" ∈ declaredTools inputCodec spawnTools ∧
    adaptation.upstreamTools.map functionName =
      [some "gw_multi_agent_v1__spawn_agent_e2ac49b3cadc"] ∧
    ((adaptation.registry.adaptToolChoice inputCodec spawnChoice).toOption.bind choiceName) =
      some "spawn_agent" ∧
    ¬ OneName inputCodec true (declaredTools inputCodec spawnTools) adaptation
      (.namespaceMember "multi_agent_v1" "spawn_agent") := by
  have declared : declaredTools inputCodec spawnTools =
      [.namespaceMember "multi_agent_v1" "spawn_agent"] := by
    decide +kernel
  refine ⟨_, rfl, by simp [declared], by decide +kernel, by decide +kernel, ?_⟩
  rintro ⟨name, offers, -, chooses⟩
  have first := offers 0 (by rw [declared]; rfl)
  obtain ⟨adapted, known, second⟩ := chooses spawnChoice ⟨_, rfl, rfl⟩
  cases known
  have clash := first.trans second.symm
  revert clash
  decide +kernel

end ChatGateway
