import ChatGateway.Protocol.Content
import ChatGateway.Shared.OrderedMap

set_option autoImplicit false

/-!
# Responses events as Chat chunks

`ResponsesToChatState` turns the events of a Responses stream into Chat Completions chunks. Each
function below returns the state it leaves and the chunks it pushes; an error ends the stream, so
no state is kept with it.
-/

namespace ChatGateway

inductive ResponseOutputItemKind where
  | message
  | agentMessage
  | functionCall
  | customToolCall
  | reasoning
deriving DecidableEq, Repr

def responseOutputItemKind (object : List (String × Json)) :
    Except ProtocolError ResponseOutputItemKind :=
  match (Json.field object "type").bind Json.asStr with
  | some "message" => .ok .message
  | some "agent_message" => .ok .agentMessage
  | some "function_call" => .ok .functionCall
  | some "custom_tool_call" => .ok .customToolCall
  | some "reasoning" => .ok .reasoning
  | some _ => .error (.invalidPayload "unsupported responses output item type")
  | none =>
    if ["role", "content", "tool_calls", "tool_call_id"].any
        fun key => (Json.field object key).isSome then
      .ok .message
    else .error (.invalidPayload "unsupported responses output item")

inductive ToolArgumentsRepairReason where
  | trailingData
  | unparseable
deriving DecidableEq, Repr

def lastTrailingObject : List (Option Json) → Option Json → Option Json
  | [], found => found
  | none :: _, found => found
  | some value :: rest, found =>
    lastTrailingObject rest (if value.asObject.isSome then some value else found)

def normalizeToolArguments (codec : JsonCodec) (raw : String) :
    String × Option ToolArgumentsRepairReason :=
  let trimmed := Text.trim raw.toList
  if trimmed.isEmpty then ("\x7b\x7d", none)
  else
    match codec.readStream (String.ofList trimmed) with
    | [] => ("\x7b\x7d", none)
    | none :: _ => (raw, some .unparseable)
    | some _ :: [] => (raw, none)
    | some first :: trailing =>
      (codec.print ((lastTrailingObject trailing none).getD first), some .trailingData)

def normalizeToolArgumentsForRequest (codec : JsonCodec) (raw : String) (strict : Bool)
    (callId : String) : Except ProtocolError String :=
  let (normalized, repair) := normalizeToolArguments codec raw
  if strict && repair = some .unparseable then
    .error (.invalidPayload ("tool call `" ++ callId ++
      "` has arguments that are not valid JSON (tool_arguments_strict)"))
  else .ok normalized

def responseCallIdentity (object : List (String × Json)) : Except ProtocolError (String × String) :=
  match ((Json.field object "call_id").or (Json.field object "id")).bind Json.asStr with
  | none => .error (.missingField "call_id")
  | some callId =>
    match (Json.field object "name").bind Json.asStr with
    | none => .error (.missingField "name")
    | some name => .ok (callId, name)

def chatToolCall (callId name arguments : String) : Json :=
  .object
    [("id", .string callId), ("type", .string "function"),
      ("function", .object [("name", .string name), ("arguments", .string arguments)])]

section Items

variable (codec : JsonCodec)

def responseFunctionCallItemToChatToolCall (object : List (String × Json))
    (toolRegistry : Option ToolAdapterRegistry) (strict : Bool) : Except ProtocolError Json :=
  match responseCallIdentity object with
  | .error error => .error error
  | .ok (callId, originalName) =>
    let name := responseChatToolName object originalName toolRegistry
    let rawArguments := ((Json.field object "arguments").bind Json.asStr).getD "\x7b\x7d"
    match normalizeToolArgumentsForRequest codec rawArguments strict callId with
    | .error error => .error error
    | .ok arguments => .ok (chatToolCall callId name arguments)

def responseCustomToolCallItemToChatToolCall (object : List (String × Json))
    (toolRegistry : Option ToolAdapterRegistry) : Except ProtocolError Json :=
  match responseCallIdentity object with
  | .error error => .error error
  | .ok (callId, originalName) =>
    let name := responseChatToolName object originalName toolRegistry
    match (Json.field object "input").bind Json.asStr with
    | none => .error (.missingField "input")
    | some input =>
      .ok (chatToolCall callId name (codec.print (.object [("input", .string input)])))

def messageToolCall (toolCall : Json) : Except ProtocolError Json :=
  match toolCall.asObject with
  | none => .error (.invalidPayload "unsupported tool call")
  | some object => responseFunctionCallItemToChatToolCall codec object none false

def responseOutputMessageObjectToChatMessage (object : List (String × Json)) :
    Except ProtocolError Json :=
  let role := (Json.field object "role").bind Json.asStr
  if role.any (· ≠ "assistant") then
    .error (.invalidPayload ("unsupported responses output role: " ++ role.getD ""))
  else
    let converted :=
      match Json.field object "content" with
      | some content => responsesContentToChatContent codec content
      | none => .ok .null
    match converted with
    | .error error => .error error
    | .ok content =>
      let toolCalls := ((Json.field object "tool_calls").bind Json.asArray).getD []
      match toolCalls.mapM (messageToolCall codec) with
      | .error error => .error error
      | .ok calls =>
        .ok (.object ([("role", .string "assistant"), ("content", content)] ++
          if calls.isEmpty then [] else [("tool_calls", .array calls)]))

def responseOutputMessageItemToChatMessage (object : List (String × Json)) :
    Except ProtocolError Json :=
  if (Json.field object "type").bind Json.asStr = some "agent_message" then
    agentMessageObjectToChatMessage codec object
  else responseOutputMessageObjectToChatMessage codec object

end Items

structure ResponsesToolCallState where
  itemId : String
  callId : String
  name : Option String
  arguments : String := ""
  addedEmitted : Bool := false
  customInput : Bool
  customInputValue : String := ""
  customInputClosed : Bool := false
deriving DecidableEq, Repr

structure ResponsesToChatState where
  responseId : Option String := none
  model : Option String := none
  createdAt : Option Nat := none
  assistantRoleEmitted : Bool := false
  completedEmitted : Bool := false
  assistantMessageOutputIndex : Option Nat := none
  text : String := ""
  textOutputEmitted : Bool := false
  textOutputDone : Bool := false
  agentMessageContentEmitted : Bool := false
  pendingAgentMessage : Option (List (String × Json)) := none
  toolCalls : OrderedMap Nat ResponsesToolCallState := {}
  toolRegistry : Option ToolAdapterRegistry := none

structure ChatStamp where
  responseId : String
  createdAt : Nat

def makeChatCompletionChunk (responseId : String) (createdAt : Nat) (model : String) (delta : Json)
    (finishReason : Option String) : Json :=
  .object
    [("id", .string responseId), ("object", .string "chat.completion.chunk"),
      ("created", .ofNat createdAt), ("model", .string model),
      ("choices", .array
        [.object
          [("index", .ofNat 0), ("delta", delta),
            ("finish_reason", (finishReason.map Json.string).getD .null)]])]

def jsonStringFragment (codec : JsonCodec) (value : String) : String :=
  String.ofList (codec.quote value).toList.tail.dropLast

namespace ResponsesToChatState

section Translation

variable (stamp : ChatStamp)

def initializeMetadata (state : ResponsesToChatState) (event : Json) : ResponsesToChatState :=
  let response := (event.get "response").filter fun response => response.asObject.isSome
  { state with
    responseId := state.responseId.or
      (((event.str "response_id").or (response.bind (·.str "id"))).or (some stamp.responseId))
    model := state.model.or ((event.str "model").or (response.bind (·.str "model")))
    createdAt := state.createdAt.or
      ((event.u64 "created").or (response.bind (·.u64 "created_at"))) }

-- `response_id_value`, `model_value` and `created_at_value`: the first and the last fill in what
-- is missing.
def stamped (state : ResponsesToChatState) : ResponsesToChatState :=
  { state with
    responseId := some (state.responseId.getD stamp.responseId)
    createdAt := some (state.createdAt.getD stamp.createdAt) }

def chunk (state : ResponsesToChatState) (delta : Json) (finishReason : Option String) : Json :=
  makeChatCompletionChunk (state.responseId.getD stamp.responseId)
    (state.createdAt.getD stamp.createdAt) (state.model.getD "") delta finishReason

def ensureSingleAssistantMessageOutputIndex (state : ResponsesToChatState) (outputIndex : Nat) :
    Except ProtocolError ResponsesToChatState :=
  match state.assistantMessageOutputIndex with
  | some existing =>
    if existing = outputIndex then .ok state
    else
      .error (.invalidPayload "multiple assistant messages are not supported when translating Responses streams to chat payloads")
  | none => .ok { state with assistantMessageOutputIndex := some outputIndex }

def emitAssistantRole (state : ResponsesToChatState) : ResponsesToChatState × List Json :=
  if state.assistantRoleEmitted then (state, [])
  else
    ({ state.stamped stamp with assistantRoleEmitted := true },
      [state.chunk stamp (.object [("role", .string "assistant"), ("content", .string "")]) none])

def emitOutputTextDelta (state : ResponsesToChatState) (event : Json) :
    Except ProtocolError (ResponsesToChatState × List Json) :=
  match event.str "delta" with
  | none => .error (.missingField "delta")
  | some delta =>
    if state.agentMessageContentEmitted then .ok (state, [])
    else if state.textOutputDone then .ok (state, [])
    else
      .ok
        ({ state.stamped stamp with
            text := state.text ++ delta
            textOutputEmitted := state.textOutputEmitted || delta ≠ "" },
          [state.chunk stamp (.object [("content", .string delta)]) none])

/-- The part of a complete text that was not emitted before: the code takes the text last seen for
a beginning of it. -/
def missingText (state : ResponsesToChatState) (text : String) : String :=
  if state.textOutputEmitted then
    ((text.toList.dropPrefix? state.text.toList).map String.ofList).getD text
  else text

def emitCompleteText (state : ResponsesToChatState) (text : String) :
    ResponsesToChatState × List Json :=
  let suffix := state.missingText text
  let seen := { state with
    text
    textOutputEmitted := state.textOutputEmitted || text ≠ "" }
  if suffix = "" then (seen, [])
  else (seen.stamped stamp, [state.chunk stamp (.object [("content", .string suffix)]) none])

def emitOutputTextDone (state : ResponsesToChatState) (event : Json) :
    ResponsesToChatState × List Json :=
  let emitted :=
    match event.str "text" with
    | some text => state.emitCompleteText stamp text
    | none => (state, [])
  ({ emitted.1 with textOutputDone := true }, emitted.2)

def toolCallChunk (state : ResponsesToChatState) (outputIndex : Nat) (callId : String)
    (function : List (String × Json)) : Json :=
  state.chunk stamp
    (.object
      [("tool_calls", .array
        [.object
          [("index", .ofNat outputIndex), ("id", .string callId), ("type", .string "function"),
            ("function", .object function)]])])
    none

def findToolCallIndexByItemId (state : ResponsesToChatState) (itemId : Option String) :
    Option Nat :=
  itemId.bind fun itemId =>
    (state.toolCalls.entries.find? fun entry => entry.2.itemId = itemId).map (·.1)

def eventToolCallIndex (state : ResponsesToChatState) (event : Json) : Nat :=
  ((event.u64 "output_index").or (state.findToolCallIndexByItemId (event.str "item_id"))).getD 0

variable (codec : JsonCodec)

/-- The entry after an `output_item.added` event, and whether its first chunk is due. -/
def addToolCallItem (entry : ResponsesToolCallState) (itemId callId name : String)
    (customInput : Option (Option String)) (arguments : String) :
    ResponsesToolCallState × Bool :=
  let named := { entry with
    itemId := if entry.itemId = "" then itemId else entry.itemId
    callId := if entry.callId = "" then callId else entry.callId
    name := if entry.name.isNone && name ≠ "" then some name else entry.name }
  let held :=
    match customInput with
    | none => named
    | some input => { named with
        customInput := true
        customInputValue := input.getD named.customInputValue }
  ({ held with arguments := held.arguments ++ arguments, addedEmitted := true },
    !entry.addedEmitted)

def emitFunctionCallItemAdded (state : ResponsesToChatState) (event : Json)
    (item : List (String × Json)) : Except ProtocolError (ResponsesToChatState × List Json) :=
  let outputIndex := (event.u64 "output_index").getD 0
  match (Json.field item "id").bind Json.asStr with
  | none => .error (.missingField "item.id")
  | some itemId =>
    let callId := ((Json.field item "call_id").bind Json.asStr).getD itemId
    let originalName := ((Json.field item "name").bind Json.asStr).getD ""
    let name := responseChatToolName item originalName state.toolRegistry
    let isCustom := (Json.field item "type").bind Json.asStr = some "custom_tool_call"
    let input := (Json.field item "input").bind Json.asStr
    let arguments :=
      if isCustom then "\x7b\"input\":\"" ++ jsonStringFragment codec (input.getD "")
      else ((Json.field item "arguments").bind Json.asStr).getD ""
    let entry := (state.toolCalls.find? outputIndex).getD
      { itemId, callId, name := some name, customInput := isCustom }
    let (added, due) := addToolCallItem entry itemId callId name
      (if isCustom then some input else none) arguments
    let stored := { state.stamped stamp with toolCalls := state.toolCalls.put outputIndex added }
    .ok (stored,
      if due then
        [state.toolCallChunk stamp outputIndex added.callId
          [("name", .string (added.name.getD "")), ("arguments", .string added.arguments)]]
      else [])

def emitFunctionCallArgumentsDelta (state : ResponsesToChatState) (event : Json) :
    Except ProtocolError (ResponsesToChatState × List Json) :=
  let outputIndex := state.eventToolCallIndex event
  match event.str "delta" with
  | none => .error (.missingField "delta")
  | some delta =>
    let mappedName := event.asObject.bind fun object =>
      (event.str "name").map fun name => responseChatToolName object name state.toolRegistry
    let isCustom := event.str "type" = some "response.custom_tool_call_input.delta"
    let unnamed := "call-" ++ toString outputIndex
    let entry := (state.toolCalls.find? outputIndex).getD
      { itemId := (event.str "item_id").getD unnamed
        callId := (event.str "call_id").getD unnamed
        name := mappedName
        customInput := isCustom }
    let fragment := if isCustom then jsonStringFragment codec delta else delta
    let opening := if isCustom && entry.arguments = "" then "\x7b\"input\":\"" else ""
    let extended := { entry with
      customInput := entry.customInput || isCustom
      customInputValue := if isCustom then entry.customInputValue ++ delta else entry.customInputValue
      name := entry.name.or mappedName
      arguments := entry.arguments ++ opening ++ fragment }
    .ok ({ state.stamped stamp with toolCalls := state.toolCalls.put outputIndex extended },
      [state.toolCallChunk stamp outputIndex extended.callId
        [("name", .string (extended.name.getD "")), ("arguments", .string fragment)]])

-- The done event of a function call emits nothing.
def emitFunctionCallArgumentsDone (state : ResponsesToChatState) (event : Json) :
    ResponsesToChatState :=
  let outputIndex := state.eventToolCallIndex event
  match state.toolCalls.find? outputIndex with
  | none => state
  | some entry =>
    let finished := { entry with
      arguments := (event.str "arguments").getD entry.arguments
      name := (event.str "name").or entry.name }
    { state with toolCalls := state.toolCalls.put outputIndex finished }

def emitCustomToolCallInputDone (state : ResponsesToChatState) (event : Json) :
    Except ProtocolError (ResponsesToChatState × List Json) :=
  let outputIndex := state.eventToolCallIndex event
  match event.str "input" with
  | none => .error (.missingField "input")
  | some input =>
    match state.toolCalls.find? outputIndex with
    | none => .error (.missingField "custom_tool_call")
    | some entry =>
      if !entry.customInput then
        .error (.invalidPayload "custom tool input event did not have a custom tool call")
      else
        match input.toList.dropPrefix? entry.customInputValue.toList with
        | none => .error (.invalidPayload "custom tool input delta mismatch")
        | some missing =>
          let changed := entry.customInputValue ≠ input
          let fragment := if changed then jsonStringFragment codec (String.ofList missing) else ""
          let opening := if changed && entry.arguments = "" then "\x7b\"input\":\"" else ""
          let suffix := if entry.customInputClosed then "" else "\"\x7d"
          let closed := { entry with
            customInputValue := input
            arguments := entry.arguments ++ opening ++ fragment ++ suffix
            customInputClosed := true }
          let stored := { state with toolCalls := state.toolCalls.put outputIndex closed }
          if fragment = "" && suffix = "" then .ok (stored, [])
          else
            .ok (stored.stamped stamp,
              [state.toolCallChunk stamp outputIndex entry.callId
                [("arguments", .string (fragment ++ suffix))]])

def emitAgentMessageContentIfNeeded (state : ResponsesToChatState) (item : List (String × Json)) :
    Except ProtocolError (ResponsesToChatState × List Json) :=
  match agentMessageObjectToChatMessage codec item with
  | .error error => .error error
  | .ok message =>
    match message.get "content" with
    | none => .ok (state, [])
    | some content =>
      let text := visibleChatContentText content
      if text = "" then .ok (state, [])
      else
        let emitted := state.emitCompleteText stamp text
        .ok ({ emitted.1 with agentMessageContentEmitted := true }, emitted.2)

def emitOutputItemDone (state : ResponsesToChatState) (event : Json) :
    Except ProtocolError (ResponsesToChatState × List Json) :=
  match (event.get "item").bind Json.asObject with
  | none => .ok (state, [])
  | some item =>
    match responseOutputItemKind item with
    | .error error => .error error
    | .ok .functionCall => .ok (state.emitFunctionCallArgumentsDone event, [])
    | .ok .customToolCall =>
      let fields := Json.setField (event.asObject.getD []) "item_id"
        ((Json.field item "id").getD .null)
      let normalized :=
        match Json.field item "input" with
        | some input => Json.setField fields "input" input
        | none => fields
      state.emitCustomToolCallInputDone stamp codec (.object normalized)
    | .ok .reasoning => .ok (state, [])
    | .ok kind =>
      match responseOutputMessageItemToChatMessage codec item with
      | .error error => .error error
      | .ok _ =>
        match state.ensureSingleAssistantMessageOutputIndex ((event.u64 "output_index").getD 0) with
        | .error error => .error error
        | .ok single =>
          if kind = .agentMessage then
            match emitAgentMessageContentIfNeeded stamp codec
                { single with pendingAgentMessage := none } item with
            | .error error => .error error
            | .ok emitted => .ok (emitted.1.emitFunctionCallArgumentsDone event, emitted.2)
          else .ok (single.emitFunctionCallArgumentsDone event, [])

def firstAgentMessage : Nat → List Json → Except ProtocolError (Option (Nat × List (String × Json)))
  | _, [] => .ok none
  | position, item :: rest =>
    match item.asObject with
    | none => firstAgentMessage (position + 1) rest
    | some object =>
      match responseOutputItemKind object with
      | .error error => .error error
      | .ok .agentMessage => .ok (some (position, object))
      | .ok _ => firstAgentMessage (position + 1) rest

def responseOutput (event : Json) : Option (List Json) :=
  (((event.get "response").bind Json.asObject).bind (Json.field · "output")).bind Json.asArray

def emitCompletedAgentMessageContent (state : ResponsesToChatState) (event : Json) :
    Except ProtocolError (ResponsesToChatState × List Json) :=
  if state.agentMessageContentEmitted then .ok (state, [])
  else
    match responseOutput event with
    | none => .ok (state, [])
    | some items =>
      match firstAgentMessage 0 items with
      | .error error => .error error
      | .ok none => .ok (state, [])
      | .ok (some (outputIndex, object)) =>
        match state.ensureSingleAssistantMessageOutputIndex outputIndex with
        | .error error => .error error
        | .ok single =>
          emitAgentMessageContentIfNeeded stamp codec
            { single with pendingAgentMessage := none } object

def validateItems : Nat → List Json → Except ProtocolError Unit
  | _, [] => .ok ()
  | messages, item :: rest =>
    match item.asObject with
    | none => .error (.invalidPayload "unsupported responses output item")
    | some object =>
      match responseOutputItemKind object with
      | .error error => .error error
      | .ok .functionCall =>
        match responseFunctionCallItemToChatToolCall codec object none false with
        | .error error => .error error
        | .ok _ => validateItems messages rest
      | .ok .customToolCall =>
        match responseCustomToolCallItemToChatToolCall codec object none with
        | .error error => .error error
        | .ok _ => validateItems messages rest
      | .ok .reasoning => validateItems messages rest
      | .ok _ =>
        match responseOutputMessageItemToChatMessage codec object with
        | .error error => .error error
        | .ok _ =>
          if 1 < messages + 1 then
            .error (.invalidPayload "multiple assistant messages are not supported when translating Responses payloads to chat payloads")
          else validateItems (messages + 1) rest

def validateCompletedResponseOutput (event : Json) : Except ProtocolError Unit :=
  validateItems codec 0 ((responseOutput event).getD [])

def emitPending (state : ResponsesToChatState) :
    Except ProtocolError (ResponsesToChatState × List Json) :=
  match state.pendingAgentMessage with
  | none => .ok (state, [])
  | some item =>
    emitAgentMessageContentIfNeeded stamp codec { state with pendingAgentMessage := none } item

def finish (state : ResponsesToChatState) :
    Except ProtocolError (ResponsesToChatState × List Json) :=
  if state.completedEmitted then .ok (state, [])
  else
    let (greeted, role) := state.emitAssistantRole stamp
    match greeted.emitPending stamp codec with
    | .error error => .error error
    | .ok (emitted, content) =>
      let finishReason := if emitted.toolCalls.isEmpty then "stop" else "tool_calls"
      .ok ({ emitted.stamped stamp with completedEmitted := true },
        role ++ content ++ [emitted.chunk stamp (.object []) (some finishReason)])

def translateItemAdded (state : ResponsesToChatState) (event : Json) :
    Except ProtocolError (ResponsesToChatState × List Json) :=
  match (event.get "item").bind Json.asObject with
  | none => .ok (state, [])
  | some item =>
    match responseOutputItemKind item with
    | .error error => .error error
    | .ok .reasoning => .ok (state, [])
    | .ok .functionCall | .ok .customToolCall =>
      let (greeted, role) := state.emitAssistantRole stamp
      match emitFunctionCallItemAdded stamp codec greeted event item with
      | .error error => .error error
      | .ok (added, chunks) => .ok (added, role ++ chunks)
    | .ok kind =>
      match responseOutputMessageItemToChatMessage codec item with
      | .error error => .error error
      | .ok _ =>
        match state.ensureSingleAssistantMessageOutputIndex ((event.u64 "output_index").getD 0) with
        | .error error => .error error
        | .ok single =>
          let (greeted, role) := single.emitAssistantRole stamp
          .ok
            (if kind = .agentMessage then { greeted with pendingAgentMessage := some item }
              else greeted, role)

def afterRole (state : ResponsesToChatState)
    (emit : ResponsesToChatState → Except ProtocolError (ResponsesToChatState × List Json)) :
    Except ProtocolError (ResponsesToChatState × List Json) :=
  let (greeted, role) := state.emitAssistantRole stamp
  match emit greeted with
  | .error error => .error error
  | .ok (emitted, chunks) => .ok (emitted, role ++ chunks)

def atMessage (event : Json)
    (emit : ResponsesToChatState → Except ProtocolError (ResponsesToChatState × List Json))
    (state : ResponsesToChatState) : Except ProtocolError (ResponsesToChatState × List Json) :=
  match state.ensureSingleAssistantMessageOutputIndex ((event.u64 "output_index").getD 0) with
  | .error error => .error error
  | .ok single => emit single

def translateCompleted (event : Json) (state : ResponsesToChatState) :
    Except ProtocolError (ResponsesToChatState × List Json) :=
  match validateCompletedResponseOutput codec event with
  | .error error => .error error
  | .ok () =>
    match emitCompletedAgentMessageContent stamp codec state event with
    | .error error => .error error
    | .ok (emitted, content) =>
      match emitted.finish stamp codec with
      | .error error => .error error
      | .ok (finished, chunks) => .ok (finished, content ++ chunks)

def translateEvent (state : ResponsesToChatState) (event : Json) :
    Except ProtocolError (ResponsesToChatState × List Json) :=
  match event.str "type" with
  | none => .ok (state, [])
  | some eventType =>
    let known := state.initializeMetadata stamp event
    match eventType with
    | "response.created" => known.afterRole stamp fun greeted => .ok (greeted, [])
    | "response.output_item.added" => translateItemAdded stamp codec known event
    | "response.output_text.delta" =>
      known.afterRole stamp (atMessage event (emitOutputTextDelta stamp · event))
    | "response.output_text.done" =>
      known.afterRole stamp (atMessage event fun single => .ok (single.emitOutputTextDone stamp event))
    | "response.function_call_arguments.delta" | "response.custom_tool_call_input.delta" =>
      known.afterRole stamp (emitFunctionCallArgumentsDelta stamp codec · event)
    | "response.function_call_arguments.done" =>
      known.afterRole stamp fun greeted => .ok (greeted.emitFunctionCallArgumentsDone event, [])
    | "response.custom_tool_call_input.done" =>
      known.afterRole stamp (emitCustomToolCallInputDone stamp codec · event)
    | "response.output_item.done" =>
      known.afterRole stamp (emitOutputItemDone stamp codec · event)
    | "response.completed" => known.afterRole stamp (translateCompleted stamp codec event)
    | _ => .ok (known, [])

def translateFrom : ResponsesToChatState → List Json → Except ProtocolError (List Json)
  | state, [] => (state.finish stamp codec).map (·.2)
  | state, event :: rest =>
    match state.translateEvent stamp codec event with
    | .error error => .error error
    | .ok (next, chunks) =>
      match translateFrom next rest with
      | .error error => .error error
      | .ok later => .ok (chunks ++ later)

end Translation

end ResponsesToChatState

end ChatGateway
