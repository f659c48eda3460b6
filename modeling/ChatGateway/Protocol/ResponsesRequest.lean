import ChatGateway.Capabilities.Types
import ChatGateway.Protocol.ResponsesDocument
import ChatGateway.Protocol.ToolAdapter

set_option autoImplicit false

/-!
# A Responses request as a Chat request

The input items become Chat messages one after another. What the assistant said and called is held
back in one pending message until something else has to stand behind it.
-/

namespace ChatGateway

structure ImageDialect where
  httpsUrl : Bool
  dataUrl : Bool
  detail : Bool
deriving DecidableEq, Repr

def ImageDialect.all : ImageDialect where
  httpsUrl := true
  dataUrl := true
  detail := true

def emitChatImageWithDialect (dialect : ImageDialect) (source : ImageSource)
    (detail : Option String) : Except ProtocolError Json :=
  let offered :=
    match source with
    | .httpsUrl _ => dialect.httpsUrl
    | .dataUrl _ => dialect.dataUrl
  if offered then .ok (emitChatImage source (if dialect.detail then detail else none))
  else .error .unsupportedImageSource

def responsesImageToChatPartWithDialect (dialect : ImageDialect) (part : Json) :
    Except ProtocolError Json :=
  match part.str "image_url" with
  | none => .error (.missingField "image_url")
  | some url =>
    match classifyUrl url with
    | .error error => .error error
    | .ok source => emitChatImageWithDialect dialect source (part.str "detail")

section Content

variable (codec : JsonCodec) (dialect : ImageDialect)

def responsesContentPartToChatContentPartWithDialect (part : Json) : Except ProtocolError Json :=
  match part with
  | .string text => .ok (.object [("type", .string "text"), ("text", .string text)])
  | .object object =>
    match (Json.field object "text").bind Json.asStr with
    | some text => .ok (.object [("type", .string "text"), ("text", .string text)])
    | none =>
      if (imageUrlString object).isSome then
        responsesImageToChatPartWithDialect dialect (.object object)
      else
        .error (.invalidPayload ("unsupported responses content part: " ++ codec.print part))
  | _ => .error (.invalidPayload ("unsupported responses content part: " ++ codec.print part))

def responsesContentToChatContentWithDialect (content : Json) : Except ProtocolError Json :=
  match content with
  | .null => .ok .null
  | .string text => .ok (.string text)
  | .array parts =>
    match parts.mapM (responsesContentPartToChatContentPartWithDialect codec dialect) with
    | .error error => .error error
    | .ok converted =>
      if converted.all fun part => (chatTextPartText part).isSome then
        .ok (.string ((converted.filterMap chatTextPartText).foldl (· ++ ·) ""))
      else .ok (.array converted)
  | other => .error (.invalidPayload ("unsupported responses content: " ++ codec.print other))

end Content

structure ConversionContext where
  imageDialect : ImageDialect := .all
  reasoningCarrier : ReasoningCarrier := .none
  toolRegistry : ToolAdapterRegistry := {}
  toolArgumentsStrict : Bool := false

def chatMessage (role : String) (content : Json) : Json :=
  .object [("role", .string role), ("content", content)]

def responsesToolOutputObjectToChatMessage (object : List (String × Json)) :
    Except ProtocolError Json :=
  let callId := ((Json.field object "tool_call_id").or
    ((Json.field object "call_id").or (Json.field object "id"))).bind Json.asStr
  match callId, (Json.field object "output").or (Json.field object "content") with
  | none, _ => .error (.missingField "tool_call_id")
  | some _, none => .error (.missingField "content")
  | some callId, some content =>
    (contentToPlainText content).map fun text =>
      .object
        [("role", .string "tool"), ("tool_call_id", .string callId), ("content", .string text)]

section Items

variable (codec : JsonCodec) (context : ConversionContext)

def messageToolCallWithContext (toolCall : Json) : Except ProtocolError Json :=
  match toolCall.asObject with
  | none => .error (.invalidPayload "unsupported tool call")
  | some object =>
    responseFunctionCallItemToChatToolCall codec object none context.toolArgumentsStrict

def responsesMessageObjectToChatMessage (object : List (String × Json)) :
    Except ProtocolError Json :=
  let role := ((Json.field object "role").bind Json.asStr).getD "user"
  if role = "tool" || role = "function" || (Json.field object "tool_call_id").isSome then
    responsesToolOutputObjectToChatMessage object
  else
    let chatRole := if role = "user" || role = "assistant" then role else "system"
    let converted :=
      match Json.field object "content" with
      | some content => responsesContentToChatContentWithDialect codec context.imageDialect content
      | none => .ok .null
    match converted with
    | .error error => .error error
    | .ok content =>
      let reasoning := ((Json.field object "reasoning_content").bind Json.asStr).getD ""
      let toolCalls := ((Json.field object "tool_calls").bind Json.asArray).getD []
      match toolCalls.mapM (messageToolCallWithContext codec context) with
      | .error error => .error error
      | .ok calls =>
        .ok (.object
          ([("role", .string chatRole), ("content", content)] ++
            (if reasoning = "" then [] else [("reasoning_content", .string reasoning)]) ++
            (if calls.isEmpty then [] else [("tool_calls", .array calls)])))

def adaptCallOutput (object : List (String × Json)) :
    Except ProtocolError (List (String × Json)) :=
  match (Json.field object "type").bind Json.asStr with
  | some "custom_tool_call_output" =>
    .ok (Json.setField object "type" (.string "function_call_output"))
  | some "function_call_output" | none => .ok object
  | some _ => .error (.invalidPayload "unsupported call output type")

inductive InputStep where
  | skip
  | merge (message : Json)
  | push (message : Json)

def placeMessage (role : Option String) (message : Json) : InputStep :=
  if role = some "assistant" then .merge message else .push message

def reasoningStep (item : Json) : Except ProtocolError InputStep :=
  if context.reasoningCarrier ≠ .reasoningContent then .ok .skip
  else
    (responsesReasoningText item).map fun reasoning =>
      match reasoning with
      | none => .skip
      | some text =>
        if text = "" then .skip
        else
          .merge (.object
            [("role", .string "assistant"), ("content", .null),
              ("reasoning_content", .string text)])

def callStep (item : Json) : Except ProtocolError InputStep :=
  (context.toolRegistry.adaptResponsesFunctionCall codec item context.toolArgumentsStrict).map
    fun toolCall =>
      .merge (.object
        [("role", .string "assistant"), ("content", .null), ("tool_calls", .array [toolCall])])

def hasAny (object : List (String × Json)) (keys : List String) : Bool :=
  keys.any fun key => (Json.field object key).isSome

def inputItemStep (item : Json) : Except ProtocolError InputStep :=
  match item with
  | .string content => .ok (.push (chatMessage "user" (.string content)))
  | .object object =>
    match (Json.field object "type").bind Json.asStr with
    | some "reasoning" => reasoningStep context item
    | some "function_call" | some "custom_tool_call" => callStep codec context item
    | some "function_call_output" =>
      (responsesToolOutputObjectToChatMessage object).map .push
    | some "custom_tool_call_output" =>
      match adaptCallOutput object with
      | .error error => .error error
      | .ok adapted => (responsesToolOutputObjectToChatMessage adapted).map .push
    | some "message" =>
      (responsesMessageObjectToChatMessage codec context object).map
        (placeMessage ((Json.field object "role").bind Json.asStr))
    | some "agent_message" =>
      -- The parts of an agent message are texts, which every dialect converts alike.
      (agentMessageObjectToChatMessage codec object).map fun message =>
        placeMessage (message.str "role") message
    | itemType =>
      if itemType.isSome && hasAny object ["role", "content"] then
        (responsesMessageObjectToChatMessage codec context object).map
          (placeMessage ((Json.field object "role").bind Json.asStr))
      else if hasAny object ["role", "content", "tool_call_id", "tool_calls"] then
        (responsesMessageObjectToChatMessage codec context object).map fun message =>
          placeMessage (message.str "role") message
      else .error (.invalidPayload "unsupported responses input item")
  | _ => .error (.invalidPayload "unsupported input item")

def chatContentValueToParts (value : Json) : Except ProtocolError (List Json) :=
  match value with
  | .null => .ok []
  | .string text => .ok [.object [("type", .string "text"), ("text", .string text)]]
  | .array parts => .ok parts
  | other =>
    .error (.invalidPayload ("unsupported chat content value: " ++ codec.print other))

def mergeChatMessageContent (current next : Json) : Except ProtocolError Json :=
  match current, next with
  | .null, value => .ok value
  | value, .null => .ok value
  | .string left, .string right => .ok (.string (left ++ right))
  | left, right =>
    match chatContentValueToParts codec left, chatContentValueToParts codec right with
    | .error error, _ => .error error
    | .ok _, .error error => .error error
    | .ok parts, .ok more => .ok (.array (parts ++ more))

def mergeContent (pending object : List (String × Json)) :
    Except ProtocolError (List (String × Json)) :=
  match Json.field object "content" with
  | none => .ok pending
  | some content =>
    (mergeChatMessageContent codec ((Json.field pending "content").getD .null) content).map
      fun merged => Json.setField pending "content" merged

def mergeReasoning (pending object : List (String × Json)) : List (String × Json) :=
  let reasoning := ((Json.field object "reasoning_content").bind Json.asStr).getD ""
  if reasoning = "" then pending
  else
    let current := ((Json.field pending "reasoning_content").bind Json.asStr).getD ""
    Json.setField pending "reasoning_content" (.string (current ++ reasoning))

def mergeToolCalls (pending object : List (String × Json)) :
    Except ProtocolError (List (String × Json)) :=
  match (Json.field object "tool_calls").bind Json.asArray with
  | none => .ok pending
  | some toolCalls =>
    match (Json.field pending "tool_calls").getD (.array []) with
    | .array held => .ok (Json.setField pending "tool_calls" (.array (held ++ toolCalls)))
    | _ => .error (.invalidPayload "assistant tool_calls must be an array")

def mergeAssistantChatMessage (pendingAssistant : Option (List (String × Json))) (message : Json) :
    Except ProtocolError (List (String × Json)) :=
  match message.asObject with
  | none => .error (.invalidPayload "unsupported assistant message")
  | some object =>
    let role := ((Json.field object "role").bind Json.asStr).getD "assistant"
    if role ≠ "assistant" then
      .error (.invalidPayload ("expected assistant message, got role: " ++ role))
    else
      let pending := pendingAssistant.getD [("role", .string "assistant"), ("content", .null)]
      match mergeContent codec pending object with
      | .error error => .error error
      | .ok merged => mergeToolCalls (mergeReasoning merged object) object

structure ChatHistory where
  messages : List Json := []
  pendingAssistant : Option (List (String × Json)) := none

def ChatHistory.flushPendingAssistantMessage (history : ChatHistory) : ChatHistory where
  messages := history.messages ++ (history.pendingAssistant.map Json.object).toList
  pendingAssistant := none

def ChatHistory.push (history : ChatHistory) (message : Json) : ChatHistory :=
  let flushed := history.flushPendingAssistantMessage
  { flushed with messages := flushed.messages ++ [message] }

def ChatHistory.apply (history : ChatHistory) (step : InputStep) :
    Except ProtocolError ChatHistory :=
  match step with
  | .skip => .ok history
  | .merge message =>
    (mergeAssistantChatMessage codec history.pendingAssistant message).map fun pending =>
      { history with pendingAssistant := some pending }
  | .push message => .ok (history.push message)

def translateResponsesInputItem (history : ChatHistory) (item : Json) :
    Except ProtocolError ChatHistory :=
  match inputItemStep codec context item with
  | .error error => .error error
  | .ok step => history.apply codec step

def translateInputItems (history : ChatHistory) (items : List Json) :
    Except ProtocolError ChatHistory :=
  items.foldlM (translateResponsesInputItem codec context) history

def instructionMessages (input : Json) : Except ProtocolError (List Json) :=
  match input.get "instructions" with
  | none => .ok []
  | some instructions =>
    (responsesContentToChatContentWithDialect codec context.imageDialect instructions).map
      fun content => [chatMessage "system" content]

def translateInput (history : ChatHistory) (input : Json) : Except ProtocolError ChatHistory :=
  match input.get "input" with
  | none => .error (.missingField "input")
  | some (.string content) => .ok (history.push (chatMessage "user" (.string content)))
  | some (.array items) => translateInputItems codec context history items
  | some (.object object) => translateResponsesInputItem codec context history (.object object)
  | some other => .error (.invalidPayload ("unsupported input payload: " ++ codec.print other))

def chatRequestMessages (input : Json) : Except ProtocolError (List Json) := do
  let messages ← instructionMessages codec context input
  let translated ← translateInput codec context { messages } input
  return translated.flushPendingAssistantMessage.messages

def responsesToolDefinitionToChatTool (tool : Json) : Except ProtocolError Json :=
  match tool.asObject with
  | none => .error (.invalidPayload ("unsupported tool definition: " ++ codec.print tool))
  | some object =>
    match (Json.field object "function").bind Json.asObject with
    | some function => .ok (.object [("type", .string "function"), ("function", .object function)])
    | none =>
      let kind := (Json.field object "type").bind Json.asStr
      if kind.any (· ≠ "function") then
        .error (.invalidPayload ("unsupported responses tool type: " ++ kind.getD ""))
      else
        let function := Json.removeField object "type"
        if (Json.field function "name").isNone then .error (.missingField "name")
        else .ok (.object [("type", .string "function"), ("function", .object function)])

def chatToolChoice (name : String) : Json :=
  .object [("type", .string "function"), ("function", .object [("name", .string name)])]

def responsesToolChoiceToChatToolChoice (toolChoice : Json) (hasSupportedTools : Bool) :
    Except ProtocolError (Option Json) :=
  match toolChoice with
  | .string choice =>
    if choice = "none" then .ok (some (.string choice))
    else if choice = "auto" then .ok (if hasSupportedTools then some (.string choice) else none)
    else if choice = "required" then
      if hasSupportedTools then .ok (some (.string choice))
      else
        .error (.invalidPayload
          "responses tool_choice \"required\" requires at least one supported function tool")
    else .error (.invalidPayload ("unsupported responses tool_choice value: " ++ choice))
  | .object object =>
    let kind := (Json.field object "type").bind Json.asStr
    if kind.any (· ≠ "function") then
      .error (.invalidPayload ("unsupported responses tool_choice type: " ++ kind.getD ""))
    else if !hasSupportedTools then
      .error (.invalidPayload
        "responses function tool_choice requires at least one supported function tool")
    else
      match (Json.field object "function").bind Json.asObject with
      | some function =>
        match (Json.field function "name").bind Json.asStr with
        | none => .error (.missingField "name")
        | some name => .ok (some (chatToolChoice name))
      | none =>
        match (Json.field object "name").bind Json.asStr with
        | some name => .ok (some (chatToolChoice name))
        | none => .error (.missingField "name")
  | other =>
    .error (.invalidPayload ("unsupported responses tool_choice value: " ++ codec.print other))

def requestToolChoice (input : Json) (hasSupportedTools : Bool) :
    Except ProtocolError (Option Json) :=
  match input.get "tool_choice" with
  | none => .ok none
  | some toolChoice => responsesToolChoiceToChatToolChoice codec toolChoice hasSupportedTools

def copyField (input : Json) (field : String) : List (String × Json) :=
  ((input.get field).map fun value => (field, value)).toList

def renamedField (object : Option (List (String × Json))) (field name : String) :
    List (String × Json) :=
  ((object.bind (Json.field · field)).map fun value => (name, value)).toList

def copiedFields : List String :=
  ["stream", "temperature", "top_p", "stop", "metadata", "service_tier", "store",
    "safety_identifier", "prompt_cache_key", "prompt_cache_retention"]

def responsesRequestToChatPayload (input : Json) : Except ProtocolError Json := do
  match input.str "model" with
  | none => throw (.missingField "model")
  | some model =>
    let messages ← chatRequestMessages codec context input
    let tools ← (((input.get "tools").bind Json.asArray).getD []).mapM
      (responsesToolDefinitionToChatTool codec)
    let toolChoice ← requestToolChoice codec input (!tools.isEmpty)
    let effort := (((input.get "reasoning").bind Json.asObject).bind (Json.field · "effort")).bind
      Json.asStr
    let text := (input.get "text").bind Json.asObject
    let streamOptions := renamedField ((input.get "stream_options").bind Json.asObject)
      "include_obfuscation" "include_obfuscation"
    return .object
      ([("model", .string model)] ++ copiedFields.flatMap (copyField input) ++
        (effort.map fun effort => ("reasoning_effort", Json.string effort)).toList ++
        (if tools.isEmpty then [] else [("tools", .array tools)]) ++
        (toolChoice.map fun choice => ("tool_choice", choice)).toList ++
        copyField input "parallel_tool_calls" ++
        renamedField input.asObject "max_output_tokens" "max_tokens" ++
        renamedField text "format" "response_format" ++ renamedField text "verbosity" "verbosity" ++
        (if streamOptions.isEmpty then [] else [("stream_options", .object streamOptions)]) ++
        [("messages", .array messages)])

end Items

end ChatGateway
