import ChatGateway.Gateway.ClaudeStream
import ChatGateway.Shared.Fallible

set_option autoImplicit false

/-!
# Claude requests as Chat requests

The messages of a Messages request are turned into Chat messages one by one. An assistant message
gives one Chat message, a user message one for each tool result and one for the content between.
-/

namespace ChatGateway

def partType (part : Json) : String :=
  (part.str "type").getD ""

def joinLines (lines : List String) : String :=
  String.intercalate "\n" lines

def toolUseArguments (codec : JsonCodec) : Option Json → String
  | some (.string text) => text
  | some input => codec.print input
  | none => "\x7b\x7d"

def claudeToolUseToChatToolCall (codec : JsonCodec) (block : Json) : Except String Json :=
  match block.asObject with
  | none => .error "invalid claude tool_use block"
  | some object =>
    match (Json.field object "id").bind Json.asStr with
    | none => .error "claude tool_use missing id"
    | some id =>
      match (Json.field object "name").bind Json.asStr with
      | none => .error "claude tool_use missing name"
      | some name =>
        .ok (.object [("id", .string id), ("type", .string "function"),
          ("function", .object [("name", .string name),
            ("arguments", .string (toolUseArguments codec (Json.field object "input")))])])

def claudeToolResultContentToText (codec : JsonCodec) : Option Json → String
  | none => ""
  | some content =>
    let text := extractPlainTextFromContent (some content)
    if text ≠ "" then text
    else
      match content with
      | .null => ""
      | .string value => value
      | content => codec.print content

def claudeToolResultToChatToolMessage (codec : JsonCodec) (block : Json) : Except String Json :=
  match block.asObject with
  | none => .error "invalid claude tool_result block"
  | some object =>
    match (Json.field object "tool_use_id").bind Json.asStr with
    | none => .error "claude tool_result missing tool_use_id"
    | some toolCallId =>
      .ok (.object [("role", .string "tool"), ("tool_call_id", .string toolCallId),
        ("content", .string (claudeToolResultContentToText codec (Json.field object "content")))])

def claudeImageUrl (source : List (String × Json)) : Except String String :=
  let filled (name : String) := nonempty ((Json.field source name).bind Json.asStr)
  match (Json.field source "type").bind Json.asStr with
  | none => .error "claude image source missing type"
  | some "url" =>
    match filled "url" with
    | none => .error "claude URL image source missing URL"
    | some url => .ok url
  | some "base64" =>
    match filled "media_type" with
    | none => .error "claude base64 image source missing media type"
    | some mediaType =>
      match filled "data" with
      | none => .error "claude base64 image source missing data"
      | some data => .ok ("data:" ++ mediaType ++ ";base64," ++ data)
  | some _ => .error "unsupported claude image source type"

def imagePart (url : String) : Json :=
  .object [("type", .string "image_url"),
    ("image_url", .object [("url", .string url), ("detail", .string "auto")])]

def claudeImageToChatContent (block : Json) : Except String Json :=
  match (block.get "source").bind Json.asObject with
  | none => .error "claude image block missing source"
  | some source => (claudeImageUrl source).map imagePart

structure ClaudeThinkingEntry where
  thinking : String
  signature : String
  toolUseIds : List String := []
deriving DecidableEq, Repr

def ClaudeThinkingEntry.toJson (entry : ClaudeThinkingEntry) : Json :=
  .object [("thinking", .string entry.thinking), ("signature", .string entry.signature),
    ("tool_use_ids", .array (entry.toolUseIds.map .string))]

structure AssistantParts where
  textParts : List String := []
  toolCalls : List Json := []
  thinkingBlocks : List ClaudeThinkingEntry := []
  currentThinkingIndex : Option Nat := none

namespace AssistantParts

def takeThinking (parts : AssistantParts) (part : Json) : AssistantParts :=
  let thinking := (part.str "thinking").getD ""
  let signature := (part.str "signature").getD ""
  if thinking ≠ "" ∨ signature ≠ "" then
    { parts with
      thinkingBlocks := parts.thinkingBlocks ++ [{ thinking, signature }]
      currentThinkingIndex := some parts.thinkingBlocks.length }
  else parts

def noteCall (parts : AssistantParts) (id : Option String) : List ClaudeThinkingEntry :=
  match parts.currentThinkingIndex, id with
  | some index, some id =>
    parts.thinkingBlocks.modify index fun entry =>
      { entry with toolUseIds := entry.toolUseIds ++ [id] }
  | _, _ => parts.thinkingBlocks

def takeToolUse (codec : JsonCodec) (parts : AssistantParts) (part : Json) :
    Except String AssistantParts :=
  (claudeToolUseToChatToolCall codec part).map fun toolCall =>
    { parts with
      thinkingBlocks := parts.noteCall (toolCall.str "id")
      toolCalls := parts.toolCalls ++ [toolCall] }

def takeText (parts : AssistantParts) (part : Json) : AssistantParts :=
  match nonempty (part.str "text") with
  | some text => { parts with textParts := parts.textParts ++ [text], currentThinkingIndex := none }
  | none => parts

def take (codec : JsonCodec) (parts : AssistantParts) (part : Json) : Except String AssistantParts :=
  if partType part = "thinking" then .ok (parts.takeThinking part)
  else if partType part = "tool_use" then parts.takeToolUse codec part
  else .ok (parts.takeText part)

def message (parts : AssistantParts) : Json :=
  .object ([("role", .string "assistant"),
      ("content", if parts.textParts = [] then .null else .string (joinLines parts.textParts))] ++
    (if parts.toolCalls = [] then [] else [("tool_calls", .array parts.toolCalls)]) ++
    (if parts.thinkingBlocks = [] then []
      else [("_gateway_claude_thinking",
        .array (parts.thinkingBlocks.map ClaudeThinkingEntry.toJson))]))

end AssistantParts

structure UserParts where
  messages : List Json := []
  contentParts : List Json := []
  structuredContent : Bool := false

def textPart (text : String) : Json :=
  .object [("type", .string "text"), ("text", .string text)]

def userMessage (contentParts : List Json) (structuredContent : Bool) : Json :=
  .object [("role", .string "user"),
    ("content", if structuredContent then .array contentParts
      else .string (joinLines (contentParts.filterMap (·.str "text"))))]

namespace UserParts

def pushClaudeUserContentMessage (parts : UserParts) : UserParts :=
  if parts.contentParts = [] then parts
  else { messages := parts.messages ++ [userMessage parts.contentParts parts.structuredContent] }

def takeText (parts : UserParts) (part : Json) : UserParts :=
  match nonempty (part.str "text") with
  | some text => { parts with contentParts := parts.contentParts ++ [textPart text] }
  | none => parts

def take (codec : JsonCodec) (parts : UserParts) (part : Json) : Except String UserParts :=
  if partType part = "tool_result" then
    let flushed := parts.pushClaudeUserContentMessage
    (claudeToolResultToChatToolMessage codec part).map fun message =>
      { flushed with messages := flushed.messages ++ [message] }
  else if partType part = "image" then
    (claudeImageToChatContent part).map fun image =>
      { parts with contentParts := parts.contentParts ++ [image], structuredContent := true }
  else .ok (parts.takeText part)

def allMessages (parts : UserParts) : List Json :=
  let messages := parts.pushClaudeUserContentMessage.messages
  if messages = [] then [.object [("role", .string "user"), ("content", .string "")]] else messages

end UserParts

def plainTextOf (part : Json) : Option String :=
  match part with
  | .string text => some text
  | part => if part.str "type" = some "text" then part.str "text" else none

def extractClaudeContentText (message : Json) : String :=
  match message.get "content" with
  | some (.string text) => text
  | some (.array parts) => joinLines (parts.filterMap plainTextOf)
  | some (.object object) => ((Json.field object "text").bind Json.asStr).getD ""
  | _ => ""

def extractClaudeSystemText : Json → String
  | .string text => text
  | .array parts => joinLines (parts.filterMap plainTextOf)
  | _ => ""

def plainMessage (role content : String) : Json :=
  .object [("role", .string role), ("content", .string content)]

def claudeMessageToChatMessages (codec : JsonCodec) (message : Json) :
    Except String (List Json) :=
  match message.str "role", message.get "content" with
  | none, _ => .error "claude message missing role"
  | some "assistant", some (.array parts) =>
    (parts.foldlM (AssistantParts.take codec) {}).map fun parts => [parts.message]
  | some "user", some (.array parts) =>
    (parts.foldlM (UserParts.take codec) {}).map UserParts.allMessages
  | some role, _ => .ok [plainMessage role (extractClaudeContentText message)]

def claudeToolDefinitionToChatTool (tool : Json) : Except String Json :=
  match tool.asObject with
  | none => .error "invalid claude tool definition"
  | some object =>
    match (Json.field object "name").bind Json.asStr with
    | none => .error "claude tool missing name"
    | some name =>
      .ok (.object [("type", .string "function"),
        ("function", .object ([("name", .string name)] ++
          (((Json.field object "description").bind Json.asStr).map fun description =>
            ("description", .string description)).toList ++
          [("parameters",
            (Json.field object "input_schema").getD (.object [("type", .string "object")]))]))])

def namedToolChoice (choice error : String) : Except String Json :=
  match choice with
  | "auto" => .ok (.string "auto")
  | "any" => .ok (.string "required")
  | "none" => .ok (.string "none")
  | _ => .error error

def claudeToolChoiceToChatToolChoice : Json → Except String Json
  | .string choice => namedToolChoice choice "unsupported claude tool_choice string"
  | .object object =>
    match (Json.field object "type").bind Json.asStr with
    | none => .error "claude tool_choice missing type"
    | some "tool" =>
      match (Json.field object "name").bind Json.asStr with
      | none => .error "claude tool_choice type=tool missing name"
      | some name =>
        .ok (.object [("type", .string "function"), ("function", .object [("name", .string name)])])
    | some choice => namedToolChoice choice "unsupported claude tool_choice type"
  | _ => .error "unsupported claude tool_choice"

def systemMessages (body : Json) : List Json :=
  match body.get "system" with
  | none => []
  | some system =>
    if extractClaudeSystemText system = "" then []
    else [plainMessage "system" (extractClaudeSystemText system)]

def passedOn (name : String) (value : Option Json) : List (String × Json) :=
  (value.map fun value => (name, value)).toList

def gatewayClaude (body : Json) : Json :=
  .object ((if (((body.get "tools").bind Json.asArray).getD []).any (fun tool => (tool.get "type").isSome)
      then [("stream_only_recovery_unsafe_tool", .bool true)] else []) ++
    ["thinking", "output_config", "context_management"].flatMap fun key =>
      passedOn key (body.get key))

def claudeMessagesToChatPayload (codec : JsonCodec) (body : Json) : Except String Json :=
  match body.str "model", (body.get "messages").bind Json.asArray with
  | none, _ => .error "missing model"
  | some _, none => .error "missing messages"
  | some model, some messages => do
    let converted ← messages.mapM (claudeMessageToChatMessages codec)
    let tools ← ((body.get "tools").bind Json.asArray).mapM fun tools =>
      tools.mapM claudeToolDefinitionToChatTool
    let toolChoice ← (body.get "tool_choice").mapM claudeToolChoiceToChatToolChoice
    return .object ([("model", .string model),
        ("messages", .array (systemMessages body ++ converted.flatten))] ++
      passedOn "max_tokens" ((body.u64 "max_tokens").map Json.ofNat) ++
      passedOn "temperature" (body.get "temperature") ++ passedOn "top_p" (body.get "top_p") ++
      passedOn "tools" (tools.map .array) ++ passedOn "tool_choice" toolChoice ++
      passedOn "stop" (((body.get "stop_sequences").bind Json.asArray).map .array) ++
      passedOn "stream" ((body.get "stream").filter fun stream => stream matches .bool _) ++
      passedOn "inference_strength" ((body.str "inference_strength").map .string) ++
      [("_gateway_claude", gatewayClaude body)])

end ChatGateway
