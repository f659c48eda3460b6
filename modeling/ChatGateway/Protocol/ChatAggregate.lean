import ChatGateway.Shared.Json
import ChatGateway.Shared.OrderedMap
import ChatGateway.Stream.SseDecoder

set_option autoImplicit false

/-!
# Chat chunks put together

`ChatAggregateState` collects the chunks of a Chat stream, choice by choice, and builds the
completion they amount to. An error ends the collection, so no state is kept with it.
-/

namespace ChatGateway.StreamAggregate

def invalidStream (kind : UpstreamStreamErrorKind) (message : String) : ProtocolError :=
  .invalidUpstreamStream kind message

def given (source : Json) (field : String) : Option Json :=
  (source.get field).filter fun value => !value.isNull

def preserveField (target : Option Json) (source : Json) (field : String) : Option Json :=
  (given source field).or target

def insertOptional (field : String) (value : Option Json) : List (String × Json) :=
  (value.map fun value => (field, value)).toList

mutual

def streamText : Json → Except ProtocolError String
  | .string text => .ok text
  | .array parts => streamTexts parts
  | .object object =>
    match (Json.field object "text").bind Json.asStr with
    | some text => .ok text
    | none => .error (invalidStream .decode "chat content delta has no text")
  | _ => .error (invalidStream .decode "chat content delta is not textual")

def streamTexts : List Json → Except ProtocolError String
  | [] => .ok ""
  | part :: rest =>
    match streamText part with
    | .error error => .error error
    | .ok text => (streamTexts rest).map (text ++ ·)

end

def mergeStreamIdentity (current incoming : String) : String :=
  if current = "" then incoming
  else if incoming.toList.isPrefixOf current.toList then current
  else if current.toList.isPrefixOf incoming.toList then incoming
  else current ++ incoming

def mergeLogprobField (existing : List (String × Json)) (entry : String × Json) :
    List (String × Json) :=
  match Json.field existing entry.1, entry.2 with
  | some (.array held), .array values => Json.setField existing entry.1 (.array (held ++ values))
  | _, value => Json.setField existing entry.1 value

def mergeLogprobs (target : Option Json) (incoming : Json) : Json :=
  match target.bind Json.asObject, incoming.asObject with
  | some existing, some fields => .object (fields.foldl mergeLogprobField existing)
  | _, _ => incoming

structure ChatFunctionState where
  name : String := ""
  arguments : String := ""
deriving DecidableEq, Repr

def ChatFunctionState.apply (state : ChatFunctionState) (delta : List (String × Json)) :
    ChatFunctionState where
  name :=
    match (Json.field delta "name").bind Json.asStr with
    | some name => mergeStreamIdentity state.name name
    | none => state.name
  arguments := state.arguments ++ ((Json.field delta "arguments").bind Json.asStr).getD ""

def ChatFunctionState.build (state : ChatFunctionState) : Json :=
  .object [("name", .string state.name), ("arguments", .string state.arguments)]

structure ChatToolCallState where
  id : String := ""
  kind : Option String := none
  function : ChatFunctionState := {}
deriving DecidableEq, Repr

def ChatToolCallState.apply (state : ChatToolCallState) (delta : List (String × Json)) :
    ChatToolCallState where
  id :=
    match (Json.field delta "id").bind Json.asStr with
    | some id => mergeStreamIdentity state.id id
    | none => state.id
  kind := ((Json.field delta "type").bind Json.asStr).or state.kind
  function :=
    match (Json.field delta "function").bind Json.asObject with
    | some function => state.function.apply function
    | none => state.function

def ChatToolCallState.build (state : ChatToolCallState) (index : Nat) : Json :=
  .object
    [("index", .ofNat index), ("id", .string state.id),
      ("type", .string (state.kind.getD "function")), ("function", state.function.build)]

structure ChatChoiceState where
  role : Option String := none
  content : String := ""
  refusal : String := ""
  reasoningContent : String := ""
  toolCalls : OrderedMap Nat ChatToolCallState := {}
  functionCall : Option ChatFunctionState := none
  finishReason : Option Json := none
  logprobs : Option Json := none

def indexOf (object : List (String × Json)) (fallbackIndex : Nat) : Nat :=
  ((Json.field object "index").bind Json.asU64).getD fallbackIndex

namespace ChatChoiceState

def applyToolCall (held : OrderedMap Nat ChatToolCallState) (entry : Json × Nat) :
    Except ProtocolError (OrderedMap Nat ChatToolCallState) :=
  match entry.1.asObject with
  | none => .error (invalidStream .decode "chat tool call delta is not an object")
  | some toolCall =>
    let index := indexOf toolCall entry.2
    .ok (held.put index (((held.find? index).getD {}).apply toolCall))

def pushContent (content : String) (delta : List (String × Json)) : Except ProtocolError String :=
  match (Json.field delta "content").filter fun value => !value.isNull with
  | some value => (streamText value).map (content ++ ·)
  | none => .ok content

def applyDelta (state : ChatChoiceState) (delta : List (String × Json)) :
    Except ProtocolError ChatChoiceState := do
  let content ← pushContent state.content delta
  let toolCalls ←
    (((Json.field delta "tool_calls").bind Json.asArray).getD []).zipIdx.foldlM applyToolCall
      state.toolCalls
  return { state with
    role := ((Json.field delta "role").bind Json.asStr).or state.role
    content
    refusal := state.refusal ++ ((Json.field delta "refusal").bind Json.asStr).getD ""
    reasoningContent :=
      state.reasoningContent ++ ((Json.field delta "reasoning_content").bind Json.asStr).getD ""
    toolCalls
    functionCall :=
      match (Json.field delta "function_call").bind Json.asObject with
      | some functionCall => some ((state.functionCall.getD {}).apply functionCall)
      | none => state.functionCall }

def message (state : ChatChoiceState) : Json :=
  .object
    ([("role", .string (state.role.getD "assistant")),
      ("content", if state.content = "" then .null else .string state.content)] ++
      (if state.refusal = "" then [] else [("refusal", .string state.refusal)]) ++
      (if state.reasoningContent = "" then []
        else [("reasoning_content", .string state.reasoningContent)]) ++
      (if state.toolCalls.isEmpty then []
        else [("tool_calls", .array (state.toolCalls.entries.map fun entry =>
          entry.2.build entry.1))]) ++
      insertOptional "function_call" (state.functionCall.map (·.build)))

def build (state : ChatChoiceState) (index : Nat) : Json :=
  .object
    [("index", .ofNat index), ("message", state.message),
      ("finish_reason", state.finishReason.getD .null), ("logprobs", state.logprobs.getD .null)]

def applyChoice (state : ChatChoiceState) (choice : List (String × Json)) :
    Except ProtocolError ChatChoiceState :=
  let applied :=
    match ((Json.field choice "delta").or (Json.field choice "message")).bind Json.asObject with
    | some delta => state.applyDelta delta
    | none => .ok state
  applied.map fun applied =>
    { applied with
      finishReason := (given (.object choice) "finish_reason").or applied.finishReason
      logprobs :=
        match given (.object choice) "logprobs" with
        | some logprobs => some (mergeLogprobs applied.logprobs logprobs)
        | none => applied.logprobs }

end ChatChoiceState

@[ext] structure ChatAggregateState where
  id : Option Json := none
  created : Option Json := none
  model : Option Json := none
  serviceTier : Option Json := none
  systemFingerprint : Option Json := none
  usage : Option Json := none
  choices : OrderedMap Nat ChatChoiceState := {}

namespace ChatAggregateState

def applyChoices (held : OrderedMap Nat ChatChoiceState) (entry : Json × Nat) :
    Except ProtocolError (OrderedMap Nat ChatChoiceState) :=
  match entry.1.asObject with
  | none => .error (invalidStream .decode "chat choice is not an object")
  | some choice =>
    let index := indexOf choice entry.2
    (((held.find? index).getD {}).applyChoice choice).map (held.put index)

def applyEvent (state : ChatAggregateState) (event : Json) :
    Except ProtocolError ChatAggregateState := do
  let choices ←
    (((event.get "choices").bind Json.asArray).getD []).zipIdx.foldlM applyChoices state.choices
  return {
    id := preserveField state.id event "id"
    created := preserveField state.created event "created"
    model := preserveField state.model event "model"
    serviceTier := preserveField state.serviceTier event "service_tier"
    systemFingerprint := preserveField state.systemFingerprint event "system_fingerprint"
    usage := preserveField state.usage event "usage"
    choices }

def isSemanticallyFinished (state : ChatAggregateState) : Bool :=
  !state.choices.isEmpty && state.choices.values.all fun choice => choice.finishReason.isSome

def buildResponse (state : ChatAggregateState) : Except ProtocolError Json :=
  if state.choices.isEmpty then
    .error (invalidStream .incomplete "chat stream contains no choices")
  else
    .ok (.object
      ([("id", state.id.getD (.string "chatcmpl")), ("object", .string "chat.completion"),
        ("created", state.created.getD (.ofNat 0)), ("model", state.model.getD (.string "")),
        ("choices", .array (state.choices.entries.map fun entry => entry.2.build entry.1))] ++
        insertOptional "service_tier" state.serviceTier ++
        insertOptional "system_fingerprint" state.systemFingerprint ++
        insertOptional "usage" state.usage))

end ChatAggregateState

end ChatGateway.StreamAggregate
