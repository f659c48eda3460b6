import ChatGateway.Protocol.ChatToResponses
import ChatGateway.Stream.SseReaders

set_option autoImplicit false

/-!
# What the forwarding path reads from an event

The predicates on parsed events that decide what a forwarded stream remembers of them, and the
bytes it writes.
-/

namespace ChatGateway

inductive EndpointKind where
  | chatCompletions
  | responses
deriving DecidableEq, Repr

-- A leading plus sign is allowed and the number has to fit into 64 bits.
def parseU64 (text : Text) : Option Nat :=
  let digits := text.stripPrefix '+'
  if digits.isEmpty || digits.any (fun letter => !letter.isDigit) then none
  else
    let value := digits.foldl (fun value letter => 10 * value + (letter.toNat - '0'.toNat)) 0
    if value < 2 ^ 64 then some value else none

def parseU64Token : Json → Option Nat
  | .number (.natural value) => some value
  | .string text => parseU64 text.toList
  | _ => none

abbrev TokenUsage := Nat × Nat × Nat

def usageFromUsageValue (usage : Json) : TokenUsage :=
  let tokens (primary fallback : String) : Nat :=
    (((usage.get primary).or (usage.get fallback)).bind parseU64Token).getD 0
  let promptTokens := tokens "prompt_tokens" "input_tokens"
  let completionTokens := tokens "completion_tokens" "output_tokens"
  let totalTokens := ((usage.get "total_tokens").bind parseU64Token).getD
    ((promptTokens + completionTokens) % 2 ^ 64)
  (promptTokens, completionTokens, totalTokens)

def streamUsageFromValue (value : Json) : Option TokenUsage :=
  match value.get "usage" with
  | some usage => some (usageFromUsageValue usage)
  | none => ((value.get "response").bind (·.get "usage")).map usageFromUsageValue

def streamOutputTokensAreZeroOrUnknown (usage : Option TokenUsage) : Bool :=
  (usage.map fun tokens => tokens.2.1 == 0).getD true

def textFields : List String :=
  ["text", "refusal", "summary_text", "reasoning_text", "reasoning_content"]

mutual

def valueHasNonEmptyText : Json → Bool
  | .string text => text ≠ ""
  | .array items => anyHasNonEmptyText items
  | .object fields =>
    ((textFields.findSome? (Json.field fields)).bind Json.asStr).any (· ≠ "")
  | _ => false

def anyHasNonEmptyText : List Json → Bool
  | [] => false
  | item :: rest => valueHasNonEmptyText item || anyHasNonEmptyText rest

end

mutual

def typedFieldHasPayload : Json → Bool
  | .null => false
  | .string text => text ≠ ""
  | .array items => anyHasPayload items
  | .object fields => anyFieldHasPayload fields
  | _ => true

def anyHasPayload : List Json → Bool
  | [] => false
  | item :: rest => typedFieldHasPayload item || anyHasPayload rest

def anyFieldHasPayload : List (String × Json) → Bool
  | [] => false
  | (_, value) :: rest => typedFieldHasPayload value || anyFieldHasPayload rest

end

def nonEmptyArray (value : Option Json) : Bool :=
  (value.bind Json.asArray).any fun items => !items.isEmpty

def valueHasPayload : Option Json → Bool
  | none => false
  | some .null => false
  | some (.string text) => text ≠ ""
  | some (.array items) => !items.isEmpty
  | some (.object fields) => !fields.isEmpty
  | some _ => true

def chatMessageHasUsableOutput (message : Json) : Bool :=
  (message.get "content").any valueHasNonEmptyText ||
    (message.get "refusal").any valueHasNonEmptyText ||
    (message.get "reasoning_content").any valueHasNonEmptyText ||
    nonEmptyArray (message.get "tool_calls") ||
    valueHasPayload (message.get "function_call")

def untypedFields : List String :=
  ["type", "id", "status", "object", "created_at", "completed_at", "sequence_number",
    "output_index", "content_index"]

def typedOutputItemHasPayload (item : Json) : Bool :=
  (item.asObject.getD []).any fun entry =>
    entry.1 ∉ untypedFields && typedFieldHasPayload entry.2

def responsesOutputItemHasUsableOutput (item : Json) : Bool :=
  let asMessage :=
    (item.get "content").any valueHasNonEmptyText || nonEmptyArray (item.get "tool_calls") ||
      valueHasPayload (item.get "function_call")
  match item.str "type" with
  | none => asMessage
  | some kind =>
    if kind = "message" then asMessage
    else if kind = "reasoning" then
      (item.get "summary").any valueHasNonEmptyText ||
        (item.get "content").any valueHasNonEmptyText ||
        (item.get "encrypted_content").any typedFieldHasPayload
    else typedOutputItemHasPayload item

def chatStreamEventHasUsableOutput (event : Json) : Bool :=
  (((event.get "choices").bind Json.asArray).getD []).any fun choice =>
    ((choice.get "delta").or (choice.get "message")).any chatMessageHasUsableOutput

def responsesStreamEventHasUsableOutput (event : Json) : Bool :=
  (event.get "delta").any valueHasNonEmptyText ||
    (event.get "item").any responsesOutputItemHasUsableOutput ||
    ((((event.get "response").bind (·.get "output")).bind Json.asArray).getD []).any
      responsesOutputItemHasUsableOutput

def streamEventHasUsableOutput (event : Json) : Bool :=
  chatStreamEventHasUsableOutput event || responsesStreamEventHasUsableOutput event

def hasNonEmptyString (value : Json) (field : String) : Bool :=
  (value.str field).any (· ≠ "")

def hasNonEmptyNestedString (value : Json) (path : List String) : Bool :=
  ((path.foldl (fun current segment => current.bind (·.get segment)) (some value)).bind
    Json.asStr).any (· ≠ "")

mutual

def valueHasSemanticPayload : Json → Bool
  | .string text => text ≠ ""
  | .array items => anyHasSemanticPayload items
  | .object fields => anyFieldHasSemanticPayload fields
  | _ => false

def anyHasSemanticPayload : List Json → Bool
  | [] => false
  | item :: rest => valueHasSemanticPayload item || anyHasSemanticPayload rest

def anyFieldHasSemanticPayload : List (String × Json) → Bool
  | [] => false
  | (key, value) :: rest =>
    (key ∉ ["id", "role", "status", "type"] && valueHasSemanticPayload value) ||
      anyFieldHasSemanticPayload rest

end

def responseOutputItemIsSemantic (item : Json) : Bool :=
  match item.str "type" with
  | none => false
  | some kind =>
    if kind = "function_call" then
      hasNonEmptyString item "call_id" || hasNonEmptyString item "name" ||
        hasNonEmptyString item "arguments"
    else if kind = "custom_tool_call" then
      hasNonEmptyString item "call_id" || hasNonEmptyString item "name" ||
        hasNonEmptyString item "input"
    else if kind = "message" ∨ kind = "agent_message" then
      hasNonEmptyString item "text" ||
        (item.get "encrypted_content").any (fun value => !value.isNull) ||
        (item.get "content").any valueHasSemanticPayload
    else false

/-- The flags of `StreamCommitTracker` that the forwarded stream reads. -/
structure StreamCommitTracker where
  semanticOutputObserved : Bool := false
  terminalObserved : Bool := false
deriving DecidableEq, Repr

def toolCallIsSemantic (toolCall : Json) : Bool :=
  hasNonEmptyString toolCall "id" || hasNonEmptyNestedString toolCall ["function", "name"] ||
    hasNonEmptyNestedString toolCall ["function", "arguments"]

def chatChoiceIsSemantic (choice : Json) : Bool :=
  (choice.get "delta").any fun delta =>
    hasNonEmptyString delta "content" || hasNonEmptyString delta "reasoning_content" ||
      (((delta.get "tool_calls").bind Json.asArray).getD []).any toolCallIsSemantic

def responsesEventIsSemantic (event : Json) : Bool :=
  let eventType := (event.str "type").getD ""
  if eventType = "response.output_text.delta" ∨
      eventType = "response.reasoning_summary_text.delta" ∨
      eventType = "response.function_call_arguments.delta" then
    hasNonEmptyString event "delta"
  else if eventType = "response.output_item.added" ∨ eventType = "response.output_item.done" then
    (event.get "item").any responseOutputItemIsSemantic
  else false

def StreamCommitTracker.observeJson (tracker : StreamCommitTracker) (endpoint : EndpointKind)
    (event : Json) : StreamCommitTracker :=
  match endpoint with
  | .chatCompletions =>
    let choices := ((event.get "choices").bind Json.asArray).getD []
    { semanticOutputObserved :=
        tracker.semanticOutputObserved || choices.any chatChoiceIsSemantic
      terminalObserved :=
        tracker.terminalObserved ||
          choices.any fun choice => (choice.get "finish_reason").any fun reason => !reason.isNull }
  | .responses =>
    { semanticOutputObserved := tracker.semanticOutputObserved || responsesEventIsSemantic event
      terminalObserved :=
        tracker.terminalObserved || event.str "type" = some "response.completed" }

def responsesEventIsTerminal (event : Json) : Bool :=
  event.str "type" = some "response.completed" || event.str "type" = some "response.incomplete"

def chatStreamEventIsSemanticallyComplete (event : Json) : Bool :=
  match (event.get "choices").bind Json.asArray with
  | none => false
  | some choices =>
    !choices.isEmpty && choices.all fun choice =>
      (choice.str "finish_reason").any fun reason => !(Text.trim reason.toList).isEmpty

def envelopedUpstreamSseFailure (value : Json) : Option ProtocolError :=
  if (value.get "error").any fun error => !error.isNull then
    some (.invalidUpstreamStream .upstreamEvent "upstream returned an error envelope")
  else if value.str "type" = some "error" ∨ value.str "type" = some "response.failed" then
    some (.invalidUpstreamStream .upstreamEvent "upstream emitted a failed Responses event")
  else none

def advanceResponsesSequenceNumber (next : Nat) (event : Json) : Nat :=
  match event.u64 "sequence_number" with
  | some sequenceNumber => max next (min (sequenceNumber + 1) (2 ^ 64 - 1))
  | none => next

def updateField (value : Json) (key : String) (change : Json → Json) : Json :=
  match value with
  | .object fields =>
    match Json.field fields key with
    | some old => .object (Json.setField fields key (change old))
    | none => .object fields
  | other => other

def normalizeResponsesUsageDetails (usage : Json) : Json :=
  match usage with
  | .object fields =>
    .object
      (ensureUsageDetail (ensureUsageDetail fields "input_tokens_details" "cached_tokens")
        "output_tokens_details" "reasoning_tokens")
  | other => other

def normalizeResponsesEventUsage (event : Json) : Json × Bool :=
  if responsesEventIsTerminal event then
    match (event.get "response").bind (·.get "usage") with
    | some usage =>
      (updateField event "response" (updateField · "usage" normalizeResponsesUsageDetails),
        normalizeResponsesUsageDetails usage ≠ usage)
    | none => (event, false)
  else (event, false)

def responsesEventResponseId (event : Json) : Option String :=
  let chunkId :=
    if event.str "object" = some "response.chunk" then event.get "id" else none
  (((event.get "response_id").or ((event.get "response").bind (·.get "id"))).or chunkId).bind
    Json.asStr

def rewriteResponsesEventResponseId (event : Json) (responseId : String) : Json × Bool :=
  let renamed (value : Json) (key : String) := updateField value key fun _ => .string responseId
  let outer := renamed event "response_id"
  let inner := updateField outer "response" (renamed · "id")
  let isChunk := inner.str "object" = some "response.chunk"
  (if isChunk then renamed inner "id" else inner,
    (event.get "response_id").isSome || ((event.get "response").bind (·.get "id")).isSome ||
      (isChunk && (inner.get "id").isSome))

def ssePayloadIsKeepalive (payload : Text) : Bool :=
  let trimmed := Text.trim payload
  trimmed.isEmpty || trimmed.head? = some ':'

def isSseCommentFrame (frame : List UInt8) : Bool :=
  match Text.fromUtf8 frame with
  | none => false
  | some text =>
    (text.lines.all fun line => line.isEmpty || line.head? = some ':') &&
      text.lines.any fun line => line.head? = some ':'

def sseFrameDelimiter (delimiterLength : Nat) : List UInt8 :=
  if delimiterLength = 4 then [carriageReturn, lineFeed, carriageReturn, lineFeed]
  else [lineFeed, lineFeed]

def serializeRawSseFrame (frame : List UInt8) (delimiterLength : Nat) : List UInt8 :=
  frame ++ sseFrameDelimiter delimiterLength

def sseDoneFrame : List UInt8 :=
  Text.utf8 "data: [DONE]\n\n".toList

section Writing

variable (codec : JsonCodec)

def serializeSseData (value : Json) : List UInt8 :=
  match (value.str "type").filter (· ≠ "") with
  | some event =>
    Text.utf8 ("event: " ++ event ++ "\ndata: " ++ codec.print value ++ "\n\n").toList
  | none => Text.utf8 ("data: " ++ codec.print value ++ "\n\n").toList

def rewriteDataLines (payload : String) : Bool → List Text → List Text
  | _, [] => []
  | replaced, line :: rest =>
    if (dataLine line).isSome then
      if replaced then rewriteDataLines payload true rest
      else ("data: " ++ payload).toList :: rewriteDataLines payload true rest
    else line :: rewriteDataLines payload replaced rest

def rewriteSseDataPayload (frame : List UInt8) (delimiterLength : Nat) (value : Json) :
    Except Utf8Error (List UInt8) :=
  match Text.fromUtf8 frame with
  | none => .error .invalid
  | some text =>
    let lineEnding : Text := if delimiterLength = 4 then ['\r', '\n'] else ['\n']
    .ok (Text.utf8 <|
      (rewriteDataLines (codec.print value) false text.lines).flatMap (· ++ lineEnding) ++
        lineEnding)

end Writing

end ChatGateway
