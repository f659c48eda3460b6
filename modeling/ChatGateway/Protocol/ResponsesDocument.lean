import ChatGateway.Protocol.ChatToResponses
import ChatGateway.Shared.Fallible

set_option autoImplicit false

/-!
# A Responses document as a Chat completion

The conversion of a whole response, which a stream of Responses events describes piece by piece.
-/

namespace ChatGateway

def reasoningPartTexts : List Json → Except ProtocolError String
  | [] => .ok ""
  | part :: rest =>
    if part.str "type" = some "reasoning_text" then
      match part.str "text" with
      | none => .error (.missingField "text")
      | some text => (reasoningPartTexts rest).map (text ++ ·)
    else reasoningPartTexts rest

def responsesReasoningText (item : Json) : Except ProtocolError (Option String) :=
  if item.str "type" = some "reasoning" then
    match (item.get "content").bind Json.asArray with
    | none => .error (.missingField "content")
    | some content => (reasoningPartTexts content).map some
  else .ok none

def responsesUsageToChatUsage (usage : Json) : Json :=
  let promptTokens := usageTokenCount usage "input_tokens" "prompt_tokens"
  let completionTokens := usageTokenCount usage "output_tokens" "completion_tokens"
  let details (primary fallback : String) : List (String × Json) :=
    match (usage.get primary).or (usage.get fallback) with
    | some details => [(primary, details)]
    | none => []
  .object
    ([("prompt_tokens", .ofNat promptTokens), ("completion_tokens", .ofNat completionTokens),
      ("total_tokens", .ofNat (usageTotalTokens usage promptTokens completionTokens))] ++
      details "prompt_tokens_details" "input_tokens_details" ++
      details "completion_tokens_details" "output_tokens_details")

section Document

variable (codec : JsonCodec) (toolRegistry : Option ToolAdapterRegistry)

def responseOutputItemToChatMessage (item : Json) : Except ProtocolError (Option Json) :=
  match item.asObject with
  | none => .error (.invalidPayload "unsupported responses output item")
  | some object =>
    match responseOutputItemKind object with
    | .error error => .error error
    | .ok .functionCall | .ok .customToolCall | .ok .reasoning => .ok none
    | .ok .message | .ok .agentMessage =>
      (responseOutputMessageItemToChatMessage codec object).map some

def responseOutputItemToChatToolCall (item : Json) : Except ProtocolError (Option Json) :=
  match item.asObject with
  | none => .error (.invalidPayload "unsupported responses output item")
  | some object =>
    match responseOutputItemKind object with
    | .error error => .error error
    | .ok .functionCall =>
      (responseFunctionCallItemToChatToolCall codec object toolRegistry false).map some
    | .ok .customToolCall =>
      (responseCustomToolCallItemToChatToolCall codec object toolRegistry).map some
    | .ok .message | .ok .agentMessage | .ok .reasoning => .ok none

structure DocumentParts where
  assistantMessage : Option Json := none
  toolCalls : List Json := []
  reasoningContent : String := ""

def addItem (parts : DocumentParts) (item : Json) : Except ProtocolError DocumentParts := do
  match ← responsesReasoningText item with
  | some reasoning => return { parts with reasoningContent := parts.reasoningContent ++ reasoning }
  | none =>
    match ← responseOutputItemToChatMessage codec item with
    | some message =>
      if parts.assistantMessage.isSome then
        throw (.invalidPayload "multiple assistant messages are not supported when converting Responses payloads to chat payloads")
      return { parts with assistantMessage := some message }
    | none =>
      match ← responseOutputItemToChatToolCall codec toolRegistry item with
      | some toolCall => return { parts with toolCalls := parts.toolCalls ++ [toolCall] }
      | none => return parts

def DocumentParts.finishReason (parts : DocumentParts) : String :=
  if parts.toolCalls.isEmpty then "stop" else "tool_calls"

def DocumentParts.message (parts : DocumentParts) : Json :=
  .object
    ([("role", .string "assistant"),
      ("content", (parts.assistantMessage.bind (·.get "content")).getD .null)] ++
      (if parts.toolCalls.isEmpty then [] else [("tool_calls", .array parts.toolCalls)]) ++
      (if parts.reasoningContent = "" then []
        else [("reasoning_content", .string parts.reasoningContent)]))

def responsesResponseToChatPayload (input : Json) : Except ProtocolError Json := do
  match input.str "model", (input.get "output").bind Json.asArray with
  | none, _ => throw (.missingField "model")
  | some _, none => throw (.missingField "output")
  | some model, some outputItems =>
    let parts ← outputItems.foldlM (addItem codec toolRegistry) {}
    return .object
      ([("id", (input.get "id").getD (.string "chatcmpl")), ("object", .string "chat.completion"),
        ("created", (input.get "created").getD (.ofNat 0)), ("model", .string model),
        ("choices", .array
          [.object
            [("index", .ofNat 0), ("message", parts.message),
              ("finish_reason", .string parts.finishReason)]])] ++
        ((input.get "usage").map fun usage =>
          ("usage", responsesUsageToChatUsage usage)).toList)

end Document

def callsTool (item : Json) : Bool :=
  match item.asObject.map responseOutputItemKind with
  | some (.ok .functionCall) | some (.ok .customToolCall) => true
  | _ => false

def listsToolCall (response : Json) : Bool :=
  (((response.get "output").bind Json.asArray).getD []).any callsTool

theorem callsTool_of_reasoning {item : Json} (reasoning : item.str "type" = some "reasoning") :
    callsTool item = false := by
  cases item with
  | object fields =>
    have kind : responseOutputItemKind fields = .ok .reasoning := by
      unfold responseOutputItemKind
      rw [show (Json.field fields "type").bind Json.asStr = some "reasoning" from reasoning]
      rfl
    simp [callsTool, Json.asObject, kind]
  | _ => rfl

theorem responsesReasoningText_none {item : Json}
    (silent : item.str "type" ≠ some "reasoning") : responsesReasoningText item = .ok none := by
  simp [responsesReasoningText, silent]

theorem responsesReasoningText_some {item : Json} {read : Option String}
    (reasoning : item.str "type" = some "reasoning")
    (accepted : responsesReasoningText item = .ok read) : ∃ text, read = some text := by
  simp only [responsesReasoningText, reasoning, if_true] at accepted
  split at accepted
  · cases accepted
  next content _ =>
    obtain ⟨text, -, rfl⟩ := Except.map_eq_ok.1 accepted
    exact ⟨text, rfl⟩

variable {codec : JsonCodec} {toolRegistry : Option ToolAdapterRegistry}

theorem responseOutputItemToChatToolCall_isSome {item : Json} {read : Option Json}
    (accepted : responseOutputItemToChatToolCall codec toolRegistry item = .ok read) :
    read.isSome = callsTool item := by
  unfold responseOutputItemToChatToolCall at accepted
  split at accepted
  · cases accepted
  next object known =>
    rw [callsTool, known]
    cases kind : responseOutputItemKind object with
    | error error => simp [kind] at accepted
    | ok value =>
      cases value <;> simp only [kind, Except.map_eq_ok, Except.ok.injEq] at accepted
      case functionCall | customToolCall =>
        obtain ⟨call, -, rfl⟩ := accepted
        simp [kind]
      all_goals
        subst accepted
        simp [kind]

theorem responseOutputItemToChatMessage_call {item : Json} {read : Option Json}
    (accepted : responseOutputItemToChatMessage codec item = .ok read) (message : read.isSome) :
    callsTool item = false := by
  unfold responseOutputItemToChatMessage at accepted
  split at accepted
  · cases accepted
  next object known =>
    rw [callsTool, known]
    cases kind : responseOutputItemKind object with
    | error error => simp [kind] at accepted
    | ok value =>
      cases value <;> simp only [kind] at accepted ⊢
      case message | agentMessage => simp [kind]
      all_goals
        obtain rfl := Except.ok.inj accepted
        cases message

theorem addItem_toolCalls {parts next : DocumentParts} {item : Json}
    (added : addItem codec toolRegistry parts item = .ok next) :
    next.toolCalls.isEmpty = (parts.toolCalls.isEmpty && !callsTool item) := by
  unfold addItem at added
  obtain ⟨reasoning, read, added⟩ := Except.bind_eq_ok.1 added
  by_cases told : item.str "type" = some "reasoning"
  · obtain ⟨text, rfl⟩ := responsesReasoningText_some told read
    cases added
    simp [callsTool_of_reasoning told]
  · obtain rfl : reasoning = none := by
      rw [responsesReasoningText_none told] at read
      exact (Except.ok.inj read).symm
    obtain ⟨message, converted, added⟩ := Except.bind_eq_ok.1 added
    cases message with
    | some message =>
      have plain := responseOutputItemToChatMessage_call converted rfl
      dsimp only at added
      split at added
      · cases added
      · cases added
        simp [plain]
    | none =>
      obtain ⟨call, listed, added⟩ := Except.bind_eq_ok.1 added
      have called := responseOutputItemToChatToolCall_isSome listed
      cases call with
      | none =>
        cases added
        simp [← called]
      | some call =>
        cases added
        simp [← called]

theorem addItems_toolCalls {items : List Json} {parts final : DocumentParts}
    (added : items.foldlM (addItem codec toolRegistry) parts = .ok final) :
    final.toolCalls.isEmpty = (parts.toolCalls.isEmpty && !items.any callsTool) := by
  induction items generalizing parts with
  | nil =>
    cases added
    simp
  | cons item rest ih =>
    rw [List.foldlM_cons] at added
    obtain ⟨next, first, later⟩ := Except.bind_eq_ok.1 added
    rw [ih later, addItem_toolCalls first, List.any_cons, Bool.not_or, Bool.and_assoc]

def finishReasons (payload : Json) : List Json :=
  (((payload.get "choices").bind Json.asArray).getD []).filterMap fun choice =>
    (choice.get "finish_reason").filter fun reason => !reason.isNull

-- The one finish reason of a converted response is decided by the tool calls it lists.
theorem finishReasons_document {input payload : Json}
    (converted : responsesResponseToChatPayload codec toolRegistry input = .ok payload) :
    finishReasons payload =
      [.string (if listsToolCall input then "tool_calls" else "stop")] := by
  unfold responsesResponseToChatPayload at converted
  split at converted
  · cases converted
  · cases converted
  next model items named listed =>
    obtain ⟨parts, added, converted⟩ := Except.bind_eq_ok.1 converted
    cases converted
    have calls := addItems_toolCalls added
    have reason : parts.finishReason = if items.any callsTool then "tool_calls" else "stop" := by
      rw [DocumentParts.finishReason, calls]
      cases items.any callsTool <;> rfl
    rw [listsToolCall, listed, Option.getD_some, ← reason]
    rfl

end ChatGateway
