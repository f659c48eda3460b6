import ChatGateway.Protocol.ResponsesRequest

set_option autoImplicit false

/-!
# Calls and their outputs in a converted history

A Chat history is accepted when every tool message stands behind the assistant message that made
the call. The conversion of input items keeps this where the calls of a turn come before its
outputs.
-/

namespace ChatGateway

def toolCallsOf (message : Json) : List Json :=
  ((message.get "tool_calls").bind Json.asArray).getD []

def isTool (message : Json) : Bool := message.str "role" = some "tool"

def isAssistant (message : Json) : Bool := message.str "role" = some "assistant"

def makesCall (message : Json) (id : String) : Prop :=
  ∃ call ∈ toolCallsOf message, call.str "id" = some id

/-- The messages end with one that called `id`, or with tool messages behind such a one. -/
def Awaits (messages : List Json) (id : String) : Prop :=
  ∃ earlier assistant tools, messages = earlier ++ assistant :: tools ∧
    isAssistant assistant = true ∧ (∀ tool ∈ tools, isTool tool = true) ∧ makesCall assistant id

def Answered (messages : List Json) : Prop :=
  ∀ before message after, messages = before ++ message :: after → isTool message = true →
    ∃ id, message.str "tool_call_id" = some id ∧ Awaits before id

theorem Answered.push {messages : List Json} {message : Json} (answered : Answered messages)
    (last : isTool message = true →
      ∃ id, message.str "tool_call_id" = some id ∧ Awaits messages id) :
    Answered (messages ++ [message]) := by
  intro before other after split tool
  rcases List.eq_nil_or_concat after with rfl | ⟨more, final, rfl⟩
  · obtain ⟨rfl, same⟩ := List.append_inj' split rfl
    obtain rfl := List.singleton_inj.1 same
    exact last tool
  · rw [List.concat_eq_append, ← List.cons_append, ← List.append_assoc] at split
    obtain ⟨rfl, -⟩ := List.append_inj' split rfl
    exact answered before other more rfl tool

def itemHasType (item : Json) (types : List String) : Bool :=
  (item.str "type").any (· ∈ types)

def isCallItem (item : Json) : Bool := itemHasType item ["function_call", "custom_tool_call"]

def isReasoningItem (item : Json) : Bool := itemHasType item ["reasoning"]

def hasToolRole (item : Json) : Bool :=
  item.str "role" = some "tool" || item.str "role" = some "function" ||
    (item.get "tool_call_id").isSome

def isOutputItem (item : Json) : Bool :=
  itemHasType item ["function_call_output", "custom_tool_call_output"] ||
    !itemHasType item ["reasoning", "function_call", "custom_tool_call", "agent_message"] &&
      hasToolRole item

def callId (item : Json) : Option String :=
  ((item.get "call_id").or (item.get "id")).bind Json.asStr

def outputId (item : Json) : Option String :=
  ((item.get "tool_call_id").or ((item.get "call_id").or (item.get "id"))).bind Json.asStr

section Items

variable (codec : JsonCodec) (context : ConversionContext)

def InputStep.message : InputStep → Option Json
  | .skip => none
  | .merge message | .push message => some message

def itemMessage (item : Json) : Option Json :=
  match inputItemStep codec context item with
  | .ok step => step.message
  | .error _ => none

def itemCalls (item : Json) : List Json :=
  (itemMessage codec context item).elim [] toolCallsOf

def PassedOver (item : Json) : Prop :=
  isReasoningItem item = true ∧ inputItemStep codec context item = .ok .skip

/-- Each output follows its call, with call items and reasoning items between them and, behind
those, outputs. -/
def OutputsFollowCalls (items : List Json) : Prop :=
  ∀ before output after, items = before ++ output :: after → isOutputItem output = true →
    ∃ earlier call calls outputs id, before = earlier ++ call :: (calls ++ outputs) ∧
      isCallItem call = true ∧ callId call = some id ∧ outputId output = some id ∧
      (∀ item ∈ calls, isCallItem item = true ∨ isReasoningItem item = true) ∧
      ∀ item ∈ outputs, isOutputItem item = true ∨ PassedOver codec context item

structure ChatHistoryOf (items messages : List Json) : Prop where
  answered : Answered messages
  calls : messages.flatMap toolCallsOf = items.flatMap (itemCalls codec context)
  callItems : ∀ item ∈ items, isCallItem item = true →
    ∃ call, itemCalls codec context item = [call] ∧ call.str "id" = callId item
  outputs : messages.filter isTool =
    items.filterMap fun item => (itemMessage codec context item).filter isTool
  outputItems : ∀ item ∈ items, isOutputItem item = true →
    ∃ message, itemMessage codec context item = some message ∧ isTool message = true ∧
      message.str "tool_call_id" = outputId item
  apart : messages.IsChain fun first second => ¬ (isAssistant first ∧ isAssistant second)

end Items

variable {codec : JsonCodec} {context : ConversionContext}

inductive StepOf (item : Json) : InputStep → Prop where
  | call {toolCall : Json} (isCall : isCallItem item = true)
      (id : toolCall.str "id" = callId item) :
      StepOf item (.merge (.object
        [("role", .string "assistant"), ("content", .null), ("tool_calls", .array [toolCall])]))
  | passedOver (reasoning : isReasoningItem item = true) : StepOf item .skip
  | reasoning {message : Json} (reasoning : isReasoningItem item = true)
      (notTool : isTool message = false) : StepOf item (.merge message)
  | output {message : Json} (output : isOutputItem item = true) (tool : isTool message = true)
      (id : message.str "tool_call_id" = outputId item) : StepOf item (.push message)
  | misplacedOutput {message : Json} (output : isOutputItem item = true)
      (tool : isTool message = true) : StepOf item (.merge message)
  | spoken {message : Json} (other : isCallItem item = false ∧ isOutputItem item = false)
      (notTool : isTool message = false) : StepOf item (.merge message)
  | heard {message : Json}
      (other : isCallItem item = false ∧ isReasoningItem item = false ∧ isOutputItem item = false)
      (notTool : isTool message = false) (notAssistant : isAssistant message = false) :
      StepOf item (.push message)

theorem toolOutput_spec {object : List (String × Json)} {message : Json}
    (converted : responsesToolOutputObjectToChatMessage object = .ok message) :
    isTool message = true ∧ message.str "tool_call_id" = outputId (.object object) := by
  unfold responsesToolOutputObjectToChatMessage at converted
  dsimp only at converted
  split at converted
  · cases converted
  · cases converted
  next id content known _ =>
    obtain ⟨text, -, rfl⟩ := Except.map_eq_ok.1 converted
    exact ⟨rfl, known.symm⟩

theorem adaptedCall_id {registry : ToolAdapterRegistry} {item call : Json} {strict : Bool}
    (adapted : registry.adaptResponsesFunctionCall codec item strict = .ok call) :
    call.str "id" = callId item := by
  unfold ToolAdapterRegistry.adaptResponsesFunctionCall at adapted
  cases item with
  | object fields =>
    dsimp only [Json.asObject] at adapted
    split at adapted
    · cases adapted
    · split at adapted
      · cases adapted
      · split at adapted
        · cases adapted
        next id known =>
          have called : callId (.object fields) = some id := known
          split at adapted
          · split at adapted
            · cases adapted
            · obtain rfl := Except.ok.inj adapted
              exact called.symm
          · split at adapted
            · cases adapted
            · obtain rfl := Except.ok.inj adapted
              exact called.symm
          · cases adapted
  | _ => cases adapted

theorem messageObject_spec {object : List (String × Json)} {message : Json}
    (converted : responsesMessageObjectToChatMessage codec context object = .ok message) :
    if hasToolRole (.object object) then
      isTool message = true ∧ message.str "tool_call_id" = outputId (.object object)
    else
      isTool message = false ∧ (isAssistant message = true →
        (Json.field object "role").bind Json.asStr = some "assistant") := by
  have sameRole : (((Json.field object "role").bind Json.asStr).getD "user" = "tool" ||
      ((Json.field object "role").bind Json.asStr).getD "user" = "function" ||
      (Json.field object "tool_call_id").isSome) = hasToolRole (.object object) := by
    rw [hasToolRole, Json.str, Json.get_object, Json.get_object]
    cases (Json.field object "role").bind Json.asStr <;> simp
  unfold responsesMessageObjectToChatMessage at converted
  dsimp only at converted
  rw [sameRole] at converted
  cases toolRole : hasToolRole (.object object) with
  | true =>
    rw [toolRole, if_pos rfl] at converted
    rw [if_pos rfl]
    exact toolOutput_spec converted
  | false =>
    rw [toolRole, if_neg Bool.false_ne_true] at converted
    rw [if_neg Bool.false_ne_true]
    split at converted
    · cases converted
    · split at converted
      · cases converted
      · obtain rfl := Except.ok.inj converted
        cases known : (Json.field object "role").bind Json.asStr with
        | none => simp [isTool, isAssistant, Json.str, Json.asStr]
        | some role =>
          by_cases spoken : role = "user" ∨ role = "assistant"
          · rcases spoken with rfl | rfl <;> simp [isTool, isAssistant, Json.str, Json.asStr]
          · simp [isTool, isAssistant, Json.str, Json.asStr, spoken]

theorem assistant_of_message {object : List (String × Json)} {message : Json}
    (converted : responsesMessageObjectToChatMessage codec context object = .ok message)
    (assistant : isAssistant message = true) :
    (Json.field object "role").bind Json.asStr = some "assistant" := by
  have spec := messageObject_spec converted
  split at spec
  · have tool : message.str "role" = some "tool" := of_decide_eq_true spec.1
    simp [isAssistant, tool] at assistant
  · exact spec.2 assistant

theorem placeMessage_spec {object : List (String × Json)} {message : Json} {role : Option String}
    (other : itemHasType (.object object)
      ["reasoning", "function_call", "custom_tool_call", "agent_message",
        "function_call_output", "custom_tool_call_output"] = false)
    (converted : responsesMessageObjectToChatMessage codec context object = .ok message)
    (said : isAssistant message = true → role = some "assistant") :
    StepOf (.object object) (placeMessage role message) := by
  have kinds : isCallItem (.object object) = false ∧ isReasoningItem (.object object) = false ∧
      isOutputItem (.object object) = hasToolRole (.object object) := by
    unfold isCallItem isReasoningItem isOutputItem
    unfold itemHasType at other ⊢
    cases known : (Json.object object).str "type" with
    | none => simp
    | some type =>
      rw [known] at other
      simp only [Option.any_some, List.mem_cons, List.not_mem_nil, or_false,
        decide_eq_false_iff_not, not_or] at other
      simp [other]
  obtain ⟨notCall, notReasoning, output⟩ := kinds
  have spec := messageObject_spec converted
  unfold placeMessage
  cases toolRole : hasToolRole (.object object) with
  | true =>
    rw [if_pos toolRole] at spec
    rw [toolRole] at output
    split
    · exact .misplacedOutput output spec.1
    · exact .output output spec.1 spec.2
  | false =>
    rw [toolRole, if_neg Bool.false_ne_true] at spec
    rw [toolRole] at output
    split
    · exact .spoken ⟨notCall, output⟩ spec.1
    next notSaid =>
      have notAssistant : isAssistant message = false :=
        Bool.eq_false_iff.2 fun assistant => notSaid (said assistant)
      exact .heard ⟨notCall, notReasoning, output⟩ spec.1 notAssistant

theorem reasoningStep_spec {item : Json} {step : InputStep} (reasoning : isReasoningItem item = true)
    (accepted : reasoningStep context item = .ok step) : StepOf item step := by
  unfold reasoningStep at accepted
  split at accepted
  · obtain rfl := Except.ok.inj accepted
    exact .passedOver reasoning
  · obtain ⟨found, -, rfl⟩ := Except.map_eq_ok.1 accepted
    split
    · exact .passedOver reasoning
    · split
      · exact .passedOver reasoning
      · exact .reasoning reasoning rfl

theorem callStep_spec {item : Json} {step : InputStep} (call : isCallItem item = true)
    (accepted : callStep codec context item = .ok step) : StepOf item step := by
  obtain ⟨toolCall, adapted, rfl⟩ := Except.map_eq_ok.1 accepted
  exact .call call (adaptedCall_id adapted)

theorem agentMessage_role {object : List (String × Json)} {message : Json}
    (converted : agentMessageObjectToChatMessage codec object = .ok message) :
    message.str "role" = some "assistant" := by
  unfold agentMessageObjectToChatMessage at converted
  split at converted
  · cases converted
  · dsimp only at converted
    split at converted
    · cases converted
    · obtain rfl := Except.ok.inj converted
      rfl

theorem outputId_adapted {object adapted : List (String × Json)}
    (changed : adaptCallOutput object = .ok adapted) :
    outputId (.object adapted) = outputId (.object object) := by
  unfold adaptCallOutput at changed
  split at changed
  · obtain rfl := Except.ok.inj changed
    simp [outputId, Json.field_setField]
  · obtain rfl := Except.ok.inj changed
    rfl
  · obtain rfl := Except.ok.inj changed
    rfl
  · cases changed

theorem inputItemStep_spec {item : Json} {step : InputStep}
    (accepted : inputItemStep codec context item = .ok step) : StepOf item step := by
  unfold inputItemStep at accepted
  cases item with
  | string content =>
    obtain rfl := Except.ok.inj accepted
    exact .heard ⟨rfl, rfl, rfl⟩ rfl rfl
  | object object =>
    have kind : ∀ types, itemHasType (.object object) types =
        ((Json.field object "type").bind Json.asStr).any (· ∈ types) := fun _ => rfl
    dsimp only at accepted
    split at accepted
    next known => exact reasoningStep_spec (by simp [isReasoningItem, kind, known]) accepted
    next known => exact callStep_spec (by simp [isCallItem, kind, known]) accepted
    next known => exact callStep_spec (by simp [isCallItem, kind, known]) accepted
    next known =>
      obtain ⟨message, converted, rfl⟩ := Except.map_eq_ok.1 accepted
      obtain ⟨tool, id⟩ := toolOutput_spec converted
      exact .output (by simp [isOutputItem, kind, known]) tool id
    next known =>
      split at accepted
      · cases accepted
      next adapted changed =>
        obtain ⟨message, converted, rfl⟩ := Except.map_eq_ok.1 accepted
        obtain ⟨tool, id⟩ := toolOutput_spec converted
        rw [outputId_adapted changed] at id
        exact .output (by simp [isOutputItem, kind, known]) tool id
    next known =>
      obtain ⟨message, converted, rfl⟩ := Except.map_eq_ok.1 accepted
      exact placeMessage_spec (by simp [kind, known]) converted (assistant_of_message converted)
    next known =>
      obtain ⟨message, converted, rfl⟩ := Except.map_eq_ok.1 accepted
      have said : message.str "role" = some "assistant" := agentMessage_role converted
      have spoken : isTool message = false := by simp [isTool, said]
      rw [said]
      exact .spoken (by simp [isCallItem, isOutputItem, kind, known]) spoken
    next notReasoning notCall notCustomCall notOutput notCustomOutput notMessage notAgent =>
      have other : itemHasType (.object object)
          ["reasoning", "function_call", "custom_tool_call", "agent_message",
            "function_call_output", "custom_tool_call_output"] = false := by
        rw [kind]
        cases known : (Json.field object "type").bind Json.asStr <;> simp_all
      split at accepted
      · obtain ⟨message, converted, rfl⟩ := Except.map_eq_ok.1 accepted
        exact placeMessage_spec other converted (assistant_of_message converted)
      · split at accepted
        · obtain ⟨message, converted, rfl⟩ := Except.map_eq_ok.1 accepted
          exact placeMessage_spec other converted of_decide_eq_true
        · cases accepted
  | _ => cases accepted

theorem mergeContent_field {pending object merged : List (String × Json)} {key : String}
    (other : key ≠ "content") (result : mergeContent codec pending object = .ok merged) :
    Json.field merged key = Json.field pending key := by
  unfold mergeContent at result
  split at result
  · obtain rfl := Except.ok.inj result
    rfl
  · obtain ⟨content, -, rfl⟩ := Except.map_eq_ok.1 result
    rw [Json.field_setField, if_neg other.symm]

theorem mergeReasoning_field {pending object : List (String × Json)} {key : String}
    (other : key ≠ "reasoning_content") :
    Json.field (mergeReasoning pending object) key = Json.field pending key := by
  unfold mergeReasoning
  dsimp only
  split
  · rfl
  · rw [Json.field_setField, if_neg other.symm]

theorem mergeToolCalls_spec {pending object merged : List (String × Json)}
    (result : mergeToolCalls pending object = .ok merged) :
    (Json.object merged).str "role" = (Json.object pending).str "role" ∧
      toolCallsOf (.object merged) = toolCallsOf (.object pending) ++ toolCallsOf (.object object) := by
  unfold mergeToolCalls at result
  split at result
  next noCalls =>
    obtain rfl := Except.ok.inj result
    simp [toolCallsOf, noCalls]
  next calls some_calls =>
    split at result
    next held known =>
      obtain rfl := Except.ok.inj result
      have heldCalls : toolCallsOf (.object pending) = held := by
        cases stored : Json.field pending "tool_calls" with
        | none =>
          rw [stored] at known
          obtain rfl := Json.array.inj known
          simp [toolCallsOf, stored]
        | some value =>
          rw [stored] at known
          obtain rfl : value = .array held := known
          simp [toolCallsOf, stored, Json.asArray]
      constructor
      · simp [Json.str, Json.field_setField]
      · rw [heldCalls]
        simp [toolCallsOf, Json.field_setField, Json.asArray, some_calls]
    · cases result

def pendingCalls (pendingAssistant : Option (List (String × Json))) : List Json :=
  pendingAssistant.elim [] fun pending => toolCallsOf (.object pending)

theorem merge_spec {pendingAssistant : Option (List (String × Json))} {message : Json}
    {merged : List (String × Json)}
    (held : ∀ pending, pendingAssistant = some pending → isAssistant (.object pending) = true)
    (result : mergeAssistantChatMessage codec pendingAssistant message = .ok merged) :
    isTool message = false ∧ isAssistant (.object merged) = true ∧
      toolCallsOf (.object merged) = pendingCalls pendingAssistant ++ toolCallsOf message := by
  unfold mergeAssistantChatMessage at result
  cases message with
  | object object =>
    dsimp only [Json.asObject] at result
    split at result
    · cases result
    next said =>
      split at result
      · cases result
      next withContent merging =>
        have notTool : isTool (.object object) = false := by
          refine Bool.eq_false_iff.2 fun tool => ?_
          have role : (Json.field object "role").bind Json.asStr = some "tool" :=
            of_decide_eq_true tool
          simp [role] at said
        obtain ⟨role, calls⟩ := mergeToolCalls_spec result
        have kept : ∀ key, key ≠ "content" → key ≠ "reasoning_content" →
            Json.field (mergeReasoning withContent object) key =
              Json.field (pendingAssistant.getD
                [("role", .string "assistant"), ("content", .null)]) key := by
          intro key notContent notReasoning
          rw [mergeReasoning_field notReasoning, mergeContent_field notContent merging]
        refine ⟨notTool, ?_, ?_⟩
        · rw [isAssistant, role, Json.str, Json.get_object, kept "role" (by decide) (by decide)]
          cases pendingAssistant with
          | none => rfl
          | some pending => exact held pending rfl
        · rw [calls]
          congr 1
          rw [toolCallsOf, Json.get_object, kept "tool_calls" (by decide) (by decide)]
          cases pendingAssistant <;> rfl
  | _ => cases result

def ChatHistory.Said (history : ChatHistory) : Prop :=
  ∀ pending, history.pendingAssistant = some pending → isAssistant (.object pending) = true

structure Kept (codec : JsonCodec) (context : ConversionContext) (items : List Json)
    (history : ChatHistory) : Prop where
  said : history.Said
  ended : ∀ message ∈ history.messages.getLast?, isAssistant message = false
  apart : history.messages.IsChain fun first second => ¬ (isAssistant first ∧ isAssistant second)
  calls : history.messages.flatMap toolCallsOf ++ pendingCalls history.pendingAssistant =
    items.flatMap (itemCalls codec context)
  outputs : history.messages.filter isTool =
    items.filterMap fun item => (itemMessage codec context item).filter isTool
  callItems : ∀ item ∈ items, isCallItem item = true →
    ∃ call, itemCalls codec context item = [call] ∧ call.str "id" = callId item
  outputItems : ∀ item ∈ items, isOutputItem item = true →
    ∃ message, itemMessage codec context item = some message ∧ isTool message = true ∧
      message.str "tool_call_id" = outputId item

theorem flush_messages (history : ChatHistory) :
    history.flushPendingAssistantMessage.messages =
      history.messages ++ (history.pendingAssistant.map Json.object).toList := rfl

theorem isTool_of_assistant {message : Json} (assistant : isAssistant message = true) :
    isTool message = false := by
  have said : message.str "role" = some "assistant" := of_decide_eq_true assistant
  simp [isTool, said]

section Step

variable {items : List Json} {item : Json} {history next : ChatHistory}

theorem Kept.flush_apart (kept : Kept codec context items history) :
    history.flushPendingAssistantMessage.messages.IsChain
      fun first second => ¬ (isAssistant first ∧ isAssistant second) := by
  rw [flush_messages, List.isChain_append]
  refine ⟨kept.apart, ?_, ?_⟩
  · cases history.pendingAssistant <;> simp
  · rintro last isLast first - ⟨assistant, -⟩
    rw [kept.ended last isLast] at assistant
    cases assistant

theorem Kept.flush_calls (kept : Kept codec context items history) :
    history.flushPendingAssistantMessage.messages.flatMap toolCallsOf =
      items.flatMap (itemCalls codec context) := by
  rw [flush_messages, List.flatMap_append, ← kept.calls]
  cases history.pendingAssistant <;> simp [pendingCalls]

theorem Kept.flush_outputs (kept : Kept codec context items history) :
    history.flushPendingAssistantMessage.messages.filter isTool =
      items.filterMap fun item => (itemMessage codec context item).filter isTool := by
  rw [flush_messages, List.filter_append, kept.outputs]
  cases known : history.pendingAssistant with
  | none => simp
  | some pending => simp [isTool_of_assistant (kept.said pending known)]

theorem itemMessage_of_step {step : InputStep}
    (accepted : inputItemStep codec context item = .ok step) :
    itemMessage codec context item = step.message := by
  rw [itemMessage, accepted]

theorem isCallItem_of_reasoning (reasoning : isReasoningItem item = true) :
    isCallItem item = false := by
  unfold isReasoningItem isCallItem itemHasType at *
  cases known : item.str "type" <;> simp_all

theorem isCallItem_of_output (output : isOutputItem item = true) : isCallItem item = false := by
  unfold isOutputItem isCallItem itemHasType at *
  cases known : item.str "type" with
  | none => rfl
  | some type =>
    rw [known] at output
    by_cases call : type = "function_call" ∨ type = "custom_tool_call"
    · rcases call with rfl | rfl <;> simp at output
    · simpa using call

theorem isReasoningItem_of_output (output : isOutputItem item = true) :
    isReasoningItem item = false := by
  unfold isOutputItem isReasoningItem itemHasType at *
  cases known : item.str "type" with
  | none => rfl
  | some type =>
    rw [known] at output
    by_cases reasoning : type = "reasoning"
    · subst reasoning
      simp at output
    · simpa using reasoning

theorem callItem_merged {step : InputStep} (accepted : inputItemStep codec context item = .ok step)
    (call : isCallItem item = true) :
    ∃ message toolCall, step = .merge message ∧ toolCallsOf message = [toolCall] ∧
      toolCall.str "id" = callId item := by
  cases inputItemStep_spec accepted with
  | call _ id => exact ⟨_, _, rfl, rfl, id⟩
  | passedOver reasoning => simp [isCallItem_of_reasoning reasoning] at call
  | reasoning reasoning _ => simp [isCallItem_of_reasoning reasoning] at call
  | output output _ _ => simp [isCallItem_of_output output] at call
  | misplacedOutput output _ => simp [isCallItem_of_output output] at call
  | spoken other _ => simp [other.1] at call
  | heard other _ _ => simp [other.1] at call

theorem outputItem_placed {step : InputStep}
    (accepted : inputItemStep codec context item = .ok step) (output : isOutputItem item = true) :
    ∃ message, isTool message = true ∧ (step = .merge message ∨
      step = .push message ∧ message.str "tool_call_id" = outputId item) := by
  cases inputItemStep_spec accepted with
  | call isCall _ => simp [isCallItem_of_output output] at isCall
  | passedOver reasoning => simp [isReasoningItem_of_output output] at reasoning
  | reasoning reasoning _ => simp [isReasoningItem_of_output output] at reasoning
  | output _ tool id => exact ⟨_, tool, .inr ⟨rfl, id⟩⟩
  | misplacedOutput _ tool => exact ⟨_, tool, .inl rfl⟩
  | spoken other _ => simp [other.2] at output
  | heard other _ _ => simp [other.2.2] at output

theorem pushed_notAssistant {message : Json}
    (accepted : inputItemStep codec context item = .ok (.push message)) :
    isAssistant message = false := by
  cases inputItemStep_spec accepted with
  | output _ tool _ =>
    refine Bool.eq_false_iff.2 fun assistant => ?_
    rw [isTool_of_assistant assistant] at tool
    cases tool
  | heard _ _ notAssistant => exact notAssistant

theorem pushedTool_output {message : Json}
    (accepted : inputItemStep codec context item = .ok (.push message))
    (tool : isTool message = true) :
    isOutputItem item = true ∧ message.str "tool_call_id" = outputId item := by
  cases inputItemStep_spec accepted with
  | output output _ id => exact ⟨output, id⟩
  | heard _ notTool _ =>
    rw [notTool] at tool
    cases tool

inductive Translated (codec : JsonCodec) (context : ConversionContext) (history : ChatHistory)
    (item : Json) : ChatHistory → Prop where
  | skip (accepted : inputItemStep codec context item = .ok .skip) :
      Translated codec context history item history
  | merge {message : Json} {merged : List (String × Json)}
      (accepted : inputItemStep codec context item = .ok (.merge message))
      (notTool : isTool message = false) (assistant : isAssistant (.object merged) = true)
      (calls : toolCallsOf (.object merged) =
        pendingCalls history.pendingAssistant ++ toolCallsOf message) :
      Translated codec context history item { history with pendingAssistant := some merged }
  | push {message : Json} (accepted : inputItemStep codec context item = .ok (.push message)) :
      Translated codec context history item (history.push message)

theorem translated_of_accepted
    (said : history.Said)
    (translated : translateResponsesInputItem codec context history item = .ok next) :
    Translated codec context history item next := by
  unfold translateResponsesInputItem at translated
  split at translated
  · cases translated
  next step accepted =>
    cases step with
    | skip =>
      obtain rfl := Except.ok.inj translated
      exact .skip accepted
    | merge message =>
      obtain ⟨merged, result, rfl⟩ := Except.map_eq_ok.1 translated
      obtain ⟨notTool, assistant, calls⟩ := merge_spec said result
      exact .merge accepted notTool assistant calls
    | push message =>
      obtain rfl := Except.ok.inj translated
      exact .push accepted

theorem Translated.said (translated : Translated codec context history item next)
    (said : history.Said) : next.Said := by
  cases translated with
  | skip _ => exact said
  | merge _ _ assistant _ =>
    rintro pending ⟨⟩
    exact assistant
  | push _ =>
    rintro pending ⟨⟩

theorem Translated.callItem (translated : Translated codec context history item next)
    (call : isCallItem item = true) :
    ∃ toolCall, itemCalls codec context item = [toolCall] ∧ toolCall.str "id" = callId item := by
  have merged {step : InputStep} (accepted : inputItemStep codec context item = .ok step) :
      ∃ toolCall, itemCalls codec context item = [toolCall] ∧
        toolCall.str "id" = callId item := by
    obtain ⟨message, toolCall, rfl, calls, id⟩ := callItem_merged accepted call
    refine ⟨toolCall, ?_, id⟩
    rw [itemCalls, itemMessage_of_step accepted]
    exact calls
  cases translated with
  | skip accepted => exact merged accepted
  | merge accepted => exact merged accepted
  | push accepted => exact merged accepted

-- An output that would be merged is refused, so one that is accepted is a message of its own.
theorem Translated.outputItem (translated : Translated codec context history item next)
    (output : isOutputItem item = true) :
    ∃ message, inputItemStep codec context item = .ok (.push message) ∧ isTool message = true ∧
      message.str "tool_call_id" = outputId item ∧ next = history.push message := by
  cases translated with
  | skip accepted =>
    obtain ⟨_, -, impossible | ⟨impossible, -⟩⟩ := outputItem_placed accepted output
    · cases impossible
    · cases impossible
  | merge accepted notTool =>
    obtain ⟨_, tool, same | ⟨impossible, -⟩⟩ := outputItem_placed accepted output
    · obtain rfl := InputStep.merge.inj same
      rw [notTool] at tool
      cases tool
    · cases impossible
  | push accepted =>
    obtain ⟨_, tool, impossible | ⟨same, id⟩⟩ := outputItem_placed accepted output
    · cases impossible
    · obtain rfl := InputStep.push.inj same
      exact ⟨_, accepted, tool, id, rfl⟩

theorem Kept.step (kept : Kept codec context items history)
    (translated : Translated codec context history item next) :
    Kept codec context (items ++ [item]) next := by
  have callItems : ∀ other ∈ items ++ [item], isCallItem other = true →
      ∃ call, itemCalls codec context other = [call] ∧ call.str "id" = callId other := by
    intro other member call
    rcases List.mem_append.1 member with earlier | last
    · exact kept.callItems other earlier call
    · obtain rfl := List.mem_singleton.1 last
      exact translated.callItem call
  have outputItems : ∀ other ∈ items ++ [item], isOutputItem other = true →
      ∃ message, itemMessage codec context other = some message ∧ isTool message = true ∧
        message.str "tool_call_id" = outputId other := by
    intro other member output
    rcases List.mem_append.1 member with earlier | last
    · exact kept.outputItems other earlier output
    · obtain rfl := List.mem_singleton.1 last
      obtain ⟨message, accepted, tool, id, -⟩ := translated.outputItem output
      exact ⟨message, itemMessage_of_step accepted, tool, id⟩
  have said := translated.said kept.said
  cases translated with
  | skip accepted =>
    have nothing : itemMessage codec context item = none := itemMessage_of_step accepted
    exact
      { kept with
        calls := by simp [kept.calls, itemCalls, nothing]
        outputs := by simp [kept.outputs, nothing]
        callItems
        outputItems }
  | @merge message merged accepted notTool assistant calls =>
    have converted : itemMessage codec context item = some message := itemMessage_of_step accepted
    exact
      { said
        ended := kept.ended
        apart := kept.apart
        calls := by
          rw [List.flatMap_append, ← kept.calls, List.append_assoc]
          simp [pendingCalls, calls, itemCalls, converted]
        outputs := by simp [kept.outputs, converted, notTool]
        callItems
        outputItems }
  | @push message accepted =>
    have converted : itemMessage codec context item = some message := itemMessage_of_step accepted
    have notAssistant := pushed_notAssistant accepted
    exact
      { said
        ended := by simp [ChatHistory.push, notAssistant]
        apart := by
          rw [ChatHistory.push, List.isChain_append]
          refine ⟨kept.flush_apart, List.isChain_singleton _, ?_⟩
          rintro last - first ⟨⟩ ⟨-, assistant⟩
          rw [notAssistant] at assistant
          cases assistant
        calls := by
          rw [ChatHistory.push, List.flatMap_append, kept.flush_calls]
          simp [ChatHistory.flushPendingAssistantMessage, pendingCalls, itemCalls, converted]
        outputs := by
          rw [ChatHistory.push, List.filter_append, kept.flush_outputs, List.filterMap_append]
          cases tool : isTool message <;> simp [Option.filter, converted, tool]
        callItems
        outputItems }

end Step

def HeldBack (history : ChatHistory) (id : String) : Prop :=
  ∃ pending, history.pendingAssistant = some pending ∧ makesCall (.object pending) id

def Stands (history : ChatHistory) (id : String) : Prop :=
  HeldBack history id ∨ history.pendingAssistant = none ∧ Awaits history.messages id

section Standing

variable {items : List Json} {item : Json} {history next : ChatHistory} {id : String}

theorem Stands.flush (stands : Stands history id) (said : history.Said) :
    Awaits history.flushPendingAssistantMessage.messages id := by
  rw [flush_messages]
  rcases stands with ⟨pending, known, makes⟩ | ⟨nothing, awaits⟩
  · rw [known]
    exact ⟨history.messages, .object pending, [], rfl, said pending known, by simp, makes⟩
  · rw [nothing]
    simpa using awaits

theorem Answered.flush (answered : Answered history.messages) (said : history.Said) :
    Answered history.flushPendingAssistantMessage.messages := by
  rw [flush_messages]
  cases known : history.pendingAssistant with
  | none => simpa using answered
  | some pending =>
    refine answered.push fun tool => ?_
    rw [isTool_of_assistant (said pending known)] at tool
    cases tool

theorem Awaits.push {messages : List Json} {message : Json} (awaits : Awaits messages id)
    (tool : isTool message = true) : Awaits (messages ++ [message]) id := by
  obtain ⟨earlier, assistant, tools, rfl, isAssistant, allTools, makes⟩ := awaits
  refine ⟨earlier, assistant, tools ++ [message], by simp, isAssistant, ?_, makes⟩
  intro other member
  rcases List.mem_append.1 member with before | last
  · exact allTools other before
  · obtain rfl := List.mem_singleton.1 last
    exact tool

theorem pushed_neither {message : Json}
    (accepted : inputItemStep codec context item = .ok (.push message)) :
    isCallItem item = false ∧ isReasoningItem item = false := by
  cases inputItemStep_spec accepted with
  | output output _ _ => exact ⟨isCallItem_of_output output, isReasoningItem_of_output output⟩
  | heard other _ _ => exact ⟨other.1, other.2.1⟩

theorem Translated.heldBack (translated : Translated codec context history item next)
    (call : isCallItem item = true) (known : callId item = some id) : HeldBack next id := by
  cases translated with
  | skip accepted =>
    obtain ⟨_, _, impossible, -⟩ := callItem_merged accepted call
    cases impossible
  | merge accepted _ _ calls =>
    obtain ⟨_, toolCall, same, made, called⟩ := callItem_merged accepted call
    obtain rfl := InputStep.merge.inj same
    refine ⟨_, rfl, toolCall, ?_, called.trans known⟩
    rw [calls, made]
    simp
  | push accepted =>
    obtain ⟨_, _, impossible, -⟩ := callItem_merged accepted call
    cases impossible

theorem HeldBack.step (heldBack : HeldBack history id)
    (translated : Translated codec context history item next)
    (callOrReasoning : isCallItem item = true ∨ isReasoningItem item = true) : HeldBack next id := by
  cases translated with
  | skip _ => exact heldBack
  | merge _ _ _ calls =>
    obtain ⟨pending, known, call, member, called⟩ := heldBack
    refine ⟨_, rfl, call, ?_, called⟩
    rw [calls, known]
    exact List.mem_append_left _ member
  | push accepted =>
    obtain ⟨notCall, notReasoning⟩ := pushed_neither accepted
    simp [notCall, notReasoning] at callOrReasoning

theorem Stands.step (stands : Stands history id)
    (said : history.Said)
    (translated : Translated codec context history item next)
    (outputOrPassed : isOutputItem item = true ∨ PassedOver codec context item) :
    Stands next id := by
  rcases outputOrPassed with output | ⟨-, skipped⟩
  · obtain ⟨message, -, tool, -, rfl⟩ := translated.outputItem output
    exact .inr ⟨rfl, (stands.flush said).push tool⟩
  · cases translated with
    | skip _ => exact stands
    | merge accepted =>
      rw [skipped] at accepted
      cases accepted
    | push accepted =>
      rw [skipped] at accepted
      cases accepted

end Standing

section Run

variable {items : List Json} {start history : ChatHistory}

theorem Kept.run (initial : Kept codec context [] start)
    (run : translateInputItems codec context start items = .ok history) :
    Kept codec context items history := by
  induction items using List.reverseRecOn generalizing history with
  | nil =>
    cases run
    exact initial
  | append_singleton before item ih =>
    obtain ⟨earlier, ran, stepped⟩ := Except.foldlM_concat.1 run
    have kept := ih ran
    exact kept.step (translated_of_accepted kept.said stepped)

-- A run over a call, what may be held back with it, and outputs stands behind the call.
theorem stands_of_run (said : start.Said) {earlier calls outputs : List Json} {call : Json}
    {id : String}
    (run : translateInputItems codec context start (earlier ++ call :: (calls ++ outputs)) =
      .ok history)
    (isCall : isCallItem call = true) (known : callId call = some id)
    (between : ∀ item ∈ calls, isCallItem item = true ∨ isReasoningItem item = true)
    (behind : ∀ item ∈ outputs, isOutputItem item = true ∨ PassedOver codec context item) :
    Stands history id ∧ history.Said := by
  unfold translateInputItems at run
  rw [List.foldlM_append, Except.bind_eq_ok] at run
  obtain ⟨before, ranBefore, run⟩ := run
  rw [List.foldlM_cons, Except.bind_eq_ok] at run
  obtain ⟨called, stepped, run⟩ := run
  rw [List.foldlM_append, Except.bind_eq_ok] at run
  obtain ⟨held, ranCalls, ranOutputs⟩ := run
  have saidBefore : before.Said :=
    Except.foldlM_invariant
      (fun _ _ _ _ said stepped => (translated_of_accepted said stepped).said said) said ranBefore
  have translated := translated_of_accepted saidBefore stepped
  have heldBack : HeldBack held id ∧ held.Said := by
    refine @Except.foldlM_invariant _ _ _ _ (fun state => HeldBack state id ∧ state.Said) _ _ _ ?_
      ⟨translated.heldBack isCall known, translated.said saidBefore⟩ ranCalls
    rintro state item next member ⟨heldBack, said⟩ stepped
    have translated := translated_of_accepted said stepped
    exact ⟨heldBack.step translated (between item member), translated.said said⟩
  refine @Except.foldlM_invariant _ _ _ _ (fun state => Stands state id ∧ state.Said) _ _ _ ?_
    ⟨.inl heldBack.1, heldBack.2⟩ ranOutputs
  rintro state item next member ⟨stands, said⟩ stepped
  have translated := translated_of_accepted said stepped
  exact ⟨stands.step said translated (behind item member), translated.said said⟩

theorem OutputsFollowCalls.before {items : List Json} {item : Json}
    (follow : OutputsFollowCalls codec context (items ++ [item])) :
    OutputsFollowCalls codec context items := by
  intro before output after split isOutput
  refine follow before output (after ++ [item]) ?_ isOutput
  rw [split]
  simp

theorem answered_of_run (said : start.Said) (answered : Answered start.messages)
    (follow : OutputsFollowCalls codec context items)
    (run : translateInputItems codec context start items = .ok history) :
    Answered history.messages ∧ history.Said := by
  induction items using List.reverseRecOn generalizing history with
  | nil =>
    cases run
    exact ⟨answered, said⟩
  | append_singleton before item ih =>
    obtain ⟨earlier, ran, stepped⟩ := Except.foldlM_concat.1 run
    obtain ⟨answeredBefore, saidBefore⟩ := ih follow.before ran
    have translated := translated_of_accepted saidBefore stepped
    refine ⟨?_, translated.said saidBefore⟩
    cases translated with
    | skip _ => exact answeredBefore
    | merge _ _ _ _ => exact answeredBefore
    | @push message accepted =>
      refine (answeredBefore.flush saidBefore).push fun tool => ?_
      -- Only an output becomes a tool message, and its call is the one it stands behind.
      obtain ⟨output, outputOf⟩ := pushedTool_output accepted tool
      obtain ⟨sooner, call, calls, outputs, id, rfl, isCall, known, outputKnown, between, behind⟩ :=
        follow before item [] rfl output
      have stands := stands_of_run said ran isCall known between behind
      exact ⟨id, outputOf.trans outputKnown, stands.1.flush stands.2⟩

end Run

theorem field_eq_none {fields : List (String × Json)} {key : String}
    (other : ∀ entry ∈ fields, entry.1 ≠ key) : Json.field fields key = none := by
  induction fields with
  | nil => rfl
  | cons head rest ih =>
    obtain ⟨name, value⟩ := head
    have differs : name ≠ key := other _ List.mem_cons_self
    rw [Json.field_cons, if_neg differs]
    exact ih fun entry member => other entry (List.mem_cons_of_mem _ member)

theorem copyField_key {input : Json} {field : String} {entry : String × Json}
    (member : entry ∈ copyField input field) : entry.1 = field := by
  simp only [copyField, Option.mem_toList, Option.map_eq_some_iff] at member
  obtain ⟨_, -, rfl⟩ := member
  rfl

theorem renamedField_key {object : Option (List (String × Json))} {field name : String}
    {entry : String × Json} (member : entry ∈ renamedField object field name) :
    entry.1 = name := by
  simp only [renamedField, Option.mem_toList, Option.map_eq_some_iff] at member
  obtain ⟨_, -, rfl⟩ := member
  rfl

theorem chatPayload_messages {input payload : Json}
    (converted : responsesRequestToChatPayload codec context input = .ok payload) :
    ∃ messages, chatRequestMessages codec context input = .ok messages ∧
      payload.get "messages" = some (.array messages) := by
  unfold responsesRequestToChatPayload at converted
  split at converted
  · cases converted
  next model _ =>
    rw [Except.bind_eq_ok] at converted
    obtain ⟨messages, made, converted⟩ := converted
    rw [Except.bind_eq_ok] at converted
    obtain ⟨tools, -, converted⟩ := converted
    rw [Except.bind_eq_ok] at converted
    obtain ⟨toolChoice, -, converted⟩ := converted
    obtain rfl := Except.ok.inj converted
    refine ⟨messages, made, ?_⟩
    rw [Json.get_object, Json.field_append, field_eq_none]
    · rfl
    · intro entry member
      simp only [List.mem_append, List.mem_flatMap, Option.mem_toList, Option.map_eq_some_iff,
        List.mem_ite_nil_left, List.mem_singleton] at member
      rcases member with (((((((((rfl | ⟨field, copied, member⟩) | ⟨_, -, rfl⟩) | ⟨-, rfl⟩) |
        ⟨_, -, rfl⟩) | member) | member) | member) | member) | ⟨-, rfl⟩)
      · simp
      · rw [copyField_key member]
        rintro rfl
        simp [copiedFields] at copied
      · simp
      · simp
      · simp
      · simp [copyField_key member]
      · simp [renamedField_key member]
      · simp [renamedField_key member]
      · simp [renamedField_key member]
      · simp

theorem instructionMessages_kept {input : Json} {messages : List Json}
    (made : instructionMessages codec context input = .ok messages) :
    Kept codec context [] { messages } ∧ Answered messages := by
  have told : messages = [] ∨ ∃ content, messages = [chatMessage "system" content] := by
    unfold instructionMessages at made
    split at made
    · exact .inl (Except.ok.inj made).symm
    · obtain ⟨content, -, rfl⟩ := Except.map_eq_ok.1 made
      exact .inr ⟨content, rfl⟩
  have noPending : ({ messages } : ChatHistory).Said := by
    rintro pending ⟨⟩
  have notTool : ∀ message ∈ messages, isTool message = false := by
    rcases told with rfl | ⟨content, rfl⟩ <;> simp [isTool, chatMessage, Json.str, Json.asStr]
  constructor
  · rcases told with rfl | ⟨content, rfl⟩
    · exact
        { said := noPending
          ended := by simp
          apart := List.isChain_nil
          calls := rfl
          outputs := rfl
          callItems := by simp
          outputItems := by simp }
    · exact
        { said := noPending
          ended := by simp [isAssistant, chatMessage, Json.str, Json.asStr]
          apart := List.isChain_singleton _
          calls := rfl
          outputs := rfl
          callItems := by simp
          outputItems := by simp }
  · rintro before message after rfl tool
    rw [notTool message (by simp)] at tool
    cases tool

theorem answered_history (codec : JsonCodec) (context : ConversionContext) {input payload : Json}
    {items : List Json} (listed : input.get "input" = some (.array items))
    (follow : OutputsFollowCalls codec context items)
    (converted : responsesRequestToChatPayload codec context input = .ok payload) :
    ∃ messages, payload.get "messages" = some (.array messages) ∧
      ChatHistoryOf codec context items messages := by
  obtain ⟨messages, made, stored⟩ := chatPayload_messages converted
  refine ⟨messages, stored, ?_⟩
  unfold chatRequestMessages at made
  rw [Except.bind_eq_ok] at made
  obtain ⟨instructions, told, made⟩ := made
  rw [Except.bind_eq_ok] at made
  obtain ⟨history, run, flushed⟩ := made
  obtain rfl := Except.ok.inj flushed
  rw [translateInput, listed] at run
  obtain ⟨initial, answered⟩ := instructionMessages_kept told
  have kept := Kept.run initial run
  obtain ⟨answered, said⟩ := answered_of_run initial.said answered follow run
  exact
    { answered := answered.flush said
      calls := kept.flush_calls
      callItems := kept.callItems
      outputs := kept.flush_outputs
      outputItems := kept.outputItems
      apart := kept.flush_apart }

namespace AnsweredCallsExamples

def objectCodec : JsonCodec := serdeCodec fun _ => [some (.object [])]

def call (id : String) : Json :=
  .object
    [("type", .string "function_call"), ("call_id", .string id), ("name", .string "look"),
      ("arguments", .string "\x7b\x7d")]

def output (id : String) : Json :=
  .object
    [("type", .string "function_call_output"), ("call_id", .string id), ("output", .string "ok")]

def request (items : List Json) : Json :=
  .object [("model", .string "m"), ("input", .array items)]

def answer (id : String) : Json :=
  .object [("role", .string "tool"), ("tool_call_id", .string id), ("content", .string "ok")]

def turn (ids : List String) : Json :=
  .object
    [("role", .string "assistant"), ("content", .null),
      ("tool_calls", .array (ids.map fun id => chatToolCall id "look" "\x7b\x7d"))]

def chatRequest (messages : List Json) : Json :=
  .object [("model", .string "m"), ("messages", .array messages)]

theorem turn_converted : responsesRequestToChatPayload objectCodec {}
    (request [call "a", call "b", output "b", output "a"]) =
      .ok (chatRequest [turn ["a", "b"], answer "b", answer "a"]) := by
  rfl

theorem torn_converted : responsesRequestToChatPayload objectCodec {}
    (request [call "a", call "b", output "a", call "c", output "b"]) =
      .ok (chatRequest [turn ["a", "b"], answer "a", turn ["c"], answer "b"]) := by
  rfl

def OutputsAfterCalls (items : List Json) : Prop :=
  ∀ before output after, items = before ++ output :: after → isOutputItem output = true →
    ∃ earlier call between id, before = earlier ++ call :: between ∧
      isCallItem call = true ∧ callId call = some id ∧ outputId output = some id ∧
      ∀ item ∈ between,
        isCallItem item = true ∨ isReasoningItem item = true ∨ isOutputItem item = true

end AnsweredCallsExamples

open AnsweredCallsExamples in
theorem answered_history_turn : ∃ messages,
    (chatRequest [turn ["a", "b"], answer "b", answer "a"]).get "messages" =
      some (.array messages) ∧
    ChatHistoryOf objectCodec {} [call "a", call "b", output "b", output "a"] messages := by
  refine @answered_history objectCodec {} (request _) _ _ rfl ?_ turn_converted
  rintro (_ | ⟨_, _ | ⟨_, _ | ⟨_, _ | ⟨_, _⟩⟩⟩⟩) item after split isOutput
  · cases split
    cases isOutput
  · cases split
    cases isOutput
  · cases split
    exact ⟨[call "a"], call "b", [], [], "b", rfl, rfl, rfl, rfl, by simp, by simp⟩
  · cases split
    refine ⟨[], call "a", [call "b"], [output "b"], "a", rfl, rfl, rfl, rfl, ?_, ?_⟩
    · simp [isCallItem, itemHasType, call, Json.str, Json.asStr]
    · simp [isOutputItem, itemHasType, output, Json.str, Json.asStr]
  · simp at split

open AnsweredCallsExamples in
theorem torn_turn_is_not_answered :
    ¬ ∀ (codec : JsonCodec) (context : ConversionContext) (input payload : Json)
      (items : List Json), input.get "input" = some (.array items) → OutputsAfterCalls items →
      responsesRequestToChatPayload codec context input = .ok payload →
      ∃ messages, payload.get "messages" = some (.array messages) ∧
        ChatHistoryOf codec context items messages := by
  intro claimed
  have after : OutputsAfterCalls [call "a", call "b", output "a", call "c", output "b"] := by
    rintro (_ | ⟨_, _ | ⟨_, _ | ⟨_, _ | ⟨_, _ | ⟨_, _⟩⟩⟩⟩⟩) item after split isOutput
    · cases split
      cases isOutput
    · cases split
      cases isOutput
    · cases split
      refine ⟨[], call "a", [call "b"], "a", rfl, rfl, rfl, rfl, ?_⟩
      simp [isCallItem, itemHasType, call, Json.str, Json.asStr]
    · cases split
      cases isOutput
    · cases split
      refine ⟨[call "a"], call "b", [output "a", call "c"], "b", rfl, rfl, rfl, rfl, ?_⟩
      simp [isCallItem, isOutputItem, itemHasType, call, output, Json.str, Json.asStr]
    · simp at split
  obtain ⟨messages, stored, history⟩ := claimed objectCodec {} (request _) _ _ rfl after torn_converted
  obtain rfl : messages = [turn ["a", "b"], answer "a", turn ["c"], answer "b"] := by
    simpa [chatRequest] using stored.symm
  -- The last output stands behind a turn that does not call it.
  obtain ⟨id, known, earlier, assistant, tools, split, spoken, allTools, makes⟩ :=
    history.answered [turn ["a", "b"], answer "a", turn ["c"]] (answer "b") [] rfl rfl
  obtain rfl : "b" = id := Option.some.inj known
  rcases earlier with _ | ⟨_, _ | ⟨_, _ | ⟨_, _⟩⟩⟩
  · cases split
    exact absurd (allTools (turn ["c"]) (by simp)) (by decide)
  · cases split
    cases spoken
  · cases split
    obtain ⟨made, member, called⟩ := makes
    obtain rfl : made = chatToolCall "c" "look" "\x7b\x7d" := List.mem_singleton.1 member
    exact absurd called (by decide)
  · simp at split

end ChatGateway
