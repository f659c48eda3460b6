import ChatGateway.Protocol.ResponsesToChat

set_option autoImplicit false

/-!
# Chat chunks as Responses events

`ChatToResponsesState` turns the chunks of a Chat Completions stream into the events of a Responses
stream. The events are values of their own here; `ResponsesEvent.toJson` writes them as the source
builds them.
-/

namespace ChatGateway

inductive IncompleteReason where
  | maxOutputTokens
  | contentFilter
deriving DecidableEq, Repr

def IncompleteReason.text : IncompleteReason → String
  | maxOutputTokens => "max_output_tokens"
  | contentFilter => "content_filter"

def responsesIncompleteReason (finishReason : Option String) : Option IncompleteReason :=
  match finishReason with
  | some "length" => some .maxOutputTokens
  | some "content_filter" => some .contentFilter
  | _ => none

def usageTokenCount (usage : Json) (primary fallback : String) : Nat :=
  (((usage.get primary).or (usage.get fallback)).bind Json.asU64).getD 0

-- The sum of two token counts saturates at the largest 64-bit number.
def usageTotalTokens (usage : Json) (left right : Nat) : Nat :=
  (usage.u64 "total_tokens").getD (min (left + right) (2 ^ 64 - 1))

/-- Makes `detailsField` an object with a number at `requiredField`. -/
def ensureUsageDetail (usage : List (String × Json)) (detailsField requiredField : String) :
    List (String × Json) :=
  let details := ((Json.field usage detailsField).bind Json.asObject).getD []
  let completed :=
    if ((Json.field details requiredField).bind Json.asU64).isNone then
      Json.setField details requiredField (.ofNat 0)
    else details
  Json.setField usage detailsField (.object completed)

def chatUsageToResponsesUsage (usage : Json) : Json :=
  let inputTokens := usageTokenCount usage "prompt_tokens" "input_tokens"
  let outputTokens := usageTokenCount usage "completion_tokens" "output_tokens"
  let detail (primary fallback : String) : List (String × Json) :=
    match (usage.get primary).or (usage.get fallback) with
    | some details => [(primary, details)]
    | none => []
  let output :=
    [("input_tokens", Json.ofNat inputTokens), ("output_tokens", .ofNat outputTokens),
      ("total_tokens", .ofNat (usageTotalTokens usage inputTokens outputTokens))] ++
      detail "input_tokens_details" "prompt_tokens_details" ++
      detail "output_tokens_details" "completion_tokens_details"
  .object
    (ensureUsageDetail (ensureUsageDetail output "input_tokens_details" "cached_tokens")
      "output_tokens_details" "reasoning_tokens")

def contentPartText (value : Json) : Except ProtocolError String :=
  match value with
  | .string text => .ok text
  | .object fields =>
    match (Json.field fields "text").bind Json.asStr with
    | some text => .ok text
    | none => .error (.invalidPayload "unsupported content part")
  | _ => .error (.invalidPayload "unsupported content part")

def contentPartTexts : List Json → Except ProtocolError String
  | [] => .ok ""
  | part :: rest =>
    match contentPartText part with
    | .error error => .error error
    | .ok text => (contentPartTexts rest).map (text ++ ·)

def contentToPlainText (content : Json) : Except ProtocolError String :=
  match content with
  | .null => .ok ""
  | .string text => .ok text
  | .array parts => contentPartTexts parts
  | .object fields => contentPartText (.object fields)
  | _ => .error (.invalidPayload "unsupported content payload")

def extractToolCallDetails (object : List (String × Json)) : Option (Option String × String) :=
  let source := ((Json.field object "function").bind Json.asObject).getD object
  let name := (Json.field source "name").bind Json.asStr
  let arguments := ((Json.field source "arguments").bind Json.asStr).getD ""
  if name.isNone && arguments = "" then none else some (name, arguments)

inductive ItemStatus where
  | inProgress
  | completed
  | incomplete
deriving DecidableEq, Repr

def ItemStatus.text : ItemStatus → String
  | inProgress => "in_progress"
  | completed => "completed"
  | incomplete => "incomplete"

inductive OutputItem where
  | reasoning (id : String) (status : ItemStatus) (text : Option String)
  | message (id : String) (status : ItemStatus) (text : Option String)
  | functionCall (id callId name : String) (group : Option String) (arguments : String)
    (status : ItemStatus)
deriving DecidableEq, Repr

namespace OutputItem

def toJson : OutputItem → Json
  | reasoning id status text =>
    .object
      [("id", .string id), ("type", .string "reasoning"), ("status", .string status.text),
        ("summary", .array []),
        ("content", .array (text.toList.map fun text =>
          .object [("type", .string "reasoning_text"), ("text", .string text)]))]
  | message id status text =>
    .object
      [("id", .string id), ("type", .string "message"), ("status", .string status.text),
        ("role", .string "assistant"),
        ("content", .array (text.toList.map fun text =>
          .object [("type", .string "output_text"), ("text", .string text),
            ("annotations", .array [])]))]
  | functionCall id callId name group arguments status =>
    .object
      ([("id", .string id), ("type", .string "function_call"), ("status", .string status.text),
        ("call_id", .string callId), ("name", .string name), ("arguments", .string arguments)] ++
        group.toList.map fun group => ("namespace", .string group))

end OutputItem

structure TerminalResponse where
  id : String
  createdAt : Nat
  model : String
  output : List OutputItem
  usage : Option Json
  incompleteReason : Option IncompleteReason
deriving DecidableEq, Repr

def TerminalResponse.toJson (response : TerminalResponse) : Json :=
  .object
    ([("id", .string response.id), ("object", .string "response"),
      ("created_at", .ofNat response.createdAt),
      ("status", .string
        (if response.incompleteReason.isSome then "incomplete" else "completed")),
      ("model", .string response.model),
      ("output", .array (response.output.map OutputItem.toJson))] ++
      (response.incompleteReason.toList.map fun reason =>
        ("incomplete_details", .object [("reason", .string reason.text)])) ++
      response.usage.toList.map fun usage => ("usage", usage))

inductive Channel where
  | reasoning
  | text
  | arguments
deriving DecidableEq, Repr

inductive ResponsesEventBody where
  | created (responseId : String) (createdAt : Nat) (model : String)
  | itemAdded (responseId : String) (outputIndex : Nat) (item : OutputItem)
  | delta (channel : Channel) (responseId itemId : String) (outputIndex : Nat) (delta : String)
  | done (channel : Channel) (responseId itemId : String) (outputIndex : Nat)
    (name : Option String) (text : String)
  | itemDone (responseId : String) (outputIndex : Nat) (item : OutputItem)
  | terminal (response : TerminalResponse)
deriving DecidableEq, Repr

structure ResponsesEvent where
  sequenceNumber : Nat
  body : ResponsesEventBody
deriving DecidableEq, Repr

namespace ResponsesEvent

def deltaType : Channel → String
  | .reasoning => "response.reasoning_text.delta"
  | .text => "response.output_text.delta"
  | .arguments => "response.function_call_arguments.delta"

def doneType : Channel → String
  | .reasoning => "response.reasoning_text.done"
  | .text => "response.output_text.done"
  | .arguments => "response.function_call_arguments.done"

def toJson (event : ResponsesEvent) : Json :=
  let number := ("sequence_number", Json.ofNat event.sequenceNumber)
  match event.body with
  | .created responseId createdAt model =>
    .object
      [("type", .string "response.created"), number,
        ("response", .object
          [("id", .string responseId), ("object", .string "response"),
            ("created_at", .ofNat createdAt), ("status", .string "in_progress"),
            ("model", .string model), ("output", .array [])])]
  | .itemAdded responseId outputIndex item =>
    .object
      [("type", .string "response.output_item.added"), number, ("response_id", .string responseId),
        ("output_index", .ofNat outputIndex), ("item", item.toJson)]
  | .delta channel responseId itemId outputIndex delta =>
    .object
      ([("type", .string (deltaType channel)), number, ("response_id", .string responseId),
        ("item_id", .string itemId), ("output_index", .ofNat outputIndex)] ++
        (if channel = .arguments then [] else [("content_index", .ofNat 0)]) ++
        [("delta", .string delta)])
  | .done channel responseId itemId outputIndex name text =>
    .object
      ([("type", .string (doneType channel)), number, ("response_id", .string responseId),
        ("item_id", .string itemId), ("output_index", .ofNat outputIndex)] ++
        (if channel = .arguments then [] else [("content_index", .ofNat 0)]) ++
        (name.toList.map fun name => ("name", .string name)) ++
        [(if channel = .arguments then "arguments" else "text", .string text)])
  | .itemDone responseId outputIndex item =>
    .object
      [("type", .string "response.output_item.done"), number, ("response_id", .string responseId),
        ("output_index", .ofNat outputIndex), ("item", item.toJson)]
  | .terminal response =>
    .object
      [("type", .string
          (if response.incompleteReason.isSome then "response.incomplete"
            else "response.completed")),
        number, ("response", response.toJson)]

end ResponsesEvent

structure ChatToolCallState where
  itemId : String
  callId : String
  outputIndex : Nat
  name : Option String
  arguments : String := ""
  addedEmitted : Bool := false
  doneEmitted : Bool := false
  clientDeltaDesynced : Bool := false
deriving DecidableEq, Repr

structure ReasoningStreamState where
  itemId : String
  outputIndex : Nat
  text : String := ""
  startedEmitted : Bool := false
  doneEmitted : Bool := false
  doneStatus : Option ItemStatus := none
deriving DecidableEq, Repr

structure ChatToResponsesState where
  responseId : Option String := none
  upstreamResponseId : Option String := none
  model : Option String := none
  createdAt : Option Nat := none
  createdEmitted : Bool := false
  completedEmitted : Bool := false
  incompleteReason : Option IncompleteReason := none
  sequenceNumber : Nat := 0
  nextOutputIndex : Nat := 0
  textItemId : Option String := none
  textOutputIndex : Option Nat := none
  textItemAddedEmitted : Bool := false
  textItemDoneEmitted : Bool := false
  usage : Option Json := none
  text : String := ""
  reasoning : Option ReasoningStreamState := none
  toolCalls : OrderedMap Nat ChatToolCallState := {}
  toolRegistry : Option ToolAdapterRegistry := none
  toolCallMergeStrict : Bool := true

/-- What the translator takes from outside: fresh ids and the time. A fresh call id is taken only
for a new key of the tool calls. -/
structure ResponseStamp where
  responseId : String
  reasoningId : String
  messageId : String
  callId : Nat → String
  createdAt : Nat

def JsonCodec.reads (codec : JsonCodec) (text : String) : Bool :=
  match codec.readStream text with
  | [some _] => true
  | _ => false

inductive ToolCallArgumentsMerge where
  | appended
  | replacedCompleteThenNew
deriving DecidableEq, Repr

def opensValue (fragment : String) : Bool :=
  match fragment.toList with
  | '\x7b' :: _ => true
  | '[' :: _ => true
  | '"' :: _ => true
  | _ => false

def mergeToolCallArguments (codec : JsonCodec) (entry : ChatToolCallState) (fragment : String)
    (strict : Bool) : ChatToolCallState × ToolCallArgumentsMerge :=
  if strict && entry.arguments ≠ "" && codec.reads entry.arguments && opensValue fragment then
    ({ entry with arguments := fragment }, .replacedCompleteThenNew)
  else ({ entry with arguments := entry.arguments ++ fragment }, .appended)

namespace ChatToResponsesState

abbrev Emitted := ChatToResponsesState × List ResponsesEvent

def andThen (first : Emitted) (next : ChatToResponsesState → Emitted) : Emitted :=
  ((next first.1).1, first.2 ++ (next first.1).2)

def push (state : ChatToResponsesState) (body : ResponsesEventBody) : Emitted :=
  ({ state with sequenceNumber := state.sequenceNumber + 1 },
    [{ sequenceNumber := state.sequenceNumber + 1, body }])

def terminalItemStatus (state : ChatToResponsesState) : ItemStatus :=
  if state.incompleteReason.isSome then .incomplete else .completed

def restoredToolIdentity (state : ChatToResponsesState) (upstreamName : String) :
    String × Option String :=
  match state.toolRegistry with
  | none => (upstreamName, none)
  | some registry =>
    match registry.restoreStreamedCallName upstreamName with
    | .ok identity => (identity.name, identity.group)
    | .error _ => (upstreamName, none)

section Translation

variable (stamp : ResponseStamp) (codec : JsonCodec)

def initializeMetadata (state : ChatToResponsesState) (event : Json) : ChatToResponsesState :=
  { state with
    responseId := some (state.responseId.getD stamp.responseId)
    upstreamResponseId := state.upstreamResponseId.or (event.str "id")
    model := state.model.or (event.str "model")
    createdAt := state.createdAt.or ((event.u64 "created").or (event.u64 "created_at")) }

def responseIdValue (state : ChatToResponsesState) : String :=
  state.responseId.getD stamp.responseId

-- The response id and the time are fixed here: every other event comes after this one.
def emitCreated (state : ChatToResponsesState) : Emitted :=
  if state.createdEmitted then (state, [])
  else
    let known := { state with
      responseId := some (state.responseIdValue stamp)
      createdAt := some (state.createdAt.getD stamp.createdAt)
      createdEmitted := true }
    known.push (.created (state.responseIdValue stamp) (state.createdAt.getD stamp.createdAt)
      (state.model.getD ""))

def emitReasoningDelta (state : ChatToResponsesState) (delta : String) : Emitted :=
  let responseId := state.responseIdValue stamp
  let allocated :=
    match state.reasoning with
    | some _ => state
    | none => { state with
        nextOutputIndex := state.nextOutputIndex + 1
        reasoning := some
          { itemId := stamp.reasoningId, outputIndex := state.nextOutputIndex } }
  match allocated.reasoning with
  | none => (allocated, [])
  | some reasoning =>
    let extended := { allocated with
      reasoning := some
        { reasoning with startedEmitted := true, text := reasoning.text ++ delta } }
    let started :=
      if reasoning.startedEmitted then (extended, [])
      else
        extended.push (.itemAdded responseId reasoning.outputIndex
          (.reasoning reasoning.itemId .inProgress none))
    andThen started fun state =>
      state.push (.delta .reasoning responseId reasoning.itemId reasoning.outputIndex delta)

def emitReasoningDone (state : ChatToResponsesState) : Emitted :=
  let status := state.terminalItemStatus
  match state.reasoning with
  | none => (state, [])
  | some reasoning =>
    if reasoning.doneEmitted || !reasoning.startedEmitted then (state, [])
    else
      let responseId := state.responseIdValue stamp
      let closed := { state with
        reasoning := some { reasoning with doneEmitted := true, doneStatus := some status } }
      andThen
        (closed.push (.done .reasoning responseId reasoning.itemId reasoning.outputIndex none
          reasoning.text))
        fun state =>
          state.push (.itemDone responseId reasoning.outputIndex
            (.reasoning reasoning.itemId status (some reasoning.text)))

def ensureTextItem (state : ChatToResponsesState) : Emitted :=
  let indexed :=
    match state.textOutputIndex with
    | some _ => state
    | none => { state with
        textOutputIndex := some state.nextOutputIndex
        nextOutputIndex := state.nextOutputIndex + 1 }
  let named := { indexed with textItemId := some (indexed.textItemId.getD stamp.messageId) }
  if named.textItemAddedEmitted then (named, [])
  else
    ({ named with textItemAddedEmitted := true }).push
      (.itemAdded (state.responseIdValue stamp) (named.textOutputIndex.getD 0)
        (.message (named.textItemId.getD "") .inProgress none))

def emitTextDelta (state : ChatToResponsesState) (delta : String) : Emitted :=
  let responseId := state.responseIdValue stamp
  andThen (state.ensureTextItem stamp) fun state =>
    ({ state with text := state.text ++ delta }).push
      (.delta .text responseId (state.textItemId.getD "") (state.textOutputIndex.getD 0) delta)

def emitTextDone (state : ChatToResponsesState) : Emitted :=
  if !state.textItemAddedEmitted || state.textItemDoneEmitted then (state, [])
  else
    let responseId := state.responseIdValue stamp
    let itemId := state.textItemId.getD stamp.messageId
    let outputIndex := state.textOutputIndex.getD 0
    let status := state.terminalItemStatus
    andThen
      (({ state with textItemDoneEmitted := true }).push
        (.done .text responseId itemId outputIndex none state.text))
      fun next =>
        next.push (.itemDone responseId outputIndex (.message itemId status (some state.text)))

def emitCallDone (state : ChatToResponsesState) (call : ChatToolCallState) : Emitted :=
  let responseId := state.responseIdValue stamp
  let arguments := (normalizeToolArguments codec call.arguments).1
  let (name, group) := state.restoredToolIdentity (call.name.getD "")
  andThen
    (state.push (.done .arguments responseId call.itemId call.outputIndex (some name) arguments))
    fun next =>
      next.push (.itemDone responseId call.outputIndex
        (.functionCall call.itemId call.callId name group arguments state.terminalItemStatus))

def emitCallsDone : ChatToResponsesState → List ChatToolCallState → Emitted
  | state, [] => (state, [])
  | state, call :: rest =>
    andThen (state.emitCallDone stamp codec call) fun next => emitCallsDone next rest

-- The calls are all marked before the first event goes out.
def emitToolCallDone (state : ChatToResponsesState) : Emitted :=
  let pending := state.toolCalls.values.filter fun call => !call.doneEmitted
  emitCallsDone stamp codec
    { state with toolCalls := state.toolCalls.map fun call => { call with doneEmitted := true } }
    pending

def nextFreeKey (state : ChatToResponsesState) : Nat :=
  match state.toolCalls.lastKey? with
  | some last => last + 1
  | none => 0

def callKeyById (state : ChatToResponsesState) (callId : String) : Option Nat :=
  (state.toolCalls.entries.find? fun entry => entry.2.callId = callId).map (·.1)

/-- The key of the tool call that a fragment with neither an index nor an id continues: that of the
single open call, unless both names are given and differ. -/
def continuedKey (state : ChatToResponsesState) (name : Option String) : Nat :=
  match state.toolCalls.entries.filter fun entry => !entry.2.doneEmitted with
  | [(openKey, call)] =>
    let given (name : Option String) : Bool := name.any (· ≠ "")
    if given name && given call.name && name ≠ call.name then state.nextFreeKey else openKey
  | _ => state.nextFreeKey

def toolCallKey (state : ChatToResponsesState) (object : List (String × Json))
    (callIdHint name : Option String) (fallbackIndex : Nat) : Nat :=
  match (Json.field object "index").bind Json.asU64 with
  | some index => index
  | none =>
    match callIdHint with
    | some callId => (state.callKeyById callId).getD state.nextFreeKey
    | none =>
      if state.toolCallMergeStrict then state.continuedKey name else fallbackIndex

def nameEntry (entry : ChatToolCallState) (callId : String) (name : Option String) :
    ChatToolCallState :=
  { entry with
    itemId := if entry.itemId = "" then callId else entry.itemId
    callId := if entry.callId = "" then callId else entry.callId
    name := entry.name.or name
    addedEmitted := true }

def mergeFragment (entry : ChatToolCallState) (callId : String) (name : Option String)
    (arguments : String) (strict : Bool) : ChatToolCallState × Bool × Option String :=
  if arguments = "" then (nameEntry entry callId name, !entry.addedEmitted, none)
  else
    match mergeToolCallArguments codec (nameEntry entry callId name) arguments strict with
    | (merged, .appended) =>
      (merged, !entry.addedEmitted,
        if merged.clientDeltaDesynced then none else some arguments)
    | (merged, .replacedCompleteThenNew) =>
      ({ merged with clientDeltaDesynced := true }, !entry.addedEmitted, none)

/-- Stores a fragment under `key` and emits what is due. `restore` gives the name and the group the
added item shows. -/
def emitFragment (state : ChatToResponsesState) (key : Nat) (callId : String)
    (name : Option String) (arguments : String) (restore : String → String × Option String) :
    Emitted :=
  let responseId := state.responseIdValue stamp
  let known := state.toolCalls.find? key
  let outputIndex := (known.map (·.outputIndex)).getD state.nextOutputIndex
  let nextOutputIndex :=
    if known.isSome then state.nextOutputIndex else state.nextOutputIndex + 1
  let entry := known.getD { itemId := callId, callId, outputIndex, name }
  let (merged, addedDue, delta) :=
    mergeFragment codec entry callId name arguments state.toolCallMergeStrict
  let stored := { state with
    nextOutputIndex, toolCalls := state.toolCalls.put key merged }
  let shown := restore (merged.name.getD "")
  let added :=
    if addedDue then
      stored.push (.itemAdded responseId outputIndex
        (.functionCall merged.itemId merged.callId shown.1 shown.2 "" .inProgress))
    else (stored, [])
  andThen added fun state =>
    match delta with
    | some fragment =>
      state.push (.delta .arguments responseId merged.itemId outputIndex fragment)
    | none => (state, [])

def callIdHint (object : List (String × Json)) : Option String :=
  ((Json.field object "id").or (Json.field object "call_id")).bind Json.asStr

def emitChatToolCallDelta (state : ChatToResponsesState) (toolCall : Json) (fallbackIndex : Nat) :
    Except ProtocolError Emitted :=
  match toolCall.asObject with
  | none => .error (.invalidPayload "unsupported tool call")
  | some object =>
    match extractToolCallDetails object with
    | none => .ok (state, [])
    | some (name, arguments) =>
      let key := state.toolCallKey object (callIdHint object) name fallbackIndex
      let callId := (callIdHint object).getD (stamp.callId key)
      .ok (state.emitFragment stamp codec key callId name arguments state.restoredToolIdentity)

-- The item of a `function_call` shows the upstream name as it is.
def emitChatFunctionCallDelta (state : ChatToResponsesState) (functionCall : Json) :
    Except ProtocolError Emitted :=
  match functionCall.asObject with
  | none =>
    .error (.invalidPayload ("unsupported function call: " ++ codec.print functionCall))
  | some object =>
    match callIdHint object with
    | none => .error (.missingField "call_id")
    | some callId =>
      match (Json.field object "name").bind Json.asStr with
      | none => .error (.missingField "name")
      | some name =>
        let arguments := ((Json.field object "arguments").bind Json.asStr).getD ""
        .ok (state.emitFragment stamp codec 0 callId (some name) arguments fun name => (name, none))

def outputEntries (state : ChatToResponsesState) : List (Nat × OutputItem) :=
  let status := state.terminalItemStatus
  let reasoning :=
    match state.reasoning with
    | some reasoning =>
      if reasoning.startedEmitted then
        [(reasoning.outputIndex, OutputItem.reasoning reasoning.itemId
          (reasoning.doneStatus.getD status) (some reasoning.text))]
      else []
    | none => []
  let message :=
    if state.textItemAddedEmitted then
      [(state.textOutputIndex.getD 0,
        OutputItem.message (state.textItemId.getD "") status (some state.text))]
    else []
  let calls := state.toolCalls.values.map fun call =>
    let (name, group) := state.restoredToolIdentity (call.name.getD "")
    (call.outputIndex, OutputItem.functionCall call.itemId call.callId name group
      (normalizeToolArguments codec call.arguments).1 status)
  reasoning ++ message ++ calls

def completedOutputItems (state : ChatToResponsesState) : List OutputItem :=
  ((state.outputEntries codec).insertionSort fun first second => first.1 ≤ second.1).map (·.2)

def emitTerminal (state : ChatToResponsesState) : Emitted :=
  let (emitted, events) := state.push
    (.terminal
      { id := state.responseIdValue stamp
        createdAt := state.createdAt.getD stamp.createdAt
        model := state.model.getD ""
        output := state.completedOutputItems codec
        usage := state.usage
        incompleteReason := state.incompleteReason })
  ({ emitted with completedEmitted := true }, events)

def finish (state : ChatToResponsesState) : Emitted :=
  if state.completedEmitted then (state, [])
  else
    andThen
      (andThen
        (andThen (andThen (state.emitCreated stamp) (emitReasoningDone stamp))
          (emitTextDone stamp))
        (emitToolCallDone stamp codec))
      (emitTerminal stamp codec)

def beginOutput (state : ChatToResponsesState) : Emitted :=
  andThen (state.emitCreated stamp) (emitReasoningDone stamp)

def translateReasoning (state : ChatToResponsesState) (delta : Json) : Emitted :=
  match delta.str "reasoning_content" with
  | none => (state, [])
  | some text =>
    if text = "" then (state, [])
    else andThen (state.emitCreated stamp) (emitReasoningDelta stamp · text)

def translateContent (state : ChatToResponsesState) (delta : Json) :
    Except ProtocolError Emitted :=
  match delta.get "content" with
  | none => .ok (state, [])
  | some content =>
    if content.isNull then .ok (state, [])
    else
      match contentToPlainText content with
      | .error error => .error error
      | .ok text =>
        if text = "" then .ok (state, [])
        else .ok (andThen (state.beginOutput stamp) (emitTextDelta stamp · text))

def translateToolCalls (state : ChatToResponsesState) (position : Nat) :
    List Json → Except ProtocolError Emitted
  | [] => .ok (state, [])
  | toolCall :: rest =>
    let begun := state.beginOutput stamp
    match begun.1.emitChatToolCallDelta stamp codec toolCall position with
    | .error error => .error error
    | .ok emitted =>
      match translateToolCalls emitted.1 (position + 1) rest with
      | .error error => .error error
      | .ok later => .ok (later.1, begun.2 ++ emitted.2 ++ later.2)

def translateFunctionCall (state : ChatToResponsesState) (delta : Json) :
    Except ProtocolError Emitted :=
  match delta.get "function_call" with
  | none => .ok (state, [])
  | some functionCall =>
    let begun := state.beginOutput stamp
    match begun.1.emitChatFunctionCallDelta stamp codec functionCall with
    | .error error => .error error
    | .ok emitted => .ok (emitted.1, begun.2 ++ emitted.2)

def translateEnd (state : ChatToResponsesState) (choice delta : Json) : Emitted :=
  let introduced :=
    if (delta.str "role").isSome then state.emitCreated stamp else (state, [])
  match choice.str "finish_reason" with
  | none => introduced
  | some finishReason =>
    andThen introduced fun state =>
      ({ state with
        incompleteReason := responsesIncompleteReason (some finishReason) }).emitCreated stamp

def translateChoice (state : ChatToResponsesState) (choice : Json) :
    Except ProtocolError Emitted :=
  let delta := (choice.get "delta").getD .null
  let reasoned := state.translateReasoning stamp delta
  match reasoned.1.translateContent stamp delta with
  | .error error => .error error
  | .ok texted =>
    let toolCalls := ((delta.get "tool_calls").bind Json.asArray).getD []
    match texted.1.translateToolCalls stamp codec 0 toolCalls with
    | .error error => .error error
    | .ok called =>
      match called.1.translateFunctionCall stamp codec delta with
      | .error error => .error error
      | .ok functioned =>
        let ended := functioned.1.translateEnd stamp choice delta
        .ok (ended.1, reasoned.2 ++ texted.2 ++ called.2 ++ functioned.2 ++ ended.2)

def chunkUsage (event : Json) : Option Json :=
  (event.get "usage").filter fun usage => !usage.isNull

def metered (state : ChatToResponsesState) (event : Json) : ChatToResponsesState :=
  { state.initializeMetadata stamp event with
    usage := ((chunkUsage event).map chatUsageToResponsesUsage).or state.usage }

def translateEvent (state : ChatToResponsesState) (event : Json) :
    Except ProtocolError Emitted :=
  if state.completedEmitted then .ok (state, [])
  else
    match (event.get "choices").bind Json.asArray with
    | none => .ok (state.metered stamp event, [])
    | some [] =>
      if (chunkUsage event).isSome then .ok ((state.metered stamp event).finish stamp codec)
      else .ok (state.metered stamp event, [])
    | some [choice] => (state.metered stamp event).translateChoice stamp codec choice
    | some _ =>
      .error (.invalidPayload "multiple chat completion choices are not supported when translating Chat stream events to Responses payloads")

def translateFrom : ChatToResponsesState → List Json → Except ProtocolError (List ResponsesEvent)
  | state, [] => .ok (state.finish stamp codec).2
  | state, chunk :: rest =>
    match state.translateEvent stamp codec chunk with
    | .error error => .error error
    | .ok (next, events) =>
      match translateFrom next rest with
      | .error error => .error error
      | .ok later => .ok (events ++ later)

end Translation

end ChatToResponsesState

end ChatGateway
