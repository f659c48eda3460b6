import ChatGateway.Protocol.ChatToResponses

set_option autoImplicit false

/-!
# The Chat stream canonicalizer

`ChatStreamCanonicalizer` gives the chunks of a provider one identity, normalizes their choices and
keeps the usage back for a last chunk without choices.
-/

namespace ChatGateway

structure ChatStreamCanonicalizer where
  id : String
  model : String
  created : Nat
  identityLocked : Bool := false
  choiceIndices : List (Option Nat) := []
  terminalIndices : List Nat := []
  sawOutputIndices : List Nat := []
  sawToolCallIndices : List Nat := []
  usage : Option Json := none
deriving DecidableEq, Repr

namespace ChatStreamCanonicalizer

def eventError (message : String) : ProtocolError :=
  .invalidUpstreamStream .upstreamEvent message

def invalidStream : ProtocolError :=
  eventError "Chat stream event has an invalid envelope or terminal"

def optionalString (object : List (String × Json)) (field : String) :
    Except ProtocolError (Option String) :=
  match Json.field object field with
  | none => .ok none
  | some .null => .ok none
  | some (.string value) => .ok (some value)
  | some _ => .error invalidStream

def optionalU64 (object : List (String × Json)) (field : String) :
    Except ProtocolError (Option Nat) :=
  match Json.field object field with
  | none => .ok none
  | some .null => .ok none
  | some (.number (.natural value)) => .ok (some value)
  | some _ => .error invalidStream

def stabilizeIdentity (canonicalizer : ChatStreamCanonicalizer) (object : List (String × Json)) :
    Except ProtocolError ChatStreamCanonicalizer := do
  let incomingId ← optionalString object "id"
  let incomingModel ← optionalString object "model"
  let incomingCreated ← optionalU64 object "created"
  if canonicalizer.identityLocked then .ok canonicalizer
  else
    .ok
      { canonicalizer with
        id := incomingId.getD canonicalizer.id
        model := incomingModel.getD canonicalizer.model
        created := incomingCreated.getD canonicalizer.created
        identityLocked := true }

def normalizeFinishReason (canonicalizer : ChatStreamCanonicalizer) (choiceIndex : Nat)
    (reason : String) : Except ProtocolError String :=
  let sawToolCall := choiceIndex ∈ canonicalizer.sawToolCallIndices
  if reason = "stop" ∧ sawToolCall then .ok "tool_calls"
  else if reason = "stop" ∨ reason = "length" ∨ reason = "content_filter" then .ok reason
  else if reason = "function_call" ∧ sawToolCall then .ok "tool_calls"
  else if reason = "tool_calls" ∧ sawToolCall then .ok "tool_calls"
  else if reason = "end_turn" ∧ ¬ sawToolCall then .ok "stop"
  else if reason = "max_tokens" ∨ reason = "max_output_tokens" then .ok "length"
  else if reason = "tool_use" ∧ sawToolCall then .ok "tool_calls"
  else .error invalidStream

def canonicalIndex (canonicalizer : ChatStreamCanonicalizer) (position : Nat)
    (incoming : Option Nat) : Except ProtocolError (ChatStreamCanonicalizer × Nat) :=
  match canonicalizer.choiceIndices[position]?.join with
  | some index =>
    if incoming.any (· ≠ index) then .error invalidStream else .ok (canonicalizer, index)
  | none =>
    let index := incoming.getD position
    let padded := canonicalizer.choiceIndices ++
      List.replicate (position + 1 - canonicalizer.choiceIndices.length) none
    .ok ({ canonicalizer with choiceIndices := padded.set position (some index) }, index)

def nullableFields : List String :=
  ["tool_calls", "function_call", "function_calls"]

def normalizeDelta (choice : List (String × Json)) :
    Except ProtocolError (List (String × Json)) :=
  match (Json.field choice "delta").getD (.object []) with
  | .null => .ok []
  | .object delta =>
    .ok (delta.filter fun field => !(field.1 ∈ nullableFields && field.2.isNull))
  | _ => .error invalidStream

def deltaHasText (delta : List (String × Json)) : Bool :=
  ((Json.field delta "content").bind Json.asStr).any (· ≠ "") ||
    ((Json.field delta "reasoning_content").bind Json.asStr).any (· ≠ "")

def deltaHasToolCall (delta : List (String × Json)) : Bool :=
  ((Json.field delta "tool_calls").bind Json.asArray).any (fun calls => !calls.isEmpty) ||
    (Json.field delta "function_call").any fun call => !call.isNull

def observeDelta (canonicalizer : ChatStreamCanonicalizer) (index : Nat)
    (delta : List (String × Json)) : ChatStreamCanonicalizer :=
  { canonicalizer with
    sawOutputIndices :=
      if deltaHasText delta then index :: canonicalizer.sawOutputIndices
      else canonicalizer.sawOutputIndices
    sawToolCallIndices :=
      if deltaHasToolCall delta then index :: canonicalizer.sawToolCallIndices
      else canonicalizer.sawToolCallIndices }

def normalizeTerminal (canonicalizer : ChatStreamCanonicalizer) (index : Nat)
    (finishReason : Json) : Except ProtocolError (ChatStreamCanonicalizer × Json) :=
  match finishReason with
  | .null => .ok (canonicalizer, .null)
  | .string reason =>
    -- Some proxies send an empty reason on intermediate chunks.
    if reason = "" then .ok (canonicalizer, .null)
    else
      match canonicalizer.normalizeFinishReason index reason with
      | .error error => .error error
      | .ok normalized =>
        if index ∈ canonicalizer.terminalIndices then .error invalidStream
        else
          .ok ({ canonicalizer with terminalIndices := index :: canonicalizer.terminalIndices },
            .string normalized)
  | _ => .error invalidStream

def normalizeChoice (canonicalizer : ChatStreamCanonicalizer) (position : Nat) (choice : Json) :
    Except ProtocolError (ChatStreamCanonicalizer × Json) :=
  match choice with
  | .object fields => do
    let (indexed, index) ← canonicalizer.canonicalIndex position
      ((Json.field fields "index").bind Json.asU64)
    let delta ← normalizeDelta fields
    let (ended, finishReason) ← (indexed.observeDelta index delta).normalizeTerminal index
      ((Json.field fields "finish_reason").getD .null)
    .ok (ended, .object (Json.setField (Json.setField (Json.setField fields "index" (.ofNat index))
      "delta" (.object delta)) "finish_reason" finishReason))
  | _ => .error (eventError "Chat stream choice must be an object")

def normalizeChoices : ChatStreamCanonicalizer → Nat → List Json →
    Except ProtocolError (ChatStreamCanonicalizer × List Json)
  | canonicalizer, _, [] => .ok (canonicalizer, [])
  | canonicalizer, position, choice :: rest => do
    let (next, normalized) ← canonicalizer.normalizeChoice position choice
    let (last, others) ← normalizeChoices next (position + 1) rest
    .ok (last, normalized :: others)

def keepUsage (canonicalizer : ChatStreamCanonicalizer) (object : List (String × Json)) :
    ChatStreamCanonicalizer :=
  { canonicalizer with
    usage := ((Json.field object "usage").filter fun usage => !usage.isNull).or
      canonicalizer.usage }

def canonicalChunk (canonicalizer : ChatStreamCanonicalizer) (object : List (String × Json))
    (choices : List Json) : Json :=
  let chosen := Json.setField object "choices" (.array choices)
  let named := Json.setField chosen "id" (.string canonicalizer.id)
  let kinded := Json.setField named "object" (.string "chat.completion.chunk")
  let dated := Json.setField kinded "created" (.ofNat canonicalizer.created)
  let modelled := Json.setField dated "model" (.string canonicalizer.model)
  .object (Json.removeField modelled "usage")

def push (canonicalizer : ChatStreamCanonicalizer) (event : Json) :
    Except ProtocolError (ChatStreamCanonicalizer × List Json) :=
  match event with
  | .object object =>
    match canonicalizer.stabilizeIdentity object with
    | .error error => .error error
    | .ok identified =>
      match (Json.field object "choices").getD (.array []) with
      | .array [] => .ok (identified.keepUsage object, [])
      | .array (choice :: rest) =>
        match (identified.keepUsage object).normalizeChoices 0 (choice :: rest) with
        | .error error => .error error
        | .ok (next, choices) => .ok (next, [next.canonicalChunk object choices])
      | _ => .error (eventError "Chat stream choices must be an array")
  | _ => .error (eventError "Chat stream event must be an object")

def envelope (canonicalizer : ChatStreamCanonicalizer) (choices : List Json) :
    List (String × Json) :=
  [("id", .string canonicalizer.id), ("object", .string "chat.completion.chunk"),
    ("created", .ofNat canonicalizer.created), ("model", .string canonicalizer.model),
    ("choices", .array choices)]

def missingChoices (canonicalizer : ChatStreamCanonicalizer) : List Nat :=
  let indices :=
    if canonicalizer.choiceIndices.isEmpty then [0]
    else ((canonicalizer.choiceIndices.reduceOption).insertionSort (· ≤ ·)).dedup
  indices.filter (· ∉ canonicalizer.terminalIndices)

def missingReason (canonicalizer : ChatStreamCanonicalizer) (index : Nat) :
    Except ProtocolError Json :=
  let choice (reason : String) : Json :=
    .object [("index", .ofNat index), ("delta", .object []), ("finish_reason", .string reason)]
  if index ∈ canonicalizer.sawToolCallIndices then .ok (choice "tool_calls")
  else if index ∈ canonicalizer.sawOutputIndices then .ok (choice "stop")
  else .error invalidStream

def missingReasons (canonicalizer : ChatStreamCanonicalizer) :
    List Nat → Except ProtocolError (List Json)
  | [] => .ok []
  | index :: rest => do
    let choice ← canonicalizer.missingReason index
    let others ← canonicalizer.missingReasons rest
    .ok (choice :: others)

def terminalEvents (canonicalizer : ChatStreamCanonicalizer) : Except ProtocolError (List Json) :=
  if canonicalizer.missingChoices.isEmpty then .ok []
  else do
    let choices ← canonicalizer.missingReasons canonicalizer.missingChoices
    .ok [.object (canonicalizer.envelope choices)]

def usageEvents (canonicalizer : ChatStreamCanonicalizer) : List Json :=
  match canonicalizer.usage with
  | some usage => [.object (canonicalizer.envelope [] ++ [("usage", usage)])]
  | none => []

-- The canonicalizer is dropped by its caller, so only the events are left of it.
def finish (canonicalizer : ChatStreamCanonicalizer) : Except ProtocolError (List Json) := do
  let terminals ← canonicalizer.terminalEvents
  .ok (terminals ++ canonicalizer.usageEvents)

/-- `finish` and `finish_after_done`, with the state they leave. -/
def finishInner (canonicalizer : ChatStreamCanonicalizer) :
    Except ProtocolError (ChatStreamCanonicalizer × List Json) := do
  let terminals ← canonicalizer.terminalEvents
  .ok
    ({ canonicalizer with
        terminalIndices := canonicalizer.missingChoices ++ canonicalizer.terminalIndices
        usage := none },
      terminals ++ canonicalizer.usageEvents)

def pushAll : ChatStreamCanonicalizer → List Json →
    Except ProtocolError (ChatStreamCanonicalizer × List Json)
  | canonicalizer, [] => .ok (canonicalizer, [])
  | canonicalizer, chunk :: rest => do
    let (next, events) ← canonicalizer.push chunk
    let (last, later) ← pushAll next rest
    .ok (last, events ++ later)

end ChatStreamCanonicalizer

end ChatGateway
