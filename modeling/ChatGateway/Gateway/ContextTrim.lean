import Mathlib.Data.List.Sort
import ChatGateway.Protocol.Content

set_option autoImplicit false

/-!
# Context trimming

A request that is too long for its upstream is shortened: old tool results and old messages are
replaced by summaries, in two passes, until the estimate is within the target.
-/

namespace ChatGateway

def contextKeepRecentItems : Nat := 8

def contextToolResultTruncateChars : Nat := 1200

def contextMessageTruncateChars : Nat := 800

structure ContextTrimStats where
  truncatedBlocks : Nat := 0
  compactedEntries : Nat := 0
  toolResultBlocks : Nat := 0
deriving DecidableEq, Repr

-- The counters are 32 bits wide.
def saturatingIncrement (count : Nat) : Nat :=
  min (count + 1) (2 ^ 32 - 1)

section Estimates

variable (codec : JsonCodec)

def estimateTokensFromText (text : Text) : Nat :=
  (text.length + 3) / 4

def estimateTokensFromValue : Json → Nat
  | .string text => estimateTokensFromText text.toList
  | value => estimateTokensFromText (codec.print value).toList

def estimateEntriesTokens (entries : List Json) : Nat :=
  (entries.map (estimateTokensFromValue codec)).sum

end Estimates

def entryRole (entry : Json) : Option String :=
  entry.str "role"

def entryType (entry : Json) : Option String :=
  entry.str "type"

def entryIsSystem (entry : Json) : Bool :=
  entryRole entry = some "system" || entryRole entry = some "developer"

def contentBlocks (entry : Json) : List Json :=
  ((entry.get "content").bind Json.asArray).getD []

structure ToolEntryReferences where
  ids : List String := []
  present : Bool := false
  malformed : Bool := false
deriving DecidableEq, Repr

namespace ToolEntryReferences

def recordId (references : ToolEntryReferences) (id : Option Json) : ToolEntryReferences :=
  match id.bind Json.asStr with
  | some id =>
    if isBlank id then { references with present := true, malformed := true }
    else { references with present := true, ids := references.ids ++ [id] }
  | none => { references with present := true, malformed := true }

def require (references : ToolEntryReferences) (given : Bool) : ToolEntryReferences :=
  { references with malformed := references.malformed || !given }

end ToolEntryReferences

def payloadGiven (payload : Option Json) : Bool :=
  payload.any fun payload => !payload.isNull

def stringPayloadGiven (payload : Option Json) : Bool :=
  (payload.bind Json.asStr).any fun text => !isBlank text

def objectPayloadGiven (payload : Option Json) : Bool :=
  (payload.bind Json.asObject).isSome

-- The part of `tool_call_references` on `tool_calls`: what is neither null nor an array is malformed.
def chatCallReferences (calls : Option Json) (references : ToolEntryReferences) :
    ToolEntryReferences :=
  match calls with
  | none | some .null => references
  | some (.array calls) =>
    calls.foldl
      (fun references call => (references.recordId (call.get "id")).require
        (stringPayloadGiven ((call.get "function").bind (·.get "arguments"))))
      references
  | some _ => { references with present := true, malformed := true }

def toolCallReferences (entry : Json) : ToolEntryReferences :=
  let item : ToolEntryReferences :=
    if entryType entry = some "function_call" then
      (ToolEntryReferences.recordId {} (entry.get "call_id")).require
        (stringPayloadGiven (entry.get "arguments"))
    else {}
  (contentBlocks entry).foldl
    (fun references block =>
      if block.str "type" = some "tool_use" then
        (references.recordId (block.get "id")).require (objectPayloadGiven (block.get "input"))
      else references)
    (chatCallReferences (entry.get "tool_calls") item)

def toolResultReferences (entry : Json) : ToolEntryReferences :=
  let output : ToolEntryReferences :=
    if entryType entry = some "function_call_output" then
      (ToolEntryReferences.recordId {} (entry.get "call_id")).require
        (payloadGiven (entry.get "output"))
    else {}
  let message :=
    if entryRole entry = some "tool" then
      (output.recordId (entry.get "tool_call_id")).require (payloadGiven (entry.get "content"))
    else output
  let result :=
    if entryType entry = some "tool_result" then
      (message.recordId (entry.get "tool_use_id")).require (payloadGiven (entry.get "content"))
    else message
  (contentBlocks entry).foldl
    (fun references block =>
      if block.str "type" = some "tool_result" then
        (references.recordId (block.get "tool_use_id")).require (payloadGiven (block.get "content"))
      else references)
    result

def isReasoningType (type : Option String) : Bool :=
  type = some "reasoning" || type = some "thinking" || type = some "redacted_thinking"

def entryContainsReasoning (entry : Json) : Bool :=
  isReasoningType (entryType entry) || (entry.get "reasoning_content").isSome ||
    (contentBlocks entry).any fun block => isReasoningType (block.str "type")

def entryIsPlainConversation (entry : Json) : Bool :=
  (entryRole entry = some "user" || entryRole entry = some "assistant" ||
      entryType entry = some "message") &&
    !(toolCallReferences entry).present && !(toolResultReferences entry).present &&
    !entryContainsReasoning entry

structure ContextProtection where
  guarded : List Nat := []
  compactableToolResults : List Nat := []
deriving DecidableEq, Repr

-- `calls` and `results` of the source: the entries an id was recorded at, in order.
def indicesOf (recorded : List (String × Nat)) (id : String) : List Nat :=
  (recorded.filter fun entry => entry.1 = id).map (·.2)

def recordedIds (references : List ToolEntryReferences) : List (String × Nat) :=
  references.zipIdx.flatMap fun entry => entry.1.ids.map fun id => (id, entry.2)

def completesCall (callReferences : List ToolEntryReferences) (calls results : List (String × Nat))
    (index : Nat) (id : String) : Bool :=
  match indicesOf calls id, indicesOf results id with
  | [call], [_] =>
    call < index && (callReferences[call]?).all fun references => !references.malformed
  | _, _ => false

def uniquelyCompleted (callReferences : List ToolEntryReferences)
    (calls results : List (String × Nat)) (index : Nat) (references : ToolEntryReferences) : Bool :=
  !references.malformed && references.ids.all (completesCall callReferences calls results index)

def protectResult (completed : Nat → ToolEntryReferences → Bool) (protection : ContextProtection)
    (result : ToolEntryReferences × Nat) : ContextProtection :=
  if !result.1.present then protection
  else if completed result.2 result.1 && result.2 ∉ protection.guarded then
    { protection with
      compactableToolResults := protection.compactableToolResults ++ [result.2] }
  else { protection with guarded := protection.guarded ++ [result.2] }

def lastUserEntry (entries : List Json) : Option Nat :=
  ((entries.zipIdx.filter fun entry => entryRole entry.1 = some "user").map (·.2)).getLast?

def analyzeContextEntries (entries : List Json) : ContextProtection :=
  let recentStart := entries.length - contextKeepRecentItems
  let callReferences := entries.map toolCallReferences
  let resultReferences := entries.map toolResultReferences
  let calls := recordedIds callReferences
  let results := recordedIds resultReferences
  let marked := (entries.zipIdx.filter fun entry =>
    entryIsSystem entry.1 || entryContainsReasoning entry.1 ||
      (toolCallReferences entry.1).present).map (·.2)
  let initial : ContextProtection := {
    guarded := List.range' recentStart (entries.length - recentStart) ++ marked ++
      (lastUserEntry entries).toList }
  let judged := resultReferences.zipIdx.foldl
    (protectResult (uniquelyCompleted callReferences calls results)) initial
  let others := (entries.zipIdx.filter fun entry =>
    entry.2 ∉ judged.compactableToolResults && !entryIsPlainConversation entry.1).map (·.2)
  { judged with guarded := judged.guarded ++ others }

section Rewriting

variable (codec : JsonCodec)

def spaced (text : Text) : Text :=
  text.map fun letter => if letter = '\n' then ' ' else letter

def summarizeText (text : Text) (maxChars : Nat) (label : String) : String :=
  if text.length ≤ maxChars then String.ofList text
  else
    let clip := max maxChars 16
    let headSize := clip / 2
    let tailSize := clip - headSize
    let head := String.ofList (Text.trim (spaced (text.take headSize)))
    let tail := String.ofList (Text.trim (spaced (text.drop (text.length - tailSize))))
    "[gateway-summary " ++ label ++ " original_chars=" ++ toString text.length ++ " head=\"" ++
      head ++ "\" tail=\"" ++ tail ++ "\"]"

def valueToText : Json → Text
  | .string text => text.toList
  | .null => []
  | value => (codec.print value).toList

def replaceIfSmaller (value replacement : Json) : Option Json :=
  if replacement = value ||
      estimateTokensFromValue codec value ≤ estimateTokensFromValue codec replacement then none
  else some replacement

def truncateValueField (maxChars : Nat) (label : String) (value : Json) : Option Json :=
  let text := valueToText codec value
  if text.length ≤ maxChars then none
  else replaceIfSmaller codec value (.string (summarizeText text maxChars label))

def changeField (object : List (String × Json)) (key : String) (change : Json → Option Json) :
    Option Json :=
  ((Json.field object key).bind change).map fun value => .object (Json.setField object key value)

def isResultBlock (block : Json) : Bool :=
  block.str "type" = some "tool_result"

def changeResultBlock (change : Json → Option Json) (block : Json) : Option Json :=
  if isResultBlock block then block.asObject.bind (changeField · "content" change) else none

-- The loop over the blocks of a content that has tool results.
def changeResultBlocks (change : Json → Option Json) (object : List (String × Json))
    (blocks : List Json) : Option Json :=
  if blocks.any fun block => (changeResultBlock change block).isSome then
    some (.object (Json.setField object "content"
      (.array (blocks.map fun block => (changeResultBlock change block).getD block))))
  else none

def nestedResults (object : List (String × Json)) : Option (List Json) :=
  ((Json.field object "content").bind Json.asArray).filter (·.any isResultBlock)

def truncateEntryContent (maxChars : Nat) (label : String) (toolResult : Bool) (entry : Json) :
    Option Json :=
  let change := truncateValueField codec maxChars label
  match entry.asObject with
  | none => change entry
  | some object =>
    match if toolResult then nestedResults object else none with
    | some blocks => changeResultBlocks change object blocks
    | none => (changeField object "content" change).or (changeField object "output" change)

def compactEntry (toolResult : Bool) (entry : Json) : Option Json :=
  let label := if toolResult then "tool_result" else "history_message"
  let change := fun value =>
    replaceIfSmaller codec value (.string ("[gateway-summary " ++ label ++ " omitted]"))
  match entry.asObject with
  | none => change entry
  | some object =>
    if toolResult && (Json.field object "output").isSome then changeField object "output" change
    else
      match if toolResult then nestedResults object else none with
      | some blocks => changeResultBlocks change object blocks
      | none =>
        if (Json.field object "content").isSome then changeField object "content" change
        else changeField object "output" change

def trimPass (change : Nat → Json → Option Json) (count : Nat → ContextTrimStats → ContextTrimStats)
    (targetTokens : Nat) : List Nat → List Json × ContextTrimStats → List Json × ContextTrimStats
  | [], state => state
  | index :: rest, (entries, stats) =>
    if estimateEntriesTokens codec entries ≤ targetTokens then (entries, stats)
    else
      match entries[index]?.bind (change index) with
      | some changed =>
        trimPass change count targetTokens rest (entries.set index changed, count index stats)
      | none => trimPass change count targetTokens rest (entries, stats)

def trimCandidates (entries : List Json) (protection : ContextProtection) : List Nat :=
  protection.compactableToolResults.insertionSort (· ≤ ·) ++
    (entries.zipIdx.filter fun entry =>
      entry.2 ∉ protection.guarded && entry.2 ∉ protection.compactableToolResults &&
        entryIsPlainConversation entry.1).map (·.2)

def trimEntriesToBudget (entries : List Json) (targetTokens : Nat)
    (protection : ContextProtection) : List Json × ContextTrimStats :=
  let candidates := trimCandidates entries protection
  let isResult index : Bool := index ∈ protection.compactableToolResults
  let countResult index (stats : ContextTrimStats) :=
    if isResult index then
      { stats with toolResultBlocks := saturatingIncrement stats.toolResultBlocks }
    else stats
  let truncated := trimPass codec
    (fun index =>
      if isResult index then
        truncateEntryContent codec contextToolResultTruncateChars "tool_result" true
      else truncateEntryContent codec contextMessageTruncateChars "message" false)
    (fun index stats => countResult index
      { stats with truncatedBlocks := saturatingIncrement stats.truncatedBlocks })
    targetTokens candidates (entries, {})
  trimPass codec (fun index => compactEntry codec (isResult index))
    (fun index stats => countResult index
      { stats with compactedEntries := saturatingIncrement stats.compactedEntries })
    targetTokens candidates truncated

def contextEntries (payload : Json) : Option (List Json) :=
  ((payload.get "messages").bind Json.asArray).or ((payload.get "input").bind Json.asArray)

def contextProtection (payload : Json) : ContextProtection :=
  ((contextEntries payload).map analyzeContextEntries).getD {}

def trimContextEntriesWithProtection (payload : Json) (targetTokens : Nat)
    (protection : ContextProtection) : Json × ContextTrimStats :=
  match payload.asObject with
  | none => (payload, {})
  | some object =>
    match (Json.field object "messages").bind Json.asArray with
    | some messages =>
      let trimmed := trimEntriesToBudget codec messages targetTokens protection
      (.object (Json.setField object "messages" (.array trimmed.1)), trimmed.2)
    | none =>
      match (Json.field object "input").bind Json.asArray with
      | some input =>
        let trimmed := trimEntriesToBudget codec input targetTokens protection
        (.object (Json.setField object "input" (.array trimmed.1)), trimmed.2)
      | none => (payload, {})

def trimContextEntries (payload : Json) (targetTokens : Nat) : Json × ContextTrimStats :=
  trimContextEntriesWithProtection codec payload targetTokens (contextProtection payload)

end Rewriting

end ChatGateway
