import ChatGateway.Gateway.ThinkingSignature
import ChatGateway.Stream.StreamEvents

set_option autoImplicit false

/-!
# Chat chunks as Claude events

`ClaudeStreamState` turns the chunks of a Chat stream into the events of a Messages stream. Each
function returns the state it leaves and the events it queues.
-/

namespace ChatGateway

structure ClaudeThinkingSignatureContext where
  secret : String
  model : String
  upstreamId : String
  protocol : String
  profileFingerprint : String
deriving DecidableEq, Repr

def ClaudeThinkingSignatureContext.input (context : ClaudeThinkingSignatureContext)
    (thinking : String) (callIds : List String) : ThinkingSignatureInput where
  thinking
  model := context.model
  upstreamId := context.upstreamId
  protocol := context.protocol
  profileFingerprint := context.profileFingerprint
  callIds

def ClaudeThinkingSignatureContext.sign (context : ClaudeThinkingSignatureContext)
    (crypto : SigningCrypto) (thinking : String) (callIds : List String) : String :=
  signThinking crypto (Text.utf8 context.secret.toList) (context.input thinking callIds)

inductive ClaudeBlock where
  | thinking
  | text
  | toolUse (id name : String)
deriving DecidableEq, Repr

inductive ClaudeDelta where
  | thinking (text : String)
  | signature (signature : String)
  | text (text : String)
  | inputJson (partialJson : String)
deriving DecidableEq, Repr

inductive ClaudeEvent where
  | keepAlive
  | error (error : List (String × Json))
  | messageStart (id model : String) (inputTokens : Nat)
  | blockStart (index : Nat) (block : ClaudeBlock)
  | blockDelta (index : Nat) (delta : ClaudeDelta)
  | blockStop (index : Nat)
  | messageDelta (stopReason : String) (outputTokens : Nat)
  | messageStop
deriving DecidableEq

structure ClaudeToolUseState where
  blockIndex : Nat
  id : String := ""
  name : String := ""
  started : Bool := false
  stopped : Bool := false
deriving DecidableEq, Repr

structure ClaudeStreamState where
  thinkingSignature : Option ClaudeThinkingSignatureContext := none
  usage : Option TokenUsage := none
  messageId : Option String := none
  model : Option String := none
  messageStartEmitted : Bool := false
  currentTextBlockIndex : Option Nat := none
  thinkingBlockIndex : Option Nat := none
  thinkingBlockStarted : Bool := false
  thinkingBlockFinished : Bool := false
  thinkingText : String := ""
  nextBlockIndex : Nat := 0
  toolBlocks : OrderedMap Nat ClaudeToolUseState := {}
  stopReason : Option String := none
  downstreamFinished : Bool := false

def chatFinishReasonToClaudeStopReason (reason : Option String) : String :=
  match reason with
  | some "length" => "max_tokens"
  | some "tool_calls" | some "function_call" => "tool_use"
  | _ => "end_turn"

def plainTextOfPart (part : Json) : String :=
  match part with
  | .string text => text
  | part => (part.str "text").getD ""

def extractPlainTextFromContent (content : Option Json) : String :=
  match content with
  | none | some .null => ""
  | some (.string text) => text
  | some (.array parts) => (parts.map plainTextOfPart).foldl (· ++ ·) ""
  | some (.object object) => ((Json.field object "text").bind Json.asStr).getD ""
  | some _ => ""

def followedBy {S : Type} (first : S × List ClaudeEvent) (next : S → S × List ClaudeEvent) :
    S × List ClaudeEvent :=
  ((next first.1).1, first.2 ++ (next first.1).2)

def nonempty (text : Option String) : Option String :=
  text.filter fun text => text ≠ ""

structure CallFragment where
  toolIndex : Nat
  callId : Option String
  name : Option String
  partialJson : Option String
deriving DecidableEq, Repr

def callFragment (toolCall : Json) (fallbackIndex : Nat) : CallFragment :=
  let function := (toolCall.get "function").bind Json.asObject
  { toolIndex := (toolCall.u64 "index").getD fallbackIndex
    callId := nonempty (toolCall.str "id")
    name := nonempty ((function.bind (Json.field · "name")).bind Json.asStr)
    partialJson := nonempty ((function.bind (Json.field · "arguments")).bind Json.asStr) }

def legacyFragment (functionCall : Json) : CallFragment where
  toolIndex := 0
  callId := nonempty (functionCall.str "id")
  name := nonempty (functionCall.str "name")
  partialJson := nonempty (functionCall.str "arguments")

namespace ClaudeStreamState

def ensureMessageStart (state : ClaudeStreamState) : ClaudeStreamState × List ClaudeEvent :=
  if state.messageStartEmitted then (state, [])
  else
    ({ state with messageStartEmitted := true },
      [.messageStart (state.messageId.getD "msg") (state.model.getD "")
        (state.usage.getD (0, 0, 0)).1])

def closeTextBlock (state : ClaudeStreamState) : ClaudeStreamState × List ClaudeEvent :=
  match state.currentTextBlockIndex with
  | none => (state, [])
  | some index => ({ state with currentTextBlockIndex := none }, [.blockStop index])

def closeToolBlock (state : ClaudeStreamState) (toolIndex : Nat) :
    ClaudeStreamState × List ClaudeEvent :=
  match state.toolBlocks.find? toolIndex with
  | none => (state, [])
  | some tool =>
    if tool.started && !tool.stopped then
      ({ state with toolBlocks := state.toolBlocks.put toolIndex { tool with stopped := true } },
        [.blockStop tool.blockIndex])
    else (state, [])

def closeToolBlocks (state : ClaudeStreamState) : List Nat → ClaudeStreamState × List ClaudeEvent
  | [] => (state, [])
  | toolIndex :: rest =>
    followedBy (state.closeToolBlock toolIndex) fun next => next.closeToolBlocks rest

def closeOpenToolBlocks (state : ClaudeStreamState) : ClaudeStreamState × List ClaudeEvent :=
  state.closeToolBlocks (state.toolBlocks.entries.map (·.1))

def emitTextDelta (state : ClaudeStreamState) (text : String) :
    ClaudeStreamState × List ClaudeEvent :=
  followedBy state.ensureMessageStart fun started =>
    match started.currentTextBlockIndex with
    | some index => (started, [.blockDelta index (.text text)])
    | none =>
      ({ started with
          nextBlockIndex := started.nextBlockIndex + 1
          currentTextBlockIndex := some started.nextBlockIndex },
        [.blockStart started.nextBlockIndex .text,
          .blockDelta started.nextBlockIndex (.text text)])

/-- The tool block of a fragment, reserved if there is none yet, with the id and the name the
fragment brings. -/
def namedTool (state : ClaudeStreamState) (fragment : CallFragment) : ClaudeToolUseState :=
  let tool := (state.toolBlocks.find? fragment.toolIndex).getD
    { blockIndex := state.nextBlockIndex }
  let id := fragment.callId.getD tool.id
  { tool with
    id := if id = "" then "toolu_" ++ toString tool.blockIndex else id
    name := fragment.name.getD tool.name }

def startsTool (tool : ClaudeToolUseState) (fragment : CallFragment) : Bool :=
  !tool.started && (tool.name ≠ "" || fragment.partialJson.isSome)

def emitToolDeltaParts (state : ClaudeStreamState) (fragment : CallFragment) :
    ClaudeStreamState × List ClaudeEvent :=
  let tool := state.namedTool fragment
  let starts := startsTool tool fragment
  ({ state with
      nextBlockIndex :=
        if (state.toolBlocks.find? fragment.toolIndex).isNone then state.nextBlockIndex + 1
        else state.nextBlockIndex
      toolBlocks := state.toolBlocks.put fragment.toolIndex
        { tool with started := tool.started || starts } },
    (if starts then [.blockStart tool.blockIndex (.toolUse tool.id tool.name)] else []) ++
      (fragment.partialJson.map fun text =>
        ClaudeEvent.blockDelta tool.blockIndex (.inputJson text)).toList)

def emitToolFragments (state : ClaudeStreamState) :
    List CallFragment → ClaudeStreamState × List ClaudeEvent
  | [] => (state, [])
  | fragment :: rest =>
    followedBy (state.emitToolDeltaParts fragment) fun next => next.emitToolFragments rest

section Translation

variable (crypto : SigningCrypto)

def finishThinkingBlock (state : ClaudeStreamState) (callIds : List String) :
    ClaudeStreamState × List ClaudeEvent :=
  if !state.thinkingBlockStarted || state.thinkingBlockFinished then (state, [])
  else
    let index := state.thinkingBlockIndex.getD 0
    ({ state with thinkingBlockFinished := true },
      (state.thinkingSignature.map fun context =>
        ClaudeEvent.blockDelta index
          (.signature (context.sign crypto state.thinkingText callIds))).toList ++
      [.blockStop index])

def finishMessage (state : ClaudeStreamState) : ClaudeStreamState × List ClaudeEvent :=
  if state.downstreamFinished then (state, [])
  else
    followedBy state.ensureMessageStart fun started =>
    followedBy (started.finishThinkingBlock crypto []) fun thought =>
    followedBy thought.closeTextBlock fun told =>
    followedBy told.closeOpenToolBlocks fun closed =>
      ({ closed with downstreamFinished := true },
        [.messageDelta (closed.stopReason.getD (chatFinishReasonToClaudeStopReason none))
            (closed.usage.getD (0, 0, 0)).2.1,
          .messageStop])

def claudeError (upstreamError : List (String × Json)) : List (String × Json) :=
  let error := Json.setField (Json.removeField upstreamError "param") "type" (.string "api_error")
  if ((Json.field error "message").bind Json.asStr).isSome then error
  else Json.setField error "message" (.string "upstream stream failed")

def emitGatewayError (state : ClaudeStreamState) (event : Json) :
    Option (ClaudeStreamState × List ClaudeEvent) :=
  ((event.get "error").bind Json.asObject).map fun upstreamError =>
    ({ state with downstreamFinished := true }, [.error (claudeError upstreamError)])

def noteMetadata (state : ClaudeStreamState) (chunk : Json) : ClaudeStreamState :=
  { state with
    messageId := (chunk.str "id").or state.messageId
    model := (chunk.str "model").or state.model
    usage := (streamUsageFromValue chunk).or state.usage }

def consumeRole (state : ClaudeStreamState) (delta : Json) : ClaudeStreamState × List ClaudeEvent :=
  if delta.str "role" = some "assistant" then state.ensureMessageStart else (state, [])

def emitThinking (state : ClaudeStreamState) (reasoning : String) :
    ClaudeStreamState × List ClaudeEvent :=
  if state.thinkingBlockStarted then
    ({ state with thinkingText := state.thinkingText ++ reasoning },
      [.blockDelta (state.thinkingBlockIndex.getD 0) (.thinking reasoning)])
  else
    ({ state with
        nextBlockIndex := state.nextBlockIndex + 1
        thinkingBlockIndex := some state.nextBlockIndex
        thinkingBlockStarted := true
        thinkingText := state.thinkingText ++ reasoning },
      [.blockStart state.nextBlockIndex .thinking,
        .blockDelta state.nextBlockIndex (.thinking reasoning)])

def consumeReasoning (state : ClaudeStreamState) (delta : Json) :
    ClaudeStreamState × List ClaudeEvent :=
  match nonempty (delta.str "reasoning_content") with
  | some reasoning =>
    if state.thinkingBlockFinished then (state, [])
    else followedBy state.ensureMessageStart fun started => started.emitThinking reasoning
  | none => (state, [])

def deltaText (delta : Json) : Option String :=
  nonempty ((delta.get "content").map fun content => extractPlainTextFromContent (some content))

def consumeContent (state : ClaudeStreamState) (delta : Json) :
    ClaudeStreamState × List ClaudeEvent :=
  match deltaText delta with
  | none => (state, [])
  | some text =>
    followedBy (state.finishThinkingBlock crypto []) fun thought =>
    followedBy thought.closeOpenToolBlocks fun closed => closed.emitTextDelta text

def beforeFragments (state : ClaudeStreamState) (callIds : List String) :
    ClaudeStreamState × List ClaudeEvent :=
  followedBy (state.finishThinkingBlock crypto callIds) fun thought =>
  followedBy thought.closeTextBlock ensureMessageStart

def consumeFragments (state : ClaudeStreamState) (callIds : List String)
    (fragments : List CallFragment) : ClaudeStreamState × List ClaudeEvent :=
  followedBy (state.beforeFragments crypto callIds) (·.emitToolFragments fragments)

def consumeToolCalls (state : ClaudeStreamState) (delta : Json) :
    ClaudeStreamState × List ClaudeEvent :=
  match (delta.get "tool_calls").bind Json.asArray with
  | none | some [] => (state, [])
  | some toolCalls =>
    state.consumeFragments crypto (toolCalls.filterMap (·.str "id"))
      (toolCalls.zipIdx.map fun call => callFragment call.1 call.2)

def consumeFunctionCall (state : ClaudeStreamState) (delta : Json) :
    ClaudeStreamState × List ClaudeEvent :=
  match delta.get "function_call" with
  | none => (state, [])
  | some functionCall =>
    state.consumeFragments crypto (functionCall.str "id").toList [legacyFragment functionCall]

def consumeFinish (state : ClaudeStreamState) (choice : Json) :
    ClaudeStreamState × List ClaudeEvent :=
  match choice.str "finish_reason" with
  | none => (state, [])
  | some reason =>
    followedBy (state.finishThinkingBlock crypto []) fun thought =>
      { thought with
          stopReason := some (chatFinishReasonToClaudeStopReason (some reason)) }.finishMessage
        crypto

def consumeChatChunk (state : ClaudeStreamState) (chunk : Json) :
    ClaudeStreamState × List ClaudeEvent :=
  if state.downstreamFinished then (state, [])
  else
    let known := state.noteMetadata chunk
    match ((chunk.get "choices").bind Json.asArray).bind List.head? with
    | none => (known, [])
    | some choice =>
      let delta := (choice.get "delta").getD .null
      followedBy (known.consumeRole delta) fun greeted =>
      followedBy (greeted.consumeReasoning delta) fun reasoned =>
      followedBy (reasoned.consumeContent crypto delta) fun told =>
      followedBy (told.consumeToolCalls crypto delta) fun called =>
      followedBy (called.consumeFunctionCall crypto delta) fun legacy =>
        legacy.consumeFinish crypto choice

end Translation

end ClaudeStreamState

inductive ChatFrame where
  | comment
  | done
  | event (value : Json)

namespace ClaudeStreamState

variable (crypto : SigningCrypto)

def consumeFrame (state : ClaudeStreamState) :
    ChatFrame → ClaudeStreamState × List ClaudeEvent
  | .comment => (state, [.keepAlive])
  | .done => if state.downstreamFinished then (state, []) else state.finishMessage crypto
  | .event value => (state.emitGatewayError value).getD (state.consumeChatChunk crypto value)

def drainFrames (state : ClaudeStreamState) :
    List ChatFrame → ClaudeStreamState × List ClaudeEvent
  | [] => (state, [])
  | frame :: rest =>
    followedBy (state.consumeFrame crypto frame) fun next => next.drainFrames rest

def finishUpstream (state : ClaudeStreamState) : ClaudeStreamState × List ClaudeEvent :=
  if state.downstreamFinished then (state, []) else state.finishMessage crypto

def run (state : ClaudeStreamState) (frames : List ChatFrame) : List ClaudeEvent :=
  (followedBy (state.drainFrames crypto frames) (·.finishUpstream crypto)).2

end ClaudeStreamState

end ChatGateway
