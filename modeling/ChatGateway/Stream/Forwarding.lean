import ChatGateway.Protocol.Canonicalizer
import ChatGateway.Shared.FrameLoop
import ChatGateway.Stream.StreamEvents

set_option autoImplicit false

/-!
# The forwarded streams

`ProxiedStreamState` forwards the frames of an upstream that speaks the client's protocol,
`TranslatedStreamState` those of one that speaks the other. Both read the frames of their buffer
with one loop and differ in what they do with an event.
-/

namespace ChatGateway

inductive DecodeReason where
  | invalidUtf8
  | invalidJson
deriving DecidableEq, Repr

-- The details of a decode error are its reason, the number and the offset of the frame and, of the
-- payload, the length and a sanitized excerpt.
inductive GatewayError where
  | badRequest (message : String)
  | classified (status : Nat) (message errorType code : String)
  | sseDecode (code : String) (reason : DecodeReason) (frameSeq streamOffset : Nat)
    (payload : List UInt8)
deriving DecidableEq, Repr

def badGateway : Nat := 502

def upstreamInvalidResponse (message code : String) : GatewayError :=
  .classified badGateway message "upstream_error" code

def upstreamEmptyResponseError : GatewayError :=
  upstreamInvalidResponse "upstream returned an empty response body (no content, zero tokens)"
    "upstream_empty_response"

def streamGatewayError (message category : String) : GatewayError :=
  .classified badGateway message "upstream_error" category

def upstreamStreamTranslationError : GatewayError :=
  streamGatewayError "failed to translate upstream SSE event" "upstream_protocol_translation_failed"

def upstreamIncompleteEofError : GatewayError :=
  streamGatewayError "upstream SSE ended before a required semantic terminal"
    "stream_upstream_incomplete_eof"

def upstreamIncompleteDoneError : GatewayError :=
  streamGatewayError "upstream SSE emitted [DONE] before a required semantic terminal"
    "upstream_stream_incomplete"

def protocolErrorToGateway : ProtocolError → GatewayError
  | .capabilityUnsupported =>
    .classified 400 "selected route cannot preserve required protocol capability"
      "invalid_request_error" "gateway_protocol_capability_unsupported"
  | .missingField field => .badRequest ("protocol conversion failed: missing field " ++ field)
  | .encryptedAgentMessageUnsupported =>
    .classified 400 "encrypted subagent messages require a native Responses route; use the V1 catalog profile and start a new Codex session"
      "invalid_request_error" "encrypted_agent_message_requires_responses_upstream"
  | .invalidPayload _ => .badRequest "protocol conversion failed: invalid payload shape"
  | .invalidUpstreamStream kind _ =>
    match kind with
    | .decode =>
      upstreamInvalidResponse "failed to decode upstream SSE stream" "upstream_stream_decode_error"
    | .limitExceeded =>
      upstreamInvalidResponse "upstream SSE stream exceeded gateway limits"
        "upstream_stream_limit_exceeded"
    | .upstreamEvent =>
      upstreamInvalidResponse "upstream SSE stream reported failure" "upstream_stream_error_event"
    | .incomplete =>
      upstreamInvalidResponse "upstream SSE stream ended before semantic completion"
        "upstream_stream_incomplete"
  | .unsupportedImageSource =>
    .badRequest "protocol conversion failed: unsupported image source"

def JsonCodec.read (codec : JsonCodec) (text : Text) : Option Json :=
  match codec.readStream (String.ofList text) with
  | [some value] => some value
  | _ => none

inductive FrameContent where
  | failure (error : ProtocolError)
  | undecodable
  | bare
  | keepalive
  | done
  | malformed (payload : Text)
  | event (value : Json)
deriving DecidableEq

def frameContent (codec : JsonCodec) (frame : List UInt8) : FrameContent :=
  match namedUpstreamSseFailure frame with
  | some error => .failure error
  | none =>
    match parseSseDataPayload frame with
    | .error _ => .undecodable
    | .ok none => .bare
    | .ok (some payload) =>
      if ssePayloadIsKeepalive payload then .keepalive
      else if Text.trim payload = "[DONE]".toList then .done
      else
        match codec.read payload with
        | none => .malformed payload
        | some value => .event value

inductive StreamEnd where
  | done
  | eof
deriving DecidableEq, Repr

structure ForwardSettings where
  codec : JsonCodec
  endpoint : EndpointKind
  splitDecodeCode : Bool
  maxSkippedBadFrames : Nat
  keepsHistory : Bool
  responseStamp : ResponseStamp
  chatStamp : ChatStamp
  downstreamResponseId : String

def ForwardSettings.decodeError (settings : ForwardSettings) (reason : DecodeReason)
    (frameSeq streamOffset : Nat) (payload : List UInt8) : GatewayError :=
  .sseDecode
    (if settings.splitDecodeCode then "stream_upstream_sse_parse_error"
      else "stream_upstream_body_decode_error")
    reason frameSeq streamOffset payload

structure FrameCounters where
  bytesConsumed : Nat := 0
  framesReceived : Nat := 0
  sseBadFramesSkipped : Nat := 0
  firstSkippedBadFrame : Option Text := none
deriving DecidableEq, Repr

def FrameCounters.receive (counters : FrameCounters) (frame : List UInt8) (delimiterLength : Nat) :
    FrameCounters :=
  { counters with
    bytesConsumed := counters.bytesConsumed + (frame.length + delimiterLength)
    framesReceived := counters.framesReceived + 1 }

def FrameCounters.skip (counters : FrameCounters) (payload : Text) : FrameCounters :=
  { counters with
    sseBadFramesSkipped := counters.sseBadFramesSkipped + 1
    firstSkippedBadFrame := counters.firstSkippedBadFrame.or (some (payload.take 64)) }

/-- What a forwarded stream has done to the outside: the bytes the client received, the events
pushed to it and the events offered to the response history. -/
structure ForwardTrace where
  received : List UInt8 := []
  pushed : List Json := []
  offered : List Json := []
deriving DecidableEq

def storeFromResponseValue (response : Json) : Bool :=
  ((response.str "id").any fun id => !(Text.trim id.toList).isEmpty) &&
    ((response.get "output").bind Json.asArray).isSome

def storeFromCompletedEvent (event : Json) : Bool :=
  event.str "type" = some "response.completed" &&
    storeFromResponseValue ((event.get "response").getD .null)

def offers : List Json → List Json
  | [] => []
  | event :: rest => if storeFromCompletedEvent event then [event] else event :: offers rest

inductive StreamTranslator where
  | chatToResponses (state : ChatToResponsesState)
  | responsesToChat (state : ResponsesToChatState)

structure TranslatedPendingFrame where
  bytes : List UInt8
  usableOutput : Bool := false
deriving DecidableEq

structure TranslatedStreamState where
  translator : StreamTranslator
  canonicalizer : Option ChatStreamCanonicalizer
  pending : List TranslatedPendingFrame := []
  usage : Option TokenUsage := none
  responseHistoryStored : Bool := false
  counters : FrameCounters := {}
  nextResponsesSequenceNumber : Nat := 1
  finished : Bool := false
  semanticTerminalEmitted : Bool := false
  usableOutputObserved : Bool := false
  usableOutputDelivered : Bool := false
  commitTracker : StreamCommitTracker := {}
  trace : ForwardTrace := {}

section Translated

variable (settings : ForwardSettings)

def StreamTranslator.translateEvent (translator : StreamTranslator) (event : Json) :
    Except ProtocolError (StreamTranslator × List Json) :=
  match translator with
  | .chatToResponses state =>
    (state.translateEvent settings.responseStamp settings.codec event).map fun emitted =>
      (.chatToResponses emitted.1, emitted.2.map ResponsesEvent.toJson)
  | .responsesToChat state =>
    (state.translateEvent settings.chatStamp settings.codec event).map fun emitted =>
      (.responsesToChat emitted.1, emitted.2)

def StreamTranslator.finish (translator : StreamTranslator) :
    Except ProtocolError (StreamTranslator × List Json) :=
  match translator with
  | .chatToResponses state =>
    let emitted := state.finish settings.responseStamp settings.codec
    .ok (.chatToResponses emitted.1, emitted.2.map ResponsesEvent.toJson)
  | .responsesToChat state =>
    (state.finish settings.chatStamp settings.codec).map fun emitted =>
      (.responsesToChat emitted.1, emitted.2)

namespace TranslatedStreamState

def pushTranslatedEvent (state : TranslatedStreamState) (event : Json) : TranslatedStreamState :=
  let usableOutput := streamEventHasUsableOutput event
  { state with
    commitTracker := state.commitTracker.observeJson settings.endpoint event
    nextResponsesSequenceNumber :=
      if settings.endpoint = .responses then
        advanceResponsesSequenceNumber state.nextResponsesSequenceNumber event
      else state.nextResponsesSequenceNumber
    usableOutputObserved := state.usableOutputObserved || usableOutput
    pending := state.pending ++ [{ bytes := serializeSseData settings.codec event, usableOutput }]
    trace := { state.trace with pushed := state.trace.pushed ++ [event] } }

def pushTranslated (state : TranslatedStreamState) (translated : List Json) :
    TranslatedStreamState :=
  translated.foldl (pushTranslatedEvent settings) state

def pushFrame (state : TranslatedStreamState) (bytes : List UInt8) : TranslatedStreamState :=
  { state with pending := state.pending ++ [{ bytes }] }

def observeTranslated (state : TranslatedStreamState) (translated : List Json) :
    TranslatedStreamState :=
  let terminal :=
    { state with
      semanticTerminalEmitted :=
        state.semanticTerminalEmitted || translated.any responsesEventIsTerminal }
  if !state.responseHistoryStored && settings.keepsHistory then
    { terminal with
      responseHistoryStored := translated.any storeFromCompletedEvent
      trace := { state.trace with offered := state.trace.offered ++ offers translated } }
  else terminal

/-- The loop of `drain_buffer` over the events of one frame. -/
def forwardEvents : TranslatedStreamState → List Json → TranslatedStreamState × Option GatewayError
  | state, [] => (state, none)
  | state, event :: rest =>
    match state.translator.translateEvent settings event with
    | .error _ => (state, some upstreamStreamTranslationError)
    | .ok (translator, translated) =>
      let observed := { state with translator }.observeTranslated settings translated
      forwardEvents (observed.pushTranslated settings translated) rest

/-- The loop of `finish_stream` over the last events of the canonicalizer. -/
def forwardLastEvents :
    TranslatedStreamState → List Json → TranslatedStreamState × Option GatewayError
  | state, [] => (state, none)
  | state, event :: rest =>
    match state.translator.translateEvent settings event with
    | .error _ => (state, some upstreamStreamTranslationError)
    | .ok (translator, translated) =>
      forwardLastEvents ({ state with translator }.pushTranslated settings translated) rest

def finishTranslator (state : TranslatedStreamState) : TranslatedStreamState × Option GatewayError :=
  match state.translator.finish settings with
  | .error _ => (state, some upstreamStreamTranslationError)
  | .ok (translator, translated) =>
    let observed := { state with translator }.observeTranslated settings translated
    let closed := (observed.pushTranslated settings translated).pushFrame sseDoneFrame
    ({ closed with finished := true }, none)

def finishStream (state : TranslatedStreamState) (streamEnd : StreamEnd) :
    TranslatedStreamState × Option GatewayError :=
  if state.finished then (state, none)
  else
    match state.canonicalizer with
    | none => state.finishTranslator settings
    | some canonicalizer =>
      let taken := { state with canonicalizer := none }
      match canonicalizer.finish with
      | .error error =>
        if streamEnd = .done ∧ ¬ state.usableOutputObserved ∧
            streamOutputTokensAreZeroOrUnknown state.usage then
          (taken, some upstreamEmptyResponseError)
        else (taken, some (protocolErrorToGateway error))
      | .ok events =>
        match taken.forwardLastEvents settings events with
        | (forwarded, some error) => (forwarded, some error)
        | (forwarded, none) => forwarded.finishTranslator settings

def handleEvent (state : TranslatedStreamState) (event : Json) :
    TranslatedStreamState × Option GatewayError :=
  match envelopedUpstreamSseFailure event with
  | some error => (state, some (protocolErrorToGateway error))
  | none =>
    let metered := { state with usage := (streamUsageFromValue event).or state.usage }
    match metered.canonicalizer with
    | none => metered.forwardEvents settings [event]
    | some canonicalizer =>
      match canonicalizer.push event with
      | .error error => (metered, some (protocolErrorToGateway error))
      | .ok (pushed, events) =>
        { metered with canonicalizer := some pushed }.forwardEvents settings events

def usableOutputExposed (state : TranslatedStreamState) : Bool :=
  state.usableOutputDelivered

def handleMalformed (state : TranslatedStreamState) (payload : Text) (error : GatewayError) :
    FrameLoop.Handled TranslatedStreamState GatewayError :=
  if !state.usableOutputExposed && !state.commitTracker.semanticOutputObserved then
    .rejected state error false
  else
    let skipped := { state with counters := state.counters.skip payload }
    if settings.maxSkippedBadFrames < skipped.counters.sseBadFramesSkipped then
      .rejected skipped error false
    else .next skipped

def handleFrame (state : TranslatedStreamState) (frame : List UInt8) (delimiterLength : Nat) :
    FrameLoop.Handled TranslatedStreamState GatewayError :=
  let frameOffset := state.counters.bytesConsumed
  let frameSeq := state.counters.framesReceived
  let counted := { state with counters := state.counters.receive frame delimiterLength }
  match frameContent settings.codec frame with
  | .failure error => .rejected counted (protocolErrorToGateway error) true
  | .undecodable =>
    .rejected counted (settings.decodeError .invalidUtf8 frameSeq frameOffset frame) true
  | .bare =>
    if isSseCommentFrame frame then
      .next (counted.pushFrame (serializeRawSseFrame frame delimiterLength))
    else .next counted
  | .keepalive => .next counted
  | .done => .ofEnd (counted.finishStream settings .done)
  | .malformed payload =>
    counted.handleMalformed settings payload
      (settings.decodeError .invalidJson frameSeq frameOffset payload.utf8)
  | .event event => .ofStep (counted.handleEvent settings event)

def deliverPending (state : TranslatedStreamState) : TranslatedStreamState :=
  { state with
    pending := []
    usableOutputDelivered :=
      state.usableOutputDelivered || state.pending.any (·.usableOutput)
    trace :=
      { state.trace with
        received := state.trace.received ++ state.pending.flatMap (·.bytes) } }

end TranslatedStreamState

end Translated

structure ProxiedStreamState where
  canonicalizer : Option ChatStreamCanonicalizer
  rewriteResponsesEvents : Bool
  pending : List (List UInt8) := []
  upstreamResponseId : Option String := none
  nextResponsesSequenceNumber : Nat := 1
  usage : Option TokenUsage := none
  responseHistoryStored : Bool := false
  finished : Bool := false
  semanticTerminalEmitted : Bool := false
  usableOutputSeen : Bool := false
  counters : FrameCounters := {}
  commitTracker : StreamCommitTracker := {}
  trace : ForwardTrace := {}

section Proxied

variable (settings : ForwardSettings)

namespace ProxiedStreamState

def endpoint (state : ProxiedStreamState) : EndpointKind :=
  if state.rewriteResponsesEvents then .responses else .chatCompletions

def pushFrame (state : ProxiedStreamState) (bytes : List UInt8) : ProxiedStreamState :=
  { state with pending := state.pending ++ [bytes] }

def observeEvent (state : ProxiedStreamState) (event : Json) : ProxiedStreamState :=
  let offering := !state.responseHistoryStored && settings.keepsHistory
  { state with
    commitTracker := state.commitTracker.observeJson state.endpoint event
    nextResponsesSequenceNumber :=
      if state.rewriteResponsesEvents then
        advanceResponsesSequenceNumber state.nextResponsesSequenceNumber event
      else state.nextResponsesSequenceNumber
    usableOutputSeen := state.usableOutputSeen || streamEventHasUsableOutput event
    semanticTerminalEmitted := state.semanticTerminalEmitted || responsesEventIsTerminal event
    responseHistoryStored :=
      if offering then storeFromCompletedEvent event else state.responseHistoryStored
    trace :=
      if offering then { state.trace with offered := state.trace.offered ++ [event] }
      else state.trace }

/-- The frame of an event: written anew on a Chat stream, and on a Responses stream only where the
event was changed. -/
def eventFrame (state : ProxiedStreamState) (frame : List UInt8) (delimiterLength : Nat)
    (changed : Bool) (event : Json) : Except Utf8Error (Option (List UInt8)) :=
  if state.canonicalizer.isSome then .ok (some (serializeSseData settings.codec event))
  else if state.rewriteResponsesEvents then
    if changed then (rewriteSseDataPayload settings.codec frame delimiterLength event).map some
    else .ok (some (serializeRawSseFrame frame delimiterLength))
  else .ok none

/-- The loop of `drain_usage_from_buffer` over the events of one frame. -/
def forwardEvents (frame : List UInt8) (delimiterLength : Nat) (changed : Bool)
    (error : GatewayError) :
    ProxiedStreamState → List Json → ProxiedStreamState × Option GatewayError
  | state, [] => (state, none)
  | state, event :: rest =>
    let observed := state.observeEvent settings event
    match observed.eventFrame settings frame delimiterLength changed event with
    | .error _ => (observed, some error)
    | .ok none => forwardEvents frame delimiterLength changed error observed rest
    | .ok (some bytes) =>
      forwardEvents frame delimiterLength changed error (observed.pushFrame bytes) rest

def pushLastEvent (state : ProxiedStreamState) (event : Json) : ProxiedStreamState :=
  { state with
    commitTracker := state.commitTracker.observeJson state.endpoint event
    pending := state.pending ++ [serializeSseData settings.codec event] }

def finishEvents (state : ProxiedStreamState) (events : List Json) : ProxiedStreamState :=
  events.foldl (pushLastEvent settings) state

def finishStream (state : ProxiedStreamState) (streamEnd : StreamEnd) :
    ProxiedStreamState × Option GatewayError :=
  if state.finished then (state, none)
  else
    match state.canonicalizer with
    | none =>
      if state.rewriteResponsesEvents && !state.semanticTerminalEmitted then
        (state, some (match streamEnd with
          | .done => upstreamIncompleteDoneError
          | .eof => upstreamIncompleteEofError))
      else ({ state with finished := true }, none)
    | some canonicalizer =>
      let taken := { state with canonicalizer := none }
      match canonicalizer.finish with
      | .error error =>
        if streamEnd = .done ∧ ¬ state.usableOutputSeen ∧
            streamOutputTokensAreZeroOrUnknown state.usage then
          (taken, some upstreamEmptyResponseError)
        else (taken, some (protocolErrorToGateway error))
      | .ok events =>
        ({ (taken.finishEvents settings events).pushFrame sseDoneFrame with finished := true }, none)

/-- A Responses stream passes the `[DONE]` of the upstream on. -/
def finishDone (state : ProxiedStreamState) (rawFrame : List UInt8) :
    ProxiedStreamState × Option GatewayError :=
  match state.finishStream settings .done with
  | (finished, none) =>
    (if state.rewriteResponsesEvents then finished.pushFrame rawFrame else finished, none)
  | (refused, some error) => (refused, some error)

def rewriteEvent (rewrites : Bool) (event : Json) : Json × Bool :=
  if rewrites then rewriteResponsesEventResponseId event settings.downstreamResponseId
  else (event, false)

def meterEvent (state : ProxiedStreamState) (normalized rewritten : Json) : ProxiedStreamState :=
  { state with
    upstreamResponseId := state.upstreamResponseId.or (responsesEventResponseId normalized)
    usage := (streamUsageFromValue rewritten).or state.usage
    semanticTerminalEmitted := state.semanticTerminalEmitted ||
      (state.canonicalizer.isSome && chatStreamEventIsSemanticallyComplete rewritten) }

def handleEvent (state : ProxiedStreamState) (frame : List UInt8) (delimiterLength : Nat)
    (error : GatewayError) (event : Json) : ProxiedStreamState × Option GatewayError :=
  match envelopedUpstreamSseFailure event with
  | some failure => (state, some (protocolErrorToGateway failure))
  | none =>
    let (normalized, usageNormalized) := normalizeResponsesEventUsage event
    let (rewritten, idRewritten) := rewriteEvent settings state.rewriteResponsesEvents normalized
    let metered := state.meterEvent normalized rewritten
    let changed := usageNormalized || idRewritten
    match state.canonicalizer with
    | none => forwardEvents settings frame delimiterLength changed error metered [rewritten]
    | some canonicalizer =>
      match canonicalizer.push rewritten with
      | .error failure => (metered, some (protocolErrorToGateway failure))
      | .ok (pushed, events) =>
        forwardEvents settings frame delimiterLength changed error
          { metered with canonicalizer := some pushed } events

def usableOutputExposed (state : ProxiedStreamState) : Bool :=
  state.usableOutputSeen

def handleMalformed (state : ProxiedStreamState) (payload : Text) (error : GatewayError) :
    FrameLoop.Handled ProxiedStreamState GatewayError :=
  if !state.usableOutputExposed && !state.commitTracker.semanticOutputObserved then
    .rejected state error false
  else
    let skipped := { state with counters := state.counters.skip payload }
    if settings.maxSkippedBadFrames < skipped.counters.sseBadFramesSkipped then
      .rejected skipped error false
    else .next skipped

def handleFrame (state : ProxiedStreamState) (frame : List UInt8) (delimiterLength : Nat) :
    FrameLoop.Handled ProxiedStreamState GatewayError :=
  let frameOffset := state.counters.bytesConsumed
  let frameSeq := state.counters.framesReceived
  let counted := { state with counters := state.counters.receive frame delimiterLength }
  let rawFrame := serializeRawSseFrame frame delimiterLength
  match frameContent settings.codec frame with
  | .failure error => .rejected counted (protocolErrorToGateway error) true
  | .undecodable =>
    .rejected counted (settings.decodeError .invalidUtf8 frameSeq frameOffset frame) true
  | .bare =>
    if state.rewriteResponsesEvents || (state.canonicalizer.isSome && isSseCommentFrame frame) then
      .next (counted.pushFrame rawFrame)
    else .next counted
  | .keepalive => .next counted
  | .done => .ofEnd (counted.finishDone settings rawFrame)
  | .malformed payload =>
    counted.handleMalformed settings payload
      (settings.decodeError .invalidJson frameSeq frameOffset payload.utf8)
  | .event event =>
    let error := settings.decodeError .invalidJson frameSeq frameOffset frame
    .ofStep (counted.handleEvent settings frame delimiterLength error event)

def mergePending (state : ProxiedStreamState) : ProxiedStreamState :=
  if state.rewriteResponsesEvents && 1 < state.pending.length then
    { state with pending := [state.pending.flatten] }
  else state

def deliverPending (state : ProxiedStreamState) : ProxiedStreamState :=
  { state with
    pending := []
    trace := { state.trace with received := state.trace.received ++ state.pending.flatten } }

end ProxiedStreamState

end Proxied

end ChatGateway
