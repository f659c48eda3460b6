import ChatGateway.Models.Upstream
import ChatGateway.Protocol.ChatAggregate
import ChatGateway.Stream.Forwarding

set_option autoImplicit false

/-!
# The stream aggregator

`StreamResponseAggregator` decodes the chunks of an upstream's stream and answers with one response
for all of it. The state a call leaves is kept only when the call succeeds: its users give up on
the first error.
-/

namespace ChatGateway.StreamAggregate

open Models (UpstreamProtocol)

inductive StreamAggregateResult where
  | pending
  | complete (value : Json)
deriving DecidableEq, Repr

structure StreamResponseAggregator where
  protocol : UpstreamProtocol
  decoder : SseDecoder := {}
  chat : ChatAggregateState := {}
  complete : Option Json := none
  completionEmitted : Bool := false

def completionAlreadyEmitted : ProtocolError :=
  invalidStream .decode "aggregate completion was already emitted"

def terminalResponseStatus (eventType : Option String) : Option String :=
  match eventType with
  | some "response.completed" => some "completed"
  | some "response.incomplete" => some "incomplete"
  | _ => none

def validateTerminalTail (codec : JsonCodec) (event : SseEvent) : Except ProtocolError Unit :=
  let payload := Text.trim event.data
  if isErrorEvent event.eventType then
    .error (invalidStream .upstreamEvent
      "upstream emitted an SSE error event after terminal completion")
  else if payload = "[DONE]".toList then .ok ()
  else if (codec.read payload).any fun value =>
      value.str "type" = some "error" || value.str "type" = some "response.failed" ||
        (given value "error").isSome then
    .error (invalidStream .upstreamEvent "upstream emitted an error event after terminal completion")
  else
    .error (invalidStream .decode "upstream emitted a semantic event after terminal completion")

namespace StreamResponseAggregator

variable (codec : JsonCodec)

def applyResponsesEvent (aggregator : StreamResponseAggregator) (event : Json)
    (sseEventType : Option Text) : Except ProtocolError StreamResponseAggregator :=
  let jsonEventType := event.str "type"
  if jsonEventType = some "response.failed" ∨ jsonEventType = some "error" then
    .error (invalidStream .upstreamEvent "upstream emitted a failed Responses event")
  else
    let jsonTerminal := terminalResponseStatus jsonEventType
    let sseTerminal := terminalResponseStatus (sseEventType.map String.ofList)
    if jsonTerminal.isSome && sseTerminal.isSome && jsonTerminal ≠ sseTerminal then
      .error (invalidStream .decode
        "Responses SSE event type conflicts with the JSON event type")
    else
      match jsonTerminal.or sseTerminal with
      | none => .ok aggregator
      | some expectedStatus =>
        match (event.get "response").bind Json.asObject with
        | none =>
          .error (invalidStream .decode "terminal Responses event has no response object")
        | some response =>
          if (Json.field response "status").bind Json.asStr ≠ some expectedStatus ||
              ((Json.field response "output").bind Json.asArray).isNone then
            .error (invalidStream .decode
              "terminal Responses event does not contain a complete response snapshot")
          else .ok { aggregator with complete := some (.object response) }

def processEvent (aggregator : StreamResponseAggregator) (event : SseEvent) :
    Except ProtocolError StreamResponseAggregator :=
  let payload := Text.trim event.data
  if isErrorEvent event.eventType then
    .error (invalidStream .upstreamEvent "upstream emitted an SSE error event")
  else if payload = [] then .ok aggregator
  else if payload = "[DONE]".toList then
    match aggregator.protocol with
    | .chatCompletions =>
      aggregator.chat.buildResponse.map fun response => { aggregator with complete := some response }
    | .responses =>
      .error (invalidStream .incomplete
        "responses stream ended without a terminal response object")
  else
    match codec.read payload with
    | none => .error (invalidStream .decode "data payload is not valid JSON")
    | some value =>
      if (given value "error").isSome then
        .error (invalidStream .upstreamEvent "upstream returned an error envelope")
      else
        match aggregator.protocol with
        | .chatCompletions =>
          (aggregator.chat.applyEvent value).map fun chat => { aggregator with chat }
        | .responses => aggregator.applyResponsesEvent value event.eventType

def processEventOrTerminalTail (aggregator : StreamResponseAggregator) (event : SseEvent) :
    Except ProtocolError StreamResponseAggregator :=
  if aggregator.complete.isNone then aggregator.processEvent codec event
  else (validateTerminalTail codec event).map fun _ => aggregator

/-- The loop over `next_event`. Handling an event leaves the decoder alone, so the events up to an
error of the decoder are handled before that error ends the loop. -/
def drainEvents (aggregator : StreamResponseAggregator) (decoder : SseDecoder) :
    Except ProtocolError StreamResponseAggregator := do
  let (decoded, drained) := decoder.drain
  let processed ← decoded.events.foldlM (processEventOrTerminalTail codec) aggregator
  match decoded.error with
  | some error => throw error
  | none => return { processed with decoder := drained }

def push (aggregator : StreamResponseAggregator) (chunk : List UInt8) :
    Except ProtocolError (StreamResponseAggregator × StreamAggregateResult) := do
  if aggregator.completionEmitted then throw completionAlreadyEmitted
  let decoder ← aggregator.decoder.append chunk
  let processed ← aggregator.drainEvents codec decoder
  match processed.complete with
  | some value =>
    return ({ processed with complete := none, completionEmitted := true }, .complete value)
  | none => return (processed, .pending)

def finish (aggregator : StreamResponseAggregator) : Except ProtocolError Json := do
  if aggregator.completionEmitted then throw completionAlreadyEmitted
  match aggregator.complete with
  | some value => return value
  | none =>
    let processed ← aggregator.drainEvents codec aggregator.decoder.finish
    match processed.complete, processed.protocol with
    | some value, _ => return value
    | none, .chatCompletions =>
      if processed.chat.isSemanticallyFinished then processed.chat.buildResponse
      else
        throw (invalidStream .incomplete "chat stream ended before a semantic finish")
    | none, .responses =>
      throw (invalidStream .incomplete
        "responses stream ended before response.completed or response.incomplete")

/-- All responses that come out of the calls for a stream received in the given chunks, up to the
first call that fails. -/
def completions : StreamResponseAggregator → List (List UInt8) → List Json
  | aggregator, [] =>
    match aggregator.finish codec with
    | .ok value => [value]
    | .error _ => []
  | aggregator, chunk :: rest =>
    match aggregator.push codec chunk with
    | .error _ => []
    | .ok (next, .pending) => completions next rest
    | .ok (next, .complete value) => value :: completions next rest

end StreamResponseAggregator

end ChatGateway.StreamAggregate
