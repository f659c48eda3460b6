import ChatGateway.Stream.SseChunking
import Mathlib.Data.List.Forall2

set_option autoImplicit false

/-!
# The two SSE readers

The forwarding path reads frames with `next_sse_frame`, `named_upstream_sse_failure` and
`parse_sse_data_payload` over a buffer of its own; the aggregator reads them with `SseDecoder`.
-/

namespace ChatGateway

def nextSseFrame : List UInt8 → Option (List UInt8 × Nat)
  | [] => none
  | byte :: rest =>
    if byte = lineFeed then
      if rest.head? = some lineFeed then some ([], 2)
      else (nextSseFrame rest).map fun found => (byte :: found.1, found.2)
    else if byte = carriageReturn ∧ [lineFeed, carriageReturn, lineFeed].isPrefixOf rest then
      some ([], 4)
    else (nextSseFrame rest).map fun found => (byte :: found.1, found.2)

def readEventName (eventType : Option Text) (rawLine : Text) : Option Text :=
  let line := rawLine.stripSuffix '\r'
  let (field, rawValue) := line.splitOnce ':'
  if field = "event".toList then some (rawValue.stripPrefix ' ') else eventType

def isErrorEvent (eventType : Option Text) : Bool :=
  eventType = some "error".toList || eventType = some "response.failed".toList

def namedUpstreamSseFailure (frame : List UInt8) : Option ProtocolError :=
  match Text.fromUtf8 frame with
  | none => none
  | some text =>
    if isErrorEvent ((text.splitOn '\n').foldl readEventName none) then
      some (.invalidUpstreamStream .upstreamEvent "upstream emitted an SSE error event")
    else none

inductive Utf8Error where
  | invalid
deriving DecidableEq, Repr

def dataLine (line : Text) : Option Text :=
  if line = "data".toList then some []
  else (line.dropPrefix? "data:".toList).map (Text.stripPrefix ' ')

def parseSseDataPayload (frame : List UInt8) : Except Utf8Error (Option Text) :=
  match Text.fromUtf8 frame with
  | none => .error .invalid
  | some text =>
    let dataLines := text.lines.filterMap dataLine
    if dataLines.isEmpty then .ok none else .ok (some (Text.join ['\n'] dataLines))

inductive SseReading where
  | failure
  | payload (data : Text)
  | undecodable
  | refused (error : ProtocolError)
deriving DecidableEq, Repr

-- Both end the forwarded stream with an error.
def SseReading.stops : SseReading → Bool
  | .failure => true
  | .undecodable => true
  | _ => false

def readForwarded (frame : List UInt8) : Option SseReading :=
  if (namedUpstreamSseFailure frame).isSome then some .failure
  else
    match parseSseDataPayload frame with
    | .error _ => some .undecodable
    | .ok payload => payload.map .payload

structure ForwardDrain where
  readings : List SseReading := []
  consumed : Nat
  stopped : Bool := false

def drainFrames : Nat → List UInt8 → Nat → ForwardDrain
  | 0, _, consumed => { consumed }
  | fuel + 1, buffer, consumed =>
    match nextSseFrame (buffer.drop consumed) with
    | none => { consumed }
    | some (frame, delimiterLength) =>
      match readForwarded frame with
      | none => drainFrames fuel buffer (consumed + (frame.length + delimiterLength))
      | some reading =>
        if reading.stops then { readings := [reading], consumed, stopped := true }
        else
          let rest := drainFrames fuel buffer (consumed + (frame.length + delimiterLength))
          { rest with readings := reading :: rest.readings }

/-- Each chunk is appended to the buffer and drained. At the end of the stream `finish_stream`
clears the buffer, so what no blank line has ended is never read. -/
def forwardFrom : List UInt8 → List (List UInt8) → List SseReading
  | _, [] => []
  | buffer, chunk :: rest =>
    let received := buffer ++ chunk
    let drained := drainFrames received.length received 0
    if drained.stopped then drained.readings
    else drained.readings ++ forwardFrom (received.drop drained.consumed) rest

def SseEvent.reading (event : SseEvent) : SseReading :=
  if isErrorEvent event.eventType then .failure else .payload event.data

def untilFailure : List SseReading → List SseReading
  | [] => []
  | reading :: rest => if reading = .failure then [reading] else reading :: untilFailure rest

def Decoded.readings (decoded : Decoded) : List SseReading :=
  untilFailure (decoded.events.map SseEvent.reading ++ decoded.error.toList.map .refused)

def SseReading.Agrees : SseReading → SseReading → Prop
  | .failure, .failure => True
  | .payload forwarded, .payload decoded => forwarded = decoded ∨ forwarded = decoded ++ ['\r']
  | _, _ => False

end ChatGateway
