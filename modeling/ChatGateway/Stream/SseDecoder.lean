import ChatGateway.Shared.Framing
import ChatGateway.Shared.Text

set_option autoImplicit false

/-!
# The SSE decoder of the stream aggregator

`SseDecoder` keeps the bytes it has received, the offset up to which it has delivered frames and a
cursor up to which it has looked for the next delimiter, so that no byte is scanned twice.
-/

namespace ChatGateway

inductive UpstreamStreamErrorKind where
  | decode
  | limitExceeded
  | upstreamEvent
  | incomplete
deriving DecidableEq, Repr

inductive ProtocolError where
  | capabilityUnsupported
  | encryptedAgentMessageUnsupported
  | invalidPayload (message : String)
  | invalidUpstreamStream (kind : UpstreamStreamErrorKind) (message : String)
  | missingField (field : String)
  | unsupportedImageSource
deriving DecidableEq, Repr

def maxStreamAggregateFrameBytes : Nat := 1024 * 1024

def maxStreamAggregateTotalBytes : Nat := 16 * 1024 * 1024

structure SseEvent where
  eventType : Option Text
  data : Text
deriving DecidableEq, Repr

def lineFeed : UInt8 := 10

def carriageReturn : UInt8 := 13

/-- The two ends of a frame: `\n\n` and `\r\n\r\n`. -/
def sseDelimiterLength : List UInt8 → Option Nat
  | first :: second :: rest =>
    if first = lineFeed ∧ second = lineFeed then some 2
    else
      match rest with
      | third :: fourth :: _ =>
        if first = carriageReturn ∧ second = lineFeed ∧ third = carriageReturn ∧
            fourth = lineFeed then
          some 4
        else none
      | _ => none
  | _ => none

structure SseFields where
  eventType : Option Text := none
  dataLines : List Text := []

def SseFields.readLine (fields : SseFields) (rawLine : Text) : SseFields :=
  let line := rawLine.stripSuffix '\r'
  if line.isEmpty || line.head? = some ':' then fields
  else
    let (field, rawValue) := line.splitOnce ':'
    let value := rawValue.stripPrefix ' '
    if field = "event".toList then { fields with eventType := some value }
    else if field = "data".toList then { fields with dataLines := fields.dataLines ++ [value] }
    else fields

def parseSseEvent (frame : List UInt8) : Except ProtocolError (Option SseEvent) :=
  match Text.fromUtf8 frame with
  | none => .error (.invalidUpstreamStream .decode "frame is not valid UTF-8")
  | some text =>
    let fields := (text.splitOn '\n').foldl SseFields.readLine {}
    if fields.dataLines.isEmpty && fields.eventType.isNone then .ok none
    else
      .ok (some
        { eventType := fields.eventType, data := Text.join ['\n'] fields.dataLines })

structure SseDecoder where
  buffer : List UInt8 := []
  consumedOffset : Nat := 0
  scanCursor : Nat := 0
  totalBytes : Nat := 0
  finished : Bool := false
deriving DecidableEq, Repr

def frameLimitExceeded : ProtocolError :=
  .invalidUpstreamStream .limitExceeded "frame byte limit exceeded"

namespace SseDecoder

def compact (decoder : SseDecoder) : SseDecoder :=
  if decoder.consumedOffset = 0 then decoder
  else
    { decoder with
      buffer := decoder.buffer.drop decoder.consumedOffset
      scanCursor := decoder.scanCursor - decoder.consumedOffset
      consumedOffset := 0 }

def append (decoder : SseDecoder) (chunk : List UInt8) : Except ProtocolError SseDecoder :=
  if chunk.isEmpty then .ok decoder
  else if decoder.finished then
    .error (.invalidUpstreamStream .decode "received bytes after EOF")
  else
    let total := decoder.totalBytes + chunk.length
    if maxStreamAggregateTotalBytes < total then
      .error (.invalidUpstreamStream .limitExceeded "total byte limit exceeded")
    else
      let compacted := compact { decoder with totalBytes := total }
      .ok { compacted with buffer := compacted.buffer ++ chunk }

def finish (decoder : SseDecoder) : SseDecoder :=
  { decoder with finished := true }

/-- The scan for a delimiter over the bytes at and behind `cursor`, and where it stops: at the
delimiter, at the end, or at a byte that may begin a delimiter still to be completed. -/
def scan : Nat → List UInt8 → Option (Nat × Nat) × Nat
  | cursor, [] => (none, cursor)
  | cursor, byte :: rest =>
    if byte = lineFeed then
      if rest.isEmpty then (none, cursor)
      else if [lineFeed, lineFeed].isPrefixOf (byte :: rest) then (some (cursor, 2), cursor)
      else scan (cursor + 1) rest
    else if byte = carriageReturn then
      let delimiter := [carriageReturn, lineFeed, carriageReturn, lineFeed]
      if delimiter.isPrefixOf (byte :: rest) then (some (cursor, delimiter.length), cursor)
      else if (byte :: rest).length < delimiter.length && (byte :: rest).isPrefixOf delimiter then
        (none, cursor)
      else scan (cursor + 1) rest
    else scan (cursor + 1) rest

def nextFrameBoundary (decoder : SseDecoder) : Option (Nat × Nat) × SseDecoder :=
  let scanned := scan decoder.scanCursor (decoder.buffer.drop decoder.scanCursor)
  (scanned.1, { decoder with scanCursor := scanned.2 })

def nextTail (decoder : SseDecoder) : Except ProtocolError (Option SseEvent) × SseDecoder :=
  let pendingBytes := decoder.buffer.length - decoder.consumedOffset
  if maxStreamAggregateFrameBytes < pendingBytes then (.error frameLimitExceeded, decoder)
  else if decoder.finished && 0 < pendingBytes then
    match parseSseEvent (decoder.buffer.drop decoder.consumedOffset) with
    | .error error => (.error error, decoder)
    | .ok event =>
      (.ok event,
        { decoder with
          consumedOffset := decoder.buffer.length
          scanCursor := decoder.buffer.length })
  else (.ok none, decoder)

/-- One turn of the loop of `next_event` for each unit of fuel; a turn without a boundary or with
an event is the last one. -/
def nextEventLoop : Nat → SseDecoder → Except ProtocolError (Option SseEvent) × SseDecoder
  | 0, decoder => (.ok none, decoder)
  | fuel + 1, decoder =>
    match decoder.nextFrameBoundary with
    | (none, scanned) => scanned.nextTail
    | (some (frameEnd, delimiterLength), scanned) =>
      let consumed := frameEnd + delimiterLength
      if maxStreamAggregateFrameBytes < consumed - scanned.consumedOffset then
        (.error frameLimitExceeded, scanned)
      else
        let frame := (scanned.buffer.drop scanned.consumedOffset).take
          (frameEnd - scanned.consumedOffset)
        match parseSseEvent frame with
        | .error error => (.error error, scanned)
        | .ok event =>
          let advanced := { scanned with consumedOffset := consumed, scanCursor := consumed }
          match event with
          | some event => (.ok (some event), advanced)
          | none => nextEventLoop fuel advanced

-- Every turn but the last consumes a delimiter, so there are fewer turns than bytes.
def nextEvent (decoder : SseDecoder) : Except ProtocolError (Option SseEvent) × SseDecoder :=
  decoder.nextEventLoop (decoder.buffer.length + 1)

end SseDecoder

end ChatGateway
