import ChatGateway.Stream.SseDecoder

set_option autoImplicit false

/-!
# Decoding does not depend on chunking

However the bytes of a stream are cut into chunks, `SseDecoder` yields what its frames yield when
the whole stream is split at the leftmost delimiters and read frame by frame.
-/

namespace ChatGateway

theorem sseDelimiterLength_cons_of_plain {byte : UInt8} (text : List UInt8)
    (notFeed : byte ≠ lineFeed) (notReturn : byte ≠ carriageReturn) :
    sseDelimiterLength (byte :: text) = none := by
  rcases text with _ | ⟨second, _ | ⟨third, _ | ⟨fourth, rest⟩⟩⟩ <;>
    simp [sseDelimiterLength, notFeed, notReturn]

@[simp] theorem carriageReturn_ne_lineFeed : carriageReturn ≠ lineFeed := by decide

@[simp] theorem lineFeed_ne_carriageReturn : lineFeed ≠ carriageReturn := by decide

theorem sseDelimiterLength_feed (second : UInt8) (rest : List UInt8) :
    sseDelimiterLength (lineFeed :: second :: rest) =
      if second = lineFeed then some 2 else none := by
  rcases rest with _ | ⟨third, _ | ⟨fourth, rest⟩⟩ <;> simp [sseDelimiterLength]

theorem sseDelimiterLength_return (rest : List UInt8) :
    sseDelimiterLength (carriageReturn :: rest) =
      if [lineFeed, carriageReturn, lineFeed] <+: rest then some 4 else none := by
  rcases rest with _ | ⟨second, _ | ⟨third, _ | ⟨fourth, rest⟩⟩⟩ <;> simp [sseDelimiterLength]
  grind

def sseDelimiter : Delimiter UInt8 where
  at? := sseDelimiterLength
  positive := by
    intro text length found
    rcases text with _ | ⟨first, _ | ⟨second, _ | ⟨third, _ | ⟨fourth, rest⟩⟩⟩⟩ <;>
      simp [sseDelimiterLength] at found <;> grind
  within := by
    intro text length found
    rcases text with _ | ⟨first, _ | ⟨second, _ | ⟨third, _ | ⟨fourth, rest⟩⟩⟩⟩ <;>
      simp [sseDelimiterLength] at found <;> grind
  grows := by
    intro text more length found
    rcases text with _ | ⟨first, _ | ⟨second, _ | ⟨third, _ | ⟨fourth, rest⟩⟩⟩⟩ <;>
      simp [sseDelimiterLength] at found ⊢ <;> grind
  owned := by
    intro text more length found short
    rcases text with _ | ⟨first, _ | ⟨second, _ | ⟨third, _ | ⟨fourth, rest⟩⟩⟩⟩ <;>
      simp [sseDelimiterLength] at found short ⊢ <;> grind [sseDelimiterLength]
  separate := by
    intro text more missing begun offset
    -- Only `\r`, `\r\n` and `\r\n\r` begin a delimiter they do not hold.
    rcases text with _ | ⟨first, _ | ⟨second, _ | ⟨third, _ | ⟨fourth, rest⟩⟩⟩⟩ <;>
      rcases offset with _ | _ | _ | offset <;>
      first
        | exact missing
        | (simp [sseDelimiterLength] at missing begun ⊢; grind [lineFeed, carriageReturn])
        | simp [sseDelimiterLength]

structure Decoded where
  events : List SseEvent := []
  error : Option ProtocolError := none
deriving DecidableEq, Repr

namespace Decoded

def andThen (first second : Decoded) : Decoded :=
  match first.error with
  | some _ => first
  | none => { events := first.events ++ second.events, error := second.error }

theorem andThen_assoc (first second third : Decoded) :
    (first.andThen second).andThen third = first.andThen (second.andThen third) := by
  rcases first with ⟨firstEvents, _ | error⟩
  · rcases second with ⟨secondEvents, _ | error⟩ <;> simp [andThen]
  · simp [andThen]

@[simp] theorem empty_andThen (second : Decoded) : andThen {} second = second := by
  simp [andThen]

@[simp] theorem andThen_empty (first : Decoded) : first.andThen {} = first := by
  rcases first with ⟨events, _ | error⟩ <;> simp [andThen]

theorem andThen_of_error {first : Decoded} {error : ProtocolError} (second : Decoded)
    (failed : first.error = some error) : first.andThen second = first := by
  simp [andThen, failed]

def ofFrame : Except ProtocolError (Option SseEvent) → Decoded
  | .error error => { error := some error }
  | .ok event => { events := event.toList }

end Decoded

def readFrame (frame : List UInt8 × Nat) : Decoded :=
  if maxStreamAggregateFrameBytes < frame.1.length + frame.2 then
    { error := some frameLimitExceeded }
  else Decoded.ofFrame (parseSseEvent frame.1)

def readFrames : List (List UInt8 × Nat) → Decoded
  | [] => {}
  | frame :: rest => (readFrame frame).andThen (readFrames rest)

def readTail (finished : Bool) (tail : List UInt8) : Decoded :=
  if maxStreamAggregateFrameBytes < tail.length then { error := some frameLimitExceeded }
  else if finished && 0 < tail.length then Decoded.ofFrame (parseSseEvent tail)
  else {}

def readSplit (finished : Bool) (bytes : List UInt8) : Decoded :=
  (readFrames (sseDelimiter.split bytes).1).andThen (readTail finished (sseDelimiter.split bytes).2)

theorem readFrames_append (first second : List (List UInt8 × Nat)) :
    readFrames (first ++ second) = (readFrames first).andThen (readFrames second) := by
  induction first with
  | nil => simp [readFrames]
  | cons frame rest ih => simp [readFrames, ih, Decoded.andThen_assoc]

theorem readSplit_of_none {bytes : List UInt8} (finished : Bool)
    (missing : sseDelimiter.cut bytes = none) : readSplit finished bytes = readTail finished bytes := by
  simp [readSplit, Delimiter.split_of_none missing, readFrames]

theorem readSplit_of_some {bytes piece : List UInt8} {length : Nat} (finished : Bool)
    (found : sseDelimiter.cut bytes = some (piece, length)) :
    readSplit finished bytes =
      (readFrame (piece, length)).andThen
        (readSplit finished (bytes.drop (piece.length + length))) := by
  simp [readSplit, Delimiter.split_of_some found, readFrames, Decoded.andThen_assoc]

theorem readSplit_of_long {tail : List UInt8} (finished : Bool) (more : List UInt8)
    (uncut : sseDelimiter.cut tail = none) (long : maxStreamAggregateFrameBytes < tail.length) :
    readSplit finished (tail ++ more) = { error := some frameLimitExceeded } := by
  cases found : sseDelimiter.cut (tail ++ more) with
  | none =>
    have longer : maxStreamAggregateFrameBytes < (tail ++ more).length := by
      rw [List.length_append]
      omega
    rw [readSplit_of_none finished found, readTail, if_pos longer]
  | some cut =>
    have beyond := Delimiter.lt_of_cut_append uncut found
    have longer : maxStreamAggregateFrameBytes < cut.1.length + cut.2 := by omega
    rw [readSplit_of_some finished found, readFrame, if_pos longer]
    rfl

theorem readSplit_append (finished : Bool) (bytes more : List UInt8) :
    readSplit finished (bytes ++ more) =
      (readSplit false bytes).andThen
        (readSplit finished ((sseDelimiter.split bytes).2 ++ more)) := by
  have uncut := @Delimiter.cut_split_rest _ sseDelimiter bytes
  have parts : readSplit finished (bytes ++ more) =
      (readFrames (sseDelimiter.split bytes).1).andThen
        (readSplit finished ((sseDelimiter.split bytes).2 ++ more)) := by
    simp [readSplit, Delimiter.split_append bytes more, readFrames_append, Decoded.andThen_assoc]
  rw [parts, show readSplit false bytes = (readFrames (sseDelimiter.split bytes).1).andThen
    (readTail false (sseDelimiter.split bytes).2) from rfl, Decoded.andThen_assoc]
  by_cases long : maxStreamAggregateFrameBytes < (sseDelimiter.split bytes).2.length
  · rw [readSplit_of_long finished more uncut long]
    simp [readTail, long, Decoded.andThen]
  · simp [readTail, long]

namespace SseDecoder

def pending (decoder : SseDecoder) : List UInt8 :=
  decoder.buffer.drop decoder.consumedOffset

structure Sound (decoder : SseDecoder) : Prop where
  ordered : decoder.consumedOffset ≤ decoder.scanCursor
  bounded : decoder.scanCursor ≤ decoder.buffer.length
  settled : ∀ offset < decoder.scanCursor - decoder.consumedOffset, ∀ more,
    sseDelimiter.at? ((decoder.pending ++ more).drop offset) = none

theorem new_sound : Sound {} where
  ordered := by simp
  bounded := by simp
  settled := by simp

-- What the scan does at one byte: it finds a delimiter, waits for the rest of one, or passes the
-- byte because no delimiter will ever start there.
theorem scan_cases (cursor : Nat) (byte : UInt8) (rest : List UInt8) :
    (∃ length, sseDelimiter.at? (byte :: rest) = some length ∧
        scan cursor (byte :: rest) = (some (cursor, length), cursor)) ∨
      (sseDelimiter.cut (byte :: rest) = none ∧ scan cursor (byte :: rest) = (none, cursor)) ∨
      ((∀ more, sseDelimiter.at? (byte :: rest ++ more) = none) ∧
        scan cursor (byte :: rest) = scan (cursor + 1) rest) := by
  by_cases feed : byte = lineFeed
  · subst feed
    rcases rest with _ | ⟨second, rest⟩
    · exact .inr (.inl ⟨by decide, by simp [scan]⟩)
    · by_cases same : second = lineFeed
      · exact .inl ⟨2, by simp [sseDelimiter, sseDelimiterLength_feed, same], by simp [scan, same]⟩
      · refine .inr (.inr ⟨fun more => ?_, by simp [scan, Ne.symm same]⟩)
        simp [sseDelimiter, sseDelimiterLength_feed, same]
  · by_cases returned : byte = carriageReturn
    · subst returned
      have scanned : scan cursor (carriageReturn :: rest) =
          if [lineFeed, carriageReturn, lineFeed] <+: rest then (some (cursor, 4), cursor)
          else if rest.length < 3 ∧ rest <+: [lineFeed, carriageReturn, lineFeed] then
            (none, cursor)
          else scan (cursor + 1) rest := by
        simp [scan, show rest.length + 1 < 4 ↔ rest.length < 3 by omega]
      rw [scanned]
      by_cases whole : [lineFeed, carriageReturn, lineFeed] <+: rest
      · exact .inl ⟨4, by simp [sseDelimiter, sseDelimiterLength_return, whole], by simp [whole]⟩
      · rw [if_neg whole]
        by_cases begun : rest.length < 3 ∧ rest <+: [lineFeed, carriageReturn, lineFeed]
        · refine .inr (.inl ⟨?_, by simp [begun]⟩)
          obtain ⟨short, more, same⟩ := begun
          rcases rest with _ | ⟨second, _ | ⟨third, _ | ⟨fourth, rest⟩⟩⟩ <;>
            simp at same short
          · decide
          · obtain ⟨rfl, -⟩ := same
            decide
          · obtain ⟨rfl, rfl, -⟩ := same
            decide
          · omega
        · refine .inr (.inr ⟨fun more => ?_, by simp [begun]⟩)
          have never : ¬ [lineFeed, carriageReturn, lineFeed] <+: rest ++ more := by
            intro completed
            rcases Nat.lt_or_ge rest.length 3 with short | long
            · exact begun ⟨short, List.prefix_of_prefix_length_le (List.prefix_append rest more)
                completed (by simp; omega)⟩
            · exact whole (List.prefix_of_prefix_length_le completed (List.prefix_append rest more)
                (by simpa using long))
          simp [sseDelimiter, sseDelimiterLength_return, never]
    · refine .inr (.inr ⟨fun more => ?_, by simp [scan, feed, returned]⟩)
      exact sseDelimiterLength_cons_of_plain _ feed returned

theorem scan_found {remaining : List UInt8} {cursor frameEnd length stop : Nat}
    (scanned : scan cursor remaining = (some (frameEnd, length), stop)) :
    stop = frameEnd ∧
      ∃ piece, frameEnd = cursor + piece.length ∧
        sseDelimiter.cut remaining = some (piece, length) := by
  induction remaining generalizing cursor with
  | nil => simp [scan] at scanned
  | cons byte rest ih =>
    rcases scan_cases cursor byte rest with ⟨other, here, result⟩ | ⟨-, result⟩ | ⟨never, result⟩
    · rw [result] at scanned
      obtain ⟨⟨rfl, rfl⟩, rfl⟩ : (cursor = frameEnd ∧ other = length) ∧ cursor = stop := by
        simpa using scanned
      exact ⟨rfl, [], by simp, Delimiter.cut_cons_of_delimiter here⟩
    · simp [result] at scanned
    · rw [result] at scanned
      obtain ⟨rfl, piece, rfl, found⟩ := ih scanned
      have here : sseDelimiter.at? (byte :: rest) = none := by simpa using never []
      refine ⟨rfl, byte :: piece, by simp; omega, ?_⟩
      simp [Delimiter.cut_cons_of_none here, found]

theorem scan_missing {remaining : List UInt8} {cursor stop : Nat}
    (scanned : scan cursor remaining = (none, stop)) :
    sseDelimiter.cut remaining = none ∧
      ∃ passed ≤ remaining.length, stop = cursor + passed ∧
        ∀ offset < passed, ∀ more, sseDelimiter.at? ((remaining ++ more).drop offset) = none := by
  induction remaining generalizing cursor with
  | nil =>
    obtain rfl : cursor = stop := by simpa [scan] using scanned
    exact ⟨rfl, 0, by simp, by simp, by simp⟩
  | cons byte rest ih =>
    rcases scan_cases cursor byte rest with ⟨other, here, result⟩ | ⟨uncut, result⟩ | ⟨never, result⟩
    · simp [result] at scanned
    · obtain rfl : cursor = stop := by simpa [result] using scanned
      exact ⟨uncut, 0, by simp, by simp, by simp⟩
    · rw [result] at scanned
      obtain ⟨uncut, passed, within, rfl, before⟩ := ih scanned
      have here : sseDelimiter.at? (byte :: rest) = none := by simpa using never []
      refine ⟨by simp [Delimiter.cut_cons_of_none here, uncut], passed + 1, by simpa using within,
        by omega, fun offset below more => ?_⟩
      cases offset with
      | zero => simpa using never more
      | succ offset => simpa using before offset (by omega) more

section Boundary

variable {decoder : SseDecoder} (sound : decoder.Sound)
include sound

theorem Sound.drop_pending :
    decoder.pending.drop (decoder.scanCursor - decoder.consumedOffset) =
      decoder.buffer.drop decoder.scanCursor := by
  rw [pending, List.drop_drop, Nat.add_sub_cancel' sound.ordered]

theorem Sound.cut_pending :
    sseDelimiter.cut decoder.pending =
      (sseDelimiter.cut (decoder.buffer.drop decoder.scanCursor)).map fun found =>
        (decoder.pending.take (decoder.scanCursor - decoder.consumedOffset) ++ found.1,
          found.2) := by
  have bound := sound.bounded
  rw [← sound.drop_pending]
  refine Delimiter.cut_drop _ ?_ fun offset below => by simpa using sound.settled offset below []
  rw [pending, List.length_drop]
  omega

theorem nextFrameBoundary_found {frameEnd length : Nat} {scanned : SseDecoder}
    (found : decoder.nextFrameBoundary = (some (frameEnd, length), scanned)) :
    scanned = { decoder with scanCursor := frameEnd } ∧
      ∃ piece, frameEnd = decoder.consumedOffset + piece.length ∧
        sseDelimiter.cut decoder.pending = some (piece, length) := by
  rcases result : scan decoder.scanCursor (decoder.buffer.drop decoder.scanCursor) with
    ⟨boundary, stop⟩
  obtain ⟨rfl, rfl⟩ : boundary = some (frameEnd, length) ∧
      { decoder with scanCursor := stop } = scanned := by
    simpa [nextFrameBoundary, result] using found
  obtain ⟨rfl, piece, ended, cut⟩ := scan_found result
  have ordered := sound.ordered
  have bounded := sound.bounded
  refine ⟨rfl, _, ?_, by rw [sound.cut_pending, cut]; rfl⟩
  simp only [ended, List.length_append, List.length_take, pending, List.length_drop]
  omega

-- Without a boundary the pending bytes hold no delimiter, and the cursors stay sound.
theorem nextFrameBoundary_missing {scanned : SseDecoder}
    (missing : decoder.nextFrameBoundary = (none, scanned)) :
    sseDelimiter.cut decoder.pending = none ∧ scanned.Sound ∧
      ∃ cursor, scanned = { decoder with scanCursor := cursor } := by
  rcases result : scan decoder.scanCursor (decoder.buffer.drop decoder.scanCursor) with
    ⟨boundary, stop⟩
  obtain ⟨rfl, rfl⟩ : boundary = none ∧ { decoder with scanCursor := stop } = scanned := by
    simpa [nextFrameBoundary, result] using missing
  obtain ⟨uncut, passed, within, rfl, before⟩ := scan_missing result
  have ordered := sound.ordered
  have bounded := sound.bounded
  rw [List.length_drop] at within
  refine ⟨by rw [sound.cut_pending, uncut]; rfl, ?_, _, rfl⟩
  refine ⟨by simp only; omega, by simp only; omega, fun offset below more => ?_⟩
  change sseDelimiter.at? ((decoder.pending ++ more).drop offset) = none
  simp only at below
  -- The offsets before the old cursor were settled, the scan has passed those behind it.
  by_cases old : offset < decoder.scanCursor - decoder.consumedOffset
  · exact sound.settled offset old more
  · have behind := before (offset - (decoder.scanCursor - decoder.consumedOffset)) (by omega) more
    rw [← sound.drop_pending, ← List.drop_append_of_le_length, List.drop_drop,
      Nat.add_sub_cancel' (by omega)] at behind
    · exact behind
    · rw [pending, List.length_drop]
      omega

theorem Sound.advance {piece : List UInt8} {length : Nat}
    (found : sseDelimiter.cut decoder.pending = some (piece, length)) (cursor : Nat) :
    let consumed := decoder.consumedOffset + piece.length + length
    ({ decoder with consumedOffset := consumed, scanCursor := consumed } : SseDecoder).Sound ∧
      ({ decoder with consumedOffset := consumed, scanCursor := cursor } : SseDecoder).pending =
        decoder.pending.drop (piece.length + length) := by
  have bound := Delimiter.cut_length found
  have ordered := sound.ordered
  have bounded := sound.bounded
  rw [pending, List.length_drop] at bound
  refine ⟨⟨Nat.le_refl _, ?_, by simp⟩, ?_⟩
  · simp only
    omega
  · simp only [pending, List.drop_drop, Nat.add_assoc]

theorem Sound.rescan {piece : List UInt8} {length : Nat}
    (found : sseDelimiter.cut decoder.pending = some (piece, length)) :
    ({ decoder with scanCursor := decoder.consumedOffset + piece.length } : SseDecoder).Sound := by
  have bound := Delimiter.cut_length found
  have ordered := sound.ordered
  have bounded := sound.bounded
  rw [pending, List.length_drop] at bound
  refine ⟨by simp, by simp only; omega, fun offset below more => ?_⟩
  obtain ⟨-, -, before⟩ := Delimiter.cut_eq_some.1 (Delimiter.cut_append more found)
  exact before offset (by simpa using below)

end Boundary

def drainLoop : Nat → SseDecoder → Decoded × SseDecoder
  | 0, decoder => ({}, decoder)
  | fuel + 1, decoder =>
    match decoder.nextEvent with
    | (.error error, stopped) => ({ error := some error }, stopped)
    | (.ok none, stopped) => ({}, stopped)
    | (.ok (some event), advanced) =>
      let rest := drainLoop fuel advanced
      ({ rest.1 with events := event :: rest.1.events }, rest.2)

-- Every event but the one of the unterminated rest consumes a delimiter.
def drain (decoder : SseDecoder) : Decoded × SseDecoder :=
  decoder.drainLoop (decoder.buffer.length + 1)

def decodeFrom : SseDecoder → List (List UInt8) → Decoded
  | decoder, [] => decoder.finish.drain.1
  | decoder, chunk :: rest =>
    match decoder.append chunk with
    | .error error => { error := some error }
    | .ok appended => appended.drain.1.andThen (decodeFrom appended.drain.2 rest)

/-- What the events left after `next_event` are, from its result on. -/
def collect (fuel : Nat) :
    Except ProtocolError (Option SseEvent) × SseDecoder → Decoded × SseDecoder
  | (.error error, stopped) => ({ error := some error }, stopped)
  | (.ok none, stopped) => ({}, stopped)
  | (.ok (some event), advanced) =>
    ({ (drainLoop fuel advanced).1 with events := event :: (drainLoop fuel advanced).1.events },
      (drainLoop fuel advanced).2)

theorem drainLoop_succ (fuel : Nat) (decoder : SseDecoder) :
    decoder.drainLoop (fuel + 1) = collect fuel decoder.nextEvent := by
  rw [drainLoop]
  rcases decoder.nextEvent with ⟨_ | _ | event, next⟩ <;> rfl

theorem collect_event (fuel : Nat) (event : SseEvent) (advanced : SseDecoder) :
    collect (fuel + 1) (.ok (some event), advanced) =
      (({ events := [event] } : Decoded).andThen (collect fuel advanced.nextEvent).1,
        (collect fuel advanced.nextEvent).2) := by
  rw [← drainLoop_succ]
  rfl

structure Reads (decoder : SseDecoder) (bytes : List UInt8) (outcome : Decoded × SseDecoder) :
    Prop where
  decoded : outcome.1 = readSplit decoder.finished bytes
  sound : outcome.2.Sound
  rest : outcome.1.error = none → decoder.finished = false →
    outcome.2.pending = (sseDelimiter.split bytes).2
  finished : outcome.2.finished = decoder.finished
  total : outcome.2.totalBytes = decoder.totalBytes

theorem length_pending (decoder : SseDecoder) :
    decoder.pending.length = decoder.buffer.length - decoder.consumedOffset := by
  simp [pending]

theorem drainLoop_at_end (decoder : SseDecoder) (fuel : Nat)
    (consumed : decoder.consumedOffset = decoder.buffer.length)
    (scanned : decoder.scanCursor = decoder.buffer.length) :
    decoder.drainLoop fuel = ({}, decoder) := by
  cases fuel with
  | zero => rfl
  | succ fuel =>
    have ended : decoder.nextEvent = (.ok none, decoder) := by
      obtain ⟨buffer, offset, cursor, total, finished⟩ := decoder
      obtain rfl : offset = buffer.length := consumed
      obtain rfl : cursor = buffer.length := scanned
      simp [nextEvent, nextEventLoop, nextFrameBoundary, scan, nextTail]
    rw [drainLoop_succ, ended, collect]

theorem nextTail_reads {decoder : SseDecoder} (fuel : Nat) (sound : decoder.Sound)
    (uncut : sseDelimiter.cut decoder.pending = none) :
    Reads decoder decoder.pending (collect fuel decoder.nextTail) := by
  have whole : readSplit decoder.finished decoder.pending =
      readTail decoder.finished decoder.pending := readSplit_of_none _ uncut
  rw [nextTail, ← length_pending]
  by_cases long : maxStreamAggregateFrameBytes < decoder.pending.length
  · rw [if_pos long]
    exact ⟨by rw [whole, readTail, if_pos long]; rfl, sound, by simp [collect], rfl, rfl⟩
  rw [if_neg long]
  rw [readTail, if_neg long] at whole
  by_cases ends : (decoder.finished && decide (0 < decoder.pending.length)) = true
  · rw [if_pos ends] at whole ⊢
    have isOver : decoder.finished = true := by
      simp only [Bool.and_eq_true] at ends
      exact ends.1
    rw [← pending]
    cases parsed : parseSseEvent decoder.pending with
    | error error =>
      rw [parsed] at whole
      exact ⟨whole.symm, sound, by simp [collect], rfl, rfl⟩
    | ok event =>
      rw [parsed] at whole
      have atEnd : ({ decoder with
          consumedOffset := decoder.buffer.length
          scanCursor := decoder.buffer.length } : SseDecoder).Sound :=
        ⟨Nat.le_refl _, Nat.le_refl _, by simp⟩
      cases event with
      | none => exact ⟨whole.symm, atEnd, by simp [isOver], rfl, rfl⟩
      | some event =>
        simp only [collect]
        rw [drainLoop_at_end _ _ rfl rfl]
        exact ⟨whole.symm, atEnd, by simp [isOver], rfl, rfl⟩
  · rw [if_neg ends] at whole ⊢
    refine ⟨whole.symm, sound, fun _ _ => ?_, rfl, rfl⟩
    simp [collect, Delimiter.split_of_none uncut]

theorem nextEventLoop_of_cut {decoder : SseDecoder} {piece : List UInt8} {length : Nat}
    (fuel : Nat) (sound : decoder.Sound)
    (found : sseDelimiter.cut decoder.pending = some (piece, length)) :
    let consumed := decoder.consumedOffset + piece.length + length
    let advanced := { decoder with consumedOffset := consumed, scanCursor := consumed }
    let scanned := { decoder with scanCursor := decoder.consumedOffset + piece.length }
    decoder.nextEventLoop (fuel + 1) =
      if maxStreamAggregateFrameBytes < piece.length + length then
        (.error frameLimitExceeded, scanned)
      else
        match parseSseEvent piece with
        | .error error => (.error error, scanned)
        | .ok (some event) => (.ok (some event), advanced)
        | .ok none => nextEventLoop fuel advanced := by
  rcases boundary : decoder.nextFrameBoundary with ⟨_ | ⟨frameEnd, other⟩, scanned⟩
  · simp [(nextFrameBoundary_missing sound boundary).1] at found
  · obtain ⟨rfl, same, rfl, cut⟩ := nextFrameBoundary_found sound boundary
    obtain ⟨rfl, rfl⟩ : same = piece ∧ other = length := by simpa [cut] using found
    have taken : decoder.pending.take same.length = same := (Delimiter.cut_eq_some.1 cut).1
    rw [pending] at taken
    have size : decoder.consumedOffset + same.length + other - decoder.consumedOffset =
        same.length + other := by omega
    simp only [nextEventLoop, boundary, Nat.add_sub_cancel_left, taken, size]
    split
    · rfl
    · rcases parseSseEvent same with error | _ | event <;> rfl

theorem nextEventLoop_reads (decoder : SseDecoder) (loopFuel fuel : Nat) (sound : decoder.Sound)
    (loops : decoder.pending.length < loopFuel) (enough : decoder.pending.length ≤ fuel) :
    Reads decoder decoder.pending (collect fuel (decoder.nextEventLoop loopFuel)) := by
  generalize same : decoder.pending = bytes
  induction bytes using Delimiter.split_induction sseDelimiter
      generalizing decoder loopFuel fuel with
  | uncut bytes missing =>
    subst same
    obtain ⟨turns, rfl⟩ : ∃ turns, loopFuel = turns + 1 := ⟨loopFuel - 1, by omega⟩
    rcases boundary : decoder.nextFrameBoundary with ⟨_ | ⟨frameEnd, other⟩, scanned⟩
    · obtain ⟨-, soundScanned, cursor, rfl⟩ := nextFrameBoundary_missing sound boundary
      have tail := nextTail_reads fuel soundScanned missing
      simp only [nextEventLoop, boundary]
      exact ⟨tail.decoded, tail.sound, tail.rest, tail.finished, tail.total⟩
    · obtain ⟨-, piece, -, cut⟩ := nextFrameBoundary_found sound boundary
      simp [missing] at cut
  | cut bytes piece length found ih =>
    subst same
    obtain ⟨turns, rfl⟩ : ∃ turns, loopFuel = turns + 1 := ⟨loopFuel - 1, by omega⟩
    have bound := Delimiter.cut_length found
    have whole := readSplit_of_some decoder.finished found
    have splits := Delimiter.split_of_some found
    have scannedSound := sound.rescan found
    obtain ⟨advancedSound, advancedPending⟩ := sound.advance found
      (decoder.consumedOffset + piece.length + length)
    rw [nextEventLoop_of_cut turns sound found]
    by_cases long : maxStreamAggregateFrameBytes < piece.length + length
    · rw [if_pos long]
      rw [readFrame, if_pos long] at whole
      exact ⟨whole.symm, scannedSound, by simp [collect], rfl, rfl⟩
    rw [if_neg long]
    rw [readFrame, if_neg long] at whole
    have shorter : (decoder.pending.drop (piece.length + length)).length + 2 ≤
        decoder.pending.length + 1 := by
      rw [List.length_drop]
      omega
    cases parsed : parseSseEvent piece with
    | error error =>
      rw [parsed] at whole
      exact ⟨whole.symm, scannedSound, by simp [collect], rfl, rfl⟩
    | ok event =>
      rw [parsed] at whole
      cases event with
      | none =>
        have rest := ih _ turns fuel advancedSound (by rw [advancedPending]; omega)
          (by rw [advancedPending]; omega) advancedPending
        refine ⟨by rw [whole]; simpa [Decoded.ofFrame] using rest.decoded, rest.sound,
          fun clean open_ => ?_, rest.finished, rest.total⟩
        rw [splits]
        exact rest.rest clean open_
      | some event =>
        obtain ⟨calls, rfl⟩ : ∃ calls, fuel = calls + 1 := ⟨fuel - 1, by omega⟩
        have rest := ih _ (decoder.buffer.length + 1) calls advancedSound
          (by rw [advancedPending]; have := length_pending decoder; omega)
          (by rw [advancedPending]; omega) advancedPending
        rw [collect_event]
        refine ⟨?_, rest.sound, fun clean open_ => ?_, rest.finished, rest.total⟩
        · rw [whole, ← rest.decoded]
          rfl
        · rw [splits]
          exact rest.rest (by simpa [Decoded.andThen, nextEvent] using clean) open_

theorem drain_reads {decoder : SseDecoder} (sound : decoder.Sound) :
    Reads decoder decoder.pending decoder.drain := by
  have size := length_pending decoder
  have reads := nextEventLoop_reads decoder (decoder.buffer.length + 1) decoder.buffer.length sound
    (by omega) (by omega)
  rwa [drain, drainLoop_succ]

theorem compact_pending (decoder : SseDecoder) : decoder.compact.pending = decoder.pending := by
  unfold compact
  split <;> simp [pending]

theorem Sound.compact {decoder : SseDecoder} (sound : decoder.Sound) : decoder.compact.Sound := by
  have kept := compact_pending decoder
  unfold SseDecoder.compact at kept ⊢
  split
  · exact sound
  · next moved =>
    rw [if_neg moved] at kept
    have bounded := sound.bounded
    refine ⟨Nat.zero_le _, ?_, fun offset below more => ?_⟩
    · simp only [List.length_drop]
      omega
    · rw [kept]
      exact sound.settled offset (by simpa using below) more

theorem Sound.extend {decoder : SseDecoder} (sound : decoder.Sound) (chunk : List UInt8) :
    ({ decoder with buffer := decoder.buffer ++ chunk } : SseDecoder).Sound ∧
      ({ decoder with buffer := decoder.buffer ++ chunk } : SseDecoder).pending =
        decoder.pending ++ chunk := by
  have ordered := sound.ordered
  have bounded := sound.bounded
  have extended : ({ decoder with buffer := decoder.buffer ++ chunk } : SseDecoder).pending =
      decoder.pending ++ chunk := by
    simp only [pending]
    rw [List.drop_append_of_le_length (by omega)]
  refine ⟨⟨ordered, ?_, fun offset below more => ?_⟩, extended⟩
  · simp only [List.length_append]
    omega
  · rw [extended, List.append_assoc]
    exact sound.settled offset below _

theorem append_ok {decoder : SseDecoder} {chunk : List UInt8} (sound : decoder.Sound)
    (running : decoder.finished = false)
    (room : decoder.totalBytes + chunk.length ≤ maxStreamAggregateTotalBytes) :
    ∃ appended, decoder.append chunk = .ok appended ∧ appended.Sound ∧
      appended.pending = decoder.pending ++ chunk ∧ appended.finished = false ∧
      appended.totalBytes = decoder.totalBytes + chunk.length := by
  by_cases blank : chunk = []
  · subst blank
    exact ⟨decoder, by simp [append], sound, by simp, running, by simp⟩
  · have counted : ({ decoder with totalBytes := decoder.totalBytes + chunk.length } :
        SseDecoder).Sound := ⟨sound.ordered, sound.bounded, sound.settled⟩
    obtain ⟨extended, bytes⟩ := counted.compact.extend chunk
    have small : ¬ maxStreamAggregateTotalBytes < decoder.totalBytes + chunk.length := by omega
    refine ⟨_, by simp [append, blank, running, small], extended, ?_, ?_, ?_⟩
    · rw [bytes, compact_pending]
      rfl
    · simp only [compact]
      split <;> exact running
    · simp only [compact]
      split <;> rfl

-- From any point between two chunks on, decoding goes on as if the stream were whole.
theorem decodeFrom_eq {decoder : SseDecoder} {chunks : List (List UInt8)} (sound : decoder.Sound)
    (running : decoder.finished = false) (uncut : sseDelimiter.cut decoder.pending = none)
    (room : decoder.totalBytes + chunks.flatten.length ≤ maxStreamAggregateTotalBytes) :
    decoder.decodeFrom chunks = readSplit true (decoder.pending ++ chunks.flatten) := by
  induction chunks generalizing decoder with
  | nil =>
    have ended : decoder.finish.Sound := ⟨sound.ordered, sound.bounded, sound.settled⟩
    rw [decodeFrom, (drain_reads ended).decoded]
    simp [finish, pending]
  | cons chunk rest ih =>
    rw [List.flatten_cons, List.length_append] at room
    obtain ⟨appended, result, appendedSound, bytes, open_, total⟩ :=
      append_ok sound running (show decoder.totalBytes + chunk.length ≤ _ by omega)
    have reads := drain_reads appendedSound
    have decoded := reads.decoded
    rw [open_, bytes] at decoded
    rw [decodeFrom, result, List.flatten_cons, ← List.append_assoc, readSplit_append true]
    simp only [decoded]
    cases failed : (readSplit false (decoder.pending ++ chunk)).error with
    | some error => rw [Decoded.andThen_of_error _ failed, Decoded.andThen_of_error _ failed]
    | none =>
      have rest_ := reads.rest (by rw [decoded, failed]) open_
      rw [bytes] at rest_
      rw [ih reads.sound (by rw [reads.finished, open_])
        (by rw [rest_]; exact Delimiter.cut_split_rest _) (by rw [reads.total, total]; omega),
        rest_]

theorem nextTail_sound {decoder : SseDecoder} (sound : decoder.Sound) :
    decoder.nextTail.2.Sound := by
  unfold nextTail
  simp only
  split
  · exact sound
  · split
    · split
      · exact sound
      · exact ⟨Nat.le_refl _, Nat.le_refl _, by simp⟩
    · exact sound

theorem nextEventLoop_sound {decoder : SseDecoder} (fuel : Nat) (sound : decoder.Sound) :
    (decoder.nextEventLoop fuel).2.Sound := by
  induction fuel generalizing decoder with
  | zero => exact sound
  | succ fuel ih =>
    cases found : sseDelimiter.cut decoder.pending with
    | none =>
      rcases boundary : decoder.nextFrameBoundary with ⟨_ | ⟨frameEnd, length⟩, scanned⟩
      · simp only [nextEventLoop, boundary]
        exact nextTail_sound (nextFrameBoundary_missing sound boundary).2.1
      · obtain ⟨-, piece, -, cut⟩ := nextFrameBoundary_found sound boundary
        simp [found] at cut
    | some cut =>
      rw [nextEventLoop_of_cut fuel sound found]
      split
      · exact sound.rescan found
      · split
        · exact sound.rescan found
        · exact (sound.advance found 0).1
        · exact ih (sound.advance found 0).1

inductive Call where
  | append (chunk : List UInt8)
  | nextEvent
  | finish

-- A refused chunk leaves the decoder as it was.
def afterCall (decoder : SseDecoder) : Call → SseDecoder
  | .append chunk => (decoder.append chunk).toOption.getD decoder
  | .nextEvent => decoder.nextEvent.2
  | .finish => decoder.finish

theorem afterCall_sound {decoder : SseDecoder} (call : Call) (sound : decoder.Sound) :
    (decoder.afterCall call).Sound := by
  cases call with
  | append chunk =>
    simp only [afterCall, append]
    split
    · exact sound
    · split
      · exact sound
      · split
        · exact sound
        · have counted : ({ decoder with totalBytes := decoder.totalBytes + chunk.length } :
              SseDecoder).Sound := ⟨sound.ordered, sound.bounded, sound.settled⟩
          exact (counted.compact.extend chunk).1
  | nextEvent => exact nextEventLoop_sound _ sound
  | finish => exact ⟨sound.ordered, sound.bounded, sound.settled⟩

theorem afterCalls_sound (calls : List Call) : (calls.foldl afterCall {}).Sound := by
  suffices held : ∀ decoder : SseDecoder, decoder.Sound → (calls.foldl afterCall decoder).Sound from
    held {} new_sound
  induction calls with
  | nil => exact fun _ sound => sound
  | cons call rest ih => exact fun _ sound => ih _ (afterCall_sound call sound)

def decode (chunks : List (List UInt8)) : Decoded :=
  decodeFrom {} chunks

theorem decode_eq {chunks : List (List UInt8)}
    (bounded : chunks.flatten.length ≤ maxStreamAggregateTotalBytes) :
    decode chunks = readSplit true chunks.flatten := by
  simpa [pending, decode] using decodeFrom_eq new_sound rfl rfl (by simpa using bounded)

end SseDecoder

def readUnlimited (bytes : List UInt8) : Decoded :=
  ((sseDelimiter.split bytes).1.map (·.1) ++ [(sseDelimiter.split bytes).2]).foldr
    (fun piece rest => (Decoded.ofFrame (parseSseEvent piece)).andThen rest) {}

def FramesFit (bytes : List UInt8) : Prop :=
  (∀ frame ∈ (sseDelimiter.split bytes).1,
      frame.1.length + frame.2 ≤ maxStreamAggregateFrameBytes) ∧
    (sseDelimiter.split bytes).2.length ≤ maxStreamAggregateFrameBytes

theorem readFrames_of_fit {frames : List (List UInt8 × Nat)} (last : Decoded)
    (fit : ∀ frame ∈ frames, frame.1.length + frame.2 ≤ maxStreamAggregateFrameBytes) :
    (readFrames frames).andThen last =
      (frames.map (·.1)).foldr
        (fun piece rest => (Decoded.ofFrame (parseSseEvent piece)).andThen rest) last := by
  induction frames with
  | nil => simp [readFrames]
  | cons frame rest ih =>
    have here := fit frame (by simp)
    have short : ¬ maxStreamAggregateFrameBytes < frame.1.length + frame.2 := by omega
    rw [readFrames, readFrame, if_neg short, Decoded.andThen_assoc,
      ih fun other member => fit other (by simp [member])]
    rfl

theorem readSplit_of_fit {bytes : List UInt8} (fit : FramesFit bytes) :
    readSplit true bytes = readUnlimited bytes := by
  have tail : readTail true (sseDelimiter.split bytes).2 =
      Decoded.ofFrame (parseSseEvent (sseDelimiter.split bytes).2) := by
    have short : ¬ maxStreamAggregateFrameBytes < (sseDelimiter.split bytes).2.length := by
      have := fit.2
      omega
    rw [readTail, if_neg short]
    cases (sseDelimiter.split bytes).2 with
    | nil => rfl
    | cons byte rest => simp
  rw [readSplit, readFrames_of_fit _ fit.1, tail, readUnlimited, List.foldr_append]
  simp

/-- Every chunking of a stream of at most the total limit decodes to what the stream's frames
yield, and no call ever moves a cursor out of the buffer. -/
theorem decoding_ignores_chunking (chunks : List (List UInt8))
    (bounded : chunks.flatten.length ≤ maxStreamAggregateTotalBytes) :
    SseDecoder.decode chunks = SseDecoder.decode [chunks.flatten] ∧
      SseDecoder.decode chunks = readSplit true chunks.flatten ∧
      (FramesFit chunks.flatten → SseDecoder.decode chunks = readUnlimited chunks.flatten) ∧
      ∀ calls : List SseDecoder.Call,
        let decoder := calls.foldl SseDecoder.afterCall {}
        decoder.consumedOffset ≤ decoder.scanCursor ∧
          decoder.scanCursor ≤ decoder.buffer.length := by
  have whole := SseDecoder.decode_eq bounded
  refine ⟨?_, whole, fun fit => whole.trans (readSplit_of_fit fit), fun calls => ?_⟩
  · rw [whole, @SseDecoder.decode_eq [chunks.flatten] (by simpa using bounded)]
    simp
  · have sound := SseDecoder.afterCalls_sound calls
    exact ⟨sound.ordered, sound.bounded⟩

/-- Two events in three chunks, the second cut inside its delimiter and the third unterminated. -/
theorem decoding_ignores_chunking_of_three_chunks :
    let chunks := ["data: a\n\nev", "ent: x\r\n\r", "\ndata: b"].map fun text => text.toUTF8.toList
    chunks.flatten.length ≤ maxStreamAggregateTotalBytes ∧
      SseDecoder.decode chunks = SseDecoder.decode [chunks.flatten] := by
  intro chunks
  have bounded : chunks.flatten.length ≤ maxStreamAggregateTotalBytes := by decide +kernel
  exact ⟨bounded, (decoding_ignores_chunking chunks bounded).1⟩

theorem parseSseEvent_error {frame : List UInt8} {error : ProtocolError}
    (failed : parseSseEvent frame = .error error) :
    error = .invalidUpstreamStream .decode "frame is not valid UTF-8" := by
  unfold parseSseEvent at failed
  split at failed
  · exact (Except.error.inj failed).symm
  · simp only at failed
    split at failed <;> cases failed

theorem decode_ne_of_long {bytes : List UInt8} (uncut : sseDelimiter.cut bytes = none)
    (long : maxStreamAggregateFrameBytes < bytes.length)
    (bounded : bytes.length ≤ maxStreamAggregateTotalBytes) :
    SseDecoder.decode [bytes] ≠ readUnlimited bytes := by
  intro same
  have refused : SseDecoder.decode [bytes] = { error := some frameLimitExceeded } := by
    rw [@SseDecoder.decode_eq [bytes] (by simpa using bounded), List.flatten_singleton,
      readSplit_of_none true uncut, readTail, if_pos long]
  rw [refused, readUnlimited, Delimiter.split_of_none uncut] at same
  cases parsed : parseSseEvent bytes with
  | ok event => simp [parsed, Decoded.ofFrame, Decoded.andThen] at same
  | error error =>
    obtain rfl := parseSseEvent_error parsed
    simp [parsed, Decoded.ofFrame, Decoded.andThen, frameLimitExceeded] at same

theorem cut_replicate (count : Nat) : sseDelimiter.cut (List.replicate count 120) = none := by
  refine Delimiter.cut_eq_none.2 fun offset => ?_
  rw [List.drop_replicate]
  cases count - offset with
  | zero => rfl
  | succ more =>
    rw [List.replicate_succ]
    exact sseDelimiterLength_cons_of_plain _ (by decide) (by decide)

/-- A stream of one line longer than the frame limit is refused, though splitting alone reads it. -/
theorem overlong_frames_are_refused :
    ¬ ∀ bytes : List UInt8, bytes.length ≤ maxStreamAggregateTotalBytes →
      SseDecoder.decode [bytes] = readUnlimited bytes := by
  intro claimed
  have size : ∀ count, (List.replicate count (120 : UInt8)).length = count := by simp
  have bounded : (List.replicate (maxStreamAggregateFrameBytes + 1) (120 : UInt8)).length ≤
      maxStreamAggregateTotalBytes := by
    rw [size]
    decide
  refine decode_ne_of_long (cut_replicate _) ?_ bounded (claimed _ bounded)
  rw [size]
  omega

end ChatGateway
