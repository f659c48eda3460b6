import ChatGateway.Protocol.AggregateConcat
import ChatGateway.Stream.StreamAggregator

set_option autoImplicit false

/-!
# Runs of the stream aggregator

However the bytes of a Chat stream are cut into chunks, the aggregator answers once, with the
concatenation of the stream's deltas.
-/

namespace ChatGateway.StreamAggregate

open OrderedMap ChatAggregateState StreamResponseAggregator

inductive Closing where
  | done
  | finishReasons
deriving DecidableEq, Repr

/-- The events of a Chat stream carry the chunk objects `values`, with nothing behind `[DONE]`. -/
inductive Carries (codec : JsonCodec) : List SseEvent → List Json → Closing → Prop
  | ended : Carries codec [] [] .finishReasons
  | done {event : SseEvent} (named : isErrorEvent event.eventType = false)
      (payload : Text.trim event.data = "[DONE]".toList) : Carries codec [event] [] .done
  | blank {event : SseEvent} {rest : List SseEvent} {values : List Json} {closing : Closing}
      (named : isErrorEvent event.eventType = false) (payload : Text.trim event.data = [])
      (later : Carries codec rest values closing) : Carries codec (event :: rest) values closing
  | chunk {event : SseEvent} {rest : List SseEvent} {value : Json} {values : List Json}
      {closing : Closing} (named : isErrorEvent event.eventType = false)
      (present : Text.trim event.data ≠ []) (going : Text.trim event.data ≠ "[DONE]".toList)
      (read : codec.read (Text.trim event.data) = some value)
      (sound : given value "error" = none) (later : Carries codec rest values closing) :
      Carries codec (event :: rest) (value :: values) closing

variable {codec : JsonCodec}

-- Either the first events are followed by others, and carry chunks only, or they are all.
theorem Carries.split {first rest : List SseEvent} {values : List Json} {closing : Closing}
    (carried : Carries codec (first ++ rest) values closing) :
    (∃ earlier later, values = earlier ++ later ∧ Carries codec first earlier .finishReasons ∧
        Carries codec rest later closing) ∨
      (rest = [] ∧ closing = .done ∧ Carries codec first values .done) := by
  induction first generalizing values with
  | nil => exact .inl ⟨[], values, rfl, .ended, carried⟩
  | cons event first ih =>
    generalize whole : event :: first ++ rest = events at carried
    cases carried with
    | ended => cases whole
    | done named payload =>
      rw [List.cons_append] at whole
      obtain ⟨rfl, none⟩ := List.cons.inj whole
      obtain ⟨rfl, rfl⟩ := List.append_eq_nil_iff.1 none
      exact .inr ⟨rfl, rfl, .done named payload⟩
    | blank named payload later =>
      obtain ⟨rfl, rfl⟩ := List.cons.inj whole
      rcases ih later with ⟨earlier, behind, rfl, before, after⟩ | ⟨rfl, rfl, before⟩
      · exact .inl ⟨earlier, behind, rfl, .blank named payload before, after⟩
      · exact .inr ⟨rfl, rfl, .blank named payload before⟩
    | chunk named present going read sound later =>
      obtain ⟨rfl, rfl⟩ := List.cons.inj whole
      rcases ih later with ⟨earlier, behind, rfl, before, after⟩ | ⟨rfl, rfl, before⟩
      · exact .inl ⟨_ :: earlier, behind, rfl, .chunk named present going read sound before, after⟩
      · exact .inr ⟨rfl, rfl, .chunk named present going read sound before⟩

def handled (aggregator : StreamResponseAggregator) (values : List Json) (closing : Closing)
    (response : Json) : StreamResponseAggregator :=
  { aggregator with
    chat := values.foldl addEvent aggregator.chat
    complete := if closing = .done then some response else none }

theorem foldlM_carried {events : List SseEvent} {values : List Json} {closing : Closing}
    {response : Json} (carried : Carries codec events values closing)
    (accepted : ∀ value ∈ values, ChatChunk value) {aggregator : StreamResponseAggregator}
    (protocol : aggregator.protocol = .chatCompletions) (running : aggregator.complete = none)
    (built : closing = .done →
      (values.foldl addEvent aggregator.chat).buildResponse = .ok response) :
    events.foldlM (processEventOrTerminalTail codec) aggregator =
      .ok (handled aggregator values closing response) := by
  have handling (event : SseEvent) :
      aggregator.processEventOrTerminalTail codec event = aggregator.processEvent codec event := by
    rw [processEventOrTerminalTail, running]
    rfl
  induction carried generalizing aggregator with
  | ended =>
    rw [handled, if_neg (by decide), ← running]
    rfl
  | @done event named payload =>
    have closed : aggregator.processEvent codec event =
        .ok { aggregator with complete := some response } := by
      rw [processEvent, payload, protocol, named]
      exact congrArg (Except.map _) (built rfl)
    rw [List.foldlM_cons, handling, closed]
    rfl
  | @blank event rest values closing named payload later ih =>
    have passed : aggregator.processEvent codec event = .ok aggregator := by
      rw [processEvent, payload, named]
      rfl
    rw [List.foldlM_cons, handling, passed]
    exact ih accepted protocol running built handling
  | @chunk event rest value values closing named present going read sound later ih =>
    have added : aggregator.processEvent codec event =
        .ok { aggregator with chat := aggregator.chat.addEvent value } := by
      simp only [processEvent, named, Bool.false_eq_true, if_false, if_neg present, if_neg going,
        read, sound, Option.isSome_none, protocol,
        applyEvent_ok (accepted value List.mem_cons_self)]
      rfl
    rw [List.foldlM_cons, handling, added]
    refine ih (fun other member => accepted other (List.mem_cons_of_mem _ member)) protocol running
      built ?_
    intro event
    rw [processEventOrTerminalTail]
    simp [running]

theorem andThen_clean {first second : Decoded} {events : List SseEvent}
    (clean : first.andThen second = { events }) :
    ∃ earlier later, first = { events := earlier } ∧ second = { events := later } ∧
      events = earlier ++ later := by
  rcases first with ⟨earlier, _ | error⟩
  · rcases second with ⟨later, failed⟩
    simp only [Decoded.andThen, Decoded.mk.injEq] at clean
    obtain ⟨rfl, rfl⟩ := clean
    exact ⟨earlier, later, rfl, rfl, rfl⟩
  · simp [Decoded.andThen] at clean

theorem drainEvents_ok {aggregator processed : StreamResponseAggregator} {decoder : SseDecoder}
    {events : List SseEvent} (decoded : decoder.drain.1 = { events })
    (processing : events.foldlM (processEventOrTerminalTail codec) aggregator = .ok processed) :
    aggregator.drainEvents codec decoder =
      .ok { processed with decoder := decoder.drain.2 } := by
  rw [drainEvents]
  generalize decoder.drain = outcome at decoded
  obtain ⟨_, drained⟩ := outcome
  obtain rfl := decoded
  dsimp only
  rw [processing]
  rfl

theorem push_ok {aggregator processed : StreamResponseAggregator} {appended : SseDecoder}
    {chunk : List UInt8} (unsent : aggregator.completionEmitted = false)
    (result : aggregator.decoder.append chunk = .ok appended)
    (drained : aggregator.drainEvents codec appended = .ok processed) :
    aggregator.push codec chunk = .ok
      (match processed.complete with
      | some value =>
        ({ processed with complete := none, completionEmitted := true }, .complete value)
      | none => (processed, .pending)) := by
  rw [push, unsent, result]
  change (aggregator.drainEvents codec appended >>= _) = _
  rw [drained]
  cases answered : processed.complete <;> simp [bind, Except.bind, answered, pure, Except.pure]

theorem finish_ok {aggregator processed : StreamResponseAggregator} {value : Json}
    (unsent : aggregator.completionEmitted = false) (running : aggregator.complete = none)
    (drained : aggregator.drainEvents codec aggregator.decoder.finish = .ok processed)
    (answered : processed.complete = some value ∨
      processed.complete = none ∧ processed.protocol = .chatCompletions ∧
        processed.chat.isSemanticallyFinished = true ∧ processed.chat.buildResponse = .ok value) :
    aggregator.finish codec = .ok value := by
  rw [finish, unsent, running]
  dsimp only
  rw [drained]
  simp only [bind, Except.bind, pure, Except.pure, Bool.false_eq_true, if_false]
  rcases answered with complete | ⟨complete, protocol, finished, built⟩
  · rw [complete]
  · rw [complete, protocol]
    simp only [finished, if_true, built]

theorem completions_emitted {aggregator : StreamResponseAggregator}
    (emitted : aggregator.completionEmitted = true) (chunks : List (List UInt8)) :
    aggregator.completions codec chunks = [] := by
  cases chunks with
  | nil =>
    have refused : aggregator.finish codec = .error completionAlreadyEmitted := by
      rw [finish, emitted]
      rfl
    rw [completions, refused]
  | cons chunk rest =>
    have refused : aggregator.push codec chunk = .error completionAlreadyEmitted := by
      rw [push, emitted]
      rfl
    rw [completions, refused]

theorem completions_carried {chunks : List (List UInt8)} {aggregator : StreamResponseAggregator}
    {events : List SseEvent} {values : List Json} {closing : Closing} {response : Json}
    (sound : aggregator.decoder.Sound) (open_ : aggregator.decoder.finished = false)
    (uncut : sseDelimiter.cut aggregator.decoder.pending = none)
    (room : aggregator.decoder.totalBytes + chunks.flatten.length ≤ maxStreamAggregateTotalBytes)
    (protocol : aggregator.protocol = .chatCompletions) (running : aggregator.complete = none)
    (unsent : aggregator.completionEmitted = false)
    (whole : readSplit true (aggregator.decoder.pending ++ chunks.flatten) = { events })
    (carried : Carries codec events values closing) (accepted : ∀ value ∈ values, ChatChunk value)
    (built : (values.foldl addEvent aggregator.chat).buildResponse = .ok response)
    (finished : closing = .finishReasons →
      (values.foldl addEvent aggregator.chat).isSemanticallyFinished = true) :
    aggregator.completions codec chunks = [response] := by
  induction chunks generalizing aggregator events values with
  | nil =>
    have ended : aggregator.decoder.finish.Sound := ⟨sound.ordered, sound.bounded, sound.settled⟩
    have decoded : aggregator.decoder.finish.drain.1 = { events } := by
      rw [(SseDecoder.drain_reads ended).decoded]
      simpa [SseDecoder.finish, SseDecoder.pending] using whole
    have processed := drainEvents_ok decoded
      (foldlM_carried carried accepted protocol running fun _ => built)
    rw [completions, finish_ok unsent running processed ?_]
    cases closing with
    | done => exact .inl rfl
    | finishReasons => exact .inr ⟨rfl, protocol, finished rfl, built⟩
  | cons chunk rest ih =>
    rw [List.flatten_cons, List.length_append] at room
    obtain ⟨appended, result, appendedSound, bytes, stillOpen, total⟩ :=
      SseDecoder.append_ok sound open_
        (show aggregator.decoder.totalBytes + chunk.length ≤ _ by omega)
    have reads := SseDecoder.drain_reads appendedSound
    have decoded := reads.decoded
    rw [stillOpen, bytes] at decoded
    rw [List.flatten_cons, ← List.append_assoc, readSplit_append true] at whole
    obtain ⟨first, later, read, behind, rfl⟩ := andThen_clean whole
    have tail := reads.rest (by rw [decoded, read]) stillOpen
    rw [bytes] at tail
    rw [read] at decoded
    rcases carried.split with ⟨before, after, rfl, earlier, remaining⟩ | ⟨rfl, rfl, closed⟩
    · -- The chunk brings chunk objects only.
      have processed := drainEvents_ok decoded
        (@foldlM_carried _ _ _ _ response earlier
          (fun value member => accepted value (List.mem_append_left _ member)) _ protocol running
          (by rintro ⟨⟩))
      have pushed : aggregator.push codec chunk = .ok
          ({ handled aggregator before .finishReasons response with
              decoder := appended.drain.2 }, .pending) :=
        push_ok unsent result processed
      rw [completions, pushed]
      rw [List.foldl_append] at built finished
      refine ih reads.sound (by rw [reads.finished, stillOpen]) ?_ ?_ protocol rfl unsent ?_ remaining
        (fun value member => accepted value (List.mem_append_right _ member)) built finished
      · rw [tail]
        exact Delimiter.cut_split_rest _
      · rw [reads.total, total]
        omega
      · rw [tail]
        exact behind
    · -- The chunk ends the stream.
      rw [List.append_nil] at *
      have processed := drainEvents_ok decoded
        (foldlM_carried closed accepted protocol running fun _ => built)
      have pushed : aggregator.push codec chunk = .ok
          ({ handled aggregator values .done response with
              decoder := appended.drain.2, complete := none, completionEmitted := true },
            .complete response) :=
        push_ok unsent result processed
      rw [completions, pushed]
      dsimp only
      rw [completions_emitted rfl]

def GivesFinishReasons (values : List Json) : Prop :=
  ∀ index, itemsOf index (values.flatMap chunkChoices) ≠ [] →
    ∃ choice ∈ itemsOf index (values.flatMap chunkChoices),
      (given (.object choice) "finish_reason").isSome

theorem isSemanticallyFinished_of {values : List Json}
    (named : values.flatMap chunkChoices ≠ []) (finished : GivesFinishReasons values) :
    (values.foldl addEvent {}).isSemanticallyFinished = true := by
  have choices := choices_foldl values {}
  generalize values.foldl addEvent {} = state at choices ⊢
  have present : state.choices.isEmpty = false := by
    rw [choices, isEmpty_foldl_update]
    simp [named]
  rw [isSemanticallyFinished, present, Bool.not_false, Bool.true_and, List.all_eq_true]
  intro held member
  obtain ⟨⟨index, _⟩, entry, rfl⟩ := List.mem_map.1 member
  have found := find?_eq_some.2 entry
  rw [choices, find?_foldl_update] at found
  split at found
  next => cases found
  next nonempty =>
    obtain rfl := Option.some.inj found
    obtain ⟨choice, listed, told⟩ := finished index nonempty
    dsimp only
    rw [ChatChoiceState.finishReason_foldl]
    cases said : lastSome (fun choice => given (.object choice) "finish_reason")
        (itemsOf index (values.flatMap chunkChoices)) with
    | some reason => rfl
    | none =>
      rw [lastSome_eq_none.1 said choice listed] at told
      cases told

/-- A stream of chunk objects that names a choice is answered once in every chunking, with the
concatenation of its deltas, however those of different choices are interleaved. -/
theorem aggregation_is_concatenation (codec : JsonCodec) (chunks : List (List UInt8))
    (events : List SseEvent) (values : List Json) (closing : Closing)
    (bounded : chunks.flatten.length ≤ maxStreamAggregateTotalBytes)
    (whole : readSplit true chunks.flatten = { events })
    (carried : Carries codec events values closing) (accepted : ∀ value ∈ values, ChatChunk value)
    (named : values.flatMap chunkChoices ≠ [])
    (finished : closing = .finishReasons → GivesFinishReasons values) :
    ∃ response, completions codec { protocol := .chatCompletions } chunks = [response] ∧
      aggregate values = .ok response ∧ Concatenates values response ∧
      ∀ others, (∀ value ∈ others, ChatChunk value) →
        (∀ index, itemsOf index (values.flatMap chunkChoices) =
          itemsOf index (others.flatMap chunkChoices)) →
        (∀ field ∈ envelopeFields,
          lastSome (given · field) values = lastSome (given · field) others) →
        aggregate others = .ok response := by
  obtain ⟨response, built, concatenates⟩ := aggregate_concatenates accepted named
  refine ⟨response, ?_, built, concatenates, ?_⟩
  · refine completions_carried SseDecoder.new_sound rfl rfl (by simpa using bounded) rfl rfl rfl
      (by simpa [SseDecoder.pending] using whole) carried accepted ?_ ?_
    · rw [← aggregate_eq accepted]
      exact built
    · intro closed
      exact isSemanticallyFinished_of named (finished closed)
  · intro others acceptedOthers deltas envelope
    rw [← aggregate_interleaved accepted acceptedOthers deltas envelope]
    exact built

def printedCodec (values : List Json) : JsonCodec :=
  serdeCodec fun text =>
    match values.find? fun value => String.ofList (serdePrint value) = text with
    | some value => [some value]
    | none => [none]

/-- The event stream of some chunks, closed by `[DONE]`. -/
def wireText (values : List Json) : Text :=
  values.flatMap (fun value => "data: ".toList ++ serdePrint value ++ ['\n', '\n']) ++
    "data: [DONE]\n\n".toList

def pieceChunk (index : Nat) (piece : String) : Json :=
  .object
    [("choices", .array
      [.object [("index", .ofNat index), ("delta", .object [("content", .string piece)])]])]

def pieces : List Json := [pieceChunk 1 "x", pieceChunk 0 "a", pieceChunk 1 "y"]

theorem pieceChunk_accepted (index : Nat) (piece : String) : ChatChunk (pieceChunk index piece) where
  choices choice member := by
    obtain rfl := List.mem_singleton.1 member
    exact ⟨_, rfl⟩
  deltas choice member := by
    obtain rfl : choice =
        (index, [("index", .ofNat index), ("delta", .object [("content", .string piece)])]) := by
      simpa [chunkChoices, pieceChunk, indexOf, Json.asArray, Json.asObject, Json.asU64,
        Json.ofNat] using member
    constructor
    · intro content said
      obtain rfl := Option.some.inj said
      exact ⟨piece, rfl⟩
    · rintro role ⟨⟩

theorem aggregation_is_concatenation_interleaved :
    ∃ response, completions (printedCodec pieces) { protocol := .chatCompletions }
        [(wireText pieces).utf8.take 30, [], (wireText pieces).utf8.drop 30] = [response] ∧
      Concatenates pieces response := by
  obtain ⟨response, once, -, concatenates, -⟩ :=
    aggregation_is_concatenation (printedCodec pieces)
      [(wireText pieces).utf8.take 30, [], (wireText pieces).utf8.drop 30]
      [⟨none, serdePrint (pieceChunk 1 "x")⟩, ⟨none, serdePrint (pieceChunk 0 "a")⟩,
        ⟨none, serdePrint (pieceChunk 1 "y")⟩, ⟨none, "[DONE]".toList⟩]
      pieces .done (by decide +kernel) (by decide +kernel)
      (.chunk (by decide) (by decide +kernel) (by decide +kernel) (by decide +kernel)
        (by decide +kernel)
        (.chunk (by decide) (by decide +kernel) (by decide +kernel) (by decide +kernel)
          (by decide +kernel)
          (.chunk (by decide) (by decide +kernel) (by decide +kernel) (by decide +kernel)
            (by decide +kernel) (.done (by decide) (by decide +kernel)))))
      (by simp [pieces, pieceChunk_accepted]) (by decide +kernel) nofun
  exact ⟨response, once, concatenates⟩

def usageChunk : Json :=
  .object [("choices", .array []), ("usage", .object [("total_tokens", .ofNat 3)])]

/-- A stream of one chunk that names no choice, as for usage alone, ends without an answer. -/
theorem choiceless_stream_is_refused :
    readSplit true (wireText [usageChunk]).utf8 =
        { events := [⟨none, serdePrint usageChunk⟩, ⟨none, "[DONE]".toList⟩] } ∧
      Carries (printedCodec [usageChunk])
        [⟨none, serdePrint usageChunk⟩, ⟨none, "[DONE]".toList⟩] [usageChunk] .done ∧
      ChatChunk usageChunk ∧
      completions (printedCodec [usageChunk]) { protocol := .chatCompletions }
        [(wireText [usageChunk]).utf8] = [] := by
  refine ⟨by decide +kernel, ?_, ⟨?_, ?_⟩, by decide +kernel⟩
  · exact .chunk (by decide) (by decide +kernel) (by decide +kernel) (by decide +kernel)
      (by decide +kernel) (.done (by decide) (by decide +kernel))
  · intro choice member
    cases member
  · intro choice member
    cases member

end ChatGateway.StreamAggregate
