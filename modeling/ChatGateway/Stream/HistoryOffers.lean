import ChatGateway.Protocol.TerminalEvents
import ChatGateway.Stream.Forwarding
import ChatGateway.Stream.SseAgreement

set_option autoImplicit false

/-!
# The response history of a translated stream

A completed response that reaches the client has to be offered to the response history, whichever
part of the stream it came from.
-/

namespace ChatGateway

def isCompleted (event : Json) : Bool :=
  event.str "type" = some "response.completed"

theorem not_stores_of_not_completed {event : Json} (other : isCompleted event = false) :
    storeFromCompletedEvent event = false := by
  simp only [isCompleted, decide_eq_false_iff_not] at other
  simp [storeFromCompletedEvent, other]

namespace ResponsesEvent

theorem not_completed_of_plain {event : ResponsesEvent} (plain : event.body.terminal? = none) :
    isCompleted event.toJson = false := by
  cases body : event.body with
  | terminal response => simp [body, ResponsesEventBody.terminal?] at plain
  | delta channel => cases channel <;> simp [isCompleted, toJson, body, Json.str, deltaType, Json.asStr]
  | done channel => cases channel <;> simp [isCompleted, toJson, body, Json.str, doneType, Json.asStr]
  | created => simp [isCompleted, toJson, body, Json.str, Json.asStr]
  | itemAdded => simp [isCompleted, toJson, body, Json.str, Json.asStr]
  | itemDone => simp [isCompleted, toJson, body, Json.str, Json.asStr]

theorem not_completed_of_incomplete {event : ResponsesEvent} {response : TerminalResponse}
    (terminal : event.body = .terminal response) (incomplete : response.incompleteReason.isSome) :
    isCompleted event.toJson = false := by
  simp [isCompleted, toJson, terminal, Json.str, Json.asStr, incomplete]

end ResponsesEvent

namespace ChatStreamCanonicalizer

def HasChoices (event : Json) : Prop :=
  (event.get "choices").bind Json.asArray ≠ some []

theorem normalizeChoices_length {canonicalizer next : ChatStreamCanonicalizer} {position : Nat}
    {choices normalized : List Json}
    (done : canonicalizer.normalizeChoices position choices = .ok (next, normalized)) :
    normalized.length = choices.length := by
  induction choices generalizing canonicalizer position normalized next with
  | nil =>
    cases done
    rfl
  | cons choice rest ih =>
    rw [normalizeChoices] at done
    cases first : canonicalizer.normalizeChoice position choice with
    | error error => simp [first, bind, Except.bind] at done
    | ok pair =>
      cases others : pair.1.normalizeChoices (position + 1) rest with
      | error error => simp [first, others, bind, Except.bind] at done
      | ok later =>
        simp only [first, others, bind, Except.bind, Except.ok.injEq, Prod.mk.injEq] at done
        rw [← done.2, List.length_cons, List.length_cons, ih others]

theorem push_hasChoices {canonicalizer next : ChatStreamCanonicalizer} {event : Json}
    {events : List Json} (pushed : canonicalizer.push event = .ok (next, events)) :
    ∀ event ∈ events, HasChoices event := by
  unfold push at pushed
  split at pushed
  · split at pushed
    · cases pushed
    · split at pushed
      · cases pushed
        simp
      · next identified isIdentified choice rest found =>
        split at pushed
        · cases pushed
        · next last choices normalized =>
          cases pushed
          have size := normalizeChoices_length normalized
          intro event member
          obtain rfl := List.mem_singleton.1 member
          have nonempty : choices ≠ [] := by
            rintro rfl
            simp at size
          simp [HasChoices, canonicalChunk, Json.field_removeField, Json.field_setField,
            Json.asArray, nonempty]
      · cases pushed
  · cases pushed

theorem missingReasons_length {canonicalizer : ChatStreamCanonicalizer} {indices : List Nat}
    {choices : List Json} (done : canonicalizer.missingReasons indices = .ok choices) :
    choices.length = indices.length := by
  induction indices generalizing choices with
  | nil =>
    cases done
    rfl
  | cons index rest ih =>
    rw [missingReasons] at done
    cases first : canonicalizer.missingReason index with
    | error error => simp [first, bind, Except.bind] at done
    | ok choice =>
      cases others : canonicalizer.missingReasons rest with
      | error error => simp [first, others, bind, Except.bind] at done
      | ok later =>
        simp only [first, others, bind, Except.bind, Except.ok.injEq] at done
        rw [← done, List.length_cons, List.length_cons, ih others]

theorem terminalEvents_hasChoices {canonicalizer : ChatStreamCanonicalizer} {events : List Json}
    (done : canonicalizer.terminalEvents = .ok events) : ∀ event ∈ events, HasChoices event := by
  unfold terminalEvents at done
  split at done
  · cases done
    simp
  · next missing =>
    cases found : canonicalizer.missingReasons canonicalizer.missingChoices with
    | error error => simp [found, bind, Except.bind] at done
    | ok choices =>
      simp only [found, bind, Except.bind, Except.ok.injEq] at done
      have size := missingReasons_length found
      subst done
      intro event member
      obtain rfl := List.mem_singleton.1 member
      have nonempty : choices ≠ [] := by
        rintro rfl
        simp only [List.length_nil] at size
        simp [List.length_eq_zero_iff.1 size.symm] at missing
      simp [HasChoices, envelope, Json.asArray, nonempty]

end ChatStreamCanonicalizer

theorem offers_of_not_stored {events : List Json}
    (unstored : ∀ event ∈ events, storeFromCompletedEvent event = false) : offers events = events := by
  induction events with
  | nil => rfl
  | cons event rest ih =>
    obtain ⟨here, behind⟩ := List.forall_mem_cons.1 unstored
    simp [offers, here, ih behind]

theorem offers_concat {before : List Json} (last : Json)
    (unstored : ∀ event ∈ before, storeFromCompletedEvent event = false) :
    offers (before ++ [last]) = before ++ [last] := by
  induction before with
  | nil =>
    rw [List.nil_append, offers]
    split <;> rfl
  | cons event rest ih =>
    obtain ⟨here, behind⟩ := List.forall_mem_cons.1 unstored
    simp [offers, here, ih behind]

namespace TranslatedStreamState

/-- Every completed response that was pushed has been offered to the history, and at most one of the
offered ones was stored. -/
structure HistoryMatches (state : TranslatedStreamState) : Prop where
  offered : ∀ event ∈ state.trace.pushed, isCompleted event = true → event ∈ state.trace.offered
  once : (state.trace.offered.filter storeFromCompletedEvent).length ≤ 1

structure Streaming (state : TranslatedStreamState) : Prop where
  unended : ∃ translator, state.translator = .chatToResponses translator ∧
    translator.completedEmitted = false
  unstored : state.responseHistoryStored = false
  pushed : ∀ event ∈ state.trace.pushed, isCompleted event = false
  offered : ∀ event ∈ state.trace.offered, storeFromCompletedEvent event = false

theorem Streaming.historyMatches {state : TranslatedStreamState} (streaming : state.Streaming) :
    state.HistoryMatches where
  offered event member completed := by simp [streaming.pushed event member] at completed
  once := by
    have none : state.trace.offered.filter storeFromCompletedEvent = [] := by
      rw [List.filter_eq_nil_iff]
      intro event member
      simp [streaming.offered event member]
    simp [none]

def incomplete (state : TranslatedStreamState) : Bool :=
  match state.translator with
  | .chatToResponses translator => translator.incompleteReason.isSome
  | .responsesToChat _ => false

def releasesUsage (state : TranslatedStreamState) : Bool :=
  match state.canonicalizer with
  | none => false
  | some canonicalizer =>
    canonicalizer.usage.isSome && canonicalizer.finish.isOk &&
      !(canonicalizer.missingChoices.isEmpty && state.incomplete)

variable {settings : ForwardSettings}

theorem pushTranslated_eq (state : TranslatedStreamState) (translated : List Json) :
    ∃ commitTracker number observed pending,
      state.pushTranslated settings translated =
        { state with
          commitTracker
          nextResponsesSequenceNumber := number
          usableOutputObserved := observed
          pending
          trace := { state.trace with pushed := state.trace.pushed ++ translated } } := by
  induction translated generalizing state with
  | nil => exact ⟨_, _, _, _, by simp [pushTranslated]; rfl⟩
  | cons event rest ih =>
    obtain ⟨commitTracker, number, observed, pending, pushed⟩ := ih (state.pushTranslatedEvent settings event)
    refine ⟨commitTracker, number, observed, pending, ?_⟩
    rw [pushTranslated, List.foldl_cons, ← pushTranslated, pushed]
    simp [pushTranslatedEvent]

theorem Streaming.pushTranslated {state : TranslatedStreamState} (streaming : state.Streaming)
    {translated : List Json} (plain : ∀ event ∈ translated, isCompleted event = false) :
    (state.pushTranslated settings translated).Streaming := by
  obtain ⟨commitTracker, number, observed, pending, pushed⟩ :=
    @pushTranslated_eq settings state translated
  rw [pushed]
  exact ⟨streaming.unended, streaming.unstored,
    List.forall_mem_append.2 ⟨streaming.pushed, plain⟩, streaming.offered⟩

theorem Streaming.observeTranslated {state : TranslatedStreamState} (streaming : state.Streaming)
    {translated : List Json} (plain : ∀ event ∈ translated, isCompleted event = false) :
    (state.observeTranslated settings translated).Streaming := by
  have unstored : ∀ event ∈ translated, storeFromCompletedEvent event = false :=
    fun event member => not_stores_of_not_completed (plain event member)
  unfold TranslatedStreamState.observeTranslated
  dsimp only
  split
  · refine ⟨streaming.unended, ?_, streaming.pushed, ?_⟩
    · simpa using unstored
    · rw [offers_of_not_stored unstored]
      exact List.forall_mem_append.2 ⟨streaming.offered, unstored⟩
  · exact ⟨streaming.unended, streaming.unstored, streaming.pushed, streaming.offered⟩

theorem Streaming.translateEvent {state : TranslatedStreamState} (streaming : state.Streaming)
    {event : Json} (chosen : ChatStreamCanonicalizer.HasChoices event) {translator : StreamTranslator}
    {translated : List Json}
    (done : state.translator.translateEvent settings event = .ok (translator, translated)) :
    ({ state with translator } : TranslatedStreamState).Streaming ∧
      ∀ event ∈ translated, isCompleted event = false := by
  obtain ⟨open', isOpen, unended⟩ := streaming.unended
  rw [isOpen, StreamTranslator.translateEvent] at done
  cases emitted : open'.translateEvent settings.responseStamp settings.codec event with
  | error error => simp [emitted, Except.map] at done
  | ok result =>
    simp only [emitted, Except.map, Except.ok.injEq, Prod.mk.injEq] at done
    obtain ⟨rfl, rfl⟩ := done
    obtain ⟨completed, plain⟩ := ChatToResponsesState.translateEvent_plain emitted chosen
    refine ⟨⟨⟨_, rfl, completed.trans unended⟩, streaming.unstored, streaming.pushed,
      streaming.offered⟩, ?_⟩
    rw [List.forall_mem_map]
    exact fun event member => ResponsesEvent.not_completed_of_plain (plain event member)

theorem Streaming.forwardEvents {state : TranslatedStreamState} (streaming : state.Streaming)
    {events : List Json} (chosen : ∀ event ∈ events, ChatStreamCanonicalizer.HasChoices event) :
    (state.forwardEvents settings events).1.Streaming := by
  induction events generalizing state with
  | nil => exact streaming
  | cons event rest ih =>
    obtain ⟨here, behind⟩ := List.forall_mem_cons.1 chosen
    rw [TranslatedStreamState.forwardEvents]
    split
    · exact streaming
    · next translator translated done =>
      obtain ⟨translating, plain⟩ := streaming.translateEvent here done
      exact ih ((translating.observeTranslated plain).pushTranslated plain) behind

theorem Streaming.forwardLastEvents {state : TranslatedStreamState} (streaming : state.Streaming)
    {events : List Json} (chosen : ∀ event ∈ events, ChatStreamCanonicalizer.HasChoices event) :
    (state.forwardLastEvents settings events).1.Streaming := by
  induction events generalizing state with
  | nil => exact streaming
  | cons event rest ih =>
    obtain ⟨here, behind⟩ := List.forall_mem_cons.1 chosen
    rw [TranslatedStreamState.forwardLastEvents]
    split
    · exact streaming
    · next translator translated done =>
      obtain ⟨translating, plain⟩ := streaming.translateEvent here done
      exact ih (translating.pushTranslated plain) behind

-- The translator's own end is offered before it is pushed.
theorem Streaming.finishTranslator {state : TranslatedStreamState} (streaming : state.Streaming)
    (history : settings.keepsHistory = true) :
    (state.finishTranslator settings).1.HistoryMatches := by
  obtain ⟨translator, isOpen, unended⟩ := streaming.unended
  obtain ⟨before, last, response, events, plain, -, -⟩ :=
    @ChatToResponsesState.finish_events settings.responseStamp settings.codec _ unended
  have unstored : ∀ event ∈ before.map ResponsesEvent.toJson,
      storeFromCompletedEvent event = false := by
    rw [List.forall_mem_map]
    exact fun event member => not_stores_of_not_completed
      (ResponsesEvent.not_completed_of_plain (plain event member))
  simp only [TranslatedStreamState.finishTranslator, isOpen, StreamTranslator.finish, events,
    List.map_append, List.map_cons, List.map_nil]
  obtain ⟨commitTracker, number, observed, pending, pushed⟩ := @pushTranslated_eq settings
    (({ state with
          translator :=
            .chatToResponses (translator.finish settings.responseStamp settings.codec).1 } :
      TranslatedStreamState).observeTranslated settings
        (before.map ResponsesEvent.toJson ++ [last.toJson]))
    (before.map ResponsesEvent.toJson ++ [last.toJson])
  rw [pushed]
  simp only [TranslatedStreamState.observeTranslated, streaming.unstored, history, Bool.not_false,
    Bool.and_self, if_true, pushFrame, offers_concat last.toJson unstored]
  refine ⟨?_, ?_⟩
  · intro event member completed
    rcases List.mem_append.1 member with earlier | now
    · simp [streaming.pushed event earlier] at completed
    · exact List.mem_append_right _ now
  · have none : state.trace.offered.filter storeFromCompletedEvent = [] := by
      rw [List.filter_eq_nil_iff]
      intro event member
      simp [streaming.offered event member]
    have earlier : (before.map ResponsesEvent.toJson).filter storeFromCompletedEvent = [] := by
      rw [List.filter_eq_nil_iff]
      intro event member
      simp [unstored event member]
    simp only [List.filter_append, none, earlier, List.nil_append]
    exact List.length_filter_le _ _

theorem finishTranslator_ended {state : TranslatedStreamState} (matching : state.HistoryMatches)
    {translator : ChatToResponsesState} (isOpen : state.translator = .chatToResponses translator)
    (ended : translator.completedEmitted = true) :
    (state.finishTranslator settings).1.HistoryMatches := by
  simp only [finishTranslator, isOpen, StreamTranslator.finish,
    ChatToResponsesState.finish_ended ended, List.map_nil, observeTranslated, offers,
    List.append_nil, pushTranslated, List.foldl_nil, pushFrame]
  split <;> exact ⟨matching.offered, matching.once⟩

theorem translateUsage_incomplete {stamp : ResponseStamp} {codec : JsonCodec}
    {state : ChatToResponsesState} {event : Json} (unended : state.completedEmitted = false)
    (reason : state.incompleteReason.isSome)
    (choices : (event.get "choices").bind Json.asArray = some []) :
    ∃ next emitted, state.translateEvent stamp codec event = .ok (next, emitted) ∧
      ∀ event ∈ emitted, isCompleted event.toJson = false := by
  rw [ChatToResponsesState.translateEvent, if_neg (by simp [unended])]
  simp only [choices]
  split
  · refine ⟨((state.metered stamp event).finish stamp codec).1,
      ((state.metered stamp event).finish stamp codec).2, rfl, ?_⟩
    obtain ⟨before, last, response, events, plain, terminal, same⟩ :=
      @ChatToResponsesState.finish_events stamp codec (state.metered stamp event) unended
    rw [events]
    refine List.forall_mem_append.2 ⟨?_, ?_⟩
    · exact fun event member => ResponsesEvent.not_completed_of_plain (plain event member)
    · rw [List.forall_mem_singleton]
      refine ResponsesEvent.not_completed_of_incomplete terminal ?_
      rw [same]
      exact reason
  · exact ⟨_, _, rfl, by simp⟩

-- An incomplete response is no completed one, so that the usage can be released with it.
theorem Streaming.finishIncomplete {state : TranslatedStreamState} (streaming : state.Streaming)
    (history : settings.keepsHistory = true) (ended : state.incomplete = true)
    {canonicalizer : ChatStreamCanonicalizer} {usage : Json} {forwarded : TranslatedStreamState}
    {error : Option GatewayError}
    (done : state.forwardLastEvents settings
      [.object (canonicalizer.envelope [] ++ [("usage", usage)])] = (forwarded, error)) :
    forwarded.HistoryMatches ∧ (forwarded.finishTranslator settings).1.HistoryMatches := by
  obtain ⟨translator, isOpen, unended⟩ := streaming.unended
  have reason : translator.incompleteReason.isSome := by simpa [incomplete, isOpen] using ended
  obtain ⟨next, emitted, translated, plain⟩ :=
    @translateUsage_incomplete settings.responseStamp settings.codec _
      (.object (canonicalizer.envelope [] ++ [("usage", usage)])) unended reason
      (by simp [ChatStreamCanonicalizer.envelope, Json.asArray])
  have quiet : ∀ event ∈ emitted.map ResponsesEvent.toJson, isCompleted event = false := by
    simpa using plain
  rw [TranslatedStreamState.forwardLastEvents, isOpen, StreamTranslator.translateEvent,
    translated] at done
  simp only [Except.map, TranslatedStreamState.forwardLastEvents, Prod.mk.injEq] at done
  obtain ⟨rfl, -⟩ := done
  obtain ⟨commitTracker, number, observed, pending, pushed⟩ := @pushTranslated_eq settings
    ({ state with translator := .chatToResponses next } : TranslatedStreamState)
    (emitted.map ResponsesEvent.toJson)
  have unpushed := List.forall_mem_append.2 ⟨streaming.pushed, quiet⟩
  have matching : (({ state with translator := .chatToResponses next } :
      TranslatedStreamState).pushTranslated settings
        (emitted.map ResponsesEvent.toJson)).HistoryMatches := by
    rw [pushed]
    refine ⟨fun event member completed => ?_, streaming.historyMatches.once⟩
    simp [unpushed event member] at completed
  refine ⟨matching, ?_⟩
  cases completed : next.completedEmitted with
  | true => exact finishTranslator_ended matching (by rw [pushed]) completed
  | false =>
    refine Streaming.finishTranslator ?_ history
    rw [pushed]
    exact ⟨⟨next, rfl, completed⟩, streaming.unstored, unpushed, streaming.offered⟩

theorem Streaming.finishStream {state : TranslatedStreamState} (streaming : state.Streaming)
    (history : settings.keepsHistory = true) (kept : state.releasesUsage = false)
    (streamEnd : StreamEnd) : (state.finishStream settings streamEnd).1.HistoryMatches := by
  unfold TranslatedStreamState.finishStream
  split
  · exact streaming.historyMatches
  · split
    · exact streaming.finishTranslator history
    · next canonicalizer found =>
      have taken : ({ state with canonicalizer := none } : TranslatedStreamState).Streaming :=
        ⟨streaming.unended, streaming.unstored, streaming.pushed, streaming.offered⟩
      dsimp only
      split
      · split <;> exact taken.historyMatches
      · next events finished =>
        have parts := finished
        simp only [ChatStreamCanonicalizer.finish] at parts
        cases ended : canonicalizer.terminalEvents with
        | error error => simp [ended, bind, Except.bind] at parts
        | ok terminals =>
          simp only [ended, bind, Except.bind, Except.ok.injEq] at parts
          subst parts
          cases held : canonicalizer.usage with
          | none =>
            have last := @Streaming.forwardLastEvents settings _ taken _
              (ChatStreamCanonicalizer.terminalEvents_hasChoices ended)
            simp only [ChatStreamCanonicalizer.usageEvents, held, List.append_nil]
            split
            · next forwarded error done =>
              rw [done] at last
              exact last.historyMatches
            · next forwarded done =>
              rw [done] at last
              exact last.finishTranslator history
          | some usage =>
            have incomplete : canonicalizer.missingChoices.isEmpty = true ∧
                state.incomplete = true := by
              simpa [releasesUsage, found, held, finished, Except.isOk, Except.toBool] using kept
            have none : terminals = [] := by
              rw [ChatStreamCanonicalizer.terminalEvents, if_pos incomplete.1] at ended
              exact (Except.ok.inj ended).symm
            simp only [ChatStreamCanonicalizer.usageEvents, held, none, List.nil_append]
            split
            · next forwarded error done =>
              exact (taken.finishIncomplete history incomplete.2 done).1
            · next forwarded done =>
              exact (taken.finishIncomplete history incomplete.2 done).2

theorem forwardEvents_canonicalizer (state : TranslatedStreamState) (events : List Json) :
    (state.forwardEvents settings events).1.canonicalizer = state.canonicalizer := by
  induction events generalizing state with
  | nil => rfl
  | cons event rest ih =>
    rw [forwardEvents]
    split
    · rfl
    · next translator translated done =>
      obtain ⟨commitTracker, number, observed, pending, pushed⟩ := @pushTranslated_eq settings
        (({ state with translator } : TranslatedStreamState).observeTranslated settings translated)
        translated
      rw [ih, pushed, observeTranslated]
      dsimp only
      split <;> rfl

theorem Streaming.handleEvent {state : TranslatedStreamState} (streaming : state.Streaming)
    (canonical : state.canonicalizer.isSome = true) (event : Json) :
    (state.handleEvent settings event).1.Streaming ∧
      (state.handleEvent settings event).1.canonicalizer.isSome = true := by
  unfold TranslatedStreamState.handleEvent
  split
  · exact ⟨streaming, canonical⟩
  · dsimp only
    split
    · next missing => simp [missing] at canonical
    · split
      · exact ⟨⟨streaming.unended, streaming.unstored, streaming.pushed, streaming.offered⟩,
          canonical⟩
      · next pushed events done =>
        refine ⟨Streaming.forwardEvents ?_ (ChatStreamCanonicalizer.push_hasChoices done), ?_⟩
        · exact ⟨streaming.unended, streaming.unstored, streaming.pushed, streaming.offered⟩
        · rw [forwardEvents_canonicalizer]
          rfl

/-- No `[DONE]` frame finds the stream with a usage to release. -/
def FinishesKept (settings : ForwardSettings) (state : TranslatedStreamState)
    (frame : List UInt8) (_ : Nat) : Prop :=
  frameContent settings.codec frame = .done → state.releasesUsage = false

instance (settings : ForwardSettings) (state : TranslatedStreamState) (frame : List UInt8)
    (length : Nat) : Decidable (FinishesKept settings state frame length) :=
  inferInstanceAs (Decidable (_ → _))

theorem handleFrame_leaves (history : settings.keepsHistory = true)
    (state : TranslatedStreamState) (frame : List UInt8) (delimiterLength : Nat)
    (streaming : state.Streaming ∧ state.canonicalizer.isSome = true)
    (kept : FinishesKept settings state frame delimiterLength) :
    (state.handleFrame settings frame delimiterLength).Leaves
      (fun state => state.Streaming ∧ state.canonicalizer.isSome = true)
      (fun state _ => state.HistoryMatches) := by
  obtain ⟨streaming, canonical⟩ := streaming
  have counted : ({ state with counters := state.counters.receive frame delimiterLength } :
      TranslatedStreamState).Streaming :=
    ⟨streaming.unended, streaming.unstored, streaming.pushed, streaming.offered⟩
  unfold FinishesKept at kept
  unfold handleFrame
  dsimp only
  split
  · exact counted.historyMatches
  · exact counted.historyMatches
  · split
    · exact ⟨⟨streaming.unended, streaming.unstored, streaming.pushed, streaming.offered⟩,
        canonical⟩
    · exact ⟨counted, canonical⟩
  · exact ⟨counted, canonical⟩
  · next done =>
    have finished := counted.finishStream history (kept done) .done
    revert finished
    generalize TranslatedStreamState.finishStream settings _ .done = result
    obtain ⟨finished, _ | error⟩ := result <;> exact fun matching => matching
  · unfold handleMalformed
    split
    · exact counted.historyMatches
    · dsimp only
      split
      · exact ⟨streaming.historyMatches.offered, streaming.historyMatches.once⟩
      · exact ⟨⟨streaming.unended, streaming.unstored, streaming.pushed, streaming.offered⟩,
          canonical⟩
  · next event found =>
    have handled := @Streaming.handleEvent settings _ counted canonical event
    revert handled
    generalize TranslatedStreamState.handleEvent settings _ event = result
    obtain ⟨forwarded, _ | error⟩ := result
    · exact fun handled => handled
    · exact fun handled => handled.1.historyMatches

theorem Streaming.deliverPending {state : TranslatedStreamState} (streaming : state.Streaming) :
    state.deliverPending.Streaming :=
  ⟨streaming.unended, streaming.unstored, streaming.pushed, streaming.offered⟩

theorem HistoryMatches.deliverPending {state : TranslatedStreamState}
    (matching : state.HistoryMatches) : state.deliverPending.HistoryMatches :=
  ⟨matching.offered, matching.once⟩

end TranslatedStreamState

def chatStream (toolRegistry : Option ToolAdapterRegistry) (toolCallMergeStrict : Bool)
    (id model : String) (created : Nat) (commitTracker : StreamCommitTracker) :
    TranslatedStreamState where
  translator := .chatToResponses { toolRegistry, toolCallMergeStrict }
  canonicalizer := some { id, model, created }
  commitTracker := commitTracker

open TranslatedStreamState in
theorem completed_events_offered (settings : ForwardSettings)
    (toolRegistry : Option ToolAdapterRegistry) (toolCallMergeStrict : Bool) (id model : String)
    (created : Nat) (commitTracker : StreamCommitTracker) (chunks : List (List UInt8))
    (history : settings.keepsHistory = true)
    (kept : FrameLoop.RunAlong (handleFrame settings) deliverPending sseDelimiter
      (FinishesKept settings)
      (chatStream toolRegistry toolCallMergeStrict id model created commitTracker) [] chunks) :
    ∃ progress,
      FrameLoop.run nextSseFrame (handleFrame settings) deliverPending
          (chatStream toolRegistry toolCallMergeStrict id model created commitTracker) [] chunks =
        some progress ∧
      progress.state.HistoryMatches ∧
      ((progress.verdict = .goesOn → progress.state.releasesUsage = false) →
        ∃ outcome,
          FrameLoop.runToEnd nextSseFrame (handleFrame settings) deliverPending
              (finishStream settings · .eof)
              (chatStream toolRegistry toolCallMergeStrict id model created commitTracker) chunks =
            some outcome ∧
          outcome.state.HistoryMatches) := by
  have start : (chatStream toolRegistry toolCallMergeStrict id model created
      commitTracker).Streaming :=
    ⟨⟨_, rfl, rfl⟩, rfl, by simp [chatStream], by simp [chatStream]⟩
  obtain ⟨progress, ran, left⟩ := FrameLoop.run_leaves (handleFrame_leaves history)
    (fun state streaming => ⟨streaming.1.deliverPending, streaming.2⟩)
    (fun state _ matching => matching.deliverPending) ⟨start, rfl⟩ kept
  rw [← funext nextSseFrame_eq] at ran
  unfold FrameLoop.Progress.Leaves at left
  refine ⟨progress, ran, ?_, fun keptAtEnd => ?_⟩
  · split at left
    · exact left.1.historyMatches
    · exact left
    · exact left
  · simp only [FrameLoop.runToEnd, ran, Option.map_some, Option.some.injEq, exists_eq_left',
      FrameLoop.Progress.close]
    cases verdict : progress.verdict with
    | goesOn =>
      rw [verdict] at left
      exact (left.1.finishStream history (keptAtEnd verdict) .eof).deliverPending
    | failed error =>
      rw [verdict] at left
      exact left
    | ended =>
      rw [verdict] at left
      exact left

def printedCodec (values : List Json) : JsonCodec :=
  serdeCodec fun text =>
    [values.find? fun value => String.ofList (serdePrint value) = text]

def dataFrame (value : Json) : List UInt8 :=
  Text.utf8 ("data: ".toList ++ serdePrint value ++ "\n\n".toList)

def greetingChunk : Json :=
  .object [("choices", .array [.object [("index", .ofNat 0),
    ("delta", .object [("content", .string "Hi")]), ("finish_reason", .string "stop")]])]

def usageChunk : Json :=
  .object [("choices", .array []),
    ("usage", .object [("prompt_tokens", .ofNat 1), ("completion_tokens", .ofNat 1)])]

def greetingSettings : ForwardSettings where
  codec := printedCodec [greetingChunk, usageChunk]
  endpoint := .responses
  splitDecodeCode := true
  maxSkippedBadFrames := 3
  keepsHistory := true
  responseStamp := ⟨"resp_1", "rs_1", "msg_1", fun _ => "call_1", 0⟩
  chatStamp := ⟨"chatcmpl-1", 0⟩
  downstreamResponseId := "resp_2"

open TranslatedStreamState in
theorem completed_events_offered_without_usage :
    ∃ progress,
      FrameLoop.run nextSseFrame (handleFrame greetingSettings) deliverPending
          (chatStream none true "chatcmpl-1" "model" 0 {}) []
          [dataFrame greetingChunk, sseDoneFrame] =
        some progress ∧
      progress.state.HistoryMatches := by
  obtain ⟨progress, ran, matching, -⟩ := completed_events_offered greetingSettings none true
    "chatcmpl-1" "model" 0 {} [dataFrame greetingChunk, sseDoneFrame] rfl (by decide +kernel)
  exact ⟨progress, ran, matching⟩

-- The completed response is an event of the kept usage, which no one offers.
open TranslatedStreamState in
theorem usage_completes_without_offer :
    ∃ outcome,
      FrameLoop.runToEnd nextSseFrame (handleFrame greetingSettings) deliverPending
          (finishStream greetingSettings · .eof) (chatStream none true "chatcmpl-1" "model" 0 {})
          [dataFrame greetingChunk, dataFrame usageChunk, sseDoneFrame] =
        some outcome ∧
      outcome.error = none ∧ ¬ outcome.state.HistoryMatches := by
  have observed : (FrameLoop.runToEnd nextSseFrame (handleFrame greetingSettings) deliverPending
      (finishStream greetingSettings · .eof) (chatStream none true "chatcmpl-1" "model" 0 {})
      [dataFrame greetingChunk, dataFrame usageChunk, sseDoneFrame]).map
        (fun outcome => (outcome.error, outcome.state.trace.offered.any isCompleted,
          outcome.state.trace.pushed.any isCompleted)) =
      some (none, false, true) := by
    decide +kernel
  obtain ⟨outcome, ran, seen⟩ := Option.map_eq_some_iff.1 observed
  obtain ⟨fine, unoffered, pushed⟩ : outcome.error = none ∧
      outcome.state.trace.offered.any isCompleted = false ∧
      outcome.state.trace.pushed.any isCompleted = true := by
    simpa using seen
  refine ⟨outcome, ran, fine, fun matching => ?_⟩
  obtain ⟨event, member, completed⟩ := List.any_eq_true.1 pushed
  have offered := List.any_eq_false.1 unoffered event (matching.offered event member completed)
  exact offered completed

end ChatGateway
