import ChatGateway.Protocol.EventStream
import ChatGateway.Protocol.TerminalEvents
import ChatGateway.Stream.StreamEvents

set_option autoImplicit false

/-!
# The commit tracker in both dialects

A stream may be replayed until its tracker has seen output. The tracker of a Chat client reads the
chunks, that of a Responses client the translated events, and the two do not count the same things.
-/

namespace ChatGateway

namespace StreamCommitTracker

def observeAll (tracker : StreamCommitTracker) (endpoint : EndpointKind) (events : List Json) :
    StreamCommitTracker :=
  events.foldl (fun tracker event => tracker.observeJson endpoint event) tracker

def canReplay (tracker : StreamCommitTracker) : Bool :=
  !tracker.semanticOutputObserved

def chunkIsSemantic (chunk : Json) : Bool :=
  (((chunk.get "choices").bind Json.asArray).getD []).any chatChoiceIsSemantic

def choiceFinished (choice : Json) : Bool :=
  (choice.get "finish_reason").any fun reason => !reason.isNull

def chunkFinishes (chunk : Json) : Bool :=
  (((chunk.get "choices").bind Json.asArray).getD []).any choiceFinished

theorem observeAll_chat (tracker : StreamCommitTracker) (chunks : List Json) :
    tracker.observeAll .chatCompletions chunks =
      { semanticOutputObserved := tracker.semanticOutputObserved || chunks.any chunkIsSemantic
        terminalObserved := tracker.terminalObserved || chunks.any chunkFinishes } := by
  induction chunks generalizing tracker with
  | nil => simp [observeAll]
  | cons chunk rest ih =>
    rw [observeAll, List.foldl_cons, ← observeAll, ih]
    simp only [List.any_cons, ← Bool.or_assoc]
    rfl

theorem observeAll_responses (tracker : StreamCommitTracker) (events : List Json) :
    tracker.observeAll .responses events =
      { semanticOutputObserved :=
          tracker.semanticOutputObserved || events.any responsesEventIsSemantic
        terminalObserved :=
          tracker.terminalObserved ||
            events.any fun event => event.str "type" = some "response.completed" } := by
  induction events generalizing tracker with
  | nil => simp [observeAll]
  | cons event rest ih =>
    rw [observeAll, List.foldl_cons, ← observeAll, ih]
    simp only [List.any_cons, ← Bool.or_assoc]
    rfl

end StreamCommitTracker

def OutputItem.shown : OutputItem → Bool
  | .reasoning .. => false
  | .message _ _ text => text.any (· ≠ "")
  | .functionCall _ callId name _ arguments _ => callId ≠ "" || name ≠ "" || arguments ≠ ""

def ResponsesEventBody.shown : ResponsesEventBody → Bool
  | .itemAdded _ _ item => item.shown
  | .itemDone _ _ item => item.shown
  | .delta channel _ _ _ fragment => channel ≠ .reasoning && fragment ≠ ""
  | _ => false

def ResponsesEventBody.completes (body : ResponsesEventBody) : Bool :=
  body.terminal?.any fun response => response.incompleteReason.isNone

theorem responseOutputItemIsSemantic_toJson (item : OutputItem) :
    responseOutputItemIsSemantic item.toJson = item.shown := by
  cases item with
  | reasoning => rfl
  | message id status text =>
    cases text <;>
      simp [responseOutputItemIsSemantic, OutputItem.toJson, OutputItem.shown, hasNonEmptyString,
        Json.str, Json.asStr, valueHasSemanticPayload, anyHasSemanticPayload,
        anyFieldHasSemanticPayload]
  | functionCall id callId name group arguments status =>
    simp [responseOutputItemIsSemantic, OutputItem.toJson, OutputItem.shown, hasNonEmptyString,
      Json.str, Json.asStr]

theorem responsesEventIsSemantic_toJson (event : ResponsesEvent) :
    responsesEventIsSemantic event.toJson = event.body.shown := by
  obtain ⟨number, body⟩ := event
  cases body with
  | created => rfl
  | itemAdded responseId outputIndex item =>
    simp [responsesEventIsSemantic, ResponsesEvent.toJson, ResponsesEventBody.shown, Json.str,
      Json.asStr, responseOutputItemIsSemantic_toJson]
  | delta channel =>
    cases channel <;>
      simp [responsesEventIsSemantic, ResponsesEvent.toJson, ResponsesEventBody.shown, Json.str,
        Json.asStr, ResponsesEvent.deltaType, hasNonEmptyString]
  | done channel => cases channel <;> rfl
  | itemDone responseId outputIndex item =>
    simp [responsesEventIsSemantic, ResponsesEvent.toJson, ResponsesEventBody.shown, Json.str,
      Json.asStr, responseOutputItemIsSemantic_toJson]
  | terminal response =>
    cases ended : response.incompleteReason <;>
      simp [responsesEventIsSemantic, ResponsesEvent.toJson, ResponsesEventBody.shown, Json.str,
        Json.asStr, ended]

theorem isCompleted_toJson (event : ResponsesEvent) :
    decide (event.toJson.str "type" = some "response.completed") = event.body.completes := by
  obtain ⟨number, body⟩ := event
  cases body with
  | created => rfl
  | itemAdded => rfl
  | delta channel => cases channel <;> rfl
  | done channel => cases channel <;> rfl
  | itemDone => rfl
  | terminal response =>
    cases ended : response.incompleteReason <;>
      simp [ResponsesEvent.toJson, ResponsesEventBody.completes, ResponsesEventBody.terminal?,
        Json.str, Json.asStr, ended]

namespace ChatToResponsesState

variable {stamp : ResponseStamp} {codec : JsonCodec}

structure Silent (before : ChatToResponsesState) (result : Emitted) : Prop where
  toolCalls : result.1.toolCalls = before.toolCalls
  text : result.1.textItemAddedEmitted = before.textItemAddedEmitted
  events : ∀ event ∈ result.2, event.body.shown = false

theorem Silent.still (state : ChatToResponsesState) : Silent state (state, []) :=
  ⟨rfl, rfl, by simp⟩

theorem Silent.push {before : ChatToResponsesState} (state : ChatToResponsesState)
    {body : ResponsesEventBody} (same : Silent before (state, [])) (hidden : body.shown = false) :
    Silent before (state.push body) where
  toolCalls := same.toolCalls
  text := same.text
  events event member := by
    obtain rfl := List.mem_singleton.1 member
    exact hidden

theorem Silent.andThen {state : ChatToResponsesState} {first : Emitted}
    {next : ChatToResponsesState → Emitted} (silent : Silent state first)
    (later : Silent first.1 (next first.1)) : Silent state (andThen first next) where
  toolCalls := later.toolCalls.trans silent.toolCalls
  text := later.text.trans silent.text
  events event member := by
    rcases List.mem_append.1 member with earlier | behind
    · exact silent.events event earlier
    · exact later.events event behind

theorem emitCreated_silent (state : ChatToResponsesState) :
    Silent state (state.emitCreated stamp) := by
  unfold emitCreated
  split
  · exact .still state
  · exact .push _ ⟨rfl, rfl, by simp⟩ rfl

-- The tracker knows the deltas of a reasoning summary, and these are deltas of a reasoning text.
theorem emitReasoningDelta_silent (state : ChatToResponsesState) (delta : String) :
    Silent state (state.emitReasoningDelta stamp delta) := by
  cases found : state.reasoning with
  | none =>
    simp only [emitReasoningDelta, found]
    refine .andThen (.push _ ⟨rfl, rfl, by simp⟩ rfl) (.push _ ?_ rfl)
    exact .still _
  | some reasoning =>
    simp only [emitReasoningDelta, found]
    refine .andThen ?_ (.push _ (.still _) rfl)
    split
    · exact ⟨rfl, rfl, by simp⟩
    · exact .push _ ⟨rfl, rfl, by simp⟩ rfl

theorem emitReasoningDone_silent (state : ChatToResponsesState) :
    Silent state (state.emitReasoningDone stamp) := by
  unfold emitReasoningDone
  split
  · exact .still state
  · split
    · exact .still state
    · exact .andThen (.push _ ⟨rfl, rfl, by simp⟩ rfl) (.push _ (.still _) rfl)

theorem beginOutput_silent (state : ChatToResponsesState) : Silent state (state.beginOutput stamp) :=
  (emitCreated_silent state).andThen (emitReasoningDone_silent _)

theorem translateReasoning_silent (state : ChatToResponsesState) (delta : Json) :
    Silent state (state.translateReasoning stamp delta) := by
  unfold translateReasoning
  split
  · exact .still state
  · split
    · exact .still state
    · exact (emitCreated_silent state).andThen (emitReasoningDelta_silent _ _)

theorem translateEnd_silent (state : ChatToResponsesState) (choice delta : Json) :
    Silent state (state.translateEnd stamp choice delta) := by
  have introduced : Silent state
      (if (delta.str "role").isSome then state.emitCreated stamp else (state, [])) := by
    split
    · exact emitCreated_silent state
    · exact .still state
  unfold translateEnd
  dsimp only
  split
  · exact introduced
  · next finishReason found =>
    refine introduced.andThen ?_
    obtain ⟨calls, text, events⟩ := @emitCreated_silent stamp
      { (if (delta.str "role").isSome then state.emitCreated stamp else (state, [])).1 with
        incompleteReason := responsesIncompleteReason (some finishReason) }
    exact ⟨calls, text, events⟩

structure BlankCall (call : ChatToolCallState) : Prop where
  arguments : call.arguments = ""
  added : call.addedEmitted = true
  undone : call.doneEmitted = false
  synced : call.clientDeltaDesynced = false

structure Hidden (state : ChatToResponsesState) : Prop where
  text : state.textItemAddedEmitted = false
  calls : ∀ key call, state.toolCalls.find? key = some call → BlankCall call

theorem Hidden.silent {before : ChatToResponsesState} {result : Emitted} (hidden : Hidden before)
    (silent : Silent before result) : Hidden result.1 where
  text := silent.text.trans hidden.text
  calls := by
    rw [silent.toolCalls]
    exact hidden.calls

def showsOutput (events : List ResponsesEvent) : Bool :=
  events.any fun event => event.body.shown

@[simp] theorem showsOutput_append (first second : List ResponsesEvent) :
    showsOutput (first ++ second) = (showsOutput first || showsOutput second) :=
  List.any_append

theorem Silent.shows {before : ChatToResponsesState} {result : Emitted}
    (silent : Silent before result) : showsOutput result.2 = false := by
  rw [showsOutput, List.any_eq_false]
  intro event member
  rw [silent.events event member]
  exact Bool.false_ne_true

/-! ### Fragments of tool calls -/

def fragmentShown (state : ChatToResponsesState) (key : Nat) (named : Bool) (arguments : String) :
    Bool :=
  arguments ≠ "" || (state.toolCalls.find? key).isNone && named

theorem emitFragment_shows {state : ChatToResponsesState} (hidden : Hidden state) (key : Nat)
    (callId : String) (name : Option String) (arguments : String)
    (restore : String → String × Option String) :
    showsOutput (state.emitFragment stamp codec key callId name arguments restore).2 =
        state.fragmentShown key (callId ≠ "" || (restore (name.getD "")).1 ≠ "") arguments ∧
      (showsOutput (state.emitFragment stamp codec key callId name arguments restore).2 = false →
        Hidden (state.emitFragment stamp codec key callId name arguments restore).1) := by
  have kept : ∀ merged, BlankCall merged → ∀ other call,
      (state.toolCalls.put key merged).find? other = some call → BlankCall call := by
    intro merged blank other call found
    rw [OrderedMap.find?_put] at found
    split at found
    · cases found
      exact blank
    · exact hidden.calls other call found
  cases known : state.toolCalls.find? key with
  | some call =>
    have blank := hidden.calls key call known
    by_cases empty : arguments = ""
    · simp only [emitFragment, known, Option.getD_some, mergeFragment, if_pos empty, blank.added,
        Bool.not_true, Bool.false_eq_true, if_false, andThen, fragmentShown]
      refine ⟨by simp [showsOutput, empty], fun _ => ⟨hidden.text, kept _ ?_⟩⟩
      exact ⟨blank.arguments, rfl, blank.undone, blank.synced⟩
    · have shown : showsOutput
          (state.emitFragment stamp codec key callId name arguments restore).2 = true := by
        simp [emitFragment, known, mergeFragment, empty, mergeToolCallArguments, nameEntry,
          blank.arguments, blank.added, blank.synced, andThen, push, showsOutput,
          ResponsesEventBody.shown]
      rw [shown]
      exact ⟨by simp [fragmentShown, empty], fun contrary => absurd contrary (by simp)⟩
  | none =>
    by_cases empty : arguments = ""
    · simp only [emitFragment, known, Option.getD_none, mergeFragment, if_pos empty, Bool.not_false,
        if_true, andThen, push, fragmentShown]
      refine ⟨?_, fun _ => ⟨hidden.text, kept _ ⟨rfl, rfl, rfl, rfl⟩⟩⟩
      simp [showsOutput, ResponsesEventBody.shown, OutputItem.shown, empty, nameEntry]
    · have shown : showsOutput
          (state.emitFragment stamp codec key callId name arguments restore).2 = true := by
        simp [emitFragment, known, mergeFragment, empty, mergeToolCallArguments, nameEntry, andThen,
          push, showsOutput, ResponsesEventBody.shown]
      rw [shown]
      exact ⟨by simp [fragmentShown, empty], fun contrary => absurd contrary (by simp)⟩

def toolCallShown (state : ChatToResponsesState) (toolCall : Json) (position : Nat) : Bool :=
  match toolCall.asObject with
  | none => false
  | some object =>
    match extractToolCallDetails object with
    | none => false
    | some (name, arguments) =>
      state.fragmentShown (state.toolCallKey object (callIdHint object) name position)
        (callIdHint object ≠ some "" || (state.restoredToolIdentity (name.getD "")).1 ≠ "") arguments

theorem emitChatToolCallDelta_shows {state : ChatToResponsesState} (hidden : Hidden state)
    (issued : ∀ key, stamp.callId key ≠ "") {toolCall : Json} {position : Nat} {result : Emitted}
    (emitted : state.emitChatToolCallDelta stamp codec toolCall position = .ok result) :
    showsOutput result.2 = state.toolCallShown toolCall position ∧
      (showsOutput result.2 = false → Hidden result.1) := by
  unfold emitChatToolCallDelta at emitted
  unfold toolCallShown
  cases found : toolCall.asObject with
  | none =>
    rw [found] at emitted
    cases emitted
  | some object =>
    rw [found] at emitted
    dsimp only at emitted ⊢
    cases carried : extractToolCallDetails object with
    | none =>
      rw [carried] at emitted
      obtain rfl := Except.ok.inj emitted
      exact ⟨rfl, fun _ => hidden⟩
    | some details =>
      obtain ⟨name, arguments⟩ := details
      rw [carried] at emitted
      obtain rfl := Except.ok.inj emitted
      dsimp only
      generalize state.toolCallKey object (callIdHint object) name position = key
      have shows := @emitFragment_shows stamp codec _ hidden key
        ((callIdHint object).getD (stamp.callId key)) name arguments state.restoredToolIdentity
      have given : decide ((callIdHint object).getD (stamp.callId key) ≠ "") =
          decide (callIdHint object ≠ some "") := by
        cases callIdHint object with
        | none => simp [issued key]
        | some callId => simp
      rw [given] at shows
      exact shows

def toolCallsShown (stamp : ResponseStamp) (codec : JsonCodec) (state : ChatToResponsesState)
    (position : Nat) : List Json → Bool
  | [] => false
  | toolCall :: rest =>
    let begun := (state.beginOutput stamp).1
    begun.toolCallShown toolCall position ||
      match begun.emitChatToolCallDelta stamp codec toolCall position with
      | .error _ => false
      | .ok emitted => toolCallsShown stamp codec emitted.1 (position + 1) rest

theorem translateToolCalls_shows {state : ChatToResponsesState} (hidden : Hidden state)
    (issued : ∀ key, stamp.callId key ≠ "") {position : Nat} {toolCalls : List Json}
    {result : Emitted}
    (translated : state.translateToolCalls stamp codec position toolCalls = .ok result) :
    showsOutput result.2 = state.toolCallsShown stamp codec position toolCalls ∧
      (showsOutput result.2 = false → Hidden result.1) := by
  induction toolCalls generalizing state position result with
  | nil =>
    cases translated
    exact ⟨rfl, fun _ => hidden⟩
  | cons toolCall rest ih =>
    simp only [translateToolCalls] at translated
    have begun := @beginOutput_silent stamp state
    split at translated
    next => cases translated
    next emitted isEmitted =>
      split at translated
      next => cases translated
      next later isLater =>
        cases translated
        obtain ⟨shows, still⟩ := emitChatToolCallDelta_shows (hidden.silent begun) issued isEmitted
        simp only [toolCallsShown, isEmitted, showsOutput_append, begun.shows, Bool.false_or,
          ← shows]
        cases shown : showsOutput emitted.2 with
        | true => exact ⟨by rw [Bool.true_or, Bool.true_or], fun contrary => by simp at contrary⟩
        | false =>
          rw [Bool.false_or, Bool.false_or]
          exact ih (still shown) isLater

/-! ### Chunks -/

def functionCallShown (state : ChatToResponsesState) (delta : Json) : Bool :=
  match (delta.get "function_call").bind Json.asObject with
  | none => false
  | some object =>
    state.fragmentShown 0
      (callIdHint object ≠ some "" || (Json.field object "name").bind Json.asStr ≠ some "")
      (((Json.field object "arguments").bind Json.asStr).getD "")

theorem translateFunctionCall_shows {state : ChatToResponsesState} (hidden : Hidden state)
    {delta : Json} {result : Emitted}
    (translated : state.translateFunctionCall stamp codec delta = .ok result) :
    showsOutput result.2 = (state.beginOutput stamp).1.functionCallShown delta ∧
      (showsOutput result.2 = false → Hidden result.1) := by
  unfold translateFunctionCall at translated
  unfold functionCallShown
  split at translated
  next missing =>
    cases translated
    simp only [missing, Option.bind_none]
    exact ⟨rfl, fun _ => hidden⟩
  next functionCall found =>
    have begun := @beginOutput_silent stamp state
    simp only [found, Option.bind_some, emitChatFunctionCallDelta] at translated ⊢
    cases isObject : functionCall.asObject with
    | none =>
      rw [isObject] at translated
      cases translated
    | some object =>
      rw [isObject] at translated
      cases identified : callIdHint object with
      | none =>
        simp only [identified] at translated
        cases translated
      | some callId =>
        simp only [identified] at translated
        cases named : (Json.field object "name").bind Json.asStr with
        | none =>
          simp only [named] at translated
          cases translated
        | some name =>
          simp only [named] at translated
          cases translated
          obtain ⟨shows, still⟩ := @emitFragment_shows stamp codec _ (hidden.silent begun) 0 callId
            (some name) (((Json.field object "arguments").bind Json.asStr).getD "")
            fun name => (name, none)
          rw [showsOutput_append, begun.shows, Bool.false_or]
          exact ⟨by simpa [identified, named] using shows, still⟩

def StringContent (delta : Json) : Prop :=
  ∀ content, delta.get "content" = some content → content = .null ∨ ∃ text, content = .string text

theorem translateContent_shows {state : ChatToResponsesState} (hidden : Hidden state) {delta : Json}
    (texts : StringContent delta) {result : Emitted}
    (translated : state.translateContent stamp delta = .ok result) :
    showsOutput result.2 = hasNonEmptyString delta "content" ∧
      (showsOutput result.2 = false → Hidden result.1) := by
  unfold translateContent at translated
  split at translated
  next missing =>
    cases translated
    refine ⟨?_, fun _ => hidden⟩
    simp [hasNonEmptyString, Json.str, missing, showsOutput]
  next content found =>
    have carried : hasNonEmptyString delta "content" = content.asStr.any (· ≠ "") := by
      simp [hasNonEmptyString, Json.str, found]
    rcases texts content found with rfl | ⟨text, rfl⟩
    · cases translated
      exact ⟨carried.symm, fun _ => hidden⟩
    · simp only [Json.isNull, Bool.false_eq_true, if_false, contentToPlainText] at translated
      rw [carried]
      split at translated
      next empty =>
        cases translated
        exact ⟨by simp [Json.asStr, empty, showsOutput], fun _ => hidden⟩
      next nonempty =>
        cases translated
        have shown : showsOutput (andThen (state.beginOutput stamp) (emitTextDelta stamp · text)).2 =
            true := by
          simp [andThen, emitTextDelta, push, showsOutput, ResponsesEventBody.shown, nonempty]
        rw [shown]
        exact ⟨by simp [Json.asStr, nonempty], fun contrary => absurd contrary (by simp)⟩

def choiceShown (stamp : ResponseStamp) (codec : JsonCodec) (state : ChatToResponsesState)
    (choice : Json) : Bool :=
  let delta := (choice.get "delta").getD .null
  let toolCalls := ((delta.get "tool_calls").bind Json.asArray).getD []
  hasNonEmptyString delta "content" ||
    match (state.translateReasoning stamp delta).1.translateContent stamp delta with
    | .error _ => false
    | .ok texted =>
      toolCallsShown stamp codec texted.1 0 toolCalls ||
        match texted.1.translateToolCalls stamp codec 0 toolCalls with
        | .error _ => false
        | .ok called => (called.1.beginOutput stamp).1.functionCallShown delta

theorem translateChoice_shows {state : ChatToResponsesState} (hidden : Hidden state)
    (issued : ∀ key, stamp.callId key ≠ "") {choice : Json}
    (texts : StringContent ((choice.get "delta").getD .null)) {result : Emitted}
    (translated : state.translateChoice stamp codec choice = .ok result) :
    showsOutput result.2 = state.choiceShown stamp codec choice ∧
      (showsOutput result.2 = false → Hidden result.1) := by
  simp only [translateChoice] at translated
  have reasoned := @translateReasoning_silent stamp state ((choice.get "delta").getD .null)
  split at translated
  next => cases translated
  next texted isTexted =>
    obtain ⟨content, afterContent⟩ := translateContent_shows (hidden.silent reasoned) texts isTexted
    split at translated
    next => cases translated
    next called isCalled =>
      split at translated
      next => cases translated
      next functioned isFunctioned =>
        cases translated
        have ended := @translateEnd_silent stamp functioned.1 choice
          ((choice.get "delta").getD .null)
        simp only [choiceShown, isTexted, isCalled, showsOutput_append, reasoned.shows,
          ended.shows, Bool.false_or, Bool.or_false, ← content]
        -- nothing later matters once a part of the choice is shown
        cases textShown : showsOutput texted.2 with
        | true => simp
        | false =>
          obtain ⟨calls, afterCalls⟩ := translateToolCalls_shows (afterContent textShown) issued isCalled
          rw [← calls]
          cases callsShown : showsOutput called.2 with
          | true => simp
          | false =>
            obtain ⟨function, afterFunction⟩ :=
              translateFunctionCall_shows (afterCalls callsShown) isFunctioned
            simp only [Bool.false_or]
            exact ⟨function, fun still => (afterFunction still).silent ended⟩

/-! ### The end of a stream -/

theorem emitCallDone_shows {state : ChatToResponsesState} {call : ChatToolCallState}
    (blank : call.arguments = "") : showsOutput (state.emitCallDone stamp codec call).2 = true := by
  -- blank arguments are sent as an empty object
  have filled : (normalizeToolArguments codec "").1 = "\x7b\x7d" := rfl
  simp [emitCallDone, andThen, push, showsOutput, ResponsesEventBody.shown, OutputItem.shown, blank,
    filled]

theorem emitToolCallDone_shows {state : ChatToResponsesState} (hidden : Hidden state) :
    showsOutput (state.emitToolCallDone stamp codec).2 = !state.toolCalls.isEmpty ∧
      (showsOutput (state.emitToolCallDone stamp codec).2 = false →
        Hidden (state.emitToolCallDone stamp codec).1) := by
  unfold emitToolCallDone
  dsimp only
  cases listed : state.toolCalls.entries with
  | nil =>
    have none : state.toolCalls.isEmpty = true := by
      rw [OrderedMap.isEmpty, listed]
      rfl
    have pending : (state.toolCalls.values.filter fun call => !call.doneEmitted) = [] := by
      rw [OrderedMap.values, listed]
      rfl
    rw [none, pending]
    refine ⟨rfl, fun _ => ⟨hidden.text, fun key call found => ?_⟩⟩
    rw [OrderedMap.find?_eq_some] at found
    simp [emitCallsDone, OrderedMap.map, listed] at found
  | cons entry rest =>
    have some : state.toolCalls.isEmpty = false := by
      rw [OrderedMap.isEmpty, listed]
      rfl
    have blank : BlankCall entry.2 := by
      refine hidden.calls entry.1 entry.2 (OrderedMap.find?_eq_some.2 ?_)
      rw [listed]
      exact List.mem_cons_self
    have pending : (state.toolCalls.values.filter fun call => !call.doneEmitted) =
        entry.2 :: (rest.map (·.2)).filter fun call => !call.doneEmitted := by
      rw [OrderedMap.values, listed, List.map_cons, List.filter_cons_of_pos (by simp [blank.undone])]
    have shown : showsOutput (emitCallsDone stamp codec
        { state with toolCalls := state.toolCalls.map fun call => { call with doneEmitted := true } }
        (state.toolCalls.values.filter fun call => !call.doneEmitted)).2 = true := by
      rw [pending, emitCallsDone, andThen, showsOutput_append, emitCallDone_shows blank.arguments]
      rfl
    rw [shown, some]
    exact ⟨rfl, fun contrary => absurd contrary (by simp)⟩

theorem finish_shows {state : ChatToResponsesState} (hidden : Hidden state) :
    showsOutput (state.finish stamp codec).2 =
        (!state.completedEmitted && !state.toolCalls.isEmpty) ∧
      (showsOutput (state.finish stamp codec).2 = false →
        Hidden (state.finish stamp codec).1) := by
  cases ended : state.completedEmitted with
  | true =>
    rw [finish_ended ended]
    exact ⟨rfl, fun _ => hidden⟩
  | false =>
    have begun : Silent state (andThen (state.emitCreated stamp) (emitReasoningDone stamp)) :=
      (emitCreated_silent state).andThen (emitReasoningDone_silent _)
    generalize starts : andThen (state.emitCreated stamp) (emitReasoningDone stamp) = started at begun
    have untold : started.1.emitTextDone stamp = (started.1, []) := by
      simp [emitTextDone, (hidden.silent begun).text]
    obtain ⟨calls, afterCalls⟩ :=
      @emitToolCallDone_shows stamp codec started.1 (hidden.silent begun)
    have finished : state.finish stamp codec =
        andThen (started.1, started.2) fun next =>
          andThen (next.emitToolCallDone stamp codec) (emitTerminal stamp codec) := by
      rw [finish, if_neg (by simp [ended]), starts]
      simp [andThen, untold]
    have terminal : ∀ next : ChatToResponsesState,
        showsOutput (next.emitTerminal stamp codec).2 = false := fun _ => rfl
    rw [finished]
    simp only [andThen, showsOutput_append, begun.shows, terminal, Bool.or_false, Bool.false_or,
      Bool.not_false, Bool.true_and]
    rw [calls, begun.toolCalls]
    refine ⟨rfl, fun still => ?_⟩
    rw [← begun.toolCalls, ← calls] at still
    obtain ⟨text, blank⟩ := afterCalls still
    exact ⟨text, blank⟩

/-! ### Chunks and runs -/

/-- Whether a Responses client is shown output for a chunk. Calls that are open at the end of the
stream are shown then. -/
def chunkShown (stamp : ResponseStamp) (codec : JsonCodec) (state : ChatToResponsesState)
    (chunk : Json) : Bool :=
  if state.completedEmitted then false
  else
    match (chunk.get "choices").bind Json.asArray with
    | some [] => (chunkUsage chunk).isSome && !state.toolCalls.isEmpty
    | some [choice] => (state.metered stamp chunk).choiceShown stamp codec choice
    | _ => false

def StringContents (chunk : Json) : Prop :=
  ∀ choice ∈ ((chunk.get "choices").bind Json.asArray).getD [],
    StringContent ((choice.get "delta").getD .null)

theorem translateEvent_shows {state : ChatToResponsesState} (hidden : Hidden state)
    (issued : ∀ key, stamp.callId key ≠ "") {chunk : Json} (texts : StringContents chunk)
    {result : Emitted} (translated : state.translateEvent stamp codec chunk = .ok result) :
    showsOutput result.2 = state.chunkShown stamp codec chunk ∧
      (showsOutput result.2 = false → Hidden result.1) := by
  have metered : Hidden (state.metered stamp chunk) := ⟨hidden.text, hidden.calls⟩
  unfold translateEvent at translated
  unfold chunkShown
  split at translated
  next ended =>
    cases translated
    rw [if_pos ended]
    exact ⟨rfl, fun _ => hidden⟩
  next unended =>
    rw [if_neg unended]
    split at translated
    next absent =>
      cases translated
      rw [absent]
      exact ⟨rfl, fun _ => metered⟩
    next empty =>
      rw [empty]
      have finished := @finish_shows stamp codec _ metered
      have unfinished : (state.metered stamp chunk).completedEmitted = false :=
        Bool.not_eq_true _ ▸ unended
      split at translated
      next used =>
        cases translated
        rw [unfinished] at finished
        rw [Bool.not_false, Bool.true_and] at finished
        rw [used, Bool.true_and]
        exact finished
      next unused =>
        cases translated
        simp only [Bool.not_eq_true] at unused
        rw [unused]
        exact ⟨rfl, fun _ => metered⟩
    next choice single =>
      rw [single]
      exact translateChoice_shows metered issued (texts choice (by rw [single]; simp)) translated
    next => cases translated

def translateChunks (stamp : ResponseStamp) (codec : JsonCodec) :
    ChatToResponsesState → List Json → Except ProtocolError Emitted
  | state, [] => .ok (state, [])
  | state, chunk :: rest =>
    match state.translateEvent stamp codec chunk with
    | .error error => .error error
    | .ok emitted =>
      match translateChunks stamp codec emitted.1 rest with
      | .error error => .error error
      | .ok later => .ok (later.1, emitted.2 ++ later.2)

/-- Up to the first chunk that a Responses client is shown output for, the chunks that the Chat
tracker counts are those a Responses client is shown output for. -/
def ShownWhenCounted (stamp : ResponseStamp) (codec : JsonCodec) :
    ChatToResponsesState → List Json → Prop
  | _, [] => True
  | state, chunk :: rest =>
    StreamCommitTracker.chunkIsSemantic chunk = state.chunkShown stamp codec chunk ∧
      (StreamCommitTracker.chunkIsSemantic chunk = false →
        ∀ emitted, state.translateEvent stamp codec chunk = .ok emitted →
          ShownWhenCounted stamp codec emitted.1 rest)

def SameOutput (stamp : ResponseStamp) (codec : JsonCodec) (state : ChatToResponsesState)
    (chunks : List Json) : Prop :=
  ∀ seen rest emitted, chunks = seen ++ rest →
    state.translateChunks stamp codec seen = .ok emitted →
      seen.any StreamCommitTracker.chunkIsSemantic = showsOutput emitted.2

theorem sameOutput_iff {state : ChatToResponsesState} (hidden : Hidden state)
    (issued : ∀ key, stamp.callId key ≠ "") {chunks : List Json}
    (texts : ∀ chunk ∈ chunks, StringContents chunk) {result : Emitted}
    (accepted : state.translateChunks stamp codec chunks = .ok result) :
    SameOutput stamp codec state chunks ↔ ShownWhenCounted stamp codec state chunks := by
  induction chunks generalizing state result with
  | nil =>
    refine ⟨fun _ => trivial, fun _ seen rest emitted split translated => ?_⟩
    obtain ⟨rfl, rfl⟩ := List.nil_eq_append_iff.mp split
    cases translated
    rfl
  | cons chunk rest ih =>
    simp only [translateChunks] at accepted
    cases first : state.translateEvent stamp codec chunk with
    | error error =>
      rw [first] at accepted
      cases accepted
    | ok emitted =>
      rw [first] at accepted
      dsimp only at accepted
      cases others : emitted.1.translateChunks stamp codec rest with
      | error error =>
        rw [others] at accepted
        cases accepted
      | ok later =>
        obtain ⟨shows, still⟩ :=
          translateEvent_shows hidden issued (texts chunk List.mem_cons_self) first
        have restTexts := fun other (member : other ∈ rest) =>
          texts other (List.mem_cons_of_mem _ member)
        have unfoldPrefix : ∀ seen result, emitted.1.translateChunks stamp codec seen = .ok result →
            state.translateChunks stamp codec (chunk :: seen) =
              .ok (result.1, emitted.2 ++ result.2) := by
          intro seen result translated
          rw [translateChunks, first]
          dsimp only
          rw [translated]
        constructor
        · intro same
          have here := same [chunk] rest _ rfl (unfoldPrefix [] (emitted.1, []) rfl)
          rw [List.any_cons, List.any_nil, Bool.or_false, showsOutput_append, shows] at here
          have nothing : showsOutput [] = false := rfl
          rw [nothing, Bool.or_false] at here
          refine ⟨here, fun uncounted next translated => ?_⟩
          rw [first] at translated
          cases translated
          have unseen := shows.trans (here.symm.trans uncounted)
          refine (ih (still unseen) restTexts others).mp ?_
          intro seen after result split translated
          have both := same (chunk :: seen) after _ (by rw [split]; rfl)
            (unfoldPrefix seen result translated)
          simpa [uncounted, unseen] using both
        · rintro ⟨here, later⟩ seen after result split translated
          cases seen with
          | nil =>
            cases translated
            rfl
          | cons other seen =>
            obtain ⟨rfl, remaining⟩ := List.cons_eq_cons.mp split
            simp only [translateChunks, first] at translated
            cases behind : emitted.1.translateChunks stamp codec seen with
            | error error =>
              rw [behind] at translated
              cases translated
            | ok next =>
              rw [behind] at translated
              cases translated
              rw [List.any_cons, showsOutput_append, shows, ← here]
              cases counted : StreamCommitTracker.chunkIsSemantic chunk with
              | true => rw [Bool.true_or, Bool.true_or]
              | false =>
                have unseen := shows.trans (here.symm.trans counted)
                rw [Bool.false_or, Bool.false_or]
                exact (ih (still unseen) restTexts others).mpr (later counted emitted first) seen
                  after next remaining behind

/-! ### How a stream ends -/

def reasonAfter (reason : Option IncompleteReason) (choice : Json) : Option IncompleteReason :=
  match choice.str "finish_reason" with
  | none => reason
  | some finishReason => responsesIncompleteReason (some finishReason)

/-- The incomplete reason with which the terminal event of a stream goes out: that of the last
finish reason before the chunk that ends it. -/
def endingReason (reason : Option IncompleteReason) : List Json → Option IncompleteReason
  | [] => reason
  | chunk :: rest =>
    match (chunk.get "choices").bind Json.asArray with
    | some [] => if (chunkUsage chunk).isSome then reason else endingReason reason rest
    | some [choice] => endingReason (reasonAfter reason choice) rest
    | _ => endingReason reason rest

def completes (events : List ResponsesEvent) : Bool :=
  events.any fun event => event.body.completes

theorem completes_of_plain {events : List ResponsesEvent}
    (plain : ∀ event ∈ events, event.body.terminal? = none) : completes events = false := by
  rw [completes, List.any_eq_false]
  intro event member
  rw [ResponsesEventBody.completes, plain event member]
  exact Bool.false_ne_true

theorem completes_append (first second : List ResponsesEvent) :
    completes (first ++ second) = (completes first || completes second) :=
  List.any_append

theorem finish_completes {state : ChatToResponsesState} (unended : state.completedEmitted = false) :
    completes (state.finish stamp codec).2 = state.incompleteReason.isNone := by
  obtain ⟨before, last, response, split, plain, terminal, reason⟩ :=
    @finish_events stamp codec state unended
  have ending : completes [last] = response.incompleteReason.isNone := by
    simp [completes, ResponsesEventBody.completes, ResponsesEventBody.terminal?, terminal]
  rw [split, completes_append, completes_of_plain plain, Bool.false_or, ending, reason]

theorem translateEnd_reason (state : ChatToResponsesState) (choice delta : Json) :
    (state.translateEnd stamp choice delta).1.incompleteReason =
      reasonAfter state.incompleteReason choice := by
  have introduced : Quiet state
      (if (delta.str "role").isSome then state.emitCreated stamp else (state, [])) := by
    split
    · exact emitCreated_quiet state
    · exact .still state
  unfold translateEnd reasonAfter
  cases choice.str "finish_reason" with
  | none => exact introduced.reason
  | some finishReason =>
    exact (@emitCreated_quiet stamp
      { (if (delta.str "role").isSome then state.emitCreated stamp else (state, [])).1 with
        incompleteReason := responsesIncompleteReason (some finishReason) }).reason

theorem translateChoice_reason {state : ChatToResponsesState} {choice : Json} {result : Emitted}
    (translated : state.translateChoice stamp codec choice = .ok result) :
    result.1.incompleteReason = reasonAfter state.incompleteReason choice := by
  simp only [translateChoice] at translated
  split at translated
  next => cases translated
  next texted isTexted =>
    split at translated
    next => cases translated
    next called isCalled =>
      split at translated
      next => cases translated
      next functioned isFunctioned =>
        cases translated
        have reasoning := @translateReasoning_quiet stamp state ((choice.get "delta").getD .null)
        have content := translateContent_quiet isTexted
        have toolCalls := translateToolCalls_quiet isCalled
        have function := translateFunctionCall_quiet isFunctioned
        rw [translateEnd_reason, function.reason, toolCalls.reason, content.reason,
          reasoning.reason]

theorem translateChunks_ended {state : ChatToResponsesState} (ended : state.completedEmitted = true)
    (chunks : List Json) : state.translateChunks stamp codec chunks = .ok (state, []) := by
  induction chunks with
  | nil => rfl
  | cons chunk rest ih =>
    have silent : state.translateEvent stamp codec chunk = .ok (state, []) := if_pos ended
    simp [translateChunks, silent, ih]

theorem finish_ends (state : ChatToResponsesState) :
    (state.finish stamp codec).1.completedEmitted = true := by
  unfold finish
  split
  next ended => exact ended
  next => rfl

-- The stream ends with a completed response exactly when no incomplete reason is left.
theorem stream_completes {state : ChatToResponsesState} (unended : state.completedEmitted = false)
    {chunks : List Json} {result : Emitted}
    (accepted : state.translateChunks stamp codec chunks = .ok result) :
    completes (result.2 ++ (result.1.finish stamp codec).2) =
      (endingReason state.incompleteReason chunks).isNone := by
  induction chunks generalizing state result with
  | nil =>
    cases accepted
    exact finish_completes unended
  | cons chunk rest ih =>
    simp only [translateChunks] at accepted
    split at accepted
    next => cases accepted
    next emitted first =>
      split at accepted
      next => cases accepted
      next later others =>
        cases accepted
        rw [List.append_assoc, completes_append]
        by_cases chosen : (chunk.get "choices").bind Json.asArray = some []
        · simp only [translateEvent, unended, Bool.false_eq_true, if_false, chosen] at first
          rw [endingReason, chosen]
          dsimp only
          split at first
          next used =>
            cases first
            rw [translateChunks_ended (finish_ends _)] at others
            cases others
            rw [if_pos used, finish_ended (finish_ends _)]
            have ending := @finish_completes stamp codec (state.metered stamp chunk) unended
            rw [ending, completes, List.append_nil, List.any_nil, Bool.or_false]
            rfl
          next unused =>
            cases first
            rw [if_neg unused]
            have metered := @ih (state.metered stamp chunk) unended _ others
            exact (Bool.false_or _).trans metered
        · obtain ⟨still, plain⟩ := translateEvent_plain first chosen
          rw [completes_of_plain plain, Bool.false_or, ih (still.trans unended) others, endingReason]
          congr 1
          unfold translateEvent at first
          rw [if_neg (by simp [unended])] at first
          split at first
          next absent =>
            cases first
            rw [absent]
            rfl
          next empty => exact absurd empty chosen
          next choice single =>
            rw [single, translateChoice_reason first]
            rfl
          next => cases first

end ChatToResponsesState

section Agreement

open ChatToResponsesState

variable (stamp : ResponseStamp) (codec : JsonCodec)

/-- A tracker fed the chunks and one fed the translated events agree on the output seen after every
prefix and, if the stream said how it finished, on the end. -/
structure TrackersAgree (state : ChatToResponsesState) (chunks : List Json) : Prop where
  output : ∀ seen rest emitted, chunks = seen ++ rest →
    state.translateChunks stamp codec seen = .ok emitted →
      let chat := ({} : StreamCommitTracker).observeAll .chatCompletions seen
      let responses :=
        ({} : StreamCommitTracker).observeAll .responses (emitted.2.map ResponsesEvent.toJson)
      chat.semanticOutputObserved = responses.semanticOutputObserved ∧
        chat.canReplay = responses.canReplay
  terminal : ∀ emitted, state.translateChunks stamp codec chunks = .ok emitted →
    chunks.any StreamCommitTracker.chunkFinishes = true →
      (({} : StreamCommitTracker).observeAll .chatCompletions chunks).terminalObserved =
        (({} : StreamCommitTracker).observeAll .responses
          ((emitted.2 ++ (emitted.1.finish stamp codec).2).map
            ResponsesEvent.toJson)).terminalObserved

def newTranslator (toolRegistry : Option ToolAdapterRegistry) (strict : Bool) :
    ChatToResponsesState :=
  { toolRegistry, toolCallMergeStrict := strict }

theorem hidden_newTranslator (toolRegistry : Option ToolAdapterRegistry) (strict : Bool) :
    Hidden (newTranslator toolRegistry strict) where
  text := rfl
  calls _ _ found := by simp [newTranslator] at found

theorem responses_semantic (events : List ResponsesEvent) :
    (({} : StreamCommitTracker).observeAll .responses
      (events.map ResponsesEvent.toJson)).semanticOutputObserved = showsOutput events := by
  simp only [StreamCommitTracker.observeAll_responses, Bool.false_or, List.any_map, showsOutput,
    Function.comp_def, responsesEventIsSemantic_toJson]

theorem responses_terminal (events : List ResponsesEvent) :
    (({} : StreamCommitTracker).observeAll .responses
      (events.map ResponsesEvent.toJson)).terminalObserved = completes events := by
  simp only [StreamCommitTracker.observeAll_responses, Bool.false_or, List.any_map, completes,
    Function.comp_def, isCompleted_toJson]

end Agreement

theorem exampleStamp_issues (key : Nat) : exampleStamp.callId key ≠ "" := by
  intro blank
  have short := congrArg String.length blank
  simp [exampleStamp] at short

def finishingChunks : List Json :=
  [deltaChunk [("content", .string "Looking.")],
    deltaChunk [("tool_calls", .array [.object [("index", .ofNat 0), ("id", .string "call_1"),
      ("function", .object [("name", .string "list"), ("arguments", .string "")])]])],
    .object [("choices", .array [.object [("index", .ofNat 0), ("delta", .object []),
      ("finish_reason", .string "tool_calls")]])]]

end ChatGateway
