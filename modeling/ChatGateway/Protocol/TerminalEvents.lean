import ChatGateway.Protocol.EventJournal

set_option autoImplicit false

/-!
# Which steps end a response

Only `finish` emits a terminal event, and it is the last one it emits.
-/

namespace ChatGateway

namespace ChatToResponsesState

variable {stamp : ResponseStamp} {codec : JsonCodec}

structure Quiet (before : ChatToResponsesState) (result : Emitted) : Prop where
  completed : result.1.completedEmitted = before.completedEmitted
  reason : result.1.incompleteReason = before.incompleteReason
  events : ∀ event ∈ result.2, event.body.terminal? = none

theorem Quiet.still (state : ChatToResponsesState) : Quiet state (state, []) :=
  ⟨rfl, rfl, by simp⟩

theorem Quiet.andThen {state : ChatToResponsesState} {first : Emitted}
    {next : ChatToResponsesState → Emitted} (quiet : Quiet state first)
    (later : Quiet first.1 (next first.1)) : Quiet state (andThen first next) where
  completed := later.completed.trans quiet.completed
  reason := later.reason.trans quiet.reason
  events event member := by
    rcases List.mem_append.1 member with earlier | behind
    · exact quiet.events event earlier
    · exact later.events event behind

theorem Quiet.push {before state : ChatToResponsesState} {body : ResponsesEventBody}
    (completed : state.completedEmitted = before.completedEmitted)
    (reason : state.incompleteReason = before.incompleteReason)
    (plain : body.terminal? = none) : Quiet before (state.push body) where
  completed := completed
  reason := reason
  events event member := by
    obtain rfl := List.mem_singleton.1 member
    exact plain

theorem emitCreated_quiet (state : ChatToResponsesState) : Quiet state (state.emitCreated stamp) := by
  unfold emitCreated
  split
  · exact .still state
  · exact .push rfl rfl rfl

theorem emitReasoningDelta_quiet (state : ChatToResponsesState) (delta : String) :
    Quiet state (state.emitReasoningDelta stamp delta) := by
  cases found : state.reasoning with
  | none =>
    simp only [emitReasoningDelta, found]
    exact .andThen (.push rfl rfl rfl) (.push rfl rfl rfl)
  | some reasoning =>
    simp only [emitReasoningDelta, found]
    refine .andThen ?_ (.push rfl rfl rfl)
    split
    · exact ⟨rfl, rfl, by simp⟩
    · exact .push rfl rfl rfl

theorem emitReasoningDone_quiet (state : ChatToResponsesState) :
    Quiet state (state.emitReasoningDone stamp) := by
  unfold emitReasoningDone
  split
  · exact .still state
  · split
    · exact .still state
    · exact .andThen (.push rfl rfl rfl) (.push rfl rfl rfl)

theorem emitTextDelta_quiet (state : ChatToResponsesState) (delta : String) :
    Quiet state (state.emitTextDelta stamp delta) := by
  unfold emitTextDelta
  refine .andThen ?_ (.push rfl rfl rfl)
  unfold ensureTextItem
  cases state.textOutputIndex with
  | none =>
    dsimp only
    split
    · exact ⟨rfl, rfl, by simp⟩
    · exact .push rfl rfl rfl
  | some index =>
    dsimp only
    split
    · exact ⟨rfl, rfl, by simp⟩
    · exact .push rfl rfl rfl

theorem emitTextDone_quiet (state : ChatToResponsesState) :
    Quiet state (state.emitTextDone stamp) := by
  unfold emitTextDone
  split
  · exact .still state
  · exact .andThen (.push rfl rfl rfl) (.push rfl rfl rfl)

theorem emitCallsDone_quiet (state : ChatToResponsesState) (calls : List ChatToolCallState) :
    Quiet state (emitCallsDone stamp codec state calls) := by
  induction calls generalizing state with
  | nil => exact .still state
  | cons call rest ih =>
    have done : Quiet state (state.emitCallDone stamp codec call) := by
      unfold emitCallDone
      exact .andThen (.push rfl rfl rfl) (.push rfl rfl rfl)
    exact done.andThen (ih _)

theorem emitToolCallDone_quiet (state : ChatToResponsesState) :
    Quiet state (state.emitToolCallDone stamp codec) := by
  obtain ⟨completed, reason, events⟩ := @emitCallsDone_quiet stamp codec
    { state with toolCalls := state.toolCalls.map fun call => { call with doneEmitted := true } }
    (state.toolCalls.values.filter fun call => !call.doneEmitted)
  exact ⟨completed, reason, events⟩

theorem emitFragment_quiet (state : ChatToResponsesState) (key : Nat) (callId : String)
    (name : Option String) (arguments : String) (restore : String → String × Option String) :
    Quiet state (state.emitFragment stamp codec key callId name arguments restore) := by
  unfold emitFragment
  dsimp only
  generalize mergeFragment codec _ callId name arguments state.toolCallMergeStrict = merged
  obtain ⟨merged, addedDue, delta⟩ := merged
  refine .andThen ?_ ?_
  · split
    · exact .push rfl rfl rfl
    · exact ⟨rfl, rfl, by simp⟩
  · cases delta with
    | none => exact .still _
    | some fragment => exact .push rfl rfl rfl

theorem beginOutput_quiet (state : ChatToResponsesState) : Quiet state (state.beginOutput stamp) :=
  (emitCreated_quiet state).andThen (emitReasoningDone_quiet _)

theorem translateReasoning_quiet (state : ChatToResponsesState) (delta : Json) :
    Quiet state (state.translateReasoning stamp delta) := by
  unfold translateReasoning
  split
  · exact .still state
  · split
    · exact .still state
    · exact (emitCreated_quiet state).andThen (emitReasoningDelta_quiet _ _)

theorem translateContent_quiet {state : ChatToResponsesState} {delta : Json} {result : Emitted}
    (translated : state.translateContent stamp delta = .ok result) : Quiet state result := by
  unfold translateContent at translated
  split at translated
  · cases translated
    exact .still state
  · split at translated
    · cases translated
      exact .still state
    · split at translated
      · cases translated
      · split at translated <;> cases translated
        · exact .still state
        · exact (beginOutput_quiet state).andThen (emitTextDelta_quiet _ _)

theorem emitChatToolCallDelta_quiet {state : ChatToResponsesState} {toolCall : Json}
    {position : Nat} {result : Emitted}
    (emitted : state.emitChatToolCallDelta stamp codec toolCall position = .ok result) :
    Quiet state result := by
  unfold emitChatToolCallDelta at emitted
  split at emitted
  · cases emitted
  · split at emitted <;> cases emitted
    · exact .still state
    · exact emitFragment_quiet ..

theorem translateToolCalls_quiet {state : ChatToResponsesState} {position : Nat}
    {toolCalls : List Json} {result : Emitted}
    (translated : state.translateToolCalls stamp codec position toolCalls = .ok result) :
    Quiet state result := by
  induction toolCalls generalizing state position result with
  | nil =>
    cases translated
    exact .still state
  | cons toolCall rest ih =>
    simp only [translateToolCalls] at translated
    split at translated
    · cases translated
    · next emitted isEmitted =>
      split at translated
      · cases translated
      · next later isLater =>
        cases translated
        have begun := @beginOutput_quiet stamp state
        have called := emitChatToolCallDelta_quiet isEmitted
        have rested := ih isLater
        refine ⟨rested.completed.trans (called.completed.trans begun.completed),
          rested.reason.trans (called.reason.trans begun.reason), ?_⟩
        simp only [List.forall_mem_append]
        exact ⟨⟨begun.events, called.events⟩, rested.events⟩

theorem emitChatFunctionCallDelta_quiet {state : ChatToResponsesState} {functionCall : Json}
    {result : Emitted}
    (emitted : state.emitChatFunctionCallDelta stamp codec functionCall = .ok result) :
    Quiet state result := by
  unfold emitChatFunctionCallDelta at emitted
  split at emitted
  · cases emitted
  · split at emitted
    · cases emitted
    · split at emitted <;> cases emitted
      exact emitFragment_quiet ..

theorem translateFunctionCall_quiet {state : ChatToResponsesState} {delta : Json}
    {result : Emitted}
    (translated : state.translateFunctionCall stamp codec delta = .ok result) :
    Quiet state result := by
  unfold translateFunctionCall at translated
  split at translated
  · cases translated
    exact .still state
  · next functionCall found =>
    dsimp only at translated
    split at translated
    · cases translated
    · next emitted isEmitted =>
      cases translated
      have begun := @beginOutput_quiet stamp state
      have called := emitChatFunctionCallDelta_quiet isEmitted
      exact ⟨called.completed.trans begun.completed, called.reason.trans begun.reason,
        List.forall_mem_append.2 ⟨begun.events, called.events⟩⟩

-- The finish reason of a choice says how the response ended, and nothing else of a choice does.
theorem translateEnd_plain (state : ChatToResponsesState) (choice delta : Json) :
    (state.translateEnd stamp choice delta).1.completedEmitted = state.completedEmitted ∧
      ∀ event ∈ (state.translateEnd stamp choice delta).2, event.body.terminal? = none := by
  have introduced : Quiet state
      (if (delta.str "role").isSome then state.emitCreated stamp else (state, [])) := by
    split
    · exact emitCreated_quiet state
    · exact .still state
  unfold translateEnd
  dsimp only
  split
  · exact ⟨introduced.completed, introduced.events⟩
  · next finishReason found =>
    have ended := @emitCreated_quiet stamp
      { (if (delta.str "role").isSome then state.emitCreated stamp else (state, [])).1 with
        incompleteReason := responsesIncompleteReason (some finishReason) }
    refine ⟨ended.completed.trans introduced.completed, ?_⟩
    simp only [andThen, List.forall_mem_append]
    exact ⟨introduced.events, ended.events⟩

theorem translateChoice_plain {state : ChatToResponsesState} {choice : Json} {result : Emitted}
    (translated : state.translateChoice stamp codec choice = .ok result) :
    result.1.completedEmitted = state.completedEmitted ∧
      ∀ event ∈ result.2, event.body.terminal? = none := by
  simp only [translateChoice] at translated
  split at translated
  · cases translated
  · next texted isTexted =>
    split at translated
    · cases translated
    · next called isCalled =>
      split at translated
      · cases translated
      · next functioned isFunctioned =>
        cases translated
        have reasoning := @translateReasoning_quiet stamp state ((choice.get "delta").getD .null)
        have content := translateContent_quiet isTexted
        have toolCalls := translateToolCalls_quiet isCalled
        have function := translateFunctionCall_quiet isFunctioned
        have ended := @translateEnd_plain stamp functioned.1 choice ((choice.get "delta").getD .null)
        refine ⟨?_, ?_⟩
        · rw [ended.1, function.completed, toolCalls.completed, content.completed,
            reasoning.completed]
        · simp only [List.forall_mem_append]
          exact ⟨⟨⟨⟨reasoning.events, content.events⟩, toolCalls.events⟩, function.events⟩, ended.2⟩

theorem translateEvent_plain {state : ChatToResponsesState} {event : Json} {result : Emitted}
    (translated : state.translateEvent stamp codec event = .ok result)
    (chosen : (event.get "choices").bind Json.asArray ≠ some []) :
    result.1.completedEmitted = state.completedEmitted ∧
      ∀ event ∈ result.2, event.body.terminal? = none := by
  unfold translateEvent at translated
  split at translated
  · cases translated
    exact ⟨rfl, by simp⟩
  · split at translated
    · cases translated
      exact ⟨rfl, by simp⟩
    · next empty => exact absurd empty chosen
    · have plain := translateChoice_plain translated
      exact plain
    · cases translated

-- The events of `finish` are the terminal one and others before it.
theorem finish_events {state : ChatToResponsesState} (unended : state.completedEmitted = false) :
    ∃ before last response, (state.finish stamp codec).2 = before ++ [last] ∧
      (∀ event ∈ before, event.body.terminal? = none) ∧ last.body = .terminal response ∧
      response.incompleteReason = state.incompleteReason := by
  have quiet : Quiet state (andThen (andThen (andThen (state.emitCreated stamp)
      (emitReasoningDone stamp)) (emitTextDone stamp)) (emitToolCallDone stamp codec)) :=
    .andThen (.andThen (.andThen (emitCreated_quiet state) (emitReasoningDone_quiet _))
      (emitTextDone_quiet _)) (emitToolCallDone_quiet _)
  rw [finish, if_neg (by simp [unended])]
  exact ⟨_, _, _, rfl, quiet.events, rfl, quiet.reason⟩

theorem finish_ended {state : ChatToResponsesState} (ended : state.completedEmitted = true) :
    state.finish stamp codec = (state, []) := by
  rw [finish, if_pos ended]

end ChatToResponsesState

end ChatGateway
