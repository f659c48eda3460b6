import ChatGateway.Protocol.ResponsesDocument

set_option autoImplicit false

/-!
# The finish of a translated stream

A Responses stream translated to Chat chunks tells one finish reason. It is the right one, with
nothing behind it, in the streams described at the end.
-/

namespace ChatGateway

def chunkDeltas (chunk : Json) : List Json :=
  (((chunk.get "choices").bind Json.asArray).getD []).filterMap (·.get "delta")

def carriesToolCall (chunk : Json) : Bool :=
  (chunkDeltas chunk).any fun delta => (delta.get "tool_calls").isSome

def carriesOutput (chunk : Json) : Bool :=
  carriesToolCall chunk || (chunkDeltas chunk).any fun delta => (delta.get "content").isSome

def silentAfterFinish : List Json → Bool
  | [] => true
  | chunk :: rest =>
    if finishReasons chunk = [] then silentAfterFinish rest else !rest.any carriesOutput

theorem silentAfterFinish_append {earlier : List Json} (rest : List Json)
    (untold : ∀ chunk ∈ earlier, finishReasons chunk = []) :
    silentAfterFinish (earlier ++ rest) = silentAfterFinish rest := by
  induction earlier with
  | nil => rfl
  | cons chunk more ih =>
    rw [List.cons_append, silentAfterFinish, if_pos (untold chunk List.mem_cons_self)]
    exact ih fun chunk member => untold chunk (List.mem_cons_of_mem _ member)

/-- The Chat finish reason for the reason a `response.incomplete` event gives. -/
def stoppedBy (event : Json) : Option String :=
  if event.str "type" = some "response.incomplete" then
    match ((event.get "response").bind (·.get "incomplete_details")).bind (·.str "reason") with
    | some "max_output_tokens" => some "length"
    | some "content_filter" => some "content_filter"
    | _ => none
  else none

def terminalResponse (event : Json) : Option Json :=
  if event.str "type" = some "response.completed" ∨ event.str "type" = some "response.incomplete" then
    event.get "response"
  else none

/-- `reason` is the one finish reason of the chunks, it is the right one for the events, and the
conversion of the whole response gives it too. -/
structure TruthfulFinish (codec : JsonCodec) (toolRegistry : Option ToolAdapterRegistry)
    (events chunks : List Json) (reason : String) : Prop where
  once : chunks.flatMap finishReasons = [.string reason]
  silent : silentAfterFinish chunks = true
  stopped : ∀ event ∈ events, ∀ named, stoppedBy event = some named → reason = named
  ended : (∀ event ∈ events, stoppedBy event = none) →
    reason = if chunks.any carriesToolCall then "tool_calls" else "stop"
  document : ∀ event ∈ events, ∀ response payload, terminalResponse event = some response →
    responsesResponseToChatPayload codec toolRegistry response = .ok payload →
      finishReasons payload = [.string reason]

def opensToolCall (event : Json) : Bool :=
  match event.str "type" with
  | some "response.output_item.added" =>
    (event.get "item").any callsTool
  | some "response.function_call_arguments.delta"
  | some "response.custom_tool_call_input.delta" => true
  | _ => false

theorem silentAfterFinish_told {first : List Json} (rest : List Json)
    (told : first.flatMap finishReasons ≠ []) :
    silentAfterFinish (first ++ rest) = (silentAfterFinish first && !rest.any carriesOutput) := by
  induction first with
  | nil => exact absurd rfl told
  | cons chunk more ih =>
    rw [List.cons_append, silentAfterFinish, silentAfterFinish]
    split
    next untold =>
      rw [List.flatMap_cons, untold, List.nil_append] at told
      exact ih told
    next => rw [List.any_append, Bool.not_or]

namespace ResponsesToChatState

variable (stamp : ChatStamp) (codec : JsonCodec)

/-- The event that an `output_item.done` event of a custom tool call is read as. -/
def itemInputDone (event : Json) (item : List (String × Json)) : Json :=
  let fields := Json.setField (event.asObject.getD []) "item_id" ((Json.field item "id").getD .null)
  .object
    (match Json.field item "input" with
    | some input => Json.setField fields "input" input
    | none => fields)

def closesInput (state : ResponsesToChatState) (event : Json) : Bool :=
  match event.str "input", state.toolCalls.find? (state.eventToolCallIndex event) with
  | some input, some entry =>
    !entry.customInputClosed ||
      (entry.customInputValue ≠ input &&
        ((input.toList.dropPrefix? entry.customInputValue.toList).any fun missing =>
          jsonStringFragment codec (String.ofList missing) ≠ ""))
  | _, _ => false

def showsAgentMessage (state : ResponsesToChatState) (item : List (String × Json)) : Bool :=
  match agentMessageObjectToChatMessage codec item with
  | .error _ => false
  | .ok message =>
    (message.get "content").any fun content =>
      visibleChatContentText content ≠ "" && state.missingText (visibleChatContentText content) ≠ ""

/-- What the translator sends for the event when the role was sent before: the events are those
whose chunks carry output. -/
def delivers (state : ResponsesToChatState) (event : Json) : Bool :=
  match event.str "type" with
  | some "response.output_item.added" =>
    (event.get "item").any callsTool &&
      !(state.toolCalls.find? ((event.u64 "output_index").getD 0)).any (·.addedEmitted)
  | some "response.output_text.delta" =>
    !state.agentMessageContentEmitted && !state.textOutputDone
  | some "response.output_text.done" =>
    (event.str "text").any fun text => state.missingText text ≠ ""
  | some "response.function_call_arguments.delta"
  | some "response.custom_tool_call_input.delta" => true
  | some "response.custom_tool_call_input.done" => state.closesInput codec event
  | some "response.output_item.done" =>
    match (event.get "item").bind Json.asObject with
    | none => false
    | some item =>
      match responseOutputItemKind item with
      | .ok .customToolCall => state.closesInput codec (itemInputDone event item)
      | .ok .agentMessage => state.showsAgentMessage codec item
      | _ => false
  | some "response.completed" =>
    !state.agentMessageContentEmitted &&
      match firstAgentMessage 0 ((responseOutput event).getD []) with
      | .ok (some (_, item)) => state.showsAgentMessage codec item
      | _ => false
  | _ => false

def QuietAfterEnd : ResponsesToChatState → List Json → Prop
  | _, [] => True
  | state, event :: rest =>
    (state.completedEmitted = true → state.delivers codec event = false) ∧
      match state.translateEvent stamp codec event with
      | .error _ => True
      | .ok (next, _) => QuietAfterEnd next rest

/-- A step that does not end the response: whether it opens a tool call where there was none, and
whether it delivers output once the role is sent. -/
structure Emits (before : ResponsesToChatState) (opens delivers : Bool)
    (result : ResponsesToChatState × List Json) : Prop where
  completed : result.1.completedEmitted = before.completedEmitted
  role : before.assistantRoleEmitted = true → result.1.assistantRoleEmitted = true
  told : ∀ chunk ∈ result.2, finishReasons chunk = []
  called : before.toolCalls.isEmpty = true → result.2.any carriesToolCall = opens
  calls : result.1.toolCalls.isEmpty = (before.toolCalls.isEmpty && !opens)
  delivered : before.assistantRoleEmitted = true → result.2.any carriesOutput = delivers

variable {stamp codec}

theorem finishReasons_chunk (state : ResponsesToChatState) (delta : Json)
    (reason : Option String) :
    finishReasons (state.chunk stamp delta reason) = (reason.map Json.string).toList := by
  cases reason <;> rfl

theorem chunkDeltas_chunk (state : ResponsesToChatState) (delta : Json) (reason : Option String) :
    chunkDeltas (state.chunk stamp delta reason) = [delta] := rfl

theorem Emits.still {before after : ResponsesToChatState}
    (completed : after.completedEmitted = before.completedEmitted)
    (role : after.assistantRoleEmitted = before.assistantRoleEmitted)
    (calls : after.toolCalls.isEmpty = before.toolCalls.isEmpty) :
    Emits before false false (after, []) where
  completed := completed
  role := role.trans
  told := by simp
  called _ := rfl
  calls := by simp [calls]
  delivered _ := rfl

theorem Emits.content {before after state : ResponsesToChatState} (text : String)
    (completed : after.completedEmitted = before.completedEmitted)
    (role : after.assistantRoleEmitted = before.assistantRoleEmitted)
    (calls : after.toolCalls.isEmpty = before.toolCalls.isEmpty) :
    Emits before false true
      (after, [state.chunk stamp (.object [("content", .string text)]) none]) where
  completed := completed
  role := role.trans
  told := by simp [finishReasons_chunk]
  called _ := by simp [carriesToolCall, chunkDeltas_chunk]
  calls := by simp [calls]
  delivered _ := by simp [carriesOutput, chunkDeltas_chunk]

theorem Emits.of_same {before other : ResponsesToChatState} {opens delivers : Bool}
    {result : ResponsesToChatState × List Json} (emits : Emits other opens delivers result)
    (completed : other.completedEmitted = before.completedEmitted)
    (role : other.assistantRoleEmitted = before.assistantRoleEmitted)
    (calls : other.toolCalls = before.toolCalls) : Emits before opens delivers result where
  completed := emits.completed.trans completed
  role sent := emits.role (role.trans sent)
  told := emits.told
  called none := emits.called (by rw [calls, none])
  calls := by rw [emits.calls, calls]
  delivered sent := emits.delivered (role.trans sent)

theorem single_of_ensured {state single : ResponsesToChatState} {index : Nat}
    (ensured : state.ensureSingleAssistantMessageOutputIndex index = .ok single) :
    single = { state with assistantMessageOutputIndex := some index } := by
  unfold ensureSingleAssistantMessageOutputIndex at ensured
  split at ensured
  next existing known =>
    split at ensured
    next same =>
      cases ensured
      rw [← same, ← known]
    next => cases ensured
  next => exact (Except.ok.inj ensured).symm

theorem emitOutputTextDelta_emits {state : ResponsesToChatState} {event : Json}
    {result : ResponsesToChatState × List Json}
    (emitted : state.emitOutputTextDelta stamp event = .ok result) :
    Emits state false (!state.agentMessageContentEmitted && !state.textOutputDone) result := by
  unfold emitOutputTextDelta at emitted
  split at emitted
  · cases emitted
  next delta _ =>
    split at emitted
    next silent =>
      cases emitted
      rw [silent]
      exact .still rfl rfl rfl
    next sent =>
      split at emitted
      next done =>
        cases emitted
        rw [done, Bool.not_true, Bool.and_false]
        exact .still rfl rfl rfl
      next pending =>
        cases emitted
        rw [eq_false_of_ne_true sent, eq_false_of_ne_true pending]
        exact .content delta rfl rfl rfl

theorem emitCompleteText_emits (state : ResponsesToChatState) (text : String) :
    Emits state false (state.missingText text ≠ "") (state.emitCompleteText stamp text) := by
  unfold emitCompleteText
  dsimp only
  split
  next nothing =>
    simp only [nothing, ne_eq, not_true_eq_false, decide_false]
    exact .still rfl rfl rfl
  next missing =>
    simp only [ne_eq, missing, not_false_eq_true, decide_true]
    exact .content _ rfl rfl rfl

theorem emitOutputTextDone_emits (state : ResponsesToChatState) (event : Json) :
    Emits state false ((event.str "text").any fun text => state.missingText text ≠ "")
      (state.emitOutputTextDone stamp event) := by
  unfold emitOutputTextDone
  cases event.str "text" with
  | none => exact .still rfl rfl rfl
  | some text =>
    have emits := @emitCompleteText_emits stamp state text
    exact ⟨emits.completed, emits.role, emits.told, emits.called, emits.calls, emits.delivered⟩

theorem Emits.toolCall {before after state : ResponsesToChatState} {index : Nat} {callId : String}
    {function : List (String × Json)} {opens : Bool}
    (completed : after.completedEmitted = before.completedEmitted)
    (role : after.assistantRoleEmitted = before.assistantRoleEmitted)
    (calls : after.toolCalls.isEmpty = false)
    (opened : before.toolCalls.isEmpty = true → opens = true) :
    Emits before opens true (after, [state.toolCallChunk stamp index callId function]) where
  completed := completed
  role := role.trans
  told := by simp [toolCallChunk, finishReasons_chunk]
  called none := by simp [toolCallChunk, carriesToolCall, chunkDeltas_chunk, opened none]
  calls := by
    cases none : before.toolCalls.isEmpty with
    | false => simp [calls]
    | true => simp [calls, opened none]
  delivered _ := by simp [toolCallChunk, carriesOutput, carriesToolCall, chunkDeltas_chunk]

theorem emitFunctionCallItemAdded_emits {state : ResponsesToChatState} {event : Json}
    {item : List (String × Json)} {result : ResponsesToChatState × List Json}
    (emitted : state.emitFunctionCallItemAdded stamp codec event item = .ok result) :
    Emits state true
      (!(state.toolCalls.find? ((event.u64 "output_index").getD 0)).any (·.addedEmitted))
      result := by
  unfold emitFunctionCallItemAdded at emitted
  split at emitted
  · cases emitted
  next itemId _ =>
    dsimp only [addToolCallItem] at emitted
    obtain rfl := (Except.ok.inj emitted).symm
    cases found : state.toolCalls.find? ((event.u64 "output_index").getD 0) with
    | none => exact .toolCall rfl rfl (by simp) fun _ => rfl
    | some entry =>
      have held := OrderedMap.isEmpty_of_find? found
      cases added : entry.addedEmitted with
      | false =>
        simp only [Option.getD_some, added, Option.any_some, Bool.not_false, if_true]
        exact .toolCall rfl rfl (by simp) fun _ => rfl
      | true =>
        -- The call was added before, so nothing is sent and nothing is opened.
        simp only [Option.getD_some, added, Option.any_some, Bool.not_true, Bool.false_eq_true,
          if_false]
        exact ⟨rfl, id, by simp, by simp [held], by simp [held], fun _ => rfl⟩

theorem emitFunctionCallArgumentsDelta_emits {state : ResponsesToChatState} {event : Json}
    {result : ResponsesToChatState × List Json}
    (emitted : state.emitFunctionCallArgumentsDelta stamp codec event = .ok result) :
    Emits state true true result := by
  unfold emitFunctionCallArgumentsDelta at emitted
  dsimp only at emitted
  split at emitted
  · cases emitted
  next delta _ =>
    obtain rfl := (Except.ok.inj emitted).symm
    exact .toolCall rfl rfl (by simp) fun _ => rfl

theorem emitFunctionCallArgumentsDone_emits (state : ResponsesToChatState) (event : Json) :
    Emits state false false (state.emitFunctionCallArgumentsDone event, []) := by
  unfold emitFunctionCallArgumentsDone
  dsimp only
  split
  · exact .still rfl rfl rfl
  next entry found => exact .still rfl rfl (by simp [OrderedMap.isEmpty_of_find? found])

theorem emitCustomToolCallInputDone_emits {state : ResponsesToChatState} {event : Json}
    {result : ResponsesToChatState × List Json}
    (emitted : state.emitCustomToolCallInputDone stamp codec event = .ok result) :
    Emits state false (state.closesInput codec event) result := by
  unfold emitCustomToolCallInputDone at emitted
  dsimp only at emitted
  split at emitted
  · cases emitted
  next input given =>
    split at emitted
    · cases emitted
    next entry found =>
      have held := OrderedMap.isEmpty_of_find? found
      split at emitted
      · cases emitted
      split at emitted
      · cases emitted
      next missing dropped =>
        rw [closesInput, given, found]
        dsimp only
        rw [dropped, Option.any_some]
        have sends : (!entry.customInputClosed || (decide (entry.customInputValue ≠ input) &&
            decide (jsonStringFragment codec (String.ofList missing) ≠ ""))) =
            !(decide ((if entry.customInputValue ≠ input then
                jsonStringFragment codec (String.ofList missing) else "") = "") &&
              decide ((if entry.customInputClosed = true then "" else "\"\x7d") = "")) := by
          cases entry.customInputClosed <;> by_cases same : entry.customInputValue = input <;>
            simp [same]
        rw [sends]
        generalize (if entry.customInputValue ≠ input then
          jsonStringFragment codec (String.ofList missing) else "") = fragment at emitted ⊢
        generalize (if entry.customInputClosed = true then "" else "\"\x7d") = suffix at emitted ⊢
        split at emitted
        next nothing =>
          obtain rfl := (Except.ok.inj emitted).symm
          rw [nothing, Bool.not_true]
          exact .still rfl rfl (by simp [held])
        next more =>
          obtain rfl := (Except.ok.inj emitted).symm
          rw [eq_false_of_ne_true more, Bool.not_false]
          refine .toolCall rfl rfl ?_ ?_
          · exact OrderedMap.isEmpty_put _ _ _
          · intro none
            rw [held] at none
            cases none

theorem emitAgentMessageContentIfNeeded_emits {state : ResponsesToChatState}
    {item : List (String × Json)} {result : ResponsesToChatState × List Json}
    (emitted : state.emitAgentMessageContentIfNeeded stamp codec item = .ok result) :
    Emits state false (state.showsAgentMessage codec item) result := by
  unfold emitAgentMessageContentIfNeeded at emitted
  unfold showsAgentMessage
  cases converted : agentMessageObjectToChatMessage codec item with
  | error failure =>
    rw [converted] at emitted
    cases emitted
  | ok message =>
    rw [converted] at emitted
    dsimp only at emitted ⊢
    cases given : message.get "content" with
    | none =>
      rw [given] at emitted
      obtain rfl := (Except.ok.inj emitted).symm
      exact .still rfl rfl rfl
    | some content =>
      rw [given] at emitted
      rw [Option.any_some]
      dsimp only at emitted
      split at emitted
      next blank =>
        obtain rfl := (Except.ok.inj emitted).symm
        simp only [blank, ne_eq, not_true_eq_false, decide_false, Bool.false_and]
        exact .still rfl rfl rfl
      next visible =>
        obtain rfl := (Except.ok.inj emitted).symm
        have emits := @emitCompleteText_emits stamp state (visibleChatContentText content)
        simp only [visible, ne_eq, not_false_eq_true, decide_true, Bool.true_and]
        exact ⟨emits.completed, emits.role, emits.told, emits.called, emits.calls, emits.delivered⟩

theorem emitCompletedAgentMessageContent_emits {state : ResponsesToChatState} {event : Json}
    {result : ResponsesToChatState × List Json}
    (emitted : state.emitCompletedAgentMessageContent stamp codec event = .ok result) :
    Emits state false
      (!state.agentMessageContentEmitted &&
        match firstAgentMessage 0 ((responseOutput event).getD []) with
        | .ok (some (_, item)) => state.showsAgentMessage codec item
        | _ => false) result := by
  unfold emitCompletedAgentMessageContent at emitted
  split at emitted
  next sent =>
    cases emitted
    rw [sent]
    exact .still rfl rfl rfl
  next unsent =>
    rw [eq_false_of_ne_true unsent, Bool.not_false, Bool.true_and]
    split at emitted
    next absent =>
      cases emitted
      rw [absent]
      exact .still rfl rfl rfl
    next items given =>
      rw [given, Option.getD_some]
      split at emitted
      · cases emitted
      next none =>
        cases emitted
        rw [none]
        exact .still rfl rfl rfl
      next index item first =>
        rw [first]
        split at emitted
        · cases emitted
        next single ensured =>
          obtain rfl := single_of_ensured ensured
          exact (emitAgentMessageContentIfNeeded_emits emitted).of_same rfl rfl rfl

theorem afterRole_emits {state : ResponsesToChatState} {opens shows : Bool}
    {emit : ResponsesToChatState → Except ProtocolError (ResponsesToChatState × List Json)}
    {result : ResponsesToChatState × List Json} (run : state.afterRole stamp emit = .ok result)
    (each : ∀ responseId createdAt role emitted,
      emit { state with responseId, createdAt, assistantRoleEmitted := role } = .ok emitted →
        Emits { state with responseId, createdAt, assistantRoleEmitted := role } opens shows
          emitted) :
    Emits state opens shows result := by
  unfold afterRole at run
  by_cases sent : state.assistantRoleEmitted = true
  · rw [show state.emitAssistantRole stamp = (state, []) by simp [emitAssistantRole, sent]] at run
    dsimp only at run
    split at run
    · cases run
    next emitted chunks ran =>
      obtain rfl := Except.ok.inj run
      exact each state.responseId state.createdAt state.assistantRoleEmitted (emitted, chunks) ran
  · rw [emitAssistantRole, if_neg sent] at run
    dsimp only at run
    split at run
    · cases run
    next emitted chunks ran =>
      obtain rfl := Except.ok.inj run
      have emits := each _ _ true (emitted, chunks) ran
      refine ⟨emits.completed, fun before => absurd before sent, ?_, ?_, emits.calls,
        fun before => absurd before sent⟩
      · intro chunk member
        rcases List.mem_cons.1 member with rfl | later
        · exact finishReasons_chunk ..
        · exact emits.told chunk later
      · intro none
        have called := emits.called none
        simpa [carriesToolCall, chunkDeltas_chunk] using called

theorem atMessage_emits {state : ResponsesToChatState} {event : Json} {opens shows : Bool}
    {emit : ResponsesToChatState → Except ProtocolError (ResponsesToChatState × List Json)}
    {result : ResponsesToChatState × List Json} (run : atMessage event emit state = .ok result)
    (each : ∀ index emitted,
      emit { state with assistantMessageOutputIndex := some index } = .ok emitted →
        Emits { state with assistantMessageOutputIndex := some index } opens shows emitted) :
    Emits state opens shows result := by
  unfold atMessage at run
  split at run
  · cases run
  next single ensured =>
    obtain rfl := single_of_ensured ensured
    exact (each _ result run).of_same rfl rfl rfl

theorem greet_emits {state after : ResponsesToChatState}
    (completed : after.completedEmitted = (state.emitAssistantRole stamp).1.completedEmitted)
    (role : after.assistantRoleEmitted = (state.emitAssistantRole stamp).1.assistantRoleEmitted)
    (calls : after.toolCalls = (state.emitAssistantRole stamp).1.toolCalls) :
    Emits state false false (after, (state.emitAssistantRole stamp).2) := by
  have greeted : Emits state false false (state.emitAssistantRole stamp) := by
    refine @afterRole_emits stamp _ _ _ (fun greeted => .ok (greeted, [])) _ ?_ ?_
    · simp [afterRole]
    · intro _ _ _ emitted ran
      obtain rfl := Except.ok.inj ran
      exact .still rfl rfl rfl
  exact ⟨completed.trans greeted.completed, fun sent => role.trans (greeted.role sent),
    greeted.told, greeted.called, by rw [calls, greeted.calls], greeted.delivered⟩

theorem translateItemAdded_emits {state : ResponsesToChatState} {event : Json}
    {result : ResponsesToChatState × List Json}
    (run : state.translateItemAdded stamp codec event = .ok result) :
    Emits state ((event.get "item").any callsTool)
      ((event.get "item").any callsTool &&
        !(state.toolCalls.find? ((event.u64 "output_index").getD 0)).any (·.addedEmitted))
      result := by
  unfold translateItemAdded at run
  cases given : event.get "item" with
  | none =>
    rw [given] at run
    obtain rfl := (Except.ok.inj run).symm
    exact .still rfl rfl rfl
  | some value =>
    rw [given, Option.bind_some] at run
    rw [Option.any_some, callsTool]
    cases object : value.asObject with
    | none =>
      rw [object] at run
      obtain rfl := (Except.ok.inj run).symm
      exact .still rfl rfl rfl
    | some item =>
      rw [object] at run
      dsimp only at run
      cases kind : responseOutputItemKind item with
      | error error => rw [kind] at run; cases run
      | ok found =>
        rw [kind] at run
        simp only [Option.map_some, kind]
        cases found with
        | reasoning =>
          obtain rfl := (Except.ok.inj run).symm
          exact .still rfl rfl rfl
        | functionCall | customToolCall =>
          refine @afterRole_emits _ _ _ _ (emitFunctionCallItemAdded stamp codec · event item) _
            run ?_
          intro _ _ _ emitted ran
          exact emitFunctionCallItemAdded_emits ran
        | message | agentMessage =>
          dsimp only at run
          split at run
          · cases run
          split at run
          · cases run
          next single ensured =>
            obtain rfl := single_of_ensured ensured
            obtain rfl := (Except.ok.inj run).symm
            refine Emits.of_same (@greet_emits stamp _ _ ?_ ?_ ?_) rfl rfl rfl
            all_goals rfl

theorem emitOutputItemDone_emits {state : ResponsesToChatState} {event : Json}
    {result : ResponsesToChatState × List Json}
    (emitted : state.emitOutputItemDone stamp codec event = .ok result) :
    Emits state false
      (match (event.get "item").bind Json.asObject with
      | none => false
      | some item =>
        match responseOutputItemKind item with
        | .ok .customToolCall => state.closesInput codec (itemInputDone event item)
        | .ok .agentMessage => state.showsAgentMessage codec item
        | _ => false) result := by
  unfold emitOutputItemDone at emitted
  cases given : (event.get "item").bind Json.asObject with
  | none =>
    rw [given] at emitted
    obtain rfl := (Except.ok.inj emitted).symm
    exact .still rfl rfl rfl
  | some item =>
    rw [given] at emitted
    dsimp only at emitted ⊢
    cases kind : responseOutputItemKind item with
    | error error => rw [kind] at emitted; cases emitted
    | ok found =>
      rw [kind] at emitted
      cases found with
      | functionCall =>
        obtain rfl := Except.ok.inj emitted
        exact emitFunctionCallArgumentsDone_emits state event
      | customToolCall => exact emitCustomToolCallInputDone_emits emitted
      | reasoning =>
        obtain rfl := Except.ok.inj emitted
        exact .still rfl rfl rfl
      | message =>
        dsimp only at emitted
        split at emitted
        · cases emitted
        split at emitted
        · cases emitted
        next single ensured =>
          obtain rfl := single_of_ensured ensured
          obtain rfl := Except.ok.inj emitted
          exact (emitFunctionCallArgumentsDone_emits _ event).of_same rfl rfl rfl
      | agentMessage =>
        dsimp only at emitted
        split at emitted
        · cases emitted
        split at emitted
        · cases emitted
        next single ensured =>
          obtain rfl := single_of_ensured ensured
          rw [if_pos rfl] at emitted
          split at emitted
          · cases emitted
          next sent shown =>
            obtain rfl := Except.ok.inj emitted
            have content := emitAgentMessageContentIfNeeded_emits shown
            have settled := emitFunctionCallArgumentsDone_emits sent.1 event
            refine Emits.of_same ⟨settled.completed.trans content.completed,
              fun before => settled.role (content.role before), content.told, content.called,
              ?_, content.delivered⟩ rfl rfl rfl
            rw [settled.calls, content.calls]
            simp

-- Behind the end, another completed event sends at most the text of its agent message.
theorem translateCompleted_emits {state : ResponsesToChatState} {event : Json}
    {result : ResponsesToChatState × List Json} (ended : state.completedEmitted = true)
    (run : state.translateCompleted stamp codec event = .ok result) :
    Emits state false
      (!state.agentMessageContentEmitted &&
        match firstAgentMessage 0 ((responseOutput event).getD []) with
        | .ok (some (_, item)) => state.showsAgentMessage codec item
        | _ => false) result := by
  unfold translateCompleted at run
  split at run
  · cases run
  split at run
  · cases run
  next emitted content sent =>
    have emits := emitCompletedAgentMessageContent_emits sent
    rw [finish, if_pos (emits.completed.trans ended)] at run
    obtain rfl := Except.ok.inj run
    rw [List.append_nil]
    exact emits

-- Every event but the one that ends the response opens and delivers what is said of it.
theorem translateEvent_emits {state : ResponsesToChatState} {event : Json}
    {result : ResponsesToChatState × List Json}
    (run : state.translateEvent stamp codec event = .ok result)
    (goes : event.str "type" = some "response.completed" → state.completedEmitted = true) :
    Emits state (opensToolCall event) (state.delivers codec event) result := by
  unfold translateEvent at run
  unfold opensToolCall delivers
  cases type : event.str "type" with
  | none =>
    rw [type] at run
    obtain rfl := (Except.ok.inj run).symm
    exact .still rfl rfl rfl
  | some eventType =>
    rw [type] at run
    dsimp only at run
    have known {opens shows : Bool}
        (emits : Emits (state.initializeMetadata stamp event) opens shows result) :
        Emits state opens shows result := emits.of_same rfl rfl rfl
    split at run
    · refine known (afterRole_emits run ?_)
      intro _ _ _ emitted ran
      obtain rfl := (Except.ok.inj ran).symm
      exact .still rfl rfl rfl
    · exact known (translateItemAdded_emits run)
    · refine known (afterRole_emits run ?_)
      intro _ _ _ emitted ran
      refine atMessage_emits ran ?_
      intro _ _ done
      exact emitOutputTextDelta_emits done
    · refine known (afterRole_emits run ?_)
      intro _ _ _ emitted ran
      refine atMessage_emits ran ?_
      intro _ _ done
      obtain rfl := Except.ok.inj done
      exact emitOutputTextDone_emits _ event
    · refine known (afterRole_emits run ?_)
      intro _ _ _ emitted ran
      exact emitFunctionCallArgumentsDelta_emits ran
    · refine known (afterRole_emits run ?_)
      intro _ _ _ emitted ran
      exact emitFunctionCallArgumentsDelta_emits ran
    · refine known (afterRole_emits run ?_)
      intro _ _ _ emitted ran
      obtain rfl := Except.ok.inj ran
      exact emitFunctionCallArgumentsDone_emits _ event
    · refine known (afterRole_emits run ?_)
      intro _ _ _ emitted ran
      exact emitCustomToolCallInputDone_emits ran
    · refine known (afterRole_emits run ?_)
      intro _ _ _ emitted ran
      exact emitOutputItemDone_emits ran
    · refine known (afterRole_emits run ?_)
      intro _ _ _ emitted ran
      exact translateCompleted_emits (goes type) ran
    · obtain rfl := (Except.ok.inj run).symm
      have quiet : Emits state false false (state.initializeMetadata stamp event, []) :=
        .still rfl rfl rfl
      convert quiet using 1
      · split <;> simp_all
      · split <;> simp_all

structure Ends (before : ResponsesToChatState) (result : ResponsesToChatState × List Json) :
    Prop where
  completed : result.1.completedEmitted = true
  role : result.1.assistantRoleEmitted = true
  told : result.2.flatMap finishReasons =
    [.string (if before.toolCalls.isEmpty then "stop" else "tool_calls")]
  silent : silentAfterFinish result.2 = true
  called : before.toolCalls.isEmpty = true → result.2.any carriesToolCall = false
  calls : result.1.toolCalls.isEmpty = before.toolCalls.isEmpty

theorem emitPending_emits {state : ResponsesToChatState}
    {result : ResponsesToChatState × List Json}
    (emitted : state.emitPending stamp codec = .ok result) :
    ∃ shows, Emits state false shows result := by
  unfold emitPending at emitted
  split at emitted
  · obtain rfl := Except.ok.inj emitted
    exact ⟨false, .still rfl rfl rfl⟩
  · exact ⟨_, (emitAgentMessageContentIfNeeded_emits emitted).of_same rfl rfl rfl⟩

theorem emitAssistantRole_role (state : ResponsesToChatState) :
    (state.emitAssistantRole stamp).1.assistantRoleEmitted = true := by
  unfold emitAssistantRole
  split
  next sent => exact sent
  next => rfl

theorem flatMap_untold {chunks : List Json} (untold : ∀ chunk ∈ chunks, finishReasons chunk = []) :
    chunks.flatMap finishReasons = [] :=
  List.flatMap_eq_nil_iff.2 untold

theorem finish_ends {state : ResponsesToChatState} {result : ResponsesToChatState × List Json}
    (running : state.completedEmitted = false) (run : state.finish stamp codec = .ok result) :
    Ends state result := by
  unfold finish at run
  rw [if_neg (by simp [running])] at run
  dsimp only at run
  split at run
  · cases run
  next emitted content pending =>
    obtain rfl := Except.ok.inj run
    have greets := @greet_emits stamp state _ rfl rfl rfl
    obtain ⟨shows, emits⟩ := emitPending_emits pending
    have calls : emitted.toolCalls.isEmpty = state.toolCalls.isEmpty := by
      rw [emits.calls, greets.calls]
      simp
    have earlier : ∀ chunk ∈ (state.emitAssistantRole stamp).2 ++ content,
        finishReasons chunk = [] := by
      intro chunk member
      rcases List.mem_append.1 member with greeting | message
      · exact greets.told chunk greeting
      · exact emits.told chunk message
    refine ⟨rfl, emits.role (emitAssistantRole_role state), ?_, ?_, ?_, calls⟩
    · rw [List.flatMap_append, flatMap_untold earlier, List.nil_append, List.flatMap_singleton,
        finishReasons_chunk, calls]
      rfl
    · rw [silentAfterFinish_append _ earlier, silentAfterFinish, finishReasons_chunk]
      rfl
    · intro none
      have greeted : (state.emitAssistantRole stamp).1.toolCalls.isEmpty = true := by
        rw [greets.calls, none]
        rfl
      rw [List.any_append, List.any_append, greets.called none, emits.called greeted]
      rfl

theorem translateCompleted_ends {state : ResponsesToChatState} {event : Json}
    {result : ResponsesToChatState × List Json} (running : state.completedEmitted = false)
    (run : state.translateCompleted stamp codec event = .ok result) : Ends state result := by
  unfold translateCompleted at run
  split at run
  · cases run
  split at run
  · cases run
  next emitted content sent =>
    have emits := emitCompletedAgentMessageContent_emits sent
    split at run
    · cases run
    next finished chunks ran =>
      obtain rfl := Except.ok.inj run
      have ends := finish_ends (emits.completed.trans running) ran
      have calls : emitted.toolCalls.isEmpty = state.toolCalls.isEmpty := by
        rw [emits.calls]
        simp
      refine ⟨ends.completed, ends.role, ?_, ?_, ?_, ends.calls.trans calls⟩
      · rw [List.flatMap_append, flatMap_untold emits.told, ends.told, calls]
        rfl
      · rw [silentAfterFinish_append _ emits.told]
        exact ends.silent
      · intro none
        rw [List.any_append, emits.called none, ends.called (calls.trans none)]
        rfl

theorem translateEvent_ends {state : ResponsesToChatState} {event : Json}
    {result : ResponsesToChatState × List Json} (running : state.completedEmitted = false)
    (type : event.str "type" = some "response.completed")
    (run : state.translateEvent stamp codec event = .ok result) : Ends state result := by
  unfold translateEvent at run
  rw [type] at run
  change (state.initializeMetadata stamp event).afterRole stamp
    (translateCompleted stamp codec event) = .ok result at run
  unfold afterRole at run
  have greets := @greet_emits stamp (state.initializeMetadata stamp event) _ rfl rfl rfl
  generalize (state.initializeMetadata stamp event).emitAssistantRole stamp = greeted at run greets
  dsimp only at run
  split at run
  · cases run
  next finished chunks ran =>
    obtain rfl := Except.ok.inj run
    have ends := translateCompleted_ends (greets.completed.trans running) ran
    have calls : greeted.1.toolCalls.isEmpty = state.toolCalls.isEmpty := by
      rw [greets.calls]
      exact Bool.and_true _
    refine ⟨ends.completed, ends.role, ?_, ?_, ?_, ends.calls.trans calls⟩
    · rw [List.flatMap_append, flatMap_untold greets.told, ends.told, calls]
      rfl
    · rw [silentAfterFinish_append _ greets.told]
      exact ends.silent
    · intro none
      rw [List.any_append, greets.called none, ends.called (calls.trans none)]
      rfl

theorem carriesToolCall_of_silent {chunks : List Json} (silent : chunks.any carriesOutput = false) :
    chunks.any carriesToolCall = false := by
  rw [List.any_eq_false] at silent ⊢
  intro chunk member called
  exact silent chunk member (by rw [carriesOutput, called, Bool.true_or])

-- Behind the end no finish is told, and output is sent where an event delivers some.
theorem translateFrom_ended {state : ResponsesToChatState} {events chunks : List Json}
    (ended : state.completedEmitted = true) (sent : state.assistantRoleEmitted = true)
    (run : state.translateFrom stamp codec events = .ok chunks) :
    chunks.flatMap finishReasons = [] ∧
      (chunks.any carriesOutput = false ↔ state.QuietAfterEnd stamp codec events) := by
  induction events generalizing state chunks with
  | nil =>
    simp only [translateFrom, finish, ended, if_true, Except.map, Except.ok.injEq] at run
    subst run
    simp [QuietAfterEnd]
  | cons event rest ih =>
    simp only [translateFrom] at run
    simp only [QuietAfterEnd, ended, true_implies]
    cases stepped : state.translateEvent stamp codec event with
    | error failure =>
      rw [stepped] at run
      cases run
    | ok result =>
      obtain ⟨next, first⟩ := result
      rw [stepped] at run
      dsimp only at run ⊢
      split at run
      · cases run
      next later followed =>
        obtain rfl := Except.ok.inj run
        have emits := translateEvent_emits stepped fun _ => ended
        obtain ⟨untold, silent⟩ := ih (emits.completed.trans ended) (emits.role sent) followed
        constructor
        · rw [List.flatMap_append, flatMap_untold emits.told, untold]
          rfl
        · rw [List.any_append, Bool.or_eq_false_iff, emits.delivered sent, silent]

theorem opens_ended {state : ResponsesToChatState} {events chunks : List Json}
    (ended : state.completedEmitted = true) (sent : state.assistantRoleEmitted = true)
    (run : state.translateFrom stamp codec events = .ok chunks)
    (quiet : state.QuietAfterEnd stamp codec events) (none : state.toolCalls.isEmpty = true) :
    events.any opensToolCall = false := by
  induction events generalizing state chunks with
  | nil => rfl
  | cons event rest ih =>
    simp only [translateFrom] at run
    split at run
    · cases run
    next next first stepped =>
      split at run
      · cases run
      next later followed =>
        have emits := translateEvent_emits stepped fun _ => ended
        obtain ⟨silent, quiet⟩ := quiet
        rw [stepped] at quiet
        have opens : opensToolCall event = false := by
          rw [← emits.called none]
          exact carriesToolCall_of_silent ((emits.delivered sent).trans (silent ended))
        have still : next.toolCalls.isEmpty = true := by
          rw [emits.calls, none, opens]
          rfl
        rw [List.any_cons, opens, Bool.false_or]
        exact ih (emits.completed.trans ended) (emits.role sent) followed quiet still

structure Finished (stamp : ChatStamp) (codec : JsonCodec) (state : ResponsesToChatState)
    (events chunks : List Json) (reason : String) : Prop where
  once : chunks.flatMap finishReasons = [.string reason]
  silent : silentAfterFinish chunks = true ↔ state.QuietAfterEnd stamp codec events
  plain : reason = "stop" ∨ reason = "tool_calls"
  reason : state.QuietAfterEnd stamp codec events →
    reason = if state.toolCalls.isEmpty && !events.any opensToolCall then "stop" else "tool_calls"
  called : state.QuietAfterEnd stamp codec events → state.toolCalls.isEmpty = true →
    chunks.any carriesToolCall = events.any opensToolCall

theorem opens_of_completed {event : Json} (type : event.str "type" = some "response.completed") :
    opensToolCall event = false := by
  simp [opensToolCall, type]

theorem translateFrom_finished {state : ResponsesToChatState} {events chunks : List Json}
    (running : state.completedEmitted = false)
    (run : state.translateFrom stamp codec events = .ok chunks) :
    ∃ reason, Finished stamp codec state events chunks reason := by
  induction events generalizing state chunks with
  | nil =>
    obtain ⟨result, finished, rfl⟩ := Except.map_eq_ok.1 run
    have ends := finish_ends running finished
    refine ⟨_, ends.told, ?_, ?_, ?_, ?_⟩
    · simp [ends.silent, QuietAfterEnd]
    · cases state.toolCalls.isEmpty <;> simp
    · intro _
      simp
    · intro _ none
      exact ends.called none
  | cons event rest ih =>
    simp only [translateFrom] at run
    split at run
    · cases run
    next next first stepped =>
      split at run
      · cases run
      next later followed =>
        obtain rfl := Except.ok.inj run
        have quietIff : state.QuietAfterEnd stamp codec (event :: rest) ↔
            next.QuietAfterEnd stamp codec rest := by
          simp [QuietAfterEnd, running, stepped]
        by_cases type : event.str "type" = some "response.completed"
        · -- The event ends the response, the rest of the run is behind the end.
          have ends := translateEvent_ends running type stepped
          obtain ⟨untold, silent⟩ := translateFrom_ended ends.completed ends.role followed
          refine ⟨if state.toolCalls.isEmpty then "stop" else "tool_calls", ?_, ?_, ?_, ?_, ?_⟩
          · rw [List.flatMap_append, ends.told, untold, List.append_nil]
          · rw [silentAfterFinish_told _ (by simp [ends.told]), ends.silent, Bool.true_and,
              Bool.not_eq_true', silent, quietIff]
          · cases state.toolCalls.isEmpty <;> simp
          · intro quiet
            cases none : state.toolCalls.isEmpty with
            | false => simp
            | true =>
              have opens := opens_ended ends.completed ends.role followed (quietIff.1 quiet)
                (ends.calls.trans none)
              simp [opens, opens_of_completed type]
          · intro quiet none
            have opens := opens_ended ends.completed ends.role followed (quietIff.1 quiet)
              (ends.calls.trans none)
            rw [List.any_append, ends.called none, List.any_cons, opens_of_completed type, opens,
              carriesToolCall_of_silent (silent.2 (quietIff.1 quiet))]
        · have emits := translateEvent_emits stepped fun completed => absurd completed type
          obtain ⟨reason, finished⟩ := ih (emits.completed.trans running) followed
          refine ⟨reason, ?_, ?_, finished.plain, ?_, ?_⟩
          · rw [List.flatMap_append, flatMap_untold emits.told, finished.once]
            rfl
          · rw [silentAfterFinish_append _ emits.told, finished.silent, quietIff]
          · intro quiet
            rw [finished.reason (quietIff.1 quiet), emits.calls, List.any_cons, Bool.not_or,
              Bool.and_assoc]
          · intro quiet none
            rw [List.any_append, emits.called none, List.any_cons]
            cases opened : opensToolCall event with
            | true => rfl
            | false =>
              rw [finished.called (quietIff.1 quiet) (by rw [emits.calls, none, opened]; rfl)]

end ResponsesToChatState

open ResponsesToChatState

/-- The streams whose finish is truthful: no `response.incomplete` event gives a reason, no event
behind the end delivers output, and the terminal response lists tool calls if the stream opened
some. -/
structure ForeseenFinish (stamp : ChatStamp) (codec : JsonCodec)
    (toolRegistry : Option ToolAdapterRegistry) (events : List Json) : Prop where
  unstopped : ∀ event ∈ events, stoppedBy event = none
  quiet : QuietAfterEnd stamp codec { toolRegistry } events
  listed : ∀ event ∈ events, ∀ response payload, terminalResponse event = some response →
    responsesResponseToChatPayload codec toolRegistry response = .ok payload →
      listsToolCall response = events.any opensToolCall

theorem stoppedBy_reason {event : Json} {named : String} (stopped : stoppedBy event = some named) :
    named = "length" ∨ named = "content_filter" := by
  unfold stoppedBy at stopped
  split at stopped
  · split at stopped
    · exact .inl (Option.some.inj stopped).symm
    · exact .inr (Option.some.inj stopped).symm
    · cases stopped
  · cases stopped

theorem truthful_finish_iff (stamp : ChatStamp) (codec : JsonCodec)
    (toolRegistry : Option ToolAdapterRegistry) (events chunks : List Json)
    (run : translateFrom stamp codec { toolRegistry } events = .ok chunks) :
    (∃ reason, TruthfulFinish codec toolRegistry events chunks reason) ↔
      ForeseenFinish stamp codec toolRegistry events := by
  obtain ⟨told, finished⟩ := translateFrom_finished rfl run
  have named (quiet : QuietAfterEnd stamp codec { toolRegistry } events) :
      told = if events.any opensToolCall then "tool_calls" else "stop" := by
    rw [finished.reason quiet]
    cases events.any opensToolCall <;> rfl
  constructor
  · rintro ⟨reason, truthful⟩
    obtain rfl : reason = told := by
      have same := truthful.once.symm.trans finished.once
      simpa using same
    have quiet := finished.silent.1 truthful.silent
    refine ⟨?_, quiet, ?_⟩
    · intro event member
      cases stopped : stoppedBy event with
      | none => rfl
      | some named =>
        have same := truthful.stopped event member named stopped
        rcases stoppedBy_reason stopped with rfl | rfl <;> rcases finished.plain with plain | plain <;>
          simp [plain] at same
    · intro event member response payload terminal accepted
      have same := truthful.document event member response payload terminal accepted
      rw [finishReasons_document accepted, named quiet] at same
      cases listed : listsToolCall response <;> cases opened : events.any opensToolCall <;>
        simp [listed, opened] at same ⊢
  · intro foreseen
    have called := finished.called foreseen.quiet rfl
    refine ⟨told, finished.once, finished.silent.2 foreseen.quiet, ?_, ?_, ?_⟩
    · intro event member named stopped
      rw [foreseen.unstopped event member] at stopped
      cases stopped
    · intro _
      rw [called, named foreseen.quiet]
    · intro event member response payload terminal accepted
      rw [finishReasons_document accepted, named foreseen.quiet,
        foreseen.listed event member response payload terminal accepted]

def answerCodec : JsonCodec := serdeCodec fun _ => []

def answerDelta : Json :=
  .object [("type", .string "response.output_text.delta"), ("delta", .string "Hi")]

def answerCompleted : Json :=
  .object
    [("type", .string "response.completed"),
      ("response", .object [("model", .string "m"), ("output", .array [])])]

def answerCutShort : Json :=
  .object
    [("type", .string "response.incomplete"),
      ("response", .object
        [("incomplete_details", .object [("reason", .string "max_output_tokens")])])]

def answerChunks (events : List Json) : List Json :=
  match translateFrom ⟨"resp", 0⟩ answerCodec {} events with
  | .ok chunks => chunks
  | .error _ => []

theorem answer_foreseen :
    ForeseenFinish ⟨"resp", 0⟩ answerCodec none [answerDelta, answerCompleted] where
  unstopped := by decide +kernel
  quiet := ⟨nofun, nofun, trivial⟩
  listed event member response payload terminal _ := by
    rcases List.mem_cons.1 member with rfl | last
    · have silent : terminalResponse answerDelta = none := by decide +kernel
      rw [silent] at terminal
      cases terminal
    · obtain rfl := List.mem_singleton.1 last
      obtain rfl := Option.some.inj terminal
      decide +kernel

theorem truthful_finish_iff_answering :
    ∃ reason, TruthfulFinish answerCodec none [answerDelta, answerCompleted]
      (answerChunks [answerDelta, answerCompleted]) reason :=
  (truthful_finish_iff ⟨"resp", 0⟩ answerCodec none [answerDelta, answerCompleted]
    (answerChunks [answerDelta, answerCompleted]) rfl).2 answer_foreseen

/-- A stream cut short by the token limit ends as if the answer were complete. -/
theorem cut_short_tells_stop :
    translateFrom ⟨"resp", 0⟩ answerCodec {} [answerDelta, answerCutShort] =
        .ok (answerChunks [answerDelta, answerCutShort]) ∧
      stoppedBy answerCutShort = some "length" ∧
      (answerChunks [answerDelta, answerCutShort]).flatMap finishReasons = [.string "stop"] ∧
      ¬ ∃ reason, TruthfulFinish answerCodec none [answerDelta, answerCutShort]
        (answerChunks [answerDelta, answerCutShort]) reason := by
  have told : (answerChunks [answerDelta, answerCutShort]).flatMap finishReasons =
      [.string "stop"] := by decide +kernel
  refine ⟨rfl, by decide +kernel, told, ?_⟩
  rintro ⟨reason, truthful⟩
  have stopped := truthful.stopped answerCutShort (by simp) "length" (by decide +kernel)
  rw [truthful.once, stopped] at told
  simp at told

end ChatGateway
