import ChatGateway.Protocol.TextDelivery

set_option autoImplicit false

/-!
# Tool calls in Chat chunks

The arguments of a tool call can come from deltas, from the event that ends them or only with the
item that is done. This module compares what the Chat chunks carry for each call with the call the
stream describes.
-/

namespace ChatGateway

structure ToolFragment where
  id : Option String
  name : Option String
  arguments : Text
deriving DecidableEq

def choiceToolFragments (index : Nat) (choice : Json) : List ToolFragment :=
  let calls := (((choice.get "delta").bind (·.get "tool_calls")).bind Json.asArray).getD []
  calls.filterMap fun call =>
    if call.u64 "index" = some index then
      some
        { id := call.str "id"
          name := (call.get "function").bind (·.str "name")
          arguments := (((call.get "function").bind (·.str "arguments")).getD "").toList }
    else none

def toolFragments (index : Nat) (chunks : List Json) : List ToolFragment :=
  chunks.flatMap fun chunk =>
    (((chunk.get "choices").bind Json.asArray).getD []).flatMap (choiceToolFragments index)

@[simp] theorem toolFragments_nil (index : Nat) : toolFragments index [] = [] := rfl

@[simp] theorem toolFragments_append (index : Nat) (earlier later : List Json) :
    toolFragments index (earlier ++ later) =
      toolFragments index earlier ++ toolFragments index later :=
  List.flatMap_append

inductive ToolStep where
  | added
  | delta (fragment : String)
  | done
  | itemDone
deriving DecidableEq

/-- A tool call as the stream describes it: its deltas, if any, add up to the full arguments or
input, and `name` is the name the registry maps the call to. -/
structure ToolCall where
  custom : Bool
  callId : String
  name : String
  fragments : List String
  full : String
  whole : fragments = [] ∨ fragments.flatMap String.toList = full.toList

namespace ToolCall

def steps (call : ToolCall) : List ToolStep :=
  .added :: call.fragments.map .delta ++ [.done, .itemDone]

def itemType (call : ToolCall) : String :=
  if call.custom then "custom_tool_call" else "function_call"

def payload (call : ToolCall) : String :=
  if call.custom then "input" else "arguments"

def deltaType (call : ToolCall) : String :=
  if call.custom then "response.custom_tool_call_input.delta"
  else "response.function_call_arguments.delta"

def doneType (call : ToolCall) : String :=
  if call.custom then "response.custom_tool_call_input.done"
  else "response.function_call_arguments.done"

/-- The item an `output_item.added` event carries, with its arguments or input still empty. -/
def AddedItem (toolRegistry : Option ToolAdapterRegistry) (call : ToolCall)
    (fields : List (String × Json)) : Prop :=
  Json.field fields "type" = some (.string call.itemType) ∧
    (∃ itemId, Json.field fields "id" = some (.string itemId)) ∧
    Json.field fields "call_id" = some (.string call.callId) ∧
    (∃ originalName, Json.field fields "name" = some (.string originalName) ∧
      responseChatToolName fields originalName toolRegistry = call.name) ∧
    (Json.field fields call.payload = none ∨ Json.field fields call.payload = some (.string ""))

def DoneItem (call : ToolCall) (fields : List (String × Json)) : Prop :=
  Json.field fields "type" = some (.string call.itemType) ∧
    Json.field fields call.payload = some (.string call.full)

def StepEvent (toolRegistry : Option ToolAdapterRegistry) (call : ToolCall) (index : Nat)
    (event : Json) : ToolStep → Prop
  | .added => event.str "type" = some "response.output_item.added" ∧
      event.u64 "output_index" = some index ∧
      ∃ fields, event.get "item" = some (.object fields) ∧ call.AddedItem toolRegistry fields
  | .delta fragment => event.str "type" = some call.deltaType ∧
      event.u64 "output_index" = some index ∧ event.str "delta" = some fragment
  | .done => event.str "type" = some call.doneType ∧
      event.u64 "output_index" = some index ∧ event.str call.payload = some call.full
  | .itemDone => event.str "type" = some "response.output_item.done" ∧
      event.u64 "output_index" = some index ∧
      ∃ fields, event.get "item" = some (.object fields) ∧ call.DoneItem fields

def chatArguments (codec : JsonCodec) (call : ToolCall) : Text :=
  if call.custom then (codec.print (.object [("input", .string call.full)])).toList
  else call.full.toList

structure CarriedBy (call : ToolCall) (fragments : List ToolFragment) (arguments : Text) : Prop where
  ids : ∀ fragment ∈ fragments, fragment.id = some call.callId
  names : ∀ fragment ∈ fragments, ∀ name, fragment.name = some name → name = call.name
  named : ∃ fragment ∈ fragments, fragment.name = some call.name
  arguments : fragments.flatMap ToolFragment.arguments = arguments

end ToolCall

/-- An event of the stream and the step of a tool call it is, if any. The other events are those of
the message at `messageIndex`. -/
inductive ToolStreamEvent (codec : JsonCodec) (toolRegistry : Option ToolAdapterRegistry)
    (calls : Nat → Option ToolCall) (messageIndex : Nat) : Json → Option (Nat × ToolStep) → Prop
  | other {event : Json} (message : MessageEvent codec messageIndex event)
    (indexed : IsItemEvent event → (event.u64 "output_index").isSome) :
    ToolStreamEvent codec toolRegistry calls messageIndex event none
  | tool {event : Json} {index : Nat} {call : ToolCall} {step : ToolStep}
    (found : calls index = some call) (fits : call.StepEvent toolRegistry index event step) :
    ToolStreamEvent codec toolRegistry calls messageIndex event (some (index, step))

def stepsAt (index : Nat) (labels : List (Option (Nat × ToolStep))) : List ToolStep :=
  labels.filterMap fun label =>
    label.bind fun step => if step.1 = index then some step.2 else none

def CompletesTools (codec : JsonCodec) (event : Json) : Prop :=
  event.str "type" = some "response.completed" ∧
    ResponsesToChatState.validateCompletedResponseOutput codec event = .ok () ∧
    ∀ items, ResponsesToChatState.responseOutput event = some items →
      ResponsesToChatState.firstAgentMessage 0 items = .ok none

def DescribesCalls (codec : JsonCodec) (toolRegistry : Option ToolAdapterRegistry)
    (calls : Nat → Option ToolCall) (messageIndex : Nat) (events : List Json) : Prop :=
  calls messageIndex = none ∧
    ∃ body terminal labels, events = body ++ terminal ∧
      List.Forall₂ (ToolStreamEvent codec toolRegistry calls messageIndex) body labels ∧
      (∀ index call, calls index = some call → stepsAt index labels = call.steps) ∧
      (terminal = [] ∨ ∃ event, terminal = [event] ∧ CompletesTools codec event)

namespace ResponsesToChatState

variable {stamp : ChatStamp} {codec : JsonCodec}

structure Quiet (state next : ResponsesToChatState) (chunks : List Json) : Prop where
  toolCalls : next.toolCalls = state.toolCalls
  toolRegistry : next.toolRegistry = state.toolRegistry
  fragments : ∀ index, toolFragments index chunks = []

theorem Quiet.trans {first second third : ResponsesToChatState} {earlier later : List Json}
    (before : Quiet first second earlier) (after : Quiet second third later) :
    Quiet first third (earlier ++ later) where
  toolCalls := after.toolCalls.trans before.toolCalls
  toolRegistry := after.toolRegistry.trans before.toolRegistry
  fragments index := by rw [toolFragments_append, before.fragments, after.fragments, List.append_nil]

theorem toolFragments_chunk (index : Nat) (state : ResponsesToChatState) {delta : Json}
    (reason : Option String) (other : delta.get "tool_calls" = none) :
    toolFragments index [state.chunk stamp delta reason] = [] := by
  simp [toolFragments, choiceToolFragments, chunk, makeChatCompletionChunk, Json.asArray, other]

theorem quiet_emitAssistantRole (state : ResponsesToChatState) :
    Quiet state (state.emitAssistantRole stamp).1 (state.emitAssistantRole stamp).2 := by
  unfold emitAssistantRole
  split
  · exact ⟨rfl, rfl, fun _ => rfl⟩
  · exact ⟨rfl, rfl, fun index => toolFragments_chunk index _ _ rfl⟩

theorem quiet_emitCompleteText (state : ResponsesToChatState) (text : String) :
    Quiet state (state.emitCompleteText stamp text).1 (state.emitCompleteText stamp text).2 := by
  simp only [emitCompleteText]
  split
  · exact ⟨rfl, rfl, fun _ => rfl⟩
  · exact ⟨rfl, rfl, fun index => toolFragments_chunk index _ _ rfl⟩

theorem quiet_emitOutputTextDelta {state next : ResponsesToChatState} {event : Json}
    {chunks : List Json} (emitted : state.emitOutputTextDelta stamp event = .ok (next, chunks)) :
    Quiet state next chunks := by
  unfold emitOutputTextDelta at emitted
  split at emitted
  · cases emitted
  · split at emitted
    · cases emitted
      exact ⟨rfl, rfl, fun _ => rfl⟩
    · split at emitted
      · cases emitted
        exact ⟨rfl, rfl, fun _ => rfl⟩
      · cases emitted
        exact ⟨rfl, rfl, fun index => toolFragments_chunk index _ _ rfl⟩

theorem quiet_emitOutputTextDone (state : ResponsesToChatState) (event : Json) :
    Quiet state (state.emitOutputTextDone stamp event).1 (state.emitOutputTextDone stamp event).2 := by
  cases found : event.str "text" with
  | none => exact ⟨by simp [emitOutputTextDone, found], by simp [emitOutputTextDone, found],
      by simp [emitOutputTextDone, found]⟩
  | some text =>
    have quiet := @quiet_emitCompleteText stamp state text
    simp only [emitOutputTextDone, found]
    exact ⟨quiet.toolCalls, quiet.toolRegistry, quiet.fragments⟩

theorem quiet_ensureSingle {state next : ResponsesToChatState} {index : Nat}
    (ensured : state.ensureSingleAssistantMessageOutputIndex index = .ok next) :
    Quiet state next [] := by
  unfold ensureSingleAssistantMessageOutputIndex at ensured
  split at ensured
  · split at ensured
    · cases ensured
      exact ⟨rfl, rfl, fun _ => rfl⟩
    · cases ensured
  · cases ensured
    exact ⟨rfl, rfl, fun _ => rfl⟩

theorem quiet_emitFunctionCallArgumentsDone {state : ResponsesToChatState} {event : Json}
    (absent : state.toolCalls.find? (state.eventToolCallIndex event) = none) :
    Quiet state (state.emitFunctionCallArgumentsDone event) [] := by
  simp only [emitFunctionCallArgumentsDone, absent]
  exact ⟨rfl, rfl, fun _ => rfl⟩

theorem quiet_initializeMetadata (state : ResponsesToChatState) (event : Json) :
    Quiet state (state.initializeMetadata stamp event) [] :=
  ⟨rfl, rfl, fun _ => rfl⟩

theorem quiet_afterRole {state next : ResponsesToChatState} {chunks : List Json}
    {emit : ResponsesToChatState → Except ProtocolError (ResponsesToChatState × List Json)}
    (emitted : state.afterRole stamp emit = .ok (next, chunks))
    (quiet : ∀ later, emit (state.emitAssistantRole stamp).1 = .ok (next, later) →
      Quiet (state.emitAssistantRole stamp).1 next later) :
    Quiet state next chunks := by
  simp only [afterRole] at emitted
  split at emitted
  · cases emitted
  · next result =>
    cases emitted
    exact (quiet_emitAssistantRole state).trans (quiet _ result)

theorem quiet_atMessage {state next : ResponsesToChatState} {event : Json} {chunks : List Json}
    {emit : ResponsesToChatState → Except ProtocolError (ResponsesToChatState × List Json)}
    (emitted : atMessage event emit state = .ok (next, chunks))
    (quiet : ∀ single, emit single = .ok (next, chunks) → Quiet single next chunks) :
    Quiet state next chunks := by
  unfold atMessage at emitted
  split at emitted
  · cases emitted
  · next ensured => exact (quiet_ensureSingle ensured).trans (quiet _ emitted)

theorem quiet_ambient {state next : ResponsesToChatState} {event : Json} {chunks : List Json}
    (ambient : Ambient event)
    (translated : state.translateEvent stamp codec event = .ok (next, chunks)) :
    Quiet state next chunks := by
  cases ambient with
  | other untyped =>
    cases typed : event.str "type" with
    | none =>
      simp only [translateEvent, typed, Except.ok.injEq, Prod.mk.injEq] at translated
      obtain ⟨rfl, rfl⟩ := translated
      exact ⟨rfl, rfl, fun _ => rfl⟩
    | some name =>
      by_cases created : name = "response.created"
      · rw [translateEvent_created state (created ▸ typed)] at translated
        refine (quiet_initializeMetadata state event).trans (quiet_afterRole translated ?_)
        rintro later ⟨⟩
        exact ⟨rfl, rfl, fun _ => rfl⟩
      · rw [translateEvent_unknown state typed created untyped] at translated
        cases translated
        exact quiet_initializeMetadata state event
  | reasoning item typed carried kind =>
    obtain ⟨fields, rfl, isReasoning⟩ := kind_of_reasoning kind
    rcases typed with added | done
    · rw [translateEvent_added state added] at translated
      simp only [translateItemAdded, carried, Option.bind_some, Json.asObject, isReasoning]
        at translated
      cases translated
      exact quiet_initializeMetadata state event
    · rw [translateEvent_itemDone state done] at translated
      refine (quiet_initializeMetadata state event).trans (quiet_afterRole translated ?_)
      intro later emitted
      simp only [emitOutputItemDone, carried, Option.bind_some, Json.asObject, isReasoning]
        at emitted
      cases emitted
      exact ⟨rfl, rfl, fun _ => rfl⟩

theorem quiet_messageItem {index : Nat} {state next : ResponsesToChatState} {event : Json}
    {chunks : List Json} (carries : Carries index (MessageItem codec) event)
    (indexed : (event.u64 "output_index").isSome) (absent : state.toolCalls.find? index = none)
    (translated : state.translateEvent stamp codec event = .ok (next, chunks)) :
    Quiet state next chunks := by
  obtain ⟨typed, position, item, carried, accepted⟩ := carries
  obtain ⟨fields, message, rfl, kind, converted⟩ := kind_of_message accepted
  have here : event.u64 "output_index" = some index := by
    obtain ⟨value, found⟩ := Option.isSome_iff_exists.1 indexed
    rw [found] at position ⊢
    exact congrArg some position
  rcases typed with added | done
  · rw [translateEvent_added state added] at translated
    simp only [translateItemAdded, carried, Option.bind_some, Json.asObject, kind, converted]
      at translated
    split at translated
    · cases translated
    · next single ensured =>
      cases translated
      exact (quiet_initializeMetadata state event).trans
        ((quiet_ensureSingle ensured).trans (quiet_emitAssistantRole single))
  · rw [translateEvent_itemDone state done] at translated
    refine (quiet_initializeMetadata state event).trans (quiet_afterRole translated ?_)
    intro later emitted
    simp only [emitOutputItemDone, carried, Option.bind_some, Json.asObject, kind, converted]
      at emitted
    split at emitted
    · cases emitted
    · next single ensured =>
      have same : single.toolCalls = state.toolCalls :=
        (quiet_ensureSingle ensured).toolCalls.trans (quiet_emitAssistantRole _).toolCalls
      cases emitted
      refine (quiet_ensureSingle ensured).trans (quiet_emitFunctionCallArgumentsDone ?_)
      simpa [eventToolCallIndex, here, same] using absent

theorem quiet_message {index : Nat} {state next : ResponsesToChatState} {event : Json}
    {chunks : List Json} (message : MessageEvent codec index event)
    (indexed : IsItemEvent event → (event.u64 "output_index").isSome)
    (absent : state.toolCalls.find? index = none)
    (translated : state.translateEvent stamp codec event = .ok (next, chunks)) :
    Quiet state next chunks := by
  cases message with
  | ambient ambient => exact quiet_ambient ambient translated
  | item carries => exact quiet_messageItem carries (indexed carries.typed) absent translated
  | text typed position =>
    rcases textStep_cases typed with ⟨delta, name, -⟩ | ⟨text, name, -⟩
    · simp only [translateEvent, name] at translated
      refine (quiet_initializeMetadata state event).trans (quiet_afterRole translated ?_)
      intro later emitted
      exact quiet_atMessage emitted fun single result => quiet_emitOutputTextDelta result
    · simp only [translateEvent, name] at translated
      refine (quiet_initializeMetadata state event).trans (quiet_afterRole translated ?_)
      intro later emitted
      refine quiet_atMessage emitted fun single result => ?_
      cases result
      exact quiet_emitOutputTextDone single event

structure Touches (index : Nat) (entry : ResponsesToolCallState) (fragments : List ToolFragment)
    (state next : ResponsesToChatState) (chunks : List Json) : Prop where
  toolCalls : next.toolCalls = state.toolCalls.put index entry
  toolRegistry : next.toolRegistry = state.toolRegistry
  view : next.view = state.view
  fragments : toolFragments index chunks = fragments
  others : ∀ other, other ≠ index → toolFragments other chunks = []

theorem toolFragments_toolCallChunk (state : ResponsesToChatState) (index other : Nat)
    (callId : String) (function : List (String × Json)) :
    toolFragments other [state.toolCallChunk stamp index callId function] =
      if index = other then
        [{ id := some callId
           name := (Json.field function "name").bind Json.asStr
           arguments := (((Json.field function "arguments").bind Json.asStr).getD "").toList }]
      else [] := by
  by_cases same : index = other <;>
    simp [toolFragments, choiceToolFragments, toolCallChunk, chunk, makeChatCompletionChunk,
      Json.asArray, Json.u64, Json.ofNat, Json.asU64, Json.str, Json.asStr, same]

theorem Touches.after_role {index : Nat} {entry : ResponsesToolCallState}
    {fragments : List ToolFragment} {state greeted next : ResponsesToChatState}
    {role chunks : List Json} (quiet : Quiet state greeted role) (same : greeted.view = state.view)
    (touches : Touches index entry fragments greeted next chunks) :
    Touches index entry fragments state next (role ++ chunks) where
  toolCalls := by rw [touches.toolCalls, quiet.toolCalls]
  toolRegistry := by rw [touches.toolRegistry, quiet.toolRegistry]
  view := by rw [touches.view, same]
  fragments := by rw [toolFragments_append, quiet.fragments, touches.fragments, List.nil_append]
  others other different := by
    rw [toolFragments_append, quiet.fragments, touches.others other different, List.nil_append]

theorem afterRole_touches {index : Nat} {fragments : List ToolFragment}
    {state : ResponsesToChatState} {event : Json} {Leaves : ResponsesToolCallState → Prop}
    {emit : ResponsesToChatState → Except ProtocolError (ResponsesToChatState × List Json)}
    (emits : ∀ greeted : ResponsesToChatState, greeted.toolCalls = state.toolCalls →
      greeted.toolRegistry = state.toolRegistry →
      ∃ entry next chunks, emit greeted = .ok (next, chunks) ∧
        Touches index entry fragments greeted next chunks ∧ Leaves entry) :
    ∃ entry next chunks,
      (state.initializeMetadata stamp event).afterRole stamp emit = .ok (next, chunks) ∧
        Touches index entry fragments state next chunks ∧ Leaves entry := by
  have quiet := @quiet_emitAssistantRole stamp (state.initializeMetadata stamp event)
  obtain ⟨same, -⟩ := @view_emitAssistantRole stamp (state.initializeMetadata stamp event)
  obtain ⟨entry, next, chunks, result, touches, leaves⟩ := emits _ quiet.toolCalls quiet.toolRegistry
  refine ⟨entry, next, ((state.initializeMetadata stamp event).emitAssistantRole stamp).2 ++ chunks,
    by simp only [afterRole, result], ?_, leaves⟩
  exact touches.after_role ⟨quiet.toolCalls, quiet.toolRegistry, quiet.fragments⟩ same

theorem toList_jsonStringFragment (codec : JsonCodec) (value : String) :
    (jsonStringFragment codec value).toList = value.toList.flatMap codec.escape := by
  simp [jsonStringFragment, JsonCodec.quote]

end ResponsesToChatState

namespace ToolCall

variable (codec : JsonCodec) (call : ToolCall)

def opening : Text :=
  if call.custom then "\x7b\"input\":\"".toList else []

def sentArguments (value : Text) : Text :=
  call.opening ++ if call.custom then value.flatMap codec.escape else value

def finalArguments : Text :=
  if call.custom then call.sentArguments codec call.full.toList ++ "\"\x7d".toList
  else call.sentArguments codec (call.fragments.flatMap String.toList)

structure Held (value : Text) (closed : Bool) (entry : ResponsesToolCallState) : Prop where
  callId : entry.callId = call.callId
  customInput : entry.customInput = call.custom
  input : call.custom = true →
    entry.customInputValue.toList = value ∧ entry.customInputClosed = closed ∧ entry.arguments ≠ ""

inductive Phase : List ToolStep → Option ResponsesToolCallState → List ToolFragment → Prop
  | waiting : Phase call.steps none []
  | running {sent rest : List String} {entry : ResponsesToolCallState}
    {fragments : List ToolFragment} (split : call.fragments = sent ++ rest)
    (held : call.Held (sent.flatMap String.toList) false entry)
    (named : entry.name = some call.name)
    (carried : call.CarriedBy fragments (call.sentArguments codec (sent.flatMap String.toList))) :
    Phase (rest.map .delta ++ [.done, .itemDone]) (some entry) fragments
  | closing {entry : ResponsesToolCallState} {fragments : List ToolFragment}
    (held : call.Held call.full.toList true entry)
    (carried : call.CarriedBy fragments (call.finalArguments codec)) :
    Phase [.itemDone] (some entry) fragments
  | closed {entry : ResponsesToolCallState} {fragments : List ToolFragment}
    (carried : call.CarriedBy fragments (call.finalArguments codec)) :
    Phase [] (some entry) fragments

variable {codec call} {stamp : ChatStamp}

theorem CarriedBy.append {fragments : List ToolFragment} {arguments more : Text}
    (carried : call.CarriedBy fragments arguments) {fragment : ToolFragment}
    (id : fragment.id = some call.callId)
    (name : fragment.name = none ∨ fragment.name = some call.name)
    (extended : fragment.arguments = more) :
    call.CarriedBy (fragments ++ [fragment]) (arguments ++ more) where
  ids := by
    intro other member
    rcases List.mem_append.1 member with earlier | last
    · exact carried.ids other earlier
    · rw [List.mem_singleton.1 last, id]
  names := by
    intro other member given found
    rcases List.mem_append.1 member with earlier | last
    · exact carried.names other earlier given found
    · rw [List.mem_singleton.1 last] at found
      rcases name with none | same
      · simp [none] at found
      · exact Option.some.inj (found.symm.trans same)
  named := by
    obtain ⟨first, member, found⟩ := carried.named
    exact ⟨first, List.mem_append_left _ member, found⟩
  arguments := by simp [carried.arguments, extended]

theorem kind_of_itemType {fields : List (String × Json)}
    (typed : Json.field fields "type" = some (.string call.itemType)) :
    responseOutputItemKind fields =
      .ok (if call.custom then .customToolCall else .functionCall) := by
  cases custom : call.custom <;>
    simp [responseOutputItemKind, typed, Json.asStr, itemType, custom]

open ResponsesToChatState in
theorem translateEvent_itemAdded (state : ResponsesToChatState) {event : Json}
    {fields : List (String × Json)} (typed : event.str "type" = some "response.output_item.added")
    (carried : event.get "item" = some (.object fields))
    (kind : Json.field fields "type" = some (.string call.itemType)) :
    state.translateEvent stamp codec event =
      (state.initializeMetadata stamp event).afterRole stamp
        (emitFunctionCallItemAdded stamp codec · event fields) := by
  rw [translateEvent_added state typed]
  cases custom : call.custom <;>
    simp [translateItemAdded, carried, Json.asObject, kind_of_itemType kind, custom, afterRole]

open ResponsesToChatState in
theorem addToolCallItem_custom (itemId callId name arguments : String) (input : Option String) :
    addToolCallItem { itemId, callId, name := some name, customInput := true } itemId callId
        name (some input) arguments =
      ({ itemId, callId, name := some name, customInput := true, arguments
         customInputValue := input.getD "", addedEmitted := true }, true) := by
  simp only [addToolCallItem, ite_self]
  simp

open ResponsesToChatState in
theorem addToolCallItem_function (itemId callId name arguments : String) :
    addToolCallItem { itemId, callId, name := some name, customInput := false } itemId callId
        name none arguments =
      ({ itemId, callId, name := some name, customInput := false, arguments
         addedEmitted := true }, true) := by
  simp only [addToolCallItem, ite_self]
  simp

open ResponsesToChatState in
theorem added_step {index : Nat} {state : ResponsesToChatState} {event : Json}
    (fits : call.StepEvent state.toolRegistry index event .added)
    (absent : state.toolCalls.find? index = none) :
    ∃ entry fragment next chunks, state.translateEvent stamp codec event = .ok (next, chunks) ∧
      Touches index entry [fragment] state next chunks ∧
      call.Held [] false entry ∧ entry.name = some call.name ∧
      call.CarriedBy [fragment] (call.sentArguments codec []) := by
  obtain ⟨typed, position, fields, carried, kind, ⟨itemId, id⟩, callId, ⟨original, name, mapped⟩,
    empty⟩ := fits
  rw [translateEvent_itemAdded state typed carried kind]
  have blank : ((Json.field fields call.payload).bind Json.asStr).getD "" = "" := by
    rcases empty with none | empty
    · simp [none]
    · simp [empty, Json.asStr]
  let entry : ResponsesToolCallState :=
    { itemId, callId := call.callId, name := some call.name
      arguments := String.ofList call.opening, addedEmitted := true, customInput := call.custom }
  let fragment : ToolFragment :=
    { id := some call.callId, name := some call.name, arguments := call.opening }
  have heldNow : call.Held [] false entry :=
    ⟨rfl, rfl, fun custom => by simp [entry, opening, custom]⟩
  have carriedNow : call.CarriedBy [fragment] (call.sentArguments codec []) :=
    ⟨by simp [fragment], by simp [fragment], by simp [fragment], by simp [fragment, sentArguments]⟩
  have emits : ∃ entry next chunks, (state.initializeMetadata stamp event).afterRole stamp
      (emitFunctionCallItemAdded stamp codec · event fields) = .ok (next, chunks) ∧
        Touches index entry [fragment] state next chunks ∧
          call.Held [] false entry ∧ entry.name = some call.name := by
    refine afterRole_touches fun greeted sameCalls sameRegistry => ?_
    have missing : greeted.toolCalls.find? index = none := by rw [sameCalls, absent]
    have mapped' : responseChatToolName fields original greeted.toolRegistry = call.name := by
      rw [sameRegistry, mapped]
    have emitted : emitFunctionCallItemAdded stamp codec greeted event fields =
        .ok ({ greeted.stamped stamp with toolCalls := greeted.toolCalls.put index entry },
          [greeted.toolCallChunk stamp index call.callId
            [("name", .string call.name), ("arguments", .string (String.ofList call.opening))]]) := by
      cases custom : call.custom with
      | true =>
        simp only [ToolCall.payload, custom, if_true] at blank
        simp [emitFunctionCallItemAdded, position, id, callId, name, Json.asStr, mapped', missing,
          addToolCallItem_custom, kind, itemType, custom, opening, entry, blank, jsonStringFragment,
          JsonCodec.quote]
      | false =>
        simp only [ToolCall.payload, custom, Bool.false_eq_true, if_false] at blank
        simp [emitFunctionCallItemAdded, position, id, callId, name, Json.asStr, mapped', missing,
          addToolCallItem_function, kind, itemType, custom, opening, entry, blank]
    refine ⟨entry, _, _, emitted, ⟨rfl, rfl, rfl, ?_, ?_⟩, heldNow, rfl⟩
    · simp [toolFragments_toolCallChunk, Json.asStr, fragment]
    · intro other different
      simp [toolFragments_toolCallChunk, Ne.symm different]
  obtain ⟨left, next, chunks, translated, touches, held, named⟩ := emits
  exact ⟨left, fragment, next, chunks, translated, touches, held, named, carriedNow⟩

open ResponsesToChatState in
theorem delta_step {index : Nat} {state : ResponsesToChatState} {event : Json} {value : Text}
    {fragment : String} {entry : ResponsesToolCallState} {registry : Option ToolAdapterRegistry}
    (fits : call.StepEvent registry index event (.delta fragment))
    (found : state.toolCalls.find? index = some entry)
    (held : call.Held value false entry) (named : entry.name = some call.name) :
    ∃ extended next chunks, state.translateEvent stamp codec event = .ok (next, chunks) ∧
      Touches index extended
        [{ id := some call.callId, name := some call.name
           arguments :=
            if call.custom then fragment.toList.flatMap codec.escape else fragment.toList }]
        state next chunks ∧
      call.Held (value ++ fragment.toList) false extended ∧ extended.name = some call.name := by
  obtain ⟨typed, position, delta⟩ := fits
  have translated : state.translateEvent stamp codec event =
      (state.initializeMetadata stamp event).afterRole stamp
        (emitFunctionCallArgumentsDelta stamp codec · event) := by
    cases custom : call.custom <;> simp only [deltaType, custom] at typed <;>
      simp only [translateEvent, typed] <;> rfl
  have custom_iff : (event.str "type" = some "response.custom_tool_call_input.delta") =
      (call.custom = true) := by
    cases custom : call.custom <;> simp [typed, deltaType, custom]
  let piece := if call.custom then jsonStringFragment codec fragment else fragment
  let extended := { entry with
    customInput := entry.customInput || call.custom
    customInputValue :=
      if call.custom then entry.customInputValue ++ fragment else entry.customInputValue
    arguments := entry.arguments ++ (if call.custom && entry.arguments = "" then
      "\x7b\"input\":\"" else "") ++ piece }
  have piece_text : piece.toList =
      if call.custom then fragment.toList.flatMap codec.escape else fragment.toList := by
    cases custom : call.custom <;> simp [piece, custom, toList_jsonStringFragment]
  have heldNow : call.Held (value ++ fragment.toList) false extended := by
    refine ⟨held.callId, by simp [extended, held.customInput], fun custom => ?_⟩
    obtain ⟨seen, unclosed, nonempty⟩ := held.input custom
    exact ⟨by simp [extended, custom, seen], unclosed, by simp [extended, nonempty]⟩
  rw [translated, ← piece_text]
  refine afterRole_touches fun greeted sameCalls sameRegistry => ?_
  have present : greeted.toolCalls.find? index = some entry := by rw [sameCalls, found]
  have emitted : emitFunctionCallArgumentsDelta stamp codec greeted event =
      .ok ({ greeted.stamped stamp with toolCalls := greeted.toolCalls.put index extended },
        [greeted.toolCallChunk stamp index call.callId
          [("name", .string call.name), ("arguments", .string piece)]]) := by
    simp [emitFunctionCallArgumentsDelta, eventToolCallIndex, position, delta, present,
      custom_iff, named, held.callId, extended, piece]
  refine ⟨extended, _, _, emitted, ⟨rfl, rfl, rfl, ?_, ?_⟩, heldNow, named⟩
  · simp [toolFragments_toolCallChunk, Json.asStr]
  · intro other different
    simp [toolFragments_toolCallChunk, Ne.symm different]

open ResponsesToChatState in
theorem function_done {index : Nat} {state : ResponsesToChatState} {event : Json}
    {entry : ResponsesToolCallState} {seen : Text} {ended : Bool} (function : call.custom = false)
    (position : event.u64 "output_index" = some index)
    (found : state.toolCalls.find? index = some entry) (held : call.Held seen ended entry)
    (translated : state.translateEvent stamp codec event =
      (state.initializeMetadata stamp event).afterRole stamp
        fun greeted => .ok (greeted.emitFunctionCallArgumentsDone event, [])) :
    ∃ finished next chunks, state.translateEvent stamp codec event = .ok (next, chunks) ∧
      Touches index finished [] state next chunks ∧ ∀ value closed, call.Held value closed finished := by
  let finished := { entry with
    arguments := (event.str "arguments").getD entry.arguments
    name := (event.str "name").or entry.name }
  rw [translated]
  refine afterRole_touches fun greeted sameCalls sameRegistry => ?_
  have present : greeted.toolCalls.find? index = some entry := by rw [sameCalls, found]
  refine ⟨finished, _, [], rfl,
    ⟨?_, ?_, view_emitFunctionCallArgumentsDone greeted event, rfl, fun _ _ => rfl⟩, ?_⟩
  · simp [emitFunctionCallArgumentsDone, eventToolCallIndex, position, present, finished]
  · simp [emitFunctionCallArgumentsDone, eventToolCallIndex, position, present]
  · exact fun value closed => ⟨held.callId, held.customInput, by simp [function]⟩

open ResponsesToChatState in
-- The done event of a custom call sends what the deltas left out and closes the text.
theorem custom_done {index : Nat} {state : ResponsesToChatState} {event : Json} {value missing : Text}
    {entry : ResponsesToolCallState} (custom : call.custom = true)
    (position : event.u64 "output_index" = some index)
    (input : event.str "input" = some call.full)
    (found : state.toolCalls.find? index = some entry) (held : call.Held value false entry)
    (whole : value ++ missing = call.full.toList) :
    ∃ finished next chunks,
      emitCustomToolCallInputDone stamp codec state event = .ok (next, chunks) ∧
      Touches index finished
        [{ id := some call.callId, name := none
           arguments := missing.flatMap codec.escape ++ "\"\x7d".toList }]
        state next chunks ∧ call.Held call.full.toList true finished := by
  obtain ⟨seen, unclosed, nonempty⟩ := held.input custom
  have isCustom : entry.customInput = true := held.customInput.trans custom
  have dropped : call.full.toList.dropPrefix? entry.customInputValue.toList = some missing := by
    rw [seen, ← whole]
    exact List.dropPrefix?_append_of_beq missing (by simp)
  have same_iff : (entry.customInputValue ≠ call.full) = (missing ≠ []) := by
    rw [ne_eq, ne_eq, ← String.toList_inj, seen, ← whole]
    simp
  let fragment :=
    if missing ≠ [] then jsonStringFragment codec (String.ofList missing) else ""
  let finished := { entry with
    customInputValue := call.full
    arguments := entry.arguments ++ "" ++ fragment ++ "\"\x7d"
    customInputClosed := true }
  have fragment_text : fragment.toList = missing.flatMap codec.escape := by
    by_cases none : missing = [] <;> simp [fragment, none, toList_jsonStringFragment]
  have emitted : emitCustomToolCallInputDone stamp codec state event =
      .ok (({ state with toolCalls := state.toolCalls.put index finished } : ResponsesToChatState).stamped
          stamp,
        [state.toolCallChunk stamp index call.callId
          [("arguments", .string (fragment ++ "\"\x7d"))]]) := by
    simp [emitCustomToolCallInputDone, eventToolCallIndex, position, input, found, isCustom, dropped,
      unclosed, nonempty, held.callId, finished, fragment, ← ne_eq, same_iff]
  refine ⟨finished, _, _, emitted, ⟨rfl, rfl, rfl, ?_, ?_⟩, held.callId, held.customInput, ?_⟩
  · simp [toolFragments_toolCallChunk, Json.asStr, fragment_text]
  · intro other different
    simp [toolFragments_toolCallChunk, Ne.symm different]
  · exact fun _ => ⟨rfl, rfl, by simp [finished]⟩

open ResponsesToChatState in
theorem custom_done_again {index : Nat} {state : ResponsesToChatState} {event : Json}
    {entry : ResponsesToolCallState} (custom : call.custom = true)
    (position : event.u64 "output_index" = some index)
    (input : event.str "input" = some call.full)
    (found : state.toolCalls.find? index = some entry)
    (held : call.Held call.full.toList true entry) :
    ∃ finished next chunks,
      emitCustomToolCallInputDone stamp codec state event = .ok (next, chunks) ∧
      Touches index finished [] state next chunks := by
  obtain ⟨seen, closed, nonempty⟩ := held.input custom
  have isCustom : entry.customInput = true := held.customInput.trans custom
  have same : entry.customInputValue = call.full := String.toList_inj.1 seen
  have dropped : call.full.toList.dropPrefix? call.full.toList = some [] := by
    rw [List.dropPrefix?_eq_some_iff]
    exact ⟨call.full.toList, by simp, by simp⟩
  let finished := { entry with
    customInputValue := call.full
    arguments := entry.arguments ++ "" ++ "" ++ ""
    customInputClosed := true }
  refine ⟨finished, { state with toolCalls := state.toolCalls.put index finished }, [], ?_,
    rfl, rfl, rfl, rfl, fun _ _ => rfl⟩
  simp [emitCustomToolCallInputDone, eventToolCallIndex, position, input, found, isCustom, same,
    dropped, closed, finished]

theorem fragments_missing (call : ToolCall) :
    ∃ missing, call.fragments.flatMap String.toList ++ missing = call.full.toList := by
  rcases call.whole with none | whole
  · exact ⟨call.full.toList, by simp [none]⟩
  · exact ⟨[], by simp [whole]⟩

-- The part of the input that the deltas left out completes the arguments of a custom call.
theorem finalArguments_of_missing {missing : Text} (custom : call.custom = true)
    (whole : call.fragments.flatMap String.toList ++ missing = call.full.toList) :
    call.sentArguments codec (call.fragments.flatMap String.toList) ++
        (missing.flatMap codec.escape ++ "\"\x7d".toList) =
      call.finalArguments codec := by
  simp only [finalArguments, sentArguments, custom, if_true, ← whole, List.flatMap_append,
    List.append_assoc]

open ResponsesToChatState in
theorem translateEvent_done (state : ResponsesToChatState) {event : Json}
    (typed : event.str "type" = some call.doneType) :
    state.translateEvent stamp codec event =
      (state.initializeMetadata stamp event).afterRole stamp
        (if call.custom then (emitCustomToolCallInputDone stamp codec · event)
          else fun greeted => .ok (greeted.emitFunctionCallArgumentsDone event, [])) := by
  cases custom : call.custom <;> simp only [doneType, custom] at typed <;>
    simp only [translateEvent, typed] <;> rfl

def inputDone (call : ToolCall) (event : Json) (fields : List (String × Json)) : Json :=
  .object (Json.setField (Json.setField (event.asObject.getD []) "item_id"
    ((Json.field fields "id").getD .null)) "input" (.string call.full))

open ResponsesToChatState in
theorem translateEvent_callDone (state : ResponsesToChatState) {event : Json}
    {fields : List (String × Json)} (typed : event.str "type" = some "response.output_item.done")
    (carried : event.get "item" = some (.object fields)) (done : call.DoneItem fields) :
    state.translateEvent stamp codec event =
      (state.initializeMetadata stamp event).afterRole stamp
        (if call.custom then (emitCustomToolCallInputDone stamp codec · (call.inputDone event fields))
          else fun greeted => .ok (greeted.emitFunctionCallArgumentsDone event, [])) := by
  obtain ⟨kind, payload⟩ := done
  rw [translateEvent_itemDone state typed]
  congr 1
  funext greeted
  cases custom : call.custom with
  | true =>
    simp only [ToolCall.payload, custom, if_true] at payload
    simp [emitOutputItemDone, carried, Json.asObject, kind_of_itemType kind, custom, payload,
      inputDone]
  | false =>
    simp [emitOutputItemDone, carried, Json.asObject, kind_of_itemType kind, custom]

theorem inputDone_fields {event : Json} {fields : List (String × Json)} {index : Nat}
    (position : event.u64 "output_index" = some index) :
    (call.inputDone event fields).u64 "output_index" = some index ∧
      (call.inputDone event fields).str "input" = some call.full := by
  cases event with
  | object own =>
    simp only [Json.u64, Json.get_object] at position
    simp [inputDone, Json.u64, Json.str, Json.asObject, Json.field_setField, position, Json.asStr]
  | _ => simp [Json.u64, Json.get, Json.asObject] at position

open ResponsesToChatState in
theorem done_step {index : Nat} {state : ResponsesToChatState} {event : Json}
    {entry : ResponsesToolCallState} {fragments : List ToolFragment}
    {registry : Option ToolAdapterRegistry} (fits : call.StepEvent registry index event .done)
    (found : state.toolCalls.find? index = some entry)
    (held : call.Held (call.fragments.flatMap String.toList) false entry)
    (carried : call.CarriedBy fragments
      (call.sentArguments codec (call.fragments.flatMap String.toList))) :
    ∃ finished new next chunks, state.translateEvent stamp codec event = .ok (next, chunks) ∧
      Touches index finished new state next chunks ∧
      call.Held call.full.toList true finished ∧
      call.CarriedBy (fragments ++ new) (call.finalArguments codec) := by
  obtain ⟨typed, position, payload⟩ := fits
  have translated := @translateEvent_done codec call stamp state _ typed
  cases custom : call.custom with
  | true =>
    rw [custom, if_pos rfl] at translated
    simp only [ToolCall.payload, custom, if_true] at payload
    obtain ⟨missing, whole⟩ := call.fragments_missing
    have emits : ∃ finished next chunks, (state.initializeMetadata stamp event).afterRole stamp
        (emitCustomToolCallInputDone stamp codec · event) = .ok (next, chunks) ∧
          Touches index finished
            [{ id := some call.callId, name := none
               arguments := missing.flatMap codec.escape ++ "\"\x7d".toList }] state next chunks ∧
          call.Held call.full.toList true finished := by
      refine afterRole_touches fun greeted sameCalls sameRegistry => ?_
      exact custom_done custom position payload (by rw [sameCalls, found]) held whole
    obtain ⟨finished, next, chunks, result, touches, heldAfter⟩ := emits
    refine ⟨finished, _, next, chunks, translated.trans result, touches, heldAfter, ?_⟩
    rw [← finalArguments_of_missing custom whole]
    exact carried.append rfl (.inl rfl) rfl
  | false =>
    simp only [custom, Bool.false_eq_true, if_false] at translated
    obtain ⟨finished, next, chunks, result, touches, heldAfter⟩ :=
      function_done custom position found held translated
    refine ⟨finished, [], next, chunks, result, touches, heldAfter _ _, ?_⟩
    simpa [finalArguments, custom] using carried

open ResponsesToChatState in
theorem itemDone_step {index : Nat} {state : ResponsesToChatState} {event : Json}
    {entry : ResponsesToolCallState} {registry : Option ToolAdapterRegistry}
    (fits : call.StepEvent registry index event .itemDone)
    (found : state.toolCalls.find? index = some entry)
    (held : call.Held call.full.toList true entry) :
    ∃ finished next chunks, state.translateEvent stamp codec event = .ok (next, chunks) ∧
      Touches index finished [] state next chunks := by
  obtain ⟨typed, position, fields, carried, done⟩ := fits
  have translated := @translateEvent_callDone codec call stamp state _ _ typed carried done
  cases custom : call.custom with
  | true =>
    rw [custom, if_pos rfl] at translated
    obtain ⟨position', input⟩ := @inputDone_fields call event fields index position
    have emits : ∃ finished next chunks, (state.initializeMetadata stamp event).afterRole stamp
        (emitCustomToolCallInputDone stamp codec · (call.inputDone event fields)) =
          .ok (next, chunks) ∧ Touches index finished [] state next chunks ∧ True := by
      refine afterRole_touches fun greeted sameCalls sameRegistry => ?_
      obtain ⟨finished, next, chunks, result, touches⟩ :=
        custom_done_again custom position' input (by rw [sameCalls, found]) held
      exact ⟨finished, next, chunks, result, touches, trivial⟩
    obtain ⟨finished, next, chunks, result, touches, -⟩ := emits
    exact ⟨finished, next, chunks, translated.trans result, touches⟩
  | false =>
    simp only [custom, Bool.false_eq_true, if_false] at translated
    obtain ⟨finished, next, chunks, result, touches, -⟩ :=
      function_done custom position found held translated
    exact ⟨finished, next, chunks, result, touches⟩

open ResponsesToChatState in
theorem phase_step {index : Nat} {state : ResponsesToChatState} {event : Json} {step : ToolStep}
    {remaining : List ToolStep} {fragments : List ToolFragment}
    (phase : Phase codec call (step :: remaining) (state.toolCalls.find? index) fragments)
    (fits : call.StepEvent state.toolRegistry index event step) :
    ∃ entry new next chunks, state.translateEvent stamp codec event = .ok (next, chunks) ∧
      Touches index entry new state next chunks ∧
      Phase codec call remaining (some entry) (fragments ++ new) := by
  generalize steps : step :: remaining = all at phase
  generalize found : state.toolCalls.find? index = held? at phase
  cases phase with
  | waiting =>
    obtain ⟨rfl, rfl⟩ := List.cons.inj steps
    obtain ⟨entry, fragment, next, chunks, translated, touches, held, named, carried⟩ :=
      @added_step codec call stamp _ _ _ fits found
    refine ⟨entry, [fragment], next, chunks, translated, touches, ?_⟩
    exact @Phase.running codec call [] _ _ _ rfl held named carried
  | @running sent rest entry _ split held named carried =>
    cases rest with
    | nil =>
      obtain ⟨rfl, rfl⟩ := List.cons.inj steps
      obtain rfl : call.fragments = sent := by simpa using split
      obtain ⟨finished, new, next, chunks, translated, touches, heldAfter, whole⟩ :=
        @done_step codec call stamp _ _ _ _ _ _ fits found held carried
      exact ⟨finished, new, next, chunks, translated, touches, .closing heldAfter whole⟩
    | cons piece rest =>
      obtain ⟨rfl, rfl⟩ := List.cons.inj steps
      obtain ⟨extended, next, chunks, translated, touches, heldAfter, namedAfter⟩ :=
        @delta_step codec call stamp _ _ _ _ _ _ _ fits found held named
      refine ⟨extended, _, next, chunks, translated, touches, ?_⟩
      have joined : (sent ++ [piece]).flatMap String.toList =
          sent.flatMap String.toList ++ piece.toList := by simp
      refine @Phase.running codec call (sent ++ [piece]) _ _ _ (by simp [split]) (by rwa [joined])
        namedAfter ?_
      rw [joined]
      have extended_eq : call.sentArguments codec (sent.flatMap String.toList ++ piece.toList) =
          call.sentArguments codec (sent.flatMap String.toList) ++
            if call.custom then piece.toList.flatMap codec.escape else piece.toList := by
        cases custom : call.custom <;> simp [sentArguments, custom]
      rw [extended_eq]
      exact carried.append rfl (.inr rfl) rfl
  | @closing entry _ held carried =>
    obtain ⟨rfl, rfl⟩ := List.cons.inj steps
    obtain ⟨finished, next, chunks, translated, touches⟩ :=
      @itemDone_step codec call stamp _ _ _ _ _ fits found held
    exact ⟨finished, [], next, chunks, translated, touches, by simpa using Phase.closed carried⟩
  | closed carried => cases steps

theorem Phase.carried_of_nil {entry : Option ResponsesToolCallState}
    {fragments : List ToolFragment} (phase : Phase codec call [] entry fragments) :
    call.CarriedBy fragments (call.finalArguments codec) := by
  generalize steps : ([] : List ToolStep) = all at phase
  cases phase with
  | waiting => simp [ToolCall.steps] at steps
  | running => simp at steps
  | closing => cases steps
  | closed carried => exact carried

def Kept (call : ToolCall) : Prop :=
  call.custom = true ∨ call.fragments ≠ [] ∨ call.full = ""

theorem finalArguments_eq_iff
    (compact : ∀ input, (codec.print (.object [("input", .string input)])).toList =
      "\x7b\"input\":".toList ++ (codec.quote input).toList ++ "\x7d".toList) :
    call.finalArguments codec = call.chatArguments codec ↔ call.Kept := by
  cases custom : call.custom with
  | true =>
    simp [finalArguments, chatArguments, sentArguments, opening, custom, compact, JsonCodec.quote,
      Kept]
  | false =>
    rcases call.whole with none | whole
    · have empty_iff : [] = call.full.toList ↔ call.full = "" :=
        eq_comm.trans String.toList_eq_nil_iff
      simp [finalArguments, chatArguments, sentArguments, opening, custom, Kept, none, empty_iff]
    · simp only [finalArguments, chatArguments, sentArguments, opening, custom, Kept, whole]
      have kept : call.fragments ≠ [] ∨ call.full = "" := by
        by_cases empty : call.fragments = []
        · rw [empty] at whole
          exact .inr (String.toList_eq_nil_iff.1 whole.symm)
        · exact .inl empty
      simp [kept]

end ToolCall

namespace ResponsesToChatState

variable {stamp : ChatStamp} {codec : JsonCodec}

theorem finish_quiet {state : ResponsesToChatState} (none : state.view.pending = none) :
    ∃ next chunks, state.finish stamp codec = .ok (next, chunks) ∧ next.view.pending = .none ∧
      ∀ index, toolFragments index chunks = [] := by
  cases completed : state.completedEmitted with
  | true => exact ⟨state, [], by simp [finish, completed], none, fun _ => rfl⟩
  | false =>
    obtain ⟨same, -⟩ := @view_emitAssistantRole stamp state
    have quiet := @quiet_emitAssistantRole stamp state
    have pending : (state.emitAssistantRole stamp).1.pendingAgentMessage = .none :=
      (congrArg MessageView.pending same).trans none
    let greeted := (state.emitAssistantRole stamp).1
    let finishReason := if greeted.toolCalls.isEmpty then "stop" else "tool_calls"
    refine ⟨{ greeted.stamped stamp with completedEmitted := true },
      (state.emitAssistantRole stamp).2 ++ [] ++
        [greeted.chunk stamp (.object []) (some finishReason)],
      by simp [finish, completed, emitPending, pending, greeted, finishReason], pending, ?_⟩
    intro index
    rw [toolFragments_append, toolFragments_append, quiet.fragments]
    exact toolFragments_chunk index _ _ rfl

theorem translateEvent_tools_completed {index : Nat} {state : ResponsesToChatState} {event : Json}
    (here : OnMessage index state) (completes : CompletesTools codec event) :
    ∃ next chunks, state.translateEvent stamp codec event = .ok (next, chunks) ∧
      next.view.pending = none ∧ ∀ index, toolFragments index chunks = [] := by
  obtain ⟨typed, valid, noAgent⟩ := completes
  let greeted := ((state.initializeMetadata stamp event).emitAssistantRole stamp).1
  have quiet := @quiet_emitAssistantRole stamp (state.initializeMetadata stamp event)
  have greetedHere : OnMessage index greeted := here.of_view (view_emitAssistantRole _).1
  have agent : greeted.agentMessageContentEmitted = false := greetedHere.agentEmitted
  have content : emitCompletedAgentMessageContent stamp codec greeted event = .ok (greeted, []) := by
    cases output : responseOutput event with
    | none => simp [emitCompletedAgentMessageContent, agent, output]
    | some items => simp [emitCompletedAgentMessageContent, agent, output, noAgent items output]
  obtain ⟨next, chunks, finished, pending, silent⟩ :=
    @finish_quiet stamp codec greeted greetedHere.pending
  refine ⟨next, ((state.initializeMetadata stamp event).emitAssistantRole stamp).2 ++ chunks, ?_,
    pending, ?_⟩
  · rw [translateEvent_completed state typed]
    simp only [afterRole, translateCompleted, valid]
    simp only [greeted] at content finished
    simp [content, finished]
  · intro other
    rw [toolFragments_append, quiet.fragments, List.nil_append]
    exact silent other

structure OnCalls (codec : JsonCodec) (toolRegistry : Option ToolAdapterRegistry)
    (calls : Nat → Option ToolCall) (messageIndex : Nat) (labels : List (Option (Nat × ToolStep)))
    (sent : Nat → List ToolFragment) (state : ResponsesToChatState) : Prop where
  onMessage : OnMessage messageIndex state
  registry : state.toolRegistry = toolRegistry
  absent : ∀ index, calls index = none → state.toolCalls.find? index = none
  phases : ∀ index call, calls index = some call →
    call.Phase codec (stepsAt index labels) (state.toolCalls.find? index) (sent index)

variable {toolRegistry : Option ToolAdapterRegistry} {calls : Nat → Option ToolCall}
  {messageIndex : Nat}

theorem stepsAt_cons (index : Nat) (label : Option (Nat × ToolStep))
    (labels : List (Option (Nat × ToolStep))) :
    stepsAt index (label :: labels) =
      match label with
      | some (other, step) =>
        if other = index then step :: stepsAt index labels else stepsAt index labels
      | none => stepsAt index labels := by
  cases label with
  | none => simp [stepsAt]
  | some step =>
    by_cases same : step.1 = index <;> simp [stepsAt, same]

theorem onCalls_step {labels : List (Option (Nat × ToolStep))} {label : Option (Nat × ToolStep)}
    {sent : Nat → List ToolFragment} {state : ResponsesToChatState} {event : Json}
    (here : OnCalls codec toolRegistry calls messageIndex (label :: labels) sent state)
    (free : calls messageIndex = none)
    (fits : ToolStreamEvent codec toolRegistry calls messageIndex event label) :
    ∃ next chunks, state.translateEvent stamp codec event = .ok (next, chunks) ∧
      OnCalls codec toolRegistry calls messageIndex labels
        (fun index => sent index ++ toolFragments index chunks) next := by
  cases fits with
  | other message indexed =>
    obtain ⟨next, chunks, translated, nextHere, -⟩ :=
      @translateEvent_message stamp codec _ _ _ here.onMessage message
    have quiet := quiet_message message indexed (here.absent _ free) translated
    refine ⟨next, chunks, translated, nextHere, quiet.toolRegistry.trans here.registry, ?_, ?_⟩
    · rw [quiet.toolCalls]
      exact here.absent
    · intro index call found
      have phase := here.phases index call found
      rw [stepsAt_cons] at phase
      rw [quiet.toolCalls, quiet.fragments, List.append_nil]
      exact phase
  | @tool index call step found fits =>
    have phase := here.phases index call found
    rw [stepsAt_cons] at phase
    simp only [if_true] at phase
    rw [← here.registry] at fits
    obtain ⟨entry, new, next, chunks, translated, touches, nextPhase⟩ :=
      @ToolCall.phase_step codec call stamp _ _ _ _ _ _ phase fits
    refine ⟨next, chunks, translated, here.onMessage.of_view touches.view,
      touches.toolRegistry.trans here.registry, ?_, ?_⟩
    · intro other missing
      have different : index ≠ other := by
        rintro rfl
        rw [found] at missing
        cases missing
      rw [touches.toolCalls, OrderedMap.find?_put, if_neg different]
      exact here.absent other missing
    · intro other otherCall otherFound
      by_cases same : index = other
      · subst same
        obtain rfl := Option.some.inj (found.symm.trans otherFound)
        rw [touches.toolCalls, OrderedMap.find?_put_self, touches.fragments]
        exact nextPhase
      · have otherPhase := here.phases other otherCall otherFound
        rw [stepsAt_cons] at otherPhase
        simp only [if_neg same] at otherPhase
        rw [touches.toolCalls, OrderedMap.find?_put, if_neg same,
          touches.others other (Ne.symm same), List.append_nil]
        exact otherPhase

theorem translateFrom_end {state : ResponsesToChatState} {terminal : List Json}
    (here : OnMessage messageIndex state)
    (ends : terminal = [] ∨ ∃ event, terminal = [event] ∧ CompletesTools codec event) :
    ∃ chunks, state.translateFrom stamp codec terminal = .ok chunks ∧
      ∀ index, toolFragments index chunks = [] := by
  rcases ends with rfl | ⟨event, rfl, completes⟩
  · obtain ⟨next, chunks, finished, -, silent⟩ := @finish_quiet stamp codec state here.pending
    exact ⟨chunks, by simp [translateFrom, finished, Except.map], silent⟩
  · obtain ⟨next, chunks, translated, pending, silent⟩ :=
      @translateEvent_tools_completed stamp codec _ _ _ here completes
    obtain ⟨last, more, finished, -, quiet⟩ := @finish_quiet stamp codec next pending
    refine ⟨chunks ++ more, by simp [translateFrom, translated, finished, Except.map], ?_⟩
    intro index
    rw [toolFragments_append, silent, quiet, List.append_nil]

theorem translateFrom_calls {labels : List (Option (Nat × ToolStep))}
    {sent : Nat → List ToolFragment} {state : ResponsesToChatState} {body terminal : List Json}
    (here : OnCalls codec toolRegistry calls messageIndex labels sent state)
    (free : calls messageIndex = none)
    (fits : List.Forall₂ (ToolStreamEvent codec toolRegistry calls messageIndex) body labels)
    (ends : terminal = [] ∨ ∃ event, terminal = [event] ∧ CompletesTools codec event) :
    ∃ chunks, state.translateFrom stamp codec (body ++ terminal) = .ok chunks ∧
      ∀ index call, calls index = some call →
        call.CarriedBy (sent index ++ toolFragments index chunks) (call.finalArguments codec) := by
  induction fits generalizing state sent with
  | nil =>
    obtain ⟨chunks, translated, silent⟩ := @translateFrom_end stamp codec _ _ _ here.onMessage ends
    refine ⟨chunks, translated, fun index call found => ?_⟩
    rw [silent, List.append_nil]
    exact (here.phases index call found).carried_of_nil
  | @cons event label rest labels first later ih =>
    obtain ⟨next, chunks, translated, nextHere⟩ := @onCalls_step stamp _ _ _ _ _ _ _ _ _ here free first
    obtain ⟨more, result, carried⟩ := ih nextHere
    refine ⟨chunks ++ more, by simp only [List.cons_append, translateFrom, translated, result], ?_⟩
    intro index call found
    rw [toolFragments_append, ← List.append_assoc]
    exact carried index call found

end ResponsesToChatState

open ResponsesToChatState in
theorem tool_calls_survive_iff (stamp : ChatStamp) (codec : JsonCodec)
    (toolRegistry : Option ToolAdapterRegistry) (calls : Nat → Option ToolCall)
    (messageIndex : Nat) (events : List Json)
    (compact : ∀ input, (codec.print (.object [("input", .string input)])).toList =
      "\x7b\"input\":".toList ++ (codec.quote input).toList ++ "\x7d".toList)
    (described : DescribesCalls codec toolRegistry calls messageIndex events) :
    (∃ chunks, translateFrom stamp codec { toolRegistry } events = .ok chunks ∧
        ∀ index call, calls index = some call →
          call.CarriedBy (toolFragments index chunks) (call.chatArguments codec)) ↔
      ∀ index call, calls index = some call → call.Kept := by
  obtain ⟨free, body, terminal, labels, rfl, fits, steps, ends⟩ := described
  have start : OnCalls codec toolRegistry calls messageIndex labels (fun _ => [])
      { toolRegistry } := by
    refine ⟨⟨by simp [view], rfl, rfl⟩, rfl, fun _ _ => rfl, fun index call found => ?_⟩
    rw [steps index call found]
    exact .waiting
  obtain ⟨chunks, translated, carried⟩ := @translateFrom_calls stamp _ _ _ _ _ _ _ _ _ start free
    fits ends
  constructor
  · rintro ⟨others, same, whole⟩ index call found
    obtain rfl := Except.ok.inj (translated.symm.trans same)
    have final := (carried index call found).arguments
    rw [List.nil_append, (whole index call found).arguments] at final
    exact (ToolCall.finalArguments_eq_iff compact).1 final.symm
  · intro kept
    refine ⟨chunks, translated, fun index call found => ?_⟩
    have final := carried index call found
    rw [(ToolCall.finalArguments_eq_iff compact).2 (kept index call found)] at final
    exact final

def callItemEvent (type : String) (index : Nat) (item : List (String × Json)) : Json :=
  .object [("type", .string type), ("output_index", .ofNat index), ("item", .object item)]

def callTextEvent (type : String) (index : Nat) (key text : String) : Json :=
  .object [("type", .string type), ("output_index", .ofNat index), (key, .string text)]

def searchCall : ToolCall where
  custom := false
  callId := "call_1"
  name := "search"
  fragments := ["[1,", "2]"]
  full := "[1,2]"
  whole := .inr rfl

def patchCall : ToolCall where
  custom := true
  callId := "call_2"
  name := "patch"
  fragments := []
  full := "say \"hi\""
  whole := .inl rfl

def twoCalls : Nat → Option ToolCall
  | 0 => some searchCall
  | 1 => some patchCall
  | _ => none

def searchItem (arguments : String) : List (String × Json) :=
  [("type", .string "function_call"), ("id", .string "fc_1"), ("call_id", .string "call_1"),
    ("name", .string "search"), ("arguments", .string arguments)]

def patchItem (input : String) : List (String × Json) :=
  [("type", .string "custom_tool_call"), ("id", .string "ctc_1"), ("call_id", .string "call_2"),
    ("name", .string "patch"), ("input", .string input)]

def twoCallEvents : List Json :=
  [callItemEvent "response.output_item.added" 0 (searchItem ""),
    callItemEvent "response.output_item.added" 1 (patchItem ""),
    callTextEvent "response.function_call_arguments.delta" 0 "delta" "[1,",
    callTextEvent "response.custom_tool_call_input.done" 1 "input" "say \"hi\"",
    callTextEvent "response.function_call_arguments.delta" 0 "delta" "2]",
    callTextEvent "response.function_call_arguments.done" 0 "arguments" "[1,2]",
    callItemEvent "response.output_item.done" 1 (patchItem "say \"hi\""),
    callItemEvent "response.output_item.done" 0 (searchItem "[1,2]")]

def twoCallLabels : List (Option (Nat × ToolStep)) :=
  [some (0, .added), some (1, .added), some (0, .delta "[1,"), some (1, .done),
    some (0, .delta "2]"), some (0, .done), some (1, .itemDone), some (0, .itemDone)]

theorem twoCallEvents_described :
    DescribesCalls (serdeCodec fun _ => []) none twoCalls 2 twoCallEvents := by
  refine ⟨rfl, twoCallEvents, [], twoCallLabels, (List.append_nil _).symm, ?_, ?_, .inl rfl⟩
  · have search : twoCalls 0 = some searchCall := rfl
    have patch : twoCalls 1 = some patchCall := rfl
    refine .cons (.tool search ?_) (.cons (.tool patch ?_) (.cons (.tool search ?_)
      (.cons (.tool patch ?_) (.cons (.tool search ?_) (.cons (.tool search ?_)
        (.cons (.tool patch ?_) (.cons (.tool search ?_) .nil)))))))
    · exact ⟨rfl, rfl, _, rfl, rfl, ⟨_, rfl⟩, rfl, ⟨_, rfl, rfl⟩, .inr rfl⟩
    · exact ⟨rfl, rfl, _, rfl, rfl, ⟨_, rfl⟩, rfl, ⟨_, rfl, rfl⟩, .inr rfl⟩
    · exact ⟨rfl, rfl, rfl⟩
    · exact ⟨rfl, rfl, rfl⟩
    · exact ⟨rfl, rfl, rfl⟩
    · exact ⟨rfl, rfl, rfl⟩
    · exact ⟨rfl, rfl, _, rfl, rfl, rfl⟩
    · exact ⟨rfl, rfl, _, rfl, rfl, rfl⟩
  · intro index call found
    match index, found with
    | 0, found =>
      cases found
      rfl
    | 1, found =>
      cases found
      rfl

theorem serdeCodec_compact (readStream : String → List (Option Json)) (input : String) :
    ((serdeCodec readStream).print (.object [("input", .string input)])).toList =
      "\x7b\"input\":".toList ++ ((serdeCodec readStream).quote input).toList ++
        "\x7d".toList := by
  have key : serdeQuote "input" = "\"input\"".toList := by decide +kernel
  simp only [serdeCodec, JsonCodec.quote, String.toList_ofList, serdePrint, serdePrintFields, key]
  rfl

theorem tool_calls_survive_for_two_calls :
    ∃ chunks, ResponsesToChatState.translateFrom ⟨"chatcmpl-1", 0⟩ (serdeCodec fun _ => [])
        {} twoCallEvents = .ok chunks ∧
      ∀ index call, twoCalls index = some call →
        call.CarriedBy (toolFragments index chunks) (call.chatArguments (serdeCodec fun _ => [])) := by
  refine (tool_calls_survive_iff ⟨"chatcmpl-1", 0⟩ (serdeCodec fun _ => []) none twoCalls 2
    twoCallEvents (serdeCodec_compact _) twoCallEvents_described).2 ?_
  intro index call found
  match index, found with
  | 0, found =>
    cases found
    exact .inr (.inl (by simp [searchCall]))
  | 1, found =>
    cases found
    exact .inl rfl

def plainCall : ToolCall where
  custom := false
  callId := "call_1"
  name := "search"
  fragments := []
  full := "[1,2]"
  whole := .inl rfl

def plainCallEvents : List Json :=
  [callItemEvent "response.output_item.added" 0 (searchItem ""),
    callTextEvent "response.function_call_arguments.done" 0 "arguments" "[1,2]",
    callItemEvent "response.output_item.done" 0 (searchItem "[1,2]")]

-- A function call whose arguments come only with its done events.
theorem arguments_without_deltas_are_lost :
    DescribesCalls (serdeCodec fun _ => []) none (fun index => if index = 0 then some plainCall else none)
        1 plainCallEvents ∧
      ¬ ∃ chunks, ResponsesToChatState.translateFrom ⟨"chatcmpl-1", 0⟩ (serdeCodec fun _ => [])
          {} plainCallEvents = .ok chunks ∧
        plainCall.CarriedBy (toolFragments 0 chunks)
          (plainCall.chatArguments (serdeCodec fun _ => [])) := by
  constructor
  · refine ⟨rfl, plainCallEvents, [], [some (0, .added), some (0, .done), some (0, .itemDone)],
      (List.append_nil _).symm, ?_, ?_, .inl rfl⟩
    · refine .cons (.tool (if_pos rfl) ?_) (.cons (.tool (if_pos rfl) ?_)
        (.cons (.tool (if_pos rfl) ?_) .nil))
      · exact ⟨rfl, rfl, _, rfl, rfl, ⟨_, rfl⟩, rfl, ⟨_, rfl, rfl⟩, .inr rfl⟩
      · exact ⟨rfl, rfl, rfl⟩
      · exact ⟨rfl, rfl, _, rfl, rfl, rfl⟩
    · intro index call found
      by_cases here : index = 0
      · subst here
        cases found
        rfl
      · simp [here] at found
  · have sent : (ResponsesToChatState.translateFrom ⟨"chatcmpl-1", 0⟩ (serdeCodec fun _ => []) {}
        plainCallEvents).map (fun chunks => (toolFragments 0 chunks).flatMap (·.arguments)) =
          .ok [] := by
      decide +kernel
    rintro ⟨chunks, result, carried⟩
    rw [result] at sent
    have lost : (toolFragments 0 chunks).flatMap (·.arguments) = [] := Except.ok.inj sent
    have whole := carried.arguments
    rw [lost] at whole
    revert whole
    decide +kernel

end ChatGateway
