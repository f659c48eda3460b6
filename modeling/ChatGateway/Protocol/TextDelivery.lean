import Mathlib.Data.List.Chain
import ChatGateway.Protocol.ResponsesToChat

set_option autoImplicit false

/-!
# The text of an assistant message in Chat chunks

A Responses stream can carry one text up to four times: in deltas, with the part that is done, with
the item that is done and in the completed response. This module compares what the Chat chunks
carry with the text the stream describes.
-/

namespace ChatGateway

def chunkContent (chunk : Json) : Text :=
  (((chunk.get "choices").bind Json.asArray).getD []).flatMap fun choice =>
    (((choice.get "delta").bind (·.str "content")).getD "").toList

def contentOf (chunks : List Json) : Text :=
  chunks.flatMap chunkContent

@[simp] theorem contentOf_nil : contentOf [] = [] := rfl

@[simp] theorem contentOf_cons (chunk : Json) (chunks : List Json) :
    contentOf (chunk :: chunks) = chunkContent chunk ++ contentOf chunks := rfl

@[simp] theorem contentOf_append (earlier later : List Json) :
    contentOf (earlier ++ later) = contentOf earlier ++ contentOf later :=
  List.flatMap_append

inductive TextStep where
  | delta (text : Text)
  | done (text : Text)
deriving DecidableEq

structure TextPart where
  deltas : List Text
  text : Text
  whole : deltas = [] ∨ deltas.flatten = text

def TextPart.steps (part : TextPart) : List TextStep :=
  part.deltas.map .delta ++ [.done part.text]

structure TextProgress where
  text : Text := []
  emitted : Bool := false
  done : Bool := false
deriving DecidableEq

def behind (previous text : Text) : Text :=
  (text.dropPrefix? previous).getD text

namespace TextProgress

def step (progress : TextProgress) : TextStep → TextProgress × Text
  | .delta delta =>
    if progress.done then (progress, [])
    else
      ({ progress with
          text := progress.text ++ delta
          emitted := progress.emitted || !delta.isEmpty }, delta)
  | .done text =>
    ({ text, emitted := progress.emitted || !text.isEmpty, done := true },
      if progress.emitted then behind progress.text text else text)

def run : TextProgress → List TextStep → Text
  | _, [] => []
  | progress, next :: rest => (progress.step next).2 ++ run (progress.step next).1 rest

def after : TextProgress → List TextStep → TextProgress
  | progress, [] => progress
  | progress, next :: rest => after (progress.step next).1 rest

theorem run_append (progress : TextProgress) (earlier later : List TextStep) :
    progress.run (earlier ++ later) =
      progress.run earlier ++ (progress.after earlier).run later := by
  induction earlier generalizing progress with
  | nil => rfl
  | cons next rest ih => simp [run, after, ih]

theorem after_append (progress : TextProgress) (earlier later : List TextStep) :
    progress.after (earlier ++ later) = (progress.after earlier).after later := by
  induction earlier generalizing progress with
  | nil => rfl
  | cons next rest ih => simp [after, ih]

-- Once a part is done every later delta is dropped.
theorem run_late_deltas {progress : TextProgress} (done : progress.done = true)
    (deltas : List Text) :
    progress.run (deltas.map .delta) = [] ∧ progress.after (deltas.map .delta) = progress := by
  induction deltas with
  | nil => exact ⟨rfl, rfl⟩
  | cons delta rest ih => simp [run, after, step, done, ih.1, ih.2]

theorem run_early_deltas {progress : TextProgress} (unfinished : progress.done = false)
    (deltas : List Text) :
    progress.run (deltas.map .delta) = deltas.flatten ∧
      progress.after (deltas.map .delta) =
        { progress with
          text := progress.text ++ deltas.flatten
          emitted := progress.emitted || !deltas.flatten.isEmpty } := by
  induction deltas generalizing progress with
  | nil => simp [run, after]
  | cons delta rest ih =>
    have later := @ih (progress.step (.delta delta)).1 (by simp [step, unfinished])
    constructor
    · rw [List.map_cons, run, later.1]
      simp [step, unfinished]
    · rw [List.map_cons, after, later.2]
      cases delta <;> simp [step, unfinished]

def Settled (progress : TextProgress) : Prop :=
  progress.done = true ∧ (progress.emitted = false → progress.text = [])

theorem behind_nil (text : Text) : behind [] text = text := by
  simp [behind]

theorem behind_self (text : Text) : behind text text = [] := by
  have whole : text.dropPrefix? text = some [] := by
    rw [List.dropPrefix?_eq_some_iff]
    exact ⟨text, by simp, by simp⟩
  simp [behind, whole]

theorem step_done {progress : TextProgress} (settled : progress.Settled) (text : Text) :
    (progress.step (.done text)).2 = behind progress.text text ∧
      (progress.step (.done text)).1.text = text ∧
      (progress.step (.done text)).1.Settled := by
  refine ⟨?_, rfl, rfl, by simp [step]⟩
  cases emitted : progress.emitted with
  | true => simp [step, emitted]
  | false => simp [step, emitted, settled.2 emitted, behind_nil]

theorem run_late_part {progress : TextProgress} (settled : progress.Settled) (part : TextPart) :
    progress.run part.steps = behind progress.text part.text ∧
      (progress.after part.steps).text = part.text ∧ (progress.after part.steps).Settled := by
  have dropped := run_late_deltas settled.1 part.deltas
  have finished := step_done settled part.text
  rw [TextPart.steps, run_append, after_append, dropped.1, dropped.2]
  simpa [run, after] using finished

-- The first part always arrives whole, whether its text comes in deltas or only when it is done.
theorem run_first_part (part : TextPart) :
    ({} : TextProgress).run part.steps = part.text ∧
      (({} : TextProgress).after part.steps).text = part.text ∧
      (({} : TextProgress).after part.steps).Settled := by
  obtain ⟨early, reached⟩ := @run_early_deltas {} rfl part.deltas
  rw [TextPart.steps, run_append, after_append, early, reached]
  rcases part.whole with none | whole
  · simp [none, run, after, step, Settled]
  · rw [whole]
    cases empty : part.text.isEmpty with
    | true => simp_all [run, after, step, Settled]
    | false => simp [run, after, step, Settled, empty, behind_self]

def delivered : Text → List TextPart → Text
  | _, [] => []
  | previous, part :: rest => behind previous part.text ++ delivered part.text rest

theorem run_late_parts {progress : TextProgress} (settled : progress.Settled)
    (parts : List TextPart) :
    progress.run (parts.flatMap TextPart.steps) = delivered progress.text parts := by
  induction parts generalizing progress with
  | nil => rfl
  | cons part rest ih =>
    obtain ⟨out, text, later⟩ := run_late_part settled part
    rw [List.flatMap_cons, run_append, out, ih later, text, delivered]

theorem run_parts (parts : List TextPart) :
    ({} : TextProgress).run (parts.flatMap TextPart.steps) = delivered [] parts := by
  cases parts with
  | nil => rfl
  | cons part rest =>
    obtain ⟨out, text, later⟩ := run_first_part part
    rw [List.flatMap_cons, run_append, out, run_late_parts later, text, delivered, behind_nil]

def Distinguished (previous text : Text) : Prop :=
  previous = [] ∨ ¬ previous <+: text

theorem length_behind_le (previous text : Text) : (behind previous text).length ≤ text.length := by
  unfold behind
  cases found : text.dropPrefix? previous with
  | none => rfl
  | some rest =>
    obtain ⟨start, whole, -⟩ := List.dropPrefix?_eq_some_iff.1 found
    simp [whole]

theorem behind_eq_iff (previous text : Text) :
    behind previous text = text ↔ Distinguished previous text := by
  unfold behind Distinguished
  cases found : text.dropPrefix? previous with
  | none =>
    have absent : ¬ previous <+: text := by
      rintro ⟨rest, rfl⟩
      simp [List.dropPrefix?_append_of_beq] at found
    simp [absent]
  | some rest =>
    obtain ⟨start, whole, same⟩ := List.dropPrefix?_eq_some_iff.1 found
    have start_eq : start = previous := by simpa using same
    subst start_eq
    simp [whole]

theorem length_delivered_le (previous : Text) (parts : List TextPart) :
    (delivered previous parts).length ≤ (parts.flatMap TextPart.text).length := by
  induction parts generalizing previous with
  | nil => simp [delivered]
  | cons part rest ih =>
    have first := length_behind_le previous part.text
    have later := ih part.text
    simp only [delivered, List.flatMap_cons, List.length_append]
    omega

-- Nothing is ever added, so the whole is right only when every piece is.
theorem delivered_eq_iff (previous : Text) (parts : List TextPart) :
    delivered previous parts = parts.flatMap TextPart.text ↔
      (previous :: parts.map TextPart.text).IsChain Distinguished := by
  induction parts generalizing previous with
  | nil => simp [delivered]
  | cons part rest ih =>
    simp only [delivered, List.flatMap_cons, List.map_cons, List.isChain_cons_cons]
    rw [← ih part.text, ← behind_eq_iff]
    constructor
    · intro same
      have total := congrArg List.length same
      have first := length_behind_le previous part.text
      have later := length_delivered_le part.text rest
      simp only [List.length_append] at total
      exact List.append_inj same (by omega)
    · rintro ⟨first, later⟩
      rw [first, later]

end TextProgress

def textStep (event : Json) : Option TextStep :=
  match event.str "type" with
  | some "response.output_text.delta" => (event.str "delta").map fun text => .delta text.toList
  | some "response.output_text.done" => (event.str "text").map fun text => .done text.toList
  | _ => none

def contentEventTypes : List String :=
  ["response.output_item.added", "response.output_text.delta", "response.output_text.done",
    "response.function_call_arguments.delta", "response.custom_tool_call_input.delta",
    "response.function_call_arguments.done", "response.custom_tool_call_input.done",
    "response.output_item.done", "response.completed"]

def IsItemEvent (event : Json) : Prop :=
  event.str "type" = some "response.output_item.added" ∨
    event.str "type" = some "response.output_item.done"

def HasKind (kind : String) (item : Json) : Prop :=
  ∃ fields, item = .object fields ∧ Json.field fields "type" = some (.string kind)

inductive Ambient (event : Json) : Prop
  | other (untyped : ∀ name ∈ contentEventTypes, event.str "type" ≠ some name)
  | reasoning (item : Json) (typed : IsItemEvent event) (carried : event.get "item" = some item)
    (kind : HasKind "reasoning" item)

/-- An event that carries an item of the message at `index`. -/
structure Carries (index : Nat) (Item : Json → Prop) (event : Json) : Prop where
  typed : IsItemEvent event
  position : (event.u64 "output_index").getD 0 = index
  carried : ∃ item, event.get "item" = some item ∧ Item item

def Completes (index : Nat) (Item : Json → Prop) (event : Json) : Prop :=
  event.str "type" = some "response.completed" ∧
    ∃ response before item after,
      event.get "response" = some response ∧
      response.get "output" = some (.array (before ++ item :: after)) ∧
      before.length = index ∧ Item item ∧
      ∀ other ∈ before ++ after, HasKind "reasoning" other

def MessageItem (codec : JsonCodec) (item : Json) : Prop :=
  HasKind "message" item ∧
    ∃ fields message, item = .object fields ∧
      responseOutputMessageItemToChatMessage codec fields = .ok message

def AgentItem (codec : JsonCodec) (text : String) (item : Json) : Prop :=
  HasKind "agent_message" item ∧
    ∃ fields message content, item = .object fields ∧
      agentMessageObjectToChatMessage codec fields = .ok message ∧
      message.get "content" = some content ∧ visibleChatContentText content = text

inductive MessageEvent (codec : JsonCodec) (index : Nat) (event : Json) : Prop
  | ambient (ambient : Ambient event)
  | item (carries : Carries index (MessageItem codec) event)
  | text (typed : (textStep event).isSome) (position : (event.u64 "output_index").getD 0 = index)

def DescribesMessage (codec : JsonCodec) (index : Nat) (parts : List TextPart)
    (events : List Json) : Prop :=
  ∃ body terminal, events = body ++ terminal ∧
    (∀ event ∈ body, MessageEvent codec index event) ∧
    body.filterMap textStep = parts.flatMap TextPart.steps ∧
    (terminal = [] ∨ ∃ event, terminal = [event] ∧ Completes index (MessageItem codec) event)

/-- A stream of one agent message: its item added or done, any number of times, or listed in the
completed response, at least once in all. -/
def DescribesAgentMessage (codec : JsonCodec) (index : Nat) (text : String)
    (events : List Json) : Prop :=
  ∃ body terminal, events = body ++ terminal ∧
    (∀ event ∈ body, Ambient event ∨ Carries index (AgentItem codec text) event) ∧
    (terminal = [] ∨ ∃ event, terminal = [event] ∧ Completes index (AgentItem codec text) event) ∧
    (terminal ≠ [] ∨ ∃ event ∈ body, Carries index (AgentItem codec text) event)

namespace ResponsesToChatState

variable {stamp : ChatStamp} {codec : JsonCodec}

@[simp] theorem chunkContent_chunk (state : ResponsesToChatState) (delta : Json)
    (finishReason : Option String) :
    chunkContent (state.chunk stamp delta finishReason) =
      ((delta.str "content").getD "").toList := by
  simp [chunkContent, chunk, makeChatCompletionChunk, Json.asArray]

def Yields (result : Except ProtocolError (ResponsesToChatState × List Json))
    (after : ResponsesToChatState → Text → Prop) : Prop :=
  ∃ next chunks, result = .ok (next, chunks) ∧ after next (contentOf chunks)

structure MessageView where
  outputIndex : Option Nat
  progress : TextProgress
  agentEmitted : Bool
  pending : Option (List (String × Json))
  completed : Bool

def view (state : ResponsesToChatState) : MessageView where
  outputIndex := state.assistantMessageOutputIndex
  progress :=
    { text := state.text.toList
      emitted := state.textOutputEmitted
      done := state.textOutputDone }
  agentEmitted := state.agentMessageContentEmitted
  pending := state.pendingAgentMessage
  completed := state.completedEmitted

theorem view_emitAssistantRole (state : ResponsesToChatState) :
    (state.emitAssistantRole stamp).1.view = state.view ∧
      contentOf (state.emitAssistantRole stamp).2 = [] := by
  unfold emitAssistantRole
  split
  · exact ⟨rfl, rfl⟩
  · exact ⟨rfl, by simp [Json.str, Json.asStr]⟩

theorem afterRole_yields {state : ResponsesToChatState} {event : Json}
    {emit : ResponsesToChatState → Except ProtocolError (ResponsesToChatState × List Json)}
    {after : ResponsesToChatState → Text → Prop}
    (emits : ∀ greeted : ResponsesToChatState, greeted.view = state.view →
      Yields (emit greeted) after) :
    Yields ((state.initializeMetadata stamp event).afterRole stamp emit) after := by
  obtain ⟨same, silent⟩ := @view_emitAssistantRole stamp (state.initializeMetadata stamp event)
  obtain ⟨next, chunks, result, holds⟩ := emits _ same
  refine ⟨next, ((state.initializeMetadata stamp event).emitAssistantRole stamp).2 ++ chunks,
    ?_, ?_⟩
  · simp only [afterRole, result]
  · rwa [contentOf_append, silent, List.nil_append]

theorem ensureSingle_eq {state : ResponsesToChatState} {index : Nat}
    (free : ∀ other, state.view.outputIndex = some other → other = index) :
    state.ensureSingleAssistantMessageOutputIndex index =
      .ok { state with assistantMessageOutputIndex := some index } := by
  unfold ensureSingleAssistantMessageOutputIndex
  cases known : state.assistantMessageOutputIndex with
  | none => rfl
  | some other =>
    obtain rfl := free other known
    simp only [if_true, ← known]

theorem kind_of_reasoning {item : Json} (kind : HasKind "reasoning" item) :
    ∃ fields, item = .object fields ∧ responseOutputItemKind fields = .ok .reasoning := by
  obtain ⟨fields, rfl, typed⟩ := kind
  exact ⟨fields, rfl, by simp [responseOutputItemKind, typed, Json.asStr]⟩

theorem translateEvent_added (state : ResponsesToChatState) {event : Json}
    (typed : event.str "type" = some "response.output_item.added") :
    state.translateEvent stamp codec event =
      translateItemAdded stamp codec (state.initializeMetadata stamp event) event := by
  simp only [translateEvent, typed]

theorem translateEvent_itemDone (state : ResponsesToChatState) {event : Json}
    (typed : event.str "type" = some "response.output_item.done") :
    state.translateEvent stamp codec event =
      (state.initializeMetadata stamp event).afterRole stamp
        (emitOutputItemDone stamp codec · event) := by
  simp only [translateEvent, typed]

theorem translateEvent_created (state : ResponsesToChatState) {event : Json}
    (typed : event.str "type" = some "response.created") :
    state.translateEvent stamp codec event =
      (state.initializeMetadata stamp event).afterRole stamp fun greeted => .ok (greeted, []) := by
  simp only [translateEvent, typed]

theorem translateEvent_unknown (state : ResponsesToChatState) {event : Json} {name : String}
    (typed : event.str "type" = some name) (created : name ≠ "response.created")
    (untyped : ∀ known ∈ contentEventTypes, event.str "type" ≠ some known) :
    state.translateEvent stamp codec event = .ok (state.initializeMetadata stamp event, []) := by
  simp only [contentEventTypes, List.forall_mem_cons, typed, ne_eq, Option.some.injEq] at untyped
  simp only [translateEvent, typed]
  split <;> simp_all

theorem translateEvent_ambient (state : ResponsesToChatState) {event : Json}
    (ambient : Ambient event) :
    Yields (state.translateEvent stamp codec event)
      fun next text => next.view = state.view ∧ text = [] := by
  cases ambient with
  | other untyped =>
    cases typed : event.str "type" with
    | none => exact ⟨state, [], by simp only [translateEvent, typed], rfl, rfl⟩
    | some name =>
      by_cases created : name = "response.created"
      · rw [translateEvent_created state (created ▸ typed)]
        exact afterRole_yields fun greeted same => ⟨greeted, [], rfl, same, rfl⟩
      · exact ⟨state.initializeMetadata stamp event, [],
          translateEvent_unknown state typed created untyped, rfl, rfl⟩
  | reasoning item typed carried kind =>
    obtain ⟨fields, rfl, isReasoning⟩ := kind_of_reasoning kind
    rcases typed with added | done
    · rw [translateEvent_added state added]
      refine ⟨state.initializeMetadata stamp event, [], ?_, rfl, rfl⟩
      simp [translateItemAdded, carried, Json.asObject, isReasoning]
    · rw [translateEvent_itemDone state done]
      refine afterRole_yields fun greeted same => ⟨greeted, [], ?_, same, rfl⟩
      simp [emitOutputItemDone, carried, Json.asObject, isReasoning]

theorem view_emitFunctionCallArgumentsDone (state : ResponsesToChatState) (event : Json) :
    (state.emitFunctionCallArgumentsDone event).view = state.view := by
  simp only [emitFunctionCallArgumentsDone]
  split <;> rfl

theorem view_emitCompleteText (state : ResponsesToChatState) (text : String) :
    (state.emitCompleteText stamp text).1.view =
        { state.view with
          progress :=
            { (state.view.progress.step (.done text.toList)).1 with
              done := state.view.progress.done } } ∧
      contentOf (state.emitCompleteText stamp text).2 =
        (state.view.progress.step (.done text.toList)).2 := by
  have suffix : (state.missingText text).toList =
      (state.view.progress.step (.done text.toList)).2 := by
    cases emitted : state.textOutputEmitted with
    | false => simp [missingText, TextProgress.step, view, emitted]
    | true =>
      cases found : text.toList.dropPrefix? state.text.toList <;>
        simp [missingText, TextProgress.step, view, emitted, behind, found]
  have empty : (decide (text ≠ "")) = !text.toList.isEmpty := by
    cases decision : text.toList.isEmpty <;> simp_all
  by_cases none : state.missingText text = ""
  · refine ⟨by simp [emitCompleteText, none, view, TextProgress.step, ← empty], ?_⟩
    rw [← suffix, none]
    simp [emitCompleteText, none]
  · refine ⟨by simp [emitCompleteText, none, view, stamped, TextProgress.step, ← empty], ?_⟩
    simp [emitCompleteText, none, Json.str, Json.asStr, suffix]

/-- The state stays with the message at `index`, and no agent message is at work. -/
structure OnMessage (index : Nat) (state : ResponsesToChatState) : Prop where
  position : ∀ other, state.view.outputIndex = some other → other = index
  agentEmitted : state.view.agentEmitted = false
  pending : state.view.pending = none

theorem OnMessage.of_view {index : Nat} {state next : ResponsesToChatState}
    (here : OnMessage index state) (same : next.view = state.view) : OnMessage index next := by
  obtain ⟨position, agentEmitted, pending⟩ := here
  exact ⟨by rwa [same], by rwa [same], by rwa [same]⟩

theorem OnMessage.at_index {index : Nat} {state : ResponsesToChatState}
    (here : OnMessage index state) :
    OnMessage index { state with assistantMessageOutputIndex := some index } :=
  ⟨fun _ same => (Option.some.inj same).symm, here.agentEmitted, here.pending⟩

def Follows (index : Nat) (progress : TextProgress) (step : Option TextStep)
    (next : ResponsesToChatState) (text : Text) : Prop :=
  OnMessage index next ∧
    (next.view.progress, text) =
      match step with
      | none => (progress, [])
      | some step => progress.step step

theorem kind_of_message {item : Json} (accepted : MessageItem codec item) :
    ∃ fields message, item = .object fields ∧ responseOutputItemKind fields = .ok .message ∧
      responseOutputMessageItemToChatMessage codec fields = .ok message := by
  obtain ⟨⟨fields, rfl, typed⟩, other, message, same, converted⟩ := accepted
  cases same
  exact ⟨fields, message, rfl, by simp [responseOutputItemKind, typed, Json.asStr], converted⟩

theorem textStep_of_item {event : Json} (typed : IsItemEvent event) : textStep event = none := by
  rcases typed with typed | typed <;> simp [textStep, typed]

theorem textStep_of_ambient {event : Json} (ambient : Ambient event) : textStep event = none := by
  cases ambient with
  | other untyped =>
    simp only [contentEventTypes, List.forall_mem_cons] at untyped
    unfold textStep
    split <;> simp_all
  | reasoning item typed carried kind => exact textStep_of_item typed

theorem translateEvent_messageItem {index : Nat} {state : ResponsesToChatState} {event : Json}
    (here : OnMessage index state) (carries : Carries index (MessageItem codec) event) :
    Yields (state.translateEvent stamp codec event) (Follows index state.view.progress none) := by
  obtain ⟨typed, position, item, carried, accepted⟩ := carries
  obtain ⟨fields, message, rfl, kind, converted⟩ := kind_of_message accepted
  rcases typed with added | done
  · rw [translateEvent_added state added]
    let known := state.initializeMetadata stamp event
    let single := { known with assistantMessageOutputIndex := some index }
    have ensured : known.ensureSingleAssistantMessageOutputIndex index = .ok single :=
      ensureSingle_eq here.position
    obtain ⟨same, silent⟩ := @view_emitAssistantRole stamp single
    have onMessage : OnMessage index single := ⟨here.at_index.position, here.agentEmitted, here.pending⟩
    refine ⟨(single.emitAssistantRole stamp).1, (single.emitAssistantRole stamp).2, ?_,
      onMessage.of_view same, ?_⟩
    · simp [translateItemAdded, carried, Json.asObject, kind, converted, position, known, ensured]
    · rw [silent, same]
      rfl
  · rw [translateEvent_itemDone state done]
    refine afterRole_yields fun greeted same => ?_
    have greetedHere := here.of_view same
    let single := { greeted with assistantMessageOutputIndex := some index }
    have ensured : greeted.ensureSingleAssistantMessageOutputIndex index = .ok single :=
      ensureSingle_eq greetedHere.position
    have unchanged := single.view_emitFunctionCallArgumentsDone event
    refine ⟨single.emitFunctionCallArgumentsDone event, [], ?_,
      greetedHere.at_index.of_view unchanged, ?_⟩
    · simp [emitOutputItemDone, carried, Json.asObject, kind, converted, position, ensured]
    · rw [unchanged, ← same]
      rfl

theorem textStep_cases {event : Json} (typed : (textStep event).isSome) :
    (∃ delta, event.str "type" = some "response.output_text.delta" ∧
        event.str "delta" = some delta ∧ textStep event = some (.delta delta.toList)) ∨
      ∃ text, event.str "type" = some "response.output_text.done" ∧
        event.str "text" = some text ∧ textStep event = some (.done text.toList) := by
  unfold textStep at typed ⊢
  split at typed
  · next name =>
    obtain ⟨delta, found⟩ := Option.isSome_iff_exists.1 (Option.isSome_map.symm.trans typed)
    exact .inl ⟨delta, name, found, by simp [found]⟩
  · next name =>
    obtain ⟨text, found⟩ := Option.isSome_iff_exists.1 (Option.isSome_map.symm.trans typed)
    exact .inr ⟨text, name, found, by simp [found]⟩
  · simp at typed

theorem atMessage_yields {index : Nat} {state : ResponsesToChatState} {event : Json}
    {emit : ResponsesToChatState → Except ProtocolError (ResponsesToChatState × List Json)}
    {after : ResponsesToChatState → Text → Prop} (here : OnMessage index state)
    (position : (event.u64 "output_index").getD 0 = index)
    (emits : ∀ single : ResponsesToChatState, OnMessage index single →
      single.view.progress = state.view.progress → Yields (emit single) after) :
    Yields (atMessage event emit state) after := by
  have ensured := ensureSingle_eq here.position
  simp only [atMessage, position, ensured]
  exact emits _ here.at_index rfl

theorem emitOutputTextDelta_yields {index : Nat} {state : ResponsesToChatState} {event : Json}
    {delta : String} (here : OnMessage index state) (found : event.str "delta" = some delta) :
    Yields (state.emitOutputTextDelta stamp event)
      (Follows index state.view.progress (some (.delta delta.toList))) := by
  have agent : state.agentMessageContentEmitted = false := here.agentEmitted
  cases done : state.textOutputDone with
  | true =>
    refine ⟨state, [], by simp [emitOutputTextDelta, found, agent, done], here, ?_⟩
    simp [TextProgress.step, view, done]
  | false =>
    let extended := { state.stamped stamp with
      text := state.text ++ delta
      textOutputEmitted := state.textOutputEmitted || delta ≠ "" }
    have nonempty : (decide (delta ≠ "")) = !delta.toList.isEmpty := by
      cases decision : delta.toList.isEmpty <;> simp_all
    refine ⟨extended, [state.chunk stamp (.object [("content", .string delta)]) none],
      by simp [emitOutputTextDelta, found, agent, done, extended],
      ⟨here.position, here.agentEmitted, here.pending⟩, ?_⟩
    simp [TextProgress.step, view, stamped, done, extended, ← nonempty, Json.str, Json.asStr]

theorem emitOutputTextDone_follows {index : Nat} {state : ResponsesToChatState} {event : Json}
    {text : String} (here : OnMessage index state) (found : event.str "text" = some text) :
    Follows index state.view.progress (some (.done text.toList)) (state.emitOutputTextDone stamp event).1
      (contentOf (state.emitOutputTextDone stamp event).2) := by
  obtain ⟨reached, emitted⟩ := @view_emitCompleteText stamp state text
  have doneView : (state.emitOutputTextDone stamp event).1.view =
      { state.view with progress := (state.view.progress.step (.done text.toList)).1 } := by
    have progress := congrArg (·.progress) reached
    simp only [view, TextProgress.mk.injEq] at progress
    have rest := reached
    simp only [view, MessageView.mk.injEq] at rest
    simp only [emitOutputTextDone, found, view, MessageView.mk.injEq]
    simp [rest, progress, TextProgress.step]
  refine ⟨⟨?_, ?_, ?_⟩, ?_⟩
  · rw [doneView]
    exact here.position
  · rw [doneView]
    exact here.agentEmitted
  · rw [doneView]
    exact here.pending
  · rw [doneView]
    simp only [emitOutputTextDone, found, emitted]

theorem translateEvent_text {index : Nat} {state : ResponsesToChatState} {event : Json}
    (here : OnMessage index state) (typed : (textStep event).isSome)
    (position : (event.u64 "output_index").getD 0 = index) :
    Yields (state.translateEvent stamp codec event) (Follows index state.view.progress (textStep event)) := by
  rcases textStep_cases typed with ⟨delta, name, found, step⟩ | ⟨text, name, found, step⟩
  · have translated : state.translateEvent stamp codec event =
        (state.initializeMetadata stamp event).afterRole stamp
          (atMessage event (emitOutputTextDelta stamp · event)) := by
      simp only [translateEvent, name]
    rw [translated, step]
    refine afterRole_yields fun greeted same => ?_
    refine atMessage_yields (here.of_view same) position fun single singleHere progress => ?_
    rw [← same, ← progress]
    exact emitOutputTextDelta_yields singleHere found
  · have translated : state.translateEvent stamp codec event =
        (state.initializeMetadata stamp event).afterRole stamp
          (atMessage event fun single => .ok (single.emitOutputTextDone stamp event)) := by
      simp only [translateEvent, name]
    rw [translated, step]
    refine afterRole_yields fun greeted same => ?_
    refine atMessage_yields (here.of_view same) position fun single singleHere progress => ?_
    rw [← same, ← progress]
    exact ⟨_, _, rfl, emitOutputTextDone_follows singleHere found⟩

theorem translateEvent_message {index : Nat} {state : ResponsesToChatState} {event : Json}
    (here : OnMessage index state) (message : MessageEvent codec index event) :
    Yields (state.translateEvent stamp codec event) (Follows index state.view.progress (textStep event)) := by
  cases message with
  | ambient ambient =>
    obtain ⟨next, chunks, result, same, silent⟩ := translateEvent_ambient state ambient
    refine ⟨next, chunks, result, here.of_view same, ?_⟩
    rw [textStep_of_ambient ambient, same, silent]
  | item carries =>
    rw [textStep_of_item carries.typed]
    exact translateEvent_messageItem here carries
  | text typed position => exact translateEvent_text here typed position

/-! ### The end of the stream -/

theorem validateItems_reasoning {before rest : List Json} (count : Nat)
    (reasoning : ∀ other ∈ before, HasKind "reasoning" other) :
    validateItems codec count (before ++ rest) = validateItems codec count rest := by
  induction before with
  | nil => rfl
  | cons other others ih =>
    obtain ⟨fields, rfl, kind⟩ := kind_of_reasoning (reasoning other List.mem_cons_self)
    simp only [List.cons_append, validateItems, Json.asObject, kind]
    exact ih fun later member => reasoning later (List.mem_cons_of_mem _ member)

theorem firstAgentMessage_reasoning {before rest : List Json} (position : Nat)
    (reasoning : ∀ other ∈ before, HasKind "reasoning" other) :
    firstAgentMessage position (before ++ rest) =
      firstAgentMessage (position + before.length) rest := by
  induction before generalizing position with
  | nil => rfl
  | cons other others ih =>
    obtain ⟨fields, rfl, kind⟩ := kind_of_reasoning (reasoning other List.mem_cons_self)
    simp only [List.cons_append, firstAgentMessage, Json.asObject, kind]
    rw [ih (position + 1) fun later member => reasoning later (List.mem_cons_of_mem _ member)]
    simp only [List.length_cons]
    congr 1
    omega

theorem responseOutput_eq {event response : Json} {items : List Json}
    (carried : event.get "response" = some response)
    (listed : response.get "output" = some (.array items)) :
    responseOutput event = some items := by
  cases response with
  | object fields => simp_all [responseOutput, Json.get, Json.asObject, Json.asArray]
  | _ => simp [Json.get, Json.asObject] at listed

theorem translateEvent_completed (state : ResponsesToChatState) {event : Json}
    (typed : event.str "type" = some "response.completed") :
    state.translateEvent stamp codec event =
      (state.initializeMetadata stamp event).afterRole stamp
        (translateCompleted stamp codec event) := by
  simp only [translateEvent, typed]

theorem finish_yields {state : ResponsesToChatState} {after : MessageView → Text → Prop}
    (unfinished : state.view.completed = false)
    (emits : ∀ greeted : ResponsesToChatState, greeted.view = state.view →
      Yields (greeted.emitPending stamp codec) fun next text => after next.view text) :
    Yields (state.finish stamp codec)
      fun next text => ∃ view, after view text ∧ next.view = { view with completed := true } := by
  obtain ⟨same, silent⟩ := @view_emitAssistantRole stamp state
  obtain ⟨next, chunks, result, holds⟩ := emits _ same
  have unsent : state.completedEmitted = false := unfinished
  let finishReason := if next.toolCalls.isEmpty then "stop" else "tool_calls"
  refine ⟨{ next.stamped stamp with completedEmitted := true },
    (state.emitAssistantRole stamp).2 ++ chunks ++
      [next.chunk stamp (.object []) (some finishReason)], ?_, next.view, ?_, rfl⟩
  · simp only [finish, unsent, result]
    rfl
  · simpa [silent, Json.str] using holds

theorem finish_without_agent {state : ResponsesToChatState} (none : state.view.pending = none) :
    Yields (state.finish stamp codec) fun next text => text = [] ∧ next.view.pending = .none := by
  cases completed : state.completedEmitted with
  | true => exact ⟨state, [], by simp [finish, completed], rfl, none⟩
  | false =>
    have finished := @finish_yields stamp codec state (fun view text => text = [] ∧ view.pending = .none)
      completed fun greeted same => by
        have pending : greeted.pendingAgentMessage = .none :=
          (congrArg MessageView.pending same).trans none
        exact ⟨greeted, [], by simp [emitPending, pending], rfl, pending⟩
    obtain ⟨next, chunks, result, view, ⟨silent, pending⟩, same⟩ := finished
    exact ⟨next, chunks, result, silent, by rw [same]; exact pending⟩

theorem translateEvent_message_completed {index : Nat} {state : ResponsesToChatState}
    {event : Json} (here : OnMessage index state)
    (completes : Completes index (MessageItem codec) event) :
    Yields (state.translateEvent stamp codec event)
      fun next text => text = [] ∧ next.view.pending = none := by
  obtain ⟨typed, response, before, item, after, carried, listed, -, accepted, reasoning⟩ := completes
  obtain ⟨fields, message, rfl, kind, converted⟩ := kind_of_message accepted
  have output := responseOutput_eq carried listed
  have earlier : ∀ other ∈ before, HasKind "reasoning" other :=
    fun other member => reasoning other (List.mem_append_left _ member)
  have later : ∀ other ∈ after, HasKind "reasoning" other :=
    fun other member => reasoning other (List.mem_append_right _ member)
  have valid : validateCompletedResponseOutput codec event = .ok () := by
    rw [validateCompletedResponseOutput, output, Option.getD_some, validateItems_reasoning 0 earlier]
    have rest := @validateItems_reasoning codec after [] 1 later
    simp only [validateItems, Json.asObject, kind, converted]
    simpa [validateItems] using rest
  have first : firstAgentMessage 0 (before ++ .object fields :: after) = .ok none := by
    rw [firstAgentMessage_reasoning 0 earlier]
    simp only [firstAgentMessage, Json.asObject, kind]
    simpa [firstAgentMessage] using
      @firstAgentMessage_reasoning after [] (0 + before.length + 1) later
  rw [translateEvent_completed state typed]
  refine afterRole_yields fun greeted same => ?_
  have greetedHere := here.of_view same
  have agent : greeted.agentMessageContentEmitted = false := greetedHere.agentEmitted
  obtain ⟨next, chunks, finished, silent, pending⟩ :=
    @finish_without_agent stamp codec greeted greetedHere.pending
  refine ⟨next, chunks, ?_, silent, pending⟩
  simp [translateCompleted, valid, emitCompletedAgentMessageContent, agent, output, first, finished]

/-! ### A message, event by event -/

/-- The stream is translated to its end, and its chunks bring the text `sent` before to `text`. -/
def Delivers (sent : Text) (result : Except ProtocolError (List Json)) (text : Text) : Prop :=
  ∃ chunks, result = .ok chunks ∧ sent ++ contentOf chunks = text

theorem Delivers.cons {state : ResponsesToChatState} {event : Json} {rest : List Json}
    {after : ResponsesToChatState → Text → Prop} {sent text : Text}
    (step : Yields (state.translateEvent stamp codec event) after)
    (later : ∀ next out, after next out →
      Delivers (sent ++ out) (next.translateFrom stamp codec rest) text) :
    Delivers sent (state.translateFrom stamp codec (event :: rest)) text := by
  obtain ⟨next, chunks, result, holds⟩ := step
  obtain ⟨laterChunks, translated, whole⟩ := later next _ holds
  refine ⟨chunks ++ laterChunks, ?_, ?_⟩
  · simp only [translateFrom, result, translated]
  · rw [contentOf_append, ← List.append_assoc, whole]

theorem delivers_nothing_more {state : ResponsesToChatState} (sent : Text)
    (none : state.view.pending = none) :
    Delivers sent (state.translateFrom stamp codec []) sent := by
  obtain ⟨next, chunks, result, silent, -⟩ := @finish_without_agent stamp codec state none
  exact ⟨chunks, by simp [translateFrom, result, Except.map], by simp [silent]⟩

theorem delivers_message {index : Nat} {state : ResponsesToChatState} {body terminal : List Json}
    (sent : Text) (here : OnMessage index state)
    (events : ∀ event ∈ body, MessageEvent codec index event)
    (ends : terminal = [] ∨ ∃ event, terminal = [event] ∧ Completes index (MessageItem codec) event) :
    Delivers sent (state.translateFrom stamp codec (body ++ terminal))
      (sent ++ state.view.progress.run (body.filterMap textStep)) := by
  induction body generalizing state sent with
  | nil =>
    rw [List.filterMap_nil, TextProgress.run, List.append_nil]
    rcases ends with rfl | ⟨event, rfl, completes⟩
    · exact delivers_nothing_more sent here.pending
    · refine Delivers.cons (translateEvent_message_completed here completes) ?_
      rintro next out ⟨rfl, pending⟩
      rw [List.append_nil]
      exact delivers_nothing_more sent pending
  | cons event rest ih =>
    refine Delivers.cons (translateEvent_message here (events event List.mem_cons_self)) ?_
    rintro next out ⟨nextHere, moved⟩
    have later := ih (sent ++ out) nextHere
      fun event member => events event (List.mem_cons_of_mem _ member)
    cases step : textStep event with
    | none =>
      simp only [step, Prod.mk.injEq] at moved
      simpa [step, moved] using later
    | some next =>
      simp only [step, Prod.ext_iff] at moved
      simpa [step, moved, TextProgress.run] using later

/-! ### An agent message, event by event -/

structure MessageView.OnAgent (codec : JsonCodec) (index : Nat) (text : String)
    (view : MessageView) : Prop where
  position : ∀ other, view.outputIndex = some other → other = index
  sent : view.agentEmitted = true → view.progress.emitted = true ∧ view.progress.text = text.toList
  unsent : view.agentEmitted = false → view.progress.emitted = false
  pending : ∀ fields, view.pending = some fields → AgentItem codec text (.object fields)

def MessageView.sentText (text : String) (view : MessageView) : Text :=
  if view.agentEmitted then text.toList else []

theorem emitAgentMessage_yields {index : Nat} {text : String} {state : ResponsesToChatState}
    {fields : List (String × Json)} (here : state.view.OnAgent codec index text)
    (accepted : AgentItem codec text (.object fields)) :
    Yields (emitAgentMessageContentIfNeeded stamp codec state fields) fun next out =>
      next.view.OnAgent codec index text ∧ state.view.sentText text ++ out = text.toList ∧
        next.view.sentText text = text.toList ∧ next.view.pending = state.view.pending ∧
        next.view.completed = state.view.completed := by
  obtain ⟨-, other, message, content, same, converted, found, visible⟩ := accepted
  cases same
  by_cases empty : text = ""
  · subst empty
    refine ⟨state, [], by simp [emitAgentMessageContentIfNeeded, converted, found, visible], here,
      ?_, ?_, rfl, rfl⟩ <;> simp [MessageView.sentText]
  · obtain ⟨reached, emitted⟩ := @view_emitCompleteText stamp state text
    let next := { (state.emitCompleteText stamp text).1 with agentMessageContentEmitted := true }
    have nextView : next.view =
        { state.view with
          agentEmitted := true
          progress :=
            { (state.view.progress.step (.done text.toList)).1 with
              done := state.view.progress.done } } := by
      have flagged : next.view =
        { (state.emitCompleteText stamp text).1.view with agentEmitted := true } := rfl
      rw [flagged, reached]
    refine ⟨next, (state.emitCompleteText stamp text).2, ?_, ⟨?_, ?_, ?_, ?_⟩, ?_, ?_, ?_, ?_⟩
    · simp [emitAgentMessageContentIfNeeded, converted, found, visible, empty, next]
    · rw [nextView]
      exact here.position
    · rw [nextView]
      simp [TextProgress.step, empty]
    · simp [nextView]
    · rw [nextView]
      exact here.pending
    · rw [emitted]
      cases sent : state.view.agentEmitted with
      | true =>
        obtain ⟨flagged, seen⟩ := here.sent sent
        simp [MessageView.sentText, sent, TextProgress.step, flagged, seen, TextProgress.behind_self]
      | false => simp [MessageView.sentText, sent, TextProgress.step, here.unsent sent]
    · simp [nextView, MessageView.sentText]
    · rw [nextView]
    · rw [nextView]

def MessageView.Heard (text : String) (view : MessageView) : Prop :=
  view.sentText text = text.toList ∨ view.pending.isSome

def Advances (codec : JsonCodec) (index : Nat) (text : String) (before : MessageView)
    (next : ResponsesToChatState) (out : Text) : Prop :=
  next.view.OnAgent codec index text ∧ before.sentText text ++ out = next.view.sentText text ∧
    (before.Heard text → next.view.Heard text) ∧ next.view.completed = before.completed

theorem kind_of_agent {text : String} {item : Json} (accepted : AgentItem codec text item) :
    ∃ fields message, item = .object fields ∧ responseOutputItemKind fields = .ok .agentMessage ∧
      responseOutputMessageItemToChatMessage codec fields = .ok message := by
  obtain ⟨⟨fields, rfl, typed⟩, other, message, content, same, converted, -⟩ := accepted
  cases same
  refine ⟨fields, message, rfl, by simp [responseOutputItemKind, typed, Json.asStr], ?_⟩
  simp [responseOutputMessageItemToChatMessage, typed, Json.asStr, converted]

theorem MessageView.OnAgent.at_index {index : Nat} {text : String} {state : ResponsesToChatState}
    (here : state.view.OnAgent codec index text) (pending : Option (List (String × Json)))
    (accepted : ∀ fields, pending = some fields → AgentItem codec text (.object fields)) :
    ({ state with
        assistantMessageOutputIndex := some index
        pendingAgentMessage := pending } : ResponsesToChatState).view.OnAgent codec index text :=
  ⟨fun _ same => (Option.some.inj same).symm, here.sent, here.unsent, accepted⟩

theorem translateEvent_agentItem {index : Nat} {text : String} {state : ResponsesToChatState}
    {event : Json} (here : state.view.OnAgent codec index text)
    (carries : Carries index (AgentItem codec text) event) :
    Yields (state.translateEvent stamp codec event) fun next out =>
      Advances codec index text state.view next out ∧ next.view.Heard text := by
  obtain ⟨typed, position, item, carried, accepted⟩ := carries
  obtain ⟨fields, message, rfl, kind, converted⟩ := kind_of_agent accepted
  rcases typed with added | done
  · rw [translateEvent_added state added]
    let known := state.initializeMetadata stamp event
    let single := { known with assistantMessageOutputIndex := some index }
    have ensured : known.ensureSingleAssistantMessageOutputIndex index = .ok single :=
      ensureSingle_eq here.position
    obtain ⟨same, silent⟩ := @view_emitAssistantRole stamp single
    let next := { (single.emitAssistantRole stamp).1 with pendingAgentMessage := some fields }
    have nextView : next.view =
        { state.view with outputIndex := some index, pending := some fields } := by
      have reached : next.view = { (single.emitAssistantRole stamp).1.view with
        pending := some fields } := rfl
      rw [reached, same]
      rfl
    have heard : next.view.Heard text := .inr (by rw [nextView]; rfl)
    refine ⟨next, (single.emitAssistantRole stamp).2, ?_, ⟨⟨?_, ?_, ?_, ?_⟩, ?_, ?_, ?_⟩, heard⟩
    · simp [translateItemAdded, carried, Json.asObject, kind, converted, position, known, ensured,
        next]
    · simp [nextView, eq_comm]
    · rw [nextView]
      exact here.sent
    · rw [nextView]
      exact here.unsent
    · rw [nextView]
      rintro _ ⟨⟩
      exact accepted
    · rw [nextView, silent, List.append_nil]
      rfl
    · exact fun _ => heard
    · rw [nextView]
  · rw [translateEvent_itemDone state done]
    refine afterRole_yields fun greeted same => ?_
    rw [← same] at here ⊢
    have single := ensureSingle_eq here.position
    have ready := here.at_index none (by simp)
    obtain ⟨next, chunks, result, nextHere, sent, whole, -, completed⟩ :=
      @emitAgentMessage_yields stamp _ _ _ _ _ ready accepted
    have unchanged := next.view_emitFunctionCallArgumentsDone event
    refine ⟨next.emitFunctionCallArgumentsDone event, chunks, ?_, ⟨?_, ?_, ?_, ?_⟩, ?_⟩
    · simp [emitOutputItemDone, carried, Json.asObject, kind, converted, position, single, result]
    · rwa [unchanged]
    · rw [unchanged, whole]
      exact sent
    · exact fun _ => .inl (by rwa [unchanged])
    · rw [unchanged, completed]
      rfl
    · exact .inl (by rwa [unchanged])

theorem finish_agent {index : Nat} {text : String} {state : ResponsesToChatState}
    (here : state.view.OnAgent codec index text) (heard : state.view.Heard text)
    (unfinished : state.view.completed = false) :
    Yields (state.finish stamp codec) fun next out =>
      state.view.sentText text ++ out = text.toList ∧ next.view.pending = none := by
  have finished := @finish_yields stamp codec state
    (fun view out => state.view.sentText text ++ out = text.toList ∧ view.pending = none)
    unfinished fun greeted same => by
      rw [← same] at here heard ⊢
      cases pending : greeted.pendingAgentMessage with
      | none =>
        have sent : greeted.view.sentText text = text.toList := by
          rcases heard with sent | held
          · exact sent
          · simp [view, pending] at held
        exact ⟨greeted, [], by simp [emitPending, pending], by simpa using sent, pending⟩
      | some fields =>
        have ready : ({ greeted with pendingAgentMessage := none } : ResponsesToChatState).view.OnAgent
            codec index text := ⟨here.position, here.sent, here.unsent, by simp [view]⟩
        obtain ⟨next, chunks, result, -, sent, -, none, -⟩ :=
          @emitAgentMessage_yields stamp _ _ _ _ _ ready (here.pending fields pending)
        exact ⟨next, chunks, by simp [emitPending, pending, result], sent, none⟩
  obtain ⟨next, chunks, result, view, ⟨sent, pending⟩, same⟩ := finished
  exact ⟨next, chunks, result, sent, by rw [same]; exact pending⟩

theorem validateCompleted_agent {event : Json} {before after : List Json}
    {fields : List (String × Json)} {message : Json}
    (output : responseOutput event = some (before ++ .object fields :: after))
    (reasoning : ∀ other ∈ before ++ after, HasKind "reasoning" other)
    (kind : responseOutputItemKind fields = .ok .agentMessage)
    (converted : responseOutputMessageItemToChatMessage codec fields = .ok message) :
    validateCompletedResponseOutput codec event = .ok () := by
  have earlier : ∀ other ∈ before, HasKind "reasoning" other :=
    fun other member => reasoning other (List.mem_append_left _ member)
  have later : ∀ other ∈ after, HasKind "reasoning" other :=
    fun other member => reasoning other (List.mem_append_right _ member)
  rw [validateCompletedResponseOutput, output, Option.getD_some, validateItems_reasoning 0 earlier]
  have rest := @validateItems_reasoning codec after [] 1 later
  simp only [validateItems, Json.asObject, kind, converted]
  simpa [validateItems] using rest

theorem emitCompleted_agent {index : Nat} {text : String} {state : ResponsesToChatState}
    {event : Json} {before after : List Json} {fields : List (String × Json)}
    (here : state.view.OnAgent codec index text)
    (output : responseOutput event = some (before ++ .object fields :: after))
    (reasoning : ∀ other ∈ before, HasKind "reasoning" other) (position : before.length = index)
    (kind : responseOutputItemKind fields = .ok .agentMessage)
    (accepted : AgentItem codec text (.object fields)) :
    Yields (emitCompletedAgentMessageContent stamp codec state event) fun next out =>
      next.view.OnAgent codec index text ∧ state.view.sentText text ++ out = text.toList ∧
        next.view.sentText text = text.toList ∧ next.view.completed = state.view.completed := by
  cases emitted : state.agentMessageContentEmitted with
  | true =>
    have sent : state.view.sentText text = text.toList := by
      simp [MessageView.sentText, view, emitted]
    exact ⟨state, [], by simp [emitCompletedAgentMessageContent, emitted], here, by simpa using sent,
      sent, rfl⟩
  | false =>
    have first : firstAgentMessage 0 (before ++ .object fields :: after) = .ok (some (index, fields)) := by
      rw [firstAgentMessage_reasoning 0 reasoning]
      simp [firstAgentMessage, Json.asObject, kind, position]
    have single := ensureSingle_eq here.position
    have ready := here.at_index none (by simp)
    obtain ⟨next, chunks, result, nextHere, sent, whole, -, completed⟩ :=
      @emitAgentMessage_yields stamp _ _ _ _ _ ready accepted
    refine ⟨next, chunks, ?_, nextHere, sent, whole, completed⟩
    rw [emitCompletedAgentMessageContent, if_neg (by simp [emitted]), output]
    simp only [first, single, result]

theorem translateEvent_agent_completed {index : Nat} {text : String} {state : ResponsesToChatState}
    {event : Json} (here : state.view.OnAgent codec index text)
    (unfinished : state.view.completed = false)
    (completes : Completes index (AgentItem codec text) event) :
    Yields (state.translateEvent stamp codec event) fun next out =>
      state.view.sentText text ++ out = text.toList ∧ next.view.pending = none := by
  obtain ⟨typed, response, before, item, after, carried, listed, position, accepted, reasoning⟩ :=
    completes
  obtain ⟨fields, message, rfl, kind, converted⟩ := kind_of_agent accepted
  have output := responseOutput_eq carried listed
  have earlier : ∀ other ∈ before, HasKind "reasoning" other :=
    fun other member => reasoning other (List.mem_append_left _ member)
  have valid := @validateCompleted_agent codec _ _ _ _ _ output reasoning kind converted
  rw [translateEvent_completed state typed]
  refine afterRole_yields fun greeted same => ?_
  rw [← same] at here unfinished ⊢
  obtain ⟨sentState, sentChunks, emitted, sentHere, sent, whole, completed⟩ :=
    @emitCompleted_agent stamp codec _ _ _ _ _ _ _ here output earlier position kind accepted
  obtain ⟨next, chunks, finished, rest, pending⟩ :=
    @finish_agent stamp codec _ _ _ sentHere (.inl whole) (completed.trans unfinished)
  have nothing : contentOf chunks = [] := by
    rw [whole] at rest
    simpa using rest
  refine ⟨next, sentChunks ++ chunks, ?_, ?_, pending⟩
  · simp [translateCompleted, valid, emitted, finished]
  · simpa [nothing] using sent

theorem delivers_agentMessage {index : Nat} {text : String} {state : ResponsesToChatState}
    {body terminal : List Json} (here : state.view.OnAgent codec index text)
    (unfinished : state.view.completed = false)
    (events : ∀ event ∈ body, Ambient event ∨ Carries index (AgentItem codec text) event)
    (ends : terminal = [] ∨
      ∃ event, terminal = [event] ∧ Completes index (AgentItem codec text) event)
    (carried : state.view.Heard text ∨ terminal ≠ [] ∨
      ∃ event ∈ body, Carries index (AgentItem codec text) event) :
    Delivers (state.view.sentText text) (state.translateFrom stamp codec (body ++ terminal))
      text.toList := by
  induction body generalizing state with
  | nil =>
    rcases ends with rfl | ⟨event, rfl, completes⟩
    · have heard : state.view.Heard text := by simpa using carried
      obtain ⟨next, chunks, result, sent, -⟩ :=
        @finish_agent stamp codec _ _ _ here heard unfinished
      exact ⟨chunks, by simp [translateFrom, result, Except.map], sent⟩
    · refine Delivers.cons (translateEvent_agent_completed here unfinished completes) ?_
      rintro next out ⟨sent, pending⟩
      rw [sent]
      exact delivers_nothing_more _ pending
  | cons event rest ih =>
    have others : ∀ event ∈ rest, Ambient event ∨ Carries index (AgentItem codec text) event :=
      fun event member => events event (List.mem_cons_of_mem _ member)
    by_cases carries : Carries index (AgentItem codec text) event
    · refine Delivers.cons (translateEvent_agentItem here carries) ?_
      rintro next out ⟨⟨nextHere, sent, -, completed⟩, heard⟩
      rw [sent]
      exact ih nextHere (completed.trans unfinished) others (.inl heard)
    · have ambient := (events event List.mem_cons_self).resolve_right carries
      refine Delivers.cons (translateEvent_ambient state ambient) ?_
      rintro next out ⟨same, rfl⟩
      rw [List.append_nil, ← same]
      refine ih (by rwa [same]) (by rwa [same]) others ?_
      rw [same]
      rcases carried with heard | more | ⟨carrier, member, carried⟩
      · exact .inl heard
      · exact .inr (.inl more)
      · rcases List.mem_cons.1 member with rfl | later
        · exact absurd carried carries
        · exact .inr (.inr ⟨carrier, later, carried⟩)

end ResponsesToChatState

inductive AssistantMessage where
  | message (parts : List TextPart)
  | agentMessage (text : String)

namespace AssistantMessage

def text : AssistantMessage → Text
  | message parts => parts.flatMap TextPart.text
  | agentMessage text => text.toList

def DescribedBy (codec : JsonCodec) (index : Nat) (events : List Json) : AssistantMessage → Prop
  | message parts => DescribesMessage codec index parts events
  | agentMessage text => DescribesAgentMessage codec index text events

def PartsDistinguished : AssistantMessage → Prop
  | message parts => (parts.map TextPart.text).IsChain TextProgress.Distinguished
  | agentMessage _ => True

end AssistantMessage

open ResponsesToChatState in
theorem text_delivered_once_iff (stamp : ChatStamp) (codec : JsonCodec)
    (toolRegistry : Option ToolAdapterRegistry) (index : Nat) (assistant : AssistantMessage)
    (events : List Json) (described : assistant.DescribedBy codec index events) :
    Delivers [] (translateFrom stamp codec { toolRegistry } events) assistant.text ↔
      assistant.PartsDistinguished := by
  cases assistant with
  | message parts =>
    obtain ⟨body, terminal, rfl, messages, steps, ends⟩ := described
    have start : OnMessage index { toolRegistry } := ⟨by simp [view], rfl, rfl⟩
    have delivers := @delivers_message stamp codec _ _ _ _ [] start messages ends
    rw [steps] at delivers
    have parts_run : (ResponsesToChatState.view { toolRegistry }).progress.run
        (parts.flatMap TextPart.steps) = TextProgress.delivered [] parts :=
      TextProgress.run_parts parts
    rw [List.nil_append, parts_run] at delivers
    obtain ⟨chunks, result, content⟩ := delivers
    have chain : (parts.map TextPart.text).IsChain TextProgress.Distinguished ↔
        ([] :: parts.map TextPart.text).IsChain TextProgress.Distinguished := by
      cases parts <;> simp [TextProgress.Distinguished]
    rw [AssistantMessage.PartsDistinguished, chain, ← TextProgress.delivered_eq_iff, ← content]
    constructor
    · rintro ⟨others, same, whole⟩
      obtain rfl := Except.ok.inj (result.symm.trans same)
      exact whole
    · intro whole
      exact ⟨chunks, result, whole⟩
  | agentMessage text =>
    obtain ⟨body, terminal, rfl, events, ends, carried⟩ := described
    have start : (ResponsesToChatState.view { toolRegistry }).OnAgent codec index text :=
      ⟨by simp [view], by simp [view], fun _ => rfl, by simp [view]⟩
    have delivers := @delivers_agentMessage stamp codec _ _ _ _ _ start rfl events ends
      (.inr carried)
    exact ⟨fun _ => trivial, fun _ => delivers⟩

def textDeltaEvent (delta : String) : Json :=
  .object [("type", .string "response.output_text.delta"), ("output_index", .ofNat 0),
    ("delta", .string delta)]

def textDoneEvent (text : String) : Json :=
  .object [("type", .string "response.output_text.done"), ("output_index", .ofNat 0),
    ("text", .string text)]

-- Two parts, the first in two deltas and the second without any.
theorem text_delivered_once_greeting :
    ResponsesToChatState.Delivers []
        (ResponsesToChatState.translateFrom ⟨"chatcmpl-1", 0⟩ (serdeCodec fun _ => []) {}
          [textDeltaEvent "Hel", textDeltaEvent "lo", textDoneEvent "Hello", textDoneEvent " there"])
        "Hello there".toList ↔
      AssistantMessage.PartsDistinguished
        (.message [⟨["Hel".toList, "lo".toList], "Hello".toList, .inr rfl⟩,
          ⟨[], " there".toList, .inl rfl⟩]) :=
  text_delivered_once_iff ⟨"chatcmpl-1", 0⟩ (serdeCodec fun _ => []) none 0
    (.message [⟨["Hel".toList, "lo".toList], "Hello".toList, .inr rfl⟩,
      ⟨[], " there".toList, .inl rfl⟩])
    [textDeltaEvent "Hel", textDeltaEvent "lo", textDoneEvent "Hello", textDoneEvent " there"]
    ⟨_, [], (List.append_nil _).symm, by
      simp only [List.forall_mem_cons]
      refine ⟨.text rfl rfl, .text rfl rfl, .text rfl rfl, .text rfl rfl, by simp⟩, rfl, .inl rfl⟩

-- The second part extends the first, and its beginning is taken for text that was sent.
theorem extended_part_loses_its_beginning :
    AssistantMessage.DescribedBy (serdeCodec fun _ => []) 0
        [textDeltaEvent "a", textDoneEvent "a", textDoneEvent "ab"]
        (.message [⟨["a".toList], "a".toList, .inr rfl⟩, ⟨[], "ab".toList, .inl rfl⟩]) ∧
      ¬ ResponsesToChatState.Delivers []
        (ResponsesToChatState.translateFrom ⟨"chatcmpl-1", 0⟩ (serdeCodec fun _ => []) {}
          [textDeltaEvent "a", textDoneEvent "a", textDoneEvent "ab"])
        (AssistantMessage.text
          (.message [⟨["a".toList], "a".toList, .inr rfl⟩, ⟨[], "ab".toList, .inl rfl⟩])) := by
  constructor
  · refine ⟨_, [], (List.append_nil _).symm, ?_, rfl, .inl rfl⟩
    simp only [List.forall_mem_cons]
    exact ⟨.text rfl rfl, .text rfl rfl, .text rfl rfl, by simp⟩
  · have sent : (ResponsesToChatState.translateFrom ⟨"chatcmpl-1", 0⟩ (serdeCodec fun _ => []) {}
        [textDeltaEvent "a", textDoneEvent "a", textDoneEvent "ab"]).map contentOf =
          .ok "ab".toList := by
      decide +kernel
    rintro ⟨chunks, result, content⟩
    rw [result] at sent
    have carried : contentOf chunks = "ab".toList := Except.ok.inj sent
    rw [List.nil_append, carried] at content
    revert content
    decide

end ChatGateway
