import ChatGateway.Protocol.ChatAggregate
import ChatGateway.Shared.Fallible
import ChatGateway.Shared.Grouping
import ChatGateway.Shared.LastWins

set_option autoImplicit false

/-!
# Aggregation is concatenation

What the chunks of a Chat stream amount to is, choice by choice and tool call by tool call, the
concatenation of their deltas. How the deltas of different choices are interleaved does not matter.
-/

namespace ChatGateway.StreamAggregate

open OrderedMap

def chunkChoices (event : Json) : List (Nat × List (String × Json)) :=
  (((event.get "choices").bind Json.asArray).getD []).zipIdx.filterMap fun entry =>
    entry.1.asObject.map fun choice => (indexOf choice entry.2, choice)

def choiceDelta (choice : List (String × Json)) : List (String × Json) :=
  (((Json.field choice "delta").or (Json.field choice "message")).bind Json.asObject).getD []

def deltaToolCalls (delta : List (String × Json)) : List (Nat × List (String × Json)) :=
  (((Json.field delta "tool_calls").bind Json.asArray).getD []).zipIdx.filterMap fun entry =>
    entry.1.asObject.map fun toolCall => (indexOf toolCall entry.2, toolCall)

def deltaContent (delta : List (String × Json)) : Option Json :=
  (Json.field delta "content").filter fun value => !value.isNull

def deltaText (delta : List (String × Json)) : String :=
  match (deltaContent delta).map streamText with
  | some (.ok text) => text
  | _ => ""

def deltaString (key : String) (delta : List (String × Json)) : String :=
  ((Json.field delta key).bind Json.asStr).getD ""

def argumentsFragment (toolCall : List (String × Json)) : String :=
  ((((Json.field toolCall "function").bind Json.asObject).bind (Json.field · "arguments")).bind
    Json.asStr).getD ""

structure ChatDelta (delta : List (String × Json)) : Prop where
  content : ∀ content, deltaContent delta = some content → ∃ text, streamText content = .ok text
  toolCalls : ∀ toolCall ∈ ((Json.field delta "tool_calls").bind Json.asArray).getD [],
    ∃ object, toolCall.asObject = some object

structure ChatChunk (event : Json) : Prop where
  choices : ∀ choice ∈ ((event.get "choices").bind Json.asArray).getD [],
    ∃ object, choice.asObject = some object
  deltas : ∀ choice ∈ chunkChoices event, ChatDelta (choiceDelta choice.2)

def InOrder {A : Type} (items : List (Nat × A)) (Built : List A → Nat → Json → Prop)
    (built : List Json) : Prop :=
  ∃ indices : List Nat, indices.Pairwise (· < ·) ∧
    (∀ index, index ∈ indices ↔ itemsOf index items ≠ []) ∧
    List.Forall₂ (fun index value => Built (itemsOf index items) index value) indices built

structure ConcatenatedCall (deltas : List (List (String × Json))) (index : Nat) (call : Json) :
    Prop where
  index : call.u64 "index" = some index
  arguments : (call.get "function").bind (·.str "arguments") =
    some (String.join (deltas.map argumentsFragment))

def messageText (choice : Json) (key : String) : String :=
  ((choice.get "message").bind (·.str key)).getD ""

structure ConcatenatedChoice (choices : List (List (String × Json))) (index : Nat) (built : Json) :
    Prop where
  index : built.u64 "index" = some index
  content : messageText built "content" =
    String.join (choices.map fun choice => deltaText (choiceDelta choice))
  refusal : messageText built "refusal" =
    String.join (choices.map fun choice => deltaString "refusal" (choiceDelta choice))
  reasoning : messageText built "reasoning_content" =
    String.join (choices.map fun choice => deltaString "reasoning_content" (choiceDelta choice))
  toolCalls : InOrder (choices.flatMap fun choice => deltaToolCalls (choiceDelta choice))
    ConcatenatedCall
    ((((built.get "message").bind (·.get "tool_calls")).bind Json.asArray).getD [])
  finishReason : built.get "finish_reason" =
    some ((lastSome (fun choice => given (.object choice) "finish_reason") choices).getD .null)

structure Concatenates (values : List Json) (response : Json) : Prop where
  choices : InOrder (values.flatMap chunkChoices) ConcatenatedChoice
    (((response.get "choices").bind Json.asArray).getD [])
  usage : response.get "usage" = lastSome (given · "usage") values

def aggregate (values : List Json) : Except ProtocolError Json := do
  let state ← values.foldlM ChatAggregateState.applyEvent {}
  state.buildResponse

namespace ChatChoiceState

def addChoice (state : ChatChoiceState) (choice : List (String × Json)) : ChatChoiceState :=
  let delta := choiceDelta choice
  { role := ((Json.field delta "role").bind Json.asStr).or state.role
    content := state.content ++ deltaText delta
    refusal := state.refusal ++ deltaString "refusal" delta
    reasoningContent := state.reasoningContent ++ deltaString "reasoning_content" delta
    toolCalls := (deltaToolCalls delta).foldl (update {} ChatToolCallState.apply) state.toolCalls
    functionCall :=
      match (Json.field delta "function_call").bind Json.asObject with
      | some functionCall => some ((state.functionCall.getD {}).apply functionCall)
      | none => state.functionCall
    finishReason := (given (.object choice) "finish_reason").or state.finishReason
    logprobs :=
      match given (.object choice) "logprobs" with
      | some logprobs => some (mergeLogprobs state.logprobs logprobs)
      | none => state.logprobs }

theorem foldlM_applyToolCall {toolCalls : List (Json × Nat)}
    (objects : ∀ entry ∈ toolCalls, ∃ object, entry.1.asObject = some object)
    (held : OrderedMap Nat ChatToolCallState) :
    toolCalls.foldlM applyToolCall held =
      .ok ((toolCalls.filterMap fun entry => entry.1.asObject.map fun toolCall =>
        (indexOf toolCall entry.2, toolCall)).foldl (update {} ChatToolCallState.apply) held) := by
  induction toolCalls generalizing held with
  | nil => rfl
  | cons entry rest ih =>
    obtain ⟨object, known⟩ := objects entry List.mem_cons_self
    have stored : applyToolCall held entry =
        .ok (update {} ChatToolCallState.apply held (indexOf object entry.2, object)) := by
      simp [applyToolCall, known, update]
    rw [List.foldlM_cons, stored, List.filterMap_cons, known]
    exact ih (fun other member => objects other (List.mem_cons_of_mem _ member)) _

theorem applyDelta_ok {state : ChatChoiceState} {delta : List (String × Json)}
    (accepted : ChatDelta delta) :
    state.applyDelta delta = .ok
      { state with
        role := ((Json.field delta "role").bind Json.asStr).or state.role
        content := state.content ++ deltaText delta
        refusal := state.refusal ++ deltaString "refusal" delta
        reasoningContent := state.reasoningContent ++ deltaString "reasoning_content" delta
        toolCalls :=
          (deltaToolCalls delta).foldl (update {} ChatToolCallState.apply) state.toolCalls
        functionCall :=
          match (Json.field delta "function_call").bind Json.asObject with
          | some functionCall => some ((state.functionCall.getD {}).apply functionCall)
          | none => state.functionCall } := by
  have objects : ∀ entry ∈ (((Json.field delta "tool_calls").bind Json.asArray).getD []).zipIdx,
      ∃ object, entry.1.asObject = some object := fun entry member =>
    accepted.toolCalls entry.1 (List.fst_mem_of_mem_zipIdx member)
  have stored := foldlM_applyToolCall objects state.toolCalls
  have text : pushContent state.content delta = .ok (state.content ++ deltaText delta) := by
    unfold pushContent deltaText
    change (match deltaContent delta with
      | some value => (streamText value).map (state.content ++ ·)
      | none => .ok state.content) = _
    cases said : deltaContent delta with
    | none => simp
    | some content =>
      obtain ⟨text, read⟩ := accepted.content content said
      simp [read, Except.map]
  unfold applyDelta
  rw [text, stored]
  rfl

theorem applyChoice_ok {state : ChatChoiceState} {choice : List (String × Json)}
    (accepted : ChatDelta (choiceDelta choice)) :
    state.applyChoice choice = .ok (state.addChoice choice) := by
  unfold applyChoice addChoice
  cases told : ((Json.field choice "delta").or (Json.field choice "message")).bind Json.asObject with
  | none =>
    have empty : choiceDelta choice = [] := by rw [choiceDelta, told]; rfl
    rw [empty]
    cases given (.object choice) "logprobs" <;>
      simp only [deltaText, deltaContent, deltaString, deltaToolCalls, Json.field_nil, Except.map,
        Option.filter_none, Option.map_none, Option.bind_none, Option.none_or, Option.getD_none,
        List.zipIdx_nil, List.filterMap_nil, List.foldl_nil, String.append_empty]
  | some delta =>
    have read : choiceDelta choice = delta := by rw [choiceDelta, told]; rfl
    rw [read] at accepted ⊢
    dsimp only
    rw [applyDelta_ok accepted]
    rfl

theorem foldl_append_text {A : Type} (text : A → String) (items : List A) (start : String) :
    items.foldl (fun held item => held ++ text item) start =
      start ++ String.join (items.map text) := by
  induction items generalizing start with
  | nil => simp
  | cons item rest ih =>
    rw [List.foldl_cons, ih, List.map_cons, String.join_cons, String.append_assoc]

section Fields

variable (choices : List (List (String × Json))) (state : ChatChoiceState)

theorem content_foldl :
    (choices.foldl addChoice state).content =
      state.content ++ String.join (choices.map fun choice => deltaText (choiceDelta choice)) := by
  rw [← foldl_append_text]
  exact (List.foldl_hom ChatChoiceState.content fun _ _ => rfl).symm

theorem refusal_foldl :
    (choices.foldl addChoice state).refusal =
      state.refusal ++
        String.join (choices.map fun choice => deltaString "refusal" (choiceDelta choice)) := by
  rw [← foldl_append_text]
  exact (List.foldl_hom ChatChoiceState.refusal fun _ _ => rfl).symm

theorem reasoningContent_foldl :
    (choices.foldl addChoice state).reasoningContent =
      state.reasoningContent ++
        String.join
          (choices.map fun choice => deltaString "reasoning_content" (choiceDelta choice)) := by
  rw [← foldl_append_text]
  exact (List.foldl_hom ChatChoiceState.reasoningContent fun _ _ => rfl).symm

theorem toolCalls_foldl :
    (choices.foldl addChoice state).toolCalls =
      (choices.flatMap fun choice => deltaToolCalls (choiceDelta choice)).foldl
        (update {} ChatToolCallState.apply) state.toolCalls := by
  rw [List.foldl_flatMap]
  exact (List.foldl_hom ChatChoiceState.toolCalls fun _ _ => rfl).symm

theorem finishReason_foldl :
    (choices.foldl addChoice state).finishReason =
      (lastSome (fun choice => given (.object choice) "finish_reason") choices).or
        state.finishReason := by
  have overwrites : ∀ (held : ChatChoiceState) choice, (held.addChoice choice).finishReason =
      ((given (.object choice) "finish_reason").map some).getD held.finishReason := by
    intro held choice
    cases told : given (.object choice) "finish_reason" <;> simp [addChoice, told]
  rw [foldl_overwrite_view ChatChoiceState.finishReason overwrites]
  cases lastSome (fun choice => given (.object choice) "finish_reason") choices <;> rfl

end Fields

end ChatChoiceState

theorem arguments_foldl (deltas : List (List (String × Json))) (call : ChatToolCallState) :
    (deltas.foldl ChatToolCallState.apply call).function.arguments =
      call.function.arguments ++ String.join (deltas.map argumentsFragment) := by
  rw [← ChatChoiceState.foldl_append_text]
  refine (List.foldl_hom (fun call : ChatToolCallState => call.function.arguments) ?_).symm
  intro held delta
  unfold ChatToolCallState.apply argumentsFragment
  cases (Json.field delta "function").bind Json.asObject with
  | none => simp
  | some function => rfl

-- The entries of a map that a loop over keyed items has filled, each built from its items.
theorem inOrder_entries {A V : Type} {fresh : V} {step : V → A → V} {items : List (Nat × A)}
    {build : V → Nat → Json} {Built : List A → Nat → Json → Prop}
    (builds : ∀ index, itemsOf index items ≠ [] →
      Built (itemsOf index items) index (build ((itemsOf index items).foldl step fresh) index)) :
    InOrder items Built
      ((items.foldl (update fresh step) {}).entries.map fun entry => build entry.2 entry.1) := by
  generalize filled : items.foldl (update fresh step) {} = map
  have found (index : Nat) : map.find? index =
      if itemsOf index items = [] then none
      else some ((itemsOf index items).foldl step fresh) := by
    rw [← filled, find?_foldl_update]
    rfl
  refine ⟨map.entries.map (·.1), List.pairwise_map.2 map.sorted, ?_, ?_⟩
  · intro index
    rw [List.mem_map]
    constructor
    · rintro ⟨⟨key, value⟩, member, rfl⟩ empty
      have held := find?_eq_some.2 member
      rw [found, if_pos empty] at held
      cases held
    · intro nonempty
      refine ⟨(index, (itemsOf index items).foldl step fresh), find?_eq_some.1 ?_, rfl⟩
      rw [found, if_neg nonempty]
  · rw [List.forall₂_map_left_iff, List.forall₂_map_right_iff, List.forall₂_same]
    rintro ⟨key, value⟩ member
    have held := find?_eq_some.2 member
    rw [found] at held
    split at held
    next => cases held
    next nonempty =>
      obtain rfl := Option.some.inj held
      exact builds key nonempty

theorem build_call (deltas : List (List (String × Json))) (index : Nat) :
    ConcatenatedCall deltas index ((deltas.foldl ChatToolCallState.apply {}).build index) where
  index := rfl
  arguments := by
    have arguments := arguments_foldl deltas {}
    rw [String.empty_append] at arguments
    rw [← arguments]
    rfl

namespace ChatChoiceState

variable (state : ChatChoiceState) (index : Nat)

-- A field that `insertOptional` leaves out when there is nothing to put there.
theorem field_insertOptional (field key : String) (value : Option Json) :
    Json.field (insertOptional field value) key = if field = key then value else none := by
  cases value <;> simp [insertOptional]

-- The texts of a built message are those collected, where an empty one is null or left out.
theorem messageText_build :
    messageText (state.build index) "content" = state.content ∧
      messageText (state.build index) "refusal" = state.refusal ∧
      messageText (state.build index) "reasoning_content" = state.reasoningContent := by
  have read (key : String) : messageText (state.build index) key =
      ((state.message.get key).bind Json.asStr).getD "" := rfl
  simp only [read, message, Json.get_object, Json.field_append, field_insertOptional]
  refine ⟨?_, ?_, ?_⟩
  · by_cases empty : state.content = "" <;> simp [empty, Json.asStr]
  · by_cases empty : state.refusal = ""
    · by_cases silent : state.reasoningContent = "" <;>
        cases state.toolCalls.isEmpty <;> simp [empty, silent]
    · simp [empty, Json.asStr]
  · by_cases silent : state.refusal = "" <;> by_cases empty : state.reasoningContent = "" <;>
      cases state.toolCalls.isEmpty <;> simp [empty, silent, Json.asStr]

theorem toolCalls_build :
    ((((state.build index).get "message").bind (·.get "tool_calls")).bind Json.asArray).getD [] =
      state.toolCalls.entries.map fun entry => entry.2.build entry.1 := by
  change ((state.message.get "tool_calls").bind Json.asArray).getD [] = _
  simp only [message, Json.get_object, Json.field_append, field_insertOptional]
  have none : state.toolCalls.isEmpty = true → state.toolCalls.entries = [] := List.isEmpty_iff.1
  by_cases silent : state.refusal = "" <;> by_cases still : state.reasoningContent = "" <;>
    cases empty : state.toolCalls.isEmpty <;> simp_all [Json.asArray]

end ChatChoiceState

theorem build_choice (choices : List (List (String × Json))) (index : Nat) :
    ConcatenatedChoice choices index
      ((choices.foldl ChatChoiceState.addChoice {}).build index) where
  index := rfl
  content := by
    rw [(ChatChoiceState.messageText_build _ _).1, ChatChoiceState.content_foldl,
      String.empty_append]
  refusal := by
    rw [(ChatChoiceState.messageText_build _ _).2.1, ChatChoiceState.refusal_foldl,
      String.empty_append]
  reasoning := by
    rw [(ChatChoiceState.messageText_build _ _).2.2, ChatChoiceState.reasoningContent_foldl,
      String.empty_append]
  toolCalls := by
    rw [ChatChoiceState.toolCalls_build, ChatChoiceState.toolCalls_foldl]
    exact inOrder_entries fun index _ => build_call _ index
  finishReason := by
    have told := ChatChoiceState.finishReason_foldl choices {}
    rw [Option.or_none] at told
    rw [← told]
    rfl

namespace ChatAggregateState

theorem foldlM_applyChoices {choices : List (Json × Nat)}
    (objects : ∀ entry ∈ choices, ∃ object, entry.1.asObject = some object ∧
      ChatDelta (choiceDelta object))
    (held : OrderedMap Nat ChatChoiceState) :
    choices.foldlM applyChoices held =
      .ok ((choices.filterMap fun entry => entry.1.asObject.map fun choice =>
        (indexOf choice entry.2, choice)).foldl (update {} ChatChoiceState.addChoice) held) := by
  induction choices generalizing held with
  | nil => rfl
  | cons entry rest ih =>
    obtain ⟨object, known, accepted⟩ := objects entry List.mem_cons_self
    have stored : applyChoices held entry =
        .ok (update {} ChatChoiceState.addChoice held (indexOf object entry.2, object)) := by
      simp only [applyChoices, known, ChatChoiceState.applyChoice_ok accepted]
      rfl
    rw [List.foldlM_cons, stored, List.filterMap_cons, known]
    exact ih (fun other member => objects other (List.mem_cons_of_mem _ member)) _

def addEvent (state : ChatAggregateState) (event : Json) : ChatAggregateState where
  id := preserveField state.id event "id"
  created := preserveField state.created event "created"
  model := preserveField state.model event "model"
  serviceTier := preserveField state.serviceTier event "service_tier"
  systemFingerprint := preserveField state.systemFingerprint event "system_fingerprint"
  usage := preserveField state.usage event "usage"
  choices := (chunkChoices event).foldl (update {} ChatChoiceState.addChoice) state.choices

theorem applyEvent_ok {state : ChatAggregateState} {event : Json} (accepted : ChatChunk event) :
    state.applyEvent event = .ok (state.addEvent event) := by
  have objects : ∀ entry ∈ (((event.get "choices").bind Json.asArray).getD []).zipIdx,
      ∃ object, entry.1.asObject = some object ∧ ChatDelta (choiceDelta object) := by
    intro entry member
    obtain ⟨object, known⟩ := accepted.choices entry.1 (List.fst_mem_of_mem_zipIdx member)
    refine ⟨object, known, accepted.deltas (indexOf object entry.2, object) ?_⟩
    exact List.mem_filterMap.2 ⟨entry, member, by simp [known]⟩
  rw [applyEvent, foldlM_applyChoices objects]
  rfl

theorem foldlM_applyEvent {values : List Json} (accepted : ∀ value ∈ values, ChatChunk value)
    (state : ChatAggregateState) :
    values.foldlM applyEvent state = .ok (values.foldl addEvent state) := by
  induction values generalizing state with
  | nil => rfl
  | cons value rest ih =>
    rw [List.foldlM_cons, applyEvent_ok (accepted value List.mem_cons_self)]
    exact ih (fun other member => accepted other (List.mem_cons_of_mem _ member)) _

theorem choices_foldl (values : List Json) (state : ChatAggregateState) :
    (values.foldl addEvent state).choices =
      (values.flatMap chunkChoices).foldl (update {} ChatChoiceState.addChoice) state.choices := by
  rw [List.foldl_flatMap]
  exact (List.foldl_hom ChatAggregateState.choices fun _ _ => rfl).symm

theorem preserved_foldl {view : ChatAggregateState → Option Json} {field : String}
    (preserves : ∀ state event, view (addEvent state event) = preserveField (view state) event field)
    (values : List Json) :
    view (values.foldl addEvent {}) = (lastSome (given · field) values).or (view {}) := by
  have overwrites : ∀ state event, view (addEvent state event) =
      ((given event field).map some).getD (view state) := by
    intro state event
    rw [preserves, preserveField]
    cases given event field <;> rfl
  rw [foldl_overwrite_view view overwrites]
  cases lastSome (given · field) values <;> rfl

end ChatAggregateState

open ChatAggregateState

theorem aggregate_eq {values : List Json} (accepted : ∀ value ∈ values, ChatChunk value) :
    aggregate values = (values.foldl addEvent {}).buildResponse := by
  rw [aggregate, foldlM_applyEvent accepted]
  rfl

theorem aggregate_concatenates {values : List Json} (accepted : ∀ value ∈ values, ChatChunk value)
    (named : values.flatMap chunkChoices ≠ []) :
    ∃ response, aggregate values = .ok response ∧ Concatenates values response := by
  have choices := choices_foldl values {}
  have usage := @preserved_foldl ChatAggregateState.usage "usage" (fun _ _ => rfl) values
  rw [aggregate_eq accepted, buildResponse]
  generalize values.foldl addEvent {} = state at choices usage ⊢
  have present : state.choices.isEmpty = false := by
    rw [choices, isEmpty_foldl_update]
    simp [named]
  rw [present]
  refine ⟨_, rfl, ?_, ?_⟩
  · change InOrder _ _ (state.choices.entries.map fun entry => entry.2.build entry.1)
    rw [choices]
    exact inOrder_entries fun index _ => build_choice _ index
  · rw [Option.or_none] at usage
    rw [← usage]
    simp [Json.field_append, ChatChoiceState.field_insertOptional]

def envelopeFields : List String :=
  ["id", "created", "model", "service_tier", "system_fingerprint", "usage"]

-- Chunks that give every choice the same deltas in the same order, and the response the same
-- envelope, amount to the same.
theorem aggregate_interleaved {values others : List Json}
    (accepted : ∀ value ∈ values, ChatChunk value) (acceptedOthers : ∀ value ∈ others, ChatChunk value)
    (deltas : ∀ index, itemsOf index (values.flatMap chunkChoices) =
      itemsOf index (others.flatMap chunkChoices))
    (envelope : ∀ field ∈ envelopeFields,
      lastSome (given · field) values = lastSome (given · field) others) :
    aggregate values = aggregate others := by
  have kept {view : ChatAggregateState → Option Json} {field : String}
      (preserves : ∀ state event,
        view (addEvent state event) = preserveField (view state) event field)
      (listed : field ∈ envelopeFields) :
      view (values.foldl addEvent {}) = view (others.foldl addEvent {}) := by
    rw [preserved_foldl preserves, preserved_foldl preserves, envelope field listed]
  have same : values.foldl addEvent {} = others.foldl addEvent {} := by
    refine ChatAggregateState.ext ?_ ?_ ?_ ?_ ?_ ?_ ?_
    · exact @kept (·.id) "id" (fun _ _ => rfl) (by simp [envelopeFields])
    · exact @kept (·.created) "created" (fun _ _ => rfl) (by simp [envelopeFields])
    · exact @kept (·.model) "model" (fun _ _ => rfl) (by simp [envelopeFields])
    · exact @kept (·.serviceTier) "service_tier" (fun _ _ => rfl) (by simp [envelopeFields])
    · exact @kept (·.systemFingerprint) "system_fingerprint" (fun _ _ => rfl)
        (by simp [envelopeFields])
    · exact @kept (·.usage) "usage" (fun _ _ => rfl) (by simp [envelopeFields])
    · rw [choices_foldl, choices_foldl]
      exact foldl_update_eq _ _ deltas _
  rw [aggregate_eq accepted, aggregate_eq acceptedOthers, same]

end ChatGateway.StreamAggregate
