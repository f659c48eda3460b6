import ChatGateway.Protocol.CallIdentity

set_option autoImplicit false

/-!
# The calls of a stream

The fragments of a stream of Chat chunks are placed one after another, and nothing else changes
which calls there are.
-/

namespace ChatGateway

namespace ChatToResponsesState

variable {stamp : ResponseStamp} {codec : JsonCodec}

structure SameCalls (before after : ChatToResponsesState) : Prop where
  calls : after.toolCalls = before.toolCalls
  strict : after.toolCallMergeStrict = before.toolCallMergeStrict

theorem SameCalls.refl (state : ChatToResponsesState) : SameCalls state state := ⟨rfl, rfl⟩

theorem SameCalls.trans {first second third : ChatToResponsesState}
    (before : SameCalls first second) (after : SameCalls second third) : SameCalls first third :=
  ⟨after.calls.trans before.calls, after.strict.trans before.strict⟩

theorem emitCreated_sameCalls (state : ChatToResponsesState) :
    SameCalls state (state.emitCreated stamp).1 := by
  unfold emitCreated
  split <;> exact ⟨rfl, rfl⟩

theorem emitReasoningDone_sameCalls (state : ChatToResponsesState) :
    SameCalls state (state.emitReasoningDone stamp).1 := by
  unfold emitReasoningDone
  dsimp only
  split
  · exact .refl state
  · split <;> exact ⟨rfl, rfl⟩

theorem emitReasoningDelta_sameCalls (state : ChatToResponsesState) (delta : String) :
    SameCalls state (state.emitReasoningDelta stamp delta).1 := by
  cases reasoning : state.reasoning with
  | none =>
    simp only [emitReasoningDelta, reasoning]
    exact ⟨rfl, rfl⟩
  | some known =>
    simp only [emitReasoningDelta, reasoning]
    split <;> exact ⟨rfl, rfl⟩

theorem emitTextDelta_sameCalls (state : ChatToResponsesState) (delta : String) :
    SameCalls state (state.emitTextDelta stamp delta).1 := by
  have opened : SameCalls state (state.ensureTextItem stamp).1 := by
    cases indexed : state.textOutputIndex with
    | none =>
      simp only [ensureTextItem, indexed]
      split <;> exact ⟨rfl, rfl⟩
    | some index =>
      simp only [ensureTextItem, indexed]
      split <;> exact ⟨rfl, rfl⟩
  exact ⟨opened.calls, opened.strict⟩

theorem beginOutput_sameCalls (state : ChatToResponsesState) :
    SameCalls state (state.beginOutput stamp).1 :=
  (emitCreated_sameCalls state).trans (emitReasoningDone_sameCalls _)

theorem translateReasoning_sameCalls (state : ChatToResponsesState) (delta : Json) :
    SameCalls state (state.translateReasoning stamp delta).1 := by
  unfold translateReasoning
  split
  · exact .refl state
  · split
    · exact .refl state
    · exact (emitCreated_sameCalls state).trans (emitReasoningDelta_sameCalls _ _)

theorem translateContent_sameCalls {state : ChatToResponsesState} {delta : Json} {result : Emitted}
    (translated : state.translateContent stamp delta = .ok result) : SameCalls state result.1 := by
  unfold translateContent at translated
  split at translated
  · obtain rfl := Except.ok.inj translated
    exact .refl state
  · split at translated
    · obtain rfl := Except.ok.inj translated
      exact .refl state
    · split at translated
      · cases translated
      · split at translated
        · obtain rfl := Except.ok.inj translated
          exact .refl state
        · obtain rfl := Except.ok.inj translated
          exact (beginOutput_sameCalls state).trans (emitTextDelta_sameCalls _ _)

theorem translateEnd_sameCalls (state : ChatToResponsesState) (choice delta : Json) :
    SameCalls state (state.translateEnd stamp choice delta).1 := by
  have introduced : SameCalls state
      (if (delta.str "role").isSome then state.emitCreated stamp else (state, [])).1 := by
    split
    · exact emitCreated_sameCalls state
    · exact .refl state
  unfold translateEnd
  dsimp only
  split
  · exact introduced
  · refine introduced.trans (SameCalls.trans ?_ (emitCreated_sameCalls _))
    exact ⟨rfl, rfl⟩

theorem mergeFragment_callId (call : ChatToolCallState) (callId : String) (name : Option String)
    (arguments : String) (strict : Bool) :
    (mergeFragment codec call callId name arguments strict).1.callId =
      if call.callId = "" then callId else call.callId := by
  by_cases empty : arguments = ""
  · rw [mergeFragment, if_pos empty]
    rfl
  by_cases replaces : Replaces codec call arguments strict = true
  · rw [mergeFragment_replaced callId name empty replaces]
    rfl
  · rw [mergeFragment_appended callId name empty replaces]
    rfl

theorem emitFragment_calls (state : ChatToResponsesState) (key : Nat) (id : Option String)
    (name : Option String) (arguments : String) (restore : String → String × Option String) :
    ∃ call, (state.emitFragment stamp codec key (id.getD (stamp.callId key)) name arguments
        restore).1.toolCalls = state.toolCalls.put key call ∧
      (state.emitFragment stamp codec key (id.getD (stamp.callId key)) name arguments
        restore).1.toolCallMergeStrict = state.toolCallMergeStrict ∧
      call.callId = idAfter stamp (state.toolCalls.find? key) key id := by
  obtain ⟨events, emitted, -⟩ := @emitFragment_spec stamp codec state key
    (id.getD (stamp.callId key)) name arguments restore
  rw [emitted]
  refine ⟨_, rfl, rfl, ?_⟩
  rw [mergeFragment_callId, fragmentEntry]
  cases known : state.toolCalls.find? key with
  | none =>
    rw [Option.getD_none, ite_self]
    rfl
  | some call => rfl

def Places (stamp : ResponseStamp) (state : ChatToResponsesState) (placed : List Placement)
    (outcome : Except ProtocolError Emitted) : Prop :=
  ∃ final, Chain stamp state.toolCalls placed final ∧ ∀ result, outcome = .ok result →
    result.1.toolCalls = final ∧ result.1.toolCallMergeStrict = true

theorem fragmentCall_id (object : List (String × Json)) :
    (fragmentCall object).id = callIdHint object := by
  unfold fragmentCall
  split
  · rfl
  · split
    next known => exact known.symm
    next unknown => exact unknown.symm

theorem toolCallKey_expected {state : ChatToResponsesState}
    (strict : state.toolCallMergeStrict = true) (object : List (String × Json))
    (name : Option String) (position : Nat) {key : Nat} :
    state.toolCallKey object (callIdHint object) name position =
      Placement.expectedKey { before := state, call := fragmentCall object, name, key } := by
  unfold toolCallKey Placement.expectedKey fragmentCall
  cases (Json.field object "index").bind Json.asU64 with
  | some index => rfl
  | none =>
    cases callIdHint object with
    | some id => rfl
    | none => exact if_pos strict

theorem emitChatToolCallDelta_places {state : ChatToResponsesState}
    (strict : state.toolCallMergeStrict = true) (toolCall : Json) (position : Nat) :
    Places stamp state (state.placedToolCall toolCall position)
      (state.emitChatToolCallDelta stamp codec toolCall position) := by
  unfold emitChatToolCallDelta placedToolCall
  cases isObject : toolCall.asObject with
  | none => exact ⟨state.toolCalls, .nil, fun _ impossible => by cases impossible⟩
  | some object =>
    dsimp only [Option.bind_some]
    cases details : extractToolCallDetails object with
    | none =>
      refine ⟨state.toolCalls, .nil, fun result accepted => ?_⟩
      obtain rfl := Except.ok.inj accepted
      exact ⟨rfl, strict⟩
    | some carried =>
      obtain ⟨name, arguments⟩ := carried
      dsimp only [Option.map_some]
      obtain ⟨call, calls, sameStrict, id⟩ := @emitFragment_calls stamp codec state
        (state.toolCallKey object (callIdHint object) name position) (callIdHint object) name
        arguments state.restoredToolIdentity
      refine ⟨_, .cons ⟨rfl, ?_, call, rfl, ?_⟩ .nil, fun result accepted => ?_⟩
      · exact toolCallKey_expected strict object name position
      · rw [fragmentCall_id]
        exact id
      · obtain rfl := Except.ok.inj accepted
        exact ⟨calls, sameStrict.trans strict⟩

theorem translateToolCalls_places {state : ChatToResponsesState}
    (strict : state.toolCallMergeStrict = true) (toolCalls : List Json) (position : Nat) :
    Places stamp state (state.placedToolCalls stamp codec position toolCalls)
      (state.translateToolCalls stamp codec position toolCalls) := by
  induction toolCalls generalizing state position with
  | nil =>
    refine ⟨state.toolCalls, .nil, fun result accepted => ?_⟩
    obtain rfl := Except.ok.inj accepted
    exact ⟨rfl, strict⟩
  | cons toolCall rest ih =>
    have begun := @beginOutput_sameCalls stamp state
    obtain ⟨middle, chain, left⟩ := @emitChatToolCallDelta_places stamp codec _
      (begun.strict.trans strict) toolCall position
    rw [begun.calls] at chain
    simp only [translateToolCalls, placedToolCalls]
    cases emitted : (state.beginOutput stamp).1.emitChatToolCallDelta stamp codec toolCall position with
    | error failure =>
      rw [List.append_nil]
      exact ⟨middle, chain, fun _ impossible => by cases impossible⟩
    | ok result =>
      obtain ⟨rfl, stillStrict⟩ := left result emitted
      obtain ⟨final, later, ends⟩ := ih stillStrict (position + 1)
      refine ⟨final, chain.append later, fun whole accepted => ?_⟩
      dsimp only at accepted
      split at accepted
      · cases accepted
      next last isLast =>
        obtain rfl := Except.ok.inj accepted
        exact ends last isLast

theorem translateFunctionCall_places {state : ChatToResponsesState}
    (strict : state.toolCallMergeStrict = true) (delta : Json) :
    Places stamp state (state.placedFunctionCall stamp delta)
      (state.translateFunctionCall stamp codec delta) := by
  have begun := @beginOutput_sameCalls stamp state
  unfold translateFunctionCall placedFunctionCall
  dsimp only
  cases delta.get "function_call" with
  | none =>
    refine ⟨state.toolCalls, .nil, fun result accepted => ?_⟩
    obtain rfl := Except.ok.inj accepted
    exact ⟨rfl, strict⟩
  | some functionCall =>
    dsimp only [Option.bind_some]
    unfold emitChatFunctionCallDelta
    cases functionCall.asObject with
    | none => exact ⟨state.toolCalls, .nil, fun _ impossible => by cases impossible⟩
    | some object =>
      dsimp only
      cases callIdHint object with
      | none => exact ⟨state.toolCalls, .nil, fun _ impossible => by cases impossible⟩
      | some id =>
        dsimp only
        cases (Json.field object "name").bind Json.asStr with
        | none => exact ⟨state.toolCalls, .nil, fun _ impossible => by cases impossible⟩
        | some name =>
          obtain ⟨call, calls, sameStrict, stored⟩ := @emitFragment_calls stamp codec
            (state.beginOutput stamp).1 0 (some id) (some name)
            (((Json.field object "arguments").bind Json.asStr).getD "") fun name => (name, none)
          rw [begun.calls] at calls stored
          refine ⟨_, .cons ⟨begun.calls, rfl, call, rfl, stored⟩ .nil, fun result accepted => ?_⟩
          obtain rfl := Except.ok.inj accepted
          exact ⟨calls, sameStrict.trans (begun.strict.trans strict)⟩

theorem translateChoice_places {state : ChatToResponsesState}
    (strict : state.toolCallMergeStrict = true) (choice : Json) :
    Places stamp state (state.placedChoice stamp codec choice)
      (state.translateChoice stamp codec choice) := by
  unfold translateChoice placedChoice
  dsimp only
  generalize (choice.get "delta").getD .null = delta
  generalize ((delta.get "tool_calls").bind Json.asArray).getD [] = toolCalls
  have reasoned := @translateReasoning_sameCalls stamp state delta
  cases isTexted : (state.translateReasoning stamp delta).1.translateContent stamp delta with
  | error failure => exact ⟨state.toolCalls, .nil, fun _ impossible => by cases impossible⟩
  | ok texted =>
    have same := reasoned.trans (translateContent_sameCalls isTexted)
    obtain ⟨middle, chain, left⟩ := @translateToolCalls_places stamp codec texted.1
      (same.strict.trans strict) toolCalls 0
    rw [same.calls] at chain
    dsimp only
    cases isCalled : texted.1.translateToolCalls stamp codec 0 toolCalls with
    | error failure =>
      rw [List.append_nil]
      exact ⟨middle, chain, fun _ impossible => by cases impossible⟩
    | ok called =>
      obtain ⟨rfl, stillStrict⟩ := left called isCalled
      obtain ⟨final, later, ends⟩ := @translateFunctionCall_places stamp codec called.1 stillStrict
        delta
      refine ⟨final, chain.append later, fun whole accepted => ?_⟩
      dsimp only at accepted
      split at accepted
      · cases accepted
      next functioned isFunctioned =>
        obtain rfl := Except.ok.inj accepted
        obtain ⟨sameFinal, finalStrict⟩ := ends functioned isFunctioned
        have ended := @translateEnd_sameCalls stamp functioned.1 choice delta
        exact ⟨ended.calls.trans sameFinal, ended.strict.trans finalStrict⟩

theorem placedFrom_completed {state : ChatToResponsesState}
    (completed : state.completedEmitted = true) (chunks : List Json) :
    state.placedFrom stamp codec chunks = [] := by
  have step : ∀ chunk, state.translateEvent stamp codec chunk = .ok (state, []) := fun chunk => by
    rw [translateEvent, if_pos completed]
  induction chunks with
  | nil => rfl
  | cons chunk rest ih => simp [placedFrom, placedEvent, step, completed, ih]

theorem placedFrom_chain {state : ChatToResponsesState}
    (strict : state.toolCallMergeStrict = true) (chunks : List Json) :
    ∃ final, Chain stamp state.toolCalls (state.placedFrom stamp codec chunks) final := by
  induction chunks generalizing state with
  | nil => exact ⟨_, .nil⟩
  | cons chunk rest ih =>
    cases completed : state.completedEmitted with
    | true =>
      rw [placedFrom_completed completed]
      exact ⟨_, .nil⟩
    | false =>
      simp only [placedFrom, placedEvent, translateEvent, completed, Bool.false_eq_true, if_false]
      cases (chunk.get "choices").bind Json.asArray with
      | none => exact @ih (state.metered stamp chunk) strict
      | some choices =>
        rcases choices with _ | ⟨choice, _ | ⟨_, _⟩⟩
        · dsimp only
          cases (chunkUsage chunk).isSome with
          | true =>
            simp only [if_true, List.nil_append, placedFrom_completed (finish_completed _)]
            exact ⟨_, .nil⟩
          | false => exact @ih (state.metered stamp chunk) strict
        · dsimp only
          obtain ⟨middle, chain, left⟩ := @translateChoice_places stamp codec
            (state.metered stamp chunk) strict choice
          cases translated : (state.metered stamp chunk).translateChoice stamp codec choice with
          | error failure =>
            rw [List.append_nil]
            exact ⟨middle, chain⟩
          | ok result =>
            obtain ⟨rfl, stillStrict⟩ := left result translated
            obtain ⟨final, later⟩ := ih stillStrict
            exact ⟨final, chain.append later⟩
        · exact ⟨_, .nil⟩

end ChatToResponsesState

def placements (stamp : ResponseStamp) (codec : JsonCodec)
    (toolRegistry : Option ToolAdapterRegistry) (chunks : List Json) : List Placement :=
  ({ toolRegistry, toolCallMergeStrict := true } : ChatToResponsesState).placedFrom stamp codec
    chunks

/-- A stream keeps the identity of its calls where no fragment mixes two ways of naming one. -/
theorem call_identity_kept (stamp : ResponseStamp) (codec : JsonCodec)
    (toolRegistry : Option ToolAdapterRegistry) (chunks : List Json)
    (oneToOne : OneToOne (placements stamp codec toolRegistry chunks))
    (fresh : FreshIds stamp (placements stamp codec toolRegistry chunks))
    (unmixed : UnmixedThroughout stamp (placements stamp codec toolRegistry chunks)) :
    IdentityKept (placements stamp codec toolRegistry chunks) := by
  obtain ⟨final, chain⟩ := @ChatToResponsesState.placedFrom_chain stamp codec
    { toolRegistry, toolCallMergeStrict := true } rfl chunks
  exact identityKept_of_chain chain oneToOne fresh unmixed

def chatCallFragment (naming : List (String × Json)) (name arguments : String) : Json :=
  deltaChunk [("tool_calls", .array [.object (naming ++
    [("function", .object [("name", .string name), ("arguments", .string arguments)])])])]

def oneCallChunks : List Json :=
  [chatCallFragment [("index", .ofNat 0), ("id", .string "toolu_1")] "list" "\x7b",
    chatCallFragment [("id", .string "toolu_1")] "" " ", chatCallFragment [] "" "\x7d"]

theorem oneCall_placements : ∃ first second third call,
    placements exampleStamp emptyObjectCodec none oneCallChunks =
      [{ before := first, call := .indexed 0 (some "toolu_1"), name := some "list", key := 0 },
        { before := second, call := .named "toolu_1", name := some "", key := 0 },
        { before := third, call := .unnamed, name := some "", key := 0 }] ∧
      first.toolCalls.entries = [] ∧ second.toolCalls.entries = [(0, call)] ∧
      call.callId = "toolu_1" ∧ third.toolCalls.entries.map (·.1) = [0] := by
  refine ⟨_, _, _, _, rfl, rfl, rfl, ?_, ?_⟩
  · decide
  · decide

theorem exampleStamp_fresh {placed : List Placement}
    (ids : ∀ placement ∈ placed, ∀ id, placement.call.id = some id →
      id.toList.head? = some 't') : FreshIds exampleStamp placed where
  given key := by simp [exampleStamp]
  apart placement member key carried := by
    have start := ids placement member _ carried
    simp [exampleStamp] at start

theorem call_identity_kept_one :
    IdentityKept (placements exampleStamp emptyObjectCodec none oneCallChunks) := by
  obtain ⟨first, second, third, call, placed, unopened, opened, id, continued⟩ := oneCall_placements
  refine call_identity_kept exampleStamp emptyObjectCodec none oneCallChunks ?_ ?_ ?_
  · rw [placed]
    simp [OneToOne]
  · rw [placed]
    exact exampleStamp_fresh (by simp [FragmentCall.id])
  · rw [placed]
    rintro (_ | ⟨_, _ | ⟨_, _ | ⟨_, _⟩⟩⟩) placement later split
    · cases split
      refine ⟨by simp [FragmentCall.id], by simp [Placement.Allocates], ?_⟩
      simp [OnlyAt, OrderedMap.find?, unopened, OrderedMap.findIn]
    · cases split
      refine ⟨by simp [FragmentCall.id], ?_, ?_⟩
      · simp [Placement.Allocates, KeysLeft, opened, id]
      · simp [Remembered, opened, id]
    · cases split
      refine ⟨by simp [FragmentCall.id], fun _ entry member => ?_, trivial⟩
      have key : entry.1 ∈ third.toolCalls.entries.map (·.1) := List.mem_map_of_mem member
      rw [continued, List.mem_singleton] at key
      omega
    · simp at split

def mixedChunks : List Json :=
  [chatCallFragment [("id", .string "toolu_1")] "list" "\x7b",
    chatCallFragment [("index", .ofNat 0), ("id", .string "toolu_2")] "read" "\x7b"]

theorem mixed_calls_are_merged :
    ¬ ∀ (stamp : ResponseStamp) (codec : JsonCodec) (toolRegistry : Option ToolAdapterRegistry)
      (chunks : List Json), OneToOne (placements stamp codec toolRegistry chunks) →
      FreshIds stamp (placements stamp codec toolRegistry chunks) →
      IdentityKept (placements stamp codec toolRegistry chunks) := by
  intro claimed
  obtain ⟨first, second, placed⟩ : ∃ first second,
      placements exampleStamp emptyObjectCodec none mixedChunks =
        [{ before := first, call := .named "toolu_1", name := some "list", key := 0 },
          { before := second, call := .indexed 0 (some "toolu_2"), name := some "read",
            key := 0 }] := ⟨_, _, rfl⟩
  have kept := claimed exampleStamp emptyObjectCodec none mixedChunks
  rw [placed] at kept
  have identity := kept (by simp [OneToOne]) (exampleStamp_fresh (by simp [FragmentCall.id]))
  have same := identity.apart _ List.mem_cons_self _ (List.mem_cons_of_mem _ List.mem_cons_self)
    "toolu_1" "toolu_2" rfl rfl rfl
  exact absurd same (by decide)

end ChatGateway
