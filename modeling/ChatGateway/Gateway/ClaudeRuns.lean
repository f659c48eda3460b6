import ChatGateway.Gateway.ClaudeLifecycle

set_option autoImplicit false

/-!
# Whole Claude streams

Every frame that fits keeps the record of the events, and the end of the upstream closes it.
-/

namespace ChatGateway

namespace ClaudeStreamState

variable {state : ClaudeStreamState} {events : List ClaudeEvent} {slots : List Bool}

theorem settled_iff : state.settled = true ↔
    ∀ key tool, state.toolBlocks.find? key = some tool → tool.started = true := by
  constructor
  · intro settles key tool found
    exact settled_started settles found
  · intro started
    exact List.all_eq_true.2 fun entry member =>
      started entry.1 entry.2 (OrderedMap.find?_eq_some.2 member)

theorem settled_closeToolBlock (settles : state.settled = true) (key : Nat) :
    (state.closeToolBlock key).1.settled = true := by
  unfold closeToolBlock
  cases found : state.toolBlocks.find? key with
  | none => exact settles
  | some tool =>
    dsimp only
    split_ifs with isOpen
    · refine settled_iff.2 fun other known at_ => ?_
      rw [OrderedMap.find?_put] at at_
      split_ifs at at_ with same
      · cases at_
        have started : tool.started = true := settled_started settles found
        exact started
      · exact settled_started settles at_
    · exact settles

theorem settled_closeToolBlocks (settles : state.settled = true) (keys : List Nat) :
    (state.closeToolBlocks keys).1.settled = true := by
  induction keys generalizing state with
  | nil => exact settles
  | cons key rest ih => exact ih (settled_closeToolBlock settles key)

theorem toolBlocks_finishThinkingBlock (crypto : SigningCrypto) (state : ClaudeStreamState)
    (callIds : List String) :
    (state.finishThinkingBlock crypto callIds).1.toolBlocks = state.toolBlocks := by
  unfold finishThinkingBlock
  split_ifs <;> rfl

theorem begun_finishThinkingBlock (crypto : SigningCrypto) (state : ClaudeStreamState)
    (callIds : List String) :
    (state.finishThinkingBlock crypto callIds).1.messageStartEmitted =
      state.messageStartEmitted := by
  unfold finishThinkingBlock
  split_ifs <;> rfl

theorem begun_closeTextBlock (state : ClaudeStreamState) :
    state.closeTextBlock.1.messageStartEmitted = state.messageStartEmitted := by
  unfold closeTextBlock
  split <;> rfl

theorem begun_closeToolBlock (state : ClaudeStreamState) (key : Nat) :
    (state.closeToolBlock key).1.messageStartEmitted = state.messageStartEmitted := by
  unfold closeToolBlock
  split
  · rfl
  · split_ifs <;> rfl

theorem begun_closeToolBlocks (state : ClaudeStreamState) (keys : List Nat) :
    (state.closeToolBlocks keys).1.messageStartEmitted = state.messageStartEmitted := by
  induction keys generalizing state with
  | nil => rfl
  | cons key rest ih => exact (ih _).trans (begun_closeToolBlock state key)

section Parts

variable (crypto : SigningCrypto)

theorem live_consumeRole (live : Live state events slots) (delta : Json) : ∃ next,
    Live (state.consumeRole delta).1 (events ++ (state.consumeRole delta).2) next := by
  unfold consumeRole
  split_ifs
  · exact ⟨slots, (live_ensureMessageStart live).1⟩
  · exact ⟨slots, by simpa using live⟩

theorem live_consumeReasoning (live : Live state events slots) {delta : Json}
    (fits : state.reasoningFits delta = true) : ∃ next,
      Live (state.consumeReasoning delta).1 (events ++ (state.consumeReasoning delta).2) next := by
  unfold consumeReasoning
  cases reasoned : nonempty (delta.str "reasoning_content") with
  | none => exact ⟨slots, by simpa using live⟩
  | some reasoning =>
    dsimp only
    split_ifs with finished
    · exact ⟨slots, by simpa using live⟩
    · simp only [reasoningFits, reasoned, Option.isNone_some, Bool.false_or, Bool.or_eq_true,
        finished, Bool.or_false] at fits
      obtain ⟨begunLive, begun⟩ := live_ensureMessageStart live
      rw [followedBy_events]
      -- The start of the message changes no block.
      refine live_emitThinking begunLive begun ?_ ?_ reasoning
      · unfold ensureMessageStart
        split_ifs <;> simpa using finished
      · unfold ensureMessageStart
        split_ifs <;> exact fits

theorem live_consumeContent (live : Live state events slots) {delta : Json}
    (fits : state.contentFits delta = true) : ∃ next,
      Live (state.consumeContent crypto delta).1
        (events ++ (state.consumeContent crypto delta).2) next := by
  unfold consumeContent
  cases told : deltaText delta with
  | none => exact ⟨slots, by simpa using live⟩
  | some text =>
    simp only [contentFits, told, Option.isNone_some, Bool.false_or, Bool.or_eq_true] at fits
    obtain ⟨second, thought, held⟩ := live_finishThinkingBlock crypto live []
    obtain ⟨third, closed, others, -⟩ := live_closeOpenToolBlocks thought
    rw [followedBy_events, followedBy_events]
    refine live_emitTextDelta closed ?_ text
    rcases fits with current | settles
    · left
      have same : (state.finishThinkingBlock crypto []).1.closeOpenToolBlocks.1.heldBlock .text =
          state.heldBlock .text := by
        rw [others .text (by simp), held, Function.update_of_ne (by simp)]
      exact (congrArg Option.isSome same).trans current
    · right
      refine settled_closeToolBlocks ?_ _
      rw [settled, toolBlocks_finishThinkingBlock]
      exact settles

theorem live_beforeFragments (live : Live state events slots) (callIds : List String) : ∃ next,
    Live (state.beforeFragments crypto callIds).1
      (events ++ (state.beforeFragments crypto callIds).2) next ∧
    (state.beforeFragments crypto callIds).1.messageStartEmitted = true := by
  obtain ⟨second, thought, -⟩ := live_finishThinkingBlock crypto live callIds
  obtain ⟨third, told, -⟩ := live_closeTextBlock thought
  obtain ⟨started, begun⟩ := live_ensureMessageStart told
  refine ⟨third, ?_, begun⟩
  rw [beforeFragments, followedBy_events, followedBy_events]
  exact started

theorem live_consumeFragments (live : Live state events slots) {callIds : List String}
    {fragments : List CallFragment}
    (fits : (state.beforeFragments crypto callIds).1.fragmentsFit fragments = true) : ∃ next,
      Live (state.consumeFragments crypto callIds fragments).1
        (events ++ (state.consumeFragments crypto callIds fragments).2) next := by
  obtain ⟨second, before, begun⟩ := live_beforeFragments crypto live callIds
  rw [consumeFragments, followedBy_events]
  exact live_emitToolFragments before begun fits

theorem live_consumeToolCalls (live : Live state events slots) {delta : Json}
    (fits : state.toolCallsFit crypto delta = true) : ∃ next,
      Live (state.consumeToolCalls crypto delta).1
        (events ++ (state.consumeToolCalls crypto delta).2) next := by
  unfold consumeToolCalls
  unfold toolCallsFit at fits
  cases called : (delta.get "tool_calls").bind Json.asArray with
  | none => exact ⟨slots, by simpa using live⟩
  | some toolCalls =>
    rw [called] at fits
    cases toolCalls with
    | nil => exact ⟨slots, by simpa using live⟩
    | cons call rest => exact live_consumeFragments crypto live fits

theorem live_consumeFunctionCall (live : Live state events slots) {delta : Json}
    (fits : state.functionCallFits crypto delta = true) : ∃ next,
      Live (state.consumeFunctionCall crypto delta).1
        (events ++ (state.consumeFunctionCall crypto delta).2) next := by
  unfold consumeFunctionCall
  unfold functionCallFits at fits
  cases called : delta.get "function_call" with
  | none => exact ⟨slots, by simpa using live⟩
  | some functionCall =>
    rw [called] at fits
    exact live_consumeFragments crypto live fits

structure Ended (state : ClaudeStreamState) (events : List ClaudeEvent) : Prop where
  recorded : ∃ slots, Recorded events .ended slots
  finished : state.downstreamFinished = true

theorem ended_finishMessage (live : Live state events slots) :
    Ended (state.finishMessage crypto).1 (events ++ (state.finishMessage crypto).2) := by
  unfold finishMessage
  rw [if_neg (by simp [live.unfinished])]
  obtain ⟨started, begun⟩ := live_ensureMessageStart live
  obtain ⟨second, thought, unthinking⟩ := live_finishThinkingBlock crypto started []
  obtain ⟨third, told, silent⟩ := live_closeTextBlock thought
  obtain ⟨fourth, closed, others, tools⟩ := live_closeOpenToolBlocks told
  rw [followedBy_events, followedBy_events, followedBy_events, followedBy_events]
  refine ⟨⟨fourth, ?_⟩, rfl⟩
  -- No owner holds a block any more, so none is open when the message ends.
  refine Recorded.messageEnd (closed.running ?_) (closed.held.all_closed fun owner => ?_) _ _
  · rw [closeOpenToolBlocks, begun_closeToolBlocks, begun_closeTextBlock, begun_finishThinkingBlock]
    exact begun
  · cases owner with
    | thinking =>
      rw [others .thinking (by simp), silent, Function.update_of_ne (by simp), unthinking,
        Function.update_self]
    | text => rw [others .text (by simp), silent, Function.update_self]
    | tool key => exact tools key

def Followed (state : ClaudeStreamState) (events : List ClaudeEvent) : Prop :=
  (∃ slots, Live state events slots) ∨ Ended state events

theorem followed_consumeFinish (live : Live state events slots) (choice : Json) :
    Followed (state.consumeFinish crypto choice).1
      (events ++ (state.consumeFinish crypto choice).2) := by
  unfold consumeFinish
  cases choice.str "finish_reason" with
  | none => exact .inl ⟨slots, by simpa using live⟩
  | some reason =>
    obtain ⟨second, thought, -⟩ := live_finishThinkingBlock crypto live []
    rw [followedBy_events]
    right
    refine ended_finishMessage crypto (thought.congr rfl ?_ rfl rfl ⟨rfl, rfl⟩ rfl)
    funext owner
    cases owner <;> rfl

theorem followed_consumeChatChunk (live : Live state events slots) {chunk : Json}
    (fits : state.chunkFits crypto chunk = true) :
    Followed (state.consumeChatChunk crypto chunk).1
      (events ++ (state.consumeChatChunk crypto chunk).2) := by
  unfold consumeChatChunk
  unfold chunkFits at fits
  rw [if_neg (by simp [live.unfinished])] at fits ⊢
  have known : Live (state.noteMetadata chunk) events slots :=
    live.congr rfl (by funext owner; cases owner <;> rfl) rfl rfl ⟨rfl, rfl⟩ rfl
  cases head : ((chunk.get "choices").bind Json.asArray).bind List.head? with
  | none => exact .inl ⟨slots, by simpa using known⟩
  | some choice =>
    rw [head] at fits
    simp only [Bool.and_eq_true] at fits
    obtain ⟨⟨⟨reasons, tells⟩, calls⟩, legacy⟩ := fits
    obtain ⟨second, greeted⟩ := live_consumeRole known ((choice.get "delta").getD .null)
    obtain ⟨third, reasoned⟩ := live_consumeReasoning greeted reasons
    obtain ⟨fourth, told⟩ := live_consumeContent crypto reasoned tells
    obtain ⟨fifth, called⟩ := live_consumeToolCalls crypto told calls
    obtain ⟨sixth, called⟩ := live_consumeFunctionCall crypto called legacy
    dsimp only
    rw [followedBy_events, followedBy_events, followedBy_events, followedBy_events,
      followedBy_events]
    exact followed_consumeFinish crypto called choice

theorem followed_consumeFrame (followed : Followed state events) {frame : ChatFrame}
    (fits : state.frameFits crypto frame = true) :
    Followed (state.consumeFrame crypto frame).1
      (events ++ (state.consumeFrame crypto frame).2) := by
  rcases followed with ⟨slots, live⟩ | ended
  · cases frame with
    | comment =>
      exact .inl ⟨slots, live.recorded.keepAlive, live.held, live.reserved, live.thinking,
        live.unfinished⟩
    | done =>
      rw [consumeFrame, if_neg (by simp [live.unfinished])]
      exact .inr (ended_finishMessage crypto live)
    | event value =>
      cases failed : (value.get "error").bind Json.asObject with
      | none =>
        simp only [frameFits, failed, Option.isSome_none, Bool.false_eq_true, if_false] at fits
        simp only [consumeFrame, emitGatewayError, failed, Option.map_none, Option.getD_none]
        exact followed_consumeChatChunk crypto live fits
      | some upstreamError =>
        simp only [consumeFrame, emitGatewayError, failed, Option.map_some, Option.getD_some]
        refine .inr ⟨⟨slots, live.recorded.error ?_ _⟩, rfl⟩
        unfold phase
        split_ifs <;> simp
  · -- After the end only keep-alives are passed on.
    obtain ⟨⟨slots, recorded⟩, finished⟩ := ended
    right
    cases frame with
    | comment => exact ⟨⟨slots, recorded.keepAlive⟩, finished⟩
    | done =>
      rw [consumeFrame, if_pos finished]
      exact ⟨⟨slots, by simpa using recorded⟩, finished⟩
    | event value =>
      cases failed : (value.get "error").bind Json.asObject with
      | none =>
        simp only [consumeFrame, emitGatewayError, failed, Option.map_none, Option.getD_none,
          consumeChatChunk, if_pos finished]
        exact ⟨⟨slots, by simpa using recorded⟩, finished⟩
      | some upstreamError =>
        simp [frameFits, failed, finished] at fits

theorem followed_drainFrames (followed : Followed state events) {frames : List ChatFrame}
    (fits : state.framesFit crypto frames = true) :
    Followed (state.drainFrames crypto frames).1
      (events ++ (state.drainFrames crypto frames).2) := by
  induction frames generalizing state events with
  | nil => simpa [drainFrames] using followed
  | cons frame rest ih =>
    simp only [framesFit, Bool.and_eq_true] at fits
    rw [drainFrames, followedBy_events]
    exact ih (followed_consumeFrame crypto followed fits.1) fits.2

theorem ended_finishUpstream (followed : Followed state events) :
    Ended (state.finishUpstream crypto).1 (events ++ (state.finishUpstream crypto).2) := by
  unfold finishUpstream
  rcases followed with ⟨slots, live⟩ | ended
  · rw [if_neg (by simp [live.unfinished])]
    exact ended_finishMessage crypto live
  · rw [if_pos ended.finished]
    simpa using ended

/-- Every stream whose frames fit gives a well-formed Claude stream. -/
theorem run_wellFormed (signature : Option ClaudeThinkingSignatureContext)
    (frames : List ChatFrame)
    (fits : framesFit crypto { thinkingSignature := signature } frames = true) :
    WellFormedClaudeStream (run crypto { thinkingSignature := signature } frames) := by
  have start : Followed { thinkingSignature := signature } [] := .inl ⟨[], live_initial signature⟩
  have drained := followed_drainFrames crypto start fits
  have ended := ended_finishUpstream crypto drained
  obtain ⟨slots, recorded⟩ := ended.recorded
  rw [run, ← List.nil_append (followedBy _ _).2, followedBy_events]
  exact recorded.wellFormed

end Parts

def unusedCrypto : SigningCrypto where
  hmacSha256 _ _ := []
  encode _ := []
  decode _ := none

def deltaFrame (delta : List (String × Json)) : ChatFrame :=
  .event (.object [("choices", .array [.object [("delta", .object delta)]])])

def textFrame (text : String) : ChatFrame :=
  deltaFrame [("content", .string text)]

def callFrame (fields : List (String × Json)) (arguments : String) : ChatFrame :=
  deltaFrame [("tool_calls", .array [.object (fields ++
    [("function", .object [("name", .string "lookup"), ("arguments", .string arguments)])])])]

theorem text_then_call_wellFormed :
    framesFit unusedCrypto {} [textFrame "Hi", callFrame [("id", .string "call_1")] "7", .done] =
        true ∧
      WellFormedClaudeStream
        (run unusedCrypto {} [textFrame "Hi", callFrame [("id", .string "call_1")] "7", .done]) :=
  have fits : framesFit unusedCrypto {}
      [textFrame "Hi", callFrame [("id", .string "call_1")] "7", .done] = true := by decide +kernel
  ⟨fits, run_wellFormed unusedCrypto none _ fits⟩

/-- Text between two fragments of a call: the second one is sent to a block that is closed. -/
theorem arguments_after_stop :
    ¬ WellFormedClaudeStream (run unusedCrypto {}
      [callFrame [("id", .string "call_1")] "1", textFrame "Hi", callFrame [] "2", .done]) := by
  intro wellFormed
  have events : run unusedCrypto {}
      [callFrame [("id", .string "call_1")] "1", textFrame "Hi", callFrame [] "2", .done] =
      [.messageStart "msg" "" 0, .blockStart 0 (.toolUse "call_1" "lookup"),
        .blockDelta 0 (.inputJson "1"), .blockStop 0, .blockStart 1 .text,
        .blockDelta 1 (.text "Hi"), .blockStop 1, .blockDelta 0 (.inputJson "2"),
        .messageDelta "end_turn" 0, .messageStop] := by decide +kernel
  rw [events] at wellFormed
  obtain ⟨count, starts, -, traces⟩ := wellFormed.blocks
  have two : 2 = count := (congrArg List.length starts).trans List.length_range
  obtain ⟨isOpen, ⟨block, deltas, trace⟩, -⟩ := traces 0 (by omega)
  -- The trace of the block has a delta behind its stop.
  rcases deltas with _ | ⟨first, _ | ⟨second, rest⟩⟩ <;> cases isOpen <;>
    simp [blockEvents, visibleEvents, ClaudeEvent.blockIndex?, ClaudeEvent.isKeepAlive] at trace

end ClaudeStreamState

end ChatGateway
