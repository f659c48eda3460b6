import ChatGateway.Gateway.ClaudeEvents
import ChatGateway.Shared.Slots

set_option autoImplicit false

/-!
# The lifecycle of Claude content blocks

Thinking, text and tool blocks are opened and closed by separate flags of the state. The state is
held against the record of the events so far.
-/

namespace ChatGateway

inductive BlockOwner where
  | thinking
  | text
  | tool (key : Nat)
deriving DecidableEq, Repr

namespace ClaudeStreamState

def openTool (tool : ClaudeToolUseState) : Option Nat :=
  if tool.started && !tool.stopped then some tool.blockIndex else none

def heldBlock (state : ClaudeStreamState) : BlockOwner → Option Nat
  | .thinking =>
    if state.thinkingBlockStarted && !state.thinkingBlockFinished then state.thinkingBlockIndex
    else none
  | .text => state.currentTextBlockIndex
  | .tool key => (state.toolBlocks.find? key).bind openTool

def settled (state : ClaudeStreamState) : Bool :=
  state.toolBlocks.entries.all fun entry => entry.2.started

/-- Arguments come only for a tool block that is not closed, and a tool block is started only when
no other one is reserved before it. -/
def fragmentFits (state : ClaudeStreamState) (fragment : CallFragment) : Bool :=
  let tool := state.namedTool fragment
  (fragment.partialJson.isNone || !tool.stopped) &&
    (!startsTool tool fragment || state.toolBlocks.entries.all fun entry =>
      entry.1 = fragment.toolIndex || entry.2.started || tool.blockIndex < entry.2.blockIndex)

def fragmentsFit (state : ClaudeStreamState) : List CallFragment → Bool
  | [] => true
  | fragment :: rest =>
    state.fragmentFits fragment && (state.emitToolDeltaParts fragment).1.fragmentsFit rest

section Fits

variable (crypto : SigningCrypto)

def reasoningFits (state : ClaudeStreamState) (delta : Json) : Bool :=
  (nonempty (delta.str "reasoning_content")).isNone || state.thinkingBlockStarted ||
    state.thinkingBlockFinished || state.settled

def contentFits (state : ClaudeStreamState) (delta : Json) : Bool :=
  (deltaText delta).isNone || state.currentTextBlockIndex.isSome || state.settled

def toolCallsFit (state : ClaudeStreamState) (delta : Json) : Bool :=
  match (delta.get "tool_calls").bind Json.asArray with
  | none | some [] => true
  | some toolCalls =>
    (state.beforeFragments crypto (toolCalls.filterMap (·.str "id"))).1.fragmentsFit
      (toolCalls.zipIdx.map fun call => callFragment call.1 call.2)

def functionCallFits (state : ClaudeStreamState) (delta : Json) : Bool :=
  match delta.get "function_call" with
  | none => true
  | some functionCall =>
    (state.beforeFragments crypto (functionCall.str "id").toList).1.fragmentsFit
      [legacyFragment functionCall]

def chunkFits (state : ClaudeStreamState) (chunk : Json) : Bool :=
  if state.downstreamFinished then true
  else
    match ((chunk.get "choices").bind Json.asArray).bind List.head? with
    | none => true
    | some choice =>
      let delta := (choice.get "delta").getD .null
      let greeted := ((state.noteMetadata chunk).consumeRole delta).1
      let reasoned := (greeted.consumeReasoning delta).1
      let told := (reasoned.consumeContent crypto delta).1
      let called := (told.consumeToolCalls crypto delta).1
      greeted.reasoningFits delta && reasoned.contentFits delta && told.toolCallsFit crypto delta &&
        called.functionCallFits crypto delta

def frameFits (state : ClaudeStreamState) : ChatFrame → Bool
  | .comment | .done => true
  | .event value =>
    if ((value.get "error").bind Json.asObject).isSome then !state.downstreamFinished
    else state.chunkFits crypto value

def framesFit (state : ClaudeStreamState) : List ChatFrame → Bool
  | [] => true
  | frame :: rest =>
    state.frameFits crypto frame && (state.consumeFrame crypto frame).1.framesFit rest

end Fits

structure Reserved (tools : OrderedMap Nat ClaudeToolUseState) (next count : Nat) : Prop where
  within : count ≤ next
  above : ∀ key tool, tools.find? key = some tool → tool.started = false →
    count ≤ tool.blockIndex ∧ tool.blockIndex < next
  covered : ∀ index, count ≤ index → index < next → ∃ key tool,
    tools.find? key = some tool ∧ tool.started = false ∧ tool.blockIndex = index
  distinct : ∀ first second one two, tools.find? first = some one →
    tools.find? second = some two → one.started = false → two.started = false →
    one.blockIndex = two.blockIndex → first = second
  closed : ∀ key tool, tools.find? key = some tool → tool.stopped = true → tool.started = true

def phase (state : ClaudeStreamState) : ClaudePhase :=
  if state.messageStartEmitted then .running else .waiting

structure Live (state : ClaudeStreamState) (events : List ClaudeEvent) (slots : List Bool) :
    Prop where
  recorded : Recorded events state.phase slots
  held : Slots state.heldBlock slots
  reserved : Reserved state.toolBlocks state.nextBlockIndex slots.length
  thinking : state.thinkingBlockStarted = true → state.thinkingBlockIndex.isSome = true
  unfinished : state.downstreamFinished = false

variable {state : ClaudeStreamState} {events : List ClaudeEvent} {slots : List Bool}

theorem live_initial (signature : Option ClaudeThinkingSignatureContext) :
    Live { thinkingSignature := signature } [] [] where
  recorded := Recorded.start
  held := by
    have none : heldBlock { thinkingSignature := signature } = fun _ => none := by
      funext owner
      cases owner <;> rfl
    rw [none]
    exact Slots.empty
  reserved := ⟨Nat.zero_le _, by simp, by simp, by simp, by simp⟩
  thinking := nofun
  unfinished := rfl

theorem Live.running (live : Live state events slots) (started : state.messageStartEmitted = true) :
    Recorded events .running slots := by
  have recorded := live.recorded
  rwa [phase, if_pos started] at recorded

theorem Live.started (live : Live state events slots) {index : Nat} {isOpen : Bool}
    (found : slots[index]? = some isOpen) : state.messageStartEmitted = true := by
  have running := live.recorded.running_of_slot (by unfold phase; split <;> simp) found
  unfold phase at running
  split at running
  · assumption
  · cases running

theorem Live.congr (live : Live state events slots) {next : ClaudeStreamState}
    (phase : next.messageStartEmitted = state.messageStartEmitted)
    (held : next.heldBlock = state.heldBlock) (tools : next.toolBlocks = state.toolBlocks)
    (count : next.nextBlockIndex = state.nextBlockIndex)
    (thinking : next.thinkingBlockStarted = state.thinkingBlockStarted ∧
      next.thinkingBlockIndex = state.thinkingBlockIndex)
    (unfinished : next.downstreamFinished = state.downstreamFinished) : Live next events slots where
  recorded := by
    rw [ClaudeStreamState.phase, phase]
    exact live.recorded
  held := held ▸ live.held
  reserved := by
    rw [tools, count]
    exact live.reserved
  thinking := by
    rw [thinking.1, thinking.2]
    exact live.thinking
  unfinished := unfinished.trans live.unfinished

theorem live_ensureMessageStart (live : Live state events slots) :
    Live state.ensureMessageStart.1 (events ++ state.ensureMessageStart.2) slots ∧
      state.ensureMessageStart.1.messageStartEmitted = true := by
  unfold ensureMessageStart
  split_ifs with started
  · rw [List.append_nil]
    exact ⟨live, started⟩
  · refine ⟨⟨?_, ?_, live.reserved, live.thinking, live.unfinished⟩, rfl⟩
    · have recorded := live.recorded
      rw [phase, if_neg started] at recorded
      exact recorded.messageStart _ _ _
    · have same : heldBlock { state with messageStartEmitted := true } = state.heldBlock := by
        funext owner
        cases owner <;> rfl
      rw [same]
      exact live.held

theorem Live.close (live : Live state events slots) (owner : BlockOwner) {index : Nat}
    (holds : state.heldBlock owner = some index) {next : ClaudeStreamState}
    (held : next.heldBlock = Function.update state.heldBlock owner none)
    (phase : next.messageStartEmitted = state.messageStartEmitted)
    (reserved : Reserved next.toolBlocks next.nextBlockIndex slots.length)
    (thinking : next.thinkingBlockStarted = state.thinkingBlockStarted ∧
      next.thinkingBlockIndex = state.thinkingBlockIndex)
    (unfinished : next.downstreamFinished = state.downstreamFinished) :
    Live next (events ++ [.blockStop index]) (slots.set index false) where
  recorded := by
    have opened := live.held.isOpen owner index holds
    have started := live.started opened
    rw [ClaudeStreamState.phase, phase, if_pos started]
    exact (live.running started).blockStop opened
  held := held ▸ live.held.release holds
  reserved := by
    rw [List.length_set]
    exact reserved
  thinking := by
    rw [thinking.1, thinking.2]
    exact live.thinking
  unfinished := unfinished.trans live.unfinished

theorem Live.delta (live : Live state events slots) (owner : BlockOwner) {index : Nat}
    (holds : state.heldBlock owner = some index) (delta : ClaudeDelta) :
    Live state (events ++ [.blockDelta index delta]) slots := by
  have opened := live.held.isOpen owner index holds
  have begun := live.started opened
  refine ⟨?_, live.held, live.reserved, live.thinking, live.unfinished⟩
  rw [phase, if_pos begun]
  exact (live.running begun).blockDelta opened delta

theorem live_closeTextBlock (live : Live state events slots) : ∃ next,
    Live state.closeTextBlock.1 (events ++ state.closeTextBlock.2) next ∧
      state.closeTextBlock.1.heldBlock = Function.update state.heldBlock .text none := by
  unfold closeTextBlock
  cases text : state.currentTextBlockIndex with
  | none =>
    refine ⟨slots, by simpa using live, ?_⟩
    exact (Function.update_eq_self_iff.2 text.symm).symm
  | some index =>
    have held : heldBlock { state with currentTextBlockIndex := none } =
        Function.update state.heldBlock .text none := by
      funext owner
      cases owner <;> rfl
    exact ⟨_, live.close .text text held rfl live.reserved ⟨rfl, rfl⟩ rfl, held⟩

theorem Reserved.put_started {tools : OrderedMap Nat ClaudeToolUseState} {next count key : Nat}
    {tool changed : ClaudeToolUseState} (reserved : Reserved tools next count)
    (found : tools.find? key = some tool) (started : tool.started = true)
    (still : changed.started = true) : Reserved (tools.put key changed) next count where
  within := reserved.within
  above := by
    intro other known at_ unstarted
    rw [OrderedMap.find?_put] at at_
    split_ifs at at_ with same
    · cases at_
      rw [still] at unstarted
      cases unstarted
    · exact reserved.above other known at_ unstarted
  covered := by
    intro index above below
    obtain ⟨other, known, at_, unstarted, here⟩ := reserved.covered index above below
    have apart : key ≠ other := by
      rintro rfl
      rw [found] at at_
      cases at_
      rw [started] at unstarted
      cases unstarted
    exact ⟨other, known, by rw [OrderedMap.find?_put, if_neg apart]; exact at_, unstarted, here⟩
  distinct := by
    intro first second one two atFirst atSecond early late same
    rw [OrderedMap.find?_put] at atFirst atSecond
    split_ifs at atFirst atSecond with here there there
    · exact here.symm.trans there
    · cases atFirst
      rw [still] at early
      cases early
    · cases atSecond
      rw [still] at late
      cases late
    · exact reserved.distinct first second one two atFirst atSecond early late same
  closed := by
    intro other known at_ stopped
    rw [OrderedMap.find?_put] at at_
    split_ifs at at_ with same
    · cases at_
      exact still
    · exact reserved.closed other known at_ stopped

theorem heldBlock_put (state : ClaudeStreamState) (key next : Nat) (tool : ClaudeToolUseState) :
    heldBlock { state with
      nextBlockIndex := next
      toolBlocks := state.toolBlocks.put key tool } =
      Function.update state.heldBlock (.tool key) (openTool tool) := by
  funext owner
  cases owner with
  | thinking => rfl
  | text => rfl
  | tool other =>
    by_cases same : key = other
    · subst same
      simp [heldBlock]
    · have apart : BlockOwner.tool other ≠ .tool key := fun clash =>
        same (BlockOwner.tool.inj clash).symm
      rw [Function.update_of_ne apart]
      simp [heldBlock, OrderedMap.find?_put, same]

theorem live_closeToolBlock (live : Live state events slots) (key : Nat) : ∃ next,
    Live (state.closeToolBlock key).1 (events ++ (state.closeToolBlock key).2) next ∧
      (state.closeToolBlock key).1.heldBlock = Function.update state.heldBlock (.tool key) none := by
  unfold closeToolBlock
  cases found : state.toolBlocks.find? key with
  | none =>
    refine ⟨slots, by simpa using live, (Function.update_eq_self_iff.2 ?_).symm⟩
    simp [heldBlock, found]
  | some tool =>
    dsimp only
    split_ifs with isOpen
    · have holds : state.heldBlock (.tool key) = some tool.blockIndex := by
        simp [heldBlock, found, openTool, isOpen]
      have held : heldBlock { state with
          toolBlocks := state.toolBlocks.put key { tool with stopped := true } } =
          Function.update state.heldBlock (.tool key) none := by
        have closed : openTool { tool with stopped := true } = none := by simp [openTool]
        rw [← closed]
        exact heldBlock_put state key state.nextBlockIndex _
      have started : tool.started = true := by
        simp only [Bool.and_eq_true] at isOpen
        exact isOpen.1
      exact ⟨_, live.close (.tool key) holds held rfl
        (live.reserved.put_started found started started) ⟨rfl, rfl⟩ rfl, held⟩
    · refine ⟨slots, by simpa using live, (Function.update_eq_self_iff.2 ?_).symm⟩
      simp [heldBlock, found, openTool, isOpen]

theorem followedBy_events {S : Type} (events : List ClaudeEvent) (first : S × List ClaudeEvent)
    (next : S → S × List ClaudeEvent) :
    events ++ (followedBy first next).2 = events ++ first.2 ++ (next first.1).2 := by
  simp [followedBy]

theorem live_closeToolBlocks (live : Live state events slots) (keys : List Nat) : ∃ next,
    Live (state.closeToolBlocks keys).1 (events ++ (state.closeToolBlocks keys).2) next ∧
      (∀ owner, (∀ key, owner ≠ .tool key) →
        (state.closeToolBlocks keys).1.heldBlock owner = state.heldBlock owner) ∧
      ∀ key, (key ∈ keys ∨ state.heldBlock (.tool key) = none) →
        (state.closeToolBlocks keys).1.heldBlock (.tool key) = none := by
  induction keys generalizing state events slots with
  | nil =>
    refine ⟨slots, by simpa [closeToolBlocks] using live, fun _ _ => rfl, fun key closed => ?_⟩
    simpa [closeToolBlocks] using closed
  | cons key rest ih =>
    obtain ⟨middle, liveNext, held⟩ := live_closeToolBlock live key
    obtain ⟨last, liveLast, others, closed⟩ := ih liveNext
    rw [closeToolBlocks]
    refine ⟨last, ?_, ?_, ?_⟩
    · rw [followedBy_events]
      exact liveLast
    · intro owner outside
      refine (others owner outside).trans ?_
      rw [held, Function.update_of_ne (outside key)]
    · intro other known
      refine closed other ?_
      by_cases same : other = key
      · right
        rw [held, same, Function.update_self]
      · rcases known with member | free
        · exact .inl (by simpa [same] using member)
        · right
          rw [held, Function.update_of_ne (fun clash => same (BlockOwner.tool.inj clash))]
          exact free

theorem live_closeOpenToolBlocks (live : Live state events slots) : ∃ next,
    Live state.closeOpenToolBlocks.1 (events ++ state.closeOpenToolBlocks.2) next ∧
      (∀ owner, (∀ key, owner ≠ .tool key) →
        state.closeOpenToolBlocks.1.heldBlock owner = state.heldBlock owner) ∧
      ∀ key, state.closeOpenToolBlocks.1.heldBlock (.tool key) = none := by
  obtain ⟨next, liveNext, others, closed⟩ :=
    live_closeToolBlocks live (state.toolBlocks.entries.map (·.1))
  refine ⟨next, liveNext, others, fun key => closed key ?_⟩
  cases found : state.toolBlocks.find? key with
  | none => exact .inr (by simp [heldBlock, found])
  | some tool =>
    exact .inl (List.mem_map.2 ⟨(key, tool), OrderedMap.find?_eq_some.1 found, rfl⟩)

theorem live_finishThinkingBlock (crypto : SigningCrypto) (live : Live state events slots)
    (callIds : List String) : ∃ next,
      Live (state.finishThinkingBlock crypto callIds).1
        (events ++ (state.finishThinkingBlock crypto callIds).2) next ∧
      (state.finishThinkingBlock crypto callIds).1.heldBlock =
        Function.update state.heldBlock .thinking none := by
  unfold finishThinkingBlock
  split_ifs with closed
  · refine ⟨slots, by simpa using live, (Function.update_eq_self_iff.2 ?_).symm⟩
    simp only [Bool.or_eq_true, Bool.not_eq_true'] at closed
    rcases closed with unstarted | finished
    · simp [heldBlock, unstarted]
    · simp [heldBlock, finished]
  · simp only [Bool.or_eq_true, Bool.not_eq_true', not_or, Bool.not_eq_false,
      Bool.not_eq_true] at closed
    obtain ⟨started, unfinished⟩ := closed
    obtain ⟨index, at_⟩ := Option.isSome_iff_exists.1 (live.thinking started)
    have holds : state.heldBlock .thinking = some index := by
      simp [heldBlock, started, unfinished, at_]
    have held : heldBlock { state with thinkingBlockFinished := true } =
        Function.update state.heldBlock .thinking none := by
      funext owner
      cases owner with
      | thinking => simp [heldBlock]
      | text => rfl
      | tool key => rfl
    -- The signature is a delta of the block, which is still open.
    have signed (signature : Option ClaudeDelta) : Live state
        (events ++ (signature.map (ClaudeEvent.blockDelta index)).toList) slots := by
      cases signature with
      | none => simpa using live
      | some delta => exact live.delta .thinking holds delta
    have closed := (signed (state.thinkingSignature.map fun context =>
      .signature (context.sign crypto state.thinkingText callIds))).close .thinking holds held rfl
        live.reserved ⟨rfl, rfl⟩ rfl
    refine ⟨slots.set index false, ?_, held⟩
    rw [Option.map_map, List.append_assoc] at closed
    rw [show state.thinkingBlockIndex.getD 0 = index by rw [at_]; rfl]
    exact closed

theorem Live.openNext (live : Live state events slots) (owner : BlockOwner)
    (begun : state.messageStartEmitted = true) (free : state.heldBlock owner = none) {index : Nat}
    (next : index = slots.length) (block : ClaudeBlock) {after : ClaudeStreamState}
    (held : after.heldBlock = Function.update state.heldBlock owner (some index))
    (phase : after.messageStartEmitted = true)
    (reserved : Reserved after.toolBlocks after.nextBlockIndex (slots.length + 1))
    (thinking : after.thinkingBlockStarted = true → after.thinkingBlockIndex.isSome = true)
    (unfinished : after.downstreamFinished = state.downstreamFinished) :
    Live after (events ++ [.blockStart index block]) (slots ++ [true]) where
  recorded := by
    rw [ClaudeStreamState.phase, if_pos phase, next]
    exact (live.running begun).blockStart block
  held := by
    rw [held, next]
    exact live.held.acquire free
  reserved := by
    rw [List.length_append, List.length_singleton]
    exact reserved
  thinking := thinking
  unfinished := unfinished.trans live.unfinished

theorem settled_started (settles : state.settled = true) {key : Nat} {tool : ClaudeToolUseState}
    (found : state.toolBlocks.find? key = some tool) : tool.started = true :=
  List.all_eq_true.1 settles (key, tool) (OrderedMap.find?_eq_some.1 found)

-- When every tool block is started, the next number is the number of blocks started.
theorem Live.next_of_settled (live : Live state events slots) (settles : state.settled = true) :
    state.nextBlockIndex = slots.length := by
  refine Nat.le_antisymm ?_ live.reserved.within
  by_contra more
  obtain ⟨key, tool, found, unstarted, -⟩ :=
    live.reserved.covered slots.length (Nat.le_refl _) (by omega)
  rw [settled_started settles found] at unstarted
  cases unstarted

theorem Reserved.of_started {tools : OrderedMap Nat ClaudeToolUseState}
    (all : ∀ key tool, tools.find? key = some tool → tool.started = true) (next : Nat) :
    Reserved tools next next where
  within := Nat.le_refl next
  above := by
    intro key tool found unstarted
    rw [all key tool found] at unstarted
    cases unstarted
  covered := fun index above below => absurd above (by omega)
  distinct := by
    intro first second one two found _ unstarted
    rw [all first one found] at unstarted
    cases unstarted
  closed := fun key tool found _ => all key tool found

theorem live_emitThinking (live : Live state events slots)
    (begun : state.messageStartEmitted = true) (unfinished : state.thinkingBlockFinished = false)
    (fits : state.thinkingBlockStarted = true ∨ state.settled = true) (reasoning : String) :
    ∃ next, Live (state.emitThinking reasoning).1
      (events ++ (state.emitThinking reasoning).2) next := by
  unfold emitThinking
  split_ifs with started
  · obtain ⟨index, at_⟩ := Option.isSome_iff_exists.1 (live.thinking started)
    have holds : state.heldBlock .thinking = some index := by
      simp [heldBlock, started, unfinished, at_]
    refine ⟨slots, ?_⟩
    rw [show state.thinkingBlockIndex.getD 0 = index by rw [at_]; rfl]
    exact (live.delta .thinking holds _).congr rfl (by funext owner; cases owner <;> rfl) rfl rfl ⟨rfl, rfl⟩
      rfl
  · have settles : state.settled = true := fits.resolve_left started
    have next := live.next_of_settled settles
    have free : state.heldBlock .thinking = none := by
      simp [heldBlock, started]
    refine ⟨slots ++ [true], ?_⟩
    have held : heldBlock { state with
        nextBlockIndex := state.nextBlockIndex + 1
        thinkingBlockIndex := some state.nextBlockIndex
        thinkingBlockStarted := true
        thinkingText := state.thinkingText ++ reasoning } =
        Function.update state.heldBlock .thinking (some state.nextBlockIndex) := by
      funext owner
      cases owner with
      | thinking => simp [heldBlock, unfinished]
      | text => rfl
      | tool key => rfl
    have opened := live.openNext .thinking begun free next .thinking held begun
      (by rw [← next]; exact .of_started (fun _ _ => settled_started settles) _) (fun _ => rfl) rfl
    rw [show ∀ (first second : ClaudeEvent), events ++ [first, second] =
      events ++ [first] ++ [second] by simp]
    exact opened.delta .thinking (by simp [heldBlock, unfinished]) _

theorem live_emitTextDelta (live : Live state events slots)
    (fits : state.currentTextBlockIndex.isSome = true ∨ state.settled = true) (text : String) :
    ∃ next, Live (state.emitTextDelta text).1 (events ++ (state.emitTextDelta text).2) next := by
  obtain ⟨live, begun⟩ := live_ensureMessageStart live
  have tools : state.ensureMessageStart.1.toolBlocks = state.toolBlocks := by
    unfold ensureMessageStart
    split_ifs <;> rfl
  have current : state.ensureMessageStart.1.currentTextBlockIndex = state.currentTextBlockIndex := by
    unfold ensureMessageStart
    split_ifs <;> rfl
  unfold emitTextDelta
  rw [followedBy_events]
  simp only [followedBy]
  generalize state.ensureMessageStart = started at *
  cases found : started.1.currentTextBlockIndex with
  | some index => exact ⟨slots, live.delta .text found _⟩
  | none =>
    have settles : started.1.settled = true := by
      rw [settled, tools]
      exact fits.resolve_left (by simp [← current, found])
    have next := live.next_of_settled settles
    refine ⟨slots ++ [true], ?_⟩
    have held : heldBlock { started.1 with
        nextBlockIndex := started.1.nextBlockIndex + 1
        currentTextBlockIndex := some started.1.nextBlockIndex } =
        Function.update started.1.heldBlock .text (some started.1.nextBlockIndex) := by
      funext owner
      cases owner <;> rfl
    have opened := live.openNext .text begun found next .text held begun
      (by rw [← next]; exact .of_started (fun _ _ => settled_started settles) _) live.thinking rfl
    rw [show ∀ (first second : ClaudeEvent), events ++ started.2 ++ [first, second] =
      events ++ started.2 ++ [first] ++ [second] by simp]
    exact opened.delta .text rfl _

section Reservation

variable {tools : OrderedMap Nat ClaudeToolUseState} {next count key : Nat}
  {tool changed : ClaudeToolUseState}

theorem Reserved.put_same (reserved : Reserved tools next count)
    (found : tools.find? key = some tool) (index : changed.blockIndex = tool.blockIndex)
    (started : changed.started = tool.started) (stopped : changed.stopped = tool.stopped) :
    Reserved (tools.put key changed) next count := by
  -- Every tool of the new table has a tool of the old one with the same flags.
  have back {other : Nat} {known : ClaudeToolUseState}
      (at_ : (tools.put key changed).find? other = some known) : ∃ old,
        tools.find? other = some old ∧ known.blockIndex = old.blockIndex ∧
        known.started = old.started ∧ known.stopped = old.stopped := by
    rw [OrderedMap.find?_put] at at_
    split_ifs at at_ with same
    · cases at_
      subst same
      exact ⟨tool, found, index, started, stopped⟩
    · exact ⟨known, at_, rfl, rfl, rfl⟩
  refine ⟨reserved.within, ?_, ?_, ?_, ?_⟩
  · intro other known at_ unstarted
    obtain ⟨old, before, place, flag, -⟩ := back at_
    rw [place]
    exact reserved.above other old before (flag ▸ unstarted)
  · intro place above below
    obtain ⟨other, known, at_, unstarted, here⟩ := reserved.covered place above below
    by_cases same : key = other
    · subst same
      rw [found] at at_
      cases at_
      exact ⟨key, changed, by simp, started.trans unstarted, index.trans here⟩
    · exact ⟨other, known, by rw [OrderedMap.find?_put, if_neg same]; exact at_, unstarted, here⟩
  · intro first second one two atFirst atSecond early late same
    obtain ⟨old, before, place, flag, -⟩ := back atFirst
    obtain ⟨older, earlier, spot, mark, -⟩ := back atSecond
    exact reserved.distinct first second old older before earlier (flag ▸ early) (mark ▸ late)
      (place.symm.trans (same.trans spot))
  · intro other known at_ closed
    obtain ⟨old, before, -, flag, mark⟩ := back at_
    rw [flag]
    exact reserved.closed other old before (mark ▸ closed)

theorem Reserved.reserve (reserved : Reserved tools next count) (free : tools.find? key = none)
    (index : changed.blockIndex = next) (unstarted : changed.started = false)
    (running : changed.stopped = false) : Reserved (tools.put key changed) (next + 1) count where
  within := Nat.le_succ_of_le reserved.within
  above := by
    intro other known at_ idle
    rw [OrderedMap.find?_put] at at_
    split_ifs at at_ with same
    · cases at_
      have within := reserved.within
      omega
    · have bound := reserved.above other known at_ idle
      omega
  covered := by
    intro place above below
    by_cases last : place = next
    · exact ⟨key, changed, by simp, unstarted, by rw [index, last]⟩
    · obtain ⟨other, known, at_, idle, here⟩ := reserved.covered place above (by omega)
      have apart : key ≠ other := by
        rintro rfl
        rw [free] at at_
        cases at_
      exact ⟨other, known, by rw [OrderedMap.find?_put, if_neg apart]; exact at_, idle, here⟩
  distinct := by
    intro first second one two atFirst atSecond early late same
    rw [OrderedMap.find?_put] at atFirst atSecond
    split_ifs at atFirst atSecond with here there there
    · exact here.symm.trans there
    · cases atFirst
      have bound := (reserved.above second two atSecond late).2
      omega
    · cases atSecond
      have bound := (reserved.above first one atFirst early).2
      omega
    · exact reserved.distinct first second one two atFirst atSecond early late same
  closed := by
    intro other known at_ closed
    rw [OrderedMap.find?_put] at at_
    split_ifs at at_ with same
    · cases at_
      rw [running] at closed
      cases closed
    · exact reserved.closed other known at_ closed

theorem Reserved.start (reserved : Reserved tools next count) (found : tools.find? key = some tool)
    (idle : tool.started = false) (first : tool.blockIndex = count)
    (started : changed.started = true) : Reserved (tools.put key changed) next (count + 1) where
  within := by
    have bound := (reserved.above key tool found idle).2
    omega
  above := by
    intro other known at_ unstarted
    rw [OrderedMap.find?_put] at at_
    split_ifs at at_ with same
    · cases at_
      rw [started] at unstarted
      cases unstarted
    · obtain ⟨above, below⟩ := reserved.above other known at_ unstarted
      have apart : known.blockIndex ≠ count := fun clash =>
        same (reserved.distinct key other tool known found at_ idle unstarted
          (first.trans clash.symm))
      omega
  covered := by
    intro place above below
    obtain ⟨other, known, at_, unstarted, here⟩ := reserved.covered place (by omega) below
    have apart : key ≠ other := by
      rintro rfl
      rw [found] at at_
      cases at_
      omega
    exact ⟨other, known, by rw [OrderedMap.find?_put, if_neg apart]; exact at_, unstarted, here⟩
  distinct := by
    intro one two oneTool twoTool atOne atTwo early late same
    rw [OrderedMap.find?_put] at atOne atTwo
    split_ifs at atOne atTwo with here there there
    · exact here.symm.trans there
    · cases atOne
      rw [started] at early
      cases early
    · cases atTwo
      rw [started] at late
      cases late
    · exact reserved.distinct one two oneTool twoTool atOne atTwo early late same
  closed := by
    intro other known at_ closed
    rw [OrderedMap.find?_put] at at_
    split_ifs at at_ with same
    · cases at_
      exact started
    · exact reserved.closed other known at_ closed

theorem Reserved.first (reserved : Reserved tools next count) {index : Nat}
    (place : count ≤ index ∧ index ≤ next)
    (inOrder : ∀ key tool, tools.find? key = some tool → tool.started = false →
      tool.blockIndex = index ∨ index < tool.blockIndex) : index = count := by
  by_contra later
  obtain ⟨key, tool, found, unstarted, here⟩ := reserved.covered count (Nat.le_refl _) (by omega)
  rcases inOrder key tool found unstarted with same | before
  · omega
  · omega

end Reservation

theorem namedTool_of_new {fragment : CallFragment}
    (free : state.toolBlocks.find? fragment.toolIndex = none) :
    (state.namedTool fragment).blockIndex = state.nextBlockIndex ∧
      (state.namedTool fragment).started = false ∧ (state.namedTool fragment).stopped = false := by
  simp [namedTool, free]

theorem namedTool_of_known {fragment : CallFragment} {tool : ClaudeToolUseState}
    (found : state.toolBlocks.find? fragment.toolIndex = some tool) :
    (state.namedTool fragment).blockIndex = tool.blockIndex ∧
      (state.namedTool fragment).started = tool.started ∧
      (state.namedTool fragment).stopped = tool.stopped := by
  simp [namedTool, found]

theorem running_of_fragmentFits {fragment : CallFragment}
    (fits : state.fragmentFits fragment = true) (present : fragment.partialJson.isSome = true) :
    (state.namedTool fragment).stopped = false := by
  simp only [fragmentFits, Bool.and_eq_true, Bool.or_eq_true, Bool.not_eq_true'] at fits
  refine fits.1.resolve_left fun absent => ?_
  rw [Option.isNone_iff_eq_none.1 absent] at present
  cases present

theorem inOrder_of_fragmentFits {fragment : CallFragment}
    (fits : state.fragmentFits fragment = true)
    (starts : startsTool (state.namedTool fragment) fragment = true) {key : Nat}
    {tool : ClaudeToolUseState} (found : state.toolBlocks.find? key = some tool)
    (idle : tool.started = false) :
    key = fragment.toolIndex ∨ (state.namedTool fragment).blockIndex < tool.blockIndex := by
  simp only [fragmentFits, Bool.and_eq_true, Bool.or_eq_true, List.all_eq_true, decide_eq_true_eq,
    Bool.not_eq_true', starts] at fits
  rcases fits.2.resolve_left (by simp) (key, tool) (OrderedMap.find?_eq_some.1 found) with
    (same | started) | before
  · exact .inl same
  · rw [idle] at started
    cases started
  · exact .inr before

theorem Live.argumentsDelta (live : Live state events slots) (owner : BlockOwner) (index : Nat)
    (partialJson : Option String)
    (holds : partialJson.isSome = true → state.heldBlock owner = some index) :
    Live state (events ++ (partialJson.map fun text =>
      ClaudeEvent.blockDelta index (.inputJson text)).toList) slots := by
  cases partialJson with
  | none => simpa using live
  | some text => exact live.delta owner (holds rfl) _

theorem live_startTool (live : Live state events slots) (begun : state.messageStartEmitted = true)
    {fragment : CallFragment} (fits : state.fragmentFits fragment = true)
    (starts : startsTool (state.namedTool fragment) fragment = true) :
    Live (state.emitToolDeltaParts fragment).1
      (events ++ [.blockStart (state.namedTool fragment).blockIndex
        (.toolUse (state.namedTool fragment).id (state.namedTool fragment).name)])
      (slots ++ [true]) ∧
    (state.emitToolDeltaParts fragment).1.heldBlock (.tool fragment.toolIndex) =
      some (state.namedTool fragment).blockIndex := by
  have idle : (state.namedTool fragment).started = false := by
    simp only [startsTool, Bool.and_eq_true, Bool.not_eq_true'] at starts
    exact starts.1
  have running : (state.namedTool fragment).stopped = false := by
    cases found : state.toolBlocks.find? fragment.toolIndex with
    | none => exact (namedTool_of_new found).2.2
    | some tool =>
      -- A closed tool block was started, but this one is not.
      by_contra stopped
      have known := namedTool_of_known found
      rw [Bool.not_eq_false, known.2.2] at stopped
      have started := live.reserved.closed _ tool found stopped
      rw [← known.2.1, idle] at started
      cases started
  have place : slots.length ≤ (state.namedTool fragment).blockIndex ∧
      (state.namedTool fragment).blockIndex ≤ state.nextBlockIndex := by
    cases found : state.toolBlocks.find? fragment.toolIndex with
    | none =>
      rw [(namedTool_of_new found).1]
      exact ⟨live.reserved.within, Nat.le_refl _⟩
    | some tool =>
      have known := namedTool_of_known found
      have bounds := live.reserved.above _ tool found (known.2.1 ▸ idle)
      omega
  have first : (state.namedTool fragment).blockIndex = slots.length := by
    refine live.reserved.first place fun key tool found unstarted => ?_
    rcases inOrder_of_fragmentFits fits starts found unstarted with same | before
    · subst same
      exact .inl (namedTool_of_known found).1.symm
    · exact .inr before
  have free : state.heldBlock (.tool fragment.toolIndex) = none := by
    cases found : state.toolBlocks.find? fragment.toolIndex with
    | none => simp [heldBlock, found]
    | some tool =>
      have known := namedTool_of_known found
      simp [heldBlock, found, openTool, ← known.2.1, idle]
  have opened : openTool { state.namedTool fragment with
      started := (state.namedTool fragment).started ||
        startsTool (state.namedTool fragment) fragment } =
      some (state.namedTool fragment).blockIndex := by
    simp [openTool, starts, running]
  have held : (state.emitToolDeltaParts fragment).1.heldBlock =
      Function.update state.heldBlock (.tool fragment.toolIndex)
        (some (state.namedTool fragment).blockIndex) := by
    rw [← opened]
    exact heldBlock_put state _ _ _
  have reserved : Reserved (state.emitToolDeltaParts fragment).1.toolBlocks
      (state.emitToolDeltaParts fragment).1.nextBlockIndex (slots.length + 1) := by
    cases found : state.toolBlocks.find? fragment.toolIndex with
    | none =>
      have last : state.nextBlockIndex = slots.length := by
        rw [← first, (namedTool_of_new found).1]
      simp only [emitToolDeltaParts, found, Option.isNone_none, if_true, last]
      refine .of_started (fun key tool known => ?_) _
      rw [OrderedMap.find?_put] at known
      split_ifs at known with same
      · cases known
        simp [starts]
      · by_contra unstarted
        have bounds := live.reserved.above key tool known (by simpa using unstarted)
        omega
    | some tool =>
      have known := namedTool_of_known found
      simp only [emitToolDeltaParts, found, Option.isNone_some, Bool.false_eq_true, if_false]
      exact live.reserved.start found (known.2.1 ▸ idle) (known.1.symm.trans first) (by simp [starts])
  refine ⟨live.openNext _ begun free first _ held begun reserved live.thinking rfl, ?_⟩
  rw [held, Function.update_self]

-- A fragment that starts no block changes none either, but its block may hold a number.
theorem live_nameTool (live : Live state events slots) {fragment : CallFragment}
    (waits : startsTool (state.namedTool fragment) fragment = false) :
    Live (state.emitToolDeltaParts fragment).1 events slots ∧
      (state.emitToolDeltaParts fragment).1.heldBlock = state.heldBlock := by
  have named : { state.namedTool fragment with
      started := (state.namedTool fragment).started ||
        startsTool (state.namedTool fragment) fragment } = state.namedTool fragment := by
    simp [waits]
  have held : (state.emitToolDeltaParts fragment).1.heldBlock = state.heldBlock := by
    refine (heldBlock_put state _ _ _).trans (Function.update_eq_self_iff.2 ?_)
    rw [named]
    cases found : state.toolBlocks.find? fragment.toolIndex with
    | none => simp [heldBlock, found, openTool, namedTool_of_new found]
    | some tool => simp [heldBlock, found, openTool, namedTool_of_known found]
  refine ⟨⟨live.recorded, held ▸ live.held, ?_, live.thinking, live.unfinished⟩, held⟩
  cases found : state.toolBlocks.find? fragment.toolIndex with
  | none =>
    obtain ⟨index, idle, running⟩ := namedTool_of_new found
    simp only [emitToolDeltaParts, named, found, Option.isNone_none, if_true]
    exact live.reserved.reserve found index idle running
  | some tool =>
    obtain ⟨index, started, stopped⟩ := namedTool_of_known found
    simp only [emitToolDeltaParts, named, found, Option.isNone_some, Bool.false_eq_true, if_false]
    exact live.reserved.put_same found index started stopped

theorem live_emitToolDeltaParts (live : Live state events slots)
    (begun : state.messageStartEmitted = true) {fragment : CallFragment}
    (fits : state.fragmentFits fragment = true) : ∃ next,
      Live (state.emitToolDeltaParts fragment).1
        (events ++ (state.emitToolDeltaParts fragment).2) next := by
  cases starts : startsTool (state.namedTool fragment) fragment with
  | true =>
    obtain ⟨started, holds⟩ := live_startTool live begun fits starts
    refine ⟨slots ++ [true], ?_⟩
    have told := started.argumentsDelta (.tool fragment.toolIndex) _ fragment.partialJson
      fun _ => holds
    simp only [emitToolDeltaParts, starts, if_true] at told ⊢
    rw [← List.append_assoc]
    exact told
  | false =>
    obtain ⟨named, held⟩ := live_nameTool live starts
    refine ⟨slots, ?_⟩
    have told := named.argumentsDelta (.tool fragment.toolIndex)
      (state.namedTool fragment).blockIndex fragment.partialJson fun present => ?_
    · simp only [emitToolDeltaParts, starts, Bool.false_eq_true, if_false, List.nil_append] at told ⊢
      exact told
    · -- Arguments would have started the block, so it was started before.
      have started : (state.namedTool fragment).started = true := by
        simpa [startsTool, present] using starts
      have running := running_of_fragmentFits fits present
      rw [held]
      cases found : state.toolBlocks.find? fragment.toolIndex with
      | none =>
        rw [(namedTool_of_new found).2.1] at started
        cases started
      | some tool =>
        have known := namedTool_of_known found
        simp [heldBlock, found, openTool, ← known.2.1, ← known.2.2, started, running, known.1]

theorem live_emitToolFragments (live : Live state events slots)
    (begun : state.messageStartEmitted = true) {fragments : List CallFragment}
    (fits : state.fragmentsFit fragments = true) : ∃ next,
      Live (state.emitToolFragments fragments).1
        (events ++ (state.emitToolFragments fragments).2) next := by
  induction fragments generalizing state events slots with
  | nil => exact ⟨slots, by simpa [emitToolFragments] using live⟩
  | cons fragment rest ih =>
    simp only [fragmentsFit, Bool.and_eq_true] at fits
    obtain ⟨middle, liveNext⟩ := live_emitToolDeltaParts live begun fits.1
    rw [emitToolFragments, followedBy_events]
    exact ih liveNext begun fits.2

end ClaudeStreamState

end ChatGateway
