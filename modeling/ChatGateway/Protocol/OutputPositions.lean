import ChatGateway.Protocol.EventStream
import ChatGateway.Protocol.TerminalEvents

set_option autoImplicit false

/-!
# Output indexes as positions

Every output index is handed out with the event that adds its item, and the completed response lists
the items by their indexes. What can go apart is the id of a call: the first fragments may leave it
empty, and a later one fills it in.
-/

namespace ChatGateway

structure ItemTag where
  index : Nat
  channel : Channel
  id : String
deriving DecidableEq, Repr

def OutputItem.id : OutputItem → String
  | reasoning id _ _ => id
  | message id _ _ => id
  | functionCall id _ _ _ _ _ => id

def OutputItem.tag (item : OutputItem) (index : Nat) : ItemTag :=
  ⟨index, item.channel, item.id⟩

namespace ResponsesEventBody

def tag : ResponsesEventBody → Option ItemTag
  | created .. => none
  | itemAdded _ outputIndex item => some (item.tag outputIndex)
  | delta channel _ itemId outputIndex _ => some ⟨outputIndex, channel, itemId⟩
  | done channel _ itemId outputIndex _ _ => some ⟨outputIndex, channel, itemId⟩
  | itemDone _ outputIndex item => some (item.tag outputIndex)
  | terminal _ => none

def addedIndex : ResponsesEventBody → Option Nat
  | itemAdded _ outputIndex _ => some outputIndex
  | _ => none

end ResponsesEventBody

def addedIndexes (events : List ResponsesEvent) : List Nat :=
  events.filterMap (·.body.addedIndex)

@[simp] theorem addedIndexes_append (earlier later : List ResponsesEvent) :
    addedIndexes (earlier ++ later) = addedIndexes earlier ++ addedIndexes later :=
  List.filterMap_append

/-- The items are added with the indexes from zero on, and every event of an item shows the item that
the completed response has at that position. -/
def PositionsKept (events : List ResponsesEvent) : Prop :=
  ∃ before last response, events = before ++ [last] ∧ last.body = .terminal response ∧
    addedIndexes events = List.range response.output.length ∧
    ∀ event ∈ events, ∀ tag, event.body.tag = some tag →
      (response.output[tag.index]?).map (·.tag tag.index) = some tag

namespace ChatToResponsesState

def tags (state : ChatToResponsesState) : List ItemTag :=
  (state.reasoning.toList.map fun reasoning =>
    ⟨reasoning.outputIndex, .reasoning, reasoning.itemId⟩) ++
  (state.textOutputIndex.toList.map fun index => ⟨index, .text, state.textItemId.getD ""⟩) ++
  state.toolCalls.values.map fun call => ⟨call.outputIndex, .arguments, call.itemId⟩

structure Shown (state : ChatToResponsesState) : Prop where
  reasoning : ∀ reasoning, state.reasoning = some reasoning → reasoning.startedEmitted = true
  text : state.textItemAddedEmitted = state.textOutputIndex.isSome
  textId : state.textOutputIndex.isSome → state.textItemId.isSome
  calls : ∀ call ∈ state.toolCalls.values, call.addedEmitted = true

structure Placed (state : ChatToResponsesState) (events : List ResponsesEvent) (renamed : Bool) :
    Prop where
  shown : state.Shown
  handedOut : addedIndexes events = List.range state.nextOutputIndex
  places : (state.tags.map (·.index)).Perm (List.range state.nextOutputIndex)
  told : renamed = false → ∀ event ∈ events, ∀ tag, event.body.tag = some tag → tag ∈ state.tags
  stale : renamed = true → ∃ event ∈ events, ∃ index channel id,
    event.body.tag = some ⟨index, channel, ""⟩ ∧ id ≠ "" ∧ ⟨index, channel, id⟩ ∈ state.tags
  announced : ∀ index channel, ⟨index, channel, ""⟩ ∈ state.tags →
    ∃ event ∈ events, event.body.tag = some ⟨index, channel, ""⟩

theorem Placed.start (toolRegistry : Option ToolAdapterRegistry) (toolCallMergeStrict : Bool) :
    Placed { toolRegistry, toolCallMergeStrict } [] false where
  shown := ⟨by simp, rfl, by simp, by simp [OrderedMap.values]⟩
  handedOut := rfl
  places := List.Perm.refl _
  told _ event member := by cases member
  stale isRenamed := by cases isRenamed
  announced index channel member := by cases member

section Steps

variable {state next : ChatToResponsesState} {events new : List ResponsesEvent} {renamed : Bool}

theorem Placed.keep (placed : Placed state events renamed) (shown : next.Shown)
    (same : next.tags.Perm state.tags) (index : next.nextOutputIndex = state.nextOutputIndex)
    (unadded : addedIndexes new = [])
    (own : ∀ event ∈ new, ∀ tag, event.body.tag = some tag → tag ∈ next.tags) :
    Placed next (events ++ new) renamed where
  shown := shown
  handedOut := by rw [addedIndexes_append, unadded, List.append_nil, placed.handedOut, index]
  places := by
    rw [index]
    exact (same.map _).trans placed.places
  told kept event member tag isTag := by
    rcases List.mem_append.1 member with earlier | later
    · exact same.mem_iff.2 (placed.told kept event earlier tag isTag)
    · exact own event later tag isTag
  stale isRenamed := by
    obtain ⟨event, member, index, channel, id, isTag, named, held⟩ := placed.stale isRenamed
    exact ⟨event, List.mem_append_left _ member, index, channel, id, isTag, named,
      same.mem_iff.2 held⟩
  announced index channel held := by
    obtain ⟨event, member, isTag⟩ := placed.announced index channel (same.mem_iff.1 held)
    exact ⟨event, List.mem_append_left _ member, isTag⟩

theorem Placed.grow {tag : ItemTag} (placed : Placed state events renamed) (shown : next.Shown)
    (more : next.tags.Perm (tag :: state.tags)) (position : tag.index = state.nextOutputIndex)
    (index : next.nextOutputIndex = state.nextOutputIndex + 1)
    (added : addedIndexes new = [tag.index])
    (own : ∀ event ∈ new, event.body.tag = some tag) (some : new ≠ []) :
    Placed next (events ++ new) renamed where
  shown := shown
  handedOut := by
    rw [addedIndexes_append, added, placed.handedOut, index, position, List.range_succ]
  places := by
    rw [index, List.range_succ]
    refine (more.map _).trans ?_
    rw [List.map_cons, position]
    exact (placed.places.cons _).trans (List.perm_append_singleton _ _).symm
  told kept event member other isTag := by
    rcases List.mem_append.1 member with earlier | later
    · exact more.mem_iff.2 (List.mem_cons_of_mem _ (placed.told kept event earlier other isTag))
    · have same := (own event later).symm.trans isTag
      cases same
      exact more.mem_iff.2 List.mem_cons_self
  stale isRenamed := by
    obtain ⟨event, member, index, channel, id, isTag, named, held⟩ := placed.stale isRenamed
    exact ⟨event, List.mem_append_left _ member, index, channel, id, isTag, named,
      more.mem_iff.2 (List.mem_cons_of_mem _ held)⟩
  announced index channel held := by
    rcases List.mem_cons.1 (more.mem_iff.1 held) with same | earlier
    · obtain ⟨event, member⟩ := List.exists_mem_of_ne_nil new some
      exact ⟨event, List.mem_append_right _ member, (own event member).trans (congrArg _ same.symm)⟩
    · obtain ⟨event, member, isTag⟩ := placed.announced index channel earlier
      exact ⟨event, List.mem_append_left _ member, isTag⟩

theorem Placed.rename {position : Nat} {channel : Channel} {id : String} {rest : List ItemTag}
    (placed : Placed state events renamed) (shown : next.Shown)
    (before : state.tags.Perm (⟨position, channel, ""⟩ :: rest))
    (after : next.tags.Perm (⟨position, channel, id⟩ :: rest)) (named : id ≠ "")
    (index : next.nextOutputIndex = state.nextOutputIndex) (unadded : addedIndexes new = []) :
    Placed next (events ++ new) true where
  shown := shown
  handedOut := by rw [addedIndexes_append, unadded, List.append_nil, placed.handedOut, index]
  places := by
    have indexes : (state.tags.map (·.index)).Perm
        ((⟨position, channel, id⟩ :: rest).map (·.index)) := before.map _
    rw [index]
    exact ((after.map _).trans indexes.symm).trans placed.places
  told kept := by cases kept
  stale _ := by
    obtain ⟨event, member, isTag⟩ :=
      placed.announced position channel (before.mem_iff.2 List.mem_cons_self)
    exact ⟨event, List.mem_append_left _ member, position, channel, id, isTag, named,
      after.mem_iff.2 List.mem_cons_self⟩
  announced other otherChannel held := by
    rcases List.mem_cons.1 (after.mem_iff.1 held) with same | others
    · have empty : "" = id := congrArg ItemTag.id same
      exact absurd empty.symm named
    · obtain ⟨event, member, isTag⟩ :=
        placed.announced other otherChannel (before.mem_iff.2 (List.mem_cons_of_mem _ others))
      exact ⟨event, List.mem_append_left _ member, isTag⟩

end Steps

def Stays (events : List ResponsesEvent) (renamed : Bool) (result : Emitted) : Prop :=
  Placed result.1 (events ++ result.2) renamed

section Emissions

variable {stamp : ResponseStamp} {codec : JsonCodec} {state : ChatToResponsesState}
  {events : List ResponsesEvent} {renamed : Bool}

theorem Stays.rest {result : Emitted} (stays : Stays events renamed result) :
    Stays (events ++ result.2) renamed (result.1, []) := by
  simpa [Stays] using stays

theorem Stays.append {new : List ResponsesEvent} {result : Emitted}
    (stays : Stays (events ++ new) renamed result) :
    Stays events renamed (result.1, new ++ result.2) := by
  simpa [Stays] using stays

theorem Stays.silent {next : ChatToResponsesState} (stays : Stays events renamed (state, []))
    (shown : next.Shown) (same : next.tags = state.tags)
    (index : next.nextOutputIndex = state.nextOutputIndex) :
    Stays events renamed (next, []) := by
  have placed : Placed state events renamed := by simpa [Stays] using stays
  exact placed.keep shown (List.Perm.of_eq same) index rfl (by simp)

theorem emitCreated_stays (stays : Stays events renamed (state, [])) :
    Stays events renamed (state.emitCreated stamp) := by
  unfold emitCreated
  split
  · exact stays
  · have placed : Placed state events renamed := by simpa [Stays] using stays
    refine placed.keep ⟨placed.shown.reasoning, placed.shown.text, placed.shown.textId, placed.shown.calls⟩
      (List.Perm.refl _) rfl rfl ?_
    simp [push, ResponsesEventBody.tag]

theorem emitReasoningDelta_stays (stays : Stays events renamed (state, [])) (delta : String) :
    Stays events renamed (state.emitReasoningDelta stamp delta) := by
  have placed : Placed state events renamed := by simpa [Stays] using stays
  cases found : state.reasoning with
  | none =>
    refine @Placed.grow _ _ _ _ _ ⟨state.nextOutputIndex, .reasoning, stamp.reasoningId⟩ placed ?_ ?_ rfl
      ?_ ?_ ?_ ?_
    · constructor
      · intro reasoning isReasoning
        simp only [emitReasoningDelta, found, andThen, push] at isReasoning
        cases isReasoning
        rfl
      · simpa [emitReasoningDelta, found, andThen, push] using placed.shown.text
      · simpa [emitReasoningDelta, found, andThen, push] using placed.shown.textId
      · simpa [emitReasoningDelta, found, andThen, push] using placed.shown.calls
    all_goals simp [emitReasoningDelta, found, andThen, push, tags, addedIndexes,
      ResponsesEventBody.addedIndex, ResponsesEventBody.tag, OutputItem.tag, OutputItem.channel,
      OutputItem.id]
  | some reasoning =>
    have started := placed.shown.reasoning reasoning found
    refine placed.keep ?_ ?_ ?_ ?_ ?_
    · constructor
      · intro other isOther
        simp only [emitReasoningDelta, found, started, andThen, push] at isOther
        cases isOther
        rfl
      · simpa [emitReasoningDelta, found, started, andThen, push] using placed.shown.text
      · simpa [emitReasoningDelta, found, started, andThen, push] using placed.shown.textId
      · simpa [emitReasoningDelta, found, started, andThen, push] using placed.shown.calls
    all_goals simp [emitReasoningDelta, found, started, andThen, push, tags, addedIndexes,
      ResponsesEventBody.addedIndex, ResponsesEventBody.tag]

theorem emitReasoningDone_stays (stays : Stays events renamed (state, [])) :
    Stays events renamed (state.emitReasoningDone stamp) := by
  have placed : Placed state events renamed := by simpa [Stays] using stays
  cases found : state.reasoning with
  | none => simpa [emitReasoningDone, found] using stays
  | some reasoning =>
    have started := placed.shown.reasoning reasoning found
    cases done : reasoning.doneEmitted with
    | true => simpa [emitReasoningDone, found, done] using stays
    | false =>
      refine placed.keep ?_ ?_ ?_ ?_ ?_
      · constructor
        · intro other isOther
          simp only [emitReasoningDone, found, started, done, andThen, push] at isOther
          cases isOther
          rfl
        · simpa [emitReasoningDone, found, started, done, andThen, push] using placed.shown.text
        · simpa [emitReasoningDone, found, started, done, andThen, push] using placed.shown.textId
        · simpa [emitReasoningDone, found, started, done, andThen, push] using placed.shown.calls
      all_goals simp [emitReasoningDone, found, started, done, andThen, push, tags, addedIndexes,
        ResponsesEventBody.addedIndex, ResponsesEventBody.tag, OutputItem.tag, OutputItem.channel,
        OutputItem.id]

theorem emitTextDelta_stays (stays : Stays events renamed (state, [])) (delta : String) :
    Stays events renamed (state.emitTextDelta stamp delta) := by
  have placed : Placed state events renamed := by simpa [Stays] using stays
  have added := placed.shown.text
  cases found : state.textOutputIndex with
  | none =>
    rw [found] at added
    refine @Placed.grow _ _ _ _ _
      ⟨state.nextOutputIndex, .text, state.textItemId.getD stamp.messageId⟩ placed ?_ ?_ rfl ?_ ?_
      ?_ ?_
    · constructor
      · simpa [emitTextDelta, ensureTextItem, found, added, andThen, push]
          using placed.shown.reasoning
      · simp [emitTextDelta, ensureTextItem, found, added, andThen, push]
      · simp [emitTextDelta, ensureTextItem, found, added, andThen, push]
      · simpa [emitTextDelta, ensureTextItem, found, added, andThen, push] using placed.shown.calls
    · simp only [emitTextDelta, ensureTextItem, found, added, andThen, push, tags]
      simp [List.perm_middle]
    all_goals simp [emitTextDelta, ensureTextItem, found, added, andThen, push, addedIndexes,
      ResponsesEventBody.addedIndex, ResponsesEventBody.tag, OutputItem.tag, OutputItem.channel,
      OutputItem.id]
  | some index =>
    rw [found] at added
    obtain ⟨itemId, named⟩ := Option.isSome_iff_exists.1 (placed.shown.textId (by simp [found]))
    refine placed.keep ?_ ?_ ?_ ?_ ?_
    · constructor
      · simpa [emitTextDelta, ensureTextItem, found, added, named, andThen, push]
          using placed.shown.reasoning
      · simp [emitTextDelta, ensureTextItem, found, added, named, andThen, push]
      · simp [emitTextDelta, ensureTextItem, found, added, named, andThen, push]
      · simpa [emitTextDelta, ensureTextItem, found, added, named, andThen, push]
          using placed.shown.calls
    all_goals simp [emitTextDelta, ensureTextItem, found, added, named, andThen, push, tags,
      addedIndexes, ResponsesEventBody.addedIndex, ResponsesEventBody.tag]

theorem emitTextDone_stays (stays : Stays events renamed (state, [])) :
    Stays events renamed (state.emitTextDone stamp) := by
  have placed : Placed state events renamed := by simpa [Stays] using stays
  unfold emitTextDone
  split
  · exact stays
  · next due =>
    obtain ⟨added, -⟩ : state.textItemAddedEmitted = true ∧ state.textItemDoneEmitted = false := by
      simpa using due
    obtain ⟨index, found⟩ := Option.isSome_iff_exists.1 (placed.shown.text.symm.trans added)
    obtain ⟨itemId, named⟩ := Option.isSome_iff_exists.1 (placed.shown.textId (by simp [found]))
    refine placed.keep ⟨placed.shown.reasoning, placed.shown.text, placed.shown.textId, placed.shown.calls⟩
      (List.Perm.refl _) rfl ?_ ?_
    all_goals simp [andThen, push, found, named, tags, addedIndexes, ResponsesEventBody.addedIndex,
      ResponsesEventBody.tag, OutputItem.tag, OutputItem.channel, OutputItem.id]

/-! ### Tool calls -/

def renames (state : ChatToResponsesState) (key : Nat) (callId : String) : Bool :=
  (state.toolCalls.find? key).any fun call => call.itemId = "" && callId ≠ ""

theorem mergeFragment_named (call : ChatToolCallState) (callId : String) (name : Option String)
    (arguments : String) (strict : Bool) :
    (mergeFragment codec call callId name arguments strict).1.itemId =
      if call.itemId = "" then callId else call.itemId := by
  by_cases empty : arguments = ""
  · rw [mergeFragment, if_pos empty]
    rfl
  by_cases replaces : Replaces codec call arguments strict = true
  · rw [mergeFragment_replaced callId name empty replaces]
    rfl
  · rw [mergeFragment_appended callId name empty replaces]
    rfl

theorem emitFragment_tags (key : Nat) (callId : String) (name : Option String) (arguments : String)
    (restore : String → String × Option String)
    (shown : (state.fragmentEntry key callId name).addedEmitted =
      (state.toolCalls.find? key).isSome) :
    addedIndexes (state.emitFragment stamp codec key callId name arguments restore).2 =
        (if (state.toolCalls.find? key).isSome then []
          else [(state.fragmentEntry key callId name).outputIndex]) ∧
      (∀ event ∈ (state.emitFragment stamp codec key callId name arguments restore).2,
        event.body.tag = some
          { index := (state.fragmentEntry key callId name).outputIndex
            channel := .arguments
            id :=
              if (state.fragmentEntry key callId name).itemId = "" then callId
              else (state.fragmentEntry key callId name).itemId }) ∧
      ((state.toolCalls.find? key).isSome = false →
        (state.emitFragment stamp codec key callId name arguments restore).2 ≠ []) := by
  have index : ((state.toolCalls.find? key).map (·.outputIndex)).getD state.nextOutputIndex =
      (state.fragmentEntry key callId name).outputIndex := by
    cases found : state.toolCalls.find? key <;> simp [fragmentEntry, found]
  have entry : (state.toolCalls.find? key).getD
      { itemId := callId, callId
        outputIndex := (state.fragmentEntry key callId name).outputIndex, name } =
      state.fragmentEntry key callId name := by
    cases found : state.toolCalls.find? key <;> simp [fragmentEntry, found]
  have due := (@mergeFragment_kept codec (state.fragmentEntry key callId name) callId name
    arguments state.toolCallMergeStrict).2.2.2
  rw [shown] at due
  rw [← @mergeFragment_named codec (state.fragmentEntry key callId name) callId name arguments
    state.toolCallMergeStrict]
  simp only [emitFragment, index, entry, due]
  generalize mergeFragment codec (state.fragmentEntry key callId name) callId name arguments
    state.toolCallMergeStrict = merged
  cases (state.toolCalls.find? key).isSome <;> cases merged.2.2 <;>
    simp [andThen, push, addedIndexes, ResponsesEventBody.addedIndex, ResponsesEventBody.tag,
      OutputItem.tag, OutputItem.channel, OutputItem.id]

theorem tags_put {next : ChatToResponsesState} {key : Nat} {merged : ChatToolCallState}
    (reasoning : next.reasoning = state.reasoning)
    (textIndex : next.textOutputIndex = state.textOutputIndex)
    (textId : next.textItemId = state.textItemId)
    (calls : next.toolCalls = state.toolCalls.put key merged) :
    ∃ rest, next.tags.Perm (⟨merged.outputIndex, .arguments, merged.itemId⟩ :: rest) ∧
      state.tags.Perm (((state.toolCalls.find? key).toList.map fun call =>
        ⟨call.outputIndex, .arguments, call.itemId⟩) ++ rest) := by
  obtain ⟨others, put, held⟩ := state.toolCalls.exists_values_put key merged
  refine ⟨((state.reasoning.toList.map fun reasoning =>
      ⟨reasoning.outputIndex, .reasoning, reasoning.itemId⟩) ++
    (state.textOutputIndex.toList.map fun index => ⟨index, .text, state.textItemId.getD ""⟩)) ++
    others.map fun call => ⟨call.outputIndex, .arguments, call.itemId⟩, ?_, ?_⟩
  · rw [tags, reasoning, textIndex, textId, calls]
    refine (List.Perm.append_left _ (put.map _)).trans ?_
    exact List.perm_middle
  · rw [tags]
    refine (List.Perm.append_left _ (held.map _)).trans ?_
    rw [List.map_append, ← List.append_assoc, ← List.append_assoc]
    exact List.Perm.append_right _ List.perm_append_comm

theorem mem_values_put {key : Nat} {merged call : ChatToolCallState}
    (member : call ∈ (state.toolCalls.put key merged).values) :
    call = merged ∨ call ∈ state.toolCalls.values := by
  obtain ⟨rest, put, held⟩ := state.toolCalls.exists_values_put key merged
  rcases List.mem_cons.1 (put.mem_iff.1 member) with same | others
  · exact Or.inl same
  · exact Or.inr (held.mem_iff.2 (List.mem_append_right _ others))

theorem emitFragment_stays (stays : Stays events renamed (state, [])) (key : Nat) (callId : String)
    (name : Option String) (arguments : String) (restore : String → String × Option String) :
    Stays events (renamed || state.renames key callId)
      (state.emitFragment stamp codec key callId name arguments restore) := by
  have placed : Placed state events renamed := by simpa [Stays] using stays
  have shown : (state.fragmentEntry key callId name).addedEmitted =
      (state.toolCalls.find? key).isSome := by
    cases found : state.toolCalls.find? key with
    | none => simp [fragmentEntry, found]
    | some call =>
      simpa [fragmentEntry, found] using placed.shown.calls call (mem_values.2 ⟨key, found⟩)
  obtain ⟨added, own, emits⟩ := @emitFragment_tags stamp codec state key callId name arguments
    restore shown
  obtain ⟨new, emitted, -⟩ := @emitFragment_spec stamp codec state key callId name arguments restore
  obtain ⟨kept, mergedAdded, -⟩ := @mergeFragment_kept codec (state.fragmentEntry key callId name)
    callId name arguments state.toolCallMergeStrict
  have named := @mergeFragment_named codec (state.fragmentEntry key callId name) callId name
    arguments state.toolCallMergeStrict
  rw [emitted] at added own emits ⊢
  generalize (mergeFragment codec (state.fragmentEntry key callId name) callId name arguments
    state.toolCallMergeStrict).1 = merged at *
  have nextShown : ∀ number index, ({ state with
      sequenceNumber := number
      nextOutputIndex := index
      toolCalls := state.toolCalls.put key merged } : ChatToResponsesState).Shown := by
    intro number index
    refine ⟨placed.shown.reasoning, placed.shown.text, placed.shown.textId, fun call member => ?_⟩
    rcases mem_values_put member with rfl | earlier
    · exact mergedAdded
    · exact placed.shown.calls call earlier
  cases found : state.toolCalls.find? key with
  | none =>
    simp only [fragmentEntry, found, Option.getD_none, Option.isSome_none, Bool.false_eq_true,
      if_false, ite_self] at added own emits kept named
    obtain ⟨rest, after, before⟩ := @tags_put state
      { state with
        sequenceNumber := state.sequenceNumber + new.length
        nextOutputIndex := state.nextOutputIndex + 1
        toolCalls := state.toolCalls.put key merged } key merged rfl rfl rfl rfl
    rw [found] at before
    rw [kept, named] at after
    have unnamed : state.renames key callId = false := by simp [renames, found]
    rw [unnamed, Bool.or_false]
    exact placed.grow (nextShown _ _) (after.trans (before.symm.cons _)) rfl rfl added own
      (emits trivial)
  | some call =>
    simp only [fragmentEntry, found, Option.getD_some, Option.isSome_some, if_true]
      at added own kept named
    obtain ⟨rest, after, before⟩ := @tags_put state
      { state with
        sequenceNumber := state.sequenceNumber + new.length
        toolCalls := state.toolCalls.put key merged } key merged rfl rfl rfl rfl
    rw [found] at before
    rw [kept, named] at after
    by_cases unnamed : call.itemId = ""
    · by_cases stays : callId = ""
      · have kept : state.renames key callId = false := by simp [renames, found, stays]
        rw [if_pos unnamed, stays, ← unnamed] at after own
        rw [kept, Bool.or_false]
        refine placed.keep (nextShown _ _) (after.trans before.symm) rfl added ?_
        intro event member tag isTag
        rw [own event member, Option.some.injEq] at isTag
        exact isTag ▸ after.mem_iff.2 List.mem_cons_self
      · -- the empty id gives way to the one of the fragment
        have isRenamed : state.renames key callId = true := by simp [renames, found, unnamed, stays]
        rw [if_pos unnamed] at after
        rw [isRenamed, Bool.or_true]
        have before : state.tags.Perm (⟨call.outputIndex, .arguments, ""⟩ :: rest) := by
          rw [← unnamed]
          exact before
        exact placed.rename (nextShown _ _) before after stays rfl added
    · have kept : state.renames key callId = false := by simp [renames, found, unnamed]
      rw [if_neg unnamed] at after
      simp only [if_neg unnamed] at own
      rw [kept, Bool.or_false]
      refine placed.keep (nextShown _ _) (after.trans before.symm) rfl added ?_
      intro event member tag isTag
      rw [own event member, Option.some.injEq] at isTag
      exact isTag ▸ after.mem_iff.2 List.mem_cons_self

/-! ### The end of the stream -/

theorem emitCallsDone_tags (state : ChatToResponsesState) (calls : List ChatToolCallState) :
    (∃ number, (emitCallsDone stamp codec state calls).1 = { state with sequenceNumber := number }) ∧
      addedIndexes (emitCallsDone stamp codec state calls).2 = [] ∧
      ∀ event ∈ (emitCallsDone stamp codec state calls).2, ∀ tag, event.body.tag = some tag →
        ∃ call ∈ calls, tag = ⟨call.outputIndex, .arguments, call.itemId⟩ := by
  induction calls generalizing state with
  | nil => exact ⟨⟨state.sequenceNumber, rfl⟩, rfl, by simp [emitCallsDone]⟩
  | cons call rest ih =>
    obtain ⟨⟨number, final⟩, unadded, own⟩ := ih (state.emitCallDone stamp codec call).1
    refine ⟨⟨number, ?_⟩, ?_, ?_⟩
    · rw [emitCallsDone, andThen, final]
      rfl
    · rw [emitCallsDone, andThen, addedIndexes_append, unadded]
      rfl
    · intro event member tag isTag
      rw [emitCallsDone, andThen] at member
      rcases List.mem_append.1 member with here | later
      · refine ⟨call, List.mem_cons_self, ?_⟩
        simp only [emitCallDone, andThen, push, List.cons_append, List.nil_append, List.mem_cons,
          List.not_mem_nil, or_false] at here
        rcases here with rfl | rfl
        · exact (Option.some.inj isTag).symm
        · exact (Option.some.inj isTag).symm
      · obtain ⟨other, isCall, same⟩ := own event later tag isTag
        exact ⟨other, List.mem_cons_of_mem _ isCall, same⟩

theorem emitToolCallDone_stays (stays : Stays events renamed (state, [])) :
    Stays events renamed (state.emitToolCallDone stamp codec) := by
  have placed : Placed state events renamed := by simpa [Stays] using stays
  obtain ⟨⟨number, final⟩, unadded, own⟩ := @emitCallsDone_tags stamp codec
    { state with toolCalls := state.toolCalls.map fun call => { call with doneEmitted := true } }
    (state.toolCalls.values.filter fun call => !call.doneEmitted)
  have values : (state.toolCalls.map fun call => { call with doneEmitted := true }).values =
      state.toolCalls.values.map fun call => { call with doneEmitted := true } := by
    simp only [OrderedMap.values, OrderedMap.map, List.map_map]
    rfl
  have same : (state.emitToolCallDone stamp codec).1.tags = state.tags := by
    rw [emitToolCallDone, final]
    simp only [tags, values, List.map_map]
    rfl
  refine placed.keep ?_ (List.Perm.of_eq same) ?_ unadded ?_
  · rw [emitToolCallDone, final]
    refine ⟨placed.shown.reasoning, placed.shown.text, placed.shown.textId, ?_⟩
    intro call member
    rw [values] at member
    obtain ⟨earlier, held, rfl⟩ := List.mem_map.1 member
    exact placed.shown.calls earlier held
  · rw [emitToolCallDone, final]
  · intro event member tag isTag
    obtain ⟨call, isCall, rfl⟩ := own event member tag isTag
    rw [same]
    refine List.mem_append_right _ (List.mem_map.2 ⟨call, ?_, rfl⟩)
    exact (List.mem_filter.1 isCall).1

theorem outputEntries_tags (shown : state.Shown) :
    (state.outputEntries codec).map (fun entry => entry.2.tag entry.1) = state.tags := by
  have reasoning : ∀ reasoning, state.reasoning = some reasoning →
      reasoning.startedEmitted = true := shown.reasoning
  have added := shown.text
  unfold outputEntries tags
  simp only [List.map_append, List.map_map]
  congr 1
  · congr 1
    · cases found : state.reasoning with
      | none => rfl
      | some reasoned =>
        simp [reasoning reasoned found, OutputItem.tag, OutputItem.channel, OutputItem.id]
    · cases found : state.textOutputIndex with
      | none =>
        rw [found] at added
        simp [added]
      | some index =>
        rw [found] at added
        simp [added, OutputItem.tag, OutputItem.channel, OutputItem.id]

theorem Placed.mem_tags (placed : Placed state events renamed) {tag : ItemTag} :
    tag ∈ state.tags ↔
      ((state.completedOutputItems codec)[tag.index]?).map (·.tag tag.index) = some tag := by
  have entries := @outputEntries_tags codec state placed.shown
  have indexes : (state.outputEntries codec).map (·.1) = state.tags.map (·.index) := by
    rw [← entries, List.map_map]
    rfl
  have nodup : ((state.outputEntries codec).map (·.1)).Nodup := by
    rw [indexes]
    exact placed.places.nodup_iff.2 List.nodup_range
  have keys : ∀ key, key ∈ (state.outputEntries codec).map (·.1) ↔ key < state.nextOutputIndex := by
    intro key
    rw [indexes, placed.places.mem_iff, List.mem_range]
  have listed : ∀ index item, (index, item) ∈ state.outputEntries codec →
      (state.completedOutputItems codec)[index]? = some item :=
    fun index item member => getElem?_insertionSort nodup keys member
  constructor
  · intro member
    rw [← entries] at member
    obtain ⟨⟨index, item⟩, isEntry, rfl⟩ := List.mem_map.1 member
    have here : (item.tag index).index = index := rfl
    rw [here, listed index item isEntry]
    rfl
  · intro here
    obtain ⟨item, found, same⟩ := Option.map_eq_some_iff.1 here
    have original : item ∈ state.completedOutputItems codec := List.mem_of_getElem? found
    obtain ⟨⟨index, other⟩, isEntry, rfl⟩ := List.mem_map.1 original
    have isEntry : (index, other) ∈ state.outputEntries codec :=
      (List.mem_insertionSort _).1 isEntry
    -- the entry of this position is the one that the item comes from
    have below : tag.index < state.nextOutputIndex := by
      have length := (List.getElem?_eq_some_iff.1 found).1
      have count := congrArg List.length indexes
      rw [List.length_map, List.length_map] at count
      rw [completedOutputItems, List.length_map, List.length_insertionSort, count,
        ← List.length_map (·.index), placed.places.length_eq, List.length_range] at length
      exact length
    obtain ⟨⟨position, own⟩, isOwn, rfl⟩ := List.mem_map.1 ((keys tag.index).2 below)
    rw [listed _ own isOwn, Option.some.injEq] at found
    subst found
    rw [← same, ← entries]
    exact List.mem_map.2 ⟨_, isOwn, rfl⟩

theorem Placed.output_length (placed : Placed state events renamed) :
    (state.completedOutputItems codec).length = state.nextOutputIndex := by
  rw [completedOutputItems, List.length_map, List.length_insertionSort,
    ← List.length_map fun entry : Nat × OutputItem => entry.2.tag entry.1,
    outputEntries_tags placed.shown, ← List.length_map (·.index), placed.places.length_eq,
    List.length_range]

-- The completed response lists the items under the tags of their events unless one was renamed.
theorem emitTerminal_positions (placed : Placed state events renamed) :
    PositionsKept (events ++ (state.emitTerminal stamp codec).2) ↔ renamed = false := by
  have listed := fun tag => @Placed.mem_tags codec state events renamed placed tag
  have length := @Placed.output_length codec state events renamed placed
  simp only [emitTerminal, push]
  constructor
  · rintro ⟨before, last, response, split, isLast, -, own⟩
    obtain ⟨-, sameLast⟩ := List.append_inj' split rfl
    obtain rfl := List.singleton_inj.1 sameLast
    cases isLast
    by_contra isRenamed
    rw [Bool.not_eq_false] at isRenamed
    obtain ⟨event, member, index, channel, id, isTag, named, held⟩ := placed.stale isRenamed
    have empty := own event (List.mem_append_left _ member) _ isTag
    have filled := (listed _).1 held
    have same := empty.symm.trans filled
    exact named (congrArg ItemTag.id (Option.some.inj same)).symm
  · intro kept
    refine ⟨events, _, _, rfl, rfl, ?_, ?_⟩
    · rw [addedIndexes_append, placed.handedOut, length]
      exact List.append_nil _
    · intro event member tag isTag
      rcases List.mem_append.1 member with earlier | last
      · exact (listed tag).1 (placed.told kept event earlier tag isTag)
      · rw [List.mem_singleton.1 last] at isTag
        cases isTag

theorem finish_positions (placed : Placed state events renamed)
    (unended : state.completedEmitted = false) :
    PositionsKept (events ++ (state.finish stamp codec).2) ↔ renamed = false := by
  have stays : Stays events renamed (state, []) := by simpa [Stays] using placed
  have created := @emitCreated_stays stamp state events renamed stays
  have reasoned := @emitReasoningDone_stays stamp _ _ _ created.rest
  have texted := @emitTextDone_stays stamp _ _ _ reasoned.rest
  have called := @emitToolCallDone_stays stamp codec _ _ _ texted.rest
  have ended := @emitTerminal_positions stamp codec _ _ _ called
  rw [finish, if_neg (by simp [unended])]
  simpa [andThen, List.append_assoc] using ended

theorem beginOutput_stays (stays : Stays events renamed (state, [])) :
    Stays events renamed (state.beginOutput stamp) :=
  (emitReasoningDone_stays (emitCreated_stays stays).rest).append

theorem translateReasoning_stays (stays : Stays events renamed (state, [])) (delta : Json) :
    Stays events renamed (state.translateReasoning stamp delta) := by
  unfold translateReasoning
  split
  · exact stays
  · split
    · exact stays
    · exact (emitReasoningDelta_stays (emitCreated_stays stays).rest _).append

theorem translateContent_stays {delta : Json} {result : Emitted}
    (stays : Stays events renamed (state, []))
    (translated : state.translateContent stamp delta = .ok result) :
    Stays events renamed result := by
  unfold translateContent at translated
  split at translated
  · cases translated
    exact stays
  · split at translated
    · cases translated
      exact stays
    · split at translated
      · cases translated
      · split at translated
        · cases translated
          exact stays
        · cases translated
          exact (emitTextDelta_stays (beginOutput_stays stays).rest _).append

theorem translateEnd_stays (stays : Stays events renamed (state, [])) (choice delta : Json) :
    Stays events renamed (state.translateEnd stamp choice delta) := by
  have introduced : Stays events renamed
      (if (delta.str "role").isSome then state.emitCreated stamp else (state, [])) := by
    split
    · exact emitCreated_stays stays
    · exact stays
  unfold translateEnd
  dsimp only
  split
  · exact introduced
  · next finishReason found =>
    generalize (if (delta.str "role").isSome then state.emitCreated stamp else (state, [])) =
      begun at introduced
    have shown := introduced.shown
    refine Stays.append (emitCreated_stays (introduced.rest.silent ?_ rfl rfl))
    exact ⟨shown.reasoning, shown.text, shown.textId, shown.calls⟩

end Emissions

section Renames

variable (stamp : ResponseStamp) (codec : JsonCodec)

def toolCallRenames (state : ChatToResponsesState) (toolCall : Json) (position : Nat) : Bool :=
  match toolCall.asObject.bind fun object =>
    (extractToolCallDetails object).map fun details => (object, details) with
  | none => false
  | some (object, name, _) =>
    let key := state.toolCallKey object (callIdHint object) name position
    state.renames key ((callIdHint object).getD (stamp.callId key))

def toolCallsRename (state : ChatToResponsesState) (position : Nat) : List Json → Bool
  | [] => false
  | toolCall :: rest =>
    let begun := (state.beginOutput stamp).1
    begun.toolCallRenames stamp toolCall position ||
      match begun.emitChatToolCallDelta stamp codec toolCall position with
      | .error _ => false
      | .ok emitted => toolCallsRename emitted.1 (position + 1) rest

def functionCallRenames (state : ChatToResponsesState) (delta : Json) : Bool :=
  (((delta.get "function_call").bind Json.asObject).bind callIdHint).any fun callId =>
    (state.beginOutput stamp).1.renames 0 callId

def choiceRenames (state : ChatToResponsesState) (choice : Json) : Bool :=
  let delta := (choice.get "delta").getD .null
  let toolCalls := ((delta.get "tool_calls").bind Json.asArray).getD []
  match (state.translateReasoning stamp delta).1.translateContent stamp delta with
  | .error _ => false
  | .ok texted =>
    texted.1.toolCallsRename stamp codec 0 toolCalls ||
      match texted.1.translateToolCalls stamp codec 0 toolCalls with
      | .error _ => false
      | .ok called => called.1.functionCallRenames stamp delta

def eventRenames (state : ChatToResponsesState) (event : Json) : Bool :=
  if state.completedEmitted then false
  else
    match (event.get "choices").bind Json.asArray with
    | some [choice] => (state.metered stamp event).choiceRenames stamp codec choice
    | _ => false

def renamesFrom : ChatToResponsesState → List Json → Bool
  | _, [] => false
  | state, chunk :: rest =>
    state.eventRenames stamp codec chunk ||
      match state.translateEvent stamp codec chunk with
      | .error _ => false
      | .ok (next, _) => renamesFrom next rest

end Renames

section Streams

variable {stamp : ResponseStamp} {codec : JsonCodec}

theorem emitChatToolCallDelta_stays {state : ChatToResponsesState} {events : List ResponsesEvent}
    {renamed : Bool} {toolCall : Json} {position : Nat} {result : Emitted}
    (stays : Stays events renamed (state, []))
    (emitted : state.emitChatToolCallDelta stamp codec toolCall position = .ok result) :
    Stays events (renamed || state.toolCallRenames stamp toolCall position) result := by
  unfold emitChatToolCallDelta at emitted
  split at emitted
  · cases emitted
  · next object isObject =>
    split at emitted
    · next nothing =>
      cases emitted
      simpa [toolCallRenames, isObject, nothing] using stays
    · next name arguments details =>
      cases emitted
      simpa [toolCallRenames, isObject, details] using emitFragment_stays stays ..

theorem translateToolCalls_stays {state : ChatToResponsesState} {events : List ResponsesEvent}
    {renamed : Bool} {toolCalls : List Json} {position : Nat} {result : Emitted}
    (stays : Stays events renamed (state, []))
    (translated : state.translateToolCalls stamp codec position toolCalls = .ok result) :
    Stays events (renamed || state.toolCallsRename stamp codec position toolCalls) result := by
  induction toolCalls generalizing state events renamed position result with
  | nil =>
    cases translated
    simpa [toolCallsRename] using stays
  | cons toolCall rest ih =>
    simp only [translateToolCalls] at translated
    split at translated
    · cases translated
    · next emitted isEmitted =>
      have called := emitChatToolCallDelta_stays (beginOutput_stays stays).rest isEmitted
      split at translated
      · cases translated
      · next later isLater =>
        cases translated
        simpa [toolCallsRename, isEmitted, Bool.or_assoc, List.append_assoc] using
          (ih called.rest isLater).append.append

theorem translateFunctionCall_stays {state : ChatToResponsesState} {events : List ResponsesEvent}
    {renamed : Bool} {delta : Json} {result : Emitted} (stays : Stays events renamed (state, []))
    (translated : state.translateFunctionCall stamp codec delta = .ok result) :
    Stays events (renamed || state.functionCallRenames stamp delta) result := by
  cases given : delta.get "function_call" with
  | none =>
    simp only [translateFunctionCall, given] at translated
    cases translated
    simpa [functionCallRenames, given] using stays
  | some functionCall =>
    simp only [translateFunctionCall, given] at translated
    split at translated
    · cases translated
    · next emitted isEmitted =>
      cases translated
      unfold emitChatFunctionCallDelta at isEmitted
      split at isEmitted
      · cases isEmitted
      · next object isObject =>
        split at isEmitted
        · cases isEmitted
        · next callId isHint =>
          split at isEmitted
          · cases isEmitted
          · cases isEmitted
            simpa [functionCallRenames, given, isObject, isHint] using
              (emitFragment_stays (beginOutput_stays stays).rest ..).append

theorem translateChoice_stays {state : ChatToResponsesState} {events : List ResponsesEvent}
    {renamed : Bool} {choice : Json} {result : Emitted} (stays : Stays events renamed (state, []))
    (translated : state.translateChoice stamp codec choice = .ok result) :
    Stays events (renamed || state.choiceRenames stamp codec choice) result := by
  simp only [translateChoice] at translated
  simp only [choiceRenames]
  generalize (choice.get "delta").getD .null = delta at *
  have reasoned := @translateReasoning_stays stamp _ _ _ stays delta
  split at translated
  · cases translated
  · next texted isTexted =>
    have text := translateContent_stays reasoned.rest isTexted
    split at translated
    · cases translated
    · next called isCalled =>
      have calls := translateToolCalls_stays text.rest isCalled
      split at translated
      · cases translated
      · next functioned isFunctioned =>
        have function := translateFunctionCall_stays calls.rest isFunctioned
        cases translated
        have ended := @translateEnd_stays stamp _ _ _ function.rest choice delta
        simpa [isTexted, isCalled, Bool.or_assoc, List.append_assoc] using
          ended.append.append.append.append

theorem metered_stays {state : ChatToResponsesState} {events : List ResponsesEvent} {renamed : Bool}
    (stays : Stays events renamed (state, [])) (event : Json) :
    Stays events renamed (state.metered stamp event, []) := by
  have shown := stays.shown
  exact stays.silent ⟨shown.reasoning, shown.text, shown.textId, shown.calls⟩ rfl rfl

theorem renamesFrom_completed {state : ChatToResponsesState}
    (completed : state.completedEmitted = true) (chunks : List Json) :
    state.renamesFrom stamp codec chunks = false := by
  induction chunks with
  | nil => rfl
  | cons chunk rest ih => simp [renamesFrom, eventRenames, translateEvent, completed, ih]

theorem translateFrom_positions_iff {state : ChatToResponsesState}
    {events out : List ResponsesEvent} {renamed : Bool} {chunks : List Json}
    (stays : Stays events renamed (state, [])) (unended : state.completedEmitted = false)
    (translated : state.translateFrom stamp codec chunks = .ok out) :
    PositionsKept (events ++ out) ↔
      (renamed || state.renamesFrom stamp codec chunks) = false := by
  induction chunks generalizing state events renamed out with
  | nil =>
    cases translated
    have placed : Placed state events renamed := by simpa [Stays] using stays
    rw [renamesFrom, Bool.or_false]
    exact finish_positions placed unended
  | cons chunk rest ih =>
    have metered := @metered_stays stamp _ _ _ stays chunk
    have running : ¬ state.completedEmitted = true := by simp [unended]
    simp only [translateFrom] at translated
    split at translated
    · cases translated
    · next next new isNext =>
      split at translated
      · cases translated
      · next later isLater =>
        cases translated
        simp only [renamesFrom, isNext, eventRenames, if_neg running]
        rw [translateEvent, if_neg running] at isNext
        split at isNext
        · next noChoices =>
          cases isNext
          simpa [noChoices] using ih metered unended isLater
        · next noChoice =>
          simp only [noChoice]
          split at isNext
          · have finished : (state.metered stamp chunk).finish stamp codec = (next, new) :=
              Except.ok.inj isNext
            have completed : next.completedEmitted = true := by
              have ended := @finish_completed stamp codec (state.metered stamp chunk)
              rwa [finished] at ended
            -- the stream has ended, so that the chunks behind are not looked at
            have silent := (@translateFrom_completed stamp codec _ completed rest).1
            obtain rfl := Except.ok.inj (silent.symm.trans isLater)
            have kept := @renamesFrom_completed stamp codec _ completed rest
            have placed : Placed (state.metered stamp chunk) events renamed := by
              simpa [Stays] using metered
            have ended := @finish_positions stamp codec _ _ _ placed unended
            rw [finished] at ended
            simpa [kept] using ended
          · cases isNext
            simpa using ih metered unended isLater
        · next choice oneChoice =>
          simp only [oneChoice]
          have chosen := translateChoice_stays metered isNext
          have still : next.completedEmitted = false :=
            ((translateChoice_plain isNext).1).trans unended
          rw [← List.append_assoc, ih chosen.rest still isLater, Bool.or_assoc]
        · cases isNext

end Streams

end ChatToResponsesState

def lateIdChunks : List Json :=
  [deltaChunk [("tool_calls", .array [.object [("index", .ofNat 0), ("id", .string ""),
      ("function", .object [("name", .string "list"), ("arguments", .string "")])]])],
    deltaChunk [("tool_calls", .array [.object [("index", .ofNat 0), ("id", .string "call_1"),
      ("function", .object [("arguments", .string "\x7b\x7d")])]])]]

end ChatGateway
