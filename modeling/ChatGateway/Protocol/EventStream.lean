import ChatGateway.Protocol.EventLifecycle

set_option autoImplicit false

/-!
# Whole Responses streams

A stream that `ChatToResponsesState` emits is well formed exactly when its reasoning never resumes
after output has followed it.
-/

namespace ChatGateway

def ItemComplete (codec : JsonCodec) (fragments : List (Nat × String)) (output : List OutputItem)
    (events : List ResponsesEvent) (index : Nat) : Prop :=
  ∃ channel deltas text listed,
    itemMarks index events =
      openMarks channel deltas ++ [.done channel text, .itemDone channel text] ∧
    output[index]? = some listed ∧ listed.channel = channel ∧ listed.content = text ∧
    (channel = .arguments →
      codec.reads (String.ofList (joined (fragmentsAt index fragments))) = true →
        joined deltas = text.toList ∧ joined (fragmentsAt index fragments) = text.toList) ∧
    (channel ≠ .arguments → joined deltas = text.toList)

/-- The events are numbered from one, the first one and no other creates the response, the last one
and no other ends it, and every item is complete. -/
structure WellFormedStream (codec : JsonCodec) (fragments : List (Nat × String))
    (events : List ResponsesEvent) : Prop where
  numbered : events.map ResponsesEvent.sequenceNumber = List.range' 1 events.length
  opening : ∃ first rest, events = first :: rest ∧ first.body.isCreated = true ∧
    ∀ event ∈ rest, event.body.isCreated = false
  ending : ∃ before last response, events = before ++ [last] ∧
    last.body.terminal? = some response ∧ (∀ event ∈ before, event.body.terminal? = none) ∧
    ∀ index, itemMarks index events ≠ [] →
      ItemComplete codec fragments response.output events index

structure JsonCodec.ReadsTrimmed (codec : JsonCodec) : Prop where
  trimmed : ∀ text : String, codec.reads text = true →
    codec.reads (String.ofList (Text.trim text.toList)) = true
  blank : codec.reads "" = false

theorem normalizeToolArguments_of_reads {codec : JsonCodec} (trims : codec.ReadsTrimmed)
    {raw : String} (reads : codec.reads raw = true) :
    normalizeToolArguments codec raw = (raw, none) := by
  have trimmed := trims.trimmed raw reads
  have nonempty : (Text.trim raw.toList).isEmpty = false := by
    cases empty : Text.trim raw.toList with
    | nil =>
      have blank := trims.blank
      rw [empty] at trimmed
      exact absurd trimmed (by simp [blank])
    | cons => rfl
  unfold JsonCodec.reads at trimmed
  split at trimmed
  · next value found => simp [normalizeToolArguments, nonempty, found]
  · cases trimmed

namespace ChatToResponsesState

variable {stamp : ResponseStamp} {codec : JsonCodec}

theorem emitCallDone_journal {state : ChatToResponsesState} {events : List ResponsesEvent}
    {ledger : Ledger} (journal : Journal true events ledger)
    (count : state.sequenceNumber = events.length) {call : ChatToolCallState} {deltas : List String}
    (opened : ledger call.outputIndex = .opened .arguments deltas) :
    Journal true (events ++ (state.emitCallDone stamp codec call).2)
        (Function.update ledger call.outputIndex
          (.closed .arguments deltas (normalizeToolArguments codec call.arguments).1)) ∧
      (state.emitCallDone stamp codec call).1 =
        { state with sequenceNumber := state.sequenceNumber + 2 } ∧
      (state.emitCallDone stamp codec call).2.length = 2 := by
  refine ⟨?_, rfl, rfl⟩
  simp only [emitCallDone, andThen, push]
  refine journal.move ?_ ?_ ?_
  · simp [Continues, count, List.range'_succ]
  · simp [ResponsesEventBody.mark]
  · simp [opened, ItemPhase.marks, openMarks, itemMarks_cons, ResponsesEventBody.mark,
      OutputItem.channel, OutputItem.content]

theorem emitCallsDone_journal {state : ChatToResponsesState} {events : List ResponsesEvent}
    {ledger : Ledger} (journal : Journal true events ledger)
    (count : state.sequenceNumber = events.length) {calls : List ChatToolCallState}
    (distinct : calls.Pairwise fun first second => first.outputIndex ≠ second.outputIndex)
    (opened : ∀ call ∈ calls, ∃ deltas, ledger call.outputIndex = .opened .arguments deltas) :
    ∃ next, Journal true (events ++ (emitCallsDone stamp codec state calls).2) next ∧
      (emitCallsDone stamp codec state calls).1 =
        { state with
          sequenceNumber :=
            state.sequenceNumber + (emitCallsDone stamp codec state calls).2.length } ∧
      (∀ call ∈ calls, ∀ deltas, ledger call.outputIndex = .opened .arguments deltas →
        next call.outputIndex =
          .closed .arguments deltas (normalizeToolArguments codec call.arguments).1) ∧
      ∀ index, (∀ call ∈ calls, call.outputIndex ≠ index) → next index = ledger index := by
  induction calls generalizing state events ledger with
  | nil => exact ⟨ledger, by simpa [emitCallsDone] using journal, rfl, by simp, by simp⟩
  | cons call rest ih =>
    obtain ⟨apart, later⟩ := List.pairwise_cons.1 distinct
    obtain ⟨deltas, here⟩ := opened call List.mem_cons_self
    obtain ⟨nextJournal, nextState, two⟩ := @emitCallDone_journal stamp codec _ _ _ journal count _ _ here
    have moved := fun other (member : other ∈ rest) =>
      Function.update_of_ne (Ne.symm (apart other member))
        (.closed .arguments deltas (normalizeToolArguments codec call.arguments).1) ledger
    obtain ⟨final, finalJournal, finalState, closed, same⟩ :=
      @ih (state.emitCallDone stamp codec call).1 _ _ nextJournal
        (by rw [nextState, List.length_append, two, count]) later
        (fun other member => by
          rw [moved other member]
          exact opened other (List.mem_cons_of_mem _ member))
    refine ⟨final, ?_, ?_, ?_, ?_⟩
    · rw [emitCallsDone, andThen, ← List.append_assoc]
      exact finalJournal
    · rw [emitCallsDone, andThen, finalState, nextState, List.length_append, two]
      simp [Nat.add_assoc]
    · intro other member others otherOpened
      rcases List.mem_cons.1 member with rfl | member
      · rw [same _ fun later member => Ne.symm (apart later member), Function.update_self]
        rw [here] at otherOpened
        cases otherOpened
        rfl
      · exact closed other member others (by rw [moved other member, otherOpened])
    · intro index none
      rw [same index fun other member => none other (List.mem_cons_of_mem _ member),
        Function.update_of_ne (Ne.symm (none call List.mem_cons_self))]

theorem emitTextDone_journal {state : ChatToResponsesState} {events : List ResponsesEvent}
    {fragments : List (Nat × String)} {ledger : Ledger}
    (tracked : Tracked codec state events fragments ledger) (created : state.createdEmitted = true) :
    ∃ next flag, Journal true (events ++ (state.emitTextDone stamp).2) next ∧
      (state.emitTextDone stamp).1 =
        { state with
          sequenceNumber := state.sequenceNumber + (state.emitTextDone stamp).2.length
          textItemDoneEmitted := flag } ∧
      (∀ index, state.textOutputIndex = some index →
        ∃ deltas, joined deltas = state.text.toList ∧ ledger index = .opened .text deltas ∧
          next index = .closed .text deltas state.text) ∧
      ∀ index, state.textOutputIndex ≠ some index → next index = ledger index := by
  obtain ⟨journal, count, -, agrees⟩ := tracked
  have textAgrees := agrees.text
  have textOpen := agrees.textOpen
  rw [created] at journal
  cases found : state.textOutputIndex with
  | none =>
    simp only [TextAgrees, found] at textAgrees
    have silent : state.emitTextDone stamp = (state, []) := by
      simp [emitTextDone, textAgrees.1]
    rw [silent]
    refine ⟨ledger, state.textItemDoneEmitted, by simpa using journal, ?_, by simp, fun _ _ => rfl⟩
    cases state
    cases found
    rfl
  | some index =>
    simp only [TextAgrees, found] at textAgrees
    obtain ⟨added, deltas, opened, text⟩ := textAgrees
    simp only [emitTextDone, added, textOpen, found, andThen, push]
    refine ⟨Function.update ledger index (.closed .text deltas state.text), true, ?_, rfl, ?_, ?_⟩
    · rw [if_neg (by simp)]
      refine journal.move ?_ ?_ ?_
      · simp [Continues, count, List.range'_succ]
      · simp [ResponsesEventBody.mark]
      · simp [opened, ItemPhase.marks, openMarks, itemMarks_cons, ResponsesEventBody.mark,
          OutputItem.channel, OutputItem.content]
    · rintro _ ⟨⟩
      exact ⟨deltas, text, opened, Function.update_self ..⟩
    · intro other different
      exact Function.update_of_ne (fun same => different (congrArg some same.symm)) ..

/-! ### The items of the completed response -/

theorem mem_outputEntries {state : ChatToResponsesState} {index : Nat} {item : OutputItem} :
    (index, item) ∈ state.outputEntries codec ↔
      (∃ reasoning, state.reasoning = some reasoning ∧ reasoning.startedEmitted = true ∧
        reasoning.outputIndex = index ∧
        item = .reasoning reasoning.itemId (reasoning.doneStatus.getD state.terminalItemStatus)
          (some reasoning.text)) ∨
      (state.textItemAddedEmitted = true ∧ state.textOutputIndex.getD 0 = index ∧
        item = .message (state.textItemId.getD "") state.terminalItemStatus (some state.text)) ∨
      ∃ call ∈ state.toolCalls.values, call.outputIndex = index ∧
        item = .functionCall call.itemId call.callId (state.restoredToolIdentity (call.name.getD "")).1
          (state.restoredToolIdentity (call.name.getD "")).2
          (normalizeToolArguments codec call.arguments).1 state.terminalItemStatus := by
  simp only [outputEntries, List.mem_append, List.mem_map, Prod.mk.injEq]
  rw [or_assoc]
  refine or_congr ?_ (or_congr ?_ ?_)
  · cases state.reasoning with
    | none => simp
    | some reasoning =>
      cases started : reasoning.startedEmitted <;>
        simp [started, @eq_comm _ index, @eq_comm _ item]
  · cases state.textItemAddedEmitted <;> simp [@eq_comm _ index, @eq_comm _ item]
  · simp only [@eq_comm _ item]

theorem mem_values {state : ChatToResponsesState} {call : ChatToolCallState} :
    call ∈ state.toolCalls.values ↔ ∃ key, state.toolCalls.find? key = some call := by
  simp only [OrderedMap.values, List.mem_map, OrderedMap.find?_eq_some]
  constructor
  · rintro ⟨⟨key, _⟩, member, rfl⟩
    exact ⟨key, member⟩
  · rintro ⟨key, member⟩
    exact ⟨(key, call), member, rfl⟩

theorem Agrees.values_distinct {state : ChatToResponsesState} {ledger : Ledger}
    {fragments : List (Nat × String)} (agrees : state.Agrees codec ledger fragments) :
    state.toolCalls.values.Pairwise
      fun first second => first.outputIndex ≠ second.outputIndex := by
  rw [OrderedMap.values, List.pairwise_map]
  refine List.Pairwise.imp_of_mem ?_ state.toolCalls.sorted
  intro first second firstMember secondMember before same
  have equal := agrees.distinct first.1 second.1 first.2 second.2
    (OrderedMap.find?_eq_some.2 firstMember) (OrderedMap.find?_eq_some.2 secondMember) same
  exact absurd before (by rw [equal]; exact lt_irrefl _)

theorem Agrees.output_keys {state : ChatToResponsesState} {ledger : Ledger}
    {fragments : List (Nat × String)} (agrees : state.Agrees codec ledger fragments) (index : Nat) :
    index ∈ (state.outputEntries codec).map (·.1) ↔ index < state.nextOutputIndex := by
  have textAgrees := agrees.text
  constructor
  · intro member
    obtain ⟨⟨_, item⟩, listed, rfl⟩ := List.mem_map.1 member
    refine agrees.ne_absent ?_
    rcases mem_outputEntries.1 listed with ⟨reasoning, found, -, rfl, -⟩ | ⟨added, here, -⟩ |
      ⟨call, value, rfl, -⟩
    · obtain ⟨-, deltas, -, phase⟩ := agrees.reasoning reasoning found
      rw [phase]
      split <;> simp
    · unfold TextAgrees at textAgrees
      split at textAgrees
      · rw [textAgrees.1] at added
        cases added
      · next textIndex found =>
        obtain ⟨-, deltas, opened, -⟩ := textAgrees
        rw [found, Option.getD_some] at here
        rw [← here, opened]
        simp
    · obtain ⟨key, found⟩ := mem_values.1 value
      obtain ⟨-, -, deltas, opened, -⟩ := agrees.calls key call found
      rw [opened]
      simp
  · intro below
    rcases agrees.owned index below with text | ⟨reasoning, found, here⟩ | ⟨key, call, found, here⟩
    · simp only [TextAgrees, text] at textAgrees
      exact List.mem_map.2 ⟨(index, _), mem_outputEntries.2
        (.inr (.inl ⟨textAgrees.1, by simp [text], rfl⟩)), rfl⟩
    · exact List.mem_map.2 ⟨(index, _), mem_outputEntries.2
        (.inl ⟨reasoning, found, (agrees.reasoning reasoning found).1, here, rfl⟩), rfl⟩
    · exact List.mem_map.2 ⟨(index, _), mem_outputEntries.2
        (.inr (.inr ⟨call, mem_values.2 ⟨key, found⟩, here, rfl⟩)), rfl⟩

theorem outputEntries_indices (state : ChatToResponsesState) :
    (state.outputEntries codec).map (·.1) =
      (match state.reasoning with
        | some reasoning => if reasoning.startedEmitted then [reasoning.outputIndex] else []
        | none => []) ++
      ((if state.textItemAddedEmitted then [state.textOutputIndex.getD 0] else []) ++
        state.toolCalls.values.map (·.outputIndex)) := by
  simp only [outputEntries, List.map_append, List.map_map, List.append_assoc]
  congr 1
  · cases state.reasoning with
    | none => rfl
    | some reasoning => cases started : reasoning.startedEmitted <;> simp [started]
  · congr 1
    cases state.textItemAddedEmitted <;> rfl

theorem Agrees.output_nodup {state : ChatToResponsesState} {ledger : Ledger}
    {fragments : List (Nat × String)} (agrees : state.Agrees codec ledger fragments) :
    ((state.outputEntries codec).map (·.1)).Nodup := by
  have calls : (state.toolCalls.values.map (·.outputIndex)).Nodup :=
    List.pairwise_map.2 agrees.values_distinct
  have notCall : ∀ index, (∀ deltas, ledger index ≠ .opened .arguments deltas) →
      index ∉ state.toolCalls.values.map (·.outputIndex) := by
    intro index other member
    obtain ⟨call, value, rfl⟩ := List.mem_map.1 member
    obtain ⟨key, found⟩ := mem_values.1 value
    obtain ⟨-, -, deltas, opened, -⟩ := agrees.calls key call found
    exact other deltas opened
  have message : (((if state.textItemAddedEmitted then [state.textOutputIndex.getD 0] else []) ++
      state.toolCalls.values.map (·.outputIndex)) : List Nat).Nodup := by
    have textAgrees := agrees.text
    unfold TextAgrees at textAgrees
    split at textAgrees
    · simpa [textAgrees.1] using calls
    · next textIndex found =>
      obtain ⟨added, deltas, opened, -⟩ := textAgrees
      simp only [added, if_true, found, Option.getD_some, List.cons_append, List.nil_append]
      exact List.nodup_cons.2 ⟨notCall textIndex (by simp [opened]), calls⟩
  rw [outputEntries_indices]
  cases found : state.reasoning with
  | none => exact message
  | some reasoning =>
    obtain ⟨started, deltas, -, phase⟩ := agrees.reasoning reasoning found
    simp only [started, if_true, List.cons_append, List.nil_append]
    refine List.nodup_cons.2 ⟨?_, message⟩
    have notText : ∀ others, ledger reasoning.outputIndex ≠ .opened .text others := by
      intro others
      rw [phase]
      split <;> simp
    intro member
    rcases List.mem_append.1 member with text | call
    · have textAgrees := agrees.text
      unfold TextAgrees at textAgrees
      split at textAgrees
      · simp [textAgrees.1] at text
      · next textIndex textFound =>
        obtain ⟨added, others, opened, -⟩ := textAgrees
        simp only [added, if_true, textFound, Option.getD_some, List.mem_singleton] at text
        exact notText others (text ▸ opened)
    · refine notCall reasoning.outputIndex ?_ call
      intro others
      rw [phase]
      split <;> simp

theorem Agrees.output_at {state : ChatToResponsesState} {ledger : Ledger}
    {fragments : List (Nat × String)} (agrees : state.Agrees codec ledger fragments) {index : Nat}
    {item : OutputItem} (member : (index, item) ∈ state.outputEntries codec) :
    (state.completedOutputItems codec)[index]? = some item :=
  getElem?_insertionSort agrees.output_nodup agrees.output_keys member

theorem completedOutputItems_ended (state : ChatToResponsesState) (number : Nat) (flag : Bool) :
    ({ state with
        sequenceNumber := number
        textItemDoneEmitted := flag
        toolCalls := state.toolCalls.map fun call => { call with doneEmitted := true } } :
      ChatToResponsesState).completedOutputItems codec = state.completedOutputItems codec := by
  simp only [completedOutputItems, outputEntries, OrderedMap.values, OrderedMap.map, List.map_map]
  rfl

structure Ended (codec : JsonCodec) (state : ChatToResponsesState) (ledger final : Ledger) : Prop where
  reasoning : ∀ reasoning, state.reasoning = some reasoning →
    final reasoning.outputIndex = ledger reasoning.outputIndex
  text : ∀ index, state.textOutputIndex = some index →
    ∃ deltas, joined deltas = state.text.toList ∧ final index = .closed .text deltas state.text
  calls : ∀ key call, state.toolCalls.find? key = some call → ∀ deltas,
    ledger call.outputIndex = .opened .arguments deltas →
      final call.outputIndex =
        .closed .arguments deltas (normalizeToolArguments codec call.arguments).1
  absent : ∀ index, ledger index = .absent → final index = .absent

theorem closing_journal {state : ChatToResponsesState} {events : List ResponsesEvent}
    {fragments : List (Nat × String)} {ledger : Ledger}
    (tracked : Tracked codec state events fragments ledger) (created : state.createdEmitted = true) :
    ∃ final number flag,
      Journal true (events ++
        (andThen (state.emitTextDone stamp) (emitToolCallDone stamp codec)).2) final ∧
      (andThen (state.emitTextDone stamp) (emitToolCallDone stamp codec)).1 =
        { state with
          sequenceNumber := number
          textItemDoneEmitted := flag
          toolCalls := state.toolCalls.map fun call => { call with doneEmitted := true } } ∧
      number = (events ++
        (andThen (state.emitTextDone stamp) (emitToolCallDone stamp codec)).2).length ∧
      Ended codec state ledger final := by
  obtain ⟨texted, flag, textJournal, textState, textClosed, textSame⟩ :=
    @emitTextDone_journal stamp codec _ _ _ _ tracked created
  have agrees := tracked.agrees
  -- No call has ended yet, so all of them are pending.
  have pending : (state.toolCalls.values.filter fun call => !call.doneEmitted) =
      state.toolCalls.values := by
    rw [List.filter_eq_self]
    intro call member
    obtain ⟨key, found⟩ := mem_values.1 member
    simp [(agrees.calls key call found).2.1]
  have notText : ∀ index deltas, ledger index = .opened .arguments deltas →
      texted index = .opened .arguments deltas := by
    intro index deltas opened
    rw [textSame index, opened]
    intro here
    obtain ⟨others, -, isText, -⟩ := textClosed index here
    rw [opened] at isText
    cases isText
  have opened : ∀ call ∈ state.toolCalls.values,
      ∃ deltas, texted call.outputIndex = .opened .arguments deltas := by
    intro call member
    obtain ⟨key, found⟩ := mem_values.1 member
    obtain ⟨-, -, deltas, opened, -⟩ := agrees.calls key call found
    exact ⟨deltas, notText _ _ opened⟩
  let ended : ChatToResponsesState := { state with
    sequenceNumber := state.sequenceNumber + (state.emitTextDone stamp).2.length
    textItemDoneEmitted := flag
    toolCalls := state.toolCalls.map fun call => { call with doneEmitted := true } }
  have emitted : emitToolCallDone stamp codec (state.emitTextDone stamp).1 =
      emitCallsDone stamp codec ended state.toolCalls.values := by
    simp only [emitToolCallDone, textState, pending, ended]
  obtain ⟨final, journal, finalState, closed, same⟩ :=
    @emitCallsDone_journal stamp codec ended _ _ textJournal
      (by simp [ended, tracked.count]) _ agrees.values_distinct opened
  have notCall : ∀ index, (∀ deltas, texted index ≠ .opened .arguments deltas) →
      final index = texted index := by
    intro index other
    refine same index fun call member here => ?_
    obtain ⟨deltas, isCall⟩ := opened call member
    exact other deltas (here ▸ isCall)
  refine ⟨final, _, flag, ?_, ?_, rfl, ?_, ?_, ?_, ?_⟩
  · rw [andThen, emitted, ← List.append_assoc]
    exact journal
  · rw [andThen, emitted, finalState]
    simp only [ended, List.length_append, tracked.count, Nat.add_assoc]
  · intro reasoning found
    obtain ⟨-, deltas, -, phase⟩ := agrees.reasoning reasoning found
    have kept : texted reasoning.outputIndex = ledger reasoning.outputIndex := by
      refine textSame _ fun here => ?_
      obtain ⟨others, -, isText, -⟩ := textClosed _ here
      rw [phase] at isText
      split at isText <;> cases isText
    rw [notCall, kept]
    intro others
    rw [kept, phase]
    split <;> simp
  · intro index here
    obtain ⟨deltas, text, -, closedText⟩ := textClosed index here
    refine ⟨deltas, text, ?_⟩
    rw [notCall index (by simp [closedText]), closedText]
  · intro key call found deltas isOpen
    exact closed call (mem_values.2 ⟨key, found⟩) deltas (notText _ _ isOpen)
  · intro index isAbsent
    have kept : texted index = .absent := by
      rw [textSame index, isAbsent]
      intro here
      obtain ⟨others, -, isText, -⟩ := textClosed _ here
      rw [isAbsent] at isText
      cases isText
    rw [notCall index (by simp [kept]), kept]

theorem Ended.item_complete {state : ChatToResponsesState} {ledger final : Ledger}
    {fragments : List (Nat × String)} (trims : codec.ReadsTrimmed)
    (agrees : state.Agrees codec ledger fragments)
    (reasoned : ∀ reasoning, state.reasoning = some reasoning → reasoning.doneEmitted = true)
    (ended : Ended codec state ledger final) {events : List ResponsesEvent} {index : Nat}
    (marks : itemMarks index events = (final index).marks) (present : itemMarks index events ≠ []) :
    ItemComplete codec fragments (state.completedOutputItems codec) events index := by
  have below : index < state.nextOutputIndex := by
    refine agrees.ne_absent fun absent => present ?_
    rw [marks, ended.absent index absent]
    rfl
  rw [ItemComplete, marks]
  rcases agrees.owned index below with text | ⟨reasoning, found, rfl⟩ | ⟨key, call, found, rfl⟩
  · obtain ⟨deltas, joins, closed⟩ := ended.text index text
    have textAgrees := agrees.text
    simp only [TextAgrees, text] at textAgrees
    have here : state.textOutputIndex.getD 0 = index := by simp [text]
    have listed := agrees.output_at
      (mem_outputEntries.2 (.inr (.inl ⟨textAgrees.1, here, rfl⟩)))
    exact ⟨.text, deltas, state.text, _, by rw [closed]; rfl, listed, rfl, rfl, by simp,
      fun _ => joins⟩
  · obtain ⟨started, deltas, joins, phase⟩ := agrees.reasoning reasoning found
    rw [if_pos (reasoned reasoning found)] at phase
    have listed := agrees.output_at
      (mem_outputEntries.2 (.inl ⟨reasoning, found, started, rfl, rfl⟩))
    exact ⟨.reasoning, deltas, reasoning.text, _,
      by rw [ended.reasoning reasoning found, phase]; rfl, listed, rfl, rfl, by simp, fun _ => joins⟩
  · obtain ⟨-, -, deltas, opened, spelled⟩ := agrees.calls key call found
    have listed := agrees.output_at
      (mem_outputEntries.2 (.inr (.inr ⟨call, mem_values.2 ⟨key, found⟩, rfl, rfl⟩)))
    refine ⟨.arguments, deltas, (normalizeToolArguments codec call.arguments).1, _,
      by rw [ended.calls key call found deltas opened]; rfl, listed, rfl, rfl, ?_, by simp⟩
    intro _ reads
    unfold Spelled at spelled
    split at spelled
    · have unreadable := spelled []
      rw [List.append_nil, reads] at unreadable
      cases unreadable
    · obtain ⟨sent, whole⟩ := spelled
      rw [whole, String.ofList_toList] at reads
      rw [normalizeToolArguments_of_reads trims reads]
      exact ⟨sent, whole⟩

theorem finish_eq {state : ChatToResponsesState} (unended : state.completedEmitted = false) :
    state.finish stamp codec =
      andThen (andThen (andThen (state.emitCreated stamp) (emitReasoningDone stamp)) fun state =>
        andThen (state.emitTextDone stamp) (emitToolCallDone stamp codec))
        (emitTerminal stamp codec) := by
  simp [finish, unended, andThen, List.append_assoc]

theorem terminal_wellFormed {state : ChatToResponsesState} {events : List ResponsesEvent}
    {fragments : List (Nat × String)} {ledger : Ledger} (journal : Journal true events ledger)
    (count : state.sequenceNumber = events.length)
    (items : ∀ index, itemMarks index events ≠ [] →
      ItemComplete codec fragments (state.completedOutputItems codec) events index) :
    WellFormedStream codec fragments (events ++ (state.emitTerminal stamp codec).2) := by
  simp only [emitTerminal, push]
  obtain ⟨first, rest, rfl, created, others⟩ := journal.opening
  refine ⟨?_, ⟨first, rest ++ [_], rfl, created, ?_⟩, ⟨first :: rest, _, _, rfl, rfl,
    journal.unended, ?_⟩⟩
  · rw [List.map_append, journal.numbered, List.map_singleton, count, List.length_append,
      Nat.add_comm (first :: rest).length 1, ← List.range'_append_1]
    simp [List.range'_succ]
  · intro event member
    rcases List.mem_append.1 member with earlier | last
    · exact others event earlier
    · rw [List.mem_singleton.1 last]
      rfl
  · intro index present
    have silent : ∀ number response, itemMarks index [⟨number, .terminal response⟩] = [] :=
      fun _ _ => rfl
    unfold ItemComplete
    rw [itemMarks_append, silent, List.append_nil] at present ⊢
    exact items index present

theorem finish_wellFormed {state : ChatToResponsesState} {events : List ResponsesEvent}
    {fragments : List (Nat × String)} {ledger : Ledger} (trims : codec.ReadsTrimmed)
    (tracked : Tracked codec state events fragments ledger) :
    WellFormedStream codec fragments (events ++ (state.finish stamp codec).2) := by
  obtain ⟨createdTracked, created⟩ := @emitCreated_tracked stamp codec _ _ _ _ tracked
  obtain ⟨reasonedLedger, reasonedTracked, stillCreated, -, reasoned⟩ :=
    @emitReasoningDone_tracked stamp codec _ _ _ _ createdTracked created
  obtain ⟨final, number, flag, journal, closedState, count, ended⟩ :=
    @closing_journal stamp codec _ _ _ _ reasonedTracked stillCreated
  have output := congrArg (completedOutputItems codec) closedState
  rw [completedOutputItems_ended] at output
  have finished := @terminal_wellFormed stamp codec
    (andThen (((state.emitCreated stamp).1.emitReasoningDone stamp).1.emitTextDone stamp)
      (emitToolCallDone stamp codec)).1 _ fragments _ journal
    (by rw [closedState]; exact count)
    (fun index present => by
      rw [output]
      exact ended.item_complete trims reasonedTracked.agrees reasoned (journal.marks index) present)
  rw [finish_eq tracked.unended]
  simp only [andThen, List.append_assoc] at finished ⊢
  exact finished

def fragmentIndex (state : ChatToResponsesState) (key : Nat) : Nat :=
  ((state.toolCalls.find? key).map (·.outputIndex)).getD state.nextOutputIndex

theorem fragmentEntry_outputIndex (state : ChatToResponsesState) (key : Nat) (callId : String)
    (name : Option String) :
    (state.fragmentEntry key callId name).outputIndex = state.fragmentIndex key := by
  cases found : state.toolCalls.find? key <;> simp [fragmentEntry, fragmentIndex, found]

section Fragments

variable (stamp : ResponseStamp) (codec : JsonCodec)

def toolCallFragment (state : ChatToResponsesState) (toolCall : Json) (position : Nat) :
    List (Nat × String) :=
  match toolCall.asObject.bind fun object =>
    (extractToolCallDetails object).map fun details => (object, details) with
  | none => []
  | some (object, name, arguments) =>
    [(state.fragmentIndex (state.toolCallKey object (callIdHint object) name position), arguments)]

def toolCallFragments (state : ChatToResponsesState) (position : Nat) :
    List Json → List (Nat × String)
  | [] => []
  | toolCall :: rest =>
    let begun := (state.beginOutput stamp).1
    begun.toolCallFragment toolCall position ++
      match begun.emitChatToolCallDelta stamp codec toolCall position with
      | .error _ => []
      | .ok emitted => toolCallFragments emitted.1 (position + 1) rest

def functionCallFragments (state : ChatToResponsesState) (delta : Json) : List (Nat × String) :=
  match (delta.get "function_call").bind Json.asObject with
  | none => []
  | some object =>
    [((state.beginOutput stamp).1.fragmentIndex 0,
      ((Json.field object "arguments").bind Json.asStr).getD "")]

def choiceFragments (state : ChatToResponsesState) (choice : Json) : List (Nat × String) :=
  let delta := (choice.get "delta").getD .null
  let toolCalls := ((delta.get "tool_calls").bind Json.asArray).getD []
  match (state.translateReasoning stamp delta).1.translateContent stamp delta with
  | .error _ => []
  | .ok texted =>
    texted.1.toolCallFragments stamp codec 0 toolCalls ++
      match texted.1.translateToolCalls stamp codec 0 toolCalls with
      | .error _ => []
      | .ok called => called.1.functionCallFragments stamp delta

def eventFragments (state : ChatToResponsesState) (event : Json) : List (Nat × String) :=
  if state.completedEmitted then []
  else
    match (event.get "choices").bind Json.asArray with
    | some [choice] => (state.metered stamp event).choiceFragments stamp codec choice
    | _ => []

def fragmentsFrom : ChatToResponsesState → List Json → List (Nat × String)
  | _, [] => []
  | state, chunk :: rest =>
    state.eventFragments stamp codec chunk ++
      match state.translateEvent stamp codec chunk with
      | .error _ => []
      | .ok (next, _) => fragmentsFrom next rest

end Fragments

end ChatToResponsesState

inductive ReasoningPhase where
  | absent
  | opened
  | closed
deriving DecidableEq

namespace ReasoningPhase

def started (phase : ReasoningPhase) : ReasoningPhase :=
  if phase = .absent then .opened else phase

def ended (phase : ReasoningPhase) : ReasoningPhase :=
  if phase = .opened then .closed else phase

end ReasoningPhase

def deltaReasons (delta : Json) : Bool :=
  (delta.str "reasoning_content").any (· ≠ "")

def contentOutputs (delta : Json) : Bool :=
  (delta.get "content").any fun content =>
    match contentToPlainText content with
    | .ok text => text ≠ ""
    | .error _ => false

/-- The delta carries a nonempty text, an element of `tool_calls` or a `function_call`. -/
def deltaOutputs (delta : Json) : Bool :=
  contentOutputs delta ||
    !(((delta.get "tool_calls").bind Json.asArray).getD []).isEmpty ||
    (delta.get "function_call").isSome

theorem ReasoningPhase.ended_ended (phase : ReasoningPhase) : phase.ended.ended = phase.ended := by
  cases phase <;> rfl

def afterReasoning (phase : ReasoningPhase) (delta : Json) : ReasoningPhase :=
  if deltaReasons delta then phase.started else phase

def afterDelta (phase : ReasoningPhase) (delta : Json) : ReasoningPhase :=
  if deltaOutputs delta then (afterReasoning phase delta).ended else afterReasoning phase delta

/-- No reasoning comes after reasoning that output has followed, up to the chunk that ends the
stream. -/
def ReasoningStaysClosed : ReasoningPhase → List Json → Prop
  | _, [] => True
  | phase, chunk :: rest =>
    match (chunk.get "choices").bind Json.asArray with
    | some [] =>
      (ChatToResponsesState.chunkUsage chunk).isSome ∨ ReasoningStaysClosed phase rest
    | some [choice] =>
      let delta := (choice.get "delta").getD .null
      ¬ (phase = .closed ∧ deltaReasons delta = true) ∧
        ReasoningStaysClosed (afterDelta phase delta) rest
    | _ => ReasoningStaysClosed phase rest

instance decidableReasoningStaysClosed : (phase : ReasoningPhase) → (chunks : List Json) →
    Decidable (ReasoningStaysClosed phase chunks)
  | _, [] => .isTrue trivial
  | phase, chunk :: rest =>
    have := fun phase => decidableReasoningStaysClosed phase rest
    match choices : (chunk.get "choices").bind Json.asArray with
    | none =>
      decidable_of_iff (ReasoningStaysClosed phase rest) (by simp [ReasoningStaysClosed, choices])
    | some [] =>
      decidable_of_iff
        ((ChatToResponsesState.chunkUsage chunk).isSome ∨ ReasoningStaysClosed phase rest)
        (by simp [ReasoningStaysClosed, choices])
    | some [choice] =>
      decidable_of_iff
        (¬ (phase = .closed ∧ deltaReasons ((choice.get "delta").getD .null) = true) ∧
          ReasoningStaysClosed (afterDelta phase ((choice.get "delta").getD .null)) rest)
        (by simp [ReasoningStaysClosed, choices])
    | some (_ :: _ :: _) =>
      decidable_of_iff (ReasoningStaysClosed phase rest) (by simp [ReasoningStaysClosed, choices])

namespace ChatToResponsesState

variable {stamp : ResponseStamp} {codec : JsonCodec}

def reasoningPhase (state : ChatToResponsesState) : ReasoningPhase :=
  match state.reasoning with
  | none => .absent
  | some reasoning => if reasoning.doneEmitted then .closed else .opened

def Keeps (codec : JsonCodec) (events : List ResponsesEvent) (fragments : List (Nat × String))
    (phase : ReasoningPhase) (result : Emitted) : Prop :=
  ∃ ledger, Tracked codec result.1 (events ++ result.2) fragments ledger ∧
    result.1.reasoningPhase = phase

theorem Keeps.rest {events : List ResponsesEvent} {fragments : List (Nat × String)}
    {phase : ReasoningPhase} {result : Emitted} (kept : Keeps codec events fragments phase result) :
    Keeps codec (events ++ result.2) fragments phase (result.1, []) := by
  obtain ⟨ledger, tracked, same⟩ := kept
  exact ⟨ledger, by simpa using tracked, same⟩

theorem Keeps.append {events new : List ResponsesEvent} {fragments : List (Nat × String)}
    {phase : ReasoningPhase} {result : Emitted}
    (kept : Keeps codec (events ++ new) fragments phase result) :
    Keeps codec events fragments phase (result.1, new ++ result.2) := by
  obtain ⟨ledger, tracked, same⟩ := kept
  exact ⟨ledger, by simpa using tracked, same⟩

theorem beginOutput_keeps {state : ChatToResponsesState} {events : List ResponsesEvent}
    {fragments : List (Nat × String)} {phase : ReasoningPhase}
    (kept : Keeps codec events fragments phase (state, [])) :
    Keeps codec events fragments phase.ended (state.beginOutput stamp) ∧
      (state.beginOutput stamp).1.createdEmitted = true := by
  obtain ⟨ledger, tracked, rfl⟩ := kept
  rw [List.append_nil] at tracked
  obtain ⟨createdTracked, created⟩ := @emitCreated_tracked stamp codec _ _ _ _ tracked
  obtain ⟨next, reasonedTracked, stillCreated, same, closed⟩ :=
    @emitReasoningDone_tracked stamp codec _ _ _ _ createdTracked created
  have unchanged : (state.emitCreated stamp).1.reasoning = state.reasoning := by
    unfold emitCreated
    split <;> rfl
  refine ⟨⟨next, by simpa [beginOutput, andThen] using reasonedTracked, ?_⟩, stillCreated⟩
  rw [unchanged] at same
  simp only [beginOutput, andThen, reasoningPhase]
  cases after : ((state.emitCreated stamp).1.emitReasoningDone stamp).1.reasoning with
  | none =>
    cases before : state.reasoning with
    | none => rfl
    | some reasoning => simp [after, before] at same
  | some reasoning =>
    cases before : state.reasoning with
    | none => simp [after, before] at same
    | some earlier =>
      simp only [closed reasoning after, if_true]
      split <;> rfl

theorem translateReasoning_keeps {state : ChatToResponsesState} {events : List ResponsesEvent}
    {fragments : List (Nat × String)} {phase : ReasoningPhase} {delta : Json}
    (kept : Keeps codec events fragments phase (state, []))
    (allowed : ¬ (phase = .closed ∧ deltaReasons delta = true)) :
    Keeps codec events fragments (afterReasoning phase delta)
      (state.translateReasoning stamp delta) := by
  cases given : delta.str "reasoning_content" with
  | none => simpa [translateReasoning, afterReasoning, deltaReasons, given] using kept
  | some text =>
    by_cases empty : text = ""
    · simpa [translateReasoning, afterReasoning, deltaReasons, given, empty] using kept
    · have reasons : deltaReasons delta = true := by simp [deltaReasons, given, empty]
      obtain ⟨ledger, tracked, rfl⟩ := kept
      rw [List.append_nil] at tracked
      obtain ⟨createdTracked, created⟩ := @emitCreated_tracked stamp codec _ _ _ _ tracked
      have unchanged : (state.emitCreated stamp).1.reasoning = state.reasoning := by
        unfold emitCreated
        split <;> rfl
      have unclosed : ∀ reasoning, (state.emitCreated stamp).1.reasoning = some reasoning →
          reasoning.doneEmitted = false := by
        intro reasoning found
        rw [unchanged] at found
        by_contra closed
        exact allowed ⟨by simp [reasoningPhase, found, closed], reasons⟩
      obtain ⟨next, nextTracked, -, reasoning, found, undone⟩ :=
        @emitReasoningDelta_tracked stamp codec _ _ _ _ createdTracked created unclosed text
      refine ⟨next, by simpa [translateReasoning, given, empty, andThen] using nextTracked, ?_⟩
      have phase : (state.translateReasoning stamp delta).1.reasoningPhase = .opened := by
        simp [translateReasoning, given, empty, andThen, reasoningPhase, found, undone]
      rw [phase, afterReasoning, if_pos reasons, ReasoningPhase.started]
      split
      · rfl
      · next present =>
        cases before : state.reasoning with
        | none => simp [reasoningPhase, before] at present
        | some earlier =>
          have undoneBefore := unclosed earlier (unchanged.trans before)
          simp [reasoningPhase, before, undoneBefore]

theorem translateContent_keeps {state : ChatToResponsesState} {events : List ResponsesEvent}
    {fragments : List (Nat × String)} {phase : ReasoningPhase} {delta : Json} {result : Emitted}
    (kept : Keeps codec events fragments phase (state, []))
    (translated : state.translateContent stamp delta = .ok result) :
    Keeps codec events fragments (if contentOutputs delta then phase.ended else phase) result := by
  cases given : delta.get "content" with
  | none =>
    simp only [translateContent, given] at translated
    cases translated
    simpa [contentOutputs, given] using kept
  | some content =>
    simp only [translateContent, given] at translated
    cases null : content.isNull with
    | true =>
      rw [null, if_pos rfl] at translated
      cases translated
      cases content <;> simp [Json.isNull] at null
      simpa [contentOutputs, given, contentToPlainText] using kept
    | false =>
      rw [null, if_neg (by simp)] at translated
      split at translated
      · cases translated
      · next text plain =>
        split at translated
        · next empty =>
          cases translated
          simpa [contentOutputs, given, plain, empty] using kept
        · next nonempty =>
          cases translated
          obtain ⟨⟨ledger, tracked, same⟩, created⟩ := @beginOutput_keeps stamp codec _ _ _ _ kept
          obtain ⟨next, nextTracked, -, reasoning⟩ :=
            @emitTextDelta_tracked stamp codec _ _ _ _ tracked created text
          rw [contentOutputs, given]
          simp only [Option.any_some, plain, ne_eq, nonempty, not_false_eq_true, decide_true, if_true]
          refine ⟨next, by simpa [andThen] using nextTracked, ?_⟩
          rw [← same]
          simp [andThen, reasoningPhase, reasoning]

theorem emitFragment_keeps {state : ChatToResponsesState} {events : List ResponsesEvent}
    {fragments : List (Nat × String)} {phase : ReasoningPhase} (separates : codec.Separates)
    (kept : Keeps codec events fragments phase (state, []))
    (created : state.createdEmitted = true) (key : Nat) (callId : String) (name : Option String)
    (arguments : String) (restore : String → String × Option String) :
    Keeps codec events (fragments ++ [(state.fragmentIndex key, arguments)]) phase
      (state.emitFragment stamp codec key callId name arguments restore) := by
  obtain ⟨ledger, tracked, rfl⟩ := kept
  rw [List.append_nil] at tracked
  obtain ⟨next, nextTracked, -, reasoning⟩ := @emitFragment_tracked stamp codec _ _ _ _ separates
    tracked created key callId name arguments restore
  rw [fragmentEntry_outputIndex] at nextTracked
  exact ⟨next, nextTracked, by simp [reasoningPhase, reasoning]⟩

theorem emitChatToolCallDelta_keeps {state : ChatToResponsesState} {events : List ResponsesEvent}
    {fragments : List (Nat × String)} {phase : ReasoningPhase} {toolCall : Json} {position : Nat}
    {result : Emitted} (separates : codec.Separates)
    (kept : Keeps codec events fragments phase (state, []))
    (created : state.createdEmitted = true)
    (emitted : state.emitChatToolCallDelta stamp codec toolCall position = .ok result) :
    Keeps codec events (fragments ++ state.toolCallFragment toolCall position) phase result := by
  unfold emitChatToolCallDelta at emitted
  split at emitted
  · cases emitted
  · next object isObject =>
    split at emitted
    · next nothing =>
      cases emitted
      simpa [toolCallFragment, isObject, nothing] using kept
    · next name arguments details =>
      cases emitted
      have fragment : state.toolCallFragment toolCall position =
          [(state.fragmentIndex (state.toolCallKey object (callIdHint object) name position),
            arguments)] := by
        simp [toolCallFragment, isObject, details]
      rw [fragment]
      exact emitFragment_keeps separates kept created ..

theorem translateToolCalls_keeps {state : ChatToResponsesState} {events : List ResponsesEvent}
    {fragments : List (Nat × String)} {phase : ReasoningPhase} {toolCalls : List Json}
    {position : Nat} {result : Emitted} (separates : codec.Separates)
    (kept : Keeps codec events fragments phase (state, []))
    (translated : state.translateToolCalls stamp codec position toolCalls = .ok result) :
    Keeps codec events (fragments ++ state.toolCallFragments stamp codec position toolCalls)
      (if toolCalls.isEmpty then phase else phase.ended) result := by
  induction toolCalls generalizing state events fragments phase position result with
  | nil =>
    cases translated
    simpa [toolCallFragments] using kept
  | cons toolCall rest ih =>
    simp only [translateToolCalls] at translated
    obtain ⟨begun, created⟩ := @beginOutput_keeps stamp codec _ _ _ _ kept
    split at translated
    · cases translated
    · next emitted isEmitted =>
      have keptCall := emitChatToolCallDelta_keeps separates begun.rest created isEmitted
      split at translated
      · cases translated
      · next later isLater =>
        cases translated
        have keptLater := ih keptCall.rest isLater
        rw [ReasoningPhase.ended_ended, ite_self] at keptLater
        simpa [toolCallFragments, isEmitted, List.append_assoc] using keptLater.append.append

theorem translateFunctionCall_keeps {state : ChatToResponsesState} {events : List ResponsesEvent}
    {fragments : List (Nat × String)} {phase : ReasoningPhase} {delta : Json} {result : Emitted}
    (separates : codec.Separates) (kept : Keeps codec events fragments phase (state, []))
    (translated : state.translateFunctionCall stamp codec delta = .ok result) :
    Keeps codec events (fragments ++ state.functionCallFragments stamp delta)
      (if (delta.get "function_call").isSome then phase.ended else phase) result := by
  cases given : delta.get "function_call" with
  | none =>
    simp only [translateFunctionCall, given] at translated
    cases translated
    simpa [functionCallFragments, given] using kept
  | some functionCall =>
    simp only [translateFunctionCall, given] at translated
    obtain ⟨begun, created⟩ := @beginOutput_keeps stamp codec _ _ _ _ kept
    split at translated
    · cases translated
    · next emitted isEmitted =>
      cases translated
      unfold emitChatFunctionCallDelta at isEmitted
      split at isEmitted
      · cases isEmitted
      · next object isObject =>
        split at isEmitted
        · cases isEmitted
        · split at isEmitted
          · cases isEmitted
          · cases isEmitted
            have fragment : state.functionCallFragments stamp delta =
                [((state.beginOutput stamp).1.fragmentIndex 0,
                  ((Json.field object "arguments").bind Json.asStr).getD "")] := by
              simp [functionCallFragments, given, isObject]
            rw [fragment]
            exact (emitFragment_keeps separates begun.rest created ..).append

theorem emitCreated_keeps {state : ChatToResponsesState} {events : List ResponsesEvent}
    {fragments : List (Nat × String)} {phase : ReasoningPhase}
    (kept : Keeps codec events fragments phase (state, [])) :
    Keeps codec events fragments phase (state.emitCreated stamp) := by
  obtain ⟨ledger, tracked, rfl⟩ := kept
  rw [List.append_nil] at tracked
  refine ⟨ledger, (emitCreated_tracked tracked).1, ?_⟩
  unfold emitCreated
  split <;> rfl

theorem translateEnd_keeps {state : ChatToResponsesState} {events : List ResponsesEvent}
    {fragments : List (Nat × String)} {phase : ReasoningPhase} (choice delta : Json)
    (kept : Keeps codec events fragments phase (state, [])) :
    Keeps codec events fragments phase (state.translateEnd stamp choice delta) := by
  have introduced : Keeps codec events fragments phase
      (if (delta.str "role").isSome then state.emitCreated stamp else (state, [])) := by
    split
    · exact emitCreated_keeps kept
    · exact kept
  cases reason : choice.str "finish_reason" with
  | none => simpa only [translateEnd, reason] using introduced
  | some finishReason =>
    simp only [translateEnd, reason]
    generalize (if (delta.str "role").isSome then state.emitCreated stamp else (state, [])) =
      begun at introduced
    obtain ⟨ledger, tracked, same⟩ := introduced.rest
    have ended := @emitCreated_keeps stamp codec
      { begun.1 with incompleteReason := responsesIncompleteReason (some finishReason) } _ fragments
      phase ⟨ledger, ⟨tracked.journal, tracked.count, tracked.unended,
        tracked.agrees.of_same rfl rfl rfl rfl rfl rfl rfl⟩, same⟩
    exact ended.append

theorem translateChoice_keeps {state : ChatToResponsesState} {events : List ResponsesEvent}
    {fragments : List (Nat × String)} {phase : ReasoningPhase} {choice : Json} {result : Emitted}
    (separates : codec.Separates) (kept : Keeps codec events fragments phase (state, []))
    (allowed : ¬ (phase = .closed ∧ deltaReasons ((choice.get "delta").getD .null) = true))
    (translated : state.translateChoice stamp codec choice = .ok result) :
    Keeps codec events (fragments ++ state.choiceFragments stamp codec choice)
      (afterDelta phase ((choice.get "delta").getD .null)) result := by
  simp only [translateChoice] at translated
  simp only [choiceFragments]
  generalize (choice.get "delta").getD .null = delta at *
  have reasoned := @translateReasoning_keeps stamp codec _ _ _ _ _ kept allowed
  split at translated
  · cases translated
  · next texted isTexted =>
    have keptText := translateContent_keeps reasoned.rest isTexted
    split at translated
    · cases translated
    · next called isCalled =>
      have keptCalls := translateToolCalls_keeps separates keptText.rest isCalled
      split at translated
      · cases translated
      · next functioned isFunctioned =>
        have keptFunction := translateFunctionCall_keeps separates keptCalls.rest isFunctioned
        cases translated
        have keptEnd := @translateEnd_keeps stamp codec _ _ _ _ choice delta keptFunction.rest
        have phases : (if (delta.get "function_call").isSome then
            (if (((delta.get "tool_calls").bind Json.asArray).getD []).isEmpty then
              (if contentOutputs delta then (afterReasoning phase delta).ended
                else afterReasoning phase delta)
              else (if contentOutputs delta then (afterReasoning phase delta).ended
                else afterReasoning phase delta).ended).ended
            else (if (((delta.get "tool_calls").bind Json.asArray).getD []).isEmpty then
              (if contentOutputs delta then (afterReasoning phase delta).ended
                else afterReasoning phase delta)
              else (if contentOutputs delta then (afterReasoning phase delta).ended
                else afterReasoning phase delta).ended)) = afterDelta phase delta := by
          cases function : (delta.get "function_call").isSome <;>
            cases calls : (((delta.get "tool_calls").bind Json.asArray).getD []).isEmpty <;>
            cases content : contentOutputs delta <;>
            simp [afterDelta, deltaOutputs, function, calls, content, ReasoningPhase.ended_ended]
        rw [phases] at keptEnd
        simpa [isTexted, isCalled, List.append_assoc] using
          keptEnd.append.append.append.append

theorem metered_keeps {state : ChatToResponsesState} {events : List ResponsesEvent}
    {fragments : List (Nat × String)} {phase : ReasoningPhase} (event : Json)
    (kept : Keeps codec events fragments phase (state, [])) :
    Keeps codec events fragments phase (state.metered stamp event, []) := by
  obtain ⟨ledger, tracked, same⟩ := kept
  exact ⟨ledger, ⟨tracked.journal, tracked.count, tracked.unended,
    tracked.agrees.of_same rfl rfl rfl rfl rfl rfl rfl⟩, same⟩

theorem Keeps.unended {events : List ResponsesEvent} {fragments : List (Nat × String)}
    {phase : ReasoningPhase} {result : Emitted} (kept : Keeps codec events fragments phase result) :
    result.1.completedEmitted = false := by
  obtain ⟨ledger, tracked, -⟩ := kept
  exact tracked.unended

theorem finish_completed (state : ChatToResponsesState) :
    (state.finish stamp codec).1.completedEmitted = true := by
  cases completed : state.completedEmitted with
  | true => simp [finish, completed]
  | false => simp [finish, completed, andThen, emitTerminal]

theorem translateFrom_completed {state : ChatToResponsesState}
    (completed : state.completedEmitted = true) (chunks : List Json) :
    state.translateFrom stamp codec chunks = .ok [] ∧
      state.fragmentsFrom stamp codec chunks = [] := by
  have step : ∀ chunk, state.translateEvent stamp codec chunk = .ok (state, []) := fun chunk => by
    rw [translateEvent, if_pos completed]
  induction chunks with
  | nil => simp [translateFrom, fragmentsFrom, finish, completed]
  | cons chunk rest ih =>
    simp [translateFrom, fragmentsFrom, step, eventFragments, completed, ih]

theorem not_complete_of_more {channel other : Channel} {deltas others : List String}
    {text done : String} {mark : ItemMark} {more : List ItemMark} :
    (openMarks channel deltas ++ [.done channel text, .itemDone channel text]) ++ mark :: more ≠
      openMarks other others ++ [.done other done, .itemDone other done] := by
  intro same
  have ends : ItemMark.itemDone channel text ∈ (openMarks other others ++ [.done other done]) := by
    have last := congrArg List.dropLast same
    rw [List.dropLast_append_of_ne_nil (List.cons_ne_nil mark more)] at last
    have split : openMarks other others ++ [.done other done, .itemDone other done] =
        (openMarks other others ++ [.done other done]) ++ [.itemDone other done] := by simp
    rw [split, List.dropLast_concat] at last
    rw [← last]
    simp
  simp [openMarks] at ends

theorem resumed_not_wellFormed {state : ChatToResponsesState} {events more : List ResponsesEvent}
    {fragments total : List (Nat × String)} {delta : Json}
    (kept : Keeps codec events fragments .closed (state, []))
    (reasons : deltaReasons delta = true) :
    ¬ WellFormedStream codec total
      (events ++ ((state.translateReasoning stamp delta).2 ++ more)) := by
  intro wellFormed
  obtain ⟨ledger, tracked, closed⟩ := kept
  rw [List.append_nil] at tracked
  cases found : state.reasoning with
  | none => simp [reasoningPhase, found] at closed
  | some reasoning =>
    have done : reasoning.doneEmitted = true := by
      by_contra undone
      simp [reasoningPhase, found, undone] at closed
    obtain ⟨started, deltas, -, phase⟩ := tracked.agrees.reasoning reasoning found
    rw [if_pos done] at phase
    cases given : delta.str "reasoning_content" with
    | none => simp [deltaReasons, given] at reasons
    | some text =>
      have nonempty : text ≠ "" := by simpa [deltaReasons, given] using reasons
      -- The delta goes to the item that was already done.
      have resumed : itemMarks reasoning.outputIndex (state.translateReasoning stamp delta).2 =
          [.delta .reasoning text] := by
        have unchanged : (state.emitCreated stamp).1.reasoning = some reasoning := by
          unfold emitCreated
          split <;> exact found
        have silent : itemMarks reasoning.outputIndex (state.emitCreated stamp).2 = [] := by
          unfold emitCreated
          split <;> rfl
        simp only [translateReasoning, given, nonempty, if_false, andThen, itemMarks_append, silent,
          emitReasoningDelta, unchanged, started, if_true, push]
        simp [itemMarks_cons, ResponsesEventBody.mark]
      have marks : itemMarks reasoning.outputIndex
          (events ++ ((state.translateReasoning stamp delta).2 ++ more)) =
          (openMarks .reasoning deltas ++
            [.done .reasoning reasoning.text, .itemDone .reasoning reasoning.text]) ++
            .delta .reasoning text :: itemMarks reasoning.outputIndex more := by
        rw [itemMarks_append, itemMarks_append, resumed, tracked.journal.marks, phase]
        rfl
      obtain ⟨before, last, response, -, -, -, items⟩ := wellFormed.ending
      obtain ⟨channel, others, ended, listed, complete, -⟩ :=
        items reasoning.outputIndex (by rw [marks]; simp [openMarks])
      rw [marks] at complete
      exact not_complete_of_more complete

theorem translateChoice_reasons_first {state next : ChatToResponsesState} {choice : Json}
    {new : List ResponsesEvent}
    (translated : state.translateChoice stamp codec choice = .ok (next, new)) :
    ∃ more, new =
      (state.translateReasoning stamp ((choice.get "delta").getD .null)).2 ++ more := by
  simp only [translateChoice] at translated
  split at translated
  · cases translated
  · split at translated
    · cases translated
    · split at translated
      · cases translated
      · cases translated
        simp only [List.append_assoc]
        exact ⟨_, rfl⟩

theorem translateFrom_wellFormed_iff {state : ChatToResponsesState} {events out : List ResponsesEvent}
    {fragments : List (Nat × String)} {phase : ReasoningPhase} {chunks : List Json}
    (separates : codec.Separates) (trims : codec.ReadsTrimmed)
    (kept : Keeps codec events fragments phase (state, []))
    (translated : state.translateFrom stamp codec chunks = .ok out) :
    WellFormedStream codec (fragments ++ state.fragmentsFrom stamp codec chunks) (events ++ out) ↔
      ReasoningStaysClosed phase chunks := by
  induction chunks generalizing state events fragments phase out with
  | nil =>
    cases translated
    obtain ⟨ledger, tracked, -⟩ := kept
    rw [List.append_nil] at tracked
    simp only [fragmentsFrom, List.append_nil, ReasoningStaysClosed, iff_true]
    exact finish_wellFormed trims tracked
  | cons chunk rest ih =>
    have unended : ¬ state.completedEmitted = true := by
      have undone : state.completedEmitted = false := kept.unended
      simp [undone]
    have metered := @metered_keeps stamp codec _ _ _ _ chunk kept
    simp only [translateFrom] at translated
    split at translated
    · cases translated
    · next next new isNext =>
      split at translated
      · cases translated
      · next later isLater =>
        cases translated
        simp only [fragmentsFrom, isNext, eventFragments, if_neg unended]
        rw [translateEvent, if_neg unended] at isNext
        rw [ReasoningStaysClosed]
        split at isNext
        · next noChoices =>
          cases isNext
          simpa [noChoices] using ih metered isLater
        · next noChoice =>
          simp only [noChoice]
          split at isNext
          · next used =>
            have finished : (state.metered stamp chunk).finish stamp codec = (next, new) :=
              Except.ok.inj isNext
            have completed : next.completedEmitted = true := by
              have := @finish_completed stamp codec (state.metered stamp chunk)
              rwa [finished] at this
            -- Nothing is emitted after the chunk that ends the stream.
            obtain ⟨silent, none⟩ := @translateFrom_completed stamp codec _ completed rest
            obtain rfl := Except.ok.inj (silent.symm.trans isLater)
            obtain ⟨ledger, tracked, -⟩ := metered
            rw [List.append_nil] at tracked
            have wellFormed := @finish_wellFormed stamp codec _ _ _ _ trims tracked
            rw [finished] at wellFormed
            simpa [none, used] using wellFormed
          · next unused =>
            cases isNext
            simpa [unused] using ih metered isLater
        · next choice oneChoice =>
          simp only [oneChoice]
          by_cases allowed : phase = .closed ∧
              deltaReasons ((choice.get "delta").getD .null) = true
          · obtain ⟨rfl, reasons⟩ := allowed
            obtain ⟨more, rfl⟩ := translateChoice_reasons_first isNext
            have broken := @resumed_not_wellFormed stamp codec _ _ (more ++ later) _
              (fragments ++ ((state.metered stamp chunk).choiceFragments stamp codec choice ++
                next.fragmentsFrom stamp codec rest)) _ metered reasons
            simp only [List.append_assoc, reasons, and_self, not_true, false_and, iff_false]
            exact broken
          · have keptChoice := translateChoice_keeps separates metered allowed isNext
            rw [← List.append_assoc, ← List.append_assoc, ih keptChoice.rest isLater]
            simp [allowed]
        · cases isNext

end ChatToResponsesState

open ChatToResponsesState in
theorem event_stream_well_formed_iff (stamp : ResponseStamp) (codec : JsonCodec)
    (toolRegistry : Option ToolAdapterRegistry) (toolCallMergeStrict : Bool) (chunks : List Json)
    (events : List ResponsesEvent) (separates : codec.Separates) (trims : codec.ReadsTrimmed)
    (accepted : translateFrom stamp codec { toolRegistry, toolCallMergeStrict } chunks =
      .ok events) :
    WellFormedStream codec
        (fragmentsFrom stamp codec { toolRegistry, toolCallMergeStrict } chunks) events ↔
      ReasoningStaysClosed .absent chunks := by
  have start : Keeps codec [] [] .absent ({ toolRegistry, toolCallMergeStrict }, []) :=
    ⟨_, Tracked.start toolRegistry toolCallMergeStrict, rfl⟩
  simpa using translateFrom_wellFormed_iff separates trims start accepted

def deltaChunk (delta : List (String × Json)) : Json :=
  .object [("choices", .array [.object [("index", .ofNat 0), ("delta", .object delta)]])]

/-- Reads `\x7b\x7d` and nothing else. -/
def emptyObjectCodec : JsonCodec :=
  serdeCodec fun text =>
    if text = "\x7b\x7d" then [some (.object [])] else if text = "" then [] else [none]

theorem emptyObjectCodec_reads {text : String} :
    emptyObjectCodec.reads text = true ↔ text = "\x7b\x7d" := by
  unfold emptyObjectCodec JsonCodec.reads serdeCodec
  by_cases whole : text = "\x7b\x7d"
  · simp [whole]
  · by_cases empty : text = "" <;> simp [whole, empty]

theorem emptyObjectCodec_separates : emptyObjectCodec.Separates := by
  intro value rest whole opens
  rw [emptyObjectCodec_reads] at whole
  subst whole
  rw [Bool.eq_false_iff, Ne, emptyObjectCodec_reads]
  intro same
  have blank : rest = "" := by
    have length := congrArg String.length same
    rw [String.length_append] at length
    exact String.length_eq_zero_iff.1 (by simpa using length)
  subst blank
  revert opens
  decide

theorem emptyObjectCodec_readsTrimmed : emptyObjectCodec.ReadsTrimmed where
  trimmed := by
    intro text whole
    rw [emptyObjectCodec_reads] at whole
    subst whole
    decide
  blank := by decide

def callingChunks : List Json :=
  [deltaChunk [("reasoning_content", .string "Let me look.")],
    deltaChunk [("content", .string "Looking.")],
    deltaChunk [("tool_calls", .array [.object [("index", .ofNat 0), ("id", .string "call_1"),
      ("function", .object [("name", .string "list"), ("arguments", .string "\x7b")])]])],
    deltaChunk [("tool_calls", .array [.object [("index", .ofNat 0),
      ("function", .object [("arguments", .string "\x7d")])]])]]

def exampleStamp : ResponseStamp :=
  ⟨"resp_1", "rs_1", "msg_1", fun index => "call_" ++ toString index, 0⟩

theorem event_stream_well_formed_calling :
    ∃ events, ChatToResponsesState.translateFrom exampleStamp emptyObjectCodec {} callingChunks =
        .ok events ∧
      WellFormedStream emptyObjectCodec
        (ChatToResponsesState.fragmentsFrom exampleStamp emptyObjectCodec {} callingChunks)
        events := by
  cases accepted : ChatToResponsesState.translateFrom exampleStamp emptyObjectCodec {}
    callingChunks with
  | error error =>
    have fine : (ChatToResponsesState.translateFrom exampleStamp emptyObjectCodec {}
      callingChunks).isOk = true := by decide +kernel
    rw [accepted] at fine
    cases fine
  | ok events =>
    refine ⟨events, rfl, (event_stream_well_formed_iff exampleStamp emptyObjectCodec none true
      callingChunks events emptyObjectCodec_separates emptyObjectCodec_readsTrimmed accepted).2 ?_⟩
    decide +kernel

def resumedChunks : List Json :=
  [deltaChunk [("reasoning_content", .string "a")], deltaChunk [("content", .string "b")],
    deltaChunk [("reasoning_content", .string "c")]]

-- The second reasoning is a delta of the item whose done events are already out.
theorem resumed_reasoning_follows_its_done :
    ∃ events, ChatToResponsesState.translateFrom exampleStamp emptyObjectCodec {} resumedChunks =
        .ok events ∧
      ¬ WellFormedStream emptyObjectCodec
        (ChatToResponsesState.fragmentsFrom exampleStamp emptyObjectCodec {} resumedChunks)
        events := by
  have marks : (ChatToResponsesState.translateFrom exampleStamp emptyObjectCodec {}
      resumedChunks).map (itemMarks 0) =
        .ok ((openMarks .reasoning ["a"] ++ [.done .reasoning "a", .itemDone .reasoning "a"]) ++
          [.delta .reasoning "c"]) := by
    decide +kernel
  cases accepted : ChatToResponsesState.translateFrom exampleStamp emptyObjectCodec {}
    resumedChunks with
  | error error =>
    rw [accepted] at marks
    cases marks
  | ok events =>
    rw [accepted] at marks
    have resumed := Except.ok.inj marks
    refine ⟨events, rfl, fun wellFormed => ?_⟩
    obtain ⟨before, last, response, -, -, -, items⟩ := wellFormed.ending
    obtain ⟨channel, deltas, text, listed, complete, -⟩ := items 0 (by rw [resumed]; decide)
    rw [resumed] at complete
    exact ChatToResponsesState.not_complete_of_more complete

end ChatGateway
