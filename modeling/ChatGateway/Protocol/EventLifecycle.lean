import ChatGateway.Protocol.EventJournal

set_option autoImplicit false

/-!
# The life of the output items of a stream

The state of the translator against the ledger of the events it emitted: every item that is open in
the state is open in the ledger with the same text, and every index handed out belongs to one item.
-/

namespace ChatGateway

def joined (pieces : List String) : Text :=
  pieces.flatMap String.toList

@[simp] theorem joined_nil : joined [] = [] := rfl

@[simp] theorem joined_append (earlier later : List String) :
    joined (earlier ++ later) = joined earlier ++ joined later :=
  List.flatMap_append

@[simp] theorem joined_singleton (piece : String) : joined [piece] = piece.toList := by
  simp [joined]

/-- The argument fragments the chunks carried for the item at `index`. -/
def fragmentsAt (index : Nat) (fragments : List (Nat × String)) : List String :=
  fragments.filterMap fun fragment => if fragment.1 = index then some fragment.2 else none

@[simp] theorem fragmentsAt_append (index : Nat) (earlier later : List (Nat × String)) :
    fragmentsAt index (earlier ++ later) = fragmentsAt index earlier ++ fragmentsAt index later :=
  List.filterMap_append

theorem fragmentsAt_singleton (index other : Nat) (fragment : String) :
    fragmentsAt index [(other, fragment)] = if other = index then [fragment] else [] := by
  by_cases same : other = index <;> simp [fragmentsAt, same]

/-- What the argument buffer of a call has to do with the fragments and the deltas sent. Once the
buffer was replaced, the fragments cannot add up to one JSON value any more. -/
def Spelled (codec : JsonCodec) (call : ChatToolCallState) (deltas fragments : List String) : Prop :=
  if call.clientDeltaDesynced then
    ∀ more : Text, codec.reads (String.ofList (joined fragments ++ more)) = false
  else joined deltas = call.arguments.toList ∧ joined fragments = call.arguments.toList

def JsonCodec.Separates (codec : JsonCodec) : Prop :=
  ∀ value rest : String, codec.reads value = true → opensValue rest = true →
    codec.reads (value ++ rest) = false

namespace ChatToResponsesState

def Owned (state : ChatToResponsesState) (index : Nat) : Prop :=
  state.textOutputIndex = some index ∨
    (∃ reasoning, state.reasoning = some reasoning ∧ reasoning.outputIndex = index) ∨
    ∃ key call, state.toolCalls.find? key = some call ∧ call.outputIndex = index

def TextAgrees (state : ChatToResponsesState) (ledger : Ledger) : Prop :=
  match state.textOutputIndex with
  | none => state.textItemAddedEmitted = false ∧ state.text = ""
  | some index => state.textItemAddedEmitted = true ∧
      ∃ deltas, ledger index = .opened .text deltas ∧ joined deltas = state.text.toList

def ReasoningAgrees (ledger : Ledger) (reasoning : ReasoningStreamState) : Prop :=
  reasoning.startedEmitted = true ∧
    ∃ deltas, joined deltas = reasoning.text.toList ∧
      ledger reasoning.outputIndex =
        if reasoning.doneEmitted then .closed .reasoning deltas reasoning.text
        else .opened .reasoning deltas

def CallAgrees (codec : JsonCodec) (ledger : Ledger) (fragments : List (Nat × String))
    (call : ChatToolCallState) : Prop :=
  call.addedEmitted = true ∧ call.doneEmitted = false ∧
    ∃ deltas, ledger call.outputIndex = .opened .arguments deltas ∧
      Spelled codec call deltas (fragmentsAt call.outputIndex fragments)

structure Agrees (codec : JsonCodec) (state : ChatToResponsesState) (ledger : Ledger)
    (fragments : List (Nat × String)) : Prop where
  text : state.TextAgrees ledger
  textOpen : state.textItemDoneEmitted = false
  reasoning : ∀ reasoning, state.reasoning = some reasoning → ReasoningAgrees ledger reasoning
  calls : ∀ key call, state.toolCalls.find? key = some call → CallAgrees codec ledger fragments call
  distinct : ∀ key other call otherCall, state.toolCalls.find? key = some call →
    state.toolCalls.find? other = some otherCall → call.outputIndex = otherCall.outputIndex →
    key = other
  owned : ∀ index, index < state.nextOutputIndex → state.Owned index
  allocated : ∀ index, ledger index = .absent ↔ state.nextOutputIndex ≤ index
  unsent : ∀ index, state.nextOutputIndex ≤ index → fragmentsAt index fragments = []

structure Tracked (codec : JsonCodec) (state : ChatToResponsesState) (events : List ResponsesEvent)
    (fragments : List (Nat × String)) (ledger : Ledger) : Prop where
  journal : Journal state.createdEmitted events ledger
  count : state.sequenceNumber = events.length
  unended : state.completedEmitted = false
  agrees : state.Agrees codec ledger fragments

variable {stamp : ResponseStamp} {codec : JsonCodec}

theorem Tracked.start (toolRegistry : Option ToolAdapterRegistry) (toolCallMergeStrict : Bool) :
    Tracked codec { toolRegistry, toolCallMergeStrict } [] [] fun _ => .absent where
  journal := .start
  count := rfl
  unended := rfl
  agrees :=
    { text := ⟨rfl, rfl⟩
      textOpen := rfl
      reasoning := by simp
      calls := by simp
      distinct := by simp
      owned := by simp
      allocated := by simp
      unsent := by simp [fragmentsAt] }

theorem Agrees.of_same {state next : ChatToResponsesState} {ledger : Ledger}
    {fragments : List (Nat × String)} (agrees : state.Agrees codec ledger fragments)
    (text : next.text = state.text) (textIndex : next.textOutputIndex = state.textOutputIndex)
    (added : next.textItemAddedEmitted = state.textItemAddedEmitted)
    (done : next.textItemDoneEmitted = state.textItemDoneEmitted)
    (reasoning : next.reasoning = state.reasoning) (calls : next.toolCalls = state.toolCalls)
    (index : next.nextOutputIndex = state.nextOutputIndex) :
    next.Agrees codec ledger fragments := by
  obtain ⟨textAgrees, textOpen, reasoningAgrees, callsAgree, distinct, owned, allocated, unsent⟩ :=
    agrees
  refine ⟨?_, done.trans textOpen, ?_, ?_, ?_, ?_, ?_, ?_⟩
  · unfold TextAgrees at *
    rwa [textIndex, added, text]
  · rwa [reasoning]
  · rwa [calls]
  · rwa [calls]
  · unfold Owned at *
    rwa [index, textIndex, reasoning, calls]
  · rwa [index]
  · rwa [index]

theorem emitCreated_tracked {state : ChatToResponsesState} {events : List ResponsesEvent}
    {fragments : List (Nat × String)} {ledger : Ledger}
    (tracked : Tracked codec state events fragments ledger) :
    Tracked codec (state.emitCreated stamp).1 (events ++ (state.emitCreated stamp).2) fragments
        ledger ∧ (state.emitCreated stamp).1.createdEmitted = true := by
  cases created : state.createdEmitted with
  | true => simpa [emitCreated, created] using tracked
  | false =>
    have journal := tracked.journal
    have count := tracked.count
    rw [created] at journal
    obtain rfl : events = [] := journal.opening
    simp only [emitCreated, created, push]
    refine ⟨⟨journal.create (by simp [count]) rfl, by simp [count], tracked.unended, ?_⟩, rfl⟩
    exact tracked.agrees.of_same rfl rfl rfl rfl rfl rfl rfl

theorem TextAgrees.update {state : ChatToResponsesState} {ledger : Ledger} {index : Nat}
    (agrees : state.TextAgrees ledger) (other : ∀ deltas, ledger index ≠ .opened .text deltas)
    (phase : ItemPhase) : state.TextAgrees (Function.update ledger index phase) := by
  unfold TextAgrees at *
  split at agrees
  · next none => simpa [none] using agrees
  · next here found =>
    obtain ⟨added, deltas, opened, text⟩ := agrees
    have different : here ≠ index := by
      rintro rfl
      exact other deltas opened
    exact ⟨added, deltas, by rwa [Function.update_of_ne different], text⟩

theorem ReasoningAgrees.update {ledger : Ledger} {index : Nat} {reasoning : ReasoningStreamState}
    (agrees : ReasoningAgrees ledger reasoning) (different : reasoning.outputIndex ≠ index)
    (phase : ItemPhase) : ReasoningAgrees (Function.update ledger index phase) reasoning := by
  unfold ReasoningAgrees at *
  rwa [Function.update_of_ne different]

theorem CallAgrees.update {ledger : Ledger} {index : Nat} {fragments more : List (Nat × String)}
    {call : ChatToolCallState} (agrees : CallAgrees codec ledger fragments call)
    (different : call.outputIndex ≠ index) (others : fragmentsAt call.outputIndex more = [])
    (phase : ItemPhase) :
    CallAgrees codec (Function.update ledger index phase) (fragments ++ more) call := by
  unfold CallAgrees at *
  rwa [Function.update_of_ne different, fragmentsAt_append, others, List.append_nil]

theorem Agrees.ne_absent {state : ChatToResponsesState} {ledger : Ledger}
    {fragments : List (Nat × String)} (agrees : state.Agrees codec ledger fragments) {index : Nat}
    (known : ledger index ≠ .absent) : index < state.nextOutputIndex := by
  by_contra beyond
  exact known ((agrees.allocated index).2 (not_lt.1 beyond))

theorem Agrees.next_absent {state : ChatToResponsesState} {ledger : Ledger}
    {fragments : List (Nat × String)} (agrees : state.Agrees codec ledger fragments) :
    ledger state.nextOutputIndex = .absent :=
  (agrees.allocated _).2 le_rfl

theorem Agrees.calls_update {state : ChatToResponsesState} {ledger : Ledger}
    {fragments : List (Nat × String)} (agrees : state.Agrees codec ledger fragments) {index : Nat}
    (other : ∀ deltas, ledger index ≠ .opened .arguments deltas) (phase : ItemPhase) :
    ∀ key call, state.toolCalls.find? key = some call →
      CallAgrees codec (Function.update ledger index phase) fragments call := by
  intro key call found
  have known := agrees.calls key call found
  have different : call.outputIndex ≠ index := by
    rintro rfl
    obtain ⟨-, -, deltas, opened, -⟩ := known
    exact other deltas opened
  simpa using known.update different (List.filterMap_nil) phase

theorem Agrees.reasoning_update {state : ChatToResponsesState} {ledger : Ledger}
    {fragments : List (Nat × String)} (agrees : state.Agrees codec ledger fragments) {index : Nat}
    (other : ∀ deltas text, ledger index ≠ .opened .reasoning deltas ∧
      ledger index ≠ .closed .reasoning deltas text) (phase : ItemPhase) :
    ∀ reasoning, state.reasoning = some reasoning →
      ReasoningAgrees (Function.update ledger index phase) reasoning := by
  intro reasoning found
  have known := agrees.reasoning reasoning found
  refine known.update ?_ phase
  rintro rfl
  obtain ⟨-, deltas, -, here⟩ := known
  split at here
  · exact (other deltas _).2 here
  · exact (other deltas "").1 here

theorem allocated_same {next : Nat} {ledger : Ledger} {index : Nat} {phase : ItemPhase}
    (allocated : ∀ other, ledger other = .absent ↔ next ≤ other)
    (known : ledger index ≠ .absent) (present : phase ≠ .absent) :
    ∀ other, Function.update ledger index phase other = .absent ↔ next ≤ other := by
  intro other
  by_cases same : other = index
  · subst same
    rw [Function.update_self, ← allocated other]
    exact ⟨fun absent => absurd absent present, fun absent => absurd absent known⟩
  · rw [Function.update_of_ne same, allocated]

theorem allocated_next {next : Nat} {ledger : Ledger} {phase : ItemPhase}
    (allocated : ∀ other, ledger other = .absent ↔ next ≤ other) (present : phase ≠ .absent) :
    ∀ other, Function.update ledger next phase other = .absent ↔ next + 1 ≤ other := by
  intro other
  by_cases same : other = next
  · subst same
    rw [Function.update_self]
    exact ⟨fun absent => absurd absent present, fun beyond => absurd beyond (by omega)⟩
  · rw [Function.update_of_ne same, allocated]
    omega

theorem emitReasoningDelta_tracked {state : ChatToResponsesState} {events : List ResponsesEvent}
    {fragments : List (Nat × String)} {ledger : Ledger}
    (tracked : Tracked codec state events fragments ledger)
    (created : state.createdEmitted = true)
    (unclosed : ∀ reasoning, state.reasoning = some reasoning → reasoning.doneEmitted = false)
    (delta : String) :
    ∃ next, Tracked codec (state.emitReasoningDelta stamp delta).1
        (events ++ (state.emitReasoningDelta stamp delta).2) fragments next ∧
      (state.emitReasoningDelta stamp delta).1.createdEmitted = true ∧
      ∃ reasoning, (state.emitReasoningDelta stamp delta).1.reasoning = some reasoning ∧
        reasoning.doneEmitted = false := by
  obtain ⟨journal, count, unended, agrees⟩ := tracked
  rw [created] at journal
  cases found : state.reasoning with
  | none =>
    have absent := agrees.next_absent
    simp only [emitReasoningDelta, found, andThen, push]
    refine ⟨Function.update ledger state.nextOutputIndex (.opened .reasoning [delta]), ?_, created,
      _, rfl, rfl⟩
    refine ⟨?_, by simp [count], unended, ?_⟩
    · rw [created]
      refine journal.move ?_ ?_ ?_
      · simp [Continues, count, List.range'_succ]
      · simp [ResponsesEventBody.mark]
      · simp [absent, ItemPhase.marks, openMarks, itemMarks_cons, ResponsesEventBody.mark,
          OutputItem.channel]
    · refine ⟨agrees.text.update (by simp [absent]) _, agrees.textOpen, ?_, ?_, agrees.distinct,
        ?_, allocated_next agrees.allocated (by simp), ?_⟩
      · rintro _ ⟨⟩
        exact ⟨rfl, [delta], by simp, by simp⟩
      · exact agrees.calls_update (by simp [absent]) _
      · intro index below
        by_cases last : index = state.nextOutputIndex
        · exact .inr (.inl ⟨_, rfl, last.symm⟩)
        · rcases agrees.owned index (by simp at below; omega) with text | ⟨other, some, -⟩ | call
          · exact .inl text
          · rw [found] at some
            cases some
          · exact .inr (.inr call)
      · intro index beyond
        exact agrees.unsent index (by simp at beyond; omega)
  | some reasoning =>
    obtain ⟨started, deltas, text, phase⟩ := agrees.reasoning reasoning found
    rw [unclosed reasoning found] at phase
    have opened : ledger reasoning.outputIndex = .opened .reasoning deltas := phase
    simp only [emitReasoningDelta, found, started, andThen, push]
    refine ⟨Function.update ledger reasoning.outputIndex (.opened .reasoning (deltas ++ [delta])), ?_,
      created, _, rfl, unclosed reasoning found⟩
    refine ⟨?_, by simp [count], unended, ?_⟩
    · rw [created]
      refine journal.move ?_ ?_ ?_
      · simp [Continues, count]
      · simp [ResponsesEventBody.mark]
      · simp [opened, ItemPhase.marks, openMarks, itemMarks_cons, ResponsesEventBody.mark]
    · refine ⟨agrees.text.update (by simp [opened]) _, agrees.textOpen, ?_,
        agrees.calls_update (by simp [opened]) _, agrees.distinct, ?_,
        allocated_same agrees.allocated (by simp [opened]) (by simp), agrees.unsent⟩
      · rintro _ ⟨⟩
        refine ⟨rfl, deltas ++ [delta], by simp [text], ?_⟩
        simp [unclosed reasoning found]
      · intro index below
        rcases agrees.owned index below with text | ⟨other, same, here⟩ | call
        · exact .inl text
        · rw [found] at same
          cases same
          exact .inr (.inl ⟨_, rfl, here⟩)
        · exact .inr (.inr call)

theorem emitReasoningDone_tracked {state : ChatToResponsesState} {events : List ResponsesEvent}
    {fragments : List (Nat × String)} {ledger : Ledger}
    (tracked : Tracked codec state events fragments ledger)
    (created : state.createdEmitted = true) :
    ∃ next, Tracked codec (state.emitReasoningDone stamp).1
        (events ++ (state.emitReasoningDone stamp).2) fragments next ∧
      (state.emitReasoningDone stamp).1.createdEmitted = true ∧
      ((state.emitReasoningDone stamp).1.reasoning.isSome = state.reasoning.isSome) ∧
      ∀ reasoning, (state.emitReasoningDone stamp).1.reasoning = some reasoning →
        reasoning.doneEmitted = true := by
  cases found : state.reasoning with
  | none =>
    refine ⟨ledger, by simpa [emitReasoningDone, found] using tracked, ?_, ?_, ?_⟩ <;>
      simp [emitReasoningDone, found, created]
  | some reasoning =>
    obtain ⟨journal, count, unended, agrees⟩ := id tracked
    obtain ⟨started, deltas, text, phase⟩ := agrees.reasoning reasoning found
    cases done : reasoning.doneEmitted with
    | true =>
      refine ⟨ledger, by simpa [emitReasoningDone, found, done] using tracked, ?_, ?_, ?_⟩ <;>
        simp [emitReasoningDone, found, created, done]
    | false =>
      rw [done] at phase
      rw [created] at journal
      have opened : ledger reasoning.outputIndex = .opened .reasoning deltas := phase
      simp only [emitReasoningDone, found, started, done, andThen, push]
      refine ⟨Function.update ledger reasoning.outputIndex (.closed .reasoning deltas reasoning.text),
        ?_, created, rfl, ?_⟩
      · refine ⟨?_, by simp [count], unended, ?_⟩
        · rw [if_neg (by simp), created]
          refine journal.move ?_ ?_ ?_
          · simp [Continues, count, List.range'_succ]
          · simp [ResponsesEventBody.mark]
          · simp [opened, ItemPhase.marks, openMarks, itemMarks_cons, ResponsesEventBody.mark,
              OutputItem.channel, OutputItem.content]
        · refine ⟨agrees.text.update (by simp [opened]) _, agrees.textOpen, ?_,
            agrees.calls_update (by simp [opened]) _, agrees.distinct, ?_,
            allocated_same agrees.allocated (by simp [opened]) (by simp), agrees.unsent⟩
          · rintro _ ⟨⟩
            exact ⟨rfl, deltas, text, by simp⟩
          · intro index below
            rcases agrees.owned index below with text | ⟨other, same, here⟩ | call
            · exact .inl text
            · rw [found] at same
              cases same
              exact .inr (.inl ⟨_, rfl, here⟩)
            · exact .inr (.inr call)
      · rintro _ ⟨⟩
        rfl

theorem emitTextDelta_tracked {state : ChatToResponsesState} {events : List ResponsesEvent}
    {fragments : List (Nat × String)} {ledger : Ledger}
    (tracked : Tracked codec state events fragments ledger)
    (created : state.createdEmitted = true) (delta : String) :
    ∃ next, Tracked codec (state.emitTextDelta stamp delta).1
        (events ++ (state.emitTextDelta stamp delta).2) fragments next ∧
      (state.emitTextDelta stamp delta).1.createdEmitted = true ∧
      (state.emitTextDelta stamp delta).1.reasoning = state.reasoning := by
  obtain ⟨journal, count, unended, agrees⟩ := tracked
  rw [created] at journal
  have textAgrees := agrees.text
  cases found : state.textOutputIndex with
  | none =>
    simp only [TextAgrees, found] at textAgrees
    obtain ⟨unadded, empty⟩ := textAgrees
    have absent := agrees.next_absent
    simp only [emitTextDelta, ensureTextItem, found, unadded, andThen, push]
    refine ⟨Function.update ledger state.nextOutputIndex (.opened .text [delta]), ?_, created, rfl⟩
    refine ⟨?_, by simp [count], unended, ?_⟩
    · rw [if_neg (by simp)]
      simp only [created]
      refine journal.move ?_ ?_ ?_
      · simp [Continues, count, List.range'_succ]
      · simp [ResponsesEventBody.mark]
      · simp [absent, ItemPhase.marks, openMarks, itemMarks_cons, ResponsesEventBody.mark,
          OutputItem.channel]
    · refine ⟨?_, agrees.textOpen, agrees.reasoning_update (by simp [absent]) _,
        agrees.calls_update (by simp [absent]) _, agrees.distinct, ?_,
        allocated_next agrees.allocated (by simp), ?_⟩
      · exact ⟨rfl, [delta], by simp, by simp [empty]⟩
      · intro index below
        by_cases last : index = state.nextOutputIndex
        · exact .inl (congrArg some last.symm)
        · rcases agrees.owned index (by simp at below; omega) with text | reasoning | call
          · rw [found] at text
            cases text
          · exact .inr (.inl reasoning)
          · exact .inr (.inr call)
      · intro index beyond
        exact agrees.unsent index (by simp at beyond; omega)
  | some index =>
    simp only [TextAgrees, found] at textAgrees
    obtain ⟨added, deltas, opened, text⟩ := textAgrees
    have emitted : state.emitTextDelta stamp delta =
        ({ state with
            sequenceNumber := state.sequenceNumber + 1
            textItemId := some (state.textItemId.getD stamp.messageId)
            textOutputIndex := some index
            textItemAddedEmitted := true
            text := state.text ++ delta },
          [{ sequenceNumber := state.sequenceNumber + 1
             body := .delta .text (state.responseIdValue stamp)
              (state.textItemId.getD stamp.messageId) index delta }]) := by
      simp [emitTextDelta, ensureTextItem, found, added, andThen, push]
    rw [emitted]
    refine ⟨Function.update ledger index (.opened .text (deltas ++ [delta])), ?_, created, rfl⟩
    refine ⟨?_, by simp [count], unended, ?_⟩
    · simp only [created]
      refine journal.move ?_ ?_ ?_
      · simp [Continues, count]
      · simp [ResponsesEventBody.mark]
      · simp [opened, ItemPhase.marks, openMarks, itemMarks_cons, ResponsesEventBody.mark]
    · refine ⟨?_, agrees.textOpen, agrees.reasoning_update (by simp [opened]) _,
        agrees.calls_update (by simp [opened]) _, agrees.distinct, ?_,
        allocated_same agrees.allocated (by simp [opened]) (by simp), agrees.unsent⟩
      · exact ⟨rfl, deltas ++ [delta], by simp, by simp [text]⟩
      · intro other below
        rcases agrees.owned other below with text | reasoning | call
        · exact .inl (found.symm.trans text)
        · exact .inr (.inl reasoning)
        · exact .inr (.inr call)

theorem opensValue_append {fragment : String} (opens : opensValue fragment = true) (more : Text) :
    opensValue (String.ofList (fragment.toList ++ more)) = true := by
  cases text : fragment.toList with
  | nil => simp [opensValue, text] at opens
  | cons head rest =>
    unfold opensValue at *
    rw [text] at opens
    simp only [String.toList_ofList, List.cons_append]
    split at opens <;> simp_all

def Replaces (codec : JsonCodec) (call : ChatToolCallState) (arguments : String) (strict : Bool) :
    Bool :=
  strict && call.arguments ≠ "" && codec.reads call.arguments && opensValue arguments

theorem mergeFragment_replaced {call : ChatToolCallState} {arguments : String} {strict : Bool}
    (callId : String) (name : Option String) (nonempty : arguments ≠ "")
    (replaces : Replaces codec call arguments strict = true) :
    mergeFragment codec call callId name arguments strict =
      ({ nameEntry call callId name with arguments, clientDeltaDesynced := true },
        !call.addedEmitted, none) := by
  have merged : mergeToolCallArguments codec (nameEntry call callId name) arguments strict =
      ({ nameEntry call callId name with arguments }, .replacedCompleteThenNew) :=
    if_pos replaces
  rw [mergeFragment, if_neg nonempty, merged]

theorem mergeFragment_appended {call : ChatToolCallState} {arguments : String} {strict : Bool}
    (callId : String) (name : Option String) (nonempty : arguments ≠ "")
    (appends : ¬ Replaces codec call arguments strict = true) :
    mergeFragment codec call callId name arguments strict =
      ({ nameEntry call callId name with arguments := call.arguments ++ arguments },
        !call.addedEmitted, if call.clientDeltaDesynced then none else some arguments) := by
  have merged : mergeToolCallArguments codec (nameEntry call callId name) arguments strict =
      ({ nameEntry call callId name with arguments := call.arguments ++ arguments }, .appended) :=
    if_neg appends
  rw [mergeFragment, if_neg nonempty, merged]
  rfl

theorem spelled_mergeFragment {call : ChatToolCallState} {deltas fragments : List String}
    (separates : codec.Separates) (spelled : Spelled codec call deltas fragments)
    (callId : String) (name : Option String) (arguments : String) (strict : Bool) :
    Spelled codec (mergeFragment codec call callId name arguments strict).1
      (deltas ++ (mergeFragment codec call callId name arguments strict).2.2.toList)
      (fragments ++ [arguments]) := by
  unfold Spelled at spelled
  by_cases empty : arguments = ""
  · subst empty
    have merged : mergeFragment codec call callId name "" strict =
        (nameEntry call callId name, !call.addedEmitted, none) := if_pos rfl
    rw [merged]
    simpa [Spelled, nameEntry] using spelled
  by_cases replaces : Replaces codec call arguments strict = true
  · rw [mergeFragment_replaced callId name empty replaces]
    simp only [Replaces, Bool.and_eq_true] at replaces
    simp only [Spelled, if_true]
    intro more
    rw [joined_append, joined_singleton, List.append_assoc]
    cases desynced : call.clientDeltaDesynced with
    | true =>
      rw [desynced] at spelled
      exact spelled _
    | false =>
      rw [desynced] at spelled
      have same : joined fragments = call.arguments.toList := spelled.2
      have whole : String.ofList (joined fragments ++ (arguments.toList ++ more)) =
          call.arguments ++ String.ofList (arguments.toList ++ more) := by
        rw [same, ← String.toList_inj]
        simp
      rw [whole]
      exact separates _ _ replaces.1.2 (opensValue_append replaces.2 more)
  · rw [mergeFragment_appended callId name empty replaces]
    cases desynced : call.clientDeltaDesynced with
    | true =>
      rw [desynced] at spelled
      have unreadable := fun more : Text => spelled (arguments.toList ++ more)
      simpa [Spelled, nameEntry, desynced] using unreadable
    | false =>
      rw [desynced] at spelled
      simp only [Bool.false_eq_true, if_false] at spelled
      simp [Spelled, nameEntry, desynced, spelled]

theorem mergeFragment_kept (call : ChatToolCallState) (callId : String) (name : Option String)
    (arguments : String) (strict : Bool) :
    (mergeFragment codec call callId name arguments strict).1.outputIndex = call.outputIndex ∧
      (mergeFragment codec call callId name arguments strict).1.addedEmitted = true ∧
      (mergeFragment codec call callId name arguments strict).1.doneEmitted = call.doneEmitted ∧
      (mergeFragment codec call callId name arguments strict).2.1 = !call.addedEmitted := by
  by_cases empty : arguments = ""
  · rw [mergeFragment, if_pos empty]
    exact ⟨rfl, rfl, rfl, rfl⟩
  by_cases replaces : Replaces codec call arguments strict = true
  · rw [mergeFragment_replaced callId name empty replaces]
    exact ⟨rfl, rfl, rfl, rfl⟩
  · rw [mergeFragment_appended callId name empty replaces]
    exact ⟨rfl, rfl, rfl, rfl⟩

def fragmentEntry (state : ChatToResponsesState) (key : Nat) (callId : String)
    (name : Option String) : ChatToolCallState :=
  (state.toolCalls.find? key).getD
    { itemId := callId, callId, outputIndex := state.nextOutputIndex, name }

theorem emitFragment_spec (state : ChatToResponsesState) (key : Nat) (callId : String)
    (name : Option String) (arguments : String) (restore : String → String × Option String) :
    ∃ events, state.emitFragment stamp codec key callId name arguments restore =
        ({ state with
            sequenceNumber := state.sequenceNumber + events.length
            nextOutputIndex :=
              if (state.toolCalls.find? key).isSome then state.nextOutputIndex
              else state.nextOutputIndex + 1
            toolCalls := state.toolCalls.put key
              (mergeFragment codec (state.fragmentEntry key callId name) callId name arguments
                state.toolCallMergeStrict).1 }, events) ∧
      Continues state.sequenceNumber events ∧
      (∀ event ∈ events,
        event.body.mark.map (·.1) = some (state.fragmentEntry key callId name).outputIndex) ∧
      itemMarks (state.fragmentEntry key callId name).outputIndex events =
        (if (state.fragmentEntry key callId name).addedEmitted then [] else [.added .arguments]) ++
          (mergeFragment codec (state.fragmentEntry key callId name) callId name arguments
            state.toolCallMergeStrict).2.2.toList.map (.delta .arguments) := by
  have index : ((state.toolCalls.find? key).map (·.outputIndex)).getD state.nextOutputIndex =
      (state.fragmentEntry key callId name).outputIndex := by
    cases found : state.toolCalls.find? key <;> simp [fragmentEntry, found]
  have entry : (state.toolCalls.find? key).getD
      { itemId := callId, callId
        outputIndex := (state.fragmentEntry key callId name).outputIndex, name } =
      state.fragmentEntry key callId name := by
    cases found : state.toolCalls.find? key <;> simp [fragmentEntry, found]
  have due := (@mergeFragment_kept codec (state.fragmentEntry key callId name) callId name
    arguments state.toolCallMergeStrict).2.2.2
  simp only [emitFragment, index, entry, due]
  cases added : (state.fragmentEntry key callId name).addedEmitted <;>
    cases sent : (mergeFragment codec (state.fragmentEntry key callId name) callId name arguments
      state.toolCallMergeStrict).2.2 <;>
    simp [andThen, push, Continues, List.range'_succ, itemMarks_cons, ResponsesEventBody.mark,
      OutputItem.channel]

theorem fragmentEntry_phase {state : ChatToResponsesState} {ledger : Ledger}
    {fragments : List (Nat × String)} (agrees : state.Agrees codec ledger fragments) (key : Nat)
    (callId : String) (name : Option String) :
    ∃ deltas, Spelled codec (state.fragmentEntry key callId name) deltas
        (fragmentsAt (state.fragmentEntry key callId name).outputIndex fragments) ∧
      (state.fragmentEntry key callId name).doneEmitted = false ∧
      (ledger (state.fragmentEntry key callId name).outputIndex =
        if (state.toolCalls.find? key).isSome then .opened .arguments deltas else .absent) ∧
      (state.fragmentEntry key callId name).addedEmitted = (state.toolCalls.find? key).isSome ∧
      ((state.toolCalls.find? key).isSome = false → deltas = []) := by
  cases found : state.toolCalls.find? key with
  | none =>
    refine ⟨[], ?_, ?_, ?_, ?_, fun _ => rfl⟩
    · simp [fragmentEntry, found, Spelled, agrees.unsent _ le_rfl]
    · simp [fragmentEntry, found]
    · simp [fragmentEntry, found, agrees.next_absent]
    · simp [fragmentEntry, found]
  | some call =>
    obtain ⟨added, undone, deltas, opened, spelled⟩ := agrees.calls key call found
    refine ⟨deltas, ?_, ?_, ?_, ?_, by simp⟩
    · simpa [fragmentEntry, found] using spelled
    · simpa [fragmentEntry, found] using undone
    · simpa [fragmentEntry, found] using opened
    · simpa [fragmentEntry, found] using added

theorem fragmentEntry_alone {state : ChatToResponsesState} {ledger : Ledger}
    {fragments : List (Nat × String)} (agrees : state.Agrees codec ledger fragments) {key other : Nat}
    (callId : String) (name : Option String) {call : ChatToolCallState}
    (found : state.toolCalls.find? other = some call) (different : key ≠ other) :
    call.outputIndex ≠ (state.fragmentEntry key callId name).outputIndex := by
  intro same
  cases known : state.toolCalls.find? key with
  | none =>
    obtain ⟨-, -, deltas, opened, -⟩ := agrees.calls other call found
    simp only [fragmentEntry, known, Option.getD_none] at same
    rw [same, agrees.next_absent] at opened
    cases opened
  | some own =>
    simp only [fragmentEntry, known, Option.getD_some] at same
    exact different (agrees.distinct key other own call known found same.symm)

theorem emitFragment_tracked {state : ChatToResponsesState} {events : List ResponsesEvent}
    {fragments : List (Nat × String)} {ledger : Ledger} (separates : codec.Separates)
    (tracked : Tracked codec state events fragments ledger)
    (created : state.createdEmitted = true) (key : Nat) (callId : String) (name : Option String)
    (arguments : String) (restore : String → String × Option String) :
    ∃ next, Tracked codec (state.emitFragment stamp codec key callId name arguments restore).1
        (events ++ (state.emitFragment stamp codec key callId name arguments restore).2)
        (fragments ++ [((state.fragmentEntry key callId name).outputIndex, arguments)]) next ∧
      (state.emitFragment stamp codec key callId name arguments restore).1.createdEmitted = true ∧
      (state.emitFragment stamp codec key callId name arguments restore).1.reasoning =
        state.reasoning := by
  obtain ⟨journal, count, unended, agrees⟩ := tracked
  rw [created] at journal
  obtain ⟨new, emitted, numbers, own, marks⟩ :=
    @emitFragment_spec stamp codec state key callId name arguments restore
  obtain ⟨deltas, spelled, undone, phase, added, first⟩ := fragmentEntry_phase agrees key callId name
  have alone := fun {other : Nat} {call : ChatToolCallState} =>
    @fragmentEntry_alone codec state ledger fragments agrees key other callId name call
  have kept := @mergeFragment_kept codec (state.fragmentEntry key callId name) callId name
    arguments state.toolCallMergeStrict
  have extended := spelled_mergeFragment separates spelled callId name arguments state.toolCallMergeStrict
  rw [emitted]
  generalize mergedEq : mergeFragment codec (state.fragmentEntry key callId name) callId name
    arguments state.toolCallMergeStrict = merged at *
  generalize entryEq : state.fragmentEntry key callId name = entry at *
  let sent := merged.2.2.toList
  have notText : ∀ deltas, ledger entry.outputIndex ≠ .opened .text deltas := by
    intro others
    rw [phase]
    split <;> simp
  have notReasoning : ∀ deltas text, ledger entry.outputIndex ≠ .opened .reasoning deltas ∧
      ledger entry.outputIndex ≠ .closed .reasoning deltas text := by
    intro others text
    rw [phase]
    split <;> simp
  refine ⟨Function.update ledger entry.outputIndex (.opened .arguments (deltas ++ sent)), ?_,
    created, rfl⟩
  refine ⟨?_, by simp [count], unended, ?_⟩
  · simp only [created]
    refine journal.move (by rwa [← count]) own ?_
    rw [marks, phase, added]
    cases known : (state.toolCalls.find? key).isSome with
    | true => simp [ItemPhase.marks, openMarks, sent]
    | false => simp [ItemPhase.marks, openMarks, sent, first known]
  · refine ⟨agrees.text.update notText _, agrees.textOpen, agrees.reasoning_update notReasoning _,
      ?_, ?_, ?_, ?_, ?_⟩
    · intro other call found
      simp only [OrderedMap.find?_put] at found
      split at found
      · cases found
        refine ⟨kept.2.1, kept.2.2.1.trans undone, deltas ++ sent, ?_, ?_⟩
        · rw [kept.1, Function.update_self]
        · rw [kept.1, fragmentsAt_append, fragmentsAt_singleton, if_pos rfl]
          exact extended
      · next different =>
        have elsewhere := alone found different
        refine (agrees.calls other call found).update elsewhere ?_ _
        rw [fragmentsAt_singleton, if_neg (Ne.symm elsewhere)]
    · intro first second call otherCall foundFirst foundSecond same
      simp only [OrderedMap.find?_put] at foundFirst foundSecond
      by_cases firstHere : key = first
      · by_cases secondHere : key = second
        · exact firstHere.symm.trans secondHere
        · rw [if_pos firstHere] at foundFirst
          rw [if_neg secondHere] at foundSecond
          cases foundFirst
          exact absurd (same.symm.trans kept.1) (alone foundSecond secondHere)
      · rw [if_neg firstHere] at foundFirst
        by_cases secondHere : key = second
        · rw [if_pos secondHere] at foundSecond
          cases foundSecond
          exact absurd (same.trans kept.1) (alone foundFirst firstHere)
        · rw [if_neg secondHere] at foundSecond
          exact agrees.distinct first second call otherCall foundFirst foundSecond same
    · intro index below
      by_cases here : entry.outputIndex = index
      · refine .inr (.inr ⟨key, merged.1, ?_, kept.1.trans here⟩)
        simp
      · have before : index < state.nextOutputIndex := by
          cases known : state.toolCalls.find? key with
          | some call => simpa [known] using below
          | none =>
            have last : entry.outputIndex = state.nextOutputIndex := by
              rw [← entryEq]
              simp [fragmentEntry, known]
            simp [known] at below
            omega
        rcases agrees.owned index before with text | reasoning | ⟨other, call, found, same⟩
        · exact .inl text
        · exact .inr (.inl reasoning)
        · have different : key ≠ other := by
            rintro rfl
            refine here ?_
            rw [← same, ← entryEq]
            simp [fragmentEntry, found]
          refine .inr (.inr ⟨other, call, ?_, same⟩)
          simp [OrderedMap.find?_put, different, found]
    · cases known : state.toolCalls.find? key with
      | some call =>
        simp only [Option.isSome_some, if_true]
        refine allocated_same agrees.allocated ?_ (by simp)
        rw [phase, known]
        simp
      | none =>
        have last : entry.outputIndex = state.nextOutputIndex := by
          rw [← entryEq]
          simp [fragmentEntry, known]
        rw [last]
        exact allocated_next agrees.allocated (by simp)
    · intro index beyond
      have before : state.nextOutputIndex ≤ index ∧ entry.outputIndex ≠ index := by
        cases known : state.toolCalls.find? key with
        | some call =>
          simp only [known, Option.isSome_some, if_true] at beyond
          refine ⟨beyond, ?_⟩
          rintro rfl
          have absent := (agrees.allocated entry.outputIndex).2 beyond
          rw [phase, known] at absent
          simp at absent
        | none =>
          have last : entry.outputIndex = state.nextOutputIndex := by
            rw [← entryEq]
            simp [fragmentEntry, known]
          simp [known] at beyond
          omega
      rw [fragmentsAt_append, agrees.unsent index before.1, fragmentsAt_singleton,
        if_neg before.2]
      rfl

end ChatToResponsesState

end ChatGateway
