import ChatGateway.Protocol.Canonicalizer
import ChatGateway.Shared.Fallible
import Mathlib.Data.List.Dedup
import Mathlib.Data.List.ReduceOption

set_option autoImplicit false

/-!
# Canonical Chat streams

What a client reads off the events that the canonicalizer emits, compared with what the provider
sent.
-/

namespace ChatGateway

def chunkChoices (chunk : Json) : List Json :=
  ((chunk.get "choices").bind Json.asArray).getD []

def choiceDelta (choice : Json) : List (String × Json) :=
  ((choice.get "delta").bind Json.asObject).getD []

def choiceFinishes (choice : Json) : Bool :=
  (choice.get "finish_reason").any fun reason => !reason.isNull

def fixedIndex (chunks : List Json) (position : Nat) : Option Nat :=
  (chunks.findSome? fun chunk => (chunkChoices chunk)[position]?).map fun choice =>
    (choice.u64 "index").getD position

/-- The deltas of a chunk under the indices of their choices. A choice without an index has that of
its position. -/
def indexedDeltas (fixed : Nat → Nat) (chunk : Json) : List (Nat × List (String × Json)) :=
  (chunkChoices chunk).mapIdx fun position choice =>
    ((choice.u64 "index").getD (fixed position), choiceDelta choice)

def streamDeltas (chunks : List Json) : List (Nat × List (String × Json)) :=
  chunks.flatMap (indexedDeltas fun position => (fixedIndex chunks position).getD position)

def streamText (read : List (String × Json) → String) (index : Nat) (chunks : List Json) : String :=
  String.join (((streamDeltas chunks).filter fun delta => delta.1 = index).map fun delta =>
    read delta.2)

def deltaText (name : String) (delta : List (String × Json)) : String :=
  ((Json.field delta name).bind Json.asStr).getD ""

def deltaArguments (toolIndex : Nat) (delta : List (String × Json)) : String :=
  let calls := ((Json.field delta "tool_calls").bind Json.asArray).getD []
  String.join ((calls.mapIdx fun position call =>
    if (call.u64 "index").getD position = toolIndex then
      (((call.get "function").bind fun function => function.str "arguments").getD "")
    else ""))

namespace ChatStreamCanonicalizer

def keptFields (delta : List (String × Json)) : List (String × Json) :=
  delta.filter fun field => !(field.1 ∈ nullableFields && field.2.isNull)

def sameIdentity (first second : ChatStreamCanonicalizer) : Prop :=
  first.id = second.id ∧ first.model = second.model ∧ first.created = second.created

def Identifies (canonicalizer : ChatStreamCanonicalizer) (event : Json) : Prop :=
  event.str "id" = some canonicalizer.id ∧ event.str "model" = some canonicalizer.model ∧
    event.u64 "created" = some canonicalizer.created

structure NormalizesChoice (before after : ChatStreamCanonicalizer) (position index : Nat)
    (choice normalized : Json) : Prop where
  identity : after.id = before.id ∧ after.model = before.model ∧ after.created = before.created ∧
    after.identityLocked = before.identityLocked
  usage : after.usage = before.usage
  indices : ∀ other, after.choiceIndices[other]?.join =
    if other = position then some index else before.choiceIndices[other]?.join
  fixed : (before.choiceIndices[position]?.join).getD ((choice.u64 "index").getD position) = index
  own : ∀ incoming, choice.u64 "index" = some incoming → incoming = index
  normalizedIndex : normalized.u64 "index" = some index
  normalizedDelta : choiceDelta normalized = keptFields (choiceDelta choice)
  terminal : (choiceFinishes normalized = true ∧ index ∉ before.terminalIndices ∧
      after.terminalIndices = index :: before.terminalIndices) ∨
    (choiceFinishes normalized = false ∧ after.terminalIndices = before.terminalIndices)

section Choice

variable {before after : ChatStreamCanonicalizer} {position index : Nat}

theorem canonicalIndex_ok {incoming : Option Nat}
    (accepted : before.canonicalIndex position incoming = .ok (after, index)) :
    after = { before with choiceIndices := after.choiceIndices } ∧
      (∀ other, after.choiceIndices[other]?.join =
        if other = position then some index else before.choiceIndices[other]?.join) ∧
      (before.choiceIndices[position]?.join).getD (incoming.getD position) = index ∧
      ∀ given, incoming = some given → given = index := by
  unfold canonicalIndex at accepted
  split at accepted
  next known found =>
    split at accepted
    next => cases accepted
    next agrees =>
      cases accepted
      refine ⟨rfl, fun other => ?_, by rw [found]; rfl, fun given some => ?_⟩
      · split
        next same => rw [same, found]
        next => rfl
      · subst some
        simpa using agrees
  next missing =>
    cases accepted
    refine ⟨rfl, fun other => ?_, by rw [missing]; rfl, fun given some => by rw [some]; rfl⟩
    have length : (before.choiceIndices ++ List.replicate
        (position + 1 - before.choiceIndices.length) none).length =
          max (position + 1) before.choiceIndices.length := by
      simp only [List.length_append, List.length_replicate]
      omega
    rw [List.getElem?_set]
    by_cases same : position = other
    · subst same
      rw [if_pos rfl, if_pos (by rw [length]; omega), if_pos rfl]
      rfl
    · rw [if_neg same, if_neg (Ne.symm same)]
      by_cases inside : other < before.choiceIndices.length
      · rw [List.getElem?_append_left inside]
      · rw [List.getElem?_append_right (by omega), List.getElem?_eq_none (by omega : _ ≤ other)]
        simp only [List.getElem?_replicate]
        split <;> rfl

theorem normalizeTerminal_ok {finishReason normalized : Json}
    (accepted : before.normalizeTerminal index finishReason = .ok (after, normalized)) :
    after = { before with terminalIndices := after.terminalIndices } ∧
      ((normalized.isNull = false ∧ index ∉ before.terminalIndices ∧
          after.terminalIndices = index :: before.terminalIndices) ∨
        (normalized.isNull = true ∧ after.terminalIndices = before.terminalIndices)) := by
  unfold normalizeTerminal at accepted
  split at accepted
  next =>
    cases accepted
    exact ⟨rfl, Or.inr ⟨rfl, rfl⟩⟩
  next reason =>
    split at accepted
    next =>
      cases accepted
      exact ⟨rfl, Or.inr ⟨rfl, rfl⟩⟩
    next =>
      split at accepted
      next => cases accepted
      next =>
        split at accepted
        next => cases accepted
        next fresh =>
          cases accepted
          exact ⟨rfl, Or.inl ⟨rfl, fresh, rfl⟩⟩
  next => cases accepted

theorem normalizeDelta_ok {fields delta : List (String × Json)}
    (accepted : normalizeDelta fields = .ok delta) :
    delta = keptFields (choiceDelta (.object fields)) := by
  unfold normalizeDelta at accepted
  unfold choiceDelta
  rw [Json.get_object]
  cases found : Json.field fields "delta" with
  | none =>
    rw [found] at accepted
    cases accepted
    rfl
  | some value =>
    rw [found] at accepted
    cases value with
    | null =>
      cases accepted
      rfl
    | object entries =>
      cases accepted
      rfl
    | bool | number | string | array => cases accepted

theorem normalizeChoice_ok {choice normalized : Json}
    (accepted : before.normalizeChoice position choice = .ok (after, normalized)) :
    ∃ index, NormalizesChoice before after position index choice normalized := by
  unfold normalizeChoice at accepted
  split at accepted
  next fields =>
    obtain ⟨⟨indexed, index⟩, given, accepted⟩ := Except.bind_eq_ok.mp accepted
    obtain ⟨delta, deltaGiven, accepted⟩ := Except.bind_eq_ok.mp accepted
    obtain ⟨⟨ended, finishReason⟩, finished, accepted⟩ := Except.bind_eq_ok.mp accepted
    cases accepted
    obtain ⟨grown, indices, fixed, own⟩ := canonicalIndex_ok given
    obtain ⟨marked, terminal⟩ := normalizeTerminal_ok finished
    have unmoved : after.choiceIndices = indexed.choiceIndices := by rw [marked]; rfl
    have counted : (indexed.observeDelta index delta).terminalIndices = before.terminalIndices := by
      rw [grown]; rfl
    rw [counted] at terminal
    refine ⟨index, ⟨?_, ?_, ?_, fixed, own, ?_, ?_, ?_⟩⟩
    · rw [marked, grown]
      exact ⟨rfl, rfl, rfl, rfl⟩
    · rw [marked, grown]
      rfl
    · rw [unmoved]
      exact indices
    · simp [Json.u64, Json.field_setField, Json.asU64, Json.ofNat]
    · simp [choiceDelta, Json.field_setField, Json.asObject, normalizeDelta_ok deltaGiven]
    · simpa [choiceFinishes, Json.field_setField] using terminal
  next => cases accepted

end Choice

end ChatStreamCanonicalizer

def finishesAt (index : Nat) (choice : Json) : Bool :=
  choiceFinishes choice && decide (choice.u64 "index" = some index)

namespace ChatStreamCanonicalizer

def terminated (canonicalizer : ChatStreamCanonicalizer) (index : Nat) : Nat :=
  if index ∈ canonicalizer.terminalIndices then 1 else 0

def Agrees (canonicalizer : ChatStreamCanonicalizer) (fixed : Nat → Nat) : Prop :=
  ∀ position index, canonicalizer.choiceIndices[position]?.join = some index →
    fixed position = index

structure NormalizesChoices (before after : ChatStreamCanonicalizer) (position : Nat)
    (choices normalized : List Json) : Prop where
  identity : after.id = before.id ∧ after.model = before.model ∧ after.created = before.created ∧
    after.identityLocked = before.identityLocked
  usage : after.usage = before.usage
  indices : ∀ other, after.choiceIndices[other]?.join =
    (before.choiceIndices[other]?.join).or
      (if position ≤ other then
        (choices[other - position]?).map fun choice => (choice.u64 "index").getD other
      else none)
  deltas : ∀ fixed, after.Agrees fixed →
    normalized.map (fun choice => (choice.u64 "index", choiceDelta choice)) =
      choices.mapIdx fun offset choice =>
        (some ((choice.u64 "index").getD (fixed (position + offset))),
          keptFields (choiceDelta choice))
  terminal : ∀ index, normalized.countP (finishesAt index) + before.terminated index =
    after.terminated index
  listed : ∀ choice ∈ normalized, ∃ index other : Nat,
    choice.u64 "index" = some index ∧ after.choiceIndices[other]?.join = some index

section Choices

variable {before after : ChatStreamCanonicalizer}

theorem NormalizesChoice.terminated {position index : Nat} {choice normalized : Json}
    (normalizes : NormalizesChoice before after position index choice normalized) (other : Nat) :
    (if finishesAt other normalized then 1 else 0) + before.terminated other =
      after.terminated other := by
  have named := normalizes.normalizedIndex
  unfold ChatStreamCanonicalizer.terminated
  rcases normalizes.terminal with ⟨finishes, fresh, marked⟩ | ⟨goesOn, unmarked⟩
  · by_cases same : other = index
    · subst same
      simp [finishesAt, finishes, named, marked, fresh]
    · simp [finishesAt, named, marked, same, Ne.symm same]
  · simp [finishesAt, goesOn, unmarked]

theorem normalizeChoices_ok {position : Nat} {choices normalized : List Json}
    (accepted : before.normalizeChoices position choices = .ok (after, normalized)) :
    NormalizesChoices before after position choices normalized := by
  induction choices generalizing before position normalized with
  | nil =>
    cases accepted
    refine ⟨⟨rfl, rfl, rfl, rfl⟩, rfl, fun other => by simp, fun _ _ => rfl, fun index => by simp,
      fun _ absent => nomatch absent⟩
  | cons choice rest ih =>
    obtain ⟨⟨next, first⟩, one, accepted⟩ := Except.bind_eq_ok.mp accepted
    obtain ⟨⟨last, others⟩, more, accepted⟩ := Except.bind_eq_ok.mp accepted
    cases accepted
    obtain ⟨index, normalizes⟩ := normalizeChoice_ok one
    have later := ih more
    -- The index of the first position is kept by the rest.
    have held : after.choiceIndices[position]?.join = some index := by
      rw [later.indices position, normalizes.indices position, if_pos rfl]
      rfl
    refine ⟨?_, later.usage.trans normalizes.usage, ?_, ?_, ?_, ?_⟩
    · obtain ⟨id, model, created, locked⟩ := later.identity
      obtain ⟨id', model', created', locked'⟩ := normalizes.identity
      exact ⟨id.trans id', model.trans model', created.trans created', locked.trans locked'⟩
    · intro other
      rw [later.indices other, normalizes.indices other]
      by_cases same : other = position
      · subst same
        rw [if_pos rfl, if_pos (Nat.le_refl other), Nat.sub_self]
        have fixed := normalizes.fixed
        cases known : before.choiceIndices[other]?.join with
        | none =>
          rw [known] at fixed
          simpa using fixed.symm
        | some found =>
          rw [known] at fixed
          simpa using fixed.symm
      · rw [if_neg same]
        by_cases behind : position + 1 ≤ other
        · have offset : other - position = other - (position + 1) + 1 := by omega
          rw [if_pos behind, if_pos (by omega), offset, List.getElem?_cons_succ]
        · rw [if_neg behind, if_neg (by omega)]
    · intro fixed agrees
      rw [List.map_cons, List.mapIdx_cons, later.deltas fixed agrees, normalizes.normalizedIndex,
        normalizes.normalizedDelta]
      have named : (choice.u64 "index").getD (fixed position) = index := by
        cases own : choice.u64 "index" with
        | none => exact agrees position index held
        | some incoming => exact normalizes.own incoming own
      simp only [Nat.add_zero, named, Nat.add_assoc, Nat.add_comm 1]
    · intro other
      have one := normalizes.terminated other
      have rest := later.terminal other
      rw [List.countP_cons]
      omega
    · intro listed member
      rcases List.mem_cons.mp member with rfl | member
      · exact ⟨index, position, normalizes.normalizedIndex, held⟩
      · exact later.listed listed member

theorem mapIdx_named {choices : List Json}
    (named : ∀ choice ∈ choices, (choice.u64 "index").isSome) (fixed : Nat → Nat) :
    (choices.mapIdx fun position choice =>
        ((choice.u64 "index").getD (fixed position), choiceDelta choice)) =
      (choices.map fun choice => (choice.u64 "index", choiceDelta choice)).map fun view =>
        (view.1.getD 0, view.2) := by
  induction choices generalizing fixed with
  | nil => rfl
  | cons choice rest ih =>
    obtain ⟨index, present⟩ := Option.isSome_iff_exists.mp (named choice List.mem_cons_self)
    rw [List.mapIdx_cons, ih (fun other later => named other (List.mem_cons_of_mem _ later))
      fun position => fixed (position + 1)]
    simp [present]

structure Pushes (before after : ChatStreamCanonicalizer) (chunk : Json) (events : List Json) :
    Prop where
  locked : after.identityLocked = true
  identity : before.identityLocked = true → sameIdentity after before
  identified : ∀ event ∈ events, after.Identifies event
  unused : ∀ event ∈ events, event.get "usage" = none
  indices : ∀ position : Nat, after.choiceIndices[position]?.join =
    (before.choiceIndices[position]?.join).or
      (((chunkChoices chunk)[position]?).map fun choice => (choice.u64 "index").getD position)
  deltas : ∀ fixed other, after.Agrees fixed →
    events.flatMap (indexedDeltas other) =
      (indexedDeltas fixed chunk).map fun delta => (delta.1, keptFields delta.2)
  terminal : ∀ index, (events.flatMap chunkChoices).countP (finishesAt index) +
    before.terminated index = after.terminated index
  listed : ∀ choice ∈ events.flatMap chunkChoices, ∃ index position : Nat,
    choice.u64 "index" = some index ∧ after.choiceIndices[position]?.join = some index

theorem stabilizeIdentity_ok {object : List (String × Json)}
    (accepted : before.stabilizeIdentity object = .ok after) :
    after.identityLocked = true ∧ (before.identityLocked = true → sameIdentity after before) ∧
      after.choiceIndices = before.choiceIndices ∧
      after.terminalIndices = before.terminalIndices := by
  unfold stabilizeIdentity at accepted
  obtain ⟨incomingId, -, accepted⟩ := Except.bind_eq_ok.mp accepted
  obtain ⟨incomingModel, -, accepted⟩ := Except.bind_eq_ok.mp accepted
  obtain ⟨incomingCreated, -, accepted⟩ := Except.bind_eq_ok.mp accepted
  split at accepted
  next locked =>
    cases accepted
    exact ⟨locked, fun _ => ⟨rfl, rfl, rfl⟩, rfl, rfl⟩
  next unlocked =>
    cases accepted
    exact ⟨rfl, fun locked => absurd locked unlocked, rfl, rfl⟩

@[simp] theorem chunkChoices_canonicalChunk (canonicalizer : ChatStreamCanonicalizer)
    (object : List (String × Json)) (choices : List Json) :
    chunkChoices (canonicalizer.canonicalChunk object choices) = choices := by
  simp [chunkChoices, canonicalChunk, Json.field_setField, Json.field_removeField, Json.asArray]

theorem identifies_canonicalChunk (canonicalizer : ChatStreamCanonicalizer)
    (object : List (String × Json)) (choices : List Json) :
    canonicalizer.Identifies (canonicalizer.canonicalChunk object choices) := by
  simp [Identifies, Json.str, Json.u64, canonicalChunk, Json.field_setField,
    Json.field_removeField, Json.asStr, Json.asU64, Json.ofNat]

theorem usage_canonicalChunk (canonicalizer : ChatStreamCanonicalizer)
    (object : List (String × Json)) (choices : List Json) :
    (canonicalizer.canonicalChunk object choices).get "usage" = none := by
  simp [canonicalChunk, Json.field_removeField]

theorem push_ok {chunk : Json} {events : List Json}
    (accepted : before.push chunk = .ok (after, events)) : Pushes before after chunk events := by
  unfold push at accepted
  split at accepted
  next object =>
    split at accepted
    next => cases accepted
    next identified stabilized =>
      obtain ⟨locked, identity, indices, terminals⟩ := stabilizeIdentity_ok stabilized
      split at accepted
      next chosen =>
        cases accepted
        have none : chunkChoices (.object object) = [] := by
          cases found : Json.field object "choices" with
          | none => simp [chunkChoices, found]
          | some value =>
            rw [found] at chosen
            cases chosen
            simp [chunkChoices, found, Json.asArray]
        refine ⟨locked, identity, by simp, by simp, fun position => ?_,
          fun fixed other agrees => ?_, fun index => ?_, by simp⟩
        · simp [keepUsage, indices, none]
        · simp [indexedDeltas, none]
        · simp [terminated, keepUsage, terminals]
      next choice rest chosen =>
        split at accepted
        next => cases accepted
        next next choices normalized =>
          cases accepted
          have normalizes := normalizeChoices_ok normalized
          have found : chunkChoices (.object object) = choice :: rest := by
            cases present : Json.field object "choices" with
            | none =>
              rw [present] at chosen
              cases chosen
            | some value =>
              rw [present] at chosen
              cases chosen
              simp [chunkChoices, present, Json.asArray]
          obtain ⟨id, model, created, keptLock⟩ := normalizes.identity
          refine ⟨keptLock.trans locked, fun before => ?_, ?_, ?_, fun position => ?_,
            fun fixed other agrees => ?_, fun index => ?_, ?_⟩
          · obtain ⟨id', model', created'⟩ := identity before
            exact ⟨id.trans id', model.trans model', created.trans created'⟩
          · intro event member
            rw [List.mem_singleton.mp member]
            exact identifies_canonicalChunk _ _ _
          · intro event member
            rw [List.mem_singleton.mp member]
            exact usage_canonicalChunk _ _ _
          · rw [normalizes.indices position, found]
            simp [keepUsage, indices]
          · have named : ∀ choice ∈ choices, (choice.u64 "index").isSome := by
              intro choice member
              obtain ⟨index, -, present, -⟩ := normalizes.listed choice member
              simp [present]
            have views := normalizes.deltas fixed agrees
            simp only [List.flatMap_cons, List.flatMap_nil, List.append_nil, indexedDeltas,
              chunkChoices_canonicalChunk, found]
            rw [mapIdx_named named, views]
            simp [List.mapIdx_eq_zipIdx_map]
          · have counted := normalizes.terminal index
            simpa [terminated, keepUsage, terminals] using counted
          · intro choice member
            exact normalizes.listed choice (by simpa using member)
      next => cases accepted
  next => cases accepted

end Choices

structure PushesAll (before after : ChatStreamCanonicalizer) (chunks events : List Json) :
    Prop where
  identity : before.identityLocked = true →
    after.identityLocked = true ∧ sameIdentity after before
  identified : ∀ event ∈ events, after.Identifies event
  unused : ∀ event ∈ events, event.get "usage" = none
  indices : ∀ position : Nat, after.choiceIndices[position]?.join =
    (before.choiceIndices[position]?.join).or (fixedIndex chunks position)
  deltas : ∀ fixed other, after.Agrees fixed →
    events.flatMap (indexedDeltas other) =
      (chunks.flatMap (indexedDeltas fixed)).map fun delta => (delta.1, keptFields delta.2)
  terminal : ∀ index, (events.flatMap chunkChoices).countP (finishesAt index) +
    before.terminated index = after.terminated index
  listed : ∀ choice ∈ events.flatMap chunkChoices, ∃ index position : Nat,
    choice.u64 "index" = some index ∧ after.choiceIndices[position]?.join = some index

section Runs

variable {before middle after : ChatStreamCanonicalizer}

theorem Identifies.same {event : Json} (identifies : before.Identifies event)
    (same : sameIdentity after before) : after.Identifies event := by
  obtain ⟨id, model, created⟩ := same
  unfold Identifies
  rw [id, model, created]
  exact identifies

theorem fixedIndex_cons (chunk : Json) (rest : List Json) (position : Nat) :
    fixedIndex (chunk :: rest) position =
      (((chunkChoices chunk)[position]?).map fun choice => (choice.u64 "index").getD position).or
        (fixedIndex rest position) := by
  unfold fixedIndex
  rw [List.findSome?_cons]
  cases (chunkChoices chunk)[position]? <;> rfl

theorem PushesAll.cons {chunk : Json} {rest events later : List Json}
    (first : Pushes before middle chunk events) (others : PushesAll middle after rest later) :
    PushesAll before after (chunk :: rest) (events ++ later) := by
  obtain ⟨locked, same⟩ := others.identity first.locked
  -- An index that is fixed stays fixed.
  have kept : ∀ position index : Nat, middle.choiceIndices[position]?.join = some index →
      after.choiceIndices[position]?.join = some index := by
    intro position index found
    rw [others.indices position, found]
    rfl
  refine ⟨fun before => ⟨locked, ?_⟩, ?_, ?_, fun position => ?_, fun fixed other agrees => ?_,
    fun index => ?_, ?_⟩
  · obtain ⟨id, model, created⟩ := same
    obtain ⟨id', model', created'⟩ := first.identity before
    exact ⟨id.trans id', model.trans model', created.trans created'⟩
  · intro event member
    rcases List.mem_append.mp member with early | late
    · exact (first.identified event early).same same
    · exact others.identified event late
  · intro event member
    rcases List.mem_append.mp member with early | late
    · exact first.unused event early
    · exact others.unused event late
  · rw [others.indices position, first.indices position, fixedIndex_cons, Option.or_assoc]
  · have early := first.deltas fixed other fun position index found =>
      agrees position index (kept position index found)
    rw [List.flatMap_append, early, others.deltas fixed other agrees, List.flatMap_cons,
      List.map_append]
  · have early := first.terminal index
    have late := others.terminal index
    rw [List.flatMap_append, List.countP_append]
    omega
  · intro choice member
    rw [List.flatMap_append] at member
    rcases List.mem_append.mp member with early | late
    · obtain ⟨index, position, named, found⟩ := first.listed choice early
      exact ⟨index, position, named, kept position index found⟩
    · exact others.listed choice late

theorem pushAll_ok {chunks events : List Json}
    (accepted : before.pushAll chunks = .ok (after, events)) :
    PushesAll before after chunks events := by
  induction chunks generalizing before events with
  | nil =>
    cases accepted
    refine ⟨fun locked => ⟨locked, rfl, rfl, rfl⟩, by simp, by simp, fun position => ?_,
      fun _ _ _ => rfl, fun index => by simp, by simp⟩
    simp [fixedIndex]
  | cons chunk rest ih =>
    obtain ⟨⟨middle, early⟩, pushed, accepted⟩ := Except.bind_eq_ok.mp accepted
    obtain ⟨⟨last, later⟩, others, accepted⟩ := Except.bind_eq_ok.mp accepted
    cases accepted
    exact PushesAll.cons (push_ok pushed) (ih others)

end Runs

section Finish

variable {canonicalizer last : ChatStreamCanonicalizer} {final : List Json}

def endingChoice (index : Nat) (reason : String) : Json :=
  .object [("index", .ofNat index), ("delta", .object []), ("finish_reason", .string reason)]

theorem missingReasons_ok {indices : List Nat} {choices : List Json}
    (accepted : canonicalizer.missingReasons indices = .ok choices) :
    List.Forall₂ (fun index choice => ∃ reason, choice = endingChoice index reason) indices
      choices := by
  induction indices generalizing choices with
  | nil =>
    cases accepted
    exact .nil
  | cons index rest ih =>
    obtain ⟨choice, one, accepted⟩ := Except.bind_eq_ok.mp accepted
    obtain ⟨others, more, accepted⟩ := Except.bind_eq_ok.mp accepted
    cases accepted
    refine .cons ?_ (ih more)
    unfold missingReason at one
    dsimp only at one
    split at one
    next =>
      cases one
      exact ⟨"tool_calls", rfl⟩
    next =>
      split at one
      next =>
        cases one
        exact ⟨"stop", rfl⟩
      next => cases one

theorem nodup_missingChoices (canonicalizer : ChatStreamCanonicalizer) :
    canonicalizer.missingChoices.Nodup := by
  unfold missingChoices
  refine List.Nodup.filter _ ?_
  split
  · exact List.nodup_singleton 0
  · exact List.nodup_dedup _

theorem mem_missingChoices {position index : Nat}
    (found : canonicalizer.choiceIndices[position]?.join = some index) :
    index ∈ canonicalizer.missingChoices ↔ index ∉ canonicalizer.terminalIndices := by
  have member : some index ∈ canonicalizer.choiceIndices :=
    List.mem_of_getElem? (Option.join_eq_some_iff.mp found)
  have nonempty : canonicalizer.choiceIndices.isEmpty = false := by
    cases empty : canonicalizer.choiceIndices with
    | nil => rw [empty] at member; cases member
    | cons => rfl
  unfold missingChoices
  rw [nonempty]
  simp [List.reduceOption_mem_iff.mpr member]

theorem countP_endings {indices : List Nat} {choices : List Json} (distinct : indices.Nodup)
    (endings : List.Forall₂ (fun index choice => ∃ reason, choice = endingChoice index reason) indices
      choices) (index : Nat) :
    choices.countP (finishesAt index) = if index ∈ indices then 1 else 0 := by
  have named : ∀ other reason, finishesAt index (endingChoice other reason) =
      decide (other = index) := by
    intro other reason
    simp [finishesAt, choiceFinishes, endingChoice, Json.u64, Json.asU64, Json.ofNat, Json.isNull]
  induction endings with
  | nil => rfl
  | @cons other choice rest choices ending _ ih =>
    obtain ⟨reason, rfl⟩ := ending
    obtain ⟨absent, others⟩ := List.nodup_cons.mp distinct
    rw [List.countP_cons, ih others, named]
    by_cases same : other = index
    · subst same
      simp [absent]
    · simp [same, Ne.symm same]

theorem ending_of_mem {indices : List Nat} {choices : List Json}
    (endings : List.Forall₂ (fun index choice => ∃ reason, choice = endingChoice index reason) indices
      choices) {choice : Json} (member : choice ∈ choices) :
    ∃ index ∈ indices, ∃ reason, choice = endingChoice index reason := by
  induction endings with
  | nil => cases member
  | @cons index first rest choices ending _ ih =>
    rcases List.mem_cons.mp member with rfl | later
    · exact ⟨index, List.mem_cons_self, ending⟩
    · obtain ⟨other, listed, found⟩ := ih later
      exact ⟨other, List.mem_cons_of_mem _ listed, found⟩

theorem chunkChoices_envelope (choices : List Json) :
    chunkChoices (.object (canonicalizer.envelope choices)) = choices := by
  simp [chunkChoices, envelope, Json.asArray]

structure Finishes (canonicalizer last : ChatStreamCanonicalizer) (final : List Json) : Prop where
  identified : ∀ event ∈ final, canonicalizer.Identifies event
  usage : ∀ front event back, final = front ++ event :: back → event.get "usage" ≠ none →
    back = [] ∧ chunkChoices event = []
  emptyDeltas : ∀ choice ∈ final.flatMap chunkChoices, choiceDelta choice = []
  terminal : ∀ index, (final.flatMap chunkChoices).countP (finishesAt index) =
    if index ∈ canonicalizer.missingChoices then 1 else 0
  named : ∀ choice ∈ final.flatMap chunkChoices, ∃ index ∈ canonicalizer.missingChoices,
    choice.u64 "index" = some index
  again : last.finishInner = .ok (last, [])

theorem identifies_envelope (choices : List Json) (rest : List (String × Json)) :
    canonicalizer.Identifies (.object (canonicalizer.envelope choices ++ rest)) := by
  simp [Identifies, Json.str, Json.u64, envelope, Json.asStr, Json.asU64, Json.ofNat]

theorem usageEvents_cases (canonicalizer : ChatStreamCanonicalizer) :
    canonicalizer.usageEvents = [] ∨ ∃ event, canonicalizer.usageEvents = [event] ∧
      canonicalizer.Identifies event ∧ chunkChoices event = [] := by
  unfold usageEvents
  split
  next usage _ =>
    exact Or.inr ⟨_, rfl, identifies_envelope [] _, by simp [chunkChoices, envelope, Json.asArray]⟩
  next => exact Or.inl rfl

theorem filter_ended (choices terminals : List Nat) :
    choices.filter (· ∉ choices.filter (· ∉ terminals) ++ terminals) = [] := by
  rw [List.filter_eq_nil_iff]
  intro index listed
  by_cases ended : index ∈ terminals
  · simp [ended]
  · simp [ended, listed]

-- The terminal event, when there is one, ends the missing choices and nothing else.
theorem terminalEvents_ok {terminals : List Json}
    (accepted : canonicalizer.terminalEvents = .ok terminals) :
    ∃ choices, List.Forall₂ (fun index choice => ∃ reason, choice = endingChoice index reason)
        canonicalizer.missingChoices choices ∧
      terminals.flatMap chunkChoices = choices ∧
      (∀ event ∈ terminals, canonicalizer.Identifies event ∧ event.get "usage" = none) := by
  unfold terminalEvents at accepted
  split at accepted
  next empty =>
    cases accepted
    rw [List.isEmpty_iff.mp empty]
    exact ⟨[], .nil, rfl, by simp⟩
  next =>
    obtain ⟨choices, reasons, accepted⟩ := Except.bind_eq_ok.mp accepted
    cases accepted
    refine ⟨choices, missingReasons_ok reasons, by simp [chunkChoices_envelope], ?_⟩
    intro event member
    rw [List.mem_singleton.mp member]
    refine ⟨by simpa using @identifies_envelope canonicalizer choices [], ?_⟩
    simp [envelope]

theorem finishInner_ok (accepted : canonicalizer.finishInner = .ok (last, final)) :
    Finishes canonicalizer last final := by
  obtain ⟨terminals, terminated, accepted⟩ := Except.bind_eq_ok.mp accepted
  cases accepted
  obtain ⟨choices, endings, chosen, events⟩ := terminalEvents_ok terminated
  have silent : canonicalizer.usageEvents.flatMap chunkChoices = [] := by
    rcases canonicalizer.usageEvents_cases with none | ⟨event, one, -, empty⟩
    · rw [none]
      rfl
    · simp [one, empty]
  have ended : ∀ choice ∈ choices, ∃ index ∈ canonicalizer.missingChoices, ∃ reason,
      choice = endingChoice index reason := fun _ member => ending_of_mem endings member
  refine ⟨?_, ?_, ?_, ?_, ?_, ?_⟩
  · intro event member
    rcases List.mem_append.mp member with early | late
    · exact (events event early).1
    · rcases canonicalizer.usageEvents_cases with none | ⟨usage, one, identified, -⟩
      · rw [none] at late
        cases late
      · rw [one, List.mem_singleton] at late
        rw [late]
        exact identified
  · intro front event back split used
    have unused : event ∉ terminals := fun early => used (events event early).2
    rcases canonicalizer.usageEvents_cases with none | ⟨usage, one, -, empty⟩
    · rw [none, List.append_nil] at split
      exact absurd (split ▸ List.mem_append_right _ List.mem_cons_self) unused
    · rw [one] at split
      rcases List.eq_nil_or_concat' back with rfl | ⟨others, final, rfl⟩
      · have same := (List.append_inj_right' split rfl)
        cases same
        exact ⟨rfl, empty⟩
      · rw [← List.cons_append, ← List.append_assoc] at split
        have same := List.append_inj_left' split rfl
        exact absurd (same ▸ List.mem_append_right _ List.mem_cons_self) unused
  · intro choice member
    rw [List.flatMap_append, silent, List.append_nil, chosen] at member
    obtain ⟨index, -, reason, rfl⟩ := ended choice member
    simp [choiceDelta, endingChoice, Json.asObject]
  · intro index
    rw [List.flatMap_append, silent, List.append_nil, chosen]
    exact countP_endings canonicalizer.nodup_missingChoices endings index
  · intro choice member
    rw [List.flatMap_append, silent, List.append_nil, chosen] at member
    obtain ⟨index, listed, reason, rfl⟩ := ended choice member
    exact ⟨index, listed, by simp [endingChoice, Json.u64, Json.asU64, Json.ofNat]⟩
  · have none : missingChoices { canonicalizer with
        terminalIndices := canonicalizer.missingChoices ++ canonicalizer.terminalIndices
        usage := none } = [] := filter_ended _ _
    simp only [finishInner, terminalEvents, none]
    rfl

end Finish

theorem field_keptFields (delta : List (String × Json)) {name : String}
    (other : name ∉ nullableFields) : Json.field (keptFields delta) name = Json.field delta name := by
  induction delta with
  | nil => rfl
  | cons entry rest ih =>
    obtain ⟨key, value⟩ := entry
    unfold keptFields at ih ⊢
    rw [List.filter_cons]
    split
    next => rw [Json.field_cons, Json.field_cons, ih]
    next dropped =>
      have different : key ≠ name := by
        rintro rfl
        simp [other] at dropped
      rw [ih, Json.field_cons, if_neg different]

theorem field_eq_none {delta : List (String × Json)} {name : String}
    (absent : name ∉ delta.map Prod.fst) : Json.field delta name = none := by
  induction delta with
  | nil => rfl
  | cons entry rest ih =>
    obtain ⟨key, value⟩ := entry
    simp only [List.map_cons, List.mem_cons, not_or] at absent
    rw [Json.field_cons, if_neg (Ne.symm absent.1), ih absent.2]

theorem field_keptFields_nullable {delta : List (String × Json)}
    (distinct : (delta.map Prod.fst).Nodup) {name : String} (nullable : name ∈ nullableFields) :
    Json.field (keptFields delta) name = (Json.field delta name).filter fun value => !value.isNull := by
  induction delta with
  | nil => rfl
  | cons entry rest ih =>
    obtain ⟨key, value⟩ := entry
    obtain ⟨absent, others⟩ := List.nodup_cons.mp distinct
    have later := ih others
    unfold keptFields at later ⊢
    rw [List.filter_cons, Json.field_cons]
    by_cases same : key = name
    · subst same
      rw [if_pos rfl, Option.filter_some]
      cases null : value.isNull with
      | true =>
        rw [if_neg (by simp [nullable]), later, field_eq_none absent]
        simp
      | false =>
        rw [if_pos (by simp), Json.field_cons, if_pos rfl]
        simp
    · rw [if_neg same, ← later]
      split
      next => rw [Json.field_cons, if_neg same]
      next => rfl

theorem deltaText_keptFields {name : String} (other : name ∉ nullableFields)
    (delta : List (String × Json)) : deltaText name (keptFields delta) = deltaText name delta := by
  unfold deltaText
  rw [field_keptFields delta other]

theorem deltaArguments_keptFields (toolIndex : Nat) {delta : List (String × Json)}
    (distinct : (delta.map Prod.fst).Nodup) :
    deltaArguments toolIndex (keptFields delta) = deltaArguments toolIndex delta := by
  have calls : ((Json.field (keptFields delta) "tool_calls").bind Json.asArray) =
      (Json.field delta "tool_calls").bind Json.asArray := by
    rw [field_keptFields_nullable distinct (by simp [nullableFields])]
    cases Json.field delta "tool_calls" with
    | none => rfl
    | some value => cases value <;> rfl
  unfold deltaArguments
  rw [calls]

theorem join_blank {texts : List String} (blank : ∀ text ∈ texts, text = "") :
    String.join texts = "" := by
  induction texts with
  | nil => exact String.join_nil
  | cons text rest ih =>
    rw [String.join_cons, blank text List.mem_cons_self,
      ih fun other member => blank other (List.mem_cons_of_mem _ member)]
    rfl

end ChatStreamCanonicalizer

open ChatStreamCanonicalizer

structure CanonicalOutput (chunks output : List Json) : Prop where
  identity : ∃ id model created, ∀ event ∈ output, event.str "id" = some id ∧
    event.str "model" = some model ∧ event.u64 "created" = some created
  finished : ∀ index, index ∈ (streamDeltas chunks).map Prod.fst ∨
      index ∈ (streamDeltas output).map Prod.fst →
    (output.flatMap chunkChoices).countP (finishesAt index) = 1
  usage : ∀ front event back, output = front ++ event :: back → event.get "usage" ≠ none →
    back = [] ∧ chunkChoices event = []
  content : ∀ index, streamText (deltaText "content") index output =
    streamText (deltaText "content") index chunks
  reasoning : ∀ index, streamText (deltaText "reasoning_content") index output =
    streamText (deltaText "reasoning_content") index chunks
  toolArguments : ∀ index toolIndex, streamText (deltaArguments toolIndex) index output =
    streamText (deltaArguments toolIndex) index chunks

section Output

variable {before after last : ChatStreamCanonicalizer} {chunks events final : List Json}

theorem agrees_fixedIndex (pushes : PushesAll before after chunks events)
    (unfixed : before.choiceIndices = []) :
    after.Agrees fun position => (fixedIndex chunks position).getD position := by
  intro position index found
  rw [pushes.indices position, unfixed] at found
  simp only [List.getElem?_nil, Option.join_none, Option.none_or] at found
  simp [found]

theorem streamDeltas_output (pushes : PushesAll before after chunks events)
    (finishes : Finishes after last final) (unfixed : before.choiceIndices = []) :
    ∃ blanks, streamDeltas (events ++ final) =
        (streamDeltas chunks).map (fun delta => (delta.1, keptFields delta.2)) ++ blanks ∧
      ∀ blank ∈ blanks, blank.2 = [] := by
  refine ⟨final.flatMap (indexedDeltas fun position =>
    (fixedIndex (events ++ final) position).getD position), ?_, ?_⟩
  · unfold streamDeltas
    rw [List.flatMap_append, pushes.deltas _ _ (agrees_fixedIndex pushes unfixed)]
  · intro blank member
    obtain ⟨event, listed, member⟩ := List.mem_flatMap.mp member
    obtain ⟨position, bound, rfl⟩ := List.mem_mapIdx.mp member
    exact finishes.emptyDeltas _
      (List.mem_flatMap.mpr ⟨event, listed, List.getElem_mem bound⟩)

theorem streamText_output (pushes : PushesAll before after chunks events)
    (finishes : Finishes after last final) (unfixed : before.choiceIndices = [])
    {read : List (String × Json) → String} (blank : read [] = "")
    (kept : ∀ delta ∈ streamDeltas chunks, read (keptFields delta.2) = read delta.2) (index : Nat) :
    streamText read index (events ++ final) = streamText read index chunks := by
  obtain ⟨blanks, deltas, empty⟩ := streamDeltas_output pushes finishes unfixed
  unfold streamText
  rw [deltas, List.filter_append, List.map_append, String.join_append]
  have nothing : String.join ((blanks.filter fun delta => delta.1 = index).map fun delta =>
      read delta.2) = "" := by
    refine join_blank fun text member => ?_
    obtain ⟨delta, listed, rfl⟩ := List.mem_map.mp member
    rw [empty delta (List.mem_filter.mp listed).1, blank]
  rw [nothing, String.append_empty, List.filter_map, List.map_map]
  refine congrArg String.join (List.map_congr_left fun delta listed => ?_)
  exact kept delta (List.mem_filter.mp listed).1

theorem mem_streamDeltas_output (pushes : PushesAll before after chunks events)
    (finishes : Finishes after last final) {index : Nat}
    (member : index ∈ (streamDeltas (events ++ final)).map Prod.fst) :
    (∃ position : Nat, after.choiceIndices[position]?.join = some index) ∨
      index ∈ after.missingChoices := by
  obtain ⟨delta, listed, rfl⟩ := List.mem_map.mp member
  obtain ⟨event, emitted, listed⟩ := List.mem_flatMap.mp listed
  obtain ⟨position, bound, rfl⟩ := List.mem_mapIdx.mp listed
  have chosen : (chunkChoices event)[position] ∈ chunkChoices event := List.getElem_mem bound
  rcases List.mem_append.mp emitted with early | late
  · obtain ⟨index, place, named, found⟩ :=
      pushes.listed _ (List.mem_flatMap.mpr ⟨event, early, chosen⟩)
    refine Or.inl ⟨place, ?_⟩
    simpa [named] using found
  · obtain ⟨index, missing, named⟩ :=
      finishes.named _ (List.mem_flatMap.mpr ⟨event, late, chosen⟩)
    refine Or.inr ?_
    simpa [named] using missing

theorem countP_finishes_output (pushes : PushesAll before after chunks events)
    (finishes : Finishes after last final) (open' : before.terminalIndices = []) {index : Nat}
    (member : index ∈ (streamDeltas (events ++ final)).map Prod.fst) :
    ((events ++ final).flatMap chunkChoices).countP (finishesAt index) = 1 := by
  have early := pushes.terminal index
  have late := finishes.terminal index
  have ended : index ∈ after.missingChoices ↔ index ∉ after.terminalIndices := by
    rcases mem_streamDeltas_output pushes finishes member with ⟨position, found⟩ | missing
    · exact mem_missingChoices found
    · refine ⟨fun _ => ?_, fun _ => missing⟩
      unfold missingChoices at missing
      simpa using (List.mem_filter.mp missing).2
  rw [List.flatMap_append, List.countP_append, late]
  unfold terminated at early
  rw [open'] at early
  by_cases done : index ∈ after.terminalIndices
  · rw [if_neg (fun missing => ended.mp missing done)]
    simpa [done] using early
  · rw [if_pos (ended.mpr done)]
    simpa [done] using early

end Output

def textChunk (text : String) (finishReason : Json) : Json :=
  .object [("id", .string "chatcmpl-1"), ("model", .string "glm-5.2"), ("created", .ofNat 7),
    ("choices", .array [.object [("index", .ofNat 0),
      ("delta", .object [("content", .string text)]), ("finish_reason", finishReason)]])]

def lateTextChunks : List Json :=
  [textChunk "hello" (.string "stop"), textChunk " world" .null]

def exampleCanonicalizer : ChatStreamCanonicalizer :=
  { id := "fallback", model := "fallback", created := 1 }

def ChatStreamCanonicalizer.emitted (canonicalizer : ChatStreamCanonicalizer) (chunks : List Json) :
    Except ProtocolError (List Json) := do
  let (pushed, events) ← canonicalizer.pushAll chunks
  let (_, final) ← pushed.finishInner
  .ok (events ++ final)

end ChatGateway
