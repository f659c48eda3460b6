import ChatGateway.Protocol.EventStream

set_option autoImplicit false

/-!
# Which call a fragment belongs to

A fragment of a streamed tool call names its call by an index, by an id, by both or by neither. The
translator keeps the calls under numbers of its own, in which the indexes of the upstream and the
keys it allocates itself share one space.
-/

namespace ChatGateway

open ChatToResponsesState

inductive FragmentCall where
  | indexed (index : Nat) (id : Option String)
  | named (id : String)
  | unnamed
  | functionCall (id : String)

def FragmentCall.id : FragmentCall → Option String
  | indexed _ id => id
  | named id => some id
  | unnamed => none
  | functionCall id => some id

structure Placement where
  before : ChatToResponsesState
  call : FragmentCall
  name : Option String
  key : Nat

namespace ChatToResponsesState

def fragmentCall (object : List (String × Json)) : FragmentCall :=
  match (Json.field object "index").bind Json.asU64 with
  | some index => .indexed index (callIdHint object)
  | none =>
    match callIdHint object with
    | some id => .named id
    | none => .unnamed

section Placements

variable (stamp : ResponseStamp) (codec : JsonCodec)

def placedToolCall (state : ChatToResponsesState) (toolCall : Json) (position : Nat) :
    List Placement :=
  match toolCall.asObject.bind fun object =>
    (extractToolCallDetails object).map fun details => (object, details) with
  | none => []
  | some (object, name, _) =>
    [{ before := state, call := fragmentCall object, name
       key := state.toolCallKey object (callIdHint object) name position }]

def placedToolCalls (state : ChatToResponsesState) (position : Nat) : List Json → List Placement
  | [] => []
  | toolCall :: rest =>
    let begun := (state.beginOutput stamp).1
    begun.placedToolCall toolCall position ++
      match begun.emitChatToolCallDelta stamp codec toolCall position with
      | .error _ => []
      | .ok emitted => placedToolCalls emitted.1 (position + 1) rest

def placedFunctionCall (state : ChatToResponsesState) (delta : Json) : List Placement :=
  let before := (state.beginOutput stamp).1
  match (delta.get "function_call").bind Json.asObject with
  | none => []
  | some object =>
    match callIdHint object, (Json.field object "name").bind Json.asStr with
    | some id, some name => [{ before, call := .functionCall id, name := some name, key := 0 }]
    | _, _ => []

def placedChoice (state : ChatToResponsesState) (choice : Json) : List Placement :=
  let delta := (choice.get "delta").getD .null
  let toolCalls := ((delta.get "tool_calls").bind Json.asArray).getD []
  match (state.translateReasoning stamp delta).1.translateContent stamp delta with
  | .error _ => []
  | .ok texted =>
    texted.1.placedToolCalls stamp codec 0 toolCalls ++
      match texted.1.translateToolCalls stamp codec 0 toolCalls with
      | .error _ => []
      | .ok called => called.1.placedFunctionCall stamp delta

def placedEvent (state : ChatToResponsesState) (event : Json) : List Placement :=
  if state.completedEmitted then []
  else
    match (event.get "choices").bind Json.asArray with
    | some [choice] => (state.metered stamp event).placedChoice stamp codec choice
    | _ => []

def placedFrom : ChatToResponsesState → List Json → List Placement
  | _, [] => []
  | state, chunk :: rest =>
    state.placedEvent stamp codec chunk ++
      match state.translateEvent stamp codec chunk with
      | .error _ => []
      | .ok (next, _) => placedFrom next rest

end Placements

end ChatToResponsesState

def NamesConflict (first second : Option String) : Prop :=
  ∃ one other, first = some one ∧ second = some other ∧ one ≠ "" ∧ other ≠ "" ∧ one ≠ other

def Placement.SingleOpen (placement : Placement) (key : Nat) (call : ChatToolCallState) : Prop :=
  (placement.before.toolCalls.entries.filter fun entry => !entry.2.doneEmitted) = [(key, call)]

def Placement.Allocates (placement : Placement) : Prop :=
  match placement.call with
  | .indexed _ _ => False
  | .named id => ∀ entry ∈ placement.before.toolCalls.entries, entry.2.callId ≠ id
  | .unnamed => ∀ key call, placement.SingleOpen key call → NamesConflict placement.name call.name
  | .functionCall _ => False

def OneToOne (placed : List Placement) : Prop :=
  ∀ first ∈ placed, ∀ second ∈ placed, ∀ index other id otherId,
    first.call = .indexed index (some id) → second.call = .indexed other (some otherId) →
      (index = other ↔ id = otherId)

structure IdentityKept (placed : List Placement) : Prop where
  apart : ∀ first ∈ placed, ∀ second ∈ placed, ∀ id other, first.key = second.key →
    first.call.id = some id → second.call.id = some other → id = other
  together : ∀ first ∈ placed, ∀ second ∈ placed, ∀ id,
    first.call.id = some id → second.call.id = some id → first.key = second.key
  continues : ∀ placement ∈ placed, placement.call = .unnamed → ∀ key call,
    placement.SingleOpen key call → ¬ NamesConflict placement.name call.name → placement.key = key
  allocates : ∀ placement ∈ placed, placement.Allocates →
    placement.key < 2 ^ 64 ∧ placement.before.toolCalls.find? placement.key = none

structure FreshIds (stamp : ResponseStamp) (placed : List Placement) : Prop where
  given : ∀ key, stamp.callId key ≠ ""
  apart : ∀ placement ∈ placed, ∀ key, placement.call.id ≠ some (stamp.callId key)

def KeysLeft (state : ChatToResponsesState) : Prop :=
  ∀ entry ∈ state.toolCalls.entries, entry.1 + 1 < 2 ^ 64

/-- The call at `key` may be the one with the id, and no call at another key is. -/
def OnlyAt (state : ChatToResponsesState) (key : Nat) (ids : List String) (id : String) : Prop :=
  (∀ call, state.toolCalls.find? key = some call → call.callId ∈ ids) ∧
    ∀ entry ∈ state.toolCalls.entries, entry.2.callId = id → entry.1 = key

def Remembered (earlier : List Placement) (state : ChatToResponsesState) (id : String) : Prop :=
  ∀ other ∈ earlier, other.call.id = some id →
    ∃ entry ∈ state.toolCalls.entries, entry.2.callId = id

def Placement.Unmixed (stamp : ResponseStamp) (earlier : List Placement) (placement : Placement) :
    Prop :=
  placement.call.id ≠ some "" ∧ (placement.Allocates → KeysLeft placement.before) ∧
    match placement.call with
    | .indexed _ none => True
    | .indexed index (some id) => OnlyAt placement.before index [id, stamp.callId index] id
    | .named id => Remembered earlier placement.before id
    | .unnamed => True
    | .functionCall id =>
      OnlyAt placement.before 0 [id] id ∧ Remembered earlier placement.before id

def UnmixedThroughout (stamp : ResponseStamp) (placed : List Placement) : Prop :=
  ∀ earlier placement later, placed = earlier ++ placement :: later →
    placement.Unmixed stamp earlier

def idAfter (stamp : ResponseStamp) (known : Option ChatToolCallState) (key : Nat)
    (id : Option String) : String :=
  match known with
  | none => id.getD (stamp.callId key)
  | some call => if call.callId = "" then id.getD (stamp.callId key) else call.callId

def Placement.expectedKey (placement : Placement) : Nat :=
  match placement.call with
  | .indexed index _ => index
  | .named id => (placement.before.callKeyById id).getD placement.before.nextFreeKey
  | .unnamed => placement.before.continuedKey placement.name
  | .functionCall _ => 0

structure Placement.Leads (stamp : ResponseStamp) (placement : Placement)
    (calls next : OrderedMap Nat ChatToolCallState) : Prop where
  before : placement.before.toolCalls = calls
  key : placement.key = placement.expectedKey
  stored : ∃ call, next = calls.put placement.key call ∧
    call.callId = idAfter stamp (calls.find? placement.key) placement.key placement.call.id

inductive Chain (stamp : ResponseStamp) : OrderedMap Nat ChatToolCallState → List Placement →
    OrderedMap Nat ChatToolCallState → Prop where
  | nil {calls : OrderedMap Nat ChatToolCallState} : Chain stamp calls [] calls
  | cons {calls next final : OrderedMap Nat ChatToolCallState} {placement : Placement}
      {rest : List Placement} (leads : placement.Leads stamp calls next)
      (later : Chain stamp next rest final) : Chain stamp calls (placement :: rest) final

theorem Chain.append {stamp : ResponseStamp} {calls middle final : OrderedMap Nat ChatToolCallState}
    {first second : List Placement} (before : Chain stamp calls first middle)
    (after : Chain stamp middle second final) : Chain stamp calls (first ++ second) final := by
  induction before with
  | nil => exact after
  | cons leads _ ih => exact .cons leads (ih after)

structure Identified (stamp : ResponseStamp) (earlier : List Placement)
    (calls : OrderedMap Nat ChatToolCallState) : Prop where
  filled : ∀ key call, calls.find? key = some call → call.callId ≠ ""
  named : ∀ key call, calls.find? key = some call → call.callId = stamp.callId key ∨
    ∃ placement ∈ earlier, placement.key = key ∧ placement.call.id = some call.callId
  stored : ∀ placement ∈ earlier, ∀ id, placement.call.id = some id →
    ∃ call, calls.find? placement.key = some call ∧ (call.callId = id ∨
      call.callId = stamp.callId placement.key ∧ placement.call = .indexed placement.key (some id))
  together : ∀ first ∈ earlier, ∀ second ∈ earlier, ∀ id,
    first.call.id = some id → second.call.id = some id → first.key = second.key

section Step

variable {stamp : ResponseStamp} {earlier : List Placement} {placement : Placement}
  {calls next : OrderedMap Nat ChatToolCallState}

theorem le_lastKey {map : OrderedMap Nat ChatToolCallState} {entry : Nat × ChatToolCallState}
    (member : entry ∈ map.entries) : ∃ last, map.lastKey? = some last ∧ entry.1 ≤ last := by
  unfold OrderedMap.lastKey?
  rcases List.eq_nil_or_concat map.entries with empty | ⟨front, final, split⟩
  · rw [empty] at member
    cases member
  · have sorted := map.sorted
    rw [split, List.concat_eq_append] at sorted member ⊢
    refine ⟨final.1, by simp, ?_⟩
    rcases List.mem_append.1 member with before | same
    · exact le_of_lt ((List.pairwise_append.1 sorted).2.2 entry before final (by simp))
    · obtain rfl := List.mem_singleton.1 same
      exact le_rfl

theorem nextFreeKey_unused (state : ChatToResponsesState) :
    state.toolCalls.find? state.nextFreeKey = none := by
  cases found : state.toolCalls.find? state.nextFreeKey with
  | none => rfl
  | some call =>
    obtain ⟨last, isLast, below⟩ := le_lastKey (OrderedMap.find?_eq_some.1 found)
    simp only [nextFreeKey, isLast] at below
    omega

theorem nextFreeKey_lt {state : ChatToResponsesState} (left : KeysLeft state) :
    state.nextFreeKey < 2 ^ 64 := by
  unfold nextFreeKey
  cases isLast : state.toolCalls.lastKey? with
  | none => simp
  | some last =>
    obtain ⟨entry, isEntry, rfl⟩ := Option.map_eq_some_iff.1 isLast
    exact left entry (List.mem_of_getLast? isEntry)

theorem callKeyById_some {state : ChatToResponsesState} {id : String} {key : Nat}
    (known : state.callKeyById id = some key) :
    ∃ call, state.toolCalls.find? key = some call ∧ call.callId = id := by
  obtain ⟨⟨_, call⟩, found, rfl⟩ := Option.map_eq_some_iff.1 known
  have same : call.callId = id := by simpa using List.find?_some found
  exact ⟨call, OrderedMap.find?_eq_some.2 (List.mem_of_find?_eq_some found), same⟩

theorem callKeyById_none {state : ChatToResponsesState} {id : String} :
    state.callKeyById id = none ↔ ∀ entry ∈ state.toolCalls.entries, entry.2.callId ≠ id := by
  simp [callKeyById]

theorem named_key {state : ChatToResponsesState} {id : String} {call : ChatToolCallState}
    (found : state.toolCalls.find? ((state.callKeyById id).getD state.nextFreeKey) = some call) :
    state.callKeyById id = some ((state.callKeyById id).getD state.nextFreeKey) ∧
      call.callId = id := by
  cases known : state.callKeyById id with
  | none =>
    rw [known, Option.getD_none, nextFreeKey_unused] at found
    cases found
  | some key =>
    obtain ⟨other, stored, same⟩ := callKeyById_some known
    rw [known, Option.getD_some, stored] at found
    obtain rfl := Option.some.inj found
    exact ⟨rfl, same⟩

theorem goes_to_own {call : ChatToolCallState} {id : String}
    (leads : placement.Leads stamp calls next) (unmixed : placement.Unmixed stamp earlier)
    (known : calls.find? placement.key = some call) (carried : placement.call.id = some id) :
    call.callId = id ∨
      call.callId = stamp.callId placement.key ∧
        placement.call = .indexed placement.key (some id) := by
  have before := leads.before
  have key := leads.key
  subst before
  obtain ⟨-, -, only⟩ := unmixed
  unfold Placement.expectedKey at key
  cases named : placement.call with
  | indexed index given =>
    rw [named] at carried only key
    obtain rfl : given = some id := carried
    dsimp only at key
    rw [key] at known ⊢
    rcases List.mem_pair.1 (only.1 call known) with same | generated
    · exact .inl same
    · exact .inr ⟨generated, rfl⟩
  | named given =>
    rw [named] at carried key
    obtain rfl : given = id := Option.some.inj carried
    dsimp only at key
    rw [key] at known
    exact .inl (named_key known).2
  | unnamed =>
    rw [named] at carried
    cases carried
  | functionCall given =>
    rw [named] at carried only key
    obtain rfl : given = id := Option.some.inj carried
    dsimp only at key
    rw [key] at known
    exact .inl (List.mem_singleton.1 (only.1.1 call known))

theorem Identified.together_last (identified : Identified stamp earlier calls)
    (leads : placement.Leads stamp calls next) (unmixed : placement.Unmixed stamp earlier)
    (oneToOne : OneToOne (earlier ++ [placement])) (fresh : FreshIds stamp (earlier ++ [placement]))
    {other : Placement} (member : other ∈ earlier) {id : String}
    (otherId : other.call.id = some id) (carried : placement.call.id = some id) :
    other.key = placement.key := by
  -- The call that has the id is the one of every earlier fragment with it.
  have owned : ∀ entry ∈ calls.entries, entry.2.callId = id → other.key = entry.1 := by
    intro entry isEntry same
    rcases identified.named entry.1 entry.2 (OrderedMap.find?_eq_some.2 isEntry) with
      generated | ⟨creator, earlierCreator, rightKey, rightId⟩
    · refine absurd ?_ (fresh.apart placement (by simp) entry.1)
      rw [carried, ← generated, same]
    · rw [same] at rightId
      rw [← rightKey]
      exact identified.together other member creator earlierCreator id otherId rightId
  have before := leads.before
  have key := leads.key
  subst before
  obtain ⟨-, -, only⟩ := unmixed
  unfold Placement.expectedKey at key
  cases named : placement.call with
  | indexed index given =>
    rw [named] at carried only key
    obtain rfl : given = some id := carried
    obtain ⟨call, stored, same | ⟨-, otherIndexed⟩⟩ := identified.stored other member id otherId
    · exact (only.2 _ (OrderedMap.find?_eq_some.1 stored) same).trans key.symm
    · refine Eq.trans ?_ key.symm
      exact (oneToOne other (by simp [member]) placement (by simp) _ _ id id otherIndexed named).2 rfl
  | named given =>
    rw [named] at carried only key
    obtain rfl : given = id := Option.some.inj carried
    obtain ⟨entry, isEntry, same⟩ := only other member otherId
    cases known : placement.before.callKeyById given with
    | none => exact absurd same (callKeyById_none.1 known entry isEntry)
    | some found =>
      obtain ⟨call, stored, sameId⟩ := callKeyById_some known
      dsimp only at key
      rw [key, known]
      exact owned (found, call) (OrderedMap.find?_eq_some.1 stored) sameId
  | unnamed =>
    rw [named] at carried
    cases carried
  | functionCall given =>
    rw [named] at carried only key
    obtain rfl : given = id := Option.some.inj carried
    obtain ⟨entry, isEntry, same⟩ := only.2 other member otherId
    rw [owned entry isEntry same, only.1.2 entry isEntry same, key]

theorem idAfter_of_some {call : ChatToolCallState} {key : Nat} {id : Option String}
    (filled : call.callId ≠ "") : idAfter stamp (some call) key id = call.callId :=
  if_neg filled

theorem Identified.storedId (identified : Identified stamp earlier calls)
    (unmixed : placement.Unmixed stamp earlier) (fresh : FreshIds stamp (earlier ++ [placement])) :
    let id := idAfter stamp (calls.find? placement.key) placement.key placement.call.id
    id ≠ "" ∧ (id = stamp.callId placement.key ∨
      ∃ other ∈ earlier ++ [placement], other.key = placement.key ∧ other.call.id = some id) := by
  cases known : calls.find? placement.key with
  | none =>
    cases carried : placement.call.id with
    | none => exact ⟨fresh.given placement.key, .inl rfl⟩
    | some id =>
      have filled : id ≠ "" := fun empty => unmixed.1 (empty ▸ carried)
      exact ⟨filled, .inr ⟨placement, by simp, rfl, carried⟩⟩
  | some call =>
    have filled := identified.filled placement.key call known
    rw [idAfter_of_some filled]
    refine ⟨filled, (identified.named placement.key call known).imp_right ?_⟩
    rintro ⟨other, member, sameKey, carried⟩
    exact ⟨other, List.mem_append_left _ member, sameKey, carried⟩

theorem Identified.step (identified : Identified stamp earlier calls)
    (leads : placement.Leads stamp calls next) (unmixed : placement.Unmixed stamp earlier)
    (oneToOne : OneToOne (earlier ++ [placement])) (fresh : FreshIds stamp (earlier ++ [placement])) :
    Identified stamp (earlier ++ [placement]) next := by
  obtain ⟨stored, rfl, storedId⟩ := leads.stored
  have owned := identified.storedId unmixed fresh
  rw [← storedId] at owned
  have atKey : (calls.put placement.key stored).find? placement.key = some stored :=
    OrderedMap.find?_put_self ..
  have elsewhere : ∀ key, key ≠ placement.key →
      (calls.put placement.key stored).find? key = calls.find? key := by
    intro key different
    rw [OrderedMap.find?_put, if_neg different.symm]
  constructor
  case filled =>
    intro key call found
    by_cases here : key = placement.key
    · subst here
      obtain rfl := Option.some.inj (atKey.symm.trans found)
      exact owned.1
    · rw [elsewhere key here] at found
      exact identified.filled key call found
  case named =>
    intro key call found
    by_cases here : key = placement.key
    · subst here
      obtain rfl := Option.some.inj (atKey.symm.trans found)
      exact owned.2
    · rw [elsewhere key here] at found
      refine (identified.named key call found).imp_right ?_
      rintro ⟨other, member, sameKey, carried⟩
      exact ⟨other, List.mem_append_left _ member, sameKey, carried⟩
  case stored =>
    intro other member id carried
    rcases List.mem_append.1 member with early | last
    · obtain ⟨call, known, names⟩ := identified.stored other early id carried
      by_cases here : other.key = placement.key
      · -- The call keeps its id, which is not empty.
        have kept : stored.callId = call.callId := by
          rw [storedId, ← here, known, idAfter_of_some (identified.filled other.key call known)]
        refine ⟨stored, here ▸ atKey, ?_⟩
        rw [kept]
        exact names
      · exact ⟨call, (elsewhere other.key here).trans known, names⟩
    · obtain rfl := List.mem_singleton.1 last
      refine ⟨stored, atKey, ?_⟩
      cases known : calls.find? other.key with
      | none =>
        rw [storedId, known, carried]
        exact .inl rfl
      | some call =>
        rw [storedId, known, idAfter_of_some (identified.filled other.key call known)]
        exact goes_to_own leads unmixed known carried
  case together =>
    intro first isFirst second isSecond id firstId secondId
    rcases List.mem_append.1 isFirst with early | last
    · rcases List.mem_append.1 isSecond with earlySecond | lastSecond
      · exact identified.together first early second earlySecond id firstId secondId
      · obtain rfl := List.mem_singleton.1 lastSecond
        exact identified.together_last leads unmixed oneToOne fresh early firstId secondId
    · obtain rfl := List.mem_singleton.1 last
      rcases List.mem_append.1 isSecond with earlySecond | lastSecond
      · exact (identified.together_last leads unmixed oneToOne fresh earlySecond secondId
          firstId).symm
      · obtain rfl := List.mem_singleton.1 lastSecond
        rfl

end Step

section Run

variable {stamp : ResponseStamp} {earlier placed : List Placement}
  {calls final : OrderedMap Nat ChatToolCallState}

theorem OneToOne.of_subset {part : List Placement} (oneToOne : OneToOne placed)
    (subset : part ⊆ placed) : OneToOne part :=
  fun first isFirst second isSecond => oneToOne first (subset isFirst) second (subset isSecond)

theorem FreshIds.of_subset {part : List Placement} (fresh : FreshIds stamp placed)
    (subset : part ⊆ placed) : FreshIds stamp part where
  given := fresh.given
  apart placement member := fresh.apart placement (subset member)

theorem Identified.run (identified : Identified stamp earlier calls)
    (chain : Chain stamp calls placed final)
    (unmixed : ∀ front placement later, placed = front ++ placement :: later →
      placement.Unmixed stamp (earlier ++ front))
    (oneToOne : OneToOne (earlier ++ placed)) (fresh : FreshIds stamp (earlier ++ placed)) :
    Identified stamp (earlier ++ placed) final := by
  induction chain generalizing earlier with
  | nil => simpa using identified
  | @cons calls next final placement rest leads later ih =>
    have here : placement.Unmixed stamp earlier := by
      simpa using unmixed [] placement rest rfl
    rw [List.append_cons] at oneToOne fresh ⊢
    have subset : earlier ++ [placement] ⊆ earlier ++ [placement] ++ rest :=
      List.subset_append_left ..
    have stepped := identified.step leads here (oneToOne.of_subset subset) (fresh.of_subset subset)
    refine ih stepped (fun front other after split => ?_) oneToOne fresh
    rw [← List.append_cons]
    exact unmixed (placement :: front) other after (by rw [split, List.cons_append])

theorem Identified.start : Identified stamp [] {} where
  filled := by simp
  named := by simp
  stored := by simp
  together := by simp

theorem Identified.apart (identified : Identified stamp placed final) (oneToOne : OneToOne placed)
    (fresh : FreshIds stamp placed) {first second : Placement} (isFirst : first ∈ placed)
    (isSecond : second ∈ placed) {id other : String} (sameKey : first.key = second.key)
    (firstId : first.call.id = some id) (secondId : second.call.id = some other) : id = other := by
  obtain ⟨call, known, names⟩ := identified.stored first isFirst id firstId
  obtain ⟨otherCall, otherKnown, otherNames⟩ := identified.stored second isSecond other secondId
  rw [sameKey] at known names
  obtain rfl := Option.some.inj (known.symm.trans otherKnown)
  rcases names with rfl | ⟨generated, indexed⟩
  · rcases otherNames with same | ⟨generated, -⟩
    · exact same
    · exact absurd (firstId.trans (congrArg some generated)) (fresh.apart first isFirst _)
  · rcases otherNames with rfl | ⟨-, otherIndexed⟩
    · exact absurd (secondId.trans (congrArg some generated)) (fresh.apart second isSecond _)
    · exact (oneToOne first isFirst second isSecond _ _ id other indexed otherIndexed).1 rfl

theorem Chain.key (chain : Chain stamp calls placed final) :
    ∀ placement ∈ placed, placement.key = placement.expectedKey := by
  induction chain with
  | nil => simp
  | cons leads later ih =>
    intro placement member
    rcases List.mem_cons.1 member with rfl | rest
    · exact leads.key
    · exact ih placement rest

theorem namesConflict_iff {first second : Option String} :
    (first.any (· ≠ "") && second.any (· ≠ "") && decide (first ≠ second)) = true ↔
      NamesConflict first second := by
  unfold NamesConflict
  cases first <;> cases second <;> simp [and_assoc]

theorem continuedKey_single {placement : Placement} {key : Nat} {call : ChatToolCallState}
    (single : placement.SingleOpen key call) :
    (NamesConflict placement.name call.name →
        placement.before.continuedKey placement.name = placement.before.nextFreeKey) ∧
      (¬ NamesConflict placement.name call.name →
        placement.before.continuedKey placement.name = key) := by
  unfold continuedKey
  rw [single]
  dsimp only
  rw [← namesConflict_iff]
  constructor
  · intro conflict
    rw [if_pos]
    simpa using conflict
  · intro conflict
    rw [if_neg]
    simpa using conflict

theorem allocates_key {placement : Placement} (key : placement.key = placement.expectedKey)
    (allocates : placement.Allocates) : placement.key = placement.before.nextFreeKey := by
  rw [key]
  unfold Placement.expectedKey
  unfold Placement.Allocates at allocates
  cases named : placement.call with
  | indexed index given =>
    rw [named] at allocates
    cases allocates
  | named id =>
    rw [named] at allocates
    dsimp only at allocates ⊢
    rw [callKeyById_none.2 allocates, Option.getD_none]
  | unnamed =>
    rw [named] at allocates
    dsimp only at allocates ⊢
    by_cases continuable : ∃ key call, placement.SingleOpen key call
    · obtain ⟨key, call, single⟩ := continuable
      exact (continuedKey_single single).1 (allocates key call single)
    · unfold continuedKey
      split
      next key call single => exact absurd ⟨key, call, single⟩ continuable
      · rfl
  | functionCall id =>
    rw [named] at allocates
    cases allocates

theorem identityKept_of_chain (chain : Chain stamp {} placed final) (oneToOne : OneToOne placed)
    (fresh : FreshIds stamp placed) (unmixed : UnmixedThroughout stamp placed) :
    IdentityKept placed := by
  have identified := Identified.start.run chain unmixed oneToOne fresh
  have keys := chain.key
  constructor
  case apart =>
    intro first isFirst second isSecond id other
    exact identified.apart oneToOne fresh isFirst isSecond
  case together => exact identified.together
  case continues =>
    intro placement member unnamed key call single agree
    rw [keys placement member, Placement.expectedKey, unnamed]
    exact (continuedKey_single single).2 agree
  case allocates =>
    intro placement member allocates
    obtain ⟨front, after, split⟩ := List.append_of_mem member
    rw [allocates_key (keys placement member) allocates]
    exact ⟨nextFreeKey_lt ((unmixed front placement after split).2.1 allocates),
      nextFreeKey_unused _⟩

end Run

end ChatGateway
